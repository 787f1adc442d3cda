import ClusterCerts.Main
import ClusterCerts.Proofs.Cycle.Decisions
import ClusterCerts.Proofs.SecretData.RoundTrip
import ClusterCerts.Proofs.SecretData.Reading
import ClusterCerts.Proofs.Cycle.Fixpoint
import ClusterCerts.Proofs.Cycle.Listeners
import ClusterCerts.Proofs.Calendar.DayNumber
import ClusterCerts.Proofs.Der.Elements
import ClusterCerts.Proofs.Der.Time
import ClusterCerts.Proofs.Pem.RoundTrip
import ClusterCerts.Proofs.Certificate.Reading
import ClusterCerts.Proofs.Certificate.AltNames
import ClusterCerts.Proofs.Authority.Issue
import ClusterCerts.Proofs.Pem.Block
import ClusterCerts.Proofs.Certificate.Issuer
import ClusterCerts.Proofs.Authority.Chain
import ClusterCerts.Proofs.Authority.Refusals
import ClusterCerts.Proofs.Files.Walks
import ClusterCerts.Proofs.Files.Places
import ClusterCerts.Proofs.Files.Changes
import ClusterCerts.Proofs.Files.Entries
import ClusterCerts.Proofs.Files.Making
import ClusterCerts.Proofs.Files.Drafts
import ClusterCerts.Proofs.Files.Overwriting
import ClusterCerts.Proofs.Files.Trees
import ClusterCerts.Proofs.Files.Listing
import ClusterCerts.Proofs.CaDirectory.Names
import ClusterCerts.Proofs.CaDirectory.Create
import ClusterCerts.Proofs.CaDirectory.Replacement
import ClusterCerts.Proofs.CaDirectory.Unforced
import ClusterCerts.Proofs.Json.Reading
import ClusterCerts.Proofs.SecretData.Document
import ClusterCerts.Proofs.CaDirectory.Pruning
import ClusterCerts.Proofs.Commands.Alike
import ClusterCerts.Proofs.CaDirectory.History
import ClusterCerts.Proofs.DocumentFile.Storing
import ClusterCerts.Proofs.Commands.Reconcile
import ClusterCerts.Proofs.Commands.AllOrNothing
import ClusterCerts.Proofs.Address.Digits
import ClusterCerts.Proofs.Address.Spellings
import ClusterCerts.Proofs.Address.Reading
import ClusterCerts.Proofs.Subject.Names
import ClusterCerts.Proofs.Subject.Kinds
import ClusterCerts.Proofs.Cycle.PodBinding
import ClusterCerts.Proofs.Cycle.Independence
import ClusterCerts.Proofs.Cycle.Signatures
import ClusterCerts.Proofs.Cycle.Refusals
import ClusterCerts.Proofs.Commands.Refusals
import ClusterCerts.Proofs.ManagedCa.Horizon
import ClusterCerts.Proofs.ManagedCa.Store
import ClusterCerts.Proofs.Cycle.Secrets
import ClusterCerts.Proofs.ManagedCa.Unreadable
import ClusterCerts.Proofs.Json.RoundTrip
import ClusterCerts.Proofs.Json.Decoding
import ClusterCerts.Proofs.Documents.RoundTrip
import ClusterCerts.Proofs.Authority.Window
import ClusterCerts.Proofs.Text.ByteOrder
import ClusterCerts.Proofs.Authority.Precedence
import ClusterCerts.Proofs.Calendar.Order
import ClusterCerts.Proofs.ManagedCa.Expiry
import ClusterCerts.Proofs.CaDirectory.RetiredOrder
import ClusterCerts.Proofs.Subject.Building
import ClusterCerts.Proofs.Node.PodNames
import ClusterCerts.Proofs.Pem.Spellings
import ClusterCerts.Proofs.Certificate.Forms
