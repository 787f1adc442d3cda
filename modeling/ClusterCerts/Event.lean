import ClusterCerts.Action
import ClusterCerts.Error
import ClusterCerts.Node
import ClusterCerts.Signal
import ClusterCerts.Text.Quoted

/-!
# Events

What the operations report while they run: a level and a message. An event carries names,
sets of names and errors, and never a key or a password.
-/

namespace ClusterCerts

inductive Level
  | trace
  | debug
  | info
deriving DecidableEq, Repr

def Level.name : Level → String
  | trace => "TRACE"
  | debug => "DEBUG"
  | info => "INFO"

inductive Event
  | certUnreadable (cause : NamesFault)
  | altNamesMatch (pod : String)
  | altNamesDiffer (pod : String)
  | currentAltNames (names : Option (SortedSet String))
  | desiredAltNames (names : SortedSet String)
  | entryNotBase64 (entry pod : String)
  | secretIncomplete (pod : String)
  | passwordNotText (pod : String)
  | removingRetired (name : String)
  | retiredRemoved (ca : String)
  | expiryUnknown (ca : String) (cause : Error)
  | creatingAuthority (name : String)
  | authorityCreated
  | issuing (commonName : String)
  | reconcilingBrokers
  | reconcilingCruiseControl
  | alreadyIssued (node : Node)
  | regenerating (pod : String) (reasons : List Reason)
  | renewing (node : Node) (signal : RenewalSignal)
  | issuingFirst (node : Node)
  | waitingForWindow (pod : String)
  | readingCert (name : String)
  | authorityWritten (name directory : String)
  | keptReplaced (name : String)
  | removedRetired (name : String)
  | noSecretData (path : String)
  | secretDataWritten (entries : Nat) (path : String)
deriving DecidableEq

namespace Event

def level : Event → Level
  | altNamesMatch _ => .trace
  | altNamesDiffer _ | currentAltNames _ | desiredAltNames _ | entryNotBase64 .. | passwordNotText _
  | retiredRemoved _ | creatingAuthority _ | regenerating .. | authorityWritten .. | keptReplaced _
  | removedRetired _ | secretDataWritten .. => .info
  | _ => .debug

def message : Event → String
  | certUnreadable (.envelope cause) => "Failed to parse existing certificate: " ++ cause.message
  -- The words of the certificate reader, which come after a colon here, are not modelled.
  | certUnreadable .certificate | certUnreadable .extension =>
      "Failed to parse existing certificate"
  | altNamesMatch pod => "Alternate subjects match. No need to refresh cert for pod " ++ pod ++ "."
  | altNamesDiffer pod => "Alternate subjects for pod " ++ pod ++ " differ"
  | currentAltNames none => "Current alternate subjects: unknown (certificate unreadable)"
  | currentAltNames (some names) => "Current alternate subjects: " ++ Text.quotedSet names
  | desiredAltNames names => "Desired alternate subjects: " ++ Text.quotedSet names
  | entryNotBase64 entry pod =>
    "Entry " ++ entry ++ " is not valid base64, dropping stored certificate of pod " ++ pod
  | secretIncomplete pod => "Secret data for pod " ++ pod ++ " is incomplete, ignoring it"
  | passwordNotText pod =>
    "Key store password of pod " ++ pod ++ " is not UTF-8, dropping stored certificate"
  | removingRetired name => "Removing old CA certificate " ++ name
  | retiredRemoved ca => ca ++ ": Old CA certificates removed"
  | expiryUnknown ca cause => ca ++ ": Cannot determine certificate expiry: " ++ cause.message
  | creatingAuthority name => "Creating new Certificate Authority: " ++ name
  | authorityCreated => "CA root certificate created successfully"
  | issuing commonName => "Issuing certificate for: " ++ commonName
  | reconcilingBrokers => "Reconciling kafka broker certificates"
  | reconcilingCruiseControl => "Reconciling Cruise Control certificates"
  | alreadyIssued node => "Certificate for node " ++ node.text ++ " already exists"
  | regenerating pod reasons =>
    "Certificate for pod " ++ pod ++ " need to be regenerated because: " ++
      ", ".intercalate (reasons.map Reason.text)
  | renewing node signal =>
    "Generating new certificate for node " ++ node.text ++ " (CA renewal: " ++ signal.name ++ ")"
  | issuingFirst node => "Generating new certificate for node " ++ node.text
  | waitingForWindow pod =>
    "Certificate for pod " ++ pod ++ " is expiring, waiting for the maintenance window"
  | readingCert name => "Reading CA certificate " ++ name
  | authorityWritten name directory => "Wrote CA " ++ name ++ " to " ++ directory
  | keptReplaced name => "Kept replaced CA certificate as " ++ name
  | removedRetired name => "Removed " ++ name
  | noSecretData path => "No existing secret data at " ++ path
  | secretDataWritten entries path =>
    "Wrote secret data for " ++ toString entries ++ " entries to " ++ path

def line (e : Event) : String := e.level.name ++ " " ++ e.message

end Event
end ClusterCerts
