import ClusterCerts.Documents
import ClusterCerts.Workspace

/-!
# Documents in files

The request and the secret data of a reconciliation as files. New secret data is written next
to its place first and takes it when it is complete, so a failure leaves the old data as it
was.
-/

namespace ClusterCerts.DocumentFile

open Workspace

variable {m : Type → Type} [Monad m] [MonadExceptOf CommandError m] [Workspace m]

def read {α : Type} (decoder : Decoder α) (path : String) : m α := do
  match Decoder.ofText decoder (← readText path) with
  | .ok a => return a
  | .error fault => throw (.document path fault)

def readRequest (path : String) : m Request := do
  let request ← read Request.decoder path
  match request.fault? with
  | some fault => throw (.request fault)
  | none => return request

/-- The stored bundles; without a file there are none. -/
def readBundles (path : String) : m CertificateMap := do
  if !(← present path) then
    report [.noSecretData path]
    return ∅
  let data ← read SecretData.decoder path
  report data.decodeEvents
  return data.decode

def writeSecretData (path : String) (data : SecretData) : m Unit := do
  write (Path.draft path) (Bytes.ofString data.toJson.prettyText)
  rename (Path.draft path) path
  report [.secretDataWritten data.size path]

end ClusterCerts.DocumentFile
