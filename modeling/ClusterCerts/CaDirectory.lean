import ClusterCerts.ManagedCa
import ClusterCerts.Report
import ClusterCerts.Workspace

/-!
# CA directories

A CA lives in a directory: its certificate, its key, which only the owner may read, and the
certificates that it replaced. A new CA takes the place of another only by force, and then the
certificate of the other is kept under a retired name until it is pruned.
-/

namespace ClusterCerts.CaDirectory

open Workspace

variable {m : Type → Type} [Monad m] [MonadExceptOf CommandError m] [Workspace m]

def keyEntry : String := "ca.key"

def certPath (dir : String) : String := Path.join dir currentCertEntry

def keyPath (dir : String) : String := Path.join dir keyEntry

def load (dir : String) : m Authority := do
  if !((← isFile (certPath dir)) && (← isFile (keyPath dir))) then throw (.noAuthority dir)
  let certPem ← readText (certPath dir)
  let keyPem ← readText (keyPath dir)
  orThrow (Authority.load certPem keyPem)

def save (dir : String) (a : Authority) : m Unit := do
  write (certPath dir) (Bytes.ofString a.certPem)
  write (keyPath dir) a.privateKey.pem
  restrict (keyPath dir)

def retireCert (dir : String) (force : Bool) : m (Option String) := do
  let cert := certPath dir
  if !(← present cert) then return none
  if !force then throw (.authorityPresent dir)
  let name := Retired.name (← now)
  rename cert (Path.join dir name)
  report [.keptReplaced name]
  return some name

def create (dir name : String) (validityDays : UInt32) (force : Bool) : m AuthorityReport := do
  makeDirectories dir
  let replaced ← retireCert dir force
  let clock ← now
  let ca ← perform (Authority.create name validityDays clock)
  save dir ca
  report [.authorityWritten ca.name dir]
  return { name := ca.name, directory := dir, validityDays, replaced }

def isCertName (name : String) : Bool := ".crt".toList.isSuffixOf name.toList

/-- The files that are certificates by their names. A name that is no text is passed over. -/
def readStore (dir : String) : m CaStore := do
  let names := ((← fileNames dir).filterMap EntryName.text?).filter isCertName
  let entries ← names.mapM fun name => do
    report [.readingCert name]
    return (name, ← read (Path.join dir name))
  return .ofList entries

def prune (dir : String) (selfManaged : Bool) : m PruneReport := do
  let store ← readStore dir
  let removed := store.prunable selfManaged
  report (removed.map .removingRetired)
  for name in removed do
    remove (Path.join dir name)
    report [.removedRetired name]
  return { removed, kept := (store.prune selfManaged).keys }

end ClusterCerts.CaDirectory
