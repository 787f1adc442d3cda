import ClusterCerts.Arguments
import ClusterCerts.CaDirectory
import ClusterCerts.Cycle
import ClusterCerts.DocumentFile

/-!
# Commands

A command line that was read is run in a workspace, and what it has to say is written in the
format that was asked for. One reconciliation goes from the request, the CA and the secret
data of the last time to new secret data.
-/

namespace ClusterCerts

variable {m : Type → Type} [Monad m] [MonadExceptOf CommandError m] [Workspace m]

def podRow (pod : String) (action : Action) : PodRow :=
  { pod, action := action.name, reasons := action.reasons.map Reason.text }

def cycleReport (settings : CaSettings) (r : Reconciled) (writtenTo : Option String) :
    CycleReport where
  caName := settings.displayName
  certSecret := settings.certSecret
  keySecret := settings.keySecret
  pods := r.actions.entries.map fun e => podRow e.1 e.2
  writtenTo := writtenTo

/-- A reconciliation of what is stored, of which nothing is written yet. -/
def reconcileStored (domain ca requestPath : String) (existing : Option String) :
    m (CaSettings × Reconciled) := do
  let request ← DocumentFile.readRequest requestPath
  let settings := request.settings domain
  let managed := (ManagedCa.ofAuthority settings (← CaDirectory.load ca)).withSignal request.signal
  let existing ← match existing with
    | some path => DocumentFile.readBundles path
    | none => pure ∅
  let clock ← Workspace.now
  let reconciled ← Workspace.perform (request.component.reconcile (request.naming domain)
    request.external (managed.anchor clock) existing request.windowOpen request.nodes)
  return (settings, reconciled)

def reconcileFiles (domain ca requestPath : String) (existing out : Option String) :
    m CycleReport := do
  let (settings, reconciled) ← reconcileStored domain ca requestPath existing
  if let some path := out then
    DocumentFile.writeSecretData path (SecretData.encode reconciled.certs)
  return cycleReport settings reconciled out

def Command.run (domain : String) : Command → m Report
  | initCa out name validityDays force =>
    .authority <$> CaDirectory.create out name validityDays force
  | reconcile ca request existing out => .cycle <$> reconcileFiles domain ca request existing out
  | prune ca selfManaged => .prune <$> CaDirectory.prune ca selfManaged

def Invocation.run (i : Invocation) : m String := do
  return (← i.command.run i.domain).text i.format

end ClusterCerts
