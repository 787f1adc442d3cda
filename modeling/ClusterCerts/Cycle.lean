import ClusterCerts.Anchor
import ClusterCerts.Certificate.Stored
import ClusterCerts.Listeners

/-!
# Reconciliation cycles

A cycle decides for each node whether its stored certificate stays, is replaced, or is issued
for the first time. Staying is the rule, since a new certificate restarts its pod. The nodes
are planned one by one and independently; a signature that fails ends the whole cycle without
certificates, so old and new material are never mixed.
-/

namespace ClusterCerts

inductive Plan
  | keep (bundle : Bundle)
  | sign (action : Action)
deriving DecidableEq

structure Reconciled where
  certs : CertificateMap
  actions : SortedMap String Action
deriving DecidableEq

def Reconciled.changedPods (r : Reconciled) : List String :=
  (r.actions.filter fun _ a => a.changes).keys

structure Cycle (σ : Type) where
  anchor : Anchor σ
  subject : Node → Subject
  existing : CertificateMap := ∅
  windowOpen : Bool := false

namespace Cycle

variable {σ : Type} (c : Cycle σ)

def reasons (cert : Bytes) (desired : Subject) : List Reason :=
  (if Stored.subjectChanged cert desired then [.subjectChanged] else []) ++
  (if c.anchor.isExpiring cert && c.windowOpen then [.expiring] else []) ++
  if c.anchor.signal = .created then [.certificateAdded] else []

def plan (desired : Subject) : Option Bundle → Plan
  | none => .sign .issued
  | some current =>
    if c.anchor.renewing then .sign .renewed
    else match c.reasons current.cert desired with
      | [] => .keep current
      | rs => .sign (.regenerated rs)

def reasonEvents (n : Node) (cert : Bytes) (desired : Subject) : List Event :=
  Stored.comparisonEvents cert desired n.podName ++ c.anchor.expiryEvents cert ++
  if c.anchor.isExpiring cert && !c.windowOpen then [.waitingForWindow n.podName] else []

def planEvents (n : Node) (desired : Subject) : Option Bundle → List Event
  | none => [.issuingFirst n]
  | some current =>
    if c.anchor.renewing then [.renewing n c.anchor.signal]
    else .alreadyIssued n :: c.reasonEvents n current.cert desired ++
      match c.reasons current.cert desired with
      | [] => []
      | rs => [.regenerating n.podName rs]

def carryOut (desired : Subject) (s : σ) : Plan → Outcome σ (Bundle × Action)
  | .keep bundle => ⟨.ok (bundle, .reused), [], s⟩
  | .sign action => (c.anchor.sign desired s).map (·, action)

def settle (n : Node) (s : σ) : Outcome σ (Bundle × Action) :=
  let desired := c.subject n
  let current := c.existing.get? n.podName
  (c.carryOut desired s (c.plan desired current)).after (c.planEvents n desired current)

def settleAll : List Node → σ → Outcome σ (List (String × Bundle × Action))
  | [], s => ⟨.ok [], [], s⟩
  | n :: ns, s =>
    (c.settle n s).bind fun done s => (settleAll ns s).map ((n.podName, done) :: ·)

/-- Reconciles the nodes, none of which may share a pod name with another. -/
def run (nodes : List Node) (s : σ) : Outcome σ Reconciled :=
  match Node.firstDuplicate? nodes with
  | some pod => .fail (.validation (.duplicatePod pod)) s
  | none => (c.settleAll nodes s).map fun done =>
    { certs := .ofList (done.map fun d => (d.1, d.2.1))
      actions := .ofList (done.map fun d => (d.1, d.2.2)) }

end Cycle

def Component.announcement : Component → Event
  | kafka => .reconcilingBrokers
  | cruiseControl => .reconcilingCruiseControl

def Component.reconcile {σ : Type} (c : Component) (naming : ClusterNaming)
    (external : ExternalAddresses) (anchor : Anchor σ) (existing : CertificateMap)
    (windowOpen : Bool) (nodes : List Node) (s : σ) : Outcome σ Reconciled :=
  let cycle : Cycle σ := { anchor, subject := c.subject naming external, existing, windowOpen }
  (cycle.run nodes s).after [c.announcement]

end ClusterCerts
