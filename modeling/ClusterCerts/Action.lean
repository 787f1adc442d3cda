/-!
# Actions

What a reconciliation did with the certificate of a pod, and why it replaced one.
-/

namespace ClusterCerts

inductive Reason
  | subjectChanged
  | expiring
  | certificateAdded
deriving DecidableEq, Repr

def Reason.text : Reason → String
  | subjectChanged => "DNS names changed"
  | expiring => "certificate is expiring"
  | certificateAdded => "certificate added"

inductive Action
  | reused
  | issued
  | renewed
  | regenerated (reasons : List Reason)
deriving DecidableEq, Repr

namespace Action

def name : Action → String
  | reused => "reused"
  | issued => "issued"
  | renewed => "renewed"
  | regenerated _ => "regenerated"

def reasons : Action → List Reason
  | regenerated reasons => reasons
  | _ => []

def changes (a : Action) : Bool := a != reused

def text : Action → String
  | renewed => "renewed (CA renewal)"
  | regenerated reasons => "regenerated (" ++ ", ".intercalate (reasons.map Reason.text) ++ ")"
  | a => a.name

end Action
end ClusterCerts
