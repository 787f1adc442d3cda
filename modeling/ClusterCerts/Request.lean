import ClusterCerts.Listeners
import ClusterCerts.Settings
import ClusterCerts.Signal

/-!
# Requests

What one reconciliation is asked to do. A request names its cluster, keeps validity within
bounds, renews before the end of validity and lists no pod twice.
-/

namespace ClusterCerts

structure Request where
  cluster : String
  space : String
  component : Component := .kafka
  nodes : List Node := []
  external : ExternalAddresses := {}
  /-- Certificates near their end may be replaced now. -/
  windowOpen : Bool := false
  signal : RenewalSignal := .noRenewal
  validityDays : UInt32 := defaultValidityDays
  renewalDays : UInt32 := defaultRenewalDays
deriving DecidableEq

def maxValidityDays : UInt32 := 36500

inductive RequestFault
  | unnamed
  | validityOutOfBounds (days : UInt32)
  | renewalTooEarly (renewal validity : UInt32)
  | podTwice (pod : String)
deriving DecidableEq, Repr

def RequestFault.detail : RequestFault → String
  | unnamed => "cluster and namespace must be set"
  | validityOutOfBounds days =>
    "validity_days must be between 1 and " ++ toString maxValidityDays.toNat ++ ", got " ++
      toString days.toNat
  | renewalTooEarly renewal validity =>
    "renewal_days (" ++ toString renewal.toNat ++ ") must be less than validity_days (" ++
      toString validity.toNat ++ ")"
  | podTwice pod => "pod " ++ pod ++ " listed twice"

namespace Request

def fault? (r : Request) : Option RequestFault :=
  if r.cluster = "" ∨ r.space = "" then some .unnamed
  else if r.validityDays = 0 ∨ maxValidityDays < r.validityDays then
    some (.validityOutOfBounds r.validityDays)
  else if r.validityDays ≤ r.renewalDays then some (.renewalTooEarly r.renewalDays r.validityDays)
  else (Node.firstDuplicate? r.nodes).map .podTwice

def naming (r : Request) (domain : String) : ClusterNaming := ⟨r.cluster, r.space, domain⟩

def settings (r : Request) (domain : String) : CaSettings :=
  (CaSettings.clusterCa (r.naming domain)).withValidity r.validityDays r.renewalDays

end Request
end ClusterCerts
