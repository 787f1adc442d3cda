/-!
# Renewal signals

Whether and why the signing material of the cluster changed since the last reconciliation.
-/

namespace ClusterCerts

inductive RenewalSignal
  | noRenewal
  | postponed
  | created
  | certRenewed
  | keyReplaced
deriving DecidableEq, Repr

namespace RenewalSignal

def all : List RenewalSignal := [noRenewal, postponed, created, certRenewed, keyReplaced]

def name : RenewalSignal → String
  | noRenewal => "no-renewal"
  | postponed => "postponed"
  | created => "created"
  | certRenewed => "cert-renewed"
  | keyReplaced => "key-replaced"

def replacesAll : RenewalSignal → Bool
  | certRenewed | keyReplaced => true
  | noRenewal | postponed | created => false

end RenewalSignal
end ClusterCerts
