import ClusterCerts.Bundle
import ClusterCerts.Outcome
import ClusterCerts.Subject

/-!
# Trust anchors

All that a reconciliation needs of a CA: its renewal signal, whether it takes a certificate to
be close to its end, and a way to have a subject signed. Signing may depend on a state and
change it; the other answers stay the same throughout a reconciliation.
-/

namespace ClusterCerts

structure Anchor (σ : Type) where
  signal : RenewalSignal
  renewing : Bool := signal.replacesAll
  isExpiring : Bytes → Bool
  expiryEvents : Bytes → List Event := fun _ => []
  sign : Subject → σ → Outcome σ Bundle

end ClusterCerts
