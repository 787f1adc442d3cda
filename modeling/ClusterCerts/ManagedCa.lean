import ClusterCerts.Anchor
import ClusterCerts.Authority
import ClusterCerts.Retired
import ClusterCerts.Settings

/-!
# Managed CAs

A signing authority with its settings, the renewal signal of the cycle and the store of the CA
certificates that are trusted. A CA that the operator made itself has retired certificates
removed from its store; the store of a CA supplied by a user is never touched.
-/

namespace ClusterCerts

structure ManagedCa where
  settings : CaSettings
  authority : Authority
  signal : RenewalSignal := .noRenewal
  store : CaStore
  /-- Retired certificates were removed from the store at some time. -/
  pruned : Bool := false
deriving DecidableEq

namespace ManagedCa

def ofAuthority (settings : CaSettings) (authority : Authority) : ManagedCa where
  settings := settings
  authority := authority
  store := .ofList [(currentCertEntry, Bytes.ofString authority.certPem)]

def withSignal (ca : ManagedCa) (signal : RenewalSignal) : ManagedCa := { ca with signal }

def withStore (ca : ManagedCa) (store : CaStore) : ManagedCa := { ca with store }

def prunable (ca : ManagedCa) : List String := ca.store.prunable ca.settings.selfManaged

def prune (ca : ManagedCa) : ManagedCa :=
  { ca with
    store := ca.store.prune ca.settings.selfManaged
    pruned := ca.pruned || !ca.prunable.isEmpty }

def pruneEvents (ca : ManagedCa) : List Event :=
  ca.prunable.map .removingRetired ++
    if ca.prunable.isEmpty then [] else [.retiredRemoved ca.settings.label]

/-- A certificate that cannot be read is not taken to be close to its end. -/
def isExpiringAt (ca : ManagedCa) (cert : Bytes) (now : Instant) : Bool :=
  match Stored.isExpiringAt cert ca.settings.renewalDays now with
  | .ok expiring => expiring
  | .error _ => false

def expiryEvents (ca : ManagedCa) (cert : Bytes) (now : Instant) : List Event :=
  match Stored.isExpiringAt cert ca.settings.renewalDays now with
  | .ok _ => []
  | .error cause => [.expiryUnknown ca.settings.label cause]

def anchor (ca : ManagedCa) (now : Instant) : Anchor Entropy where
  signal := ca.signal
  isExpiring cert := ca.isExpiringAt cert now
  expiryEvents cert := ca.expiryEvents cert now
  sign s e := ca.authority.issue s ca.settings.validityDays now e

end ManagedCa
end ClusterCerts
