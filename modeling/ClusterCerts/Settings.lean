import ClusterCerts.Naming

/-!
# CA settings

What sets one managed CA apart from another: its names, its secrets, and how long what it
signs is valid.
-/

namespace ClusterCerts

structure CaSettings where
  displayName : String
  label : String
  certSecret : String
  keySecret : String
  validityDays : UInt32
  renewalDays : UInt32
  /-- The operator made the CA; one supplied by a user is never touched. -/
  selfManaged : Bool
deriving DecidableEq, Repr

def defaultValidityDays : UInt32 := 365

def defaultRenewalDays : UInt32 := 30

namespace CaSettings

def clusterCa (n : ClusterNaming) : CaSettings where
  displayName := "Cluster CA"
  label := "cluster-ca"
  certSecret := n.caCertSecret
  keySecret := n.caKeySecret
  validityDays := defaultValidityDays
  renewalDays := defaultRenewalDays
  selfManaged := true

def withValidity (s : CaSettings) (validityDays renewalDays : UInt32) : CaSettings :=
  { s with validityDays, renewalDays }

def userSupplied (s : CaSettings) : CaSettings := { s with selfManaged := false }

end CaSettings
end ClusterCerts
