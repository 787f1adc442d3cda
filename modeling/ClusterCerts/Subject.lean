import ClusterCerts.Address.Text
import ClusterCerts.Order.SortedSet

/-!
# Subjects

The identity that a certificate is asked for: a common name, an organization, and the DNS
names and addresses under which the node is reached. An address given as text is an IP
address if it reads as a literal and a DNS name otherwise.
-/

namespace ClusterCerts

structure Subject where
  commonName : String
  organization : Option String := none
  dnsNames : SortedSet String := ∅
  addresses : SortedSet Address := ∅
deriving DecidableEq

namespace Subject

def altNames (s : Subject) : SortedSet String :=
  s.dnsNames.insertAll (s.addresses.toList.map Address.text)

inductive Step
  | organization (name : String)
  | dns (name : String)
  | dnsNames (names : List String)
  | ip (address : Address)
  | address (text : String)
  | addresses (texts : List String)

def addDns (s : Subject) (name : String) : Subject := { s with dnsNames := s.dnsNames.insert name }

def addIp (s : Subject) (address : Address) : Subject :=
  { s with addresses := s.addresses.insert address }

def addAddress (s : Subject) (text : String) : Subject :=
  match Address.readLiteral? text with
  | some address => s.addIp address
  | none => s.addDns text

def apply (s : Subject) : Step → Subject
  | .organization name => { s with organization := some name }
  | .dns name => s.addDns name
  | .dnsNames names => names.foldl addDns s
  | .ip address => s.addIp address
  | .address text => s.addAddress text
  | .addresses texts => texts.foldl addAddress s

def build (commonName : String) (steps : List Step) : Subject :=
  steps.foldl apply { commonName }

end Subject
end ClusterCerts
