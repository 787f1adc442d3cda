import ClusterCerts.Naming
import ClusterCerts.Node
import ClusterCerts.Order.SortedMap
import ClusterCerts.Subject

/-!
# Node subjects

The subject of each node. Brokers are also reached through external listeners, at addresses
shared by all and at addresses of their own; a node without the broker role never gets those,
so a change of listeners does not touch it.
-/

namespace ClusterCerts

structure ExternalAddresses where
  bootstrap : SortedSet String := ∅
  perNode : SortedMap Int32 (SortedSet String) := ∅
deriving DecidableEq

namespace ExternalAddresses

def isEmpty (e : ExternalAddresses) : Bool :=
  e.bootstrap.isEmpty && e.perNode.values.all SortedSet.isEmpty

def addressesOf (e : ExternalAddresses) (n : Node) : List String :=
  if n.broker then
    e.bootstrap.toList ++ ((e.perNode.get? n.nodeId).map SortedSet.toList).getD []
  else []

end ExternalAddresses

def organizationName : String := "cluster-operator"

def brokerSubject (naming : ClusterNaming) (external : ExternalAddresses) (n : Node) : Subject :=
  Subject.build naming.kafkaComponent
    [.organization organizationName,
     .dnsNames (naming.serviceNames naming.bootstrapService),
     .dnsNames (naming.serviceNames naming.brokersService),
     .dns (naming.qualifiedPodName naming.brokersService n.podName),
     .dns (naming.podName naming.brokersService n.podName),
     .addresses (external.addressesOf n)]

def cruiseControlSubject (naming : ClusterNaming) (_ : Node) : Subject :=
  Subject.build naming.cruiseControlService
    [.organization organizationName,
     .dnsNames (naming.serviceNames naming.cruiseControlService),
     .dns "localhost"]

inductive Component
  | kafka
  | cruiseControl
deriving DecidableEq, Repr

namespace Component

def name : Component → String
  | kafka => "kafka"
  | cruiseControl => "cruise-control"

def subject (c : Component) (naming : ClusterNaming) (external : ExternalAddresses) (n : Node) :
    Subject :=
  match c with
  | kafka => brokerSubject naming external n
  | cruiseControl => cruiseControlSubject naming n

end Component
end ClusterCerts
