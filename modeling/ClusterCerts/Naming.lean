/-!
# Resource names

The names that belong to one cluster: its services and secrets, and the DNS names under
which services and pods are reached inside the Kubernetes cluster.
-/

namespace ClusterCerts

def defaultDomain : String := "cluster.local"

structure ClusterNaming where
  cluster : String
  space : String
  domain : String := defaultDomain
deriving DecidableEq, Repr

namespace ClusterNaming

variable (n : ClusterNaming)

def kafkaComponent : String := n.cluster ++ "-kafka"

def bootstrapService : String := n.cluster ++ "-kafka-bootstrap"

def brokersService : String := n.cluster ++ "-kafka-brokers"

def cruiseControlService : String := n.cluster ++ "-cruise-control"

def caCertSecret : String := n.cluster ++ "-cluster-ca-cert"

def caKeySecret : String := n.cluster ++ "-cluster-ca"

def serviceName (service : String) : String := service ++ "." ++ n.space ++ ".svc"

def qualifiedServiceName (service : String) : String :=
  service ++ "." ++ n.space ++ ".svc." ++ n.domain

def serviceNames (service : String) : List String :=
  [service, service ++ "." ++ n.space, n.serviceName service, n.qualifiedServiceName service]

def podName (service pod : String) : String := pod ++ "." ++ n.serviceName service

def qualifiedPodName (service pod : String) : String := pod ++ "." ++ n.qualifiedServiceName service

end ClusterNaming

example : (⟨"c", "ns", "cluster.local"⟩ : ClusterNaming).serviceNames "svc" =
    ["svc", "svc.ns", "svc.ns.svc", "svc.ns.svc.cluster.local"] := rfl

end ClusterCerts
