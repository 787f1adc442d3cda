import ClusterCerts.Json.Decode
import ClusterCerts.Request
import ClusterCerts.SecretData

/-!
# Documents

The JSON forms of the types that are kept in files: each type has a writer and a reader, and
reading what was written gives the value back.
-/

namespace ClusterCerts

open Decoder

def stringSetJson (s : SortedSet String) : Json := .array (s.toList.map .ofString)

namespace Node

def toJson (n : Node) : Json :=
  .record [("pod_name", .ofString n.podName), ("node_id", .ofInt n.nodeId.toInt),
    ("controller", .bool n.controller), ("broker", .bool n.broker)]

def decoder : Decoder Node :=
  let t : RecordType := ⟨"NodeRef", 4⟩
  record t
    [.of "pod_name" string, .of "node_id" int32, .of "controller" boolean, .of "broker" boolean]
    fun fs => do
      let podName ← fs.required t 0 "pod_name" string
      let nodeId ← fs.required t 1 "node_id" int32
      let controller ← fs.defaulted t 2 "controller" boolean false
      let broker ← fs.defaulted t 3 "broker" boolean true
      return { podName, nodeId, controller, broker }

end Node

namespace ExternalAddresses

def toJson (e : ExternalAddresses) : Json :=
  .record [("bootstrap", stringSetJson e.bootstrap),
    ("per_node", .record (e.perNode.entries.map fun p => (toString p.1.toInt, stringSetJson p.2)))]

def decoder : Decoder ExternalAddresses :=
  let t : RecordType := ⟨"ExternalAddresses", 2⟩
  let perNode := map int32Key (set string)
  record t [.of "bootstrap" (set string), .of "per_node" perNode] fun fs => do
    let bootstrap ← fs.defaulted t 0 "bootstrap" (set string) ∅
    let perNode ← fs.defaulted t 1 "per_node" perNode ∅
    return { bootstrap, perNode }

end ExternalAddresses

namespace Address

def toJson (a : Address) : Json := .ofString a.text

def decoder : Decoder Address
  | .string raw => do
    let s ← keyText raw
    match read? s with
    | some a => return a
    | none => throw .invalidAddress
  | j => mismatch j "IP address"

end Address

namespace Subject

def toJson (s : Subject) : Json :=
  .record [("common_name", .ofString s.commonName),
    ("organization", (s.organization.map Json.ofString).getD .null),
    ("dns_names", stringSetJson s.dnsNames),
    ("ip_addresses", .array (s.addresses.toList.map Address.toJson))]

def decoder : Decoder Subject :=
  let t : RecordType := ⟨"Subject", 4⟩
  record t
    [.of "common_name" string, .of "organization" (nullable string), .of "dns_names" (set string),
     .of "ip_addresses" (set Address.decoder)]
    fun fs => do
      let commonName ← fs.required t 0 "common_name" string
      let organization ← fs.optional t 1 "organization" string
      let dnsNames ← fs.required t 2 "dns_names" (set string)
      let addresses ← fs.required t 3 "ip_addresses" (set Address.decoder)
      return { commonName, organization, dnsNames, addresses }

end Subject

namespace ClusterNaming

def toJson (n : ClusterNaming) : Json :=
  .record [("cluster_name", .ofString n.cluster), ("namespace", .ofString n.space),
    ("cluster_domain", .ofString n.domain)]

def decoder : Decoder ClusterNaming :=
  let t : RecordType := ⟨"ClusterNaming", 3⟩
  record t
    [.of "cluster_name" string, .of "namespace" string, .of "cluster_domain" string]
    fun fs => do
    let cluster ← fs.required t 0 "cluster_name" string
    let space ← fs.required t 1 "namespace" string
    let domain ← fs.required t 2 "cluster_domain" string
    return { cluster, space, domain }

end ClusterNaming

namespace CaSettings

def toJson (s : CaSettings) : Json :=
  .record [("display_name", .ofString s.displayName), ("name_prefix", .ofString s.label),
    ("cert_secret_name", .ofString s.certSecret), ("key_secret_name", .ofString s.keySecret),
    ("validity_days", .ofNat s.validityDays.toNat), ("renewal_days", .ofNat s.renewalDays.toNat),
    ("generate_ca", .bool s.selfManaged)]

def decoder : Decoder CaSettings :=
  let t : RecordType := ⟨"CaSettings", 7⟩
  record t
    [.of "display_name" string, .of "name_prefix" string, .of "cert_secret_name" string,
     .of "key_secret_name" string, .of "validity_days" uint32, .of "renewal_days" uint32,
     .of "generate_ca" boolean]
    fun fs => do
      let displayName ← fs.required t 0 "display_name" string
      let label ← fs.required t 1 "name_prefix" string
      let certSecret ← fs.required t 2 "cert_secret_name" string
      let keySecret ← fs.required t 3 "key_secret_name" string
      let validityDays ← fs.required t 4 "validity_days" uint32
      let renewalDays ← fs.required t 5 "renewal_days" uint32
      let selfManaged ← fs.required t 6 "generate_ca" boolean
      return { displayName, label, certSecret, keySecret, validityDays, renewalDays, selfManaged }

end CaSettings

namespace RenewalSignal

def toJson (s : RenewalSignal) : Json := .ofString s.name

def decoder : Decoder RenewalSignal := variant (all.map fun s => (s.name, s))

end RenewalSignal

namespace Component

def toJson (c : Component) : Json := .ofString c.name

def decoder : Decoder Component := variant ([kafka, cruiseControl].map fun c => (c.name, c))

end Component

namespace Request

def toJson (r : Request) : Json :=
  .record [("cluster", .ofString r.cluster), ("namespace", .ofString r.space),
    ("component", r.component.toJson), ("nodes", .array (r.nodes.map Node.toJson)),
    ("external_addresses", r.external.toJson), ("maintenance_window_open", .bool r.windowOpen),
    ("renewal_type", r.signal.toJson), ("validity_days", .ofNat r.validityDays.toNat),
    ("renewal_days", .ofNat r.renewalDays.toNat)]

def decoder : Decoder Request :=
  let t : RecordType := ⟨"ReconcileRequest", 9⟩
  record t
    [.of "cluster" string, .of "namespace" string, .of "component" Component.decoder,
     .of "nodes" (list Node.decoder), .of "external_addresses" ExternalAddresses.decoder,
     .of "maintenance_window_open" boolean, .of "renewal_type" RenewalSignal.decoder,
     .of "validity_days" uint32, .of "renewal_days" uint32]
    fun fs => do
      let cluster ← fs.required t 0 "cluster" string
      let space ← fs.required t 1 "namespace" string
      let component ← fs.defaulted t 2 "component" Component.decoder .kafka
      let nodes ← fs.defaulted t 3 "nodes" (list Node.decoder) []
      let external ← fs.defaulted t 4 "external_addresses" ExternalAddresses.decoder {}
      let windowOpen ← fs.defaulted t 5 "maintenance_window_open" boolean false
      let signal ← fs.defaulted t 6 "renewal_type" RenewalSignal.decoder .noRenewal
      let validityDays ← fs.defaulted t 7 "validity_days" uint32 defaultValidityDays
      let renewalDays ← fs.defaulted t 8 "renewal_days" uint32 defaultRenewalDays
      return { cluster, space, component, nodes, external, windowOpen, signal, validityDays,
               renewalDays }

end Request

namespace SecretData

def toJson (d : SecretData) : Json := .record (d.entries.map fun e => (e.1, .ofString e.2))

def decoder : Decoder SecretData := map keyText string

end SecretData
end ClusterCerts
