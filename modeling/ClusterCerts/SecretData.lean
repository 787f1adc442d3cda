import ClusterCerts.Bundle
import ClusterCerts.Event
import ClusterCerts.Text.Base64
import ClusterCerts.Text.Fields

/-!
# Secret data

The stored form of the bundles of a component: four entries in base64 for each pod, named by
the pod and what they hold. The two entries of the key store may be missing together. Reading
is local to a pod: its bundle depends on its own four entries alone, and one that is corrupt
or missing drops the bundle, so that a fresh certificate is issued.
-/

namespace ClusterCerts

abbrev SecretData := SortedMap String String

inductive EntryKind
  | crt
  | key
  | p12
  | password
deriving DecidableEq, Repr

def EntryKind.all : List EntryKind := [crt, key, p12, password]

def EntryKind.suffix : EntryKind → String
  | crt => "crt"
  | key => "key"
  | p12 => "p12"
  | password => "password"

def EntryKind.ofSuffix? (s : String) : Option EntryKind := all.find? fun k => k.suffix = s

namespace SecretData

def entryName (pod : String) (k : EntryKind) : String := pod ++ "." ++ k.suffix

/-- The pod and the kind that an entry name spells; the last dot parts them. -/
def podAndKind? (name : String) : Option (String × EntryKind) := do
  let (pod, suffix) ← Text.splitLast? '.' name.toList
  let kind ← EntryKind.ofSuffix? (String.ofList suffix)
  return (String.ofList pod, kind)

def entriesOf (pod : String) (b : Bundle) : List (String × String) :=
  (entryName pod .crt, Base64.encodeString b.cert) ::
  (entryName pod .key, Base64.encodeString b.key.pem) ::
  match b.keyStore with
  | none => []
  | some s =>
    [(entryName pod .p12, Base64.encodeString s.bytes),
     (entryName pod .password, Base64.encodeString (Bytes.ofString s.password))]

def encode (certs : CertificateMap) : SecretData :=
  SortedMap.ofList (certs.entries.flatMap fun e => entriesOf e.1 e.2)

inductive Fault
  | corrupt
  | incomplete
  | password
deriving DecidableEq, Repr

def isCorrupt (data : SecretData) (pod : String) (k : EntryKind) : Bool :=
  match data.get? (entryName pod k) with
  | some text => (Base64.decodeString? text).isNone
  | none => false

def bytes? (data : SecretData) (pod : String) (k : EntryKind) : Option Bytes :=
  (data.get? (entryName pod k)).bind Base64.decodeString?

def bundle (data : SecretData) (pod : String) : Except Fault Bundle :=
  if EntryKind.all.any (isCorrupt data pod) then .error .corrupt
  else match bytes? data pod .crt, bytes? data pod .key with
    | some cert, some key =>
      match bytes? data pod .p12, bytes? data pod .password with
      | some bytes, some password =>
        match Bytes.toString? password with
        | some password => .ok { key := ⟨key⟩, cert, keyStore := some ⟨bytes, password⟩ }
        | none => .error .password
      | _, _ => .ok { key := ⟨key⟩, cert }
    | _, _ => .error .incomplete

def pods (data : SecretData) : SortedSet String :=
  SortedSet.ofList (data.keys.filterMap fun name => (podAndKind? name).map (·.1))

def decode (data : SecretData) : CertificateMap :=
  SortedMap.ofList (data.pods.toList.filterMap fun pod =>
    (bundle data pod).toOption.map fun b => (pod, b))

/-- One event for each entry that is not base64, then one for each pod left out otherwise. -/
def decodeEvents (data : SecretData) : List Event :=
  (data.entries.filterMap fun e => do
    let (pod, _) ← podAndKind? e.1
    if (Base64.decodeString? e.2).isNone then return .entryNotBase64 e.1 pod else none) ++
  data.pods.toList.filterMap fun pod =>
    match bundle data pod with
    | .error .incomplete => some (.secretIncomplete pod)
    | .error .password => some (.passwordNotText pod)
    | _ => none

end SecretData
end ClusterCerts
