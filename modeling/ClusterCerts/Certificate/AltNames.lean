import ClusterCerts.Address.Text
import ClusterCerts.Certificate
import ClusterCerts.Order.SortedSet

/-!
# Alternative names

The extension that lists further names of a certificate's subject. A name is kept by its kind;
those that are text, and addresses of a proper length, have a text to compare by.
-/

namespace ClusterCerts

inductive GeneralName
  | other (value : Bytes)
  | email (name : String)
  | dns (name : String)
  | x400
  | directory (name : DistinguishedName)
  | ediParty
  | uri (name : String)
  | ip (bytes : Bytes)
  | registeredId
deriving DecidableEq

namespace GeneralName

open Der

def ofElement? (e : Element) : Option GeneralName :=
  if e.tagClass ≠ .contextSpecific then none
  else match e.number with
    | 0 => (oid e.content).map fun p => other p.2
    | 1 => (Bytes.toString? e.content).map email
    | 2 => (Bytes.toString? e.content).map dns
    | 3 => some x400
    | 4 =>
      match Certificate.readName e.content with
      | some (name, []) => some (directory name)
      | _ => none
    | 5 => some ediParty
    | 6 => (Bytes.toString? e.content).map uri
    | 7 => some (ip e.content)
    | 8 => some registeredId
    | _ => none

def read : Reader GeneralName := fun bytes => do
  let (e, r) ← element bytes
  return (← ofElement? e, r)

def text? : GeneralName → Option String
  | email name | dns name | uri name => some name
  | ip bytes => (Address.ofBytes? bytes).map Address.text
  | _ => none

def list? (bytes : Bytes) : Option (List GeneralName) := do
  let (content, _) ← sequence bytes
  all read content

end GeneralName

namespace Certificate

/-- The alternative names; a certificate without the extension has none, and one with two
such extensions, or an unreadable one, has no answer. -/
def altNames? (c : Certificate) : Option (List GeneralName) :=
  match c.extensionsOf Oid.subjectAltName with
  | [] => some []
  | [e] => GeneralName.list? e.value
  | _ => none

end Certificate
end ClusterCerts
