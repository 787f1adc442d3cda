import ClusterCerts.Certificate.AltNames

/-!
# Issuers

What a certificate has to be like for a CA to be loaded from it, and the name that the CA then
writes as the issuer of what it signs. The name is the subject of the certificate, with each
attribute type in its first place and with its last value.
-/

namespace ClusterCerts

def isPrintable (c : Char) : Bool :=
  c.isAlphanum || " '()+,-./:=?".toList.contains c

namespace Attribute

/-- UTF-16 without surrogates, and without the last code point of the basic plane. -/
def isBmpText : Bytes → Bool
  | a :: b :: r =>
    let n := a.toNat * 256 + b.toNat
    (n < 0xd800 || 0xe000 ≤ n) && n < 0xffff && isBmpText r
  | [] => true
  | [_] => false

def isUniversalText : Bytes → Bool
  | a :: b :: c :: d :: r => Nat.isValidChar (Bytes.toNat [a, b, c, d]) && isUniversalText r
  | [] => true
  | _ => false

def isText (a : Attribute) : Bool :=
  let has (p : Char → Bool) : Bool := match Bytes.toString? a.value with
    | some s => s.toList.all p
    | none => false
  if a.tag = Der.utf8StringTag then has fun _ => true
  else if a.tag = Der.printableStringTag then has isPrintable
  else if a.tag = Der.ia5StringTag then has fun c => c.toNat < 128
  else if a.tag = Der.teletexStringTag then has fun c => 32 ≤ c.toNat && c.toNat < 128
  else if a.tag = Der.bmpStringTag then isBmpText a.value
  else if a.tag = Der.universalStringTag then isUniversalText a.value
  else false

def encode (a : Attribute) : Bytes :=
  Der.encodeSequence [Der.encodeOid a.oid, Der.encode (UInt8.ofNat a.tag) a.value]

/-- Adds an attribute; one of the same type takes over its place. -/
def put (a : Attribute) : List Attribute → List Attribute
  | [] => [a]
  | b :: bs => if b.oid = a.oid then a :: bs else b :: put a bs

end Attribute

namespace Certificate

open Der

/-- The content of an extension that may stand once. The outer answer is missing if it stands
more often or does not read. -/
def single? {α : Type} (c : Certificate) (oid : Bytes) (read : Bytes → Option α) :
    Option (Option α) :=
  match c.extensionsOf oid with
  | [] => some none
  | [e] => (read e.value).map some
  | _ => none

def strictBoolean : Reader Bool := fun bytes => do
  match ← primitive booleanTag bytes with
  | ([b], r) => if b = 0 then return (false, r) else if b = 255 then return (true, r) else none
  | _ => none

def readBasicConstraints (bytes : Bytes) : Option (Bool × Option Nat) := do
  let (content, _) ← sequence bytes
  if content.isEmpty then return (false, none)
  match strictBoolean content with
  | some (ca, []) => return (ca, none)
  | some (ca, r) =>
    let (n, r) ← natural r
    guard (n < 4294967296 ∧ r.isEmpty)
    return (ca, some n)
  | none =>
    let (n, r) ← natural content
    guard (n < 4294967296 ∧ r.isEmpty)
    return (false, some n)

/-- A name whose form can be written again. An other name has to be UTF-8 text. -/
def isWritable : GeneralName → Bool
  | .email s | .dns s | .uri s => s.toList.all fun c => c.toNat < 128
  | .ip bytes => (Address.ofBytes? bytes).isSome
  | .other value =>
    match element value with
    | some (outer, _) =>
      match element outer.content with
      | some (inner, _) => inner.number = utf8StringTag && (Bytes.toString? inner.content).isSome
      | none => false
    | none => false
  | _ => false

/-- The extensions that concern a CA stand once each, read, and can be written again. -/
def hasIssuerExtensions (c : Certificate) : Bool :=
  (match c.single? Oid.basicConstraints readBasicConstraints with
    | none => false
    | some (some (true, some n)) => n ≤ 255
    | _ => true) &&
  (match c.altNames? with
    | none => false
    | some names => names.all isWritable) &&
  (c.single? Oid.keyUsage bitString).isSome &&
  (c.single? Oid.extendedKeyUsage fun b => sequence b >>= fun p => all oid p.1).isSome &&
  (c.single? Oid.nameConstraints sequence).isSome

def plainAttributes? (name : DistinguishedName) : Option (List Attribute) :=
  name.mapM fun
    | [a] => if a.isText then some a else none
    | _ => none

def issuerName? (c : Certificate) : Option (List Attribute) := do
  guard c.hasIssuerExtensions
  let attributes ← plainAttributes? c.subject
  return attributes.foldl (fun done a => Attribute.put a done) []

end Certificate
end ClusterCerts
