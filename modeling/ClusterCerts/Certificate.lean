import ClusterCerts.Der.Time

/-!
# Certificates

The parts of an X.509 certificate that matter here, and how they are read from DER. Extra
content after the parts of a structure is mostly let pass; extensions are taken to the last
byte, and nothing may follow them in the certificate body.
-/

namespace ClusterCerts

structure Attribute where
  oid : Bytes
  tag : Nat
  value : Bytes
deriving DecidableEq

abbrev DistinguishedName := List (List Attribute)

structure Extension where
  oid : Bytes
  critical : Bool
  value : Bytes
deriving DecidableEq

structure Certificate where
  issuer : DistinguishedName
  notBefore : Int
  notAfter : Int
  subject : DistinguishedName
  extensions : List Extension
deriving DecidableEq

namespace Oid

def commonName : Bytes := [0x55, 0x04, 0x03]
def organization : Bytes := [0x55, 0x04, 0x0a]
def subjectKeyIdentifier : Bytes := [0x55, 0x1d, 0x0e]
def keyUsage : Bytes := [0x55, 0x1d, 0x0f]
def subjectAltName : Bytes := [0x55, 0x1d, 0x11]
def basicConstraints : Bytes := [0x55, 0x1d, 0x13]
def nameConstraints : Bytes := [0x55, 0x1d, 0x1e]
def extendedKeyUsage : Bytes := [0x55, 0x1d, 0x25]
def serverAuth : Bytes := [0x2b, 0x06, 0x01, 0x05, 0x05, 0x07, 0x03, 0x01]
def clientAuth : Bytes := [0x2b, 0x06, 0x01, 0x05, 0x05, 0x07, 0x03, 0x02]

def text (oid : Bytes) : String :=
  let (arcs, _) := oid.foldl (fun (arcs, n) b =>
    let n := n * 128 + b.toNat % 128
    if b.toNat < 128 then (arcs ++ [n], 0) else (arcs, n)) (([] : List Nat), 0)
  match arcs with
  | [] => ""
  | n :: ns => ".".intercalate ((min (n / 40) 2 :: (n - 40 * min (n / 40) 2) :: ns).map toString)

end Oid

namespace Certificate

open Der

def readAttribute : Reader Attribute := fun bytes => do
  let (content, r) ← sequence bytes
  let (oid, content) ← oid content
  let (value, _) ← element content
  return (⟨oid, value.number, value.content⟩, r)

/-- A group of attributes has one at least; it ends at the first part that does not read. -/
def readRelativeName : Reader (List Attribute) := fun bytes => do
  let (e, r) ← tagged setTag bytes
  let (attributes, _) := many readAttribute e.content
  if attributes.isEmpty then none else return (attributes, r)

def readName : Reader DistinguishedName := fun bytes => do
  let (content, r) ← sequence bytes
  return ((many readRelativeName content).1, r)

def readAlgorithm : Reader Unit := fun bytes => do
  let (content, r) ← sequence bytes
  let _ ← oid content
  return ((), r)

def readPublicKey : Reader Unit := fun bytes => do
  let (content, r) ← sequence bytes
  let (_, content) ← readAlgorithm content
  let _ ← bitString content
  return ((), r)

/-- The version is read right after its tag; without that tag there is none. -/
def readVersion : Reader Unit := fun bytes => do
  let ((e, _), r) ← header bytes
  if e.number = 0 then
    let (v, r) ← natural r
    guard (v < 4294967296)
    return ((), r)
  else return ((), bytes)

def readValidity : Reader (Int × Int) := fun bytes => do
  let (content, r) ← sequence bytes
  let (notBefore, content) ← time content
  let (notAfter, _) ← time content
  return ((notBefore, notAfter), r)

def readUniqueIdentifier (n : Nat) : Reader Unit := fun bytes =>
  match element bytes with
  | some (e, r) =>
    if e.tagClass = .contextSpecific ∧ e.number = n then
      if isBitString e.content then some ((), r) else none
    else some ((), bytes)
  | none => some ((), bytes)

/-- The value of a boolean may be any byte. -/
def readCritical : Reader Bool := fun bytes =>
  match primitive booleanTag bytes with
  | some ([b], r) => some (b != 0, r)
  | _ => some (false, bytes)

def readExtension : Reader Extension := fun bytes => do
  let (content, r) ← sequence bytes
  let (oid, content) ← oid content
  let (critical, content) ← readCritical content
  let (value, _) ← primitive octetStringTag content
  return (⟨oid, critical, value⟩, r)

def extensions? (bytes : Bytes) : Option (List Extension) :=
  if bytes.isEmpty then some []
  else do
    let ((e, _), r) ← header bytes
    guard (e.number = 3)
    let (content, r) ← sequence r
    guard r.isEmpty
    all readExtension content

def body? (bytes : Bytes) : Option Certificate := do
  let (_, r) ← readVersion bytes
  let (_, r) ← tagged integerTag r
  let (_, r) ← readAlgorithm r
  let (issuer, r) ← readName r
  let ((notBefore, notAfter), r) ← readValidity r
  let (subject, r) ← readName r
  let (_, r) ← readPublicKey r
  let (_, r) ← readUniqueIdentifier 1 r
  let (_, r) ← readUniqueIdentifier 2 r
  let extensions ← extensions? r
  return { issuer, notBefore, notAfter, subject, extensions }

def ofDer? (bytes : Bytes) : Option Certificate := do
  let (content, _) ← sequence bytes
  let (body, r) ← sequence content
  let certificate ← body? body
  let (_, r) ← readAlgorithm r
  let _ ← bitString r
  return certificate

def extensionsOf (c : Certificate) (oid : Bytes) : List Extension :=
  c.extensions.filter fun e => e.oid = oid

def commonNameAttribute? (c : Certificate) : Option Attribute :=
  c.subject.flatten.find? fun a => a.oid = Oid.commonName

end Certificate
end ClusterCerts
