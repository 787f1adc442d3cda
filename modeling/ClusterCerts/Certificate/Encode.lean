import ClusterCerts.Certificate.Issuer
import ClusterCerts.SigningKey

/-!
# Writing certificates

A certificate as DER: the body, which is what gets signed, and the body with its signature.
Extensions are made from what they say.
-/

namespace ClusterCerts

namespace DistinguishedName

def encode (name : DistinguishedName) : Bytes :=
  Der.encodeSequence (name.map fun group => Der.encodeSet (group.map Attribute.encode))

def ofAttributes (attributes : List Attribute) : DistinguishedName := attributes.map fun a => [a]

end DistinguishedName

def Attribute.ofString (oid : Bytes) (s : String) : Attribute :=
  ⟨oid, Der.utf8StringTag, Bytes.ofString s⟩

inductive KeyUsage
  | digitalSignature
  | keyEncipherment
  | keyCertSign
  | crlSign
deriving DecidableEq, Repr

namespace KeyUsage

def all : List KeyUsage := [digitalSignature, keyEncipherment, keyCertSign, crlSign]

def bit : KeyUsage → Nat
  | digitalSignature => 0
  | keyEncipherment => 2
  | keyCertSign => 5
  | crlSign => 6

def name : KeyUsage → String
  | digitalSignature => "Digital Signature"
  | keyEncipherment => "Key Encipherment"
  | keyCertSign => "Key Cert Sign"
  | crlSign => "CRL Sign"

def ofValue? (value : Bytes) : Option (List KeyUsage) := do
  let (content, _) ← Der.bitString value
  return all.filter fun u =>
    ((content.drop 1).getD (u.bit / 8) 0).toNat.testBit (7 - u.bit % 8)

end KeyUsage

namespace Extension

open Der

def encode (e : Extension) : Bytes :=
  encodeSequence
    ([encodeOid e.oid] ++ (if e.critical then [encodeTrue] else []) ++ [encodeOctets e.value])

/-- A bit string in which the first bit is the highest of its byte, without zeros at its end. -/
def keyUsage (uses : List KeyUsage) : Extension :=
  let last := (uses.map KeyUsage.bit).foldl max 0
  let bits := uses.foldl (fun n u => n ||| 1 <<< (7 - u.bit)) 0
  ⟨Oid.keyUsage, true, Der.encode 0x03 [UInt8.ofNat (7 - last), UInt8.ofNat bits]⟩

def extendedKeyUsage (purposes : List Bytes) : Extension :=
  ⟨Oid.extendedKeyUsage, false, encodeSequence (purposes.map encodeOid)⟩

def authority : Extension := ⟨Oid.basicConstraints, true, encodeSequence [encodeTrue]⟩

def subjectKeyIdentifier (id : Bytes) : Extension :=
  ⟨Oid.subjectKeyIdentifier, false, encodeOctets id⟩

def altNames (dnsNames : List String) (addresses : List Address) : Extension :=
  ⟨Oid.subjectAltName, false, encodeSequence
    (dnsNames.map (fun s => encodeImplicit 2 (Bytes.ofString s)) ++
      addresses.map fun a => encodeImplicit 7 a.toBytes)⟩

end Extension

namespace Certificate

open Der

def encodeBody (c : Certificate) (serial : Nat) (algorithm publicKey : Bytes) : Bytes :=
  encodeSequence
    [encodeExplicit 0 (encodeNatural 2), encodeNatural serial, algorithm,
      DistinguishedName.encode c.issuer,
      encodeSequence [encodeTime c.notBefore, encodeTime c.notAfter],
      DistinguishedName.encode c.subject, publicKey,
      encodeExplicit 3 (encodeSequence (c.extensions.map Extension.encode))]

def issue (c : Certificate) (serial : Nat) (publicKey : Bytes) (key : SigningKey) (nonce : Nat) :
    Bytes :=
  let body := c.encodeBody serial key.algorithm publicKey
  encodeSequence [body, key.algorithm, encodeBits (key.sign nonce body)]

end Certificate
end ClusterCerts
