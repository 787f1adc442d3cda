import ClusterCerts.Bundle
import ClusterCerts.Certificate.Encode
import ClusterCerts.Certificate.Stored
import ClusterCerts.Entropy
import ClusterCerts.Outcome
import ClusterCerts.Pem.Block
import ClusterCerts.Pkcs12
import ClusterCerts.Window

/-!
# Certificate authorities

An authority signs the certificates of nodes. It is created with a root certificate of its own
or loaded from PEM texts, and it issues under the name that its certificate has.
-/

namespace ClusterCerts

structure Authority where
  certPem : String
  certDer : Bytes
  name : String
  key : SigningKey
  keyDer : Bytes
  issuer : List Attribute
deriving DecidableEq

namespace Authority

open Crypto

def publicKeyInfo (scalar : Nat) : Bytes :=
  Der.encodeSequence [SigningKey.ecAlgorithm, Der.encodeBits (Curve.p256.publicKey scalar)]

/-- A serial number of 20 bytes that is not negative, made from the public key. -/
def serial (scalar : Nat) : Nat :=
  Bytes.toNat ((Sha2.sha256.digest (Curve.p256.publicKey scalar)).take 20) % (1 <<< 159)

def keyPem (keyDer : Bytes) : String := Pem.encode "PRIVATE KEY" keyDer

def certificatePem (der : Bytes) : String := Pem.encode "CERTIFICATE" der

def passwordAlphabet : List Char :=
  "ABCDEFGHIJKLMNOPQRSTUVWXYZabcdefghijklmnopqrstuvwxyz0123456789".toList

/-- The characters at the places that the digits of a number in base 62 name. -/
def passwordChars : Nat → Nat → List Char
  | 0, _ => []
  | k + 1, n => passwordAlphabet.getD (n % 62) 'A' :: passwordChars k (n / 62)

def passwordLength : Nat := 32

def root (name : String) (w : Window) (scalar : Nat) : Certificate :=
  let dn := DistinguishedName.ofAttributes [.ofString Oid.commonName name]
  let keyId := (Sha2.sha256.digest (publicKeyInfo scalar)).take 20
  { issuer := dn, notBefore := w.notBefore, notAfter := w.notAfter, subject := dn
    extensions :=
      [.keyUsage [.digitalSignature, .keyCertSign, .crlSign], .subjectKeyIdentifier keyId,
        .authority] }

def leaf (issuer : List Attribute) (s : Subject) (w : Window) : Certificate where
  issuer := .ofAttributes issuer
  notBefore := w.notBefore
  notAfter := w.notAfter
  subject := .ofAttributes
    (.ofString Oid.commonName s.commonName ::
      (s.organization.map fun o => Attribute.ofString Oid.organization o).toList)
  extensions :=
    (if s.dnsNames.isEmpty && s.addresses.isEmpty then []
      else [.altNames s.dnsNames.toList s.addresses.toList]) ++
    [.keyUsage [.digitalSignature, .keyEncipherment],
      .extendedKeyUsage [Oid.serverAuth, Oid.clientAuth]]

def ofMaterial (name : String) (w : Window) (m : Material) : Authority :=
  let scalar := Curve.p256.toScalar m.key
  let key := SigningKey.p256 scalar
  let der := (root name w scalar).issue (serial scalar) (publicKeyInfo scalar) key m.nonce
  { certPem := certificatePem der, certDer := der, name, key
    keyDer := SigningKey.encodeP256 scalar, issuer := [.ofString Oid.commonName name] }

def create (name : String) (days : UInt32) (now : Instant) (e : Entropy) :
    Outcome Entropy Authority :=
  Outcome.after [.creatingAuthority name] <|
    if name = "" then .fail (.validation .emptyCaName) e
    else match Window.ofDays days now with
      | .error fault => .fail fault e
      | .ok w =>
        if w.Writable then
          let (m, e) := Material.draw e
          ⟨.ok (ofMaterial name w m), [.authorityCreated], e⟩
        else .fail Window.unwritable e

def defaultValidityDays : UInt32 := 3650

def load (certPem keyPem : String) : Except Error Authority := do
  let some keyDer := Pem.blockData? keyPem | throw (.parse .caKey)
  let some key := SigningKey.ofPkcs8? keyDer | throw (.parse .caKey)
  let some issuer := (Pem.blockData? certPem >>= Certificate.ofDer?) >>= Certificate.issuerName?
    | throw (.parse .caCertificate)
  let certDer ← Stored.der (Bytes.ofString certPem)
  let name ← Stored.commonName certDer
  return { certPem, certDer, name, key, keyDer, issuer }

def privateKey (a : Authority) : PrivateKey := ⟨Bytes.ofString (keyPem a.keyDer)⟩

def inspect (a : Authority) : String :=
  "CertificateAuthority \x7b name: " ++ Text.quoted a.name ++ ", key: \"[REDACTED]\", .. \x7d"

def foreignName? (s : Subject) : Option String :=
  s.dnsNames.toList.find? fun name => !name.toList.all fun c => c.toNat < 128

def bundle (a : Authority) (s : Subject) (w : Window) (m : Material) : Bundle :=
  let scalar := Curve.p256.toScalar m.key
  let keyDer := SigningKey.encodeP256 scalar
  let der := (leaf a.issuer s w).issue (serial scalar) (publicKeyInfo scalar) a.key m.nonce
  let password := String.ofList (passwordChars passwordLength m.password)
  { key := ⟨Bytes.ofString (keyPem keyDer)⟩
    cert := Bytes.ofString (certificatePem der)
    keyStore := some
      ⟨Pkcs12.encode der keyDer a.certDer password (Bytes.ofNat 48 m.salt) s.commonName, password⟩ }

def issue (a : Authority) (s : Subject) (days : UInt32) (now : Instant) (e : Entropy) :
    Outcome Entropy Bundle :=
  if s.commonName = "" then .fail (.validation .emptyCommonName) e
  else Outcome.after [.issuing s.commonName] <|
    match Window.ofDays days now with
    | .error fault => .fail fault e
    | .ok w =>
      match foreignName? s with
      | some name => .fail (.san name) e
      | none =>
        if w.Writable then
          let (m, e) := Material.draw e
          ⟨.ok (a.bundle s w m), [], e⟩
        else .fail Window.unwritable e

end Authority
end ClusterCerts
