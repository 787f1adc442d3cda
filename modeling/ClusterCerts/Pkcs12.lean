import ClusterCerts.Crypto.Aes
import ClusterCerts.SigningKey.Pkcs8

/-!
# Key stores

A certificate, its private key and the certificate of its CA in one file under a password, in
the form of PKCS #12. The key is encrypted and the whole file is authenticated. The password
is drawn at random and is long, so keys are derived from it in a single step each.
-/

namespace ClusterCerts

namespace Oid

def data : Bytes := [0x2a, 0x86, 0x48, 0x86, 0xf7, 0x0d, 0x01, 0x07, 0x01]
def encryptedKeyBag : Bytes := [0x2a, 0x86, 0x48, 0x86, 0xf7, 0x0d, 0x01, 0x0c, 0x0a, 0x01, 0x02]
def certificateBag : Bytes := [0x2a, 0x86, 0x48, 0x86, 0xf7, 0x0d, 0x01, 0x0c, 0x0a, 0x01, 0x03]
def x509Certificate : Bytes := [0x2a, 0x86, 0x48, 0x86, 0xf7, 0x0d, 0x01, 0x09, 0x16, 0x01]
def friendlyName : Bytes := [0x2a, 0x86, 0x48, 0x86, 0xf7, 0x0d, 0x01, 0x09, 0x14]
def localKeyId : Bytes := [0x2a, 0x86, 0x48, 0x86, 0xf7, 0x0d, 0x01, 0x09, 0x15]
def passwordEncryption : Bytes := [0x2a, 0x86, 0x48, 0x86, 0xf7, 0x0d, 0x01, 0x05, 0x0d]
def passwordDerivation : Bytes := [0x2a, 0x86, 0x48, 0x86, 0xf7, 0x0d, 0x01, 0x05, 0x0c]
def hmacSha256 : Bytes := [0x2a, 0x86, 0x48, 0x86, 0xf7, 0x0d, 0x02, 0x09]
def aes256 : Bytes := [0x60, 0x86, 0x48, 0x01, 0x65, 0x03, 0x04, 0x01, 0x2a]

end Oid

namespace Pkcs12

open Der Crypto

def units (c : Char) : Bytes :=
  let n := c.toNat
  if n < 0x10000 then Bytes.ofNat 2 n
  else Bytes.ofNat 2 (0xd800 + (n - 0x10000) / 1024) ++ Bytes.ofNat 2 (0xdc00 + n % 1024)

def utf16 (s : String) : Bytes := s.toList.flatMap units

def repeated (length : Nat) (b : Bytes) : Bytes :=
  (List.range length).map fun i => b.getD (i % b.length) 0

def encryptionKey (password salt : Bytes) : Bytes :=
  Sha2.sha256.hmac password (salt ++ Bytes.ofNat 4 1)

/-- A key of 32 bytes for authentication. The password is text with an end mark. -/
def authenticationKey (password : String) (salt : Bytes) : Bytes :=
  let p := utf16 password ++ [0, 0]
  let blocks := (p.length + 63) / 64
  Sha2.sha256.digest
    (List.replicate 64 3 ++ repeated 64 salt ++ repeated (64 * blocks) p)

def dataContent (content : Bytes) : Bytes :=
  encodeSequence [encodeOid Oid.data, encodeExplicit 0 (encodeOctets content)]

def bag (type content : Bytes) (attributes : List Bytes) : Bytes :=
  encodeSequence
    ([encodeOid type, encodeExplicit 0 content] ++
      if attributes.isEmpty then [] else [encodeSet attributes])

def certificateBag (der : Bytes) (attributes : List Bytes) : Bytes :=
  bag Oid.certificateBag
    (encodeSequence [encodeOid Oid.x509Certificate, encodeExplicit 0 (encodeOctets der)]) attributes

def encryptedKeyBag (password : String) (salt iv key : Bytes) (attributes : List Bytes) : Bytes :=
  let algorithm := encodeSequence
    [encodeOid Oid.passwordEncryption,
      encodeSequence
        [encodeSequence
            [encodeOid Oid.passwordDerivation,
              encodeSequence
                [encodeOctets salt, encodeNatural 1,
                  encodeSequence [encodeOid Oid.hmacSha256, encodeNull]]],
          encodeSequence [encodeOid Oid.aes256, encodeOctets iv]]]
  let encrypted := Aes.encrypt (encryptionKey (Bytes.ofString password) salt) iv key
  bag Oid.encryptedKeyBag (encodeSequence [algorithm, encodeOctets encrypted]) attributes

def encode (certDer keyDer caDer : Bytes) (password : String) (salt : Bytes) (alias_ : String) :
    Bytes :=
  let attributes :=
    [encodeSequence
        [encodeOid Oid.friendlyName, encodeSet [Der.encode 0x1e (utf16 alias_)]],
      encodeSequence
        [encodeOid Oid.localKeyId, encodeSet [encodeOctets (Sha2.sha256.digest certDer)]]]
  let contents := encodeSequence
    [dataContent (encodeSequence [certificateBag certDer attributes, certificateBag caDer []]),
      dataContent (encodeSequence
        [encryptedKeyBag password (salt.take 16) ((salt.drop 16).take 16) keyDer attributes])]
  let macSalt := (salt.drop 32).take 16
  let mac := Sha2.sha256.hmac (authenticationKey password macSalt) contents
  encodeSequence
    [encodeNatural 3, dataContent contents,
      encodeSequence
        [encodeSequence
            [encodeSequence [encodeOid Rsa.sha256Oid, encodeNull], encodeOctets mac],
          encodeOctets macSalt]]

end Pkcs12
end ClusterCerts
