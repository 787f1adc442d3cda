import ClusterCerts.Crypto.Modular
import ClusterCerts.Crypto.Sha2
import ClusterCerts.Der

/-!
# RSA

Signatures with a modulus and an exponent: the digest is named and filled up to the length of
the modulus, and raised to the private exponent.
-/

namespace ClusterCerts.Crypto.Rsa

def sha256Oid : Bytes := [0x60, 0x86, 0x48, 0x01, 0x65, 0x03, 0x04, 0x02, 0x01]

def digestInfo (message : Bytes) : Bytes :=
  Der.encodeSequence
    [Der.encodeSequence [Der.encodeOid sha256Oid, Der.encodeNull],
      Der.encodeOctets (Sha2.sha256.digest message)]

def fill (length : Nat) (info : Bytes) : Bytes :=
  0x00 :: 0x01 :: List.replicate (length - info.length - 3) 0xff ++ 0x00 :: info

def sign (size modulus exponent : Nat) (message : Bytes) : Bytes :=
  Bytes.ofNat size (powMod modulus (Bytes.toNat (fill size (digestInfo message))) exponent)

end ClusterCerts.Crypto.Rsa
