import ClusterCerts.Crypto.Ecdsa
import ClusterCerts.Crypto.Ed25519
import ClusterCerts.Crypto.Rsa
import ClusterCerts.Der

/-!
# Signing keys

The private keys that a CA may sign with, the name of the algorithm that each of them signs
by, and the signature in the form that a certificate has it.
-/

namespace ClusterCerts

inductive SigningKey
  | ed25519 (seed : Bytes)
  | p256 (scalar : Nat)
  | p384 (scalar : Nat)
  | rsa (size modulus exponent : Nat)
deriving DecidableEq

namespace Oid

def ed25519 : Bytes := [0x2b, 0x65, 0x70]
def ecPublicKey : Bytes := [0x2a, 0x86, 0x48, 0xce, 0x3d, 0x02, 0x01]
def p256 : Bytes := [0x2a, 0x86, 0x48, 0xce, 0x3d, 0x03, 0x01, 0x07]
def p384 : Bytes := [0x2b, 0x81, 0x04, 0x00, 0x22]
def ecdsaSha256 : Bytes := [0x2a, 0x86, 0x48, 0xce, 0x3d, 0x04, 0x03, 0x02]
def ecdsaSha384 : Bytes := [0x2a, 0x86, 0x48, 0xce, 0x3d, 0x04, 0x03, 0x03]
def rsa : Bytes := [0x2a, 0x86, 0x48, 0x86, 0xf7, 0x0d, 0x01, 0x01, 0x01]
def rsaSha256 : Bytes := [0x2a, 0x86, 0x48, 0x86, 0xf7, 0x0d, 0x01, 0x01, 0x0b]

end Oid

namespace SigningKey

open Crypto

def algorithm : SigningKey → Bytes
  | ed25519 _ => Der.encodeSequence [Der.encodeOid Oid.ed25519]
  | p256 _ => Der.encodeSequence [Der.encodeOid Oid.ecdsaSha256]
  | p384 _ => Der.encodeSequence [Der.encodeOid Oid.ecdsaSha384]
  | rsa .. => Der.encodeSequence [Der.encodeOid Oid.rsaSha256, Der.encodeNull]

def encodeEcdsa (rs : Nat × Nat) : Bytes :=
  Der.encodeSequence [Der.encodeNatural rs.1, Der.encodeNatural rs.2]

/-- The signature of a message. The nonce is a number drawn for this signature alone. -/
def sign (nonce : Nat) (message : Bytes) : SigningKey → Bytes
  | ed25519 seed => Ed25519.sign seed message
  | p256 scalar => encodeEcdsa (Curve.p256.sign scalar (Curve.p256.toScalar nonce) message)
  | p384 scalar => encodeEcdsa (Curve.p384.sign scalar (Curve.p384.toScalar nonce) message)
  | rsa size modulus exponent => Rsa.sign size modulus exponent message

end SigningKey
end ClusterCerts
