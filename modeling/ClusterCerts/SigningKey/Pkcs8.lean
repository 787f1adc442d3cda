import ClusterCerts.SigningKey

/-!
# Private key information

The form in which private keys are stored. Reading is strict: lengths are as short as they can
be, nothing is left over, and a public key that is given with the private one belongs to it.
Keys of elliptic curves always come with their public key, RSA keys with their factors.
-/

namespace ClusterCerts.SigningKey

open Crypto Der

def strictLength : Reader Nat
  | b :: r =>
    if b.toNat < 128 then some (b.toNat, r)
    else match b, r with
      | 0x81, l :: r => if 128 ≤ l.toNat then some (l.toNat, r) else none
      | 0x82, h :: l :: r => if h = 0 then none else some (h.toNat * 256 + l.toNat, r)
      | _, _ => none
  | [] => none

def field (tag : UInt8) : Reader Bytes
  | b :: r => do
    guard (b = tag)
    let (n, r) ← strictLength r
    guard (n ≤ r.length)
    return (r.take n, r.drop n)
  | [] => none

def only (tag : UInt8) (bytes : Bytes) : Option Bytes :=
  match field tag bytes with
  | some (content, []) => some content
  | _ => none

def strictNatural : Reader Nat := fun bytes => do
  let (content, r) ← field 0x02 bytes
  guard (isInteger content && (content.head?.map UInt8.toNat).getD 128 < 128)
  return (Bytes.toNat content, r)

def skip? (tag : UInt8) (bytes : Bytes) : Option Bytes :=
  if bytes.head? = some tag then (field tag bytes).map (·.2) else some bytes

def wholeBits? : Bytes → Option Bytes
  | 0x00 :: r => some r
  | _ => none

/-- The version, the private key and what comes after it, for a key of one algorithm. Its
attributes are skipped. -/
def unwrap? (algorithm : Bytes) (bytes : Bytes) : Option (Nat × Bytes × Bytes) := do
  let r ← only 0x30 bytes
  let (version, r) ← strictNatural r
  guard (version ≤ 1)
  let (name, r) ← field 0x30 r
  guard (name = algorithm)
  let (key, r) ← field 0x04 r
  return (version, key, ← skip? 0xa0 r)

/-- Version 1 has a public key, directly under its tag or wrapped once more. -/
def ofEd25519? (bytes : Bytes) : Option SigningKey := do
  let (version, key, r) ← unwrap? (encodeOid Oid.ed25519) bytes
  let seed ← only 0x04 key
  if version = 0 then guard r.isEmpty
  else
    let bits ← if r.head? = some 0xa1 then only 0xa1 r >>= only 0x03 else only 0x81 r
    let publicKey ← wholeBits? bits
    guard (publicKey = Ed25519.publicKey seed)
  guard (seed.length = 32)
  return ed25519 seed

def scalarOf? (curve : Curve) (oid : Bytes) (bytes : Bytes) : Option Nat := do
  let (version, key, r) ← unwrap? (encodeOid Oid.ecPublicKey ++ encodeOid oid) bytes
  guard (version = 0 ∧ r.isEmpty)
  let r ← only 0x30 key
  let (version, r) ← strictNatural r
  guard (version = 1)
  let (scalar, r) ← field 0x04 r
  let r ← if r.head? = some 0xa0 then do
      let (parameters, r) ← field 0xa0 r
      guard (parameters = encodeOid oid)
      pure r
    else pure r
  let publicKey ← only 0xa1 r >>= only 0x03 >>= wholeBits?
  guard (scalar.length = curve.size)
  let n := Bytes.toNat scalar
  guard (0 < n ∧ n < curve.order)
  guard (publicKey = curve.publicKey n)
  return n

def bitLength (n : Nat) : Nat := if n = 0 then 0 else n.log2 + 1

def isRsa (n e d p q dp dq qInv : Nat) : Bool :=
  let half := bitLength n / 2
  2048 ≤ bitLength n && bitLength n ≤ 4096 && n % 2 = 1 &&
  65537 ≤ e && bitLength e ≤ 33 && e % 2 = 1 &&
  bitLength n = 2 * half && half % 512 = 0 && bitLength p = half && bitLength q = half &&
  p * q = n &&
  half < bitLength d && d < n && d % 2 = 1 &&
  dp < p && dp % 2 = 1 && dq < q && dq % 2 = 1 &&
  qInv < p && qInv * q % p = 1

def ofRsa? (bytes : Bytes) : Option SigningKey := do
  let (version, key, r) ← unwrap? (encodeOid Oid.rsa ++ encodeNull) bytes
  guard (version = 0 ∧ r.isEmpty)
  let r ← only 0x30 key
  let (version, r) ← strictNatural r
  guard (version = 0)
  let (n, r) ← strictNatural r
  let (e, r) ← strictNatural r
  let (d, r) ← strictNatural r
  let (p, r) ← strictNatural r
  let (q, r) ← strictNatural r
  let (dp, r) ← strictNatural r
  let (dq, r) ← strictNatural r
  let (qInv, r) ← strictNatural r
  guard (r.isEmpty && isRsa n e d p q dp dq qInv)
  return rsa ((bitLength n + 7) / 8) n d

def ofPkcs8? (bytes : Bytes) : Option SigningKey :=
  ofEd25519? bytes <|> (scalarOf? .p256 Oid.p256 bytes).map p256 <|>
    (scalarOf? .p384 Oid.p384 bytes).map p384 <|> ofRsa? bytes

def ecAlgorithm : Bytes := encodeSequence [encodeOid Oid.ecPublicKey, encodeOid Oid.p256]

def encodeP256 (scalar : Nat) : Bytes :=
  encodeSequence
    [encodeNatural 0, ecAlgorithm,
      encodeOctets (encodeSequence
        [encodeNatural 1, encodeOctets (Bytes.ofNat 32 scalar),
          encodeExplicit 1 (encodeBits (Curve.p256.publicKey scalar))])]

end ClusterCerts.SigningKey
