import ClusterCerts.Crypto.Modular
import ClusterCerts.Crypto.Sha2

/-!
# ECDSA

Signatures with elliptic curves over prime fields whose first coefficient is -3. Points are
computed with in Jacobian coordinates, so that only a last step has to invert.
-/

namespace ClusterCerts.Crypto

structure Curve where
  prime : Nat
  order : Nat
  base : Nat × Nat
  size : Nat
  hash : Sha2

namespace Curve

def p256 : Curve where
  prime := (1 <<< 256) - (1 <<< 224) + (1 <<< 192) + (1 <<< 96) - 1
  order := 0xffffffff00000000ffffffffffffffffbce6faada7179e84f3b9cac2fc632551
  base := (0x6b17d1f2e12c4247f8bce6e563a440f277037d812deb33a0f4a13945d898c296,
    0x4fe342e2fe1a7f9b8ee7eb4a7c0f9e162bce33576b315ececbb6406837bf51f5)
  size := 32
  hash := .sha256

def p384 : Curve where
  prime := (1 <<< 384) - (1 <<< 128) - (1 <<< 96) + (1 <<< 32) - 1
  order := 0xffffffffffffffffffffffffffffffffffffffffffffffffc7634d81f4372ddf581a0db248b0a77aecec196accc52973
  base :=
    (0xaa87ca22be8b05378eb1c71ef320ad746e1d3b628ba79b9859f741e082542a385502f25dbf55296c3a545e3872760ab7,
    0x3617de4a96262c6f5d9e98bf9292dc29f8f41dbd289a147ce9da3113b5f0b8c00a60b1ce1d7e819d7a431d7c90ea0e5f)
  size := 48
  hash := .sha384

/-- The point `(x / z ^ 2, y / z ^ 3)`, or the point at infinity where `z` is zero. -/
structure Point where
  x : Int
  y : Int
  z : Int

variable (c : Curve)

def double (p : Point) : Point :=
  let m := (c.prime : Int)
  let yy := p.y * p.y % m
  let s := 4 * p.x * yy % m
  let zz := p.z * p.z % m
  let t := 3 * (p.x - zz) * (p.x + zz) % m
  let x := (t * t - 2 * s) % m
  ⟨x, (t * (s - x) - 8 * yy * yy) % m, 2 * p.y * p.z % m⟩

def add (p q : Point) : Point :=
  if p.z = 0 then q
  else if q.z = 0 then p
  else
    let m := (c.prime : Int)
    let pzz := p.z * p.z % m
    let qzz := q.z * q.z % m
    let u := p.x * qzz % m
    let v := p.y * qzz * q.z % m
    let h := (q.x * pzz - u) % m
    let r := (q.y * pzz * p.z - v) % m
    if h = 0 then if r = 0 then c.double p else ⟨1, 1, 0⟩
    else
      let hh := h * h % m
      let hhh := h * hh % m
      let uhh := u * hh % m
      let x := (r * r - hhh - 2 * uhh) % m
      ⟨x, (r * (uhh - x) - v * hhh) % m, h * p.z * q.z % m⟩

def multiply (p : Point) (k : Nat) : Point :=
  if k = 0 then ⟨1, 1, 0⟩
  else
    let s := multiply (c.double p) (k / 2)
    if k % 2 = 1 then c.add p s else s
termination_by k
decreasing_by omega

def multiple (k : Nat) : Nat × Nat :=
  let p := c.multiply ⟨c.base.1, c.base.2, 1⟩ k
  let i := invMod c.prime p.z.toNat
  let ii := i * i % c.prime
  (p.x.toNat * ii % c.prime, p.y.toNat * ii * i % c.prime)

def publicKey (scalar : Nat) : Bytes :=
  let (x, y) := c.multiple scalar
  0x04 :: (Bytes.ofNat c.size x ++ Bytes.ofNat c.size y)

def toScalar (n : Nat) : Nat := n % (c.order - 1) + 1

def sign (scalar nonce : Nat) (message : Bytes) : Nat × Nat :=
  let e := Bytes.toNat (c.hash.digest message)
  let r := (c.multiple nonce).1 % c.order
  (r, invMod c.order nonce * (e + r * scalar) % c.order)

end Curve
end ClusterCerts.Crypto
