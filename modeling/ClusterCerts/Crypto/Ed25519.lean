import ClusterCerts.Crypto.Modular
import ClusterCerts.Crypto.Sha2

/-!
# Ed25519

Signatures with the twisted Edwards curve over the field of order 2 to the 255 minus 19. A
point is held with a denominator and with the product of its coordinates.
-/

namespace ClusterCerts.Crypto.Ed25519

def prime : Nat := (1 <<< 255) - 19

def order : Nat := (1 <<< 252) + 27742317777372353535851937790883648493

/-- The point `(x / z, y / z)`, where `t` is `x * y / z`. -/
structure Point where
  x : Int
  y : Int
  z : Int
  t : Int

def twiceD : Int := -2 * 121665 * invMod prime 121666 % prime

def add (p q : Point) : Point :=
  let m := (prime : Int)
  let a := (p.y - p.x) * (q.y - q.x) % m
  let b := (p.y + p.x) * (q.y + q.x) % m
  let c := twiceD * p.t % m * q.t % m
  let d := 2 * p.z * q.z % m
  let (e, f, g, h) := (b - a, d - c, d + c, b + a)
  ⟨e * f % m, g * h % m, f * g % m, e * h % m⟩

def neutral : Point := ⟨0, 1, 1, 0⟩

def multiply (p : Point) (k : Nat) : Point :=
  if k = 0 then neutral
  else
    let s := multiply (add p p) (k / 2)
    if k % 2 = 1 then add p s else s
termination_by k
decreasing_by omega

def base : Point :=
  let x : Int := 15112221349535400772501151409588531511454012693041857206046113283949847762202
  let y : Int := 46316835694926478169428394003475163141307993866256225615783033603165251855960
  ⟨x, y, 1, x * y % prime⟩

def littleEndian (b : Bytes) : Nat := Bytes.toNat b.reverse

def ofLittleEndian (n : Nat) : Bytes := (Bytes.ofNat 32 n).reverse

/-- The second coordinate, with the lowest bit of the first as its highest. -/
def encode (p : Point) : Bytes :=
  let i := invMod prime p.z.toNat
  let x := p.x.toNat * i % prime
  let y := p.y.toNat * i % prime
  ofLittleEndian (y + (x % 2) <<< 255)

def expand (seed : Bytes) : Nat × Bytes :=
  let h := Sha2.sha512.digest seed
  let n := littleEndian (h.take 32)
  (n % (1 <<< 254) / 8 * 8 + (1 <<< 254), h.drop 32)

def publicKey (seed : Bytes) : Bytes := encode (multiply base (expand seed).1)

def sign (seed message : Bytes) : Bytes :=
  let (scalar, salt) := expand seed
  let r := littleEndian (Sha2.sha512.digest (salt ++ message)) % order
  let point := encode (multiply base r)
  let k := littleEndian (Sha2.sha512.digest (point ++ publicKey seed ++ message)) % order
  point ++ ofLittleEndian ((r + k * scalar) % order)

end ClusterCerts.Crypto.Ed25519
