import ClusterCerts.Text.Bytes

/-!
# SHA-2

The hash functions of the SHA-2 family, for words of 32 and of 64 bits. Their constants are
the first bits of the fractional parts of square and cube roots of primes, and are computed
from that rule.
-/

namespace ClusterCerts.Crypto

/-- The largest number whose `k`-th power is at most `n`, found bit by bit from `bits` on. -/
def root (k n : Nat) : Nat → Nat → Nat
  | 0, r => r
  | bits + 1, r =>
    let larger := r + 1 <<< bits
    root k n bits (if Nat.pow larger k ≤ n then larger else r)

def primes (count : Nat) : List Nat :=
  let prime := fun (n : Nat) => (List.range n).all fun d => d < 2 || n % d != 0
  (((List.range 500).drop 2).filter prime).take count

def rootFraction (w k n : Nat) : BitVec w := BitVec.ofNat w (root k (n <<< (k * w)) (w + 5) 0)

def rootFractions (w k skipped count : Nat) : List (BitVec w) :=
  ((primes (skipped + count)).drop skipped).map (rootFraction w k)

structure Sha2 where
  width : Nat
  initial : List (BitVec width)
  constants : List (BitVec width)
  sumA : Nat × Nat × Nat
  sumE : Nat × Nat × Nat
  older : Nat × Nat × Nat
  newer : Nat × Nat × Nat
  size : Nat

namespace Sha2

def sha256 : Sha2 where
  width := 32
  initial := rootFractions 32 2 0 8
  constants := rootFractions 32 3 0 64
  sumA := (2, 13, 22)
  sumE := (6, 11, 25)
  older := (7, 18, 3)
  newer := (17, 19, 10)
  size := 32

def sha512 : Sha2 where
  width := 64
  initial := rootFractions 64 2 0 8
  constants := rootFractions 64 3 0 80
  sumA := (28, 34, 39)
  sumE := (14, 18, 41)
  older := (1, 8, 7)
  newer := (19, 61, 6)
  size := 64

def sha384 : Sha2 where
  width := 64
  initial := rootFractions 64 2 8 8
  constants := sha512.constants
  sumA := sha512.sumA
  sumE := sha512.sumE
  older := sha512.older
  newer := sha512.newer
  size := 48

variable (h : Sha2)

structure State (w : Nat) where
  a : BitVec w
  b : BitVec w
  c : BitVec w
  d : BitVec w
  e : BitVec w
  f : BitVec w
  g : BitVec w
  h : BitVec w

def State.toList {w : Nat} (s : State w) : List (BitVec w) :=
  [s.a, s.b, s.c, s.d, s.e, s.f, s.g, s.h]

def State.ofList {w : Nat} : List (BitVec w) → State w
  | [a, b, c, d, e, f, g, h] => ⟨a, b, c, d, e, f, g, h⟩
  | _ => ⟨0, 0, 0, 0, 0, 0, 0, 0⟩

def sum {w : Nat} (r : Nat × Nat × Nat) (x : BitVec w) : BitVec w :=
  x.rotateRight r.1 ^^^ x.rotateRight r.2.1 ^^^ x.rotateRight r.2.2

def mix {w : Nat} (r : Nat × Nat × Nat) (x : BitVec w) : BitVec w :=
  x.rotateRight r.1 ^^^ x.rotateRight r.2.1 ^^^ x >>> r.2.2

def schedule : Nat → List (BitVec h.width) → List (BitVec h.width)
  | 0, ws => ws
  | k + 1, ws =>
    let w := mix h.newer (ws.getD 1 0) + ws.getD 6 0 + mix h.older (ws.getD 14 0) + ws.getD 15 0
    schedule k (w :: ws)

def round (s : State h.width) (w : BitVec h.width) : State h.width :=
  let t := s.h + sum h.sumE s.e + ((s.e &&& s.f) ^^^ (~~~s.e &&& s.g)) + w
  let u := sum h.sumA s.a + ((s.a &&& s.b) ^^^ (s.a &&& s.c) ^^^ (s.b &&& s.c))
  ⟨t + u, s.a, s.b, s.c, s.d + t, s.e, s.f, s.g⟩

def compress (s : State h.width) (block : List (BitVec h.width)) : State h.width :=
  let words := (h.schedule (h.constants.length - 16) block.reverse).reverse
  let t := (List.zipWith (· + ·) h.constants words).foldl h.round s
  .ofList (List.zipWith (· + ·) s.toList t.toList)

def wordBytes : Nat := h.width / 8

def blockBytes : Nat := 16 * h.wordBytes

def pad (message : Bytes) : Bytes :=
  let zeros := (h.blockBytes - (message.length + 1 + 2 * h.wordBytes) % h.blockBytes) % h.blockBytes
  message ++ 0x80 :: List.replicate zeros 0 ++ Bytes.ofNat (2 * h.wordBytes) (8 * message.length)

def pieces {α : Type} (k : Nat) (xs : List α) : List (List α) :=
  match xs with
  | [] => []
  | x :: xs => (x :: xs.take k) :: pieces k (xs.drop k)
termination_by xs.length
decreasing_by simp only [List.length_drop, List.length_cons]; omega

def words (block : Bytes) : List (BitVec h.width) :=
  (pieces (h.wordBytes - 1) block).map fun b => BitVec.ofNat h.width (Bytes.toNat b)

def digest (message : Bytes) : Bytes :=
  let s := (pieces (h.blockBytes - 1) (h.pad message)).foldl
    (fun s block => h.compress s (h.words block)) (.ofList h.initial)
  (s.toList.flatMap fun w => Bytes.ofNat h.wordBytes w.toNat).take h.size

def hmac (key message : Bytes) : Bytes :=
  let key := if key.length ≤ h.blockBytes then key else h.digest key
  let key := key ++ List.replicate (h.blockBytes - key.length) 0
  h.digest (key.map (· ^^^ 0x5c) ++ h.digest (key.map (· ^^^ 0x36) ++ message))

end Sha2
end ClusterCerts.Crypto
