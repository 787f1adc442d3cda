import ClusterCerts.Text.Bytes

/-!
# AES

Encryption with 256-bit keys, block after block. Bytes stand for polynomials over the field of
two elements; the substitution is the inverse modulo a polynomial, followed by an affine map.
-/

namespace ClusterCerts.Crypto.Aes

def double (b : UInt8) : UInt8 := (b <<< 1) ^^^ (if 128 ≤ b then 0x1b else 0)

def mul (a b : UInt8) : UInt8 :=
  ((List.range 8).reverse).foldl (fun s i => double s ^^^ (if b.toNat.testBit i then a else 0)) 0

/-- The inverse, which is the power with exponent 254. -/
def inverse (b : UInt8) : UInt8 :=
  let squares := (List.range 6).scanl (fun s _ => mul s s) (mul b b)
  squares.foldl mul 1

def rotate (k : UInt8) (b : UInt8) : UInt8 := (b <<< k) ||| (b >>> (8 - k))

def substitute (b : UInt8) : UInt8 :=
  let s := inverse b
  s ^^^ rotate 1 s ^^^ rotate 2 s ^^^ rotate 3 s ^^^ rotate 4 s ^^^ 0x63

def table : Array UInt8 := ((List.range 256).map fun n => substitute (UInt8.ofNat n)).toArray

def lookup (b : UInt8) : UInt8 := table.getD b.toNat 0

def xor (a b : Bytes) : Bytes := List.zipWith (· ^^^ ·) a b

/-- Words of the key schedule from the eighth on, newest first; `k` is how many are to come. -/
def schedule : Nat → UInt8 → List Bytes → List Bytes
  | 0, _, ws => ws
  | k + 1, round, ws =>
    let last := ws.getD 0 []
    let (mixed, next) :=
      if ws.length % 8 = 0 then
        (xor ((last.drop 1 ++ last.take 1).map lookup) [round, 0, 0, 0], double round)
      else if ws.length % 8 = 4 then (last.map lookup, round)
      else (last, round)
    schedule k next (xor mixed (ws.getD 7 []) :: ws)

def pieces (size : Nat) : Nat → Bytes → List Bytes
  | 0, _ => []
  | k + 1, b => b.take size :: pieces size k (b.drop size)

def roundKeys (key : Bytes) : List Bytes :=
  pieces 16 15 (schedule 52 1 (pieces 4 8 key).reverse).reverse.flatten

/-- The byte at a place moves against its row, which is the place modulo four. -/
def shiftRows (s : Bytes) : Bytes := (List.range 16).map fun i => s.getD ((i + 4 * (i % 4)) % 16) 0

def mixColumn : Bytes → Bytes
  | [a, b, c, d] =>
    let t := a ^^^ b ^^^ c ^^^ d
    [a ^^^ t ^^^ double (a ^^^ b), b ^^^ t ^^^ double (b ^^^ c), c ^^^ t ^^^ double (c ^^^ d),
      d ^^^ t ^^^ double (d ^^^ a)]
  | column => column

def encryptBlock (keys : List Bytes) (block : Bytes) : Bytes :=
  match keys with
  | [] => block
  | first :: keys =>
    let rounds := keys.dropLast.foldl
      (fun s k => xor ((pieces 4 4 (shiftRows (s.map lookup))).flatMap mixColumn) k)
      (xor block first)
    xor (shiftRows (rounds.map lookup)) (keys.getLast?.getD [])

def pad (message : Bytes) : Bytes :=
  let k := 16 - message.length % 16
  message ++ List.replicate k (UInt8.ofNat k)

def encrypt (key iv message : Bytes) : Bytes :=
  let keys := roundKeys key
  let padded := pad message
  let (_, out) := (pieces 16 (padded.length / 16) padded).foldl (fun (previous, out) block =>
    let c := encryptBlock keys (xor block previous)
    (c, out ++ [c])) (iv, [])
  out.flatten

end ClusterCerts.Crypto.Aes
