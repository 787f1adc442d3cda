import ClusterCerts.Text.Bytes

/-!
# Base64

The standard alphabet with padding. Reading is strict: no blanks, full padding, and the
bits that a padded group leaves over are zero, so each byte string has one spelling.
The joined form also takes padded groups that more text follows.
-/

namespace ClusterCerts.Base64

def symbol (n : Nat) : Char :=
  if n < 26 then Char.ofNat (65 + n)
  else if n < 52 then Char.ofNat (71 + n)
  else if n < 62 then Char.ofNat (n - 4)
  else if n = 62 then '+'
  else '/'

def value? (c : Char) : Option Nat :=
  let n := c.toNat
  if 65 ≤ n ∧ n ≤ 90 then some (n - 65)
  else if 97 ≤ n ∧ n ≤ 122 then some (n - 71)
  else if 48 ≤ n ∧ n ≤ 57 then some (n + 4)
  else if c = '+' then some 62
  else if c = '/' then some 63
  else none

def encode : Bytes → List Char
  | [] => []
  | [a] => [symbol (a.toNat / 4), symbol (a.toNat % 4 * 16), '=', '=']
  | [a, b] =>
    [symbol (a.toNat / 4), symbol (a.toNat % 4 * 16 + b.toNat / 16), symbol (b.toNat % 16 * 4), '=']
  | a :: b :: c :: r =>
    symbol (a.toNat / 4) :: symbol (a.toNat % 4 * 16 + b.toNat / 16) ::
      symbol (b.toNat % 16 * 4 + c.toNat / 64) :: symbol (c.toNat % 64) :: encode r

def group? (a b c d : Char) : Option Bytes := do
  let a ← value? a
  let b ← value? b
  if c = '=' ∧ d = '=' then
    guard (b % 16 = 0)
    return [UInt8.ofNat (a * 4 + b / 16)]
  let c ← value? c
  if d = '=' then
    guard (c % 4 = 0)
    return [UInt8.ofNat (a * 4 + b / 16), UInt8.ofNat (b % 16 * 16 + c / 4)]
  let d ← value? d
  return [UInt8.ofNat (a * 4 + b / 16), UInt8.ofNat (b % 16 * 16 + c / 4),
    UInt8.ofNat (c % 4 * 64 + d)]

/-- Reads groups of four characters. Only the last may be padded, unless `joined`. -/
def decodeGroups? (joined : Bool) : List Char → Option Bytes
  | [] => some []
  | a :: b :: c :: d :: r => do
    let bytes ← group? a b c d
    guard (joined ∨ bytes.length = 3 ∨ r = [])
    let more ← decodeGroups? joined r
    return bytes ++ more
  | _ => none

def decode? (cs : List Char) : Option Bytes := decodeGroups? false cs

def decodeJoined? (cs : List Char) : Option Bytes := decodeGroups? true cs

def encodeString (b : Bytes) : String := String.ofList (encode b)

def decodeString? (s : String) : Option Bytes := decode? s.toList

end ClusterCerts.Base64
