import ClusterCerts.Json
import ClusterCerts.Text.Shortest

/-!
# Numeric values

What a numeral stands for. Without fraction and exponent it is an integer, as far as 64 bits
go; everything else, and minus zero, is a floating point number. That one is made from the
leading digits that fit 64 bits and one scaling by a power of ten, and has to be finite.
-/

namespace ClusterCerts

namespace Numeral

inductive Value
  | integer (value : Int)
  | floating (value : Float)
  | tooLarge

/-- Digits gathered so far, the power of ten still to apply, and whether later digits are lost. -/
structure Significand where
  value : Nat := 0
  exponent : Int := 0
  full : Bool := false

def largest : Nat := 18446744073709551615

/-- Digits before the point: from the first that does not fit on, each is a factor of ten. -/
def Significand.pushWhole (s : Significand) (c : Char) : Significand :=
  let v := s.value * 10 + (c.toNat - 48)
  if s.full ∨ largest < v then { s with exponent := s.exponent + 1, full := true }
  else { s with value := v }

/-- Digits after the point: from the first that does not fit on, none counts. -/
def Significand.pushFraction (s : Significand) (c : Char) : Significand :=
  let v := s.value * 10 + (c.toNat - 48)
  if s.full ∨ largest < v then { s with full := true }
  else { s with value := v, exponent := s.exponent - 1 }

def powerOfTen (k : Nat) : Float := Float.ofScientific 1 false k

/-- One scaling by a power of ten, or several downwards when one does not reach. -/
def scale (fuel : Nat) (x : Float) (e : Int) : Option Float :=
  if 0 ≤ e then
    if 308 < e then (if x == 0 then some x else none)
    else
      let y := x * powerOfTen e.toNat
      if y.isInf then none else some y
  else if e.natAbs ≤ 308 then some (x / powerOfTen e.natAbs)
  else if x == 0 then some x
  else match fuel with
    | 0 => some x
    | k + 1 => scale k (x / powerOfTen 308) (e + 308)

def floating? (n : Numeral) : Option Float :=
  let whole := n.whole.foldl Significand.pushWhole {}
  let s := n.fraction.foldl Significand.pushFraction { whole with full := false }
  let e : Int := match n.exponent with
    | none => 0
    | some (negative, ds) =>
      let k : Int := Nat.ofDigitChars 10 ds 0
      if negative then -k else k
  let x := (UInt64.ofNat s.value).toFloat
  (scale (s.exponent + e).natAbs x (s.exponent + e)).map fun x => if n.negative then -x else x

def value (n : Numeral) : Value :=
  let m := Nat.ofDigitChars 10 n.whole 0
  let fits := if n.negative then 0 < m ∧ m ≤ 9223372036854775808 else m ≤ largest
  if n.fraction.isEmpty ∧ n.exponent.isNone ∧ fits then .integer (if n.negative then -m else m)
  else match n.floating? with
    | some x => .floating x
    | none => .tooLarge

end Numeral

namespace Json

mutual

/-- Every string is made of whole characters, every number is finite, and containers nest at
most so deep. -/
def isSound (depth : Nat) : Json → Bool
  | null | bool _ => true
  | number n => match n.value with
    | .tooLarge => false
    | _ => true
  | string raw => (unescape raw).isSome
  | array items => 0 < depth && areSound (depth - 1) items
  | object members => 0 < depth && membersSound (depth - 1) members

def areSound (depth : Nat) : List Json → Bool
  | [] => true
  | x :: xs => isSound depth x && areSound depth xs

def membersSound (depth : Nat) : List (List Char × Json) → Bool
  | [] => true
  | (k, x) :: ms => (unescape k).isSome && isSound depth x && membersSound depth ms

end

end Json
end ClusterCerts
