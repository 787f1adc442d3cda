import ClusterCerts.Calendar
import ClusterCerts.Der
import ClusterCerts.Text.Decimal

/-!
# Times in certificates

The two forms of a time. The short one has a year of two digits that stands for 1950 to 2049
and may carry an offset from universal time; the long one has a year of four digits, may carry
a fraction of a second, which is dropped, and ends in `Z`. Times up to 2049 are written in the
short form and later ones in the long form.
-/

namespace ClusterCerts.Der

def twoDigits (a b : UInt8) : Option Nat :=
  if 48 ≤ a.toNat ∧ a.toNat ≤ 57 ∧ 48 ≤ b.toNat ∧ b.toNat ≤ 57 then
    some ((a.toNat - 48) * 10 + (b.toNat - 48))
  else none

def dateAndMinute (year : Int) : Reader CivilTime
  | mo₁ :: mo₂ :: d₁ :: d₂ :: h₁ :: h₂ :: mi₁ :: mi₂ :: r => do
    let month ← twoDigits mo₁ mo₂
    let day ← twoDigits d₁ d₂
    let hour ← twoDigits h₁ h₂
    let minute ← twoDigits mi₁ mi₂
    return ({ year, month, day, hour, minute, second := 0 }, r)
  | _ => none

/-- The offset from universal time in seconds: `Z`, or a sign with hours and minutes. Without
hours the sign of the minutes does not count. -/
def offset? : Bytes → Option Int
  | [0x5a] => some 0
  | [sign, h₁, h₂, m₁, m₂] => do
    let h ← twoDigits h₁ h₂
    let m ← twoDigits m₁ m₂
    guard (h ≤ 25 ∧ m ≤ 59)
    if sign = 0x2b then return 3600 * h + 60 * m
    else if sign = 0x2d then return if h = 0 then 60 * m else -(3600 * h + 60 * m)
    else none
  | _ => none

/-- Two places for seconds that may be missing; in the short form places without digits count
as none. -/
def shortSecond : Bytes → Nat × Bytes
  | a :: b :: r => ((twoDigits a b).getD 0, r)
  | r => (0, r)

def shortTime? : Bytes → Option Int
  | y₁ :: y₂ :: r => do
    let y ← twoDigits y₁ y₂
    let (t, r) ← dateAndMinute (if 50 ≤ y then 1900 + y else 2000 + y) r
    let (second, r) := shortSecond r
    let t := { t with second }
    guard t.IsReal
    let offset ← offset? r
    return t.seconds - offset
  | _ => none

def isLongEnd : Bytes → Bool
  | [0x5a] => true
  | 0x2e :: r =>
    let digits := r.takeWhile fun b => 48 ≤ b.toNat && b.toNat ≤ 57
    digits.length ≤ 3 && r.drop digits.length = [0x5a]
  | _ => false

def longTime? : Bytes → Option Int
  | y₁ :: y₂ :: y₃ :: y₄ :: r => do
    let century ← twoDigits y₁ y₂
    let y ← twoDigits y₃ y₄
    let (t, r) ← dateAndMinute (100 * century + y) r
    let (second, r) ← match r with
      | a :: b :: r => (twoDigits a b).map (·, r)
      | r => some (0, r)
    let t := { t with second }
    guard t.IsReal
    guard (isLongEnd r)
    return t.seconds
  | _ => none

def time : Reader Int := fun bytes => do
  let (e, r) ← element bytes
  if e.number = utcTimeTag then return (← shortTime? e.content, r)
  else if e.number = generalizedTimeTag then return (← longTime? e.content, r)
  else none

def timeTail (t : CivilTime) : List Char :=
  Decimal.padded 2 t.month ++ Decimal.padded 2 t.day ++ Decimal.padded 2 t.hour ++
    Decimal.padded 2 t.minute ++ Decimal.padded 2 t.second ++ ['Z']

def encodeTime (s : Int) : Bytes :=
  let t := CivilTime.ofSeconds s
  if 1950 ≤ t.year ∧ t.year < 2050 then
    encode 0x17 (Bytes.ofAscii (Decimal.padded 2 (t.year % 100).toNat ++ timeTail t))
  else encode 0x18 (Bytes.ofAscii (Decimal.padded 4 t.year.toNat ++ timeTail t))

end ClusterCerts.Der
