/-!
# Calendar

The proleptic Gregorian calendar: the number of a day counted from 1970-01-01, the date of a
day number, and the second of a time of day. Year 0 exists and years before it are negative.
-/

namespace ClusterCerts

structure Date where
  year : Int
  month : Nat
  day : Nat
deriving DecidableEq, Repr

namespace Date

def isLeap (year : Int) : Bool := year % 4 = 0 ∧ (year % 100 ≠ 0 ∨ year % 400 = 0)

def daysInMonth (year : Int) (month : Nat) : Nat :=
  if month = 2 then if isLeap year then 29 else 28
  else if month = 4 ∨ month = 6 ∨ month = 9 ∨ month = 11 then 30
  else 31

def IsReal (d : Date) : Prop :=
  1 ≤ d.month ∧ d.month ≤ 12 ∧ 1 ≤ d.day ∧ d.day ≤ daysInMonth d.year d.month

instance (d : Date) : Decidable d.IsReal := by unfold IsReal; infer_instance

/-- Days since 1970-01-01. Years are counted from March, so a leap day ends its year, and
months from March have the lengths that `(153 * m + 2) / 5` steps through. -/
def dayNumber (d : Date) : Int :=
  let y := if d.month ≤ 2 then d.year - 1 else d.year
  let m : Int := (d.month + 9) % 12
  365 * y + y / 4 - y / 100 + y / 400 + (153 * m + 2) / 5 + d.day - 719469

/-- The date of a day number: first the year within its 400-year era, then the month. -/
def ofDayNumber (n : Int) : Date :=
  let z := n + 719468
  let e := z % 146097
  let yoe := (e - e / 1460 + e / 36524 - e / 146096) / 365
  let doy := e - (365 * yoe + yoe / 4 - yoe / 100)
  let m := (5 * doy + 2) / 153
  let y := yoe + z / 146097 * 400
  let month := if m < 10 then m + 3 else m - 9
  ⟨if month ≤ 2 then y + 1 else y, month.toNat, (doy - (153 * m + 2) / 5 + 1).toNat⟩

end Date

structure CivilTime extends Date where
  hour : Nat
  minute : Nat
  second : Nat
deriving DecidableEq, Repr

namespace CivilTime

def IsReal (t : CivilTime) : Prop :=
  t.toDate.IsReal ∧ t.hour ≤ 23 ∧ t.minute ≤ 59 ∧ t.second ≤ 59

instance (t : CivilTime) : Decidable t.IsReal := by unfold IsReal; infer_instance

def seconds (t : CivilTime) : Int :=
  86400 * t.dayNumber + 3600 * t.hour + 60 * t.minute + t.second

def ofSeconds (s : Int) : CivilTime :=
  let r := (s % 86400).toNat
  { toDate := Date.ofDayNumber (s / 86400)
    hour := r / 3600, minute := r / 60 % 60, second := r % 60 }

end CivilTime

def yearOfSecond (s : Int) : Int := (CivilTime.ofSeconds s).year

example : (⟨1970, 1, 1⟩ : Date).dayNumber = 0 := rfl
example : Date.ofDayNumber 0 = ⟨1970, 1, 1⟩ := rfl
example : Date.ofDayNumber 11016 = ⟨2000, 2, 29⟩ := rfl
example : (⟨0, 2, 29⟩ : Date).dayNumber = -719469 := rfl
example : Date.ofDayNumber (-719469) = ⟨0, 2, 29⟩ := rfl

end ClusterCerts
