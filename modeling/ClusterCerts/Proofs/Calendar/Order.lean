import ClusterCerts.Proofs.Calendar.DayNumber
import ClusterCerts.Proofs.Calendar.Shift

/-!
# The order of dates and times

Dates have the order of their day numbers, and the times that a clock shows have the order of the
seconds at which it shows them: year by year, then by month, day, hour, minute and second. A leap
second is shown as 60 and comes after the second before it.
-/

namespace ClusterCerts

namespace Date

variable {a b : Date}

def Before (a b : Date) : Prop :=
  a.year < b.year ∨ a.year = b.year ∧ (a.month < b.month ∨ a.month = b.month ∧ a.day < b.day)

def monthStart (year : Int) (month : Nat) : Int := (⟨year, month, 1⟩ : Date).dayNumber

theorem dayNumber_eq_monthStart (d : Date) :
    d.dayNumber = monthStart d.year d.month + d.day - 1 := by
  unfold monthStart dayNumber
  simp only
  omega

theorem monthStart_succ (year : Int) {month : Nat} (h₀ : 1 ≤ month) (h₁ : month < 12) :
    monthStart year (month + 1) = monthStart year month + daysInMonth year month := by
  unfold monthStart dayNumber daysInMonth isLeap
  interval_cases month
  case «2» =>
    simp
    split <;> omega
  all_goals
    simp
    omega

theorem monthStart_add_le (year : Int) {month month' : Nat} (h₀ : 1 ≤ month) (h : month < month')
    (h₁ : month' ≤ 12) :
    monthStart year month + daysInMonth year month ≤ monthStart year month' := by
  induction month', h using Nat.le_induction with
  | base => rw [monthStart_succ year h₀ (by omega)]
  | succ month' hle ih =>
    rw [monthStart_succ year (by omega) (by omega)]
    have hprevious := ih (by omega)
    omega

theorem dayNumber_lt (ha : a.IsReal) (hb : b.IsReal) (h : a.Before b) :
    a.dayNumber < b.dayNumber := by
  rcases h with hyear | ⟨hyear, hmonth | ⟨hmonth, hday⟩⟩
  · have hlast := (dayNumber_mem_year ha).2
    have hfirst := (dayNumber_mem_year hb).1
    have hyears := dayNumber_newYear_mono (Int.add_one_le_of_lt hyear)
    omega
  · obtain ⟨hfirst, -, -, hlast⟩ := ha
    obtain ⟨-, hend, hstart, -⟩ := hb
    have hmonths := monthStart_add_le a.year hfirst hmonth hend
    rw [dayNumber_eq_monthStart, dayNumber_eq_monthStart, ← hyear]
    omega
  · rw [dayNumber_eq_monthStart, dayNumber_eq_monthStart, hyear, hmonth]
    omega

end Date

namespace CivilTime

variable {a b : CivilTime}

def Before (a b : CivilTime) : Prop :=
  a.toDate.Before b.toDate ∨ a.toDate = b.toDate ∧ (a.hour < b.hour ∨ a.hour = b.hour ∧
    (a.minute < b.minute ∨ a.minute = b.minute ∧ a.second < b.second))

theorem before_trichotomy (a b : CivilTime) : a.Before b ∨ a = b ∨ b.Before a := by
  obtain ⟨⟨year, month, day⟩, hour, minute, second⟩ := a
  obtain ⟨⟨year', month', day'⟩, hour', minute', second'⟩ := b
  simp only [Before, Date.Before, mk.injEq, Date.mk.injEq]
  omega

end CivilTime

namespace Instant

variable {t t' : Instant}

/-- A clock shows the same second at both; a leap second is not the second before it. -/
def SameSecond (t t' : Instant) : Prop := t.seconds = t'.seconds ∧ t.leap = t'.leap

instance (t t' : Instant) : Decidable (t.SameSecond t') := inferInstanceAs (Decidable (_ ∧ _))

theorem second_of_leap (t : Instant) : t.leap = 0 ∨ t.leap = 1 ∧ t.seconds % 60 = 59 := by
  have hnanos := t.nanos_lt
  unfold leap
  omega

theorem dayNumber_civil (t : Instant) : t.civil.dayNumber = t.seconds / 86400 :=
  Date.dayNumber_ofDayNumber (t.seconds / 86400)

theorem seconds_div_of_civil (h : t.civil.toDate = t'.civil.toDate) :
    t.seconds / 86400 = t'.seconds / 86400 := by
  rw [← dayNumber_civil, ← dayNumber_civil, h]

theorem clock_civil (t : Instant) :
    t.civil.hour = (t.seconds % 86400).toNat / 3600 ∧
    t.civil.minute = (t.seconds % 86400).toNat / 60 % 60 ∧
    t.civil.second = (t.seconds % 86400).toNat % 60 + t.leap := ⟨rfl, rfl, rfl⟩

theorem before_of_civil (h : t.civil.Before t'.civil) : t.Before t' := by
  have hleap := t.second_of_leap
  have hleap' := t'.second_of_leap
  rcases h with hdate | ⟨hdate, hclock⟩
  · have hday := Date.dayNumber_lt (CivilTime.isReal_ofSeconds t.seconds).1
      (CivilTime.isReal_ofSeconds t'.seconds).1 hdate
    rw [CivilTime.ofSeconds, CivilTime.ofSeconds, Date.dayNumber_ofDayNumber,
      Date.dayNumber_ofDayNumber] at hday
    unfold Before
    omega
  · have hday := seconds_div_of_civil hdate
    obtain ⟨hhour, hminute, hsecond⟩ := clock_civil t
    obtain ⟨hhour', hminute', hsecond'⟩ := clock_civil t'
    rw [hhour, hhour', hminute, hminute', hsecond, hsecond'] at hclock
    unfold Before
    unfold leap at *
    omega

theorem civil_eq_iff : t.civil = t'.civil ↔ t.SameSecond t' := by
  constructor
  · intro h
    have hday := seconds_div_of_civil (congrArg CivilTime.toDate h)
    have hleap := t.second_of_leap
    have hleap' := t'.second_of_leap
    obtain ⟨hhour, hminute, hsecond⟩ := clock_civil t
    obtain ⟨hhour', hminute', hsecond'⟩ := clock_civil t'
    rw [h] at hhour hminute hsecond
    unfold SameSecond
    omega
  · rintro ⟨hseconds, hleap⟩
    unfold leap at hleap
    rw [civil, civil, hseconds, hleap]

theorem civil_before_iff (h : ¬t.SameSecond t') : t.civil.Before t'.civil ↔ t.Before t' := by
  constructor
  · exact before_of_civil
  · intro hbefore
    rcases CivilTime.before_trichotomy t.civil t'.civil with hcivil | heq | hcivil
    · exact hcivil
    · exact absurd (civil_eq_iff.1 heq) h
    · have hafter := before_of_civil hcivil
      unfold Before at hbefore hafter
      omega

end Instant
end ClusterCerts
