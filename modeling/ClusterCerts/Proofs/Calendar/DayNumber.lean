import ClusterCerts.Calendar
import Mathlib.Tactic.ByContra
import Mathlib.Tactic.NormNum
import Mathlib.Tactic.IntervalCases

/-!
# Day numbers and dates

The date of a day number is a date of the calendar and has that number, and the civil time of a
second is a time that a clock shows and has that second. Later days have no earlier year.
-/

namespace ClusterCerts

namespace Date

def plainDays (e : Int) : Int := e - e / 1460 + e / 36524 - e / 146096

def yearStart (y : Int) : Int := 365 * y + y / 4 - y / 100

theorem plainDays_le_succ {e : Int} (h₀ : 0 ≤ e) (h₁ : e < 146096) :
    plainDays e ≤ plainDays (e + 1) := by
  unfold plainDays
  omega

theorem plainDays_mono {e e' : Int} (h₀ : 0 ≤ e) (h : e ≤ e') (h₁ : e' < 146097) :
    plainDays e ≤ plainDays e' := by
  obtain ⟨k, rfl⟩ := Int.le.dest h
  clear h
  induction k with
  | zero => simp
  | succ k ih =>
    have hk := ih (by omega)
    have hs := plainDays_le_succ (e := e + k) (by omega) (by omega)
    rw [Int.add_assoc] at hs
    exact Int.le_trans hk hs

theorem plainDays_yearStart {y : Nat} (h : y < 400) :
    plainDays (yearStart y) / 365 = y ∧ plainDays (yearStart (y + 1) - 1) / 365 = y := by
  revert y
  decide +kernel

def eraYear (e : Int) : Int := plainDays e / 365

theorem eraYear_mem {e : Int} (h₀ : 0 ≤ e) (h₁ : e < 146097) : 0 ≤ eraYear e ∧ eraYear e < 400 := by
  unfold eraYear plainDays
  omega

theorem yearStart_le {e : Int} (h₀ : 0 ≤ e) (h₁ : e < 146097) : yearStart (eraYear e) ≤ e := by
  obtain ⟨hy₀, hy₁⟩ := eraYear_mem h₀ h₁
  obtain ⟨y, hy⟩ := Int.eq_ofNat_of_zero_le hy₀
  rw [hy] at hy₁ ⊢
  by_contra hlt
  -- a day before the start of its year would count as a day of the year before
  cases y with
  | zero => simp [yearStart] at hlt; omega
  | succ y =>
    have hlast := (plainDays_yearStart (y := y) (by omega)).2
    have hbefore : e ≤ yearStart (y + 1) - 1 := by push_cast at hlt; omega
    have hmono := plainDays_mono h₀ hbefore (by unfold yearStart at *; omega)
    unfold eraYear at hy
    push_cast at hy
    omega

theorem lt_yearStart {e : Int} (h₀ : 0 ≤ e) (h₁ : e < 146097) :
    e < yearStart (eraYear e + 1) + if eraYear e = 399 then 1 else 0 := by
  obtain ⟨hy₀, hy₁⟩ := eraYear_mem h₀ h₁
  obtain ⟨y, hy⟩ := Int.eq_ofNat_of_zero_le hy₀
  split
  · next h399 => rw [h399]; exact h₁
  · next h399 =>
    rw [hy] at hy₁ h399 ⊢
    by_contra hge
    have hfirst := (plainDays_yearStart (y := y + 1) (by omega)).1
    have hmono := plainDays_mono (e := yearStart (y + 1)) (by unfold yearStart; omega)
      (by omega) h₁
    unfold eraYear at hy
    push_cast at hfirst
    omega

/-- The day of a year from March on, of a day of an era. -/
def eraDay (e : Int) : Int := e - yearStart (eraYear e)

theorem eraDay_mem {e : Int} (h₀ : 0 ≤ e) (h₁ : e < 146097) : 0 ≤ eraDay e ∧ eraDay e ≤ 365 := by
  have hstart := yearStart_le h₀ h₁
  have hend := lt_yearStart h₀ h₁
  unfold eraDay
  refine ⟨by omega, ?_⟩
  split at hend <;> unfold yearStart at * <;> omega

theorem isLeap_of_eraDay {e : Int} (h₀ : 0 ≤ e) (h₁ : e < 146097) (h : eraDay e = 365) :
    isLeap (eraYear e + 1) = true := by
  have hend := lt_yearStart h₀ h₁
  unfold eraDay at h
  by_cases h399 : eraYear e = 399
  · rw [h399]
    rfl
  · rw [if_neg h399] at hend
    have hquarters : (eraYear e + 1) / 4 ≤ eraYear e / 4 + 1 := by omega
    have hcenturies : eraYear e / 100 ≤ (eraYear e + 1) / 100 := by omega
    have hsum : eraYear e / 4 + (eraYear e + 1) / 100 + 1 ≤
        (eraYear e + 1) / 4 + eraYear e / 100 := by
      unfold yearStart at *
      omega
    simp only [isLeap, decide_eq_true_eq]
    refine ⟨by omega, .inl ?_⟩
    omega

theorem isLeap_add_eras (y k : Int) : isLeap (y + k * 400) = isLeap y := by
  simp only [isLeap, decide_eq_decide]
  omega

def ofMarch (y d : Int) : Date :=
  let m := (5 * d + 2) / 153
  let month := if m < 10 then m + 3 else m - 9
  ⟨if month ≤ 2 then y + 1 else y, month.toNat, (d - (153 * m + 2) / 5 + 1).toNat⟩

theorem ofDayNumber_eq (n : Int) :
    ofDayNumber n =
      ofMarch (eraYear ((n + 719468) % 146097) + (n + 719468) / 146097 * 400)
        (eraDay ((n + 719468) % 146097)) := rfl

theorem isReal_ofMarch {y d : Int} (h₀ : 0 ≤ d) (h₁ : d ≤ 365)
    (hleap : d = 365 → isLeap (y + 1) = true) : (ofMarch y d).IsReal := by
  have hm : (5 * d + 2) / 153 ≤ 11 := by omega
  have hm₀ : 0 ≤ (5 * d + 2) / 153 := by omega
  have hlow : 153 * ((5 * d + 2) / 153) ≤ 5 * d + 2 := by omega
  have hhigh : 5 * d + 2 < 153 * ((5 * d + 2) / 153) + 153 := by omega
  unfold ofMarch IsReal
  generalize (5 * d + 2) / 153 = m at *
  interval_cases m
  case «11» =>
    cases hy : isLeap (y + 1)
    · have hne : d ≠ 365 := fun h => by simp [hleap h] at hy
      simp [daysInMonth, hy]
      omega
    · simp [daysInMonth, hy]
      omega
  all_goals
    simp [daysInMonth]
    omega

theorem dayNumber_ofMarch {y d : Int} (h₀ : 0 ≤ d) (h₁ : d ≤ 365) :
    (ofMarch y d).dayNumber = 365 * y + y / 4 - y / 100 + y / 400 + d - 719468 := by
  have hm : (5 * d + 2) / 153 ≤ 11 := by omega
  have hm₀ : 0 ≤ (5 * d + 2) / 153 := by omega
  have hlow : 153 * ((5 * d + 2) / 153) ≤ 5 * d + 2 := by omega
  have hhigh : 5 * d + 2 < 153 * ((5 * d + 2) / 153) + 153 := by omega
  unfold ofMarch dayNumber
  generalize (5 * d + 2) / 153 = m at *
  interval_cases m <;> simp <;> omega

theorem era_mem (n : Int) : 0 ≤ (n + 719468) % 146097 ∧ (n + 719468) % 146097 < 146097 := by omega

theorem isReal_ofDayNumber (n : Int) : (ofDayNumber n).IsReal := by
  obtain ⟨h₀, h₁⟩ := era_mem n
  obtain ⟨hd₀, hd₁⟩ := eraDay_mem h₀ h₁
  rw [ofDayNumber_eq]
  apply isReal_ofMarch hd₀ hd₁
  intro hday
  rw [Int.add_right_comm, isLeap_add_eras]
  exact isLeap_of_eraDay h₀ h₁ hday

theorem dayNumber_ofDayNumber (n : Int) : (ofDayNumber n).dayNumber = n := by
  obtain ⟨h₀, h₁⟩ := era_mem n
  obtain ⟨hy₀, hy₁⟩ := eraYear_mem h₀ h₁
  obtain ⟨hd₀, hd₁⟩ := eraDay_mem h₀ h₁
  rw [ofDayNumber_eq, dayNumber_ofMarch hd₀ hd₁]
  unfold eraDay yearStart
  omega

theorem daysInMonth_two_le (year : Int) : daysInMonth year 2 ≤ 29 := by
  unfold daysInMonth
  rw [if_pos rfl]
  split <;> decide

theorem daysInMonth_le (year : Int) (month : Nat) : daysInMonth year month ≤ 31 := by
  by_cases h : month = 2
  · have htwo := daysInMonth_two_le year
    rw [h]
    omega
  · unfold daysInMonth
    rw [if_neg h]
    split <;> decide

theorem dayNumber_mem_year {d : Date} (h : d.IsReal) :
    (⟨d.year, 1, 1⟩ : Date).dayNumber ≤ d.dayNumber ∧
      d.dayNumber < (⟨d.year + 1, 1, 1⟩ : Date).dayNumber := by
  obtain ⟨year, month, day⟩ := d
  obtain ⟨hm₀, hm₁, hd₀, hd₁⟩ := h
  have hlast := daysInMonth_le year month
  have hday : month = 2 → day ≤ 29 := by
    intro h
    have htwo := daysInMonth_two_le year
    simp only [h] at hd₁
    omega
  unfold dayNumber
  simp only at *
  interval_cases month <;> simp at * <;> omega

theorem dayNumber_newYear_mono {y y' : Int} (h : y ≤ y') :
    (⟨y, 1, 1⟩ : Date).dayNumber ≤ (⟨y', 1, 1⟩ : Date).dayNumber := by
  obtain ⟨k, rfl⟩ := Int.le.dest h
  clear h
  induction k with
  | zero => simp
  | succ k ih =>
    apply Int.le_trans ih
    simp [dayNumber]
    omega

theorem year_ofDayNumber_mono {n n' : Int} (h : n ≤ n') :
    (ofDayNumber n).year ≤ (ofDayNumber n').year := by
  by_contra hlt
  have hfirst := (dayNumber_mem_year (isReal_ofDayNumber n)).1
  have hlast := (dayNumber_mem_year (isReal_ofDayNumber n')).2
  have hafter : (ofDayNumber n').year + 1 ≤ (ofDayNumber n).year := by omega
  have hyears := dayNumber_newYear_mono hafter
  rw [dayNumber_ofDayNumber] at hfirst hlast
  omega

end Date

namespace CivilTime

theorem isReal_ofSeconds (s : Int) : (ofSeconds s).IsReal := by
  refine ⟨Date.isReal_ofDayNumber (s / 86400), ?_⟩
  simp only [ofSeconds]
  omega

theorem seconds_ofSeconds (s : Int) : (ofSeconds s).seconds = s := by
  have hday : (ofSeconds s).dayNumber = s / 86400 := Date.dayNumber_ofDayNumber (s / 86400)
  unfold seconds
  rw [hday]
  simp only [ofSeconds]
  omega

end CivilTime

theorem yearOfSecond_mono {s s' : Int} (h : s ≤ s') : yearOfSecond s ≤ yearOfSecond s' :=
  Date.year_ofDayNumber_mono (by omega)

end ClusterCerts
