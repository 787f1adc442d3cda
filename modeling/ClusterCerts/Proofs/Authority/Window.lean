import ClusterCerts.Proofs.Calendar.DayNumber
import ClusterCerts.Proofs.Calendar.Shift
import ClusterCerts.Window

/-!
# The ends of a window of validity

A window begins an hour before the clock and ends so many days after it, as in arithmetic without
bounds: an end that is no instant is refused like one after the year 9999. Of a clock that is not
long before the first year of certificates nothing else is refused.
-/

namespace ClusterCerts.Window

variable {days : UInt32} {now t : Instant} {w : Window} {s : Int} {err : Error}

/-- Going back from a leap second starts at the second after it. -/
def begins (now : Instant) : Int := now.seconds + now.leap - 3600

def EndsLate (days : UInt32) (now : Instant) : Prop :=
  9999 < yearOfSecond (now.seconds + 86400 * days.toNat)

instance (days : UInt32) (now : Instant) : Decidable (EndsLate days now) :=
  inferInstanceAs (Decidable (_ < _))

theorem zero_le_year_begins (hclock : 0 ≤ now.seconds) : 0 ≤ yearOfSecond (begins now) := by
  have hyear : yearOfSecond (-86400) = 1969 := by decide
  have hbegins : -86400 ≤ begins now := by
    unfold begins
    omega
  have hmono := yearOfSecond_mono hbegins
  omega

theorem begins_le (now : Instant) (days : UInt32) :
    begins now ≤ now.seconds + 86400 * days.toNat := by
  have hleap := now.leap_le
  unfold begins
  omega

theorem timestamp_cases (t : Instant) :
    timestamp t = .ok t.seconds ∨ timestamp t = .error (.generation "invalid timestamp") := by
  unfold timestamp
  split_ifs
  · exact .inl rfl
  · exact .inr rfl

theorem begin_of_shift? (h : now.shift? (-3600) = some t) : t.seconds = begins now := by
  rw [Instant.seconds_of_shift?_back (by decide) h]
  unfold begins
  omega

theorem filter_shift?_of_late (hdays : days ≠ 0) (hlate : EndsLate days now) :
    (now.shift? (spanOfDays days)).filter (fun stop => stop.year ≤ 9999) = none := by
  have hpos : days.toNat ≠ 0 := fun h => hdays (UInt32.toNat_inj.1 h)
  rw [spanOfDays_eq]
  by_cases hlast : now.seconds + 86400 * days.toNat ≤ 8210266876799
  · obtain ⟨stop, hstop⟩ := Instant.shift?_forward (by omega) hlast
    have hyear : 9999 < stop.year := by
      rw [Instant.year, Instant.seconds_of_shift?_forward (by omega) hstop]
      exact hlate
    simp [hstop, hyear]
  · rw [Instant.shift?_past_end (by omega) (by omega)]
    rfl

theorem filter_shift?_of_not_late (hdays : days ≠ 0) (hlate : ¬EndsLate days now) :
    ∃ stop, (now.shift? (spanOfDays days)).filter (fun stop => stop.year ≤ 9999) = some stop ∧
      stop.seconds = now.seconds + 86400 * days.toNat := by
  have hpos : days.toNat ≠ 0 := fun h => hdays (UInt32.toNat_inj.1 h)
  have hlast : now.seconds + 86400 * days.toNat ≤ 8210266876799 := by
    by_contra hpast
    have hyear : yearOfSecond 8210266876799 = 262142 := rfl
    have hmono := yearOfSecond_mono (Int.le_of_lt (Int.not_le.1 hpast))
    unfold EndsLate at hlate
    omega
  rw [spanOfDays_eq]
  obtain ⟨stop, hstop⟩ := Instant.shift?_forward (by omega) hlast
  have hseconds := Instant.seconds_of_shift?_forward (by omega) hstop
  have hyear : stop.year ≤ 9999 := by
    rw [Instant.year, hseconds]
    exact Int.not_lt.1 hlate
  exact ⟨stop, by simp [hstop, hyear], hseconds⟩

theorem ofDays_zero (now : Instant) : ofDays 0 now = .error (.validation .zeroValidity) :=
  if_pos rfl

variable {start : Instant}

theorem ofDays_of_no_start (hdays : days ≠ 0) (hstart : now.shift? (-3600) = none) :
    ofDays days now = .error (.generation "invalid start of validity") := by
  rw [ofDays, if_neg hdays, hstart]

theorem ofDays_of_late (hdays : days ≠ 0) (hstart : now.shift? (-3600) = some start)
    (hlate : EndsLate days now) :
    ofDays days now = .error (.validation (.validityOutOfRange days)) := by
  rw [ofDays, if_neg hdays, hstart]
  simp only [filter_shift?_of_late hdays hlate]

theorem ofDays_of_not_late (hdays : days ≠ 0) (hstart : now.shift? (-3600) = some start)
    (hlate : ¬EndsLate days now) : ∃ stop : Instant,
      stop.seconds = now.seconds + 86400 * days.toNat ∧
      ofDays days now = do
        let notBefore ← timestamp start
        let notAfter ← timestamp stop
        return ⟨notBefore, notAfter⟩ := by
  obtain ⟨stop, hstop, hends⟩ := filter_shift?_of_not_late hdays hlate
  refine ⟨stop, hends, ?_⟩
  rw [ofDays, if_neg hdays, hstart]
  simp only [hstop]

theorem ofDays_cases (hdays : days ≠ 0) (hstart : now.shift? (-3600) = some start)
    (hlate : ¬EndsLate days now) :
    ofDays days now = .ok ⟨begins now, now.seconds + 86400 * days.toNat⟩ ∨
      ofDays days now = .error (.generation "invalid timestamp") := by
  obtain ⟨stop, hends, hdo⟩ := ofDays_of_not_late hdays hstart hlate
  rw [hdo]
  rcases timestamp_cases start with hbefore | hbefore
  · rcases timestamp_cases stop with hafter | hafter
    · left
      rw [hbefore, hafter, begin_of_shift? hstart, hends]
      rfl
    · right
      rw [hbefore, hafter]
      rfl
  · right
    rw [hbefore]
    rfl

theorem ofDays_ok (h : ofDays days now = .ok w) :
    w = ⟨begins now, now.seconds + 86400 * days.toNat⟩ ∧ yearOfSecond w.notAfter ≤ 9999 := by
  have hdays : days ≠ 0 := by
    rintro rfl
    rw [ofDays_zero] at h
    cases h
  cases hstart : now.shift? (-3600) with
  | none =>
    rw [ofDays_of_no_start hdays hstart] at h
    cases h
  | some start =>
    by_cases hlate : EndsLate days now
    · rw [ofDays_of_late hdays hstart hlate] at h
      cases h
    · rcases ofDays_cases hdays hstart hlate with hok | herror
      · obtain rfl := Except.ok.inj (h.symm.trans hok)
        exact ⟨rfl, Int.not_lt.1 hlate⟩
      · rw [herror] at h
        cases h

theorem le_of_ofDays (h : ofDays days now = .ok w) : w.notBefore ≤ w.notAfter := by
  rw [(ofDays_ok h).1]
  exact begins_le now days

theorem timestamp_of_mem (hfirst : 0 ≤ t.year) (hlast : t.year ≤ 9999) :
    timestamp t = .ok t.seconds := if_pos ⟨by omega, hlast⟩

/-- No number of days overflows. Unless the window would begin before the year 0, what is refused is
what arithmetic without bounds refuses. -/
theorem ofDays_eq (hbegins : 0 ≤ yearOfSecond (begins now)) (days : UInt32) :
    ofDays days now =
      if days = 0 then .error (.validation .zeroValidity)
      else if EndsLate days now then .error (.validation (.validityOutOfRange days))
      else .ok ⟨begins now, now.seconds + 86400 * days.toNat⟩ := by
  have hfirst : -8334601228800 ≤ now.seconds + -3600 := by
    by_contra hbelow
    have hyear : yearOfSecond (-8334601228800) = -262143 := by decide
    have hleap := now.leap_le
    have hmono : yearOfSecond (begins now) ≤ yearOfSecond (-8334601228800) := by
      apply yearOfSecond_mono
      unfold begins
      omega
    omega
  obtain ⟨start, hstart⟩ := Instant.shift?_back (by decide) hfirst
  split_ifs with hzero hlate
  · rw [hzero, ofDays_zero]
  · exact ofDays_of_late hzero hstart hlate
  · obtain ⟨stop, hends, hdo⟩ := ofDays_of_not_late hzero hstart hlate
    have hstop : stop.year ≤ 9999 := by
      rw [Instant.year, hends]
      exact Int.not_lt.1 hlate
    have hbegin := begin_of_shift? hstart
    have horder : start.year ≤ stop.year := by
      rw [Instant.year, Instant.year, hbegin, hends]
      exact yearOfSecond_mono (begins_le now days)
    have hzero : 0 ≤ start.year := by
      rw [Instant.year, hbegin]
      exact hbegins
    rw [hdo, timestamp_of_mem hzero (by omega), timestamp_of_mem (by omega) hstop, hbegin, hends]
    rfl

theorem ofDays_error_iff (hbegins : 0 ≤ yearOfSecond (begins now)) :
    ofDays days now = .error err ↔
      days = 0 ∧ err = .validation .zeroValidity ∨
        days ≠ 0 ∧ EndsLate days now ∧ err = .validation (.validityOutOfRange days) := by
  rw [ofDays_eq hbegins]
  split_ifs with hzero hlate <;> simp [*, eq_comm]

theorem exists_ofDays_iff (hbegins : 0 ≤ yearOfSecond (begins now)) :
    (∃ w, ofDays days now = .ok w) ↔ days ≠ 0 ∧ ¬EndsLate days now := by
  rw [ofDays_eq hbegins]
  split_ifs with hzero hlate <;> simp [*]

theorem writable_of_ofDays (h : ofDays days now = .ok w) :
    w.Writable ↔ 0 ≤ yearOfSecond (begins now) := by
  rw [(ofDays_ok h).1]
  rfl

theorem ofDays_of_early (hdays : days ≠ 0) (hlate : ¬EndsLate days now)
    (hearly : yearOfSecond (begins now) < 0) :
    (∃ detail, ofDays days now = .error (.generation detail)) ∨
      ∃ w, ofDays days now = .ok w ∧ ¬w.Writable := by
  cases hstart : now.shift? (-3600) with
  | none => exact .inl ⟨_, ofDays_of_no_start hdays hstart⟩
  | some start =>
    rcases ofDays_cases hdays hstart hlate with hok | herror
    · refine .inr ⟨_, hok, ?_⟩
      rw [writable_of_ofDays hok]
      exact Int.not_le.2 hearly
    · exact .inl ⟨_, herror⟩

end ClusterCerts.Window
