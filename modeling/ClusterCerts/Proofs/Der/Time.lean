import ClusterCerts.Der.Time
import ClusterCerts.Proofs.Calendar.DayNumber
import ClusterCerts.Proofs.Der.Elements

/-!
# Reading times that were written

Digits that were padded read back as their number, so a time reads back as the second that was
written, in either form. The short form is written just for the years that its two digits stand
for, and four digits are enough for the long form up to the year 9999.
-/

namespace ClusterCerts

namespace Der

def digits (n : Nat) : Bytes := Bytes.ofAscii (Decimal.padded 2 n)

theorem digits_eq {n : Nat} (h : n < 100) :
    digits n = [UInt8.ofNat (48 + n / 10), UInt8.ofNat (48 + n % 10)] := by
  have hdigit : ∀ d < 10, UInt8.ofNat (Nat.digitChar d).toNat = UInt8.ofNat (48 + d) := by decide
  have htens := hdigit (n / 10) (by omega)
  have hones := hdigit (n % 10) (by omega)
  rw [digits, Decimal.padded_two h]
  simp only [Bytes.ofAscii, List.map_cons, List.map_nil, htens, hones]

theorem twoDigits_digits {n : Nat} (h : n < 100) :
    twoDigits (UInt8.ofNat (48 + n / 10)) (UInt8.ofNat (48 + n % 10)) = some n := by
  have htens : (UInt8.ofNat (48 + n / 10)).toNat = 48 + n / 10 := by simp; omega
  have hones : (UInt8.ofNat (48 + n % 10)).toNat = 48 + n % 10 := by simp; omega
  simp only [twoDigits, htens, hones, Nat.add_sub_cancel_left]
  rw [if_pos (by omega)]
  congr 1
  omega

theorem fields_lt {t : CivilTime} (h : t.IsReal) :
    t.month < 100 ∧ t.day < 100 ∧ t.hour < 100 ∧ t.minute < 100 ∧ t.second < 100 := by
  obtain ⟨⟨-, hmonth, -, hday⟩, hhour, hminute, hsecond⟩ := h
  have hlast := Date.daysInMonth_le t.year t.month
  omega

theorem dateAndMinute_digits {t : CivilTime} (h : t.IsReal) (r : Bytes) :
    dateAndMinute t.year
        (digits t.month ++ (digits t.day ++ (digits t.hour ++ (digits t.minute ++ r)))) =
      some ({ t with second := 0 }, r) := by
  obtain ⟨hmonth, hday, hhour, hminute, -⟩ := fields_lt h
  simp only [digits_eq, hmonth, hday, hhour, hminute, List.cons_append, List.nil_append,
    dateAndMinute, twoDigits_digits, Option.bind_eq_bind, Option.bind_some, Option.pure_def]

theorem timeTail_eq (t : CivilTime) :
    Bytes.ofAscii (timeTail t) =
      digits t.month ++ (digits t.day ++ (digits t.hour ++ (digits t.minute ++
        (digits t.second ++ [0x5a])))) := by
  have hend : Bytes.ofAscii ['Z'] = [0x5a] := rfl
  simp only [timeTail, Bytes.ofAscii, List.map_append, List.append_assoc] at hend ⊢
  rw [hend]
  rfl

theorem shortTime?_digits {t : CivilTime} (h : t.IsReal) (h₀ : 1950 ≤ t.year) (h₁ : t.year < 2050) :
    shortTime? (digits (t.year % 100).toNat ++ Bytes.ofAscii (timeTail t)) = some t.seconds := by
  have hcentury : (t.year % 100).toNat < 100 := by omega
  have hsecond := (fields_lt h).2.2.2.2
  have hyear : (if 50 ≤ (t.year % 100).toNat then 1900 + ((t.year % 100).toNat : Int)
      else 2000 + ((t.year % 100).toNat : Int)) = t.year := by
    split <;> omega
  have hguard : (guard t.IsReal : Option Unit) = some () := if_pos h
  rw [timeTail_eq, digits_eq hcentury]
  simp only [List.cons_append, List.nil_append, shortTime?, twoDigits_digits hcentury,
    Option.bind_eq_bind, Option.bind_some, hyear, dateAndMinute_digits h, digits_eq hsecond,
    shortSecond, twoDigits_digits hsecond, Option.getD_some, hguard, offset?, Option.pure_def,
    Int.sub_zero]

theorem longTime?_digits {t : CivilTime} (h : t.IsReal) (h₀ : 0 ≤ t.year) (h₁ : t.year ≤ 9999) :
    longTime? (digits (t.year.toNat / 100) ++ digits (t.year.toNat % 100) ++
      Bytes.ofAscii (timeTail t)) = some t.seconds := by
  have hcentury : t.year.toNat / 100 < 100 := by omega
  have hyears : t.year.toNat % 100 < 100 := by omega
  have hsecond := (fields_lt h).2.2.2.2
  have hyear : (100 * ((t.year.toNat / 100 : Nat) : Int) + ((t.year.toNat % 100 : Nat) : Int)) =
      t.year := by
    omega
  have hguard : (guard t.IsReal : Option Unit) = some () := if_pos h
  rw [timeTail_eq, digits_eq hcentury, digits_eq hyears]
  simp only [List.cons_append, List.nil_append, longTime?, twoDigits_digits hcentury,
    twoDigits_digits hyears, Option.bind_eq_bind, Option.bind_some, hyear, dateAndMinute_digits h,
    digits_eq hsecond, twoDigits_digits hsecond, Option.map_some, hguard, isLongEnd,
    Option.pure_def]
  rfl

theorem length_digits {n : Nat} (h : n < 100) : (digits n).length = 2 := by
  rw [digits_eq h]
  rfl

theorem length_timeTail {t : CivilTime} (h : t.IsReal) :
    (Bytes.ofAscii (timeTail t)).length = 11 := by
  obtain ⟨hmonth, hday, hhour, hminute, hsecond⟩ := fields_lt h
  simp only [timeTail_eq, List.length_append, length_digits, hmonth, hday, hhour, hminute, hsecond,
    List.length_singleton]

theorem reads_shortForm {content : Bytes} {s : Int} (hshort : Short content)
    (h : shortTime? content = some s) : Reads time (encode 0x17 content) s := by
  intro r
  have helement := reads_encode 0x17 (by decide) hshort r
  have hnumber : (ofTag 0x17 content).number = utcTimeTag := rfl
  have hcontent : (ofTag 0x17 content).content = content := rfl
  simp only [time, helement, Option.bind_eq_bind, Option.bind_some, hnumber, if_true, hcontent, h,
    Option.pure_def]

theorem reads_longForm {content : Bytes} {s : Int} (hshort : Short content)
    (h : longTime? content = some s) : Reads time (encode 0x18 content) s := by
  intro r
  have helement := reads_encode 0x18 (by decide) hshort r
  have hnumber : (ofTag 0x18 content).number = generalizedTimeTag := rfl
  have hother : generalizedTimeTag ≠ utcTimeTag := by decide
  have hcontent : (ofTag 0x18 content).content = content := rfl
  simp only [time, helement, Option.bind_eq_bind, Option.bind_some, hnumber, if_neg hother, if_true,
    hcontent, h, Option.pure_def]

theorem reads_shortTime {t : CivilTime} (h : t.IsReal) (h₀ : 1950 ≤ t.year) (h₁ : t.year < 2050) :
    Reads time
      (encode 0x17 (Bytes.ofAscii (Decimal.padded 2 (t.year % 100).toNat ++ timeTail t)))
      t.seconds := by
  have hcentury : (t.year % 100).toNat < 100 := by omega
  have htext : Bytes.ofAscii (Decimal.padded 2 (t.year % 100).toNat ++ timeTail t) =
      digits (t.year % 100).toNat ++ Bytes.ofAscii (timeTail t) := by
    simp [Bytes.ofAscii, digits]
  rw [htext]
  apply reads_shortForm
  · apply short_of_length_le
    rw [List.length_append, length_digits hcentury, length_timeTail h]
    decide
  · exact shortTime?_digits h h₀ h₁

theorem reads_longTime {t : CivilTime} (h : t.IsReal) (h₀ : 0 ≤ t.year) (h₁ : t.year ≤ 9999) :
    Reads time (encode 0x18 (Bytes.ofAscii (Decimal.padded 4 t.year.toNat ++ timeTail t)))
      t.seconds := by
  have hcentury : t.year.toNat / 100 < 100 := by omega
  have hyears : t.year.toNat % 100 < 100 := by omega
  have htext : Bytes.ofAscii (Decimal.padded 4 t.year.toNat ++ timeTail t) =
      digits (t.year.toNat / 100) ++ digits (t.year.toNat % 100) ++
        Bytes.ofAscii (timeTail t) := by
    rw [Decimal.padded_four]
    simp [Bytes.ofAscii, digits]
  rw [htext]
  apply reads_longForm
  · apply short_of_length_le
    rw [List.length_append, List.length_append, length_digits hcentury, length_digits hyears,
      length_timeTail h]
  · exact longTime?_digits h h₀ h₁

theorem reads_encodeTime {s : Int} (h₀ : 0 ≤ yearOfSecond s) (h₁ : yearOfSecond s ≤ 9999) :
    Reads time (encodeTime s) s := by
  have hreal := CivilTime.isReal_ofSeconds s
  have hseconds := CivilTime.seconds_ofSeconds s
  unfold yearOfSecond at h₀ h₁
  simp only [encodeTime]
  split
  · next hyear =>
    have hread := reads_shortTime hreal hyear.1 hyear.2
    rwa [hseconds] at hread
  · have hread := reads_longTime hreal h₀ h₁
    rwa [hseconds] at hread

end Der
end ClusterCerts
