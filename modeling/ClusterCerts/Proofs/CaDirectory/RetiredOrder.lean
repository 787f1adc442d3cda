import ClusterCerts.Proofs.CaDirectory.Names
import ClusterCerts.Proofs.Calendar.Order
import ClusterCerts.Proofs.Text.ByteOrder

/-!
# The order of retired names

The retired names that pruning knows are those of the years 0 to 9999. Among them two names are
equal only for one second, and a name comes before another, byte by byte, if the certificate of
that name was replaced earlier: every part of a name has a fixed width, and the parts stand in the
order in which a clock counts.
-/

namespace ClusterCerts

namespace Decimal

variable {m n width : Nat}

theorem digitChar_cons_lt_iff (hm : m < 10) (hn : n < 10) (cs ds : List Char) :
    Nat.digitChar m :: cs < Nat.digitChar n :: ds ↔ m < n ∨ m = n ∧ cs < ds := by
  have hlt : Nat.digitChar m < Nat.digitChar n ↔ m < n := by
    have hcode : Nat.digitChar m < Nat.digitChar n ↔
        (Nat.digitChar m).toNat < (Nat.digitChar n).toNat := UInt32.lt_iff_toNat_lt
    rw [hcode, Nat.toNat_digitChar_of_lt_ten hm, Nat.toNat_digitChar_of_lt_ten hn]
    omega
  have heq : Nat.digitChar m = Nat.digitChar n ↔ m = n := by
    rw [← Char.toNat_inj, Nat.toNat_digitChar_of_lt_ten hm, Nat.toNat_digitChar_of_lt_ten hn]
    omega
  rw [List.cons_lt_cons_iff, hlt, heq]

theorem padded_append_lt_iff (hwidth : 0 < width) (hm : m < 10 ^ width) (hn : n < 10 ^ width)
    (cs ds : List Char) :
    padded width m ++ cs < padded width n ++ ds ↔ m < n ∨ m = n ∧ cs < ds := by
  induction width, hwidth using Nat.le_induction generalizing m n cs ds with
  | base =>
    rw [padded_one hm, padded_one hn]
    exact digitChar_cons_lt_iff hm hn cs ds
  | succ width hpos ih =>
    have hm' : m / 10 < 10 ^ width := Nat.div_lt_of_lt_mul (by rwa [Nat.pow_succ'] at hm)
    have hn' : n / 10 < 10 ^ width := Nat.div_lt_of_lt_mul (by rwa [Nat.pow_succ'] at hn)
    rw [padded_succ hpos, padded_succ hpos, List.append_assoc, List.append_assoc, ih hm' hn',
      List.cons_append, List.cons_append, List.nil_append, List.nil_append,
      digitChar_cons_lt_iff (Nat.mod_lt m (by decide)) (Nat.mod_lt n (by decide))]
    by_cases hrest : cs < ds
    · simp only [hrest, and_true]
      omega
    · simp only [hrest, and_false, or_false]
      omega

end Decimal

namespace Retired

variable {t t' : Instant}

theorem isName_eq_false_of_sign (h : ¬(0 ≤ t.year ∧ t.year ≤ 9999)) : isName (name t) = false := by
  have hsign : Text.isDecimalDigit (if t.civil.year < 0 then '-' else '+') = false := by
    split <;> decide
  have hyear : ¬(0 ≤ t.civil.year ∧ t.civil.year ≤ 9999) := h
  rw [isName, toList_name, yearText, if_neg hyear]
  simp [pattern, fits, hsign]

theorem isName_name_iff : isName (name t) = true ↔ 0 ≤ t.year ∧ t.year ≤ 9999 := by
  constructor
  · intro hname
    by_contra hyear
    rw [isName_eq_false_of_sign hyear] at hname
    cases hname
  · exact isName_name

theorem afterYear_lt_iff : afterYear t.civil < afterYear t'.civil ↔
    t.civil.month < t'.civil.month ∨ t.civil.month = t'.civil.month ∧
      (t.civil.day < t'.civil.day ∨ t.civil.day = t'.civil.day ∧
        (t.civil.hour < t'.civil.hour ∨ t.civil.hour = t'.civil.hour ∧
          (t.civil.minute < t'.civil.minute ∨ t.civil.minute = t'.civil.minute ∧
            t.civil.second < t'.civil.second))) := by
  have htwo {m n : Nat} (hm : m < 100) (hn : n < 100) (cs ds : List Char) :=
    Decimal.padded_append_lt_iff (by decide : 0 < 2) hm hn cs ds
  obtain ⟨hmonth, hday, hhour, hminute, hsecond⟩ := civil_lt t
  obtain ⟨hmonth', hday', hhour', hminute', hsecond'⟩ := civil_lt t'
  unfold afterYear
  simp [htwo hmonth hmonth', htwo hday hday', htwo hhour hhour',
    htwo hminute hminute', htwo hsecond hsecond']

theorem name_lt_iff (hyear : 0 ≤ t.civil.year ∧ t.civil.year ≤ 9999)
    (hyear' : 0 ≤ t'.civil.year ∧ t'.civil.year ≤ 9999) :
    name t < name t' ↔ t.civil.Before t'.civil := by
  have hfour := Decimal.padded_append_lt_iff (by decide : 0 < 4) (m := t.civil.year.toNat)
    (n := t'.civil.year.toNat) (by omega) (by omega)
  have hyears : t.civil.year.toNat < t'.civil.year.toNat ↔ t.civil.year < t'.civil.year := by omega
  have hsame : t.civil.year.toNat = t'.civil.year.toNat ↔ t.civil.year = t'.civil.year := by omega
  rw [String.lt_iff_toList_lt, toList_name, toList_name, yearText, yearText, if_pos hyear,
    if_pos hyear']
  simp only [List.cons_lt_cons_iff, hfour, hyears, hsame, afterYear_lt_iff]
  generalize t.civil = c
  generalize t'.civil = c'
  obtain ⟨⟨year, month, day⟩, hour, minute, second⟩ := c
  obtain ⟨⟨year', month', day'⟩, hour', minute', second'⟩ := c'
  simp [CivilTime.Before, Date.Before]
  omega

/-- Pruning knows the retired names of the years 0 to 9999. Of these, instants of one second have
one name, a leap second being a second of its own, and others have names in the order of time. -/
theorem names_in_order :
    (∀ t, isName (name t) = true ↔ 0 ≤ t.year ∧ t.year ≤ 9999) ∧
    ∀ t t', 0 ≤ t.year ∧ t.year ≤ 9999 → 0 ≤ t'.year ∧ t'.year ≤ 9999 →
      (name t = name t' ↔ t.SameSecond t') ∧
      (¬t.SameSecond t' →
        (Bytes.ofString (name t) < Bytes.ofString (name t') ↔ t.Before t')) := by
  refine ⟨fun t => isName_name_iff, fun t t' h h' => ⟨?_, fun hother => ?_⟩⟩
  · rw [name_eq_iff, Instant.civil_eq_iff]
  · rw [Bytes.ofString_lt_iff, name_lt_iff h h', Instant.civil_before_iff hother]

def sampleLeap : Instant := ⟨1483228799, 1000000000, by decide, by decide⟩

/-- A leap second, the second before it and the second after it; and the ends of the calendar. -/
theorem names_in_order_sample :
    name ⟨1483228799, 0, by decide, by decide⟩ =
      name ⟨1483228799, 999999999, by decide, by decide⟩ ∧
    name ⟨1483228799, 999999999, by decide, by decide⟩ ≠ name sampleLeap ∧
    Bytes.ofString (name ⟨1483228799, 999999999, by decide, by decide⟩) <
      Bytes.ofString (name sampleLeap) ∧
    Bytes.ofString (name sampleLeap) < Bytes.ofString (name ⟨1483228800, 0, by decide, by decide⟩) ∧
    isName (name ⟨-8334601228800, 0, by decide, by decide⟩) = false ∧
    isName (name ⟨8210266876799, 0, by decide, by decide⟩) = false := by
  obtain ⟨hknown, horder⟩ := names_in_order
  refine ⟨(horder _ _ ?_ ?_).1.2 ?_, fun h => absurd ((horder _ _ ?_ ?_).1.1 h) ?_,
    ((horder _ _ ?_ ?_).2 ?_).2 ?_, ((horder _ _ ?_ ?_).2 ?_).2 ?_,
    Bool.eq_false_iff.2 fun h => absurd ((hknown _).1 h) ?_,
    Bool.eq_false_iff.2 fun h => absurd ((hknown _).1 h) ?_⟩ <;> decide

end Retired
end ClusterCerts
