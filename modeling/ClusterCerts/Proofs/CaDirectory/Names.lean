import ClusterCerts.CaDirectory
import ClusterCerts.Proofs.Calendar.DayNumber
import ClusterCerts.Proofs.Files.Entries

/-!
# Names of the entries of a CA

A directory can have entries with the names of the certificate, of the key and of retired
certificates, and these names differ. Two retired names are equal only if a clock showed the same
time, to the second, at both instants.
-/

namespace ClusterCerts

namespace Retired

variable {c : Char} {y y' : Int} {t t' : Instant}

theorem not_mem_padded (hc : c.isDigit = false) (width n : Nat) : c ∉ Decimal.padded width n := by
  intro h
  rw [Decimal.isDigit_of_mem_padded h] at hc
  cases hc

theorem not_mem_yearText (hc : c.isDigit = false) (hplus : c ≠ '+') (hminus : c ≠ '-') (y : Int) :
    c ∉ yearText y := by
  unfold yearText
  split
  · exact not_mem_padded hc _ _
  · intro h
    rcases List.mem_cons.1 h with h | h
    · split at h
      · exact hminus h
      · exact hplus h
    · exact not_mem_padded hc _ _ h

def afterYear (c : CivilTime) : List Char :=
  '-' :: Decimal.padded 2 c.month ++ ('-' :: Decimal.padded 2 c.day ++
    ('T' :: Decimal.padded 2 c.hour ++ ('-' :: Decimal.padded 2 c.minute ++
      ('-' :: Decimal.padded 2 c.second ++ "Z.crt".toList))))

theorem toList_name (t : Instant) :
    (name t).toList = 'c' :: 'a' :: '-' :: (yearText t.civil.year ++ afterYear t.civil) := by
  have hstart : "ca-".toList = ['c', 'a', '-'] := by decide
  unfold name afterYear
  generalize "Z.crt".toList = ending
  generalize t.civil = c
  rw [String.toList_ofList, hstart]
  simp only [List.append_assoc, List.cons_append, List.nil_append]

theorem not_mem_name (hc : c.isDigit = false) (hletters : c ∉ "ca-+TZ.rt".toList) (t : Instant) :
    c ∉ (name t).toList := by
  have hletters' : c ∉ ['c', 'a', '-', '+', 'T', 'Z', '.', 'r', 't'] := by simpa using hletters
  have hend : "Z.crt".toList = ['Z', '.', 'c', 'r', 't'] := by decide
  simp only [List.mem_cons, List.not_mem_nil, not_or] at hletters'
  rw [toList_name, afterYear, hend]
  simp [not_mem_padded hc, not_mem_yearText hc, hletters']

theorem plainName_name (t : Instant) : Files.PlainName (name t) := by
  have hne (s : String) (h : s.toList.length ≤ 2) : name t ≠ s := by
    intro heq
    rw [← heq, toList_name] at h
    simp at h
  exact ⟨⟨hne "" (by decide), not_mem_name (by decide) (by decide) t⟩, hne "." (by decide),
    hne ".." (by decide)⟩

theorem civil_lt (t : Instant) : t.civil.month < 100 ∧ t.civil.day < 100 ∧ t.civil.hour < 100 ∧
    t.civil.minute < 100 ∧ t.civil.second < 100 := by
  obtain ⟨⟨-, hmonth, -, hday⟩, hhour, hminute, hsecond⟩ := CivilTime.isReal_ofSeconds t.seconds
  have hdays := Date.daysInMonth_le (CivilTime.ofSeconds t.seconds).year
    (CivilTime.ofSeconds t.seconds).month
  have hleap : t.nanos / 1000000000 ≤ 1 := by
    have hnanos := t.nanos_lt
    omega
  simp only [Instant.civil]
  omega

theorem length_afterYear (t : Instant) : (afterYear t.civil).length = 20 := by
  have hend : "Z.crt".toList.length = 5 := by decide
  have htwo {n : Nat} (h : n < 100) : (Decimal.padded 2 n).length = 2 :=
    Decimal.length_padded (by decide) h
  obtain ⟨hmonth, hday, hhour, hminute, hsecond⟩ := civil_lt t
  unfold afterYear
  generalize "Z.crt".toList = ending at *
  simp [htwo hmonth, htwo hday, htwo hhour, htwo hminute, htwo hsecond, hend]

theorem length_yearText_le (h : y.natAbs < 1000000) : (yearText y).length ≤ 7 := by
  have hpadded (n : Nat) (hn : n < 1000000) : (Decimal.padded 4 n).length ≤ 6 := by
    have hdigits : (Nat.toDigits 10 n).length ≤ 6 :=
      (Nat.length_toDigits_le_iff (by decide) (by decide)).2 hn
    simp [Decimal.padded]
    omega
  have habs := hpadded _ h
  have hnat := hpadded y.toNat (by omega)
  unfold yearText
  split
  · omega
  · simp
    omega

theorem natAbs_year_lt (t : Instant) : t.civil.year.natAbs < 1000000 := by
  have hfirst : yearOfSecond (-8334601228800) = -262143 := rfl
  have hlast : yearOfSecond 8210266876799 = 262142 := rfl
  have hlow := yearOfSecond_mono t.seconds_mem.1
  have hhigh := yearOfSecond_mono t.seconds_mem.2
  show (yearOfSecond t.seconds).natAbs < 1000000
  omega

theorem length_name_le (t : Instant) : (name t).toList.length ≤ 30 := by
  have hyear := length_yearText_le (natAbs_year_lt t)
  rw [toList_name]
  simp [length_afterYear]
  omega

theorem utf8ByteSize_name (t : Instant) : (name t).utf8ByteSize = (name t).toList.length := by
  have hascii : ∀ c ∈ (name t).toList, c.toNat < 128 := by
    intro c hc
    by_contra hlarge
    have hdigit : c.isDigit = false := by
      rw [Bool.eq_false_iff, ne_eq, Char.isDigit_iff_toNat]
      have hnine : '9'.toNat = 57 := rfl
      omega
    refine not_mem_name hdigit ?_ t hc
    intro hmem
    have hsmall : ("ca-+TZ.rt".toList.all fun c => decide (c.toNat < 128)) = true := by decide
    exact hlarge (of_decide_eq_true (List.all_eq_true.1 hsmall c hmem))
  have hbytes := congrArg List.length (Bytes.ofString_ofList hascii)
  rw [String.ofList_toList] at hbytes
  simpa [Bytes.ofString, Bytes.ofAscii] using hbytes

theorem fileName_name (t : Instant) : Files.FileName (name t) where
  toPlainName := plainName_name t
  no_nul := not_mem_name (by decide) (by decide) t
  length := by
    have hlength := length_name_le t
    rw [utf8ByteSize_name]
    omega

theorem padded_injective {width m n : Nat} (h : Decimal.padded width m = Decimal.padded width n) :
    m = n :=
  Option.some.inj (by rw [← Decimal.read?_padded width m, h, Decimal.read?_padded])

theorem padded_ne_signed (y y' : Int) (width n : Nat) :
    Decimal.padded width n ≠ (if y < 0 then '-' else '+') :: Decimal.padded 4 y'.natAbs := by
  intro h
  have hsign : (if y < 0 then '-' else '+').isDigit = false := by split <;> rfl
  exact not_mem_padded hsign width n (h ▸ List.mem_cons_self)

theorem yearText_injective (h : yearText y = yearText y') : y = y' := by
  unfold yearText at h
  by_cases hy : 0 ≤ y ∧ y ≤ 9999
  · rw [if_pos hy] at h
    by_cases hy' : 0 ≤ y' ∧ y' ≤ 9999
    · rw [if_pos hy'] at h
      have hnat := padded_injective h
      omega
    · rw [if_neg hy'] at h
      exact absurd h (padded_ne_signed y' y' 4 _)
  · rw [if_neg hy] at h
    by_cases hy' : 0 ≤ y' ∧ y' ≤ 9999
    · rw [if_pos hy'] at h
      exact absurd h.symm (padded_ne_signed y y 4 _)
    · rw [if_neg hy'] at h
      obtain ⟨hsign, hpadded⟩ := List.cons.inj h
      have habs := padded_injective hpadded
      have hneg : y < 0 ↔ y' < 0 := by
        split at hsign <;> split at hsign <;> simp_all
        omega
      omega

theorem afterYear_injective (h : afterYear t.civil = afterYear t'.civil) :
    t.civil.month = t'.civil.month ∧ t.civil.day = t'.civil.day ∧ t.civil.hour = t'.civil.hour ∧
      t.civil.minute = t'.civil.minute ∧ t.civil.second = t'.civil.second := by
  have htwo {m n : Nat} {cs ds : List Char} (hm : m < 100) (hn : n < 100)
      (h : Decimal.padded 2 m ++ cs = Decimal.padded 2 n ++ ds) : m = n ∧ cs = ds := by
    have hlength := (Decimal.length_padded (by decide : 0 < 2) hm).trans
      (Decimal.length_padded (by decide : 0 < 2) hn).symm
    obtain ⟨hpadded, hrest⟩ := List.append_inj h hlength
    exact ⟨padded_injective hpadded, hrest⟩
  obtain ⟨hmonth, hday, hhour, hminute, hsecond⟩ := civil_lt t
  obtain ⟨hmonth', hday', hhour', hminute', hsecond'⟩ := civil_lt t'
  unfold afterYear at h
  obtain ⟨month, h⟩ := htwo hmonth hmonth' (List.cons.inj h).2
  obtain ⟨day, h⟩ := htwo hday hday' (List.cons.inj h).2
  obtain ⟨hour, h⟩ := htwo hhour hhour' (List.cons.inj h).2
  obtain ⟨minute, h⟩ := htwo hminute hminute' (List.cons.inj h).2
  obtain ⟨second, -⟩ := htwo hsecond hsecond' (List.cons.inj h).2
  exact ⟨month, day, hour, minute, second⟩

theorem name_eq_iff : name t = name t' ↔ t.civil = t'.civil := by
  constructor
  · intro h
    have hlist := congrArg String.toList h
    simp only [toList_name, List.cons.injEq, true_and] at hlist
    have hlength := (length_afterYear t).trans (length_afterYear t').symm
    obtain ⟨hyear, hafter⟩ := List.append_inj' hlist hlength
    have hyear := yearText_injective hyear
    have hafter := afterYear_injective hafter
    generalize t.civil = c at *
    generalize t'.civil = c' at *
    obtain ⟨⟨year, month, day⟩, hour, minute, second⟩ := c
    obtain ⟨⟨year', month', day'⟩, hour', minute', second'⟩ := c'
    simpa using ⟨⟨hyear, hafter.1, hafter.2.1⟩, hafter.2.2⟩
  · intro h
    rw [← String.toList_inj, toList_name, toList_name, h]

theorem isDecimalDigit_of_isDigit (h : c.isDigit = true) : Text.isDecimalDigit c = true := by
  rw [Char.isDigit_iff_toNat] at h
  exact CodeRanges.contains_iff.2 ⟨(0x30, 0x39), List.mem_cons_self, h⟩

theorem fits_digits (ds : List Char) (h : ∀ c ∈ ds, c.isDigit = true) (ps : List (Char → Bool))
    (cs : List Char) :
    fits (List.replicate ds.length Text.isDecimalDigit ++ ps) (ds ++ cs) = fits ps cs := by
  induction ds with
  | nil => rfl
  | cons d ds ih =>
    have hd := isDecimalDigit_of_isDigit (h d List.mem_cons_self)
    have hds := ih fun c hc => h c (List.mem_cons_of_mem d hc)
    simpa [List.replicate_succ, fits, hd] using hds

theorem fits_padded (width : Nat) {n : Nat} (hwidth : 0 < width) (hn : n < Nat.pow 10 width)
    (ps : List (Char → Bool)) (cs : List Char) :
    fits (List.replicate width Text.isDecimalDigit ++ ps) (Decimal.padded width n ++ cs) =
      fits ps cs := by
  have hfits := fits_digits (Decimal.padded width n) (fun _ => Decimal.isDigit_of_mem_padded) ps cs
  rwa [Decimal.length_padded hwidth hn] at hfits

theorem isName_name (hyear : 0 ≤ t.civil.year ∧ t.civil.year ≤ 9999) : isName (name t) = true := by
  have htwo {n : Nat} (hn : n < 100) (ps : List (Char → Bool)) (cs : List Char) :
      fits (Text.isDecimalDigit :: Text.isDecimalDigit :: ps) (Decimal.padded 2 n ++ cs) =
        fits ps cs := fits_padded 2 (by decide) hn ps cs
  have hfour {n : Nat} (hn : n < 10000) (ps : List (Char → Bool)) (cs : List Char) :
      fits (Text.isDecimalDigit :: Text.isDecimalDigit :: Text.isDecimalDigit ::
        Text.isDecimalDigit :: ps) (Decimal.padded 4 n ++ cs) = fits ps cs :=
    fits_padded 4 (by decide) hn ps cs
  have hyear' : t.civil.year.toNat < 10000 := by omega
  obtain ⟨hmonth, hday, hhour, hminute, hsecond⟩ := civil_lt t
  have hend : "Z.crt".toList = ['Z', '.', 'c', 'r', 't'] := by decide
  rw [isName, toList_name, yearText, if_pos hyear, afterYear, hend]
  simp [pattern, fits, hfour hyear', htwo hmonth, htwo hday, htwo hhour, htwo hminute, htwo hsecond]

end Retired

theorem plainName_currentCertEntry : Files.PlainName currentCertEntry :=
  ⟨⟨by decide, by decide⟩, by decide, by decide⟩

theorem fileName_currentCertEntry : Files.FileName currentCertEntry :=
  ⟨plainName_currentCertEntry, by decide, by decide⟩

theorem fileName_keyEntry : Files.FileName CaDirectory.keyEntry :=
  ⟨⟨⟨by decide, by decide⟩, by decide, by decide⟩, by decide, by decide⟩

theorem currentCertEntry_ne_keyEntry : currentCertEntry ≠ CaDirectory.keyEntry := by decide

namespace Retired

theorem ne_name {s : String} {c : Char} (hs : s.toList[2]? = some c) (hc : c ≠ '-') (t : Instant) :
    s ≠ name t := by
  rintro rfl
  rw [toList_name] at hs
  exact hc (Option.some.inj hs).symm

theorem currentCertEntry_ne_name (t : Instant) : currentCertEntry ≠ name t :=
  ne_name (c := '.') (by decide) (by decide) t

theorem keyEntry_ne_name (t : Instant) : CaDirectory.keyEntry ≠ name t :=
  ne_name (c := '.') (by decide) (by decide) t

end Retired
end ClusterCerts
