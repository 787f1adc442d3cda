import ClusterCerts.Json

/-!
# Reading texts that were written

An escaped text reads back: the reader takes it up to the closing quote as it is, and what it
stands for is the text.
-/

namespace ClusterCerts.Json

theorem escapeChar_cases (c : Char) :
    (∃ e ∈ ['"', '\\', '/', 'b', 'f', 'n', 'r', 't'], escapeChar c = ['\\', e] ∧ escaped e = c) ∨
    (c.toNat < 32 ∧ escapeChar c =
      ['\\', 'u', '0', '0', Nat.digitChar (c.toNat / 16), Nat.digitChar (c.toNat % 16)]) ∨
    (escapeChar c = [c] ∧ c ≠ '"' ∧ c ≠ '\\' ∧ ¬ c.toNat < 32) := by
  unfold escapeChar
  split
  · exact .inl ⟨'"', by decide, rfl, rfl⟩
  · exact .inl ⟨'\\', by decide, rfl, rfl⟩
  · exact .inl ⟨'b', by decide, rfl, rfl⟩
  · exact .inl ⟨'f', by decide, rfl, rfl⟩
  · exact .inl ⟨'n', by decide, rfl, rfl⟩
  · exact .inl ⟨'r', by decide, rfl, rfl⟩
  · exact .inl ⟨'t', by decide, rfl, rfl⟩
  · next hquote hslash _ _ _ _ _ =>
    split
    · next hcontrol => exact .inr (.inl ⟨hcontrol, rfl⟩)
    · next hcontrol => exact .inr (.inr ⟨rfl, hquote, hslash, hcontrol⟩)

theorem hexDigits_of_control : ∀ n < 32, isHexDigit (Nat.digitChar (n / 16)) = true ∧
    isHexDigit (Nat.digitChar (n % 16)) = true ∧
    hexUnit '0' '0' (Nat.digitChar (n / 16)) (Nat.digitChar (n % 16)) = n := by
  decide

theorem takeString_cons {c : Char} (hquote : c ≠ '"') (hslash : c ≠ '\\')
    (hcontrol : ¬ c.toNat < 32) (r : List Char) :
    takeString (c :: r) = (takeString r).map fun p => (c :: p.1, p.2) := by
  rw [takeString, if_neg (by simp [hslash, hcontrol])]
  all_goals simp [hquote, hslash]

theorem takeString_escapeChar (c : Char) (r : List Char) :
    takeString (escapeChar c ++ r) =
      (takeString r).map fun p => (escapeChar c ++ p.1, p.2) := by
  rcases escapeChar_cases c with ⟨e, he, hc, -⟩ | ⟨hcontrol, hc⟩ | ⟨hc, hquote, hslash, hcontrol⟩
  · rw [hc]
    simp only [List.mem_cons, List.not_mem_nil, or_false] at he
    rcases he with rfl | rfl | rfl | rfl | rfl | rfl | rfl | rfl <;> simp [takeString]
  · obtain ⟨hhigh, hlow, -⟩ := hexDigits_of_control c.toNat hcontrol
    have hzero : isHexDigit '0' = true := by decide
    rw [hc]
    simp [takeString, hhigh, hlow, hzero]
  · rw [hc]
    exact takeString_cons hquote hslash hcontrol r

theorem unescape_unit {a b c d : Char} (h : hexUnit a b c d < 0xD800) (r : List Char) :
    unescape ('\\' :: 'u' :: a :: b :: c :: d :: r) =
      (unescape r).map (Char.ofNat (hexUnit a b c d) :: ·) := by
  have hhigh : ¬ (0xD800 ≤ hexUnit a b c d ∧ hexUnit a b c d ≤ 0xDBFF) := by omega
  have hlow : ¬ (0xDC00 ≤ hexUnit a b c d ∧ hexUnit a b c d ≤ 0xDFFF) := by omega
  rw [unescape.eq_def]
  simp only [if_neg hhigh, if_neg hlow]

theorem unescape_escapeChar (c : Char) (r : List Char) :
    unescape (escapeChar c ++ r) = (unescape r).map (c :: ·) := by
  rcases escapeChar_cases c with ⟨e, he, hc, hescaped⟩ | ⟨hcontrol, hc⟩ | ⟨hc, -, hslash, -⟩
  · rw [hc, ← hescaped]
    simp only [List.mem_cons, List.not_mem_nil, or_false] at he
    rcases he with rfl | rfl | rfl | rfl | rfl | rfl | rfl | rfl <;> simp [unescape]
  · obtain ⟨-, -, hunit⟩ := hexDigits_of_control c.toNat hcontrol
    have hread := unescape_unit (by rw [hunit]; omega) r
    rw [hc]
    rwa [hunit, Char.ofNat_toNat] at hread
  · rw [hc]
    simp [unescape, hslash]

theorem takeString_escape (s : String) (r : List Char) :
    takeString (escape s ++ '"' :: r) = some (escape s, r) := by
  unfold escape
  induction s.toList with
  | nil => simp [takeString]
  | cons c cs ih => simp [List.flatMap_cons, takeString_escapeChar, ih]

theorem unescape_escape (s : String) : unescape (escape s) = some s.toList := by
  unfold escape
  induction s.toList with
  | nil => simp [unescape]
  | cons c cs ih => simp [List.flatMap_cons, unescape_escapeChar, ih]

theorem unescapeString?_escape (s : String) : unescapeString? (escape s) = some s := by
  simp [unescapeString?, unescape_escape]

end ClusterCerts.Json
