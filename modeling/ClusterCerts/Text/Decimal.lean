/-!
# Decimal numbers

Numbers written in decimal, padded to a width where a format asks for one, and the
value of a run of digits.
-/

namespace ClusterCerts.Decimal

def padded (width n : Nat) : List Char :=
  let ds := Nat.toDigits 10 n
  List.replicate (width - ds.length) '0' ++ ds

def read? (cs : List Char) : Option Nat :=
  if cs ≠ [] ∧ cs.all Char.isDigit then some (Nat.ofDigitChars 10 cs 0) else none

theorem read?_toDigits (n : Nat) : read? (Nat.toDigits 10 n) = some n := by
  have h : (Nat.toDigits 10 n).all Char.isDigit := List.all_eq_true.2 fun _ hc =>
    Nat.isDigit_of_mem_toDigits (by decide) (by decide) hc
  simp [read?, h, Nat.toDigits_ne_nil, Nat.ofDigitChars_ten_toDigits]

theorem toDigits_injective {m n : Nat} (h : Nat.toDigits 10 m = Nat.toDigits 10 n) : m = n := by
  rw [← Option.some.injEq, ← read?_toDigits m, h, read?_toDigits]

theorem toList_toString (i : Int) :
    (toString i).toList = (if i < 0 then ['-'] else []) ++ Nat.toDigits 10 i.natAbs := by
  cases i with
  | ofNat n =>
    have htext : toString (Int.ofNat n) = toString n := rfl
    have hsign : ¬Int.ofNat n < 0 := by simp
    rw [htext, Nat.toString_eq_ofList_toDigits, String.toList_ofList, if_neg hsign]
    rfl
  | negSucc n =>
    have htext : toString (Int.negSucc n) = "-" ++ toString (n + 1) := rfl
    have hsign : Int.negSucc n < 0 := by omega
    rw [htext, Nat.toString_eq_ofList_toDigits, String.toList_append, if_pos hsign]
    exact congrArg ('-' :: ·) String.toList_ofList

theorem padded_ne_nil (w n : Nat) : padded w n ≠ [] := by simp [padded, Nat.toDigits_ne_nil]

theorem isDigit_of_mem_padded {w n : Nat} {c : Char} (h : c ∈ padded w n) : c.isDigit := by
  rcases List.mem_append.1 h with h | h
  · rw [(List.mem_replicate.1 h).2]; decide
  · exact Nat.isDigit_of_mem_toDigits (by decide) (by decide) h

theorem read?_padded (w n : Nat) : read? (padded w n) = some n := by
  have h : (padded w n).all Char.isDigit := List.all_eq_true.2 fun _ => isDigit_of_mem_padded
  rw [read?, if_pos ⟨padded_ne_nil w n, h⟩]
  simp [padded, Nat.ofDigitChars_append, Nat.ofDigitChars_replicate_zero,
    Nat.ofDigitChars_ten_toDigits]

theorem length_padded {w n : Nat} (hw : 0 < w) (h : n < Nat.pow 10 w) :
    (padded w n).length = w := by
  have := (Nat.length_toDigits_le_iff (n := n) (by decide : 1 < 10) hw).2 h
  simp [padded]; omega

theorem padded_one {n : Nat} (h : n < 10) : padded 1 n = [Nat.digitChar n] := by
  simp [padded, Nat.toDigits_of_lt_base h]

theorem padded_succ {w : Nat} (hw : 0 < w) (n : Nat) :
    padded (w + 1) n = padded w (n / 10) ++ [Nat.digitChar (n % 10)] := by
  unfold padded
  by_cases h : n < 10
  · have hzero : n / 10 = 0 := by omega
    obtain ⟨w, rfl⟩ := Nat.exists_eq_succ_of_ne_zero (Nat.ne_of_gt hw)
    rw [hzero, Nat.mod_eq_of_lt h, Nat.toDigits_of_lt_base h, Nat.toDigits_zero]
    simp [List.replicate_succ']
  · rw [Nat.toDigits_of_base_le (by decide) (by omega)]
    simp [Nat.add_sub_add_right]

theorem padded_two {n : Nat} (h : n < 100) :
    padded 2 n = [Nat.digitChar (n / 10), Nat.digitChar (n % 10)] := by
  have htens : n / 10 < 10 := by omega
  rw [padded_succ (by decide), padded_one htens]
  rfl

theorem padded_four (n : Nat) :
    padded 4 n = padded 2 (n / 100) ++ padded 2 (n % 100) := by
  have hhundreds : n / 10 / 10 = n / 100 := by omega
  have htens : n / 10 % 10 = n % 100 / 10 := by omega
  have hones : n % 10 = n % 100 % 10 := by omega
  rw [padded_succ (by decide), padded_succ (by decide), hhundreds, htens, hones,
    padded_two (n := n % 100) (by omega)]
  simp

end ClusterCerts.Decimal
