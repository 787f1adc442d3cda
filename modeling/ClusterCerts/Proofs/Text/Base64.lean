import ClusterCerts.Text.Base64
import Mathlib.Data.Option.Basic

/-!
# Reading base64 that was written

The text of a byte string reads back as that byte string, strictly and as part of a joined text,
and it has no character but those of the alphabet and the padding. Read strictly, no other text
stands for the byte string.
-/

namespace ClusterCerts.Base64

theorem value?_symbol {n : Nat} (h : n < 64) : value? (symbol n) = some n := by
  revert n
  decide

theorem symbol_ne_pad {n : Nat} (h : n < 64) : symbol n ≠ '=' := by
  revert n
  decide

def alphabet : List Char := '=' :: (List.range 64).map symbol

theorem symbol_mem_alphabet {n : Nat} (h : n < 64) : symbol n ∈ alphabet :=
  List.mem_cons_of_mem _ (List.mem_map.2 ⟨n, List.mem_range.2 h, rfl⟩)

theorem mem_alphabet_of_mem_encode {b : Bytes} {c : Char} (h : c ∈ encode b) : c ∈ alphabet := by
  have pad : '=' ∈ alphabet := List.mem_cons_self
  induction b using encode.induct with
  | case1 => cases h
  | case2 a =>
    have ha := a.toNat_lt
    simp only [encode, List.mem_cons, List.not_mem_nil, or_false] at h
    rcases h with rfl | rfl | rfl | rfl
    · exact symbol_mem_alphabet (by omega)
    · exact symbol_mem_alphabet (by omega)
    · exact pad
    · exact pad
  | case3 a b =>
    have ha := a.toNat_lt
    have hb := b.toNat_lt
    simp only [encode, List.mem_cons, List.not_mem_nil, or_false] at h
    rcases h with rfl | rfl | rfl | rfl
    · exact symbol_mem_alphabet (by omega)
    · exact symbol_mem_alphabet (by omega)
    · exact symbol_mem_alphabet (by omega)
    · exact pad
  | case4 a b d r ih =>
    have ha := a.toNat_lt
    have hb := b.toNat_lt
    have hd := d.toNat_lt
    simp only [encode, List.mem_cons] at h
    rcases h with rfl | rfl | rfl | rfl | h
    · exact symbol_mem_alphabet (by omega)
    · exact symbol_mem_alphabet (by omega)
    · exact symbol_mem_alphabet (by omega)
    · exact symbol_mem_alphabet (by omega)
    · exact ih h

theorem ofNat_eq_of_toNat {a : UInt8} {n : Nat} (h : n = a.toNat) : UInt8.ofNat n = a := by
  rw [h, UInt8.ofNat_toNat]

theorem guard_of {p : Prop} [Decidable p] (h : p) : (guard p : Option Unit) = some () := if_pos h

theorem group?_one (a : UInt8) :
    group? (symbol (a.toNat / 4)) (symbol (a.toNat % 4 * 16)) '=' '=' = some [a] := by
  have ha := a.toNat_lt
  have h₁ := value?_symbol (n := a.toNat / 4) (by omega)
  have h₂ := value?_symbol (n := a.toNat % 4 * 16) (by omega)
  have hbyte : UInt8.ofNat (a.toNat / 4 * 4 + a.toNat % 4 * 16 / 16) = a :=
    ofNat_eq_of_toNat (by omega)
  have hzero : a.toNat % 4 * 16 % 16 = 0 := by omega
  simp only [group?, h₁, h₂, hbyte, and_self, if_pos, guard_of hzero, Option.bind_eq_bind,
    Option.bind_some, Option.pure_def]

theorem group?_two (a b : UInt8) :
    group? (symbol (a.toNat / 4)) (symbol (a.toNat % 4 * 16 + b.toNat / 16))
      (symbol (b.toNat % 16 * 4)) '=' = some [a, b] := by
  have ha := a.toNat_lt
  have hb := b.toNat_lt
  have h₁ := value?_symbol (n := a.toNat / 4) (by omega)
  have h₂ := value?_symbol (n := a.toNat % 4 * 16 + b.toNat / 16) (by omega)
  have h₃ := value?_symbol (n := b.toNat % 16 * 4) (by omega)
  have hpad := symbol_ne_pad (n := b.toNat % 16 * 4) (by omega)
  have hfirst : UInt8.ofNat (a.toNat / 4 * 4 + (a.toNat % 4 * 16 + b.toNat / 16) / 16) = a :=
    ofNat_eq_of_toNat (by omega)
  have hsecond : UInt8.ofNat ((a.toNat % 4 * 16 + b.toNat / 16) % 16 * 16 +
      b.toNat % 16 * 4 / 4) = b := ofNat_eq_of_toNat (by omega)
  have hzero : b.toNat % 16 * 4 % 4 = 0 := by omega
  simp only [group?, h₁, h₂, h₃, hpad, hfirst, hsecond, false_and, if_false, if_true,
    guard_of hzero, Option.bind_eq_bind, Option.bind_some, Option.pure_def]

theorem group?_three (a b c : UInt8) :
    group? (symbol (a.toNat / 4)) (symbol (a.toNat % 4 * 16 + b.toNat / 16))
      (symbol (b.toNat % 16 * 4 + c.toNat / 64)) (symbol (c.toNat % 64)) = some [a, b, c] := by
  have ha := a.toNat_lt
  have hb := b.toNat_lt
  have hc := c.toNat_lt
  have h₁ := value?_symbol (n := a.toNat / 4) (by omega)
  have h₂ := value?_symbol (n := a.toNat % 4 * 16 + b.toNat / 16) (by omega)
  have h₃ := value?_symbol (n := b.toNat % 16 * 4 + c.toNat / 64) (by omega)
  have h₄ := value?_symbol (n := c.toNat % 64) (by omega)
  have hpad := symbol_ne_pad (n := c.toNat % 64) (by omega)
  have hfirst : UInt8.ofNat (a.toNat / 4 * 4 + (a.toNat % 4 * 16 + b.toNat / 16) / 16) = a :=
    ofNat_eq_of_toNat (by omega)
  have hsecond : UInt8.ofNat ((a.toNat % 4 * 16 + b.toNat / 16) % 16 * 16 +
      (b.toNat % 16 * 4 + c.toNat / 64) / 4) = b := ofNat_eq_of_toNat (by omega)
  have hthird : UInt8.ofNat ((b.toNat % 16 * 4 + c.toNat / 64) % 4 * 64 + c.toNat % 64) = c :=
    ofNat_eq_of_toNat (by omega)
  simp only [group?, h₁, h₂, h₃, h₄, hpad, hfirst, hsecond, hthird, and_false, if_false,
    Option.bind_eq_bind, Option.bind_some, Option.pure_def]

theorem decodeGroups?_cons {joined : Bool} {a b c d : Char} {r : List Char} {bytes more : Bytes}
    (hgroup : group? a b c d = some bytes) (hfull : bytes.length = 3 ∨ r = [])
    (hmore : decodeGroups? joined r = some more) :
    decodeGroups? joined (a :: b :: c :: d :: r) = some (bytes ++ more) := by
  have hg : (guard (joined ∨ bytes.length = 3 ∨ r = []) : Option Unit) = some () :=
    guard_of (.inr hfull)
  simp only [decodeGroups?, hgroup, hg, hmore, Option.bind_eq_bind, Option.bind_some,
    Option.pure_def]

theorem decodeGroups?_encode (joined : Bool) (b : Bytes) :
    decodeGroups? joined (encode b) = some b := by
  induction b using encode.induct with
  | case1 => rfl
  | case2 a => exact decodeGroups?_cons (group?_one a) (.inr rfl) rfl
  | case3 a b => exact decodeGroups?_cons (group?_two a b) (.inr rfl) rfl
  | case4 a b c r ih => exact decodeGroups?_cons (group?_three a b c) (.inl rfl) ih

theorem decode?_encode (b : Bytes) : decode? (encode b) = some b := decodeGroups?_encode false b

theorem decodeJoined?_encode (b : Bytes) : decodeJoined? (encode b) = some b :=
  decodeGroups?_encode true b

theorem decodeString?_encodeString (b : Bytes) : decodeString? (encodeString b) = some b := by
  rw [decodeString?, encodeString, String.toList_ofList, decode?_encode]

theorem symbol_of_value? {c : Char} {n : Nat} (h : value? c = some n) : n < 64 ∧ c = symbol n := by
  have hsymbol {m : Nat} (hm : Char.ofNat m = symbol n) (hc : c.toNat = m) : c = symbol n := by
    rw [← hm, ← hc, Char.ofNat_toNat]
  simp only [value?] at h
  split at h
  · have hn : c.toNat = 65 + n := by simp at h; omega
    exact ⟨by omega, hsymbol (by rw [symbol, if_pos (by omega)]) hn⟩
  · split at h
    · have hn : c.toNat = 71 + n := by simp at h; omega
      exact ⟨by omega, hsymbol (by rw [symbol, if_neg (by omega), if_pos (by omega)]) hn⟩
    · split at h
      · have hn : c.toNat = n - 4 := by simp at h; omega
        have hlow : 52 ≤ n := by simp at h; omega
        have hhigh : n < 62 := by simp at h; omega
        exact ⟨by omega, hsymbol
          (by rw [symbol, if_neg (by omega), if_neg (by omega), if_pos hhigh]) hn⟩
      · split at h
        · next hc =>
          cases h
          exact ⟨by decide, hc.trans (by decide)⟩
        · split at h
          · next hc =>
            cases h
            exact ⟨by decide, hc.trans (by decide)⟩
          · cases h

theorem toNat_ofNat_of_lt {n : Nat} (h : n < 256) : (UInt8.ofNat n).toNat = n := by
  simp [Nat.mod_eq_of_lt h]

theorem eq_encode_of_group? {a b c d : Char} {bytes : Bytes} (h : group? a b c d = some bytes) :
    [a, b, c, d] = encode bytes := by
  simp only [group?, Option.bind_eq_bind, Option.bind_eq_some_iff, Option.pure_def] at h
  obtain ⟨x, hx, y, hy, h⟩ := h
  obtain ⟨hx, rfl⟩ := symbol_of_value? hx
  obtain ⟨hy, rfl⟩ := symbol_of_value? hy
  split at h
  · next hpad =>
    obtain ⟨rfl, rfl⟩ := hpad
    simp only [Option.bind_eq_some_iff, Option.guard_eq_some', Option.some.injEq] at h
    obtain ⟨-, hzero, rfl⟩ := h
    have hfirst : (UInt8.ofNat (x * 4 + y / 16)).toNat = x * 4 + y / 16 :=
      toNat_ofNat_of_lt (by omega)
    rw [encode, hfirst, show (x * 4 + y / 16) / 4 = x by omega,
      show (x * 4 + y / 16) % 4 * 16 = y by omega]
  · simp only [Option.bind_eq_some_iff] at h
    obtain ⟨z, hz, h⟩ := h
    obtain ⟨hz, rfl⟩ := symbol_of_value? hz
    have hfirst : (UInt8.ofNat (x * 4 + y / 16)).toNat = x * 4 + y / 16 :=
      toNat_ofNat_of_lt (by omega)
    have hsecond : (UInt8.ofNat (y % 16 * 16 + z / 4)).toNat = y % 16 * 16 + z / 4 :=
      toNat_ofNat_of_lt (by omega)
    split at h
    · next hpad =>
      subst hpad
      simp only [Option.bind_eq_some_iff, Option.guard_eq_some', Option.some.injEq] at h
      obtain ⟨-, hzero, rfl⟩ := h
      rw [encode, hfirst, hsecond, show (x * 4 + y / 16) / 4 = x by omega,
        show (x * 4 + y / 16) % 4 * 16 + (y % 16 * 16 + z / 4) / 16 = y by omega,
        show (y % 16 * 16 + z / 4) % 16 * 4 = z by omega]
    · simp only [Option.bind_eq_some_iff, Option.some.injEq] at h
      obtain ⟨w, hw, rfl⟩ := h
      obtain ⟨hw, rfl⟩ := symbol_of_value? hw
      have hthird : (UInt8.ofNat (z % 4 * 64 + w)).toNat = z % 4 * 64 + w :=
        toNat_ofNat_of_lt (by omega)
      rw [encode, encode, hfirst, hsecond, hthird, show (x * 4 + y / 16) / 4 = x by omega,
        show (x * 4 + y / 16) % 4 * 16 + (y % 16 * 16 + z / 4) / 16 = y by omega,
        show (y % 16 * 16 + z / 4) % 16 * 4 + (z % 4 * 64 + w) / 64 = z by omega,
        show (z % 4 * 64 + w) % 64 = w by omega]

theorem encode_append {bytes : Bytes} (h : bytes.length = 3) (more : Bytes) :
    encode (bytes ++ more) = encode bytes ++ encode more := by
  match bytes, h with
  | [a, b, c], _ => rfl

theorem eq_encode_of_decode? {cs : List Char} {bytes : Bytes} (h : decode? cs = some bytes) :
    cs = encode bytes := by
  rw [decode?] at h
  generalize hstrict : false = joined at h
  fun_induction decodeGroups? joined cs generalizing bytes with
  | case1 =>
    cases h
    rfl
  | case2 a b c d r ih =>
    subst hstrict
    simp only [Option.bind_eq_bind, Option.bind_eq_some_iff, Option.guard_eq_some', Option.pure_def,
      Option.some.injEq] at h
    obtain ⟨first, hfirst, -, hfull, more, hmore, rfl⟩ := h
    have hgroup := eq_encode_of_group? hfirst
    have hrest : r = encode more := ih hmore
    rcases hfull with hjoined | hthree | rfl
    · cases hjoined
    · rw [encode_append hthree, ← hgroup, ← hrest]
      rfl
    · cases hmore
      rw [List.append_nil, ← hgroup]
  | case3 => cases h

theorem decodeString?_eq_some_iff {s : String} {bytes : Bytes} :
    decodeString? s = some bytes ↔ s = encodeString bytes := by
  refine ⟨fun h => ?_, fun h => h ▸ decodeString?_encodeString bytes⟩
  rw [encodeString, ← eq_encode_of_decode? h, String.ofList_toList]

end ClusterCerts.Base64
