/-!
# Bytes

Byte strings and the UTF-8 text in them. Reading back the bytes of a text gives the text,
and bytes that read as a text are the bytes of that text.
-/

namespace ClusterCerts

abbrev Bytes := List UInt8

namespace Bytes

def ofString (s : String) : Bytes := s.toByteArray.data.toList

def toString? (b : Bytes) : Option String := String.fromUTF8? ⟨b.toArray⟩

def ofAscii (cs : List Char) : Bytes := cs.map fun c => UInt8.ofNat c.toNat

theorem toString?_ofString (s : String) : toString? (ofString s) = some s := by
  have h : s.toByteArray.IsValidUTF8 := s.isValidUTF8
  simp [toString?, ofString, String.fromUTF8?, String.fromUTF8, h]

theorem ofString_of_toString? {b : Bytes} {s : String} (h : toString? b = some s) :
    ofString s = b := by
  simp only [toString?, String.fromUTF8?] at h
  split at h
  · cases h; simp [ofString, String.fromUTF8]
  · cases h

theorem toString?_eq_some_iff {b : Bytes} {s : String} : toString? b = some s ↔ b = ofString s :=
  ⟨fun h => (ofString_of_toString? h).symm, fun h => h ▸ toString?_ofString s⟩

theorem ofString_injective {s t : String} (h : ofString s = ofString t) : s = t :=
  Option.some.inj (by rw [← toString?_ofString s, ← toString?_ofString t, h])

theorem ofString_ofList {cs : List Char} (h : ∀ c ∈ cs, c.toNat < 128) :
    ofString (String.ofList cs) = ofAscii cs := by
  have hflat : cs.flatMap String.utf8EncodeChar = ofAscii cs := by
    induction cs with
    | nil => rfl
    | cons c cs ih =>
      have hc : c.val.toNat < 128 := h c List.mem_cons_self
      have hone : c.utf8Size = 1 := Char.utf8Size_eq_one_iff.2 (UInt32.le_iff_toNat_le.2 (by
        simpa using Nat.le_of_lt_succ hc))
      have hcs := ih fun c hc => h c (List.mem_cons_of_mem _ hc)
      rw [List.flatMap_cons, String.utf8EncodeChar_eq_singleton hone, hcs]
      rfl
  simp [ofString, List.utf8Encode, hflat]

def toNat (b : Bytes) : Nat := b.foldl (fun n d => n * 256 + d.toNat) 0

def ofNat : Nat → Nat → Bytes
  | 0, _ => []
  | k + 1, n => ofNat k (n / 256) ++ [UInt8.ofNat n]

@[simp] theorem length_ofNat (k n : Nat) : (ofNat k n).length = k := by
  induction k generalizing n with
  | zero => rfl
  | succ k ih => simp [ofNat, ih]

theorem toNat_append (a b : Bytes) :
    toNat (a ++ b) = toNat a * Nat.pow 256 b.length + toNat b := by
  suffices h : ∀ n, b.foldl (fun n d => n * 256 + d.toNat) n = n * Nat.pow 256 b.length + toNat b by
    simp only [toNat, List.foldl_append]; exact h _
  simp only [Nat.pow_eq]
  induction b with
  | nil => simp [toNat]
  | cons d b ih =>
    intro n
    have h0 := ih d.toNat
    have hn := ih (n * 256 + d.toNat)
    simp only [toNat, List.foldl_cons, List.length_cons, Nat.zero_mul, Nat.zero_add] at *
    rw [hn, h0, Nat.pow_succ, Nat.add_mul]
    simp [Nat.mul_comm, Nat.mul_assoc, Nat.add_assoc]

theorem toNat_ofNat (k n : Nat) : toNat (ofNat k n) = n % Nat.pow 256 k := by
  induction k generalizing n with
  | zero => simp [ofNat, toNat, Nat.mod_one]
  | succ k ih =>
    have h : toNat [UInt8.ofNat n] = n % 256 := by simp [toNat]
    simp only [Nat.pow_eq] at ih ⊢
    rw [ofNat, toNat_append, ih, h, List.length_singleton, Nat.pow_eq, Nat.pow_one, Nat.pow_succ,
      Nat.mul_comm (256 ^ k), Nat.mod_mul, Nat.mul_comm, Nat.add_comm]

end Bytes
end ClusterCerts
