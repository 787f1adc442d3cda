import ClusterCerts.Der

/-!
# Reading elements that were written

A reader reads a byte string as a value if it takes just these bytes off the front of any input
and answers with the value. Every element that is written with a tag of one byte is read as that
element, as long as its length can be stated.
-/

namespace ClusterCerts

theorem Bytes.toNat_singleton (n : Nat) : Bytes.toNat [UInt8.ofNat n] = n % 256 := by
  simp [Bytes.toNat]

namespace Der

/-- No definite length counts this many bytes. -/
def lengthBound : Nat := Nat.pow 256 126

def Short (bytes : Bytes) : Prop := bytes.length < lengthBound

theorem Short.of_le {a b : Bytes} (h : Short b) (hle : a.length ≤ b.length) : Short a := by
  unfold Short at *
  omega

theorem Short.of_append_left {a b : Bytes} (h : Short (a ++ b)) : Short a := by
  unfold Short at *
  rw [List.length_append] at h
  omega

theorem Short.of_append_right {a b : Bytes} (h : Short (a ++ b)) : Short b := by
  unfold Short at *
  rw [List.length_append] at h
  omega

theorem Short.of_encode {tag : UInt8} {content : Bytes} (h : Short (encode tag content)) :
    Short content := by
  apply Short.of_append_right (a := tag :: encodeLength content.length)
  exact h

theorem Short.of_mem_flatten {parts : List Bytes} {part : Bytes} (h : Short parts.flatten)
    (hpart : part ∈ parts) : Short part := by
  obtain ⟨before, after, rfl⟩ := List.append_of_mem hpart
  rw [List.flatten_append, List.flatten_cons] at h
  exact h.of_append_right.of_append_left

theorem Short.of_mem {parts : List Bytes} {part : Bytes} (h : Short (encodeSequence parts))
    (hpart : part ∈ parts) : Short part :=
  (Short.of_encode h).of_mem_flatten hpart

theorem short_of_length_le {bytes : Bytes} (h : bytes.length ≤ 15) : Short bytes := by
  have : 15 < lengthBound := by decide
  unfold Short
  omega

theorem length_numeral_pos (n : Nat) : 0 < (numeral n).length := by
  rw [numeral]
  split <;> simp

theorem toNat_numeral (n : Nat) : Bytes.toNat (numeral n) = n := by
  induction n using Nat.strongRecOn with
  | ind n ih =>
    rw [numeral]
    split
    · next hn =>
      rw [Bytes.toNat_singleton]
      exact Nat.mod_eq_of_lt hn
    · next hn =>
      have hdiv := ih (n / 256) (by omega)
      rw [Bytes.toNat_append, hdiv, Bytes.toNat_singleton]
      simp
      omega

theorem length_numeral_le {k n : Nat} (h : n < Nat.pow 256 (k + 1)) :
    (numeral n).length ≤ k + 1 := by
  induction k generalizing n with
  | zero =>
    rw [numeral, if_pos (by simpa using h)]
    simp
  | succ k ih =>
    rw [numeral]
    split
    · simp
    · have hdiv : n / 256 < Nat.pow 256 (k + 1) := by
        rw [Nat.div_lt_iff_lt_mul (by decide)]
        exact h
      have := ih hdiv
      rw [List.length_append, List.length_singleton]
      omega

theorem length_numeral_le_succ (n : Nat) : (numeral n).length ≤ n + 1 := by
  induction n using Nat.strongRecOn with
  | ind n ih =>
    rw [numeral]
    split
    · simp
    · have hdiv := ih (n / 256) (by omega)
      rw [List.length_append, List.length_singleton]
      omega

theorem length_encode_le (tag : UInt8) (content : Bytes) :
    (encode tag content).length ≤ 2 * content.length + 3 := by
  have hnumeral := length_numeral_le_succ content.length
  simp only [encode, List.length_append, List.length_cons]
  rw [encodeLength]
  split
  · rw [List.length_singleton]
    omega
  · rw [List.length_cons]
    omega

theorem length_encodeSequence_le (parts : List Bytes) :
    (encodeSequence parts).length ≤ 2 * parts.flatten.length + 3 :=
  length_encode_le 0x30 parts.flatten

theorem length_flatten_le_encodeSequence (parts : List Bytes) :
    parts.flatten.length ≤ (encodeSequence parts).length := by
  rw [encodeSequence, encode, List.length_append]
  omega

theorem length_encodeNatural_le {k n : Nat} (h : n < Nat.pow 256 (k + 1)) :
    (encodeNatural n).length ≤ 2 * k + 7 := by
  have hnumeral := length_numeral_le h
  refine Nat.le_trans (length_encode_le 0x02 _) ?_
  split
  · rw [List.length_cons]
    omega
  · omega

variable {α β : Type}

/-- The reader takes just these bytes off any input, for this value. -/
def Reads (p : Reader α) (bytes : Bytes) (a : α) : Prop := ∀ r, p (bytes ++ r) = some (a, r)

theorem reads_encodeLength {n : Nat} (h : n < lengthBound) : Reads length (encodeLength n) n := by
  intro r
  unfold encodeLength
  split
  · next hn =>
    have hbyte : (UInt8.ofNat n).toNat = n := by simp; omega
    simp [length, hbyte, hn]
  · have hpos := length_numeral_pos n
    have hle := length_numeral_le (k := 125) h
    have hbyte : (UInt8.ofNat (128 + (numeral n).length)).toNat = 128 + (numeral n).length := by
      simp
      omega
    have hlong : ¬ 128 + (numeral n).length < 128 := by omega
    have hform : ¬ (128 + (numeral n).length = 128 ∨ 128 + (numeral n).length = 255) := by omega
    simp only [List.cons_append, length, hbyte, if_neg hlong, if_neg hform,
      Nat.add_sub_cancel_left]
    rw [if_neg (by simp), List.take_left, List.drop_left, toNat_numeral]

def ofTag (tag : UInt8) (content : Bytes) : Element :=
  ⟨tagClass tag, tag.toNat / 32 % 2 = 1, tag.toNat % 32, content⟩

variable {tag : UInt8} {content : Bytes}

theorem header_encode (tag : UInt8) (htag : tag.toNat % 32 ≠ 31) (h : Short content) (r : Bytes) :
    header (encode tag content ++ r) =
      some ((ofTag tag [], content.length), content ++ r) := by
  have hlength := reads_encodeLength h (content ++ r)
  simp only [encode, List.cons_append, List.append_assoc, header, number, if_neg htag,
    Option.bind_eq_bind, Option.bind_some, hlength, Option.pure_def, ofTag]

theorem reads_encode (tag : UInt8) (htag : tag.toNat % 32 ≠ 31) (h : Short content) :
    Reads element (encode tag content) (ofTag tag content) := by
  intro r
  have hheader := header_encode tag htag h r
  have hlong : ¬ (content ++ r).length < content.length := by simp
  simp only [element, hheader, Option.bind_eq_bind, Option.bind_some, if_neg hlong, List.take_left,
    List.drop_left, Option.pure_def, ofTag]

theorem reads_tagged (tag : UInt8) {n : Nat} (hn : tag.toNat % 32 = n)
    (htag : n ≠ 31) (h : Short content) :
    Reads (tagged n) (encode tag content) (ofTag tag content) := by
  intro r
  subst hn
  have helement := reads_encode tag htag h r
  simp only [tagged, helement, Option.bind_eq_bind, Option.bind_some, ofTag, if_true,
    Option.pure_def]

theorem reads_primitive (tag : UInt8) {n : Nat} (hn : tag.toNat % 32 = n) (htag : n ≠ 31)
    (hprimitive : tag.toNat / 32 % 2 ≠ 1) (h : Short content) :
    Reads (primitive n) (encode tag content) content := by
  intro r
  have htagged := reads_tagged tag hn htag h r
  simp [primitive, htagged, ofTag, hprimitive]

theorem reads_sequence {parts : List Bytes} (h : Short parts.flatten) :
    Reads sequence (encodeSequence parts) parts.flatten := by
  intro r
  have htagged := reads_tagged 0x30 (n := sequenceTag) rfl (by decide) h r
  simp only [sequence, encodeSequence, htagged, Option.map_some, ofTag]

theorem reads_oid (h : Short content) : Reads oid (encodeOid content) content :=
  reads_primitive 0x06 rfl (by decide) (by decide) h

theorem reads_bitString (h : Short (0 :: content)) (hbits : isBitString (0 :: content) = true) :
    Reads bitString (encodeBits content) (0 :: content) := by
  intro r
  have hprimitive := reads_primitive 0x03 (n := bitStringTag) rfl (by decide) (by decide) h r
  simp only [bitString, encodeBits, hprimitive, Option.bind_eq_bind, Option.bind_some, hbits,
    if_true, Option.pure_def]

theorem isBitString_zero_cons (content : Bytes) : isBitString (0 :: content) = true := by
  cases content with
  | nil => rfl
  | cons b r => simp [isBitString]

theorem Reads.ne_nil {p : Reader α} {bytes : Bytes} {a : α} (h : Reads p bytes a)
    (hnil : p [] = none) : bytes ≠ [] := by
  intro hbytes
  have := h []
  simp [hbytes, hnil] at this

theorem manyWithin_flatten {p : Reader α} {bs : List β} {write : β → Bytes}
    {value : β → α} {k : Nat}
    (hnil : p [] = none) (h : ∀ b ∈ bs, Reads p (write b) (value b)) (hk : bs.length ≤ k) :
    manyWithin p k (bs.map write).flatten = (bs.map value, []) := by
  induction bs generalizing k with
  | nil => cases k <;> simp [manyWithin, hnil]
  | cons b bs ih =>
    cases k with
    | zero => simp at hk
    | succ k =>
      have hb := h b List.mem_cons_self (bs.map write).flatten
      have hbs := ih (k := k) (fun b hb => h b (List.mem_cons_of_mem _ hb)) (by simpa using hk)
      simp only [List.map_cons, List.flatten_cons, manyWithin, hb, hbs]

theorem length_le_length_flatten {parts : List Bytes} (h : ∀ part ∈ parts, part ≠ []) :
    parts.length ≤ parts.flatten.length := by
  induction parts with
  | nil => simp
  | cons part parts ih =>
    have hparts := ih fun p hp => h p (List.mem_cons_of_mem _ hp)
    have hpart := List.length_pos_iff.2 (h part List.mem_cons_self)
    simp only [List.length_cons, List.flatten_cons, List.length_append]
    omega

theorem many_flatten {p : Reader α} {bs : List β} {write : β → Bytes} {value : β → α}
    (hnil : p [] = none) (h : ∀ b ∈ bs, Reads p (write b) (value b)) :
    many p (bs.map write).flatten = (bs.map value, []) := by
  apply manyWithin_flatten hnil h
  rw [← List.length_map (f := write)]
  apply length_le_length_flatten
  intro part hpart
  obtain ⟨b, hb, rfl⟩ := List.mem_map.1 hpart
  exact (h b hb).ne_nil hnil

theorem all_flatten {p : Reader α} {bs : List β} {write : β → Bytes} {value : β → α}
    (hnil : p [] = none) (h : ∀ b ∈ bs, Reads p (write b) (value b)) :
    all p (bs.map write).flatten = some (bs.map value) := by
  simp only [all, many_flatten hnil h]

end Der
end ClusterCerts
