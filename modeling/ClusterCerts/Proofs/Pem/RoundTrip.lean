import ClusterCerts.Proofs.Pem.Spellings

/-!
# Reading PEM that was written

The text of a block is one of the spellings of its data, so the data reads back from it, for every
label on one line. With a label of ASCII characters the text is not shorter than the data, and not
much longer.
-/

namespace ClusterCerts.Pem

open Text

def OneLine (cs : List Char) : Prop := ∀ c ∈ cs, c.toNat < 128 ∧ c ≠ '\n'

instance (cs : List Char) : Decidable (OneLine cs) :=
  decidable_of_iff (cs.all fun c => c.toNat < 128 ∧ c ≠ '\n') (by simp [OneLine])

theorem OneLine.ascii {cs : List Char} (h : OneLine cs) : ∀ c ∈ cs, c.toNat < 128 :=
  fun c hc => (h c hc).1

theorem OneLine.append {cs ds : List Char} (hc : OneLine cs) (hd : OneLine ds) :
    OneLine (cs ++ ds) := by
  intro c h
  rcases List.mem_append.1 h with h | h
  · exact hc c h
  · exact hd c h

theorem OneLine.feed_not_mem {cs : List Char} (h : OneLine cs) : '\n' ∉ cs :=
  fun hfeed => (h _ hfeed).2 rfl

def Line.plain (cs : List Char) : Line := ⟨cs, [], by simp, by simp⟩

theorem exists_lines (k : Nat) (cs : List Char) :
    ∃ lines : List Line, (lines.map Line.text).flatten = cs ∧ joinLines lines = linesOf k cs ∧
      ∀ l ∈ lines, l.chars.length ≤ k + 1 := by
  induction cs using linesOf.induct (k := k) with
  | case1 => exact ⟨[], rfl, by rw [linesOf]; rfl, by simp⟩
  | case2 c cs ih =>
    obtain ⟨lines, htext, hlines, hwidth⟩ := ih
    refine ⟨.plain (c :: cs.take k) :: lines, ?_, ?_, ?_⟩
    · simp [Line.plain, htext]
    · rw [linesOf, ← hlines]
      simp [joinLines, Line.chars, Line.plain]
    · rw [List.forall_mem_cons]
      refine ⟨?_, hwidth⟩
      simp [Line.chars, Line.plain]

theorem mem_linesOf {k : Nat} {cs : List Char} {c : Char} (h : c ∈ linesOf k cs) :
    c ∈ cs ∨ c = '\n' := by
  induction cs using linesOf.induct (k := k) with
  | case1 =>
    rw [linesOf] at h
    cases h
  | case2 d cs ih =>
    rw [linesOf] at h
    simp only [List.mem_cons, List.mem_append] at h
    rcases h with (rfl | h) | rfl | h
    · exact .inl List.mem_cons_self
    · exact .inl (List.mem_cons_of_mem _ (List.mem_of_mem_take h))
    · exact .inr rfl
    · exact (ih h).imp_left fun h => List.mem_cons_of_mem _ (List.mem_of_mem_drop h)

theorem length_le_length_linesOf (k : Nat) (cs : List Char) :
    cs.length ≤ (linesOf k cs).length := by
  induction cs using linesOf.induct (k := k) with
  | case1 => simp
  | case2 c cs ih =>
    rw [linesOf]
    simp only [List.length_cons, List.length_append, List.length_take, List.length_drop] at ih ⊢
    omega

variable {label : String}

theorem oneLine_bound {mark : List Char} (hmark : OneLine mark) (hlabel : OneLine label.toList) :
    OneLine (bound mark label) :=
  (hmark.append hlabel).append (by decide)

theorem oneLine_begin (hlabel : OneLine label.toList) : OneLine (bound beginMark label) :=
  oneLine_bound (by decide) hlabel

theorem oneLine_end (hlabel : OneLine label.toList) : OneLine (bound endMark label) :=
  oneLine_bound (by decide) hlabel

theorem encodeChars_eq (label : String) (data : Bytes) :
    encodeChars label data =
      bound beginMark label ++ '\n' :: (linesOf 63 (Base64.encode data) ++
        (bound endMark label ++ ['\n'])) := by
  simp [encodeChars, bound]

theorem ascii_encodeChars (hlabel : OneLine label.toList) (data : Bytes) :
    ∀ c ∈ encodeChars label data, c.toNat < 128 := by
  intro c hc
  have hbegin := (oneLine_begin hlabel).ascii
  have hend := (oneLine_end hlabel).ascii
  simp only [encodeChars_eq, List.mem_append, List.mem_cons, List.not_mem_nil, or_false] at hc
  rcases hc with hc | rfl | hc | hc | rfl
  · exact hbegin c hc
  · decide
  · rcases mem_linesOf hc with hc | rfl
    · exact (mem_alphabet (Base64.mem_alphabet_of_mem_encode hc)).1
    · decide
  · exact hend c hc
  · decide

theorem ofString_encode (hlabel : OneLine label.toList) (data : Bytes) :
    Bytes.ofString (encode label data) = Bytes.ofAscii (encodeChars label data) :=
  Bytes.ofString_ofList (ascii_encodeChars hlabel data)

theorem exists_spelling_encode (label : String) (data : Bytes) :
    ∃ t : Spelling label data, Bytes.ofString (encode label data) = t.bytes ∧
      ∀ l ∈ t.lines, l.chars.length ≤ 64 := by
  obtain ⟨lines, htext, hlines, hwidth⟩ := exists_lines 63 (Base64.encode data)
  let t : Spelling label data := ⟨[], lines, [], some [], by simp, by simp, htext⟩
  refine ⟨t, ?_, hwidth⟩
  have hchars : encodeChars label data = t.chars ++ ['\n'] := by
    rw [encodeChars_eq, ← hlines]
    simp [t, Spelling.chars]
  have hencode : Bytes.ofString (encode label data) = utf8 (encodeChars label data) := rfl
  rw [hencode, hchars, utf8_append]
  rfl

theorem decode?_encode (hlabel : '\n' ∉ label.toList) (data : Bytes) :
    decode? (Bytes.ofString (encode label data)) = some data := by
  obtain ⟨t, ht, -⟩ := exists_spelling_encode label data
  rw [ht, t.decode?_bytes hlabel]

theorem length_le_length_base64 (data : Bytes) : data.length ≤ (Base64.encode data).length := by
  induction data using Base64.encode.induct with
  | case1 => simp
  | case2 a => simp [Base64.encode]
  | case3 a b => simp [Base64.encode]
  | case4 a b c r ih =>
    simp only [Base64.encode, List.length_cons]
    omega

theorem length_base64_le (data : Bytes) : (Base64.encode data).length ≤ 4 * data.length := by
  induction data using Base64.encode.induct with
  | case1 => simp [Base64.encode]
  | case2 a => simp [Base64.encode]
  | case3 a b => simp [Base64.encode]
  | case4 a b c r ih =>
    simp only [Base64.encode, List.length_cons]
    omega

theorem length_linesOf_le (k : Nat) (cs : List Char) : (linesOf k cs).length ≤ 2 * cs.length := by
  induction cs using linesOf.induct (k := k) with
  | case1 => simp [linesOf]
  | case2 c cs ih =>
    rw [linesOf]
    simp only [List.length_cons, List.length_append, List.length_take, List.length_drop] at ih ⊢
    omega

theorem length_encode_le (hlabel : OneLine label.toList) (data : Bytes) :
    (Bytes.ofString (encode label data)).length ≤
      8 * data.length + 2 * label.toList.length + 40 := by
  have hbase64 := length_base64_le data
  have hlines := length_linesOf_le 63 (Base64.encode data)
  have hmarks : beginMark.length = 11 ∧ endMark.length = 9 ∧ dashes.length = 5 := by decide
  rw [ofString_encode hlabel, encodeChars_eq]
  simp only [Bytes.ofAscii, bound, List.length_map, List.length_append, List.length_cons,
    List.length_nil]
  omega

theorem length_le_length_encode (hlabel : OneLine label.toList) (data : Bytes) :
    data.length ≤ (Bytes.ofString (encode label data)).length := by
  have hbase64 := length_le_length_base64 data
  have hlines := length_le_length_linesOf 63 (Base64.encode data)
  rw [ofString_encode hlabel, encodeChars_eq]
  simp only [Bytes.ofAscii, List.length_map, List.length_append, List.length_cons]
  omega

end ClusterCerts.Pem
