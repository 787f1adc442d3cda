import ClusterCerts.Pem
import ClusterCerts.Proofs.Text.Base64
import ClusterCerts.Proofs.Text.ByteOrder

/-!
# Spellings of a PEM block

A block may be written in many ways. The base64 of its data is cut into lines of any length, a
carriage return or other blanks may stand at the end of a line, and text may follow the dashes of
the first and of the last line. All of these read as the data, whatever comes after the block.
-/

namespace ClusterCerts

namespace Bytes

theorem ofString_append (s t : String) : ofString (s ++ t) = ofString s ++ ofString t := by
  simp [ofString_eq]

/-- The byte of a line feed is part of no other character, as no longer encoding has a byte below
128. -/
theorem eq_feed_of_mem_utf8EncodeChar {c : Char} (h : 10 ∈ String.utf8EncodeChar c) :
    c = '\n' := by
  have hlast := codePoint_lt c
  have hcode : c.val.toNat = 10 → c = '\n' := fun hc => Char.ext (UInt32.toNat_inj.1 hc)
  unfold String.utf8EncodeChar at h
  generalize c.val.toNat = n at *
  simp only at h
  split_ifs at h <;>
    simp (disch := omega) only [List.mem_cons, List.not_mem_nil, or_false, ← UInt8.toNat_inj,
      UInt8.toNat_ofNat', UInt8.toNat_ofNat, Nat.mod_eq_of_lt] at h <;>
    exact hcode (by omega)

end Bytes

theorem Text.trimEnd_append {blanks : List Char} (h : ∀ c ∈ blanks, isBlank c = true)
    (cs : List Char) : trimEnd (cs ++ blanks) = trimEnd cs := by
  have hblanks : ∀ c ∈ blanks.reverse, isBlank c = true := fun c hc => h c (List.mem_reverse.1 hc)
  rw [trimEnd, trimEnd, List.reverse_append, List.dropWhile_append_of_pos hblanks]

namespace Pem

open Text

variable {cs : List Char} {ls : List Bytes}

def utf8 (cs : List Char) : Bytes := Bytes.ofString (String.ofList cs)

theorem utf8_append (cs ds : List Char) : utf8 (cs ++ ds) = utf8 cs ++ utf8 ds := by
  rw [utf8, String.ofList_append, Bytes.ofString_append]
  rfl

theorem utf8_feed (cs : List Char) : utf8 ('\n' :: cs) = 10 :: utf8 cs := utf8_append ['\n'] cs

theorem toString?_utf8 (cs : List Char) : Bytes.toString? (utf8 cs) = some (String.ofList cs) :=
  Bytes.toString?_ofString _

theorem feed_not_mem_utf8 (h : '\n' ∉ cs) : (10 : UInt8) ∉ utf8 cs := by
  intro hmem
  rw [utf8, Bytes.ofString_eq, String.toList_ofList, List.mem_flatMap] at hmem
  obtain ⟨c, hc, hbyte⟩ := hmem
  exact h (Bytes.eq_feed_of_mem_utf8EncodeChar hbyte ▸ hc)

theorem fields_utf8 (h : '\n' ∉ cs) : fields 10 (utf8 cs) = [utf8 cs] :=
  fields_of_not_mem (feed_not_mem_utf8 h)

theorem fields_utf8_feed (h : '\n' ∉ cs) (r : Bytes) :
    fields 10 (utf8 cs ++ 10 :: r) = utf8 cs :: fields 10 r :=
  fields_append_cons (feed_not_mem_utf8 h) r

theorem body?_line (h : endMark.isPrefixOf cs = false) :
    body? (utf8 cs :: ls) = (body? ls).map fun rest => trimEnd cs ++ rest := by
  rw [body?, toString?_utf8]
  simp only [Option.bind_eq_bind, Option.bind_some, String.toList_ofList, h]
  cases body? ls with
  | none => rfl
  | some rest => rfl

theorem body?_end (h : endMark.isPrefixOf cs = true) : body? (utf8 cs :: ls) = some [] := by
  rw [body?, toString?_utf8]
  simp only [Option.bind_eq_bind, Option.bind_some, String.toList_ofList, h, if_true]
  rfl

theorem mem_alphabet {c : Char} (h : c ∈ Base64.alphabet) :
    c.toNat < 128 ∧ c ≠ '\n' ∧ c ≠ '-' ∧ isBlank c = false := by
  have hall : Base64.alphabet.all
      (fun c => c.toNat < 128 ∧ c ≠ '\n' ∧ c ≠ '-' ∧ isBlank c = false) = true := by
    decide
  exact of_decide_eq_true (List.all_eq_true.1 hall c h)

structure Line where
  text : List Char
  blanks : List Char
  isBlank_of_mem : ∀ c ∈ blanks, isBlank c = true
  feed_not_mem : '\n' ∉ blanks

namespace Line

variable {l : Line}

def chars (l : Line) : List Char := l.text ++ l.blanks

theorem feed_not_mem_chars (h : ∀ c ∈ l.text, c ∈ Base64.alphabet) : '\n' ∉ l.chars := by
  intro hmem
  rcases List.mem_append.1 hmem with htext | hblanks
  · exact (mem_alphabet (h _ htext)).2.1 rfl
  · exact l.feed_not_mem hblanks

theorem trimEnd_chars (h : ∀ c ∈ l.text, c ∈ Base64.alphabet) : trimEnd l.chars = l.text := by
  rw [chars, trimEnd_append l.isBlank_of_mem]
  exact trimEnd_eq fun c hc => (mem_alphabet (h c hc)).2.2.2

theorem endMark_isPrefixOf (h : ∀ c ∈ l.text, c ∈ Base64.alphabet) :
    endMark.isPrefixOf l.chars = false := by
  have hmark : '-' ∈ endMark := by decide
  have hdash : isBlank '-' = false := by decide
  rw [← Bool.not_eq_true, List.isPrefixOf_iff_prefix]
  intro hbegins
  rcases List.mem_append.1 (hbegins.subset hmark) with htext | hblanks
  · exact (mem_alphabet (h _ htext)).2.2.1 rfl
  · rw [l.isBlank_of_mem _ hblanks] at hdash
    cases hdash

end Line

def joinLines (lines : List Line) : List Char := lines.flatMap fun l => l.chars ++ ['\n']

theorem body?_lines {lines : List Line} (h : ∀ l ∈ lines, ∀ c ∈ l.text, c ∈ Base64.alphabet)
    (r : Bytes) :
    body? (fields 10 (utf8 (joinLines lines) ++ r)) =
      (body? (fields 10 r)).map fun rest => (lines.map Line.text).flatten ++ rest := by
  induction lines with
  | nil => simp [joinLines, utf8, Bytes.ofString]
  | cons l lines ih =>
    have hl := h l List.mem_cons_self
    have hrest := ih fun m hm => h m (List.mem_cons_of_mem l hm)
    have hsplit : utf8 (joinLines (l :: lines)) ++ r =
        utf8 l.chars ++ 10 :: (utf8 (joinLines lines) ++ r) := by
      simp [joinLines, utf8_append, utf8_feed]
    rw [hsplit, fields_utf8_feed (Line.feed_not_mem_chars hl),
      body?_line (Line.endMark_isPrefixOf hl), hrest, Line.trimEnd_chars hl, Option.map_map]
    simp [Function.comp_def]

variable {label : String} {data : Bytes}

def bound (mark : List Char) (label : String) : List Char := mark ++ label.toList ++ dashes

theorem feed_not_mem_bound {mark : List Char} (hmark : '\n' ∉ mark) (hlabel : '\n' ∉ label.toList) :
    '\n' ∉ bound mark label := by
  have hdashes : '\n' ∉ dashes := by decide
  simp [bound, hmark, hlabel, hdashes]

theorem isPrefixOf_bound (mark : List Char) (label : String) (cs : List Char) :
    mark.isPrefixOf (bound mark label ++ cs) = true := by
  rw [List.isPrefixOf_iff_prefix, bound, List.append_assoc, List.append_assoc]
  exact List.prefix_append _ _

theorem firstBody?_begin (label : String) (cs : List Char) (ls : List Bytes) :
    firstBody? (utf8 (bound beginMark label ++ cs) :: ls) = body? ls := by
  have hdrop : (bound beginMark label ++ cs).drop beginMark.length =
      label.toList ++ dashes ++ cs := by
    simp [bound]
  have hdashes : (around? dashes ((bound beginMark label ++ cs).drop beginMark.length)).isSome =
      true := by
    rw [hdrop]
    exact isSome_around? _ _
  rw [firstBody?, toString?_utf8]
  simp only [Option.bind_eq_bind, Option.bind_some, String.toList_ofList, isPrefixOf_bound, hdashes,
    if_true]

/-- A text that begins with a block of the data. The opening and the closing stand behind the
dashes of the first and of the last line. The last line may end the text; if a line feed ends it,
the bytes after that are arbitrary. -/
structure Spelling (label : String) (data : Bytes) where
  opening : List Char
  lines : List Line
  closing : List Char
  after : Option Bytes
  feed_not_mem_opening : '\n' ∉ opening
  feed_not_mem_closing : '\n' ∉ closing
  carries : (lines.map Line.text).flatten = Base64.encode data

namespace Spelling

def chars (t : Spelling label data) : List Char :=
  bound beginMark label ++ t.opening ++ '\n' :: (joinLines t.lines ++
    (bound endMark label ++ t.closing))

def rest (t : Spelling label data) : Bytes :=
  match t.after with
  | none => []
  | some bytes => 10 :: bytes

def bytes (t : Spelling label data) : Bytes := utf8 t.chars ++ t.rest

theorem text_mem_alphabet (t : Spelling label data) :
    ∀ l ∈ t.lines, ∀ c ∈ l.text, c ∈ Base64.alphabet := by
  intro l hl c hc
  have hmem : c ∈ (t.lines.map Line.text).flatten :=
    List.mem_flatten.2 ⟨l.text, List.mem_map_of_mem hl, hc⟩
  rw [t.carries] at hmem
  exact Base64.mem_alphabet_of_mem_encode hmem

theorem body?_closing (hlabel : '\n' ∉ label.toList) (t : Spelling label data) :
    body? (fields 10 (utf8 (bound endMark label ++ t.closing) ++ t.rest)) = some [] := by
  have hfeed : '\n' ∉ bound endMark label ++ t.closing := by
    rw [List.mem_append, not_or]
    exact ⟨feed_not_mem_bound (by decide) hlabel, t.feed_not_mem_closing⟩
  have hmark := isPrefixOf_bound endMark label t.closing
  unfold rest
  cases t.after with
  | none => rw [List.append_nil, fields_utf8 hfeed, body?_end hmark]
  | some bytes => rw [fields_utf8_feed hfeed, body?_end hmark]

theorem decode?_bytes (hlabel : '\n' ∉ label.toList) (t : Spelling label data) :
    decode? t.bytes = some data := by
  have hfeed : '\n' ∉ bound beginMark label ++ t.opening := by
    rw [List.mem_append, not_or]
    exact ⟨feed_not_mem_bound (by decide) hlabel, t.feed_not_mem_opening⟩
  have hbytes : t.bytes = utf8 (bound beginMark label ++ t.opening) ++ 10 ::
      (utf8 (joinLines t.lines) ++ (utf8 (bound endMark label ++ t.closing) ++ t.rest)) := by
    simp [bytes, chars, utf8_append, utf8_feed]
  rw [decode?, hbytes, fields_utf8_feed hfeed, firstBody?_begin, body?_lines t.text_mem_alphabet,
    t.body?_closing hlabel, t.carries]
  simp [Base64.decodeJoined?_encode]

theorem isPrefixOf_bytes (t : Spelling label data) :
    (Bytes.ofString "-----BEGIN").isPrefixOf t.bytes = true := by
  have hmark : utf8 beginMark = Bytes.ofString "-----BEGIN" ++ [32] := by decide
  rw [List.isPrefixOf_iff_prefix, bytes, chars, bound]
  simp only [utf8_append, hmark, List.append_assoc]
  exact List.prefix_append _ _

end Spelling
end Pem
end ClusterCerts
