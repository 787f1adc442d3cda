import ClusterCerts.Proofs.Json.Reading
import Mathlib.Data.List.Basic

/-!
# Values that were written

A value built of texts, whole numbers, lists and records reads back from its text in one line, and
from its text with a line for each part. The reader has to know where a value ends, which only a
number leaves to what follows it: a text that goes on with a comma, a bracket or a blank has ended
the number.
-/

namespace ClusterCerts.Json

variable {cs blanks sep r : List Char} {j : Json}

def Blank (cs : List Char) : Prop := ∀ c ∈ cs, isBlank c = true

theorem blank_newline (level : Nat) : Blank (newline level) := by
  intro c hc
  rcases List.mem_cons.1 hc with rfl | hc
  · rfl
  · rw [List.eq_of_mem_replicate hc]
    rfl

theorem skip_blank (h : Blank blanks) (r : List Char) : skip (blanks ++ r) = skip r :=
  List.dropWhile_append_of_pos h

theorem skip_cons {c : Char} (hc : isBlank c = false) (r : List Char) : skip (c :: r) = c :: r := by
  simp [skip, hc]

theorem takeValue_blank (h : Blank blanks) (k : Nat) (r : List Char) :
    takeValue k (blanks ++ r) = takeValue k r := by
  cases k with
  | zero => rfl
  | succ k => rw [takeValue, takeValue, skip_blank h]

theorem takeItems_blank (h : Blank blanks) (k : Nat) (r : List Char) :
    takeItems k (blanks ++ r) = takeItems k r := by
  cases k with
  | zero => rfl
  | succ k => rw [takeItems, takeItems, takeValue_blank h]

theorem takeMembers_blank (h : Blank blanks) (k : Nat) (r : List Char) :
    takeMembers k (blanks ++ r) = takeMembers k r := by
  cases k with
  | zero => rfl
  | succ k => rw [takeMembers, takeMembers, skip_blank h]

def Ends (r : List Char) : Prop := ∀ c ∈ r.head?, c.isDigit = false ∧ c ∉ ['.', 'e', 'E']

theorem ends_nil : Ends [] := nofun

theorem ends_cons {c : Char} (h : c.isDigit = false ∧ c ∉ ['.', 'e', 'E']) : Ends (c :: r) := by
  intro c' hc'
  cases hc'
  exact h

theorem ends_blank (h : Blank blanks) (hr : Ends r) : Ends (blanks ++ r) := by
  cases blanks with
  | nil => exact hr
  | cons c blanks =>
    apply ends_cons
    have hc := h c List.mem_cons_self
    simp only [isBlank, decide_eq_true_eq] at hc
    rcases hc with rfl | rfl | rfl | rfl <;> decide

theorem takeDigits_append {ds : List Char} (hne : ds ≠ []) (hds : ∀ c ∈ ds, c.isDigit = true)
    (hr : Ends r) : takeDigits (ds ++ r) = some (ds, r) := by
  have hrest : r.takeWhile Char.isDigit = [] := by
    cases r with
    | nil => rfl
    | cons c r => rw [List.takeWhile_cons, (hr c rfl).1, if_neg Bool.false_ne_true]
  have hall : (ds ++ r).takeWhile Char.isDigit = ds := by
    rw [List.takeWhile_append_of_pos hds, hrest, List.append_nil]
  unfold takeDigits
  rw [hall, if_neg (by simpa using hne), List.drop_left]

theorem takeFraction_of_ends (hr : Ends r) : takeFraction r = some ([], r) := by
  cases r with
  | nil => rfl
  | cons c r =>
    apply takeFraction.eq_2
    rintro r' heq
    obtain ⟨rfl, -⟩ := List.cons.inj heq
    exact (hr '.' rfl).2 (by decide)

theorem takeExponent_of_ends (hr : Ends r) : takeExponent r = some (none, r) := by
  cases r with
  | nil => rfl
  | cons c r =>
    have hmark : ¬(c = 'e' ∨ c = 'E') := by
      rintro (rfl | rfl)
      · exact (hr 'e' rfl).2 (by decide)
      · exact (hr 'E' rfl).2 (by decide)
    unfold takeExponent
    simp only [if_neg hmark]

theorem head?_toDigits {n : Nat} (h : 0 < n) : (Nat.toDigits 10 n).head? ≠ some '0' := by
  induction n using Nat.strongRecOn with
  | ind n ih =>
    by_cases hn : n < 10
    · have hdigit : ∀ d : Fin 10, 0 < d.val → Nat.digitChar d.val ≠ '0' := by decide
      rw [Nat.toDigits_of_lt_base hn]
      simpa using hdigit ⟨n, hn⟩ h
    · have hn : 10 ≤ n := Nat.not_lt.1 hn
      rw [Nat.toDigits_of_base_le (by decide) hn, List.head?_append_of_ne_nil _ Nat.toDigits_ne_nil]
      exact ih (n / 10) (by omega) (by omega)

theorem toDigits_unpadded (n : Nat) :
    (Nat.toDigits 10 n).length = 1 ∨ (Nat.toDigits 10 n).head? ≠ some '0' := by
  cases n with
  | zero => exact .inl rfl
  | succ n => exact .inr (head?_toDigits n.succ_pos)

def numeral (i : Int) : Numeral := { negative := i < 0, whole := Nat.toDigits 10 i.natAbs }

theorem ofNat_eq_ofInt (n : Nat) : ofNat n = ofInt n := by
  have hsign : decide ((n : Int) < 0) = false :=
    decide_eq_false (Int.not_lt.2 (Int.natCast_nonneg n))
  rw [ofInt, hsign, Int.natAbs_natCast]
  rfl

theorem takeNumeral_digits {ds : List Char} (hne : ds ≠ []) (hds : ∀ c ∈ ds, c.isDigit = true)
    (hfree : ds.length = 1 ∨ ds.head? ≠ some '0') (negative : Bool) (hr : Ends r) :
    takeNumeral ((if negative then ['-'] else []) ++ (ds ++ r)) =
      some ({ negative, whole := ds }, r) := by
  have htake := takeDigits_append hne hds hr
  have hsign : ∀ r', ds ++ r ≠ '-' :: r' := by
    obtain ⟨d, ds, rfl⟩ := List.exists_cons_of_ne_nil hne
    rintro r' heq
    obtain ⟨rfl, -⟩ := List.cons.inj heq
    exact absurd (hds '-' List.mem_cons_self) (by decide)
  unfold takeNumeral
  split
  next sign cs hmatch =>
    obtain ⟨rfl, rfl⟩ : sign = negative ∧ cs = ds ++ r := by
      cases negative with
      | true => exact ⟨(Prod.mk.inj hmatch).1.symm, (Prod.mk.inj hmatch).2.symm⟩
      | false =>
        rw [if_neg Bool.false_ne_true, List.nil_append] at hmatch
        split at hmatch
        · next r' heq => exact absurd heq (hsign r')
        · exact ⟨(Prod.mk.inj hmatch).1.symm, (Prod.mk.inj hmatch).2.symm⟩
    refine Option.bind_eq_some_iff.2 ⟨(ds, r), htake, ?_⟩
    refine Option.bind_eq_some_iff.2 ⟨(), if_pos hfree, ?_⟩
    refine Option.bind_eq_some_iff.2 ⟨([], r), takeFraction_of_ends hr, ?_⟩
    exact Option.bind_eq_some_iff.2 ⟨(none, r), takeExponent_of_ends hr, rfl⟩

theorem chars_numeral (i : Int) : (numeral i).chars =
    (if decide (i < 0) then ['-'] else []) ++ Nat.toDigits 10 i.natAbs := by
  simp [numeral, Numeral.chars]

theorem takeNumeral_numeral (i : Int) (hr : Ends r) :
    takeNumeral ((numeral i).chars ++ r) = some (numeral i, r) := by
  have hdigits : ∀ c ∈ Nat.toDigits 10 i.natAbs, c.isDigit = true :=
    fun c hc => Nat.isDigit_of_mem_toDigits (by decide) (by decide) hc
  rw [chars_numeral, List.append_assoc]
  exact takeNumeral_digits Nat.toDigits_ne_nil hdigits (toDigits_unpadded i.natAbs) _ hr

theorem sign_or_digit_of_mem {c : Char} {i : Int} (h : c ∈ (numeral i).chars) :
    c = '-' ∨ c.isDigit = true := by
  rw [chars_numeral, List.mem_append] at h
  rcases h with hsign | hdigit
  · split at hsign
    · exact .inl (List.mem_singleton.1 hsign)
    · cases hsign
  · exact .inr (Nat.isDigit_of_mem_toDigits (by decide) (by decide) hdigit)

theorem chars_numeral_cons (i : Int) :
    ∃ c cs, (numeral i).chars = c :: cs ∧ (c = '-' ∨ c.isDigit = true) := by
  have hne : (numeral i).chars ≠ [] := by
    rw [chars_numeral]
    exact List.append_ne_nil_of_right_ne_nil _ Nat.toDigits_ne_nil
  obtain ⟨c, cs, hchars⟩ := List.exists_cons_of_ne_nil hne
  exact ⟨c, cs, hchars, sign_or_digit_of_mem (hchars ▸ List.mem_cons_self)⟩

theorem isBlank_of_number {c : Char} (hc : c = '-' ∨ c.isDigit = true) : isBlank c = false := by
  rw [Bool.eq_false_iff]
  intro hblank
  simp only [isBlank, decide_eq_true_eq] at hblank
  rcases hblank with rfl | rfl | rfl | rfl
  all_goals exact absurd hc (by decide)

/-- A text that reads back as a value, wherever the value ends. -/
structure Reads (cs : List Char) (j : Json) : Prop where
  start : ∃ c r, cs = c :: r ∧ isBlank c = false ∧ c ≠ ']'
  value : ∀ k r, 2 * cs.length ≤ k → Ends r → takeValue k (cs ++ r) = some (j, r)

theorem Reads.of_succ (start : ∃ c r, cs = c :: r ∧ isBlank c = false ∧ c ≠ ']')
    (value : ∀ k r, 2 * cs.length ≤ k + 1 → Ends r → takeValue (k + 1) (cs ++ r) = some (j, r)) :
    Reads cs j where
  start := start
  value k r hk hr := by
    obtain ⟨c, cs, rfl, -⟩ := start
    cases k with
    | zero => simp at hk
    | succ k => exact value k r hk hr

theorem reads_null : Reads "null".toList null :=
  .of_succ ⟨'n', _, rfl, by decide, by decide⟩ fun _ _ _ _ => rfl

theorem reads_true : Reads "true".toList (bool true) :=
  .of_succ ⟨'t', _, rfl, by decide, by decide⟩ fun _ _ _ _ => rfl

theorem reads_false : Reads "false".toList (bool false) :=
  .of_succ ⟨'f', _, rfl, by decide, by decide⟩ fun _ _ _ _ => rfl

theorem reads_text (s : String) : Reads (quote (escape s)) (ofString s) := by
  refine .of_succ ⟨'"', _, rfl, by decide, by decide⟩ fun k r _ _ => ?_
  have hquote : quote (escape s) ++ r = '"' :: (escape s ++ '"' :: r) := by simp [quote]
  rw [hquote, takeValue, skip_cons (by decide)]
  simp only [takeString_escape]
  rfl

theorem takeValue_number {c : Char} (hc : c = '-' ∨ c.isDigit = true) (k : Nat) (r : List Char) :
    takeValue (k + 1) (c :: r) = (takeNumeral (c :: r)).map fun p => (number p.1, p.2) := by
  rw [takeValue, skip_cons (isBlank_of_number hc)]
  split
  case h_7 => rfl
  all_goals
    next heq =>
      cases heq
      exact absurd hc (by decide)

theorem reads_int (i : Int) : Reads (numeral i).chars (ofInt i) := by
  obtain ⟨c, cs, hchars, hc⟩ := chars_numeral_cons i
  refine .of_succ ⟨c, cs, hchars, isBlank_of_number hc, ?_⟩ fun k r _ hr => ?_
  · rintro rfl
    exact absurd hc (by decide)
  · have hnumeral := takeNumeral_numeral i hr
    rw [hchars, List.cons_append] at hnumeral ⊢
    rw [takeValue_number hc, hnumeral]
    rfl

theorem takeItems_intercalate (write : Json → List Char) {items : List Json} (hne : items ≠ [])
    (hreads : ∀ x ∈ items, Reads (write x) x) (hsep : Blank sep) (hblanks : Blank blanks) {k : Nat}
    (hk : 2 * ((',' :: sep).intercalate (items.map write)).length < k) (r : List Char) :
    takeItems k ((',' :: sep).intercalate (items.map write) ++ (blanks ++ ']' :: r)) =
      some (items, r) := by
  obtain ⟨x, xs, rfl⟩ := List.exists_cons_of_ne_nil hne
  clear hne
  induction xs generalizing x k with
  | nil =>
    obtain ⟨k, rfl⟩ : ∃ j, k = j + 1 := ⟨k - 1, by omega⟩
    rw [List.map_singleton, List.intercalate_singleton] at hk ⊢
    have hend : Ends (blanks ++ ']' :: r) := ends_blank hblanks (ends_cons (by decide))
    have hx := (hreads x List.mem_cons_self).value k _ (by omega) hend
    rw [takeItems, hx]
    simp only [skip_blank hblanks, skip_cons (c := ']') (by decide)]
  | cons y ys ih =>
    obtain ⟨k, rfl⟩ : ∃ j, k = j + 1 := ⟨k - 1, by omega⟩
    rw [List.map_cons, List.map_cons, List.intercalate_cons_cons] at hk ⊢
    simp only [List.length_append, List.length_cons] at hk
    have hrest := ih y (fun z hz => hreads z (List.mem_cons_of_mem x hz)) (k := k)
      (by rw [List.map_cons]; omega)
    have hx := (hreads x List.mem_cons_self).value k
      (',' :: (sep ++ ((',' :: sep).intercalate ((y :: ys).map write) ++ (blanks ++ ']' :: r))))
      (by omega) (ends_cons (by decide))
    simp only [List.append_assoc, List.cons_append]
    rw [takeItems, ← List.map_cons, hx]
    simp only [skip_cons (c := ',') (by decide), takeItems_blank hsep, hrest]
    rfl

theorem intercalate_start (write : Json → List Char) (sep : List Char)
    {items : List Json} (hne : items ≠ [])
    (hreads : ∀ x ∈ items, Reads (write x) x) :
    ∃ c r, (',' :: sep).intercalate (items.map write) = c :: r ∧ isBlank c = false ∧ c ≠ ']' := by
  obtain ⟨x, xs, rfl⟩ := List.exists_cons_of_ne_nil hne
  obtain ⟨c, r, hx, hc⟩ := (hreads x List.mem_cons_self).start
  cases xs with
  | nil => exact ⟨c, r, by rw [List.map_singleton, List.intercalate_singleton, hx], hc⟩
  | cons y ys =>
    rw [List.map_cons, List.map_cons, List.intercalate_cons_cons, hx]
    exact ⟨c, _, rfl, hc⟩

theorem takeValue_items {c : Char} (hblank : isBlank c = false) (hc : c ≠ ']')
    (hblanks : Blank blanks) (k : Nat) (r : List Char) :
    takeValue (k + 1) ('[' :: (blanks ++ c :: r)) =
      (takeItems k (c :: r)).map fun p => (array p.1, p.2) := by
  rw [takeValue, skip_cons (by decide)]
  simp only [skip_blank hblanks, skip_cons hblank]
  split
  · next heq => exact absurd (List.cons.inj heq).1 hc
  · rfl

theorem reads_array (write : Json → List Char) {items : List Json} (hne : items ≠ [])
    (hreads : ∀ x ∈ items, Reads (write x) x) (hsep : Blank sep) {before after : List Char}
    (hbefore : Blank before) (hafter : Blank after) :
    Reads ('[' :: (before ++ ((',' :: sep).intercalate (items.map write) ++ (after ++ [']']))))
      (array items) := by
  refine .of_succ ⟨'[', _, rfl, by decide, by decide⟩ fun k r hk _ => ?_
  simp only [List.length_cons, List.length_append] at hk
  have hitems := takeItems_intercalate write hne hreads hsep hafter (k := k) (by omega) r
  obtain ⟨c, cs, hstart, hblank, hc⟩ := intercalate_start write sep hne hreads
  rw [hstart] at hitems ⊢
  simp only [List.cons_append, List.append_assoc, List.nil_append] at hitems ⊢
  rw [takeValue_items hblank hc hbefore, hitems]
  rfl

def member (write : Json → List Char) (gap : List Char) (m : String × Json) : List Char :=
  quote (escape m.1) ++ ':' :: (gap ++ write m.2)

theorem takeMembers_member (write : Json → List Char) {gap r' : List Char} {m : String × Json}
    (hgap : Blank gap) (hm : Reads (write m.2) m.2) {k : Nat}
    (hk : 2 * (member write gap m).length ≤ k) (hr : Ends r) :
    (skip r = ',' :: r' → takeMembers (k + 1) (member write gap m ++ r) =
      (takeMembers k r').map fun p => ((escape m.1, m.2) :: p.1, p.2)) ∧
    (skip r = '\x7d' :: r' → takeMembers (k + 1) (member write gap m ++ r) =
      some ([(escape m.1, m.2)], r')) := by
  have hlength : 2 * (write m.2).length ≤ k := by
    simp [member] at hk
    omega
  have hstart : member write gap m ++ r =
      '"' :: (escape m.1 ++ '"' :: ':' :: (gap ++ (write m.2 ++ r))) := by
    simp [member, quote]
  have hvalue := hm.value k r hlength hr
  constructor
  all_goals
    intro hnext
    rw [takeMembers, hstart, skip_cons (by decide)]
    simp only [takeString_escape, skip_cons (c := ':') (by decide), takeValue_blank hgap, hvalue,
      hnext]

theorem takeMembers_intercalate (write : Json → List Char) {members : List (String × Json)}
    (hne : members ≠ []) (hreads : ∀ m ∈ members, Reads (write m.2) m.2) (hsep : Blank sep)
    (hblanks : Blank blanks) {gap : List Char} (hgap : Blank gap) {k : Nat}
    (hk : 2 * ((',' :: sep).intercalate (members.map (member write gap))).length < k)
    (r : List Char) :
    takeMembers k ((',' :: sep).intercalate (members.map (member write gap)) ++
      (blanks ++ '\x7d' :: r)) = some (members.map fun m => (escape m.1, m.2), r) := by
  obtain ⟨m, ms, rfl⟩ := List.exists_cons_of_ne_nil hne
  clear hne
  induction ms generalizing m k with
  | nil =>
    obtain ⟨k, rfl⟩ : ∃ j, k = j + 1 := ⟨k - 1, by omega⟩
    rw [List.map_singleton, List.intercalate_singleton] at hk ⊢
    have hend : Ends (blanks ++ '\x7d' :: r) := ends_blank hblanks (ends_cons (by decide))
    apply (takeMembers_member write hgap (hreads m List.mem_cons_self) (by omega) hend).2
    rw [skip_blank hblanks, skip_cons (by decide)]
  | cons m' ms ih =>
    obtain ⟨k, rfl⟩ : ∃ j, k = j + 1 := ⟨k - 1, by omega⟩
    rw [List.map_cons, List.map_cons, List.intercalate_cons_cons] at hk ⊢
    simp only [List.length_append, List.length_cons] at hk
    have hrest := ih m' (fun z hz => hreads z (List.mem_cons_of_mem m hz)) (k := k)
      (by rw [List.map_cons]; omega)
    simp only [List.append_assoc, List.cons_append]
    rw [← List.map_cons, (takeMembers_member write hgap (hreads m List.mem_cons_self) (by omega)
      (ends_cons (by decide))).1 (skip_cons (by decide) _), takeMembers_blank hsep, hrest]
    rfl

theorem takeValue_members (hblanks : Blank blanks) (k : Nat) (r : List Char) :
    takeValue (k + 1) ('\x7b' :: (blanks ++ '"' :: r)) =
      (takeMembers k ('"' :: r)).map fun p => (object p.1, p.2) := by
  rw [takeValue, skip_cons (by decide)]
  simp only [skip_blank hblanks, skip_cons (c := '"') (by decide)]
  rfl

theorem reads_record (write : Json → List Char) {members : List (String × Json)}
    (hne : members ≠ []) (hreads : ∀ m ∈ members, Reads (write m.2) m.2) (hsep : Blank sep)
    {before after gap : List Char} (hbefore : Blank before) (hafter : Blank after)
    (hgap : Blank gap) :
    Reads ('\x7b' :: (before ++ ((',' :: sep).intercalate (members.map (member write gap)) ++
      (after ++ ['\x7d'])))) (record members) := by
  refine .of_succ ⟨'\x7b', _, rfl, by decide, by decide⟩ fun k r hk _ => ?_
  simp only [List.length_cons, List.length_append] at hk
  have hmembers := takeMembers_intercalate write hne hreads hsep hafter hgap (k := k) (by omega) r
  obtain ⟨cs, hstart⟩ : ∃ cs, (',' :: sep).intercalate (members.map (member write gap)) =
      '"' :: cs := by
    obtain ⟨m, ms, rfl⟩ := List.exists_cons_of_ne_nil hne
    cases ms with
    | nil => exact ⟨_, List.intercalate_singleton⟩
    | cons m' ms => exact ⟨_, List.intercalate_cons_cons⟩
  rw [hstart] at hmembers ⊢
  simp only [List.cons_append, List.append_assoc, List.nil_append] at hmembers ⊢
  rw [takeValue_members hbefore, hmembers]
  rfl

/-- A value as writers of documents build it. -/
inductive Built : Json → Prop
  | null : Built null
  | bool (b : Bool) : Built (bool b)
  | int (i : Int) : Built (ofInt i)
  | text (s : String) : Built (ofString s)
  | array (items : List Json) (each : ∀ x ∈ items, Built x) : Built (array items)
  | record (members : List (String × Json)) (each : ∀ m ∈ members, Built m.2) :
    Built (record members)

theorem eq_intercalate {α : Type} {f : List α → List Char} {g : α → List Char}
    (hnil : f [] = []) (hone : ∀ x, f [x] = g x)
    (hmore : ∀ x y ys, f (x :: y :: ys) = g x ++ sep ++ f (y :: ys)) (xs : List α) :
    f xs = sep.intercalate (xs.map g) := by
  induction xs with
  | nil => rw [hnil, List.map_nil, List.intercalate_nil]
  | cons x xs ih =>
    cases xs with
    | nil => rw [hone, List.map_singleton, List.intercalate_singleton]
    | cons y ys =>
      rw [hmore, ih]
      simp only [List.map_cons, List.intercalate_cons_cons]

theorem compactItems_eq (items : List Json) :
    compactItems items = [','].intercalate (items.map compact) := by
  apply eq_intercalate rfl fun _ => rfl
  intro x y ys
  simp [compactItems]

theorem compactMembers_eq (members : List (String × Json)) :
    compactMembers (members.map fun m => (escape m.1, m.2)) =
      [','].intercalate (members.map (member compact [])) := by
  apply eq_intercalate (f := fun ms : List (String × Json) =>
    compactMembers (ms.map fun m => (escape m.1, m.2))) rfl
  · intro m
    simp [compactMembers, member]
  · intro m m' ms
    simp [compactMembers, member]

theorem prettyItems_eq (level : Nat) (items : List Json) :
    prettyItems level items = (',' :: newline level).intercalate (items.map (pretty level)) := by
  apply eq_intercalate rfl fun _ => rfl
  intro x y ys
  simp [prettyItems]

theorem prettyMembers_eq (level : Nat) (members : List (String × Json)) :
    prettyMembers level (members.map fun m => (escape m.1, m.2)) =
      (',' :: newline level).intercalate (members.map (member (pretty level) [' '])) := by
  apply eq_intercalate (f := fun ms : List (String × Json) =>
    prettyMembers level (ms.map fun m => (escape m.1, m.2))) rfl
  · intro m
    simp [prettyMembers, member]
  · intro m m' ms
    simp [prettyMembers, member]

theorem reads_nil : Reads ['[', ']'] (array []) :=
  .of_succ ⟨'[', _, rfl, by decide, by decide⟩ fun _ _ _ _ => rfl

theorem reads_record_nil : Reads ['\x7b', '\x7d'] (record []) :=
  .of_succ ⟨'\x7b', _, rfl, by decide, by decide⟩ fun _ _ _ _ => rfl

theorem Reads.plain (h : Reads cs j) (hcompact : compact j = cs)
    (hpretty : ∀ level, pretty level j = cs) :
    Reads (compact j) j ∧ ∀ level, Reads (pretty level j) j := by
  constructor
  · rw [hcompact]
    exact h
  · intro level
    rw [hpretty]
    exact h

theorem Built.reads (h : Built j) : Reads (compact j) j ∧ ∀ level, Reads (pretty level j) j := by
  have hnone : Blank [] := nofun
  have hspace : Blank [' '] := by simp [Blank, isBlank]
  induction h with
  | null => exact reads_null.plain (by rw [compact]) fun _ => by rw [pretty]
  | bool b =>
    cases b with
    | true => exact reads_true.plain (by rw [compact]) fun _ => by rw [pretty]
    | false => exact reads_false.plain (by rw [compact]) fun _ => by rw [pretty]
  | int i => exact (reads_int i).plain rfl fun _ => rfl
  | text s => exact (reads_text s).plain rfl fun _ => rfl
  | array items each ih =>
    by_cases hne : items = []
    · subst hne
      exact reads_nil.plain rfl fun _ => rfl
    · constructor
      · have hreads := reads_array compact hne (fun x hx => (ih x hx).1) hnone hnone hnone
        rw [← compactItems_eq] at hreads
        exact hreads
      · intro level
        have hreads := reads_array (pretty (level + 1)) hne (fun x hx => (ih x hx).2 _)
          (blank_newline (level + 1)) (blank_newline (level + 1)) (blank_newline level)
        rw [← prettyItems_eq] at hreads
        obtain ⟨x, xs, rfl⟩ := List.exists_cons_of_ne_nil hne
        simpa [pretty] using hreads
  | record members each ih =>
    by_cases hne : members = []
    · subst hne
      exact reads_record_nil.plain rfl fun _ => rfl
    · constructor
      · have hreads := reads_record compact hne (fun m hm => (ih m hm).1) hnone hnone hnone hnone
        rw [← compactMembers_eq] at hreads
        exact hreads
      · intro level
        have hreads := reads_record (pretty (level + 1)) hne (fun m hm => (ih m hm).2 _)
          (blank_newline (level + 1)) (blank_newline (level + 1)) (blank_newline level) hspace
        rw [← prettyMembers_eq] at hreads
        obtain ⟨m, ms, rfl⟩ := List.exists_cons_of_ne_nil hne
        simpa [pretty, Json.record] using hreads

theorem read?_of_reads (h : Reads cs j) : read? (String.ofList cs) = some j := by
  have hvalue := h.value (2 * cs.length + 2) [] (by omega) ends_nil
  rw [List.append_nil] at hvalue
  rw [read?, String.length_ofList, String.toList_ofList, hvalue]
  rfl

theorem Built.read?_text (h : Built j) : read? j.text = some j := read?_of_reads h.reads.1

theorem Built.read?_prettyText (h : Built j) : read? j.prettyText = some j :=
  read?_of_reads (h.reads.2 0)

end ClusterCerts.Json
