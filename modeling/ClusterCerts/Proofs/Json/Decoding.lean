import ClusterCerts.Json.Decode
import ClusterCerts.Proofs.Json.RoundTrip

/-!
# Decoding what was written

Each kind of part of a document is read as the value that it was written for: texts, marks, numbers
of 32 bits, lists, sets, maps, names of variants, and records whose members have the names of the
fields.
-/

namespace ClusterCerts.Decoder

open Json

variable {α β κ : Type}

def Inverts (d : Decoder α) (write : α → Json) : Prop :=
  ∀ a, Built (write a) ∧ d (write a) = .ok a

theorem keyText_escape (s : String) : keyText (escape s) = .ok s := by
  rw [keyText, unescapeString?_escape]

theorem inverts_string : Inverts string ofString := by
  intro s
  refine ⟨.text s, ?_⟩
  rw [ofString, string, unescapeString?_escape]

theorem inverts_boolean : Inverts boolean .bool := fun b => ⟨.bool b, rfl⟩

theorem value_numeral {i : Int} (h : -9223372036854775808 ≤ i ∧ i ≤ 18446744073709551615) :
    (numeral i).value = .integer i := by
  have hdigits : Nat.ofDigitChars 10 (numeral i).whole 0 = i.natAbs :=
    Nat.ofDigitChars_ten_toDigits
  have hplain : (numeral i).fraction.isEmpty = true ∧ (numeral i).exponent.isNone = true :=
    ⟨rfl, rfl⟩
  by_cases hneg : i < 0
  · have hsign : (numeral i).negative = true := decide_eq_true hneg
    rw [Numeral.value, hdigits, hsign]
    simp only [if_true]
    rw [if_pos ⟨hplain.1, hplain.2, by omega, by omega⟩]
    congr 1
    omega
  · have hsign : (numeral i).negative = false := decide_eq_false hneg
    rw [Numeral.value, hdigits, hsign]
    simp only [Bool.false_eq_true, if_false]
    rw [if_pos ⟨hplain.1, hplain.2, by unfold Numeral.largest; omega⟩]
    congr 1
    omega

theorem int32OfNumeric_numeral (i : Int32) : int32OfNumeric (numeral i.toInt) = .ok i := by
  have hlow := i.minValue_le_toInt
  have hhigh := i.toInt_le
  have hmin : Int32.minValue.toInt = -2147483648 := by decide
  have hmax : Int32.maxValue.toInt = 2147483647 := by decide
  rw [int32OfNumeric, value_numeral (by omega)]
  simp only [dif_pos (And.intro hlow hhigh), Int32.ofIntLE_toInt]

theorem inverts_int32 : Inverts int32 fun i => ofInt i.toInt :=
  fun i => ⟨.int i.toInt, int32OfNumeric_numeral i⟩

theorem inverts_uint32 : Inverts uint32 fun n => ofNat n.toNat := by
  intro n
  have hlt : n.toNat < 4294967296 := n.toNat_lt_size
  have hvalue : (numeral n.toNat).value = .integer n.toNat := value_numeral (by omega)
  have hrange : 0 ≤ (n.toNat : Int) ∧ (n.toNat : Int).toNat < UInt32.size := ⟨by omega, hlt⟩
  have hnumber : ofNat n.toNat = number (numeral n.toNat) := ofNat_eq_ofInt n.toNat
  have hbuilt : Built (ofNat n.toNat) := by
    rw [ofNat_eq_ofInt]
    exact .int n.toNat
  refine ⟨hbuilt, ?_⟩
  dsimp only
  rw [hnumber, uint32, hvalue]
  simp only [dif_pos hrange]
  exact congrArg Except.ok n.ofNatLT_toNat

theorem escapeChar_of_number {c : Char} (hc : c = '-' ∨ c.isDigit = true) : escapeChar c = [c] := by
  rcases escapeChar_cases c with ⟨e, he, -, rfl⟩ | ⟨hcontrol, -⟩ | ⟨hplain, -⟩
  · revert hc
    simp only [List.mem_cons, List.not_mem_nil, or_false] at he
    rcases he with rfl | rfl | rfl | rfl | rfl | rfl | rfl | rfl <;> decide
  · rcases hc with rfl | hdigit
    · exact absurd hcontrol (by decide)
    · rw [Char.isDigit_iff_toNat] at hdigit
      have hzero : '0'.toNat = 48 := rfl
      omega
  · exact hplain

theorem toList_toString (i : Int) : (toString i).toList = (numeral i).chars := by
  rw [chars_numeral, Decimal.toList_toString]
  simp

theorem escape_toString (i : Int) : escape (toString i) = (numeral i).chars := by
  have hplain : ∀ c ∈ (numeral i).chars, escapeChar c = [c] :=
    fun c hc => escapeChar_of_number (sign_or_digit_of_mem hc)
  rw [escape, toList_toString, List.flatMap_congr hplain, List.flatMap_singleton']

theorem int32Key_escape (i : Int32) : int32Key (escape (toString i.toInt)) = .ok i := by
  have hnumeral := takeNumeral_numeral i.toInt ends_nil
  obtain ⟨c, cs, hchars, hc⟩ := chars_numeral_cons i.toInt
  rw [List.append_nil] at hnumeral
  rw [escape_toString]
  rw [hchars] at hnumeral ⊢
  have hfirst : c.isDigit = true ∨ c = '-' := hc.symm
  rw [int32Key, if_pos (by simpa using hfirst), hnumeral]
  simp only [int32OfNumeric_numeral]
  rfl

variable {d : Decoder α} {write : α → Json}

theorem mapM_map_eq_ok {ε : Type} {f : α → β} {g : β → Except ε α} {xs : List α}
    (h : ∀ x ∈ xs, g (f x) = .ok x) : (xs.map f).mapM g = .ok xs := by
  induction xs with
  | nil => rfl
  | cons x xs ih =>
    rw [List.map_cons, List.mapM_cons, h x List.mem_cons_self,
      ih fun y hy => h y (List.mem_cons_of_mem x hy)]
    rfl

theorem Inverts.list (h : Inverts d write) : Inverts (list d) fun as => .array (as.map write) := by
  intro as
  refine ⟨.array _ fun x hx => ?_, mapM_map_eq_ok fun a _ => (h a).2⟩
  obtain ⟨a, -, rfl⟩ := List.mem_map.1 hx
  exact (h a).1

theorem Inverts.set [Ord α] [Std.TransOrd α] [Std.LawfulEqOrd α] (h : Inverts d write) :
    Inverts (set d) fun s => .array (s.toList.map write) := by
  intro s
  obtain ⟨hbuilt, hlist⟩ := h.list s.toList
  refine ⟨hbuilt, ?_⟩
  rw [Decoder.set, hlist]
  exact congrArg Except.ok s.ofList_toList

theorem Inverts.map [Ord κ] [Std.TransOrd κ] [Std.LawfulEqOrd κ] {name : κ → String}
    {key : List Char → Except DocumentFault κ} (hkey : ∀ k, key (escape (name k)) = .ok k)
    (h : Inverts d write) :
    Inverts (map key d) fun m => Json.record (m.entries.map fun e => (name e.1, write e.2)) := by
  intro m
  constructor
  · apply Built.record
    intro m' hm'
    obtain ⟨e, -, rfl⟩ := List.mem_map.1 hm'
    exact (h e.2).1
  · have hentry (e : κ × α) : (do
        let k ← key (escape (name e.1))
        let v ← d (write e.2)
        return (k, v) : Except DocumentFault (κ × α)) = .ok e := by
      rw [hkey, (h e.2).2]
      rfl
    have hentries : ((m.entries.map fun e => (name e.1, write e.2)).map
        fun e => (escape e.1, e.2)).mapM (fun e => do
          let k ← key e.1
          let v ← d e.2
          return (k, v) : List Char × Json → Except DocumentFault (κ × α)) = .ok m.entries := by
      rw [List.map_map]
      exact mapM_map_eq_ok fun e _ => hentry e
    dsimp only
    rw [Json.record, Decoder.map, hentries]
    exact congrArg Except.ok m.ofList_entries

theorem Inverts.nullable (h : Inverts d write) (hnull : ∀ a, write a ≠ .null) :
    Inverts (nullable d) fun o => (o.map write).getD .null := by
  intro o
  cases o with
  | none => exact ⟨.null, rfl⟩
  | some a =>
    refine ⟨(h a).1, ?_⟩
    show Decoder.nullable d (write a) = .ok (some a)
    rw [Decoder.nullable, (h a).2]
    · rfl
    · exact hnull a

theorem inverts_variant {names : List (String × α)} {name : α → String}
    (h : ∀ a, names.find? (fun p => p.1 = name a) = some (name a, a)) :
    Inverts (variant names) fun a => ofString (name a) := by
  intro a
  refine ⟨.text (name a), ?_⟩
  dsimp only
  rw [ofString, variant, keyText_escape]
  show variant.named names (name a) = .ok a
  rw [variant.named, h]

variable {tests : List FieldTest} {seen : List String} {members : List (String × Json)}

def Fits (t : FieldTest) (m : String × Json) : Prop :=
  t.name = m.1 ∧ t.test m.2 = .ok () ∧ Built m.2

theorem Inverts.fits (h : Inverts d write) (name : String) (a : α) :
    Fits (.of name d) (name, write a) := by
  refine ⟨rfl, ?_, (h a).1⟩
  simp only [FieldTest.of, (h a).2]
  rfl

theorem built_of_fits (h : List.Forall₂ Fits tests members) : ∀ m ∈ members, Built m.2 := by
  induction h with
  | nil => exact nofun
  | cons hfirst _ ih =>
    intro m hm
    rcases List.mem_cons.1 hm with rfl | hm
    · exact hfirst.2.2
    · exact ih m hm

theorem find?_of_fits (h : List.Forall₂ Fits tests members) (hnodup : (members.map (·.1)).Nodup)
    {m : String × Json} (hm : m ∈ members) :
    ∃ t, tests.find? (fun t => t.name = m.1) = some t ∧ t.test m.2 = .ok () := by
  induction h with
  | nil => cases hm
  | @cons t m' ts ms hfirst _ ih =>
    obtain ⟨hnot, hnodup⟩ := List.nodup_cons.1 hnodup
    rcases List.mem_cons.1 hm with rfl | hm
    · exact ⟨t, List.find?_cons_of_pos (decide_eq_true hfirst.1), hfirst.2.1⟩
    · have hne : ¬t.name = m.1 := by
        intro hname
        exact hnot (List.mem_map.2 ⟨m, hm, hname.symm.trans hfirst.1⟩)
      rw [List.find?_cons_of_neg (by simpa using hne)]
      exact ih hnodup hm

theorem scan_ok (hnodup : (members.map (·.1)).Nodup)
    (hseen : ∀ m ∈ members, m.1 ∉ seen)
    (htests : ∀ m ∈ members, ∃ t, tests.find? (fun t => t.name = m.1) = some t ∧
      t.test m.2 = .ok ()) :
    scan tests seen (members.map fun m => (escape m.1, m.2)) = .ok () := by
  induction members generalizing seen with
  | nil => rfl
  | cons m ms ih =>
    obtain ⟨hnot, hnodup⟩ := List.nodup_cons.1 hnodup
    obtain ⟨t, hfind, htest⟩ := htests m List.mem_cons_self
    have hrest : scan tests (m.1 :: seen) (ms.map fun m => (escape m.1, m.2)) = .ok () := by
      apply ih hnodup
      · intro m' hm'
        rw [List.mem_cons, not_or]
        refine ⟨?_, hseen m' (List.mem_cons_of_mem m hm')⟩
        intro hname
        exact hnot (List.mem_map.2 ⟨m', hm', hname⟩)
      · intro m' hm'
        exact htests m' (List.mem_cons_of_mem m hm')
    rw [List.map_cons, scan, keyText_escape]
    simp only [bind, Except.bind, hfind, if_neg (hseen m List.mem_cons_self), htest, hrest]

def Gives (fs : Fields) (name : String) (j : Json) : Prop :=
  ∀ (α : Type) (t : RecordType) (index : Nat) (d : Decoder α) (unnamed unlisted : Option α),
    fs.get t index name d unnamed unlisted = d j

theorem find?_of_mem (hnodup : (members.map (·.1)).Nodup) {m : String × Json} (hm : m ∈ members) :
    members.find? (fun m' => m'.1 = m.1) = some m := by
  induction members with
  | nil => cases hm
  | cons m' ms ih =>
    obtain ⟨hnot, hnodup⟩ := List.nodup_cons.1 hnodup
    rcases List.mem_cons.1 hm with rfl | hm
    · exact List.find?_cons_of_pos (decide_eq_true rfl)
    · have hne : ¬m'.1 = m.1 := by
        intro hname
        exact hnot (List.mem_map.2 ⟨m, hm, hname.symm⟩)
      rw [List.find?_cons_of_neg (by simpa using hne)]
      exact ih hnodup hm

theorem gives_of_mem (hnodup : (members.map (·.1)).Nodup) {m : String × Json} (hm : m ∈ members) :
    Gives (.named (members.map fun m => (escape m.1, m.2))) m.1 m.2 := by
  intro α t index d unnamed unlisted
  have hname : ((fun m' => decide (unescapeString? m'.1 = some m.1)) ∘
      fun m : String × Json => (escape m.1, m.2)) = fun m' => decide (m'.1 = m.1) := by
    funext m'
    simp [unescapeString?_escape]
  rw [Fields.get]
  simp only [List.find?_map, hname, find?_of_mem hnodup hm]
  rfl

variable {fs : Fields} {name : String} {a : α}

theorem Inverts.required (hd : Inverts d write) (h : Gives fs name (write a)) (t : RecordType)
    (index : Nat) : fs.required t index name d = .ok a := (h α t index d none none).trans (hd a).2

theorem Inverts.defaulted (hd : Inverts d write) (h : Gives fs name (write a)) (t : RecordType)
    (index : Nat) (b : α) : fs.defaulted t index name d b = .ok a :=
  (h α t index d (some b) (some b)).trans (hd a).2

theorem Inverts.optional {write : Option α → Json} {o : Option α}
    (hd : Inverts (Decoder.nullable d) write) (h : Gives fs name (write o)) (t : RecordType)
    (index : Nat) : fs.optional t index name d = .ok o :=
  (h (Option α) t index (Decoder.nullable d) (some none) none).trans (hd o).2

theorem inverts_record {t : RecordType} {build : Fields → Except DocumentFault α}
    (hnodup : (members.map (·.1)).Nodup) (hfits : List.Forall₂ Fits tests members)
    (hbuild : ∀ fs, (∀ m ∈ members, Gives fs m.1 m.2) → build fs = .ok a) :
    Built (Json.record members) ∧ record t tests build (Json.record members) = .ok a := by
  constructor
  · exact .record members (built_of_fits hfits)
  · have hscan : scan tests [] (members.map fun m => (escape m.1, m.2)) = .ok () :=
      scan_ok hnodup (fun _ _ => List.not_mem_nil) fun m hm => find?_of_fits hfits hnodup hm
    rw [Json.record, record, hscan]
    exact hbuild _ fun m hm => gives_of_mem hnodup hm

theorem Inverts.ofText (h : Inverts d write) (a : α) :
    ofText d (write a).text = .ok a ∧ ofText d (write a).prettyText = .ok a := by
  obtain ⟨hbuilt, hdecode⟩ := h a
  rw [Decoder.ofText, Decoder.ofText, hbuilt.read?_text, hbuilt.read?_prettyText]
  simp only [hdecode, and_self]

end ClusterCerts.Decoder
