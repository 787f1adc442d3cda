import ClusterCerts.Proofs.Address.Digits

/-!
# The spellings of an address

A grammar of the texts that stand for an address, and the proof that the reader knows this grammar
and no more: four decimal numbers; or eight groups of hexadecimal digits, of which the last two may
be dotted and any run of zeros may be left out, once; and brackets around any of these, or none.
-/

namespace ClusterCerts.Address

variable {cs : List Char} {c : Char} {g : UInt16} {gs : List UInt16} {os : List UInt8}
  {texts : List (List Char)} {a : Address}

theorem dotted_fields (h : os ≠ []) :
    Text.fields '.' (dotted os) = os.map fun o => Nat.toDigits 10 o.toNat := by
  apply Text.fields_intercalate
  · simpa using h
  · intro field hfield hdot
    obtain ⟨o, -, rfl⟩ := List.mem_map.1 hfield
    exact absurd (Nat.isDigit_of_mem_toDigits (by decide) (by decide) hdot) (by decide)

theorem mapM_octet?_eq_some_iff :
    texts.mapM octet? = some os ↔ texts = os.map fun o => Nat.toDigits 10 o.toNat := by
  have hmap := List.forall₂_map_right_iff (R := Eq)
    (f := fun o : UInt8 => Nat.toDigits 10 o.toNat) (l := texts) (u := os)
  rw [List.forall₂_eq_eq_eq] at hmap
  simp only [mapM_eq_some_iff, octet?_eq_some_iff]
  exact hmap.symm

theorem octets?_eq_some_iff : octets? cs = some os ↔ os.length = 4 ∧ cs = dotted os := by
  simp only [octets?, Option.bind_eq_bind, Option.bind_eq_some_iff, mapM_octet?_eq_some_iff,
    Option.pure_def, Option.some.injEq]
  constructor
  · rintro ⟨os, hfields, _, hguard, rfl⟩
    refine ⟨(Option.guard_eq_some' _).1 hguard, ?_⟩
    rw [← Text.intercalate_fields '.' cs, hfields]
    rfl
  · rintro ⟨hlength, rfl⟩
    exact ⟨os, dotted_fields (List.ne_nil_of_length_eq_add_one hlength), (),
      (Option.guard_eq_some' _).2 hlength, rfl⟩

theorem octets?_dotted (h : os.length = 4) : octets? (dotted os) = some os :=
  octets?_eq_some_iff.2 ⟨h, rfl⟩

theorem dot_or_isDigit_of_mem_dotted (hc : c ∈ dotted os) : c = '.' ∨ c.isDigit = true := by
  have hne : os ≠ [] := by
    rintro rfl
    cases hc
  refine (Text.exists_mem_fields hc).imp_right fun ⟨field, hfield, hmem⟩ => ?_
  rw [dotted_fields hne] at hfield
  obtain ⟨o, -, rfl⟩ := List.mem_map.1 hfield
  exact Nat.isDigit_of_mem_toDigits (by decide) (by decide) hmem

theorem colon_not_mem_dotted (os : List UInt8) : ':' ∉ dotted os := fun hc =>
  absurd (dot_or_isDigit_of_mem_dotted hc) (by decide)

theorem octets?_eq_none_of_colon (h : ':' ∈ cs) : octets? cs = none := by
  rw [Option.eq_none_iff_forall_ne_some]
  intro os hos
  obtain ⟨-, rfl⟩ := octets?_eq_some_iff.1 hos
  exact colon_not_mem_dotted os h

theorem dot_mem_dotted (h : os.length = 4) : '.' ∈ dotted os := by
  match os, h with
  | o :: o' :: os, _ => simp [dotted, List.intercalate_cons_cons]

theorem octets?_eq_none_of_not_mem (h : '.' ∉ cs) : octets? cs = none := by
  rw [Option.eq_none_iff_forall_ne_some]
  intro os hos
  obtain ⟨hlength, rfl⟩ := octets?_eq_some_iff.1 hos
  exact h (dot_mem_dotted hlength)

def joined (texts : List (List Char)) : List Char := [':'].intercalate texts

/-- Groups, of which the last two may be written as four numbers. -/
inductive Parts : List (List Char) → List UInt16 → Prop
  | groups {texts : List (List Char)} {gs : List UInt16} :
      List.Forall₂ SpellsGroup texts gs → Parts texts gs
  | tail {texts : List (List Char)} {gs : List UInt16} {os : List UInt8} :
      List.Forall₂ SpellsGroup texts gs → os.length = 4 →
        Parts (texts ++ [dotted os]) (gs ++ groupsOfOctets os)

theorem SpellsGroup.ne_nil (h : SpellsGroup cs g) : cs ≠ [] :=
  (bounds_of_group? (group?_eq_some_iff.2 h)).1

theorem SpellsGroup.isSome_hexDigit? (h : SpellsGroup cs g) (hc : c ∈ cs) :
    (hexDigit? c).isSome = true := by
  have hg := group?_eq_some_iff.2 h
  rw [group?_eq h.ne_nil h.1] at hg
  obtain ⟨ds, hds, -⟩ := Option.map_eq_some_iff.1 hg
  obtain ⟨d, hd⟩ := forall₂_exists_right (mapM_eq_some_iff.1 hds) hc
  simp [hd]

theorem SpellsGroup.not_mem (h : SpellsGroup cs g) (hc : hexDigit? c = none) : c ∉ cs := by
  intro hmem
  have hsome := h.isSome_hexDigit? hmem
  simp [hc] at hsome

theorem Parts.group_or_dotted (h : Parts texts gs) {field : List Char} (hfield : field ∈ texts) :
    (∃ g, SpellsGroup field g) ∨ ∃ os, os.length = 4 ∧ field = dotted os := by
  cases h with
  | groups hgroups => exact .inl (forall₂_exists_right hgroups hfield)
  | @tail _ _ os hgroups hos =>
    rcases List.mem_append.1 hfield with hfield | hfield
    · exact .inl (forall₂_exists_right hgroups hfield)
    · exact .inr ⟨os, hos, List.mem_singleton.1 hfield⟩

theorem Parts.field (h : Parts texts gs) {field : List Char} (hfield : field ∈ texts) :
    field ≠ [] ∧ ':' ∉ field := by
  rcases h.group_or_dotted hfield with ⟨g, hg⟩ | ⟨os, hos, rfl⟩
  · exact ⟨hg.ne_nil, hg.not_mem (by decide)⟩
  · exact ⟨List.ne_nil_of_mem (dot_mem_dotted hos), colon_not_mem_dotted os⟩

theorem fields_joined (hne : texts ≠ []) (h : Parts texts gs) :
    Text.fields ':' (joined texts) = texts :=
  Text.fields_intercalate hne fun _ htext => (h.field htext).2

theorem joined_ne_nil (hne : texts ≠ []) (h : Parts texts gs) : joined texts ≠ [] := by
  intro hnil
  have hfields := fields_joined hne h
  rw [hnil] at hfields
  exact (h.field (hfields ▸ List.mem_singleton_self [])).1 rfl

theorem groups?_eq_some_iff :
    groups? cs = some gs ↔ ∃ texts, List.Forall₂ SpellsGroup texts gs ∧ cs = joined texts := by
  rw [groups?]
  constructor
  · intro h
    split at h
    · next hcs =>
      cases h
      exact ⟨[], .nil, hcs⟩
    · exact ⟨_, mapM_group?_eq_some_iff.1 h, (Text.intercalate_fields ':' cs).symm⟩
  · rintro ⟨texts, hgroups, rfl⟩
    by_cases hne : texts = []
    · subst hne
      cases hgroups
      rfl
    · rw [if_neg (joined_ne_nil hne (.groups hgroups)), fields_joined hne (.groups hgroups),
        mapM_group?_eq_some_iff]
      exact hgroups

theorem joined_append_singleton (hne : texts ≠ []) (last : List Char) :
    joined (texts ++ [last]) = joined texts ++ ':' :: last :=
  Text.intercalate_append_singleton ':' hne last

theorem dot_not_mem_joined (h : List.Forall₂ SpellsGroup texts gs) : '.' ∉ joined texts := by
  intro hdot
  by_cases hne : texts = []
  · rw [hne] at hdot
    cases hdot
  · have hfields : '.' = ':' ∨ ∃ field ∈ Text.fields ':' (joined texts), '.' ∈ field :=
      Text.exists_mem_fields hdot
    obtain ⟨field, hfield, hmem⟩ := hfields.resolve_left (by decide)
    rw [fields_joined hne (.groups h)] at hfield
    obtain ⟨g, hg⟩ := forall₂_exists_right h hfield
    exact hg.not_mem (by decide) hmem

theorem groupsWithTail?_of_not_mem (h : '.' ∉ cs) : groupsWithTail? cs = groups? cs := by
  rw [groupsWithTail?]
  split
  · rw [octets?_eq_none_of_not_mem h]
    rfl
  · next front last hsplit =>
    rw [Text.eq_of_splitLast? hsplit] at h
    have hlast : '.' ∉ last := by simp_all
    rw [octets?_eq_none_of_not_mem hlast]

theorem exists_parts_of_groups? (h : groups? cs = some gs) :
    ∃ texts, Parts texts gs ∧ cs = joined texts := by
  obtain ⟨texts, hgroups, hcs⟩ := groups?_eq_some_iff.1 h
  exact ⟨texts, .groups hgroups, hcs⟩

theorem groupsWithTail?_eq_some_iff :
    groupsWithTail? cs = some gs ↔ ∃ texts, Parts texts gs ∧ cs = joined texts := by
  constructor
  · intro h
    rw [groupsWithTail?] at h
    split at h
    · cases hos : octets? cs with
      | none =>
        rw [hos] at h
        exact exists_parts_of_groups? h
      | some os =>
        rw [hos] at h
        cases h
        obtain ⟨hlength, hcs⟩ := octets?_eq_some_iff.1 hos
        exact ⟨[dotted os], .tail .nil hlength, by rw [hcs, joined, List.intercalate_singleton]⟩
    · next front last hsplit =>
      split at h
      · next os hos =>
        obtain ⟨hlength, rfl⟩ := octets?_eq_some_iff.1 hos
        obtain ⟨gs, hgs, hall⟩ := Option.bind_eq_some_iff.1 h
        cases hall
        refine ⟨_, .tail (mapM_group?_eq_some_iff.1 hgs) hlength, ?_⟩
        rw [joined_append_singleton (Text.fields_ne_nil ':' front), joined, Text.intercalate_fields,
          Text.eq_of_splitLast? hsplit]
      · exact exists_parts_of_groups? h
  · rintro ⟨texts, hparts, rfl⟩
    cases hparts with
    | groups hgroups =>
      rw [groupsWithTail?_of_not_mem (dot_not_mem_joined hgroups), groups?_eq_some_iff]
      exact ⟨texts, hgroups, rfl⟩
    | @tail texts gs os hgroups hos =>
      by_cases hne : texts = []
      · subst hne
        cases hgroups
        have hnone := Text.splitLast?_eq_none_iff.2 (colon_not_mem_dotted os)
        rw [List.nil_append, joined, List.intercalate_singleton, groupsWithTail?, hnone,
          octets?_dotted hos]
        rfl
      · rw [joined_append_singleton hne, groupsWithTail?,
          Text.splitLast?_append _ (colon_not_mem_dotted os)]
        simp only [octets?_dotted hos, fields_joined hne (.groups hgroups),
          mapM_group?_eq_some_iff.2 hgroups]
        rfl

theorem aroundGap?_cons (h : c = ':' → cs.head? ≠ some ':') :
    aroundGap? (c :: cs) = (aroundGap? cs).map fun p => (c :: p.1, p.2) := by
  apply aroundGap?.eq_2
  rintro rest rfl rfl
  exact h rfl rfl

theorem aroundGap?_append (h : ':' ∉ cs) (ds : List Char) :
    aroundGap? (cs ++ ds) = (aroundGap? ds).map fun p => (cs ++ p.1, p.2) := by
  induction cs with
  | nil => simp
  | cons c cs ih =>
    have hc : c ≠ ':' := fun hc => h (by simp [hc])
    rw [List.cons_append, aroundGap?_cons (fun hcolon => absurd hcolon hc),
      ih fun hcs => h (List.mem_cons_of_mem c hcs)]
    simp [Function.comp_def]

theorem joined_cons_cons (text next : List Char) (rest : List (List Char)) :
    joined (text :: next :: rest) = text ++ ':' :: joined (next :: rest) := by
  simp [joined, List.intercalate_cons_cons]

theorem head?_joined_append {text : List Char} (hne : text ≠ []) (hcolon : ':' ∉ text)
    (rest : List (List Char)) (ds : List Char) :
    (joined (text :: rest) ++ ds).head? ≠ some ':' := by
  have hjoined : ∃ cs, joined (text :: rest) ++ ds = text ++ cs := by
    cases rest <;> simp [joined, List.intercalate_cons_cons]
  obtain ⟨cs, hcs⟩ := hjoined
  rw [hcs, List.head?_append_of_ne_nil _ hne]
  exact fun hhead => hcolon (List.mem_of_head? hhead)

theorem aroundGap?_joined_append (h : ∀ text ∈ texts, text ≠ [] ∧ ':' ∉ text) (ds : List Char) :
    aroundGap? (joined texts ++ ds) = (aroundGap? ds).map fun p => (joined texts ++ p.1, p.2) := by
  induction texts with
  | nil => simp [joined]
  | cons text texts ih =>
    obtain ⟨hne, hcolon⟩ := h text List.mem_cons_self
    have ih := ih fun t ht => h t (List.mem_cons_of_mem text ht)
    cases texts with
    | nil => rw [joined, List.intercalate_singleton, aroundGap?_append hcolon]
    | cons next rest =>
      -- the colon after a part is no gap, as the next part does not begin with one
      obtain ⟨hnext, hcolon'⟩ := h next (by simp)
      have hhead := head?_joined_append hnext hcolon' rest ds
      rw [joined_cons_cons, List.append_assoc, aroundGap?_append hcolon, List.cons_append,
        aroundGap?_cons (fun _ => hhead), ih]
      simp [Function.comp_def]

theorem aroundGap?_joined (h : Parts texts gs) : aroundGap? (joined texts) = none := by
  have hend := aroundGap?_joined_append (fun _ => h.field) []
  rwa [List.append_nil] at hend

theorem aroundGap?_gap (h : Parts texts gs) (ds : List Char) :
    aroundGap? (joined texts ++ "::".toList ++ ds) = some (joined texts, ds) := by
  rw [List.append_assoc, aroundGap?_joined_append fun _ => h.field]
  simp [aroundGap?]

theorem eq_of_aroundGap? {front back : List Char} (h : aroundGap? cs = some (front, back)) :
    cs = front ++ "::".toList ++ back := by
  induction cs using aroundGap?.induct generalizing front with
  | case1 r =>
    rw [aroundGap?] at h
    cases h
    rfl
  | case2 c r hne ih =>
    rw [aroundGap?.eq_2 _ _ hne] at h
    obtain ⟨⟨f, b⟩, hr, he⟩ := Option.map_eq_some_iff.1 h
    cases he
    rw [ih hr]
    rfl
  | case3 => cases h

/-- Groups written one by one, or with a run of zeros left out. -/
inductive Written : List Char → List UInt16 → Prop
  | whole {texts : List (List Char)} {gs : List UInt16} : Parts texts gs → Written (joined texts) gs
  | gap {front back : List (List Char)} {fs bs : List UInt16} {len : Nat} : 0 < len →
      List.Forall₂ SpellsGroup front fs → Parts back bs →
        Written (joined front ++ "::".toList ++ joined back) (fs ++ List.replicate len 0 ++ bs)

theorem ofGroups?_eq_some_iff : ofGroups? gs = some a ↔ ∃ h, a = v6 gs h := by
  unfold ofGroups?
  split <;> simp [*, eq_comm]

theorem readV6?_eq_some_iff :
    readV6? cs = some a ↔ ∃ gs h, Written cs gs ∧ a = v6 gs h := by
  rw [readV6?]
  constructor
  · intro h
    split at h
    · obtain ⟨gs, hgs, hall⟩ := Option.bind_eq_some_iff.1 h
      obtain ⟨hlength, rfl⟩ := ofGroups?_eq_some_iff.1 hall
      obtain ⟨texts, hparts, rfl⟩ := groupsWithTail?_eq_some_iff.1 hgs
      exact ⟨gs, hlength, .whole hparts, rfl⟩
    · next front back hgap =>
      simp only [Option.bind_eq_bind, Option.bind_eq_some_iff] at h
      obtain ⟨fs, hfs, bs, hbs, _, hroom, hall⟩ := h
      obtain ⟨hlength, rfl⟩ := ofGroups?_eq_some_iff.1 hall
      obtain ⟨front, hfront, rfl⟩ := groups?_eq_some_iff.1 hfs
      obtain ⟨back, hback, rfl⟩ := groupsWithTail?_eq_some_iff.1 hbs
      have hle := (Option.guard_eq_some' _).1 hroom
      exact ⟨_, hlength, eq_of_aroundGap? hgap ▸ .gap (by omega) hfront hback, rfl⟩
  · rintro ⟨gs, hlength, hwritten, rfl⟩
    cases hwritten with
    | @whole texts gs hparts =>
      rw [aroundGap?_joined hparts]
      exact Option.bind_eq_some_iff.2 ⟨gs, groupsWithTail?_eq_some_iff.2 ⟨texts, hparts, rfl⟩,
        ofGroups?_eq_some_iff.2 ⟨hlength, rfl⟩⟩
    | @gap front back fs bs len hlen hfront hback =>
      have hsum : fs.length + (len + bs.length) = 8 := by simpa using hlength
      have hroom : (guard (fs.length + bs.length ≤ 7) : Option Unit) = some () :=
        if_pos (by omega)
      have hfill : 8 - fs.length - bs.length = len := by omega
      rw [aroundGap?_gap (.groups hfront)]
      simp only [groups?_eq_some_iff.2 ⟨front, hfront, rfl⟩,
        groupsWithTail?_eq_some_iff.2 ⟨back, hback, rfl⟩, Option.bind_eq_bind, Option.bind_some,
        hroom, hfill]
      exact ofGroups?_eq_some_iff.2 ⟨hlength, rfl⟩

inductive Plain : List Char → Address → Prop
  | v4 (os : List UInt8) (h : os.length = 4) : Plain (dotted os) (.v4 os h)
  | v6 {cs : List Char} (gs : List UInt16) (h : gs.length = 8) : Written cs gs → Plain cs (.v6 gs h)

/-- A text that stands for an address, in brackets or not. -/
inductive Spells (text : String) (a : Address) : Prop
  | plain : Plain text.toList a → Spells text a
  | bracketed (cs : List Char) : text.toList = '[' :: (cs ++ [']']) → Plain cs a → Spells text a

theorem readV4?_eq_some_iff : readV4? cs = some a ↔ ∃ os h, cs = dotted os ∧ a = v4 os h := by
  simp only [readV4?, Option.bind_eq_bind, Option.bind_eq_some_iff, octets?_eq_some_iff]
  constructor
  · rintro ⟨os, ⟨hlength, hcs⟩, h⟩
    rw [dif_pos hlength] at h
    exact ⟨os, hlength, hcs, (Option.some.inj h).symm⟩
  · rintro ⟨os, hlength, hcs, rfl⟩
    exact ⟨os, ⟨hlength, hcs⟩, dif_pos hlength⟩

theorem colon_mem_joined (h : 1 < texts.length) : ':' ∈ joined texts := by
  match texts, h with
  | text :: text' :: texts, _ => simp [joined_cons_cons]

theorem Written.colon_mem (h : Written cs gs) (hlength : gs.length = 8) : ':' ∈ cs := by
  cases h with
  | whole hparts =>
    apply colon_mem_joined
    cases hparts with
    | groups hgroups =>
      rw [hgroups.length_eq]
      omega
    | @tail texts gs os hgroups hos =>
      have htwo : (groupsOfOctets os).length = 2 := by
        match os, hos with
        | [_, _, _, _], _ => rfl
      have hall := hgroups.length_eq
      simp only [List.length_append, htwo, List.length_singleton] at hlength ⊢
      omega
  | gap => simp

theorem readV4?_eq_none_of_written (h : Written cs gs) (hlength : gs.length = 8) :
    readV4? cs = none := by
  rw [readV4?, octets?_eq_none_of_colon (h.colon_mem hlength)]
  rfl

theorem read?_eq_some_iff {s : String} : read? s = some a ↔ Plain s.toList a := by
  rw [read?]
  constructor
  · intro h
    cases hv4 : readV4? s.toList with
    | none =>
      rw [hv4] at h
      obtain ⟨gs, hlength, hwritten, rfl⟩ := readV6?_eq_some_iff.1 h
      exact .v6 gs hlength hwritten
    | some b =>
      rw [hv4] at h
      cases h
      obtain ⟨os, hlength, hcs, rfl⟩ := readV4?_eq_some_iff.1 hv4
      exact hcs ▸ .v4 os hlength
  · generalize s.toList = cs
    rintro (⟨os, hlength⟩ | ⟨gs, hlength, hwritten⟩)
    · rw [readV4?_eq_some_iff.2 ⟨os, hlength, rfl, rfl⟩]
      rfl
    · rw [readV4?_eq_none_of_written hwritten hlength]
      exact readV6?_eq_some_iff.2 ⟨gs, hlength, hwritten, rfl⟩

def Literal (c : Char) : Prop := c = '.' ∨ c = ':' ∨ (hexDigit? c).isSome = true

theorem literal_of_mem_dotted (hc : c ∈ dotted os) : Literal c :=
  (dot_or_isDigit_of_mem_dotted hc).imp_right fun hdigit => .inr (by simp [hexDigit?, hdigit])

theorem Parts.literal (h : Parts texts gs) (hc : c ∈ joined texts) : Literal c := by
  by_cases hne : texts = []
  · rw [hne] at hc
    cases hc
  · rcases Text.exists_mem_fields hc with hcolon | ⟨field, hfield, hmem⟩
    · exact .inr (.inl hcolon)
    · rw [fields_joined hne h] at hfield
      rcases h.group_or_dotted hfield with ⟨g, hg⟩ | ⟨os, -, rfl⟩
      · exact .inr (.inr (hg.isSome_hexDigit? hmem))
      · exact literal_of_mem_dotted hmem

theorem Written.literal (h : Written cs gs) (hc : c ∈ cs) : Literal c := by
  cases h with
  | whole hparts => exact hparts.literal hc
  | gap _ hfront hback =>
    have hcolons : "::".toList = [':', ':'] := by decide
    simp only [hcolons, List.mem_append, List.mem_cons, List.not_mem_nil, or_false, or_self] at hc
    rcases hc with (hc | hc) | hc
    · exact (Parts.groups hfront).literal hc
    · exact .inr (.inl hc)
    · exact hback.literal hc

theorem Plain.literal (h : Plain cs a) (hc : c ∈ cs) : Literal c := by
  cases h with
  | v4 => exact literal_of_mem_dotted hc
  | v6 _ _ hwritten => exact hwritten.literal hc

theorem unbracketed_of_not_mem (h : '[' ∉ cs) : unbracketed cs = cs := by
  unfold unbracketed
  split
  · exact absurd List.mem_cons_self h
  · rfl

theorem unbracketed_bracketed (cs : List Char) : unbracketed ('[' :: (cs ++ [']'])) = cs := by
  simp [unbracketed]

theorem unbracketed_cases (cs : List Char) :
    unbracketed cs = cs ∨ cs = '[' :: (unbracketed cs ++ [']']) := by
  unfold unbracketed
  split
  · next r =>
    split
    · next hlast => exact .inr (congrArg _ (List.dropLast_append_getLast? _ hlast).symm)
    · exact .inl rfl
  · exact .inl rfl

/-- The reader takes the spellings of an address and no other text. -/
theorem readLiteral?_iff {text : String} : readLiteral? text = some a ↔ Spells text a := by
  rw [readLiteral?, read?_eq_some_iff, String.toList_ofList]
  constructor
  · intro h
    rcases unbracketed_cases text.toList with heq | heq
    · exact .plain (heq ▸ h)
    · exact .bracketed _ heq h
  · rintro (h | ⟨cs, htext, h⟩)
    · have hopen : '[' ∉ text.toList := fun hmem =>
        absurd (h.literal hmem) (by unfold Literal; decide)
      rwa [unbracketed_of_not_mem hopen]
    · rwa [htext, unbracketed_bracketed]

end ClusterCerts.Address
