import ClusterCerts.Proofs.Files.Entries

/-!
# Drafts

The draft of a file has another name in the same directory, and a path is its own draft if and only
if it has no file name. A path that names no entry of a directory is empty or ends in a dot or in
two, and such a path leads through directories alone.
-/

namespace ClusterCerts

namespace Path

variable {cs before part : List Char} {path : String}

theorem lastPart_append_slash (cs : List Char) : lastPart (cs ++ ['/']) = lastPart cs := by
  simp [lastPart, lastPart.trim]

theorem trim_eq_self (hslash : cs.getLast? ≠ some '/') (hdot : ¬ ['/', '.'] <:+ cs) (k : Nat) :
    lastPart.trim k cs = cs := by
  cases k with
  | zero => rfl
  | succ k =>
    rw [lastPart.trim]
    split
    · next r hr =>
      exact absurd (by rw [← List.head?_reverse, hr]; rfl) hslash
    · next r hr =>
      have hcs : cs = r.reverse ++ ['/', '.'] := by
        rw [← List.reverse_reverse cs, hr]
        simp
      exact absurd ⟨_, hcs.symm⟩ hdot
    · rfl

theorem lastPart_spec (hslash : cs.getLast? ≠ some '/') (hdot : ¬ ['/', '.'] <:+ cs)
    (h : lastPart cs = (before, part)) :
    cs = before ++ part ∧ '/' ∉ part ∧ (before = [] ∨ before.getLast? = some '/') ∧
      (part = [] → cs = []) ∧ (part = ['.'] → cs = ['.']) := by
  simp only [lastPart, trim_eq_self hslash hdot] at h
  split at h
  · next front rest hsplit =>
    obtain ⟨rfl, rfl⟩ := Prod.mk.inj h
    have hcs := Text.eq_of_splitLast? hsplit
    refine ⟨by simpa using hcs, Text.not_mem_of_splitLast? hsplit, .inr (by simp), ?_, ?_⟩
    · rintro rfl
      exact absurd (by simp [hcs]) hslash
    · rintro rfl
      exact absurd ⟨front, hcs.symm⟩ hdot
  · next hsplit =>
    obtain ⟨rfl, rfl⟩ := Prod.mk.inj h
    exact ⟨rfl, Text.splitLast?_eq_none_iff.1 hsplit, .inl rfl, id, id⟩

def Nameless (part : List Char) : Prop := part = [] ∨ part = ['.'] ∨ part = ['.', '.']

theorem draft_of_nameless (h : Nameless (lastPart path.toList).2) : draft path = path := by
  rw [draft, withExtension]
  exact if_pos h

theorem draft_append_slash (path : String) :
    draft (path ++ "/") = draft path ∨ draft (path ++ "/") = path ++ "/" := by
  have hlast : lastPart (path ++ "/").toList = lastPart path.toList := by
    rw [String.toList_append]
    exact lastPart_append_slash path.toList
  unfold draft withExtension
  rw [hlast]
  by_cases hname : Nameless (lastPart path.toList).2
  · exact .inr (if_pos hname)
  · exact .inl ((if_neg hname).trans (if_neg hname).symm)

theorem stem_of_splitLast? {rest : List Char} (h : Text.splitLast? '.' part = some (before, rest))
    (hbefore : before ≠ []) : stem part = before := by
  rw [stem, h]
  cases before with
  | nil => exact absurd rfl hbefore
  | cons c cs => rfl

def draftName (part : List Char) : List Char := stem part ++ '.' :: "json.tmp".toList

theorem ne_draftName (part : List Char) : part ≠ draftName part := by
  intro h
  have htext : "json.tmp".toList = ['j', 's', 'o', 'n'] ++ '.' :: ['t', 'm', 'p'] := by decide
  have hcut : part = (stem part ++ '.' :: ['j', 's', 'o', 'n']) ++ '.' :: ['t', 'm', 'p'] :=
    calc part = draftName part := h
      _ = _ := by simp [draftName, htext]
  have hsplit := Text.splitLast?_append (stem part ++ '.' :: ['j', 's', 'o', 'n'])
    (show '.' ∉ ['t', 'm', 'p'] by decide)
  rw [← hcut] at hsplit
  simpa using congrArg List.length (stem_of_splitLast? hsplit (by simp))

theorem draft_ne (h : ¬ Nameless (lastPart path.toList).2) : draft path ≠ path := by
  intro heq
  have htext : path.toList =
      (lastPart path.toList).1 ++ draftName (lastPart path.toList).2 := by
    have hdraft : draft path = String.ofList ((lastPart path.toList).1 ++
        stem (lastPart path.toList).2 ++ '.' :: "json.tmp".toList) := if_neg h
    calc path.toList = (draft path).toList := by rw [heq]
      _ = _ := by rw [hdraft, String.toList_ofList, draftName, List.append_assoc]
  have hend : path.toList.getLast? = some 'p' := by
    rw [htext]
    simp [draftName]
  have hslash : path.toList.getLast? ≠ some '/' := by simp [hend]
  have hdot : ¬ ['/', '.'] <:+ path.toList := by
    rintro ⟨before, hbefore⟩
    simp [← hbefore] at hend
  obtain ⟨hcut, -⟩ := lastPart_spec hslash hdot rfl
  exact ne_draftName _ (List.append_cancel_left (hcut.symm.trans htext))

def properParts (cs : List Char) : List (List Char) :=
  (Text.fields '/' cs).filter fun part => part ≠ [] ∧ part ≠ ['.']

def fileName? (path : String) : Option (List Char) :=
  (properParts path.toList).getLast?.filter fun part => part ≠ ['.', '.']

theorem properParts_of_not_mem (h : '/' ∉ part) :
    properParts part = if part = [] ∨ part = ['.'] then [] else [part] := by
  rw [properParts, Text.fields_of_not_mem h]
  by_cases hpart : part = [] ∨ part = ['.']
  · rw [if_pos hpart]
    rcases hpart with rfl | rfl <;> rfl
  · rw [if_neg hpart]
    rw [not_or] at hpart
    simp [hpart]

theorem properParts_append (before : List Char) (h : '/' ∉ part) :
    properParts (before ++ '/' :: part) =
      properParts before ++ if part = [] ∨ part = ['.'] then [] else [part] := by
  rw [← properParts_of_not_mem h, properParts, properParts, properParts, Text.fields_append_sep,
    List.filter_append]

theorem properParts_trim (k : Nat) (cs : List Char) :
    properParts (lastPart.trim k cs) = properParts cs := by
  induction k generalizing cs with
  | zero => rfl
  | succ k ih =>
    rw [lastPart.trim]
    split
    · next r hr =>
      have hcs : cs = r.reverse ++ ['/'] := by rw [← List.reverse_reverse cs, hr, List.reverse_cons]
      rw [ih, hcs, properParts_append _ List.not_mem_nil, if_pos (.inl rfl), List.append_nil]
    · next r hr =>
      have hcs : cs = r.reverse ++ '/' :: ['.'] := by
        rw [← List.reverse_reverse cs, hr, List.reverse_cons, List.reverse_cons, List.append_assoc]
        rfl
      rw [ih, hcs, List.reverse_cons, properParts_append _ List.not_mem_nil,
        properParts_append _ (by decide), if_pos (.inl rfl), if_pos (.inr rfl)]
    · rfl

theorem trim_spec {k : Nat} (h : cs.length ≤ k) :
    (lastPart.trim k cs).getLast? ≠ some '/' ∧ ¬ ['/', '.'] <:+ lastPart.trim k cs := by
  induction k generalizing cs with
  | zero =>
    rw [List.length_eq_zero_iff.1 (Nat.le_zero.1 h)]
    exact ⟨by simp [lastPart.trim], by simp [lastPart.trim]⟩
  | succ k ih =>
    rw [← List.length_reverse] at h
    rw [lastPart.trim]
    split
    · next r hr =>
      rw [hr, List.length_cons] at h
      exact ih (by simpa using h)
    · next r hr =>
      rw [hr, List.length_cons] at h
      exact ih (by simpa using h)
    · next hslash hdot =>
      constructor
      · intro hlast
        obtain ⟨before, rfl⟩ := List.getLast?_eq_some_iff.1 hlast
        exact hslash before.reverse (by simp)
      · rintro ⟨before, rfl⟩
        exact hdot before.reverse (by simp)

theorem lastPart_trim (cs : List Char) : lastPart (lastPart.trim cs.length cs) = lastPart cs := by
  obtain ⟨hslash, hdot⟩ := trim_spec (Nat.le_refl cs.length)
  simp only [lastPart, trim_eq_self hslash hdot]

theorem nameless_iff (path : String) :
    Nameless (lastPart path.toList).2 ↔ fileName? path = none := by
  obtain ⟨hslash, hdot⟩ := trim_spec (Nat.le_refl path.toList.length)
  rw [fileName?, ← properParts_trim path.toList.length path.toList, ← lastPart_trim]
  cases hlast : lastPart (lastPart.trim path.toList.length path.toList) with
  | mk before part =>
    obtain ⟨hcut, hpart, hbefore, hnil, hone⟩ := lastPart_spec hslash hdot hlast
    by_cases hshort : part = [] ∨ part = ['.']
    · -- such a part is all that is left of the path
      have hall : lastPart.trim path.toList.length path.toList = part := by
        rcases hshort with rfl | rfl
        · exact hnil rfl
        · exact hone rfl
      rw [hall, properParts_of_not_mem hpart, if_pos hshort]
      exact iff_of_true (hshort.imp id .inl) rfl
    · have hends : (properParts (lastPart.trim path.toList.length path.toList)).getLast? =
          some part := by
        rcases hbefore with rfl | hbefore
        · rw [hcut, List.nil_append, properParts_of_not_mem hpart, if_neg hshort]
          rfl
        · obtain ⟨front, rfl⟩ := List.getLast?_eq_some_iff.1 hbefore
          rw [hcut, List.append_assoc, List.singleton_append, properParts_append front hpart,
            if_neg hshort, List.getLast?_concat]
      rw [hends, Option.filter_some]
      rw [not_or] at hshort
      simp [Nameless, hshort]

theorem draft_ne_iff : draft path ≠ path ↔ (fileName? path).isSome = true := by
  refine Iff.trans ?_ ((not_congr (nameless_iff path)).trans Option.isSome_iff_ne_none.symm)
  exact ⟨fun h hname => h (draft_of_nameless hname), draft_ne⟩

example : fileName? "out/secret.json/./" = some "secret.json".toList ∧ fileName? "out/.." = none ∧
    fileName? "/" = none := by decide

theorem stem_subset (part : List Char) : stem part ⊆ part := by
  unfold stem
  split
  · exact List.Subset.refl part
  · exact List.Subset.refl part
  · next before rest hbefore hsplit =>
    rw [Text.eq_of_splitLast? hsplit]
    exact List.subset_append_left before _

end Path

namespace Files

open ClusterCerts.Path

variable {path : String} {part : List Char}

theorem pathPart_ofList (hne : part ≠ []) (hslash : '/' ∉ part) : PathPart (String.ofList part) :=
  ⟨fun h => hne (String.ofList_injective (h.trans rfl)), by simpa using hslash⟩

theorem plainName_ofList (hname : ¬ Nameless part) (hslash : '/' ∉ part) :
    PlainName (String.ofList part) where
  toPathPart := pathPart_ofList (fun h => hname (.inl h)) hslash
  ne_dot h := hname (.inr (.inl (String.ofList_injective (h.trans rfl))))
  ne_dots h := hname (.inr (.inr (String.ofList_injective (h.trans rfl))))

theorem plainName_draftName (hslash : '/' ∉ part) : PlainName (String.ofList (draftName part)) := by
  have hlength : 8 < (draftName part).length := by
    simp [draftName]
  refine plainName_ofList ?_ ?_
  · rintro (h | h | h) <;> simp [h] at hlength
  · intro h
    rcases List.mem_append.1 h with h | h
    · exact hslash (stem_subset part h)
    · revert h
      decide

structure Entry (path dir name sibling : String) : Prop where
  eq_join : path = Path.join dir name
  draft_eq : draft path = Path.join dir sibling
  plainName : PlainName name
  plainSibling : PlainName sibling
  ne : name ≠ sibling

theorem join_ofList {before : List Char} (h : before = [] ∨ before.getLast? = some '/')
    (part : List Char) :
    Path.join (String.ofList before) (String.ofList part) = String.ofList (before ++ part) := by
  have hdir : (String.ofList before = "" || endsInSlash (String.ofList before)) = true := by
    rcases h with rfl | h
    · rfl
    · simp [endsInSlash, h]
  rw [Path.join, if_pos hdir, String.ofList_append]

theorem names_join_dot {dir : String} (h : path = Path.join dir ".") :
    ∃ names, ∀ place, (route place path).names = names ++ ["."] := by
  refine ⟨(parts dir).map String.ofList, fun place => ?_⟩
  rw [h, route_join place dir ⟨by decide, by decide⟩]

theorem path_cases (path : String) : path = "" ∨
    (∃ names, ∀ place, (route place path).names = names ++ ["."]) ∨
    (Nameless (lastPart path.toList).2 ∧ ∃ dir, path = Path.join dir "..") ∨
    ∃ dir name sibling, Entry path dir name sibling := by
  by_cases hslash : path.toList.getLast? = some '/'
  · refine .inr (.inl ⟨(parts path).map String.ofList, fun place => ?_⟩)
    have hends : endsInSlash path = true := decide_eq_true hslash
    rw [route, if_pos hends]
  by_cases hdot : ['/', '.'] <:+ path.toList
  · obtain ⟨before, hbefore⟩ := hdot
    have hpath : path = Path.join (String.ofList (before ++ ['/'])) (String.ofList ['.']) := by
      rw [join_ofList (.inr (by simp)), ← String.toList_inj, ← hbefore]
      simp
    exact .inr (.inl (names_join_dot hpath))
  cases hlast : lastPart path.toList with
  | mk before part =>
    obtain ⟨hpath, hpart, hbefore, hnil, hone⟩ := lastPart_spec hslash hdot hlast
    have hjoin : path = Path.join (String.ofList before) (String.ofList part) := by
      rw [join_ofList hbefore, ← String.toList_inj, hpath]
      simp
    by_cases hname : Nameless part
    · rcases hname with rfl | rfl | rfl
      · exact .inl (String.toList_inj.1 ((hnil rfl).trans rfl))
      · exact .inr (.inl (names_join_dot hjoin))
      · exact .inr (.inr (.inl ⟨.inr (.inr rfl), _, hjoin⟩))
    · have hdraft : draft path =
          Path.join (String.ofList before) (String.ofList (draftName part)) := by
        rw [join_ofList hbefore, draft, withExtension, hlast]
        exact (if_neg hname).trans (by rw [draftName, List.append_assoc])
      refine .inr (.inr (.inr ⟨_, _, _, hjoin, hdraft, plainName_ofList hname hpart,
        plainName_draftName hpart, ?_⟩))
      exact fun h => ne_draftName part (String.ofList_injective h)

end Files

end ClusterCerts
