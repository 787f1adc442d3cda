/-!
# Fields

A text cut at every occurrence of a separator. Joining the fields gives the text back.
-/

namespace ClusterCerts.Text

/-- The fields between separators; there is one more field than there are separators. -/
def fields {α : Type} [DecidableEq α] (sep : α) : List α → List (List α)
  | [] => [[]]
  | c :: cs =>
    if c = sep then [] :: fields sep cs
    else match fields sep cs with
      | [] => [[c]]
      | f :: fs => (c :: f) :: fs

theorem fields_ne_nil {α : Type} [DecidableEq α] (sep : α) (cs : List α) : fields sep cs ≠ [] := by
  cases cs with
  | nil => simp [fields]
  | cons c cs =>
    rw [fields]
    split
    · simp
    · split <;> simp

theorem fields_append_sep {α : Type} [DecidableEq α] (sep : α) (cs ds : List α) :
    fields sep (cs ++ sep :: ds) = fields sep cs ++ fields sep ds := by
  induction cs with
  | nil => simp [fields]
  | cons c cs ih =>
    rw [List.cons_append, fields, fields, ih]
    split
    · rfl
    · cases hcs : fields sep cs with
      | nil => exact absurd hcs (fields_ne_nil sep cs)
      | cons f fs => rfl

theorem fields_of_not_mem {α : Type} [DecidableEq α] {sep : α} {cs : List α} (h : sep ∉ cs) :
    fields sep cs = [cs] := by
  induction cs with
  | nil => rfl
  | cons c cs ih =>
    have hc : c ≠ sep := fun hc => h (by simp [hc])
    rw [fields, if_neg hc, ih fun hsep => h (List.mem_cons_of_mem _ hsep)]

theorem fields_append_cons {α : Type} [DecidableEq α] {sep : α} {field : List α}
    (h : sep ∉ field) (rest : List α) :
    fields sep (field ++ sep :: rest) = field :: fields sep rest := by
  rw [fields_append_sep, fields_of_not_mem h]
  rfl

theorem fields_intercalate {α : Type} [DecidableEq α] {sep : α} {xs : List (List α)} (hne : xs ≠ [])
    (h : ∀ x ∈ xs, sep ∉ x) : fields sep ([sep].intercalate xs) = xs := by
  induction xs with
  | nil => exact absurd rfl hne
  | cons x xs ih =>
    have hx : sep ∉ x := h x List.mem_cons_self
    cases xs with
    | nil => rw [List.intercalate_singleton, fields_of_not_mem hx]
    | cons y ys =>
      rw [List.intercalate_cons_cons, List.append_assoc, List.singleton_append,
        fields_append_cons hx, ih (List.cons_ne_nil y ys)
          fun z hz => h z (List.mem_cons_of_mem x hz)]

theorem intercalate_fields {α : Type} [DecidableEq α] (sep : α) (cs : List α) :
    [sep].intercalate (fields sep cs) = cs := by
  induction cs with
  | nil => simp [fields]
  | cons c cs ih =>
    rw [fields]
    cases hcs : fields sep cs with
    | nil => exact absurd hcs (fields_ne_nil sep cs)
    | cons field rest =>
      rw [hcs] at ih
      split
      · next hc => rw [List.intercalate_cons_cons, ih, hc, List.nil_append, List.singleton_append]
      · cases rest with
        | nil => simpa using ih
        | cons next rest => simpa [List.intercalate_cons_cons] using ih

theorem intercalate_append_singleton {α : Type} (sep : α) {xs : List (List α)} (h : xs ≠ [])
    (last : List α) :
    [sep].intercalate (xs ++ [last]) = [sep].intercalate xs ++ sep :: last := by
  induction xs with
  | nil => exact absurd rfl h
  | cons x xs ih =>
    cases xs with
    | nil => simp [List.intercalate_cons_cons]
    | cons y ys =>
      have hys := ih (List.cons_ne_nil y ys)
      simp only [List.cons_append, List.intercalate_cons_cons, List.append_assoc] at hys ⊢
      rw [hys]

theorem exists_mem_fields {α : Type} [DecidableEq α] {sep c : α} {cs : List α} (hc : c ∈ cs) :
    c = sep ∨ ∃ field ∈ fields sep cs, c ∈ field := by
  induction cs with
  | nil => cases hc
  | cons d ds ih =>
    rw [fields]
    split
    · next hsep =>
      rcases List.mem_cons.1 hc with rfl | hc
      · exact .inl hsep
      · exact (ih hc).imp_right fun ⟨field, hfield, hmem⟩ =>
          ⟨field, List.mem_cons_of_mem _ hfield, hmem⟩
    · cases hds : fields sep ds with
      | nil => exact absurd hds (fields_ne_nil sep ds)
      | cons field rest =>
        rcases List.mem_cons.1 hc with rfl | hc
        · exact .inr ⟨_, List.mem_cons_self, List.mem_cons_self⟩
        · refine (ih hc).imp_right fun ⟨g, hg, hmem⟩ => ?_
          rw [hds] at hg
          rcases List.mem_cons.1 hg with rfl | hg
          · exact ⟨_, List.mem_cons_self, List.mem_cons_of_mem d hmem⟩
          · exact ⟨g, List.mem_cons_of_mem _ hg, hmem⟩

def splitLast? {α : Type} [DecidableEq α] (sep : α) : List α → Option (List α × List α)
  | [] => none
  | c :: cs =>
    match splitLast? sep cs with
    | some (before, after) => some (c :: before, after)
    | none => if c = sep then some ([], cs) else none

theorem eq_of_splitLast? {α : Type} [DecidableEq α] {sep : α} {cs before after : List α}
    (h : splitLast? sep cs = some (before, after)) : cs = before ++ sep :: after := by
  induction cs generalizing before with
  | nil => cases h
  | cons c cs ih =>
    rw [splitLast?] at h
    split at h
    · next b a hcs => cases h; simp [ih hcs]
    · split at h
      · next hc => cases h; simp [hc]
      · cases h

theorem splitLast?_eq_none_iff {α : Type} [DecidableEq α] {sep : α} {cs : List α} :
    splitLast? sep cs = none ↔ sep ∉ cs := by
  induction cs with
  | nil => simp [splitLast?]
  | cons c cs ih =>
    rw [splitLast?]
    split
    · next hcs => simp [eq_of_splitLast? hcs]
    · next hcs =>
      by_cases hc : c = sep
      · simp [hc]
      · simpa [ih.1 hcs, hc] using Ne.symm hc

theorem not_mem_of_splitLast? {α : Type} [DecidableEq α] {sep : α} {cs before after : List α}
    (h : splitLast? sep cs = some (before, after)) : sep ∉ after := by
  induction cs generalizing before with
  | nil => cases h
  | cons c cs ih =>
    rw [splitLast?] at h
    split at h
    · next b a hcs => cases h; exact ih hcs
    · next hcs =>
      split at h
      · cases h; exact splitLast?_eq_none_iff.1 hcs
      · cases h

theorem splitLast?_append {α : Type} [DecidableEq α] {sep : α} (before : List α) {after : List α}
    (h : sep ∉ after) : splitLast? sep (before ++ sep :: after) = some (before, after) := by
  induction before with
  | nil => simp [splitLast?, splitLast?_eq_none_iff.2 h]
  | cons c before ih => simp [splitLast?, ih]

end ClusterCerts.Text
