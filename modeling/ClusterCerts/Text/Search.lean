/-!
# Search

The first place in a list where another list starts.
-/

namespace ClusterCerts.Text

def around? {α : Type} [DecidableEq α] (pattern : List α) : List α → Option (List α × List α)
  | [] => if pattern = [] then some ([], []) else none
  | c :: cs =>
    if pattern.isPrefixOf (c :: cs) then some ([], (c :: cs).drop pattern.length)
    else (around? pattern cs).map fun p => (c :: p.1, p.2)

theorem eq_of_around? {α : Type} [DecidableEq α] {pattern cs before after : List α}
    (h : around? pattern cs = some (before, after)) : cs = before ++ pattern ++ after := by
  induction cs generalizing before with
  | nil =>
    rw [around?] at h
    split at h
    · next hp => cases h; simp [hp]
    · cases h
  | cons c cs ih =>
    rw [around?] at h
    split at h
    · next hp =>
      cases h
      obtain ⟨t, ht⟩ := List.isPrefixOf_iff_prefix.1 hp
      simp [← ht]
    · obtain ⟨⟨b, a⟩, hb, he⟩ := Option.map_eq_some_iff.1 h
      cases he
      simp [ih hb]

theorem isSome_around? {α : Type} [DecidableEq α] {pattern : List α} (before after : List α) :
    (around? pattern (before ++ pattern ++ after)).isSome = true := by
  induction before with
  | nil =>
    cases hcs : pattern ++ after with
    | nil => simp_all [around?]
    | cons c cs =>
      have hprefix : pattern.isPrefixOf (c :: cs) = true :=
        List.isPrefixOf_iff_prefix.2 ⟨after, hcs⟩
      rw [List.nil_append, hcs, around?, if_pos hprefix]
      rfl
  | cons c before ih =>
    rw [List.cons_append, List.cons_append, around?]
    split
    · rfl
    · rw [Option.isSome_map]
      exact ih

theorem around?_append {α : Type} [DecidableEq α] {c : α} {pattern before : List α}
    (hpattern : pattern.head? = some c) (h : c ∉ before) (after : List α) :
    around? pattern (before ++ pattern ++ after) = some (before, after) := by
  obtain ⟨pattern, rfl⟩ := List.head?_eq_some_iff.1 hpattern
  induction before with
  | nil =>
    have hprefix : (c :: pattern).isPrefixOf (c :: (pattern ++ after)) = true :=
      List.isPrefixOf_iff_prefix.2 ⟨after, rfl⟩
    rw [List.nil_append, List.cons_append, around?, if_pos hprefix]
    simp
  | cons d before ih =>
    have hd : ¬ (c :: pattern).isPrefixOf (d :: (before ++ (c :: pattern) ++ after)) = true := by
      rw [List.isPrefixOf_iff_prefix, List.cons_prefix_cons]
      rintro ⟨rfl, -⟩
      exact h List.mem_cons_self
    rw [List.cons_append, List.cons_append, around?, if_neg hd,
      ih fun hc => h (List.mem_cons_of_mem d hc)]
    rfl

theorem around?_eq_none {α : Type} [DecidableEq α] {c : α} {pattern cs : List α}
    (hpattern : c ∈ pattern) (h : c ∉ cs) : around? pattern cs = none := by
  cases hfound : around? pattern cs with
  | none => rfl
  | some parts =>
    have hcs := eq_of_around? hfound
    exact absurd (by rw [hcs]; simp [hpattern]) h

end ClusterCerts.Text
