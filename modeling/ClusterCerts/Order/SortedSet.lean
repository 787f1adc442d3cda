/-!
# Sorted sets

A set is the strictly increasing list of its elements, so two sets with the same
elements are equal as values. Inserting keeps the order and ignores an element
that is already there; membership is that of the list.
-/

namespace ClusterCerts

universe u

structure SortedSet (κ : Type u) [Ord κ] where
  toList : List κ
  sorted : toList.Pairwise fun a b => compare a b = .lt

namespace SortedSet

variable {κ : Type u} [Ord κ]

@[ext] theorem ext_toList {s t : SortedSet κ} (h : s.toList = t.toList) : s = t := by
  cases s; cases t; cases h; rfl

instance [DecidableEq κ] : DecidableEq (SortedSet κ) := fun s t =>
  decidable_of_iff (s.toList = t.toList) ⟨ext_toList, fun h => h ▸ rfl⟩

def empty : SortedSet κ := ⟨[], .nil⟩

instance : EmptyCollection (SortedSet κ) := ⟨empty⟩

instance : Membership κ (SortedSet κ) := ⟨fun s x => x ∈ s.toList⟩

theorem mem_def {s : SortedSet κ} {x : κ} : x ∈ s ↔ x ∈ s.toList := Iff.rfl

instance [DecidableEq κ] (x : κ) (s : SortedSet κ) : Decidable (x ∈ s) :=
  inferInstanceAs (Decidable (x ∈ s.toList))

def isEmpty (s : SortedSet κ) : Bool := s.toList.isEmpty

@[simp] theorem toList_empty : (∅ : SortedSet κ).toList = [] := rfl

@[simp] theorem not_mem_empty (x : κ) : x ∉ (∅ : SortedSet κ) := by simp [mem_def]

def place (x : κ) : List κ → List κ
  | [] => [x]
  | y :: ys =>
    match compare x y with
    | .lt => x :: y :: ys
    | .eq => y :: ys
    | .gt => y :: place x ys

theorem eq_or_mem_of_mem_place {x z : κ} {ys : List κ} (h : z ∈ place x ys) : z = x ∨ z ∈ ys := by
  induction ys with
  | nil => simpa [place] using h
  | cons y ys ih =>
    rw [place] at h
    split at h
    · simpa using h
    · exact .inr h
    · rcases List.mem_cons.1 h with rfl | h
      · exact .inr (by simp)
      · exact (ih h).imp id (List.mem_cons_of_mem y)

theorem lt_of_find? {s : SortedSet κ} {p : κ → Bool} {x y : κ} (h : s.toList.find? p = some x)
    (hy : y ∈ s) (hp : p y = true) (hne : y ≠ x) : compare x y = .lt := by
  obtain ⟨-, before, after, hsplit, hbefore⟩ := List.find?_eq_some_iff_append.1 h
  have hsorted := s.sorted
  rw [mem_def, hsplit] at hy
  rw [hsplit] at hsorted
  rcases List.mem_append.1 hy with hy | hy
  · have hnot := hbefore y hy
    simp [hp] at hnot
  · have hx := (List.pairwise_cons.1 (List.pairwise_append.1 hsorted).2.1).1
    exact hx y ((List.mem_cons.1 hy).resolve_left hne)

variable [Std.TransOrd κ]

theorem place_sorted (x : κ) {ys : List κ} (h : ys.Pairwise fun a b => compare a b = .lt) :
    (place x ys).Pairwise fun a b => compare a b = .lt := by
  induction ys with
  | nil => simp [place]
  | cons y ys ih =>
    have ⟨hy, hys⟩ := List.pairwise_cons.1 h
    rw [place]
    split
    · next hlt =>
      refine List.pairwise_cons.2 ⟨fun z hz => ?_, h⟩
      rcases List.mem_cons.1 hz with rfl | hz
      · exact hlt
      · exact Std.TransCmp.lt_trans hlt (hy z hz)
    · exact h
    · next hgt =>
      refine List.pairwise_cons.2 ⟨fun z hz => ?_, ih hys⟩
      rcases eq_or_mem_of_mem_place hz with rfl | hz
      · exact Std.OrientedCmp.gt_iff_lt.1 hgt
      · exact hy z hz

def insert (s : SortedSet κ) (x : κ) : SortedSet κ := ⟨place x s.toList, place_sorted x s.sorted⟩

def insertAll (s : SortedSet κ) (xs : List κ) : SortedSet κ := xs.foldl insert s

def ofList (xs : List κ) : SortedSet κ := insertAll ∅ xs

theorem find?_eq_some_iff {s : SortedSet κ} {p : κ → Bool} {x : κ} :
    s.toList.find? p = some x ↔
      x ∈ s ∧ p x = true ∧ ∀ y ∈ s, p y = true → y ≠ x → compare x y = .lt := by
  constructor
  · intro h
    exact ⟨List.mem_of_find?_eq_some h, List.find?_some h, fun _ => lt_of_find? h⟩
  · rintro ⟨hx, hp, hleast⟩
    cases hfind : s.toList.find? p with
    | none => exact absurd hp (List.find?_eq_none.1 hfind x hx)
    | some z =>
      by_cases hne : z = x
      · rw [hne]
      · have hzx := lt_of_find? hfind hx hp (Ne.symm hne)
        have hxz := hleast z (List.mem_of_find?_eq_some hfind) (List.find?_some hfind) hne
        have hxx := Std.TransCmp.lt_trans hxz hzx
        simp [Std.ReflOrd.compare_self] at hxx

variable [Std.LawfulEqOrd κ]

omit [Std.TransOrd κ] in
theorem mem_place {x z : κ} {ys : List κ} : z ∈ place x ys ↔ z = x ∨ z ∈ ys := by
  refine ⟨eq_or_mem_of_mem_place, fun h => ?_⟩
  induction ys with
  | nil => simpa [place] using h
  | cons y ys ih =>
    rw [place]
    split
    · simpa using h
    · next heq =>
      rcases h with rfl | h
      · simp [Std.LawfulEqCmp.eq_of_compare heq]
      · exact h
    · rcases h with rfl | h
      · exact List.mem_cons_of_mem _ (ih (.inl rfl))
      · rcases List.mem_cons.1 h with rfl | h
        · simp
        · exact List.mem_cons_of_mem _ (ih (.inr h))

@[simp] theorem mem_insert {s : SortedSet κ} {x z : κ} : z ∈ s.insert x ↔ z = x ∨ z ∈ s := mem_place

@[simp] theorem mem_insertAll {s : SortedSet κ} {xs : List κ} {z : κ} :
    z ∈ s.insertAll xs ↔ z ∈ xs ∨ z ∈ s := by
  induction xs generalizing s with
  | nil => simp [insertAll]
  | cons x xs ih =>
    have : s.insertAll (x :: xs) = (s.insert x).insertAll xs := rfl
    simp only [this, ih, mem_insert, List.mem_cons]
    grind

@[simp] theorem mem_ofList {xs : List κ} {z : κ} : z ∈ ofList xs ↔ z ∈ xs := by
  simp [ofList]

theorem ext_mem {s t : SortedSet κ} (h : ∀ x, x ∈ s ↔ x ∈ t) : s = t := by
  obtain ⟨xs, hx⟩ := s
  obtain ⟨ys, hy⟩ := t
  refine ext_toList ?_
  simp only [mem_def] at h ⊢
  induction xs generalizing ys with
  | nil => cases ys with
    | nil => rfl
    | cons y ys => simpa using h y
  | cons x xs ih =>
    cases ys with
    | nil => simpa using h x
    | cons y ys =>
      have ⟨hx, hxs⟩ := List.pairwise_cons.1 hx
      have ⟨hy, hys⟩ := List.pairwise_cons.1 hy
      have irrefl (a : κ) : compare a a ≠ .lt := by simp [Std.ReflOrd.compare_self]
      have asymm {a b : κ} (h₁ : compare a b = .lt) (h₂ : compare b a = .lt) : False :=
        irrefl a (Std.TransCmp.lt_trans h₁ h₂)
      have hxy : x = y := by
        rcases List.mem_cons.1 ((h x).1 (by simp)) with e | hx'
        · exact e
        · rcases List.mem_cons.1 ((h y).2 (by simp)) with e | hy'
          · exact e.symm
          · exact (asymm (hx y hy') (hy x hx')).elim
      subst hxy
      refine congrArg _ (ih hxs ys hys fun z => ⟨fun hz => ?_, fun hz => ?_⟩)
      · rcases List.mem_cons.1 ((h z).1 (by simp [hz])) with rfl | h'
        · exact (irrefl z (hx z hz)).elim
        · exact h'
      · rcases List.mem_cons.1 ((h z).2 (by simp [hz])) with rfl | h'
        · exact (irrefl z (hy z hz)).elim
        · exact h'

theorem ofList_toList (s : SortedSet κ) : ofList s.toList = s := ext_mem fun _ => mem_ofList

end SortedSet
end ClusterCerts
