/-!
# Sorted maps

A map is the list of its entries with strictly increasing keys, so maps that
answer every look-up alike are equal as values. Inserting replaces the value
of a key that is already there.
-/

namespace ClusterCerts

universe u v w

structure SortedMap (κ : Type u) (β : Type v) [Ord κ] where
  entries : List (κ × β)
  sorted : entries.Pairwise fun a b => compare a.1 b.1 = .lt

namespace SortedMap

variable {κ : Type u} {β : Type v} {γ : Type w} [Ord κ]

@[ext] theorem ext_entries {m n : SortedMap κ β} (h : m.entries = n.entries) : m = n := by
  cases m; cases n; cases h; rfl

instance [DecidableEq κ] [DecidableEq β] : DecidableEq (SortedMap κ β) := fun m n =>
  decidable_of_iff (m.entries = n.entries) ⟨ext_entries, fun h => h ▸ rfl⟩

def empty : SortedMap κ β := ⟨[], .nil⟩

instance : EmptyCollection (SortedMap κ β) := ⟨empty⟩

def keys (m : SortedMap κ β) : List κ := m.entries.map (·.1)

def values (m : SortedMap κ β) : List β := m.entries.map (·.2)

def size (m : SortedMap κ β) : Nat := m.entries.length

def isEmpty (m : SortedMap κ β) : Bool := m.entries.isEmpty

def find? (k : κ) : List (κ × β) → Option β
  | [] => none
  | e :: es => if compare k e.1 = .eq then some e.2 else find? k es

def get? (m : SortedMap κ β) (k : κ) : Option β := find? k m.entries

def contains (m : SortedMap κ β) (k : κ) : Bool := (m.get? k).isSome

def filter (p : κ → β → Bool) (m : SortedMap κ β) : SortedMap κ β :=
  ⟨m.entries.filter fun e => p e.1 e.2, m.sorted.filter _⟩

def place (k : κ) (v : β) : List (κ × β) → List (κ × β)
  | [] => [(k, v)]
  | e :: es =>
    match compare k e.1 with
    | .lt => (k, v) :: e :: es
    | .eq => (k, v) :: es
    | .gt => e :: place k v es

theorem mem_of_mem_place {k : κ} {v : β} {z : κ × β} {es : List (κ × β)}
    (h : z ∈ place k v es) : z = (k, v) ∨ z ∈ es := by
  induction es with
  | nil => simpa [place] using h
  | cons e es ih =>
    rw [place] at h
    split at h
    · simpa using h
    · exact (List.mem_cons.1 h).imp id (List.mem_cons_of_mem e)
    · rcases List.mem_cons.1 h with rfl | h
      · exact .inr (by simp)
      · exact (ih h).imp id (List.mem_cons_of_mem e)

@[simp] theorem keys_empty : (∅ : SortedMap κ β).keys = [] := rfl

@[simp] theorem get?_empty (k : κ) : (∅ : SortedMap κ β).get? k = none := rfl

variable [Std.TransOrd κ]

theorem place_sorted (k : κ) (v : β) {es : List (κ × β)}
    (h : es.Pairwise fun a b => compare a.1 b.1 = .lt) :
    (place k v es).Pairwise fun a b => compare a.1 b.1 = .lt := by
  induction es with
  | nil => simp [place]
  | cons e es ih =>
    have ⟨he, hes⟩ := List.pairwise_cons.1 h
    rw [place]
    split
    · next hlt =>
      refine List.pairwise_cons.2 ⟨fun z hz => ?_, h⟩
      rcases List.mem_cons.1 hz with rfl | hz
      · exact hlt
      · exact Std.TransCmp.lt_trans hlt (he z hz)
    · next heq =>
      exact List.pairwise_cons.2
        ⟨fun z hz => by rw [Std.TransCmp.congr_left heq]; exact he z hz, hes⟩
    · next hgt =>
      refine List.pairwise_cons.2 ⟨fun z hz => ?_, ih hes⟩
      rcases mem_of_mem_place hz with rfl | hz
      · exact Std.OrientedCmp.gt_iff_lt.1 hgt
      · exact he z hz

def insert (m : SortedMap κ β) (k : κ) (v : β) : SortedMap κ β :=
  ⟨place k v m.entries, place_sorted k v m.sorted⟩

/-- Inserts every entry of a list; of entries with one key the last stays. -/
def insertAll (m : SortedMap κ β) (es : List (κ × β)) : SortedMap κ β :=
  es.foldl (fun m e => m.insert e.1 e.2) m

def ofList (es : List (κ × β)) : SortedMap κ β := insertAll ∅ es

def erase (m : SortedMap κ β) (k : κ) : SortedMap κ β := m.filter fun k' _ => compare k k' != .eq

variable [Std.LawfulEqOrd κ]

omit [Std.TransOrd κ] in
theorem find?_place [DecidableEq κ] (k k' : κ) (v : β) (es : List (κ × β)) :
    find? k' (place k v es) = if k' = k then some v else find? k' es := by
  induction es with
  | nil => simp [place, find?, Std.LawfulEqCmp.compare_eq_iff_eq]
  | cons e es ih =>
    rw [place]
    split
    · simp [find?, Std.LawfulEqCmp.compare_eq_iff_eq]
    · next heq =>
      obtain rfl := Std.LawfulEqCmp.eq_of_compare heq
      by_cases h : k' = e.1 <;> simp [find?, Std.LawfulEqCmp.compare_eq_iff_eq, h]
    · next hgt =>
      have hne : k ≠ e.1 := fun h => by simp [h] at hgt
      rw [find?, ih]
      by_cases h : k' = k
      · subst h; simp [Std.LawfulEqCmp.compare_eq_iff_eq, hne]
      · simp [find?, h]

theorem get?_insert [DecidableEq κ] (m : SortedMap κ β) (k k' : κ) (v : β) :
    (m.insert k v).get? k' = if k' = k then some v else m.get? k' :=
  find?_place k k' v m.entries

@[simp] theorem get?_insert_self (m : SortedMap κ β) (k : κ) (v : β) :
    (m.insert k v).get? k = some v := by
  classical simp [get?_insert]

omit [Std.TransOrd κ] in
theorem find?_eq_some_iff {k : κ} {v : β} {es : List (κ × β)}
    (h : es.Pairwise fun a b => compare a.1 b.1 = .lt) : find? k es = some v ↔ (k, v) ∈ es := by
  have irrefl (a : κ) : compare a a ≠ .lt := by simp [Std.ReflOrd.compare_self]
  induction es with
  | nil => simp [find?]
  | cons e es ih =>
    have ⟨he, hes⟩ := List.pairwise_cons.1 h
    rw [find?]
    split
    · next heq =>
      obtain rfl := Std.LawfulEqCmp.eq_of_compare heq
      refine ⟨fun hv => by simp at hv; simp [← hv], fun hm => ?_⟩
      rcases List.mem_cons.1 hm with hm | hm
      · exact congrArg some (congrArg Prod.snd hm).symm
      · exact (irrefl e.1 (he (e.1, v) hm)).elim
    · next hne =>
      refine (ih hes).trans ?_
      refine ⟨List.mem_cons_of_mem _, fun hm => ?_⟩
      rcases List.mem_cons.1 hm with rfl | hm
      · exact (hne Std.ReflOrd.compare_self).elim
      · exact hm

omit [Std.TransOrd κ] in
theorem get?_eq_some_iff {m : SortedMap κ β} {k : κ} {v : β} :
    m.get? k = some v ↔ (k, v) ∈ m.entries := find?_eq_some_iff m.sorted

omit [Std.TransOrd κ] in
theorem mem_keys_iff {m : SortedMap κ β} {k : κ} : k ∈ m.keys ↔ m.contains k := by
  simp only [keys, List.mem_map, contains, Option.isSome_iff_exists, get?_eq_some_iff]
  exact ⟨fun ⟨⟨_, v⟩, h, e⟩ => ⟨v, e ▸ h⟩, fun ⟨v, h⟩ => ⟨(k, v), h, rfl⟩⟩

omit [Std.TransOrd κ] in
theorem nodup_keys (m : SortedMap κ β) : m.keys.Nodup := by
  rw [keys, List.Nodup, List.pairwise_map]
  refine m.sorted.imp fun {a b} hlt heq => ?_
  rw [heq, Std.ReflOrd.compare_self] at hlt
  cases hlt

omit [Std.TransOrd κ] in
theorem mem_keys_iff_exists {m : SortedMap κ β} {k : κ} : k ∈ m.keys ↔ ∃ v, m.get? k = some v := by
  rw [mem_keys_iff, contains, Option.isSome_iff_exists]

omit [Std.TransOrd κ] in
theorem get?_eq_none_iff {m : SortedMap κ β} {k : κ} : m.get? k = none ↔ k ∉ m.keys := by
  simp [mem_keys_iff, contains]

theorem mem_keys_insert {m : SortedMap κ β} {k k' : κ} {v : β} :
    k' ∈ (m.insert k v).keys ↔ k' = k ∨ k' ∈ m.keys := by
  classical
  rw [mem_keys_iff, mem_keys_iff, contains, contains, get?_insert]
  split
  · next h => simp [h]
  · next h => simp [h]

theorem mem_keys_insertAll {m : SortedMap κ β} {k : κ} {es : List (κ × β)} :
    k ∈ (m.insertAll es).keys ↔ k ∈ es.map (·.1) ∨ k ∈ m.keys := by
  induction es generalizing m with
  | nil => simp [insertAll]
  | cons e es ih =>
    refine (ih (m := m.insert e.1 e.2)).trans ?_
    rw [mem_keys_insert, List.map_cons, List.mem_cons]
    grind

theorem mem_keys_ofList {k : κ} {es : List (κ × β)} :
    k ∈ (ofList es).keys ↔ k ∈ es.map (·.1) := by
  rw [ofList, mem_keys_insertAll, keys_empty]
  simp

theorem mem_or_of_get?_insertAll {m : SortedMap κ β} {k : κ} {v : β} {es : List (κ × β)}
    (h : (m.insertAll es).get? k = some v) : (k, v) ∈ es ∨ m.get? k = some v := by
  classical
  induction es generalizing m with
  | nil => exact .inr h
  | cons e es ih =>
    rcases ih (m := m.insert e.1 e.2) h with hes | hm
    · exact .inl (List.mem_cons_of_mem e hes)
    · rw [get?_insert] at hm
      split at hm
      · next hk => cases hm; exact .inl (by simp [hk])
      · exact .inr hm

theorem get?_ofList_iff_of_unique {k : κ} {v : β} {es : List (κ × β)}
    (hes : ∀ v v', (k, v) ∈ es → (k, v') ∈ es → v = v') :
    (ofList es).get? k = some v ↔ (k, v) ∈ es := by
  have hmem {v : β} (h : (ofList es).get? k = some v) : (k, v) ∈ es :=
    (mem_or_of_get?_insertAll h).elim id fun h => by cases h
  refine ⟨hmem, fun h => ?_⟩
  have hk : k ∈ (ofList es).keys := mem_keys_ofList.2 (List.mem_map.2 ⟨(k, v), h, rfl⟩)
  obtain ⟨v', hv'⟩ := Option.isSome_iff_exists.1 (mem_keys_iff.1 hk)
  rw [hv', hes v' v (hmem hv') h]

theorem get?_ofList_eq_some_iff {k : κ} {v : β} {es : List (κ × β)} (hes : (es.map (·.1)).Nodup) :
    (ofList es).get? k = some v ↔ (k, v) ∈ es := by
  refine get?_ofList_iff_of_unique fun v v' h h' => ?_
  induction es with
  | nil => cases h
  | cons e es ih =>
    have ⟨he, hes⟩ := List.nodup_cons.1 hes
    have hne {w : β} (hw : (e.1, w) ∈ es) : False := he (List.mem_map.2 ⟨(e.1, w), hw, rfl⟩)
    rcases List.mem_cons.1 h with rfl | hv
    · rcases List.mem_cons.1 h' with he' | hv'
      · exact (congrArg Prod.snd he').symm
      · exact (hne hv').elim
    · rcases List.mem_cons.1 h' with rfl | hv'
      · exact (hne hv).elim
      · exact ih hes hv hv'

omit [Std.TransOrd κ] in
theorem get?_filter (p : κ → β → Bool) (m : SortedMap κ β) (k : κ) :
    (m.filter p).get? k = (m.get? k).filter (p k) := by
  have hentries : (m.filter p).entries = m.entries.filter fun e => p e.1 e.2 := rfl
  apply Option.ext
  intro v
  rw [get?_eq_some_iff, hentries, List.mem_filter, ← get?_eq_some_iff, Option.filter_eq_some_iff]

omit [Std.TransOrd κ] in
theorem get?_erase [DecidableEq κ] (m : SortedMap κ β) (k k' : κ) :
    (m.erase k).get? k' = if k' = k then none else m.get? k' := by
  rw [erase, get?_filter]
  split
  · next h => simp [h, Std.ReflOrd.compare_self]
  · next h =>
    have hne : (compare k k' != .eq) = true := by
      simp [Std.LawfulEqCmp.compare_eq_iff_eq, Ne.symm h]
    cases m.get? k' <;> simp [hne]

theorem ext_get? {m n : SortedMap κ β} (h : ∀ k, m.get? k = n.get? k) : m = n := by
  have hmem (e : κ × β) : e ∈ m.entries ↔ e ∈ n.entries := by
    rw [← get?_eq_some_iff (m := m) (k := e.1), h, get?_eq_some_iff]
  obtain ⟨xs, hx⟩ := m
  obtain ⟨ys, hy⟩ := n
  refine ext_entries ?_
  simp only at hmem ⊢
  clear h
  have irrefl (a : κ) : compare a a ≠ .lt := by simp [Std.ReflOrd.compare_self]
  induction xs generalizing ys with
  | nil => cases ys with
    | nil => rfl
    | cons y ys => simpa using hmem y
  | cons x xs ih =>
    cases ys with
    | nil => simpa using hmem x
    | cons y ys =>
      have ⟨hx, hxs⟩ := List.pairwise_cons.1 hx
      have ⟨hy, hys⟩ := List.pairwise_cons.1 hy
      have hxy : x = y := by
        rcases List.mem_cons.1 ((hmem x).1 (by simp)) with e | hx'
        · exact e
        · rcases List.mem_cons.1 ((hmem y).2 (by simp)) with e | hy'
          · exact e.symm
          · exact (irrefl _ (Std.TransCmp.lt_trans (hx y hy') (hy x hx'))).elim
      subst hxy
      refine congrArg _ (ih hxs ys hys fun z => ⟨fun hz => ?_, fun hz => ?_⟩)
      · rcases List.mem_cons.1 ((hmem z).1 (by simp [hz])) with rfl | h'
        · exact (irrefl _ (hx z hz)).elim
        · exact h'
      · rcases List.mem_cons.1 ((hmem z).2 (by simp [hz])) with rfl | h'
        · exact (irrefl _ (hy z hz)).elim
        · exact h'

theorem ofList_entries (m : SortedMap κ β) : ofList m.entries = m := by
  refine ext_get? fun k => Option.ext fun v => ?_
  rw [get?_ofList_iff_of_unique, get?_eq_some_iff]
  intro v v' h h'
  exact Option.some.inj ((get?_eq_some_iff.2 h).symm.trans (get?_eq_some_iff.2 h'))

end SortedMap
end ClusterCerts
