import ClusterCerts.Proofs.Files.Overwriting

/-!
# Listing and removing files

A path that is looked up as a directory can be listed, and the list has the names of the files in
that directory. Removing one of them takes away this file and nothing else, so removing some of
them one by one leaves all the others as they were.
-/

namespace ClusterCerts.Files

variable {fs fs' fs'' : Files} {S T : Place → Prop} {dir name : String} {entry : EntryName}
  {d p : Place}

def Named (fs : Files) : Prop :=
  ∀ p name, (fs.node? (p ++ [.text name])).isSome = true → FileName name

theorem named_of_keys
    (h : ∀ p ∈ fs.nodes.keys, ∀ name ∈ p.getLast?.bind EntryName.text?, FileName name) :
    fs.Named := by
  intro p name hnode
  rw [node?, if_neg (by simp), Option.isSome_iff_exists, ← SortedMap.mem_keys_iff_exists] at hnode
  exact h _ hnode name (by simp [EntryName.text?])

def HasFile (fs : Files) (p : Place) : Prop :=
  ∃ content isPrivate, fs.node? p = some (.file content isPrivate)

theorem HasFile.isSome (h : fs.HasFile p) : (fs.node? p).isSome = true := by
  obtain ⟨content, isPrivate, hfile⟩ := h
  rw [hfile]
  rfl

theorem HasFile.exists_content (h : fs.HasFile p) : ∃ content, fs.content? p = some content := by
  obtain ⟨content, isPrivate, hfile⟩ := h
  exact ⟨content, content?_of_file hfile⟩

theorem Named.fileName (h : fs.Named) (d : Place) (name : String)
    (hfile : fs.HasFile (d ++ [.text name])) :
    FileName name := h d name hfile.isSome

theorem HasFile.atMostFile (h : fs.HasFile p) : fs.AtMostFile p := by
  obtain ⟨content, isPrivate, hfile⟩ := h
  exact atMostFile_of_file hfile

theorem leads_of_lookup (h : fs.lookup true dir = .ok (d, .directory)) : fs.Leads dir d := by
  obtain ⟨hlocate, hnode⟩ := lookup_eq_ok_iff.1 h
  obtain ⟨hnul, -, hfollow⟩ := locate_eq_ok_iff.1 hlocate
  refine ⟨hnul, ?_, decide_eq_true hnode⟩
  simp only [route] at hfollow
  cases hslash : Path.endsInSlash dir with
  | true =>
    simp only [hslash, if_true] at hfollow
    obtain ⟨used, hused, walk⟩ := walk_of_follow hfollow
    obtain ⟨u, v, d', huv, first, second⟩ := walk.split (.inr rfl)
    obtain ⟨-, rfl⟩ := second.singleton_dot rfl
    exact first.follow (by omega)
  | false =>
    simpa only [hslash, Bool.false_eq_true, if_false, List.append_nil] using hfollow

theorem mem_names : entry ∈ fs.names d ↔ (fs.node? (d ++ [entry])).isSome = true := by
  have hnode : fs.node? (d ++ [entry]) = fs.nodes.get? (d ++ [entry]) := by
    rw [node?, if_neg (by simp)]
  rw [hnode, Option.isSome_iff_exists, ← SortedMap.mem_keys_iff_exists, names, List.mem_filterMap]
  constructor
  · rintro ⟨p, hp, hname⟩
    split at hname
    · next hdir =>
      obtain ⟨before, rfl⟩ := List.getLast?_eq_some_iff.1 hname
      rw [List.dropLast_concat] at hdir
      exact hdir ▸ hp
    · cases hname
  · intro hp
    exact ⟨_, hp, by simp⟩

theorem fileNames_of_lookup (h : fs.lookup true dir = .ok (d, .directory)) :
    ∃ listing, fs.fileNames dir = .ok listing ∧
      ∀ entry, entry ∈ listing ↔ fs.HasFile (d ++ [entry]) := by
  refine ⟨_, by rw [fileNames, h]; rfl, fun entry => ?_⟩
  rw [List.mem_filter, mem_names]
  constructor
  · rintro ⟨-, hfile⟩
    split at hfile
    · next content isPrivate hnode => exact ⟨content, isPrivate, hnode⟩
    · cases hfile
  · intro hfile
    refine ⟨hfile.isSome, ?_⟩
    obtain ⟨content, isPrivate, hnode⟩ := hfile
    rw [hnode]

theorem fileNames_of_not_directory (h : ∀ d, fs.lookup true dir ≠ .ok (d, .directory)) :
    ∃ fault, fs.fileNames dir = .error fault := by
  rw [fileNames]
  cases hlookup : fs.lookup true dir with
  | error fault => exact ⟨fault, rfl⟩
  | ok found =>
    obtain ⟨p, node⟩ := found
    cases node with
    | directory => exact absurd hlookup (h p)
    | file content isPrivate => exact ⟨.notDirectory, rfl⟩
    | link target => exact ⟨.notDirectory, rfl⟩

structure Clears (S : Place → Prop) (fs fs' : Files) : Prop extends AgreesOutside S fs fs' where
  gone : ∀ p, S p → fs'.node? p = none

theorem Clears.refl (hS : ∀ p, ¬S p) (fs : Files) : Clears S fs fs :=
  ⟨.refl S fs, fun p hp => absurd hp (hS p)⟩

theorem Clears.trans (h : Clears S fs fs') (h' : Clears T fs' fs'') :
    Clears (fun p => S p ∨ T p) fs fs'' where
  home := h'.home.trans h.home
  same p hp := by
    rw [not_or] at hp
    rw [h'.same p hp.2, h.same p hp.1]
  gone p hp := by
    by_cases hT : T p
    · exact h'.gone p hT
    · rw [h'.same p hT, h.gone p (hp.resolve_right hT)]

theorem Clears.congr (h : Clears S fs fs') (hST : ∀ p, S p ↔ T p) : Clears T fs fs' where
  toAgreesOutside := h.mono fun p hp => (hST p).1 hp
  gone p hp := h.gone p ((hST p).2 hp)

theorem Clears.isSome (h : Clears S fs fs') (hp : (fs'.node? p).isSome = true) :
    ¬S p ∧ fs'.node? p = fs.node? p := by
  have hS : ¬S p := by
    intro hS
    simp [h.gone p hS] at hp
  exact ⟨hS, h.same p hS⟩

theorem Clears.hasFile_iff (h : Clears S fs fs') : fs'.HasFile p ↔ fs.HasFile p ∧ ¬S p := by
  constructor
  · intro hfile
    obtain ⟨hS, hsame⟩ := h.isSome hfile.isSome
    obtain ⟨content, isPrivate, hnode⟩ := hfile
    exact ⟨⟨content, isPrivate, hsame ▸ hnode⟩, hS⟩
  · rintro ⟨⟨content, isPrivate, hnode⟩, hS⟩
    exact ⟨content, isPrivate, (h.same p hS).trans hnode⟩

theorem Clears.named (h : Clears S fs fs') (hnamed : fs.Named) : fs'.Named := by
  intro p name hp
  obtain ⟨-, hsame⟩ := h.isSome hp
  exact hnamed p name (hsame ▸ hp)

theorem clears_without (hp : p ≠ []) : Clears (· = p) fs (fs.without p) where
  toAgreesOutside := agrees_without hp
  gone q hq := (node?_without hp q).trans (if_pos hq)

theorem Leads.remove (hd : fs.Leads dir d) (hname : FileName name)
    (h : fs.HasFile (d ++ [.text name])) :
    fs.remove (Path.join dir name) = .ok (fs.without (d ++ [.text name])) := by
  obtain ⟨content, isPrivate, hnode⟩ := h
  rw [Files.remove, hd.lookup_file hname hnode]
  rfl

theorem Leads.read_content {content : Bytes} (hd : fs.Leads dir d) (hname : FileName name)
    (h : fs.content? (d ++ [.text name]) = some content) :
    fs.read (Path.join dir name) = .ok content := by
  rw [content?] at h
  split at h
  · next isPrivate hnode =>
    cases h
    exact read_eq_ok_iff.2 ⟨_, isPrivate, hd.lookup_file hname hnode⟩
  · cases h

theorem Clears.lookup_directory (h : Clears S fs fs') (hS : ∀ q, S q → fs.AtMostFile q)
    (hd : fs.lookup true dir = .ok (d, .directory)) :
    fs'.lookup true dir = .ok (d, .directory) := by
  obtain ⟨hlocate, hnode⟩ := lookup_eq_ok_iff.1 hd
  have hSd : ¬S d := by
    intro hSd
    obtain ⟨content, isPrivate, hfile⟩ := hS d hSd _ hnode
    cases hfile
  exact lookup_eq_ok_iff.2
    ⟨h.locate hS (fun h => absurd h hSd) hlocate, (h.same d hSd).trans hnode⟩

end ClusterCerts.Files
