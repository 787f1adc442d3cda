import ClusterCerts.Proofs.Files.Entries

/-!
# Directories that are made

The path for which a directory was made leads to a directory. Where it led to one before, nothing is
made; where its last name was missing in a directory, that name is the one new entry.
-/

namespace ClusterCerts.Files

variable {fs fs' made : Files} {dir name : String} {d p : Place}

theorem AddsDirectories.node?_of_some {node : FileNode} (h : fs.AddsDirectories fs')
    (hp : fs.node? p = some node) : fs'.node? p = some node := by
  rcases h p with hsame | ⟨hnone, -⟩
  · exact hsame.trans hp
  · rw [hp] at hnone
    cases hnone

theorem AddsDirectories.isDirectory (h : fs.AddsDirectories fs') (hp : fs.isDirectory p = true) :
    fs'.isDirectory p = true :=
  decide_eq_true (h.node?_of_some (of_decide_eq_true hp))

theorem AddsDirectories.walk (h : fs.AddsDirectories fs') {last : Bool} {used : Nat} {place : Place}
    {names : List String} (walk : Walk fs last used place names p)
    (hp : fs'.isDirectory p = true) : Walk fs' true used place names p := by
  induction walk with
  | here place => exact .here place
  | dot hplace _ ih => exact .dot (h.isDirectory hplace) (ih hp)
  | dots hplace _ ih => exact .dots (h.isDirectory hplace) (ih hp)
  | stop hplace hname hnode =>
    exact .into (h.isDirectory hplace) hname (of_decide_eq_true hp) (by simp) (.here _)
  | into hplace hname hnode hlink _ ih =>
    exact .into (h.isDirectory hplace) hname (h.node?_of_some hnode) hlink (ih hp)
  | link hplace hname hnode hmore _ ih =>
    exact .link (h.isDirectory hplace) hname (h.node?_of_some hnode) (fun _ => rfl) (ih hp)

theorem isDirectory_put (h : fs.node? p = none) : (fs.put p .directory).isDirectory p = true := by
  rw [isDirectory, node?_put fs (atMostFile_of_none h).ne_nil, if_pos rfl]
  rfl

theorem home_makeDirectories (h : fs.makeDirectories dir = .ok made) : made.home = fs.home := by
  simp only [makeDirectories, bind, Except.bind] at h
  split at h
  · cases h
  · exact rel_of_makeDirectoriesAt (R := fun fs made => made.home = fs.home) (fun _ => rfl)
      (fun h h' => h'.trans h) (fun _ => rfl) h

theorem follow_of_makeDirectoryAt {start : Place} {names : List String}
    (h : fs.makeDirectoryAt names start = .ok made) :
    ∃ d, made.follow true maxLinks start names = .ok d ∧ made.isDirectory d = true := by
  obtain ⟨d, hfollow, hnone, rfl⟩ := makeDirectoryAt_ok h
  obtain ⟨used, hused, walk⟩ := walk_of_follow hfollow
  have hd := isDirectory_put hnone
  exact ⟨d, ((addsDirectories_put hnone).walk walk hd).follow hused, hd⟩

theorem follow_of_makeDirectoriesAt {start : Place} {names : List String}
    (h : fs.makeDirectoriesAt start names = .ok made) : (names = [] ∧ made = fs) ∨
      ∃ d, made.follow true maxLinks start names = .ok d ∧ made.isDirectory d = true := by
  have there {fs : Files} (h : fs.makeDirectoryAt names start = .ok made ∨ fs = made ∧
      ∃ d, made.follow true maxLinks start names = .ok d ∧ made.isDirectory d = true) :
      ∃ d, made.follow true maxLinks start names = .ok d ∧ made.isDirectory d = true := by
    rcases h with hmade | ⟨-, hthere⟩
    · exact follow_of_makeDirectoryAt hmade
    · exact hthere
  rw [makeDirectoriesAt] at h
  split at h
  · next hnames => exact .inl ⟨hnames, (Except.ok.inj h).symm⟩
  · right
    simp only at h
    split at h
    · split at h
      · exact there (eq_of_orThere h)
      · cases h
    · exact there (eq_of_orThere h)

theorem leads_or_eq_of_makeDirectories (h : fs.makeDirectories dir = .ok made) :
    (∃ d, made.Leads dir d) ∨ made = fs := by
  have hhome := home_makeDirectories h
  by_cases hnul : '\x00' ∈ dir.toList
  · rw [makeDirectories, if_pos (List.contains_iff_mem.2 hnul)] at h
    cases h
  · rw [makeDirectories_eq hnul] at h
    rcases follow_of_makeDirectoriesAt h with ⟨-, hsame⟩ | ⟨d, hfollow, hdir⟩
    · exact .inr hsame
    · rw [← hhome] at hfollow
      exact .inl ⟨d, hnul, hfollow, hdir⟩

theorem Leads.makeDirectories_entry (hd : fs.Leads dir d) (hname : FileName name)
    (hnone : fs.node? (d ++ [.text name]) = none) :
    fs.makeDirectories (Path.join dir name) = .ok (fs.put (d ++ [.text name]) .directory) ∧
      (fs.put (d ++ [.text name]) .directory).Leads (Path.join dir name) (d ++ [.text name]) := by
  have hnul : '\x00' ∉ (Path.join dir name).toList := by
    rw [nul_mem_join, not_or]
    exact ⟨hd.no_nul, hname.no_nul⟩
  have hplace : fs.follow false maxLinks (if Path.isAbsolute dir then [] else fs.home)
      ((Path.parts dir).map String.ofList ++ [name]) = .ok (d ++ [.text name]) :=
    follow_append hd.follow hd.directory hname.sought fun hlast => Bool.noConfusion hlast
  have hmade : fs.makeDirectoryAt ((Path.parts dir).map String.ofList ++ [name])
      (if Path.isAbsolute dir then [] else fs.home) =
        .ok (fs.put (d ++ [.text name]) .directory) := by
    rw [makeDirectoryAt, hplace]
    simp only [bind, Except.bind, hnone]
    rfl
  have hagrees : AgreesOutside (· = d ++ [.text name]) fs (fs.put (d ++ [.text name]) .directory) :=
    ⟨rfl, fun q hq => by rw [node?_put fs (by simp), if_neg hq]⟩
  refine ⟨?_, ?_⟩
  · rw [makeDirectories_eq hnul, isAbsolute_join dir hname.toPathPart,
      parts_join dir hname.toPathPart, List.map_append, List.map_singleton, String.ofList_toList,
      makeDirectoriesAt, dif_neg (by simp)]
    simp only [hmade]
  · have hstill := hd.of_agrees hagrees fun q hq => hq ▸ atMostFile_of_none hnone
    exact hstill.entry hname (isDirectory_put hnone)

theorem Leads.lookup (hd : fs.Leads dir d) (hdir : dir ≠ "") :
    fs.lookup true dir = .ok (d, .directory) := by
  refine lookup_eq_ok_iff.2 ⟨locate_eq_ok_iff.2 ⟨hd.no_nul, hdir, ?_⟩,
    of_decide_eq_true hd.directory⟩
  obtain ⟨used, hused, walk⟩ := walk_of_follow hd.follow
  cases hslash : Path.endsInSlash dir with
  | true =>
    simp only [route, hslash, if_true]
    exact (walk.append (.dot hd.directory (.here d)) (.inr rfl)).follow hused
  | false =>
    simp only [route, hslash, Bool.false_eq_true, if_false, List.append_nil]
    exact hd.follow

end ClusterCerts.Files
