import ClusterCerts.Proofs.Files.Changes

/-!
# Entries of a directory

What the operations on files do to an entry of a directory that is a file or is not there yet:
writing it, restricting the access to it and giving it another name succeed, and change the
entries that are named and no others.
-/

namespace ClusterCerts.Files

variable {fs fs' : Files} {dir name : String} {d p : Place} {last : Bool} {content : Bytes}

def relocate (fs : Files) (place goal : Place) (node : FileNode) : Files :=
  { fs with nodes := (fs.nodes.erase place).insert goal node }

theorem node?_relocate {place goal : Place} (hplace : place ≠ []) (hgoal : goal ≠ [])
    (node : FileNode) (q : Place) :
    (fs.relocate place goal node).node? q =
      if q = goal then some node else if q = place then none else fs.node? q := by
  unfold node? relocate
  by_cases hq : q = goal
  · rw [if_pos hq, if_neg (hq ▸ hgoal), hq, SortedMap.get?_insert_self]
  · rw [if_neg hq, SortedMap.get?_insert, if_neg hq, SortedMap.get?_erase]
    by_cases hroot : q = []
    · rw [if_pos hroot, if_pos hroot, if_neg (hroot ▸ Ne.symm hplace)]
    · rw [if_neg hroot, if_neg hroot]

theorem content?_put (hp : p ≠ []) (content : Bytes) (isPrivate : Bool) (q : Place) :
    (fs.put p (.file content isPrivate)).content? q =
      if q = p then some content else fs.content? q := by
  have hnode := node?_put fs hp (.file content isPrivate) q
  split
  · next hq => exact content?_of_file (hnode.trans (if_pos hq))
  · next hq => exact content?_congr (hnode.trans (if_neg hq))

theorem content?_relocate {place goal : Place} (hplace : place ≠ []) (hgoal : goal ≠ [])
    (content : Bytes) (isPrivate : Bool) (q : Place) :
    (fs.relocate place goal (.file content isPrivate)).content? q =
      if q = goal then some content else if q = place then none else fs.content? q := by
  have hnode : (fs.relocate place goal (.file content isPrivate)).node? q = _ :=
    node?_relocate hplace hgoal (.file content isPrivate) q
  split
  · next hq => exact content?_of_file (hnode.trans (if_pos hq))
  · next hq =>
    rw [if_neg hq] at hnode
    split
    · next hq' => exact content?_of_none (hnode.trans (if_pos hq'))
    · next hq' => exact content?_congr (hnode.trans (if_neg hq'))

theorem differs_put (h : fs.AtMostFile p) (content : Bytes) (isPrivate : Bool) :
    DiffersInFiles (· = p) fs (fs.put p (.file content isPrivate)) where
  home := rfl
  same q hq := by rw [node?_put fs h.ne_nil, if_neg hq]
  before q hq := hq ▸ h
  after q hq := by
    apply atMostFile_of_file
    rw [node?_put fs h.ne_nil, if_pos hq]

theorem differs_relocate {place goal : Place} (hplace : fs.AtMostFile place)
    (hgoal : fs.AtMostFile goal) (content : Bytes) (isPrivate : Bool) :
    DiffersInFiles (fun q => q = place ∨ q = goal) fs
      (fs.relocate place goal (.file content isPrivate)) where
  home := rfl
  same q hq := by
    rw [not_or] at hq
    rw [node?_relocate hplace.ne_nil hgoal.ne_nil, if_neg hq.2, if_neg hq.1]
  before q hq := by
    rcases hq with rfl | rfl
    · exact hplace
    · exact hgoal
  after q hq := by
    by_cases hq' : q = goal
    · apply atMostFile_of_file
      rw [node?_relocate hplace.ne_nil hgoal.ne_nil, if_pos hq']
    · apply atMostFile_of_none
      rw [node?_relocate hplace.ne_nil hgoal.ne_nil, if_neg hq', if_pos (hq.resolve_right hq')]

structure FileName (name : String) : Prop extends PlainName name where
  no_nul : '\x00' ∉ name.toList
  length : name.utf8ByteSize ≤ 255

theorem FileName.sought (h : FileName name) : Sought name :=
  ⟨h.ne_dot, h.ne_dots, h.length⟩

theorem fileName_iff : FileName name ↔ name ≠ "" ∧ '/' ∉ name.toList ∧ name ≠ "." ∧ name ≠ ".." ∧
    '\x00' ∉ name.toList ∧ name.utf8ByteSize ≤ 255 :=
  ⟨fun h => ⟨h.ne_empty, h.no_slash, h.ne_dot, h.ne_dots, h.no_nul, h.length⟩,
    fun ⟨hempty, hslash, hdot, hdots, hnul, hlength⟩ =>
      ⟨⟨⟨hempty, hslash⟩, hdot, hdots⟩, hnul, hlength⟩⟩

instance (name : String) : Decidable (FileName name) := decidable_of_iff' _ fileName_iff

structure Leads (fs : Files) (dir : String) (d : Place) : Prop where
  no_nul : '\x00' ∉ dir.toList
  follow : fs.follow true maxLinks (if Path.isAbsolute dir then [] else fs.home)
    ((Path.parts dir).map String.ofList) = .ok d
  directory : fs.isDirectory d = true

theorem Leads.of_differs {S : Place → Prop} (h : DiffersInFiles S fs fs') (hd : fs.Leads dir d) :
    fs'.Leads dir d :=
  ⟨hd.no_nul, h.home ▸ h.follow hd.follow, h.isDirectory hd.directory⟩

theorem Leads.of_agrees {S : Place → Prop} (h : AgreesOutside S fs fs')
    (hS : ∀ q, S q → fs.AtMostFile q) (hd : fs.Leads dir d) : fs'.Leads dir d := by
  have hSd : ¬ S d := by
    intro hSd
    have hdir := hd.directory
    rw [(hS d hSd).isDirectory_eq_false] at hdir
    cases hdir
  refine ⟨hd.no_nul, ?_, ?_⟩
  · rw [h.home]
    exact h.follow hS (fun h => absurd h hSd) hd.follow
  · rw [isDirectory, h.same d hSd]
    exact hd.directory

theorem Leads.unique {d' : Place} (hd : fs.Leads dir d) (hd' : fs.Leads dir d') : d = d' :=
  Except.ok.inj (hd.follow.symm.trans hd'.follow)

theorem nul_mem_join {dir name : String} :
    '\x00' ∈ (Path.join dir name).toList ↔ '\x00' ∈ dir.toList ∨ '\x00' ∈ name.toList := by
  unfold Path.join
  split
  · rw [String.toList_append, List.mem_append]
  · have hslash : '\x00' ∉ "/".toList := by decide
    rw [String.toList_append, String.toList_append, List.mem_append, List.mem_append]
    simp only [hslash, or_false]

theorem join_ne_empty (dir : String) (h : PathPart name) : Path.join dir name ≠ "" := by
  intro hempty
  have hjoin := parts_join dir h
  have hnone : Path.parts "" = [] := by decide
  rw [hempty, hnone] at hjoin
  simp at hjoin

theorem follow_append {links : Nat} {place : Place} {names : List String} {name : String}
    (hd : fs.follow true links place names = .ok d) (hdir : fs.isDirectory d = true)
    (hname : Sought name)
    (h : last = true → ∀ target, fs.node? (d ++ [.text name]) ≠ some (.link target)) :
    fs.follow last links place (names ++ [name]) = .ok (d ++ [.text name]) := by
  obtain ⟨used, hused, walk⟩ := walk_of_follow hd
  exact (walk.append (.last_name hname hdir h) (.inl (by simp))).follow hused

theorem Walk.exists_of_isDirectory {used : Nat} {place : Place} {names : List String}
    (h : Walk fs true used place names d) (hdir : fs.isDirectory d = true) :
    ∃ p v, v ≤ used ∧ Walk fs false v place names p ∧ (fs.node? p).isSome := by
  induction h with
  | here place => exact ⟨place, 0, Nat.le_refl 0, .here place, by rw [of_decide_eq_true hdir]; rfl⟩
  | dot hplace _ ih =>
    obtain ⟨p, v, hv, walk, hnode⟩ := ih hdir
    exact ⟨p, v, hv, .dot hplace walk, hnode⟩
  | dots hplace _ ih =>
    obtain ⟨p, v, hv, walk, hnode⟩ := ih hdir
    exact ⟨p, v, hv, .dots hplace walk, hnode⟩
  | stop hplace hname hnode =>
    rw [isDirectory, hnode.resolve_right (by simp)] at hdir
    simp at hdir
  | into hplace hname hnode hlink _ ih =>
    obtain ⟨p, v, hv, walk, hsome⟩ := ih hdir
    exact ⟨p, v, hv, .into hplace hname hnode hlink walk, hsome⟩
  | @link used place p name names target hplace hname hnode hmore _ ih =>
    by_cases hnames : names = []
    · subst hnames
      exact ⟨_, 0, Nat.zero_le _, .stop hplace hname (.inr ⟨rfl, target, hnode⟩), by
        rw [hnode]; rfl⟩
    · obtain ⟨p, v, hv, walk, hsome⟩ := ih hdir
      exact ⟨p, v + 1, Nat.succ_le_succ hv,
        .link hplace hname hnode (fun hnil => absurd hnil hnames) walk, hsome⟩

theorem exists_follow_false {links : Nat} {place : Place} {names : List String}
    (hd : fs.follow true links place names = .ok d) (hdir : fs.isDirectory d = true) :
    ∃ p, fs.follow false links place names = .ok p ∧ (fs.node? p).isSome := by
  obtain ⟨used, hused, walk⟩ := walk_of_follow hd
  obtain ⟨p, v, hv, walk', hnode⟩ := walk.exists_of_isDirectory hdir
  exact ⟨p, walk'.follow (by omega), hnode⟩

theorem makeDirectoriesAt_of_follow {start : Place} {names : List String}
    (hd : fs.follow true maxLinks start names = .ok d) (hdir : fs.isDirectory d = true) :
    fs.makeDirectoriesAt start names = .ok fs := by
  rw [makeDirectoriesAt]
  split
  · rfl
  · obtain ⟨p, hp, hnode⟩ := exists_follow_false hd hdir
    have hthere : fs.makeDirectoryAt names start = .error .alreadyExists := by
      rw [makeDirectoryAt, hp]
      simp only [bind, Except.bind, hnode]
      rfl
    simp [hthere, hd, hdir]

theorem leads_of_locate (hname : PlainName name)
    (h : fs.locate last (Path.join dir name) = .ok p) :
    ∃ d, fs.Leads dir d ∧ FileName name ∧ (p = d ++ [.text name] ∨
      last = true ∧ ∃ target, fs.node? (d ++ [.text name]) = some (.link target)) := by
  rw [locate] at h
  split at h
  · cases h
  · next hnul =>
    rw [List.contains_iff_mem, nul_mem_join, not_or] at hnul
    split at h
    · cases h
    · simp only [route_join fs.home dir hname.toPathPart] at h
      obtain ⟨d, hd, hdir, hlength, hp⟩ := follow_concat hname h
      exact ⟨d, ⟨hnul.1, hd, hdir⟩, ⟨hname, hnul.2, hlength⟩, hp⟩

theorem write_of_locate {path : String} (hslash : Path.endsInSlash path = false)
    (hp : fs.locate true path = .ok p) (h : fs.AtMostFile p) (content : Bytes) :
    ∃ isPrivate, fs.write path content = .ok (fs.put p (.file content isPrivate)) := by
  rw [Files.write, hslash, hp]
  rcases h.cases with hnone | ⟨old, isPrivate, hfile⟩
  · exists false
    simp [bind, Except.bind, pure, Except.pure, hnone]
  · exists isPrivate
    simp [bind, Except.bind, pure, Except.pure, hfile]

theorem leads_home (h : fs.isDirectory fs.home = true) : fs.Leads "" fs.home := by
  refine ⟨by decide, ?_, h⟩
  rw [show (Path.parts "").map String.ofList = [] from rfl, Files.follow]
  rfl

theorem makeDirectories_eq (hnul : '\x00' ∉ dir.toList) :
    fs.makeDirectories dir = fs.makeDirectoriesAt (if Path.isAbsolute dir then [] else fs.home)
      ((Path.parts dir).map String.ofList) := by
  have hnames : (if Path.endsInSlash dir then (route fs.home dir).names.dropLast
      else (route fs.home dir).names) = (Path.parts dir).map String.ofList := by
    unfold route
    split
    · simp
    · simp
  rw [Files.makeDirectories, if_neg (by rwa [List.contains_iff_mem])]
  simp only [hnames]
  rfl

namespace Leads

variable (hd : fs.Leads dir d)
include hd

theorem makeDirectories : fs.makeDirectories dir = .ok fs := by
  rw [makeDirectories_eq hd.no_nul]
  exact makeDirectoriesAt_of_follow hd.follow hd.directory

theorem locate_entry (hname : FileName name)
    (h : last = true → ∀ target, fs.node? (d ++ [.text name]) ≠ some (.link target)) :
    fs.locate last (Path.join dir name) = .ok (d ++ [.text name]) := by
  have hnul : ¬ (Path.join dir name).toList.contains '\x00' = true := by
    rw [List.contains_iff_mem, nul_mem_join, not_or]
    exact ⟨hd.no_nul, hname.no_nul⟩
  rw [Files.locate, if_neg hnul, if_neg (join_ne_empty dir hname.toPathPart)]
  simp only [route_join fs.home dir hname.toPathPart]
  exact follow_append hd.follow hd.directory hname.sought h

theorem locate (hname : FileName name) (h : fs.AtMostFile (d ++ [.text name])) :
    fs.locate last (Path.join dir name) = .ok (d ++ [.text name]) :=
  hd.locate_entry hname fun _ => h.not_link

theorem entry (hname : FileName name) (h : fs.isDirectory (d ++ [.text name]) = true) :
    fs.Leads (Path.join dir name) (d ++ [.text name]) := by
  have hlink : ∀ target, fs.node? (d ++ [.text name]) ≠ some (.link target) := by
    intro target hlink
    simp [isDirectory, hlink] at h
  refine ⟨?_, ?_, h⟩
  · rw [nul_mem_join, not_or]
    exact ⟨hd.no_nul, hname.no_nul⟩
  · rw [isAbsolute_join dir hname.toPathPart, parts_join dir hname.toPathPart, List.map_append,
      List.map_singleton, String.ofList_toList]
    exact follow_append hd.follow hd.directory hname.sought fun _ => hlink

theorem lookup_file (hname : FileName name) {isPrivate : Bool}
    (h : fs.node? (d ++ [.text name]) = some (.file content isPrivate)) :
    fs.lookup last (Path.join dir name) = .ok (d ++ [.text name], .file content isPrivate) :=
  lookup_eq_ok_iff.2 ⟨hd.locate hname (atMostFile_of_file h), h⟩

theorem present (hname : FileName name) (h : fs.AtMostFile (d ++ [.text name])) :
    fs.present (Path.join dir name) = (fs.content? (d ++ [.text name])).isSome := by
  rcases h.cases with hnone | ⟨content, isPrivate, hfile⟩
  · rw [Files.present, lookup, hd.locate hname h, content?_of_none hnone]
    simp only [bind, Except.bind, hnone]
    rfl
  · rw [Files.present, hd.lookup_file hname hfile, content?_of_file hfile]
    rfl

theorem write (hname : FileName name) (h : fs.AtMostFile (d ++ [.text name])) (content : Bytes) :
    ∃ isPrivate, fs.write (Path.join dir name) content =
      .ok (fs.put (d ++ [.text name]) (.file content isPrivate)) :=
  write_of_locate (endsInSlash_join dir hname.toPathPart) (hd.locate hname h) h content

theorem restrict (hname : FileName name) {isPrivate : Bool}
    (h : fs.node? (d ++ [.text name]) = some (.file content isPrivate)) :
    fs.restrict (Path.join dir name) = .ok (fs.put (d ++ [.text name]) (.file content true)) := by
  rw [Files.restrict, hd.lookup_file hname h]
  rfl

theorem rename {a b : String} (ha : FileName a) (hb : FileName b) (hab : a ≠ b) {node : FileNode}
    (hnode : fs.node? (d ++ [.text a]) = some node) (hsource : node ≠ .directory)
    (hgoal : fs.isDirectory (d ++ [.text b]) = false) :
    fs.rename (Path.join dir a) (Path.join dir b) =
      .ok (fs.relocate (d ++ [.text a]) (d ++ [.text b]) node) := by
  have hne : d ++ [.text a] ≠ d ++ [.text b] := by simpa using hab
  have hlookup : fs.lookup false (Path.join dir a) = .ok (d ++ [.text a], node) :=
    lookup_eq_ok_iff.2 ⟨hd.locate_entry ha (fun h => Bool.noConfusion h), hnode⟩
  have hlocate : fs.locate false (Path.join dir b) = .ok (d ++ [.text b]) :=
    hd.locate_entry hb fun h => Bool.noConfusion h
  rw [isDirectory, decide_eq_false_iff_not] at hgoal
  simp only [Files.rename, hlookup, endsInSlash_join dir hb.toPathPart, Bool.false_eq_true,
    if_false, hlocate, bind, Except.bind, if_neg hne]
  cases node with
  | directory => exact absurd rfl hsource
  | file content isPrivate =>
    cases hold : fs.node? (d ++ [.text b]) with
    | none => rfl
    | some old =>
      cases old with
      | directory => exact absurd hold hgoal
      | _ => rfl
  | link target =>
    cases hold : fs.node? (d ++ [.text b]) with
    | none => rfl
    | some old =>
      cases old with
      | directory => exact absurd hold hgoal
      | _ => rfl

end Leads

theorem join_empty (name : String) : Path.join "" name = name := by simp [Path.join]

theorem leads_name (hhome : fs.isDirectory fs.home = true) (hname : FileName name)
    (h : fs.isDirectory (fs.home ++ [.text name]) = true) :
    fs.Leads name (fs.home ++ [.text name]) := by
  have hentry := (leads_home hhome).entry hname h
  rwa [join_empty] at hentry

end ClusterCerts.Files
