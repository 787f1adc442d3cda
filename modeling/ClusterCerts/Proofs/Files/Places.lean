import ClusterCerts.Proofs.Files.Walks

/-!
# Places that paths lead to

Making directories takes nothing away and adds only directories. A name joined to a directory
leads to the place of that name below the place of the directory, and a file that gets another
name in its directory is no longer at its old place.
-/

namespace ClusterCerts

namespace Files

def AddsDirectories (fs fs' : Files) : Prop :=
  ∀ place, fs'.node? place = fs.node? place ∨
    (fs.node? place = none ∧ fs'.node? place = some .directory)

theorem AddsDirectories.refl (fs : Files) : fs.AddsDirectories fs := fun _ => .inl rfl

theorem AddsDirectories.trans {fs₁ fs₂ fs₃ : Files} (h₁ : fs₁.AddsDirectories fs₂)
    (h₂ : fs₂.AddsDirectories fs₃) : fs₁.AddsDirectories fs₃ := by
  intro place
  rcases h₁ place with h₁ | ⟨hnone, hdir⟩
  · rcases h₂ place with h₂ | ⟨hnone, hdir⟩
    · exact .inl (h₂.trans h₁)
    · exact .inr ⟨h₁ ▸ hnone, hdir⟩
  · rcases h₂ place with h₂ | ⟨hnone', hdir'⟩
    · exact .inr ⟨hnone, h₂.trans hdir⟩
    · exact .inr ⟨hnone, hdir'⟩

variable {fs fs' : Files}

theorem node?_put (fs : Files) {place : Place} (hplace : place ≠ []) (node : FileNode) (q : Place) :
    (fs.put place node).node? q = if q = place then some node else fs.node? q := by
  unfold node? put
  by_cases hq : q = place
  · rw [if_pos hq, if_neg (hq ▸ hplace), hq, SortedMap.get?_insert_self]
  · rw [if_neg hq, SortedMap.get?_insert, if_neg hq]

theorem addsDirectories_put {place : Place} (h : fs.node? place = none) :
    fs.AddsDirectories (fs.put place .directory) := by
  have hplace : place ≠ [] := by
    intro hroot
    simp [hroot, node?] at h
  intro q
  rw [node?_put fs hplace]
  split
  · next hq => exact .inr ⟨hq ▸ h, rfl⟩
  · exact .inl rfl

theorem makeDirectoryAt_ok {names : List String} {start : Place}
    (h : fs.makeDirectoryAt names start = .ok fs') :
    ∃ place, fs.follow false maxLinks start names = .ok place ∧ fs.node? place = none ∧
      fs' = fs.put place .directory := by
  simp only [makeDirectoryAt, bind, Except.bind] at h
  split at h
  · cases h
  · next place hplace =>
    split at h
    · cases h
    · next hnode =>
      cases h
      exact ⟨place, hplace, by simpa using hnode, rfl⟩

theorem eq_of_orThere {start : Place} {names : List String} {made : Except FileFault Files}
    (h : (match made with
      | .ok fs => .ok fs
      | .error fault =>
        match fs.follow true maxLinks start names with
        | .ok place => if fs.isDirectory place then .ok fs else .error fault
        | .error _ => .error fault) = Except.ok fs') :
    made = .ok fs' ∨ fs = fs' ∧
      ∃ d, fs'.follow true maxLinks start names = .ok d ∧ fs'.isDirectory d = true := by
  cases made with
  | ok made => exact .inl h
  | error fault =>
    simp only at h
    split at h
    · next d hd =>
      split at h
      · next hdir =>
        obtain rfl := Except.ok.inj h
        exact .inr ⟨rfl, d, hd, hdir⟩
      · cases h
    · cases h

theorem rel_of_makeDirectoriesAt {R : Files → Files → Prop} (refl : ∀ fs, R fs fs)
    (trans : ∀ {fs₁ fs₂ fs₃}, R fs₁ fs₂ → R fs₂ fs₃ → R fs₁ fs₃)
    (put : ∀ {fs place}, fs.node? place = none → R fs (fs.put place .directory)) {start : Place}
    {names : List String} (h : fs.makeDirectoriesAt start names = .ok fs') : R fs fs' := by
  have one {fs fs' : Files} {names : List String} (h : fs.makeDirectoryAt names start = .ok fs') :
      R fs fs' := by
    obtain ⟨place, -, hnone, rfl⟩ := makeDirectoryAt_ok h
    exact put hnone
  fun_induction makeDirectoriesAt fs start names generalizing fs' with
  | case1 =>
    cases h
    exact refl fs
  | case2 names hne orThere hfailed parents hparents =>
    rename_i ih
    apply trans (ih hparents)
    rcases eq_of_orThere h with hmade | ⟨rfl, -⟩
    · exact one hmade
    · exact refl _
  | case3 => cases h
  | case4 names hne orThere =>
    rcases eq_of_orThere h with hmade | ⟨rfl, -⟩
    · exact one hmade
    · exact refl _

theorem addsDirectories_makeDirectoriesAt {start : Place} {names : List String}
    (h : fs.makeDirectoriesAt start names = .ok fs') : fs.AddsDirectories fs' :=
  rel_of_makeDirectoriesAt .refl .trans addsDirectories_put h

theorem addsDirectories_makeDirectories {path : String} (h : fs.makeDirectories path = .ok fs') :
    fs.AddsDirectories fs' := by
  simp only [makeDirectories, bind, Except.bind] at h
  split at h
  · cases h
  · exact addsDirectories_makeDirectoriesAt h

structure PathPart (name : String) : Prop where
  ne_empty : name ≠ ""
  no_slash : '/' ∉ name.toList

structure PlainName (name : String) : Prop extends PathPart name where
  ne_dot : name ≠ "."
  ne_dots : name ≠ ".."

theorem PlainName.not_dots {name : String} (h : PlainName name) : name ≠ "." ∧ name ≠ ".." :=
  ⟨h.ne_dot, h.ne_dots⟩

theorem follow_concat {last : Bool} {links : Nat} {place p : Place} {names : List String}
    {name : String} (hname : PlainName name)
    (h : fs.follow last links place (names ++ [name]) = .ok p) :
    ∃ d, fs.follow true links place names = .ok d ∧ fs.isDirectory d = true ∧
      name.utf8ByteSize ≤ 255 ∧
      (p = d ++ [.text name] ∨
        last = true ∧ ∃ target, fs.node? (d ++ [.text name]) = some (.link target)) := by
  obtain ⟨used, hused, walk⟩ := walk_of_follow h
  obtain ⟨u, v, d, huv, first, second⟩ := walk.split (.inl (by simp))
  obtain ⟨hdir, hentry, hp⟩ := second.singleton_cases hname.not_dots
  exact ⟨d, first.follow (by omega), hdir, hentry.length, hp⟩

theorem follow_append_singleton {links : Nat} {place p : Place} {names : List String}
    {name : String} (hname : PlainName name)
    (h : fs.follow false links place (names ++ [name]) = .ok p) :
    ∃ d, fs.follow true links place names = .ok d ∧ p = d ++ [.text name] := by
  obtain ⟨d, hd, -, -, hp | ⟨hlast, -⟩⟩ := follow_concat hname h
  · exact ⟨d, hd, hp⟩
  · cases hlast

theorem parts_name {name : String} (h : PathPart name) :
    (Text.fields '/' name.toList).filter (fun part => part ≠ []) = [name.toList] := by
  have hne : name.toList ≠ [] := fun hnil => h.ne_empty (String.toList_inj.1 (by simpa using hnil))
  simp [Text.fields_of_not_mem h.no_slash, hne]

theorem parts_join (dir : String) {name : String} (h : PathPart name) :
    Path.parts (Path.join dir name) = Path.parts dir ++ [name.toList] := by
  unfold Path.join Path.parts
  by_cases hdir : (dir = "" || Path.endsInSlash dir) = true
  · rw [if_pos hdir, String.toList_append]
    rcases Bool.or_eq_true_iff.1 hdir with hempty | hslash
    · rw [of_decide_eq_true hempty]
      simpa [Text.fields] using parts_name h
    · obtain ⟨before, hbefore⟩ := List.getLast?_eq_some_iff.1 (of_decide_eq_true hslash)
      rw [hbefore, List.append_assoc, List.singleton_append, Text.fields_append_sep,
        Text.fields_append_sep, List.filter_append, List.filter_append, parts_name h]
      simp [Text.fields]
  · rw [if_neg hdir, String.toList_append, String.toList_append, List.append_assoc]
    have hslash : "/".toList = ['/'] := rfl
    rw [hslash, List.singleton_append, Text.fields_append_sep, List.filter_append, parts_name h]

theorem isAbsolute_join (dir : String) {name : String} (h : PathPart name) :
    Path.isAbsolute (Path.join dir name) = Path.isAbsolute dir := by
  unfold Path.join Path.isAbsolute
  by_cases hempty : dir = ""
  · have hhead : name.toList.head? ≠ some '/' :=
      fun hhead => h.no_slash (List.mem_of_mem_head? hhead)
    rw [hempty]
    simpa using hhead
  · have hne : dir.toList ≠ [] := fun hnil => hempty (String.toList_inj.1 (by simpa using hnil))
    have hhead (cs : List Char) : (dir.toList ++ cs).head? = dir.toList.head? := by
      cases hcs : dir.toList with
      | nil => exact absurd hcs hne
      | cons c r => rfl
    split
    · rw [String.toList_append, hhead]
    · rw [String.toList_append, String.toList_append, List.append_assoc, hhead]

theorem endsInSlash_join (dir : String) {name : String} (h : PathPart name) :
    Path.endsInSlash (Path.join dir name) = false := by
  have hne : name.toList ≠ [] := fun hnil => h.ne_empty (String.toList_inj.1 (by simpa using hnil))
  have hlast (cs : List Char) : (cs ++ name.toList).getLast? ≠ some '/' := by
    intro hlast
    rw [List.getLast?_append, List.getLast?_eq_some_getLast hne, Option.some_or] at hlast
    exact h.no_slash (Option.some.inj hlast ▸ List.getLast_mem hne)
  unfold Path.join Path.endsInSlash
  split
  · rw [String.toList_append]
    exact decide_eq_false (hlast _)
  · rw [String.toList_append]
    exact decide_eq_false (hlast _)

theorem route_join (from_ : Place) (dir : String) {name : String} (h : PathPart name) :
    route from_ (Path.join dir name) =
      ⟨if Path.isAbsolute dir then [] else from_,
        (Path.parts dir).map String.ofList ++ [name]⟩ := by
  rw [route, parts_join dir h, isAbsolute_join dir h, endsInSlash_join dir h]
  simp

theorem locate_join {dir name : String} {p : Place} (hname : PlainName name)
    (h : fs.locate false (Path.join dir name) = .ok p) :
    ∃ d, fs.follow true maxLinks (if Path.isAbsolute dir then [] else fs.home)
      ((Path.parts dir).map String.ofList) = .ok d ∧ p = d ++ [.text name] := by
  rw [locate] at h
  split at h
  · cases h
  · split at h
    · cases h
    · simp only [route_join fs.home dir hname.toPathPart] at h
      exact follow_append_singleton hname h

theorem lookup_eq_ok_iff {last : Bool} {path : String} {place : Place} {node : FileNode} :
    fs.lookup last path = .ok (place, node) ↔
      fs.locate last path = .ok place ∧ fs.node? place = some node := by
  unfold lookup
  cases fs.locate last path with
  | error fault => simp [bind, Except.bind]
  | ok p =>
    simp only [bind, Except.bind]
    split
    · next found hfound =>
      simp only [pure, Except.pure, Except.ok.injEq, Prod.mk.injEq]
      constructor
      · rintro ⟨rfl, rfl⟩
        exact ⟨rfl, hfound⟩
      · rintro ⟨rfl, hnode⟩
        exact ⟨rfl, Option.some.inj (hfound.symm.trans hnode)⟩
    · next hnone =>
      constructor
      · intro h
        cases h
      · rintro ⟨hp, hnode⟩
        rw [Except.ok.inj hp, hnode] at hnone
        cases hnone

theorem read_eq_ok_iff {path : String} {content : Bytes} :
    fs.read path = .ok content ↔
      ∃ p isPrivate, fs.lookup true path = .ok (p, .file content isPrivate) := by
  rw [read]
  cases hlookup : fs.lookup true path with
  | error fault => simp [bind, Except.bind]
  | ok found =>
    obtain ⟨p, node⟩ := found
    cases node <;> simp [bind, Except.bind, pure, Except.pure, throw, throwThe, MonadExceptOf.throw]

theorem read_of_locate {path : String} {p : Place} {content : Bytes} {isPrivate : Bool}
    (hp : fs.locate true path = .ok p) (hnode : fs.node? p = some (.file content isPrivate)) :
    fs.read path = .ok content :=
  read_eq_ok_iff.2 ⟨p, isPrivate, lookup_eq_ok_iff.2 ⟨hp, hnode⟩⟩

theorem present_of_read {path : String} {content : Bytes} (h : fs.read path = .ok content) :
    fs.present path = true := by
  obtain ⟨p, isPrivate, hlookup⟩ := read_eq_ok_iff.1 h
  rw [present, hlookup]
  rfl

theorem isFile_of_read {path : String} {content : Bytes} (h : fs.read path = .ok content) :
    fs.isFile path = true := by
  obtain ⟨p, isPrivate, hlookup⟩ := read_eq_ok_iff.1 h
  rw [isFile, hlookup]

theorem node?_erase_insert {place goal : Place} (hplace : place ≠ []) (hne : place ≠ goal)
    (node : FileNode) :
    ({ fs with nodes := (fs.nodes.erase place).insert goal node } : Files).node? place = none := by
  unfold node?
  rw [if_neg hplace, SortedMap.get?_insert, if_neg hne, SortedMap.get?_erase, if_pos rfl]

theorem node?_move {place goal : Place} (hplace : place ≠ []) (habove : ¬ goal <+: place) :
    (fs.move place goal).node? place = none := by
  unfold node? move
  rw [if_neg hplace, SortedMap.get?_eq_none_iff, SortedMap.mem_keys_ofList]
  intro hmem
  obtain ⟨e', he', hkey⟩ := List.mem_map.1 hmem
  obtain ⟨e, -, rfl⟩ := List.mem_map.1 he'
  split at hkey
  · exact habove ⟨_, hkey⟩
  · next hprefix =>
    exact hprefix (List.isPrefixOf_iff_prefix.2 (hkey ▸ List.prefix_rfl))

theorem node?_of_rename {dir a b : String} (ha : PlainName a) (hb : PlainName b) (hab : a ≠ b)
    (h : fs.rename (Path.join dir a) (Path.join dir b) = .ok fs') :
    ∃ place node, fs.lookup false (Path.join dir a) = .ok (place, node) ∧
      fs'.node? place = none := by
  simp only [rename, endsInSlash_join dir hb.toPathPart, bind, Except.bind] at h
  split at h
  · cases h
  · next found hlookup =>
    obtain ⟨place, node⟩ := found
    refine ⟨place, node, hlookup, ?_⟩
    simp only [Bool.false_eq_true, if_false] at h
    split at h
    · cases h
    · next goal hgoal =>
      obtain ⟨d, hd, rfl⟩ := locate_join ha (lookup_eq_ok_iff.1 hlookup).1
      obtain ⟨d', hd', rfl⟩ := locate_join hb hgoal
      obtain rfl : d = d' := Except.ok.inj (hd.symm.trans hd')
      have hplace : d ++ [.text a] ≠ [] := by simp
      have hne : d ++ [.text a] ≠ d ++ [.text b] := by simpa using hab
      have habove : ¬ d ++ [.text b] <+: d ++ [.text a] := by
        intro h
        exact hne (h.eq_of_length (by simp)).symm
      rw [if_neg hne] at h
      split at h
      · -- an empty directory gives way first
        split at h
        · cases h
        · split at h
          · cases h
          · cases h
            exact node?_move hplace habove
      · cases h
      · split at h
        · cases h
        · cases h
          exact node?_move hplace habove
      · cases h
      · cases h
        exact node?_erase_insert hplace hne _

end Files

end ClusterCerts
