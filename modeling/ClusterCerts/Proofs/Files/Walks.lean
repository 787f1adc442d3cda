import ClusterCerts.Files

/-!
# Walks along paths

A path that leads somewhere is walked name by name: through directories, and through links that
are counted. A walk along names and then more names parts into two, and two walks along the same
names end at the same place. What stands at a place matters to a walk only if the walk passes
through a link there or ends there, and a link that was passed is not passed again.
-/

namespace ClusterCerts.Files

variable {fs fs' : Files} {last : Bool} {links used : Nat} {place d p : Place}
  {name : String} {names rest : List String}

structure Sought (name : String) : Prop where
  ne_dot : name ≠ "."
  ne_dots : name ≠ ".."
  length : name.utf8ByteSize ≤ 255

/-- A walk along names, with the number of links that it passes through. It stops at its last name
where there is nothing yet, or a link that is not to be followed. -/
inductive Walk (fs : Files) (last : Bool) : Nat → Place → List String → Place → Prop
  | here (place : Place) : Walk fs last 0 place [] place
  | dot {used : Nat} {place p : Place} {names : List String}
      (hplace : fs.isDirectory place = true) (walk : Walk fs last used place names p) :
      Walk fs last used place ("." :: names) p
  | dots {used : Nat} {place p : Place} {names : List String}
      (hplace : fs.isDirectory place = true) (walk : Walk fs last used place.dropLast names p) :
      Walk fs last used place (".." :: names) p
  | stop {place : Place} {name : String} (hplace : fs.isDirectory place = true)
      (hname : Sought name)
      (hnode : fs.node? (place ++ [.text name]) = none ∨
        last = false ∧ ∃ target, fs.node? (place ++ [.text name]) = some (.link target)) :
      Walk fs last 0 place [name] (place ++ [.text name])
  | into {used : Nat} {place p : Place} {name : String} {names : List String} {node : FileNode}
      (hplace : fs.isDirectory place = true) (hname : Sought name)
      (hnode : fs.node? (place ++ [.text name]) = some node) (hlink : ∀ target, node ≠ .link target)
      (walk : Walk fs last used (place ++ [.text name]) names p) :
      Walk fs last used place (name :: names) p
  | link {used : Nat} {place p : Place} {name : String} {names : List String} {target : String}
      (hplace : fs.isDirectory place = true) (hname : Sought name)
      (hnode : fs.node? (place ++ [.text name]) = some (.link target))
      (hmore : names = [] → last = true)
      (walk : Walk fs last used (route place target).start
        ((route place target).names ++ names) p) :
      Walk fs last (used + 1) place (name :: names) p

theorem walk_of_follow (h : fs.follow last links place names = .ok p) :
    ∃ used ≤ links, Walk fs last used place names p := by
  fun_induction follow fs last links place names with
  | case1 links place =>
    exact ⟨0, Nat.zero_le _, Except.ok.inj h ▸ .here place⟩
  | case2 => cases h
  | case3 links place names hdir ih =>
    obtain ⟨used, hused, walk⟩ := ih h
    exact ⟨used, hused, .dot (by simpa using hdir) walk⟩
  | case4 links place names hdir hdot ih =>
    obtain ⟨used, hused, walk⟩ := ih h
    exact ⟨used, hused, .dots (by simpa using hdir) walk⟩
  | case5 => cases h
  | case6 links place name hdir hdot hdots hlong next hnode =>
    rw [← Except.ok.inj h]
    exact ⟨0, Nat.zero_le _, .stop (by simpa using hdir) ⟨hdot, hdots, by omega⟩ (.inl hnode)⟩
  | case7 => cases h
  | case8 links place name names hdir hdot hdots hlong next target hnode hlast =>
    obtain ⟨rfl, hlast⟩ := hlast
    rw [← Except.ok.inj h]
    exact ⟨0, Nat.zero_le _, .stop (by simpa using hdir) ⟨hdot, hdots, by omega⟩
      (.inr ⟨by simpa using hlast, target, hnode⟩)⟩
  | case9 => cases h
  | case10 place name names hdir hdot hdots hlong next target hnode hlast links r ih =>
    obtain ⟨used, hused, walk⟩ := ih h
    exact ⟨used + 1, by omega, .link (by simpa using hdir) ⟨hdot, hdots, by omega⟩ hnode
      (by simpa using hlast) walk⟩
  | case11 links place name names hdir hdot hdots hlong next node hlink hnode ih =>
    obtain ⟨used, hused, walk⟩ := ih h
    exact ⟨used, hused, .into (by simpa using hdir) ⟨hdot, hdots, by omega⟩ hnode hlink walk⟩

theorem Walk.follow (h : Walk fs last used place names p) (hlinks : used ≤ links) :
    fs.follow last links place names = .ok p := by
  induction h generalizing links with
  | here place => rw [Files.follow]
  | dot hplace _ ih =>
    rw [Files.follow, if_neg (by simp [hplace]), if_pos rfl]
    exact ih hlinks
  | dots hplace _ ih =>
    rw [Files.follow, if_neg (by simp [hplace]), if_neg (by decide), if_pos rfl]
    exact ih hlinks
  | stop hplace hname hnode =>
    rw [Files.follow, if_neg (by simp [hplace]), if_neg hname.ne_dot, if_neg hname.ne_dots,
      if_neg (by have := hname.length; omega)]
    rcases hnode with hnone | ⟨hlast, target, hlink⟩
    · simp [hnone]
    · simp [hlink, hlast]
  | @into used place p name names node hplace hname hnode hlink _ ih =>
    rw [Files.follow, if_neg (by simp [hplace]), if_neg hname.ne_dot, if_neg hname.ne_dots,
      if_neg (by have := hname.length; omega)]
    cases node with
    | link target => exact absurd rfl (hlink target)
    | directory => simpa [hnode] using ih hlinks
    | file content isPrivate => simpa [hnode] using ih hlinks
  | @link used place p name names target hplace hname hnode hmore _ ih =>
    obtain ⟨k, rfl⟩ : ∃ k, links = k + 1 := ⟨links - 1, by omega⟩
    rw [Files.follow, if_neg (by simp [hplace]), if_neg hname.ne_dot, if_neg hname.ne_dots,
      if_neg (by have := hname.length; omega)]
    have hfollowed : ¬ (names = [] ∧ (!last) = true) := by simpa using hmore
    simp only [hnode, if_neg hfollowed]
    exact ih (by omega)

theorem locate_eq_ok_iff {path : String} :
    fs.locate last path = .ok p ↔ '\x00' ∉ path.toList ∧ path ≠ "" ∧
      fs.follow last maxLinks (route fs.home path).start (route fs.home path).names = .ok p := by
  rw [locate]
  split
  · next hnul => simp [List.contains_iff_mem.1 hnul]
  · next hnul =>
    rw [List.contains_iff_mem] at hnul
    split
    · next hempty => simp [hempty]
    · next hempty => simp [hnul, hempty]

namespace Walk

theorem isDirectory_of_cons (h : Walk fs last used place (name :: names) p) :
    fs.isDirectory place = true := by
  cases h <;> assumption

theorem eq_of_isDirectory_eq_false (h : Walk fs last used place names p)
    (hplace : fs.isDirectory place = false) : names = [] ∧ p = place := by
  cases names with
  | nil =>
    cases h
    exact ⟨rfl, rfl⟩
  | cons name names =>
    rw [h.isDirectory_of_cons] at hplace
    cases hplace

theorem unique {used' : Nat} {p' : Place} (h : Walk fs last used place names p)
    (h' : Walk fs last used' place names p') : p = p' :=
  Except.ok.inj ((h.follow (Nat.le_max_left used used')).symm.trans
    (h'.follow (Nat.le_max_right used used')))

theorem append {u v : Nat} (h : Walk fs true u place names d) (h' : Walk fs last v d rest p)
    (hrest : rest ≠ [] ∨ last = true) : Walk fs last (u + v) place (names ++ rest) p := by
  induction h with
  | here place => simpa using h'
  | dot hplace _ ih => exact .dot hplace (ih h')
  | dots hplace _ ih => exact .dots hplace (ih h')
  | @stop place name hplace hname hnode =>
    have hnone : fs.node? (place ++ [.text name]) = none := hnode.resolve_right (by simp)
    cases rest with
    | nil =>
      cases h'
      exact .stop hplace hname (.inl hnone)
    | cons next rest =>
      -- no walk goes on where there is nothing
      have hdir := h'.isDirectory_of_cons
      rw [isDirectory, hnone] at hdir
      simp at hdir
  | into hplace hname hnode hlink _ ih => exact .into hplace hname hnode hlink (ih h')
  | @link used place p name names target hplace hname hnode hmore _ ih =>
    have hlast : names ++ rest = [] → last = true := by
      intro hnil
      exact hrest.resolve_left (fun hne => hne (List.append_eq_nil_iff.1 hnil).2)
    rw [Nat.add_right_comm]
    refine .link hplace hname hnode hlast ?_
    have hall := ih h'
    rwa [List.append_assoc] at hall

theorem split (h : Walk fs last used place (names ++ rest) p) (hrest : rest ≠ [] ∨ last = true) :
    ∃ u v d, u + v = used ∧ Walk fs true u place names d ∧ Walk fs last v d rest p := by
  generalize hall : names ++ rest = all at h
  induction h generalizing names with
  | here place =>
    obtain ⟨rfl, rfl⟩ := List.append_eq_nil_iff.1 hall
    exact ⟨0, 0, place, rfl, .here place, .here place⟩
  | @dot used place p all hplace walk ih =>
    rcases List.append_eq_cons_iff.1 hall with ⟨rfl, rfl⟩ | ⟨names, rfl, rfl⟩
    · exact ⟨0, used, place, Nat.zero_add _, .here place, .dot hplace walk⟩
    · obtain ⟨u, v, d, huv, first, second⟩ := ih rfl
      exact ⟨u, v, d, huv, .dot hplace first, second⟩
  | @dots used place p all hplace walk ih =>
    rcases List.append_eq_cons_iff.1 hall with ⟨rfl, rfl⟩ | ⟨names, rfl, rfl⟩
    · exact ⟨0, used, place, Nat.zero_add _, .here place, .dots hplace walk⟩
    · obtain ⟨u, v, d, huv, first, second⟩ := ih rfl
      exact ⟨u, v, d, huv, .dots hplace first, second⟩
  | @stop place name hplace hname hnode =>
    rcases List.append_eq_cons_iff.1 hall with ⟨rfl, rfl⟩ | ⟨names, rfl, hnil⟩
    · exact ⟨0, 0, place, rfl, .here place, .stop hplace hname hnode⟩
    · obtain ⟨rfl, rfl⟩ := List.append_eq_nil_iff.1 hnil.symm
      have hlast : last = true := hrest.resolve_left (by simp)
      have hnone := hnode.resolve_right (by simp [hlast])
      exact ⟨0, 0, _, rfl, .stop hplace hname (.inl hnone), .here _⟩
  | @into used place p name all node hplace hname hnode hlink walk ih =>
    rcases List.append_eq_cons_iff.1 hall with ⟨rfl, rfl⟩ | ⟨names, rfl, rfl⟩
    · exact ⟨0, used, place, Nat.zero_add _, .here place, .into hplace hname hnode hlink walk⟩
    · obtain ⟨u, v, d, huv, first, second⟩ := ih rfl
      exact ⟨u, v, d, huv, .into hplace hname hnode hlink first, second⟩
  | @link used place p name all target hplace hname hnode hmore walk ih =>
    rcases List.append_eq_cons_iff.1 hall with ⟨rfl, rfl⟩ | ⟨names, rfl, rfl⟩
    · exact ⟨0, used + 1, place, Nat.zero_add _, .here place, .link hplace hname hnode hmore walk⟩
    · obtain ⟨u, v, d, huv, first, second⟩ := ih (List.append_assoc _ names rest)
      exact ⟨u + 1, v, d, by omega, .link hplace hname hnode (fun _ => rfl) first, second⟩

theorem last_name (hname : Sought name) (hplace : fs.isDirectory place = true)
    (hnode : last = true → ∀ target, fs.node? (place ++ [.text name]) ≠ some (.link target)) :
    Walk fs last 0 place [name] (place ++ [.text name]) := by
  cases hfound : fs.node? (place ++ [.text name]) with
  | none => exact .stop hplace hname (.inl hfound)
  | some node =>
    by_cases hlink : ∃ target, node = .link target
    · obtain ⟨target, rfl⟩ := hlink
      have hlast : last = false := by
        cases last with
        | false => rfl
        | true => exact absurd hfound (hnode rfl target)
      exact .stop hplace hname (.inr ⟨hlast, target, hfound⟩)
    · exact .into hplace hname hfound (fun target h => hlink ⟨target, h⟩) (.here _)

theorem singleton_cases (hname : name ≠ "." ∧ name ≠ "..")
    (h : Walk fs last used place [name] p) :
    fs.isDirectory place = true ∧ Sought name ∧
      (p = place ++ [.text name] ∨
        last = true ∧ ∃ target, fs.node? (place ++ [.text name]) = some (.link target)) := by
  cases h with
  | dot => exact absurd rfl hname.1
  | dots => exact absurd rfl hname.2
  | stop hplace hentry _ => exact ⟨hplace, hentry, .inl rfl⟩
  | into hplace hentry _ _ walk =>
    cases walk
    exact ⟨hplace, hentry, .inl rfl⟩
  | link hplace hentry hnode hmore _ => exact ⟨hplace, hentry, .inr ⟨hmore rfl, _, hnode⟩⟩

theorem of_link (h : Walk fs last used place [name] p) (hname : name ≠ "." ∧ name ≠ "..")
    {target : String} (hlink : fs.node? (place ++ [.text name]) = some (.link target))
    (hlast : last = true) :
    ∃ k, used = k + 1 ∧
      Walk fs last k (route place target).start (route place target).names p := by
  cases h with
  | dot => exact absurd rfl hname.1
  | dots => exact absurd rfl hname.2
  | stop _ _ hnode =>
    rw [hlink, hlast] at hnode
    simp at hnode
  | into _ _ hnode hother _ =>
    rw [hlink] at hnode
    exact absurd (Option.some.inj hnode).symm (hother target)
  | @link used _ _ _ _ target' _ _ hnode _ walk =>
    obtain rfl : target = target' := by
      rw [hlink] at hnode
      simpa using hnode
    rw [List.append_nil] at walk
    exact ⟨used, rfl, walk⟩

theorem not_circle {target : String} (hname : Sought name)
    (hlink : fs.node? (place ++ [.text name]) = some (.link target))
    (hroute : route place target = ⟨place, [name]⟩) : ¬ Walk fs true used place [name] p := by
  induction used with
  | zero =>
    intro walk
    obtain ⟨k, hk, -⟩ := walk.of_link ⟨hname.ne_dot, hname.ne_dots⟩ hlink rfl
    omega
  | succ used ih =>
    intro walk
    obtain ⟨k, hk, onward⟩ := walk.of_link ⟨hname.ne_dot, hname.ne_dots⟩ hlink rfl
    obtain rfl : used = k := by omega
    rw [hroute] at onward
    exact ih onward

theorem singleton_dot (h : Walk fs last used place [name] p) (hname : name = ".") :
    fs.isDirectory place = true ∧ p = place := by
  cases h with
  | dot hdir walk =>
    cases walk
    exact ⟨hdir, rfl⟩
  | dots => exact absurd hname (by decide)
  | stop _ hentry _ => exact absurd hname hentry.ne_dot
  | into _ hentry _ _ _ => exact absurd hname hentry.ne_dot
  | link _ hentry _ _ _ => exact absurd hname hentry.ne_dot

theorem singleton_dots (h : Walk fs last used place [name] p) (hname : name = "..") :
    fs.isDirectory place = true ∧ used = 0 ∧ p = place.dropLast := by
  cases h with
  | dot => exact absurd hname (by decide)
  | dots hdir walk =>
    cases walk
    exact ⟨hdir, rfl, rfl⟩
  | stop _ hentry _ => exact absurd hname hentry.ne_dots
  | into _ hentry _ _ _ => exact absurd hname hentry.ne_dots
  | link _ hentry _ _ _ => exact absurd hname hentry.ne_dots

theorem of_not_link (h : Walk fs false used place names p)
    (hp : ∀ target, fs.node? p ≠ some (.link target)) : Walk fs last used place names p := by
  induction h with
  | here place => exact .here place
  | dot hplace _ ih => exact .dot hplace (ih hp)
  | dots hplace _ ih => exact .dots hplace (ih hp)
  | stop hplace hname hnode =>
    refine .stop hplace hname (.inl (hnode.resolve_right ?_))
    rintro ⟨-, target, hlink⟩
    exact hp target hlink
  | into hplace hname hnode hlink _ ih => exact .into hplace hname hnode hlink (ih hp)
  | link hplace hname hnode hmore _ ih =>
    refine .link hplace hname hnode (fun hnil => ?_) (ih hp)
    cases hmore hnil

end Walk

theorem locate_of_not_link {path : String} (h : fs.locate false path = .ok p)
    (hp : ∀ target, fs.node? p ≠ some (.link target)) : fs.locate last path = .ok p := by
  obtain ⟨hnul, hempty, hfollow⟩ := locate_eq_ok_iff.1 h
  obtain ⟨used, hused, walk⟩ := walk_of_follow hfollow
  exact locate_eq_ok_iff.2 ⟨hnul, hempty, (walk.of_not_link hp).follow hused⟩

theorem isDirectory_of_locate {path : String}
    (hpath : (route fs.home path).names = names ++ ["."]) (h : fs.locate last path = .ok p) :
    fs.isDirectory p = true := by
  obtain ⟨-, -, hfollow⟩ := locate_eq_ok_iff.1 h
  obtain ⟨used, hused, walk⟩ := walk_of_follow hfollow
  rw [hpath] at walk
  obtain ⟨u, v, d, -, -, hlast⟩ := walk.split (.inl (by simp))
  obtain ⟨hdir, rfl⟩ := hlast.singleton_dot rfl
  exact hdir

theorem locate_of_dots {path : String} (hpath : (route fs.home path).names = names ++ [".."])
    (h : fs.locate false path = .ok p) : fs.locate last path = .ok p := by
  obtain ⟨hnul, hempty, hfollow⟩ := locate_eq_ok_iff.1 h
  obtain ⟨used, hused, walk⟩ := walk_of_follow hfollow
  rw [hpath] at walk
  obtain ⟨u, v, d, huv, hfirst, hlast⟩ := walk.split (.inl (by simp))
  obtain ⟨hdir, rfl, rfl⟩ := hlast.singleton_dots rfl
  refine locate_eq_ok_iff.2 ⟨hnul, hempty, ?_⟩
  rw [hpath]
  exact (hfirst.append (.dots hdir (.here _)) (.inl (by simp))).follow (huv ▸ hused)

end ClusterCerts.Files
