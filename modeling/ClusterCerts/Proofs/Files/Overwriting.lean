import ClusterCerts.Proofs.Files.Drafts

/-!
# Overwriting a file as a whole

New content is written to the draft of a file, and the draft takes the place of the file. If that
succeeds and the draft was not the file itself, the path leads to the new content, the draft is
gone, and no path that leads past the two leads anywhere else than before. From then on content
can be overwritten again and again.
-/

namespace ClusterCerts.Files

open ClusterCerts.Path

variable {fs fs' fs₁ fs₂ : Files} {S : Place → Prop} {path dir name sibling : String}
  {d p W : Place} {content : Bytes}

theorem write_ok (h : fs.write path content = .ok fs') :
    endsInSlash path = false ∧ ∃ p isPrivate, fs.locate true path = .ok p ∧ fs.AtMostFile p ∧
      fs' = fs.put p (.file content isPrivate) := by
  rw [write] at h
  split at h
  · -- a path that ends in a slash is refused in any case
    simp only [bind, Except.bind] at h
    split at h <;> cases h
  · next hslash =>
    refine ⟨by simpa using hslash, ?_⟩
    simp only [bind, Except.bind, pure, Except.pure] at h
    split at h
    · cases h
    · next p hp =>
      split at h
      · next old isPrivate hnode =>
        exact ⟨p, isPrivate, hp, atMostFile_of_file hnode, (Except.ok.inj h).symm⟩
      · next hnode => exact ⟨p, false, hp, atMostFile_of_none hnode, (Except.ok.inj h).symm⟩
      · cases h

def unslashed (path : String) : String :=
  if endsInSlash path then String.ofList path.toList.dropLast else path

theorem rename_ok {source target : String} (h : fs.rename source target = .ok fs')
    (hsource : ∀ p, fs.locate false source = .ok p → fs.isDirectory p = false) :
    ∃ place node goal, fs.locate false source = .ok place ∧ fs.node? place = some node ∧
      fs.locate false (unslashed target) = .ok goal ∧ fs.isDirectory goal = false ∧
      (place = goal ∧ fs' = fs ∨
        place ≠ goal ∧ endsInSlash target = false ∧ fs' = fs.relocate place goal node) := by
  simp only [rename, bind, Except.bind] at h
  split at h
  · cases h
  · next found hlookup =>
    obtain ⟨place, node⟩ := found
    dsimp only at h
    obtain ⟨hlocate, hnode⟩ := lookup_eq_ok_iff.1 hlookup
    have hplace := hsource place hlocate
    have hsome : node ≠ .directory := by
      rintro rfl
      simp [isDirectory, hnode] at hplace
    split at h
    · cases h
    · next goal hgoal =>
      refine ⟨place, node, goal, hlocate, hnode, hgoal, ?_⟩
      by_cases hsame : place = goal
      · rw [if_pos hsame] at h
        exact ⟨hsame ▸ hplace, .inl ⟨hsame, (Except.ok.inj h).symm⟩⟩
      · rw [if_neg hsame] at h
        split at h
        · exact absurd rfl hsome
        · exact absurd rfl hsome
        · exact absurd rfl hsome
        · split at h <;> cases h
        · next hother _ _ _ =>
          split at h
          · cases h
          · next hslash =>
            refine ⟨?_, .inr ⟨hsame, by simpa using hslash, (Except.ok.inj h).symm⟩⟩
            rw [isDirectory, decide_eq_false_iff_not]
            exact hother

theorem unslashed_of_endsInSlash (h : endsInSlash path = true) : path = unslashed path ++ "/" := by
  obtain ⟨before, hbefore⟩ := List.getLast?_eq_some_iff.1 (of_decide_eq_true h)
  rw [unslashed, if_pos h, ← String.toList_inj, String.toList_append, hbefore]
  simp

theorem unslashed_of_not (h : endsInSlash path = false) : unslashed path = path := by
  rw [unslashed, if_neg (by simp [h])]

theorem draft_unslashed (h : endsInSlash (draft path) = false) :
    draft path = draft (unslashed path) := by
  cases hslash : endsInSlash path with
  | false => rw [unslashed_of_not hslash]
  | true =>
    have hpath := unslashed_of_endsInSlash hslash
    rcases draft_append_slash (unslashed path) with hdraft | hdraft
    · rwa [← hpath] at hdraft
    · rw [← hpath] at hdraft
      rw [hdraft, hslash] at h
      cases h

theorem endsInSlash_of_nameless (h : endsInSlash (draft path) = false)
    (hname : Nameless (lastPart (unslashed path).toList).2) : endsInSlash path = false := by
  cases hslash : endsInSlash path with
  | false => rfl
  | true =>
    have hpath := unslashed_of_endsInSlash hslash
    have hlast : lastPart path.toList = lastPart (unslashed path).toList := by
      conv => lhs; rw [hpath, String.toList_append]
      exact lastPart_append_slash _
    rw [draft_of_nameless (hlast ▸ hname), hslash] at h
    cases h

structure Slot (fs : Files) (path dir name sibling : String) (d : Place) : Prop where
  entry : Entry path dir name sibling
  fileName : FileName name
  fileSibling : FileName sibling
  leads : fs.Leads dir d

namespace Slot

variable (h : fs.Slot path dir name sibling d)
include h

theorem ne : d ++ [.text name] ≠ d ++ [.text sibling] := by simpa using h.entry.ne

theorem locate_entry : fs.locate false path = .ok (d ++ [.text name]) := by
  rw [h.entry.eq_join]
  exact h.leads.locate_entry h.fileName fun hlast => Bool.noConfusion hlast

theorem locate_draft : fs.locate false (draft path) = .ok (d ++ [.text sibling]) := by
  rw [h.entry.draft_eq]
  exact h.leads.locate_entry h.fileSibling fun hlast => Bool.noConfusion hlast

end Slot

theorem isDirectory_eq_false_of_locate (h : fs.locate false path = .ok p)
    (h' : fs.locate true path = .ok W) (hW : fs.isDirectory W = false) :
    fs.isDirectory p = false := by
  cases hdir : fs.isDirectory p with
  | false => rfl
  | true =>
    have hlink : ∀ target, fs.node? p ≠ some (.link target) := by
      intro target hlink
      simp [isDirectory, hlink] at hdir
    obtain rfl : p = W := Except.ok.inj ((locate_of_not_link h hlink).symm.trans h')
    exact hdir.symm.trans hW

theorem slot_of_overwrite (hwrite : fs.write (draft path) content = .ok fs₁)
    (hrename : fs₁.rename (draft path) path = .ok fs₂)
    (hdraft : fs.LeadsPast (fun q => fs.locate false path = .ok q) (draft path) W) :
    ∃ dir name sibling d node isPrivate, fs.Slot path dir name sibling d ∧ fs.AtMostFile W ∧
      fs₁ = fs.put W (.file content isPrivate) ∧ fs₁.node? (d ++ [.text sibling]) = some node ∧
      node ≠ .directory ∧ fs₁.isDirectory (d ++ [.text name]) = false ∧
      fs₂ = fs₁.relocate (d ++ [.text sibling]) (d ++ [.text name]) node := by
  obtain ⟨hslash, W', isPrivate, hW', hfile, hput⟩ := write_ok hwrite
  obtain rfl : W' = W := Except.ok.inj (hW'.symm.trans hdraft.locate)
  have hdiffers : DiffersInFiles (· = W') fs fs₁ := hput ▸ differs_put hfile content isPrivate
  have hsource : ∀ p, fs₁.locate false (draft path) = .ok p → fs₁.isDirectory p = false :=
    fun p hp => isDirectory_eq_false_of_locate hp (hdiffers.locate hW')
      (hdiffers.after W' rfl).isDirectory_eq_false
  obtain ⟨place, node, goal, hplace, hnode, hgoal, hdir, hrenamed⟩ := rename_ok hrename hsource
  have hplace₀ := hdiffers.symm.locate hplace
  have hgoal₀ := hdiffers.symm.locate hgoal
  rcases path_cases (unslashed path) with hempty | ⟨names, hnames⟩ | ⟨hname, dir, hdots⟩ |
    ⟨dir, name, sibling, hentry⟩
  · exact absurd hempty (locate_eq_ok_iff.1 hgoal).2.1
  · rw [isDirectory_of_locate (hnames fs₁.home) hgoal] at hdir
    cases hdir
  · -- the draft is the path itself, which leads to the same place also through a link
    have hpath := unslashed_of_not (endsInSlash_of_nameless hslash hname)
    rw [hpath] at hname hdots hgoal₀
    have hroute := congrArg Route.names (route_join fs.home dir
      (show PathPart ".." from ⟨by decide, by decide⟩))
    rw [← hdots] at hroute
    have hlocate := hdraft.locate
    rw [draft_of_nameless hname, locate_of_dots hroute hgoal₀] at hlocate
    exact absurd (Except.ok.inj hlocate ▸ hgoal₀) hdraft.apart
  · have hdraftEq : draft path = Path.join dir sibling :=
      (draft_unslashed hslash).trans hentry.draft_eq
    rw [hdraftEq] at hplace₀
    rw [hentry.eq_join] at hgoal₀
    obtain ⟨d, hd, hsibling, hp | ⟨hlast, -⟩⟩ := leads_of_locate hentry.plainSibling hplace₀
    · obtain ⟨d', hd', hname, hg | ⟨hlast, -⟩⟩ := leads_of_locate hentry.plainName hgoal₀
      · obtain rfl := hd.unique hd'
        have hne : place ≠ goal := by
          rw [hp, hg]
          simpa using hentry.ne.symm
        obtain ⟨-, hnoSlash, hrelocate⟩ := hrenamed.resolve_left fun h => hne h.1
        rw [unslashed_of_not hnoSlash] at hentry
        have hsome : node ≠ .directory := by
          rintro rfl
          simpa [isDirectory, hnode] using hsource place hplace
        subst hp hg
        exact ⟨dir, name, sibling, d, node, isPrivate, ⟨hentry, hname, hsibling, hd⟩, hfile, hput,
          hnode, hsome, hdir, hrelocate⟩
      · cases hlast
    · cases hlast

def without (fs : Files) (p : Place) : Files := { fs with nodes := fs.nodes.erase p }

theorem node?_without (hp : p ≠ []) (q : Place) :
    (fs.without p).node? q = if q = p then none else fs.node? q := by
  unfold node? without
  by_cases hq : q = p
  · rw [if_pos hq, if_neg (hq ▸ hp), hq, SortedMap.get?_erase, if_pos rfl]
  · rw [if_neg hq, SortedMap.get?_erase, if_neg hq]

theorem agrees_without (hp : p ≠ []) : AgreesOutside (· = p) fs (fs.without p) :=
  ⟨rfl, fun q hq => (node?_without hp q).trans (if_neg hq)⟩

/-- A draft leads to a place. Where things are going to change there is no directory, and no link
but perhaps the draft. -/
structure DraftLeads (fs : Files) (S : Place → Prop) (d : Place) (sibling : String) (W : Place) :
    Prop where
  sought : Sought sibling
  not_directory : ∀ q, S q → fs.isDirectory q = false
  only_link : ∀ q target, S q → fs.node? q = some (.link target) → q = d ++ [.text sibling]
  target : fs.isDirectory W = false
  walk : ∃ used, Walk fs true used d [sibling] W

namespace DraftLeads

variable (h : fs.DraftLeads S d sibling W) (hagrees : AgreesOutside S fs fs')
include h

theorem isDirectory : fs.isDirectory d = true := by
  obtain ⟨used, walk⟩ := h.walk
  exact walk.isDirectory_of_cons

theorem eq_of_link {d' : Place} {name' target target' : String}
    (hlink : fs.node? (d ++ [.text sibling]) = some (.link target)) (hd' : S (d' ++ [.text name']))
    (hlink' : fs.node? (d' ++ [.text name']) = some (.link target')) :
    d' = d ∧ target' = target := by
  have hplace := h.only_link _ target' hd' hlink'
  rw [hplace, hlink] at hlink'
  exact ⟨List.append_inj_left' hplace rfl, by simpa using hlink'.symm⟩

include hagrees

theorem walk_directory {used : Nat} {place : Place} {names : List String}
    (walk : Walk fs true used place names d) : Walk fs' true used place names d := by
  have hd : ¬ S d := fun hd => by
    have hdir := h.isDirectory
    rw [h.not_directory d hd] at hdir
    cases hdir
  rcases hagrees.walk_or_link h.not_directory walk (fun hS => absurd hS hd) with
    walk' | ⟨d', name', target, u, r, hd', hlink, -, rest⟩
  · exact walk'
  · -- it would pass through the draft, which leads to where no directory is
    obtain ⟨v, draft⟩ := h.walk
    have hplace := h.only_link _ target hd' hlink
    obtain ⟨rfl, hname⟩ := List.append_inj' hplace rfl
    obtain rfl : name' = sibling := by simpa using hname
    obtain ⟨k, -, onward⟩ := draft.of_link ⟨h.sought.ne_dot, h.sought.ne_dots⟩ hlink rfl
    obtain ⟨u₁, u₂, q, -, first, second⟩ := rest.split (.inr rfl)
    obtain rfl := first.unique onward
    obtain ⟨-, rfl⟩ := second.eq_of_isDirectory_eq_false h.target
    exact absurd (h.target.symm.trans h.isDirectory) (by simp)

theorem walk_target {target : String}
    (hlink : fs.node? (d ++ [.text sibling]) = some (.link target))
    (hW : fs'.AtMostFile W) {used : Nat}
    (walk : Walk fs true used (route d target).start (route d target).names W) :
    ∃ v ≤ used, Walk fs' true v (route d target).start (route d target).names W := by
  -- a walk that comes back to the draft goes on from there as before, with fewer links left
  induction used using Nat.strongRecOn with
  | ind used ih =>
    rcases hagrees.walk_or_link h.not_directory walk (fun _ => hW) with
      walk' | ⟨d', name', target', u, r, hd', hlink', hu, rest⟩
    · exact ⟨used, Nat.le_refl used, walk'⟩
    · obtain ⟨rfl, rfl⟩ := h.eq_of_link hlink hd' hlink'
      obtain ⟨u₁, u₂, q, hsum, again, -⟩ := rest.split (.inr rfl)
      obtain rfl := again.unique walk
      obtain ⟨v, hv, walk'⟩ := ih u₁ (by omega) again
      exact ⟨v, by omega, walk'⟩

theorem isDirectory_of_agrees : fs'.isDirectory d = true := by
  have hdir := h.isDirectory
  have hd : ¬ S d := fun hd => by
    rw [h.not_directory d hd] at hdir
    cases hdir
  rw [Files.isDirectory, hagrees.same d hd]
  exact hdir

theorem walk_entry {name : String} {node : FileNode} (hname : Sought name)
    (hentry : fs'.node? (d ++ [.text name]) = some node) {isPrivate : Bool}
    (hfile : W = d ++ [.text sibling] → node = .file content isPrivate)
    (hlinked : W ≠ d ++ [.text sibling] → fs.node? (d ++ [.text sibling]) = some node ∧
      fs'.node? W = some (.file content isPrivate)) {used : Nat}
    (walk : Walk fs true used d [sibling] W) :
    ∃ p, ∃ v ≤ used, Walk fs' true v d [name] p ∧ fs'.node? p = some (.file content isPrivate) := by
  have hdir := h.isDirectory_of_agrees hagrees
  by_cases hW : W = d ++ [.text sibling]
  · have hnode := hentry.trans (congrArg some (hfile hW))
    exact ⟨d ++ [.text name], 0, Nat.zero_le used,
      .last_name hname hdir fun _ => (atMostFile_of_file hnode).not_link, hnode⟩
  · obtain ⟨hsource, hnode⟩ := hlinked hW
    obtain ⟨-, -, hp | ⟨-, target, hlink⟩⟩ :=
      walk.singleton_cases ⟨h.sought.ne_dot, h.sought.ne_dots⟩
    · exact absurd hp hW
    · have hlink' : fs'.node? (d ++ [.text name]) = some (.link target) := by
        rw [hentry, ← hsource, hlink]
      obtain ⟨k, rfl, onward⟩ := walk.of_link ⟨h.sought.ne_dot, h.sought.ne_dots⟩ hlink rfl
      obtain ⟨k', hk', onward'⟩ := h.walk_target hagrees hlink (atMostFile_of_file hnode) onward
      refine ⟨W, k' + 1, by omega, .link hdir hname hlink' (fun _ => rfl) ?_, hnode⟩
      rwa [List.append_nil]

end DraftLeads

theorem Leads.locate_of_walk {u v : Nat} (hplain : FileName name)
    (hnul : '\x00' ∉ dir.toList) (huv : u + v ≤ maxLinks)
    (first : Walk fs true u (if Path.isAbsolute dir then [] else fs.home)
      ((Path.parts dir).map String.ofList) d) (second : Walk fs true v d [name] p) :
    fs.locate true (Path.join dir name) = .ok p := by
  refine locate_eq_ok_iff.2 ⟨?_, join_ne_empty dir hplain.toPathPart, ?_⟩
  · rw [nul_mem_join, not_or]
    exact ⟨hnul, hplain.no_nul⟩
  · simp only [route_join fs.home dir hplain.toPathPart]
    exact (first.append second (.inl (by simp))).follow huv

theorem Leads.walk_of_locate (hplain : FileName name)
    (h : fs.locate true (Path.join dir name) = .ok p) :
    ∃ u v d, u + v ≤ maxLinks ∧ fs.Leads dir d ∧ Walk fs true u
      (if Path.isAbsolute dir then [] else fs.home) ((Path.parts dir).map String.ofList) d ∧
      Walk fs true v d [name] p := by
  obtain ⟨hnul, -, hfollow⟩ := locate_eq_ok_iff.1 h
  simp only [route_join fs.home dir hplain.toPathPart] at hfollow
  rw [nul_mem_join, not_or] at hnul
  obtain ⟨used, hused, walk⟩ := walk_of_follow hfollow
  obtain ⟨u, v, d, huv, first, second⟩ := walk.split (.inl (by simp))
  exact ⟨u, v, d, by omega, ⟨hnul.1, first.follow (by omega), second.isDirectory_of_cons⟩, first,
    second⟩

structure Overwritten (fs : Files) (path : String) (content : Bytes) (dir name sibling : String)
    (d : Place) : Prop where
  slot : fs.Slot path dir name sibling d
  no_draft : fs.node? (d ++ [.text sibling]) = none
  not_directory : fs.isDirectory (d ++ [.text name]) = false
  leads : ∀ fs', AgreesOutside (· = d ++ [.text name]) fs fs' → fs'.Leads dir d
  read : fs.read path = .ok content

theorem Slot.draftLeads (h : fs.Slot path dir name sibling d)
    (hdraft : fs.LeadsPast (· = d ++ [.text name]) (draft path) W) (hfile : fs.AtMostFile W) :
    ∃ u v, u + v ≤ maxLinks ∧
      (fs.without (d ++ [.text name])).DraftLeads
        (fun q => q = d ++ [.text name] ∨ q = d ++ [.text sibling] ∨ q = W) d sibling W ∧
      Walk (fs.without (d ++ [.text name])) true u (if Path.isAbsolute dir then [] else fs.home)
        ((Path.parts dir).map String.ofList) d ∧
      Walk (fs.without (d ++ [.text name])) true v d [sibling] W := by
  have hF : d ++ [.text name] ≠ [] := by simp
  have hnode (q : Place) : (fs.without (d ++ [.text name])).node? q = _ := node?_without hF q
  have hnone : (fs.without (d ++ [.text name])).AtMostFile (d ++ [.text name]) :=
    atMostFile_of_none (by rw [hnode, if_pos rfl])
  have hfile' : (fs.without (d ++ [.text name])).AtMostFile W := by
    intro node hW
    rw [hnode, if_neg hdraft.apart] at hW
    exact hfile node hW
  have hdir : (fs.without (d ++ [.text name])).isDirectory (d ++ [.text sibling]) = false := by
    rw [isDirectory, hnode, if_neg h.ne.symm]
    exact isDirectory_eq_false_of_locate h.locate_draft hdraft.locate hfile.isDirectory_eq_false
  have hlocate := hdraft.leads _ (agrees_without hF)
  rw [h.entry.draft_eq] at hlocate
  obtain ⟨u, v, d', huv, hleads, first, second⟩ := Leads.walk_of_locate h.fileSibling hlocate
  obtain rfl : d' = d := by
    refine (hleads.of_agrees (agrees_without hF).symm fun q hq => ?_).unique h.leads
    exact hq ▸ hnone
  refine ⟨u, v, huv, ⟨h.fileSibling.sought, ?_, ?_, hfile'.isDirectory_eq_false, v, second⟩,
    first, second⟩
  · rintro q (rfl | rfl | rfl)
    · exact hnone.isDirectory_eq_false
    · exact hdir
    · exact hfile'.isDirectory_eq_false
  · rintro q target (rfl | rfl | rfl) hq
    · exact absurd hq (hnone.not_link target)
    · rfl
    · exact absurd hq (hfile'.not_link target)

theorem Slot.overwritten (h : fs.Slot path dir name sibling d)
    (hdraft : fs.LeadsPast (· = d ++ [.text name]) (draft path) W) (hfile : fs.AtMostFile W)
    {isPrivate : Bool} {node : FileNode} (hfs₁ : fs₁ = fs.put W (.file content isPrivate))
    (hnode : fs₁.node? (d ++ [.text sibling]) = some node) (hsome : node ≠ .directory)
    (hfs₂ : fs₂ = fs₁.relocate (d ++ [.text sibling]) (d ++ [.text name]) node) :
    fs₂.Overwritten path content dir name sibling d ∧
      AgreesOutside (fun q => q = d ++ [.text name] ∨ q = d ++ [.text sibling] ∨ q = W) fs fs₂ := by
  have hF : d ++ [.text name] ≠ [] := by simp
  have hnode₁ (q : Place) : fs₁.node? q = if q = W then some (.file content isPrivate)
      else fs.node? q := by rw [hfs₁, node?_put fs hfile.ne_nil]
  have hnode₂ (q : Place) : fs₂.node? q = if q = d ++ [.text name] then some node
      else if q = d ++ [.text sibling] then none else fs₁.node? q := by
    rw [hfs₂, node?_relocate (by simp) hF]
  have hagrees : AgreesOutside
      (fun q => q = d ++ [.text name] ∨ q = d ++ [.text sibling] ∨ q = W) fs fs₂ := by
    refine ⟨by rw [hfs₂, hfs₁]; rfl, fun q hq => ?_⟩
    rw [not_or, not_or] at hq
    rw [hnode₂, if_neg hq.1, if_neg hq.2.1, hnode₁, if_neg hq.2.2]
  have hentry : fs₂.node? (d ++ [.text name]) = some node := by rw [hnode₂, if_pos rfl]
  have hgone : fs₂.node? (d ++ [.text sibling]) = none := by
    rw [hnode₂, if_neg h.ne.symm, if_pos rfl]
  obtain ⟨u, v, huv, hway, first, second⟩ := h.draftLeads hdraft hfile
  have hwithout : AgreesOutside (· = d ++ [.text name]) fs (fs.without (d ++ [.text name])) :=
    agrees_without hF
  have hagrees₀ := (hwithout.symm.mono fun q hq => .inl hq).trans hagrees
  have hdirect : W = d ++ [.text sibling] → node = .file content isPrivate := by
    rintro rfl
    rw [hnode₁, if_pos rfl] at hnode
    exact (Option.some.inj hnode).symm
  have hlinked : W ≠ d ++ [.text sibling] →
      (fs.without (d ++ [.text name])).node? (d ++ [.text sibling]) = some node ∧
        fs₂.node? W = some (.file content isPrivate) := by
    intro hW
    rw [hnode₁, if_neg (Ne.symm hW)] at hnode
    rw [node?_without hF, if_neg h.ne.symm, hnode₂, if_neg hdraft.apart, if_neg hW, hnode₁,
      if_pos rfl]
    exact ⟨hnode, rfl⟩
  obtain ⟨p, v', hv', second', hp⟩ :=
    hway.walk_entry hagrees₀ h.fileName.sought hentry hdirect hlinked second
  have hleads : ∀ fs', AgreesOutside (· = d ++ [.text name]) fs₂ fs' → fs'.Leads dir d := by
    intro fs' hfs'
    have hall := hagrees₀.trans (hfs'.mono fun q hq => .inl hq)
    have first' := hway.walk_directory hall first
    rw [← hagrees.home, ← hfs'.home] at first'
    exact ⟨h.leads.no_nul, first'.follow (by omega), hway.isDirectory_of_agrees hall⟩
  have hpath : fs₂.locate true path = .ok p := by
    have first' := hway.walk_directory hagrees₀ first
    rw [← hagrees.home] at first'
    rw [h.entry.eq_join]
    exact Leads.locate_of_walk h.fileName h.leads.no_nul (by omega) first' second'
  refine ⟨⟨⟨h.entry, h.fileName, h.fileSibling, hleads fs₂ (.refl _ fs₂)⟩, hgone, ?_, hleads,
    read_of_locate hpath hp⟩, hagrees⟩
  rw [isDirectory, hentry]
  simpa using hsome

/-- The places at which overwriting may change something: those of the entry and of the draft, and
the one to which the draft leads. -/
def Touched (fs : Files) (path : String) (q : Place) : Prop :=
  fs.locate false path = .ok q ∨ fs.locate false (draft path) = .ok q ∨
    fs.locate true (draft path) = .ok q

theorem overwritten_of_rename (hwrite : fs.write (draft path) content = .ok fs₁)
    (hrename : fs₁.rename (draft path) path = .ok fs₂)
    (hdraft : fs.LeadsPast (fun q => fs.locate false path = .ok q) (draft path) W) :
    ∃ dir name sibling d, fs₂.Overwritten path content dir name sibling d ∧
      AgreesOutside (fs.Touched path) fs fs₂ := by
  obtain ⟨dir, name, sibling, d, node, isPrivate, hslot, hfile, hfs₁, hnode, hsome, -, hfs₂⟩ :=
    slot_of_overwrite hwrite hrename hdraft
  have hentry : (fun q => fs.locate false path = .ok q) = (· = d ++ [.text name]) := by
    funext q
    rw [hslot.locate_entry, Except.ok.injEq]
    exact propext eq_comm
  rw [hentry] at hdraft
  obtain ⟨hover, hagrees⟩ := hslot.overwritten hdraft hfile hfs₁ hnode hsome hfs₂
  refine ⟨dir, name, sibling, d, hover, hagrees.mono ?_⟩
  rintro q (rfl | rfl | rfl)
  · exact .inl hslot.locate_entry
  · exact .inr (.inl hslot.locate_draft)
  · exact .inr (.inr hdraft.locate)

theorem Slot.overwrite (h : fs.Slot path dir name sibling d)
    (hfile : fs.AtMostFile (d ++ [.text sibling]))
    (hentry : fs.isDirectory (d ++ [.text name]) = false)
    (content : Bytes) :
    ∃ isPrivate fs₁ fs₂, fs.write (draft path) content = .ok fs₁ ∧
      fs₁.rename (draft path) path = .ok fs₂ ∧
      fs₁ = fs.put (d ++ [.text sibling]) (.file content isPrivate) ∧
      fs₂ = fs₁.relocate (d ++ [.text sibling]) (d ++ [.text name]) (.file content isPrivate) := by
  obtain ⟨isPrivate, hwrite⟩ := h.leads.write h.fileSibling hfile content
  rw [← h.entry.draft_eq] at hwrite
  have hdiffers := differs_put hfile content isPrivate
  have hnode : (fs.put (d ++ [.text sibling]) (.file content isPrivate)).node?
      (d ++ [.text sibling]) =
      some (.file content isPrivate) := by rw [node?_put fs hfile.ne_nil, if_pos rfl]
  have hgoal : (fs.put (d ++ [.text sibling]) (.file content isPrivate)).isDirectory
      (d ++ [.text name]) =
      false := by
    rw [isDirectory, hdiffers.same _ h.ne]
    exact hentry
  have hrename := (h.leads.of_differs hdiffers).rename h.fileSibling h.fileName
    h.entry.ne.symm hnode (by simp) hgoal
  rw [← h.entry.draft_eq, ← h.entry.eq_join] at hrename
  exact ⟨isPrivate, _, _, hwrite, hrename, rfl, rfl⟩

theorem Overwritten.overwrite {old : Bytes} (h : fs.Overwritten path old dir name sibling d)
    (content : Bytes) :
    ∃ fs₁ fs₂, fs.write (draft path) content = .ok fs₁ ∧
      fs₁.rename (draft path) path = .ok fs₂ ∧
      fs₂.Overwritten path content dir name sibling d := by
  have hslot := h.slot
  have hfile := atMostFile_of_none h.no_draft
  obtain ⟨isPrivate, fs₁, fs₂, hwrite, hrename, rfl, rfl⟩ :=
    hslot.overwrite hfile h.not_directory content
  have hnode : (fs.put (d ++ [.text sibling]) (.file content isPrivate)).node?
      (d ++ [.text sibling]) =
      some (.file content isPrivate) := by rw [node?_put fs hfile.ne_nil, if_pos rfl]
  have hpast : fs.LeadsPast (· = d ++ [.text name]) (draft path) (d ++ [.text sibling]) := by
    refine ⟨hslot.ne.symm, fun fs' hfs' => ?_⟩
    have hnone : fs'.node? (d ++ [.text sibling]) = none :=
      (hfs'.same _ hslot.ne.symm).trans h.no_draft
    rw [hslot.entry.draft_eq]
    exact (h.leads fs' hfs').locate hslot.fileSibling (atMostFile_of_none hnone)
  exact ⟨_, _, hwrite, hrename, (hslot.overwritten hpast hfile rfl hnode (by simp) rfl).1⟩

theorem Leads.present_of_circle (hd : fs.Leads dir d) (hname : FileName name) {target : String}
    (hlink : fs.node? (d ++ [.text name]) = some (.link target))
    (hroute : route d target = ⟨d, [name]⟩) :
    fs.present (Path.join dir name) = false := by
  rw [Files.present]
  cases hlookup : fs.lookup true (Path.join dir name) with
  | error fault => rfl
  | ok found =>
    obtain ⟨-, v, d', -, hd', -, walk⟩ := Leads.walk_of_locate hname (lookup_eq_ok_iff.1 hlookup).1
    obtain rfl := hd.unique hd'
    exact absurd walk (Walk.not_circle hname.sought hlink hroute)

end ClusterCerts.Files
