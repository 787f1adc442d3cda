import ClusterCerts.Proofs.Files.Overwriting

/-!
# Files without links

Where there are files and directories alone, a path and its draft never lead to the same file.
Overwriting by way of the draft then changes all that it should or nothing but the draft, whatever
the path is and wherever it leads.
-/

namespace ClusterCerts.Files

open ClusterCerts.Path

variable {fs fs' fs₁ fs₂ : Files} {last last' : Bool} {path dir name : String}
  {names : List String} {p W : Place} {content : Bytes}

/-- Files and directories alone, and each of them in a directory. -/
structure Tree (fs : Files) : Prop where
  not_link : ∀ p target, fs.node? p ≠ some (.link target)
  parent : ∀ p name, (fs.node? (p ++ [name])).isSome = true → fs.isDirectory p = true

structure Kept (fs fs' : Files) (path : String) : Prop where
  read : ∀ content, fs'.read path = .ok content ↔ fs.read path = .ok content
  others : AgreesOutside (fun p => fs.locate true (draft path) = .ok p) fs fs'

structure Replaced (fs fs' : Files) (path : String) (content : Bytes) : Prop where
  read : fs'.read path = .ok content
  no_draft : fs'.present (draft path) = false
  others : AgreesOutside
    (fun p => fs.locate true path = .ok p ∨ fs.locate true (draft path) = .ok p) fs fs'

theorem Kept.refl (fs : Files) (path : String) : fs.Kept fs path :=
  ⟨fun _ => .rfl, .refl _ fs⟩

namespace Tree

variable (h : fs.Tree)
include h

theorem isDirectory_dropLast (hp : fs.isDirectory p = true) : fs.isDirectory p.dropLast = true := by
  rcases List.eq_nil_or_concat p with rfl | ⟨q, name, rfl⟩
  · exact hp
  · rw [List.concat_eq_append, List.dropLast_concat]
    apply h.parent q name
    rw [← List.concat_eq_append, of_decide_eq_true hp]
    rfl

theorem isDirectory_of_dots (hpath : (route fs.home path).names = names ++ [".."])
    (hp : fs.locate last path = .ok p) : fs.isDirectory p = true := by
  obtain ⟨-, -, hfollow⟩ := locate_eq_ok_iff.1 hp
  obtain ⟨used, hused, walk⟩ := walk_of_follow hfollow
  rw [hpath] at walk
  obtain ⟨u, v, d, -, -, hlast⟩ := walk.split (.inl (by simp))
  obtain ⟨hdir, -, rfl⟩ := hlast.singleton_dots rfl
  exact h.isDirectory_dropLast hdir

theorem leads_of_locate (hname : PlainName name)
    (hp : fs.locate last (Path.join dir name) = .ok p) :
    ∃ d, fs.Leads dir d ∧ p = d ++ [.text name] := by
  obtain ⟨d, hd, -, hp | ⟨-, target, hlink⟩⟩ := Files.leads_of_locate hname hp
  · exact ⟨d, hd, hp⟩
  · exact absurd hlink (h.not_link _ target)

theorem locate_ne_draft (hdraft : fs.locate last (draft path) = .ok W)
    (hfile : fs.isDirectory W = false) : fs.locate last' path ≠ .ok W := by
  intro hpath
  have hdirectory : fs.isDirectory W ≠ true := by simp [hfile]
  rcases path_cases path with rfl | ⟨names, hnames⟩ | ⟨-, dir, hdots⟩ | ⟨dir, name, sibling, hentry⟩
  · exact (locate_eq_ok_iff.1 hpath).2.1 rfl
  · exact hdirectory (isDirectory_of_locate (hnames fs.home) hpath)
  · have hroute := congrArg Route.names (route_join fs.home dir
      (show PathPart ".." from ⟨by decide, by decide⟩))
    rw [← hdots] at hroute
    exact hdirectory (h.isDirectory_of_dots hroute hpath)
  · rw [hentry.draft_eq] at hdraft
    rw [hentry.eq_join] at hpath
    obtain ⟨d, hd, rfl⟩ := h.leads_of_locate hentry.plainSibling hdraft
    obtain ⟨d', hd', heq⟩ := h.leads_of_locate hentry.plainName hpath
    obtain rfl := hd.unique hd'
    exact hentry.ne (by simpa using heq.symm)

theorem locate_of_false (hp : fs.locate false path = .ok p) : fs.locate last path = .ok p :=
  locate_of_not_link hp (h.not_link p)

theorem kept_of_write (hwrite : fs.write (draft path) content = .ok fs₁) : fs.Kept fs₁ path := by
  obtain ⟨-, W, isPrivate, hW, hfile, rfl⟩ := write_ok hwrite
  have hdiffers := differs_put hfile content isPrivate
  have hapart {p : Place} (hp : fs.locate true path = .ok p) : p ≠ W := by
    rintro rfl
    exact h.locate_ne_draft hW hfile.isDirectory_eq_false hp
  refine ⟨fun found => ?_, hdiffers.toAgreesOutside.mono fun p hp => hp ▸ hW⟩
  rw [read_eq_ok_iff, read_eq_ok_iff]
  refine exists_congr fun p => exists_congr fun _ => ⟨fun hread => ?_, fun hread => ?_⟩
  · exact hdiffers.symm.lookup hread
      (hapart (hdiffers.symm.locate (lookup_eq_ok_iff.1 hread).1))
  · exact hdiffers.lookup hread (hapart (lookup_eq_ok_iff.1 hread).1)

theorem leadsPast_draft (hwrite : fs.write (draft path) content = .ok fs₁)
    (hrename : fs₁.rename (draft path) path = .ok fs₂) :
    ∃ W, fs.LeadsPast (fun q => fs.locate false path = .ok q) (draft path) W := by
  obtain ⟨hslash, W, isPrivate, hW, hfile, rfl⟩ := write_ok hwrite
  have hdiffers := differs_put hfile content isPrivate
  have hsource (p : Place) (hp : (fs.put W (.file content isPrivate)).locate false (draft path) =
      .ok p) : p = W :=
    Except.ok.inj ((h.locate_of_false (hdiffers.symm.locate hp)).symm.trans hW)
  obtain ⟨place, node, goal, hplace, -, hgoal, hdir, hrenamed⟩ := rename_ok hrename
    fun p hp => hsource p hp ▸ (hdiffers.after W rfl).isDirectory_eq_false
  obtain rfl := hsource place hplace
  have hgoal₀ := hdiffers.symm.locate hgoal
  have hne : place ≠ goal := by
    rintro rfl
    rw [draft_unslashed hslash] at hW
    exact h.locate_ne_draft hW hfile.isDirectory_eq_false hgoal₀
  obtain ⟨-, hnoSlash, -⟩ := hrenamed.resolve_left fun hsame => hne hsame.1
  rw [unslashed_of_not hnoSlash] at hgoal₀
  have hgoal_file : fs.AtMostFile goal := by
    intro node hnode
    rw [isDirectory, hdiffers.same goal hne.symm, hnode, decide_eq_false_iff_not] at hdir
    cases node with
    | directory => exact absurd rfl hdir
    | link target => exact absurd hnode (h.not_link goal target)
    | file old isPrivate => exact ⟨old, isPrivate, rfl⟩
  have hentry {q : Place} (hq : fs.locate false path = .ok q) : q = goal :=
    Except.ok.inj (hq.symm.trans hgoal₀)
  exact ⟨place, leadsPast_of_locate (fun q hq => hentry hq ▸ hgoal_file) hW
    fun hq => hne (hentry hq)⟩

theorem replaced_of_rename (hwrite : fs.write (draft path) content = .ok fs₁)
    (hrename : fs₁.rename (draft path) path = .ok fs₂) : fs.Replaced fs₂ path content := by
  obtain ⟨W, hpast⟩ := h.leadsPast_draft hwrite hrename
  obtain ⟨dir, name, sibling, d, hover, hagrees⟩ := overwritten_of_rename hwrite hrename hpast
  refine ⟨hover.read, ?_, hagrees.mono ?_⟩
  · rw [hover.slot.entry.draft_eq,
      hover.slot.leads.present hover.slot.fileSibling (atMostFile_of_none hover.no_draft),
      content?_of_none hover.no_draft]
    rfl
  · rintro q (hq | hq | hq)
    · exact .inl (h.locate_of_false hq)
    · exact .inr (h.locate_of_false hq)
    · exact .inr hq

end Tree

end ClusterCerts.Files
