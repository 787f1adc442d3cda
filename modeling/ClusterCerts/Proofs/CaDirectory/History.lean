import ClusterCerts.Proofs.CaDirectory.Pruning
import ClusterCerts.Proofs.CaDirectory.Replacement
import ClusterCerts.Proofs.Commands.Alike

/-!
# What a CA directory can become

A directory that was empty or missing is used for creations and prunings alone, of which any may
fail. Then it never holds anything but files with the names of one CA, and its certificate never
stands beside the key of another. The invariant is about the directory as it is once it is made, so
it holds of one that is still missing as well.
-/

namespace ClusterCerts.CaDirectory

open Session Workspace

variable {dir name : String} {d p q : Place} {days : UInt32} {force selfManaged : Bool}
  {fs fs' made : Files} {w w' : World} {last : Option Authority} {t : Instant}

/-- The directory is empty or missing: once it is made, nothing is in it. -/
def Vacant (fs : Files) (dir : String) : Prop :=
  ∀ made d, fs.makeDirectories dir = .ok made → made.Leads dir d →
    ∀ q, q ≠ [] → made.node? (d ++ q) = none

theorem vacant_iff_of_leads (hd : fs.Leads dir d) :
    Vacant fs dir ↔ ∀ q, q ≠ [] → fs.node? (d ++ q) = none := by
  constructor
  · intro h
    exact h fs d hd.makeDirectories hd
  · intro h made d' hmade hd'
    obtain rfl := Except.ok.inj (hd.makeDirectories.symm.trans hmade)
    obtain rfl := hd.unique hd'
    exact h

theorem vacant_of_missing (hd : fs.Leads dir d) (hname : Files.FileName name)
    (h : ∀ q, fs.node? (d ++ .text name :: q) = none) : Vacant fs (Path.join dir name) := by
  obtain ⟨hmade, hleads⟩ := hd.makeDirectories_entry hname (h [])
  intro made d' hmade' hd' q hq
  obtain rfl := Except.ok.inj (hmade.symm.trans hmade')
  obtain rfl := hleads.unique hd'
  rw [Files.node?_put fs (by simp), if_neg (by simpa using hq), List.append_assoc]
  exact h q

def FourDigitYear (t : Instant) : Prop := 0 ≤ t.year ∧ t.year ≤ 9999

instance (t : Instant) : Decidable (FourDigitYear t) := inferInstanceAs (Decidable (_ ∧ _))

def lastAfter (name : String) (days : UInt32) (w : World) (last : Option Authority) :
    Except CommandError AuthorityReport → Option Authority
  | .ok _ => (Authority.create name days w.clock (drawn w)).result.toOption
  | .error _ => last

/-- Creations and prunings of a directory, one after the other, and the authority of the last
creation that succeeded. Any of them may fail. Each finds the files that the one before it left, but
any time, entropy and log, except that a creation is in a year of four digits. -/
inductive History (dir : String) (fs : Files) : Option Authority → Files → Prop
  | start : History dir fs none fs
  | create {last : Option Authority} {name : String} {days : UInt32} {force : Bool} {w w' : World}
      {r : Except CommandError AuthorityReport} (before : History dir fs last w.files)
      (hyear : FourDigitYear w.clock) (h : outcome (create dir name days force) w = (r, w')) :
      History dir fs (lastAfter name days w last r) w'.files
  | prune {last : Option Authority} {selfManaged : Bool} {w w' : World}
      {r : Except CommandError PruneReport} (before : History dir fs last w.files)
      (h : outcome (prune dir selfManaged) w = (r, w')) : History dir fs last w'.files

def CaName (name : String) : Prop :=
  name = currentCertEntry ∨ name = keyEntry ∨ ∃ t, FourDigitYear t ∧ name = Retired.name t

/-- The directory holds files of a CA and nothing else, and if there is a certificate, then it and
the key are those of the last authority that was created. -/
structure Tidy (fs : Files) (d : Place) (last : Option Authority) : Prop where
  entries : ∀ q, q ≠ [] → (fs.node? (d ++ q)).isSome = true →
    ∃ name, q = [.text name] ∧ CaName name ∧ fs.HasFile (d ++ [.text name])
  paired : ∀ cert, fs.content? (certPlace d) = some cert → ∃ a, last = some a ∧
    cert = Bytes.ofString a.certPem ∧ fs.content? (keyPlace d) = some a.privateKey.pem

def Sound (fs : Files) (dir : String) (last : Option Authority) : Prop :=
  ∀ made d, fs.makeDirectories dir = .ok made → made.Leads dir d → Tidy made d last

theorem sound_of_vacant (h : Vacant fs dir) : Sound fs dir none := by
  intro made d hmade hd
  have hempty := h made d hmade hd
  refine ⟨fun q hq hnode => ?_, fun cert hcert => ?_⟩
  · rw [hempty q hq] at hnode
    cases hnode
  · have hnone := Files.content?_of_none (hempty [currentCertEntry] (by simp))
    cases hnone.symm.trans hcert

theorem Sound.tidy (h : Sound fs dir last) (hd : fs.Leads dir d) : Tidy fs d last :=
  h fs d hd.makeDirectories hd

theorem Tidy.sound (h : Tidy fs d last) (hd : fs.Leads dir d) : Sound fs dir last := by
  intro made d' hmade hd'
  obtain rfl := Except.ok.inj (hd.makeDirectories.symm.trans hmade)
  obtain rfl := hd.unique hd'
  exact h

theorem CaName.fileName (h : CaName name) : Files.FileName name := by
  rcases h with rfl | rfl | ⟨t, -, rfl⟩
  · exact fileName_currentCertEntry
  · exact fileName_keyEntry
  · exact Retired.fileName_name t

theorem CaName.isName (h : CaName name) :
    name = currentCertEntry ∨ name = keyEntry ∨ Retired.isName name = true := by
  rcases h with rfl | rfl | ⟨t, ht, rfl⟩
  · exact .inl rfl
  · exact .inr (.inl rfl)
  · exact .inr (.inr (Retired.isName_name ht))

theorem Creates.exists_caName (h : Creates d t p) (ht : FourDigitYear t) :
    ∃ name, p = d ++ [.text name] ∧ CaName name := by
  rcases h with (rfl | rfl) | (rfl | rfl)
  · exact ⟨_, rfl, .inl rfl⟩
  · exact ⟨_, rfl, .inr (.inr ⟨t, ht, rfl⟩)⟩
  · exact ⟨_, rfl, .inl rfl⟩
  · exact ⟨_, rfl, .inr (.inl rfl)⟩

namespace Tidy

theorem atMostFile (h : Tidy fs d last) (name : String) : fs.AtMostFile (d ++ [.text name]) := by
  intro node hnode
  obtain ⟨name', hq, -, hfile⟩ := h.entries [name] (by simp) (by rw [hnode]; rfl)
  obtain rfl : name = name' := by simpa using hq
  exact hfile.atMostFile node hnode

theorem fileName (h : Tidy fs d last) (name : String) (hfile : fs.HasFile (d ++ [.text name])) :
    Files.FileName name := by
  obtain ⟨name', hq, hname, -⟩ := h.entries [name] (by simp) hfile.isSome
  obtain rfl : name = name' := by simpa using hq
  exact hname.fileName

theorem orderly (h : Tidy fs d last) (hd : fs.Leads dir d) : Orderly fs dir d where
  leads := hd
  own := by
    rintro p (rfl | rfl | ⟨t, rfl⟩)
    · exact h.atMostFile _
    · exact h.atMostFile _
    · exact h.atMostFile _

theorem entries_of_differs (h : Tidy fs d last) (ht : FourDigitYear t)
    (hdiffers : fs.DiffersInFiles (Creates d t) fs') (hq : q ≠ [])
    (hnode : (fs'.node? (d ++ q)).isSome = true) :
    ∃ name, q = [.text name] ∧ CaName name ∧ fs'.HasFile (d ++ [.text name]) := by
  by_cases hown : Creates d t (d ++ q)
  · obtain ⟨name, hplace, hname⟩ := hown.exists_caName ht
    obtain rfl : q = [.text name] := List.append_cancel_left hplace
    obtain ⟨node, hnode⟩ := Option.isSome_iff_exists.1 hnode
    obtain ⟨content, isPrivate, rfl⟩ := hdiffers.after _ hown node hnode
    exact ⟨name, rfl, hname, content, isPrivate, hnode⟩
  · have hsame := hdiffers.same _ hown
    rw [hsame] at hnode
    obtain ⟨name, rfl, hname, content, isPrivate, hfile⟩ := h.entries q hq hnode
    exact ⟨name, rfl, hname, content, isPrivate, hsame.trans hfile⟩

end Tidy

theorem outcome_create_refused (name : String) (days : UInt32)
    (hmade : w.files.makeDirectories dir = .ok made)
    (hpresent : made.present (certPath dir) = true) :
    outcome (create dir name days false) w =
      (.error (.authorityPresent dir), { w with files := made }) := by
  rw [create, outcome_bind, outcome_makeDirectories, hmade]
  simp only
  rw [outcome_bind, outcome_retireCert, if_pos hpresent]
  rfl

theorem Tidy.create {r : Except CommandError AuthorityReport} (h : Tidy made d last)
    (hd : made.Leads dir d) (hmade : w.files.makeDirectories dir = .ok made)
    (hyear : FourDigitYear w.clock) (hcreate : outcome (create dir name days force) w = (r, w')) :
    w'.files.Leads dir d ∧ Tidy w'.files d (lastAfter name days w last r) := by
  by_cases hforce : force = true ∨ made.content? (certPlace d) = none
  · obtain ⟨w'', houtcome, hdiffers, hnone, hinstalled⟩ :=
      outcome_create_orderly name days hmade (h.orderly hd) hforce
    obtain ⟨rfl, rfl⟩ := Prod.mk.inj (houtcome.symm.trans hcreate)
    refine ⟨hd.of_differs hdiffers, fun q => h.entries_of_differs hyear hdiffers,
      fun cert hcert => ?_⟩
    cases hresult : (Authority.create name days w.clock (drawn w)).result with
    | error e =>
      rw [hnone e hresult] at hcert
      cases hcert
    | ok a =>
      obtain ⟨hcurrent, hkey⟩ := hinstalled a hresult
      refine ⟨a, ?_, ?_, hkey⟩
      · simp [lastAfter, hresult, Except.map, Except.mapError, Except.toOption]
      · exact Option.some.inj (hcert.symm.trans hcurrent.current)
  · -- without force, a certificate that is there ends the creation
    obtain ⟨hforce, hcert⟩ := not_or.1 hforce
    obtain rfl : force = false := by simpa using hforce
    have hpresent : made.present (certPath dir) = true := by
      rw [certPath, hd.present fileName_currentCertEntry (h.atMostFile _)]
      exact Option.isSome_iff_ne_none.2 hcert
    obtain ⟨rfl, rfl⟩ :=
      Prod.mk.inj ((outcome_create_refused name days hmade hpresent).symm.trans hcreate)
    exact ⟨hd, h⟩

theorem locate_certPath_missing (h : ∀ d, ¬fs.Leads dir d) (p : Place) :
    fs.locate true (certPath dir) ≠ .ok p := by
  intro hp
  obtain ⟨d, hd, -⟩ := Files.leads_of_locate plainName_currentCertEntry hp
  exact h d hd

theorem outcome_retireCert_missing (h : ∀ d, ¬w.files.Leads dir d) (force : Bool) :
    outcome (retireCert dir force) w = (.ok none, w) := by
  have hpresent : w.files.present (certPath dir) = false := by
    rw [Files.present]
    cases hlookup : w.files.lookup true (certPath dir) with
    | error fault => rfl
    | ok found =>
      exact absurd (Files.lookup_eq_ok_iff.1 hlookup).1 (locate_certPath_missing h found.1)
  rw [outcome_retireCert, hpresent]
  rfl

theorem outcome_save_missing (h : ∀ d, ¬w.files.Leads dir d) (a : Authority) :
    ∃ e, outcome (save dir a) w = (.error e, w) := by
  rw [save, outcome_bind, outcome_write]
  cases hwrite : w.files.write (certPath dir) (Bytes.ofString a.certPem) with
  | error fault => exact ⟨_, rfl⟩
  | ok fs =>
    obtain ⟨-, p, -, hp, -⟩ := Files.write_ok hwrite
    exact absurd hp (locate_certPath_missing h p)

theorem files_of_create_missing {r : Except CommandError AuthorityReport}
    (hmade : w.files.makeDirectories dir = .ok made) (hmissing : ∀ d, ¬made.Leads dir d)
    (h : outcome (create dir name days force) w = (r, w')) : w'.files = made := by
  have hretire := outcome_retireCert_missing (w := { w with files := made }) hmissing force
  rw [create, outcome_bind, outcome_makeDirectories, hmade] at h
  simp only at h
  rw [outcome_bind, hretire] at h
  simp only at h
  rw [outcome_bind, outcome_now] at h
  simp only at h
  rw [outcome_bind, Workspace.outcome_perform] at h
  split at h
  · next a w₁ hperform =>
    have hw₁ : made = w₁.files := congrArg World.files (Prod.mk.inj hperform).2
    obtain ⟨e, hsave⟩ := outcome_save_missing (hw₁ ▸ hmissing) a
    rw [outcome_bind, hsave] at h
    cases h
    exact hw₁.symm
  · next hperform =>
    cases h
    exact (congrArg World.files (Prod.mk.inj hperform).2).symm

theorem isName_currentCertEntry : Retired.isName currentCertEntry = false := by decide

theorem isName_keyEntry : Retired.isName keyEntry = false := by decide

theorem isCertName_name (t : Instant) : isCertName (Retired.name t) = true := by
  have hend : "Z.crt".toList = ['Z'] ++ ".crt".toList := by decide
  rw [isCertName, List.isSuffixOf_iff_suffix, Retired.toList_name, Retired.afterYear, hend]
  generalize ".crt".toList = ending
  simp only [← List.cons_append, ← List.append_assoc]
  exact List.suffix_append _ ending

theorem Pruned.node?_eq {report : PruneReport} (h : Pruned fs fs' d selfManaged report)
    (hname : Retired.isName name = false) :
    fs'.node? (d ++ [.text name]) = fs.node? (d ++ [.text name]) := by
  apply h.clears.same
  rintro ⟨name', hremoved, hplace⟩
  obtain rfl : name = name' := by simpa using hplace
  rw [((h.mem_removed name).1 hremoved).2.2] at hname
  cases hname

theorem Tidy.of_pruned {report : PruneReport} (h : Tidy fs d last)
    (hpruned : Pruned fs fs' d selfManaged report) : Tidy fs' d last where
  entries q hq hnode := by
    obtain ⟨hkept, hsame⟩ := hpruned.clears.isSome hnode
    rw [hsame] at hnode
    obtain ⟨name, rfl, hname, hfile⟩ := h.entries q hq hnode
    exact ⟨name, rfl, hname, hpruned.clears.hasFile_iff.2 ⟨hfile, hkept⟩⟩
  paired cert hcert := by
    have hcertSame := Files.content?_congr (hpruned.node?_eq isName_currentCertEntry)
    have hkeySame := Files.content?_congr (hpruned.node?_eq isName_keyEntry)
    obtain ⟨a, ha, hpem, hkey⟩ := h.paired cert (hcertSame.symm.trans hcert)
    exact ⟨a, ha, hpem, hkeySame.trans hkey⟩

theorem Tidy.node?_of_pruned {report : PruneReport} (h : Tidy fs d last)
    (hpruned : Pruned fs fs' d true report) (hq : q ≠ []) :
    fs'.node? (d ++ q) =
      if q = [.text currentCertEntry] ∨ q = [.text keyEntry] then fs.node? (d ++ q) else none := by
  split
  · next hcurrent =>
    rcases hcurrent with rfl | rfl
    · exact hpruned.node?_eq isName_currentCertEntry
    · exact hpruned.node?_eq isName_keyEntry
  · next hother =>
    rw [Option.eq_none_iff_forall_ne_some]
    intro node hnode
    obtain ⟨hkept, hsame⟩ := hpruned.clears.isSome (Option.isSome_iff_exists.2 ⟨node, hnode⟩)
    rw [hsame] at hnode
    obtain ⟨name, rfl, hname, hfile⟩ := h.entries q hq (Option.isSome_iff_exists.2 ⟨node, hnode⟩)
    rcases hname with rfl | rfl | ⟨t, ht, rfl⟩
    · exact hother (.inl rfl)
    · exact hother (.inr rfl)
    · exact hkept ⟨_, (hpruned.mem_removed _).2
        ⟨rfl, ⟨hfile, isCertName_iff.1 (isCertName_name t)⟩, Retired.isName_name ht⟩, rfl⟩

theorem Sound.create {r : Except CommandError AuthorityReport} (h : Sound w.files dir last)
    (hyear : FourDigitYear w.clock) (hcreate : outcome (create dir name days force) w = (r, w')) :
    Sound w'.files dir (lastAfter name days w last r) := by
  cases hmade : w.files.makeDirectories dir with
  | error fault =>
    rw [CaDirectory.create, outcome_bind, outcome_makeDirectories, hmade] at hcreate
    obtain ⟨rfl, rfl⟩ := Prod.mk.inj hcreate
    exact h
  | ok made =>
    by_cases hleads : ∃ d, made.Leads dir d
    · obtain ⟨d, hd⟩ := hleads
      obtain ⟨hd', htidy⟩ := (h made d hmade hd).create hd hmade hyear hcreate
      exact htidy.sound hd'
    · obtain rfl := (Files.leads_or_eq_of_makeDirectories hmade).resolve_left hleads
      rw [not_exists] at hleads
      intro made' d hmade' hd
      rw [files_of_create_missing hmade hleads hcreate, hmade] at hmade'
      obtain rfl := Except.ok.inj hmade'
      exact absurd hd (hleads d)

theorem Sound.fileName (h : Sound w.files dir last) (d : Place)
    (hd : w.files.lookup true dir = .ok (d, .directory)) (name : String)
    (hfile : w.files.HasFile (d ++ [.text name])) : Files.FileName name :=
  (h.tidy (Files.leads_of_lookup hd)).fileName name hfile

theorem Sound.prune {r : Except CommandError PruneReport} (h : Sound w.files dir last)
    (hprune : outcome (prune dir selfManaged) w = (r, w')) : Sound w'.files dir last := by
  rcases prune_cases selfManaged h.fileName with
    ⟨d, report, w'', hlookup, houtcome, hpruned⟩ | ⟨-, fault, houtcome⟩
  · obtain ⟨rfl, rfl⟩ := Prod.mk.inj (houtcome.symm.trans hprune)
    have htidy := h.tidy (Files.leads_of_lookup hlookup)
    exact (htidy.of_pruned hpruned).sound (Files.leads_of_lookup (hpruned.lookup hlookup))
  · obtain ⟨rfl, rfl⟩ := Prod.mk.inj (houtcome.symm.trans hprune)
    exact h

theorem sound_of_history (hvacant : Vacant fs dir) (h : History dir fs last fs') :
    Sound fs' dir last := by
  induction h with
  | start => exact sound_of_vacant hvacant
  | create _ hyear hcreate ih => exact ih.create hyear hcreate
  | prune _ hprune ih => exact ih.prune hprune

theorem Sound.outcome_load (h : Sound w.files dir last) :
    outcome (load dir) w = (.error (.noAuthority dir), w) ∨ ∃ a, last = some a ∧
      outcome (load dir) w =
        ((Authority.load a.certPem (Authority.keyPem a.keyDer)).mapError .certificate, w) := by
  have hthere (path : String) : outcome (isFile path : Session Bool) w =
      (.ok (w.files.isFile path), w) := rfl
  cases hcert : w.files.isFile (certPath dir) with
  | false =>
    left
    rw [load, outcome_bind, hthere, hcert]
    rfl
  | true =>
    right
    rw [Files.isFile] at hcert
    split at hcert
    · next p content isPrivate hlookup =>
      obtain ⟨hlocate, hnode⟩ := Files.lookup_eq_ok_iff.1 hlookup
      obtain ⟨d, hd, -, hp⟩ := Files.leads_of_locate plainName_currentCertEntry hlocate
      have htidy := h.tidy hd
      have hplace : p = certPlace d := by
        refine hp.resolve_right ?_
        rintro ⟨-, target, hlink⟩
        exact (htidy.atMostFile currentCertEntry).not_link target hlink
      subst hplace
      obtain ⟨a, ha, rfl, hkey⟩ := htidy.paired content (Files.content?_of_file hnode)
      have hcertRead := Files.read_eq_ok_iff.2 ⟨_, isPrivate, hlookup⟩
      exact ⟨a, ha, CaDirectory.outcome_load hcertRead (hd.read_content fileName_keyEntry hkey)⟩
    · cases hcert

/-- What holds of a CA directory whatever was done to it. In it are files with the names of a
certificate, a key and retired certificates alone. Certificate and key are those of the last
authority that was created, so no other pair is loaded. Pruning takes away all but the two if the CA
manages itself, and nothing if not. -/
structure Consistent (fs : Files) (dir : String) (last : Option Authority) : Prop where
  entries : ∀ d, fs.Leads dir d → ∀ q, q ≠ [] → (fs.node? (d ++ q)).isSome = true →
    ∃ name, q = [.text name] ∧ fs.HasFile (d ++ [.text name]) ∧
      (name = currentCertEntry ∨ name = keyEntry ∨ Retired.isName name = true)
  paired : ∀ d, fs.Leads dir d → ∀ cert, fs.content? (certPlace d) = some cert →
    ∃ a, last = some a ∧ cert = Bytes.ofString a.certPem ∧
      fs.content? (keyPlace d) = some a.privateKey.pem
  loaded : ∀ w : World, w.files = fs → outcome (load dir) w = (.error (.noAuthority dir), w) ∨
    ∃ a, last = some a ∧ outcome (load dir) w =
      ((Authority.load a.certPem (Authority.keyPem a.keyDer)).mapError .certificate, w)
  unpruned : ∀ w : World, w.files = fs → (outcome (prune dir false) w).2.files = fs
  pruned : ∀ d, fs.Leads dir d → dir ≠ "" → ∀ w : World, w.files = fs →
    ∃ report w', outcome (prune dir true) w = (.ok report, w') ∧ ∀ q, q ≠ [] →
      w'.files.node? (d ++ q) =
        if q = [.text currentCertEntry] ∨ q = [.text keyEntry] then fs.node? (d ++ q) else none

/-- A directory that was empty or missing stays consistent through all creations and prunings. -/
theorem consistent_of_history (dir : String) (fs fs' : Files) (last : Option Authority)
    (hvacant : Vacant fs dir) (h : History dir fs last fs') : Consistent fs' dir last := by
  have hsound := sound_of_history hvacant h
  refine ⟨fun d hd q hq hnode => ?_, fun d hd => (hsound.tidy hd).paired, ?_, ?_, ?_⟩
  · obtain ⟨name, rfl, hname, hfile⟩ := (hsound.tidy hd).entries q hq hnode
    exact ⟨name, rfl, hfile, hname.isName⟩
  · rintro w rfl
    exact hsound.outcome_load
  · rintro w rfl
    rcases prune_cases false hsound.fileName with
      ⟨d, report, w', -, houtcome, hpruned⟩ | ⟨-, fault, houtcome⟩
    · rw [houtcome]
      exact hpruned.unmanaged.2
    · rw [houtcome]
  · rintro d hd hdir w rfl
    obtain ⟨report, w', houtcome, hpruned⟩ :=
      outcome_prune (hsound.tidy hd).fileName (hd.lookup hdir) true
    exact ⟨report, w', houtcome, fun q hq => (hsound.tidy hd).node?_of_pruned hpruned hq⟩

theorem vacant_sample : Vacant {} "ca" := by
  have hhome : ({} : Files).Leads "" [] := Files.leads_home rfl
  have hvacant := vacant_of_missing hhome (show Files.FileName "ca" by decide) fun _ => rfl
  rwa [Files.join_empty] at hvacant

def bareWorld : World := { sampleWorld with files := {} }

theorem fourDigitYear_sample : FourDigitYear sampleWorld.clock := by decide

theorem created_sample : ∃ a report w', outcome (create "ca" "ca" 365 false) bareWorld =
      (.ok report, w') ∧ lastAfter "ca" 365 bareWorld none (.ok report) = some a ∧
    w'.files.Leads "ca" ["ca"] ∧ Tidy w'.files ["ca"] (some a) := by
  have hhome : bareWorld.files.Leads "" [] := Files.leads_home rfl
  obtain ⟨hmade, hd⟩ := hhome.makeDirectories_entry (show Files.FileName "ca" by decide) rfl
  have htidy := sound_of_vacant vacant_sample _ _ hmade hd
  have hnone := Files.content?_of_none
    (vacant_sample _ _ hmade hd [currentCertEntry] (by simp))
  obtain ⟨w', h, -⟩ := outcome_create_orderly "ca" 365 hmade (htidy.orderly hd) (.inr hnone)
  have hresult : (Authority.create "ca" 365 bareWorld.clock (drawn bareWorld)).result = _ :=
    authority_sample _
  rw [hresult] at h
  obtain ⟨hd', htidy'⟩ := htidy.create hd hmade fourDigitYear_sample h
  have hlast (report : AuthorityReport) :
      lastAfter "ca" 365 bareWorld none (.ok report) = some _ := congrArg Except.toOption hresult
  exact ⟨_, _, w', h, hlast _, hd', hlast _ ▸ htidy'⟩

theorem failed_sample {fs : Files} (hd : fs.Leads "ca" ["ca"]) (h : Tidy fs ["ca"] last) :
    ∃ e w',
      outcome (create "ca" "" 365 true) { sampleWorld with files := fs } = (.error e, w') := by
  obtain ⟨w', hcreate, -⟩ := outcome_create_orderly (w := { sampleWorld with files := fs }) "" 365
    hd.makeDirectories (h.orderly hd) (.inl rfl)
  exact ⟨_, w', hcreate⟩

theorem consistent_of_history_sample : ∃ a r₁ e₂ r₃ w₁ w₂ w₃,
    outcome (create "ca" "ca" 365 false) bareWorld = (.ok r₁, w₁) ∧
      outcome (create "ca" "" 365 true) { sampleWorld with files := w₁.files } = (.error e₂, w₂) ∧
      outcome (prune "ca" true) w₂ = (r₃, w₃) ∧ Vacant {} "ca" ∧
      History "ca" {} (some a) w₃.files ∧ Consistent w₃.files "ca" (some a) := by
  obtain ⟨a, r₁, w₁, hcreated, hlast, hd, htidy⟩ := created_sample
  obtain ⟨e₂, w₂, hfailed⟩ := failed_sample hd htidy
  obtain ⟨⟨r₃, w₃⟩, hpruned⟩ : ∃ o, outcome (prune "ca" true) w₂ = o := ⟨_, rfl⟩
  have hfirst : History "ca" {} (some a) w₁.files :=
    hlast ▸ History.start.create (w := bareWorld) fourDigitYear_sample hcreated
  have hsecond : History "ca" {} (some a) w₂.files :=
    hfirst.create (w := { sampleWorld with files := w₁.files }) fourDigitYear_sample hfailed
  have hthird := hsecond.prune hpruned
  exact ⟨a, r₁, e₂, r₃, w₁, w₂, w₃, hcreated, hfailed, hpruned, vacant_sample, hthird,
    consistent_of_history "ca" {} w₃.files (some a) vacant_sample hthird⟩

end ClusterCerts.CaDirectory
