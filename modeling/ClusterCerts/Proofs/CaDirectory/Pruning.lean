import ClusterCerts.Proofs.CaDirectory.Create
import ClusterCerts.Proofs.Files.Listing
import ClusterCerts.Proofs.Files.Making
import Mathlib.Data.String.Basic

/-!
# Pruning a CA directory

Pruning lists the certificate files of a directory, decides by name which of them are retired, and
removes those one by one. What it reports is what it did: the files whose names it gives as removed
are gone, all else is as it was, and a second pruning finds nothing to remove. A file whose name is
no text is neither reported nor removed, whatever its bytes end in.
-/

namespace ClusterCerts

open Session Workspace

variable {dir name : String} {d : Place} {w w' : World} {names : List String}

theorem SortedMap.keys_increasing {β : Type} (m : SortedMap String β) :
    m.keys.Pairwise (· < ·) := by
  rw [keys, List.pairwise_map]
  exact m.sorted.imp compare_lt_iff_lt.1

theorem eq_of_increasing {xs ys : List String} (hxs : xs.Pairwise (· < ·))
    (hys : ys.Pairwise (· < ·)) (h : ∀ x, x ∈ xs ↔ x ∈ ys) : xs = ys := by
  have hnodup {zs : List String} (hzs : zs.Pairwise (· < ·)) : zs.Nodup := hzs.imp ne_of_lt
  exact List.Perm.eq_of_pairwise (fun _ _ _ _ h h' => absurd h' (not_lt_of_gt h)) hxs hys
    ((List.perm_ext_iff_of_nodup (hnodup hxs) (hnodup hys)).2 h)

namespace Session

theorem outcome_fileNames (path : String) :
    outcome (Workspace.fileNames path) w =
      match w.files.fileNames path with
      | .ok names => (.ok names, w)
      | .error fault => (.error (.io fault), w) := by
  refine (outcome_ask fun fs => fs.fileNames path).trans ?_
  cases w.files.fileNames path with
  | ok names => rfl
  | error fault => rfl

theorem outcome_remove (path : String) :
    outcome (Workspace.remove path) w =
      match w.files.remove path with
      | .ok files => (.ok (), { w with files })
      | .error fault => (.error (.io fault), w) := outcome_change _

end Session

namespace CaDirectory

/-- A regular file of the directory with the name of a certificate, which is a text. -/
def CertFile (fs : Files) (d : Place) (name : String) : Prop :=
  fs.HasFile (d ++ [.text name]) ∧ ∃ base, name = base ++ ".crt"

theorem isCertName_iff : isCertName name = true ↔ ∃ base, name = base ++ ".crt" := by
  rw [isCertName, List.isSuffixOf_iff_suffix]
  constructor
  · rintro ⟨base, hbase⟩
    exact ⟨String.ofList base, by rw [← String.toList_inj, String.toList_append, ← hbase]; simp⟩
  · rintro ⟨base, rfl⟩
    exact ⟨base.toList, (String.toList_append ..).symm⟩

theorem outcome_readCerts
    (h : ∀ name ∈ names, ∃ content, w.files.read (Path.join dir name) = .ok content) :
    ∃ entries events, outcome (names.mapM fun name => do
        report [.readingCert name]
        return (name, ← Workspace.read (Path.join dir name)) : Session (List (String × Bytes))) w =
      (.ok entries, { w with events := w.events ++ events }) ∧ entries.map (·.1) = names := by
  induction names generalizing w with
  | nil => exact ⟨[], [], by simp, rfl⟩
  | cons name names ih =>
    obtain ⟨content, hread⟩ := h name List.mem_cons_self
    obtain ⟨entries, events, hrest, hnames⟩ :=
      ih (w := { w with events := w.events ++ [.readingCert name] })
        fun n hn => h n (List.mem_cons_of_mem name hn)
    refine ⟨(name, content) :: entries, .readingCert name :: events, ?_, by simp [hnames]⟩
    rw [List.mapM_cons, outcome_bind, outcome_bind]
    simp only [outcome_report, outcome_bind, outcome_read, hread, outcome_pure, hrest]
    simp

theorem outcome_readStore
    (hnamed : ∀ name, w.files.HasFile (d ++ [.text name]) → Files.FileName name)
    (hd : w.files.lookup true dir = .ok (d, .directory)) :
    ∃ store events, outcome (readStore dir) w =
        (.ok store, { w with events := w.events ++ events }) ∧
      ∀ name, name ∈ store.keys ↔ CertFile w.files d name := by
  obtain ⟨listing, hlisting, hmem⟩ := Files.fileNames_of_lookup hd
  have htexts (name : String) : name ∈ listing.filterMap EntryName.text? ↔
      w.files.HasFile (d ++ [.text name]) := by
    simp only [List.mem_filterMap, EntryName.text?_eq_some_iff, exists_eq_right, hmem]
  have hreads : ∀ name ∈ (listing.filterMap EntryName.text?).filter isCertName,
      ∃ content, w.files.read (Path.join dir name) = .ok content := by
    intro name hname
    have hfile := (htexts name).1 (List.mem_filter.1 hname).1
    obtain ⟨content, hcontent⟩ := hfile.exists_content
    exact ⟨content, (Files.leads_of_lookup hd).read_content (hnamed name hfile) hcontent⟩
  obtain ⟨entries, events, hentries, hnames⟩ := outcome_readCerts hreads
  refine ⟨.ofList entries, events, ?_, fun name => ?_⟩
  · rw [readStore, outcome_bind, outcome_fileNames, hlisting]
    simp only [outcome_bind, hentries]
    rfl
  · rw [SortedMap.mem_keys_ofList, hnames, List.mem_filter, htexts, isCertName_iff, CertFile]

def At (d : Place) (names : List String) (p : Place) : Prop := ∃ name ∈ names, p = d ++ [.text name]

theorem outcome_removeAll (hd : w.files.Leads dir d) (hnodup : names.Nodup)
    (hfiles : ∀ name ∈ names, Files.FileName name ∧ w.files.HasFile (d ++ [.text name])) :
    ∃ w', outcome (forIn names PUnit.unit fun name _ => do
        remove (Path.join dir name)
        report [.removedRetired name]
        pure (.yield PUnit.unit) : Session PUnit) w = (.ok PUnit.unit, w') ∧
      Files.Clears (At d names) w.files w'.files ∧ (names = [] → w'.files = w.files) := by
  induction names generalizing w with
  | nil => exact ⟨w, rfl, .refl (by simp [At]) w.files, fun _ => rfl⟩
  | cons name names ih =>
    obtain ⟨hname, hfile⟩ := hfiles name List.mem_cons_self
    obtain ⟨hnot, hnodup⟩ := List.nodup_cons.1 hnodup
    have hremove := hd.remove hname hfile
    have hclears : Files.Clears (· = d ++ [.text name]) w.files
        (w.files.without (d ++ [.text name])) :=
      Files.clears_without (by simp)
    have hstill := hd.of_agrees hclears.toAgreesOutside fun q hq => hq ▸ hfile.atMostFile
    have hothers : ∀ n ∈ names, Files.FileName n ∧
        (w.files.without (d ++ [.text name])).HasFile (d ++ [.text n]) := by
      intro n hn
      obtain ⟨hfileName, hthere⟩ := hfiles n (List.mem_cons_of_mem name hn)
      refine ⟨hfileName, hclears.hasFile_iff.2 ⟨hthere, fun hsame => hnot ?_⟩⟩
      simp only [List.append_cancel_left_eq, List.cons.injEq, EntryName.text.injEq,
        and_true] at hsame
      exact hsame ▸ hn
    obtain ⟨w', hrest, hclears', -⟩ := ih (w := { w with
      files := w.files.without (d ++ [.text name])
      events := w.events ++ [.removedRetired name] }) hstill hnodup hothers
    refine ⟨w', ?_, (hclears.trans hclears').congr ?_, fun hnil => by cases hnil⟩
    · rw [List.forIn_cons, outcome_bind]
      simp only [outcome_bind, outcome_remove, hremove, outcome_report, outcome_pure]
      exact hrest
    · intro p
      simp [At]

end CaDirectory

namespace CaStore

variable {store : CaStore} {selfManaged : Bool}

theorem mem_prunable : name ∈ prunable selfManaged store ↔
    selfManaged = true ∧ name ∈ store.keys ∧ Retired.isName name = true := by
  cases selfManaged <;> simp [prunable, List.mem_filter]

theorem keys_prune_of_managed :
    (prune true store).keys = store.keys.filter fun name => !Retired.isName name := by
  rw [prune, if_pos rfl, SortedMap.keys, SortedMap.keys, List.filter_map]
  rfl

theorem mem_keys_prune : name ∈ (prune selfManaged store).keys ↔
    name ∈ store.keys ∧ ¬(selfManaged = true ∧ Retired.isName name = true) := by
  cases selfManaged with
  | true => simp [keys_prune_of_managed, List.mem_filter]
  | false => simp [prune]

theorem prunable_increasing (selfManaged : Bool) (store : CaStore) :
    (prunable selfManaged store).Pairwise (· < ·) := by
  cases selfManaged with
  | true => exact store.keys_increasing.filter Retired.isName
  | false => exact .nil

end CaStore

namespace CaDirectory

/-- What pruning makes of a directory, and what it reports. -/
structure Pruned (fs fs' : Files) (d : Place) (selfManaged : Bool) (report : PruneReport) :
    Prop where
  mem_removed : ∀ name, name ∈ report.removed ↔
    selfManaged = true ∧ CertFile fs d name ∧ Retired.isName name = true
  mem_kept : ∀ name, name ∈ report.kept ↔
    CertFile fs d name ∧ ¬(selfManaged = true ∧ Retired.isName name = true)
  removed_increasing : report.removed.Pairwise (· < ·)
  kept_increasing : report.kept.Pairwise (· < ·)
  clears : Files.Clears (At d report.removed) fs fs'
  unchanged : report.removed = [] → fs' = fs

variable {selfManaged : Bool} {fs fs' : Files} {report : PruneReport}

theorem outcome_prune (hnamed : ∀ name, w.files.HasFile (d ++ [.text name]) → Files.FileName name)
    (hd : w.files.lookup true dir = .ok (d, .directory)) (selfManaged : Bool) :
    ∃ report w', outcome (prune dir selfManaged) w = (.ok report, w') ∧
      Pruned w.files w'.files d selfManaged report := by
  obtain ⟨store, events, hstore, hkeys⟩ := outcome_readStore hnamed hd
  have hremoved (name : String) : name ∈ store.prunable selfManaged ↔
      selfManaged = true ∧ CertFile w.files d name ∧ Retired.isName name = true := by
    rw [CaStore.mem_prunable, hkeys]
  have hincreasing := CaStore.prunable_increasing selfManaged store
  have hfiles : ∀ name ∈ store.prunable selfManaged,
      Files.FileName name ∧ w.files.HasFile (d ++ [.text name]) := by
    intro name hname
    have hfile := ((hremoved name).1 hname).2.1.1
    exact ⟨hnamed name hfile, hfile⟩
  obtain ⟨w', hloop, hclears, hunchanged⟩ := outcome_removeAll
    (w := { w with events := w.events ++ events ++
      (store.prunable selfManaged).map .removingRetired })
    (Files.leads_of_lookup hd) (hincreasing.imp ne_of_lt) hfiles
  refine ⟨⟨store.prunable selfManaged, (store.prune selfManaged).keys⟩, w', ?_, hremoved,
    fun name => ?_, hincreasing, SortedMap.keys_increasing _, hclears, hunchanged⟩
  · rw [prune, outcome_bind, hstore]
    simp only [outcome_bind, outcome_report, hloop, outcome_pure]
  · rw [CaStore.mem_keys_prune, hkeys]

theorem outcome_prune_of_not_directory
    (hd : ∀ d, w.files.lookup true dir ≠ .ok (d, .directory)) (selfManaged : Bool) :
    ∃ fault, outcome (prune dir selfManaged) w = (.error (.io fault), w) := by
  obtain ⟨fault, hlisting⟩ := Files.fileNames_of_not_directory hd
  refine ⟨fault, ?_⟩
  rw [prune, outcome_bind, readStore, outcome_bind, outcome_fileNames, hlisting]

theorem prune_cases (selfManaged : Bool)
    (hnamed : ∀ d, w.files.lookup true dir = .ok (d, .directory) →
      ∀ name, w.files.HasFile (d ++ [.text name]) → Files.FileName name) :
    (∃ d report w', w.files.lookup true dir = .ok (d, .directory) ∧
      outcome (prune dir selfManaged) w = (.ok report, w') ∧
      Pruned w.files w'.files d selfManaged report) ∨
    ((∀ d, w.files.lookup true dir ≠ .ok (d, .directory)) ∧
      ∃ fault, outcome (prune dir selfManaged) w = (.error (.io fault), w)) := by
  by_cases hdirectory : ∃ d, w.files.lookup true dir = .ok (d, .directory)
  · obtain ⟨d, hd⟩ := hdirectory
    obtain ⟨report, w', hprune, hpruned⟩ := outcome_prune (hnamed d hd) hd selfManaged
    exact .inl ⟨d, report, w', hd, hprune, hpruned⟩
  · rw [not_exists] at hdirectory
    exact .inr ⟨hdirectory, outcome_prune_of_not_directory hdirectory selfManaged⟩

theorem Pruned.unmanaged (h : Pruned fs fs' d false report) : report.removed = [] ∧ fs' = fs := by
  have hnone : report.removed = [] := by
    rw [List.eq_nil_iff_forall_not_mem]
    intro name hname
    exact Bool.false_ne_true ((h.mem_removed name).1 hname).1
  exact ⟨hnone, h.unchanged hnone⟩

theorem Pruned.certFile_iff (h : Pruned fs fs' d selfManaged report) :
    CertFile fs' d name ↔ name ∈ report.kept := by
  have hat : At d report.removed (d ++ [.text name]) ↔ name ∈ report.removed := by simp [At]
  rw [CertFile, h.clears.hasFile_iff, hat, h.mem_removed, h.mem_kept, CertFile]
  tauto

theorem Pruned.again {fs'' : Files} {report' : PruneReport}
    (h : Pruned fs fs' d selfManaged report) (h' : Pruned fs' fs'' d selfManaged report') :
    report' = ⟨[], report.kept⟩ ∧ fs'' = fs' := by
  have hremoved : report'.removed = [] := by
    rw [List.eq_nil_iff_forall_not_mem]
    intro name hname
    obtain ⟨hmanaged, hfile, hretired⟩ := (h'.mem_removed name).1 hname
    exact ((h.mem_kept name).1 (h.certFile_iff.1 hfile)).2 ⟨hmanaged, hretired⟩
  have hkept : report'.kept = report.kept := by
    apply eq_of_increasing h'.kept_increasing h.kept_increasing
    intro name
    have hsame : CertFile fs'' d name ↔ name ∈ report'.kept := h'.certFile_iff
    rw [h'.unchanged hremoved, h.certFile_iff] at hsame
    exact hsame.symm
  obtain ⟨removed, kept⟩ := report'
  simp only at hremoved hkept
  exact ⟨by rw [hremoved, hkept], h'.unchanged hremoved⟩

theorem Pruned.lookup (h : Pruned fs fs' d selfManaged report)
    (hd : fs.lookup true dir = .ok (d, .directory)) :
    fs'.lookup true dir = .ok (d, .directory) := by
  refine h.clears.lookup_directory (fun q hq => ?_) hd
  obtain ⟨name, hname, rfl⟩ := hq
  exact ((h.mem_removed name).1 hname).2.1.1.atMostFile

theorem Pruned.raw (h : Pruned fs fs' d selfManaged report) {entry : EntryName}
    (hentry : entry.text? = none) : fs'.node? (d ++ [entry]) = fs.node? (d ++ [entry]) := by
  apply h.clears.same
  rintro ⟨name, -, hsame⟩
  rw [List.append_cancel_left_eq, List.cons.injEq] at hsame
  rw [hsame.1] at hentry
  cases hentry

/-- A directory is pruned as its report says: of its certificate files those with a retired name are
removed if the CA manages itself, and all else stays; the names of the removed and of the kept
files are in order, and are those of all that there were and whose names are texts. Pruning again
removes nothing. What is no directory is not pruned. -/
theorem prune_exact (dir : String) (selfManaged : Bool) (w w' : World)
    (r : Except CommandError PruneReport) (hnamed : w.files.Named)
    (h : outcome (prune dir selfManaged) w = (r, w')) :
    (∃ d report, w.files.lookup true dir = .ok (d, .directory) ∧ r = .ok report ∧
      Pruned w.files w'.files d selfManaged report ∧
      (selfManaged = false → report.removed = [] ∧ w'.files = w.files) ∧
      (∀ name ∈ report.removed, name ∉ report.kept) ∧
      (∀ name, CertFile w.files d name ↔ name ∈ report.removed ∨ name ∈ report.kept) ∧
      (∀ entry : EntryName, entry.text? = none →
        w'.files.node? (d ++ [entry]) = w.files.node? (d ++ [entry])) ∧
      ∀ w₂ : World, w₂.files = w'.files → ∃ w₃,
        outcome (prune dir selfManaged) w₂ = (.ok ⟨[], report.kept⟩, w₃) ∧
          w₃.files = w'.files) ∨
    ((∀ d, w.files.lookup true dir ≠ .ok (d, .directory)) ∧
      (∃ fault, r = .error (.io fault)) ∧ w'.files = w.files) := by
  rcases prune_cases selfManaged (fun d _ => hnamed.fileName d) with
    ⟨d, report, w₁, hd, hprune, hpruned⟩ | ⟨hdirectory, fault, hprune⟩
  · obtain ⟨rfl, rfl⟩ := Prod.mk.inj (h.symm.trans hprune)
    refine .inl ⟨d, report, hd, rfl, hpruned, fun hkept => ?_, fun name hname hkept => ?_,
      fun name => ?_, fun entry hentry => hpruned.raw hentry, fun w₂ hw₂ => ?_⟩
    · subst hkept
      exact hpruned.unmanaged
    · obtain ⟨hmanaged, -, hretired⟩ := (hpruned.mem_removed name).1 hname
      exact ((hpruned.mem_kept name).1 hkept).2 ⟨hmanaged, hretired⟩
    · rw [hpruned.mem_removed, hpruned.mem_kept]
      tauto
    · obtain ⟨report', w₃, hagain, hpruned'⟩ := outcome_prune (w := w₂)
        (hw₂ ▸ (hpruned.clears.named hnamed).fileName d) (hw₂ ▸ hpruned.lookup hd) selfManaged
      obtain ⟨rfl, hsame⟩ := hpruned.again (hw₂ ▸ hpruned')
      exact ⟨w₃, hagain, hsame⟩
  · obtain ⟨rfl, rfl⟩ := Prod.mk.inj (h.symm.trans hprune)
    exact .inr ⟨hdirectory, ⟨fault, rfl⟩, rfl⟩

def sampleRaw : EntryName := .raw [0xff, 0x2e, 0x63, 0x72, 0x74] (by decide)

def sampleMixed : World :=
  { sampleWorld with
    files := (((sampleWorld.files.put ["ca", "ca-2020-01-01T00-00-00Z.crt"] (.file [3] false)).put
      ["ca", "ca-2020-01-01T00-00-00Zxcrt"] (.file [4] false)).put
      ["ca", "ca-2021-01-01T00-00-00Z.crt"] .directory).put ["ca", sampleRaw] (.file [5] false) }

theorem lookup_mixed : sampleMixed.files.lookup true "ca" = .ok (["ca"], .directory) := by
  have hd : sampleMixed.files.Leads "ca" ["ca"] := Files.leads_name rfl (by decide) (by decide)
  exact hd.lookup (by decide)

theorem named_mixed : sampleMixed.files.Named := Files.named_of_keys (by decide +kernel)

theorem certFile_mixed : CertFile sampleMixed.files ["ca"] name ↔
    name = "ca-2020-01-01T00-00-00Z.crt" ∨ name = "ca.crt" := by
  have hnames : (sampleMixed.files.names ["ca"]).filterMap EntryName.text? =
      ["ca-2020-01-01T00-00-00Z.crt", "ca-2020-01-01T00-00-00Zxcrt", "ca-2021-01-01T00-00-00Z.crt",
        "ca.crt", "ca.key"] := by
    decide +kernel
  constructor
  · rintro ⟨hfile, hcrt⟩
    have hmem : name ∈ (sampleMixed.files.names ["ca"]).filterMap EntryName.text? :=
      List.mem_filterMap.2 ⟨_, Files.mem_names.2 hfile.isSome, rfl⟩
    obtain ⟨content, isPrivate, hnode⟩ := hfile
    rw [← isCertName_iff] at hcrt
    simp only [hnames, List.mem_cons, List.not_mem_nil, or_false] at hmem
    rcases hmem with rfl | rfl | rfl | rfl | rfl
    · exact .inl rfl
    · exact absurd hcrt (by decide +kernel)
    · have hdirectory : sampleMixed.files.node? ["ca", "ca-2021-01-01T00-00-00Z.crt"] =
          some .directory := by decide +kernel
      cases hdirectory.symm.trans hnode
    · exact .inr rfl
    · exact absurd hcrt (by decide +kernel)
  · rintro (rfl | rfl)
    · exact ⟨⟨[3], false, by decide +kernel⟩, isCertName_iff.1 (by decide +kernel)⟩
    · exact ⟨⟨[1], false, by decide +kernel⟩, isCertName_iff.1 (by decide +kernel)⟩

theorem prune_exact_mixed : ∃ report w',
    outcome (prune "ca" true) sampleMixed = (.ok report, w') ∧ sampleMixed.files.Named ∧
      report.removed = ["ca-2020-01-01T00-00-00Z.crt"] ∧ report.kept = ["ca.crt"] ∧
      w'.files.node? ["ca", "ca-2020-01-01T00-00-00Z.crt"] = none ∧
      w'.files.node? ["ca", "ca-2020-01-01T00-00-00Zxcrt"] = some (.file [4] false) ∧
      w'.files.node? ["ca", "ca-2021-01-01T00-00-00Z.crt"] = some .directory ∧
      w'.files.node? ["ca", sampleRaw] = some (.file [5] false) := by
  obtain ⟨⟨r, w'⟩, h⟩ : ∃ o, outcome (prune "ca" true) sampleMixed = o := ⟨_, rfl⟩
  obtain ⟨d, report, hd, rfl, hpruned, -, -, -, hraw, -⟩ | ⟨hnone, -⟩ :=
    prune_exact "ca" true sampleMixed w' r named_mixed h
  · obtain rfl : d = [.text "ca"] := by
      rw [lookup_mixed] at hd
      exact congrArg Prod.fst (Except.ok.inj hd.symm)
    have hold : Retired.isName "ca-2020-01-01T00-00-00Z.crt" = true := by decide +kernel
    have hcurrent : Retired.isName "ca.crt" = false := by decide +kernel
    have hremoved : report.removed = ["ca-2020-01-01T00-00-00Z.crt"] := by
      apply eq_of_increasing hpruned.removed_increasing (List.pairwise_singleton ..)
      intro name
      rw [hpruned.mem_removed, certFile_mixed, List.mem_singleton]
      grind
    have hkept : report.kept = ["ca.crt"] := by
      apply eq_of_increasing hpruned.kept_increasing (List.pairwise_singleton ..)
      intro name
      rw [hpruned.mem_kept, certFile_mixed, List.mem_singleton]
      grind
    have hother (p : Place) (hp : p ≠ [.text "ca", .text "ca-2020-01-01T00-00-00Z.crt"]) :=
      hpruned.clears.same p (by simpa [At, hremoved] using hp)
    refine ⟨report, w', h, named_mixed, hremoved, hkept, ?_, ?_, ?_, ?_⟩
    · exact hpruned.clears.gone _ ⟨_, hremoved ▸ List.mem_singleton_self _, rfl⟩
    · rw [hother ["ca", "ca-2020-01-01T00-00-00Zxcrt"] (by decide)]
      decide +kernel
    · rw [hother ["ca", "ca-2021-01-01T00-00-00Z.crt"] (by decide)]
      decide +kernel
    · refine (hraw sampleRaw rfl).trans ?_
      decide +kernel
  · exact absurd lookup_mixed (hnone _)

/-- A regular file whose name ends in `.crt` is not among what pruning keeps, nor among what it
removes. -/
theorem prune_passes_over_raw : ∃ report w',
    outcome (prune "ca" false) sampleMixed = (.ok report, w') ∧
      sampleMixed.files.HasFile ["ca", sampleRaw] ∧
      Bytes.ofString ".crt" <:+ sampleRaw.bytes ∧
      ∀ name ∈ report.removed ++ report.kept, Bytes.ofString name ≠ sampleRaw.bytes := by
  obtain ⟨report, w', hprune, -⟩ :=
    outcome_prune (named_mixed.fileName ["ca"]) lookup_mixed false
  refine ⟨report, w', hprune, ⟨[5], false, by decide +kernel⟩, by decide, fun name _ hname => ?_⟩
  have htext : sampleRaw.bytes.toString? = some name := by rw [← hname, Bytes.toString?_ofString]
  rw [EntryName.toString?_bytes] at htext
  cases htext

end CaDirectory

end ClusterCerts
