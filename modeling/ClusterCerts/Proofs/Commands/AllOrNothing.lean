import ClusterCerts.Proofs.CaDirectory.Create
import ClusterCerts.Proofs.Commands.Reconcile
import ClusterCerts.Proofs.Files.Trees

/-!
# Reconciling all or nothing

A reconciliation reads first and writes last, so a failure finds the files as they were, but
perhaps for a draft. Where there are no links, success changes nothing but the file it writes.
-/

namespace ClusterCerts

open Session Workspace

variable {domain ca request path : String} {existing out : Option String} {w w' : World}

theorem Session.keepsFiles_of_alike {α : Type} {x : Session α} (h : ∀ w, Alike w w x) :
    KeepsFiles x := by
  intro w
  obtain ⟨r, hw, -⟩ := h w
  rw [hw]

theorem DocumentFile.keepsFiles_readBundles (path : String) :
    KeepsFiles (DocumentFile.readBundles path) := by
  refine keepsFiles_bind (fun _ => rfl) fun there => ?_
  have hread : KeepsFiles (DocumentFile.read SecretData.decoder path : Session SecretData) :=
    keepsFiles_of_alike fun _ => DocumentFile.alike_read SecretData.decoder rfl
  cases there with
  | false => exact keepsFiles_bind (fun _ => rfl) fun _ _ => rfl
  | true => exact keepsFiles_bind hread fun data => keepsFiles_bind (fun _ => rfl) fun _ _ => rfl

theorem keepsFiles_reconcileStored (domain ca request : String) (existing : Option String) :
    KeepsFiles (reconcileStored domain ca request existing) := by
  refine keepsFiles_bind (keepsFiles_of_alike fun _ => DocumentFile.alike_readRequest rfl)
    fun request => ?_
  refine keepsFiles_bind (keepsFiles_of_alike fun _ => CaDirectory.alike_load rfl rfl rfl rfl)
    fun ca => ?_
  have hperform {α : Type} (task : Entropy → Outcome Entropy α) (settings : CaSettings) :
      KeepsFiles (do return (settings, ← perform task)) :=
    keepsFiles_bind (CaDirectory.keepsFiles_perform task) fun _ _ => rfl
  cases existing with
  | none =>
    exact keepsFiles_bind (fun _ => rfl) fun _ =>
      keepsFiles_bind (fun _ => rfl) fun _ => hperform _ _
  | some path =>
    exact keepsFiles_bind (DocumentFile.keepsFiles_readBundles path) fun _ =>
      keepsFiles_bind (fun _ => rfl) fun _ => hperform _ _

theorem DocumentFile.files_of_writeSecretData {data : SecretData} {r : Except CommandError Unit}
    (htree : w.files.Tree) (h : outcome (DocumentFile.writeSecretData path data) w = (r, w')) :
    match r with
    | .error _ => w.files.Kept w'.files path
    | .ok _ => w.files.Replaced w'.files path (DocumentFile.stored data) := by
  rw [DocumentFile.outcome_writeSecretData] at h
  split at h
  · cases h
    exact .refl w.files path
  · next fs₁ hwrite =>
    split at h
    · cases h
      exact htree.kept_of_write hwrite
    · next fs₂ hrename =>
      cases h
      exact htree.replaced_of_rename hwrite hrename

theorem reconcileFiles_cases {r : Except CommandError CycleReport}
    (h : outcome (reconcileFiles domain ca request existing out) w = (r, w')) :
    (w'.files = w.files ∧ ∃ e, r = .error e) ∨
      ∃ settings reconciled w₁, outcome (reconcileStored domain ca request existing) w =
          (.ok (settings, reconciled), w₁) ∧ w₁.files = w.files ∧
        ((out = none ∧ w' = w₁) ∨ ∃ path written, out = some path ∧
          outcome (DocumentFile.writeSecretData path (SecretData.encode reconciled.certs)) w₁ =
            (written, w') ∧
          r = written.map fun _ => cycleReport settings reconciled (some path)) := by
  have hfiles := keepsFiles_reconcileStored domain ca request existing w
  rw [reconcileFiles, outcome_bind] at h
  split at h
  · next result w₁ hstored =>
    obtain ⟨settings, reconciled⟩ := result
    rw [hstored] at hfiles
    refine .inr ⟨settings, reconciled, w₁, hstored, hfiles, ?_⟩
    cases out with
    | none =>
      cases h
      exact .inl ⟨rfl, rfl⟩
    | some path =>
      rw [outcome_bind] at h
      split at h
      · next hwrite =>
        cases h
        exact .inr ⟨path, _, rfl, hwrite, rfl⟩
      · next hwrite =>
        cases h
        exact .inr ⟨path, _, rfl, hwrite, rfl⟩
  · next hstored =>
    cases h
    rw [hstored] at hfiles
    exact .inl ⟨hfiles, _, rfl⟩

/-- Without a file to be written a reconciliation changes nothing. With one, it leaves every file as
it was but the draft of that one if it fails, and if it succeeds it replaces that file as a whole,
with no draft left and nothing else changed. A draft is never the file itself, if that has a
name. -/
theorem reconcileFiles_allOrNothing (domain ca request : String) (existing out : Option String)
    (w w' : World) (r : Except CommandError CycleReport) (htree : w.files.Tree)
    (h : outcome (reconcileFiles domain ca request existing out) w = (r, w')) :
    (out = none → w'.files = w.files) ∧
      (∀ path e, out = some path → r = .error e → w.files.Kept w'.files path) ∧
      (∀ path report, out = some path → r = .ok report → ∃ settings reconciled w₁,
        outcome (reconcileStored domain ca request existing) w =
          (.ok (settings, reconciled), w₁) ∧
        report = cycleReport settings reconciled (some path) ∧
        w.files.Replaced w'.files path
          (DocumentFile.stored (SecretData.encode reconciled.certs))) ∧
      ∀ path, Path.draft path ≠ path ↔ (Path.fileName? path).isSome = true := by
  rcases reconcileFiles_cases h with ⟨hfiles, e, rfl⟩ |
    ⟨settings, reconciled, w₁, hstored, hfiles, ⟨rfl, rfl⟩ | ⟨path, written, rfl, hwrite, rfl⟩⟩
  · exact ⟨fun _ => hfiles, fun path _ _ _ => hfiles ▸ .refl w.files path, nofun,
      fun path => Path.draft_ne_iff⟩
  · exact ⟨fun _ => hfiles, nofun, nofun, fun path => Path.draft_ne_iff⟩
  · have hwritten := DocumentFile.files_of_writeSecretData (hfiles ▸ htree) hwrite
    rw [hfiles] at hwritten
    refine ⟨nofun, ?_, ?_, fun path => Path.draft_ne_iff⟩
    · rintro path' e hout hr
      cases hout
      cases written with
      | ok _ => cases hr
      | error cause => exact hwritten
    · rintro path' report hout hr
      cases hout
      cases written with
      | ok _ => exact ⟨settings, reconciled, w₁, hstored, (Except.ok.inj hr).symm, hwritten⟩
      | error cause => cases hr

section Sample

open Files

theorem tree_sample : sampleFiles.Tree where
  not_link p target := by
    rw [node?_sample]
    repeat' split
    all_goals simp
  parent p name h := by
    have hinit {q : Place} {last : EntryName} (heq : p ++ [name] = q ++ [last]) : p = q :=
      List.append_inj_left' heq rfl
    have hplace : p = [] ∨ p = [.text "ca"] := by
      rw [node?_sample] at h
      split at h
      · next heq => exact .inl (hinit (q := []) heq)
      split at h
      · next heq => exact .inr (hinit (q := ["ca"]) heq)
      split at h
      · next heq => exact .inr (hinit (q := ["ca"]) heq)
      split at h
      · next heq => exact .inl (hinit (q := []) heq)
      rw [if_neg (by simp)] at h
      cases h
    rcases hplace with rfl | rfl
    · rfl
    · rw [isDirectory, node?_sample]
      rfl

theorem reconcileFiles_allOrNothing_sample : ∃ report w',
    (sampleWorld sampleFiles).files.Tree ∧
    outcome (reconcileFiles "d" "ca" "q" (some "s.json") (some "s.json"))
      (sampleWorld sampleFiles) = (.ok report, w') ∧
    ∃ settings reconciled w₁,
      outcome (reconcileStored "d" "ca" "q" (some "s.json")) (sampleWorld sampleFiles) =
        (.ok (settings, reconciled), w₁) ∧
      report = cycleReport settings reconciled (some "s.json") ∧
      (sampleWorld sampleFiles).files.Replaced w'.files "s.json"
        (DocumentFile.stored (SecretData.encode reconciled.certs)) := by
  have hnone {p : Place} (hp : OfBundles p) := atMostFile_of_none (node?_ofBundles hp)
  have hwrite (content : Bytes) : ∃ fs₁ fs₂,
      sampleFiles.write (Path.draft "s.json") content = .ok fs₁ ∧
      fs₁.rename (Path.draft "s.json") "s.json" = .ok fs₂ ∧ True := by
    obtain ⟨-, fs₁, fs₂, hwrite, hrename, -⟩ := (slot_sample leads_sample).overwrite
      (hnone (.inr rfl)) (hnone (.inl rfl)).isDirectory_eq_false content
    exact ⟨fs₁, fs₂, hwrite, hrename, trivial⟩
  obtain ⟨-, -, -, report, w', -, -, hrun, -⟩ := reconcileFiles_sample
    (AgreesOutside.refl OfBundles sampleFiles)
    (DocumentFile.outcome_readBundles_absent present_sample) hwrite
  have htree : (sampleWorld sampleFiles).files.Tree := tree_sample
  obtain ⟨-, -, hwritten, -⟩ := reconcileFiles_allOrNothing "d" "ca" "q" (some "s.json")
    (some "s.json") _ w' _ htree hrun
  exact ⟨report, w', htree, hrun, hwritten "s.json" report rfl rfl⟩

end Sample

end ClusterCerts
