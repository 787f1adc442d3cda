import ClusterCerts.Proofs.CaDirectory.Names

/-!
# Failed creations of a CA

What a creation of a CA leaves behind that fails for another reason than its files. Nothing but
the directory is made, unless force was used on a certificate: that has got its retired name by
then, before it is known whether there will be another in its place.
-/

namespace ClusterCerts

namespace Session

variable {α β : Type} {w w' : World} {e : CommandError}

def KeepsFiles (x : Session α) : Prop := ∀ w, (x.outcome w).2.files = w.files

/-- The command fails for a reason of its files only. -/
def FailsByIo (x : Session α) : Prop :=
  ∀ w e w', x.outcome w = (.error e, w') → e.kind = .io

theorem keepsFiles_bind {x : Session α} {f : α → Session β} (hx : KeepsFiles x)
    (hf : ∀ a, KeepsFiles (f a)) : KeepsFiles (x >>= f) := by
  intro w
  have hfirst := hx w
  rw [outcome_bind]
  split
  · next a w₁ hw₁ =>
    rw [hw₁] at hfirst
    exact (hf a w₁).trans hfirst
  · next e w₁ hw₁ =>
    rw [hw₁] at hfirst
    exact hfirst

theorem failsByIo_bind {x : Session α} {f : α → Session β} (hx : FailsByIo x)
    (hf : ∀ a, FailsByIo (f a)) : FailsByIo (x >>= f) := by
  intro w e w' h
  rcases outcome_bind_error h with hx' | ⟨a, w₁, -, hf'⟩
  · exact hx w e w' hx'
  · exact hf a w₁ e w' hf'

theorem failsByIo_change (f : Files → Except FileFault Files) : FailsByIo (change f) := by
  intro w e w' h
  rw [outcome_change] at h
  split at h
  · cases h
  · cases h
    rfl

theorem failsByIo_pure (a : α) : FailsByIo (pure a) := by
  intro w e w' h
  cases h

theorem failsByIo_modify (f : World → World) : FailsByIo (modify f : Session Unit) := by
  intro w e w' h
  cases h

end Session

namespace CaDirectory

open Session

variable {dir name : String} {days : UInt32} {force : Bool} {w w' : World} {e : CommandError}

theorem failsByIo_save (dir : String) (a : Authority) : FailsByIo (save dir a) :=
  failsByIo_bind (failsByIo_change _) fun _ =>
    failsByIo_bind (failsByIo_change _) fun _ => failsByIo_change _

theorem keepsFiles_perform {α : Type} (task : Entropy → Outcome Entropy α) :
    KeepsFiles (Workspace.perform task) := by
  apply keepsFiles_bind
  · intro w
    rfl
  · intro entropy
    apply keepsFiles_bind
    · intro w
      rfl
    · intro _ w
      unfold Workspace.orThrow
      split
      · rfl
      · rfl

theorem outcome_retireCert (dir : String) (force : Bool) (w : World) :
    outcome (retireCert dir force) w =
      if w.files.present (certPath dir) then
        if force then
          match w.files.rename (certPath dir) (Path.join dir (Retired.name w.clock)) with
          | .ok files =>
            (.ok (some (Retired.name w.clock)),
              { w with files, events := w.events ++ [.keptReplaced (Retired.name w.clock)] })
          | .error fault => (.error (.io fault), w)
        else (.error (.authorityPresent dir), w)
      else (.ok none, w) := by
  unfold retireCert
  rw [outcome_bind, outcome_present]
  cases hpresent : w.files.present (certPath dir) with
  | false => simp
  | true =>
    cases force with
    | false => simp
    | true =>
      simp only [Bool.not_true, Bool.false_eq_true, if_false, if_true, outcome_bind, outcome_now,
        outcome_rename]
      cases w.files.rename (certPath dir) (Path.join dir (Retired.name w.clock)) with
      | ok files => simp only [outcome_report, outcome_pure]
      | error fault => rfl

def Replaces (fs : Files) (dir : String) (force : Bool) : Prop :=
  force = true ∧ fs.present (certPath dir) = true

theorem files_of_retireCert {r : Except CommandError (Option String)}
    (h : outcome (retireCert dir force) w = (r, w')) (hio : ∀ e, r = .error e → e.kind ≠ .io) :
    (¬ Replaces w.files dir force ∧ w'.files = w.files) ∨
      (Replaces w.files dir force ∧
        w.files.rename (certPath dir) (Path.join dir (Retired.name w.clock)) = .ok w'.files) := by
  rw [outcome_retireCert] at h
  unfold Replaces
  split at h
  · next hpresent =>
    split at h
    · next hforce =>
      split at h
      · next files hrename =>
        cases h
        exact .inr ⟨⟨hforce, hpresent⟩, hrename⟩
      · cases h
        exact absurd rfl (hio _ rfl)
    · next hforce =>
      cases h
      exact .inl ⟨fun hreplaces => hforce hreplaces.1, rfl⟩
  · next hpresent =>
    cases h
    exact .inl ⟨fun hreplaces => hpresent hreplaces.2, rfl⟩

theorem files_of_perform_error {task : Entropy → Outcome Entropy Authority}
    {f : Authority → Session AuthorityReport} (hf : ∀ a, FailsByIo (f a))
    (h : outcome (Workspace.perform task >>= f) w = (.error e, w')) (hio : e.kind ≠ .io) :
    w'.files = w.files := by
  rcases outcome_bind_error h with hperform | ⟨a, w₁, -, hf'⟩
  · have hkeeps := keepsFiles_perform task w
    rw [hperform] at hkeeps
    exact hkeeps
  · exact absurd (hf a w₁ e w' hf') hio

theorem files_of_create {made : Files} (hmade : w.files.makeDirectories dir = .ok made)
    (h : outcome (create dir name days force) w = (.error e, w')) (hio : e.kind ≠ .io) :
    (¬ Replaces made dir force ∧ w'.files = made) ∨
      (Replaces made dir force ∧
        made.rename (certPath dir) (Path.join dir (Retired.name w.clock)) = .ok w'.files) := by
  unfold create at h
  rw [outcome_bind, outcome_makeDirectories, hmade] at h
  rcases outcome_bind_error h with hretire | ⟨replaced, w₁, hretire, hrest⟩
  · apply files_of_retireCert hretire
    intro e' he'
    cases he'
    exact hio
  · have hfiles := files_of_retireCert hretire (by simp)
    rw [outcome_bind, outcome_now] at hrest
    have hkept : w'.files = w₁.files := by
      apply files_of_perform_error _ hrest hio
      intro a
      exact failsByIo_bind (failsByIo_save dir a) fun _ =>
        failsByIo_bind (failsByIo_modify _) fun _ => failsByIo_pure _
    rw [hkept]
    exact hfiles

/-- A creation that fails for another reason than its files leaves them as they are with the
directory made, if and only if it was not to replace a certificate. Otherwise the certificate has
left its place for its retired name. -/
theorem files_of_create_error (dir name : String) (days : UInt32) (force : Bool) (w w' : World)
    (e : CommandError) (h : outcome (create dir name days force) w = (.error e, w'))
    (hio : e.kind ≠ .io) :
    ∃ made, w.files.makeDirectories dir = .ok made ∧ w.files.AddsDirectories made ∧
      (w'.files = made ↔ ¬ Replaces made dir force) ∧
      (Replaces made dir force →
        made.rename (certPath dir) (Path.join dir (Retired.name w.clock)) = .ok w'.files ∧
        ∃ place node, made.lookup false (certPath dir) = .ok (place, node) ∧
          w'.files.node? place = none) := by
  obtain ⟨made, hmade⟩ : ∃ made, w.files.makeDirectories dir = .ok made := by
    cases hmake : w.files.makeDirectories dir with
    | ok made => exact ⟨made, rfl⟩
    | error fault =>
      unfold create at h
      rw [outcome_bind, outcome_makeDirectories, hmake] at h
      cases h
      exact absurd rfl hio
  refine ⟨made, hmade, Files.addsDirectories_makeDirectories hmade, ?_⟩
  rcases files_of_create hmade h hio with ⟨hreplaces, hfiles⟩ | ⟨hreplaces, hrename⟩
  · exact ⟨iff_of_true hfiles hreplaces, fun hreplaces' => absurd hreplaces' hreplaces⟩
  · obtain ⟨place, node, hlookup, hgone⟩ := Files.node?_of_rename plainName_currentCertEntry
      (Retired.plainName_name w.clock) (Retired.currentCertEntry_ne_name w.clock) hrename
    have hne : w'.files ≠ made := by
      intro hfiles
      rw [hfiles, (Files.lookup_eq_ok_iff.1 hlookup).2] at hgone
      cases hgone
    exact ⟨iff_of_false hne (not_not_intro hreplaces),
      fun _ => ⟨hrename, place, node, hlookup, hgone⟩⟩

theorem outcome_create_empty {made : Files} {replaced : Option String} {w₁ : World}
    (hmade : w.files.makeDirectories dir = .ok made)
    (hretire : outcome (retireCert dir force) { w with files := made } = (.ok replaced, w₁)) :
    (outcome (create dir "" days force) w).1 =
      .error (.certificate (.validation .emptyCaName)) := by
  unfold create
  rw [outcome_bind, outcome_makeDirectories, hmade]
  simp only
  rw [outcome_bind, hretire]
  rfl

def sampleWorld : World where
  files :=
    { nodes := SortedMap.ofList
        [(["ca"], .directory), (["ca", "ca.crt"], .file [1] false),
          (["ca", "ca.key"], .file [2] true)] }
  clock := ⟨1700000000, 0, by decide, by decide⟩
  entropy := { seed := [] }

theorem leads_sample : sampleWorld.files.Leads "ca" ["ca"] :=
  Files.leads_name rfl (by decide) (by decide)

theorem makeDirectories_sample : sampleWorld.files.makeDirectories "ca" = .ok sampleWorld.files :=
  leads_sample.makeDirectories

theorem lookup_sample {last : Bool} :
    sampleWorld.files.lookup last (certPath "ca") = .ok (["ca", "ca.crt"], .file [1] false) := by
  have hnode : sampleWorld.files.node? ["ca", currentCertEntry] = some (.file [1] false) := by
    decide
  exact leads_sample.lookup_file fileName_currentCertEntry hnode

theorem rename_sample : ∃ files, sampleWorld.files.rename (certPath "ca")
    (Path.join "ca" (Retired.name sampleWorld.clock)) = .ok files := by
  have hnode : sampleWorld.files.node? ["ca", currentCertEntry] = some (.file [1] false) := by
    decide
  have hgoal : sampleWorld.files.isDirectory ["ca", Retired.name sampleWorld.clock] = false := by
    decide
  exact ⟨_, leads_sample.rename fileName_currentCertEntry (Retired.fileName_name _)
    (Retired.currentCertEntry_ne_name _) hnode (by simp) hgoal⟩

theorem present_sample : sampleWorld.files.present (certPath "ca") = true := by
  rw [Files.present, lookup_sample]
  rfl

theorem outcome_sample : ∃ w', outcome (create "ca" "" 365 true) sampleWorld =
    (.error (.certificate (.validation .emptyCaName)), w') := by
  obtain ⟨files, hrename⟩ := rename_sample
  have hretire := outcome_retireCert "ca" true sampleWorld
  rw [if_pos present_sample, if_pos rfl, hrename] at hretire
  exact ⟨_, Prod.ext (outcome_create_empty makeDirectories_sample hretire) rfl⟩

theorem files_of_create_error_sample :
    ∃ e w', outcome (create "ca" "" 365 true) sampleWorld = (.error e, w') ∧ e.kind ≠ .io ∧
      Replaces sampleWorld.files "ca" true ∧
      ∃ made, sampleWorld.files.makeDirectories "ca" = .ok made ∧
        sampleWorld.files.AddsDirectories made ∧
        (w'.files = made ↔ ¬ Replaces made "ca" true) ∧
        (Replaces made "ca" true →
          made.rename (certPath "ca") (Path.join "ca" (Retired.name sampleWorld.clock)) =
              .ok w'.files ∧
            ∃ place node, made.lookup false (certPath "ca") = .ok (place, node) ∧
              w'.files.node? place = none) := by
  obtain ⟨w', h⟩ := outcome_sample
  have hio : (CommandError.certificate (.validation .emptyCaName)).kind ≠ .io := by decide
  exact ⟨_, w', h, hio, ⟨rfl, present_sample⟩,
    files_of_create_error "ca" "" 365 true sampleWorld w' _ h hio⟩

/-- A failed creation can take the certificate away that the directory had. -/
theorem create_error_moves_certificate :
    ∃ e w', outcome (create "ca" "" 365 true) sampleWorld = (.error e, w') ∧ e.kind ≠ .io ∧
      sampleWorld.files.node? ["ca", "ca.crt"] = some (.file [1] false) ∧
      w'.files.node? ["ca", "ca.crt"] = none := by
  obtain ⟨w', h⟩ := outcome_sample
  have hio : (CommandError.certificate (.validation .emptyCaName)).kind ≠ .io := by decide
  have hlookup : sampleWorld.files.lookup false (certPath "ca") = _ := lookup_sample
  have hnode := (Files.lookup_eq_ok_iff.1 hlookup).2
  refine ⟨_, w', h, hio, hnode, ?_⟩
  rcases files_of_create makeDirectories_sample h hio with ⟨hreplaces, -⟩ | ⟨-, hrename⟩
  · exact absurd ⟨rfl, present_sample⟩ hreplaces
  · obtain ⟨place, node, hlookup, hgone⟩ := Files.node?_of_rename plainName_currentCertEntry
      (Retired.plainName_name sampleWorld.clock)
      (Retired.currentCertEntry_ne_name sampleWorld.clock) hrename
    cases hlookup.symm.trans lookup_sample
    exact hgone

end CaDirectory

end ClusterCerts
