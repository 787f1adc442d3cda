import ClusterCerts.Proofs.Commands.Alike
import ClusterCerts.Proofs.Files.Overwriting
import ClusterCerts.Proofs.SecretData.Document
import ClusterCerts.Proofs.SecretData.RoundTrip

/-!
# Stored bundles

Bundles that were written to a file are read from it as they were, whatever their pods are called,
and reading them has nothing to report.
-/

namespace ClusterCerts.DocumentFile

open Session Workspace

variable {w w' : World} {path : String} {data : SecretData} {certs : CertificateMap}

def stored (data : SecretData) : Bytes := Bytes.ofString data.toJson.prettyText

theorem outcome_readBundles (h : w.files.read path = .ok (stored data)) :
    outcome (readBundles path) w =
      (.ok data.decode, { w with events := w.events ++ data.decodeEvents }) := by
  have hread : outcome (DocumentFile.read SecretData.decoder path : Session SecretData) w =
      (.ok data, w) := outcome_readDocument h data.ofText_prettyText
  rw [readBundles, outcome_bind, outcome_present, Files.present_of_read h]
  simp only [Bool.not_true, Bool.false_eq_true, if_false]
  simp only [outcome_bind, outcome_pure, hread, outcome_report]

theorem outcome_readBundles_absent (h : w.files.present path = false) :
    outcome (readBundles path) w =
      (.ok ∅, { w with events := w.events ++ [.noSecretData path] }) := by
  rw [readBundles, outcome_bind, outcome_present, h]
  rfl

theorem readBundles_ok (h : outcome (readBundles path) w = (.ok certs, w')) :
    ∃ events, w' = { w with events := w.events ++ events } := by
  cases hpresent : w.files.present path with
  | false =>
    rw [outcome_readBundles_absent hpresent] at h
    cases h
    exact ⟨_, rfl⟩
  | true =>
    rw [readBundles, outcome_bind, outcome_present, hpresent] at h
    simp only [Bool.not_true, Bool.false_eq_true, if_false] at h
    obtain ⟨data, w₂, hdata, h⟩ := outcome_bind_ok h
    rw [((alike_read SecretData.decoder rfl).outcome_eq hdata).1] at hdata
    cases hdata
    cases h
    exact ⟨_, rfl⟩

theorem outcome_writeSecretData :
    outcome (writeSecretData path data) w =
      match w.files.write (Path.draft path) (stored data) with
      | .error fault => (.error (.io fault), w)
      | .ok fs₁ =>
        match fs₁.rename (Path.draft path) path with
        | .error fault => (.error (.io fault), { w with files := fs₁ })
        | .ok fs₂ => (.ok (), { w with
            files := fs₂, events := w.events ++ [.secretDataWritten data.size path] }) := by
  rw [writeSecretData, outcome_bind, outcome_write, ← stored]
  cases w.files.write (Path.draft path) (stored data) with
  | error fault => rfl
  | ok fs₁ =>
    simp only [outcome_bind, outcome_rename, outcome_report]
    cases fs₁.rename (Path.draft path) path with
    | error fault => rfl
    | ok fs₂ => rfl

theorem overwritten_of_write (h : outcome (writeSecretData path data) w = (.ok (), w'))
    (hdraft : ∃ p, w.files.LeadsPast (fun q => w.files.locate false path = .ok q)
      (Path.draft path) p) :
    ∃ dir name sibling d, w'.files.Overwritten path (stored data) dir name sibling d ∧
      Files.AgreesOutside (w.files.Touched path) w.files w'.files := by
  obtain ⟨p, hdraft⟩ := hdraft
  rw [outcome_writeSecretData] at h
  split at h
  · cases h
  · next fs₁ hwrite =>
    split at h
    · cases h
    · next fs₂ hrename =>
      cases h
      exact Files.overwritten_of_rename hwrite hrename hdraft

theorem write_of_rename {fs₁ fs₂ : Files}
    (hwrite : w.files.write (Path.draft path) (stored data) = .ok fs₁)
    (hrename : fs₁.rename (Path.draft path) path = .ok fs₂) :
    ∃ w', outcome (writeSecretData path data) w = (.ok (), w') ∧ w'.files = fs₂ := by
  rw [outcome_writeSecretData]
  simp only [hwrite, hrename]
  exact ⟨_, rfl, rfl⟩

theorem write_again {old : Bytes} {dir name sibling : String} {d : Place}
    (h : w.files.Overwritten path old dir name sibling d) (data : SecretData) :
    ∃ w', outcome (writeSecretData path data) w = (.ok (), w') ∧
      w'.files.read path = .ok (stored data) := by
  obtain ⟨fs₁, fs₂, hwrite, hrename, hover⟩ := h.overwrite (stored data)
  obtain ⟨w', hwritten, rfl⟩ := write_of_rename hwrite hrename
  exact ⟨w', hwritten, hover.read⟩

end ClusterCerts.DocumentFile
