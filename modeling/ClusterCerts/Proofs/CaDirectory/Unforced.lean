import ClusterCerts.Proofs.CaDirectory.Replacement
import ClusterCerts.Proofs.Files.Overwriting

/-!
# Creations without force

A creation without force ends where a directory has a certificate, but it does not ask for a key.
So all that it writes is new, with one exception: the key of a directory that has no certificate is
overwritten.
-/

namespace ClusterCerts

namespace Files

variable {fs fs' : Files} {path : String} {p : Place} {content : Bytes} {isPrivate : Bool}

theorem exists_put_of_write (h : fs.write path content = .ok fs') :
    ∃ p isPrivate, fs.locate true path = .ok p ∧ fs.AtMostFile p ∧ fs'.locate true path = .ok p ∧
      fs'.node? p = some (.file content isPrivate) ∧ DiffersInFiles (· = p) fs fs' ∧
      ∀ q, fs'.content? q = if q = p then some content else fs.content? q := by
  obtain ⟨-, p, isPrivate, hp, hfile, rfl⟩ := write_ok h
  have hdiffers := differs_put hfile content isPrivate
  refine ⟨p, isPrivate, hp, hfile, hdiffers.locate hp, ?_, hdiffers,
    content?_put hfile.ne_nil content isPrivate⟩
  rw [node?_put fs hfile.ne_nil, if_pos rfl]

theorem restrict_of_locate (hp : fs.locate true path = .ok p)
    (hnode : fs.node? p = some (.file content isPrivate)) :
    fs.restrict path = .ok (fs.put p (.file content true)) := by
  rw [Files.restrict, lookup_eq_ok_iff.2 ⟨hp, hnode⟩]
  rfl

theorem node?_of_not_present (h : fs.present path = false) (hp : fs.locate true path = .ok p) :
    fs.node? p = none := by
  rw [Option.eq_none_iff_forall_ne_some]
  intro node hnode
  rw [present, lookup_eq_ok_iff.2 ⟨hp, hnode⟩] at h
  cases h

end Files

namespace CaDirectory

open Session

variable {dir name : String} {days : UInt32} {w w' : World} {p : Place} {content : Bytes}

theorem save_cases {a : Authority} {r : Except CommandError Unit}
    (h : outcome (save dir a) w = (r, w')) :
    ((∃ e, r = .error e) ∧ w'.files = w.files) ∨
      ∃ c, w.files.locate true (certPath dir) = .ok c ∧
        (((∃ e, r = .error e) ∧ ∀ q, w'.files.content? q =
            if q = c then some (Bytes.ofString a.certPem) else w.files.content? q) ∨
          r = .ok () ∧ ∃ k, w.files.locate true (keyPath dir) = .ok k ∧ ∀ q, w'.files.content? q =
            if q = k then some a.privateKey.pem
            else if q = c then some (Bytes.ofString a.certPem) else w.files.content? q) := by
  rw [save, outcome_bind, outcome_write] at h
  cases hcert : w.files.write (certPath dir) (Bytes.ofString a.certPem) with
  | error fault =>
    rw [hcert] at h
    cases h
    exact .inl ⟨⟨_, rfl⟩, rfl⟩
  | ok fs₁ =>
    obtain ⟨c, -, hc, -, -, -, hdiffers, hcontent₁⟩ := Files.exists_put_of_write hcert
    simp only [hcert] at h
    rw [outcome_bind, outcome_write] at h
    refine .inr ⟨c, hc, ?_⟩
    cases hkey : fs₁.write (keyPath dir) a.privateKey.pem with
    | error fault =>
      simp only [hkey] at h
      cases h
      exact .inl ⟨⟨_, rfl⟩, hcontent₁⟩
    | ok fs₂ =>
      obtain ⟨k, isPrivate, hk, -, hk₂, hnode, -, hcontent₂⟩ := Files.exists_put_of_write hkey
      have hfile := Files.atMostFile_of_file hnode
      simp only [hkey] at h
      rw [outcome_restrict, Files.restrict_of_locate hk₂ hnode] at h
      cases h
      refine .inr ⟨rfl, k, hdiffers.symm.locate hk, fun q => ?_⟩
      rw [Files.content?_put hfile.ne_nil, ← hcontent₁]
      split
      · rfl
      · next hq => rw [hcontent₂, if_neg hq]

theorem create_cases {r : Except CommandError AuthorityReport}
    (h : outcome (create dir name days false) w = (r, w')) :
    ((∃ e, r = .error e) ∧ w.files.AddsDirectories w'.files) ∨
      ∃ made a saved w₁ w₂, w.files.makeDirectories dir = .ok made ∧
        made.present (certPath dir) = false ∧
        (Authority.create name days w.clock (drawn w)).result = .ok a ∧ w₁.files = made ∧
        outcome (save dir a) w₁ = (saved, w₂) ∧ w'.files = w₂.files ∧
        r = saved.map fun _ =>
          { name := a.name, directory := dir, validityDays := days, replaced := none } := by
  rw [create, outcome_bind, outcome_makeDirectories] at h
  cases hmade : w.files.makeDirectories dir with
  | error fault =>
    rw [hmade] at h
    cases h
    exact .inl ⟨⟨_, rfl⟩, .refl w.files⟩
  | ok made =>
    have hadds := Files.addsDirectories_makeDirectories hmade
    simp only [hmade] at h
    rw [outcome_bind, outcome_retireCert] at h
    cases hpresent : made.present (certPath dir) with
    | true =>
      simp only [hpresent, if_true, Bool.false_eq_true, if_false] at h
      cases h
      exact .inl ⟨⟨_, rfl⟩, hadds⟩
    | false =>
      simp only [hpresent, Bool.false_eq_true, if_false] at h
      rw [outcome_bind, outcome_now] at h
      simp only at h
      rw [outcome_bind, Workspace.outcome_perform] at h
      cases hresult : (Authority.create name days w.clock (drawn w)).result with
      | error e =>
        have hdrawn : drawn { w with files := made } = drawn w := rfl
        simp only [hdrawn, hresult, Except.mapError] at h
        cases h
        exact .inl ⟨⟨_, rfl⟩, hadds⟩
      | ok a =>
        have hdrawn : drawn { w with files := made } = drawn w := rfl
        simp only [hdrawn, hresult, Except.mapError] at h
        rw [outcome_bind] at h
        split at h
        · next hsave =>
          cases h
          exact .inr ⟨made, a, _, _, _, rfl, hpresent, rfl, rfl, hsave, rfl, rfl⟩
        · next hsave =>
          cases h
          exact .inr ⟨made, a, _, _, _, rfl, hpresent, rfl, rfl, hsave, rfl, rfl⟩

/-- The creation succeeds and puts its key in the place of the content, in a directory that had no
certificate. -/
def OverwritesKey (dir name : String) (days : UInt32) (w : World)
    (r : Except CommandError AuthorityReport) (p : Place) (content : Bytes) : Prop :=
  ∃ made a report, w.files.makeDirectories dir = .ok made ∧
    made.present (certPath dir) = false ∧ made.locate true (keyPath dir) = .ok p ∧
    (Authority.create name days w.clock (drawn w)).result = .ok a ∧ a.privateKey.pem ≠ content ∧
    r = .ok report

theorem not_overwritesKey_error {e : CommandError} :
    ¬ OverwritesKey dir name days w (.error e) p content := by
  rintro ⟨-, -, report, -, -, -, -, -, hr⟩
  cases hr

theorem overwritesKey_ok_iff {made : Files} {a : Authority} {k : Place} {report : AuthorityReport}
    (hmade : w.files.makeDirectories dir = .ok made)
    (hpresent : made.present (certPath dir) = false)
    (ha : (Authority.create name days w.clock (drawn w)).result = .ok a)
    (hk : made.locate true (keyPath dir) = .ok k) :
    OverwritesKey dir name days w (.ok report) p content ↔ p = k ∧ a.privateKey.pem ≠ content := by
  constructor
  · rintro ⟨made', a', -, hmade', -, hp, ha', hne, -⟩
    rw [hmade] at hmade'
    cases hmade'
    rw [ha] at ha'
    cases ha'
    exact ⟨Except.ok.inj (hp.symm.trans hk), hne⟩
  · rintro ⟨rfl, hne⟩
    exact ⟨made, a, report, hmade, hpresent, hk, ha, hne, rfl⟩

/-- After a creation without force, each file has the content that it had, if and only if it is not
a key that the creation has overwritten. -/
theorem content_of_unforced (dir name : String) (days : UInt32) (w w' : World)
    (r : Except CommandError AuthorityReport) (p : Place) (content : Bytes)
    (h : outcome (create dir name days false) w = (r, w'))
    (hp : w.files.content? p = some content) :
    w'.files.content? p = some content ↔ ¬ OverwritesKey dir name days w r p content := by
  rcases create_cases h with ⟨⟨e, rfl⟩, hadds⟩ |
    ⟨made, a, saved, w₁, w₂, hmade, hpresent, ha, rfl, hsave, hfiles, rfl⟩
  · rw [Files.content?_of_addsDirectories hadds]
    exact iff_of_true hp not_overwritesKey_error
  · have hp₁ : w₁.files.content? p = some content :=
      (Files.content?_of_addsDirectories (Files.addsDirectories_makeDirectories hmade) p).trans hp
    -- there was nothing where the certificate is written
    have hnew {c : Place} (hc : w₁.files.locate true (certPath dir) = .ok c) : p ≠ c := by
      rintro rfl
      rw [Files.content?_of_none (Files.node?_of_not_present hpresent hc)] at hp₁
      cases hp₁
    rw [hfiles]
    rcases save_cases hsave with ⟨⟨e, rfl⟩, hkept⟩ |
      ⟨c, hc, ⟨⟨e, rfl⟩, hcontent⟩ | ⟨rfl, k, hk, hcontent⟩⟩
    · rw [hkept]
      exact iff_of_true hp₁ not_overwritesKey_error
    · rw [hcontent, if_neg (hnew hc)]
      exact iff_of_true hp₁ not_overwritesKey_error
    · rw [hcontent, if_neg (hnew hc), hp₁]
      refine Iff.trans ?_ (not_congr (overwritesKey_ok_iff hmade hpresent ha hk)).symm
      by_cases hkey : p = k
      · simp [hkey]
      · simp [hkey]

theorem key_of_create {report : AuthorityReport}
    (h : outcome (create dir name days false) w = (.ok report, w')) :
    ∃ made k, ∃ a : Authority, w.files.makeDirectories dir = .ok made ∧
      made.locate true (keyPath dir) = .ok k ∧ w'.files.content? k = some a.privateKey.pem := by
  rcases create_cases h with ⟨⟨e, hr⟩, -⟩ |
    ⟨made, a, saved, w₁, w₂, hmade, -, -, rfl, hsave, hfiles, hr⟩
  · cases hr
  · rcases save_cases hsave with ⟨⟨e, rfl⟩, -⟩ | ⟨c, -, ⟨⟨e, rfl⟩, -⟩ | ⟨-, k, hk, hcontent⟩⟩
    · cases hr
    · cases hr
    · exact ⟨_, k, a, hmade, hk, by rw [hfiles, hcontent, if_pos rfl]⟩

def keyOnlyWorld : World :=
  { sampleWorld with
    files := { nodes := .ofList [(["ca"], .directory), (keyPlace ["ca"], .file [1] true)] } }

theorem content?_keyOnly : keyOnlyWorld.files.content? (keyPlace ["ca"]) = some [1] := by
  decide

theorem orderly_keyOnly : Orderly keyOnlyWorld.files "ca" ["ca"] where
  leads := Files.leads_name rfl (by decide) (by decide)
  own := by
    have hkeys : keyOnlyWorld.files.nodes.keys = [[.text "ca"], keyPlace ["ca"]] := by decide
    have hkey : keyOnlyWorld.files.node? (keyPlace ["ca"]) = some (.file [1] true) := by
      decide
    have hnone {name : String} (hname : keyEntry ≠ name) :
        keyOnlyWorld.files.AtMostFile ["ca", name] := by
      apply Files.atMostFile_of_none
      rw [Files.node?, if_neg (by simp), SortedMap.get?_eq_none_iff, hkeys]
      simp [keyPlace, hname.symm]
    rintro p (rfl | rfl | ⟨t, rfl⟩)
    · exact hnone currentCertEntry_ne_keyEntry.symm
    · exact Files.atMostFile_of_file hkey
    · exact hnone (Retired.keyEntry_ne_name t)

theorem create_keyOnly : ∃ report w', outcome (create "ca" "ca" 365 false) keyOnlyWorld =
    (.ok report, w') := by
  obtain ⟨w', houtcome, -⟩ := outcome_create_orderly (w := keyOnlyWorld) "ca" 365
    orderly_keyOnly.leads.makeDirectories orderly_keyOnly (.inr (by decide))
  have ha : (Authority.create "ca" 365 keyOnlyWorld.clock (drawn keyOnlyWorld)).result = _ :=
    authority_sample _
  rw [ha] at houtcome
  exact ⟨_, w', houtcome⟩

theorem content_of_unforced_sample : ∃ r w',
    outcome (create "ca" "ca" 365 false) keyOnlyWorld = (r, w') ∧
      keyOnlyWorld.files.content? (keyPlace ["ca"]) = some [1] ∧
      (w'.files.content? (keyPlace ["ca"]) = some [1] ↔
        ¬ OverwritesKey "ca" "ca" 365 keyOnlyWorld r (keyPlace ["ca"]) [1]) := by
  obtain ⟨report, w', h⟩ := create_keyOnly
  exact ⟨_, w', h, content?_keyOnly,
    content_of_unforced "ca" "ca" 365 keyOnlyWorld w' _ _ _ h content?_keyOnly⟩

/-- A creation without force can take the place of the key that a directory holds. -/
theorem unforced_loses_key : ∃ report w',
    outcome (create "ca" "ca" 365 false) keyOnlyWorld = (.ok report, w') ∧
      keyOnlyWorld.files.content? ["ca", "ca.key"] = some [1] ∧
      w'.files.content? ["ca", "ca.key"] ≠ some [1] := by
  obtain ⟨report, w', h⟩ := create_keyOnly
  refine ⟨report, w', h, content?_keyOnly, fun hkept => ?_⟩
  obtain ⟨made, k, a, hmade, hk, hkey⟩ := key_of_create h
  rw [orderly_keyOnly.leads.makeDirectories] at hmade
  cases hmade
  have hplace : keyOnlyWorld.files.locate true (keyPath "ca") = .ok (keyPlace ["ca"]) :=
    orderly_keyOnly.leads.locate fileName_keyEntry orderly_keyOnly.key
  obtain rfl : keyPlace ["ca"] = k := Except.ok.inj (hplace.symm.trans hk)
  have hpem : a.privateKey.pem = [1] := Option.some.inj (hkey.symm.trans hkept)
  rw [Authority.privateKey, Authority.keyPem] at hpem
  exact ofString_encode_ne "PRIVATE KEY" a.keyDer hpem

end CaDirectory

end ClusterCerts
