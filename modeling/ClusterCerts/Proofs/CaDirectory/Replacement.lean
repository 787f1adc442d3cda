import ClusterCerts.Proofs.Authority.Issue
import ClusterCerts.Proofs.CaDirectory.Create

/-!
# Replaced certificates

What creations by force, one after the other, keep of the certificates that they replace. Each
certificate gets the retired name of the time that the clock shows, and takes the place of what
had that name. So nothing is lost if and only if no two contents come to have one retired name:
neither those of two certificates replaced in one second, nor those of a certificate and of a
file that was there before.
-/

namespace ClusterCerts.CaDirectory

open Session

variable {dir name : String} {d p : Place} {days : UInt32} {fs fs' made : Files} {w w' : World}

def certPlace (d : Place) : Place := d ++ [.text currentCertEntry]

def keyPlace (d : Place) : Place := d ++ [.text keyEntry]

def retiredPlace (d : Place) (t : Instant) : Place := d ++ [.text (Retired.name t)]

def OwnPlace (d p : Place) : Prop := p = certPlace d ∨ p = keyPlace d ∨ ∃ t, p = retiredPlace d t

/-- A directory in which the names of its CA are those of files, as far as they are in use. -/
structure Orderly (fs : Files) (dir : String) (d : Place) : Prop where
  leads : fs.Leads dir d
  own : ∀ p, OwnPlace d p → fs.AtMostFile p

namespace Orderly

theorem cert (h : Orderly fs dir d) : fs.AtMostFile (certPlace d) := h.own _ (.inl rfl)

theorem key (h : Orderly fs dir d) : fs.AtMostFile (keyPlace d) := h.own _ (.inr (.inl rfl))

theorem retired (h : Orderly fs dir d) (t : Instant) : fs.AtMostFile (retiredPlace d t) :=
  h.own _ (.inr (.inr ⟨t, rfl⟩))

theorem of_differs {S : Place → Prop} (h : Orderly fs dir d) (hdiffers : fs.DiffersInFiles S fs') :
    Orderly fs' dir d :=
  ⟨h.leads.of_differs hdiffers, fun p hp => hdiffers.atMostFile (h.own p hp)⟩

end Orderly

theorem certPlace_ne_keyPlace (d : Place) : certPlace d ≠ keyPlace d := by
  simpa [certPlace, keyPlace] using currentCertEntry_ne_keyEntry

theorem retiredPlace_ne_certPlace (d : Place) (t : Instant) : retiredPlace d t ≠ certPlace d := by
  simpa [certPlace, retiredPlace] using (Retired.currentCertEntry_ne_name t).symm

theorem retiredPlace_ne_keyPlace (d : Place) (t : Instant) : retiredPlace d t ≠ keyPlace d := by
  simpa [keyPlace, retiredPlace] using (Retired.keyEntry_ne_name t).symm

theorem retiredPlace_eq_iff {t t' : Instant} :
    retiredPlace d t = retiredPlace d t' ↔ t.civil = t'.civil := by
  rw [← Retired.name_eq_iff]
  simp [retiredPlace]

structure Replacement where
  at_ : Instant
  found : Option Bytes
  reported : Option String

namespace Replacement

def keptAt (d p : Place) (r : Replacement) : Option Bytes :=
  if p = retiredPlace d r.at_ then r.found else none

def contentAfter (d p : Place) (before : Option Bytes) (rs : List Replacement) : Option Bytes :=
  rs.foldl (fun content r => (r.keptAt d p).or content) before

end Replacement

def Retires (d : Place) (t : Instant) (p : Place) : Prop := p = certPlace d ∨ p = retiredPlace d t

def Saves (d : Place) (p : Place) : Prop := p = certPlace d ∨ p = keyPlace d

theorem Retires.ownPlace {t : Instant} (h : Retires d t p) : OwnPlace d p :=
  h.imp_right fun h => .inr ⟨t, h⟩

theorem Saves.ownPlace (h : Saves d p) : OwnPlace d p := h.imp_right .inl

theorem outcome_retireCert_orderly {force : Bool} (h : Orderly w.files dir d)
    (hforce : force = true ∨ w.files.content? (certPlace d) = none) :
    ∃ files events, outcome (retireCert dir force) w =
        (.ok ((w.files.content? (certPlace d)).map fun _ => Retired.name w.clock),
          { w with files, events }) ∧
      w.files.DiffersInFiles (Retires d w.clock) files ∧
      files.content? (certPlace d) = none ∧
      ∀ p, p ≠ certPlace d → files.content? p =
        (if p = retiredPlace d w.clock then w.files.content? (certPlace d) else none).or
          (w.files.content? p) := by
  have hpresent : w.files.present (certPath dir) = (w.files.content? (certPlace d)).isSome :=
    h.leads.present fileName_currentCertEntry h.cert
  have hown (p : Place) (hp : Retires d w.clock p) : w.files.AtMostFile p := h.own p hp.ownPlace
  rw [outcome_retireCert, hpresent]
  rcases h.cert.cases with hnone | ⟨content, isPrivate, hfile⟩
  · have hcontent := Files.content?_of_none hnone
    rw [hcontent]
    refine ⟨w.files, w.events, by simp, ⟨.refl _ _, hown, hown⟩, hcontent, ?_⟩
    intro p _
    rw [ite_self, Option.none_or]
  · have hcontent := Files.content?_of_file hfile
    obtain rfl : force = true := hforce.resolve_right (by simp [hcontent])
    have hrename : w.files.rename (certPath dir) (Path.join dir (Retired.name w.clock)) =
        .ok (w.files.relocate (certPlace d) (retiredPlace d w.clock) (.file content isPrivate)) :=
      h.leads.rename fileName_currentCertEntry (Retired.fileName_name w.clock)
        (Retired.currentCertEntry_ne_name w.clock) hfile (by simp)
        (h.retired w.clock).isDirectory_eq_false
    have hcertNil := h.cert.ne_nil
    have hretiredNil := (h.retired w.clock).ne_nil
    rw [hcontent, hrename]
    refine ⟨_, _, rfl, Files.differs_relocate h.cert (h.retired w.clock) content isPrivate, ?_, ?_⟩
    · rw [Files.content?_relocate hcertNil hretiredNil,
        if_neg (retiredPlace_ne_certPlace d w.clock).symm, if_pos rfl]
    · intro p hp
      rw [Files.content?_relocate hcertNil hretiredNil, if_neg hp]
      split
      · rfl
      · rw [Option.none_or]

theorem outcome_save_orderly (h : Orderly w.files dir d) (a : Authority) :
    ∃ files, outcome (save dir a) w = (.ok (), { w with files }) ∧
      w.files.DiffersInFiles (Saves d) files ∧
      files.content? (certPlace d) = some (Bytes.ofString a.certPem) ∧
      files.content? (keyPlace d) = some a.privateKey.pem := by
  obtain ⟨certPrivate, hcert⟩ : ∃ isPrivate,
      w.files.write (certPath dir) (Bytes.ofString a.certPem) =
        .ok (w.files.put (certPlace d) (.file (Bytes.ofString a.certPem) isPrivate)) :=
    h.leads.write fileName_currentCertEntry h.cert _
  have hdiffers₁ := Files.differs_put h.cert (Bytes.ofString a.certPem) certPrivate
  have h₁ := h.of_differs hdiffers₁
  generalize hfs₁ : w.files.put (certPlace d) _ = fs₁ at hcert h₁ hdiffers₁
  obtain ⟨keyPrivate, hkey⟩ : ∃ isPrivate, fs₁.write (keyPath dir) a.privateKey.pem =
      .ok (fs₁.put (keyPlace d) (.file a.privateKey.pem isPrivate)) :=
    h₁.leads.write fileName_keyEntry h₁.key _
  have hdiffers₂ := Files.differs_put h₁.key a.privateKey.pem keyPrivate
  have h₂ := h₁.of_differs hdiffers₂
  have hrestrict : (fs₁.put (keyPlace d) (.file a.privateKey.pem keyPrivate)).restrict
      (keyPath dir) = .ok ((fs₁.put (keyPlace d) (.file a.privateKey.pem keyPrivate)).put
        (keyPlace d) (.file a.privateKey.pem true)) := by
    apply h₂.leads.restrict fileName_keyEntry
    exact (Files.node?_put fs₁ h₁.key.ne_nil _ _).trans (if_pos rfl)
  have hsaves (p : Place) (hp : Saves d p) : w.files.AtMostFile p := h.own p hp.ownPlace
  have hdiffers₃ := hdiffers₂.trans (Files.differs_put h₂.key a.privateKey.pem true)
  refine ⟨_, ?_, (hdiffers₁.mono (fun _ => .inl) hsaves).trans (hdiffers₃.mono (fun _ => .inr)
    fun p hp => h₁.own p hp.ownPlace), ?_, ?_⟩
  · rw [save, outcome_bind, outcome_write, hcert]
    simp only
    rw [outcome_bind, outcome_write, hkey]
    simp only
    rw [outcome_restrict, hrestrict]
  · rw [Files.content?_put h.key.ne_nil, if_neg (certPlace_ne_keyPlace d),
      Files.content?_put h.key.ne_nil, if_neg (certPlace_ne_keyPlace d), ← hfs₁,
      Files.content?_put h.cert.ne_nil, if_pos rfl]
  · rw [Files.content?_put h.key.ne_nil, if_pos rfl]

/-- What one creation by force leaves: the certificate made is the current one, the replaced one
is where its report says, and no other content changes but that of the key. -/
structure Installed (fs fs' : Files) (dir : String) (d : Place) (t : Instant) (a : Authority) :
    Prop where
  orderly : Orderly fs' dir d
  current : fs'.content? (certPlace d) = some (Bytes.ofString a.certPem)
  others : ∀ p, p ≠ certPlace d → p ≠ keyPlace d → fs'.content? p =
    (if p = retiredPlace d t then fs.content? (certPlace d) else none).or (fs.content? p)

def installReport (fs : Files) (dir : String) (d : Place) (days : UInt32) (t : Instant)
    (a : Authority) : AuthorityReport where
  name := a.name
  directory := dir
  validityDays := days
  replaced := (fs.content? (certPlace d)).map fun _ => Retired.name t

def Creates (d : Place) (t : Instant) (p : Place) : Prop := Retires d t p ∨ Saves d p

theorem Creates.ownPlace {t : Instant} (h : Creates d t p) : OwnPlace d p :=
  h.elim Retires.ownPlace Saves.ownPlace

theorem outcome_create_orderly (name : String) (days : UInt32) {force : Bool}
    (hmade : w.files.makeDirectories dir = .ok made) (h : Orderly made dir d)
    (hforce : force = true ∨ made.content? (certPlace d) = none) :
    ∃ w', outcome (create dir name days force) w =
        (((Authority.create name days w.clock (drawn w)).result.map
          (installReport made dir d days w.clock)).mapError .certificate, w') ∧
      made.DiffersInFiles (Creates d w.clock) w'.files ∧
      (∀ e, (Authority.create name days w.clock (drawn w)).result = .error e →
        w'.files.content? (certPlace d) = none) ∧
      ∀ a, (Authority.create name days w.clock (drawn w)).result = .ok a →
        Installed made w'.files dir d w.clock a ∧
          w'.files.content? (keyPlace d) = some a.privateKey.pem := by
  let w₀ := { w with files := made }
  obtain ⟨files₁, events, hretire, hdiffers₁, hnone, hcontent₁⟩ :=
    outcome_retireCert_orderly (w := w₀) h hforce
  have h₁ := h.of_differs hdiffers₁
  have hcreates₁ : made.DiffersInFiles (Creates d w.clock) files₁ :=
    hdiffers₁.mono (fun _ => .inl) fun p hp => h.own p hp.ownPlace
  have hdrawn : drawn { w₀ with files := files₁, events } = drawn w := rfl
  rw [create, outcome_bind, outcome_makeDirectories, hmade]
  simp only
  rw [outcome_bind, hretire]
  simp only
  rw [outcome_bind, outcome_now]
  simp only
  rw [outcome_bind, Workspace.outcome_perform, hdrawn]
  cases hresult : (Authority.create name days w.clock (drawn w)).result with
  | error e => exact ⟨_, rfl, hcreates₁, fun _ _ => hnone, by simp⟩
  | ok a =>
    obtain ⟨files, hsave, hdiffers₂, hcurrent, hkeyed⟩ := outcome_save_orderly
      (w := { w₀ with
        files := files₁
        entropy := w.entropy.draw.2
        events := events ++ (Authority.create name days w.clock (drawn w)).events }) h₁ a
    simp only [Except.mapError]
    rw [outcome_bind, hsave]
    refine ⟨_, rfl, ?_, by simp, ?_⟩
    · exact hcreates₁.trans (hdiffers₂.mono (fun _ => .inr) fun p hp => h₁.own p hp.ownPlace)
    · intro a' ha'
      cases ha'
      refine ⟨⟨h₁.of_differs hdiffers₂, hcurrent, ?_⟩, hkeyed⟩
      intro p hcert hkey
      have hsame := Files.content?_congr (hdiffers₂.same p (not_or.2 ⟨hcert, hkey⟩))
      exact hsame.trans (hcontent₁ p hcert)

theorem installed_of_create {report : AuthorityReport}
    (hmade : w.files.makeDirectories dir = .ok made) (h : Orderly made dir d)
    (hcreate : outcome (create dir name days true) w = (.ok report, w')) :
    ∃ a, (Authority.create name days w.clock (drawn w)).result = .ok a ∧
      report = installReport made dir d days w.clock a ∧
      Installed made w'.files dir d w.clock a := by
  obtain ⟨w'', houtcome, -, -, hinstalled⟩ := outcome_create_orderly name days hmade h (.inl rfl)
  rw [houtcome] at hcreate
  obtain ⟨hreport, rfl⟩ := Prod.mk.inj hcreate
  cases hresult : (Authority.create name days w.clock (drawn w)).result with
  | error e =>
    rw [hresult] at hreport
    cases hreport
  | ok a =>
    rw [hresult] at hreport
    cases hreport
    exact ⟨a, rfl, rfl, (hinstalled a hresult).1⟩

/-- Creations by force that succeed, one after the other, and what each of them replaced. They
may be at any times, in any order, and for authorities of any names. -/
inductive Forced (dir : String) (d : Place) (fs : Files) : List Replacement → Files → Prop
  | none : Forced dir d fs [] fs
  | create {rs : List Replacement} {name : String} {days : UInt32} {w w' : World}
      {report : AuthorityReport} (before : Forced dir d fs rs w.files)
      (success : outcome (create dir name days true) w = (.ok report, w')) :
      Forced dir d fs
        (rs ++ [⟨w.clock, w.files.content? (certPlace d), report.replaced⟩]) w'.files

/-- Every file but certificate and key is still there with its content, and so is every
replaced certificate under the name reported for it. -/
structure LosesNothing (d : Place) (fs : Files) (rs : List Replacement) (fs' : Files) : Prop where
  others : ∀ p content, p ≠ certPlace d → p ≠ keyPlace d → fs.content? p = some content →
    fs'.content? p = some content
  replaced : ∀ r ∈ rs, ∀ name, r.reported = some name → fs'.content? (d ++ [.text name]) = r.found

/-- No retired name is that of two contents: files that were there before have other names, and
certificates are replaced in different seconds. -/
structure Unambiguous (d : Place) (fs : Files) (rs : List Replacement) : Prop where
  others : ∀ r ∈ rs, ∀ content content', r.found = some content →
    fs.content? (retiredPlace d r.at_) = some content' → content = content'
  replaced : ∀ r ∈ rs, ∀ r' ∈ rs, r.at_.civil = r'.at_.civil →
    ∀ content content', r.found = some content → r'.found = some content' → content = content'

theorem orderly_of_forced {rs : List Replacement} (hmade : fs.makeDirectories dir = .ok made)
    (h : Orderly made dir d) (hforced : Forced dir d fs rs fs') :
    (∃ made', fs'.makeDirectories dir = .ok made' ∧ Orderly made' dir d) ∧
      (∀ r ∈ rs, r.reported = r.found.map fun _ => Retired.name r.at_) ∧
      ∀ p, p ≠ certPlace d → p ≠ keyPlace d →
        fs'.content? p = Replacement.contentAfter d p (fs.content? p) rs := by
  induction hforced with
  | none => exact ⟨⟨made, hmade, h⟩, by simp, fun p _ _ => rfl⟩
  | @create rs name days w w' report before success ih =>
    obtain ⟨⟨made', hmade', h'⟩, hreported, hcontent⟩ := ih
    obtain ⟨a, -, rfl, hinstalled⟩ := installed_of_create hmade' h' success
    have hsame := Files.content?_of_addsDirectories (Files.addsDirectories_makeDirectories hmade')
    refine ⟨⟨_, hinstalled.orderly.leads.makeDirectories, hinstalled.orderly⟩, ?_, ?_⟩
    · intro r hr
      rcases List.mem_append.1 hr with hr | hr
      · exact hreported r hr
      · rw [List.mem_singleton.1 hr, installReport, hsame]
    · intro p hcert hkey
      rw [hinstalled.others p hcert hkey, hsame, hsame, hcontent p hcert hkey,
        Replacement.contentAfter, Replacement.contentAfter, List.foldl_append]
      rfl

namespace Replacement

theorem keptAt_eq_some_iff {r : Replacement} {content : Bytes} :
    r.keptAt d p = some content ↔ p = retiredPlace d r.at_ ∧ r.found = some content := by
  unfold keptAt
  split
  · next hp => simp [hp]
  · next hp => simp [hp]

theorem contentAfter_cons (d p : Place) (before : Option Bytes) (r : Replacement)
    (rs : List Replacement) :
    contentAfter d p before (r :: rs) = contentAfter d p ((r.keptAt d p).or before) rs := rfl

theorem contentAfter_of_before {content : Bytes} {rs : List Replacement}
    (h : ∀ r ∈ rs, ∀ content', r.keptAt d p = some content' → content' = content) :
    contentAfter d p (some content) rs = some content := by
  induction rs with
  | nil => rfl
  | cons r rs ih =>
    have hrs := ih fun r' hr' => h r' (List.mem_cons_of_mem r hr')
    rw [contentAfter_cons]
    cases hkept : r.keptAt d p with
    | none => exact hrs
    | some content' =>
      rw [h r List.mem_cons_self content' hkept]
      exact hrs

theorem contentAfter_of_mem {before : Option Bytes} {content : Bytes} {rs : List Replacement}
    {r : Replacement} (hr : r ∈ rs) (hkept : r.keptAt d p = some content)
    (h : ∀ r ∈ rs, ∀ content', r.keptAt d p = some content' → content' = content) :
    contentAfter d p before rs = some content := by
  induction rs generalizing before with
  | nil => cases hr
  | cons r' rs ih =>
    rw [contentAfter_cons]
    rcases List.mem_cons.1 hr with rfl | hr
    · rw [hkept]
      exact contentAfter_of_before fun r' hr' => h r' (List.mem_cons_of_mem r hr')
    · exact ih hr fun r' hr' => h r' (List.mem_cons_of_mem _ hr')

end Replacement

theorem losesNothing_of_unambiguous {rs : List Replacement}
    (hreported : ∀ r ∈ rs, r.reported = r.found.map fun _ => Retired.name r.at_)
    (hcontent : ∀ p, p ≠ certPlace d → p ≠ keyPlace d →
      fs'.content? p = Replacement.contentAfter d p (fs.content? p) rs)
    (h : Unambiguous d fs rs) : LosesNothing d fs rs fs' where
  others p content hcert hkey hbefore := by
    rw [hcontent p hcert hkey, hbefore]
    apply Replacement.contentAfter_of_before
    intro r hr content' hkept
    obtain ⟨rfl, hfound⟩ := Replacement.keptAt_eq_some_iff.1 hkept
    exact h.others r hr content' content hfound hbefore
  replaced r hr name hname := by
    obtain ⟨content, hfound, rfl⟩ := Option.map_eq_some_iff.1 ((hreported r hr).symm.trans hname)
    rw [hfound]
    refine (hcontent _ (retiredPlace_ne_certPlace d _) (retiredPlace_ne_keyPlace d _)).trans ?_
    apply Replacement.contentAfter_of_mem hr (Replacement.keptAt_eq_some_iff.2 ⟨rfl, hfound⟩)
    intro r' hr' content' hkept
    obtain ⟨hplace, hfound'⟩ := Replacement.keptAt_eq_some_iff.1 hkept
    exact h.replaced r' hr' r hr (retiredPlace_eq_iff.1 hplace).symm content' content hfound' hfound

theorem unambiguous_of_losesNothing {rs : List Replacement}
    (hreported : ∀ r ∈ rs, r.reported = r.found.map fun _ => Retired.name r.at_)
    (h : LosesNothing d fs rs fs') : Unambiguous d fs rs := by
  have hkept (r : Replacement) (hr : r ∈ rs) (content : Bytes) (hfound : r.found = some content) :
      fs'.content? (retiredPlace d r.at_) = some content := by
    have hname := hreported r hr
    rw [hfound] at hname
    exact (h.replaced r hr _ hname).trans hfound
  refine ⟨?_, ?_⟩
  · intro r hr content content' hfound hbefore
    have hother := h.others _ content' (retiredPlace_ne_certPlace d _)
      (retiredPlace_ne_keyPlace d _) hbefore
    exact Option.some.inj ((hkept r hr content hfound).symm.trans hother)
  · intro r hr r' hr' hcivil content content' hfound hfound'
    have hsecond := hkept r' hr' content' hfound'
    rw [← retiredPlace_eq_iff.2 hcivil] at hsecond
    exact Option.some.inj ((hkept r hr content hfound).symm.trans hsecond)

/-- A series of creations by force reports a retired name for each certificate that it finds, and
leaves in each file but certificate and key what was put there last. So it loses nothing if and
only if no retired name is that of two contents. -/
theorem losesNothing_iff_unambiguous (dir : String) (d : Place) (fs made fs' : Files)
    (rs : List Replacement) (hmade : fs.makeDirectories dir = .ok made)
    (horderly : Orderly made dir d) (hforced : Forced dir d fs rs fs') :
    (∀ r ∈ rs, r.reported = r.found.map fun _ => Retired.name r.at_) ∧
      (∀ p, p ≠ certPlace d → p ≠ keyPlace d →
        fs'.content? p = Replacement.contentAfter d p (fs.content? p) rs) ∧
      (LosesNothing d fs rs fs' ↔ Unambiguous d fs rs) := by
  obtain ⟨-, hreported, hcontent⟩ := orderly_of_forced hmade horderly hforced
  exact ⟨hreported, hcontent, unambiguous_of_losesNothing hreported,
    losesNothing_of_unambiguous hreported hcontent⟩

theorem orderly_sample : Orderly sampleWorld.files "ca" ["ca"] where
  leads := leads_sample
  own := by
    have hcert : sampleWorld.files.node? ["ca", "ca.crt"] = some (.file [1] false) := by
      decide
    have hkey : sampleWorld.files.node? ["ca", "ca.key"] = some (.file [2] true) := by
      decide
    rintro p (rfl | rfl | ⟨t, rfl⟩)
    · exact Files.atMostFile_of_file hcert
    · exact Files.atMostFile_of_file hkey
    · apply Files.atMostFile_of_none
      have hkeys : sampleWorld.files.nodes.keys =
          [[.text "ca"], [.text "ca", .text "ca.crt"], [.text "ca", .text "ca.key"]] := by
        decide
      have hcert : "ca.crt" ≠ Retired.name t := Retired.currentCertEntry_ne_name t
      have hkey : "ca.key" ≠ Retired.name t := Retired.keyEntry_ne_name t
      rw [Files.node?, if_neg (by simp [retiredPlace]), SortedMap.get?_eq_none_iff, hkeys]
      simp [retiredPlace, hcert.symm, hkey.symm]

theorem authority_sample (e : Entropy) : (Authority.create "ca" 365 sampleWorld.clock e).result =
    .ok (Authority.ofMaterial "ca" ⟨1699996400, 1731536000⟩ (Material.draw e).1) := by
  have hwindow : Window.ofDays 365 sampleWorld.clock = .ok ⟨1699996400, 1731536000⟩ :=
    Except.eq_ok_of_toOption (by decide)
  exact Authority.create_ok_iff.2 ⟨by decide, _, hwindow, by decide, rfl⟩

theorem exists_create_sample (fs : Files) (h : Orderly fs "ca" ["ca"]) :
    ∃ report w' der, outcome (create "ca" "ca" 365 true) { sampleWorld with files := fs } =
        (.ok report, w') ∧ Orderly w'.files "ca" ["ca"] ∧
      report.replaced =
        (fs.content? (certPlace ["ca"])).map (fun _ => Retired.name sampleWorld.clock) ∧
      w'.files.content? (certPlace ["ca"]) =
        some (Bytes.ofString (Authority.certificatePem der)) := by
  obtain ⟨w', houtcome, -, -, hinstalled⟩ := outcome_create_orderly
    (w := { sampleWorld with files := fs }) "ca" 365 h.leads.makeDirectories h (.inl rfl)
  have hinstalled := (hinstalled _ (authority_sample _)).1
  rw [authority_sample] at houtcome
  exact ⟨_, w', _, houtcome, hinstalled.orderly, rfl, hinstalled.current⟩

theorem forced_sample : ∃ der fs', Forced "ca" ["ca"] sampleWorld.files
    [⟨sampleWorld.clock, some [1], some (Retired.name sampleWorld.clock)⟩,
      ⟨sampleWorld.clock, some (Bytes.ofString (Authority.certificatePem der)),
        some (Retired.name sampleWorld.clock)⟩] fs' := by
  have hfound : sampleWorld.files.content? (certPlace ["ca"]) = some [1] := by decide
  obtain ⟨report₁, w₁, der, hcreate₁, h₁, hreplaced₁, hcurrent₁⟩ :=
    exists_create_sample sampleWorld.files orderly_sample
  obtain ⟨report₂, w₂, -, hcreate₂, h₂, hreplaced₂, -⟩ := exists_create_sample w₁.files h₁
  have hfirst := Forced.create (d := ["ca"]) (w := sampleWorld) .none hcreate₁
  have hforced := Forced.create (w := { sampleWorld with files := w₁.files }) hfirst hcreate₂
  rw [hfound] at hreplaced₁
  rw [hcurrent₁] at hreplaced₂
  refine ⟨der, w₂.files, ?_⟩
  simpa [hfound, hcurrent₁, hreplaced₁, hreplaced₂] using hforced

theorem losesNothing_iff_unambiguous_sample : ∃ rs fs',
    sampleWorld.files.makeDirectories "ca" = .ok sampleWorld.files ∧
      Orderly sampleWorld.files "ca" ["ca"] ∧ Forced "ca" ["ca"] sampleWorld.files rs fs' ∧
      (∀ r ∈ rs, r.reported = r.found.map fun _ => Retired.name r.at_) ∧
      (∀ p, p ≠ certPlace ["ca"] → p ≠ keyPlace ["ca"] → fs'.content? p =
        Replacement.contentAfter ["ca"] p (sampleWorld.files.content? p) rs) ∧
      (LosesNothing ["ca"] sampleWorld.files rs fs' ↔
        Unambiguous ["ca"] sampleWorld.files rs) := by
  obtain ⟨der, fs', hforced⟩ := forced_sample
  exact ⟨_, fs', makeDirectories_sample, orderly_sample, hforced,
    losesNothing_iff_unambiguous "ca" ["ca"] _ _ fs' _ makeDirectories_sample
      orderly_sample hforced⟩

theorem ofString_encode_ne (label : String) (der : Bytes) :
    Bytes.ofString (Pem.encode label der) ≠ [1] := by
  intro h
  have hone : Bytes.ofString (String.ofList ['\x01']) = [1] :=
    Bytes.ofString_ofList (by simp)
  have hmark : Pem.beginMark.head? = some '-' := by decide
  have hchars := congrArg (fun s => s.toList.head?) (Bytes.ofString_injective (h.trans hone.symm))
  simp [Pem.encode, Pem.encodeChars, hmark] at hchars

theorem ofString_certificatePem_ne (der : Bytes) :
    Bytes.ofString (Authority.certificatePem der) ≠ [1] := ofString_encode_ne "CERTIFICATE" der

/-- After two replacements at one instant, the first certificate is not where it was reported. -/
theorem forced_loses_certificate : ∃ rs fs', Forced "ca" ["ca"] sampleWorld.files rs fs' ∧
    ∃ r ∈ rs, ∃ name, r.found = some [1] ∧ r.reported = some name ∧
      fs'.content? ["ca", name] ≠ some [1] := by
  obtain ⟨der, fs', hforced⟩ := forced_sample
  obtain ⟨-, -, hcontent⟩ := orderly_of_forced makeDirectories_sample orderly_sample hforced
  have hplace := hcontent (retiredPlace ["ca"] sampleWorld.clock) (retiredPlace_ne_certPlace _ _)
    (retiredPlace_ne_keyPlace _ _)
  refine ⟨_, fs', hforced, _, List.mem_cons_self, _, rfl, rfl, ?_⟩
  show fs'.content? (retiredPlace ["ca"] sampleWorld.clock) ≠ some [1]
  rw [hplace]
  simp [Replacement.contentAfter, Replacement.keptAt, ofString_certificatePem_ne]

end ClusterCerts.CaDirectory
