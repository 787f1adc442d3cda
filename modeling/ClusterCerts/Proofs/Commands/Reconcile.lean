import ClusterCerts.Commands
import ClusterCerts.Proofs.Authority.Chain
import ClusterCerts.Proofs.Cycle.Fixpoint
import ClusterCerts.Proofs.DocumentFile.Storing

/-!
# Reconciling again

A reconciliation that keeps its bundles in a file finds them there the next time. With the same
request and CA it then keeps every certificate and writes the same bytes, as long as none of the
certificates is to be replaced for its age.
-/

namespace ClusterCerts

open Session Workspace

variable {domain ca request f : String} {w w' w₁ : World} {q : Request} {a : Authority}
  {existing : CertificateMap} {settings : CaSettings} {r : Reconciled}

def Request.cycle (q : Request) (domain : String) (a : Authority) (clock : Instant)
    (existing : CertificateMap) : Cycle Entropy where
  anchor := ((ManagedCa.ofAuthority (q.settings domain) a).withSignal q.signal).anchor clock
  subject := q.component.subject (q.naming domain) q.external
  existing := existing
  windowOpen := q.windowOpen

theorem perform_ok {α : Type} {task : Entropy → Outcome Entropy α} {x : α}
    (h : outcome (perform task) w = (.ok x, w')) :
    (task (drawn w)).result = .ok x ∧ w'.files = w.files := by
  rw [outcome_perform] at h
  cases hresult : (task (drawn w)).result with
  | error e =>
    rw [hresult] at h
    cases h
  | ok y =>
    rw [hresult] at h
    cases h
    exact ⟨rfl, rfl⟩

theorem reconcileStored_ok
    (h : outcome (reconcileStored domain ca request (some f)) w = (.ok (settings, r), w₁)) :
    ∃ q a existing, outcome (DocumentFile.readRequest request) w = (.ok q, w) ∧
      outcome (CaDirectory.load ca) w = (.ok a, w) ∧ settings = q.settings domain ∧
      ((q.cycle domain a w.clock existing).run q.nodes (drawn w)).result = .ok r ∧
      w₁.files = w.files := by
  rw [reconcileStored] at h
  obtain ⟨q, w₂, hq, h⟩ := outcome_bind_ok h
  have hq' := ((DocumentFile.alike_readRequest rfl).outcome_eq hq).1
  obtain rfl : w = w₂ := congrArg Prod.snd (hq'.symm.trans hq)
  obtain ⟨a, w₂, ha, h⟩ := outcome_bind_ok h
  have ha' := ((CaDirectory.alike_load rfl rfl rfl rfl).outcome_eq ha).1
  obtain rfl : w = w₂ := congrArg Prod.snd (ha'.symm.trans ha)
  obtain ⟨existing, w₂, hexisting, h⟩ := outcome_bind_ok h
  obtain ⟨events, rfl⟩ := DocumentFile.readBundles_ok hexisting
  obtain ⟨clock, w₂, hclock, h⟩ := outcome_bind_ok h
  rw [outcome_now] at hclock
  cases hclock
  obtain ⟨r', w₂, hr, h⟩ := outcome_bind_ok h
  cases h
  obtain ⟨hresult, hfiles⟩ := perform_ok hr
  exact ⟨q, a, existing, hq, ha, rfl, hresult, hfiles⟩

theorem outcome_reconcileStored {events : List Event}
    (hq : outcome (DocumentFile.readRequest request) w = (.ok q, w))
    (ha : outcome (CaDirectory.load ca) w = (.ok a, w))
    (hexisting : outcome (DocumentFile.readBundles f) w =
      (.ok existing, { w with events := w.events ++ events }))
    (hr : ((q.cycle domain a w.clock existing).run q.nodes (drawn w)).result = .ok r) :
    ∃ w₁, outcome (reconcileStored domain ca request (some f)) w =
      (.ok (q.settings domain, r), w₁) ∧ w₁.files = w.files := by
  have hresult : (q.component.reconcile (q.naming domain) q.external
      (((ManagedCa.ofAuthority (q.settings domain) a).withSignal q.signal).anchor w.clock)
      existing q.windowOpen q.nodes
      (drawn { w with events := w.events ++ events })).result = .ok r := hr
  rw [reconcileStored, outcome_bind, hq]
  simp only [outcome_bind, ha, hexisting, outcome_now, outcome_perform, hresult, Except.mapError,
    outcome_pure]
  exact ⟨_, rfl, rfl⟩

theorem reconcileFiles_ok {report : CycleReport}
    (h : outcome (reconcileFiles domain ca request (some f) (some f)) w = (.ok report, w')) :
    ∃ settings r w₁, outcome (reconcileStored domain ca request (some f)) w =
        (.ok (settings, r), w₁) ∧
      report = cycleReport settings r (some f) ∧
      outcome (DocumentFile.writeSecretData f (SecretData.encode r.certs)) w₁ = (.ok (), w') := by
  rw [reconcileFiles] at h
  obtain ⟨⟨settings, r⟩, w₁, hstored, h⟩ := outcome_bind_ok h
  obtain ⟨_, w₂, hwrite, h⟩ := outcome_bind_ok h
  cases h
  exact ⟨settings, r, w₁, hstored, rfl, hwrite⟩

theorem outcome_reconcileFiles
    (hstored : outcome (reconcileStored domain ca request (some f)) w = (.ok (settings, r), w₁))
    (hwrite : outcome (DocumentFile.writeSecretData f (SecretData.encode r.certs)) w₁ =
      (.ok (), w')) :
    outcome (reconcileFiles domain ca request (some f) (some f)) w =
      (.ok (cycleReport settings r (some f)), w') := by
  rw [reconcileFiles, outcome_bind, hstored]
  simp only [outcome_bind, hwrite, outcome_pure]

theorem signsNamesOf_cycle {clock : Instant} {m : CertificateMap}
    (hlength : ∀ pod b, m.get? pod = some b → b.cert.length < Der.lengthBound) :
    (q.cycle domain a clock existing).anchor.SignsNamesOf m :=
  fun pod b hb _ _ hsign => Authority.altNames?_of_issue hsign (hlength pod b hb)

def Request.turn (q : Request) (domain : String) (a : Authority) (clock : Instant) :
    Turn Entropy where
  anchor := ((ManagedCa.ofAuthority (q.settings domain) a).withSignal q.signal).anchor clock
  windowOpen := q.windowOpen
  viaSecretData := true

theorem ManagedCa.isExpiringAt_iff (managed : ManagedCa) (cert : Bytes) (clock : Instant) :
    managed.isExpiringAt cert clock = true ↔
      Stored.isExpiringAt cert managed.settings.renewalDays clock = .ok true := by
  rw [ManagedCa.isExpiringAt]
  cases Stored.isExpiringAt cert managed.settings.renewalDays clock with
  | error e => simp
  | ok expiring => simp

theorem quiet_turn {clock : Instant} {m : CertificateMap}
    (hsignal : q.signal = .noRenewal ∨ q.signal = .postponed)
    (hfresh : (∀ pod b, m.get? pod = some b →
      Stored.isExpiringAt b.cert q.renewalDays clock ≠ .ok true) ∨ q.windowOpen = false) :
    (q.turn domain a clock).Quiet m := by
  refine ⟨hsignal, rfl, hfresh.imp_left fun h pod b hb => ?_⟩
  have hiff := ManagedCa.isExpiringAt_iff
    ((ManagedCa.ofAuthority (q.settings domain) a).withSignal q.signal) b.cert clock
  exact Bool.eq_false_iff.2 fun hexpiring => h pod b hb (hiff.1 hexpiring)

theorem mem_pods_allReused {nodes : List Node} {m : CertificateMap} {row : PodRow} :
    row ∈ (cycleReport settings ⟨m, Cycle.allReused nodes⟩ (some f)).pods ↔
      ∃ pod ∈ nodes.map (·.podName), row = ⟨pod, "reused", []⟩ := by
  rw [cycleReport, List.mem_map]
  constructor
  · rintro ⟨⟨pod, action⟩, he, rfl⟩
    obtain ⟨hpod, rfl⟩ := Cycle.get?_allReused_iff.1 (SortedMap.get?_eq_some_iff.2 he)
    exact ⟨pod, hpod, rfl⟩
  · rintro ⟨pod, hpod, rfl⟩
    have hreused := Cycle.get?_allReused_iff.2 ⟨hpod, rfl⟩
    exact ⟨(pod, .reused), SortedMap.get?_eq_some_iff.1 hreused, rfl⟩

theorem changed_allReused {nodes : List Node} {m : CertificateMap} :
    (cycleReport settings ⟨m, Cycle.allReused nodes⟩ (some f)).changed = 0 := by
  rw [CycleReport.changed, List.length_eq_zero_iff, List.filter_eq_nil_iff]
  intro row hrow
  obtain ⟨pod, -, rfl⟩ := mem_pods_allReused.1 hrow
  simp

theorem keeps_stored {w₂ : World} (hsignal : q.signal = .noRenewal ∨ q.signal = .postponed)
    (hq : outcome (DocumentFile.readRequest request) w₂ = (.ok q, w₂))
    (ha : outcome (CaDirectory.load ca) w₂ = (.ok a, w₂))
    {clock : Instant} {e : Entropy}
    (hrun : ((q.cycle domain a clock existing).run q.nodes e).result = .ok r)
    (hlength : ∀ pod b, r.certs.get? pod = some b → b.cert.length < Der.lengthBound)
    (hfresh : (∀ pod b, r.certs.get? pod = some b →
      Stored.isExpiringAt b.cert q.renewalDays w₂.clock ≠ .ok true) ∨ q.windowOpen = false)
    {dir name sibling : String} {d : Place}
    (hstored : w₂.files.Overwritten f (DocumentFile.stored (SecretData.encode r.certs)) dir name
      sibling d) :
    ∃ again w₃, outcome (reconcileFiles domain ca request (some f) (some f)) w₂ = (.ok again, w₃) ∧
      (∀ row, row ∈ again.pods ↔ ∃ pod ∈ r.certs.keys, row = ⟨pod, "reused", []⟩) ∧
      again.changed = 0 ∧
      w₃.files.read f = .ok (DocumentFile.stored (SecretData.encode r.certs)) := by
  have hsettled := Cycle.settled_of_run hrun
  have hturn : (q.turn domain a w₂.clock).Quiet r.certs := quiet_turn hsignal hfresh
  obtain ⟨events, hquiet⟩ := hsettled.run_quiet (signsNamesOf_cycle hlength) hturn (drawn w₂)
  have hresult : ((q.cycle domain a w₂.clock (SecretData.decode (SecretData.encode r.certs))).run
      q.nodes (drawn w₂)).result = .ok ⟨r.certs, Cycle.allReused q.nodes⟩ :=
    congrArg Outcome.result hquiet
  obtain ⟨w₁, hreconciled, hfiles⟩ := outcome_reconcileStored hq ha
    (DocumentFile.outcome_readBundles hstored.read) hresult
  obtain ⟨w₃, hwrite, hread⟩ := DocumentFile.write_again (hfiles ▸ hstored)
    (SecretData.encode r.certs)
  refine ⟨_, w₃, outcome_reconcileFiles hreconciled hwrite, fun row => ?_, changed_allReused, hread⟩
  rw [mem_pods_allReused]
  simp only [hsettled.certs_keys]

/-- A run of a reconciliation that keeps its bundles in a file, apart from the request and the CA,
leaves exactly its bundles there, unless the draft of the file led to the file itself. While the CA
asks for no new certificates and none of the bundles is to be replaced for its age, every further
run with the same request and CA succeeds, keeps the certificates of all pods and leaves the bytes
of the file as they are. -/
theorem reconcileFiles_again (domain ca request f : String) (w w' : World) (q : Request)
    (report : CycleReport)
    (hrequest : (outcome (DocumentFile.readRequest request) w).1 = .ok q)
    (hsignal : q.signal = .noRenewal ∨ q.signal = .postponed)
    (hdraft : ∃ p, w.files.LeadsPast (fun place => w.files.locate false f = .ok place)
      (Path.draft f) p)
    (hapart : ∀ path ∈ [request, CaDirectory.certPath ca, CaDirectory.keyPath ca],
      ∃ p, w.files.LeadsPast (w.files.Touched f) path p)
    (hrun : outcome (reconcileFiles domain ca request (some f) (some f)) w = (.ok report, w')) :
    ∃ settings r w₁,
      outcome (reconcileStored domain ca request (some f)) w = (.ok (settings, r), w₁) ∧
      report = cycleReport settings r (some f) ∧
      w'.files.present f = true ∧
      (outcome (DocumentFile.readBundles f) w').1 = .ok r.certs ∧
      ((∀ pod b, r.certs.get? pod = some b → b.cert.length < Der.lengthBound) →
        ∀ w₂ : World, w₂.files = w'.files →
          ((∀ pod b, r.certs.get? pod = some b →
            Stored.isExpiringAt b.cert q.renewalDays w₂.clock ≠ .ok true) ∨ q.windowOpen = false) →
          ∃ again w₃ bytes,
            outcome (reconcileFiles domain ca request (some f) (some f)) w₂ = (.ok again, w₃) ∧
            (∀ row, row ∈ again.pods ↔ ∃ pod ∈ r.certs.keys, row = ⟨pod, "reused", []⟩) ∧
            again.changed = 0 ∧ w'.files.read f = .ok bytes ∧ w₃.files.read f = .ok bytes) := by
  obtain ⟨settings, r, w₁, hstored, hreport, hwrite⟩ := reconcileFiles_ok hrun
  obtain ⟨q', a, existing, hq, ha, -, hcycle, hfiles⟩ := reconcileStored_ok hstored
  obtain rfl : q' = q := by
    rw [hq] at hrequest
    exact Except.ok.inj hrequest
  rw [← hfiles] at hdraft
  obtain ⟨dir, name, sibling, d, hover, hagrees⟩ := DocumentFile.overwritten_of_write hwrite hdraft
  rw [hfiles] at hagrees
  have hread : w'.files.read f = .ok (DocumentFile.stored (SecretData.encode r.certs)) := hover.read
  refine ⟨settings, r, w₁, hstored, hreport, Files.present_of_read hread, ?_, ?_⟩
  · rw [DocumentFile.outcome_readBundles hread, SecretData.decode_of_encode]
  · intro hlength w₂ hw₂ hfresh
    have hagrees₂ : Files.AgreesOutside (w.files.Touched f) w.files w₂.files := hw₂ ▸ hagrees
    obtain ⟨p, hrequest'⟩ := hapart request (by simp)
    obtain ⟨p', hcert⟩ := hapart (CaDirectory.certPath ca) (by simp)
    obtain ⟨p'', hkey⟩ := hapart (CaDirectory.keyPath ca) (by simp)
    have hq₂ := ((DocumentFile.alike_readRequest (hrequest'.read_eq hagrees₂)).outcome_eq hq).2
    have ha₂ := ((CaDirectory.alike_load (hcert.read_eq hagrees₂) (hkey.read_eq hagrees₂)
      (hcert.isFile_eq hagrees₂) (hkey.isFile_eq hagrees₂)).outcome_eq ha).2
    obtain ⟨again, w₃, hagain, hrows, hchanged, hbytes⟩ :=
      keeps_stored hsignal hq₂ ha₂ hcycle hlength hfresh (hw₂ ▸ hover)
    exact ⟨again, w₃, _, hagain, hrows, hchanged, hread, hbytes⟩

section Sample

open Files

def sampleRequest : Request where
  cluster := "c"
  space := "n"
  nodes := [⟨"p.\"0", 0, false, true⟩]

def sampleText : String :=
  "\x7b\"cluster\": \"c\", \"namespace\": \"n\", " ++
    "\"nodes\": [\x7b\"pod_name\": \"p.\\\"0\", \"node_id\": 0\x7d]\x7d"

def sampleCert : String := Authority.certificatePem Authority.sampleCaDer

def sampleKey : String := Authority.keyPem Authority.sampleKeyDer

def sampleFiles : Files :=
  let ca : Files := ({} : Files).put ["ca"] .directory
  ((ca.put ["ca", "ca.crt"] (.file (Bytes.ofString sampleCert) false)).put
    ["ca", "ca.key"] (.file (Bytes.ofString sampleKey) true)).put
    ["q"] (.file (Bytes.ofString sampleText) false)

def sampleWorld (fs : Files) : World where
  files := fs
  clock := Authority.sampleNow
  entropy := { seed := [7] }

def OfBundles (p : Place) : Prop := p = [.text "s.json"] ∨ p = [.text "s.json.tmp"]

theorem node?_sample (p : Place) : sampleFiles.node? p =
    if p = [.text "q"] then some (.file (Bytes.ofString sampleText) false)
    else if p = [.text "ca", .text "ca.key"] then some (.file (Bytes.ofString sampleKey) true)
    else if p = [.text "ca", .text "ca.crt"] then some (.file (Bytes.ofString sampleCert) false)
    else if p = [.text "ca"] then some .directory
    else if p = [] then some .directory
    else none := by
  rw [sampleFiles, node?_put _ (by decide), node?_put _ (by decide), node?_put _ (by decide),
    node?_put _ (by decide)]
  rfl

theorem node?_ofBundles {p : Place} (hp : OfBundles p) : sampleFiles.node? p = none := by
  rw [node?_sample]
  rcases hp with rfl | rfl <;> rfl

theorem leads_sample : sampleFiles.Leads "" [] := leads_home rfl

theorem leads_ca_sample : sampleFiles.Leads (Path.join "" "ca") ["ca"] :=
  leads_sample.entry (by decide) (by rw [isDirectory, node?_sample]; rfl)

variable {fs : Files}

theorem read_of_agrees (hfs : AgreesOutside OfBundles sampleFiles fs) {dir name text : String}
    {d : Place} {isPrivate : Bool} (hd : sampleFiles.Leads dir d) (hname : FileName name)
    (hnode : sampleFiles.node? (d ++ [.text name]) = some (.file (Bytes.ofString text) isPrivate)) :
    fs.read (Path.join dir name) = .ok (Bytes.ofString text) ∧
      ∃ p, fs.LeadsPast OfBundles (Path.join dir name) p := by
  have hpast : sampleFiles.LeadsPast OfBundles (Path.join dir name) (d ++ [.text name]) := by
    refine leadsPast_of_locate (fun q hq => atMostFile_of_none (node?_ofBundles hq))
      (hd.locate hname (atMostFile_of_file hnode)) fun h => ?_
    rw [node?_ofBundles h] at hnode
    cases hnode
  exact ⟨(hpast.read_eq hfs).trans (read_of_locate hpast.locate hnode), _, hpast.of_agrees hfs⟩

theorem request_of_agrees (hfs : AgreesOutside OfBundles sampleFiles fs) :
    fs.read "q" = .ok (Bytes.ofString sampleText) ∧ ∃ p, fs.LeadsPast OfBundles "q" p := by
  have hjoin : Path.join "" "q" = "q" := by decide
  rw [← hjoin]
  exact read_of_agrees hfs leads_sample (show FileName "q" by decide) (node?_sample _)

theorem cert_of_agrees (hfs : AgreesOutside OfBundles sampleFiles fs) :
    fs.read (CaDirectory.certPath "ca") = .ok (Bytes.ofString sampleCert) ∧
      ∃ p, fs.LeadsPast OfBundles (CaDirectory.certPath "ca") p :=
  read_of_agrees hfs leads_ca_sample (show FileName currentCertEntry by decide) (node?_sample _)

theorem key_of_agrees (hfs : AgreesOutside OfBundles sampleFiles fs) :
    fs.read (CaDirectory.keyPath "ca") = .ok (Bytes.ofString sampleKey) ∧
      ∃ p, fs.LeadsPast OfBundles (CaDirectory.keyPath "ca") p :=
  read_of_agrees hfs leads_ca_sample (show FileName CaDirectory.keyEntry by decide) (node?_sample _)

theorem readRequest_sample (hfs : AgreesOutside OfBundles sampleFiles fs) :
    outcome (DocumentFile.readRequest "q") (sampleWorld fs) =
      (.ok sampleRequest, sampleWorld fs) :=
  DocumentFile.outcome_readRequest (request_of_agrees hfs).1
    (Except.eq_ok_of_toOption (by decide +kernel)) (by decide)

theorem load_sample (hfs : AgreesOutside OfBundles sampleFiles fs) :
    outcome (CaDirectory.load "ca") (sampleWorld fs) =
      (.ok Authority.sampleLoaded, sampleWorld fs) := by
  have hcert : (sampleWorld fs).files.read (CaDirectory.certPath "ca") =
      .ok (Bytes.ofString sampleCert) := (cert_of_agrees hfs).1
  have hkey : (sampleWorld fs).files.read (CaDirectory.keyPath "ca") =
      .ok (Bytes.ofString sampleKey) := (key_of_agrees hfs).1
  have hload : Authority.load sampleCert sampleKey = .ok Authority.sampleLoaded :=
    Authority.load_sample
  rw [CaDirectory.outcome_load hcert hkey, hload]
  rfl

theorem run_sample (fs : Files) : ∃ r, ((sampleRequest.cycle "d" Authority.sampleLoaded
    Authority.sampleNow ∅).run sampleRequest.nodes (drawn (sampleWorld fs))).result = .ok r ∧
    r.certs.keys = ["p.\"0"] := by
  have hsign : ∃ b, (Authority.sampleLoaded.issue
      (brokerSubject (sampleRequest.naming "d") {} ⟨"p.\"0", 0, false, true⟩) 365
      Authority.sampleNow (drawn (sampleWorld fs))).result = .ok b :=
    ⟨_, Authority.issue_ok_iff.2 ⟨by decide, by decide +kernel, _, Authority.ofDays_sampleNow,
      Authority.writable_sampleNow, rfl⟩⟩
  obtain ⟨b, hsign⟩ := hsign
  exact ⟨_, Cycle.run_eq_collect.2 ⟨by decide, _, Cycle.settleAll_cons_ok_iff.2
    ⟨_, _, [], .issued rfl hsign, rfl, rfl⟩, rfl⟩, rfl⟩

theorem slot_sample (h : fs.Leads "" []) : fs.Slot "s.json" "" "s.json" "s.json.tmp" [] where
  entry := ⟨by decide, by decide, (show FileName "s.json" by decide).toPlainName,
    (show FileName "s.json.tmp" by decide).toPlainName, by decide⟩
  fileName := by decide
  fileSibling := by decide
  leads := h

theorem apart_sample (hfs : AgreesOutside OfBundles sampleFiles fs) (h : fs.Leads "" []) {W : Place}
    (hW : fs.locate true (Path.draft "s.json") = .ok W) (hbundles : OfBundles W) :
    ∀ path ∈ ["q", CaDirectory.certPath "ca", CaDirectory.keyPath "ca"],
      ∃ p, fs.LeadsPast (fs.Touched "s.json") path p := by
  have htouched (p : Place) (hp : fs.Touched "s.json" p) : OfBundles p := by
    rcases hp with hp | hp | hp
    · exact .inl (Except.ok.inj (hp.symm.trans (slot_sample h).locate_entry))
    · exact .inr (Except.ok.inj (hp.symm.trans (slot_sample h).locate_draft))
    · exact Except.ok.inj (hW.symm.trans hp) ▸ hbundles
  intro path hpath
  simp only [List.mem_cons, List.not_mem_nil, or_false] at hpath
  rcases hpath with rfl | rfl | rfl
  · exact (request_of_agrees hfs).2.imp fun p hp => hp.mono htouched
  · exact (cert_of_agrees hfs).2.imp fun p hp => hp.mono htouched
  · exact (key_of_agrees hfs).2.imp fun p hp => hp.mono htouched

theorem reconcileFiles_sample (hfs : AgreesOutside OfBundles sampleFiles fs) {events : List Event}
    (hexisting : outcome (DocumentFile.readBundles "s.json") (sampleWorld fs) =
      (.ok ∅, { sampleWorld fs with events := (sampleWorld fs).events ++ events }))
    {Q : Files → Prop} (hwrite : ∀ content, ∃ fs₁ fs₂,
      fs.write (Path.draft "s.json") content = .ok fs₁ ∧
      fs₁.rename (Path.draft "s.json") "s.json" = .ok fs₂ ∧ Q fs₂) :
    ∃ settings r w₁ report w',
      outcome (reconcileStored "d" "ca" "q" (some "s.json")) (sampleWorld fs) =
        (.ok (settings, r), w₁) ∧ r.certs.keys = ["p.\"0"] ∧
      outcome (reconcileFiles "d" "ca" "q" (some "s.json") (some "s.json")) (sampleWorld fs) =
        (.ok report, w') ∧ Q w'.files := by
  obtain ⟨r, hr, hkeys⟩ := run_sample fs
  obtain ⟨w₁, hstored, hfiles⟩ := outcome_reconcileStored (readRequest_sample hfs)
    (load_sample hfs) hexisting hr
  obtain ⟨fs₁, fs₂, hwrite, hrename, hQ⟩ :=
    hwrite (DocumentFile.stored (SecretData.encode r.certs))
  obtain ⟨w', hwritten, rfl⟩ :=
    DocumentFile.write_of_rename (w := w₁) (by rw [hfiles]; exact hwrite) hrename
  exact ⟨_, r, w₁, _, w', hstored, hkeys, outcome_reconcileFiles hstored hwritten, hQ⟩

theorem present_sample : sampleFiles.present "s.json" = false := by
  have hnone : sampleFiles.node? ([] ++ [EntryName.text "s.json"]) = none :=
    node?_ofBundles (.inl rfl)
  rw [(slot_sample leads_sample).entry.eq_join,
    leads_sample.present (by decide) (atMostFile_of_none hnone), content?_of_none hnone]
  rfl

theorem leadsPast_draft_sample : sampleFiles.LeadsPast
    (fun place => sampleFiles.locate false "s.json" = .ok place) (Path.draft "s.json")
    ["s.json.tmp"] := by
  have hslot := slot_sample leads_sample
  have hentry (p : Place) (hp : sampleFiles.locate false "s.json" = .ok p) : p = [.text "s.json"] :=
    Except.ok.inj (hp.symm.trans hslot.locate_entry)
  have hdraft : sampleFiles.locate true (Path.draft "s.json") = .ok ["s.json.tmp"] := by
    rw [hslot.entry.draft_eq]
    exact leads_sample.locate hslot.fileSibling (atMostFile_of_none (node?_ofBundles (.inr rfl)))
  exact leadsPast_of_locate
    (fun p hp => atMostFile_of_none (node?_ofBundles (.inl (hentry p hp)))) hdraft
    fun h => absurd (hentry _ h) (by decide)

theorem reconcileFiles_again_sample : ∃ report w',
    (outcome (DocumentFile.readRequest "q") (sampleWorld sampleFiles)).1 = .ok sampleRequest ∧
    sampleRequest.signal = .noRenewal ∧
    outcome (reconcileFiles "d" "ca" "q" (some "s.json") (some "s.json"))
      (sampleWorld sampleFiles) = (.ok report, w') ∧
    ∃ settings r w₁,
      outcome (reconcileStored "d" "ca" "q" (some "s.json")) (sampleWorld sampleFiles) =
        (.ok (settings, r), w₁) ∧
      report = cycleReport settings r (some "s.json") ∧
      w'.files.present "s.json" = true ∧
      (outcome (DocumentFile.readBundles "s.json") w').1 = .ok r.certs ∧
      ((∀ pod b, r.certs.get? pod = some b → b.cert.length < Der.lengthBound) →
        ∀ w₂ : World, w₂.files = w'.files →
          ((∀ pod b, r.certs.get? pod = some b → Stored.isExpiringAt b.cert
            sampleRequest.renewalDays w₂.clock ≠ .ok true) ∨ sampleRequest.windowOpen = false) →
          ∃ again w₃ bytes,
            outcome (reconcileFiles "d" "ca" "q" (some "s.json") (some "s.json")) w₂ =
              (.ok again, w₃) ∧
            (∀ row, row ∈ again.pods ↔ ∃ pod ∈ r.certs.keys, row = ⟨pod, "reused", []⟩) ∧
            again.changed = 0 ∧ w'.files.read "s.json" = .ok bytes ∧
            w₃.files.read "s.json" = .ok bytes) := by
  have hsame := AgreesOutside.refl OfBundles sampleFiles
  have hnone {p : Place} (hp : OfBundles p) := atMostFile_of_none (node?_ofBundles hp)
  have hrequest := congrArg Prod.fst (readRequest_sample hsame)
  have hdraft := leadsPast_draft_sample
  have hwrite (content : Bytes) : ∃ fs₁ fs₂,
      sampleFiles.write (Path.draft "s.json") content = .ok fs₁ ∧
      fs₁.rename (Path.draft "s.json") "s.json" = .ok fs₂ ∧ True := by
    obtain ⟨-, fs₁, fs₂, hwrite, hrename, -⟩ := (slot_sample leads_sample).overwrite
      (hnone (.inr rfl)) (hnone (.inl rfl)).isDirectory_eq_false content
    exact ⟨fs₁, fs₂, hwrite, hrename, trivial⟩
  obtain ⟨-, -, -, report, w', -, -, hrun, -⟩ := reconcileFiles_sample hsame
    (DocumentFile.outcome_readBundles_absent present_sample) hwrite
  exact ⟨report, w', hrequest, rfl, hrun,
    reconcileFiles_again "d" "ca" "q" "s.json" _ w' sampleRequest report hrequest (.inl rfl)
      ⟨_, hdraft⟩ (apart_sample hsame leads_sample hdraft.locate (.inr rfl)) hrun⟩

def linkedFiles : Files :=
  (sampleFiles.put ["s.json"] (.file (DocumentFile.stored (SecretData.encode ∅)) false)).put
    ["s.json.tmp"] (.link "s.json")

theorem node?_linked (p : Place) : linkedFiles.node? p =
    if p = [.text "s.json.tmp"] then some (.link "s.json")
    else if p = [.text "s.json"] then some (.file (DocumentFile.stored (SecretData.encode ∅)) false)
    else sampleFiles.node? p := by
  rw [linkedFiles, node?_put _ (by decide), node?_put _ (by decide)]

theorem agrees_linked : AgreesOutside OfBundles sampleFiles linkedFiles where
  home := rfl
  same p hp := by
    rw [OfBundles, not_or] at hp
    rw [node?_linked, if_neg hp.2, if_neg hp.1]

theorem leads_linked : linkedFiles.Leads "" [] := leads_home rfl

theorem atMostFile_linked : linkedFiles.AtMostFile ["s.json"] :=
  atMostFile_of_file (node?_linked ["s.json"])

theorem locate_linked : linkedFiles.locate true (Path.draft "s.json") = .ok ["s.json"] := by
  have hfile : Walk linkedFiles true 0 [] ["s.json"] ["s.json"] :=
    .last_name (show FileName "s.json" by decide).sought rfl fun _ => atMostFile_linked.not_link
  have hlink : Walk linkedFiles true 1 [] ["s.json.tmp"] ["s.json"] :=
    .link rfl (show FileName "s.json.tmp" by decide).sought (node?_linked ["s.json.tmp"])
      (fun _ => rfl) hfile
  rw [(slot_sample leads_linked).entry.draft_eq]
  exact Leads.locate_of_walk (by decide) (by decide) (by decide) (.here []) hlink

/-- Content is written through the draft, which then takes the place of the entry and leads to
itself. -/
theorem overwrite_linked (content : Bytes) : ∃ fs₁ fs₂,
    linkedFiles.write (Path.draft "s.json") content = .ok fs₁ ∧
      fs₁.rename (Path.draft "s.json") "s.json" = .ok fs₂ ∧ fs₂.present "s.json" = false := by
  obtain ⟨isPrivate, hwrite⟩ :=
    write_of_locate (by decide) locate_linked atMostFile_linked content
  have hnode (p : Place) :
      (linkedFiles.put ["s.json"] (.file content isPrivate)).node? p = _ :=
    node?_put linkedFiles atMostFile_linked.ne_nil (.file content isPrivate) p
  have hslot : (linkedFiles.put ["s.json"] (.file content isPrivate)).Slot "s.json" "" "s.json"
      "s.json.tmp" [] := slot_sample (leads_home rfl)
  have hgoal : (linkedFiles.put ["s.json"] (.file content isPrivate)).isDirectory
      ["s.json"] = false := (atMostFile_of_file (hnode ["s.json"])).isDirectory_eq_false
  have hdraft : (linkedFiles.put ["s.json"] (.file content isPrivate)).node?
      ["s.json.tmp"] = some (.link "s.json") := hnode ["s.json.tmp"]
  have hrename := hslot.leads.rename hslot.fileSibling hslot.fileName hslot.entry.ne.symm hdraft
    (by simp) hgoal
  rw [← hslot.entry.draft_eq, ← hslot.entry.eq_join] at hrename
  refine ⟨_, _, hwrite, hrename, ?_⟩
  rw [hslot.entry.eq_join]
  exact Leads.present_of_circle (leads_home rfl) hslot.fileName
    (node?_relocate (by simp) (by simp) _ _) rfl

/-- A run that succeeds leaves no bundles if the draft was a link to the file. -/
theorem reconcileFiles_loses_bundles : ∃ settings r w₁ report w',
    outcome (DocumentFile.readRequest "q") (sampleWorld linkedFiles) =
      (.ok sampleRequest, sampleWorld linkedFiles) ∧
    sampleRequest.signal = .noRenewal ∧
    outcome (CaDirectory.load "ca") (sampleWorld linkedFiles) =
      (.ok Authority.sampleLoaded, sampleWorld linkedFiles) ∧
    (outcome (DocumentFile.readBundles "s.json") (sampleWorld linkedFiles)).1 = .ok ∅ ∧
    (∀ path ∈ ["q", CaDirectory.certPath "ca", CaDirectory.keyPath "ca"],
      ∃ p, linkedFiles.LeadsPast (linkedFiles.Touched "s.json") path p) ∧
    outcome (reconcileStored "d" "ca" "q" (some "s.json")) (sampleWorld linkedFiles) =
      (.ok (settings, r), w₁) ∧ r.certs.keys = ["p.\"0"] ∧
    outcome (reconcileFiles "d" "ca" "q" (some "s.json") (some "s.json"))
      (sampleWorld linkedFiles) = (.ok report, w') ∧
    w'.files.present "s.json" = false ∧
    (outcome (DocumentFile.readBundles "s.json") w').1 = .ok ∅ := by
  have hread : linkedFiles.read "s.json" = .ok (DocumentFile.stored (SecretData.encode ∅)) := by
    rw [(slot_sample leads_linked).entry.eq_join]
    exact read_of_locate (leads_linked.locate (by decide) atMostFile_linked)
      (node?_linked ["s.json"])
  have hexisting := DocumentFile.outcome_readBundles (w := sampleWorld linkedFiles) hread
  rw [SecretData.decode_of_encode] at hexisting
  obtain ⟨settings, r, w₁, report, w', hstored, hkeys, hrun, hpresent⟩ :=
    reconcileFiles_sample agrees_linked hexisting overwrite_linked
  exact ⟨settings, r, w₁, report, w', readRequest_sample agrees_linked, rfl,
    load_sample agrees_linked, congrArg Prod.fst hexisting,
    apart_sample agrees_linked leads_linked locate_linked (.inl rfl), hstored, hkeys, hrun,
    hpresent, congrArg Prod.fst (DocumentFile.outcome_readBundles_absent hpresent)⟩

end Sample

end ClusterCerts
