import ClusterCerts.Documents
import ClusterCerts.Proofs.Address.Reading
import ClusterCerts.Proofs.Commands.Alike
import ClusterCerts.Proofs.Commands.Refusals
import ClusterCerts.Proofs.Json.Decoding

/-!
# Documents that were written

Every value of a type that is kept in files reads back from its document, in one line or in many.
A request that reads back is accepted if it is one that a cycle can be run for.
-/

namespace ClusterCerts

open Decoder

theorem inverts_stringSet : Inverts (set string) stringSetJson := inverts_string.set

theorem Node.inverts : Inverts Node.decoder Node.toJson := by
  intro n
  unfold toJson decoder
  apply inverts_record
  · simp
  · exact .cons (inverts_string.fits "pod_name" n.podName) <|
      .cons (inverts_int32.fits "node_id" n.nodeId) <|
      .cons (inverts_boolean.fits "controller" n.controller) <|
      .cons (inverts_boolean.fits "broker" n.broker) .nil
  · intro fs h
    simp only [List.forall_mem_cons] at h
    obtain ⟨hpod, hid, hcontroller, hbroker, -⟩ := h
    rw [inverts_string.required hpod, inverts_int32.required hid,
      inverts_boolean.defaulted hcontroller, inverts_boolean.defaulted hbroker]
    rfl

theorem inverts_perNode : Inverts (map int32Key (set string)) fun m =>
    .record (m.entries.map fun p => (toString p.1.toInt, stringSetJson p.2)) :=
  inverts_stringSet.map int32Key_escape

theorem ExternalAddresses.inverts : Inverts ExternalAddresses.decoder ExternalAddresses.toJson := by
  intro e
  unfold toJson decoder
  apply inverts_record
  · simp
  · exact .cons (inverts_stringSet.fits "bootstrap" e.bootstrap) <|
      .cons (inverts_perNode.fits "per_node" e.perNode) .nil
  · intro fs h
    simp only [List.forall_mem_cons] at h
    obtain ⟨hbootstrap, hperNode, -⟩ := h
    rw [inverts_stringSet.defaulted hbootstrap, inverts_perNode.defaulted hperNode]
    rfl

theorem Address.inverts : Inverts Address.decoder Address.toJson := by
  intro a
  refine ⟨.text a.text, ?_⟩
  rw [toJson, Json.ofString, decoder, keyText_escape]
  simp only [bind, Except.bind, read?_text]
  rfl

theorem Subject.inverts : Inverts Subject.decoder Subject.toJson := by
  have horganization : Inverts (nullable string) fun o => (o.map Json.ofString).getD .null :=
    inverts_string.nullable fun _ => nofun
  intro d
  unfold toJson decoder
  apply inverts_record
  · simp
  · exact .cons (inverts_string.fits "common_name" d.commonName) <|
      .cons (horganization.fits "organization" d.organization) <|
      .cons (inverts_stringSet.fits "dns_names" d.dnsNames) <|
      .cons (Address.inverts.set.fits "ip_addresses" d.addresses) .nil
  · intro fs h
    simp only [List.forall_mem_cons] at h
    obtain ⟨hname, horg, hdns, hip, -⟩ := h
    rw [inverts_string.required hname, horganization.optional horg, inverts_stringSet.required hdns,
      Address.inverts.set.required hip]
    rfl

theorem ClusterNaming.inverts : Inverts ClusterNaming.decoder ClusterNaming.toJson := by
  intro n
  unfold toJson decoder
  apply inverts_record
  · simp
  · exact .cons (inverts_string.fits "cluster_name" n.cluster) <|
      .cons (inverts_string.fits "namespace" n.space) <|
      .cons (inverts_string.fits "cluster_domain" n.domain) .nil
  · intro fs h
    simp only [List.forall_mem_cons] at h
    obtain ⟨hcluster, hspace, hdomain, -⟩ := h
    rw [inverts_string.required hcluster, inverts_string.required hspace,
      inverts_string.required hdomain]
    rfl

theorem CaSettings.inverts : Inverts CaSettings.decoder CaSettings.toJson := by
  intro s
  unfold toJson decoder
  apply inverts_record
  · simp
  · exact .cons (inverts_string.fits "display_name" s.displayName) <|
      .cons (inverts_string.fits "name_prefix" s.label) <|
      .cons (inverts_string.fits "cert_secret_name" s.certSecret) <|
      .cons (inverts_string.fits "key_secret_name" s.keySecret) <|
      .cons (inverts_uint32.fits "validity_days" s.validityDays) <|
      .cons (inverts_uint32.fits "renewal_days" s.renewalDays) <|
      .cons (inverts_boolean.fits "generate_ca" s.selfManaged) .nil
  · intro fs h
    simp only [List.forall_mem_cons] at h
    obtain ⟨hdisplay, hlabel, hcert, hkey, hvalidity, hrenewal, hmanaged, -⟩ := h
    rw [inverts_string.required hdisplay, inverts_string.required hlabel,
      inverts_string.required hcert, inverts_string.required hkey,
      inverts_uint32.required hvalidity, inverts_uint32.required hrenewal,
      inverts_boolean.required hmanaged]
    rfl

theorem RenewalSignal.inverts : Inverts RenewalSignal.decoder RenewalSignal.toJson := by
  apply inverts_variant
  intro s
  cases s <;> rfl

theorem Component.inverts : Inverts Component.decoder Component.toJson := by
  apply inverts_variant
  intro c
  cases c <;> rfl

theorem Request.inverts : Inverts Request.decoder Request.toJson := by
  intro q
  unfold toJson decoder
  apply inverts_record
  · simp
  · exact .cons (inverts_string.fits "cluster" q.cluster) <|
      .cons (inverts_string.fits "namespace" q.space) <|
      .cons (Component.inverts.fits "component" q.component) <|
      .cons (Node.inverts.list.fits "nodes" q.nodes) <|
      .cons (ExternalAddresses.inverts.fits "external_addresses" q.external) <|
      .cons (inverts_boolean.fits "maintenance_window_open" q.windowOpen) <|
      .cons (RenewalSignal.inverts.fits "renewal_type" q.signal) <|
      .cons (inverts_uint32.fits "validity_days" q.validityDays) <|
      .cons (inverts_uint32.fits "renewal_days" q.renewalDays) .nil
  · intro fs h
    simp only [List.forall_mem_cons] at h
    obtain ⟨hcluster, hspace, hcomponent, hnodes, hexternal, hopen, hsignal, hvalidity, hrenewal,
      -⟩ := h
    rw [inverts_string.required hcluster, inverts_string.required hspace,
      Component.inverts.defaulted hcomponent, Node.inverts.list.defaulted hnodes,
      ExternalAddresses.inverts.defaulted hexternal, inverts_boolean.defaulted hopen,
      RenewalSignal.inverts.defaulted hsignal, inverts_uint32.defaulted hvalidity,
      inverts_uint32.defaulted hrenewal]
    rfl

structure Request.Acceptable (q : Request) : Prop where
  named : q.cluster ≠ "" ∧ q.space ≠ ""
  valid : 1 ≤ q.validityDays.toNat ∧ q.validityDays.toNat ≤ 36500
  renews : q.renewalDays.toNat < q.validityDays.toNat
  distinct : (q.nodes.map (·.podName)).Nodup

variable {q : Request} {path text : String} {w : World}

theorem Request.acceptable_iff : q.Acceptable ↔ q.fault? = none := by
  have hfirst : q.validityDays ≠ 0 ↔ 1 ≤ q.validityDays.toNat := by
    rw [ne_eq, ← UInt32.toNat_inj]
    exact Nat.one_le_iff_ne_zero.symm
  have hlast : q.validityDays ≤ maxValidityDays ↔ q.validityDays.toNat ≤ 36500 :=
    UInt32.le_iff_toNat_le
  rw [fault?_eq_none_iff]
  constructor
  · rintro ⟨hnamed, hvalid, hrenews, hdistinct⟩
    exact ⟨⟨hnamed, ⟨hfirst.2 hvalid.1, hlast.2 hvalid.2⟩, UInt32.lt_iff_toNat_lt.2 hrenews⟩,
      hdistinct⟩
  · rintro ⟨⟨hnamed, hvalid, hrenews⟩, hdistinct⟩
    exact ⟨hnamed, ⟨hfirst.1 hvalid.1, hlast.1 hvalid.2⟩, UInt32.lt_iff_toNat_lt.1 hrenews,
      hdistinct⟩

theorem DocumentFile.outcome_readRequest_refused {fault : RequestFault}
    (h : w.files.read path = .ok (Bytes.ofString text)) (hq : Request.decoder.ofText text = .ok q)
    (hfault : q.fault? = some fault) :
    Session.outcome (DocumentFile.readRequest path : Session Request) w =
      (.error (.request fault), w) := by
  rw [DocumentFile.readRequest, Session.outcome_bind, outcome_readDocument h hq]
  simp only [hfault]
  rfl

def Decoder.ReadsBack {α : Type} (d : Decoder α) (write : α → Json) : Prop :=
  ∀ a, d.ofText (write a).text = .ok a ∧ d.ofText (write a).prettyText = .ok a

/-- Documents read back, and a file with the document of a request gives that request if it is
acceptable, and the fault of the request if it is not. -/
theorem documents_read_back :
    (Request.decoder.ReadsBack Request.toJson ∧ Node.decoder.ReadsBack Node.toJson ∧
      ExternalAddresses.decoder.ReadsBack ExternalAddresses.toJson ∧
      Subject.decoder.ReadsBack Subject.toJson ∧
      ClusterNaming.decoder.ReadsBack ClusterNaming.toJson ∧
      CaSettings.decoder.ReadsBack CaSettings.toJson ∧
      RenewalSignal.decoder.ReadsBack RenewalSignal.toJson ∧
      Component.decoder.ReadsBack Component.toJson) ∧
    ∀ (q : Request) (text path : String) (w : World),
      text = q.toJson.text ∨ text = q.toJson.prettyText →
      w.files.read path = .ok (Bytes.ofString text) →
      (q.Acceptable →
        Session.outcome (DocumentFile.readRequest path : Session Request) w = (.ok q, w)) ∧
      (¬q.Acceptable → ∃ fault,
        Session.outcome (DocumentFile.readRequest path : Session Request) w =
          (.error (.request fault), w)) := by
  refine ⟨⟨Request.inverts.ofText, Node.inverts.ofText, ExternalAddresses.inverts.ofText,
    Subject.inverts.ofText, ClusterNaming.inverts.ofText, CaSettings.inverts.ofText,
    RenewalSignal.inverts.ofText, Component.inverts.ofText⟩, ?_⟩
  intro q text path w htext hread
  have hq : Request.decoder.ofText text = .ok q := by
    rcases htext with rfl | rfl
    · exact (Request.inverts.ofText q).1
    · exact (Request.inverts.ofText q).2
  rw [Request.acceptable_iff]
  constructor
  · intro hfault
    exact DocumentFile.outcome_readRequest hread hq hfault
  · intro hfault
    obtain ⟨fault, hfault⟩ := Option.ne_none_iff_exists'.1 hfault
    exact ⟨fault, DocumentFile.outcome_readRequest_refused hread hq hfault⟩

def sampleOfPods (second : String) : Request where
  cluster := "c"
  space := "n"
  nodes := [⟨"p.\"0", 0, false, true⟩, ⟨second, -1, true, false⟩]
  external := { bootstrap := SortedSet.ofList ["é", "::1"] }
  windowOpen := true
  signal := .postponed
  validityDays := 400

def storedWorld (q : Request) : World where
  files := ({} : Files).put ["q"] (.file (Bytes.ofString q.toJson.prettyText) false)
  clock := Authority.sampleNow
  entropy := { seed := [7] }

theorem read_storedWorld (q : Request) :
    (storedWorld q).files.read "q" = .ok (Bytes.ofString q.toJson.prettyText) := by
  have hnode : (storedWorld q).files.node? ([] ++ [EntryName.text "q"]) =
      some (.file (Bytes.ofString q.toJson.prettyText) false) := by
    rw [storedWorld, Files.node?_put _ (by simp), List.nil_append, if_pos rfl]
  have hd : (storedWorld q).files.Leads "" [] := Files.leads_home rfl
  have hread := Files.read_of_locate (hd.locate (show Files.FileName "q" by decide)
    (Files.atMostFile_of_file hnode)) hnode
  rwa [Files.join_empty] at hread

theorem documents_read_back_sample : (sampleOfPods "é").Acceptable ∧
    Session.outcome (DocumentFile.readRequest "q") (storedWorld (sampleOfPods "é")) =
      (.ok (sampleOfPods "é"), storedWorld (sampleOfPods "é")) ∧
    ¬(sampleOfPods "p.\"0").Acceptable ∧
    ∃ fault, Session.outcome (DocumentFile.readRequest "q" : Session Request)
      (storedWorld (sampleOfPods "p.\"0")) =
        (.error (.request fault), storedWorld (sampleOfPods "p.\"0")) := by
  have hread (q : Request) := documents_read_back.2 q _ "q" _ (.inr rfl) (read_storedWorld q)
  have haccepted : (sampleOfPods "é").Acceptable := Request.acceptable_iff.2 (by decide)
  have hrefused : ¬(sampleOfPods "p.\"0").Acceptable := by
    rw [Request.acceptable_iff]
    decide
  exact ⟨haccepted, (hread _).1 haccepted, hrefused, (hread _).2 hrefused⟩

end ClusterCerts
