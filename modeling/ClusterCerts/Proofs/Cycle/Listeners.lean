import ClusterCerts.Proofs.Authority.Issue
import ClusterCerts.Proofs.Cycle.Decisions
import ClusterCerts.Proofs.Subject.Names

/-!
# Changes of listeners

The names of a node are its names inside the cluster and the addresses of its listeners, each in
the one spelling that it has in a certificate. While the CA is at rest, a cycle replaces the
certificates of the nodes whose names have changed since, and keeps all others.
-/

namespace ClusterCerts

variable {naming : ClusterNaming} {e₁ e₂ : ExternalAddresses} {n : Node}

theorem altNames_brokerSubject_eq_iff :
    (brokerSubject naming e₁ n).altNames = (brokerSubject naming e₂ n).altNames ↔
      ∀ name ∉ naming.internalNames n.podName, name ∈ e₁.namesOf n ↔ name ∈ e₂.namesOf n := by
  constructor
  · intro h name hname
    have hmem : name ∈ (brokerSubject naming e₁ n).altNames ↔
        name ∈ (brokerSubject naming e₂ n).altNames := by rw [h]
    rw [mem_altNames_brokerSubject, mem_altNames_brokerSubject] at hmem
    simpa [hname] using hmem
  · intro h
    refine SortedSet.ext_mem fun name => ?_
    rw [mem_altNames_brokerSubject, mem_altNames_brokerSubject]
    by_cases hname : name ∈ naming.internalNames n.podName
    · simp [hname]
    · simp [hname, h name hname]

example :
    (brokerSubject ⟨"c", "n", "d"⟩ { bootstrap := SortedSet.ofList ["[0:0::1]"] }
      (Node.brokerIn "p" 0)).altNames =
    (brokerSubject ⟨"c", "n", "d"⟩
      { perNode := SortedMap.ofList [(0, SortedSet.ofList ["::1", "c-kafka-brokers"])] }
      (Node.brokerIn "p" 0)).altNames := by decide

theorem addressesOf_of_not_broker (hn : n.broker = false) (external : ExternalAddresses) :
    external.addressesOf n = [] := by
  simp [ExternalAddresses.addressesOf, hn]

theorem addressesOf_congr (hbootstrap : e₁.bootstrap = e₂.bootstrap)
    (hnode : e₁.perNode.get? n.nodeId = e₂.perNode.get? n.nodeId) :
    e₁.addressesOf n = e₂.addressesOf n := by
  rw [ExternalAddresses.addressesOf, ExternalAddresses.addressesOf, hbootstrap, hnode]

theorem brokerSubject_congr (h : e₁.addressesOf n = e₂.addressesOf n) :
    brokerSubject naming e₁ n = brokerSubject naming e₂ n := by
  rw [brokerSubject, brokerSubject, h]

theorem Reconciled.mem_changedPods_iff {r : Reconciled} {pod : String} :
    pod ∈ r.changedPods ↔ ∃ a, r.actions.get? pod = some a ∧ a ≠ .reused := by
  simp only [changedPods, SortedMap.keys, SortedMap.filter, List.mem_map, List.mem_filter,
    Prod.exists, exists_and_right, exists_eq_right, Action.changes, bne_iff_ne,
    SortedMap.get?_eq_some_iff]

variable {σ : Type} {nodes : List Node} {s : σ} {r : Reconciled}

theorem Cycle.Settled.exists_node_of_changed {c : Cycle σ} (h : c.Settled nodes s r)
    {pod : String} (hpod : pod ∈ r.changedPods) : ∃ n ∈ nodes, n.podName = pod := by
  obtain ⟨a, ha, -⟩ := Reconciled.mem_changedPods_iff.1 hpod
  simpa using (h.actions_keys pod).1 (SortedMap.mem_keys_iff_exists.2 ⟨a, ha⟩)

theorem Cycle.Settled.at_rest {c : Cycle σ} (h : c.Settled nodes s r)
    (hsteady : c.anchor.renewing = false) (hsignal : c.anchor.signal ≠ .created) (hn : n ∈ nodes)
    {b : Bundle} (hb : c.existing.get? n.podName = some b)
    (hage : c.anchor.isExpiring b.cert = false ∨ c.windowOpen = false) :
    (Stored.altNames? b.cert = some (c.subject n).altNames ∧
        r.actions.get? n.podName = some .reused ∧ r.certs.get? n.podName = some b) ∨
      (Stored.altNames? b.cert ≠ some (c.subject n).altNames ∧
        r.actions.get? n.podName = some (.regenerated [.subjectChanged])) := by
  obtain ⟨_, b', a, hb', ha, hdecided⟩ := h.decided_of_mem hn
  have hgrounds : c.grounds b.cert (c.subject n) = _ := grounds_of_rest hsignal hage
  rcases hdecided.of_stored hsteady hb with ⟨hfit, rfl, rfl⟩ | ⟨hunfit, rfl⟩
  · left
    rw [hgrounds] at hfit
    split at hfit
    · next hnames => exact ⟨hnames, ha, hb'⟩
    · cases hfit
  · right
    rw [hgrounds] at hunfit ha
    split at hunfit
    · exact absurd rfl hunfit
    · next hnames =>
      rw [if_neg hnames] at ha
      exact ⟨hnames, ha⟩

theorem Cycle.Settled.changed_iff {c : Cycle σ} (h : c.Settled nodes s r)
    (hsteady : c.anchor.renewing = false) (hsignal : c.anchor.signal ≠ .created) (hn : n ∈ nodes)
    {b : Bundle} (hb : c.existing.get? n.podName = some b) {was : Subject}
    (hwas : Stored.altNames? b.cert = some was.altNames)
    (hage : c.anchor.isExpiring b.cert = false ∨ c.windowOpen = false) :
    n.podName ∈ r.changedPods ↔ was.altNames ≠ (c.subject n).altNames := by
  have hrest := h.at_rest hsteady hsignal hn hb hage
  rw [hwas, ne_eq, Option.some.injEq] at hrest
  rw [Reconciled.mem_changedPods_iff]
  rcases hrest with ⟨hsame, hreused, -⟩ | ⟨hother, hregenerated⟩
  · simp [hreused, hsame]
  · simp [hregenerated, hother]

structure RollsListeners (naming : ClusterNaming) (e₁ e₂ : ExternalAddresses)
    (existing : CertificateMap) (nodes : List Node) (r : Reconciled) : Prop where
  changed : ∀ pod, pod ∈ r.changedPods ↔ ∃ n ∈ nodes, n.podName = pod ∧
    (brokerSubject naming e₁ n).altNames ≠ (brokerSubject naming e₂ n).altNames
  /-- Of the names that the listeners add, those that the node has in any case do not count. -/
  names : ∀ n ∈ nodes, n.podName ∈ r.changedPods ↔ ∃ name ∉ naming.internalNames n.podName,
    ¬ (name ∈ e₁.namesOf n ↔ name ∈ e₂.namesOf n)
  reason : ∀ pod ∈ r.changedPods, r.actions.get? pod = some (.regenerated [.subjectChanged])
  kept : ∀ n ∈ nodes, n.podName ∉ r.changedPods →
    r.actions.get? n.podName = some .reused ∧
      r.certs.get? n.podName = existing.get? n.podName
  controllers : ∀ n ∈ nodes, n.broker = false → n.podName ∉ r.changedPods
  brokers : e₁.bootstrap = e₂.bootstrap → ∀ n ∈ nodes,
    e₁.perNode.get? n.nodeId = e₂.perNode.get? n.nodeId → n.podName ∉ r.changedPods

/-- While the CA is at rest, a change of listeners gives new certificates to the pods whose names
it changes and to no others, and it gives this change as the only reason. -/
theorem rollsListeners (naming : ClusterNaming) (e₁ e₂ : ExternalAddresses) (anchor : Anchor σ)
    (existing : CertificateMap) (windowOpen : Bool) (nodes : List Node) (s : σ) (r : Reconciled)
    (hstored : ∀ n ∈ nodes, ∃ b, existing.get? n.podName = some b ∧
      Stored.altNames? b.cert = some (brokerSubject naming e₁ n).altNames)
    (hsignal : anchor.signal = .noRenewal ∨ anchor.signal = .postponed)
    (hrenewing : anchor.renewing = anchor.signal.replacesAll)
    (hfresh : (∀ pod b, existing.get? pod = some b → anchor.isExpiring b.cert = false) ∨
      windowOpen = false)
    (hrun : (Component.kafka.reconcile naming e₂ anchor existing windowOpen nodes s).result =
      .ok r) :
    RollsListeners naming e₁ e₂ existing nodes r := by
  let c : Cycle σ := { anchor, subject := brokerSubject naming e₂, existing, windowOpen }
  have hsettled : c.Settled nodes s r := Cycle.settled_of_run hrun
  have hsteady : anchor.renewing = false := by
    rw [hrenewing]
    rcases hsignal with h | h <;> rw [h] <;> rfl
  have hcreated : anchor.signal ≠ .created := by
    rcases hsignal with h | h <;> simp [h]
  have hexpiry {n : Node} {b : Bundle} (hb : existing.get? n.podName = some b) :
      anchor.isExpiring b.cert = false ∨ windowOpen = false := hfresh.imp_left fun h => h _ b hb
  have hchanged (n : Node) (hn : n ∈ nodes) : n.podName ∈ r.changedPods ↔
      (brokerSubject naming e₁ n).altNames ≠ (brokerSubject naming e₂ n).altNames := by
    obtain ⟨b, hb, hnames⟩ := hstored n hn
    exact hsettled.changed_iff hsteady hcreated hn hb hnames (hexpiry hb)
  have haction (n : Node) (hn : n ∈ nodes) :
      (r.actions.get? n.podName = some .reused ∧
          r.certs.get? n.podName = existing.get? n.podName) ∨
        r.actions.get? n.podName = some (.regenerated [.subjectChanged]) := by
    obtain ⟨b, hb, -⟩ := hstored n hn
    rw [hb]
    exact (hsettled.at_rest hsteady hcreated hn hb (hexpiry hb)).imp And.right And.right
  have hsteadyNode (n : Node) (hn : n ∈ nodes) (h : e₁.addressesOf n = e₂.addressesOf n) :
      n.podName ∉ r.changedPods := by
    rw [hchanged n hn, brokerSubject_congr h]
    exact fun hne => hne rfl
  have hmem {pod : String} : pod ∈ r.changedPods ↔
      ∃ a, r.actions.get? pod = some a ∧ a ≠ .reused := Reconciled.mem_changedPods_iff
  refine ⟨fun pod => ⟨fun h => ?_, ?_⟩, fun n hn => ?_, fun pod h => ?_, fun n hn h => ?_,
    fun n hn hbroker => ?_, fun hbootstrap n hn hentry => ?_⟩
  · obtain ⟨n, hn, rfl⟩ := hsettled.exists_node_of_changed h
    exact ⟨n, hn, rfl, (hchanged n hn).1 h⟩
  · rintro ⟨n, hn, rfl, hother⟩
    exact (hchanged n hn).2 hother
  · rw [hchanged n hn, ne_eq, altNames_brokerSubject_eq_iff]
    simp only [Classical.not_forall, exists_prop]
  · obtain ⟨n, hn, rfl⟩ := hsettled.exists_node_of_changed h
    rcases haction n hn with ⟨hreused, -⟩ | hregenerated
    · simp [hmem, hreused] at h
    · exact hregenerated
  · rcases haction n hn with hkept | hregenerated
    · exact hkept
    · simp [hmem, hregenerated] at h
  · apply hsteadyNode n hn
    rw [addressesOf_of_not_broker hbroker, addressesOf_of_not_broker hbroker]
  · exact hsteadyNode n hn (addressesOf_congr hbootstrap hentry)

def sampleNaming : ClusterNaming := ⟨"c", "n", "d"⟩

def sampleListeners : ExternalAddresses := { bootstrap := SortedSet.ofList ["[0:0::1]"] }

def samplePool : List Node := [Node.brokerIn "p" 0, Node.controllerIn "p" 1]

def sampleSigned (d : Subject) : Bundle :=
  Authority.sampleAuthority.bundle d ⟨2523996400, 2555536000⟩ (Material.draw { seed := [7] }).1

def samplePoolAnchor : Anchor Unit where
  signal := .noRenewal
  isExpiring _ := false
  sign d _ := ⟨.ok (sampleSigned d), [], ()⟩

def samplePoolCerts : CertificateMap :=
  .ofList (samplePool.map fun n => (n.podName, sampleSigned (brokerSubject sampleNaming {} n)))

theorem issue_sampleSigned {d : Subject} (hname : d.commonName ≠ "")
    (hforeign : Authority.foreignName? d = none) :
    (Authority.sampleAuthority.issue d 365 Authority.sampleNow { seed := [7] }).result =
      .ok (sampleSigned d) :=
  Authority.issue_ok_iff.2 ⟨hname, hforeign, _, Authority.ofDays_sampleNow,
    Authority.writable_sampleNow, rfl⟩

theorem issued_samplePool {n : Node} (hn : n ∈ samplePool) :
    (Authority.sampleAuthority.issue (brokerSubject sampleNaming {} n) 365 Authority.sampleNow
        { seed := [7] }).result = .ok (sampleSigned (brokerSubject sampleNaming {} n)) ∧
      (sampleSigned (brokerSubject sampleNaming {} n)).cert.length < Der.lengthBound := by
  have hsubject : ∀ n ∈ samplePool, (brokerSubject sampleNaming {} n).commonName ≠ "" ∧
      Authority.foreignName? (brokerSubject sampleNaming {} n) = none ∧
      ((Authority.leaf Authority.sampleAuthority.issuer (brokerSubject sampleNaming {} n)
        ⟨2523996400, 2555536000⟩).encodeBody 0 Authority.sampleAuthority.key.algorithm []).length +
          Authority.sampleAuthority.key.signatureBound < Nat.pow 256 125 := by
    decide +kernel
  obtain ⟨hname, hforeign, hlength⟩ := hsubject n hn
  exact ⟨issue_sampleSigned hname hforeign, Authority.length_cert_lt hlength⟩

theorem altNames?_samplePool {n : Node} (hn : n ∈ samplePool) :
    Stored.altNames? (sampleSigned (brokerSubject sampleNaming {} n)).cert =
      some (brokerSubject sampleNaming {} n).altNames := by
  obtain ⟨hissue, hlength⟩ := issued_samplePool hn
  exact Authority.altNames?_of_issue hissue hlength

theorem podNames_samplePool : (samplePool.map (·.podName)).Nodup := by decide

theorem get?_samplePoolCerts {n : Node} (hn : n ∈ samplePool) :
    samplePoolCerts.get? n.podName = some (sampleSigned (brokerSubject sampleNaming {} n)) := by
  refine (SortedMap.get?_ofList_eq_some_iff ?_).2 (List.mem_map_of_mem hn)
  rw [List.map_map]
  exact podNames_samplePool

theorem stored_samplePool : ∀ n ∈ samplePool, ∃ b, samplePoolCerts.get? n.podName = some b ∧
    Stored.altNames? b.cert = some (brokerSubject sampleNaming {} n).altNames := fun _ hn =>
  ⟨_, get?_samplePoolCerts hn, altNames?_samplePool hn⟩

theorem run_samplePool : ∃ r, (Component.kafka.reconcile sampleNaming sampleListeners
    samplePoolAnchor samplePoolCerts true samplePool ()).result = .ok r :=
  Cycle.run_succeeds podNames_samplePool (fun _ _ => ⟨_, rfl⟩) ()

theorem rollsListeners_sample : ∃ r, (Component.kafka.reconcile sampleNaming sampleListeners
    samplePoolAnchor samplePoolCerts true samplePool ()).result = .ok r ∧
    RollsListeners sampleNaming {} sampleListeners samplePoolCerts samplePool r ∧
    "p-0" ∈ r.changedPods ∧ "p-1" ∉ r.changedPods := by
  obtain ⟨r, hrun⟩ := run_samplePool
  have hrolls := rollsListeners sampleNaming {} sampleListeners samplePoolAnchor samplePoolCerts
    true samplePool () r stored_samplePool (.inl rfl) rfl (.inl fun _ _ _ => rfl) hrun
  have hbroker : Node.brokerIn "p" 0 ∈ samplePool := by simp [samplePool]
  have hcontroller : Node.controllerIn "p" 1 ∈ samplePool := by simp [samplePool]
  have hadded : "::1" ∉ sampleNaming.internalNames (Node.brokerIn "p" 0).podName ∧
      "::1" ∈ sampleListeners.namesOf (Node.brokerIn "p" 0) := by decide
  refine ⟨r, hrun, hrolls, ?_, ?_⟩
  · refine (hrolls.names _ hbroker).2 ⟨"::1", hadded.1, fun hiff => ?_⟩
    have hnone : "::1" ∈ ({} : ExternalAddresses).namesOf (Node.brokerIn "p" 0) :=
      hiff.2 hadded.2
    cases hnone
  · exact hrolls.controllers _ hcontroller rfl

end ClusterCerts
