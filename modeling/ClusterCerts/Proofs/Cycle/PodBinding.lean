import ClusterCerts.Proofs.Subject.Kinds

/-!
# Certificates bound to their pods

The names of a cluster are joined from texts that may be chosen freely, so that different pods
can share some. But the fully qualified name of a pod can only be a name of another pod if the
other one is called by a longer text, as lengths and last characters show. Two pods thus never
have all their names in common, and a certificate that is stored for the wrong one does not stay.
-/

namespace ClusterCerts

variable {naming : ClusterNaming} {external : ExternalAddresses} {pod other service name : String}

namespace ClusterNaming

theorem length_bootstrapService : naming.bootstrapService.length = naming.cluster.length + 16 :=
  String.length_append _ _

theorem length_brokersService : naming.brokersService.length = naming.cluster.length + 14 :=
  String.length_append _ _

theorem length_serviceName (service : String) :
    (naming.serviceName service).length = service.length + naming.space.length + 5 := by
  have hdot : ".".length = 1 := rfl
  have hsvc : ".svc".length = 4 := rfl
  simp only [serviceName, String.length_append, hdot, hsvc]
  omega

theorem length_qualifiedServiceName (service : String) :
    (naming.qualifiedServiceName service).length =
      service.length + naming.space.length + naming.domain.length + 6 := by
  have hdot : ".".length = 1 := rfl
  have hsvc : ".svc.".length = 5 := rfl
  simp only [qualifiedServiceName, String.length_append, hdot, hsvc]
  omega

theorem length_podName (service pod : String) : (naming.podName service pod).length =
    pod.length + (naming.serviceName service).length + 1 := by
  have hdot : ".".length = 1 := rfl
  simp only [podName, String.length_append, hdot]
  omega

theorem length_qualifiedPodName (naming : ClusterNaming) (service pod : String) :
    (naming.qualifiedPodName service pod).length =
      pod.length + (naming.qualifiedServiceName service).length + 1 := by
  have hdot : ".".length = 1 := rfl
  simp only [qualifiedPodName, String.length_append, hdot]
  omega

theorem length_le_of_mem_serviceNames (h : name ∈ naming.serviceNames service) :
    name.length ≤ (naming.qualifiedServiceName service).length := by
  have hdot : ".".length = 1 := rfl
  simp only [serviceNames, List.mem_cons, List.not_mem_nil, or_false] at h
  rw [length_qualifiedServiceName]
  rcases h with rfl | rfl | rfl | rfl
  · omega
  · simp only [String.length_append, hdot]
    omega
  · rw [length_serviceName]
    omega
  · rw [length_qualifiedServiceName]

theorem qualifiedPodName_notMem_brokers :
    naming.qualifiedPodName naming.brokersService pod ∉
      naming.serviceNames naming.brokersService := by
  intro h
  have hlength := length_le_of_mem_serviceNames h
  rw [length_qualifiedPodName] at hlength
  omega

theorem qualifiedPodName_ne_serviceName_bootstrap :
    naming.qualifiedPodName naming.brokersService pod ≠
      naming.serviceName naming.bootstrapService := by
  intro h
  have hlength := congrArg String.length h
  simp only [length_qualifiedPodName, length_qualifiedServiceName, length_serviceName,
    length_brokersService, length_bootstrapService] at hlength
  -- Only a pod and a domain without a character leave the two lengths equal.
  have hdomain : naming.domain = "" := String.length_eq_zero_iff.1 (by omega)
  have hdot : ".svc.".toList.getLast? = some '.' := rfl
  have hsvc : ".svc".toList.getLast? = some 'c' := rfl
  have hlast := congrArg (fun text => text.toList.getLast?) h
  simp only [qualifiedPodName, qualifiedServiceName, serviceName, hdomain, String.append_empty,
    String.toList_append, List.getLast?_append, hdot, hsvc, Option.some_or] at hlast
  cases hlast

theorem qualifiedPodName_ne_qualifiedServiceName_bootstrap :
    naming.qualifiedPodName naming.brokersService pod ≠
      naming.qualifiedServiceName naming.bootstrapService := by
  intro h
  have hfront : pod ++ "." ++ naming.brokersService = naming.bootstrapService := by
    apply (String.append_left_inj ("." ++ naming.space ++ ".svc." ++ naming.domain)).1
    simpa only [qualifiedPodName, qualifiedServiceName, String.append_assoc] using h
  have hbrokers : "-kafka-brokers".toList.getLast? = some 's' := rfl
  have hbootstrap : "-kafka-bootstrap".toList.getLast? = some 'p' := rfl
  have hlast := congrArg (fun text => text.toList.getLast?) hfront
  simp only [brokersService, bootstrapService, String.toList_append, List.getLast?_append,
    hbrokers, hbootstrap, Option.some_or] at hlast
  cases hlast

theorem qualifiedPodName_notMem_bootstrap :
    naming.qualifiedPodName naming.brokersService pod ∉
      naming.serviceNames naming.bootstrapService := by
  intro h
  have hlength := naming.length_qualifiedPodName naming.brokersService pod
  rw [length_qualifiedServiceName, length_brokersService] at hlength
  have hdot : ".".length = 1 := rfl
  simp only [serviceNames, List.mem_cons, List.not_mem_nil, or_false] at h
  rcases h with h | h | h | h
  · rw [h, length_bootstrapService] at hlength
    omega
  · rw [h] at hlength
    simp only [String.length_append, length_bootstrapService, hdot] at hlength
    omega
  · exact qualifiedPodName_ne_serviceName_bootstrap h
  · exact qualifiedPodName_ne_qualifiedServiceName_bootstrap h

theorem qualifiedPodName_mem_internalNames (h : naming.qualifiedPodName naming.brokersService pod ∈
    naming.internalNames other) : pod = other ∨ pod.length < other.length := by
  simp only [internalNames, List.mem_append, List.mem_cons, List.not_mem_nil, or_false] at h
  rcases h with (h | h) | h | h
  · exact absurd h qualifiedPodName_notMem_bootstrap
  · exact absurd h qualifiedPodName_notMem_brokers
  · left
    have hdot := (String.append_left_inj _).1 h
    exact (String.append_left_inj _).1 hdot
  · right
    have hlength := congrArg String.length h
    rw [length_qualifiedPodName, length_qualifiedServiceName, length_podName,
      length_serviceName] at hlength
    omega

end ClusterNaming

variable {n₁ n₂ : Node}

def ExternalAddresses.Lists (external : ExternalAddresses) (text : String) : Prop :=
  text ∈ external.bootstrap ∨
    ∃ id texts, external.perNode.get? id = some texts ∧ text ∈ texts

theorem ExternalAddresses.lists_of_mem_addressesOf {n : Node}
    (h : name ∈ external.addressesOf n) : external.Lists name := by
  unfold addressesOf at h
  split at h
  · rcases List.mem_append.1 h with hall | hown
    · exact .inl hall
    · right
      cases hentry : external.perNode.get? n.nodeId with
      | none => simp [hentry] at hown
      | some texts =>
        rw [hentry] at hown
        exact ⟨n.nodeId, texts, hentry, hown⟩
  · cases h

theorem ExternalAddresses.lists_of_mem_namesOf {n : Node} (h : name ∈ external.namesOf n)
    (hname : Address.readLiteral? name = none) : external.Lists name := by
  obtain ⟨text, htext, rfl⟩ := List.mem_map.1 h
  unfold Subject.spelling at hname ⊢
  split at hname
  · rw [Address.readLiteral?_text] at hname
    cases hname
  · exact lists_of_mem_addressesOf htext

theorem qualifiedPodName_mem_own :
    naming.qualifiedPodName naming.brokersService pod ∈ naming.internalNames pod := by
  simp [ClusterNaming.internalNames]

theorem length_lt_of_altNames_eq (hpods : n₁.podName ≠ n₂.podName)
    (hlisted : ¬ external.Lists (naming.qualifiedPodName naming.brokersService n₁.podName))
    (h : (brokerSubject naming external n₁).altNames =
      (brokerSubject naming external n₂).altNames) :
    n₁.podName.length < n₂.podName.length := by
  have hown : naming.qualifiedPodName naming.brokersService n₁.podName ∈
      (brokerSubject naming external n₁).altNames := by
    rw [mem_altNames_brokerSubject]
    exact .inl qualifiedPodName_mem_own
  have hhost : Address.readLiteral? (naming.qualifiedPodName naming.brokersService n₁.podName) =
      none := Address.readLiteral?_eq_none_of_hyphen
    (hyphen_mem_of_mem_internalNames qualifiedPodName_mem_own)
  rw [h, mem_altNames_brokerSubject] at hown
  rcases hown with hinternal | hexternal
  · exact (ClusterNaming.qualifiedPodName_mem_internalNames hinternal).resolve_left hpods
  · exact absurd (external.lists_of_mem_namesOf hexternal hhost) hlisted

theorem altNames_ne_of_podName_ne (hpods : n₁.podName ≠ n₂.podName)
    (h₁ : ¬ external.Lists (naming.qualifiedPodName naming.brokersService n₁.podName))
    (h₂ : ¬ external.Lists (naming.qualifiedPodName naming.brokersService n₂.podName)) :
    (brokerSubject naming external n₁).altNames ≠
      (brokerSubject naming external n₂).altNames := by
  intro h
  have hlt := length_lt_of_altNames_eq hpods h₁ h
  have hgt := length_lt_of_altNames_eq hpods.symm h₂ h.symm
  omega

example :
    let external : ExternalAddresses :=
      { bootstrap := SortedSet.ofList
          ["p-0.c-kafka-brokers.n.svc", "p-0.c-kafka-brokers.n.svc.d",
            "p-1.c-kafka-brokers.n.svc", "p-1.c-kafka-brokers.n.svc.d"] }
    (brokerSubject ⟨"c", "n", "d"⟩ external (Node.brokerIn "p" 0)).altNames =
      (brokerSubject ⟨"c", "n", "d"⟩ external (Node.brokerIn "p" 1)).altNames := by
  decide +kernel

variable {σ : Type}

theorem Cycle.Settled.regenerated_of_altNames_ne {c : Cycle σ} {nodes : List Node} {s : σ}
    {r : Reconciled} (h : c.Settled nodes s r) (hsteady : c.anchor.renewing = false) {n : Node}
    (hn : n ∈ nodes) {b : Bundle} (hb : c.existing.get? n.podName = some b)
    (hnames : Stored.altNames? b.cert ≠ some (c.subject n).altNames) :
    ∃ reasons, r.actions.get? n.podName = some (.regenerated reasons) ∧
      .subjectChanged ∈ reasons := by
  have hground : Reason.subjectChanged ∈ c.grounds b.cert (c.subject n) :=
    List.mem_filter.2 ⟨List.mem_cons_self, decide_eq_true hnames⟩
  obtain ⟨_, _, a, -, ha, hdecided⟩ := h.decided_of_mem hn
  rcases hdecided.of_stored hsteady hb with ⟨hfit, -⟩ | ⟨-, rfl⟩
  · rw [hfit] at hground
    cases hground
  · exact ⟨_, ha, hground⟩

/-- Nodes with different pods have different names, unless a listener has the qualified name of
one of the pods as its address. So a certificate with the names of the one does not stay with the
other. -/
theorem certificate_bound_to_pod (naming : ClusterNaming) (external : ExternalAddresses)
    (n₁ n₂ : Node) (hpods : n₁.podName ≠ n₂.podName)
    (h₁ : ¬ external.Lists (naming.qualifiedPodName naming.brokersService n₁.podName))
    (h₂ : ¬ external.Lists (naming.qualifiedPodName naming.brokersService n₂.podName)) :
    (brokerSubject naming external n₁).altNames ≠ (brokerSubject naming external n₂).altNames ∧
    ∀ (anchor : Anchor σ) (existing : CertificateMap) (windowOpen : Bool) (nodes : List Node)
      (s : σ) (r : Reconciled) (b : Bundle),
      anchor.renewing = false → n₁ ∈ nodes → existing.get? n₁.podName = some b →
      Stored.altNames? b.cert = some (brokerSubject naming external n₂).altNames →
      (Component.kafka.reconcile naming external anchor existing windowOpen nodes s).result =
        .ok r →
      ∃ reasons, r.actions.get? n₁.podName = some (.regenerated reasons) ∧
        .subjectChanged ∈ reasons := by
  have hdiffer := altNames_ne_of_podName_ne hpods h₁ h₂
  refine ⟨hdiffer, fun anchor existing windowOpen nodes s r b hsteady hn hb hnames hrun => ?_⟩
  let c : Cycle σ := { anchor, subject := brokerSubject naming external, existing, windowOpen }
  have hsettled : c.Settled nodes s r := Cycle.settled_of_run hrun
  apply hsettled.regenerated_of_altNames_ne hsteady hn hb
  rw [hnames, ne_eq, Option.some.injEq]
  exact hdiffer.symm

def sampleSwapped : CertificateMap :=
  .ofList [("p-0", sampleSigned (brokerSubject sampleNaming {} (Node.controllerIn "p" 1))),
    ("p-1", sampleSigned (brokerSubject sampleNaming {} (Node.brokerIn "p" 0)))]

theorem certificate_bound_to_pod_sample : ∃ r, (Component.kafka.reconcile sampleNaming {}
    samplePoolAnchor sampleSwapped false samplePool ()).result = .ok r ∧
    ∃ reasons, r.actions.get? "p-0" = some (.regenerated reasons) ∧ .subjectChanged ∈ reasons := by
  have hrun : ∃ r, (Component.kafka.reconcile sampleNaming {} samplePoolAnchor sampleSwapped false
      samplePool ()).result = .ok r :=
    Cycle.run_succeeds podNames_samplePool (fun _ _ => ⟨_, rfl⟩) ()
  have hunlisted (text : String) : ¬ ({} : ExternalAddresses).Lists text := by
    rintro (h | ⟨_, _, h, -⟩) <;> cases h
  have hcontroller : Node.controllerIn "p" 1 ∈ samplePool := by simp [samplePool]
  have hbroker : Node.brokerIn "p" 0 ∈ samplePool := by simp [samplePool]
  obtain ⟨r, hr⟩ := hrun
  obtain ⟨-, hbound⟩ := certificate_bound_to_pod (σ := Unit) sampleNaming {} (Node.brokerIn "p" 0)
    (Node.controllerIn "p" 1) (by decide) (hunlisted _) (hunlisted _)
  exact ⟨r, hr, hbound samplePoolAnchor sampleSwapped false samplePool () r _ rfl hbroker rfl
    (altNames?_samplePool hcontroller) hr⟩

end ClusterCerts
