import ClusterCerts.Proofs.Address.Reading
import ClusterCerts.Proofs.Cycle.Listeners

/-!
# Names of both kinds

Certificates are compared by the texts of their names, with DNS names and addresses in one set.
Nothing is lost by that where no DNS name reads as an address, since then reading the texts again
gives both sets back. It is so for the subjects of all nodes: the names that are made for them have
a hyphen or are `localhost`, and a listener's address is a DNS name only if it is no literal.
-/

namespace ClusterCerts

variable {naming : ClusterNaming} {service name : String}

theorem hyphen_mem_of_mem_serviceNames (h : '-' ∈ service.toList)
    (hname : name ∈ naming.serviceNames service) : '-' ∈ name.toList := by
  simp only [ClusterNaming.serviceNames, ClusterNaming.serviceName,
    ClusterNaming.qualifiedServiceName, List.mem_cons, List.not_mem_nil, or_false] at hname
  rcases hname with rfl | rfl | rfl | rfl <;> simp [h]

theorem hyphen_mem_of_mem_internalNames {pod : String} (hname : name ∈ naming.internalNames pod) :
    '-' ∈ name.toList := by
  have hbootstrap : '-' ∈ naming.bootstrapService.toList := by simp [ClusterNaming.bootstrapService]
  have hbrokers : '-' ∈ naming.brokersService.toList := by simp [ClusterNaming.brokersService]
  simp only [ClusterNaming.internalNames, List.mem_append, List.mem_cons, List.not_mem_nil,
    or_false] at hname
  rcases hname with (hname | hname) | rfl | rfl
  · exact hyphen_mem_of_mem_serviceNames hbootstrap hname
  · exact hyphen_mem_of_mem_serviceNames hbrokers hname
  · simp [ClusterNaming.qualifiedPodName, ClusterNaming.qualifiedServiceName, hbrokers]
  · simp [ClusterNaming.podName, ClusterNaming.serviceName, hbrokers]

namespace Subject

variable {s t : Subject} {a : Address}

def Classified (s : Subject) : Prop := ∀ name ∈ s.dnsNames, Address.readLiteral? name = none

theorem classified_build {commonName : String} {steps : List Step}
    (h : ∀ step ∈ steps, ∀ name ∈ step.hosts, Address.readLiteral? name = none) :
    (build commonName steps).Classified := by
  intro name hname
  obtain ⟨step, hstep, hmem⟩ := (mem_dnsNames_build commonName steps).1 hname
  exact h step hstep name hmem

theorem Classified.mem_dnsNames_iff (h : s.Classified) :
    name ∈ s.dnsNames ↔ name ∈ s.altNames ∧ Address.readLiteral? name = none := by
  rw [mem_altNames]
  constructor
  · intro hname
    exact ⟨.inl hname, h name hname⟩
  · rintro ⟨hname | ⟨a, -, rfl⟩, hnone⟩
    · exact hname
    · rw [Address.readLiteral?_text] at hnone
      cases hnone

theorem Classified.mem_addresses_iff (h : s.Classified) :
    a ∈ s.addresses ↔ ∃ name ∈ s.altNames, Address.readLiteral? name = some a := by
  constructor
  · intro ha
    exact ⟨a.text, mem_altNames.2 (.inr ⟨a, ha, rfl⟩), Address.readLiteral?_text a⟩
  · rintro ⟨name, hname, hread⟩
    rcases mem_altNames.1 hname with hname | ⟨b, hb, rfl⟩
    · rw [h name hname] at hread
      cases hread
    · rw [Address.readLiteral?_text] at hread
      cases hread
      exact hb

theorem Classified.kinds_eq (hs : s.Classified) (ht : t.Classified) (h : s.altNames = t.altNames) :
    s.dnsNames = t.dnsNames ∧ s.addresses = t.addresses := by
  constructor
  · apply SortedSet.ext_mem
    intro name
    rw [hs.mem_dnsNames_iff, ht.mem_dnsNames_iff, h]
  · apply SortedSet.ext_mem
    intro a
    rw [hs.mem_addresses_iff, ht.mem_addresses_iff, h]

theorem altNames_congr (hdns : s.dnsNames = t.dnsNames) (haddresses : s.addresses = t.addresses) :
    s.altNames = t.altNames := by
  rw [altNames, altNames, hdns, haddresses]

theorem classified_addresses (commonName : String) (texts : List String) :
    (build commonName [.addresses texts]).Classified := by
  apply classified_build
  simp [Step.hosts]

theorem Classified.spelling_eq (h : s.Classified) (hname : name ∈ s.altNames) :
    spelling name = name := by
  unfold spelling
  rcases mem_altNames.1 hname with hdns | ⟨a, -, rfl⟩
  · rw [h name hdns]
  · rw [Address.readLiteral?_text]

theorem Classified.altNames_addresses (h : s.Classified) (commonName : String) :
    (build commonName [.addresses s.altNames.toList]).altNames = s.altNames := by
  apply SortedSet.ext_mem
  intro name
  rw [mem_altNames_build]
  simp only [List.mem_singleton, exists_eq_left, Step.names, List.mem_map, ← SortedSet.mem_def]
  constructor
  · rintro ⟨text, htext, rfl⟩
    rwa [h.spelling_eq htext]
  · intro hname
    exact ⟨name, hname, h.spelling_eq hname⟩

inductive OfNode : Subject → Prop
  | broker (naming : ClusterNaming) (external : ExternalAddresses) (n : Node) :
      OfNode (brokerSubject naming external n)
  | cruiseControl (naming : ClusterNaming) (n : Node) : OfNode (cruiseControlSubject naming n)

theorem readLiteral?_localhost : Address.readLiteral? "localhost" = none := by decide

theorem OfNode.classified (h : s.OfNode) : s.Classified := by
  intro name hname
  cases h with
  | broker naming external n =>
    rcases mem_dnsNames_brokerSubject.1 hname with hinternal | ⟨-, hnone⟩
    · exact Address.readLiteral?_eq_none_of_hyphen (hyphen_mem_of_mem_internalNames hinternal)
    · exact hnone
  | cruiseControl naming n =>
    have hservice : '-' ∈ naming.cruiseControlService.toList := by
      simp [ClusterNaming.cruiseControlService]
    rcases mem_dnsNames_cruiseControlSubject.1 hname with hmem | rfl
    · exact Address.readLiteral?_eq_none_of_hyphen (hyphen_mem_of_mem_serviceNames hservice hmem)
    · exact readLiteral?_localhost

/-- The texts of a node's names determine the kinds of the names, so that no change of kind is
overlooked in an issued certificate. -/
theorem altNames_keep_kinds {s : Subject} (hs : s.OfNode) :
    (∀ commonName, (build commonName [.addresses s.altNames.toList]).dnsNames = s.dnsNames ∧
      (build commonName [.addresses s.altNames.toList]).addresses = s.addresses) ∧
    ∀ t : Subject, t.OfNode →
      (s.altNames = t.altNames → s.dnsNames = t.dnsNames ∧ s.addresses = t.addresses) ∧
      ∀ (ca : Authority) (days : UInt32) (now : Instant) (e : Entropy) (b : Bundle),
        (ca.issue s days now e).result = .ok b → b.cert.length < Der.lengthBound →
        (Stored.subjectChanged b.cert t = true ↔
          s.dnsNames ≠ t.dnsNames ∨ s.addresses ≠ t.addresses) := by
  refine ⟨fun commonName => ?_, fun t ht => ⟨?_, fun ca days now e b hissue hlength => ?_⟩⟩
  · exact (classified_addresses commonName _).kinds_eq hs.classified
      (hs.classified.altNames_addresses commonName)
  · exact hs.classified.kinds_eq ht.classified
  · rw [Cycle.subjectChanged_iff, Authority.altNames?_of_issue hissue hlength]
    simp only [ne_eq, Option.some.injEq]
    constructor
    · intro hchanged
      by_contra hsame
      simp only [not_or, Decidable.not_not] at hsame
      exact hchanged (altNames_congr hsame.1 hsame.2)
    · intro hkinds hnames
      obtain ⟨hdns, haddresses⟩ := hs.classified.kinds_eq ht.classified hnames
      exact hkinds.elim (fun h => h hdns) fun h => h haddresses

theorem altNames_keep_kinds_sample :
    (brokerSubject sampleNaming sampleListeners (Node.brokerIn "p" 0)).OfNode ∧
    (build "" [.addresses (brokerSubject sampleNaming sampleListeners
      (Node.brokerIn "p" 0)).altNames.toList]).addresses =
        (brokerSubject sampleNaming sampleListeners (Node.brokerIn "p" 0)).addresses ∧
    Stored.subjectChanged
      (sampleSigned (brokerSubject sampleNaming sampleListeners (Node.brokerIn "p" 0))).cert
      (brokerSubject sampleNaming {} (Node.brokerIn "p" 0)) = true := by
  have hnode := OfNode.broker sampleNaming sampleListeners (Node.brokerIn "p" 0)
  have hother := OfNode.broker sampleNaming {} (Node.brokerIn "p" 0)
  obtain ⟨hkinds, hchanges⟩ := altNames_keep_kinds hnode
  obtain ⟨-, hchanged⟩ := hchanges _ hother
  refine ⟨hnode, (hkinds "").2, ?_⟩
  apply (hchanged Authority.sampleAuthority 365 Authority.sampleNow { seed := [7] } _
    (issue_sampleSigned (by decide) (by decide))
    (Authority.length_cert_lt (by decide +kernel))).2
  right
  decide

end Subject
end ClusterCerts
