import ClusterCerts.Listeners

/-!
# The names of a subject

A subject is built in steps, and each adds DNS names and addresses of its own to those that are
there. The alternative names are the DNS names and the texts of the addresses; those of a broker
are its names inside the cluster and those of its listeners, each in the one spelling that it has
in a certificate.
-/

namespace ClusterCerts

theorem foldl_iff {α β : Type} (P : β → Prop) {f : β → α → β} {adds : α → Prop}
    (h : ∀ s x, P (f s x) ↔ adds x ∨ P s) (xs : List α) (s : β) :
    P (xs.foldl f s) ↔ (∃ x ∈ xs, adds x) ∨ P s := by
  induction xs generalizing s with
  | nil => simp
  | cons x xs ih =>
    rw [List.foldl_cons, ih, h, or_left_comm, ← or_assoc]
    simp only [List.mem_cons, exists_eq_or_imp]

namespace Subject

variable {s : Subject} {name : String} {a : Address}

def spelling (text : String) : String :=
  match Address.readLiteral? text with
  | some address => address.text
  | none => text

namespace Step

def names : Step → List String
  | .organization _ => []
  | .dns name => [name]
  | .dnsNames names => names
  | .ip a => [a.text]
  | .address text => [spelling text]
  | .addresses texts => texts.map spelling

def hosts : Step → List String
  | .organization _ | .ip _ => []
  | .dns name => [name]
  | .dnsNames names => names
  | .address text => [text].filter fun t => Address.readLiteral? t = none
  | .addresses texts => texts.filter fun t => Address.readLiteral? t = none

def literals : Step → List Address
  | .organization _ | .dns _ | .dnsNames _ => []
  | .ip a => [a]
  | .address text => [text].filterMap Address.readLiteral?
  | .addresses texts => texts.filterMap Address.readLiteral?

theorem mem_map_spelling_iff (texts : List String) :
    name ∈ texts.map spelling ↔ name ∈ texts.filter (fun t => Address.readLiteral? t = none) ∨
      ∃ a ∈ texts.filterMap Address.readLiteral?, a.text = name := by
  induction texts with
  | nil => simp
  | cons text texts ih =>
    rw [List.map_cons, List.mem_cons, ih, spelling]
    cases h : Address.readLiteral? text with
    | none => simp [h, or_assoc]
    | some a => simp [h, or_left_comm, eq_comm (a := name)]

theorem mem_names_iff (step : Step) :
    name ∈ step.names ↔ name ∈ step.hosts ∨ ∃ a ∈ step.literals, a.text = name := by
  cases step with
  | organization _ => simp [names, hosts, literals]
  | dns x => simp [names, hosts, literals]
  | dnsNames xs => simp [names, hosts, literals]
  | ip a => simp [names, hosts, literals, eq_comm]
  | address text => exact mem_map_spelling_iff [text]
  | addresses texts => exact mem_map_spelling_iff texts

end Step

theorem mem_altNames :
    name ∈ s.altNames ↔ name ∈ s.dnsNames ∨ ∃ a ∈ s.addresses, a.text = name := by
  rw [altNames, SortedSet.mem_insertAll, List.mem_map, or_comm]
  rfl

theorem mem_dnsNames_addDns (s : Subject) (x : String) :
    name ∈ (s.addDns x).dnsNames ↔ name = x ∨ name ∈ s.dnsNames := SortedSet.mem_insert

theorem mem_dnsNames_addAddress (s : Subject) (text : String) :
    name ∈ (s.addAddress text).dnsNames ↔
    (Address.readLiteral? text = none ∧ name = text) ∨ name ∈ s.dnsNames := by
  unfold addAddress
  cases Address.readLiteral? text with
  | none => simp [mem_dnsNames_addDns]
  | some a => simp [addIp]

theorem mem_addresses_addAddress (s : Subject) (text : String) : a ∈ (s.addAddress text).addresses ↔
    Address.readLiteral? text = some a ∨ a ∈ s.addresses := by
  unfold addAddress
  cases Address.readLiteral? text with
  | none => simp [addDns]
  | some b => simp [addIp, eq_comm]

theorem mem_dnsNames_apply (s : Subject) (step : Step) :
    name ∈ (s.apply step).dnsNames ↔ name ∈ step.hosts ∨ name ∈ s.dnsNames := by
  have htexts (texts : List String) : name ∈ (texts.foldl addAddress s).dnsNames ↔
      name ∈ texts.filter (fun t => Address.readLiteral? t = none) ∨ name ∈ s.dnsNames := by
    have h := foldl_iff (fun s : Subject => name ∈ s.dnsNames) mem_dnsNames_addAddress texts s
    simpa [List.mem_filter] using h
  cases step with
  | organization _ => simp [apply, Step.hosts]
  | dns x => simpa [apply, Step.hosts] using mem_dnsNames_addDns s x
  | dnsNames xs =>
    have h := foldl_iff (fun s : Subject => name ∈ s.dnsNames) mem_dnsNames_addDns xs s
    simpa [apply, Step.hosts] using h
  | ip a => simp [apply, addIp, Step.hosts]
  | address text => exact htexts [text]
  | addresses texts => exact htexts texts

theorem mem_addresses_apply (s : Subject) (step : Step) :
    a ∈ (s.apply step).addresses ↔ a ∈ step.literals ∨ a ∈ s.addresses := by
  have htexts (texts : List String) : a ∈ (texts.foldl addAddress s).addresses ↔
      a ∈ texts.filterMap Address.readLiteral? ∨ a ∈ s.addresses := by
    have h := foldl_iff (fun s : Subject => a ∈ s.addresses) mem_addresses_addAddress texts s
    rwa [← List.mem_filterMap] at h
  cases step with
  | organization _ => simp [apply, Step.literals]
  | dns x => simp [apply, addDns, Step.literals]
  | dnsNames xs =>
    have hstep (s : Subject) (x : String) :
        a ∈ (s.addDns x).addresses ↔ False ∨ a ∈ s.addresses := by
      simp [addDns]
    have h := foldl_iff (fun s : Subject => a ∈ s.addresses) hstep xs s
    simpa [apply, Step.literals] using h
  | ip b => simp [apply, addIp, Step.literals]
  | address text => exact htexts [text]
  | addresses texts => exact htexts texts

theorem foldl_keeps {α β : Type} {p : Subject → β} {f : Subject → α → Subject}
    (h : ∀ s x, p (f s x) = p s) (xs : List α) (s : Subject) : p (xs.foldl f s) = p s := by
  induction xs generalizing s with
  | nil => rfl
  | cons x xs ih => rw [List.foldl_cons, ih, h]

theorem commonName_apply (s : Subject) (step : Step) :
    (s.apply step).commonName = s.commonName := by
  have haddress (s : Subject) (text : String) : (s.addAddress text).commonName = s.commonName := by
    unfold addAddress
    cases Address.readLiteral? text <;> rfl
  cases step with
  | organization _ => rfl
  | dns _ => rfl
  | dnsNames names => exact foldl_keeps (f := addDns) (fun _ _ => rfl) names s
  | ip _ => rfl
  | address text => exact haddress s text
  | addresses texts => exact foldl_keeps haddress texts s

theorem commonName_build (commonName : String) (steps : List Step) :
    (build commonName steps).commonName = commonName := foldl_keeps commonName_apply steps _

theorem mem_dnsNames_build (commonName : String) (steps : List Step) :
    name ∈ (build commonName steps).dnsNames ↔ ∃ step ∈ steps, name ∈ step.hosts := by
  have h := foldl_iff (fun s : Subject => name ∈ s.dnsNames) mem_dnsNames_apply
    steps { commonName }
  simpa [build] using h

theorem mem_addresses_build (commonName : String) (steps : List Step) :
    a ∈ (build commonName steps).addresses ↔ ∃ step ∈ steps, a ∈ step.literals := by
  have h := foldl_iff (fun s : Subject => a ∈ s.addresses) mem_addresses_apply
    steps { commonName }
  simpa [build] using h

theorem mem_altNames_build (commonName : String) (steps : List Step) :
    name ∈ (build commonName steps).altNames ↔ ∃ step ∈ steps, name ∈ step.names := by
  simp only [mem_altNames, mem_dnsNames_build, mem_addresses_build, Step.mem_names_iff]
  grind

end Subject

variable {naming : ClusterNaming} {external : ExternalAddresses} {n : Node} {name : String}

def ClusterNaming.internalNames (naming : ClusterNaming) (pod : String) : List String :=
  naming.serviceNames naming.bootstrapService ++ naming.serviceNames naming.brokersService ++
    [naming.qualifiedPodName naming.brokersService pod, naming.podName naming.brokersService pod]

def ExternalAddresses.namesOf (external : ExternalAddresses) (n : Node) : List String :=
  (external.addressesOf n).map Subject.spelling

theorem mem_dnsNames_brokerSubject : name ∈ (brokerSubject naming external n).dnsNames ↔
    name ∈ naming.internalNames n.podName ∨
      name ∈ external.addressesOf n ∧ Address.readLiteral? name = none := by
  rw [brokerSubject, Subject.mem_dnsNames_build]
  simp [Subject.Step.hosts, ClusterNaming.internalNames, or_assoc]

theorem mem_dnsNames_cruiseControlSubject : name ∈ (cruiseControlSubject naming n).dnsNames ↔
    name ∈ naming.serviceNames naming.cruiseControlService ∨ name = "localhost" := by
  rw [cruiseControlSubject, Subject.mem_dnsNames_build]
  simp [Subject.Step.hosts]

theorem mem_altNames_brokerSubject : name ∈ (brokerSubject naming external n).altNames ↔
    name ∈ naming.internalNames n.podName ∨ name ∈ external.namesOf n := by
  rw [brokerSubject, Subject.mem_altNames_build]
  simp [Subject.Step.names, ClusterNaming.internalNames, ExternalAddresses.namesOf, or_assoc]

end ClusterCerts
