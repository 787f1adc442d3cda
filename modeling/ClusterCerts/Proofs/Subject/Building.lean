import ClusterCerts.Proofs.Address.Spellings
import ClusterCerts.Proofs.Cycle.Fixpoint
import ClusterCerts.Proofs.Cycle.Listeners

/-!
# What a subject is built from

A subject under construction keeps the names that it is given and forgets how it was given them: in
which order, how often and, for an address, in which spelling. Of several organizations the last one
stays.
-/

namespace ClusterCerts
namespace Subject

variable {commonName name : String} {a : Address} {text text' : String} {texts texts' : List String}
  {step : Step} {steps steps' : List Step}

namespace Step

def organization? : Step → Option String
  | .organization name => some name
  | _ => none

def givenNames : Step → List String
  | .dns name => [name]
  | .dnsNames names => names
  | _ => []

def givenAddresses : Step → List Address
  | .ip a => [a]
  | _ => []

def givenTexts : Step → List String
  | .address text => [text]
  | .addresses texts => texts
  | _ => []

theorem mem_hosts_iff : name ∈ step.hosts ↔
    name ∈ step.givenNames ∨ name ∈ step.givenTexts ∧ Address.readLiteral? name = none := by
  cases step <;> simp [hosts, givenNames, givenTexts]

theorem mem_literals_iff : a ∈ step.literals ↔
    a ∈ step.givenAddresses ∨ ∃ text ∈ step.givenTexts, Address.readLiteral? text = some a := by
  cases step <;> simp [literals, givenAddresses, givenTexts]

end Step

theorem mem_dnsNames_build_iff : name ∈ (build commonName steps).dnsNames ↔
    name ∈ steps.flatMap Step.givenNames ∨
      name ∈ steps.flatMap Step.givenTexts ∧ Address.readLiteral? name = none := by
  simp only [mem_dnsNames_build, Step.mem_hosts_iff, List.mem_flatMap]
  grind

theorem mem_addresses_build_iff : a ∈ (build commonName steps).addresses ↔
    a ∈ steps.flatMap Step.givenAddresses ∨
      ∃ text ∈ steps.flatMap Step.givenTexts, Address.readLiteral? text = some a := by
  simp only [mem_addresses_build, Step.mem_literals_iff, List.mem_flatMap]
  grind

def lastOrganization (steps : List Step) : Option String :=
  (steps.filterMap Step.organization?).getLast?

theorem organization_apply (s : Subject) (step : Step) :
    (s.apply step).organization = step.organization?.or s.organization := by
  have haddress (s : Subject) (text : String) :
      (s.addAddress text).organization = s.organization := by
    unfold addAddress
    cases Address.readLiteral? text <;> rfl
  cases step with
  | organization _ => rfl
  | dns _ => rfl
  | dnsNames names => exact foldl_keeps (f := addDns) (fun _ _ => rfl) names s
  | ip _ => rfl
  | address text => exact haddress s text
  | addresses texts => exact foldl_keeps haddress texts s

theorem organization_foldl (steps : List Step) (s : Subject) :
    (steps.foldl apply s).organization = (lastOrganization steps).or s.organization := by
  induction steps generalizing s with
  | nil => rfl
  | cons step steps ih =>
    rw [List.foldl_cons, ih, organization_apply, lastOrganization, lastOrganization]
    cases h : step.organization? with
    | none => simp [h]
    | some organization =>
      cases hrest : (steps.filterMap Step.organization?).getLast? <;>
        simp [h, hrest, List.getLast?_cons]

theorem organization_build (commonName : String) (steps : List Step) :
    (build commonName steps).organization = lastOrganization steps := by
  rw [build, organization_foldl, Option.or_none]

inductive Alike (text text' : String) : Prop
  | same : text = text' → Alike text text'
  | spelled (a : Address) : Address.Spells text a → Address.Spells text' a → Alike text text'

theorem alike_iff : Alike text text' ↔ text = text' ∨ (Address.readLiteral? text).isSome ∧
    Address.readLiteral? text = Address.readLiteral? text' := by
  constructor
  · rintro (h | ⟨a, h, h'⟩)
    · exact .inl h
    · right
      rw [Address.readLiteral?_iff.2 h, Address.readLiteral?_iff.2 h']
      exact ⟨rfl, rfl⟩
  · rintro (h | ⟨hsome, heq⟩)
    · exact .same h
    · obtain ⟨a, ha⟩ := Option.isSome_iff_exists.1 hsome
      exact .spelled a (Address.readLiteral?_iff.1 ha) (Address.readLiteral?_iff.1 (heq ▸ ha))

instance (text text' : String) : Decidable (Alike text text') := decidable_of_iff' _ alike_iff

theorem Alike.readLiteral? (h : Alike text text') :
    Address.readLiteral? text = Address.readLiteral? text' := by
  rcases alike_iff.1 h with rfl | ⟨-, heq⟩
  · rfl
  · exact heq

theorem Alike.eq_of_name (h : Alike text text') (hname : Address.readLiteral? text = none) :
    text = text' := by
  rcases alike_iff.1 h with heq | ⟨hsome, -⟩
  · exact heq
  · simp [hname] at hsome

def Among (texts texts' : List String) : Prop := ∀ text ∈ texts, ∃ text' ∈ texts', Alike text text'

theorem Among.dnsName (h : Among texts texts') (hmem : name ∈ texts)
    (hname : Address.readLiteral? name = none) : name ∈ texts' := by
  obtain ⟨text', hmem', halike⟩ := h name hmem
  rwa [halike.eq_of_name hname]

theorem Among.address (h : Among texts texts')
    (hread : ∃ text ∈ texts, Address.readLiteral? text = some a) :
    ∃ text ∈ texts', Address.readLiteral? text = some a := by
  obtain ⟨text, hmem, hread⟩ := hread
  obtain ⟨text', hmem', halike⟩ := h text hmem
  exact ⟨text', hmem', halike.readLiteral? ▸ hread⟩

/-- The texts of one list are those of the other but for the order, repetitions and the spelling of
addresses. -/
def SpelledAlike (texts texts' : List String) : Prop := Among texts texts' ∧ Among texts' texts

instance (texts texts' : List String) : Decidable (SpelledAlike texts texts') :=
  inferInstanceAs (Decidable ((∀ text ∈ texts, ∃ text' ∈ texts', Alike text text') ∧
    ∀ text ∈ texts', ∃ text' ∈ texts, Alike text text'))

theorem SpelledAlike.of_mem (h : ∀ text, text ∈ texts ↔ text ∈ texts') :
    SpelledAlike texts texts' :=
  ⟨fun text hmem => ⟨text, (h text).1 hmem, .same rfl⟩,
    fun text hmem => ⟨text, (h text).2 hmem, .same rfl⟩⟩

theorem SpelledAlike.name_iff (h : SpelledAlike texts texts') :
    name ∈ texts ∧ Address.readLiteral? name = none ↔
      name ∈ texts' ∧ Address.readLiteral? name = none :=
  ⟨fun hname => ⟨h.1.dnsName hname.1 hname.2, hname.2⟩,
    fun hname => ⟨h.2.dnsName hname.1 hname.2, hname.2⟩⟩

theorem SpelledAlike.address_iff (h : SpelledAlike texts texts') :
    (∃ text ∈ texts, Address.readLiteral? text = some a) ↔
      ∃ text ∈ texts', Address.readLiteral? text = some a := ⟨h.1.address, h.2.address⟩

structure SameNames (steps steps' : List Step) : Prop where
  names : ∀ name, name ∈ steps.flatMap Step.givenNames ↔ name ∈ steps'.flatMap Step.givenNames
  addresses : ∀ a, a ∈ steps.flatMap Step.givenAddresses ↔ a ∈ steps'.flatMap Step.givenAddresses
  texts : SpelledAlike (steps.flatMap Step.givenTexts) (steps'.flatMap Step.givenTexts)

theorem SameNames.build_eq (h : SameNames steps steps')
    (horganization : lastOrganization steps = lastOrganization steps') (commonName : String) :
    build commonName steps = build commonName steps' := by
  have hcommon := (commonName_build commonName steps).trans
    (commonName_build commonName steps').symm
  have hset : (build commonName steps).organization = (build commonName steps').organization := by
    rw [organization_build, organization_build, horganization]
  have hnames : (build commonName steps).dnsNames = (build commonName steps').dnsNames := by
    apply SortedSet.ext_mem
    intro name
    rw [mem_dnsNames_build_iff, mem_dnsNames_build_iff, h.names, h.texts.name_iff]
  have haddresses : (build commonName steps).addresses = (build commonName steps').addresses := by
    apply SortedSet.ext_mem
    intro a
    rw [mem_addresses_build_iff, mem_addresses_build_iff, h.addresses, h.texts.address_iff]
  generalize build commonName steps = s at *
  generalize build commonName steps' = s' at *
  cases s
  cases s'
  simp_all

theorem SameNames.of_steps
    (h : ∀ step, step.organization? = none → (step ∈ steps ↔ step ∈ steps')) :
    SameNames steps steps' := by
  have hgiven {α : Type} {given : Step → List α} (hnone : ∀ name, given (.organization name) = [])
      (x : α) : x ∈ steps.flatMap given ↔ x ∈ steps'.flatMap given := by
    have hstep (step : Step) (hx : x ∈ given step) : step.organization? = none := by
      cases step with
      | organization name =>
        rw [hnone] at hx
        cases hx
      | _ => rfl
    simp only [List.mem_flatMap]
    exact exists_congr fun step =>
      ⟨fun ⟨hmem, hx⟩ => ⟨(h step (hstep step hx)).1 hmem, hx⟩,
        fun ⟨hmem, hx⟩ => ⟨(h step (hstep step hx)).2 hmem, hx⟩⟩
  exact ⟨hgiven fun _ => rfl, hgiven fun _ => rfl, .of_mem (hgiven fun _ => rfl)⟩

variable {naming : ClusterNaming} {e e' : ExternalAddresses} {n : Node}

theorem brokerSubject_eq_of_spelledAlike (h : SpelledAlike (e.addressesOf n) (e'.addressesOf n)) :
    brokerSubject naming e n = brokerSubject naming e' n := by
  unfold brokerSubject
  refine SameNames.build_eq ⟨?_, ?_, ?_⟩ ?_ _
  · exact fun _ => Iff.rfl
  · exact fun _ => Iff.rfl
  · simpa [Step.givenTexts] using h
  · rfl

theorem reconcile_eq_of_spelledAlike {σ : Type}
    (h : ∀ n, SpelledAlike (e.addressesOf n) (e'.addressesOf n)) (component : Component)
    (naming : ClusterNaming) (anchor : Anchor σ) (existing : CertificateMap) (windowOpen : Bool)
    (nodes : List Node) (s : σ) :
    component.reconcile naming e anchor existing windowOpen nodes s =
      component.reconcile naming e' anchor existing windowOpen nodes s := by
  have hsubject : component.subject naming e = component.subject naming e' := by
    funext n
    cases component with
    | kafka => exact brokerSubject_eq_of_spelledAlike (h n)
    | cruiseControl => rfl
  rw [Component.reconcile, Component.reconcile, hsubject]

/-- A subject has the names that its steps give, and its addresses are those that the texts spell;
it is the same for the same names in any order, number and spelling, and so is a whole cycle. -/
theorem determined_by_names :
    (∀ (commonName : String) (steps : List Step),
      (build commonName steps).commonName = commonName ∧
      (build commonName steps).organization = lastOrganization steps ∧
      (∀ name, name ∈ (build commonName steps).dnsNames ↔
        name ∈ steps.flatMap Step.givenNames ∨
          name ∈ steps.flatMap Step.givenTexts ∧ Address.readLiteral? name = none) ∧
      ∀ a, a ∈ (build commonName steps).addresses ↔
        a ∈ steps.flatMap Step.givenAddresses ∨
          ∃ text ∈ steps.flatMap Step.givenTexts, Address.readLiteral? text = some a) ∧
    (∀ text a, Address.readLiteral? text = some a ↔ Address.Spells text a) ∧
    (∀ (commonName : String) (steps steps' : List Step),
      lastOrganization steps = lastOrganization steps' →
      (∀ step, step.organization? = none → (step ∈ steps ↔ step ∈ steps')) →
      build commonName steps = build commonName steps') ∧
    (∀ (commonName : String) (steps steps' : List Step),
      lastOrganization steps = lastOrganization steps' → SameNames steps steps' →
      build commonName steps = build commonName steps' ∧
        (build commonName steps).altNames = (build commonName steps').altNames) ∧
    ∀ (e e' : ExternalAddresses), (∀ n, SpelledAlike (e.addressesOf n) (e'.addressesOf n)) →
      ∀ {σ : Type} (component : Component) (naming : ClusterNaming) (anchor : Anchor σ)
        (existing : CertificateMap) (windowOpen : Bool) (nodes : List Node) (s : σ),
        component.reconcile naming e anchor existing windowOpen nodes s =
          component.reconcile naming e' anchor existing windowOpen nodes s := by
  refine ⟨fun commonName steps => ⟨commonName_build commonName steps,
    organization_build commonName steps, fun _ => mem_dnsNames_build_iff,
    fun _ => mem_addresses_build_iff⟩, fun _ _ => Address.readLiteral?_iff,
    fun commonName steps steps' horganization hsteps => ?_,
    fun commonName steps steps' horganization hnames => ?_,
    fun _ _ h _ => reconcile_eq_of_spelledAlike h⟩
  · exact (SameNames.of_steps hsteps).build_eq horganization commonName
  · have heq := hnames.build_eq horganization commonName
    exact ⟨heq, congrArg altNames heq⟩

def sampleSteps : List Step :=
  [.organization "a", .dns "localhost", .ip (.v4 [10, 0, 0, 7] rfl),
    .addresses ["[FD00:0:0:0:0:0:0:1]", "kafka", "[10.0.0.5]"], .organization "b"]

def sampleRespelled : List Step :=
  [.addresses ["kafka", "fd00::0.0.0.1"], .organization "b", .ip (.v4 [10, 0, 0, 7] rfl),
    .dnsNames ["localhost", "localhost"], .address "10.0.0.5", .address "fd00::1"]

def sampleOtherListeners : ExternalAddresses where
  bootstrap := SortedSet.ofList ["::1", "0::0.0.0.1"]

theorem spelledAlike_sampleListeners (n : Node) :
    SpelledAlike (sampleListeners.addressesOf n) (sampleOtherListeners.addressesOf n) := by
  have hsame : SpelledAlike (sampleListeners.bootstrap.toList ++ [])
      (sampleOtherListeners.bootstrap.toList ++ []) := by decide
  unfold ExternalAddresses.addressesOf
  split
  · exact hsame
  · decide

theorem sameNames_sample : SameNames sampleSteps sampleRespelled where
  names name := by simp [sampleSteps, sampleRespelled, Step.givenNames]
  addresses a := by simp [sampleSteps, sampleRespelled, Step.givenAddresses]
  texts := by decide

theorem determined_by_names_sample :
    (build "node" sampleSteps).organization = some "b" ∧
    "kafka" ∈ (build "node" sampleSteps).dnsNames ∧
    Address.Spells "[FD00:0:0:0:0:0:0:1]" (.v6 [0xfd00, 0, 0, 0, 0, 0, 0, 1] rfl) ∧
    build "node" [.dns "b", .dns "a", .organization "o", .dns "b"] =
      build "node" [.organization "o", .dns "a", .dns "b"] ∧
    build "node" sampleSteps = build "node" sampleRespelled ∧
    Component.kafka.reconcile sampleNaming sampleListeners Cycle.sampleAnchor ∅ true samplePool 0 =
      Component.kafka.reconcile sampleNaming sampleOtherListeners Cycle.sampleAnchor ∅ true
        samplePool 0 := by
  obtain ⟨hbuilt, hread, hmoved, hrespelled, hcycle⟩ := determined_by_names
  obtain ⟨-, horganization, hnames, -⟩ := hbuilt "node" sampleSteps
  refine ⟨horganization.trans (by decide), (hnames "kafka").2 (by decide),
    (hread _ _).1 (by decide), hmoved _ _ _ (by decide) ?_,
    (hrespelled _ _ _ (by decide) sameNames_sample).1,
    hcycle _ _ spelledAlike_sampleListeners _ _ _ _ _ _ _⟩
  intro step hstep
  cases step <;> simp_all [Step.organization?, or_comm]

end Subject
end ClusterCerts
