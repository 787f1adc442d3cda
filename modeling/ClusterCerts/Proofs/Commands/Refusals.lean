import ClusterCerts.Proofs.Authority.Refusals
import ClusterCerts.Proofs.Calendar.DayNumber
import ClusterCerts.Proofs.Commands.Reconcile
import ClusterCerts.Proofs.Cycle.Refusals
import ClusterCerts.Proofs.Subject.Names

/-!
# What a request that was read can still fail for

A request is checked when it is read, and the cycle and the CA check what they are given again.
The first check leaves little for the others: no pod is listed twice, no validity is out of range
as long as its longest ends in time, and every node has a common name. What is left is a DNS name
outside of ASCII on a node that needs a new certificate.
-/

namespace ClusterCerts

open Session Authority

variable {domain path : String} {w : World} {q : Request} {a : Authority} {clock : Instant}
  {existing : CertificateMap} {e : Entropy} {ns : List Node} {pod : String} {err : Error}

namespace Request

structure Bounded (q : Request) : Prop where
  named : q.cluster ≠ "" ∧ q.space ≠ ""
  valid : q.validityDays ≠ 0 ∧ q.validityDays ≤ maxValidityDays
  renews : q.renewalDays < q.validityDays

theorem fault?_of_bounded (h : q.Bounded) :
    q.fault? = (Node.firstDuplicate? q.nodes).map .podTwice := by
  have hvalid : ¬(q.validityDays = 0 ∨ maxValidityDays < q.validityDays) :=
    not_or.2 ⟨h.valid.1, UInt32.not_lt.2 h.valid.2⟩
  rw [fault?, if_neg (not_or.2 h.named), if_neg hvalid, if_neg (UInt32.not_le.2 h.renews)]

theorem fault?_eq_none_iff :
    q.fault? = none ↔ q.Bounded ∧ (q.nodes.map (·.podName)).Nodup := by
  constructor
  · intro h
    have hbounded : q.Bounded := by
      unfold fault? at h
      split_ifs at h with hnamed hvalid hrenews
      exact ⟨not_or.1 hnamed, ⟨(not_or.1 hvalid).1, UInt32.not_lt.1 (not_or.1 hvalid).2⟩,
        UInt32.not_le.1 hrenews⟩
    rw [fault?_of_bounded hbounded, Option.map_eq_none_iff] at h
    exact ⟨hbounded, Node.firstDuplicate?_eq_none_iff.1 h⟩
  · rintro ⟨hbounded, hdistinct⟩
    rw [fault?_of_bounded hbounded, Node.firstDuplicate?_eq_none_iff.2 hdistinct]
    rfl

def reconcile (q : Request) (domain : String) (a : Authority) (clock : Instant)
    (existing : CertificateMap) (e : Entropy) : Outcome Entropy Reconciled :=
  q.component.reconcile (q.naming domain) q.external
    (((ManagedCa.ofAuthority (q.settings domain) a).withSignal q.signal).anchor clock)
    existing q.windowOpen q.nodes e

theorem reconcile_result : (q.reconcile domain a clock existing e).result =
    ((q.cycle domain a clock existing).run q.nodes e).result := rfl

/-- A node has to be signed, and one of its DNS names does not fit into a certificate. -/
def Hinders (q : Request) (domain : String) (a : Authority) (clock : Instant)
    (existing : CertificateMap) (n : Node) (name : String) : Prop :=
  (q.cycle domain a clock existing).keeps n = false ∧
    name ∈ (q.component.subject (q.naming domain) q.external n).dnsNames ∧ Foreign name

end Request

theorem DocumentFile.fault?_of_readRequest
    (h : (outcome (DocumentFile.readRequest path) w).1 = .ok q) : q.fault? = none := by
  obtain ⟨w', h⟩ : ∃ w', outcome (DocumentFile.readRequest path) w = (.ok q, w') :=
    ⟨_, Prod.ext h rfl⟩
  rw [DocumentFile.readRequest] at h
  obtain ⟨q', w₁, -, h⟩ := outcome_bind_ok h
  cases hfault : q'.fault? with
  | some fault =>
    rw [hfault] at h
    cases h
  | none =>
    rw [hfault] at h
    cases h
    exact hfault

theorem Component.commonName_ne (c : Component) (naming : ClusterNaming)
    (external : ExternalAddresses) (n : Node) : (c.subject naming external n).commonName ≠ "" := by
  have hne (name suffix : String) (h : suffix ≠ "") : name ++ suffix ≠ "" := by
    simp [String.append_eq_empty_iff, h]
  cases c with
  | kafka =>
    rw [subject, brokerSubject, Subject.commonName_build]
    exact hne _ _ (by decide)
  | cruiseControl =>
    rw [subject, cruiseControlSubject, Subject.commonName_build]
    exact hne _ _ (by decide)

namespace Request

theorem not_endsLate (h : q.Bounded)
    (hclock : yearOfSecond (clock.seconds + 86400 * maxValidityDays.toNat) ≤ 9999) :
    ¬Window.EndsLate q.validityDays clock := by
  have hdays := UInt32.le_iff_toNat_le.1 h.valid.2
  have hearlier : clock.seconds + 86400 * q.validityDays.toNat ≤
      clock.seconds + 86400 * maxValidityDays.toNat := by omega
  exact Int.not_lt.2 (Int.le_trans (yearOfSecond_mono hearlier) hclock)

theorem refuses_cycle : (q.cycle domain a clock existing).anchor.Refuses
    fun d => refusal? d q.validityDays clock := fun _ _ _ => issue_error_iff

theorem cases_of_refusal (h : q.Bounded)
    (hclock : yearOfSecond (clock.seconds + 86400 * maxValidityDays.toNat) ≤ 9999) {n : Node}
    (hrefusal : refusal? (q.component.subject (q.naming domain) q.external n) q.validityDays clock =
      some err) :
    (yearOfSecond (Window.begins clock) < 0 ∧ ∃ detail, err = .generation detail) ∨
      ∃ name ∈ (q.component.subject (q.naming domain) q.external n).dnsNames,
        Foreign name ∧ err = .san name := by
  have hname := q.component.commonName_ne (q.naming domain) q.external n
  rcases refusal?_cases hname h.valid.1 (not_endsLate h hclock) with
    ⟨name, hfound, hsan⟩ | ⟨hearly, detail, hgeneration⟩ | ⟨-, -, hnone⟩
  · obtain ⟨hmem, hforeign⟩ := foreign_of_foreignName? hfound
    exact .inr ⟨name, hmem, hforeign, Option.some.inj (hrefusal.symm.trans hsan)⟩
  · exact .inl ⟨hearly, detail, Option.some.inj (hrefusal.symm.trans hgeneration)⟩
  · cases hrefusal.symm.trans hnone

theorem exists_refusal_iff (h : q.Bounded)
    (hclock : yearOfSecond (clock.seconds + 86400 * maxValidityDays.toNat) ≤ 9999) (n : Node) :
    (∃ err, refusal? (q.component.subject (q.naming domain) q.external n) q.validityDays clock =
        some err) ↔
      yearOfSecond (Window.begins clock) < 0 ∨
        ∃ name ∈ (q.component.subject (q.naming domain) q.external n).dnsNames, Foreign name := by
  have hname := q.component.commonName_ne (q.naming domain) q.external n
  rw [← exists_foreignName?_iff]
  rcases refusal?_cases hname h.valid.1 (not_endsLate h hclock) with
    ⟨name, hfound, hsan⟩ | ⟨hearly, detail, hgeneration⟩ | ⟨hbegins, hfound, hnone⟩
  · simp [hfound, hsan]
  · simp [hearly, hgeneration]
  · simp [Int.not_lt.2 hbegins, hfound, hnone]

theorem reconcile_validation_iff (h : q.Bounded)
    (hclock : yearOfSecond (clock.seconds + 86400 * maxValidityDays.toNat) ≤ 9999)
    {fault : ValidationFault} :
    (q.reconcile domain a clock existing e).result = .error (.validation fault) ↔
      ∃ pod, Node.firstDuplicate? q.nodes = some pod ∧ fault = .duplicatePod pod := by
  rw [reconcile_result, Cycle.run_error_iff refuses_cycle]
  cases Node.firstDuplicate? q.nodes with
  | some pod => simp [eq_comm]
  | none =>
    simp only [reduceCtorEq, false_and, exists_false, iff_false]
    intro hfind
    obtain ⟨n, -, hrefusal⟩ := List.exists_of_findSome?_eq_some hfind
    rcases cases_of_refusal h hclock (Cycle.nodeRefusal?_eq_some_iff.1 hrefusal).2 with
      ⟨-, detail, herr⟩ | ⟨name, -, -, herr⟩
    · cases herr
    · cases herr

theorem fault?_podTwice_iff (h : q.Bounded)
    (hclock : yearOfSecond (clock.seconds + 86400 * maxValidityDays.toNat) ≤ 9999) :
    q.fault? = some (.podTwice pod) ↔
      (q.reconcile domain a clock existing e).result =
        .error (.validation (.duplicatePod pod)) := by
  rw [fault?_of_bounded h, reconcile_validation_iff h hclock, Option.map_eq_some_iff]
  simp

theorem fault?_none_iff (h : q.Bounded)
    (hclock : yearOfSecond (clock.seconds + 86400 * maxValidityDays.toNat) ≤ 9999) :
    q.fault? = none ↔ ∀ pod, (q.reconcile domain a clock existing e).result ≠
      .error (.validation (.duplicatePod pod)) := by
  simp only [ne_eq, ← fault?_podTwice_iff h hclock]
  rw [fault?_of_bounded h]
  cases Node.firstDuplicate? q.nodes <;> simp

theorem reconcile_fails_iff (h : q.Bounded) (hdistinct : (q.nodes.map (·.podName)).Nodup)
    (hclock : yearOfSecond (clock.seconds + 86400 * maxValidityDays.toNat) ≤ 9999) :
    (∃ err, (q.reconcile domain a clock existing e).result = .error err) ↔
      ∃ n ∈ q.nodes, (q.cycle domain a clock existing).keeps n = false ∧
        (yearOfSecond (Window.begins clock) < 0 ∨
          ∃ name ∈ (q.component.subject (q.naming domain) q.external n).dnsNames,
            Foreign name) := by
  simp only [← exists_refusal_iff h hclock]
  exact Cycle.run_fails_iff refuses_cycle hdistinct

theorem cases_of_reconcile (h : q.Bounded) (hdistinct : (q.nodes.map (·.podName)).Nodup)
    (hclock : yearOfSecond (clock.seconds + 86400 * maxValidityDays.toNat) ≤ 9999)
    (herr : (q.reconcile domain a clock existing e).result = .error err) :
    (yearOfSecond (Window.begins clock) < 0 ∧ ∃ detail, err = .generation detail) ∨
      ∃ n ∈ q.nodes, ∃ name, q.Hinders domain a clock existing n name ∧ err = .san name := by
  obtain ⟨n, hn, hsigns, hrefusal⟩ := Cycle.refusal_of_run refuses_cycle hdistinct herr
  rcases cases_of_refusal h hclock hrefusal with hearly | ⟨name, hname, hforeign, herr⟩
  · exact .inl hearly
  · exact .inr ⟨n, hn, name, ⟨hsigns, hname, hforeign⟩, herr⟩

/-- A request that was read cannot fail for what it asks, but for a DNS name outside of ASCII on a
node whose certificate does not stay; only a clock before the year 0 is another reason. Whatever
nodes it lists, the check of the request and that of the cycle find the same pod listed twice. -/
theorem reconcile_refuses_iff (domain path : String) (w : World) (q : Request) (a : Authority)
    (clock : Instant) (existing : CertificateMap) (e : Entropy)
    (hread : (outcome (DocumentFile.readRequest path) w).1 = .ok q)
    (hclock : yearOfSecond (clock.seconds + 86400 * maxValidityDays.toNat) ≤ 9999) :
    (∀ fault, (q.reconcile domain a clock existing e).result ≠ .error (.validation fault)) ∧
    (∀ err, (q.reconcile domain a clock existing e).result = .error err →
      (yearOfSecond (Window.begins clock) < 0 ∧ ∃ detail, err = .generation detail) ∨
        ∃ n ∈ q.nodes, ∃ name, q.Hinders domain a clock existing n name ∧ err = .san name) ∧
    (yearOfSecond (Window.begins clock) < 0 →
      ((∃ err, (q.reconcile domain a clock existing e).result = .error err) ↔
        ∃ n ∈ q.nodes, (q.cycle domain a clock existing).keeps n = false)) ∧
    (0 ≤ yearOfSecond (Window.begins clock) →
      ((∃ err, (q.reconcile domain a clock existing e).result = .error err) ↔
        ∃ n ∈ q.nodes, ∃ name, q.Hinders domain a clock existing n name) ∧
      ∀ err, (q.reconcile domain a clock existing e).result = .error err →
        ∃ n ∈ q.nodes, ∃ name, q.Hinders domain a clock existing n name ∧ err = .san name) ∧
    ∀ ns, ({ q with nodes := ns }.fault? = none ↔ ∀ pod,
        ({ q with nodes := ns }.reconcile domain a clock existing e).result ≠
          .error (.validation (.duplicatePod pod))) ∧
      ∀ pod, { q with nodes := ns }.fault? = some (.podTwice pod) ↔
        ({ q with nodes := ns }.reconcile domain a clock existing e).result =
          .error (.validation (.duplicatePod pod)) := by
  obtain ⟨hbounded, hdistinct⟩ := fault?_eq_none_iff.1 (DocumentFile.fault?_of_readRequest hread)
  have hcases (err : Error)
      (herr : (q.reconcile domain a clock existing e).result = .error err) :=
    cases_of_reconcile hbounded hdistinct hclock herr
  refine ⟨fun fault => ?_, hcases, fun hearly => ?_, fun hbegins => ⟨?_, fun err herr => ?_⟩,
    fun ns => ?_⟩
  · rw [ne_eq, reconcile_validation_iff hbounded hclock,
      Node.firstDuplicate?_eq_none_iff.2 hdistinct]
    simp
  · rw [reconcile_fails_iff hbounded hdistinct hclock]
    simp only [hearly, true_or, and_true]
  · rw [reconcile_fails_iff hbounded hdistinct hclock]
    simp only [Int.not_lt.2 hbegins, false_or, Hinders, exists_and_left]
  · rcases hcases err herr with ⟨hearly, -⟩ | hhinders
    · exact absurd hearly (Int.not_lt.2 hbegins)
    · exact hhinders
  · have hrelisted : { q with nodes := ns }.Bounded := ⟨hbounded.1, hbounded.2, hbounded.3⟩
    exact ⟨fault?_none_iff hrelisted hclock, fun pod => fault?_podTwice_iff hrelisted hclock⟩

/-- The same request succeeds in a domain of ASCII and fails in another, where a name of its pod is
refused. -/
theorem reconcile_refuses_iff_sample :
    (outcome (DocumentFile.readRequest "q") (sampleWorld sampleFiles)).1 = .ok sampleRequest ∧
    yearOfSecond (sampleNow.seconds + 86400 * maxValidityDays.toNat) ≤ 9999 ∧
    (∃ r, (sampleRequest.reconcile "d" sampleLoaded sampleNow ∅ { seed := [7] }).result = .ok r) ∧
    ∃ name, (sampleRequest.reconcile "é" sampleLoaded sampleNow ∅ { seed := [7] }).result =
      .error (.san name) ∧ Foreign name := by
  have hread := congrArg Prod.fst
    (readRequest_sample (Files.AgreesOutside.refl OfBundles sampleFiles))
  have hclock : yearOfSecond (sampleNow.seconds + 86400 * maxValidityDays.toNat) ≤ 9999 := by
    decide
  have hsample (domain : String) := (reconcile_refuses_iff domain "q" _ _ sampleLoaded sampleNow ∅
    { seed := [7] } hread hclock).2.2.2.1 (by decide)
  have hascii : ∀ n ∈ sampleRequest.nodes,
      ∀ name ∈ (brokerSubject (sampleRequest.naming "d") {} n).dnsNames.toList, ¬Foreign name := by
    decide +kernel
  have hforeign : ∃ n ∈ sampleRequest.nodes,
      ∃ name ∈ (brokerSubject (sampleRequest.naming "é") {} n).dnsNames.toList, Foreign name := by
    decide +kernel
  refine ⟨hread, hclock, ?_, ?_⟩
  · cases hresult :
      (sampleRequest.reconcile "d" sampleLoaded sampleNow ∅ { seed := [7] }).result with
    | ok r => exact ⟨r, rfl⟩
    | error err =>
      obtain ⟨n, hn, name, ⟨-, hname, hnot⟩, -⟩ := (hsample "d").2 err hresult
      exact absurd hnot (hascii n hn name hname)
  · obtain ⟨n, hn, name, hname, hnot⟩ := hforeign
    obtain ⟨err, herr⟩ := (hsample "é").1.2 ⟨n, hn, name, rfl, hname, hnot⟩
    obtain ⟨n', -, name', hhinders, rfl⟩ := (hsample "é").2 err herr
    exact ⟨name', herr, hhinders.2.2⟩

end Request

end ClusterCerts
