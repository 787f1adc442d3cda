import ClusterCerts.ManagedCa
import ClusterCerts.Proofs.Authority.Issue
import ClusterCerts.Proofs.Calendar.DayNumber
import ClusterCerts.Proofs.Cycle.Fixpoint
import ClusterCerts.Proofs.Cycle.Listeners

/-!
# The horizon of renewal

The second of signing and the settings of the CA tell when a certificate becomes due: the days of
validity less the days of renewal later. Up to and including the first instant of that second the
certificate stays; from then on a cycle replaces it, once its maintenance window is open. A
certificate is not due when it is signed, so what one cycle replaced the next one keeps up to its
own horizon.
-/

namespace ClusterCerts

namespace Instant

def After (t : Instant) (second : Int) : Prop :=
  second < t.seconds ∨ (second = t.seconds ∧ 0 < t.nanos)

instance (t : Instant) (second : Int) : Decidable (t.After second) :=
  inferInstanceAs (Decidable (_ ∨ _))

theorem not_after_of_lt {t : Instant} {second : Int} (h : t.seconds < second) :
    ¬t.After second := by
  unfold After
  omega

theorem ofSeconds?_spec {second : Int} (h : second ≤ 8210266876799) (t : Instant) :
    (match ofSeconds? second with
      | some threshold => decide (threshold.Before t)
      | none => true) = decide (t.After second) := by
  have hfirst := t.seconds_mem.1
  unfold ofSeconds? ofParts?
  split_ifs
  · rfl
  · have hafter : t.After second := .inl (by omega)
    simp [hafter]
  · have hafter : t.After second := .inl (by omega)
    simp [hafter]

end Instant

theorem Stored.isExpiringAt_of_notAfter {cert : Bytes} {ends : Int} {renewalDays : UInt32}
    (h : notAfter cert = .ok ends) (hlast : ends - 86400 * renewalDays.toNat ≤ 8210266876799)
    (now : Instant) :
    isExpiringAt cert renewalDays now =
      .ok (decide (now.After (ends - 86400 * renewalDays.toNat))) := by
  rw [isExpiringAt, h, ← Instant.ofSeconds?_spec hlast now]
  simp only [bind, Except.bind]
  cases Instant.ofSeconds? (ends - 86400 * renewalDays.toNat) <;> rfl

namespace ManagedCa

variable {ca : ManagedCa} {t₀ t : Instant} {d : Subject} {b : Bundle}

/-- The CA signed a certificate at an instant, of a length that can be read. -/
structure SignedAt (ca : ManagedCa) (t₀ : Instant) (d : Subject) (b : Bundle) : Prop where
  signed : ∃ e, ((ca.anchor t₀).sign d e).result = .ok b
  short : b.cert.length < Der.lengthBound

/-- The second at whose beginning a certificate becomes due for renewal. -/
def horizon (ca : ManagedCa) (t₀ : Instant) : Int :=
  t₀.seconds + 86400 * (ca.settings.validityDays.toNat - ca.settings.renewalDays.toNat)

theorem SignedAt.altNames? (h : ca.SignedAt t₀ d b) :
    Stored.altNames? b.cert = some d.altNames := by
  obtain ⟨⟨e, hsigned⟩, hshort⟩ := h
  exact Authority.altNames?_of_issue hsigned hshort

theorem SignedAt.isExpiringAt_eq (h : ca.SignedAt t₀ d b) (t : Instant) :
    ca.isExpiringAt b.cert t = decide (t.After (ca.horizon t₀)) := by
  obtain ⟨⟨e, hsigned⟩, hshort⟩ := h
  obtain ⟨hends, hyear⟩ := Authority.notAfter_of_issue hsigned hshort
  have hlast : t₀.seconds + 86400 * ca.settings.validityDays.toNat < 253402300800 := by
    by_contra hlate
    have hmono := yearOfSecond_mono (Int.not_lt.1 hlate)
    have hfirst : yearOfSecond 253402300800 = 10000 := by decide
    omega
  have hhorizon : t₀.seconds + 86400 * ca.settings.validityDays.toNat -
      86400 * ca.settings.renewalDays.toNat = ca.horizon t₀ := by
    unfold horizon
    omega
  rw [isExpiringAt, Stored.isExpiringAt_of_notAfter hends (by omega), hhorizon]

theorem lt_horizon (h : ca.settings.renewalDays < ca.settings.validityDays) :
    t₀.seconds < ca.horizon t₀ := by
  have hdays := UInt32.lt_iff_toNat_lt.1 h
  unfold horizon
  omega

def AnswersAt (ca : ManagedCa) (t : Instant) (c : Cycle Entropy) : Prop :=
  ∃ signal, c.anchor = (ca.withSignal signal).anchor t

def QuietAt (ca : ManagedCa) (t : Instant) (c : Cycle Entropy) : Prop :=
  ∃ signal, (signal = .noRenewal ∨ signal = .postponed) ∧
    c.anchor = (ca.withSignal signal).anchor t

variable {c : Cycle Entropy}

theorem AnswersAt.sign (h : ca.AnswersAt t c) : c.anchor.sign = (ca.anchor t).sign := by
  obtain ⟨signal, hanchor⟩ := h
  rw [hanchor]
  rfl

theorem AnswersAt.isExpiring (h : ca.AnswersAt t c) (cert : Bytes) :
    c.anchor.isExpiring cert = ca.isExpiringAt cert t := by
  obtain ⟨signal, hanchor⟩ := h
  rw [hanchor]
  rfl

theorem QuietAt.answersAt (h : ca.QuietAt t c) : ca.AnswersAt t c := by
  obtain ⟨signal, -, hanchor⟩ := h
  exact ⟨signal, hanchor⟩

theorem QuietAt.steady (h : ca.QuietAt t c) : c.anchor.renewing = false := by
  obtain ⟨signal, hsignal, hanchor⟩ := h
  rw [hanchor]
  rcases hsignal with rfl | rfl <;> rfl

theorem QuietAt.signal_ne (h : ca.QuietAt t c) : c.anchor.signal ≠ .created := by
  obtain ⟨signal, hsignal, hanchor⟩ := h
  rw [hanchor]
  rcases hsignal with rfl | rfl <;> simp [ManagedCa.anchor, withSignal]

theorem QuietAt.grounds (h : ca.QuietAt t c) (hb : ca.SignedAt t₀ d b) :
    c.grounds b.cert d = if c.windowOpen ∧ t.After (ca.horizon t₀) then [.expiring] else [] := by
  have hnames : ¬c.Holds b.cert d .subjectChanged := fun hchanged => hchanged hb.altNames?
  have hadded : ¬c.Holds b.cert d .certificateAdded := h.signal_ne
  have hage : c.Holds b.cert d .expiring ↔ c.windowOpen ∧ t.After (ca.horizon t₀) := by
    have hexpiring : c.anchor.isExpiring b.cert = true ↔ t.After (ca.horizon t₀) := by
      rw [h.answersAt.isExpiring, hb.isExpiringAt_eq, decide_eq_true_eq]
    rw [← hexpiring, and_comm]
    rfl
  simp only [Cycle.grounds, Reason.all, List.filter_cons, List.filter_nil, decide_eq_true_eq,
    hnames, hadded, hage, if_false]

end ManagedCa

namespace Cycle

variable {σ : Type} {c : Cycle σ} {n : Node} {b : Bundle}

structure Keeping (c : Cycle σ) (n : Node) (b : Bundle) : Prop where
  settled : ∀ s, (c.settle n s).result = .ok (b, .reused) ∧ (c.settle n s).state = s
  reported : ∀ nodes s r, n ∈ nodes → (c.run nodes s).result = .ok r →
    r.certs.get? n.podName = some b ∧ r.actions.get? n.podName = some .reused

structure Regenerating (c : Cycle σ) (n : Node) (reasons : List Reason) : Prop where
  settled : ∀ s, (c.settle n s).result =
    (c.anchor.sign (c.subject n) s).result.map (·, .regenerated reasons)
  reported : ∀ nodes s r, n ∈ nodes → (c.run nodes s).result = .ok r →
    r.actions.get? n.podName = some (.regenerated reasons) ∧
      ∃ b s, r.certs.get? n.podName = some b ∧ (c.anchor.sign (c.subject n) s).result = .ok b

theorem keeping_of_fit (hsteady : c.anchor.renewing = false)
    (hstored : c.existing.get? n.podName = some b) (hfit : c.grounds b.cert (c.subject n) = []) :
    c.Keeping n b where
  settled s :=
    ⟨settle_ok_iff.2 (.reused hstored hsteady hfit), settle_state_of_fits hsteady hstored hfit s⟩
  reported nodes s r hn hrun := by
    obtain ⟨s', b', a, hb, ha, hd⟩ := (settled_of_run hrun).decided_of_mem hn
    obtain ⟨rfl, rfl⟩ := hd.unique (.reused hstored hsteady hfit)
    exact ⟨hb, ha⟩

theorem regenerating_of_unfit (hsteady : c.anchor.renewing = false)
    (hstored : c.existing.get? n.podName = some b)
    (hunfit : c.grounds b.cert (c.subject n) ≠ []) :
    c.Regenerating n (c.grounds b.cert (c.subject n)) where
  settled s := by
    rw [settle, Outcome.after_result, hstored, plan_of_unfit hsteady hunfit]
    rfl
  reported nodes s r hn hrun := by
    obtain ⟨s', b', a, hb, ha, hd⟩ := (settled_of_run hrun).decided_of_mem hn
    cases hd with
    | issued absent _ => simp [hstored] at absent
    | renewed _ renewing _ => simp [hsteady] at renewing
    | reused stored _ fit =>
      obtain rfl := Option.some.inj (hstored.symm.trans stored)
      exact absurd fit hunfit
    | regenerated stored _ _ signed =>
      obtain rfl := Option.some.inj (hstored.symm.trans stored)
      exact ⟨ha, b', s', hb, signed⟩

end Cycle

namespace ManagedCa

variable {ca : ManagedCa} {t₀ t : Instant} {c : Cycle Entropy} {n : Node} {b : Bundle}

theorem QuietAt.keeping (h : ca.QuietAt t c) (hsigned : ca.SignedAt t₀ (c.subject n) b)
    (hstored : c.existing.get? n.podName = some b)
    (hearly : c.windowOpen = false ∨ ¬t.After (ca.horizon t₀)) : c.Keeping n b := by
  have hnot : ¬(c.windowOpen = true ∧ t.After (ca.horizon t₀)) := by
    rcases hearly with hclosed | hbefore
    · simp [hclosed]
    · exact fun hdue => hbefore hdue.2
  apply Cycle.keeping_of_fit h.steady hstored
  rw [h.grounds hsigned, if_neg hnot]

theorem QuietAt.regenerating (h : ca.QuietAt t c) (hsigned : ca.SignedAt t₀ (c.subject n) b)
    (hstored : c.existing.get? n.podName = some b) (hopen : c.windowOpen = true)
    (hlate : t.After (ca.horizon t₀)) : c.Regenerating n [.expiring] := by
  have hgrounds := h.grounds hsigned
  rw [if_pos ⟨hopen, hlate⟩] at hgrounds
  rw [← hgrounds]
  apply Cycle.regenerating_of_unfit h.steady hstored
  simp [hgrounds]

theorem AnswersAt.signedAt_of_run (h : ca.AnswersAt t c) {nodes : List Node} {e : Entropy}
    {r : Reconciled} (hrun : (c.run nodes e).result = .ok r) (hn : n ∈ nodes)
    (hchanged : r.actions.get? n.podName ≠ some .reused) :
    ∃ b, r.certs.get? n.podName = some b ∧
      (b.cert.length < Der.lengthBound → ca.SignedAt t (c.subject n) b) := by
  obtain ⟨s, b, a, hb, ha, hd⟩ := (Cycle.settled_of_run hrun).decided_of_mem hn
  refine ⟨b, hb, fun hshort => ⟨⟨s, ?_⟩, hshort⟩⟩
  rw [← h.sign]
  cases hd with
  | issued _ signed => exact signed
  | renewed _ _ signed => exact signed
  | reused _ _ _ => exact absurd ha hchanged
  | regenerated _ _ _ signed => exact signed

/-- A stored certificate that the CA signed for its node stays up to the horizon and as long as
the window is closed, and is replaced for its age alone after that. No certificate is due when it
is signed, and what a cycle signed the next one keeps up to its own horizon, whatever its
window. -/
theorem renewal_horizon (ca : ManagedCa)
    (hrenewal : ca.settings.renewalDays < ca.settings.validityDays) :
    (∀ t₀ t c n b, ca.SignedAt t₀ (c.subject n) b → c.existing.get? n.podName = some b →
      ca.QuietAt t c →
        (c.windowOpen = false ∨ ¬t.After (ca.horizon t₀) → c.Keeping n b) ∧
        (c.windowOpen = true → t.After (ca.horizon t₀) → c.Regenerating n [.expiring])) ∧
    (∀ t₀ d b, ca.SignedAt t₀ d b →
      ca.isExpiringAt b.cert t₀ = false ∧ ¬t₀.After (ca.horizon t₀)) ∧
    ∀ t₁ t₂ c₁ c₂ nodes n e r, ca.AnswersAt t₁ c₁ → (c₁.run nodes e).result = .ok r → n ∈ nodes →
      r.actions.get? n.podName ≠ some .reused → ca.QuietAt t₂ c₂ → c₂.existing = r.certs →
      c₂.subject n = c₁.subject n → ¬t₂.After (ca.horizon t₁) →
        ∃ b, r.certs.get? n.podName = some b ∧
          (b.cert.length < Der.lengthBound → c₂.Keeping n b) := by
  refine ⟨fun t₀ t c n b hsigned hstored hquiet => ?_, fun t₀ d b hsigned => ?_, ?_⟩
  · exact ⟨hquiet.keeping hsigned hstored, hquiet.regenerating hsigned hstored⟩
  · have hnow : ¬t₀.After (ca.horizon t₀) := Instant.not_after_of_lt (lt_horizon hrenewal)
    exact ⟨by rw [hsigned.isExpiringAt_eq, decide_eq_false hnow], hnow⟩
  · intro t₁ t₂ c₁ c₂ nodes n e r hanswers hrun hn hchanged hquiet hexisting hsubject hearly
    obtain ⟨b, hb, hsigned⟩ := hanswers.signedAt_of_run hrun hn hchanged
    rw [← hsubject] at hsigned
    exact ⟨b, hb, fun hshort => hquiet.keeping (hsigned hshort) (by rw [hexisting, hb])
      (.inr hearly)⟩

def sampleCa : ManagedCa := .ofAuthority (.clusterCa sampleNaming) Authority.sampleAuthority

def sampleLater (t : Instant) : Cycle Entropy where
  anchor := sampleCa.anchor t
  subject := brokerSubject sampleNaming {}
  existing := samplePoolCerts
  windowOpen := true

theorem quietAt_sample (t : Instant) : sampleCa.QuietAt t (sampleLater t) :=
  ⟨.noRenewal, .inl rfl, rfl⟩

theorem signedAt_sample {n : Node} (hn : n ∈ samplePool) :
    sampleCa.SignedAt Authority.sampleNow (brokerSubject sampleNaming {} n)
      (sampleSigned (brokerSubject sampleNaming {} n)) :=
  ⟨⟨_, (issued_samplePool hn).1⟩, (issued_samplePool hn).2⟩

/-- Signed for 365 days of which the last 30 are for renewal: the first instant of the second
335 days later still keeps the certificate, the first nanosecond after it does not. -/
theorem renewal_horizon_sample :
    sampleCa.settings.renewalDays < sampleCa.settings.validityDays ∧ ∃ n b,
      (sampleLater ⟨2552944000, 0, by decide, by decide⟩).Keeping n b ∧
      (sampleLater ⟨2552944000, 1, by decide, by decide⟩).Regenerating n [.expiring] := by
  have hdays : sampleCa.settings.renewalDays < sampleCa.settings.validityDays := by decide
  have hn : Node.brokerIn "p" 0 ∈ samplePool := by simp [samplePool]
  have hlater (t : Instant) := (renewal_horizon sampleCa hdays).1 Authority.sampleNow t
    (sampleLater t) _ _ (signedAt_sample hn) (get?_samplePoolCerts hn) (quietAt_sample t)
  have hhorizon : sampleCa.horizon Authority.sampleNow = 2552944000 := by decide
  refine ⟨hdays, _, _, (hlater _).1 (.inr ?_), (hlater _).2 rfl ?_⟩
  · rw [hhorizon]
    decide
  · rw [hhorizon]
    decide

end ManagedCa
end ClusterCerts
