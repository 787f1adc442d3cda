import ClusterCerts.Proofs.Cycle.Fixpoint
import ClusterCerts.Proofs.Cycle.Signatures

/-!
# Secrets and decisions

Private keys, key stores and passwords go through a cycle together with the certificates that the
cycle decides about. Two cycles that differ in these secrets only have the same course: they report
the same events, have the same subjects signed and take the same actions. The secrets come out of a
cycle in the bundles that it keeps, and nowhere else.
-/

namespace ClusterCerts

namespace Bundle

variable {b b' : Bundle}

def storeLength (b : Bundle) : Option Nat := b.keyStore.map fun s => s.bytes.length

def inspectLength : Option Nat → String
  | none => "None"
  | some n =>
    "Some(" ++ ("KeyStore \x7b len: " ++ toString n ++ ", password: \"[REDACTED]\" \x7d") ++ ")"

theorem append_ne_of_head {s t : String} {c d : Char} (hs : s.toList.head? = some c)
    (ht : t.toList.head? = some d) (hne : c ≠ d) (rest : String) : s ++ rest ≠ t := by
  rintro rfl
  rw [String.toList_append, List.head?_append, hs] at ht
  exact hne (Option.some.inj ht)

theorem inspectLength_some_ne (n : Nat) : inspectLength (some n) ≠ inspectLength none := by
  simp only [inspectLength, String.append_assoc]
  exact append_ne_of_head (c := 'S') (d := 'N') (by decide) (by decide) (by decide) _

theorem inspectLength_injective {l l' : Option Nat} (h : inspectLength l = inspectLength l') :
    l = l' := by
  cases l with
  | none =>
    cases l' with
    | none => rfl
    | some n => exact absurd h.symm (inspectLength_some_ne n)
  | some n =>
    cases l' with
    | none => exact absurd h (inspectLength_some_ne n)
    | some m =>
      rw [inspectLength, inspectLength, String.append_left_inj, String.append_right_inj,
        String.append_left_inj, String.append_right_inj] at h
      rw [Decimal.toDigits_injective (String.ofList_injective h)]

theorem inspect_eq (b : Bundle) : b.inspect =
    "CertAndKey \x7b key: " ++ b.key.inspect ++ ", cert: [" ++
      ", ".intercalate (b.cert.map fun x => toString x.toNat) ++ "], key_store: " ++
      inspectLength b.storeLength ++ " \x7d" := by
  unfold inspect storeLength
  cases b.keyStore with
  | none => rfl
  | some s => rfl

theorem inspect_eq_iff (h : b.cert = b'.cert) :
    b.inspect = b'.inspect ↔ b.storeLength = b'.storeLength := by
  have hkey : b.key.inspect = b'.key.inspect := rfl
  rw [inspect_eq, inspect_eq, h, hkey, String.append_left_inj, String.append_right_inj]
  constructor
  · exact inspectLength_injective
  · intro hlength
    rw [hlength]

end Bundle

namespace CertificateMap

variable {m m' : CertificateMap}

/-- The same pods and certificates, whatever the keys, key stores and passwords are. -/
def SameCerts (m m' : CertificateMap) : Prop :=
  ∀ pod, (m.get? pod).map (·.cert) = (m'.get? pod).map (·.cert)

def SameLengths (m m' : CertificateMap) : Prop :=
  ∀ pod, (m.get? pod).map (·.storeLength) = (m'.get? pod).map (·.storeLength)

def SameTexts (m m' : CertificateMap) : Prop :=
  ∀ pod, (m.get? pod).map (·.inspect) = (m'.get? pod).map (·.inspect)

theorem sameTexts_iff (h : m.SameCerts m') : m.SameTexts m' ↔ m.SameLengths m' := by
  apply forall_congr'
  intro pod
  have hpod := h pod
  cases hm : m.get? pod with
  | none =>
    rw [hm, Option.map_none, eq_comm, Option.map_eq_none_iff] at hpod
    simp [hpod]
  | some b =>
    rw [hm, Option.map_some, eq_comm, Option.map_eq_some_iff] at hpod
    obtain ⟨b', hm', hcert⟩ := hpod
    simp [hm', Bundle.inspect_eq_iff hcert.symm]

end CertificateMap

variable {σ α β γ δ : Type}

namespace Outcome

/-- Tasks that report the same, leave the same state and fail alike, whatever they give. -/
structure SameTrace (o : Outcome σ α) (o' : Outcome σ β) : Prop where
  events : o.events = o'.events
  state : o.state = o'.state
  verdict : o.verdict = o'.verdict

variable {o : Outcome σ α} {o' : Outcome σ β}

theorem SameTrace.refl (o : Outcome σ α) : o.SameTrace o := ⟨rfl, rfl, rfl⟩

theorem SameTrace.after (h : o.SameTrace o') (events : List Event) :
    (o.after events).SameTrace (o'.after events) :=
  ⟨congrArg (events ++ ·) h.events, h.state, h.verdict⟩

theorem SameTrace.map (h : o.SameTrace o') (f : α → γ) (f' : β → δ) :
    (o.map f).SameTrace (o'.map f') :=
  ⟨h.events, h.state, by rw [verdict_map, verdict_map, h.verdict]⟩

theorem SameTrace.cases (h : o.SameTrace o') :
    (∃ e, o.result = .error e ∧ o'.result = .error e) ∨
      ∃ a b, o.result = .ok a ∧ o'.result = .ok b := by
  have hverdict := h.verdict
  cases ho : o.result with
  | error e =>
    rw [verdict_error_iff.2 ho, eq_comm, verdict_error_iff] at hverdict
    exact .inl ⟨e, rfl, hverdict⟩
  | ok a =>
    rw [verdict_ok_iff.2 ⟨a, ho⟩, eq_comm, verdict_ok_iff] at hverdict
    obtain ⟨b, hb⟩ := hverdict
    exact .inr ⟨a, b, rfl, hb⟩

theorem SameTrace.bind {f : α → σ → Outcome σ γ} {f' : β → σ → Outcome σ δ}
    (h : o.SameTrace o') (hf : ∀ a b s, (f a s).SameTrace (f' b s)) :
    (o.bind f).SameTrace (o'.bind f') := by
  rcases h.cases with ⟨e, he, he'⟩ | ⟨a, b, ha, hb⟩
  · rw [bind_of_error he, bind_of_error he']
    exact ⟨h.events, h.state, rfl⟩
  · rw [bind_of_ok ha, bind_of_ok hb, h.events, h.state]
    exact (hf a b o'.state).after o'.events

end Outcome

namespace Cycle

variable {c : Cycle σ} {n : Node} {nodes : List Node} {s : σ} {b b' : Bundle} {a a' : Action}
  {r r' : Reconciled} {desired : Subject} {current current' : Option Bundle}
  {existing' : CertificateMap}

def withExisting (c : Cycle σ) (existing : CertificateMap) : Cycle σ := { c with existing }

theorem plan_cases (c : Cycle σ) (desired : Subject)
    (h : current.map (·.cert) = current'.map (·.cert)) :
    (∃ b b', current = some b ∧ current' = some b' ∧
      c.plan desired current = .keep b ∧ c.plan desired current' = .keep b') ∨
    ∃ a, c.plan desired current = .sign a ∧ c.plan desired current' = .sign a := by
  cases current with
  | none =>
    rw [Option.map_none, eq_comm, Option.map_eq_none_iff] at h
    subst h
    exact .inr ⟨.issued, rfl, rfl⟩
  | some b =>
    rw [Option.map_some, eq_comm, Option.map_eq_some_iff] at h
    obtain ⟨b', rfl, hcert⟩ := h
    cases hrenewing : c.anchor.renewing with
    | true => exact .inr ⟨.renewed, plan_of_renewing hrenewing _ _, plan_of_renewing hrenewing _ _⟩
    | false =>
      by_cases hfit : c.grounds b.cert desired = []
      · exact .inl ⟨b, b', rfl, rfl, plan_of_fit hrenewing hfit,
          plan_of_fit hrenewing (hcert ▸ hfit)⟩
      · have hplan' : c.plan desired (some b') = .sign (.regenerated (c.grounds b'.cert desired)) :=
          plan_of_unfit hrenewing (hcert ▸ hfit)
        rw [hcert] at hplan'
        exact .inr ⟨_, plan_of_unfit hrenewing hfit, hplan'⟩

theorem planEvents_congr (c : Cycle σ) (n : Node) (desired : Subject)
    (h : current.map (·.cert) = current'.map (·.cert)) :
    c.planEvents n desired current = c.planEvents n desired current' := by
  cases current with
  | none =>
    rw [Option.map_none, eq_comm, Option.map_eq_none_iff] at h
    rw [h]
  | some b =>
    rw [Option.map_some, eq_comm, Option.map_eq_some_iff] at h
    obtain ⟨b', rfl, hcert⟩ := h
    rw [planEvents, planEvents, hcert]

theorem sameTrace_settle (h : c.existing.SameCerts existing') (n : Node) (s : σ) :
    (c.settle n s).SameTrace ((c.withExisting existing').settle n s) := by
  have hsettle : (c.withExisting existing').settle n s =
      (c.carryOut (c.subject n) s (c.plan (c.subject n) (existing'.get? n.podName))).after
        (c.planEvents n (c.subject n) (existing'.get? n.podName)) := rfl
  rw [hsettle, settle, planEvents_congr c n (c.subject n) (h n.podName)]
  apply Outcome.SameTrace.after
  rcases plan_cases c (c.subject n) (h n.podName) with ⟨b, b', -, -, hb, hb'⟩ | ⟨a, ha, ha'⟩
  · rw [hb, hb']
    exact ⟨rfl, rfl, rfl⟩
  · rw [ha, ha']
    exact .refl _

theorem sameTrace_settleAll (h : c.existing.SameCerts existing') (ns : List Node) (s : σ) :
    (c.settleAll ns s).SameTrace ((c.withExisting existing').settleAll ns s) := by
  induction ns generalizing s with
  | nil => exact .refl _
  | cons n ns ih =>
    rw [settleAll, settleAll]
    apply (sameTrace_settle h n s).bind
    intro done done' s
    exact (ih s).map _ _

theorem sameTrace_run (h : c.existing.SameCerts existing') (nodes : List Node) (s : σ) :
    (c.run nodes s).SameTrace ((c.withExisting existing').run nodes s) := by
  rw [run, run]
  cases Node.firstDuplicate? nodes with
  | some pod => exact .refl _
  | none => exact (sameTrace_settleAll h nodes s).map _ _

theorem Decided.agree (h : c.existing.SameCerts existing') (hd : c.Decided n s b a)
    (hd' : (c.withExisting existing').Decided n s b' a') :
    a = a' ∧ (b = b' ∨ a = .reused ∧ c.existing.get? n.podName = some b ∧
      existing'.get? n.podName = some b') := by
  have hsettle := settle_ok_iff.2 hd
  have hsettle' : (c.carryOut (c.subject n) s
      (c.plan (c.subject n) (existing'.get? n.podName))).result = .ok (b', a') :=
    settle_ok_iff.2 hd'
  rw [settle, Outcome.after_result] at hsettle
  rcases plan_cases c (c.subject n) (h n.podName) with
    ⟨old, old', hold, hold', hkeep, hkeep'⟩ | ⟨action, hsign, hsign'⟩
  · rw [hkeep] at hsettle
    rw [hkeep'] at hsettle'
    cases hsettle
    cases hsettle'
    exact ⟨rfl, .inr ⟨rfl, hold, hold'⟩⟩
  · rw [hsign, carryOut_sign_ok_iff] at hsettle
    rw [hsign', carryOut_sign_ok_iff, hsettle.1] at hsettle'
    exact ⟨hsettle.2.symm.trans hsettle'.2, .inl (Except.ok.inj hsettle'.1)⟩

theorem Settled.agree (h : c.existing.SameCerts existing') (hr : c.Settled nodes s r)
    (hr' : (c.withExisting existing').Settled nodes s r') (pod : String) :
    r.actions.get? pod = r'.actions.get? pod ∧
      (r.certs.get? pod = r'.certs.get? pod ∨ r.actions.get? pod = some .reused ∧
        r.certs.get? pod = c.existing.get? pod ∧ r'.certs.get? pod = existing'.get? pod) := by
  by_cases hpod : pod ∈ nodes.map (·.podName)
  · obtain ⟨n, hn, rfl⟩ := List.mem_map.1 hpod
    obtain ⟨before, after, hsplit⟩ := List.append_of_mem hn
    obtain ⟨b, a, hb, ha, hd⟩ := hr.decided before n after hsplit
    obtain ⟨b', a', hb', ha', hd'⟩ := hr'.decided before n after hsplit
    -- The nodes before this one leave the same signing state behind.
    rw [← (sameTrace_settleAll h before s).state] at hd'
    obtain ⟨rfl, hbundles⟩ := hd.agree h hd'
    rw [hb, hb', ha, ha', Option.some.injEq, Option.some.injEq]
    exact ⟨rfl, hbundles.imp id fun ⟨hreused, hold, hold'⟩ =>
      ⟨congrArg some hreused, hold.symm, hold'.symm⟩⟩
  · have hnone {β : Type} {m : SortedMap String β}
        (hm : ∀ pod, pod ∈ m.keys ↔ pod ∈ nodes.map (·.podName)) : m.get? pod = none :=
      SortedMap.get?_eq_none_iff.2 (mt (hm pod).1 hpod)
    rw [hnone hr.actions_keys, hnone hr'.actions_keys, hnone hr.certs_keys, hnone hr'.certs_keys]
    exact ⟨rfl, .inl rfl⟩

/-- Secrets in the stored bundles decide nothing about a cycle. They show up in its result only for
pods whose certificate stays, and diagnostics tell no more than the lengths of key stores. -/
theorem run_hides_secrets (c : Cycle σ) (existing' : CertificateMap) (nodes : List Node) (s : σ)
    (h : c.existing.SameCerts existing') :
    let c' := c.withExisting existing'
    (c.run nodes s).events = (c'.run nodes s).events ∧
    (c.run nodes s).state = (c'.run nodes s).state ∧
    (c.logged.run nodes (s, [])).state.2 = (c'.logged.run nodes (s, [])).state.2 ∧
    (c.existing.SameTexts existing' ↔ c.existing.SameLengths existing') ∧
    ((∃ e, (c.run nodes s).result = .error e ∧ (c'.run nodes s).result = .error e) ∨
      ∃ r r', (c.run nodes s).result = .ok r ∧ (c'.run nodes s).result = .ok r' ∧
        r.actions = r'.actions ∧ r.certs.SameCerts r'.certs ∧
        (∀ pod, r.certs.get? pod = r'.certs.get? pod ∨ r.actions.get? pod = some .reused ∧
          r.certs.get? pod = c.existing.get? pod ∧ r'.certs.get? pod = existing'.get? pod) ∧
        (c.existing.SameLengths existing' → r.certs.SameTexts r'.certs)) := by
  intro c'
  have htrace := sameTrace_run h nodes s
  have hlogged : (c.logged.run nodes (s, [])).SameTrace (c'.logged.run nodes (s, [])) :=
    sameTrace_run (c := c.logged) h nodes (s, [])
  refine ⟨htrace.events, htrace.state, congrArg Prod.snd hlogged.state,
    CertificateMap.sameTexts_iff h, ?_⟩
  rcases htrace.cases with hfail | ⟨r, r', hr, hr'⟩
  · exact .inl hfail
  · have hagree := (settled_of_run hr).agree h (settled_of_run hr')
    have hcerts : r.certs.SameCerts r'.certs := by
      intro pod
      rcases (hagree pod).2 with hsame | ⟨-, hold, hold'⟩
      · rw [hsame]
      · rw [hold, hold', h pod]
    refine .inr ⟨r, r', hr, hr', SortedMap.ext_get? fun pod => (hagree pod).1, hcerts,
      fun pod => (hagree pod).2, fun hlengths => ?_⟩
    rw [CertificateMap.sameTexts_iff hcerts]
    intro pod
    rcases (hagree pod).2 with hsame | ⟨-, hold, hold'⟩
    · rw [hsame]
    · rw [hold, hold', hlengths pod]

def keepingCycle : Cycle Nat :=
  { sampleCycle with
    existing := SortedMap.ofList [("pool-0", sampleBundle)]
    windowOpen := false }

def otherBundle : Bundle := { sampleBundle with key := ⟨[7]⟩, keyStore := some ⟨[8], "9"⟩ }

def otherSecrets : CertificateMap := SortedMap.ofList [("pool-0", otherBundle)]

theorem sameCerts_otherSecrets : keepingCycle.existing.SameCerts otherSecrets := by
  intro pod
  have hkeys : keepingCycle.existing.keys = ["pool-0"] := by decide
  have hkeys' : otherSecrets.keys = ["pool-0"] := by decide
  by_cases hpod : pod = "pool-0"
  · subst hpod
    decide
  · rw [SortedMap.get?_eq_none_iff.2 (by simpa [hkeys] using hpod),
      SortedMap.get?_eq_none_iff.2 (by simpa [hkeys'] using hpod)]

def keepingResult (kept : Bundle) : Reconciled where
  certs := SortedMap.ofList [("pool-0", kept), ("pool-1", sampleBundle)]
  actions := SortedMap.ofList [("pool-0", .reused), ("pool-1", .issued)]

theorem run_hides_secrets_sample :
    keepingCycle.existing.SameCerts otherSecrets ∧
    ∃ r r', (keepingCycle.run sampleNodes 0).result = .ok r ∧
      ((keepingCycle.withExisting otherSecrets).run sampleNodes 0).result = .ok r' ∧
      r.actions = r'.actions ∧ r.certs ≠ r'.certs := by
  have hrun : (keepingCycle.run sampleNodes 0).result = .ok (keepingResult sampleBundle) :=
    Except.eq_ok_of_toOption (by decide)
  have hrun' : ((keepingCycle.withExisting otherSecrets).run sampleNodes 0).result =
      .ok (keepingResult otherBundle) := Except.eq_ok_of_toOption (by decide)
  obtain ⟨-, -, -, -, ⟨e, herror, -⟩ | ⟨r, r', hr, hr', hactions, -⟩⟩ :=
    run_hides_secrets keepingCycle otherSecrets sampleNodes 0 sameCerts_otherSecrets
  · rw [hrun] at herror
    cases herror
  · refine ⟨sameCerts_otherSecrets, r, r', hr, hr', hactions, ?_⟩
    rw [hrun] at hr
    rw [hrun'] at hr'
    cases hr
    cases hr'
    decide

end Cycle
end ClusterCerts
