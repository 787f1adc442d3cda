import ClusterCerts.Cycle
import Mathlib.Tactic.SplitIfs

/-!
# Decisions of a cycle

What a cycle does with the certificate of a node, as a table over the entry stored for its pod,
the state of the CA and the reasons against the stored certificate. Settling a node follows the
table, and a cycle succeeds exactly with the bundles and actions that the table asks for, the
signing state of each node being the one that the nodes before it leave behind.
-/

namespace ClusterCerts

def Reason.all : List Reason := [subjectChanged, expiring, certificateAdded]

namespace Cycle

variable {σ : Type} (c : Cycle σ)

def Holds (cert : Bytes) (desired : Subject) : Reason → Prop
  | .subjectChanged => Stored.altNames? cert ≠ some desired.altNames
  | .expiring => c.anchor.isExpiring cert = true ∧ c.windowOpen = true
  | .certificateAdded => c.anchor.signal = .created

instance (cert : Bytes) (desired : Subject) : DecidablePred (c.Holds cert desired) := fun r => by
  cases r <;> unfold Holds <;> infer_instance

def grounds (cert : Bytes) (desired : Subject) : List Reason :=
  Reason.all.filter fun r => c.Holds cert desired r

/-- The bundle and the action that the table has for a node when signing starts from a state. -/
inductive Decided (n : Node) (s : σ) : Bundle → Action → Prop
  | issued {b : Bundle} (absent : c.existing.get? n.podName = none)
      (signed : (c.anchor.sign (c.subject n) s).result = .ok b) : Decided n s b .issued
  | renewed {old b : Bundle} (stored : c.existing.get? n.podName = some old)
      (renewing : c.anchor.renewing = true)
      (signed : (c.anchor.sign (c.subject n) s).result = .ok b) : Decided n s b .renewed
  | reused {old : Bundle} (stored : c.existing.get? n.podName = some old)
      (steady : c.anchor.renewing = false)
      (fit : c.grounds old.cert (c.subject n) = []) : Decided n s old .reused
  | regenerated {old b : Bundle} (stored : c.existing.get? n.podName = some old)
      (steady : c.anchor.renewing = false)
      (unfit : c.grounds old.cert (c.subject n) ≠ [])
      (signed : (c.anchor.sign (c.subject n) s).result = .ok b) :
      Decided n s b (.regenerated (c.grounds old.cert (c.subject n)))

variable {c}

theorem subjectChanged_iff {cert : Bytes} {desired : Subject} :
    Stored.subjectChanged cert desired = true ↔ Stored.altNames? cert ≠ some desired.altNames := by
  simp [Stored.subjectChanged, Stored.altNamesMatch]

theorem reasons_eq_grounds (cert : Bytes) (desired : Subject) :
    c.reasons cert desired = c.grounds cert desired := by
  have hs : Stored.subjectChanged cert desired = true ↔ c.Holds cert desired .subjectChanged :=
    subjectChanged_iff
  have he : (c.anchor.isExpiring cert && c.windowOpen) = true ↔ c.Holds cert desired .expiring := by
    simp [Holds]
  have ha : c.anchor.signal = .created ↔ c.Holds cert desired .certificateAdded := Iff.rfl
  simp only [reasons, grounds, Reason.all, List.filter_cons, List.filter_nil, decide_eq_true_eq,
    hs, he, ha]
  split_ifs <;> rfl

theorem grounds_of_rest {cert : Bytes} {desired : Subject} (hsignal : c.anchor.signal ≠ .created)
    (hage : c.anchor.isExpiring cert = false ∨ c.windowOpen = false) :
    c.grounds cert desired =
      if Stored.altNames? cert = some desired.altNames then [] else [.subjectChanged] := by
  have he : ¬ c.Holds cert desired .expiring := by
    rintro ⟨hexpiring, hopen⟩
    rcases hage with h | h
    · exact Bool.noConfusion (h.symm.trans hexpiring)
    · exact Bool.noConfusion (h.symm.trans hopen)
  have ha : ¬ c.Holds cert desired .certificateAdded := hsignal
  have hs : c.Holds cert desired .subjectChanged ↔
      ¬ Stored.altNames? cert = some desired.altNames := Iff.rfl
  simp only [grounds, Reason.all, List.filter_cons, List.filter_nil, decide_eq_true_eq, hs, he, ha,
    if_false]
  split_ifs <;> rfl

theorem carryOut_sign_ok_iff {desired : Subject} {s : σ} {action a : Action} {b : Bundle} :
    (c.carryOut desired s (.sign action)).result = .ok (b, a) ↔
      (c.anchor.sign desired s).result = .ok b ∧ action = a := by
  simp only [carryOut, Outcome.map_ok_iff, Prod.mk.injEq]
  exact ⟨fun ⟨_, h, hb, ha⟩ => ⟨hb ▸ h, ha⟩, fun ⟨h, ha⟩ => ⟨b, h, rfl, ha⟩⟩

theorem plan_of_absent (desired : Subject) : c.plan desired none = .sign .issued := rfl

theorem plan_of_renewing (h : c.anchor.renewing = true) (desired : Subject) (old : Bundle) :
    c.plan desired (some old) = .sign .renewed := by
  simp [plan, h]

theorem plan_of_fit (h : c.anchor.renewing = false) {desired : Subject} {old : Bundle}
    (hg : c.grounds old.cert desired = []) : c.plan desired (some old) = .keep old := by
  simp [plan, h, reasons_eq_grounds, hg]

theorem plan_of_unfit (h : c.anchor.renewing = false) {desired : Subject} {old : Bundle}
    (hg : c.grounds old.cert desired ≠ []) :
    c.plan desired (some old) = .sign (.regenerated (c.grounds old.cert desired)) := by
  rw [plan, reasons_eq_grounds, if_neg (by simp [h])]
  split
  · contradiction
  · rfl

theorem settle_ok_iff {n : Node} {s : σ} {b : Bundle} {a : Action} :
    (c.settle n s).result = .ok (b, a) ↔ c.Decided n s b a := by
  rw [settle, Outcome.after_result]
  constructor
  · intro h
    cases hold : c.existing.get? n.podName with
    | none =>
      rw [hold, plan_of_absent, carryOut_sign_ok_iff] at h
      exact h.2 ▸ .issued hold h.1
    | some old =>
      rw [hold] at h
      cases hr : c.anchor.renewing with
      | true =>
        rw [plan_of_renewing hr, carryOut_sign_ok_iff] at h
        exact h.2 ▸ .renewed hold hr h.1
      | false =>
        by_cases hg : c.grounds old.cert (c.subject n) = []
        · rw [plan_of_fit hr hg] at h
          cases h
          exact .reused hold hr hg
        · rw [plan_of_unfit hr hg, carryOut_sign_ok_iff] at h
          exact h.2 ▸ .regenerated hold hr hg h.1
  · intro h
    cases h with
    | issued absent signed => rw [absent, plan_of_absent, carryOut_sign_ok_iff]; exact ⟨signed, rfl⟩
    | renewed stored renewing signed =>
      rw [stored, plan_of_renewing renewing, carryOut_sign_ok_iff]
      exact ⟨signed, rfl⟩
    | reused stored steady fit => rw [stored, plan_of_fit steady fit]; rfl
    | regenerated stored steady unfit signed =>
      rw [stored, plan_of_unfit steady unfit, carryOut_sign_ok_iff]
      exact ⟨signed, rfl⟩

theorem Decided.unique {n : Node} {s : σ} {b b' : Bundle} {a a' : Action}
    (h : c.Decided n s b a) (h' : c.Decided n s b' a') : b = b' ∧ a = a' := by
  have he := (settle_ok_iff.2 h).symm.trans (settle_ok_iff.2 h')
  exact Prod.mk.inj (Except.ok.inj he)

theorem Decided.of_stored {n : Node} {s : σ} {b old : Bundle} {a : Action}
    (h : c.Decided n s b a) (hsteady : c.anchor.renewing = false)
    (hold : c.existing.get? n.podName = some old) :
    (c.grounds old.cert (c.subject n) = [] ∧ a = .reused ∧ b = old) ∨
      (c.grounds old.cert (c.subject n) ≠ [] ∧
        a = .regenerated (c.grounds old.cert (c.subject n))) := by
  cases h with
  | issued absent _ =>
    rw [hold] at absent
    cases absent
  | renewed _ renewing _ =>
    rw [hsteady] at renewing
    cases renewing
  | reused stored _ fit =>
    obtain rfl := Option.some.inj (hold.symm.trans stored)
    exact .inl ⟨fit, rfl, rfl⟩
  | regenerated stored _ unfit _ =>
    obtain rfl := Option.some.inj (hold.symm.trans stored)
    exact .inr ⟨unfit, rfl⟩

theorem settleAll_cons_state {n : Node} {ns : List Node} {s : σ} {d : Bundle × Action}
    (h : (c.settle n s).result = .ok d) :
    (c.settleAll (n :: ns) s).state = (c.settleAll ns (c.settle n s).state).state := by
  rw [settleAll, Outcome.bind_of_ok h]
  rfl

theorem settleAll_cons_ok_iff {n : Node} {ns : List Node} {s : σ}
    {done : List (String × Bundle × Action)} :
    (c.settleAll (n :: ns) s).result = .ok done ↔
      ∃ b a rest, c.Decided n s b a ∧
        (c.settleAll ns (c.settle n s).state).result = .ok rest ∧
        done = (n.podName, b, a) :: rest := by
  simp only [settleAll, Outcome.bind_ok_iff, Outcome.map_ok_iff]
  constructor
  · rintro ⟨⟨b, a⟩, hd, rest, hrest, rfl⟩
    exact ⟨b, a, rest, settle_ok_iff.1 hd, hrest, rfl⟩
  · rintro ⟨b, a, rest, hd, hrest, rfl⟩
    exact ⟨(b, a), settle_ok_iff.2 hd, rest, hrest, rfl⟩

theorem settleAll_pods {ns : List Node} {s : σ} {done : List (String × Bundle × Action)}
    (h : (c.settleAll ns s).result = .ok done) : done.map (·.1) = ns.map (·.podName) := by
  induction ns generalizing s done with
  | nil => cases h; rfl
  | cons n ns ih =>
    obtain ⟨b, a, rest, -, hrest, rfl⟩ := settleAll_cons_ok_iff.1 h
    simp [ih hrest]

theorem settleAll_decided {ns : List Node} {s : σ} {done : List (String × Bundle × Action)}
    (h : (c.settleAll ns s).result = .ok done) {before after : List Node} {n : Node}
    (hns : ns = before ++ n :: after) :
    ∃ b a, (n.podName, b, a) ∈ done ∧ c.Decided n (c.settleAll before s).state b a := by
  induction before generalizing ns s done with
  | nil =>
    subst hns
    obtain ⟨b, a, rest, hd, -, rfl⟩ := settleAll_cons_ok_iff.1 h
    exact ⟨b, a, List.mem_cons_self, hd⟩
  | cons m before ih =>
    subst hns
    obtain ⟨b', a', rest, hd, hrest, rfl⟩ := settleAll_cons_ok_iff.1 h
    obtain ⟨b, a, hm, hn⟩ := ih hrest rfl
    rw [settleAll_cons_state (settle_ok_iff.2 hd)]
    exact ⟨b, a, List.mem_cons_of_mem _ hm, hn⟩

theorem exists_decided (hsigns : ∀ d s, ∃ b, (c.anchor.sign d s).result = .ok b) (n : Node)
    (s : σ) : ∃ b a, c.Decided n s b a := by
  obtain ⟨b, hb⟩ := hsigns (c.subject n) s
  cases hold : c.existing.get? n.podName with
  | none => exact ⟨b, _, .issued hold hb⟩
  | some old =>
    cases hrenewing : c.anchor.renewing with
    | true => exact ⟨b, _, .renewed hold hrenewing hb⟩
    | false =>
      by_cases hfit : c.grounds old.cert (c.subject n) = []
      · exact ⟨old, _, .reused hold hrenewing hfit⟩
      · exact ⟨b, _, .regenerated hold hrenewing hfit hb⟩

theorem settleAll_succeeds {ns : List Node} {s : σ}
    (h : ∀ before n after, ns = before ++ n :: after →
      ∃ b a, c.Decided n (c.settleAll before s).state b a) :
    ∃ done, (c.settleAll ns s).result = .ok done := by
  induction ns generalizing s with
  | nil => exact ⟨[], rfl⟩
  | cons n ns ih =>
    obtain ⟨b, a, hd⟩ := h [] n ns rfl
    have hn : (c.settle n s).result = .ok (b, a) := settle_ok_iff.2 hd
    have hns : ∃ rest, (c.settleAll ns (c.settle n s).state).result = .ok rest := by
      apply ih
      intro before m after he
      obtain ⟨b', a', hm⟩ := h (n :: before) m after (by rw [he, List.cons_append])
      exact ⟨b', a', by rwa [settleAll_cons_state hn] at hm⟩
    obtain ⟨rest, hrest⟩ := hns
    exact ⟨_, settleAll_cons_ok_iff.2 ⟨b, a, rest, hd, hrest, rfl⟩⟩

def collect (done : List (String × Bundle × Action)) : Reconciled where
  certs := .ofList (done.map fun d => (d.1, d.2.1))
  actions := .ofList (done.map fun d => (d.1, d.2.2))

theorem run_eq_collect {nodes : List Node} {s : σ} {r : Reconciled} :
    (c.run nodes s).result = .ok r ↔ (nodes.map (·.podName)).Nodup ∧
      ∃ done, (c.settleAll nodes s).result = .ok done ∧ collect done = r := by
  rw [run]
  cases hd : Node.firstDuplicate? nodes with
  | none => simp only [Outcome.map_ok_iff, collect, Node.firstDuplicate?_eq_none_iff.1 hd, true_and]
  | some pod =>
    have hn : ¬(nodes.map (·.podName)).Nodup := fun h => by
      simp [Node.firstDuplicate?_eq_none_iff.2 h] at hd
    simp [hn]

variable {done : List (String × Bundle × Action)} {pod : String}

theorem collect_certs_iff (hd : (done.map (·.1)).Nodup) {b : Bundle} :
    (collect done).certs.get? pod = some b ↔ ∃ a, (pod, b, a) ∈ done := by
  rw [collect, SortedMap.get?_ofList_eq_some_iff (by simpa [Function.comp_def] using hd)]
  simp

theorem collect_actions_iff (hd : (done.map (·.1)).Nodup) {a : Action} :
    (collect done).actions.get? pod = some a ↔ ∃ b, (pod, b, a) ∈ done := by
  rw [collect, SortedMap.get?_ofList_eq_some_iff (by simpa [Function.comp_def] using hd)]
  simp

theorem mem_collect_certs_keys : pod ∈ (collect done).certs.keys ↔ pod ∈ done.map (·.1) := by
  simp [collect, SortedMap.mem_keys_ofList]

theorem mem_collect_actions_keys : pod ∈ (collect done).actions.keys ↔ pod ∈ done.map (·.1) := by
  simp [collect, SortedMap.mem_keys_ofList]

/-- A result with an entry for the pod of each node and for no other, as the table has it. -/
structure Settled (c : Cycle σ) (nodes : List Node) (s : σ) (r : Reconciled) : Prop where
  distinct : (nodes.map (·.podName)).Nodup
  certs_keys : ∀ pod, pod ∈ r.certs.keys ↔ pod ∈ nodes.map (·.podName)
  actions_keys : ∀ pod, pod ∈ r.actions.keys ↔ pod ∈ nodes.map (·.podName)
  decided : ∀ before n after, nodes = before ++ n :: after → ∃ b a,
    r.certs.get? n.podName = some b ∧ r.actions.get? n.podName = some a ∧
    c.Decided n (c.settleAll before s).state b a

theorem Settled.decided_of_mem {nodes : List Node} {s : σ} {r : Reconciled}
    (h : c.Settled nodes s r) {n : Node} (hn : n ∈ nodes) :
    ∃ s' b a, r.certs.get? n.podName = some b ∧ r.actions.get? n.podName = some a ∧
      c.Decided n s' b a := by
  obtain ⟨before, after, hns⟩ := List.append_of_mem hn
  exact ⟨_, h.decided before n after hns⟩

theorem settled_of_run {nodes : List Node} {s : σ} {r : Reconciled}
    (h : (c.run nodes s).result = .ok r) : c.Settled nodes s r := by
  obtain ⟨hdistinct, done, hdone, rfl⟩ := run_eq_collect.1 h
  have hpods := settleAll_pods hdone
  have hnodup : (done.map (·.1)).Nodup := hpods ▸ hdistinct
  refine ⟨hdistinct, fun pod => ?_, fun pod => ?_, fun before n after hns => ?_⟩
  · rw [mem_collect_certs_keys, hpods]
  · rw [mem_collect_actions_keys, hpods]
  · obtain ⟨b, a, hm, hd⟩ := settleAll_decided hdone hns
    exact ⟨b, a, (collect_certs_iff hnodup).2 ⟨a, hm⟩, (collect_actions_iff hnodup).2 ⟨b, hm⟩, hd⟩

theorem Settled.unique {nodes : List Node} {s : σ} {r r' : Reconciled}
    (h : c.Settled nodes s r) (h' : c.Settled nodes s r') : r = r' := by
  have hnode (pod : String) (hp : pod ∈ nodes.map (·.podName)) :
      r.certs.get? pod = r'.certs.get? pod ∧ r.actions.get? pod = r'.actions.get? pod := by
    obtain ⟨n, hn, rfl⟩ := List.mem_map.1 hp
    obtain ⟨before, after, hns⟩ := List.append_of_mem hn
    obtain ⟨b, a, hb, ha, hd⟩ := h.decided before n after hns
    obtain ⟨b', a', hb', ha', hd'⟩ := h'.decided before n after hns
    obtain ⟨rfl, rfl⟩ := hd.unique hd'
    exact ⟨hb.trans hb'.symm, ha.trans ha'.symm⟩
  have hcerts : r.certs = r'.certs := SortedMap.ext_get? fun pod => by
    by_cases hp : pod ∈ nodes.map (·.podName)
    · exact (hnode pod hp).1
    · rw [SortedMap.get?_eq_none_iff.2 (mt (h.certs_keys pod).1 hp),
        SortedMap.get?_eq_none_iff.2 (mt (h'.certs_keys pod).1 hp)]
  have hactions : r.actions = r'.actions := SortedMap.ext_get? fun pod => by
    by_cases hp : pod ∈ nodes.map (·.podName)
    · exact (hnode pod hp).2
    · rw [SortedMap.get?_eq_none_iff.2 (mt (h.actions_keys pod).1 hp),
        SortedMap.get?_eq_none_iff.2 (mt (h'.actions_keys pod).1 hp)]
  cases r
  cases r'
  rw [Reconciled.mk.injEq]
  exact ⟨hcerts, hactions⟩

theorem run_of_settled {nodes : List Node} {s : σ} {r : Reconciled} (h : c.Settled nodes s r) :
    (c.run nodes s).result = .ok r := by
  have hdone : ∃ done, (c.settleAll nodes s).result = .ok done := by
    apply settleAll_succeeds
    intro before n after hns
    obtain ⟨b, a, -, -, hd⟩ := h.decided before n after hns
    exact ⟨b, a, hd⟩
  obtain ⟨done, hdone⟩ := hdone
  have hrun : (c.run nodes s).result = .ok (collect done) :=
    run_eq_collect.2 ⟨h.distinct, done, hdone, rfl⟩
  rw [hrun, (settled_of_run hrun).unique h]

theorem run_succeeds {nodes : List Node} (hdistinct : (nodes.map (·.podName)).Nodup)
    (hsigns : ∀ d s, ∃ b, (c.anchor.sign d s).result = .ok b) (s : σ) :
    ∃ r, (c.run nodes s).result = .ok r := by
  have hdone : ∃ done, (c.settleAll nodes s).result = .ok done :=
    settleAll_succeeds fun before n _ _ => exists_decided hsigns n (c.settleAll before s).state
  obtain ⟨done, hdone⟩ := hdone
  exact ⟨_, run_eq_collect.2 ⟨hdistinct, done, hdone, rfl⟩⟩

/-- The decision table is exact: it has the result of every cycle that succeeds, and a cycle
succeeds whenever the table has a result for each of its nodes. -/
theorem run_ok_iff_settled (c : Cycle σ) (nodes : List Node) (s : σ) (r : Reconciled) :
    (c.run nodes s).result = .ok r ↔ c.Settled nodes s r :=
  ⟨settled_of_run, run_of_settled⟩

end Cycle
end ClusterCerts
