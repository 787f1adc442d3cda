import ClusterCerts.Proofs.Cycle.Listeners

/-!
# The signatures of a cycle

Which subjects a cycle has signed, in which order, and how the answers determine its result. The
CA is given a log of its calls, which does not change what a cycle does. A cycle asks in the order
of its nodes, for those alone whose certificate does not stay, and never again after a refusal.
-/

namespace ClusterCerts

variable {σ τ α β : Type}

structure Call where
  subject : Subject
  answer : Except Error Bundle

/-- The same CA, which also remembers the calls that it answered. -/
def Anchor.logged (a : Anchor σ) : Anchor (σ × List Call) where
  signal := a.signal
  renewing := a.renewing
  isExpiring := a.isExpiring
  expiryEvents := a.expiryEvents
  sign d s :=
    let o := a.sign d s.1
    ⟨o.result, o.events, (o.state, s.2 ++ [⟨d, o.result⟩])⟩

def Cycle.logged (c : Cycle σ) : Cycle (σ × List Call) where
  anchor := c.anchor.logged
  subject := c.subject
  existing := c.existing
  windowOpen := c.windowOpen

namespace Outcome

def mapState (g : σ → τ) (o : Outcome σ α) : Outcome τ α := ⟨o.result, o.events, g o.state⟩

def verdict (o : Outcome σ α) : Except Error Unit := o.result.map fun _ => ()

variable {o : Outcome σ α}

@[simp] theorem verdict_after (events : List Event) : (o.after events).verdict = o.verdict := rfl

@[simp] theorem verdict_map (f : α → β) : (o.map f).verdict = o.verdict := by
  rw [verdict, verdict, map_result]
  cases o.result <;> rfl

theorem verdict_ok_iff : o.verdict = .ok () ↔ ∃ a, o.result = .ok a := by
  rw [verdict]
  cases o.result <;> simp [Except.map]

theorem verdict_error_iff {e : Error} : o.verdict = .error e ↔ o.result = .error e := by
  rw [verdict]
  cases o.result <;> simp [Except.map]

theorem mapState_map (g : σ → τ) (f : α → β) : (o.map f).mapState g = (o.mapState g).map f := rfl

theorem mapState_after (g : σ → τ) (events : List Event) :
    (o.after events).mapState g = (o.mapState g).after events := rfl

theorem mapState_bind (g : σ → τ) {f : α → σ → Outcome σ β} {f' : α → τ → Outcome τ β}
    (h : ∀ a s, (f a s).mapState g = f' a (g s)) :
    (o.bind f).mapState g = (o.mapState g).bind f' := by
  cases ho : o.result with
  | ok a =>
    have hmapped : (o.mapState g).result = .ok a := ho
    rw [bind_of_ok ho, bind_of_ok hmapped, mapState_after, h]
    rfl
  | error e =>
    have hmapped : (o.mapState g).result = .error e := ho
    rw [bind_of_error ho, bind_of_error hmapped]
    rfl

end Outcome

namespace Cycle

variable {c : Cycle σ} {n : Node} {nodes : List Node} {s : σ} {b : Bundle} {a : Action}
  {r : Reconciled}

theorem settle_logged (c : Cycle σ) (n : Node) (s : σ × List Call) :
    (c.logged.settle n s).mapState Prod.fst = c.settle n s.1 := by
  have hsettle : c.logged.settle n s =
      (c.logged.carryOut (c.subject n) s (c.plan (c.subject n) (c.existing.get? n.podName))).after
        (c.planEvents n (c.subject n) (c.existing.get? n.podName)) := rfl
  rw [hsettle, settle, Outcome.mapState_after]
  cases c.plan (c.subject n) (c.existing.get? n.podName) <;> rfl

theorem settleAll_logged (c : Cycle σ) (ns : List Node) (s : σ × List Call) :
    (c.logged.settleAll ns s).mapState Prod.fst = c.settleAll ns s.1 := by
  induction ns generalizing s with
  | nil => rfl
  | cons n ns ih =>
    rw [settleAll, settleAll, ← settle_logged c n s]
    apply Outcome.mapState_bind
    intro done s
    rw [Outcome.mapState_map, ih]

theorem run_logged (c : Cycle σ) (nodes : List Node) (s : σ × List Call) :
    (c.logged.run nodes s).mapState Prod.fst = c.run nodes s.1 := by
  rw [run, run]
  cases Node.firstDuplicate? nodes with
  | none => rw [Outcome.mapState_map, settleAll_logged]
  | some pod => rfl

def keeps (c : Cycle σ) (n : Node) : Bool :=
  match c.existing.get? n.podName with
  | none => false
  | some b => !c.anchor.renewing && (c.grounds b.cert (c.subject n)).isEmpty

theorem Decided.keeps_iff (h : c.Decided n s b a) : c.keeps n = true ↔ a = .reused := by
  unfold keeps
  cases h with
  | issued absent _ => simp [absent]
  | renewed stored renewing _ => simp [stored, renewing]
  | reused stored steady fit => simp [stored, steady, fit]
  | regenerated stored steady unfit _ => simp [stored, steady, unfit]

theorem keeps_iff_plan : c.keeps n = true ↔
    ∃ b, c.plan (c.subject n) (c.existing.get? n.podName) = .keep b := by
  unfold keeps
  cases c.existing.get? n.podName with
  | none => simp [plan_of_absent]
  | some old =>
    cases hrenewing : c.anchor.renewing with
    | true => simp [plan_of_renewing hrenewing]
    | false =>
      by_cases hfit : c.grounds old.cert (c.subject n) = []
      · simp [plan_of_fit hrenewing hfit, hfit]
      · simp [plan_of_unfit hrenewing hfit, hfit]

theorem keeps_logged (c : Cycle σ) (n : Node) : c.logged.keeps n = c.keeps n := by
  rw [Bool.eq_iff_iff, keeps_iff_plan, keeps_iff_plan]
  rfl

theorem settle_of_keeps (h : c.keeps n = true) (s : σ) :
    (∃ b, (c.settle n s).result = .ok (b, .reused)) ∧ (c.settle n s).state = s := by
  obtain ⟨b, hplan⟩ := keeps_iff_plan.1 h
  rw [settle, hplan]
  exact ⟨⟨b, rfl⟩, rfl⟩

theorem settle_of_signs (h : c.keeps n = false) (s : σ) :
    (∃ a, (c.settle n s).result = (c.anchor.sign (c.subject n) s).result.map (·, a)) ∧
      (c.settle n s).state = (c.anchor.sign (c.subject n) s).state := by
  rw [settle]
  cases hplan : c.plan (c.subject n) (c.existing.get? n.podName) with
  | keep b =>
    rw [keeps_iff_plan.2 ⟨b, hplan⟩] at h
    cases h
  | sign a => exact ⟨⟨a, rfl⟩, rfl⟩

theorem log_settle_of_signs (h : c.keeps n = false) (s : σ × List Call) :
    (∃ a, (c.logged.settle n s).result =
        (c.anchor.sign (c.subject n) s.1).result.map (·, a)) ∧
      (c.logged.settle n s).state.2 =
        s.2 ++ [⟨c.subject n, (c.anchor.sign (c.subject n) s.1).result⟩] := by
  obtain ⟨hresult, hstate⟩ := settle_of_signs ((c.keeps_logged n).trans h) s
  exact ⟨hresult, congrArg Prod.snd hstate⟩

/-- The calls that settling the nodes takes, and how it ends. -/
inductive Calls (c : Cycle σ) : List Node → Except Error Unit → List Call → Prop
  | done : Calls c [] (.ok ()) []
  | kept {n : Node} {ns : List Node} {v : Except Error Unit} {calls : List Call}
      (keeps : c.keeps n = true) (rest : Calls c ns v calls) : Calls c (n :: ns) v calls
  | granted {n : Node} {ns : List Node} {v : Except Error Unit} {calls : List Call}
      (signs : c.keeps n = false) (b : Bundle) (rest : Calls c ns v calls) :
      Calls c (n :: ns) v (⟨c.subject n, .ok b⟩ :: calls)
  | refused {n : Node} {ns : List Node} (signs : c.keeps n = false) (e : Error) :
      Calls c (n :: ns) (.error e) [⟨c.subject n, .error e⟩]

theorem settleAll_cons_verdict {ns : List Node} {d : Bundle × Action}
    (h : (c.settle n s).result = .ok d) :
    (c.settleAll (n :: ns) s).verdict = (c.settleAll ns (c.settle n s).state).verdict := by
  rw [settleAll, Outcome.bind_of_ok h, Outcome.verdict_after, Outcome.verdict_map]

theorem calls_settleAll (c : Cycle σ) (ns : List Node) (s : σ × List Call) :
    ∃ calls, (c.logged.settleAll ns s).state.2 = s.2 ++ calls ∧
      c.Calls ns (c.logged.settleAll ns s).verdict calls := by
  induction ns generalizing s with
  | nil => exact ⟨[], s.2.append_nil.symm, .done⟩
  | cons n ns ih =>
    cases hkeeps : c.keeps n with
    | true =>
      obtain ⟨⟨b, hresult⟩, hstate⟩ := settle_of_keeps ((c.keeps_logged n).trans hkeeps) s
      obtain ⟨calls, hlog, hcalls⟩ := ih s
      rw [settleAll_cons_state hresult, settleAll_cons_verdict hresult, hstate]
      exact ⟨calls, hlog, .kept hkeeps hcalls⟩
    | false =>
      obtain ⟨⟨a, hresult⟩, hhead⟩ := log_settle_of_signs hkeeps s
      cases hanswer : (c.anchor.sign (c.subject n) s.1).result with
      | ok b =>
        rw [hanswer] at hresult hhead
        -- The other nodes are settled on the log with the call for this one.
        obtain ⟨calls, hlog, hcalls⟩ := ih (c.logged.settle n s).state
        rw [hhead, List.append_assoc] at hlog
        rw [settleAll_cons_state hresult, settleAll_cons_verdict hresult]
        exact ⟨_, hlog, .granted hkeeps b hcalls⟩
      | error e =>
        rw [hanswer] at hresult hhead
        rw [settleAll, Outcome.bind_of_error hresult]
        exact ⟨_, hhead, .refused hkeeps e⟩

theorem Calls.of_ok {ns : List Node} {v : Except Error Unit} {calls : List Call}
    (h : c.Calls ns v calls) (hv : v = .ok ()) :
    calls.map (·.subject) = (ns.filter fun n => !c.keeps n).map c.subject ∧
      ∀ call ∈ calls, ∃ b, call.answer = .ok b := by
  induction h with
  | done => simp
  | kept keeps _ ih => simpa [keeps] using ih hv
  | granted signs b _ ih => simpa [signs] using ih hv
  | refused _ _ => cases hv

theorem Calls.of_error {ns : List Node} {v : Except Error Unit} {calls : List Call} {e : Error}
    (h : c.Calls ns v calls) (hv : v = .error e) :
    ∃ before n after granted, ns = before ++ n :: after ∧ c.keeps n = false ∧
      c.Calls before (.ok ()) granted ∧ calls = granted ++ [⟨c.subject n, .error e⟩] := by
  induction h with
  | done => cases hv
  | @kept m ns _ _ keeps _ ih =>
    obtain ⟨before, n, after, granted, rfl, hsigns, hgranted, rfl⟩ := ih hv
    exact ⟨m :: before, n, after, granted, rfl, hsigns, .kept keeps hgranted, rfl⟩
  | @granted m ns _ _ signs b _ ih =>
    obtain ⟨before, n, after, granted, rfl, hsigns, hgranted, rfl⟩ := ih hv
    exact ⟨m :: before, n, after, _, rfl, hsigns, .granted signs b hgranted, rfl⟩
  | @refused n ns signs _ =>
    cases hv
    exact ⟨[], n, ns, [], rfl, signs, .done, rfl⟩

/-- What a cycle asks of its CA, together with what comes of the cycle. -/
inductive Course (c : Cycle σ) (nodes : List Node) : Except Error Reconciled → List Call → Prop
  | duplicate {before after : List Node} {n : Node} (split : nodes = before ++ n :: after)
      (distinct : (before.map (·.podName)).Nodup) (again : n.podName ∈ before.map (·.podName)) :
      Course c nodes (.error (.validation (.duplicatePod n.podName))) []
  | completed {r : Reconciled} {calls : List Call} (distinct : (nodes.map (·.podName)).Nodup)
      (kept : ∀ n ∈ nodes, r.actions.get? n.podName = some .reused ↔ c.keeps n = true)
      (subjects : calls.map (·.subject) = (nodes.filter fun n => !c.keeps n).map c.subject)
      (granted : ∀ call ∈ calls, ∃ b, call.answer = .ok b)
      (changed : r.changedPods.length = calls.length) : Course c nodes (.ok r) calls
  | refused {before after : List Node} {n : Node} {calls : List Call} {e : Error}
      (distinct : (nodes.map (·.podName)).Nodup) (split : nodes = before ++ n :: after)
      (signs : c.keeps n = false)
      (subjects : calls.map (·.subject) = (before.filter fun n => !c.keeps n).map c.subject)
      (granted : ∀ call ∈ calls, ∃ b, call.answer = .ok b) :
      Course c nodes (.error e) (calls ++ [⟨c.subject n, .error e⟩])

theorem Settled.kept_iff (h : c.Settled nodes s r) (hn : n ∈ nodes) :
    r.actions.get? n.podName = some .reused ↔ c.keeps n = true := by
  obtain ⟨_, b, a, -, ha, hdecided⟩ := h.decided_of_mem hn
  rw [ha, Option.some.injEq, hdecided.keeps_iff]

theorem Settled.mem_changedPods_iff (h : c.Settled nodes s r) {pod : String} :
    pod ∈ r.changedPods ↔ ∃ n ∈ nodes, c.keeps n = false ∧ n.podName = pod := by
  constructor
  · intro hpod
    obtain ⟨n, hn, rfl⟩ := h.exists_node_of_changed hpod
    obtain ⟨a, ha, hchanged⟩ := Reconciled.mem_changedPods_iff.1 hpod
    refine ⟨n, hn, Bool.eq_false_iff.2 fun hkeeps => ?_, rfl⟩
    exact hchanged (Option.some.inj (ha.symm.trans ((h.kept_iff hn).2 hkeeps)))
  · rintro ⟨n, hn, hsigns, rfl⟩
    obtain ⟨_, b, a, -, ha, hdecided⟩ := h.decided_of_mem hn
    refine Reconciled.mem_changedPods_iff.2 ⟨a, ha, fun hreused => ?_⟩
    rw [hdecided.keeps_iff.2 hreused] at hsigns
    cases hsigns

theorem Settled.length_changedPods (h : c.Settled nodes s r) :
    r.changedPods.length = (nodes.filter fun n => !c.keeps n).length := by
  have hnodup : ((nodes.filter fun n => !c.keeps n).map (·.podName)).Nodup :=
    h.distinct.sublist (List.filter_sublist.map _)
  have hmem (pod : String) : pod ∈ r.changedPods ↔
      pod ∈ (nodes.filter fun n => !c.keeps n).map (·.podName) := by
    rw [h.mem_changedPods_iff, List.mem_map]
    simp only [List.mem_filter, Bool.not_eq_true', and_assoc]
  have hperm : r.changedPods.Perm ((nodes.filter fun n => !c.keeps n).map (·.podName)) :=
    (List.perm_ext_iff_of_nodup (SortedMap.nodup_keys _) hnodup).2 hmem
  rw [hperm.length_eq, List.length_map]

theorem Course.of_calls (hdistinct : (nodes.map (·.podName)).Nodup) {s : σ} {calls : List Call}
    (hcalls : c.Calls nodes (c.run nodes s).verdict calls) :
    c.Course nodes (c.run nodes s).result calls := by
  cases hresult : (c.run nodes s).result with
  | ok r =>
    have hsettled := settled_of_run hresult
    obtain ⟨hsubjects, hgranted⟩ := hcalls.of_ok (Outcome.verdict_ok_iff.2 ⟨r, hresult⟩)
    refine .completed hdistinct (fun n hn => hsettled.kept_iff hn) hsubjects hgranted ?_
    have hlength := congrArg List.length hsubjects
    rw [List.length_map, List.length_map] at hlength
    rw [hsettled.length_changedPods, hlength]
  | error e =>
    obtain ⟨before, n, after, granted, hsplit, hsigns, hbefore, rfl⟩ :=
      hcalls.of_error (Outcome.verdict_error_iff.2 hresult)
    obtain ⟨hsubjects, hgranted⟩ := hbefore.of_ok rfl
    exact .refused hdistinct hsplit hsigns hsubjects hgranted

/-- A cycle has the subjects signed that its nodes need, one by one and up to the first refusal,
and the answers decide how it ends. -/
theorem run_course (c : Cycle σ) (nodes : List Node) (s : σ) :
    (c.logged.run nodes (s, [])).mapState Prod.fst = c.run nodes s ∧
      c.Course nodes (c.run nodes s).result (c.logged.run nodes (s, [])).state.2 := by
  have hlogged := run_logged c nodes (s, [])
  refine ⟨hlogged, ?_⟩
  cases hfirst : Node.firstDuplicate? nodes with
  | some pod =>
    obtain ⟨before, n, after, hsplit, rfl, hdistinct, hagain⟩ :=
      Node.split_of_firstDuplicate? hfirst
    have hrun : c.run nodes s = .fail (.validation (.duplicatePod n.podName)) s := by
      rw [run, hfirst]
    have hlog : (c.logged.run nodes (s, [])).state.2 = [] := by
      rw [run, hfirst]
      rfl
    rw [hrun, hlog]
    exact .duplicate hsplit hdistinct hagain
  | none =>
    obtain ⟨calls, hlog, hcalls⟩ := calls_settleAll c nodes (s, [])
    have hstate : (c.logged.run nodes (s, [])).state.2 = calls := by
      rw [run, hfirst, Outcome.map_state, hlog, List.nil_append]
    have hverdict : (c.logged.settleAll nodes (s, [])).verdict = (c.run nodes s).verdict := by
      rw [← hlogged, run, hfirst]
      exact (Outcome.verdict_map _).symm
    rw [hverdict] at hcalls
    rw [hstate]
    exact .of_calls (Node.firstDuplicate?_eq_none_iff.1 hfirst) hcalls

end Cycle
end ClusterCerts
