import ClusterCerts.Proofs.Cycle.Signatures

/-!
# Cycles that are refused a signature

Where the CA refuses a subject for what it is, the failure of a cycle does not depend on what was
signed before: it is the refusal of the first node, in list order, whose certificate does not stay
and whose subject is refused. Without such a node the cycle succeeds.
-/

namespace ClusterCerts

variable {σ : Type}

/-- The CA refuses the same subjects in every state, each with the same error. -/
def Anchor.Refuses (a : Anchor σ) (refusal? : Subject → Option Error) : Prop :=
  ∀ d s err, (a.sign d s).result = .error err ↔ refusal? d = some err

namespace Cycle

variable {c : Cycle σ} {n : Node} {ns : List Node} {s : σ} {refusal? : Subject → Option Error}
  {err : Error}

def nodeRefusal? (c : Cycle σ) (refusal? : Subject → Option Error) (n : Node) : Option Error :=
  if c.keeps n then none else refusal? (c.subject n)

theorem nodeRefusal?_eq_some_iff : c.nodeRefusal? refusal? n = some err ↔
    c.keeps n = false ∧ refusal? (c.subject n) = some err := by
  simp [nodeRefusal?]

theorem settle_error_iff (h : c.anchor.Refuses refusal?) :
    (c.settle n s).result = .error err ↔ c.nodeRefusal? refusal? n = some err := by
  cases hkeeps : c.keeps n with
  | true =>
    obtain ⟨⟨b, hresult⟩, -⟩ := settle_of_keeps hkeeps s
    simp [nodeRefusal?, hkeeps, hresult]
  | false =>
    obtain ⟨⟨a, hresult⟩, -⟩ := settle_of_signs hkeeps s
    rw [hresult, nodeRefusal?_eq_some_iff, ← h (c.subject n) s err]
    cases (c.anchor.sign (c.subject n) s).result <;> simp [Except.map, hkeeps]

theorem settleAll_error_iff (h : c.anchor.Refuses refusal?) :
    (c.settleAll ns s).result = .error err ↔ ns.findSome? (c.nodeRefusal? refusal?) = some err := by
  induction ns generalizing s with
  | nil => simp [settleAll]
  | cons n ns ih =>
    rw [settleAll, List.findSome?_cons]
    cases hresult : (c.settle n s).result with
    | error fault =>
      rw [Outcome.bind_of_error hresult, (settle_error_iff h).1 hresult]
      simp
    | ok done =>
      have hnone : c.nodeRefusal? refusal? n = none := by
        cases hrefusal : c.nodeRefusal? refusal? n with
        | none => rfl
        | some fault =>
          have herror := (settle_error_iff h (s := s)).2 hrefusal
          rw [hresult] at herror
          cases herror
      rw [Outcome.bind_of_ok hresult, Outcome.after_result, Outcome.map_result, hnone,
        ← ih (s := (c.settle n s).state)]
      cases (c.settleAll ns (c.settle n s).state).result <;> simp [Except.map]

theorem run_error_iff (h : c.anchor.Refuses refusal?) : (c.run ns s).result = .error err ↔
    match Node.firstDuplicate? ns with
    | some pod => .validation (.duplicatePod pod) = err
    | none => ns.findSome? (c.nodeRefusal? refusal?) = some err := by
  rw [run]
  cases Node.firstDuplicate? ns with
  | some pod => simp
  | none =>
    rw [← settleAll_error_iff h (s := s), Outcome.map_result]
    cases (c.settleAll ns s).result <;> simp [Except.map]

theorem run_fails_iff (h : c.anchor.Refuses refusal?) (hdistinct : (ns.map (·.podName)).Nodup) :
    (∃ err, (c.run ns s).result = .error err) ↔
      ∃ n ∈ ns, c.keeps n = false ∧ ∃ err, refusal? (c.subject n) = some err := by
  simp only [run_error_iff h, Node.firstDuplicate?_eq_none_iff.2 hdistinct,
    ← Option.isSome_iff_exists, List.findSome?_isSome_iff]
  simp only [Option.isSome_iff_exists, nodeRefusal?_eq_some_iff, exists_and_left]

theorem refusal_of_run (h : c.anchor.Refuses refusal?) (hdistinct : (ns.map (·.podName)).Nodup)
    (hrun : (c.run ns s).result = .error err) :
    ∃ n ∈ ns, c.keeps n = false ∧ refusal? (c.subject n) = some err := by
  have hrun := (run_error_iff h).1 hrun
  rw [Node.firstDuplicate?_eq_none_iff.2 hdistinct] at hrun
  obtain ⟨n, hn, hrefusal⟩ := List.exists_of_findSome?_eq_some hrun
  exact ⟨n, hn, nodeRefusal?_eq_some_iff.1 hrefusal⟩

end Cycle
end ClusterCerts
