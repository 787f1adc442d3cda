import ClusterCerts.Proofs.Cycle.Fixpoint

/-!
# Independent nodes

Where signatures depend on nothing but the subject, a cycle looks up each of its nodes in a table
that no node changes. So rosters can be put together, taken apart and reordered, and every node
gets what it would have got without the others.
-/

namespace ClusterCerts

structure SortedMap.DisjointUnion {κ β : Type} [Ord κ] (m m₁ m₂ : SortedMap κ β) : Prop where
  disjoint : ∀ k ∈ m₁.keys, k ∉ m₂.keys
  get?_iff : ∀ k v, m.get? k = some v ↔ m₁.get? k = some v ∨ m₂.get? k = some v

def MapsPods {β : Type} (m : SortedMap String β) (ns : List Node) (table : Node → β → Prop) :
    Prop :=
  ∀ pod v, m.get? pod = some v ↔ ∃ n ∈ ns, n.podName = pod ∧ table n v

section MapsPods

variable {β : Type} {m m₁ m₂ : SortedMap String β} {ns ns' ns₁ ns₂ : List Node}
  {table : Node → β → Prop}

theorem MapsPods.congr (h : MapsPods m ns table) (hmem : ∀ n, n ∈ ns ↔ n ∈ ns') :
    MapsPods m ns' table := by
  intro pod v
  simp only [h pod v, hmem]

theorem MapsPods.unique (h₁ : MapsPods m₁ ns table) (h₂ : MapsPods m₂ ns table) : m₁ = m₂ := by
  apply SortedMap.ext_get?
  intro pod
  ext v
  rw [h₁ pod v, h₂ pod v]

theorem mapsPods_of_keys (hkeys : ∀ pod, pod ∈ m.keys ↔ pod ∈ ns.map (·.podName))
    (hvalues : ∀ n ∈ ns, ∀ v, m.get? n.podName = some v ↔ table n v) : MapsPods m ns table := by
  intro pod v
  constructor
  · intro hv
    obtain ⟨n, hn, rfl⟩ := List.mem_map.1 ((hkeys pod).1 (SortedMap.mem_keys_iff_exists.2 ⟨v, hv⟩))
    exact ⟨n, hn, rfl, (hvalues n hn v).1 hv⟩
  · rintro ⟨n, hn, rfl, hv⟩
    exact (hvalues n hn v).2 hv

theorem MapsPods.disjointUnion (hdistinct : ((ns₁ ++ ns₂).map (·.podName)).Nodup)
    (h : MapsPods m (ns₁ ++ ns₂) table) (h₁ : MapsPods m₁ ns₁ table) (h₂ : MapsPods m₂ ns₂ table) :
    m.DisjointUnion m₁ m₂ := by
  constructor
  · intro pod hpod₁ hpod₂
    obtain ⟨v₁, hv₁⟩ := SortedMap.mem_keys_iff_exists.1 hpod₁
    obtain ⟨v₂, hv₂⟩ := SortedMap.mem_keys_iff_exists.1 hpod₂
    obtain ⟨n₁, hn₁, hname₁, -⟩ := (h₁ pod v₁).1 hv₁
    obtain ⟨n₂, hn₂, hname₂, -⟩ := (h₂ pod v₂).1 hv₂
    rw [List.map_append, List.nodup_append] at hdistinct
    exact hdistinct.2.2 _ (List.mem_map_of_mem hn₁) _ (List.mem_map_of_mem hn₂)
      (hname₁.trans hname₂.symm)
  · intro pod v
    rw [h pod v, h₁ pod v, h₂ pod v]
    simp only [List.mem_append, or_and_right, exists_or]

end MapsPods

variable {σ : Type}

/-- The CA signs a subject in the same way whatever it signed before. -/
def Anchor.Fixed (a : Anchor σ) : Prop := ∀ d s s', (a.sign d s).result = (a.sign d s').result

namespace Cycle

variable {c : Cycle σ} {n : Node} {ns ns' ns₁ ns₂ : List Node} {s s' : σ} {b : Bundle} {a : Action}
  {r : Reconciled}

theorem Decided.in_state (h : c.Decided n s b a) (hfixed : c.anchor.Fixed) (s' : σ) :
    c.Decided n s' b a := by
  cases h with
  | issued absent signed => exact .issued absent ((hfixed _ s' s).trans signed)
  | renewed stored renewing signed =>
    exact .renewed stored renewing ((hfixed _ s' s).trans signed)
  | reused stored steady fit => exact .reused stored steady fit
  | regenerated stored steady unfit signed =>
    exact .regenerated stored steady unfit ((hfixed _ s' s).trans signed)

structure Tabulated (c : Cycle σ) (ns : List Node) (s : σ) : Prop where
  distinct : (ns.map (·.podName)).Nodup
  decided : ∀ n ∈ ns, ∃ b a, c.Decided n s b a

structure FromTable (c : Cycle σ) (ns : List Node) (s : σ) (r : Reconciled) : Prop where
  certs : MapsPods r.certs ns fun n b => ∃ a, c.Decided n s b a
  actions : MapsPods r.actions ns fun n a => ∃ b, c.Decided n s b a

theorem Tabulated.perm (h : c.Tabulated ns s) (hperm : ns.Perm ns') : c.Tabulated ns' s := by
  constructor
  · exact (hperm.map _).nodup_iff.1 h.distinct
  · intro n hn
    exact h.decided n (hperm.mem_iff.2 hn)

theorem FromTable.perm (h : c.FromTable ns s r) (hperm : ns.Perm ns') : c.FromTable ns' s r :=
  ⟨h.certs.congr fun _ => hperm.mem_iff, h.actions.congr fun _ => hperm.mem_iff⟩

theorem tabulated_append_iff (hdistinct : ((ns₁ ++ ns₂).map (·.podName)).Nodup) :
    c.Tabulated (ns₁ ++ ns₂) s ↔ c.Tabulated ns₁ s ∧ c.Tabulated ns₂ s := by
  have hparts := hdistinct
  rw [List.map_append, List.nodup_append] at hparts
  constructor
  · intro h
    refine ⟨⟨hparts.1, fun n hn => ?_⟩, ⟨hparts.2.1, fun n hn => ?_⟩⟩
    · exact h.decided n (List.mem_append_left ns₂ hn)
    · exact h.decided n (List.mem_append_right ns₁ hn)
  · rintro ⟨h₁, h₂⟩
    refine ⟨hdistinct, fun n hn => ?_⟩
    exact (List.mem_append.1 hn).elim (h₁.decided n) (h₂.decided n)

theorem Settled.eq_of_decided (h : c.Settled ns s r) (hfixed : c.anchor.Fixed) (hn : n ∈ ns)
    (hdecided : c.Decided n s' b a) :
    r.certs.get? n.podName = some b ∧ r.actions.get? n.podName = some a := by
  obtain ⟨_, b', a', hb, ha, hhere⟩ := h.decided_of_mem hn
  obtain ⟨rfl, rfl⟩ := (hhere.in_state hfixed s').unique hdecided
  exact ⟨hb, ha⟩

theorem Settled.tabulated (h : c.Settled ns s r) (hfixed : c.anchor.Fixed) (s' : σ) :
    c.Tabulated ns s' := by
  refine ⟨h.distinct, fun n hn => ?_⟩
  obtain ⟨_, b, a, -, -, hdecided⟩ := h.decided_of_mem hn
  exact ⟨b, a, hdecided.in_state hfixed s'⟩

theorem Settled.fromTable (h : c.Settled ns s r) (hfixed : c.anchor.Fixed) (s' : σ) :
    c.FromTable ns s' r := by
  have htable := (h.tabulated hfixed s').decided
  constructor
  · refine mapsPods_of_keys h.certs_keys fun n hn b => ⟨fun hb => ?_, ?_⟩
    · obtain ⟨b', a, hdecided⟩ := htable n hn
      obtain rfl := Option.some.inj ((h.eq_of_decided hfixed hn hdecided).1.symm.trans hb)
      exact ⟨a, hdecided⟩
    · rintro ⟨a, hdecided⟩
      exact (h.eq_of_decided hfixed hn hdecided).1
  · refine mapsPods_of_keys h.actions_keys fun n hn a => ⟨fun ha => ?_, ?_⟩
    · obtain ⟨b, a', hdecided⟩ := htable n hn
      obtain rfl := Option.some.inj ((h.eq_of_decided hfixed hn hdecided).2.symm.trans ha)
      exact ⟨b, hdecided⟩
    · rintro ⟨b, hdecided⟩
      exact (h.eq_of_decided hfixed hn hdecided).2

theorem succeeds_iff_tabulated (hfixed : c.anchor.Fixed) (ns : List Node) (s s' : σ) :
    (∃ r, (c.run ns s).result = .ok r) ↔ c.Tabulated ns s' := by
  constructor
  · rintro ⟨r, hrun⟩
    exact (settled_of_run hrun).tabulated hfixed s'
  · rintro ⟨hdistinct, hdecided⟩
    have hdone : ∃ done, (c.settleAll ns s).result = .ok done := by
      apply settleAll_succeeds
      intro before n after hns
      obtain ⟨b, a, hn⟩ := hdecided n (by simp [hns])
      exact ⟨b, a, hn.in_state hfixed _⟩
    obtain ⟨done, hdone⟩ := hdone
    exact ⟨_, run_eq_collect.2 ⟨hdistinct, done, hdone, rfl⟩⟩

theorem run_ok_iff_fromTable (hfixed : c.anchor.Fixed) (ns : List Node) (s s' : σ)
    (r : Reconciled) :
    (c.run ns s).result = .ok r ↔ c.Tabulated ns s' ∧ c.FromTable ns s' r := by
  constructor
  · intro hrun
    have hsettled := settled_of_run hrun
    exact ⟨hsettled.tabulated hfixed s', hsettled.fromTable hfixed s'⟩
  · rintro ⟨htable, hmaps⟩
    obtain ⟨r', hrun⟩ := (succeeds_iff_tabulated hfixed ns s s').2 htable
    have hmaps' := (settled_of_run hrun).fromTable hfixed s'
    have hsame : r' = r := by
      cases r
      cases r'
      rw [Reconciled.mk.injEq]
      exact ⟨hmaps'.certs.unique hmaps.certs, hmaps'.actions.unique hmaps.actions⟩
    rw [hrun, hsame]

theorem run_perm (hfixed : c.anchor.Fixed) (hperm : ns.Perm ns') (s s' : σ) (r : Reconciled)
    (hrun : (c.run ns s).result = .ok r) : (c.run ns' s').result = .ok r := by
  obtain ⟨htable, hmaps⟩ := (run_ok_iff_fromTable hfixed ns s s' r).1 hrun
  exact (run_ok_iff_fromTable hfixed ns' s' s' r).2 ⟨htable.perm hperm, hmaps.perm hperm⟩

/-- Nodes do not influence each other. -/
theorem run_independent (c : Cycle σ) (hfixed : c.anchor.Fixed) :
    (∀ ns₁ ns₂ : List Node, ((ns₁ ++ ns₂).map (·.podName)).Nodup → ∀ s s₁ s₂,
      ((∃ r, (c.run (ns₁ ++ ns₂) s).result = .ok r) ↔
        (∃ r, (c.run ns₁ s₁).result = .ok r) ∧ ∃ r, (c.run ns₂ s₂).result = .ok r) ∧
      ∀ r r₁ r₂, (c.run (ns₁ ++ ns₂) s).result = .ok r → (c.run ns₁ s₁).result = .ok r₁ →
        (c.run ns₂ s₂).result = .ok r₂ →
        r.certs.DisjointUnion r₁.certs r₂.certs ∧
          r.actions.DisjointUnion r₁.actions r₂.actions) ∧
    (∀ ns ns' : List Node, ns.Perm ns' → ∀ s s' r,
      (c.run ns s).result = .ok r ↔ (c.run ns' s').result = .ok r) ∧
    ∀ (ns ns' : List Node) s s' r r', (c.run ns s).result = .ok r →
      (c.run ns' s').result = .ok r' → ∀ n ∈ ns, n ∈ ns' →
        r.certs.get? n.podName = r'.certs.get? n.podName ∧
          r.actions.get? n.podName = r'.actions.get? n.podName := by
  refine ⟨fun ns₁ ns₂ hdistinct s s₁ s₂ => ⟨?_, fun r r₁ r₂ h h₁ h₂ => ?_⟩,
    fun ns ns' hperm s s' r => ⟨?_, ?_⟩, fun ns ns' s s' r r' h h' n hn hn' => ?_⟩
  · rw [succeeds_iff_tabulated hfixed ns₁ s₁ s, succeeds_iff_tabulated hfixed ns₂ s₂ s,
      succeeds_iff_tabulated hfixed _ s s]
    exact tabulated_append_iff hdistinct
  · have hmaps := (settled_of_run h).fromTable hfixed s
    have hmaps₁ := (settled_of_run h₁).fromTable hfixed s
    have hmaps₂ := (settled_of_run h₂).fromTable hfixed s
    exact ⟨hmaps.certs.disjointUnion hdistinct hmaps₁.certs hmaps₂.certs,
      hmaps.actions.disjointUnion hdistinct hmaps₁.actions hmaps₂.actions⟩
  · exact run_perm hfixed hperm s s' r
  · exact run_perm hfixed hperm.symm s' s r
  · have hsettled := settled_of_run h
    obtain ⟨b, a, hdecided⟩ := (hsettled.tabulated hfixed s).decided n hn
    obtain ⟨hb, ha⟩ := hsettled.eq_of_decided hfixed hn hdecided
    obtain ⟨hb', ha'⟩ := (settled_of_run h').eq_of_decided hfixed hn' hdecided
    exact ⟨hb.trans hb'.symm, ha.trans ha'.symm⟩

theorem sampleAnchor_fixed : sampleAnchor.Fixed := by
  intro d s s'
  simp only [sampleAnchor]
  split <;> rfl

theorem run_independent_sample :
    (∃ r, (sampleCycle.run [Node.brokerIn "pool" 1] 7).result = .ok r) ∧
    (sampleCycle.run sampleNodes.reverse 5).result = .ok sampleResult := by
  have hrun : (sampleCycle.run sampleNodes 0).result = .ok sampleResult :=
    Except.eq_ok_of_toOption (by decide)
  obtain ⟨happend, hperm, -⟩ := run_independent sampleCycle sampleAnchor_fixed
  obtain ⟨hsucceeds, -⟩ :=
    happend [Node.brokerIn "pool" 1] [Node.brokerIn "pool" 0] (by decide) 0 7 8
  exact ⟨(hsucceeds.1 ⟨_, hrun⟩).1,
    (hperm sampleNodes _ sampleNodes.reverse_perm.symm 0 5 _).1 hrun⟩

end Cycle
end ClusterCerts
