import ClusterCerts.Proofs.Cycle.Decisions
import ClusterCerts.Proofs.SecretData.RoundTrip

/-!
# The fixpoint of reconciliation

A cycle that succeeds leaves every node with a certificate for its desired names, provided that
signing gives such certificates. From then on nothing speaks against the stored certificates as
long as the CA is at rest and none of them is to be replaced for its age, so each further cycle
keeps them all and never signs. Carrying the bundles through secret data makes no difference,
since reading gives back what was written.
-/

namespace ClusterCerts

variable {σ τ : Type}

/-- The same CA, which also remembers the subjects that it was asked to sign. -/
def Anchor.traced (a : Anchor σ) : Anchor (σ × List Subject) where
  signal := a.signal
  renewing := a.renewing
  isExpiring := a.isExpiring
  expiryEvents := a.expiryEvents
  sign d s :=
    let o := a.sign d s.1
    ⟨o.result, o.events, (o.state, s.2 ++ [d])⟩

def Anchor.SignsNames (a : Anchor σ) : Prop :=
  ∀ d s b, (a.sign d s).result = .ok b → Stored.altNames? b.cert = some d.altNames

def Anchor.SignsNamesOf (a : Anchor σ) (m : CertificateMap) : Prop :=
  ∀ pod b, m.get? pod = some b → ∀ d s, (a.sign d s).result = .ok b →
    Stored.altNames? b.cert = some d.altNames

theorem Anchor.SignsNames.of_map {a : Anchor σ} (h : a.SignsNames) (m : CertificateMap) :
    a.SignsNamesOf m := fun _ b _ d s => h d s b

/-- One cycle of a series: the CA as it answers then, the maintenance window, and whether the
bundles were written as secret data and read again since the cycle before. -/
structure Turn (σ : Type) where
  anchor : Anchor σ
  windowOpen : Bool
  viaSecretData : Bool

namespace Turn

def traced (t : Turn σ) : Turn (σ × List Subject) := { t with anchor := t.anchor.traced }

def carry (t : Turn σ) (m : CertificateMap) : CertificateMap :=
  if t.viaSecretData then SecretData.decode (SecretData.encode m) else m

def cycle (t : Turn σ) (subject : Node → Subject) (m : CertificateMap) : Cycle σ where
  anchor := t.anchor
  subject := subject
  existing := t.carry m
  windowOpen := t.windowOpen

/-- The CA asks for no new certificates, and none of the bundles is to be replaced for its age. -/
structure Quiet (t : Turn σ) (m : CertificateMap) : Prop where
  signal : t.anchor.signal = .noRenewal ∨ t.anchor.signal = .postponed
  renewing : t.anchor.renewing = t.anchor.signal.replacesAll
  fresh : (∀ pod b, m.get? pod = some b → t.anchor.isExpiring b.cert = false) ∨
    t.windowOpen = false

@[simp] theorem carry_eq (t : Turn σ) (m : CertificateMap) : t.carry m = m := by
  rw [carry, SecretData.decode_of_encode, ite_self]

theorem Quiet.traced {t : Turn σ} {m : CertificateMap} (h : t.Quiet m) : t.traced.Quiet m :=
  ⟨h.signal, h.renewing, h.fresh⟩

theorem Quiet.steady {t : Turn σ} {m : CertificateMap} (h : t.Quiet m) :
    t.anchor.renewing = false := by
  rw [h.renewing]
  rcases h.signal with hs | hs <;> rw [hs] <;> rfl

theorem Quiet.grounds_eq_nil {t : Turn σ} {m : CertificateMap} (h : t.Quiet m)
    {subject : Node → Subject} {pod : String} {b : Bundle} (hb : m.get? pod = some b)
    {desired : Subject} (hnames : Stored.altNames? b.cert = some desired.altNames) :
    (t.cycle subject m).grounds b.cert desired = [] := by
  have hsignal : t.anchor.signal ≠ .created := by
    rcases h.signal with hs | hs <;> simp [hs]
  have hage : t.anchor.isExpiring b.cert = false ∨ t.windowOpen = false :=
    h.fresh.imp_left fun hf => hf pod b hb
  rw [Cycle.grounds_of_rest hsignal hage, if_pos hnames]

end Turn

namespace Cycle

def series (subject : Node → Subject) (nodes : List Node) :
    List (Turn σ) → CertificateMap → σ → Outcome σ (List Reconciled)
  | [], _, s => ⟨.ok [], [], s⟩
  | t :: ts, m, s => ((t.cycle subject m).run nodes s).bind fun r s =>
    (series subject nodes ts r.certs s).map (r :: ·)

def allReused (nodes : List Node) : SortedMap String Action :=
  .ofList (nodes.map fun n => (n.podName, .reused))

theorem get?_allReused_iff {nodes : List Node} {pod : String} {a : Action} :
    (allReused nodes).get? pod = some a ↔ pod ∈ nodes.map (·.podName) ∧ a = .reused := by
  have hmem (a : Action) : (pod, a) ∈ nodes.map (fun n => (n.podName, Action.reused)) ↔
      pod ∈ nodes.map (·.podName) ∧ a = .reused := by
    simp only [List.mem_map, Prod.mk.injEq]
    constructor
    · rintro ⟨n, hn, rfl, rfl⟩
      exact ⟨⟨n, hn, rfl⟩, rfl⟩
    · rintro ⟨⟨n, hn, rfl⟩, rfl⟩
      exact ⟨n, hn, rfl, rfl⟩
  rw [allReused, SortedMap.get?_ofList_iff_of_unique, hmem]
  intro v v' h h'
  rw [((hmem v).1 h).2, ((hmem v').1 h').2]

theorem changedPods_allReused (nodes : List Node) (m : CertificateMap) :
    (⟨m, allReused nodes⟩ : Reconciled).changedPods = [] := by
  have hkept : ∀ e ∈ (allReused nodes).entries, ¬e.2.changes = true := by
    rintro ⟨pod, a⟩ he
    obtain ⟨-, rfl⟩ := get?_allReused_iff.1 (SortedMap.get?_eq_some_iff.2 he)
    simp [Action.changes]
  simp [Reconciled.changedPods, SortedMap.filter, SortedMap.keys,
    List.filter_eq_nil_iff.2 hkept]

variable {c : Cycle σ} {nodes : List Node}

def Fits (c : Cycle σ) (nodes : List Node) : Prop :=
  ∀ n ∈ nodes, ∃ b, c.existing.get? n.podName = some b ∧ c.grounds b.cert (c.subject n) = []

theorem settle_state_of_fits (hc : c.anchor.renewing = false) {n : Node} {b : Bundle}
    (hb : c.existing.get? n.podName = some b) (hg : c.grounds b.cert (c.subject n) = []) (s : σ) :
    (c.settle n s).state = s := by
  rw [settle, Outcome.after_state, hb, plan_of_fit hc hg]
  rfl

theorem settleAll_state_of_fits (hc : c.anchor.renewing = false) (hfits : c.Fits nodes) (s : σ) :
    (c.settleAll nodes s).state = s := by
  induction nodes with
  | nil => rfl
  | cons n ns ih =>
    obtain ⟨b, hb, hg⟩ := hfits n List.mem_cons_self
    have hn : (c.settle n s).result = .ok (b, .reused) := settle_ok_iff.2 (.reused hb hc hg)
    rw [settleAll_cons_state hn, settle_state_of_fits hc hb hg]
    exact ih fun m hm => hfits m (List.mem_cons_of_mem n hm)

theorem run_state_of_nodup (h : (nodes.map (·.podName)).Nodup) (s : σ) :
    (c.run nodes s).state = (c.settleAll nodes s).state := by
  rw [run, Node.firstDuplicate?_eq_none_iff.2 h, Outcome.map_state]

theorem run_of_fits (hc : c.anchor.renewing = false) (hfits : c.Fits nodes)
    (hnodes : (nodes.map (·.podName)).Nodup)
    (hkeys : ∀ pod, pod ∈ c.existing.keys ↔ pod ∈ nodes.map (·.podName)) (s : σ) :
    ∃ events, c.run nodes s = ⟨.ok ⟨c.existing, allReused nodes⟩, events, s⟩ := by
  have hresult : (c.run nodes s).result = .ok ⟨c.existing, allReused nodes⟩ := by
    apply run_of_settled
    refine ⟨hnodes, hkeys, fun pod => ?_, fun before n after hns => ?_⟩
    · simp [allReused, SortedMap.mem_keys_ofList]
    · have hn : n ∈ nodes := by simp [hns]
      obtain ⟨b, hb, hg⟩ := hfits n hn
      exact ⟨b, .reused, hb, get?_allReused_iff.2 ⟨List.mem_map_of_mem hn, rfl⟩, .reused hb hc hg⟩
  have hstate : (c.run nodes s).state = s := by
    rw [run_state_of_nodup hnodes, settleAll_state_of_fits hc hfits]
  exact ⟨_, Outcome.eq_mk hresult hstate⟩

theorem Decided.altNames_eq {n : Node} {s : σ} {b : Bundle} {a : Action}
    (hc : ∀ d s, (c.anchor.sign d s).result = .ok b → Stored.altNames? b.cert = some d.altNames)
    (h : c.Decided n s b a) : Stored.altNames? b.cert = some (c.subject n).altNames := by
  cases h with
  | issued _ signed => exact hc _ _ signed
  | renewed _ _ signed => exact hc _ _ signed
  | regenerated _ _ _ signed => exact hc _ _ signed
  | reused _ _ fit =>
    have hs : ¬c.Holds b.cert (c.subject n) .subjectChanged := fun hr => by
      have hm : Reason.subjectChanged ∈ c.grounds b.cert (c.subject n) :=
        List.mem_filter.2 ⟨List.mem_cons_self, decide_eq_true hr⟩
      simp [fit] at hm
    exact Decidable.of_not_not hs

theorem Settled.altNames_eq {s : σ} {r : Reconciled} (hc : c.anchor.SignsNamesOf r.certs)
    (h : c.Settled nodes s r) {n : Node} (hn : n ∈ nodes) :
    ∃ b, r.certs.get? n.podName = some b ∧
      Stored.altNames? b.cert = some (c.subject n).altNames := by
  obtain ⟨_, b, a, hb, -, hd⟩ := h.decided_of_mem hn
  exact ⟨b, hb, hd.altNames_eq (hc _ b hb)⟩

theorem Settled.run_quiet {s : σ} {r : Reconciled} (hc : c.anchor.SignsNamesOf r.certs)
    (h : c.Settled nodes s r) {t : Turn τ} (ht : t.Quiet r.certs) (s' : τ) :
    ∃ events, (t.cycle c.subject r.certs).run nodes s' =
      ⟨.ok ⟨r.certs, allReused nodes⟩, events, s'⟩ := by
  have hexisting : (t.cycle c.subject r.certs).existing = r.certs := t.carry_eq r.certs
  have hfits : (t.cycle c.subject r.certs).Fits nodes := by
    intro n hn
    obtain ⟨b, hb, hnames⟩ := h.altNames_eq hc hn
    exact ⟨b, hexisting.symm ▸ hb, ht.grounds_eq_nil hb hnames⟩
  have hrun := run_of_fits ht.steady hfits h.distinct
    (fun pod => by rw [hexisting]; exact h.certs_keys pod) s'
  rwa [hexisting] at hrun

theorem Settled.series_quiet {s : σ} {r : Reconciled} (hc : c.anchor.SignsNames)
    (h : c.Settled nodes s r) {turns : List (Turn τ)} (hquiet : ∀ t ∈ turns, t.Quiet r.certs)
    (s' : τ) :
    ∃ events, series c.subject nodes turns r.certs s' =
      ⟨.ok (List.replicate turns.length ⟨r.certs, allReused nodes⟩), events, s'⟩ := by
  induction turns with
  | nil => exact ⟨[], rfl⟩
  | cons t ts ih =>
    obtain ⟨first, hfirst⟩ := h.run_quiet (hc.of_map r.certs) (hquiet t List.mem_cons_self) s'
    obtain ⟨rest, hrest⟩ := ih fun t ht => hquiet t (List.mem_cons_of_mem _ ht)
    refine ⟨first ++ rest, ?_⟩
    rw [series, hfirst, Outcome.bind_of_ok rfl]
    simp [hrest, Outcome.after, Outcome.map, Except.map, List.replicate_succ]

/-- A cycle that succeeds has reached the fixpoint: whatever it started from, a quiet series of
any length after it succeeds, signs nothing, reports every pod as kept, and ends each cycle with
the very bundles that the first one left. -/
theorem series_fixpoint (c : Cycle σ) (nodes : List Node) (s : σ) (r : Reconciled)
    (hsigns : c.anchor.SignsNames) (hrun : (c.run nodes s).result = .ok r)
    (turns : List (Turn τ)) (hquiet : ∀ t ∈ turns, t.Quiet r.certs) (s' : τ) :
    ∃ reports events,
      series c.subject nodes (turns.map Turn.traced) r.certs (s', []) =
        ⟨.ok reports, events, (s', [])⟩ ∧
      reports.length = turns.length ∧
      ∀ q ∈ reports, q.certs = r.certs ∧ q.changedPods = [] ∧
        ∀ pod, q.actions.get? pod = if pod ∈ nodes.map (·.podName) then some .reused else none := by
  have hsettled := settled_of_run hrun
  have htraced : ∀ t ∈ turns.map Turn.traced, t.Quiet r.certs := by
    intro t ht
    obtain ⟨u, hu, rfl⟩ := List.mem_map.1 ht
    exact (hquiet u hu).traced
  obtain ⟨events, hseries⟩ := hsettled.series_quiet hsigns htraced (s', [])
  refine ⟨_, events, hseries, by simp, fun q hq => ?_⟩
  obtain ⟨-, rfl⟩ := List.mem_replicate.1 hq
  refine ⟨rfl, changedPods_allReused nodes r.certs, fun pod => Option.ext fun a => ?_⟩
  rw [get?_allReused_iff]
  split <;> simp_all [eq_comm]

def sampleCert : Bytes :=
  [0x30, 0x52, 0x30, 0x48, 0x02, 0x01, 0x01, 0x30, 0x03, 0x06, 0x01, 0x2a, 0x30, 0x00, 0x30, 0x1e,
    0x17, 0x0d, 0x32, 0x35, 0x30, 0x31, 0x30, 0x31, 0x30, 0x30, 0x30, 0x30, 0x30, 0x30, 0x5a,
    0x17, 0x0d, 0x32, 0x35, 0x30, 0x31, 0x30, 0x31, 0x30, 0x30, 0x30, 0x30, 0x30, 0x30, 0x5a,
    0x30, 0x00, 0x30, 0x08, 0x30, 0x03, 0x06, 0x01, 0x2a, 0x03, 0x01, 0x00, 0xa3, 0x10, 0x30, 0x0e,
    0x30, 0x0c, 0x06, 0x03, 0x55, 0x1d, 0x11, 0x04, 0x05, 0x30, 0x03, 0x82, 0x01, 0x61, 0x30, 0x03,
    0x06, 0x01, 0x2a, 0x03, 0x01, 0x00]

def sampleBundle : Bundle := { key := ⟨[1]⟩, cert := sampleCert }

def sampleAnchor : Anchor Nat where
  signal := .postponed
  isExpiring _ := true
  sign d k := if d.altNames = SortedSet.ofList ["a"] then ⟨.ok sampleBundle, [], k + 1⟩
    else .fail (.san d.commonName) k

def sampleNodes : List Node := [Node.brokerIn "pool" 1, Node.brokerIn "pool" 0]

def sampleCycle : Cycle Nat where
  anchor := sampleAnchor
  subject _ := { commonName := "node", dnsNames := SortedSet.ofList ["a"] }
  existing :=
    SortedMap.ofList [("pool-0", { key := ⟨[2]⟩, cert := [3] }), ("other-7", sampleBundle)]
  windowOpen := true

def sampleResult : Reconciled where
  certs := SortedMap.ofList [("pool-0", sampleBundle), ("pool-1", sampleBundle)]
  actions := SortedMap.ofList
    [("pool-0", .regenerated [.subjectChanged, .expiring]), ("pool-1", .issued)]

def sampleTurns : List (Turn Nat) :=
  [⟨sampleAnchor, false, false⟩, ⟨{ sampleAnchor with isExpiring := fun _ => false }, true, true⟩]

theorem sampleAnchor_signsNames : sampleAnchor.SignsNames := by
  intro d k b h
  have hcert : Stored.altNames? sampleCert = some (SortedSet.ofList ["a"]) := by decide
  simp only [sampleAnchor] at h
  split at h
  · next hd =>
    cases h
    exact hcert.trans (congrArg some hd.symm)
  · cases h

theorem sampleTurns_quiet : ∀ t ∈ sampleTurns, t.Quiet sampleResult.certs := by
  simp only [sampleTurns, List.mem_cons, List.not_mem_nil, or_false]
  rintro t (rfl | rfl)
  · exact ⟨.inr rfl, rfl, .inr rfl⟩
  · exact ⟨.inr rfl, rfl, .inl fun _ _ _ => rfl⟩

theorem series_fixpoint_sample :
    (sampleCycle.run sampleNodes 0).result = .ok sampleResult ∧
    ∃ reports events,
      series sampleCycle.subject sampleNodes (sampleTurns.map Turn.traced) sampleResult.certs
        (5, []) = ⟨.ok reports, events, (5, [])⟩ ∧
      reports.length = 2 ∧
      ∀ q ∈ reports, q.certs = sampleResult.certs ∧ q.changedPods = [] ∧
        ∀ pod, q.actions.get? pod =
          if pod ∈ sampleNodes.map (·.podName) then some .reused else none := by
  have hrun : (sampleCycle.run sampleNodes 0).result = .ok sampleResult :=
    Except.eq_ok_of_toOption (by decide)
  exact ⟨hrun, series_fixpoint sampleCycle sampleNodes 0 sampleResult sampleAnchor_signsNames hrun
    sampleTurns sampleTurns_quiet 5⟩

end Cycle
end ClusterCerts
