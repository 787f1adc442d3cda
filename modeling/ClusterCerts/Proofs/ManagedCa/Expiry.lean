import ClusterCerts.Proofs.ManagedCa.Horizon
import ClusterCerts.Proofs.ManagedCa.Unreadable
import Mathlib.Data.Prod.Lex

/-!
# The test for the end of validity

A certificate is due at an instant if that comes after the beginning of the second that lies the
days of renewal before its end, counted without bounds. That second need not be one that an
instant has: then every instant comes after it.
-/

namespace ClusterCerts

namespace Instant

variable {t t' : Instant} {second second' : Int}

theorem after_iff_lex : t.After second ↔ toLex (second, 0) < toLex (t.seconds, t.nanos) := by
  rw [Prod.Lex.toLex_lt_toLex]
  rfl

theorem After.mono (h : t.After second) (hsecond : second' ≤ second) (hlater : ¬t'.Before t) :
    t'.After second' := by
  unfold After Before at *
  omega

end Instant

namespace Stored

variable {cert : Bytes} {ends : Int}

theorem isExpiringAt_eq_after (h : notAfter cert = .ok ends) (days : UInt32) (now : Instant) :
    isExpiringAt cert days now = .ok (decide (now.After (ends - 86400 * days.toNat))) := by
  have hlast : ends < 253402300800 := (inFourDigits_of_notAfter h).2
  exact isExpiringAt_of_notAfter h (by omega) now

theorem isExpiringAt_eq_true_iff (h : notAfter cert = .ok ends) (days : UInt32) (now : Instant) :
    isExpiringAt cert days now = .ok true ↔ now.After (ends - 86400 * days.toNat) := by
  rw [isExpiringAt_eq_after h, Except.ok.injEq, decide_eq_true_eq]

/-- Where the end of validity reads, the test gives the answer of unbounded arithmetic, and once it
is yes it stays so for every later instant and for more days of renewal. -/
theorem isExpiringAt_exact (h : notAfter cert = .ok ends) :
    (∀ (days : UInt32) (now : Instant), ∃ due, isExpiringAt cert days now = .ok due ∧
      (due = true ↔
        toLex (ends - 86400 * (days.toNat : Int), 0) < toLex (now.seconds, now.nanos))) ∧
    ∀ (days days' : UInt32) (now now' : Instant), isExpiringAt cert days now = .ok true →
      days ≤ days' → ¬now'.Before now → isExpiringAt cert days' now' = .ok true := by
  refine ⟨fun days now => ⟨_, isExpiringAt_eq_after h days now, ?_⟩, ?_⟩
  · rw [decide_eq_true_eq, Instant.after_iff_lex]
  · intro days days' now now' hdue hdays hlater
    have hmore := UInt32.le_iff_toNat_le.1 hdays
    rw [isExpiringAt_eq_true_iff h] at hdue ⊢
    exact hdue.mono (by omega) hlater

def sampleCert : Bytes :=
  (sampleSigned (brokerSubject sampleNaming {} (Node.brokerIn "p" 0))).cert

theorem notAfter_sampleCert : notAfter sampleCert = .ok 2555536000 := by
  have hn : Node.brokerIn "p" 0 ∈ samplePool := by simp [samplePool]
  obtain ⟨hissue, hlength⟩ := issued_samplePool hn
  exact (Authority.notAfter_of_issue hissue hlength).1

/-- At the threshold to the nanosecond, in a leap second before it, and with a threshold before the
first instant of all. -/
theorem isExpiringAt_exact_sample :
    notAfter sampleCert = .ok 2555536000 ∧
    isExpiringAt sampleCert 30 ⟨2552944000, 0, by decide, by decide⟩ = .ok false ∧
    isExpiringAt sampleCert 30 ⟨2552944000, 1, by decide, by decide⟩ = .ok true ∧
    isExpiringAt sampleCert 0 ⟨2555535959, 1999999999, by decide, by decide⟩ = .ok false ∧
    isExpiringAt sampleCert 4294967295 ⟨-8334601228800, 0, by decide, by decide⟩ = .ok true := by
  have hexact := (isExpiringAt_exact notAfter_sampleCert).1
  have hanswer (days : UInt32) (now : Instant) (due : Bool)
      (hdue : due = true ↔
        toLex ((2555536000 : Int) - 86400 * days.toNat, 0) < toLex (now.seconds, now.nanos)) :
      isExpiringAt sampleCert days now = .ok due := by
    obtain ⟨due', heq, hiff⟩ := hexact days now
    rw [heq, Bool.eq_iff_iff.2 (hiff.trans hdue.symm)]
  refine ⟨notAfter_sampleCert, hanswer _ _ _ ?_, hanswer _ _ _ ?_, hanswer _ _ _ ?_,
    hanswer _ _ _ ?_⟩ <;>
  · rw [Prod.Lex.toLex_lt_toLex]
    decide

end Stored
end ClusterCerts
