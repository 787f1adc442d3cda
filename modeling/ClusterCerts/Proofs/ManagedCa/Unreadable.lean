import ClusterCerts.ManagedCa
import ClusterCerts.Proofs.Authority.Issue
import ClusterCerts.Proofs.Calendar.DayNumber
import ClusterCerts.Proofs.Cycle.Fixpoint
import Mathlib.Data.Option.Basic

/-!
# Certificates that cannot be read

A managed CA takes a certificate whose end of validity it cannot tell for one that stays. This is
safe: the end of validity and the alternative names are read from the same certificate, so one that
does not give its end does not give its names, and a cycle replaces it for that reason. An end of
validity that is read has a year of four digits, and so is an instant.
-/

namespace ClusterCerts

theorem CivilTime.seconds_mem {t : CivilTime} {first last : Int} (h : t.IsReal)
    (hfirst : first ≤ t.year) (hlast : t.year < last) :
    86400 * (⟨first, 1, 1⟩ : Date).dayNumber ≤ t.seconds ∧
      t.seconds < 86400 * (⟨last, 1, 1⟩ : Date).dayNumber := by
  obtain ⟨hdate, hhour, hminute, hsecond⟩ := h
  obtain ⟨hstart, hend⟩ := Date.dayNumber_mem_year hdate
  have hlow := Date.dayNumber_newYear_mono hfirst
  have hhigh := Date.dayNumber_newYear_mono (Int.add_one_le_of_lt hlast)
  unfold seconds
  omega

namespace Der

variable {bytes r : Bytes} {a b : UInt8} {n : Nat} {s y offset : Int} {t : CivilTime}

def InFourDigits (s : Int) : Prop := -62167219200 ≤ s ∧ s < 253402300800

theorem InFourDigits.year (h : InFourDigits s) : 0 ≤ yearOfSecond s ∧ yearOfSecond s ≤ 9999 := by
  have hfirst : yearOfSecond (-62167219200) = 0 := by decide
  have hlast : yearOfSecond 253402300799 = 9999 := by decide
  have hlow := yearOfSecond_mono h.1
  have hhigh := yearOfSecond_mono (Int.le_sub_one_of_lt h.2)
  exact ⟨hfirst ▸ hlow, hlast ▸ hhigh⟩

theorem InFourDigits.isSome_ofSeconds? (h : InFourDigits s) : (Instant.ofSeconds? s).isSome := by
  unfold InFourDigits at h
  unfold Instant.ofSeconds? Instant.ofParts?
  rw [dif_pos (by omega), dif_pos (.inl (by decide))]
  rfl

theorem twoDigits_le (h : twoDigits a b = some n) : n ≤ 99 := by
  unfold twoDigits at h
  split at h
  · cases h
    omega
  · cases h

theorem year_of_dateAndMinute (h : dateAndMinute y bytes = some (t, r)) : t.year = y := by
  unfold dateAndMinute at h
  split at h
  · simp only [Option.bind_eq_bind, Option.bind_eq_some_iff] at h
    obtain ⟨month, -, day, -, hour, -, minute, -, heq⟩ := h
    cases heq
    rfl
  · cases h

theorem offset?_mem (h : offset? bytes = some offset) : -93540 ≤ offset ∧ offset ≤ 93540 := by
  unfold offset? at h
  split at h
  · cases h
    decide
  · simp only [Option.bind_eq_bind, Option.bind_eq_some_iff] at h
    obtain ⟨hours, -, minutes, -, _, hguard, h⟩ := h
    rw [Option.guard_eq_some'] at hguard
    split at h
    · cases h
      omega
    · split at h
      · cases h
        split <;> omega
      · cases h
  · cases h

theorem inFourDigits_of_shortTime? (h : shortTime? bytes = some s) : InFourDigits s := by
  unfold shortTime? at h
  split at h
  · simp only [Option.bind_eq_bind, Option.bind_eq_some_iff] at h
    obtain ⟨y, hy, ⟨t, rest⟩, ht, _, hreal, offset, hoffset, heq⟩ := h
    rw [Option.guard_eq_some'] at hreal
    have hyear := year_of_dateAndMinute ht
    have hcentury : 1950 ≤ t.year ∧ t.year < 2050 := by
      have hle := twoDigits_le hy
      rw [hyear]
      split <;> omega
    have hseconds := CivilTime.seconds_mem hreal hcentury.1 hcentury.2
    have hshift := offset?_mem hoffset
    cases heq
    have hfirst : (⟨1950, 1, 1⟩ : Date).dayNumber = -7305 := by decide
    have hlast : (⟨2050, 1, 1⟩ : Date).dayNumber = 29220 := by decide
    unfold InFourDigits
    simp only at hseconds ⊢
    omega
  · cases h

theorem inFourDigits_of_longTime? (h : longTime? bytes = some s) : InFourDigits s := by
  unfold longTime? at h
  split at h
  · simp only [Option.bind_eq_bind, Option.bind_eq_some_iff] at h
    obtain ⟨century, hcentury, y, hy, ⟨t, rest⟩, ht, h⟩ := h
    have hyear := year_of_dateAndMinute ht
    have hfour : 0 ≤ t.year ∧ t.year < 10000 := by
      have hcentury := twoDigits_le hcentury
      have hy := twoDigits_le hy
      omega
    have hreal {second : Nat} (h : CivilTime.IsReal { t with second }) :
        InFourDigits (CivilTime.seconds { t with second }) := by
      have hseconds := CivilTime.seconds_mem h hfour.1 hfour.2
      have hfirst : (⟨0, 1, 1⟩ : Date).dayNumber = -719528 := by decide
      have hlast : (⟨10000, 1, 1⟩ : Date).dayNumber = 2932897 := by decide
      unfold InFourDigits
      omega
    -- Seconds that are left out are zero, so both forms end in a real time.
    split at h
    all_goals
      obtain ⟨⟨second, rest'⟩, -, h⟩ := Option.bind_eq_some_iff.1 h
      obtain ⟨_, hguard, h⟩ := Option.bind_eq_some_iff.1 h
      obtain ⟨_, -, heq⟩ := Option.bind_eq_some_iff.1 h
      cases heq
      exact hreal ((Option.guard_eq_some' _).1 hguard)
  · cases h

theorem inFourDigits_of_time (h : time bytes = some (s, r)) : InFourDigits s := by
  simp only [time, Option.bind_eq_bind, Option.bind_eq_some_iff] at h
  obtain ⟨⟨e, rest⟩, -, h⟩ := h
  split at h
  · obtain ⟨ends, hends, heq⟩ := Option.bind_eq_some_iff.1 h
    cases heq
    exact inFourDigits_of_shortTime? hends
  · split at h
    · obtain ⟨ends, hends, heq⟩ := Option.bind_eq_some_iff.1 h
      cases heq
      exact inFourDigits_of_longTime? hends
    · cases h

end Der

namespace Certificate

variable {bytes r : Bytes} {c : Certificate}

theorem inFourDigits_of_readValidity {times : Int × Int}
    (h : readValidity bytes = some (times, r)) : Der.InFourDigits times.2 := by
  simp only [readValidity, Option.bind_eq_bind, Option.bind_eq_some_iff] at h
  obtain ⟨_, -, _, -, ⟨ends, rest⟩, hends, heq⟩ := h
  cases heq
  exact Der.inFourDigits_of_time hends

theorem inFourDigits_of_body? (h : body? bytes = some c) : Der.InFourDigits c.notAfter := by
  simp only [body?, Option.bind_eq_bind, Option.bind_eq_some_iff] at h
  obtain ⟨_, -, _, -, _, -, _, -, ⟨times, rest⟩, hvalidity, h⟩ := h
  obtain ⟨_, -, _, -, _, -, _, -, _, -, heq⟩ := h
  cases heq
  exact inFourDigits_of_readValidity hvalidity

theorem inFourDigits_of_ofDer? (h : ofDer? bytes = some c) : Der.InFourDigits c.notAfter := by
  simp only [ofDer?, Option.bind_eq_bind, Option.bind_eq_some_iff] at h
  obtain ⟨_, -, _, -, read, hbody, _, -, _, -, heq⟩ := h
  cases heq
  exact inFourDigits_of_body? hbody

end Certificate

namespace Stored

variable {cert : Bytes} {days : UInt32} {now : Instant} {e : Error}

theorem inFourDigits_of_notAfter {ends : Int} (h : notAfter cert = .ok ends) :
    Der.InFourDigits ends := by
  cases hcert : certificate cert with
  | error e =>
    rw [notAfter, hcert] at h
    cases h
  | ok c =>
    rw [notAfter_of_certificate hcert] at h
    cases h
    unfold certificate at hcert
    cases hder : der cert with
    | error e =>
      rw [hder] at hcert
      cases hcert
    | ok bytes =>
      simp only [hder, bind, Except.bind] at hcert
      split at hcert
      · next hread =>
        cases hcert
        exact Certificate.inFourDigits_of_ofDer? hread
      · cases hcert

theorem isExpiringAt_error_iff :
    isExpiringAt cert days now = .error e ↔ certificate cert = .error e := by
  cases hcert : certificate cert with
  | error e' =>
    rw [isExpiringAt, notAfter, hcert]
    simp only [bind, Except.bind, Except.error.injEq]
  | ok c =>
    rw [isExpiringAt, notAfter_of_certificate hcert]
    simp only [bind, Except.bind]
    split <;> simp [pure, Except.pure]

theorem altNames?_of_error (h : certificate cert = .error e) : altNames? cert = none := by
  rw [altNames?_eq, h]
  rfl

theorem subjectChanged_of_error (h : certificate cert = .error e) (desired : Subject) :
    subjectChanged cert desired = true := by
  rw [subjectChanged, altNames?_of_error h]
  rfl

end Stored

namespace Cycle

variable {σ : Type} {c : Cycle σ} {n : Node} {nodes : List Node} {s : σ} {b old : Bundle}
  {a : Action} {r : Reconciled} {e : Error}

theorem subjectChanged_mem_grounds (h : Stored.certificate old.cert = .error e)
    (desired : Subject) : .subjectChanged ∈ c.grounds old.cert desired := by
  have hholds : c.Holds old.cert desired .subjectChanged := by
    rw [Holds, Stored.altNames?_of_error h]
    exact Option.some_ne_none _ ∘ Eq.symm
  exact List.mem_filter.2 ⟨List.mem_cons_self, decide_eq_true hholds⟩

theorem Decided.replaces_unreadable (hd : c.Decided n s b a)
    (hold : c.existing.get? n.podName = some old) (h : Stored.certificate old.cert = .error e) :
    (c.anchor.sign (c.subject n) s).result = .ok b ∧
      (a = .renewed ∨ ∃ reasons, a = .regenerated reasons ∧ .subjectChanged ∈ reasons) := by
  have hchanged := subjectChanged_mem_grounds (c := c) h (c.subject n)
  cases hd with
  | issued absent _ =>
    rw [hold] at absent
    cases absent
  | renewed _ _ signed => exact ⟨signed, .inl rfl⟩
  | reused stored _ fit =>
    rw [hold] at stored
    cases stored
    rw [fit] at hchanged
    cases hchanged
  | regenerated stored _ _ signed =>
    rw [hold] at stored
    cases stored
    exact ⟨signed, .inr ⟨_, rfl, hchanged⟩⟩

end Cycle

namespace ManagedCa

/-- If it cannot be told whether a certificate is near its end, then its names cannot be told
either, and a cycle replaces it, whatever the CA, the window and the desired subject are. -/
theorem unreadable_replaced (cert : Bytes) (days : UInt32) (now : Instant) :
    (∀ e, Stored.isExpiringAt cert days now = .error e →
      (∀ ca : ManagedCa, ca.settings.renewalDays = days → ca.isExpiringAt cert now = false) ∧
      Stored.altNames? cert = none ∧
      (∀ desired, Stored.subjectChanged cert desired = true) ∧
      ∀ (σ : Type) (c : Cycle σ) (nodes : List Node) (s : σ) (r : Reconciled),
        (c.run nodes s).result = .ok r →
        ∀ n ∈ nodes, ∀ old, c.existing.get? n.podName = some old → old.cert = cert →
        ∃ a b s', r.actions.get? n.podName = some a ∧ r.certs.get? n.podName = some b ∧
          (c.anchor.sign (c.subject n) s').result = .ok b ∧
          (a = .renewed ∨ ∃ reasons, a = .regenerated reasons ∧ .subjectChanged ∈ reasons)) ∧
    ∀ ends, Stored.notAfter cert = .ok ends →
      0 ≤ yearOfSecond ends ∧ yearOfSecond ends ≤ 9999 ∧ (Instant.ofSeconds? ends).isSome := by
  constructor
  · intro e he
    have hcert := Stored.isExpiringAt_error_iff.1 he
    refine ⟨?_, Stored.altNames?_of_error hcert, Stored.subjectChanged_of_error hcert, ?_⟩
    · rintro ca rfl
      rw [isExpiringAt, he]
    · rintro σ c nodes s r hrun n hn old hold rfl
      obtain ⟨s', b, a, hb, ha, hd⟩ := (Cycle.settled_of_run hrun).decided_of_mem hn
      obtain ⟨hsigned, haction⟩ := hd.replaces_unreadable hold hcert
      exact ⟨a, b, s', ha, hb, hsigned, haction⟩
  · intro ends hends
    have hfour := Stored.inFourDigits_of_notAfter hends
    exact ⟨hfour.year.1, hfour.year.2, hfour.isSome_ofSeconds?⟩

theorem unreadable_replaced_sample :
    (∃ e, Stored.isExpiringAt [3] 30 Authority.sampleNow = .error e) ∧
    Stored.altNames? [3] = none ∧
    ∃ reasons, Cycle.sampleResult.actions.get? "pool-0" = some (.regenerated reasons) ∧
      .subjectChanged ∈ reasons := by
  have herror : Stored.isExpiringAt [3] 30 Authority.sampleNow = .error (.parse .certificate) := rfl
  have hrun : (Cycle.sampleCycle.run Cycle.sampleNodes 0).result = .ok Cycle.sampleResult :=
    Except.eq_ok_of_toOption (by decide)
  obtain ⟨-, hnames, -, hcycle⟩ := (unreadable_replaced [3] 30 Authority.sampleNow).1 _ herror
  refine ⟨⟨_, herror⟩, hnames, ?_⟩
  obtain ⟨a, b, s', ha, -, -, hrenewed | ⟨reasons, rfl, hchanged⟩⟩ := hcycle Nat Cycle.sampleCycle
    Cycle.sampleNodes 0 Cycle.sampleResult hrun (Node.brokerIn "pool" 0) (by decide)
    { key := ⟨[2]⟩, cert := [3] } (by decide) rfl
  · rw [hrenewed] at ha
    exact absurd ha (by decide)
  · exact ⟨reasons, ha, hchanged⟩

end ManagedCa

end ClusterCerts
