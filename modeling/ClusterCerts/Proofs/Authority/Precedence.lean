import ClusterCerts.Proofs.Authority.Refusals
import ClusterCerts.Proofs.Text.ByteOrder

/-!
# Which refusal comes first

A certificate is issued, and an authority is created, exactly if it has a name, is to be valid for
a day at least, ends with the year 9999 at the latest, and every DNS name is ASCII. Otherwise the
first of these that fails is the error, and of several DNS names that are not ASCII it is the one
that comes first in the order of bytes.
-/

namespace ClusterCerts

theorem Bytes.compare_eq_lt_iff {s t : String} :
    compare s t = .lt ↔ ofString s < ofString t :=
  compareOfLessAndEq_eq_lt.trans ofString_lt_iff.symm

namespace Authority

/-- What a certificate can be made for, with DNS names or without any. -/
structure Acceptable (name : String) (days : UInt32) (now : Instant)
    (dnsNames : SortedSet String) : Prop where
  named : name ≠ ""
  lasting : 1 ≤ days.toNat
  stated : yearOfSecond (now.seconds + 86400 * days.toNat) ≤ 9999
  ascii : ∀ name ∈ dnsNames, ¬Foreign name

structure FirstForeign (dnsNames : SortedSet String) (name : String) : Prop where
  mem : name ∈ dnsNames
  foreign : Foreign name
  least : ∀ other ∈ dnsNames, Foreign other → other ≠ name →
    Bytes.ofString name < Bytes.ofString other

/-- The error for what no certificate can be made for. A cause counts if none before it does. -/
inductive Refused (unnamed : ValidationFault) (name : String) (days : UInt32) (now : Instant)
    (dnsNames : SortedSet String) : Error → Prop
  | unnamed : name = "" → Refused unnamed name days now dnsNames (.validation unnamed)
  | lasting : name ≠ "" → days = 0 →
      Refused unnamed name days now dnsNames (.validation .zeroValidity)
  | late : name ≠ "" → days ≠ 0 → Window.EndsLate days now →
      Refused unnamed name days now dnsNames (.validation (.validityOutOfRange days))
  | foreign (first : String) : name ≠ "" → days ≠ 0 → ¬Window.EndsLate days now →
      FirstForeign dnsNames first → Refused unnamed name days now dnsNames (.san first)

variable {a : Authority} {s : Subject} {name first : String} {days : UInt32} {now : Instant}
  {e : Entropy} {err : Error} {unnamed : ValidationFault} {dnsNames : SortedSet String}

theorem foreign_iff : Foreign name ↔ (!name.toList.all fun c => c.toNat < 128) = true := by
  simp [Foreign]

theorem foreignName?_eq_some_iff : foreignName? s = some first ↔ FirstForeign s.dnsNames first := by
  rw [foreignName?, SortedSet.find?_eq_some_iff]
  simp only [← foreign_iff, Bytes.compare_eq_lt_iff]
  constructor
  · rintro ⟨hmem, hforeign, hleast⟩
    exact ⟨hmem, hforeign, hleast⟩
  · rintro ⟨hmem, hforeign, hleast⟩
    exact ⟨hmem, hforeign, hleast⟩

theorem not_firstForeign_empty : ¬FirstForeign ∅ first := fun h => SortedSet.not_mem_empty _ h.mem

theorem acceptable_iff (hbegins : 0 ≤ yearOfSecond (Window.begins now)) :
    Acceptable name days now dnsNames ↔
      name ≠ "" ∧ (∃ w, Window.ofDays days now = .ok w) ∧ ∀ name ∈ dnsNames, ¬Foreign name := by
  have hpos : 1 ≤ days.toNat ↔ days ≠ 0 := by
    rw [Nat.one_le_iff_ne_zero, ne_eq, ne_eq, ← UInt32.toNat_inj]
    rfl
  rw [Window.exists_ofDays_iff hbegins]
  constructor
  · rintro ⟨hnamed, hlasting, hstated, hascii⟩
    exact ⟨hnamed, ⟨hpos.1 hlasting, Int.not_lt.2 hstated⟩, hascii⟩
  · rintro ⟨hnamed, ⟨hlasting, hstated⟩, hascii⟩
    exact ⟨hnamed, hpos.2 hlasting, Int.not_lt.1 hstated, hascii⟩

theorem refused_iff (hbegins : 0 ≤ yearOfSecond (Window.begins now)) :
    Refused unnamed name days now dnsNames err ↔
      name = "" ∧ err = .validation unnamed ∨ name ≠ "" ∧ (Window.ofDays days now = .error err ∨
        (∃ w, Window.ofDays days now = .ok w) ∧
          ∃ first, FirstForeign dnsNames first ∧ err = .san first) := by
  rw [Window.ofDays_error_iff hbegins, Window.exists_ofDays_iff hbegins]
  constructor
  · intro h
    cases h with
    | unnamed hname => exact .inl ⟨hname, rfl⟩
    | lasting hname hzero => exact .inr ⟨hname, .inl (.inl ⟨hzero, rfl⟩)⟩
    | late hname hdays hlate => exact .inr ⟨hname, .inl (.inr ⟨hdays, hlate, rfl⟩)⟩
    | foreign first hname hdays hlate hfirst =>
      exact .inr ⟨hname, .inr ⟨⟨hdays, hlate⟩, first, hfirst, rfl⟩⟩
  · rintro (⟨hname, rfl⟩ | ⟨hname, (⟨hzero, rfl⟩ | ⟨hdays, hlate, rfl⟩) |
      ⟨⟨hdays, hlate⟩, first, hfirst, rfl⟩⟩)
    · exact .unnamed hname
    · exact .lasting hname hzero
    · exact .late hname hdays hlate
    · exact .foreign first hname hdays hlate hfirst

theorem exists_issue_iff (hbegins : 0 ≤ yearOfSecond (Window.begins now)) :
    (∃ b, (a.issue s days now e).result = .ok b) ↔
      s.commonName ≠ "" ∧ (∃ w, Window.ofDays days now = .ok w) ∧
        ∀ name ∈ s.dnsNames, ¬Foreign name := by
  have hascii : foreignName? s = none ↔ ∀ name ∈ s.dnsNames, ¬Foreign name := by
    rw [← not_iff_not, ← ne_eq, Option.ne_none_iff_exists', exists_foreignName?_iff]
    simp
  simp only [issue_ok_iff, hascii]
  constructor
  · rintro ⟨b, hname, hall, w, hw, -, -⟩
    exact ⟨hname, ⟨w, hw⟩, hall⟩
  · rintro ⟨hname, ⟨w, hw⟩, hall⟩
    exact ⟨_, hname, hall, w, hw, (Window.writable_of_ofDays hw).2 hbegins, rfl⟩

theorem issue_error_iff_window (hbegins : 0 ≤ yearOfSecond (Window.begins now)) :
    (a.issue s days now e).result = .error err ↔
      s.commonName = "" ∧ err = .validation .emptyCommonName ∨ s.commonName ≠ "" ∧
        (Window.ofDays days now = .error err ∨ (∃ w, Window.ofDays days now = .ok w) ∧
          ∃ first, FirstForeign s.dnsNames first ∧ err = .san first) := by
  rw [issue_error_iff, refusal?]
  split_ifs with hname
  · simp [hname, eq_comm]
  · cases hw : Window.ofDays days now with
    | error fault => simp [hname]
    | ok w =>
      have hwritable := (Window.writable_of_ofDays hw).2 hbegins
      cases hforeign : foreignName? s <;>
        simp [hname, hwritable, hforeign, ← foreignName?_eq_some_iff, eq_comm]

theorem exists_create_iff (hbegins : 0 ≤ yearOfSecond (Window.begins now)) :
    (∃ a, (create name days now e).result = .ok a) ↔
      name ≠ "" ∧ ∃ w, Window.ofDays days now = .ok w := by
  constructor
  · rintro ⟨a, h⟩
    obtain ⟨hname, w, hw, -, -⟩ := create_ok_iff.1 h
    exact ⟨hname, w, hw⟩
  · rintro ⟨hname, w, hw⟩
    exact ⟨_, create_ok_iff.2 ⟨hname, w, hw, (Window.writable_of_ofDays hw).2 hbegins, rfl⟩⟩

theorem create_error_iff (hbegins : 0 ≤ yearOfSecond (Window.begins now)) :
    (create name days now e).result = .error err ↔
      name = "" ∧ err = .validation .emptyCaName ∨
        name ≠ "" ∧ Window.ofDays days now = .error err := by
  rw [create, Outcome.after_result]
  split_ifs with hname
  · simp [hname, eq_comm]
  · cases hw : Window.ofDays days now with
    | error fault => simp [hname]
    | ok w => simp [hname, (Window.writable_of_ofDays hw).2 hbegins]

/-- Since 1970, a certificate is issued and an authority is created exactly for what is acceptable,
and otherwise the first cause is the error; no number of days makes the arithmetic of the window
overflow, an end beyond the calendar counts as one after the year 9999, and the window is that of
arithmetic without bounds. -/
theorem succeeds_iff_acceptable (hclock : 0 ≤ now.seconds) :
    (∀ (a : Authority) (s : Subject) (days : UInt32) (e : Entropy),
      ((∃ b, (a.issue s days now e).result = .ok b) ↔
        Acceptable s.commonName days now s.dnsNames) ∧
      ∀ err, (a.issue s days now e).result = .error err ↔
        Refused .emptyCommonName s.commonName days now s.dnsNames err) ∧
    (∀ (name : String) (days : UInt32) (e : Entropy),
      ((∃ a, (create name days now e).result = .ok a) ↔ Acceptable name days now ∅) ∧
      ∀ err, (create name days now e).result = .error err ↔
        Refused .emptyCaName name days now ∅ err) ∧
    ∀ days : UInt32, spanOfDays? days = some (86400 * days.toNat : Int) ∧
      Window.ofDays days now =
        if days = 0 then .error (.validation .zeroValidity)
        else if Window.EndsLate days now then .error (.validation (.validityOutOfRange days))
        else .ok ⟨now.seconds + now.leap - 3600, now.seconds + 86400 * days.toNat⟩ := by
  have hbegins := Window.zero_le_year_begins hclock
  refine ⟨fun a s days e => ⟨?_, fun err => ?_⟩, fun name days e => ⟨?_, fun err => ?_⟩,
    fun days => ⟨spanOfDays?_eq days, Window.ofDays_eq hbegins days⟩⟩
  · rw [exists_issue_iff hbegins, acceptable_iff hbegins]
  · rw [issue_error_iff_window hbegins, refused_iff hbegins]
  · rw [exists_create_iff hbegins, acceptable_iff hbegins]
    simp
  · rw [create_error_iff hbegins, refused_iff hbegins]
    simp [not_firstForeign_empty]

def sampleEve : Instant := ⟨253402214399, 999999999, by decide, by decide⟩

def sampleForeign : Subject where
  commonName := "node"
  dnsNames := SortedSet.ofList ["zürich", "kafka", "käfka"]

theorem firstForeign_sample : FirstForeign sampleForeign.dnsNames "käfka" where
  mem := by decide
  foreign := by decide
  least := by decide

/-- One day more is accepted and two days are not; the longest validity ends beyond the calendar. -/
theorem succeeds_iff_acceptable_sample :
    0 ≤ sampleEve.seconds ∧
    (∃ b, (sampleAuthority.issue sampleSubject 1 sampleEve { seed := [7] }).result = .ok b) ∧
    (sampleAuthority.issue sampleForeign 2 sampleEve { seed := [7] }).result =
      .error (.validation (.validityOutOfRange 2)) ∧
    (sampleAuthority.issue sampleForeign 1 sampleEve { seed := [7] }).result =
      .error (.san "käfka") ∧
    (create "ca" 4294967295 sampleEve { seed := [7] }).result =
      .error (.validation (.validityOutOfRange 4294967295)) ∧
    (create "" 0 sampleEve { seed := [7] }).result = .error (.validation .emptyCaName) := by
  have hclock : 0 ≤ sampleEve.seconds := by decide
  obtain ⟨hissue, hcreate, -⟩ := succeeds_iff_acceptable hclock
  refine ⟨hclock, (hissue _ _ _ _).1.2 ⟨?_, ?_, ?_, ?_⟩, ((hissue _ _ _ _).2 _).2 ?_,
    ((hissue _ _ _ _).2 _).2 ?_, ((hcreate _ _ _).2 _).2 ?_, ((hcreate _ _ _).2 _).2 ?_⟩
  · decide
  · decide
  · decide
  · decide
  · exact .late (by decide) (by decide) (by decide)
  · exact .foreign _ (by decide) (by decide) (by decide) firstForeign_sample
  · exact .late (by decide) (by decide) (by decide)
  · exact .unnamed rfl

end Authority
end ClusterCerts
