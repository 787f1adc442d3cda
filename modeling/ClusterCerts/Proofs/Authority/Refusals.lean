import ClusterCerts.Proofs.Authority.Issue

/-!
# What an authority refuses

An authority refuses a subject for what it is asked, never for what it draws: an empty common name,
a time of validity that a certificate cannot state, or a DNS name with a character that a
certificate has no place for. With a common name and days of validity within bounds only such a
name is left, once the clock has reached the first year of certificates.
-/

namespace ClusterCerts

def Foreign (name : String) : Prop := ∃ c ∈ name.toList, 128 ≤ c.toNat

instance (name : String) : Decidable (Foreign name) :=
  List.decidableBEx (fun c : Char => 128 ≤ c.toNat) name.toList

namespace Authority

variable {a : Authority} {s : Subject} {days : UInt32} {now : Instant} {e : Entropy}
  {err : Error} {name : String}

theorem foreign_of_foreignName? (h : foreignName? s = some name) :
    name ∈ s.dnsNames ∧ Foreign name := by
  have hforeign := List.find?_some h
  simp only [Bool.not_eq_true', List.all_eq_false, decide_eq_true_eq, Nat.not_lt] at hforeign
  exact ⟨List.mem_of_find?_eq_some h, hforeign⟩

theorem exists_foreignName?_iff :
    (∃ name, foreignName? s = some name) ↔ ∃ name ∈ s.dnsNames, Foreign name := by
  constructor
  · rintro ⟨name, h⟩
    exact ⟨name, foreign_of_foreignName? h⟩
  · rintro ⟨name, hmem, c, hc, hforeign⟩
    rw [← Option.isSome_iff_exists, foreignName?, List.find?_isSome]
    refine ⟨name, hmem, ?_⟩
    simp only [Bool.not_eq_true', List.all_eq_false, decide_eq_true_eq, Nat.not_lt]
    exact ⟨c, hc, hforeign⟩

def refusal? (s : Subject) (days : UInt32) (now : Instant) : Option Error :=
  if s.commonName = "" then some (.validation .emptyCommonName)
  else match Window.ofDays days now with
    | .error fault => some fault
    | .ok w =>
      match foreignName? s with
      | some name => some (.san name)
      | none => if w.Writable then none else some Window.unwritable

theorem issue_error_iff :
    (a.issue s days now e).result = .error err ↔ refusal? s days now = some err := by
  rw [issue, refusal?]
  split
  · simp
  · rw [Outcome.after_result]
    cases Window.ofDays days now with
    | error fault => simp
    | ok w =>
      cases foreignName? s with
      | some name => simp
      | none =>
        simp only
        split_ifs <;> simp

/-- With a common name and days within bounds only a DNS name or too early a clock is refused. -/
theorem refusal?_cases (hname : s.commonName ≠ "") (hdays : days ≠ 0)
    (hlate : ¬Window.EndsLate days now) :
    (∃ name, foreignName? s = some name ∧ refusal? s days now = some (.san name)) ∨
      (yearOfSecond (Window.begins now) < 0 ∧
        ∃ detail, refusal? s days now = some (.generation detail)) ∨
      (0 ≤ yearOfSecond (Window.begins now) ∧ foreignName? s = none ∧
        refusal? s days now = none) := by
  rw [refusal?, if_neg hname]
  rcases Int.lt_or_le (yearOfSecond (Window.begins now)) 0 with hearly | hbegins
  · rcases Window.ofDays_of_early hdays hlate hearly with ⟨detail, hw⟩ | ⟨w, hw, hwritable⟩
    · rw [hw]
      exact .inr (.inl ⟨hearly, detail, rfl⟩)
    · rw [hw]
      cases foreignName? s with
      | some name => exact .inl ⟨name, rfl, rfl⟩
      | none => exact .inr (.inl ⟨hearly, _, if_neg hwritable⟩)
  · obtain ⟨w, hw⟩ := (Window.exists_ofDays_iff hbegins).2 ⟨hdays, hlate⟩
    rw [hw]
    cases foreignName? s with
    | some name => exact .inl ⟨name, rfl, rfl⟩
    | none => exact .inr (.inr ⟨hbegins, rfl, if_pos ((Window.writable_of_ofDays hw).2 hbegins)⟩)

end Authority
end ClusterCerts
