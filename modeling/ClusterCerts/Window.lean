import ClusterCerts.Error
import ClusterCerts.Instant

/-!
# Windows of validity

The time in which a certificate is valid. It begins an hour ago, for clocks that are late, and its
end has to be a time that a certificate can state. Days are counted with words of 64 bits and the
ends with instants, of which there are no more than the calendar has; no number of days makes a
word overflow.
-/

namespace ClusterCerts

structure Window where
  notBefore : Int
  notAfter : Int
deriving DecidableEq, Repr

def word? (n : Int) : Option Int :=
  if -9223372036854775808 ≤ n ∧ n ≤ 9223372036854775807 then some n else none

/-- A number of days in seconds. Its milliseconds have to be a word as well. -/
def spanOfDays? (days : UInt32) : Option Int := do
  let seconds ← word? (86400 * days.toNat)
  let _ ← word? (1000 * seconds)
  return seconds

theorem spanOfDays?_eq (days : UInt32) : spanOfDays? days = some (86400 * days.toNat : Int) := by
  have hdays := days.toNat_lt
  have hseconds : word? (86400 * days.toNat) = some (86400 * days.toNat : Int) :=
    if_pos (by omega)
  have hmillis : word? (1000 * (86400 * days.toNat)) = some (1000 * (86400 * days.toNat) : Int) :=
    if_pos (by omega)
  rw [spanOfDays?, hseconds, Option.bind_eq_bind, Option.bind_some, hmillis]
  rfl

def spanOfDays (days : UInt32) : Int :=
  (spanOfDays? days).get (by rw [spanOfDays?_eq]; rfl)

@[simp] theorem spanOfDays_eq (days : UInt32) : spanOfDays days = 86400 * days.toNat := by
  simp only [spanOfDays, spanOfDays?_eq, Option.get_some]

namespace Window

/-- A second as a time of a certificate, which has four digits for the year, and a sign. -/
def timestamp (t : Instant) : Except Error Int :=
  if -9999 ≤ t.year ∧ t.year ≤ 9999 then .ok t.seconds
  else .error (.generation "invalid timestamp")

def ofDays (days : UInt32) (now : Instant) : Except Error Window :=
  if days = 0 then .error (.validation .zeroValidity)
  else match now.shift? (-3600) with
    | none => .error (.generation "invalid start of validity")
    | some start =>
      match (now.shift? (spanOfDays days)).filter fun stop => stop.year ≤ 9999 with
      | none => .error (.validation (.validityOutOfRange days))
      | some stop => do
        let notBefore ← timestamp start
        let notAfter ← timestamp stop
        return ⟨notBefore, notAfter⟩

/-- The bytes of a certificate have no sign for a year: what begins before the year 0 cannot be
written. -/
def Writable (w : Window) : Prop := 0 ≤ yearOfSecond w.notBefore

instance (w : Window) : Decidable w.Writable := inferInstanceAs (Decidable (_ ≤ _))

/-- The end of a program that writes a time before the year 0. -/
def unwritable : Error := .generation "no certificate can state a time before the year 0"

end Window
end ClusterCerts
