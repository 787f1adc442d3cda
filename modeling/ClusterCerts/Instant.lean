import ClusterCerts.Calendar

/-!
# Instants

Points in time to the nanosecond, over the years -262143 to 262142. A leap second is the last
second of its minute with a thousand million nanoseconds or more; no other second of a minute
can be one. Instants are ordered by second, then by nanosecond.
-/

namespace ClusterCerts

structure Instant where
  seconds : Int
  nanos : Nat
  seconds_mem : -8334601228800 ≤ seconds ∧ seconds ≤ 8210266876799
  /-- Only the last second of a minute can be a leap second. -/
  nanos_lt : nanos < 1000000000 ∨ (nanos < 2000000000 ∧ seconds % 60 = 59)
deriving DecidableEq

namespace Instant

def ofParts? (seconds : Int) (nanos : Nat) : Option Instant :=
  if hs : -8334601228800 ≤ seconds ∧ seconds ≤ 8210266876799 then
    if hn : nanos < 1000000000 ∨ (nanos < 2000000000 ∧ seconds % 60 = 59) then
      some ⟨seconds, nanos, hs, hn⟩
    else none
  else none

def ofSeconds? (seconds : Int) : Option Instant := ofParts? seconds 0

def Before (a b : Instant) : Prop :=
  a.seconds < b.seconds ∨ (a.seconds = b.seconds ∧ a.nanos < b.nanos)

instance (a b : Instant) : Decidable (a.Before b) := by unfold Before; infer_instance

/-- The civil time of an instant. The second of a leap second is 60. -/
def civil (t : Instant) : CivilTime :=
  let c := CivilTime.ofSeconds t.seconds
  { c with second := c.second + t.nanos / 1000000000 }

def year (t : Instant) : Int := yearOfSecond t.seconds

def leap (t : Instant) : Nat := t.nanos / 1000000000

/-- The instant so many seconds later, if there is one. From a leap second, time goes forward as
from the second before it and back as from the second after it. -/
def shift? (t : Instant) (span : Int) : Option Instant :=
  if t.nanos < 1000000000 ∨ span = 0 then ofParts? (t.seconds + span) t.nanos
  else if 0 < span then ofParts? (t.seconds + span) (t.nanos - 1000000000)
  else ofParts? (t.seconds + 1 + span) (t.nanos - 1000000000)

example : (⟨-262143, 1, 1⟩ : Date).dayNumber * 86400 = -8334601228800 := rfl
example : ((⟨262142, 12, 31⟩ : Date).dayNumber + 1) * 86400 - 1 = 8210266876799 := rfl

end Instant
end ClusterCerts
