import ClusterCerts.Instant
import Mathlib.Tactic.SplitIfs

/-!
# Instants some seconds apart

An instant moves by whole seconds to the second so far away, unless there is no such instant. A
leap second belongs to the second before it for what comes later and to the one after it for what
comes earlier.
-/

namespace ClusterCerts.Instant

variable {t u : Instant} {span : Int}

theorem ofParts?_of_mem {seconds : Int} {nanos : Nat}
    (hs : -8334601228800 ≤ seconds ∧ seconds ≤ 8210266876799) (hn : nanos < 1000000000) :
    ofParts? seconds nanos = some ⟨seconds, nanos, hs, .inl hn⟩ := by
  rw [ofParts?, dif_pos hs, dif_pos (.inl hn)]

theorem ofParts?_of_late {seconds : Int} (h : 8210266876799 < seconds) (nanos : Nat) :
    ofParts? seconds nanos = none := by
  rw [ofParts?, dif_neg (by omega)]

theorem seconds_of_ofParts? {seconds : Int} {nanos : Nat} (h : ofParts? seconds nanos = some u) :
    u.seconds = seconds := by
  unfold ofParts? at h
  split_ifs at h
  cases h
  rfl

theorem leap_le (t : Instant) : t.leap ≤ 1 := by
  have hnanos := t.nanos_lt
  unfold leap
  omega

theorem seconds_of_shift?_forward (hspan : 0 < span) (h : t.shift? span = some u) :
    u.seconds = t.seconds + span := by
  unfold shift? at h
  split_ifs at h
  · exact seconds_of_ofParts? h
  · exact seconds_of_ofParts? h

theorem seconds_of_shift?_back (hspan : span < 0) (h : t.shift? span = some u) :
    u.seconds = t.seconds + t.leap + span := by
  have hnanos := t.nanos_lt
  unfold shift? at h
  unfold leap
  split_ifs at h
  · have hseconds := seconds_of_ofParts? h
    omega
  · omega
  · have hseconds := seconds_of_ofParts? h
    omega

theorem shift?_forward (hspan : 0 < span) (hlast : t.seconds + span ≤ 8210266876799) :
    ∃ u, t.shift? span = some u := by
  have hfirst := t.seconds_mem.1
  have hnanos := t.nanos_lt
  unfold shift?
  split_ifs
  · exact ⟨_, ofParts?_of_mem ⟨by omega, hlast⟩ (by omega)⟩
  · exact ⟨_, ofParts?_of_mem ⟨by omega, hlast⟩ (by omega)⟩

theorem shift?_past_end (hspan : 0 < span) (hlast : 8210266876799 < t.seconds + span) :
    t.shift? span = none := by
  unfold shift?
  split_ifs
  · exact ofParts?_of_late hlast _
  · exact ofParts?_of_late hlast _

theorem shift?_back (hspan : span < 0) (hfirst : -8334601228800 ≤ t.seconds + span) :
    ∃ u, t.shift? span = some u := by
  have hlast := t.seconds_mem.2
  have hnanos := t.nanos_lt
  unfold shift?
  split_ifs
  · exact ⟨_, ofParts?_of_mem ⟨by omega, by omega⟩ (by omega)⟩
  · omega
  · exact ⟨_, ofParts?_of_mem ⟨by omega, by omega⟩ (by omega)⟩

end ClusterCerts.Instant
