import ClusterCerts.Text.Bytes

/-!
# Addresses

IP addresses of both families, their order and their bytes on the wire. Every IPv4 address
comes before every IPv6 address, and within a family the order is that of the value.
-/

namespace ClusterCerts

inductive Address
  | v4 (octets : List UInt8) (length_eq : octets.length = 4)
  | v6 (groups : List UInt16) (length_eq : groups.length = 8)
deriving DecidableEq

namespace Address

def rank : Address → List Nat
  | v4 octets _ => 4 :: octets.map UInt8.toNat
  | v6 groups _ => 6 :: groups.map UInt16.toNat

theorem rank_injective {a b : Address} (h : a.rank = b.rank) : a = b := by
  cases a <;> cases b <;> simp only [rank, List.cons.injEq] at h
  · simpa using List.map_inj_right (fun _ _ => UInt8.toNat.inj) |>.1 h.2
  · exact absurd h.1 (by decide)
  · exact absurd h.1 (by decide)
  · simpa using List.map_inj_right (fun _ _ => UInt16.toNat.inj) |>.1 h.2

instance : Ord Address := ⟨fun a b => compare a.rank b.rank⟩

theorem compare_eq (a b : Address) : compare a b = compare a.rank b.rank := rfl

instance : Std.TransOrd Address where
  eq_swap {a b} := by
    rw [compare_eq, compare_eq]
    exact Std.OrientedCmp.eq_swap
  isLE_trans {a b c} h₁ h₂ := by
    rw [compare_eq] at h₁ h₂ ⊢
    exact Std.TransCmp.isLE_trans h₁ h₂

instance : Std.LawfulEqOrd Address where
  compare_self := Std.ReflOrd.compare_self (α := List Nat)
  eq_of_compare h := rank_injective (Std.LawfulEqCmp.eq_of_compare h)

def toBytes : Address → Bytes
  | v4 octets _ => octets
  | v6 groups _ => groups.flatMap fun g => Bytes.ofNat 2 g.toNat

def groupsOfBytes : Bytes → List UInt16
  | a :: b :: r => UInt16.ofNat (a.toNat * 256 + b.toNat) :: groupsOfBytes r
  | _ => []

def ofBytes? (b : Bytes) : Option Address :=
  if h : b.length = 4 then some (v4 b h)
  else if b.length = 16 then
    let groups := groupsOfBytes b
    if h : groups.length = 8 then some (v6 groups h) else none
  else none

theorem groupsOfBytes_flatMap (groups : List UInt16) :
    groupsOfBytes (groups.flatMap fun g => Bytes.ofNat 2 g.toNat) = groups := by
  induction groups with
  | nil => rfl
  | cons g groups ih =>
    have hg := g.toNat_lt
    have hpair : UInt16.ofNat ((UInt8.ofNat (g.toNat / 256)).toNat * 256 +
        (UInt8.ofNat g.toNat).toNat) = g := by
      apply UInt16.toNat_inj.1
      simp
      omega
    have htwo : Bytes.ofNat 2 g.toNat = [UInt8.ofNat (g.toNat / 256), UInt8.ofNat g.toNat] := rfl
    rw [List.flatMap_cons, htwo, List.cons_append, List.cons_append, List.nil_append, groupsOfBytes,
      hpair, ih]

theorem length_flatMap_groups (groups : List UInt16) :
    (groups.flatMap fun g => Bytes.ofNat 2 g.toNat).length = 2 * groups.length := by
  induction groups with
  | nil => rfl
  | cons g groups ih =>
    rw [List.flatMap_cons, List.length_append, ih, Bytes.length_ofNat, List.length_cons]
    omega

theorem ofBytes?_toBytes (a : Address) : ofBytes? a.toBytes = some a := by
  cases a with
  | v4 octets h => simp [toBytes, ofBytes?, h]
  | v6 groups h =>
    have hlength := length_flatMap_groups groups
    rw [h] at hlength
    simp [toBytes, ofBytes?, hlength, groupsOfBytes_flatMap, h]

end Address
end ClusterCerts
