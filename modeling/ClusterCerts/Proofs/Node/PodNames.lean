import ClusterCerts.Node
import ClusterCerts.Text.Decimal
import ClusterCerts.Text.Fields
import Mathlib.Data.List.Nodup
import Mathlib.Data.Set.Function

/-!
# Derived pod names

The derived name of a pod ends with the digits of its number, and a hyphen stands before them. No
digit is a hyphen, so the last hyphen of the name shows where the digits begin, whatever the pool
is called. The only thing that the name leaves open is whether a hyphen before that one belongs to
the pool or is the sign of the number.
-/

namespace ClusterCerts.Node

variable {pool pool' : String} {i j : Int32}

/-- What stands before the last hyphen. For a negative number that hyphen is the sign, and the one
after the pool comes before it. -/
def stem (pool : String) (nodeId : Int32) : String :=
  if nodeId.toInt < 0 then pool ++ "-" else pool

def digits (nodeId : Int32) : List Char := Nat.toDigits 10 nodeId.toInt.natAbs

theorem hyphen_not_mem_digits (nodeId : Int32) : '-' ∉ digits nodeId := by
  intro h
  have hdigit : '-'.isDigit = true := Nat.isDigit_of_mem_toDigits (by decide) (by decide) h
  exact absurd hdigit (by decide)

theorem digits_eq_iff : digits i = digits j ↔ i.toInt.natAbs = j.toInt.natAbs :=
  ⟨Decimal.toDigits_injective, fun h => by rw [digits, digits, h]⟩

theorem toList_podNameIn (pool : String) (nodeId : Int32) :
    (podNameIn pool nodeId).toList = (stem pool nodeId).toList ++ '-' :: digits nodeId := by
  rw [podNameIn, String.toList_append, String.toList_append, Decimal.toList_toString, stem, digits]
  by_cases hsign : nodeId.toInt < 0
  · simp [hsign]
  · simp [hsign]

theorem splitLast?_podNameIn (pool : String) (nodeId : Int32) :
    Text.splitLast? '-' (podNameIn pool nodeId).toList =
      some ((stem pool nodeId).toList, digits nodeId) := by
  rw [toList_podNameIn]
  exact Text.splitLast?_append _ (hyphen_not_mem_digits nodeId)

theorem podNameIn_eq_iff_stem :
    podNameIn pool i = podNameIn pool' j ↔
      stem pool i = stem pool' j ∧ i.toInt.natAbs = j.toInt.natAbs := by
  rw [← digits_eq_iff, ← String.toList_inj, ← String.toList_inj]
  constructor
  · intro h
    have hsplit := splitLast?_podNameIn pool i
    rw [h, splitLast?_podNameIn, Option.some.injEq, Prod.mk.injEq] at hsplit
    exact ⟨hsplit.1.symm, hsplit.2.symm⟩
  · rintro ⟨hstem, hdigits⟩
    rw [toList_podNameIn, toList_podNameIn, hstem, hdigits]

theorem stem_of_nonneg (pool : String) (h : 0 ≤ i) : stem pool i = pool :=
  if_neg (Int.not_lt.2 (Int32.le_iff_toInt_le.1 h))

theorem injOn_podNameIn :
    Set.InjOn (fun n : String × Int32 => podNameIn n.1 n.2) {n | 0 ≤ n.2} := by
  rintro ⟨pool, i⟩ hi ⟨pool', j⟩ hj h
  change podNameIn pool i = podNameIn pool' j at h
  have hi' : 0 ≤ i.toInt := Int32.le_iff_toInt_le.1 hi
  have hj' : 0 ≤ j.toInt := Int32.le_iff_toInt_le.1 hj
  obtain ⟨hstem, hdigits⟩ := podNameIn_eq_iff_stem.1 h
  rw [stem_of_nonneg pool hi, stem_of_nonneg pool' hj] at hstem
  have hnumber : i = j := Int32.toInt_inj.1 (by omega)
  rw [hstem, hnumber]

/-- Two derived names are equal only for one number in one pool, or where the sign of a negative
number is read as the last character of another pool. The least number has no opposite, so that
its sign is never read so. -/
theorem podName_collisions :
    (∀ (pool pool' : String) (i j : Int32), podNameIn pool i = podNameIn pool' j ↔
      pool = pool' ∧ i = j ∨
      i < 0 ∧ j.toInt = -i.toInt ∧ pool' = pool ++ "-" ∨
      j < 0 ∧ i.toInt = -j.toInt ∧ pool = pool' ++ "-") ∧
    Set.InjOn (fun n : String × Int32 => podNameIn n.1 n.2) {n | 0 ≤ n.2} := by
  refine ⟨fun pool pool' i j => ?_, injOn_podNameIn⟩
  have hzero : (0 : Int32).toInt = 0 := by decide
  rw [podNameIn_eq_iff_stem, stem, stem, ← Int32.toInt_inj, Int32.lt_iff_toInt_lt,
    Int32.lt_iff_toInt_lt, hzero]
  -- The digits are the same for a number and its opposite, so the two signs decide the case.
  by_cases hi : i.toInt < 0
  · by_cases hj : j.toInt < 0
    · have hsame : i.toInt.natAbs = j.toInt.natAbs ↔ i.toInt = j.toInt := by omega
      have hopposite : j.toInt ≠ -i.toInt ∧ i.toInt ≠ -j.toInt := by omega
      simp [hi, hj, hsame, hopposite]
    · have hsame : i.toInt.natAbs = j.toInt.natAbs ↔ j.toInt = -i.toInt := by omega
      have hother : i.toInt ≠ j.toInt := by omega
      have hpool : pool ++ "-" = pool' ↔ pool' = pool ++ "-" := eq_comm
      simp [hi, hj, hsame, hother, hpool, and_comm]
  · by_cases hj : j.toInt < 0
    · have hsame : i.toInt.natAbs = j.toInt.natAbs ↔ i.toInt = -j.toInt := by omega
      have hother : i.toInt ≠ j.toInt := by omega
      simp [hi, hj, hsame, hother, and_comm]
    · have hsame : i.toInt.natAbs = j.toInt.natAbs ↔ i.toInt = j.toInt := by omega
      simp [hi, hj, hsame]

example : podNameIn "pool" (-7) = podNameIn "pool-" 7 := by decide

theorem firstDuplicate?_derived {nodes : List Node} {pool : Node → String}
    (hname : ∀ n ∈ nodes, n.podName = podNameIn (pool n) n.nodeId)
    (hnumber : ∀ n ∈ nodes, 0 ≤ n.nodeId) :
    firstDuplicate? nodes = none ↔ (nodes.map fun n => (pool n, n.nodeId)).Nodup := by
  have hnames : nodes.map (·.podName) =
      (nodes.map fun n => (pool n, n.nodeId)).map fun n => podNameIn n.1 n.2 := by
    rw [List.map_map]
    exact List.map_congr_left hname
  rw [firstDuplicate?_eq_none_iff, hnames]
  have hnonneg : ∀ m ∈ nodes.map fun n => (pool n, n.nodeId), 0 ≤ m.2 := by
    intro m hm
    obtain ⟨n, hn, rfl⟩ := List.mem_map.1 hm
    exact hnumber n hn
  exact ⟨List.Nodup.of_map _, List.Nodup.map_on fun m hm n hn h =>
    injOn_podNameIn (hnonneg m hm) (hnonneg n hn) h⟩

end ClusterCerts.Node
