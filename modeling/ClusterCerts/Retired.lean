import ClusterCerts.Instant
import ClusterCerts.Order.SortedMap
import ClusterCerts.Text.Bytes
import ClusterCerts.Text.Decimal
import ClusterCerts.Text.DecimalDigit

/-!
# Retired certificates

A CA certificate that was replaced stays in the store under a name made from the time of its
replacement, so that what it signed is trusted for a while. Pruning a store that the operator
manages removes every entry with such a name.
-/

namespace ClusterCerts

abbrev CaStore := SortedMap String Bytes

def currentCertEntry : String := "ca.crt"

namespace Retired

/-- A year in four digits, or with its sign outside of 0 to 9999. -/
def yearText (y : Int) : List Char :=
  if 0 ≤ y ∧ y ≤ 9999 then Decimal.padded 4 y.toNat
  else (if y < 0 then '-' else '+') :: Decimal.padded 4 y.natAbs

def name (at_ : Instant) : String :=
  let t := at_.civil
  String.ofList <|
    "ca-".toList ++ yearText t.year ++ '-' :: Decimal.padded 2 t.month ++
    '-' :: Decimal.padded 2 t.day ++ 'T' :: Decimal.padded 2 t.hour ++
    '-' :: Decimal.padded 2 t.minute ++ '-' :: Decimal.padded 2 t.second ++ "Z.crt".toList

/-- One test for each character of a retired name. Digits are those of any script, and one
character other than a line feed stands before the last three. -/
def pattern : List (Char → Bool) :=
  let is := fun c d => d == c
  let d := Text.isDecimalDigit
  [is 'c', is 'a', is '-', d, d, d, d, is '-', d, d, is '-', d, d, is 'T', d, d, is '-', d, d,
    is '-', d, d, is 'Z', fun c => c != '\n', is 'c', is 'r', is 't']

def fits : List (Char → Bool) → List Char → Bool
  | [], [] => true
  | p :: ps, c :: cs => p c && fits ps cs
  | _, _ => false

def isName (s : String) : Bool := fits pattern s.toList

end Retired

namespace CaStore

def prune (selfManaged : Bool) (store : CaStore) : CaStore :=
  if selfManaged then store.filter fun name _ => !Retired.isName name else store

def prunable (selfManaged : Bool) (store : CaStore) : List String :=
  if selfManaged then store.keys.filter Retired.isName else []

end CaStore
end ClusterCerts
