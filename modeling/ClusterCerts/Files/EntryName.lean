import ClusterCerts.Text.Bytes

/-!
# Names of entries

A directory names its entries by bytes. Most names are texts, and only these can be part of a
path; a name that is not UTF-8 is found by listing the directory.
-/

namespace ClusterCerts

inductive EntryName
  | text (name : String)
  | raw (bytes : Bytes) (noText : bytes.toString? = none)
deriving DecidableEq

namespace EntryName

instance : Coe String EntryName := ⟨text⟩

def text? : EntryName → Option String
  | text name => some name
  | raw .. => none

def bytes : EntryName → Bytes
  | text name => Bytes.ofString name
  | raw bytes _ => bytes

theorem text?_eq_some_iff {entry : EntryName} {name : String} :
    entry.text? = some name ↔ entry = text name := by
  cases entry <;> simp [text?]

theorem toString?_bytes (entry : EntryName) : entry.bytes.toString? = entry.text? := by
  cases entry with
  | text name => exact Bytes.toString?_ofString name
  | raw bytes noText => exact noText

theorem bytes_injective {a b : EntryName} (h : a.bytes = b.bytes) : a = b := by
  have htext : a.text? = b.text? := by rw [← toString?_bytes, ← toString?_bytes, h]
  cases a with
  | text name => exact (text?_eq_some_iff.1 htext.symm).symm
  | raw bytes noText =>
    cases b with
    | text name => cases htext
    | raw bytes' noText' => cases h; rfl

/-- Texts come first, in their own order. -/
instance : Ord EntryName where
  compare
    | text a, text b => compare a b
    | text _, raw .. => .lt
    | raw .., text _ => .gt
    | raw a _, raw b _ => compare a b

instance : Std.TransOrd EntryName where
  eq_swap {a b} := by
    cases a with
    | text name =>
      cases b with
      | text name' => exact Std.OrientedOrd.eq_swap (α := String)
      | raw bytes noText => rfl
    | raw bytes noText =>
      cases b with
      | text name => rfl
      | raw bytes' noText' => exact Std.OrientedOrd.eq_swap (α := Bytes)
  isLE_trans {a b c} hab hbc := by
    cases a with
    | text name =>
      cases c with
      | text name' =>
        cases b with
        | text between => exact Std.TransOrd.isLE_trans (α := String) hab hbc
        | raw bytes noText => cases hbc
      | raw bytes noText => rfl
    | raw bytes noText =>
      cases b with
      | text name => cases hab
      | raw bytes' noText' =>
        cases c with
        | text name => cases hbc
        | raw bytes'' noText'' => exact Std.TransOrd.isLE_trans (α := Bytes) hab hbc

instance : Std.LawfulEqOrd EntryName where
  compare_self {a} := by
    cases a with
    | text name => exact Std.ReflOrd.compare_self (α := String)
    | raw bytes noText => exact Std.ReflOrd.compare_self (α := Bytes)
  eq_of_compare {a b} h := by
    cases a with
    | text name =>
      cases b with
      | text name' => exact congrArg text (Std.LawfulEqOrd.eq_of_compare (α := String) h)
      | raw bytes noText => cases h
    | raw bytes noText =>
      cases b with
      | text name => cases h
      | raw bytes' noText' =>
        cases Std.LawfulEqOrd.eq_of_compare (α := Bytes) h
        rfl

example : (text "a").text? = some "a" ∧ (raw [0xff] (by decide)).text? = none := ⟨rfl, rfl⟩

end EntryName
end ClusterCerts
