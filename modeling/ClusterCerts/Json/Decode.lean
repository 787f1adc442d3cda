import ClusterCerts.Json.Numeric
import ClusterCerts.Order.SortedMap
import ClusterCerts.Order.SortedSet
import ClusterCerts.Text.Quoted

/-!
# Decoding documents

A document is a JSON text read as a value of a type. Values are checked in the order of the
text and the first fault is told; a field that is missing is found missing at the end of its
record. A record may also be written as the list of its fields. A fault of the type is told
only if the whole text is sound JSON.
-/

namespace ClusterCerts

inductive DocumentFault
  | notJson
  | notAccepted
  | missingField (name : String)
  | duplicateField (name : String)
  | unknownVariant (name : String) (known : List String)
  | invalidType (found expected : String)
  | invalidValue (found expected : String)
  | keyNotNumber
  | invalidLength (length : Nat) (type : String) (fields : Nat)
  | invalidAddress
deriving DecidableEq, Repr

namespace DocumentFault

def backquoted (s : String) : String := "\x60" ++ s ++ "\x60"

def choice : List String → String
  | [a] => backquoted a
  | [a, b] => backquoted a ++ " or " ++ backquoted b
  | names => "one of " ++ ", ".intercalate (names.map backquoted)

def message : DocumentFault → String
  | notJson => "not JSON"
  | notAccepted => "not accepted"
  | missingField name => "missing field " ++ backquoted name
  | duplicateField name => "duplicate field " ++ backquoted name
  | unknownVariant name known =>
    "unknown variant " ++ backquoted name ++ ", expected " ++ choice known
  | invalidType found expected => "invalid type: " ++ found ++ ", expected " ++ expected
  | invalidValue found expected => "invalid value: " ++ found ++ ", expected " ++ expected
  | keyNotNumber => "invalid value: expected key to be a number in quotes"
  | invalidLength length type fields =>
    "invalid length " ++ toString length ++ ", expected struct " ++ type ++ " with " ++
      toString fields ++ " elements"
  | invalidAddress => "invalid IP address syntax"

end DocumentFault

def Numeral.Value.found : Numeral.Value → String
  | .integer i => "integer " ++ DocumentFault.backquoted (toString i)
  | .floating x => "floating point " ++ DocumentFault.backquoted (Text.floatText x)
  | .tooLarge => "number"

namespace Json

def found : Json → String
  | null => "null"
  | bool b => "boolean " ++ DocumentFault.backquoted (toString b)
  | number n => n.value.found
  | string raw => "string " ++ Text.quoted ((unescapeString? raw).getD "")
  | array _ => "sequence"
  | object _ => "map"

end Json

abbrev Decoder (α : Type) := Json → Except DocumentFault α

namespace Decoder

variable {α : Type}

def mismatch (j : Json) (expected : String) : Except DocumentFault α :=
  .error (.invalidType j.found expected)

def string : Decoder String
  | .string raw =>
    match Json.unescapeString? raw with
    | some s => .ok s
    | none => .error .notAccepted
  | j => mismatch j "a string"

def boolean : Decoder Bool
  | .bool b => .ok b
  | j => mismatch j "a boolean"

def int32OfNumeric (n : Numeral) : Except DocumentFault Int32 :=
  match n.value with
  | .integer i =>
    if h : Int32.minValue.toInt ≤ i ∧ i ≤ Int32.maxValue.toInt then .ok (Int32.ofIntLE i h.1 h.2)
    else .error (.invalidValue (Numeral.Value.found (.integer i)) "i32")
  | v => .error (.invalidType v.found "i32")

def int32 : Decoder Int32
  | .number n => int32OfNumeric n
  | j => mismatch j "i32"

def uint32 : Decoder UInt32
  | .number n =>
    match n.value with
    | .integer i =>
      if h : 0 ≤ i ∧ i.toNat < UInt32.size then .ok (UInt32.ofNatLT i.toNat h.2)
      else .error (.invalidValue (Numeral.Value.found (.integer i)) "u32")
    | v => .error (.invalidType v.found "u32")
  | j => mismatch j "u32"

def nullable (d : Decoder α) : Decoder (Option α)
  | .null => .ok none
  | j => (d j).map some

def list (d : Decoder α) : Decoder (List α)
  | .array items => items.mapM d
  | j => mismatch j "a sequence"

def set [Ord α] [Std.TransOrd α] (d : Decoder α) : Decoder (SortedSet α) := fun j =>
  (list d j).map SortedSet.ofList

def keyText (raw : List Char) : Except DocumentFault String :=
  match Json.unescapeString? raw with
  | some s => .ok s
  | none => .error .notAccepted

def int32Key (raw : List Char) : Except DocumentFault Int32 :=
  match raw with
  | [] => .error .keyNotNumber
  | c :: _ =>
    if c.isDigit ∨ c = '-' then
      match Json.takeNumeral raw with
      | some (n, r) => do
        let i ← int32OfNumeric n
        if r.isEmpty then return i else throw .notAccepted
      | none => .error .notAccepted
    else .error .keyNotNumber

/-- An object as a map; of members with one key the last stays. -/
def map {κ : Type} [Ord κ] [Std.TransOrd κ] (key : List Char → Except DocumentFault κ)
    (d : Decoder α) : Decoder (SortedMap κ α)
  | .object members => do
    let entries ← members.mapM fun m => do
      let k ← key m.1
      let v ← d m.2
      return (k, v)
    return SortedMap.ofList entries
  | j => mismatch j "a map"

/-- One of several names, alone or as the only key of an object with null. -/
def variant (names : List (String × α)) : Decoder α
  | .string raw => do
    let s ← keyText raw
    named s
  | .object ((k, v) :: ms) => do
    let s ← keyText k
    let a ← named s
    match v with
    | .null => if ms.isEmpty then return a else throw .notAccepted
    | j => mismatch j "unit"
  | _ => .error .notAccepted
where
  named (s : String) : Except DocumentFault α :=
    match names.find? fun p => p.1 = s with
    | some p => .ok p.2
    | none => .error (.unknownVariant s (names.map (·.1)))

inductive Fields
  | named (members : List (List Char × Json))
  | listed (items : List Json)

structure RecordType where
  name : String
  size : Nat

/-- The value of a field, which it may do without: by name, by place, or not at all. -/
def Fields.get (t : RecordType) (fs : Fields) (index : Nat) (name : String) (d : Decoder α)
    (unnamed unlisted : Option α) : Except DocumentFault α :=
  match fs with
  | .named members =>
    match members.find? fun m => Json.unescapeString? m.1 = some name with
    | some m => d m.2
    | none => unnamed.elim (.error (.missingField name)) .ok
  | .listed items =>
    match items[index]? with
    | some j => d j
    | none => unlisted.elim (.error (.invalidLength index t.name t.size)) .ok

def Fields.required (t : RecordType) (fs : Fields) (index : Nat) (name : String) (d : Decoder α) :
    Except DocumentFault α := fs.get t index name d none none

def Fields.defaulted (t : RecordType) (fs : Fields) (index : Nat) (name : String) (d : Decoder α)
    (a : α) : Except DocumentFault α := fs.get t index name d (some a) (some a)

def Fields.optional (t : RecordType) (fs : Fields) (index : Nat) (name : String) (d : Decoder α) :
    Except DocumentFault (Option α) := fs.get t index name (nullable d) (some none) none

structure FieldTest where
  name : String
  test : Json → Except DocumentFault Unit

def FieldTest.of (name : String) (d : Decoder α) : FieldTest :=
  ⟨name, fun j => (d j).map fun _ => ()⟩

/-- Takes the members in order: a known one may come once and has to pass its test. -/
def scan (tests : List FieldTest) (seen : List String) :
    List (List Char × Json) → Except DocumentFault Unit
  | [] => .ok ()
  | (k, j) :: ms => do
    let key ← keyText k
    match tests.find? fun t => t.name = key with
    | none => scan tests seen ms
    | some t =>
      if key ∈ seen then throw (.duplicateField key)
      t.test j
      scan tests (key :: seen) ms

def record (t : RecordType) (tests : List FieldTest) (build : Fields → Except DocumentFault α) :
    Decoder α
  | .object members => do
    scan tests [] members
    build (.named members)
  | .array items => do
    let a ← build (.listed items)
    if t.size < items.length then throw .notAccepted
    return a
  | j => mismatch j ("struct " ++ t.name)

def ofText (d : Decoder α) (s : String) : Except DocumentFault α :=
  match Json.read? s with
  | none => .error .notJson
  | some j =>
    match d j with
    | .ok a => .ok a
    | .error fault => .error (if j.isSound 127 then fault else .notJson)

end Decoder
end ClusterCerts
