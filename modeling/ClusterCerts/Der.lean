import ClusterCerts.Text.Bytes

/-!
# DER elements

An element is a tag, the length of its content and the content. Reading takes definite
lengths in the short and in the long form, also when a shorter form would do; writing uses
the shortest. Readers of a larger structure compare the number of a tag.
-/

namespace ClusterCerts

inductive TagClass
  | universal
  | application
  | contextSpecific
  | reserved
deriving DecidableEq, Repr

structure Element where
  tagClass : TagClass
  constructed : Bool
  number : Nat
  content : Bytes
deriving DecidableEq

namespace Der

abbrev Reader (α : Type) := Bytes → Option (α × Bytes)

def tagClass (b : UInt8) : TagClass :=
  if b.toNat < 64 then .universal
  else if b.toNat < 128 then .application
  else if b.toNat < 192 then .contextSpecific
  else .reserved

/-- A tag number in base 128, its last digit being the first one below 128. It has at most
`k` digits and counts modulo 2 to the 32. -/
def highNumber (acc : Nat) : Nat → Reader Nat
  | 0, _ => none
  | _ + 1, [] => none
  | k + 1, b :: r =>
    let n := (acc * 128 + b.toNat % 128) % 4294967296
    if b.toNat < 128 then some (n, r) else highNumber n k r

def number (b : UInt8) (r : Bytes) : Option (Nat × Bytes) :=
  if b.toNat % 32 = 31 then highNumber 0 5 r else some (b.toNat % 32, r)

def length : Reader Nat
  | [] => none
  | b :: r =>
    if b.toNat < 128 then some (b.toNat, r)
    else if b.toNat = 128 ∨ b.toNat = 255 then none
    else
      let k := b.toNat - 128
      if r.length < k then none else some (Bytes.toNat (r.take k), r.drop k)

def header : Reader (Element × Nat)
  | [] => none
  | b :: r => do
    let (n, r) ← number b r
    let (len, r) ← length r
    return ((⟨tagClass b, b.toNat / 32 % 2 = 1, n, []⟩, len), r)

def element : Reader Element := fun bytes => do
  let ((e, len), r) ← header bytes
  if r.length < len then none else return ({ e with content := r.take len }, r.drop len)

def tagged (n : Nat) : Reader Element := fun bytes => do
  let (e, r) ← element bytes
  if e.number = n then return (e, r) else none

def primitive (n : Nat) : Reader Bytes := fun bytes => do
  let (e, r) ← tagged n bytes
  if e.constructed then none else return (e.content, r)

/-- Reads as many as there are, up to the first that does not read; `k` bounds their number. -/
def manyWithin {α : Type} (p : Reader α) : Nat → Bytes → List α × Bytes
  | 0, bytes => ([], bytes)
  | k + 1, bytes =>
    match p bytes with
    | some (a, r) => let (as, r) := manyWithin p k r; (a :: as, r)
    | none => ([], bytes)

def many {α : Type} (p : Reader α) (bytes : Bytes) : List α × Bytes :=
  manyWithin p bytes.length bytes

def all {α : Type} (p : Reader α) (bytes : Bytes) : Option (List α) :=
  match many p bytes with
  | (as, []) => some as
  | _ => none

def booleanTag : Nat := 1
def integerTag : Nat := 2
def bitStringTag : Nat := 3
def octetStringTag : Nat := 4
def oidTag : Nat := 6
def utf8StringTag : Nat := 12
def sequenceTag : Nat := 16
def setTag : Nat := 17
def numericStringTag : Nat := 18
def printableStringTag : Nat := 19
def teletexStringTag : Nat := 20
def ia5StringTag : Nat := 22
def utcTimeTag : Nat := 23
def generalizedTimeTag : Nat := 24
def universalStringTag : Nat := 28
def bmpStringTag : Nat := 30

def sequence : Reader Bytes := fun bytes =>
  (tagged sequenceTag bytes).map fun p => (p.1.content, p.2)

def oid : Reader Bytes := primitive oidTag

def trailingZeros (b : UInt8) : Nat := ((List.range 8).takeWhile fun i => !b.toNat.testBit i).length

/-- The content of a bit string: the number of unused bits, which are zero, then the bits. -/
def isBitString : Bytes → Bool
  | [] => false
  | [u] => u = 0
  | u :: b :: r => u.toNat ≤ trailingZeros ((b :: r).getLast (by simp))

def bitString : Reader Bytes := fun bytes => do
  let (content, r) ← primitive bitStringTag bytes
  if isBitString content then return (content, r) else none

def isInteger : Bytes → Bool
  | [] => false
  | [_] => true
  | a :: b :: _ => !((a = 0 && b.toNat < 128) || (a = 255 && 128 ≤ b.toNat))

def natural : Reader Nat := fun bytes => do
  let (content, r) ← primitive integerTag bytes
  guard (isInteger content)
  guard ((content.head?.map UInt8.toNat).getD 0 < 128)
  return (Bytes.toNat content, r)

def numeral (n : Nat) : Bytes :=
  if n < 256 then [UInt8.ofNat n] else numeral (n / 256) ++ [UInt8.ofNat n]

def encodeLength (n : Nat) : Bytes :=
  if n < 128 then [UInt8.ofNat n]
  else let ds := numeral n; UInt8.ofNat (128 + ds.length) :: ds

def encode (tag : UInt8) (content : Bytes) : Bytes := tag :: encodeLength content.length ++ content

def encodeSequence (parts : List Bytes) : Bytes := encode 0x30 parts.flatten

def encodeSet (parts : List Bytes) : Bytes := encode 0x31 parts.flatten

def encodeOid (content : Bytes) : Bytes := encode 0x06 content

/-- A natural number as an integer, with a zero byte in front of a high bit. -/
def encodeNatural (n : Nat) : Bytes :=
  let ds := numeral n
  encode 0x02 (if 128 ≤ (ds.head?.map UInt8.toNat).getD 0 then 0 :: ds else ds)

def encodeNull : Bytes := encode 0x05 []

def encodeTrue : Bytes := encode 0x01 [0xff]

def encodeOctets (content : Bytes) : Bytes := encode 0x04 content

def encodeBits (content : Bytes) : Bytes := encode 0x03 (0 :: content)

def encodeExplicit (n : Nat) (content : Bytes) : Bytes := encode (UInt8.ofNat (0xa0 + n)) content

def encodeImplicit (n : Nat) (content : Bytes) : Bytes := encode (UInt8.ofNat (0x80 + n)) content

end Der
end ClusterCerts
