import ClusterCerts.Address
import ClusterCerts.Text.Fields

/-!
# Addresses as text

The spellings that are read, and the one that is written. An IPv4 address is four decimal
numbers without leading zeros. An IPv6 address is eight groups of one to four hexadecimal
digits; one run of groups may be left out as `::`, and the last two may be dotted. The
canonical text leaves out the first of the longest runs of two or more zero groups and dots
an IPv4-mapped address.
-/

namespace ClusterCerts.Address

def octet? (cs : List Char) : Option UInt8 :=
  if cs ≠ [] ∧ cs.length ≤ 3 ∧ cs.all Char.isDigit ∧ (cs.length = 1 ∨ cs.head? ≠ some '0') then
    let n := Nat.ofDigitChars 10 cs 0
    if n ≤ 255 then some (UInt8.ofNat n) else none
  else none

def octets? (cs : List Char) : Option (List UInt8) := do
  let octets ← (Text.fields '.' cs).mapM octet?
  guard (octets.length = 4)
  return octets

def hexDigit? (c : Char) : Option Nat :=
  if c.isDigit then some (c.toNat - 48)
  else if 'a' ≤ c ∧ c ≤ 'f' then some (c.toNat - 87)
  else if 'A' ≤ c ∧ c ≤ 'F' then some (c.toNat - 55)
  else none

def group? (cs : List Char) : Option UInt16 := do
  guard (cs ≠ [] ∧ cs.length ≤ 4)
  let digits ← cs.mapM hexDigit?
  return UInt16.ofNat (digits.foldl (fun n d => n * 16 + d) 0)

def groupsOfOctets (octets : List UInt8) : List UInt16 := groupsOfBytes octets

def groups? (cs : List Char) : Option (List UInt16) :=
  if cs = [] then some [] else (Text.fields ':' cs).mapM group?

def groupsWithTail? (cs : List Char) : Option (List UInt16) :=
  match Text.splitLast? ':' cs with
  | none => (octets? cs).map groupsOfOctets <|> groups? cs
  | some (front, last) =>
    match octets? last with
    | some octets => do
      let front ← (Text.fields ':' front).mapM group?
      return front ++ groupsOfOctets octets
    | none => groups? cs

def aroundGap? : List Char → Option (List Char × List Char)
  | ':' :: ':' :: r => some ([], r)
  | c :: r => (aroundGap? r).map fun p => (c :: p.1, p.2)
  | [] => none

def ofGroups? (groups : List UInt16) : Option Address :=
  if h : groups.length = 8 then some (v6 groups h) else none

def readV4? (cs : List Char) : Option Address := do
  let octets ← octets? cs
  if h : octets.length = 4 then return v4 octets h else none

/-- A gap stands for at least one group. -/
def readV6? (cs : List Char) : Option Address :=
  match aroundGap? cs with
  | none => groupsWithTail? cs >>= ofGroups?
  | some (front, back) => do
    let front ← groups? front
    let back ← groupsWithTail? back
    guard (front.length + back.length ≤ 7)
    ofGroups? (front ++ List.replicate (8 - front.length - back.length) 0 ++ back)

def read? (s : String) : Option Address := readV4? s.toList <|> readV6? s.toList

def unbracketed (cs : List Char) : List Char :=
  match cs with
  | '[' :: r => if r.getLast? = some ']' then r.dropLast else cs
  | _ => cs

def readLiteral? (s : String) : Option Address := read? (String.ofList (unbracketed s.toList))

def dotted (octets : List UInt8) : List Char :=
  ['.'].intercalate (octets.map fun o => Nat.toDigits 10 o.toNat)

def coloned (groups : List UInt16) : List Char :=
  [':'].intercalate (groups.map fun g => Nat.toDigits 16 g.toNat)

def zeros (groups : List UInt16) : Nat := (groups.takeWhile (· = 0)).length

def gapStart (groups : List UInt16) : Nat :=
  (List.range groups.length).foldl
    (fun best i => if zeros (groups.drop best) < zeros (groups.drop i) then i else best) 0

def textV6 (groups : List UInt16) : List Char :=
  if groups.take 6 = [0, 0, 0, 0, 0, 0xffff] then
    "::ffff:".toList ++ dotted ((groups.drop 6).flatMap fun g => Bytes.ofNat 2 g.toNat)
  else
    let start := gapStart groups
    let len := zeros (groups.drop start)
    if 1 < len then
      coloned (groups.take start) ++ "::".toList ++ coloned (groups.drop (start + len))
    else coloned groups

def chars : Address → List Char
  | v4 octets _ => dotted octets
  | v6 groups _ => textV6 groups

def text (a : Address) : String := String.ofList a.chars

end ClusterCerts.Address
