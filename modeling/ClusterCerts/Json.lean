import ClusterCerts.Text.Decimal

/-!
# JSON

The shape of a JSON text. Numbers keep their digits and strings the characters between their
quotes, escapes as written, so that reading a text decides nothing about its values; what they
mean is asked of a numeral or a string when it is used. Members of an object keep their order
and may repeat.
-/

namespace ClusterCerts

structure Numeral where
  negative : Bool := false
  whole : List Char
  fraction : List Char := []
  exponent : Option (Bool × List Char) := none
deriving DecidableEq, Repr

def Numeral.chars (n : Numeral) : List Char :=
  (if n.negative then ['-'] else []) ++ n.whole ++
    (if n.fraction.isEmpty then [] else '.' :: n.fraction) ++
    match n.exponent with
    | none => []
    | some (negative, ds) => 'e' :: (if negative then ['-'] else []) ++ ds

inductive Json
  | null
  | bool (b : Bool)
  | number (n : Numeral)
  | string (raw : List Char)
  | array (items : List Json)
  | object (members : List (List Char × Json))

namespace Json

def isBlank (c : Char) : Bool := c = ' ' ∨ c = '\n' ∨ c = '\t' ∨ c = '\r'

def skip (cs : List Char) : List Char := cs.dropWhile isBlank

def isHexDigit (c : Char) : Bool :=
  c.isDigit || ('a' ≤ c && c ≤ 'f') || ('A' ≤ c && c ≤ 'F')

def takeString : List Char → Option (List Char × List Char)
  | [] => none
  | '"' :: r => some ([], r)
  | '\\' :: 'u' :: a :: b :: c :: d :: r =>
    if isHexDigit a ∧ isHexDigit b ∧ isHexDigit c ∧ isHexDigit d then
      (takeString r).map fun p => ('\\' :: 'u' :: a :: b :: c :: d :: p.1, p.2)
    else none
  | '\\' :: e :: r =>
    if e ∈ ['"', '\\', '/', 'b', 'f', 'n', 'r', 't'] then
      (takeString r).map fun p => ('\\' :: e :: p.1, p.2)
    else none
  | c :: r => if c = '\\' ∨ c.toNat < 32 then none else (takeString r).map fun p => (c :: p.1, p.2)

def takeDigits (cs : List Char) : Option (List Char × List Char) :=
  let ds := cs.takeWhile Char.isDigit
  if ds.isEmpty then none else some (ds, cs.drop ds.length)

def takeFraction : List Char → Option (List Char × List Char)
  | '.' :: r => takeDigits r
  | r => some ([], r)

def takeExponent : List Char → Option (Option (Bool × List Char) × List Char)
  | c :: r =>
    if c = 'e' ∨ c = 'E' then
      match r with
      | '-' :: r => (takeDigits r).map fun p => (some (true, p.1), p.2)
      | '+' :: r => (takeDigits r).map fun p => (some (false, p.1), p.2)
      | r => (takeDigits r).map fun p => (some (false, p.1), p.2)
    else some (none, c :: r)
  | [] => some (none, [])

def takeNumeral (cs : List Char) : Option (Numeral × List Char) := do
  let (negative, cs) := match cs with
    | '-' :: r => (true, r)
    | r => (false, r)
  let (whole, cs) ← takeDigits cs
  guard (whole.length = 1 ∨ whole.head? ≠ some '0')
  let (fraction, cs) ← takeFraction cs
  let (exponent, cs) ← takeExponent cs
  return ({ negative, whole, fraction, exponent }, cs)

mutual

def takeValue : Nat → List Char → Option (Json × List Char)
  | 0, _ => none
  | k + 1, cs =>
    match skip cs with
    | 'n' :: 'u' :: 'l' :: 'l' :: r => some (null, r)
    | 't' :: 'r' :: 'u' :: 'e' :: r => some (bool true, r)
    | 'f' :: 'a' :: 'l' :: 's' :: 'e' :: r => some (bool false, r)
    | '"' :: r => (takeString r).map fun p => (string p.1, p.2)
    | '[' :: r =>
      match skip r with
      | ']' :: r => some (array [], r)
      | r => (takeItems k r).map fun p => (array p.1, p.2)
    | '\x7b' :: r =>
      match skip r with
      | '\x7d' :: r => some (object [], r)
      | r => (takeMembers k r).map fun p => (object p.1, p.2)
    | r => (takeNumeral r).map fun p => (number p.1, p.2)

def takeItems : Nat → List Char → Option (List Json × List Char)
  | 0, _ => none
  | k + 1, cs =>
    match takeValue k cs with
    | none => none
    | some (x, r) =>
      match skip r with
      | ',' :: r => (takeItems k r).map fun p => (x :: p.1, p.2)
      | ']' :: r => some ([x], r)
      | _ => none

def takeMembers : Nat → List Char → Option (List (List Char × Json) × List Char)
  | 0, _ => none
  | k + 1, cs =>
    match skip cs with
    | '"' :: r =>
      match takeString r with
      | none => none
      | some (key, r) =>
        match skip r with
        | ':' :: r =>
          match takeValue k r with
          | none => none
          | some (x, r) =>
            match skip r with
            | ',' :: r => (takeMembers k r).map fun p => ((key, x) :: p.1, p.2)
            | '\x7d' :: r => some ([(key, x)], r)
            | _ => none
        | _ => none
    | _ => none

end

def read? (s : String) : Option Json :=
  match takeValue (2 * s.length + 2) s.toList with
  | some (x, r) => if skip r = [] then some x else none
  | none => none

def hexValue (c : Char) : Nat :=
  if c.isDigit then c.toNat - 48 else if 'a' ≤ c then c.toNat - 87 else c.toNat - 55

def hexUnit (a b c d : Char) : Nat :=
  ((hexValue a * 16 + hexValue b) * 16 + hexValue c) * 16 + hexValue d

def escaped (e : Char) : Char :=
  match e with
  | 'b' => '\x08'
  | 'f' => '\x0c'
  | 'n' => '\n'
  | 'r' => '\r'
  | 't' => '\t'
  | e => e

/-- The characters that a string stands for. Two escapes may spell the halves of one
character; a half alone is none. -/
def unescape : List Char → Option (List Char)
  | [] => some []
  | '\\' :: 'u' :: a :: b :: c :: d :: r =>
    let n := hexUnit a b c d
    if 0xD800 ≤ n ∧ n ≤ 0xDBFF then
      match r with
      | '\\' :: 'u' :: a :: b :: c :: d :: r =>
        let m := hexUnit a b c d
        if 0xDC00 ≤ m ∧ m ≤ 0xDFFF then
          (unescape r).map (Char.ofNat (0x10000 + (n - 0xD800) * 0x400 + (m - 0xDC00)) :: ·)
        else none
      | _ => none
    else if 0xDC00 ≤ n ∧ n ≤ 0xDFFF then none
    else (unescape r).map (Char.ofNat n :: ·)
  | '\\' :: e :: r => (unescape r).map (escaped e :: ·)
  | c :: r => (unescape r).map (c :: ·)

def unescapeString? (raw : List Char) : Option String := (unescape raw).map String.ofList

def escapeChar (c : Char) : List Char :=
  match c with
  | '"' => ['\\', '"']
  | '\\' => ['\\', '\\']
  | '\x08' => ['\\', 'b']
  | '\x0c' => ['\\', 'f']
  | '\n' => ['\\', 'n']
  | '\r' => ['\\', 'r']
  | '\t' => ['\\', 't']
  | c =>
    if c.toNat < 32 then
      ['\\', 'u', '0', '0', Nat.digitChar (c.toNat / 16), Nat.digitChar (c.toNat % 16)]
    else [c]

def escape (s : String) : List Char := s.toList.flatMap escapeChar

def ofString (s : String) : Json := string (escape s)

def ofNat (n : Nat) : Json := number { whole := Nat.toDigits 10 n }

def ofInt (i : Int) : Json := number { negative := i < 0, whole := Nat.toDigits 10 i.natAbs }

def record (members : List (String × Json)) : Json :=
  object (members.map fun m => (escape m.1, m.2))

def quote (raw : List Char) : List Char := '"' :: raw ++ ['"']

mutual

def compact : Json → List Char
  | null => "null".toList
  | bool true => "true".toList
  | bool false => "false".toList
  | number n => n.chars
  | string raw => quote raw
  | array items => '[' :: compactItems items ++ [']']
  | object members => '\x7b' :: compactMembers members ++ ['\x7d']

def compactItems : List Json → List Char
  | [] => []
  | [x] => compact x
  | x :: xs => compact x ++ ',' :: compactItems xs

def compactMembers : List (List Char × Json) → List Char
  | [] => []
  | [(k, x)] => quote k ++ ':' :: compact x
  | (k, x) :: ms => quote k ++ ':' :: compact x ++ ',' :: compactMembers ms

end

def newline (level : Nat) : List Char := '\n' :: List.replicate (2 * level) ' '

mutual

def pretty (level : Nat) : Json → List Char
  | array (x :: xs) =>
    '[' :: newline (level + 1) ++ prettyItems (level + 1) (x :: xs) ++ newline level ++ [']']
  | object (m :: ms) =>
    '\x7b' :: newline (level + 1) ++ prettyMembers (level + 1) (m :: ms) ++ newline level ++
      ['\x7d']
  | array [] => ['[', ']']
  | object [] => ['\x7b', '\x7d']
  | null => "null".toList
  | bool true => "true".toList
  | bool false => "false".toList
  | number n => n.chars
  | string raw => quote raw

def prettyItems (level : Nat) : List Json → List Char
  | [] => []
  | [x] => pretty level x
  | x :: xs => pretty level x ++ ',' :: newline level ++ prettyItems level xs

def prettyMembers (level : Nat) : List (List Char × Json) → List Char
  | [] => []
  | [(k, x)] => quote k ++ ':' :: ' ' :: pretty level x
  | (k, x) :: ms =>
    quote k ++ ':' :: ' ' :: pretty level x ++ ',' :: newline level ++ prettyMembers level ms

end

def text (j : Json) : String := String.ofList (compact j)

def prettyText (j : Json) : String := String.ofList (pretty 0 j)

end Json
end ClusterCerts
