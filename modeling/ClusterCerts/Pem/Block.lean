import ClusterCerts.Pem

/-!
# PEM blocks

The stricter reading of a PEM text, used for what a CA is loaded from. The first block counts
wherever it stands, a block begins and ends with the same label, header lines may come before
a blank line, and the data is strict base64 once all blanks are left out.
-/

namespace ClusterCerts.Pem

def isSpace (c : Char) : Bool := c = ' ' ∨ c = '\t' ∨ c = '\n' ∨ c = '\r'

def splitHeaders (body : List Char) : List Char × List Char :=
  match Text.around? ['\n', '\n'] body with
  | some parts => parts
  | none =>
    match Text.around? ['\r', '\n', '\r', '\n'] body with
    | some parts => parts
    | none => ([], body)

def lines (cs : List Char) : List (List Char) :=
  let ls := Text.fields '\n' cs
  if ls.getLast? = some [] then ls.dropLast else ls

def areHeaders (cs : List Char) : Bool := (lines cs).all fun l => l.contains ':'

def blockData? (text : String) : Option Bytes := do
  let (_, cs) ← Text.around? beginMark text.toList
  let (label, cs) ← Text.around? dashes cs
  let (body, cs) ← Text.around? endMark (cs.dropWhile isSpace)
  let (endLabel, _) ← Text.around? dashes cs
  guard (label ≠ [] ∧ label = endLabel)
  let (headers, data) := splitHeaders body
  guard (areHeaders headers)
  Base64.decode? (data.filter fun c => !Text.isBlank c)

end ClusterCerts.Pem
