import ClusterCerts.Text.Fields

/-!
# Paths

Paths as texts: joining a name to a directory, and the name next to a file under which its
next content is prepared.
-/

namespace ClusterCerts.Path

def parts (path : String) : List (List Char) :=
  (Text.fields '/' path.toList).filter fun part => part ≠ []

def isAbsolute (path : String) : Bool := path.toList.head? = some '/'

/-- A path that ends in a slash can only name a directory. -/
def endsInSlash (path : String) : Bool := path.toList.getLast? = some '/'

def join (dir name : String) : String :=
  if dir = "" || endsInSlash dir then dir ++ name else dir ++ "/" ++ name

/-- A part without its extension; a dot in front of all else starts no extension. -/
def stem (part : List Char) : List Char :=
  match Text.splitLast? '.' part with
  | some ([], _) | none => part
  | some (before, _) => before

/-- The text up to the last part, and the last part, without slashes and lone dots after it. -/
def lastPart (cs : List Char) : List Char × List Char :=
  let trimmed := trim cs.length cs
  match Text.splitLast? '/' trimmed with
  | some (before, part) => (before ++ ['/'], part)
  | none => ([], trimmed)
where
  trim : Nat → List Char → List Char
    | 0, cs => cs
    | k + 1, cs =>
      match cs.reverse with
      | '/' :: r => trim k r.reverse
      | '.' :: '/' :: r => trim k ('/' :: r).reverse
      | _ => cs

/-- The path with another extension of its last part; a path without a name stays the same. -/
def withExtension (path extension_ : String) : String :=
  let (before, part) := lastPart path.toList
  if part = [] ∨ part = ['.'] ∨ part = ['.', '.'] then path
  else String.ofList (before ++ stem part ++ '.' :: extension_.toList)

/-- Where the next content of a file is written before it takes the place of the last. -/
def draft (path : String) : String := withExtension path "json.tmp"

example : draft "out/secret.json" = "out/secret.json.tmp" := by decide
example : draft "a.b/" = "a.json.tmp" ∧ draft ".." = ".." := by decide
example : draft ".x" = ".x.json.tmp" := by decide

end ClusterCerts.Path
