import ClusterCerts.Files.EntryName
import ClusterCerts.Files.Fault
import ClusterCerts.Order.SortedMap
import ClusterCerts.Path
import ClusterCerts.Text.Bytes

/-!
# Files

A file system: directories, files and symbolic links by their place, which is the list of
names that lead to it from the root. A file has one place only: there are no hard links, so
what is written to it shows at no other. Paths are texts and are followed name by name; each
name but the last has to lead to a directory, and a link is replaced by its target.
-/

namespace ClusterCerts

inductive FileNode
  | directory
  | file (content : Bytes) (isPrivate : Bool)
  | link (target : String)
deriving DecidableEq

abbrev Place := List EntryName

structure Files where
  nodes : SortedMap Place FileNode := ∅
  home : Place := []
deriving DecidableEq

namespace Files

structure Route where
  start : Place
  names : List String

def maxLinks : Nat := 40

variable (fs : Files)

/-- The root is always a directory. -/
def node? (place : Place) : Option FileNode :=
  if place = [] then some .directory else fs.nodes.get? place

def isDirectory (place : Place) : Bool := fs.node? place = some .directory

def route (from_ : Place) (path : String) : Route :=
  ⟨if Path.isAbsolute path then [] else from_,
    (Path.parts path).map String.ofList ++ if Path.endsInSlash path then ["."] else []⟩

/-- Follows names from a place on; so many links may be replaced. Where the last name leads,
there may be nothing yet, or a link if those are not to be followed at the end. -/
def follow (last : Bool) (links : Nat) (place : Place) (names : List String) :
    Except FileFault Place :=
  match names with
  | [] => .ok place
  | name :: names =>
    if !fs.isDirectory place then .error .notDirectory
    else if name = "." then follow last links place names
    else if name = ".." then follow last links place.dropLast names
    else if 255 < name.utf8ByteSize then .error .nameTooLong
    else
      let next := place ++ [.text name]
      match fs.node? next with
      | none => if names = [] then .ok next else .error .notFound
      | some (.link target) =>
        if names = [] ∧ !last then .ok next
        else match links with
          | 0 => .error .linkLoop
          | links + 1 =>
            let r := route place target
            follow last links r.start (r.names ++ names)
      | some _ => follow last links next names
termination_by (links, names.length)

def locate (last : Bool) (path : String) : Except FileFault Place :=
  if path.toList.contains '\x00' then .error .nulInName
  else if path = "" then .error .notFound
  else
    let r := route fs.home path
    fs.follow last maxLinks r.start r.names

def lookup (last : Bool) (path : String) : Except FileFault (Place × FileNode) := do
  let place ← fs.locate last path
  match fs.node? place with
  | some node => return (place, node)
  | none => throw .notFound

def put (place : Place) (node : FileNode) : Files := { fs with nodes := fs.nodes.insert place node }

def present (path : String) : Bool := (fs.lookup true path).isOk

def isFile (path : String) : Bool :=
  match fs.lookup true path with
  | .ok (_, .file ..) => true
  | _ => false

def read (path : String) : Except FileFault Bytes := do
  match ← fs.lookup true path with
  | (_, .file content _) => return content
  | _ => throw .isDirectory

/-- Writes a file, which keeps its access rights if it was there before. -/
def write (path : String) (content : Bytes) : Except FileFault Files := do
  if Path.endsInSlash path then
    let r := route fs.home path
    let _ ← fs.follow true maxLinks r.start r.names.dropLast.dropLast
    throw .isDirectory
  let place ← fs.locate true path
  match fs.node? place with
  | some (.file _ isPrivate) => return fs.put place (.file content isPrivate)
  | none => return fs.put place (.file content false)
  | some _ => throw .isDirectory

def restrict (path : String) : Except FileFault Files := do
  match ← fs.lookup true path with
  | (place, .file content _) => return fs.put place (.file content true)
  | _ => return fs

def makeDirectoryAt (names : List String) (start : Place) : Except FileFault Files := do
  let place ← fs.follow false maxLinks start names
  if (fs.node? place).isSome then throw .alreadyExists
  return fs.put place .directory

def parentNames (names : List String) : List String := (names.filter (· ≠ ".")).dropLast

theorem length_parentNames_lt {names : List String} (h : names ≠ []) :
    (parentNames names).length < names.length := by
  have hle := List.length_filter_le (· ≠ ".") names
  have hpos := List.length_pos_iff.2 h
  simp only [parentNames, List.length_dropLast]
  omega

def makeDirectoriesAt (fs : Files) (start : Place) (names : List String) : Except FileFault Files :=
  if _ : names = [] then .ok fs
  else
    let orThere (fs : Files) : Except FileFault Files → Except FileFault Files
      | .ok fs => .ok fs
      | .error fault =>
        match fs.follow true maxLinks start names with
        | .ok place => if fs.isDirectory place then .ok fs else .error fault
        | .error _ => .error fault
    match fs.makeDirectoryAt names start with
    | .error .notFound =>
      match makeDirectoriesAt fs start (parentNames names) with
      | .ok fs => orThere fs (fs.makeDirectoryAt names start)
      | .error fault => .error fault
    | made => orThere fs made
termination_by names.length
decreasing_by exact length_parentNames_lt ‹_›

def makeDirectories (path : String) : Except FileFault Files := do
  if path.toList.contains '\x00' then throw .nulInName
  let r := route fs.home path
  let names := if Path.endsInSlash path then r.names.dropLast else r.names
  fs.makeDirectoriesAt r.start names

def makeLink (target path : String) : Except FileFault Files := do
  if target.toList.contains '\x00' then throw .nulInName
  let place ← fs.locate false path
  if target = "" then throw .notFound
  if (fs.node? place).isSome then throw .alreadyExists
  return fs.put place (.link target)

def remove (path : String) : Except FileFault Files := do
  match ← fs.lookup false path with
  | (_, .directory) => throw .isDirectory
  | (place, _) => return { fs with nodes := fs.nodes.erase place }

def isParent (place : Place) : Bool :=
  fs.nodes.keys.any fun p => place.isPrefixOf p && p ≠ place

def move (source target : Place) : Files :=
  let moved := fs.nodes.entries.map fun e =>
    if source.isPrefixOf e.1 then (target ++ e.1.drop source.length, e.2) else e
  { fs with nodes := .ofList moved }

def rename (source target : String) : Except FileFault Files := do
  let (place, node) ← fs.lookup false source
  let toDirectory := Path.endsInSlash target
  let goal ← fs.locate false (if toDirectory then String.ofList target.toList.dropLast else target)
  if place = goal then return fs
  match node, fs.node? goal with
  | .directory, some .directory =>
    if fs.isParent goal then throw .notEmpty
    if place.isPrefixOf goal then throw .intoItself
    return { fs with nodes := fs.nodes.erase goal }.move place goal
  | .directory, some _ => throw .notDirectory
  | .directory, none =>
    if place.isPrefixOf goal then throw .intoItself
    return fs.move place goal
  | _, some .directory => throw (if toDirectory then .notDirectory else .isDirectory)
  | _, _ =>
    if toDirectory then throw .notDirectory
    return { fs with nodes := (fs.nodes.erase place).insert goal node }

def names (place : Place) : List EntryName :=
  fs.nodes.keys.filterMap fun p =>
    if p.dropLast = place then p.getLast? else none

def fileNames (path : String) : Except FileFault (List EntryName) := do
  match ← fs.lookup true path with
  | (place, .directory) =>
    return (fs.names place).filter fun name =>
      match fs.node? (place ++ [name]) with
      | some (.file ..) => true
      | _ => false
  | _ => throw .notDirectory

end Files
end ClusterCerts
