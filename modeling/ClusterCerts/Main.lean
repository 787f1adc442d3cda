import ClusterCerts.Commands
import Std.Time.DateTime.Timestamp

/-!
# The program

Runs the command line of a process in the workspace that surrounds it: its files, its clock
and the entropy of its system. A refused command line ends with status 2 and a failed command
with status 1.
-/

namespace ClusterCerts

abbrev Live := ExceptT CommandError IO

namespace Live

def fault : IO.Error → FileFault
  | .noFileOrDirectory .. => .notFound
  | .alreadyExists .. => .alreadyExists
  | .inappropriateType _ 20 _ => .notDirectory
  | .inappropriateType _ 21 _ => .isDirectory
  | e => .other (toString e)

def attempt {α : Type} (act : IO α) : Live α := do
  match ← act.toBaseIO with
  | .ok a => return a
  | .error e => throw (.io (fault e))

def entry (path : String) : IO.FS.DirEntry := { root := ".", fileName := path }

/-- The names of the regular files in a directory. The system hands out every name as a text,
and under the text for a name that is none there is nothing, so such an entry is left out. -/
def regularNames (path : String) : IO (List EntryName) := do
  let entries ← (entry path).path.readDir
  entries.toList.filterMapM fun e => do
    match ← e.path.symlinkMetadata.toBaseIO with
    | .ok found => return if found.type == .file then some (.text e.fileName) else none
    | .error (.noFileOrDirectory ..) => return none
    | .error fault => throw fault

def instant (nanos : Int) : Instant :=
  (Instant.ofParts? (nanos / 1000000000) (nanos % 1000000000).toNat).getD
    ⟨0, 0, by decide, by decide⟩

instance : Workspace Live where
  makeDirectories path := attempt (IO.FS.createDirAll path)
  present path := (entry path).path.pathExists
  isFile path := do
    match ← (entry path).path.metadata.toBaseIO with
    | .ok found => return found.type == .file
    | .error _ => return false
  read path := return (← attempt (IO.FS.readBinFile path)).toList
  write path content := attempt (IO.FS.writeBinFile path ⟨content.toArray⟩)
  restrict path :=
    attempt (IO.setAccessRights path { user := { read := true, write := true } })
  rename source target := attempt (IO.FS.rename source target)
  remove path := attempt (IO.FS.removeFile path)
  fileNames path := attempt (regularNames path)
  now := return instant (← attempt Std.Time.Timestamp.now).toNanosecondsSinceUnixEpoch.val
  entropy := return { seed := (← attempt (IO.getRandomBytes 64)).toList }
  report _ := return

end Live

def versionText : String := "cluster-pki 0.1.0\n"

def usageText : String :=
  "Usage: cluster-pki [--cluster-domain DOMAIN] [--format table|json] COMMAND\n\n" ++
  "Commands:\n" ++
  "  init-ca --out DIR [--name NAME] [--validity-days DAYS] [--force]\n" ++
  "  reconcile --ca DIR --request FILE [--existing FILE] [--out FILE]\n" ++
  "  prune --ca DIR [--self-managed]\n"

def refuse : UsageFault → IO UInt32
  | .help => do
    IO.print usageText
    return 0
  | .version => do
    IO.print versionText
    return 0
  | _ => do
    IO.eprint usageText
    return 2

def environmentNames : List String :=
  [Arguments.top, Arguments.reconcileLevel].flatMap fun level =>
    level.options.filterMap Arguments.Spec.fallback

def runWords (words : List String) : IO UInt32 := do
  let env ← environmentNames.filterMapM fun name =>
    return (← IO.getEnv name).map fun value => (name, value)
  match Invocation.ofWords env words with
  | .error fault => refuse fault
  | .ok invocation =>
    match ← (invocation.run : Live String).run with
    | .ok text =>
      IO.print text
      return 0
    | .error e =>
      IO.eprintln ("Error: " ++ e.message)
      return 1

end ClusterCerts

def main (words : List String) : IO UInt32 := ClusterCerts.runWords words
