import ClusterCerts.Naming
import ClusterCerts.Report
import ClusterCerts.Request

/-!
# Arguments

The words of a command line. Options may come in any order before the command they do not
belong to, each at most once; a value follows its option as the next word, or after `=`. The
value of an option is looked at when the next option of the same level comes or the level
ends, and a command is read to its end before the options in front of it are settled.
-/

namespace ClusterCerts

inductive UsageFault
  | help
  | version
  | nothingSaid
  | commandMissing
  | commandUnknown
  | optionMissing
  | wordUnknown
  | valueInvalid
  | numberRefused
  | valueUnneeded
  | optionRepeated
deriving DecidableEq, Repr

inductive Command
  | initCa (out name : String) (validityDays : UInt32) (force : Bool)
  | reconcile (ca request : String) (existing out : Option String)
  | prune (ca : String) (selfManaged : Bool)
deriving DecidableEq, Repr

structure Invocation where
  domain : String
  format : Format
  command : Command
deriving DecidableEq, Repr

namespace Arguments

inductive Role
  | flag
  | help
  | version
  | text
  | path
  | days
  | format
deriving DecidableEq, Repr

def Role.valued : Role → Bool
  | flag | help | version => false
  | text | path | days | format => true

structure Spec where
  name : String
  role : Role
  short : Option Char := none
  fallback : Option String := none
  required : Bool := false
deriving DecidableEq, Repr

structure Level where
  options : List Spec
  commands : List String := []

def helpOption : Spec := { name := "help", role := .help, short := some 'h' }

def top : Level where
  options :=
    [{ name := "cluster-domain", role := .text, fallback := some "KUBERNETES_SERVICE_DNS_DOMAIN" },
      { name := "format", role := .format, short := some 'f' },
      helpOption, { name := "version", role := .version, short := some 'V' }]
  commands := ["init-ca", "reconcile", "prune", "help"]

def caOption : Spec :=
  { name := "ca", role := .path, fallback := some "CLUSTER_PKI_CA_DIR", required := true }

def initCaLevel : Level where
  options :=
    [{ name := "out", role := .path, required := true }, { name := "name", role := .text },
      { name := "validity-days", role := .days }, { name := "force", role := .flag }, helpOption]

def reconcileLevel : Level where
  options :=
    [caOption, { name := "request", role := .path, required := true },
      { name := "existing", role := .path }, { name := "out", role := .path }, helpOption]

def pruneLevel : Level where
  options := [caOption, { name := "self-managed", role := .flag }, helpOption]

def number? (s : String) : Option Int :=
  let (negative, digits) := match s.toList with
    | '-' :: cs => (true, cs)
    | '+' :: cs => (false, cs)
    | cs => (false, cs)
  if digits.isEmpty || !digits.all Char.isDigit then none
  else
    let n : Nat := digits.foldl (fun n c => n * 10 + (c.toNat - 48)) 0
    some (if negative then -(n : Int) else n)

def days? (s : String) : Option UInt32 :=
  match number? s with
  | some n => if 1 ≤ n ∧ n ≤ maxValidityDays.toNat then some (UInt32.ofNat n.toNat) else none
  | none => none

def check (role : Role) (value : String) : Except UsageFault Unit :=
  match role with
  | .path => if value = "" then .error .valueInvalid else .ok ()
  | .days => if (days? value).isSome then .ok () else .error .numberRefused
  | .format => if (Format.ofName? value).isSome then .ok () else .error .valueInvalid
  | _ => .ok ()

/-- What is known of a level: the options given, and the last one with a value of its own
while that is still to come or to be looked at. -/
structure Reading where
  given : List (String × String) := []
  pending : Option (Spec × Option String) := none

namespace Reading

def get? (r : Reading) (name : String) : Option String := r.given.lookup name

def has (r : Reading) (name : String) : Bool := (r.get? name).isSome

def awaits (r : Reading) : Bool :=
  match r.pending with
  | some (_, none) => true
  | _ => false

def give (r : Reading) (o : Spec) (value : String) : Except UsageFault Reading := do
  if r.has o.name then throw .optionRepeated
  check o.role value
  return { r with given := (o.name, value) :: r.given }

def settle (r : Reading) : Except UsageFault Reading :=
  match r.pending with
  | none => .ok r
  | some (_, none) => .error .valueInvalid
  | some (o, some value) => { r with pending := none }.give o value

def raise (r : Reading) (o : Spec) : Except UsageFault Reading := do
  let r ← r.settle
  match o.role with
  | .help => throw .help
  | .version => throw .version
  | .flag => r.give o ""
  | _ => return { r with pending := some (o, none) }

def attach (r : Reading) (o : Spec) (value : String) : Except UsageFault Reading := do
  (← r.settle).give o value

def accept (r : Reading) (value : String) : Reading :=
  { r with pending := r.pending.map fun p => (p.1, some value) }

end Reading

def long? : List Char → Option (String × Option String)
  | '-' :: '-' :: c :: cs =>
    let name := (c :: cs).takeWhile (· ≠ '=')
    some (String.ofList name, ((c :: cs).drop name.length).tail?.map String.ofList)
  | _ => none

def short? : List Char → Option (List Char)
  | '-' :: c :: cs => if c = '-' then none else some (c :: cs)
  | _ => none

def readLong (level : Level) (r : Reading) (name : String) (value : Option String) :
    Except UsageFault Reading :=
  match level.options.find? fun o => o.name = name with
  | none => .error .wordUnknown
  | some o =>
    match value with
    | none => r.raise o
    | some value => if o.role.valued then r.attach o value else .error .valueUnneeded

/-- Reads letters that are options each, up to one that takes the rest as its value. -/
def readShort (level : Level) (r : Reading) : List Char → Except UsageFault Reading
  | [] => .ok r
  | c :: cs =>
    match level.options.find? fun o => o.short = some c with
    | none => .error .wordUnknown
    | some o =>
      if o.role.valued then
        match cs with
        | [] => r.raise o
        | '=' :: value | value => r.attach o (String.ofList value)
      else r.raise o >>= fun r => readShort level r cs

def stray (level : Level) : UsageFault :=
  if level.commands.isEmpty then .wordUnknown else .commandUnknown

def afterDashes (level : Level) (r : Reading) : List String → Except UsageFault Reading
  | [] => .ok r
  | w :: _ => .error (if w ∈ level.commands then .wordUnknown else stray level)

def readWords (level : Level) (r : Reading) :
    List String → Except UsageFault (Reading × Option (String × List String))
  | [] => .ok (r, none)
  | w :: ws =>
    if !r.awaits && w ∈ level.commands then .ok (r, some (w, ws))
    else if w = "--" then (afterDashes level r ws).map (·, none)
    else match long? w.toList, short? w.toList with
      | some (name, value), _ => readLong level r name value >>= fun r => readWords level r ws
      | none, some letters => readShort level r letters >>= fun r => readWords level r ws
      | none, none =>
        if r.awaits then readWords level (r.accept w) ws else .error (stray level)

def finish (env : List (String × String)) (level : Level) (r : Reading) :
    Except UsageFault Reading := do
  let r ← r.settle
  level.options.foldlM (fun r o =>
    match o.fallback >>= fun name => env.lookup name with
    | some value => if r.has o.name then .ok r else r.give o value
    | none => .ok r) r

def readLevel (env : List (String × String)) (level : Level) (words : List String) :
    Except UsageFault Reading := do
  let (r, _) ← readWords level {} words
  let r ← finish env level r
  if level.options.all fun o => !o.required || r.has o.name then return r
  else throw .optionMissing

def defaultCaName : String := "Cluster CA"

/-- Help is given for the commands there are, and for those have none of their own. -/
def readHelp : List String → UsageFault
  | [] => .help
  | [name] => if name ∈ top.commands then .help else .commandUnknown
  | _ => .commandUnknown

def command (env : List (String × String)) (name : String) (words : List String) :
    Except UsageFault Command := do
  if name = "init-ca" then
    let r ← readLevel env initCaLevel words
    return .initCa ((r.get? "out").getD "") ((r.get? "name").getD defaultCaName)
      ((r.get? "validity-days" >>= days?).getD defaultValidityDays) (r.has "force")
  else if name = "reconcile" then
    let r ← readLevel env reconcileLevel words
    return .reconcile ((r.get? "ca").getD "") ((r.get? "request").getD "") (r.get? "existing")
      (r.get? "out")
  else if name = "prune" then
    let r ← readLevel env pruneLevel words
    return .prune ((r.get? "ca").getD "") (r.has "self-managed")
  else throw (readHelp words)

end Arguments

open Arguments in
def Invocation.ofWords (env : List (String × String)) (words : List String) :
    Except UsageFault Invocation := do
  let (r, found) ← readWords top {} words
  let command ← found.mapM fun (name, words) => Arguments.command env name words
  let r ← finish env top r
  match command with
  | some command =>
    return { domain := (r.get? "cluster-domain").getD defaultDomain
             format := (r.get? "format" >>= Format.ofName?).getD .table
             command }
  | none => throw (if r.given.isEmpty then .nothingSaid else .commandMissing)

end ClusterCerts
