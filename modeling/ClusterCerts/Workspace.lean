import ClusterCerts.CommandError
import ClusterCerts.Entropy
import ClusterCerts.Event
import ClusterCerts.Files
import ClusterCerts.Instant
import ClusterCerts.Outcome

/-!
# Workspaces

What a command needs of its surroundings: files, the time, chance and a log. Commands are
written for every workspace; here is one that is a value, in which a command is a function
from a world to its result and the world that it leaves behind, also when it fails.
-/

namespace ClusterCerts

/-- The surroundings of a command. An operation on files that fails ends the command. -/
class Workspace (m : Type → Type) where
  makeDirectories : String → m Unit
  present : String → m Bool
  isFile : String → m Bool
  read : String → m Bytes
  write : String → Bytes → m Unit
  restrict : String → m Unit
  rename : String → String → m Unit
  remove : String → m Unit
  fileNames : String → m (List EntryName)
  now : m Instant
  entropy : m Entropy
  report : List Event → m Unit

structure World where
  files : Files
  clock : Instant
  entropy : Entropy
  events : List Event := []
deriving DecidableEq

abbrev Session := ExceptT CommandError (StateM World)

namespace Session

def ask {α : Type} (f : Files → Except FileFault α) : Session α := do
  match f (← get).files with
  | .ok a => return a
  | .error fault => throw (.io fault)

def change (f : Files → Except FileFault Files) : Session Unit := do
  let files ← ask f
  modify fun w => { w with files }

def splitEntropy : Session Entropy := do
  let w ← get
  let (n, rest) := w.entropy.draw
  set { w with entropy := rest }
  return ⟨Bytes.ofNat 64 n, 0⟩

instance : Workspace Session where
  makeDirectories path := change fun fs => fs.makeDirectories path
  present path := return (← get).files.present path
  isFile path := return (← get).files.isFile path
  read path := ask fun fs => fs.read path
  write path content := change fun fs => fs.write path content
  restrict path := change fun fs => fs.restrict path
  rename source target := change fun fs => fs.rename source target
  remove path := change fun fs => fs.remove path
  fileNames path := ask fun fs => fs.fileNames path
  now := return (← get).clock
  entropy := splitEntropy
  report events := modify fun w => { w with events := w.events ++ events }

variable {α β : Type} {w w' : World} {e : CommandError}

def outcome (x : Session α) (w : World) : Except CommandError α × World := x.run.run w

@[simp] theorem outcome_pure (a : α) : outcome (pure a : Session α) w = (.ok a, w) := rfl

@[simp] theorem outcome_throw : outcome (throw e : Session α) w = (.error e, w) := rfl

@[simp] theorem outcome_get : outcome (get : Session World) w = (.ok w, w) := rfl

@[simp] theorem outcome_modify (f : World → World) :
    outcome (modify f : Session Unit) w = (.ok (), f w) := rfl

theorem outcome_bind (x : Session α) (f : α → Session β) :
    outcome (x >>= f) w =
      match outcome x w with
      | (.ok a, w') => outcome (f a) w'
      | (.error e, w') => (.error e, w') := by
  unfold outcome
  rw [ExceptT.run_bind, StateT.run_bind]
  cases hx : StateT.run (ExceptT.run x) w with
  | mk r w' =>
    cases r with
    | ok a => rfl
    | error e => rfl

theorem outcome_bind_error {x : Session α} {f : α → Session β}
    (h : outcome (x >>= f) w = (.error e, w')) :
    outcome x w = (.error e, w') ∨
      ∃ a w₁, outcome x w = (.ok a, w₁) ∧ outcome (f a) w₁ = (.error e, w') := by
  rw [outcome_bind] at h
  split at h
  · next a w₁ hx => exact .inr ⟨a, w₁, hx, h⟩
  · next hx =>
    cases h
    exact .inl hx

theorem outcome_bind_ok {x : Session α} {f : α → Session β} {b : β}
    (h : outcome (x >>= f) w = (.ok b, w')) :
    ∃ a w₁, outcome x w = (.ok a, w₁) ∧ outcome (f a) w₁ = (.ok b, w') := by
  rw [outcome_bind] at h
  split at h
  · next a w₁ hx => exact ⟨a, w₁, hx, h⟩
  · cases h

theorem outcome_ask (f : Files → Except FileFault α) :
    outcome (ask f) w =
      match f w.files with
      | .ok a => (.ok a, w)
      | .error fault => (.error (.io fault), w) := by
  rw [ask, outcome_bind, outcome_get]
  cases hf : f w.files with
  | ok a => simp [hf]
  | error fault => simp [hf]

theorem outcome_change (f : Files → Except FileFault Files) :
    outcome (change f) w =
      match f w.files with
      | .ok files => (.ok (), { w with files })
      | .error fault => (.error (.io fault), w) := by
  rw [change, outcome_bind, outcome_ask]
  cases hf : f w.files with
  | ok files => simp
  | error fault => simp

@[simp] theorem outcome_present (path : String) :
    outcome (Workspace.present path) w = (.ok (w.files.present path), w) := rfl

@[simp] theorem outcome_now : outcome Workspace.now w = (.ok w.clock, w) := rfl

@[simp] theorem outcome_report (events : List Event) :
    outcome (Workspace.report events) w = (.ok (), { w with events := w.events ++ events }) := rfl

theorem outcome_makeDirectories (path : String) :
    outcome (Workspace.makeDirectories path) w =
      match w.files.makeDirectories path with
      | .ok files => (.ok (), { w with files })
      | .error fault => (.error (.io fault), w) := outcome_change _

theorem outcome_rename (source target : String) :
    outcome (Workspace.rename source target) w =
      match w.files.rename source target with
      | .ok files => (.ok (), { w with files })
      | .error fault => (.error (.io fault), w) := outcome_change _

theorem outcome_write (path : String) (content : Bytes) :
    outcome (Workspace.write path content) w =
      match w.files.write path content with
      | .ok files => (.ok (), { w with files })
      | .error fault => (.error (.io fault), w) := outcome_change _

theorem outcome_restrict (path : String) :
    outcome (Workspace.restrict path) w =
      match w.files.restrict path with
      | .ok files => (.ok (), { w with files })
      | .error fault => (.error (.io fault), w) := outcome_change _

theorem outcome_read (path : String) :
    outcome (Workspace.read path) w =
      match w.files.read path with
      | .ok content => (.ok content, w)
      | .error fault => (.error (.io fault), w) := by
  refine (outcome_ask fun fs => fs.read path).trans ?_
  cases w.files.read path with
  | ok content => rfl
  | error fault => rfl

def drawn (w : World) : Entropy := ⟨Bytes.ofNat 64 w.entropy.draw.1, 0⟩

theorem outcome_entropy :
    outcome Workspace.entropy w = (.ok (drawn w), { w with entropy := w.entropy.draw.2 }) := rfl

end Session

namespace Workspace

variable {m : Type → Type} [Monad m] [MonadExceptOf CommandError m] [Workspace m] {α : Type}

def readText (path : String) : m String := do
  match Bytes.toString? (← read path) with
  | some text => return text
  | none => throw (.io .notText)

def orThrow (r : Except Error α) : m α :=
  match r with
  | .ok a => return a
  | .error cause => throw (.certificate cause)

def perform (task : Entropy → Outcome Entropy α) : m α := do
  let o := task (← entropy)
  report o.events
  orThrow o.result

theorem outcome_orThrow (r : Except Error α) (w : World) :
    Session.outcome (orThrow r) w = (r.mapError .certificate, w) := by
  cases r with
  | ok a => rfl
  | error e => rfl

theorem outcome_perform (task : Entropy → Outcome Entropy α) (w : World) :
    Session.outcome (perform task) w =
      ((task (Session.drawn w)).result.mapError .certificate,
        { w with
          entropy := w.entropy.draw.2
          events := w.events ++ (task (Session.drawn w)).events }) := by
  rw [perform, Session.outcome_bind, Session.outcome_entropy]
  simp only [Session.outcome_bind, Session.outcome_report, outcome_orThrow]

end Workspace
end ClusterCerts
