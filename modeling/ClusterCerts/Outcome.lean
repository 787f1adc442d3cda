import ClusterCerts.Event

/-!
# Outcomes

What a task leaves behind that may fail: its result, the events it reported up to its end,
and the state that it passes on, also when it fails.
-/

namespace ClusterCerts

structure Outcome (σ α : Type) where
  result : Except Error α
  events : List Event
  state : σ

theorem Except.eq_ok_of_toOption {ε α : Type} {r : Except ε α} {a : α}
    (h : r.toOption = some a) : r = .ok a := by
  cases r with
  | ok b => exact congrArg Except.ok (Option.some.inj h)
  | error e => cases h

namespace Outcome

variable {σ α β : Type}

def fail (e : Error) (s : σ) : Outcome σ α := ⟨.error e, [], s⟩

def after (events : List Event) (o : Outcome σ α) : Outcome σ α :=
  { o with events := events ++ o.events }

def bind (o : Outcome σ α) (f : α → σ → Outcome σ β) : Outcome σ β :=
  match o.result with
  | .ok a => (f a o.state).after o.events
  | .error e => ⟨.error e, o.events, o.state⟩

def map (f : α → β) (o : Outcome σ α) : Outcome σ β := { o with result := o.result.map f }

variable {o : Outcome σ α} {f : α → σ → Outcome σ β}

theorem eq_mk {r : Except Error α} {s : σ} (hr : o.result = r) (hs : o.state = s) :
    o = ⟨r, o.events, s⟩ := by
  subst hr hs
  rfl

@[simp] theorem fail_result (e : Error) (s : σ) : (fail e s : Outcome σ α).result = .error e := rfl

@[simp] theorem after_result (events : List Event) : (o.after events).result = o.result := rfl

@[simp] theorem after_state (events : List Event) : (o.after events).state = o.state := rfl

@[simp] theorem map_result (g : α → β) : (o.map g).result = o.result.map g := rfl

@[simp] theorem map_state (g : α → β) : (o.map g).state = o.state := rfl

theorem bind_of_ok {a : α} (h : o.result = .ok a) :
    o.bind f = (f a o.state).after o.events := by
  simp [bind, h]

theorem bind_of_error {e : Error} (h : o.result = .error e) :
    o.bind f = ⟨.error e, o.events, o.state⟩ := by
  simp [bind, h]

theorem bind_ok_iff {b : β} :
    (o.bind f).result = .ok b ↔ ∃ a, o.result = .ok a ∧ (f a o.state).result = .ok b := by
  cases h : o.result with
  | ok a => simp [bind_of_ok h]
  | error e => simp [bind_of_error h]

theorem map_ok_iff {g : α → β} {b : β} :
    (o.map g).result = .ok b ↔ ∃ a, o.result = .ok a ∧ g a = b := by
  rw [map_result]
  cases o.result <;> simp [Except.map]

end Outcome
end ClusterCerts
