import ClusterCerts.ManagedCa
import ClusterCerts.Proofs.CaDirectory.Pruning

/-!
# The store of a managed CA

Between two reconciliations a CA is given a signal or a store, or it is pruned, in any order and any
number of times. Only a pruning raises the mark of a CA from whose store something was removed, and
nothing takes the mark back. Which entries are removed depends on their names alone.
-/

namespace ClusterCerts

namespace Retired

def Digits (n : Nat) (text : String) : Prop :=
  text.toList.length = n ∧ ∀ c ∈ text.toList, Text.isDecimalDigit c = true

/-- A date and a time between "ca-" and "Z", with any mark but a line feed before "crt". -/
def HasForm (s : String) : Prop :=
  ∃ year month day hour minute second : String, ∃ mark : Char,
    Digits 4 year ∧ Digits 2 month ∧ Digits 2 day ∧
    Digits 2 hour ∧ Digits 2 minute ∧ Digits 2 second ∧ mark ≠ '\n' ∧
    s = "ca-" ++ year ++ "-" ++ month ++ "-" ++ day ++ "T" ++ hour ++ "-" ++ minute ++ "-" ++
      second ++ "Z" ++ String.singleton mark ++ "crt"

variable {p : Char → Bool} {ps qs : List (Char → Bool)} {cs : List Char}

theorem fits_append_iff : fits (ps ++ qs) cs = true ↔
    ∃ xs ys, cs = xs ++ ys ∧ fits ps xs = true ∧ fits qs ys = true := by
  induction ps generalizing cs with
  | nil =>
    constructor
    · intro h
      exact ⟨[], cs, rfl, rfl, h⟩
    · rintro ⟨xs, ys, rfl, hxs, hys⟩
      cases xs with
      | nil => exact hys
      | cons x xs => cases hxs
  | cons p ps ih =>
    cases cs with
    | nil =>
      constructor
      · intro h
        cases h
      · rintro ⟨xs, ys, hcs, hxs, -⟩
        obtain ⟨rfl, rfl⟩ := List.append_eq_nil_iff.1 hcs.symm
        cases hxs
    | cons c cs =>
      rw [List.cons_append, fits, Bool.and_eq_true, ih]
      constructor
      · rintro ⟨hc, xs, ys, rfl, hxs, hys⟩
        exact ⟨c :: xs, ys, rfl, by rw [fits, hc, hxs]; rfl, hys⟩
      · rintro ⟨xs, ys, hcs, hxs, hys⟩
        cases xs with
        | nil => cases hxs
        | cons x xs =>
          obtain ⟨rfl, rfl⟩ := List.cons.inj hcs
          rw [fits, Bool.and_eq_true] at hxs
          exact ⟨hxs.1, xs, ys, rfl, hxs.2, hys⟩

theorem fits_singleton_iff : fits [p] cs = true ↔ ∃ c, cs = [c] ∧ p c = true := by
  rcases cs with - | ⟨c, - | ⟨c', cs⟩⟩ <;> simp [fits]

theorem fits_text_iff {text : List Char} :
    fits (text.map fun c d => d == c) cs = true ↔ cs = text := by
  induction text generalizing cs with
  | nil => cases cs <;> simp [fits]
  | cons c text ih => cases cs <;> simp [fits, ih]

theorem fits_replicate_iff {n : Nat} :
    fits (List.replicate n p) cs = true ↔ cs.length = n ∧ ∀ c ∈ cs, p c = true := by
  induction n generalizing cs with
  | zero => cases cs <;> simp [fits]
  | succ n ih =>
    cases cs with
    | nil => simp [List.replicate_succ, fits]
    | cons c cs =>
      rw [List.replicate_succ, fits, Bool.and_eq_true, ih]
      simp
      tauto

theorem isName_iff {s : String} : isName s = true ↔ HasForm s := by
  have hpattern : pattern =
      (['c', 'a', '-'].map fun c d => d == c) ++ (List.replicate 4 Text.isDecimalDigit ++
        ((['-'].map fun c d => d == c) ++ (List.replicate 2 Text.isDecimalDigit ++
        ((['-'].map fun c d => d == c) ++ (List.replicate 2 Text.isDecimalDigit ++
        ((['T'].map fun c d => d == c) ++ (List.replicate 2 Text.isDecimalDigit ++
        ((['-'].map fun c d => d == c) ++ (List.replicate 2 Text.isDecimalDigit ++
        ((['-'].map fun c d => d == c) ++ (List.replicate 2 Text.isDecimalDigit ++
        ((['Z'].map fun c d => d == c) ++ ([fun c => c != '\n'] ++
          ['c', 'r', 't'].map fun c d => d == c))))))))))))) := rfl
  rw [isName, hpattern]
  simp only [fits_append_iff, fits_text_iff, fits_replicate_iff, fits_singleton_iff]
  constructor
  · rintro ⟨_, _, hs, rfl, year, _, rfl, hyear, _, _, rfl, rfl, month, _, rfl, hmonth,
      _, _, rfl, rfl, day, _, rfl, hday, _, _, rfl, rfl, hour, _, rfl, hhour,
      _, _, rfl, rfl, minute, _, rfl, hminute, _, _, rfl, rfl, second, _, rfl, hsecond,
      _, _, rfl, rfl, _, _, rfl, ⟨mark, rfl, hmark⟩, rfl⟩
    refine ⟨.ofList year, .ofList month, .ofList day, .ofList hour, .ofList minute,
      .ofList second, mark, ?_⟩
    simp only [Digits, String.toList_ofList]
    refine ⟨hyear, hmonth, hday, hhour, hminute, hsecond, by simpa using hmark, ?_⟩
    rw [← String.toList_inj, hs]
    simp
  · rintro ⟨year, month, day, hour, minute, second, mark, hyear, hmonth, hday, hhour, hminute,
      hsecond, hmark, rfl⟩
    refine ⟨_, _, ?_, rfl, year.toList, _, rfl, hyear, _, _, rfl, rfl, month.toList, _, rfl, hmonth,
      _, _, rfl, rfl, day.toList, _, rfl, hday, _, _, rfl, rfl, hour.toList, _, rfl, hhour,
      _, _, rfl, rfl, minute.toList, _, rfl, hminute, _, _, rfl, rfl, second.toList, _, rfl,
      hsecond, _, _, rfl, rfl, _, _, rfl, ⟨mark, rfl, by simpa using hmark⟩, rfl⟩
    simp

end Retired

namespace ManagedCa

inductive Change
  | signal (signal : RenewalSignal)
  | store (store : CaStore)
  | prune

namespace Change

def apply (ca : ManagedCa) : Change → ManagedCa
  | signal s => ca.withSignal s
  | store s => ca.withStore s
  | prune => ca.prune

def signal? : Change → Option RenewalSignal
  | signal s => some s
  | store _ | prune => none

def store? : Change → Option CaStore
  | store s => some s
  | signal _ | prune => none

variable (ca : ManagedCa) (change : Change)

@[simp] theorem settings_apply : (change.apply ca).settings = ca.settings := by
  cases change <;> rfl

@[simp] theorem authority_apply : (change.apply ca).authority = ca.authority := by
  cases change <;> rfl

theorem signal_apply : (change.apply ca).signal = change.signal?.getD ca.signal := by
  cases change <;> rfl

theorem store_apply_of_supplied (h : ca.settings.selfManaged = false) :
    (change.apply ca).store = change.store?.getD ca.store := by
  cases change with
  | signal s => rfl
  | store s => rfl
  | prune => simp [apply, ManagedCa.prune, CaStore.prune, h, store?]

end Change

def after (ca : ManagedCa) (changes : List Change) : ManagedCa := changes.foldl Change.apply ca

variable {ca : ManagedCa} {change : Change} {changes later : List Change} {name : String}

@[simp] theorem after_nil : ca.after [] = ca := rfl

@[simp] theorem after_cons : ca.after (change :: changes) = (change.apply ca).after changes := rfl

theorem after_append : ca.after (changes ++ later) = (ca.after changes).after later :=
  List.foldl_append

theorem settings_after : (ca.after changes).settings = ca.settings := by
  induction changes generalizing ca with
  | nil => rfl
  | cons change changes ih => rw [after_cons, ih, Change.settings_apply]

theorem authority_after : (ca.after changes).authority = ca.authority := by
  induction changes generalizing ca with
  | nil => rfl
  | cons change changes ih => rw [after_cons, ih, Change.authority_apply]

theorem getLastD_filterMap_cons {α β : Type} (f : α → Option β) (x : α) (xs : List α) (b : β) :
    ((x :: xs).filterMap f).getLastD b = (xs.filterMap f).getLastD ((f x).getD b) := by
  rw [List.filterMap_cons]
  split
  · next h => rw [h, Option.getD_none]
  · next h => rw [h, Option.getD_some, List.getLastD_cons]

theorem signal_after :
    (ca.after changes).signal = (changes.filterMap Change.signal?).getLastD ca.signal := by
  induction changes generalizing ca with
  | nil => rfl
  | cons change changes ih => rw [after_cons, ih, Change.signal_apply, getLastD_filterMap_cons]

def FindsRetired (ca : ManagedCa) (changes : List Change) : Prop :=
  ∃ before later, changes = before ++ .prune :: later ∧
    ∃ name ∈ (ca.after before).store.keys, Retired.HasForm name

theorem not_findsRetired_nil : ¬ca.FindsRetired [] := by
  rintro ⟨before, later, h, -⟩
  cases List.append_eq_nil_iff.1 h.symm |>.2

theorem findsRetired_cons : ca.FindsRetired (change :: changes) ↔
    (change = .prune ∧ ∃ name ∈ ca.store.keys, Retired.HasForm name) ∨
      (change.apply ca).FindsRetired changes := by
  constructor
  · rintro ⟨before, later, h, hname⟩
    cases before with
    | nil =>
      obtain ⟨rfl, rfl⟩ := List.cons.inj h
      exact .inl ⟨rfl, hname⟩
    | cons first before =>
      obtain ⟨rfl, rfl⟩ := List.cons.inj h
      exact .inr ⟨before, later, rfl, hname⟩
  · rintro (⟨rfl, hname⟩ | ⟨before, later, rfl, hname⟩)
    · exact ⟨[], changes, rfl, hname⟩
    · exact ⟨change :: before, later, rfl, hname⟩

theorem FindsRetired.append (h : ca.FindsRetired changes) :
    ca.FindsRetired (changes ++ later) := by
  obtain ⟨before, rest, rfl, hname⟩ := h
  exact ⟨before, rest ++ later, by simp, hname⟩

theorem pruned_prune : ca.prune.pruned = true ↔
    ca.pruned = true ∨ ca.settings.selfManaged = true ∧
      ∃ name ∈ ca.store.keys, Retired.HasForm name := by
  have hprunable : ca.prunable.isEmpty = false ↔
      ca.settings.selfManaged = true ∧ ∃ name ∈ ca.store.keys, Retired.HasForm name := by
    rw [← Bool.not_eq_true, List.isEmpty_iff, List.eq_nil_iff_forall_not_mem, not_forall]
    simp only [not_not, prunable, CaStore.mem_prunable, Retired.isName_iff]
    tauto
  rw [prune, Bool.or_eq_true, Bool.not_eq_true', hprunable]

theorem pruned_apply : (change.apply ca).pruned = true ↔
    ca.pruned = true ∨ ca.settings.selfManaged = true ∧
      change = .prune ∧ ∃ name ∈ ca.store.keys, Retired.HasForm name := by
  cases change with
  | signal s => simp [Change.apply, withSignal]
  | store s => simp [Change.apply, withStore]
  | prune => simpa [Change.apply] using pruned_prune

theorem pruned_after : (ca.after changes).pruned = true ↔
    ca.pruned = true ∨ ca.settings.selfManaged = true ∧ ca.FindsRetired changes := by
  induction changes generalizing ca with
  | nil => simp [not_findsRetired_nil]
  | cons change changes ih =>
    rw [after_cons, ih, pruned_apply, findsRetired_cons, Change.settings_apply, and_or_left,
      or_assoc]

theorem get?_prune (h : ca.settings.selfManaged = true) :
    ca.prune.store.get? name = (ca.store.get? name).filter fun _ => !Retired.isName name := by
  rw [prune, CaStore.prune, if_pos h, SortedMap.get?_filter]

theorem prune_store (h : ca.settings.selfManaged = true) (name : String) :
    (Retired.HasForm name → name ∉ ca.prune.store.keys) ∧
      (¬Retired.HasForm name → ca.prune.store.get? name = ca.store.get? name) := by
  rw [← SortedMap.get?_eq_none_iff, get?_prune h, ← Retired.isName_iff]
  constructor
  · intro hname
    simp [hname]
  · intro hname
    rw [Bool.not_eq_true] at hname
    cases ca.store.get? name <;> simp [hname]

theorem store_after_of_supplied (h : ca.settings.selfManaged = false) :
    (ca.after changes).store = (changes.filterMap Change.store?).getLastD ca.store := by
  induction changes generalizing ca with
  | nil => rfl
  | cons change changes ih =>
    have hsettings : (change.apply ca).settings.selfManaged = false := by
      rw [Change.settings_apply, h]
    rw [after_cons, ih hsettings, Change.store_apply_of_supplied ca change h,
      getLastD_filterMap_cons]

theorem not_hasForm_currentCertEntry : ¬Retired.HasForm currentCertEntry := by
  rw [← Retired.isName_iff]
  decide +kernel

/-- After any changes to a new CA, its mark tells whether a pruning found something to remove. One
more pruning leaves the store of a CA supplied by a user as it was put there, and removes what has
the form of a retired name, and nothing else, from the store of a CA that the operator made. -/
theorem store_of_changes (settings : CaSettings) (authority : Authority) (changes : List Change) :
    let first := ofAuthority settings authority
    let ca := first.after changes
    (ca.pruned = true ↔ settings.selfManaged = true ∧ first.FindsRetired changes) ∧
    (ca.pruned = true → ∀ later, (first.after (changes ++ later)).pruned = true) ∧
    (settings.selfManaged = true →
      ∀ name, (Retired.HasForm name → name ∉ (first.after (changes ++ [.prune])).store.keys) ∧
        (¬Retired.HasForm name →
          (first.after (changes ++ [.prune])).store.get? name = ca.store.get? name)) ∧
    ¬Retired.HasForm currentCertEntry ∧
    (settings.selfManaged = false →
      ca.store = (changes.filterMap Change.store?).getLastD
        (.ofList [(currentCertEntry, Bytes.ofString authority.certPem)])) ∧
    ca.settings = settings ∧ ca.authority = authority ∧
    ca.signal = (changes.filterMap Change.signal?).getLastD .noRenewal ∧
    (first.after (changes ++ [.prune])).settings = ca.settings ∧
    (first.after (changes ++ [.prune])).authority = ca.authority ∧
    (first.after (changes ++ [.prune])).signal = ca.signal := by
  intro first ca
  have hpruned (changes : List Change) : (first.after changes).pruned = true ↔
      settings.selfManaged = true ∧ first.FindsRetired changes := by
    rw [pruned_after]
    simp [first, ofAuthority]
  have hprune : first.after (changes ++ [.prune]) = ca.prune := after_append
  have hsettings : ca.settings = settings := settings_after
  refine ⟨hpruned changes, ?_, ?_, not_hasForm_currentCertEntry, fun h => ?_, hsettings,
    authority_after, signal_after, ?_⟩
  · intro h later
    obtain ⟨hmanaged, hfinds⟩ := (hpruned changes).1 h
    exact (hpruned (changes ++ later)).2 ⟨hmanaged, hfinds.append⟩
  · intro hmanaged name
    rw [← hsettings] at hmanaged
    rw [hprune]
    exact prune_store hmanaged name
  · have hsupplied : first.settings.selfManaged = false := h
    exact store_after_of_supplied hsupplied
  · rw [hprune]
    exact ⟨rfl, rfl, rfl⟩

end ManagedCa

end ClusterCerts
