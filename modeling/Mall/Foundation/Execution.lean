/-
Atomic transactions and their histories.

A transaction body either returns the state it commits or fails and rolls
back.  A history is any finite list of operations, each run to its end before
the next one starts, so every interleaving of atomic bodies is one history.
-/

import Mathlib.Algebra.BigOperators.Group.List.Basic
import Mathlib.Algebra.Ring.Int.Defs

namespace Transactional

variable {ε σ ω α β : Type}

/-- Abort with `fault` unless the condition holds. -/
def require (condition : Prop) [Decidable condition] (fault : ε) : Except ε Unit :=
  if condition then .ok () else .error fault

@[simp] theorem require_eq_ok {condition : Prop} [Decidable condition] {fault : ε} {done : Unit} :
    require condition fault = .ok done ↔ condition := by
  unfold require
  split <;> simp_all

theorem require_of {condition : Prop} [Decidable condition] {fault : ε} (holds : condition) :
    require condition fault = .ok () :=
  if_pos holds

theorem require_of_not {condition : Prop} [Decidable condition] {fault : ε}
    (fails : ¬ condition) : require condition fault = .error fault :=
  if_neg fails

/-- The row a query returned, or the fault its absence is reported as. -/
def found (result : Option α) (fault : ε) : Except ε α :=
  match result with
  | none => .error fault
  | some row => .ok row

@[simp] theorem found_eq_ok {result : Option α} {fault : ε} {row : α} :
    found result fault = .ok row ↔ result = some row := by
  cases result <;> simp [found]

@[simp] theorem found_some {row : α} {fault : ε} : found (some row) fault = .ok row := rfl

theorem bind_eq_ok {body : Except ε α} {rest : α → Except ε β} {result : β} :
    body >>= rest = .ok result ↔ ∃ value, body = .ok value ∧ rest value = .ok result := by
  cases body with
  | error fault => simp [bind, Except.bind]
  | ok value => simp [bind, Except.bind]

@[simp] theorem ok_bind {value : α} {rest : α → Except ε β} :
    ((.ok value : Except ε α) >>= rest) = rest value := rfl

@[simp] theorem error_bind {fault : ε} {rest : α → Except ε β} :
    ((.error fault : Except ε α) >>= rest) = .error fault := rfl

@[simp] theorem pure_eq_ok {value result : α} :
    (pure value : Except ε α) = .ok result ↔ value = result := by
  simp [pure, Except.pure]

theorem map_eq_ok {change : α → β} {body : Except ε α} {result : β} :
    body.map change = .ok result ↔ ∃ value, body = .ok value ∧ change value = result := by
  cases body with
  | error fault => simp [Except.map]
  | ok value => simp [Except.map]

/-! ### Faults that a body cannot raise -/

def Avoids (fault : ε) (outcome : Except ε α) : Prop :=
  outcome ≠ .error fault

theorem Avoids.ok {fault : ε} (value : α) : Avoids fault (.ok value : Except ε α) :=
  nofun

theorem Avoids.error {fault other : ε} (different : other ≠ fault) :
    Avoids fault (.error other : Except ε α) := by
  intro same
  exact different (Except.error.inj same)

theorem Avoids.require {condition : Prop} [Decidable condition] {fault other : ε}
    (different : other ≠ fault) : Avoids fault (require condition other) := by
  unfold Transactional.require
  split
  · exact .ok ()
  · exact .error different

theorem Avoids.found {result : Option α} {fault other : ε} (different : other ≠ fault) :
    Avoids fault (found result other) := by
  cases result with
  | none => exact .error different
  | some row => exact .ok row

theorem Avoids.bind {fault : ε} {body : Except ε α} {rest : α → Except ε β}
    (first : Avoids fault body) (second : ∀ value, Avoids fault (rest value)) :
    Avoids fault (body >>= rest) := by
  cases body with
  | error other => exact .error (fun same => first (congrArg Except.error same))
  | ok value => exact second value

theorem Avoids.of_bind {fault : ε} {body : Except ε α} {rest : α → Except ε β}
    (fails : body >>= rest = .error fault) (first : Avoids fault body) :
    ∃ value, body = .ok value ∧ rest value = .error fault := by
  cases body with
  | error other => exact absurd (congrArg Except.error (Except.error.inj fails)) first
  | ok value => exact ⟨value, rfl, fails⟩

/-- Commit on success, roll back on failure. -/
def commit (body : σ → Except ε σ) (state : σ) : σ :=
  match body state with
  | .ok committed => committed
  | .error _ => state

theorem commit_of_ok {body : σ → Except ε σ} {state committed : σ}
    (succeeds : body state = .ok committed) : commit body state = committed := by
  rw [commit, succeeds]

theorem commit_of_error {body : σ → Except ε σ} {state : σ} {fault : ε}
    (fails : body state = .error fault) : commit body state = state := by
  rw [commit, fails]

theorem commit_cases (body : σ → Except ε σ) (state : σ) :
    commit body state = state ∨ body state = .ok (commit body state) := by
  cases outcome : body state with
  | error fault => exact Or.inl (commit_of_error outcome)
  | ok committed => exact Or.inr (by rw [commit_of_ok outcome])

/-! ### Histories -/

def run (next : ω → σ → σ) (state : σ) (history : List ω) : σ :=
  history.foldl (fun current operation => next operation current) state

@[simp] theorem run_nil (next : ω → σ → σ) (state : σ) : run next state [] = state := rfl

@[simp] theorem run_cons (next : ω → σ → σ) (state : σ) (operation : ω) (history : List ω) :
    run next state (operation :: history) = run next (next operation state) history := rfl

theorem run_append (next : ω → σ → σ) (state : σ) (first second : List ω) :
    run next state (first ++ second) = run next (run next state first) second :=
  List.foldl_append

def Reachable (initial : σ → Prop) (next : ω → σ → σ) (state : σ) : Prop :=
  ∃ start history, initial start ∧ run next start history = state

variable {initial : σ → Prop} {next : ω → σ → σ}

theorem Reachable.start {state : σ} (starts : initial state) :
    Reachable initial next state :=
  ⟨state, [], starts, rfl⟩

theorem Reachable.step {state : σ} (reached : Reachable initial next state) (operation : ω) :
    Reachable initial next (next operation state) := by
  obtain ⟨start, history, starts, rfl⟩ := reached
  exact ⟨start, history ++ [operation], starts, by rw [run_append]; rfl⟩

theorem Reachable.run {state : σ} (reached : Reachable initial next state) (history : List ω) :
    Reachable initial next (run next state history) := by
  induction history generalizing state with
  | nil => exact reached
  | cons operation rest ih => exact ih (reached.step operation)

/-- Invariant rule: true at the start and kept by every step from a reachable
state, hence true in every reachable state. -/
theorem Reachable.invariant {motive : σ → Prop}
    (base : ∀ state, initial state → motive state)
    (step : ∀ state operation, Reachable initial next state → motive state →
      motive (next operation state))
    {state : σ} (reached : Reachable initial next state) : motive state := by
  obtain ⟨start, history, starts, rfl⟩ := reached
  have continued : ∀ (history : List ω) (current : σ), Reachable initial next current →
      motive current → motive (Transactional.run next current history) := by
    intro history
    induction history with
    | nil => intro current _ holds; exact holds
    | cons operation rest ih =>
        intro current reachedCurrent holds
        exact ih _ (reachedCurrent.step operation) (step current operation reachedCurrent holds)
  exact continued history start (.start starts) (base start starts)

theorem run_acquires {property : σ → Prop} {state : σ} {history : List ω}
    (before : ¬ property state) (after : property (run next state history)) :
    ∃ earlier operation later, history = earlier ++ operation :: later ∧
      ¬ property (run next state earlier) ∧
      property (next operation (run next state earlier)) := by
  induction history generalizing state with
  | nil => exact absurd after before
  | cons operation rest ih =>
      by_cases now : property (next operation state)
      · exact ⟨[], operation, rest, rfl, before, now⟩
      · obtain ⟨earlier, cause, later, split, absent, present⟩ := ih now after
        exact ⟨operation :: earlier, cause, later, by rw [split]; rfl, absent, present⟩

/-- Every step of the history meets the condition in the state it starts from. -/
def Throughout (condition : ω → σ → Prop) (next : ω → σ → σ) : σ → List ω → Prop
  | _, [] => True
  | state, operation :: rest =>
      condition operation state ∧ Throughout condition next (next operation state) rest

instance {condition : ω → σ → Prop} [∀ operation state, Decidable (condition operation state)] :
    (state : σ) → (history : List ω) → Decidable (Throughout condition next state history)
  | _, [] => isTrue trivial
  | state, operation :: rest =>
      have : Decidable (Throughout condition next (next operation state) rest) :=
        instDecidableThroughout (next operation state) rest
      inferInstanceAs (Decidable (_ ∧ _))

/-- Invariant rule for histories that keep a condition. -/
theorem Throughout.invariant {condition : ω → σ → Prop} {invariant : σ → Prop}
    (step : ∀ state operation, condition operation state → invariant state →
      invariant (next operation state))
    {state : σ} {history : List ω} (kept : Throughout condition next state history)
    (holds : invariant state) : invariant (run next state history) := by
  induction history generalizing state with
  | nil => exact holds
  | cons operation rest ih => exact ih kept.2 (step state operation kept.1 holds)

theorem throughout_append {condition : ω → σ → Prop} {state : σ} {first second : List ω} :
    Throughout condition next state (first ++ second) ↔
      Throughout condition next state first ∧
        Throughout condition next (run next state first) second := by
  induction first generalizing state with
  | nil => exact (and_iff_right trivial).symm
  | cons operation rest ih => exact (and_congr_right fun _ => ih).trans and_assoc.symm

/-- Some step of the history meets the condition in the state it starts from. -/
def Sometime (condition : ω → σ → Prop) (next : ω → σ → σ) : σ → List ω → Prop
  | _, [] => False
  | state, operation :: rest =>
      condition operation state ∨ Sometime condition next (next operation state) rest

theorem not_sometime {condition : ω → σ → Prop} {state : σ} {history : List ω} :
    ¬ Sometime condition next state history ↔
      Throughout (fun operation current => ¬ condition operation current) next state history := by
  induction history generalizing state with
  | nil => exact iff_of_true not_false trivial
  | cons operation rest ih => exact not_or.trans (and_congr_right fun _ => ih)

theorem countP_le_one {select : α → Bool} {items : List α}
    (exclusive : items.Pairwise (fun left right => select left = true → select right = false)) :
    items.countP select ≤ 1 := by
  induction items with
  | nil => exact Nat.zero_le 1
  | cons item rest ih =>
      obtain ⟨alone, others⟩ := List.pairwise_cons.mp exclusive
      by_cases chosen : select item = true
      · have none : rest.countP select = 0 := by
          refine List.countP_eq_zero.mpr fun other member selected => ?_
          rw [alone other member chosen] at selected
          cases selected
        have single : (item :: rest).countP select = 1 := by
          rw [List.countP_cons_of_pos chosen, none]
        exact Nat.le_of_eq single
      · rw [List.countP_cons_of_neg chosen]
        exact ih others

/-! ### Calls to a service outside -/

/-- Of the calls under one key at most one has an effect. -/
def Idempotent {κ : Type} (key : α → κ) (effect : α → Int) (calls : List α) : Prop :=
  calls.Pairwise (fun later earlier =>
    key later = key earlier → effect later = 0 ∨ effect earlier = 0)

/-- However often one key is used, the effects add up to no more than one call's. -/
theorem Idempotent.total_le {κ : Type} {key : α → κ} {effect : α → Int} {calls : List α}
    {bound : Int} {common : κ} (idempotent : Idempotent key effect calls)
    (sameKey : ∀ call ∈ calls, key call = common) (bounded : ∀ call ∈ calls, effect call ≤ bound)
    (nonnegative : 0 ≤ bound) : (calls.map effect).sum ≤ bound := by
  induction calls with
  | nil => exact nonnegative
  | cons call rest ih =>
      obtain ⟨alone, others⟩ := List.pairwise_cons.mp idempotent
      rw [List.map_cons, List.sum_cons]
      by_cases quiet : effect call = 0
      · rw [quiet, Int.zero_add]
        exact ih others (fun other member => sameKey other (List.mem_cons_of_mem call member))
          (fun other member => bounded other (List.mem_cons_of_mem call member))
      · have silent : ∀ other ∈ rest, effect other = 0 := by
          intro other member
          have same : key call = key other := (sameKey call List.mem_cons_self).trans
            (sameKey other (List.mem_cons_of_mem call member)).symm
          exact (alone other member same).resolve_left quiet
        have nothing : (rest.map effect).sum = 0 := by
          rw [List.map_congr_left silent]
          exact List.sum_map_zero
        rw [nothing, Int.add_zero]
        exact bounded call List.mem_cons_self

end Transactional
