/-
A rate bound kept in one number.

The number is the time at which the whole burst is free again.  An attempt is
accepted when that time is no further away than the rest of the burst takes to
refill, and then moves it by one interval.
-/

import Mathlib.Data.Int.Order.Basic
import Mathlib.Tactic.Linarith
import Mathlib.Tactic.Ring

namespace CellRate

def due (now : Int) (ready : Option Int) : Int :=
  max now (ready.getD now)

/-- How long an attempt would have to wait; not positive when it need not. -/
def wait (interval burst now : Int) (ready : Option Int) : Int :=
  due now ready - (burst - 1) * interval - now

/-- The answer to an attempt and the state after it. -/
def reserve (interval burst now : Int) (ready : Option Int) : Int × Option Int :=
  if 0 < wait interval burst now ready then (wait interval burst now ready, ready)
  else (0, some (due now ready + interval))

def answers (interval burst : Int) : Option Int → List Int → List (Int × Int)
  | _, [] => []
  | ready, now :: rest =>
      (now, (reserve interval burst now ready).1) ::
        answers interval burst (reserve interval burst now ready).2 rest

def accepted (start length : Int) (answer : Int × Int) : Bool :=
  decide (answer.2 = 0 ∧ start ≤ answer.1 ∧ answer.1 ≤ start + length)

variable {interval burst : Int}

private theorem le_due (now : Int) (ready : Option Int) : now ≤ due now ready :=
  le_max_left _ _

/-! ### One attempt -/

theorem held_of_wait_pos {now : Int} {ready : Option Int} (interval_pos : 0 < interval)
    (burst_pos : 1 ≤ burst) (waits : 0 < wait interval burst now ready) :
    ∃ number, ready = some number := by
  cases ready with
  | some number => exact ⟨number, rfl⟩
  | none =>
      have slack : 0 ≤ (burst - 1) * interval := mul_nonneg (by omega) interval_pos.le
      unfold wait due at waits
      rw [Option.getD_none, max_self] at waits
      omega

/-- A rejected attempt would have been accepted from its delay on, and not
before. -/
theorem wait_le_zero_iff {now ready : Int} (interval_pos : 0 < interval) (burst_pos : 1 ≤ burst)
    (rejected : 0 < wait interval burst now (some ready)) (later : Int) :
    wait interval burst later (some ready) ≤ 0 ↔
      now + wait interval burst now (some ready) ≤ later := by
  have slack : 0 ≤ (burst - 1) * interval :=
    mul_nonneg (by omega) interval_pos.le
  unfold wait due at rejected ⊢
  rw [Option.getD_some] at rejected ⊢
  rw [Option.getD_some]
  omega

/-! ### Any window -/

/-- Attempts that a window has accepted push the due time past its start. -/
theorem count_le {start length : Int} (interval_pos : 0 < interval) (times : List Int)
    {ready : Option Int} {count : Int} (counted : 0 ≤ count) (bounded : count ≤ burst + length / interval)
    (pushed : count = 0 ∨ ∃ due, ready = some due ∧ start + count * interval ≤ due) :
    count + (((answers interval burst ready times).filter (accepted start length)).length : Int) ≤
      burst + length / interval := by
  induction times generalizing ready count with
  | nil => simpa [answers] using bounded
  | cons now rest ih =>
      rw [answers, List.filter_cons]
      by_cases rejected : 0 < wait interval burst now ready
      · have outcome : reserve interval burst now ready = (wait interval burst now ready, ready) :=
          if_pos rejected
        have outside : accepted start length (now, wait interval burst now ready) = false := by
          rw [accepted, decide_eq_false_iff_not]
          intro inside
          have zero : wait interval burst now ready = 0 := inside.1
          omega
        rw [outcome]
        dsimp only
        rw [outside]
        exact ih counted bounded pushed
      · have outcome : reserve interval burst now ready = (0, some (due now ready + interval)) :=
          if_neg rejected
        have room : due now ready ≤ now + (burst - 1) * interval := by
          have : due now ready - (burst - 1) * interval - now ≤ 0 := not_lt.mp rejected
          omega
        have reached : count = 0 ∨ start + count * interval ≤ due now ready := by
          rcases pushed with none | ⟨stored, rfl, past⟩
          · exact Or.inl none
          · exact Or.inr (le_trans past (le_max_right _ _))
        have front := le_due now ready
        rw [outcome]
        dsimp only
        by_cases inside : accepted start length (now, 0) = true
        · obtain ⟨_, least, most⟩ := of_decide_eq_true inside
          dsimp only at least most
          have past : start + count * interval ≤ due now ready := by
            rcases reached with none | past
            · rw [none]
              linarith
            · exact past
          have fits : (count + 1 - burst) * interval ≤ length := by
            nlinarith
          have bound : count + 1 - burst ≤ length / interval :=
            (Int.le_ediv_iff_mul_le interval_pos).mpr fits
          have later := @ih (some (due now ready + interval)) (count + 1) (by omega) (by omega)
            (Or.inr ⟨_, rfl, by nlinarith⟩)
          rw [if_pos inside, List.length_cons, Nat.cast_succ]
          omega
        · rw [if_neg inside]
          refine ih counted bounded ?_
          rcases reached with none | past
          · exact Or.inl none
          · exact Or.inr ⟨_, rfl, by linarith⟩

theorem window_bound (interval_pos : 0 < interval) (burst_pos : 1 ≤ burst) (ready : Option Int)
    (times : List Int) (start : Int) {length : Int} (nonnegative : 0 ≤ length) :
    (((answers interval burst ready times).filter (accepted start length)).length : Int) ≤
      burst + length / interval := by
  have whole : 0 ≤ length / interval := Int.ediv_nonneg nonnegative interval_pos.le
  have bound := @count_le interval burst start length interval_pos times ready 0 (le_refl 0)
    (by omega) (Or.inl rfl)
  omega

end CellRate
