/-
Counters of fixed windows.

The first hit opens a window, and the window counts every hit until it lapses.  A hit
passes if it finds no more than a limit counted, itself included.
-/

import Mathlib.Algebra.Order.Group.Int

namespace FixedWindow

structure Window where
  count : Int
  expiresAt : Int
  counted : 1 ≤ count

section

variable (lapsed : Int → Int → Bool) (length : Int)

/-- The window that counts a hit: the one that stands, or one that the hit opens. -/
def hit (now : Int) (old : Option Window) : Window :=
  match old.filter (fun window => !lapsed window.expiresAt now) with
  | some window =>
      { window with
        count := window.count + 1
        counted := by have := window.counted; omega }
  | none =>
      { count := 1
        expiresAt := now + length
        counted := by decide }

/-- How many hits of the span from `start` on can still pass: those left in a window that
reaches into the span, and a full window where that one ends within it. -/
def room (limit start : Int) : Option Window → Int
  | none => 2 * limit
  | some window =>
      if window.expiresAt < start then 2 * limit
      else max 0 (limit - window.count) +
        if window.expiresAt < start + length then limit else 0

end

variable {lapsed : Int → Int → Bool} {length limit start now : Int}

private theorem hit_cases (now : Int) (old : Option Window) :
    (∃ window, old = some window ∧ lapsed window.expiresAt now = false ∧
      (hit lapsed length now old).count = window.count + 1 ∧
      (hit lapsed length now old).expiresAt = window.expiresAt) ∨
    ((∀ window, old = some window → lapsed window.expiresAt now = true) ∧
      (hit lapsed length now old).count = 1 ∧
      (hit lapsed length now old).expiresAt = now + length) := by
  cases old with
  | none => exact Or.inr ⟨by simp, rfl, rfl⟩
  | some window =>
      cases gone : lapsed window.expiresAt now with
      | false => exact Or.inl (by simp [hit, Option.filter, gone])
      | true => exact Or.inr (by simp [hit, Option.filter, gone])

theorem room_bounds (positive : 1 ≤ limit) (old : Option Window) :
    0 ≤ room length limit start old ∧ room length limit start old ≤ 2 * limit := by
  cases old with
  | none => rw [room]; omega
  | some window =>
      have := window.counted
      rw [room]
      split_ifs <;> omega

/-- A hit takes from the room what it passes, where windows end on time. -/
theorem room_hit (late : ∀ deadline now, lapsed deadline now = true → deadline ≤ now)
    (prompt : ∀ deadline now, deadline < now → lapsed deadline now = true)
    (positive : 1 ≤ limit) (lasting : 0 < length) (before : now < start + length)
    (old : Option Window) :
    room length limit start (some (hit lapsed length now old)) +
      (if start ≤ now ∧ (hit lapsed length now old).count ≤ limit then 1 else 0) ≤
        room length limit start old := by
  rcases @hit_cases lapsed length now old with ⟨window, rfl, stands, count, expires⟩ |
    ⟨gone, count, expires⟩
  · -- The window stands: its own room shrinks by one, down to nothing.
    have standing : now ≤ window.expiresAt := by
      by_contra passed
      simp [prompt _ _ (Int.not_le.mp passed)] at stands
    rw [room, room, count, expires]
    split_ifs <;> omega
  · rw [room, count, expires]
    cases old with
    | none =>
        rw [room]
        split_ifs <;> omega
    | some window =>
        have ended := late _ _ (gone window rfl)
        rw [room]
        split_ifs <;> omega

end FixedWindow
