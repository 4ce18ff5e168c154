/-
Tables with an identity column.

A row receives its key when it is inserted and keeps it for good.  The table
carries what a primary key guarantees, so no operation has to restore it: keys
are positive, pairwise different and below the next key to be issued.
-/

import Mathlib.Algebra.BigOperators.Group.List.Basic
import Mathlib.Algebra.BigOperators.Ring.List
import Mathlib.Algebra.Order.BigOperators.Group.List
import Mathlib.Algebra.Order.Group.Int
import Mathlib.Algebra.Ring.Int.Defs
import Mathlib.Data.List.Nodup
import Mathlib.Logic.Function.Basic

namespace Relational

/-- A row type with an identity column. -/
class Identified (α : Type) where
  key : α → Int
  assign : Int → α → α
  key_assign : ∀ identity row, key (assign identity row) = identity
  assign_key : ∀ row, assign (key row) row = row

open Identified

attribute [simp] key_assign assign_key

@[ext]
structure Table (α : Type) [Identified α] where
  rows : List α
  next : Int
  nextPositive : 0 < next
  distinct : (rows.map key).Nodup
  issued : ∀ row, row ∈ rows → 0 < key row ∧ key row < next

theorem update_eq_some {β : Type} {lookup : Int → Option β} {identity other : Int}
    {value result : β} (found : Function.update lookup identity (some value) other = some result) :
    (other = identity ∧ result = value) ∨ (other ≠ identity ∧ lookup other = some result) := by
  by_cases same : other = identity
  · subst same
    rw [Function.update_self] at found
    exact Or.inl ⟨rfl, (Option.some.inj found).symm⟩
  · rw [Function.update_of_ne same] at found
    exact Or.inr ⟨same, found⟩

namespace Table

variable {α : Type} [Identified α]

instance : Membership α (Table α) :=
  ⟨fun table row => row ∈ table.rows⟩

def empty : Table α :=
  { rows := []
    next := 1
    nextPositive := by decide
    distinct := List.nodup_nil
    issued := by intro row member; cases member }

def find? (table : Table α) (identity : Int) : Option α :=
  table.rows.find? (fun row => decide (key row = identity))

/-- `INSERT ... RETURNING`: the row is stored under the next key. -/
def inserted (table : Table α) (row : α) : α :=
  assign table.next row

def insert (table : Table α) (row : α) : Table α :=
  { rows := table.rows ++ [table.inserted row]
    next := table.next + 1
    nextPositive := by have := table.nextPositive; omega
    distinct := by
      have fresh : table.next ∉ table.rows.map key := by
        intro member
        obtain ⟨old, present, same⟩ := List.mem_map.mp member
        have bound := (table.issued old present).2
        omega
      simpa [inserted, List.nodup_append, table.distinct] using
        fun old present same => fresh (List.mem_map.mpr ⟨old, present, same⟩)
    issued := by
      intro old member
      rcases List.mem_append.mp member with present | added
      · have bound := table.issued old present
        omega
      · rw [List.mem_singleton.mp added, inserted, key_assign]
        have := table.nextPositive
        omega }

/-- `UPDATE` of every row, with the identity column left alone. -/
def rewrite (table : Table α) (change : α → α) : Table α :=
  { rows := table.rows.map (fun row => assign (key row) (change row))
    next := table.next
    nextPositive := table.nextPositive
    distinct := by
      rw [List.map_map]
      have same : (key ∘ fun row => assign (key row) (change row)) = (key : α → Int) := by
        funext row
        exact key_assign _ _
      rw [same]
      exact table.distinct
    issued := by
      intro row member
      obtain ⟨old, present, rfl⟩ := List.mem_map.mp member
      rw [key_assign]
      exact table.issued old present }

/-- `UPDATE ... WHERE id = identity`. -/
def update (table : Table α) (identity : Int) (change : α → α) : Table α :=
  table.rewrite (fun row => if key row = identity then change row else row)

/-- `UPDATE ... WHERE id = identity AND guard RETURNING *`; `none` when no row
qualifies. -/
def updateWhen (table : Table α) (identity : Int) (guard : α → Bool)
    (change : α → α) : Option (α × Table α) :=
  match table.find? identity with
  | none => none
  | some row =>
      if guard row then
        some (assign identity (change row), table.update identity change)
      else none

def total (table : Table α) (weight : α → Int) : Int :=
  (table.rows.map weight).sum

/-! ### Lookup -/

theorem eq_of_key_eq {table : Table α} {left right : α}
    (leftMember : left ∈ table) (rightMember : right ∈ table)
    (same : key left = key right) : left = right :=
  List.inj_on_of_nodup_map table.distinct leftMember rightMember same

theorem find?_eq_some_iff {table : Table α} {identity : Int} {row : α} :
    table.find? identity = some row ↔ row ∈ table ∧ key row = identity := by
  constructor
  · intro found
    exact ⟨List.mem_of_find?_eq_some found,
      of_decide_eq_true (List.find?_some (p := fun row => decide (key row = identity)) found)⟩
  · rintro ⟨member, same⟩
    cases found : table.find? identity with
    | none =>
        have absent := List.find?_eq_none.mp found row member
        simp [same] at absent
    | some other =>
        have otherMember : other ∈ table := List.mem_of_find?_eq_some found
        have otherKey : key other = identity :=
          of_decide_eq_true (List.find?_some (p := fun row => decide (key row = identity)) found)
        rw [eq_of_key_eq otherMember member (otherKey.trans same.symm)]

theorem find?_key {table : Table α} {row : α} (member : row ∈ table) :
    table.find? (key row) = some row :=
  find?_eq_some_iff.mpr ⟨member, rfl⟩

theorem key_of_find? {table : Table α} {identity : Int} {row : α}
    (found : table.find? identity = some row) : key row = identity :=
  (find?_eq_some_iff.mp found).2

theorem mem_of_find? {table : Table α} {identity : Int} {row : α}
    (found : table.find? identity = some row) : row ∈ table :=
  (find?_eq_some_iff.mp found).1

theorem find?_next (table : Table α) : table.find? table.next = none := by
  cases found : table.find? table.next with
  | none => rfl
  | some row =>
      have bound := table.issued row (mem_of_find? found)
      have same := key_of_find? found
      omega

theorem find?_rewrite (table : Table α) (change : α → α) (identity : Int) :
    (table.rewrite change).find? identity =
      (table.find? identity).map (fun row => assign identity (change row)) := by
  cases found : table.find? identity with
  | none =>
      apply List.find?_eq_none.mpr
      intro row member
      obtain ⟨old, present, rfl⟩ := List.mem_map.mp member
      have absent := List.find?_eq_none.mp found old present
      simpa using absent
  | some row =>
      obtain ⟨member, same⟩ := find?_eq_some_iff.mp found
      apply find?_eq_some_iff.mpr
      exact ⟨List.mem_map.mpr ⟨row, member, by rw [same]⟩, key_assign _ _⟩

theorem find?_update_self (table : Table α) (identity : Int) (change : α → α) :
    (table.update identity change).find? identity =
      (table.find? identity).map (fun row => assign identity (change row)) := by
  rw [update, find?_rewrite]
  cases found : table.find? identity with
  | none => rfl
  | some row => simp only [Option.map_some, key_of_find? found, if_true]

theorem find?_update_of_ne (table : Table α) {identity other : Int} (change : α → α)
    (different : other ≠ identity) :
    (table.update identity change).find? other = table.find? other := by
  rw [update, find?_rewrite]
  cases found : table.find? other with
  | none => rfl
  | some row =>
      have same := key_of_find? found
      have skipped : key row ≠ identity := by omega
      simp only [Option.map_some, if_neg skipped]
      rw [← same, assign_key]

theorem find?_update_of_none {table : Table α} {identity other : Int} (change : α → α)
    (absent : table.find? identity = none) :
    (table.update other change).find? identity = none := by
  rw [update, find?_rewrite, absent]
  rfl

theorem update_update (table : Table α) (identity : Int) (first second : α → α) :
    (table.update identity first).update identity second =
      table.update identity (fun row => second (assign identity (first row))) := by
  apply Table.ext
  · change (table.rows.map _).map _ = table.rows.map _
    rw [List.map_map]
    apply List.map_congr_left
    intro row _
    by_cases same : key row = identity
    · simp only [Function.comp_apply, key_assign, if_pos same]
      rw [same]
    · simp only [Function.comp_apply, if_neg same, assign_key]
  · rfl

/-- An update cannot change the identity column, so setting it is idle. -/
theorem update_assign (table : Table α) (identity : Int) (change : α → α)
    (idle : ∀ first second row, assign first (assign second row : α) = assign first row) :
    table.update identity (fun row => assign identity (change row)) =
      table.update identity change := by
  apply Table.ext
  · change table.rows.map _ = table.rows.map _
    apply List.map_congr_left
    intro row _
    by_cases same : key row = identity
    · simp only [if_pos same, idle]
    · simp only [if_neg same]
  · rfl

theorem find?_update (table : Table α) {identity : Int} {row : α} (change : α → α)
    (found : table.find? identity = some row) :
    (table.update identity change).find? =
      Function.update table.find? identity (some (assign identity (change row))) := by
  funext other
  by_cases same : other = identity
  · subst other
    rw [find?_update_self, found, Function.update_self, Option.map_some]
  · rw [find?_update_of_ne table change same, Function.update_of_ne same]

theorem find?_insert (table : Table α) (row : α) :
    (table.insert row).find? =
      Function.update table.find? table.next (some (table.inserted row)) := by
  funext other
  by_cases same : other = table.next
  · subst other
    rw [Function.update_self]
    exact find?_eq_some_iff.mpr
      ⟨List.mem_append.mpr (Or.inr List.mem_cons_self), key_assign _ _⟩
  · rw [Function.update_of_ne same]
    have skipped : ¬ table.next = other := fun equal => same equal.symm
    simp [find?, insert, inserted, List.find?_append, skipped]

theorem find?_of_empty {table : Table α} (empty : table.rows = []) (identity : Int) :
    table.find? identity = none := by
  rw [find?, empty]
  rfl

/-! ### Views

A view of the rows is read through the lookup function, so it changes at one key
when one row does. -/

theorem view_update {β : Type} (view : α → β) (table : Table α) {identity : Int} {row : α}
    (change : α → α) (found : table.find? identity = some row) :
    Option.map view ∘ (table.update identity change).find? =
      Function.update (Option.map view ∘ table.find?) identity
        (some (view (assign identity (change row)))) := by
  rw [find?_update table change found, Function.comp_update]
  rfl

theorem view_insert {β : Type} (view : α → β) (table : Table α) (row : α) :
    Option.map view ∘ (table.insert row).find? =
      Function.update (Option.map view ∘ table.find?) table.next
        (some (view (table.inserted row))) := by
  rw [find?_insert, Function.comp_update]
  rfl

theorem view_rewrite {β : Type} (view : α → β) (table : Table α) (change : α → α) :
    Option.map view ∘ (table.rewrite change).find? =
      fun identity => (table.find? identity).map (fun row => view (assign identity (change row))) := by
  funext identity
  rw [Function.comp_apply, find?_rewrite, Option.map_map]
  rfl

/-! ### Membership -/

theorem mem_insert {table : Table α} {added row : α} :
    row ∈ table.insert added ↔ row ∈ table ∨ row = table.inserted added := by
  change row ∈ table.rows ++ [table.inserted added] ↔ _
  rw [List.mem_append, List.mem_singleton]
  exact Iff.rfl

private theorem mem_rewrite {table : Table α} {change : α → α} {row : α} :
    row ∈ table.rewrite change ↔ ∃ old ∈ table, assign (key old) (change old) = row :=
  List.mem_map

theorem mem_update {table : Table α} {identity : Int} {change : α → α} {row : α} :
    row ∈ table.update identity change ↔
      (∃ old ∈ table, key old = identity ∧ assign identity (change old) = row) ∨
        (row ∈ table ∧ key row ≠ identity) := by
  rw [update, mem_rewrite]
  constructor
  · rintro ⟨old, member, rfl⟩
    by_cases same : key old = identity
    · exact Or.inl ⟨old, member, same, by rw [if_pos same, same]⟩
    · refine Or.inr ⟨?_, ?_⟩
      · rw [if_neg same, assign_key]
        exact member
      · rw [key_assign]
        exact same
  · rintro (⟨old, member, same, rfl⟩ | ⟨member, different⟩)
    · exact ⟨old, member, by rw [if_pos same, same]⟩
    · exact ⟨row, member, by rw [if_neg different, assign_key]⟩

theorem mem_update_of_ne {table : Table α} {identity : Int} {change : α → α} {row : α}
    (elsewhere : key row ≠ identity) : row ∈ table.update identity change ↔ row ∈ table := by
  rw [mem_update]
  constructor
  · rintro (⟨old, _, _, rfl⟩ | ⟨member, _⟩)
    · exact absurd (key_assign _ _) elsewhere
    · exact member
  · intro member
    exact Or.inr ⟨member, elsewhere⟩

private theorem updateWhen_eq_some_iff {table result : Table α} {identity : Int}
    {guard : α → Bool} {change : α → α} {changed : α} :
    table.updateWhen identity guard change = some (changed, result) ↔
      ∃ row, table.find? identity = some row ∧ guard row = true ∧
        changed = assign identity (change row) ∧ result = table.update identity change := by
  unfold updateWhen
  cases found : table.find? identity with
  | none => simp
  | some row =>
      by_cases allowed : guard row = true
      · simp only [allowed, if_true, Option.some.injEq, Prod.mk.injEq]
        constructor
        · rintro ⟨rfl, rfl⟩
          exact ⟨row, rfl, allowed, rfl, rfl⟩
        · rintro ⟨other, rfl, _, rfl, rfl⟩
          exact ⟨rfl, rfl⟩
      · simp [allowed]

/-- An update of one table, seen from whatever holds the table. -/
theorem map_updateWhen_eq_some_iff {β : Type} (holding : Table α → β) {table : Table α}
    {identity : Int} {guard : α → Bool} {change : α → α} {changed : α} {result : β} :
    (table.updateWhen identity guard change).map (fun updated => (updated.1, holding updated.2)) =
        some (changed, result) ↔
      ∃ row, table.find? identity = some row ∧ guard row = true ∧
        changed = assign identity (change row) ∧
        result = holding (table.update identity change) := by
  simp only [Option.map_eq_some_iff, Prod.exists, updateWhen_eq_some_iff, Prod.mk.injEq]
  constructor
  · rintro ⟨_, _, ⟨row, present, allowed, rfl, rfl⟩, rfl, rfl⟩
    exact ⟨row, present, allowed, rfl, rfl⟩
  · rintro ⟨row, present, allowed, rfl, rfl⟩
    exact ⟨_, _, ⟨row, present, allowed, rfl, rfl⟩, rfl, rfl⟩

theorem updateWhen_eq_none_iff {table : Table α} {identity : Int}
    {guard : α → Bool} {change : α → α} :
    table.updateWhen identity guard change = none ↔
      ∀ row, table.find? identity = some row → guard row = false := by
  unfold updateWhen
  cases found : table.find? identity with
  | none => simp
  | some row => cases allowed : guard row <;> simp [allowed]

/-! ### Totals -/

theorem total_insert (table : Table α) (row : α) (weight : α → Int) :
    (table.insert row).total weight = table.total weight + weight (table.inserted row) := by
  simp [total, insert]

theorem total_congr {table : Table α} {left right : α → Int}
    (same : ∀ row, row ∈ table → left row = right row) :
    table.total left = table.total right :=
  congrArg List.sum (List.map_congr_left same)

private theorem rows_nodup (table : Table α) : table.rows.Nodup :=
  List.Nodup.of_map key table.distinct

theorem total_eq_of_mem {left right : Table α} {weight : α → Int}
    (same : ∀ row, weight row ≠ 0 → (row ∈ left ↔ row ∈ right)) :
    left.total weight = right.total weight := by
  have heavy : ∀ rows : List α,
      ((rows.filter (fun row => decide (weight row ≠ 0))).map weight).sum = (rows.map weight).sum := by
    intro rows
    induction rows with
    | nil => rfl
    | cons row rest ih =>
        by_cases nothing : weight row = 0 <;> simp [nothing, ← ih]
  rw [total, total, ← heavy left.rows, ← heavy right.rows]
  refine (List.Perm.map weight ?_).sum_eq
  rw [List.perm_ext_iff_of_nodup (left.rows_nodup.filter _) (right.rows_nodup.filter _)]
  intro row
  simp only [List.mem_filter, decide_eq_true_eq]
  exact and_congr_left (same row)

theorem total_eq_zero {table : Table α} {weight : α → Int}
    (none : ∀ row, row ∈ table → weight row = 0) : table.total weight = 0 := by
  rw [total_congr none]
  simp [total]

theorem total_of_empty {table : Table α} (empty : table.rows = []) (weight : α → Int) :
    table.total weight = 0 := by
  rw [total, empty]
  rfl

theorem total_add (table : Table α) (left right : α → Int) :
    table.total (fun row => left row + right row) = table.total left + table.total right :=
  List.sum_map_add

theorem total_mono {table : Table α} {left right : α → Int}
    (below : ∀ row, row ∈ table → left row ≤ right row) : table.total left ≤ table.total right :=
  List.sum_le_sum below

theorem mul_total (table : Table α) (factor : Int) (weight : α → Int) :
    factor * table.total weight = table.total (fun row => factor * weight row) := by
  rw [total, total, List.sum_map_mul_left]

/-- When at most one row qualifies, the total is that row's weight. -/
theorem total_ite_of_unique {table : Table α} {select : α → Bool} {weight : α → Int}
    (unique : ∀ left right, left ∈ table → right ∈ table →
      select left = true → select right = true → left = right) :
    table.total (fun row => if select row then weight row else 0) =
      ((table.rows.find? select).map weight).getD 0 := by
  have listed : ∀ rows : List α, rows.Nodup →
      (∀ left right, left ∈ rows → right ∈ rows →
        select left = true → select right = true → left = right) →
      (rows.map (fun row => if select row then weight row else 0)).sum =
        ((rows.find? select).map weight).getD 0 := by
    intro rows
    induction rows with
    | nil => intro _ _; rfl
    | cons head tail ih =>
        intro nodup single
        obtain ⟨absent, tailNodup⟩ := List.nodup_cons.mp nodup
        have tailSum := ih tailNodup (fun left right leftMember rightMember =>
          single left right (List.mem_cons_of_mem head leftMember)
            (List.mem_cons_of_mem head rightMember))
        cases chosen : select head with
        | false => simp [chosen, tailSum]
        | true =>
            have none : tail.find? select = none := by
              apply List.find?_eq_none.mpr
              intro row member selected
              have same := single head row List.mem_cons_self
                (List.mem_cons_of_mem head member) chosen selected
              exact absent (same ▸ member)
            simp [chosen, tailSum, none]
  exact listed table.rows (List.Nodup.of_map key table.distinct) unique

/-! ### Evolution

What a piece of work did to the rows of a table, one row at a time. -/

/-- Every row is still there, moved by `step`, and every added row is `fresh`. -/
structure Evolves (step : α → α → Prop) (fresh : α → Prop) (before after : Table α) : Prop where
  kept : ∀ {identity row}, before.find? identity = some row →
    ∃ later, after.find? identity = some later ∧ step row later
  added : ∀ {identity later}, before.find? identity = none →
    after.find? identity = some later → fresh later

section Evolution

variable {step : α → α → Prop} {fresh : α → Prop} {table : Table α}

theorem Evolves.refl (still : ∀ row, step row row) : Evolves step fresh table table :=
  { kept := fun present => ⟨_, present, still _⟩
    added := fun absent present => by rw [absent] at present; cases present }

theorem Evolves.trans {second : α → α → Prop} {early : α → Prop} {first : α → α → Prop}
    {late : α → Prop} {before middle after : Table α}
    (left : Evolves first early before middle) (right : Evolves second late middle after)
    (compose : ∀ {row between later}, first row between → second between later → step row later)
    (grown : ∀ {row later}, early row → second row later → fresh later)
    (latest : ∀ {row}, late row → fresh row) : Evolves step fresh before after := by
  constructor
  · intro identity row present
    obtain ⟨between, found, moved⟩ := left.kept present
    obtain ⟨later, last, further⟩ := right.kept found
    exact ⟨later, last, compose moved further⟩
  · intro identity later absent present
    cases found : middle.find? identity with
    | none => exact latest (right.added found present)
    | some between =>
        obtain ⟨last, stored, further⟩ := right.kept found
        cases present.symm.trans stored
        exact grown (left.added absent found) further

theorem Evolves.mono {weaker : α → α → Prop} {wider : α → Prop} {before after : Table α}
    (evolves : Evolves step fresh before after) (steps : ∀ {row later}, step row later →
      weaker row later) (additions : ∀ {row}, fresh row → wider row) :
    Evolves weaker wider before after := by
  constructor
  · intro identity row present
    obtain ⟨later, found, moved⟩ := evolves.kept present
    exact ⟨later, found, steps moved⟩
  · intro identity later absent present
    exact additions (evolves.added absent present)

theorem Evolves.update {identity : Int} {row : α} {change : α → α} (still : ∀ row, step row row)
    (present : table.find? identity = some row) (keeps : key (change row) = key row)
    (moved : step row (change row)) :
    Evolves step fresh table (table.update identity change) := by
  have same : assign identity (change row) = change row := by
    rw [← key_of_find? present, ← keeps, assign_key]
  have lookup := table.find?_update change present
  rw [same] at lookup
  constructor
  · intro other old found
    rw [lookup]
    by_cases here : other = identity
    · subst here
      cases found.symm.trans present
      exact ⟨_, Function.update_self .., moved⟩
    · exact ⟨old, by rw [Function.update_of_ne here]; exact found, still old⟩
  · intro other later absent found
    rw [lookup] at found
    rcases update_eq_some found with ⟨rfl, rfl⟩ | ⟨_, unchanged⟩
    · rw [present] at absent
      cases absent
    · rw [unchanged] at absent
      cases absent

theorem Evolves.insert {row : α} (still : ∀ row, step row row) (new : fresh (table.inserted row)) :
    Evolves step fresh table (table.insert row) := by
  constructor
  · intro identity old found
    refine ⟨old, ?_, still old⟩
    rw [find?_insert, Function.update_of_ne]
    · exact found
    · rintro rfl
      rw [find?_next] at found
      cases found
  · intro identity later absent found
    rw [find?_insert] at found
    rcases update_eq_some found with ⟨_, rfl⟩ | ⟨_, unchanged⟩
    · exact new
    · rw [unchanged] at absent
      cases absent

theorem Evolves.rewrite {change : α → α} (keeps : ∀ row, key (change row) = key row)
    (moved : ∀ row, step row (change row)) :
    Evolves step fresh table (table.rewrite change) := by
  constructor
  · intro identity row present
    have same : assign identity (change row) = change row := by
      rw [← key_of_find? present, ← keeps, assign_key]
    rw [find?_rewrite, present]
    exact ⟨_, congrArg some same, moved row⟩
  · intro identity later absent present
    rw [find?_rewrite, absent] at present
    cases present

theorem Evolves.origin {before after : Table α} (evolves : Evolves step fresh before after)
    {identity : Int} {later : α} (present : after.find? identity = some later) :
    (∃ row, before.find? identity = some row ∧ step row later) ∨
      (before.find? identity = none ∧ fresh later) := by
  cases found : before.find? identity with
  | none => exact Or.inr ⟨rfl, evolves.added found present⟩
  | some row =>
      obtain ⟨last, stored, moved⟩ := evolves.kept found
      cases present.symm.trans stored
      exact Or.inl ⟨row, rfl, moved⟩

end Evolution

end Table

end Relational
