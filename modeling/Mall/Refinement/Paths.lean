/-
Committed transactions as paths of ledger steps.

A commit is a path of steady steps, possibly ended by one cancellation.  What
holds of single steps is carried over to paths and commits here, once.
-/

import Mall.Abstraction
import Mall.LedgerHistory

namespace Mall

open Ledger Relational Relation

variable {warrant : Warrant} {before after : Ledger} {db result : Database}

/-! ### Paths of the ledger -/

abbrev Path (warrant : Warrant) : Ledger → Ledger → Prop :=
  ReflTransGen (Steady warrant)

/-- What one transaction may do: steady steps, possibly ended by a cancellation
before which the goods stayed where they were, or the listing of a product. -/
inductive Commits (warrant : Warrant) (before : Ledger) : Ledger → Prop
  | steady {after : Ledger} (path : Path warrant before after) : Commits warrant before after
  | cancelled {middle after : Ledger} (path : Path warrant before middle)
      (still : middle.onHand = before.onHand) (cancels : Cancels middle after) :
      Commits warrant before after
  | introduced {after : Ledger} (introduces : Introduces before after) :
      Commits warrant before after

theorem Path.sound (path : Path warrant before after) (sound : before.Sound) : after.Sound := by
  induction path with
  | refl => exact sound
  | tail _ step ih => exact ih.steady step

theorem Commits.sound (commits : Commits warrant before after) (sound : before.Sound) :
    after.Sound := by
  cases commits with
  | steady path => exact path.sound sound
  | cancelled path still cancels => exact (path.sound sound).cancels cancels
  | introduced introduces => exact sound.introduces introduces

theorem Path.charge_continues (path : Path warrant before after) {payment : Int} {charge : Charge}
    (found : before.payments payment = some charge) :
    ∃ later, after.payments payment = some later ∧ charge.Continues later := by
  induction path with
  | refl => exact ⟨charge, found, .refl charge⟩
  | tail _ step ih =>
      obtain ⟨middle, present, continues⟩ := ih
      obtain ⟨later, last, further⟩ := step.charge_continues present
      exact ⟨later, last, continues.trans further⟩

theorem Commits.charge_continues (commits : Commits warrant before after) {payment : Int}
    {charge : Charge} (found : before.payments payment = some charge) :
    ∃ later, after.payments payment = some later ∧ charge.Continues later := by
  cases commits with
  | steady path => exact path.charge_continues found
  | cancelled path still cancels =>
      cases cancels with
      | cancel id purchase present unpaid quiet => exact path.charge_continues found
  | introduced introduces =>
      cases introduces with
      | introduce product stock unknown bounds => exact ⟨charge, found, .refl charge⟩

theorem Path.purchase_continues (path : Path warrant before after) {order : Int}
    {purchase : Purchase} (found : before.orders order = some purchase) :
    ∃ later, after.orders order = some later ∧ purchase.Continues later := by
  induction path with
  | refl => exact ⟨purchase, found, rfl, rfl⟩
  | tail _ step ih =>
      obtain ⟨middle, present, terms, lines⟩ := ih
      obtain ⟨later, last, laterTerms, laterLines⟩ := step.purchase_continues present
      exact ⟨later, last, laterTerms.trans terms, laterLines.trans lines⟩

/-- A charge that a commit settles was reported to that commit. -/
theorem Path.settled_reported (path : Path warrant before after) {payment : Int} {later : Charge}
    (found : after.payments payment = some later) (settled : later.status.isSettled = true) :
    (∃ charge, before.payments payment = some charge ∧ charge.status.isSettled = true) ∨
      Reported warrant.reports later := by
  induction path generalizing later with
  | refl => exact Or.inl ⟨later, found, settled⟩
  | tail _ step ih =>
      rcases step.settled_reported found settled with ⟨middle, present, already⟩ | reported
      · rcases ih present already with earlier | ⟨old, transaction, fact, same, recorded⟩
        · exact Or.inl earlier
        · obtain ⟨continued, last, continues⟩ := step.charge_continues present
          cases found.symm.trans last
          refine Or.inr ⟨old, transaction, fact, same.trans continues.identity.symm, ?_⟩
          exact (continues.settled already).2.trans recorded
      · exact Or.inr reported

theorem Commits.settled_reported (commits : Commits warrant before after) {payment : Int}
    {later : Charge} (found : after.payments payment = some later)
    (settled : later.status.isSettled = true) :
    (∃ charge, before.payments payment = some charge ∧ charge.status.isSettled = true) ∨
      Reported warrant.reports later := by
  cases commits with
  | steady path => exact path.settled_reported found settled
  | cancelled path still cancels =>
      cases cancels with
      | cancel id purchase present unpaid quiet => exact path.settled_reported found settled
  | introduced introduces =>
      cases introduces with
      | introduce product stock unknown bounds => exact Or.inl ⟨later, found, settled⟩

theorem Path.reversal_continues (path : Path warrant before after) {refund : Int}
    {reversal : Reversal} (found : before.refunds refund = some reversal) :
    ∃ later, after.refunds refund = some later ∧ reversal.Continues later := by
  induction path with
  | refl => exact ⟨reversal, found, reversal.status, rfl⟩
  | tail _ step ih =>
      obtain ⟨middle, present, _, rfl⟩ := ih
      obtain ⟨later, last, status, rfl⟩ := step.reversal_continues present
      exact ⟨_, last, status, rfl⟩

theorem Commits.reversal_continues (commits : Commits warrant before after) {refund : Int}
    {reversal : Reversal} (found : before.refunds refund = some reversal) :
    ∃ later, after.refunds refund = some later ∧ reversal.Continues later := by
  cases commits with
  | steady path => exact path.reversal_continues found
  | cancelled path still cancels =>
      cases cancels with
      | cancel id purchase present unpaid quiet => exact path.reversal_continues found
  | introduced introduces =>
      cases introduces with
      | introduce product stock unknown bounds =>
          exact ⟨reversal, found, reversal.status, rfl⟩

theorem Path.opening_kept (path : Path warrant before after) (product : Int) :
    after.opening product = before.opening product ∧
      after.listed product = before.listed product := by
  induction path with
  | refl => exact ⟨rfl, rfl⟩
  | tail _ step ih =>
      obtain ⟨same, still⟩ := step.opening_kept product
      exact ⟨same.trans ih.1, still.trans ih.2⟩

theorem Commits.opening (commits : Commits warrant before after) (sound : before.Sound)
    {product : Int} (listed : after.listed product = true) :
    if before.listed product then after.opening product = before.opening product
    else after.opening product = after.onHand product := by
  cases commits with
  | steady path =>
      obtain ⟨same, still⟩ := path.opening_kept product
      rw [← still, listed, if_pos rfl]
      exact same
  | cancelled path still cancels =>
      obtain ⟨same, kept⟩ := path.opening_kept product
      obtain ⟨last, keptLast⟩ := cancels.opening_kept product
      rw [← kept, ← keptLast, listed, if_pos rfl]
      exact last.trans same
  | introduced introduces => exact introduces.opening sound listed

theorem Commits.listed_kept (commits : Commits warrant before after) {product : Int}
    (listed : before.listed product = true) : after.listed product = true := by
  cases commits with
  | steady path => exact (path.opening_kept product).2.trans listed
  | cancelled path still cancels =>
      exact (cancels.opening_kept product).2.trans ((path.opening_kept product).2.trans listed)
  | introduced introduces =>
      cases introduces with
      | introduce introduced stock unknown bounds =>
          change Function.update before.listed introduced true product = true
          by_cases same : product = introduced
          · rw [same, Function.update_self]
          · rw [Function.update_of_ne same]
            exact listed

theorem Path.not_cancelled (path : Path warrant before after) {order : Int}
    (standing : ∀ purchase, before.orders order = some purchase → purchase.status ≠ .cancelled) :
    ∀ purchase, after.orders order = some purchase → purchase.status ≠ .cancelled := by
  induction path with
  | refl => exact standing
  | tail _ step ih => exact step.not_cancelled ih

theorem Path.cancelled_kept (path : Path warrant before after) {order : Int} {purchase : Purchase}
    (found : before.orders order = some purchase) (cancelled : purchase.status = .cancelled) :
    after.orders order = some purchase := by
  induction path with
  | refl => exact found
  | tail _ step ih => exact step.cancelled_kept ih cancelled

theorem Commits.cancelled_kept (commits : Commits warrant before after) {order : Int}
    {purchase : Purchase} (found : before.orders order = some purchase)
    (cancelled : purchase.status = .cancelled) : after.orders order = some purchase := by
  cases commits with
  | steady path => exact path.cancelled_kept found cancelled
  | cancelled path still cancels =>
      have kept := path.cancelled_kept found cancelled
      cases cancels with
      | cancel id old present unpaid quiet =>
          refine Eq.trans (Function.update_of_ne ?_ ..) kept
          rintro rfl
          cases present.symm.trans kept
          rw [cancelled] at unpaid
          cases unpaid
  | introduced introduces =>
      cases introduces with
      | introduce product stock unknown bounds => exact found

theorem Path.dispatched_warranted (path : Path warrant before after) {order : Int}
    {later : Purchase} (found : after.orders order = some later)
    (dispatched : later.status.isDispatched = true) :
    (∃ purchase, before.orders order = some purchase ∧ purchase.status.isDispatched = true ∧
      purchase.fundedBy = later.fundedBy) ∨ warrant.ships order := by
  induction path generalizing later with
  | refl => exact Or.inl ⟨later, found, dispatched, rfl⟩
  | tail _ step ih =>
      rcases step.dispatched_warranted found dispatched with ⟨middle, present, gone, same⟩ | asked
      · rcases ih present gone with ⟨purchase, first, earlier, funded⟩ | asked
        · exact Or.inl ⟨purchase, first, earlier, funded.trans same⟩
        · exact Or.inr asked
      · exact Or.inr asked

theorem Commits.dispatched_warranted (commits : Commits warrant before after) {order : Int}
    {later : Purchase} (found : after.orders order = some later)
    (dispatched : later.status.isDispatched = true) :
    (∃ purchase, before.orders order = some purchase ∧ purchase.status.isDispatched = true ∧
      purchase.fundedBy = later.fundedBy) ∨ warrant.ships order := by
  cases commits with
  | steady path => exact path.dispatched_warranted found dispatched
  | cancelled path still cancels =>
      cases cancels with
      | cancel id purchase present unpaid quiet =>
          rcases update_eq_some found with ⟨_, rfl⟩ | ⟨_, unchanged⟩
          · cases dispatched
          · exact path.dispatched_warranted unchanged dispatched
  | introduced introduces =>
      cases introduces with
      | introduce product stock unknown bounds => exact Or.inl ⟨later, found, dispatched, rfl⟩

/-- An order that a commit cancels is cancelled by the commit's last step: its
charges have ended, none is in review, and its goods come back. -/
theorem Commits.cancelled_quiet (commits : Commits warrant before after) {order : Int}
    {later : Purchase} (found : after.orders order = some later)
    (cancelled : later.status = .cancelled)
    (standing : ∀ purchase, before.orders order = some purchase → purchase.status ≠ .cancelled) :
    (∀ payment charge, after.payments payment = some charge → charge.order = order →
      (charge.status = .failed ∨ charge.status = .closed) ∧ charge.review = false) ∧
      after.onHand = fun product => before.onHand product + later.lines product := by
  cases commits with
  | steady path => exact absurd cancelled (path.not_cancelled standing later found)
  | cancelled path still cancels =>
      cases cancels with
      | cancel id purchase present unpaid quiet =>
          rcases update_eq_some found with ⟨rfl, rfl⟩ | ⟨_, unchanged⟩
          · exact ⟨quiet, by rw [← still]; rfl⟩
          · exact absurd cancelled (path.not_cancelled standing later unchanged)
  | introduced introduces =>
      cases introduces with
      | introduce product stock unknown bounds => exact absurd cancelled (standing later found)

/-! ### Paths between databases -/

/-- The steady work of a transaction: a path of the ledger that leaves the items
alone. -/
structure Steps (warrant : Warrant) (db result : Database) : Prop where
  path : Path warrant db.ledger result.ledger
  items : result.orderItems = db.orderItems

theorem Steps.refl (db : Database) : Steps warrant db db :=
  ⟨.refl, rfl⟩

theorem Steps.trans {first second third : Database} (left : Steps warrant first second)
    (right : Steps warrant second third) : Steps warrant first third :=
  ⟨left.path.trans right.path, right.items.trans left.items⟩

theorem Steps.unseen (same : result.ledger = db.ledger)
    (items : result.orderItems = db.orderItems) : Steps warrant db result :=
  ⟨by rw [same], items⟩

theorem Steps.one {after : Ledger} (step : Steady warrant db.ledger after)
    (same : result.ledger = after) (items : result.orderItems = db.orderItems) :
    Steps warrant db result :=
  ⟨.single (same ▸ step), items⟩

theorem Steps.tidy (steps : Steps warrant db result) (tidy : db.ItemsTidy) : result.ItemsTidy := by
  refine ⟨?_, ?_, ?_⟩
  · rw [steps.items]
    exact tidy.distinct
  · rw [steps.items]
    exact tidy.positive
  · rw [steps.items]
    intro item member
    obtain ⟨order, present⟩ := Option.isSome_iff_exists.mp (tidy.owned item member)
    obtain ⟨later, found, _⟩ := steps.path.purchase_continues (Database.ledger_order present)
    obtain ⟨row, known, _⟩ := Database.of_ledger_order found
    rw [known]
    rfl

structure SameBooks (db result : Database) : Prop where
  products : result.products = db.products
  stockAdjustments : result.stockAdjustments = db.stockAdjustments
  orders : result.orders = db.orders
  orderItems : result.orderItems = db.orderItems
  payments : result.payments = db.payments
  refunds : result.refunds = db.refunds
  failures : result.failures = db.failures

theorem SameBooks.ledger (same : SameBooks db result) :
    result.ledger = db.ledger := by
  obtain ⟨products, stockAdjustments, orders, orderItems, payments, refunds, failures⟩ := same
  cases db
  cases result
  cases products
  cases stockAdjustments
  cases orders
  cases orderItems
  cases payments
  cases refunds
  cases failures
  rfl

theorem SameBooks.steps (same : SameBooks db result) :
    Steps warrant db result :=
  .unseen same.ledger same.orderItems

theorem SameBooks.tidy (same : SameBooks db result) (tidy : db.ItemsTidy) :
    result.ItemsTidy := by
  refine ⟨?_, ?_, ?_⟩
  · rw [same.orderItems]
    exact tidy.distinct
  · rw [same.orderItems]
    exact tidy.positive
  · rw [same.orderItems, same.orders]
    exact tidy.owned

inductive Clerical (db : Database) : Database → Prop
  | intro (notifications : Table PaymentNotification) (jobs : Table Job) :
      Clerical db { db with notifications := notifications, jobs := jobs }

theorem Clerical.refl (db : Database) : Clerical db db :=
  .intro db.notifications db.jobs

theorem Clerical.trans {first second third : Database} (left : Clerical first second)
    (right : Clerical second third) : Clerical first third := by
  cases left
  cases right
  exact .intro _ _

theorem Clerical.books (clerical : Clerical db result) :
    SameBooks db result := by
  cases clerical
  exact ⟨rfl, rfl, rfl, rfl, rfl, rfl, rfl⟩

theorem Clerical.steps (clerical : Clerical db result) :
    Steps warrant db result :=
  clerical.books.steps

/-- What every operation is shown to do. -/
structure Refines (warrant : Warrant) (db result : Database) : Prop where
  commits : Commits warrant db.ledger result.ledger
  tidy : result.ItemsTidy

theorem Steps.refines (steps : Steps warrant db result) (tidy : db.ItemsTidy) :
    Refines warrant db result :=
  ⟨.steady steps.path, steps.tidy tidy⟩

theorem Steps.cancels {first second third : Database} (steps : Steps warrant first second)
    (still : second.products = first.products) (cancels : Cancels second.ledger third.ledger)
    (tidy : third.ItemsTidy) : Refines warrant first third := by
  refine ⟨.cancelled steps.path ?_ cancels, tidy⟩
  funext product
  change second.onHand product = first.onHand product
  rw [Database.onHand, Database.onHand, still]

theorem Refines.books {first second third : Database} (refines : Refines warrant first second)
    (same : SameBooks second third) : Refines warrant first third :=
  ⟨same.ledger ▸ refines.commits, same.tidy refines.tidy⟩

end Mall
