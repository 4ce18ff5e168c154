/-
An order is cancelled only when nothing can pay for it any more.

Four paths cancel an order: the buyer, expiry, a closed payment and a failed
one.  Whichever it is, the payments of the order have ended by then and none of
them is in review, and no payment of the order starts again.
-/

import Mall.Guarantees.Funding

namespace Mall

open Ledger Relational Transactional

variable {db : Database}

/-! ### Prepay of a payment that has ended -/

private theorem not_active {status : PaymentStatus} (inactive : status.isActive = false) :
    status ≠ .creating ∧ status ≠ .pending ∧ status ≠ .closePending := by
  cases status <;> simp_all [PaymentStatus.isActive]

private theorem claimPaymentPrepay_inactive {id : Int} {payment : Payment}
    (found : db.payments.find? id = some payment) (inactive : payment.status.isActive = false)
    (clock : Clock) (token : String) (lease : Int) :
    claimPaymentPrepay clock id token lease db = .error errPaymentStateConflict := by
  obtain ⟨creating, pending, _⟩ := not_active inactive
  have unclaimed : db.claimPaymentPrepay clock.database id (nullable token) lease = none := by
    refine Database.updatePayment_eq_none.mpr ?_
    intro row present
    cases found.symm.trans present
    simp [creating]
  rw [claimPaymentPrepay, unclaimed]
  simp [Database.getPayment, found, creating, pending]

private theorem finalizePaymentPrepay_inactive {id : Int} {payment : Payment}
    (found : db.payments.find? id = some payment) (inactive : payment.status.isActive = false)
    (token : String) (actionType : Option PaymentActionType) (actionPayload : String) :
    finalizePaymentPrepay id token actionType actionPayload db =
      .error errPaymentStateConflict := by
  obtain ⟨creating, pending, _⟩ := not_active inactive
  have unfinished :
      db.finalizePaymentPrepay id (nullable token) actionType actionPayload = none := by
    refine Database.updatePayment_eq_none.mpr ?_
    intro row present
    cases found.symm.trans present
    simp [creating]
  rw [finalizePaymentPrepay, unfinished]
  simp [Database.getPayment, found, pending]

/-! ### Cancelled orders -/

private theorem Database.Valid.cancelled_run (valid : db.Valid) {id : Int} {order : Order}
    (present : db.orders.find? id = some order) (cancelled : order.status = .cancelled)
    (history : List Operation) :
    ∃ later, (Transactional.run next db history).orders.find? id = some later ∧
      later.status = .cancelled := by
  induction history generalizing db order with
  | nil => exact ⟨order, present, cancelled⟩
  | cons operation rest ih =>
      have commits := (next_refines operation valid.tidy valid.sound).commits
      have kept := commits.cancelled_kept (Database.ledger_order present) cancelled
      obtain ⟨row, stored, same⟩ := Database.of_ledger_order kept
      exact ih (valid.step operation) stored ((congrArg Purchase.status same).trans cancelled)

private theorem Database.Valid.cancelled_inactive (valid : db.Valid) {id : Int} {order : Order}
    (present : db.orders.find? id = some order) (cancelled : order.status = .cancelled)
    {payment : Payment} (member : payment ∈ db.payments) (same : payment.orderId = id) :
    payment.status.isActive = false := by
  subst same
  exact valid.sound.funding.cancelledQuiet (Database.ledger_payment (Table.find?_key member))
    (Database.ledger_order present) cancelled

/-- When an order may be cancelled, and what holds of it from then on. -/
theorem cancellation_safe (reached : Reached db) :
    (∀ operation id order, (next operation db).orders.find? id = some order →
      order.status = .cancelled →
      (∀ earlier, db.orders.find? id = some earlier → earlier.status ≠ .cancelled) →
      (∀ payment ∈ (next operation db).payments, payment.orderId = id →
        (payment.status = .failed ∨ payment.status = .closed) ∧
          payment.reconciliationStatus ≠ .required ∧
          payment.reconciliationStatus ≠ .processing) ∧
      ∀ product, (next operation db).onHand product =
        db.onHand product + (next operation db).lines id product) ∧
    (∀ id order, db.orders.find? id = some order → order.status = .cancelled → ∀ history,
      (∃ later, (run next db history).orders.find? id = some later ∧
        later.status = .cancelled) ∧
      ∀ payment ∈ (run next db history).payments, payment.orderId = id →
        payment.status ≠ .creating ∧ payment.status ≠ .pending ∧
        payment.status ≠ .closePending ∧
        (∀ clock token lease,
          claimPaymentPrepay clock payment.id token lease (run next db history) =
            .error errPaymentStateConflict) ∧
        ∀ token actionType actionPayload,
          finalizePaymentPrepay payment.id token actionType actionPayload
            (run next db history) = .error errPaymentStateConflict) := by
  have valid := reached.valid
  refine ⟨?_, ?_⟩
  · intro operation id order found cancelled standing
    have commits := (next_refines operation valid.tidy valid.sound).commits
    have before : ∀ purchase, db.ledger.orders id = some purchase →
        purchase.status ≠ .cancelled := by
      intro purchase present
      obtain ⟨earlier, known, rfl⟩ := Database.of_ledger_order present
      exact standing earlier known
    obtain ⟨quiet, released⟩ :=
      commits.cancelled_quiet (Database.ledger_order found) cancelled before
    refine ⟨?_, ?_⟩
    · intro payment member same
      obtain ⟨ended, reviewed⟩ :=
        quiet payment.id payment.charge (Database.ledger_payment (Table.find?_key member)) same
      refine ⟨ended, not_or.mp (mt Payment.needsReview_iff.mpr ?_)⟩
      rw [show payment.needsReview = false from reviewed]
      nofun
    · intro product
      have key : order.id = id := Table.key_of_find? found
      have stock := congrFun released product
      rw [← key]
      exact stock
  · intro id order present cancelled history
    obtain ⟨later, stored, still⟩ := valid.cancelled_run present cancelled history
    refine ⟨⟨later, stored, still⟩, ?_⟩
    intro payment member same
    have found := Table.find?_key member
    have inactive := (valid.run history).cancelled_inactive stored still member same
    obtain ⟨creating, pending, closePending⟩ := not_active inactive
    exact ⟨creating, pending, closePending, claimPaymentPrepay_inactive found inactive,
      finalizePaymentPrepay_inactive found inactive⟩

def waitingShop : Database :=
  run next smallShop [orderTea "ORD1" "order-key-1" 2, openTeaPayment "PAY1" 1 200]

theorem cancellation_safe_waitingShop :
    ∃ order, (next (answerTeaPayment 1 "PAY1" "" .closed 200) waitingShop).orders.find? 1 =
        some order ∧
      order.status = .cancelled ∧
      ∀ payment ∈ (next (answerTeaPayment 1 "PAY1" "" .closed 200) waitingShop).payments,
        payment.orderId = 1 → payment.status = .failed ∨ payment.status = .closed := by
  have before : (waitingShop.orders.find? 1).map Order.status = some .pendingPayment := by
    decide +kernel
  have after : ((next (answerTeaPayment 1 "PAY1" "" .closed 200) waitingShop).orders.find? 1).map
      Order.status = some .cancelled := by
    decide +kernel
  obtain ⟨order, found, cancelled⟩ := Option.map_eq_some_iff.mp after
  have standing : ∀ earlier, waitingShop.orders.find? 1 = some earlier →
      earlier.status ≠ .cancelled := by
    intro earlier present status
    rw [present, Option.map_some, status] at before
    cases before
  have quiet := (cancellation_safe ⟨smallShop, _, smallShop_initial, rfl⟩).1
    (answerTeaPayment 1 "PAY1" "" .closed 200) 1 order found cancelled standing
  exact ⟨order, found, cancelled, fun payment member same => (quiet.1 payment member same).1⟩

end Mall
