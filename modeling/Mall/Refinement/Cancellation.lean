/-
Cancellation and expiry refine the ledger.
-/

import Mall.Settlement
import Mall.Refinement.Payments

namespace Mall

open Ledger Relational Transactional

variable {warrant : Warrant} {db result : Database}

/-! ### Releasing an order -/

/-- Every payment of the order has ended without money, and none is in review. -/
def Database.Quiet (db : Database) (orderId : Int) : Prop :=
  ∀ payment ∈ db.payments, payment.orderId = orderId →
    (payment.status = .failed ∨ payment.status = .closed) ∧ payment.needsReview = false

private theorem ledger_releaseOrder {orderId : Int} (tidy : db.ItemsTidy) (sound : db.ledger.Sound)
    (done : releaseOrder orderId db = .ok result) :
    ∃ purchase, db.ledger.orders orderId = some purchase ∧ purchase.status = .pendingPayment ∧
      result.ledger = (db.ledger.setOrder orderId { purchase with status := .cancelled }).returnStock
        purchase.lines ∧ result.payments = db.payments ∧ result.ItemsTidy := by
  unfold releaseOrder at done
  obtain ⟨⟨_, cancelling⟩, started, done⟩ := bind_eq_ok.mp done
  obtain ⟨restored, restore, done⟩ := bind_eq_ok.mp done
  obtain ⟨⟨_, cancelled⟩, ended, done⟩ := bind_eq_ok.mp done
  cases pure_eq_ok.mp done
  obtain ⟨row, present, allowed, _, rfl⟩ :=
    Database.updateOrder_eq_some.mp (found_eq_ok.mp started)
  obtain ⟨closing, standing, _, _, rfl⟩ := Database.updateOrder_eq_some.mp (found_eq_ok.mp ended)
  have pending : row.status = .pendingPayment := eq_of_beq allowed
  obtain rfl : row.id = orderId := Table.key_of_find? present
  have tidyCancelling := tidy.updateOrder (fun order => { order with status := .cancelling }) present
  have first := Database.ledger_updateOrder_same
    (fun order => { order with status := .cancelling }) present (by rw [pending]; rfl)
    (by rw [pending]; rfl)
  have unlisted : ∀ product, db.ledger.listed product = false → db.lines row.id product = 0 :=
    fun _ unknown => sound.stocked.linesListed (Database.ledger_order present) unknown
  have second := Database.ledger_restoreOrderItemStock tidyCancelling unlisted restore
  cases Database.restoreOrderItemStock_eq_ok restore
  have same : closing = { row with status := .cancelling } := by
    have lookup : (db.orders.update row.id _).find? row.id = some closing := standing
    rw [Table.find?_update_self, present] at lookup
    exact (Option.some.inj lookup).symm
  subst same
  have third := Database.ledger_updateOrder_leave
    (fun order => { order with status := .cancelled, isCompleted := true }) standing rfl rfl
  refine ⟨db.purchase row, Database.ledger_order present, pending, ?_, rfl, ?_⟩
  · rw [third, second, first]
    exact Ledger.ext (Function.update_idem _ _ _) rfl rfl rfl rfl rfl rfl rfl rfl
  · have after := tidyCancelling.updateOrder
      (fun order => { order with status := .cancelled, isCompleted := true }) standing
    exact ⟨after.distinct, after.positive, after.owned⟩

theorem Database.Quiet.charges {orderId : Int} (quiet : db.Quiet orderId) :
    ∀ payment charge, db.ledger.payments payment = some charge → charge.order = orderId →
      (charge.status = .failed ∨ charge.status = .closed) ∧ charge.review = false := by
  intro id charge found same
  obtain ⟨payment, present, rfl⟩ := Database.of_ledger_payment found
  exact quiet payment (Table.mem_of_find? present) same

private theorem releaseOrder_refines {orderId : Int} {ended : Database} (tidy : db.ItemsTidy)
    (sound : db.ledger.Sound) (steps : Steps warrant db ended)
    (still : ended.products = db.products) (quiet : ended.Quiet orderId)
    (done : releaseOrder orderId ended = .ok result) : Refines warrant db result := by
  obtain ⟨purchase, present, pending, changed, _, resultTidy⟩ :=
    ledger_releaseOrder (steps.tidy tidy) (steps.path.sound sound) done
  refine steps.cancels still ?_ resultTidy
  rw [changed]
  exact .cancel orderId purchase present pending quiet.charges

/-! ### Cancellation by the user -/

private theorem cancellationScan_eq_ok {payments : List Payment}
    (done : cancellationScan payments = .ok false) {payment : Payment}
    (member : payment ∈ payments) :
    payment.needsReview = false ∧ payment.status.isSettled = false ∧
      payment.status.isActive = false := by
  induction payments with
  | nil => cases member
  | cons head rest ih =>
      rw [cancellationScan] at done
      split at done
      · cases done
      · next reviewed =>
          split at done
          · cases done
          · next unsettled =>
              obtain ⟨others, later, done⟩ := bind_eq_ok.mp done
              have inactive := pure_eq_ok.mp done
              simp only [Bool.or_eq_false_iff] at inactive
              rcases List.mem_cons.mp member with rfl | listed
              · exact ⟨Bool.not_eq_true _ ▸ reviewed, Bool.not_eq_true _ ▸ unsettled, inactive.1⟩
              · rw [inactive.2] at later
                exact ih later listed

theorem PaymentStatus.ended {status : PaymentStatus} (unsettled : status.isSettled = false)
    (inactive : status.isActive = false) : status = .failed ∨ status = .closed := by
  cases status <;> simp_all [PaymentStatus.isSettled, PaymentStatus.isActive]

private theorem cancelOrderByUser_refines {id userID : Int} (tidy : db.ItemsTidy)
    (sound : db.ledger.Sound)
    (done : cancelOrderByUser id userID db = .ok result) : Refines warrant db result := by
  unfold cancelOrderByUser at done
  obtain ⟨order, _, done⟩ := bind_eq_ok.mp done
  split at done
  · cases pure_eq_ok.mp done
    exact Steps.refines (.refl db) tidy
  · obtain ⟨_, _, done⟩ := bind_eq_ok.mp done
    obtain ⟨⟨rows, recovered⟩, recovery, done⟩ := bind_eq_ok.mp done
    obtain ⟨active, scan, done⟩ := bind_eq_ok.mp done
    obtain ⟨_, none, done⟩ := bind_eq_ok.mp done
    rw [require_eq_ok.mp none] at scan
    have first : Steps warrant db recovered := recoverUnsupportedPayments_steps recovery
    have rowsLeft := recoverUnsupportedPayments_recovered
      (listPaymentsByOrderForUpdate_current db id) recovery
    have quiet : recovered.Quiet id := by
      intro payment member same
      have facts := cancellationScan_eq_ok scan (rowsLeft.complete member same)
      exact ⟨PaymentStatus.ended facts.2.1 facts.2.2, facts.1⟩
    exact releaseOrder_refines tidy sound first (by rw [rowsLeft.frame]) quiet done

theorem cancelOrder_refines {id userID : Int} (tidy : db.ItemsTidy) (sound : db.ledger.Sound)
    (done : cancelOrder id userID db = .ok result) : Refines warrant db result := by
  unfold cancelOrder at done
  obtain ⟨_, _, done⟩ := bind_eq_ok.mp done
  exact cancelOrderByUser_refines tidy sound done

/-! ### Expiry -/

private theorem startClosing_steps {payment row : Payment}
    (done : startClosing payment db = .ok (row, result)) : Steps warrant db result := by
  unfold startClosing at done
  split at done
  · cases done
    exact .refl db
  · exact markPaymentClosePending_steps (found_eq_ok.mp done)

private theorem closeActivePayments_steps {rows : List Payment} {active : Bool}
    (done : closeActivePayments rows db = .ok (active, result)) : Steps warrant db result := by
  induction rows generalizing db active with
  | nil =>
      cases done
      exact .refl _
  | cons payment rest ih =>
      rw [closeActivePayments] at done
      split at done
      · obtain ⟨⟨row, changed⟩, closing, done⟩ := bind_eq_ok.mp done
        obtain ⟨_, _, done⟩ := bind_eq_ok.mp done
        obtain ⟨⟨_, last⟩, later, done⟩ := bind_eq_ok.mp done
        cases pure_eq_ok.mp done
        exact (startClosing_steps closing).trans ((enqueue_clerical changed _ none).steps.trans (ih later))
      · exact ih done

private theorem closeActivePayments_none {rows : List Payment}
    (done : closeActivePayments rows db = .ok (false, result)) :
    result = db ∧ ∀ payment ∈ rows, payment.status.isActive = false := by
  induction rows with
  | nil =>
      cases done
      exact ⟨rfl, fun _ member => absurd member List.not_mem_nil⟩
  | cons payment rest ih =>
      rw [closeActivePayments] at done
      split at done
      · obtain ⟨⟨row, changed⟩, closing, done⟩ := bind_eq_ok.mp done
        obtain ⟨_, _, done⟩ := bind_eq_ok.mp done
        obtain ⟨⟨_, last⟩, later, done⟩ := bind_eq_ok.mp done
        cases pure_eq_ok.mp done
      · next inactive =>
          obtain ⟨same, others⟩ := ih done
          refine ⟨same, fun other member => ?_⟩
          rcases List.mem_cons.mp member with rfl | listed
          · exact Bool.not_eq_true _ ▸ inactive
          · exact others other listed

theorem unsettled_of_pending (sound : db.ledger.Sound) {order : Order} {payment : Payment}
    (present : db.orders.find? payment.orderId = some order)
    (pending : order.status = .pendingPayment) (member : payment ∈ db.payments) :
    payment.status.isSettled = false :=
  sound.funding.pendingUnpaid (Database.ledger_payment (Table.find?_key member))
    (Database.ledger_order present) pending

/-- What recovery returns for a pending order is unsettled, so the healing branch
of the expiry scan is never taken. -/
theorem Recovered.unsettled {orderID : Int} {order : Order} {rows : List Payment}
    {recovered : Database} (sound : db.ledger.Sound)
    (present : db.orders.find? orderID = some order) (pending : order.status = .pendingPayment)
    (recovery : recoverUnsupportedPayments (db.listPaymentsByOrderForUpdate orderID) db =
      .ok (rows, recovered)) :
    ∀ payment ∈ rows, payment.status.isSettled = false := by
  intro payment member
  have left := recoverUnsupportedPayments_recovered
    (listPaymentsByOrderForUpdate_current db orderID) recovery
  have steps : Steps .empty db recovered := recoverUnsupportedPayments_steps recovery
  have known : recovered.orders.find? orderID = some order := by
    rw [left.frame]
    exact present
  exact unsettled_of_pending (steps.path.sound sound) (left.sameOrder member ▸ known) pending
    (Table.mem_of_find? (left.found payment member))

theorem expirySettled_eq_none {rows : List Payment}
    (unsettled : ∀ payment ∈ rows, payment.status.isSettled = false) : expirySettled rows = none := by
  apply List.find?_eq_none.mpr
  intro payment member
  rw [unsettled payment member]
  decide

theorem expireOrder_refines {now : Time} {orderID : Int} {reconcile : Bool} (tidy : db.ItemsTidy)
    (sound : db.ledger.Sound) (done : expireOrder now orderID db = .ok (reconcile, result)) :
    Refines warrant db result := by
  unfold expireOrder at done
  obtain ⟨_, _, done⟩ := bind_eq_ok.mp done
  obtain ⟨order, present, done⟩ := bind_eq_ok.mp done
  split at done
  · cases pure_eq_ok.mp done
    exact Steps.refines (.refl db) tidy
  · next standing =>
      have pending : order.status = .pendingPayment := not_not.mp standing
      obtain ⟨_, _, done⟩ := bind_eq_ok.mp done
      obtain ⟨⟨rows, recovered⟩, recovery, done⟩ := bind_eq_ok.mp done
      obtain ⟨_, reviewed, done⟩ := bind_eq_ok.mp done
      have first : Steps warrant db recovered := recoverUnsupportedPayments_steps recovery
      have left := recoverUnsupportedPayments_recovered
        (listPaymentsByOrderForUpdate_current db orderID) recovery
      have unsettled := Recovered.unsettled sound (found_eq_ok.mp present) pending recovery
      dsimp only at done
      rw [expirySettled_eq_none unsettled] at done
      obtain ⟨⟨active, closing⟩, close, done⟩ := bind_eq_ok.mp done
      have second := first.trans (closeActivePayments_steps close)
      split at done
      · cases pure_eq_ok.mp done
        exact second.refines tidy
      · next none =>
          obtain ⟨released, release, done⟩ := bind_eq_ok.mp done
          cases pure_eq_ok.mp done
          cases active with
          | true => exact absurd rfl none
          | false =>
              obtain ⟨rfl, inactive⟩ := closeActivePayments_none close
              have quiet : closing.Quiet orderID := by
                intro payment member same
                have listed := left.complete member same
                exact ⟨PaymentStatus.ended (unsettled payment listed) (inactive payment listed),
                  require_eq_ok.mp reviewed payment listed⟩
              exact releaseOrder_refines tidy sound first (by rw [left.frame]) quiet release

/-! ### Settling the order after a payment ended -/

/-- `current` has ended without money; the other payments are as they were. -/
structure Ended (current : Payment) (db ended : Database) : Prop where
  products : ended.products = db.products
  self : ∀ payment ∈ ended.payments, payment.id = current.id →
    (payment.status = .failed ∨ payment.status = .closed) ∧
      payment.needsReview = current.needsReview
  others : ∀ payment ∈ ended.payments, payment.id ≠ current.id → payment ∈ db.payments

/-- The other healing branch needs a successful sibling of a pending order. -/
theorem successfulSibling_eq_none {order : Order} (sound : db.ledger.Sound)
    (present : db.orders.find? order.id = some order) (pending : order.status = .pendingPayment)
    (current : Payment) :
    successfulSibling current (db.listPaymentsByOrderForUpdate order.id) = none := by
  cases sibling : successfulSibling current (db.listPaymentsByOrderForUpdate order.id) with
  | none => rfl
  | some id =>
      obtain ⟨payment, last, _⟩ := Option.map_eq_some_iff.mp sibling
      obtain ⟨listed, chosen⟩ := List.mem_filter.mp (List.mem_of_getLast? last)
      obtain ⟨member, same⟩ := Database.mem_listPaymentsByOrderForUpdate.mp listed
      have unpaid := unsettled_of_pending sound (same ▸ present) pending member
      simp only [Bool.and_eq_true, beq_iff_eq] at chosen
      rw [chosen.1.2] at unpaid
      cases unpaid

theorem finalizeOrderAfterPaymentInactive_refines {order : Order} {current : Payment}
    {ended : Database} (tidy : db.ItemsTidy) (sound : db.ledger.Sound)
    (present : db.orders.find? order.id = some order) (steps : Steps warrant db ended)
    (inactive : Ended current db ended)
    (done : finalizeOrderAfterPaymentInactive order (db.listPaymentsByOrderForUpdate order.id) current
      ended = .ok result) : Refines warrant db result := by
  have unsettled : order.status = .pendingPayment → ∀ payment ∈ db.payments,
      payment.orderId = order.id → payment.status.isSettled = false :=
    fun pending payment member same => unsettled_of_pending sound (same ▸ present) pending member
  unfold finalizeOrderAfterPaymentInactive at done
  split at done
  · next paymentID sibling =>
      split at done
      · next pending =>
          rw [successfulSibling_eq_none sound present pending] at sibling
          cases sibling
      · cases done
        exact steps.refines tidy
  · split at done
    · next conditions =>
        obtain ⟨noneActive, noCase, pending⟩ := conditions
        simp only [caseOpen, Bool.or_eq_false_iff] at noCase
        have quiet : ended.Quiet order.id := by
          intro payment member same
          by_cases here : payment.id = current.id
          · obtain ⟨status, review⟩ := inactive.self payment member here
            exact ⟨status, review.trans noCase.1⟩
          · have old := inactive.others payment member here
            have listed := Database.mem_listPaymentsByOrderForUpdate.mpr ⟨old, same⟩
            have noActive := List.any_eq_false.mp noneActive payment listed
            have noReview := List.any_eq_false.mp noCase.2 payment listed
            simp only [bne_iff_ne, ne_eq, here, not_false_eq_true, Bool.and_eq_true, true_and,
              Bool.not_eq_true] at noActive noReview
            exact ⟨PaymentStatus.ended (unsettled pending payment old same) noActive, noReview⟩
        exact releaseOrder_refines tidy sound steps inactive.products quiet done
    · cases done
      exact steps.refines tidy

end Mall
