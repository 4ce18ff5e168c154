/-
A refund that the provider reports on its own is not acknowledged away.

The failure row is the evidence.  While it is unresolved, the payment stays in
review, its case cannot be resolved and the goods do not move.  A repeated
request only gets the recorded answer of the first one.
-/

import Mall.Guarantees.Funding

namespace Mall

open Ledger Relational Transactional

variable {db : Database}

/-! ### The evidence -/

/-- An unresolved failure row that records a refund at the provider. -/
def ReconciliationFailure.IsProviderRefund (failure : ReconciliationFailure) (payment : Payment) :
    Prop :=
  failure.paymentId = payment.id ∧ failure.reason = .providerSideRefund ∧
    failure.resolvedAt = none

theorem Database.Valid.evidence (valid : db.Valid) {failure : ReconciliationFailure}
    {payment : Payment} (member : payment ∈ db.payments) (recorded : failure ∈ db.failures)
    (about : failure.paymentId = payment.id) (unresolved : failure.resolvedAt = none) :
    payment.needsReview = true := by
  obtain ⟨charge, found, review⟩ := valid.sound.evidence failure.id failure.finding
    (Database.ledger_finding (Table.find?_key recorded))
    (by rw [ReconciliationFailure.finding, unresolved]; rfl)
  have known : db.ledger.payments payment.id = some payment.charge :=
    Database.ledger_payment (Table.find?_key member)
  rw [show failure.finding.payment = payment.id from about, known] at found
  cases found
  exact review

private theorem not_canResolvePaymentReconciliation {payment : Payment} {order : Order}
    {refund : Option OrderRefund} (success : payment.status = .success)
    (evidence : db.hasUnresolvedProviderRefund payment.id = true) :
    canResolvePaymentReconciliation payment order refund db = false := by
  simp [canResolvePaymentReconciliation, success, evidence]

/-! ### What the evidence prevents -/

private theorem primary_not_resolvable {order : Order} {payment sibling : Payment}
    (locked : Locked db order payment) (funds : order.paidPaymentId = some payment.id)
    (success : payment.status = .success)
    (evidence : db.hasUnresolvedProviderRefund payment.id = true)
    (other : payment.id ≠ sibling.id) :
    primaryResolvable (db.listPaymentsByOrderForUpdate order.id) sibling order db = false := by
  unfold primaryResolvable
  rw [funds]
  dsimp only
  rw [if_neg other, locked.key, find?_listPaymentsByOrderForUpdate locked]
  exact not_canResolvePaymentReconciliation success evidence

/-- A resolve request that this evidence stands against commits only as the
repetition of an earlier one. -/
theorem resolve_replayed {now : Time} {actor : Actor} {input : ReconciliationInput}
    {order : Order} {payment : Payment} {action : ReconciliationAction} {result : Database}
    (locked : Locked db order payment) (success : payment.status = .success)
    (evidence : db.hasUnresolvedProviderRefund payment.id = true)
    (resolve : input.action = .resolve)
    (about : input.paymentID = payment.id ∨ order.paidPaymentId = some payment.id ∧
      ∃ sibling ∈ db.payments, sibling.orderId = order.id ∧ input.paymentID = sibling.id)
    (done : applyReconciliation now actor input db = .ok (action, result)) :
    db.getReconciliationAction input.paymentID input.idempotencyKey = some action ∧
      sameReconciliation actor input action ∧ result = db := by
  obtain ⟨owner, row, rowLocked, key, ⟨recorded, same, unchanged⟩ |
    ⟨changed, jobID, moved, move, _⟩⟩ := applyReconciliation_eq_ok done
  · exact ⟨key ▸ recorded, same, unchanged⟩
  · rw [moveReconciliation, resolve] at move
    obtain ⟨allowed, primary, _⟩ := resolveReconciliation_eq_ok move
    by_cases itself : row.id = payment.id
    · have samePayment := rowLocked.foundPayment
      rw [itself, locked.foundPayment] at samePayment
      cases samePayment
      rw [not_canResolvePaymentReconciliation success evidence] at allowed
      cases allowed
    · rcases about with same | ⟨funds, sibling, member, siblingOrder, same⟩
      · exact absurd (key.trans same) itself
      · have siblingRow : db.payments.find? sibling.id = some sibling := Table.find?_key member
        rw [← same, ← key, rowLocked.foundPayment] at siblingRow
        cases siblingRow
        have sameOwner := rowLocked.foundOrder
        rw [siblingOrder, locked.key, locked.foundOrder] at sameOwner
        cases sameOwner
        rw [primary_not_resolvable locked funds success evidence (Ne.symm itself)] at primary
        cases primary

private theorem fulfillment_replayed {actor : Actor} {input : OrderFulfillmentInput} {order : Order}
    {payment : Payment} {action : FulfillmentAction} {result : Database}
    (found : db.payments.find? payment.id = some payment) (review : payment.needsReview = true)
    (present : db.orders.find? input.orderID = some order)
    (funds : order.paidPaymentId = some payment.id)
    (done : applyFulfillment actor input db = .ok (action, result)) :
    db.getOrderFulfillmentAction input.orderID input.idempotencyKey = some action ∧
      sameFulfillment actor input action ∧ result = db := by
  obtain ⟨row, stored, key, ⟨recorded, same, unchanged⟩ | ⟨_, paid, _, _, _, funded, checked, _⟩⟩ :=
    applyFulfillment_eq_ok done
  · exact ⟨key ▸ recorded, same, unchanged⟩
  · rw [key, present] at stored
    cases stored
    cases funds.symm.trans funded
    obtain ⟨funding, known, _, _, reviewed, _⟩ := checkFunding_eq_ok checked
    cases known.symm.trans found
    rw [review] at reviewed
    cases reviewed

/-! ### The guarantee, and a repeated request -/

/-- A case of the payment is resolved and the order is shipped; then the provider
reports a refund that nobody asked for. -/
def refundedElsewhereShop : Database :=
  run next paidShop
    [.markReconciliationRequired
      { paymentID := 1
        notificationID := 0
        provider := "alipay"
        reason := none
        riverJobID := none
        attempt := 1
        lastError := "query timed out" },
      .applyReconciliation 3 shopAdmin resolveTea, .applyFulfillment shopAdmin shipTea,
      answerTeaPayment 1 "PAY1" "TX1" .refund 200]

private theorem evidence_of_rows {id failureID : Int}
    (rows : (db.payments.find? id).map Payment.status = some .success ∧
      (db.failures.find? failureID).map
        (fun failure => (failure.paymentId, failure.reason, failure.resolvedAt)) =
          some (id, .providerSideRefund, none)) :
    ∃ payment ∈ db.payments, payment.id = id ∧ payment.status = .success ∧
      ∃ failure ∈ db.failures, failure.IsProviderRefund payment := by
  obtain ⟨payment, found, success⟩ := Option.map_eq_some_iff.mp rows.1
  obtain ⟨failure, recorded, facts⟩ := Option.map_eq_some_iff.mp rows.2
  have key : payment.id = id := Table.key_of_find? found
  obtain ⟨about, reason, unresolved⟩ :=
    (Prod.ext_iff.trans (and_congr_right' Prod.ext_iff)).mp facts
  exact ⟨payment, Table.mem_of_find? found, key, success, failure, Table.mem_of_find? recorded,
    about.trans key.symm, reason, unresolved⟩

private theorem refundedElsewhereShop_evidence :
    ∃ payment ∈ refundedElsewhereShop.payments, payment.id = 1 ∧ payment.status = .success ∧
      ∃ failure ∈ refundedElsewhereShop.failures, failure.IsProviderRefund payment :=
  @evidence_of_rows _ 1 2 (by decide +kernel)

/-- While a provider's own refund is on record against a successful payment. -/
theorem provider_refund_held (reached : Reached db) {payment : Payment}
    {failure : ReconciliationFailure} (member : payment ∈ db.payments)
    (success : payment.status = .success) (recorded : failure ∈ db.failures)
    (refund : failure.IsProviderRefund payment) :
    (payment.reconciliationStatus = .required ∨ payment.reconciliationStatus = .processing) ∧
    (∀ now actor input action result, input.action = .resolve →
      (input.paymentID = payment.id ∨
        ∃ order, db.orders.find? payment.orderId = some order ∧
          order.paidPaymentId = some payment.id ∧
          ∃ sibling ∈ db.payments, sibling.orderId = order.id ∧ input.paymentID = sibling.id) →
      applyReconciliation now actor input db = .ok (action, result) →
      db.getReconciliationAction input.paymentID input.idempotencyKey = some action ∧
        sameReconciliation actor input action ∧ result = db) ∧
    (∀ actor input order action result, db.orders.find? input.orderID = some order →
      order.paidPaymentId = some payment.id →
      applyFulfillment actor input db = .ok (action, result) →
      db.getOrderFulfillmentAction input.orderID input.idempotencyKey = some action ∧
        sameFulfillment actor input action ∧ result = db) := by
  have valid := reached.valid
  have evidence := hasUnresolvedProviderRefund_eq_true.mpr ⟨failure, recorded, refund⟩
  have review := valid.evidence member recorded refund.1 refund.2.2
  refine ⟨Payment.needsReview_iff.mp review, ?_, ?_⟩
  · intro now actor input action result resolve about done
    obtain ⟨order, locked⟩ := valid.locked member
    refine resolve_replayed locked success evidence resolve ?_ done
    rcases about with same | ⟨row, present, funds, others⟩
    · exact Or.inl same
    · cases present.symm.trans locked.foundOrder
      exact Or.inr ⟨funds, others⟩
  · intro actor input order action result present funds done
    exact fulfillment_replayed (Table.find?_key member) review present funds done

theorem provider_refund_held_refundedElsewhereShop :
    ∃ payment ∈ refundedElsewhereShop.payments, payment.id = 1 ∧ payment.status = .success ∧
      (payment.reconciliationStatus = .required ∨ payment.reconciliationStatus = .processing) ∧
      ∀ now actor input action result, input.action = .resolve → input.paymentID = payment.id →
        applyReconciliation now actor input refundedElsewhereShop = .ok (action, result) →
        result = refundedElsewhereShop := by
  obtain ⟨payment, member, key, success, failure, recorded, refund⟩ :=
    refundedElsewhereShop_evidence
  obtain ⟨review, resolve, _⟩ :=
    provider_refund_held (paidShop_reached.run _) member success recorded refund
  refine ⟨payment, member, key, success, review, ?_⟩
  intro now actor input action result kind about done
  exact (resolve now actor input action result kind (Or.inl about) done).2.2

/-- The first payment fails, a second one pays the order, and then the first is reported
as paid after all and as refunded. -/
def siblingRefundShop : Database :=
  run next smallShop
    [orderTea "ORD1" "order-key-1" 2, openTeaPayment "PAY1" 1 200,
      answerTeaPayment 1 "PAY1" "" .payError 200, openTeaPayment "PAY2" 1 200,
      answerTeaPayment 2 "PAY2" "TX2" .success 200, answerTeaPayment 1 "PAY1" "TX1" .success 200,
      answerTeaPayment 1 "PAY1" "TX1" .refund 200]

/-- The recorded resolution and the recorded shipment are answered again.  An order that
another payment funds is shipped for the first time. -/
theorem refundedElsewhereShop_replays :
    (Reached refundedElsewhereShop ∧
      (∃ payment ∈ refundedElsewhereShop.payments, payment.id = 1 ∧ payment.status = .success ∧
        ∃ failure ∈ refundedElsewhereShop.failures, failure.IsProviderRefund payment) ∧
      (applyReconciliation 4 shopAdmin resolveTea refundedElsewhereShop).isOk = true ∧
      (applyFulfillment shopAdmin shipTea refundedElsewhereShop).isOk = true) ∧
    Reached siblingRefundShop ∧
      (∃ payment ∈ siblingRefundShop.payments, payment.id = 1 ∧ payment.status = .success ∧
        ∃ failure ∈ siblingRefundShop.failures, failure.IsProviderRefund payment) ∧
      siblingRefundShop.payments.rows.map Payment.orderId = [1, 1] ∧
      siblingRefundShop.fulfillmentActions.rows.length = 0 ∧
      (applyFulfillment shopAdmin shipTea siblingRefundShop).isOk = true := by
  refine ⟨⟨paidShop_reached.run _, refundedElsewhereShop_evidence, ?_⟩,
    ⟨smallShop, _, smallShop_initial, rfl⟩, @evidence_of_rows _ 1 2 ?_, ?_⟩
  · decide +kernel
  · decide +kernel
  · decide +kernel

end Mall
