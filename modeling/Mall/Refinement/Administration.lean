/-
Administrator actions and shipping refine the ledger.
-/

import Mall.Fulfillment
import Mall.Refinement.Answers

namespace Mall

open Ledger Relational Transactional

variable {warrant : Warrant} {db result : Database}

/-! ### Review cases -/

private theorem createReconciliationAction_books {row stored : ReconciliationAction}
    (done : db.createReconciliationAction row = .ok (stored, result)) : SameBooks db result := by
  unfold Database.createReconciliationAction at done
  obtain ⟨_, _, done⟩ := bind_eq_ok.mp done
  obtain ⟨_, _, done⟩ := bind_eq_ok.mp done
  cases pure_eq_ok.mp done
  exact ⟨rfl, rfl, rfl, rfl, rfl, rfl, rfl⟩

private theorem retryPaymentReconciliation_steps {id version : Int} {changed : Payment}
    (update : db.retryPaymentReconciliation id version = some (changed, result)) :
    Steps warrant db result := by
  refine updatePayment_unseen update ?_
  intro row allowed
  simp only [Bool.and_eq_true, beq_iff_eq] at allowed
  simp [Payment.charge, Payment.needsReview, reconciliationNeedsReview, allowed.2]

private theorem retryReconciliation_steps {order : Order} {payment changed : Payment}
    {version : Int} {jobID : Option Int}
    (done : retryReconciliation order payment version db = .ok (changed, jobID, result)) :
    Steps warrant db result := by
  unfold retryReconciliation at done
  obtain ⟨_, _, done⟩ := bind_eq_ok.mp done
  obtain ⟨_, _, done⟩ := bind_eq_ok.mp done
  obtain ⟨⟨row, processing⟩, update, done⟩ := bind_eq_ok.mp done
  cases pure_eq_ok.mp done
  exact (retryPaymentReconciliation_steps (found_eq_ok.mp update)).trans
    (enqueue_clerical processing _ none).steps

private theorem finding_resolve (failure : ReconciliationFailure) (id : Int) (now : Time) :
    (if failure.paymentId = id ∧ failure.resolvedAt = none then
      { failure with resolvedAt := some now } else failure).finding =
      if failure.finding.payment = id then { failure.finding with unresolved := false }
      else failure.finding := by
  by_cases here : failure.paymentId = id
  · cases resolved : failure.resolvedAt with
    | none => simp [here, ReconciliationFailure.finding]
    | some time => simp [here, resolved, ReconciliationFailure.finding]
  · simp [here, ReconciliationFailure.finding]

private theorem ledger_resolvePaymentReconciliation {now : Time} {id version : Int}
    {changed : Payment}
    (done : db.resolvePaymentReconciliation now id version = some (changed, result)) :
    ∃ payment, db.payments.find? id = some payment ∧
      result.ledger = (db.ledger.setPayment id { payment.charge with review := false }).closeFindings
        id ∧ result.orderItems = db.orderItems := by
  obtain ⟨⟨row, updated⟩, update, same⟩ := Option.map_eq_some_iff.mp done
  cases same
  obtain ⟨payment, present, _, _, rfl⟩ := Database.updatePayment_eq_some.mp update
  refine ⟨payment, present, ?_, rfl⟩
  have payments := Table.view_update Payment.charge db.payments (fun payment =>
    { payment with
      reconciliationStatus := .resolved
      reconciliationVersion := payment.reconciliationVersion + 1 }) present
  refine Ledger.ext rfl payments rfl ?_ rfl rfl rfl rfl rfl
  funext other
  have view := congrFun (Table.view_rewrite ReconciliationFailure.finding db.failures
    (fun failure => if failure.paymentId = id ∧ failure.resolvedAt = none then
      { failure with resolvedAt := some now } else failure)) other
  refine view.trans ?_
  change _ = ((db.failures.find? other).map ReconciliationFailure.finding).map _
  rw [Option.map_map]
  congr 1
  funext failure
  exact finding_resolve failure id now

private theorem canResolveReconciliation_funds {order : Order} {payment : Payment}
    {refund : Option OrderRefund} (positive : 0 < payment.id)
    (allowed : canResolveReconciliation payment order refund = true)
    (success : payment.status = .success) :
    order.status.isFunded = true ∧ order.paidPaymentId = some payment.id := by
  simp only [canResolveReconciliation, success] at allowed
  split at allowed
  · cases allowed
  · split at allowed
    · cases allowed
    · split at allowed
      · cases allowed
      · simp only [Bool.and_eq_true, beq_iff_eq] at allowed
        exact ⟨allowed.1.1, (Order.paidPaymentID_eq positive).mp allowed.1.2⟩

/-- The resolve branch asks about its own payment and about the one that funds
the order. -/
theorem resolveReconciliation_eq_ok {now : Time} {order : Order} {payments : List Payment}
    {payment changed : Payment} {version : Int} {jobID : Option Int}
    (done : resolveReconciliation now order payments payment version db =
      .ok (changed, jobID, result)) :
    canResolvePaymentReconciliation payment order (db.getOrderRefundByPaymentID payment.id) db =
        true ∧
      primaryResolvable payments payment order db = true ∧
      db.resolvePaymentReconciliation now payment.id version = some (changed, result) := by
  unfold resolveReconciliation at done
  obtain ⟨_, _, done⟩ := bind_eq_ok.mp done
  obtain ⟨_, allowed, done⟩ := bind_eq_ok.mp done
  obtain ⟨_, primary, done⟩ := bind_eq_ok.mp done
  obtain ⟨⟨row, resolved⟩, update, done⟩ := bind_eq_ok.mp done
  cases pure_eq_ok.mp done
  exact ⟨require_eq_ok.mp allowed, require_eq_ok.mp primary, found_eq_ok.mp update⟩

theorem canResolvePaymentReconciliation_funds {order : Order} {payment : Payment}
    {refund : Option OrderRefund} (positive : 0 < payment.id)
    (allowed : canResolvePaymentReconciliation payment order refund db = true)
    (success : payment.status = .success) : order.paidPaymentId = some payment.id := by
  rw [canResolvePaymentReconciliation, Bool.and_eq_true] at allowed
  exact (canResolveReconciliation_funds positive allowed.1 success).2

private theorem resolveReconciliation_steps {now : Time} {order : Order} {payments : List Payment}
    {payment changed : Payment} {version : Int} {jobID : Option Int}
    (locked : Locked db order payment)
    (done : resolveReconciliation now order payments payment version db =
      .ok (changed, jobID, result)) : Steps warrant db result := by
  obtain ⟨allowed, _, update⟩ := resolveReconciliation_eq_ok done
  obtain ⟨stored, present, after, items⟩ := ledger_resolvePaymentReconciliation update
  cases present.symm.trans locked.foundPayment
  exact .one (.resolve payment.id payment.charge (db.purchase order) locked.charge locked.purchase
    (canResolvePaymentReconciliation_funds locked.positive allowed)) after items

def auditRow (actor : Actor) (input : ReconciliationInput) (payment changed : Payment)
    (jobID : Option Int) : ReconciliationAction :=
  { id := 0
    paymentId := payment.id
    actorId := actor.id
    action := input.action
    fromStatus := payment.reconciliationStatus
    toStatus := changed.reconciliationStatus
    fromVersion := payment.reconciliationVersion
    toVersion := changed.reconciliationVersion
    idempotencyKey := input.idempotencyKey
    reason := input.reason
    evidence := input.evidence
    riverJobId := jobID }

theorem applyReconciliation_eq_ok {now : Time} {actor : Actor} {input : ReconciliationInput}
    {action : ReconciliationAction}
    (done : applyReconciliation now actor input db = .ok (action, result)) :
    ∃ order payment, Locked db order payment ∧ payment.id = input.paymentID ∧
      ((db.getReconciliationAction payment.id input.idempotencyKey = some action ∧
          sameReconciliation actor input action ∧ result = db) ∨
        ∃ changed jobID moved,
          moveReconciliation now order (db.listPaymentsByOrderForUpdate order.id) payment input db =
            .ok (changed, jobID, moved) ∧
          moved.createReconciliationAction (auditRow actor input payment changed jobID) =
            .ok (action, result) ∧
          payment.reconciliationVersion = input.expectedVersion ∧
          (db.users.find? actor.id).isSome = true) := by
  unfold applyReconciliation at done
  obtain ⟨_, _, done⟩ := bind_eq_ok.mp done
  obtain ⟨user, account, done⟩ := bind_eq_ok.mp done
  obtain ⟨snapshot, present, done⟩ := bind_eq_ok.mp done
  obtain ⟨order, owner, done⟩ := bind_eq_ok.mp done
  obtain ⟨payment, chosen, done⟩ := bind_eq_ok.mp done
  have key : order.id = snapshot.orderId := Table.key_of_find? (found_eq_ok.mp owner)
  rw [key] at chosen
  obtain ⟨_, locked, same⟩ := applyPayQuery_locked (found_eq_ok.mp present) (found_eq_ok.mp owner)
    (found_eq_ok.mp chosen)
  refine ⟨order, payment, locked, same.symm, ?_⟩
  split at done
  · next earlier known =>
      obtain ⟨_, replayed, done⟩ := bind_eq_ok.mp done
      cases pure_eq_ok.mp done
      exact Or.inl ⟨known, require_eq_ok.mp replayed, rfl⟩
  · obtain ⟨_, version, done⟩ := bind_eq_ok.mp done
    obtain ⟨⟨changed, jobID, moved⟩, move, done⟩ := bind_eq_ok.mp done
    exact Or.inr ⟨changed, jobID, moved, move, done, require_eq_ok.mp version,
      Option.isSome_of_eq_some (found_eq_ok.mp account)⟩

theorem applyReconciliation_steps {now : Time} {actor : Actor} {input : ReconciliationInput}
    {action : ReconciliationAction}
    (done : applyReconciliation now actor input db = .ok (action, result)) :
    Steps warrant db result := by
  obtain ⟨order, payment, locked, _, ⟨_, _, rfl⟩ | ⟨changed, jobID, moved, move, audit, _⟩⟩ :=
    applyReconciliation_eq_ok done
  · exact .refl _
  · have first : Steps warrant db moved := by
      unfold moveReconciliation at move
      split at move
      · exact retryReconciliation_steps move
      · exact resolveReconciliation_steps locked move
    exact first.trans (createReconciliationAction_books audit).steps

/-! ### Shipping -/

theorem createOrderFulfillmentAction_books {row stored : FulfillmentAction}
    (done : db.createOrderFulfillmentAction row = .ok (stored, result)) : SameBooks db result := by
  unfold Database.createOrderFulfillmentAction at done
  obtain ⟨_, _, done⟩ := bind_eq_ok.mp done
  obtain ⟨_, _, done⟩ := bind_eq_ok.mp done
  cases pure_eq_ok.mp done
  exact ⟨rfl, rfl, rfl, rfl, rfl, rfl, rfl⟩

/-- What the check before shipping establishes about the funding payment. -/
theorem checkFunding_eq_ok {order : Order} {paid : Int} {done : Unit}
    (checked : checkFunding order paid db = .ok done) :
    ∃ payment, db.payments.find? paid = some payment ∧ payment.orderId = order.id ∧
      payment.status = .success ∧ payment.needsReview = false ∧
      ∀ refund, db.getOrderRefundByPaymentID paid = some refund → refund.status = .failed := by
  unfold checkFunding at checked
  obtain ⟨payment, present, checked⟩ := bind_eq_ok.mp checked
  obtain ⟨_, matching, checked⟩ := bind_eq_ok.mp checked
  obtain ⟨_, reviewed, checked⟩ := bind_eq_ok.mp checked
  obtain ⟨sameOrder, _, _, _, success⟩ := require_eq_ok.mp matching
  refine ⟨payment, found_eq_ok.mp present, sameOrder, success, ?_, require_eq_ok.mp checked⟩
  rcases require_eq_ok.mp reviewed with none | resolved
  · rw [Payment.needsReview, none]
    rfl
  · rw [Payment.needsReview, resolved]
    rfl

private theorem markFulfilled_steps {kind : FulfillmentKind} {order changed : Order} {paid : Int}
    {done : Unit} (sound : db.ledger.Sound) (present : db.orders.find? order.id = some order)
    (status : order.status = kind.startsFrom) (funded : order.paidPaymentId = some paid)
    (checked : checkFunding order paid db = .ok done)
    (asked : kind = .ship → warrant.ships order.id)
    (mark : markFulfilled kind order.id db = some (changed, result)) : Steps warrant db result := by
  obtain ⟨payment, known, _, _, reviewed, failed⟩ := checkFunding_eq_ok checked
  cases kind with
  | ship =>
      obtain ⟨row, stored, _, _, rfl⟩ := Database.updateOrder_eq_some.mp mark
      cases stored.symm.trans present
      have kept : ∀ other reversal, db.ledger.refunds other = some reversal →
          reversal.payment = paid → reversal.status = .failed := by
        intro other reversal found same
        obtain ⟨refund, chosen, rfl⟩ := getOrderRefundByPaymentID_of_ledger sound found
        exact failed refund (same ▸ chosen)
      exact .one (.ship order.id paid (db.purchase order) payment.charge
        (Database.ledger_order present) status funded (Database.ledger_payment known) reviewed kept
        (asked rfl))
        (Database.ledger_updateOrder_dispatch _ present (by rw [status]; rfl) rfl rfl) rfl
  | complete =>
      obtain ⟨row, stored, _, _, rfl⟩ := Database.updateOrder_eq_some.mp mark
      cases stored.symm.trans present
      exact .one (.complete order.id paid (db.purchase order) payment.charge
        (Database.ledger_order present) status funded (Database.ledger_payment known) reviewed)
        (Database.ledger_updateOrder_same _ present (by rw [status]; rfl) (by rw [status]; rfl)) rfl

def shippingRow (actor : Actor) (input : OrderFulfillmentInput) (order changed : Order) :
    FulfillmentAction :=
  { id := 0
    orderId := order.id
    actorId := actor.id
    action := input.action
    fromStatus := order.status
    toStatus := changed.status
    idempotencyKey := input.idempotencyKey
    reason := input.reason
    carrier := input.carrier
    trackingNumber := input.trackingNumber }

theorem applyFulfillment_eq_ok {actor : Actor} {input : OrderFulfillmentInput}
    {action : FulfillmentAction} (done : applyFulfillment actor input db = .ok (action, result)) :
    ∃ order, db.orders.find? order.id = some order ∧ order.id = input.orderID ∧
      ((db.getOrderFulfillmentAction order.id input.idempotencyKey = some action ∧
          sameFulfillment actor input action ∧ result = db) ∨
        db.getOrderFulfillmentAction order.id input.idempotencyKey = none ∧
          ∃ paid changed moved, order.status = input.action.startsFrom ∧
          order.paidPaymentId = some paid ∧ checkFunding order paid db = .ok () ∧
          markFulfilled input.action order.id db = some (changed, moved) ∧
          moved.createOrderFulfillmentAction (shippingRow actor input order changed) =
            .ok (action, result) ∧
          (db.users.find? actor.id).isSome = true) := by
  unfold applyFulfillment at done
  obtain ⟨_, _, done⟩ := bind_eq_ok.mp done
  obtain ⟨user, account, done⟩ := bind_eq_ok.mp done
  obtain ⟨order, present, done⟩ := bind_eq_ok.mp done
  obtain ⟨_, _, done⟩ := bind_eq_ok.mp done
  have known : db.orders.find? input.orderID = some order := found_eq_ok.mp present
  have key : order.id = input.orderID := Table.key_of_find? known
  refine ⟨order, key.symm ▸ known, key, ?_⟩
  split at done
  · next earlier recorded =>
      obtain ⟨_, replayed, done⟩ := bind_eq_ok.mp done
      cases pure_eq_ok.mp done
      exact Or.inl ⟨recorded, require_eq_ok.mp replayed, rfl⟩
  · next absent =>
      obtain ⟨_, status, done⟩ := bind_eq_ok.mp done
      obtain ⟨paid, funded, done⟩ := bind_eq_ok.mp done
      obtain ⟨_, checked, done⟩ := bind_eq_ok.mp done
      obtain ⟨⟨changed, moved⟩, mark, done⟩ := bind_eq_ok.mp done
      exact Or.inr ⟨absent, paid, changed, moved, require_eq_ok.mp status, found_eq_ok.mp funded,
        checked, found_eq_ok.mp mark, done, Option.isSome_of_eq_some (found_eq_ok.mp account)⟩

theorem applyFulfillment_steps {actor : Actor} {input : OrderFulfillmentInput}
    {action : FulfillmentAction} (sound : db.ledger.Sound)
    (asked : input.action = .ship → warrant.ships input.orderID)
    (done : applyFulfillment actor input db = .ok (action, result)) : Steps warrant db result := by
  obtain ⟨order, present, key, ⟨_, _, rfl⟩ | ⟨_, paid, changed, moved, status, funded, checked, mark,
    audit, _⟩⟩ := applyFulfillment_eq_ok done
  · exact .refl _
  · have steps : Steps warrant db moved :=
      markFulfilled_steps sound present status funded checked (key.symm ▸ asked) mark
    exact steps.trans (createOrderFulfillmentAction_books audit).steps

end Mall
