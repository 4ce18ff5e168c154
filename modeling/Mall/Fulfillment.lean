/-
Administrator actions on review cases, and shipping.

Both are replayed by idempotency key and leave an audit row.
-/

import Mall.Settlement

namespace Mall

open Relational Transactional

/-! ### Review cases -/

def canResolvePaymentReconciliation (payment : Payment) (order : Order)
    (refund : Option OrderRefund) (db : Database) : Bool :=
  canResolveReconciliation payment order refund &&
    (payment.status == .refunded || !db.hasUnresolvedProviderRefund payment.id)

def primaryResolvable (payments : List Payment) (payment : Payment) (order : Order)
    (db : Database) : Bool :=
  match order.paidPaymentId with
  | none => true
  | some paid =>
      if paid = payment.id then true
      else
        match payments.find? (fun candidate => candidate.id == paid) with
        | none => false
        | some candidate =>
            canResolvePaymentReconciliation candidate order (db.getOrderRefundByPaymentID paid) db

/-- The retry branch: the case moves to processing and its job is queued. -/
def retryReconciliation (order : Order) (payment : Payment) (expectedVersion : Int)
    (db : Database) : Except Fault (Payment × Option Int × Database) := do
  require (payment.reconciliationStatus = .required) errReconciliationConflict
  let method ← found (parsePaymentMethod payment.payChannel) errPaymentMethodInvalid
  let (changed, processing) ← found (db.retryPaymentReconciliation payment.id expectedVersion)
    errReconciliationConflict
  let job : JobArgs :=
    if payment.status = .closePending then
      .closePay
        { reconciliationVersion := changed.reconciliationVersion
          paymentID := payment.id
          provider := method.provider
          reason := "manual_reconciliation" }
    else
      .checkPay
        { confirmUnissued := false
          reconciliationVersion := changed.reconciliationVersion
          paymentID := payment.id
          provider := method.provider
          notificationID := 0
          trigger := "manual_reconciliation"
          pollCount := 0
          maxPolls := 5
          pollIntervalSeconds := 30
          orderExpiresAt := some order.expiresAt }
  let queued := processing.enqueue job none
  pure (changed, some queued.1.id, queued.2)

/-- The resolve branch acknowledges settled facts and changes none of them. -/
def resolveReconciliation (now : Time) (order : Order) (payments : List Payment)
    (payment : Payment) (expectedVersion : Int) (db : Database) :
    Except Fault (Payment × Option Int × Database) := do
  let refund := db.getOrderRefundByPaymentID payment.id
  require (refund.map OrderRefund.status ≠ some .pending) errReconciliationConflict
  require (canResolvePaymentReconciliation payment order refund db = true) errReconciliationConflict
  require (primaryResolvable payments payment order db = true) errReconciliationConflict
  let (changed, resolved) ←
    found (db.resolvePaymentReconciliation now payment.id expectedVersion) errReconciliationConflict
  pure (changed, none, resolved)

def moveReconciliation (now : Time) (order : Order) (payments : List Payment) (payment : Payment)
    (input : ReconciliationInput) (db : Database) :
    Except Fault (Payment × Option Int × Database) :=
  match input.action with
  | .retry => retryReconciliation order payment input.expectedVersion db
  | .resolve => resolveReconciliation now order payments payment input.expectedVersion db

def sameReconciliation (actor : Actor) (input : ReconciliationInput)
    (action : ReconciliationAction) : Prop :=
  action.actorId = actor.id ∧ action.action = input.action ∧
    action.fromVersion = input.expectedVersion ∧ action.reason = input.reason ∧
    action.evidence = input.evidence

instance (actor : Actor) (input : ReconciliationInput) (action : ReconciliationAction) :
    Decidable (sameReconciliation actor input action) :=
  inferInstanceAs (Decidable (_ ∧ _))

/-- `ApplyReconciliation`; a missing row inside the transaction is reported as a
conflict, except where the source names the error. -/
def applyReconciliation (now : Time) (actor : Actor) (input : ReconciliationInput)
    (db : Database) : Except Fault (ReconciliationAction × Database) := do
  input.validate actor
  let _ ← found (db.lockUserForReference actor.id) errPaymentNotFound
  let snapshot ← found (db.getPayment input.paymentID) errPaymentNotFound
  let order ← found (db.getOrder snapshot.orderId) errReconciliationConflict
  let payments := db.listPaymentsByOrderForUpdate order.id
  let payment ← found (payments.find? (fun row => row.id == input.paymentID)) errPaymentNotFound
  match db.getReconciliationAction payment.id input.idempotencyKey with
  | some action => do
      require (sameReconciliation actor input action) errIdempotencyKeyConflict
      pure (action, db)
  | none => do
      require (payment.reconciliationVersion = input.expectedVersion) errReconciliationConflict
      let (changed, jobID, moved) ← moveReconciliation now order payments payment input db
      moved.createReconciliationAction
        { id := 0
          paymentId := payment.id
          actorId := actor.id
          action := input.action
          fromStatus := payment.reconciliationStatus
          toStatus := changed.reconciliationStatus
          fromVersion := payment.reconciliationVersion
          toVersion := changed.reconciliationVersion
          idempotencyKey := input.idempotencyKey
          reason := input.reason
          evidence := input.evidence
          riverJobId := jobID }

/-! ### Shipping -/

def sameFulfillment (actor : Actor) (input : OrderFulfillmentInput)
    (action : FulfillmentAction) : Prop :=
  action.actorId = actor.id ∧ action.action = input.action ∧ action.reason = input.reason ∧
    action.carrier = input.carrier ∧ action.trackingNumber = input.trackingNumber

instance (actor : Actor) (input : OrderFulfillmentInput) (action : FulfillmentAction) :
    Decidable (sameFulfillment actor input action) :=
  inferInstanceAs (Decidable (_ ∧ _))

def FulfillmentKind.startsFrom : FulfillmentKind → OrderStatus
  | .ship => .paid
  | .complete => .shipped

def markFulfilled (kind : FulfillmentKind) (orderID : Int) (db : Database) :
    Option (Order × Database) :=
  match kind with
  | .ship => db.markOrderShipped orderID
  | .complete => db.markOrderCompleted orderID

/-- The funding payment must be untouched before goods move. -/
def checkFunding (order : Order) (paid : Int) (db : Database) : Except Fault Unit := do
  let payment ← found (db.getPayment paid) Fault.noRows
  require (payment.orderId = order.id ∧ payment.userId = order.userId ∧
    payment.amountMinor = order.totalAmountMinor ∧ payment.currency = order.currency ∧
    payment.status = .success) errOrderFulfillmentConflict
  require (payment.reconciliationStatus = .none ∨ payment.reconciliationStatus = .resolved)
    errPaymentReconciliationRequired
  require (∀ refund, db.getOrderRefundByPaymentID paid = some refund → refund.status = .failed)
    errOrderFulfillmentConflict

def applyFulfillment (actor : Actor) (input : OrderFulfillmentInput) (db : Database) :
    Except Fault (FulfillmentAction × Database) := do
  input.validate actor
  let _ ← found (db.lockUserForReference actor.id) errOrderNotFound
  let order ← found (db.getOrder input.orderID) errOrderNotFound
  require (actor.admin = true ∨ actor.id = order.userId) errOrderNotFound
  match db.getOrderFulfillmentAction order.id input.idempotencyKey with
  | some action => do
      require (sameFulfillment actor input action) errIdempotencyKeyConflict
      pure (action, db)
  | none => do
      require (order.status = input.action.startsFrom) errOrderFulfillmentConflict
      let paid ← found order.paidPaymentId errOrderFulfillmentConflict
      checkFunding order paid db
      let (changed, moved) ← found (markFulfilled input.action order.id db)
        errOrderFulfillmentConflict
      moved.createOrderFulfillmentAction
        { id := 0
          orderId := order.id
          actorId := actor.id
          action := input.action
          fromStatus := order.status
          toStatus := changed.status
          idempotencyKey := input.idempotencyKey
          reason := input.reason
          carrier := input.carrier
          trackingNumber := input.trackingNumber }

end Mall
