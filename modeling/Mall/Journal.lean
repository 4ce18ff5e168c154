/-
The journal: what one transaction writes about orders, payments and their audit.

A transaction may edit payments as often as it likes, but it takes at most one
turn, and the turn comes last: only a turn moves an order, touches money or opens
a review case.  Decisions of people stand alone and leave an audit row.  What a
turn or a decision needs is written beside it.
-/

import Mall.Fulfillment
import Mathlib.Logic.Relation

namespace Mall

open Relational Relation

/-- The tables that histories are told about. -/
structure Journal where
  users : Table User
  orders : Table Order
  orderItems : Table OrderItem
  payments : Table Payment
  refunds : Table OrderRefund
  failures : Table ReconciliationFailure
  reconciliationActions : Table ReconciliationAction
  fulfillmentActions : Table FulfillmentAction

def Database.journal (db : Database) : Journal :=
  { users := db.users
    orders := db.orders
    orderItems := db.orderItems
    payments := db.payments
    refunds := db.refunds
    failures := db.failures
    reconciliationActions := db.reconciliationActions
    fulfillmentActions := db.fulfillmentActions }

/-! ### Payment rows -/

/-- The writes that no money and no review takes part in. -/
inductive Payment.Edit (payment : Payment) : Payment → Prop
  | startClosing (early : payment.status = .creating ∨ payment.status = .pending) :
      payment.Edit { payment with status := .closePending }
  | close (active : payment.status.isActive = true) :
      payment.Edit
        { payment with status := .closed, prepayLeaseToken := none, prepayLeaseUntil := none }
  | fail (lastError : Option String) (active : payment.status.isActive = true) :
      payment.Edit
        { payment with
          status := .failed
          prepayLeaseToken := none
          prepayLeaseUntil := none
          lastError := lastError }
  | claim (now : Time) (token : Option String) (lease : Int)
      (creating : payment.status = .creating)
      (free : ∀ deadline, payment.prepayLeaseUntil = some deadline → deadline < now) :
      payment.Edit
        { payment with
          prepayLeaseToken := token
          prepayLeaseUntil := some (now + lease)
          prepayAttempts := payment.prepayAttempts + 1
          lastError := none }
  | finalize (token : Option String) (actionType : Option PaymentActionType)
      (actionPayload : String) (creating : payment.status = .creating)
      (held : Database.holdsLease payment token = true) :
      payment.Edit
        { payment with
          status := .pending
          actionType := actionType
          actionPayload := some actionPayload
          prepayLeaseToken := none
          prepayLeaseUntil := none
          lastError := none }
  | recordError (token lastError : Option String)
      (unfinished : payment.status = .creating ∨ (payment.status = .closePending ∧
        (payment.payChannel = "alipay:app" ∨ payment.payChannel = "alipay:wap")))
      (held : Database.holdsLease payment token = true) :
      payment.Edit
        { payment with lastError := lastError, prepayLeaseToken := none, prepayLeaseUntil := none }

abbrev Payment.Edits : Payment → Payment → Prop :=
  ReflTransGen Payment.Edit

def Payment.settled (now : Time) (transaction : String) (payment : Payment) : Payment :=
  { payment with
    status := .success
    thirdPartyTxId := some transaction
    paidAt := some (payment.paidAt.getD now)
    prepayLeaseToken := none
    prepayLeaseUntil := none }

def Payment.flagged (reason : ReconciliationReason) (detail : Option String) (payment : Payment) :
    Payment :=
  { payment with
    reconciliationStatus := .required
    reconciliationVersion := payment.reconciliationVersion + 1
    reconciliationReason := some reason
    reconciliationDetail := detail }

def Payment.reviewed (status : ReconciliationStatus) (payment : Payment) : Payment :=
  { payment with
    reconciliationStatus := status
    reconciliationVersion := payment.reconciliationVersion + 1 }

/-- The anomaly is the one that the case was opened or renewed for. -/
def Payment.Known (payment : Payment) (reason : ReconciliationReason) (detail : Option String) :
    Prop :=
  payment.reconciliationStatus = .required ∧ payment.reconciliationReason = some reason ∧
    payment.reconciliationDetail = detail

inductive Payment.Turn (payment : Payment) : Payment → Prop
  | still : payment.Turn payment
  | settle (now : Time) (transaction : String)
      (unsettled : payment.status.isSettled = false) :
      payment.Turn (payment.settled now transaction)
  | flag (reason : ReconciliationReason) (detail : Option String)
      (news : ¬ payment.Known reason detail) :
      payment.Turn (payment.flagged reason detail)
  | settleFlagged (now : Time) (transaction : String) (reason : ReconciliationReason)
      (detail : Option String) (unsettled : payment.status.isSettled = false)
      (news : ¬ payment.Known reason detail) :
      payment.Turn ((payment.settled now transaction).flagged reason detail)
  | refund (received : payment.status = .success) :
      payment.Turn { payment with status := .refunded }
  | retry (required : payment.reconciliationStatus = .required) :
      payment.Turn (payment.reviewed .processing)
  | resolve (review : payment.needsReview = true) :
      payment.Turn (payment.reviewed .resolved)

structure Payment.Blank (payment : Payment) : Prop where
  status : payment.status = .creating
  transaction : payment.thirdPartyTxId = none
  actionType : payment.actionType = none
  actionPayload : payment.actionPayload = none
  reconciliationStatus : payment.reconciliationStatus = .none
  reconciliationVersion : payment.reconciliationVersion = 0
  leaseToken : payment.prepayLeaseToken = none
  leaseUntil : payment.prepayLeaseUntil = none
  attempts : payment.prepayAttempts = 0

/-! ### Order rows -/

def Order.paidBy (payment : Int) (order : Order) : Order :=
  { order with status := .paid, paidPaymentId := some payment }

def Order.ended (status : OrderStatus) (order : Order) : Order :=
  { order with status := status, isCompleted := true }

def FulfillmentKind.endsIn : FulfillmentKind → OrderStatus
  | .ship => .shipped
  | .complete => .completed

def Order.fulfilled : FulfillmentKind → Order → Order
  | .ship, order => { order with status := .shipped }
  | .complete, order => order.ended .completed

inductive Order.Turn (order : Order) : Order → Prop
  | still : order.Turn order
  | pay (payment : Int) (pending : order.status = .pendingPayment) : order.Turn (order.paidBy payment)
  | cancel (pending : order.status = .pendingPayment) : order.Turn (order.ended .cancelled)
  | refund (paid : order.status = .paid) : order.Turn (order.ended .refunded)

/-- What a whole transaction makes of one order: a turn, or a shipment. -/
inductive Order.Booked (order : Order) : Order → Prop
  | turn {later : Order} (turn : order.Turn later) : order.Booked later
  | fulfil (kind : FulfillmentKind) (starts : order.status = kind.startsFrom) :
      order.Booked (order.fulfilled kind)

/-! ### Review cases -/

inductive Raised (id : Int) (reason : ReconciliationReason) (detail : Option String)
    (payments : Table Payment) : Table Payment → Prop
  | news (row : Payment) (present : payments.find? id = some row)
      (news : ¬ row.Known reason detail) :
      Raised id reason detail payments (payments.update id (Payment.flagged reason detail))
  | known (row : Payment) (present : payments.find? id = some row)
      (known : row.Known reason detail) : Raised id reason detail payments payments

def ReconciliationFailure.refreshed (evidence failure : ReconciliationFailure) :
    ReconciliationFailure :=
  { failure with
    reason := evidence.reason
    attempt := evidence.attempt
    lastError := evidence.lastError }

/-- The evidence of a case: a row of its own, or new texts for the row that the
same job left before. -/
inductive Evidenced (evidence : ReconciliationFailure) (failures : Table ReconciliationFailure) :
    Table ReconciliationFailure → Prop
  | added (first : ∀ job, evidence.riverJobId = some job →
        ∀ failure ∈ failures, failure.riverJobId ≠ some job) :
      Evidenced evidence failures (failures.insert evidence)
  | refreshed (job : Int) (existing : ReconciliationFailure)
      (about : evidence.riverJobId = some job) (member : existing ∈ failures)
      (same : existing.riverJobId = some job) :
      Evidenced evidence failures (failures.update existing.id evidence.refreshed)

def ReconciliationFailure.closedFor (payment : Int) (now : Time) (failure : ReconciliationFailure) :
    ReconciliationFailure :=
  if failure.paymentId = payment ∧ failure.resolvedAt = none then
    { failure with resolvedAt := some now }
  else failure

/-- What the audit row of a review action says about the payment it moves. -/
structure ReconciliationAction.Audits (action : ReconciliationAction) (row : Payment)
    (journal : Journal) : Prop where
  present : journal.payments.find? action.paymentId = some row
  actor : (journal.users.find? action.actorId).isSome = true
  fromStatus : action.fromStatus = row.reconciliationStatus
  fromVersion : action.fromVersion = row.reconciliationVersion
  toVersion : action.toVersion = row.reconciliationVersion + 1
  freshKey : ∀ other ∈ journal.reconciliationActions, other.paymentId = action.paymentId →
    other.idempotencyKey ≠ action.idempotencyKey
  freshVersion : ∀ other ∈ journal.reconciliationActions, other.paymentId = action.paymentId →
    other.toVersion ≠ action.toVersion

/-- What must be true of an order and its money before goods move. -/
structure FulfillmentAction.Audits (action : FulfillmentAction) (order : Order) (funding : Payment)
    (journal : Journal) : Prop where
  present : journal.orders.find? action.orderId = some order
  actor : (journal.users.find? action.actorId).isSome = true
  starts : order.status = action.action.startsFrom
  fromStatus : action.fromStatus = order.status
  toStatus : action.toStatus = action.action.endsIn
  funded : order.paidPaymentId = some funding.id
  received : journal.payments.find? funding.id = some funding
  success : funding.status = .success
  reviewed : funding.needsReview = false
  kept : ∀ refund ∈ journal.refunds, refund.paymentId = funding.id → refund.status = .failed
  freshKind : ∀ other ∈ journal.fulfillmentActions, other.orderId = action.orderId →
    other.action ≠ action.action
  freshKey : ∀ other ∈ journal.fulfillmentActions, other.orderId = action.orderId →
    other.idempotencyKey ≠ action.idempotencyKey

/-! ### Entries and turns -/

inductive Entry (journal : Journal) : Journal → Prop
  | accounts (users : Table User)
      (reviewers : ∀ action ∈ journal.reconciliationActions,
        (users.find? action.actorId).isSome = true)
      (shippers : ∀ action ∈ journal.fulfillmentActions,
        (users.find? action.actorId).isSome = true) :
      Entry journal { journal with users := users }
  | refunds (refunds : Table OrderRefund) : Entry journal { journal with refunds := refunds }
  | edit (id : Int) (row : Payment) (change : Payment → Payment)
      (present : journal.payments.find? id = some row) (edit : row.Edit (change row)) :
      Entry journal { journal with payments := journal.payments.update id change }

/-- The job whose number evidence may carry, with the payment that it is about. -/
abbrev Citation :=
  Option (Int × Int)

inductive Turn (citation : Citation) (journal : Journal) : Journal → Prop
  | openPayment (row : Payment) (order : Order) (blank : row.Blank)
      (owner : journal.orders.find? row.orderId = some order)
      (payable : order.status = .pendingPayment) (user : row.userId = order.userId)
      (amount : row.amountMinor = order.totalAmountMinor) (currency : row.currency = order.currency)
      (fresh : ∀ other ∈ journal.payments, other.outTradeNo ≠ row.outTradeNo) :
      Turn citation journal { journal with payments := journal.payments.insert row }
  | place (row : Order) (items : Table OrderItem)
      (pending : row.status = .pendingPayment) (unfunded : row.paidPaymentId = none)
      (fresh : ∀ other ∈ journal.orders, other.userId = row.userId →
        other.idempotencyKey ≠ row.idempotencyKey)
      (kept : ∀ item ∈ journal.orderItems, item ∈ items)
      (added : ∀ item ∈ items, item ∈ journal.orderItems ∨ item.orderId = journal.orders.next) :
      Turn citation journal
        { journal with orders := journal.orders.insert row, orderItems := items }
  | release (id : Int) (row : Order) (present : journal.orders.find? id = some row)
      (pending : row.status = .pendingPayment) :
      Turn citation journal
        { journal with orders := journal.orders.update id (Order.ended .cancelled) }
  | heal (id payment : Int) (row : Order) (present : journal.orders.find? id = some row)
      (pending : row.status = .pendingPayment) :
      Turn citation journal { journal with orders := journal.orders.update id (Order.paidBy payment) }
  | settle (id : Int) (row : Payment) (now : Time) (transaction : String)
      (orders : Table Order) (payments : Table Payment) (failures : Table ReconciliationFailure)
      (present : journal.payments.find? id = some row)
      (unsettled : row.status.isSettled = false) (named : transaction ≠ "")
      (fresh : ∀ other ∈ journal.payments, other.id ≠ id → other.payChannel = row.payChannel →
        other.thirdPartyTxId ≠ some transaction)
      (funds : orders = journal.orders ∨ ∃ order, journal.orders.find? row.orderId = some order ∧
        order.status = .pendingPayment ∧
        orders = journal.orders.update row.orderId (Order.paidBy id))
      (review : (payments = journal.payments.update id (Payment.settled now transaction) ∧
          failures = journal.failures) ∨
        ∃ reason detail evidence,
          Raised id reason detail (journal.payments.update id (Payment.settled now transaction))
            payments ∧
          evidence.paymentId = id ∧ evidence.resolvedAt = none ∧ evidence.riverJobId = none ∧
          Evidenced evidence journal.failures failures) :
      Turn citation journal
        { journal with orders := orders, payments := payments, failures := failures }
  | flag (id : Int) (reason : ReconciliationReason) (detail : Option String)
      (evidence : ReconciliationFailure) (payments : Table Payment)
      (failures : Table ReconciliationFailure)
      (raised : Raised id reason detail journal.payments payments)
      (about : evidence.paymentId = id) (unresolved : evidence.resolvedAt = none)
      (cited : ∀ job, evidence.riverJobId = some job → citation = some (job, id))
      (evidenced : Evidenced evidence journal.failures failures) :
      Turn citation journal { journal with payments := payments, failures := failures }
  | refund (id : Int) (row : Payment) (orders : Table Order) (refunds : Table OrderRefund)
      (present : journal.payments.find? id = some row) (received : row.status = .success)
      (reversed : orders = journal.orders ∨ ∃ orderId order,
        journal.orders.find? orderId = some order ∧ order.status = .paid ∧
        orders = journal.orders.update orderId (Order.ended .refunded)) :
      Turn citation journal
        { journal with
          orders := orders
          payments := journal.payments.update id (fun payment => { payment with status := .refunded })
          refunds := refunds }

/-- What an administrator or a buyer decides.  It is all that its transaction does,
and it leaves an audit row. -/
inductive Audited (journal : Journal) : Journal → Prop
  | retry (action : ReconciliationAction) (row : Payment) (audits : action.Audits row journal)
      (kind : action.action = .retry) (required : row.reconciliationStatus = .required)
      (toStatus : action.toStatus = .processing) :
      Audited journal
        { journal with
          payments := journal.payments.update action.paymentId (Payment.reviewed .processing)
          reconciliationActions := journal.reconciliationActions.insert action }
  | resolve (action : ReconciliationAction) (row : Payment) (now : Time)
      (audits : action.Audits row journal) (kind : action.action = .resolve)
      (review : row.needsReview = true) (toStatus : action.toStatus = .resolved) :
      Audited journal
        { journal with
          payments := journal.payments.update action.paymentId (Payment.reviewed .resolved)
          failures := journal.failures.rewrite
            (ReconciliationFailure.closedFor action.paymentId now)
          reconciliationActions := journal.reconciliationActions.insert action }
  | fulfil (action : FulfillmentAction) (order : Order) (funding : Payment)
      (audits : action.Audits order funding journal) :
      Audited journal
        { journal with
          orders := journal.orders.update action.orderId (Order.fulfilled action.action)
          fulfillmentActions := journal.fulfillmentActions.insert action }

abbrev Entries : Journal → Journal → Prop :=
  ReflTransGen Entry

/-- One transaction: entries with at most one turn at the end, or one audited
decision. -/
inductive Booked (citation : Citation) (before : Journal) : Journal → Prop
  | entries {after : Journal} (path : Entries before after) : Booked citation before after
  | turned {middle after : Journal} (path : Entries before middle) (turn : Turn citation middle after) :
      Booked citation before after
  | audited {after : Journal} (audited : Audited before after) : Booked citation before after

end Mall
