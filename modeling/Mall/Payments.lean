/-
Payment creation, prepay leases, notifications and review flags.

These transactions move a payment up to the point where the provider's answer
is applied.
-/

import Mall.Database
import Mall.Decisions

namespace Mall

open Relational Transactional

structure Clock where
  database : Time
  process : Time

/-! ### Notifications -/

def notificationStateAfterCAS (db : Database) (id : Int) (desired : NotificationStatus) :
    Except Fault Unit := do
  let current ← found (db.getPaymentNotification id) Fault.noRows
  require (current.status = desired) errPaymentNotificationState

def markNotificationProcessed (id : Int) (db : Database) : Except Fault Database :=
  if id ≤ 0 then .ok db
  else
    match db.markPaymentNotificationProcessed id with
    | some (_, marked) => .ok marked
    | none => do
        notificationStateAfterCAS db id .processed
        pure db

def markPaymentNotificationFailed (id : Int) (lastError : String) (db : Database) :
    Except Fault Database :=
  if id ≤ 0 then .ok db
  else
    match db.markPaymentNotificationFailed id (nullable lastError) with
    | some (_, marked) => .ok marked
    | none => do
        notificationStateAfterCAS db id .processed
        pure db

def beginPaymentNotificationProcessing (id : Int) (provider outTradeNo : String) (db : Database) :
    Except Fault (Bool × Database) :=
  if id ≤ 0 then .ok (true, db)
  else do
    let notification ← found (db.getPaymentNotification id) Fault.noRows
    require (notification.provider = provider ∧ notification.outTradeNo = outTradeNo)
      errPaymentNotificationBinding
    if notification.status = .processed then pure (false, db)
    else do
      let (_, begun) ← found (db.beginPaymentNotificationProcessing id) Fault.noRows
      pure (true, begun)

def recordPaymentNotificationError (id : Int) (lastError : String) (db : Database) : Database :=
  if id ≤ 0 then db
  else
    match db.recordPaymentNotificationError id (nullable lastError) with
    | some (_, recorded) => recorded
    | none => db

def normalizeCheckPayArgs (args : CheckPayArgs) : CheckPayArgs :=
  { args with
    provider := toLower (trimSpace args.provider)
    maxPolls := if args.maxPolls ≤ 0 then 5 else args.maxPolls
    pollIntervalSeconds := if args.pollIntervalSeconds ≤ 0 then 30 else args.pollIntervalSeconds
    trigger := if args.trigger = "" then "api" else args.trigger }

structure NotificationInput where
  provider : String
  providerEventID : String
  outTradeNo : String
  payloadHash : String

def getExistingPaymentNotification (db : Database) (input : NotificationInput) :
    Option PaymentNotification :=
  match db.getPaymentNotificationByEvent input.provider (nullable input.providerEventID) with
  | some row => some row
  | none => db.getPaymentNotificationByPayload input.provider input.outTradeNo input.payloadHash

def storeNotification (input : NotificationInput) (db : Database) :
    Except Fault (Bool × PaymentNotification × Database) :=
  match db.createPaymentNotification
    { id := 0
      provider := input.provider
      providerEventId := nullable input.providerEventID
      outTradeNo := input.outTradeNo
      payloadHash := input.payloadHash
      status := .received
      lastError := none
      riverJobId := none } with
  | some (row, stored) => .ok (false, row, stored)
  | none => do
      let row ← found (getExistingPaymentNotification db input) Fault.noRows
      pure (true, row, db)

/-- Whether the delivery was a duplicate, and the state with its job queued. -/
def persistAndEnqueueNotification (input : NotificationInput) (args : CheckPayArgs)
    (db : Database) : Except Fault (Bool × Database) := do
  let (duplicate, row, stored) ← storeNotification input db
  require (row.provider = input.provider ∧ row.outTradeNo = input.outTradeNo ∧
    row.payloadHash = input.payloadHash) errPaymentNotificationIdentity
  if row.status = .processed then pure (duplicate, stored)
  else
    let queued := stored.enqueue
      (.checkPay { normalizeCheckPayArgs args with notificationID := row.id }) none
    pure (duplicate,
      ((queued.2.setPaymentNotificationRiverJob row.id queued.1.id).map Prod.snd).getD queued.2)

/-! ### Review flags -/

structure FailureInput where
  paymentID : Int
  notificationID : Int
  provider : String
  reason : Option ReconciliationReason
  riverJobID : Option Int
  attempt : Int
  lastError : String

/-- An unchanged anomaly leaves the row as it is. -/
def requirePaymentReconciliation (id : Int) (reason : ReconciliationReason) (detail : String)
    (db : Database) : Except Fault (Payment × Database) :=
  match db.requirePaymentReconciliation id reason (nullable detail) with
  | some result => .ok result
  | none => do
      let current ← found (db.getPayment id) Fault.noRows
      pure (current, db)

def createReconciliationFailure (failure : FailureInput) (db : Database) :
    Except Fault Database :=
  db.createPaymentReconciliationFailure
    { id := 0
      paymentId := failure.paymentID
      provider := failure.provider
      reason := failure.reason.getD .jobExhausted
      riverJobId := failure.riverJobID
      attempt := max 1 failure.attempt
      lastError := failure.lastError
      resolvedAt := none }

def markReconciliationRequired (failure : FailureInput) (db : Database) :
    Except Fault Database := do
  let (_, flagged) ← requirePaymentReconciliation failure.paymentID
    (failure.reason.getD .jobExhausted) failure.lastError db
  let recorded ← createReconciliationFailure failure flagged
  markNotificationProcessed failure.notificationID recorded

/-- The exhaustion handler's transaction for a payment job that used up its
attempts. -/
def handleExhausted (jobID attempt paymentID notificationID version : Int)
    (provider lastError : String) (db : Database) : Except Fault Database := do
  let marked ← markPaymentNotificationFailed notificationID lastError db
  match marked.getPayment paymentID with
  | none => pure marked
  | some snapshot =>
      let _ ← found (marked.getOrder snapshot.orderId) Fault.noRows
      if reconciliationJobCurrent version snapshot.reconciliationVersion
          snapshot.reconciliationStatus then do
        let (_, flagged) ← requirePaymentReconciliation paymentID .jobExhausted lastError marked
        flagged.createPaymentReconciliationFailure
          { id := 0
            paymentId := paymentID
            provider := provider
            reason := .jobExhausted
            riverJobId := some jobID
            attempt := attempt
            lastError := lastError
            resolvedAt := none }
      else pure marked

def handleError (jobID attempt : Int) (lastError : String) (job : JobArgs) (db : Database) :
    Except Fault Database :=
  match job with
  | .expireOrder _ => .ok db
  | .checkPay args =>
      if args.paymentID ≤ 0 then .ok db
      else handleExhausted jobID attempt args.paymentID args.notificationID
        args.reconciliationVersion args.provider lastError db
  | .closePay args =>
      if args.paymentID ≤ 0 then .ok db
      else handleExhausted jobID attempt args.paymentID 0 args.reconciliationVersion args.provider
        lastError db

/-! ### Creation -/

/-- Rows whose method was never supported and whose prepay was never claimed
are failed before anything else looks at them. -/
def recoverUnsupportedPayments :
    List Payment → Database → Except Fault (List Payment × Database)
  | [], db => .ok ([], db)
  | payment :: rest, db =>
      if unsupportedPaymentNeverDispatched payment then do
        let (failed, changed) ← found (db.markPaymentFailed payment.id
          (some "unsupported payment method; prepay was never claimed")) Fault.noRows
        let (others, result) ← recoverUnsupportedPayments rest changed
        pure (failed :: others, result)
      else do
        let (others, result) ← recoverUnsupportedPayments rest db
        pure (payment :: others, result)

structure CreatePaymentArgs where
  orderID : Int
  userID : Int
  merchantID : Int
  amount : Int
  currency : String
  method : String
  outTradeNo : String

/-- The scan over an order's payments: the active payment to reuse, if any. -/
def reusablePayment (method : String) : List Payment → Except Fault (Option Payment)
  | [] => .ok none
  | payment :: rest =>
      if payment.needsReview then .error errPaymentReconciliationRequired
      else if payment.status.isSettled then .error errOrderAlreadyPaid
      else if payment.status.isActive then
        if payment.payChannel = method then .ok (some payment) else .error errOrderHasActivePayment
      else reusablePayment method rest

def newPayment (args : CreatePaymentArgs) (now : Time) : Payment :=
  { id := 0
    orderId := args.orderID
    userId := args.userID
    merchantId := args.merchantID
    amountMinor := args.amount
    currency := args.currency
    status := .creating
    payChannel := args.method
    thirdPartyTxId := none
    outTradeNo := args.outTradeNo
    actionType := none
    actionPayload := none
    paidAt := none
    reconciliationStatus := .none
    reconciliationVersion := 0
    reconciliationReason := none
    reconciliationDetail := none
    prepayLeaseToken := none
    prepayLeaseUntil := none
    prepayAttempts := 0
    lastError := none
    createdAt := now }

def openPayment (args : CreatePaymentArgs) (now : Time) (db : Database) :
    Except Fault (Payment × Database) := do
  let order ← found (db.getOrder args.orderID) errOrderNotFound
  require (order.userId = args.userID ∧ order.totalAmountMinor = args.amount ∧
    order.currency = args.currency) errPaymentConflict
  require (order.status.isFunded = false) errOrderAlreadyPaid
  require (order.status = .pendingPayment) errPaymentStateConflict
  require (Database.orderIsExpired now order = false) errOrderExpired
  let (payments, recovered) ←
    recoverUnsupportedPayments (db.listPaymentsByOrderForUpdate order.id) db
  match ← reusablePayment args.method payments with
  | some payment => pure (payment, recovered)
  | none => recovered.createPaymentWithOutTradeNo (newPayment args now)

def createPayment (args : CreatePaymentArgs) (now : Time) (db : Database) :
    Except Fault (Payment × Database) :=
  match openPayment args now db with
  | .ok result => .ok result
  | .error fault =>
      if fault = Fault.uniqueViolation "idx_payments_one_active_per_order" then
        match db.getActivePaymentByOrder args.orderID with
        | some existing =>
            if existing.payChannel = args.method then .ok (existing, db)
            else .error errOrderHasActivePayment
        | none => .error errPaymentConflict
      else .error fault

/-! ### Prepay leases -/

def claimPaymentPrepay (clock : Clock) (id : Int) (token : String) (lease : Int) (db : Database) :
    Except Fault (Payment × Database) :=
  match db.claimPaymentPrepay clock.database id (nullable token) lease with
  | some result => .ok result
  | none => do
      let current ← found (db.getPayment id) Fault.noRows
      if current.status = .pending ∧ current.actionType.isSome then pure (current, db)
      else if current.status = .creating ∧
          (current.prepayLeaseUntil.map (fun deadline => decide (clock.process < deadline))) =
            some true then
        .error errPaymentPrepayInProgress
      else .error errPaymentStateConflict

def finalizePaymentPrepay (id : Int) (token : String) (actionType : Option PaymentActionType)
    (actionPayload : String) (db : Database) : Except Fault (Payment × Database) :=
  match db.finalizePaymentPrepay id (nullable token) actionType actionPayload with
  | some result => .ok result
  | none => do
      let current ← found (db.getPayment id) Fault.noRows
      if current.status = .pending ∧ current.actionType.isSome then pure (current, db)
      else .error errPaymentStateConflict

/-- The transaction that activates a payment and, for methods that must be
polled, queues its first check. -/
def activatePayment (id : Int) (token : String) (actionType : Option PaymentActionType)
    (actionPayload : String) (poll : Option (CheckPayArgs × Option Time)) (db : Database) :
    Except Fault (Payment × Database) := do
  let (payment, activated) ← finalizePaymentPrepay id token actionType actionPayload db
  match poll with
  | none => pure (payment, activated)
  | some (args, scheduledAt) => pure (payment, (activated.enqueue (.checkPay args) scheduledAt).2)

def recordPaymentPrepayError (id : Int) (token lastError : String) (db : Database) : Database :=
  match db.recordPaymentPrepayError id (nullable token) (nullable lastError) with
  | some (_, recorded) => recorded
  | none => db

/-- A retry job hands over to closing only while its version is current. -/
def closeHandoffCurrent (args : CheckPayArgs) (db : Database) : Except Fault Bool :=
  if args.reconciliationVersion = 0 then .ok true
  else do
    let snapshot ← found (db.getPayment args.paymentID) Fault.noRows
    let _ ← found (db.getOrder snapshot.orderId) Fault.noRows
    pure (reconciliationJobCurrent args.reconciliationVersion snapshot.reconciliationVersion
      snapshot.reconciliationStatus)

/-- A payment that is already closing is taken as it stands. -/
def closePendingPayment (id : Int) (db : Database) : Except Fault (Payment × Database) :=
  match db.markPaymentClosePending id with
  | some result => .ok result
  | none => do
      let row ← found (db.getPayment id) Fault.noRows
      require (row.status = .closePending) errPaymentStateConflict
      pure (row, db)

def markPayClosePending (args : CheckPayArgs) (db : Database) : Except Fault Database := do
  let current ← closeHandoffCurrent args db
  if current = false then pure db
  else do
    let (row, changed) ← closePendingPayment args.paymentID db
    let method ← found (parsePaymentMethod row.payChannel) errPaymentMethodInvalid
    markNotificationProcessed args.notificationID
      (changed.enqueue
        (.closePay
          { reconciliationVersion := args.reconciliationVersion
            paymentID := row.id
            provider := method.provider
            reason := args.trigger }) none).2

end Mall
