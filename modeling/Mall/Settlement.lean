/-
Settlement: provider answers, refunds, cancellation and expiry.

Everything here runs under the locks of one order and of its payments.
-/

import Mall.Payments

namespace Mall

open Relational Transactional

/-! ### Releasing an unpaid order -/

/-- The three statements with which every path cancels an order. -/
def releaseOrder (orderID : Int) (db : Database) : Except Fault Database := do
  let (_, cancelling) ← found (db.markOrderCancelling orderID) Fault.noRows
  let restored ← cancelling.restoreOrderItemStock orderID
  let (_, cancelled) ← found (restored.markOrderCancelled orderID) Fault.noRows
  pure cancelled

def cancellationScan : List Payment → Except Fault Bool
  | [] => .ok false
  | payment :: rest =>
      if payment.needsReview then .error errPaymentReconciliationRequired
      else if payment.status.isSettled then .error errOrderAlreadyPaid
      else do
        let others ← cancellationScan rest
        pure (payment.status.isActive || others)

def cancelOrderByUser (id userID : Int) (db : Database) : Except Fault Database := do
  let order ← found (db.getOrderByUserForUpdate id userID) errOrderNotFound
  if order.status = .cancelled then pure db
  else do
    require (order.status = .pendingPayment) errOrderCannotCancel
    let (payments, recovered) ← recoverUnsupportedPayments (db.listPaymentsByOrderForUpdate id) db
    let hasActive ← cancellationScan payments
    require (hasActive = false) errOrderHasActivePayment
    releaseOrder id recovered

def cancelOrder (id userID : Int) (db : Database) : Except Fault Database := do
  require (¬ (id ≤ 0 ∨ userID ≤ 0)) errOrderNotFound
  cancelOrderByUser id userID db

/-! ### Expiry -/

/-- The payment at which the expiry scan stops: the first settled one. -/
def expirySettled (payments : List Payment) : Option Payment :=
  payments.find? (fun payment => payment.status.isSettled)

def startClosing (payment : Payment) (db : Database) : Except Fault (Payment × Database) :=
  if payment.status = .closePending then .ok (payment, db)
  else found (db.markPaymentClosePending payment.id) Fault.noRows

def closeActivePayments : List Payment → Database → Except Fault (Bool × Database)
  | [], db => .ok (false, db)
  | payment :: rest, db =>
      if payment.status.isActive then do
        let (row, changed) ← startClosing payment db
        let method ← found (parsePaymentMethod row.payChannel) errPaymentMethodInvalid
        let queued := (changed.enqueue
          (.closePay
            { reconciliationVersion := 0
              paymentID := row.id
              provider := method.provider
              reason := "order_expired" }) none).2
        let (_, result) ← closeActivePayments rest queued
        pure (true, result)
      else closeActivePayments rest db

def refundedOnPendingText : String := "refunded payment found on a pending order during expiry"

/-- The healing branch of the expiry scan.  The flag asks for reconciliation. -/
def healExpiredOrder (orderID : Int) (payment : Payment) (db : Database) :
    Except Fault (Bool × Database) :=
  if payment.status = .success then do
    let (_, paid) ← found (db.markOrderPaid orderID payment.id) Fault.noRows
    pure (false, paid)
  else do
    let (_, flagged) ← requirePaymentReconciliation payment.id .refundedOnPendingOrder
      refundedOnPendingText db
    let provider := ((parsePaymentMethod payment.payChannel).map PaymentMethod.provider).getD
      payment.payChannel
    let recorded ← createReconciliationFailure
      { paymentID := payment.id
        notificationID := 0
        provider := provider
        reason := some .refundedOnPendingOrder
        riverJobID := none
        attempt := 1
        lastError := refundedOnPendingText } flagged
    pure (true, recorded)

/-- The returned flag is the one that makes the caller report
`ErrPaymentReconciliationRequired` after the commit. -/
def expireOrder (now : Time) (orderID : Int) (db : Database) : Except Fault (Bool × Database) := do
  require (¬ orderID ≤ 0) errOrderNotFound
  let order ← found (db.getOrder orderID) errOrderNotFound
  if order.status ≠ .pendingPayment then pure (false, db)
  else do
    require (Database.orderIsExpired now order = true) errOrderNotExpired
    let (payments, recovered) ←
      recoverUnsupportedPayments (db.listPaymentsByOrderForUpdate orderID) db
    require (∀ payment ∈ payments, payment.needsReview = false) errPaymentReconciliationRequired
    match expirySettled payments with
    | some payment => healExpiredOrder orderID payment recovered
    | none => do
        let (hasActive, closing) ← closeActivePayments payments recovered
        if hasActive then pure (false, closing)
        else do
          let released ← releaseOrder orderID closing
          pure (false, released)

/-! ### Refunds -/

/-- Only the refund of the funding payment takes the order back. -/
def reverseOrder (orderID : Int) (purpose : RefundPurpose) (db : Database) :
    Except Fault Database :=
  if purpose = .orderCancel then do
    let (_, refunded) ← found (db.markOrderRefunded orderID) errPaymentStateConflict
    refunded.restoreOrderItemStock orderID
  else .ok db

def settlePaymentRefund (now : Time) (order : Order) (payment : Payment) (refund : OrderRefund)
    (db : Database) : Except Fault (Payment × Database) := do
  require (refund.paymentId = payment.id ∧ refund.orderId = order.id ∧
      payment.orderId = order.id ∧ refundMatches refund payment = true) errPaymentStateConflict
  if payment.status = .refunded ∧ refund.status = .success then pure (payment, db)
  else do
    require (payment.status = .success) errPaymentStateConflict
    validateRefundSettlement refund.purpose order.status order.paidPaymentID payment.id
    let reversed ← reverseOrder order.id refund.purpose db
    let (_, marked) ← found (reversed.markOrderRefundSuccess now refund.id payment.id) Fault.noRows
    found (marked.confirmPaymentRefunded payment.id) Fault.noRows

/-- A refund that has not been settled yet must still suit its order. -/
def revalidateRefund (order : Order) (payment : Payment) (refund : OrderRefund) :
    Except Fault Unit :=
  if payment.status ≠ .refunded then
    validateRefundSettlement refund.purpose order.status order.paidPaymentID payment.id
  else .ok ()

def resumeRefund (now : Time) (order : Order) (payment : Payment) (refund : OrderRefund)
    (db : Database) : Except Fault (OrderRefund × Database) := do
  require (refundMatches refund payment = true) errPaymentStateConflict
  require (¬ (payment.status = .refunded ∧ refund.status ≠ .success)) errPaymentStateConflict
  require (payment.status.isSettled = true) errPaymentStateConflict
  revalidateRefund order payment refund
  if refund.status = .failed then found (db.retryOrderRefund now refund.id) Fault.noRows
  else pure (refund, db)

def newRefund (payment : Payment) (purpose : RefundPurpose) (outRefundNo : String) (now : Time) :
    OrderRefund :=
  { id := 0
    orderId := payment.orderId
    userId := payment.userId
    paymentId := payment.id
    outRefundNo := outRefundNo
    totalAmountMinor := payment.amountMinor
    refundAmountMinor := payment.amountMinor
    currency := payment.currency
    reason := ""
    purpose := purpose
    status := .pending
    lastError := ""
    updatedAt := now }

def preparePaymentRefund (now : Time) (paymentID : Int) (outRefundNo : String) (db : Database) :
    Except Fault (Payment × OrderRefund × Database) := do
  let payment ← found (db.getPayment paymentID) errPaymentNotFound
  let _ ← found (db.lockUserForReference payment.userId) errPaymentNotFound
  let order ← found (db.getOrderForUpdateByPaymentID paymentID) errPaymentNotFound
  require (payment.orderId = order.id) errPaymentStateConflict
  match db.getOrderRefundByPaymentID paymentID with
  | some refund => do
      let (current, resumed) ← resumeRefund now order payment refund db
      pure (payment, current, resumed)
  | none => do
      require (payment.status = .success) errPaymentStateConflict
      let purpose ← decideRefundPurpose order.status order.paidPaymentID payment.id
      require (trimSpace outRefundNo ≠ "") errOutRefundNoRequired
      let (created, stored) ← db.createOrderRefund (newRefund payment purpose outRefundNo now)
      pure (payment, created, stored)

def recordPaymentRefundError (now : Time) (refundID : Int) (lastError : String)
    (definitive : Bool) (db : Database) : Except Fault Database := do
  let (_, recorded) ← found (db.recordOrderRefundError now refundID lastError definitive)
    errPaymentStateConflict
  pure recorded

def applyPaymentRefund (now : Time) (paymentID refundID : Int) (db : Database) :
    Except Fault (Payment × Database) := do
  let order ← found (db.getOrderForUpdateByPaymentID paymentID) errPaymentNotFound
  let current ← found (db.getPayment paymentID) errPaymentNotFound
  let refund ← found (db.getOrderRefundByPaymentID paymentID) Fault.noRows
  require (refund.id = refundID) errPaymentStateConflict
  settlePaymentRefund now order current refund db

/-! ### Provider answers -/

/-- The sibling that the healing branch would pay the order with: the last
successful one that is not in review. -/
def successfulSibling (current : Payment) (payments : List Payment) : Option Int :=
  ((payments.filter (fun candidate => candidate.id != current.id &&
    candidate.status == .success && !candidate.needsReview)).getLast?).map Payment.id

def siblingActive (current : Payment) (payments : List Payment) : Bool :=
  payments.any (fun candidate => candidate.id != current.id && candidate.status.isActive)

def caseOpen (current : Payment) (payments : List Payment) : Bool :=
  current.needsReview ||
    payments.any (fun candidate => candidate.id != current.id && candidate.needsReview)

/-- Settles the order after `current` left the active set.  The payments are the
rows as they were read before that. -/
def finalizeOrderAfterPaymentInactive (order : Order) (payments : List Payment)
    (current : Payment) (db : Database) : Except Fault Database :=
  match successfulSibling current payments with
  | some paymentID =>
      if order.status = .pendingPayment then do
        let (_, paid) ← found (db.markOrderPaid order.id paymentID) Fault.noRows
        pure paid
      else .ok db
  | none =>
      if siblingActive current payments = false ∧ caseOpen current payments = false ∧
          order.status = .pendingPayment then
        releaseOrder order.id db
      else .ok db

/-- A new anomaly of the payment: the flag, its evidence row, and the
notification that brought it. -/
def flagPayment (args : CheckPayArgs) (method : PaymentMethod) (reason : ReconciliationReason)
    (detail lastError : String) (db : Database) : Except Fault Database := do
  let (_, flagged) ← requirePaymentReconciliation args.paymentID reason detail db
  createReconciliationFailure
    { paymentID := args.paymentID
      notificationID := args.notificationID
      provider := method.provider
      reason := some reason
      riverJobID := none
      attempt := max 1 args.pollCount
      lastError := lastError } flagged

def transactionChangedText : String := "successful payment transaction id changed"

def otherSuccess (payment : Payment) (payments : List Payment) : Bool :=
  payments.any (fun candidate => candidate.id != payment.id && candidate.status.isSettled)

def markPaidIf (markOrderPaid : Bool) (payment : Payment) (db : Database) :
    Except Fault Database :=
  if markOrderPaid then do
    let (_, paid) ← found (db.markOrderPaid payment.orderId payment.id) Fault.noRows
    pure paid
  else .ok db

def applyDecision (args : CheckPayArgs) (method : PaymentMethod) (payment : Payment)
    (decision : PaymentSuccessDecision) (db : Database) : Except Fault Database := do
  let funded ← markPaidIf decision.markOrderPaid payment db
  match decision.reconciliation with
  | some (reason, detail) => flagPayment args method reason detail detail funded
  | none => pure funded

def applySuccess (now : Time) (args : CheckPayArgs) (method : PaymentMethod) (order : Order)
    (payments : List Payment) (payment : Payment) (transactionID : String) (db : Database) :
    Except Fault Database := do
  require (transactionID ≠ "") errPaymentTransactionIdRequired
  if payment.status = .success then
    if payment.thirdPartyTxId.getD "" = transactionID then pure db
    else flagPayment args method .providerMismatch transactionChangedText transactionChangedText db
  else do
    require (payment.status ≠ .refunded) errPaymentStateConflict
    let (_, recorded) ← db.recordPaymentSuccess now payment.id transactionID
    let decision ← decidePaymentSuccess order.status (otherSuccess payment payments)
    applyDecision args method payment decision recorded

/-- The answers `CLOSED` and `REVOKED`.  The flag tells whether the notification
is still to be marked. -/
def applyClosed (order : Order) (payments : List Payment) (payment : Payment)
    (transactionID : String) (db : Database) : Except Fault (Bool × Database) :=
  if payment.status = .refunded then do
    require (transactionID ≠ "" ∧ transactionID = payment.thirdPartyTxId.getD "")
      errPaymentStateConflict
    let refund ← found (db.getOrderRefundByPaymentID payment.id) Fault.noRows
    require (refund.status = .success ∧ refundMatches refund payment = true)
      errPaymentStateConflict
    pure (true, db)
  else if payment.status = .closed then pure (true, db)
  else
    match db.markPaymentClosed payment.id with
    | some (_, closed) => do
        let settled ← finalizeOrderAfterPaymentInactive order payments payment closed
        pure (true, settled)
    | none => do
        -- `paymentStateAfterCAS`, whose success returns from the transaction.
        let current ← found (db.getPayment payment.id) Fault.noRows
        require (current.status = .closed) errPaymentStateConflict
        pure (false, db)

/-- A payment that is already inactive stays as it is. -/
def failPayment (payment : Payment) (description : String) (db : Database) :
    Except Fault Database :=
  match db.markPaymentFailed payment.id (nullable description) with
  | some (_, failed) => .ok failed
  | none => do
      require (payment.status = .failed ∨ payment.status = .closed) errPaymentStateConflict
      pure db

def applyPayError (args : CheckPayArgs) (order : Order) (payments : List Payment)
    (payment : Payment) (description : String) (db : Database) : Except Fault Database := do
  let failed ← failPayment payment description db
  if payment.status = .closePending ∨ args.trigger = "close_pay" then
    finalizeOrderAfterPaymentInactive order payments payment failed
  else pure failed

def providerRefundText : String := "provider reported a refund that was never initiated locally"

def applyRefund (now : Time) (args : CheckPayArgs) (method : PaymentMethod) (order : Order)
    (payment : Payment) (db : Database) : Except Fault Database :=
  if payment.status = .refunded then .ok db
  else do
    require (payment.status = .success) errPaymentStateConflict
    match db.getOrderRefundByPaymentID payment.id with
    | none => flagPayment args method .providerSideRefund providerRefundText providerRefundText db
    | some refund => do
        let (_, settled) ← settlePaymentRefund now order payment refund db
        pure settled

/-- The switch over the trade state; the flag is that of `applyClosed`. -/
def applyTradeState (now : Time) (args : CheckPayArgs) (method : PaymentMethod) (order : Order)
    (payments : List Payment) (payment : Payment) (result : PaymentQueryResult) (db : Database) :
    Except Fault (Bool × Database) :=
  match result.tradeState with
  | .success => do
      let applied ← applySuccess now args method order payments payment result.transactionID db
      pure (true, applied)
  | .closed | .revoked => applyClosed order payments payment result.transactionID db
  | .payError => do
      let applied ← applyPayError args order payments payment result.tradeStateDesc db
      pure (true, applied)
  | .refund => do
      let applied ← applyRefund now args method order payment db
      pure (true, applied)
  | .unspecified | .notPay | .userPaying => do
      let applied ← flagPayment args method .unknownProviderState result.rawTradeState
        ("unsupported provider state " ++ result.rawTradeState) db
      pure (true, applied)

/-- A synthesized closure must be confirmed on the locked row. -/
def confirmUnissued (clock : Clock) (args : CheckPayArgs) (payment : Payment)
    (result : Option PaymentQueryResult) : Except Fault Unit :=
  if args.confirmUnissued then
    match result with
    | none => .error (Fault.plain "invalid memory address or nil pointer dereference")
    | some answer =>
        require (answer.tradeState = .closed ∧
          canConfirmUnissuedPayment payment clock.process = true ∧
          ¬ (args.reconciliationVersion = 0 ∧ payment.needsReview = true) ∧
          reconciliationJobCurrent args.reconciliationVersion payment.reconciliationVersion
            payment.reconciliationStatus = true) errPaymentStateConflict
  else .ok ()

def rejectAnswer (args : CheckPayArgs) (method : PaymentMethod) (mismatch : ProviderMismatch)
    (db : Database) : Except Fault Database := do
  let flagged ← flagPayment args method (reconciliationReasonForMismatch mismatch) mismatch.text
    mismatch.text db
  markNotificationProcessed args.notificationID flagged

def acceptAnswer (now : Time) (args : CheckPayArgs) (method : PaymentMethod) (order : Order)
    (payments : List Payment) (payment : Payment) (answer : PaymentQueryResult) (db : Database) :
    Except Fault Database := do
  let (mark, applied) ← applyTradeState now args method order payments payment answer db
  if mark then markNotificationProcessed args.notificationID applied else pure applied

def applyPayQuery (clock : Clock) (args : CheckPayArgs) (result : Option PaymentQueryResult)
    (db : Database) : Except Fault Database := do
  let snapshot ← found (db.getPayment args.paymentID) Fault.noRows
  let order ← found (db.getOrder snapshot.orderId) Fault.noRows
  let payments := db.listPaymentsByOrderForUpdate snapshot.orderId
  let payment ← found (payments.find? (fun candidate => candidate.id == args.paymentID))
    errPaymentNotFound
  confirmUnissued clock args payment result
  let method ← found (parsePaymentMethod payment.payChannel) errPaymentMethodInvalid
  match validateProviderResult payment method result, result with
  | some mismatch, _ => rejectAnswer args method mismatch db
  | none, none => .error (Fault.plain "invalid memory address or nil pointer dereference")
  | none, some answer =>
      acceptAnswer clock.database args method order payments payment answer db

def duplicateTransaction : Fault :=
  .uniqueViolation "idx_payments_third_party_tx_id_channel"

def duplicateTransactionText : String :=
  "third party transaction id is already recorded on another payment"

/-- The provider that the transaction had noted when the unique index stopped it. -/
def answeredProvider (args : CheckPayArgs) (db : Database) : String :=
  (((db.getPayment args.paymentID).bind (fun payment =>
    parsePaymentMethod payment.payChannel)).map PaymentMethod.provider).getD ""

def duplicateFailure (args : CheckPayArgs) (db : Database) : FailureInput :=
  { paymentID := args.paymentID
    notificationID := args.notificationID
    provider := answeredProvider args db
    reason := some .duplicateThirdPartyTx
    riverJobID := none
    attempt := max 1 args.pollCount
    lastError := duplicateTransactionText }

/-- `ApplyPayQuery` as its caller sees it.  A transaction id that another payment
has is flagged in a second transaction, the first one being lost. -/
def applyPayQueryOrFlag (clock : Clock) (args : CheckPayArgs) (result : Option PaymentQueryResult)
    (db : Database) : Database :=
  match applyPayQuery clock args result db with
  | .ok applied => applied
  | .error fault =>
      if fault = duplicateTransaction then
        commit (markReconciliationRequired (duplicateFailure args db)) db
      else db

end Mall
