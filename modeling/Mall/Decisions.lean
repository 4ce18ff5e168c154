/-
The rules that the repositories consult before they write.

Every definition here is a pure function of rows that the caller has read under
its locks, of a request, or of a provider's answer.
-/

import Mall.Records

namespace Mall

open Relational

/-! ### Requests -/

structure Actor where
  id : Int
  admin : Bool

def Actor.validate (actor : Actor) : Except Fault Unit :=
  if actor.id ≤ 0 then .error errUnauthorized else .ok ()

def keyAccepted (key : String) : Bool :=
  decide (8 ≤ key.utf8ByteSize) && decide (key.utf8ByteSize ≤ 64) && trimSpace key == key

structure ReconciliationInput where
  paymentID : Int
  expectedVersion : Int
  action : ReconciliationActionKind
  idempotencyKey : String
  reason : String
  evidence : String

def requireReconciliationAdmin (actor : Actor) : Except Fault Unit := do
  actor.validate
  if actor.admin then .ok () else .error errReconciliationForbidden

def ReconciliationInput.validate (input : ReconciliationInput) (actor : Actor) :
    Except Fault Unit := do
  requireReconciliationAdmin actor
  if input.paymentID ≤ 0 ∨ input.expectedVersion ≤ 0 ∨ keyAccepted input.idempotencyKey = false ∨
      trimSpace input.reason = "" ∨ input.reason.length > 255 ∨ input.evidence.length > 2000 ∨
      (input.action = .resolve ∧ trimSpace input.evidence = "") then
    .error errReconciliationInvalid
  else .ok ()

structure OrderFulfillmentInput where
  orderID : Int
  action : FulfillmentKind
  idempotencyKey : String
  reason : String
  carrier : String
  trackingNumber : String

def OrderFulfillmentInput.validate (input : OrderFulfillmentInput) (actor : Actor) :
    Except Fault Unit := do
  actor.validate
  if input.action = .ship ∧ actor.admin = false then .error errShipForbidden
  else if input.orderID ≤ 0 ∨ keyAccepted input.idempotencyKey = false ∨
      trimSpace input.reason = "" ∨ input.reason.length > 255 then
    .error errOrderFulfillmentInvalid
  else
    match input.action with
    | .ship =>
        if trimSpace input.carrier = "" ∨ input.carrier.length > 64 ∨
            trimSpace input.trackingNumber = "" ∨ input.trackingNumber.length > 128 then
          .error errOrderShipmentInvalid
        else .ok ()
    | .complete =>
        if input.carrier ≠ "" ∨ input.trackingNumber ≠ "" then .error errCompletionShipment
        else .ok ()

structure StockAdjustmentInput where
  productID : Int
  actorID : Int
  delta : Int
  reason : String
  idempotencyKey : String

def StockAdjustmentInput.validate (input : StockAdjustmentInput) : Except Fault Unit :=
  if input.productID ≤ 0 ∨ input.actorID ≤ 0 ∨ input.delta = 0 ∨ trimSpace input.reason = "" ∨
      input.reason.length > 255 ∨ keyAccepted input.idempotencyKey = false then
    .error errStockAdjustmentInvalid
  else .ok ()

/-! ### Provider answers -/

structure PaymentQueryResult where
  method : PaymentMethod
  outTradeNo : String
  transactionID : String
  tradeState : TradeState
  tradeStateDesc : String
  rawTradeState : String
  amount : Int
  currency : String
deriving DecidableEq

inductive ProviderMismatch where
  | empty | outTradeNo | method | amount | currency
deriving DecidableEq, Repr

def ProviderMismatch.text : ProviderMismatch → String
  | .empty => "empty provider result"
  | .outTradeNo => "out_trade_no mismatch"
  | .method => "payment method mismatch"
  | .amount => "amount mismatch"
  | .currency => "currency mismatch"

def reconciliationReasonForMismatch : ProviderMismatch → ReconciliationReason
  | .amount => .amountMismatch
  | .currency => .currencyMismatch
  | _ => .providerMismatch

/-- Amount and currency count only in the two states in which money moved. -/
def validateProviderResult (payment : Payment) (method : PaymentMethod) :
    Option PaymentQueryResult → Option ProviderMismatch
  | none => some .empty
  | some result =>
      if result.outTradeNo ≠ payment.outTradeNo then some .outTradeNo
      else if result.method.normalize.string ≠ method.string then some .method
      else if result.tradeState = .success ∨ result.tradeState = .refund then
        if result.amount ≠ payment.amountMinor then some .amount
        else if toUpper result.currency ≠ payment.currency then some .currency
        else none
      else none

/-! ### Payments -/

/-- A retry job belongs to the processing version that queued it; version zero
marks ordinary polling. -/
def reconciliationJobCurrent (jobVersion currentVersion : Int) (status : ReconciliationStatus) :
    Bool :=
  jobVersion == 0 || (jobVersion == currentVersion && status == .processing)

def canConfirmUnissuedPayment (payment : Payment) (now : Time) : Bool :=
  if payment.status ≠ .closePending ∧ payment.status ≠ .closed then false
  else if payment.actionType.isSome ∨ payment.thirdPartyTxId.getD "" ≠ "" then false
  else if payment.payChannel = "alipay:app" ∨ payment.payChannel = "alipay:wap" then
    match payment.prepayLeaseUntil with
    | none => true
    | some deadline => decide (deadline ≤ now)
  else
    payment.prepayAttempts == 0 && payment.prepayLeaseUntil.isNone &&
      payment.prepayLeaseToken.getD "" == ""

def unsupportedPaymentNeverDispatched (payment : Payment) : Bool :=
  (payment.status == .creating || payment.status == .closePending) &&
    payment.prepayAttempts == 0 && payment.prepayLeaseToken.isNone &&
    payment.prepayLeaseUntil.isNone && payment.actionType.isNone &&
    (payment.actionPayload.getD "" == "" || payment.actionPayload.getD "" == "null") &&
    payment.thirdPartyTxId.isNone && payment.reconciliationStatus == .none &&
    !(["wechat:jsapi", "wechat:native", "wechat:app", "alipay:app", "alipay:wap"].contains
      payment.payChannel)

structure PaymentSuccessDecision where
  markOrderPaid : Bool
  reconciliation : Option (ReconciliationReason × String)
deriving DecidableEq

def decidePaymentSuccess (orderStatus : OrderStatus) (anotherPaymentSucceeded : Bool) :
    Except Fault PaymentSuccessDecision :=
  if anotherPaymentSucceeded then
    .ok
      { markOrderPaid := false
        reconciliation := some (.duplicateSuccess, "another payment already completed this order") }
  else
    match orderStatus with
    | .pendingPayment => .ok { markOrderPaid := true, reconciliation := none }
    | .cancelling | .cancelled =>
        .ok
          { markOrderPaid := false
            reconciliation :=
              some (.lateSuccessAfterCancel, "payment succeeded after order cancellation started") }
    | .paid | .shipped | .completed => .ok { markOrderPaid := false, reconciliation := none }
    | .refunded => .error errPaymentStateConflict

/-! ### Refunds -/

def decideRefundPurpose (orderStatus : OrderStatus) (paidPaymentID paymentID : Int) :
    Except Fault RefundPurpose :=
  if paymentID ≤ 0 then .error errPaymentStateConflict
  else if (0 < paidPaymentID ∧ paidPaymentID ≠ paymentID) ∧
      (orderStatus.isFunded ∨ orderStatus = .refunded) then .ok .duplicate
  else if paidPaymentID = paymentID ∧ orderStatus = .paid then .ok .orderCancel
  else if paidPaymentID = 0 ∧ (orderStatus = .cancelled ∨ orderStatus = .cancelling) then .ok .late
  else .error errPaymentStateConflict

def validateRefundSettlement (purpose : RefundPurpose) (orderStatus : OrderStatus)
    (paidPaymentID paymentID : Int) : Except Fault Unit :=
  match decideRefundPurpose orderStatus paidPaymentID paymentID with
  | .error _ => .error errPaymentStateConflict
  | .ok expected => if expected = purpose then .ok () else .error errPaymentStateConflict

def refundMatches (refund : OrderRefund) (payment : Payment) : Bool :=
  refund.orderId == payment.orderId && refund.userId == payment.userId &&
    refund.totalAmountMinor == payment.amountMinor &&
    refund.refundAmountMinor == payment.amountMinor && refund.currency == payment.currency

/-! ### Review cases -/

/-- Whether the settled facts of a payment allow its case to be closed. -/
def canResolveReconciliation (payment : Payment) (order : Order) (refund : Option OrderRefund) :
    Bool :=
  let paid := order.paidPaymentID
  let paidByOther := decide (0 < paid) && paid != payment.id
  if payment.orderId ≠ order.id ∨ payment.userId ≠ order.userId ∨
      payment.amountMinor ≠ order.totalAmountMinor ∨ payment.currency ≠ order.currency then false
  else if payment.reconciliationReason = some .providerSideRefund ∧ payment.status ≠ .refunded then
    false
  else if refund.map OrderRefund.status = some .pending then false
  else
    match payment.status with
    | .success => order.status.isFunded && paid == payment.id && payment.thirdPartyTxId.getD "" != ""
    | .refunded =>
        match refund with
        | none => false
        | some row =>
            row.paymentId == payment.id && row.orderId == order.id && row.userId == payment.userId &&
              row.status == .success && row.totalAmountMinor == payment.amountMinor &&
              row.refundAmountMinor == payment.amountMinor && row.currency == payment.currency &&
              match row.purpose with
              | .orderCancel => order.status == .refunded && paid == payment.id
              | .late => order.status == .cancelled && paid == 0
              | .duplicate => (order.status.isFunded || order.status == .refunded) && paidByOther
    | .closed | .failed =>
        (order.status == .cancelled && paid == 0) || (order.status == .refunded && paidByOther) ||
          (order.status.isFunded && paidByOther) || (order.status == .pendingPayment && paid == 0)
    | _ => false

end Mall
