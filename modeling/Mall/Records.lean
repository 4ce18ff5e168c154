/-
Statuses and rows of the order, payment and inventory tables.

A row holds the columns that the modelled statements read or write.  Times are
readings of a clock in nanoseconds; ids are `BIGINT` identity columns.
-/

import Mall.Foundation.Table
import Mall.Money
import Mall.Text

namespace Mall

open Relational

abbrev Time := Int

/-! ### Statuses -/

inductive OrderStatus where
  | pendingPayment | paid | shipped | completed | cancelling | cancelled | refunded
deriving DecidableEq, Repr

inductive PaymentStatus where
  | creating | pending | failed | success | refunded | closePending | closed
deriving DecidableEq, Repr

inductive ReconciliationStatus where
  | none | required | processing | resolved
deriving DecidableEq, Repr

inductive RefundPurpose where
  | orderCancel | duplicate | late
deriving DecidableEq, Repr

inductive RefundStatus where
  | pending | success | failed
deriving DecidableEq, Repr

inductive NotificationStatus where
  | received | processing | processed | failed
deriving DecidableEq, Repr

inductive ProductStatus where
  | offShelf | onShelf
deriving DecidableEq, Repr

inductive TradeState where
  | unspecified | success | refund | notPay | closed | revoked | userPaying | payError
deriving DecidableEq, Repr

inductive PaymentActionType where
  | redirect | form | invoke
deriving DecidableEq, Repr

inductive ReconciliationActionKind where
  | retry | resolve
deriving DecidableEq, Repr

inductive FulfillmentKind where
  | ship | complete
deriving DecidableEq, Repr

inductive ReconciliationReason where
  | amountMismatch | currencyMismatch | providerMismatch | unknownProviderState
  | duplicateSuccess | lateSuccessAfterCancel | duplicateThirdPartyTx
  | providerSideRefund | refundedOnPendingOrder
  | providerOrderNotExist | closeFailed | callbackAmountMismatch | callbackCurrencyMismatch
  | jobExhausted
deriving DecidableEq, Repr

/-- `creating`, `pending` and `close_pending`: the payment may still be paid. -/
def PaymentStatus.isActive : PaymentStatus → Bool
  | .creating | .pending | .closePending => true
  | _ => false

def PaymentStatus.isSettled : PaymentStatus → Bool
  | .success | .refunded => true
  | _ => false

def OrderStatus.isFunded : OrderStatus → Bool
  | .paid | .shipped | .completed => true
  | _ => false

def OrderStatus.isRestorable : OrderStatus → Bool
  | .pendingPayment | .cancelling | .paid => true
  | _ => false

def reconciliationNeedsReview : ReconciliationStatus → Bool
  | .required | .processing => true
  | _ => false

/-! ### Rows -/

structure User where
  id : Int

structure ShippingAddress where
  id : Int
  userId : Int
  receiverName : String
  receiverPhoneEncrypt : String
  province : String
  city : String
  district : String
  detailAddress : String

structure Product where
  id : Int
  categoryId : Int
  name : String
  priceMinor : Int
  discount : ℚ
  stock : Int
  status : ProductStatus
  coverImage : String
  deletedAt : Option Time

structure StockAdjustment where
  id : Int
  productId : Int
  actorId : Int
  delta : Int
  reason : String
  idempotencyKey : String
  resultingStock : Int

structure ShippingSnapshot where
  receiverName : String
  receiverPhoneEncrypt : String
  province : String
  city : String
  district : String
  detailAddress : String

structure Order where
  id : Int
  userId : Int
  addressId : Int
  shipping : ShippingSnapshot
  paidPaymentId : Option Int
  totalAmountMinor : Int
  currency : String
  status : OrderStatus
  isCompleted : Bool
  outTradeNo : String
  idempotencyKey : String
  requestHash : String
  expiresAt : Time

/-- `PaidPaymentID.Int64`, which reads `NULL` as zero. -/
def Order.paidPaymentID (order : Order) : Int :=
  order.paidPaymentId.getD 0

structure OrderItem where
  id : Int
  orderId : Int
  productId : Int
  quantity : Int
  unitPriceMinor : Int
  productNameSnapshot : String
  coverImageSnapshot : String

structure Payment where
  id : Int
  orderId : Int
  userId : Int
  merchantId : Int
  amountMinor : Int
  currency : String
  status : PaymentStatus
  payChannel : String
  thirdPartyTxId : Option String
  outTradeNo : String
  actionType : Option PaymentActionType
  actionPayload : Option String
  paidAt : Option Time
  reconciliationStatus : ReconciliationStatus
  reconciliationVersion : Int
  reconciliationReason : Option ReconciliationReason
  reconciliationDetail : Option String
  prepayLeaseToken : Option String
  prepayLeaseUntil : Option Time
  prepayAttempts : Int
  lastError : Option String
  createdAt : Time

def Payment.needsReview (payment : Payment) : Bool :=
  reconciliationNeedsReview payment.reconciliationStatus

theorem Payment.needsReview_iff {payment : Payment} :
    payment.needsReview = true ↔
      payment.reconciliationStatus = .required ∨ payment.reconciliationStatus = .processing := by
  unfold Payment.needsReview
  cases payment.reconciliationStatus <;> simp [reconciliationNeedsReview]

structure OrderRefund where
  id : Int
  orderId : Int
  userId : Int
  paymentId : Int
  outRefundNo : String
  totalAmountMinor : Int
  refundAmountMinor : Int
  currency : String
  reason : String
  purpose : RefundPurpose
  status : RefundStatus
  lastError : String
  updatedAt : Time
deriving DecidableEq

structure ReconciliationFailure where
  id : Int
  paymentId : Int
  provider : String
  reason : ReconciliationReason
  riverJobId : Option Int
  attempt : Int
  lastError : String
  resolvedAt : Option Time

structure ReconciliationAction where
  id : Int
  paymentId : Int
  actorId : Int
  action : ReconciliationActionKind
  fromStatus : ReconciliationStatus
  toStatus : ReconciliationStatus
  fromVersion : Int
  toVersion : Int
  idempotencyKey : String
  reason : String
  evidence : String
  riverJobId : Option Int

structure FulfillmentAction where
  id : Int
  orderId : Int
  actorId : Int
  action : FulfillmentKind
  fromStatus : OrderStatus
  toStatus : OrderStatus
  idempotencyKey : String
  reason : String
  carrier : String
  trackingNumber : String

structure PaymentNotification where
  id : Int
  provider : String
  providerEventId : Option String
  outTradeNo : String
  payloadHash : String
  status : NotificationStatus
  lastError : Option String
  riverJobId : Option Int

/-! ### Queue jobs -/

structure CheckPayArgs where
  confirmUnissued : Bool
  reconciliationVersion : Int
  paymentID : Int
  provider : String
  notificationID : Int
  trigger : String
  pollCount : Int
  maxPolls : Int
  pollIntervalSeconds : Int
  orderExpiresAt : Option Time
deriving DecidableEq

structure ClosePayArgs where
  reconciliationVersion : Int
  paymentID : Int
  provider : String
  reason : String
deriving DecidableEq

inductive JobArgs where
  | checkPay (args : CheckPayArgs)
  | closePay (args : ClosePayArgs)
  | expireOrder (orderID : Int)
deriving DecidableEq

/-- The fields tagged `river:"unique"`, by job kind. -/
def JobArgs.uniqueKey : JobArgs → Nat × Int × Int × String × Int
  | .checkPay args => (0, args.reconciliationVersion, args.paymentID, args.provider, args.notificationID)
  | .closePay args => (1, args.reconciliationVersion, args.paymentID, args.provider, 0)
  | .expireOrder orderID => (2, 0, orderID, "", 0)

structure Job where
  id : Int
  args : JobArgs
  scheduledAt : Option Time
  finalized : Bool

/-! ### Identity columns -/

instance : Identified User :=
  ⟨User.id, fun identity row => { row with id := identity }, fun _ _ => rfl, fun _ => rfl⟩

instance : Identified ShippingAddress :=
  ⟨ShippingAddress.id, fun identity row => { row with id := identity }, fun _ _ => rfl, fun _ => rfl⟩

instance : Identified Product :=
  ⟨Product.id, fun identity row => { row with id := identity }, fun _ _ => rfl, fun _ => rfl⟩

instance : Identified StockAdjustment :=
  ⟨StockAdjustment.id, fun identity row => { row with id := identity }, fun _ _ => rfl, fun _ => rfl⟩

instance : Identified Order :=
  ⟨Order.id, fun identity row => { row with id := identity }, fun _ _ => rfl, fun _ => rfl⟩

instance : Identified OrderItem :=
  ⟨OrderItem.id, fun identity row => { row with id := identity }, fun _ _ => rfl, fun _ => rfl⟩

instance : Identified Payment :=
  ⟨Payment.id, fun identity row => { row with id := identity }, fun _ _ => rfl, fun _ => rfl⟩

instance : Identified OrderRefund :=
  ⟨OrderRefund.id, fun identity row => { row with id := identity }, fun _ _ => rfl, fun _ => rfl⟩

instance : Identified ReconciliationFailure :=
  ⟨ReconciliationFailure.id, fun identity row => { row with id := identity }, fun _ _ => rfl, fun _ => rfl⟩

instance : Identified ReconciliationAction :=
  ⟨ReconciliationAction.id, fun identity row => { row with id := identity }, fun _ _ => rfl, fun _ => rfl⟩

instance : Identified FulfillmentAction :=
  ⟨FulfillmentAction.id, fun identity row => { row with id := identity }, fun _ _ => rfl, fun _ => rfl⟩

instance : Identified PaymentNotification :=
  ⟨PaymentNotification.id, fun identity row => { row with id := identity }, fun _ _ => rfl, fun _ => rfl⟩

instance : Identified Job :=
  ⟨Job.id, fun identity row => { row with id := identity }, fun _ _ => rfl, fun _ => rfl⟩

end Mall
