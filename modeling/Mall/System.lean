/-
The step system.

An operation is one transaction body with its inputs: what the client sent,
what the clocks read and what the provider answered.  Row locks make each body
atomic, so a run is a list of operations and a failed body leaves the state as
it was.
-/

import Mall.Checkout
import Mall.Fulfillment

namespace Mall

open Relational Transactional

inductive Operation where
  /-- Accounts and address books change freely, up to the foreign keys. -/
  | accounts (users : Table User) (addresses : Table ShippingAddress)
  | createProduct (input : ProductInput) (stock : Int) (status : ProductStatus)
  | updateProduct (id : Int) (input : ProductInput)
  | updateProductStatus (id : Int) (status : ProductStatus)
  | softDeleteProduct (now : Time) (id : Int)
  | adjustStock (input : StockAdjustmentInput)
  | createOrder (digest : Int → Int → List OrderItemInput → String) (orderNo : String)
      (paymentTimeout : Int) (now : Time) (request : CreateOrderReq)
  | cancelOrder (id userID : Int)
  | expireOrder (now : Time) (orderID : Int)
  | createPayment (args : CreatePaymentArgs) (now : Time)
  | claimPaymentPrepay (clock : Clock) (id : Int) (token : String) (lease : Int)
  | activatePayment (id : Int) (token : String) (actionType : Option PaymentActionType)
      (actionPayload : String) (poll : Option (CheckPayArgs × Option Time))
  | recordPaymentPrepayError (id : Int) (token lastError : String)
  | markPayClosePending (args : CheckPayArgs)
  | markReconciliationRequired (failure : FailureInput)
  | applyPayQuery (clock : Clock) (args : CheckPayArgs) (result : Option PaymentQueryResult)
  | preparePaymentRefund (now : Time) (paymentID : Int) (outRefundNo : String)
  | recordPaymentRefundError (now : Time) (refundID : Int) (lastError : String)
      (definitive : Bool)
  | applyPaymentRefund (now : Time) (paymentID refundID : Int)
  | applyReconciliation (now : Time) (actor : Actor) (input : ReconciliationInput)
  | applyFulfillment (actor : Actor) (input : OrderFulfillmentInput)
  | handleError (jobID attempt : Int) (lastError : String) (job : JobArgs)
  | persistAndEnqueueNotification (input : NotificationInput) (args : CheckPayArgs)
  | beginPaymentNotificationProcessing (id : Int) (provider outTradeNo : String)
  | recordPaymentNotificationError (id : Int) (lastError : String)
  | markPaymentNotificationFailed (id : Int) (lastError : String)
  | enqueueJob (args : JobArgs) (scheduledAt : Option Time)
  | finishJob (id : Int)

def Operation.createsOrder : Operation → Bool
  | .createOrder .. => true
  | _ => false

/-- One of the two transactions of an attempt that touch the refund itself. -/
def Operation.attemptsRefund : Operation → Bool
  | .preparePaymentRefund .. => true
  | .recordPaymentRefundError .. => true
  | _ => false

def execute : Operation → Database → Except Fault Database
  | .accounts users addresses, db => db.changeAccounts users addresses
  | .createProduct input stock status, db => (createProduct input stock status db).map Prod.snd
  | .updateProduct id input, db => (updateProduct id input db).map Prod.snd
  | .updateProductStatus id status, db => (updateProductStatus id status db).map Prod.snd
  | .softDeleteProduct now id, db => softDeleteProduct now id db
  | .adjustStock input, db => (adjustStock input db).map Prod.snd
  | .createOrder digest orderNo paymentTimeout now request, db =>
      (submitOrder digest orderNo paymentTimeout now request db).map Prod.snd
  | .cancelOrder id userID, db => cancelOrder id userID db
  | .expireOrder now orderID, db => (expireOrder now orderID db).map Prod.snd
  | .createPayment args now, db => (createPayment args now db).map Prod.snd
  | .claimPaymentPrepay clock id token lease, db =>
      (claimPaymentPrepay clock id token lease db).map Prod.snd
  | .activatePayment id token actionType actionPayload poll, db =>
      (activatePayment id token actionType actionPayload poll db).map Prod.snd
  | .recordPaymentPrepayError id token lastError, db =>
      .ok (recordPaymentPrepayError id token lastError db)
  | .markPayClosePending args, db => markPayClosePending args db
  | .markReconciliationRequired failure, db => markReconciliationRequired failure db
  | .applyPayQuery clock args result, db => applyPayQuery clock args result db
  | .preparePaymentRefund now paymentID outRefundNo, db =>
      (preparePaymentRefund now paymentID outRefundNo db).map (fun result => result.2.2)
  | .recordPaymentRefundError now refundID lastError definitive, db =>
      recordPaymentRefundError now refundID lastError definitive db
  | .applyPaymentRefund now paymentID refundID, db =>
      (applyPaymentRefund now paymentID refundID db).map Prod.snd
  | .applyReconciliation now actor input, db =>
      (applyReconciliation now actor input db).map Prod.snd
  | .applyFulfillment actor input, db => (applyFulfillment actor input db).map Prod.snd
  | .handleError jobID attempt lastError job, db => handleError jobID attempt lastError job db
  | .persistAndEnqueueNotification input args, db =>
      (persistAndEnqueueNotification input args db).map Prod.snd
  | .beginPaymentNotificationProcessing id provider outTradeNo, db =>
      (beginPaymentNotificationProcessing id provider outTradeNo db).map Prod.snd
  | .recordPaymentNotificationError id lastError, db =>
      .ok (recordPaymentNotificationError id lastError db)
  | .markPaymentNotificationFailed id lastError, db =>
      markPaymentNotificationFailed id lastError db
  | .enqueueJob args scheduledAt, db => .ok (db.enqueue args scheduledAt).2
  | .finishJob id, db =>
      .ok { db with jobs := db.jobs.update id (fun job => { job with finalized := true }) }

def next (operation : Operation) : Database → Database :=
  commit (execute operation)

/-- Accounts and a catalogue within the bounds of its columns; nothing else. -/
structure Initial (db : Database) : Prop where
  stockBounded : ∀ product ∈ db.products, 0 ≤ product.stock ∧ product.stock ≤ maxInt32
  noAdjustments : db.stockAdjustments.rows = []
  noOrders : db.orders.rows = []
  noItems : db.orderItems.rows = []
  noPayments : db.payments.rows = []
  noRefunds : db.refunds.rows = []
  noFailures : db.failures.rows = []
  noReconciliationActions : db.reconciliationActions.rows = []
  noFulfillmentActions : db.fulfillmentActions.rows = []
  noNotifications : db.notifications.rows = []
  noJobs : db.jobs.rows = []

/-- Reached from an initial state by some finite run. -/
abbrev Reached : Database → Prop :=
  Reachable Initial next

/-! ### A small shop

One product and two accounts, and the requests that the concrete runs are made
of. -/

def smallShop : Database :=
  { users := (Table.empty.insert { id := 0 }).insert { id := 0 }
    addresses := Table.empty.insert
      { id := 0
        userId := 1
        receiverName := "buyer"
        receiverPhoneEncrypt := "sealed"
        province := ""
        city := ""
        district := ""
        detailAddress := "door 1" }
    products := Table.empty.insert
      { id := 0
        categoryId := 1
        name := "tea"
        priceMinor := 100
        discount := 1
        stock := 10
        status := .onShelf
        coverImage := ""
        deletedAt := none }
    stockAdjustments := .empty
    orders := .empty
    orderItems := .empty
    payments := .empty
    refunds := .empty
    failures := .empty
    reconciliationActions := .empty
    fulfillmentActions := .empty
    notifications := .empty
    jobs := .empty }

theorem smallShop_initial : Initial smallShop := by
  refine ⟨?_, rfl, rfl, rfl, rfl, rfl, rfl, rfl, rfl, rfl, rfl⟩
  intro product member
  rcases List.mem_singleton.mp member with rfl
  decide

def orderTea (orderNo key : String) (quantity : Int) : Operation :=
  .createOrder (fun _ _ _ => "digest") orderNo 0 0
    { userID := 1
      addressID := 1
      items := [{ productID := 1, quantity := quantity }]
      idempotencyKey := key }

def openTeaPayment (outTradeNo : String) (orderID amount : Int) : Operation :=
  .createPayment
    { orderID := orderID
      userID := 1
      merchantID := 1
      amount := amount
      currency := "CNY"
      method := "alipay:wap"
      outTradeNo := outTradeNo } 1

def checkTeaPayment (paymentID : Int) : CheckPayArgs :=
  { confirmUnissued := false
    reconciliationVersion := 0
    paymentID := paymentID
    provider := "alipay"
    notificationID := 0
    trigger := "api"
    pollCount := 0
    maxPolls := 5
    pollIntervalSeconds := 30
    orderExpiresAt := none }

def teaAnswer (outTradeNo transactionID : String) (state : TradeState) (amount : Int) :
    PaymentQueryResult :=
  { method := { provider := "alipay", product := "wap" }
    outTradeNo := outTradeNo
    transactionID := transactionID
    tradeState := state
    tradeStateDesc := ""
    rawTradeState := ""
    amount := amount
    currency := "CNY" }

def answerTeaPayment (paymentID : Int) (outTradeNo transactionID : String) (state : TradeState)
    (amount : Int) : Operation :=
  .applyPayQuery { database := 2, process := 2 } (checkTeaPayment paymentID)
    (some (teaAnswer outTradeNo transactionID state amount))

def shopAdmin : Actor :=
  { id := 2
    admin := true }

def resolveTea : ReconciliationInput :=
  { paymentID := 1
    expectedVersion := 1
    action := .resolve
    idempotencyKey := "resolve-key-1"
    reason := "checked by hand"
    evidence := "bank statement" }

def shipTea : OrderFulfillmentInput :=
  { orderID := 1
    action := .ship
    idempotencyKey := "ship-key-1"
    reason := "packed"
    carrier := "post"
    trackingNumber := "T1" }

/-- Two units are ordered and paid. -/
def paidHistory : List Operation :=
  [orderTea "ORD1" "order-key-1" 2, openTeaPayment "PAY1" 1 200,
    answerTeaPayment 1 "PAY1" "TX1" .success 200]

def paidShop : Database :=
  run next smallShop paidHistory

theorem paidShop_reached : Reached paidShop :=
  ⟨smallShop, paidHistory, smallShop_initial, rfl⟩

end Mall
