/-
The database and its statements.

Each definition below is one SQL statement under its query name.  A `:one`
statement returns `none` where the driver reports `pgx.ErrNoRows`; a statement
that can violate a constraint returns the driver's fault instead of a state.
-/

import Mall.Foundation.Execution
import Mall.Records
import Mathlib.Data.List.Sort

namespace Mall

open Relational Transactional

structure Database where
  users : Table User
  addresses : Table ShippingAddress
  products : Table Product
  stockAdjustments : Table StockAdjustment
  orders : Table Order
  orderItems : Table OrderItem
  payments : Table Payment
  refunds : Table OrderRefund
  failures : Table ReconciliationFailure
  reconciliationActions : Table ReconciliationAction
  fulfillmentActions : Table FulfillmentAction
  notifications : Table PaymentNotification
  jobs : Table Job

namespace Database

/-! ### Guarded updates of one row -/

def updateOrder (db : Database) (id : Int) (guard : Order → Bool) (change : Order → Order) :
    Option (Order × Database) :=
  (db.orders.updateWhen id guard change).map
    (fun result => (result.1, { db with orders := result.2 }))

def updatePayment (db : Database) (id : Int) (guard : Payment → Bool)
    (change : Payment → Payment) : Option (Payment × Database) :=
  (db.payments.updateWhen id guard change).map
    (fun result => (result.1, { db with payments := result.2 }))

def updateRefund (db : Database) (id : Int) (guard : OrderRefund → Bool)
    (change : OrderRefund → OrderRefund) : Option (OrderRefund × Database) :=
  (db.refunds.updateWhen id guard change).map
    (fun result => (result.1, { db with refunds := result.2 }))

def updateNotification (db : Database) (id : Int) (guard : PaymentNotification → Bool)
    (change : PaymentNotification → PaymentNotification) :
    Option (PaymentNotification × Database) :=
  (db.notifications.updateWhen id guard change).map
    (fun result => (result.1, { db with notifications := result.2 }))

def updateProductRow (db : Database) (id : Int) (guard : Product → Bool)
    (change : Product → Product) : Option (Product × Database) :=
  (db.products.updateWhen id guard change).map
    (fun result => (result.1, { db with products := result.2 }))

/-! ### Accounts -/

def lockUserForReference (db : Database) (id : Int) : Option User :=
  db.users.find? id

/-- The users that a foreign key names; none of these keys cascades. -/
def referencedUsers (db : Database) : List Int :=
  db.stockAdjustments.rows.map StockAdjustment.actorId ++ db.orders.rows.map Order.userId ++
    db.fulfillmentActions.rows.map FulfillmentAction.actorId ++
    db.payments.rows.map Payment.userId ++
    db.reconciliationActions.rows.map ReconciliationAction.actorId ++
    db.refunds.rows.map OrderRefund.userId

def changeAccounts (db : Database) (users : Table User) (addresses : Table ShippingAddress) :
    Except Fault Database := do
  require (∀ id ∈ db.referencedUsers, (users.find? id).isSome = true) Fault.foreignKeyViolation
  pure { db with users := users, addresses := addresses }

def getShippingAddressForSnapshot (db : Database) (id userId : Int) : Option ShippingAddress :=
  (db.addresses.find? id).filter (fun address => address.userId == userId)

/-! ### Products -/

/-- `GetProduct` and `GetProductForOrder` differ only in the lock they take. -/
def getProductForOrder (db : Database) (id : Int) : Option Product :=
  (db.products.find? id).filter (fun product => product.deletedAt.isNone)

def createProductRow (db : Database) (row : Product) : Except Fault (Product × Database) := do
  require (row.stock ≤ maxInt32) Fault.outOfRange
  require (0 ≤ row.stock) (Fault.checkViolation "products_stock_check")
  pure (db.products.inserted row, { db with products := db.products.insert row })

def updateProduct (db : Database) (id categoryId : Int) (name : String) (priceMinor : Int)
    (discount : ℚ) (coverImage : String) : Option (Product × Database) :=
  db.updateProductRow id (fun product => product.deletedAt.isNone)
    (fun product =>
      { product with
        categoryId := categoryId
        name := name
        priceMinor := priceMinor
        discount := discount
        coverImage := coverImage })

def updateProductStatus (db : Database) (id : Int) (status : ProductStatus) :
    Option (Product × Database) :=
  db.updateProductRow id (fun product => product.deletedAt.isNone)
    (fun product => { product with status := status })

def softDeleteProduct (db : Database) (now : Time) (id : Int) : Database :=
  { db with
    products := db.products.update id (fun product => { product with deletedAt := some now }) }

/-- The column is a 32-bit integer with a check that it is not negative. -/
def adjustProductStock (db : Database) (id delta : Int) : Except Fault (Product × Database) := do
  let product ← found (db.getProductForOrder id) Fault.noRows
  require (product.stock + delta ≤ maxInt32) Fault.outOfRange
  require (0 ≤ product.stock + delta) (Fault.checkViolation "products_stock_check")
  found (db.updateProductRow id (fun row => row.deletedAt.isNone)
    (fun row => { row with stock := row.stock + delta })) Fault.noRows

def decrProductStock (db : Database) (id quantity : Int) : Option (Product × Database) :=
  db.updateProductRow id
    (fun product => decide (quantity ≤ product.stock) && product.deletedAt.isNone)
    (fun product => { product with stock := product.stock - quantity })

def getStockAdjustment (db : Database) (productId : Int) (key : String) : Option StockAdjustment :=
  db.stockAdjustments.rows.find?
    (fun row => row.productId == productId && row.idempotencyKey == key)

def createStockAdjustment (db : Database) (row : StockAdjustment) :
    Except Fault (StockAdjustment × Database) := do
  require ((db.users.find? row.actorId).isSome = true) Fault.foreignKeyViolation
  require ((db.getStockAdjustment row.productId row.idempotencyKey).isNone = true)
    (Fault.uniqueViolation "stock_adjustments_product_id_idempotency_key_key")
  pure (db.stockAdjustments.inserted row,
    { db with stockAdjustments := db.stockAdjustments.insert row })

/-! ### Orders -/

def getOrder (db : Database) (id : Int) : Option Order :=
  db.orders.find? id

def getOrderByUserForUpdate (db : Database) (id userId : Int) : Option Order :=
  (db.orders.find? id).filter (fun order => order.userId == userId)

def getOrderByUserIdempotency (db : Database) (userId : Int) (key : String) : Option Order :=
  db.orders.rows.find? (fun order => order.userId == userId && order.idempotencyKey == key)

def createOrderRow (db : Database) (row : Order) : Except Fault (Order × Database) := do
  require (0 < row.addressId ∧ row.shipping.receiverName ≠ "" ∧
      row.shipping.receiverPhoneEncrypt ≠ "" ∧ row.shipping.detailAddress ≠ "")
    (Fault.checkViolation "orders_shipping_snapshot_check")
  require (∀ order ∈ db.orders.rows, order.outTradeNo ≠ row.outTradeNo)
    (Fault.uniqueViolation "idx_orders_out_trade_no")
  require ((db.getOrderByUserIdempotency row.userId row.idempotencyKey).isNone = true)
    (Fault.uniqueViolation "idx_orders_user_idempotency")
  pure (db.orders.inserted row, { db with orders := db.orders.insert row })

def createOrderItem (db : Database) (row : OrderItem) : Database :=
  { db with orderItems := db.orderItems.insert row }

def orderIsExpired (now : Time) (order : Order) : Bool :=
  decide (order.expiresAt ≤ now)

def markOrderPaid (db : Database) (id paymentId : Int) : Option (Order × Database) :=
  db.updateOrder id (fun order => order.status == .pendingPayment)
    (fun order => { order with status := .paid, paidPaymentId := some paymentId })

def markOrderRefunded (db : Database) (id : Int) : Option (Order × Database) :=
  db.updateOrder id (fun order => order.status == .paid)
    (fun order => { order with status := .refunded, isCompleted := true })

def markOrderCancelling (db : Database) (id : Int) : Option (Order × Database) :=
  db.updateOrder id (fun order => order.status == .pendingPayment)
    (fun order => { order with status := .cancelling })

def markOrderCancelled (db : Database) (id : Int) : Option (Order × Database) :=
  db.updateOrder id (fun order => order.status == .cancelling)
    (fun order => { order with status := .cancelled, isCompleted := true })

def markOrderShipped (db : Database) (id : Int) : Option (Order × Database) :=
  db.updateOrder id (fun order => order.status == .paid && order.paidPaymentId.isSome)
    (fun order => { order with status := .shipped })

def markOrderCompleted (db : Database) (id : Int) : Option (Order × Database) :=
  db.updateOrder id (fun order => order.status == .shipped)
    (fun order => { order with status := .completed, isCompleted := true })

/-! ### Order items and inventory -/

/-- The item that `UPDATE ... FROM order_items` joins to a product.  PostgreSQL
applies at most one joined row per updated row. -/
def joinedItem (db : Database) (orderId productId : Int) : Option OrderItem :=
  db.orderItems.rows.find? (fun item => item.orderId == orderId && item.productId == productId)

def restoredQuantity (db : Database) (orderId productId : Int) : Int :=
  ((db.joinedItem orderId productId).map OrderItem.quantity).getD 0

def restoreOrderItemStock (db : Database) (orderId : Int) : Except Fault Database := do
  require
    (∀ product ∈ db.products.rows, product.stock + db.restoredQuantity orderId product.id ≤ maxInt32)
    Fault.outOfRange
  pure
    { db with
      products := db.products.rewrite (fun product =>
        { product with stock := product.stock + db.restoredQuantity orderId product.id }) }

def quantityIn (db : Database) (counted : OrderStatus → Bool) (productId : Int) : Int :=
  db.orderItems.total (fun item =>
    if item.productId = productId ∧
        (db.orders.find? item.orderId).map (fun order => counted order.status) = some true
    then item.quantity else 0)

def getRestorableProductStock (db : Database) (productId : Int) : Int :=
  db.quantityIn OrderStatus.isRestorable productId

/-! ### Payments -/

def getPayment (db : Database) (id : Int) : Option Payment :=
  db.payments.find? id

def listedBefore (left right : Payment) : Prop :=
  right.createdAt < left.createdAt ∨ (right.createdAt = left.createdAt ∧ right.id ≤ left.id)

instance (left right : Payment) : Decidable (listedBefore left right) :=
  inferInstanceAs (Decidable (_ ∨ _))

def listPaymentsByOrderForUpdate (db : Database) (orderId : Int) : List Payment :=
  (db.payments.rows.filter (fun payment => payment.orderId == orderId)).insertionSort listedBefore

def getOrderForUpdateByPaymentID (db : Database) (paymentId : Int) : Option Order :=
  match db.payments.find? paymentId with
  | none => none
  | some payment => db.orders.find? payment.orderId

def getActivePaymentByOrder (db : Database) (orderId : Int) : Option Payment :=
  (db.listPaymentsByOrderForUpdate orderId).find? (fun payment => payment.status.isActive)

def createPaymentWithOutTradeNo (db : Database) (row : Payment) :
    Except Fault (Payment × Database) := do
  require (∀ payment ∈ db.payments.rows, payment.outTradeNo ≠ row.outTradeNo)
    (Fault.uniqueViolation "idx_payments_out_trade_no")
  require ((db.getActivePaymentByOrder row.orderId).isNone = true)
    (Fault.uniqueViolation "idx_payments_one_active_per_order")
  pure (db.payments.inserted row, { db with payments := db.payments.insert row })

def markPaymentClosePending (db : Database) (id : Int) : Option (Payment × Database) :=
  db.updatePayment id
    (fun payment => payment.status == .creating || payment.status == .pending)
    (fun payment => { payment with status := .closePending })

def markPaymentClosed (db : Database) (id : Int) : Option (Payment × Database) :=
  db.updatePayment id (fun payment => payment.status.isActive)
    (fun payment =>
      { payment with status := .closed, prepayLeaseToken := none, prepayLeaseUntil := none })

def markPaymentFailed (db : Database) (id : Int) (lastError : Option String) :
    Option (Payment × Database) :=
  db.updatePayment id (fun payment => payment.status.isActive)
    (fun payment =>
      { payment with
        status := .failed
        prepayLeaseToken := none
        prepayLeaseUntil := none
        lastError := lastError })

/-- The partial unique index on `(third_party_tx_id, pay_channel)` rejects a
transaction id that another payment of the channel already carries. -/
def recordPaymentSuccess (db : Database) (now : Time) (id : Int) (transactionId : String) :
    Except Fault (Payment × Database) := do
  let (recorded, result) ← found
    (db.updatePayment id (fun payment => !payment.status.isSettled)
      (fun payment =>
        { payment with
          status := .success
          thirdPartyTxId := some transactionId
          paidAt := some (payment.paidAt.getD now)
          prepayLeaseToken := none
          prepayLeaseUntil := none })) Fault.noRows
  require (∀ other ∈ db.payments.rows, ¬ (other.id ≠ id ∧
      other.thirdPartyTxId = some transactionId ∧ other.payChannel = recorded.payChannel))
    (Fault.uniqueViolation "idx_payments_third_party_tx_id_channel")
  pure (recorded, result)

def requirePaymentReconciliation (db : Database) (id : Int) (reason : ReconciliationReason)
    (detail : Option String) : Option (Payment × Database) :=
  db.updatePayment id
    (fun payment => payment.reconciliationStatus != .required ||
      payment.reconciliationReason != some reason || payment.reconciliationDetail != detail)
    (fun payment =>
      { payment with
        reconciliationStatus := .required
        reconciliationVersion := payment.reconciliationVersion + 1
        reconciliationReason := some reason
        reconciliationDetail := detail })

def retryPaymentReconciliation (db : Database) (id version : Int) : Option (Payment × Database) :=
  db.updatePayment id
    (fun payment => payment.reconciliationVersion == version &&
      payment.reconciliationStatus == .required)
    (fun payment =>
      { payment with
        reconciliationStatus := .processing
        reconciliationVersion := payment.reconciliationVersion + 1 })

/-- One statement closes the case and all of its unresolved failure rows. -/
def resolvePaymentReconciliation (db : Database) (now : Time) (id version : Int) :
    Option (Payment × Database) :=
  (db.updatePayment id
    (fun payment => payment.reconciliationVersion == version && payment.needsReview)
    (fun payment =>
      { payment with
        reconciliationStatus := .resolved
        reconciliationVersion := payment.reconciliationVersion + 1 })).map
    (fun result => (result.1,
      { result.2 with
        failures := result.2.failures.rewrite (fun failure =>
          if failure.paymentId = id ∧ failure.resolvedAt = none then
            { failure with resolvedAt := some now }
          else failure) }))

def claimPaymentPrepay (db : Database) (now : Time) (id : Int) (token : Option String)
    (lease : Int) : Option (Payment × Database) :=
  db.updatePayment id
    (fun payment => payment.status == .creating &&
      match payment.prepayLeaseUntil with
      | none => true
      | some deadline => decide (deadline < now))
    (fun payment =>
      { payment with
        prepayLeaseToken := token
        prepayLeaseUntil := some (now + lease)
        prepayAttempts := payment.prepayAttempts + 1
        lastError := none })

/-- `prepay_lease_token = $2` holds for no row when either side is `NULL`. -/
def holdsLease (payment : Payment) (token : Option String) : Bool :=
  token.isSome && payment.prepayLeaseToken == token

def finalizePaymentPrepay (db : Database) (id : Int) (token : Option String)
    (actionType : Option PaymentActionType) (actionPayload : String) :
    Option (Payment × Database) :=
  db.updatePayment id (fun payment => payment.status == .creating && holdsLease payment token)
    (fun payment =>
      { payment with
        status := .pending
        actionType := actionType
        actionPayload := some actionPayload
        prepayLeaseToken := none
        prepayLeaseUntil := none
        lastError := none })

def recordPaymentPrepayError (db : Database) (id : Int) (token lastError : Option String) :
    Option (Payment × Database) :=
  db.updatePayment id
    (fun payment =>
      (payment.status == .creating ||
        (payment.status == .closePending &&
          (payment.payChannel == "alipay:app" || payment.payChannel == "alipay:wap"))) &&
        holdsLease payment token)
    (fun payment =>
      { payment with lastError := lastError, prepayLeaseToken := none, prepayLeaseUntil := none })

/-! ### Refunds -/

def getOrderRefundByPaymentID (db : Database) (paymentId : Int) : Option OrderRefund :=
  db.refunds.rows.find? (fun refund => refund.paymentId == paymentId)

def createOrderRefund (db : Database) (row : OrderRefund) : Except Fault (OrderRefund × Database) := do
  require (∀ refund ∈ db.refunds.rows, refund.outRefundNo ≠ row.outRefundNo)
    (Fault.uniqueViolation "idx_order_refunds_out_refund_no")
  require ((db.getOrderRefundByPaymentID row.paymentId).isNone = true)
    (Fault.uniqueViolation "idx_order_refunds_payment_id")
  pure (db.refunds.inserted row, { db with refunds := db.refunds.insert row })

def recordOrderRefundError (db : Database) (now : Time) (id : Int) (lastError : String)
    (definitive : Bool) : Option (OrderRefund × Database) :=
  db.updateRefund id (fun refund => refund.status == .pending)
    (fun refund =>
      { refund with
        status := if definitive then .failed else refund.status
        lastError := lastError
        updatedAt := now })

def markOrderRefundSuccess (db : Database) (now : Time) (id paymentId : Int) :
    Option (OrderRefund × Database) :=
  db.updateRefund id (fun refund => refund.paymentId == paymentId)
    (fun refund => { refund with status := .success, lastError := "", updatedAt := now })

def confirmPaymentRefunded (db : Database) (id : Int) : Option (Payment × Database) :=
  db.updatePayment id (fun payment => payment.status.isSettled)
    (fun payment => { payment with status := .refunded })

def retryOrderRefund (db : Database) (now : Time) (id : Int) : Option (OrderRefund × Database) :=
  db.updateRefund id (fun refund => refund.status == .failed)
    (fun refund => { refund with status := .pending, lastError := "", updatedAt := now })

def sweptBefore (left right : OrderRefund) : Prop :=
  left.updatedAt < right.updatedAt ∨ (left.updatedAt = right.updatedAt ∧ left.id ≤ right.id)

instance (left right : OrderRefund) : Decidable (sweptBefore left right) :=
  inferInstanceAs (Decidable (_ ∨ _))

def listStalePendingRefunds (db : Database) (now : Time) (olderThan : Int) (limit : Nat) :
    List OrderRefund :=
  ((db.refunds.rows.filter (fun refund =>
    refund.status == .pending && decide (refund.updatedAt < now - olderThan))).insertionSort
      sweptBefore).take limit

/-! ### Failure evidence, audit rows and jobs -/

/-- A job id that already has a row only refreshes that row's texts. -/
def createPaymentReconciliationFailure (db : Database) (row : ReconciliationFailure) :
    Except Fault Database := do
  require ((db.payments.find? row.paymentId).isSome = true) Fault.foreignKeyViolation
  match row.riverJobId with
  | none => pure { db with failures := db.failures.insert row }
  | some jobId =>
      match db.failures.rows.find? (fun failure => failure.riverJobId == some jobId) with
      | none => pure { db with failures := db.failures.insert row }
      | some existing =>
          pure
            { db with
              failures := db.failures.update existing.id (fun failure =>
                { failure with
                  reason := row.reason
                  attempt := row.attempt
                  lastError := row.lastError }) }

def hasUnresolvedProviderRefund (db : Database) (paymentId : Int) : Bool :=
  db.failures.rows.any (fun failure =>
    failure.paymentId == paymentId && failure.reason == .providerSideRefund &&
      failure.resolvedAt.isNone)

def getReconciliationAction (db : Database) (paymentId : Int) (key : String) :
    Option ReconciliationAction :=
  db.reconciliationActions.rows.find?
    (fun action => action.paymentId == paymentId && action.idempotencyKey == key)

def createReconciliationAction (db : Database) (row : ReconciliationAction) :
    Except Fault (ReconciliationAction × Database) := do
  require ((db.getReconciliationAction row.paymentId row.idempotencyKey).isNone = true)
    (Fault.uniqueViolation "payment_reconciliation_actions_payment_id_idempotency_key_key")
  require (∀ action ∈ db.reconciliationActions.rows,
      ¬ (action.paymentId = row.paymentId ∧ action.toVersion = row.toVersion))
    (Fault.uniqueViolation "payment_reconciliation_actions_payment_id_to_version_key")
  pure (db.reconciliationActions.inserted row,
    { db with reconciliationActions := db.reconciliationActions.insert row })

def getOrderFulfillmentAction (db : Database) (orderId : Int) (key : String) :
    Option FulfillmentAction :=
  db.fulfillmentActions.rows.find?
    (fun action => action.orderId == orderId && action.idempotencyKey == key)

def createOrderFulfillmentAction (db : Database) (row : FulfillmentAction) :
    Except Fault (FulfillmentAction × Database) := do
  require (∀ action ∈ db.fulfillmentActions.rows,
      ¬ (action.orderId = row.orderId ∧ action.action = row.action))
    (Fault.uniqueViolation "order_fulfillment_actions_order_id_action_key")
  require ((db.getOrderFulfillmentAction row.orderId row.idempotencyKey).isNone = true)
    (Fault.uniqueViolation "order_fulfillment_actions_order_id_idempotency_key_key")
  pure (db.fulfillmentActions.inserted row,
    { db with fulfillmentActions := db.fulfillmentActions.insert row })

/-- River skips the insert while an unfinished job has the same unique
arguments, and returns that job. -/
def enqueue (db : Database) (args : JobArgs) (scheduledAt : Option Time) : Job × Database :=
  match db.jobs.rows.find? (fun job =>
      !job.finalized && decide (job.args.uniqueKey = args.uniqueKey)) with
  | some job => (job, db)
  | none =>
      let row : Job := { id := 0, args := args, scheduledAt := scheduledAt, finalized := false }
      (db.jobs.inserted row, { db with jobs := db.jobs.insert row })

/-! ### Notifications -/

def getPaymentNotification (db : Database) (id : Int) : Option PaymentNotification :=
  db.notifications.find? id

def getPaymentNotificationByEvent (db : Database) (provider : String) (event : Option String) :
    Option PaymentNotification :=
  db.notifications.rows.find? (fun row =>
    row.provider == provider && row.providerEventId == event && event.isSome)

def getPaymentNotificationByPayload (db : Database) (provider outTradeNo payloadHash : String) :
    Option PaymentNotification :=
  db.notifications.rows.find? (fun row =>
    row.provider == provider && row.outTradeNo == outTradeNo && row.payloadHash == payloadHash)

/-- `ON CONFLICT DO NOTHING` on either unique index. -/
def createPaymentNotification (db : Database) (row : PaymentNotification) :
    Option (PaymentNotification × Database) :=
  if (db.getPaymentNotificationByEvent row.provider row.providerEventId).isSome ||
      (db.getPaymentNotificationByPayload row.provider row.outTradeNo row.payloadHash).isSome then
    none
  else
    some (db.notifications.inserted row,
      { db with notifications := db.notifications.insert row })

def beginPaymentNotificationProcessing (db : Database) (id : Int) :
    Option (PaymentNotification × Database) :=
  db.updateNotification id (fun row => row.status != .processed)
    (fun row => { row with status := .processing, lastError := none })

def recordPaymentNotificationError (db : Database) (id : Int) (lastError : Option String) :
    Option (PaymentNotification × Database) :=
  db.updateNotification id (fun row => row.status == .processing)
    (fun row => { row with lastError := lastError })

def setPaymentNotificationRiverJob (db : Database) (id jobId : Int) :
    Option (PaymentNotification × Database) :=
  db.updateNotification id (fun row => row.status != .processed)
    (fun row => { row with riverJobId := some jobId })

def markPaymentNotificationProcessed (db : Database) (id : Int) :
    Option (PaymentNotification × Database) :=
  db.updateNotification id (fun row => row.status == .received || row.status == .processing)
    (fun row => { row with status := .processed, lastError := none })

def markPaymentNotificationFailed (db : Database) (id : Int) (lastError : Option String) :
    Option (PaymentNotification × Database) :=
  db.updateNotification id (fun row => row.status != .processed)
    (fun row => { row with status := .failed, lastError := lastError })

/-! ### What the guarded updates do -/

theorem updateOrder_eq_some {db result : Database} {id : Int} {guard : Order → Bool}
    {change : Order → Order} {changed : Order} :
    db.updateOrder id guard change = some (changed, result) ↔
      ∃ row, db.orders.find? id = some row ∧ guard row = true ∧
        changed = { change row with id := id } ∧
        result = { db with orders := db.orders.update id change } :=
  Table.map_updateWhen_eq_some_iff
    (fun table : Table _ => ({ db with orders := table } : Database))

theorem updatePayment_eq_some {db result : Database} {id : Int} {guard : Payment → Bool}
    {change : Payment → Payment} {changed : Payment} :
    db.updatePayment id guard change = some (changed, result) ↔
      ∃ row, db.payments.find? id = some row ∧ guard row = true ∧
        changed = { change row with id := id } ∧
        result = { db with payments := db.payments.update id change } :=
  Table.map_updateWhen_eq_some_iff
    (fun table : Table _ => ({ db with payments := table } : Database))

theorem updatePayment_eq_none {db : Database} {id : Int} {guard : Payment → Bool}
    {change : Payment → Payment} :
    db.updatePayment id guard change = none ↔
      ∀ row, db.payments.find? id = some row → guard row = false := by
  rw [updatePayment, Option.map_eq_none_iff, Table.updateWhen_eq_none_iff]

theorem updateRefund_eq_some {db result : Database} {id : Int} {guard : OrderRefund → Bool}
    {change : OrderRefund → OrderRefund} {changed : OrderRefund} :
    db.updateRefund id guard change = some (changed, result) ↔
      ∃ row, db.refunds.find? id = some row ∧ guard row = true ∧
        changed = { change row with id := id } ∧
        result = { db with refunds := db.refunds.update id change } :=
  Table.map_updateWhen_eq_some_iff
    (fun table : Table _ => ({ db with refunds := table } : Database))

theorem updateProductRow_eq_some {db result : Database} {id : Int} {guard : Product → Bool}
    {change : Product → Product} {changed : Product} :
    db.updateProductRow id guard change = some (changed, result) ↔
      ∃ row, db.products.find? id = some row ∧ guard row = true ∧
        changed = { change row with id := id } ∧
        result = { db with products := db.products.update id change } :=
  Table.map_updateWhen_eq_some_iff
    (fun table : Table _ => ({ db with products := table } : Database))

theorem updateNotification_eq_some {db result : Database} {id : Int}
    {guard : PaymentNotification → Bool} {change : PaymentNotification → PaymentNotification}
    {changed : PaymentNotification} :
    db.updateNotification id guard change = some (changed, result) ↔
      ∃ row, db.notifications.find? id = some row ∧ guard row = true ∧
        changed = { change row with id := id } ∧
        result = { db with notifications := db.notifications.update id change } :=
  Table.map_updateWhen_eq_some_iff
    (fun table : Table _ => ({ db with notifications := table } : Database))

theorem updateNotification_eq_none {db : Database} {id : Int}
    {guard : PaymentNotification → Bool} {change : PaymentNotification → PaymentNotification} :
    db.updateNotification id guard change = none ↔
      ∀ row, db.notifications.find? id = some row → guard row = false := by
  rw [updateNotification, Option.map_eq_none_iff, Table.updateWhen_eq_none_iff]

theorem enqueue_snd (db : Database) (args : JobArgs) (scheduledAt : Option Time) :
    ∃ jobs, (db.enqueue args scheduledAt).2 = { db with jobs := jobs } := by
  unfold enqueue
  split
  · exact ⟨db.jobs, rfl⟩
  · exact ⟨_, rfl⟩

theorem mem_listPaymentsByOrderForUpdate {db : Database} {orderId : Int} {payment : Payment} :
    payment ∈ db.listPaymentsByOrderForUpdate orderId ↔
      payment ∈ db.payments ∧ payment.orderId = orderId := by
  rw [listPaymentsByOrderForUpdate, List.mem_insertionSort, List.mem_filter]
  simp only [beq_iff_eq]
  exact Iff.rfl

end Database

end Mall
