/-
The catalogue, the stock ledger and checkout.

Products are edited, adjusted and sold here.  `createOrder` is the only
transaction that takes stock for an order.
-/

import Mall.Database
import Mall.Decisions

namespace Mall

open Relational Transactional

/-! ### Product repository -/

structure ProductInput where
  categoryID : Int
  name : String
  price : ℚ
  discount : ℚ
  coverImage : String

def createProduct (input : ProductInput) (stock : Int) (status : ProductStatus) (db : Database) :
    Except Fault (Product × Database) := do
  productDiscount input.discount
  let minor ← productPriceMinor input.price
  db.createProductRow
    { id := 0
      categoryId := input.categoryID
      name := input.name
      priceMinor := minor
      discount := input.discount
      stock := stock
      status := status
      coverImage := input.coverImage
      deletedAt := none }

def updateProduct (id : Int) (input : ProductInput) (db : Database) :
    Except Fault (Product × Database) := do
  productDiscount input.discount
  let minor ← productPriceMinor input.price
  let _ ← found (db.getProductForOrder id) Fault.noRows
  found (db.updateProduct id input.categoryID input.name minor input.discount input.coverImage)
    Fault.noRows

def updateProductStatus (id : Int) (status : ProductStatus) (db : Database) :
    Except Fault (Product × Database) := do
  let _ ← found (db.getProductForOrder id) errProductNotFound
  found (db.updateProductStatus id status) errProductNotFound

def softDeleteProduct (now : Time) (id : Int) (db : Database) : Except Fault Database := do
  let _ ← found (db.getProductForOrder id) Fault.noRows
  pure (db.softDeleteProduct now id)

def adjustStock (input : StockAdjustmentInput) (db : Database) :
    Except Fault (StockAdjustment × Database) := do
  input.validate
  let product ← found (db.getProductForOrder input.productID) errProductNotFound
  match db.getStockAdjustment input.productID input.idempotencyKey with
  | some adjustment =>
      require (adjustment.actorId = input.actorID ∧ adjustment.delta = input.delta ∧
        adjustment.reason = input.reason) errIdempotencyKeyConflict
      pure (adjustment, db)
  | none =>
      let reserved := db.getRestorableProductStock input.productID
      let balance := product.stock + input.delta
      require (¬ (balance < 0 ∨ reserved > maxInt32 - balance)) errStockAdjustmentConflict
      let (updated, adjusted) ← db.adjustProductStock input.productID input.delta
      adjusted.createStockAdjustment
        { id := 0
          productId := input.productID
          actorId := input.actorID
          delta := input.delta
          reason := input.reason
          idempotencyKey := input.idempotencyKey
          resultingStock := updated.stock }

/-! ### Order requests -/

structure OrderItemInput where
  productID : Int
  quantity : Int
deriving DecidableEq

structure CreateOrderReq where
  userID : Int
  addressID : Int
  items : List OrderItemInput
  idempotencyKey : String

def defaultCurrency : String := "CNY"

def maxOrderItems : Nat := 50

def maxOrderItemQuantity : Int := 999

def validateItems : List OrderItemInput → List Int → Except Fault Unit
  | [], _ => .ok ()
  | item :: rest, seen => do
      require (¬ item.productID ≤ 0) errOrderInputInvalid
      require (¬ (item.quantity ≤ 0 ∨ item.quantity > maxOrderItemQuantity)) errOrderQuantityInvalid
      require (item.productID ∉ seen) errDuplicateOrderItem
      validateItems rest (item.productID :: seen)

def sortItems (items : List OrderItemInput) : List OrderItemInput :=
  items.insertionSort (fun left right => left.productID ≤ right.productID)

/-- The trimmed key and the sorted items of an acceptable request. -/
def CreateOrderReq.validate (request : CreateOrderReq) :
    Except Fault (String × List OrderItemInput) := do
  require (¬ (request.userID ≤ 0 ∨ request.addressID ≤ 0 ∨ request.items = []))
    errOrderInputInvalid
  let key := trimSpace request.idempotencyKey
  require (key ≠ "") errIdempotencyKeyRequired
  require (¬ (key.utf8ByteSize < 8 ∨ key.utf8ByteSize > 64)) errIdempotencyKeyInvalid
  require (¬ request.items.length > maxOrderItems) errOrderTooManyItems
  validateItems request.items []
  pure (key, sortItems request.items)

structure CreateOrderArgs where
  userID : Int
  addressID : Int
  outTradeNo : String
  currency : String
  items : List OrderItemInput
  idempotencyKey : String
  requestHash : String
  paymentTimeout : Int

/-! ### Order creation -/

structure ItemSnapshot where
  input : OrderItemInput
  product : Product
  unitPrice : Int

/-- The pricing loop: every product is read and charged before anything is
written. -/
def snapshotItems (db : Database) :
    List OrderItemInput → Int → Except Fault (List ItemSnapshot × Int)
  | [], total => .ok ([], total)
  | item :: rest, total => do
      let product ← found (db.getProductForOrder item.productID) errProductNotFound
      require (product.status = .onShelf ∧ item.quantity ≤ product.stock) errInsufficientStock
      let unitPrice ← effectivePriceMinor product.priceMinor product.discount
      let line := multiplyMoney unitPrice item.quantity
      require (¬ (line.2 = true ∨ total > wrap64 (maxInt64 - line.1)))
        (Fault.plain "order total overflow")
      let (snapshots, final) ← snapshotItems db rest (wrap64 (total + line.1))
      pure ({ input := item, product := product, unitPrice := unitPrice } :: snapshots, final)

def ItemSnapshot.row (snapshot : ItemSnapshot) (orderID : Int) : OrderItem :=
  { id := 0
    orderId := orderID
    productId := snapshot.input.productID
    quantity := snapshot.input.quantity
    unitPriceMinor := snapshot.unitPrice
    productNameSnapshot := snapshot.product.name
    coverImageSnapshot := snapshot.product.coverImage }

def reserveItems (orderID : Int) : List ItemSnapshot → Database → Except Fault Database
  | [], db => .ok db
  | snapshot :: rest, db => do
      let (_, reduced) ← found
        (db.decrProductStock snapshot.input.productID snapshot.input.quantity) errInsufficientStock
      reserveItems orderID rest (reduced.createOrderItem (snapshot.row orderID))

def replayOrder (args : CreateOrderArgs) (existing : Order) : Except Fault Order := do
  require (existing.requestHash = args.requestHash) errIdempotencyKeyConflict
  require (existing.status ≠ .cancelled) errIdempotencyKeyReused
  pure existing

def newOrder (args : CreateOrderArgs) (address : ShippingAddress) (total : Int) (now : Time) :
    Order :=
  { id := 0
    userId := args.userID
    addressId := args.addressID
    shipping :=
      { receiverName := address.receiverName
        receiverPhoneEncrypt := address.receiverPhoneEncrypt
        province := address.province
        city := address.city
        district := address.district
        detailAddress := address.detailAddress }
    paidPaymentId := none
    totalAmountMinor := total
    currency := args.currency
    status := .pendingPayment
    isCompleted := false
    outTradeNo := args.outTradeNo
    idempotencyKey := args.idempotencyKey
    requestHash := args.requestHash
    expiresAt := now +
      (if args.paymentTimeout ≤ 0 then 30 * 60 * 1000000000 else args.paymentTimeout) }

/-- The body of the `CreateOrder` transaction. -/
def placeOrder (args : CreateOrderArgs) (now : Time) (db : Database) :
    Except Fault (Order × Database) :=
  match db.getOrderByUserIdempotency args.userID args.idempotencyKey with
  | some existing => do
      let replayed ← replayOrder args existing
      pure (replayed, db)
  | none => do
      let _ ← found (db.lockUserForReference args.userID) errAddressNotFound
      let address ← found (db.getShippingAddressForSnapshot args.addressID args.userID)
        errAddressNotFound
      let (snapshots, total) ← snapshotItems db (sortItems args.items) 0
      require (¬ total ≤ 0) errOrderAmountInvalid
      let (order, stored) ← db.createOrderRow (newOrder args address total now)
      let reserved ← reserveItems order.id snapshots stored
      pure (order, (reserved.enqueue (.expireOrder order.id) (some order.expiresAt)).2)

/-- `OrderRepo.CreateOrder`, with the handling of the two unique indexes after
the rollback. -/
def createOrder (args : CreateOrderArgs) (now : Time) (db : Database) :
    Except Fault (Order × Database) :=
  match placeOrder args now db with
  | .ok result => .ok result
  | .error fault =>
      if fault = Fault.uniqueViolation "idx_orders_out_trade_no" then .error errOrderNoCollision
      else if fault = Fault.uniqueViolation "idx_orders_user_idempotency" then do
        let existing ← found (db.getOrderByUserIdempotency args.userID args.idempotencyKey)
          errIdempotencyKeyConflict
        let replayed ← replayOrder args existing
        pure (replayed, db)
      else .error fault

/-- One attempt of the usecase's `CreateOrder`.  A collision of the order number
ends the attempt; the next attempt is a transaction of its own with a fresh
number.  `digest` stands for the SHA-256 of the encoded request. -/
def submitOrder (digest : Int → Int → List OrderItemInput → String) (orderNo : String)
    (paymentTimeout : Int) (now : Time) (request : CreateOrderReq) (db : Database) :
    Except Fault (Order × Database) := do
  let (key, items) ← request.validate
  createOrder
    { userID := request.userID
      addressID := request.addressID
      outTradeNo := orderNo
      currency := defaultCurrency
      items := items
      idempotencyKey := key
      requestHash := digest request.userID request.addressID items
      paymentTimeout := paymentTimeout } now db

end Mall
