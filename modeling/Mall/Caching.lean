/-
The cached reads of products, order lists and payments, and the trigger that names
what a write makes stale.

A transaction is a list of row changes.  No statement moves an order to another user
or a payment to another order or number, so an update of either carries that as a
proof.  A load that finds no payment is an error and is not cached.
-/

import Mall.Catalogue
import Mall.Foundation.GenerationCache

namespace Mall

open Relational GenerationCache

/-! ### Keys -/

inductive KeyPart where
  | text (letters : String)
  | number (value : Int)
deriving DecidableEq

def KeyPart.print : KeyPart → List Char
  | .text letters => letters.toList
  | .number value => Decimal.digits value

def joinLetters (separator : Char) : List (List Char) → List Char
  | [] => []
  | [part] => part
  | part :: rest => part ++ separator :: joinLetters separator rest

def redisKey (parts : List KeyPart) : List Char :=
  joinLetters ':' (parts.map KeyPart.print)

/-- The cached reads.  A negative limit or offset is an error of the query. -/
inductive CacheKey where
  | product (id : Int)
  | products (limit offset : Nat)
  | productsByCategory (categoryID : Int) (limit offset : Nat)
  | ordersByUser (userID : Int) (limit offset : Nat)
  | ongoingOrdersByUser (userID : Int) (limit offset : Nat)
  | payment (id : Int)
  | latestPaymentByOrder (orderID : Int)
  | activePaymentByOrderMethod (orderID : Int) (method : String)
  | paymentByOutTradeNo (outTradeNo : String)
deriving DecidableEq

def CacheKey.generationKey : CacheKey → List Char
  | .product id => redisKey [.text "product", .number id, .text "gen"]
  | .products _ _ => "product:list:gen".toList
  | .productsByCategory categoryID _ _ =>
      redisKey [.text "product", .text "category", .number categoryID, .text "gen"]
  | .ordersByUser userID _ _ => redisKey [.text "order", .text "user", .number userID, .text "gen"]
  | .ongoingOrdersByUser userID _ _ =>
      redisKey [.text "order", .text "user", .text "ongoing", .number userID, .text "gen"]
  | .payment id => redisKey [.text "payment", .number id, .text "gen"]
  | .latestPaymentByOrder orderID =>
      redisKey [.text "payment", .text "order", .number orderID, .text "gen"]
  | .activePaymentByOrderMethod orderID _ =>
      redisKey [.text "payment", .text "order", .number orderID, .text "gen"]
  | .paymentByOutTradeNo outTradeNo =>
      redisKey [.text "payment", .text "out_trade_no", .text outTradeNo, .text "gen"]

def CacheKey.parts : CacheKey → Nat → List KeyPart
  | .product id, generation => [.text "product", .number id, .text "g", .number generation]
  | .products limit offset, generation =>
      [.text "product", .text "list", .number generation, .number limit, .number offset]
  | .productsByCategory categoryID limit offset, generation =>
      [.text "product", .text "category", .number categoryID, .number generation, .number limit,
        .number offset]
  | .ordersByUser userID limit offset, generation =>
      [.text "order", .text "user", .number userID, .number generation, .number limit,
        .number offset]
  | .ongoingOrdersByUser userID limit offset, generation =>
      [.text "order", .text "user", .text "ongoing", .number userID, .number generation,
        .number limit, .number offset]
  | .payment id, generation => [.text "payment", .number id, .text "g", .number generation]
  | .latestPaymentByOrder orderID, generation =>
      [.text "payment", .text "order", .number orderID, .text "g", .number generation]
  | .activePaymentByOrderMethod orderID method, generation =>
      [.text "payment", .text "order", .number orderID, .text "active", .text method, .text "g",
        .number generation]
  | .paymentByOutTradeNo outTradeNo, generation =>
      [.text "payment", .text "out_trade_no", .text outTradeNo, .text "g", .number generation]

def CacheKey.slot (key : CacheKey) (generation : Nat) : List Char :=
  redisKey (key.parts generation)

/-! ### Loads -/

/-- Rows stand for the objects that `toBizOrder` and `toBizPayment` copy them to. -/
inductive CachedValue where
  | product (value : Option BizProduct)
  | products (values : List BizProduct)
  | orders (values : List (Order × List OrderItem))
  | payment (value : Option Payment)

/-- The orders of a page are read before their items. -/
inductive HalfLoad where
  | value (value : CachedValue)
  | orders (rows : List Order)

/-- `LIMIT limit OFFSET offset`. -/
def pageOf {α : Type} (limit offset : Nat) (rows : List α) : List α :=
  (rows.drop offset).take limit

def Database.listProducts (db : Database) (limit offset : Nat) : List Product :=
  pageOf limit offset ((db.products.rows.filter (fun product =>
    product.deletedAt.isNone)).insertionSort (fun left right => right.id ≤ left.id))

def Database.listProductsByCategory (db : Database) (categoryID : Int) (limit offset : Nat) :
    List Product :=
  pageOf limit offset ((db.products.rows.filter (fun product =>
    product.categoryId == categoryID && product.status == .onShelf &&
      product.deletedAt.isNone)).insertionSort (fun left right => right.id ≤ left.id))

def Database.listOrdersByUser (db : Database) (userID : Int) (limit offset : Nat) : List Order :=
  pageOf limit offset ((db.orders.rows.filter (fun order =>
    order.userId == userID)).insertionSort (fun left right => right.id ≤ left.id))

def Database.listOngoingOrdersByUser (db : Database) (userID : Int) (limit offset : Nat) :
    List Order :=
  pageOf limit offset ((db.orders.rows.filter (fun order =>
    order.userId == userID && !order.isCompleted)).insertionSort
      (fun left right => right.id ≤ left.id))

/-- The items of one order in the answer of `ListOrderItemsByOrderIDs`. -/
def Database.listOrderItems (db : Database) (orderID : Int) : List OrderItem :=
  (db.orderItems.rows.filter (fun item => item.orderId == orderID)).insertionSort
    (fun left right => left.id ≤ right.id)

def Database.getLatestPaymentByOrder (db : Database) (orderID : Int) : Option Payment :=
  (db.listPaymentsByOrderForUpdate orderID).head?

def Database.getActivePaymentByOrderChannel (db : Database) (orderID : Int) (channel : String) :
    Option Payment :=
  (db.listPaymentsByOrderForUpdate orderID).find? (fun payment =>
    payment.payChannel == channel && payment.status.isActive)

def Database.getPaymentByOutTradeNo (db : Database) (outTradeNo : String) : Option Payment :=
  db.payments.rows.find? (fun payment => payment.outTradeNo == outTradeNo)

def CacheKey.load : CacheKey → Database → HalfLoad
  | .product id, db => .value (.product ((db.getProductForOrder id).map toBizProduct))
  | .products limit offset, db =>
      .value (.products ((db.listProducts limit offset).map toBizProduct))
  | .productsByCategory categoryID limit offset, db =>
      .value (.products ((db.listProductsByCategory categoryID limit offset).map toBizProduct))
  | .ordersByUser userID limit offset, db => .orders (db.listOrdersByUser userID limit offset)
  | .ongoingOrdersByUser userID limit offset, db =>
      .orders (db.listOngoingOrdersByUser userID limit offset)
  | .payment id, db => .value (.payment (db.getPayment id))
  | .latestPaymentByOrder orderID, db => .value (.payment (db.getLatestPaymentByOrder orderID))
  | .activePaymentByOrderMethod orderID method, db =>
      .value (.payment (db.getActivePaymentByOrderChannel orderID method))
  | .paymentByOutTradeNo outTradeNo, db =>
      .value (.payment (db.getPaymentByOutTradeNo outTradeNo))

def HalfLoad.finish (db : Database) : HalfLoad → CachedValue
  | .value loaded => loaded
  | .orders rows => .orders (rows.map (fun order => (order, db.listOrderItems order.id)))

def CachedValue.storable : CachedValue → Bool
  | .payment none => false
  | _ => true

/-! ### The trigger -/

/-- What a row trigger is told. -/
inductive RowEvent (α : Type) where
  | insert (new : α)
  | update (old new : α)
  | delete (old : α)

def RowEvent.currentRow {α : Type} : RowEvent α → α
  | .insert new => new
  | .update _ new => new
  | .delete old => old

/-- `enqueue_projection_invalidation` on `products`. -/
def productTargets (event : RowEvent Product) : List (List Char) :=
  let row := event.currentRow
  let category (id : Int) := "product:category:".toList ++ Decimal.digits id ++ ":gen".toList
  let moved :=
    match event with
    | .update old new => if old.categoryId ≠ new.categoryId then [category old.categoryId] else []
    | _ => []
  ["product:".toList ++ Decimal.digits row.id ++ ":gen".toList, "product:list:gen".toList,
    category row.categoryId] ++ moved

def orderTargets (event : RowEvent Order) : List (List Char) :=
  let row := event.currentRow
  ["order:user:".toList ++ Decimal.digits row.userId ++ ":gen".toList,
    "order:user:ongoing:".toList ++ Decimal.digits row.userId ++ ":gen".toList]

def paymentTargets (event : RowEvent Payment) : List (List Char) :=
  let row := event.currentRow
  ["payment:".toList ++ Decimal.digits row.id ++ ":gen".toList,
    "payment:order:".toList ++ Decimal.digits row.orderId ++ ":gen".toList,
    "payment:out_trade_no:".toList ++ row.outTradeNo.toList ++ ":gen".toList]

/-! ### Transactions -/

structure OrderUpdate where
  change : Order → Order
  user : ∀ order, (change order).userId = order.userId

structure PaymentUpdate where
  change : Payment → Payment
  order : ∀ payment, (change payment).orderId = payment.orderId
  outTradeNo : ∀ payment, (change payment).outTradeNo = payment.outTradeNo

/-- The items of an order are inserted with it and never change. -/
inductive RowChange where
  | insertProduct (product : Product)
  | updateProduct (id : Int) (change : Product → Product)
  | insertOrder (order : Order) (items : List OrderItem)
  | updateOrder (id : Int) (update : OrderUpdate)
  | insertPayment (payment : Payment)
  | updatePayment (id : Int) (update : PaymentUpdate)

def RowChange.apply (db : Database) : RowChange → Database
  | .insertProduct product => { db with products := db.products.insert product }
  | .updateProduct id change => { db with products := db.products.update id change }
  | .insertOrder order items =>
      { db with
        orders := db.orders.insert order
        orderItems := items.foldl (fun table item =>
          table.insert { item with orderId := db.orders.next }) db.orderItems }
  | .updateOrder id update => { db with orders := db.orders.update id update.change }
  | .insertPayment payment => { db with payments := db.payments.insert payment }
  | .updatePayment id update => { db with payments := db.payments.update id update.change }

def updateTargets {α : Type} [Identified α] (targets : RowEvent α → List (List Char))
    (table : Table α) (id : Int) (change : α → α) : List (List (List Char)) :=
  match table.find? id with
  | none => []
  | some old => [targets (.update old (Identified.assign id (change old)))]

def RowChange.targets (db : Database) : RowChange → List (List (List Char))
  | .insertProduct product => [productTargets (.insert (db.products.inserted product))]
  | .updateProduct id change => updateTargets productTargets db.products id change
  | .insertOrder order _ => [orderTargets (.insert (db.orders.inserted order))]
  | .updateOrder id update => updateTargets orderTargets db.orders id update.change
  | .insertPayment payment => [paymentTargets (.insert (db.payments.inserted payment))]
  | .updatePayment id update => updateTargets paymentTargets db.payments id update.change

def applyChanges (changes : List RowChange) (db : Database) : Database :=
  changes.foldl RowChange.apply db

def changeTargets : List RowChange → Database → List (List (List Char))
  | [], _ => []
  | change :: rest, db => change.targets db ++ changeTargets rest (change.apply db)

/-! ### The cache -/

def cacheScheme :
    Scheme CacheKey Database (List RowChange) CachedValue HalfLoad (List Char) (List Char) :=
  { generationKey := CacheKey.generationKey
    slot := CacheKey.slot
    first := CacheKey.load
    second := fun _ half db => half.finish db
    storable := CachedValue.storable
    apply := applyChanges
    targets := changeTargets }

abbrev CacheState := State CacheKey Database CachedValue HalfLoad (List Char) (List Char)

abbrev CacheEvent := Event CacheKey (List RowChange) (List Char) (List Char)

/-- The database may hold anything when the caches are empty. -/
abbrev CacheState.Reached : CacheState → Prop :=
  Transactional.Reachable State.Initial cacheScheme.next

end Mall
