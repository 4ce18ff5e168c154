/-
Order requests: what the usecase's `CreateOrder` does around its transactions.

A request makes up to three attempts, each a transaction of its own.  Inside an
attempt the lookup of the key and the writes are apart: other transactions may
commit in between, but none that waits for the same advisory lock.  The rows that
the writes depend on are locked from their reading to the commit, so the writes
count as one step.
-/

import Mall.Foundation.Decimal
import Mall.System

namespace Mall

open Relational Transactional

def errOrderShippingDecryptFailed :=
  Fault.internalServer "ORDER_SHIPPING_DECRYPT_FAILED" "cannot read order shipping information"

/-- What the usecase is built with, and the functions it takes from elsewhere. -/
structure OrderSettings where
  sha256 : String → String
  /-- `hashtextextended` with seed zero. -/
  hashText : String → Int
  decryptPhone : String → Option String
  paymentTimeout : Int

/-! ### Request hash -/

def encodeItem (item : OrderItemInput) : List Char :=
  "\x7b\"product_id\":".toList ++ Decimal.digits item.productID ++
    ",\"quantity\":".toList ++ Decimal.digits item.quantity ++ "\x7d".toList

def encodeItems : List OrderItemInput → List Char
  | [] => []
  | [item] => encodeItem item
  | item :: rest => encodeItem item ++ ',' :: encodeItems rest

def encodeOrderRequest (userID addressID : Int) (items : List OrderItemInput) : List Char :=
  "\x7b\"user_id\":".toList ++ Decimal.digits userID ++
    ",\"address_id\":".toList ++ Decimal.digits addressID ++
    ",\"items\":[".toList ++ encodeItems items ++ "]\x7d".toList

def OrderSettings.hashOrderRequest (settings : OrderSettings) (userID addressID : Int)
    (items : List OrderItemInput) : String :=
  settings.sha256 (String.ofList (encodeOrderRequest userID addressID items))

/-! ### One attempt -/

/-- The key of the advisory lock, held to the end of the transaction. -/
def OrderSettings.lockOrderIdempotency (settings : OrderSettings) (args : CreateOrderArgs) : Int :=
  settings.hashText ("order-idempotency:" ++ args.userID.repr ++ ":" ++ args.idempotencyKey)

def openOrder (args : CreateOrderArgs) (now : Time) (db : Database) :
    Except Fault (Order × Database) := do
  let _ ← found (db.lockUserForReference args.userID) errAddressNotFound
  let address ← found (db.getShippingAddressForSnapshot args.addressID args.userID)
    errAddressNotFound
  let (snapshots, total) ← snapshotItems db (sortItems args.items) 0
  require (¬ total ≤ 0) errOrderAmountInvalid
  let (order, stored) ← db.createOrderRow (newOrder args address total now)
  let reserved ← reserveItems order.id snapshots stored
  pure (order, (reserved.enqueue (.expireOrder order.id) (some order.expiresAt)).2)

/-- What the repository answers after the index on the key refused the order. -/
def recoverOrder (args : CreateOrderArgs) (db : Database) : Except Fault Order := do
  let existing ← found (db.getOrderByUserIdempotency args.userID args.idempotencyKey)
    errIdempotencyKeyConflict
  replayOrder args existing

/-- An order as the client sees it, with the phone number in clear. -/
structure OrderReply where
  order : Order
  receiverPhone : String

def OrderSettings.decryptShipping (settings : OrderSettings) (order : Order) :
    Except Fault OrderReply :=
  match settings.decryptPhone order.shipping.receiverPhoneEncrypt with
  | none => .error errOrderShippingDecryptFailed
  | some phone =>
      .ok
        { order := order
          receiverPhone := phone }

/-! ### Runs -/

def orderNoAttempts : Nat := 3

inductive OrderStage where
  | lookup
  /-- The lock is held and the lookup found nothing. -/
  | place
  /-- Rolled back because of the index on the key. -/
  | recover
deriving DecidableEq

structure OrderRun where
  request : CreateOrderReq
  args : CreateOrderArgs
  attempt : Nat
  stage : OrderStage

def CreateOrderReq.args (settings : OrderSettings) (orderNo : String) (key : String)
    (items : List OrderItemInput) (request : CreateOrderReq) : CreateOrderArgs :=
  { userID := request.userID
    addressID := request.addressID
    outTradeNo := orderNo
    currency := defaultCurrency
    items := items
    idempotencyKey := key
    requestHash := settings.hashOrderRequest request.userID request.addressID items
    paymentTimeout := settings.paymentTimeout }

def startOrder (settings : OrderSettings) (request : CreateOrderReq) (orderNo : String) :
    Except Fault OrderRun := do
  let (key, items) ← request.validate
  pure
    { request := request
      args := request.args settings orderNo key items
      attempt := 1
      stage := .lookup }

inductive OrderProgress where
  | going (run : OrderRun)
  | answered (answer : Except Fault OrderReply)

def OrderRun.collide (orderNo : String) (run : OrderRun) : OrderProgress :=
  if run.attempt < orderNoAttempts then
    .going
      { run with
        args := { run.args with outTradeNo := orderNo }
        attempt := run.attempt + 1
        stage := .lookup }
  else .answered (.error errOrderNoCollision)

/-- One stage of a run: how it goes on, and the state it leaves.  `orderNo` is what
the number generator returns next. -/
def OrderRun.advance (settings : OrderSettings) (now : Time) (orderNo : String) (run : OrderRun)
    (db : Database) : OrderProgress × Database :=
  match run.stage with
  | .lookup =>
      match db.getOrderByUserIdempotency run.args.userID run.args.idempotencyKey with
      | some existing =>
          (.answered (replayOrder run.args existing >>= settings.decryptShipping), db)
      | none => (.going { run with stage := .place }, db)
  | .place =>
      match openOrder run.args now db with
      | .ok (order, placed) => (.answered (settings.decryptShipping order), placed)
      | .error fault =>
          if fault = Fault.uniqueViolation "idx_orders_out_trade_no" then
            (run.collide orderNo, db)
          else if fault = Fault.uniqueViolation "idx_orders_user_idempotency" then
            (.going { run with stage := .recover }, db)
          else (.answered (.error fault), db)
  | .recover => (.answered (recoverOrder run.args db >>= settings.decryptShipping), db)

structure Placement where
  request : CreateOrderReq
  order : Order

def OrderRun.placement (now : Time) (run : OrderRun) (db : Database) : Option Placement :=
  match run.stage, openOrder run.args now db with
  | .place, .ok (order, _) =>
      some
        { request := run.request
          order := order }
  | _, _ => none

/-! ### The world -/

structure OrderWorld where
  db : Database
  runs : List OrderRun
  placed : List Placement

inductive OrderEvent where
  | operation (operation : Operation)
  | createOrder (request : CreateOrderReq) (orderNo : String)
  | advance (index : Nat) (now : Time) (orderNo : String)
  | crash (index : Nat)

/-- The run waits while another one holds its lock. -/
def OrderWorld.waits (settings : OrderSettings) (world : OrderWorld) (run : OrderRun) : Bool :=
  run.stage == .lookup && world.runs.any (fun other =>
    other.stage == .place &&
      settings.lockOrderIdempotency other.args == settings.lockOrderIdempotency run.args)

def OrderWorld.moves (settings : OrderSettings) (index : Nat) (world : OrderWorld) :
    Option OrderRun :=
  world.runs[index]?.filter (fun run => !world.waits settings run)

def OrderWorld.next (settings : OrderSettings) (event : OrderEvent) (world : OrderWorld) :
    OrderWorld :=
  match event with
  | .operation operation =>
      if operation.createsOrder then world
      else { world with db := Mall.next operation world.db }
  | .createOrder request orderNo =>
      match startOrder settings request orderNo with
      | .error _ => world
      | .ok run => { world with runs := world.runs ++ [run] }
  | .crash index => { world with runs := world.runs.eraseIdx index }
  | .advance index now orderNo =>
      match world.moves settings index with
      | none => world
      | some run =>
          let (progress, db) := run.advance settings now orderNo world.db
          { db := db
            runs := match progress with
              | .going later => world.runs.set index later
              | .answered _ => world.runs.eraseIdx index
            placed := (run.placement now world.db).toList ++ world.placed }

def OrderWorld.placement (settings : OrderSettings) (event : OrderEvent) (world : OrderWorld) :
    Option Placement :=
  match event with
  | .advance index now _ =>
      (world.moves settings index).bind (fun run => run.placement now world.db)
  | _ => none

def OrderWorld.answer (settings : OrderSettings) (event : OrderEvent) (world : OrderWorld) :
    Option (CreateOrderReq × Except Fault OrderReply) :=
  match event with
  | .createOrder request orderNo =>
      match startOrder settings request orderNo with
      | .error fault => some (request, .error fault)
      | .ok _ => none
  | .advance index now orderNo =>
      (world.moves settings index).bind (fun run =>
        match (run.advance settings now orderNo world.db).1 with
        | .going _ => none
        | .answered answer => some (run.request, answer))
  | _ => none

structure OrderWorld.Initial (world : OrderWorld) : Prop where
  db : Mall.Initial world.db
  noRuns : world.runs = []
  noPlacements : world.placed = []

abbrev OrderWorld.Reached (settings : OrderSettings) : OrderWorld → Prop :=
  Reachable OrderWorld.Initial (OrderWorld.next settings)

end Mall
