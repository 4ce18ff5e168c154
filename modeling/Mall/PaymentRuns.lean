/-
Payment runs: what `PrepayForOrder` does around its transactions, and the workers
and requests that race with it.

A prepay run goes from stage to stage, and between two stages anything may happen:
another run, an expired lease, an expired order, a crash.  A worker reads its
payment, asks the provider and writes afterwards.  The world holds the database,
what is in flight, every call of `gateway.Prepay` and every result that was
returned.
-/

import Mall.Workers

namespace Mall

open Relational Transactional

def errPaymentMethodRequired :=
  Fault.badRequest "PAYMENT_METHOD_REQUIRED" "payment method is required"

def errOrderNotPayable := Fault.conflict "ORDER_NOT_PAYABLE" "order is not awaiting payment"

def errPaymentDescriptionTooLong :=
  Fault.badRequest "PAYMENT_DESCRIPTION_TOO_LONG" "payment description exceeds the channel limit"

def errOutTradeNoRequired := Fault.badRequest "OUT_TRADE_NO_REQUIRED" "out_trade_no is required"

def errOutTradeNoTooLong :=
  Fault.badRequest "OUT_TRADE_NO_TOO_LONG" "out_trade_no must be at most 64 characters"

def errOutTradeNoInvalid :=
  Fault.badRequest "OUT_TRADE_NO_INVALID" "out_trade_no contains invalid characters"

def errPaymentPrepayResponseInvalid :=
  Fault.internalServer "PAYMENT_PREPAY_RESPONSE_INVALID"
    "payment provider returned invalid prepay parameters"

structure PaymentPolicy where
  prepayLeaseDuration : Int
  pollInitialDelay : Int
  pollInterval : Int
  pollMaxCount : Int

/-- `NewConfiguredPaymentUsecase` replaces every setting that is not positive. -/
def PaymentPolicy.withDefaults (policy : PaymentPolicy) : PaymentPolicy :=
  { prepayLeaseDuration :=
      if policy.prepayLeaseDuration ≤ 0 then 30000000000 else policy.prepayLeaseDuration
    pollInitialDelay := if policy.pollInitialDelay ≤ 0 then 5000000000 else policy.pollInitialDelay
    pollInterval := if policy.pollInterval ≤ 0 then 10000000000 else policy.pollInterval
    pollMaxCount := if policy.pollMaxCount ≤ 0 then 30 else policy.pollMaxCount }

def defaultPolicy : PaymentPolicy :=
  { prepayLeaseDuration := 0
    pollInitialDelay := 0
    pollInterval := 0
    pollMaxCount := 0 }

/-! ### Actions -/

structure PaymentAction where
  type : PaymentActionType
  payload : String
deriving DecidableEq, Repr

def Payment.action (payment : Payment) : Option PaymentAction :=
  payment.actionType.map (fun type =>
    { type := type
      payload := payment.actionPayload.getD "" })

def Payment.issued (payment : Payment) : Bool :=
  payment.status == .pending && payment.actionType.isSome

structure PaymentPrepayRequest where
  method : PaymentMethod
  outTradeNo : String
  description : String
  amount : Int
  currency : String
  clientIP : String
  extension : List (String × String)
  expiresAt : Time

/-- An action type that is missing stands for an empty one. -/
structure PaymentPrepayResult where
  providerReference : String
  actionType : Option PaymentActionType
  payload : String

structure PrepayForOrderResult where
  payment : Payment
  providerReference : String
  action : Option PaymentAction

def Payment.prepaid (payment : Payment) : PrepayForOrderResult :=
  { payment := payment
    providerReference := payment.thirdPartyTxId.getD ""
    action := payment.action }

/-! ### Starting a prepay run -/

structure PrepayForOrderArgs where
  orderNo : String
  userID : Int
  method : PaymentMethod
  clientIP : String
  extension : List (String × String)
  description : String

structure PrepayOpening where
  requiresPoll : PaymentMethod → Except Fault Bool
  /-- What `GetOrderByOrderNo` returns.  A cache may serve it. -/
  loaded : Except Fault Order
  outTradeNo : String

def maxPaymentDescriptionBytes : Nat := 127

def outTradeNoLetter (letter : Char) : Bool :=
  ('A' ≤ letter && letter ≤ 'Z') || ('a' ≤ letter && letter ≤ 'z') ||
    ('0' ≤ letter && letter ≤ '9') || letter == '_' || letter == '-'

def validateOutTradeNo (value : String) : Except Fault Unit := do
  require (value ≠ "") errOutTradeNoRequired
  require (¬ value.utf8ByteSize > 64) errOutTradeNoTooLong
  require (value.toList.all outTradeNoLetter = true) errOutTradeNoInvalid

def prepayDescription (order : Order) (description : String) : String :=
  if trimSpace description = "" then "Order " ++ order.outTradeNo else trimSpace description

/-- What a run of `PrepayForOrder` does next. -/
inductive PrepayStage where
  | create (outTradeNo : String)
  | claim (payment : Payment)
  /-- The lease was not given; before the payment is read again. -/
  | reclaim (payment : Payment)
  | call (payment : Payment) (token : String)
  | finalize (payment : Payment) (token : String) (prepay : PaymentPrepayResult)
  /-- The activation met a lost lease; before the payment is read again. -/
  | reread (payment : Payment) (token : String) (prepay : PaymentPrepayResult)
  | record (payment : Payment) (token : String) (cause : Fault)

structure PrepayRun where
  args : PrepayForOrderArgs
  method : PaymentMethod
  requiresPoll : Bool
  order : Order
  description : String
  stage : PrepayStage

def startPrepay (opening : PrepayOpening) (args : PrepayForOrderArgs) : Except Fault PrepayRun := do
  let method := args.method.normalize
  require (method.string ≠ "") errPaymentMethodRequired
  let requiresPoll ← opening.requiresPoll method
  let order ← opening.loaded
  require (¬ (args.userID ≤ 0 ∨ order.userId ≠ args.userID)) errOrderNotFound
  require (order.status = .pendingPayment) errOrderNotPayable
  let description := prepayDescription order args.description
  require (¬ description.utf8ByteSize > maxPaymentDescriptionBytes) errPaymentDescriptionTooLong
  validateOutTradeNo opening.outTradeNo
  pure
    { args := args
      method := method
      requiresPoll := requiresPoll
      order := order
      description := description
      stage := .create opening.outTradeNo }

/-! ### Stages -/

/-- What one stage meets outside the database. -/
structure PrepaySurroundings where
  clock : Clock
  token : String
  /-- A statement or transaction that fails for a reason outside the database
  model. -/
  outage : Option Fault
  /-- The process dies, or its answer gets lost, after the stage took effect. -/
  dies : Bool
  prepay : Except Fault (Option PaymentPrepayResult)
  errorText : Fault → String

def PrepaySurroundings.transact {α : Type} (around : PrepaySurroundings) (body : Except Fault α) :
    Except Fault α :=
  match around.outage with
  | none => body
  | some fault => .error fault

def PrepayRun.createArgs (run : PrepayRun) (outTradeNo : String) : CreatePaymentArgs :=
  { orderID := run.order.id
    userID := run.order.userId
    merchantID := 0
    amount := run.order.totalAmountMinor
    currency := run.order.currency
    method := run.method.string
    outTradeNo := outTradeNo }

def PrepayRun.request (run : PrepayRun) (payment : Payment) : PaymentPrepayRequest :=
  { method := run.method
    outTradeNo := payment.outTradeNo
    description := run.description
    amount := run.order.totalAmountMinor
    currency := run.order.currency
    clientIP := run.args.clientIP
    extension := run.args.extension
    expiresAt := run.order.expiresAt }

def PrepayRun.poll (policy : PaymentPolicy) (clock : Clock) (run : PrepayRun) (paymentID : Int) :
    Option (CheckPayArgs × Option Time) :=
  if run.requiresPoll then
    some (normalizeCheckPayArgs
      { confirmUnissued := false
        reconciliationVersion := 0
        paymentID := paymentID
        provider := run.method.provider
        notificationID := 0
        trigger := "prepay"
        pollCount := 0
        maxPolls := policy.pollMaxCount
        pollIntervalSeconds := policy.pollInterval / 1000000000
        orderExpiresAt := some run.order.expiresAt }, some (clock.process + policy.pollInitialDelay))
  else none

def enqueuePoll (poll : Option (CheckPayArgs × Option Time)) (db : Database) : Database :=
  match poll with
  | none => db
  | some (args, scheduledAt) => (db.enqueue (.checkPay args) scheduledAt).2

/-- The second look after a lease that was not given. -/
def reloadClaim (now : Time) (id : Int) (db : Database) : Except Fault Payment := do
  let current ← found (db.getPayment id) Fault.noRows
  if current.issued then pure current
  else if current.status = .creating ∧
      (current.prepayLeaseUntil.map (fun deadline => decide (now < deadline))) = some true then
    .error errPaymentPrepayInProgress
  else .error errPaymentStateConflict

/-- The second look after an activation that met a lost lease. -/
def reloadFinalized (id : Int) (db : Database) : Except Fault Payment := do
  let current ← found (db.getPayment id) Fault.noRows
  require (current.issued = true) errPaymentStateConflict
  pure current

inductive PrepayProgress where
  | going (stage : PrepayStage)
  | answered (answer : Except Fault PrepayForOrderResult)

def claimProgress (payment : Payment) (token : String) : PrepayProgress :=
  if payment.issued then .answered (.ok payment.prepaid) else .going (.call payment token)

def PaymentPrepayResult.usable (prepay : PaymentPrepayResult) : Bool :=
  prepay.actionType.isSome && prepay.payload != ""

def gatewayProgress (payment : Payment) (token : String) :
    Except Fault (Option PaymentPrepayResult) → PrepayStage
  | .error fault => .record payment token fault
  | .ok none => .record payment token errPaymentPrepayResponseInvalid
  | .ok (some prepay) =>
      if prepay.usable then .finalize payment token prepay
      else .record payment token errPaymentPrepayResponseInvalid

def activatedAnswer (payment : Payment) (prepay : PaymentPrepayResult) : PrepayForOrderResult :=
  { payment := payment
    providerReference := prepay.providerReference
    action := payment.action }

def PrepayRun.advance (policy : PaymentPolicy) (around : PrepaySurroundings) (run : PrepayRun)
    (db : Database) : PrepayProgress × Database :=
  match run.stage with
  | .create outTradeNo =>
      match around.transact (createPayment (run.createArgs outTradeNo) around.clock.database db) with
      | .error fault => (.answered (.error fault), db)
      | .ok (payment, created) =>
          if payment.issued then (.answered (.ok payment.prepaid), created)
          else if payment.status = .creating then (.going (.claim payment), created)
          else (.answered (.error errPaymentStateConflict), created)
  | .claim payment =>
      match around.transact (.ok (db.claimPaymentPrepay around.clock.database payment.id
          (nullable around.token) policy.prepayLeaseDuration)) with
      | .error fault => (.answered (.error fault), db)
      | .ok none => (.going (.reclaim payment), db)
      | .ok (some (claimed, leased)) => (claimProgress claimed around.token, leased)
  | .reclaim payment =>
      match around.transact (reloadClaim around.clock.process payment.id db) with
      | .error fault => (.answered (.error fault), db)
      | .ok current => (claimProgress current around.token, db)
  | .call payment token => (.going (gatewayProgress payment token around.prepay), db)
  | .finalize payment token prepay =>
      match around.transact (.ok (db.finalizePaymentPrepay payment.id (nullable token)
          prepay.actionType prepay.payload)) with
      | .error fault => (.going (.record payment token fault), db)
      | .ok none => (.going (.reread payment token prepay), db)
      | .ok (some (activated, stored)) =>
          (.answered (.ok (activatedAnswer activated prepay)),
            enqueuePoll (run.poll policy around.clock activated.id) stored)
  | .reread payment token prepay =>
      match around.transact (reloadFinalized payment.id db) with
      | .error fault => (.going (.record payment token fault), db)
      | .ok current =>
          (.answered (.ok (activatedAnswer current prepay)),
            enqueuePoll (run.poll policy around.clock current.id) db)
  | .record payment token cause =>
      (.answered (.error cause),
        match around.outage with
        | none => recordPaymentPrepayError payment.id token (around.errorText cause) db
        | some _ => db)

structure PrepayCall where
  paymentID : Int
  request : PaymentPrepayRequest

def PrepayRun.call (run : PrepayRun) : Option PrepayCall :=
  match run.stage with
  | .call payment _ =>
      some
        { paymentID := payment.id
          request := run.request payment }
  | _ => none

/-! ### Workers and requests -/

/-- What a write rests on. -/
inductive Ground where
  /-- The provider reported the state, or confirmed it on request. -/
  | provider (state : TradeState)
  /-- The provider has no record of the trade. -/
  | absence (decode : String → Option SignedPaymentPayload) (queryStarted : Time)
  | bookkeeping

structure PendingWrite where
  write : WorkerWrite
  ground : Ground

def WorkerWrite.ground : WorkerWrite → Ground
  | .report _ answer | .conclude _ answer => .provider answer.tradeState
  | _ => .bookkeeping

def WorkerWrite.grounded (write : WorkerWrite) : PendingWrite :=
  { write := write
    ground := write.ground }

/-- Whatever a close worker writes after the provider denied the trade rests on that
denial. -/
def CloseSurroundings.ground (around : CloseSurroundings) (write : WorkerWrite) : Ground :=
  match around.query with
  | .error _ => .absence around.decode around.queryStarted
  | .ok _ => write.ground

def closePayWrites (around : CloseSurroundings) (args : ClosePayArgs) (payment : Payment) :
    List PendingWrite :=
  (closePayWork around args payment).toList.map (fun write =>
    { write := write
      ground := around.ground write })

structure RequestSurroundings where
  loaded : Except Fault (Option Payment)
  query : Except Fault (Option PaymentQueryResult)
  supportsClose : PaymentMethod → Except Fault Bool
  marked : Except Fault Unit
  close : Except Fault (Option PaymentCloseResult)
  /-- The query after the provider refused to close. -/
  requery : Except Fault (Option PaymentQueryResult)

def authorizedByOutTradeNo (around : RequestSurroundings) (outTradeNo : String) (userID : Int) :
    Except Fault Payment := do
  require (¬ (outTradeNo = "" ∨ userID ≤ 0)) errPaymentNotFound
  let loaded ← around.loaded
  let payment ← found loaded errPaymentNotFound
  require (payment.userId = userID) errPaymentNotFound
  pure payment

def requestCheck (payment : Payment) (method : PaymentMethod) (trigger : String) : CheckPayArgs :=
  { confirmUnissued := false
    reconciliationVersion := 0
    paymentID := payment.id
    provider := method.provider
    notificationID := 0
    trigger := trigger
    pollCount := 0
    maxPolls := 0
    pollIntervalSeconds := 0
    orderExpiresAt := none }

def queryPayment (around : RequestSurroundings) (outTradeNo : String) (userID : Int) :
    List WorkerWrite :=
  match authorizedByOutTradeNo around outTradeNo userID with
  | .error _ => []
  | .ok payment =>
      match parsePaymentMethod payment.payChannel, around.query with
      | some method, .ok (some answer) =>
          if answer.tradeState.isTerminal then
            [.report (requestCheck payment method "api_query") answer]
          else []
      | _, _ => []

def closeAnswered (around : RequestSurroundings) (method : PaymentMethod) (payment : Payment) :
    List WorkerWrite :=
  let check := requestCheck payment method "api_close"
  match around.close with
  | .error fault =>
      if fault = errProviderTradeStateConflict then
        match around.requery with
        | .ok (some answer) => if answer.tradeState.isTerminal then [.report check answer] else []
        | _ => []
      else []
  | .ok none => []
  | .ok (some closed) =>
      if closed.success then
        [.conclude check (closedAnswer method payment closed.transactionID)]
      else []

/-- What `ClosePayment` writes, the handover to closing first. -/
def closePayment (around : RequestSurroundings) (outTradeNo : String) (userID : Int) :
    List WorkerWrite :=
  match authorizedByOutTradeNo around outTradeNo userID with
  | .error _ => []
  | .ok payment =>
      match parsePaymentMethod payment.payChannel with
      | none => []
      | some method =>
          if around.supportsClose method = .ok true ∧
              (payment.status = .pending ∨ payment.status = .closePending) then
            .markPayClosePending (requestCheck payment method "api_close") ::
              match around.marked with
              | .error _ => []
              | .ok _ => closeAnswered around method payment
          else []

/-! ### The world -/

/-- `ApplyPayQuery` is called by workers and requests that hold an answer. -/
def Operation.appliesAnswer : Operation → Bool
  | .applyPayQuery .. => true
  | _ => false

structure Reading where
  job : JobArgs
  payment : Payment

def Reading.writes (close : CloseSurroundings) (check : CheckSurroundings) (reading : Reading) :
    List PendingWrite :=
  match reading.job with
  | .closePay args => closePayWrites close args reading.payment
  | .checkPay args => (checkPayWork check args reading.payment).map WorkerWrite.grounded
  | .expireOrder _ => []

def JobArgs.reads : JobArgs → Option Int
  | .closePay args => some args.paymentID
  | .checkPay args => some args.paymentID
  | .expireOrder _ => none

structure PaymentWorld where
  db : Database
  prepays : List PrepayRun
  readings : List Reading
  pending : List (List PendingWrite)
  calls : List PrepayCall
  returned : List PrepayForOrderResult

inductive PaymentEvent where
  | operation (operation : Operation) (other : operation.appliesAnswer = false)
  | prepayForOrder (args : PrepayForOrderArgs) (opening : PrepayOpening)
  | advance (index : Nat) (around : PrepaySurroundings)
  | crash (index : Nat)
  | read (job : JobArgs)
  | decide (index : Nat) (close : CloseSurroundings) (check : CheckSurroundings)
  | queryPayment (outTradeNo : String) (userID : Int) (around : RequestSurroundings)
  | closePayment (outTradeNo : String) (userID : Int) (around : RequestSurroundings)
  | write (index : Nat) (clock : Clock)
  | abandon (index : Nat)

def PaymentWorld.await (writes : List PendingWrite) (world : PaymentWorld) : PaymentWorld :=
  { world with pending := world.pending ++ [writes] }

def PaymentWorld.lands (event : PaymentEvent) (world : PaymentWorld) : Option PendingWrite :=
  match event with
  | .write index _ => world.pending[index]?.bind List.head?
  | _ => none

def PrepayProgress.stage (around : PrepaySurroundings) : PrepayProgress → Option PrepayStage
  | .going stage => if around.dies then none else some stage
  | .answered _ => none

def PrepayProgress.result (around : PrepaySurroundings) :
    PrepayProgress → Option PrepayForOrderResult
  | .answered (.ok result) => if around.dies then none else some result
  | _ => none

def PaymentWorld.start (started : Except Fault PrepayRun) (world : PaymentWorld) : PaymentWorld :=
  match started with
  | .error _ => world
  | .ok run => { world with prepays := world.prepays ++ [run] }

def PaymentWorld.proceed (index : Nat) (around : PrepaySurroundings) (run : PrepayRun)
    (progress : PrepayProgress) (db : Database) (world : PaymentWorld) : PaymentWorld :=
  { world with
    db := db
    prepays := match progress.stage around with
      | some stage => world.prepays.set index { run with stage := stage }
      | none => world.prepays.eraseIdx index
    calls := run.call.toList ++ world.calls
    returned := (progress.result around).toList ++ world.returned }

def PaymentWorld.read (job : JobArgs) (world : PaymentWorld) : PaymentWorld :=
  match job.reads.bind world.db.getPayment with
  | none => world
  | some payment =>
      { world with
        readings := world.readings ++ [{ job := job, payment := payment }] }

def PaymentWorld.land (index : Nat) (clock : Clock) (writes : List PendingWrite)
    (world : PaymentWorld) : PaymentWorld :=
  match writes with
  | [] => world
  | first :: rest =>
      { world with
        db := first.write.perform clock world.db
        pending := world.pending.set index rest }

def PaymentWorld.next (policy : PaymentPolicy) (event : PaymentEvent) (world : PaymentWorld) :
    PaymentWorld :=
  match event with
  | .operation operation _ => { world with db := Mall.next operation world.db }
  | .prepayForOrder args opening => world.start (startPrepay opening args)
  | .advance index around =>
      match world.prepays[index]? with
      | none => world
      | some run =>
          let after := run.advance policy.withDefaults around world.db
          world.proceed index around run after.1 after.2
  | .crash index => { world with prepays := world.prepays.eraseIdx index }
  | .read job => world.read job
  | .decide index close check =>
      match world.readings[index]? with
      | none => world
      | some reading =>
          { world with
            readings := world.readings.eraseIdx index
            pending := world.pending ++ [reading.writes close check] }
  | .queryPayment outTradeNo userID around =>
      world.await ((Mall.queryPayment around outTradeNo userID).map WorkerWrite.grounded)
  | .closePayment outTradeNo userID around =>
      world.await ((Mall.closePayment around outTradeNo userID).map WorkerWrite.grounded)
  | .write index clock =>
      match world.pending[index]? with
      | none => world
      | some writes => world.land index clock writes
  | .abandon index => { world with pending := world.pending.eraseIdx index }

structure PaymentWorld.Initial (world : PaymentWorld) : Prop where
  db : Mall.Initial world.db
  noPrepays : world.prepays = []
  noReadings : world.readings = []
  noPending : world.pending = []
  noCalls : world.calls = []
  noReturned : world.returned = []

abbrev PaymentWorld.Reached (policy : PaymentPolicy) : PaymentWorld → Prop :=
  Reachable PaymentWorld.Initial (PaymentWorld.next policy)

end Mall
