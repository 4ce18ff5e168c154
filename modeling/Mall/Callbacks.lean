/-
Callbacks: what becomes of a verified provider notification.

`HandleNotification` stores a notification together with the check it asks for, and
a worker runs that check, if need be many times.  A delivery and a worker both go
from stage to stage, and between two stages anything may happen: another delivery
of the same event, another transaction, a crash.  The world holds the database, the
deliveries in flight and the runs of check jobs, at most one run for each job.
-/

import Mall.PaymentRuns

namespace Mall

open Relational Transactional

def errPaymentNotificationProviderMismatch :=
  Fault.badRequest "PAYMENT_NOTIFICATION_PROVIDER_MISMATCH"
    "notification provider does not match payment"

/-! ### Deliveries -/

structure VerifiedNotification where
  input : NotificationInput
  amount : Int
  currency : String

/-- What `HandleNotification` does next. -/
inductive DeliveryStage where
  /-- The amount or the currency differs; before `MarkReconciliationRequired`. -/
  | flag (failure : FailureInput)
  | store (input : NotificationInput) (args : CheckPayArgs)
  /-- The row of an earlier delivery was read and is not processed; before its check is
  queued. -/
  | queue (args : CheckPayArgs)

def callbackFailure (notification : VerifiedNotification) (method : PaymentMethod)
    (payment : Payment) : FailureInput :=
  { paymentID := payment.id
    notificationID := 0
    provider := method.provider
    reason := some (if notification.amount = payment.amountMinor then .callbackCurrencyMismatch
      else .callbackAmountMismatch)
    riverJobID := none
    attempt := 1
    lastError := "verified payment notification does not match persisted payment" }

def callbackCheck (policy : PaymentPolicy) (method : PaymentMethod) (payment : Payment) :
    CheckPayArgs :=
  { confirmUnissued := false
    reconciliationVersion := 0
    paymentID := payment.id
    provider := method.provider
    notificationID := 0
    trigger := "callback"
    pollCount := 0
    maxPolls := policy.pollMaxCount
    pollIntervalSeconds := policy.pollInterval / 1000000000
    orderExpiresAt := none }

/-- `HandleNotification` after it read the payment of the trade. -/
def handleNotification (policy : PaymentPolicy) (notification : VerifiedNotification)
    (payment : Payment) : Except Fault DeliveryStage := do
  let method ← found (parsePaymentMethod payment.payChannel) errPaymentMethodInvalid
  require (method.provider = toLower notification.input.provider)
    errPaymentNotificationProviderMismatch
  if notification.amount ≠ payment.amountMinor ∨
      toUpper (trimSpace notification.currency) ≠ toUpper (trimSpace payment.currency) then
    pure (.flag (callbackFailure notification method payment))
  else pure (.store notification.input (callbackCheck policy method payment))

def queueNotificationCheck (args : CheckPayArgs) (db : Database) : Database :=
  let queued := db.enqueue (.checkPay args) none
  ((queued.2.setPaymentNotificationRiverJob args.notificationID queued.1.id).map Prod.snd).getD
    queued.2

def NotificationInput.matches (input : NotificationInput) (row : PaymentNotification) : Bool :=
  row.provider == input.provider && row.outTradeNo == input.outTradeNo &&
    row.payloadHash == input.payloadHash

/-- One stage of a delivery.  A new row stays unseen until its transaction commits, so
storing it and queueing its check are one stage; a row that was there before may change
in between. -/
def DeliveryStage.step (stage : DeliveryStage) (db : Database) : Option DeliveryStage × Database :=
  match stage with
  | .flag failure => (none, commit (markReconciliationRequired failure) db)
  | .store input args =>
      match storeNotification input db with
      | .error _ => (none, db)
      | .ok (duplicate, row, stored) =>
          let check := { normalizeCheckPayArgs args with notificationID := row.id }
          if input.matches row = false then (none, db)
          else if row.status = .processed then (none, stored)
          else if duplicate then (some (.queue check), db)
          else (none, queueNotificationCheck check stored)
  | .queue check => (none, queueNotificationCheck check db)

/-! ### Check workers -/

/-- How a call of the database ends for its caller. -/
inductive Connection where
  | up
  /-- The call has no effect. -/
  | down (fault : Fault)
  /-- The call takes effect, and its answer is lost. -/
  | cut (fault : Fault)

def Connection.read {α : Type} (connection : Connection) (answer : Except Fault α) :
    Except Fault α :=
  match connection with
  | .up => answer
  | .down fault | .cut fault => .error fault

def Connection.write (connection : Connection) (body : Except Fault Database) (db : Database) :
    Except Fault Unit × Database :=
  match connection, body with
  | .down fault, _ => (.error fault, db)
  | _, .error fault => (.error fault, db)
  | .up, .ok result => (.ok (), result)
  | .cut fault, .ok result => (.error fault, result)

structure CheckMoment where
  clock : Clock
  connection : Connection
  query : Except Fault (Option PaymentQueryResult)
  recorded : Except Fault Unit
  polls : Int
  expiry : Except Fault (Option Time)
  errorText : Fault → String

/-- What a run of `CheckPayWorker.Work` does next. -/
inductive CheckStage where
  | load
  | inspect (outTradeNo : String)
  | takeUp
  | query
  | apply (answer : PaymentQueryResult)
  /-- The transaction number is on another payment; before `MarkReconciliationRequired`. -/
  | flag (failure : FailureInput)
  /-- The polls are used up; before `MarkPayClosePending`. -/
  | handOver (polls : Int)
  | note (cause : Fault)
  | cancel (cause : Fault)
  | failed (cause : Fault)
  | finished

def checkLoaded (args : CheckPayArgs) (payment : Payment) : CheckStage :=
  if reconciliationJobCurrent args.reconciliationVersion payment.reconciliationVersion
      payment.reconciliationStatus = false then .finished
  else
    match parsePaymentMethod payment.payChannel with
    | none => .cancel errPaymentMethodInvalid
    | some method =>
        if method.provider ≠ args.provider then
          .cancel (Fault.plain "job provider does not match payment method")
        else .inspect payment.outTradeNo

def checkInspected (args : CheckPayArgs) (outTradeNo : String)
    (notification : PaymentNotification) : CheckStage :=
  if notification.provider ≠ args.provider ∨ notification.outTradeNo ≠ outTradeNo then
    .cancel errPaymentNotificationBinding
  else if notification.status = .processed then .finished
  else .takeUp

def CheckMoment.deadline (moment : CheckMoment) (args : CheckPayArgs) :
    Except Fault (Option Time) :=
  match args.orderExpiresAt with
  | some deadline => .ok (some deadline)
  | none => moment.expiry

/-- The stage after the provider was asked; none for a job that is snoozed. -/
def checkQueried (moment : CheckMoment) (args : CheckPayArgs) : Option CheckStage :=
  match moment.query with
  | .error fault => some (.note fault)
  | .ok none => some (.note (Fault.plain "payment provider returned an empty query result"))
  | .ok (some answer) =>
      if answer.tradeState.isTerminal then some (.apply answer)
      else
        match moment.recorded with
        | .error fault => some (.note fault)
        | .ok _ =>
            if moment.polls + 1 < args.maxPolls then none
            else
              match moment.deadline args with
              | .error fault => some (.note fault)
              | .ok deadline =>
                  if (deadline.map (fun deadline => decide
                      (moment.clock.process < deadline + paymentExpirySafetyMargin))).getD false then
                    none
                  else some (.handOver (moment.polls + 1))

def checkHeard (heard : Except Fault Unit) (otherwise : Fault → CheckStage) : CheckStage :=
  match heard with
  | .ok _ => .finished
  | .error fault => otherwise fault

/-- The unique index on transaction numbers is answered by a review flag. -/
def checkRefused (args : CheckPayArgs) (db : Database) (fault : Fault) : CheckStage :=
  if fault = duplicateTransaction then .flag (duplicateFailure args db) else .note fault

def CheckStage.step (moment : CheckMoment) (args : CheckPayArgs) (stage : CheckStage)
    (db : Database) : Option CheckStage × Database :=
  match stage with
  | .load =>
      if args.paymentID ≤ 0 ∨ args.provider = "" then
        (some (.cancel (Fault.plain "payment_id and provider are required")), db)
      else
        match moment.connection.read (found (db.getPayment args.paymentID) errPaymentNotFound) with
        | .error fault => (some (.failed fault), db)
        | .ok payment => (some (checkLoaded args payment), db)
  | .inspect outTradeNo =>
      if args.notificationID ≤ 0 then (some .query, db)
      else
        match moment.connection.read
            (found (db.getPaymentNotification args.notificationID) Fault.noRows) with
        | .error fault => (some (.failed fault), db)
        | .ok notification => (some (checkInspected args outTradeNo notification), db)
  | .takeUp =>
      let heard := moment.connection.write
        ((found (db.beginPaymentNotificationProcessing args.notificationID)
          Fault.noRows).map Prod.snd) db
      match heard.1 with
      | .ok _ => (some .query, heard.2)
      | .error fault => (some (.failed fault), heard.2)
  | .query => (checkQueried moment args, db)
  | .apply answer =>
      let heard := moment.connection.write (applyPayQuery moment.clock args (some answer) db) db
      (some (checkHeard heard.1 (checkRefused args db)), heard.2)
  | .flag failure =>
      let heard := moment.connection.write (markReconciliationRequired failure db) db
      (some (checkHeard heard.1 .note), heard.2)
  | .handOver polls =>
      let heard := moment.connection.write
        (markPayClosePending { args with pollCount := polls } db) db
      (some (checkHeard heard.1 .note), heard.2)
  | .note cause =>
      (some (.failed cause), (moment.connection.write
        (.ok (recordPaymentNotificationError args.notificationID (moment.errorText cause) db))
          db).2)
  | .cancel cause =>
      let heard := moment.connection.write
        (markPaymentNotificationFailed args.notificationID (moment.errorText cause) db) db
      (some (checkHeard heard.1 .failed), heard.2)
  | .failed cause => (some (.failed cause), db)
  | .finished => (some .finished, db)

/-! ### The world -/

def JobArgs.notification : JobArgs → Int
  | .checkPay args => args.notificationID
  | .closePay _ | .expireOrder _ => 0

/-- The transactions of everything but deliveries, check workers and the queue itself.
None of their callers names a notification. -/
def Operation.aside : Operation → Bool
  | .applyPayQuery _ args _ => args.notificationID ≤ 0
  | .markPayClosePending args => args.notificationID ≤ 0
  | .markReconciliationRequired failure => failure.notificationID ≤ 0
  | .activatePayment _ _ _ _ poll => (poll.map (fun first => first.1.notificationID)).getD 0 ≤ 0
  | .enqueueJob args _ => args.notification ≤ 0
  | .handleError _ _ _ job => job.notification ≤ 0
  | .persistAndEnqueueNotification .. | .beginPaymentNotificationProcessing ..
  | .recordPaymentNotificationError .. | .markPaymentNotificationFailed .. | .finishJob _ => false
  | _ => true

structure CallbackWorld where
  db : Database
  deliveries : List DeliveryStage
  runs : Int → Option CheckStage

inductive CallbackEvent where
  | operation (operation : Operation) (aside : operation.aside = true)
  | finishOther (id : Int)
  | deliver (notification : VerifiedNotification)
  | proceed (index : Nat)
  | abandon (index : Nat)
  | start (id : Int)
  | advance (id : Int) (moment : CheckMoment)
  /-- The process of a run dies, or its error leaves attempts for another run. -/
  | stop (id : Int)
  /-- The last attempt ended in an error or a panic, and the handler's transaction
  commits. -/
  | exhaust (id attempt : Int) (lastError : String)
  | finish (id : Int)

def CallbackWorld.setRun (id : Int) (stage : Option CheckStage) (world : CallbackWorld) :
    CallbackWorld :=
  { world with runs := Function.update world.runs id stage }

def Database.openCheck (db : Database) (id : Int) : Option CheckPayArgs :=
  match db.jobs.find? id with
  | none => none
  | some job =>
      if job.finalized then none
      else
        match job.args with
        | .checkPay args => some args
        | .closePay _ | .expireOrder _ => none

def CallbackWorld.finishOther (id : Int) (world : CallbackWorld) : CallbackWorld :=
  if world.db.openCheck id = none then { world with db := Mall.next (.finishJob id) world.db }
  else world

def CallbackWorld.deliver (policy : PaymentPolicy) (notification : VerifiedNotification)
    (world : CallbackWorld) : CallbackWorld :=
  match world.db.payments.rows.find? (fun payment =>
      payment.outTradeNo == notification.input.outTradeNo) with
  | none => world
  | some payment =>
      match handleNotification policy notification payment with
      | .error _ => world
      | .ok stage => { world with deliveries := world.deliveries ++ [stage] }

def replaceDelivery (index : Nat) (later : Option DeliveryStage)
    (deliveries : List DeliveryStage) : List DeliveryStage :=
  match later with
  | some stage => deliveries.set index stage
  | none => deliveries.eraseIdx index

def CallbackWorld.proceed (index : Nat) (world : CallbackWorld) : CallbackWorld :=
  match world.deliveries[index]? with
  | none => world
  | some stage =>
      let after := stage.step world.db
      { world with
        db := after.2
        deliveries := replaceDelivery index after.1 world.deliveries }

def CallbackWorld.start (id : Int) (world : CallbackWorld) : CallbackWorld :=
  match world.db.openCheck id, world.runs id with
  | some _, none => world.setRun id (some .load)
  | _, _ => world

def CallbackWorld.advance (id : Int) (moment : CheckMoment) (world : CallbackWorld) :
    CallbackWorld :=
  match world.db.openCheck id, world.runs id with
  | some args, some stage =>
      let after := stage.step moment (normalizeCheckPayArgs args) world.db
      { world with db := after.2 }.setRun id after.1
  | _, _ => world

def CallbackWorld.exhaust (id attempt : Int) (lastError : String) (world : CallbackWorld) :
    CallbackWorld :=
  match world.db.openCheck id, world.runs id with
  | some args, some _ =>
      match handleError id attempt lastError (.checkPay args) world.db with
      | .ok handled => { world with db := handled }.setRun id (some .finished)
      | .error _ => world
  | _, _ => world

def CallbackWorld.finish (id : Int) (world : CallbackWorld) : CallbackWorld :=
  match world.runs id with
  | some .finished => { world with db := Mall.next (.finishJob id) world.db }.setRun id none
  | _ => world

def CallbackWorld.next (policy : PaymentPolicy) (event : CallbackEvent) (world : CallbackWorld) :
    CallbackWorld :=
  match event with
  | .operation operation _ => { world with db := Mall.next operation world.db }
  | .finishOther id => world.finishOther id
  | .deliver notification => world.deliver policy.withDefaults notification
  | .proceed index => world.proceed index
  | .abandon index => { world with deliveries := replaceDelivery index none world.deliveries }
  | .start id => world.start id
  | .advance id moment => world.advance id moment
  | .stop id => world.setRun id none
  | .exhaust id attempt lastError => world.exhaust id attempt lastError
  | .finish id => world.finish id

structure CallbackWorld.Initial (world : CallbackWorld) : Prop where
  db : Mall.Initial world.db
  noDeliveries : world.deliveries = []
  noRuns : ∀ id, world.runs id = none

abbrev CallbackWorld.Reached (policy : PaymentPolicy) : CallbackWorld → Prop :=
  Reachable CallbackWorld.Initial (CallbackWorld.next policy)

end Mall
