/-
Refund runs: what `RefundPayment` and `ReconcilePendingRefunds` do around their
transactions.

Neither is one transaction.  A run goes from stage to stage, and between two
stages anything may happen: another run, another request, a crash.  The world
holds the database, the runs in flight and every call that reached the gateway.
-/

import Mall.System

namespace Mall

open Relational Transactional

structure PaymentRefundRequest where
  method : PaymentMethod
  outTradeNo : String
  transactionID : String
  outRefundNo : String
  amount : Int
  currency : String
  reason : String

/-- The part of the gateway's result that the usecase reads. -/
structure PaymentRefundResult where
  success : Bool
  rejection : Bool

/-! ### Runs -/

inductive RefundTarget where
  | request (paymentID : Int)
  | swept (refund : OrderRefund)

def RefundTarget.paymentID : RefundTarget → Int
  | .request paymentID => paymentID
  | .swept refund => refund.paymentId

/-- The number under which the refund is prepared.  A request brings a fresh one. -/
def RefundTarget.outRefundNo (fresh : String) : RefundTarget → String
  | .request _ => fresh
  | .swept refund => refund.outRefundNo

/-- A sweep insists on the row it started from. -/
def RefundTarget.accepts (prepared : OrderRefund) : RefundTarget → Bool
  | .request _ => true
  | .swept refund => prepared.id == refund.id

def RefundTarget.notSupported (method : PaymentMethod) : RefundTarget → Fault
  | .request _ => errPaymentRefundNotSupported
  | .swept _ => Fault.plain ("provider " ++ method.provider ++ " does not support refund")

/-- What an attempt does next. -/
inductive RefundStage where
  | load
  | prepare (method : PaymentMethod)
  /-- Prepared and committed; the gateway has not been called yet. -/
  | execute (method : PaymentMethod) (payment : Payment) (refund : OrderRefund)
  | settle (payment : Payment) (refund : OrderRefund)
  | record (refundID : Int) (cause : Fault) (definitive : Bool)

/-- The queue holds the rows that a sweep has still to go through. -/
structure RefundRun where
  target : RefundTarget
  queue : List OrderRefund
  stage : RefundStage

def RefundRun.proceed (run : RefundRun) : Option RefundRun :=
  match run.queue with
  | [] => none
  | refund :: rest =>
      some
        { target := .swept refund
          queue := rest
          stage := .load }

/-- An error before the gateway call.  Only a sweep records it. -/
def RefundRun.giveUp (run : RefundRun) (cause : Fault) : Option RefundRun :=
  match run.target with
  | .request _ => run.proceed
  | .swept refund => some { run with stage := .record refund.id cause false }

structure Surroundings where
  now : Time
  /-- What `GetPayment` returns.  A cache may serve it. -/
  loaded : Except Fault Payment
  supportsRefund : PaymentMethod → Except Fault Bool
  outRefundNo : String
  /-- A transaction that fails for a reason outside the database model. -/
  outage : Option Fault
  /-- What `gateway.Refund` returns: a result, an error, or both. -/
  result : Option PaymentRefundResult
  error : Option Fault
  /-- The money that the call moved. -/
  moved : Int
  errorText : Fault → String

def Surroundings.transact {α : Type} (around : Surroundings) (body : Except Fault α) :
    Except Fault α :=
  match around.outage with
  | none => body
  | some fault => .error fault

def refundMethod (around : Surroundings) (target : RefundTarget) : Except Fault PaymentMethod := do
  let payment ← around.loaded
  let method ← found (parsePaymentMethod payment.payChannel) errPaymentMethodInvalid
  let supported ← around.supportsRefund method
  require (supported = true) (target.notSupported method)
  pure method

def refundRequest (method : PaymentMethod) (payment : Payment) (refund : OrderRefund) :
    PaymentRefundRequest :=
  { method := method
    outTradeNo := payment.outTradeNo
    transactionID := payment.thirdPartyTxId.getD ""
    outRefundNo := refund.outRefundNo
    amount := refund.refundAmountMinor
    currency := refund.currency
    reason := refund.reason }

def answeredStage (around : Surroundings) (payment : Payment) (refund : OrderRefund) :
    RefundStage :=
  let definitive := (around.result.map PaymentRefundResult.rejection).getD false
  match around.error with
  | some fault => .record refund.id fault definitive
  | none =>
      if around.result.map (fun result => result.success && !result.rejection) = some true then
        .settle payment refund
      else .record refund.id errPaymentRefundFailed definitive

structure GatewayCall where
  paymentID : Int
  request : PaymentRefundRequest
  moved : Int

/-- The call that the run makes when it goes on.  A settled refund is not asked
for again. -/
def RefundRun.call (around : Surroundings) (run : RefundRun) : Option GatewayCall :=
  match run.stage with
  | .execute method payment refund =>
      if refund.status = .success then none
      else
        some
          { paymentID := payment.id
            request := refundRequest method payment refund
            moved := around.moved }
  | _ => none

def RefundRun.advance (around : Surroundings) (run : RefundRun) (db : Database) :
    Option RefundRun × Database :=
  match run.stage with
  | .load =>
      match refundMethod around run.target with
      | .error fault => (run.giveUp fault, db)
      | .ok method => (some { run with stage := .prepare method }, db)
  | .prepare method =>
      match around.transact (preparePaymentRefund around.now run.target.paymentID
          (run.target.outRefundNo around.outRefundNo) db) with
      | .error fault => (run.giveUp fault, db)
      | .ok (payment, refund, prepared) =>
          if run.target.accepts refund then
            (some { run with stage := .execute method payment refund }, prepared)
          else (run.giveUp errPaymentStateConflict, prepared)
  | .execute _ payment refund =>
      if refund.status = .success then (run.proceed, db)
      else (some { run with stage := answeredStage around payment refund }, db)
  | .settle payment refund =>
      match around.transact (applyPaymentRefund around.now payment.id refund.id db) with
      | .error fault => (some { run with stage := .record refund.id fault false }, db)
      | .ok (_, settled) => (run.proceed, settled)
  | .record refundID cause definitive =>
      match around.transact (recordPaymentRefundError around.now refundID
          (around.errorText cause) definitive db) with
      | .error _ => (run.proceed, db)
      | .ok recorded => (run.proceed, recorded)

/-! ### Starting runs -/

/-- `RefundPayment` with a number generator.  An id that is not positive starts
nothing. -/
def refundPayment (paymentID : Int) : Option RefundRun :=
  if paymentID ≤ 0 then none
  else
    some
      { target := .request paymentID
        queue := []
        stage := .load }

def refundSweepAge : Int := 600000000000

/-- The rows of one sweep.  The limit is passed as a 32-bit integer, and a
negative one is an error of the statement. -/
def staleRefunds (now : Time) (olderThan limit : Int) (db : Database) : List OrderRefund :=
  let rows := Int.bmod (if limit ≤ 0 then 100 else limit) (2 ^ 32)
  if rows < 0 then []
  else
    db.listStalePendingRefunds now (if olderThan ≤ 0 then refundSweepAge else olderThan) rows.toNat

def reconcilePendingRefunds (now : Time) (olderThan limit : Int) (db : Database) :
    Option RefundRun :=
  match staleRefunds now olderThan limit db with
  | [] => none
  | refund :: rest =>
      some
        { target := .swept refund
          queue := rest
          stage := .load }

/-! ### The world -/

structure World where
  db : Database
  runs : List RefundRun
  calls : List GatewayCall

inductive Event where
  | operation (operation : Operation)
  | refundPayment (paymentID : Int)
  | reconcilePendingRefunds (now : Time) (olderThan limit : Int)
  | advance (index : Nat) (around : Surroundings)
  | crash (index : Nat)

def World.call (event : Event) (world : World) : Option GatewayCall :=
  match event with
  | .advance index around => world.runs[index]?.bind (RefundRun.call around)
  | _ => none

def World.start (run : Option RefundRun) (world : World) : World :=
  { world with runs := world.runs ++ run.toList }

def World.next (event : Event) (world : World) : World :=
  match event with
  | .operation operation => { world with db := Mall.next operation world.db }
  | .refundPayment paymentID => world.start (Mall.refundPayment paymentID)
  | .reconcilePendingRefunds now olderThan limit =>
      world.start (Mall.reconcilePendingRefunds now olderThan limit world.db)
  | .crash index => { world with runs := world.runs.eraseIdx index }
  | .advance index around =>
      match world.runs[index]? with
      | none => world
      | some run =>
          let (after, db) := run.advance around world.db
          { db := db
            runs := match after with
              | none => world.runs.eraseIdx index
              | some going => world.runs.set index going
            calls := (run.call around).toList ++ world.calls }

structure World.Initial (world : World) : Prop where
  db : Mall.Initial world.db
  noRuns : world.runs = []
  noCalls : world.calls = []

abbrev World.Reached : World → Prop :=
  Reachable World.Initial World.next

end Mall
