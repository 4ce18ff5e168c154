/-
The payment workers: what `check_pay` and `close_pay` jobs do around their
transactions.

A worker reads its payment once and asks the gateway.  What it writes afterwards
was decided on that reading, and lands in whatever state the database has by then.
-/

import Mall.System

namespace Mall

open Relational Transactional

def errProviderTradeStateConflict :=
  Fault.conflict "PAYMENT_PROVIDER_TRADE_STATE_CONFLICT" "provider trade state conflicts with close"

def TradeState.isTerminal : TradeState → Bool
  | .success | .refund | .closed | .revoked | .payError => true
  | .unspecified | .notPay | .userPaying => false

/-- The absolute deadline is missing on actions of an older format. -/
structure SignedPaymentPayload where
  payload : String
  expiresAt : Option Time
  providerAccount : String

structure PaymentCloseResult where
  success : Bool
  transactionID : String

def paymentExpirySafetyMargin : Int := 60000000000

/-! ### Writes -/

inductive WorkerWrite where
  /-- `ApplyPayQuery` with a state that the provider reported. -/
  | report (args : CheckPayArgs) (answer : PaymentQueryResult)
  /-- `ApplyPayQuery` with a closure that the worker concluded by itself, or that
  the provider confirmed on request. -/
  | conclude (args : CheckPayArgs) (answer : PaymentQueryResult)
  | markReconciliationRequired (failure : FailureInput)
  | markPayClosePending (args : CheckPayArgs)
  | beginPaymentNotificationProcessing (id : Int) (provider outTradeNo : String)
  | recordPaymentNotificationError (id : Int) (lastError : String)
  | markPaymentNotificationFailed (id : Int) (lastError : String)
  | handleError (jobID attempt : Int) (lastError : String) (job : JobArgs)

def WorkerWrite.perform (clock : Clock) (db : Database) : WorkerWrite → Database
  | .report args answer | .conclude args answer => applyPayQueryOrFlag clock args (some answer) db
  | .markReconciliationRequired failure => next (.markReconciliationRequired failure) db
  | .markPayClosePending args => next (.markPayClosePending args) db
  | .beginPaymentNotificationProcessing id provider outTradeNo =>
      next (.beginPaymentNotificationProcessing id provider outTradeNo) db
  | .recordPaymentNotificationError id lastError =>
      next (.recordPaymentNotificationError id lastError) db
  | .markPaymentNotificationFailed id lastError =>
      next (.markPaymentNotificationFailed id lastError) db
  | .handleError jobID attempt lastError job => next (.handleError jobID attempt lastError job) db

def WorkerWrite.isReport : WorkerWrite → Bool
  | .report _ _ => true
  | _ => false

/-- The write that names an anomaly without any check of the job's version. -/
def WorkerWrite.isUnfenced : WorkerWrite → Bool
  | .markReconciliationRequired _ => true
  | _ => false

/-! ### Closing -/

structure CloseSurroundings where
  arrived : Time
  queryStarted : Time
  attempt : Int
  decode : String → Option SignedPaymentPayload
  query : Except Fault (Option PaymentQueryResult)
  supportsClose : Except Fault Bool
  close : Except Fault (Option PaymentCloseResult)
  /-- The query after the provider refused to close. -/
  requery : Except Fault (Option PaymentQueryResult)

def absentTrade : CloseSurroundings :=
  { arrived := 1865000000000
    queryStarted := 1865000000000
    attempt := 1
    decode := fun _ => none
    query := .error errProviderOrderNotExist
    supportsClose := .ok true
    close := .ok none
    requery := .ok none }

/-- Products whose prepay only signs parameters. -/
def PaymentMethod.signsLocally (method : PaymentMethod) : Bool :=
  method.provider == "alipay" && (method.product == "app" || method.product == "wap")

/-- The signed parameters on record, when the product signs locally and they can be
read. -/
def signedAction (around : CloseSurroundings) (method : PaymentMethod) (payment : Payment) :
    Option SignedPaymentPayload :=
  if method.signsLocally && payment.actionType.isSome then
    around.decode (payment.actionPayload.getD "")
  else none

/-- When signed parameters that name their account and deadline are safely over. -/
def SignedPaymentPayload.safeAt (signed : SignedPaymentPayload) : Option Time :=
  if signed.providerAccount ≠ "" ∧ signed.payload ≠ "" then
    signed.expiresAt.map (fun deadline => deadline + paymentExpirySafetyMargin)
  else none

def closePayCheck (args : ClosePayArgs) (method : PaymentMethod) (payment : Payment) :
    CheckPayArgs :=
  { confirmUnissued := false
    reconciliationVersion := args.reconciliationVersion
    paymentID := payment.id
    provider := method.provider
    notificationID := 0
    trigger := "close_pay"
    pollCount := 0
    maxPolls := 0
    pollIntervalSeconds := 0
    orderExpiresAt := none }

def closedAnswer (method : PaymentMethod) (payment : Payment) (transactionID : String) :
    PaymentQueryResult :=
  { method := method
    outTradeNo := payment.outTradeNo
    transactionID := transactionID
    tradeState := .closed
    tradeStateDesc := ""
    rawTradeState := ""
    amount := payment.amountMinor
    currency := payment.currency }

def closeFailure (around : CloseSurroundings) (method : PaymentMethod) (payment : Payment)
    (reason : ReconciliationReason) (lastError : String) : FailureInput :=
  { paymentID := payment.id
    notificationID := 0
    provider := method.provider
    reason := some reason
    riverJobID := none
    attempt := max 1 around.attempt
    lastError := lastError }

def absenceText : String :=
  "provider absence without proof that previously issued payment parameters are unusable"

def closeAbsent (around : CloseSurroundings) (args : ClosePayArgs) (method : PaymentMethod)
    (payment : Payment) : Option WorkerWrite :=
  let unissued := canConfirmUnissuedPayment payment around.queryStarted
  let check := { closePayCheck args method payment with confirmUnissued := unissued }
  match (signedAction around method payment).bind SignedPaymentPayload.safeAt with
  | some safeAt =>
      if around.queryStarted < safeAt then none
      else some (.conclude check (closedAnswer method payment ""))
  | none =>
      if unissued then some (.conclude check (closedAnswer method payment ""))
      else
        some (.markReconciliationRequired
          (closeFailure around method payment .providerOrderNotExist absenceText))

def closeOpenTrade (around : CloseSurroundings) (args : ClosePayArgs) (method : PaymentMethod)
    (payment : Payment) : Option WorkerWrite :=
  let check := closePayCheck args method payment
  match around.supportsClose with
  | .error _ => none
  | .ok false =>
      if args.reconciliationVersion ≠ 0 then none
      else
        some (.markReconciliationRequired
          (closeFailure around method payment .closeFailed
            "provider does not support payment close"))
  | .ok true =>
      match around.close with
      | .error fault =>
          if fault = errProviderTradeStateConflict then
            match around.requery with
            | .ok (some answer) =>
                if answer.tradeState.isTerminal then some (.report check answer) else none
            | _ => none
          else none
      | .ok none => none
      | .ok (some closed) =>
          if closed.success then
            some (.conclude check (closedAnswer method payment closed.transactionID))
          else none

def signerActive (around : CloseSurroundings) (method : PaymentMethod) (payment : Payment) : Bool :=
  method.signsLocally && payment.status == .closePending && payment.actionType.isNone &&
    (payment.prepayLeaseUntil.map (fun deadline => decide (around.arrived < deadline))).getD false

/-- `ClosePayWorker.Work` after it read the payment: what it writes, if anything.
Errors, cancellations and snoozes write nothing. -/
def closePayWork (around : CloseSurroundings) (args : ClosePayArgs) (payment : Payment) :
    Option WorkerWrite :=
  if args.paymentID ≤ 0 ∨ args.provider = "" then none
  else if reconciliationJobCurrent args.reconciliationVersion payment.reconciliationVersion
      payment.reconciliationStatus = false then none
  else
    match parsePaymentMethod payment.payChannel with
    | none => none
    | some method =>
        if method.provider ≠ args.provider then none
        else if signerActive around method payment then none
        else
          match around.query with
          | .error fault =>
              if fault = errProviderOrderNotExist then closeAbsent around args method payment
              else none
          | .ok none => none
          | .ok (some answer) =>
              if answer.tradeState.isTerminal then
                some (.report (closePayCheck args method payment) answer)
              else closeOpenTrade around args method payment

/-! ### Checking -/

structure CheckSurroundings where
  began : Except Fault Bool
  query : Except Fault (Option PaymentQueryResult)
  written : Except Fault Unit
  recorded : Except Fault Unit
  polls : Int
  expiry : Except Fault (Option Time)
  now : Time
  errorText : Fault → String

def checkRetryable (around : CheckSurroundings) (args : CheckPayArgs) (cause : Fault) :
    List WorkerWrite :=
  if args.notificationID ≤ 0 then []
  else [.recordPaymentNotificationError args.notificationID (around.errorText cause)]

def checkCancel (around : CheckSurroundings) (args : CheckPayArgs) (cause : Fault) :
    List WorkerWrite :=
  if args.notificationID ≤ 0 then []
  else [.markPaymentNotificationFailed args.notificationID (around.errorText cause)]

def checkWrite (around : CheckSurroundings) (args : CheckPayArgs) (write : WorkerWrite) :
    List WorkerWrite :=
  match around.written with
  | .ok _ => [write]
  | .error fault => write :: checkRetryable around args fault

/-- The polls are used up: hand over to closing, once the payment window is over. -/
def checkExhausted (around : CheckSurroundings) (args : CheckPayArgs) : List WorkerWrite :=
  let deadline : Except Fault (Option Time) := match args.orderExpiresAt with
    | some deadline => .ok (some deadline)
    | none => around.expiry
  match deadline with
  | .error fault => checkRetryable around args fault
  | .ok deadline =>
      if (deadline.map (fun deadline =>
          decide (around.now < deadline + paymentExpirySafetyMargin))).getD false then []
      else checkWrite around args (.markPayClosePending args)

def checkAnswered (around : CheckSurroundings) (args : CheckPayArgs) (answer : PaymentQueryResult) :
    List WorkerWrite :=
  if answer.tradeState.isTerminal then checkWrite around args (.report args answer)
  else
    match around.recorded with
    | .error fault => checkRetryable around args fault
    | .ok _ =>
        if around.polls + 1 < args.maxPolls then []
        else checkExhausted around { args with pollCount := around.polls + 1 }

def checkBegun (around : CheckSurroundings) (args : CheckPayArgs) : List WorkerWrite :=
  match around.began with
  | .error fault =>
      if fault = errPaymentNotificationBinding then checkCancel around args fault else []
  | .ok false => []
  | .ok true =>
      match around.query with
      | .error fault => checkRetryable around args fault
      | .ok none =>
          checkRetryable around args
            (Fault.plain "payment provider returned an empty query result")
      | .ok (some answer) => checkAnswered around args answer

/-- `CheckPayWorker.Work` after it read the payment: its writes, in order. -/
def checkPayWork (around : CheckSurroundings) (job : CheckPayArgs) (payment : Payment) :
    List WorkerWrite :=
  let args := normalizeCheckPayArgs job
  if args.paymentID ≤ 0 ∨ args.provider = "" then
    checkCancel around args (Fault.plain "payment_id and provider are required")
  else if reconciliationJobCurrent args.reconciliationVersion payment.reconciliationVersion
      payment.reconciliationStatus = false then []
  else
    match parsePaymentMethod payment.payChannel with
    | none => checkCancel around args errPaymentMethodInvalid
    | some method =>
        if method.provider ≠ args.provider then
          checkCancel around args (Fault.plain "job provider does not match payment method")
        else
          .beginPaymentNotificationProcessing args.notificationID args.provider
            payment.outTradeNo :: checkBegun around args

end Mall
