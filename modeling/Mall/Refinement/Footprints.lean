/-
What each transaction touches.

A transaction works on one notification at most, ends no payment but the one that a
provider's answer is about, and leaves the refunds alone unless it settles one or is an
attempt at it.  Only checkout adds an order, and only a delivery adds a notification or
a job that carries one.
-/

import Mall.Refinement.Orders
import Mall.Refinement.PaymentRows
import Mall.Refinement.Queueing

namespace Mall

open Relational Transactional

structure Scope where
  notification : Int
  answer : Option (Int × TradeState)
  places : Bool
  attempts : Bool
  delivers : Bool

/-- A transaction that nobody told of a notification or an answer. -/
def Scope.plain : Scope :=
  { notification := 0
    answer := none
    places := false
    attempts := false
    delivers := false }

def Operation.scope : Operation → Scope
  | .createOrder .. => { Scope.plain with places := true }
  | .activatePayment _ _ _ _ poll =>
      { Scope.plain with
        delivers := 0 < (poll.map (fun first => first.1.notificationID)).getD 0 }
  | .markPayClosePending args => { Scope.plain with notification := args.notificationID }
  | .markReconciliationRequired failure =>
      { Scope.plain with notification := failure.notificationID }
  | .applyPayQuery _ args result =>
      { Scope.plain with
        notification := args.notificationID
        answer := result.map (fun given => (args.paymentID, given.tradeState)) }
  | .preparePaymentRefund .. | .recordPaymentRefundError .. =>
      { Scope.plain with attempts := true }
  | .handleError _ _ _ job => { Scope.plain with notification := job.notification }
  | .beginPaymentNotificationProcessing id _ _ | .recordPaymentNotificationError id _
  | .markPaymentNotificationFailed id _ => { Scope.plain with notification := id }
  | .enqueueJob args _ => { Scope.plain with delivers := 0 < args.notification }
  | .persistAndEnqueueNotification .. | .finishJob _ => { Scope.plain with delivers := true }
  | _ => Scope.plain

structure Footprint (scope : Scope) (db result : Database) : Prop where
  orders : scope.places = false → SameOrders db result
  payments : Table.Evolves (Payment.Moved scope.answer)
    (fun row => scope.answer = none ∧ row.Opened) db.payments result.payments
  refunds : scope.attempts = false → RefundsSettle db.refunds result.refunds
  works : scope.delivers = false → Works scope.notification db result

variable {scope : Scope} {db middle result : Database} {now : Time} {args : CheckPayArgs}
  {method : PaymentMethod} {order : Order} {payment : Payment} {payments : List Payment}
  {refund : OrderRefund} {mark : Bool} {id userID : Int} {lastError : String}

theorem Footprint.trans (first : Footprint scope db middle)
    (second : Footprint scope middle result) : Footprint scope db result := by
  refine ⟨fun other => (first.orders other).trans (second.orders other), ?_,
    fun aside => (first.refunds aside).trans (second.refunds aside),
    fun aside => (first.works aside).trans (second.works aside)⟩
  refine first.payments.trans second.payments Payment.Moved.trans ?_ (fun opened => opened)
  rintro row later ⟨unanswered, opened⟩ moved
  exact ⟨unanswered, opened.held (moved.held unanswered)⟩

theorem Footprint.of_clerical (clerical : Clerical db result)
    (works : scope.delivers = false → Works scope.notification db result) :
    Footprint scope db result := by
  cases clerical
  exact ⟨fun _ => rfl, .refl Payment.Moved.refl, fun _ => .refl _, works⟩

theorem Footprint.refl (db : Database) : Footprint scope db db :=
  .of_clerical (.refl db) (fun _ => .refl db)

theorem Footprint.same (orders : result.orders.next = db.orders.next)
    (payments : result.payments = db.payments) (refunds : result.refunds = db.refunds)
    (notifications : result.notifications = db.notifications) (jobs : result.jobs = db.jobs) :
    Footprint scope db result :=
  ⟨fun _ => orders, payments ▸ .refl Payment.Moved.refl, fun _ => refunds ▸ .refl _,
    fun _ => ⟨notifications ▸ .refl PaymentNotification.Moves.refl, jobs ▸ .refl (fun _ => rfl)⟩⟩

theorem Footprint.of_payments {payments : Table Payment}
    (evolves : Table.Evolves (Payment.Moved scope.answer)
      (fun row => scope.answer = none ∧ row.Opened) db.payments payments) :
    Footprint scope db { db with payments := payments } :=
  ⟨fun _ => rfl, evolves, fun _ => .refl _,
    fun _ => ⟨.refl PaymentNotification.Moves.refl, .refl (fun _ => rfl)⟩⟩

theorem Footprint.of_refunds {refunds : Table OrderRefund}
    (settles : scope.attempts = false → RefundsSettle db.refunds refunds) :
    Footprint scope db { db with refunds := refunds } :=
  ⟨fun _ => rfl, .refl Payment.Moved.refl, settles,
    fun _ => ⟨.refl PaymentNotification.Moves.refl, .refl (fun _ => rfl)⟩⟩

theorem Footprint.attempted (attempts : scope.attempts = true) (refunds : Table OrderRefund) :
    Footprint scope db { db with refunds := refunds } := by
  refine .of_refunds ?_
  intro aside
  rw [attempts] at aside
  cases aside

theorem Footprint.placed (places : scope.places = true) (orders : Table Order) :
    Footprint scope db { db with orders := orders } := by
  refine ⟨?_, .refl Payment.Moved.refl, fun _ => .refl _,
    fun _ => ⟨.refl PaymentNotification.Moves.refl, .refl (fun _ => rfl)⟩⟩
  intro other
  rw [places] at other
  cases other

/-! ### Statements -/

private theorem updateOrder_footprint {guard : Order → Bool} {change : Order → Order}
    {changed : Order} (updated : db.updateOrder id guard change = some (changed, result)) :
    Footprint scope db result := by
  obtain ⟨_, _, _, _, rfl⟩ := Database.updateOrder_eq_some.mp updated
  exact .same rfl rfl rfl rfl rfl

private theorem updateProductRow_footprint {guard : Product → Bool} {change : Product → Product}
    {changed : Product} (updated : db.updateProductRow id guard change = some (changed, result)) :
    Footprint scope db result := by
  obtain ⟨_, _, _, _, rfl⟩ := Database.updateProductRow_eq_some.mp updated
  exact .same rfl rfl rfl rfl rfl

private theorem updatePayment_footprint {guard : Payment → Bool} {change : Payment → Payment}
    {changed : Payment} (updated : db.updatePayment id guard change = some (changed, result))
    (moved : ∀ row, db.payments.find? id = some row → guard row = true →
      row.Moved scope.answer (change row)) : Footprint scope db result := by
  obtain ⟨row, present, allowed, _, rfl⟩ := Database.updatePayment_eq_some.mp updated
  have moves := moved row present allowed
  exact .of_payments (.update Payment.Moved.refl present moves.id moves)

private theorem updatePayment_alive {guard : Payment → Bool} {change : Payment → Payment}
    {changed : Payment} (updated : db.updatePayment id guard change = some (changed, result))
    (same : ∀ row, (change row).id = row.id)
    (alive : ∀ row, guard row = true →
      (change row).status ≠ .closed ∧ (change row).status ≠ .failed) :
    Footprint scope db result :=
  updatePayment_footprint updated
    (fun row _ allowed => ⟨same row, .inl (.of_status (alive row allowed))⟩)

private theorem updatePayment_ended {guard : Payment → Bool} {change : Payment → Payment}
    {changed : Payment} {state : TradeState} (about : scope.answer = some (id, state))
    (updated : db.updatePayment id guard change = some (changed, result))
    (same : ∀ row, (change row).id = row.id) (ends : ∀ row, (change row).EndedBy state) :
    Footprint scope db result := by
  refine updatePayment_footprint updated ?_
  intro row present _
  have key : row.id = id := Table.key_of_find? present
  exact ⟨same row, .inr ⟨state, key ▸ about, ends row⟩⟩

private theorem updateRefund_footprint {guard : OrderRefund → Bool}
    {change : OrderRefund → OrderRefund} {changed : OrderRefund} (attempts : scope.attempts = true)
    (updated : db.updateRefund id guard change = some (changed, result)) :
    Footprint scope db result := by
  obtain ⟨_, _, _, _, rfl⟩ := Database.updateRefund_eq_some.mp updated
  exact .attempted attempts _

private theorem markPaymentClosePending_footprint {changed : Payment}
    (updated : db.markPaymentClosePending id = some (changed, result)) :
    Footprint scope db result :=
  updatePayment_alive updated (fun _ => rfl) (fun _ _ => ⟨nofun, nofun⟩)

private theorem restoreOrderItemStock_footprint {orderID : Int}
    (done : db.restoreOrderItemStock orderID = .ok result) : Footprint scope db result := by
  cases Database.restoreOrderItemStock_eq_ok done
  exact .same rfl rfl rfl rfl rfl

private theorem flag_footprint {flagged : Database} {reason : ReconciliationReason}
    {detail : String} {row : ReconciliationFailure}
    (flag : requirePaymentReconciliation id reason detail db = .ok (payment, flagged))
    (evidence : flagged.createPaymentReconciliationFailure row = .ok result) :
    Footprint scope db result := by
  obtain ⟨payments, raised, rfl⟩ := requirePaymentReconciliation_raised flag
  obtain ⟨failures, _, rfl⟩ := createPaymentReconciliationFailure_evidenced evidence
  refine (Footprint.of_payments (raised.evolves.mono ?_ False.elim)).trans
    (.same rfl rfl rfl rfl rfl)
  intro row later raises
  have turn := Payment.Receives.raises (Or.inl rfl) raises
  exact ⟨turn.sameDeal.id, .inl turn.held⟩

private theorem enqueue_footprint (db : Database) (job : JobArgs)
    (free : scope.delivers = false → job.notification ≤ 0) (scheduledAt : Option Time) :
    Footprint scope db (db.enqueue job scheduledAt).2 :=
  .of_clerical (enqueue_clerical db job scheduledAt)
    (fun aside => enqueue_works db (free aside) scheduledAt)

private theorem markNotificationProcessed_footprint (about : scope.notification = id)
    (done : markNotificationProcessed id db = .ok result) : Footprint scope db result := by
  subst about
  exact .of_clerical (markNotificationProcessed_clerical done)
    (fun _ => markNotificationProcessed_works done)

private theorem markPaymentNotificationFailed_footprint (about : scope.notification = id)
    (done : markPaymentNotificationFailed id lastError db = .ok result) :
    Footprint scope db result := by
  subst about
  exact .of_clerical (markPaymentNotificationFailed_clerical done)
    (fun _ => markPaymentNotificationFailed_works done)

/-! ### Orders and products -/

private theorem adjustStock_footprint {input : StockAdjustmentInput} {adjustment : StockAdjustment}
    (done : adjustStock input db = .ok (adjustment, result)) : Footprint scope db result := by
  unfold adjustStock at done
  obtain ⟨_, _, done⟩ := bind_eq_ok.mp done
  obtain ⟨product, _, done⟩ := bind_eq_ok.mp done
  split at done
  · obtain ⟨_, _, done⟩ := bind_eq_ok.mp done
    cases pure_eq_ok.mp done
    exact .refl db
  · obtain ⟨_, _, done⟩ := bind_eq_ok.mp done
    obtain ⟨⟨_, adjusted⟩, adjust, done⟩ := bind_eq_ok.mp done
    unfold Database.adjustProductStock at adjust
    iterate 3 obtain ⟨_, _, adjust⟩ := bind_eq_ok.mp adjust
    refine (updateProductRow_footprint (found_eq_ok.mp adjust)).trans ?_
    iterate 2 obtain ⟨_, _, done⟩ := bind_eq_ok.mp done
    cases pure_eq_ok.mp done
    exact .same rfl rfl rfl rfl rfl

private theorem reserveItems_footprint {orderID : Int} {snapshots : List ItemSnapshot}
    (done : reserveItems orderID snapshots db = .ok result) : Footprint scope db result := by
  induction snapshots generalizing db with
  | nil =>
      cases done
      exact .refl _
  | cons snapshot rest ih =>
      obtain ⟨⟨_, reduced⟩, reduce, done⟩ := bind_eq_ok.mp done
      have stored : Footprint scope reduced (reduced.createOrderItem (snapshot.row orderID)) :=
        .same rfl rfl rfl rfl rfl
      exact (updateProductRow_footprint (found_eq_ok.mp reduce)).trans (stored.trans (ih done))

private theorem submitOrder_footprint {digest : Int → Int → List OrderItemInput → String}
    {orderNo : String} {paymentTimeout : Int} {request : CreateOrderReq}
    (places : scope.places = true)
    (done : submitOrder digest orderNo paymentTimeout now request db = .ok (order, result)) :
    Footprint scope db result := by
  unfold submitOrder at done
  obtain ⟨⟨key, items⟩, _, done⟩ := bind_eq_ok.mp done
  dsimp only at done
  unfold createOrder at done
  split at done
  · next placed =>
      cases done
      unfold placeOrder at placed
      split at placed
      · obtain ⟨_, _, placed⟩ := bind_eq_ok.mp placed
        cases pure_eq_ok.mp placed
        exact .refl db
      · iterate 2 obtain ⟨_, _, placed⟩ := bind_eq_ok.mp placed
        obtain ⟨⟨_, _⟩, _, placed⟩ := bind_eq_ok.mp placed
        obtain ⟨_, _, placed⟩ := bind_eq_ok.mp placed
        obtain ⟨⟨_, stored⟩, create, placed⟩ := bind_eq_ok.mp placed
        obtain ⟨reserved, reserve, placed⟩ := bind_eq_ok.mp placed
        cases pure_eq_ok.mp placed
        have opened : Footprint scope db stored := by
          obtain ⟨rfl, rfl⟩ := createOrderRow_eq_ok create
          exact .placed places _
        exact (opened.trans (reserveItems_footprint reserve)).trans
          (enqueue_footprint reserved _ (fun _ => le_refl 0) _)
  · split at done
    · cases done
    · split at done
      · iterate 2 obtain ⟨_, _, done⟩ := bind_eq_ok.mp done
        cases pure_eq_ok.mp done
        exact .refl db
      · cases done

private theorem releaseOrder_footprint {orderID : Int}
    (done : releaseOrder orderID db = .ok result) :
    Footprint scope db result := by
  unfold releaseOrder at done
  obtain ⟨⟨_, cancelling⟩, start, done⟩ := bind_eq_ok.mp done
  obtain ⟨restored, restore, done⟩ := bind_eq_ok.mp done
  obtain ⟨⟨_, cancelled⟩, cancel, done⟩ := bind_eq_ok.mp done
  cases pure_eq_ok.mp done
  exact ((updateOrder_footprint (found_eq_ok.mp start)).trans
    (restoreOrderItemStock_footprint restore)).trans (updateOrder_footprint (found_eq_ok.mp cancel))

/-- Recovery fails only rows that were never dispatched. -/
theorem recoverUnsupportedPayments_footprint {rows returned : List Payment}
    (current : Current rows db)
    (done : recoverUnsupportedPayments rows db = .ok (returned, result)) :
    Footprint scope db result := by
  induction rows generalizing db returned with
  | nil =>
      cases done
      exact .refl _
  | cons payment rest ih =>
      rw [recoverUnsupportedPayments] at done
      split at done
      · next unsupported =>
        obtain ⟨⟨failed, changed⟩, marked, done⟩ := bind_eq_ok.mp done
        obtain ⟨⟨others, last⟩, later, done⟩ := bind_eq_ok.mp done
        cases pure_eq_ok.mp done
        have first : Footprint scope db changed := by
          refine updatePayment_footprint (found_eq_ok.mp marked) ?_
          intro row present _
          cases present.symm.trans (current.found payment List.mem_cons_self)
          have never := Payment.undispatched_of_unsupported unsupported
          exact ⟨rfl, .inl ⟨by simp, fun _ => .inr ⟨never.action, never.attempts⟩⟩⟩
        obtain ⟨_, _, _, _, rfl⟩ := Database.updatePayment_eq_some.mp (found_eq_ok.mp marked)
        exact first.trans (ih (current.update _) later)
      · obtain ⟨⟨others, last⟩, later, done⟩ := bind_eq_ok.mp done
        cases pure_eq_ok.mp done
        exact ih current.tail later

private theorem listedPayments_footprint {orderId : Int} {returned : List Payment}
    (done : recoverUnsupportedPayments (db.listPaymentsByOrderForUpdate orderId) db =
      .ok (returned, result)) : Footprint scope db result :=
  recoverUnsupportedPayments_footprint (listPaymentsByOrderForUpdate_current db orderId) done

private theorem cancelOrder_footprint (done : cancelOrder id userID db = .ok result) :
    Footprint scope db result := by
  unfold cancelOrder at done
  obtain ⟨_, _, done⟩ := bind_eq_ok.mp done
  unfold cancelOrderByUser at done
  obtain ⟨order, _, done⟩ := bind_eq_ok.mp done
  split at done
  · cases pure_eq_ok.mp done
    exact .refl db
  · obtain ⟨_, _, done⟩ := bind_eq_ok.mp done
    obtain ⟨⟨_, recovered⟩, recover, done⟩ := bind_eq_ok.mp done
    iterate 2 obtain ⟨_, _, done⟩ := bind_eq_ok.mp done
    exact (listedPayments_footprint recover).trans (releaseOrder_footprint done)

private theorem closeActivePayments_footprint {active : Bool}
    (done : closeActivePayments payments db = .ok (active, result)) :
    Footprint scope db result := by
  induction payments generalizing db active with
  | nil =>
      cases done
      exact .refl _
  | cons payment rest ih =>
      unfold closeActivePayments at done
      split at done
      · obtain ⟨⟨row, changed⟩, start, done⟩ := bind_eq_ok.mp done
        obtain ⟨_, _, done⟩ := bind_eq_ok.mp done
        obtain ⟨⟨_, _⟩, others, done⟩ := bind_eq_ok.mp done
        cases pure_eq_ok.mp done
        have started : Footprint scope db changed := by
          unfold startClosing at start
          split at start
          · cases start
            exact .refl db
          · exact markPaymentClosePending_footprint (found_eq_ok.mp start)
        exact (started.trans (enqueue_footprint changed _ (fun _ => le_refl 0) none)).trans (ih others)
      · exact ih done

private theorem healExpiredOrder_footprint {orderID : Int} {flagged : Bool}
    (done : healExpiredOrder orderID payment db = .ok (flagged, result)) :
    Footprint scope db result := by
  unfold healExpiredOrder at done
  split at done
  · obtain ⟨⟨_, _⟩, paid, done⟩ := bind_eq_ok.mp done
    cases pure_eq_ok.mp done
    exact updateOrder_footprint (found_eq_ok.mp paid)
  · obtain ⟨⟨_, _⟩, flag, done⟩ := bind_eq_ok.mp done
    obtain ⟨_, record, done⟩ := bind_eq_ok.mp done
    cases pure_eq_ok.mp done
    exact flag_footprint flag record

private theorem expireOrder_footprint {orderID : Int} {flagged : Bool}
    (done : expireOrder now orderID db = .ok (flagged, result)) : Footprint scope db result := by
  unfold expireOrder at done
  obtain ⟨_, _, done⟩ := bind_eq_ok.mp done
  obtain ⟨order, _, done⟩ := bind_eq_ok.mp done
  split at done
  · cases pure_eq_ok.mp done
    exact .refl db
  · obtain ⟨_, _, done⟩ := bind_eq_ok.mp done
    obtain ⟨⟨_, recovered⟩, recover, done⟩ := bind_eq_ok.mp done
    obtain ⟨_, _, done⟩ := bind_eq_ok.mp done
    have recovery : Footprint scope db recovered := listedPayments_footprint recover
    dsimp only at done
    split at done
    · exact recovery.trans (healExpiredOrder_footprint done)
    · obtain ⟨⟨active, closing⟩, close, done⟩ := bind_eq_ok.mp done
      refine recovery.trans ((closeActivePayments_footprint close).trans ?_)
      split at done
      · cases pure_eq_ok.mp done
        exact .refl closing
      · obtain ⟨_, release, done⟩ := bind_eq_ok.mp done
        cases pure_eq_ok.mp done
        exact releaseOrder_footprint release

/-! ### Payments and refunds -/

private theorem createPayment_footprint {args : CreatePaymentArgs}
    (unanswered : scope.answer = none)
    (done : createPayment args now db = .ok (payment, result)) : Footprint scope db result := by
  unfold createPayment at done
  split at done
  · next opened =>
      cases done
      unfold openPayment at opened
      obtain ⟨order, _, opened⟩ := bind_eq_ok.mp opened
      iterate 4 obtain ⟨_, _, opened⟩ := bind_eq_ok.mp opened
      obtain ⟨⟨_, recovered⟩, recover, opened⟩ := bind_eq_ok.mp opened
      refine (listedPayments_footprint recover).trans ?_
      obtain ⟨reused, _, opened⟩ := bind_eq_ok.mp opened
      cases reused with
      | some existing =>
          cases pure_eq_ok.mp opened
          exact .refl _
      | none =>
          cases createPaymentWithOutTradeNo_eq_ok opened
          exact .of_payments (.insert Payment.Moved.refl ⟨unanswered, nofun, nofun⟩)
  · split at done
    · split at done
      · split at done
        · cases done
          exact .refl db
        · cases done
      · cases done
    · cases done

private theorem claimPaymentPrepay_footprint {clock : Clock} {lease : Int} {token : String}
    (done : claimPaymentPrepay clock id token lease db = .ok (payment, result)) :
    Footprint scope db result := by
  unfold claimPaymentPrepay at done
  split at done
  · next claimed =>
      cases done
      refine updatePayment_alive claimed (fun _ => rfl) ?_
      intro row allowed
      have creating : row.status = .creating := beq_iff_eq.mp (Bool.and_eq_true_iff.mp allowed).1
      change row.status ≠ .closed ∧ row.status ≠ .failed
      rw [creating]
      exact ⟨nofun, nofun⟩
  · obtain ⟨current, _, done⟩ := bind_eq_ok.mp done
    split at done
    · cases pure_eq_ok.mp done
      exact .refl db
    · split at done <;> cases done

private theorem activatePayment_footprint {token actionPayload : String}
    {actionType : Option PaymentActionType} {poll : Option (CheckPayArgs × Option Time)}
    (free : scope.delivers = false → (poll.map (fun first => first.1.notificationID)).getD 0 ≤ 0)
    (done : activatePayment id token actionType actionPayload poll db = .ok (payment, result)) :
    Footprint scope db result := by
  unfold activatePayment at done
  obtain ⟨⟨activated, stored⟩, finalize, done⟩ := bind_eq_ok.mp done
  have finalized : Footprint scope db stored := by
    unfold finalizePaymentPrepay at finalize
    split at finalize
    · next updated =>
        cases finalize
        exact updatePayment_alive updated (fun _ => rfl) (fun _ _ => ⟨nofun, nofun⟩)
    · obtain ⟨current, _, finalize⟩ := bind_eq_ok.mp finalize
      split at finalize
      · cases pure_eq_ok.mp finalize
        exact .refl db
      · cases finalize
  cases poll with
  | none =>
      cases pure_eq_ok.mp done
      exact finalized
  | some first =>
      cases pure_eq_ok.mp done
      exact finalized.trans (enqueue_footprint stored _ free first.2)

private theorem recordPaymentPrepayError_footprint (id : Int) (token lastError : String)
    (db : Database) :
    Footprint scope db (recordPaymentPrepayError id token lastError db) := by
  unfold recordPaymentPrepayError
  split
  · next recorded =>
      exact updatePayment_footprint recorded
        (fun _ _ _ => ⟨rfl, .inl ⟨fun closed => closed, fun failed => .inl ⟨failed, rfl, rfl⟩⟩⟩)
  · exact .refl db

theorem markPayClosePending_cases (done : markPayClosePending args db = .ok result) :
    (args.reconciliationVersion ≠ 0 ∧ result = db) ∨
      ∃ queued, (∀ scope, Footprint scope db queued) ∧
        markNotificationProcessed args.notificationID queued = .ok result := by
  unfold markPayClosePending at done
  obtain ⟨current, fenced, done⟩ := bind_eq_ok.mp done
  split at done
  · next stale =>
      cases pure_eq_ok.mp done
      refine .inl ⟨?_, rfl⟩
      intro unversioned
      rw [closeHandoffCurrent, if_pos unversioned, stale] at fenced
      cases fenced
  · obtain ⟨⟨row, changed⟩, close, done⟩ := bind_eq_ok.mp done
    obtain ⟨method, _, done⟩ := bind_eq_ok.mp done
    refine .inr ⟨_, fun scope => ?_, done⟩
    refine Footprint.trans ?_ (enqueue_footprint changed _ (fun _ => le_refl 0) none)
    unfold closePendingPayment at close
    split at close
    · next updated =>
        cases close
        exact markPaymentClosePending_footprint updated
    · iterate 2 obtain ⟨_, _, close⟩ := bind_eq_ok.mp close
      cases pure_eq_ok.mp close
      exact .refl db

private theorem markPayClosePending_footprint (about : scope.notification = args.notificationID)
    (done : markPayClosePending args db = .ok result) : Footprint scope db result := by
  rcases markPayClosePending_cases done with ⟨_, rfl⟩ | ⟨queued, closing, mark⟩
  · exact .refl _
  · exact (closing scope).trans (markNotificationProcessed_footprint about mark)

theorem markReconciliationRequired_marked {failure : FailureInput}
    (done : markReconciliationRequired failure db = .ok result) :
    ∃ recorded, (∀ scope, Footprint scope db recorded) ∧
      markNotificationProcessed failure.notificationID recorded = .ok result := by
  unfold markReconciliationRequired at done
  obtain ⟨⟨_, _⟩, flag, done⟩ := bind_eq_ok.mp done
  obtain ⟨recorded, record, mark⟩ := bind_eq_ok.mp done
  exact ⟨recorded, fun _ => flag_footprint flag record, mark⟩

private theorem markReconciliationRequired_footprint {failure : FailureInput}
    (about : scope.notification = failure.notificationID)
    (done : markReconciliationRequired failure db = .ok result) : Footprint scope db result := by
  obtain ⟨recorded, flagging, mark⟩ := markReconciliationRequired_marked done
  exact (flagging scope).trans (markNotificationProcessed_footprint about mark)

theorem handleExhausted_marked {jobID attempt paymentID carried version : Int} {provider : String}
    (done : handleExhausted jobID attempt paymentID carried version provider lastError db =
      .ok result) :
    ∃ marked, markPaymentNotificationFailed carried lastError db = .ok marked ∧
      ∀ scope, Footprint scope marked result := by
  unfold handleExhausted at done
  obtain ⟨marked, mark, done⟩ := bind_eq_ok.mp done
  refine ⟨marked, mark, fun scope => ?_⟩
  split at done
  · cases pure_eq_ok.mp done
    exact .refl _
  · obtain ⟨_, _, done⟩ := bind_eq_ok.mp done
    split at done
    · obtain ⟨⟨_, _⟩, flag, done⟩ := bind_eq_ok.mp done
      exact flag_footprint flag done
    · cases pure_eq_ok.mp done
      exact .refl _

private theorem handleExhausted_footprint {jobID attempt paymentID version : Int}
    {provider : String} (about : scope.notification = id)
    (done : handleExhausted jobID attempt paymentID id version provider lastError db =
      .ok result) : Footprint scope db result := by
  obtain ⟨marked, mark, flagging⟩ := handleExhausted_marked done
  exact (markPaymentNotificationFailed_footprint about mark).trans (flagging scope)

private theorem handleError_footprint {jobID attempt : Int} {job : JobArgs}
    (about : scope.notification = job.notification)
    (done : handleError jobID attempt lastError job db = .ok result) :
    Footprint scope db result := by
  unfold handleError at done
  split at done
  · cases done
    exact .refl db
  · split at done
    · cases done
      exact .refl db
    · exact handleExhausted_footprint about done
  · split at done
    · cases done
      exact .refl db
    · exact handleExhausted_footprint about done

private theorem preparePaymentRefund_footprint {paymentID : Int} {outRefundNo : String}
    (attempts : scope.attempts = true)
    (done : preparePaymentRefund now paymentID outRefundNo db = .ok (payment, refund, result)) :
    Footprint scope db result := by
  obtain ⟨order, _, ⟨existing, _, resume⟩ | ⟨purpose, _, _, _, create⟩⟩ :=
    preparePaymentRefund_cases done
  · unfold resumeRefund at resume
    iterate 4 obtain ⟨_, _, resume⟩ := bind_eq_ok.mp resume
    split at resume
    · exact updateRefund_footprint attempts (found_eq_ok.mp resume)
    · cases pure_eq_ok.mp resume
      exact .refl db
  · obtain ⟨_, rfl, _⟩ := createOrderRefund_eq_ok create
    exact .attempted attempts _

private theorem recordPaymentRefundError_footprint {refundID : Int} {definitive : Bool}
    (attempts : scope.attempts = true)
    (done : recordPaymentRefundError now refundID lastError definitive db = .ok result) :
    Footprint scope db result := by
  unfold recordPaymentRefundError at done
  obtain ⟨⟨_, _⟩, record, done⟩ := bind_eq_ok.mp done
  cases pure_eq_ok.mp done
  exact updateRefund_footprint attempts (found_eq_ok.mp record)

private theorem settlePaymentRefund_footprint {settled : Payment}
    (done : settlePaymentRefund now order payment refund db = .ok (settled, result)) :
    Footprint scope db result := by
  unfold settlePaymentRefund at done
  obtain ⟨_, _, done⟩ := bind_eq_ok.mp done
  split at done
  · cases pure_eq_ok.mp done
    exact .refl db
  · iterate 2 obtain ⟨_, _, done⟩ := bind_eq_ok.mp done
    obtain ⟨reversed, reverse, done⟩ := bind_eq_ok.mp done
    obtain ⟨⟨_, marked⟩, mark, done⟩ := bind_eq_ok.mp done
    have reversal : Footprint scope db reversed := by
      unfold reverseOrder at reverse
      split at reverse
      · obtain ⟨⟨_, refunded⟩, update, reverse⟩ := bind_eq_ok.mp reverse
        exact (updateOrder_footprint (found_eq_ok.mp update)).trans
          (restoreOrderItemStock_footprint reverse)
      · cases reverse
        exact .refl db
    have settling : Footprint scope reversed marked := by
      obtain ⟨row, present, _, _, rfl⟩ := Database.updateRefund_eq_some.mp (found_eq_ok.mp mark)
      exact .of_refunds (fun _ => .update present rfl rfl)
    exact (reversal.trans settling).trans (updatePayment_alive (found_eq_ok.mp done) (fun _ => rfl)
      (fun _ _ => ⟨by simp, by simp⟩))

theorem applyPaymentRefund_footprint {paymentID refundID : Int}
    (done : applyPaymentRefund now paymentID refundID db = .ok (payment, result)) :
    Footprint scope db result := by
  unfold applyPaymentRefund at done
  iterate 4 obtain ⟨_, _, done⟩ := bind_eq_ok.mp done
  exact settlePaymentRefund_footprint done

/-! ### Answers of the provider -/

private theorem flagPayment_footprint {reason : ReconciliationReason} {detail : String}
    (done : flagPayment args method reason detail lastError db = .ok result) :
    Footprint scope db result := by
  unfold flagPayment at done
  obtain ⟨⟨_, _⟩, flag, done⟩ := bind_eq_ok.mp done
  exact flag_footprint flag done

private theorem finalizeOrderAfterPaymentInactive_footprint {current : Payment}
    (done : finalizeOrderAfterPaymentInactive order payments current db = .ok result) :
    Footprint scope db result := by
  unfold finalizeOrderAfterPaymentInactive at done
  split at done
  · split at done
    · obtain ⟨⟨_, paid⟩, mark, done⟩ := bind_eq_ok.mp done
      cases pure_eq_ok.mp done
      exact updateOrder_footprint (found_eq_ok.mp mark)
    · cases done
      exact .refl db
  · split at done
    · exact releaseOrder_footprint done
    · cases done
      exact .refl db

private theorem applySuccess_footprint {transaction : String}
    (done : applySuccess now args method order payments payment transaction db = .ok result) :
    Footprint scope db result := by
  unfold applySuccess at done
  obtain ⟨_, _, done⟩ := bind_eq_ok.mp done
  split at done
  · split at done
    · cases pure_eq_ok.mp done
      exact .refl db
    · exact flagPayment_footprint done
  · obtain ⟨_, _, done⟩ := bind_eq_ok.mp done
    obtain ⟨⟨_, recorded⟩, record, done⟩ := bind_eq_ok.mp done
    obtain ⟨decision, _, done⟩ := bind_eq_ok.mp done
    unfold Database.recordPaymentSuccess at record
    obtain ⟨⟨_, updated⟩, update, record⟩ := bind_eq_ok.mp record
    obtain ⟨_, _, record⟩ := bind_eq_ok.mp record
    cases pure_eq_ok.mp record
    refine (updatePayment_alive (found_eq_ok.mp update) (fun _ => rfl)
      (fun _ _ => ⟨by simp, by simp⟩)).trans ?_
    unfold applyDecision at done
    obtain ⟨funded, fund, done⟩ := bind_eq_ok.mp done
    have funding : Footprint scope recorded funded := by
      unfold markPaidIf at fund
      split at fund
      · obtain ⟨⟨_, marked⟩, mark, fund⟩ := bind_eq_ok.mp fund
        cases pure_eq_ok.mp fund
        exact updateOrder_footprint (found_eq_ok.mp mark)
      · cases fund
        exact .refl _
    refine funding.trans ?_
    split at done
    · exact flagPayment_footprint done
    · cases pure_eq_ok.mp done
      exact .refl _

/-- A row that was read as open is still open, so its closure takes effect and the
notification remains to be marked. -/
theorem applyClosed_footprint {transaction : String} {state : TradeState}
    (stored : db.payments.find? payment.id = some payment)
    (about : scope.answer = some (payment.id, state)) (said : state = .closed ∨ state = .revoked)
    (done : applyClosed order payments payment transaction db = .ok (mark, result)) :
    Footprint scope db result ∧ mark = true := by
  unfold applyClosed at done
  split at done
  · iterate 3 obtain ⟨_, _, done⟩ := bind_eq_ok.mp done
    cases pure_eq_ok.mp done
    exact ⟨.refl db, rfl⟩
  · split at done
    · cases pure_eq_ok.mp done
      exact ⟨.refl db, rfl⟩
    · next unclosed =>
      split at done
      · next closed =>
          obtain ⟨_, finalize, done⟩ := bind_eq_ok.mp done
          cases pure_eq_ok.mp done
          have closing := updatePayment_ended about closed (fun _ => rfl) (fun _ => .closed said rfl)
          exact ⟨closing.trans (finalizeOrderAfterPaymentInactive_footprint finalize), rfl⟩
      · obtain ⟨current, present, done⟩ := bind_eq_ok.mp done
        obtain ⟨_, closed, done⟩ := bind_eq_ok.mp done
        cases stored.symm.trans (found_eq_ok.mp present)
        exact absurd (require_eq_ok.mp closed) unclosed

private theorem applyPayError_footprint {description : String}
    (about : scope.answer = some (payment.id, .payError))
    (done : applyPayError args order payments payment description db = .ok result) :
    Footprint scope db result := by
  unfold applyPayError at done
  obtain ⟨failed, fail, done⟩ := bind_eq_ok.mp done
  have failure : Footprint scope db failed := by
    unfold failPayment at fail
    split at fail
    · next updated =>
        cases fail
        exact updatePayment_ended about updated (fun _ => rfl) (fun _ => .failed rfl rfl)
    · obtain ⟨_, _, fail⟩ := bind_eq_ok.mp fail
      cases pure_eq_ok.mp fail
      exact .refl db
  refine failure.trans ?_
  split at done
  · exact finalizeOrderAfterPaymentInactive_footprint done
  · cases pure_eq_ok.mp done
    exact .refl _

private theorem applyRefund_footprint
    (done : applyRefund now args method order payment db = .ok result) :
    Footprint scope db result := by
  unfold applyRefund at done
  split at done
  · cases done
    exact .refl db
  · obtain ⟨_, _, done⟩ := bind_eq_ok.mp done
    split at done
    · exact flagPayment_footprint done
    · obtain ⟨⟨_, settled⟩, settle, done⟩ := bind_eq_ok.mp done
      cases pure_eq_ok.mp done
      exact settlePaymentRefund_footprint settle

private theorem applyTradeState_footprint {answer : PaymentQueryResult}
    (stored : db.payments.find? payment.id = some payment)
    (about : scope.answer = some (payment.id, answer.tradeState))
    (done : applyTradeState now args method order payments payment answer db = .ok (mark, result)) :
    Footprint scope db result ∧ mark = true := by
  unfold applyTradeState at done
  cases state : answer.tradeState with
  | success =>
      rw [state] at done
      obtain ⟨applied, apply, done⟩ := bind_eq_ok.mp done
      cases pure_eq_ok.mp done
      exact ⟨applySuccess_footprint apply, rfl⟩
  | closed =>
      rw [state] at done
      exact applyClosed_footprint stored about (.inl state) done
  | revoked =>
      rw [state] at done
      exact applyClosed_footprint stored about (.inr state) done
  | payError =>
      rw [state] at done about
      obtain ⟨applied, apply, done⟩ := bind_eq_ok.mp done
      cases pure_eq_ok.mp done
      exact ⟨applyPayError_footprint about apply, rfl⟩
  | refund =>
      rw [state] at done
      obtain ⟨applied, apply, done⟩ := bind_eq_ok.mp done
      cases pure_eq_ok.mp done
      exact ⟨applyRefund_footprint apply, rfl⟩
  | unspecified | notPay | userPaying =>
      rw [state] at done
      obtain ⟨applied, apply, done⟩ := bind_eq_ok.mp done
      cases pure_eq_ok.mp done
      exact ⟨flagPayment_footprint apply, rfl⟩

theorem applyPayQuery_marked {clock : Clock} {answer : Option PaymentQueryResult}
    (done : applyPayQuery clock args answer db = .ok result) :
    ∃ applied, (∀ scope : Scope, scope.answer = answer.map (fun given =>
        (args.paymentID, given.tradeState)) → Footprint scope db applied) ∧
      markNotificationProcessed args.notificationID applied = .ok result := by
  obtain ⟨order, payment, method, locked, same, _, ⟨_, _, reject⟩ | ⟨given, rfl, _, accept⟩⟩ :=
    applyPayQuery_eq_ok done
  · unfold rejectAnswer at reject
    obtain ⟨flagged, flag, mark⟩ := bind_eq_ok.mp reject
    exact ⟨flagged, fun _ _ => flagPayment_footprint flag, mark⟩
  · unfold acceptAnswer at accept
    obtain ⟨⟨mark, applied⟩, apply, accept⟩ := bind_eq_ok.mp accept
    have touched (scope : Scope) (about : scope.answer = some (args.paymentID, given.tradeState)) :
        Footprint scope db applied ∧ mark = true :=
      applyTradeState_footprint locked.foundPayment (same ▸ about) apply
    obtain ⟨_, rfl⟩ := touched
      { notification := 0
        answer := some (args.paymentID, given.tradeState)
        places := false
        attempts := false
        delivers := false } rfl
    exact ⟨applied, fun scope about => (touched scope about).1, accept⟩

private theorem applyPayQuery_footprint {clock : Clock} {answer : Option PaymentQueryResult}
    (about : scope.notification = args.notificationID)
    (answers : scope.answer = answer.map (fun given => (args.paymentID, given.tradeState)))
    (done : applyPayQuery clock args answer db = .ok result) : Footprint scope db result := by
  obtain ⟨applied, applying, mark⟩ := applyPayQuery_marked done
  exact (applying scope answers).trans (markNotificationProcessed_footprint about mark)

/-! ### Every other transaction -/

private theorem applyReconciliation_footprint {actor : Actor} {input : ReconciliationInput}
    {action : ReconciliationAction}
    (done : applyReconciliation now actor input db = .ok (action, result)) :
    Footprint scope db result := by
  have reviewing (status : ReconciliationStatus) (row : Payment) :
      row.Moved scope.answer (row.reviewed status) :=
    ⟨rfl, .inl ⟨fun closed => closed, fun failed => .inl ⟨failed, rfl, rfl⟩⟩⟩
  obtain ⟨order, payment, locked, _, ⟨_, _, rfl⟩ |
    ⟨changed, jobID, moved, move, audit, _, _⟩⟩ := applyReconciliation_eq_ok done
  · exact .refl _
  · obtain ⟨_, rfl, _, _⟩ := createReconciliationAction_eq_ok audit
    have moving : Footprint scope db moved := by
      unfold moveReconciliation at move
      split at move
      · unfold retryReconciliation at move
        iterate 2 obtain ⟨_, _, move⟩ := bind_eq_ok.mp move
        obtain ⟨⟨row, processing⟩, update, move⟩ := bind_eq_ok.mp move
        cases pure_eq_ok.mp move
        refine (updatePayment_footprint (found_eq_ok.mp update)
          (fun row _ _ => reviewing .processing row)).trans (enqueue_footprint processing _ ?_ none)
        intro _
        split <;> exact le_refl 0
      · obtain ⟨_, _, update⟩ := resolveReconciliation_eq_ok move
        obtain ⟨row, present, _, _, rfl⟩ := resolvePaymentReconciliation_eq_some update
        exact (Footprint.of_payments (.update Payment.Moved.refl present rfl
          (reviewing .resolved row))).trans (.same rfl rfl rfl rfl rfl)
    exact moving.trans (.same rfl rfl rfl rfl rfl)

private theorem applyFulfillment_footprint {actor : Actor} {input : OrderFulfillmentInput}
    {action : FulfillmentAction} (done : applyFulfillment actor input db = .ok (action, result)) :
    Footprint scope db result := by
  obtain ⟨order, _, _, ⟨_, _, rfl⟩ | ⟨_, _, _, _, _, _, _, mark, audit, _⟩⟩ :=
    applyFulfillment_eq_ok done
  · exact .refl _
  · obtain ⟨_, rfl, _, _⟩ := createOrderFulfillmentAction_eq_ok audit
    obtain ⟨_, rfl⟩ := markFulfilled_eq_some mark
    exact .same rfl rfl rfl rfl rfl

theorem execute_footprint (operation : Operation) (done : execute operation db = .ok result) :
    Footprint operation.scope db result := by
  cases operation with
  | accounts users addresses =>
      obtain ⟨_, _, done⟩ := bind_eq_ok.mp done
      cases pure_eq_ok.mp done
      exact .same rfl rfl rfl rfl rfl
  | createProduct input stock status =>
      obtain ⟨⟨_, _⟩, body, rfl⟩ := map_eq_ok.mp done
      iterate 4 obtain ⟨_, _, body⟩ := bind_eq_ok.mp body
      cases pure_eq_ok.mp body
      exact .same rfl rfl rfl rfl rfl
  | updateProduct id input =>
      obtain ⟨⟨_, _⟩, body, rfl⟩ := map_eq_ok.mp done
      iterate 3 obtain ⟨_, _, body⟩ := bind_eq_ok.mp body
      exact updateProductRow_footprint (found_eq_ok.mp body)
  | updateProductStatus id status =>
      obtain ⟨⟨_, _⟩, body, rfl⟩ := map_eq_ok.mp done
      obtain ⟨_, _, body⟩ := bind_eq_ok.mp body
      exact updateProductRow_footprint (found_eq_ok.mp body)
  | softDeleteProduct now id =>
      obtain ⟨_, _, done⟩ := bind_eq_ok.mp done
      cases pure_eq_ok.mp done
      exact .same rfl rfl rfl rfl rfl
  | adjustStock input =>
      obtain ⟨⟨_, _⟩, body, rfl⟩ := map_eq_ok.mp done
      exact adjustStock_footprint body
  | createOrder digest orderNo paymentTimeout now request =>
      obtain ⟨⟨_, _⟩, body, rfl⟩ := map_eq_ok.mp done
      exact submitOrder_footprint rfl body
  | cancelOrder id userID => exact cancelOrder_footprint done
  | expireOrder now orderID =>
      obtain ⟨⟨_, _⟩, body, rfl⟩ := map_eq_ok.mp done
      exact expireOrder_footprint body
  | createPayment args now =>
      obtain ⟨⟨_, _⟩, body, rfl⟩ := map_eq_ok.mp done
      exact createPayment_footprint rfl body
  | claimPaymentPrepay clock id token lease =>
      obtain ⟨⟨_, _⟩, body, rfl⟩ := map_eq_ok.mp done
      exact claimPaymentPrepay_footprint body
  | activatePayment id token actionType actionPayload poll =>
      obtain ⟨⟨_, _⟩, body, rfl⟩ := map_eq_ok.mp done
      exact activatePayment_footprint (fun aside => not_lt.mp (of_decide_eq_false aside)) body
  | recordPaymentPrepayError id token lastError =>
      cases done
      exact recordPaymentPrepayError_footprint id token lastError db
  | markPayClosePending args => exact markPayClosePending_footprint rfl done
  | markReconciliationRequired failure => exact markReconciliationRequired_footprint rfl done
  | applyPayQuery clock args answer => exact applyPayQuery_footprint rfl rfl done
  | preparePaymentRefund now paymentID outRefundNo =>
      obtain ⟨⟨_, _, _⟩, body, rfl⟩ := map_eq_ok.mp done
      exact preparePaymentRefund_footprint rfl body
  | recordPaymentRefundError now refundID lastError definitive =>
      exact recordPaymentRefundError_footprint rfl done
  | applyPaymentRefund now paymentID refundID =>
      obtain ⟨⟨_, _⟩, body, rfl⟩ := map_eq_ok.mp done
      exact applyPaymentRefund_footprint body
  | applyReconciliation now actor input =>
      obtain ⟨⟨_, _⟩, body, rfl⟩ := map_eq_ok.mp done
      exact applyReconciliation_footprint body
  | applyFulfillment actor input =>
      obtain ⟨⟨_, _⟩, body, rfl⟩ := map_eq_ok.mp done
      exact applyFulfillment_footprint body
  | handleError jobID attempt lastError job => exact handleError_footprint rfl done
  | persistAndEnqueueNotification input args =>
      obtain ⟨⟨_, _⟩, body, rfl⟩ := map_eq_ok.mp done
      exact .of_clerical (persistAndEnqueueNotification_clerical body) nofun
  | beginPaymentNotificationProcessing id provider outTradeNo =>
      obtain ⟨⟨_, _⟩, body, rfl⟩ := map_eq_ok.mp done
      exact .of_clerical (beginPaymentNotificationProcessing_clerical body)
        (fun _ => beginPaymentNotificationProcessing_ok_works body)
  | recordPaymentNotificationError id lastError =>
      cases done
      exact .of_clerical (recordPaymentNotificationError_clerical id lastError db)
        (fun _ => recordPaymentNotificationError_works id lastError db)
  | markPaymentNotificationFailed id lastError =>
      exact markPaymentNotificationFailed_footprint rfl done
  | enqueueJob args scheduledAt =>
      cases done
      exact enqueue_footprint db _ (fun aside => not_lt.mp (of_decide_eq_false aside)) scheduledAt
  | finishJob id =>
      cases done
      exact .of_clerical (.intro db.notifications _) nofun

/-! ### What follows -/

/-- A transaction that applies no answer closes nothing. -/
theorem execute_held {operation : Operation} (other : operation.appliesAnswer = false)
    (done : execute operation db = .ok result) :
    Table.Evolves Payment.Held Payment.Opened db.payments result.payments := by
  have unanswered : operation.scope.answer = none := by
    cases operation <;> first | rfl | cases other
  exact (execute_footprint operation done).payments.mono (fun moved => moved.held unanswered)
    (fun opened => opened.2)

theorem execute_settles {operation : Operation} (aside : operation.attemptsRefund = false)
    (done : execute operation db = .ok result) : RefundsSettle db.refunds result.refunds := by
  refine (execute_footprint operation done).refunds ?_
  cases operation <;> first | rfl | cases aside

theorem next_sameOrders {operation : Operation} (other : operation.createsOrder = false) :
    SameOrders db (next operation db) := by
  rcases commit_cases (execute operation) db with same | done
  · rw [next, same]
    rfl
  · refine (execute_footprint operation done).orders ?_
    cases operation <;> first | rfl | cases other

theorem next_works {operation : Operation} {notification : Int} (aside : operation.aside = true)
    (db : Database) : Works notification db (next operation db) := by
  rcases commit_cases (execute operation) db with same | done
  · rw [next, same]
    exact .refl db
  · have unnamed : operation.scope.delivers = false ∧ operation.scope.notification ≤ 0 := by
      cases operation <;> first
        | exact ⟨rfl, le_refl 0⟩
        | exact ⟨rfl, of_decide_eq_true aside⟩
        | exact ⟨decide_eq_false (not_lt.mpr (of_decide_eq_true aside)), le_refl 0⟩
        | cases aside
    exact ((execute_footprint operation done).works unnamed.1).of_nonpos unnamed.2 _

end Mall
