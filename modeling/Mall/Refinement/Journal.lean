/-
Every operation is one booking of the journal.
-/

import Mall.Refinement.Entries
import Mall.Refinement.System

namespace Mall

open Relational Relation Transactional

variable {citation : Citation} {db result : Database} {now : Time} {order : Order}
  {payment : Payment} {args : CheckPayArgs}

/-! ### Checkout -/

theorem reserveItems_journal {orderID : Int} {snapshots : List ItemSnapshot}
    (done : reserveItems orderID snapshots db = .ok result) :
    ∃ items, result.journal = { db.journal with orderItems := items } ∧
      (∀ item ∈ db.orderItems, item ∈ items) ∧
      ∀ item ∈ items, item ∈ db.orderItems ∨ item.orderId = orderID := by
  induction snapshots generalizing db with
  | nil =>
      cases done
      exact ⟨_, rfl, fun _ member => member, fun _ member => Or.inl member⟩
  | cons snapshot rest ih =>
      rw [reserveItems] at done
      obtain ⟨⟨_, reduced⟩, taken, done⟩ := bind_eq_ok.mp done
      obtain ⟨_, _, _, _, rfl⟩ := Database.updateProductRow_eq_some.mp (found_eq_ok.mp taken)
      obtain ⟨items, journal, kept, added⟩ := ih done
      refine ⟨items, journal, ?_, ?_⟩
      · intro item member
        exact kept item (Table.mem_insert.mpr (Or.inl member))
      · intro item member
        rcases added item member with old | own
        · rcases Table.mem_insert.mp old with before | rfl
          · exact Or.inl before
          · exact Or.inr rfl
        · exact Or.inr own

private theorem placeOrder_booked {args : CreateOrderArgs}
    (done : placeOrder args now db = .ok (order, result)) : Booked citation db.journal result.journal := by
  unfold placeOrder at done
  split at done
  · obtain ⟨_, _, done⟩ := bind_eq_ok.mp done
    cases pure_eq_ok.mp done
    exact .refl _
  · next unused =>
      obtain ⟨_, _, done⟩ := bind_eq_ok.mp done
      obtain ⟨address, _, done⟩ := bind_eq_ok.mp done
      obtain ⟨⟨snapshots, total⟩, _, done⟩ := bind_eq_ok.mp done
      obtain ⟨_, _, done⟩ := bind_eq_ok.mp done
      obtain ⟨⟨created, stored⟩, opened, done⟩ := bind_eq_ok.mp done
      obtain ⟨reserved, written, done⟩ := bind_eq_ok.mp done
      cases pure_eq_ok.mp done
      obtain ⟨rfl, rfl⟩ := createOrderRow_eq_ok opened
      obtain ⟨items, journal, kept, added⟩ := reserveItems_journal written
      rw [(enqueue_clerical reserved _ _).journal, journal]
      refine .turn (.place (newOrder args address total now) items rfl rfl ?_ kept added)
      intro other member user key
      have absent := List.find?_eq_none.mp unused other member
      simp only [Bool.and_eq_true, beq_iff_eq] at absent
      exact absent ⟨user, key⟩

private theorem submitOrder_booked {digest : Int → Int → List OrderItemInput → String}
    {orderNo : String} {paymentTimeout : Int} {request : CreateOrderReq}
    (done : submitOrder digest orderNo paymentTimeout now request db = .ok (order, result)) :
    Booked citation db.journal result.journal := by
  unfold submitOrder at done
  obtain ⟨⟨key, items⟩, _, done⟩ := bind_eq_ok.mp done
  dsimp only at done
  unfold createOrder at done
  split at done
  · next placed =>
      cases done
      exact placeOrder_booked placed
  · split at done
    · cases done
    · split at done
      · obtain ⟨_, _, done⟩ := bind_eq_ok.mp done
        obtain ⟨_, _, done⟩ := bind_eq_ok.mp done
        cases pure_eq_ok.mp done
        exact .refl _
      · cases done

/-! ### Cancellation and expiry -/

/-- The order passes through cancelling inside the transaction only. -/
theorem releaseOrder_turn {orderID : Int} (done : releaseOrder orderID db = .ok result) :
    Turn citation db.journal result.journal := by
  unfold releaseOrder at done
  obtain ⟨⟨_, cancelling⟩, mark, done⟩ := bind_eq_ok.mp done
  obtain ⟨restored, restore, done⟩ := bind_eq_ok.mp done
  obtain ⟨⟨_, cancelled⟩, last, done⟩ := bind_eq_ok.mp done
  cases pure_eq_ok.mp done
  obtain ⟨row, present, pending, _, rfl⟩ := Database.updateOrder_eq_some.mp (found_eq_ok.mp mark)
  cases Database.restoreOrderItemStock_eq_ok restore
  obtain ⟨_, _, _, _, rfl⟩ := Database.updateOrder_eq_some.mp (found_eq_ok.mp last)
  have turn := @Turn.release citation db.journal orderID row present (eq_of_beq pending)
  have same : (db.orders.update orderID (fun order : Order =>
      { order with status := .cancelling })).update orderID
        (fun order => { order with status := .cancelled, isCompleted := true }) =
      db.orders.update orderID (fun order => { order.ended .cancelled with id := orderID }) :=
    Table.update_update ..
  have plain : db.orders.update orderID (fun order => { order.ended .cancelled with id := orderID }) =
      db.orders.update orderID (Order.ended .cancelled) :=
    Table.update_assign db.orders orderID (Order.ended .cancelled) (fun _ _ _ => rfl)
  change Turn citation db.journal { db.journal with orders := (db.orders.update orderID _).update orderID _ }
  rw [same, plain]
  exact turn

private theorem cancelOrder_booked {id userID : Int}
    (done : cancelOrder id userID db = .ok result) :
    Booked citation db.journal result.journal := by
  unfold cancelOrder at done
  obtain ⟨_, _, done⟩ := bind_eq_ok.mp done
  unfold cancelOrderByUser at done
  obtain ⟨order, _, done⟩ := bind_eq_ok.mp done
  split at done
  · cases pure_eq_ok.mp done
    exact .refl _
  · obtain ⟨_, _, done⟩ := bind_eq_ok.mp done
    obtain ⟨⟨rows, recovered⟩, recovery, done⟩ := bind_eq_ok.mp done
    obtain ⟨_, _, done⟩ := bind_eq_ok.mp done
    obtain ⟨_, _, done⟩ := bind_eq_ok.mp done
    exact .turned (recoverUnsupportedPayments_entries recovery) (releaseOrder_turn done)

private theorem closeActivePayments_entries {rows : List Payment} {active : Bool}
    (done : closeActivePayments rows db = .ok (active, result)) :
    Entries db.journal result.journal := by
  induction rows generalizing db active with
  | nil =>
      cases done
      exact .refl
  | cons payment rest ih =>
      rw [closeActivePayments] at done
      split at done
      · obtain ⟨⟨row, changed⟩, closing, done⟩ := bind_eq_ok.mp done
        obtain ⟨_, _, done⟩ := bind_eq_ok.mp done
        obtain ⟨⟨_, last⟩, later, done⟩ := bind_eq_ok.mp done
        cases pure_eq_ok.mp done
        have rest := ih later
        rw [(enqueue_clerical changed _ none).journal] at rest
        unfold startClosing at closing
        split at closing
        · cases closing
          exact rest
        · exact (markPaymentClosePending_entries (found_eq_ok.mp closing)).trans rest
      · exact ih done

private theorem markOrderPaid_turn {id payment : Int} {changed : Order}
    (mark : db.markOrderPaid id payment = some (changed, result)) :
    Turn citation db.journal result.journal := by
  obtain ⟨row, present, pending, _, rfl⟩ := Database.updateOrder_eq_some.mp mark
  exact .heal id payment row present (eq_of_beq pending)

private theorem healExpiredOrder_turn {orderID : Int} {reconcile : Bool}
    (done : healExpiredOrder orderID payment db = .ok (reconcile, result)) :
    Turn citation db.journal result.journal := by
  unfold healExpiredOrder at done
  split at done
  · obtain ⟨⟨_, paid⟩, mark, done⟩ := bind_eq_ok.mp done
    cases pure_eq_ok.mp done
    exact markOrderPaid_turn (found_eq_ok.mp mark)
  · obtain ⟨⟨_, flagged⟩, flag, done⟩ := bind_eq_ok.mp done
    obtain ⟨recorded, evidence, done⟩ := bind_eq_ok.mp done
    cases pure_eq_ok.mp done
    refine flag_turn flag rfl rfl ?_ evidence
    rintro job ⟨⟩

private theorem expireOrder_booked {orderID : Int} {reconcile : Bool}
    (done : expireOrder now orderID db = .ok (reconcile, result)) :
    Booked citation db.journal result.journal := by
  unfold expireOrder at done
  obtain ⟨_, _, done⟩ := bind_eq_ok.mp done
  obtain ⟨order, _, done⟩ := bind_eq_ok.mp done
  split at done
  · cases pure_eq_ok.mp done
    exact .refl _
  · obtain ⟨_, _, done⟩ := bind_eq_ok.mp done
    obtain ⟨⟨rows, recovered⟩, recovery, done⟩ := bind_eq_ok.mp done
    obtain ⟨_, _, done⟩ := bind_eq_ok.mp done
    have first := recoverUnsupportedPayments_entries recovery
    dsimp only at done
    split at done
    · exact .turned first (healExpiredOrder_turn done)
    · obtain ⟨⟨active, closing⟩, close, done⟩ := bind_eq_ok.mp done
      have second := first.trans (closeActivePayments_entries close)
      split at done
      · cases pure_eq_ok.mp done
        exact .entries second
      · obtain ⟨released, release, done⟩ := bind_eq_ok.mp done
        cases pure_eq_ok.mp done
        exact .turned second (releaseOrder_turn release)

private theorem finalizeOrderAfterPaymentInactive_turn {payments : List Payment} {current : Payment}
    (done : finalizeOrderAfterPaymentInactive order payments current db = .ok result) :
    result.journal = db.journal ∨ Turn citation db.journal result.journal := by
  unfold finalizeOrderAfterPaymentInactive at done
  split at done
  · split at done
    · obtain ⟨⟨_, paid⟩, mark, done⟩ := bind_eq_ok.mp done
      cases pure_eq_ok.mp done
      exact Or.inr (markOrderPaid_turn (found_eq_ok.mp mark))
    · cases done
      exact Or.inl rfl
  · split at done
    · exact Or.inr (releaseOrder_turn done)
    · cases done
      exact Or.inl rfl

/-! ### Refunds -/

private theorem updateRefund_entries {id : Int} {guard : OrderRefund → Bool}
    {change : OrderRefund → OrderRefund} {changed : OrderRefund}
    (updated : db.updateRefund id guard change = some (changed, result)) :
    Entries db.journal result.journal := by
  obtain ⟨_, _, _, _, rfl⟩ := Database.updateRefund_eq_some.mp updated
  exact .single (.refunds _)

private theorem preparePaymentRefund_entries {paymentID : Int} {outRefundNo : String}
    {refund : OrderRefund}
    (done : preparePaymentRefund now paymentID outRefundNo db = .ok (payment, refund, result)) :
    Entries db.journal result.journal := by
  obtain ⟨order, _, ⟨existing, _, resume⟩ | ⟨purpose, _, _, _, create⟩⟩ :=
    preparePaymentRefund_cases done
  · unfold resumeRefund at resume
    obtain ⟨_, _, resume⟩ := bind_eq_ok.mp resume
    obtain ⟨_, _, resume⟩ := bind_eq_ok.mp resume
    obtain ⟨_, _, resume⟩ := bind_eq_ok.mp resume
    obtain ⟨_, _, resume⟩ := bind_eq_ok.mp resume
    split at resume
    · exact updateRefund_entries (found_eq_ok.mp resume)
    · cases pure_eq_ok.mp resume
      exact .refl
  · obtain ⟨_, rfl, _⟩ := createOrderRefund_eq_ok create
    exact .single (.refunds _)

private theorem recordPaymentRefundError_entries {refundID : Int} {lastError : String}
    {definitive : Bool}
    (done : recordPaymentRefundError now refundID lastError definitive db = .ok result) :
    Entries db.journal result.journal := by
  unfold recordPaymentRefundError at done
  obtain ⟨⟨_, recorded⟩, record, done⟩ := bind_eq_ok.mp done
  cases pure_eq_ok.mp done
  exact updateRefund_entries (found_eq_ok.mp record)

private theorem reverseOrder_eq_ok {orderID : Int} {purpose : RefundPurpose}
    (done : reverseOrder orderID purpose db = .ok result) :
    ∃ orders products, result = { db with orders := orders, products := products } ∧
      (orders = db.orders ∨ ∃ orderId order, db.orders.find? orderId = some order ∧
        order.status = .paid ∧ orders = db.orders.update orderId (Order.ended .refunded)) := by
  unfold reverseOrder at done
  split at done
  · obtain ⟨⟨_, refunded⟩, mark, done⟩ := bind_eq_ok.mp done
    obtain ⟨row, present, paid, _, rfl⟩ := Database.updateOrder_eq_some.mp (found_eq_ok.mp mark)
    cases Database.restoreOrderItemStock_eq_ok done
    exact ⟨_, _, rfl, Or.inr ⟨orderID, row, present, eq_of_beq paid, rfl⟩⟩
  · cases done
    exact ⟨_, _, rfl, Or.inl rfl⟩

private theorem settlePaymentRefund_turn {payment changed : Payment} {refund : OrderRefund}
    (stored : db.payments.find? payment.id = some payment)
    (done : settlePaymentRefund now order payment refund db = .ok (changed, result)) :
    result.journal = db.journal ∨ Turn citation db.journal result.journal := by
  unfold settlePaymentRefund at done
  obtain ⟨_, _, done⟩ := bind_eq_ok.mp done
  split at done
  · cases pure_eq_ok.mp done
    exact Or.inl rfl
  · obtain ⟨_, received, done⟩ := bind_eq_ok.mp done
    obtain ⟨_, _, done⟩ := bind_eq_ok.mp done
    obtain ⟨reversed, reverse, done⟩ := bind_eq_ok.mp done
    obtain ⟨⟨_, marked⟩, mark, confirm⟩ := bind_eq_ok.mp done
    obtain ⟨orders, products, rfl, moved⟩ := reverseOrder_eq_ok reverse
    obtain ⟨_, _, _, _, rfl⟩ := Database.updateRefund_eq_some.mp (found_eq_ok.mp mark)
    obtain ⟨_, _, _, _, rfl⟩ := Database.updatePayment_eq_some.mp (found_eq_ok.mp confirm)
    exact Or.inr (.refund payment.id payment orders _ stored (require_eq_ok.mp received) moved)

private theorem applyPaymentRefund_booked {paymentID refundID : Int}
    (done : applyPaymentRefund now paymentID refundID db = .ok (payment, result)) :
    Booked citation db.journal result.journal := by
  unfold applyPaymentRefund at done
  obtain ⟨order, owner, done⟩ := bind_eq_ok.mp done
  obtain ⟨current, present, done⟩ := bind_eq_ok.mp done
  obtain ⟨refund, _, done⟩ := bind_eq_ok.mp done
  obtain ⟨_, _, done⟩ := bind_eq_ok.mp done
  obtain ⟨locked, _⟩ :=
    getOrderForUpdateByPaymentID_locked (found_eq_ok.mp present) (found_eq_ok.mp owner)
  exact .after .refl (settlePaymentRefund_turn locked.foundPayment done)

/-! ### Provider answers -/

private theorem flagPayment_turn {method : PaymentMethod} {reason : ReconciliationReason}
    {detail lastError : String}
    (done : flagPayment args method reason detail lastError db = .ok result) :
    Turn citation db.journal result.journal := by
  unfold flagPayment at done
  obtain ⟨⟨_, flagged⟩, flag, done⟩ := bind_eq_ok.mp done
  refine flag_turn flag rfl rfl ?_ done
  rintro job ⟨⟩

private theorem recordPaymentSuccess_turn {method : PaymentMethod} {payment row : Payment}
    {transaction : String} {decision : PaymentSuccessDecision} {recorded : Database}
    (stored : db.payments.find? payment.id = some payment) (about : args.paymentID = payment.id)
    (named : transaction ≠ "")
    (record : db.recordPaymentSuccess now payment.id transaction = .ok (row, recorded))
    (done : applyDecision args method payment decision recorded = .ok result) :
    Turn citation db.journal result.journal := by
  unfold Database.recordPaymentSuccess at record
  obtain ⟨⟨_, updated⟩, update, record⟩ := bind_eq_ok.mp record
  obtain ⟨_, fresh, record⟩ := bind_eq_ok.mp record
  cases pure_eq_ok.mp record
  obtain ⟨old, present, unsettled, rfl, rfl⟩ :=
    Database.updatePayment_eq_some.mp (found_eq_ok.mp update)
  cases present.symm.trans stored
  have unpaid : payment.status.isSettled = false := by
    simpa using unsettled
  have unique : ∀ other ∈ db.journal.payments, other.id ≠ payment.id →
      other.payChannel = payment.payChannel → other.thirdPartyTxId ≠ some transaction :=
    fun other member elsewhere channel taken =>
      require_eq_ok.mp fresh other member ⟨elsewhere, taken, channel⟩
  unfold applyDecision at done
  obtain ⟨funded, fund, done⟩ := bind_eq_ok.mp done
  have paid : ∃ orders, funded = { db with
        orders := orders
        payments := db.payments.update payment.id (Payment.settled now transaction) } ∧
      (orders = db.orders ∨ ∃ order, db.orders.find? payment.orderId = some order ∧
        order.status = .pendingPayment ∧
        orders = db.orders.update payment.orderId (Order.paidBy payment.id)) := by
    unfold markPaidIf at fund
    split at fund
    · obtain ⟨⟨_, marked⟩, mark, fund⟩ := bind_eq_ok.mp fund
      cases pure_eq_ok.mp fund
      obtain ⟨order, known, pending, _, rfl⟩ :=
        Database.updateOrder_eq_some.mp (found_eq_ok.mp mark)
      exact ⟨_, rfl, Or.inr ⟨order, known, eq_of_beq pending, rfl⟩⟩
    · cases fund
      exact ⟨db.orders, rfl, Or.inl rfl⟩
  obtain ⟨orders, rfl, funds⟩ := paid
  split at done
  · unfold flagPayment at done
    obtain ⟨⟨_, flagged⟩, flag, done⟩ := bind_eq_ok.mp done
    obtain ⟨payments, raised, rfl⟩ := requirePaymentReconciliation_raised flag
    obtain ⟨failures, evidenced, rfl⟩ := createPaymentReconciliationFailure_evidenced done
    rw [about] at raised evidenced
    exact .settle payment.id payment now transaction orders payments failures stored unpaid named
      unique funds (Or.inr ⟨_, _, _, raised, rfl, rfl, rfl, evidenced⟩)
  · cases pure_eq_ok.mp done
    exact .settle payment.id payment now transaction orders _ db.failures stored unpaid named unique
      funds (Or.inl ⟨rfl, rfl⟩)

private theorem applySuccess_turn {method : PaymentMethod} {payments : List Payment}
    {transaction : String} (stored : db.payments.find? payment.id = some payment)
    (about : args.paymentID = payment.id)
    (done : applySuccess now args method order payments payment transaction db = .ok result) :
    result.journal = db.journal ∨ Turn citation db.journal result.journal := by
  unfold applySuccess at done
  obtain ⟨_, named, done⟩ := bind_eq_ok.mp done
  split at done
  · split at done
    · cases pure_eq_ok.mp done
      exact Or.inl rfl
    · exact Or.inr (flagPayment_turn done)
  · obtain ⟨_, _, done⟩ := bind_eq_ok.mp done
    obtain ⟨⟨row, recorded⟩, record, done⟩ := bind_eq_ok.mp done
    obtain ⟨decision, _, done⟩ := bind_eq_ok.mp done
    exact Or.inr (recordPaymentSuccess_turn stored about (require_eq_ok.mp named) record done)

private theorem applyClosed_booked {payments : List Payment} {transaction : String} {mark : Bool}
    (done : applyClosed order payments payment transaction db = .ok (mark, result)) :
    Booked citation db.journal result.journal := by
  unfold applyClosed at done
  split at done
  · obtain ⟨_, _, done⟩ := bind_eq_ok.mp done
    obtain ⟨_, _, done⟩ := bind_eq_ok.mp done
    obtain ⟨_, _, done⟩ := bind_eq_ok.mp done
    cases pure_eq_ok.mp done
    exact .refl _
  · split at done
    · cases pure_eq_ok.mp done
      exact .refl _
    · split at done
      · next closed update =>
          obtain ⟨settled, finalize, done⟩ := bind_eq_ok.mp done
          cases pure_eq_ok.mp done
          exact .after (markPaymentClosed_entries update)
            (finalizeOrderAfterPaymentInactive_turn finalize)
      · obtain ⟨_, _, done⟩ := bind_eq_ok.mp done
        obtain ⟨_, _, done⟩ := bind_eq_ok.mp done
        cases pure_eq_ok.mp done
        exact .refl _

private theorem applyPayError_booked {payments : List Payment} {description : String}
    (done : applyPayError args order payments payment description db = .ok result) :
    Booked citation db.journal result.journal := by
  unfold applyPayError at done
  obtain ⟨failed, fail, done⟩ := bind_eq_ok.mp done
  have first : Entries db.journal failed.journal := by
    unfold failPayment at fail
    split at fail
    · next update =>
        cases fail
        exact markPaymentFailed_entries update
    · obtain ⟨_, _, fail⟩ := bind_eq_ok.mp fail
      cases pure_eq_ok.mp fail
      exact .refl
  split at done
  · exact .after first (finalizeOrderAfterPaymentInactive_turn done)
  · cases pure_eq_ok.mp done
    exact .entries first

private theorem applyRefund_turn {method : PaymentMethod}
    (stored : db.payments.find? payment.id = some payment)
    (done : applyRefund now args method order payment db = .ok result) :
    result.journal = db.journal ∨ Turn citation db.journal result.journal := by
  unfold applyRefund at done
  split at done
  · cases done
    exact Or.inl rfl
  · obtain ⟨_, _, done⟩ := bind_eq_ok.mp done
    split at done
    · exact Or.inr (flagPayment_turn done)
    · obtain ⟨⟨_, settled⟩, settle, done⟩ := bind_eq_ok.mp done
      cases pure_eq_ok.mp done
      exact settlePaymentRefund_turn stored settle

private theorem applyTradeState_booked {method : PaymentMethod} {payments : List Payment}
    {answer : PaymentQueryResult} {mark : Bool}
    (stored : db.payments.find? payment.id = some payment) (about : args.paymentID = payment.id)
    (done : applyTradeState now args method order payments payment answer db = .ok (mark, result)) :
    Booked citation db.journal result.journal := by
  unfold applyTradeState at done
  split at done
  · obtain ⟨applied, apply, done⟩ := bind_eq_ok.mp done
    cases pure_eq_ok.mp done
    exact .after .refl (applySuccess_turn stored about apply)
  · exact applyClosed_booked done
  · exact applyClosed_booked done
  · obtain ⟨applied, apply, done⟩ := bind_eq_ok.mp done
    cases pure_eq_ok.mp done
    exact applyPayError_booked apply
  · obtain ⟨applied, apply, done⟩ := bind_eq_ok.mp done
    cases pure_eq_ok.mp done
    exact .after .refl (applyRefund_turn stored apply)
  all_goals
    obtain ⟨applied, apply, done⟩ := bind_eq_ok.mp done
    cases pure_eq_ok.mp done
    exact .turn (flagPayment_turn apply)

private theorem applyPayQuery_booked {clock : Clock} {answer : Option PaymentQueryResult}
    (done : applyPayQuery clock args answer db = .ok result) :
    Booked citation db.journal result.journal := by
  obtain ⟨order, payment, method, locked, same, _, ⟨_, _, reject⟩ | ⟨given, rfl, _, accept⟩⟩ :=
    applyPayQuery_eq_ok done
  · unfold rejectAnswer at reject
    obtain ⟨flagged, flag, reject⟩ := bind_eq_ok.mp reject
    rw [(markNotificationProcessed_clerical reject).journal]
    exact .turn (flagPayment_turn flag)
  · unfold acceptAnswer at accept
    obtain ⟨⟨mark, applied⟩, apply, accept⟩ := bind_eq_ok.mp accept
    have booked : Booked citation db.journal applied.journal :=
      applyTradeState_booked locked.foundPayment same apply
    cases mark with
    | true =>
        rw [(markNotificationProcessed_clerical accept).journal]
        exact booked
    | false =>
        cases pure_eq_ok.mp accept
        exact booked

/-! ### Administration -/

theorem createReconciliationAction_eq_ok {row stored : ReconciliationAction}
    (done : db.createReconciliationAction row = .ok (stored, result)) :
    stored = db.reconciliationActions.inserted row ∧
      result = { db with reconciliationActions := db.reconciliationActions.insert row } ∧
      (∀ other ∈ db.reconciliationActions, other.paymentId = row.paymentId →
        other.idempotencyKey ≠ row.idempotencyKey) ∧
      ∀ other ∈ db.reconciliationActions, other.paymentId = row.paymentId →
        other.toVersion ≠ row.toVersion := by
  unfold Database.createReconciliationAction at done
  obtain ⟨_, unused, done⟩ := bind_eq_ok.mp done
  obtain ⟨_, fresh, done⟩ := bind_eq_ok.mp done
  cases pure_eq_ok.mp done
  refine ⟨rfl, rfl, ?_, fun other member same version =>
    require_eq_ok.mp fresh other member ⟨same, version⟩⟩
  intro other member same key
  have absent := List.find?_eq_none.mp (Option.isNone_iff_eq_none.mp (require_eq_ok.mp unused)) other
    member
  simp only [Bool.and_eq_true, beq_iff_eq] at absent
  exact absent ⟨same, key⟩

theorem retryReconciliation_eq_ok {payment changed : Payment} {version : Int} {jobID : Option Int}
    (done : retryReconciliation order payment version db = .ok (changed, jobID, result)) :
    ∃ row notifications jobs, db.payments.find? payment.id = some row ∧
      row.reconciliationStatus = .required ∧
      changed = { row.reviewed .processing with id := payment.id } ∧
      result = { db with
        payments := db.payments.update payment.id (Payment.reviewed .processing)
        notifications := notifications
        jobs := jobs } := by
  unfold retryReconciliation at done
  obtain ⟨_, _, done⟩ := bind_eq_ok.mp done
  obtain ⟨_, _, done⟩ := bind_eq_ok.mp done
  obtain ⟨⟨row, processing⟩, update, done⟩ := bind_eq_ok.mp done
  cases pure_eq_ok.mp done
  obtain ⟨old, present, allowed, rfl, rfl⟩ :=
    Database.updatePayment_eq_some.mp (found_eq_ok.mp update)
  simp only [Bool.and_eq_true, beq_iff_eq] at allowed
  obtain ⟨jobs, queued⟩ := Database.enqueue_snd { db with
    payments := db.payments.update payment.id (Payment.reviewed .processing) } _ none
  exact ⟨old, db.notifications, jobs, present, allowed.2, rfl, queued⟩

theorem resolvePaymentReconciliation_eq_some {id version : Int} {changed : Payment}
    (done : db.resolvePaymentReconciliation now id version = some (changed, result)) :
    ∃ row, db.payments.find? id = some row ∧ row.needsReview = true ∧
      changed = { row.reviewed .resolved with id := id } ∧
      result = { db with
        payments := db.payments.update id (Payment.reviewed .resolved)
        failures := db.failures.rewrite (ReconciliationFailure.closedFor id now) } := by
  obtain ⟨⟨row, updated⟩, update, same⟩ := Option.map_eq_some_iff.mp done
  cases same
  obtain ⟨old, present, allowed, rfl, rfl⟩ := Database.updatePayment_eq_some.mp update
  exact ⟨old, present, (Bool.and_eq_true_iff.mp allowed).2, rfl, rfl⟩

private theorem applyReconciliation_booked {actor : Actor} {input : ReconciliationInput}
    {action : ReconciliationAction}
    (done : applyReconciliation now actor input db = .ok (action, result)) :
    Booked citation db.journal result.journal := by
  obtain ⟨order, payment, locked, _, ⟨_, _, rfl⟩ |
    ⟨changed, jobID, moved, move, audit, _, account⟩⟩ := applyReconciliation_eq_ok done
  · exact .refl _
  · obtain ⟨_, rfl, freshKey, freshVersion⟩ := createReconciliationAction_eq_ok audit
    cases kind : input.action with
    | retry =>
        rw [moveReconciliation, kind] at move
        obtain ⟨row, notifications, jobs, present, required, rfl, rfl⟩ :=
          retryReconciliation_eq_ok move
        cases present.symm.trans locked.foundPayment
        exact .audited (@Audited.retry db.journal (auditRow actor input payment _ jobID) payment
          ⟨present, account, rfl, rfl, rfl, freshKey, freshVersion⟩ kind required rfl)
    | resolve =>
        rw [moveReconciliation, kind] at move
        obtain ⟨_, _, update⟩ := resolveReconciliation_eq_ok move
        obtain ⟨row, present, review, rfl, rfl⟩ := resolvePaymentReconciliation_eq_some update
        cases present.symm.trans locked.foundPayment
        exact .audited (@Audited.resolve db.journal (auditRow actor input payment _ jobID) payment
          now ⟨present, account, rfl, rfl, rfl, freshKey, freshVersion⟩ kind review rfl)

theorem createOrderFulfillmentAction_eq_ok {row stored : FulfillmentAction}
    (done : db.createOrderFulfillmentAction row = .ok (stored, result)) :
    stored = db.fulfillmentActions.inserted row ∧
      result = { db with fulfillmentActions := db.fulfillmentActions.insert row } ∧
      (∀ other ∈ db.fulfillmentActions, other.orderId = row.orderId → other.action ≠ row.action) ∧
      ∀ other ∈ db.fulfillmentActions, other.orderId = row.orderId →
        other.idempotencyKey ≠ row.idempotencyKey := by
  unfold Database.createOrderFulfillmentAction at done
  obtain ⟨_, fresh, done⟩ := bind_eq_ok.mp done
  obtain ⟨_, unused, done⟩ := bind_eq_ok.mp done
  cases pure_eq_ok.mp done
  refine ⟨rfl, rfl, fun other member same kind => require_eq_ok.mp fresh other member ⟨same, kind⟩, ?_⟩
  intro other member same key
  have absent := List.find?_eq_none.mp (Option.isNone_iff_eq_none.mp (require_eq_ok.mp unused)) other
    member
  simp only [Bool.and_eq_true, beq_iff_eq] at absent
  exact absent ⟨same, key⟩

theorem markFulfilled_eq_some {kind : FulfillmentKind} {id : Int} {changed : Order}
    (mark : markFulfilled kind id db = some (changed, result)) :
    changed.status = kind.endsIn ∧
      result = { db with orders := db.orders.update id (Order.fulfilled kind) } := by
  cases kind with
  | ship =>
      obtain ⟨_, _, _, rfl, rfl⟩ := Database.updateOrder_eq_some.mp mark
      exact ⟨rfl, rfl⟩
  | complete =>
      obtain ⟨_, _, _, rfl, rfl⟩ := Database.updateOrder_eq_some.mp mark
      exact ⟨rfl, rfl⟩

private theorem applyFulfillment_booked {actor : Actor} {input : OrderFulfillmentInput}
    {action : FulfillmentAction} (sound : db.ledger.Sound)
    (done : applyFulfillment actor input db = .ok (action, result)) :
    Booked citation db.journal result.journal := by
  obtain ⟨order, present, _, ⟨_, _, rfl⟩ | ⟨_, paid, changed, moved, status, funded, checked, mark,
    audit, account⟩⟩ := applyFulfillment_eq_ok done
  · exact .refl _
  · obtain ⟨_, rfl, freshKind, freshKey⟩ := createOrderFulfillmentAction_eq_ok audit
    obtain ⟨ends, rfl⟩ := markFulfilled_eq_some mark
    obtain ⟨payment, known, _, success, reviewed, failed⟩ := checkFunding_eq_ok checked
    obtain rfl : payment.id = paid := Table.key_of_find? known
    have kept : ∀ refund ∈ db.refunds, refund.paymentId = payment.id → refund.status = .failed := by
      intro refund member about
      have stored : db.refunds.find? refund.id = some refund := Table.find?_key member
      obtain ⟨same, chosen, reversal⟩ :=
        getOrderRefundByPaymentID_of_ledger sound (Database.ledger_refund stored)
      have status : refund.reversal.status = same.status := by rw [← reversal]; rfl
      exact status.trans (failed same (about ▸ chosen))
    exact .audited (@Audited.fulfil db.journal (shippingRow actor input order changed) order payment
      ⟨present, account, status, rfl, ends, funded, known, success, reviewed, kept, freshKind,
        freshKey⟩)

/-! ### The whole system -/

private theorem changeAccounts_entries {users : Table User} {addresses : Table ShippingAddress}
    (done : db.changeAccounts users addresses = .ok result) :
    Entries db.journal result.journal := by
  unfold Database.changeAccounts at done
  obtain ⟨_, kept, done⟩ := bind_eq_ok.mp done
  cases pure_eq_ok.mp done
  have referenced := require_eq_ok.mp kept
  refine .single (.accounts users ?_ ?_)
  · intro action member
    apply referenced
    simp only [Database.referencedUsers, List.mem_append]
    exact Or.inl (Or.inr (List.mem_map_of_mem member))
  · intro action member
    apply referenced
    simp only [Database.referencedUsers, List.mem_append]
    exact Or.inl (Or.inl (Or.inl (Or.inr (List.mem_map_of_mem member))))

/-- The job that an operation brings evidence from: the discarded one, while it is
still current. -/
def Operation.cites (db : Database) : Operation → Citation
  | .handleError jobID _ _ job =>
      match job.subject with
      | none => none
      | some (paymentID, version) =>
          if paymentID ≤ 0 then none
          else
            match db.payments.find? paymentID with
            | none => none
            | some row =>
                if reconciliationJobCurrent version row.reconciliationVersion
                    row.reconciliationStatus then some (jobID, paymentID)
                else none
  | .markReconciliationRequired failure =>
      failure.riverJobID.map (fun job => (job, failure.paymentID))
  | _ => none

theorem Operation.cites_handleError {jobID attempt paymentID version : Int} {lastError : String}
    {job : JobArgs} {row : Payment} (subject : job.subject = some (paymentID, version))
    (positive : 0 < paymentID)
    (present : db.payments.find? paymentID = some row)
    (current : reconciliationJobCurrent version row.reconciliationVersion
      row.reconciliationStatus = true) :
    Operation.cites db (.handleError jobID attempt lastError job) = some (jobID, paymentID) := by
  rw [Operation.cites, subject]
  dsimp only
  rw [if_neg (not_le.mpr positive), present]
  exact if_pos current

private theorem execute_booked (operation : Operation) (sound : db.ledger.Sound)
    (done : execute operation db = .ok result) :
    Booked (operation.cites db) db.journal result.journal := by
  cases operation with
  | accounts users addresses => exact .entries (changeAccounts_entries done)
  | createProduct input stock status =>
      obtain ⟨⟨_, _⟩, body, rfl⟩ := map_eq_ok.mp done
      exact .same (createProduct_journal body)
  | updateProduct id input =>
      obtain ⟨⟨_, _⟩, body, rfl⟩ := map_eq_ok.mp done
      exact .same (updateProduct_journal body)
  | updateProductStatus id status =>
      obtain ⟨⟨_, _⟩, body, rfl⟩ := map_eq_ok.mp done
      exact .same (updateProductStatus_journal body)
  | softDeleteProduct now id => exact .same (softDeleteProduct_journal done)
  | adjustStock input =>
      obtain ⟨⟨_, _⟩, body, rfl⟩ := map_eq_ok.mp done
      exact .same (adjustStock_journal body)
  | createOrder digest orderNo paymentTimeout now request =>
      obtain ⟨⟨_, _⟩, body, rfl⟩ := map_eq_ok.mp done
      exact submitOrder_booked body
  | cancelOrder id userID => exact cancelOrder_booked done
  | expireOrder now orderID =>
      obtain ⟨⟨_, _⟩, body, rfl⟩ := map_eq_ok.mp done
      exact expireOrder_booked body
  | createPayment args now =>
      obtain ⟨⟨_, _⟩, body, rfl⟩ := map_eq_ok.mp done
      exact createPayment_booked body
  | claimPaymentPrepay clock id token lease =>
      obtain ⟨⟨_, _⟩, body, rfl⟩ := map_eq_ok.mp done
      exact .entries (claimPaymentPrepay_entries body)
  | activatePayment id token actionType actionPayload poll =>
      obtain ⟨⟨_, _⟩, body, rfl⟩ := map_eq_ok.mp done
      exact .entries (activatePayment_entries body)
  | recordPaymentPrepayError id token lastError =>
      cases done
      exact .entries (recordPaymentPrepayError_entries id token lastError db)
  | markPayClosePending args => exact .entries (markPayClosePending_entries done)
  | markReconciliationRequired failure =>
      refine markReconciliationRequired_booked ?_ done
      intro job named
      rw [Operation.cites, named]
      rfl
  | applyPayQuery clock args answer => exact applyPayQuery_booked done
  | preparePaymentRefund now paymentID outRefundNo =>
      obtain ⟨⟨_, _, _⟩, body, rfl⟩ := map_eq_ok.mp done
      exact .entries (preparePaymentRefund_entries body)
  | recordPaymentRefundError now refundID lastError definitive =>
      exact .entries (recordPaymentRefundError_entries done)
  | applyPaymentRefund now paymentID refundID =>
      obtain ⟨⟨_, _⟩, body, rfl⟩ := map_eq_ok.mp done
      exact applyPaymentRefund_booked body
  | applyReconciliation now actor input =>
      obtain ⟨⟨_, _⟩, body, rfl⟩ := map_eq_ok.mp done
      exact applyReconciliation_booked body
  | applyFulfillment actor input =>
      obtain ⟨⟨_, _⟩, body, rfl⟩ := map_eq_ok.mp done
      exact applyFulfillment_booked sound body
  | handleError jobID attempt lastError job =>
      exact handleError_booked
        (fun _ _ _ subject positive present => Operation.cites_handleError subject positive present)
        done
  | persistAndEnqueueNotification input args =>
      obtain ⟨⟨_, _⟩, body, rfl⟩ := map_eq_ok.mp done
      exact .same (persistAndEnqueueNotification_clerical body).journal
  | beginPaymentNotificationProcessing id provider outTradeNo =>
      obtain ⟨⟨_, _⟩, body, rfl⟩ := map_eq_ok.mp done
      exact .same (beginPaymentNotificationProcessing_clerical body).journal
  | recordPaymentNotificationError id lastError =>
      cases done
      exact .same (recordPaymentNotificationError_clerical id lastError db).journal
  | markPaymentNotificationFailed id lastError =>
      exact .same (markPaymentNotificationFailed_clerical done).journal
  | enqueueJob args scheduledAt =>
      cases done
      exact .same (enqueue_clerical db args scheduledAt).journal
  | finishJob id =>
      cases done
      exact .refl _

/-- A commit is one booking, a rollback none. -/
theorem next_booked (operation : Operation) (sound : db.ledger.Sound) :
    Booked (operation.cites db) db.journal (next operation db).journal := by
  rcases commit_cases (execute operation) db with same | done
  · rw [next, same]
    exact .refl _
  · exact execute_booked operation sound done

end Mall
