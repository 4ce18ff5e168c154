/-
Refunds that the provider reports.

A reported refund settles the local refund row, or stands as evidence against
the payment.  Two reports are lost: one that arrives as a closed trade, and one
for goods that were shipped after their refund had been rejected.
-/

import Mall.Alipay
import Mall.Guarantees.Evidence
import Mall.Guarantees.Settlement

namespace Mall

open Ledger Relational Transactional

variable {db result : Database}

/-! ### What a reported refund must leave behind -/

private theorem Database.Valid.refundNoticed_iff (valid : db.Valid) {id : Int} {payment : Payment}
    (found : db.payments.find? id = some payment) (success : payment.status = .success) :
    refundNoticed db id = true ↔ db.hasUnresolvedProviderRefund id = true := by
  unfold refundNoticed
  rw [found]
  simp only [success, Bool.or_eq_true, Bool.and_eq_true, beq_iff_eq, reduceCtorEq, false_and,
    false_or]
  refine ⟨And.right, fun evidence => ⟨?_, evidence⟩⟩
  obtain ⟨failure, recorded, about, _, unresolved⟩ := hasUnresolvedProviderRefund_eq_true.mp evidence
  have key : payment.id = id := Table.key_of_find? found
  exact valid.evidence (Table.mem_of_find? found) recorded (about.trans key.symm) unresolved

/-! ### A refund that is reported as a closed trade -/

private theorem applyClosed_of_success {order : Order} {payments : List Payment} {payment : Payment}
    {transactionID : String} (found : db.payments.find? payment.id = some payment)
    (success : payment.status = .success) :
    applyClosed order payments payment transactionID db = .error errPaymentStateConflict := by
  have refused : db.markPaymentClosed payment.id = none := by
    refine Database.updatePayment_eq_none.mpr ?_
    intro row present
    cases found.symm.trans present
    rw [success]
    rfl
  unfold applyClosed
  rw [if_neg (by rw [success]; nofun), if_neg (by rw [success]; nofun), refused]
  dsimp only
  rw [Database.getPayment, found, found_some, ok_bind,
    require_of_not (by rw [success]; nofun), error_bind]

/-- For a paid payment a closed trade is either ignored or filed as a mismatch. -/
theorem Database.Valid.closed_noticed_iff (valid : db.Valid) {clock : Clock} {args : CheckPayArgs}
    {answer : PaymentQueryResult} {payment : Payment}
    (found : db.payments.find? payment.id = some payment) (success : payment.status = .success)
    (about : args.paymentID = payment.id) (closed : answer.tradeState = .closed) :
    refundNoticed (next (.applyPayQuery clock args (some answer)) db) payment.id = true ↔
      db.hasUnresolvedProviderRefund payment.id = true := by
  rcases commit_cases (execute (.applyPayQuery clock args (some answer))) db with
    rolledBack | committed
  · rw [Mall.next, rolledBack]
    exact valid.refundNoticed_iff found success
  · have after := valid.step (.applyPayQuery clock args (some answer))
    obtain ⟨order, row, method, locked, same, _, ⟨mismatch, _, reject⟩ |
      ⟨given, sameAnswer, _, accept⟩⟩ := applyPayQuery_eq_ok committed
    · unfold rejectAnswer at reject
      obtain ⟨flagged, flag, mark⟩ := bind_eq_ok.mp reject
      obtain ⟨⟨charge, present, review⟩, _, evidence⟩ := flagPayment_eq_ok flag
      have books := (markNotificationProcessed_clerical mark).books
      rw [about] at present review evidence
      rw [Database.ledger_payment found] at present
      cases present
      rw [← books.ledger] at review
      obtain ⟨later, stored, sameCharge⟩ := Database.of_ledger_payment review
      have still : later.status = .success :=
        (congrArg Charge.status sameCharge).trans success
      have other : reconciliationReasonForMismatch mismatch ≠ .providerSideRefund := by
        cases mismatch <;> decide
      rw [after.refundNoticed_iff stored still]
      rw [or_iff_left other] at evidence
      rw [← evidence, hasUnresolvedProviderRefund_eq_true, hasUnresolvedProviderRefund_eq_true]
      rw [← books.failures]
      rfl
    · cases sameAnswer
      have samePayment := locked.foundPayment
      rw [← same, about, found] at samePayment
      cases samePayment
      unfold acceptAnswer applyTradeState at accept
      rw [closed] at accept
      dsimp only at accept
      rw [applyClosed_of_success found success] at accept
      cases accept

def closedAdapter : AlipayPaymentAdapter :=
  { client := some
      { providerAccount := "app:true:token"
        tradeQuery := fun _ => .ok
          { statusCode := 200
            errorCode := ""
            errorMessage := ""
            outTradeNo := "PAY1"
            tradeNo := "TX1"
            tradeStatus := "TRADE_CLOSED"
            totalAmount := "2.00" } }
    newFromString := fun text => if text = "2.00" then some 2 else none }

def queryTea : PaymentQueryRequest :=
  { expectedProviderAccount := ""
    method := { provider := "alipay", product := "wap" }
    outTradeNo := "PAY1"
    transactionID := "TX1" }

def closedTeaAnswer : PaymentQueryResult :=
  { teaAnswer "PAY1" "TX1" .closed 200 with
    tradeStateDesc := "TRADE_CLOSED"
    rawTradeState := "TRADE_CLOSED" }

private theorem closedAdapter_query : closedAdapter.query queryTea = .ok closedTeaAnswer := by
  decide +kernel

def closeTeaTrade : Operation :=
  .applyPayQuery { database := 3, process := 3 } (checkTeaPayment 1) (some closedTeaAnswer)

/-- After Alipay reported `TRADE_CLOSED` for a paid payment, the refund is on
record exactly when it was on record before. -/
theorem tradeClosed_noticed_iff (reached : Reached db) {adapter : AlipayPaymentAdapter}
    {req : PaymentQueryRequest} {answer : PaymentQueryResult} {payment : Payment}
    {args : CheckPayArgs} (found : db.payments.find? payment.id = some payment)
    (success : payment.status = .success) (queried : adapter.query req = .ok answer)
    (closed : answer.rawTradeState = "TRADE_CLOSED") (about : args.paymentID = payment.id)
    (clock : Clock) :
    refundNoticed (next (.applyPayQuery clock args (some answer)) db) payment.id = true ↔
      db.hasUnresolvedProviderRefund payment.id = true := by
  obtain ⟨_, _, mapped⟩ := adapter.query_eq_ok queried
  rw [closed] at mapped
  exact reached.valid.closed_noticed_iff found success about mapped

theorem tradeClosed_noticed_iff_paidShop :
    closedAdapter.query queryTea = .ok closedTeaAnswer ∧
      (refundNoticed (next closeTeaTrade paidShop) 1 = true ↔
        paidShop.hasUnresolvedProviderRefund 1 = true) := by
  refine ⟨closedAdapter_query, ?_⟩
  have paid : (paidShop.payments.find? 1).map Payment.status = some .success := by
    decide +kernel
  obtain ⟨payment, found, success⟩ := Option.map_eq_some_iff.mp paid
  have key : payment.id = 1 := Table.key_of_find? found
  rw [← key] at found ⊢
  exact tradeClosed_noticed_iff paidShop_reached found success closedAdapter_query rfl
    (show (checkTeaPayment 1).paymentID = payment.id from key.symm) { database := 3, process := 3 }

/-- The job that brought the answer gives up, and an administrator acknowledges
the payment as an ordinary charge. -/
theorem tradeClosed_acknowledged :
    Reached paidShop ∧ closedAdapter.query queryTea = .ok closedTeaAnswer ∧
      closedTeaAnswer.outTradeNo = "PAY1" ∧ closedTeaAnswer.transactionID = "TX1" ∧
      (paidShop.payments.find? 1).map (fun payment =>
        (payment.outTradeNo, payment.thirdPartyTxId, payment.status)) =
          some ("PAY1", some "TX1", .success) ∧
      refundNoticed (next closeTeaTrade paidShop) 1 = false ∧
      (applyReconciliation 4 shopAdmin resolveTea (run next paidShop
        [closeTeaTrade, .handleError 1 25 "conflict" (.checkPay (checkTeaPayment 1))])).isOk =
          true :=
  ⟨paidShop_reached, closedAdapter_query, rfl, rfl, by decide +kernel, by decide +kernel,
    by decide +kernel⟩

/-! ### A refund of goods that were shipped meanwhile -/

/-- The answer says that this payment was refunded, and agrees with it otherwise. -/
structure PaymentQueryResult.ReportsRefund (answer : PaymentQueryResult) (payment : Payment) :
    Prop where
  state : answer.tradeState = .refund
  outTradeNo : answer.outTradeNo = payment.outTradeNo
  channel : ∃ method, parsePaymentMethod payment.payChannel = some method ∧
    answer.method.normalize.string = method.string
  amount : answer.amount = payment.amountMinor
  currency : toUpper answer.currency = payment.currency

/-- The payment funds an order that left the shop, and has a refund row. -/
def refundOutrun (db : Database) (payment : Payment) : Prop :=
  ∃ order refund, db.orders.find? payment.orderId = some order ∧
    (order.status = .shipped ∨ order.status = .completed) ∧
    order.paidPaymentId = some payment.id ∧
    db.getOrderRefundByPaymentID payment.id = some refund

private theorem refundNoticed_books {id : Int} (books : SameBooks db result) :
    refundNoticed result id = refundNoticed db id := by
  unfold refundNoticed Database.getOrderRefundByPaymentID Database.hasUnresolvedProviderRefund
  rw [books.payments, books.refunds, books.failures]

private theorem settlePaymentRefund_outrun {now : Time} {order : Order}
    {payment row : Payment} {refund : OrderRefund} (locked : Locked db order payment)
    (success : payment.status = .success)
    (dispatched : order.status = .shipped ∨ order.status = .completed)
    (funds : order.paidPaymentId = some payment.id) :
    settlePaymentRefund now order payment refund db ≠ .ok (row, result) := by
  intro done
  unfold settlePaymentRefund at done
  obtain ⟨_, _, done⟩ := bind_eq_ok.mp done
  rw [if_neg (by rw [success]; nofun)] at done
  obtain ⟨_, _, done⟩ := bind_eq_ok.mp done
  obtain ⟨_, fits, _⟩ := bind_eq_ok.mp done
  have decided := validateRefundSettlement_eq_ok fits
  have own : order.paidPaymentID = payment.id :=
    (Order.paidPaymentID_eq locked.positive).mpr funds
  have positive := locked.positive
  unfold decideRefundPurpose at decided
  rw [if_neg (by omega), if_neg (fun other => other.1.2 own), own] at decided
  rcases dispatched with shipped | completed
  · rw [shipped, if_neg (by simp), if_neg (by simp)] at decided
    cases decided
  · rw [completed, if_neg (by simp), if_neg (by simp)] at decided
    cases decided

private theorem Database.Valid.undispatched (valid : db.Valid) {order : Order} {payment : Payment}
    (locked : Locked db order payment) (success : payment.status = .success)
    (kept : ¬ refundOutrun db payment) {refund : OrderRefund}
    (chosen : db.getOrderRefundByPaymentID payment.id = some refund)
    (purpose : refund.purpose = .orderCancel) : order.status = .paid := by
  have fits := valid.refund_fits locked chosen
  rw [purpose] at fits
  have funds : order.paidPaymentId = some payment.id := fits
  obtain ⟨row, known, _, status⟩ := valid.funding locked.foundOrder funds
  cases known.symm.trans locked.foundPayment
  have hasFunding := valid.funded_iff locked.foundOrder
  rw [funds] at hasFunding
  cases orderStatus : order.status with
  | paid => rfl
  | shipped => exact absurd ⟨order, refund, locked.foundOrder, Or.inl orderStatus, funds, chosen⟩ kept
  | completed => exact absurd ⟨order, refund, locked.foundOrder, Or.inr orderStatus, funds, chosen⟩ kept
  | refunded =>
      rw [orderStatus, if_pos rfl, success] at status
      cases status
  | pendingPayment | cancelling | cancelled =>
      rw [orderStatus] at hasFunding
      cases hasFunding

def refundedTeaAnswer : PaymentQueryResult :=
  teaAnswer "PAY1" "TX1" .refund 200

def teaFacts (payment : Payment) : PaymentStatus × String × String × Int × String :=
  (payment.status, payment.outTradeNo, payment.payChannel, payment.amountMinor, payment.currency)

private theorem refundedTeaAnswer_reports {payment : Payment}
    (facts : teaFacts payment = (.success, "PAY1", "alipay:wap", 200, "CNY")) :
    payment.status = .success ∧ refundedTeaAnswer.ReportsRefund payment := by
  simp only [teaFacts, Prod.mk.injEq] at facts
  obtain ⟨success, outTradeNo, channel, amount, currency⟩ := facts
  have parsed : parsePaymentMethod payment.payChannel =
      some { provider := "alipay", product := "wap" } := by
    rw [channel]
    decide +kernel
  exact ⟨success, rfl, outTradeNo.symm, ⟨_, parsed, by decide +kernel⟩, amount.symm, currency.symm⟩

/-- The refund of the paid order is rejected for good, and the order is shipped. -/
def shippedAfterRejectionShop : Database :=
  run next refundingShop
    [.recordPaymentRefundError 5 1 "rejected" true, .applyFulfillment shopAdmin shipTea]

/-- A reported refund is kept as a fact exactly where no refund row was outrun,
apart from the bookkeeping of the request itself. -/
theorem reported_refund_kept_iff (reached : Reached db) {payment : Payment} {args : CheckPayArgs}
    {answer : PaymentQueryResult} (member : payment ∈ db.payments)
    (success : payment.status = .success) (about : args.paymentID = payment.id)
    (reports : answer.ReportsRefund payment) (clock : Clock) :
    (∃ result, applyPayQuery clock args (some answer) db = .ok result ∧
      refundNoticed result payment.id = true) ↔
      args.confirmUnissued = false ∧ notificationOpen db args.notificationID ∧
        ¬ refundOutrun db payment := by
  have valid := reached.valid
  obtain ⟨order, locked⟩ := valid.locked member
  obtain ⟨method, channel, sameMethod⟩ := reports.channel
  have accepted : validateProviderResult payment method (some answer) = none := by
    simp [validateProviderResult, reports.outTradeNo, sameMethod, reports.amount, reports.currency]
  constructor
  · rintro ⟨result, done, _⟩
    have issued : args.confirmUnissued = false := by
      rw [applyPayQuery_of_locked locked about] at done
      obtain ⟨_, confirmed, _⟩ := bind_eq_ok.mp done
      cases flag : args.confirmUnissued with
      | false => rfl
      | true =>
          rw [confirmUnissued, if_pos flag] at confirmed
          have closed := (require_eq_ok.mp confirmed).1
          rw [reports.state] at closed
          cases closed
    rw [applyPayQuery_refund locked about issued channel reports.state, accepted] at done
    obtain ⟨applied, apply, mark⟩ := bind_eq_ok.mp done
    have kept : ¬ refundOutrun db payment := by
      rintro ⟨owner, refund, present, dispatched, funds, chosen⟩
      cases present.symm.trans locked.foundOrder
      unfold applyRefund at apply
      rw [if_neg (by rw [success]; decide), require_of success, ok_bind, chosen] at apply
      obtain ⟨⟨row, settled⟩, settle, _⟩ := bind_eq_ok.mp apply
      exact settlePaymentRefund_outrun locked success dispatched funds settle
    obtain ⟨again, same, notifications, _⟩ := valid.applyRefund_succeeds locked about success
      (fun refund chosen => valid.undispatched locked success kept chosen) clock.database method
    cases apply.symm.trans same
    have ready := markNotificationProcessed_succeeds_iff.mp ⟨result, mark⟩
    rw [notificationOpen, notifications] at ready
    exact ⟨issued, ready, kept⟩
  · rintro ⟨issued, ready, kept⟩
    obtain ⟨applied, apply, notifications, noticed⟩ := valid.applyRefund_succeeds locked about success
      (fun refund chosen => valid.undispatched locked success kept chosen) clock.database method
    rw [applyPayQuery_refund locked about issued channel reports.state, accepted]
    obtain ⟨result, marked⟩ := (marked_after apply notifications args.notificationID).2 ready
    refine ⟨result, marked, ?_⟩
    rw [apply, ok_bind] at marked
    rw [refundNoticed_books (markNotificationProcessed_clerical marked).books]
    exact noticed

theorem reported_refund_kept_iff_paidShop :
    ∃ payment ∈ paidShop.payments, payment.status = .success ∧
      refundedTeaAnswer.ReportsRefund payment ∧
      ∃ result, applyPayQuery { database := 2, process := 2 } (checkTeaPayment 1)
          (some refundedTeaAnswer) paidShop = .ok result ∧
        refundNoticed result payment.id = true := by
  have paid : (paidShop.payments.find? 1).map teaFacts =
      some (.success, "PAY1", "alipay:wap", 200, "CNY") := by
    decide +kernel
  obtain ⟨payment, found, facts⟩ := Option.map_eq_some_iff.mp paid
  have key : payment.id = 1 := Table.key_of_find? found
  have member := Table.mem_of_find? found
  obtain ⟨success, reports⟩ := refundedTeaAnswer_reports facts
  refine ⟨payment, member, success, reports, ?_⟩
  refine (reported_refund_kept_iff paidShop_reached member success key.symm reports
    { database := 2, process := 2 }).mpr ⟨rfl, Or.inl (by decide), ?_⟩
  rintro ⟨order, refund, _, _, _, chosen⟩
  have unrefunded : (paidShop.getOrderRefundByPaymentID 1).isNone = true := by decide +kernel
  rw [key] at chosen
  rw [chosen] at unrefunded
  cases unrefunded

/-- The provider's refund is lost: the answer rolls back, its job gives up, and an
administrator acknowledges the payment as a valid charge. -/
theorem reported_refund_lost :
    Reached shippedAfterRejectionShop ∧
      (∃ payment ∈ shippedAfterRejectionShop.payments, payment.id = 1 ∧
        payment.status = .success ∧ refundedTeaAnswer.ReportsRefund payment) ∧
      (applyPayQuery { database := 2, process := 2 } (checkTeaPayment 1)
        (some refundedTeaAnswer) shippedAfterRejectionShop).isOk = false ∧
      (applyReconciliation 6 shopAdmin resolveTea (run next shippedAfterRejectionShop
        [.applyPayQuery { database := 2, process := 2 } (checkTeaPayment 1)
            (some refundedTeaAnswer),
          .handleError 1 25 "conflict" (.checkPay (checkTeaPayment 1))])).isOk = true := by
  refine ⟨(paidShop_reached.step _).run _, ?_, by decide +kernel, by decide +kernel⟩
  have paid : (shippedAfterRejectionShop.payments.find? 1).map teaFacts =
      some (.success, "PAY1", "alipay:wap", 200, "CNY") := by
    decide +kernel
  obtain ⟨payment, found, facts⟩ := Option.map_eq_some_iff.mp paid
  exact ⟨payment, Table.mem_of_find? found, Table.key_of_find? found,
    refundedTeaAnswer_reports facts⟩

end Mall
