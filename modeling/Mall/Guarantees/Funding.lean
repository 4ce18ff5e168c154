/-
Received money, and what pays for an order.

A successful payment funds its order or stands in review until it is refunded.
An order is funded by one payment, which a provider's answer has confirmed.
-/

import Mall.Refinement.System

namespace Mall

open Ledger Relational Transactional

variable {db : Database}

/-! ### Rows of a valid state -/

theorem Database.Valid.run (valid : db.Valid) (history : List Operation) :
    (Transactional.run next db history).Valid := by
  induction history generalizing db with
  | nil => exact valid
  | cons operation rest ih => exact ih (valid.step operation)

theorem Database.Valid.locked (valid : db.Valid) {payment : Payment}
    (member : payment ∈ db.payments) : ∃ order, Locked db order payment := by
  have found := Table.find?_key member
  obtain ⟨purchase, present, _⟩ := valid.sound.funding.chargeOrder (Database.ledger_payment found)
  obtain ⟨order, known, _⟩ := Database.of_ledger_order present
  exact ⟨order, found, known⟩

theorem Database.Valid.funded_iff (valid : db.Valid) {id : Int} {order : Order}
    (present : db.orders.find? id = some order) :
    order.paidPaymentId.isSome = order.status.hasFunding :=
  valid.sound.funding.fundedStatus (Database.ledger_order present)

theorem Database.Valid.funding (valid : db.Valid) {id paid : Int} {order : Order}
    (present : db.orders.find? id = some order) (funded : order.paidPaymentId = some paid) :
    ∃ payment, db.payments.find? paid = some payment ∧ payment.orderId = id ∧
      payment.status = if order.status = .refunded then .refunded else .success := by
  obtain ⟨charge, found, same, status⟩ :=
    valid.sound.funding.funding (Database.ledger_order present) funded
  obtain ⟨payment, known, rfl⟩ := Database.of_ledger_payment found
  exact ⟨payment, known, same, status⟩

/-- Money received for a payment: it pays for its order, or a person looks at it. -/
def Accounted (db : Database) (payment : Payment) : Prop :=
  (∃ order, db.orders.find? payment.orderId = some order ∧
      order.paidPaymentId = some payment.id ∧
      (order.status = .paid ∨ order.status = .shipped ∨ order.status = .completed)) ∨
    payment.reconciliationStatus = .required ∨ payment.reconciliationStatus = .processing

private theorem Database.Valid.accounted (valid : db.Valid) {payment : Payment}
    (member : payment ∈ db.payments) (success : payment.status = .success) :
    Accounted db payment := by
  obtain ⟨order, locked⟩ := valid.locked member
  rcases valid.sound.funding.accounted locked.charge locked.purchase success with funded | review
  · refine Or.inl ⟨order, locked.foundOrder, funded, ?_⟩
    obtain ⟨row, found, _, status⟩ := valid.funding locked.foundOrder funded
    cases found.symm.trans locked.foundPayment
    have hasFunding := valid.funded_iff locked.foundOrder
    rw [show order.paidPaymentId = some payment.id from funded] at hasFunding
    cases orderStatus : order.status <;> simp_all [OrderStatus.hasFunding]
  · exact Or.inr (Payment.needsReview_iff.mp review)

/-- Along every run a payment keeps its identity and its recorded money. -/
theorem Database.Valid.charge_run (valid : db.Valid) {id : Int} {payment : Payment}
    (found : db.payments.find? id = some payment) (history : List Operation) :
    ∃ later, (Transactional.run next db history).payments.find? id = some later ∧
      payment.charge.Continues later.charge := by
  induction history generalizing db payment with
  | nil => exact ⟨payment, found, .refl _⟩
  | cons operation rest ih =>
      have commits := (next_refines operation valid.tidy valid.sound).commits
      obtain ⟨charge, stored, continues⟩ := commits.charge_continues (Database.ledger_payment found)
      obtain ⟨row, present, rfl⟩ := Database.of_ledger_payment stored
      obtain ⟨later, last, further⟩ := ih (valid.step operation) present
      exact ⟨later, last, continues.trans further⟩

/-- A request to resolve a success that does not fund its order changes nothing:
it fails, or it repeats an earlier answer. -/
theorem resolve_excess {now : Time} {actor : Actor} {input : ReconciliationInput} {order : Order}
    {payment : Payment} {action : ReconciliationAction} {result : Database}
    (locked : Locked db order payment) (success : payment.status = .success)
    (excess : order.paidPaymentId ≠ some payment.id) (about : input.paymentID = payment.id)
    (resolve : input.action = .resolve)
    (done : applyReconciliation now actor input db = .ok (action, result)) : result = db := by
  obtain ⟨owner, row, rowLocked, key, ⟨_, _, same⟩ | ⟨changed, jobID, moved, move, _⟩⟩ :=
    applyReconciliation_eq_ok done
  · exact same
  · have samePayment := rowLocked.foundPayment
    rw [key, about, locked.foundPayment] at samePayment
    cases samePayment
    cases rowLocked.foundOrder.symm.trans locked.foundOrder
    rw [moveReconciliation, resolve] at move
    obtain ⟨allowed, _⟩ := resolveReconciliation_eq_ok move
    exact absurd (canResolvePaymentReconciliation_funds locked.positive allowed success) excess

/-- Received money is never dropped. -/
theorem received_money_kept (reached : Reached db) :
    (∀ payment ∈ db.payments, payment.status = .success → ∀ history,
      ∃ later ∈ (run next db history).payments, later.id = payment.id ∧
        (later.status = .refunded ∨
          later.status = .success ∧ Accounted (run next db history) later)) ∧
    (∀ now actor input order payment action result, Locked db order payment →
      payment.status = .success → order.paidPaymentId ≠ some payment.id →
      input.paymentID = payment.id → input.action = .resolve →
      applyReconciliation now actor input db = .ok (action, result) → result = db) ∧
    (∀ order payment, Locked db order payment → payment.status.isSettled = false →
      (order.status.isFunded = true ∨ order.status = .refunded) →
      otherSuccess payment (db.listPaymentsByOrderForUpdate payment.orderId) = true) := by
  have valid := reached.valid
  refine ⟨?_, ?_, ?_⟩
  · intro payment member success history
    obtain ⟨later, found, continues⟩ := valid.charge_run (Table.find?_key member) history
    have settled : later.status.isSettled = true :=
      (continues.settled (by rw [show payment.charge.status = .success from success]; rfl)).1
    have listed := Table.mem_of_find? found
    refine ⟨later, listed, Table.key_of_find? found, ?_⟩
    cases status : later.status with
    | success => exact Or.inr ⟨rfl, (valid.run history).accounted listed status⟩
    | refunded => exact Or.inl rfl
    | creating | pending | failed | closePending | closed =>
        rw [status] at settled
        cases settled
  · intro now actor input order payment action result locked success excess about resolve done
    exact resolve_excess locked success excess about resolve done
  · intro order payment locked unsettled funded
    refine otherSuccess_of_funded valid.sound locked ?_ unsettled
    cases status : order.status <;>
      simp_all [OrderStatus.isFunded, OrderStatus.hasFunding]

/-- The provider closes the payment, which cancels the order, and then reports it
as paid after all. -/
def lateShop : Database :=
  run next smallShop
    [orderTea "ORD1" "order-key-1" 2, openTeaPayment "PAY1" 1 200,
      answerTeaPayment 1 "PAY1" "" .closed 200, answerTeaPayment 1 "PAY1" "TX1" .success 200]

theorem received_money_kept_lateShop :
    (lateShop.orders.find? 1).map Order.status = some .cancelled ∧
      ∀ history, ∃ later ∈ (run next lateShop history).payments, later.id = 1 ∧
        (later.status = .refunded ∨
          later.status = .success ∧ Accounted (run next lateShop history) later) := by
  refine ⟨by decide +kernel, ?_⟩
  have recorded : (lateShop.payments.find? 1).map Payment.status = some .success := by
    decide +kernel
  obtain ⟨payment, found, success⟩ := Option.map_eq_some_iff.mp recorded
  have key : payment.id = 1 := Table.key_of_find? found
  rw [← key]
  exact (received_money_kept ⟨smallShop, _, smallShop_initial, rfl⟩).1 payment
    (Table.mem_of_find? found) success

/-! ### Funding of orders -/

/-- An operation of the history settled the payment, on an answer of the provider
that reports this payment as paid. -/
def RecordedBySuccess (start : Database) (history : List Operation) (payment : Payment) : Prop :=
  ∃ earlier clock args answer later,
    history = earlier ++ .applyPayQuery clock args (some answer) :: later ∧
      (∀ row, (run next start earlier).payments.find? payment.id = some row →
        row.status.isSettled = false) ∧
      (∃ row, (next (.applyPayQuery clock args (some answer)) (run next start earlier)).payments.find?
        payment.id = some row ∧ row.status.isSettled = true) ∧
      answer.tradeState = .success ∧ payment.thirdPartyTxId = some answer.transactionID ∧
      answer.outTradeNo = payment.outTradeNo ∧
      (∃ method, parsePaymentMethod payment.payChannel = some method ∧
        answer.method.normalize.string = method.string) ∧
      answer.amount = payment.amountMinor ∧ toUpper answer.currency = payment.currency

private theorem Operation.Confirms.answered {operation : Operation} {charge : Charge}
    {transaction : String} (confirms : operation.Confirms charge transaction) :
    ∃ clock args answer, operation = .applyPayQuery clock args (some answer) ∧
      answer.Confirms charge transaction := by
  cases operation with
  | applyPayQuery clock args given =>
      cases given with
      | none => exact absurd confirms not_false
      | some answer => exact ⟨clock, args, answer, rfl, confirms⟩
  | _ => exact absurd confirms not_false

theorem recordedBySuccess {start : Database} (initial : Initial start) (history : List Operation)
    {id : Int} {payment : Payment} (found : (run next start history).payments.find? id = some payment)
    (settled : payment.status.isSettled = true) : RecordedBySuccess start history payment := by
  have key : payment.id = id := Table.key_of_find? found
  let Settled := fun db : Database =>
    ∃ row, db.payments.find? payment.id = some row ∧ row.status.isSettled = true
  have before : ¬ Settled start := by
    rintro ⟨row, present, _⟩
    rw [Table.find?_of_empty initial.noPayments] at present
    cases present
  obtain ⟨earlier, operation, later, split, unsettled, row, present, now⟩ :=
    run_acquires before ⟨payment, key.symm ▸ found, settled⟩
  have valid := (Database.Valid.mk initial.tidy initial.sound).run earlier
  rcases (next_refines operation valid.tidy valid.sound).commits.settled_reported
    (Database.ledger_payment present) now with ⟨charge, known, already⟩ | reported
  · obtain ⟨old, stored, rfl⟩ := Database.of_ledger_payment known
    exact absurd ⟨old, stored, already⟩ unsettled
  · obtain ⟨old, transaction, confirms, same, recorded⟩ := reported
    obtain ⟨clock, args, answer, rfl, matching⟩ := confirms.answered
    -- From here to the end of the run the payment continues.
    obtain ⟨last, lastFound, continues⟩ := (valid.step _).charge_run present later
    rw [← run_cons, ← run_append, ← split, key, found] at lastFound
    cases lastFound
    have identity : old.identity = payment.charge.identity := same.trans continues.identity.symm
    have channel : old.channel = payment.payChannel := congrArg ChargeIdentity.channel identity
    have trade : old.outTradeNo = payment.outTradeNo := congrArg ChargeIdentity.outTradeNo identity
    have terms : old.terms = payment.charge.terms := congrArg ChargeIdentity.terms identity
    refine ⟨earlier, clock, args, answer, later, split, ?_, ⟨row, present, now⟩, matching.success, ?_,
      matching.outTradeNo.trans trade, channel ▸ matching.channel,
      matching.amount.trans (congrArg Terms.amount terms),
      matching.currency.trans (congrArg Terms.currency terms)⟩
    · intro other otherFound
      exact Bool.not_eq_true _ ▸ fun otherSettled => unsettled ⟨other, otherFound, otherSettled⟩
    · have sameTransaction : payment.thirdPartyTxId = row.charge.transaction :=
        (continues.settled now).2
      rw [sameTransaction, recorded, matching.sameTransaction]

/-- What funds an order, in every state that a run reaches. -/
theorem order_funding {start : Database} (initial : Initial start) (history : List Operation)
    {order : Order} (member : order ∈ (run next start history).orders) :
    (order.paidPaymentId.isSome = true ↔ order.status = .paid ∨ order.status = .shipped ∨
      order.status = .completed ∨ order.status = .refunded) ∧
    (∀ paid, order.paidPaymentId = some paid →
      ∃ payment, (run next start history).payments.find? paid = some payment ∧
        payment.orderId = order.id ∧ payment.userId = order.userId ∧
        payment.amountMinor = order.totalAmountMinor ∧ payment.currency = order.currency ∧
        (order.status = .paid ∨ order.status = .shipped ∨ order.status = .completed →
          payment.status = .success) ∧
        (payment.status = .refunded ↔ order.status = .refunded) ∧
        RecordedBySuccess start history payment) ∧
    (order.status = .pendingPayment → ∀ payment ∈ (run next start history).payments,
      payment.orderId = order.id → payment.status ≠ .success ∧ payment.status ≠ .refunded) ∧
    (order.status = .pendingPayment → ∀ rows recovered,
      recoverUnsupportedPayments ((run next start history).listPaymentsByOrderForUpdate order.id)
        (run next start history) = .ok (rows, recovered) → expirySettled rows = none) ∧
    (order.status = .pendingPayment → ∀ current, successfulSibling current
      ((run next start history).listPaymentsByOrderForUpdate order.id) = none) := by
  have valid := (Database.Valid.mk initial.tidy initial.sound).run history
  have present : (run next start history).orders.find? order.id = some order := Table.find?_key member
  refine ⟨?_, ?_, ?_, ?_, ?_⟩
  · rw [valid.funded_iff present]
    cases order.status <;> simp [OrderStatus.hasFunding]
  · intro paid funded
    obtain ⟨payment, found, same, status⟩ := valid.funding present funded
    obtain ⟨purchase, known, terms⟩ :=
      valid.sound.funding.chargeOrder (Database.ledger_payment found)
    rw [show payment.charge.order = order.id from same, Database.ledger_order present] at known
    cases known
    have settled : payment.status.isSettled = true := by
      rw [status]
      split <;> rfl
    refine ⟨payment, found, same, congrArg Terms.user terms, congrArg Terms.amount terms,
      congrArg Terms.currency terms, ?_, ?_, recordedBySuccess initial history found settled⟩
    · rintro (paidStatus | shipped | completed)
      · rw [status, paidStatus, if_neg (by decide)]
      · rw [status, shipped, if_neg (by decide)]
      · rw [status, completed, if_neg (by decide)]
    · rw [status]
      split <;> simp_all
  · intro pending payment listed same
    have unsettled := unsettled_of_pending valid.sound (same ▸ present) pending listed
    constructor
    · intro success
      rw [success] at unsettled
      cases unsettled
    · intro refunded
      rw [refunded] at unsettled
      cases unsettled
  · intro pending rows recovered recovery
    exact expirySettled_eq_none (Recovered.unsettled valid.sound present pending recovery)
  · intro pending current
    exact successfulSibling_eq_none valid.sound present pending current

theorem order_funding_paidHistory :
    ∃ order ∈ (run next smallShop paidHistory).orders, order.paidPaymentId = some 1 ∧
      ∃ payment, (run next smallShop paidHistory).payments.find? 1 = some payment ∧
        RecordedBySuccess smallShop paidHistory payment := by
  have paid : ((run next smallShop paidHistory).orders.find? 1).map Order.paidPaymentId =
      some (some 1) := by
    decide +kernel
  obtain ⟨order, found, funded⟩ := Option.map_eq_some_iff.mp paid
  have member := Table.mem_of_find? found
  obtain ⟨payment, present, _, _, _, _, _, _, recorded⟩ :=
    (order_funding smallShop_initial paidHistory member).2.1 1 funded
  exact ⟨order, member, funded, payment, present, recorded⟩

end Mall
