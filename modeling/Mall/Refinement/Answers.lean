/-
Provider answers refine the ledger.

Only an answer that matches the payment and reports success lets money count.
-/

import Mall.Refinement.Cancellation
import Mall.Refinement.Refunds

namespace Mall

open Ledger Relational Transactional

variable {warrant : Warrant} {db result : Database} {payment : Payment} {args : CheckPayArgs}
  {order : Order} {method : PaymentMethod}

/-- The answer reports this charge as paid, under this transaction. -/
structure PaymentQueryResult.Confirms (answer : PaymentQueryResult) (charge : Charge)
    (transaction : String) : Prop where
  success : answer.tradeState = .success
  sameTransaction : answer.transactionID = transaction
  named : transaction ≠ ""
  outTradeNo : answer.outTradeNo = charge.outTradeNo
  amount : answer.amount = charge.terms.amount
  currency : toUpper answer.currency = charge.terms.currency
  channel : ∃ method, parsePaymentMethod charge.channel = some method ∧
    answer.method.normalize.string = method.string

private theorem validateProviderResult_eq_none {answer : PaymentQueryResult}
    (valid : validateProviderResult payment method (some answer) = none) :
    answer.outTradeNo = payment.outTradeNo ∧ answer.method.normalize.string = method.string ∧
      (answer.tradeState = .success ∨ answer.tradeState = .refund →
        answer.amount = payment.amountMinor ∧ toUpper answer.currency = payment.currency) := by
  simp only [validateProviderResult] at valid
  split at valid
  · cases valid
  · next sameTrade =>
      split at valid
      · cases valid
      · next sameMethod =>
          refine ⟨not_not.mp sameTrade, not_not.mp sameMethod, fun money => ?_⟩
          rw [if_pos money] at valid
          split at valid
          · cases valid
          · next sameAmount =>
              split at valid
              · cases valid
              · next sameCurrency => exact ⟨not_not.mp sameAmount, not_not.mp sameCurrency⟩

/-! ### Flags -/

private theorem flagPayment_steps {reason : ReconciliationReason} {detail lastError : String}
    (done : flagPayment args method reason detail lastError db = .ok result) :
    Steps warrant db result := by
  unfold flagPayment at done
  obtain ⟨⟨_, flagged⟩, flag, done⟩ := bind_eq_ok.mp done
  exact flag_steps flag rfl done

theorem flagPayment_eq_ok {reason : ReconciliationReason} {detail lastError : String}
    (done : flagPayment args method reason detail lastError db = .ok result) :
    (∃ charge, db.ledger.payments args.paymentID = some charge ∧
      result.ledger.payments args.paymentID = some { charge with review := true }) ∧
    result.notifications = db.notifications ∧
    (result.hasUnresolvedProviderRefund args.paymentID = true ↔
      db.hasUnresolvedProviderRefund args.paymentID = true ∨ reason = .providerSideRefund) := by
  unfold flagPayment at done
  obtain ⟨⟨_, flagged⟩, flag, done⟩ := bind_eq_ok.mp done
  obtain ⟨charge, present, changed, _⟩ := requirePaymentReconciliation_spec flag
  obtain ⟨sameFailures, _, sameNotifications⟩ := requirePaymentReconciliation_frame flag
  unfold createReconciliationFailure Database.createPaymentReconciliationFailure at done
  obtain ⟨_, _, done⟩ := bind_eq_ok.mp done
  cases pure_eq_ok.mp done
  refine ⟨⟨charge, present, ?_⟩, sameNotifications, ?_⟩
  · change flagged.ledger.payments args.paymentID = _
    rw [changed, Ledger.payments_setPayment]
  · rw [hasUnresolvedProviderRefund_eq_true, hasUnresolvedProviderRefund_eq_true]
    constructor
    · rintro ⟨failure, member, about, provider, unresolved⟩
      rcases Table.mem_insert.mp member with old | rfl
      · exact Or.inl ⟨failure, sameFailures ▸ old, about, provider, unresolved⟩
      · exact Or.inr provider
    · rintro (⟨failure, member, about, provider, unresolved⟩ | provider)
      · refine ⟨failure, Table.mem_insert.mpr (Or.inl ?_), about, provider, unresolved⟩
        rw [sameFailures]
        exact member
      · exact ⟨_, Table.mem_insert.mpr (Or.inr rfl), rfl, provider, rfl⟩

theorem flagPayment_succeeds (found : db.payments.find? args.paymentID = some payment)
    (method : PaymentMethod) (reason : ReconciliationReason) (detail lastError : String) :
    ∃ result, flagPayment args method reason detail lastError db = .ok result := by
  have flags : ∃ row flagged,
      requirePaymentReconciliation args.paymentID reason detail db = .ok (row, flagged) := by
    unfold requirePaymentReconciliation
    split
    · next result _ => exact ⟨result.1, result.2, rfl⟩
    · rw [Database.getPayment, found]
      exact ⟨payment, db, rfl⟩
  obtain ⟨row, flagged, flag⟩ := flags
  obtain ⟨charge, _, changed, _⟩ := requirePaymentReconciliation_spec flag
  have stored : flagged.ledger.payments args.paymentID = some { charge with review := true } := by
    rw [changed, Ledger.payments_setPayment]
  obtain ⟨later, known, _⟩ := Database.of_ledger_payment stored
  unfold flagPayment
  rw [flag, ok_bind]
  refine ⟨_, createPaymentReconciliationFailure_fresh ?_ rfl⟩
  change (flagged.payments.find? args.paymentID).isSome = true
  rw [known]
  rfl

/-! ### Success -/

/-- What the decision can see of the siblings, in a sound state. -/
theorem otherSuccess_of_funded (sound : db.ledger.Sound) (locked : Locked db order payment)
    (funded : order.status.hasFunding = true) (unsettled : payment.status.isSettled = false) :
    otherSuccess payment (db.listPaymentsByOrderForUpdate payment.orderId) = true := by
  have isSome := sound.funding.fundedStatus locked.purchase
  rw [show (db.purchase order).status = order.status from rfl, funded] at isSome
  obtain ⟨paid, fundedBy⟩ := Option.isSome_iff_exists.mp isSome
  obtain ⟨charge, found, sameOrder, status⟩ := sound.funding.funding locked.purchase fundedBy
  obtain ⟨sibling, present, rfl⟩ := Database.of_ledger_payment found
  have settled : sibling.status.isSettled = true := by
    rw [show sibling.status = _ from status]
    split <;> rfl
  have different : sibling.id ≠ payment.id := by
    intro same
    have stored := Table.find?_key (Table.mem_of_find? present)
    rw [show Identified.key sibling = payment.id from same, locked.foundPayment] at stored
    cases stored
    rw [unsettled] at settled
    cases settled
  apply List.any_eq_true.mpr
  refine ⟨sibling, Database.mem_listPaymentsByOrderForUpdate.mpr
    ⟨Table.mem_of_find? present, sameOrder⟩, ?_⟩
  simp [different, settled]

private theorem not_otherSuccess_of_pending (sound : db.ledger.Sound)
    (locked : Locked db order payment) (pending : order.status = .pendingPayment) :
    otherSuccess payment (db.listPaymentsByOrderForUpdate payment.orderId) = false := by
  apply List.any_eq_false.mpr
  intro sibling listed
  obtain ⟨member, same⟩ := Database.mem_listPaymentsByOrderForUpdate.mp listed
  have unsettled := unsettled_of_pending sound (same ▸ locked.foundOrder) pending member
  simp [unsettled]

/-- The decision either funds the pending order or asks for a review; it never
lets a success pass unexplained. -/
theorem decidePaymentSuccess_cases (sound : db.ledger.Sound) {decision : PaymentSuccessDecision}
    (locked : Locked db order payment) (unsettled : payment.status.isSettled = false)
    (decided : decidePaymentSuccess order.status
      (otherSuccess payment (db.listPaymentsByOrderForUpdate payment.orderId)) = .ok decision) :
    (order.status = .pendingPayment ∧ decision = { markOrderPaid := true, reconciliation := none }) ∨
      (order.status ≠ .pendingPayment ∧ decision.markOrderPaid = false ∧
        ∃ reason detail, decision.reconciliation = some (reason, detail)) := by
  by_cases pending : order.status = .pendingPayment
  · rw [not_otherSuccess_of_pending sound locked pending, pending] at decided
    cases decided
    exact Or.inl ⟨pending, rfl⟩
  · refine Or.inr ⟨pending, ?_⟩
    cases other : otherSuccess payment (db.listPaymentsByOrderForUpdate payment.orderId) with
    | true =>
        rw [other] at decided
        cases decided
        exact ⟨rfl, _, _, rfl⟩
    | false =>
        have unfunded : order.status.hasFunding = false := by
          cases funded : order.status.hasFunding with
          | false => rfl
          | true =>
              rw [otherSuccess_of_funded sound locked funded unsettled] at other
              cases other
        rw [other] at decided
        cases status : order.status with
        | pendingPayment => exact absurd status pending
        | cancelling | cancelled =>
            rw [status] at decided
            cases decided
            exact ⟨rfl, _, _, rfl⟩
        | paid | shipped | completed | refunded =>
            rw [status] at unfunded
            cases unfunded

private theorem recordPaymentSuccess_eq_ok {now : Time} {payment recorded : Payment}
    {transaction : String} (locked : Locked db order payment)
    (done : db.recordPaymentSuccess now payment.id transaction = .ok (recorded, result)) :
    payment.status.isSettled = false ∧
      result.ledger = db.ledger.setPayment payment.id
        { payment.charge with status := .success, transaction := some transaction } ∧
      result.orders = db.orders ∧ result.orderItems = db.orderItems := by
  unfold Database.recordPaymentSuccess at done
  obtain ⟨⟨row, changed⟩, update, done⟩ := bind_eq_ok.mp done
  obtain ⟨_, _, done⟩ := bind_eq_ok.mp done
  cases pure_eq_ok.mp done
  obtain ⟨old, present, allowed, _, rfl⟩ := Database.updatePayment_eq_some.mp (found_eq_ok.mp update)
  cases present.symm.trans locked.foundPayment
  refine ⟨?_, Database.ledger_updatePayment _ present, rfl, rfl⟩
  simpa using allowed

private theorem markPaid_steps {order paidOrder : Order} {transaction : String}
    {recorded : Database}
    (locked : Locked db order payment) (unsettled : payment.status.isSettled = false)
    (pending : order.status = .pendingPayment)
    (reported : warrant.reports payment.charge transaction)
    (recording : recorded.ledger = db.ledger.setPayment payment.id
      { payment.charge with status := .success, transaction := some transaction })
    (sameOrders : recorded.orders = db.orders) (items : recorded.orderItems = db.orderItems)
    (done : recorded.markOrderPaid payment.orderId payment.id = some (paidOrder, result)) :
    Steps warrant db result := by
  obtain ⟨row, present, _, _, rfl⟩ := Database.updateOrder_eq_some.mp done
  have same : row = order := by
    rw [sameOrders, locked.foundOrder] at present
    exact (Option.some.inj present).symm
  subst same
  have changed := Database.ledger_updateOrder_same
    (fun order => { order with status := .paid, paidPaymentId := some payment.id }) present
    (by rw [pending]; rfl) (by rw [pending]; rfl)
  have purchase : recorded.purchase row = db.purchase row := by
    have stored := Database.ledger_order present
    rw [recording] at stored
    exact Option.some.inj (stored.symm.trans locked.purchase)
  refine .one (.fund payment.id payment.charge (db.purchase row) transaction locked.charge unsettled
    locked.purchase pending reported) ?_ items
  have funded : recorded.purchase { row with
      status := .paid, paidPaymentId := some payment.id, id := payment.orderId } =
      { db.purchase row with status := .paid, fundedBy := some payment.id } := by
    rw [← purchase, ← locked.key]
    rfl
  rw [changed, recording, funded]
  rfl

private theorem flagSuccess_steps {transaction : String} {recorded : Database}
    {reason : ReconciliationReason} {detail lastError : String} (locked : Locked db order payment)
    (same : args.paymentID = payment.id) (unsettled : payment.status.isSettled = false)
    (notPending : order.status ≠ .pendingPayment)
    (reported : warrant.reports payment.charge transaction)
    (recording : recorded.ledger = db.ledger.setPayment payment.id
      { payment.charge with status := .success, transaction := some transaction })
    (items : recorded.orderItems = db.orderItems)
    (done : flagPayment args method reason detail lastError recorded = .ok result) :
    Steps warrant db result := by
  unfold flagPayment at done
  obtain ⟨⟨_, flagged⟩, flag, evidence⟩ := bind_eq_ok.mp done
  obtain ⟨charge, present, changed, _, flaggedItems⟩ := requirePaymentReconciliation_spec flag
  rw [same, recording] at present changed
  rw [Ledger.payments_setPayment] at present
  cases present
  have after : flagged.ledger = db.ledger.setPayment payment.id
      { payment.charge with
        status := .success, transaction := some transaction, review := true } := by
    rw [changed, Ledger.setPayment_setPayment]
  have first : Steps warrant db flagged :=
    .one (.excess payment.id payment.charge (db.purchase order) transaction locked.charge unsettled
      locked.purchase notPending reported) after (flaggedItems.trans items)
  have review := Ledger.payments_setPayment db.ledger payment.id
    { payment.charge with status := .success, transaction := some transaction, review := true }
  rw [← after, ← same] at review
  exact first.trans (createPaymentReconciliationFailure_steps review rfl evidence)

private theorem applySuccess_steps {now : Time} {transaction : String} (sound : db.ledger.Sound)
    (locked : Locked db order payment) (same : args.paymentID = payment.id)
    (reported : transaction ≠ "" → warrant.reports payment.charge transaction)
    (done : applySuccess now args method order (db.listPaymentsByOrderForUpdate payment.orderId)
      payment transaction db = .ok result) :
    Steps warrant db result := by
  unfold applySuccess at done
  obtain ⟨_, named, done⟩ := bind_eq_ok.mp done
  have report := reported (require_eq_ok.mp named)
  split at done
  · split at done
    · cases pure_eq_ok.mp done
      exact .refl db
    · exact flagPayment_steps done
  · obtain ⟨_, _, done⟩ := bind_eq_ok.mp done
    obtain ⟨⟨row, recorded⟩, record, done⟩ := bind_eq_ok.mp done
    obtain ⟨decision, decided, done⟩ := bind_eq_ok.mp done
    obtain ⟨unsettled, recording, sameOrders, items⟩ := recordPaymentSuccess_eq_ok locked record
    unfold applyDecision at done
    obtain ⟨funded, fund, done⟩ := bind_eq_ok.mp done
    rcases decidePaymentSuccess_cases sound locked unsettled decided with
      ⟨pending, rfl⟩ | ⟨notPending, unpaid, reason, detail, flag⟩
    · cases pure_eq_ok.mp done
      rw [markPaidIf, if_pos rfl] at fund
      obtain ⟨⟨_, paid⟩, mark, fund⟩ := bind_eq_ok.mp fund
      cases pure_eq_ok.mp fund
      exact markPaid_steps locked unsettled pending report recording sameOrders items
        (found_eq_ok.mp mark)
    · rw [unpaid, markPaidIf] at fund
      cases fund
      rw [flag] at done
      exact flagSuccess_steps locked same unsettled notPending report recording items done

/-! ### Closed and failed -/

theorem Ended.update (locked : Locked db order payment) {change : Payment → Payment}
    (status : (change payment).status = .failed ∨ (change payment).status = .closed)
    (review : (change payment).needsReview = payment.needsReview) :
    Ended payment db { db with payments := db.payments.update payment.id change } := by
  refine ⟨rfl, ?_, ?_⟩
  · intro row member here
    rcases Table.mem_update.mp member with ⟨old, present, same, rfl⟩ | ⟨_, different⟩
    · have stored := Table.find?_key present
      rw [same, locked.foundPayment] at stored
      cases stored
      exact ⟨status, review⟩
    · exact absurd here different
  · intro row member elsewhere
    rcases Table.mem_update.mp member with ⟨old, _, _, rfl⟩ | ⟨present, _⟩
    · exact absurd rfl elsewhere
    · exact present

theorem Ended.unchanged (locked : Locked db order payment)
    (status : payment.status = .failed ∨ payment.status = .closed) : Ended payment db db := by
  refine ⟨rfl, ?_, fun row member _ => member⟩
  intro row member here
  have stored : db.payments.find? row.id = some row := Table.find?_key member
  rw [here, locked.foundPayment] at stored
  cases stored
  exact ⟨status, rfl⟩

private theorem applyClosed_refines {transaction : String} {mark : Bool} (tidy : db.ItemsTidy)
    (sound : db.ledger.Sound) (locked : Locked db order payment)
    (done : applyClosed order (db.listPaymentsByOrderForUpdate payment.orderId) payment
      transaction db = .ok (mark, result)) :
    Refines warrant db result := by
  unfold applyClosed at done
  split at done
  · obtain ⟨_, _, done⟩ := bind_eq_ok.mp done
    obtain ⟨_, _, done⟩ := bind_eq_ok.mp done
    obtain ⟨_, _, done⟩ := bind_eq_ok.mp done
    cases pure_eq_ok.mp done
    exact Steps.refines (.refl db) tidy
  · split at done
    · cases pure_eq_ok.mp done
      exact Steps.refines (.refl db) tidy
    · split at done
      · next closed update =>
          obtain ⟨settled, finalize, done⟩ := bind_eq_ok.mp done
          cases pure_eq_ok.mp done
          have steps : Steps warrant db closed := markPaymentClosed_steps update
          obtain ⟨row, present, _, _, rfl⟩ := Database.updatePayment_eq_some.mp update
          rw [← locked.key] at finalize
          exact finalizeOrderAfterPaymentInactive_refines tidy sound
            (locked.key.symm ▸ locked.foundOrder) steps (Ended.update locked (Or.inr rfl) rfl) finalize
      · obtain ⟨_, _, done⟩ := bind_eq_ok.mp done
        obtain ⟨_, _, done⟩ := bind_eq_ok.mp done
        cases pure_eq_ok.mp done
        exact Steps.refines (.refl db) tidy

private theorem failPayment_ended {description : String} (locked : Locked db order payment)
    (done : failPayment payment description db = .ok result) :
    Steps warrant db result ∧ Ended payment db result := by
  unfold failPayment at done
  split at done
  · next update =>
      cases done
      have steps : Steps warrant db result := markPaymentFailed_steps update
      obtain ⟨row, present, _, _, rfl⟩ := Database.updatePayment_eq_some.mp update
      exact ⟨steps, Ended.update locked (Or.inl rfl) rfl⟩
  · obtain ⟨_, ended, done⟩ := bind_eq_ok.mp done
    cases pure_eq_ok.mp done
    exact ⟨.refl db, Ended.unchanged locked (require_eq_ok.mp ended)⟩

private theorem applyPayError_refines {description : String} (tidy : db.ItemsTidy)
    (sound : db.ledger.Sound) (locked : Locked db order payment)
    (done : applyPayError args order (db.listPaymentsByOrderForUpdate payment.orderId) payment
      description db = .ok result) :
    Refines warrant db result := by
  unfold applyPayError at done
  obtain ⟨failed, fail, done⟩ := bind_eq_ok.mp done
  obtain ⟨steps, ended⟩ : Steps warrant db failed ∧ _ := failPayment_ended locked fail
  split at done
  · rw [← locked.key] at done
    exact finalizeOrderAfterPaymentInactive_refines tidy sound
      (locked.key.symm ▸ locked.foundOrder) steps ended done
  · cases pure_eq_ok.mp done
    exact steps.refines tidy

/-! ### Refunds -/

private theorem applyRefund_steps {now : Time} (tidy : db.ItemsTidy) (sound : db.ledger.Sound)
    (locked : Locked db order payment)
    (done : applyRefund now args method order payment db = .ok result) :
    Steps warrant db result := by
  unfold applyRefund at done
  split at done
  · cases done
    exact .refl db
  · obtain ⟨_, _, done⟩ := bind_eq_ok.mp done
    split at done
    · exact flagPayment_steps done
    · next refund chosen =>
        obtain ⟨⟨_, settled⟩, settle, done⟩ := bind_eq_ok.mp done
        cases pure_eq_ok.mp done
        exact settlePaymentRefund_steps tidy sound locked
          (getOrderRefundByPaymentID_eq_some chosen).1 settle

/-! ### The whole answer -/

private theorem applyTradeState_refines {now : Time} {answer : PaymentQueryResult} {mark : Bool}
    (tidy : db.ItemsTidy) (sound : db.ledger.Sound) (locked : Locked db order payment)
    (same : args.paymentID = payment.id)
    (reported : answer.tradeState = .success → answer.transactionID ≠ "" →
      warrant.reports payment.charge answer.transactionID)
    (done : applyTradeState now args method order
      (db.listPaymentsByOrderForUpdate payment.orderId) payment answer db = .ok (mark, result)) :
    Refines warrant db result := by
  unfold applyTradeState at done
  split at done
  · next success =>
      obtain ⟨applied, apply, done⟩ := bind_eq_ok.mp done
      cases pure_eq_ok.mp done
      exact (applySuccess_steps sound locked same (reported success) apply).refines tidy
  · exact applyClosed_refines tidy sound locked done
  · exact applyClosed_refines tidy sound locked done
  · obtain ⟨applied, apply, done⟩ := bind_eq_ok.mp done
    cases pure_eq_ok.mp done
    exact applyPayError_refines tidy sound locked apply
  · obtain ⟨applied, apply, done⟩ := bind_eq_ok.mp done
    cases pure_eq_ok.mp done
    exact (applyRefund_steps tidy sound locked apply).refines tidy
  all_goals
    obtain ⟨applied, apply, done⟩ := bind_eq_ok.mp done
    cases pure_eq_ok.mp done
    exact (flagPayment_steps apply).refines tidy

theorem applyPayQuery_locked {paymentID : Int} {snapshot payment : Payment}
    (present : db.payments.find? paymentID = some snapshot)
    (owner : db.orders.find? snapshot.orderId = some order)
    (chosen : (db.listPaymentsByOrderForUpdate snapshot.orderId).find?
      (fun candidate => candidate.id == paymentID) = some payment) :
    payment = snapshot ∧ Locked db order payment ∧ paymentID = payment.id := by
  have key : payment.id = paymentID := by
    simpa using List.find?_some chosen
  have member := Database.mem_listPaymentsByOrderForUpdate.mp (List.mem_of_find?_eq_some chosen)
  have stored : db.payments.find? payment.id = some payment := Table.find?_key member.1
  rw [key, present] at stored
  cases stored
  exact ⟨rfl, ⟨key.symm ▸ present, owner⟩, key.symm⟩

private theorem rejectAnswer_steps {mismatch : ProviderMismatch}
    (done : rejectAnswer args method mismatch db = .ok result) :
    Steps warrant db result := by
  unfold rejectAnswer at done
  obtain ⟨flagged, flag, done⟩ := bind_eq_ok.mp done
  exact (flagPayment_steps flag).trans (markNotificationProcessed_clerical done).steps

private theorem acceptAnswer_refines {now : Time} {answer : PaymentQueryResult}
    (tidy : db.ItemsTidy) (sound : db.ledger.Sound) (locked : Locked db order payment)
    (same : args.paymentID = payment.id)
    (channel : parsePaymentMethod payment.payChannel = some method)
    (valid : validateProviderResult payment method (some answer) = none)
    (reported : ∀ charge transaction, answer.Confirms charge transaction →
      warrant.reports charge transaction)
    (done : acceptAnswer now args method order (db.listPaymentsByOrderForUpdate payment.orderId)
      payment answer db = .ok result) :
    Refines warrant db result := by
  unfold acceptAnswer at done
  obtain ⟨⟨mark, applied⟩, apply, done⟩ := bind_eq_ok.mp done
  obtain ⟨sameTrade, sameMethod, money⟩ := validateProviderResult_eq_none valid
  have refines : Refines warrant db applied := by
    refine applyTradeState_refines tidy sound locked same ?_ apply
    intro success named
    obtain ⟨amount, currency⟩ := money (Or.inl success)
    exact reported payment.charge answer.transactionID
      ⟨success, rfl, named, sameTrade, amount, currency, method, channel, sameMethod⟩
  cases mark with
  | true => exact refines.books (markNotificationProcessed_clerical done).books
  | false =>
      cases pure_eq_ok.mp done
      exact refines

theorem find?_listPaymentsByOrderForUpdate (locked : Locked db order payment) :
    (db.listPaymentsByOrderForUpdate payment.orderId).find?
      (fun candidate => candidate.id == payment.id) = some payment := by
  have listed : payment ∈ db.listPaymentsByOrderForUpdate payment.orderId :=
    Database.mem_listPaymentsByOrderForUpdate.mpr ⟨Table.mem_of_find? locked.foundPayment, rfl⟩
  cases chosen : (db.listPaymentsByOrderForUpdate payment.orderId).find?
      (fun candidate => candidate.id == payment.id) with
  | none => exact absurd (List.find?_eq_none.mp chosen payment listed) (by simp)
  | some candidate =>
      obtain ⟨rfl, _⟩ :=
        applyPayQuery_locked locked.foundPayment locked.foundOrder chosen
      rfl

theorem applyPayQuery_of_locked {clock : Clock} {answer : Option PaymentQueryResult}
    (locked : Locked db order payment) (about : args.paymentID = payment.id) :
    applyPayQuery clock args answer db = (do
      confirmUnissued clock args payment answer
      let method ← found (parsePaymentMethod payment.payChannel) errPaymentMethodInvalid
      match validateProviderResult payment method answer, answer with
      | some mismatch, _ => rejectAnswer args method mismatch db
      | none, none => .error (Fault.plain "invalid memory address or nil pointer dereference")
      | none, some given =>
          acceptAnswer clock.database args method order
            (db.listPaymentsByOrderForUpdate payment.orderId) payment given db) := by
  unfold applyPayQuery
  rw [about, Database.getPayment, locked.foundPayment, found_some, ok_bind, Database.getOrder,
    locked.foundOrder, found_some, ok_bind]
  dsimp only
  rw [find?_listPaymentsByOrderForUpdate locked, found_some]
  rfl

theorem applyPayQuery_eq_ok {clock : Clock} {answer : Option PaymentQueryResult}
    (done : applyPayQuery clock args answer db = .ok result) :
    ∃ order payment method, Locked db order payment ∧ args.paymentID = payment.id ∧
      parsePaymentMethod payment.payChannel = some method ∧
      ((∃ mismatch, validateProviderResult payment method answer = some mismatch ∧
          rejectAnswer args method mismatch db = .ok result) ∨
        ∃ given, answer = some given ∧ validateProviderResult payment method answer = none ∧
          acceptAnswer clock.database args method order
            (db.listPaymentsByOrderForUpdate payment.orderId) payment given db = .ok result) := by
  unfold applyPayQuery at done
  obtain ⟨snapshot, present, done⟩ := bind_eq_ok.mp done
  obtain ⟨order, owner, done⟩ := bind_eq_ok.mp done
  obtain ⟨payment, chosen, done⟩ := bind_eq_ok.mp done
  obtain ⟨rfl, locked, same⟩ := applyPayQuery_locked (found_eq_ok.mp present) (found_eq_ok.mp owner)
    (found_eq_ok.mp chosen)
  obtain ⟨_, _, done⟩ := bind_eq_ok.mp done
  obtain ⟨method, channel, done⟩ := bind_eq_ok.mp done
  refine ⟨order, payment, method, locked, same, found_eq_ok.mp channel, ?_⟩
  cases valid : validateProviderResult payment method answer with
  | some mismatch =>
      rw [valid] at done
      exact Or.inl ⟨mismatch, rfl, done⟩
  | none =>
      rw [valid] at done
      cases answer with
      | none => cases done
      | some given => exact Or.inr ⟨given, rfl, rfl, done⟩

theorem applyPayQuery_refines {clock : Clock} {answer : Option PaymentQueryResult}
    (tidy : db.ItemsTidy) (sound : db.ledger.Sound)
    (reported : ∀ given charge transaction, answer = some given →
      given.Confirms charge transaction → warrant.reports charge transaction)
    (done : applyPayQuery clock args answer db = .ok result) : Refines warrant db result := by
  obtain ⟨order, payment, method, locked, same, channel, ⟨_, _, reject⟩ |
    ⟨given, rfl, valid, accept⟩⟩ := applyPayQuery_eq_ok done
  · exact (rejectAnswer_steps reject).refines tidy
  · exact acceptAnswer_refines tidy sound locked same channel valid
      (fun charge transaction confirms => reported given charge transaction rfl confirms) accept

end Mall
