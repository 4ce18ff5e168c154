/-
A pending refund can always settle.

The purpose of a refund is fixed when it is prepared, while its order moves on.
What the order may do meanwhile keeps the purpose right, so that settling finds
every row as it needs it.
-/

import Mall.Guarantees.Funding

namespace Mall

open Ledger Relational Transactional

variable {db result : Database} {payment : Payment} {refund : OrderRefund} {order : Order}

/-! ### The refund row of a payment -/

private theorem Database.Valid.refund_facts (valid : db.Valid) (locked : Locked db order payment)
    (chosen : db.getOrderRefundByPaymentID payment.id = some refund) :
    refund.paymentId = payment.id ∧ refund.orderId = order.id ∧
      refundMatches refund payment = true ∧
      payment.status = if refund.status = .success then .refunded else .success := by
  obtain ⟨stored, about⟩ := getOrderRefundByPaymentID_eq_some chosen
  obtain ⟨charge, found, sameOrder, terms, whole, status⟩ :=
    valid.sound.returns.reversalCharge (Database.ledger_refund stored)
  rw [show refund.reversal.payment = payment.id from about, locked.charge] at found
  cases found
  have owner : refund.orderId = payment.orderId := sameOrder
  have user : refund.userId = payment.userId := congrArg Terms.user terms
  have total : refund.totalAmountMinor = payment.amountMinor := congrArg Terms.amount terms
  have currency : refund.currency = payment.currency := congrArg Terms.currency terms
  have returned : refund.refundAmountMinor = payment.amountMinor := whole
  refine ⟨about, owner.trans locked.key.symm, ?_, status⟩
  simp [refundMatches, owner, user, total, currency, returned]

/-- What a refund row is for agrees with how the order was funded. -/
theorem Database.Valid.refund_fits (valid : db.Valid) (locked : Locked db order payment)
    (chosen : db.getOrderRefundByPaymentID payment.id = some refund) :
    refund.purpose.Fits (db.purchase order) payment.id := by
  obtain ⟨stored, about⟩ := getOrderRefundByPaymentID_eq_some chosen
  obtain ⟨_, owner, _⟩ := valid.refund_facts locked chosen
  have present : db.orders.find? refund.orderId = some order := by
    rw [owner, locked.key]
    exact locked.foundOrder
  have fits : refund.purpose.Fits (db.purchase order) refund.paymentId :=
    valid.sound.returns.purposeFits (Database.ledger_refund stored) (Database.ledger_order present)
  rw [about] at fits
  exact fits

private theorem Database.Valid.funding_positive (valid : db.Valid) {id paid : Int}
    (present : db.orders.find? id = some order) (funded : order.paidPaymentId = some paid) :
    0 < paid := by
  obtain ⟨payment, found, _⟩ := valid.funding present funded
  have key : payment.id = paid := Table.key_of_find? found
  exact key ▸ (db.payments.issued payment (Table.mem_of_find? found)).1

private theorem Database.Valid.decideRefundPurpose_eq (valid : db.Valid)
    (locked : Locked db order payment)
    (chosen : db.getOrderRefundByPaymentID payment.id = some refund)
    (undispatched : refund.purpose = .orderCancel → order.status = .paid) :
    decideRefundPurpose order.status order.paidPaymentID payment.id = .ok refund.purpose := by
  have fits := valid.refund_fits locked chosen
  have hasFunding := valid.funded_iff locked.foundOrder
  have positive := locked.positive
  unfold decideRefundPurpose
  rw [if_neg (by omega)]
  cases purpose : refund.purpose with
  | orderCancel =>
      rw [purpose] at fits
      have own : order.paidPaymentID = payment.id := (Order.paidPaymentID_eq positive).mpr fits
      rw [if_neg (fun other => other.1.2 own), if_pos ⟨own, undispatched purpose⟩]
  | duplicate =>
      rw [purpose] at fits
      obtain ⟨funding, funded, different⟩ := fits
      have other : 0 < funding := valid.funding_positive locked.foundOrder funded
      have paid : order.paidPaymentID = funding := (Order.paidPaymentID_eq other).mpr funded
      rw [show order.paidPaymentId = some funding from funded] at hasFunding
      refine if_pos ⟨?_, ?_⟩
      · rw [paid]
        exact ⟨other, different⟩
      · cases status : order.status <;>
          simp_all [OrderStatus.hasFunding, OrderStatus.isFunded]
  | late =>
      rw [purpose] at fits
      have cancelled : order.status = .cancelled := fits
      rw [cancelled] at hasFunding
      have unfunded : order.paidPaymentId = none :=
        Option.isNone_iff_eq_none.mp (Option.isSome_eq_false_iff.mp hasFunding)
      have unpaid : order.paidPaymentID = 0 := by
        rw [Order.paidPaymentID, unfunded]
        rfl
      rw [unpaid, cancelled, if_neg (by omega), if_neg (by omega), if_pos ⟨rfl, Or.inl rfl⟩]

private theorem Database.Valid.validateRefundSettlement_ok (valid : db.Valid)
    (locked : Locked db order payment)
    (chosen : db.getOrderRefundByPaymentID payment.id = some refund)
    (undispatched : refund.purpose = .orderCancel → order.status = .paid) :
    validateRefundSettlement refund.purpose order.status order.paidPaymentID payment.id =
      .ok () := by
  unfold validateRefundSettlement
  rw [valid.decideRefundPurpose_eq locked chosen undispatched]
  exact if_pos rfl

/-! ### Settling -/

private theorem Database.Valid.reverseOrder_succeeds (valid : db.Valid) {purpose : RefundPurpose}
    (present : db.orders.find? order.id = some order)
    (undispatched : purpose = .orderCancel → order.status = .paid) :
    ∃ reversed, reverseOrder order.id purpose db = .ok reversed ∧
      reversed.payments = db.payments ∧ reversed.refunds = db.refunds ∧
      reversed.notifications = db.notifications := by
  unfold reverseOrder
  split
  · next cancel =>
      have paid := undispatched cancel
      obtain ⟨restored, restore⟩ := Database.restoreOrderItemStock_succeeds valid.tidy present
        (by rw [paid]; rfl) valid.sound.stocked.room
      have marked : db.markOrderRefunded order.id = some (_, _) :=
        Database.updateOrder_eq_some.mpr ⟨order, present, beq_iff_eq.mpr paid, rfl, rfl⟩
      rw [marked, found_some, ok_bind]
      refine ⟨_, Database.restoreOrderItemStock_orders _ restore, ?_⟩
      cases Database.restoreOrderItemStock_eq_ok restore
      exact ⟨rfl, rfl, rfl⟩
  · exact ⟨db, rfl, rfl, rfl, rfl⟩

private theorem settle_rows_succeed (refundRow : db.refunds.find? refund.id = some refund)
    (about : refund.paymentId = payment.id)
    (paymentRow : db.payments.find? payment.id = some payment)
    (success : payment.status = .success) (now : Time) :
    ∃ changed marked row result,
      db.markOrderRefundSuccess now refund.id payment.id = some (changed, marked) ∧
      marked.confirmPaymentRefunded payment.id = some (row, result) ∧
      result.notifications = db.notifications ∧
      (result.payments.find? payment.id).map Payment.status = some .refunded ∧
      (result.refunds.find? refund.id).map OrderRefund.reversal =
        some { refund.reversal with status := .success } := by
  let settle := fun row : OrderRefund =>
    { row with status := .success, lastError := "", updatedAt := now }
  let confirm := fun row : Payment => { row with status := .refunded }
  have settled := db.refunds.find?_update_self refund.id settle
  have confirmed := db.payments.find?_update_self payment.id confirm
  rw [refundRow] at settled
  rw [paymentRow] at confirmed
  refine ⟨_, _, _, _,
    Database.updateRefund_eq_some.mpr ⟨refund, refundRow, beq_iff_eq.mpr about, rfl, rfl⟩,
    Database.updatePayment_eq_some.mpr ⟨payment, paymentRow, by rw [success]; rfl, rfl, rfl⟩,
    rfl, ?_, ?_⟩
  · exact congrArg (Option.map Payment.status) confirmed
  · exact congrArg (Option.map OrderRefund.reversal) settled

/-- A refund whose purpose still fits is settled, row and payment together. -/
theorem Database.Valid.settlePaymentRefund_succeeds (valid : db.Valid)
    (locked : Locked db order payment)
    (chosen : db.getOrderRefundByPaymentID payment.id = some refund)
    (success : payment.status = .success)
    (undispatched : refund.purpose = .orderCancel → order.status = .paid) (now : Time) :
    ∃ row result, settlePaymentRefund now order payment refund db = .ok (row, result) ∧
      result.notifications = db.notifications ∧
      (result.payments.find? payment.id).map Payment.status = some .refunded ∧
      (result.getOrderRefundByPaymentID payment.id).map OrderRefund.status = some .success := by
  obtain ⟨stored, about⟩ := getOrderRefundByPaymentID_eq_some chosen
  obtain ⟨_, owner, matching, _⟩ := valid.refund_facts locked chosen
  have present : db.orders.find? order.id = some order := locked.key.symm ▸ locked.foundOrder
  obtain ⟨reversed, reverse, samePayments, sameRefunds, sameNotifications⟩ :=
    valid.reverseOrder_succeeds present undispatched
  have refundRow : reversed.refunds.find? refund.id = some refund := sameRefunds ▸ stored
  have paymentRow : reversed.payments.find? payment.id = some payment :=
    samePayments ▸ locked.foundPayment
  obtain ⟨changed, marked, row, result, mark, confirm, notifications, refunded, settled⟩ :=
    settle_rows_succeed refundRow about paymentRow success now
  have done : settlePaymentRefund now order payment refund db = .ok (row, result) := by
    unfold settlePaymentRefund
    rw [require_of ⟨about, owner, locked.key.symm, matching⟩, ok_bind,
      if_neg (by rw [success]; nofun), require_of success, ok_bind,
      valid.validateRefundSettlement_ok locked chosen undispatched, ok_bind, reverse, ok_bind, mark,
      found_some, ok_bind]
    dsimp only
    rw [confirm, found_some]
  -- The lookup by payment needs that the settled row is still the payment's only one.
  have steps : Steps .empty db result :=
    settlePaymentRefund_steps valid.tidy valid.sound locked stored done
  obtain ⟨later, found, same⟩ :=
    getOrderRefundByPaymentID_of_ledger (steps.path.sound valid.sound) settled
  refine ⟨row, result, done, notifications.trans sameNotifications, refunded, ?_⟩
  rw [show refund.reversal.payment = payment.id from about] at found
  rw [found, Option.map_some]
  exact congrArg some (congrArg Reversal.status same)

/-! ### Refund answers -/

/-- The payment is settled as refunded through its refund row, or it is in review
with the evidence of a refund at the provider. -/
def refundNoticed (db : Database) (id : Int) : Bool :=
  match db.payments.find? id with
  | none => false
  | some payment =>
      (payment.status == .refunded &&
          (db.getOrderRefundByPaymentID id).map OrderRefund.status == some .success) ||
        (payment.needsReview && db.hasUnresolvedProviderRefund id)

theorem Database.Valid.applyRefund_succeeds (valid : db.Valid) {args : CheckPayArgs}
    (locked : Locked db order payment) (about : args.paymentID = payment.id)
    (success : payment.status = .success)
    (undispatched : ∀ refund, db.getOrderRefundByPaymentID payment.id = some refund →
      refund.purpose = .orderCancel → order.status = .paid)
    (now : Time) (method : PaymentMethod) :
    ∃ applied, applyRefund now args method order payment db = .ok applied ∧
      applied.notifications = db.notifications ∧ refundNoticed applied payment.id = true := by
  unfold applyRefund
  rw [if_neg (by rw [success]; nofun), require_of success, ok_bind]
  cases chosen : db.getOrderRefundByPaymentID payment.id with
  | none =>
      dsimp only
      obtain ⟨flagged, flag⟩ := flagPayment_succeeds (about ▸ locked.foundPayment) method
        .providerSideRefund providerRefundText providerRefundText
      obtain ⟨⟨charge, _, review⟩, notifications, evidence⟩ := flagPayment_eq_ok flag
      rw [about] at review evidence
      obtain ⟨later, stored, same⟩ := Database.of_ledger_payment review
      have inReview : later.needsReview = true := congrArg Charge.review same
      refine ⟨flagged, flag, notifications, ?_⟩
      rw [refundNoticed, stored]
      simp [inReview, evidence.mpr (Or.inr rfl)]
  | some refund =>
      obtain ⟨row, settled, settle, notifications, refunded, status⟩ :=
        valid.settlePaymentRefund_succeeds locked chosen success (undispatched refund chosen) now
      obtain ⟨later, stored, isRefunded⟩ := Option.map_eq_some_iff.mp refunded
      dsimp only
      rw [settle]
      refine ⟨settled, rfl, notifications, ?_⟩
      rw [refundNoticed, stored]
      simp [isRefunded, status]

def notificationOpen (db : Database) (id : Int) : Prop :=
  id ≤ 0 ∨ ∃ notification, db.notifications.find? id = some notification ∧
    notification.status ≠ .failed

private theorem markNotificationProcessed_cases (db : Database) (id : Int) :
    notificationOpen db id ∧ (∃ result, markNotificationProcessed id db = .ok result) ∨
      ¬ notificationOpen db id ∧ ∃ fault, markNotificationProcessed id db = .error fault ∧
        fault ≠ errPaymentStateConflict := by
  unfold markNotificationProcessed notificationOpen
  by_cases absent : id ≤ 0
  · rw [if_pos absent]
    exact Or.inl ⟨Or.inl absent, db, rfl⟩
  · rw [if_neg absent, or_iff_right absent]
    cases marked : db.markPaymentNotificationProcessed id with
    | some changed =>
        obtain ⟨row, present, allowed, _⟩ := Database.updateNotification_eq_some.mp marked
        refine Or.inl ⟨⟨row, present, ?_⟩, changed.2, rfl⟩
        intro failed
        rw [failed] at allowed
        cases allowed
    | none =>
        unfold notificationStateAfterCAS Database.getPaymentNotification
        cases present : db.notifications.find? id with
        | none =>
            refine Or.inr ⟨?_, Fault.noRows, rfl, nofun⟩
            rintro ⟨row, again, _⟩
            cases again
        | some row =>
            -- The update refuses only notifications that were processed or that failed.
            have guard := Database.updateNotification_eq_none.mp marked row present
            by_cases processed : row.status = .processed
            · refine Or.inl ⟨⟨row, rfl, by rw [processed]; nofun⟩, db, ?_⟩
              rw [found_some, ok_bind, require_of processed]
              rfl
            · refine Or.inr ⟨?_, errPaymentNotificationState, ?_, by decide⟩
              · rintro ⟨same, again, unfailed⟩
                cases again
                cases status : row.status <;> simp_all
              · rw [found_some, ok_bind, require_of_not processed]
                rfl

theorem markNotificationProcessed_succeeds_iff {id : Int} :
    (∃ result, markNotificationProcessed id db = .ok result) ↔ notificationOpen db id := by
  rcases markNotificationProcessed_cases db id with ⟨ready, succeeds⟩ | ⟨closed, fault, fails, _⟩
  · exact iff_of_true succeeds ready
  · refine iff_of_false ?_ closed
    rintro ⟨result, succeeds⟩
    rw [fails] at succeeds
    cases succeeds

private theorem markNotificationProcessed_no_conflict (db : Database) (id : Int) :
    markNotificationProcessed id db ≠ .error errPaymentStateConflict := by
  intro conflict
  rcases markNotificationProcessed_cases db id with ⟨_, result, succeeds⟩ |
    ⟨_, fault, fails, different⟩
  · rw [succeeds] at conflict
    cases conflict
  · rw [fails] at conflict
    exact different (Except.error.inj conflict)

theorem applyPayQuery_refund {clock : Clock} {args : CheckPayArgs} {answer : PaymentQueryResult}
    {method : PaymentMethod} (locked : Locked db order payment)
    (about : args.paymentID = payment.id) (issued : args.confirmUnissued = false)
    (channel : parsePaymentMethod payment.payChannel = some method)
    (refund : answer.tradeState = .refund) :
    applyPayQuery clock args (some answer) db =
      (match validateProviderResult payment method (some answer) with
        | some mismatch =>
            flagPayment args method (reconciliationReasonForMismatch mismatch) mismatch.text
              mismatch.text db
        | none => applyRefund clock.database args method order payment db) >>=
        markNotificationProcessed args.notificationID := by
  rw [applyPayQuery_of_locked locked about, confirmUnissued, if_neg (by rw [issued]; nofun),
    ok_bind, channel, found_some, ok_bind]
  cases validateProviderResult payment method (some answer) with
  | some mismatch => rfl
  | none =>
      dsimp only
      unfold acceptAnswer applyTradeState
      rw [refund]
      dsimp only
      cases applyRefund clock.database args method order payment db with
      | error fault => rfl
      | ok applied => rfl

/-- Nothing but the notification can stop an answer whose effect succeeds. -/
theorem marked_after {body : Except Fault Database} {applied : Database}
    (done : body = .ok applied) (same : applied.notifications = db.notifications) (id : Int) :
    (body >>= markNotificationProcessed id) ≠ .error errPaymentStateConflict ∧
      (notificationOpen db id → ∃ result, (body >>= markNotificationProcessed id) = .ok result) := by
  rw [done, ok_bind]
  refine ⟨markNotificationProcessed_no_conflict applied id, ?_⟩
  intro ready
  refine markNotificationProcessed_succeeds_iff.mpr ?_
  rw [notificationOpen, same]
  exact ready

private theorem Reached.channel (reached : Reached db)
    (found : db.payments.find? payment.id = some payment) (success : payment.status = .success) :
    ∃ method, parsePaymentMethod payment.payChannel = some method := by
  obtain ⟨start, history, initial, rfl⟩ := reached
  obtain ⟨_, _, _, _, _, _, _, _, _, _, _, ⟨method, parsed, _⟩, _⟩ :=
    recordedBySuccess initial history found (by rw [success]; rfl)
  exact ⟨method, parsed⟩

/-! ### Pending refunds -/

private theorem Database.Valid.pending_refund (valid : db.Valid) (member : refund ∈ db.refunds)
    (pending : refund.status = .pending) :
    ∃ order payment, Locked db order payment ∧ refund.paymentId = payment.id ∧
      db.getOrderRefundByPaymentID payment.id = some refund ∧ payment.status = .success ∧
      (refund.purpose = .orderCancel → order.status = .paid) := by
  have stored : db.refunds.find? refund.id = some refund := Table.find?_key member
  obtain ⟨charge, found, _, _, _, status⟩ :=
    valid.sound.returns.reversalCharge (Database.ledger_refund stored)
  obtain ⟨payment, known, rfl⟩ := Database.of_ledger_payment found
  obtain ⟨order, locked⟩ := valid.locked (Table.mem_of_find? known)
  have about : payment.id = refund.paymentId := Table.key_of_find? known
  obtain ⟨row, chosen, same⟩ :=
    getOrderRefundByPaymentID_of_ledger valid.sound (Database.ledger_refund stored)
  rw [show refund.reversal.payment = payment.id from about.symm] at chosen
  obtain ⟨rowStored, _⟩ := getOrderRefundByPaymentID_eq_some chosen
  have key := valid.sound.returns.reversalUnique (Database.ledger_refund rowStored)
    (Database.ledger_refund stored) (congrArg Reversal.payment same)
  rw [key, stored] at rowStored
  cases rowStored
  refine ⟨order, payment, locked, about.symm, chosen, ?_, ?_⟩
  · rw [show payment.status = _ from status, show refund.reversal.status = .pending from pending]
    rfl
  · have present : db.orders.find? refund.orderId = some order :=
      refund_owner valid.sound stored known ▸ locked.foundOrder
    exact valid.sound.returns.pendingPaid (Database.ledger_refund stored)
      (Database.ledger_order present) pending

private theorem Database.Valid.refunded_iff (valid : db.Valid) (member : payment ∈ db.payments) :
    payment.status = .refunded ↔
      (db.getOrderRefundByPaymentID payment.id).map OrderRefund.status = some .success := by
  obtain ⟨order, locked⟩ := valid.locked member
  cases chosen : db.getOrderRefundByPaymentID payment.id with
  | none =>
      refine iff_of_false ?_ nofun
      intro refunded
      obtain ⟨id, reversal, present, same⟩ :=
        valid.sound.returns.refundedReversal locked.charge refunded
      exact getOrderRefundByPaymentID_eq_none chosen present same
  | some refund =>
      obtain ⟨_, _, _, status⟩ := valid.refund_facts locked chosen
      rw [status, Option.map_some, Option.some.injEq]
      split <;> simp_all

theorem Database.Valid.dispatched_refund_failed (valid : db.Valid) {paid : Int}
    (member : order ∈ db.orders) (dispatched : order.status.isDispatched = true)
    (funded : order.paidPaymentId = some paid) (listed : refund ∈ db.refunds)
    (about : refund.paymentId = paid) : refund.status = .failed := by
  have present : db.orders.find? order.id = some order := Table.find?_key member
  have stored : db.refunds.find? refund.id = some refund := Table.find?_key listed
  obtain ⟨payment, known, same, _⟩ := valid.funding present funded
  rw [← about] at known
  have owner : refund.orderId = order.id := (refund_owner valid.sound stored known).trans same
  rw [← owner] at present
  rw [← about] at funded
  exact valid.sound.returns.dispatchedKept (Database.ledger_refund stored)
    (Database.ledger_order present) funded dispatched

/-- A pending refund is never stuck, and what refund rows say about payments. -/
theorem pending_refund_settles (reached : Reached db) :
    (∀ refund ∈ db.refunds, refund.status = .pending →
      ∃ order payment, db.payments.find? refund.paymentId = some payment ∧
        db.orders.find? payment.orderId = some order ∧ payment.status = .success ∧
        refund.totalAmountMinor = payment.amountMinor ∧
        refund.refundAmountMinor = payment.amountMinor ∧
        validateRefundSettlement refund.purpose order.status order.paidPaymentID payment.id =
          .ok () ∧
        (∀ now, ∃ row result,
          applyPaymentRefund now payment.id refund.id db = .ok (row, result) ∧
          (result.payments.find? payment.id).map Payment.status = some .refunded ∧
          (result.getOrderRefundByPaymentID payment.id).map OrderRefund.status =
            some .success) ∧
        ∀ clock args answer, args.paymentID = payment.id → args.confirmUnissued = false →
          answer.tradeState = .refund →
          applyPayQuery clock args (some answer) db ≠ .error errPaymentStateConflict ∧
          (notificationOpen db args.notificationID →
            ∃ result, applyPayQuery clock args (some answer) db = .ok result)) ∧
    (∀ payment ∈ db.payments, payment.status = .refunded ↔
      (db.getOrderRefundByPaymentID payment.id).map OrderRefund.status = some .success) ∧
    (∀ order ∈ db.orders, order.status = .shipped ∨ order.status = .completed →
      ∀ paid, order.paidPaymentId = some paid →
        ∀ refund ∈ db.refunds, refund.paymentId = paid → refund.status = .failed) := by
  have valid := reached.valid
  refine ⟨?_, fun payment member => valid.refunded_iff member, ?_⟩
  · intro refund member pending
    obtain ⟨order, payment, locked, about, chosen, success, undispatched⟩ :=
      valid.pending_refund member pending
    obtain ⟨_, _, matching, _⟩ := valid.refund_facts locked chosen
    simp only [refundMatches, Bool.and_eq_true, beq_iff_eq] at matching
    refine ⟨order, payment, about ▸ locked.foundPayment, locked.foundOrder, success,
      matching.1.1.2, matching.1.2, valid.validateRefundSettlement_ok locked chosen undispatched,
      ?_, ?_⟩
    · intro now
      obtain ⟨row, result, settled, _, refunded, status⟩ :=
        valid.settlePaymentRefund_succeeds locked chosen success undispatched now
      refine ⟨row, result, ?_, refunded, status⟩
      unfold applyPaymentRefund Database.getOrderForUpdateByPaymentID Database.getPayment
      rw [locked.foundPayment]
      dsimp only
      rw [locked.foundOrder, found_some, ok_bind, found_some, ok_bind, chosen, found_some, ok_bind,
        require_of rfl, ok_bind]
      exact settled
    · intro clock args answer same issued reported
      obtain ⟨method, channel⟩ := reached.channel locked.foundPayment success
      rw [applyPayQuery_refund locked same issued channel reported]
      cases validateProviderResult payment method (some answer) with
      | some mismatch =>
          obtain ⟨flagged, flag⟩ := flagPayment_succeeds (same ▸ locked.foundPayment) method
            (reconciliationReasonForMismatch mismatch) mismatch.text mismatch.text
          exact marked_after flag (flagPayment_eq_ok flag).2.1 args.notificationID
      | none =>
          have fitting : ∀ row, db.getOrderRefundByPaymentID payment.id = some row →
              row.purpose = .orderCancel → order.status = .paid := by
            intro row again
            cases chosen.symm.trans again
            exact undispatched
          obtain ⟨applied, apply, notifications, _⟩ := valid.applyRefund_succeeds locked same success
            fitting clock.database method
          exact marked_after apply notifications args.notificationID
  · intro order member dispatched paid funded refund listed about
    refine valid.dispatched_refund_failed member ?_ funded listed about
    rcases dispatched with shipped | completed
    · rw [shipped]
      rfl
    · rw [completed]
      rfl

def refundingShop : Database :=
  next (.preparePaymentRefund 4 1 "RFND1") paidShop

theorem pending_refund_settles_refundingShop :
    ∃ refund ∈ refundingShop.refunds, refund.status = .pending ∧
      ∃ payment, refundingShop.payments.find? 1 = some payment ∧ payment.status = .success ∧
        ∀ now, ∃ row result,
          applyPaymentRefund now payment.id refund.id refundingShop = .ok (row, result) ∧
          (result.payments.find? payment.id).map Payment.status = some .refunded ∧
          (result.getOrderRefundByPaymentID payment.id).map OrderRefund.status =
            some .success := by
  have prepared : (refundingShop.refunds.find? 1).map
      (fun refund => (refund.status, refund.paymentId)) = some (.pending, 1) := by
    decide +kernel
  obtain ⟨refund, found, facts⟩ := Option.map_eq_some_iff.mp prepared
  obtain ⟨pending, about⟩ := Prod.ext_iff.mp facts
  have member := Table.mem_of_find? found
  obtain ⟨order, payment, stored, _, success, _, _, _, settles, _⟩ :=
    (pending_refund_settles (paidShop_reached.step _)).1 refund member pending
  rw [show refund.paymentId = 1 from about] at stored
  exact ⟨refund, member, pending, payment, stored, success, settles⟩

end Mall
