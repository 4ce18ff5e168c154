/-
A provider answer that is delivered twice is applied once.
-/

import Mall.Guarantees.OpenCases
import Mall.Refinement.Queueing

namespace Mall

open Relational Transactional

variable {db result : Database} {args : CheckPayArgs} {payment payment' : Payment}
  {answer : Option PaymentQueryResult} {applied later : Database} {method : PaymentMethod}
  {transaction : String} {order order' : Order}

/-! ### Notifications and flags -/

private theorem markNotificationProcessed_again {id : Int} {later : Database}
    (done : markNotificationProcessed id db = .ok result)
    (same : later.notifications = result.notifications) :
    markNotificationProcessed id later = .ok later := by
  by_cases none : id ≤ 0
  · rw [markNotificationProcessed, if_pos none]
  · obtain ⟨row, present, status⟩ := markNotificationProcessed_processed (not_le.mp none) done
    rw [← same] at present
    have unchanged : later.markPaymentNotificationProcessed id = Option.none := by
      apply Database.updateNotification_eq_none.mpr
      intro other found
      cases present.symm.trans found
      rw [status]
      rfl
    rw [markNotificationProcessed, if_neg none, unchanged]
    dsimp only
    rw [notificationStateAfterCAS, Database.getPaymentNotification, present, found_some, ok_bind,
      require_of status]
    rfl

private theorem requirePaymentReconciliation_known {id : Int} {reason : ReconciliationReason}
    {detail : String} {row : Payment} (present : db.payments.find? id = some row)
    (known : row.Known reason (nullable detail)) :
    requirePaymentReconciliation id reason detail db = .ok (row, db) := by
  have unchanged : db.requirePaymentReconciliation id reason (nullable detail) = none := by
    apply Database.updatePayment_eq_none.mpr
    intro other found
    cases present.symm.trans found
    obtain ⟨required, sameReason, sameDetail⟩ := known
    simp [required, sameReason, sameDetail]
  unfold requirePaymentReconciliation
  rw [unchanged]
  dsimp only
  rw [Database.getPayment, present, found_some]
  rfl

def MoreEvidence (db later : Database) : Prop :=
  ∃ failures, (failures = db.failures ∨ ∃ row, failures = db.failures.insert row) ∧
    later = { db with failures := failures }

private theorem MoreEvidence.refl (db : Database) : MoreEvidence db db :=
  ⟨db.failures, Or.inl rfl, rfl⟩

theorem createReconciliationFailure_more (failure : FailureInput)
    (known : (db.payments.find? failure.paymentID).isSome = true)
    (jobless : failure.riverJobID = none) :
    ∃ row, createReconciliationFailure failure db =
      .ok { db with failures := db.failures.insert row } :=
  ⟨_, createPaymentReconciliationFailure_fresh known jobless⟩

private theorem flagPayment_again (method : PaymentMethod) {reason : ReconciliationReason}
    {detail : String} (lastError : String) {row : Payment}
    (present : db.payments.find? args.paymentID = some row)
    (known : row.Known reason (nullable detail)) :
    ∃ evidence, flagPayment args method reason detail lastError db =
      .ok { db with failures := db.failures.insert evidence } := by
  unfold flagPayment
  rw [requirePaymentReconciliation_known present known, ok_bind]
  exact createReconciliationFailure_more _ (by rw [present]; rfl) rfl

structure Payment.FlaggedAs (row later : Payment) (reason : ReconciliationReason)
    (detail : Option String) : Prop where
  known : later.Known reason detail
  status : later.status = row.status
  transaction : later.thirdPartyTxId = row.thirdPartyTxId

private theorem Raised.flaggedAs {id : Int} {reason : ReconciliationReason} {detail : Option String}
    {payments flagged : Table Payment} {row : Payment} (present : payments.find? id = some row)
    (raised : Raised id reason detail payments flagged) :
    ∃ later, flagged.find? id = some later ∧ row.FlaggedAs later reason detail := by
  cases raised with
  | news old found news =>
      cases present.symm.trans found
      rw [payments.find?_update (Payment.flagged reason detail) found]
      exact ⟨_, Function.update_self .., ⟨rfl, rfl, rfl⟩, rfl, rfl⟩
  | known old found known =>
      cases present.symm.trans found
      exact ⟨row, found, known, rfl, rfl⟩

private theorem flagPayment_row {reason : ReconciliationReason} {detail lastError : String}
    {row : Payment} (present : db.payments.find? args.paymentID = some row)
    (done : flagPayment args method reason detail lastError db = .ok result) :
    result.refunds = db.refunds ∧ ∃ later, result.payments.find? args.paymentID = some later ∧
      row.FlaggedAs later reason (nullable detail) := by
  unfold flagPayment at done
  obtain ⟨⟨_, flagged⟩, flag, done⟩ := bind_eq_ok.mp done
  obtain ⟨payments, raised, rfl⟩ := requirePaymentReconciliation_raised flag
  obtain ⟨failures, _, rfl⟩ := createPaymentReconciliationFailure_evidenced done
  exact ⟨rfl, raised.flaggedAs present⟩

/-! ### The second delivery, state by state -/

/-- The state the second delivery meets: the first one's, with the notification
marked. -/
structure Redelivered (applied later : Database) (order : Order) (payment : Payment) : Prop where
  payments : later.payments = applied.payments
  refunds : later.refunds = applied.refunds
  locked : Locked later order payment

private theorem Redelivered.present {order : Order} {payment : Payment}
    (redelivered : Redelivered applied later order payment) :
    applied.payments.find? payment.id = some payment :=
  redelivered.payments ▸ redelivered.locked.foundPayment

private theorem recordPaymentSuccess_row {now : Time} {payment row : Payment}
    {decision : PaymentSuccessDecision} {recorded : Database}
    (about : args.paymentID = payment.id)
    (record : db.recordPaymentSuccess now payment.id transaction = .ok (row, recorded))
    (done : applyDecision args method payment decision recorded = .ok result) :
    ∃ later, result.payments.find? payment.id = some later ∧ later.status = .success ∧
      later.thirdPartyTxId = some transaction := by
  unfold Database.recordPaymentSuccess at record
  obtain ⟨⟨_, updated⟩, update, record⟩ := bind_eq_ok.mp record
  obtain ⟨_, _, record⟩ := bind_eq_ok.mp record
  cases pure_eq_ok.mp record
  obtain ⟨old, present, _, _, rfl⟩ := Database.updatePayment_eq_some.mp (found_eq_ok.mp update)
  have settled := db.payments.find?_update (Payment.settled now transaction) present
  have received : (db.payments.update payment.id (Payment.settled now transaction)).find?
      payment.id = some { old.settled now transaction with id := payment.id } := by
    rw [settled]
    exact Function.update_self ..
  unfold applyDecision at done
  obtain ⟨funded, fund, done⟩ := bind_eq_ok.mp done
  have paid : funded.payments = db.payments.update payment.id (Payment.settled now transaction) := by
    unfold markPaidIf at fund
    split at fund
    · obtain ⟨⟨_, marked⟩, mark, fund⟩ := bind_eq_ok.mp fund
      cases pure_eq_ok.mp fund
      obtain ⟨_, _, _, _, rfl⟩ := Database.updateOrder_eq_some.mp (found_eq_ok.mp mark)
      rfl
    · cases fund
      rfl
  rw [← paid] at received
  split at done
  · obtain ⟨_, later, found, flagged⟩ := flagPayment_row (about ▸ received) done
    exact ⟨later, about ▸ found, flagged.status, flagged.transaction⟩
  · cases pure_eq_ok.mp done
    exact ⟨_, received, rfl, rfl⟩

private theorem applySuccess_again {now : Time} {payments payments' : List Payment}
    (stored : db.payments.find? payment.id = some payment) (about : args.paymentID = payment.id)
    (same : payment'.id = payment.id)
    (done : applySuccess now args method order payments payment transaction db = .ok applied)
    (again : Redelivered applied later order' payment') :
    ∃ last, applySuccess now args method order' payments' payment' transaction later = .ok last ∧
      MoreEvidence later last := by
  have present := again.present
  rw [same] at present
  unfold applySuccess at done
  obtain ⟨_, named, done⟩ := bind_eq_ok.mp done
  unfold applySuccess
  rw [require_of (require_eq_ok.mp named), ok_bind]
  split at done
  · next success =>
    split at done
    · next recorded =>
      cases pure_eq_ok.mp done
      cases present.symm.trans stored
      rw [if_pos success, if_pos recorded]
      exact ⟨later, rfl, .refl later⟩
    · next changed =>
      obtain ⟨_, row, found, flagged⟩ := flagPayment_row (about ▸ stored) done
      rw [about] at found
      cases present.symm.trans found
      rw [if_pos (flagged.status.trans success), flagged.transaction, if_neg changed]
      have known : later.payments.find? args.paymentID = some payment' := by
        rw [about, again.payments]
        exact found
      obtain ⟨evidence, flags⟩ := flagPayment_again method transactionChangedText
        known flagged.known
      exact ⟨_, flags, _, Or.inr ⟨evidence, rfl⟩, rfl⟩
  · obtain ⟨_, _, done⟩ := bind_eq_ok.mp done
    obtain ⟨⟨row, recorded⟩, record, done⟩ := bind_eq_ok.mp done
    obtain ⟨decision, _, done⟩ := bind_eq_ok.mp done
    obtain ⟨row, found, success, number⟩ := recordPaymentSuccess_row about record done
    cases present.symm.trans found
    have listed : payment'.thirdPartyTxId.getD "" = transaction := by
      rw [number]
      rfl
    rw [if_pos success, if_pos listed]
    exact ⟨later, rfl, .refl later⟩

private theorem applyRefund_again {now : Time}
    (stored : db.payments.find? payment.id = some payment)
    (about : args.paymentID = payment.id) (same : payment'.id = payment.id)
    (done : applyRefund now args method order payment db = .ok applied)
    (again : Redelivered applied later order' payment') :
    ∃ last, applyRefund now args method order' payment' later = .ok last ∧
      MoreEvidence later last := by
  have present := again.present
  rw [same] at present
  unfold applyRefund at done ⊢
  split at done
  · next refunded =>
    cases done
    cases present.symm.trans stored
    rw [if_pos refunded]
    exact ⟨later, rfl, .refl later⟩
  · obtain ⟨_, success, done⟩ := bind_eq_ok.mp done
    have success := require_eq_ok.mp success
    split at done
    · next unasked =>
      obtain ⟨refunds, row, found, flagged⟩ := flagPayment_row (about ▸ stored) done
      rw [about] at found
      cases present.symm.trans found
      have still : payment'.status = .success := flagged.status.trans success
      have none : later.getOrderRefundByPaymentID payment'.id = Option.none := by
        rw [Database.getOrderRefundByPaymentID, again.refunds, refunds, same]
        exact unasked
      have known : later.payments.find? args.paymentID = some payment' := by
        rw [about, again.payments]
        exact found
      rw [if_neg (by rw [still]; decide), require_of still, ok_bind, none]
      obtain ⟨evidence, flags⟩ := flagPayment_again method providerRefundText
        known flagged.known
      exact ⟨_, flags, _, Or.inr ⟨evidence, rfl⟩, rfl⟩
    · obtain ⟨⟨changed, settled⟩, settle, done⟩ := bind_eq_ok.mp done
      cases pure_eq_ok.mp done
      unfold settlePaymentRefund at settle
      obtain ⟨_, _, settle⟩ := bind_eq_ok.mp settle
      rw [if_neg (by simp [success])] at settle
      obtain ⟨_, _, settle⟩ := bind_eq_ok.mp settle
      obtain ⟨_, _, settle⟩ := bind_eq_ok.mp settle
      obtain ⟨reversed, reverse, settle⟩ := bind_eq_ok.mp settle
      obtain ⟨⟨_, marked⟩, mark, confirm⟩ := bind_eq_ok.mp settle
      obtain ⟨row, found, _, _, rfl⟩ := Database.updatePayment_eq_some.mp (found_eq_ok.mp confirm)
      change (marked.payments.update payment.id _).find? payment.id = some payment' at present
      rw [marked.payments.find?_update _ found, Function.update_self] at present
      have refunded : payment'.status = .refunded := by
        cases present
        rfl
      rw [if_pos refunded]
      exact ⟨later, rfl, .refl later⟩

/-! ### The order after an inactive payment -/

private theorem releaseOrder_after {orderID : Int} (done : releaseOrder orderID db = .ok result) :
    result.payments = db.payments ∧ result.failures = db.failures ∧
      ∃ order, result.orders.find? orderID = some order ∧ order.status = .cancelled := by
  unfold releaseOrder at done
  obtain ⟨⟨_, cancelling⟩, mark, done⟩ := bind_eq_ok.mp done
  obtain ⟨restored, restore, done⟩ := bind_eq_ok.mp done
  obtain ⟨⟨_, cancelled⟩, last, done⟩ := bind_eq_ok.mp done
  cases pure_eq_ok.mp done
  obtain ⟨_, _, _, _, rfl⟩ := Database.updateOrder_eq_some.mp (found_eq_ok.mp mark)
  cases Database.restoreOrderItemStock_eq_ok restore
  obtain ⟨row, present, _, _, rfl⟩ := Database.updateOrder_eq_some.mp (found_eq_ok.mp last)
  exact ⟨rfl, rfl, _, (congrFun (Table.find?_update _ _ present) orderID).trans
    (Function.update_self ..), rfl⟩

private theorem markOrderPaid_after {id payment : Int} {changed : Order}
    (mark : db.markOrderPaid id payment = some (changed, result)) :
    result.payments = db.payments ∧ result.failures = db.failures ∧
      ∃ order, result.orders.find? id = some order ∧ order.status = .paid := by
  obtain ⟨row, present, _, _, rfl⟩ := Database.updateOrder_eq_some.mp mark
  exact ⟨rfl, rfl, _, (congrFun (Table.find?_update _ _ present) id).trans
    (Function.update_self ..), rfl⟩

theorem finalizeOrderAfterPaymentInactive_after {order : Order} {payments : List Payment}
    {current : Payment}
    (done : finalizeOrderAfterPaymentInactive order payments current db = .ok result) :
    result.payments = db.payments ∧ result.failures = db.failures ∧
      ((∃ later, result.orders.find? order.id = some later ∧ later.status ≠ .pendingPayment) ∨
        result = db ∧ (order.status = .pendingPayment → successfulSibling current payments = none ∧
          ¬ (siblingActive current payments = false ∧ caseOpen current payments = false))) := by
  unfold finalizeOrderAfterPaymentInactive at done
  split at done
  · split at done
    · obtain ⟨⟨_, paid⟩, mark, done⟩ := bind_eq_ok.mp done
      cases pure_eq_ok.mp done
      obtain ⟨rows, failures, later, found, status⟩ := markOrderPaid_after (found_eq_ok.mp mark)
      exact ⟨rows, failures, Or.inl ⟨later, found, by rw [status]; nofun⟩⟩
    · next settled =>
      cases done
      exact ⟨rfl, rfl, Or.inr ⟨rfl, fun pending => absurd pending settled⟩⟩
  · next alone =>
    split at done
    · obtain ⟨rows, failures, later, found, status⟩ := releaseOrder_after done
      exact ⟨rows, failures, Or.inl ⟨later, found, by rw [status]; nofun⟩⟩
    · next held =>
      cases done
      refine ⟨rfl, rfl, Or.inr ⟨rfl, fun pending => ⟨alone, ?_⟩⟩⟩
      rintro ⟨inactive, closed⟩
      exact held ⟨inactive, closed, pending⟩

structure SameSiblings (current later : Payment) (payments rows : List Payment) : Prop where
  id : later.id = current.id
  review : later.needsReview = current.needsReview
  siblings : ∀ candidate, candidate.id ≠ current.id → (candidate ∈ rows ↔ candidate ∈ payments)

private theorem SameSiblings.any_eq {current later : Payment} {payments rows : List Payment}
    (same : SameSiblings current later payments rows) (test : Payment → Bool) :
    rows.any (fun candidate => candidate.id != later.id && test candidate) =
      payments.any (fun candidate => candidate.id != current.id && test candidate) := by
  rw [Bool.eq_iff_iff, List.any_eq_true, List.any_eq_true, same.id]
  simp only [Bool.and_eq_true, bne_iff_ne]
  constructor
  · rintro ⟨candidate, member, other, holds⟩
    exact ⟨candidate, (same.siblings candidate other).mp member, other, holds⟩
  · rintro ⟨candidate, member, other, holds⟩
    exact ⟨candidate, (same.siblings candidate other).mpr member, other, holds⟩

private theorem successfulSibling_isNone_iff {current : Payment} {payments : List Payment} :
    successfulSibling current payments = none ↔
      payments.any (fun candidate => candidate.id != current.id &&
        (candidate.status == .success && !candidate.needsReview)) = false := by
  rw [successfulSibling, Option.map_eq_none_iff, List.getLast?_eq_none_iff,
    List.filter_eq_nil_iff, List.any_eq_false]
  simp only [Bool.and_assoc]

private theorem finalizeOrderAfterPaymentInactive_again {payments rows : List Payment}
    {current current' : Payment} {later : Database}
    (stored : db.orders.find? order.id = some order)
    (done : finalizeOrderAfterPaymentInactive order payments current db = .ok result)
    (found : result.orders.find? order.id = some order')
    (same : SameSiblings current current' payments rows) :
    finalizeOrderAfterPaymentInactive order' rows current' later = .ok later := by
  obtain ⟨_, _, ⟨settled, present, status⟩ | ⟨rfl, idle⟩⟩ :=
    finalizeOrderAfterPaymentInactive_after done
  · cases found.symm.trans present
    unfold finalizeOrderAfterPaymentInactive
    split
    · exact if_neg status
    · exact if_neg (fun held => status held.2.2)
  · obtain rfl : order' = order := Option.some.inj (found.symm.trans stored)
    unfold finalizeOrderAfterPaymentInactive
    by_cases pending : order'.status = .pendingPayment
    · obtain ⟨alone, held⟩ := idle pending
      have none : successfulSibling current' rows = Option.none := by
        rw [successfulSibling_isNone_iff, same.any_eq]
        exact successfulSibling_isNone_iff.mp alone
      rw [none]
      refine if_neg ?_
      rintro ⟨inactive, closed, _⟩
      rw [siblingActive, same.any_eq] at inactive
      rw [caseOpen, same.any_eq, same.review] at closed
      exact held ⟨inactive, closed⟩
    · split
      · exact if_neg pending
      · exact if_neg (fun held => pending held.2.2)

/-! ### Closed and failed trades -/

private theorem applyClosed_again {payments payments' : List Payment} {mark : Bool}
    (stored : db.payments.find? payment.id = some payment) (same : payment'.id = payment.id)
    (done : applyClosed order payments payment transaction db = .ok (mark, applied))
    (again : Redelivered applied later order' payment') :
    mark = true ∧ applyClosed order' payments' payment' transaction later = .ok (true, later) := by
  have present := again.present
  rw [same] at present
  unfold applyClosed at done
  split at done
  · next refunded =>
    obtain ⟨_, named, done⟩ := bind_eq_ok.mp done
    obtain ⟨refund, recorded, done⟩ := bind_eq_ok.mp done
    obtain ⟨_, matching, done⟩ := bind_eq_ok.mp done
    cases pure_eq_ok.mp done
    obtain rfl : payment' = payment := Option.some.inj (present.symm.trans stored)
    have returned : later.getOrderRefundByPaymentID payment'.id = some refund := by
      rw [Database.getOrderRefundByPaymentID, again.refunds]
      exact found_eq_ok.mp recorded
    refine ⟨rfl, ?_⟩
    rw [applyClosed, if_pos refunded, require_of (require_eq_ok.mp named), ok_bind, returned,
      found_some, ok_bind, require_of (require_eq_ok.mp matching)]
    rfl
  · next unreturned =>
    split at done
    · next closed =>
      cases pure_eq_ok.mp done
      cases present.symm.trans stored
      refine ⟨rfl, ?_⟩
      rw [applyClosed, if_neg unreturned, if_pos closed]
      rfl
    · next unclosed =>
      split at done
      · next closing update =>
        obtain ⟨settled, finalize, done⟩ := bind_eq_ok.mp done
        cases pure_eq_ok.mp done
        obtain ⟨row, found, _, _, rfl⟩ := Database.updatePayment_eq_some.mp update
        obtain ⟨rows, _⟩ := finalizeOrderAfterPaymentInactive_after finalize
        rw [rows] at present
        change (db.payments.update payment.id _).find? payment.id = some payment' at present
        rw [db.payments.find?_update _ found, Function.update_self] at present
        have closed : payment'.status = .closed := by
          cases present
          rfl
        refine ⟨rfl, ?_⟩
        rw [applyClosed, if_neg (by rw [closed]; decide), if_pos closed]
        rfl
      · -- The row was read under the lock, so the check after the CAS sees it again.
        obtain ⟨current, reread, done⟩ := bind_eq_ok.mp done
        obtain ⟨_, closed, _⟩ := bind_eq_ok.mp done
        cases stored.symm.trans (found_eq_ok.mp reread)
        exact absurd (require_eq_ok.mp closed) unclosed

private theorem failPayment_again {description : String} {later : Database}
    (stored : db.payments.find? payment.id = some payment) (same : payment'.id = payment.id)
    (done : failPayment payment description db = .ok result)
    (present : result.payments.find? payment.id = some payment')
    (rows : later.payments = result.payments) :
    (payment'.status = .failed ∨ payment'.status = .closed) ∧
      payment'.needsReview = payment.needsReview ∧
      (result.orders = db.orders ∧ result.refunds = db.refunds) ∧
      (∀ candidate, candidate.id ≠ payment.id →
        (candidate ∈ result.payments ↔ candidate ∈ db.payments)) ∧
      failPayment payment' description later = .ok later := by
  have inactive : payment'.status = .failed ∨ payment'.status = .closed →
      failPayment payment' description later = .ok later := by
    intro ended
    have unchanged : later.markPaymentFailed payment'.id (nullable description) = none := by
      apply Database.updatePayment_eq_none.mpr
      intro row found
      rw [same, rows, present] at found
      cases found
      rcases ended with failed | closed
      · rw [failed]
        rfl
      · rw [closed]
        rfl
    unfold failPayment
    rw [unchanged]
    dsimp only
    rw [require_of ended]
    rfl
  unfold failPayment at done
  split at done
  · next update =>
    cases done
    obtain ⟨row, found, _, _, rfl⟩ := Database.updatePayment_eq_some.mp update
    cases stored.symm.trans found
    change (db.payments.update payment.id _).find? payment.id = some payment' at present
    rw [db.payments.find?_update _ found, Function.update_self] at present
    have failed : payment'.status = .failed := by
      cases present
      rfl
    have review : payment'.needsReview = payment.needsReview := by
      cases present
      rfl
    refine ⟨Or.inl failed, review, ⟨rfl, rfl⟩, ?_, inactive (Or.inl failed)⟩
    intro candidate other
    exact Table.mem_update_of_ne other
  · obtain ⟨_, ended, done⟩ := bind_eq_ok.mp done
    cases pure_eq_ok.mp done
    cases present.symm.trans stored
    exact ⟨require_eq_ok.mp ended, rfl, ⟨rfl, rfl⟩, fun _ _ => Iff.rfl,
      inactive (require_eq_ok.mp ended)⟩

private theorem applyPayError_again {description : String} (locked : Locked db order payment)
    (same : payment'.id = payment.id) (owner : payment'.orderId = payment.orderId)
    (done : applyPayError args order (db.listPaymentsByOrderForUpdate payment.orderId) payment
      description db = .ok applied)
    (orders : later.orders = applied.orders) (again : Redelivered applied later order' payment') :
    applyPayError args order' (later.listPaymentsByOrderForUpdate payment'.orderId) payment'
      description later = .ok later := by
  have present := again.present
  rw [same] at present
  have kept : later.orders.find? payment'.orderId = some order' := again.locked.foundOrder
  rw [owner, orders] at kept
  unfold applyPayError at done
  obtain ⟨failed, fail, done⟩ := bind_eq_ok.mp done
  have rows : applied.payments = failed.payments := by
    split at done
    · exact (finalizeOrderAfterPaymentInactive_after done).1
    · cases pure_eq_ok.mp done
      rfl
  obtain ⟨ended, review, ⟨untouched, _⟩, siblings, failAgain⟩ :=
    failPayment_again locked.foundPayment same fail (rows ▸ present) (again.payments.trans rows)
  unfold applyPayError
  rw [failAgain, ok_bind]
  split
  · next closing =>
    have trigger : args.trigger = "close_pay" := by
      rcases closing with pending | trigger
      · rw [pending] at ended
        rcases ended with impossible | impossible <;> cases impossible
      · exact trigger
    rw [if_pos (Or.inr trigger)] at done
    have key : order.id = payment.orderId := locked.key
    have stored : failed.orders.find? order.id = some order := by
      rw [untouched, key]
      exact locked.foundOrder
    refine finalizeOrderAfterPaymentInactive_again stored done (key ▸ kept) ⟨same, review, ?_⟩
    intro candidate other
    rw [Database.mem_listPaymentsByOrderForUpdate, Database.mem_listPaymentsByOrderForUpdate, owner,
      again.payments, rows, siblings candidate other]
  · rfl

/-! ### The whole answer -/

private theorem applyTradeState_again {now : Time} {answer : PaymentQueryResult} {mark : Bool}
    (locked : Locked db order payment) (about : args.paymentID = payment.id)
    (deal : payment.SameDeal payment')
    (done : applyTradeState now args method order
      (db.listPaymentsByOrderForUpdate payment.orderId) payment answer db = .ok (mark, applied))
    (orders : later.orders = applied.orders) (again : Redelivered applied later order' payment') :
    mark = true ∧ ∃ last, applyTradeState now args method order'
      (later.listPaymentsByOrderForUpdate payment'.orderId) payment' answer later =
        .ok (true, last) ∧ MoreEvidence later last := by
  have stored := locked.foundPayment
  have flagged : ∀ {reason detail lastError},
      flagPayment args method reason detail lastError db = .ok applied →
      ∃ last, flagPayment args method reason detail lastError later = .ok last ∧
        MoreEvidence later last := by
    intro reason detail lastError flag
    obtain ⟨_, row, found, facts⟩ := flagPayment_row (about ▸ stored) flag
    rw [← again.payments] at found
    obtain ⟨evidence, flags⟩ := flagPayment_again method lastError found facts.known
    exact ⟨_, flags, _, Or.inr ⟨evidence, rfl⟩, rfl⟩
  unfold applyTradeState at done ⊢
  split at done
  · obtain ⟨_, apply, done⟩ := bind_eq_ok.mp done
    cases pure_eq_ok.mp done
    obtain ⟨last, same, more⟩ := applySuccess_again stored about deal.id apply again
    refine ⟨rfl, last, ?_, more⟩
    rw [same]
    rfl
  · obtain ⟨rfl, same⟩ := applyClosed_again stored deal.id done again
    exact ⟨rfl, later, same, .refl later⟩
  · obtain ⟨rfl, same⟩ := applyClosed_again stored deal.id done again
    exact ⟨rfl, later, same, .refl later⟩
  · obtain ⟨_, apply, done⟩ := bind_eq_ok.mp done
    cases pure_eq_ok.mp done
    refine ⟨rfl, later, ?_, .refl later⟩
    rw [applyPayError_again locked deal.id deal.orderId apply orders again]
    rfl
  · obtain ⟨_, apply, done⟩ := bind_eq_ok.mp done
    cases pure_eq_ok.mp done
    obtain ⟨last, same, more⟩ := applyRefund_again stored about deal.id apply again
    refine ⟨rfl, last, ?_, more⟩
    rw [same]
    rfl
  all_goals
    obtain ⟨_, apply, done⟩ := bind_eq_ok.mp done
    cases pure_eq_ok.mp done
    obtain ⟨last, same, more⟩ := flagged apply
    refine ⟨rfl, last, ?_, more⟩
    rw [same]
    rfl

private theorem validateProviderResult_sameDeal (method : PaymentMethod)
    (deal : payment.SameDeal payment') (answer : Option PaymentQueryResult) :
    validateProviderResult payment' method answer = validateProviderResult payment method answer := by
  cases answer with
  | none => rfl
  | some given =>
      rw [validateProviderResult, validateProviderResult, deal.outTradeNo, deal.amountMinor,
        deal.currency]

private theorem confirmUnissued_avoids (clock : Clock) (args : CheckPayArgs) (payment : Payment)
    (answer : Option PaymentQueryResult) :
    Avoids duplicateTransaction (confirmUnissued clock args payment answer) := by
  unfold confirmUnissued
  split
  · split
    · exact .error (by decide)
    · exact .require (by decide)
  · exact .ok ()

/-- After a committed answer the same one is refused or adds evidence. -/
theorem applyPayQuery_again {clock : Clock} {once : Database} (reached : Reached db)
    (done : applyPayQuery clock args answer db = .ok once) :
    (∃ fault, applyPayQuery clock args answer once = .error fault ∧
      fault ≠ duplicateTransaction) ∨
    ∃ last, applyPayQuery clock args answer once = .ok last ∧ MoreEvidence once last := by
  have committed : next (.applyPayQuery clock args answer) db = once := commit_of_ok done
  have after : Reached once := committed ▸ reached.step _
  obtain ⟨order, payment, method, locked, about, channel, outcome⟩ := applyPayQuery_eq_ok done
  obtain ⟨payment', found, booked⟩ := (next_booked (.applyPayQuery clock args answer)
    reached.valid.sound).payments.kept locked.foundPayment
  rw [committed] at found
  have deal := booked.sameDeal
  obtain ⟨order', held⟩ := after.valid.locked (Table.mem_of_find? found)
  have about' : args.paymentID = payment'.id := about.trans deal.id.symm
  rw [applyPayQuery_of_locked held about']
  cases confirmed : confirmUnissued clock args payment' answer with
  | error fault =>
      refine Or.inl ⟨fault, rfl, ?_⟩
      rintro rfl
      exact confirmUnissued_avoids clock args payment' answer confirmed
  | ok confirmation =>
      right
      rw [ok_bind, deal.payChannel, channel, found_some, ok_bind,
        validateProviderResult_sameDeal method deal answer]
      rcases outcome with ⟨mismatch, invalid, reject⟩ | ⟨given, rfl, valid, accept⟩
      · rw [invalid]
        dsimp only
        unfold rejectAnswer at reject ⊢
        obtain ⟨flagged, flag, mark⟩ := bind_eq_ok.mp reject
        obtain ⟨_, row, known, facts⟩ := flagPayment_row (about ▸ locked.foundPayment) flag
        have same := (markNotificationProcessed_clerical mark).journal
        have rows : once.payments = flagged.payments := congrArg Journal.payments same
        rw [← rows] at known
        obtain ⟨evidence, flags⟩ := flagPayment_again method mismatch.text known facts.known
        refine ⟨_, ?_, _, Or.inr ⟨evidence, rfl⟩, rfl⟩
        rw [flags, ok_bind]
        exact markNotificationProcessed_again mark rfl
      · rw [valid]
        dsimp only
        unfold acceptAnswer at accept ⊢
        obtain ⟨⟨mark, applied⟩, apply, accept⟩ := bind_eq_ok.mp accept
        have same : once.journal = applied.journal := by
          cases mark with
          | true => exact (markNotificationProcessed_clerical accept).journal
          | false =>
              cases pure_eq_ok.mp accept
              rfl
        have again : Redelivered applied once order' payment' :=
          ⟨congrArg Journal.payments same, congrArg Journal.refunds same, held⟩
        obtain ⟨rfl, last, repeated, failures, grown, rfl⟩ :=
          applyTradeState_again locked about deal apply (congrArg Journal.orders same) again
        refine ⟨_, ?_, failures, grown, rfl⟩
        rw [repeated, ok_bind]
        exact markNotificationProcessed_again accept rfl

/-! ### A transaction id that another payment has -/

private theorem requirePaymentReconciliation_avoids (id : Int) (reason : ReconciliationReason)
    (detail : String) (db : Database) :
    Avoids duplicateTransaction (requirePaymentReconciliation id reason detail db) := by
  unfold requirePaymentReconciliation
  split
  · exact .ok _
  · exact .bind (.found nofun) (fun _ => .ok _)

private theorem createReconciliationFailure_avoids (failure : FailureInput) (db : Database) :
    Avoids duplicateTransaction (createReconciliationFailure failure db) := by
  unfold createReconciliationFailure Database.createPaymentReconciliationFailure
  refine .bind (.require nofun) (fun _ => ?_)
  split
  · exact .ok _
  · split <;> exact .ok _

private theorem flagPayment_avoids (args : CheckPayArgs) (method : PaymentMethod)
    (reason : ReconciliationReason) (detail lastError : String) (db : Database) :
    Avoids duplicateTransaction (flagPayment args method reason detail lastError db) :=
  .bind (requirePaymentReconciliation_avoids _ _ _ _)
    (fun _ => createReconciliationFailure_avoids _ _)

private theorem markNotificationProcessed_avoids (id : Int) (db : Database) :
    Avoids duplicateTransaction (markNotificationProcessed id db) := by
  unfold markNotificationProcessed
  split
  · exact .ok _
  · split
    · exact .ok _
    · exact .bind (.bind (.found nofun) (fun _ => .require nofun)) (fun _ => .ok _)

private theorem releaseOrder_avoids (orderID : Int) (db : Database) :
    Avoids duplicateTransaction (releaseOrder orderID db) := by
  unfold releaseOrder
  refine .bind (.found nofun) (fun _ => .bind ?_ (fun _ => .bind (.found nofun) (fun _ => .ok _)))
  exact .bind (.require nofun) (fun _ => .ok _)

private theorem finalizeOrderAfterPaymentInactive_avoids (order : Order) (payments : List Payment)
    (current : Payment) (db : Database) :
    Avoids duplicateTransaction (finalizeOrderAfterPaymentInactive order payments current db) := by
  unfold finalizeOrderAfterPaymentInactive
  split
  · split
    · exact .bind (.found nofun) (fun _ => .ok _)
    · exact .ok _
  · split
    · exact releaseOrder_avoids _ _
    · exact .ok _

private theorem applyClosed_avoids (order : Order) (payments : List Payment) (payment : Payment)
    (transaction : String) (db : Database) :
    Avoids duplicateTransaction (applyClosed order payments payment transaction db) := by
  unfold applyClosed
  split
  · exact .bind (.require (by decide)) (fun _ => .bind (.found (by decide)) (fun _ =>
      .bind (.require (by decide)) (fun _ => .ok _)))
  · split
    · exact .ok _
    · split
      · exact .bind (finalizeOrderAfterPaymentInactive_avoids _ _ _ _) (fun _ => .ok _)
      · exact .bind (.found (by decide)) (fun _ => .bind (.require (by decide)) (fun _ => .ok _))

private theorem applyPayError_avoids (args : CheckPayArgs) (order : Order) (payments : List Payment)
    (payment : Payment) (description : String) (db : Database) :
    Avoids duplicateTransaction (applyPayError args order payments payment description db) := by
  unfold applyPayError
  refine .bind ?_ (fun _ => ?_)
  · unfold failPayment
    split
    · exact .ok _
    · exact .bind (.require nofun) (fun _ => .ok _)
  · split
    · exact finalizeOrderAfterPaymentInactive_avoids _ _ _ _
    · exact .ok _

private theorem validateRefundSettlement_avoids (purpose : RefundPurpose) (status : OrderStatus)
    (paidPaymentID paymentID : Int) :
    Avoids duplicateTransaction
      (validateRefundSettlement purpose status paidPaymentID paymentID) := by
  unfold validateRefundSettlement
  split
  · exact .error nofun
  · split
    · exact .ok ()
    · exact .error nofun

private theorem reverseOrder_avoids (orderID : Int) (purpose : RefundPurpose) (db : Database) :
    Avoids duplicateTransaction (reverseOrder orderID purpose db) := by
  unfold reverseOrder
  split
  · exact .bind (.found nofun) (fun _ => .bind (.require nofun) (fun _ => .ok _))
  · exact .ok _

private theorem applyRefund_avoids (now : Time) (args : CheckPayArgs) (method : PaymentMethod)
    (order : Order) (payment : Payment) (db : Database) :
    Avoids duplicateTransaction (applyRefund now args method order payment db) := by
  unfold applyRefund
  split
  · exact .ok _
  · refine .bind (.require (by decide)) (fun _ => ?_)
    split
    · exact flagPayment_avoids _ _ _ _ _ _
    · refine .bind ?_ (fun _ => .ok _)
      unfold settlePaymentRefund
      refine .bind (.require (by decide)) (fun _ => ?_)
      split
      · exact .ok _
      · exact .bind (.require (by decide)) (fun _ => .bind (validateRefundSettlement_avoids _ _ _ _)
          (fun _ => .bind (reverseOrder_avoids _ _ _) (fun _ => .bind (.found (by decide))
            (fun _ => .found (by decide)))))

private theorem applyDecision_avoids (args : CheckPayArgs) (method : PaymentMethod)
    (payment : Payment) (decision : PaymentSuccessDecision) (db : Database) :
    Avoids duplicateTransaction (applyDecision args method payment decision db) := by
  unfold applyDecision
  refine .bind ?_ (fun _ => ?_)
  · unfold markPaidIf
    split
    · exact .bind (.found nofun) (fun _ => .ok _)
    · exact .ok _
  · split
    · exact flagPayment_avoids _ _ _ _ _ _
    · exact .ok _

private theorem decidePaymentSuccess_avoids (status : OrderStatus) (another : Bool) :
    Avoids duplicateTransaction (decidePaymentSuccess status another) := by
  unfold decidePaymentSuccess
  split
  · exact .ok _
  · cases status <;> first | exact .ok _ | exact .error nofun

def TakenElsewhere (payments : Table Payment) (payment : Payment) (transaction : String) : Prop :=
  ∃ other ∈ payments, other.id ≠ payment.id ∧ other.thirdPartyTxId = some transaction ∧
    other.payChannel = payment.payChannel

private theorem recordPaymentSuccess_duplicate (now : Time) {payment : Payment}
    (stored : db.payments.find? payment.id = some payment)
    (unsettled : payment.status.isSettled = false)
    (taken : TakenElsewhere db.payments payment transaction) :
    db.recordPaymentSuccess now payment.id transaction = .error duplicateTransaction := by
  have waiting : (!payment.status.isSettled) = true := by
    rw [unsettled]
    rfl
  have update : db.updatePayment payment.id (fun payment => !payment.status.isSettled)
      (Payment.settled now transaction) =
        some ({ payment.settled now transaction with id := payment.id },
          { db with payments := db.payments.update payment.id (Payment.settled now transaction) }) :=
    Database.updatePayment_eq_some.mpr ⟨payment, stored, waiting, rfl, rfl⟩
  unfold Database.recordPaymentSuccess
  change (found (db.updatePayment payment.id (fun payment => !payment.status.isSettled)
    (Payment.settled now transaction)) Fault.noRows >>= _) = _
  rw [update, found_some, ok_bind]
  dsimp only
  rw [require_of_not]
  · rfl
  · obtain ⟨other, member, facts⟩ := taken
    exact fun fresh => fresh other member facts

private theorem applySuccess_duplicate {now : Time} {order : Order} {payments : List Payment}
    {payment : Payment} (stored : db.payments.find? payment.id = some payment)
    (fails : applySuccess now args method order payments payment transaction db =
      .error duplicateTransaction) :
    transaction ≠ "" ∧ payment.status.isSettled = false ∧
      TakenElsewhere db.payments payment transaction := by
  unfold applySuccess at fails
  obtain ⟨_, named, fails⟩ := Avoids.of_bind fails (.require (by decide))
  split at fails
  · split at fails
    · cases fails
    · exact absurd fails (flagPayment_avoids _ _ _ _ _ _)
  · next unsuccessful =>
    obtain ⟨_, unreturned, fails⟩ := Avoids.of_bind fails (.require (by decide))
    have unsettled : payment.status.isSettled = false := by
      have kept := require_eq_ok.mp unreturned
      revert unsuccessful kept
      cases payment.status <;> simp [PaymentStatus.isSettled]
    refine ⟨require_eq_ok.mp named, unsettled, ?_⟩
    by_contra free
    have recorded : Avoids duplicateTransaction
        (db.recordPaymentSuccess now payment.id transaction) := by
      intro taken
      unfold Database.recordPaymentSuccess at taken
      obtain ⟨⟨row, updated⟩, update, taken⟩ := Avoids.of_bind taken (.found (by decide))
      obtain ⟨old, present, _, rfl, rfl⟩ :=
        Database.updatePayment_eq_some.mp (found_eq_ok.mp update)
      cases present.symm.trans stored
      have fresh : ∀ other ∈ db.payments.rows, ¬ (other.id ≠ payment.id ∧
          other.thirdPartyTxId = some transaction ∧ other.payChannel = payment.payChannel) :=
        fun other member facts => free ⟨other, member, facts⟩
      dsimp only at taken
      rw [require_of fresh] at taken
      cases taken
    obtain ⟨_, _, fails⟩ := Avoids.of_bind fails recorded
    obtain ⟨_, _, fails⟩ := Avoids.of_bind fails (decidePaymentSuccess_avoids _ _)
    exact applyDecision_avoids _ _ _ _ _ fails

theorem applyPayQuery_duplicate {clock : Clock}
    (fails : applyPayQuery clock args answer db = .error duplicateTransaction) :
    ∃ order payment method given, Locked db order payment ∧ args.paymentID = payment.id ∧
      confirmUnissued clock args payment answer = .ok () ∧
      parsePaymentMethod payment.payChannel = some method ∧ answer = some given ∧
      validateProviderResult payment method answer = none ∧ given.tradeState = .success ∧
      given.transactionID ≠ "" ∧ payment.status.isSettled = false ∧
      TakenElsewhere db.payments payment given.transactionID := by
  unfold applyPayQuery at fails
  obtain ⟨snapshot, present, fails⟩ := Avoids.of_bind fails (.found nofun)
  obtain ⟨order, owner, fails⟩ := Avoids.of_bind fails (.found nofun)
  obtain ⟨payment, chosen, fails⟩ := Avoids.of_bind fails (.found nofun)
  obtain ⟨rfl, locked, about⟩ := applyPayQuery_locked (found_eq_ok.mp present)
    (found_eq_ok.mp owner) (found_eq_ok.mp chosen)
  obtain ⟨_, confirmed, fails⟩ := Avoids.of_bind fails (confirmUnissued_avoids _ _ _ _)
  obtain ⟨method, channel, fails⟩ := Avoids.of_bind fails (.found nofun)
  cases valid : validateProviderResult payment method answer with
  | some mismatch =>
      rw [valid] at fails
      refine absurd fails ?_
      exact Avoids.bind (flagPayment_avoids _ _ _ _ _ _)
        (fun _ => markNotificationProcessed_avoids _ _)
  | none =>
      rw [valid] at fails
      cases answer with
      | none => cases fails
      | some given =>
          have trade : applyTradeState clock.database args method order
              (db.listPaymentsByOrderForUpdate payment.orderId) payment given db =
                .error duplicateTransaction := by
            by_contra avoids
            refine Avoids.bind avoids (fun pair => ?_) fails
            dsimp only
            split
            · exact markNotificationProcessed_avoids _ _
            · exact .ok _
          unfold applyTradeState at trade
          split at trade
          · next success =>
            have failed : applySuccess clock.database args method order
                (db.listPaymentsByOrderForUpdate payment.orderId) payment given.transactionID db =
                  .error duplicateTransaction := by
              by_contra avoids
              exact Avoids.bind avoids (fun _ => .ok _) trade
            obtain ⟨named, unsettled, taken⟩ := applySuccess_duplicate locked.foundPayment failed
            exact ⟨order, payment, method, given, locked, about, confirmed, found_eq_ok.mp channel,
              rfl, valid, success, named, unsettled, taken⟩
          · exact absurd trade (applyClosed_avoids _ _ _ _ _)
          · exact absurd trade (applyClosed_avoids _ _ _ _ _)
          · exact absurd trade (Avoids.bind (applyPayError_avoids _ _ _ _ _ _) (fun _ => .ok _))
          · exact absurd trade (Avoids.bind (applyRefund_avoids _ _ _ _ _ _) (fun _ => .ok _))
          all_goals
            exact absurd trade (Avoids.bind (flagPayment_avoids _ _ _ _ _ _) (fun _ => .ok _))

private theorem TakenElsewhere.raised {id : Int} {reason : ReconciliationReason}
    {detail : Option String}
    {payments flagged : Table Payment} (raised : Raised id reason detail payments flagged)
    (about : id = payment.id) (deal : payment.SameDeal payment')
    (taken : TakenElsewhere payments payment transaction) :
    TakenElsewhere flagged payment' transaction := by
  obtain ⟨other, member, elsewhere, number, channel⟩ := taken
  have kept : other ∈ flagged := by
    cases raised with
    | news row present news =>
        have apart : other.id ≠ id := fun same => elsewhere (same.trans about)
        exact (Table.mem_update_of_ne apart).mpr member
    | known row present known => exact member
  exact ⟨other, kept, by rw [deal.id]; exact elsewhere, number, by rw [deal.payChannel]; exact channel⟩

/-- The flagged payment meets the same unique violation, and its flag is known. -/
theorem applyPayQuery_duplicate_again {clock : Clock} {once : Database} (reached : Reached db)
    (fails : applyPayQuery clock args answer db = .error duplicateTransaction)
    (done : markReconciliationRequired (duplicateFailure args db) db = .ok once) :
    applyPayQuery clock args answer once = .error duplicateTransaction ∧
      ∃ last, markReconciliationRequired (duplicateFailure args once) once = .ok last ∧
        MoreEvidence once last := by
  have committed : next (.markReconciliationRequired (duplicateFailure args db)) db = once :=
    commit_of_ok done
  have after : Reached once := committed ▸ reached.step _
  obtain ⟨order, payment, method, given, locked, about, confirmed, channel, rfl, valid, success,
    named, unsettled, taken⟩ := applyPayQuery_duplicate fails
  unfold markReconciliationRequired at done
  obtain ⟨⟨_, flagging⟩, flag, done⟩ := bind_eq_ok.mp done
  obtain ⟨recorded, evidence, mark⟩ := bind_eq_ok.mp done
  obtain ⟨flagged, raised, rfl⟩ := requirePaymentReconciliation_raised flag
  obtain ⟨failures, _, rfl⟩ := createPaymentReconciliationFailure_evidenced evidence
  have rows : once.payments = flagged :=
    congrArg Journal.payments (markNotificationProcessed_clerical mark).journal
  obtain ⟨payment', found, facts⟩ := raised.flaggedAs (about ▸ locked.foundPayment)
  have stored : once.payments.find? args.paymentID = some payment' := rows ▸ found
  have deal : payment.SameDeal payment' := by
    obtain ⟨later, kept, booked⟩ := (next_booked
      (.markReconciliationRequired (duplicateFailure args db)) reached.valid.sound).payments.kept
        locked.foundPayment
    rw [committed, ← about] at kept
    cases stored.symm.trans kept
    exact booked.sameDeal
  have about' : args.paymentID = payment'.id := about.trans deal.id.symm
  obtain ⟨order', held⟩ := after.valid.locked (Table.mem_of_find? stored)
  constructor
  · have waived : args.confirmUnissued = false := by
      -- A synthesized closure cannot carry a success.
      cases confirm : args.confirmUnissued with
      | false => rfl
      | true =>
          rw [confirmUnissued, if_pos confirm] at confirmed
          have closed := (require_eq_ok.mp confirmed).1
          rw [success] at closed
          cases closed
    have confirmed' : confirmUnissued clock args payment' (some given) = .ok () := by
      rw [confirmUnissued, waived]
      rfl
    have unsettled' : payment'.status.isSettled = false := by
      rw [facts.status]
      exact unsettled
    have stored' : once.payments.find? payment'.id = some payment' := about' ▸ stored
    have duplicate := recordPaymentSuccess_duplicate clock.database stored' unsettled'
      (rows.symm ▸ taken.raised raised about deal)
    have unsuccessful : payment'.status ≠ .success := by
      intro impossible
      rw [impossible] at unsettled'
      cases unsettled'
    have unreturned : payment'.status ≠ .refunded := by
      intro impossible
      rw [impossible] at unsettled'
      cases unsettled'
    rw [applyPayQuery_of_locked held about', confirmed', ok_bind, deal.payChannel, channel,
      found_some, ok_bind, validateProviderResult_sameDeal method deal, valid]
    dsimp only
    rw [acceptAnswer, applyTradeState, success]
    dsimp only
    rw [applySuccess, require_of named, ok_bind, if_neg unsuccessful, require_of unreturned, ok_bind,
      duplicate]
    rfl
  · have listed : (once.payments.find? (duplicateFailure args once).paymentID).isSome = true := by
      rw [duplicateFailure, stored]
      rfl
    obtain ⟨row, fresh⟩ := createReconciliationFailure_more (duplicateFailure args once) listed rfl
    have known : requirePaymentReconciliation (duplicateFailure args once).paymentID
        ((duplicateFailure args once).reason.getD .jobExhausted)
        (duplicateFailure args once).lastError once = .ok (payment', once) :=
      requirePaymentReconciliation_known stored facts.known
    refine ⟨_, ?_, _, Or.inr ⟨row, rfl⟩, rfl⟩
    unfold markReconciliationRequired
    rw [known, ok_bind]
    dsimp only
    rw [fresh, ok_bind]
    exact markNotificationProcessed_again mark rfl

/-! ### Twice -/

theorem applyPayQueryOrFlag_of_ok {clock : Clock}
    (done : applyPayQuery clock args answer db = .ok result) :
    applyPayQueryOrFlag clock args answer db = result := by
  rw [applyPayQueryOrFlag, done]

theorem applyPayQueryOrFlag_of_error {clock : Clock} {fault : Fault}
    (fails : applyPayQuery clock args answer db = .error fault)
    (other : fault ≠ duplicateTransaction) : applyPayQueryOrFlag clock args answer db = db := by
  rw [applyPayQueryOrFlag, fails]
  exact if_neg other

private theorem applyPayQueryOrFlag_of_duplicate {clock : Clock}
    (fails : applyPayQuery clock args answer db = .error duplicateTransaction) :
    applyPayQueryOrFlag clock args answer db =
      commit (markReconciliationRequired (duplicateFailure args db)) db := by
  rw [applyPayQueryOrFlag, fails]
  exact if_pos rfl

/-- An answer that is applied a second time finds everything done and leaves at most
one more row of evidence. -/
theorem redelivery_changes_nothing (reached : Reached db) (clock : Clock) (args : CheckPayArgs)
    (answer : Option PaymentQueryResult) :
    ∃ failures, (failures = (applyPayQueryOrFlag clock args answer db).failures ∨
        ∃ row, failures = (applyPayQueryOrFlag clock args answer db).failures.insert row) ∧
      applyPayQueryOrFlag clock args answer (applyPayQueryOrFlag clock args answer db) =
        { applyPayQueryOrFlag clock args answer db with failures := failures } := by
  change MoreEvidence (applyPayQueryOrFlag clock args answer db)
    (applyPayQueryOrFlag clock args answer (applyPayQueryOrFlag clock args answer db))
  cases outcome : applyPayQuery clock args answer db with
  | ok once =>
      rw [applyPayQueryOrFlag_of_ok outcome]
      rcases applyPayQuery_again reached outcome with ⟨fault, fails, other⟩ | ⟨last, done, more⟩
      · rw [applyPayQueryOrFlag_of_error fails other]
        exact .refl once
      · rw [applyPayQueryOrFlag_of_ok done]
        exact more
  | error fault =>
      by_cases duplicate : fault = duplicateTransaction
      · subst duplicate
        rw [applyPayQueryOrFlag_of_duplicate outcome]
        cases second : markReconciliationRequired (duplicateFailure args db) db with
        | error lost =>
            rw [commit_of_error second, applyPayQueryOrFlag_of_duplicate outcome,
              commit_of_error second]
            exact .refl db
        | ok once =>
            rw [commit_of_ok second]
            obtain ⟨fails, last, done, more⟩ :=
              applyPayQuery_duplicate_again reached outcome second
            rw [applyPayQueryOrFlag_of_duplicate fails, commit_of_ok done]
            exact more
      · rw [applyPayQueryOrFlag_of_error outcome duplicate,
          applyPayQueryOrFlag_of_error outcome duplicate]
        exact .refl db

/-- The provider names another transaction for the tea, twice: one new version. -/
theorem redelivery_changes_nothing_paidShop :
    ((applyPayQueryOrFlag ⟨3, 3⟩ (checkTeaPayment 1) (some (teaAnswer "PAY1" "TX2" .success 200))
      paidShop).payments.find? 1).map Payment.reconciliationVersion = some 1 ∧
    ((applyPayQueryOrFlag ⟨3, 3⟩ (checkTeaPayment 1) (some (teaAnswer "PAY1" "TX2" .success 200))
      (applyPayQueryOrFlag ⟨3, 3⟩ (checkTeaPayment 1) (some (teaAnswer "PAY1" "TX2" .success 200))
        paidShop)).payments.find? 1).map Payment.reconciliationVersion = some 1 := by
  have once : ((applyPayQueryOrFlag ⟨3, 3⟩ (checkTeaPayment 1)
      (some (teaAnswer "PAY1" "TX2" .success 200)) paidShop).payments.find? 1).map
        Payment.reconciliationVersion = some 1 := by
    decide +kernel
  obtain ⟨failures, _, twice⟩ := redelivery_changes_nothing paidShop_reached ⟨3, 3⟩
    (checkTeaPayment 1) (some (teaAnswer "PAY1" "TX2" .success 200))
  refine ⟨once, ?_⟩
  rw [twice]
  exact once

end Mall
