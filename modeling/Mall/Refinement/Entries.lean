/-
The transactions of the shop, read as journal entries and turns.

Up to the point where the provider's answer is applied: catalogue, payments,
leases, review flags and checkout.
-/

import Mall.Journal
import Mall.Refinement.Checkout
import Mall.Refinement.Payments

namespace Mall

open Relational Relation Transactional

variable {citation : Citation} {db result : Database} {payment : Payment}

theorem Booked.after {before middle after : Journal} (path : Entries before middle)
    (last : after = middle ∨ Turn citation middle after) : Booked citation before after := by
  rcases last with rfl | turn
  · exact .entries path
  · exact .turned path turn

theorem Booked.refl (journal : Journal) : Booked citation journal journal :=
  .entries .refl

theorem Booked.same {before after : Journal} (same : after = before) :
    Booked citation before after := by
  subst same
  exact .refl _

theorem Booked.turn {before after : Journal} (turn : Turn citation before after) :
    Booked citation before after :=
  .turned .refl turn

theorem Clerical.journal (clerical : Clerical db result) : result.journal = db.journal := by
  cases clerical
  rfl

/-! ### The catalogue -/

private theorem updateProductRow_journal {id : Int} {guard : Product → Bool}
    {change : Product → Product}
    {changed : Product} (updated : db.updateProductRow id guard change = some (changed, result)) :
    result.journal = db.journal := by
  obtain ⟨_, _, _, _, rfl⟩ := Database.updateProductRow_eq_some.mp updated
  rfl

theorem createProduct_journal {input : ProductInput} {stock : Int} {status : ProductStatus}
    {product : Product} (done : createProduct input stock status db = .ok (product, result)) :
    result.journal = db.journal := by
  unfold createProduct at done
  obtain ⟨_, _, done⟩ := bind_eq_ok.mp done
  obtain ⟨_, _, done⟩ := bind_eq_ok.mp done
  unfold Database.createProductRow at done
  obtain ⟨_, _, done⟩ := bind_eq_ok.mp done
  obtain ⟨_, _, done⟩ := bind_eq_ok.mp done
  cases pure_eq_ok.mp done
  rfl

theorem updateProduct_journal {id : Int} {input : ProductInput} {product : Product}
    (done : updateProduct id input db = .ok (product, result)) : result.journal = db.journal := by
  unfold updateProduct at done
  obtain ⟨_, _, done⟩ := bind_eq_ok.mp done
  obtain ⟨_, _, done⟩ := bind_eq_ok.mp done
  obtain ⟨_, _, done⟩ := bind_eq_ok.mp done
  exact updateProductRow_journal (found_eq_ok.mp done)

theorem updateProductStatus_journal {id : Int} {status : ProductStatus} {product : Product}
    (done : updateProductStatus id status db = .ok (product, result)) :
    result.journal = db.journal := by
  unfold updateProductStatus at done
  obtain ⟨_, _, done⟩ := bind_eq_ok.mp done
  exact updateProductRow_journal (found_eq_ok.mp done)

theorem softDeleteProduct_journal {now : Time} {id : Int}
    (done : softDeleteProduct now id db = .ok result) : result.journal = db.journal := by
  unfold softDeleteProduct at done
  obtain ⟨_, _, done⟩ := bind_eq_ok.mp done
  cases pure_eq_ok.mp done
  rfl

theorem adjustStock_journal {input : StockAdjustmentInput} {adjustment : StockAdjustment}
    (done : adjustStock input db = .ok (adjustment, result)) : result.journal = db.journal := by
  unfold adjustStock at done
  obtain ⟨_, _, done⟩ := bind_eq_ok.mp done
  obtain ⟨_, _, done⟩ := bind_eq_ok.mp done
  split at done
  · obtain ⟨_, _, done⟩ := bind_eq_ok.mp done
    cases pure_eq_ok.mp done
    rfl
  · obtain ⟨_, _, done⟩ := bind_eq_ok.mp done
    obtain ⟨⟨updated, adjusted⟩, adjust, done⟩ := bind_eq_ok.mp done
    unfold Database.adjustProductStock at adjust
    obtain ⟨_, _, adjust⟩ := bind_eq_ok.mp adjust
    obtain ⟨_, _, adjust⟩ := bind_eq_ok.mp adjust
    obtain ⟨_, _, adjust⟩ := bind_eq_ok.mp adjust
    have first := updateProductRow_journal (found_eq_ok.mp adjust)
    unfold Database.createStockAdjustment at done
    obtain ⟨_, _, done⟩ := bind_eq_ok.mp done
    obtain ⟨_, _, done⟩ := bind_eq_ok.mp done
    cases pure_eq_ok.mp done
    exact first

/-! ### Edits of one payment -/

private theorem updatePayment_entries {id : Int} {guard : Payment → Bool}
    {change : Payment → Payment}
    {changed : Payment} (updated : db.updatePayment id guard change = some (changed, result))
    (edits : ∀ row, guard row = true → row.Edit (change row)) :
    Entries db.journal result.journal := by
  obtain ⟨row, present, allowed, _, rfl⟩ := Database.updatePayment_eq_some.mp updated
  exact .single (.edit id row change present (edits row allowed))

theorem markPaymentClosePending_entries {id : Int} {changed : Payment}
    (updated : db.markPaymentClosePending id = some (changed, result)) :
    Entries db.journal result.journal := by
  refine updatePayment_entries updated ?_
  intro row allowed
  simp only [Bool.or_eq_true, beq_iff_eq] at allowed
  exact .startClosing allowed

theorem markPaymentClosed_entries {id : Int} {changed : Payment}
    (updated : db.markPaymentClosed id = some (changed, result)) :
    Entries db.journal result.journal :=
  updatePayment_entries updated (fun _ active => .close active)

theorem markPaymentFailed_entries {id : Int} {lastError : Option String} {changed : Payment}
    (updated : db.markPaymentFailed id lastError = some (changed, result)) :
    Entries db.journal result.journal :=
  updatePayment_entries updated (fun _ active => .fail lastError active)

theorem claimPaymentPrepay_entries {clock : Clock} {id : Int} {token : String} {lease : Int}
    (done : claimPaymentPrepay clock id token lease db = .ok (payment, result)) :
    Entries db.journal result.journal := by
  unfold claimPaymentPrepay at done
  split at done
  · next updated =>
      cases done
      refine updatePayment_entries updated ?_
      intro row allowed
      obtain ⟨creating, free⟩ := Bool.and_eq_true_iff.mp allowed
      refine .claim clock.database (nullable token) lease (beq_iff_eq.mp creating) ?_
      intro deadline leased
      rw [leased] at free
      exact of_decide_eq_true free
  · obtain ⟨_, _, done⟩ := bind_eq_ok.mp done
    split at done
    · cases pure_eq_ok.mp done
      exact .refl
    · split at done <;> cases done

private theorem finalizePaymentPrepay_entries {id : Int} {token : String}
    {actionType : Option PaymentActionType} {actionPayload : String}
    (done : finalizePaymentPrepay id token actionType actionPayload db = .ok (payment, result)) :
    Entries db.journal result.journal := by
  unfold finalizePaymentPrepay at done
  split at done
  · next updated =>
      cases done
      refine updatePayment_entries updated ?_
      intro row allowed
      obtain ⟨creating, held⟩ := Bool.and_eq_true_iff.mp allowed
      exact .finalize (nullable token) actionType actionPayload (beq_iff_eq.mp creating) held
  · obtain ⟨_, _, done⟩ := bind_eq_ok.mp done
    split at done
    · cases pure_eq_ok.mp done
      exact .refl
    · cases done

theorem activatePayment_entries {id : Int} {token : String}
    {actionType : Option PaymentActionType} {actionPayload : String}
    {poll : Option (CheckPayArgs × Option Time)}
    (done : activatePayment id token actionType actionPayload poll db = .ok (payment, result)) :
    Entries db.journal result.journal := by
  unfold activatePayment at done
  obtain ⟨⟨_, activated⟩, first, done⟩ := bind_eq_ok.mp done
  have entries := finalizePaymentPrepay_entries first
  cases poll with
  | none =>
      cases pure_eq_ok.mp done
      exact entries
  | some job =>
      cases pure_eq_ok.mp done
      rw [(enqueue_clerical activated _ _).journal]
      exact entries

theorem recordPaymentPrepayError_entries (id : Int) (token lastError : String) (db : Database) :
    Entries db.journal (recordPaymentPrepayError id token lastError db).journal := by
  unfold recordPaymentPrepayError
  split
  · next updated =>
      refine updatePayment_entries updated ?_
      intro row allowed
      simp only [Bool.and_eq_true, Bool.or_eq_true, beq_iff_eq] at allowed
      exact .recordError (nullable token) (nullable lastError) allowed.1 allowed.2
  · exact .refl

private theorem closePendingPayment_entries {id : Int} {row : Payment}
    (done : closePendingPayment id db = .ok (row, result)) : Entries db.journal result.journal := by
  unfold closePendingPayment at done
  split at done
  · next updated =>
      cases done
      exact markPaymentClosePending_entries updated
  · obtain ⟨_, _, done⟩ := bind_eq_ok.mp done
    obtain ⟨_, _, done⟩ := bind_eq_ok.mp done
    cases pure_eq_ok.mp done
    exact .refl

theorem markPayClosePending_entries {args : CheckPayArgs}
    (done : markPayClosePending args db = .ok result) : Entries db.journal result.journal := by
  unfold markPayClosePending at done
  obtain ⟨current, _, done⟩ := bind_eq_ok.mp done
  split at done
  · cases pure_eq_ok.mp done
    exact .refl
  · obtain ⟨⟨row, changed⟩, closing, done⟩ := bind_eq_ok.mp done
    obtain ⟨_, _, done⟩ := bind_eq_ok.mp done
    rw [((enqueue_clerical changed _ none).trans (markNotificationProcessed_clerical done)).journal]
    exact closePendingPayment_entries closing

theorem recoverUnsupportedPayments_entries {rows returned : List Payment}
    (done : recoverUnsupportedPayments rows db = .ok (returned, result)) :
    Entries db.journal result.journal := by
  induction rows generalizing db returned with
  | nil =>
      cases done
      exact .refl
  | cons payment rest ih =>
      rw [recoverUnsupportedPayments] at done
      split at done
      · obtain ⟨⟨failed, changed⟩, marked, done⟩ := bind_eq_ok.mp done
        obtain ⟨⟨others, last⟩, later, done⟩ := bind_eq_ok.mp done
        cases pure_eq_ok.mp done
        exact (markPaymentFailed_entries (found_eq_ok.mp marked)).trans (ih later)
      · obtain ⟨⟨others, last⟩, later, done⟩ := bind_eq_ok.mp done
        cases pure_eq_ok.mp done
        exact ih later

/-! ### Opening a payment -/

private theorem newPayment_blank (args : CreatePaymentArgs) (now : Time) :
    (newPayment args now).Blank :=
  ⟨rfl, rfl, rfl, rfl, rfl, rfl, rfl, rfl, rfl⟩

private theorem openPayment_booked {args : CreatePaymentArgs} {now : Time}
    (done : openPayment args now db = .ok (payment, result)) :
    Booked citation db.journal result.journal := by
  unfold openPayment at done
  obtain ⟨order, present, done⟩ := bind_eq_ok.mp done
  obtain ⟨_, matching, done⟩ := bind_eq_ok.mp done
  obtain ⟨_, _, done⟩ := bind_eq_ok.mp done
  obtain ⟨_, pending, done⟩ := bind_eq_ok.mp done
  obtain ⟨_, _, done⟩ := bind_eq_ok.mp done
  obtain ⟨⟨rows, recovered⟩, recovery, done⟩ := bind_eq_ok.mp done
  have first := recoverUnsupportedPayments_entries recovery
  have frame := (recoverUnsupportedPayments_recovered
    (listPaymentsByOrderForUpdate_current db order.id) recovery).frame
  obtain ⟨reusable, _, done⟩ := bind_eq_ok.mp done
  cases reusable with
  | some existing =>
      cases pure_eq_ok.mp done
      exact .entries first
  | none =>
      unfold Database.createPaymentWithOutTradeNo at done
      obtain ⟨_, fresh, done⟩ := bind_eq_ok.mp done
      obtain ⟨_, _, done⟩ := bind_eq_ok.mp done
      cases pure_eq_ok.mp done
      obtain ⟨user, amount, currency⟩ := require_eq_ok.mp matching
      have known : recovered.orders.find? args.orderID = some order := by
        rw [frame]
        exact found_eq_ok.mp present
      exact .turned first (.openPayment (newPayment args now) order (newPayment_blank args now) known
        (require_eq_ok.mp pending) user.symm amount.symm currency.symm (require_eq_ok.mp fresh))

theorem createPayment_booked {args : CreatePaymentArgs} {now : Time}
    (done : createPayment args now db = .ok (payment, result)) :
    Booked citation db.journal result.journal := by
  unfold createPayment at done
  split at done
  · next opened =>
      cases done
      exact openPayment_booked opened
  · split at done
    · split at done
      · split at done
        · cases done
          exact .refl _
        · cases done
      · cases done
    · cases done

/-! ### Review flags -/

theorem requirePaymentReconciliation_raised {id : Int} {reason : ReconciliationReason}
    {detail : String}
    (done : requirePaymentReconciliation id reason detail db = .ok (payment, result)) :
    ∃ payments, Raised id reason (nullable detail) db.payments payments ∧
      result = { db with payments := payments } := by
  unfold requirePaymentReconciliation at done
  split at done
  · next updated =>
      cases done
      obtain ⟨row, present, allowed, _, rfl⟩ := Database.updatePayment_eq_some.mp updated
      refine ⟨_, .news row present ?_, rfl⟩
      rintro ⟨required, sameReason, sameDetail⟩
      simp [required, sameReason, sameDetail] at allowed
  · next unchanged =>
      obtain ⟨current, present, done⟩ := bind_eq_ok.mp done
      cases pure_eq_ok.mp done
      have known : db.payments.find? id = some payment := found_eq_ok.mp present
      have required := Database.updatePayment_eq_none.mp unchanged payment known
      simp only [Bool.or_eq_false_iff, bne_eq_false_iff_eq] at required
      exact ⟨db.payments, .known payment known ⟨required.1.1, required.1.2, required.2⟩, rfl⟩

theorem createPaymentReconciliationFailure_evidenced {row : ReconciliationFailure}
    (done : db.createPaymentReconciliationFailure row = .ok result) :
    ∃ failures, Evidenced row db.failures failures ∧ result = { db with failures := failures } := by
  unfold Database.createPaymentReconciliationFailure at done
  obtain ⟨_, _, done⟩ := bind_eq_ok.mp done
  split at done
  · next jobless =>
      cases pure_eq_ok.mp done
      refine ⟨_, .added ?_, rfl⟩
      intro job about
      rw [jobless] at about
      cases about
  · next jobId about =>
      split at done
      · next absent =>
          cases pure_eq_ok.mp done
          refine ⟨_, .added ?_, rfl⟩
          intro job same failure member recorded
          rw [about] at same
          cases same
          exact absurd (beq_iff_eq.mpr recorded) (List.find?_eq_none.mp absent failure member)
      · next existing chosen =>
          cases pure_eq_ok.mp done
          exact ⟨_, .refreshed jobId existing about (List.mem_of_find?_eq_some chosen)
            (beq_iff_eq.mp (List.find?_some (p := fun failure : ReconciliationFailure =>
              failure.riverJobId == some jobId) chosen)), rfl⟩

theorem flag_turn {id : Int} {reason : ReconciliationReason} {detail : String}
    {flagged : Database} {row : ReconciliationFailure}
    (flag : requirePaymentReconciliation id reason detail db = .ok (payment, flagged))
    (about : row.paymentId = id) (unresolved : row.resolvedAt = none)
    (cited : ∀ job, row.riverJobId = some job → citation = some (job, id))
    (evidence : flagged.createPaymentReconciliationFailure row = .ok result) :
    Turn citation db.journal result.journal := by
  obtain ⟨payments, raised, rfl⟩ := requirePaymentReconciliation_raised flag
  obtain ⟨failures, evidenced, rfl⟩ := createPaymentReconciliationFailure_evidenced evidence
  exact .flag id reason (nullable detail) row payments failures raised about unresolved cited
    evidenced

theorem markReconciliationRequired_booked {failure : FailureInput}
    (cited : ∀ job, failure.riverJobID = some job → citation = some (job, failure.paymentID))
    (done : markReconciliationRequired failure db = .ok result) :
    Booked citation db.journal result.journal := by
  unfold markReconciliationRequired at done
  obtain ⟨⟨_, flagged⟩, flag, done⟩ := bind_eq_ok.mp done
  obtain ⟨recorded, evidence, done⟩ := bind_eq_ok.mp done
  rw [(markNotificationProcessed_clerical done).journal]
  exact .turn (flag_turn flag rfl rfl cited evidence)

private theorem handleExhausted_booked {jobID attempt paymentID notificationID version : Int}
    {provider lastError : String}
    (cited : ∀ row, db.payments.find? paymentID = some row →
      reconciliationJobCurrent version row.reconciliationVersion row.reconciliationStatus = true →
      citation = some (jobID, paymentID))
    (done : handleExhausted jobID attempt paymentID notificationID version provider lastError db =
      .ok result) : Booked citation db.journal result.journal := by
  unfold handleExhausted at done
  obtain ⟨marked, notified, done⟩ := bind_eq_ok.mp done
  have same := (markPaymentNotificationFailed_clerical notified).journal
  rw [← same]
  split at done
  · cases pure_eq_ok.mp done
    exact .refl _
  · next snapshot present =>
    obtain ⟨_, _, done⟩ := bind_eq_ok.mp done
    split at done
    · next current =>
      obtain ⟨⟨_, flagged⟩, flag, done⟩ := bind_eq_ok.mp done
      have payments : marked.payments = db.payments := congrArg Journal.payments same
      have known : db.payments.find? paymentID = some snapshot := payments ▸ present
      refine .turn (flag_turn flag rfl rfl ?_ done)
      rintro job ⟨⟩
      exact cited snapshot known current
    · cases pure_eq_ok.mp done
      exact .refl _

def JobArgs.subject : JobArgs → Option (Int × Int)
  | .checkPay args => some (args.paymentID, args.reconciliationVersion)
  | .closePay args => some (args.paymentID, args.reconciliationVersion)
  | .expireOrder _ => none

theorem handleError_booked {jobID attempt : Int} {lastError : String} {job : JobArgs}
    (cited : ∀ paymentID version row, job.subject = some (paymentID, version) → 0 < paymentID →
      db.payments.find? paymentID = some row →
      reconciliationJobCurrent version row.reconciliationVersion row.reconciliationStatus = true →
      citation = some (jobID, paymentID))
    (done : handleError jobID attempt lastError job db = .ok result) :
    Booked citation db.journal result.journal := by
  unfold handleError at done
  split at done
  · cases done
    exact .refl _
  · split at done
    · cases done
      exact .refl _
    · next positive =>
      exact handleExhausted_booked (fun row => cited _ _ row rfl (not_le.mp positive)) done
  · split at done
    · cases done
      exact .refl _
    · next positive =>
      exact handleExhausted_booked (fun row => cited _ _ row rfl (not_le.mp positive)) done

end Mall
