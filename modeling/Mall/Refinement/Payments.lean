/-
Payment creation, prepay leases and review flags refine the ledger.
-/

import Mall.Payments
import Mall.Refinement.Paths

namespace Mall

open Ledger Relational Transactional

variable {warrant : Warrant} {db result : Database} {payment : Payment}

/-! ### Notifications and jobs -/

theorem updateNotification_clerical {id : Int} {guard : PaymentNotification → Bool}
    {change : PaymentNotification → PaymentNotification} {changed : PaymentNotification}
    (updated : db.updateNotification id guard change = some (changed, result)) :
    Clerical db result := by
  obtain ⟨_, _, _, _, rfl⟩ := Database.updateNotification_eq_some.mp updated
  exact .intro _ _

theorem enqueue_clerical (db : Database) (args : JobArgs) (scheduledAt : Option Time) :
    Clerical db (db.enqueue args scheduledAt).2 := by
  obtain ⟨jobs, same⟩ := db.enqueue_snd args scheduledAt
  rw [same]
  exact .intro _ _

theorem markNotificationProcessed_clerical {id : Int}
    (done : markNotificationProcessed id db = .ok result) : Clerical db result := by
  unfold markNotificationProcessed at done
  split at done
  · cases done
    exact .refl db
  · split at done
    · next marked =>
        cases done
        exact updateNotification_clerical marked
    · obtain ⟨_, _, done⟩ := bind_eq_ok.mp done
      cases pure_eq_ok.mp done
      exact .refl db

theorem markPaymentNotificationFailed_clerical {id : Int} {lastError : String}
    (done : markPaymentNotificationFailed id lastError db = .ok result) : Clerical db result := by
  unfold markPaymentNotificationFailed at done
  split at done
  · cases done
    exact .refl db
  · split at done
    · next marked =>
        cases done
        exact updateNotification_clerical marked
    · obtain ⟨_, _, done⟩ := bind_eq_ok.mp done
      cases pure_eq_ok.mp done
      exact .refl db

theorem beginPaymentNotificationProcessing_clerical {id : Int} {provider outTradeNo : String}
    {begun : Bool}
    (done : beginPaymentNotificationProcessing id provider outTradeNo db = .ok (begun, result)) :
    Clerical db result := by
  unfold beginPaymentNotificationProcessing at done
  split at done
  · cases done
    exact .refl db
  · obtain ⟨_, _, done⟩ := bind_eq_ok.mp done
    obtain ⟨_, _, done⟩ := bind_eq_ok.mp done
    split at done
    · cases pure_eq_ok.mp done
      exact .refl db
    · obtain ⟨⟨_, updated⟩, marked, done⟩ := bind_eq_ok.mp done
      cases pure_eq_ok.mp done
      exact updateNotification_clerical (found_eq_ok.mp marked)

theorem recordPaymentNotificationError_clerical (id : Int) (lastError : String) (db : Database) :
    Clerical db (recordPaymentNotificationError id lastError db) := by
  unfold recordPaymentNotificationError
  split
  · exact .refl db
  · split
    · next recorded => exact updateNotification_clerical recorded
    · exact .refl db

theorem setPaymentNotificationRiverJob_clerical (db : Database) (id jobId : Int) :
    Clerical db (((db.setPaymentNotificationRiverJob id jobId).map Prod.snd).getD db) := by
  cases updated : db.setPaymentNotificationRiverJob id jobId with
  | none => exact .refl db
  | some pair => exact updateNotification_clerical updated

private theorem createPaymentNotification_clerical {row stored : PaymentNotification}
    (created : db.createPaymentNotification row = some (stored, result)) : Clerical db result := by
  unfold Database.createPaymentNotification at created
  split at created
  · cases created
  · cases created
    exact .intro _ _

private theorem storeNotification_clerical {input : NotificationInput} {duplicate : Bool}
    {row : PaymentNotification}
    (done : storeNotification input db = .ok (duplicate, row, result)) : Clerical db result := by
  unfold storeNotification at done
  split at done
  · next created =>
      cases done
      exact createPaymentNotification_clerical created
  · obtain ⟨_, _, done⟩ := bind_eq_ok.mp done
    cases pure_eq_ok.mp done
    exact .refl db

theorem persistAndEnqueueNotification_clerical {input : NotificationInput} {args : CheckPayArgs}
    {duplicate : Bool}
    (done : persistAndEnqueueNotification input args db = .ok (duplicate, result)) :
    Clerical db result := by
  unfold persistAndEnqueueNotification at done
  obtain ⟨⟨again, row, stored⟩, kept, done⟩ := bind_eq_ok.mp done
  have same := storeNotification_clerical kept
  obtain ⟨_, _, done⟩ := bind_eq_ok.mp done
  split at done
  · cases pure_eq_ok.mp done
    exact same
  · cases pure_eq_ok.mp done
    exact (same.trans (enqueue_clerical stored _ none)).trans (setPaymentNotificationRiverJob_clerical _ _ _)

/-! ### Changes of one payment -/

private theorem updatePayment_moves (status : PaymentStatus) {id : Int} {guard : Payment → Bool}
    {change : Payment → Payment} {changed : Payment}
    (updated : db.updatePayment id guard change = some (changed, result))
    (moves : ∀ row, guard row = true →
      (change row).charge = { row.charge with status := status } ∧ row.status.Moves status) :
    Steps warrant db result := by
  obtain ⟨row, present, allowed, _, rfl⟩ := Database.updatePayment_eq_some.mp updated
  obtain ⟨same, legal⟩ := moves row allowed
  refine .one (.movePayment id row.charge status (Database.ledger_payment present) legal) ?_ rfl
  rw [Database.ledger_updatePayment change present, same]

theorem updatePayment_unseen {id : Int} {guard : Payment → Bool} {change : Payment → Payment}
    {changed : Payment} (updated : db.updatePayment id guard change = some (changed, result))
    (same : ∀ row, guard row = true → (change row).charge = row.charge) :
    Steps warrant db result := by
  obtain ⟨row, present, allowed, _, rfl⟩ := Database.updatePayment_eq_some.mp updated
  exact .unseen (Database.ledger_updatePayment_same change present (same row allowed)) rfl

theorem markPaymentClosePending_steps {id : Int} {changed : Payment}
    (updated : db.markPaymentClosePending id = some (changed, result)) :
    Steps warrant db result := by
  refine updatePayment_moves .closePending updated ?_
  intro row allowed
  simp only [Bool.or_eq_true, beq_iff_eq] at allowed
  exact ⟨rfl, PaymentStatus.moves_closePending.mpr allowed⟩

theorem markPaymentClosed_steps {id : Int} {changed : Payment}
    (updated : db.markPaymentClosed id = some (changed, result)) : Steps warrant db result :=
  updatePayment_moves .closed updated
    (fun _ allowed => ⟨rfl, PaymentStatus.moves_closed.mpr allowed⟩)

theorem markPaymentFailed_steps {id : Int} {lastError : Option String} {changed : Payment}
    (updated : db.markPaymentFailed id lastError = some (changed, result)) :
    Steps warrant db result :=
  updatePayment_moves .failed updated
    (fun _ allowed => ⟨rfl, PaymentStatus.moves_failed.mpr allowed⟩)

/-! ### Review flags -/

/-- After the flag the payment is in review, whether or not the row changed. -/
theorem requirePaymentReconciliation_spec {id : Int} {reason : ReconciliationReason}
    {detail : String}
    (done : requirePaymentReconciliation id reason detail db = .ok (payment, result)) :
    ∃ charge, db.ledger.payments id = some charge ∧
      result.ledger = db.ledger.setPayment id { charge with review := true } ∧
      result.orders = db.orders ∧ result.orderItems = db.orderItems := by
  unfold requirePaymentReconciliation at done
  split at done
  · next updated =>
      cases done
      obtain ⟨row, present, _, _, rfl⟩ := Database.updatePayment_eq_some.mp updated
      exact ⟨row.charge, Database.ledger_payment present, Database.ledger_updatePayment _ present,
        rfl, rfl⟩
  · next unchanged =>
      obtain ⟨current, present, done⟩ := bind_eq_ok.mp done
      cases pure_eq_ok.mp done
      have known : db.payments.find? id = some payment := found_eq_ok.mp present
      have required := Database.updatePayment_eq_none.mp unchanged payment known
      have review : payment.charge.review = true := by
        simp only [Bool.or_eq_false_iff, bne_eq_false_iff_eq] at required
        simp [Payment.charge, Payment.needsReview, reconciliationNeedsReview, required.1.1]
      refine ⟨payment.charge, Database.ledger_payment known, ?_, rfl, rfl⟩
      have same : { payment.charge with review := true } = payment.charge := by
        rw [← review]
      rw [same, Ledger.setPayment_self _ (Database.ledger_payment known)]

theorem createPaymentReconciliationFailure_steps {row : ReconciliationFailure} {charge : Charge}
    (present : db.ledger.payments row.paymentId = some charge) (review : charge.review = true)
    (done : db.createPaymentReconciliationFailure row = .ok result) :
    Steps warrant db result := by
  have fresh : db.ledger.findings db.failures.next = none := by
    simp [Database.ledger, Table.find?_next]
  have recorded : Steady warrant db.ledger (db.ledger.setFinding db.failures.next row.finding) :=
    .recordFinding _ row.finding charge fresh present review
  unfold Database.createPaymentReconciliationFailure at done
  obtain ⟨_, _, done⟩ := bind_eq_ok.mp done
  split at done
  · cases pure_eq_ok.mp done
    exact .one recorded (Database.ledger_insertFailure db row) rfl
  · split at done
    · cases pure_eq_ok.mp done
      exact .one recorded (Database.ledger_insertFailure db row) rfl
    · next existing chosen =>
        cases pure_eq_ok.mp done
        have member : existing ∈ db.failures := List.mem_of_find?_eq_some chosen
        have known : db.failures.find? existing.id = some existing := Table.find?_key member
        exact .one (.amendFinding existing.id existing.finding (row.reason == .providerSideRefund)
          (Database.ledger_finding known)) (Database.ledger_updateFailure _ known) rfl

theorem requirePaymentReconciliation_frame {id : Int} {reason : ReconciliationReason}
    {detail : String}
    (done : requirePaymentReconciliation id reason detail db = .ok (payment, result)) :
    result.failures = db.failures ∧ result.refunds = db.refunds ∧
      result.notifications = db.notifications := by
  unfold requirePaymentReconciliation at done
  split at done
  · next updated =>
      cases done
      obtain ⟨row, _, _, _, rfl⟩ := Database.updatePayment_eq_some.mp updated
      exact ⟨rfl, rfl, rfl⟩
  · obtain ⟨current, _, done⟩ := bind_eq_ok.mp done
    cases pure_eq_ok.mp done
    exact ⟨rfl, rfl, rfl⟩

theorem createPaymentReconciliationFailure_fresh {row : ReconciliationFailure}
    (known : (db.payments.find? row.paymentId).isSome = true) (jobless : row.riverJobId = none) :
    db.createPaymentReconciliationFailure row =
      .ok { db with failures := db.failures.insert row } := by
  unfold Database.createPaymentReconciliationFailure
  rw [require_of known, jobless]
  rfl

theorem hasUnresolvedProviderRefund_eq_true {id : Int} :
    db.hasUnresolvedProviderRefund id = true ↔
      ∃ failure ∈ db.failures, failure.paymentId = id ∧
        failure.reason = .providerSideRefund ∧ failure.resolvedAt = none := by
  unfold Database.hasUnresolvedProviderRefund
  rw [List.any_eq_true]
  simp only [Bool.and_eq_true, beq_iff_eq, Option.isNone_iff_eq_none, and_assoc]
  exact Iff.rfl

theorem flag_steps {id : Int} {reason : ReconciliationReason} {detail : String}
    {flagged : Database} {row : ReconciliationFailure}
    (flag : requirePaymentReconciliation id reason detail db = .ok (payment, flagged))
    (same : row.paymentId = id)
    (evidence : flagged.createPaymentReconciliationFailure row = .ok result) :
    Steps warrant db result := by
  subst same
  obtain ⟨charge, present, changed, _, items⟩ := requirePaymentReconciliation_spec flag
  have first : Steps warrant db flagged := .one (.flag _ charge present) changed items
  have review : flagged.ledger.payments row.paymentId = some { charge with review := true } := by
    rw [changed, Ledger.payments_setPayment]
  exact first.trans (createPaymentReconciliationFailure_steps review rfl evidence)

theorem markReconciliationRequired_steps {failure : FailureInput}
    (done : markReconciliationRequired failure db = .ok result) : Steps warrant db result := by
  unfold markReconciliationRequired at done
  obtain ⟨⟨_, flagged⟩, flag, done⟩ := bind_eq_ok.mp done
  obtain ⟨recorded, evidence, done⟩ := bind_eq_ok.mp done
  exact (flag_steps flag rfl evidence).trans (markNotificationProcessed_clerical done).steps

private theorem handleExhausted_steps {jobID attempt paymentID notificationID version : Int}
    {provider lastError : String}
    (done : handleExhausted jobID attempt paymentID notificationID version provider lastError db =
      .ok result) : Steps warrant db result := by
  unfold handleExhausted at done
  obtain ⟨marked, notified, done⟩ := bind_eq_ok.mp done
  have first : Steps warrant db marked := (markPaymentNotificationFailed_clerical notified).steps
  split at done
  · cases pure_eq_ok.mp done
    exact first
  · obtain ⟨_, _, done⟩ := bind_eq_ok.mp done
    split at done
    · obtain ⟨⟨_, flagged⟩, flag, done⟩ := bind_eq_ok.mp done
      exact first.trans (flag_steps flag rfl done)
    · cases pure_eq_ok.mp done
      exact first

theorem handleError_steps {jobID attempt : Int} {lastError : String} {job : JobArgs}
    (done : handleError jobID attempt lastError job db = .ok result) : Steps warrant db result := by
  unfold handleError at done
  split at done
  · cases done
    exact .refl db
  · split at done
    · cases done
      exact .refl db
    · exact handleExhausted_steps done
  · split at done
    · cases done
      exact .refl db
    · exact handleExhausted_steps done

/-! ### Prepay leases -/

theorem claimPaymentPrepay_steps {clock : Clock} {id : Int} {token : String} {lease : Int}
    (done : claimPaymentPrepay clock id token lease db = .ok (payment, result)) :
    Steps warrant db result := by
  unfold claimPaymentPrepay at done
  split at done
  · next updated =>
      cases done
      exact updatePayment_unseen updated (fun _ _ => rfl)
  · obtain ⟨_, _, done⟩ := bind_eq_ok.mp done
    split at done
    · cases pure_eq_ok.mp done
      exact .refl db
    · split at done <;> cases done

private theorem finalizePaymentPrepay_steps {id : Int} {token : String}
    {actionType : Option PaymentActionType} {actionPayload : String}
    (done : finalizePaymentPrepay id token actionType actionPayload db = .ok (payment, result)) :
    Steps warrant db result := by
  unfold finalizePaymentPrepay at done
  split at done
  · next updated =>
      cases done
      refine updatePayment_moves .pending updated ?_
      intro row allowed
      simp only [Bool.and_eq_true, beq_iff_eq] at allowed
      exact ⟨rfl, by rw [allowed.1]; trivial⟩
  · obtain ⟨_, _, done⟩ := bind_eq_ok.mp done
    split at done
    · cases pure_eq_ok.mp done
      exact .refl db
    · cases done

theorem activatePayment_steps {id : Int} {token : String} {actionType : Option PaymentActionType}
    {actionPayload : String} {poll : Option (CheckPayArgs × Option Time)}
    (done : activatePayment id token actionType actionPayload poll db = .ok (payment, result)) :
    Steps warrant db result := by
  unfold activatePayment at done
  obtain ⟨⟨_, activated⟩, first, done⟩ := bind_eq_ok.mp done
  have steps : Steps warrant db activated := finalizePaymentPrepay_steps first
  cases poll with
  | none =>
      cases pure_eq_ok.mp done
      exact steps
  | some job =>
      cases pure_eq_ok.mp done
      exact steps.trans (enqueue_clerical activated _ _).steps

theorem recordPaymentPrepayError_steps (id : Int) (token lastError : String) (db : Database) :
    Steps warrant db (recordPaymentPrepayError id token lastError db) := by
  unfold recordPaymentPrepayError
  split
  · next updated => exact updatePayment_unseen updated (fun _ _ => rfl)
  · exact .refl db

private theorem closePendingPayment_steps {id : Int} {row : Payment}
    (done : closePendingPayment id db = .ok (row, result)) : Steps warrant db result := by
  unfold closePendingPayment at done
  split at done
  · next updated =>
      cases done
      exact markPaymentClosePending_steps updated
  · obtain ⟨_, _, done⟩ := bind_eq_ok.mp done
    obtain ⟨_, _, done⟩ := bind_eq_ok.mp done
    cases pure_eq_ok.mp done
    exact .refl db

theorem markPayClosePending_steps {args : CheckPayArgs}
    (done : markPayClosePending args db = .ok result) : Steps warrant db result := by
  unfold markPayClosePending at done
  obtain ⟨current, _, done⟩ := bind_eq_ok.mp done
  split at done
  · cases pure_eq_ok.mp done
    exact .refl db
  · obtain ⟨⟨row, changed⟩, closing, done⟩ := bind_eq_ok.mp done
    obtain ⟨_, _, done⟩ := bind_eq_ok.mp done
    exact (closePendingPayment_steps closing).trans
      ((enqueue_clerical changed _ none).trans (markNotificationProcessed_clerical done)).steps

/-! ### Rows read under the locks -/

/-- The rows are the current ones, each once. -/
structure Current (rows : List Payment) (db : Database) : Prop where
  found : ∀ row ∈ rows, db.payments.find? row.id = some row
  distinct : (rows.map Payment.id).Nodup

theorem listPaymentsByOrderForUpdate_current (db : Database) (orderId : Int) :
    Current (db.listPaymentsByOrderForUpdate orderId) db := by
  constructor
  · intro row member
    exact Table.find?_key (Database.mem_listPaymentsByOrderForUpdate.mp member).1
  · have same : (db.listPaymentsByOrderForUpdate orderId).Perm
        (db.payments.rows.filter (fun payment => payment.orderId == orderId)) :=
      List.perm_insertionSort _ _
    rw [(same.map Payment.id).nodup_iff]
    exact db.payments.distinct.sublist (List.filter_sublist.map _)

theorem Current.tail {row : Payment} {rows : List Payment} (current : Current (row :: rows) db) :
    Current rows db :=
  ⟨fun other member => current.found other (List.mem_cons_of_mem _ member),
    (List.nodup_cons.mp current.distinct).2⟩

theorem Current.update {row : Payment} {rows : List Payment} (current : Current (row :: rows) db)
    (change : Payment → Payment) :
    Current rows { db with payments := db.payments.update row.id change } := by
  refine ⟨?_, current.tail.distinct⟩
  intro other member
  have different : other.id ≠ row.id := by
    intro same
    exact (List.nodup_cons.mp current.distinct).1 (same ▸ List.mem_map_of_mem member)
  change (db.payments.update row.id change).find? other.id = some other
  rw [Table.find?_update_of_ne _ _ different]
  exact current.tail.found other member

/-- What recovery leaves: the same payments, with the rows that it returned. -/
structure Recovered (rows : List Payment) (db : Database) (returned : List Payment)
    (result : Database) : Prop where
  frame : result = { db with payments := result.payments }
  ids : returned.map Payment.id = rows.map Payment.id
  orderIds : returned.map Payment.orderId = rows.map Payment.orderId
  found : ∀ row ∈ returned, result.payments.find? row.id = some row
  others : ∀ id, id ∉ rows.map Payment.id → result.payments.find? id = db.payments.find? id

theorem recoverUnsupportedPayments_recovered {rows returned : List Payment}
    (current : Current rows db)
    (done : recoverUnsupportedPayments rows db = .ok (returned, result)) :
    Recovered rows db returned result := by
  induction rows generalizing db returned with
  | nil =>
      cases done
      exact ⟨rfl, rfl, rfl, fun _ member => absurd member List.not_mem_nil, fun _ _ => rfl⟩
  | cons payment rest ih =>
      have unlisted := (List.nodup_cons.mp current.distinct).1
      rw [recoverUnsupportedPayments] at done
      split at done
      · obtain ⟨⟨failed, changed⟩, marked, done⟩ := bind_eq_ok.mp done
        obtain ⟨⟨others, last⟩, later, done⟩ := bind_eq_ok.mp done
        cases pure_eq_ok.mp done
        obtain ⟨row, present, _, rfl, rfl⟩ :=
          Database.updatePayment_eq_some.mp (found_eq_ok.mp marked)
        cases present.symm.trans (current.found payment List.mem_cons_self)
        have recovered := ih (current.update _) later
        refine ⟨recovered.frame, by rw [List.map_cons, List.map_cons, recovered.ids],
          by rw [List.map_cons, List.map_cons, recovered.orderIds], ?_, ?_⟩
        · intro other member
          rcases List.mem_cons.mp member with rfl | listed
          · rw [recovered.others _ unlisted]
            change (db.payments.update payment.id _).find? payment.id = _
            rw [Table.find?_update_self, present]
            rfl
          · exact recovered.found other listed
        · intro id absent
          have outside := not_or.mp (mt List.mem_cons.mpr absent)
          rw [recovered.others id outside.2]
          exact Table.find?_update_of_ne _ _ outside.1
      · obtain ⟨⟨others, last⟩, later, done⟩ := bind_eq_ok.mp done
        cases pure_eq_ok.mp done
        have recovered := ih current.tail later
        refine ⟨recovered.frame, by rw [List.map_cons, List.map_cons, recovered.ids],
          by rw [List.map_cons, List.map_cons, recovered.orderIds], ?_, ?_⟩
        · intro other member
          rcases List.mem_cons.mp member with rfl | listed
          · rw [recovered.others _ unlisted]
            exact current.found other List.mem_cons_self
          · exact recovered.found other listed
        · intro id absent
          exact recovered.others id (fun listed => absent (List.mem_cons_of_mem _ listed))

theorem recoverUnsupportedPayments_steps {rows returned : List Payment}
    (done : recoverUnsupportedPayments rows db = .ok (returned, result)) :
    Steps warrant db result := by
  induction rows generalizing db returned with
  | nil =>
      cases done
      exact .refl _
  | cons payment rest ih =>
      rw [recoverUnsupportedPayments] at done
      split at done
      · obtain ⟨⟨failed, changed⟩, marked, done⟩ := bind_eq_ok.mp done
        obtain ⟨⟨others, last⟩, later, done⟩ := bind_eq_ok.mp done
        cases pure_eq_ok.mp done
        exact (markPaymentFailed_steps (found_eq_ok.mp marked)).trans (ih later)
      · obtain ⟨⟨others, last⟩, later, done⟩ := bind_eq_ok.mp done
        cases pure_eq_ok.mp done
        exact ih later

theorem Recovered.sameOrder {orderId : Int} {returned : List Payment}
    (recovered : Recovered (db.listPaymentsByOrderForUpdate orderId) db returned result)
    {row : Payment} (member : row ∈ returned) : row.orderId = orderId := by
  have listed : row.orderId ∈ (db.listPaymentsByOrderForUpdate orderId).map Payment.orderId :=
    recovered.orderIds ▸ List.mem_map_of_mem member
  obtain ⟨old, present, same⟩ := List.mem_map.mp listed
  exact same.symm.trans (Database.mem_listPaymentsByOrderForUpdate.mp present).2

theorem Recovered.complete {orderId : Int} {returned : List Payment}
    (recovered : Recovered (db.listPaymentsByOrderForUpdate orderId) db returned result)
    (member : payment ∈ result.payments) (same : payment.orderId = orderId) :
    payment ∈ returned := by
  have found := Table.find?_key member
  by_cases listed : payment.id ∈ (db.listPaymentsByOrderForUpdate orderId).map Payment.id
  · rw [← recovered.ids] at listed
    obtain ⟨row, present, key⟩ := List.mem_map.mp listed
    have known := recovered.found row present
    rw [key] at known
    cases found.symm.trans known
    exact present
  · have old := (recovered.others _ listed).symm.trans found
    have stored := Database.mem_listPaymentsByOrderForUpdate.mpr ⟨Table.mem_of_find? old, same⟩
    exact absurd (List.mem_map_of_mem stored) listed

/-! ### Creation -/

theorem createPaymentWithOutTradeNo_eq_ok {row stored : Payment}
    (done : db.createPaymentWithOutTradeNo row = .ok (stored, result)) :
    result = { db with payments := db.payments.insert row } := by
  unfold Database.createPaymentWithOutTradeNo at done
  obtain ⟨_, _, done⟩ := bind_eq_ok.mp done
  obtain ⟨_, _, done⟩ := bind_eq_ok.mp done
  cases pure_eq_ok.mp done
  rfl

private theorem insertPayment_steps {row : Payment} {order : Order}
    (present : db.orders.find? row.orderId = some order)
    (payable : order.status = .pendingPayment) (terms : row.charge.terms = order.terms)
    (status : row.status = .creating) (unpaid : row.thirdPartyTxId = none) :
    Steps warrant db { db with payments := db.payments.insert row } := by
  have fresh : db.ledger.payments db.payments.next = none := by
    simp [Database.ledger, Table.find?_next]
  exact .one (.openPayment _ row.charge (db.purchase order) fresh (Database.ledger_order present)
    payable terms status unpaid) (Database.ledger_insertPayment db row) rfl

private theorem openPayment_steps {args : CreatePaymentArgs} {now : Time}
    (done : openPayment args now db = .ok (payment, result)) : Steps warrant db result := by
  unfold openPayment at done
  obtain ⟨order, present, done⟩ := bind_eq_ok.mp done
  obtain ⟨_, matching, done⟩ := bind_eq_ok.mp done
  obtain ⟨_, _, done⟩ := bind_eq_ok.mp done
  obtain ⟨_, pending, done⟩ := bind_eq_ok.mp done
  obtain ⟨_, _, done⟩ := bind_eq_ok.mp done
  obtain ⟨⟨rows, recovered⟩, recovery, done⟩ := bind_eq_ok.mp done
  have first : Steps warrant db recovered := recoverUnsupportedPayments_steps recovery
  have frame := (recoverUnsupportedPayments_recovered
    (listPaymentsByOrderForUpdate_current db order.id) recovery).frame
  obtain ⟨reusable, _, done⟩ := bind_eq_ok.mp done
  cases reusable with
  | some existing =>
      cases pure_eq_ok.mp done
      exact first
  | none =>
      cases createPaymentWithOutTradeNo_eq_ok done
      obtain ⟨user, amount, currency⟩ := require_eq_ok.mp matching
      have known : recovered.orders.find? args.orderID = some order := by
        rw [frame]
        exact found_eq_ok.mp present
      have terms : (newPayment args now).charge.terms = order.terms := by
        simp only [Payment.charge, newPayment, Order.terms, user, amount, currency]
      exact first.trans (insertPayment_steps known (require_eq_ok.mp pending) terms rfl rfl)

theorem createPayment_steps {args : CreatePaymentArgs} {now : Time}
    (done : createPayment args now db = .ok (payment, result)) : Steps warrant db result := by
  unfold createPayment at done
  split at done
  · next opened =>
      cases done
      exact openPayment_steps opened
  · -- The rolled back transaction is answered from the surviving row.
    split at done
    · split at done
      · split at done
        · cases done
          exact .refl db
        · cases done
      · cases done
    · cases done

end Mall
