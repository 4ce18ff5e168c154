/-
Refunds refine the ledger.

A refund row is opened or reopened, rejected, and settled.  Settling the refund
of the funding payment takes the order back and returns its goods.
-/

import Mall.Settlement
import Mall.Refinement.Paths

namespace Mall

open Ledger Relational Transactional

variable {warrant : Warrant} {db result : Database} {payment : Payment} {order : Order}
  {now : Time} {refund : OrderRefund}

structure Locked (db : Database) (order : Order) (payment : Payment) : Prop where
  foundPayment : db.payments.find? payment.id = some payment
  foundOrder : db.orders.find? payment.orderId = some order

theorem Locked.key (locked : Locked db order payment) :
    order.id = payment.orderId :=
  Table.key_of_find? locked.foundOrder

theorem Locked.charge (locked : Locked db order payment) :
    db.ledger.payments payment.id = some payment.charge :=
  Database.ledger_payment locked.foundPayment

theorem Locked.purchase (locked : Locked db order payment) :
    db.ledger.orders payment.charge.order = some (db.purchase order) :=
  Database.ledger_order locked.foundOrder

theorem Locked.positive (locked : Locked db order payment) :
    0 < payment.id :=
  (db.payments.issued payment (Table.mem_of_find? locked.foundPayment)).1

/-! ### Purposes -/

theorem Order.paidPaymentID_eq {id : Int} (positive : 0 < id) :
    order.paidPaymentID = id ↔ order.paidPaymentId = some id := by
  unfold Order.paidPaymentID
  cases order.paidPaymentId with
  | none =>
      simp only [Option.getD_none, reduceCtorEq, iff_false]
      omega
  | some paid => simp

private theorem decideRefundPurpose_fits (db : Database) {id : Int} {purpose : RefundPurpose}
    (decided : decideRefundPurpose order.status order.paidPaymentID id = .ok purpose)
    (standing : order.status ≠ .cancelling) :
    purpose.Fits (db.purchase order) id ∧ (purpose = .orderCancel → order.status = .paid) := by
  unfold decideRefundPurpose at decided
  split at decided
  · cases decided
  · next positive =>
      split at decided
      · next other =>
          cases decided
          refine ⟨?_, nofun⟩
          obtain ⟨⟨paid, different⟩, _⟩ := other
          exact ⟨order.paidPaymentID, (Order.paidPaymentID_eq paid).mp rfl, different⟩
      · split at decided
        · next own =>
            cases decided
            exact ⟨(Order.paidPaymentID_eq (by omega)).mp own.1, fun _ => own.2⟩
        · split at decided
          · next late =>
              cases decided
              refine ⟨?_, nofun⟩
              rcases late.2 with cancelled | cancelling
              · exact cancelled
              · exact absurd cancelling standing
          · cases decided

theorem validateRefundSettlement_eq_ok {purpose : RefundPurpose} {status : OrderStatus}
    {paid id : Int} {done : Unit} (valid : validateRefundSettlement purpose status paid id = .ok done) :
    decideRefundPurpose status paid id = .ok purpose := by
  unfold validateRefundSettlement at valid
  split at valid
  · cases valid
  · next expected decided =>
      split at valid
      · next same => rw [decided, same]
      · cases valid

private theorem not_cancelling (sound : db.ledger.Sound) {id : Int}
    (present : db.orders.find? id = some order) : order.status ≠ .cancelling :=
  sound.funding.neverCancelling (Database.ledger_order present)

/-! ### Opening and rejecting -/

theorem getOrderRefundByPaymentID_eq_some {paymentId : Int}
    (found : db.getOrderRefundByPaymentID paymentId = some refund) :
    db.refunds.find? refund.id = some refund ∧ refund.paymentId = paymentId :=
  ⟨Table.find?_key (List.mem_of_find?_eq_some found), by simpa using List.find?_some found⟩

theorem getOrderRefundByPaymentID_eq_none {paymentId : Int}
    (absent : db.getOrderRefundByPaymentID paymentId = none) {id : Int} {reversal : Reversal}
    (present : db.ledger.refunds id = some reversal) : reversal.payment ≠ paymentId := by
  obtain ⟨refund, known, rfl⟩ := Database.of_ledger_refund present
  intro same
  have different := List.find?_eq_none.mp absent refund (Table.mem_of_find? known)
  exact different (beq_iff_eq.mpr same)

theorem getOrderRefundByPaymentID_of_ledger (sound : db.ledger.Sound) {id : Int}
    {reversal : Reversal} (present : db.ledger.refunds id = some reversal) :
    ∃ refund, db.getOrderRefundByPaymentID reversal.payment = some refund ∧
      refund.reversal = reversal := by
  cases chosen : db.getOrderRefundByPaymentID reversal.payment with
  | none => exact absurd rfl (getOrderRefundByPaymentID_eq_none chosen present)
  | some refund =>
      obtain ⟨stored, same⟩ := getOrderRefundByPaymentID_eq_some chosen
      have key := sound.returns.reversalUnique (Database.ledger_refund stored) present same
      rw [← key, Database.ledger_refund stored] at present
      exact ⟨refund, rfl, Option.some.inj present⟩

theorem createOrderRefund_eq_ok {row stored : OrderRefund}
    (done : db.createOrderRefund row = .ok (stored, result)) :
    stored = db.refunds.inserted row ∧ result = { db with refunds := db.refunds.insert row } ∧
      ∀ refund ∈ db.refunds, refund.outRefundNo ≠ row.outRefundNo := by
  unfold Database.createOrderRefund at done
  obtain ⟨_, unused, done⟩ := bind_eq_ok.mp done
  obtain ⟨_, _, done⟩ := bind_eq_ok.mp done
  cases pure_eq_ok.mp done
  exact ⟨rfl, rfl, require_eq_ok.mp unused⟩

private theorem createOrderRefund_steps {purpose : RefundPurpose} {outRefundNo : String}
    {stored : OrderRefund} (locked : Locked db order payment) (sound : db.ledger.Sound)
    (received : payment.status = .success)
    (absent : db.getOrderRefundByPaymentID payment.id = none)
    (decided : decideRefundPurpose order.status order.paidPaymentID payment.id = .ok purpose)
    (done : db.createOrderRefund (newRefund payment purpose outRefundNo now) =
      .ok (stored, result)) :
    Steps warrant db result := by
  obtain ⟨rfl, rfl, unused⟩ := createOrderRefund_eq_ok done
  obtain ⟨fits, undispatched⟩ :=
    decideRefundPurpose_fits db decided (not_cancelling sound locked.foundOrder)
  have fresh : db.ledger.refunds db.refunds.next = none := by
    simp [Database.ledger, Table.find?_next]
  have number : ∀ other row, db.ledger.refunds other = some row → row.number ≠ outRefundNo := by
    intro other row present
    obtain ⟨refund, known, rfl⟩ := Database.of_ledger_refund present
    exact unused refund (Table.mem_of_find? known)
  exact .one
    (.openReversal db.refunds.next (newRefund payment purpose outRefundNo now).reversal
      payment.charge (db.purchase order) fresh
      (fun _ _ present => getOrderRefundByPaymentID_eq_none absent present) number locked.charge
      received locked.purchase rfl rfl rfl rfl fits undispatched)
    (Database.ledger_insertRefund db _) rfl

private theorem retryOrderRefund_steps {refund changed : OrderRefund}
    (present : db.refunds.find? refund.id = some refund)
    (owner : db.orders.find? refund.orderId = some order)
    (undispatched : refund.purpose = .orderCancel → order.status = .paid)
    (done : db.retryOrderRefund now refund.id = some (changed, result)) :
    Steps warrant db result := by
  obtain ⟨row, known, failed, _, rfl⟩ := Database.updateRefund_eq_some.mp done
  cases known.symm.trans present
  exact .one
    (.retryReversal refund.id refund.reversal (db.purchase order) (Database.ledger_refund present)
      (eq_of_beq failed) (Database.ledger_order owner) undispatched)
    (Database.ledger_updateRefund _ present) rfl

private theorem resumeRefund_steps {refund current : OrderRefund} (locked : Locked db order payment)
    (sound : db.ledger.Sound) (present : db.refunds.find? refund.id = some refund)
    (owner : refund.orderId = payment.orderId)
    (done : resumeRefund now order payment refund db = .ok (current, result)) :
    Steps warrant db result := by
  unfold resumeRefund at done
  obtain ⟨_, _, done⟩ := bind_eq_ok.mp done
  obtain ⟨_, consistent, done⟩ := bind_eq_ok.mp done
  obtain ⟨_, _, done⟩ := bind_eq_ok.mp done
  obtain ⟨_, valid, done⟩ := bind_eq_ok.mp done
  split at done
  · next failed =>
      have unsettled : payment.status ≠ .refunded := by
        intro refunded
        exact require_eq_ok.mp consistent ⟨refunded, by rw [failed]; nofun⟩
      rw [revalidateRefund, if_pos unsettled] at valid
      have undispatched := (decideRefundPurpose_fits db (validateRefundSettlement_eq_ok valid)
        (not_cancelling sound locked.foundOrder)).2
      exact retryOrderRefund_steps present (owner ▸ locked.foundOrder) undispatched
        (found_eq_ok.mp done)
  · cases pure_eq_ok.mp done
    exact .refl db

theorem refund_owner (sound : db.ledger.Sound)
    (present : db.refunds.find? refund.id = some refund)
    (known : db.payments.find? refund.paymentId = some payment) :
    refund.orderId = payment.orderId := by
  obtain ⟨charge, found, same, _⟩ := sound.returns.reversalCharge (Database.ledger_refund present)
  cases found.symm.trans (Database.ledger_payment known)
  exact same

theorem getOrderForUpdateByPaymentID_locked {paymentID : Int}
    (present : db.payments.find? paymentID = some payment)
    (found : db.getOrderForUpdateByPaymentID paymentID = some order) :
    Locked db order payment ∧ payment.id = paymentID := by
  have key : payment.id = paymentID := Table.key_of_find? present
  rw [Database.getOrderForUpdateByPaymentID, present] at found
  exact ⟨⟨key.symm ▸ present, found⟩, key⟩

theorem preparePaymentRefund_cases {paymentID : Int} {outRefundNo : String}
    (done : preparePaymentRefund now paymentID outRefundNo db = .ok (payment, refund, result)) :
    ∃ order, Locked db order payment ∧
      ((∃ existing, db.getOrderRefundByPaymentID payment.id = some existing ∧
          resumeRefund now order payment existing db = .ok (refund, result)) ∨
        ∃ purpose, db.getOrderRefundByPaymentID payment.id = none ∧ payment.status = .success ∧
          decideRefundPurpose order.status order.paidPaymentID payment.id = .ok purpose ∧
          db.createOrderRefund (newRefund payment purpose outRefundNo now) = .ok (refund, result)) := by
  unfold preparePaymentRefund at done
  obtain ⟨row, present, done⟩ := bind_eq_ok.mp done
  obtain ⟨_, _, done⟩ := bind_eq_ok.mp done
  obtain ⟨order, owner, done⟩ := bind_eq_ok.mp done
  obtain ⟨_, _, done⟩ := bind_eq_ok.mp done
  obtain ⟨locked, rfl⟩ :=
    getOrderForUpdateByPaymentID_locked (found_eq_ok.mp present) (found_eq_ok.mp owner)
  split at done
  · next existing chosen =>
      obtain ⟨⟨current, resumed⟩, resume, done⟩ := bind_eq_ok.mp done
      cases pure_eq_ok.mp done
      exact ⟨order, locked, Or.inl ⟨existing, chosen, resume⟩⟩
  · next absent =>
      obtain ⟨_, received, done⟩ := bind_eq_ok.mp done
      obtain ⟨purpose, decided, done⟩ := bind_eq_ok.mp done
      obtain ⟨_, _, done⟩ := bind_eq_ok.mp done
      obtain ⟨⟨created, stored⟩, create, done⟩ := bind_eq_ok.mp done
      cases pure_eq_ok.mp done
      exact ⟨order, locked, Or.inr ⟨purpose, absent, require_eq_ok.mp received, decided, create⟩⟩

theorem preparePaymentRefund_steps {paymentID : Int} {outRefundNo : String}
    (sound : db.ledger.Sound)
    (done : preparePaymentRefund now paymentID outRefundNo db = .ok (payment, refund, result)) :
    Steps warrant db result := by
  obtain ⟨order, locked, ⟨existing, chosen, resume⟩ | ⟨purpose, absent, received, decided, create⟩⟩ :=
    preparePaymentRefund_cases done
  · obtain ⟨stored, same⟩ := getOrderRefundByPaymentID_eq_some chosen
    have belongs := refund_owner sound stored (same ▸ locked.foundPayment)
    exact resumeRefund_steps locked sound stored belongs resume
  · exact createOrderRefund_steps locked sound received absent decided create

private theorem resumeRefund_eq_ok {refund current : OrderRefund}
    (present : db.refunds.find? refund.id = some refund)
    (done : resumeRefund now order payment refund db = .ok (current, result)) :
    result.payments = db.payments ∧ result.refunds.find? current.id = some current ∧
      current.paymentId = refund.paymentId ∧ current.status ≠ .failed := by
  unfold resumeRefund at done
  obtain ⟨_, _, done⟩ := bind_eq_ok.mp done
  obtain ⟨_, _, done⟩ := bind_eq_ok.mp done
  obtain ⟨_, _, done⟩ := bind_eq_ok.mp done
  obtain ⟨_, _, done⟩ := bind_eq_ok.mp done
  split at done
  · obtain ⟨old, known, _, rfl, rfl⟩ := Database.updateRefund_eq_some.mp (found_eq_ok.mp done)
    cases known.symm.trans present
    refine ⟨rfl, ?_, rfl, nofun⟩
    rw [Table.find?_update_self, present]
    rfl
  · next live =>
      cases pure_eq_ok.mp done
      exact ⟨rfl, present, rfl, live⟩

/-- What a preparation hands on: the payment as it is stored, and its refund row as
it is stored now, which is not a rejected one. -/
theorem preparePaymentRefund_eq_ok {paymentID : Int} {outRefundNo : String}
    (done : preparePaymentRefund now paymentID outRefundNo db = .ok (payment, refund, result)) :
    result.payments.find? payment.id = some payment ∧
      result.refunds.find? refund.id = some refund ∧ refund.paymentId = payment.id ∧
      refund.status ≠ .failed := by
  obtain ⟨order, locked, ⟨existing, chosen, resume⟩ | ⟨purpose, _, _, _, create⟩⟩ :=
    preparePaymentRefund_cases done
  · obtain ⟨stored, same⟩ := getOrderRefundByPaymentID_eq_some chosen
    obtain ⟨payments, present, about, live⟩ := resumeRefund_eq_ok stored resume
    exact ⟨payments ▸ locked.foundPayment, present, about.trans same, live⟩
  · obtain ⟨rfl, rfl, _⟩ := createOrderRefund_eq_ok create
    refine ⟨locked.foundPayment, ?_, rfl, nofun⟩
    change (db.refunds.insert _).find? db.refunds.next = _
    rw [Table.find?_insert, Function.update_self]

theorem recordPaymentRefundError_steps {refundID : Int} {lastError : String} {definitive : Bool}
    (done : recordPaymentRefundError now refundID lastError definitive db = .ok result) :
    Steps warrant db result := by
  unfold recordPaymentRefundError at done
  obtain ⟨⟨_, recorded⟩, record, done⟩ := bind_eq_ok.mp done
  cases pure_eq_ok.mp done
  obtain ⟨row, present, pending, _, rfl⟩ :=
    Database.updateRefund_eq_some.mp (found_eq_ok.mp record)
  have changed := Database.ledger_updateRefund (fun refund : OrderRefund =>
    { refund with
      status := if definitive then .failed else refund.status
      lastError := lastError
      updatedAt := now }) present
  cases definitive with
  | true =>
      exact .one (.rejectReversal refundID row.reversal (Database.ledger_refund present)
        (eq_of_beq pending)) changed rfl
  | false =>
      have same := Ledger.setRefund_self _ (Database.ledger_refund present)
      exact .unseen (changed.trans same) rfl

/-! ### Settling -/

private theorem ledger_reverseOrder {orderId : Int} (tidy : db.ItemsTidy) (sound : db.ledger.Sound)
    (done : reverseOrder orderId .orderCancel db = .ok result) :
    ∃ purchase, db.ledger.orders orderId = some purchase ∧ purchase.status = .paid ∧
      result.ledger = (db.ledger.setOrder orderId { purchase with status := .refunded }).returnStock
        purchase.lines ∧ result.payments = db.payments ∧ result.refunds = db.refunds ∧
      result.orderItems = db.orderItems := by
  rw [reverseOrder, if_pos rfl] at done
  obtain ⟨⟨_, refunded⟩, mark, done⟩ := bind_eq_ok.mp done
  obtain ⟨row, present, allowed, _, rfl⟩ := Database.updateOrder_eq_some.mp (found_eq_ok.mp mark)
  have paid : row.status = .paid := eq_of_beq allowed
  obtain rfl : row.id = orderId := Table.key_of_find? present
  let change := fun order : Order => { order with status := .refunded, isCompleted := true }
  have unlisted : ∀ product, db.ledger.listed product = false → db.lines row.id product = 0 :=
    fun _ unknown => sound.stocked.linesListed (Database.ledger_order present) unknown
  have first := Database.ledger_updateOrder_leave change present (by rw [paid]; rfl) rfl
  have second := Database.ledger_restoreOrderItemStock (tidy.updateOrder change present) unlisted done
  cases Database.restoreOrderItemStock_eq_ok done
  refine ⟨db.purchase row, Database.ledger_order present, paid, ?_, rfl, rfl, rfl⟩
  rw [second, first]
  rfl

private theorem settle_rows {refund changedRefund : OrderRefund} {payment changedPayment : Payment}
    {marked : Database} (storedRefund : db.refunds.find? refund.id = some refund)
    (storedPayment : db.payments.find? payment.id = some payment)
    (mark : db.markOrderRefundSuccess now refund.id payment.id = some (changedRefund, marked))
    (confirm : marked.confirmPaymentRefunded payment.id = some (changedPayment, result)) :
    result.ledger = (db.ledger.setRefund refund.id { refund.reversal with status := .success }).setPayment
      payment.id { payment.charge with status := .refunded } ∧
      result.orderItems = db.orderItems := by
  obtain ⟨row, present, _, _, rfl⟩ := Database.updateRefund_eq_some.mp mark
  cases present.symm.trans storedRefund
  obtain ⟨paid, known, _, _, rfl⟩ := Database.updatePayment_eq_some.mp confirm
  have same : db.payments.find? payment.id = some paid := known
  cases same.symm.trans storedPayment
  refine ⟨?_, rfl⟩
  rw [Database.ledger_updatePayment _ known, Database.ledger_updateRefund _ present]
  rfl

theorem settlePaymentRefund_steps {payment changed : Payment} (tidy : db.ItemsTidy)
    (sound : db.ledger.Sound) (locked : Locked db order payment)
    (stored : db.refunds.find? refund.id = some refund)
    (done : settlePaymentRefund now order payment refund db = .ok (changed, result)) :
    Steps warrant db result := by
  unfold settlePaymentRefund at done
  obtain ⟨_, matching, done⟩ := bind_eq_ok.mp done
  obtain ⟨samePayment, sameOrder, _, _⟩ := require_eq_ok.mp matching
  split at done
  · cases pure_eq_ok.mp done
    exact .refl db
  · obtain ⟨_, received, done⟩ := bind_eq_ok.mp done
    obtain ⟨_, valid, done⟩ := bind_eq_ok.mp done
    obtain ⟨reversed, reverse, done⟩ := bind_eq_ok.mp done
    obtain ⟨⟨_, marked⟩, mark, confirm⟩ := bind_eq_ok.mp done
    have success : payment.charge.status = .success := require_eq_ok.mp received
    have charge : db.ledger.payments refund.reversal.payment = some payment.charge := by
      change db.ledger.payments refund.paymentId = some payment.charge
      rw [samePayment]
      exact locked.charge
    by_cases purpose : refund.purpose = .orderCancel
    · rw [purpose] at reverse
      obtain ⟨purchase, present, paid, taken, samePayments, sameRefunds, items⟩ :=
        ledger_reverseOrder tidy sound reverse
      obtain ⟨settled, itemsAfter⟩ := settle_rows (sameRefunds ▸ stored)
        (samePayments ▸ locked.foundPayment) (found_eq_ok.mp mark) (found_eq_ok.mp confirm)
      rw [locked.key] at present taken
      refine .one (.settleOrder refund.id refund.reversal payment.charge purchase
        (Database.ledger_refund stored) purpose charge success present paid) ?_
        (itemsAfter.trans items)
      rw [settled, taken, ← samePayment]
      rfl
    · rw [reverseOrder, if_neg purpose] at reverse
      cases reverse
      obtain ⟨settled, itemsAfter⟩ := settle_rows stored locked.foundPayment (found_eq_ok.mp mark)
        (found_eq_ok.mp confirm)
      refine .one (.settleExcess refund.id refund.reversal payment.charge
        (Database.ledger_refund stored) purpose charge success) ?_ itemsAfter
      rw [settled, ← samePayment]
      rfl

theorem applyPaymentRefund_steps {paymentID refundID : Int} (tidy : db.ItemsTidy)
    (sound : db.ledger.Sound)
    (done : applyPaymentRefund now paymentID refundID db = .ok (payment, result)) :
    Steps warrant db result := by
  unfold applyPaymentRefund at done
  obtain ⟨order, owner, done⟩ := bind_eq_ok.mp done
  obtain ⟨current, present, done⟩ := bind_eq_ok.mp done
  obtain ⟨refund, chosen, done⟩ := bind_eq_ok.mp done
  obtain ⟨_, _, done⟩ := bind_eq_ok.mp done
  obtain ⟨locked, _⟩ :=
    getOrderForUpdateByPaymentID_locked (found_eq_ok.mp present) (found_eq_ok.mp owner)
  exact settlePaymentRefund_steps tidy sound locked
    (getOrderRefundByPaymentID_eq_some (found_eq_ok.mp chosen)).1 done

end Mall
