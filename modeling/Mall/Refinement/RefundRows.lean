/-
What the events of refund runs make of the refund rows.

A row is left alone, settled, or stamped with the time of the event; only a step of an
attempt at the refund stamps it.  A run knows which row it works on.
-/

import Mall.Refinement.Footprints
import Mall.Refinement.RefundRuns

namespace Mall

open Relational Transactional

/-! ### One row -/

inductive RefundStep (now : Option Time) (attempted : OrderRefund → Prop) :
    Option OrderRefund → Option OrderRefund → Prop
  | same (row : Option OrderRefund) : RefundStep now attempted row row
  | settled {row later : OrderRefund} (success : later.status = .success)
      (payment : later.paymentId = row.paymentId) : RefundStep now attempted (some row) (some later)
  | stamped {row later : OrderRefund} (tried : attempted row) (unsettled : row.status ≠ .success)
      (payment : later.paymentId = row.paymentId) (stamp : some later.updatedAt = now) :
      RefundStep now attempted (some row) (some later)
  | created {later : OrderRefund} (stamp : some later.updatedAt = now) :
      RefundStep now attempted none (some later)

namespace RefundStep

variable {now : Option Time} {attempted : OrderRefund → Prop} {row : OrderRefund}
  {before after : Option OrderRefund}

theorem kept (step : RefundStep now attempted (some row) after) :
    ∃ later, after = some later ∧ later.paymentId = row.paymentId ∧
      (row.status = .success → later.status = .success) := by
  cases step with
  | same => exact ⟨row, rfl, rfl, id⟩
  | @settled _ later success payment => exact ⟨later, rfl, payment, fun _ => success⟩
  | @stamped _ later tried unsettled payment stamp =>
      exact ⟨later, rfl, payment, fun success => absurd success unsettled⟩

theorem idle (step : RefundStep now attempted (some row) after) (unattempted : ¬ attempted row) :
    after = some row ∨ ∃ later, after = some later ∧ later.status = .success := by
  cases step with
  | same => exact Or.inl rfl
  | @settled _ later success payment => exact Or.inr ⟨later, rfl, success⟩
  | stamped tried unsettled payment stamp => exact absurd tried unattempted

theorem young {time : Time} (step : RefundStep now attempted before after)
    (since : ∀ stamp ∈ now, time ≤ stamp)
    (young : ∀ row ∈ before, row.status = .pending → time ≤ row.updatedAt) :
    ∀ row ∈ after, row.status = .pending → time ≤ row.updatedAt := by
  intro found member pending
  cases step with
  | same => exact young found member pending
  | settled success payment =>
      cases member
      rw [success] at pending
      cases pending
  | stamped tried unsettled payment stamp =>
      cases member
      exact since _ stamp.symm
  | created stamp =>
      cases member
      exact since _ stamp.symm

theorem mono {tried : OrderRefund → Prop} (step : RefundStep now attempted before after)
    (wider : ∀ row ∈ before, attempted row → tried row) : RefundStep now tried before after := by
  cases step with
  | same => exact .same _
  | settled success payment => exact .settled success payment
  | stamped at_row unsettled payment stamp =>
      exact .stamped (wider _ rfl at_row) unsettled payment stamp
  | created stamp => exact .created stamp

theorem of_settle {refunds later : Table OrderRefund} (settle : RefundsSettle refunds later)
    (id : Int) : RefundStep now attempted (refunds.find? id) (later.find? id) := by
  rcases settle id with same | ⟨row, last, present, found, success, payment⟩
  · rw [same]
    exact .same _
  · rw [present, found]
    exact .settled success payment

private theorem of_update {refunds : Table OrderRefund} {id : Int}
    {change : OrderRefund → OrderRefund}
    (present : refunds.find? id = some row) (tried : attempted row)
    (unsettled : row.status ≠ .success) (payment : (change row).paymentId = row.paymentId)
    (stamp : some (change row).updatedAt = now) (other : Int) :
    RefundStep now attempted (refunds.find? other) ((refunds.update id change).find? other) := by
  rw [Table.find?_update refunds change present]
  by_cases same : other = id
  · subst same
    rw [present, Function.update_self]
    exact .stamped tried unsettled payment stamp
  · rw [Function.update_of_ne same]
    exact .same _

end RefundStep

/-! ### The transactions of an attempt -/

variable {db result : Database}

theorem preparePaymentRefund_payment {now : Time} {paymentID : Int} {outRefundNo : String}
    {payment : Payment} {refund : OrderRefund}
    (done : preparePaymentRefund now paymentID outRefundNo db = .ok (payment, refund, result)) :
    payment.id = paymentID := by
  unfold preparePaymentRefund at done
  obtain ⟨row, present, done⟩ := bind_eq_ok.mp done
  obtain ⟨_, _, done⟩ := bind_eq_ok.mp done
  obtain ⟨order, owner, done⟩ := bind_eq_ok.mp done
  obtain ⟨_, _, done⟩ := bind_eq_ok.mp done
  have key : row.id = paymentID := Table.key_of_find? (found_eq_ok.mp present)
  split at done
  · obtain ⟨_, _, done⟩ := bind_eq_ok.mp done
    cases pure_eq_ok.mp done
    exact key
  · obtain ⟨_, _, done⟩ := bind_eq_ok.mp done
    obtain ⟨_, _, done⟩ := bind_eq_ok.mp done
    obtain ⟨_, _, done⟩ := bind_eq_ok.mp done
    obtain ⟨_, _, done⟩ := bind_eq_ok.mp done
    cases pure_eq_ok.mp done
    exact key

theorem preparePaymentRefund_refunds {now : Time} {paymentID : Int} {outRefundNo : String}
    {payment : Payment} {refund : OrderRefund}
    (done : preparePaymentRefund now paymentID outRefundNo db = .ok (payment, refund, result))
    (id : Int) :
    RefundStep (some now) (fun row => row.paymentId = paymentID) (db.refunds.find? id)
      (result.refunds.find? id) := by
  obtain ⟨order, locked, ⟨existing, chosen, resume⟩ | ⟨purpose, _, _, _, create⟩⟩ :=
    preparePaymentRefund_cases done
  · obtain ⟨stored, about⟩ := getOrderRefundByPaymentID_eq_some chosen
    unfold resumeRefund at resume
    obtain ⟨_, _, resume⟩ := bind_eq_ok.mp resume
    obtain ⟨_, _, resume⟩ := bind_eq_ok.mp resume
    obtain ⟨_, _, resume⟩ := bind_eq_ok.mp resume
    obtain ⟨_, _, resume⟩ := bind_eq_ok.mp resume
    split at resume
    · obtain ⟨row, present, failed, _, rfl⟩ :=
        Database.updateRefund_eq_some.mp (found_eq_ok.mp resume)
      cases present.symm.trans stored
      have failed : existing.status = .failed := beq_iff_eq.mp failed
      refine .of_update stored ?_ ?_ ?_ ?_ id
      · exact about.trans (preparePaymentRefund_payment done)
      · rw [failed]
        nofun
      · rfl
      · rfl
    · cases pure_eq_ok.mp resume
      exact .same _
  · obtain ⟨rfl, rfl, _⟩ := createOrderRefund_eq_ok create
    change RefundStep _ _ _ ((db.refunds.insert _).find? id)
    rw [Table.find?_insert]
    by_cases same : id = db.refunds.next
    · subst same
      rw [Function.update_self, Table.find?_next]
      exact .created rfl
    · rw [Function.update_of_ne same]
      exact .same _

theorem recordPaymentRefundError_refunds {now : Time} {refundID : Int} {lastError : String}
    {definitive : Bool}
    (done : recordPaymentRefundError now refundID lastError definitive db = .ok result) (id : Int) :
    RefundStep (some now) (fun row => row.id = refundID) (db.refunds.find? id)
      (result.refunds.find? id) := by
  unfold recordPaymentRefundError at done
  obtain ⟨⟨_, recorded⟩, record, done⟩ := bind_eq_ok.mp done
  cases pure_eq_ok.mp done
  obtain ⟨row, present, pending, _, rfl⟩ :=
    Database.updateRefund_eq_some.mp (found_eq_ok.mp record)
  have pending : row.status = .pending := beq_iff_eq.mp pending
  refine .of_update present (Table.key_of_find? present) ?_ ?_ ?_ id
  · rw [pending]
    nofun
  · rfl
  · rfl

end Mall
