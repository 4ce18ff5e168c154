/-
Orders that move without being added, and refunds that are left alone or settled.
-/

import Mall.JournalHistory
import Mall.Refinement.Journal

namespace Mall

open Relational Transactional

variable {db result : Database}

def SameOrders (db result : Database) : Prop :=
  result.orders.next = db.orders.next

theorem SameOrders.trans {first second third : Database} (left : SameOrders first second)
    (right : SameOrders second third) : SameOrders first third :=
  Eq.trans right left

def RefundsSettle (before after : Table OrderRefund) : Prop :=
  ∀ id, after.find? id = before.find? id ∨
    ∃ row later, before.find? id = some row ∧ after.find? id = some later ∧
      later.status = .success ∧ later.paymentId = row.paymentId

theorem RefundsSettle.refl (refunds : Table OrderRefund) : RefundsSettle refunds refunds :=
  fun _ => Or.inl rfl

theorem RefundsSettle.trans {first second third : Table OrderRefund}
    (left : RefundsSettle first second) (right : RefundsSettle second third) :
    RefundsSettle first third := by
  intro id
  rcases left id with same | ⟨row, later, present, found, success, payment⟩
  · rw [← same]
    exact right id
  · rcases right id with kept | ⟨row', last, present', found', success', payment'⟩
    · exact Or.inr ⟨row, later, present, kept.trans found, success, payment⟩
    · cases found.symm.trans present'
      exact Or.inr ⟨row, last, present, found', success', payment'.trans payment⟩

theorem RefundsSettle.update {refunds : Table OrderRefund} {id : Int} {row : OrderRefund}
    {change : OrderRefund → OrderRefund} (present : refunds.find? id = some row)
    (success : (change row).status = .success)
    (payment : (change row).paymentId = row.paymentId) :
    RefundsSettle refunds (refunds.update id change) := by
  intro other
  rw [Table.find?_update refunds change present]
  by_cases same : other = id
  · subst same
    exact Or.inr ⟨row, _, present, Function.update_self .., success, payment⟩
  · exact Or.inl (Function.update_of_ne same ..)

theorem Booked.orders_origin {citation : Citation} {before after : Journal}
    (booked : Booked citation before after) (same : after.orders.next = before.orders.next)
    {id : Int} {later : Order} (present : after.orders.find? id = some later) :
    ∃ order, before.orders.find? id = some order ∧ order.Booked later := by
  rcases booked.orders.origin present with old | ⟨absent, _⟩
  · exact old
  · exfalso
    have lost : after.orders.find? id = none := by
      cases booked with
      | entries path =>
          rw [path.sameAudit.orders]
          exact absent
      | turned path turn =>
          rw [← path.sameAudit.orders] at absent same
          cases turn with
          | openPayment row order blank owner payable user amount currency fresh => exact absent
          | place row items pending unfunded fresh kept added =>
              change _ + 1 = _ at same
              omega
          | release id row present pending => exact Table.find?_update_of_none _ absent
          | heal id payment row present pending => exact Table.find?_update_of_none _ absent
          | settle id row now transaction orders payments failures present unsettled named fresh
              funds review =>
              rcases funds with rfl | ⟨order, owner, pending, rfl⟩
              · exact absent
              · exact Table.find?_update_of_none _ absent
          | flag id reason detail evidence payments failures raised about unresolved cited
              evidenced => exact absent
          | refund id row orders refunds present received reversed =>
              rcases reversed with rfl | ⟨orderId, order, owner, paid, rfl⟩
              · exact absent
              · exact Table.find?_update_of_none _ absent
      | audited audited =>
          cases audited with
          | retry action row audits kind required toStatus => exact absent
          | resolve action row now audits kind review toStatus => exact absent
          | fulfil action order funding audits => exact Table.find?_update_of_none _ absent
    rw [lost] at present
    cases present

structure Order.SameRequest (order later : Order) : Prop where
  user : later.userId = order.userId
  key : later.idempotencyKey = order.idempotencyKey
  hash : later.requestHash = order.requestHash

theorem Order.SameRequest.refl (order : Order) : order.SameRequest order :=
  ⟨rfl, rfl, rfl⟩

theorem Order.Booked.sameRequest {order later : Order} (booked : order.Booked later) :
    order.SameRequest later := by
  cases booked with
  | turn turn => cases turn <;> exact ⟨rfl, rfl, rfl⟩
  | fulfil kind starts => cases kind <;> exact ⟨rfl, rfl, rfl⟩

end Mall
