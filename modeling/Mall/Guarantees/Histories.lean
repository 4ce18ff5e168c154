/-
Orders and payments never go back.
-/

import Mall.JournalHistory
import Mall.Refinement.Journal

namespace Mall

open Relational Transactional

variable {db : Database}

inductive OrderStatus.Follows : OrderStatus → OrderStatus → Prop
  | pay : Follows .pendingPayment .paid
  | cancel : Follows .pendingPayment .cancelled
  | ship : Follows .paid .shipped
  | refund : Follows .paid .refunded
  | complete : Follows .shipped .completed

inductive PaymentStatus.Follows : PaymentStatus → PaymentStatus → Prop
  | activate : Follows .creating .pending
  | startClosing {source : PaymentStatus} (early : source = .creating ∨ source = .pending) :
      Follows source .closePending
  | close {source : PaymentStatus}
      (active : source = .creating ∨ source = .pending ∨ source = .closePending) :
      Follows source .closed
  | fail {source : PaymentStatus}
      (active : source = .creating ∨ source = .pending ∨ source = .closePending) :
      Follows source .failed
  | receive {source : PaymentStatus} (unpaid : source = .creating ∨ source = .pending ∨
      source = .closePending ∨ source = .closed ∨ source = .failed) : Follows source .success
  | refund : Follows .success .refunded

/-! ### One row, one transaction -/

private theorem Order.Booked.follows {order later : Order} (booked : order.Booked later) :
    later.status = order.status ∨ order.status.Follows later.status := by
  cases booked with
  | turn turn =>
      cases turn with
      | still => exact Or.inl rfl
      | pay payment pending =>
          rw [pending]
          exact Or.inr .pay
      | cancel pending =>
          rw [pending]
          exact Or.inr .cancel
      | refund paid =>
          rw [paid]
          exact Or.inr .refund
  | fulfil kind starts =>
      rw [starts]
      cases kind with
      | ship => exact Or.inr .ship
      | complete => exact Or.inr .complete

/-- What an order keeps for good, given that only a pending order is unfunded. -/
structure Order.Keeps (order later : Order) : Prop where
  user : later.userId = order.userId
  total : later.totalAmountMinor = order.totalAmountMinor
  currency : later.currency = order.currency
  funding : ∀ payment, order.paidPaymentId = some payment → later.paidPaymentId = some payment

private theorem Order.Booked.keeps {order later : Order} (booked : order.Booked later)
    (unfunded : order.status = .pendingPayment → order.paidPaymentId = none) :
    order.Keeps later := by
  cases booked with
  | turn turn =>
      cases turn with
      | still => exact ⟨rfl, rfl, rfl, fun _ funded => funded⟩
      | pay payment pending =>
          refine ⟨rfl, rfl, rfl, fun other funded => ?_⟩
          rw [unfunded pending] at funded
          cases funded
      | cancel pending => exact ⟨rfl, rfl, rfl, fun _ funded => funded⟩
      | refund paid => exact ⟨rfl, rfl, rfl, fun _ funded => funded⟩
  | fulfil kind starts => cases kind <;> exact ⟨rfl, rfl, rfl, fun _ funded => funded⟩

private theorem PaymentStatus.Moves.follows {source target : PaymentStatus}
    (moves : source.Moves target) :
    source.Follows target := by
  have active : source = .creating ∨ source = .pending ∨ source = .closePending := by
    have := moves.active
    cases source <;> simp_all [PaymentStatus.isActive]
  cases target with
  | pending =>
      cases source with
      | creating => exact .activate
      | _ => cases moves
  | closePending => exact .startClosing (PaymentStatus.moves_closePending.mp moves)
  | closed => exact .close active
  | failed => exact .fail active
  | creating => cases source <;> cases moves
  | success => cases source <;> cases moves
  | refunded => cases source <;> cases moves

private theorem Payment.Booked.follows {payment later : Payment} (booked : payment.Booked later) :
    later.status = payment.status ∨ payment.status.Follows later.status := by
  obtain ⟨middle, edits, turn⟩ := booked
  have moved : middle.status = payment.status ∨ payment.status.Follows middle.status :=
    edits.moves.imp_right PaymentStatus.Moves.follows
  -- Money comes in only for a row that was unpaid before the edits too.
  have received : middle.status.isSettled = false → payment.status.Follows .success := by
    intro unsettled
    have unpaid : payment.status.isSettled = false := by
      rcases edits.moves with same | moves
      · rw [← same]
        exact unsettled
      · exact moves.unsettled.1
    refine .receive ?_
    cases status : payment.status <;> simp_all [PaymentStatus.isSettled]
  cases turn with
  | still => exact moved
  | flag reason detail news => exact moved
  | retry required => exact moved
  | resolve review => exact moved
  | settle now transaction unsettled => exact Or.inr (received unsettled)
  | settleFlagged now transaction reason detail unsettled news => exact Or.inr (received unsettled)
  | refund success =>
      rcases edits.moves with same | moves
      · right
        rw [← same, success]
        exact .refund
      · have unsettled := moves.unsettled.2
        rw [success] at unsettled
        cases unsettled

private theorem Payment.Booked.transaction {payment later : Payment} (booked : payment.Booked later)
    {transaction : String} (settled : payment.status.isSettled = true)
    (recorded : payment.thirdPartyTxId = some transaction) :
    later.thirdPartyTxId = some transaction := by
  obtain ⟨middle, edits, turn⟩ := booked
  have kept := edits.transaction.trans recorded
  have still : middle.status.isSettled = true := by
    rcases edits.moves with same | moves
    · rw [same]
      exact settled
    · have unsettled := moves.unsettled.1
      rw [settled] at unsettled
      cases unsettled
  cases turn with
  | settle now other unsettled =>
      rw [still] at unsettled
      cases unsettled
  | settleFlagged now other reason detail unsettled news =>
      rw [still] at unsettled
      cases unsettled
  | _ => exact kept

/-! ### Runs -/

private theorem Reached.transactionsUnique (reached : Reached db) :
    TransactionsUnique db.payments := by
  refine Reachable.invariant (motive := fun db => TransactionsUnique db.payments) ?_ ?_ reached
  · intro start initial left right leftRow rightRow transaction found
    rw [Table.find?_of_empty initial.noPayments] at found
    cases found
  · intro state operation earlier unique
    exact (next_booked operation (Reached.valid earlier).sound).transactionsUnique unique

private theorem Reached.unfunded (reached : Reached db) {id : Int} {order : Order}
    (present : db.orders.find? id = some order) (pending : order.status = .pendingPayment) :
    order.paidPaymentId = none := by
  have funded := reached.valid.sound.funding.fundedStatus (Database.ledger_order present)
  change order.paidPaymentId.isSome = order.status.hasFunding at funded
  rw [pending] at funded
  exact Option.not_isSome_iff_eq_none.mp (Bool.eq_false_iff.mp funded)

private theorem Reached.recorded (reached : Reached db) {id : Int} {payment : Payment}
    (present : db.payments.find? id = some payment) :
    payment.thirdPartyTxId.isSome = payment.status.isSettled :=
  reached.valid.sound.funding.recorded (Database.ledger_payment present)

theorem run_transaction_kept (reached : Reached db) (history : List Operation) {id : Int}
    {payment : Payment} (present : db.payments.find? id = some payment) :
    ∃ later, (run next db history).payments.find? id = some later ∧
      ∀ transaction, payment.thirdPartyTxId = some transaction →
        later.thirdPartyTxId = some transaction := by
  induction history generalizing db payment with
  | nil => exact ⟨payment, present, fun _ recorded => recorded⟩
  | cons operation rest ih =>
      have booked := next_booked operation reached.valid.sound
      obtain ⟨middle, found, moved⟩ := booked.payments.kept present
      obtain ⟨later, last, kept⟩ := ih (reached.step operation) found
      refine ⟨later, last, fun transaction recorded => kept transaction ?_⟩
      have settled := reached.recorded present
      rw [recorded] at settled
      exact moved.transaction settled.symm recorded

theorem run_order_kept (reached : Reached db) (history : List Operation) {id : Int} {order : Order}
    (present : db.orders.find? id = some order) :
    ∃ later, (run next db history).orders.find? id = some later ∧ order.Keeps later ∧
      ∀ item : OrderItem, item.orderId = id →
        (item ∈ (run next db history).orderItems ↔ item ∈ db.orderItems) := by
  induction history generalizing db order with
  | nil => exact ⟨order, present, ⟨rfl, rfl, rfl, fun _ funded => funded⟩, fun _ _ => Iff.rfl⟩
  | cons operation rest ih =>
      have booked := next_booked operation reached.valid.sound
      obtain ⟨middle, found, moved⟩ := booked.orders.kept present
      obtain ⟨later, last, kept, items⟩ := ih (reached.step operation) found
      have first := moved.keeps (reached.unfunded present)
      refine ⟨later, last, ⟨kept.user.trans first.user, kept.total.trans first.total,
        kept.currency.trans first.currency,
        fun payment funded => kept.funding payment (first.funding payment funded)⟩, ?_⟩
      intro item own
      exact (items item own).trans (booked.orderItems present own)

/-- Statuses only go forward, along the listed moves; what is recorded about money
and goods stays. -/
theorem histories_never_go_back (reached : Reached db) (operation : Operation)
    (history : List Operation) :
    (∀ id order, db.orders.find? id = some order →
      ∃ later, (next operation db).orders.find? id = some later ∧
        (later.status = order.status ∨ order.status.Follows later.status)) ∧
    (∀ id later, db.orders.find? id = none → (next operation db).orders.find? id = some later →
      later.status = .pendingPayment) ∧
    (∀ id payment, db.payments.find? id = some payment →
      ∃ later, (next operation db).payments.find? id = some later ∧
        (later.status = payment.status ∨ payment.status.Follows later.status)) ∧
    (∀ id later, db.payments.find? id = none → (next operation db).payments.find? id = some later →
      later.status = .creating) ∧
    (∀ payment ∈ db.payments, payment.thirdPartyTxId.isSome = true ↔
      payment.status = .success ∨ payment.status = .refunded) ∧
    (∀ left ∈ db.payments, ∀ right ∈ db.payments, left.payChannel = right.payChannel →
      left.thirdPartyTxId.isSome = true → left.thirdPartyTxId = right.thirdPartyTxId →
      left = right) ∧
    (∀ id payment, db.payments.find? id = some payment →
      ∃ later, (run next db history).payments.find? id = some later ∧
        ∀ transaction, payment.thirdPartyTxId = some transaction →
          later.thirdPartyTxId = some transaction) ∧
    (∀ id order, db.orders.find? id = some order →
      ∃ later, (run next db history).orders.find? id = some later ∧
        later.totalAmountMinor = order.totalAmountMinor ∧ later.currency = order.currency ∧
        (∀ payment, order.paidPaymentId = some payment → later.paidPaymentId = some payment) ∧
        ∀ item : OrderItem, item.orderId = id →
          (item ∈ (run next db history).orderItems ↔ item ∈ db.orderItems)) := by
  have booked := next_booked operation reached.valid.sound
  refine ⟨?_, ?_, ?_, ?_, ?_, ?_, ?_, ?_⟩
  · intro id order present
    obtain ⟨later, found, moved⟩ := booked.orders.kept present
    exact ⟨later, found, moved.follows⟩
  · intro id later absent present
    exact (booked.orders.added absent present).pending
  · intro id payment present
    obtain ⟨later, found, moved⟩ := booked.payments.kept present
    exact ⟨later, found, moved.follows⟩
  · intro id later absent present
    exact (booked.payments.added absent present).status
  · intro payment member
    rw [reached.recorded (Table.find?_key member)]
    cases payment.status <;> simp [PaymentStatus.isSettled]
  · intro left leftMember right rightMember channel taken same
    obtain ⟨transaction, recorded⟩ := Option.isSome_iff_exists.mp taken
    exact Table.eq_of_key_eq leftMember rightMember
      (reached.transactionsUnique _ _ _ _ _ (Table.find?_key leftMember) (Table.find?_key rightMember)
        channel recorded (same.symm.trans recorded))
  · intro id payment present
    exact run_transaction_kept reached history present
  · intro id order present
    obtain ⟨later, found, kept, items⟩ := run_order_kept reached history present
    exact ⟨later, found, kept.total, kept.currency, kept.funding, items⟩

theorem histories_never_go_back_paidShop :
    (∃ order payment, paidShop.orders.find? 1 = some order ∧ order.status = .paid ∧
      paidShop.payments.find? 1 = some payment ∧ payment.status = .success) ∧
    ∃ later, (next (.applyPaymentRefund 3 1 1)
        (next (.preparePaymentRefund 3 1 "R1") paidShop)).orders.find? 1 = some later ∧
      later.currency = "CNY" ∧ later.paidPaymentId = some 1 := by
  have facts : (paidShop.orders.find? 1).map (fun order =>
      (order.status, order.currency, order.paidPaymentId)) = some (.paid, "CNY", some 1) := by
    decide +kernel
  have money : (paidShop.payments.find? 1).map Payment.status = some .success := by
    decide +kernel
  obtain ⟨order, present, about⟩ := Option.map_eq_some_iff.mp facts
  obtain ⟨payment, known, success⟩ := Option.map_eq_some_iff.mp money
  simp only [Prod.mk.injEq] at about
  obtain ⟨status, currency, funded⟩ := about
  obtain ⟨_, _, _, _, _, _, _, kept⟩ := histories_never_go_back paidShop_reached (.finishJob 1)
    [.preparePaymentRefund 3 1 "R1", .applyPaymentRefund 3 1 1]
  obtain ⟨later, found, _, sameCurrency, sameFunding, _⟩ := kept 1 order present
  exact ⟨⟨order, payment, present, status, known, success⟩, later, found,
    sameCurrency.trans currency, sameFunding 1 funded⟩

end Mall
