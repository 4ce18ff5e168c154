/-
What one booking does to each row of the journal.
-/

import Mall.Journal
import Mall.Ledger

namespace Mall

open Relational Relation

variable {citation : Citation} {journal before after : Journal} {payment later : Payment}

/-! ### Rows -/

theorem Payment.Edit.id_eq (edit : payment.Edit later) :
    later.id = payment.id := by
  cases edit <;> rfl

/-- The columns of a payment that are written when it is opened and never again. -/
structure Payment.SameDeal (payment later : Payment) : Prop where
  id : later.id = payment.id
  orderId : later.orderId = payment.orderId
  userId : later.userId = payment.userId
  amountMinor : later.amountMinor = payment.amountMinor
  currency : later.currency = payment.currency
  payChannel : later.payChannel = payment.payChannel
  outTradeNo : later.outTradeNo = payment.outTradeNo

theorem Payment.SameDeal.refl (payment : Payment) : payment.SameDeal payment :=
  ⟨rfl, rfl, rfl, rfl, rfl, rfl, rfl⟩

theorem Payment.SameDeal.trans {payment middle later : Payment} (left : payment.SameDeal middle)
    (right : middle.SameDeal later) : payment.SameDeal later :=
  ⟨right.id.trans left.id, right.orderId.trans left.orderId, right.userId.trans left.userId,
    right.amountMinor.trans left.amountMinor, right.currency.trans left.currency,
    right.payChannel.trans left.payChannel, right.outTradeNo.trans left.outTradeNo⟩

theorem Payment.Edits.sameDeal (edits : payment.Edits later) :
    payment.SameDeal later := by
  induction edits with
  | refl => exact .refl payment
  | tail _ edit ih =>
      refine ih.trans ?_
      cases edit <;> exact ⟨rfl, rfl, rfl, rfl, rfl, rfl, rfl⟩

theorem Payment.Turn.sameDeal (turn : payment.Turn later) :
    payment.SameDeal later := by
  cases turn <;> exact ⟨rfl, rfl, rfl, rfl, rfl, rfl, rfl⟩

def Payment.Booked (payment later : Payment) : Prop :=
  ∃ middle, payment.Edits middle ∧ middle.Turn later

theorem Payment.Booked.sameDeal (booked : payment.Booked later) :
    payment.SameDeal later := by
  obtain ⟨middle, edits, turn⟩ := booked
  exact edits.sameDeal.trans turn.sameDeal

structure Order.Placed (order : Order) : Prop where
  pending : order.status = .pendingPayment
  unfunded : order.paidPaymentId = none

/-! ### Entries -/

/-- What only a turn may change. -/
structure SameAudit (before after : Journal) : Prop where
  orders : after.orders = before.orders
  orderItems : after.orderItems = before.orderItems
  failures : after.failures = before.failures
  reconciliationActions : after.reconciliationActions = before.reconciliationActions
  fulfillmentActions : after.fulfillmentActions = before.fulfillmentActions

theorem Entry.sameAudit (entry : Entry before after) : SameAudit before after := by
  cases entry <;> exact ⟨rfl, rfl, rfl, rfl, rfl⟩

theorem Entries.sameAudit (entries : Entries before after) : SameAudit before after := by
  induction entries with
  | refl => exact ⟨rfl, rfl, rfl, rfl, rfl⟩
  | tail _ entry ih =>
      have last := entry.sameAudit
      exact ⟨last.orders.trans ih.orders, last.orderItems.trans ih.orderItems,
        last.failures.trans ih.failures, last.reconciliationActions.trans ih.reconciliationActions,
        last.fulfillmentActions.trans ih.fulfillmentActions⟩

theorem Entry.payments (entry : Entry before after) :
    Table.Evolves Payment.Edits (fun _ => False) before.payments after.payments := by
  cases entry with
  | accounts users reviewers shippers => exact .refl (fun _ => .refl)
  | refunds refunds => exact .refl (fun _ => .refl)
  | edit id row change present edit =>
      exact .update (fun _ => .refl) present edit.id_eq (.single edit)

theorem Entries.payments (entries : Entries before after) :
    Table.Evolves Payment.Edits (fun _ => False) before.payments after.payments := by
  induction entries with
  | refl => exact .refl (fun _ => .refl)
  | tail _ entry ih =>
      exact ih.trans entry.payments (fun first second => first.trans second)
        (fun impossible _ => impossible) (fun impossible => impossible)

/-! ### Turns and payments -/

def Payment.Receives (payment later : Payment) : Prop :=
  later = payment ∨ ∃ now transaction, payment.status.isSettled = false ∧
    later = payment.settled now transaction

def Payment.Raises (payment later : Payment) : Prop :=
  later = payment ∨ ∃ reason detail, ¬ payment.Known reason detail ∧
    later = payment.flagged reason detail

theorem Payment.Receives.raises {payment middle later : Payment}
    (receives : payment.Receives middle) (raises : middle.Raises later) : payment.Turn later := by
  rcases receives with rfl | ⟨now, transaction, unsettled, rfl⟩
  · rcases raises with rfl | ⟨reason, detail, news, rfl⟩
    · exact .still
    · exact .flag reason detail news
  · rcases raises with rfl | ⟨reason, detail, news, rfl⟩
    · exact .settle now transaction unsettled
    · exact .settleFlagged now transaction reason detail unsettled news

theorem Raised.evolves {id : Int} {reason : ReconciliationReason} {detail : Option String}
    {payments flagged : Table Payment} (raised : Raised id reason detail payments flagged) :
    Table.Evolves Payment.Raises (fun _ => False) payments flagged := by
  cases raised with
  | news row present news =>
      exact .update (fun _ => Or.inl rfl) present rfl (Or.inr ⟨reason, detail, news, rfl⟩)
  | known row present known => exact .refl (fun _ => Or.inl rfl)

theorem Raised.known_after {id : Int} {reason : ReconciliationReason} {detail : Option String}
    {payments flagged : Table Payment} (raised : Raised id reason detail payments flagged) :
    ∃ payment, flagged.find? id = some payment ∧ payment.Known reason detail := by
  cases raised with
  | news row present news =>
      rw [payments.find?_update (Payment.flagged reason detail) present]
      exact ⟨_, Function.update_self .., rfl, rfl, rfl⟩
  | known row present known => exact ⟨row, present, known⟩

theorem Turn.payments (turn : Turn citation before after) :
    Table.Evolves Payment.Turn Payment.Blank before.payments after.payments := by
  have unchanged : Table.Evolves Payment.Turn Payment.Blank before.payments before.payments :=
    .refl (fun _ => .still)
  cases turn with
  | openPayment row order blank owner payable user amount currency fresh =>
      exact .insert (fun _ => .still) ⟨blank.status, blank.transaction, blank.actionType,
        blank.actionPayload, blank.reconciliationStatus, blank.reconciliationVersion,
        blank.leaseToken, blank.leaseUntil, blank.attempts⟩
  | place row items pending unfunded fresh kept added => exact unchanged
  | release id row present pending => exact unchanged
  | heal id payment row present pending => exact unchanged
  | settle id row now transaction orders payments failures present unsettled named fresh funds
      review =>
      rcases review with ⟨rfl, _⟩ | ⟨reason, detail, evidence, raised, _⟩
      · exact .update (fun _ => .still) present rfl (.settle now transaction unsettled)
      · have received : Table.Evolves Payment.Receives (fun _ => False) before.payments
            (before.payments.update id (Payment.settled now transaction)) :=
          .update (fun _ => Or.inl rfl) present rfl (Or.inr ⟨now, transaction, unsettled, rfl⟩)
        exact received.trans raised.evolves (fun first second => first.raises second)
          (fun impossible _ => impossible.elim) (fun impossible => impossible.elim)
  | flag id reason detail evidence payments failures raised about unresolved cited evidenced =>
      exact raised.evolves.mono (fun raises => Payment.Receives.raises (Or.inl rfl) raises)
        (fun impossible => impossible.elim)
  | refund id row orders refunds present received reversed =>
      exact .update (fun _ => .still) present rfl (.refund received)

theorem Audited.payments (audited : Audited before after) :
    Table.Evolves Payment.Turn Payment.Blank before.payments after.payments := by
  cases audited with
  | retry action row audits kind required toStatus =>
      exact .update (fun _ => .still) audits.present rfl (.retry required)
  | resolve action row now audits kind review toStatus =>
      exact .update (fun _ => .still) audits.present rfl (.resolve review)
  | fulfil action order funding audits => exact .refl (fun _ => .still)

theorem Booked.payments (booked : Booked citation before after) :
    Table.Evolves Payment.Booked Payment.Blank before.payments after.payments := by
  cases booked with
  | entries path =>
      exact path.payments.mono (fun edits => ⟨_, edits, .still⟩) (fun impossible => impossible.elim)
  | turned path turn =>
      exact path.payments.trans turn.payments (fun edits last => ⟨_, edits, last⟩)
        (fun impossible _ => impossible.elim) (fun blank => blank)
  | audited audited => exact audited.payments.mono (fun turn => ⟨_, .refl, turn⟩) (fun blank => blank)

/-! ### Turns and orders -/

theorem Turn.orders (turn : Turn citation before after) :
    Table.Evolves Order.Turn Order.Placed before.orders after.orders := by
  have unchanged : Table.Evolves Order.Turn Order.Placed before.orders before.orders :=
    .refl (fun _ => .still)
  cases turn with
  | openPayment row order blank owner payable user amount currency fresh => exact unchanged
  | place row items pending unfunded fresh kept added =>
      exact .insert (fun _ => .still) ⟨pending, unfunded⟩
  | release id row present pending =>
      exact .update (fun _ => .still) present rfl (.cancel pending)
  | heal id payment row present pending =>
      exact .update (fun _ => .still) present rfl (.pay payment pending)
  | settle id row now transaction orders payments failures present unsettled named fresh funds
      review =>
      rcases funds with rfl | ⟨order, owner, pending, rfl⟩
      · exact unchanged
      · exact .update (fun _ => .still) owner rfl (.pay id pending)
  | flag id reason detail evidence payments failures raised about unresolved cited evidenced =>
      exact unchanged
  | refund id row orders refunds present received reversed =>
      rcases reversed with rfl | ⟨orderId, order, owner, paid, rfl⟩
      · exact unchanged
      · exact .update (fun _ => .still) owner rfl (.refund paid)

theorem Audited.orders (audited : Audited before after) :
    Table.Evolves Order.Booked Order.Placed before.orders after.orders := by
  cases audited with
  | retry action row audits kind required toStatus => exact .refl (fun _ => .turn .still)
  | resolve action row now audits kind review toStatus => exact .refl (fun _ => .turn .still)
  | fulfil action order funding audits =>
      have keeps : (order.fulfilled action.action).id = order.id := by
        cases action.action <;> rfl
      exact .update (fun _ => .turn .still) audits.present keeps (.fulfil action.action audits.starts)

theorem Booked.orders (booked : Booked citation before after) :
    Table.Evolves Order.Booked Order.Placed before.orders after.orders := by
  cases booked with
  | entries path =>
      rw [path.sameAudit.orders]
      exact .refl (fun _ => .turn .still)
  | turned path turn =>
      rw [← path.sameAudit.orders]
      exact turn.orders.mono .turn (fun placed => placed)
  | audited audited => exact audited.orders

theorem Booked.orderItems (booked : Booked citation before after) {id : Int} {order : Order}
    (present : before.orders.find? id = some order) {item : OrderItem} (own : item.orderId = id) :
    item ∈ after.orderItems ↔ item ∈ before.orderItems := by
  cases booked with
  | entries path => rw [path.sameAudit.orderItems]
  | turned path turn =>
      rw [← path.sameAudit.orders] at present
      rw [← path.sameAudit.orderItems]
      cases turn with
      | place row items pending unfunded fresh kept added =>
          constructor
          · intro member
            rcases added item member with old | new
            · exact old
            · rw [own] at new
              rw [new, Table.find?_next] at present
              cases present
          · exact kept item
      | _ => exact Iff.rfl
  | audited audited => cases audited <;> exact Iff.rfl

/-! ### Statuses -/

/-- Edits compose to one move, since the moves are closed under composition. -/
theorem Payment.Edits.moves (edits : payment.Edits later) :
    later.status = payment.status ∨ payment.status.Moves later.status := by
  induction edits with
  | refl => exact Or.inl rfl
  | @tail middle last _ edit ih =>
      have step : last.status = middle.status ∨ middle.status.Moves last.status := by
        cases edit with
        | startClosing early => exact Or.inr (PaymentStatus.moves_closePending.mpr early)
        | close active => exact Or.inr (PaymentStatus.moves_closed.mpr active)
        | fail lastError active => exact Or.inr (PaymentStatus.moves_failed.mpr active)
        | claim now token lease creating free => exact Or.inl rfl
        | finalize token actionType actionPayload creating held =>
            right
            rw [creating]
            trivial
        | recordError token lastError unfinished held => exact Or.inl rfl
      rcases ih with same | moved
      · rw [← same]
        exact step
      · rcases step with same | further
        · rw [same]
          exact Or.inr moved
        · exact Or.inr (moved.trans further)

theorem Payment.Edits.transaction (edits : payment.Edits later) :
    later.thirdPartyTxId = payment.thirdPartyTxId := by
  induction edits with
  | refl => rfl
  | tail _ edit ih =>
      rw [← ih]
      cases edit <;> rfl

/-! ### Transactions of the provider -/

/-- No two payments of one channel carry the same transaction. -/
def TransactionsUnique (payments : Table Payment) : Prop :=
  ∀ left right leftRow rightRow transaction, payments.find? left = some leftRow →
    payments.find? right = some rightRow → leftRow.payChannel = rightRow.payChannel →
    leftRow.thirdPartyTxId = some transaction → rightRow.thirdPartyTxId = some transaction →
    left = right

def Payment.SameTransaction (payment later : Payment) : Prop :=
  later.thirdPartyTxId = payment.thirdPartyTxId ∧ later.payChannel = payment.payChannel

theorem TransactionsUnique.evolves {payments later : Table Payment}
    (unique : TransactionsUnique payments)
    (evolves : Table.Evolves Payment.SameTransaction (fun row => row.thirdPartyTxId = none) payments
      later) : TransactionsUnique later := by
  intro left right leftRow rightRow transaction leftFound rightFound channel leftTaken rightTaken
  rcases evolves.origin leftFound with ⟨leftOld, leftBefore, leftTx, leftChannel⟩ | ⟨_, leftFresh⟩
  · rcases evolves.origin rightFound with ⟨rightOld, rightBefore, rightTx, rightChannel⟩ |
      ⟨_, rightFresh⟩
    · exact unique _ _ _ _ _ leftBefore rightBefore (leftChannel.symm.trans (channel.trans rightChannel))
        (leftTx.symm.trans leftTaken) (rightTx.symm.trans rightTaken)
    · rw [rightFresh] at rightTaken
      cases rightTaken
  · rw [leftFresh] at leftTaken
    cases leftTaken

theorem TransactionsUnique.settle {payments : Table Payment} {id : Int} {row : Payment}
    {now : Time} {transaction : String} (unique : TransactionsUnique payments)
    (present : payments.find? id = some row)
    (fresh : ∀ other ∈ payments, other.id ≠ id → other.payChannel = row.payChannel →
      other.thirdPartyTxId ≠ some transaction) :
    TransactionsUnique (payments.update id (Payment.settled now transaction)) := by
  have lookup := payments.find?_update (Payment.settled now transaction) present
  have alone : ∀ {other otherRow}, payments.find? other = some otherRow → other ≠ id →
      otherRow.payChannel = row.payChannel → otherRow.thirdPartyTxId ≠ some transaction := by
    intro other otherRow found elsewhere channel
    have key : otherRow.id = other := Table.key_of_find? found
    exact fresh otherRow (Table.mem_of_find? found) (key ▸ elsewhere) channel
  intro left right leftRow rightRow taken leftFound rightFound channel leftTaken rightTaken
  rw [lookup] at leftFound rightFound
  rcases update_eq_some leftFound with ⟨rfl, rfl⟩ | ⟨leftElsewhere, leftBefore⟩
  · rcases update_eq_some rightFound with ⟨rfl, _⟩ | ⟨rightElsewhere, rightBefore⟩
    · rfl
    · cases leftTaken
      exact absurd rightTaken (alone rightBefore rightElsewhere channel.symm)
  · rcases update_eq_some rightFound with ⟨rfl, rfl⟩ | ⟨_, rightBefore⟩
    · cases rightTaken
      exact absurd leftTaken (alone leftBefore leftElsewhere channel)
    · exact unique _ _ _ _ _ leftBefore rightBefore channel leftTaken rightTaken

theorem Turn.transactionsUnique (turn : Turn citation before after)
    (unique : TransactionsUnique before.payments) : TransactionsUnique after.payments := by
  have raises : ∀ {row later : Payment}, row.Raises later → row.SameTransaction later := by
    rintro row later (rfl | ⟨reason, detail, _, rfl⟩) <;> exact ⟨rfl, rfl⟩
  cases turn with
  | openPayment row order blank owner payable user amount currency fresh =>
      exact unique.evolves (.insert (fun _ => ⟨rfl, rfl⟩) blank.transaction)
  | settle id row now transaction orders payments failures present unsettled named fresh funds
      review =>
      have recorded : TransactionsUnique
          (before.payments.update id (Payment.settled now transaction)) :=
        unique.settle present fresh
      rcases review with ⟨rfl, _⟩ | ⟨reason, detail, evidence, raised, _⟩
      · exact recorded
      · exact recorded.evolves (raised.evolves.mono raises (fun impossible => impossible.elim))
  | flag id reason detail evidence payments failures raised about unresolved cited evidenced =>
      exact unique.evolves (raised.evolves.mono raises (fun impossible => impossible.elim))
  | refund id row orders refunds present received reversed =>
      exact unique.evolves (.update (fun _ => ⟨rfl, rfl⟩) present rfl ⟨rfl, rfl⟩)
  | _ => exact unique

theorem Audited.transactionsUnique (audited : Audited before after)
    (unique : TransactionsUnique before.payments) : TransactionsUnique after.payments := by
  cases audited with
  | retry action row audits kind required toStatus =>
      exact unique.evolves (.update (fun _ => ⟨rfl, rfl⟩) audits.present rfl ⟨rfl, rfl⟩)
  | resolve action row now audits kind review toStatus =>
      exact unique.evolves (.update (fun _ => ⟨rfl, rfl⟩) audits.present rfl ⟨rfl, rfl⟩)
  | fulfil action order funding audits => exact unique

theorem Booked.transactionsUnique (booked : Booked citation before after)
    (unique : TransactionsUnique before.payments) : TransactionsUnique after.payments := by
  have edited : ∀ {middle}, Entries before middle → TransactionsUnique middle.payments :=
    fun path => unique.evolves (path.payments.mono
      (fun edits => ⟨edits.transaction, edits.sameDeal.payChannel⟩)
      (fun impossible => impossible.elim))
  cases booked with
  | entries path => exact edited path
  | turned path turn => exact turn.transactionsUnique (edited path)
  | audited audited => exact audited.transactionsUnique unique

/-! ### Audit rows -/

theorem Turn.sameActions (turn : Turn citation before after) :
    after.users = before.users ∧ after.reconciliationActions = before.reconciliationActions ∧
      after.fulfillmentActions = before.fulfillmentActions := by
  cases turn <;> exact ⟨rfl, rfl, rfl⟩

structure AuditGrows (before after : Journal) : Prop where
  reconciliation : before.reconciliationActions.rows <+: after.reconciliationActions.rows
  fulfillment : before.fulfillmentActions.rows <+: after.fulfillmentActions.rows

theorem AuditGrows.refl (journal : Journal) : AuditGrows journal journal :=
  ⟨List.prefix_refl _, List.prefix_refl _⟩

theorem AuditGrows.trans {middle : Journal} (left : AuditGrows before middle)
    (right : AuditGrows middle after) : AuditGrows before after :=
  ⟨left.reconciliation.trans right.reconciliation, left.fulfillment.trans right.fulfillment⟩

theorem Booked.auditGrows (booked : Booked citation before after) : AuditGrows before after := by
  have entered : ∀ {middle}, Entries before middle → AuditGrows before middle := by
    intro middle path
    have same := path.sameAudit
    exact ⟨same.reconciliationActions ▸ List.prefix_refl _,
      same.fulfillmentActions ▸ List.prefix_refl _⟩
  cases booked with
  | entries path => exact entered path
  | turned path turn =>
      obtain ⟨_, reconciliation, fulfillment⟩ := turn.sameActions
      exact (entered path).trans
        ⟨reconciliation ▸ List.prefix_refl _, fulfillment ▸ List.prefix_refl _⟩
  | audited audited =>
      cases audited with
      | retry action row audits kind required toStatus =>
          exact ⟨List.prefix_append _ _, List.prefix_refl _⟩
      | resolve action row now audits kind review toStatus =>
          exact ⟨List.prefix_append _ _, List.prefix_refl _⟩
      | fulfil action order funding audits =>
          exact ⟨List.prefix_refl _, List.prefix_append _ _⟩

structure ActorsKnown (journal : Journal) : Prop where
  reviewers : ∀ action ∈ journal.reconciliationActions,
    (journal.users.find? action.actorId).isSome = true
  shippers : ∀ action ∈ journal.fulfillmentActions,
    (journal.users.find? action.actorId).isSome = true

theorem Entries.actorsKnown (entries : Entries before after) (known : ActorsKnown before) :
    ActorsKnown after := by
  induction entries with
  | refl => exact known
  | tail _ entry ih =>
      cases entry with
      | accounts users reviewers shippers => exact ⟨reviewers, shippers⟩
      | refunds refunds => exact ⟨ih.reviewers, ih.shippers⟩
      | edit id row change present edit => exact ⟨ih.reviewers, ih.shippers⟩

theorem Audited.actorsKnown (audited : Audited before after) (known : ActorsKnown before) :
    ActorsKnown after := by
  cases audited with
  | retry action row audits kind required toStatus =>
      refine ⟨fun other member => ?_, known.shippers⟩
      rcases Table.mem_insert.mp member with old | rfl
      · exact known.reviewers other old
      · exact audits.actor
  | resolve action row now audits kind review toStatus =>
      refine ⟨fun other member => ?_, known.shippers⟩
      rcases Table.mem_insert.mp member with old | rfl
      · exact known.reviewers other old
      · exact audits.actor
  | fulfil action order funding audits =>
      refine ⟨known.reviewers, fun other member => ?_⟩
      rcases Table.mem_insert.mp member with old | rfl
      · exact known.shippers other old
      · exact audits.actor

theorem Booked.actorsKnown (booked : Booked citation before after) (known : ActorsKnown before) :
    ActorsKnown after := by
  cases booked with
  | entries path => exact path.actorsKnown known
  | turned path turn =>
      have middle := path.actorsKnown known
      obtain ⟨users, reconciliation, fulfillment⟩ := turn.sameActions
      constructor
      · rw [users, reconciliation]
        exact middle.reviewers
      · rw [users, fulfillment]
        exact middle.shippers
  | audited audited => exact audited.actorsKnown known

end Mall
