/-
What no transaction takes back from a payment, and which ones end it.

A payment leaves its creating state once, and from then on its action and its
count of prepay attempts stand.  Only the answer of a provider closes a payment;
apart from that answer, only a payment that was never dispatched fails.
-/

import Mall.JournalHistory
import Mall.PaymentRuns
import Mall.Refinement.Journal

namespace Mall

open Relational Transactional

variable {db result : Database} {payment middle later : Payment}

/-! ### What stays -/

structure Payment.Carried (payment later : Payment) : Prop where
  deal : payment.SameDeal later
  attempts : payment.prepayAttempts ≤ later.prepayAttempts
  early : later.status = .creating → payment.status = .creating ∧ later.action = payment.action
  left : payment.status ≠ .creating →
    later.action = payment.action ∧ later.prepayAttempts = payment.prepayAttempts

theorem Payment.Carried.refl (payment : Payment) : payment.Carried payment :=
  ⟨.refl payment, le_refl _, fun creating => ⟨creating, rfl⟩, fun _ => ⟨rfl, rfl⟩⟩

theorem Payment.Carried.status_ne (carried : payment.Carried later)
    (gone : payment.status ≠ .creating) : later.status ≠ .creating :=
  fun creating => gone (carried.early creating).1

theorem Payment.Carried.trans (first : payment.Carried middle) (second : middle.Carried later) :
    payment.Carried later := by
  refine ⟨first.deal.trans second.deal, first.attempts.trans second.attempts, ?_, ?_⟩
  · intro creating
    obtain ⟨between, same⟩ := second.early creating
    obtain ⟨before, kept⟩ := first.early between
    exact ⟨before, same.trans kept⟩
  · intro gone
    obtain ⟨action, attempts⟩ := second.left (first.status_ne gone)
    obtain ⟨kept, counted⟩ := first.left gone
    exact ⟨action.trans kept, attempts.trans counted⟩

theorem Payment.Edit.carried (edit : payment.Edit later) : payment.Carried later := by
  have deal : payment.SameDeal later := Payment.Edits.sameDeal (.single edit)
  cases edit with
  | startClosing early => exact ⟨deal, le_refl _, nofun, fun _ => ⟨rfl, rfl⟩⟩
  | close active => exact ⟨deal, le_refl _, nofun, fun _ => ⟨rfl, rfl⟩⟩
  | fail lastError active => exact ⟨deal, le_refl _, nofun, fun _ => ⟨rfl, rfl⟩⟩
  | claim now token lease creating free =>
      exact ⟨deal, Int.le_add_of_nonneg_right (by decide), fun still => ⟨still, rfl⟩,
        fun gone => absurd creating gone⟩
  | finalize token actionType actionPayload creating held =>
      exact ⟨deal, le_refl _, nofun, fun gone => absurd creating gone⟩
  | recordError token lastError unfinished held =>
      exact ⟨deal, le_refl _, fun still => ⟨still, rfl⟩, fun _ => ⟨rfl, rfl⟩⟩

theorem Payment.Edits.carried (edits : payment.Edits later) : payment.Carried later := by
  induction edits with
  | refl => exact .refl payment
  | tail _ edit ih => exact ih.trans edit.carried

theorem Payment.Turn.carried (turn : payment.Turn later) : payment.Carried later := by
  have deal := turn.sameDeal
  cases turn with
  | still => exact .refl payment
  | settle now transaction unsettled => exact ⟨deal, le_refl _, nofun, fun _ => ⟨rfl, rfl⟩⟩
  | flag reason detail news =>
      exact ⟨deal, le_refl _, fun still => ⟨still, rfl⟩, fun _ => ⟨rfl, rfl⟩⟩
  | settleFlagged now transaction reason detail unsettled news =>
      exact ⟨deal, le_refl _, nofun, fun _ => ⟨rfl, rfl⟩⟩
  | refund received => exact ⟨deal, le_refl _, nofun, fun _ => ⟨rfl, rfl⟩⟩
  | retry required => exact ⟨deal, le_refl _, fun still => ⟨still, rfl⟩, fun _ => ⟨rfl, rfl⟩⟩
  | resolve review => exact ⟨deal, le_refl _, fun still => ⟨still, rfl⟩, fun _ => ⟨rfl, rfl⟩⟩

theorem Payment.Booked.carried (booked : payment.Booked later) : payment.Carried later := by
  obtain ⟨middle, edits, turn⟩ := booked
  exact edits.carried.trans turn.carried

structure Order.SameTerms (order later : Order) : Prop where
  total : later.totalAmountMinor = order.totalAmountMinor
  currency : later.currency = order.currency

theorem Order.SameTerms.trans {order between last : Order} (first : order.SameTerms between)
    (second : between.SameTerms last) : order.SameTerms last :=
  ⟨second.total.trans first.total, second.currency.trans first.currency⟩

theorem Order.Booked.sameTerms {order last : Order} (booked : order.Booked last) :
    order.SameTerms last := by
  cases booked with
  | turn turn => cases turn <;> exact ⟨rfl, rfl⟩
  | fulfil kind starts => cases kind <;> exact ⟨rfl, rfl⟩

/-- A payment that is still being created has no action. -/
structure Payment.Regular (payment : Payment) : Prop where
  action : payment.status = .creating → payment.action = none
  attempts : 0 ≤ payment.prepayAttempts

theorem Payment.Blank.regular (blank : payment.Blank) : payment.Regular := by
  refine ⟨?_, ?_⟩
  · intro _
    rw [Payment.action, blank.actionType]
    rfl
  · rw [blank.attempts]

theorem Payment.Regular.carried (regular : payment.Regular) (carried : payment.Carried later) :
    later.Regular := by
  refine ⟨?_, regular.attempts.trans carried.attempts⟩
  intro creating
  obtain ⟨early, same⟩ := carried.early creating
  exact same.trans (regular.action early)

/-- What every later state keeps of the payments and orders of an earlier one. -/
structure Carried (db result : Database) : Prop where
  payments : Table.Evolves Payment.Carried Payment.Regular db.payments result.payments
  orders : ∀ {id order}, db.orders.find? id = some order →
    ∃ last, result.orders.find? id = some last ∧ order.SameTerms last

theorem Carried.refl (db : Database) : Carried db db :=
  ⟨.refl Payment.Carried.refl, fun present => ⟨_, present, rfl, rfl⟩⟩

theorem Carried.trans {between : Database} (first : Carried db between)
    (second : Carried between result) : Carried db result := by
  refine ⟨first.payments.trans second.payments Payment.Carried.trans Payment.Regular.carried
    (fun regular => regular), ?_⟩
  intro id order present
  obtain ⟨middle, found, terms⟩ := first.orders present
  obtain ⟨last, stored, further⟩ := second.orders found
  exact ⟨last, stored, terms.trans further⟩

theorem next_carried (operation : Operation) (sound : db.ledger.Sound) :
    Carried db (next operation db) := by
  have booked := next_booked operation sound
  refine ⟨booked.payments.mono Payment.Booked.carried Payment.Blank.regular, ?_⟩
  intro id order present
  obtain ⟨last, found, moved⟩ := booked.orders.kept present
  exact ⟨last, found, moved.sameTerms⟩

theorem Reached.regular (reached : Reached db) {id : Int} {row : Payment}
    (present : db.payments.find? id = some row) : row.Regular := by
  have starts : ∀ start : Database, Initial start → ∀ {id row},
      start.payments.find? id = some row → row.Regular := by
    intro start initial id row present
    rw [Table.find?_of_empty initial.noPayments] at present
    cases present
  have holds : ∀ {id row}, db.payments.find? id = some row → row.Regular := by
    refine Reachable.invariant (motive := fun state => ∀ {id row},
      state.payments.find? id = some row → row.Regular) starts ?_ reached
    intro state operation before regular id row present
    have carried := next_carried operation (Reached.valid before).sound
    rcases carried.payments.origin present with ⟨earlier, found, kept⟩ | ⟨_, fresh⟩
    · exact (regular found).carried kept
    · exact fresh
  exact holds present

/-! ### What ends a payment -/

/-- Nothing was ever asked of the provider and nothing was handed out. -/
structure Payment.Undispatched (payment : Payment) : Prop where
  action : payment.action = none
  attempts : payment.prepayAttempts = 0

/-- The row was not closed; if it failed, it was never dispatched. -/
structure Payment.Held (payment later : Payment) : Prop where
  closed : later.status = .closed → payment.status = .closed
  failed : later.status = .failed →
    (payment.status = .failed ∧ later.action = payment.action ∧
      later.prepayAttempts = payment.prepayAttempts) ∨ later.Undispatched

theorem Payment.Held.refl (payment : Payment) : payment.Held payment :=
  ⟨fun closed => closed, fun failed => Or.inl ⟨failed, rfl, rfl⟩⟩

theorem Payment.Held.trans (first : payment.Held middle) (second : middle.Held later) :
    payment.Held later := by
  refine ⟨fun closed => first.closed (second.closed closed), ?_⟩
  intro failed
  rcases second.failed failed with ⟨between, action, attempts⟩ | undispatched
  · rcases first.failed between with ⟨before, kept, counted⟩ | never
    · exact Or.inl ⟨before, action.trans kept, attempts.trans counted⟩
    · exact Or.inr ⟨action.trans never.action, attempts.trans never.attempts⟩
  · exact Or.inr undispatched

theorem Payment.Held.of_status (alive : later.status ≠ .closed ∧ later.status ≠ .failed) :
    payment.Held later :=
  ⟨fun closed => absurd closed alive.1, fun failed => absurd failed alive.2⟩

theorem Payment.Turn.held (turn : payment.Turn later) : payment.Held later := by
  cases turn with
  | still => exact .refl payment
  | settle now transaction unsettled => exact .of_status ⟨nofun, nofun⟩
  | flag reason detail news => exact ⟨fun closed => closed, fun failed => Or.inl ⟨failed, rfl, rfl⟩⟩
  | settleFlagged now transaction reason detail unsettled news => exact .of_status ⟨nofun, nofun⟩
  | refund received => exact .of_status ⟨nofun, nofun⟩
  | retry required => exact ⟨fun closed => closed, fun failed => Or.inl ⟨failed, rfl, rfl⟩⟩
  | resolve review => exact ⟨fun closed => closed, fun failed => Or.inl ⟨failed, rfl, rfl⟩⟩

structure Payment.Opened (payment : Payment) : Prop where
  closed : payment.status ≠ .closed
  failed : payment.status = .failed → payment.Undispatched

theorem Payment.Opened.held (opened : payment.Opened) (held : payment.Held later) :
    later.Opened := by
  refine ⟨fun closed => opened.closed (held.closed closed), ?_⟩
  intro failed
  rcases held.failed failed with ⟨before, action, attempts⟩ | undispatched
  · have never := opened.failed before
    exact ⟨action.trans never.action, attempts.trans never.attempts⟩
  · exact undispatched

theorem Payment.undispatched_of_unsupported
    (unsupported : unsupportedPaymentNeverDispatched payment = true) : payment.Undispatched := by
  simp only [unsupportedPaymentNeverDispatched, Bool.and_eq_true] at unsupported
  obtain ⟨⟨⟨⟨⟨⟨⟨⟨_, attempts⟩, _⟩, _⟩, action⟩, _⟩, _⟩, _⟩, _⟩ := unsupported
  refine ⟨?_, beq_iff_eq.mp attempts⟩
  rw [Payment.action, Option.isNone_iff_eq_none.mp action]
  rfl

/-! ### Answers of the provider -/

/-- The row that an answer is about passed the check of synthesized closures. -/
theorem applyPayQuery_confirmed {clock : Clock} {args : CheckPayArgs}
    {answer : Option PaymentQueryResult} (done : applyPayQuery clock args answer db = .ok result) :
    ∃ row, db.payments.find? args.paymentID = some row ∧
      confirmUnissued clock args row answer = .ok () := by
  unfold applyPayQuery at done
  obtain ⟨snapshot, present, done⟩ := bind_eq_ok.mp done
  obtain ⟨order, owner, done⟩ := bind_eq_ok.mp done
  obtain ⟨row, chosen, done⟩ := bind_eq_ok.mp done
  obtain ⟨_, locked, same⟩ := applyPayQuery_locked (found_eq_ok.mp present) (found_eq_ok.mp owner)
    (found_eq_ok.mp chosen)
  obtain ⟨_, confirmed, done⟩ := bind_eq_ok.mp done
  exact ⟨row, same ▸ locked.foundPayment, confirmed⟩

inductive Payment.EndedBy (state : TradeState) (later : Payment) : Prop
  | closed (said : state = .closed ∨ state = .revoked) (status : later.status = .closed)
  | failed (said : state = .payError) (status : later.status = .failed)

/-- What a transaction makes of a payment: it ends the one that its answer is about, or it
holds the row. -/
structure Payment.Moved (answer : Option (Int × TradeState)) (payment later : Payment) :
    Prop where
  id : later.id = payment.id
  outcome : payment.Held later ∨ ∃ state, answer = some (payment.id, state) ∧ later.EndedBy state

variable {answer : Option (Int × TradeState)}

theorem Payment.Moved.refl (payment : Payment) : payment.Moved answer payment :=
  ⟨rfl, .inl (.refl payment)⟩

theorem Payment.Moved.held (moved : payment.Moved answer later) (unanswered : answer = none) :
    payment.Held later := by
  rcases moved.outcome with held | ⟨state, answered, _⟩
  · exact held
  · rw [unanswered] at answered
    cases answered

theorem Payment.EndedBy.held {state : TradeState} (ended : middle.EndedBy state)
    (held : middle.Held later) : payment.Held later ∨ later.EndedBy state := by
  by_cases closed : later.status = .closed
  · have before := held.closed closed
    cases ended with
    | closed said status => exact .inr (.closed said closed)
    | failed said status => cases status.symm.trans before
  · by_cases failed : later.status = .failed
    · rcases held.failed failed with ⟨before, _, _⟩ | undispatched
      · cases ended with
        | closed said status => cases status.symm.trans before
        | failed said status => exact .inr (.failed said failed)
      · exact .inl ⟨fun shut => absurd shut closed, fun _ => .inr undispatched⟩
    · exact .inl (.of_status ⟨closed, failed⟩)

theorem Payment.Moved.trans (first : payment.Moved answer middle)
    (second : middle.Moved answer later) : payment.Moved answer later := by
  refine ⟨second.id.trans first.id, ?_⟩
  rcases second.outcome with held | ⟨state, answered, ended⟩
  · rcases first.outcome with before | ⟨state, answered, ended⟩
    · exact .inl (before.trans held)
    · exact (ended.held held).imp_right (fun ended => ⟨state, answered, ended⟩)
  · exact .inr ⟨state, first.id ▸ answered, ended⟩

end Mall
