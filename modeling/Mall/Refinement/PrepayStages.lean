/-
The stages of a prepay run.

A stage leaves the database alone or commits one transaction.  What a run holds on
to is still there when it goes on, its call asks for what the order says, and what
it hands out is on record.
-/

import Mall.Refinement.PaymentRows

namespace Mall

open Relational Transactional

variable {db result : Database} {policy : PaymentPolicy}

/-! ### Rows that the transactions return -/

theorem PrepaySurroundings.transact_eq_ok {α : Type} {around : PrepaySurroundings}
    {body : Except Fault α} {value : α} (done : around.transact body = .ok value) :
    body = .ok value := by
  unfold PrepaySurroundings.transact at done
  split at done
  · exact done
  · cases done

structure OnTerms (db : Database) (orderID amount : Int) (currency : String) (payment : Payment) :
    Prop where
  stored : db.payments.find? payment.id = some payment
  owner : payment.orderId = orderID
  order : ∃ order, db.orders.find? orderID = some order ∧ order.totalAmountMinor = amount ∧
    order.currency = currency

private theorem reusablePayment_mem {method : String} {rows : List Payment} {payment : Payment}
    (reused : reusablePayment method rows = .ok (some payment)) : payment ∈ rows := by
  induction rows with
  | nil => cases reused
  | cons row rest ih =>
      rw [reusablePayment] at reused
      split at reused
      · cases reused
      · split at reused
        · cases reused
        · split at reused
          · split at reused
            · cases reused
              exact List.mem_cons_self
            · cases reused
          · exact List.mem_cons_of_mem _ (ih reused)

private theorem openPayment_onTerms {args : CreatePaymentArgs} {now : Time} {payment : Payment}
    (done : openPayment args now db = .ok (payment, result)) :
    OnTerms result args.orderID args.amount args.currency payment := by
  unfold openPayment at done
  obtain ⟨order, present, done⟩ := bind_eq_ok.mp done
  obtain ⟨_, matching, done⟩ := bind_eq_ok.mp done
  obtain ⟨_, _, done⟩ := bind_eq_ok.mp done
  obtain ⟨_, _, done⟩ := bind_eq_ok.mp done
  obtain ⟨_, _, done⟩ := bind_eq_ok.mp done
  obtain ⟨⟨rows, recovered⟩, recovery, done⟩ := bind_eq_ok.mp done
  obtain ⟨reusable, scan, done⟩ := bind_eq_ok.mp done
  have known := recoverUnsupportedPayments_recovered
    (listPaymentsByOrderForUpdate_current db order.id) recovery
  have owner : db.orders.find? args.orderID = some order := found_eq_ok.mp present
  have key : order.id = args.orderID := Table.key_of_find? owner
  obtain ⟨_, amount, currency⟩ := require_eq_ok.mp matching
  have terms : ∃ order, recovered.orders.find? args.orderID = some order ∧
      order.totalAmountMinor = args.amount ∧ order.currency = args.currency := by
    refine ⟨order, ?_, amount, currency⟩
    rw [known.frame]
    exact owner
  cases reusable with
  | some existing =>
      cases pure_eq_ok.mp done
      have member := reusablePayment_mem scan
      exact ⟨known.found _ member, (known.sameOrder member).trans key, terms⟩
  | none =>
      unfold Database.createPaymentWithOutTradeNo at done
      obtain ⟨_, _, done⟩ := bind_eq_ok.mp done
      obtain ⟨_, _, done⟩ := bind_eq_ok.mp done
      cases pure_eq_ok.mp done
      refine ⟨?_, rfl, terms⟩
      change (recovered.payments.insert (newPayment args now)).find? _ = _
      rw [Table.find?_insert]
      exact Function.update_self ..

private theorem openPayment_refused {args : CreatePaymentArgs} {now : Time}
    (fails : openPayment args now db =
      .error (Fault.uniqueViolation "idx_payments_one_active_per_order")) :
    ∃ order, db.orders.find? args.orderID = some order ∧ order.totalAmountMinor = args.amount ∧
      order.currency = args.currency := by
  unfold openPayment at fails
  obtain ⟨order, present, fails⟩ := Avoids.of_bind fails (.found nofun)
  obtain ⟨_, matching, fails⟩ := Avoids.of_bind fails (.require nofun)
  obtain ⟨_, amount, currency⟩ := require_eq_ok.mp matching
  exact ⟨order, found_eq_ok.mp present, amount, currency⟩

private theorem createPayment_onTerms {args : CreatePaymentArgs} {now : Time} {payment : Payment}
    (done : createPayment args now db = .ok (payment, result)) :
    OnTerms result args.orderID args.amount args.currency payment := by
  unfold createPayment at done
  split at done
  · next opened =>
      cases done
      exact openPayment_onTerms opened
  · next fault fails =>
      split at done
      · next refused =>
        subst refused
        split at done
        · next existing active =>
          split at done
          · cases done
            have listed := Database.mem_listPaymentsByOrderForUpdate.mp
              (List.mem_of_find?_eq_some active)
            exact ⟨Table.find?_key listed.1, listed.2, openPayment_refused fails⟩
          · cases done
        · cases done
      · cases done

private theorem updatePayment_stored {id : Int} {guard : Payment → Bool}
    {change : Payment → Payment}
    {changed : Payment} (updated : db.updatePayment id guard change = some (changed, result)) :
    changed.id = id ∧ result.payments.find? id = some changed := by
  obtain ⟨row, present, _, rfl, rfl⟩ := Database.updatePayment_eq_some.mp updated
  refine ⟨rfl, ?_⟩
  change (db.payments.update id change).find? id = _
  rw [Table.find?_update_self, present]
  rfl

/-! ### Commits -/

/-- Nothing happened, or one transaction of the allowed kinds was committed. -/
def AtMostOne (allowed : Operation → Prop) (db result : Database) : Prop :=
  result = db ∨ ∃ operation, allowed operation ∧ execute operation db = .ok result

section Commits

variable {allowed : Operation → Prop}

theorem AtMostOne.of_next (operation : Operation) (kind : allowed operation) (db : Database) :
    AtMostOne allowed db (next operation db) := by
  rcases commit_cases (execute operation) db with same | done
  · exact Or.inl same
  · exact Or.inr ⟨operation, kind, done⟩

theorem AtMostOne.mono {wider : Operation → Prop} (one : AtMostOne allowed db result)
    (wide : ∀ operation, allowed operation → wider operation) : AtMostOne wider db result := by
  rcases one with same | ⟨operation, kind, done⟩
  · exact Or.inl same
  · exact Or.inr ⟨operation, wide operation kind, done⟩

theorem AtMostOne.carried (one : AtMostOne allowed db result) (reached : Reached db) :
    Carried db result := by
  rcases one with rfl | ⟨operation, _, done⟩
  · exact .refl _
  · rw [← commit_of_ok done]
    exact next_carried operation reached.valid.sound

theorem AtMostOne.reached (one : AtMostOne allowed db result) (reached : Reached db) :
    Reached result := by
  rcases one with rfl | ⟨operation, _, done⟩
  · exact reached
  · rw [← commit_of_ok done]
    exact reached.step operation

end Commits

def Operation.Plain (operation : Operation) : Prop :=
  operation.appliesAnswer = false

private theorem enqueuePoll_commits (poll : Option (CheckPayArgs × Option Time)) (db : Database) :
    AtMostOne Operation.Plain db (enqueuePoll poll db) := by
  cases poll with
  | none => exact Or.inl rfl
  | some job => exact Or.inr ⟨.enqueueJob (.checkPay job.1) job.2, rfl, rfl⟩

theorem PrepayRun.advance_commits (policy : PaymentPolicy) (around : PrepaySurroundings)
    (run : PrepayRun) (db : Database) :
    AtMostOne Operation.Plain db (run.advance policy around db).2 := by
  unfold PrepayRun.advance
  split
  · next outTradeNo stage =>
      split
      · exact Or.inl rfl
      · next payment created done =>
          have committed : execute (.createPayment (run.createArgs outTradeNo)
              around.clock.database) db = .ok created :=
            map_eq_ok.mpr ⟨_, PrepaySurroundings.transact_eq_ok done, rfl⟩
          have one : AtMostOne Operation.Plain db created :=
            Or.inr ⟨.createPayment _ _, rfl, committed⟩
          split
          · exact one
          · split
            · exact one
            · exact one
  · next payment stage =>
      split
      · exact Or.inl rfl
      · exact Or.inl rfl
      · next claimed leased done =>
          have update := Except.ok.inj (PrepaySurroundings.transact_eq_ok done)
          refine Or.inr ⟨.claimPaymentPrepay around.clock payment.id around.token
            policy.prepayLeaseDuration, rfl, ?_⟩
          rw [execute, claimPaymentPrepay, update]
          rfl
  · split
    · exact Or.inl rfl
    · exact Or.inl rfl
  · exact Or.inl rfl
  · next payment token prepay stage =>
      split
      · exact Or.inl rfl
      · exact Or.inl rfl
      · next activated stored done =>
          have update := Except.ok.inj (PrepaySurroundings.transact_eq_ok done)
          refine Or.inr ⟨.activatePayment payment.id token prepay.actionType prepay.payload
            (run.poll policy around.clock activated.id), rfl, ?_⟩
          rw [execute, activatePayment, finalizePaymentPrepay, update, ok_bind]
          cases run.poll policy around.clock activated.id <;> rfl
  · split
    · exact Or.inl rfl
    · exact enqueuePoll_commits _ db
  · next payment token cause stage =>
      dsimp only
      split
      · exact Or.inr ⟨.recordPaymentPrepayError payment.id token (around.errorText cause), rfl, rfl⟩
      · exact Or.inl rfl

/-! ### What runs hold on to -/

def PrepayStage.payment : PrepayStage → Option Payment
  | .create _ => none
  | .claim payment | .reclaim payment | .call payment _ | .finalize payment _ _
  | .reread payment _ _ | .record payment _ _ => some payment

/-- The deal of a payment is on record, and the order was loaded on its terms. -/
structure PrepayRun.Backs (db : Database) (run : PrepayRun) (payment : Payment) : Prop where
  stored : ∃ row, db.payments.find? payment.id = some row ∧ payment.SameDeal row
  order : ∃ order, db.orders.find? payment.orderId = some order ∧
    order.totalAmountMinor = run.order.totalAmountMinor ∧ order.currency = run.order.currency

theorem PrepayRun.Backs.carried {run : PrepayRun} {payment : Payment} (backs : run.Backs db payment)
    (carried : Carried db result) : run.Backs result payment := by
  obtain ⟨⟨row, present, deal⟩, order, owner, total, currency⟩ := backs
  obtain ⟨later, found, kept⟩ := carried.payments.kept present
  obtain ⟨last, stored, terms⟩ := carried.orders owner
  exact ⟨⟨later, found, deal.trans kept.deal⟩, last, stored, terms.total.trans total,
    terms.currency.trans currency⟩

def Claimed (db : Database) (id : Int) : Prop :=
  ∃ row, db.payments.find? id = some row ∧ 0 < row.prepayAttempts

theorem Claimed.carried {id : Int} (claimed : Claimed db id) (carried : Carried db result) :
    Claimed result id := by
  obtain ⟨row, present, positive⟩ := claimed
  obtain ⟨later, found, kept⟩ := carried.payments.kept present
  exact ⟨later, found, lt_of_lt_of_le positive kept.attempts⟩

/-- What a stage needs beside its payment: a lease was taken before the gateway is
called, and only a usable answer is stored. -/
def PrepayStage.Ready (db : Database) : PrepayStage → Prop
  | .call payment _ => Claimed db payment.id
  | .finalize _ _ prepay => prepay.usable = true
  | _ => True

theorem PrepayStage.Ready.carried {stage : PrepayStage} (ready : stage.Ready db)
    (carried : Carried db result) : stage.Ready result := by
  cases stage with
  | call payment token => exact Claimed.carried ready carried
  | finalize payment token prepay => exact ready
  | _ => trivial

structure PrepayRun.Fits (db : Database) (run : PrepayRun) : Prop where
  backed : ∀ payment, run.stage.payment = some payment → run.Backs db payment
  ready : run.stage.Ready db

theorem PrepayRun.Fits.carried {run : PrepayRun} (fits : run.Fits db)
    (carried : Carried db result) : run.Fits result :=
  ⟨fun payment holds => (fits.backed payment holds).carried carried, fits.ready.carried carried⟩

/-- The result carries the action that the row has. -/
structure PrepayForOrderResult.Recorded (db : Database) (answer : PrepayForOrderResult) : Prop where
  named : answer.action.isSome = true
  stored : ∃ row, db.payments.find? answer.payment.id = some row ∧ row.action = answer.action

theorem Payment.Regular.left {row : Payment} (regular : row.Regular)
    (acting : row.action.isSome = true) : row.status ≠ .creating := by
  intro creating
  rw [regular.action creating] at acting
  cases acting

theorem PrepayForOrderResult.Recorded.carried {answer : PrepayForOrderResult}
    (recorded : answer.Recorded db) (reached : Mall.Reached db) (carried : Carried db result) :
    answer.Recorded result := by
  obtain ⟨row, present, same⟩ := recorded.stored
  obtain ⟨later, found, kept⟩ := carried.payments.kept present
  have left := (reached.regular present).left (same ▸ recorded.named)
  exact ⟨recorded.named, later, found, (kept.left left).1.trans same⟩

/-! ### One stage -/

theorem Payment.issued_action {row : Payment} (issued : row.issued = true) :
    row.action.isSome = true := by
  have named := (Bool.and_eq_true_iff.mp issued).2
  rw [Payment.action, Option.isSome_map]
  exact named

private theorem reloadClaim_stored {now : Time} {id : Int} {current : Payment}
    (done : reloadClaim now id db = .ok current) :
    db.payments.find? id = some current ∧ current.issued = true := by
  unfold reloadClaim at done
  obtain ⟨row, present, done⟩ := bind_eq_ok.mp done
  split at done
  · next issued =>
      cases pure_eq_ok.mp done
      exact ⟨found_eq_ok.mp present, issued⟩
  · split at done <;> cases done

private theorem reloadFinalized_stored {id : Int} {current : Payment}
    (done : reloadFinalized id db = .ok current) :
    db.payments.find? id = some current ∧ current.issued = true := by
  unfold reloadFinalized at done
  obtain ⟨row, present, done⟩ := bind_eq_ok.mp done
  obtain ⟨_, issued, done⟩ := bind_eq_ok.mp done
  cases pure_eq_ok.mp done
  exact ⟨found_eq_ok.mp present, require_eq_ok.mp issued⟩

theorem find?_own {id : Int} {row : Payment} (present : db.payments.find? id = some row) :
    db.payments.find? row.id = some row := by
  have key : row.id = id := Table.key_of_find? present
  rw [key]
  exact present

private theorem enqueuePoll_payments (poll : Option (CheckPayArgs × Option Time)) (db : Database) :
    (enqueuePoll poll db).payments = db.payments := by
  cases poll with
  | none => rfl
  | some job => exact congrArg Journal.payments (enqueue_clerical db _ _).journal

private theorem gatewayProgress_payment (payment : Payment) (token : String)
    (answer : Except Fault (Option PaymentPrepayResult)) :
    (gatewayProgress payment token answer).payment = some payment := by
  unfold gatewayProgress
  split
  · rfl
  · rfl
  · split <;> rfl

/-- What a run hands out is on record when it does. -/
theorem PrepayRun.advance_answered {around : PrepaySurroundings} {run : PrepayRun}
    {answer : PrepayForOrderResult} (fits : run.Fits db)
    (answered : (run.advance policy around db).1 = .answered (.ok answer)) :
    answer.Recorded (run.advance policy around db).2 := by
  unfold PrepayRun.advance at answered ⊢
  cases stage : run.stage with
  | create outTradeNo =>
      rw [stage] at answered
      dsimp only at answered ⊢
      split at answered
      · cases answered
      · next payment created done =>
          have terms := createPayment_onTerms (PrepaySurroundings.transact_eq_ok done)
          split at answered
          · next issued =>
              cases answered
              rw [if_pos issued]
              exact ⟨Payment.issued_action issued, payment, terms.stored, rfl⟩
          · split at answered <;> cases answered
  | claim payment =>
      rw [stage] at answered
      dsimp only at answered ⊢
      split at answered
      · cases answered
      · cases answered
      · next claimed leased done =>
          have update := Except.ok.inj (PrepaySurroundings.transact_eq_ok done)
          obtain ⟨own, stored⟩ := updatePayment_stored update
          unfold claimProgress at answered
          split at answered
          · next issued =>
              cases answered
              exact ⟨Payment.issued_action issued, claimed, own ▸ stored, rfl⟩
          · cases answered
  | reclaim payment =>
      rw [stage] at answered
      dsimp only at answered ⊢
      split at answered
      · cases answered
      · next current done =>
          obtain ⟨stored, issued⟩ := reloadClaim_stored (PrepaySurroundings.transact_eq_ok done)
          rw [claimProgress, if_pos issued] at answered
          cases answered
          exact ⟨Payment.issued_action issued, current, find?_own stored, rfl⟩
  | call payment token =>
      rw [stage] at answered
      cases answered
  | finalize payment token prepay =>
      rw [stage] at answered
      dsimp only at answered ⊢
      split at answered
      · cases answered
      · cases answered
      · next activated stored done =>
          have update := Except.ok.inj (PrepaySurroundings.transact_eq_ok done)
          have ready := fits.ready
          rw [stage] at ready
          have named := (Bool.and_eq_true_iff.mp ready).1
          obtain ⟨own, found⟩ := updatePayment_stored update
          obtain ⟨row, _, _, rfl, _⟩ := Database.updatePayment_eq_some.mp update
          cases answered
          refine ⟨?_, _, ?_, rfl⟩
          · change (Option.map _ prepay.actionType).isSome = true
            rw [Option.isSome_map]
            exact named
          · rw [enqueuePoll_payments]
            exact found
  | reread payment token prepay =>
      rw [stage] at answered
      dsimp only at answered ⊢
      split at answered
      · cases answered
      · next current done =>
          obtain ⟨stored, issued⟩ := reloadFinalized_stored (PrepaySurroundings.transact_eq_ok done)
          cases answered
          refine ⟨Payment.issued_action issued, current, ?_, rfl⟩
          rw [enqueuePoll_payments]
          exact find?_own stored
  | record payment token cause =>
      rw [stage] at answered
      cases answered

theorem PrepayRun.Fits.keep {run : PrepayRun} (fits : run.Fits db) {stage : PrepayStage}
    {payment : Payment} (before : run.stage.payment = some payment)
    (after : stage.payment = some payment) (ready : stage.Ready db) :
    { run with stage := stage }.Fits db := by
  refine ⟨?_, ready⟩
  intro other holds
  cases after.symm.trans holds
  obtain ⟨stored, order⟩ := fits.backed payment before
  exact ⟨stored, order⟩

private theorem gatewayProgress_ready (payment : Payment) (token : String)
    (answer : Except Fault (Option PaymentPrepayResult)) (db : Database) :
    (gatewayProgress payment token answer).Ready db := by
  unfold gatewayProgress
  split
  · trivial
  · trivial
  · split
    · next usable => exact usable
    · trivial

private theorem claimPaymentPrepay_claimed {now : Time} {id : Int} {token : Option String}
    {lease : Int} {claimed : Payment} (reached : Mall.Reached db)
    (update : db.claimPaymentPrepay now id token lease = some (claimed, result)) :
    Claimed result claimed.id := by
  obtain ⟨own, stored⟩ := updatePayment_stored update
  obtain ⟨row, present, _, rfl, _⟩ := Database.updatePayment_eq_some.mp update
  have counted : 0 ≤ row.prepayAttempts := (reached.regular present).attempts
  exact ⟨_, stored, Int.lt_add_one_of_le counted⟩

private theorem claim_fits {run : PrepayRun} {payment claimed : Payment} {now : Time}
    {tag : Option String}
    {token : String} {lease : Int} (reached : Mall.Reached db) (backs : run.Backs db payment)
    (update : db.claimPaymentPrepay now payment.id tag lease = some (claimed, result)) :
    { run with stage := .call claimed token }.Fits result := by
  obtain ⟨⟨row, present, deal⟩, order⟩ := backs
  obtain ⟨own, stored⟩ := updatePayment_stored update
  have counted := claimPaymentPrepay_claimed reached update
  refine ⟨?_, counted⟩
  rintro other ⟨⟩
  obtain ⟨old, found, _, rfl, rfl⟩ := Database.updatePayment_eq_some.mp update
  have same : old.orderId = payment.orderId := by
    cases found.symm.trans present
    exact deal.orderId
  refine ⟨⟨_, stored, .refl _⟩, ?_⟩
  change ∃ order, db.orders.find? old.orderId = some order ∧ _
  rw [same]
  exact order

theorem PrepayRun.advance_going {around : PrepaySurroundings} {run : PrepayRun}
    {stage : PrepayStage} (reached : Mall.Reached db) (fits : run.Fits db)
    (going : (run.advance policy around db).1 = .going stage) :
    { run with stage := stage }.Fits (run.advance policy around db).2 := by
  unfold PrepayRun.advance at going ⊢
  cases here : run.stage with
  | create outTradeNo =>
      rw [here] at going
      dsimp only at going ⊢
      split at going
      · cases going
      · next payment created done =>
          have terms := createPayment_onTerms (PrepaySurroundings.transact_eq_ok done)
          split at going
          · cases going
          · next unissued =>
            split at going
            · next creating =>
              cases going
              rw [if_neg unissued, if_pos creating]
              refine ⟨?_, trivial⟩
              rintro other ⟨⟩
              have owner : payment.orderId = run.order.id := terms.owner
              exact ⟨⟨payment, terms.stored, .refl payment⟩, owner ▸ terms.order⟩
            · cases going
  | claim payment =>
      rw [here] at going
      dsimp only at going ⊢
      split at going
      · cases going
      · cases going
        exact fits.keep (congrArg PrepayStage.payment here) rfl trivial
      · next claimed leased done =>
          have update := Except.ok.inj (PrepaySurroundings.transact_eq_ok done)
          have backs := fits.backed payment (congrArg PrepayStage.payment here)
          unfold claimProgress at going
          split at going
          · cases going
          · cases going
            exact claim_fits reached backs update
  | reclaim payment =>
      rw [here] at going
      dsimp only at going ⊢
      split at going
      · cases going
      · next current done =>
          obtain ⟨_, issued⟩ := reloadClaim_stored (PrepaySurroundings.transact_eq_ok done)
          rw [claimProgress, if_pos issued] at going
          cases going
  | call payment token =>
      rw [here] at going
      cases going
      exact fits.keep (congrArg PrepayStage.payment here) (gatewayProgress_payment ..)
        (gatewayProgress_ready ..)
  | finalize payment token prepay =>
      rw [here] at going
      dsimp only at going ⊢
      split at going
      · cases going
        exact fits.keep (congrArg PrepayStage.payment here) rfl trivial
      · cases going
        exact fits.keep (congrArg PrepayStage.payment here) rfl trivial
      · cases going
  | reread payment token prepay =>
      rw [here] at going
      dsimp only at going ⊢
      split at going
      · cases going
        exact fits.keep (congrArg PrepayStage.payment here) rfl trivial
      · cases going
  | record payment token cause =>
      rw [here] at going
      cases going

/-! ### Calls -/

structure PrepayCall.Matches (db : Database) (call : PrepayCall) (payment : Payment)
    (order : Order) : Prop where
  stored : db.payments.find? call.paymentID = some payment
  owner : db.orders.find? payment.orderId = some order
  outTradeNo : call.request.outTradeNo = payment.outTradeNo
  amount : call.request.amount = order.totalAmountMinor
  currency : call.request.currency = order.currency
  claimed : 0 < payment.prepayAttempts

theorem PrepayCall.Matches.carried {call : PrepayCall} {payment : Payment} {order : Order}
    (agrees : call.Matches db payment order) (carried : Carried db result) :
    ∃ later last, call.Matches result later last := by
  obtain ⟨later, found, kept⟩ := carried.payments.kept agrees.stored
  obtain ⟨last, stored, terms⟩ := carried.orders agrees.owner
  refine ⟨later, last, found, ?_, ?_, ?_, ?_, lt_of_lt_of_le agrees.claimed kept.attempts⟩
  · rw [kept.deal.orderId]
    exact stored
  · exact agrees.outTradeNo.trans kept.deal.outTradeNo.symm
  · exact agrees.amount.trans terms.total.symm
  · exact agrees.currency.trans terms.currency.symm

theorem PrepayRun.call_matches {run : PrepayRun} {call : PrepayCall} (fits : run.Fits db)
    (called : run.call = some call) : ∃ payment order, call.Matches db payment order := by
  unfold PrepayRun.call at called
  split at called
  · next payment token stage =>
      cases called
      obtain ⟨⟨row, present, deal⟩, order, owner, total, currency⟩ :=
        fits.backed payment (congrArg PrepayStage.payment stage)
      have ready := fits.ready
      rw [stage] at ready
      obtain ⟨counted, found, positive⟩ := ready
      cases found.symm.trans present
      refine ⟨_, order, present, ?_, deal.outTradeNo.symm, total.symm, currency.symm, positive⟩
      rw [deal.orderId]
      exact owner
  · cases called

end Mall
