/-
What buyers are handed for a payment, and payments that end without the word of
the provider.
-/

import Mall.Refinement.Footprints
import Mall.Refinement.PaymentWorld

namespace Mall

open Relational Transactional

variable {policy : PaymentPolicy} {world : PaymentWorld}

/-! ### Histories -/

private theorem PaymentWorld.proceed_returned (index : Nat) (around : PrepaySurroundings)
    (run : PrepayRun) (progress : PrepayProgress) (db : Database) (world : PaymentWorld) :
    ∀ answer ∈ world.returned, answer ∈ (world.proceed index around run progress db).returned :=
  fun _ member => List.mem_append_right _ member

private theorem PaymentWorld.next_returned (policy : PaymentPolicy) (event : PaymentEvent)
    (world : PaymentWorld) :
    ∀ answer ∈ world.returned, answer ∈ (PaymentWorld.next policy event world).returned := by
  intro answer member
  cases event with
  | advance index around =>
      rw [PaymentWorld.next]
      split
      · exact member
      · exact world.proceed_returned _ _ _ _ _ answer member
  | prepayForOrder args opening =>
      rw [PaymentWorld.next]
      unfold PaymentWorld.start
      split <;> exact member
  | read job =>
      rw [PaymentWorld.next]
      unfold PaymentWorld.read
      split <;> exact member
  | decide index close check =>
      rw [PaymentWorld.next]
      split <;> exact member
  | write index clock =>
      rw [PaymentWorld.next]
      split
      · exact member
      · unfold PaymentWorld.land
        split <;> exact member
  | _ => exact member

private theorem PaymentWorld.run_returned (policy : PaymentPolicy) (history : List PaymentEvent)
    (world : PaymentWorld) : ∀ answer ∈ world.returned,
      answer ∈ (run (PaymentWorld.next policy) world history).returned := by
  induction history generalizing world with
  | nil => exact fun _ member => member
  | cons event rest ih =>
      intro answer member
      exact ih _ answer (world.next_returned policy event answer member)

/-! ### One payment, one action -/

/-- Whatever was handed out for a payment is the action of its row, then and in every
later state, and every call asks for the payment's trade on the order's terms. -/
theorem prepay_single_action (reached : world.Reached policy) (history : List PaymentEvent) :
    let later := run (PaymentWorld.next policy) world history
    (∀ answer ∈ world.returned, answer.action.isSome = true ∧ ∃ payment,
      world.db.payments.find? answer.payment.id = some payment ∧
        payment.action = answer.action) ∧
    (∀ answer ∈ world.returned, ∃ payment,
      later.db.payments.find? answer.payment.id = some payment ∧
        payment.action = answer.action) ∧
    (∀ first ∈ later.returned, ∀ second ∈ later.returned,
      first.payment.id = second.payment.id → first.action = second.action) ∧
    ∀ call ∈ later.calls, ∃ payment order,
      later.db.payments.find? call.paymentID = some payment ∧
      later.db.orders.find? payment.orderId = some order ∧
      call.request.outTradeNo = payment.outTradeNo ∧
      call.request.amount = order.totalAmountMinor ∧
      call.request.currency = order.currency := by
  intro later
  have before := reached.sound
  have after : later.Sound := PaymentWorld.Reached.sound (reached.run history)
  refine ⟨?_, ?_, ?_, ?_⟩
  · intro answer member
    have recorded := before.returned answer member
    exact ⟨recorded.named, recorded.stored⟩
  · intro answer member
    exact (after.returned answer (world.run_returned policy history answer member)).stored
  · intro first memberFirst second memberSecond same
    obtain ⟨row, present, left⟩ := (after.returned first memberFirst).stored
    obtain ⟨other, found, right⟩ := (after.returned second memberSecond).stored
    rw [same, found] at present
    cases present
    exact left.symm.trans right
  · intro call member
    obtain ⟨payment, order, agrees⟩ := after.calls call member
    exact ⟨payment, order, agrees.stored, agrees.owner, agrees.outTradeNo, agrees.amount,
      agrees.currency⟩

/-! A lease runs out while the gateway is slow, and a second run takes the payment
over. -/

def idlePayments : PaymentWorld :=
  { db := smallShop
    prepays := []
    readings := []
    pending := []
    calls := []
    returned := [] }

private theorem idlePayments_initial : idlePayments.Initial :=
  ⟨smallShop_initial, rfl, rfl, rfl, rfl, rfl⟩

def prepayTea (outTradeNo : String) : PaymentEvent :=
  .prepayForOrder
    { orderNo := "ORD1"
      userID := 1
      method := { provider := "alipay", product := "wap" }
      clientIP := ""
      extension := []
      description := "tea" }
    { requiresPoll := fun _ => .ok true
      loaded := found ((next (orderTea "ORD1" "order-key-1" 2) smallShop).orders.find? 1)
        errOrderNotFound
      outTradeNo := outTradeNo }

def goOn (index : Nat) (second : Int) (token payload : String) : PaymentEvent :=
  .advance index
    { clock := { database := second * 1000000000, process := second * 1000000000 }
      token := token
      outage := none
      dies := false
      prepay := .ok (some
        { providerReference := ""
          actionType := some .redirect
          payload := payload })
      errorText := fun _ => "" }

/-- Both runs hold an answer of the gateway, and the second one activates the
payment. -/
def overtakenHistory : List PaymentEvent :=
  [.operation (orderTea "ORD1" "order-key-1" 2) rfl, prepayTea "PAY1", prepayTea "PAY2",
    goOn 0 1 "lease-1" "", goOn 0 1 "lease-1" "", goOn 1 40 "lease-2" "", goOn 1 40 "lease-2" "",
    goOn 0 41 "lease-1" "first", goOn 1 41 "lease-2" "second", goOn 1 42 "lease-2" ""]

def overtakenEnd : List PaymentEvent :=
  [goOn 0 43 "lease-1" "", goOn 0 43 "lease-1" ""]

theorem prepay_single_action_overtaken :
    let world := run (PaymentWorld.next defaultPolicy) idlePayments overtakenHistory
    let later := run (PaymentWorld.next defaultPolicy) world overtakenEnd
    later.calls.length = 2 ∧
      later.returned.map (fun answer => answer.payment.id) = [1, 1] ∧
      ∀ first ∈ later.returned, ∀ second ∈ later.returned,
        first.payment.id = second.payment.id → first.action = second.action := by
  intro world later
  have reached : world.Reached defaultPolicy :=
    ⟨idlePayments, overtakenHistory, idlePayments_initial, rfl⟩
  exact ⟨by decide +kernel, by decide +kernel, (prepay_single_action reached overtakenEnd).2.2.1⟩

/-! ### Ending without the provider's word -/

/-- The event applies what the provider itself reported of the payment, or confirmed on
request. -/
def PaymentWorld.ProviderSaid (world : PaymentWorld) (event : PaymentEvent) (id : Int)
    (state : TradeState) : Prop :=
  ∃ landed check answer, world.lands event = some landed ∧
    landed.write.answer = some (check, answer) ∧ check.paymentID = id ∧
    landed.ground = .provider state

/-- A row that left its creating state without an action, and without a claim where
the method asks the provider. -/
structure Payment.Unissued (payment : Payment) : Prop where
  left : payment.status ≠ .creating
  action : payment.action = none
  attempts : payment.payChannel ≠ "alipay:app" → payment.payChannel ≠ "alipay:wap" →
    payment.prepayAttempts = 0

private theorem canConfirmUnissuedPayment_unissued {payment : Payment} {now : Time}
    (confirmed : canConfirmUnissuedPayment payment now = true) : payment.Unissued := by
  unfold canConfirmUnissuedPayment at confirmed
  split at confirmed
  · cases confirmed
  · next closing =>
    split at confirmed
    · cases confirmed
    · next bare =>
      obtain ⟨untyped, _⟩ := not_or.mp bare
      refine ⟨?_, ?_, ?_⟩
      · intro creating
        rw [creating] at closing
        exact closing ⟨nofun, nofun⟩
      · rw [Payment.action, Option.not_isSome_iff_eq_none.mp untyped]
        rfl
      · intro app wap
        rw [if_neg (not_or.mpr ⟨app, wap⟩)] at confirmed
        simp only [Bool.and_eq_true, beq_iff_eq] at confirmed
        exact confirmed.1.1

private theorem Payment.Unissued.carried {payment later : Payment} (unissued : payment.Unissued)
    (carried : payment.Carried later) : later.Unissued := by
  obtain ⟨action, attempts⟩ := carried.left unissued.left
  refine ⟨carried.status_ne unissued.left, action.trans unissued.action, ?_⟩
  rw [carried.deal.payChannel, attempts]
  exact unissued.attempts

/-- Nothing is ever handed out for the payment, and where the method asks the provider
it is never asked. -/
theorem Payment.Unissued.forever {id : Int} {payment : Payment} (unissued : payment.Unissued)
    (reached : world.Reached policy) (present : world.db.payments.find? id = some payment)
    (history : List PaymentEvent) :
    (∀ answer ∈ (run (PaymentWorld.next policy) world history).returned,
      answer.payment.id ≠ id) ∧
    (payment.payChannel ≠ "alipay:app" → payment.payChannel ≠ "alipay:wap" →
      ∀ call ∈ (run (PaymentWorld.next policy) world history).calls, call.paymentID ≠ id) := by
  have after := PaymentWorld.Reached.sound (reached.run history)
  obtain ⟨later, found, kept⟩ :=
    (PaymentWorld.run_carried reached history).payments.kept present
  have last := unissued.carried kept
  refine ⟨?_, ?_⟩
  · intro answer member same
    have recorded := after.returned answer member
    obtain ⟨row, stored, action⟩ := recorded.stored
    rw [same, found] at stored
    cases stored
    have named := recorded.named
    rw [← action, last.action] at named
    cases named
  · intro app wap call member same
    obtain ⟨row, order, agrees⟩ := after.calls call member
    have stored := agrees.stored
    rw [same, found] at stored
    cases stored
    rw [← kept.deal.payChannel] at app wap
    have claimed := agrees.claimed
    rw [last.attempts app wap] at claimed
    exact absurd claimed (lt_irrefl 0)

private theorem PaymentWorld.lands_pending {event : PaymentEvent} {landed : PendingWrite}
    (lands : world.lands event = some landed) : ∃ writes ∈ world.pending, landed ∈ writes := by
  unfold PaymentWorld.lands at lands
  split at lands
  · obtain ⟨writes, waiting, first⟩ := Option.bind_eq_some_iff.mp lands
    exact ⟨writes, List.mem_of_getElem? waiting, List.mem_of_head? first⟩
  · cases lands

private theorem Payment.Undispatched.unissued {payment : Payment}
    (undispatched : payment.Undispatched)
    (failed : payment.status = .failed) : payment.Unissued := by
  refine ⟨?_, undispatched.action, fun _ _ => undispatched.attempts⟩
  rw [failed]
  nofun

private theorem Payment.Held.unissued {before payment : Payment} (held : before.Held payment)
    (news : before.status ≠ payment.status)
    (ended : payment.status = .closed ∨ payment.status = .failed) : payment.Unissued := by
  rcases ended with closed | failed
  · exact absurd ((held.closed closed).trans closed.symm) news
  · rcases held.failed failed with ⟨earlier, _⟩ | undispatched
    · exact absurd (earlier.trans failed.symm) news
    · exact undispatched.unissued failed

private theorem Payment.Opened.unissued {payment : Payment} (opened : payment.Opened)
    (ended : payment.status = .closed ∨ payment.status = .failed) : payment.Unissued := by
  rcases ended with closed | failed
  · exact absurd closed opened.closed
  · exact (opened.failed failed).unissued failed

/-- A payment that ended without the provider's word was never handed out, or what was
handed out was over before the provider was asked. -/
theorem unissued_closure_sound (reached : world.Reached policy) (event : PaymentEvent) {id : Int}
    {payment : Payment}
    (found : (PaymentWorld.next policy event world).db.payments.find? id = some payment)
    (news : ∀ before, world.db.payments.find? id = some before → before.status ≠ payment.status)
    (ended : (payment.status = .closed ∧ ¬ world.ProviderSaid event id .closed ∧
        ¬ world.ProviderSaid event id .revoked) ∨
      (payment.status = .failed ∧ ¬ world.ProviderSaid event id .payError)) :
    (∀ history,
      (∀ answer ∈ (run (PaymentWorld.next policy)
          (PaymentWorld.next policy event world) history).returned, answer.payment.id ≠ id) ∧
      (payment.payChannel ≠ "alipay:app" → payment.payChannel ≠ "alipay:wap" →
        ∀ call ∈ (run (PaymentWorld.next policy)
          (PaymentWorld.next policy event world) history).calls, call.paymentID ≠ id)) ∨
    ∃ landed decode queryStarted action signed deadline, world.lands event = some landed ∧
      landed.ground = .absence decode queryStarted ∧ payment.action = some action ∧
      decode action.payload = some signed ∧ signed.expiresAt = some deadline ∧
      deadline + paymentExpirySafetyMargin ≤ queryStarted := by
  have further : (PaymentWorld.next policy event world).Reached policy := reached.step event
  have carried := (world.next_db policy event).carried reached.database
  have concluded : payment.status = .closed ∨ payment.status = .failed := by
    rcases ended with ⟨closed, _⟩ | ⟨failed, _⟩
    · exact Or.inl closed
    · exact Or.inr failed
  rcases world.next_db policy event with same | ⟨operation, plain | ⟨landed, clock, check, answer,
    lands, holds, rfl⟩, done⟩
  · rw [same] at found
    exact absurd rfl (news payment found)
  · -- A transaction that applies no answer closes nothing.
    left
    rcases (execute_held plain done).origin found with ⟨before, present, held⟩ | ⟨_, opened⟩
    · exact (held.unissued (news before present) concluded).forever further found
    · exact (opened.unissued concluded).forever further found
  · rcases (execute_footprint (.applyPayQuery clock check (some answer)) done).payments.origin found
      with ⟨before, present, _, held | ⟨state, about, by_answer⟩⟩ | ⟨_, answered, _⟩
    · exact Or.inl ((held.unissued (news before present) concluded).forever further found)
    · obtain ⟨writes, member, inside⟩ := world.lands_pending lands
      have justified := reached.sound.pending writes member landed inside check answer holds
      obtain ⟨later, kept, step⟩ := carried.payments.kept present
      rw [found] at kept
      cases kept
      have about : some (check.paymentID, answer.tradeState) = some (before.id, state) := about
      obtain ⟨same, rfl⟩ := Prod.mk.inj (Option.some.inj about)
      have key : id = check.paymentID := (Table.key_of_find? present).symm.trans same.symm
      cases ground : landed.ground with
      | provider state =>
          -- The provider said what the row became.
          rw [ground] at justified
          have said : world.ProviderSaid event id answer.tradeState :=
            ⟨landed, check, answer, lands, holds, key.symm, justified ▸ ground⟩
          exfalso
          cases by_answer with
          | closed which status =>
              rcases ended with ⟨_, unclosed, unrevoked⟩ | ⟨failed, _⟩
              · rcases which with state | state
                · exact unclosed (state ▸ said)
                · exact unrevoked (state ▸ said)
              · rw [status] at failed
                cases failed
          | failed which status =>
              rcases ended with ⟨closed, _⟩ | ⟨_, silent⟩
              · rw [status] at closed
                cases closed
              · exact silent (which ▸ said)
      | absence decode queryStarted =>
          rw [ground] at justified
          obtain ⟨_, confirm | ⟨row, stored, action, signed, deadline, acting, rest⟩⟩ := justified
          · obtain ⟨row, stored, confirmed⟩ := applyPayQuery_confirmed done
            rw [← key, present] at stored
            cases stored
            rw [confirmUnissued, if_pos confirm] at confirmed
            have unissued := canConfirmUnissuedPayment_unissued (require_eq_ok.mp confirmed).2.1
            exact Or.inl ((unissued.carried step).forever further found)
          · rw [← key, present] at stored
            cases stored
            have left : before.status ≠ .creating := by
              refine (reached.database.regular present).left ?_
              rw [acting]
              rfl
            exact Or.inr ⟨landed, decode, queryStarted, action, signed, deadline, lands, ground,
              (step.left left).1.trans acting, rest⟩
      | bookkeeping =>
          rw [ground] at justified
          cases justified
    · cases answered

def idleCheck : CheckSurroundings :=
  { began := .ok true
    query := .ok none
    written := .ok ()
    recorded := .ok ()
    polls := 0
    expiry := .ok none
    now := 0
    errorText := fun _ => "" }

/-- The order expires before its payment was signed, and the provider knows no such
trade. -/
def unsignedHistory : List PaymentEvent :=
  [.operation (orderTea "ORD1" "order-key-1" 2) rfl, prepayTea "PAY1", goOn 0 1 "lease-1" "",
    .operation (.expireOrder 1800000000000 1) rfl,
    .read (.closePay
      { reconciliationVersion := 0
        paymentID := 1
        provider := "alipay"
        reason := "order_expired" }),
    .decide 0 absentTrade idleCheck]

def unsignedWorld : PaymentWorld :=
  run (PaymentWorld.next defaultPolicy) idlePayments unsignedHistory

def landClosure : PaymentEvent :=
  .write 0 { database := 1866000000000, process := 1866000000000 }

/-- The worker closes the payment on the provider's denial, and no action of it was or
will be handed out. -/
theorem unissued_closure_sound_unsigned :
    ∃ payment,
      (PaymentWorld.next defaultPolicy landClosure unsignedWorld).db.payments.find? 1 =
        some payment ∧ payment.status = .closed ∧
      ∀ history, ∀ answer ∈ (run (PaymentWorld.next defaultPolicy)
        (PaymentWorld.next defaultPolicy landClosure unsignedWorld) history).returned,
          answer.payment.id ≠ 1 := by
  have reached : unsignedWorld.Reached defaultPolicy :=
    ⟨idlePayments, unsignedHistory, idlePayments_initial, rfl⟩
  have before : (unsignedWorld.db.payments.find? 1).map Payment.status = some .closePending := by
    decide +kernel
  have after : ((PaymentWorld.next defaultPolicy landClosure unsignedWorld).db.payments.find? 1).map
      (fun payment => (payment.status, payment.action)) = some (.closed, none) := by
    decide +kernel
  have denied : (unsignedWorld.lands landClosure).map (fun landed =>
      match landed.ground with
      | .absence _ _ => true
      | _ => false) = some true := by
    decide +kernel
  have unsaid (state : TradeState) : ¬ unsignedWorld.ProviderSaid landClosure 1 state := by
    rintro ⟨landed, _, _, lands, _, _, ground⟩
    rw [lands, Option.map_some, ground] at denied
    cases denied
  obtain ⟨payment, found, facts⟩ := Option.map_eq_some_iff.mp after
  obtain ⟨closed, actionless⟩ := Prod.mk.inj facts
  have news : ∀ row, unsignedWorld.db.payments.find? 1 = some row →
      row.status ≠ payment.status := by
    intro row present same
    rw [present, Option.map_some, same, closed] at before
    cases before
  refine ⟨payment, found, closed, ?_⟩
  rcases unissued_closure_sound reached landClosure found news
    (Or.inl ⟨closed, unsaid .closed, unsaid .revoked⟩) with never | ⟨_, _, _, action, _, _, _, _,
      acting, _⟩
  · exact fun history => (never history).1
  · rw [actionless] at acting
    cases acting

end Mall
