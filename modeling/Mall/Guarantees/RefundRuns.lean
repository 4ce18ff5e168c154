/-
Refund runs against the gateway.

Refunds cannot pay out twice: every call repeats the one committed refund row of
its payment.  Whether a call can come after the goods have left depends on the
moment at which they are shipped.
-/

import Mall.Guarantees.Evidence
import Mall.Guarantees.Settlement
import Mall.Refinement.RefundRuns

namespace Mall

open Ledger Relational Transactional

variable {db result : Database} {world : World} {paymentID : Int}

/-! ### Calls repeat committed rows -/

/-- The request says what a committed refund row of the payment says. -/
structure Committed (db : Database) (paymentID : Int) (request : PaymentRefundRequest) : Prop where
  row : ∃ id reversal, db.ledger.refunds id = some reversal ∧ reversal.payment = paymentID ∧
    reversal.number = request.outRefundNo ∧ reversal.returned = request.amount ∧
    reversal.terms.currency = request.currency
  charge : ∃ charge, db.ledger.payments paymentID = some charge ∧
    charge.outTradeNo = request.outTradeNo

private theorem Committed.continues {warrant : Warrant} {request : PaymentRefundRequest}
    (committed : Committed db paymentID request)
    (commits : Commits warrant db.ledger result.ledger) : Committed result paymentID request := by
  obtain ⟨⟨id, reversal, present, rest⟩, charge, found, trade⟩ := committed
  obtain ⟨later, last, status, rfl⟩ := commits.reversal_continues present
  obtain ⟨laterCharge, known, continues⟩ := commits.charge_continues found
  refine ⟨⟨id, _, last, rest⟩, laterCharge, known, ?_⟩
  exact (congrArg ChargeIdentity.outTradeNo continues.identity).trans trade

private theorem Committed.prepared {now : Time} {outRefundNo : String} {payment : Payment}
    {refund : OrderRefund}
    (done : preparePaymentRefund now paymentID outRefundNo db = .ok (payment, refund, result))
    (method : PaymentMethod) : Committed result payment.id (refundRequest method payment refund) := by
  obtain ⟨found, stored, about, _⟩ := preparePaymentRefund_eq_ok done
  exact ⟨⟨refund.id, refund.reversal, Database.ledger_refund stored, about, rfl, rfl, rfl⟩,
    payment.charge, Database.ledger_payment found, rfl⟩

private theorem Committed.rows {request : PaymentRefundRequest}
    (committed : Committed db paymentID request) (valid : db.Valid) :
    ∃ payment refund, db.payments.find? paymentID = some payment ∧
      db.getOrderRefundByPaymentID paymentID = some refund ∧
      request.outTradeNo = payment.outTradeNo ∧ request.outRefundNo = refund.outRefundNo ∧
      request.amount = payment.amountMinor ∧ request.currency = payment.currency := by
  obtain ⟨⟨id, reversal, present, rfl, number, amount, currency⟩, charge, found, trade⟩ := committed
  obtain ⟨same, known, _, terms, whole, _⟩ := valid.sound.returns.reversalCharge present
  cases known.symm.trans found
  obtain ⟨payment, stored, rfl⟩ := Database.of_ledger_payment found
  obtain ⟨refund, chosen, rfl⟩ := getOrderRefundByPaymentID_of_ledger valid.sound present
  refine ⟨payment, refund, stored, chosen, trade.symm, number.symm, amount.symm.trans whole, ?_⟩
  exact currency.symm.trans (congrArg Terms.currency terms)

private theorem Committed.number_iff {left right : Int} {first second : PaymentRefundRequest}
    (one : Committed db left first) (other : Committed db right second) (valid : db.Valid) :
    first.outRefundNo = second.outRefundNo ↔ left = right := by
  obtain ⟨⟨id, reversal, present, about, number, _⟩, _⟩ := one
  obtain ⟨⟨otherId, otherReversal, known, otherAbout, otherNumber, _⟩, _⟩ := other
  constructor
  · intro same
    have key := valid.sound.returns.numberUnique present known
      (number.trans (same.trans otherNumber.symm))
    rw [← key, present] at known
    cases known
    exact about.symm.trans otherAbout
  · intro same
    have key := valid.sound.returns.reversalUnique present known
      (about.trans (same.trans otherAbout.symm))
    rw [← key, present] at known
    cases known
    exact number.symm.trans otherNumber

/-- Runs ask, and calls have asked, only for what committed rows say. -/
structure World.Faithful (world : World) : Prop where
  runs : ∀ run ∈ world.runs, ∀ {method payment refund}, run.stage = .execute method payment refund →
    Committed world.db payment.id (refundRequest method payment refund)
  calls : ∀ call ∈ world.calls, Committed world.db call.paymentID call.request

private theorem World.Faithful.called (faithful : world.Faithful) {event : Event}
    {call : GatewayCall} (called : World.call event world = some call) :
    Committed world.db call.paymentID call.request := by
  obtain ⟨run, member, method, payment, refund, stage, _, about, request⟩ :=
    World.call_eq_some called
  rw [about, request]
  exact faithful.runs run member stage

private theorem World.Faithful.step (faithful : world.Faithful) (valid : world.db.Valid)
    (event : Event) :
    (World.next event world).Faithful := by
  have kept : ∀ {paymentID request}, Committed world.db paymentID request →
      Committed (World.next event world).db paymentID request := by
    intro paymentID request committed
    rcases World.next_db event world with same | ⟨operation, done, _⟩
    · rw [same]
      exact committed
    · exact committed.continues (execute_refines operation valid.tidy valid.sound done).commits
  refine ⟨?_, ?_⟩
  · intro run member method payment refund stage
    rcases World.next_runs member stage with old | ⟨now, paymentID, number, done⟩
    · exact kept (faithful.runs run old stage)
    · exact Committed.prepared done method
  · intro call member
    rw [World.next_calls] at member
    rcases List.mem_append.mp member with new | old
    · exact kept (faithful.called (Option.mem_toList.mp new))
    · exact kept (faithful.calls call old)

private theorem World.Initial.faithful (initial : world.Initial) : world.Faithful := by
  refine ⟨?_, ?_⟩
  · intro run member
    rw [initial.noRuns] at member
    exact absurd member List.not_mem_nil
  · intro call member
    rw [initial.noCalls] at member
    exact absurd member List.not_mem_nil

private theorem World.Reached.faithful (reached : world.Reached) : world.Faithful :=
  Reachable.invariant (fun _ initial => World.Initial.faithful initial)
    (fun _ event before holds =>
      World.Faithful.step holds (World.Reached.database before).valid event) reached

/-! ### Money -/

/-- What the gateway's interface demands of its implementations: a number that was
accepted moves no money again.  A call moves no more than it asks for. -/
structure GatewayContract (calls : List GatewayCall) : Prop where
  idempotent : Idempotent (fun call => call.request.outRefundNo) GatewayCall.moved calls
  asked : ∀ call ∈ calls, call.moved ≤ call.request.amount

def callsFor (paymentID : Int) (calls : List GatewayCall) : List GatewayCall :=
  calls.filter (fun call => call.paymentID == paymentID)

def moneyReturned (paymentID : Int) (calls : List GatewayCall) : Int :=
  ((callsFor paymentID calls).map GatewayCall.moved).sum

private theorem mem_callsFor {calls : List GatewayCall} {call : GatewayCall} :
    call ∈ callsFor paymentID calls ↔ call ∈ calls ∧ call.paymentID = paymentID := by
  rw [callsFor, List.mem_filter, beq_iff_eq]

private theorem Database.Valid.amount_positive (valid : db.Valid) {payment : Payment}
    (member : payment ∈ db.payments) : 0 < payment.amountMinor := by
  obtain ⟨purchase, present, terms⟩ :=
    valid.sound.funding.chargeOrder (Database.ledger_payment (Table.find?_key member))
  have positive := valid.sound.funding.positive present
  rw [← terms] at positive
  exact positive

private theorem World.Reached.moneyReturned_le (reached : world.Reached)
    (contract : GatewayContract world.calls) {payment : Payment}
    (member : payment ∈ world.db.payments) :
    moneyReturned payment.id world.calls ≤ payment.amountMinor := by
  have valid := reached.database.valid
  have faithful := reached.faithful
  have found : world.db.payments.find? payment.id = some payment := Table.find?_key member
  have bounded : ∀ call ∈ callsFor payment.id world.calls, call.moved ≤ payment.amountMinor := by
    intro call made
    obtain ⟨inside, about⟩ := mem_callsFor.mp made
    obtain ⟨row, _, stored, _, _, _, amount, _⟩ := (faithful.calls call inside).rows valid
    rw [about, found] at stored
    cases stored
    exact amount ▸ contract.asked call inside
  have alike : ∀ first ∈ callsFor payment.id world.calls,
      ∀ second ∈ callsFor payment.id world.calls,
      first.request.outRefundNo = second.request.outRefundNo := by
    intro first made second again
    obtain ⟨inside, about⟩ := mem_callsFor.mp made
    obtain ⟨within, same⟩ := mem_callsFor.mp again
    exact ((faithful.calls first inside).number_iff (faithful.calls second within) valid).mpr
      (about.trans same.symm)
  have idempotent : Idempotent (fun call => call.request.outRefundNo) GatewayCall.moved
      (callsFor payment.id world.calls) :=
    contract.idempotent.filter _
  unfold moneyReturned
  cases made : callsFor payment.id world.calls with
  | nil => exact (valid.amount_positive member).le
  | cons first rest =>
      rw [made] at bounded alike idempotent
      exact idempotent.total_le (fun call inside => alike call inside first List.mem_cons_self)
        bounded (valid.amount_positive member).le

/-- Refunds cannot pay out twice, whatever the runs, the sweeps, the answers and
the crashes do. -/
theorem refunds_pay_once (reached : world.Reached) :
    (∀ call ∈ world.calls, ∃ payment refund,
      world.db.payments.find? call.paymentID = some payment ∧
      world.db.getOrderRefundByPaymentID call.paymentID = some refund ∧
      call.request.outTradeNo = payment.outTradeNo ∧
      call.request.outRefundNo = refund.outRefundNo ∧
      call.request.amount = payment.amountMinor ∧ call.request.currency = payment.currency) ∧
    (∀ first ∈ world.calls, ∀ second ∈ world.calls,
      first.request.outRefundNo = second.request.outRefundNo ↔
        first.paymentID = second.paymentID) ∧
    (∀ event call, World.call event world = some call →
      ∃ refund ∈ world.db.refunds, refund.paymentId = call.paymentID ∧
        refund.outRefundNo = call.request.outRefundNo) ∧
    (GatewayContract world.calls → ∀ payment ∈ world.db.payments,
      moneyReturned payment.id world.calls ≤ payment.amountMinor) := by
  have valid := reached.database.valid
  have faithful := reached.faithful
  refine ⟨?_, ?_, ?_, ?_⟩
  · intro call member
    exact (faithful.calls call member).rows valid
  · intro first made second again
    exact (faithful.calls first made).number_iff (faithful.calls second again) valid
  · intro event call called
    obtain ⟨⟨id, reversal, present, about, number, _⟩, _⟩ := faithful.called called
    obtain ⟨refund, stored, rfl⟩ := Database.of_ledger_refund present
    exact ⟨refund, Table.mem_of_find? stored, about, number⟩
  · intro contract payment member
    exact reached.moneyReturned_le contract member

def smallWorld : World :=
  { db := smallShop
    runs := []
    calls := [] }

private theorem smallWorld_initial : smallWorld.Initial :=
  ⟨smallShop_initial, rfl, rfl⟩

def teaSurroundings (outRefundNo : String) (answer : Option PaymentRefundResult) (moved : Int) :
    Surroundings :=
  { now := 4
    loaded := found (paidShop.getPayment 1) errPaymentNotFound
    supportsRefund := fun _ => .ok true
    outRefundNo := outRefundNo
    outage := none
    result := answer
    error := if answer.isNone then some (Fault.plain "timeout") else none
    moved := moved
    errorText := fun _ => "refund failed" }

def preparedHistory : List Event :=
  paidHistory.map .operation ++
    [.refundPayment 1, .refundPayment 1, .advance 0 (teaSurroundings "RFND1" none 0),
      .advance 1 (teaSurroundings "RFND2" none 0), .advance 0 (teaSurroundings "RFND1" none 0),
      .advance 1 (teaSurroundings "RFND2" none 0)]

/-- The money moves, but the first run times out and dies.  The second run asks
again and settles. -/
def refundedWorld : World :=
  run World.next smallWorld
    (preparedHistory ++
      [.advance 0 (teaSurroundings "RFND1" none 200), .crash 0,
        .advance 0 (teaSurroundings "RFND2" (some { success := true, rejection := false }) 0),
        .advance 0 (teaSurroundings "RFND2" none 0)])

theorem refunds_pay_once_refundedWorld :
    refundedWorld.calls.map (fun call => (call.paymentID, call.request.outRefundNo, call.moved)) =
        [(1, "RFND1", 0), (1, "RFND1", 200)] ∧
      ∃ payment ∈ refundedWorld.db.payments, payment.status = .refunded ∧
        moneyReturned payment.id refundedWorld.calls ≤ payment.amountMinor := by
  refine ⟨by decide +kernel, ?_⟩
  have refunded : (refundedWorld.db.payments.find? 1).map Payment.status = some .refunded := by
    decide +kernel
  obtain ⟨payment, found, status⟩ := Option.map_eq_some_iff.mp refunded
  have contract : GatewayContract refundedWorld.calls := by
    refine ⟨?_, by decide +kernel⟩
    unfold Idempotent
    decide +kernel
  have member := Table.mem_of_find? found
  exact ⟨payment, member, status,
    (refunds_pay_once ⟨smallWorld, _, smallWorld_initial, rfl⟩).2.2.2 contract payment member⟩

/-! ### Goods that have left -/

def RefundRun.ahead (paymentID : Int) (run : RefundRun) : Bool :=
  match run.stage with
  | .execute _ payment refund => payment.id == paymentID && refund.status != .success
  | _ => false

def World.refundAhead (paymentID : Int) (world : World) : Bool :=
  world.runs.any (RefundRun.ahead paymentID)

/-- The payment of the goods that an event ships.  A request that fails or replays
ships nothing. -/
def World.shippedFunding (event : Event) (world : World) : Option Int :=
  match event with
  | .operation (.applyFulfillment actor input) =>
      if input.action = .ship ∧
          (world.db.getOrderFulfillmentAction input.orderID input.idempotencyKey).isNone = true ∧
          (applyFulfillment actor input world.db).isOk = true then
        (world.db.orders.find? input.orderID).bind Order.paidPaymentId
      else none
  | _ => none

/-- Goods are not shipped while a run has still to call for their money. -/
def ShipsClear (event : Event) (world : World) : Prop :=
  ∀ paymentID ∈ World.shippedFunding event world, world.refundAhead paymentID = false

instance (event : Event) (world : World) : Decidable (ShipsClear event world) :=
  inferInstanceAs (Decidable (∀ paymentID ∈ World.shippedFunding event world, _))

/-- While a run has still to call for a payment, its goods are in the house. -/
def World.GoodsKept (world : World) : Prop :=
  ∀ paymentID, world.refundAhead paymentID = true → ∀ order ∈ world.db.orders,
    order.paidPaymentId = some paymentID → order.status.isDispatched = false

private theorem RefundRun.ahead_eq_true {run : RefundRun} :
    run.ahead paymentID = true ↔ ∃ method payment refund,
      run.stage = .execute method payment refund ∧ payment.id = paymentID ∧
        refund.status ≠ .success := by
  unfold RefundRun.ahead
  cases stage : run.stage <;> simp

private theorem World.refundAhead_eq_true :
    world.refundAhead paymentID = true ↔ ∃ run ∈ world.runs, run.ahead paymentID = true :=
  List.any_eq_true

private theorem applyFulfillment_ship {actor : Actor} {input : OrderFulfillmentInput}
    {action : FulfillmentAction} (ship : input.action = .ship)
    (first : db.getOrderFulfillmentAction input.orderID input.idempotencyKey = none)
    (done : applyFulfillment actor input db = .ok (action, result)) :
    ∃ order changed, db.orders.find? input.orderID = some order ∧ order.status = .paid ∧
      result.orders.find? input.orderID = some changed ∧ changed.status = .shipped ∧
      changed.paidPaymentId = order.paidPaymentId := by
  obtain ⟨order, present, key, ⟨recorded, _, _⟩ | ⟨_, paid, changed, moved, status, _, _, mark,
    audit, _⟩⟩ := applyFulfillment_eq_ok done
  · rw [key, first] at recorded
    cases recorded
  · rw [ship] at status mark
    rw [key] at present mark
    obtain ⟨row, stored, _, _, rfl⟩ := Database.updateOrder_eq_some.mp mark
    cases stored.symm.trans present
    have after := db.orders.find?_update_self input.orderID
      (fun order : Order => { order with status := .shipped })
    rw [present] at after
    refine ⟨order, { order with id := input.orderID, status := .shipped }, present, status, ?_, rfl,
      rfl⟩
    rw [(createOrderFulfillmentAction_books audit).orders]
    exact after

private theorem World.shippedFunding_eq_some {event : Event} :
    World.shippedFunding event world = some paymentID ↔
      ∃ actor input action result, event = .operation (.applyFulfillment actor input) ∧
        input.action = .ship ∧
        world.db.getOrderFulfillmentAction input.orderID input.idempotencyKey = none ∧
        applyFulfillment actor input world.db = .ok (action, result) ∧
        (world.db.orders.find? input.orderID).bind Order.paidPaymentId = some paymentID := by
  constructor
  · intro shipped
    unfold World.shippedFunding at shipped
    split at shipped
    · next actor input =>
        split at shipped
        · next allowed =>
            obtain ⟨ship, first, done⟩ := allowed
            cases outcome : applyFulfillment actor input world.db with
            | error fault =>
                rw [outcome] at done
                cases done
            | ok committed =>
                exact ⟨actor, input, committed.1, committed.2, rfl, ship,
                  Option.isNone_iff_eq_none.mp first, outcome, shipped⟩
        · cases shipped
    · cases shipped
  · rintro ⟨actor, input, action, result, rfl, ship, first, done, funding⟩
    have allowed : input.action = .ship ∧
        (world.db.getOrderFulfillmentAction input.orderID input.idempotencyKey).isNone = true ∧
        (applyFulfillment actor input world.db).isOk = true :=
      ⟨ship, by rw [first]; rfl, by rw [done]; rfl⟩
    rw [World.shippedFunding, if_pos allowed]
    exact funding

private theorem World.valid_next (valid : world.db.Valid) (event : Event) :
    (World.next event world).db.Valid := by
  rcases World.next_db event world with same | ⟨operation, done, _⟩
  · rw [same]
    exact valid
  · rw [← commit_of_ok done]
    exact valid.step operation

private theorem World.GoodsKept.standing (kept : world.GoodsKept) (valid : world.db.Valid)
    {event : Event}
    (clear : ShipsClear event world) (ahead : world.refundAhead paymentID = true) {order : Order}
    (member : order ∈ (World.next event world).db.orders)
    (funds : order.paidPaymentId = some paymentID) : order.status.isDispatched = false := by
  have before : order ∈ world.db.orders → order.status.isDispatched = false :=
    fun old => kept paymentID ahead order old funds
  rcases World.next_db event world with same | ⟨operation, done, only⟩
  · exact before (same ▸ member)
  rw [← Bool.not_eq_true]
  intro dispatched
  have present : (World.next event world).db.orders.find? order.id = some order :=
    Table.find?_key member
  have commits := (execute_refines operation valid.tidy valid.sound done).commits
  rcases commits.dispatched_warranted (Database.ledger_order present) dispatched with
    ⟨purchase, found, gone, same⟩ | asked
  · obtain ⟨old, known, rfl⟩ := Database.of_ledger_order found
    have home := kept paymentID ahead old (Table.mem_of_find? known) (same.trans funds)
    rw [show old.status.isDispatched = true from gone] at home
    cases home
  · obtain rfl := only _ asked
    cases operation with
    | applyFulfillment actor input =>
        obtain ⟨ship, about⟩ := asked
        obtain ⟨⟨action, result⟩, body, same⟩ := map_eq_ok.mp done
        rw [← same] at present
        cases recorded : world.db.getOrderFulfillmentAction input.orderID input.idempotencyKey with
        | none =>
            obtain ⟨paid, changed, stored, _, after, _, funding⟩ :=
              applyFulfillment_ship ship recorded body
            rw [about] at after
            cases after.symm.trans present
            have shipped := World.shippedFunding_eq_some.mpr ⟨actor, input, action, result, rfl, ship,
              recorded, body, by rw [stored]; exact funding.symm.trans funds⟩
            rw [clear paymentID shipped] at ahead
            cases ahead
        | some earlier =>
            obtain ⟨row, _, key, ⟨_, _, unchanged⟩ | ⟨first, _⟩⟩ := applyFulfillment_eq_ok body
            · rw [unchanged] at present
              rw [before (Table.mem_of_find? present)] at dispatched
              cases dispatched
            · rw [key, recorded] at first
              cases first
    | _ => exact asked

private theorem World.GoodsKept.step (kept : world.GoodsKept) (valid : world.db.Valid)
    {event : Event} (clear : ShipsClear event world) : (World.next event world).GoodsKept := by
  intro paymentID ahead order member funds
  obtain ⟨run, inside, before⟩ := World.refundAhead_eq_true.mp ahead
  obtain ⟨method, payment, refund, stage, rfl, _⟩ := RefundRun.ahead_eq_true.mp before
  rcases World.next_runs inside stage with old | ⟨now, id, number, done⟩
  · exact kept.standing valid clear (World.refundAhead_eq_true.mpr ⟨run, old, before⟩) member funds
  · -- A refund that was just prepared is live, and live refunds hold the goods back.
    obtain ⟨_, stored, about, live⟩ := preparePaymentRefund_eq_ok done
    rw [← Bool.not_eq_true]
    intro dispatched
    exact live ((World.valid_next valid event).dispatched_refund_failed member dispatched funds
      (Table.mem_of_find? stored) about)

private theorem World.GoodsKept.run {start : World} {history : List Event} (initial : start.Initial)
    (clear : Throughout ShipsClear World.next start history) :
    (Transactional.run World.next start history).GoodsKept := by
  have starts : start.db.Valid ∧ start.GoodsKept := by
    refine ⟨⟨initial.db.tidy, initial.db.sound⟩, ?_⟩
    intro paymentID ahead
    rw [World.refundAhead, initial.noRuns] at ahead
    cases ahead
  have preserved : ∀ world event, ShipsClear event world → world.db.Valid ∧ world.GoodsKept →
      (World.next event world).db.Valid ∧ (World.next event world).GoodsKept :=
    fun world event clear holds =>
      ⟨World.valid_next holds.1 event, holds.2.step holds.1 clear⟩
  exact (Throughout.invariant preserved clear starts).2

/-- A shipment against the condition leaves a run that calls next, for goods that
have left. -/
theorem call_after_shipment {event : Event} (against : ¬ ShipsClear event world) :
    ∃ paymentID index, (∃ order ∈ (World.next event world).db.orders,
        order.paidPaymentId = some paymentID ∧ order.status = .shipped) ∧
      ∀ around, ∃ call, World.call (.advance index around) (World.next event world) = some call ∧
        call.paymentID = paymentID := by
  unfold ShipsClear at against
  push Not at against
  obtain ⟨paymentID, shipped, ahead⟩ := against
  obtain ⟨run, member, before⟩ := World.refundAhead_eq_true.mp (Bool.ne_false_iff.mp ahead)
  obtain ⟨method, payment, refund, stage, rfl, unsettled⟩ := RefundRun.ahead_eq_true.mp before
  obtain ⟨index, standing⟩ := List.mem_iff_getElem?.mp member
  obtain ⟨actor, input, action, result, rfl, ship, first, done, funding⟩ :=
    World.shippedFunding_eq_some.mp shipped
  have committed : next (.applyFulfillment actor input) world.db = result :=
    commit_of_ok (map_eq_ok.mpr ⟨(action, result), done, rfl⟩)
  obtain ⟨order, changed, stored, _, after, gone, same⟩ := applyFulfillment_ship ship first done
  rw [stored] at funding
  refine ⟨payment.id, index, ⟨changed, ?_, same.trans funding, gone⟩, ?_⟩
  · change changed ∈ (next (.applyFulfillment actor input) world.db).orders
    rw [committed]
    exact Table.mem_of_find? after
  · intro around
    have called : run.call around = some
        { paymentID := payment.id
          request := refundRequest method payment refund
          moved := around.moved } := by
      rw [RefundRun.call, stage]
      exact if_neg unsettled
    exact ⟨_, Option.bind_eq_some_iff.mpr ⟨run, standing, called⟩, rfl⟩

/-- As long as nothing is shipped ahead of a call, no call comes after a shipment;
and the first shipment ahead of a call lets that call come after it. -/
theorem refund_call_undispatched {start : World} {history : List Event} (initial : start.Initial)
    (clear : Throughout ShipsClear World.next start history) :
    (∀ event call, World.call event (run World.next start history) = some call →
      ∀ order ∈ (run World.next start history).db.orders,
        order.paidPaymentId = some call.paymentID →
          order.status ≠ .shipped ∧ order.status ≠ .completed) ∧
    ∀ event, ¬ ShipsClear event (run World.next start history) →
      ∃ paymentID index,
        (∃ order ∈ (World.next event (run World.next start history)).db.orders,
          order.paidPaymentId = some paymentID ∧ order.status = .shipped) ∧
        ∀ around, ∃ call,
          World.call (.advance index around) (World.next event (run World.next start history)) =
            some call ∧ call.paymentID = paymentID := by
  refine ⟨?_, fun event against => call_after_shipment against⟩
  intro event call called order member funds
  obtain ⟨going, inside, method, payment, refund, stage, unsettled, about, _⟩ :=
    World.call_eq_some called
  have ahead : World.refundAhead call.paymentID (run World.next start history) = true :=
    World.refundAhead_eq_true.mpr ⟨going, inside, RefundRun.ahead_eq_true.mpr
      ⟨method, payment, refund, stage, about.symm, unsettled⟩⟩
  have home := World.GoodsKept.run initial clear call.paymentID ahead order member funds
  constructor
  · intro shipped
    rw [shipped] at home
    cases home
  · intro completed
    rw [completed] at home
    cases home

/-- A shipment is asked for while two runs stand before their calls, and refused. -/
theorem refund_call_undispatched_preparedHistory :
    ∃ call, World.call (.advance 0 (teaSurroundings "RFND1" none 200))
        (run World.next smallWorld
          (preparedHistory ++ [.operation (.applyFulfillment shopAdmin shipTea)])) = some call ∧
      ∀ order ∈ (run World.next smallWorld
          (preparedHistory ++ [.operation (.applyFulfillment shopAdmin shipTea)])).db.orders,
        order.paidPaymentId = some call.paymentID →
          order.status ≠ .shipped ∧ order.status ≠ .completed := by
  have called : (World.call (.advance 0 (teaSurroundings "RFND1" none 200))
      (run World.next smallWorld
        (preparedHistory ++ [.operation (.applyFulfillment shopAdmin shipTea)]))).map
      GatewayCall.paymentID = some 1 := by
    decide +kernel
  obtain ⟨call, made, _⟩ := Option.map_eq_some_iff.mp called
  exact ⟨call, made,
    (refund_call_undispatched smallWorld_initial (by decide +kernel)).1 _ call made⟩

/-- Two runs share a refund row.  The second one is rejected and records it, the
goods are shipped, and the first one still stands before its call. -/
def shippedAheadWorld : World :=
  run World.next smallWorld
    (preparedHistory ++
      [.advance 1 (teaSurroundings "RFND2" (some { success := false, rejection := true }) 0),
        .advance 1 (teaSurroundings "RFND2" none 0),
        .operation (.applyFulfillment shopAdmin shipTea)])

/-- The first run calls for money of goods that are on their way. -/
theorem shippedAheadWorld_calls :
    shippedAheadWorld.Reached ∧
      (shippedAheadWorld.db.orders.find? 1).map (fun order => (order.paidPaymentId, order.status)) =
        some (some 1, .shipped) ∧
      (World.call (.advance 0
          (teaSurroundings "RFND1" (some { success := true, rejection := false }) 200))
        shippedAheadWorld).map
          (fun call => (call.paymentID, call.request.amount, call.moved)) = some (1, 200, 200) :=
  ⟨⟨smallWorld, _, smallWorld_initial, rfl⟩, by decide +kernel, by decide +kernel⟩

end Mall
