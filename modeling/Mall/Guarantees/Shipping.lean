/-
The fulfilment history of an order is the order's status.
-/

import Mall.Guarantees.Histories

namespace Mall

open Relational Transactional

variable {citation : Citation} {db result : Database} {action : FulfillmentAction}

def shipmentsOf (actions : Table FulfillmentAction) (orderId : Int) : List FulfillmentAction :=
  actions.rows.filter (fun action => action.orderId == orderId)

def FulfillmentAction.Records (action : FulfillmentAction) (kind : FulfillmentKind) : Prop :=
  action.action = kind ∧ action.fromStatus = kind.startsFrom ∧ action.toStatus = kind.endsIn

def OrderStatus.Shipments (status : OrderStatus) (actions : List FulfillmentAction) : Prop :=
  match status with
  | .shipped => ∃ ship, actions = [ship] ∧ ship.Records .ship
  | .completed => ∃ ship complete, actions = [ship, complete] ∧ ship.Records .ship ∧
      complete.Records .complete
  | _ => actions = []

/-- Every order has the history of its status, and nothing else has a history. -/
structure ShipmentsMatch (journal : Journal) : Prop where
  ordered : ∀ {id order}, journal.orders.find? id = some order →
    order.status.Shipments (shipmentsOf journal.fulfillmentActions id)
  owned : ∀ {id}, journal.orders.find? id = none →
    shipmentsOf journal.fulfillmentActions id = []

/-! ### Keeping the history -/

private theorem Order.Turn.shipments {order later : Order} {actions : List FulfillmentAction}
    (turn : order.Turn later) (history : order.status.Shipments actions) :
    later.status.Shipments actions := by
  cases turn with
  | still => exact history
  | pay payment pending =>
      rw [pending] at history
      exact history
  | cancel pending =>
      rw [pending] at history
      exact history
  | refund paid =>
      rw [paid] at history
      exact history

private theorem ShipmentsMatch.turn {before after : Journal} (matched : ShipmentsMatch before)
    (turn : Turn citation before after) : ShipmentsMatch after := by
  obtain ⟨_, _, same⟩ := turn.sameActions
  constructor
  · intro id later present
    rw [same]
    rcases turn.orders.origin present with ⟨order, found, moved⟩ | ⟨absent, placed⟩
    · exact moved.shipments (matched.ordered found)
    · rw [placed.pending]
      exact matched.owned absent
  · intro id absent
    rw [same]
    apply matched.owned
    cases found : before.orders.find? id with
    | none => rfl
    | some order =>
        obtain ⟨later, present, _⟩ := turn.orders.kept found
        rw [absent] at present
        cases present

private theorem shipmentsOf_insert_self (actions : Table FulfillmentAction)
    (action : FulfillmentAction) :
    shipmentsOf (actions.insert action) action.orderId =
      shipmentsOf actions action.orderId ++ [actions.inserted action] := by
  have own : (actions.inserted action).orderId = action.orderId := rfl
  change List.filter _ (actions.rows ++ [actions.inserted action]) = _
  simp [shipmentsOf, own]

private theorem shipmentsOf_insert_of_ne (actions : Table FulfillmentAction) {id : Int}
    (elsewhere : id ≠ action.orderId) :
    shipmentsOf (actions.insert action) id = shipmentsOf actions id := by
  have other : ¬ (actions.inserted action).orderId = id := fun same => elsewhere same.symm
  change List.filter _ (actions.rows ++ [actions.inserted action]) = _
  simp [shipmentsOf, other]

/-- A shipment extends the history of its order by the action it records. -/
theorem ShipmentsMatch.fulfil {journal : Journal} {order : Order} {funding : Payment}
    (matched : ShipmentsMatch journal) (audits : action.Audits order funding journal) :
    (order.fulfilled action.action).status.Shipments
      (shipmentsOf (journal.fulfillmentActions.insert action) action.orderId) := by
  have history := matched.ordered audits.present
  have records : (journal.fulfillmentActions.inserted action).Records action.action :=
    ⟨rfl, audits.fromStatus.trans audits.starts, audits.toStatus⟩
  rw [shipmentsOf_insert_self]
  rw [audits.starts] at history
  cases kind : action.action with
  | ship =>
      rw [kind] at history records
      have none : shipmentsOf journal.fulfillmentActions action.orderId = [] := history
      rw [none]
      exact ⟨_, rfl, records⟩
  | complete =>
      rw [kind] at history records
      obtain ⟨ship, alone, first⟩ := history
      rw [alone]
      exact ⟨ship, _, rfl, first, records⟩

private theorem ShipmentsMatch.audited {before after : Journal} (matched : ShipmentsMatch before)
    (audited : Audited before after) : ShipmentsMatch after := by
  cases audited with
  | retry action row audits kind required toStatus => exact ⟨matched.ordered, matched.owned⟩
  | resolve action row now audits kind review toStatus => exact ⟨matched.ordered, matched.owned⟩
  | fulfil action order funding audits =>
      have lookup := before.orders.find?_update (Order.fulfilled action.action) audits.present
      constructor
      · intro id later present
        rw [lookup] at present
        rcases update_eq_some present with ⟨rfl, rfl⟩ | ⟨elsewhere, unchanged⟩
        · exact matched.fulfil audits
        · rw [shipmentsOf_insert_of_ne _ elsewhere]
          exact matched.ordered unchanged
      · intro id absent
        have elsewhere : id ≠ action.orderId := by
          rintro rfl
          rw [lookup, Function.update_self] at absent
          cases absent
        rw [lookup, Function.update_of_ne elsewhere] at absent
        rw [shipmentsOf_insert_of_ne _ elsewhere]
        exact matched.owned absent

private theorem ShipmentsMatch.booked {before after : Journal} (matched : ShipmentsMatch before)
    (booked : Booked citation before after) : ShipmentsMatch after := by
  have entered : ∀ {middle}, Entries before middle → ShipmentsMatch middle := by
    intro middle path
    have same := path.sameAudit
    constructor
    · rw [same.orders, same.fulfillmentActions]
      exact matched.ordered
    · rw [same.orders, same.fulfillmentActions]
      exact matched.owned
  cases booked with
  | entries path => exact entered path
  | turned path turn => exact (entered path).turn turn
  | audited audited => exact matched.audited audited

private theorem Reached.shipmentsMatch (reached : Reached db) : ShipmentsMatch db.journal := by
  refine Reachable.invariant (motive := fun db => ShipmentsMatch db.journal) ?_ ?_ reached
  · intro start initial
    constructor
    · intro id order present
      have absent : start.orders.find? id = none := Table.find?_of_empty initial.noOrders id
      rw [show start.journal.orders.find? id = none from absent] at present
      cases present
    · intro id _
      change start.fulfillmentActions.rows.filter _ = []
      rw [initial.noFulfillmentActions]
      rfl
  · intro state operation earlier matched
    exact matched.booked (next_booked operation (Reached.valid earlier).sound)

/-! ### Later states -/

theorem Reached.actorsKnown (reached : Reached db) : ActorsKnown db.journal := by
  refine Reachable.invariant (motive := fun db => ActorsKnown db.journal) ?_ ?_ reached
  · intro start initial
    constructor
    · intro action member
      have listed : action ∈ start.reconciliationActions.rows := member
      rw [initial.noReconciliationActions] at listed
      exact absurd listed List.not_mem_nil
    · intro action member
      have listed : action ∈ start.fulfillmentActions.rows := member
      rw [initial.noFulfillmentActions] at listed
      exact absurd listed List.not_mem_nil
  · intro state operation earlier known
    exact (next_booked operation (Reached.valid earlier).sound).actorsKnown known

theorem run_auditGrows (reached : Reached db) (history : List Operation) :
    AuditGrows db.journal (run next db history).journal := by
  induction history generalizing db with
  | nil => exact .refl _
  | cons operation rest ih =>
      exact (next_booked operation reached.valid.sound).auditGrows.trans (ih (reached.step operation))

/-! ### Replays -/

private theorem applyFulfillment_accepts {actor : Actor} {input : OrderFulfillmentInput}
    (done : applyFulfillment actor input db = .ok (action, result)) :
    input.validate actor = .ok () ∧
      ∃ order, db.orders.find? input.orderID = some order ∧
        (actor.admin = true ∨ actor.id = order.userId) := by
  unfold applyFulfillment at done
  obtain ⟨_, valid, done⟩ := bind_eq_ok.mp done
  obtain ⟨_, _, done⟩ := bind_eq_ok.mp done
  obtain ⟨order, present, done⟩ := bind_eq_ok.mp done
  obtain ⟨_, permitted, done⟩ := bind_eq_ok.mp done
  exact ⟨valid, order, found_eq_ok.mp present, require_eq_ok.mp permitted⟩

private theorem applyFulfillment_recorded {actor : Actor} {input : OrderFulfillmentInput}
    (done : applyFulfillment actor input db = .ok (action, result)) :
    result.getOrderFulfillmentAction input.orderID input.idempotencyKey = some action ∧
      sameFulfillment actor input action := by
  obtain ⟨order, present, key, ⟨recorded, same, rfl⟩ | ⟨unused, paid, changed, moved, _, _, _, mark,
    audit, _⟩⟩ := applyFulfillment_eq_ok done
  · exact ⟨key ▸ recorded, same⟩
  · obtain ⟨rfl, rfl, _⟩ := createOrderFulfillmentAction_eq_ok audit
    obtain ⟨_, rfl⟩ := markFulfilled_eq_some mark
    refine ⟨?_, rfl, rfl, rfl, rfl, rfl⟩
    rw [← key]
    change List.find? _ (db.fulfillmentActions.rows ++ [_]) = _
    rw [List.find?_append]
    change (db.getOrderFulfillmentAction order.id input.idempotencyKey).or _ = _
    rw [unused]
    simp [shippingRow, Table.inserted, Identified.assign]

private theorem getOrderFulfillmentAction_of_prefix {later : Database} {orderId : Int}
    {key : String} (grows : AuditGrows db.journal later.journal)
    (recorded : db.getOrderFulfillmentAction orderId key = some action) :
    later.getOrderFulfillmentAction orderId key = some action := by
  obtain ⟨added, split⟩ := grows.fulfillment
  change List.find? _ later.journal.fulfillmentActions.rows = _
  rw [← split, List.find?_append]
  change (db.getOrderFulfillmentAction orderId key).or _ = _
  rw [recorded]
  rfl

private theorem applyFulfillment_of_recorded {actor : Actor} {input : OrderFulfillmentInput}
    {order : Order} (valid : input.validate actor = .ok ())
    (account : (db.users.find? actor.id).isSome = true)
    (present : db.orders.find? input.orderID = some order)
    (permitted : actor.admin = true ∨ actor.id = order.userId)
    (recorded : db.getOrderFulfillmentAction input.orderID input.idempotencyKey = some action)
    (same : sameFulfillment actor input action) :
    applyFulfillment actor input db = .ok (action, db) := by
  obtain ⟨user, known⟩ := Option.isSome_iff_exists.mp account
  have key : order.id = input.orderID := Table.key_of_find? present
  unfold applyFulfillment
  rw [valid, ok_bind, Database.lockUserForReference, known, found_some, ok_bind, Database.getOrder,
    present, found_some, ok_bind, require_of permitted, ok_bind, key, recorded]
  dsimp only
  rw [require_of same]
  rfl

private theorem applyFulfillment_conflict {actor : Actor} {input : OrderFulfillmentInput}
    (recorded : db.getOrderFulfillmentAction input.orderID input.idempotencyKey = some action)
    (different : ¬ sameFulfillment actor input action) :
    ∃ fault, applyFulfillment actor input db = .error fault := by
  cases outcome : applyFulfillment actor input db with
  | error fault => exact ⟨fault, rfl⟩
  | ok pair =>
      obtain ⟨answer, after⟩ := pair
      obtain ⟨order, _, key, ⟨found, same, _⟩ | ⟨unused, _⟩⟩ := applyFulfillment_eq_ok outcome
      · rw [key, recorded] at found
        cases found
        exact absurd same different
      · rw [key, recorded] at unused
        cases unused

/-- The fulfilment actions of an order are its status; keys are answered once and
for all; goods move only on money that is there to stay. -/
theorem fulfilment_history_matches (reached : Reached db) :
    (∀ order ∈ db.orders,
      (order.status = .shipped ↔ ∃ ship, shipmentsOf db.fulfillmentActions order.id = [ship] ∧
        ship.action = .ship ∧ ship.fromStatus = .paid ∧ ship.toStatus = .shipped) ∧
      (order.status = .completed ↔
        ∃ ship complete, shipmentsOf db.fulfillmentActions order.id = [ship, complete] ∧
          (ship.action = .ship ∧ ship.fromStatus = .paid ∧ ship.toStatus = .shipped) ∧
          complete.action = .complete ∧ complete.fromStatus = .shipped ∧
          complete.toStatus = .completed) ∧
      (order.status ≠ .shipped → order.status ≠ .completed →
        shipmentsOf db.fulfillmentActions order.id = [])) ∧
    (∀ actor input action result history,
      applyFulfillment actor input db = .ok (action, result) →
      applyFulfillment actor input (run next result history) =
          .ok (action, run next result history) ∧
        ∀ other request, request.orderID = input.orderID →
          request.idempotencyKey = input.idempotencyKey →
          other.id ≠ actor.id ∨ request.action ≠ input.action ∨ request.reason ≠ input.reason ∨
            request.carrier ≠ input.carrier ∨ request.trackingNumber ≠ input.trackingNumber →
          (∃ fault, applyFulfillment other request (run next result history) = .error fault) ∧
            next (.applyFulfillment other request) (run next result history) =
              run next result history) ∧
    (∀ operation, ∀ action ∈ (next operation db).fulfillmentActions,
      action ∉ db.fulfillmentActions →
      ∃ order payment, db.orders.find? action.orderId = some order ∧
        order.paidPaymentId = some payment.id ∧ db.payments.find? payment.id = some payment ∧
        payment.status = .success ∧ payment.needsReview = false ∧
        ∀ refund ∈ db.refunds, refund.paymentId = payment.id →
          refund.status ≠ .pending ∧ refund.status ≠ .success) := by
  refine ⟨?_, ?_, ?_⟩
  · intro order member
    have history := reached.shipmentsMatch.ordered
      (show db.journal.orders.find? order.id = some order from Table.find?_key member)
    change order.status.Shipments (shipmentsOf db.fulfillmentActions order.id) at history
    cases status : order.status with
    | shipped =>
        rw [status] at history
        refine ⟨⟨fun _ => history, fun _ => rfl⟩, ⟨nofun, ?_⟩, fun absurd _ => (absurd rfl).elim⟩
        rintro ⟨ship, complete, both, _⟩
        obtain ⟨alone, single, _⟩ := history
        rw [single] at both
        cases both
    | completed =>
        rw [status] at history
        refine ⟨⟨nofun, ?_⟩, ⟨fun _ => history, fun _ => rfl⟩, fun _ absurd => (absurd rfl).elim⟩
        rintro ⟨ship, alone, _⟩
        obtain ⟨first, second, both, _⟩ := history
        rw [both] at alone
        cases alone
    | _ =>
        rw [status] at history
        have none : shipmentsOf db.fulfillmentActions order.id = [] := history
        refine ⟨⟨nofun, ?_⟩, ⟨nofun, ?_⟩, fun _ _ => none⟩
        · rintro ⟨ship, alone, _⟩
          rw [none] at alone
          cases alone
        · rintro ⟨ship, complete, both, _⟩
          rw [none] at both
          cases both
  · intro actor input action result history done
    have committed : next (.applyFulfillment actor input) db = result := by
      apply commit_of_ok
      rw [execute, done]
      rfl
    have after : Reached result := committed ▸ reached.step (.applyFulfillment actor input)
    obtain ⟨recorded, same⟩ := applyFulfillment_recorded done
    have stored := getOrderFulfillmentAction_of_prefix (run_auditGrows after history) recorded
    obtain ⟨valid, order, present, permitted⟩ := applyFulfillment_accepts done
    constructor
    · obtain ⟨later, found, kept, _⟩ :=
        run_order_kept reached (.applyFulfillment actor input :: history) present
      rw [run_cons, committed] at found
      have account := (Reached.actorsKnown (after.run history)).shippers action
        (List.mem_of_find?_eq_some stored)
      rw [same.1] at account
      exact applyFulfillment_of_recorded valid account found (kept.user ▸ permitted) stored same
    · intro other request sameOrder sameKey different
      rw [← sameOrder, ← sameKey] at stored
      have rejected : ¬ sameFulfillment other request action := by
        rintro ⟨actorSame, kindSame, reasonSame, carrierSame, trackingSame⟩
        obtain ⟨actorFirst, kindFirst, reasonFirst, carrierFirst, trackingFirst⟩ := same
        rcases different with actorOther | kindOther | reasonOther | carrierOther | trackingOther
        · exact actorOther (actorSame.symm.trans actorFirst)
        · exact kindOther (kindSame.symm.trans kindFirst)
        · exact reasonOther (reasonSame.symm.trans reasonFirst)
        · exact carrierOther (carrierSame.symm.trans carrierFirst)
        · exact trackingOther (trackingSame.symm.trans trackingFirst)
      obtain ⟨fault, fails⟩ := applyFulfillment_conflict stored rejected
      refine ⟨⟨fault, fails⟩, ?_⟩
      rw [next, commit, execute, fails]
      rfl
  · intro operation action member fresh
    have booked := next_booked operation reached.valid.sound
    have listed : action ∈ (next operation db).journal.fulfillmentActions := member
    generalize (next operation db).journal = after at booked listed
    cases booked with
    | entries path =>
        rw [path.sameAudit.fulfillmentActions] at listed
        exact absurd listed fresh
    | turned path turn =>
        rw [turn.sameActions.2.2, path.sameAudit.fulfillmentActions] at listed
        exact absurd listed fresh
    | audited audited =>
        cases audited with
        | retry other row audits kind required toStatus => exact absurd listed fresh
        | resolve other row now audits kind review toStatus => exact absurd listed fresh
        | fulfil stored order funding audits =>
            rcases Table.mem_insert.mp listed with old | rfl
            · exact absurd old fresh
            · refine ⟨order, funding, audits.present, audits.funded, audits.received, audits.success,
                audits.reviewed, fun refund known about => ?_⟩
              rw [audits.kept refund known about]
              exact ⟨by decide, by decide⟩

theorem fulfilment_history_matches_paidShop :
    (applyFulfillment shopAdmin shipTea paidShop).isOk = true ∧
      ∃ action shipped, applyFulfillment shopAdmin shipTea paidShop = .ok (action, shipped) ∧
        applyFulfillment shopAdmin shipTea shipped = .ok (action, shipped) := by
  have ok : (applyFulfillment shopAdmin shipTea paidShop).isOk = true := by
    decide +kernel
  refine ⟨ok, ?_⟩
  cases outcome : applyFulfillment shopAdmin shipTea paidShop with
  | error fault =>
      rw [outcome] at ok
      cases ok
  | ok pair =>
      obtain ⟨_, replays, _⟩ := fulfilment_history_matches paidShop_reached
      exact ⟨pair.1, pair.2, rfl, (replays shopAdmin shipTea pair.1 pair.2 [] outcome).1⟩

end Mall
