/-
Order creation is idempotent.
-/

import Mall.Guarantees.Histories
import Mall.OrderRequests
import Mall.Refinement.Footprints
import Mathlib.Data.List.Pairwise

namespace Mall

open Relational Transactional

variable {db result : Database} {settings : OrderSettings} {world : OrderWorld} {order : Order}

/-! ### The request hash -/

private theorem encodeItem_inj {left right : OrderItemInput} {rest others : List Char}
    (same : encodeItem left ++ rest = encodeItem right ++ others) :
    left = right ∧ rest = others := by
  obtain ⟨product, quantity, tails⟩ :=
    Decimal.two_digits_inj (by decide +kernel) (by decide +kernel) same
  cases left
  cases right
  cases product
  cases quantity
  exact ⟨rfl, tails⟩

private theorem encodeItems_cons_cons (first second : OrderItemInput) (rest : List OrderItemInput)
    (others : List Char) :
    encodeItems (first :: second :: rest) ++ others =
      encodeItem first ++ ',' :: (encodeItems (second :: rest) ++ others) := by
  rw [encodeItems, List.append_assoc, List.cons_append]
  nofun

private theorem encodeItems_inj {left right : List OrderItemInput} {rest others : List Char}
    (same : encodeItems left ++ ']' :: rest = encodeItems right ++ ']' :: others) :
    left = right ∧ rest = others := by
  induction left generalizing right with
  | nil =>
      cases right with
      | nil => exact ⟨rfl, (List.cons.inj same).2⟩
      | cons item tail => cases tail <;> cases same
  | cons first more ih =>
      cases right with
      | nil => cases more <;> cases same
      | cons item tail =>
          cases more with
          | nil =>
              cases tail with
              | nil =>
                  obtain ⟨rfl, ends⟩ := encodeItem_inj same
                  exact ⟨rfl, (List.cons.inj ends).2⟩
              | cons second later =>
                  rw [encodeItems_cons_cons] at same
                  cases (encodeItem_inj same).2
          | cons second later =>
              cases tail with
              | nil =>
                  rw [encodeItems_cons_cons] at same
                  cases (encodeItem_inj same).2
              | cons third last =>
                  rw [encodeItems_cons_cons, encodeItems_cons_cons] at same
                  obtain ⟨rfl, ends⟩ := encodeItem_inj same
                  obtain ⟨tails, final⟩ := ih (List.cons.inj ends).2
                  exact ⟨by rw [tails], final⟩

private theorem encodeItems_closed_inj {left right : List OrderItemInput} {closing : List Char}
    (ends : closing.head? = some ']')
    (same : encodeItems left ++ closing = encodeItems right ++ closing) : left = right := by
  obtain ⟨rest, rfl⟩ := List.head?_eq_some_iff.mp ends
  exact (encodeItems_inj same).1

private theorem encodeOrderRequest_injective {user otherUser address otherAddress : Int}
    {items others : List OrderItemInput}
    (same : encodeOrderRequest user address items =
      encodeOrderRequest otherUser otherAddress others) :
    user = otherUser ∧ address = otherAddress ∧ items = others := by
  obtain ⟨users, addresses, lists⟩ := Decimal.two_digits_inj (by decide +kernel)
    (by decide +kernel) ((List.append_assoc ..).symm.trans (same.trans (List.append_assoc ..)))
  exact ⟨users, addresses, encodeItems_closed_inj (by decide +kernel) lists⟩

/-- The address and the set of items of a request. -/
structure CreateOrderReq.SameOrder (request other : CreateOrderReq) : Prop where
  address : request.addressID = other.addressID
  items : ∀ item, item ∈ request.items ↔ item ∈ other.items

private theorem sortItems_eq_iff {left right : List OrderItemInput} (accepted : ItemsAccepted left)
    (others : ItemsAccepted right) :
    sortItems left = sortItems right ↔ ∀ item, item ∈ left ↔ item ∈ right := by
  have leftPerm : (sortItems left).Perm left := List.perm_insertionSort _ left
  have rightPerm : (sortItems right).Perm right := List.perm_insertionSort _ right
  constructor
  · intro same item
    rw [← leftPerm.mem_iff, same, rightPerm.mem_iff]
  · intro same
    have perm : (sortItems left).Perm (sortItems right) :=
      leftPerm.trans (((List.perm_ext_iff_of_nodup accepted.distinct.of_map
        others.distinct.of_map).mpr same).trans rightPerm.symm)
    refine perm.eq_of_pairwise ?_ (List.pairwise_insertionSort _ left)
      (List.pairwise_insertionSort _ right)
    -- equal products are the same item, because a list names each product once
    intro item other member otherMember le ge
    have listed : other ∈ sortItems left := perm.symm.subset otherMember
    exact List.inj_on_of_nodup_map accepted.sort.distinct member listed (le_antisymm le ge)

/-- Two acceptable requests of one user hash alike exactly when they ask for the
same order. -/
theorem hashOrderRequest_eq_iff (collisionFree : Function.Injective settings.sha256)
    {request other : CreateOrderReq} (accepted : ItemsAccepted request.items)
    (others : ItemsAccepted other.items) (user : request.userID = other.userID) :
    settings.hashOrderRequest request.userID request.addressID (sortItems request.items) =
        settings.hashOrderRequest other.userID other.addressID (sortItems other.items) ↔
      request.SameOrder other := by
  constructor
  · intro same
    obtain ⟨_, address, items⟩ :=
      encodeOrderRequest_injective (String.ofList_inj.mp (collisionFree same))
    exact ⟨address, (sortItems_eq_iff accepted others).mp items⟩
  · intro same
    rw [user, same.address, (sortItems_eq_iff accepted others).mpr same.items]

/-! ### Placing -/

def quantityOf (items : List OrderItemInput) (product : Int) : Int :=
  (items.map (fun item => if item.productID = product then item.quantity else 0)).sum

private theorem quantityOf_sortItems (items : List OrderItemInput) (product : Int) :
    quantityOf (sortItems items) product = quantityOf items product :=
  ((List.perm_insertionSort _ items).map _).sum_eq

private theorem reserveItems_effect {orderID : Int} {snapshots : List ItemSnapshot}
    (done : reserveItems orderID snapshots db = .ok result) :
    result.orders = db.orders ∧ result.jobs = db.jobs ∧
      ∀ product, result.onHand product =
        db.onHand product - quantityOf (snapshots.map ItemSnapshot.input) product := by
  induction snapshots generalizing db with
  | nil =>
      cases done
      exact ⟨rfl, rfl, fun product => (Int.sub_zero _).symm⟩
  | cons snapshot rest ih =>
      rw [reserveItems] at done
      obtain ⟨⟨_, reduced⟩, taken, done⟩ := bind_eq_ok.mp done
      obtain ⟨row, known, _, _, rfl⟩ :=
        Database.updateProductRow_eq_some.mp (found_eq_ok.mp taken)
      obtain ⟨orders, jobs, stock⟩ := ih done
      refine ⟨orders, jobs, fun product => ?_⟩
      rw [stock, List.map_cons, quantityOf, quantityOf, List.map_cons, List.sum_cons]
      by_cases here : snapshot.input.productID = product
      · subst here
        simp only [Database.onHand, Database.createOrderItem, Table.find?_update_self, known,
          Option.map_some, Option.getD_some, Identified.assign, if_true]
        omega
      · simp only [Database.onHand, Database.createOrderItem,
          Table.find?_update_of_ne _ _ (Ne.symm here), if_neg here]
        omega

structure Opened (args : CreateOrderArgs) (db : Database) (order : Order) (result : Database) :
    Prop where
  unused : db.getOrderByUserIdempotency args.userID args.idempotencyKey = none
  fresh : db.orders.find? order.id = none
  orders : result.orders.find? = Function.update db.orders.find? order.id (some order)
  user : order.userId = args.userID
  key : order.idempotencyKey = args.idempotencyKey
  hash : order.requestHash = args.requestHash
  pending : order.status = .pendingPayment
  stock : ∀ product, result.onHand product = db.onHand product - quantityOf args.items product
  expiry : result.jobs = (db.enqueue (.expireOrder order.id) (some order.expiresAt)).2.jobs

private theorem enqueue_jobs_eq {other : Database} (same : other.jobs = db.jobs) (args : JobArgs)
    (scheduledAt : Option Time) :
    (other.enqueue args scheduledAt).2.jobs = (db.enqueue args scheduledAt).2.jobs := by
  unfold Database.enqueue
  rw [same]
  split
  · exact same
  · rfl

private theorem openOrder_eq_ok {args : CreateOrderArgs} {now : Time}
    (done : openOrder args now db = .ok (order, result)) : Opened args db order result := by
  unfold openOrder at done
  obtain ⟨_, _, done⟩ := bind_eq_ok.mp done
  obtain ⟨address, _, done⟩ := bind_eq_ok.mp done
  obtain ⟨⟨snapshots, total⟩, priced, done⟩ := bind_eq_ok.mp done
  obtain ⟨_, _, done⟩ := bind_eq_ok.mp done
  obtain ⟨⟨created, stored⟩, opened, done⟩ := bind_eq_ok.mp done
  obtain ⟨reserved, written, done⟩ := bind_eq_ok.mp done
  cases pure_eq_ok.mp done
  unfold Database.createOrderRow at opened
  obtain ⟨_, _, opened⟩ := bind_eq_ok.mp opened
  obtain ⟨_, _, opened⟩ := bind_eq_ok.mp opened
  obtain ⟨_, unused, opened⟩ := bind_eq_ok.mp opened
  cases pure_eq_ok.mp opened
  obtain ⟨orders, jobs, stock⟩ := reserveItems_effect written
  have waiting : reserved.jobs = db.jobs := jobs
  have inputs := snapshotItems_eq_ok priced
  obtain ⟨queue, queued⟩ := reserved.enqueue_snd
    (.expireOrder (db.orders.inserted (newOrder args address total now)).id)
    (some (db.orders.inserted (newOrder args address total now)).expiresAt)
  refine
    { unused := Option.isNone_iff_eq_none.mp (require_eq_ok.mp unused)
      fresh := db.orders.find?_next
      orders := ?_
      user := rfl
      key := rfl
      hash := rfl
      pending := rfl
      stock := ?_
      expiry := enqueue_jobs_eq waiting _ _ }
  · rw [queued]
    change reserved.orders.find? = _
    rw [orders]
    exact Table.find?_insert ..
  · intro product
    rw [queued, ← quantityOf_sortItems, ← inputs]
    exact stock product

/-- Under a key that names no order, the two parts are the transaction. -/
theorem placeOrder_of_unused {args : CreateOrderArgs} {now : Time}
    (unused : db.getOrderByUserIdempotency args.userID args.idempotencyKey = none) :
    placeOrder args now db = openOrder args now db := by
  rw [placeOrder, unused]
  rfl

private theorem openOrder_execute {request : CreateOrderReq} {orderNo key : String}
    {items : List OrderItemInput} {now : Time} (valid : request.validate = .ok (key, items))
    (done : openOrder (request.args settings orderNo key items) now db = .ok (order, result)) :
    next (.createOrder settings.hashOrderRequest orderNo settings.paymentTimeout now request) db =
      result := by
  have placed := (placeOrder_of_unused (openOrder_eq_ok done).unused).trans done
  have submitted : submitOrder settings.hashOrderRequest orderNo settings.paymentTimeout now
      request db = .ok (order, result) := by
    rw [submitOrder, valid, ok_bind]
    change createOrder (request.args settings orderNo key items) now db = _
    rw [createOrder, placed]
  refine commit_of_ok ?_
  rw [execute, submitted]
  rfl

/-! ### Keys -/

private theorem getOrderByUserIdempotency_eq_none {user : Int} {key : String} :
    db.getOrderByUserIdempotency user key = none ↔
      ∀ order ∈ db.orders, order.userId = user → order.idempotencyKey ≠ key := by
  rw [Database.getOrderByUserIdempotency, List.find?_eq_none]
  constructor
  · intro absent order member sameUser sameKey
    exact absent order member (by simp [sameUser, sameKey])
  · intro absent order member found
    simp only [Bool.and_eq_true, beq_iff_eq] at found
    exact absent order member found.1 found.2

private theorem getOrderByUserIdempotency_eq_some {user : Int} {key : String}
    (found : db.getOrderByUserIdempotency user key = some order) :
    order ∈ db.orders ∧ order.userId = user ∧ order.idempotencyKey = key := by
  have chosen := List.find?_some found
  simp only [Bool.and_eq_true, beq_iff_eq] at chosen
  exact ⟨List.mem_of_find?_eq_some found, chosen.1, chosen.2⟩

/-! ### Runs -/

def OrderRun.Fits (settings : OrderSettings) (run : OrderRun) : Prop :=
  ∃ orderNo key items, run.request.validate = .ok (key, items) ∧
    run.args = run.request.args settings orderNo key items

inductive OrderRun.Continues (settings : OrderSettings) (db : Database) (run : OrderRun) :
    OrderProgress → Prop
  | missed (before : run.stage = .lookup)
      (unused : db.getOrderByUserIdempotency run.args.userID run.args.idempotencyKey = none) :
      run.Continues settings db (.going { run with stage := .place })
  | again (orderNo : String) (before : run.stage = .place) :
      run.Continues settings db
        (.going
          { run with
            args := { run.args with outTradeNo := orderNo }
            attempt := run.attempt + 1
            stage := .lookup })
  | refused (before : run.stage = .place) :
      run.Continues settings db (.going { run with stage := .recover })
  | replayed (existing : Order) (before : run.stage = .lookup)
      (found : db.getOrderByUserIdempotency run.args.userID run.args.idempotencyKey =
        some existing) :
      run.Continues settings db
        (.answered (replayOrder run.args existing >>= settings.decryptShipping))
  | failed (fault : Fault) (before : run.stage = .place) :
      run.Continues settings db (.answered (.error fault))
  | recovered (before : run.stage = .recover) :
      run.Continues settings db
        (.answered (recoverOrder run.args db >>= settings.decryptShipping))

/-- Everything that one step of a run can do. -/
theorem OrderRun.advance_cases (settings : OrderSettings) (now : Time) (orderNo : String)
    (run : OrderRun) (db : Database) :
    (∃ order result, run.stage = .place ∧ openOrder run.args now db = .ok (order, result) ∧
      run.advance settings now orderNo db = (.answered (settings.decryptShipping order), result) ∧
      run.placement now db = some { request := run.request, order := order }) ∨
    ∃ progress, run.Continues settings db progress ∧
      run.advance settings now orderNo db = (progress, db) ∧ run.placement now db = none := by
  cases stage : run.stage with
  | lookup =>
      right
      have silent : run.placement now db = none := by
        rw [OrderRun.placement, stage]
      cases found : db.getOrderByUserIdempotency run.args.userID run.args.idempotencyKey with
      | none =>
          refine ⟨_, .missed stage found, ?_, silent⟩
          rw [OrderRun.advance, stage]
          dsimp only
          rw [found]
      | some existing =>
          refine ⟨_, .replayed existing stage found, ?_, silent⟩
          rw [OrderRun.advance, stage]
          dsimp only
          rw [found]
  | recover =>
      right
      refine ⟨_, .recovered stage, ?_, ?_⟩
      · rw [OrderRun.advance, stage]
      · rw [OrderRun.placement, stage]
  | place =>
      cases opened : openOrder run.args now db with
      | ok pair =>
          refine Or.inl ⟨pair.1, pair.2, rfl, rfl, ?_, ?_⟩
          · rw [OrderRun.advance, stage]
            dsimp only
            rw [opened]
          · rw [OrderRun.placement, stage, opened]
      | error fault =>
          right
          have silent : run.placement now db = none := by
            rw [OrderRun.placement, stage, opened]
          have step : run.advance settings now orderNo db =
              if fault = Fault.uniqueViolation "idx_orders_out_trade_no" then
                (run.collide orderNo, db)
              else if fault = Fault.uniqueViolation "idx_orders_user_idempotency" then
                (.going { run with stage := .recover }, db)
              else (.answered (.error fault), db) := by
            rw [OrderRun.advance, stage]
            dsimp only
            rw [opened]
          split at step
          · rw [OrderRun.collide] at step
            split at step
            · exact ⟨_, .again orderNo stage, step, silent⟩
            · exact ⟨_, .failed _ stage, step, silent⟩
          · split at step
            · exact ⟨_, .refused stage, step, silent⟩
            · exact ⟨_, .failed fault stage, step, silent⟩

private theorem OrderRun.Continues.fits {run later : OrderRun}
    (continues : run.Continues settings db (.going later)) (fits : run.Fits settings) :
    later.Fits settings := by
  obtain ⟨orderNo, key, items, valid, args⟩ := fits
  cases continues with
  | missed before unused => exact ⟨orderNo, key, items, valid, args⟩
  | again fresh before =>
      refine ⟨fresh, key, items, valid, ?_⟩
      change { run.args with outTradeNo := fresh } = _
      rw [args]
      rfl
  | refused before => exact ⟨orderNo, key, items, valid, args⟩

/-! ### The world -/

/-- Two runs in the middle of an attempt hold different locks. -/
def OrderRun.Apart (settings : OrderSettings) (run other : OrderRun) : Prop :=
  run.stage = .place → other.stage = .place →
    settings.lockOrderIdempotency run.args ≠ settings.lockOrderIdempotency other.args

private theorem OrderRun.Apart.symm {run other : OrderRun} (apart : run.Apart settings other) :
    other.Apart settings run :=
  fun second first same => apart first second same.symm

/-- The order of a placement is the one that its request asked for. -/
structure Placement.Fits (settings : OrderSettings) (placement : Placement) : Prop where
  user : placement.order.userId = placement.request.userID
  key : placement.order.idempotencyKey = trimSpace placement.request.idempotencyKey
  hash : placement.order.requestHash =
    settings.hashOrderRequest placement.request.userID placement.request.addressID
      (sortItems placement.request.items)
  accepted : ItemsAccepted placement.request.items

def Placement.OtherKey (placement other : Placement) : Prop :=
  placement.order.userId = other.order.userId →
    placement.order.idempotencyKey ≠ other.order.idempotencyKey

instance : Std.Symm Placement.OtherKey :=
  ⟨fun _ _ otherKey sameUser sameKey => otherKey sameUser.symm sameKey.symm⟩

structure OrderWorld.Sound (settings : OrderSettings) (world : OrderWorld) : Prop where
  reached : Mall.Reached world.db
  fits : ∀ run ∈ world.runs, run.Fits settings
  apart : world.runs.Pairwise (OrderRun.Apart settings)
  unused : ∀ run ∈ world.runs, run.stage = .place →
    world.db.getOrderByUserIdempotency run.args.userID run.args.idempotencyKey = none
  traced : ∀ order ∈ world.db.orders, ∃ placement ∈ world.placed, placement.order.id = order.id
  stored : ∀ placement ∈ world.placed, ∃ order,
    world.db.orders.find? placement.order.id = some order ∧ placement.order.SameRequest order
  requested : ∀ placement ∈ world.placed, placement.Fits settings
  otherKeys : world.placed.Pairwise Placement.OtherKey

private theorem OrderWorld.Sound.start (initial : world.Initial) :
    world.Sound settings := by
  refine
    { reached := .start initial.db
      fits := ?_
      apart := ?_
      unused := ?_
      traced := ?_
      stored := ?_
      requested := ?_
      otherKeys := ?_ }
  · intro run member
    rw [initial.noRuns] at member
    cases member
  · rw [initial.noRuns]
    exact .nil
  · intro run member
    rw [initial.noRuns] at member
    cases member
  · intro order member
    have listed : order ∈ world.db.orders.rows := member
    rw [initial.db.noOrders] at listed
    cases listed
  · intro placement member
    rw [initial.noPlacements] at member
    cases member
  · intro placement member
    rw [initial.noPlacements] at member
    cases member
  · rw [initial.noPlacements]
    exact .nil

private theorem OrderWorld.Sound.operation (sound : world.Sound settings) {operation : Operation}
    (other : operation.createsOrder = false) :
    ({ world with db := Mall.next operation world.db } : OrderWorld).Sound settings := by
  have booked := next_booked operation sound.reached.valid.sound
  have origin : ∀ later ∈ (Mall.next operation world.db).orders,
      ∃ order ∈ world.db.orders, order.id = later.id ∧ order.SameRequest later := by
    intro later member
    obtain ⟨order, found, moved⟩ :=
      booked.orders_origin (next_sameOrders other) (Table.find?_key member)
    exact ⟨order, Table.mem_of_find? found, Table.key_of_find? found, moved.sameRequest⟩
  refine
    { reached := sound.reached.step operation
      fits := sound.fits
      apart := sound.apart
      unused := ?_
      traced := ?_
      stored := ?_
      requested := sound.requested
      otherKeys := sound.otherKeys }
  · intro run member stage
    refine getOrderByUserIdempotency_eq_none.mpr fun later listed user key => ?_
    obtain ⟨order, earlier, _, same⟩ := origin later listed
    exact getOrderByUserIdempotency_eq_none.mp (sound.unused run member stage) order earlier
      (same.user.symm.trans user) (same.key.symm.trans key)
  · intro later member
    obtain ⟨order, earlier, id, _⟩ := origin later member
    obtain ⟨placement, listed, same⟩ := sound.traced order earlier
    exact ⟨placement, listed, same.trans id⟩
  · intro placement member
    obtain ⟨order, found, same⟩ := sound.stored placement member
    obtain ⟨later, present, moved⟩ := booked.orders.kept found
    have kept := moved.sameRequest
    exact ⟨later, present, kept.user.trans same.user, kept.key.trans same.key,
      kept.hash.trans same.hash⟩

private theorem OrderWorld.Sound.with_runs (sound : world.Sound settings) {runs : List OrderRun}
    (fits : ∀ run ∈ runs, run.Fits settings) (apart : runs.Pairwise (OrderRun.Apart settings))
    (unused : ∀ run ∈ runs, run.stage = .place →
      world.db.getOrderByUserIdempotency run.args.userID run.args.idempotencyKey = none) :
    ({ world with runs := runs } : OrderWorld).Sound settings :=
  { reached := sound.reached
    fits := fits
    apart := apart
    unused := unused
    traced := sound.traced
    stored := sound.stored
    requested := sound.requested
    otherKeys := sound.otherKeys }

private theorem OrderWorld.Sound.erase (sound : world.Sound settings) (index : Nat) :
    ({ world with runs := world.runs.eraseIdx index } : OrderWorld).Sound settings := by
  have sublist := List.eraseIdx_sublist world.runs index
  exact sound.with_runs (fun run member => sound.fits run (sublist.subset member))
    (sound.apart.sublist sublist) (fun run member => sound.unused run (sublist.subset member))

private theorem startOrder_eq_ok {request : CreateOrderReq} {orderNo : String} {run : OrderRun}
    (started : startOrder settings request orderNo = .ok run) :
    run.Fits settings ∧ run.stage = .lookup := by
  unfold startOrder at started
  obtain ⟨⟨key, items⟩, valid, started⟩ := bind_eq_ok.mp started
  cases pure_eq_ok.mp started
  exact ⟨⟨orderNo, key, items, valid, rfl⟩, rfl⟩

private theorem OrderWorld.Sound.join (sound : world.Sound settings) {run : OrderRun}
    (fits : run.Fits settings) (stage : run.stage = .lookup) :
    ({ world with runs := world.runs ++ [run] } : OrderWorld).Sound settings := by
  refine sound.with_runs ?_ ?_ ?_
  · intro other member
    rcases List.mem_append.mp member with old | new
    · exact sound.fits other old
    · rw [List.mem_singleton.mp new]
      exact fits
  · refine List.pairwise_append.mpr ⟨sound.apart, List.pairwise_singleton .., ?_⟩
    intro other _ joined member _ placing
    rw [List.mem_singleton.mp member, stage] at placing
    cases placing
  · intro other member placing
    rcases List.mem_append.mp member with old | new
    · exact sound.unused other old placing
    · rw [List.mem_singleton.mp new, stage] at placing
      cases placing

private theorem OrderWorld.moves_eq_some {index : Nat} {run : OrderRun}
    (moves : world.moves settings index = some run) :
    world.runs[index]? = some run ∧ (run.stage = .lookup → ∀ other ∈ world.runs,
      other.stage = .place →
        settings.lockOrderIdempotency other.args ≠ settings.lockOrderIdempotency run.args) := by
  obtain ⟨found, free⟩ := Option.filter_eq_some_iff.mp moves
  refine ⟨found, fun stage other member placing same => ?_⟩
  have waits : world.waits settings run = true := by
    rw [OrderWorld.waits, Bool.and_eq_true, List.any_eq_true]
    exact ⟨beq_iff_eq.mpr stage, other, member, by simp [placing, same]⟩
  rw [waits] at free
  cases free

private theorem OrderWorld.Sound.apart_of_index (sound : world.Sound settings) {index : Nat}
    {run : OrderRun} (found : world.runs[index]? = some run) :
    ∀ other ∈ world.runs.eraseIdx index, run.Apart settings other := by
  obtain ⟨bound, same⟩ := List.getElem?_eq_some_iff.mp found
  have perm := List.getElem_cons_eraseIdx_perm bound
  rw [same] at perm
  exact (List.pairwise_cons.mp ((perm.pairwise_iff OrderRun.Apart.symm).mpr
    sound.apart)).1

private theorem OrderWorld.Sound.set (sound : world.Sound settings) {index : Nat}
    {run later : OrderRun} (found : world.runs[index]? = some run) (fits : later.Fits settings)
    (free : ∀ other ∈ world.runs.eraseIdx index, later.Apart settings other)
    (unused : later.stage = .place →
      world.db.getOrderByUserIdempotency later.args.userID later.args.idempotencyKey = none) :
    ({ world with runs := world.runs.set index later } : OrderWorld).Sound settings := by
  obtain ⟨bound, _⟩ := List.getElem?_eq_some_iff.mp found
  have perm := List.set_perm_cons_eraseIdx bound later
  refine sound.with_runs ?_ ?_ ?_
  · intro other member
    rcases List.mem_or_eq_of_mem_set member with old | rfl
    · exact sound.fits other old
    · exact fits
  · refine (perm.pairwise_iff OrderRun.Apart.symm).mpr (List.pairwise_cons.mpr ⟨free, ?_⟩)
    exact sound.apart.sublist (List.eraseIdx_sublist world.runs index)
  · intro other member placing
    rcases List.mem_or_eq_of_mem_set member with old | rfl
    · exact sound.unused other old placing
    · exact unused placing

private theorem OrderWorld.Sound.continue (sound : world.Sound settings) {index : Nat}
    {run later : OrderRun} (moves : world.moves settings index = some run)
    (continues : run.Continues settings world.db (.going later)) :
    ({ world with runs := world.runs.set index later } : OrderWorld).Sound settings := by
  obtain ⟨found, free⟩ := OrderWorld.moves_eq_some moves
  have fits := continues.fits (sound.fits run (List.mem_of_getElem? found))
  cases continues with
  | missed before unused =>
      refine sound.set found fits ?_ (fun _ => unused)
      intro other member _ placing same
      have listed := (List.eraseIdx_sublist world.runs index).subset member
      exact free before other listed placing same.symm
  | again orderNo before =>
      refine sound.set found fits ?_ nofun
      intro other _ placing
      cases placing
  | refused before =>
      refine sound.set found fits ?_ nofun
      intro other _ placing
      cases placing

private theorem OrderRun.Fits.placement {run : OrderRun} (fits : run.Fits settings)
    (opened : Opened run.args db order result) :
    ({ request := run.request, order := order } : Placement).Fits settings := by
  obtain ⟨orderNo, key, items, valid, args⟩ := fits
  obtain ⟨rfl, rfl, accepted⟩ := CreateOrderReq.validate_eq valid
  rw [args] at opened
  exact ⟨opened.user, opened.key, opened.hash, accepted⟩

/-- A new order is the only one under its key. -/
theorem OrderWorld.Sound.place (sound : world.Sound settings) {index : Nat} {run : OrderRun}
    (found : world.runs[index]? = some run) (placing : run.stage = .place) {now : Time}
    (done : openOrder run.args now world.db = .ok (order, result)) :
    ({ db := result
       runs := world.runs.eraseIdx index
       placed := { request := run.request, order := order } :: world.placed } :
      OrderWorld).Sound settings := by
  have opened := openOrder_eq_ok done
  have fits := sound.fits run (List.mem_of_getElem? found)
  have sublist := List.eraseIdx_sublist world.runs index
  have rows : ∀ later ∈ result.orders, later = order ∨ later ∈ world.db.orders := by
    intro later member
    have present : result.orders.find? later.id = some later := Table.find?_key member
    rw [opened.orders] at present
    rcases update_eq_some present with ⟨_, same⟩ | ⟨_, old⟩
    · exact Or.inl same
    · exact Or.inr (Table.mem_of_find? old)
  have others : ∀ {id : Int} {row : Order}, world.db.orders.find? id = some row →
      result.orders.find? id = some row := by
    intro id row present
    rw [opened.orders, Function.update_of_ne]
    · exact present
    · rintro rfl
      rw [opened.fresh] at present
      cases present
  refine
    { reached := ?_
      fits := fun other member => sound.fits other (sublist.subset member)
      apart := sound.apart.sublist sublist
      unused := ?_
      traced := ?_
      stored := ?_
      requested := ?_
      otherKeys := ?_ }
  · obtain ⟨orderNo, key, items, valid, args⟩ := fits
    rw [args] at done
    have stepped := sound.reached.step (.createOrder settings.hashOrderRequest orderNo
      settings.paymentTimeout now run.request)
    rw [openOrder_execute valid done] at stepped
    exact stepped
  · -- a run that found nothing under the same key would hold the same lock
    intro other member also
    refine getOrderByUserIdempotency_eq_none.mpr fun later listed user key => ?_
    rcases rows later listed with rfl | old
    · refine sound.apart_of_index found other member placing also ?_
      rw [OrderSettings.lockOrderIdempotency, OrderSettings.lockOrderIdempotency, ← opened.user,
        ← opened.key, user, key]
    · exact getOrderByUserIdempotency_eq_none.mp
        (sound.unused other (sublist.subset member) also) later old user key
  · intro later member
    rcases rows later member with rfl | old
    · exact ⟨_, List.mem_cons_self, rfl⟩
    · obtain ⟨placement, listed, same⟩ := sound.traced later old
      exact ⟨placement, List.mem_cons_of_mem _ listed, same⟩
  · intro placement member
    rcases List.mem_cons.mp member with rfl | old
    · refine ⟨order, ?_, .refl order⟩
      rw [opened.orders, Function.update_self]
    · obtain ⟨row, present, same⟩ := sound.stored placement old
      exact ⟨row, others present, same⟩
  · intro placement member
    rcases List.mem_cons.mp member with rfl | old
    · exact fits.placement opened
    · exact sound.requested placement old
  · refine List.pairwise_cons.mpr ⟨?_, sound.otherKeys⟩
    intro placement member sameUser sameKey
    obtain ⟨row, present, same⟩ := sound.stored placement member
    exact getOrderByUserIdempotency_eq_none.mp opened.unused row (Table.mem_of_find? present)
      (same.user.trans (sameUser.symm.trans opened.user))
      (same.key.trans (sameKey.symm.trans opened.key))

private theorem OrderWorld.Sound.step (sound : world.Sound settings) (event : OrderEvent) :
    (world.next settings event).Sound settings := by
  cases event with
  | operation operation =>
      rw [OrderWorld.next]
      split
      · exact sound
      · next other => exact sound.operation (Bool.not_eq_true _ ▸ other)
  | createOrder request orderNo =>
      rw [OrderWorld.next]
      split
      · exact sound
      · next run started =>
        obtain ⟨fits, stage⟩ := startOrder_eq_ok started
        exact sound.join fits stage
  | crash index => exact sound.erase index
  | advance index now orderNo =>
      rw [OrderWorld.next]
      split
      · exact sound
      · next run moves =>
        rcases run.advance_cases settings now orderNo world.db with
          ⟨order, result, placing, done, step, placed⟩ | ⟨progress, continues, step, silent⟩
        · rw [step, placed]
          exact sound.place (OrderWorld.moves_eq_some moves).1 placing done
        · rw [step, silent]
          cases progress with
          | going later => exact sound.continue moves continues
          | answered answer => exact sound.erase index

private theorem OrderWorld.Reached.sound (reached : world.Reached settings) :
    world.Sound settings :=
  Reachable.invariant (fun _ initial => .start initial) (fun _ event _ sound => sound.step event)
    reached

/-! ### Answers -/

private theorem OrderWorld.Sound.placement_of (sound : world.Sound settings) {placement : Placement}
    (member : placement ∈ world.placed) (listed : order ∈ world.db.orders)
    (same : placement.order.id = order.id) :
    placement.order.SameRequest order := by
  obtain ⟨row, present, kept⟩ := sound.stored placement member
  have own : world.db.orders.find? order.id = some order := Table.find?_key listed
  rw [same, own] at present
  cases present
  exact kept

private theorem OrderWorld.Sound.one_order (sound : world.Sound settings) {left right : Order}
    (first : left ∈ world.db.orders) (second : right ∈ world.db.orders)
    (user : left.userId = right.userId) (key : left.idempotencyKey = right.idempotencyKey) :
    left = right := by
  obtain ⟨placement, member, leftId⟩ := sound.traced left first
  obtain ⟨other, otherMember, rightId⟩ := sound.traced right second
  have leftSame := sound.placement_of member first leftId
  have rightSame := sound.placement_of otherMember second rightId
  have one : placement = other := by
    by_contra different
    refine sound.otherKeys.forall member otherMember different ?_ ?_
    · exact leftSame.user.symm.trans (user.trans rightSame.user)
    · exact leftSame.key.symm.trans (key.trans rightSame.key)
  exact Table.eq_of_key_eq first second (leftId.symm.trans (one ▸ rightId))

private theorem OrderWorld.Sound.lookup_of (sound : world.Sound settings)
    (listed : order ∈ world.db.orders) :
    world.db.getOrderByUserIdempotency order.userId order.idempotencyKey = some order := by
  cases found : world.db.getOrderByUserIdempotency order.userId order.idempotencyKey with
  | none => exact absurd rfl (getOrderByUserIdempotency_eq_none.mp found order listed rfl)
  | some other =>
      obtain ⟨member, user, key⟩ := getOrderByUserIdempotency_eq_some found
      rw [sound.one_order member listed user key]

private theorem replayOrder_reply (args : CreateOrderArgs) (existing : Order) :
    (replayOrder args existing >>= settings.decryptShipping) =
      if existing.requestHash = args.requestHash then
        if existing.status = .cancelled then .error errIdempotencyKeyReused
        else settings.decryptShipping existing
      else .error errIdempotencyKeyConflict := by
  unfold replayOrder
  by_cases same : existing.requestHash = args.requestHash
  · rw [require_of same, ok_bind, if_pos same]
    by_cases cancelled : existing.status = .cancelled
    · rw [require_of_not (not_not_intro cancelled), if_pos cancelled]
      rfl
    · rw [require_of cancelled, if_neg cancelled]
      rfl
  · rw [require_of_not same, if_neg same]
    rfl

/-- An answer under the key of an order is the answer of its replay. -/
theorem OrderWorld.Sound.answer_of (sound : world.Sound settings)
    (listed : order ∈ world.db.orders) {event : OrderEvent} {request : CreateOrderReq}
    {answer : Except Fault OrderReply} {key : String} {items : List OrderItemInput}
    (answered : world.answer settings event = some (request, answer))
    (valid : request.validate = .ok (key, items)) (user : request.userID = order.userId)
    (sameKey : trimSpace request.idempotencyKey = order.idempotencyKey) :
    (world.next settings event).db = world.db ∧
      ∃ args : CreateOrderArgs, args.requestHash = settings.hashOrderRequest request.userID
          request.addressID (sortItems request.items) ∧
        answer = replayOrder args order >>= settings.decryptShipping := by
  cases event with
  | operation operation => cases answered
  | crash index => cases answered
  | createOrder other orderNo =>
      rw [OrderWorld.answer] at answered
      split at answered
      · next fault failed =>
        cases answered
        rw [startOrder, valid] at failed
        cases failed
      · cases answered
  | advance index now orderNo =>
      obtain ⟨run, moves, answered⟩ := Option.bind_eq_some_iff.mp answered
      have found := (OrderWorld.moves_eq_some moves).1
      obtain ⟨orderNo', key', items', valid', args⟩ := sound.fits run (List.mem_of_getElem? found)
      have own : run.request = request →
          run.args.requestHash = settings.hashOrderRequest request.userID request.addressID
            (sortItems request.items) ∧
          world.db.getOrderByUserIdempotency run.args.userID run.args.idempotencyKey =
            some order := by
        rintro rfl
        obtain ⟨rfl, rfl, _⟩ := CreateOrderReq.validate_eq valid'
        rw [args]
        refine ⟨rfl, ?_⟩
        change world.db.getOrderByUserIdempotency run.request.userID
          (trimSpace run.request.idempotencyKey) = _
        rw [user, sameKey]
        exact sound.lookup_of listed
      rcases run.advance_cases settings now orderNo world.db with
        ⟨created, result, placing, done, step, _⟩ | ⟨progress, continues, step, silent⟩
      · rw [step] at answered
        cases answered
        have absent := (openOrder_eq_ok done).unused
        rw [(own rfl).2] at absent
        cases absent
      · rw [step] at answered
        cases progress with
        | going later => cases answered
        | answered given =>
            cases answered
            obtain ⟨hash, lookup⟩ := own rfl
            have kept : (world.next settings (.advance index now orderNo)).db = world.db := by
              rw [OrderWorld.next, moves]
              dsimp only
              rw [step]
            refine ⟨kept, run.args, hash, ?_⟩
            cases continues with
            | replayed existing before looked =>
                rw [lookup] at looked
                cases looked
                rfl
            | failed fault before =>
                rw [sound.unused run (List.mem_of_getElem? found) before] at lookup
                cases lookup
            | recovered before => rw [recoverOrder, lookup, found_some, ok_bind]

def Placement.isUnder (user : Int) (key : String) (placement : Placement) : Bool :=
  placement.request.userID == user && trimSpace placement.request.idempotencyKey == key

private theorem OrderWorld.Sound.placed_once (sound : world.Sound settings) (user : Int)
    (key : String) :
    world.placed.countP (Placement.isUnder user key) ≤ 1 := by
  refine countP_le_one (sound.otherKeys.imp_of_mem ?_)
  intro left right leftMember rightMember otherKey chosen
  by_contra also
  rw [Bool.not_eq_false] at also
  simp only [Placement.isUnder, Bool.and_eq_true, beq_iff_eq] at chosen also
  have leftFits := sound.requested left leftMember
  have rightFits := sound.requested right rightMember
  refine otherKey ?_ ?_
  · rw [leftFits.user, rightFits.user, chosen.1, also.1]
  · rw [leftFits.key, rightFits.key, chosen.2, also.2]

private theorem OrderWorld.next_db_of_silent {event : OrderEvent}
    (request : ∀ operation, event ≠ .operation operation)
    (silent : world.placement settings event = none) :
    (world.next settings event).db = world.db := by
  cases event with
  | operation operation => exact absurd rfl (request operation)
  | createOrder other orderNo =>
      rw [OrderWorld.next]
      split <;> rfl
  | crash index => rfl
  | advance index now orderNo =>
      rw [OrderWorld.next]
      split
      · rfl
      · next run moves =>
        rw [OrderWorld.placement, moves] at silent
        rcases run.advance_cases settings now orderNo world.db with
          ⟨order, result, _, _, _, placed⟩ | ⟨progress, _, step, _⟩
        · rw [Option.bind_some, placed] at silent
          cases silent
        · rw [step]

private theorem OrderWorld.Sound.placement_effect (sound : world.Sound settings)
    {event : OrderEvent}
    {first : Placement} (places : world.placement settings event = some first) :
    (world.next settings event).placed = first :: world.placed ∧
      world.answer settings event = some (first.request, settings.decryptShipping first.order) ∧
      ∃ args : CreateOrderArgs, (∀ product, quantityOf args.items product =
          quantityOf first.request.items product) ∧
        Opened args world.db first.order (world.next settings event).db := by
  cases event with
  | operation operation => cases places
  | createOrder other orderNo => cases places
  | crash index => cases places
  | advance index now orderNo =>
      obtain ⟨run, moves, placed⟩ := Option.bind_eq_some_iff.mp places
      rcases run.advance_cases settings now orderNo world.db with
        ⟨order, result, _, done, step, same⟩ | ⟨progress, _, _, silent⟩
      · rw [same] at placed
        cases placed
        obtain ⟨_, key, items, valid, args⟩ :=
          sound.fits run (List.mem_of_getElem? (OrderWorld.moves_eq_some moves).1)
        obtain ⟨rfl, rfl, _⟩ := CreateOrderReq.validate_eq valid
        refine ⟨?_, ?_, run.args, ?_, ?_⟩
        · rw [OrderWorld.next, moves]
          dsimp only
          rw [same]
          rfl
        · rw [OrderWorld.answer, moves, Option.bind_some, step]
        · intro product
          rw [args]
          exact quantityOf_sortItems ..
        · rw [OrderWorld.next, moves]
          dsimp only
          rw [step]
          exact openOrder_eq_ok done
      · rw [silent] at placed
        cases placed

/-- One order for a key, created by one request; every later request under the key
is answered by that order or refused, and changes nothing. -/
theorem order_creation_idempotent (collisionFree : Function.Injective settings.sha256)
    {world : OrderWorld} (reached : world.Reached settings) :
    -- There is one order for a user and key, and it was created once.
    (∀ left ∈ world.db.orders, ∀ right ∈ world.db.orders, left.userId = right.userId →
      left.idempotencyKey = right.idempotencyKey → left = right) ∧
    (∀ user key, world.placed.countP (Placement.isUnder user key) ≤ 1) ∧
    (∀ order ∈ world.db.orders, ∃ first ∈ world.placed, first.order.id = order.id ∧
      first.isUnder order.userId order.idempotencyKey = true) ∧
    -- The creation takes its stock and queues its expiry; nothing else does.
    (∀ event first, world.placement settings event = some first →
      (world.next settings event).placed = first :: world.placed ∧
      world.answer settings event = some (first.request, settings.decryptShipping first.order) ∧
      (world.next settings event).db.orders.find? first.order.id = some first.order ∧
      (∀ product, (world.next settings event).db.onHand product =
        world.db.onHand product - quantityOf first.request.items product) ∧
      (world.next settings event).db.jobs = (world.db.enqueue (.expireOrder first.order.id)
        (some first.order.expiresAt)).2.jobs) ∧
    (∀ event, (∀ operation, event ≠ .operation operation) →
      world.placement settings event = none → (world.next settings event).db = world.db) ∧
    -- Once the order exists, it decides every acceptable request under its key.
    (∀ order ∈ world.db.orders, ∀ first ∈ world.placed, first.order.id = order.id →
      ∀ event request answer, world.answer settings event = some (request, answer) →
        (∃ accepted, request.validate = .ok accepted) → request.userID = order.userId →
        trimSpace request.idempotencyKey = order.idempotencyKey →
        (world.next settings event).db = world.db ∧
        (request.SameOrder first.request → answer =
          if order.status = .cancelled then .error errIdempotencyKeyReused
          else settings.decryptShipping order) ∧
        (¬ request.SameOrder first.request → answer = .error errIdempotencyKeyConflict)) ∧
    -- The lookup and the fallback give one answer.
    (∀ args now existing,
      world.db.getOrderByUserIdempotency args.userID args.idempotencyKey = some existing →
        placeOrder args now world.db =
          (recoverOrder args world.db).map (fun order => (order, world.db))) := by
  have sound := reached.sound
  refine ⟨?_, sound.placed_once, ?_, ?_, ?_, ?_, ?_⟩
  · intro left first right second user key
    exact sound.one_order first second user key
  · intro order listed
    obtain ⟨first, member, same⟩ := sound.traced order listed
    have kept := sound.placement_of member listed same
    have fits := sound.requested first member
    refine ⟨first, member, same, ?_⟩
    rw [Placement.isUnder, Bool.and_eq_true, beq_iff_eq, beq_iff_eq]
    exact ⟨fits.user.symm.trans kept.user.symm, fits.key.symm.trans kept.key.symm⟩
  · intro event first places
    obtain ⟨placed, answered, args, quantities, opened⟩ := sound.placement_effect places
    refine ⟨placed, answered, ?_, ?_, opened.expiry⟩
    · rw [opened.orders, Function.update_self]
    · intro product
      rw [opened.stock, quantities]
  · intro event request silent
    exact OrderWorld.next_db_of_silent request silent
  · intro order listed first member same event request answer answered accepted user key
    obtain ⟨⟨trimmed, items⟩, valid⟩ := accepted
    obtain ⟨unchanged, args, hash, replied⟩ := sound.answer_of listed answered valid user key
    have fits := sound.requested first member
    have kept := sound.placement_of member listed same
    have asked := (CreateOrderReq.validate_eq valid).2.2
    have sameUser : first.request.userID = request.userID :=
      fits.user.symm.trans (kept.user.symm.trans user.symm)
    have decides := hashOrderRequest_eq_iff collisionFree asked fits.accepted sameUser.symm
    have stored : order.requestHash = settings.hashOrderRequest first.request.userID
        first.request.addressID (sortItems first.request.items) := kept.hash.trans fits.hash
    rw [replayOrder_reply, hash, stored] at replied
    refine ⟨unchanged, ?_, ?_⟩
    · intro sameOrder
      rw [if_pos (decides.mpr sameOrder).symm] at replied
      exact replied
    · intro different
      rw [if_neg (fun hashes => different (decides.mp hashes.symm))] at replied
      exact replied
  · intro args now existing found
    rw [placeOrder, recoverOrder, found, found_some, ok_bind]
    dsimp only
    cases replayOrder args existing <;> rfl

/-! ### Tea, asked for again -/

def teaRequestJSON : String :=
  "\x7b\"user_id\":1,\"address_id\":1,\"items\":[\x7b\"product_id\":1,\"quantity\":2\x7d]\x7d"

def teaRequestDigest : String :=
  "4a6c3e87a7e176d9a02a088b03b4e5e8aa88573ff4313a2427f38c631be406a7"

/-- The digest of the request below is its SHA-256. -/
def teaSettings (decryptPhone : String → Option String) : OrderSettings :=
  { sha256 := Equiv.swap teaRequestJSON teaRequestDigest
    hashText := fun text => text.length
    decryptPhone := decryptPhone
    paymentTimeout := 0 }

def teaRequest : CreateOrderReq :=
  { userID := 1
    addressID := 1
    items := [{ productID := 1, quantity := 2 }]
    idempotencyKey := "order-key-1" }

def quietShop : OrderWorld :=
  { db := smallShop
    runs := []
    placed := [] }

def orderedTea (decryptPhone : String → Option String) : OrderWorld :=
  run (OrderWorld.next (teaSettings decryptPhone)) quietShop
    [.createOrder teaRequest "ORD1", .advance 0 0 "ORD2", .advance 0 0 "ORD2"]

private theorem orderedTea_reached (decryptPhone : String → Option String) :
    (orderedTea decryptPhone).Reached (teaSettings decryptPhone) :=
  ⟨quietShop, _, ⟨smallShop_initial, rfl, rfl⟩, rfl⟩

/-- A request that fails the input checks is told so, whatever its key names: with
another quantity it meets no key conflict, with its item twice no replay.  A request that
passes them is not answered with the order where the phone cannot be read. -/
theorem malformed_request_answered :
    (orderedTea some).Reached (teaSettings some) ∧
      (orderedTea some).db.orders.rows.map (fun order =>
          (order.userId, order.idempotencyKey, order.requestHash)) =
        [(1, trimSpace teaRequest.idempotencyKey, teaRequestDigest)] ∧
      (orderedTea some).placed.map (fun first => (first.request.addressID, first.request.items)) =
        [(teaRequest.addressID, teaRequest.items)] ∧
      ¬ ({ teaRequest with items := [{ productID := 1, quantity := 0 }] } :
        CreateOrderReq).SameOrder teaRequest ∧
      (orderedTea some).answer (teaSettings some) (.createOrder
        { teaRequest with items := [{ productID := 1, quantity := 0 }] } "ORD2") =
          some ({ teaRequest with items := [{ productID := 1, quantity := 0 }] },
            .error errOrderQuantityInvalid) ∧
      errOrderQuantityInvalid ≠ errIdempotencyKeyConflict ∧
      ({ teaRequest with items := teaRequest.items ++ teaRequest.items } :
        CreateOrderReq).SameOrder teaRequest ∧
      (orderedTea some).answer (teaSettings some) (.createOrder
        { teaRequest with items := teaRequest.items ++ teaRequest.items } "ORD2") =
          some ({ teaRequest with items := teaRequest.items ++ teaRequest.items },
            .error errDuplicateOrderItem) ∧
      (orderedTea fun _ => none).Reached (teaSettings fun _ => none) ∧
      (((orderedTea fun _ => none).next (teaSettings fun _ => none)
          (.createOrder teaRequest "ORD2")).answer (teaSettings fun _ => none)
            (.advance 0 0 "ORD2")).map
          (fun answered => (answered.1.items, answered.2.map OrderReply.receiverPhone)) =
        some (teaRequest.items, .error errOrderShippingDecryptFailed) := by
  refine ⟨orderedTea_reached some, by decide +kernel, by decide +kernel, ?_, ?_, by decide,
    ⟨rfl, ?_⟩, ?_, orderedTea_reached _, by decide +kernel⟩
  · intro same
    exact absurd ((same.items { productID := 1, quantity := 2 }).mpr (by decide)) (by decide)
  · have rejected : startOrder (teaSettings some)
        { teaRequest with items := [{ productID := 1, quantity := 0 }] } "ORD2" =
          .error errOrderQuantityInvalid := rfl
    rw [OrderWorld.answer, rejected]
  · intro item
    simp [teaRequest]
  · have rejected : startOrder (teaSettings some)
        { teaRequest with items := teaRequest.items ++ teaRequest.items } "ORD2" =
          .error errDuplicateOrderItem := rfl
    rw [OrderWorld.answer, rejected]

def teaAgain : CreateOrderReq :=
  { teaRequest with idempotencyKey := " order-key-1 " }

def askedAgain : OrderWorld :=
  (orderedTea some).next (teaSettings some) (.createOrder teaAgain "ORD3")

/-- The second request is answered with the order of the first. -/
theorem order_creation_idempotent_askedAgain :
    ∃ order, askedAgain.db.orders.find? 1 = some order ∧ order.status = .pendingPayment ∧
      (askedAgain.answer (teaSettings some) (.advance 0 1 "ORD4")).map Prod.snd =
        some ((teaSettings some).decryptShipping order) := by
  have reached : askedAgain.Reached (teaSettings some) := (orderedTea_reached some).step _
  have facts : (askedAgain.db.orders.find? 1).map (fun order =>
      (order.userId, order.idempotencyKey, order.status)) =
        some (1, "order-key-1", .pendingPayment) := by
    decide +kernel
  have placed : askedAgain.placed.map (fun first =>
      (first.order.id, first.request.addressID, first.request.items)) =
        [(1, teaAgain.addressID, teaAgain.items)] := by
    decide +kernel
  have asked : (askedAgain.answer (teaSettings some) (.advance 0 1 "ORD4")).map (fun answered =>
      (answered.1.userID, answered.1.addressID, answered.1.items, answered.1.idempotencyKey)) =
        some (teaAgain.userID, teaAgain.addressID, teaAgain.items, teaAgain.idempotencyKey) := by
    decide +kernel
  have valid : teaAgain.validate.isOk = true := by
    decide +kernel
  obtain ⟨order, present, facts⟩ := Option.map_eq_some_iff.mp facts
  obtain ⟨user, facts⟩ := Prod.mk.inj facts
  obtain ⟨key, status⟩ := Prod.mk.inj facts
  obtain ⟨first, member, firstFacts⟩ : ∃ first ∈ askedAgain.placed,
      (first.order.id, first.request.addressID, first.request.items) =
        (1, teaAgain.addressID, teaAgain.items) := by
    refine List.mem_map.mp ?_
    rw [placed]
    exact List.mem_singleton_self _
  obtain ⟨id, firstFacts⟩ := Prod.mk.inj firstFacts
  obtain ⟨address, items⟩ := Prod.mk.inj firstFacts
  obtain ⟨⟨request, answer⟩, answered, same⟩ := Option.map_eq_some_iff.mp asked
  obtain ⟨sameUser, same⟩ := Prod.mk.inj same
  obtain ⟨sameAddress, same⟩ := Prod.mk.inj same
  obtain ⟨sameItems, sameKey⟩ := Prod.mk.inj same
  obtain rfl : request = teaAgain := by
    cases request
    cases sameUser
    cases sameAddress
    cases sameItems
    cases sameKey
    rfl
  have accepted : ∃ accepted, teaAgain.validate = .ok accepted := by
    cases outcome : teaAgain.validate with
    | error fault =>
        rw [outcome] at valid
        cases valid
    | ok accepted => exact ⟨accepted, rfl⟩
  have ownId : order.id = 1 := Table.key_of_find? present
  have trimmed : trimSpace teaAgain.idempotencyKey = "order-key-1" := by
    decide +kernel
  obtain ⟨_, _, _, _, _, decides, _⟩ :=
    order_creation_idempotent (Equiv.injective _) reached
  obtain ⟨_, replays, _⟩ := decides order (Table.mem_of_find? present) first member
    (id.trans ownId.symm) _ _ _ answered accepted user.symm (trimmed.trans key.symm)
  have sameOrder : teaAgain.SameOrder first.request := by
    refine ⟨address.symm, fun item => ?_⟩
    rw [items]
  refine ⟨order, present, status, ?_⟩
  rw [answered, Option.map_some, replays sameOrder, if_neg (by rw [status]; nofun)]

end Mall
