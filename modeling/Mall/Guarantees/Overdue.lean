/-
The sweep for overdue orders reaches every order that stays overdue.

Its queries walk the overdue ids upwards, and no outcome of an insertion changes
where the walk goes.
-/

import Mall.Overdue
import Mall.System

namespace Mall

open Relational Transactional

def overdueOrders (view : Time × Database) (grace : Int) : List Int :=
  (view.2.orders.rows.filter (fun order => order.overdue view.1 grace)).map Order.id

/-- The insertion succeeded, and the queue had no such job. -/
def SweepWorld.taken (world : SweepWorld) (offer : Int × Nat) : Bool :=
  match world.enqueueExpireOrder offer.2 offer.1 with
  | .error _ => false
  | .ok job => !job.deduplicated

private theorem mem_overdueOrders {view : Time × Database} {grace id : Int} :
    id ∈ overdueOrders view grace ↔
      ∃ order ∈ view.2.orders, order.id = id ∧ order.overdue view.1 grace = true := by
  unfold overdueOrders
  rw [List.mem_map]
  constructor
  · rintro ⟨order, found, same⟩
    obtain ⟨present, overdue⟩ := List.mem_filter.mp found
    exact ⟨order, present, same, overdue⟩
  · rintro ⟨order, present, same, overdue⟩
    exact ⟨order, List.mem_filter.mpr ⟨present, overdue⟩, same⟩

private theorem overdueOrders_nodup (view : Time × Database) (grace : Int) :
    ((overdueOrders view grace).map id).Nodup := by
  rw [List.map_id]
  exact view.2.orders.distinct.sublist (List.filter_sublist.map Order.id)

private theorem listOverduePendingOrders_eq (view : Time × Database) (grace afterID : Int)
    {limit : Int} (nonnegative : 0 ≤ limit) :
    view.2.listOverduePendingOrders view.1 grace limit afterID =
      .ok ((Keyset.beyond id (some afterID) (overdueOrders view grace)).take limit.toNat) := by
  rw [Database.listOverduePendingOrders, if_neg (by omega)]
  have selected : (view.2.orders.rows.filter (fun order =>
        decide (afterID < order.id) && order.overdue view.1 grace)).map Order.id =
      (overdueOrders view grace).filter (fun key => decide (Keyset.Past (some afterID) (id key))) := by
    rw [overdueOrders, List.filter_map, List.filter_filter]
    congr 1
    refine List.filter_congr ?_
    intro order _
    simp [Keyset.Past]
  rw [selected]
  rfl

/-! ### Insertions -/

/-- The requeued ids are the offered ones that the queue took. -/
def Sweep.Exact (world : SweepWorld) (sweep : Sweep) : Prop :=
  sweep.requeued = (sweep.offered.zipIdx.filter world.taken).map Prod.fst

private theorem Sweep.Exact.offer {world : SweepWorld} {sweep : Sweep} (exact : sweep.Exact world)
    (id : Int) : (world.offer sweep id).Exact world := by
  unfold Sweep.Exact SweepWorld.offer
  rw [List.zipIdx_append, List.filter_append, List.map_append, ← exact]
  unfold SweepWorld.taken
  cases outcome : world.enqueueExpireOrder sweep.offered.length id with
  | error fault => simp [outcome]
  | ok job =>
      cases duplicate : job.deduplicated with
      | false => simp [outcome, duplicate]
      | true => simp [outcome, duplicate]

private theorem Sweep.Exact.offers {world : SweepWorld} {sweep : Sweep} (exact : sweep.Exact world)
    (ids : List Int) : (ids.foldl world.offer sweep).Exact world := by
  induction ids generalizing sweep with
  | nil => exact exact
  | cons id rest ih => exact ih (exact.offer id)

private theorem SweepWorld.offered (world : SweepWorld) (sweep : Sweep) (ids : List Int) :
    (ids.foldl world.offer sweep).offered = sweep.offered ++ ids := by
  induction ids generalizing sweep with
  | nil => exact (List.append_nil _).symm
  | cons id rest ih =>
      rw [List.foldl_cons, ih, SweepWorld.offer, List.append_assoc]
      rfl

private theorem Sweep.Exact.sublist {world : SweepWorld} {sweep : Sweep}
    (exact : sweep.Exact world) :
    sweep.requeued.Sublist sweep.offered := by
  have part := (@List.filter_sublist _ world.taken sweep.offered.zipIdx).map Prod.fst
  rw [← exact, List.zipIdx_map_fst] at part
  exact part

/-! ### Queries -/

abbrev Queries (view : Nat → Time × Database) (grace : Int) : Nat → List (Keyset.Page Int) → Prop :=
  Keyset.Reads (fun number => overdueOrders (view number) grace)

private theorem Queries.distinct {view : Nat → Time × Database} {grace : Int} {query : Nat}
    {pages : List (Keyset.Page Int)} (reads : Queries view grace query pages) :
    Keyset.Distinct id pages :=
  Keyset.Reads.distinct reads (fun _ => overdueOrders_nodup _ _)

/-! ### The loop -/

section Loop

variable {view : Nat → Time × Database} {enqueue : Nat → Int → Except Fault MQJob}
  {grace limit : Int}

def sweepOver (view : Nat → Time × Database) (enqueue : Nat → Int → Except Fault MQJob) :
    SweepWorld :=
  { query := fun number => .ok (view number)
    enqueueExpireOrder := enqueue }

def overdueBatch (view : Time × Database) (grace limit afterID : Int) : List Int :=
  (Keyset.beyond id (some afterID) (overdueOrders view grace)).take limit.toNat

private theorem reapBatches_succ (least : 1 ≤ limit) (most : limit ≤ 2 ^ 31 - 1)
    (fuel queries : Nat) (afterID : Int) (sweep : Sweep) :
    (sweepOver view enqueue).reapBatches grace limit (fuel + 1) queries afterID sweep =
      if ((overdueBatch (view queries) grace limit afterID).length : Int) < limit then
        some
          { queries := queries + 1
            sweep := (overdueBatch (view queries) grace limit afterID).foldl
              (sweepOver view enqueue).offer sweep
            failure := none }
      else
        (sweepOver view enqueue).reapBatches grace limit fuel (queries + 1)
          ((overdueBatch (view queries) grace limit afterID).getLastD afterID)
          ((overdueBatch (view queries) grace limit afterID).foldl
            (sweepOver view enqueue).offer sweep) := by
  have whole : Int.bmod limit (2 ^ 32) = limit := Int.bmod_eq_of_le_mul_two (by omega) (by omega)
  have batch : (view queries).2.listOverduePendingOrders (view queries).1 grace limit afterID =
      .ok (overdueBatch (view queries) grace limit afterID) :=
    listOverduePendingOrders_eq (view queries) grace afterID (by omega)
  have query : (sweepOver view enqueue).query queries = .ok (view queries) := rfl
  rw [SweepWorld.reapBatches]
  dsimp only
  rw [whole, query, ok_bind, batch]

/-- After any number of queries the sweep has either gone on at every one of them,
or come to its end; more fuel then changes nothing. -/
theorem reapBatches_cases (least : 1 ≤ limit) (most : limit ≤ 2 ^ 31 - 1) (fuel queries : Nat)
    (afterID : Int) (sweep : Sweep) :
    (∃ pages finish, Keyset.Walk id (some afterID) pages finish ∧
        Queries view grace queries pages ∧ pages.length = fuel) ∨
      ∃ pages, Keyset.Finished id (some afterID) pages ∧ Queries view grace queries pages ∧
        ∀ more, (sweepOver view enqueue).reapBatches grace limit (fuel + more) queries afterID
            sweep =
          some
            { queries := queries + pages.length
              sweep := (Keyset.shown pages).foldl (sweepOver view enqueue).offer sweep
              failure := none } := by
  induction fuel generalizing queries afterID sweep with
  | zero => exact Or.inl ⟨[], some afterID, Keyset.Walk.stay _, trivial, rfl⟩
  | succ fuel ih =>
      have step (more : Nat) := @reapBatches_succ view enqueue grace limit least most (fuel + more)
        queries afterID sweep
      have renamed (more : Nat) : fuel + 1 + more = fuel + more + 1 := by omega
      generalize rows : overdueBatch (view queries) grace limit afterID = batch at step
      let page : Keyset.Page Int :=
        { rows := overdueOrders (view queries) grace
          shown := batch }
      have prefixed : page.shown <+: Keyset.beyond id (some afterID) page.rows := by
        change batch <+: _
        rw [← rows]
        exact List.take_prefix _ _
      by_cases short : (batch.length : Int) < limit
      · right
        have complete : page.shown = Keyset.beyond id (some afterID) page.rows := by
          change batch = _
          rw [← rows, overdueBatch, List.length_take] at short
          rw [← rows, overdueBatch]
          exact List.take_of_length_le (by omega)
        refine ⟨[page], ⟨[], page, some afterID, rfl, Keyset.Walk.stay _, complete⟩,
          ⟨rfl, trivial⟩, ?_⟩
        intro more
        rw [renamed, step, if_pos short]
        simp [Keyset.shown, page]
      · have some : batch ≠ [] := by
          rintro rfl
          exact short least
        obtain ⟨last, ends⟩ := Option.ne_none_iff_exists'.mp
          (fun none => some (List.getLast?_eq_none_iff.mp none))
        have cursor : batch.getLastD afterID = last := by
          rw [List.getLastD_eq_getLast?, ends]
          rfl
        rcases ih (queries + 1) last (batch.foldl (sweepOver view enqueue).offer sweep) with
          ⟨pages, finish, walk, reads, length⟩ | ⟨pages, finished, reads, outcome⟩
        · left
          exact ⟨page :: pages, finish, Keyset.Walk.page prefixed ends walk, ⟨rfl, reads⟩,
            by rw [List.length_cons, length]⟩
        · right
          obtain ⟨earlier, final, finish, rfl, walk, rest⟩ := finished
          refine ⟨page :: (earlier ++ [final]),
            ⟨page :: earlier, final, finish, rfl, Keyset.Walk.page prefixed ends walk, rest⟩,
            ⟨rfl, reads⟩, ?_⟩
          intro more
          have counted : queries + 1 + (earlier ++ [final]).length =
              queries + (page :: (earlier ++ [final])).length := by
            rw [List.length_cons]
            omega
          have offers : Keyset.shown (page :: (earlier ++ [final])) =
              batch ++ Keyset.shown (earlier ++ [final]) := rfl
          rw [renamed, step, if_neg short, cursor, outcome, counted, offers, List.foldl_append]

/-- Over finitely many orders the sweep ends, whatever becomes of its insertions and
whichever orders leave or enter between its queries.  It offers an order that is
overdue at every query exactly once and no order twice, and returns in ascending
order the ids that the queue took. -/
theorem reapOverdueOrders_misses_nothing (view : Nat → Time × Database)
    (enqueue : Nat → Int → Except Fault MQJob) (grace : Int) (least : 1 ≤ limit)
    (most : limit ≤ 2 ^ 31 - 1) (orders : Finset Int)
    (finite : ∀ number, ∀ order ∈ (view number).2.orders, order.id ∈ orders) :
    ∃ queries sweep,
      (∀ fuel, orders.card < fuel →
        reapOverdueOrders (sweepOver view enqueue) grace limit fuel =
          some { queries := queries, sweep := sweep, failure := none }) ∧
      (∀ id, (∀ number < queries, ∃ order ∈ (view number).2.orders, order.id = id ∧
          order.overdue (view number).1 (reapGrace grace) = true) →
        sweep.offered.count id = 1) ∧
      sweep.offered.Nodup ∧
      (∀ id ∈ sweep.offered, ∃ number < queries, ∃ order ∈ (view number).2.orders,
        order.id = id ∧ order.overdue (view number).1 (reapGrace grace) = true) ∧
      sweep.requeued =
        (sweep.offered.zipIdx.filter (sweepOver view enqueue).taken).map Prod.fst ∧
      sweep.requeued.Pairwise (fun left right => left < right) := by
  rcases @reapBatches_cases view enqueue (reapGrace grace) limit least most (orders.card + 1) 0 0
    Sweep.start with ⟨pages, finish, walk, reads, length⟩ | ⟨pages, finished, reads, outcome⟩
  · -- Every page of an unfinished walk shows an id that no other page shows.
    exfalso
    have bound := walk.length_le (Queries.distinct reads) (fun page present key found => by
      obtain ⟨number, _, rows⟩ := Keyset.Reads.mem reads present
      rw [rows] at found
      obtain ⟨order, among, same, _⟩ := mem_overdueOrders.mp found
      exact same ▸ finite number order among)
    omega
  · have sorted := finished.sorted (Queries.distinct reads)
    have offered := (sweepOver view enqueue).offered Sweep.start (Keyset.shown pages)
    have begun : Sweep.start.Exact (sweepOver view enqueue) := rfl
    have exact := begun.offers (Keyset.shown pages)
    have distinct : (Keyset.shown pages).Nodup := sorted.imp (fun less => less.ne)
    refine ⟨pages.length, (Keyset.shown pages).foldl (sweepOver view enqueue).offer Sweep.start,
      ?_, ?_, ?_, ?_, exact, ?_⟩
    · intro fuel enough
      have more := outcome (fuel - (orders.card + 1))
      rw [Nat.add_sub_cancel' enough, Nat.zero_add] at more
      rw [reapOverdueOrders, if_neg (by omega)]
      exact more
    · intro id overdue
      rw [offered]
      refine List.count_eq_one_of_mem distinct ?_
      have lasting : Keyset.Lasting (fun id : Int => id) pages id := by
        intro page present
        obtain ⟨number, bound, rows⟩ := Keyset.Reads.mem reads present
        rw [Nat.zero_add] at bound
        exact ⟨id, rows ▸ mem_overdueOrders.mpr (overdue number bound), rfl⟩
      have positive : Keyset.Past (some 0) id := by
        obtain ⟨earlier, page, _, rfl, _⟩ := finished
        obtain ⟨order, present, same, _⟩ := overdue 0 (by simp)
        intro cursor zero
        cases zero
        exact same ▸ ((view 0).2.orders.issued order present).1
      obtain ⟨row, present, same⟩ := finished.covers (Queries.distinct reads) positive lasting
      exact same ▸ present
    · rw [offered]
      exact distinct
    · intro id present
      rw [offered] at present
      obtain ⟨page, among, found⟩ := finished.shown_subset id present
      obtain ⟨number, bound, rows⟩ := Keyset.Reads.mem reads among
      rw [Nat.zero_add] at bound
      exact ⟨number, bound, mem_overdueOrders.mp (rows ▸ found)⟩
    · have part := exact.sublist
      rw [offered] at part
      exact sorted.sublist part

end Loop

def overdueShop : Database :=
  run next smallShop [orderTea "ORD1" "order-key-1" 1, orderTea "ORD2" "order-key-2" 1]

/-- The queue fails for the first order; the second is reached all the same. -/
theorem reapOverdueOrders_misses_nothing_overdueShop :
    let view : Nat → Time × Database := fun _ => (3600000000000, overdueShop)
    let enqueue : Nat → Int → Except Fault MQJob := fun _ id =>
      if id = 1 then .error (Fault.plain "queue is down") else .ok { deduplicated := false }
    ∃ queries sweep,
      (∀ fuel, 2 < fuel →
        reapOverdueOrders (sweepOver view enqueue) 0 1 fuel =
          some { queries := queries, sweep := sweep, failure := none }) ∧
      sweep.offered.count 1 = 1 ∧ sweep.offered.count 2 = 1 := by
  intro view enqueue
  have waiting : overdueOrders (3600000000000, overdueShop) (reapGrace 0) = [1, 2] := by
    decide +kernel
  have known : overdueShop.orders.rows.map Order.id = [1, 2] := by
    decide +kernel
  obtain ⟨queries, sweep, ends, offered, _⟩ := reapOverdueOrders_misses_nothing view enqueue 0
    (show (1 : Int) ≤ 1 by decide) (by decide) {1, 2} (by
      intro number order present
      have among : order.id ∈ overdueShop.orders.rows.map Order.id := List.mem_map_of_mem present
      rw [known] at among
      simpa using among)
  refine ⟨queries, sweep, ends, offered 1 ?_, offered 2 ?_⟩
  · exact fun _ _ => mem_overdueOrders.mp (waiting ▸ by decide)
  · exact fun _ _ => mem_overdueOrders.mp (waiting ▸ by decide)

end Mall
