/-
The sweep for overdue orders.

`ReapOverdueOrders` pages through the orders by id.  Other transactions run
between its queries, so each of them meets a state of its own; how an insertion
into the queue ends is decided outside.
-/

import Mall.Database
import Mall.Foundation.Keyset

namespace Mall

open Relational

def defaultReapGrace : Int := 300000000000

def reapGrace (grace : Int) : Int :=
  if grace ≤ 0 then defaultReapGrace else grace

def Order.overdue (order : Order) (now : Time) (grace : Int) : Bool :=
  decide (order.status = .pendingPayment ∧ order.expiresAt ≤ now - grace)

/-- A negative limit is an error of the statement. -/
def Database.listOverduePendingOrders (db : Database) (now : Time) (grace limitRows afterID : Int) :
    Except Fault (List Int) :=
  if limitRows < 0 then .error (Fault.plain "LIMIT must not be negative")
  else
    .ok ((((db.orders.rows.filter (fun order =>
      decide (afterID < order.id) && order.overdue now grace)).map Order.id).insertionSort
        (fun left right => left ≤ right)).take limitRows.toNat)

/-- The field of `MQJob` that the sweep reads. -/
structure MQJob where
  deduplicated : Bool

/-- What the sweep meets: the state of each query, by its number, and the outcome
of each insertion, by its number and order. -/
structure SweepWorld where
  query : Nat → Except Fault (Time × Database)
  enqueueExpireOrder : Nat → Int → Except Fault MQJob

structure Sweep where
  offered : List Int
  requeued : List Int

def Sweep.start : Sweep :=
  { offered := []
    requeued := [] }

/-- One turn of the inner loop.  A failed insertion is logged and passed over. -/
def SweepWorld.offer (world : SweepWorld) (sweep : Sweep) (id : Int) : Sweep :=
  { offered := sweep.offered ++ [id]
    requeued :=
      match world.enqueueExpireOrder sweep.offered.length id with
      | .error _ => sweep.requeued
      | .ok job => if job.deduplicated then sweep.requeued else sweep.requeued ++ [id] }

structure Reaped where
  queries : Nat
  sweep : Sweep
  failure : Option Fault

def SweepWorld.reapBatches (world : SweepWorld) (grace limit : Int) :
    Nat → Nat → Int → Sweep → Option Reaped
  | 0, _, _, _ => none
  | fuel + 1, queries, afterID, sweep =>
      let batch := do
        let (now, db) ← world.query queries
        db.listOverduePendingOrders now grace (Int.bmod limit (2 ^ 32)) afterID
      match batch with
      | .error fault => some { queries := queries + 1, sweep := sweep, failure := some fault }
      | .ok orderIDs =>
          let swept := orderIDs.foldl world.offer sweep
          if (orderIDs.length : Int) < limit then
            some { queries := queries + 1, sweep := swept, failure := none }
          else
            world.reapBatches grace limit fuel (queries + 1) (orderIDs.getLastD afterID) swept

def reapOverdueOrders (world : SweepWorld) (grace limit : Int) (fuel : Nat) : Option Reaped :=
  world.reapBatches (reapGrace grace) (if limit ≤ 0 then 100 else limit) fuel 0 0 Sweep.start

end Mall
