/-
The queue of stale refunds: who is tried when.

A sweep lists its rows once and goes through them in that order; every row that it tries
in vain is stamped with the time.  Sweeps follow one another.  Requests of administrators
and all other transactions come in between.
-/

import Mall.RefundRuns

namespace Mall

open Relational Transactional

def Operation.clock : Operation → Option Time
  | .applyPayQuery clock _ _ => some clock.database
  | .preparePaymentRefund now _ _ => some now
  | .recordPaymentRefundError now _ _ _ => some now
  | .applyPaymentRefund now _ _ => some now
  | _ => none

def Event.clock : Event → Option Time
  | .operation transaction => transaction.clock
  | .reconcilePendingRefunds now _ _ => some now
  | .advance _ around => some around.now
  | _ => none

/-- The clock of the database does not run backwards. -/
def ClockKept (history : List Event) : Prop :=
  (history.filterMap Event.clock).Pairwise (· ≤ ·)

def Event.startsSweep : Event → Bool
  | .reconcilePendingRefunds _ _ _ => true
  | _ => false

/-- The age from which a sweep takes a row: ten minutes unless it is asked for another. -/
def staleAge (olderThan : Int) : Int :=
  if olderThan ≤ 0 then refundSweepAge else olderThan

def RefundRun.swept? (run : RefundRun) : Option OrderRefund :=
  match run.target with
  | .swept refund => some refund
  | .request _ => none

/-- A step of an attempt at the refund, by a sweep or by a request.  A payment has at most
one refund. -/
def World.attempts (refund : OrderRefund) (event : Event) (world : World) : Bool :=
  match event with
  | .advance index _ =>
      world.runs[index]?.any (fun run => run.target.paymentID == refund.paymentId)
  | _ => false

/-- Before the first step of an attempt. -/
def RefundStage.fresh : RefundStage → Bool
  | .load => true
  | _ => false

def World.begins (refund : OrderRefund) (event : Event) (world : World) : Bool :=
  match event with
  | .advance index _ =>
      world.runs[index]?.any (fun run =>
        run.stage.fresh && run.target.paymentID == refund.paymentId)
  | _ => false

/-- `RefundPayment` is in the middle of an attempt at the refund. -/
def World.requested (refund : OrderRefund) (world : World) : Bool :=
  world.runs.any (fun run =>
    run.swept?.isNone && !run.stage.fresh && run.target.paymentID == refund.paymentId)

/-- Refunds are prepared, and their errors recorded, by runs alone. -/
def Event.inRuns : Event → Bool
  | .operation transaction => !transaction.attemptsRefund
  | _ => true

def World.sweeps (refundID : Int) (event : Event) (world : World) : Prop :=
  ∃ index around run row, event = .advance index around ∧ world.runs[index]? = some run ∧
    run.swept? = some row ∧ row.id = refundID

/-- A sweep takes its last step at the refund and goes on to its next row. -/
def World.sweepEnds (refundID : Int) (event : Event) (world : World) : Prop :=
  ∃ index around run row, event = .advance index around ∧ world.runs[index]? = some run ∧
    run.swept? = some row ∧ row.id = refundID ∧ (run.advance around world.db).1 = run.proceed

/-- Recording the error of an attempt does not fail for a reason outside the database. -/
def RecordsErrors (event : Event) (world : World) : Prop :=
  match event with
  | .advance index around =>
      match world.runs[index]?.map RefundRun.stage with
      | some (.record _ _ _) => around.outage.isNone = true
      | _ => True
  | _ => True

/-- A sweep starts when no other is under way. -/
def SweepsInTurn (event : Event) (world : World) : Prop :=
  event.startsSweep = true → ∀ run ∈ world.runs, run.swept?.isNone = true

instance (event : Event) (world : World) : Decidable (RecordsErrors event world) := by
  unfold RecordsErrors
  split
  · split <;> infer_instance
  · infer_instance

instance (event : Event) (world : World) : Decidable (SweepsInTurn event world) :=
  inferInstanceAs (Decidable (_ → _))

def Due (db : Database) (now : Time) (age : Int) (row : OrderRefund) : Prop :=
  db.refunds.find? row.id = some row ∧ row.status = .pending ∧ row.updatedAt < now - age

/-! ### Rotation -/

/-- A history with two sweeps: the first lists its batch, an attempt of a sweep ends, the
second lists its batch and comes to a row. -/
structure Rotation where
  before : List Event
  now : Time
  olderThan : Int
  limit : Int
  first : List Event
  ended : Event
  middle : List Event
  laterNow : Time
  laterOlderThan : Int
  laterLimit : Int
  second : List Event
  attempt : Event

namespace Rotation

def opening (rotation : Rotation) : List Event :=
  .reconcilePendingRefunds rotation.now rotation.olderThan rotation.limit :: rotation.first

def closing (rotation : Rotation) : Event :=
  .reconcilePendingRefunds rotation.laterNow rotation.laterOlderThan rotation.laterLimit

/-- From the first listing up to the last attempt, which is not part of it. -/
def span (rotation : Rotation) : List Event :=
  rotation.opening ++ rotation.ended :: (rotation.middle ++ rotation.closing :: rotation.second)

def events (rotation : Rotation) : List Event :=
  rotation.before ++ (rotation.span ++ [rotation.attempt])

def listed (rotation : Rotation) (start : World) : World :=
  run World.next start rotation.before

def ending (rotation : Rotation) (start : World) : World :=
  run World.next (rotation.listed start) rotation.opening

def attempted (rotation : Rotation) (start : World) : World :=
  run World.next (rotation.listed start) rotation.span

/-- The refund is attempted in a sweep, and again in a later one. -/
structure Repeats (rotation : Rotation) (start : World) (refundID : Int) : Prop where
  noRuns : start.runs = []
  inRuns : ∀ event ∈ rotation.events, event.inRuns = true
  clock : ClockKept rotation.events
  recording : Throughout RecordsErrors World.next start rotation.events
  inTurn : Throughout SweepsInTurn World.next start rotation.events
  ended : World.sweepEnds refundID rotation.ended (rotation.ending start)
  lastSweep : ∀ event ∈ rotation.second, event.startsSweep = false
  attempt : World.sweeps refundID rotation.attempt (rotation.attempted start)

end Rotation

end Mall
