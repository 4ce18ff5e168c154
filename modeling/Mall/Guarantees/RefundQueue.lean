/-
A failing refund never starves another.

An attempt that ends leaves its refund settled, failed, or stamped with the time, so a
refund that waited since before stands in front of it in every later listing.
-/

import Mall.Guarantees.RefundRuns
import Mall.Refinement.RefundQueue

namespace Mall

open Relational Transactional

variable {db result : Database} {event : Event} {world : World}

/-! ### Ends of attempts -/

/-- Whatever is pending under the number is as young as the time. -/
def Young (time : Time) (id : Int) (db : Database) : Prop :=
  ∀ row ∈ db.refunds.find? id, row.status = .pending → time ≤ row.updatedAt

private theorem Young.of_success {time : Time} {id : Int} {row : OrderRefund}
    (present : db.refunds.find? id = some row) (success : row.status = .success) :
    Young time id db := by
  intro found member pending
  cases present.symm.trans member
  rw [success] at pending
  cases pending

private theorem settlePaymentRefund_success {now : Time} {order : Order} {payment changed : Payment}
    {refund : OrderRefund} (stored : db.refunds.find? refund.id = some refund)
    (done : settlePaymentRefund now order payment refund db = .ok (changed, result)) :
    ∃ row, result.refunds.find? refund.id = some row ∧ row.status = .success := by
  unfold settlePaymentRefund at done
  obtain ⟨_, _, done⟩ := bind_eq_ok.mp done
  split at done
  · next settled =>
      cases pure_eq_ok.mp done
      exact ⟨refund, stored, settled.2⟩
  · obtain ⟨_, _, done⟩ := bind_eq_ok.mp done
    obtain ⟨_, _, done⟩ := bind_eq_ok.mp done
    obtain ⟨reversed, _, done⟩ := bind_eq_ok.mp done
    obtain ⟨⟨_, marked⟩, mark, confirm⟩ := bind_eq_ok.mp done
    obtain ⟨row, present, _, _, rfl⟩ := Database.updateRefund_eq_some.mp (found_eq_ok.mp mark)
    obtain ⟨_, _, _, _, rfl⟩ := Database.updatePayment_eq_some.mp (found_eq_ok.mp confirm)
    have last := Table.find?_update_self reversed.refunds refund.id
      (fun row => { row with status := .success, lastError := "", updatedAt := now })
    rw [present] at last
    exact ⟨_, last, rfl⟩

private theorem applyPaymentRefund_success {now : Time} {paymentID refundID : Int}
    {payment : Payment}
    (done : applyPaymentRefund now paymentID refundID db = .ok (payment, result)) :
    ∃ row, result.refunds.find? refundID = some row ∧ row.status = .success := by
  unfold applyPaymentRefund at done
  obtain ⟨order, _, done⟩ := bind_eq_ok.mp done
  obtain ⟨current, _, done⟩ := bind_eq_ok.mp done
  obtain ⟨refund, chosen, done⟩ := bind_eq_ok.mp done
  obtain ⟨_, same, done⟩ := bind_eq_ok.mp done
  have key : refund.id = refundID := require_eq_ok.mp same
  have stored := (getOrderRefundByPaymentID_eq_some (found_eq_ok.mp chosen)).1
  rw [← key]
  exact settlePaymentRefund_success stored done

private theorem recordPaymentRefundError_young {now : Time} {refundID : Int} {lastError : String}
    {definitive : Bool}
    (done : recordPaymentRefundError now refundID lastError definitive db = .ok result) :
    Young now refundID result := by
  unfold recordPaymentRefundError at done
  obtain ⟨⟨_, recorded⟩, record, done⟩ := bind_eq_ok.mp done
  cases pure_eq_ok.mp done
  obtain ⟨row, present, _, _, rfl⟩ := Database.updateRefund_eq_some.mp (found_eq_ok.mp record)
  intro found member _
  change (Table.update _ refundID _).find? refundID = some found at member
  rw [Table.find?_update _ _ present, Function.update_self] at member
  cases member
  exact le_refl now

private theorem recordPaymentRefundError_rejected {now : Time} {refundID : Int} {lastError : String}
    {definitive : Bool} {fault : Fault}
    (rejected : recordPaymentRefundError now refundID lastError definitive db = .error fault)
    (time : Time) : Young time refundID db := by
  intro row present pending
  have guard : (row.status == .pending) = true := beq_iff_eq.mpr pending
  have recorded : db.recordOrderRefundError now refundID lastError definitive = some _ :=
    Database.updateRefund_eq_some.mpr ⟨row, present, guard, rfl, rfl⟩
  rw [recordPaymentRefundError, recorded] at rejected
  cases rejected

private theorem RefundRun.proceed_ne {run going : RefundRun} (loaded : going.stage ≠ .load) :
    some going ≠ run.proceed :=
  fun same => loaded (RefundRun.proceed_stage same.symm)

/-- When a sweep goes on to its next row, what is pending under the number of the old one
carries the time of this step. -/
theorem RefundRun.advance_young {run : RefundRun} {row : OrderRefund} {around : Surroundings}
    (sound : run.Sound db) (target : run.target = .swept row)
    (records : ∀ refundID cause definitive, run.stage = .record refundID cause definitive →
      around.outage = none)
    (ends : (run.advance around db).1 = run.proceed) :
    Young around.now row.id (run.advance around db).2 := by
  have gaveUp : ∀ cause, run.giveUp cause ≠ run.proceed := by
    intro cause same
    rw [RefundRun.giveUp, target] at same
    refine RefundRun.proceed_ne ?_ same
    nofun
  have standing := sound.stage
  generalize outcome : run.advance around db = reached at ends ⊢
  unfold RefundRun.advance at outcome
  split at outcome
  · split at outcome
    · cases outcome
      exact absurd ends (gaveUp _)
    · cases outcome
      exact absurd ends (RefundRun.proceed_ne nofun)
  · split at outcome
    · cases outcome
      exact absurd ends (gaveUp _)
    · split at outcome
      · cases outcome
        exact absurd ends (RefundRun.proceed_ne nofun)
      · cases outcome
        exact absurd ends (gaveUp _)
  · next method payment refund stage =>
      rw [stage] at standing
      split at outcome
      · next success =>
          cases outcome
          obtain ⟨stored, present, settled⟩ := standing.2 success
          rw [standing.1.own row target] at present
          exact .of_success present settled
      · cases outcome
        refine absurd ends (RefundRun.proceed_ne ?_)
        unfold answeredStage
        dsimp only
        split
        · nofun
        · split <;> nofun
  · next payment refund stage =>
      rw [stage] at standing
      split at outcome
      · cases outcome
        exact absurd ends (RefundRun.proceed_ne nofun)
      · next changed settled done =>
          cases outcome
          obtain ⟨stored, present, success⟩ :=
            applyPaymentRefund_success (Surroundings.transact_eq_ok done)
          rw [standing.own row target] at present
          exact .of_success present success
  · next refundID cause definitive stage =>
      have calm := records refundID cause definitive stage
      rw [stage] at standing
      rw [← standing.own row target]
      rw [Surroundings.transact, calm] at outcome
      dsimp only at outcome
      split at outcome
      · next rejected =>
          cases outcome
          exact recordPaymentRefundError_rejected rejected _
      · next recorded done =>
          cases outcome
          exact recordPaymentRefundError_young done

private theorem World.sweepEnds_young {refundID : Int} (sound : world.Sound)
    (ends : World.sweepEnds refundID event world) (records : RecordsErrors event world) :
    ∃ time, event.clock = some time ∧ Young time refundID (World.next event world).db := by
  obtain ⟨index, around, run, row, rfl, standing, swept, rfl, goes⟩ := ends
  have target : run.target = .swept row := by
    unfold RefundRun.swept? at swept
    split at swept
    · next refund target =>
        cases swept
        exact target
    · cases swept
  have calm : ∀ refundID cause definitive, run.stage = .record refundID cause definitive →
      around.outage = none := by
    intro refundID cause definitive stage
    rw [RecordsErrors, standing, Option.map_some, stage] at records
    exact Option.isNone_iff_eq_none.mp records
  refine ⟨around.now, rfl, ?_⟩
  rw [World.next, standing]
  exact RefundRun.advance_young (sound run (List.mem_of_getElem? standing)) target calm goes

/-! ### A refund that waits -/

variable {waiting : OrderRefund} {history : List Event}

private theorem young_run {time : Time} {id : Int} (sound : world.Sound)
    (young : Young time id world.db)
    (since : ∀ event ∈ history, ∀ stamp ∈ event.clock, time ≤ stamp) :
    Young time id (run World.next world history).db := by
  induction history generalizing world with
  | nil => exact young
  | cons event rest ih =>
      refine ih (sound.step event) ?_ fun other member =>
        since other (List.mem_cons_of_mem _ member)
      exact (World.next_refunds sound event id).young (since event List.mem_cons_self) young

private theorem settled_run {id : Int} {row : OrderRefund} (sound : world.Sound)
    (present : world.db.refunds.find? id = some row) (success : row.status = .success) :
    ∃ last, (run World.next world history).db.refunds.find? id = some last ∧
      last.status = .success := by
  induction history generalizing world row with
  | nil => exact ⟨row, present, success⟩
  | cons event rest ih =>
      have step := World.next_refunds sound event id
      rw [present] at step
      obtain ⟨later, found, _, stays⟩ := step.kept
      exact ih (sound.step event) found (stays success)

private theorem waiting_run (sound : world.Sound) (inRuns : ∀ event ∈ history, event.inRuns = true)
    (unattempted : Throughout (fun event current => ¬ World.attempts waiting event current = true)
      World.next world history)
    (present : world.db.refunds.find? waiting.id = some waiting) :
    (run World.next world history).db.refunds.find? waiting.id = some waiting ∨
      ∃ last, (run World.next world history).db.refunds.find? waiting.id = some last ∧
        last.status = .success := by
  induction history generalizing world with
  | nil => exact Or.inl present
  | cons event rest ih =>
      have step := World.next_refunds sound event waiting.id
      rw [present] at step
      have untouched : ¬ (event.inRuns = true → World.attempts waiting event world = true) :=
        fun tried => unattempted.1 (tried (inRuns event List.mem_cons_self))
      rcases step.idle untouched with same | ⟨later, found, success⟩
      · exact ih (sound.step event) (fun other member => inRuns other (List.mem_cons_of_mem _ member))
          unattempted.2 same
      · rw [run_cons]
        exact Or.inr (settled_run (sound.step event) found success)

/-! ### The listing of a sweep -/

private theorem sweptBefore_trans {first second third : OrderRefund}
    (left : Database.sweptBefore first second) (right : Database.sweptBefore second third) :
    Database.sweptBefore first third := by
  unfold Database.sweptBefore at left right ⊢
  rcases left with earlier | ⟨same, smaller⟩
  · rcases right with later | ⟨equal, _⟩
    · exact Or.inl (lt_trans earlier later)
    · exact Or.inl (equal ▸ earlier)
  · rcases right with later | ⟨equal, larger⟩
    · exact Or.inl (same ▸ later)
    · exact Or.inr ⟨same.trans equal, le_trans smaller larger⟩

private theorem sweptBefore_total (left right : OrderRefund) :
    Database.sweptBefore left right ∨ Database.sweptBefore right left := by
  unfold Database.sweptBefore
  rcases lt_trichotomy left.updatedAt right.updatedAt with earlier | same | later
  · exact Or.inl (Or.inl earlier)
  · rcases le_total left.id right.id with smaller | larger
    · exact Or.inl (Or.inr ⟨same, smaller⟩)
    · exact Or.inr (Or.inr ⟨same.symm, larger⟩)
  · exact Or.inr (Or.inl later)

instance : IsTrans OrderRefund Database.sweptBefore :=
  ⟨fun _ _ _ => sweptBefore_trans⟩

instance : Std.Total Database.sweptBefore :=
  ⟨sweptBefore_total⟩

private theorem sweptBefore_updatedAt {left right : OrderRefund}
    (before : Database.sweptBefore left right) : left.updatedAt ≤ right.updatedAt := by
  rcases before with earlier | ⟨same, _⟩
  · exact le_of_lt earlier
  · exact le_of_eq same

private theorem staleRefunds_sorted (now : Time) (olderThan limit : Int) (db : Database) :
    (staleRefunds now olderThan limit db).Pairwise Database.sweptBefore := by
  obtain ⟨rows, same⟩ := staleRefunds_eq now olderThan limit db
  rw [same]
  exact (List.pairwise_insertionSort Database.sweptBefore _).sublist (List.take_sublist _ _)

private theorem mem_staleRefunds_of_older {now : Time} {olderThan limit : Int} {row : OrderRefund}
    (listed : row ∈ staleRefunds now olderThan limit db)
    (due : Due db now (staleAge olderThan) waiting) (older : waiting.updatedAt < row.updatedAt) :
    waiting ∈ staleRefunds now olderThan limit db := by
  obtain ⟨rows, same⟩ := staleRefunds_eq now olderThan limit db
  rw [same] at listed ⊢
  unfold Database.listStalePendingRefunds at listed ⊢
  have sorted := List.pairwise_insertionSort Database.sweptBefore
    (db.refunds.rows.filter (fun refund =>
      refund.status == .pending && decide (refund.updatedAt < now - staleAge olderThan)))
  have member := (List.mem_insertionSort Database.sweptBefore).mpr (mem_due.mpr due)
  rw [← List.take_append_drop rows (List.insertionSort _ _)] at sorted member
  rcases List.mem_append.mp member with taken | dropped
  · exact taken
  · have before := (List.pairwise_append.mp sorted).2.2 row listed waiting dropped
    exact absurd (sweptBefore_updatedAt before) (not_le_of_gt older)

/-! ### Going through the listing -/

/-- Every sweep is at a place of the listing, and has not passed the waiting refund. -/
def Ahead (listing : List OrderRefund) (waiting : OrderRefund) (world : World) : Prop :=
  ∀ run ∈ world.runs, ∀ row, run.swept? = some row →
    ∃ done, listing = done ++ row :: run.queue ∧ waiting ∉ done

private theorem RefundRun.giveUp_cases {run going : RefundRun} {cause : Fault}
    (goes : run.giveUp cause = some going) :
    (going.target = run.target ∧ going.queue = run.queue) ∨ run.proceed = some going := by
  unfold RefundRun.giveUp at goes
  split at goes
  · exact Or.inr goes
  · cases goes
    exact Or.inl ⟨rfl, rfl⟩

private theorem RefundRun.advance_cases {around : Surroundings} {run going : RefundRun}
    (goes : (run.advance around db).1 = some going) :
    (going.target = run.target ∧ going.queue = run.queue) ∨ run.proceed = some going := by
  unfold RefundRun.advance at goes
  split at goes
  · split at goes
    · exact RefundRun.giveUp_cases goes
    · cases goes
      exact Or.inl ⟨rfl, rfl⟩
  · split at goes
    · exact RefundRun.giveUp_cases goes
    · split at goes
      · cases goes
        exact Or.inl ⟨rfl, rfl⟩
      · exact RefundRun.giveUp_cases goes
  · split at goes
    · exact Or.inr goes
    · cases goes
      exact Or.inl ⟨rfl, rfl⟩
  · split at goes
    · cases goes
      exact Or.inl ⟨rfl, rfl⟩
    · exact Or.inr goes
  · split at goes
    · exact Or.inr goes
    · exact Or.inr goes

/-- A sweep that leaves a row has attempted it. -/
theorem Ahead.proceed {listing : List OrderRefund} (ahead : Ahead listing waiting world)
    {run going : RefundRun} {row : OrderRefund} (inside : run ∈ world.runs)
    (sound : run.Sound world.db) (other : run.target.paymentID ≠ waiting.paymentId)
    (proceeds : run.proceed = some going) (swept : going.swept? = some row) :
    ∃ done, listing = done ++ row :: going.queue ∧ waiting ∉ done := by
  unfold RefundRun.proceed at proceeds
  split at proceeds
  · cases proceeds
  · next refund rest queue =>
      cases proceeds
      cases swept
      cases target : run.target with
      | request paymentID =>
          have alone : run.queue = [] := sound.alone (by rw [RefundRun.swept?, target])
          rw [alone] at queue
          cases queue
      | swept current =>
          obtain ⟨done, split, passed⟩ :=
            ahead run inside current (by rw [RefundRun.swept?, target])
          refine ⟨done ++ [current], ?_, ?_⟩
          · rw [split, queue, List.append_assoc]
            rfl
          · intro member
            rcases List.mem_append.mp member with earlier | last
            · exact passed earlier
            · rw [target, List.mem_singleton.mp last] at other
              exact other rfl

private theorem Ahead.step {listing : List OrderRefund} (ahead : Ahead listing waiting world)
    (sound : world.Sound) (unattempted : ¬ World.attempts waiting event world = true)
    (continues : event.startsSweep = false) : Ahead listing waiting (World.next event world) := by
  intro going member row swept
  rcases World.mem_next_runs member with old | ⟨paymentID, _, starts⟩ |
    ⟨now, olderThan, limit, rfl, _⟩ | ⟨index, around, run, rfl, standing, goes⟩
  · exact ahead going old row swept
  · unfold Mall.refundPayment at starts
    split at starts
    · cases starts
    · cases starts
      cases swept
  · cases continues
  · have inside := List.mem_of_getElem? standing
    rcases RefundRun.advance_cases goes with ⟨target, queue⟩ | proceeds
    · have same : run.swept? = going.swept? := by
        rw [RefundRun.swept?, RefundRun.swept?, target]
      rw [queue]
      exact ahead run inside row (same.trans swept)
    · refine ahead.proceed inside (sound run inside) ?_ proceeds swept
      intro same
      refine unattempted ?_
      rw [World.attempts, standing]
      exact beq_iff_eq.mpr same

private theorem Ahead.run {listing : List OrderRefund} (ahead : Ahead listing waiting world)
    (sound : world.Sound)
    (unattempted : Throughout (fun event current => ¬ World.attempts waiting event current = true)
      World.next world history)
    (continues : ∀ event ∈ history, event.startsSweep = false) :
    Ahead listing waiting (Transactional.run World.next world history) := by
  induction history generalizing world with
  | nil => exact ahead
  | cons event rest ih =>
      refine ih ?_ (sound.step event) unattempted.2 fun other member =>
        continues other (List.mem_cons_of_mem _ member)
      exact ahead.step sound unattempted.1 (continues event List.mem_cons_self)

private theorem Ahead.start {now : Time} {olderThan limit : Int}
    (inTurn : ∀ run ∈ world.runs, run.swept?.isNone = true) (waiting : OrderRefund) :
    Ahead (staleRefunds now olderThan limit world.db) waiting
      (World.next (.reconcilePendingRefunds now olderThan limit) world) := by
  intro run member row swept
  rcases List.mem_append.mp member with old | new
  · have none := inTurn run old
    rw [swept] at none
    cases none
  · have starts := Option.mem_toList.mp new
    unfold Mall.reconcilePendingRefunds at starts
    split at starts
    · cases starts
    · next refund rest listing =>
        cases starts
        cases swept
        exact ⟨[], listing, List.not_mem_nil⟩

/-! ### Rotation -/

private theorem ClockKept.since {before rest : List Event} {event : Event} {time : Time}
    (kept : ClockKept (before ++ event :: rest)) (stamp : event.clock = some time) :
    ∀ other ∈ rest, ∀ later ∈ other.clock, time ≤ later := by
  unfold ClockKept at kept
  rw [List.filterMap_append, List.filterMap_cons_some stamp] at kept
  have ordered := (List.pairwise_cons.mp (List.pairwise_append.mp kept).2.1).1
  intro other member later at_later
  exact ordered later (List.mem_filterMap.mpr ⟨other, member, at_later⟩)

private theorem Young.mono {early late : Time} {id : Int} (young : Young late id db)
    (earlier : early ≤ late) : Young early id db :=
  fun row present pending => le_trans earlier (young row present pending)

namespace Rotation

variable {rotation : Rotation} {start : World} {refundID : Int}

def relisted (rotation : Rotation) (start : World) : World :=
  run World.next (World.next rotation.ended (rotation.ending start)) rotation.middle

private theorem attempted_eq (rotation : Rotation) (start : World) :
    rotation.attempted start =
      run World.next (World.next rotation.closing (rotation.relisted start)) rotation.second := by
  unfold attempted span
  rw [run_append, run_cons, run_append, run_cons]
  rfl

private theorem Repeats.sound (repeats : rotation.Repeats start refundID) :
    (rotation.listed start).Sound := by
  have begins : start.Sound := by
    intro run member
    rw [repeats.noRuns] at member
    exact absurd member List.not_mem_nil
  exact begins.run rotation.before

private theorem Repeats.ending_sound (repeats : rotation.Repeats start refundID) :
    (rotation.ending start).Sound :=
  repeats.sound.run rotation.opening

private theorem Repeats.relisted_sound (repeats : rotation.Repeats start refundID) :
    (rotation.relisted start).Sound :=
  (repeats.ending_sound.step rotation.ended).run rotation.middle

private theorem Repeats.since (repeats : rotation.Repeats start refundID) :
    ∀ event ∈ rotation.ended :: rotation.middle, ∀ stamp ∈ event.clock, rotation.now ≤ stamp := by
  intro event member
  refine ClockKept.since repeats.clock rfl event ?_
  rcases List.mem_cons.mp member with rfl | inside
  · simp
  · simp [inside]

private theorem throughout_events {condition : Event → World → Prop}
    (kept : Throughout condition World.next start rotation.events) :
    condition rotation.ended (rotation.ending start) ∧
      condition rotation.closing (rotation.relisted start) := by
  obtain ⟨_, kept⟩ := throughout_append.mp kept
  obtain ⟨kept, _⟩ := throughout_append.mp kept
  obtain ⟨_, ended, kept⟩ := throughout_append.mp kept
  obtain ⟨_, closing, _⟩ := throughout_append.mp kept
  exact ⟨ended, closing⟩

/-- When the second sweep lists its batch, the refund of the first attempt is younger than
the first listing. -/
theorem Repeats.young (repeats : rotation.Repeats start refundID) :
    Young rotation.now refundID (rotation.relisted start).db := by
  have records := (throughout_events repeats.recording).1
  obtain ⟨time, stamp, young⟩ :=
    World.sweepEnds_young repeats.ending_sound repeats.ended records
  have since := repeats.since
  refine young_run (repeats.ending_sound.step rotation.ended) (young.mono ?_) ?_
  · exact since rotation.ended List.mem_cons_self time stamp
  · exact fun event member => since event (List.mem_cons_of_mem _ member)

private theorem Repeats.inRuns_early (repeats : rotation.Repeats start refundID) :
    ∀ event ∈ rotation.opening ++ rotation.ended :: rotation.middle, event.inRuns = true := by
  intro event member
  refine repeats.inRuns event ?_
  unfold events span
  rcases List.mem_append.mp member with opened | later
  · simp [opened]
  · rcases List.mem_cons.mp later with rfl | inside
    · simp
    · simp [inside]

private theorem Repeats.waits {waiting : OrderRefund} (repeats : rotation.Repeats start refundID)
    (unattempted : Throughout (fun event world => ¬ World.attempts waiting event world = true)
      World.next (rotation.listed start) rotation.span)
    (present : (rotation.listed start).db.refunds.find? waiting.id = some waiting)
    {last : OrderRefund}
    (found : (rotation.attempted start).db.refunds.find? waiting.id = some last)
    (pending : last.status = .pending) :
    (rotation.relisted start).db.refunds.find? waiting.id = some waiting := by
  obtain ⟨opening, ended, rest⟩ := throughout_append.mp unattempted
  obtain ⟨middle, _⟩ := throughout_append.mp rest
  have early : Throughout (fun event world => ¬ World.attempts waiting event world = true)
      World.next (rotation.listed start) (rotation.opening ++ rotation.ended :: rotation.middle) :=
    throughout_append.mpr ⟨opening, ended, middle⟩
  have rests := waiting_run repeats.sound repeats.inRuns_early early present
  rw [run_append, run_cons] at rests
  rcases rests with same | ⟨row, settled, success⟩
  · exact same
  · have kept : ∃ final, (rotation.attempted start).db.refunds.find? waiting.id = some final ∧
        final.status = .success := by
      rw [rotation.attempted_eq start, ← run_cons]
      exact settled_run repeats.relisted_sound settled success
    obtain ⟨final, known, stays⟩ := kept
    cases known.symm.trans found
    rw [pending] at stays
    cases stays

def batch (rotation : Rotation) (start : World) : List OrderRefund :=
  staleRefunds rotation.laterNow rotation.laterOlderThan rotation.laterLimit
    (rotation.relisted start).db

private theorem Repeats.ahead {waiting : OrderRefund} (repeats : rotation.Repeats start refundID)
    (unattempted : Throughout (fun event world => ¬ World.attempts waiting event world = true)
      World.next (rotation.listed start) rotation.span) :
    Ahead (rotation.batch start) waiting (rotation.attempted start) := by
  obtain ⟨_, _, rest⟩ := throughout_append.mp unattempted
  obtain ⟨_, _, second⟩ := throughout_append.mp rest
  have inTurn := (throughout_events repeats.inTurn).2 rfl
  rw [rotation.attempted_eq start]
  exact (Ahead.start inTurn waiting).run (repeats.relisted_sound.step _) second repeats.lastSweep

end Rotation

private theorem staleAge_pos (olderThan : Int) : 0 < staleAge olderThan := by
  unfold staleAge
  split
  · decide
  · omega

private theorem Rotation.Repeats.tried {rotation : Rotation} {start : World} {refundID : Int}
    (repeats : rotation.Repeats start refundID) {waiting last : OrderRefund}
    (due : Due (rotation.listed start).db rotation.now (staleAge rotation.olderThan) waiting)
    (found : (rotation.attempted start).db.refunds.find? waiting.id = some last)
    (pending : last.status = .pending) :
    Sometime (fun event world => World.attempts waiting event world = true) World.next
      (rotation.listed start) rotation.span := by
  by_contra never
  have unattempted := not_sometime.mp never
  obtain ⟨present, waitingPending, stale⟩ := due
  have waits := repeats.waits unattempted present found pending
  obtain ⟨index, around, run, row, _, standing, swept, rfl⟩ := repeats.attempt
  obtain ⟨done, batch, passed⟩ :=
    repeats.ahead unattempted run (List.mem_of_getElem? standing) row swept
  have listed : row ∈ rotation.batch start := by
    rw [batch]
    exact List.mem_append_right _ List.mem_cons_self
  obtain ⟨stored, rowPending, rowStale⟩ := staleRefunds_due listed
  -- the attempted refund has been stamped since the first listing, the waiting one has not
  have older : waiting.updatedAt < row.updatedAt := by
    have before : rotation.now - staleAge rotation.olderThan ≤ rotation.now :=
      Int.sub_le_self rotation.now (le_of_lt (staleAge_pos rotation.olderThan))
    have after : rotation.now ≤ row.updatedAt := repeats.young row stored rowPending
    exact lt_of_lt_of_le (lt_of_lt_of_le stale before) after
  have inBatch : waiting ∈ rotation.batch start :=
    mem_staleRefunds_of_older listed ⟨waits, waitingPending, lt_trans older rowStale⟩ older
  -- so it stands in front of it in the batch, where the sweep has passed it
  have sorted := staleRefunds_sorted rotation.laterNow rotation.laterOlderThan rotation.laterLimit
    (rotation.relisted start).db
  change (rotation.batch start).Pairwise Database.sweptBefore at sorted
  rw [batch] at sorted inBatch
  rcases List.mem_append.mp inBatch with earlier | later
  · exact passed earlier
  · rcases List.mem_cons.mp later with rfl | behind
    · exact lt_irrefl _ older
    · have order := (List.pairwise_cons.mp (List.pairwise_append.mp sorted).2.1).1 waiting behind
      exact absurd (sweptBefore_updatedAt order) (not_le_of_gt older)

/-! ### Attempts that begin -/

def Unbegun (waiting : OrderRefund) (world : World) : Prop :=
  ∀ run ∈ world.runs, run.target.paymentID = waiting.paymentId → run.stage.fresh = true

private theorem Unbegun.begins (unbegun : Unbegun waiting world)
    (attempts : World.attempts waiting event world = true) :
    World.begins waiting event world = true := by
  unfold World.attempts at attempts
  split at attempts
  · next index around =>
      obtain ⟨run, standing, about⟩ := (Option.any_eq_true _ _).mp attempts
      have fresh := unbegun run (List.mem_of_getElem? standing) (beq_iff_eq.mp about)
      rw [World.begins, standing]
      exact Bool.and_eq_true_iff.mpr ⟨fresh, about⟩
  · cases attempts

private theorem Unbegun.step (unbegun : Unbegun waiting world)
    (idle : ¬ World.begins waiting event world = true) :
    Unbegun waiting (World.next event world) := by
  intro going member about
  rcases World.mem_next_runs member with old | ⟨paymentID, _, starts⟩ |
    ⟨now, olderThan, limit, _, starts⟩ | ⟨index, around, run, rfl, standing, goes⟩
  · exact unbegun going old about
  · unfold Mall.refundPayment at starts
    split at starts
    · cases starts
    · cases starts
      rfl
  · unfold Mall.reconcilePendingRefunds at starts
    split at starts
    · cases starts
    · cases starts
      rfl
  · rcases RefundRun.advance_cases goes with ⟨target, _⟩ | proceeds
    · have attempts : World.attempts waiting (.advance index around) world = true := by
        rw [World.attempts, standing, ← about, target]
        exact beq_self_eq_true _
      exact absurd (unbegun.begins attempts) idle
    · rw [RefundRun.proceed_stage proceeds]
      rfl

private theorem Unbegun.unattempted (unbegun : Unbegun waiting world)
    (idle : Throughout (fun event current => ¬ World.begins waiting event current = true)
      World.next world history) :
    Throughout (fun event current => ¬ World.attempts waiting event current = true)
      World.next world history := by
  induction history generalizing world with
  | nil => trivial
  | cons event rest ih =>
      exact ⟨fun attempts => idle.1 (unbegun.begins attempts), ih (unbegun.step idle.1) idle.2⟩

private theorem Rotation.Repeats.unbegun {rotation : Rotation} {start : World} {refundID : Int}
    (repeats : rotation.Repeats start refundID)
    (unrequested : ¬ (rotation.listed start).requested waiting = true) :
    Unbegun waiting (rotation.listed start) := by
  intro run member about
  -- no other sweep is under way when the first one lists its batch
  have alone := (throughout_append.mp repeats.inTurn).2.1 rfl run member
  by_contra begun
  refine unrequested (List.any_eq_true.mpr ⟨run, member, ?_⟩)
  rw [alone, Bool.eq_false_iff.mpr begun]
  exact beq_iff_eq.mpr about

def twicePaid : List Operation :=
  paidHistory ++ [orderTea "ORD2" "order-key-2" 1, openTeaPayment "PAY2" 2 100,
    answerTeaPayment 2 "PAY2" "TX2" .success 100]

/-- What a run for a payment meets when the gateway does not answer. -/
def unanswered (now : Time) (paymentID : Int) : Surroundings :=
  { teaSurroundings (if paymentID = 1 then "RFND1" else "RFND2") none 0 with
    now := now
    loaded := found ((run next smallShop twicePaid).getPayment paymentID) errPaymentNotFound }

end Mall
