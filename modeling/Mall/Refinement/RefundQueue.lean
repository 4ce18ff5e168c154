/-
What a run of refunds stands on, and what an event does to a waiting refund.

A run knows the rows it has to go through, and the refund of its stage belongs to the
payment that it works on.  From this follows what any event makes of any row.
-/

import Mall.Refinement.RefundRows
import Mall.RefundQueue

namespace Mall

open Relational Transactional

variable {db result : Database} {event : Event} {world : World}

/-! ### Rows that stay -/

/-- Refunds stay, with their payment; what is settled stays settled. -/
def RefundsKept (db later : Database) : Prop :=
  ∀ id row, db.refunds.find? id = some row → ∃ last, later.refunds.find? id = some last ∧
    last.paymentId = row.paymentId ∧ (row.status = .success → last.status = .success)

theorem RefundsKept.of_steps {now : Option Time} {attempted : OrderRefund → Prop}
    (steps : ∀ id, RefundStep now attempted (db.refunds.find? id) (result.refunds.find? id)) :
    RefundsKept db result := by
  intro id row present
  have step := steps id
  rw [present] at step
  exact step.kept

/-- The row was read from the table, where it still has its payment. -/
def Listed (db : Database) (row : OrderRefund) : Prop :=
  ∃ stored, db.refunds.find? row.id = some stored ∧ stored.paymentId = row.paymentId

theorem Listed.kept {row : OrderRefund} (listed : Listed db row) (kept : RefundsKept db result) :
    Listed result row := by
  obtain ⟨stored, present, payment⟩ := listed
  obtain ⟨last, found, same, _⟩ := kept row.id stored present
  exact ⟨last, found, same.trans payment⟩

/-- The refund belongs to the payment of the run, and a sweep has not left its row. -/
structure Stands (db : Database) (target : RefundTarget) (refundID : Int) : Prop where
  stored : ∃ row, db.refunds.find? refundID = some row ∧ row.paymentId = target.paymentID
  own : ∀ row, target = .swept row → refundID = row.id

theorem Stands.kept {target : RefundTarget} {refundID : Int} (stands : Stands db target refundID)
    (kept : RefundsKept db result) : Stands result target refundID := by
  obtain ⟨row, present, payment⟩ := stands.stored
  obtain ⟨last, found, same, _⟩ := kept refundID row present
  exact ⟨⟨last, found, same.trans payment⟩, stands.own⟩

def RefundStage.Sound (db : Database) (target : RefundTarget) : RefundStage → Prop
  | .load => True
  | .prepare _ => True
  | .execute _ _ refund => Stands db target refund.id ∧
      (refund.status = .success →
        ∃ row, db.refunds.find? refund.id = some row ∧ row.status = .success)
  | .settle _ refund => Stands db target refund.id
  | .record refundID _ _ => Stands db target refundID

theorem RefundStage.Sound.kept {target : RefundTarget} {stage : RefundStage}
    (sound : stage.Sound db target) (kept : RefundsKept db result) :
    stage.Sound result target := by
  cases stage with
  | load => trivial
  | prepare method => trivial
  | execute method payment refund =>
      refine ⟨sound.1.kept kept, fun success => ?_⟩
      obtain ⟨row, present, settled⟩ := sound.2 success
      obtain ⟨last, found, _, stays⟩ := kept refund.id row present
      exact ⟨last, found, stays settled⟩
  | settle payment refund => exact Stands.kept sound kept
  | record refundID cause definitive => exact Stands.kept sound kept

structure RefundRun.Sound (db : Database) (run : RefundRun) : Prop where
  target : ∀ row, run.target = .swept row → Listed db row
  queue : ∀ row ∈ run.queue, Listed db row
  alone : run.swept? = none → run.queue = []
  stage : run.stage.Sound db run.target

namespace RefundRun.Sound

variable {run going : RefundRun}

private theorem kept (sound : run.Sound db) (kept : RefundsKept db result) : run.Sound result :=
  ⟨fun row at_row => (sound.target row at_row).kept kept,
    fun row member => (sound.queue row member).kept kept, sound.alone, sound.stage.kept kept⟩

private theorem proceed (sound : run.Sound db) (goes : run.proceed = some going) :
    going.Sound db := by
  unfold RefundRun.proceed at goes
  split at goes
  · cases goes
  · next refund rest queue =>
      cases goes
      have listed : ∀ row ∈ refund :: rest, Listed db row := queue ▸ sound.queue
      refine ⟨?_, fun row member => listed row (List.mem_cons_of_mem _ member), nofun, trivial⟩
      intro row same
      cases same
      exact listed refund List.mem_cons_self

private theorem withStage (sound : run.Sound db) {stage : RefundStage}
    (next : stage.Sound db run.target) : RefundRun.Sound db { run with stage := stage } :=
  ⟨sound.target, sound.queue, sound.alone, next⟩

private theorem giveUp (sound : run.Sound db) {cause : Fault}
    (goes : run.giveUp cause = some going) :
    going.Sound db := by
  unfold RefundRun.giveUp at goes
  split at goes
  · exact sound.proceed goes
  · next refund target =>
      cases goes
      obtain ⟨stored, present, payment⟩ := sound.target refund target
      refine sound.withStage ⟨⟨stored, present, ?_⟩, ?_⟩
      · rw [target]
        exact payment
      · intro row same
        rw [target] at same
        cases same
        rfl

private theorem answered {around : Surroundings} {method : PaymentMethod} {payment : Payment}
    {refund : OrderRefund} (sound : run.Sound db)
    (standing : run.stage = .execute method payment refund) :
    (answeredStage around payment refund).Sound db run.target := by
  have stands : Stands db run.target refund.id := by
    have stage := sound.stage
    rw [standing] at stage
    exact stage.1
  unfold answeredStage
  dsimp only
  split
  · exact stands
  · split
    · exact stands
    · exact stands

end RefundRun.Sound

/-! ### One stage -/

theorem RefundRun.advance_refunds {run : RefundRun} (sound : run.Sound db) (around : Surroundings)
    (id : Int) :
    RefundStep (some around.now) (fun row => row.paymentId = run.target.paymentID)
      (db.refunds.find? id) ((run.advance around db).2.refunds.find? id) := by
  have standing := sound.stage
  unfold RefundRun.advance
  split
  · split
    · exact .same _
    · exact .same _
  · split
    · exact .same _
    · next payment refund prepared done =>
        have step := preparePaymentRefund_refunds (Surroundings.transact_eq_ok done) id
        split
        · exact step
        · exact step
  · split
    · exact .same _
    · exact .same _
  · split
    · exact .same _
    · next changed settled done =>
        have touched : Footprint Scope.plain _ _ :=
          applyPaymentRefund_footprint (Surroundings.transact_eq_ok done)
        exact .of_settle (touched.refunds rfl) id
  · next refundID cause definitive stage =>
      split
      · exact .same _
      · next recorded done =>
          rw [stage] at standing
          obtain ⟨row, present, payment⟩ := standing.stored
          have step := recordPaymentRefundError_refunds (Surroundings.transact_eq_ok done) id
          refine step.mono fun found member key => ?_
          have same : id = refundID := (Table.key_of_find? member).symm.trans key
          rw [same] at member
          cases present.symm.trans member
          exact payment

theorem RefundRun.advance_prepared_sound {around : Surroundings} {run : RefundRun}
    {method : PaymentMethod} {payment : Payment} {refund : OrderRefund} {number : String}
    (done : preparePaymentRefund around.now run.target.paymentID number db =
      .ok (payment, refund, result))
    (accepted : run.target.accepts refund = true) :
    (RefundStage.execute method payment refund).Sound result run.target := by
  obtain ⟨_, stored, about, _⟩ := preparePaymentRefund_eq_ok done
  refine ⟨⟨⟨refund, stored, about.trans (preparePaymentRefund_payment done)⟩, ?_⟩, ?_⟩
  · intro row target
    rw [target] at accepted
    exact beq_iff_eq.mp accepted
  · intro success
    exact ⟨refund, stored, success⟩

theorem RefundRun.advance_sound {around : Surroundings} {run going : RefundRun}
    (sound : run.Sound db) (goes : (run.advance around db).1 = some going) :
    going.Sound (run.advance around db).2 := by
  have later : run.Sound (run.advance around db).2 :=
    sound.kept (.of_steps (RefundRun.advance_refunds sound around))
  generalize outcome : run.advance around db = reached at goes later ⊢
  unfold RefundRun.advance at outcome
  split at outcome
  · split at outcome
    · cases outcome
      exact later.giveUp goes
    · cases outcome
      cases goes
      exact later.withStage trivial
  · split at outcome
    · cases outcome
      exact later.giveUp goes
    · next payment refund prepared done =>
        split at outcome
        · next accepted =>
            cases outcome
            cases goes
            exact later.withStage
              (RefundRun.advance_prepared_sound (Surroundings.transact_eq_ok done) accepted)
        · cases outcome
          exact later.giveUp goes
  · next method payment refund stage =>
      split at outcome
      · cases outcome
        exact later.proceed goes
      · cases outcome
        cases goes
        exact later.withStage (later.answered stage)
  · next payment refund stage =>
      split at outcome
      · cases outcome
        cases goes
        have standing := later.stage
        rw [stage] at standing
        exact later.withStage standing
      · cases outcome
        exact later.proceed goes
  · split at outcome
    · cases outcome
      exact later.proceed goes
    · cases outcome
      exact later.proceed goes

/-! ### Events -/

def World.Sound (world : World) : Prop :=
  ∀ run ∈ world.runs, run.Sound world.db

/-- What an event makes of a refund. -/
theorem World.next_refunds (sound : world.Sound) (event : Event) (id : Int) :
    RefundStep event.clock
      (fun row => event.inRuns = true → World.attempts row event world = true)
      (world.db.refunds.find? id) ((World.next event world).db.refunds.find? id) := by
  cases event with
  | operation transaction =>
      rcases commit_cases (execute transaction) world.db with same | done
      · change RefundStep _ _ _ ((commit (execute transaction) world.db).refunds.find? id)
        rw [same]
        exact .same _
      · cases aside : transaction.attemptsRefund with
        | false => exact .of_settle (execute_settles aside done) id
        | true =>
            cases transaction with
            | preparePaymentRefund now paymentID outRefundNo =>
                obtain ⟨⟨payment, refund, prepared⟩, body, same⟩ := map_eq_ok.mp done
                have step := preparePaymentRefund_refunds body id
                change prepared = _ at same
                rw [same] at step
                exact step.mono fun row _ _ inside => by cases inside
            | recordPaymentRefundError now refundID lastError definitive =>
                have step := recordPaymentRefundError_refunds done id
                exact step.mono fun row _ _ inside => by cases inside
            | _ => cases aside
  | refundPayment paymentID => exact .same _
  | reconcilePendingRefunds now olderThan limit => exact .same _
  | crash index => exact .same _
  | advance index around =>
      cases standing : world.runs[index]? with
      | none =>
          rw [World.next, standing]
          exact .same _
      | some run =>
          rw [World.next, standing]
          have step := RefundRun.advance_refunds (sound run (List.mem_of_getElem? standing)) around id
          refine step.mono fun row _ about _ => ?_
          rw [World.attempts, standing]
          exact beq_iff_eq.mpr about.symm

theorem staleRefunds_eq (now : Time) (olderThan limit : Int) (db : Database) :
    ∃ rows, staleRefunds now olderThan limit db =
      db.listStalePendingRefunds now (staleAge olderThan) rows := by
  unfold staleRefunds
  by_cases negative : Int.bmod (if limit ≤ 0 then 100 else limit) (2 ^ 32) < 0
  · rw [if_pos negative]
    exact ⟨0, List.take_zero.symm⟩
  · rw [if_neg negative]
    exact ⟨_, rfl⟩

theorem mem_due {now : Time} {age : Int} {row : OrderRefund} :
    row ∈ db.refunds.rows.filter (fun refund =>
      refund.status == .pending && decide (refund.updatedAt < now - age)) ↔ Due db now age row := by
  rw [List.mem_filter, Bool.and_eq_true_iff, beq_iff_eq, decide_eq_true_iff]
  constructor
  · rintro ⟨stored, due⟩
    exact ⟨Table.find?_key stored, due⟩
  · rintro ⟨stored, due⟩
    exact ⟨Table.mem_of_find? stored, due⟩

theorem staleRefunds_due {now : Time} {olderThan limit : Int} {row : OrderRefund}
    (member : row ∈ staleRefunds now olderThan limit db) : Due db now (staleAge olderThan) row := by
  obtain ⟨rows, same⟩ := staleRefunds_eq now olderThan limit db
  rw [same] at member
  exact mem_due.mp ((List.mem_insertionSort _).mp (List.mem_of_mem_take member))

private theorem refundPayment_sound {paymentID : Int} {run : RefundRun}
    (starts : refundPayment paymentID = some run) : run.Sound db := by
  unfold refundPayment at starts
  split at starts
  · cases starts
  · cases starts
    refine ⟨?_, ?_, fun _ => rfl, trivial⟩
    · intro row same
      cases same
    · intro row member
      exact absurd member List.not_mem_nil

private theorem reconcilePendingRefunds_sound {now : Time} {olderThan limit : Int} {run : RefundRun}
    (starts : reconcilePendingRefunds now olderThan limit db = some run) : run.Sound db := by
  unfold reconcilePendingRefunds at starts
  split at starts
  · cases starts
  · next refund rest listing =>
      cases starts
      have listed : ∀ row ∈ refund :: rest, Listed db row := by
        intro row member
        rw [← listing] at member
        exact ⟨row, (staleRefunds_due member).1, rfl⟩
      refine ⟨?_, fun row member => listed row (List.mem_cons_of_mem _ member), nofun, trivial⟩
      intro row same
      cases same
      exact listed refund List.mem_cons_self

theorem World.mem_next_runs {going : RefundRun} (member : going ∈ (World.next event world).runs) :
    going ∈ world.runs ∨
      (∃ paymentID, event = .refundPayment paymentID ∧ refundPayment paymentID = some going) ∨
      (∃ now olderThan limit, event = .reconcilePendingRefunds now olderThan limit ∧
        reconcilePendingRefunds now olderThan limit world.db = some going) ∨
      ∃ index around run, event = .advance index around ∧ world.runs[index]? = some run ∧
        (run.advance around world.db).1 = some going := by
  cases event with
  | operation transaction => exact Or.inl member
  | refundPayment paymentID =>
      rcases List.mem_append.mp member with old | new
      · exact Or.inl old
      · exact Or.inr (Or.inl ⟨paymentID, rfl, Option.mem_toList.mp new⟩)
  | reconcilePendingRefunds now olderThan limit =>
      rcases List.mem_append.mp member with old | new
      · exact Or.inl old
      · exact Or.inr (Or.inr (Or.inl ⟨now, olderThan, limit, rfl, Option.mem_toList.mp new⟩))
  | crash index => exact Or.inl (List.mem_of_mem_eraseIdx member)
  | advance index around =>
      cases standing : world.runs[index]? with
      | none =>
          rw [World.next, standing] at member
          exact Or.inl member
      | some run =>
          rw [World.next, standing] at member
          dsimp only at member
          cases after : (run.advance around world.db).1 with
          | none =>
              rw [after] at member
              exact Or.inl (List.mem_of_mem_eraseIdx member)
          | some moved =>
              rw [after] at member
              rcases List.mem_or_eq_of_mem_set member with old | rfl
              · exact Or.inl old
              · exact Or.inr (Or.inr (Or.inr ⟨index, around, run, rfl, standing, after⟩))

theorem World.Sound.step (sound : world.Sound) (event : Event) :
    (World.next event world).Sound := by
  have kept : RefundsKept world.db (World.next event world).db :=
    .of_steps (World.next_refunds sound event)
  intro going member
  rcases World.mem_next_runs member with old | ⟨paymentID, _, starts⟩ |
    ⟨now, olderThan, limit, _, starts⟩ | ⟨index, around, run, rfl, standing, goes⟩
  · exact (sound going old).kept kept
  · exact refundPayment_sound starts
  · exact (reconcilePendingRefunds_sound starts).kept kept
  · have moved := RefundRun.advance_sound (sound run (List.mem_of_getElem? standing)) goes
    rw [World.next, standing]
    exact moved

theorem World.Sound.run (sound : world.Sound) (history : List Event) :
    (Transactional.run World.next world history).Sound := by
  induction history generalizing world with
  | nil => exact sound
  | cons event rest ih => exact ih (sound.step event)

end Mall
