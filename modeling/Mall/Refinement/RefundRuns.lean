/-
What one step of the world of refund runs can do.

A stage of a run commits at most one transaction, so the database goes through
reached states.  A run stands before its gateway call only because its
preparation committed, and a call is made only by such a run.
-/

import Mall.RefundRuns
import Mall.Refinement.System

namespace Mall

open Ledger Relational Transactional

variable {event : Event} {world : World}

/-! ### One stage of a run -/

theorem Surroundings.transact_eq_ok {α : Type} {around : Surroundings} {body : Except Fault α}
    {value : α} (done : around.transact body = .ok value) : body = .ok value := by
  unfold Surroundings.transact at done
  split at done
  · exact done
  · cases done

theorem RefundRun.proceed_stage {run going : RefundRun} (next : run.proceed = some going) :
    going.stage = .load := by
  unfold RefundRun.proceed at next
  split at next
  · cases next
  · cases next
    rfl

theorem RefundRun.giveUp_stage {run going : RefundRun} {cause : Fault}
    (next : run.giveUp cause = some going) (method : PaymentMethod) (payment : Payment)
    (refund : OrderRefund) : going.stage ≠ .execute method payment refund := by
  unfold RefundRun.giveUp at next
  split at next
  · rw [RefundRun.proceed_stage next]
    nofun
  · cases next
    nofun

private theorem answeredStage_ne (around : Surroundings) (payment : Payment) (refund : OrderRefund)
    (method : PaymentMethod) (other : Payment) (row : OrderRefund) :
    answeredStage around payment refund ≠ .execute method other row := by
  unfold answeredStage
  dsimp only
  split
  · nofun
  · split <;> nofun

theorem RefundRun.advance_commits (around : Surroundings) (run : RefundRun) (db : Database) :
    (run.advance around db).2 = db ∨
      ∃ operation, execute operation db = .ok (run.advance around db).2 ∧
        ∀ order, ¬ operation.Ships order := by
  unfold RefundRun.advance
  split
  · split
    · exact Or.inl rfl
    · exact Or.inl rfl
  · split
    · exact Or.inl rfl
    · next payment refund prepared done =>
        have body := Surroundings.transact_eq_ok done
        have committed : execute (.preparePaymentRefund around.now run.target.paymentID
            (run.target.outRefundNo around.outRefundNo)) db = .ok prepared :=
          map_eq_ok.mpr ⟨_, body, rfl⟩
        split
        · exact Or.inr ⟨_, committed, fun _ => not_false⟩
        · exact Or.inr ⟨_, committed, fun _ => not_false⟩
  · split
    · exact Or.inl rfl
    · exact Or.inl rfl
  · next payment refund stage =>
      split
      · exact Or.inl rfl
      · next changed settled done =>
          have body := Surroundings.transact_eq_ok done
          have committed : execute (.applyPaymentRefund around.now payment.id refund.id) db =
              .ok settled :=
            map_eq_ok.mpr ⟨_, body, rfl⟩
          exact Or.inr ⟨_, committed, fun _ => not_false⟩
  · next refundID cause definitive stage =>
      split
      · exact Or.inl rfl
      · next recorded done =>
          have committed : execute (.recordPaymentRefundError around.now refundID
              (around.errorText cause) definitive) db = .ok recorded :=
            Surroundings.transact_eq_ok done
          exact Or.inr ⟨_, committed, fun _ => not_false⟩

theorem RefundRun.advance_prepared {around : Surroundings} {run going : RefundRun} {db : Database}
    {method : PaymentMethod} {payment : Payment} {refund : OrderRefund}
    (next : (run.advance around db).1 = some going)
    (ahead : going.stage = .execute method payment refund) :
    ∃ number, preparePaymentRefund around.now run.target.paymentID number db =
      .ok (payment, refund, (run.advance around db).2) := by
  unfold RefundRun.advance at next ⊢
  split at next
  · split at next
    · exact absurd ahead (RefundRun.giveUp_stage next _ _ _)
    · cases next
      cases ahead
  · split at next
    · exact absurd ahead (RefundRun.giveUp_stage next _ _ _)
    · next prepared done =>
        have body := Surroundings.transact_eq_ok done
        split at next
        · next accepted =>
            cases next
            cases ahead
            rw [if_pos accepted]
            exact ⟨_, body⟩
        · exact absurd ahead (RefundRun.giveUp_stage next _ _ _)
  · split at next
    · rw [RefundRun.proceed_stage next] at ahead
      cases ahead
    · cases next
      exact absurd ahead (answeredStage_ne _ _ _ _ _ _)
  · split at next
    · cases next
      cases ahead
    · rw [RefundRun.proceed_stage next] at ahead
      cases ahead
  · split at next
    · rw [RefundRun.proceed_stage next] at ahead
      cases ahead
    · rw [RefundRun.proceed_stage next] at ahead
      cases ahead

/-- A call repeats the refund row that the run prepared. -/
theorem RefundRun.call_eq_some {around : Surroundings} {run : RefundRun} {call : GatewayCall}
    (called : run.call around = some call) :
    ∃ method payment refund, run.stage = .execute method payment refund ∧
      refund.status ≠ .success ∧ call.paymentID = payment.id ∧
      call.request = refundRequest method payment refund := by
  unfold RefundRun.call at called
  split at called
  · next method payment refund stage =>
      split at called
      · cases called
      · next unsettled =>
          cases called
          exact ⟨method, payment, refund, stage, unsettled, rfl, rfl⟩
  · cases called

/-! ### One step of the world -/

/-- A step leaves the database alone or commits one transaction.  Only the events
of other requests ship. -/
theorem World.next_db (event : Event) (world : World) :
    (World.next event world).db = world.db ∨
      ∃ operation, execute operation world.db = .ok (World.next event world).db ∧
        ∀ order, operation.Ships order → event = .operation operation := by
  cases event with
  | operation operation =>
      rcases commit_cases (execute operation) world.db with same | done
      · exact Or.inl same
      · exact Or.inr ⟨operation, done, fun _ _ => rfl⟩
  | refundPayment paymentID => exact Or.inl rfl
  | reconcilePendingRefunds now olderThan limit => exact Or.inl rfl
  | crash index => exact Or.inl rfl
  | advance index around =>
      cases standing : world.runs[index]? with
      | none =>
          rw [World.next, standing]
          exact Or.inl rfl
      | some run =>
          rw [World.next, standing]
          rcases RefundRun.advance_commits around run world.db with same | ⟨operation, done, idle⟩
          · exact Or.inl same
          · exact Or.inr ⟨operation, done, fun order ships => absurd ships (idle order)⟩

theorem World.next_runs {going : RefundRun} {method : PaymentMethod} {payment : Payment}
    {refund : OrderRefund} (member : going ∈ (World.next event world).runs)
    (ahead : going.stage = .execute method payment refund) :
    going ∈ world.runs ∨ ∃ now paymentID number,
      preparePaymentRefund now paymentID number world.db =
        .ok (payment, refund, (World.next event world).db) := by
  have started : ∀ run : Option RefundRun, (∀ new ∈ run, new.stage = .load) →
      going ∈ (world.start run).runs → going ∈ world.runs := by
    intro run fresh inside
    rcases List.mem_append.mp inside with old | new
    · exact old
    · rw [fresh going (Option.mem_toList.mp new)] at ahead
      cases ahead
  cases event with
  | operation operation => exact Or.inl member
  | refundPayment paymentID =>
      refine Or.inl (started _ ?_ member)
      intro new chosen
      unfold Mall.refundPayment at chosen
      split at chosen
      · cases chosen
      · cases chosen
        rfl
  | reconcilePendingRefunds now olderThan limit =>
      refine Or.inl (started _ ?_ member)
      intro new chosen
      unfold Mall.reconcilePendingRefunds at chosen
      split at chosen
      · cases chosen
      · cases chosen
        rfl
  | crash index => exact Or.inl (List.mem_of_mem_eraseIdx member)
  | advance index around =>
      cases standing : world.runs[index]? with
      | none =>
          rw [World.next, standing] at member
          exact Or.inl member
      | some run =>
          rw [World.next, standing] at member ⊢
          dsimp only at member ⊢
          cases after : (run.advance around world.db).1 with
          | none =>
              rw [after] at member
              exact Or.inl (List.mem_of_mem_eraseIdx member)
          | some moved =>
              rw [after] at member
              rcases List.mem_or_eq_of_mem_set member with old | rfl
              · exact Or.inl old
              · obtain ⟨number, done⟩ := RefundRun.advance_prepared after ahead
                exact Or.inr ⟨around.now, run.target.paymentID, number, done⟩

theorem World.next_calls (event : Event) (world : World) :
    (World.next event world).calls = (World.call event world).toList ++ world.calls := by
  cases event with
  | advance index around =>
      cases standing : world.runs[index]? with
      | none =>
          rw [World.next, World.call, standing]
          rfl
      | some run =>
          rw [World.next, World.call, standing]
          rfl
  | _ => rfl

theorem World.call_eq_some {call : GatewayCall} (called : World.call event world = some call) :
    ∃ run ∈ world.runs, ∃ method payment refund, run.stage = .execute method payment refund ∧
      refund.status ≠ .success ∧ call.paymentID = payment.id ∧
      call.request = refundRequest method payment refund := by
  cases event with
  | advance index around =>
      obtain ⟨run, standing, made⟩ := Option.bind_eq_some_iff.mp called
      exact ⟨run, List.mem_of_getElem? standing, RefundRun.call_eq_some made⟩
  | _ => cases called

/-! ### Reached worlds -/

theorem World.Reached.database (reached : world.Reached) : Mall.Reached world.db := by
  have starts : ∀ start : World, start.Initial → Mall.Reached start.db :=
    fun _ initial => .start initial.db
  refine Reachable.invariant starts ?_ reached
  intro current event _ holds
  rcases World.next_db event current with same | ⟨operation, done, _⟩
  · rw [same]
    exact holds
  · rw [← commit_of_ok done]
    exact holds.step operation

end Mall
