/-
Verified callbacks are never lost.

A notification is processed, failed or still carried by an unfinished job; processed
is final; and only the commit of its own check processes it.
-/

import Mall.Refinement.Callbacks

namespace Mall

open Relational Transactional

variable {db result : Database} {args : CheckPayArgs} {moment : CheckMoment}
  {world : CallbackWorld}

/-! ### What processes a notification -/

/-- The transaction with which a check handles its notification: the provider's answer,
a review flag on its payment, or the handover to closing. -/
inductive CheckStage.Handles (moment : CheckMoment) (args : CheckPayArgs) (db result : Database) :
    CheckStage → Prop
  | answer (answer : PaymentQueryResult)
      (done : applyPayQuery moment.clock args (some answer) db = .ok result) :
      CheckStage.Handles moment args db result (.apply answer)
  | review (failure : FailureInput) (about : failure.paymentID = args.paymentID)
      (done : markReconciliationRequired failure db = .ok result) :
      CheckStage.Handles moment args db result (.flag failure)
  | close (polls : Int)
      (done : markPayClosePending { args with pollCount := polls } db = .ok result) :
      CheckStage.Handles moment args db result (.handOver polls)

def Unmarked (db result : Database) : Prop :=
  ∀ id row later, db.notifications.find? id = some row →
    result.notifications.find? id = some later → later.status = .processed →
      row.status = .processed

private theorem Unmarked.refl (db : Database) : Unmarked db db := by
  intro id row later present found processed
  cases present.symm.trans found
  exact processed

private theorem Unmarked.then {middle : Database} {fresh : PaymentNotification → Prop}
    (unmarked : Unmarked db middle)
    (kept : ∀ id row, db.notifications.find? id = some row →
      ∃ between, middle.notifications.find? id = some between)
    (moved : Table.Evolves (PaymentNotification.Moves 0) fresh middle.notifications
      result.notifications) : Unmarked db result := by
  intro id row later present found processed
  obtain ⟨between, stored⟩ := kept id row present
  obtain ⟨same, last, move⟩ := moved.kept stored
  cases found.symm.trans last
  have positive : 0 < between.id := (middle.notifications.issued between (Table.mem_of_find? stored)).1
  refine unmarked id row between present stored ?_
  rw [← move.others (ne_of_gt positive)]
  exact processed

private theorem unmarked_of_moves {fresh : PaymentNotification → Prop}
    (moved : Table.Evolves (PaymentNotification.Moves 0) fresh db.notifications
      result.notifications) : Unmarked db result :=
  (Unmarked.refl db).then (fun _ row present => ⟨row, present⟩) moved

private theorem updateNotification_unmarked {id : Int} {guard : PaymentNotification → Bool}
    {change : PaymentNotification → PaymentNotification} {changed : PaymentNotification}
    (updated : db.updateNotification id guard change = some (changed, result))
    (open' : ∀ row, (change row).status = .processed → row.status = .processed) :
    Unmarked db result := by
  obtain ⟨old, present, _, _, rfl⟩ := Database.updateNotification_eq_some.mp updated
  intro other row later before after processed
  change (db.notifications.update id change).find? other = some later at after
  by_cases here : other = id
  · subst here
    rw [Table.find?_update_self, before] at after
    cases after
    exact open' row processed
  · rw [Table.find?_update_of_ne _ _ here, before] at after
    cases after
    exact processed

private theorem markPaymentNotificationFailed_unmarked {id : Int} {lastError : String}
    (done : markPaymentNotificationFailed id lastError db = .ok result) : Unmarked db result := by
  unfold markPaymentNotificationFailed at done
  split at done
  · cases done
    exact .refl db
  · split at done
    · next marked =>
        cases done
        refine updateNotification_unmarked marked ?_
        intro row processed
        cases processed
    · obtain ⟨_, _, done⟩ := bind_eq_ok.mp done
      cases pure_eq_ok.mp done
      exact .refl db

private theorem recordPaymentNotificationError_unmarked (id : Int) (lastError : String)
    (db : Database) :
    Unmarked db (recordPaymentNotificationError id lastError db) := by
  unfold recordPaymentNotificationError
  split
  · exact .refl db
  · split
    · next recorded => exact updateNotification_unmarked recorded (fun _ processed => processed)
    · exact .refl db

private theorem handleError_unmarked {jobID attempt : Int} {lastError : String}
    {args : CheckPayArgs}
    (done : handleError jobID attempt lastError (.checkPay args) db = .ok result) :
    Unmarked db result := by
  unfold handleError at done
  dsimp only at done
  split at done
  · cases done
    exact .refl db
  · obtain ⟨marked, mark, queue⟩ := handleExhausted_marked done
    refine (markPaymentNotificationFailed_unmarked mark).then ?_
      ((queue Scope.plain).works rfl).notifications
    intro id row present
    obtain ⟨between, stored, _⟩ := (markPaymentNotificationFailed_works mark).notifications.kept present
    exact ⟨between, stored⟩

/-- A stage either marks nothing or commits the handling of its notification. -/
theorem CheckStage.step_marks {stage : CheckStage}
    (flags : ∀ failure, stage = .flag failure → failure.paymentID = args.paymentID) :
    Unmarked db (stage.step moment args db).2 ∨
      stage.Handles moment args db (stage.step moment args db).2 := by
  cases stage with
  | load =>
      left
      rw [CheckStage.step]
      split
      · exact .refl db
      · split <;> exact .refl db
  | inspect outTradeNo =>
      left
      rw [CheckStage.step]
      split
      · exact .refl db
      · split <;> exact .refl db
  | takeUp =>
      left
      have written : Unmarked db (moment.connection.write
          ((found (db.beginPaymentNotificationProcessing args.notificationID)
            Fault.noRows).map Prod.snd) db).2 := by
        refine moment.connection.write_induction (.refl db) ?_
        intro result begun
        obtain ⟨⟨_, _⟩, update, rfl⟩ := map_eq_ok.mp begun
        refine updateNotification_unmarked (found_eq_ok.mp update) ?_
        intro row processed
        cases processed
      rw [CheckStage.step]
      split <;> exact written
  | query => exact .inl (.refl db)
  | apply answer =>
      rcases moment.connection.write_cases (applyPayQuery moment.clock args (some answer) db) db with
        same | done
      · left
        change Unmarked db (moment.connection.write _ db).2
        rw [same]
        exact .refl db
      · exact .inr (.answer answer done)
  | flag failure =>
      rcases moment.connection.write_cases (markReconciliationRequired failure db) db with
        same | done
      · left
        change Unmarked db (moment.connection.write _ db).2
        rw [same]
        exact .refl db
      · exact .inr (.review failure (flags failure rfl) done)
  | handOver polls =>
      rcases moment.connection.write_cases (markPayClosePending { args with pollCount := polls } db)
        db with same | done
      · left
        change Unmarked db (moment.connection.write _ db).2
        rw [same]
        exact .refl db
      · exact .inr (.close polls done)
  | note cause =>
      left
      refine moment.connection.write_induction (.refl db) ?_
      intro result done
      cases done
      exact recordPaymentNotificationError_unmarked _ _ db
  | cancel cause =>
      exact .inl (moment.connection.write_induction (.refl db)
        (fun _ => markPaymentNotificationFailed_unmarked))
  | failed cause => exact .inl (.refl db)
  | finished => exact .inl (.refl db)

/-- The event is a stage of a run whose job carries the notification, and it commits
the handling of that notification for the payment that both are about. -/
def CallbackWorld.Handles (world : CallbackWorld) (policy : PaymentPolicy) (event : CallbackEvent)
    (id : Int) (row : PaymentNotification) : Prop :=
  ∃ job moment args stage payment, event = .advance job moment ∧
    world.db.openCheck job = some args ∧ args.notificationID = id ∧
    world.runs job = some stage ∧
    stage.Handles moment (normalizeCheckPayArgs args) world.db (world.next policy event).db ∧
    (normalizeCheckPayArgs args).Bound world.db row payment

/-- What becomes of a row, and what made it processed if it was not before. -/
structure RowKept (row later : PaymentNotification) (handled : Prop) : Prop where
  same : row.SameSource later
  final : row.status = .processed → later.status = .processed
  marked : later.status = .processed → row.status = .processed ∨ handled

private theorem RowKept.refl (row : PaymentNotification) {handled : Prop} :
    RowKept row row handled :=
  ⟨.refl row, fun processed => processed, .inl⟩

private theorem RowKept.of_unmarked {notification id : Int} {row : PaymentNotification}
    {handled : Prop} {fresh : PaymentNotification → Prop}
    (moved : Table.Evolves (PaymentNotification.Moves notification) fresh db.notifications
      result.notifications)
    (unmarked : Unmarked db result) (present : db.notifications.find? id = some row) :
    ∃ later, result.notifications.find? id = some later ∧ RowKept row later handled := by
  obtain ⟨later, found, move⟩ := moved.kept present
  exact ⟨later, found, move.same, move.processed,
    fun processed => .inl (unmarked id row later present found processed)⟩

private theorem CheckStage.Handles.bound {stage : CheckStage}
    (handles : stage.Handles moment args db result) (knows : stage.Knows args db) :
    ∃ row payment, args.Bound db row payment := by
  cases handles with
  | answer answer done => exact knows
  | review failure about done => exact knows.2
  | close polls done => exact knows

private theorem CallbackWorld.Sound.advance_row (sound : world.Sound) (policy : PaymentPolicy)
    {job id : Int}
    {row : PaymentNotification} (present : world.db.notifications.find? id = some row) :
    ∃ later, (world.advance job moment).db.notifications.find? id = some later ∧
      RowKept row later (world.Handles policy (.advance job moment) id row) := by
  have still : ∃ later, world.db.notifications.find? id = some later ∧
      RowKept row later (world.Handles policy (.advance job moment) id row) :=
    ⟨row, present, .refl row⟩
  cases carried : world.db.openCheck job with
  | none =>
      unfold CallbackWorld.advance
      rw [carried]
      exact still
  | some args =>
      cases running : world.runs job with
      | none =>
          unfold CallbackWorld.advance
          rw [carried, running]
          exact still
      | some stage =>
          obtain ⟨same, known, holds⟩ := sound.runs running
          obtain rfl : args = same := Option.some.inj (carried.symm.trans known)
          have stepped : (world.advance job moment).db =
              (stage.step moment (normalizeCheckPayArgs args) world.db).2 := by
            unfold CallbackWorld.advance
            rw [carried, running]
            rfl
          obtain ⟨_, works⟩ := CheckStage.step_commits moment world.db holds.names
          rw [stepped]
          by_cases about : id = args.notificationID
          · have named : 0 < (normalizeCheckPayArgs args).notificationID := by
              rw [normalizeCheckPayArgs_notificationID, ← about, ← Table.key_of_find? present]
              exact (world.db.notifications.issued row (Table.mem_of_find? present)).1
            have knows := holds.knows named
            rcases @CheckStage.step_marks world.db (normalizeCheckPayArgs args) moment stage
                (by rintro failure rfl; exact knows.1) with unmarked | handles
            · exact RowKept.of_unmarked works.notifications unmarked present
            · obtain ⟨later, found, move⟩ := works.notifications.kept present
              refine ⟨later, found, move.same, move.processed, fun _ => .inr ?_⟩
              obtain ⟨bounded, payment, bound⟩ := handles.bound knows
              have found := bound.notified
              rw [normalizeCheckPayArgs_notificationID, ← about, present] at found
              obtain rfl : row = bounded := Option.some.inj found
              exact ⟨job, moment, args, stage, payment, rfl, carried, about.symm, running,
                stepped ▸ handles, bound⟩
          · obtain ⟨later, found, move⟩ := works.notifications.kept present
            refine ⟨later, found, move.same, move.processed, fun processed => .inl ?_⟩
            rw [← move.others]
            · exact processed
            · rw [normalizeCheckPayArgs_notificationID,
                show row.id = id from Table.key_of_find? present]
              exact about

private theorem CallbackWorld.Sound.next_row (sound : world.Sound) (policy : PaymentPolicy)
    (event : CallbackEvent) {id : Int} {row : PaymentNotification}
    (present : world.db.notifications.find? id = some row) :
    ∃ later, (world.next policy event).db.notifications.find? id = some later ∧
      RowKept row later (world.Handles policy event id row) := by
  have still : ∃ later, world.db.notifications.find? id = some later ∧
      RowKept row later (world.Handles policy event id row) :=
    ⟨row, present, .refl row⟩
  cases event with
  | operation operation aside =>
      have works : Works 0 world.db (Mall.next operation world.db) := next_works aside world.db
      exact RowKept.of_unmarked works.notifications (unmarked_of_moves works.notifications) present
  | finishOther job =>
      rw [CallbackWorld.next, CallbackWorld.finishOther]
      split <;> exact still
  | deliver notification =>
      rw [CallbackWorld.next, CallbackWorld.deliver]
      split
      · exact still
      · split <;> exact still
  | proceed index =>
      rw [CallbackWorld.next, CallbackWorld.proceed]
      split
      · exact still
      · next stage found =>
          rcases DeliveryStage.step_cases (sound.deliveries stage (List.mem_of_getElem? found)) with
            quiet | ⟨blank, args, adds⟩
          · exact RowKept.of_unmarked quiet.moved (unmarked_of_moves quiet.moved) present
          · dsimp only
            rw [adds.stored]
            have inserted : Table.Evolves (PaymentNotification.Moves 0) (fun _ => True)
                world.db.notifications (world.db.notifications.insert blank) :=
              .insert PaymentNotification.Moves.refl trivial
            have moved := inserted.trans (queueNotificationCheck_moved 0 args
              { world.db with notifications := world.db.notifications.insert blank })
              PaymentNotification.Moves.trans (fun _ _ => trivial) False.elim
            exact RowKept.of_unmarked moved (unmarked_of_moves moved) present
  | abandon index => exact still
  | start job =>
      rw [CallbackWorld.next, CallbackWorld.start]
      split <;> exact still
  | advance job moment => exact sound.advance_row policy present
  | stop job => exact still
  | exhaust job attempt lastError =>
      rw [CallbackWorld.next, CallbackWorld.exhaust]
      split
      · split
        · next handled done =>
            have touched := execute_footprint (.handleError job attempt lastError (.checkPay _)) done
            exact RowKept.of_unmarked (touched.works rfl).notifications (handleError_unmarked done)
              present
        · exact still
      · exact still
  | finish job =>
      rw [CallbackWorld.next, CallbackWorld.finish]
      split <;> exact still

/-! ### The guarantee -/

/-- In every reached state each notification is processed, failed or carried by an
unfinished check; whatever happens next, it stays, processed is final, and only the
commit of its own check processes it; and every event has one row at most. -/
theorem callbacks_never_lost (policy : PaymentPolicy) (reached : world.Reached policy) :
    (∀ id row, world.db.notifications.find? id = some row →
      row.status = .processed ∨ row.status = .failed ∨
        ∃ job args, world.db.openCheck job = some args ∧ args.notificationID = id) ∧
    (∀ event id row, world.db.notifications.find? id = some row →
      ∃ later, (world.next policy event).db.notifications.find? id = some later ∧
        RowKept row later (world.Handles policy event id row)) ∧
    world.db.DistinctEvents := by
  have sound := reached.sound
  refine ⟨?_, fun event id row present => sound.next_row policy event present, sound.distinct⟩
  intro id row present
  rcases sound.covered present with (processed | failed) | ⟨job, args, carried, same, _⟩
  · exact .inl processed
  · exact .inr (.inl failed)
  · exact .inr (.inr ⟨job, args, carried, same⟩)

/-! ### A callback that is handled -/

def teaCallback : VerifiedNotification :=
  { input :=
      { provider := "alipay"
        providerEventID := "EVENT1"
        outTradeNo := "PAY1"
        payloadHash := "HASH1" }
    amount := 200
    currency := "CNY" }

def successMoment : CheckMoment :=
  { clock := { database := 2, process := 2 }
    connection := .up
    query := .ok (some (teaAnswer "PAY1" "TX1" .success 200))
    recorded := .ok ()
    polls := 0
    expiry := .ok none
    errorText := fun _ => "" }

def quietWorld : CallbackWorld :=
  { db := smallShop
    deliveries := []
    runs := fun _ => none }

/-- The order's own job is the first in the queue, the callback's check the second. -/
def callbackHistory : List CallbackEvent :=
  [.operation (orderTea "ORD1" "order-key-1" 2) rfl, .operation (openTeaPayment "PAY1" 1 200) rfl,
    .deliver teaCallback, .proceed 0, .start 2, .advance 2 successMoment, .advance 2 successMoment,
    .advance 2 successMoment, .advance 2 successMoment]

def answeredWorld : CallbackWorld :=
  run (CallbackWorld.next defaultPolicy) quietWorld callbackHistory

private theorem answeredWorld_reached : answeredWorld.Reached defaultPolicy :=
  ⟨quietWorld, callbackHistory, ⟨smallShop_initial, rfl, fun _ => rfl⟩, rfl⟩

private theorem answeredWorld_processing :
    (answeredWorld.db.notifications.find? 1).map (fun row => row.status) = some .processing := by
  decide +kernel

private theorem answeredWorld_processed :
    ((answeredWorld.next defaultPolicy (.advance 2 successMoment)).db.notifications.find? 1).map
      (fun row => row.status) = some .processed := by
  decide +kernel

theorem callbacks_never_lost_teaCallback :
    ∃ row, answeredWorld.db.notifications.find? 1 = some row ∧ row.status = .processing ∧
      (∃ job args, answeredWorld.db.openCheck job = some args ∧ args.notificationID = 1) ∧
      answeredWorld.Handles defaultPolicy (.advance 2 successMoment) 1 row := by
  obtain ⟨row, present, processing⟩ := Option.map_eq_some_iff.mp answeredWorld_processing
  obtain ⟨later, found, processed⟩ := Option.map_eq_some_iff.mp answeredWorld_processed
  obtain ⟨covered, kept, _⟩ := callbacks_never_lost defaultPolicy answeredWorld_reached
  refine ⟨row, present, processing, ?_, ?_⟩
  · rcases covered 1 row present with concluded | concluded | carried
    · rw [processing] at concluded
      cases concluded
    · rw [processing] at concluded
      cases concluded
    · exact carried
  · obtain ⟨same, stored, row'⟩ := kept (.advance 2 successMoment) 1 row present
    obtain rfl : later = same := Option.some.inj (found.symm.trans stored)
    rcases row'.marked processed with concluded | handled
    · rw [processing] at concluded
      cases concluded
    · exact handled

end Mall
