/-
What holds in every state of the callback world.

A notification that is neither processed nor failed is carried by an unfinished job
whose run has not come to its end.  A run comes to its end only after its
notification was processed or failed, and only a run that has not come to its end
takes a failed notification up again.
-/

import Mall.Refinement.Footprints

namespace Mall

open Relational Transactional

variable {db result : Database} {args : CheckPayArgs} {notification : Int}

/-! ### What a committed step keeps -/

structure Database.Keeps (db result : Database) : Prop where
  payments : ∀ {id payment}, db.payments.find? id = some payment →
    ∃ later, result.payments.find? id = some later ∧ payment.SameDeal later
  notifications : ∀ {id row}, db.notifications.find? id = some row →
    ∃ later, result.notifications.find? id = some later ∧ row.SameSource later

/-- One transaction, one statement on a notification, or nothing at all. -/
inductive Database.Commits (db : Database) : Database → Prop
  | nothing : db.Commits db
  | operation (operation : Operation) {result : Database}
      (done : execute operation db = .ok result) : db.Commits result
  | clerical {result : Database} (clerical : Clerical db result) : db.Commits result

theorem Database.Commits.valid (commits : db.Commits result) (valid : db.Valid) :
    result.Valid := by
  cases commits with
  | nothing => exact valid
  | operation operation done =>
      have refines := execute_refines operation valid.tidy valid.sound done
      exact ⟨refines.tidy, refines.commits.sound valid.sound⟩
  | clerical clerical =>
      have books := clerical.books
      exact ⟨books.tidy valid.tidy, books.ledger ▸ valid.sound⟩

theorem Database.Commits.payments (commits : db.Commits result) (valid : db.Valid) {id : Int}
    {payment : Payment} (present : db.payments.find? id = some payment) :
    ∃ later, result.payments.find? id = some later ∧ payment.SameDeal later := by
  cases commits with
  | nothing => exact ⟨payment, present, .refl payment⟩
  | operation operation done =>
      have committed : next operation db = result := by rw [next, commit, done]
      obtain ⟨later, found, carried⟩ := (next_carried operation valid.sound).payments.kept present
      rw [committed] at found
      exact ⟨later, found, carried.deal⟩
  | clerical clerical =>
      cases clerical
      exact ⟨payment, present, .refl payment⟩

/-! ### Jobs that carry a notification -/

theorem Database.openCheck_eq_some {id : Int} :
    db.openCheck id = some args ↔
      ∃ job, db.jobs.find? id = some job ∧ job.finalized = false ∧ job.args = .checkPay args := by
  unfold Database.openCheck
  cases present : db.jobs.find? id with
  | none => simp
  | some job =>
      cases done : job.finalized with
      | true => simp [done]
      | false => cases kind : job.args <;> simp [done, kind]

/-- A check that a callback asked for: its version is never out of date, it names a
payment, and its notification is stored. -/
structure CheckPayArgs.Calls (args : CheckPayArgs) (db : Database) : Prop where
  version : args.reconciliationVersion = 0
  payment : 0 < args.paymentID
  stored : ∃ row, db.notifications.find? args.notificationID = some row

theorem normalizeCheckPayArgs_notificationID (args : CheckPayArgs) :
    (normalizeCheckPayArgs args).notificationID = args.notificationID := by
  unfold normalizeCheckPayArgs
  rfl

private theorem normalizeCheckPayArgs_reconciliationVersion (args : CheckPayArgs) :
    (normalizeCheckPayArgs args).reconciliationVersion = args.reconciliationVersion := by
  unfold normalizeCheckPayArgs
  rfl

private theorem normalizeCheckPayArgs_paymentID (args : CheckPayArgs) :
    (normalizeCheckPayArgs args).paymentID = args.paymentID := by
  unfold normalizeCheckPayArgs
  rfl

theorem CheckPayArgs.Calls.normalize (calls : args.Calls db) :
    (normalizeCheckPayArgs args).Calls db := by
  refine ⟨?_, ?_, ?_⟩
  · rw [normalizeCheckPayArgs_reconciliationVersion]
    exact calls.version
  · rw [normalizeCheckPayArgs_paymentID]
    exact calls.payment
  · rw [normalizeCheckPayArgs_notificationID]
    exact calls.stored

theorem CheckPayArgs.Calls.kept (calls : args.Calls db) (keeps : db.Keeps result) :
    args.Calls result := by
  obtain ⟨row, present⟩ := calls.stored
  obtain ⟨later, found, _⟩ := keeps.notifications present
  exact ⟨calls.version, calls.payment, later, found⟩

/-! ### Stages -/

def CheckPayArgs.Pays (args : CheckPayArgs) (payment : Payment) : Prop :=
  ∃ method, parsePaymentMethod payment.payChannel = some method ∧ method.provider = args.provider

structure CheckPayArgs.Bound (args : CheckPayArgs) (db : Database) (row : PaymentNotification)
    (payment : Payment) : Prop where
  notified : db.notifications.find? args.notificationID = some row
  paid : db.payments.find? args.paymentID = some payment
  pays : args.Pays payment
  provider : row.provider = args.provider
  trade : row.outTradeNo = payment.outTradeNo

theorem CheckPayArgs.Bound.kept {row : PaymentNotification} {payment : Payment}
    (bound : args.Bound db row payment) (keeps : db.Keeps result) :
    ∃ row payment, args.Bound result row payment := by
  obtain ⟨later, found, same⟩ := keeps.notifications bound.notified
  obtain ⟨paid, stored, deal⟩ := keeps.payments bound.paid
  obtain ⟨method, channel, provider⟩ := bound.pays
  refine ⟨later, paid, found, stored, ⟨method, ?_, provider⟩, same.provider.trans bound.provider, ?_⟩
  · rw [deal.payChannel]
    exact channel
  · rw [same.outTradeNo, deal.outTradeNo]
    exact bound.trade

/-- What a run knows at its stage, if its job carries a notification. -/
def CheckStage.Knows (args : CheckPayArgs) (db : Database) : CheckStage → Prop
  | .inspect outTradeNo => ∃ payment, db.payments.find? args.paymentID = some payment ∧
      args.Pays payment ∧ payment.outTradeNo = outTradeNo
  | .takeUp | .query | .apply _ | .handOver _ => ∃ row payment, args.Bound db row payment
  | .flag failure => failure.paymentID = args.paymentID ∧
      ∃ row payment, args.Bound db row payment
  | .load | .note _ | .cancel _ | .failed _ | .finished => True

theorem CheckStage.Knows.kept {stage : CheckStage} (knows : stage.Knows args db)
    (keeps : db.Keeps result) : stage.Knows args result := by
  cases stage with
  | inspect outTradeNo =>
      obtain ⟨payment, present, ⟨method, channel, provider⟩, trade⟩ := knows
      obtain ⟨later, found, deal⟩ := keeps.payments present
      exact ⟨later, found, ⟨method, deal.payChannel ▸ channel, provider⟩, deal.outTradeNo.trans trade⟩
  | takeUp | query | apply _ | handOver _ =>
      obtain ⟨row, payment, bound⟩ := knows
      exact bound.kept keeps
  | flag failure =>
      obtain ⟨about, row, payment, bound⟩ := knows
      exact ⟨about, bound.kept keeps⟩
  | load | note _ | cancel _ | failed _ | finished => trivial

def CheckStage.Names (args : CheckPayArgs) : CheckStage → Prop
  | .flag failure => failure.notificationID = args.notificationID
  | _ => True

structure CheckStage.Holds (stage : CheckStage) (args : CheckPayArgs) (db : Database) : Prop where
  names : stage.Names args
  knows : 0 < args.notificationID → stage.Knows args db

theorem CheckStage.Holds.kept {stage : CheckStage} (holds : stage.Holds args db)
    (keeps : db.Keeps result) : stage.Holds args result :=
  ⟨holds.names, fun named => (holds.knows named).kept keeps⟩

/-! ### One stage of a check -/

variable {moment : CheckMoment}

private theorem handleError_ended {jobID attempt : Int} {lastError : String}
    (payment : 0 < args.paymentID) (named : 0 < args.notificationID)
    (done : handleError jobID attempt lastError (.checkPay args) db = .ok result) :
    result.Ended args.notificationID := by
  unfold handleError at done
  dsimp only at done
  rw [if_neg (not_le.mpr payment)] at done
  obtain ⟨marked, mark, flagging⟩ := handleExhausted_marked done
  exact ((flagging Scope.plain).works rfl).ended (markPaymentNotificationFailed_ended named mark)

theorem Connection.read_eq_ok {α : Type} {connection : Connection} {answer : Except Fault α}
    {value : α} (read : connection.read answer = .ok value) : answer = .ok value := by
  cases connection with
  | up => exact read
  | down fault => cases read
  | cut fault => cases read

theorem Connection.write_cases (connection : Connection) (body : Except Fault Database)
    (db : Database) :
    (connection.write body db).2 = db ∨ body = .ok (connection.write body db).2 := by
  cases connection <;> cases body <;> simp [Connection.write]

theorem Connection.write_heard {connection : Connection} {body : Except Fault Database}
    {answer : Unit} (heard : (connection.write body db).1 = .ok answer) :
    body = .ok (connection.write body db).2 := by
  cases connection <;> cases body <;> simp_all [Connection.write]

theorem Connection.write_induction {motive : Database → Prop} (connection : Connection)
    {body : Except Fault Database} (before : motive db)
    (after : ∀ result, body = .ok result → motive result) :
    motive (connection.write body db).2 := by
  rcases connection.write_cases body db with same | done
  · rw [same]
    exact before
  · exact after _ done

theorem Connection.write_operation (connection : Connection) (operation : Operation)
    (aside : operation.scope.delivers = false) :
    db.Commits (connection.write (execute operation db) db).2 ∧
      Works operation.scope.notification db (connection.write (execute operation db) db).2 :=
  connection.write_induction (motive := fun result =>
      db.Commits result ∧ Works operation.scope.notification db result) ⟨.nothing, .refl db⟩
    (fun _ done => ⟨.operation operation done, (execute_footprint operation done).works aside⟩)

theorem CheckStage.step_commits {stage : CheckStage} (moment : CheckMoment) (db : Database)
    (names : stage.Names args) :
    db.Commits (stage.step moment args db).2 ∧
      Works args.notificationID db (stage.step moment args db).2 := by
  have idle : db.Commits db ∧ Works args.notificationID db db := ⟨.nothing, .refl db⟩
  cases stage with
  | load =>
      rw [CheckStage.step]
      split
      · exact idle
      · split <;> exact idle
  | inspect outTradeNo =>
      rw [CheckStage.step]
      split
      · exact idle
      · split <;> exact idle
  | takeUp =>
      have written : let result := (moment.connection.write
          ((found (db.beginPaymentNotificationProcessing args.notificationID)
            Fault.noRows).map Prod.snd) db).2
          db.Commits result ∧ Works args.notificationID db result := by
        refine moment.connection.write_induction (motive := fun result =>
          db.Commits result ∧ Works args.notificationID db result) idle ?_
        intro result begun
        obtain ⟨⟨_, _⟩, update, rfl⟩ := map_eq_ok.mp begun
        exact ⟨.clerical (updateNotification_clerical (found_eq_ok.mp update)),
          beginPaymentNotificationProcessing_works (found_eq_ok.mp update)⟩
      rw [CheckStage.step]
      split <;> exact written
  | query | failed _ | finished => exact idle
  | apply answer =>
      exact moment.connection.write_operation (.applyPayQuery moment.clock args (some answer)) rfl
  | flag failure =>
      have written := @Connection.write_operation db moment.connection
        (.markReconciliationRequired failure) rfl
      change db.Commits _ ∧ Works failure.notificationID db _ at written
      rwa [names] at written
  | handOver polls =>
      exact moment.connection.write_operation
        (.markPayClosePending { args with pollCount := polls }) rfl
  | note cause =>
      exact moment.connection.write_operation
        (.recordPaymentNotificationError args.notificationID (moment.errorText cause)) rfl
  | cancel cause =>
      exact moment.connection.write_operation
        (.markPaymentNotificationFailed args.notificationID (moment.errorText cause)) rfl

private theorem checkHeard_finished {heard : Except Fault Unit} {otherwise : Fault → CheckStage}
    (never : ∀ fault, otherwise fault ≠ .finished)
    (finished : checkHeard heard otherwise = .finished) : ∃ answer, heard = .ok answer := by
  cases heard with
  | ok answer => exact ⟨answer, rfl⟩
  | error fault => exact absurd finished (never fault)

private theorem checkLoaded_ne_finished {payment : Payment}
    (version : args.reconciliationVersion = 0) :
    checkLoaded args payment ≠ .finished := by
  unfold checkLoaded
  rw [version]
  split
  · next stale => cases stale
  · split
    · nofun
    · split <;> nofun

private theorem checkQueried_ne_finished : checkQueried moment args ≠ some .finished := by
  unfold checkQueried
  repeat' split
  all_goals nofun

theorem CheckStage.step_ended {stage : CheckStage} (named : 0 < args.notificationID)
    (version : args.reconciliationVersion = 0) (names : stage.Names args)
    (unfinished : stage ≠ .finished)
    (finished : (stage.step moment args db).1 = some .finished) :
    (stage.step moment args db).2.Ended args.notificationID := by
  cases stage with
  | load =>
      rw [CheckStage.step] at finished
      split at finished
      · cases finished
      · split at finished
        · cases finished
        · exact absurd (Option.some.inj finished) (checkLoaded_ne_finished version)
  | inspect outTradeNo =>
      rw [CheckStage.step, if_neg (not_le.mpr named)] at finished ⊢
      split at finished
      · cases finished
      · next notification read =>
          have processed : notification.status = .processed := by
            have inspected := Option.some.inj finished
            unfold checkInspected at inspected
            split at inspected
            · cases inspected
            · split at inspected
              · next processed => exact processed
              · cases inspected
          exact ⟨notification, found_eq_ok.mp (Connection.read_eq_ok read), .inl processed⟩
  | takeUp =>
      rw [CheckStage.step] at finished
      split at finished <;> cases finished
  | query => exact absurd finished checkQueried_ne_finished
  | apply answer =>
      obtain ⟨_, heard⟩ := checkHeard_finished (by
        intro fault
        unfold checkRefused
        split <;> nofun) (Option.some.inj finished)
      obtain ⟨_, _, mark⟩ := applyPayQuery_marked (Connection.write_heard heard)
      obtain ⟨row, present, processed⟩ := markNotificationProcessed_processed named mark
      exact ⟨row, present, .inl processed⟩
  | flag failure =>
      obtain ⟨_, heard⟩ := checkHeard_finished (by nofun) (Option.some.inj finished)
      obtain ⟨_, _, mark⟩ := markReconciliationRequired_marked (Connection.write_heard heard)
      rw [names] at mark
      obtain ⟨row, present, processed⟩ := markNotificationProcessed_processed named mark
      exact ⟨row, present, .inl processed⟩
  | handOver polls =>
      obtain ⟨_, heard⟩ := checkHeard_finished (by nofun) (Option.some.inj finished)
      rcases markPayClosePending_cases (Connection.write_heard heard) with ⟨stale, _⟩ | ⟨_, _, mark⟩
      · exact absurd version stale
      · obtain ⟨row, present, processed⟩ := markNotificationProcessed_processed named mark
        exact ⟨row, present, .inl processed⟩
  | note cause => cases finished
  | cancel cause =>
      obtain ⟨_, heard⟩ := checkHeard_finished (by nofun) (Option.some.inj finished)
      exact markPaymentNotificationFailed_ended named (Connection.write_heard heard)
  | failed cause => cases finished
  | finished => exact absurd rfl unfinished

private theorem checkLoaded_holds {payment : Payment}
    (present : db.payments.find? args.paymentID = some payment) :
    (checkLoaded args payment).Holds args db := by
  unfold checkLoaded
  split
  · exact ⟨trivial, fun _ => trivial⟩
  · split
    · exact ⟨trivial, fun _ => trivial⟩
    · next method channel =>
        split
        · exact ⟨trivial, fun _ => trivial⟩
        · next same =>
            exact ⟨trivial, fun _ => ⟨payment, present, ⟨method, channel, not_not.mp same⟩, rfl⟩⟩

private theorem checkInspected_holds {outTradeNo : String} {notification : PaymentNotification}
    (knows : CheckStage.Knows args db (.inspect outTradeNo))
    (present : db.notifications.find? args.notificationID = some notification) :
    (checkInspected args outTradeNo notification).Holds args db := by
  unfold checkInspected
  split
  · exact ⟨trivial, fun _ => trivial⟩
  · next same =>
      obtain ⟨provider, trade⟩ := not_or.mp same
      split
      · exact ⟨trivial, fun _ => trivial⟩
      · obtain ⟨payment, paid, pays, number⟩ := knows
        exact ⟨trivial, fun _ => ⟨notification, payment, present, paid, pays, not_not.mp provider,
          (not_not.mp trade).trans number.symm⟩⟩

private theorem checkQueried_holds {later : CheckStage}
    (knows : 0 < args.notificationID → CheckStage.Knows args db .query)
    (goes : checkQueried moment args = some later) : later.Holds args db := by
  unfold checkQueried at goes
  repeat' split at goes
  all_goals cases goes
  all_goals exact ⟨trivial, fun named => by first | trivial | exact knows named⟩

private theorem checkHeard_holds {heard : Except Fault Unit} {otherwise : Fault → CheckStage}
    (fails : ∀ fault, (otherwise fault).Holds args db) :
    (checkHeard heard otherwise).Holds args db := by
  cases heard with
  | ok answer => exact ⟨trivial, fun _ => trivial⟩
  | error fault => exact fails fault

/-- What the next stage of a run may rely on. -/
theorem CheckStage.step_holds {stage later : CheckStage} (holds : stage.Holds args db)
    (keeps : db.Keeps (stage.step moment args db).2)
    (goes : (stage.step moment args db).1 = some later) :
    later.Holds args (stage.step moment args db).2 := by
  have plain : ∀ {fault}, (CheckStage.note fault).Holds args (stage.step moment args db).2 :=
    ⟨trivial, fun _ => trivial⟩
  cases stage with
  | load =>
      refine CheckStage.Holds.kept ?_ keeps
      rw [CheckStage.step] at goes
      split at goes
      · cases goes
        exact ⟨trivial, fun _ => trivial⟩
      · split at goes
        · cases goes
          exact ⟨trivial, fun _ => trivial⟩
        · next payment read =>
            cases goes
            exact checkLoaded_holds (found_eq_ok.mp (Connection.read_eq_ok read))
  | inspect outTradeNo =>
      refine CheckStage.Holds.kept ?_ keeps
      rw [CheckStage.step] at goes
      split at goes
      · next unnamed =>
          cases goes
          exact ⟨trivial, fun named => absurd named (not_lt.mpr unnamed)⟩
      · next named =>
          split at goes
          · cases goes
            exact ⟨trivial, fun _ => trivial⟩
          · next notification read =>
              cases goes
              exact checkInspected_holds (holds.knows (not_le.mp named))
                (found_eq_ok.mp (Connection.read_eq_ok read))
  | takeUp =>
      rw [CheckStage.step] at goes
      split at goes
      · cases goes
        exact ⟨trivial, fun named => (holds.knows named).kept keeps⟩
      · cases goes
        exact ⟨trivial, fun _ => trivial⟩
  | query => exact checkQueried_holds holds.knows goes
  | apply answer =>
      cases goes
      refine checkHeard_holds ?_
      intro fault
      unfold checkRefused
      split
      · exact ⟨rfl, fun named => ⟨rfl, (holds.knows named).kept keeps⟩⟩
      · exact plain
  | flag failure =>
      cases goes
      exact checkHeard_holds (fun _ => plain)
  | handOver polls =>
      cases goes
      exact checkHeard_holds (fun _ => plain)
  | note cause =>
      cases goes
      exact ⟨trivial, fun _ => trivial⟩
  | cancel cause =>
      cases goes
      exact checkHeard_holds (fun _ => ⟨trivial, fun _ => trivial⟩)
  | failed cause =>
      cases goes
      exact ⟨trivial, fun _ => trivial⟩
  | finished =>
      cases goes
      exact ⟨trivial, fun _ => trivial⟩

/-! ### The invariant -/

/-- The notifications tell of the same event, by its number or by its payload. -/
def PaymentNotification.SameEvent (left right : PaymentNotification) : Prop :=
  left.provider = right.provider ∧
    (left.providerEventId = right.providerEventId ∧ left.providerEventId.isSome = true ∨
      left.outTradeNo = right.outTradeNo ∧ left.payloadHash = right.payloadHash)

theorem PaymentNotification.SameSource.sameEvent {left right before after : PaymentNotification}
    (first : left.SameSource before) (second : right.SameSource after)
    (same : before.SameEvent after) : left.SameEvent right := by
  unfold PaymentNotification.SameEvent at same ⊢
  rwa [first.provider, first.providerEventId, first.outTradeNo, first.payloadHash, second.provider,
    second.providerEventId, second.outTradeNo, second.payloadHash] at same

def Database.DistinctEvents (db : Database) : Prop :=
  ∀ first second left right, db.notifications.find? first = some left →
    db.notifications.find? second = some right → left.SameEvent right → first = second

/-- An unfinished job whose run has not come to its end carries the notification. -/
def CallbackWorld.Waiting (world : CallbackWorld) (notification : Int) : Prop :=
  ∃ id args, world.db.openCheck id = some args ∧ args.notificationID = notification ∧
    world.runs id ≠ some .finished

def PaymentNotification.concluded (row : PaymentNotification) : Prop :=
  row.status = .processed ∨ row.status = .failed

def DeliveryStage.Ready (db : Database) : DeliveryStage → Prop
  | .flag failure => failure.notificationID ≤ 0
  | .store _ args => args.reconciliationVersion = 0 ∧ 0 < args.paymentID
  | .queue args => args.Calls db

theorem DeliveryStage.Ready.kept {stage : DeliveryStage} (ready : stage.Ready db)
    (keeps : db.Keeps result) : stage.Ready result := by
  cases stage with
  | flag failure => exact ready
  | store input args => exact ready
  | queue args => exact CheckPayArgs.Calls.kept ready keeps

structure CallbackWorld.Sound (world : CallbackWorld) : Prop where
  valid : world.db.Valid
  distinct : world.db.DistinctEvents
  jobs : ∀ {id job args}, world.db.jobs.find? id = some job → job.args = .checkPay args →
    0 < args.notificationID → args.Calls world.db
  deliveries : ∀ stage ∈ world.deliveries, stage.Ready world.db
  runs : ∀ {id stage}, world.runs id = some stage → ∃ args, world.db.openCheck id = some args ∧
    stage.Holds (normalizeCheckPayArgs args) world.db
  covered : ∀ {id row}, world.db.notifications.find? id = some row → row.concluded ∨ world.Waiting id

/-- What a step may do to the notifications and the queue: move one notification, or
add it, and queue jobs in good order. -/
structure Extends (notification : Int) (db result : Database) : Prop where
  notifications : Table.Evolves (PaymentNotification.Moves notification)
    (fun row => row.id = notification) db.notifications result.notifications
  jobs : Table.Evolves (fun job later => later = job)
    (fun job => ∀ {args}, job.args = .checkPay args → 0 < args.notificationID → args.Calls result)
    db.jobs result.jobs

theorem Works.extends (works : Works notification db result) :
    Extends notification db result := by
  refine ⟨works.notifications.mono (fun moved => moved) False.elim, works.jobs.mono
    (fun same => same) ?_⟩
  intro job free args kind named
  rw [kind] at free
  exact absurd named (not_lt.mpr free)

theorem Database.DistinctEvents.moved (distinct : db.DistinctEvents)
    (moved : Table.Evolves (PaymentNotification.Moves notification) (fun _ => False)
      db.notifications result.notifications) :
    result.DistinctEvents := by
  intro first second left right leftFound rightFound same
  rcases moved.origin leftFound with ⟨before, leftStored, leftMoved⟩ | ⟨_, none⟩
  · rcases moved.origin rightFound with ⟨after, rightStored, rightMoved⟩ | ⟨_, none⟩
    · exact distinct _ _ _ _ leftStored rightStored (leftMoved.same.sameEvent rightMoved.same same)
    · exact none.elim
  · exact none.elim

theorem Extends.keeps (grows : Extends notification db result) (commits : db.Commits result)
    (valid : db.Valid) : db.Keeps result := by
  refine ⟨fun present => commits.payments valid present, ?_⟩
  intro id row present
  obtain ⟨later, found, moved⟩ := grows.notifications.kept present
  exact ⟨later, found, moved.same⟩

theorem Extends.openCheck {notification id : Int} (grows : Extends notification db result)
    (carried : db.openCheck id = some args) : result.openCheck id = some args := by
  obtain ⟨job, present, unfinished, kind⟩ := Database.openCheck_eq_some.mp carried
  obtain ⟨_, found, rfl⟩ := grows.jobs.kept present
  exact Database.openCheck_eq_some.mpr ⟨_, found, unfinished, kind⟩

/-- A step that is about one notification keeps the invariant when it says what becomes
of that notification. -/
theorem CallbackWorld.Sound.extend {world later : CallbackWorld} (sound : world.Sound)
    (commits : world.db.Commits later.db) (grows : Extends notification world.db later.db)
    (distinct : later.db.DistinctEvents)
    (deliveries : ∀ stage ∈ later.deliveries, stage.Ready later.db)
    (runs : ∀ {id stage}, later.runs id = some stage → ∃ args, world.db.openCheck id = some args ∧
      stage.Holds (normalizeCheckPayArgs args) later.db)
    (others : ∀ {id args}, world.db.openCheck id = some args →
      args.notificationID ≠ notification → world.runs id ≠ some .finished →
      later.runs id ≠ some .finished)
    (worked : ∀ row, later.db.notifications.find? notification = some row →
      row.concluded ∨ later.Waiting notification) :
    later.Sound := by
  have keeps := grows.keeps commits sound.valid
  refine ⟨commits.valid sound.valid, distinct, ?_, deliveries, ?_, ?_⟩
  · intro id job args present kind named
    rcases grows.jobs.origin present with ⟨_, stored, rfl⟩ | ⟨_, added⟩
    · exact (sound.jobs stored kind named).kept keeps
    · exact added kind named
  · intro id stage running
    obtain ⟨args, carried, holds⟩ := runs running
    exact ⟨args, grows.openCheck carried, holds⟩
  · intro id row present
    by_cases about : id = notification
    · subst about
      exact worked row present
    · rcases grows.notifications.origin present with ⟨before, stored, moved⟩ | ⟨_, added⟩
      · have unmoved : row.status = before.status := by
          apply moved.others
          rw [show before.id = id from Table.key_of_find? stored]
          exact about
        rcases sound.covered stored with concluded | ⟨job, args, carried, same, unfinished⟩
        · left
          unfold PaymentNotification.concluded at concluded ⊢
          rwa [unmoved]
        · right
          exact ⟨job, args, grows.openCheck carried, same,
            others carried (fun other => about (same.symm.trans other)) unfinished⟩
      · rw [show row.id = id from Table.key_of_find? present] at added
        exact absurd added about

/-! ### Steps -/

variable {world : CallbackWorld}

private theorem next_commits (operation : Operation) (db : Database) :
    db.Commits (next operation db) := by
  rcases commit_cases (execute operation) db with same | done
  · rw [next, same]
    exact .nothing
  · exact .operation operation done

theorem Database.find?_notification_zero (db : Database) : db.notifications.find? 0 = none := by
  cases present : db.notifications.find? 0 with
  | none => rfl
  | some row =>
      have positive := (db.notifications.issued row (Table.mem_of_find? present)).1
      rw [Table.key_of_find? present] at positive
      exact absurd positive (by decide)

theorem CallbackWorld.Sound.besides {deliveries : List DeliveryStage} (sound : world.Sound)
    (commits : world.db.Commits result) (grows : Extends 0 world.db result)
    (distinct : result.DistinctEvents)
    (ready : ∀ stage ∈ deliveries, stage.Ready world.db) :
    CallbackWorld.Sound { world with db := result, deliveries := deliveries } := by
  have keeps := grows.keeps commits sound.valid
  refine sound.extend commits grows distinct (fun stage member => (ready stage member).kept keeps)
    ?_ (fun _ _ unfinished => unfinished) ?_
  · intro id stage running
    obtain ⟨args, carried, holds⟩ := sound.runs running
    exact ⟨args, carried, holds.kept keeps⟩
  · intro row present
    rw [Database.find?_notification_zero] at present
    cases present

theorem CallbackWorld.Sound.settle {id : Int} {stage : Option CheckStage} (sound : world.Sound)
    (carried : world.db.openCheck id = some args) (commits : world.db.Commits result)
    (works : Works args.notificationID world.db result)
    (holds : ∀ later, stage = some later → later.Holds (normalizeCheckPayArgs args) result)
    (ended : stage = some .finished → 0 < args.notificationID →
      result.Ended args.notificationID) :
    CallbackWorld.Sound ({ world with db := result }.setRun id stage) := by
  have grows := works.extends
  have keeps := grows.keeps commits sound.valid
  refine sound.extend commits grows (sound.distinct.moved works.notifications)
    (fun stage member => (sound.deliveries stage member).kept keeps) ?_ ?_ ?_
  · intro other later running
    change Function.update world.runs id stage other = some later at running
    by_cases here : other = id
    · subst here
      rw [Function.update_self] at running
      exact ⟨args, carried, holds later running⟩
    · rw [Function.update_of_ne here] at running
      obtain ⟨foreign, open', held⟩ := sound.runs running
      exact ⟨foreign, open', held.kept keeps⟩
  · intro other foreign known different unfinished
    change Function.update world.runs id stage other ≠ some .finished
    rw [Function.update_of_ne]
    · exact unfinished
    · rintro rfl
      cases known.symm.trans carried
      exact different rfl
  · intro row present
    by_cases finished : stage = some .finished
    · left
      have named : 1 ≤ row.id := (result.notifications.issued row (Table.mem_of_find? present)).1
      have same : row.id = args.notificationID := Table.key_of_find? present
      obtain ⟨last, found, concluded⟩ := ended finished (by omega)
      cases present.symm.trans found
      exact concluded
    · right
      refine ⟨id, args, grows.openCheck carried, rfl, ?_⟩
      change Function.update world.runs id stage id ≠ some .finished
      rw [Function.update_self]
      exact finished

theorem CallbackWorld.Sound.start (sound : world.Sound) (id : Int) : (world.start id).Sound := by
  unfold CallbackWorld.start
  split
  · next carried _ =>
      refine sound.settle carried .nothing (.refl world.db) ?_ nofun
      intro later same
      cases same
      exact ⟨trivial, fun _ => trivial⟩
  · exact sound

theorem CallbackWorld.setRun_self {id : Int} {stage : Option CheckStage}
    (running : world.runs id = stage) : world.setRun id stage = world := by
  subst running
  unfold CallbackWorld.setRun
  rw [Function.update_eq_self]

theorem CallbackWorld.Sound.advance (sound : world.Sound) (id : Int) (moment : CheckMoment) :
    (world.advance id moment).Sound := by
  unfold CallbackWorld.advance
  split
  · next args stage carried running =>
      obtain ⟨same, known, holds⟩ := sound.runs running
      obtain rfl : args = same := Option.some.inj (carried.symm.trans known)
      by_cases concluded : stage = .finished
      · subst concluded
        change CallbackWorld.Sound (world.setRun id (some .finished))
        rw [CallbackWorld.setRun_self running]
        exact sound
      · obtain ⟨commits, works⟩ := CheckStage.step_commits moment world.db holds.names
        have keeps := works.extends.keeps commits sound.valid
        rw [normalizeCheckPayArgs_notificationID] at works
        refine sound.settle carried commits works
          (fun later goes => CheckStage.step_holds holds keeps goes) ?_
        intro finished named
        obtain ⟨job, present, _, kind⟩ := Database.openCheck_eq_some.mp carried
        have calls := sound.jobs present kind named
        rw [← normalizeCheckPayArgs_notificationID] at named ⊢
        exact CheckStage.step_ended named calls.normalize.version holds.names concluded finished
  · exact sound

theorem CallbackWorld.Sound.stop (sound : world.Sound) (id : Int) :
    (world.setRun id none).Sound := by
  cases running : world.runs id with
  | none =>
      rw [CallbackWorld.setRun_self running]
      exact sound
  | some stage =>
      obtain ⟨args, carried, _⟩ := sound.runs running
      refine sound.settle carried .nothing (.refl world.db) ?_ nofun
      intro later same
      cases same

theorem CallbackWorld.Sound.exhaust (sound : world.Sound) (id attempt : Int) (lastError : String) :
    (world.exhaust id attempt lastError).Sound := by
  unfold CallbackWorld.exhaust
  split
  · next args stage carried _ =>
      split
      · next handled done =>
          have works : Works args.notificationID world.db handled :=
            (execute_footprint (.handleError id attempt lastError (.checkPay args)) done).works rfl
          refine sound.settle carried
            (.operation (.handleError id attempt lastError (.checkPay args)) done) works ?_ ?_
          · intro later same
            cases same
            exact ⟨trivial, fun _ => trivial⟩
          · intro _ named
            obtain ⟨job, present, _, kind⟩ := Database.openCheck_eq_some.mp carried
            exact handleError_ended (sound.jobs present kind named).payment named done
      · exact sound
  · exact sound

/-! ### The end of a job -/

private theorem finishJob_openCheck (db : Database) (id other : Int) :
    (next (.finishJob id) db).openCheck other = if other = id then none else db.openCheck other := by
  have finished : next (.finishJob id) db =
      { db with jobs := db.jobs.update id (fun job => { job with finalized := true }) } := rfl
  rw [finished]
  unfold Database.openCheck
  dsimp only
  by_cases here : other = id
  · subst here
    rw [Table.find?_update_self, if_pos rfl]
    cases db.jobs.find? other <;> rfl
  · rw [Table.find?_update_of_ne _ _ here, if_neg here]

theorem CallbackWorld.Sound.close {id : Int} (sound : world.Sound)
    (idle : world.db.openCheck id = none ∨ world.runs id = some .finished) :
    CallbackWorld.Sound ({ world with db := Mall.next (.finishJob id) world.db }.setRun id none) := by
  have commits := next_commits (.finishJob id) world.db
  have keeps : world.db.Keeps (Mall.next (.finishJob id) world.db) :=
    ⟨fun present => commits.payments sound.valid present, fun present => ⟨_, present, .refl _⟩⟩
  refine ⟨commits.valid sound.valid, sound.distinct, ?_,
    fun stage member => (sound.deliveries stage member).kept keeps, ?_, ?_⟩
  · intro other job args present kind named
    have evolves : Table.Evolves (fun job later : Job => later.args = job.args) (fun _ => False)
        world.db.jobs (world.db.jobs.update id (fun job => { job with finalized := true })) := by
      refine .rewrite ?_ ?_
      · intro row
        split <;> rfl
      · intro row
        split <;> rfl
    rcases evolves.origin present with ⟨before, stored, same⟩ | ⟨_, none⟩
    · exact (sound.jobs stored (same ▸ kind) named).kept keeps
    · exact none.elim
  · intro other stage running
    change Function.update world.runs id none other = some stage at running
    by_cases here : other = id
    · subst here
      rw [Function.update_self] at running
      cases running
    · rw [Function.update_of_ne here] at running
      obtain ⟨args, carried, holds⟩ := sound.runs running
      refine ⟨args, ?_, holds.kept keeps⟩
      change (Mall.next (.finishJob id) world.db).openCheck other = some args
      rw [finishJob_openCheck, if_neg here]
      exact carried
  · intro notification row present
    rcases sound.covered present with concluded | ⟨job, args, carried, same, unfinished⟩
    · exact .inl concluded
    · have different : job ≠ id := by
        rintro rfl
        rcases idle with none | finished
        · rw [none] at carried
          cases carried
        · exact unfinished finished
      refine .inr ⟨job, args, ?_, same, ?_⟩
      · change (Mall.next (.finishJob id) world.db).openCheck job = some args
        rw [finishJob_openCheck, if_neg different]
        exact carried
      · change Function.update world.runs id none job ≠ some .finished
        rw [Function.update_of_ne different]
        exact unfinished

theorem CallbackWorld.Sound.finish (sound : world.Sound) (id : Int) : (world.finish id).Sound := by
  unfold CallbackWorld.finish
  split
  · next finished => exact sound.close (.inr finished)
  · exact sound

theorem CallbackWorld.Sound.finishOther (sound : world.Sound) (id : Int) :
    (world.finishOther id).Sound := by
  unfold CallbackWorld.finishOther
  split
  · next free =>
      have unrun : world.runs id = none := by
        cases running : world.runs id with
        | none => rfl
        | some stage =>
            obtain ⟨args, carried, _⟩ := sound.runs running
            rw [free] at carried
            cases carried
      have closed := sound.close (.inl free)
      rwa [CallbackWorld.setRun_self] at closed
      exact unrun
  · exact sound

/-! ### Deliveries -/

private theorem setPaymentNotificationRiverJob_works (db : Database) (id jobId : Int) :
    Works notification db (((db.setPaymentNotificationRiverJob id jobId).map Prod.snd).getD db) := by
  cases updated : db.setPaymentNotificationRiverJob id jobId with
  | none => exact .refl db
  | some pair =>
      obtain ⟨row, present, _, _, same⟩ := Database.updateNotification_eq_some.mp updated
      change Works notification db pair.2
      rw [same]
      exact ⟨.update PaymentNotification.Moves.refl present rfl
        ⟨⟨rfl, rfl, rfl, rfl, rfl⟩, fun processed => processed, fun _ => rfl⟩, .refl (fun _ => rfl)⟩

private theorem queueNotificationCheck_clerical (args : CheckPayArgs) (db : Database) :
    Clerical db (queueNotificationCheck args db) :=
  (enqueue_clerical db (.checkPay args) none).trans (setPaymentNotificationRiverJob_clerical _ _ _)

private theorem enqueue_check (args : CheckPayArgs) (db : Database) :
    Table.Evolves (fun job later => later = job)
        (fun job => job.args = .checkPay args) db.jobs (db.enqueue (.checkPay args) none).2.jobs ∧
      ∃ id same, (db.enqueue (.checkPay args) none).2.openCheck id = some same ∧
        same.notificationID = args.notificationID ∧
        (db.openCheck id = some same ∨ db.jobs.find? id = none) := by
  unfold Database.enqueue
  split
  · next job found =>
      have member : job ∈ db.jobs := List.mem_of_find?_eq_some found
      have present : db.jobs.find? job.id = some job := Table.find?_key member
      have chosen := List.find?_some found
      simp only [Bool.and_eq_true, Bool.not_eq_true', decide_eq_true_eq] at chosen
      obtain ⟨unfinished, key⟩ := chosen
      obtain ⟨same, kind, carried⟩ : ∃ same, job.args = .checkPay same ∧
          same.notificationID = args.notificationID := by
        cases kind : job.args with
        | checkPay same =>
            rw [kind] at key
            simp only [JobArgs.uniqueKey, Prod.mk.injEq] at key
            exact ⟨same, rfl, key.2.2.2.2⟩
        | closePay other =>
            rw [kind] at key
            simp [JobArgs.uniqueKey] at key
        | expireOrder orderID =>
            rw [kind] at key
            simp [JobArgs.uniqueKey] at key
      have opened := Database.openCheck_eq_some.mpr ⟨job, present, unfinished, kind⟩
      exact ⟨.refl (fun _ => rfl), job.id, same, opened, carried, .inl opened⟩
  · refine ⟨.insert (fun _ => rfl) rfl, db.jobs.next, args, ?_, rfl, .inr db.jobs.find?_next⟩
    refine Database.openCheck_eq_some.mpr ⟨db.jobs.inserted
      { id := 0, args := .checkPay args, scheduledAt := none, finalized := false }, ?_, rfl, rfl⟩
    rw [Table.find?_insert]
    exact Function.update_self ..

private theorem queueNotificationCheck_noted (notification : Int) (args : CheckPayArgs)
    (db : Database) :
    Works notification (db.enqueue (.checkPay args) none).2 (queueNotificationCheck args db) :=
  setPaymentNotificationRiverJob_works _ _ _

theorem queueNotificationCheck_moved (notification : Int) (args : CheckPayArgs) (db : Database) :
    Table.Evolves (PaymentNotification.Moves notification) (fun _ => False) db.notifications
      (queueNotificationCheck args db).notifications := by
  obtain ⟨jobs, queued⟩ := db.enqueue_snd (.checkPay args) none
  have moved := (queueNotificationCheck_noted notification args db).notifications
  rwa [queued] at moved

private theorem queueNotificationCheck_extends (calls : args.Calls db) :
    Extends notification db (queueNotificationCheck args db) := by
  have moved := queueNotificationCheck_moved notification args db
  have kept : args.Calls (queueNotificationCheck args db) := by
    obtain ⟨row, present⟩ := calls.stored
    obtain ⟨later, found, _⟩ := moved.kept present
    exact ⟨calls.version, calls.payment, later, found⟩
  refine ⟨moved.mono (fun moved => moved) False.elim, (enqueue_check args db).1.trans
    (queueNotificationCheck_noted notification args db).jobs
    (fun same again => again.trans same) ?_ ?_⟩
  · intro job later kind same other found _
    rw [same, kind] at found
    cases found
    exact kept
  · intro job free other kind named
    rw [kind] at free
    exact absurd named (not_lt.mpr free)

/-- A delivery finds the row of an earlier one, or adds the row of a new event. -/
theorem storeNotification_cases {input : NotificationInput} {duplicate : Bool}
    {row : PaymentNotification} {stored : Database}
    (done : storeNotification input db = .ok (duplicate, row, stored)) :
    (duplicate = true ∧ stored = db ∧ db.notifications.find? row.id = some row) ∨
      ∃ blank, duplicate = false ∧ row = db.notifications.inserted blank ∧
        stored = { db with notifications := db.notifications.insert blank } ∧
        (db.notifications.inserted blank).status = .received ∧
        ∀ other ∈ db.notifications, ¬ other.SameEvent row ∧ ¬ row.SameEvent other := by
  unfold storeNotification at done
  split at done
  · next created =>
      cases done
      right
      unfold Database.createPaymentNotification at created
      split at created
      · cases created
      · next fresh =>
          cases created
          refine ⟨_, rfl, rfl, rfl, rfl, ?_⟩
          simp only [Bool.or_eq_true, not_or, Bool.not_eq_true, Option.isSome_eq_false_iff,
            Option.isNone_iff_eq_none] at fresh
          intro other member
          have noEvent := List.find?_eq_none.mp fresh.1 other member
          have noPayload := List.find?_eq_none.mp fresh.2 other member
          simp only [Bool.and_eq_true, beq_iff_eq] at noEvent noPayload
          refine ⟨?_, ?_⟩
          · rintro ⟨provider, ⟨event, given⟩ | ⟨trade, payload⟩⟩
            · exact noEvent ⟨⟨provider, event⟩, (congrArg Option.isSome event).symm.trans given⟩
            · exact noPayload ⟨⟨provider, trade⟩, payload⟩
          · rintro ⟨provider, ⟨event, given⟩ | ⟨trade, payload⟩⟩
            · exact noEvent ⟨⟨provider.symm, event.symm⟩, given⟩
            · exact noPayload ⟨⟨provider.symm, trade.symm⟩, payload.symm⟩
  · obtain ⟨existing, found, done⟩ := bind_eq_ok.mp done
    cases pure_eq_ok.mp done
    refine .inl ⟨rfl, rfl, Table.find?_key ?_⟩
    have chosen := found_eq_ok.mp found
    unfold getExistingPaymentNotification at chosen
    split at chosen
    · next event =>
        cases chosen
        exact List.mem_of_find?_eq_some event
    · exact List.mem_of_find?_eq_some chosen

private theorem handleNotification_ready {policy : PaymentPolicy}
    {notification : VerifiedNotification}
    {payment : Payment} {stage : DeliveryStage} (positive : 0 < payment.id)
    (done : handleNotification policy notification payment = .ok stage) : stage.Ready db := by
  unfold handleNotification at done
  obtain ⟨method, _, done⟩ := bind_eq_ok.mp done
  obtain ⟨_, _, done⟩ := bind_eq_ok.mp done
  split at done
  · cases pure_eq_ok.mp done
    exact le_refl 0
  · cases pure_eq_ok.mp done
    exact ⟨rfl, positive⟩

theorem CallbackWorld.Sound.deliver (sound : world.Sound) (policy : PaymentPolicy)
    (notification : VerifiedNotification) : (world.deliver policy notification).Sound := by
  unfold CallbackWorld.deliver
  split
  · exact sound
  · next payment found =>
      split
      · exact sound
      · next stage handled =>
          have positive : 1 ≤ payment.id :=
            (world.db.payments.issued payment (List.mem_of_find?_eq_some found)).1
          refine sound.besides .nothing (Works.refl world.db).extends sound.distinct ?_
          intro other member
          rcases List.mem_append.mp member with earlier | new
          · exact sound.deliveries other earlier
          · rw [List.mem_singleton.mp new]
            exact handleNotification_ready (by omega) handled

theorem CallbackWorld.Sound.store {blank : PaymentNotification} {deliveries : List DeliveryStage}
    (sound : world.Sound)
    (fresh : ∀ other ∈ world.db.notifications,
      ¬ other.SameEvent (world.db.notifications.inserted blank) ∧
        ¬ (world.db.notifications.inserted blank).SameEvent other)
    (version : args.reconciliationVersion = 0) (payment : 0 < args.paymentID)
    (about : args.notificationID = world.db.notifications.next)
    (ready : ∀ stage ∈ deliveries, stage.Ready world.db) :
    CallbackWorld.Sound
      { world with
        db := queueNotificationCheck args
          { world.db with notifications := world.db.notifications.insert blank }
        deliveries := deliveries } := by
  let stored : Database := { world.db with notifications := world.db.notifications.insert blank }
  have here : stored.notifications.find? world.db.notifications.next =
      some (world.db.notifications.inserted blank) := by
    change (world.db.notifications.insert blank).find? _ = _
    rw [Table.find?_insert]
    exact Function.update_self ..
  have calls : args.Calls stored := ⟨version, payment, _, about ▸ here⟩
  have queued := @queueNotificationCheck_extends stored args args.notificationID calls
  have inserted : Table.Evolves (PaymentNotification.Moves args.notificationID)
      (fun row => row.id = args.notificationID) world.db.notifications stored.notifications :=
    .insert PaymentNotification.Moves.refl about.symm
  have grows : Extends args.notificationID world.db (queueNotificationCheck args stored) := by
    refine ⟨inserted.trans queued.notifications PaymentNotification.Moves.trans ?_ (fun new => new),
      queued.jobs⟩
    intro row later new moved
    exact moved.same.id.trans new
  have commits : world.db.Commits (queueNotificationCheck args stored) :=
    .clerical ((Clerical.intro stored.notifications world.db.jobs).trans
      (queueNotificationCheck_clerical args stored))
  have keeps := grows.keeps commits sound.valid
  have distinct : stored.DistinctEvents := by
    intro first second left right leftFound rightFound same
    change (world.db.notifications.insert blank).find? _ = _ at leftFound rightFound
    rw [Table.find?_insert] at leftFound rightFound
    rcases update_eq_some leftFound with ⟨rfl, rfl⟩ | ⟨_, leftStored⟩
    · rcases update_eq_some rightFound with ⟨rfl, rfl⟩ | ⟨_, rightStored⟩
      · rfl
      · exact absurd same (fresh right (Table.mem_of_find? rightStored)).2
    · rcases update_eq_some rightFound with ⟨rfl, rfl⟩ | ⟨_, rightStored⟩
      · exact absurd same (fresh left (Table.mem_of_find? leftStored)).1
      · exact sound.distinct _ _ _ _ leftStored rightStored same
  refine sound.extend commits grows
    (distinct.moved (queueNotificationCheck_moved args.notificationID args stored))
    (fun stage member => (ready stage member).kept keeps) ?_ (fun _ _ unfinished => unfinished) ?_
  · intro id stage running
    obtain ⟨carried, known, holds⟩ := sound.runs running
    exact ⟨carried, known, holds.kept keeps⟩
  · intro row _
    right
    obtain ⟨_, id, same, opened, carries, origin⟩ := enqueue_check args stored
    refine ⟨id, same, (queueNotificationCheck_noted 0 args stored).extends.openCheck opened, carries,
      ?_⟩
    intro finished
    obtain ⟨other, known, _⟩ := sound.runs finished
    obtain ⟨job, present, unfinished, kind⟩ := Database.openCheck_eq_some.mp known
    rcases origin with earlier | none
    · -- No job carried the number before it was given out.
      have equal : other = same := Option.some.inj (known.symm.trans earlier)
      subst equal
      have named : 0 < other.notificationID := by
        rw [carries, about]
        exact world.db.notifications.nextPositive
      obtain ⟨row, stored⟩ := (sound.jobs present kind named).stored
      rw [carries, about, Table.find?_next] at stored
      cases stored
    · rw [show stored.jobs = world.db.jobs from rfl] at none
      rw [none] at present
      cases present

private theorem mem_replaceDelivery {deliveries : List DeliveryStage} {index : Nat}
    {later : Option DeliveryStage} {stage : DeliveryStage}
    (member : stage ∈ replaceDelivery index later deliveries) :
    stage ∈ deliveries ∨ later = some stage := by
  cases later with
  | none => exact .inl (List.mem_of_mem_eraseIdx member)
  | some new =>
      rcases List.mem_or_eq_of_mem_set member with earlier | rfl
      · exact .inl earlier
      · exact .inr rfl

/-- A delivery leaves every notification as it is and queues a check in good order, or
it adds a notification together with its check. -/
structure DeliveryStage.Quiet (db : Database) (after : Option DeliveryStage × Database) : Prop where
  commits : db.Commits after.2
  grows : Extends 0 db after.2
  moved : Table.Evolves (PaymentNotification.Moves 0) (fun _ => False) db.notifications
    after.2.notifications
  ready : ∀ later, after.1 = some later → later.Ready db

theorem DeliveryStage.Quiet.idle {later : Option DeliveryStage}
    (ready : ∀ stage, later = some stage → stage.Ready db) : DeliveryStage.Quiet db (later, db) :=
  ⟨.nothing, (Works.refl db).extends, .refl PaymentNotification.Moves.refl, ready⟩

private theorem none_ready : ∀ stage : DeliveryStage, none = some stage → stage.Ready db := by
  intro stage same
  cases same

structure DeliveryStage.Adds (db : Database) (after : Option DeliveryStage × Database)
    (blank : PaymentNotification) (args : CheckPayArgs) : Prop where
  concluded : after.1 = none
  stored : after.2 = queueNotificationCheck args
    { db with notifications := db.notifications.insert blank }
  fresh : ∀ other ∈ db.notifications, ¬ other.SameEvent (db.notifications.inserted blank) ∧
    ¬ (db.notifications.inserted blank).SameEvent other
  version : args.reconciliationVersion = 0
  payment : 0 < args.paymentID
  about : args.notificationID = db.notifications.next

theorem DeliveryStage.step_cases {stage : DeliveryStage} (ready : stage.Ready db) :
    DeliveryStage.Quiet db (stage.step db) ∨
      ∃ blank args, DeliveryStage.Adds db (stage.step db) blank args := by
  cases stage with
  | flag failure =>
      have works : Works 0 db (next (.markReconciliationRequired failure) db) := by
        rcases commit_cases (execute (.markReconciliationRequired failure)) db with same | done
        · rw [next, same]
          exact .refl db
        · exact ((execute_footprint _ done).works rfl).of_nonpos ready 0
      exact .inl ⟨next_commits (.markReconciliationRequired failure) db, works.extends,
        works.notifications, none_ready⟩
  | queue args =>
      exact .inl ⟨.clerical (queueNotificationCheck_clerical args db),
        queueNotificationCheck_extends ready, queueNotificationCheck_moved 0 args db, none_ready⟩
  | store input args =>
      rw [DeliveryStage.step]
      split
      · exact .inl (.idle none_ready)
      · next duplicate row stored kept =>
          have version := (normalizeCheckPayArgs_reconciliationVersion args).trans ready.1
          have payment := (normalizeCheckPayArgs_paymentID args).symm ▸ ready.2
          generalize normalizeCheckPayArgs args = check at version payment
          dsimp only
          split
          · exact .inl (.idle none_ready)
          · rcases storeNotification_cases kept with ⟨rfl, rfl, present⟩ |
              ⟨blank, rfl, rfl, rfl, received, fresh⟩
            · left
              split
              · exact .idle none_ready
              · refine .idle ?_
                intro later same
                cases same
                exact ⟨version, payment, row, present⟩
            · right
              rw [if_neg (by rw [received]; decide)]
              exact ⟨blank, _, rfl, rfl, fresh, version, payment, rfl⟩

/-- The stages of a delivery to its end, with nothing in between. -/
def DeliveryStage.finish (stage : DeliveryStage) (db : Database) : Database :=
  match (stage.step db).1 with
  | none => (stage.step db).2
  | some later => (later.step (stage.step db).2).2

/-- Uninterrupted, the stages are the transaction `PersistAndEnqueueNotification`. -/
theorem persistAndEnqueueNotification_stages (input : NotificationInput) (args : CheckPayArgs)
    (db : Database) :
    next (.persistAndEnqueueNotification input args) db =
      (DeliveryStage.store input args).finish db := by
  have body : execute (.persistAndEnqueueNotification input args) db =
      (persistAndEnqueueNotification input args db).map Prod.snd := rfl
  rw [next, commit, body, DeliveryStage.finish, DeliveryStage.step, persistAndEnqueueNotification]
  cases kept : storeNotification input db with
  | error fault => rfl
  | ok stored =>
      obtain ⟨duplicate, row, stored⟩ := stored
      rw [ok_bind]
      dsimp only
      by_cases same : row.provider = input.provider ∧ row.outTradeNo = input.outTradeNo ∧
          row.payloadHash = input.payloadHash
      · have matching : ¬ input.matches row = false := by
          simp [NotificationInput.matches, same.1, same.2.1, same.2.2]
        rw [require_of same, ok_bind, if_neg matching]
        by_cases processed : row.status = .processed
        · rw [if_pos processed, if_pos processed]
          rfl
        · rw [if_neg processed, if_neg processed]
          cases duplicate with
          | false => rfl
          | true =>
              rcases storeNotification_cases kept with ⟨_, rfl, _⟩ | ⟨_, ⟨⟩, _⟩
              rfl
      · have differing : input.matches row = false := by
          apply Bool.eq_false_iff.mpr
          intro matching
          simp only [NotificationInput.matches, Bool.and_eq_true, beq_iff_eq] at matching
          exact same ⟨matching.1.1, matching.1.2, matching.2⟩
        rw [require_of_not same, if_pos differing]
        rfl

theorem CallbackWorld.Sound.proceed (sound : world.Sound) (index : Nat) :
    (world.proceed index).Sound := by
  unfold CallbackWorld.proceed
  split
  · exact sound
  · next stage found =>
      rcases DeliveryStage.step_cases (sound.deliveries stage (List.mem_of_getElem? found)) with
        quiet | ⟨blank, args, adds⟩
      · refine sound.besides quiet.commits quiet.grows (sound.distinct.moved quiet.moved) ?_
        intro other member
        rcases mem_replaceDelivery member with earlier | new
        · exact sound.deliveries other earlier
        · exact quiet.ready other new
      · dsimp only
        rw [adds.stored, adds.concluded]
        refine sound.store adds.fresh adds.version adds.payment adds.about ?_
        intro other member
        rcases mem_replaceDelivery member with earlier | new
        · exact sound.deliveries other earlier
        · cases new

theorem CallbackWorld.Sound.next (sound : world.Sound) (policy : PaymentPolicy)
    (event : CallbackEvent) : (world.next policy event).Sound := by
  cases event with
  | operation operation aside =>
      have works : Works 0 world.db (Mall.next operation world.db) := next_works aside world.db
      exact sound.besides (next_commits operation world.db) works.extends
        (sound.distinct.moved works.notifications) sound.deliveries
  | finishOther id => exact sound.finishOther id
  | deliver notification => exact sound.deliver policy.withDefaults notification
  | proceed index => exact sound.proceed index
  | abandon index =>
      refine sound.besides .nothing (Works.refl world.db).extends sound.distinct ?_
      intro other member
      rcases mem_replaceDelivery member with earlier | new
      · exact sound.deliveries other earlier
      · cases new
  | start id => exact sound.start id
  | advance id moment => exact sound.advance id moment
  | stop id => exact sound.stop id
  | exhaust id attempt lastError => exact sound.exhaust id attempt lastError
  | finish id => exact sound.finish id

theorem CallbackWorld.Initial.sound (initial : world.Initial) : world.Sound := by
  have noRow : ∀ id, world.db.notifications.find? id = none :=
    Table.find?_of_empty initial.db.noNotifications
  refine ⟨⟨initial.db.tidy, initial.db.sound⟩, ?_, ?_, ?_, ?_, ?_⟩
  · intro first second left right present
    rw [noRow] at present
    cases present
  · intro id job args present
    rw [Table.find?_of_empty initial.db.noJobs] at present
    cases present
  · intro stage member
    rw [initial.noDeliveries] at member
    cases member
  · intro id stage running
    rw [initial.noRuns] at running
    cases running
  · intro id row present
    rw [noRow] at present
    cases present

theorem CallbackWorld.Reached.sound {policy : PaymentPolicy} (reached : world.Reached policy) :
    world.Sound :=
  Reachable.invariant (fun _ initial => initial.sound)
    (fun _ event _ sound => sound.next policy event) reached

end Mall
