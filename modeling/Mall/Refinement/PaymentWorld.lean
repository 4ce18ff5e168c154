/-
The payment world as a whole.

Every event leaves the database alone or commits one transaction, so that the
database is always one that transactions reach.  An answer that is on its way has
the ground that it claims.
-/

import Mall.Refinement.PrepayStages

namespace Mall

open Relational Transactional

variable {db result : Database} {policy : PaymentPolicy} {world : PaymentWorld}

/-! ### Commits -/

def WorkerWrite.answer : WorkerWrite → Option (CheckPayArgs × PaymentQueryResult)
  | .report args answer | .conclude args answer => some (args, answer)
  | _ => none

def WorkerWrite.Commits (clock : Clock) (write : WorkerWrite) (operation : Operation) : Prop :=
  operation.Plain ∨ ∃ check answer, write.answer = some (check, answer) ∧
    operation = .applyPayQuery clock check (some answer)

private theorem applyPayQueryOrFlag_commits (clock : Clock) (check : CheckPayArgs)
    (answer : PaymentQueryResult) (db : Database) :
    AtMostOne (fun operation => operation.Plain ∨
      operation = .applyPayQuery clock check (some answer)) db
      (applyPayQueryOrFlag clock check (some answer) db) := by
  unfold applyPayQueryOrFlag
  split
  · next applied done => exact Or.inr ⟨.applyPayQuery clock check (some answer), Or.inr rfl, done⟩
  · split
    · exact .of_next (.markReconciliationRequired (duplicateFailure check db)) (Or.inl rfl) db
    · exact Or.inl rfl

theorem WorkerWrite.perform_commits (clock : Clock) (db : Database) (write : WorkerWrite) :
    AtMostOne (write.Commits clock) db (write.perform clock db) := by
  cases write with
  | report check answer =>
      refine (applyPayQueryOrFlag_commits clock check answer db).mono ?_
      rintro operation (plain | rfl)
      · exact Or.inl plain
      · exact Or.inr ⟨check, answer, rfl, rfl⟩
  | conclude check answer =>
      refine (applyPayQueryOrFlag_commits clock check answer db).mono ?_
      rintro operation (plain | rfl)
      · exact Or.inl plain
      · exact Or.inr ⟨check, answer, rfl, rfl⟩
  | markReconciliationRequired failure => exact .of_next _ (Or.inl rfl) db
  | markPayClosePending args => exact .of_next _ (Or.inl rfl) db
  | beginPaymentNotificationProcessing id provider outTradeNo => exact .of_next _ (Or.inl rfl) db
  | recordPaymentNotificationError id lastError => exact .of_next _ (Or.inl rfl) db
  | markPaymentNotificationFailed id lastError => exact .of_next _ (Or.inl rfl) db
  | handleError jobID attempt lastError job => exact .of_next _ (Or.inl rfl) db

/-- What an event may commit: an answer only with the write that it lands. -/
def PaymentEvent.Commits (event : PaymentEvent) (world : PaymentWorld) (operation : Operation) :
    Prop :=
  operation.Plain ∨ ∃ landed clock check answer, world.lands event = some landed ∧
    landed.write.answer = some (check, answer) ∧
    operation = .applyPayQuery clock check (some answer)

theorem PaymentWorld.next_db (policy : PaymentPolicy) (event : PaymentEvent)
    (world : PaymentWorld) :
    AtMostOne (event.Commits world) world.db (PaymentWorld.next policy event world).db := by
  cases event with
  | operation operation other =>
      rw [PaymentWorld.next]
      exact .of_next operation (Or.inl other) world.db
  | prepayForOrder args opening =>
      rw [PaymentWorld.next]
      unfold PaymentWorld.start
      split <;> exact Or.inl rfl
  | advance index around =>
      rw [PaymentWorld.next]
      split
      · exact Or.inl rfl
      · next run standing =>
          exact (run.advance_commits policy.withDefaults around world.db).mono
            (fun operation plain => Or.inl plain)
  | crash index => exact Or.inl rfl
  | read job =>
      rw [PaymentWorld.next, PaymentWorld.read]
      split <;> exact Or.inl rfl
  | decide index close check =>
      rw [PaymentWorld.next]
      split <;> exact Or.inl rfl
  | queryPayment outTradeNo userID around => exact Or.inl rfl
  | closePayment outTradeNo userID around => exact Or.inl rfl
  | write index clock =>
      cases waiting : world.pending[index]? with
      | none =>
          rw [PaymentWorld.next, waiting]
          exact Or.inl rfl
      | some writes =>
          rw [PaymentWorld.next, waiting]
          cases writes with
          | nil => exact Or.inl rfl
          | cons first rest =>
              have landed : world.lands (.write index clock) = some first := by
                rw [PaymentWorld.lands, waiting]
                rfl
              refine (first.write.perform_commits clock world.db).mono ?_
              rintro operation (plain | ⟨check, answer, holds, rfl⟩)
              · exact Or.inl plain
              · exact Or.inr ⟨first, clock, check, answer, landed, holds, rfl⟩
  | abandon index => exact Or.inl rfl

theorem PaymentWorld.Reached.database (reached : world.Reached policy) : Mall.Reached world.db := by
  have starts : ∀ start : PaymentWorld, start.Initial → Mall.Reached start.db :=
    fun _ initial => .start initial.db
  refine Reachable.invariant starts ?_ reached
  intro current event _ holds
  exact (current.next_db policy event).reached holds

/-! ### Readings and writes -/

structure Reading.Fits (db : Database) (reading : Reading) : Prop where
  stored : ∃ row, db.payments.find? reading.payment.id = some row ∧ reading.payment.Carried row
  regular : reading.payment.Regular

theorem Reading.Fits.carried {reading : Reading} (fits : reading.Fits db)
    (carried : Carried db result) : reading.Fits result := by
  obtain ⟨row, present, since⟩ := fits.stored
  obtain ⟨later, found, kept⟩ := carried.payments.kept present
  exact ⟨⟨later, found, since.trans kept⟩, fits.regular⟩

/-- The action of the payment is a signed payload that was safely over. -/
def Payment.Expired (decode : String → Option SignedPaymentPayload) (queryStarted : Time)
    (payment : Payment) : Prop :=
  ∃ action signed deadline, payment.action = some action ∧ decode action.payload = some signed ∧
    signed.expiresAt = some deadline ∧ deadline + paymentExpirySafetyMargin ≤ queryStarted

/-- What an answer rests on, once the provider denied the trade. -/
def CheckPayArgs.Excused (db : Database) (decode : String → Option SignedPaymentPayload)
    (queryStarted : Time) (check : CheckPayArgs) : Prop :=
  check.confirmUnissued = true ∨ ∃ row, db.payments.find? check.paymentID = some row ∧
    row.Expired decode queryStarted

theorem CheckPayArgs.Excused.carried {decode : String → Option SignedPaymentPayload}
    {queryStarted : Time} {check : CheckPayArgs} (excused : check.Excused db decode queryStarted)
    (reached : Mall.Reached db) (carried : Carried db result) :
    check.Excused result decode queryStarted := by
  rcases excused with confirm | ⟨row, present, action, signed, deadline, holds, rest⟩
  · exact Or.inl confirm
  · obtain ⟨later, found, kept⟩ := carried.payments.kept present
    have left : row.status ≠ .creating := by
      refine (reached.regular present).left ?_
      rw [holds]
      rfl
    exact Or.inr ⟨later, found, action, signed, deadline, (kept.left left).1.trans holds, rest⟩

/-- An answer that is on its way has the ground that it claims. -/
def PendingWrite.Justified (db : Database) (pending : PendingWrite) : Prop :=
  ∀ check answer, pending.write.answer = some (check, answer) →
    match pending.ground with
    | .provider state => answer.tradeState = state
    | .absence decode queryStarted =>
        answer.tradeState = .closed ∧ check.Excused db decode queryStarted
    | .bookkeeping => False

theorem PendingWrite.Justified.carried {pending : PendingWrite} (justified : pending.Justified db)
    (reached : Mall.Reached db) (carried : Carried db result) : pending.Justified result := by
  intro check answer holds
  have before := justified check answer holds
  cases ground : pending.ground with
  | provider state =>
      rw [ground] at before
      exact before
  | absence decode queryStarted =>
      rw [ground] at before
      exact ⟨before.1, before.2.carried reached carried⟩
  | bookkeeping =>
      rw [ground] at before
      exact before

theorem WorkerWrite.grounded_justified (write : WorkerWrite) (db : Database) :
    write.grounded.Justified db := by
  intro check answer holds
  cases write with
  | report args given =>
      cases holds
      rfl
  | conclude args given =>
      cases holds
      rfl
  | _ => cases holds

private theorem signedAction_expired {around : CloseSurroundings} {method : PaymentMethod}
    {payment : Payment} {safeAt : Time}
    (safe : (signedAction around method payment).bind SignedPaymentPayload.safeAt = some safeAt)
    (concluded : ¬ around.queryStarted < safeAt) : payment.Expired around.decode around.queryStarted := by
  obtain ⟨signed, read, deadline⟩ := Option.bind_eq_some_iff.mp safe
  unfold signedAction at read
  split at read
  · next signs =>
    obtain ⟨type, named⟩ := Option.isSome_iff_exists.mp (Bool.and_eq_true_iff.mp signs).2
    unfold SignedPaymentPayload.safeAt at deadline
    split at deadline
    · obtain ⟨limit, expires, rfl⟩ := Option.map_eq_some_iff.mp deadline
      have acting : payment.action = some
          { type := type
            payload := payment.actionPayload.getD "" } := by
        rw [Payment.action, named]
        rfl
      exact ⟨_, signed, limit, acting, read, expires, not_lt.mp concluded⟩
    · cases deadline
  · cases read

private theorem closeAbsent_justified {around : CloseSurroundings} {args : ClosePayArgs}
    {method : PaymentMethod} {reading : Reading} {write : WorkerWrite} (fits : reading.Fits db)
    (exit : closeAbsent around args method reading.payment = some write) :
    PendingWrite.Justified db
      { write := write
        ground := .absence around.decode around.queryStarted } := by
  unfold closeAbsent at exit
  dsimp only at exit
  intro check answer holds
  split at exit
  · next safeAt safe =>
    split at exit
    · cases exit
    · next concluded =>
      cases exit
      cases holds
      obtain ⟨row, present, since⟩ := fits.stored
      obtain ⟨action, signed, deadline, acting, rest⟩ := signedAction_expired safe concluded
      have left : reading.payment.status ≠ .creating := by
        refine fits.regular.left ?_
        rw [acting]
        rfl
      exact ⟨rfl, Or.inr ⟨row, present, action, signed, deadline,
        (since.left left).1.trans acting, rest⟩⟩
  · split at exit
    · next unissued =>
      cases exit
      cases holds
      exact ⟨rfl, Or.inl unissued⟩
    · cases exit
      cases holds

private theorem closePayWrites_justified {around : CloseSurroundings} {args : ClosePayArgs}
    {reading : Reading} {pending : PendingWrite} (fits : reading.Fits db)
    (member : pending ∈ closePayWrites around args reading.payment) : pending.Justified db := by
  obtain ⟨write, decided, rfl⟩ := List.mem_map.mp member
  have exit : closePayWork around args reading.payment = some write := Option.mem_toList.mp decided
  have ground := write.grounded_justified db
  unfold CloseSurroundings.ground
  cases asked : around.query with
  | ok answer => exact ground
  | error fault =>
      unfold closePayWork at exit
      split at exit
      · cases exit
      · split at exit
        · cases exit
        · split at exit
          · cases exit
          · split at exit
            · cases exit
            · split at exit
              · cases exit
              · rw [asked] at exit
                dsimp only at exit
                split at exit
                · exact closeAbsent_justified fits exit
                · cases exit

theorem Reading.writes_justified {close : CloseSurroundings} {check : CheckSurroundings}
    {reading : Reading} {pending : PendingWrite} (fits : reading.Fits db)
    (member : pending ∈ reading.writes close check) : pending.Justified db := by
  unfold Reading.writes at member
  split at member
  · exact closePayWrites_justified fits member
  · obtain ⟨write, _, rfl⟩ := List.mem_map.mp member
    exact write.grounded_justified db
  · cases member

/-! ### Reached worlds -/

/-- What the database of a world says about everything that is under way or done. -/
structure PaymentWorld.Sound (world : PaymentWorld) : Prop where
  prepays : ∀ run ∈ world.prepays, run.Fits world.db
  readings : ∀ reading ∈ world.readings, reading.Fits world.db
  pending : ∀ writes ∈ world.pending, ∀ write ∈ writes, write.Justified world.db
  calls : ∀ call ∈ world.calls, ∃ payment order, call.Matches world.db payment order
  returned : ∀ answer ∈ world.returned, answer.Recorded world.db

theorem PaymentWorld.Initial.sound (initial : world.Initial) : world.Sound := by
  refine ⟨?_, ?_, ?_, ?_, ?_⟩
  · rw [initial.noPrepays]
    intro run member
    cases member
  · rw [initial.noReadings]
    intro reading member
    cases member
  · rw [initial.noPending]
    intro writes member
    cases member
  · rw [initial.noCalls]
    intro call member
    cases member
  · rw [initial.noReturned]
    intro answer member
    cases member

theorem PaymentWorld.Sound.carried (sound : world.Sound) (reached : Mall.Reached world.db)
    (carried : Carried world.db db) : { world with db := db }.Sound := by
  refine ⟨?_, ?_, ?_, ?_, ?_⟩
  · intro run member
    exact (sound.prepays run member).carried carried
  · intro reading member
    exact (sound.readings reading member).carried carried
  · intro writes member write inside
    exact (sound.pending writes member write inside).carried reached carried
  · intro call member
    obtain ⟨payment, order, agrees⟩ := sound.calls call member
    exact agrees.carried carried
  · intro answer member
    exact (sound.returned answer member).carried reached carried

theorem PaymentWorld.Sound.await {writes : List PendingWrite} (sound : world.Sound)
    (justified : ∀ write ∈ writes, write.Justified world.db) : (world.await writes).Sound := by
  refine ⟨sound.prepays, sound.readings, ?_, sound.calls, sound.returned⟩
  intro listed member
  rcases List.mem_append.mp member with old | new
  · exact sound.pending listed old
  · cases List.mem_singleton.mp new
    exact justified

theorem PaymentWorld.Sound.start {started : Except Fault PrepayRun} (sound : world.Sound)
    (fresh : ∀ run, started = .ok run → run.Fits world.db) : (world.start started).Sound := by
  unfold PaymentWorld.start
  split
  · exact sound
  · next run _ =>
      refine ⟨?_, sound.readings, sound.pending, sound.calls, sound.returned⟩
      intro other member
      rcases List.mem_append.mp member with old | new
      · exact sound.prepays other old
      · cases List.mem_singleton.mp new
        exact fresh _ rfl

private theorem startPrepay_fits {opening : PrepayOpening} {args : PrepayForOrderArgs}
    {run : PrepayRun}
    (started : startPrepay opening args = .ok run) (db : Database) : run.Fits db := by
  unfold startPrepay at started
  obtain ⟨_, _, started⟩ := bind_eq_ok.mp started
  obtain ⟨_, _, started⟩ := bind_eq_ok.mp started
  obtain ⟨_, _, started⟩ := bind_eq_ok.mp started
  obtain ⟨_, _, started⟩ := bind_eq_ok.mp started
  obtain ⟨_, _, started⟩ := bind_eq_ok.mp started
  obtain ⟨_, _, started⟩ := bind_eq_ok.mp started
  obtain ⟨_, _, started⟩ := bind_eq_ok.mp started
  cases pure_eq_ok.mp started
  refine ⟨?_, trivial⟩
  rintro payment ⟨⟩

/-- One stage keeps the invariant: the run goes on soundly, its call matches, and
what it hands out is on record. -/
theorem PaymentWorld.Sound.proceed {index : Nat} {around : PrepaySurroundings} {run : PrepayRun}
    (sound : world.Sound) (reached : Mall.Reached world.db)
    (standing : world.prepays[index]? = some run) :
    (world.proceed index around run (run.advance policy around world.db).1
      (run.advance policy around world.db).2).Sound := by
  have carried := (run.advance_commits policy around world.db).carried reached
  have fits := sound.prepays run (List.mem_of_getElem? standing)
  have after := sound.carried reached carried
  refine ⟨?_, after.readings, after.pending, ?_, ?_⟩
  · intro other member
    dsimp only [PaymentWorld.proceed] at member
    cases progress : (run.advance policy around world.db).1.stage around with
    | none =>
        rw [progress] at member
        exact after.prepays other (List.mem_of_mem_eraseIdx member)
    | some stage =>
        rw [progress] at member
        rcases List.mem_or_eq_of_mem_set member with old | rfl
        · exact after.prepays other old
        · refine PrepayRun.advance_going reached fits ?_
          unfold PrepayProgress.stage at progress
          split at progress
          · next going =>
            split at progress
            · cases progress
            · cases progress
              exact going
          · cases progress
  · intro call member
    rcases List.mem_append.mp member with new | old
    · obtain ⟨payment, order, agrees⟩ := run.call_matches fits (Option.mem_toList.mp new)
      exact agrees.carried carried
    · exact after.calls call old
  · intro answer member
    rcases List.mem_append.mp member with new | old
    · refine PrepayRun.advance_answered fits ?_
      have result := Option.mem_toList.mp new
      unfold PrepayProgress.result at result
      split at result
      · next answered =>
        split at result
        · cases result
        · cases result
          exact answered
      · cases result
    · exact after.returned answer old

theorem PaymentWorld.Sound.read {job : JobArgs} (sound : world.Sound)
    (reached : Mall.Reached world.db) : (world.read job).Sound := by
  unfold PaymentWorld.read
  split
  · exact sound
  · next payment chosen =>
      obtain ⟨id, _, present⟩ := Option.bind_eq_some_iff.mp chosen
      refine ⟨sound.prepays, ?_, sound.pending, sound.calls, sound.returned⟩
      intro reading member
      rcases List.mem_append.mp member with old | new
      · exact sound.readings reading old
      · cases List.mem_singleton.mp new
        exact ⟨⟨payment, find?_own present, .refl payment⟩, reached.regular present⟩

theorem PaymentWorld.Sound.land {index : Nat} {clock : Clock} {writes : List PendingWrite}
    (sound : world.Sound) (reached : Mall.Reached world.db)
    (waiting : world.pending[index]? = some writes) : (world.land index clock writes).Sound := by
  cases writes with
  | nil => exact sound
  | cons first rest =>
      have carried := (first.write.perform_commits clock world.db).carried reached
      have after := sound.carried reached carried
      refine ⟨after.prepays, after.readings, ?_, after.calls, after.returned⟩
      intro listed member
      rcases List.mem_or_eq_of_mem_set member with old | rfl
      · exact after.pending listed old
      · intro write inside
        exact after.pending _ (List.mem_of_getElem? waiting) write (List.mem_cons_of_mem _ inside)

theorem PaymentWorld.Sound.next {event : PaymentEvent} (sound : world.Sound)
    (reached : Mall.Reached world.db) : (PaymentWorld.next policy event world).Sound := by
  cases event with
  | operation operation other =>
      rw [PaymentWorld.next]
      exact sound.carried reached (next_carried operation reached.valid.sound)
  | prepayForOrder args opening =>
      rw [PaymentWorld.next]
      exact sound.start (fun run started => startPrepay_fits started world.db)
  | advance index around =>
      rw [PaymentWorld.next]
      split
      · exact sound
      · next run standing => exact sound.proceed reached standing
  | crash index =>
      rw [PaymentWorld.next]
      refine ⟨?_, sound.readings, sound.pending, sound.calls, sound.returned⟩
      intro run member
      exact sound.prepays run (List.mem_of_mem_eraseIdx member)
  | read job =>
      rw [PaymentWorld.next]
      exact sound.read reached
  | decide index close check =>
      rw [PaymentWorld.next]
      split
      · exact sound
      · next reading standing =>
          have fits := sound.readings reading (List.mem_of_getElem? standing)
          have awaiting : (world.await (reading.writes close check)).Sound :=
            sound.await (fun write member => Reading.writes_justified fits member)
          refine ⟨awaiting.prepays, ?_, awaiting.pending, awaiting.calls, awaiting.returned⟩
          intro other member
          exact sound.readings other (List.mem_of_mem_eraseIdx member)
  | queryPayment outTradeNo userID around =>
      rw [PaymentWorld.next]
      refine sound.await ?_
      intro pending member
      obtain ⟨write, _, rfl⟩ := List.mem_map.mp member
      exact write.grounded_justified world.db
  | closePayment outTradeNo userID around =>
      rw [PaymentWorld.next]
      refine sound.await ?_
      intro pending member
      obtain ⟨write, _, rfl⟩ := List.mem_map.mp member
      exact write.grounded_justified world.db
  | write index clock =>
      rw [PaymentWorld.next]
      split
      · exact sound
      · next writes waiting => exact sound.land reached waiting
  | abandon index =>
      rw [PaymentWorld.next]
      refine ⟨sound.prepays, sound.readings, ?_, sound.calls, sound.returned⟩
      intro writes member
      exact sound.pending writes (List.mem_of_mem_eraseIdx member)

theorem PaymentWorld.Reached.sound (reached : world.Reached policy) : world.Sound := by
  have starts : ∀ start : PaymentWorld, start.Initial → start.Sound :=
    fun _ initial => initial.sound
  refine Reachable.invariant starts ?_ reached
  intro current event before sound
  exact sound.next (PaymentWorld.Reached.database before)

theorem PaymentWorld.run_carried (reached : world.Reached policy) (history : List PaymentEvent) :
    Carried world.db (run (PaymentWorld.next policy) world history).db := by
  induction history generalizing world with
  | nil => exact .refl _
  | cons event rest ih =>
      exact ((world.next_db policy event).carried reached.database).trans (ih (reached.step event))

end Mall
