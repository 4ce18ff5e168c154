/-
What the jobs of a manual retry may still write after the case moved on.
-/

import Mall.Guarantees.Redelivery
import Mall.Workers

namespace Mall

open Relational Transactional

variable {db result : Database} {write : WorkerWrite} {payment : Payment} {method : PaymentMethod}
  {around : CloseSurroundings} {args : CheckPayArgs}

/-! ### Writes that leave every case alone -/

structure CasesKept (db later : Database) : Prop where
  payments : ∀ {id payment}, db.payments.find? id = some payment →
    ∃ after, later.payments.find? id = some after ∧ payment.SameCase after
  failures : later.failures = db.failures

private theorem Payment.SameCase.refl (payment : Payment) : payment.SameCase payment :=
  ⟨rfl, rfl, rfl, rfl⟩

private theorem CasesKept.refl (db : Database) : CasesKept db db :=
  ⟨fun present => ⟨_, present, .refl _⟩, rfl⟩

private theorem CasesKept.of_tables {later : Database} (payments : later.payments = db.payments)
    (failures : later.failures = db.failures) : CasesKept db later := by
  refine ⟨fun present => ⟨_, ?_, .refl _⟩, failures⟩
  rw [payments]
  exact present

private theorem CasesKept.trans {first second third : Database} (left : CasesKept first second)
    (right : CasesKept second third) : CasesKept first third := by
  refine ⟨?_, right.failures.trans left.failures⟩
  intro id payment present
  obtain ⟨middle, found, before⟩ := left.payments present
  obtain ⟨last, stored, after⟩ := right.payments found
  exact ⟨last, stored, after.status.trans before.status, after.version.trans before.version,
    after.reason.trans before.reason, after.detail.trans before.detail⟩

private theorem Clerical.casesKept (clerical : Clerical db result) : CasesKept db result :=
  .of_tables (congrArg Journal.payments clerical.journal)
    (congrArg Journal.failures clerical.journal)

private theorem CasesKept.of_entries (path : Entries db.journal result.journal) :
    CasesKept db result := by
  refine ⟨?_, path.sameAudit.failures⟩
  intro id payment present
  obtain ⟨later, found, edits⟩ := path.payments.kept present
  exact ⟨later, found, edits.sameCase⟩

private theorem applyClosed_casesKept {order : Order} {payments : List Payment}
    {transaction : String}
    {mark : Bool} (done : applyClosed order payments payment transaction db = .ok (mark, result)) :
    CasesKept db result := by
  unfold applyClosed at done
  split at done
  · obtain ⟨_, _, done⟩ := bind_eq_ok.mp done
    obtain ⟨_, _, done⟩ := bind_eq_ok.mp done
    obtain ⟨_, _, done⟩ := bind_eq_ok.mp done
    cases pure_eq_ok.mp done
    exact .refl db
  · split at done
    · cases pure_eq_ok.mp done
      exact .refl db
    · split at done
      · next closing update =>
        obtain ⟨settled, finalize, done⟩ := bind_eq_ok.mp done
        cases pure_eq_ok.mp done
        have closed : CasesKept db closing := .of_entries (markPaymentClosed_entries update)
        obtain ⟨rows, failures, _⟩ := finalizeOrderAfterPaymentInactive_after finalize
        exact closed.trans (.of_tables rows failures)
      · obtain ⟨_, _, done⟩ := bind_eq_ok.mp done
        obtain ⟨_, _, done⟩ := bind_eq_ok.mp done
        cases pure_eq_ok.mp done
        exact .refl db

private theorem validateProviderResult_closedAnswer {payment row : Payment}
    (deal : payment.SameDeal row) (transaction : String) :
    validateProviderResult row method (some (closedAnswer method payment transaction)) = none := by
  rw [validateProviderResult, if_neg, if_neg, if_neg]
  · rintro (success | refund)
    · cases success
    · cases refund
  · intro different
    exact different method.string_normalize
  · intro different
    exact different deal.outTradeNo.symm

private theorem applyPayQuery_closedAnswer {clock : Clock} {payment row : Payment}
    {transaction : String}
    (stored : db.payments.find? args.paymentID = some row) (deal : payment.SameDeal row)
    (channel : parsePaymentMethod payment.payChannel = some method)
    (done : applyPayQuery clock args (some (closedAnswer method payment transaction)) db =
      .ok result) :
    CasesKept db result := by
  obtain ⟨order, current, parsed, locked, about, spelled, outcome⟩ := applyPayQuery_eq_ok done
  have found := locked.foundPayment
  rw [← about, stored] at found
  cases found
  rw [deal.payChannel, channel] at spelled
  cases spelled
  rcases outcome with ⟨mismatch, invalid, _⟩ | ⟨given, same, _, accept⟩
  · rw [validateProviderResult_closedAnswer deal transaction] at invalid
    cases invalid
  · cases same
    unfold acceptAnswer at accept
    obtain ⟨⟨mark, applied⟩, apply, accept⟩ := bind_eq_ok.mp accept
    have kept : CasesKept db applied := applyClosed_casesKept apply
    cases mark with
    | true => exact kept.trans (markNotificationProcessed_clerical accept).casesKept
    | false =>
        cases pure_eq_ok.mp accept
        exact kept

/-! ### What the workers write -/

private theorem run_sameDeal (reached : Reached db) (history : List Operation) {id : Int}
    (present : db.payments.find? id = some payment) :
    ∃ later, (run next db history).payments.find? id = some later ∧ payment.SameDeal later := by
  induction history generalizing db payment with
  | nil => exact ⟨payment, present, .refl payment⟩
  | cons operation rest ih =>
      obtain ⟨middle, found, booked⟩ :=
        (next_booked operation reached.valid.sound).payments.kept present
      obtain ⟨later, stored, deal⟩ := ih (reached.step operation) found
      exact ⟨later, stored, booked.sameDeal.trans deal⟩

inductive CloseWrite (args : ClosePayArgs) (payment : Payment) (method : PaymentMethod) :
    WorkerWrite → Prop
  | report (check : CheckPayArgs) (answer : PaymentQueryResult) :
      CloseWrite args payment method (.report check answer)
  | conclude (check : CheckPayArgs) (transaction : String) (about : check.paymentID = payment.id) :
      CloseWrite args payment method (.conclude check (closedAnswer method payment transaction))
  | flag (failure : FailureInput) (about : failure.paymentID = payment.id)
      (jobless : failure.riverJobID = none) (silent : failure.notificationID = 0) :
      CloseWrite args payment method (.markReconciliationRequired failure)

private theorem closeAbsent_write {args : ClosePayArgs}
    (exit : closeAbsent around args method payment = some write) :
    CloseWrite args payment method write := by
  unfold closeAbsent at exit
  dsimp only at exit
  split at exit
  · split at exit
    · cases exit
    · cases exit
      exact .conclude _ _ rfl
  · split at exit
    · cases exit
      exact .conclude _ _ rfl
    · cases exit
      exact .flag _ rfl rfl rfl

private theorem closeOpenTrade_write {args : ClosePayArgs}
    (exit : closeOpenTrade around args method payment = some write) :
    CloseWrite args payment method write := by
  unfold closeOpenTrade at exit
  split at exit
  · cases exit
  · split at exit
    · cases exit
    · cases exit
      exact .flag _ rfl rfl rfl
  · split at exit
    · split at exit
      · split at exit
        · split at exit
          · cases exit
            exact .report _ _
          · cases exit
        · cases exit
      · cases exit
    · cases exit
    · split at exit
      · cases exit
        exact .conclude _ _ rfl
      · cases exit

private theorem closePayWork_write {args : ClosePayArgs}
    (exit : closePayWork around args payment = some write) :
    ∃ method, parsePaymentMethod payment.payChannel = some method ∧
      CloseWrite args payment method write := by
  unfold closePayWork at exit
  split at exit
  · cases exit
  · split at exit
    · cases exit
    · split at exit
      · cases exit
      · next method channel =>
        refine ⟨method, channel, ?_⟩
        split at exit
        · cases exit
        · split at exit
          · cases exit
          · split at exit
            · split at exit
              · exact closeAbsent_write exit
              · cases exit
            · cases exit
            · split at exit
              · cases exit
                exact .report _ _
              · exact closeOpenTrade_write exit

/-- The provider does not know the trade, and neither the row nor the parameters on record
prove that it cannot be paid any more. -/
structure CloseSurroundings.AbsenceUnproven (around : CloseSurroundings) (payment : Payment) :
    Prop where
  denied : around.query = .error errProviderOrderNotExist
  issued : canConfirmUnissuedPayment payment around.queryStarted = false
  usable : ∀ method, parsePaymentMethod payment.payChannel = some method →
    (signedAction around method payment).bind SignedPaymentPayload.safeAt = none

private theorem closeAbsent_unfenced_iff {args : ClosePayArgs}
    (exit : closeAbsent around args method payment = some write) :
    write.isUnfenced = true ↔ canConfirmUnissuedPayment payment around.queryStarted = false ∧
      (signedAction around method payment).bind SignedPaymentPayload.safeAt = none := by
  unfold closeAbsent at exit
  dsimp only at exit
  split at exit
  · next safeAt signed =>
      rw [signed]
      split at exit
      · cases exit
      · cases exit
        exact iff_of_false nofun (fun proven => nomatch proven.2)
  · next unsigned =>
      rw [unsigned]
      split at exit
      · next unissued =>
          cases exit
          rw [unissued]
          exact iff_of_false nofun (fun proven => nomatch proven.1)
      · next issued =>
          cases exit
          exact iff_of_true rfl ⟨Bool.eq_false_of_not_eq_true issued, rfl⟩

private theorem closeOpenTrade_fenced {args : ClosePayArgs} (retry : args.reconciliationVersion ≠ 0)
    (exit : closeOpenTrade around args method payment = some write) :
    write.isUnfenced = false := by
  unfold closeOpenTrade at exit
  split at exit
  · cases exit
  · rw [if_pos retry] at exit
    cases exit
  · split at exit
    · split at exit
      · split at exit
        · split at exit
          · cases exit
            rfl
          · cases exit
        · cases exit
      · cases exit
    · cases exit
    · split at exit
      · cases exit
        rfl
      · cases exit

private theorem closePayWork_unfenced_iff {args : ClosePayArgs}
    (retry : args.reconciliationVersion ≠ 0)
    (exit : closePayWork around args payment = some write) :
    write.isUnfenced = true ↔ around.AbsenceUnproven payment := by
  unfold closePayWork at exit
  split at exit
  · cases exit
  · split at exit
    · cases exit
    · split at exit
      · cases exit
      · next method channel =>
        split at exit
        · cases exit
        · split at exit
          · cases exit
          · split at exit
            · next fault query =>
              split at exit
              · next denied =>
                rw [closeAbsent_unfenced_iff exit]
                constructor
                · rintro ⟨issued, usable⟩
                  refine ⟨denied ▸ query, issued, fun other same => ?_⟩
                  cases channel.symm.trans same
                  exact usable
                · exact fun unproven => ⟨unproven.issued, unproven.usable method channel⟩
              · cases exit
            · cases exit
            · next answer query =>
              have fenced : write.isUnfenced = false := by
                split at exit
                · cases exit
                  rfl
                · exact closeOpenTrade_fenced retry exit
              rw [fenced]
              refine iff_of_false nofun fun unproven => ?_
              cases query.symm.trans unproven.denied

/-- What a check worker can write: reports, the handover to closing, and notes on
its notification. -/
inductive CheckWrite (args : CheckPayArgs) : WorkerWrite → Prop
  | report (check : CheckPayArgs) (answer : PaymentQueryResult) : CheckWrite args (.report check answer)
  | close (check : CheckPayArgs) (about : check.paymentID = args.paymentID)
      (version : check.reconciliationVersion = args.reconciliationVersion) :
      CheckWrite args (.markPayClosePending check)
  | start (id : Int) (provider outTradeNo : String) :
      CheckWrite args (.beginPaymentNotificationProcessing id provider outTradeNo)
  | note (id : Int) (lastError : String) :
      CheckWrite args (.recordPaymentNotificationError id lastError)
  | drop (id : Int) (lastError : String) :
      CheckWrite args (.markPaymentNotificationFailed id lastError)

private theorem checkRetryable_writes {around : CheckSurroundings} {check args : CheckPayArgs}
    {cause : Fault} (member : write ∈ checkRetryable around check cause) :
    CheckWrite args write := by
  unfold checkRetryable at member
  split at member
  · cases member
  · cases List.mem_singleton.mp member
    exact .note _ _

private theorem checkCancel_writes {around : CheckSurroundings} {check args : CheckPayArgs}
    {cause : Fault} (member : write ∈ checkCancel around check cause) :
    CheckWrite args write := by
  unfold checkCancel at member
  split at member
  · cases member
  · cases List.mem_singleton.mp member
    exact .drop _ _

private theorem checkWrite_writes {around : CheckSurroundings} {check args : CheckPayArgs}
    {first write : WorkerWrite} (allowed : CheckWrite args first)
    (member : write ∈ checkWrite around check first) : CheckWrite args write := by
  unfold checkWrite at member
  split at member
  · cases List.mem_singleton.mp member
    exact allowed
  · rcases List.mem_cons.mp member with rfl | rest
    · exact allowed
    · exact checkRetryable_writes rest

private theorem checkAnswered_writes {around : CheckSurroundings} {answer : PaymentQueryResult}
    (member : write ∈ checkAnswered around args answer) : CheckWrite args write := by
  unfold checkAnswered at member
  split at member
  · exact checkWrite_writes (.report _ _) member
  · split at member
    · exact checkRetryable_writes member
    · split at member
      · cases member
      · unfold checkExhausted at member
        dsimp only at member
        split at member
        · exact checkRetryable_writes member
        · split at member
          · cases member
          · have closes : CheckWrite args
                (.markPayClosePending { args with pollCount := around.polls + 1 }) :=
              .close _ rfl rfl
            exact checkWrite_writes closes member

private theorem CheckWrite.same_subject {check args : CheckPayArgs}
    (about : check.paymentID = args.paymentID)
    (version : check.reconciliationVersion = args.reconciliationVersion)
    (allowed : CheckWrite check write) : CheckWrite args write := by
  cases allowed with
  | report inner answer => exact .report _ _
  | close inner same sameVersion => exact .close _ (same.trans about) (sameVersion.trans version)
  | start id provider outTradeNo => exact .start _ _ _
  | note id lastError => exact .note _ _
  | drop id lastError => exact .drop _ _

private theorem checkBegun_writes {around : CheckSurroundings}
    (member : write ∈ checkBegun around args) :
    CheckWrite args write := by
  unfold checkBegun at member
  cases begun : around.began with
  | error fault =>
      rw [begun] at member
      dsimp only at member
      by_cases binding : fault = errPaymentNotificationBinding
      · rw [if_pos binding] at member
        exact checkCancel_writes member
      · rw [if_neg binding] at member
        cases member
  | ok proceed =>
      rw [begun] at member
      cases proceed with
      | false => cases member
      | true =>
          dsimp only at member
          cases answered : around.query with
          | error fault =>
              rw [answered] at member
              exact checkRetryable_writes member
          | ok answer =>
              rw [answered] at member
              cases answer with
              | none => exact checkRetryable_writes member
              | some given => exact checkAnswered_writes member

private theorem checkPayWork_writes {around : CheckSurroundings}
    (member : write ∈ checkPayWork around args payment) :
    CheckWrite args write := by
  unfold checkPayWork at member
  have about : (normalizeCheckPayArgs args).paymentID = args.paymentID := by
    rw [normalizeCheckPayArgs]
  have version :
      (normalizeCheckPayArgs args).reconciliationVersion = args.reconciliationVersion := by
    rw [normalizeCheckPayArgs]
  generalize normalizeCheckPayArgs args = check at member about version
  refine CheckWrite.same_subject about version ?_
  dsimp only at member
  by_cases incomplete : check.paymentID ≤ 0 ∨ check.provider = ""
  · rw [if_pos incomplete] at member
    exact checkCancel_writes member
  rw [if_neg incomplete] at member
  by_cases stale : reconciliationJobCurrent check.reconciliationVersion
      payment.reconciliationVersion payment.reconciliationStatus = false
  · rw [if_pos stale] at member
    cases member
  rw [if_neg stale] at member
  cases channel : parsePaymentMethod payment.payChannel with
  | none =>
      rw [channel] at member
      exact checkCancel_writes member
  | some method =>
      rw [channel] at member
      dsimp only at member
      by_cases foreign : method.provider ≠ check.provider
      · rw [if_pos foreign] at member
        exact checkCancel_writes member
      · rw [if_neg foreign] at member
        rcases List.mem_cons.mp member with rfl | rest
        · exact .start _ _ _
        · exact checkBegun_writes rest

/-! ### Landing in a later state -/

/-- A write made for a job, by the worker that read its payment in the earlier
state or by the handler of its exhaustion. -/
inductive JobWrite (seen : Database) : JobArgs → WorkerWrite → Prop
  | close (around : CloseSurroundings) {args : ClosePayArgs} {payment : Payment}
      {write : WorkerWrite} (read : seen.getPayment args.paymentID = some payment)
      (exit : closePayWork around args payment = some write) :
      JobWrite seen (.closePay args) write
  | check (around : CheckSurroundings) {args : CheckPayArgs} {payment : Payment}
      {write : WorkerWrite} (read : seen.getPayment args.paymentID = some payment)
      (exit : write ∈ checkPayWork around args payment) : JobWrite seen (.checkPay args) write
  | exhausted (jobID attempt : Int) (lastError : String) (job : JobArgs) :
      JobWrite seen job (.handleError jobID attempt lastError job)

private theorem next_casesKept {operation : Operation}
    (kept : ∀ after, execute operation db = .ok after → CasesKept db after) :
    CasesKept db (next operation db) := by
  rcases commit_cases (execute operation) db with same | done
  · rw [next, same]
    exact .refl db
  · exact kept _ done

private theorem perform_conclude_casesKept {clock : Clock} {check : CheckPayArgs}
    {payment row : Payment}
    {transaction : String} (stored : db.payments.find? check.paymentID = some row)
    (deal : payment.SameDeal row) (channel : parsePaymentMethod payment.payChannel = some method) :
    CasesKept db (WorkerWrite.perform clock db
      (.conclude check (closedAnswer method payment transaction))) := by
  rw [WorkerWrite.perform]
  cases outcome : applyPayQuery clock check (some (closedAnswer method payment transaction)) db with
  | ok applied =>
      rw [applyPayQueryOrFlag_of_ok outcome]
      exact applyPayQuery_closedAnswer stored deal channel outcome
  | error fault =>
      have other : fault ≠ duplicateTransaction := by
        rintro rfl
        obtain ⟨_, _, _, given, _, _, _, _, same, _, success, _⟩ := applyPayQuery_duplicate outcome
        cases same
        cases success
      rw [applyPayQueryOrFlag_of_error outcome other]
      exact .refl db

private theorem markPayClosePending_casesKept (done : markPayClosePending args db = .ok result) :
    CasesKept db result :=
  .of_entries (markPayClosePending_entries done)

private theorem handleExhausted_stale {jobID attempt paymentID notificationID version : Int}
    {provider lastError : String} {row : Payment}
    (present : db.payments.find? paymentID = some row)
    (stale : reconciliationJobCurrent version row.reconciliationVersion row.reconciliationStatus =
      false)
    (done : handleExhausted jobID attempt paymentID notificationID version provider lastError db =
      .ok result) : CasesKept db result := by
  unfold handleExhausted at done
  obtain ⟨marked, notified, done⟩ := bind_eq_ok.mp done
  have clerical := markPaymentNotificationFailed_clerical notified
  have payments : marked.payments = db.payments := congrArg Journal.payments clerical.journal
  have known : marked.getPayment paymentID = some row := by
    rw [Database.getPayment, payments]
    exact present
  rw [known] at done
  obtain ⟨_, _, done⟩ := bind_eq_ok.mp done
  rw [if_neg (by rw [stale]; decide)] at done
  cases pure_eq_ok.mp done
  exact clerical.casesKept

private theorem handleError_stale {jobID attempt paymentID version : Int} {lastError : String}
    {job : JobArgs} {row : Payment} (subject : job.subject = some (paymentID, version))
    (present : db.payments.find? paymentID = some row)
    (stale : reconciliationJobCurrent version row.reconciliationVersion row.reconciliationStatus =
      false)
    (done : handleError jobID attempt lastError job db = .ok result) : CasesKept db result := by
  unfold handleError at done
  cases job with
  | expireOrder order => cases subject
  | checkPay args =>
      cases subject
      dsimp only at done
      split at done
      · cases done
        exact .refl db
      · exact handleExhausted_stale present stale done
  | closePay args =>
      cases subject
      dsimp only at done
      split at done
      · cases done
        exact .refl db
      · exact handleExhausted_stale present stale done

/-- The unfenced flag always leaves a row of evidence. -/
theorem markReconciliationRequired_adds {failure : FailureInput} {row : Payment}
    (present : db.payments.find? failure.paymentID = some row)
    (jobless : failure.riverJobID = none) (silent : failure.notificationID = 0) :
    (next (.markReconciliationRequired failure) db).failures ≠ db.failures := by
  have flags : ∃ payment flagged, requirePaymentReconciliation failure.paymentID
      (failure.reason.getD .jobExhausted) failure.lastError db = .ok (payment, flagged) := by
    unfold requirePaymentReconciliation
    split
    · next pair => exact ⟨_, _, rfl⟩
    · rw [Database.getPayment, present, found_some]
      exact ⟨_, _, rfl⟩
  obtain ⟨payment, flagged, flag⟩ := flags
  obtain ⟨payments, raised, rfl⟩ := requirePaymentReconciliation_raised flag
  obtain ⟨_, stored, _⟩ := raised.known_after
  have listed : (payments.find? failure.paymentID).isSome = true := by
    rw [stored]
    rfl
  have known : ({ db with payments := payments }.payments.find? failure.paymentID).isSome = true :=
    listed
  obtain ⟨evidence, recorded⟩ := createReconciliationFailure_more failure known jobless
  have done : execute (.markReconciliationRequired failure) db =
      .ok { db with payments := payments, failures := db.failures.insert evidence } := by
    rw [execute, markReconciliationRequired, flag, ok_bind]
    dsimp only
    rw [recorded, ok_bind, markNotificationProcessed, if_pos (by rw [silent])]
  rw [next, commit_of_ok done]
  intro same
  have longer := congrArg (fun table => table.rows.length) same
  simp only [Table.insert, List.length_append, List.length_singleton] at longer
  omega

private theorem reconciliationJobCurrent_stale {version : Int} {row : Payment} (retry : version ≠ 0)
    (stale : ¬ (row.reconciliationStatus = .processing ∧ row.reconciliationVersion = version)) :
    reconciliationJobCurrent version row.reconciliationVersion row.reconciliationStatus =
      false := by
  by_contra current
  rw [Bool.not_eq_false, reconciliationJobCurrent, Bool.or_eq_true, Bool.and_eq_true] at current
  rcases current with zero | ⟨same, processing⟩
  · exact retry (eq_of_beq zero)
  · exact stale ⟨eq_of_beq processing, (eq_of_beq same).symm⟩

/-- What a check worker writes leaves every case alone, reports apart. -/
theorem CheckWrite.casesKept {clock : Clock} (allowed : CheckWrite args write)
    (unreported : write.isReport = false) :
    CasesKept db (write.perform clock db) := by
  cases allowed with
  | report check answer => cases unreported
  | close check about version => exact next_casesKept fun _ done => markPayClosePending_casesKept done
  | start id provider outTradeNo =>
      refine next_casesKept fun after done => ?_
      obtain ⟨⟨proceed, begun⟩, begin, same⟩ := map_eq_ok.mp done
      cases same
      exact (beginPaymentNotificationProcessing_clerical begin).casesKept
  | note id lastError =>
      refine next_casesKept fun after done => ?_
      cases done
      exact (recordPaymentNotificationError_clerical id lastError db).casesKept
  | drop id lastError =>
      exact next_casesKept fun _ done => (markPaymentNotificationFailed_clerical done).casesKept

private theorem JobWrite.unfenced_iff {seen : Database} {job : JobArgs}
    (made : JobWrite seen job write) {paymentID version : Int}
    (subject : job.subject = some (paymentID, version)) (retry : version ≠ 0) :
    write.isUnfenced = true ↔ ∃ around args payment, job = .closePay args ∧
      seen.getPayment args.paymentID = some payment ∧
      closePayWork around args payment = some write ∧ around.AbsenceUnproven payment := by
  constructor
  · intro unfenced
    cases made with
    | @close around args payment write read exit =>
        cases subject
        exact ⟨around, args, payment, rfl, read, exit,
          (closePayWork_unfenced_iff retry exit).mp unfenced⟩
    | check around read exit =>
        cases checkPayWork_writes exit <;> cases unfenced
    | exhausted jobID attempt lastError => cases unfenced
  · rintro ⟨around, args, payment, rfl, _, exit, unproven⟩
    cases subject
    exact (closePayWork_unfenced_iff retry exit).mpr unproven

/-- A write made for a manual retry that is out of date leaves every case alone, or
applies a state that the provider reported, exactly when it is not the flag of the
close worker.  The worker writes this flag exactly when the provider does not know the
trade and its absence is not proven. -/
theorem stale_retry_fenced {seen : Database} (reached : Reached seen) {job : JobArgs}
    {write : WorkerWrite} (made : JobWrite seen job write) {paymentID version : Int}
    (subject : job.subject = some (paymentID, version)) (retry : version ≠ 0)
    (history : List Operation) (clock : Clock) {row : Payment}
    (present : (run next seen history).payments.find? paymentID = some row)
    (stale : ¬ (row.reconciliationStatus = .processing ∧ row.reconciliationVersion = version)) :
    ((write.isReport = true ∨
      CasesKept (run next seen history) (write.perform clock (run next seen history))) ↔
      write.isUnfenced = false) ∧
    (write.isUnfenced = true ↔ ∃ around args payment, job = .closePay args ∧
      seen.getPayment args.paymentID = some payment ∧
      closePayWork around args payment = some write ∧ around.AbsenceUnproven payment) := by
  have outdated := reconciliationJobCurrent_stale retry stale
  refine ⟨?_, ?_⟩
  · cases made with
    | @close around args payment write read exit =>
        cases subject
        obtain ⟨method, channel, allowed⟩ := closePayWork_write exit
        have key : payment.id = args.paymentID := Table.key_of_find? read
        obtain ⟨later, found, deal⟩ := run_sameDeal reached history read
        cases allowed with
        | report check answer => exact ⟨fun _ => rfl, fun _ => Or.inl rfl⟩
        | conclude check transaction about =>
            refine ⟨fun _ => rfl, fun _ => Or.inr ?_⟩
            refine perform_conclude_casesKept ?_ deal channel
            rw [about, key]
            exact found
        | flag failure about jobless silent =>
            -- the flag looks at no version, so its evidence is added all the same
            refine ⟨?_, nofun⟩
            rintro (reported | kept)
            · cases reported
            · rw [← key, ← about] at present
              exact absurd kept.failures (markReconciliationRequired_adds present jobless silent)
    | @check around args payment write read exit =>
        have allowed := checkPayWork_writes exit
        have fenced : write.isUnfenced = false := by
          cases allowed <;> rfl
        refine ⟨fun _ => fenced, fun _ => ?_⟩
        cases reported : write.isReport with
        | true => exact Or.inl rfl
        | false => exact Or.inr (allowed.casesKept reported)
    | exhausted jobID attempt lastError =>
        exact ⟨fun _ => rfl, fun _ => Or.inr (next_casesKept fun _ done =>
          handleError_stale subject present outdated done)⟩
  · exact made.unfenced_iff subject retry

/-! ### A retry that loses to the admin -/

def checkWechatTea : CheckPayArgs :=
  { checkTeaPayment 1 with provider := "wechat" }

def absentTea : FailureInput :=
  { paymentID := 1
    notificationID := 0
    provider := "wechat"
    reason := some .providerOrderNotExist
    riverJobID := none
    attempt := 1
    lastError := absenceText }

/-- The order expires after one prepay attempt, the provider knows no such trade,
and the admin asks for another try. -/
def retriedHistory : List Operation :=
  [orderTea "ORD1" "order-key-1" 2,
    .createPayment
      { orderID := 1
        userID := 1
        merchantID := 1
        amount := 200
        currency := "CNY"
        method := "wechat:native"
        outTradeNo := "PAY1" } 1,
    .claimPaymentPrepay { database := 1, process := 1 } 1 "lease-1" 30,
    .expireOrder 1800000000000 1,
    .markReconciliationRequired absentTea,
    .applyReconciliation 1860000000000 shopAdmin
      { resolveTea with action := .retry, idempotencyKey := "retry-key-1" }]

def retriedShop : Database :=
  run next smallShop retriedHistory

private theorem retriedShop_reached : Reached retriedShop :=
  ⟨smallShop, retriedHistory, smallShop_initial, rfl⟩

def retryClose : ClosePayArgs :=
  { reconciliationVersion := 2
    paymentID := 1
    provider := "wechat"
    reason := "manual_reconciliation" }

/-- While the job waits for the provider, another check learns of the closure and
the admin resolves the case. -/
def resolvedMeanwhile : List Operation :=
  [.applyPayQuery { database := 1870000000000, process := 1870000000000 } checkWechatTea
      (some { teaAnswer "PAY1" "" .closed 200 with
        method := { provider := "wechat", product := "native" } }),
    .applyReconciliation 1880000000000 shopAdmin { resolveTea with expectedVersion := 2 }]

private theorem resolvedMeanwhile_case :
    ((run next retriedShop resolvedMeanwhile).payments.find? 1).map (fun payment =>
      (payment.reconciliationStatus, payment.reconciliationVersion)) = some (.resolved, 3) := by
  decide +kernel

/-- The answer to the retry reopens the case that the admin resolved. -/
theorem stale_retry_reopens :
    Reached retriedShop ∧
      (retriedShop.jobs.find? 3).map (fun job => job.args) = some (.closePay retryClose) ∧
      ∃ write, JobWrite retriedShop (.closePay retryClose) write ∧ write.isReport = false ∧
        ((write.perform { database := 0, process := 0 }
          (run next retriedShop resolvedMeanwhile)).payments.find? 1).map (fun payment =>
            (payment.reconciliationStatus, payment.reconciliationVersion)) = some (.required, 4) ∧
        (write.perform { database := 0, process := 0 }
          (run next retriedShop resolvedMeanwhile)).failures.rows.length =
            (run next retriedShop resolvedMeanwhile).failures.rows.length + 1 := by
  refine ⟨retriedShop_reached, by decide +kernel, ?_⟩
  have outcome : ((retriedShop.getPayment 1).bind (closePayWork absentTrade retryClose)).map
      (fun write =>
        (write.isReport,
          ((write.perform { database := 0, process := 0 }
            (run next retriedShop resolvedMeanwhile)).payments.find? 1).map (fun payment =>
              (payment.reconciliationStatus, payment.reconciliationVersion)),
          (write.perform { database := 0, process := 0 }
            (run next retriedShop resolvedMeanwhile)).failures.rows.length)) =
      some (false, some (.required, 4),
        (run next retriedShop resolvedMeanwhile).failures.rows.length + 1) := by
    decide +kernel
  obtain ⟨write, decided, facts⟩ := Option.map_eq_some_iff.mp outcome
  obtain ⟨payment, read, exit⟩ := Option.bind_eq_some_iff.mp decided
  obtain ⟨unreported, facts⟩ := Prod.mk.inj facts
  obtain ⟨reopened, added⟩ := Prod.mk.inj facts
  exact ⟨write, .close absentTrade read exit, unreported, reopened, added⟩

/-- When the same job is used up instead, its handler finds it out of date. -/
theorem stale_retry_fenced_retriedShop :
    CasesKept (run next retriedShop resolvedMeanwhile)
      (next (.handleError 3 25 "query timed out" (.closePay retryClose))
        (run next retriedShop resolvedMeanwhile)) := by
  obtain ⟨payment, present, case⟩ := Option.map_eq_some_iff.mp resolvedMeanwhile_case
  obtain ⟨status, version⟩ := Prod.mk.inj case
  have stale : ¬ (payment.reconciliationStatus = .processing ∧
      payment.reconciliationVersion = 2) := by
    rw [status]
    exact fun current => nomatch current.1
  have fenced := (stale_retry_fenced retriedShop_reached
    (.exhausted 3 25 "query timed out" (.closePay retryClose)) rfl (by decide) resolvedMeanwhile
    { database := 0, process := 0 } present stale).1.mpr rfl
  rcases fenced with reported | kept
  · cases reported
  · exact kept

end Mall
