/-
A payment in review carries unresolved evidence, as long as no discarded job comes
back to evidence that was resolved.
-/

import Mall.Guarantees.Review

namespace Mall

open Relational Transactional

variable {citation : Citation} {db result : Database}

/-! ### Unresolved evidence -/

def OpenEvidence (failures : Table ReconciliationFailure) (payment : Int) : Prop :=
  ∃ failure ∈ failures.rows, failure.paymentId = payment ∧ failure.resolvedAt = none

instance (failures : Table ReconciliationFailure) (payment : Int) :
    Decidable (OpenEvidence failures payment) :=
  inferInstanceAs (Decidable (∃ failure ∈ failures.rows, _))

def ReconciliationFailure.SameCharge (failure later : ReconciliationFailure) : Prop :=
  later.paymentId = failure.paymentId ∧ later.resolvedAt = failure.resolvedAt

private theorem Evidenced.evolves {evidence : ReconciliationFailure}
    {failures recorded : Table ReconciliationFailure}
    (evidenced : Evidenced evidence failures recorded) :
    Table.Evolves ReconciliationFailure.SameCharge (fun _ => True) failures recorded := by
  cases evidenced with
  | added first => exact .insert (fun _ => ⟨rfl, rfl⟩) trivial
  | refreshed job existing about member same =>
      exact .update (fun _ => ⟨rfl, rfl⟩) (Table.find?_key member) rfl ⟨rfl, rfl⟩

private theorem OpenEvidence.evolves {failures recorded : Table ReconciliationFailure}
    {payment : Int}
    {fresh : ReconciliationFailure → Prop} (evidence : OpenEvidence failures payment)
    (evolves : Table.Evolves ReconciliationFailure.SameCharge fresh failures recorded) :
    OpenEvidence recorded payment := by
  obtain ⟨failure, member, about, unresolved⟩ := evidence
  obtain ⟨later, found, samePayment, sameStamp⟩ := evolves.kept (Table.find?_key member)
  exact ⟨later, Table.mem_of_find? found, samePayment.trans about, sameStamp.trans unresolved⟩

private theorem Evidenced.opens {evidence : ReconciliationFailure} {payment : Int}
    {failures recorded : Table ReconciliationFailure}
    (evidenced : Evidenced evidence failures recorded) (about : evidence.paymentId = payment)
    (unresolved : evidence.resolvedAt = none)
    (supported : ∀ job, evidence.riverJobId = some job →
      (∀ failure ∈ failures, failure.riverJobId ≠ some job) ∨ OpenEvidence failures payment) :
    OpenEvidence recorded payment := by
  cases evidenced with
  | added first =>
      exact ⟨failures.inserted evidence, Table.mem_insert.mpr (Or.inr rfl), about, unresolved⟩
  | refreshed job existing named member same =>
      rcases supported job named with unused | evidence
      · exact absurd same (unused existing member)
      · exact evidence.evolves (Evidenced.refreshed job existing named member same).evolves

private theorem Evidenced.not_opens {evidence : ReconciliationFailure} {payment job : Int}
    {failures recorded : Table ReconciliationFailure}
    (evidenced : Evidenced evidence failures recorded) (named : evidence.riverJobId = some job)
    (used : ∃ failure ∈ failures, failure.riverJobId = some job)
    (resolved : ¬ OpenEvidence failures payment) : ¬ OpenEvidence recorded payment := by
  obtain ⟨old, oldMember, oldJob⟩ := used
  cases evidenced with
  | added first => exact absurd oldJob (first job named old oldMember)
  | refreshed other existing about member same =>
      rintro ⟨later, listed, charged, unresolved⟩
      have evolves : Table.Evolves ReconciliationFailure.SameCharge (fun _ => False) failures
          (failures.update existing.id evidence.refreshed) :=
        .update (fun _ => ⟨rfl, rfl⟩) (Table.find?_key member) rfl ⟨rfl, rfl⟩
      rcases evolves.origin (Table.find?_key listed) with ⟨row, found, samePayment, sameStamp⟩ | new
      · exact resolved ⟨row, Table.mem_of_find? found, samePayment.symm.trans charged,
          sameStamp.symm.trans unresolved⟩
      · exact new.2

/-! ### Cases -/

/-- Every payment in review has unresolved evidence against it. -/
def CasesOpen (journal : Journal) : Prop :=
  ∀ id payment, journal.payments.find? id = some payment → payment.needsReview = true →
    OpenEvidence journal.failures id

private theorem Payment.SameCase.needsReview_eq {payment later : Payment}
    (same : payment.SameCase later) :
    later.needsReview = payment.needsReview := by
  rw [Payment.needsReview, Payment.needsReview, same.status]

/-- Rows come into review only where evidence is open. -/
theorem CasesOpen.step {before after : Journal} {step : Payment → Payment → Prop}
    {fresh : Payment → Prop} (cases : CasesOpen before)
    (kept : ∀ id, OpenEvidence before.failures id → OpenEvidence after.failures id)
    (evolves : Table.Evolves step fresh before.payments after.payments)
    (entered : ∀ {payment later}, step payment later → later.needsReview = true →
      payment.needsReview = true ∨ OpenEvidence after.failures later.id)
    (unreviewed : ∀ {payment}, fresh payment → payment.needsReview = false) :
    CasesOpen after := by
  intro id later present review
  rcases evolves.origin present with ⟨payment, found, moved⟩ | ⟨_, new⟩
  · rcases entered moved review with earlier | evidence
    · exact kept id (cases id payment found earlier)
    · have key : later.id = id := Table.key_of_find? present
      rw [key] at evidence
      exact evidence
  · rw [unreviewed new] at review
    cases review

private theorem CasesOpen.entries {before after : Journal} (cases : CasesOpen before)
    (path : Entries before after) : CasesOpen after := by
  refine cases.step ?_ path.payments ?_ (fun impossible => impossible.elim)
  · intro id evidence
    rw [path.sameAudit.failures]
    exact evidence
  · intro payment later edits review
    rw [edits.sameCase.needsReview_eq] at review
    exact Or.inl review

private theorem Raised.target {id : Int} {reason : ReconciliationReason} {detail : Option String}
    {payments flagged : Table Payment} (raised : Raised id reason detail payments flagged) :
    Table.Evolves (fun payment later => later = payment ∨ later.id = id) (fun _ => False) payments
      flagged := by
  cases raised with
  | news row present news =>
      have key : row.id = id := Table.key_of_find? present
      exact .update (fun _ => Or.inl rfl) present rfl (Or.inr key)
  | known row present known => exact .refl (fun _ => Or.inl rfl)

/-- The condition that a cited job must meet: its number is new, or the case it
belongs to is open anyway. -/
def Supported (citation : Citation) (failures : Table ReconciliationFailure) : Prop :=
  match citation with
  | none => True
  | some (job, payment) =>
      (∀ failure ∈ failures.rows, failure.riverJobId ≠ some job) ∨ OpenEvidence failures payment

instance (failures : Table ReconciliationFailure) :
    (citation : Citation) → Decidable (Supported citation failures)
  | none => isTrue trivial
  | some (_, payment) => inferInstanceAs (Decidable (_ ∨ OpenEvidence failures payment))

private theorem CasesOpen.turn {before after : Journal} (cases : CasesOpen before)
    (supported : Supported citation before.failures) (turn : Turn citation before after) :
    CasesOpen after := by
  cases turn with
  | openPayment row order blank owner payable user amount currency fresh =>
      have opened : Table.Evolves (fun payment later => later = payment)
          (fun payment => payment.needsReview = false) before.payments
          (before.payments.insert row) := by
        refine .insert (fun _ => rfl) ?_
        change reconciliationNeedsReview row.reconciliationStatus = false
        rw [blank.reconciliationStatus]
        rfl
      refine cases.step (fun _ evidence => evidence) opened ?_ id
      rintro payment later rfl review
      exact Or.inl review
  | place row items pending unfunded fresh kept added => exact cases
  | release id row present pending => exact cases
  | heal id payment row present pending => exact cases
  | settle id row now transaction orders payments failures present unsettled named fresh funds
      review =>
      have received : Table.Evolves Payment.SameCase (fun _ => False) before.payments
          (before.payments.update id (Payment.settled now transaction)) :=
        .update (fun _ => ⟨rfl, rfl, rfl, rfl⟩) present rfl ⟨rfl, rfl, rfl, rfl⟩
      have settled : CasesOpen { before with
          payments := before.payments.update id (Payment.settled now transaction) } := by
        refine cases.step (fun _ evidence => evidence) received ?_
          (fun impossible => impossible.elim)
        intro payment later same review
        rw [same.needsReview_eq] at review
        exact Or.inl review
      rcases review with ⟨rfl, rfl⟩ | ⟨reason, detail, evidence, raised, about, unresolved, jobless,
        evidenced⟩
      · exact settled
      · refine settled.step (fun _ old => old.evolves evidenced.evolves) raised.target ?_
          (fun impossible => impossible.elim)
        rintro payment later (rfl | rfl) review
        · exact Or.inl review
        · refine Or.inr (evidenced.opens about unresolved ?_)
          intro job cited
          rw [jobless] at cited
          cases cited
  | flag id reason detail evidence payments failures raised about unresolved cited evidenced =>
      refine cases.step (fun _ old => old.evolves evidenced.evolves) raised.target ?_
        (fun impossible => impossible.elim)
      rintro payment later (rfl | rfl) review
      · exact Or.inl review
      · refine Or.inr (evidenced.opens about unresolved ?_)
        intro job carries
        rw [cited job carries] at supported
        exact supported
  | refund id row orders refunds present received reversed =>
      have refunded : Table.Evolves Payment.SameCase (fun _ => False) before.payments
          (before.payments.update id (fun payment => { payment with status := .refunded })) :=
        .update (fun _ => ⟨rfl, rfl, rfl, rfl⟩) present rfl ⟨rfl, rfl, rfl, rfl⟩
      refine cases.step (fun _ evidence => evidence) refunded ?_ (fun impossible => impossible.elim)
      intro payment later same review
      rw [same.needsReview_eq] at review
      exact Or.inl review

private theorem OpenEvidence.closedFor {failures : Table ReconciliationFailure}
    {payment other : Int}
    {now : Time} (evidence : OpenEvidence failures other) (elsewhere : other ≠ payment) :
    OpenEvidence (failures.rewrite (ReconciliationFailure.closedFor payment now)) other := by
  obtain ⟨failure, member, about, unresolved⟩ := evidence
  have untouched : failure.closedFor payment now = failure := by
    rw [ReconciliationFailure.closedFor, if_neg]
    rintro ⟨same, _⟩
    exact elsewhere (about.symm.trans same)
  have keeps : ∀ row : ReconciliationFailure, (row.closedFor payment now).id = row.id := by
    intro row
    rw [ReconciliationFailure.closedFor]
    split <;> rfl
  have evolves : Table.Evolves (fun row later => later = row.closedFor payment now)
      (fun _ => False) failures (failures.rewrite (ReconciliationFailure.closedFor payment now)) :=
    .rewrite keeps (fun _ => rfl)
  obtain ⟨later, found, rfl⟩ := evolves.kept (Table.find?_key member)
  exact ⟨_, Table.mem_of_find? found, by rw [untouched]; exact about,
    by rw [untouched]; exact unresolved⟩

private theorem CasesOpen.audited {before after : Journal} (cases : CasesOpen before)
    (audited : Audited before after) : CasesOpen after := by
  cases audited with
  | retry action row audits kind required toStatus =>
      have retried : Table.Evolves (fun payment later => later = payment ∨
          payment.needsReview = true) (fun _ => False) before.payments
          (before.payments.update action.paymentId (Payment.reviewed .processing)) := by
        refine .update (fun _ => Or.inl rfl) audits.present rfl (Or.inr ?_)
        rw [Payment.needsReview, required]
        rfl
      refine cases.step (fun _ evidence => evidence) retried ?_ (fun impossible => impossible.elim)
      rintro payment later (rfl | earlier) review
      · exact Or.inl review
      · exact Or.inl earlier
  | resolve action row now audits kind review toStatus =>
      intro id later present underReview
      have lookup := before.payments.find?_update (Payment.reviewed .resolved) audits.present
      change (before.payments.update action.paymentId (Payment.reviewed .resolved)).find? id =
        some later at present
      rw [lookup] at present
      rcases update_eq_some present with ⟨_, rfl⟩ | ⟨elsewhere, unchanged⟩
      · cases underReview
      · exact (cases id later unchanged underReview).closedFor elsewhere
  | fulfil action order funding audits => exact cases

private theorem CasesOpen.booked {before after : Journal} (cases : CasesOpen before)
    (supported : Supported citation before.failures) (booked : Booked citation before after) :
    CasesOpen after := by
  cases booked with
  | entries path => exact cases.entries path
  | turned path turn =>
      refine (cases.entries path).turn ?_ turn
      rw [path.sameAudit.failures]
      exact supported
  | audited audited => exact cases.audited audited

/-! ### Both directions -/

def Database.CasesEvidenced (db : Database) : Prop :=
  ∀ payment ∈ db.payments,
    (payment.reconciliationStatus = .required ∨ payment.reconciliationStatus = .processing) ↔
      ∃ failure ∈ db.failures, failure.paymentId = payment.id ∧ failure.resolvedAt = none

private theorem Database.Valid.openEvidence_reviewed (valid : db.Valid) {payment : Payment}
    (member : payment ∈ db.payments) (evidence : OpenEvidence db.failures payment.id) :
    payment.needsReview = true := by
  obtain ⟨failure, recorded, about, unresolved⟩ := evidence
  have listed : failure ∈ db.failures := recorded
  have finding := Database.ledger_finding (Table.find?_key listed)
  have charged : db.ledger.payments payment.id = some payment.charge :=
    Database.ledger_payment (Table.find?_key member)
  have still : failure.finding.unresolved = true := by
    rw [ReconciliationFailure.finding]
    exact Option.isNone_iff_eq_none.mpr unresolved
  obtain ⟨charge, found, review⟩ := valid.sound.evidence _ _ finding still
  have same : failure.finding.payment = payment.id := about
  rw [same, charged] at found
  cases found
  exact review

private theorem Database.Valid.casesEvidenced_iff (valid : db.Valid) :
    db.CasesEvidenced ↔ CasesOpen db.journal := by
  constructor
  · intro evidenced id payment present review
    have key : payment.id = id := Table.key_of_find? present
    rw [← key]
    exact (evidenced payment (Table.mem_of_find? present)).mp (Payment.needsReview_iff.mp review)
  · intro cases payment member
    rw [← Payment.needsReview_iff]
    exact ⟨cases payment.id payment (Table.find?_key member), valid.openEvidence_reviewed member⟩

/-! ### Cited jobs -/

structure Flags (db result : Database) (job id : Int) : Prop where
  raised : ∃ reason detail, Raised id reason detail db.payments result.payments
  evidenced : ∃ evidence : ReconciliationFailure, evidence.riverJobId = some job ∧
    Evidenced evidence db.failures result.failures

private theorem flag_flags {id job : Int} {reason : ReconciliationReason} {detail : String}
    {payment : Payment} {flagged : Database} {row : ReconciliationFailure}
    (flag : requirePaymentReconciliation id reason detail db = .ok (payment, flagged))
    (named : row.riverJobId = some job)
    (evidence : flagged.createPaymentReconciliationFailure row = .ok result) :
    Flags db result job id := by
  obtain ⟨payments, raised, rfl⟩ := requirePaymentReconciliation_raised flag
  obtain ⟨failures, evidenced, rfl⟩ := createPaymentReconciliationFailure_evidenced evidence
  exact ⟨⟨reason, nullable detail, raised⟩, row, named, evidenced⟩

private theorem Flags.of_journal {earlier later : Database} {job id : Int}
    (flags : Flags db result job id)
    (before : earlier.journal = db.journal) (after : later.journal = result.journal) :
    Flags earlier later job id := by
  have payments : earlier.payments = db.payments := congrArg Journal.payments before
  have failures : earlier.failures = db.failures := congrArg Journal.failures before
  have laterPayments : later.payments = result.payments := congrArg Journal.payments after
  have laterFailures : later.failures = result.failures := congrArg Journal.failures after
  obtain ⟨raised, evidenced⟩ := flags
  rw [← payments, ← laterPayments] at raised
  rw [← failures, ← laterFailures] at evidenced
  exact ⟨raised, evidenced⟩

private theorem handleExhausted_flags {jobID attempt paymentID notificationID version : Int}
    {provider lastError : String} {row : Payment}
    (present : db.payments.find? paymentID = some row)
    (current : reconciliationJobCurrent version row.reconciliationVersion
      row.reconciliationStatus = true)
    (done : handleExhausted jobID attempt paymentID notificationID version provider lastError db =
      .ok result) : Flags db result jobID paymentID := by
  unfold handleExhausted at done
  obtain ⟨marked, notified, done⟩ := bind_eq_ok.mp done
  have same := (markPaymentNotificationFailed_clerical notified).journal
  have payments : marked.payments = db.payments := congrArg Journal.payments same
  have known : marked.getPayment paymentID = some row := by
    rw [Database.getPayment, payments]
    exact present
  rw [known] at done
  obtain ⟨_, _, done⟩ := bind_eq_ok.mp done
  rw [if_pos current] at done
  obtain ⟨⟨_, flagged⟩, flag, done⟩ := bind_eq_ok.mp done
  exact (flag_flags flag rfl done).of_journal same.symm rfl

private theorem handleError_flags {jobID attempt job id : Int} {lastError : String} {args : JobArgs}
    (cites : Operation.cites db (.handleError jobID attempt lastError args) = some (job, id))
    (done : handleError jobID attempt lastError args db = .ok result) : Flags db result job id := by
  rw [Operation.cites] at cites
  split at cites
  · cases cites
  · next paymentID version subject =>
    split at cites
    · cases cites
    · next positive =>
      split at cites
      · cases cites
      · next row present =>
        split at cites
        · next current =>
          cases cites
          cases args with
          | checkPay args =>
              cases subject
              rw [handleError, if_neg positive] at done
              exact handleExhausted_flags present current done
          | closePay args =>
              cases subject
              rw [handleError, if_neg positive] at done
              exact handleExhausted_flags present current done
          | expireOrder order => cases subject
        · cases cites

private theorem markReconciliationRequired_flags {failure : FailureInput} {job id : Int}
    (cites : Operation.cites db (.markReconciliationRequired failure) = some (job, id))
    (done : markReconciliationRequired failure db = .ok result) : Flags db result job id := by
  obtain ⟨named, carries, same⟩ := Option.map_eq_some_iff.mp cites
  cases same
  unfold markReconciliationRequired at done
  obtain ⟨⟨_, flagged⟩, flag, done⟩ := bind_eq_ok.mp done
  obtain ⟨recorded, evidence, done⟩ := bind_eq_ok.mp done
  exact (flag_flags flag carries evidence).of_journal rfl
    (markNotificationProcessed_clerical done).journal

private theorem execute_flags {operation : Operation} {job id : Int}
    (cites : operation.cites db = some (job, id)) (done : execute operation db = .ok result) :
    Flags db result job id := by
  cases operation with
  | handleError jobID attempt lastError args => exact handleError_flags cites done
  | markReconciliationRequired failure => exact markReconciliationRequired_flags cites done
  | _ => cases cites

/-- A flag on resolved evidence leaves a case that nothing supports. -/
theorem Flags.unsupported {job id : Int} (flags : Flags db result job id)
    (broken : ¬ Supported (some (job, id)) db.failures) : ¬ CasesOpen result.journal := by
  obtain ⟨⟨reason, detail, raised⟩, evidence, named, evidenced⟩ := flags
  obtain ⟨used, resolved⟩ := not_or.mp broken
  obtain ⟨payment, present, required, _⟩ := raised.known_after
  have reused : ∃ failure ∈ db.failures, failure.riverJobId = some job := by
    by_contra unused
    exact used fun failure member same => unused ⟨failure, member, same⟩
  intro cases
  refine evidenced.not_opens named reused resolved (cases id payment present ?_)
  exact Payment.needsReview_iff.mpr (Or.inl required)

/-! ### Runs -/

/-- What a step must not do: bring back a job whose evidence was resolved, to a
payment that no other evidence is open against. -/
def Operation.KeepsEvidence (operation : Operation) (db : Database) : Prop :=
  Supported (operation.cites db) db.failures

instance (operation : Operation) (db : Database) : Decidable (operation.KeepsEvidence db) :=
  inferInstanceAs (Decidable (Supported _ _))

private theorem CasesOpen.next {operation : Operation} (reached : Reached db)
    (cases : CasesOpen db.journal) (keeps : operation.KeepsEvidence db) :
    CasesOpen (next operation db).journal :=
  cases.booked keeps (next_booked operation reached.valid.sound)

private theorem Initial.casesOpen {start : Database} (initial : Initial start) :
    CasesOpen start.journal := by
  intro id payment present
  have none : start.payments.find? id = Option.none := Table.find?_of_empty initial.noPayments id
  change start.payments.find? id = some payment at present
  rw [none] at present
  cases present

/-- Cases and evidence agree along every run whose steps keep the evidence, and a
step that commits keeps them in agreement under that condition only. -/
theorem open_cases_evidenced (start : Database) (history : List Operation) :
    (Initial start → Throughout Operation.KeepsEvidence next start history →
      (run next start history).CasesEvidenced) ∧
    ∀ db operation result, Reached db → db.CasesEvidenced → execute operation db = .ok result →
      (result.CasesEvidenced ↔ operation.KeepsEvidence db) := by
  constructor
  · intro initial keeps
    have step : ∀ db operation, Operation.KeepsEvidence operation db →
        Reached db ∧ CasesOpen db.journal →
        Reached (next operation db) ∧ CasesOpen (next operation db).journal :=
      fun db operation keeps ⟨reached, cases⟩ => ⟨reached.step operation, cases.next reached keeps⟩
    obtain ⟨reached, cases⟩ := keeps.invariant step ⟨.start initial, initial.casesOpen⟩
    exact (Reached.valid reached).casesEvidenced_iff.mpr cases
  · intro db operation result reached evidenced done
    have committed : next operation db = result := commit_of_ok done
    have after : Reached result := committed ▸ reached.step operation
    have cases := reached.valid.casesEvidenced_iff.mp evidenced
    rw [after.valid.casesEvidenced_iff]
    constructor
    · intro still
      by_contra broken
      cases cited : operation.cites db with
      | none =>
          rw [Operation.KeepsEvidence, cited] at broken
          exact broken trivial
      | some pair =>
          rw [Operation.KeepsEvidence, cited] at broken
          exact (execute_flags cited done).unsupported broken still
    · intro keeps
      exact committed ▸ cases.next reached keeps

/-- The check of the tea's payment is queued as job 2, used up, and its case is
resolved. -/
def resolvedExhaustion : List Operation :=
  [.enqueueJob (.checkPay (checkTeaPayment 1)) none,
    .handleError 2 25 "query timed out" (.checkPay (checkTeaPayment 1)),
    .applyReconciliation 3 shopAdmin resolveTea]

/-- The same job is used up once more: the payment is under review again and its
only evidence is still marked as resolved. -/
theorem exhausted_again_unsupported :
    Reached (run next paidShop resolvedExhaustion) ∧
      ((run next paidShop resolvedExhaustion).jobs.find? 2).map (fun job => job.args) =
        some (.checkPay (checkTeaPayment 1)) ∧
      ¬ (next (.handleError 2 25 "query timed out" (.checkPay (checkTeaPayment 1)))
        (run next paidShop resolvedExhaustion)).CasesEvidenced := by
  refine ⟨paidShop_reached.run _, by decide +kernel, ?_⟩
  intro evidenced
  have required : ((next (.handleError 2 25 "query timed out" (.checkPay (checkTeaPayment 1)))
      (run next paidShop resolvedExhaustion)).payments.find? 1).map
        Payment.reconciliationStatus = some .required := by
    decide +kernel
  have resolved : ¬ OpenEvidence (next (.handleError 2 25 "query timed out"
      (.checkPay (checkTeaPayment 1))) (run next paidShop resolvedExhaustion)).failures 1 := by
    decide +kernel
  obtain ⟨payment, present, status⟩ := Option.map_eq_some_iff.mp required
  have key : payment.id = 1 := Table.key_of_find? present
  have evidence := (evidenced payment (Table.mem_of_find? present)).mp (Or.inl status)
  rw [key] at evidence
  exact resolved evidence

/-- A first exhaustion keeps the evidence, the resolution after it too. -/
theorem open_cases_evidenced_paidShop :
    Throughout Operation.KeepsEvidence next smallShop (paidHistory ++ resolvedExhaustion) ∧
      (run next smallShop (paidHistory ++ resolvedExhaustion)).CasesEvidenced := by
  have keeps : Throughout Operation.KeepsEvidence next smallShop
      (paidHistory ++ resolvedExhaustion) := by
    decide +kernel
  exact ⟨keeps, (open_cases_evidenced smallShop _).1 smallShop_initial keeps⟩

end Mall
