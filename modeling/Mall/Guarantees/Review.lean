/-
Manual reconciliation is a linear, audited history.
-/

import Mall.Guarantees.Funding
import Mall.Guarantees.Shipping

namespace Mall

open Relational Transactional

variable {citation : Citation} {db result : Database} {action : ReconciliationAction}
  {input : ReconciliationInput}

/-! ### Versions -/

structure Payment.SameCase (payment later : Payment) : Prop where
  status : later.reconciliationStatus = payment.reconciliationStatus
  version : later.reconciliationVersion = payment.reconciliationVersion
  reason : later.reconciliationReason = payment.reconciliationReason
  detail : later.reconciliationDetail = payment.reconciliationDetail

/-- The case took one step: the version is the next one, and something about the
case is different. -/
structure Payment.NextCase (payment later : Payment) : Prop where
  version : later.reconciliationVersion = payment.reconciliationVersion + 1
  opened : later.reconciliationStatus ≠ .none
  news : ¬ (later.reconciliationStatus = payment.reconciliationStatus ∧
    later.reconciliationReason = payment.reconciliationReason ∧
    later.reconciliationDetail = payment.reconciliationDetail)

theorem Payment.Edits.sameCase {payment later : Payment} (edits : payment.Edits later) :
    payment.SameCase later := by
  induction edits with
  | refl => exact ⟨rfl, rfl, rfl, rfl⟩
  | tail _ edit ih =>
      obtain ⟨status, version, reason, detail⟩ := ih
      cases edit <;> exact ⟨status, version, reason, detail⟩

private theorem Payment.Turn.caseStep {payment later : Payment} (turn : payment.Turn later) :
    payment.SameCase later ∨ payment.NextCase later := by
  cases turn with
  | still => exact Or.inl ⟨rfl, rfl, rfl, rfl⟩
  | settle now transaction unsettled => exact Or.inl ⟨rfl, rfl, rfl, rfl⟩
  | refund received => exact Or.inl ⟨rfl, rfl, rfl, rfl⟩
  | flag reason detail news =>
      refine Or.inr ⟨rfl, nofun, ?_⟩
      rintro ⟨status, sameReason, sameDetail⟩
      exact news ⟨status.symm, sameReason.symm, sameDetail.symm⟩
  | settleFlagged now transaction reason detail unsettled news =>
      refine Or.inr ⟨rfl, nofun, ?_⟩
      rintro ⟨status, sameReason, sameDetail⟩
      exact news ⟨status.symm, sameReason.symm, sameDetail.symm⟩
  | retry required =>
      refine Or.inr ⟨rfl, nofun, ?_⟩
      rintro ⟨status, _⟩
      rw [required] at status
      cases status
  | resolve review =>
      refine Or.inr ⟨rfl, nofun, ?_⟩
      rintro ⟨status, _⟩
      rw [Payment.needsReview, ← status] at review
      cases review

private theorem Payment.Booked.caseStep {payment later : Payment} (booked : payment.Booked later) :
    payment.SameCase later ∨ payment.NextCase later := by
  obtain ⟨middle, edits, turn⟩ := booked
  obtain ⟨status, version, reason, detail⟩ := edits.sameCase
  rcases turn.caseStep with same | next
  · exact Or.inl ⟨same.status.trans status, same.version.trans version, same.reason.trans reason,
      same.detail.trans detail⟩
  · refine Or.inr ⟨by rw [next.version, version], next.opened, ?_⟩
    rw [← status, ← reason, ← detail]
    exact next.news

/-- Version zero is the version of a case that was never opened. -/
structure Payment.Versioned (payment : Payment) : Prop where
  nonnegative : 0 ≤ payment.reconciliationVersion
  zero : payment.reconciliationVersion = 0 ↔ payment.reconciliationStatus = .none

private theorem Payment.Versioned.booked {payment later : Payment} (versioned : payment.Versioned)
    (booked : payment.Booked later) : later.Versioned := by
  rcases booked.caseStep with same | next
  · refine ⟨same.version ▸ versioned.nonnegative, ?_⟩
    rw [same.version, same.status]
    exact versioned.zero
  · have nonnegative := versioned.nonnegative
    have version := next.version
    refine ⟨by omega, ⟨fun zero => ?_, fun none => absurd none next.opened⟩⟩
    omega

private theorem Reached.versioned (reached : Reached db) :
    ∀ {id payment}, db.payments.find? id = some payment → payment.Versioned := by
  refine Reachable.invariant (motive := fun db => ∀ {id payment},
    db.payments.find? id = some payment → payment.Versioned) ?_ ?_ reached
  · intro start initial id payment present
    rw [Table.find?_of_empty initial.noPayments] at present
    cases present
  · intro state operation earlier versioned id later present
    have evolves := (next_booked operation (Reached.valid earlier).sound).payments
    rcases evolves.origin present with ⟨payment, found, booked⟩ | ⟨_, blank⟩
    · exact (versioned found).booked booked
    · refine ⟨by rw [blank.reconciliationVersion], ?_⟩
      rw [blank.reconciliationVersion, blank.reconciliationStatus]
      exact ⟨fun _ => rfl, fun _ => rfl⟩

/-! ### One action for each version -/

/-- Each action takes its payment one version further, and no two take the same
step. -/
structure ActionsLinear (actions : Table ReconciliationAction) : Prop where
  next : ∀ action ∈ actions, action.toVersion = action.fromVersion + 1
  unique : ∀ left ∈ actions, ∀ right ∈ actions, left.paymentId = right.paymentId →
    left.toVersion = right.toVersion → left = right

private theorem ActionsLinear.insert {journal : Journal} {row : Payment}
    (linear : ActionsLinear journal.reconciliationActions) (audits : action.Audits row journal) :
    ActionsLinear (journal.reconciliationActions.insert action) := by
  constructor
  · intro other member
    rcases Table.mem_insert.mp member with old | rfl
    · exact linear.next other old
    · exact audits.toVersion.trans (by rw [← audits.fromVersion]; rfl)
  · intro left leftMember right rightMember payment version
    rcases Table.mem_insert.mp leftMember with leftOld | rfl
    · rcases Table.mem_insert.mp rightMember with rightOld | rfl
      · exact linear.unique left leftOld right rightOld payment version
      · exact absurd version (audits.freshVersion left leftOld payment)
    · rcases Table.mem_insert.mp rightMember with rightOld | rfl
      · exact absurd version.symm (audits.freshVersion right rightOld payment.symm)
      · rfl

private theorem ActionsLinear.booked {before after : Journal}
    (linear : ActionsLinear before.reconciliationActions) (booked : Booked citation before after) :
    ActionsLinear after.reconciliationActions := by
  cases booked with
  | entries path => exact path.sameAudit.reconciliationActions ▸ linear
  | turned path turn =>
      rw [turn.sameActions.2.1, path.sameAudit.reconciliationActions]
      exact linear
  | audited audited =>
      cases audited with
      | retry action row audits kind required toStatus => exact linear.insert audits
      | resolve action row now audits kind review toStatus => exact linear.insert audits
      | fulfil action order funding audits => exact linear

private theorem Reached.actionsLinear (reached : Reached db) :
    ActionsLinear db.reconciliationActions := by
  refine Reachable.invariant (motive := fun db => ActionsLinear db.reconciliationActions) ?_ ?_
    reached
  · intro start initial
    have none : ∀ action, action ∉ start.reconciliationActions := by
      intro action member
      have listed : action ∈ start.reconciliationActions.rows := member
      rw [initial.noReconciliationActions] at listed
      exact absurd listed List.not_mem_nil
    exact ⟨fun action member => absurd member (none action),
      fun left member _ _ _ _ => absurd member (none left)⟩
  · intro state operation earlier linear
    exact ActionsLinear.booked linear (next_booked operation (Reached.valid earlier).sound)

/-! ### Replays -/

private theorem applyReconciliation_accepts {now : Time} {actor : Actor}
    (done : applyReconciliation now actor input db = .ok (action, result)) :
    input.validate actor = .ok () := by
  unfold applyReconciliation at done
  obtain ⟨_, valid, _⟩ := bind_eq_ok.mp done
  exact valid

private theorem moveReconciliation_actions {now : Time} {order : Order} {payments : List Payment}
    {payment changed : Payment} {jobID : Option Int}
    (done : moveReconciliation now order payments payment input db = .ok (changed, jobID, result)) :
    result.reconciliationActions = db.reconciliationActions := by
  unfold moveReconciliation at done
  split at done
  · obtain ⟨_, _, _, _, _, _, rfl⟩ := retryReconciliation_eq_ok done
    rfl
  · obtain ⟨_, _, update⟩ := resolveReconciliation_eq_ok done
    obtain ⟨_, _, _, _, rfl⟩ := resolvePaymentReconciliation_eq_some update
    rfl

private theorem applyReconciliation_recorded {now : Time} {actor : Actor}
    (done : applyReconciliation now actor input db = .ok (action, result)) :
    result.getReconciliationAction input.paymentID input.idempotencyKey = some action ∧
      sameReconciliation actor input action := by
  obtain ⟨order, payment, locked, key, ⟨recorded, same, rfl⟩ |
    ⟨changed, jobID, moved, move, audit, version, _⟩⟩ := applyReconciliation_eq_ok done
  · exact ⟨key ▸ recorded, same⟩
  · obtain ⟨rfl, rfl, freshKey, _⟩ := createReconciliationAction_eq_ok audit
    refine ⟨?_, rfl, rfl, version, rfl, rfl⟩
    have unused : moved.reconciliationActions.rows.find? (fun action =>
        action.paymentId == payment.id && action.idempotencyKey == input.idempotencyKey) = none := by
      apply List.find?_eq_none.mpr
      intro other member
      simp only [Bool.and_eq_true, beq_iff_eq]
      rintro ⟨about, taken⟩
      exact freshKey other member about taken
    rw [← key]
    change List.find? _ (moved.reconciliationActions.rows ++ [_]) = _
    rw [List.find?_append, unused]
    simp [auditRow, Table.inserted, Identified.assign]

private theorem getReconciliationAction_of_prefix {later : Database} {paymentId : Int}
    {key : String} (grows : AuditGrows db.journal later.journal)
    (recorded : db.getReconciliationAction paymentId key = some action) :
    later.getReconciliationAction paymentId key = some action := by
  obtain ⟨added, split⟩ := grows.reconciliation
  change List.find? _ later.journal.reconciliationActions.rows = _
  rw [← split, List.find?_append]
  change (db.getReconciliationAction paymentId key).or _ = _
  rw [recorded]
  rfl

private theorem applyReconciliation_of_recorded {now : Time} {actor : Actor} {order : Order}
    {payment : Payment} (valid : input.validate actor = .ok ())
    (account : (db.users.find? actor.id).isSome = true) (locked : Locked db order payment)
    (about : payment.id = input.paymentID)
    (recorded : db.getReconciliationAction input.paymentID input.idempotencyKey = some action)
    (same : sameReconciliation actor input action) :
    applyReconciliation now actor input db = .ok (action, db) := by
  obtain ⟨user, known⟩ := Option.isSome_iff_exists.mp account
  unfold applyReconciliation
  rw [valid, ok_bind, Database.lockUserForReference, known, found_some, ok_bind, ← about,
    Database.getPayment, locked.foundPayment, found_some, ok_bind, Database.getOrder,
    locked.foundOrder, found_some, ok_bind]
  dsimp only
  rw [locked.key, find?_listPaymentsByOrderForUpdate locked, found_some, ok_bind, about, recorded]
  dsimp only
  rw [require_of same]
  rfl

/-- A key that is taken answers nothing but its own request. -/
theorem applyReconciliation_conflict (now : Time) {actor : Actor}
    (recorded : db.getReconciliationAction input.paymentID input.idempotencyKey = some action)
    (different : ¬ sameReconciliation actor input action) :
    ∃ fault, applyReconciliation now actor input db = .error fault := by
  cases outcome : applyReconciliation now actor input db with
  | error fault => exact ⟨fault, rfl⟩
  | ok pair =>
      obtain ⟨answer, after⟩ := pair
      obtain ⟨order, payment, _, key, ⟨found, same, _⟩ | ⟨changed, jobID, moved, move, audit, _⟩⟩ :=
        applyReconciliation_eq_ok outcome
      · rw [key, recorded] at found
        cases found
        exact absurd same different
      · -- A new action would be stored under a key that is taken.
        obtain ⟨_, _, freshKey, _⟩ := createReconciliationAction_eq_ok audit
        have member : action ∈ moved.reconciliationActions := by
          rw [moveReconciliation_actions move]
          exact List.mem_of_find?_eq_some recorded
        have chosen := List.find?_some recorded
        simp only [Bool.and_eq_true, beq_iff_eq] at chosen
        exact absurd chosen.2 (freshKey action member (chosen.1.trans key.symm))

private theorem run_payment_kept (reached : Reached db) (history : List Operation) {id : Int}
    {payment : Payment} (present : db.payments.find? id = some payment) :
    ∃ later, (run next db history).payments.find? id = some later := by
  obtain ⟨later, found, _⟩ := run_transaction_kept reached history present
  exact ⟨later, found⟩

/-! ### Resolving -/

private theorem resolve_changes_nothing_settled {now : Time} {actor : Actor}
    (resolve : input.action = .resolve)
    (done : applyReconciliation now actor input db = .ok (action, result)) :
    result.orders = db.orders ∧ result.refunds = db.refunds ∧ result.products = db.products ∧
      ∀ id payment, db.payments.find? id = some payment →
        ∃ later, result.payments.find? id = some later ∧ later.status = payment.status := by
  obtain ⟨order, payment, locked, _, ⟨_, _, rfl⟩ | ⟨changed, jobID, moved, move, audit, _⟩⟩ :=
    applyReconciliation_eq_ok done
  · exact ⟨rfl, rfl, rfl, fun id payment present => ⟨payment, present, rfl⟩⟩
  · obtain ⟨_, rfl, _⟩ := createReconciliationAction_eq_ok audit
    rw [moveReconciliation, resolve] at move
    obtain ⟨_, _, update⟩ := resolveReconciliation_eq_ok move
    obtain ⟨row, present, _, _, rfl⟩ := resolvePaymentReconciliation_eq_some update
    refine ⟨rfl, rfl, rfl, ?_⟩
    have evolves : Table.Evolves (fun payment later : Payment => later.status = payment.status)
        (fun _ => False) db.payments
        (db.payments.update payment.id (Payment.reviewed .resolved)) :=
      .update (fun _ => rfl) present rfl rfl
    exact fun _ _ known => evolves.kept known

/-! ### The history of a case -/

/-- Versions count the steps of a case; each step of a person happens once and is
kept; a resolution settles nothing by itself. -/
theorem reconciliation_linear (reached : Reached db) :
    (∀ payment ∈ db.payments, 0 ≤ payment.reconciliationVersion ∧
      (payment.reconciliationVersion = 0 ↔ payment.reconciliationStatus = .none)) ∧
    (∀ operation id payment, db.payments.find? id = some payment →
      ∃ later, (next operation db).payments.find? id = some later ∧
        ((later.reconciliationVersion = payment.reconciliationVersion ∧
            later.reconciliationStatus = payment.reconciliationStatus ∧
            later.reconciliationReason = payment.reconciliationReason ∧
            later.reconciliationDetail = payment.reconciliationDetail) ∨
          later.reconciliationVersion = payment.reconciliationVersion + 1 ∧
            ¬ (later.reconciliationStatus = payment.reconciliationStatus ∧
              later.reconciliationReason = payment.reconciliationReason ∧
              later.reconciliationDetail = payment.reconciliationDetail))) ∧
    (∀ left ∈ db.reconciliationActions, ∀ right ∈ db.reconciliationActions,
      left.paymentId = right.paymentId → left.fromVersion = right.fromVersion → left = right) ∧
    (∀ now actor input action result history,
      applyReconciliation now actor input db = .ok (action, result) →
      action ∈ (run next result history).reconciliationActions ∧
        action.paymentId = input.paymentID ∧ action.fromVersion = input.expectedVersion ∧
        (∀ later, applyReconciliation later actor input (run next result history) =
          .ok (action, run next result history)) ∧
        ∀ later other request, request.paymentID = input.paymentID →
          request.idempotencyKey = input.idempotencyKey →
          other.id ≠ actor.id ∨ request.action ≠ input.action ∨
            request.expectedVersion ≠ input.expectedVersion ∨ request.reason ≠ input.reason ∨
            request.evidence ≠ input.evidence →
          (∃ fault, applyReconciliation later other request (run next result history) =
            .error fault) ∧
            next (.applyReconciliation later other request) (run next result history) =
              run next result history) ∧
    (∀ now actor input action result, input.action = .resolve →
      applyReconciliation now actor input db = .ok (action, result) →
      result.orders = db.orders ∧ result.refunds = db.refunds ∧ result.products = db.products ∧
        ∀ id payment, db.payments.find? id = some payment →
          ∃ later, result.payments.find? id = some later ∧ later.status = payment.status) := by
  refine ⟨?_, ?_, ?_, ?_, ?_⟩
  · intro payment member
    have versioned := reached.versioned (Table.find?_key member)
    exact ⟨versioned.nonnegative, versioned.zero⟩
  · intro operation id payment present
    obtain ⟨later, found, booked⟩ :=
      (next_booked operation reached.valid.sound).payments.kept present
    refine ⟨later, found, ?_⟩
    rcases booked.caseStep with same | next
    · exact Or.inl ⟨same.version, same.status, same.reason, same.detail⟩
    · exact Or.inr ⟨next.version, next.news⟩
  · intro left leftMember right rightMember payment version
    have linear := reached.actionsLinear
    refine linear.unique left leftMember right rightMember payment ?_
    rw [linear.next left leftMember, linear.next right rightMember, version]
  · intro now actor input action result history done
    have committed : next (.applyReconciliation now actor input) db = result := by
      apply commit_of_ok
      rw [execute, done]
      rfl
    have after : Reached result := committed ▸ reached.step (.applyReconciliation now actor input)
    obtain ⟨recorded, same⟩ := applyReconciliation_recorded done
    have stored := getReconciliationAction_of_prefix (run_auditGrows after history) recorded
    have member : action ∈ (run next result history).reconciliationActions :=
      List.mem_of_find?_eq_some stored
    have chosen := List.find?_some stored
    simp only [Bool.and_eq_true, beq_iff_eq] at chosen
    refine ⟨member, chosen.1, same.2.2.1, ?_, ?_⟩
    · intro later
      obtain ⟨_, payment, locked, about, _⟩ := applyReconciliation_eq_ok done
      obtain ⟨current, present⟩ := run_payment_kept reached
        (.applyReconciliation now actor input :: history) locked.foundPayment
      rw [run_cons, committed] at present
      have key : current.id = payment.id := Table.key_of_find? present
      obtain ⟨_, held⟩ := (Reached.valid (after.run history)).locked (Table.mem_of_find? present)
      have account := (Reached.actorsKnown (after.run history)).reviewers action member
      rw [same.1] at account
      exact applyReconciliation_of_recorded (applyReconciliation_accepts done) account held
        (key.trans about) stored same
    · intro later other request samePayment sameKey different
      rw [← samePayment, ← sameKey] at stored
      have rejected : ¬ sameReconciliation other request action := by
        rintro ⟨actorSame, kindSame, versionSame, reasonSame, evidenceSame⟩
        obtain ⟨actorFirst, kindFirst, versionFirst, reasonFirst, evidenceFirst⟩ := same
        rcases different with actorOther | kindOther | versionOther | reasonOther | evidenceOther
        · exact actorOther (actorSame.symm.trans actorFirst)
        · exact kindOther (kindSame.symm.trans kindFirst)
        · exact versionOther (versionSame.symm.trans versionFirst)
        · exact reasonOther (reasonSame.symm.trans reasonFirst)
        · exact evidenceOther (evidenceSame.symm.trans evidenceFirst)
      obtain ⟨fault, fails⟩ := applyReconciliation_conflict later stored rejected
      refine ⟨⟨fault, fails⟩, ?_⟩
      rw [next, commit, execute, fails]
      rfl
  · intro now actor input action result resolve done
    exact resolve_changes_nothing_settled resolve done

def reviewedShop : Database :=
  next (.markReconciliationRequired
    { paymentID := 1
      notificationID := 0
      provider := "alipay"
      reason := none
      riverJobID := none
      attempt := 1
      lastError := "query timed out" }) paidShop

/-- The case is resolved once; the key then answers its own request and no other. -/
theorem reconciliation_linear_reviewedShop :
    (applyReconciliation 3 shopAdmin resolveTea reviewedShop).isOk = true ∧
      ∃ action resolved, applyReconciliation 3 shopAdmin resolveTea reviewedShop =
          .ok (action, resolved) ∧
        action.fromVersion = 1 ∧ resolved.orders = reviewedShop.orders ∧
        applyReconciliation 4 shopAdmin resolveTea resolved = .ok (action, resolved) ∧
        next (.applyReconciliation 4 shopAdmin { resolveTea with action := .retry }) resolved =
          resolved := by
  have ok : (applyReconciliation 3 shopAdmin resolveTea reviewedShop).isOk = true := by
    decide +kernel
  refine ⟨ok, ?_⟩
  cases outcome : applyReconciliation 3 shopAdmin resolveTea reviewedShop with
  | error fault =>
      rw [outcome] at ok
      cases ok
  | ok pair =>
      obtain ⟨_, _, _, replays, resolves⟩ := reconciliation_linear (paidShop_reached.step _)
      obtain ⟨_, _, version, same, other⟩ :=
        replays 3 shopAdmin resolveTea pair.1 pair.2 [] outcome
      have kept := (resolves 3 shopAdmin resolveTea pair.1 pair.2 rfl outcome).1
      refine ⟨pair.1, pair.2, rfl, version, kept, same 4, ?_⟩
      exact (other 4 shopAdmin { resolveTea with action := .retry } rfl rfl
        (Or.inr (Or.inl nofun))).2

end Mall
