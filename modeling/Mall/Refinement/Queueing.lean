/-
What the statements on notifications and the queue do.

A statement moves one notification at most, and processed is final.
-/

import Mall.Callbacks
import Mall.Refinement.Journal

namespace Mall

open Relational Transactional

variable {db middle result : Database} {notification : Int}

/-! ### One notification at most -/

structure PaymentNotification.SameSource (row later : PaymentNotification) : Prop where
  id : later.id = row.id
  provider : later.provider = row.provider
  providerEventId : later.providerEventId = row.providerEventId
  outTradeNo : later.outTradeNo = row.outTradeNo
  payloadHash : later.payloadHash = row.payloadHash

theorem PaymentNotification.SameSource.refl (row : PaymentNotification) : row.SameSource row :=
  ⟨rfl, rfl, rfl, rfl, rfl⟩

theorem PaymentNotification.SameSource.trans {row between later : PaymentNotification}
    (first : row.SameSource between) (second : between.SameSource later) : row.SameSource later :=
  ⟨second.id.trans first.id, second.provider.trans first.provider,
    second.providerEventId.trans first.providerEventId,
    second.outTradeNo.trans first.outTradeNo, second.payloadHash.trans first.payloadHash⟩

/-- A row on the way: processed is final, and only the notification that the work is
about changes its status. -/
structure PaymentNotification.Moves (worked : Int) (row later : PaymentNotification) : Prop where
  same : row.SameSource later
  processed : row.status = .processed → later.status = .processed
  others : row.id ≠ worked → later.status = row.status

theorem PaymentNotification.Moves.refl (row : PaymentNotification) : row.Moves notification row :=
  ⟨.refl row, fun processed => processed, fun _ => rfl⟩

theorem PaymentNotification.Moves.trans {row between later : PaymentNotification}
    (first : row.Moves notification between) (second : between.Moves notification later) :
    row.Moves notification later := by
  refine ⟨first.same.trans second.same, fun processed => second.processed (first.processed processed),
    ?_⟩
  intro other
  exact (second.others (first.same.id ▸ other)).trans (first.others other)

structure Works (notification : Int) (db result : Database) : Prop where
  notifications : Table.Evolves (PaymentNotification.Moves notification) (fun _ => False)
    db.notifications result.notifications
  jobs : Table.Evolves (fun job later => later = job) (fun job => job.args.notification ≤ 0)
    db.jobs result.jobs

theorem Works.refl (db : Database) : Works notification db db :=
  ⟨.refl PaymentNotification.Moves.refl, .refl (fun _ => rfl)⟩

theorem Works.trans (first : Works notification db middle) (second : Works notification middle result) :
    Works notification db result := by
  refine ⟨first.notifications.trans second.notifications PaymentNotification.Moves.trans
    (fun none _ => none) (fun none => none), ?_⟩
  refine first.jobs.trans second.jobs (fun same again => again.trans same) ?_ (fun free => free)
  intro row later free same
  rw [same]
  exact free

theorem Works.of_nonpos (works : Works notification db result) (none : notification ≤ 0)
    (other : Int) : Works other db result := by
  refine ⟨⟨?_, works.notifications.added⟩, works.jobs⟩
  intro id row present
  obtain ⟨later, found, moved⟩ := works.notifications.kept present
  have positive : 1 ≤ row.id := (db.notifications.issued row (Table.mem_of_find? present)).1
  refine ⟨later, found, { moved with others := fun _ => moved.others ?_ }⟩
  omega

theorem enqueue_works (db : Database) {args : JobArgs} (free : args.notification ≤ 0)
    (scheduledAt : Option Time) : Works notification db (db.enqueue args scheduledAt).2 := by
  unfold Database.enqueue
  split
  · exact .refl db
  · exact ⟨.refl PaymentNotification.Moves.refl, .insert (fun _ => rfl) free⟩

private theorem updateNotification_works {id : Int} {guard : PaymentNotification → Bool}
    {change : PaymentNotification → PaymentNotification} {changed : PaymentNotification}
    (updated : db.updateNotification id guard change = some (changed, result))
    (moves : ∀ row, row.id = id → guard row = true → row.Moves id (change row)) :
    Works id db result := by
  obtain ⟨row, present, allowed, _, rfl⟩ := Database.updateNotification_eq_some.mp updated
  have moved := moves row (Table.key_of_find? present) allowed
  exact ⟨.update PaymentNotification.Moves.refl present moved.same.id moved, .refl (fun _ => rfl)⟩

theorem beginPaymentNotificationProcessing_works {id : Int} {changed : PaymentNotification}
    (updated : db.beginPaymentNotificationProcessing id = some (changed, result)) :
    Works id db result := by
  refine updateNotification_works updated ?_
  intro row same allowed
  refine ⟨⟨rfl, rfl, rfl, rfl, rfl⟩, ?_, fun other => absurd same other⟩
  intro processed
  rw [processed] at allowed
  cases allowed

theorem beginPaymentNotificationProcessing_ok_works {id : Int} {provider outTradeNo : String}
    {begun : Bool}
    (done : beginPaymentNotificationProcessing id provider outTradeNo db = .ok (begun, result)) :
    Works id db result := by
  unfold beginPaymentNotificationProcessing at done
  split at done
  · cases done
    exact .refl db
  · iterate 2 obtain ⟨_, _, done⟩ := bind_eq_ok.mp done
    split at done
    · cases pure_eq_ok.mp done
      exact .refl db
    · obtain ⟨⟨_, _⟩, update, done⟩ := bind_eq_ok.mp done
      cases pure_eq_ok.mp done
      exact beginPaymentNotificationProcessing_works (found_eq_ok.mp update)

theorem markNotificationProcessed_works {id : Int}
    (done : markNotificationProcessed id db = .ok result) : Works id db result := by
  unfold markNotificationProcessed at done
  split at done
  · cases done
    exact .refl db
  · split at done
    · next marked =>
        cases done
        refine updateNotification_works marked ?_
        intro row same _
        exact ⟨⟨rfl, rfl, rfl, rfl, rfl⟩, fun _ => rfl, fun other => absurd same other⟩
    · obtain ⟨_, _, done⟩ := bind_eq_ok.mp done
      cases pure_eq_ok.mp done
      exact .refl db

theorem markPaymentNotificationFailed_works {id : Int} {lastError : String}
    (done : markPaymentNotificationFailed id lastError db = .ok result) : Works id db result := by
  unfold markPaymentNotificationFailed at done
  split at done
  · cases done
    exact .refl db
  · split at done
    · next marked =>
        cases done
        refine updateNotification_works marked ?_
        intro row same allowed
        refine ⟨⟨rfl, rfl, rfl, rfl, rfl⟩, ?_, fun other => absurd same other⟩
        intro processed
        rw [processed] at allowed
        cases allowed
    · obtain ⟨_, _, done⟩ := bind_eq_ok.mp done
      cases pure_eq_ok.mp done
      exact .refl db

theorem recordPaymentNotificationError_works (id : Int) (lastError : String) (db : Database) :
    Works id db (recordPaymentNotificationError id lastError db) := by
  unfold recordPaymentNotificationError
  split
  · exact .refl db
  · split
    · next recorded =>
        refine updateNotification_works recorded ?_
        intro row _ _
        exact ⟨⟨rfl, rfl, rfl, rfl, rfl⟩, fun processed => processed, fun _ => rfl⟩
    · exact .refl db

/-! ### What marking leaves -/

/-- The notification has come to an end, for good or until it is delivered again. -/
def Database.Ended (db : Database) (id : Int) : Prop :=
  ∃ row, db.notifications.find? id = some row ∧ (row.status = .processed ∨ row.status = .failed)

theorem Works.ended {id : Int} (works : Works 0 db result) (ended : db.Ended id) :
    result.Ended id := by
  obtain ⟨row, present, status⟩ := ended
  obtain ⟨later, found, moved⟩ := works.notifications.kept present
  have positive : 0 < row.id := (db.notifications.issued row (Table.mem_of_find? present)).1
  have same := moved.others (ne_of_gt positive)
  exact ⟨later, found, same ▸ status⟩

private theorem updateNotification_find? {id : Int} {guard : PaymentNotification → Bool}
    {change : PaymentNotification → PaymentNotification} {changed : PaymentNotification}
    (updated : db.updateNotification id guard change = some (changed, result)) :
    result.notifications.find? id = some changed := by
  obtain ⟨row, present, _, rfl, rfl⟩ := Database.updateNotification_eq_some.mp updated
  change (db.notifications.update id change).find? id = _
  rw [db.notifications.find?_update change present]
  exact Function.update_self ..

theorem markNotificationProcessed_processed {id : Int} (named : 0 < id)
    (done : markNotificationProcessed id db = .ok result) :
    ∃ row, result.notifications.find? id = some row ∧ row.status = .processed := by
  unfold markNotificationProcessed at done
  rw [if_neg (not_le.mpr named)] at done
  split at done
  · next marked =>
      cases done
      obtain ⟨_, _, _, rfl, _⟩ := Database.updateNotification_eq_some.mp marked
      exact ⟨_, updateNotification_find? marked, rfl⟩
  · obtain ⟨_, state, done⟩ := bind_eq_ok.mp done
    cases pure_eq_ok.mp done
    obtain ⟨row, present, state⟩ := bind_eq_ok.mp state
    exact ⟨row, found_eq_ok.mp present, require_eq_ok.mp state⟩

theorem markPaymentNotificationFailed_ended {id : Int} {lastError : String} (named : 0 < id)
    (done : markPaymentNotificationFailed id lastError db = .ok result) : result.Ended id := by
  unfold markPaymentNotificationFailed at done
  rw [if_neg (not_le.mpr named)] at done
  split at done
  · next marked =>
      cases done
      obtain ⟨_, _, _, rfl, _⟩ := Database.updateNotification_eq_some.mp marked
      exact ⟨_, updateNotification_find? marked, .inr rfl⟩
  · obtain ⟨_, state, done⟩ := bind_eq_ok.mp done
    cases pure_eq_ok.mp done
    obtain ⟨row, present, state⟩ := bind_eq_ok.mp state
    exact ⟨row, found_eq_ok.mp present, .inl (require_eq_ok.mp state)⟩

end Mall
