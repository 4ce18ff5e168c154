/-
The browsing history of the accounts.

A row keeps the time of the last view.  Expired rows are hidden at once and deleted in
batches later: a batch is any choice of rows, each checked again before it goes.
-/

import Mall.Catalogue

namespace Mall

open Transactional

/-- `product_browsing_history`, by account and product. -/
abbrev BrowsingHistory := Int → Int → Option Int

/-- Deleting an account takes its rows away as `clear` does. -/
inductive HistoryAction where
  | record (userID productID : Int) (available : Bool)
  | delete (userID productID : Int)
  | clear (userID : Int)
  | cleanup (batch : List (Int × Int))

/-- `statement` is when the statement starts, `clock` when it writes; `known` says whether
the account's row is there to be locked. -/
structure HistoryRequest where
  action : HistoryAction
  known : Bool
  statement : Int
  clock : Int

namespace HistoryRequest

def refusal (request : HistoryRequest) : Option Fault :=
  let missing := Fault.unauthorized "UNAUTHORIZED" "user no longer exists"
  match request.action with
  | .record _ _ available =>
      if request.known = false then some missing
      else if available = false then
        some (Fault.notFound "PRODUCT_NOT_AVAILABLE" "product is not available")
      else none
  | .cleanup _ => none
  | _ => if request.known = false then some missing else none

def concerns (request : HistoryRequest) (userID productID : Int) : Bool :=
  match request.action with
  | .record user product _ | .delete user product =>
      decide (user = userID ∧ product = productID)
  | .clear user => decide (user = userID)
  | .cleanup batch => decide ((userID, productID) ∈ batch)

def row (retention : Int) (request : HistoryRequest) (old : Option Int) : Option Int :=
  match request.action with
  | .record _ _ _ => some ((old.map (max request.clock)).getD request.statement)
  | .cleanup _ => old.filter (fun last => !decide (last ≤ request.statement - retention))
  | _ => none

def next (retention : Int) (request : HistoryRequest) (history : BrowsingHistory) :
    BrowsingHistory :=
  fun userID productID =>
    if request.refusal = none ∧ request.concerns userID productID = true then
      request.row retention (history userID productID)
    else history userID productID

/-- The account's last view of the product that it did not remove: when its statement
started and when it was written. -/
def view (userID productID : Int) (request : HistoryRequest) (last : Option (Int × Int)) :
    Option (Int × Int) :=
  if request.refusal = none ∧ request.concerns userID productID = true then
    match request.action with
    | .record _ _ _ => some (request.statement, request.clock)
    | .cleanup _ => last
    | _ => none
  else last

end HistoryRequest

def historyAfter (retention : Int) (requests : List HistoryRequest) : BrowsingHistory :=
  run (HistoryRequest.next retention) (fun _ _ => none) requests

def lastView (userID productID : Int) (requests : List HistoryRequest) : Option (Int × Int) :=
  run (HistoryRequest.view userID productID) none requests

/-- The list, without a window of time and from its start, shows the account the product. -/
def BrowsingHistory.Shows (history : BrowsingHistory) (retention now userID productID : Int) :
    Prop :=
  ∃ last, history userID productID = some last ∧
    historyShown userID retention now ⟨20, none⟩ ⟨none, none⟩ ⟨userID, productID, last⟩ = true

/-- PostgreSQL's clock does not go back; a statement may start before others write. -/
def Timed : Int → List HistoryRequest → Prop
  | _, [] => True
  | since, request :: rest =>
      since ≤ request.clock ∧ request.statement ≤ request.clock ∧ Timed request.clock rest

/-- A row lies within its last view; where a view has no row, it has expired. -/
def Fits (retention now : Int) : Option Int → Option (Int × Int) → Prop
  | some last, some (statement, clock) => statement ≤ last ∧ last ≤ clock ∧ clock ≤ now
  | some _, none => False
  | none, some (statement, _) => statement ≤ now - retention
  | none, none => True

variable {retention since now userID productID : Int} {history : BrowsingHistory}
  {view : Option (Int × Int)}

private theorem historyShown_iff {last : Int} :
    historyShown userID retention now ⟨20, none⟩ ⟨none, none⟩ ⟨userID, productID, last⟩ = true ↔
      now - retention < last := by
  simp [historyShown]

theorem Fits.later {row : Option Int} (fits : Fits retention since row view)
    (after : since ≤ now) : Fits retention now row view := by
  rcases row with _ | last <;> rcases view with _ | ⟨statement, clock⟩ <;>
    simp only [Fits] at fits ⊢ <;> omega

theorem Fits.next {request : HistoryRequest}
    (fits : Fits retention since (history userID productID) view)
    (after : since ≤ request.clock) (lasts : request.statement ≤ request.clock) :
    Fits retention request.clock (request.next retention history userID productID)
      (request.view userID productID view) := by
  rw [HistoryRequest.next, HistoryRequest.view]
  split
  · rw [HistoryRequest.row]
    cases action : request.action with
    | record user product available =>
        -- A row that was there was written before this view.
        rcases row : history userID productID with _ | last <;>
          rcases view with _ | ⟨statement, clock⟩ <;> simp [row, Fits] at fits ⊢ <;> omega
    | delete user product => trivial
    | clear user => trivial
    | cleanup batch =>
        rcases row : history userID productID with _ | last
        · rw [row] at fits
          exact fits.later after
        · rcases view with _ | ⟨statement, clock⟩ <;> rw [row] at fits
          · exact fits.elim
          · have within := fits
            simp only [Fits] at within
            by_cases gone : last ≤ request.statement - retention
            · simp only [gone, Option.filter, decide_true, Bool.not_true, Fits]
              exact (by omega : statement ≤ request.clock - retention)
            · simp only [gone, Option.filter, decide_false, Bool.not_false]
              exact fits.later after
  · exact fits.later after

theorem Fits.run {requests : List HistoryRequest}
    (fits : Fits retention since (history userID productID) view) (timed : Timed since requests)
    (done : ∀ request ∈ requests, request.clock ≤ now) (after : since ≤ now) :
    Fits retention now
      (run (HistoryRequest.next retention) history requests userID productID)
      (run (HistoryRequest.view userID productID) view requests) := by
  induction requests generalizing since history view with
  | nil => exact fits.later after
  | cons request rest ih =>
      obtain ⟨later, lasts, others⟩ := timed
      obtain ⟨here, there⟩ := List.forall_mem_cons.mp done
      exact ih (fits.next later lasts) others there here

/-- Whatever was cleaned up, the list shows what the account viewed within the retention
and did not remove, to within the time that recording the view took. -/
theorem history_shows_recent_views {requests : List HistoryRequest} (timed : Timed since requests)
    (done : ∀ request ∈ requests, request.clock ≤ now) (after : since ≤ now)
    (retention userID productID : Int) :
    ((historyAfter retention requests).Shows retention now userID productID →
      ∃ statement clock, lastView userID productID requests = some (statement, clock) ∧
        now - retention < clock) ∧
    ∀ statement clock, lastView userID productID requests = some (statement, clock) →
      now - retention < statement →
      (historyAfter retention requests).Shows retention now userID productID := by
  have fits : Fits retention now (historyAfter retention requests userID productID)
      (lastView userID productID requests) :=
    Fits.run trivial timed done after
  constructor
  · rintro ⟨last, row, recent⟩
    rw [row] at fits
    cases view : lastView userID productID requests with
    | none =>
        rw [view] at fits
        exact fits.elim
    | some stamps =>
        rw [view] at fits
        exact ⟨stamps.1, stamps.2, rfl, Int.lt_of_lt_of_le (historyShown_iff.mp recent) fits.2.1⟩
  · intro statement clock view recent
    rw [view] at fits
    cases row : historyAfter retention requests userID productID with
    | none =>
        rw [row] at fits
        exact absurd recent (Int.not_lt.mpr fits)
    | some last =>
        rw [row] at fits
        exact ⟨last, row, historyShown_iff.mpr (Int.lt_of_lt_of_le recent fits.1)⟩

def teaViews : List HistoryRequest :=
  [⟨.record 1 1 true, true, 0, 1⟩, ⟨.cleanup [(1, 1)], true, 95, 95⟩,
    ⟨.record 1 1 true, true, 100, 101⟩]

/-- The second view is shown although a cleanup took the row of the first. -/
theorem history_shows_recent_views_tea : (historyAfter 90 teaViews).Shows 90 150 1 1 := by
  have timed : Timed 0 teaViews := by
    simp [Timed, teaViews]
  exact (history_shows_recent_views timed (by decide) (by decide) 90 1 1).2 100 101 (by decide)
    (by decide)

end Mall
