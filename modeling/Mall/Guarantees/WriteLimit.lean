/-
How many writes the quota lets through in a minute.
-/

import Mall.WriteLimit
import Mall.Guarantees.LoginLimit

namespace Mall

open FixedWindow

variable {lapsed : Int → Int → Bool} {digest : String → String} {limiter : WriteLimiter}
  {request : WriteRequest} {windows : LimitWindows} {key : List Char} {limit start now : Int}

/-- Redis keeps a key up to its deadline and gives it back no longer. -/
structure ExpiresOnTime (lapsed : Int → Int → Bool) : Prop where
  late : ExpiresLate lapsed
  prompt : ∀ deadline now, deadline < now → lapsed deadline now = true

section Room

variable (timely : ExpiresOnTime lapsed) (positive : 1 ≤ limit) (before : now < start + 60000)

include timely positive before

private theorem room_incr (windows : LimitWindows) (key : List Char) :
    room 60000 limit start ((windows.incr lapsed key now).2 key) +
      (if start ≤ now ∧ (windows.incr lapsed key now).1 ≤ limit then 1 else 0) ≤
        room 60000 limit start (windows key) := by
  have here : (windows.incr lapsed key now).2 key =
      some (hit lapsed 60000 now (windows key)) := Function.update_self ..
  rw [here]
  exact room_hit timely.late timely.prompt positive (by decide) before (windows key)

private theorem room_incr_le (windows : LimitWindows) (other : List Char) :
    room 60000 limit start ((windows.incr lapsed other now).2 key) ≤
      room 60000 limit start (windows key) := by
  by_cases same : key = other
  · subst same
    have taken := room_incr timely positive before windows key
    split at taken <;> omega
  · simp only [LimitWindows.incr, Function.update_of_ne same, le_refl]

private theorem room_script_le (bounds : List (List Char × Int)) (windows : LimitWindows) :
    room 60000 limit start ((limitScript lapsed now bounds windows).2 key) ≤
      room 60000 limit start (windows key) := by
  induction bounds generalizing windows with
  | nil => exact Int.le_refl _
  | cons bound rest ih =>
      exact Int.le_trans (ih _) (room_incr_le timely positive before windows bound.1)

private theorem room_script {bounds : List (List Char × Int)} (member : (key, limit) ∈ bounds)
    (since : start ≤ now) (windows : LimitWindows)
    (passed : (limitScript lapsed now bounds windows).1 ≠ 0) :
    room 60000 limit start ((limitScript lapsed now bounds windows).2 key) + 1 ≤
      room 60000 limit start (windows key) := by
  induction bounds generalizing windows with
  | nil => cases member
  | cons bound rest ih =>
      have within : (windows.incr lapsed bound.1 now).1 ≤ bound.2 := by
        by_contra above
        exact passed (if_pos (Int.not_le.mp above))
      have others : (limitScript lapsed now rest (windows.incr lapsed bound.1 now).2).1 ≠ 0 := by
        intro refused
        exact passed ((if_neg (Int.not_lt.mpr within)).trans refused)
      rcases List.mem_cons.mp member with rfl | later
      · have taken := room_incr timely positive before windows key
        rw [if_pos ⟨since, within⟩] at taken
        exact Int.le_trans (Int.add_le_add_right
          (room_script_le timely positive before rest _) 1) taken
      · exact Int.le_trans (ih later _ others)
          (room_incr_le timely positive before windows bound.1)

end Room

/-- A request leaves the windows alone, or as the script of its keys leaves them; one that
a reply lets through has passed that script. -/
theorem allow_cases {answer : Except Fault Unit} {after : LimitWindows}
    (allowed : limiter.allow lapsed digest request windows = (answer, after)) :
    (after = windows ∧ (answer = .ok () ∧ request.call = .replies →
      rateLimitCategory request.operation = none)) ∨
    ∃ category, rateLimitCategory request.operation = some category ∧
      after = (limitScript lapsed request.now (limiter.bounds digest category request) windows).2 ∧
      (answer = .ok () ∧ request.call = .replies →
        (limitScript lapsed request.now (limiter.bounds digest category request) windows).1 ≠ 0) := by
  unfold WriteLimiter.allow at allowed
  split at allowed
  · next free =>
      cases allowed
      exact Or.inl ⟨rfl, fun _ => free⟩
  · next category ruled =>
      split at allowed
      · cases allowed
        exact Or.inl ⟨rfl, by simp⟩
      · dsimp only at allowed
        split at allowed
        · next ran call =>
            cases ran <;> cases allowed
            · exact Or.inl ⟨rfl, by simp [call]⟩
            · exact Or.inr ⟨category, ruled, rfl, by simp [call]⟩
        · split at allowed <;> cases allowed
          · exact Or.inr ⟨category, ruled, rfl, by simp⟩
          · next passed => exact Or.inr ⟨category, ruled, rfl, fun _ => passed⟩

/-- The request is of the category, is counted under the key with this limit, and comes
within a minute from `start` on. -/
def spends (limiter : WriteLimiter) (digest : String → String) (category : LimitCategory)
    (key : List Char) (limit start : Int) (request : WriteRequest) : Bool :=
  decide (rateLimitCategory request.operation = some category ∧
    (key, limit) ∈ limiter.bounds digest category request ∧
    start ≤ request.now ∧ request.now < start + 60000)

/-- A request that is let through takes its place from the room, any other none. -/
theorem room_allow (timely : ExpiresOnTime lapsed) (positive : 1 ≤ limit)
    (before : request.now < start + 60000) (category : LimitCategory) (key : List Char)
    {answer : Except Fault Unit} {after : LimitWindows}
    (allowed : limiter.allow lapsed digest request windows = (answer, after)) :
    room 60000 limit start (after key) +
      (if (answer = .ok () ∧ request.call = .replies) ∧
        spends limiter digest category key limit start request = true then 1 else 0) ≤
      room 60000 limit start (windows key) := by
  rcases allow_cases allowed with ⟨rfl, free⟩ | ⟨found, ruled, rfl, paid⟩
  · split
    · next passed =>
        have counted := (of_decide_eq_true passed.2).1
        rw [free passed.1] at counted
        cases counted
    · omega
  · split
    · next passed =>
        obtain ⟨counted, member, since, _⟩ := of_decide_eq_true passed.2
        obtain rfl : found = category := Option.some.inj (ruled.symm.trans counted)
        exact room_script timely positive before member since windows (paid passed.1)
    · rw [Int.add_zero]
      exact room_script_le timely positive before _ windows

private theorem admitted_sublist (requests : List WriteRequest) (windows : LimitWindows) :
    (limiter.admitted lapsed digest windows requests).Sublist requests := by
  induction requests generalizing windows with
  | nil => exact .slnil
  | cons request rest ih =>
      simp only [WriteLimiter.admitted]
      split
      · exact (ih _).cons_cons request
      · exact (ih _).cons request

private theorem admitted_le_room (timely : ExpiresOnTime lapsed) (positive : 1 ≤ limit)
    (category : LimitCategory) {requests : List WriteRequest}
    (ordered : requests.Pairwise (fun a b => a.now ≤ b.now)) (windows : LimitWindows) :
    ((limiter.admitted lapsed digest windows requests).countP
      (spends limiter digest category key limit start) : Int) ≤
        room 60000 limit start (windows key) := by
  induction requests generalizing windows with
  | nil => exact (room_bounds positive _).1
  | cons request rest ih =>
      obtain ⟨first, others⟩ := List.pairwise_cons.mp ordered
      by_cases ended : start + 60000 ≤ request.now
      · -- The minute is over: nothing that follows falls into it.
        have none : (limiter.admitted lapsed digest windows (request :: rest)).countP
            (spends limiter digest category key limit start) = 0 := by
          refine List.countP_eq_zero.mpr (fun other member counted => ?_)
          have soon := (of_decide_eq_true counted).2.2.2
          rcases List.mem_cons.mp ((admitted_sublist _ _).subset member) with rfl | later
          · omega
          · have := first other later
            omega
        rw [none]
        exact (room_bounds positive _).1
      · rcases allowed : limiter.allow lapsed digest request windows with ⟨answer, after⟩
        have paid := room_allow timely positive (Int.not_le.mp ended) category key allowed
        have later := ih others after
        simp only [WriteLimiter.admitted, allowed]
        split
        · next passed =>
            rw [List.countP_cons]
            simp only [passed, true_and, and_true] at paid
            split_ifs at paid ⊢ <;> omega
        · next refused =>
            rw [if_neg (fun passed => refused passed.1)] at paid
            omega

/-- Whatever is sent and however Redis fails, in no minute do its replies let through more
than twice the limit of a key: that of the category for an account and for the anonymous
requests of an address, five times that for the requests of accounts from an address. -/
theorem write_quota_kept (limiter : WriteLimiter) (timely : ExpiresOnTime lapsed)
    (digest : String → String) {requests : List WriteRequest}
    (ordered : requests.Pairwise (fun a b => a.now ≤ b.now)) (windows : LimitWindows)
    (category : LimitCategory) (sample : WriteRequest)
    (bound : (key, limit) ∈ limiter.bounds digest category sample) (start : Int) :
    ((limiter.admitted lapsed digest windows requests).countP
      (spends limiter digest category key limit start) : Int) ≤ 2 * limit := by
  have positive : 1 ≤ limit := by
    have least := (limiter.bounded category).1
    unfold WriteLimiter.bounds at bound
    grind
  exact Int.le_trans (admitted_le_room timely positive category ordered windows)
    (room_bounds positive _).2

def frugalLimiter : WriteLimiter :=
  ⟨fun _ => 2, false, fun _ => by decide⟩

def postAt (now : Int) : WriteRequest :=
  ⟨7, "10.0.0.1", "/api.community.v1.Community/CreatePost", now, .replies⟩

/-- Within one minute the end of a window lets through one post and the start of the next
one two; a third post in the first window is refused. -/
theorem write_quota_kept_frugal :
    let admitted := frugalLimiter.admitted (fun deadline now => decide (deadline < now)) id
      (fun _ => none) [postAt 0, postAt 59000, postAt 59500, postAt 60001, postAt 60002]
    let counted := admitted.countP (spends frugalLimiter id .posts (limitUserKey .posts 7) 2 59000)
    counted = 3 ∧ (counted : Int) ≤ 2 * 2 := by
  have timely : ExpiresOnTime (fun deadline now => decide (deadline < now)) :=
    { late := fun _ _ gone => Int.le_of_lt (of_decide_eq_true gone)
      prompt := fun _ _ passed => decide_eq_true passed }
  refine ⟨by decide +kernel, ?_⟩
  exact write_quota_kept frugalLimiter timely id (by decide) _ .posts (postAt 0)
    (by decide +kernel) 59000

end Mall
