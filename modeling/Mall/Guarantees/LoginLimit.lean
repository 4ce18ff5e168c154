/-
The account login budget is an exact rate bound.

On the script's own clock the budget is a cell rate limiter.  An expired key had
nothing left to say, so the store may forget it at any time after its deadline.
-/

import Mall.LoginLimit

namespace Mall

variable {attempt : LoginAttempt}

structure AcceptedQuota (burst interval : Int) : Prop where
  burstLeast : 1 ≤ burst
  burstMost : burst ≤ 100
  intervalLeast : second ≤ interval
  intervalMost : interval ≤ minute

/-- The server expires no key before its deadline. -/
def ExpiresLate (lapsed : Int → Int → Bool) : Prop :=
  ∀ deadline now, lapsed deadline now = true → deadline ≤ now

def Budgets.ready (store : Budgets) (phoneHash : String) : Option Int :=
  (store (loginBudgetKey phoneHash)).map BudgetEntry.ready

def Budgets.reserved (store : Budgets) (phoneHash : String) (ready : Int) : Budgets :=
  Function.update store (loginBudgetKey phoneHash) (some { ready := ready, expiresAt := ready })

/-- Every key lives until its burst is free again, and no burst is further away
than a whole one. -/
def Budgets.Sound (store : Budgets) (limit : Int) : Prop :=
  ∀ key entry, store key = some entry → entry.expiresAt = entry.ready ∧ entry.ready ≤ limit

private theorem loginBudgetKey_injective {left right : String}
    (same : loginBudgetKey left = loginBudgetKey right) : left = right := by
  have letters : "auth:login:budget:".toList ++ left.toList =
      "auth:login:budget:".toList ++ right.toList := same
  exact String.toList_injective (List.append_cancel_left letters)

private theorem Budgets.ready_reserved_self (store : Budgets) (phoneHash : String) (ready : Int) :
    (store.reserved phoneHash ready).ready phoneHash = some ready := by
  rw [Budgets.ready, Budgets.reserved, Function.update_self]
  rfl

private theorem Budgets.ready_reserved_of_ne (store : Budgets) {phoneHash other : String}
    (ready : Int) (apart : other ≠ phoneHash) :
    (store.reserved phoneHash ready).ready other = store.ready other := by
  rw [Budgets.ready, Budgets.reserved, Function.update_of_ne]
  · rfl
  · exact fun same => apart (loginBudgetKey_injective same)

private theorem Budgets.Sound.reserved {store : Budgets} {limit ready : Int}
    (sound : store.Sound limit) (phoneHash : String) (near : ready ≤ limit) :
    (store.reserved phoneHash ready).Sound limit := by
  intro key entry stored
  by_cases own : key = loginBudgetKey phoneHash
  · subst own
    rw [Budgets.reserved, Function.update_self] at stored
    cases stored
    exact ⟨rfl, near⟩
  · rw [Budgets.reserved, Function.update_of_ne own] at stored
    exact sound key entry stored

private theorem AcceptedQuota.milliseconds {burst interval : Int}
    (quota : AcceptedQuota burst interval) :
    1000 ≤ interval / millisecond ∧ interval / millisecond ≤ 60000 := by
  have least : 1000000000 ≤ interval := quota.intervalLeast
  have most : interval ≤ 60000000000 := quota.intervalMost
  unfold millisecond
  omega

private theorem wrap64_milliseconds {wait : Int} (positive : 0 < wait) (bounded : wait ≤ 6000000) :
    wrap64 (wait * millisecond) = wait * millisecond := by
  unfold millisecond
  exact wrap64_of_fits (by omega) (by omega)

private theorem millisecond_ne_zero : millisecond ≠ 0 := by
  decide

/-! ### One attempt -/

section Attempt

variable {lapsed : Int → Int → Bool} {burst interval : Int} {store : Budgets}

/-- An expired key would not have delayed anybody. -/
theorem Budgets.Sound.due {limit now : Int} (sound : store.Sound limit)
    (late : ExpiresLate lapsed) (phoneHash : String) :
    CellRate.due now (store.get lapsed (loginBudgetKey phoneHash) now) =
      CellRate.due now (store.ready phoneHash) := by
  unfold Budgets.get Budgets.ready
  cases stored : store (loginBudgetKey phoneHash) with
  | none => rfl
  | some entry =>
      rw [Option.bind_some, Option.map_some]
      split
      · rename_i gone
        have past := late _ _ gone
        rw [(sound _ _ stored).1] at past
        unfold CellRate.due
        rw [Option.getD_none, Option.getD_some]
        omega
      · rfl

/-- The script is the limiter's step on the account's key. -/
theorem Budgets.Sound.script {limit : Int} (sound : store.Sound limit) (late : ExpiresLate lapsed)
    (phoneHash : String) (clock : RedisTime) (spacing : Int) :
    reserveLoginAttemptScript lapsed (loginBudgetKey phoneHash) spacing burst clock store =
      if 0 < CellRate.wait spacing burst clock.now (store.ready phoneHash) then
        (CellRate.wait spacing burst clock.now (store.ready phoneHash), store)
      else
        (0, store.reserved phoneHash
          (CellRate.due clock.now (store.ready phoneHash) + spacing)) := by
  have due := @Budgets.Sound.due lapsed store limit clock.now sound late phoneHash
  have body : reserveLoginAttemptScript lapsed (loginBudgetKey phoneHash) spacing burst clock store =
      if 0 < CellRate.due clock.now (store.get lapsed (loginBudgetKey phoneHash) clock.now) -
          (burst - 1) * spacing - clock.now then
        (CellRate.due clock.now (store.get lapsed (loginBudgetKey phoneHash) clock.now) -
          (burst - 1) * spacing - clock.now, store)
      else
        (0, store.set (loginBudgetKey phoneHash)
          (CellRate.due clock.now (store.get lapsed (loginBudgetKey phoneHash) clock.now) + spacing)
          clock.now
          (CellRate.due clock.now (store.get lapsed (loginBudgetKey phoneHash) clock.now) + spacing -
            clock.now)) := rfl
  rw [body, due, Budgets.set, add_sub_cancel]
  rfl

private theorem Budgets.Sound.reserve {phoneHash : String} {clock : RedisTime}
    (sound : store.Sound (clock.now + burst * (interval / millisecond)))
    (quota : AcceptedQuota burst interval) (late : ExpiresLate lapsed) (named : phoneHash ≠ "") :
    reserveLoginAttempt lapsed phoneHash burst interval clock store =
      .ok (if 0 < CellRate.wait (interval / millisecond) burst clock.now (store.ready phoneHash) then
        (CellRate.wait (interval / millisecond) burst clock.now (store.ready phoneHash) *
          millisecond, store)
      else
        (0, store.reserved phoneHash
          (CellRate.due clock.now (store.ready phoneHash) + interval / millisecond))) := by
  obtain ⟨burstLeast, burstMost, intervalLeast, intervalMost⟩ := quota
  have spacing := AcceptedQuota.milliseconds ⟨burstLeast, burstMost, intervalLeast, intervalMost⟩
  have accepted : ¬ (phoneHash = "" ∨ burst < 1 ∨ burst > 100 ∨ interval < second ∨
      interval > minute) := by
    rintro (empty | low | high | short | long)
    · exact named empty
    · omega
    · omega
    · omega
    · omega
  rw [reserveLoginAttempt, if_neg accepted]
  dsimp only
  rw [sound.script late phoneHash clock]
  split
  · rename_i waits
    have near : CellRate.due clock.now (store.ready phoneHash) ≤
        clock.now + burst * (interval / millisecond) := by
      refine max_le (by nlinarith) ?_
      cases stored : store (loginBudgetKey phoneHash) with
      | none =>
          rw [Budgets.ready, stored, Option.map_none, Option.getD_none]
          nlinarith
      | some entry =>
          rw [Budgets.ready, stored, Option.map_some, Option.getD_some]
          exact (sound _ _ stored).2
    have slack : 0 ≤ (burst - 1) * (interval / millisecond) := by
      exact mul_nonneg (by omega) (by omega)
    have product : burst * (interval / millisecond) ≤ 100 * 60000 :=
      mul_le_mul burstMost spacing.2 (by omega) (by decide)
    have small : wrap64 (CellRate.wait (interval / millisecond) burst clock.now
        (store.ready phoneHash) * millisecond) = CellRate.wait (interval / millisecond) burst
        clock.now (store.ready phoneHash) * millisecond := by
      have bounded : CellRate.wait (interval / millisecond) burst clock.now
          (store.ready phoneHash) ≤ 6000000 := by
        unfold CellRate.wait
        omega
      exact wrap64_milliseconds waits bounded
    rw [small]
  · rfl

private theorem Budgets.Sound.answer
    (sound : store.Sound (attempt.clock.now + burst * (interval / millisecond)))
    (quota : AcceptedQuota burst interval) (late : ExpiresLate lapsed)
    (named : attempt.phoneHash ≠ "") :
    store.answer lapsed burst interval attempt =
      .ok ((CellRate.reserve (interval / millisecond) burst attempt.clock.now
        (store.ready attempt.phoneHash)).1 * millisecond) := by
  rw [Budgets.answer, sound.reserve quota late named, CellRate.reserve]
  split
  · rfl
  · rfl

private theorem Budgets.Sound.mono {limit later : Int} (sound : store.Sound limit)
    (grows : limit ≤ later) :
    store.Sound later := by
  intro key entry stored
  obtain ⟨deadline, near⟩ := sound key entry stored
  exact ⟨deadline, near.trans grows⟩

private theorem Budgets.next_unnamed (unnamed : attempt.phoneHash = "") :
    store.next lapsed burst interval attempt = store := by
  rw [Budgets.next, reserveLoginAttempt, if_pos (Or.inl unnamed)]

private theorem Budgets.Sound.next_eq
    (sound : store.Sound (attempt.clock.now + burst * (interval / millisecond)))
    (quota : AcceptedQuota burst interval) (late : ExpiresLate lapsed)
    (named : attempt.phoneHash ≠ "") :
    store.next lapsed burst interval attempt =
      if 0 < CellRate.wait (interval / millisecond) burst attempt.clock.now
          (store.ready attempt.phoneHash) then store
      else
        store.reserved attempt.phoneHash
          (CellRate.due attempt.clock.now (store.ready attempt.phoneHash) +
            interval / millisecond) := by
  rw [Budgets.next, sound.reserve quota late named]
  by_cases waits : 0 < CellRate.wait (interval / millisecond) burst attempt.clock.now
      (store.ready attempt.phoneHash)
  · simp only [if_pos waits]
  · simp only [if_neg waits]

private theorem Budgets.Sound.next
    (sound : store.Sound (attempt.clock.now + burst * (interval / millisecond)))
    (quota : AcceptedQuota burst interval) (late : ExpiresLate lapsed) :
    (store.next lapsed burst interval attempt).Sound
      (attempt.clock.now + burst * (interval / millisecond)) := by
  by_cases named : attempt.phoneHash = ""
  · rw [Budgets.next_unnamed named]
    exact sound
  · rw [sound.next_eq quota late named]
    split
    · exact sound
    · rename_i free
      have room : CellRate.wait (interval / millisecond) burst attempt.clock.now
          (store.ready attempt.phoneHash) ≤ 0 := not_lt.mp free
      unfold CellRate.wait at room
      exact sound.reserved _ (by linarith)

private theorem Budgets.Sound.ready_next {account : String}
    (sound : store.Sound (attempt.clock.now + burst * (interval / millisecond)))
    (quota : AcceptedQuota burst interval) (late : ExpiresLate lapsed) (named : account ≠ "") :
    (store.next lapsed burst interval attempt).ready account =
      if attempt.phoneHash = account then
        (CellRate.reserve (interval / millisecond) burst attempt.clock.now (store.ready account)).2
      else store.ready account := by
  by_cases own : attempt.phoneHash = account
  · subst own
    rw [if_pos rfl, sound.next_eq quota late named, CellRate.reserve]
    split
    · rfl
    · exact Budgets.ready_reserved_self _ _ _
  · rw [if_neg own]
    by_cases unnamed : attempt.phoneHash = ""
    · rw [Budgets.next_unnamed unnamed]
    · rw [sound.next_eq quota late unnamed]
      split
      · rfl
      · exact Budgets.ready_reserved_of_ne _ _ (Ne.symm own)

private theorem Budgets.Sound.forget
    (sound : store.Sound (attempt.clock.now + burst * (interval / millisecond)))
    (quota : AcceptedQuota burst interval) (late : ExpiresLate lapsed) :
    reserveLoginAttempt lapsed attempt.phoneHash burst interval attempt.clock store =
      reserveLoginAttempt (fun _ _ => false) attempt.phoneHash burst interval attempt.clock
        store := by
  have never : ExpiresLate (fun _ _ => false) := fun _ _ impossible => nomatch impossible
  by_cases named : attempt.phoneHash = ""
  · rw [reserveLoginAttempt, if_pos (Or.inl named), reserveLoginAttempt, if_pos (Or.inl named)]
  · rw [sound.reserve quota late named, sound.reserve quota never named]

private theorem Budgets.next_of_rejected {delay : Int}
    (rejected : store.answer lapsed burst interval attempt = .ok delay) (delayed : delay ≠ 0) :
    store.next lapsed burst interval attempt = store := by
  by_cases refused : attempt.phoneHash = "" ∨ burst < 1 ∨ burst > 100 ∨ interval < second ∨
      interval > minute
  · rw [Budgets.next, reserveLoginAttempt, if_pos refused]
  · rw [Budgets.answer, reserveLoginAttempt, if_neg refused] at rejected
    rw [Budgets.next, reserveLoginAttempt, if_neg refused]
    unfold reserveLoginAttemptScript at rejected ⊢
    dsimp only at rejected ⊢
    split at rejected
    · rename_i waits
      rw [if_pos waits]
    · cases rejected
      exact absurd rfl delayed

end Attempt

/-! ### Runs -/

section Runs

variable {lapsed : Int → Int → Bool} {burst interval : Int} {store : Budgets} {account : String}

def Ordered (history : List LoginAttempt) : Prop :=
  history.Pairwise (fun earlier later => earlier.clock.now ≤ later.clock.now)

/-- The store suits every attempt that is still to come. -/
def Budgets.Ready (store : Budgets) (burst interval : Int) (history : List LoginAttempt) : Prop :=
  ∀ attempt ∈ history, store.Sound (attempt.clock.now + burst * (interval / millisecond))

private theorem Budgets.Ready.empty (history : List LoginAttempt) :
    Budgets.empty.Ready burst interval history :=
  fun _ _ _ _ stored => nomatch stored

private theorem Budgets.Ready.next {rest : List LoginAttempt}
    (ready : store.Ready burst interval (attempt :: rest)) (ordered : Ordered (attempt :: rest))
    (quota : AcceptedQuota burst interval) (late : ExpiresLate lapsed) :
    (store.next lapsed burst interval attempt).Ready burst interval rest := by
  intro later present
  have sound := ready attempt List.mem_cons_self
  have after := List.rel_of_pairwise_cons ordered present
  exact (sound.next quota late).mono (by linarith)

private theorem Budgets.Ready.after {earlier later : List LoginAttempt}
    (ready : store.Ready burst interval (earlier ++ later)) (ordered : Ordered (earlier ++ later))
    (quota : AcceptedQuota burst interval) (late : ExpiresLate lapsed) :
    (store.after lapsed burst interval earlier).Ready burst interval later := by
  induction earlier generalizing store with
  | nil => exact ready
  | cons attempt rest ih =>
      exact ih (ready.next ordered quota late) (List.Pairwise.of_cons ordered)

def attemptTimes (account : String) (history : List LoginAttempt) : List Int :=
  (history.filter (fun attempt => attempt.phoneHash = account)).map
    (fun attempt => attempt.clock.now)

/-- As far as one account goes, a run is a run of the limiter. -/
theorem Budgets.Ready.answers {history : List LoginAttempt}
    (ready : store.Ready burst interval history) (ordered : Ordered history)
    (quota : AcceptedQuota burst interval) (late : ExpiresLate lapsed) (named : account ≠ "")
    (start length : Int) :
    ((store.answers lapsed burst interval history).filter
        (letThrough account start length)).length =
      ((CellRate.answers (interval / millisecond) burst (store.ready account)
        (attemptTimes account history)).filter (CellRate.accepted start length)).length := by
  induction history generalizing store with
  | nil => rfl
  | cons attempt rest ih =>
      have sound := ready attempt List.mem_cons_self
      have step := ih (ready.next ordered quota late) (List.Pairwise.of_cons ordered)
      rw [sound.ready_next quota late named] at step
      rw [Budgets.answers, List.filter_cons]
      by_cases own : attempt.phoneHash = account
      · subst own
        rw [if_pos rfl] at step
        have times : attemptTimes attempt.phoneHash (attempt :: rest) =
            attempt.clock.now :: attemptTimes attempt.phoneHash rest := by
          rw [attemptTimes, List.filter_cons_of_pos (by simp)]
          rfl
        have same : letThrough attempt.phoneHash start length
            (attempt, store.answer lapsed burst interval attempt) =
            CellRate.accepted start length (attempt.clock.now,
              (CellRate.reserve (interval / millisecond) burst attempt.clock.now
                (store.ready attempt.phoneHash)).1) := by
          rw [sound.answer quota late named]
          simp [letThrough, CellRate.accepted, millisecond_ne_zero]
        rw [times, CellRate.answers, List.filter_cons, same]
        split
        · rw [List.length_cons, List.length_cons, step]
        · exact step
      · rw [if_neg own] at step
        have times : attemptTimes account (attempt :: rest) = attemptTimes account rest := by
          rw [attemptTimes, List.filter_cons_of_neg (by simpa using own)]
          rfl
        have outside : letThrough account start length
            (attempt, store.answer lapsed burst interval attempt) = false := by
          unfold letThrough
          split
          · simp [own]
          · rfl
        rw [times, outside]
        exact step

private theorem Budgets.Ready.unaccepted {history : List LoginAttempt}
    (ready : store.Ready burst interval history) (ordered : Ordered history)
    (quota : AcceptedQuota burst interval) (late : ExpiresLate lapsed) (named : account ≠ "")
    (idle : ∀ answer ∈ store.answers lapsed burst interval history,
      answer.1.phoneHash = account → answer.2 ≠ .ok 0) :
    (store.after lapsed burst interval history).ready account = store.ready account := by
  induction history generalizing store with
  | nil => rfl
  | cons attempt rest ih =>
      have sound := ready attempt List.mem_cons_self
      have step := ih (ready.next ordered quota late) (List.Pairwise.of_cons ordered)
        (fun answer present => idle answer (List.mem_cons_of_mem _ present))
      have kept : (store.next lapsed burst interval attempt).ready account =
          store.ready account := by
        rw [sound.ready_next quota late named]
        split
        · rename_i own
          subst own
          have refused := idle _ List.mem_cons_self rfl
          dsimp only at refused
          rw [sound.answer quota late named] at refused
          unfold CellRate.reserve at refused ⊢
          split
          · rfl
          · rename_i free
            rw [if_neg free] at refused
            exact absurd rfl refused
        · rfl
      exact step.trans kept

private theorem Budgets.Ready.forget {history : List LoginAttempt}
    (ready : store.Ready burst interval history) (ordered : Ordered history)
    (quota : AcceptedQuota burst interval) (late : ExpiresLate lapsed) :
    store.answers lapsed burst interval history =
      store.answers (fun _ _ => false) burst interval history := by
  induction history generalizing store with
  | nil => rfl
  | cons attempt rest ih =>
      have sound := ready attempt List.mem_cons_self
      have same := sound.forget quota late
      have step := ih (ready.next ordered quota late) (List.Pairwise.of_cons ordered)
      have later : store.next lapsed burst interval attempt =
          store.next (fun _ _ => false) burst interval attempt := by
        rw [Budgets.next, same, Budgets.next]
      rw [Budgets.answers, Budgets.answers, Budgets.answer, same, step, later, Budgets.answer]

private theorem Budgets.Ready.rejected {later : List LoginAttempt} {delay : Int}
    (ready : store.Ready burst interval (attempt :: later)) (ordered : Ordered (attempt :: later))
    (quota : AcceptedQuota burst interval) (late : ExpiresLate lapsed)
    (named : attempt.phoneHash ≠ "")
    (answered : store.answer lapsed burst interval attempt = .ok delay) (delayed : delay ≠ 0) :
    ∃ wait : Int, 0 < wait ∧ delay = wait * millisecond ∧
      ∀ between again rest, later = between ++ again :: rest →
        again.phoneHash = attempt.phoneHash →
        (∀ answer ∈ (store.next lapsed burst interval attempt).answers lapsed burst interval between,
          answer.1.phoneHash = attempt.phoneHash → answer.2 ≠ .ok 0) →
        (attempt.clock.now + wait ≤ again.clock.now →
          ((store.next lapsed burst interval attempt).after lapsed burst interval between).answer
            lapsed burst interval again = .ok 0) ∧
        (again.clock.now < attempt.clock.now + wait →
          ∃ longer > 0,
            ((store.next lapsed burst interval attempt).after lapsed burst interval between).answer
              lapsed burst interval again = .ok longer) := by
  have spacing := quota.milliseconds
  have sound := ready attempt List.mem_cons_self
  have same := Budgets.next_of_rejected answered delayed
  rw [sound.answer quota late named] at answered
  injection answered with told
  have waits : 0 < CellRate.wait (interval / millisecond) burst attempt.clock.now
      (store.ready attempt.phoneHash) := by
    by_contra free
    rw [CellRate.reserve, if_neg free, zero_mul] at told
    exact delayed told.symm
  rw [CellRate.reserve, if_pos waits] at told
  obtain ⟨number, held⟩ := CellRate.held_of_wait_pos (by omega) quota.burstLeast waits
  rw [held] at waits told
  refine ⟨_, waits, told.symm, ?_⟩
  intro between again rest split own idle
  subst split
  rw [same] at idle ⊢
  have resumed : store.Ready burst interval (between ++ again :: rest) :=
    fun attempt present => ready attempt (List.mem_cons_of_mem _ present)
  have suffix : Ordered (between ++ again :: rest) := List.Pairwise.of_cons ordered
  have kept : (store.after lapsed burst interval between).ready attempt.phoneHash =
      store.ready attempt.phoneHash := by
    have waited : store.Ready burst interval between :=
      fun attempt present => resumed attempt (List.mem_append_left _ present)
    exact waited.unaccepted (List.pairwise_append.mp suffix).1 quota late named idle
  have sound := resumed.after suffix quota late again List.mem_cons_self
  have edge := CellRate.wait_le_zero_iff (by omega) quota.burstLeast waits again.clock.now
  rw [sound.answer quota late (own ▸ named), own, kept, held]
  constructor
  · intro reached
    rw [CellRate.reserve, if_neg (not_lt.mpr (edge.mpr reached)), zero_mul]
  · intro early
    have still : 0 < CellRate.wait (interval / millisecond) burst again.clock.now (some number) := by
      by_contra free
      exact absurd (edge.mp (not_lt.mp free)) (not_le.mpr early)
    rw [CellRate.reserve, if_pos still]
    exact ⟨_, mul_pos still (by decide), rfl⟩

/-- In any run of attempts on a clock that never runs backwards, a window lets the
burst and one attempt per interval through; a rejected attempt writes nothing and
names the time from which the account is served again, and not before; and no
answer depends on which keys have expired. -/
theorem login_budget_exact (quota : AcceptedQuota burst interval) (late : ExpiresLate lapsed)
    (named : account ≠ "") (history : List LoginAttempt) (ordered : Ordered history) :
    (∀ start length : Int, 0 ≤ length →
      (((Budgets.empty.answers lapsed burst interval history).filter
        (letThrough account start length)).length : Int) ≤
          burst + length / (interval / millisecond)) ∧
      (∀ earlier attempt later delay, history = earlier ++ attempt :: later →
        attempt.phoneHash = account →
        (Budgets.empty.after lapsed burst interval earlier).answer lapsed burst interval attempt =
          .ok delay → delay ≠ 0 →
        (Budgets.empty.after lapsed burst interval earlier).next lapsed burst interval attempt =
            Budgets.empty.after lapsed burst interval earlier ∧
          ∃ wait : Int, 0 < wait ∧ delay = wait * millisecond ∧
            ∀ between again rest, later = between ++ again :: rest → again.phoneHash = account →
              (∀ answer ∈ (Budgets.empty.after lapsed burst interval (earlier ++ [attempt])).answers
                  lapsed burst interval between,
                answer.1.phoneHash = account → answer.2 ≠ .ok 0) →
              (attempt.clock.now + wait ≤ again.clock.now →
                (Budgets.empty.after lapsed burst interval (earlier ++ attempt :: between)).answer
                  lapsed burst interval again = .ok 0) ∧
              (again.clock.now < attempt.clock.now + wait →
                ∃ longer > 0,
                  (Budgets.empty.after lapsed burst interval (earlier ++ attempt :: between)).answer
                    lapsed burst interval again = .ok longer)) ∧
      Budgets.empty.answers lapsed burst interval history =
        Budgets.empty.answers (fun _ _ => false) burst interval history := by
  have spacing := quota.milliseconds
  refine ⟨?_, ?_, (Budgets.Ready.empty history).forget ordered quota late⟩
  · intro start length nonnegative
    rw [(Budgets.Ready.empty history).answers ordered quota late named]
    exact CellRate.window_bound (by omega) quota.burstLeast _ _ start nonnegative
  · intro earlier attempt later delay split own answered delayed
    subst split
    subst own
    have ready := (Budgets.Ready.empty _).after ordered quota late
    have suffix := (List.pairwise_append.mp ordered).2.1
    obtain ⟨wait, positive, told, again⟩ := ready.rejected suffix quota late named answered delayed
    refine ⟨Budgets.next_of_rejected answered delayed, wait, positive, told, ?_⟩
    intro between retry rest split own idle
    have resumed : Budgets.empty.after lapsed burst interval (earlier ++ attempt :: between) =
        ((Budgets.empty.after lapsed burst interval earlier).next lapsed burst interval
          attempt).after lapsed burst interval between :=
      List.foldl_append
    have first : Budgets.empty.after lapsed burst interval (earlier ++ [attempt]) =
        (Budgets.empty.after lapsed burst interval earlier).next lapsed burst interval attempt :=
      List.foldl_append
    rw [first] at idle
    rw [resumed]
    exact again between retry rest split own idle

end Runs

/-- One attempt per second: the second comes half a second too early. -/
theorem login_budget_exact_each_second :
    let lapsed := fun deadline now : Int => decide (deadline ≤ now)
    let history : List LoginAttempt :=
      [⟨"phone", ⟨100, 0⟩⟩, ⟨"phone", ⟨100, 500000⟩⟩, ⟨"phone", ⟨101, 0⟩⟩]
    (Budgets.empty.answers lapsed 1 second history).map (fun answer => answer.2.toOption) =
        [some 0, some 500000000, some 0] ∧
      (((Budgets.empty.answers lapsed 1 second history).filter
        (letThrough "phone" 100000 999)).length : Int) ≤ 1 := by
  intro lapsed history
  have late : ExpiresLate lapsed := fun _ _ gone => of_decide_eq_true gone
  have quota : AcceptedQuota 1 second := ⟨by decide, by decide, by decide, by decide⟩
  have ordered : Ordered history := by
    unfold Ordered history
    decide
  refine ⟨rfl, ?_⟩
  exact (login_budget_exact quota late (by decide) history ordered).1 100000 999 (by decide)

end Mall
