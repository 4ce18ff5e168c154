/-
The budget of the callback limiter.

As long as no call brings an earlier minute than a call before it, a key never gets
more than its budget in a minute.  A late call finds the window of its minute
gone, and its key starts again.
-/

import Mall.CallbackLimiter

namespace Mall

/-! ### Windows -/

namespace CallbackWindows

variable {windows : CallbackWindows} {key : String} {window : CallbackWindow}

private theorem find?_eq_some :
    windows.find? key = some window ↔ (key, window) ∈ windows.entries := by
  unfold find?
  rw [List.lookup_eq_some_iff]
  constructor
  · rintro ⟨before, later, whole, _⟩
    rw [whole]
    simp
  · intro member
    obtain ⟨before, later, whole⟩ := List.append_of_mem member
    refine ⟨before, later, whole, ?_⟩
    intro entry earlier
    have distinct := windows.distinct
    rw [whole, List.map_append, List.map_cons] at distinct
    have apart := (List.nodup_append.mp distinct).2.2 entry.1 (List.mem_map_of_mem earlier) key
      List.mem_cons_self
    simpa using fun same => apart same.symm

private theorem find?_put_self : (windows.put key window).find? key = some window :=
  find?_eq_some.mpr List.mem_cons_self

private theorem find?_put_of_ne {other : String} (different : other ≠ key) :
    (windows.put key window).find? other = windows.find? other := by
  apply Option.ext
  intro found
  rw [find?_eq_some, find?_eq_some]
  simp [put, different]

private theorem find?_keep {wanted : CallbackWindow → Bool} :
    (windows.keep wanted).find? key = some window ↔
      windows.find? key = some window ∧ wanted window = true := by
  rw [find?_eq_some, find?_eq_some]
  exact List.mem_filter

private theorem length_put_le (windows : CallbackWindows) (key : String) (window : CallbackWindow) :
    (windows.put key window).entries.length ≤ windows.entries.length + 1 ∧
      (windows.find? key ≠ none → (windows.put key window).entries.length ≤ windows.entries.length) := by
  constructor
  · exact Nat.succ_le_succ (List.length_filter_le _ _)
  · intro present
    obtain ⟨old, found⟩ := Option.ne_none_iff_exists'.mp present
    apply Nat.succ_le_of_lt
    apply List.length_filter_lt_length_iff_exists.mpr
    exact ⟨(key, old), find?_eq_some.mp found, by simp⟩

def spent (windows : CallbackWindows) (key : String) (minute : Int) : Int :=
  (windows.find? key).elim 0 (fun window => if window.minute = minute then window.count else 0)

private theorem spent_put_self {minute : Int} (same : window.minute = minute) :
    (windows.put key window).spent key minute = window.count := by
  rw [spent, find?_put_self]
  exact if_pos same

private theorem spent_put_of_ne {other : String} {minute : Int} (different : other ≠ key) :
    (windows.put key window).spent other minute = windows.spent other minute := by
  rw [spent, find?_put_of_ne different, spent]

end CallbackWindows

namespace ProviderCallbackLimiter

variable {limiter : ProviderCallbackLimiter} {key : String} {minute : Int}

private theorem spent_cleaned (key : String) :
    (limiter.cleaned minute).spent key minute = limiter.windows.spent key minute := by
  unfold cleaned
  split
  · cases found : limiter.windows.find? key with
    | none =>
        have gone : (limiter.windows.keep (fun window => !decide (window.minute < minute))).find? key =
            none := by
          rw [Option.eq_none_iff_forall_ne_some]
          intro window kept
          rw [(CallbackWindows.find?_keep.mp kept).1] at found
          cases found
        rw [CallbackWindows.spent, gone, CallbackWindows.spent, found]
    | some window =>
        by_cases here : window.minute = minute
        · have kept : (limiter.windows.keep (fun window => !decide (window.minute < minute))).find? key =
              some window :=
            CallbackWindows.find?_keep.mpr ⟨found, by simp [here]⟩
          rw [CallbackWindows.spent, kept, CallbackWindows.spent, found]
        · have before : limiter.windows.spent key minute = 0 := by
            rw [CallbackWindows.spent, found]
            exact if_neg here
          rw [before, CallbackWindows.spent]
          cases kept : (limiter.windows.keep (fun window => !decide (window.minute < minute))).find?
              key with
          | none => rfl
          | some other =>
              have same := (CallbackWindows.find?_keep.mp kept).1
              rw [found] at same
              cases same
              exact if_neg here
  · rfl

private theorem length_cleaned_le :
    (limiter.cleaned minute).entries.length ≤ limiter.windows.entries.length := by
  unfold cleaned
  split
  · exact List.length_filter_le _ _
  · exact le_refl _

private theorem find?_cleaned {window : CallbackWindow}
    (found : (limiter.cleaned minute).find? key = some window) :
    limiter.windows.find? key = some window := by
  unfold cleaned at found
  split at found
  · exact (CallbackWindows.find?_keep.mp found).1
  · exact found

/-! ### One call -/

private theorem current_window (windows : CallbackWindows) (key : String) (minute : Int) :
    (if ((windows.find? key).getD { minute := 0, count := 0 }).minute ≠ minute then
        { minute := minute, count := 0 }
      else (windows.find? key).getD { minute := 0, count := 0 }) =
      ({ minute := minute, count := windows.spent key minute } : CallbackWindow) := by
  unfold CallbackWindows.spent
  cases windows.find? key with
  | none =>
      simp only [Option.getD_none, Option.elim_none]
      split
      · rfl
      · next same => rw [not_not.mp same]
  | some window =>
      simp only [Option.getD_some, Option.elim_some]
      split
      · rfl
      · next same =>
        rw [if_pos (not_not.mp same)]
        obtain ⟨its, count⟩ := window
        rw [show its = minute from not_not.mp same]

/-- What a call can do: nothing but the cleanup when the table is full, and otherwise
the window of its key becomes one of its minute. -/
theorem allow_cases (limiter : ProviderCallbackLimiter) (key : String) (now : Time) :
    let windows := limiter.cleaned (unixMinute now)
    let spent := limiter.windows.spent key (unixMinute now)
    let next := (limiter.allow key now).2
    next.limit = limiter.limit ∧ next.maxKeys = limiter.maxKeys ∧
      (((limiter.allow key now).1 = false ∧ next.windows = windows ∧
          windows.find? key = none ∧ limiter.maxKeys ≤ windows.entries.length) ∨
        ((windows.find? key = none → windows.entries.length < limiter.maxKeys) ∧
          ((limiter.limit ≤ spent ∧ (limiter.allow key now).1 = false ∧
              next.windows = windows.put key { minute := unixMinute now, count := spent }) ∨
            (spent < limiter.limit ∧ (limiter.allow key now).1 = true ∧
              next.windows = windows.put key { minute := unixMinute now, count := spent + 1 })))) := by
  intro windows spent next
  have counted : windows.spent key (unixMinute now) = spent := spent_cleaned key
  by_cases full : windows.find? key = none ∧ limiter.maxKeys ≤ windows.entries.length
  · have outcome : limiter.allow key now =
        (false, { limiter with lastCleanupMinute := unixMinute now, windows := windows }) :=
      if_pos full
    dsimp only [next]
    rw [outcome]
    exact ⟨rfl, rfl, .inl ⟨rfl, rfl, full⟩⟩
  · have room : windows.find? key = none → windows.entries.length < limiter.maxKeys :=
      fun absent => Nat.lt_of_not_le (fun most => full ⟨absent, most⟩)
    have outcome : limiter.allow key now =
        if limiter.limit ≤ spent then
          (false,
            { limiter with
              lastCleanupMinute := unixMinute now
              windows := windows.put key { minute := unixMinute now, count := spent } })
        else
          (true,
            { limiter with
              lastCleanupMinute := unixMinute now
              windows := windows.put key { minute := unixMinute now, count := spent + 1 } }) := by
      rw [← counted]
      unfold allow
      simp only [if_neg full, current_window, windows]
    by_cases used : limiter.limit ≤ spent
    · rw [if_pos used] at outcome
      dsimp only [next]
      rw [outcome]
      exact ⟨rfl, rfl, .inr ⟨room, .inl ⟨used, rfl, rfl⟩⟩⟩
    · rw [if_neg used] at outcome
      dsimp only [next]
      rw [outcome]
      exact ⟨rfl, rfl, .inr ⟨room, .inr ⟨lt_of_not_ge used, rfl, rfl⟩⟩⟩

private theorem spent_allow (limiter : ProviderCallbackLimiter) (key other : String) (now : Time) :
    (limiter.allow key now).2.windows.spent other (unixMinute now) =
      limiter.windows.spent other (unixMinute now) +
        (if other = key ∧ (limiter.allow key now).1 = true then 1 else 0) := by
  have before : (limiter.cleaned (unixMinute now)).spent other (unixMinute now) =
      limiter.windows.spent other (unixMinute now) := spent_cleaned other
  obtain ⟨_, _, ⟨refused, windows, _⟩ | ⟨_, ⟨_, refused, windows⟩ | ⟨_, allowed, windows⟩⟩⟩ :=
    allow_cases limiter key now
  · rw [windows, before, refused]
    simp
  · rw [windows, refused]
    by_cases here : other = key
    · subst here
      rw [CallbackWindows.spent_put_self rfl]
      simp
    · rw [CallbackWindows.spent_put_of_ne here, before]
      simp
  · rw [windows, allowed]
    by_cases here : other = key
    · subst here
      rw [CallbackWindows.spent_put_self rfl]
      simp
    · rw [CallbackWindows.spent_put_of_ne here, before]
      simp [here]

/-- No window is ahead of this minute, and none is over the budget. -/
structure Within (limiter : ProviderCallbackLimiter) (minute : Int) : Prop where
  positive : 0 ≤ limiter.limit
  windows : ∀ key window, limiter.windows.find? key = some window →
    window.minute ≤ minute ∧ 0 ≤ window.count ∧ window.count ≤ limiter.limit

private theorem Within.spent (within : limiter.Within minute) (key : String) (other : Int) :
    0 ≤ limiter.windows.spent key other ∧ limiter.windows.spent key other ≤ limiter.limit := by
  unfold CallbackWindows.spent
  cases found : limiter.windows.find? key with
  | none => exact ⟨le_refl _, within.positive⟩
  | some window =>
      obtain ⟨_, least, most⟩ := within.windows key window found
      simp only [Option.elim_some]
      split
      · exact ⟨least, most⟩
      · exact ⟨le_refl _, within.positive⟩

/-- Nothing has been used up in a minute that is still to come. -/
theorem Within.spent_later (within : limiter.Within minute) {later : Int} (after : minute < later)
    (key : String) : limiter.windows.spent key later = 0 := by
  unfold CallbackWindows.spent
  cases found : limiter.windows.find? key with
  | none => rfl
  | some window =>
      obtain ⟨early, _⟩ := within.windows key window found
      exact if_neg (by omega)

private theorem Within.allow (within : limiter.Within minute) {now : Time} (key : String)
    (inOrder : minute ≤ unixMinute now) :
    (limiter.allow key now).2.Within (unixMinute now) := by
  have spent := within.spent key (unixMinute now)
  have kept : ∀ other window, (limiter.cleaned (unixMinute now)).find? other = some window →
      window.minute ≤ unixMinute now ∧ 0 ≤ window.count ∧ window.count ≤ limiter.limit := by
    intro other window found
    obtain ⟨early, bounds⟩ := within.windows other window (find?_cleaned found)
    exact ⟨early.trans inOrder, bounds⟩
  have replaced : ∀ count, 0 ≤ count → count ≤ limiter.limit → ∀ other window,
      ((limiter.cleaned (unixMinute now)).put key
        { minute := unixMinute now, count := count }).find? other = some window →
      window.minute ≤ unixMinute now ∧ 0 ≤ window.count ∧ window.count ≤ limiter.limit := by
    intro count least most other window found
    by_cases here : other = key
    · subst here
      rw [CallbackWindows.find?_put_self] at found
      cases found
      exact ⟨le_refl _, least, most⟩
    · rw [CallbackWindows.find?_put_of_ne here] at found
      exact kept other window found
  obtain ⟨limit, _, ⟨_, windows, _⟩ | ⟨_, ⟨_, _, windows⟩ | ⟨free, _, windows⟩⟩⟩ :=
    allow_cases limiter key now
  · refine ⟨limit ▸ within.positive, ?_⟩
    rw [windows, limit]
    exact kept
  · refine ⟨limit ▸ within.positive, ?_⟩
    rw [windows, limit]
    exact replaced _ spent.1 spent.2
  · refine ⟨limit ▸ within.positive, ?_⟩
    rw [windows, limit]
    exact replaced _ (by omega) (by omega)

private theorem length_allow (key : String) (now : Time)
    (fits : limiter.windows.entries.length ≤ limiter.maxKeys) :
    (limiter.allow key now).2.windows.entries.length ≤ (limiter.allow key now).2.maxKeys := by
  have cleaned : (limiter.cleaned (unixMinute now)).entries.length ≤ limiter.maxKeys :=
    length_cleaned_le.trans fits
  have replaced : ∀ window,
      ((limiter.cleaned (unixMinute now)).find? key = none →
        (limiter.cleaned (unixMinute now)).entries.length < limiter.maxKeys) →
      ((limiter.cleaned (unixMinute now)).put key window).entries.length ≤ limiter.maxKeys := by
    intro window room
    obtain ⟨most, same⟩ := CallbackWindows.length_put_le (limiter.cleaned (unixMinute now)) key window
    by_cases absent : (limiter.cleaned (unixMinute now)).find? key = none
    · exact most.trans (Nat.succ_le_of_lt (room absent))
    · exact (same absent).trans cleaned
  obtain ⟨_, keys, ⟨_, windows, _⟩ | ⟨room, ⟨_, _, windows⟩ | ⟨_, _, windows⟩⟩⟩ :=
    allow_cases limiter key now
  · rw [windows, keys]
    exact cleaned
  · rw [windows, keys]
    exact replaced _ room
  · rw [windows, keys]
    exact replaced _ room

/-! ### Sequences of calls -/

private theorem length_after (calls : List CallbackCall)
    (fits : limiter.windows.entries.length ≤ limiter.maxKeys) :
    (limiter.after calls).windows.entries.length ≤ (limiter.after calls).maxKeys := by
  induction calls generalizing limiter with
  | nil => exact fits
  | cons call rest ih => exact ih (length_allow call.key call.now fits)

private theorem maxKeys_after (calls : List CallbackCall) :
    (limiter.after calls).maxKeys = limiter.maxKeys := by
  induction calls generalizing limiter with
  | nil => rfl
  | cons call rest ih =>
      obtain ⟨_, keys, _⟩ := allow_cases limiter call.key call.now
      exact ih.trans keys

private theorem accepted_cons (limiter : ProviderCallbackLimiter) (call : CallbackCall)
    (rest : List CallbackCall) :
    limiter.accepted (call :: rest) =
      if (limiter.allow call.key call.now).1 = true then
        call :: (limiter.allow call.key call.now).2.accepted rest
      else (limiter.allow call.key call.now).2.accepted rest :=
  rfl

private theorem accepted_sublist (calls : List CallbackCall) :
    (limiter.accepted calls).Sublist calls := by
  induction calls generalizing limiter with
  | nil => exact .slnil
  | cons call rest ih =>
      rw [accepted_cons]
      split
      · exact ih.cons_cons call
      · exact ih.cons call

/-- What is accepted from here on fits into what is left of the budget. -/
theorem countCalls_accepted_le {calls : List CallbackCall} (within : limiter.Within minute)
    (later : ∀ call ∈ calls, minute ≤ call.minute)
    (inOrder : calls.Pairwise (fun first second => first.minute ≤ second.minute))
    (key : String) (wanted : Int) :
    countCalls (limiter.accepted calls) key wanted + limiter.windows.spent key wanted ≤
      limiter.limit := by
  induction calls generalizing limiter minute with
  | nil => simpa [accepted, countCalls] using (within.spent key wanted).2
  | cons call rest ih =>
      obtain ⟨ahead, restInOrder⟩ := List.pairwise_cons.mp inOrder
      have now : minute ≤ unixMinute call.now := later call List.mem_cons_self
      have next := within.allow call.key now
      have limit : (limiter.allow call.key call.now).2.limit = limiter.limit :=
        (allow_cases limiter call.key call.now).1
      have left := ih next ahead restInOrder
      rw [limit] at left
      have counted : countCalls (limiter.accepted (call :: rest)) key wanted =
          countCalls ((limiter.allow call.key call.now).2.accepted rest) key wanted +
            (if (call.key = key ∧ unixMinute call.now = wanted) ∧
              (limiter.allow call.key call.now).1 = true then 1 else 0) := by
        rw [accepted_cons]
        split
        · next allowed =>
          rw [countCalls, List.countP_cons, countCalls]
          simp only [allowed, and_true, decide_eq_true_eq]
          rfl
        · next refused => simp [refused]
      rw [counted]
      rcases lt_trichotomy (unixMinute call.now) wanted with early | here | late
      · -- Nothing is used up yet in a minute that is still to come.
        have none := within.spent_later (now.trans_lt early) key
        have room := (next.spent key wanted).1
        rw [if_neg (by omega)]
        omega
      · have spent := spent_allow limiter call.key key call.now
        rw [here] at spent
        have same : (key = call.key ∧ (limiter.allow call.key call.now).1 = true) ↔
            (call.key = key ∧ unixMinute call.now = wanted) ∧
              (limiter.allow call.key call.now).1 = true := by
          rw [and_iff_left here, eq_comm]
        rw [if_congr same rfl rfl] at spent
        by_cases counts : (call.key = key ∧ unixMinute call.now = wanted) ∧
            (limiter.allow call.key call.now).1 = true
        · rw [if_pos counts] at spent ⊢
          push_cast
          omega
        · rw [if_neg counts] at spent ⊢
          push_cast
          omega
      · -- No call of this minute is left.
        have none : countCalls ((limiter.allow call.key call.now).2.accepted rest) key wanted = 0 := by
          rw [countCalls, List.countP_eq_zero]
          intro other member found
          have after := ahead other ((accepted_sublist rest).mem member)
          have minute : other.minute = wanted := (of_decide_eq_true found).2
          have start : unixMinute call.now = call.minute := rfl
          omega
        have most := (within.spent key wanted).2
        rw [none, if_neg (by omega)]
        push_cast
        omega

private theorem newProviderCallbackLimiter_within {limit : Int} (positive : 0 ≤ limit)
    (minute : Int) :
    (newProviderCallbackLimiter limit).Within minute :=
  { positive := positive
    windows := fun _ _ found => by cases found }

/-- The number of keys is always bounded, and calls that come in the order of their
minutes stay within the budget of each key and minute. -/
theorem accepted_within_budget {limit : Int} (positive : 1 ≤ limit) (calls : List CallbackCall) :
    (∀ earlier later, calls = earlier ++ later →
      ((newProviderCallbackLimiter limit).after earlier).windows.entries.length ≤ 4096) ∧
    (calls.Pairwise (fun first second => first.minute ≤ second.minute) → ∀ key minute,
      (countCalls ((newProviderCallbackLimiter limit).accepted calls) key minute : Int) ≤ limit) := by
  constructor
  · intro earlier later _
    have fits := (newProviderCallbackLimiter limit).length_after earlier (Nat.zero_le _)
    rw [maxKeys_after] at fits
    exact fits
  · intro inOrder key minute
    cases calls with
    | nil => exact le_trans zero_le_one positive
    | cons first rest =>
        have within := newProviderCallbackLimiter_within (zero_le_one.trans positive) first.minute
        have later : ∀ call ∈ first :: rest, first.minute ≤ call.minute := by
          intro call member
          rcases List.mem_cons.mp member with rfl | behind
          · exact le_refl _
          · exact (List.pairwise_cons.mp inOrder).1 call behind
        have most := countCalls_accepted_le within later inOrder key minute
        have least := (within.spent key minute).1
        exact (le_add_of_nonneg_right least).trans most

/-- Two calls in the tenth minute and one in the eleventh. -/
theorem accepted_within_budget_ordered :
    (countCalls ((newProviderCallbackLimiter 1).accepted
      [⟨"alipay", 600 * second⟩, ⟨"alipay", 601 * second⟩, ⟨"alipay", 660 * second⟩])
      "alipay" 10 : Int) ≤ 1 :=
  (accepted_within_budget (le_refl 1) _).2 (by decide) "alipay" 10

/-- The second call of the tenth minute comes after a call of the eleventh, and is
accepted although the budget is used up. -/
theorem accepted_late_call :
    countCalls ((newProviderCallbackLimiter 1).accepted
      [⟨"alipay", 600 * second⟩, ⟨"alipay", 660 * second⟩, ⟨"alipay", 601 * second⟩])
      "alipay" 10 = 2 := by
  decide

end ProviderCallbackLimiter

end Mall
