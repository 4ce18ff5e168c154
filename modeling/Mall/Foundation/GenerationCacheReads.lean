/-
Reads of a generation cache.

Once the generation of a key was raised, a read of the key that begins afterwards
returns what the data gave at some moment since before the raise.
-/

import Mall.Foundation.GenerationCacheDebts
import Mathlib.Data.List.Induction

namespace GenerationCache

open Transactional

variable {κ σ δ α π γ ρ : Type}

/-! ### What a read can return -/

section Recency

variable {scheme : Scheme κ σ δ α π γ ρ} {Early : σ → σ → Prop} {state later : State κ σ α π γ ρ}
  {key : κ} {limit : Nat} {seen : α → Prop}

def Scheme.SeenHalf (scheme : Scheme κ σ δ α π γ ρ) (Early : σ → σ → Prop) (seen : α → Prop)
    (key : κ) (database : σ) (half : π) : Prop :=
  ∃ before, half = scheme.first key before ∧ Early before database ∧
    seen (scheme.project key before)

theorem Scheme.SeenHalf.second {database : σ} {half : π} (lawful : scheme.Lawful Early)
    (begun : scheme.SeenHalf Early seen key database half) :
    seen (scheme.second key half database) := by
  obtain ⟨before, rfl, early, known⟩ := begun
  rw [lawful.stable before database key early]
  exact known

def Scheme.SeenStage (scheme : Scheme κ σ δ α π γ ρ) (Early : σ → σ → Prop) (seen : α → Prop)
    (key : κ) (database : σ) : Stage α π → Prop
  | .half half => scheme.SeenHalf Early seen key database half
  | .loaded value => seen value
  | .done value => seen value
  | _ => True

def Scheme.SeenReader (scheme : Scheme κ σ δ α π γ ρ) (Early : σ → σ → Prop) (seen : α → Prop)
    (key : κ) (limit : Nat) (database : σ) : Reader κ α π → Prop
  | .keyed _ other generation => other = key → limit < generation
  | .missed _ other generation => other = key → limit < generation
  | .waiting _ other generation => other = key → limit < generation
  | .direct _ => True
  | .directHalf other half => other = key → scheme.SeenHalf Early seen key database half
  | .returned other value => other = key → seen value

/-- Whatever the cache holds above a generation was seen. -/
structure Scheme.Recent (scheme : Scheme κ σ δ α π γ ρ) (Early : σ → σ → Prop) (seen : α → Prop)
    (key : κ) (limit : Nat) (state : State κ σ α π γ ρ) : Prop where
  values : ∀ generation value, limit < generation →
    state.values (scheme.slot key generation) = some value → seen value
  flights : ∀ server slot flight, state.flights server slot = some flight → flight.key = key →
    limit < flight.generation → scheme.SeenStage Early seen key state.database flight.stage

theorem Scheme.Sound.recent (sound : scheme.Sound Early state) (seen : α → Prop) (key : κ) :
    scheme.Recent Early seen key (state.generation (scheme.generationKey key)) state := by
  refine ⟨?_, ?_⟩
  · intro generation value above stored
    exact absurd (sound.values key generation value stored).1 (Nat.not_le_of_gt above)
  · rintro server slot flight flying rfl above
    exact absurd (sound.flights server slot flight flying).2.1 (Nat.not_le_of_gt above)

theorem Scheme.SeenHalf.mono {more : α → Prop} {database after : σ} {half : π}
    (grows : ∀ value, seen value → more value)
    (early : ∀ before, Early before database → Early before after)
    (begun : scheme.SeenHalf Early seen key database half) :
    scheme.SeenHalf Early more key after half := by
  obtain ⟨before, same, old, known⟩ := begun
  exact ⟨before, same, early before old, grows _ known⟩

theorem Scheme.SeenStage.mono {more : α → Prop} {database after : σ} {stage : Stage α π}
    (grows : ∀ value, seen value → more value)
    (early : ∀ before, Early before database → Early before after)
    (known : scheme.SeenStage Early seen key database stage) :
    scheme.SeenStage Early more key after stage := by
  cases stage with
  | checking => trivial
  | loading => trivial
  | half half => exact Scheme.SeenHalf.mono grows early known
  | loaded value => exact grows value known
  | done value => exact grows value known

theorem Scheme.SeenReader.mono {more : α → Prop} {database after : σ} {stage : Reader κ α π}
    (grows : ∀ value, seen value → more value)
    (early : ∀ before, Early before database → Early before after)
    (known : scheme.SeenReader Early seen key limit database stage) :
    scheme.SeenReader Early more key limit after stage := by
  cases stage with
  | keyed server other generation => exact known
  | missed server other generation => exact known
  | waiting server other generation => exact known
  | direct other => trivial
  | directHalf other half => exact fun same => (known same).mono grows early
  | returned other value => exact fun same => grows value (known same)

theorem Scheme.Recent.mono {more : α → Prop} (recent : scheme.Recent Early seen key limit state)
    (grows : ∀ value, seen value → more value) : scheme.Recent Early more key limit state := by
  refine ⟨?_, ?_⟩
  · intro generation value above stored
    exact grows value (recent.values generation value above stored)
  · intro server slot flight flying same above
    exact (recent.flights server slot flight flying same above).mono grows (fun _ early => early)

theorem Scheme.Recent.follow (recent : scheme.Recent Early seen key limit state)
    (early : ∀ before, Early before state.database → Early before later.database)
    (values : ∀ generation value, limit < generation →
      later.values (scheme.slot key generation) = some value →
        state.values (scheme.slot key generation) = some value ∨ seen value)
    (flights : ∀ server slot flight, later.flights server slot = some flight → flight.key = key →
      limit < flight.generation → state.flights server slot = some flight ∨
        scheme.SeenStage Early seen key later.database flight.stage) :
    scheme.Recent Early seen key limit later := by
  refine ⟨?_, ?_⟩
  · intro generation value above stored
    rcases values generation value above stored with old | new
    · exact recent.values generation value above old
    · exact new
  · intro server slot flight flying same above
    rcases flights server slot flight flying same above with old | new
    · exact (recent.flights server slot flight old same above).mono (fun _ known => known) early
    · exact new

theorem Scheme.Recent.aside (recent : scheme.Recent Early seen key limit state)
    (early : ∀ before, Early before state.database → Early before later.database)
    (aside : state.Aside later) : scheme.Recent Early seen key limit later := by
  refine recent.follow early ?_ ?_
  · intro generation value _ stored
    exact Or.inl (aside.values ▸ stored)
  · intro server slot flight flying _ _
    exact Or.inl (aside.flights ▸ flying)

theorem Scheme.Recent.setReader (recent : scheme.Recent Early seen key limit state) (reader : Nat)
    (stage : Option (Reader κ α π)) :
    scheme.Recent Early seen key limit (state.setReader reader stage) :=
  ⟨recent.values, recent.flights⟩

variable [DecidableEq ρ]

theorem Scheme.Recent.setFlight {server : Nat} {slot : ρ} {flight : Option (Flight κ α π)}
    (recent : scheme.Recent Early seen key limit state)
    (known : ∀ next, flight = some next → next.key = key → limit < next.generation →
      scheme.SeenStage Early seen key state.database next.stage) :
    scheme.Recent Early seen key limit (state.setFlight server slot flight) := by
  refine recent.follow (fun _ early => early) (fun _ _ _ stored => Or.inl stored) ?_
  intro host place next flying same above
  rcases State.setFlight_cases flying with old | ⟨_, _, new⟩
  · exact Or.inl old
  · exact Or.inr (known next new same above)

theorem Scheme.Recent.settle (recent : scheme.Recent Early seen key limit state) (server : Nat)
    (slot : ρ) (result : Option α) :
    scheme.Recent Early seen key limit (scheme.settle server slot result state) := by
  have removed : scheme.Recent Early seen key limit (state.setFlight server slot none) := by
    refine recent.setFlight ?_
    rintro next ⟨⟩
  exact ⟨removed.values, removed.flights⟩

theorem Scheme.Recent.read (recent : scheme.Recent Early seen key limit state) (reader : Nat)
    (answers : Bool) (stage : Reader κ α π) :
    scheme.Recent Early seen key limit (scheme.read reader answers stage state) := by
  unfold Scheme.read
  split
  · split
    · exact recent.setReader reader _
    · exact recent.setReader reader _
  · dsimp only
    split
    · exact recent.setReader reader _
    · refine (recent.setReader reader _).setFlight ?_
      rintro next ⟨⟩ _ _
      trivial
  · exact recent.setReader reader _
  · exact recent.setReader reader _
  · exact recent
  · exact recent

theorem Scheme.Recent.fly {server : Nat} {slot : ρ} {flight : Flight κ α π}
    (lawful : scheme.Lawful Early) (sound : scheme.Sound Early state)
    (recent : scheme.Recent Early seen key limit state)
    (current : seen (scheme.project key state.database))
    (flying : state.flights server slot = some flight) (answers : Bool) :
    scheme.Recent Early seen key limit (scheme.fly server slot answers flight state) := by
  obtain ⟨about, _, _⟩ := sound.flights server slot flight flying
  have carried := recent.flights server slot flight flying
  have proceed : ∀ stage, (flight.key = key → limit < flight.generation →
      scheme.SeenStage Early seen key state.database stage) →
      scheme.Recent Early seen key limit (state.proceed server slot flight stage) := by
    intro stage known
    refine recent.setFlight ?_
    rintro next ⟨⟩
    exact known
  unfold Scheme.fly
  split
  · split
    · next value found =>
        obtain ⟨stored, _⟩ := Option.filter_eq_some_iff.mp found
        refine proceed _ ?_
        rintro rfl above
        rw [about] at stored
        exact recent.values flight.generation value above stored
    · exact proceed _ (fun _ _ => trivial)
  · refine proceed _ ?_
    rintro rfl _
    exact ⟨state.database, rfl, lawful.refl _, current⟩
  · next half stage =>
      rw [stage] at carried
      refine proceed _ ?_
      rintro rfl above
      exact Scheme.SeenHalf.second lawful (carried rfl above)
  · next value stage =>
      rw [stage] at carried
      have done := proceed (.done value) carried
      dsimp only
      split
      · refine done.follow (fun _ early => early) ?_ (fun _ _ _ going _ _ => Or.inl going)
        intro generation other above stored
        change Function.update state.values slot (some value) _ = some other at stored
        by_cases same : scheme.slot key generation = slot
        · rw [same, Function.update_self] at stored
          cases stored
          obtain ⟨rfl, rfl⟩ := lawful.slotInjective (same.trans about)
          exact Or.inr (carried rfl above)
        · rw [Function.update_of_ne same] at stored
          exact Or.inl stored
      · exact done
  · exact recent.settle server slot _

theorem Scheme.SeenReader.settle {reader server : Nat} {slot : ρ} {result : Option α}
    (known : ∀ stage, state.readers reader = some stage →
      scheme.SeenReader Early seen key limit state.database stage)
    (answer : ∀ generation value, limit < generation → scheme.slot key generation = slot →
      result = some value → seen value) :
    ∀ stage, (scheme.settle server slot result state).readers reader = some stage →
      scheme.SeenReader Early seen key limit state.database stage := by
  intro stage reading
  obtain ⟨before, old, answered⟩ := Option.bind_eq_some_iff.mp reading
  have waits := known before old
  unfold Scheme.answer at answered
  split at answered
  · next host other generation =>
      split at answered
      · next served =>
          obtain ⟨value, given, rfl⟩ := Option.map_eq_some_iff.mp answered
          rintro rfl
          exact answer generation value (waits rfl) served.2 given
      · cases answered
        exact waits
  · cases answered
    exact waits

theorem Scheme.SeenReader.read {reader : Nat} {stage : Reader κ α π} (lawful : scheme.Lawful Early)
    (recent : scheme.Recent Early seen key limit state)
    (current : seen (scheme.project key state.database))
    (known : scheme.SeenReader Early seen key limit state.database stage)
    (reading : state.readers reader = some stage) (answers : Bool) :
    ∀ next, (scheme.read reader answers stage state).readers reader = some next →
      scheme.SeenReader Early seen key limit state.database next := by
  have becomes : ∀ stage next : Reader κ α π,
      (state.setReader reader (some stage)).readers reader = some next → stage = next := by
    intro stage next after
    change Function.update state.readers reader (some stage) reader = some next at after
    rw [Function.update_self] at after
    exact Option.some.inj after
  unfold Scheme.read
  split
  · next server other generation =>
      split
      · next value found =>
          obtain ⟨stored, _⟩ := Option.filter_eq_some_iff.mp found
          intro next after
          cases becomes _ next after
          rintro rfl
          exact recent.values generation value (known rfl) stored
      · intro next after
        cases becomes _ next after
        exact known
  · next server other generation =>
      dsimp only
      split
      · intro next after
        cases becomes _ next after
        exact known
      · intro next after
        cases becomes _ next after
        exact known
  · intro next after
    cases becomes _ next after
    rintro rfl
    exact ⟨state.database, rfl, lawful.refl _, current⟩
  · next other half =>
      intro next after
      cases becomes _ next after
      rintro rfl
      exact Scheme.SeenHalf.second lawful (known rfl)
  · intro next after
    cases reading.symm.trans after
    exact known
  · intro next after
    cases reading.symm.trans after
    exact known

theorem Scheme.read_readers_of_ne {reader other : Nat} {stage : Reader κ α π} {answers : Bool}
    (different : other ≠ reader) :
    (scheme.read reader answers stage state).readers other = state.readers other := by
  have apart : ∀ next, (state.setReader reader next).readers other = state.readers other :=
    fun next => Function.update_of_ne different ..
  unfold Scheme.read
  split
  · split
    · exact apart _
    · exact apart _
  · dsimp only
    split
    · exact apart _
    · exact apart _
  · exact apart _
  · exact apart _
  · rfl
  · rfl

theorem Scheme.fly_readers (server : Nat) (slot : ρ) (answers : Bool) (flight : Flight κ α π) :
    (scheme.fly server slot answers flight state).readers = state.readers ∨
      ∃ value, flight.stage = .done value ∧
        scheme.fly server slot answers flight state =
          scheme.settle server slot (some value) state := by
  unfold Scheme.fly
  split
  · split
    · exact Or.inl rfl
    · exact Or.inl rfl
  · exact Or.inl rfl
  · exact Or.inl rfl
  · dsimp only
    split
    · exact Or.inl rfl
    · exact Or.inl rfl
  · next value stage => exact Or.inr ⟨value, stage, rfl⟩

variable [DecidableEq γ]

theorem Scheme.Recent.next (lawful : scheme.Lawful Early) (sound : scheme.Sound Early state)
    (recent : scheme.Recent Early seen key limit state)
    (current : seen (scheme.project key state.database)) (event : Event κ δ γ ρ) :
    scheme.Recent Early seen key limit (scheme.next event state) := by
  have early := (Scheme.Follows.next lawful event : scheme.Follows Early state _).early
  cases event with
  | begin reader server other answers =>
      unfold Scheme.next
      dsimp only
      split
      · exact recent
      · exact recent.setReader reader _
  | read reader answers =>
      unfold Scheme.next
      dsimp only
      split
      · exact recent
      · exact recent.read reader answers _
  | fly server slot answers =>
      unfold Scheme.next
      dsimp only
      split
      · exact recent
      · next flight flying => exact recent.fly lawful sound current flying answers
  | fail server slot => exact recent.settle server slot none
  | leave reader => exact recent.setReader reader none
  | commit writer transaction bumps => exact recent.aside early ⟨rfl, rfl, rfl⟩
  | bump writer => exact recent.aside early (state.bump_aside writer)
  | abandon writer => exact recent.aside early ⟨rfl, rfl, rfl⟩
  | lock flusher limit => exact recent.aside early (state.lock_aside flusher limit)
  | flush flusher => exact recent.aside early (state.flush_aside flusher)
  | delete flusher => exact recent.aside early (state.delete_aside flusher)
  | rollback flusher => exact recent.aside early ⟨rfl, rfl, rfl⟩
  | expire slot =>
      refine recent.follow early ?_ (fun _ _ _ flying _ _ => Or.inl flying)
      intro generation value _ stored
      change Function.update state.values slot none _ = some value at stored
      by_cases same : scheme.slot key generation = slot
      · rw [same, Function.update_self] at stored
        cases stored
      · rw [Function.update_of_ne same] at stored
        exact Or.inl stored

/-- A read that began above the generation returns what was seen. -/
theorem Scheme.SeenReader.next {reader : Nat} (lawful : scheme.Lawful Early)
    (sound : scheme.Sound Early state) (recent : scheme.Recent Early seen key limit state)
    (current : seen (scheme.project key state.database))
    (raised : limit < state.generation (scheme.generationKey key))
    (known : ∀ stage, state.readers reader = some stage →
      scheme.SeenReader Early seen key limit state.database stage) (event : Event κ δ γ ρ) :
    ∀ stage, (scheme.next event state).readers reader = some stage →
      scheme.SeenReader Early seen key limit (scheme.next event state).database stage := by
  have early := (Scheme.Follows.next lawful event : scheme.Follows Early state _).early
  -- It is enough to look at the reader's own steps, against the data before.
  suffices steps : ∀ stage, (scheme.next event state).readers reader = some stage →
      scheme.SeenReader Early seen key limit state.database stage from
    fun stage reading => (steps stage reading).mono (fun _ same => same) early
  have aside : ∀ {later : State κ σ α π γ ρ}, state.Aside later → ∀ stage,
      later.readers reader = some stage →
        scheme.SeenReader Early seen key limit state.database stage := by
    intro later aside stage reading
    exact known stage (aside.readers ▸ reading)
  cases event with
  | begin who server other answers =>
      unfold Scheme.next
      dsimp only
      split
      · exact known
      · intro stage reading
        rcases State.setReader_cases reading with old | new
        · exact known stage old
        · cases new
          split
          · rintro rfl
            exact raised
          · trivial
  | read who answers =>
      unfold Scheme.next
      dsimp only
      split
      · exact known
      · next stage reading =>
          by_cases same : who = reader
          · subst same
            exact Scheme.SeenReader.read lawful recent current (known stage reading) reading answers
          · intro next after
            rw [Scheme.read_readers_of_ne (Ne.symm same)] at after
            exact known next after
  | fly server slot answers =>
      unfold Scheme.next
      dsimp only
      split
      · exact known
      · next flight flying =>
          rcases @Scheme.fly_readers _ _ _ _ _ _ _ scheme state _ server slot answers flight with
            same | ⟨value, stage, settled⟩
          · intro stage reading
            exact known stage (same ▸ reading)
          · rw [settled]
            refine Scheme.SeenReader.settle known ?_
            rintro generation given above rfl ⟨⟩
            obtain ⟨about, _, _⟩ := sound.flights server _ flight flying
            obtain ⟨rfl, rfl⟩ := lawful.slotInjective about
            have carried := recent.flights server _ flight flying rfl above
            rw [stage] at carried
            exact carried
  | fail server slot =>
      refine Scheme.SeenReader.settle known ?_
      rintro generation value _ _ ⟨⟩
  | leave who =>
      intro stage reading
      rcases State.setReader_cases reading with old | new
      · exact known stage old
      · cases new
  | commit writer transaction bumps => exact aside ⟨rfl, rfl, rfl⟩
  | bump writer => exact aside (state.bump_aside writer)
  | abandon writer => exact aside ⟨rfl, rfl, rfl⟩
  | lock flusher limit => exact aside (state.lock_aside flusher limit)
  | flush flusher => exact aside (state.flush_aside flusher)
  | delete flusher => exact aside (state.delete_aside flusher)
  | rollback flusher => exact aside ⟨rfl, rfl, rfl⟩
  | expire slot => exact known

/-! ### Runs -/

def Scheme.SeenDuring (scheme : Scheme κ σ δ α π γ ρ) (start : State κ σ α π γ ρ) (key : κ)
    (history : List (Event κ δ γ ρ)) (value : α) : Prop :=
  ∃ moment, moment <+: history ∧
    value = scheme.project key (run scheme.next start moment).database

theorem Scheme.SeenDuring.mono {start : State κ σ α π γ ρ} {history more : List (Event κ δ γ ρ)}
    {value : α} (grows : history <+: more) (during : scheme.SeenDuring start key history value) :
    scheme.SeenDuring start key more value := by
  obtain ⟨moment, within, same⟩ := during
  exact ⟨moment, within.trans grows, same⟩

theorem Scheme.SeenDuring.now (start : State κ σ α π γ ρ) (history : List (Event κ δ γ ρ)) :
    scheme.SeenDuring start key history
      (scheme.project key (run scheme.next start history).database) :=
  ⟨history, List.prefix_rfl, rfl⟩

theorem Scheme.Sound.run (lawful : scheme.Lawful Early) (sound : scheme.Sound Early state)
    (history : List (Event κ δ γ ρ)) :
    scheme.Sound Early (run scheme.next state history) := by
  induction history generalizing state with
  | nil => exact sound
  | cons event rest ih => exact ih (sound.next lawful event)

theorem Scheme.run_generation (lawful : scheme.Lawful Early) (history : List (Event κ δ γ ρ))
    (key : γ) : state.generation key ≤ (run scheme.next state history).generation key := by
  induction history generalizing state with
  | nil => exact Nat.le_refl _
  | cons event rest ih =>
      have follows : scheme.Follows Early state (scheme.next event state) := .next lawful event
      exact Nat.le_trans (follows.generation key) ih

theorem Scheme.Recent.run (lawful : scheme.Lawful Early) (sound : scheme.Sound Early state)
    (key : κ) (history : List (Event κ δ γ ρ)) :
    scheme.Recent Early (scheme.SeenDuring state key history) key
      (state.generation (scheme.generationKey key)) (run scheme.next state history) := by
  induction history using List.reverseRecOn with
  | nil => exact sound.recent _ key
  | append_singleton earlier event ih =>
      have grown := ih.mono (fun _ => Scheme.SeenDuring.mono (List.prefix_append earlier [event]))
      rw [run_append]
      exact grown.next lawful (sound.run lawful earlier)
        ((Scheme.SeenDuring.now state earlier).mono (List.prefix_append earlier [event])) event

/-- After the generation of a key was raised, a reader that was idle then returns what
the data gave at some moment since the start of the history. -/
theorem Scheme.read_since (lawful : scheme.Lawful Early) (sound : scheme.Sound Early state)
    {key : κ} {before after : List (Event κ δ γ ρ)} {bump : Event κ δ γ ρ} {reader : Nat} {value : α}
    (raised : (run scheme.next state before).generation (scheme.generationKey key) <
      (scheme.next bump (run scheme.next state before)).generation (scheme.generationKey key))
    (idle : (scheme.next bump (run scheme.next state before)).readers reader = none)
    (returned : (run scheme.next (scheme.next bump (run scheme.next state before)) after).readers
      reader = some (.returned key value)) :
    scheme.SeenDuring state key (before ++ bump :: after) value := by
  have unfold_run : ∀ rest, run scheme.next state (before ++ bump :: rest) =
      run scheme.next (scheme.next bump (run scheme.next state before)) rest :=
    fun rest => run_append ..
  have above : ∀ rest, state.generation (scheme.generationKey key) <
      (run scheme.next state (before ++ bump :: rest)).generation (scheme.generationKey key) := by
    intro rest
    rw [unfold_run]
    exact Nat.lt_of_lt_of_le (Nat.lt_of_le_of_lt (Scheme.run_generation lawful before _) raised)
      (Scheme.run_generation lawful rest _)
  have known : ∀ stage, (run scheme.next state (before ++ bump :: after)).readers reader =
      some stage → scheme.SeenReader Early (scheme.SeenDuring state key (before ++ bump :: after)) key
        (state.generation (scheme.generationKey key))
        (run scheme.next state (before ++ bump :: after)).database stage := by
    clear returned
    induction after using List.reverseRecOn with
    | nil =>
        intro stage reading
        rw [unfold_run, run_nil, idle] at reading
        cases reading
    | append_singleton earlier event ih =>
        have split : before ++ bump :: (earlier ++ [event]) = (before ++ bump :: earlier) ++ [event] :=
          (List.append_assoc before (bump :: earlier) [event]).symm
        have grows := List.prefix_append (before ++ bump :: earlier) [event]
        rw [split, run_append]
        refine Scheme.SeenReader.next lawful (sound.run lawful _)
          ((Scheme.Recent.run lawful sound key _).mono (fun _ => Scheme.SeenDuring.mono grows))
          ((Scheme.SeenDuring.now state _).mono grows) (above earlier) ?_ event
        intro stage reading
        exact (ih stage reading).mono (fun _ => Scheme.SeenDuring.mono grows) (fun _ early => early)
  exact known (.returned key value) ((congrArg (fun last => last.readers reader)
    (unfold_run after)).trans returned) rfl

end Recency

end GenerationCache
