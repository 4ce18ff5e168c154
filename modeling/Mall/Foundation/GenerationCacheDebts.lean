/-
Stale values of a generation cache.

A value under the current generation is what the data give, or the outbox still holds
a row that names the generation and that nobody has served yet.  The second part of
the invariant says the same of the loads that are under way.
-/

import Mall.Foundation.GenerationCache

namespace GenerationCache

open Transactional

variable {κ σ δ α π γ ρ : Type}

/-! ### What a stale value leaves behind -/

section Soundness

variable {scheme : Scheme κ σ δ α π γ ρ} {Early : σ → σ → Prop} {state later : State κ σ α π γ ρ}

/-- A row names the generation, and whoever works on the row has still to raise it. -/
def State.Owed (state : State κ σ α π γ ρ) (key : γ) : Prop :=
  ∃ row ∈ state.outbox, key ∈ row.keys ∧
    ∀ flusher, row.lockedBy = some flusher →
      ∃ left, state.flushers flusher = some left ∧ key ∈ left

/-- The value is out of reach, or current, or known to be stale. -/
def Scheme.Fresh (scheme : Scheme κ σ δ α π γ ρ) (state : State κ σ α π γ ρ) (key : κ)
    (generation : Nat) (value : α) : Prop :=
  generation < state.generation (scheme.generationKey key) ∨
    value = scheme.project key state.database ∨ state.Owed (scheme.generationKey key)

def Scheme.Carries (scheme : Scheme κ σ δ α π γ ρ) (Early : σ → σ → Prop)
    (state : State κ σ α π γ ρ) (flight : Flight κ α π) : Prop :=
  match flight.stage with
  | .half half => ∃ before, half = scheme.first flight.key before ∧ Early before state.database ∧
      scheme.Fresh state flight.key flight.generation (scheme.project flight.key before)
  | .loaded value => scheme.Fresh state flight.key flight.generation value
  | _ => True

def Reader.asked : Reader κ α π → Option (κ × Nat)
  | .keyed _ key generation => some (key, generation)
  | .missed _ key generation => some (key, generation)
  | .waiting _ key generation => some (key, generation)
  | _ => none

structure Scheme.Sound (scheme : Scheme κ σ δ α π γ ρ) (Early : σ → σ → Prop)
    (state : State κ σ α π γ ρ) : Prop where
  values : ∀ key generation value, state.values (scheme.slot key generation) = some value →
    generation ≤ state.generation (scheme.generationKey key) ∧
      scheme.Fresh state key generation value
  flights : ∀ server slot flight, state.flights server slot = some flight →
    slot = scheme.slot flight.key flight.generation ∧
      flight.generation ≤ state.generation (scheme.generationKey flight.key) ∧
      scheme.Carries Early state flight
  readers : ∀ reader stage, state.readers reader = some stage → ∀ key generation,
    stage.asked = some (key, generation) →
      generation ≤ state.generation (scheme.generationKey key)

theorem State.Initial.sound (initial : state.Initial) : scheme.Sound Early state := by
  refine ⟨?_, ?_, ?_⟩
  · intro key generation value present
    rw [initial.noValues] at present
    cases present
  · intro server slot flight flying
    rw [initial.noFlights] at flying
    cases flying
  · intro reader stage reading
    rw [initial.noReaders] at reading
    cases reading

/-- What a step may do behind the back of readers and flights. -/
structure Scheme.Follows (scheme : Scheme κ σ δ α π γ ρ) (Early : σ → σ → Prop)
    (state later : State κ σ α π γ ρ) : Prop where
  generation : ∀ key, state.generation key ≤ later.generation key
  early : ∀ before, Early before state.database → Early before later.database
  fresh : ∀ key generation value, generation ≤ state.generation (scheme.generationKey key) →
    scheme.Fresh state key generation value → scheme.Fresh later key generation value

theorem Scheme.Follows.of_owed (data : later.database = state.database)
    (generation : ∀ key, state.generation key ≤ later.generation key)
    (owed : ∀ key, later.generation key = state.generation key → state.Owed key → later.Owed key) :
    scheme.Follows Early state later := by
  refine ⟨generation, fun before early => data ▸ early, ?_⟩
  rintro key number value bound (dead | current | debt)
  · exact Or.inl (Nat.lt_of_lt_of_le dead (generation _))
  · exact Or.inr (Or.inl (data ▸ current))
  · rcases Nat.eq_or_lt_of_le (generation (scheme.generationKey key)) with same | raised
    · exact Or.inr (Or.inr (owed _ same.symm debt))
    · exact Or.inl (Nat.lt_of_le_of_lt bound raised)

theorem Scheme.Follows.of_eq (data : later.database = state.database)
    (generation : later.generation = state.generation) (outbox : later.outbox = state.outbox)
    (flushers : later.flushers = state.flushers) : scheme.Follows Early state later := by
  refine .of_owed data (fun key => Nat.le_of_eq (congrFun generation key).symm) ?_
  rintro key - ⟨row, member, named, working⟩
  rw [← outbox] at member
  rw [← flushers] at working
  exact ⟨row, member, named, working⟩

theorem Scheme.Carries.follow {flight : Flight κ α π} (follows : scheme.Follows Early state later)
    (bound : flight.generation ≤ state.generation (scheme.generationKey flight.key))
    (carries : scheme.Carries Early state flight) : scheme.Carries Early later flight := by
  unfold Scheme.Carries at carries ⊢
  split
  · next half stage =>
      rw [stage] at carries
      obtain ⟨before, same, early, fresh⟩ := carries
      exact ⟨before, same, follows.early before early, follows.fresh _ _ _ bound fresh⟩
  · next value stage =>
      rw [stage] at carries
      exact follows.fresh _ _ _ bound carries
  · trivial

/-- Whatever is new must be shown, and the rest follows. -/
theorem Scheme.Sound.follow (sound : scheme.Sound Early state)
    (follows : scheme.Follows Early state later)
    (values : ∀ key generation value, later.values (scheme.slot key generation) = some value →
      state.values (scheme.slot key generation) = some value ∨
        (generation ≤ later.generation (scheme.generationKey key) ∧
          scheme.Fresh later key generation value))
    (flights : ∀ server slot flight, later.flights server slot = some flight →
      state.flights server slot = some flight ∨
        (slot = scheme.slot flight.key flight.generation ∧
          flight.generation ≤ later.generation (scheme.generationKey flight.key) ∧
          scheme.Carries Early later flight))
    (readers : ∀ reader stage, later.readers reader = some stage →
      state.readers reader = some stage ∨ ∀ key generation, stage.asked = some (key, generation) →
        generation ≤ later.generation (scheme.generationKey key)) :
    scheme.Sound Early later := by
  refine ⟨?_, ?_, ?_⟩
  · intro key generation value present
    rcases values key generation value present with old | new
    · obtain ⟨bound, fresh⟩ := sound.values key generation value old
      exact ⟨Nat.le_trans bound (follows.generation _), follows.fresh _ _ _ bound fresh⟩
    · exact new
  · intro server slot flight flying
    rcases flights server slot flight flying with old | new
    · obtain ⟨about, bound, carries⟩ := sound.flights server slot flight old
      exact ⟨about, Nat.le_trans bound (follows.generation _), carries.follow follows bound⟩
    · exact new
  · intro reader stage reading key generation asked
    rcases readers reader stage reading with old | new
    · exact Nat.le_trans (sound.readers reader stage old key generation asked) (follows.generation _)
    · exact new key generation asked

structure State.Aside (state later : State κ σ α π γ ρ) : Prop where
  values : later.values = state.values
  flights : later.flights = state.flights
  readers : later.readers = state.readers

theorem Scheme.Sound.aside (sound : scheme.Sound Early state)
    (follows : scheme.Follows Early state later) (aside : state.Aside later) :
    scheme.Sound Early later := by
  refine sound.follow follows ?_ ?_ ?_
  · intro key generation value present
    exact Or.inl (aside.values ▸ present)
  · intro server slot flight flying
    exact Or.inl (aside.flights ▸ flying)
  · intro reader stage reading
    exact Or.inl (aside.readers ▸ reading)

/-- A value under the current generation that is not what the data give is owed. -/
theorem Scheme.Sound.stale_owed (sound : scheme.Sound Early state) {key : κ} {value : α}
    (stored : state.values (scheme.slot key (state.generation (scheme.generationKey key))) =
      some value)
    (stale : value ≠ scheme.project key state.database) :
    state.Owed (scheme.generationKey key) := by
  rcases (sound.values key _ value stored).2 with dead | current | debt
  · exact absurd dead (Nat.lt_irrefl _)
  · exact absurd current stale
  · exact debt

/-! ### Steps behind the back of the readers -/

private theorem mem_lockRows {flusher limit : Nat} {rows : List (Pending γ)} {row : Pending γ}
    (member : row ∈ rows) :
    row ∈ lockRows flusher limit rows ∨
      (row.lockedBy = none ∧ { row with lockedBy := some flusher } ∈ lockRows flusher limit rows) := by
  induction rows generalizing limit with
  | nil => cases member
  | cons head rest ih =>
      cases limit with
      | zero => exact Or.inl member
      | succ limit =>
          unfold lockRows
          split
          · next free =>
              rcases List.mem_cons.mp member with rfl | inside
              · exact Or.inr ⟨free, List.mem_cons_self⟩
              · exact (@ih limit inside).imp (List.mem_cons_of_mem _)
                  (And.imp id (List.mem_cons_of_mem _))
          · rcases List.mem_cons.mp member with rfl | inside
            · exact Or.inl List.mem_cons_self
            · exact (@ih (limit + 1) inside).imp (List.mem_cons_of_mem _)
                (And.imp id (List.mem_cons_of_mem _))

theorem Scheme.Follows.delete (flusher : Nat) :
    scheme.Follows Early state (state.delete flusher) := by
  unfold State.delete
  split
  · next finished =>
      refine .of_owed rfl (fun key => Nat.le_refl _) ?_
      rintro key - ⟨row, member, named, working⟩
      have elsewhere : ∀ other, row.lockedBy = some other → other ≠ flusher := by
        rintro other holds rfl
        obtain ⟨left, going, owes⟩ := working other holds
        rw [finished] at going
        cases going
        cases owes
      refine ⟨row, List.mem_filter.mpr ⟨member, ?_⟩, named, ?_⟩
      · exact bne_iff_ne.mpr (fun holds => elsewhere flusher holds rfl)
      · intro other holds
        obtain ⟨left, going, owes⟩ := working other holds
        exact ⟨left, (Function.update_of_ne (elsewhere other holds) ..).trans going, owes⟩
  · exact .of_eq rfl rfl rfl rfl

theorem State.delete_aside (state : State κ σ α π γ ρ) (flusher : Nat) :
    state.Aside (state.delete flusher) := by
  unfold State.delete
  split
  · exact ⟨rfl, rfl, rfl⟩
  · exact ⟨rfl, rfl, rfl⟩

theorem Scheme.Follows.rollback (flusher : Nat) :
    scheme.Follows Early state (state.rollback flusher) := by
  refine .of_owed rfl (fun key => Nat.le_refl _) ?_
  rintro key - ⟨row, member, named, working⟩
  refine ⟨unlock flusher row, List.mem_map_of_mem member, ?_, ?_⟩
  · unfold unlock
    split
    · exact named
    · exact named
  · intro other holds
    unfold unlock at holds
    split at holds
    · cases holds
    · next elsewhere =>
        obtain ⟨left, going, owes⟩ := working other holds
        have different : other ≠ flusher := by
          rintro rfl
          exact elsewhere holds
        exact ⟨left, (Function.update_of_ne different ..).trans going, owes⟩

theorem Scheme.Follows.commit (lawful : scheme.Lawful Early) (writer : Nat) (transaction : δ)
    (bumps : List γ) :
    scheme.Follows Early state (scheme.commit writer transaction bumps state) := by
  refine ⟨fun key => Nat.le_refl _, fun before early => lawful.step before _ transaction early, ?_⟩
  rintro key number value _ (dead | current | ⟨row, member, named, working⟩)
  · exact Or.inl dead
  · by_cases same : scheme.project key (scheme.apply transaction state.database) =
        scheme.project key state.database
    · exact Or.inr (Or.inl (current.trans same.symm))
    · -- The transaction itself owes the generation.
      obtain ⟨keys, listed, named⟩ := lawful.covers transaction state.database key same
      refine Or.inr (Or.inr ⟨⟨keys, none⟩, ?_, named, ?_⟩)
      · exact List.mem_append_right _ (List.mem_map_of_mem listed)
      · rintro flusher ⟨⟩
  · exact Or.inr (Or.inr ⟨row, List.mem_append_left _ member, named, working⟩)

section Generations

variable [DecidableEq γ]

private theorem mem_lockedKeys {flusher : Nat} {rows : List (Pending γ)} {row : Pending γ} {key : γ}
    (member : row ∈ rows) (locked : row.lockedBy = some flusher) (named : key ∈ row.keys) :
    key ∈ lockedKeys flusher rows := by
  refine List.mem_dedup.mpr (List.mem_flatMap.mpr ⟨row, List.mem_filter.mpr ⟨member, ?_⟩, named⟩)
  rw [locked]
  exact beq_self_eq_true _

theorem Scheme.Follows.lock (flusher limit : Nat) :
    scheme.Follows Early state (state.lock flusher limit) := by
  unfold State.lock
  split
  · exact .of_eq rfl rfl rfl rfl
  · next idle =>
      refine .of_owed rfl (fun key => Nat.le_refl _) ?_
      rintro key - ⟨row, member, named, working⟩
      rcases @mem_lockRows _ flusher limit _ _ member with kept | ⟨_, locked⟩
      · refine ⟨row, kept, named, ?_⟩
        intro other holds
        obtain ⟨left, going, owes⟩ := working other holds
        have different : other ≠ flusher := by
          rintro rfl
          rw [idle] at going
          cases going
        exact ⟨left, (Function.update_of_ne different ..).trans going, owes⟩
      · refine ⟨_, locked, named, ?_⟩
        rintro other ⟨⟩
        exact ⟨_, Function.update_self .., mem_lockedKeys locked rfl named⟩

theorem State.lock_aside (state : State κ σ α π γ ρ) (flusher limit : Nat) :
    state.Aside (state.lock flusher limit) := by
  unfold State.lock
  split
  · exact ⟨rfl, rfl, rfl⟩
  · exact ⟨rfl, rfl, rfl⟩

theorem State.raise_le (state : State κ σ α π γ ρ) (key other : γ) :
    state.generation other ≤ (state.raise key).generation other := by
  change _ ≤ Function.update state.generation key (state.generation key + 1) other
  by_cases same : other = key
  · subst same
    rw [Function.update_self]
    exact Nat.le_succ _
  · exact Nat.le_of_eq (Function.update_of_ne same ..).symm

theorem State.raise_self (state : State κ σ α π γ ρ) (key : γ) :
    (state.raise key).generation key = state.generation key + 1 :=
  Function.update_self ..

theorem Scheme.Follows.flush (flusher : Nat) :
    scheme.Follows Early state (state.flush flusher) := by
  unfold State.flush
  split
  · next raised rest going =>
      refine .of_owed rfl (fun key => state.raise_le raised key) ?_
      rintro key still ⟨row, member, named, working⟩
      have different : key ≠ raised := by
        rintro rfl
        exact Nat.succ_ne_self _ ((state.raise_self key).symm.trans still)
      refine ⟨row, member, named, ?_⟩
      intro other holds
      obtain ⟨left, busy, owes⟩ := working other holds
      by_cases same : other = flusher
      · subst same
        rw [going] at busy
        cases busy
        exact ⟨rest, Function.update_self .., (List.mem_cons.mp owes).resolve_left different⟩
      · exact ⟨left, (Function.update_of_ne same ..).trans busy, owes⟩
  · exact .of_eq rfl rfl rfl rfl

theorem State.flush_aside (state : State κ σ α π γ ρ) (flusher : Nat) :
    state.Aside (state.flush flusher) := by
  unfold State.flush
  split
  · exact ⟨rfl, rfl, rfl⟩
  · exact ⟨rfl, rfl, rfl⟩

theorem Scheme.Follows.bump (writer : Nat) : scheme.Follows Early state (state.bump writer) := by
  unfold State.bump
  split
  · next raised rest _ =>
      refine .of_owed rfl (fun key => state.raise_le raised key) ?_
      rintro key - ⟨row, member, named, working⟩
      exact ⟨row, member, named, working⟩
  · exact .of_eq rfl rfl rfl rfl

theorem State.bump_aside (state : State κ σ α π γ ρ) (writer : Nat) :
    state.Aside (state.bump writer) := by
  unfold State.bump
  split
  · exact ⟨rfl, rfl, rfl⟩
  · exact ⟨rfl, rfl, rfl⟩

end Generations

/-! ### Steps of readers and flights -/

theorem State.setReader_cases {reader other : Nat} {stage : Option (Reader κ α π)}
    {second : Reader κ α π} (reading : (state.setReader reader stage).readers other = some second) :
    state.readers other = some second ∨ stage = some second := by
  change Function.update state.readers reader stage other = some second at reading
  by_cases same : other = reader
  · subst same
    rw [Function.update_self] at reading
    exact Or.inr reading
  · rw [Function.update_of_ne same] at reading
    exact Or.inl reading

theorem Scheme.Sound.setReader {reader : Nat} {stage : Option (Reader κ α π)}
    (sound : scheme.Sound Early state)
    (bound : ∀ next, stage = some next → ∀ key generation, next.asked = some (key, generation) →
      generation ≤ state.generation (scheme.generationKey key)) :
    scheme.Sound Early (state.setReader reader stage) := by
  refine sound.follow (.of_eq rfl rfl rfl rfl) (fun _ _ _ present => Or.inl present)
    (fun _ _ _ flying => Or.inl flying) ?_
  intro other second reading
  rcases State.setReader_cases reading with old | new
  · exact Or.inl old
  · exact Or.inr (bound second new)

variable [DecidableEq ρ]

theorem State.setFlight_cases {server host : Nat} {slot place : ρ}
    {flight : Option (Flight κ α π)} {second : Flight κ α π}
    (flying : (state.setFlight server slot flight).flights host place = some second) :
    state.flights host place = some second ∨
      (host = server ∧ place = slot ∧ flight = some second) := by
  change Function.update state.flights server _ host place = some second at flying
  by_cases same : host = server
  · subst same
    rw [Function.update_self] at flying
    by_cases here : place = slot
    · subst here
      rw [Function.update_self] at flying
      exact Or.inr ⟨rfl, rfl, flying⟩
    · rw [Function.update_of_ne here] at flying
      exact Or.inl flying
  · rw [Function.update_of_ne same] at flying
    exact Or.inl flying

theorem Scheme.Sound.setFlight {server : Nat} {slot : ρ} {flight : Option (Flight κ α π)}
    (sound : scheme.Sound Early state)
    (carried : ∀ next, flight = some next → slot = scheme.slot next.key next.generation ∧
      next.generation ≤ state.generation (scheme.generationKey next.key) ∧
      scheme.Carries Early state next) :
    scheme.Sound Early (state.setFlight server slot flight) := by
  have follows : scheme.Follows Early state (state.setFlight server slot flight) :=
    .of_eq rfl rfl rfl rfl
  refine sound.follow follows (fun _ _ _ present => Or.inl present) ?_
    (fun _ _ reading => Or.inl reading)
  intro host place second flying
  rcases State.setFlight_cases flying with old | ⟨rfl, rfl, new⟩
  · exact Or.inl old
  · obtain ⟨about, bound, carries⟩ := carried second new
    exact Or.inr ⟨about, bound, carries.follow follows bound⟩

theorem Scheme.Sound.settle (sound : scheme.Sound Early state) (server : Nat) (slot : ρ)
    (result : Option α) : scheme.Sound Early (scheme.settle server slot result state) := by
  refine sound.follow (.of_eq rfl rfl rfl rfl) (fun _ _ _ present => Or.inl present) ?_ ?_
  · intro host place second flying
    rcases State.setFlight_cases flying with old | ⟨_, _, none⟩
    · exact Or.inl old
    · cases none
  · intro reader stage reading
    obtain ⟨before, old, answered⟩ := Option.bind_eq_some_iff.mp reading
    unfold Scheme.answer at answered
    split at answered
    · split at answered
      · obtain ⟨value, _, rfl⟩ := Option.map_eq_some_iff.mp answered
        right
        rintro key generation ⟨⟩
      · cases answered
        exact Or.inl old
    · cases answered
      exact Or.inl old

theorem Scheme.Sound.read {reader : Nat} {stage : Reader κ α π} (sound : scheme.Sound Early state)
    (reading : state.readers reader = some stage) (answers : Bool) :
    scheme.Sound Early (scheme.read reader answers stage state) := by
  cases stage with
  | keyed server key generation =>
      have bound := sound.readers reader _ reading key generation rfl
      unfold Scheme.read
      dsimp only
      split
      · refine sound.setReader ?_
        rintro next ⟨⟩ other number ⟨⟩
      · refine sound.setReader ?_
        rintro next ⟨⟩ other number ⟨⟩
        exact bound
  | missed server key generation =>
      have bound := sound.readers reader _ reading key generation rfl
      have waits : scheme.Sound Early
          (state.setReader reader (some (.waiting server key generation))) := by
        refine sound.setReader ?_
        rintro next ⟨⟩ other number ⟨⟩
        exact bound
      unfold Scheme.read
      dsimp only
      split
      · exact waits
      · refine waits.setFlight ?_
        rintro next ⟨⟩
        exact ⟨rfl, bound, trivial⟩
  | waiting server key generation => exact sound
  | direct key =>
      refine sound.setReader ?_
      rintro next ⟨⟩ other number ⟨⟩
  | directHalf key half =>
      refine sound.setReader ?_
      rintro next ⟨⟩ other number ⟨⟩
  | returned key value => exact sound

theorem Scheme.Sound.fly {server : Nat} {slot : ρ} {flight : Flight κ α π}
    (lawful : scheme.Lawful Early) (sound : scheme.Sound Early state)
    (flying : state.flights server slot = some flight) (answers : Bool) :
    scheme.Sound Early (scheme.fly server slot answers flight state) := by
  obtain ⟨about, bound, carries⟩ := sound.flights server slot flight flying
  have proceed : ∀ stage, scheme.Carries Early state { flight with stage := stage } →
      scheme.Sound Early (state.proceed server slot flight stage) := by
    intro stage carried
    refine sound.setFlight ?_
    rintro next ⟨⟩
    exact ⟨about, bound, carried⟩
  unfold Scheme.Carries at carries
  unfold Scheme.fly
  split
  · split
    · exact proceed _ trivial
    · exact proceed _ trivial
  · exact proceed _ ⟨state.database, rfl, lawful.refl _, Or.inr (Or.inl rfl)⟩
  · next half stage =>
      rw [stage] at carries
      obtain ⟨before, rfl, early, fresh⟩ := carries
      refine proceed _ ?_
      change scheme.Fresh state flight.key flight.generation _
      rw [lawful.stable before state.database flight.key early]
      exact fresh
  · next value stage =>
      rw [stage] at carries
      have done := proceed (.done value) trivial
      split
      · refine done.follow (.of_eq rfl rfl rfl rfl) ?_ (fun _ _ _ going => Or.inl going)
          (fun _ _ reading => Or.inl reading)
        intro key generation other present
        change Function.update state.values slot (some value) _ = some other at present
        by_cases same : scheme.slot key generation = slot
        · rw [same, Function.update_self] at present
          cases present
          obtain ⟨rfl, rfl⟩ := lawful.slotInjective (same.trans about)
          exact Or.inr ⟨bound, carries⟩
        · rw [Function.update_of_ne same] at present
          exact Or.inl present
      · exact done
  · exact sound.settle server slot _

theorem Scheme.Follows.read (reader : Nat) (answers : Bool) (stage : Reader κ α π) :
    scheme.Follows Early state (scheme.read reader answers stage state) := by
  unfold Scheme.read
  split
  · split
    · exact .of_eq rfl rfl rfl rfl
    · exact .of_eq rfl rfl rfl rfl
  · dsimp only
    split
    · exact .of_eq rfl rfl rfl rfl
    · exact .of_eq rfl rfl rfl rfl
  all_goals exact .of_eq rfl rfl rfl rfl

theorem Scheme.Follows.fly (server : Nat) (slot : ρ) (answers : Bool) (flight : Flight κ α π) :
    scheme.Follows Early state (scheme.fly server slot answers flight state) := by
  unfold Scheme.fly
  split
  · split
    · exact .of_eq rfl rfl rfl rfl
    · exact .of_eq rfl rfl rfl rfl
  · exact .of_eq rfl rfl rfl rfl
  · exact .of_eq rfl rfl rfl rfl
  · dsimp only
    split
    · exact .of_eq rfl rfl rfl rfl
    · exact .of_eq rfl rfl rfl rfl
  · exact .of_eq rfl rfl rfl rfl

variable [DecidableEq γ]

theorem Scheme.Follows.next (lawful : scheme.Lawful Early) (event : Event κ δ γ ρ) :
    scheme.Follows Early state (scheme.next event state) := by
  cases event with
  | begin reader server key answers =>
      unfold Scheme.next
      dsimp only
      split
      · exact .of_eq rfl rfl rfl rfl
      · exact .of_eq rfl rfl rfl rfl
  | read reader answers =>
      unfold Scheme.next
      dsimp only
      split
      · exact .of_eq rfl rfl rfl rfl
      · exact .read reader answers _
  | fly server slot answers =>
      unfold Scheme.next
      dsimp only
      split
      · exact .of_eq rfl rfl rfl rfl
      · exact .fly server slot answers _
  | fail server slot => exact .of_eq rfl rfl rfl rfl
  | leave reader => exact .of_eq rfl rfl rfl rfl
  | commit writer transaction bumps => exact .commit lawful writer transaction bumps
  | bump writer => exact .bump writer
  | abandon writer => exact .of_eq rfl rfl rfl rfl
  | lock flusher limit => exact .lock flusher limit
  | flush flusher => exact .flush flusher
  | delete flusher => exact .delete flusher
  | rollback flusher => exact .rollback flusher
  | expire slot => exact .of_eq rfl rfl rfl rfl

theorem Scheme.Sound.next (lawful : scheme.Lawful Early) (sound : scheme.Sound Early state)
    (event : Event κ δ γ ρ) : scheme.Sound Early (scheme.next event state) := by
  cases event with
  | begin reader server key answers =>
      unfold Scheme.next
      dsimp only
      split
      · exact sound
      · refine sound.setReader ?_
        rintro next ⟨⟩ other number asked
        split at asked
        · cases asked
          exact Nat.le_refl _
        · cases asked
  | read reader answers =>
      unfold Scheme.next
      dsimp only
      split
      · exact sound
      · next stage reading => exact sound.read reading answers
  | fly server slot answers =>
      unfold Scheme.next
      dsimp only
      split
      · exact sound
      · next flight flying => exact sound.fly lawful flying answers
  | fail server slot => exact sound.settle server slot none
  | leave reader =>
      refine sound.setReader ?_
      rintro next ⟨⟩
  | commit writer transaction bumps =>
      exact sound.aside (.commit lawful writer transaction bumps) ⟨rfl, rfl, rfl⟩
  | bump writer => exact sound.aside (.bump writer) (state.bump_aside writer)
  | abandon writer => exact sound.aside (.of_eq rfl rfl rfl rfl) ⟨rfl, rfl, rfl⟩
  | lock flusher limit => exact sound.aside (.lock flusher limit) (state.lock_aside flusher limit)
  | flush flusher => exact sound.aside (.flush flusher) (state.flush_aside flusher)
  | delete flusher => exact sound.aside (.delete flusher) (state.delete_aside flusher)
  | rollback flusher => exact sound.aside (.rollback flusher) ⟨rfl, rfl, rfl⟩
  | expire slot =>
      refine sound.follow (.of_eq rfl rfl rfl rfl) ?_ (fun _ _ _ flying => Or.inl flying)
        (fun _ _ reading => Or.inl reading)
      intro key generation value present
      change Function.update state.values slot none _ = some value at present
      by_cases same : scheme.slot key generation = slot
      · rw [same, Function.update_self] at present
        cases present
      · rw [Function.update_of_ne same] at present
        exact Or.inl present

end Soundness

end GenerationCache
