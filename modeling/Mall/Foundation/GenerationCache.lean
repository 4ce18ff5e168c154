/-
Caches whose keys carry a generation.

A reader reads the generation of its key, looks under that generation and, on a
miss, loads from the database and stores what it loaded under the generation it read
first.  A transaction writes the keys that it makes stale to an outbox, in the same
commit.  Writers raise generations afterwards, and flushers raise those of the outbox
before they delete its rows.  Every step of every party may be followed by any other
step, and any party may stop for good between two of its steps.
-/

import Mall.Foundation.Execution
import Mathlib.Data.List.Dedup
import Mathlib.Logic.Function.Basic

namespace GenerationCache

open Transactional

/-- What a program caches.  A load takes two queries, and one that needs a single
query does nothing in its second half. -/
structure Scheme (κ σ δ α π γ ρ : Type) where
  generationKey : κ → γ
  /-- The key of the store under which a generation of a value lies. -/
  slot : κ → Nat → ρ
  first : κ → σ → π
  second : κ → π → σ → α
  storable : α → Bool
  apply : δ → σ → σ
  targets : δ → σ → List (List γ)

/-- A row of the outbox; a flusher locks the rows that it works on. -/
structure Pending (γ : Type) where
  keys : List γ
  lockedBy : Option Nat
deriving DecidableEq

inductive Reader (κ α π : Type) where
  | keyed (server : Nat) (key : κ) (generation : Nat)
  | missed (server : Nat) (key : κ) (generation : Nat)
  | waiting (server : Nat) (key : κ) (generation : Nat)
  /-- The generation could not be read; the cache is left alone. -/
  | direct (key : κ)
  | directHalf (key : κ) (half : π)
  | returned (key : κ) (value : α)
deriving DecidableEq

inductive Stage (α π : Type) where
  | checking
  | loading
  | half (half : π)
  | loaded (value : α)
  | done (value : α)
deriving DecidableEq

/-- One load that all readers of a slot share, on one server. -/
structure Flight (κ α π : Type) where
  key : κ
  generation : Nat
  stage : Stage α π
deriving DecidableEq

structure State (κ σ α π γ ρ : Type) where
  database : σ
  outbox : List (Pending γ)
  generation : γ → Nat
  values : ρ → Option α
  readers : Nat → Option (Reader κ α π)
  flights : Nat → ρ → Option (Flight κ α π)
  /-- The generations that a writer has still to raise. -/
  writers : Nat → List γ
  /-- The generations that a flusher has still to raise. -/
  flushers : Nat → Option (List γ)

/-- `answers` says whether the store does what it is asked. -/
inductive Event (κ δ γ ρ : Type) where
  | begin (reader server : Nat) (key : κ) (answers : Bool)
  | read (reader : Nat) (answers : Bool)
  | fly (server : Nat) (slot : ρ) (answers : Bool)
  | fail (server : Nat) (slot : ρ)
  | leave (reader : Nat)
  | commit (writer : Nat) (transaction : δ) (bumps : List γ)
  | bump (writer : Nat)
  | abandon (writer : Nat)
  | lock (flusher limit : Nat)
  | flush (flusher : Nat)
  | delete (flusher : Nat)
  | rollback (flusher : Nat)
  | expire (slot : ρ)

variable {κ σ δ α π γ ρ : Type}

/-- What a load gives that no commit interrupts. -/
def Scheme.project (scheme : Scheme κ σ δ α π γ ρ) (key : κ) (database : σ) : α :=
  scheme.second key (scheme.first key database) database

section Steps

variable [DecidableEq γ] [DecidableEq ρ]

def State.setReader (state : State κ σ α π γ ρ) (reader : Nat) (stage : Option (Reader κ α π)) :
    State κ σ α π γ ρ :=
  { state with readers := Function.update state.readers reader stage }

def State.setFlight (state : State κ σ α π γ ρ) (server : Nat) (slot : ρ)
    (flight : Option (Flight κ α π)) : State κ σ α π γ ρ :=
  { state with
    flights := Function.update state.flights server
      (Function.update (state.flights server) slot flight) }

def State.proceed (state : State κ σ α π γ ρ) (server : Nat) (slot : ρ) (flight : Flight κ α π)
    (stage : Stage α π) : State κ σ α π γ ρ :=
  state.setFlight server slot (some { flight with stage := stage })

def Scheme.answer (scheme : Scheme κ σ δ α π γ ρ) (server : Nat) (slot : ρ) (result : Option α) :
    Reader κ α π → Option (Reader κ α π)
  | .waiting host key generation =>
      if host = server ∧ scheme.slot key generation = slot then result.map (.returned key)
      else some (.waiting host key generation)
  | stage => some stage

def Scheme.settle (scheme : Scheme κ σ δ α π γ ρ) (server : Nat) (slot : ρ) (result : Option α)
    (state : State κ σ α π γ ρ) : State κ σ α π γ ρ :=
  { state.setFlight server slot none with
    readers := fun reader => (state.readers reader).bind (scheme.answer server slot result) }

def State.raise (state : State κ σ α π γ ρ) (key : γ) : State κ σ α π γ ρ :=
  { state with
    generation := Function.update state.generation key (state.generation key + 1) }

/-- `ORDER BY id LIMIT limit FOR UPDATE SKIP LOCKED`. -/
def lockRows (flusher : Nat) : Nat → List (Pending γ) → List (Pending γ)
  | 0, rows => rows
  | _, [] => []
  | limit + 1, row :: rest =>
      match row.lockedBy with
      | none => { row with lockedBy := some flusher } :: lockRows flusher limit rest
      | some _ => row :: lockRows flusher (limit + 1) rest

def lockedKeys (flusher : Nat) (rows : List (Pending γ)) : List γ :=
  ((rows.filter (fun row => row.lockedBy == some flusher)).flatMap Pending.keys).dedup

def unlock (flusher : Nat) (row : Pending γ) : Pending γ :=
  if row.lockedBy = some flusher then { row with lockedBy := none } else row

def Scheme.read (scheme : Scheme κ σ δ α π γ ρ) (reader : Nat) (answers : Bool)
    (stage : Reader κ α π) (state : State κ σ α π γ ρ) : State κ σ α π γ ρ :=
  match stage with
  | .keyed server key generation =>
      match (state.values (scheme.slot key generation)).filter (fun _ => answers) with
      | some value => state.setReader reader (some (.returned key value))
      | none => state.setReader reader (some (.missed server key generation))
  | .missed server key generation =>
      let waits := state.setReader reader (some (.waiting server key generation))
      match state.flights server (scheme.slot key generation) with
      | some _ => waits
      | none =>
          waits.setFlight server (scheme.slot key generation) (some
            { key := key
              generation := generation
              stage := .checking })
  | .direct key => state.setReader reader (some (.directHalf key (scheme.first key state.database)))
  | .directHalf key half =>
      state.setReader reader (some (.returned key (scheme.second key half state.database)))
  | .waiting _ _ _ => state
  | .returned _ _ => state

def Scheme.fly (scheme : Scheme κ σ δ α π γ ρ) (server : Nat) (slot : ρ) (answers : Bool)
    (flight : Flight κ α π) (state : State κ σ α π γ ρ) : State κ σ α π γ ρ :=
  match flight.stage with
  | .checking =>
      match (state.values slot).filter (fun _ => answers) with
      | some value => state.proceed server slot flight (.done value)
      | none => state.proceed server slot flight .loading
  | .loading => state.proceed server slot flight (.half (scheme.first flight.key state.database))
  | .half half =>
      state.proceed server slot flight (.loaded (scheme.second flight.key half state.database))
  | .loaded value =>
      let done := state.proceed server slot flight (.done value)
      if scheme.storable value && answers then
        { done with values := Function.update state.values slot (some value) }
      else done
  | .done value => scheme.settle server slot (some value) state

/-- The outbox rows and the data of a transaction appear together. -/
def Scheme.commit (scheme : Scheme κ σ δ α π γ ρ) (writer : Nat) (transaction : δ) (bumps : List γ)
    (state : State κ σ α π γ ρ) : State κ σ α π γ ρ :=
  { state with
    database := scheme.apply transaction state.database
    outbox := state.outbox ++ (scheme.targets transaction state.database).map (fun keys =>
      { keys := keys
        lockedBy := none })
    writers := Function.update state.writers writer (state.writers writer ++ bumps) }

def State.lock (state : State κ σ α π γ ρ) (flusher limit : Nat) : State κ σ α π γ ρ :=
  match state.flushers flusher with
  | some _ => state
  | none =>
      let rows := lockRows flusher limit state.outbox
      { state with
        outbox := rows
        flushers := Function.update state.flushers flusher (some (lockedKeys flusher rows)) }

def State.flush (state : State κ σ α π γ ρ) (flusher : Nat) : State κ σ α π γ ρ :=
  match state.flushers flusher with
  | some (key :: rest) =>
      { state.raise key with
        flushers := Function.update state.flushers flusher (some rest) }
  | _ => state

/-- The rows go when every generation is raised that they name. -/
def State.delete (state : State κ σ α π γ ρ) (flusher : Nat) : State κ σ α π γ ρ :=
  match state.flushers flusher with
  | some [] =>
      { state with
        outbox := state.outbox.filter (fun row => row.lockedBy != some flusher)
        flushers := Function.update state.flushers flusher none }
  | _ => state

def State.rollback (state : State κ σ α π γ ρ) (flusher : Nat) : State κ σ α π γ ρ :=
  { state with
    outbox := state.outbox.map (unlock flusher)
    flushers := Function.update state.flushers flusher none }

def State.bump (state : State κ σ α π γ ρ) (writer : Nat) : State κ σ α π γ ρ :=
  match state.writers writer with
  | key :: rest =>
      { state.raise key with
        writers := Function.update state.writers writer rest }
  | [] => state

def Scheme.next (scheme : Scheme κ σ δ α π γ ρ) (event : Event κ δ γ ρ)
    (state : State κ σ α π γ ρ) : State κ σ α π γ ρ :=
  match event with
  | .begin reader server key answers =>
      match state.readers reader with
      | some _ => state
      | none =>
          state.setReader reader (some (if answers then
            .keyed server key (state.generation (scheme.generationKey key))
          else .direct key))
  | .read reader answers =>
      match state.readers reader with
      | none => state
      | some stage => scheme.read reader answers stage state
  | .fly server slot answers =>
      match state.flights server slot with
      | none => state
      | some flight => scheme.fly server slot answers flight state
  | .fail server slot => scheme.settle server slot none state
  | .leave reader => state.setReader reader none
  | .commit writer transaction bumps => scheme.commit writer transaction bumps state
  | .bump writer => state.bump writer
  | .abandon writer => { state with writers := Function.update state.writers writer [] }
  | .lock flusher limit => state.lock flusher limit
  | .flush flusher => state.flush flusher
  | .delete flusher => state.delete flusher
  | .rollback flusher => state.rollback flusher
  | .expire slot => { state with values := Function.update state.values slot none }

end Steps

/-- Nothing is cached and nobody is at work. -/
structure State.Initial (state : State κ σ α π γ ρ) : Prop where
  noRows : state.outbox = []
  noValues : ∀ slot, state.values slot = none
  noReaders : ∀ reader, state.readers reader = none
  noFlights : ∀ server slot, state.flights server slot = none
  noFlushers : ∀ flusher, state.flushers flusher = none

/-- What the proofs need to know of a scheme: `Early before now` says that a load may
have begun on `before` and be finished on `now`. -/
structure Scheme.Lawful (scheme : Scheme κ σ δ α π γ ρ) (Early : σ → σ → Prop) : Prop where
  slotInjective : ∀ {key other generation another},
    scheme.slot key generation = scheme.slot other another → key = other ∧ generation = another
  covers : ∀ transaction database key,
    scheme.project key (scheme.apply transaction database) ≠ scheme.project key database →
      ∃ keys ∈ scheme.targets transaction database, scheme.generationKey key ∈ keys
  refl : ∀ database, Early database database
  step : ∀ before now transaction, Early before now → Early before (scheme.apply transaction now)
  stable : ∀ before now key, Early before now →
    scheme.second key (scheme.first key before) now = scheme.project key before

end GenerationCache
