/-
Cached rows are never silently stale.

Readers, flights, writers and flushers take their steps in any order, and each of
them may stop for good between two steps.
-/

import Mall.Refinement.Caching
import Mall.System

namespace Mall

open Relational GenerationCache Transactional

private theorem CacheState.Reached.sound {state : CacheState} (reached : state.Reached) :
    cacheScheme.Sound Database.ItemsKept state :=
  Reachable.invariant (fun _ initial => initial.sound)
    (fun _ event _ sound => sound.next cacheScheme_lawful event) reached

/-- In every state that can be reached, a value under the current generation of its key
is what the rows give, or the outbox holds a row that names the generation.  A read
that begins after a commit, once the generation was raised, returns what the rows gave
at some moment since the commit. -/
theorem cached_rows_current (state : CacheState) (reached : state.Reached) :
    (∀ (key : CacheKey) value,
      state.values (key.slot (state.generation key.generationKey)) = some value →
      value ≠ key.current state.database →
        ∃ row ∈ state.outbox, key.generationKey ∈ row.keys) ∧
      ∀ (writer : Nat) (changes : List RowChange) (bumps : List (List Char)) (key : CacheKey)
        (before after : List CacheEvent) (bump : CacheEvent) (reader : Nat) (value : CachedValue),
        let committed := cacheScheme.next (.commit writer changes bumps) state
        let earlier := run cacheScheme.next committed before
        let raised := cacheScheme.next bump earlier
        earlier.generation key.generationKey < raised.generation key.generationKey →
        raised.readers reader = none →
        (run cacheScheme.next raised after).readers reader = some (.returned key value) →
          ∃ moment, moment <+: before ++ bump :: after ∧
            value = key.current (run cacheScheme.next committed moment).database := by
  have sound := CacheState.Reached.sound reached
  refine ⟨?_, ?_⟩
  · intro key value stored stale
    obtain ⟨row, member, named, _⟩ := sound.stale_owed stored stale
    exact ⟨row, member, named⟩
  · intro writer changes bumps key before after bump reader value committed earlier raised
      grows idle returned
    exact Scheme.read_since cacheScheme_lawful
      (sound.next cacheScheme_lawful (.commit writer changes bumps)) grows idle returned

/-! ### A cached product -/

def coldCache (db : Database) : CacheState :=
  { database := db
    outbox := []
    generation := fun _ => 0
    values := fun _ => none
    readers := fun _ => none
    flights := fun _ _ => none
    writers := fun _ => []
    flushers := fun _ => none }

private theorem coldCache_initial (db : Database) : (coldCache db).Initial :=
  ⟨rfl, fun _ => rfl, fun _ => rfl, fun _ _ => rfl, fun _ => rfl⟩

/-- A reader misses, loads the product and stores it. -/
def readThrough (reader : Nat) (generation : Nat) : List CacheEvent :=
  let slot := (CacheKey.product 1).slot generation
  [.begin reader 0 (.product 1) true, .read reader true, .read reader true, .fly 0 slot true,
    .fly 0 slot true, .fly 0 slot true, .fly 0 slot true, .fly 0 slot true]

def sellTea : RowChange :=
  .updateProduct 1 (fun product => { product with stock := product.stock - 1 })

def CachedValue.stock : CachedValue → Option Int
  | .product (some shown) => some shown.stock
  | _ => none

def returnedStock : Reader CacheKey CachedValue HalfLoad → Option (CacheKey × Option Int)
  | .returned key value => some (key, value.stock)
  | _ => none

def warmCache : CacheState :=
  run cacheScheme.next (coldCache smallShop) (readThrough 0 0)

def soldTea : CacheState :=
  cacheScheme.next (.commit 0 [sellTea] [(CacheKey.product 1).generationKey]) warmCache

def restockedCache : CacheState :=
  cacheScheme.next (.bump 0) (run cacheScheme.next soldTea [])

private theorem warmCache_reached : CacheState.Reached warmCache :=
  Reachable.run (.start (coldCache_initial smallShop)) _

private theorem soldTea_stale : ∃ value,
    soldTea.values ((CacheKey.product 1).slot
      (soldTea.generation (CacheKey.product 1).generationKey)) = some value ∧
    value ≠ (CacheKey.product 1).current soldTea.database := by
  have kept : (soldTea.values ((CacheKey.product 1).slot
      (soldTea.generation (CacheKey.product 1).generationKey))).map CachedValue.stock =
        some (some 10) := by
    decide +kernel
  have now : ((CacheKey.product 1).current soldTea.database).stock = some 9 := by
    decide +kernel
  obtain ⟨value, stored, ten⟩ := Option.map_eq_some_iff.mp kept
  refine ⟨value, stored, ?_⟩
  rintro rfl
  rw [now] at ten
  cases ten

private theorem restockedCache_read : ∃ value, value.stock = some 9 ∧
    (run cacheScheme.next restockedCache (readThrough 1 1)).readers 1 =
      some (.returned (.product 1) value) := by
  have answered : ((run cacheScheme.next restockedCache (readThrough 1 1)).readers 1).bind
      returnedStock = some (.product 1, some 9) := by
    decide +kernel
  obtain ⟨stage, reading, shown⟩ := Option.bind_eq_some_iff.mp answered
  cases stage with
  | returned key value =>
      obtain ⟨rfl, nine⟩ := Prod.mk.inj (Option.some.inj shown)
      exact ⟨value, nine, reading⟩
  | _ => cases shown

theorem cached_rows_current_soldTea :
    (∃ row ∈ soldTea.outbox, (CacheKey.product 1).generationKey ∈ row.keys) ∧
      ∃ value, value.stock = some 9 ∧
        ∃ moment, moment <+: [] ++ .bump 0 :: readThrough 1 1 ∧
          value = (CacheKey.product 1).current (run cacheScheme.next soldTea moment).database := by
  have idle : (restockedCache.readers 1).isNone = true := by
    decide +kernel
  have raised : (run cacheScheme.next soldTea []).generation (CacheKey.product 1).generationKey <
      restockedCache.generation (CacheKey.product 1).generationKey := by
    decide +kernel
  obtain ⟨old, stored, stale⟩ := soldTea_stale
  obtain ⟨value, nine, reading⟩ := restockedCache_read
  have outbox := (cached_rows_current soldTea (warmCache_reached.step _)).1 (.product 1) old stored
    stale
  have since := (cached_rows_current warmCache warmCache_reached).2 0 [sellTea]
    [(CacheKey.product 1).generationKey] (.product 1) [] (readThrough 1 1) (.bump 0) 1 value raised
    (Option.isNone_iff_eq_none.mp idle) reading
  exact ⟨outbox, value, nine, since⟩

end Mall
