/-
The account login budget.

One Redis script reserves an attempt before the password is looked at.  Its
numbers are Lua doubles, which hold every millisecond count up to 2^53 exactly;
the key stores the time at which the whole burst is free again.
-/

import Mall.Caching
import Mall.Foundation.CellRate

namespace Mall

structure RedisTime where
  seconds : Int
  microseconds : Int

def RedisTime.now (clock : RedisTime) : Int :=
  clock.seconds * 1000 + clock.microseconds / 1000

structure BudgetEntry where
  ready : Int
  expiresAt : Int

abbrev Budgets := List Char → Option BudgetEntry

def Budgets.empty : Budgets :=
  fun _ => none

/-- `GET`.  When a key counts as expired is the server's choice: `lapsed` is asked
with the key's deadline and the time. -/
def Budgets.get (store : Budgets) (lapsed : Int → Int → Bool) (key : List Char) (now : Int) :
    Option Int :=
  (store key).bind (fun entry => if lapsed entry.expiresAt now then none else some entry.ready)

def Budgets.set (store : Budgets) (key : List Char) (ready now milliseconds : Int) : Budgets :=
  Function.update store key (some { ready := ready, expiresAt := now + milliseconds })

def reserveLoginAttemptScript (lapsed : Int → Int → Bool) (key : List Char) (interval burst : Int)
    (clock : RedisTime) (store : Budgets) : Int × Budgets :=
  let now := clock.now
  let ready := max now ((store.get lapsed key now).getD now)
  let wait := ready - (burst - 1) * interval - now
  if wait > 0 then (wait, store)
  else (0, store.set key (ready + interval) now (ready + interval - now))

def loginBudgetKey (phoneHash : String) : List Char :=
  redisKey [.text "auth", .text "login", .text "budget", .text phoneHash]

/-- Durations are nanoseconds in an `int64`. -/
def millisecond : Int := 1000000

def second : Int := 1000 * millisecond

def minute : Int := 60 * second

def reserveLoginAttempt (lapsed : Int → Int → Bool) (phoneHash : String) (burst interval : Int)
    (clock : RedisTime) (store : Budgets) : Except Fault (Int × Budgets) :=
  if phoneHash = "" ∨ burst < 1 ∨ burst > 100 ∨ interval < second ∨ interval > minute then
    .error (Fault.plain "invalid account login quota")
  else
    let (wait, reserved) := reserveLoginAttemptScript lapsed (loginBudgetKey phoneHash)
      (interval / millisecond) burst clock store
    .ok (wrap64 (wait * millisecond), reserved)

/-! ### Runs -/

structure LoginAttempt where
  phoneHash : String
  clock : RedisTime

section Runs

variable (lapsed : Int → Int → Bool) (burst interval : Int)

def Budgets.next (attempt : LoginAttempt) (store : Budgets) : Budgets :=
  match reserveLoginAttempt lapsed attempt.phoneHash burst interval attempt.clock store with
  | .ok (_, reserved) => reserved
  | .error _ => store

def Budgets.answer (attempt : LoginAttempt) (store : Budgets) : Except Fault Int :=
  (reserveLoginAttempt lapsed attempt.phoneHash burst interval attempt.clock store).map Prod.fst

def Budgets.after (store : Budgets) (history : List LoginAttempt) : Budgets :=
  history.foldl (fun current attempt => current.next lapsed burst interval attempt) store

def Budgets.answers : Budgets → List LoginAttempt → List (LoginAttempt × Except Fault Int)
  | _, [] => []
  | store, attempt :: rest =>
      (attempt, store.answer lapsed burst interval attempt) ::
        answers (store.next lapsed burst interval attempt) rest

end Runs

/-- The account's attempts that were let through within a window of the script's
clock. -/
def letThrough (phoneHash : String) (start length : Int)
    (answer : LoginAttempt × Except Fault Int) : Bool :=
  match answer.2 with
  | .ok delay => decide (answer.1.phoneHash = phoneHash ∧ delay = 0 ∧ start ≤ answer.1.clock.now ∧
      answer.1.clock.now ≤ start + length)
  | .error _ => false

end Mall
