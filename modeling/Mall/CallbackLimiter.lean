/-
The limiter in front of the payment callbacks.

Each key has one window, for the minute that was counted last.  Windows of earlier
minutes are dropped when a call brings another minute than the call before it.
-/

import Mall.LoginLimit

namespace Mall

structure CallbackWindow where
  minute : Int
  count : Int

/-- The `windows` map: a key has at most one window. -/
structure CallbackWindows where
  entries : List (String × CallbackWindow)
  distinct : (entries.map Prod.fst).Nodup

namespace CallbackWindows

def empty : CallbackWindows :=
  { entries := []
    distinct := List.nodup_nil }

def find? (windows : CallbackWindows) (key : String) : Option CallbackWindow :=
  windows.entries.lookup key

def keep (windows : CallbackWindows) (wanted : CallbackWindow → Bool) : CallbackWindows :=
  { entries := windows.entries.filter (fun entry => wanted entry.2)
    distinct := windows.distinct.sublist (List.filter_sublist.map _) }

def put (windows : CallbackWindows) (key : String) (window : CallbackWindow) : CallbackWindows :=
  { entries := (key, window) :: windows.entries.filter (fun entry => decide (entry.1 ≠ key))
    distinct := by
      rw [List.map_cons, List.nodup_cons]
      constructor
      · intro member
        obtain ⟨entry, kept, same⟩ := List.mem_map.mp member
        exact of_decide_eq_true (List.mem_filter.mp kept).2 same
      · exact windows.distinct.sublist (List.filter_sublist.map _) }

end CallbackWindows

structure ProviderCallbackLimiter where
  limit : Int
  maxKeys : Nat
  lastCleanupMinute : Int
  windows : CallbackWindows

def newProviderCallbackLimiter (limit : Int) : ProviderCallbackLimiter :=
  { limit := limit
    maxKeys := 4096
    lastCleanupMinute := 0
    windows := .empty }

/-- `now.Unix() / 60`; the division rounds towards zero. -/
def unixMinute (now : Time) : Int :=
  (now / second).tdiv 60

def ProviderCallbackLimiter.cleaned (limiter : ProviderCallbackLimiter) (minute : Int) :
    CallbackWindows :=
  if limiter.lastCleanupMinute ≠ minute then
    limiter.windows.keep (fun window => !decide (window.minute < minute))
  else limiter.windows

def ProviderCallbackLimiter.allow (limiter : ProviderCallbackLimiter) (key : String) (now : Time) :
    Bool × ProviderCallbackLimiter :=
  let minute := unixMinute now
  let windows := limiter.cleaned minute
  let limiter := { limiter with lastCleanupMinute := minute, windows := windows }
  if windows.find? key = none ∧ limiter.maxKeys ≤ windows.entries.length then (false, limiter)
  else
    let window := (windows.find? key).getD { minute := 0, count := 0 }
    let window := if window.minute ≠ minute then { minute := minute, count := 0 } else window
    if limiter.limit ≤ window.count then
      (false, { limiter with windows := windows.put key window })
    else
      (true, { limiter with windows := windows.put key { window with count := window.count + 1 } })

/-! ### Calls -/

structure CallbackCall where
  key : String
  now : Time

def CallbackCall.minute (call : CallbackCall) : Int :=
  unixMinute call.now

def ProviderCallbackLimiter.after (limiter : ProviderCallbackLimiter) (calls : List CallbackCall) :
    ProviderCallbackLimiter :=
  calls.foldl (fun limiter call => (limiter.allow call.key call.now).2) limiter

def ProviderCallbackLimiter.accepted :
    ProviderCallbackLimiter → List CallbackCall → List CallbackCall
  | _, [] => []
  | limiter, call :: rest =>
      let (allowed, next) := limiter.allow call.key call.now
      if allowed then call :: next.accepted rest else next.accepted rest

def countCalls (calls : List CallbackCall) (key : String) (minute : Int) : Nat :=
  calls.countP (fun call => decide (call.key = key ∧ call.minute = minute))

end Mall
