/-
Snowflake ids.

An id holds the milliseconds since the epoch, the node and a sequence number.
The generator's own clock never goes back; a reading behind it only advances the
sequence.
-/

import Mall.Faults
import Mall.Foundation.BitFields
import Mall.Foundation.Execution
import Mall.Money

namespace Mall

open Transactional

def envSnowflakeNodeID : String := "SNOWFLAKE_NODE_ID"

def snowflakeEpochMs : Int := 1288834974657

def snowflakeNodeBits : Nat := 10

def snowflakeStepBits : Nat := 12

def snowflakeNodeShift : Nat := snowflakeStepBits

def snowflakeTimeShift : Nat := snowflakeNodeBits + snowflakeStepBits

def snowflakeStepMask : Int := 1 <<< snowflakeStepBits - 1

def snowflakeMaxNode : Int := 1 <<< snowflakeNodeBits - 1

/-- The counters are `int64`; `wrap64` marks where one is increased. -/
structure SnowflakeGenerator where
  nodeID : Int
  wallMs : Int
  lastMs : Int
  step : Int
  rollbacks : Int
deriving DecidableEq

/-! ### Construction -/

structure SnowflakeConf where
  nodeId : BitVec 32

structure Strconv where
  /-- `strconv.ParseInt(raw, 10, 64)`, or the text of its error. -/
  parseInt : String → Except String Int
  quote : String → String

def resolveSnowflakeNodeID (strconv : Strconv) (c : Option SnowflakeConf) (raw : String) :
    Except Fault Int :=
  match c.filter (fun conf => decide (0 < conf.nodeId.toInt)) with
  | some conf => .ok conf.nodeId.toInt
  | none =>
      if raw = "" then
        .error (Fault.plain ("snowflake node_id is required: set " ++ envSnowflakeNodeID ++
          " or conf.snowflake.node_id"))
      else
        match strconv.parseInt raw with
        | .error text =>
            .error (Fault.plain
              ("invalid " ++ envSnowflakeNodeID ++ "=" ++ strconv.quote raw ++ ": " ++ text))
        | .ok nodeID =>
            if nodeID < 0 ∨ snowflakeMaxNode < nodeID then
              .error (Fault.plain ("snowflake node_id out of range [0," ++
                toString snowflakeMaxNode ++ "]: got " ++ toString nodeID))
            else .ok nodeID

def SnowflakeGenerator.fresh (nodeID : Int) : SnowflakeGenerator :=
  { nodeID := nodeID
    wallMs := 0
    lastMs := 0
    step := 0
    rollbacks := 0 }

def newSnowflakeIDGenerator (strconv : Strconv) (c : Option SnowflakeConf) (raw : String) :
    Except Fault SnowflakeGenerator := do
  let nodeID ← resolveSnowflakeNodeID strconv c raw
  pure (.fresh nodeID)

/-! ### Generation -/

def packID (milliseconds nodeID step : Int) : Int :=
  (BitVec.ofInt 64 milliseconds <<< snowflakeTimeShift |||
    BitVec.ofInt 64 nodeID <<< snowflakeNodeShift ||| BitVec.ofInt 64 step).toInt

/-- The host clock's own reading, and whether it went back. -/
def SnowflakeGenerator.observe (g : SnowflakeGenerator) (rawMs : Int) : SnowflakeGenerator :=
  if rawMs < g.wallMs then { g with rollbacks := wrap64 (g.rollbacks + 1) }
  else { g with wallMs := rawMs }

def SnowflakeGenerator.tick (g : SnowflakeGenerator) (rawMs : Int) : SnowflakeGenerator :=
  let nowMs := max rawMs g.lastMs
  if nowMs = g.lastMs then
    if snowflakeStepMask < wrap64 (g.step + 1) then
      { g with lastMs := wrap64 (g.lastMs + 1), step := 0 }
    else { g with step := wrap64 (g.step + 1) }
  else { g with lastMs := nowMs, step := 0 }

def SnowflakeGenerator.id (g : SnowflakeGenerator) : Int :=
  packID (wrap64 (g.lastMs - snowflakeEpochMs)) g.nodeID g.step

def SnowflakeGenerator.nextID (g : SnowflakeGenerator) (rawMs : Int) : Int × SnowflakeGenerator :=
  let moved := (g.observe rawMs).tick rawMs
  (moved.id, moved)

def decodeID (id : Int) : Int × Int × Int :=
  ((BitVec.ofInt 64 id).sshiftRight snowflakeTimeShift |>.toInt,
    ((BitVec.ofInt 64 id).sshiftRight snowflakeNodeShift &&&
      BitVec.ofInt 64 snowflakeMaxNode).toInt,
    (BitVec.ofInt 64 id &&& BitVec.ofInt 64 snowflakeStepMask).toInt)

/-! ### Runs -/

def SnowflakeGenerator.calls (g : SnowflakeGenerator) : List Int → List (Int × SnowflakeGenerator)
  | [] => []
  | rawMs :: rest => g.nextID rawMs :: (g.nextID rawMs).2.calls rest

def SnowflakeGenerator.after (g : SnowflakeGenerator) (readings : List Int) : SnowflakeGenerator :=
  readings.foldl (fun current rawMs => (current.nextID rawMs).2) g

/-- The calls of several generators in the order in which they happen. -/
def issueIDs {ι : Type} [DecidableEq ι] :
    (ι → SnowflakeGenerator) → List (ι × Int) → List (Int × SnowflakeGenerator)
  | _, [] => []
  | generators, (name, rawMs) :: rest =>
      (generators name).nextID rawMs ::
        issueIDs (Function.update generators name ((generators name).nextID rawMs).2) rest

def SnowflakeGenerator.InRange (g : SnowflakeGenerator) : Prop :=
  g.lastMs - snowflakeEpochMs < 2 ^ 41

instance (g : SnowflakeGenerator) : Decidable g.InRange :=
  inferInstanceAs (Decidable (_ < _))

end Mall
