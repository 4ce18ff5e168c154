/-
Ids are unique as long as every node fits its field.

A call moves the generator's place in time and sequence strictly forward, and
an id tells its place and its node.  A node that is wider than its field writes
over the milliseconds.
-/

import Mall.Identifiers

namespace Mall

open Transactional

variable {g : SnowflakeGenerator}

/-! ### The fields of one id -/

structure FitsID (milliseconds nodeID step : Int) : Prop where
  msLeast : -2 ^ 41 ≤ milliseconds
  msMost : milliseconds < 2 ^ 41
  nodeLeast : 0 ≤ nodeID
  nodeMost : nodeID ≤ 1023
  stepLeast : 0 ≤ step
  stepMost : step ≤ 4095

private theorem packID_eq {milliseconds nodeID step : Int}
    (fits : FitsID milliseconds nodeID step) :
    packID milliseconds nodeID step = milliseconds * 2 ^ 22 + nodeID * 2 ^ 12 + step := by
  obtain ⟨msLeast, msMost, nodeLeast, nodeMost, stepLeast, stepMost⟩ := fits
  have time : (BitVec.ofInt 64 milliseconds).toInt = milliseconds :=
    BitFields.toInt_ofInt (by decide) (by omega) (by omega)
  have node : ((BitVec.ofInt 64 nodeID).toNat : Int) = nodeID :=
    BitFields.toNat_ofInt nodeLeast (by omega)
  have sequence : ((BitVec.ofInt 64 step).toNat : Int) = step :=
    BitFields.toNat_ofInt stepLeast (by omega)
  have lower : ((BitVec.ofInt 64 nodeID <<< 12 ||| BitVec.ofInt 64 step).toNat : Int) =
      nodeID * 2 ^ 12 + step := by
    rw [BitFields.toNat_shiftLeft_or _ _ (by omega), Nat.mod_eq_of_lt (by omega)]
    push_cast
    rw [node, sequence]
  have packed : packID milliseconds nodeID step = (BitVec.ofInt 64 milliseconds <<< 22 |||
      (BitVec.ofInt 64 nodeID <<< 12 ||| BitVec.ofInt 64 step)).toInt := by
    rw [← BitVec.or_assoc]
    rfl
  rw [packed, BitFields.toInt_shiftLeft_or _ _ (by omega) (by rw [time]; omega)
    (by rw [time, lower]; omega), time, lower]
  omega

private theorem decodeID_packID {milliseconds nodeID step : Int}
    (fits : FitsID milliseconds nodeID step) :
    decodeID (packID milliseconds nodeID step) = (milliseconds, nodeID, step) := by
  have packed := packID_eq fits
  obtain ⟨msLeast, msMost, nodeLeast, nodeMost, stepLeast, stepMost⟩ := fits
  rw [packed, decodeID]
  have word : (BitVec.ofInt 64 (milliseconds * 2 ^ 22 + nodeID * 2 ^ 12 + step)).toInt =
      milliseconds * 2 ^ 22 + nodeID * 2 ^ 12 + step :=
    BitFields.toInt_ofInt (by decide) (by omega) (by omega)
  generalize BitVec.ofInt 64 (milliseconds * 2 ^ 22 + nodeID * 2 ^ 12 + step) = id at word ⊢
  have masked : ∀ (value mask : BitVec 64) (bits : Nat), bits ≤ 62 → mask.toNat = 2 ^ bits - 1 →
      (value &&& mask).toInt = value.toInt % 2 ^ bits := by
    intro value mask bits small ones
    have natural : (value &&& mask).toNat = value.toNat % 2 ^ bits :=
      BitFields.toNat_and_ones value mask ones
    have below : value.toNat % 2 ^ bits < 2 ^ 62 :=
      lt_of_lt_of_le (Nat.mod_lt _ (Nat.two_pow_pos bits)) (Nat.pow_le_pow_right (by decide) small)
    rw [← BitFields.toNat_mod_eq_toInt_emod value (by omega), ← natural]
    exact BitVec.toInt_eq_toNat_of_lt (by omega)
  refine Prod.ext ?_ (Prod.ext ?_ ?_)
  · change (id.sshiftRight 22).toInt = milliseconds
    rw [BitFields.toInt_sshiftRight, word]
    omega
  · change (id.sshiftRight 12 &&& BitVec.ofInt 64 snowflakeMaxNode).toInt = nodeID
    rw [masked _ _ 10 (by decide) (by decide), BitFields.toInt_sshiftRight, word]
    omega
  · change (id &&& BitVec.ofInt 64 snowflakeStepMask).toInt = step
    rw [masked _ _ 12 (by decide) (by decide), word]
    omega

/-! ### One call -/

namespace SnowflakeGenerator

/-- A generator whose counters are where a run of calls can bring them. -/
structure Steady (g : SnowflakeGenerator) : Prop where
  started : 0 ≤ g.lastMs
  stepLeast : 0 ≤ g.step
  stepMost : g.step ≤ 4095
  inRange : g.lastMs - 1288834974657 < 2 ^ 41

def place (g : SnowflakeGenerator) : Int :=
  g.lastMs * 4096 + g.step

private theorem Steady.fresh (nodeID : Int) : (fresh nodeID).Steady :=
  { started := le_refl 0
    stepLeast := le_refl 0
    stepMost := by change (0 : Int) ≤ 4095; decide
    inRange := by change (0 : Int) - 1288834974657 < 2 ^ 41; decide }

private theorem Steady.observe (steady : g.Steady) (rawMs : Int) :
    (g.observe rawMs).Steady := by
  unfold SnowflakeGenerator.observe
  split <;> exact ⟨steady.started, steady.stepLeast, steady.stepMost, steady.inRange⟩

private theorem observe_place (g : SnowflakeGenerator) (rawMs : Int) :
    (g.observe rawMs).place = g.place ∧ (g.observe rawMs).nodeID = g.nodeID ∧
      (g.observe rawMs).lastMs = g.lastMs ∧ (g.observe rawMs).step = g.step := by
  unfold SnowflakeGenerator.observe
  split <;> exact ⟨rfl, rfl, rfl, rfl⟩

private theorem Steady.tick_cases (steady : g.Steady) (rawMs : Int) :
    (rawMs ≤ g.lastMs ∧ g.step = 4095 ∧
        g.tick rawMs = { g with lastMs := g.lastMs + 1, step := 0 }) ∨
      (rawMs ≤ g.lastMs ∧ g.step < 4095 ∧ g.tick rawMs = { g with step := g.step + 1 }) ∨
      (g.lastMs < rawMs ∧ g.tick rawMs = { g with lastMs := rawMs, step := 0 }) := by
  obtain ⟨started, stepLeast, stepMost, inRange⟩ := steady
  have step : wrap64 (g.step + 1) = g.step + 1 := wrap64_of_fits (by omega) (by omega)
  have time : wrap64 (g.lastMs + 1) = g.lastMs + 1 := wrap64_of_fits (by omega) (by omega)
  have mask : snowflakeStepMask = 4095 := by decide
  unfold SnowflakeGenerator.tick
  rw [step, time, mask]
  by_cases behind : rawMs ≤ g.lastMs
  · have same : max rawMs g.lastMs = g.lastMs := max_eq_right behind
    simp only [same, if_true]
    by_cases full : 4095 < g.step + 1
    · exact Or.inl ⟨behind, by omega, by rw [if_pos full]⟩
    · exact Or.inr (Or.inl ⟨behind, by omega, by rw [if_neg full]⟩)
  · have ahead : max rawMs g.lastMs = rawMs := max_eq_left (by omega)
    have different : rawMs ≠ g.lastMs := by omega
    simp only [ahead, if_neg different]
    exact Or.inr (Or.inr ⟨by omega, trivial⟩)

private theorem Steady.nextID (steady : g.Steady) (rawMs : Int)
    (inRange : (g.nextID rawMs).2.InRange) :
    (g.nextID rawMs).2.Steady ∧ g.place < (g.nextID rawMs).2.place ∧
      (g.nextID rawMs).2.nodeID = g.nodeID := by
  obtain ⟨place, node, time, step⟩ := observe_place g rawMs
  have observed := steady.observe rawMs
  change ((g.observe rawMs).tick rawMs).InRange at inRange
  change ((g.observe rawMs).tick rawMs).Steady ∧ g.place < ((g.observe rawMs).tick rawMs).place ∧
    ((g.observe rawMs).tick rawMs).nodeID = g.nodeID
  rw [← place, ← node]
  generalize g.observe rawMs = current at observed inRange
  have range : (current.tick rawMs).lastMs - 1288834974657 < 2 ^ 41 := inRange
  have moves := observed.tick_cases rawMs
  have emptied : (0 : Int) ≤ 4095 := by decide
  obtain ⟨started, stepLeast, stepMost, _⟩ := observed
  rcases moves with ⟨_, full, moved⟩ | ⟨_, room, moved⟩ | ⟨ahead, moved⟩
  · rw [moved] at range ⊢
    refine ⟨⟨by change 0 ≤ current.lastMs + 1; omega, le_refl 0, emptied, range⟩, ?_, rfl⟩
    change current.lastMs * 4096 + current.step < (current.lastMs + 1) * 4096 + 0
    omega
  · rw [moved] at range ⊢
    refine ⟨⟨started, by change 0 ≤ current.step + 1; omega,
      by change current.step + 1 ≤ 4095; omega, range⟩, ?_, rfl⟩
    change current.lastMs * 4096 + current.step < current.lastMs * 4096 + (current.step + 1)
    omega
  · rw [moved] at range ⊢
    refine ⟨⟨by change 0 ≤ rawMs; omega, le_refl 0, emptied, range⟩, ?_, rfl⟩
    change current.lastMs * 4096 + current.step < rawMs * 4096 + 0
    omega

/-! ### Ids and places -/

private theorem Steady.fits (steady : g.Steady) (nodeLeast : 0 ≤ g.nodeID)
    (nodeMost : g.nodeID ≤ 1023) :
    FitsID (g.lastMs - 1288834974657) g.nodeID g.step :=
  { msLeast := by have := steady.started; omega
    msMost := steady.inRange
    nodeLeast := nodeLeast
    nodeMost := nodeMost
    stepLeast := steady.stepLeast
    stepMost := steady.stepMost }

private theorem Steady.id_eq (steady : g.Steady) :
    g.id = packID (g.lastMs - 1288834974657) g.nodeID g.step := by
  have started := steady.started
  have inRange := steady.inRange
  have time : wrap64 (g.lastMs - snowflakeEpochMs) = g.lastMs - 1288834974657 :=
    wrap64_of_fits (by unfold snowflakeEpochMs; omega) (by unfold snowflakeEpochMs; omega)
  rw [SnowflakeGenerator.id, time]

private theorem Steady.decode (steady : g.Steady) (nodeLeast : 0 ≤ g.nodeID)
    (nodeMost : g.nodeID ≤ 1023) :
    decodeID g.id = (g.lastMs - snowflakeEpochMs, g.nodeID, g.step) := by
  rw [steady.id_eq, decodeID_packID (steady.fits nodeLeast nodeMost)]
  rfl

private theorem Steady.id_lt {g later : SnowflakeGenerator} (steady : g.Steady)
    (steadyLater : later.Steady)
    (same : later.nodeID = g.nodeID) (nodeLeast : 0 ≤ g.nodeID) (nodeMost : g.nodeID ≤ 1023)
    (forward : g.place < later.place) : g.id < later.id := by
  rw [steady.id_eq, steadyLater.id_eq, packID_eq (steady.fits nodeLeast nodeMost),
    packID_eq (steadyLater.fits (by omega) (by omega)), same]
  have before := steady.stepMost
  have after := steadyLater.stepLeast
  have least := steady.stepLeast
  have most := steadyLater.stepMost
  change g.lastMs * 4096 + g.step < later.lastMs * 4096 + later.step at forward
  omega

/-! ### Runs of one generator -/

private theorem Steady.calls (steady : g.Steady) {readings : List Int}
    (inRange : ∀ call ∈ g.calls readings, call.2.InRange) :
    ∀ call ∈ g.calls readings, call.1 = call.2.id ∧ call.2.Steady ∧ g.place < call.2.place ∧
      call.2.nodeID = g.nodeID := by
  induction readings generalizing g with
  | nil => intro call member; cases member
  | cons rawMs rest ih =>
      obtain ⟨next, forward, node⟩ := steady.nextID rawMs (inRange _ List.mem_cons_self)
      intro call member
      rcases List.mem_cons.mp member with rfl | later
      · exact ⟨rfl, next, forward, node⟩
      · obtain ⟨same, good, further, still⟩ :=
          ih next (fun other present => inRange other (List.mem_cons_of_mem _ present)) call later
        exact ⟨same, good, lt_trans forward further, still.trans node⟩

private theorem Steady.after (steady : g.Steady) {readings : List Int}
    (inRange : ∀ call ∈ g.calls readings, call.2.InRange) : (g.after readings).Steady := by
  induction readings generalizing g with
  | nil => exact steady
  | cons rawMs rest ih =>
      obtain ⟨next, _, _⟩ := steady.nextID rawMs (inRange _ List.mem_cons_self)
      exact ih next (fun call present => inRange call (List.mem_cons_of_mem _ present))

private theorem Steady.calls_increasing (steady : g.Steady) (nodeLeast : 0 ≤ g.nodeID)
    (nodeMost : g.nodeID ≤ 1023) {readings : List Int}
    (inRange : ∀ call ∈ g.calls readings, call.2.InRange) :
    ((g.calls readings).map Prod.fst).Pairwise (· < ·) := by
  induction readings generalizing g with
  | nil => exact .nil
  | cons rawMs rest ih =>
      obtain ⟨next, _, node⟩ := steady.nextID rawMs (inRange _ List.mem_cons_self)
      have rangeLater : ∀ call ∈ (g.nextID rawMs).2.calls rest, call.2.InRange :=
        fun call present => inRange call (List.mem_cons_of_mem _ present)
      refine List.pairwise_cons.mpr ⟨?_, ih next (by omega) (by omega) rangeLater⟩
      intro id member
      obtain ⟨call, later, rfl⟩ := List.mem_map.mp member
      obtain ⟨same, good, further, still⟩ := next.calls rangeLater call later
      rw [same]
      exact next.id_lt good still (by omega) (by omega) further

/-- Borrowed milliseconds are paid for with whole sequences of calls. -/
theorem Steady.ahead (steady : g.Steady) {reached count : Int} (counted : 0 ≤ count)
    (behind : (g.lastMs - reached) * 4096 + g.step ≤ count) {readings : List Int}
    (inRange : ∀ call ∈ g.calls readings, call.2.InRange) :
    ((g.after readings).lastMs - readings.foldl max reached) * 4096 + (g.after readings).step ≤
      count + readings.length := by
  induction readings generalizing g reached count with
  | nil =>
      rw [List.length_nil, Nat.cast_zero, Int.add_zero]
      exact behind
  | cons rawMs rest ih =>
      obtain ⟨next, _, _⟩ := steady.nextID rawMs (inRange _ List.mem_cons_self)
      have still : ((g.nextID rawMs).2.lastMs - max reached rawMs) * 4096 + (g.nextID rawMs).2.step ≤
          count + 1 := by
        obtain ⟨_, _, time, step⟩ := observe_place g rawMs
        change (((g.observe rawMs).tick rawMs).lastMs - max reached rawMs) * 4096 +
          ((g.observe rawMs).tick rawMs).step ≤ count + 1
        rw [← time, ← step] at behind
        have observed := steady.observe rawMs
        have least := observed.stepLeast
        have larger : reached ≤ max reached rawMs := le_max_left _ _
        have seen : rawMs ≤ max reached rawMs := le_max_right _ _
        rcases observed.tick_cases rawMs with ⟨_, full, moved⟩ | ⟨_, room, moved⟩ | ⟨_, moved⟩
        · rw [moved]
          change ((g.observe rawMs).lastMs + 1 - max reached rawMs) * 4096 + 0 ≤ count + 1
          omega
        · rw [moved]
          change ((g.observe rawMs).lastMs - max reached rawMs) * 4096 +
            ((g.observe rawMs).step + 1) ≤ count + 1
          omega
        · rw [moved]
          change (rawMs - max reached rawMs) * 4096 + 0 ≤ count + 1
          omega
      have rest := ih next (by omega) still (fun call present => inRange call (List.mem_cons_of_mem _ present))
      rw [List.length_cons, Nat.cast_succ, List.foldl_cons]
      change (((g.nextID rawMs).2.after _).lastMs - _) * 4096 + ((g.nextID rawMs).2.after _).step ≤ _
      omega

end SnowflakeGenerator

/-- One node's ids, whatever its clock shows. -/
theorem nextID_any_clock {node : Int} (least : 0 ≤ node) (most : node ≤ snowflakeMaxNode)
    (readings : List Int)
    (inRange : ∀ call ∈ (SnowflakeGenerator.fresh node).calls readings, call.2.InRange) :
    (((SnowflakeGenerator.fresh node).calls readings).map Prod.fst).Pairwise (· < ·) ∧
      (∀ call ∈ (SnowflakeGenerator.fresh node).calls readings,
        -2 ^ 63 ≤ call.1 ∧ call.1 < 2 ^ 63 ∧ call.2.nodeID = node ∧
          decodeID call.1 =
            (call.2.lastMs - snowflakeEpochMs, call.2.nodeID, call.2.step)) ∧
      ((SnowflakeGenerator.fresh node).after readings).lastMs - readings.foldl max 0 ≤
        readings.length / 4096 := by
  have steady := SnowflakeGenerator.Steady.fresh node
  change node ≤ 1023 at most
  refine ⟨steady.calls_increasing least most inRange, ?_, ?_⟩
  · intro call member
    obtain ⟨same, good, _, kept⟩ := steady.calls inRange call member
    have stays : call.2.nodeID = node := kept
    have fits := good.fits (by omega) (by omega)
    have value : call.1 = _ := same.trans (good.id_eq.trans (packID_eq fits))
    obtain ⟨msLeast, msMost, nodeLeast, nodeMost, stepLeast, stepMost⟩ := fits
    refine ⟨by omega, by omega, stays, ?_⟩
    rw [same]
    exact good.decode nodeLeast nodeMost
  · have paid := steady.ahead (le_refl 0)
      (by change (0 - 0) * 4096 + 0 ≤ (0 : Int); decide) inRange
    have least := (steady.after inRange).stepLeast
    omega

/-- A frozen clock, a burst that outlives it, a jump and a step back. -/
theorem nextID_any_clock_rollback :
    (((SnowflakeGenerator.fresh 7).calls [1700000000000, 1700000000000, 1700000000005, 3]).map
        Prod.fst).Pairwise (· < ·) ∧
      ((SnowflakeGenerator.fresh 7).after
        [1700000000000, 1700000000000, 1700000000005, 3]).lastMs = 1700000000005 := by
  have run := nextID_any_clock (by decide : (0 : Int) ≤ 7) (by decide)
    [1700000000000, 1700000000000, 1700000000005, 3] (by decide +kernel)
  exact ⟨run.1, by decide +kernel⟩

/-! ### Accepted generators -/

private theorem newSnowflakeIDGenerator_cases {strconv : Strconv} {c : Option SnowflakeConf}
    {raw : String} (accepted : newSnowflakeIDGenerator strconv c raw = .ok g) :
    g = .fresh g.nodeID ∧
      ((∃ conf, c = some conf ∧ g.nodeID = conf.nodeId.toInt ∧ 0 < conf.nodeId.toInt) ∨
        ((∀ conf, c = some conf → conf.nodeId.toInt ≤ 0) ∧ 0 ≤ g.nodeID ∧ g.nodeID ≤ 1023)) := by
  obtain ⟨nodeID, resolved, built⟩ := bind_eq_ok.mp accepted
  cases pure_eq_ok.mp built
  refine ⟨rfl, ?_⟩
  change (∃ conf, c = some conf ∧ nodeID = conf.nodeId.toInt ∧ 0 < conf.nodeId.toInt) ∨
    ((∀ conf, c = some conf → conf.nodeId.toInt ≤ 0) ∧ 0 ≤ nodeID ∧ nodeID ≤ 1023)
  rw [resolveSnowflakeNodeID] at resolved
  split at resolved
  · rename_i conf chosen
    obtain ⟨present, positive⟩ := Option.filter_eq_some_iff.mp chosen
    cases resolved
    exact Or.inl ⟨conf, present, rfl, of_decide_eq_true positive⟩
  · rename_i none
    have absent : ∀ conf, c = some conf → conf.nodeId.toInt ≤ 0 := by
      intro conf present
      rw [present] at none
      have refused := Option.filter_eq_none_iff.mp none conf rfl
      simpa using refused
    split at resolved
    · cases resolved
    · split at resolved
      · cases resolved
      · split at resolved
        · cases resolved
        · rename_i inside
          cases resolved
          have bounds : ¬ (nodeID < 0 ∨ 1023 < nodeID) := inside
          exact Or.inr ⟨absent, by omega, by omega⟩

/-! ### Nodes wider than their field -/

/-- The top bit of a wide node covers one of the milliseconds. -/
theorem packID_wide {node : Nat} (wide : 1024 ≤ node) (small : node < 2 ^ 31) :
    packID (2 ^ (node.log2 - 10)) node 0 = packID 0 node 0 := by
  have top : 10 ≤ node.log2 := (Nat.le_log2 (by omega)).mpr (by omega)
  have most : node.log2 < 31 := (Nat.log2_lt (by omega)).mpr small
  have place : 2 ^ (node.log2 + 12) < 2 ^ 64 := Nat.pow_lt_pow_right (by decide) (by omega)
  have shifted : (BitVec.ofInt 64 (2 ^ (node.log2 - 10)) <<< 22).toNat = 2 ^ (node.log2 + 12) := by
    have value : (BitVec.ofInt 64 (2 ^ (node.log2 - 10))).toNat = 2 ^ (node.log2 - 10) := by
      have lifted : ((BitVec.ofInt 64 (2 ^ (node.log2 - 10))).toNat : Int) = 2 ^ (node.log2 - 10) :=
        BitFields.toNat_ofInt (by positivity)
          (by exact_mod_cast Nat.pow_lt_pow_right (by decide) (by omega : node.log2 - 10 < 64))
      exact_mod_cast lifted
    rw [BitVec.toNat_shiftLeft, value, Nat.shiftLeft_eq, ← Nat.pow_add,
      show node.log2 - 10 + 22 = node.log2 + 12 by omega, Nat.mod_eq_of_lt place]
  have lower : (BitVec.ofInt 64 (node : Int) <<< 12).toNat = node <<< 12 := by
    have value : (BitVec.ofInt 64 (node : Int)).toNat = node := by
      have lifted : ((BitVec.ofInt 64 (node : Int)).toNat : Int) = node :=
        BitFields.toNat_ofInt (Int.natCast_nonneg node) (by omega)
      exact_mod_cast lifted
    rw [BitVec.toNat_shiftLeft, value, Nat.shiftLeft_eq, Nat.mod_eq_of_lt (by omega)]
  have covered : (node <<< 12).testBit (node.log2 + 12) = true := by
    rw [Nat.testBit_shiftLeft, Nat.add_sub_cancel, Nat.testBit_log2 (by omega)]
    simp
  have overlap : BitVec.ofInt 64 (2 ^ (node.log2 - 10)) <<< 22 ||| BitVec.ofInt 64 (node : Int) <<< 12
      = BitVec.ofInt 64 (node : Int) <<< 12 := by
    apply BitVec.eq_of_toNat_eq
    rw [BitVec.toNat_or, shifted, lower]
    exact BitFields.two_pow_or_of_testBit covered
  have nothing : BitVec.ofInt 64 0 <<< 22 ||| BitVec.ofInt 64 (node : Int) <<< 12 =
      BitVec.ofInt 64 (node : Int) <<< 12 := by
    simp
  change ((BitVec.ofInt 64 (2 ^ (node.log2 - 10)) <<< 22 ||| BitVec.ofInt 64 (node : Int) <<< 12) |||
    BitVec.ofInt 64 0).toInt = ((BitVec.ofInt 64 0 <<< 22 ||| BitVec.ofInt 64 (node : Int) <<< 12) |||
    BitVec.ofInt 64 0).toInt
  rw [overlap, nothing]

private theorem SnowflakeGenerator.nextID_forward {rawMs : Int} (wall : g.wallMs ≤ rawMs)
    (ahead : g.lastMs < rawMs) :
    (g.nextID rawMs).2 = { g with wallMs := rawMs, lastMs := rawMs, step := 0 } := by
  have seen : g.observe rawMs = { g with wallMs := rawMs } := if_neg (not_lt.mpr wall)
  change (g.observe rawMs).tick rawMs = _
  rw [seen, SnowflakeGenerator.tick]
  have newest : max rawMs g.lastMs = rawMs := max_eq_left ahead.le
  have different : rawMs ≠ g.lastMs := ne_of_gt ahead
  simp only [newest, if_neg different]

private theorem wide_node_repeats {node : Nat} (wide : 1024 ≤ node) (small : node < 2 ^ 31) :
    ∃ readings : List Int,
      (∀ call ∈ (SnowflakeGenerator.fresh node).calls readings, call.2.InRange) ∧
        ¬ (((SnowflakeGenerator.fresh node).calls readings).map Prod.fst).Nodup := by
  have most : node.log2 < 31 := (Nat.log2_lt (by omega)).mpr small
  have positive : (0 : Int) < 2 ^ (node.log2 - 10) := by positivity
  have bounded : (2 : Int) ^ (node.log2 - 10) < 2 ^ 41 := by
    exact_mod_cast Nat.pow_lt_pow_right (by decide) (by omega : node.log2 - 10 < 41)
  have epoch : snowflakeEpochMs = 1288834974657 := rfl
  have first := @SnowflakeGenerator.nextID_forward (.fresh node) snowflakeEpochMs
    (by change 0 ≤ snowflakeEpochMs; omega) (by change 0 < snowflakeEpochMs; omega)
  have second := @SnowflakeGenerator.nextID_forward
    ((SnowflakeGenerator.fresh node).nextID snowflakeEpochMs).2
    (snowflakeEpochMs + 2 ^ (node.log2 - 10))
    (by rw [first]; change snowflakeEpochMs ≤ _; omega)
    (by rw [first]; change snowflakeEpochMs < _; omega)
  refine ⟨[snowflakeEpochMs, snowflakeEpochMs + 2 ^ (node.log2 - 10)], ?_, ?_⟩
  · intro call member
    rcases List.mem_cons.mp member with rfl | later
    · rw [first]
      change snowflakeEpochMs - snowflakeEpochMs < 2 ^ 41
      omega
    · rw [List.mem_singleton.mp later, second]
      change snowflakeEpochMs + 2 ^ (node.log2 - 10) - snowflakeEpochMs < 2 ^ 41
      omega
  · intro distinct
    refine (List.nodup_cons.mp distinct).1 (List.mem_singleton.mpr ?_)
    change ((SnowflakeGenerator.fresh node).nextID snowflakeEpochMs).2.id =
      (((SnowflakeGenerator.fresh node).nextID snowflakeEpochMs).2.nextID
        (snowflakeEpochMs + 2 ^ (node.log2 - 10))).2.id
    rw [second, first]
    change packID (wrap64 (snowflakeEpochMs - snowflakeEpochMs)) node 0 =
      packID (wrap64 (snowflakeEpochMs + 2 ^ (node.log2 - 10) - snowflakeEpochMs)) node 0
    rw [wrap64_of_fits (by omega) (by omega), wrap64_of_fits (by omega) (by omega), sub_self,
      add_sub_cancel_left]
    exact (packID_wide wide small).symm

/-! ### Runs of several generators -/

section Family

variable {ι : Type} [DecidableEq ι]

private theorem steady_update {generators : ι → SnowflakeGenerator}
    (steady : ∀ name, (generators name).Steady) {name : ι} (good : g.Steady) (other : ι) :
    (Function.update generators name g other).Steady := by
  by_cases same : other = name
  · subst same
    rw [Function.update_self]
    exact good
  · rw [Function.update_of_ne same]
    exact steady other

private theorem node_update {generators : ι → SnowflakeGenerator} {name : ι}
    (node : g.nodeID = (generators name).nodeID) (other : ι) :
    (Function.update generators name g other).nodeID = (generators other).nodeID := by
  by_cases same : other = name
  · subst same
    rw [Function.update_self, node]
  · rw [Function.update_of_ne same]

private theorem issueIDs_origin {generators : ι → SnowflakeGenerator}
    (steady : ∀ name, (generators name).Steady) {calls : List (ι × Int)}
    (inRange : ∀ issued ∈ issueIDs generators calls, issued.2.InRange) :
    ∀ issued ∈ issueIDs generators calls, issued.1 = issued.2.id ∧ issued.2.Steady ∧
      ∃ name, issued.2.nodeID = (generators name).nodeID ∧
        (generators name).place < issued.2.place := by
  induction calls generalizing generators with
  | nil => intro issued member; cases member
  | cons call rest ih =>
      obtain ⟨name, rawMs⟩ := call
      obtain ⟨next, forward, node⟩ :=
        (steady name).nextID rawMs (inRange _ List.mem_cons_self)
      intro issued member
      rcases List.mem_cons.mp member with rfl | later
      · exact ⟨rfl, next, name, node, forward⟩
      · obtain ⟨value, good, other, origin, behind⟩ := ih (steady_update steady next)
          (fun issued present => inRange issued (List.mem_cons_of_mem _ present)) issued later
        refine ⟨value, good, other, origin.trans (node_update node other), ?_⟩
        by_cases same : other = name
        · subst same
          rw [Function.update_self] at behind
          exact lt_trans forward behind
        · rw [Function.update_of_ne same] at behind
          exact behind

/-- Nodes that fit their field and differ never issue one id twice. -/
theorem issueIDs_nodup {generators : ι → SnowflakeGenerator}
    (steady : ∀ name, (generators name).Steady) (least : ∀ name, 0 ≤ (generators name).nodeID)
    (most : ∀ name, (generators name).nodeID ≤ 1023)
    (distinct : ∀ left right, left ≠ right →
      (generators left).nodeID ≠ (generators right).nodeID)
    {calls : List (ι × Int)}
    (inRange : ∀ issued ∈ issueIDs generators calls, issued.2.InRange) :
    ((issueIDs generators calls).map Prod.fst).Nodup := by
  induction calls generalizing generators with
  | nil => exact .nil
  | cons call rest ih =>
      obtain ⟨name, rawMs⟩ := call
      obtain ⟨next, _, node⟩ := (steady name).nextID rawMs (inRange _ List.mem_cons_self)
      have steadyLater : ∀ other, (Function.update generators name _ other).Steady :=
        steady_update steady next
      have nodes := node_update node
      have rangeLater : ∀ issued ∈ issueIDs (Function.update generators name
          ((generators name).nextID rawMs).2) rest, issued.2.InRange :=
        fun issued present => inRange issued (List.mem_cons_of_mem _ present)
      refine List.nodup_cons.mpr ⟨?_, ih steadyLater
        (fun other => by rw [nodes]; exact least other)
        (fun other => by rw [nodes]; exact most other)
        (fun left right different => by rw [nodes, nodes]; exact distinct left right different)
        rangeLater⟩
      intro member
      obtain ⟨issued, later, same⟩ := List.mem_map.mp member
      obtain ⟨value, good, other, origin, behind⟩ :=
        issueIDs_origin steadyLater rangeLater issued later
      have mine := least name
      have mineMost := most name
      have theirs := least other
      have theirsMost := most other
      rw [nodes] at origin
      rw [value] at same
      by_cases here : other = name
      · -- The same generator has moved on.
        subst here
        rw [Function.update_self] at behind
        have larger := next.id_lt good (origin.trans node.symm) (by omega) (by omega) behind
        exact absurd same.symm (ne_of_lt larger)
      · -- Another node shows in the id.
        have decoded := congrArg decodeID same
        rw [good.decode (by omega) (by omega)] at decoded
        have head := next.decode (by omega) (by omega)
        change decodeID ((generators name).nextID rawMs).1 = _ at head
        rw [head, Prod.mk.injEq, Prod.mk.injEq, origin, node] at decoded
        exact distinct other name here decoded.2.1

private theorem issueIDs_alone (generators : ι → SnowflakeGenerator) (name : ι)
    (readings : List Int) :
    issueIDs generators (readings.map (Prod.mk name)) = (generators name).calls readings := by
  induction readings generalizing generators with
  | nil => rfl
  | cons rawMs rest ih =>
      rw [List.map_cons, issueIDs, ih, Function.update_self]
      rfl

/-- Accepted generators with different nodes never issue an id twice exactly when
no configured node is wider than its field. -/
theorem ids_distinct_iff_nodes_fit (strconv : Strconv) (conf : ι → Option SnowflakeConf)
    (raw : ι → String) {generators : ι → SnowflakeGenerator}
    (accepted : ∀ name, newSnowflakeIDGenerator strconv (conf name) (raw name) =
      .ok (generators name))
    (distinct : ∀ left right, left ≠ right →
      (generators left).nodeID ≠ (generators right).nodeID) :
    (∀ calls : List (ι × Int), (∀ issued ∈ issueIDs generators calls, issued.2.InRange) →
        ((issueIDs generators calls).map Prod.fst).Nodup) ↔
      ∀ name entry, conf name = some entry → entry.nodeId.toInt ≤ snowflakeMaxNode := by
  constructor
  · intro unique name entry configured
    by_contra tooWide
    have wide : 1023 < entry.nodeId.toInt := not_le.mp tooWide
    have small : entry.nodeId.toInt < 2 ^ 31 := by
      have bound := @BitVec.toInt_lt 32 entry.nodeId
      exact_mod_cast bound
    obtain ⟨built, origin⟩ := newSnowflakeIDGenerator_cases (accepted name)
    have node : (generators name).nodeID = entry.nodeId.toInt := by
      rcases origin with ⟨other, same, value, _⟩ | ⟨absent, _, _⟩
      · cases configured.symm.trans same
        exact value
      · have := absent entry configured
        omega
    obtain ⟨natural, cast⟩ := Int.eq_ofNat_of_zero_le (by omega : 0 ≤ entry.nodeId.toInt)
    have fresh : generators name = .fresh (natural : Int) := by
      rw [← cast, ← node]
      exact built
    obtain ⟨readings, inRange, repeated⟩ := wide_node_repeats (by omega : 1024 ≤ natural) (by omega)
    refine repeated ?_
    rw [← fresh, ← issueIDs_alone] at inRange ⊢
    exact unique _ inRange
  · intro fits calls inRange
    have bounds : ∀ name, 0 ≤ (generators name).nodeID ∧ (generators name).nodeID ≤ 1023 := by
      intro name
      rcases (newSnowflakeIDGenerator_cases (accepted name)).2 with
        ⟨entry, configured, value, positive⟩ | ⟨_, least, most⟩
      · have most : entry.nodeId.toInt ≤ 1023 := fits name entry configured
        omega
      · exact ⟨least, most⟩
    have steady : ∀ name, (generators name).Steady := by
      intro name
      rw [(newSnowflakeIDGenerator_cases (accepted name)).1]
      exact .fresh _
    exact issueIDs_nodup steady (fun name => (bounds name).1) (fun name => (bounds name).2)
      distinct inRange

end Family

def noStrconv : Strconv :=
  { parseInt := fun _ => .error "invalid syntax"
    quote := fun text => text }

def twoEntries (second : BitVec 32) (name : Bool) : Option SnowflakeConf :=
  some { nodeId := if name then second else 1 }

/-- Two entries that fit, so their ids stay apart. -/
theorem ids_distinct_iff_nodes_fit_one_two :
    ((issueIDs (fun name => SnowflakeGenerator.fresh (if name then 2 else 1))
      [(true, 1700000000000), (false, 1700000000000), (true, 3)]).map Prod.fst).Nodup :=
  (ids_distinct_iff_nodes_fit noStrconv (twoEntries 2) (fun _ => "") (by decide) (by decide)).mpr
    (by decide) [(true, 1700000000000), (false, 1700000000000), (true, 3)] (by decide +kernel)

/-- Nodes 1 and 1025 are both accepted and share an id. -/
theorem nodes_one_and_1025_collide :
    (∀ name, newSnowflakeIDGenerator noStrconv (twoEntries 1025 name) "" =
        .ok (SnowflakeGenerator.fresh (if name then 1025 else 1))) ∧
      (∀ issued ∈ issueIDs (fun name => SnowflakeGenerator.fresh (if name then 1025 else 1))
        [(false, snowflakeEpochMs + 1), (true, snowflakeEpochMs)], issued.2.InRange) ∧
      ¬ ((issueIDs (fun name => SnowflakeGenerator.fresh (if name then 1025 else 1))
        [(false, snowflakeEpochMs + 1), (true, snowflakeEpochMs)]).map Prod.fst).Nodup := by
  refine ⟨by decide, by decide +kernel, by decide +kernel⟩

end Mall
