/-
What the published schema admits, against what the field rules accept.

A number rule with its upper bound below its lower one means what is outside, and is
published as what is inside.  A length that is no signed number is published as a negative
one.  A lower bound in octets is published as one in characters, on purpose; it forbids a
text of few long characters.
-/

import Mall.OpenApi.Keywords
import Mathlib.Data.List.ReduceOption

namespace Mall.OpenApi

open Utf8

/-- The schema of a string field forbids nothing that its rules accept. -/
structure FieldDescriptor.PublishesStrings (field : FieldDescriptor) : Prop where
  admits : ∀ value, field.AcceptsString value → AdmitsString (schemaPatch field).pairs value
  optional : field.AcceptsString "" → (schemaPatch field).required = false

structure FieldDescriptor.PublishesNumbers (field : FieldDescriptor) : Prop where
  admits : ∀ value, field.AcceptsInt32 value → AdmitsInt32 (schemaPatch field).pairs value
  optional : field.AcceptsInt32 0 → (schemaPatch field).required = false

/-! ### Reading keywords back -/

private theorem keyword_kv {pairs : List Node} (paired : Entries.Paired pairs) (key name : String)
    (value : Node) :
    keyword (kv pairs key value) name =
      (keyword pairs name).or (if key = name then some value else none) := by
  rw [keyword, keyword, kv]
  induction paired with
  | nil =>
      rw [List.nil_append, Entries.find?, keyNode_value]
      by_cases same : key = name
      · rw [if_pos same, if_pos (congrArg octets same)]
        rfl
      · rw [if_neg same, if_neg (fun alike => same (octets_injective alike))]
        rfl
  | cons entry old _ ih =>
      rw [List.cons_append, List.cons_append, Entries.find?, Entries.find?]
      split
      · rfl
      · exact ih

private theorem paired_kv {pairs : List Node} (paired : Entries.Paired pairs) (key : String)
    (value : Node) : Entries.Paired (kv pairs key value) :=
  Entries.paired_append_two paired _ _

private theorem keyword_kv_if {pairs : List Node} {condition : Prop} [Decidable condition]
    (paired : Entries.Paired pairs) (key name : String) (value : Node) :
    keyword (if condition then kv pairs key value else pairs) name =
        (keyword pairs name).or (if condition ∧ key = name then some value else none) ∧
      Entries.Paired (if condition then kv pairs key value else pairs) := by
  by_cases added : condition
  · rw [if_pos added, keyword_kv paired]
    refine ⟨?_, paired_kv paired key value⟩
    by_cases same : key = name
    · rw [if_pos same, if_pos ⟨added, same⟩]
    · rw [if_neg same, if_neg (fun both => same both.2)]
  · rw [if_neg added, if_neg (fun both => added both.1), Option.or_none]
    exact ⟨rfl, paired⟩

private theorem keyword_stringKeywords (rules : StringRules) (name : String) :
    keyword (stringKeywords [] rules) name =
      ((if 0 < rules.leastLength ∧ "minLength" = name then
            some (intNode (toInt rules.leastLength)) else none).or
          (if 0 < rules.mostLength ∧ "maxLength" = name then
            some (intNode (toInt rules.mostLength)) else none)).or
        (if rules.within ≠ [] ∧ "enum" = name then
          some (seqNode (rules.within.map (fun value => strNode (octets value)))) else none) := by
  obtain ⟨least, paired⟩ := @keyword_kv_if [] (0 < rules.leastLength) _ Entries.Paired.nil
    "minLength" name (intNode (toInt rules.leastLength))
  obtain ⟨most, paired⟩ := @keyword_kv_if _ (0 < rules.mostLength) _ paired
    "maxLength" name (intNode (toInt rules.mostLength))
  obtain ⟨listed, _⟩ := @keyword_kv_if _ (rules.within ≠ []) _ paired "enum" name
    (seqNode (rules.within.map (fun value => strNode (octets value))))
  rw [most, least] at listed
  rw [stringKeywords, ← ite_not]
  exact listed

private theorem keyword_minLength (rules : StringRules) :
    keyword (stringKeywords [] rules) "minLength" =
      if 0 < rules.leastLength then some (intNode (toInt rules.leastLength)) else none := by
  simp [keyword_stringKeywords]

private theorem keyword_maxLength (rules : StringRules) :
    keyword (stringKeywords [] rules) "maxLength" =
      if 0 < rules.mostLength then some (intNode (toInt rules.mostLength)) else none := by
  simp [keyword_stringKeywords]

private theorem keyword_enum (rules : StringRules) :
    keyword (stringKeywords [] rules) "enum" =
      if rules.within ≠ [] then
        some (seqNode (rules.within.map (fun value => strNode (octets value)))) else none := by
  simp [keyword_stringKeywords]

/-! ### Lengths -/

private theorem toInt_of_fits {number : UInt64} (fits : number.toNat < 2 ^ 63) :
    toInt number = number.toNat :=
  wrap64_of_fits (by omega) (by omega)

private theorem toInt_neg {number : UInt64} (large : 2 ^ 63 ≤ number.toNat) : toInt number < 0 := by
  have range := number.toNat_lt
  rw [toInt, wrap64, Int.bmod_def]
  omega

private theorem toNat_maxUint64 (left right : UInt64) :
    (maxUint64 left right).toNat = max left.toNat right.toNat := by
  rw [maxUint64]
  split
  · next less =>
    have less := UInt64.lt_iff_toNat_lt.mp less
    omega
  · next less =>
    have least := mt UInt64.lt_iff_toNat_lt.mpr less
    omega

private theorem StringRules.toNat_leastLength (rules : StringRules) :
    rules.leastLength.toNat = max (max (rules.len.getD 0).toNat (rules.minLen.getD 0).toNat)
      (rules.minBytes.getD 0).toNat := by
  have characters : (rules.minLen.elim (rules.len.getD 0) (maxUint64 (rules.len.getD 0))).toNat =
      max (rules.len.getD 0).toNat (rules.minLen.getD 0).toNat := by
    cases rules.minLen with
    | none => exact (Nat.max_zero _).symm
    | some least => exact toNat_maxUint64 _ _
  rw [StringRules.leastLength, ← characters]
  cases rules.minBytes with
  | none => exact (Nat.max_zero _).symm
  | some least => exact toNat_maxUint64 _ _

private theorem clampMax_bounds {current candidate : UInt64} {length : Nat}
    (before : current = 0 ∨ length ≤ current.toNat) (below : length ≤ candidate.toNat) :
    clampMax current candidate = 0 ∨ length ≤ (clampMax current candidate).toNat := by
  rw [clampMax]
  split
  · exact before
  · split
    · exact Or.inr below
    · exact before

private theorem clampMax_eq_zero {current candidate : UInt64} :
    clampMax current candidate = 0 ↔ current = 0 ∧ candidate = 0 := by
  unfold clampMax
  grind

private theorem clampMax_large {current candidate : UInt64} :
    (clampMax current candidate ≠ 0 → 2 ^ 63 ≤ (clampMax current candidate).toNat) ↔
      (current ≠ 0 → 2 ^ 63 ≤ current.toNat) ∧ (candidate ≠ 0 → 2 ^ 63 ≤ candidate.toNat) := by
  unfold clampMax
  grind [UInt64.lt_iff_toNat_lt]

namespace StringRules

variable {rules : StringRules} {value : String}

/-! ### Conditions on the rules -/

/-- The fewest characters under the lower bounds.  A character has four octets at most. -/
def fewest (rules : StringRules) : Nat :=
  max (max (rules.len.getD 0).toNat (rules.minLen.getD 0).toNat)
    (((rules.minBytes.getD 0).toNat + 3) / 4)

def Allows (rules : StringRules) (count : Nat) : Prop :=
  (∀ length ∈ rules.len, count ≤ length.toNat) ∧ ∀ most ∈ rules.maxLen, count ≤ most.toNat

/-- The rules leave room for a text with fewer characters than it must have octets. -/
def Undercounts (rules : StringRules) : Prop :=
  ∃ least ∈ rules.minBytes, least.toNat < 2 ^ 63 ∧
    (∀ most ∈ rules.maxBytes, least.toNat ≤ most.toNat) ∧ rules.fewest < least.toNat ∧
    rules.Allows rules.fewest

def upperBounds (rules : StringRules) : List UInt64 :=
  [rules.len, rules.maxLen, rules.maxBytes].reduceOption

/-- Among the upper bounds that are not zero, of which there are some, none fits into a
signed number. -/
def Overflows (rules : StringRules) : Prop :=
  (∃ bound ∈ rules.upperBounds, bound ≠ 0) ∧
    ∀ bound ∈ rules.upperBounds, bound ≠ 0 → 2 ^ 63 ≤ bound.toNat

/-- The rules leave room for a text, and for one that is not empty where it is required. -/
def LeaveRoom (required : Bool) (rules : StringRules) : Prop :=
  rules.Allows (max rules.fewest required.toNat) ∧
    ∀ most ∈ rules.maxBytes, max rules.fewest required.toNat ≤ most.toNat ∧
      ∀ least ∈ rules.minBytes, least.toNat ≤ most.toNat

/-- The text has as many characters as it must have octets. -/
def CountsCharacters (rules : StringRules) (value : String) : Prop :=
  ∀ least ∈ rules.minBytes, least.toNat < 2 ^ 63 → least.toNat ≤ value.length

/-- The lengths mean the same in the schema.  With a list of values it is enough to look at
these. -/
def LengthsFit (required : Bool) (rules : StringRules) : Prop :=
  if rules.within = [] then
    ¬ rules.Undercounts ∧ ¬ (rules.Overflows ∧ rules.LeaveRoom required)
  else
    ∀ value ∈ rules.within, rules.Accepts value → (required = true → value ≠ "") →
      ¬ rules.Overflows ∧ rules.CountsCharacters value

section Lookup

variable {condition : UInt64 → Prop} [DecidablePred condition]

-- A bound is looked up in its rule.  There are instances that try every number instead.
instance (priority := high) (bound : Option UInt64) :
    Decidable (∀ number ∈ bound, condition number) :=
  bound.decidableForallMem

instance (priority := high) (bound : Option UInt64) :
    Decidable (∃ number ∈ bound, condition number) :=
  bound.decidableExistsMem

instance (priority := high) (bounds : List UInt64) :
    Decidable (∀ number ∈ bounds, condition number) :=
  bounds.decidableBAll condition

instance (priority := high) (bounds : List UInt64) :
    Decidable (∃ number ∈ bounds, condition number) :=
  bounds.decidableBEx condition

end Lookup

instance (rules : StringRules) (value : String) : Decidable (rules.Accepts value) := by
  unfold Accepts
  infer_instance

instance (rules : StringRules) (count : Nat) : Decidable (rules.Allows count) := by
  unfold Allows
  infer_instance

instance (rules : StringRules) : Decidable rules.Undercounts := by
  unfold Undercounts
  infer_instance

instance (rules : StringRules) : Decidable rules.Overflows := by
  unfold Overflows
  infer_instance

instance (required : Bool) (rules : StringRules) : Decidable (rules.LeaveRoom required) := by
  unfold LeaveRoom
  infer_instance

instance (rules : StringRules) (value : String) : Decidable (rules.CountsCharacters value) := by
  unfold CountsCharacters
  infer_instance

instance (required : Bool) (rules : StringRules) : Decidable (rules.LengthsFit required) := by
  unfold LengthsFit
  infer_instance

/-! ### Texts under the rules -/

private theorem length_le_octets (value : String) : value.length ≤ (octets value).length := by
  rw [← String.length_toList]
  exact length_le_length_encode value.toList

private theorem Accepts.length_le_mostLength (accepted : rules.Accepts value) :
    rules.mostLength = 0 ∨ value.length ≤ rules.mostLength.toNat := by
  obtain ⟨exact, _, most, _, mostBytes, _⟩ := accepted
  have start : rules.len.getD 0 = 0 ∨ value.length ≤ (rules.len.getD 0).toNat := by
    cases len : rules.len with
    | none => exact Or.inl rfl
    | some length => exact Or.inr (Nat.le_of_eq (exact length len))
  have characters :
      rules.maxLen.elim (rules.len.getD 0) (clampMax (rules.len.getD 0)) = 0 ∨
        value.length ≤
          (rules.maxLen.elim (rules.len.getD 0) (clampMax (rules.len.getD 0))).toNat := by
    cases maxLen : rules.maxLen with
    | none => exact start
    | some length => exact clampMax_bounds start (most length maxLen)
  rw [StringRules.mostLength]
  cases maxBytes : rules.maxBytes with
  | none => exact characters
  | some bytes =>
      exact clampMax_bounds characters
        (Nat.le_trans (length_le_octets value) (mostBytes bytes maxBytes))

private theorem Accepts.characters_le_length (accepted : rules.Accepts value) :
    max (rules.len.getD 0).toNat (rules.minLen.getD 0).toNat ≤ value.length := by
  obtain ⟨exact, least, _⟩ := accepted
  refine Nat.max_le.mpr ⟨?_, ?_⟩
  · cases len : rules.len with
    | none => exact Nat.zero_le _
    | some length => exact Nat.le_of_eq (exact length len).symm
  · cases minLen : rules.minLen with
    | none => exact Nat.zero_le _
    | some length => exact least length minLen

private theorem Accepts.least_iff (accepted : rules.Accepts value) :
    (0 < rules.leastLength → toInt rules.leastLength ≤ value.length) ↔
      rules.CountsCharacters value := by
  have characters := accepted.characters_le_length
  have whole := rules.toNat_leastLength
  constructor
  · intro admitted least bytes fits
    rw [bytes, Option.getD_some] at whole
    by_contra short
    -- the bound in octets is the greatest of the three
    have same : rules.leastLength.toNat = least.toNat := by omega
    have positive : 0 < rules.leastLength := by
      rw [UInt64.lt_iff_toNat_lt, same]
      exact Nat.lt_of_le_of_lt (Nat.zero_le _) (Nat.lt_of_not_le short)
    have bound := admitted positive
    rw [toInt_of_fits (same ▸ fits), same] at bound
    omega
  · intro counted _
    rcases Nat.lt_or_ge rules.leastLength.toNat (2 ^ 63) with fits | large
    · rw [toInt_of_fits fits]
      have bytes : (rules.minBytes.getD 0).toNat ≤ value.length := by
        cases minBytes : rules.minBytes with
        | none => exact Nat.zero_le _
        | some least =>
            rw [minBytes, Option.getD_some] at whole
            exact counted least minBytes (by omega)
      omega
    · have negative := toInt_neg large
      omega

private theorem mostLength_eq (rules : StringRules) :
    rules.mostLength = rules.upperBounds.foldl clampMax 0 := by
  have start : ∀ length, clampMax 0 length = length := by
    intro length
    unfold clampMax
    grind
  unfold mostLength upperBounds
  cases rules.len <;> cases rules.maxLen <;> cases rules.maxBytes <;>
    simp [start]

private theorem foldl_clampMax_eq_zero (bounds : List UInt64) (start : UInt64) :
    bounds.foldl clampMax start = 0 ↔ start = 0 ∧ ∀ bound ∈ bounds, bound = 0 := by
  induction bounds generalizing start with
  | nil => simp
  | cons bound rest ih =>
      rw [List.foldl_cons, ih, clampMax_eq_zero, List.forall_mem_cons, and_assoc]

private theorem foldl_clampMax_large (bounds : List UInt64) (start : UInt64) :
    (bounds.foldl clampMax start ≠ 0 → 2 ^ 63 ≤ (bounds.foldl clampMax start).toNat) ↔
      (start ≠ 0 → 2 ^ 63 ≤ start.toNat) ∧
        ∀ bound ∈ bounds, bound ≠ 0 → 2 ^ 63 ≤ bound.toNat := by
  induction bounds generalizing start with
  | nil => simp
  | cons bound rest ih =>
      rw [List.foldl_cons, ih, clampMax_large, List.forall_mem_cons, and_assoc]

private theorem overflows_iff : rules.Overflows ↔ 2 ^ 63 ≤ rules.mostLength.toNat := by
  have zero := foldl_clampMax_eq_zero rules.upperBounds 0
  have large := foldl_clampMax_large rules.upperBounds 0
  rw [Overflows, mostLength_eq]
  constructor
  · rintro ⟨⟨bound, member, set⟩, high⟩
    refine large.mpr ⟨fun unset => absurd rfl unset, high⟩ ?_
    exact fun none => set ((zero.mp none).2 bound member)
  · intro high
    refine ⟨?_, (large.mp fun _ => high).2⟩
    by_contra unset
    have none := zero.mpr
      ⟨rfl, fun bound member => not_not.mp fun set => unset ⟨bound, member, set⟩⟩
    rw [none] at high
    exact absurd high (by decide)

private theorem Accepts.most_iff (accepted : rules.Accepts value) :
    (0 < rules.mostLength → (value.length : Int) ≤ toInt rules.mostLength) ↔
      ¬ rules.Overflows := by
  rw [overflows_iff]
  constructor
  · intro admitted large
    have positive : 0 < rules.mostLength := by
      rw [UInt64.lt_iff_toNat_lt]
      exact Nat.lt_of_lt_of_le (by decide) large
    have bound := admitted positive
    have negative := toInt_neg large
    omega
  · intro fits positive
    rw [toInt_of_fits (Nat.lt_of_not_le fits)]
    rcases accepted.length_le_mostLength with zero | bound
    · rw [zero] at positive
      exact absurd positive (by decide)
    · exact_mod_cast bound

/-- Which accepted texts the keywords admit. -/
theorem Accepts.admits_iff (accepted : rules.Accepts value) :
    AdmitsString (stringKeywords [] rules) value ↔
      ¬ rules.Overflows ∧ rules.CountsCharacters value := by
  rw [← accepted.most_iff, ← accepted.least_iff]
  constructor
  · intro admitted
    refine ⟨fun positive => admitted.most _ ?_, fun positive => admitted.least _ ?_⟩
    · rw [keyword_maxLength, if_pos positive]
    · rw [keyword_minLength, if_pos positive]
  · rintro ⟨most, least⟩
    refine { least := fun length found => ?_, most := fun length found => ?_, listed := ?_ }
    · rw [keyword_minLength] at found
      obtain ⟨positive, same⟩ := Option.ite_none_right_eq_some.mp found
      rw [← intNode_injective (Option.some.inj same)]
      exact least positive
    · rw [keyword_maxLength] at found
      obtain ⟨positive, same⟩ := Option.ite_none_right_eq_some.mp found
      rw [← intNode_injective (Option.some.inj same)]
      exact most positive
    · intro items found
      rw [keyword_enum] at found
      obtain ⟨limited, same⟩ := Option.ite_none_right_eq_some.mp found
      have content := congrArg Node.content (Option.some.inj same)
      rw [← show (seqNode items).content = items from rfl, ← content]
      obtain ⟨_, _, _, _, _, within⟩ := accepted
      exact List.mem_map_of_mem (within limited)

private theorem Accepts.fewest_le_length (accepted : rules.Accepts value) :
    rules.fewest ≤ value.length := by
  have characters := accepted.characters_le_length
  have size : (octets value).length ≤ 4 * value.length := by
    rw [← String.length_toList]
    exact length_encode_le value.toList
  have bytes : (rules.minBytes.getD 0).toNat ≤ (octets value).length := by
    cases minBytes : rules.minBytes with
    | none => exact Nat.zero_le _
    | some least => exact accepted.2.2.2.1 least minBytes
  unfold fewest
  omega

private theorem Accepts.allows (accepted : rules.Accepts value) {count : Nat}
    (fewer : count ≤ value.length) : rules.Allows count :=
  ⟨fun length set => Nat.le_trans fewer (Nat.le_of_eq (accepted.1 length set)),
    fun most set => Nat.le_trans fewer (accepted.2.2.1 most set)⟩

/-- A text of any size that the rules leave room for. -/
theorem exists_accepts (free : rules.within = []) {count size : Nat} (some : count ≤ size)
    (wide : size ≤ 4 * count) (fewest : rules.fewest ≤ count) (allows : rules.Allows count)
    (least : ∀ bytes ∈ rules.minBytes, bytes.toNat ≤ size)
    (most : ∀ bytes ∈ rules.maxBytes, size ≤ bytes.toNat) :
    ∃ value, value.length = count ∧ rules.Accepts value := by
  obtain ⟨letters, counted, sized⟩ := exists_length_encode some wide
  have length : (String.ofList letters).length = count := by
    rw [String.length_ofList, counted]
  have bytes : (octets (String.ofList letters)).length = size := by
    rw [octets, String.toList_ofList, sized]
  unfold StringRules.fewest at fewest
  refine ⟨String.ofList letters, length, ?_, ?_, ?_, ?_, ?_, absurd free⟩
  · intro exactly set
    have upper := allows.1 exactly set
    rw [set, Option.getD_some] at fewest
    omega
  · intro lower set
    rw [set, Option.getD_some] at fewest
    omega
  · intro upper set
    rw [length]
    exact allows.2 upper set
  · intro lower set
    rw [bytes]
    exact least lower set
  · intro upper set
    rw [bytes]
    exact most upper set

private theorem undercounts_iff (free : rules.within = []) :
    rules.Undercounts ↔ ∃ value, rules.Accepts value ∧ ¬ rules.CountsCharacters value := by
  constructor
  · rintro ⟨least, set, fits, below, short, allows⟩
    have wide : least.toNat ≤ 4 * rules.fewest := by
      unfold fewest
      rw [set, Option.getD_some]
      omega
    obtain ⟨value, length, accepted⟩ := exists_accepts free (Nat.le_of_lt short) wide
      (Nat.le_refl _) allows
      (fun bytes same => Nat.le_of_eq (by rw [Option.some.inj (same.symm.trans set)])) below
    refine ⟨value, accepted, fun counted => ?_⟩
    have enough := counted least set fits
    omega
  · rintro ⟨value, accepted, short⟩
    simp only [CountsCharacters, not_forall, not_le] at short
    obtain ⟨least, set, fits, few⟩ := short
    have fewest := accepted.fewest_le_length
    refine ⟨least, set, fits, fun most bound => ?_, Nat.lt_of_le_of_lt fewest few,
      accepted.allows fewest⟩
    exact Nat.le_trans (accepted.2.2.2.1 least set) (accepted.2.2.2.2.1 most bound)

private theorem leaveRoom_iff (free : rules.within = []) (required : Bool) :
    rules.LeaveRoom required ↔
      ∃ value, rules.Accepts value ∧ (required = true → value ≠ "") := by
  constructor
  · rintro ⟨allows, bytes⟩
    have enough : (rules.minBytes.getD 0).toNat ≤ 4 * rules.fewest := by
      unfold fewest
      omega
    -- as few characters as can be, and no more octets than it takes
    obtain ⟨value, length, accepted⟩ := @exists_accepts rules free
      (max rules.fewest required.toNat)
      (max (max rules.fewest required.toNat) (rules.minBytes.getD 0).toNat)
      (Nat.le_max_left _ _) (by omega) (Nat.le_max_left _ _) allows
      (fun least set => by rw [set, Option.getD_some]; exact Nat.le_max_right _ _)
      (fun most set => by
        refine Nat.max_le.mpr ⟨(bytes most set).1, ?_⟩
        cases lower : rules.minBytes with
        | none => exact Nat.zero_le _
        | some least => exact (bytes most set).2 least lower)
    refine ⟨value, accepted, fun needed empty => ?_⟩
    rw [needed, empty, String.length_empty, Bool.toNat_true] at length
    omega
  · rintro ⟨value, accepted, nonempty⟩
    have count : max rules.fewest required.toNat ≤ value.length := by
      refine Nat.max_le.mpr ⟨accepted.fewest_le_length, ?_⟩
      cases required with
      | false => exact Nat.zero_le _
      | true => exact Nat.pos_of_ne_zero fun zero => nonempty rfl (String.length_eq_zero_iff.mp zero)
    refine ⟨accepted.allows count, fun most set => ⟨?_, fun least bound => ?_⟩⟩
    · exact Nat.le_trans count
        (Nat.le_trans (length_le_octets value) (accepted.2.2.2.2.1 most set))
    · exact Nat.le_trans (accepted.2.2.2.1 least bound) (accepted.2.2.2.2.1 most set)

private theorem lengthsFit_iff (rules : StringRules) (required : Bool) :
    rules.LengthsFit required ↔ ∀ value, rules.Accepts value → (required = true → value ≠ "") →
      ¬ rules.Overflows ∧ rules.CountsCharacters value := by
  unfold LengthsFit
  split
  · next free =>
      rw [undercounts_iff free, leaveRoom_iff free]
      constructor
      · rintro ⟨counted, fits⟩ value accepted nonempty
        exact ⟨fun overflows => fits ⟨overflows, value, accepted, nonempty⟩,
          not_not.mp fun short => counted ⟨value, accepted, short⟩⟩
      · intro fit
        refine ⟨?_, ?_⟩
        · rintro ⟨value, accepted, short⟩
          refine short (fit value accepted fun _ empty => ?_).2
          subst empty
          exact short fun least set fits =>
            Nat.le_trans (accepted.2.2.2.1 least set) (Nat.le_refl 0)
        · rintro ⟨overflows, value, accepted, nonempty⟩
          exact (fit value accepted nonempty).1 overflows
  · next listed =>
      constructor
      · intro fit value accepted
        exact fit value (accepted.2.2.2.2.2 listed) accepted
      · intro fit value _ accepted
        exact fit value accepted

private theorem Accepts.not_forced (accepted : rules.Accepts "") :
    stringForcesValue rules = false := by
  obtain ⟨exact, least, _, leastBytes, _, within⟩ := accepted
  have none_of_le : ∀ {bound : Option UInt64}, (∀ length ∈ bound, length.toNat ≤ 0) →
      decide (0 < bound.getD 0) = false := by
    intro bound zero
    rw [decide_eq_false_iff_not, UInt64.lt_iff_toNat_lt]
    cases bound with
    | none => exact Nat.lt_irrefl 0
    | some length => exact Nat.not_lt_of_le (zero length rfl)
  have len := none_of_le (fun length set => Nat.le_of_eq (exact length set).symm)
  have minLen := none_of_le least
  have minBytes := none_of_le leastBytes
  rw [stringForcesValue, len, minLen, minBytes, Bool.false_or, Bool.false_or, Bool.false_or]
  by_cases limited : rules.within = []
  · rw [decide_eq_false (not_not.mpr limited), Bool.false_and]
  · rw [List.contains_iff_mem.mpr (within limited), Bool.not_true, Bool.and_false]

end StringRules

/-! ### Bounds -/

def LowerBound.minimum : LowerBound Int32 → Int
  | .gt bound => bound.toInt + 1
  | .gte bound => bound.toInt

def UpperBound.maximum : UpperBound Int32 → Int
  | .lt bound => bound.toInt - 1
  | .lte bound => bound.toInt

private theorem LowerBound.admits_iff (lower : LowerBound Int32) (value : Int32) :
    lower.Admits value ↔ lower.minimum ≤ value.toInt := by
  cases lower with
  | gt bound => exact Int32.lt_iff_toInt_lt
  | gte bound => exact Int32.le_iff_toInt_le

private theorem UpperBound.admits_iff (upper : UpperBound Int32) (value : Int32) :
    upper.Admits value ↔ value.toInt ≤ upper.maximum := by
  cases upper with
  | lt bound => exact Int32.lt_iff_toInt_lt.trans Int.le_sub_one_iff.symm
  | lte bound => exact Int32.le_iff_toInt_le

private theorem LowerBound.bound_le_minimum (lower : LowerBound Int32) :
    lower.bound.toInt ≤ lower.minimum := by
  cases lower with
  | gt bound => exact Int.le_add_one (Int.le_refl _)
  | gte bound => exact Int.le_refl _

private theorem UpperBound.maximum_le_bound (upper : UpperBound Int32) :
    upper.maximum ≤ upper.bound.toInt := by
  cases upper with
  | lt bound => exact Int.sub_le_self _ (by decide)
  | lte bound => exact Int.le_refl _

private theorem LowerBound.admits_max {lower : LowerBound Int32}
    (other : lower ≠ .gt Int32.maxValue) :
    lower.Admits Int32.maxValue := by
  cases lower with
  | gt bound =>
      refine Int32.lt_of_le_of_ne bound.le_maxValue fun same => other ?_
      rw [same]
  | gte bound => exact bound.le_maxValue

private theorem LowerBound.not_admits_gt_max (value : Int32) :
    ¬ (LowerBound.gt Int32.maxValue).Admits value :=
  Int32.not_lt.mpr value.le_maxValue

private theorem UpperBound.admits_min {upper : UpperBound Int32}
    (other : upper ≠ .lt Int32.minValue) :
    upper.Admits Int32.minValue := by
  cases upper with
  | lt bound =>
      refine Int32.lt_of_le_of_ne bound.minValue_le fun same => other ?_
      rw [same]
  | lte bound => exact bound.minValue_le

private theorem UpperBound.not_admits_lt_min (value : Int32) :
    ¬ (UpperBound.lt Int32.minValue).Admits value :=
  Int32.not_lt.mpr value.minValue_le

private theorem LowerBound.forcesValue_eq_false {lower : LowerBound Int32}
    (admitted : lower.Admits 0) :
    lower.forcesValue = false := by
  cases lower with
  | gt bound => exact decide_eq_false (Int32.not_le.mpr admitted)
  | gte bound => exact decide_eq_false (Int32.not_lt.mpr admitted)

private theorem keyword_int32Keywords (rules : NumberRules Int32) (name : String) :
    keyword (int32Keywords [] rules) name =
      (rules.lower.bind (fun lower =>
          if "minimum" = name then some (intNode lower.minimum) else none)).or
        (rules.upper.bind (fun upper =>
          if "maximum" = name then some (intNode upper.maximum) else none)) := by
  obtain ⟨lower, upper⟩ := rules
  have single := fun value => keyword_kv Entries.Paired.nil "minimum" name value
  have both := fun value other =>
    keyword_kv (paired_kv Entries.Paired.nil "minimum" value) "maximum" name other
  have alone := fun value => keyword_kv Entries.Paired.nil "maximum" name value
  rcases lower with _ | lower | lower <;> rcases upper with _ | upper | upper
  · rfl
  · exact alone _
  · exact alone _
  · exact (single _).trans (Option.or_none).symm
  · exact (both _ _).trans (congrArg (Option.or · _) (single _))
  · exact (both _ _).trans (congrArg (Option.or · _) (single _))
  · exact (single _).trans (Option.or_none).symm
  · exact (both _ _).trans (congrArg (Option.or · _) (single _))
  · exact (both _ _).trans (congrArg (Option.or · _) (single _))

private theorem keyword_minimum (rules : NumberRules Int32) :
    keyword (int32Keywords [] rules) "minimum" =
      rules.lower.map (fun lower => intNode lower.minimum) := by
  rw [keyword_int32Keywords]
  cases rules.lower <;> cases rules.upper <;> simp

private theorem keyword_maximum (rules : NumberRules Int32) :
    keyword (int32Keywords [] rules) "maximum" =
      rules.upper.map (fun upper => intNode upper.maximum) := by
  rw [keyword_int32Keywords]
  cases rules.lower <;> cases rules.upper <;> simp

namespace NumberRules

variable {rules : NumberRules Int32} {value : Int32}

private theorem Accepts.lower (accepted : rules.Accepts value) (inside : ¬ rules.Crossed)
    {lower : LowerBound Int32} (set : rules.lower = some lower) : lower.Admits value := by
  rw [NumberRules.Accepts, set] at accepted
  cases bound : rules.upper with
  | none =>
      rw [bound] at accepted
      exact accepted
  | some upper =>
      rw [bound] at accepted
      dsimp only at accepted
      rw [if_neg (fun below => inside ⟨lower, set, upper, bound, below⟩)] at accepted
      exact accepted.1

private theorem Accepts.upper (accepted : rules.Accepts value) (inside : ¬ rules.Crossed)
    {upper : UpperBound Int32} (set : rules.upper = some upper) : upper.Admits value := by
  rw [NumberRules.Accepts, set] at accepted
  cases bound : rules.lower with
  | none =>
      rw [bound] at accepted
      exact accepted
  | some lower =>
      rw [bound] at accepted
      dsimp only at accepted
      rw [if_neg (fun below => inside ⟨lower, bound, upper, set, below⟩)] at accepted
      exact accepted.2

private theorem Accepts.admits (accepted : rules.Accepts value) (inside : ¬ rules.Crossed) :
    AdmitsInt32 (int32Keywords [] rules) value := by
  refine { least := fun bound found => ?_, most := fun bound found => ?_ }
  · rw [keyword_minimum] at found
    obtain ⟨lower, set, same⟩ := Option.map_eq_some_iff.mp found
    rw [← intNode_injective same]
    exact (lower.admits_iff value).mp (accepted.lower inside set)
  · rw [keyword_maximum] at found
    obtain ⟨upper, set, same⟩ := Option.map_eq_some_iff.mp found
    rw [← intNode_injective same]
    exact (upper.admits_iff value).mp (accepted.upper inside set)

/-- Bounds that cross leave something outside, unless there is nothing above the greatest
number and nothing below the least. -/
def BoundsFit (rules : NumberRules Int32) : Prop :=
  rules.Crossed →
    rules.lower = some (.gt Int32.maxValue) ∧ rules.upper = some (.lt Int32.minValue)

private theorem Crossed.accepts_iff (crossed : rules.Crossed) :
    rules.Accepts value ↔ (∃ lower ∈ rules.lower, lower.Admits value) ∨
      ∃ upper ∈ rules.upper, upper.Admits value := by
  obtain ⟨lower, lowerSet, upper, upperSet, below⟩ := crossed
  rw [NumberRules.Accepts, lowerSet, upperSet]
  dsimp only
  rw [if_pos below]
  simp

private theorem boundsFit_iff (rules : NumberRules Int32) (required : Bool) :
    rules.BoundsFit ↔ (rules.Crossed → ∀ value, rules.Accepts value →
      ¬ (required = true → value ≠ 0)) := by
  constructor
  · intro fit crossed value accepted
    obtain ⟨low, high⟩ := fit crossed
    rw [crossed.accepts_iff, low, high] at accepted
    rcases accepted with ⟨_, ⟨⟩, above⟩ | ⟨_, ⟨⟩, below⟩
    · exact absurd above (LowerBound.not_admits_gt_max value)
    · exact absurd below (UpperBound.not_admits_lt_min value)
  · intro none crossed
    have unmet : ∀ value : Int32, value ≠ 0 → ¬ rules.Accepts value :=
      fun value nonzero accepted => none crossed value accepted fun _ => nonzero
    obtain ⟨lower, lowerSet, upper, upperSet, _⟩ := id crossed
    refine ⟨?_, ?_⟩
    · by_contra other
      refine unmet Int32.maxValue (by decide) (crossed.accepts_iff.mpr (Or.inl ⟨lower, lowerSet, ?_⟩))
      exact lower.admits_max fun same => other (lowerSet.trans (congrArg some same))
    · by_contra other
      refine unmet Int32.minValue (by decide) (crossed.accepts_iff.mpr (Or.inr ⟨upper, upperSet, ?_⟩))
      exact upper.admits_min fun same => other (upperSet.trans (congrArg some same))

/-- Crossed bounds are published as bounds that no number meets. -/
theorem Crossed.not_admits (crossed : rules.Crossed) (value : Int32) :
    ¬ AdmitsInt32 (int32Keywords [] rules) value := by
  intro admitted
  obtain ⟨lower, lowerSet, upper, upperSet, below⟩ := crossed
  have least := admitted.least lower.minimum (by rw [keyword_minimum, lowerSet]; rfl)
  have most := admitted.most upper.maximum (by rw [keyword_maximum, upperSet]; rfl)
  have below := Int32.lt_iff_toInt_lt.mp below
  have low := lower.bound_le_minimum
  have high := upper.maximum_le_bound
  omega

end NumberRules

/-! ### Fields -/

namespace FieldDescriptor

variable {field : FieldDescriptor}

def LengthsFit (field : FieldDescriptor) : Prop :=
  ∀ rules ∈ field.rules, ∀ string, rules.type = .value (.string string) →
    string.LengthsFit rules.required

def BoundsFit (field : FieldDescriptor) : Prop :=
  ∀ rules ∈ field.rules, ∀ number, rules.type = .value (.int32 number) → number.BoundsFit

private theorem string_cases (single : field.cardinality = .singular)
    (kind : field.kind = .string) :
    ((∀ rules ∈ field.rules, ∀ string, rules.type ≠ .value (.string string)) ∧
        (schemaPatch field).pairs = [] ∧
        (schemaPatch field).required = field.rules.any FieldRules.required) ∨
      ∃ rules string, field.rules = some rules ∧ rules.type = .value (.string string) ∧
        (schemaPatch field).pairs = stringKeywords [] string ∧
        (schemaPatch field).required = (rules.required || stringForcesValue string) := by
  obtain ⟨name, jsonName, _, _, rules⟩ := field
  subst single kind
  rcases rules with _ | ⟨required, type⟩
  · exact Or.inl ⟨fun _ unset => absurd unset (by simp), rfl, rfl⟩
  · rcases type with (_ | string) | _ | _
    case value.string => exact Or.inr ⟨_, string, rfl, rfl, rfl, rfl⟩
    all_goals
      refine Or.inl ⟨fun rules set string same => ?_, rfl, Bool.or_false required⟩
      cases set
      cases same

private theorem int32_cases (single : field.cardinality = .singular) (kind : field.kind = .int32) :
    ((∀ rules ∈ field.rules, ∀ number, rules.type ≠ .value (.int32 number)) ∧
        (schemaPatch field).pairs = [] ∧
        (schemaPatch field).required = field.rules.any FieldRules.required) ∨
      ∃ rules number, field.rules = some rules ∧ rules.type = .value (.int32 number) ∧
        (schemaPatch field).pairs = int32Keywords [] number ∧
        (schemaPatch field).required =
          (rules.required || number.lower.any LowerBound.forcesValue) := by
  obtain ⟨name, jsonName, _, _, rules⟩ := field
  subst single kind
  rcases rules with _ | ⟨required, type⟩
  · exact Or.inl ⟨fun _ unset => absurd unset (by simp), rfl, rfl⟩
  · rcases type with (_ | _ | number) | _ | _
    case value.int32 => exact Or.inr ⟨_, number, rfl, rfl, rfl, rfl⟩
    all_goals
      refine Or.inl ⟨fun rules set string same => ?_, rfl, Bool.or_false required⟩
      cases set
      cases same

private theorem acceptsString_iff {rules : FieldRules} {string : StringRules}
    (set : field.rules = some rules) (type : rules.type = .value (.string string))
    (value : String) :
    field.AcceptsString value ↔ (rules.required = true → value ≠ "") ∧ string.Accepts value := by
  constructor
  · intro accepted
    exact ⟨(accepted rules set).1, (accepted rules set).2 string type⟩
  · rintro ⟨nonempty, meets⟩ other same
    cases set.symm.trans same
    refine ⟨nonempty, fun text alike => ?_⟩
    cases type.symm.trans alike
    exact meets

private theorem acceptsInt32_iff {rules : FieldRules} {number : NumberRules Int32}
    (set : field.rules = some rules) (type : rules.type = .value (.int32 number))
    (value : Int32) :
    field.AcceptsInt32 value ↔ (rules.required = true → value ≠ 0) ∧ number.Accepts value := by
  constructor
  · intro accepted
    exact ⟨(accepted rules set).1, (accepted rules set).2 number type⟩
  · rintro ⟨nonzero, meets⟩ other same
    cases set.symm.trans same
    refine ⟨nonzero, fun another alike => ?_⟩
    cases type.symm.trans alike
    exact meets

private theorem any_required_eq_false {rules : Option FieldRules}
    (zero : ∀ rule ∈ rules, rule.required = true → False) :
    rules.any FieldRules.required = false := by
  cases rules with
  | none => rfl
  | some rule => exact Bool.eq_false_of_not_eq_true (zero rule rfl)

private theorem publishesStrings_iff (single : field.cardinality = .singular)
    (kind : field.kind = .string) : field.PublishesStrings ↔ field.LengthsFit := by
  rcases string_cases single kind with
    ⟨none, pairs, required⟩ | ⟨rules, string, set, type, pairs, required⟩
  · refine iff_of_true ⟨fun value _ => ?_, fun accepted => ?_⟩
      (fun rules set string type => absurd type (none rules set string))
    · rw [pairs]
      exact ⟨nofun, nofun, nofun⟩
    · rw [required]
      exact any_required_eq_false (fun rules set needed => (accepted rules set).1 needed rfl)
  · constructor
    · intro published other otherSet text otherType
      cases set.symm.trans otherSet
      cases type.symm.trans otherType
      refine (string.lengthsFit_iff rules.required).mpr fun value meets nonempty => ?_
      have admitted := published.admits value
        ((acceptsString_iff set type value).mpr ⟨nonempty, meets⟩)
      rw [pairs] at admitted
      exact meets.admits_iff.mp admitted
    · intro fit
      have fits := (string.lengthsFit_iff rules.required).mp (fit rules set string type)
      refine ⟨fun value accepted => ?_, fun accepted => ?_⟩
      · obtain ⟨nonempty, meets⟩ := (acceptsString_iff set type value).mp accepted
        rw [pairs]
        exact meets.admits_iff.mpr (fits value meets nonempty)
      · obtain ⟨needed, empty⟩ := accepted rules set
        rw [required, (empty string type).not_forced, Bool.or_false]
        exact Bool.eq_false_of_not_eq_true (fun forced => needed forced rfl)

private theorem publishesNumbers_iff (single : field.cardinality = .singular)
    (kind : field.kind = .int32) : field.PublishesNumbers ↔ field.BoundsFit := by
  rcases int32_cases single kind with
    ⟨none, pairs, required⟩ | ⟨rules, number, set, type, pairs, required⟩
  · refine iff_of_true ⟨fun value _ => ?_, fun accepted => ?_⟩
      (fun rules set number type => absurd type (none rules set number))
    · rw [pairs]
      exact ⟨nofun, nofun⟩
    · rw [required]
      exact any_required_eq_false (fun rules set needed => (accepted rules set).1 needed rfl)
  · constructor
    · intro published other otherSet another otherType
      cases set.symm.trans otherSet
      cases type.symm.trans otherType
      refine (number.boundsFit_iff rules.required).mpr fun crossed value meets nonzero => ?_
      have admitted := published.admits value
        ((acceptsInt32_iff set type value).mpr ⟨nonzero, meets⟩)
      rw [pairs] at admitted
      exact crossed.not_admits value admitted
    · intro fit
      have fits := (number.boundsFit_iff rules.required).mp (fit rules set number type)
      have inside : ∀ value, field.AcceptsInt32 value → ¬ number.Crossed := by
        intro value accepted crossed
        obtain ⟨nonzero, meets⟩ := (acceptsInt32_iff set type value).mp accepted
        exact fits crossed value meets nonzero
      refine ⟨fun value accepted => ?_, fun accepted => ?_⟩
      · rw [pairs]
        exact ((accepted rules set).2 number type).admits (inside value accepted)
      · obtain ⟨needed, zero⟩ := accepted rules set
        have optional : number.lower.any LowerBound.forcesValue = false := by
          cases lower : number.lower with
          | none => rfl
          | some bound =>
              exact LowerBound.forcesValue_eq_false
                ((zero number type).lower (inside 0 accepted) lower)
        rw [required, optional, Bool.or_false]
        exact Bool.eq_false_of_not_eq_true (fun forced => needed forced rfl)

end FieldDescriptor

/-- The schema of a field forbids nothing that its rules accept exactly when lengths and
bounds mean the same in both. -/
theorem schemaPatch_publishes_iff (field : FieldDescriptor)
    (single : field.cardinality = .singular) :
    (field.kind = .string → (field.PublishesStrings ↔ field.LengthsFit)) ∧
      (field.kind = .int32 → (field.PublishesNumbers ↔ field.BoundsFit)) :=
  ⟨FieldDescriptor.publishesStrings_iff single, FieldDescriptor.publishesNumbers_iff single⟩

def ruledField (kind : Kind) (rules : ValueRules) : FieldDescriptor :=
  { name := octets "field"
    jsonName := octets "field"
    kind := kind
    cardinality := .singular
    rules := some { type := .value rules } }

theorem schemaPatch_publishes_plain :
    (ruledField .string (.string { minLen := some 1, maxLen := some 20 })).PublishesStrings ∧
      (ruledField .string
        (.string { minBytes := some 2, within := ["ab", "tea"] })).PublishesStrings ∧
      (ruledField .int32 (.int32 { lower := some (.gt 0) })).PublishesNumbers := by
  refine ⟨?_, ?_, ?_⟩
  · refine ((schemaPatch_publishes_iff _ rfl).1 rfl).mpr ?_
    rintro rules ⟨⟩ string ⟨⟩
    decide +kernel
  · refine ((schemaPatch_publishes_iff _ rfl).1 rfl).mpr ?_
    rintro rules ⟨⟩ string ⟨⟩
    decide +kernel
  · refine ((schemaPatch_publishes_iff _ rfl).2 rfl).mpr ?_
    rintro rules ⟨⟩ number ⟨⟩ ⟨lower, _, upper, unset, _⟩
    cases unset

def outsideRules : NumberRules Int32 :=
  { lower := some (.gt 10)
    upper := some (.lt 5) }

def overlongRules : StringRules :=
  { maxLen := some (UInt64.ofNat (2 ^ 63)) }

private theorem pairs_ruledField (rules : StringRules) :
    (schemaPatch (ruledField .string (.string rules))).pairs = stringKeywords [] rules :=
  rfl

/-- Where the rules mean what is above 10 or below 5, 3 is accepted and forbidden, and 0 is
accepted and required.  Under an upper bound that is no signed number, a text is accepted
and forbidden. -/
theorem schemaPatch_forbids_accepted :
    ((ruledField .int32 (.int32 outsideRules)).AcceptsInt32 3 ∧
        ¬ AdmitsInt32 (schemaPatch (ruledField .int32 (.int32 outsideRules))).pairs 3) ∧
      ((ruledField .int32 (.int32 outsideRules)).AcceptsInt32 0 ∧
        (schemaPatch (ruledField .int32 (.int32 outsideRules))).required = true) ∧
      (ruledField .string (.string overlongRules)).AcceptsString "tea" ∧
        ¬ AdmitsString (schemaPatch (ruledField .string (.string overlongRules))).pairs "tea" := by
  have crossed : outsideRules.Crossed := ⟨_, rfl, _, rfl, show (5 : Int32) < 10 by decide⟩
  have accepted : overlongRules.Accepts "tea" := by decide +kernel
  have overflows : overlongRules.Overflows := by decide +kernel
  refine ⟨⟨?_, crossed.not_admits 3⟩, ⟨?_, rfl⟩, ?_, ?_⟩
  · refine (FieldDescriptor.acceptsInt32_iff rfl rfl 3).mpr ⟨nofun, ?_⟩
    exact Or.inr (show (3 : Int32) < 5 by decide)
  · refine (FieldDescriptor.acceptsInt32_iff rfl rfl 0).mpr ⟨nofun, ?_⟩
    exact Or.inr (show (0 : Int32) < 5 by decide)
  · exact (FieldDescriptor.acceptsString_iff rfl rfl "tea").mpr ⟨nofun, accepted⟩
  · intro admitted
    rw [pairs_ruledField] at admitted
    exact (accepted.admits_iff.mp admitted).1 overflows

end Mall.OpenApi
