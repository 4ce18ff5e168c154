/-
Field rules of the protos as keywords of the published schema.

The getters of a rule that is not set return its zero value, and a rule is set or not on
its own; the two lower bounds of a number exclude each other, and so do the two upper
bounds.  What the rules accept is what the validator documents.
-/

import Mall.Money
import Mall.OpenApi.Document

namespace Mall.OpenApi

open Utf8

/-! ### Rules -/

structure StringRules where
  len : Option UInt64 := none
  minLen : Option UInt64 := none
  maxLen : Option UInt64 := none
  minBytes : Option UInt64 := none
  maxBytes : Option UInt64 := none
  within : List String := []

inductive LowerBound (α : Type) where
  | gt (bound : α)
  | gte (bound : α)

inductive UpperBound (α : Type) where
  | lt (bound : α)
  | lte (bound : α)

structure NumberRules (α : Type) where
  lower : Option (LowerBound α) := none
  upper : Option (UpperBound α) := none

/-- The rules of one value; a field has rules of one type at most. -/
inductive ValueRules where
  | unset
  | string (rules : StringRules)
  | int32 (rules : NumberRules Int32)
  | int64 (rules : NumberRules Int64)
  | uint32 (rules : NumberRules UInt32)
  | uint64 (rules : NumberRules UInt64)
  | bool (const : Option Bool)

structure RepeatedRules where
  minItems : Option UInt64 := none
  maxItems : Option UInt64 := none
  unique : Bool := false
  items : Option ValueRules := none

inductive RuleType where
  | value (rules : ValueRules)
  | repeated (rules : RepeatedRules)
  | map (values : Option ValueRules)

structure FieldRules where
  required : Bool := false
  type : RuleType := .value .unset

inductive Kind where
  | bool
  | enum
  | int32
  | sint32
  | uint32
  | int64
  | sint64
  | uint64
  | sfixed32
  | fixed32
  | float
  | sfixed64
  | fixed64
  | double
  | string
  | bytes
  | message
  | group
deriving DecidableEq

inductive Cardinality where
  | singular
  | list
  | map
deriving DecidableEq

structure FieldDescriptor where
  name : Octets
  jsonName : Octets
  kind : Kind
  cardinality : Cardinality
  rules : Option FieldRules

/-! ### Keywords -/

def kv (pairs : List Node) (key : String) (value : Node) : List Node :=
  pairs ++ [keyNode (octets key), value]

def maxUint64 (left right : UInt64) : UInt64 :=
  if left < right then right else left

def clampMax (current candidate : UInt64) : UInt64 :=
  if candidate = 0 then current
  else if current = 0 ∨ candidate < current then candidate
  else current

/-- The conversion `int(n)` of an unsigned number. -/
def toInt (number : UInt64) : Int :=
  wrap64 number.toNat

def StringRules.leastLength (rules : StringRules) : UInt64 :=
  let length := rules.len.getD 0
  let length := rules.minLen.elim length (maxUint64 length)
  rules.minBytes.elim length (maxUint64 length)

def StringRules.mostLength (rules : StringRules) : UInt64 :=
  let length := rules.len.getD 0
  let length := rules.maxLen.elim length (clampMax length)
  rules.maxBytes.elim length (clampMax length)

def stringKeywords (pairs : List Node) (rules : StringRules) : List Node :=
  let pairs :=
    if 0 < rules.leastLength then kv pairs "minLength" (intNode (toInt rules.leastLength))
    else pairs
  let pairs :=
    if 0 < rules.mostLength then kv pairs "maxLength" (intNode (toInt rules.mostLength))
    else pairs
  if rules.within = [] then pairs
  else kv pairs "enum" (seqNode (rules.within.map (fun value => strNode (octets value))))

/-- Integers have no exclusive bound in the schema. -/
def int32Keywords (pairs : List Node) (rules : NumberRules Int32) : List Node :=
  let pairs :=
    match rules.lower with
    | some (.gte bound) => kv pairs "minimum" (intNode bound.toInt)
    | some (.gt bound) => kv pairs "minimum" (intNode (bound.toInt + 1))
    | none => pairs
  match rules.upper with
  | some (.lte bound) => kv pairs "maximum" (intNode bound.toInt)
  | some (.lt bound) => kv pairs "maximum" (intNode (bound.toInt - 1))
  | none => pairs

def int64Keywords (pairs : List Node) (rules : NumberRules Int64) : List Node :=
  let pairs :=
    match rules.lower with
    | some (.gte bound) => kv pairs "x-minimum" (intNode bound.toInt)
    | some (.gt bound) => kv pairs "x-exclusiveMinimum" (intNode bound.toInt)
    | none => pairs
  match rules.upper with
  | some (.lte bound) => kv pairs "x-maximum" (intNode bound.toInt)
  | some (.lt bound) => kv pairs "x-exclusiveMaximum" (intNode bound.toInt)
  | none => pairs

def elementKeywords (kind : Kind) (rules : Option ValueRules) : List Node :=
  let pairs :=
    match kind with
    | .int64 | .sint64 | .sfixed64 => kv [] "format" (strNode (octets "int64"))
    | .uint64 | .fixed64 => kv [] "format" (strNode (octets "uint64"))
    | _ => []
  match kind, rules with
  | .string, some (.string rules) => stringKeywords pairs rules
  | .int32, some (.int32 rules) => int32Keywords pairs rules
  | .sint32, some (.int32 rules) => int32Keywords pairs rules
  | .sfixed32, some (.int32 rules) => int32Keywords pairs rules
  | .int64, some (.int64 rules) => int64Keywords pairs rules
  | .sint64, some (.int64 rules) => int64Keywords pairs rules
  | .sfixed64, some (.int64 rules) => int64Keywords pairs rules
  | _, _ => pairs

def repeatedKeywords (rules : RepeatedRules) : List Node :=
  let pairs := rules.minItems.elim [] (fun items => kv [] "minItems" (intNode (toInt items)))
  let pairs := rules.maxItems.elim pairs (fun items => kv pairs "maxItems" (intNode (toInt items)))
  if rules.unique then kv pairs "uniqueItems" (boolNode true) else pairs

/-! ### Required fields -/

def stringForcesValue (rules : StringRules) : Bool :=
  decide (0 < rules.len.getD 0) || decide (0 < rules.minLen.getD 0) ||
    decide (0 < rules.minBytes.getD 0) ||
    (decide (rules.within ≠ []) && !rules.within.contains "")

def LowerBound.forcesValue {α : Type} [LT α] [LE α] [OfNat α 0] [DecidableLT α] [DecidableLE α] :
    LowerBound α → Bool
  | .gt bound => decide ((0 : α) ≤ bound)
  | .gte bound => decide ((0 : α) < bound)

def ValueRules.forcesValue (kind : Kind) (rules : ValueRules) : Bool :=
  match kind, rules with
  | .string, .string rules => stringForcesValue rules
  | .int32, .int32 rules => rules.lower.any LowerBound.forcesValue
  | .sint32, .int32 rules => rules.lower.any LowerBound.forcesValue
  | .sfixed32, .int32 rules => rules.lower.any LowerBound.forcesValue
  | .int64, .int64 rules => rules.lower.any LowerBound.forcesValue
  | .sint64, .int64 rules => rules.lower.any LowerBound.forcesValue
  | .sfixed64, .int64 rules => rules.lower.any LowerBound.forcesValue
  | .uint32, .uint32 rules => rules.lower.any LowerBound.forcesValue
  | .fixed32, .uint32 rules => rules.lower.any LowerBound.forcesValue
  | .uint64, .uint64 rules => rules.lower.any LowerBound.forcesValue
  | .fixed64, .uint64 rules => rules.lower.any LowerBound.forcesValue
  | .bool, .bool const => const == some true
  | _, _ => false

/-- The item rules of a list cannot make the list itself mandatory. -/
def ruleForcesValue (field : FieldDescriptor) : Bool :=
  match field.rules with
  | none => false
  | some rules =>
      rules.required ||
        match field.cardinality, rules.type with
        | .list, .repeated rules => decide (0 < rules.minItems.getD 0)
        | .singular, .value rules => rules.forcesValue field.kind
        | _, _ => false

/-! ### Patches -/

/-- The keywords of a property and of its elements, as keys and values in turn. -/
structure SchemaPatch where
  field : Octets
  required : Bool
  pairs : List Node := []
  elements : List Node := []

def SchemaPatch.empty (patch : SchemaPatch) : Bool :=
  !patch.required && patch.pairs.isEmpty && patch.elements.isEmpty

def elementRules (field : FieldDescriptor) : Option ValueRules :=
  match field.rules with
  | none => none
  | some rules =>
      match field.cardinality, rules.type with
      | .list, .repeated rules => rules.items
      | .map, .map values => values
      | .singular, .value rules => some rules
      | _, _ => none

def FieldDescriptor.repeatedRules (field : FieldDescriptor) : Option RepeatedRules :=
  match field.rules with
  | some rules =>
      match rules.type with
      | .repeated rules => some rules
      | _ => none
  | none => none

def schemaPatch (field : FieldDescriptor) : SchemaPatch :=
  let element := elementKeywords field.kind (elementRules field)
  match field.cardinality with
  | .list =>
      { field := field.jsonName
        required := ruleForcesValue field
        pairs := field.repeatedRules.elim [] repeatedKeywords
        elements := element }
  | .map =>
      { field := field.jsonName
        required := ruleForcesValue field
        elements := element }
  | .singular =>
      { field := field.jsonName
        required := ruleForcesValue field
        pairs := element }

/-- A message; the compiler rejects two fields with one name in JSON. -/
structure MessageDescriptor where
  fullName : Octets
  fields : List FieldDescriptor
  distinct : (fields.map FieldDescriptor.jsonName).Nodup

def schemaPatchesFor (message : MessageDescriptor) : List SchemaPatch :=
  (message.fields.map schemaPatch).filter (fun patch => !patch.empty)

/-! ### What the rules accept -/

def StringRules.Accepts (rules : StringRules) (value : String) : Prop :=
  (∀ length ∈ rules.len, value.length = length.toNat) ∧
    (∀ least ∈ rules.minLen, least.toNat ≤ value.length) ∧
    (∀ most ∈ rules.maxLen, value.length ≤ most.toNat) ∧
    (∀ least ∈ rules.minBytes, least.toNat ≤ (octets value).length) ∧
    (∀ most ∈ rules.maxBytes, (octets value).length ≤ most.toNat) ∧
    (rules.within ≠ [] → value ∈ rules.within)

def LowerBound.bound {α : Type} : LowerBound α → α
  | .gt bound => bound
  | .gte bound => bound

def UpperBound.bound {α : Type} : UpperBound α → α
  | .lt bound => bound
  | .lte bound => bound

def LowerBound.Admits : LowerBound Int32 → Int32 → Prop
  | .gt bound, value => bound < value
  | .gte bound, value => bound ≤ value

def UpperBound.Admits : UpperBound Int32 → Int32 → Prop
  | .lt bound, value => value < bound
  | .lte bound, value => value ≤ bound

/-- The upper bound is below the lower one: the rules mean what is outside. -/
def NumberRules.Crossed (rules : NumberRules Int32) : Prop :=
  ∃ lower ∈ rules.lower, ∃ upper ∈ rules.upper, upper.bound < lower.bound

def NumberRules.Accepts (rules : NumberRules Int32) (value : Int32) : Prop :=
  match rules.lower, rules.upper with
  | some lower, some upper =>
      if upper.bound < lower.bound then lower.Admits value ∨ upper.Admits value
      else lower.Admits value ∧ upper.Admits value
  | some lower, none => lower.Admits value
  | none, some upper => upper.Admits value
  | none, none => True

/-- A field that is required and does not record its presence has no zero value. -/
def FieldDescriptor.AcceptsString (field : FieldDescriptor) (value : String) : Prop :=
  ∀ rules ∈ field.rules, (rules.required = true → value ≠ "") ∧
    ∀ string, rules.type = .value (.string string) → string.Accepts value

def FieldDescriptor.AcceptsInt32 (field : FieldDescriptor) (value : Int32) : Prop :=
  ∀ rules ∈ field.rules, (rules.required = true → value ≠ 0) ∧
    ∀ number, rules.type = .value (.int32 number) → number.Accepts value

/-! ### What the schema admits -/

def keyword (pairs : List Node) (key : String) : Option Node :=
  Entries.find? Node.value (octets key) pairs

/-- Lengths are counted in characters. -/
structure AdmitsString (pairs : List Node) (value : String) : Prop where
  least : ∀ length, keyword pairs "minLength" = some (intNode length) → length ≤ value.length
  most : ∀ length, keyword pairs "maxLength" = some (intNode length) → (value.length : Int) ≤ length
  listed : ∀ items, keyword pairs "enum" = some (seqNode items) → strNode (octets value) ∈ items

structure AdmitsInt32 (pairs : List Node) (value : Int32) : Prop where
  least : ∀ bound, keyword pairs "minimum" = some (intNode bound) → bound ≤ value.toInt
  most : ∀ bound, keyword pairs "maximum" = some (intNode bound) → value.toInt ≤ bound

end Mall.OpenApi
