/-
The tree of an OpenAPI document, and the helpers that edit it.

A node is a `yaml.Node` without the pointer of an alias.  The helpers change nodes in
place; here they return the changed node, and a change below a key is put back under
that key.
-/

import Mall.Foundation.Decimal
import Mall.Foundation.Entries
import Mall.Foundation.Utf8

namespace Mall.OpenApi

open Utf8

def octets (text : String) : Octets :=
  encode text.toList

theorem octets_injective {left right : String} (same : octets left = octets right) :
    left = right :=
  String.toList_inj.mp (encode_injective same)

inductive NodeKind where
  | document
  | sequence
  | mapping
  | scalar
  | alias
deriving DecidableEq

/-- The style is a set of bits. -/
structure Node where
  kind : NodeKind
  tag : Octets := []
  value : Octets := []
  style : Nat := 0
  anchor : Octets := []
  headComment : Octets := []
  lineComment : Octets := []
  footComment : Octets := []
  line : Int := 0
  column : Int := 0
  content : List Node := []

def literalStyle : Nat := 8

/-! ### New nodes -/

def mapNode (pairs : List Node) : Node :=
  { kind := .mapping
    tag := octets "!!map"
    content := pairs }

def seqNode (items : List Node) : Node :=
  { kind := .sequence
    tag := octets "!!seq"
    content := items }

def strNode (value : Octets) : Node :=
  { kind := .scalar
    tag := octets "!!str"
    value := value
    style := if 10 ∈ value then literalStyle else 0 }

def keyNode (value : Octets) : Node :=
  { kind := .scalar
    tag := octets "!!str"
    value := value }

@[simp] theorem keyNode_value (value : Octets) : (keyNode value).value = value := rfl

def itoa (value : Int) : Octets :=
  encode (Decimal.digits value)

def intNode (value : Int) : Node :=
  { kind := .scalar
    tag := octets "!!int"
    value := itoa value }

def boolNode (value : Bool) : Node :=
  { kind := .scalar
    tag := octets "!!bool"
    value := octets (if value then "true" else "false") }

private theorem itoa_injective {left right : Int} (same : itoa left = itoa right) : left = right :=
  Decimal.digits_injective (encode_injective same)

theorem intNode_injective {left right : Int} (same : intNode left = intNode right) :
    left = right :=
  itoa_injective (congrArg Node.value same)

/-! ### Editing -/

def get (node : Node) (key : Octets) : Option Node :=
  if node.kind = .mapping then Entries.find? Node.value key node.content else none

/-- Replace a key in place, whatever kind the node is of, or append it. -/
def set (node : Node) (key : Octets) (value : Node) : Node :=
  { node with content := Entries.put Node.value key (keyNode key) value node.content }

def prepend (node : Node) (key : Octets) (value : Node) : Node :=
  { node with content := keyNode key :: value :: node.content }

def insertAfter (node : Node) (anchor key : Octets) (value : Node) : Node :=
  { node with
    content := Entries.insertAfter Node.value anchor (keyNode key) value node.content }

def setAfter (node : Node) (anchor key : Octets) (value : Node) : Node :=
  if (get node key).isSome then set node key value else insertAfter node anchor key value

def setFirst (node : Node) (key : Octets) (value : Node) : Node :=
  if (get node key).isSome then set node key value else prepend node key value

/-- Go strings are ordered by their octets. -/
def sortKeys (node : Node) : Node :=
  { node with content := Entries.arrange (fun entry => entry.1.value) node.content }

end Mall.OpenApi
