/-
A mapping of the document under any sequence of edits.
-/

import Mall.Foundation.Execution
import Mall.OpenApi.Document

namespace Mall.OpenApi

open Utf8 Transactional

inductive Edit where
  | set (key : Octets) (value : Node)
  | setAfter (anchor key : Octets) (value : Node)
  | setFirst (key : Octets) (value : Node)
  | sortKeys

def Edit.apply : Edit → Node → Node
  | .set key value, node => OpenApi.set node key value
  | .setAfter anchor key value, node => OpenApi.setAfter node anchor key value
  | .setFirst key value, node => OpenApi.setFirst node key value
  | .sortKeys, node => OpenApi.sortKeys node

/-- What an edit means for the values under the keys. -/
def Edit.assign : Edit → (Octets → Option Node) → Octets → Option Node
  | .set key value, values | .setAfter _ key value, values | .setFirst key value, values =>
      Function.update values key (some value)
  | .sortKeys, values => values

/-- A mapping in which every key has a value and no key stands twice. -/
structure Node.Mapping (node : Node) : Prop where
  mapping : node.kind = .mapping
  paired : Entries.Paired node.content
  distinct : (Entries.names Node.value node.content).Nodup

variable {node : Node} {key : Octets} {value : Node}

private theorem get_eq (mapping : node.kind = .mapping) (key : Octets) :
    get node key = Entries.find? Node.value key node.content :=
  if_pos mapping

private theorem Node.Mapping.renewed {content : List Node} (whole : node.Mapping)
    (paired : Entries.Paired content) (distinct : (Entries.names Node.value content).Nodup)
    (self : Entries.find? Node.value key content = some value)
    (others : ∀ other, key ≠ other → Entries.find? Node.value other content =
      Entries.find? Node.value other node.content) :
    Node.Mapping { node with content := content } ∧
      get { node with content := content } = Function.update (get node) key (some value) := by
  refine ⟨⟨whole.mapping, paired, distinct⟩, funext fun other => ?_⟩
  refine (if_pos whole.mapping).trans ?_
  by_cases same : other = key
  · rw [same, Function.update_self]
    exact self
  · rw [Function.update_of_ne same, get_eq whole.mapping]
    exact others other (Ne.symm same)

private theorem Node.Mapping.set (whole : node.Mapping) (key : Octets) (value : Node) :
    (OpenApi.set node key value).Mapping ∧
      get (OpenApi.set node key value) = Function.update (get node) key (some value) := by
  refine whole.renewed (Entries.paired_put whole.paired) ?_ (Entries.find?_put rfl whole.paired)
    fun other ne => Entries.find?_put_ne rfl ne whole.paired
  rw [Entries.names_put (keyNode_value key) whole.paired]
  split
  · exact whole.distinct
  · next absent =>
      have apart : ∀ name ∈ Entries.names Node.value node.content, name ≠ key :=
        fun name member same => absent (same ▸ member)
      simpa [List.nodup_append, whole.distinct] using apart

private theorem Node.Mapping.insertAfter (whole : node.Mapping)
    (absent : ¬ (get node key).isSome = true)
    (anchor : Octets) (value : Node) : (OpenApi.insertAfter node anchor key value).Mapping ∧
      get (OpenApi.insertAfter node anchor key value) =
        Function.update (get node) key (some value) := by
  rw [get_eq whole.mapping] at absent
  refine whole.renewed (Entries.paired_insertAfter whole.paired) ?_
    (Entries.find?_insertAfter rfl whole.paired (Option.not_isSome_iff_eq_none.mp absent))
    fun other ne => Entries.find?_insertAfter_ne rfl ne whole.paired
  rw [(Entries.names_insertAfter (keyNode_value key) whole.paired).nodup_iff, List.nodup_cons]
  exact ⟨fun member => absent (Entries.mem_names.mp member), whole.distinct⟩

private theorem Node.Mapping.prepend (whole : node.Mapping)
    (absent : ¬ (get node key).isSome = true)
    (value : Node) : (OpenApi.prepend node key value).Mapping ∧
      get (OpenApi.prepend node key value) = Function.update (get node) key (some value) := by
  rw [get_eq whole.mapping] at absent
  exact whole.renewed (.cons _ _ whole.paired)
    (List.nodup_cons.mpr ⟨fun member => absent (Entries.mem_names.mp member), whole.distinct⟩)
    (if_pos rfl) fun other ne => if_neg ne

private theorem Node.Mapping.apply (whole : node.Mapping) (edit : Edit) :
    (edit.apply node).Mapping ∧ get (edit.apply node) = edit.assign (get node) := by
  cases edit with
  | set key value => exact whole.set key value
  | setAfter anchor key value =>
      rw [Edit.apply, OpenApi.setAfter]
      split
      · exact whole.set key value
      · next absent => exact whole.insertAfter absent anchor value
  | setFirst key value =>
      rw [Edit.apply, OpenApi.setFirst]
      split
      · exact whole.set key value
      · next absent => exact whole.prepend absent value
  | sortKeys =>
      refine ⟨⟨whole.mapping, Entries.paired_arrange _ _,
        (Entries.names_arrange Node.value).nodup_iff.mpr whole.distinct⟩, ?_⟩
      funext key
      refine (if_pos whole.mapping).trans (Eq.trans ?_ (get_eq whole.mapping key).symm)
      exact Entries.find?_arrange (fun left right same => same ▸ Std.le_refl _) key

/-- Any sequence of edits leaves a mapping one, without a key standing twice, and its keys
find what the same assignments to a map give. -/
theorem edits_act_as_map (whole : node.Mapping) (edits : List Edit) :
    (run Edit.apply node edits).Mapping ∧
      get (run Edit.apply node edits) = run Edit.assign (get node) edits := by
  induction edits generalizing node with
  | nil => exact ⟨whole, rfl⟩
  | cons edit rest ih =>
      obtain ⟨kept, same⟩ := whole.apply edit
      obtain ⟨still, last⟩ := ih kept
      exact ⟨still, last.trans (congrArg (fun values => run Edit.assign values rest) same)⟩

def teaSchema : Node :=
  mapNode [keyNode (octets "type"), strNode (octets "object"), keyNode (octets "required"),
    boolNode true, keyNode (octets "title"), strNode (octets "tea")]

/-- The first anchor is a key of the schema, the second is not. -/
def teaEdits : List Edit :=
  [.setAfter (octets "type") (octets "format") (strNode (octets "leaf")),
    .setAfter (octets "summary") (octets "example") (strNode (octets "oolong")), .sortKeys,
    .setFirst (octets "required") (boolNode false)]

theorem edits_act_as_map_tea :
    get (run Edit.apply teaSchema teaEdits) (octets "format") = some (strNode (octets "leaf")) ∧
      get (run Edit.apply teaSchema teaEdits) (octets "example") =
        some (strNode (octets "oolong")) ∧
      get (run Edit.apply teaSchema teaEdits) (octets "required") = some (boolNode false) ∧
      get (run Edit.apply teaSchema teaEdits) (octets "title") = some (strNode (octets "tea")) := by
  have whole : teaSchema.Mapping := ⟨rfl, .cons _ _ (.cons _ _ (.cons _ _ .nil)), by decide⟩
  have same := (edits_act_as_map whole teaEdits).2
  have assigned : run Edit.assign (get teaSchema) teaEdits =
      Function.update (Function.update (Function.update (get teaSchema) (octets "format")
        (some (strNode (octets "leaf")))) (octets "example") (some (strNode (octets "oolong"))))
        (octets "required") (some (boolNode false)) := rfl
  rw [same, assigned]
  refine ⟨?_, ?_, Function.update_self .., ?_⟩
  · rw [Function.update_of_ne (by decide), Function.update_of_ne (by decide), Function.update_self]
  · rw [Function.update_of_ne (by decide), Function.update_self]
  · rw [Function.update_of_ne (by decide), Function.update_of_ne (by decide),
      Function.update_of_ne (by decide)]
    rfl

end Mall.OpenApi
