/-
Ordered mappings that are stored flat: a key, its value, the next key and so on.

A name is looked up at its first key.  Putting a value keeps the place of the name.
-/

import Mathlib.Data.List.Infix
import Mathlib.Data.List.Sort

namespace Entries

variable {ν κ : Type} [DecidableEq κ]

/-! ### Looking up and changing -/

section Keyed

variable (key : ν → κ)

def find? (name : κ) : List ν → Option ν
  | entry :: value :: rest => if key entry = name then some value else find? name rest
  | _ => none

/-- Replace the value in place, or append the name behind everything. -/
def put (name : κ) (fresh value : ν) : List ν → List ν
  | entry :: old :: rest =>
      if key entry = name then entry :: value :: rest
      else entry :: old :: put name fresh value rest
  | rest => rest ++ [fresh, value]

def insertAfter (anchor : κ) (fresh value : ν) : List ν → List ν
  | entry :: old :: rest =>
      if key entry = anchor then entry :: old :: fresh :: value :: rest
      else entry :: old :: insertAfter anchor fresh value rest
  | rest => rest ++ [fresh, value]

end Keyed

inductive Paired : List ν → Prop
  | nil : Paired []
  | cons (entry value : ν) {rest : List ν} : Paired rest → Paired (entry :: value :: rest)

def pairs : List ν → List (ν × ν)
  | entry :: value :: rest => (entry, value) :: pairs rest
  | _ => []

def flat (entries : List (ν × ν)) : List ν :=
  entries.flatMap (fun entry => [entry.1, entry.2])

def names (key : ν → κ) (entries : List ν) : List κ :=
  (pairs entries).map (fun entry => key entry.1)

/-- Sort the pairs by a rank; pairs of one rank keep their order. -/
def arrange {ρ : Type} [LE ρ] [DecidableLE ρ] (rank : ν × ν → ρ) (entries : List ν) : List ν :=
  flat ((pairs entries).insertionSort (fun left right => rank left ≤ rank right))

/-! ### Pairs -/

@[simp] theorem flat_cons (entry : ν × ν) (rest : List (ν × ν)) :
    flat (entry :: rest) = entry.1 :: entry.2 :: flat rest := rfl

omit [DecidableEq κ] in
@[simp] theorem names_cons (key : ν → κ) (entry value : ν) (rest : List ν) :
    names key (entry :: value :: rest) = key entry :: names key rest := rfl

private theorem paired_flat (entries : List (ν × ν)) : Paired (flat entries) := by
  induction entries with
  | nil => exact Paired.nil
  | cons entry rest ih => exact Paired.cons entry.1 entry.2 ih

private theorem pairs_flat (entries : List (ν × ν)) : pairs (flat entries) = entries := by
  induction entries with
  | nil => rfl
  | cons entry rest ih => rw [flat_cons, pairs, ih]

theorem paired_append_two {entries : List ν} (paired : Paired entries) (fresh value : ν) :
    Paired (entries ++ [fresh, value]) := by
  induction paired with
  | nil => exact Paired.cons fresh value Paired.nil
  | cons entry old _ ih => exact Paired.cons entry old ih

/-! ### Putting -/

section Laws

variable {key : ν → κ} {name other anchor : κ} {fresh value : ν} {entries : List ν}

theorem paired_put (paired : Paired entries) : Paired (put key name fresh value entries) := by
  induction paired with
  | nil => exact Paired.cons fresh value Paired.nil
  | cons entry old kept ih =>
      rw [put]
      split
      · exact Paired.cons entry value kept
      · exact Paired.cons entry old ih

theorem find?_put (named : key fresh = name) (paired : Paired entries) :
    find? key name (put key name fresh value entries) = some value := by
  induction paired with
  | nil => exact if_pos named
  | cons entry old _ ih =>
      rw [put]
      split
      · next here => rw [find?, if_pos here]
      · next away => rw [find?, if_neg away, ih]

theorem find?_put_ne (named : key fresh = name) (ne : name ≠ other) (paired : Paired entries) :
    find? key other (put key name fresh value entries) = find? key other entries := by
  induction paired with
  | nil => exact if_neg (named ▸ ne)
  | cons entry old _ ih =>
      rw [put]
      split
      · next here =>
        have away : key entry ≠ other := fun same => ne (here.symm.trans same)
        rw [find?, find?, if_neg away, if_neg away]
      · rw [find?, find?, ih]

/-! ### Inserting -/

theorem paired_insertAfter (paired : Paired entries) :
    Paired (insertAfter key anchor fresh value entries) := by
  induction paired with
  | nil => exact Paired.cons fresh value Paired.nil
  | cons entry old kept ih =>
      rw [insertAfter]
      split
      · exact Paired.cons entry old (Paired.cons fresh value kept)
      · exact Paired.cons entry old ih

theorem find?_insertAfter (named : key fresh = name) (paired : Paired entries)
    (absent : find? key name entries = none) :
    find? key name (insertAfter key anchor fresh value entries) = some value := by
  induction paired with
  | nil => exact if_pos named
  | cons entry old _ ih =>
      rw [find?] at absent
      split at absent
      · cases absent
      · next away =>
        rw [insertAfter]
        split
        · rw [find?, if_neg away, find?, if_pos named]
        · rw [find?, if_neg away, ih absent]

theorem find?_insertAfter_ne (named : key fresh = name) (ne : name ≠ other)
    (paired : Paired entries) :
    find? key other (insertAfter key anchor fresh value entries) = find? key other entries := by
  induction paired with
  | nil => exact if_neg (named ▸ ne)
  | cons entry old _ ih =>
      rw [insertAfter]
      split
      · have away : key fresh ≠ other := named ▸ ne
        rw [find?, find?, find?, if_neg away]
      · rw [find?, find?, ih]

/-! ### The names of the keys -/

theorem names_put (named : key fresh = name) (paired : Paired entries) :
    names key (put key name fresh value entries) =
      if name ∈ names key entries then names key entries else names key entries ++ [name] := by
  induction paired with
  | nil => simp [put, names, pairs, named]
  | @cons entry old rest _ ih =>
      rw [put]
      split
      · next here => simp [here]
      · next away =>
        rw [names_cons, names_cons, ih]
        by_cases inside : name ∈ names key rest <;> simp [inside, Ne.symm away]

theorem names_insertAfter (named : key fresh = name) (paired : Paired entries) :
    (names key (insertAfter key anchor fresh value entries)).Perm (name :: names key entries) := by
  induction paired with
  | nil => simp [insertAfter, names, pairs, named]
  | cons entry old _ ih =>
      rw [insertAfter]
      split
      · rw [names_cons, names_cons, names_cons, named]
        exact List.Perm.swap _ _ _
      · exact (ih.cons (key entry)).trans (List.Perm.swap _ _ _)

/-! ### Looking up in pairs -/

private theorem find?_eq_pairs (key : ν → κ) (name : κ) (entries : List ν) :
    find? key name entries =
      ((pairs entries).find? (fun entry => decide (key entry.1 = name))).map Prod.snd := by
  induction entries using find?.induct key name with
  | case1 entry value rest here =>
      simp [find?, pairs, here]
  | case2 entry value rest away ih =>
      simp [find?, pairs, away, ih]
  | case3 rest single =>
      rw [find?.eq_2 key name rest single, pairs.eq_2 rest single]
      rfl

theorem mem_names : name ∈ names key entries ↔ (find? key name entries).isSome = true := by
  rw [find?_eq_pairs, names, Option.isSome_map, List.find?_isSome, List.mem_map]
  simp

end Laws

/-! ### Arranging -/

section Arranging

variable {ρ : Type} [LE ρ] [DecidableLE ρ] {rank : ν × ν → ρ} {entries : List ν}

theorem paired_arrange (rank : ν × ν → ρ) (entries : List ν) : Paired (arrange rank entries) :=
  paired_flat _

omit [DecidableEq κ] in
theorem names_arrange (key : ν → κ) :
    (names key (arrange rank entries)).Perm (names key entries) := by
  rw [names, arrange, pairs_flat]
  exact (List.perm_insertionSort _ _).map _

/-- A stable sort keeps those of one rank as they are. -/
theorem filter_insertionSort {α : Type} {rank : α → ρ} {select : α → Bool}
    (level : ∀ left right, select left = true → select right = true → rank left ≤ rank right)
    (items : List α) :
    (items.insertionSort (fun left right => rank left ≤ rank right)).filter select =
      items.filter select := by
  have flatly : (items.filter select).Pairwise (fun left right => rank left ≤ rank right) := by
    refine List.pairwise_of_forall_mem_list fun left inLeft right inRight => ?_
    exact level left right (List.mem_filter.mp inLeft).2 (List.mem_filter.mp inRight).2
  have kept := List.sublist_insertionSort flatly List.filter_sublist
  have inside := kept.filter select
  rw [List.filter_filter] at inside
  simp only [Bool.and_self] at inside
  have sameLength := ((List.perm_insertionSort (fun left right => rank left ≤ rank right)
    items).filter select).length_eq
  exact (inside.eq_of_length sameLength.symm).symm

theorem find?_arrange {key : ν → κ}
    (level : ∀ left right : ν × ν, key left.1 = key right.1 → rank left ≤ rank right) (name : κ) :
    find? key name (arrange rank entries) = find? key name entries := by
  rw [find?_eq_pairs, find?_eq_pairs, arrange, pairs_flat, ← List.head?_filter, ← List.head?_filter,
    filter_insertionSort]
  intro left right first second
  exact level left right ((of_decide_eq_true first).trans (of_decide_eq_true second).symm)

end Arranging

end Entries
