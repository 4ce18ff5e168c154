/-
Paging by key.

A page holds the first rows past a cursor, and the cursor moves to the last of
them.  Each page is taken from the rows that are there when it is asked for, so
the rows may change between two pages.
-/

import Mathlib.Data.Finset.Card
import Mathlib.Data.List.Sort

namespace Keyset

variable {ρ κ : Type}

/-- What one request found, and what it showed of it. -/
structure Page (ρ : Type) where
  rows : List ρ
  shown : List ρ

def shown (pages : List (Page ρ)) : List ρ :=
  pages.flatMap Page.shown

def Distinct (key : ρ → κ) (pages : List (Page ρ)) : Prop :=
  ∀ page ∈ pages, (page.rows.map key).Nodup

def Lasting (key : ρ → κ) (pages : List (Page ρ)) (kept : κ) : Prop :=
  ∀ page ∈ pages, ∃ row ∈ page.rows, key row = kept

theorem Distinct.head {key : ρ → κ} {page : Page ρ} {pages : List (Page ρ)}
    (distinct : Distinct key (page :: pages)) :
    (page.rows.map key).Nodup :=
  distinct page List.mem_cons_self

theorem Distinct.tail {key : ρ → κ} {page : Page ρ} {pages : List (Page ρ)}
    (distinct : Distinct key (page :: pages)) :
    Distinct key pages :=
  fun other present => distinct other (List.mem_cons_of_mem _ present)

private theorem shown_concat (pages : List (Page ρ)) (page : Page ρ) :
    shown (pages ++ [page]) = shown pages ++ page.shown := by
  rw [shown, List.flatMap_append]
  simp [shown]

/-- Consecutive requests, each over the rows of its own moment. -/
def Reads (view : Nat → List ρ) : Nat → List (Page ρ) → Prop
  | _, [] => True
  | number, page :: rest => page.rows = view number ∧ Reads view (number + 1) rest

theorem Reads.mem {view : Nat → List ρ} {number : Nat} {pages : List (Page ρ)}
    (reads : Reads view number pages) {page : Page ρ} (present : page ∈ pages) :
    ∃ moment, moment < number + pages.length ∧ page.rows = view moment := by
  induction pages generalizing number with
  | nil => cases present
  | cons first rest ih =>
      rcases List.mem_cons.mp present with rfl | later
      · refine ⟨number, ?_, reads.1⟩
        rw [List.length_cons]
        omega
      · obtain ⟨moment, bound, rows⟩ := ih reads.2 later
        refine ⟨moment, ?_, rows⟩
        rw [List.length_cons]
        omega

theorem Reads.distinct {view : Nat → List ρ} {key : ρ → κ} {number : Nat}
    {pages : List (Page ρ)} (reads : Reads view number pages)
    (distinct : ∀ moment, ((view moment).map key).Nodup) : Distinct key pages := by
  intro page present
  obtain ⟨moment, _, rows⟩ := reads.mem present
  rw [rows]
  exact distinct moment

variable [LinearOrder κ]

def Past (after : Option κ) (key : κ) : Prop :=
  ∀ cursor ∈ after, cursor < key

instance (after : Option κ) (key : κ) : Decidable (Past after key) :=
  inferInstanceAs (Decidable (∀ cursor ∈ after, cursor < key))

/-- The rows past a cursor, in the order of their keys. -/
def beyond (key : ρ → κ) (after : Option κ) (rows : List ρ) : List ρ :=
  (rows.filter (fun row => decide (Past after (key row)))).insertionSort
    (fun left right => key left ≤ key right)

/-- Requests that follow the cursor, each leaving it at its last row. -/
inductive Walk (key : ρ → κ) : Option κ → List (Page ρ) → Option κ → Prop where
  | stay (after : Option κ) : Walk key after [] after
  | page {after finish : Option κ} {page : Page ρ} {last : ρ} {pages : List (Page ρ)} :
      page.shown <+: beyond key after page.rows → page.shown.getLast? = some last →
      Walk key (some (key last)) pages finish → Walk key after (page :: pages) finish

/-- The last page of a finished walk shows all that is left. -/
def Finished (key : ρ → κ) (after : Option κ) (pages : List (Page ρ)) : Prop :=
  ∃ earlier page finish, pages = earlier ++ [page] ∧ Walk key after earlier finish ∧
    page.shown = beyond key finish page.rows

/-! ### One page -/

section Page

variable {key : ρ → κ} {after : Option κ} {rows : List ρ}

theorem mem_beyond {row : ρ} :
    row ∈ beyond key after rows ↔ row ∈ rows ∧ Past after (key row) := by
  rw [beyond, List.mem_insertionSort, List.mem_filter, decide_eq_true_iff]

/-- A statement with this cursor condition and this order returns the rows past the
cursor, however it spells them. -/
theorem beyond_eq {select : ρ → Bool} {order : ρ → ρ → Prop} [DecidableRel order]
    (selects : ∀ row, select row = true ↔ Past after (key row))
    (orders : ∀ left right, order left right ↔ key left ≤ key right) :
    (rows.filter select).insertionSort order = beyond key after rows := by
  have selected : select = fun row => decide (Past after (key row)) := by
    funext row
    exact (Bool.eq_iff_iff.mpr ((selects row).trans decide_eq_true_iff.symm))
  have ordered : order = fun left right => key left ≤ key right := by
    funext left right
    exact propext (orders left right)
  subst selected ordered
  unfold beyond
  congr

theorem beyond_none (key : ρ → κ) (rows : List ρ) : (beyond key none rows).Perm rows := by
  have all : rows.filter (fun row => decide (Past none (key row))) = rows :=
    List.filter_eq_self.mpr (fun row _ => decide_eq_true (fun _ none => nomatch none))
  unfold beyond
  rw [all]
  exact List.perm_insertionSort _ _

theorem map_beyond {σ : Type} {key : σ → κ} (read : ρ → σ) :
    (beyond (fun row => key (read row)) after rows).map read = beyond key after (rows.map read) := by
  unfold beyond
  rw [List.map_insertionSort _ (fun left right => key left ≤ key right) read _
    (fun _ _ _ _ => Iff.rfl), List.filter_map]
  rfl

private theorem beyond_sorted (distinct : (rows.map key).Nodup) :
    (beyond key after rows).Pairwise (fun left right => key left < key right) := by
  have ordered : (beyond key after rows).Pairwise (fun left right => key left ≤ key right) := by
    have total : Std.Total (fun left right : ρ => key left ≤ key right) :=
      ⟨fun left right => le_total (key left) (key right)⟩
    have transitive : IsTrans ρ (fun left right => key left ≤ key right) :=
      ⟨fun _ _ _ first second => first.trans second⟩
    exact List.pairwise_insertionSort _ _
  have apart : (beyond key after rows).Pairwise (fun left right => key left ≠ key right) := by
    have permuted := List.perm_insertionSort (fun left right : ρ => key left ≤ key right)
      (rows.filter (fun row => decide (Past after (key row))))
    have kept : ((rows.filter (fun row => decide (Past after (key row)))).map key).Nodup :=
      distinct.sublist (List.filter_sublist.map key)
    exact List.pairwise_map.mp ((permuted.map key).nodup_iff.mpr kept)
  exact (ordered.and apart).imp (fun both => lt_of_le_of_ne both.1 both.2)

private theorem sorted_ext {left right : List ρ}
    (leftSorted : left.Pairwise (fun first second => key first < key second))
    (rightSorted : right.Pairwise (fun first second => key first < key second))
    (same : ∀ row, row ∈ left ↔ row ∈ right) : left = right := by
  have distinct {list : List ρ}
      (sorted : list.Pairwise (fun first second => key first < key second)) : list.Nodup :=
    sorted.imp (fun less equal => absurd (congrArg key equal) less.ne)
  have permuted := (List.perm_ext_iff_of_nodup (distinct leftSorted) (distinct rightSorted)).mpr same
  exact permuted.eq_of_pairwise (fun _ _ _ _ first second => absurd second first.asymm)
    leftSorted rightSorted

private theorem beyond_split {shown : List ρ} {last : ρ} (distinct : (rows.map key).Nodup)
    (page : shown <+: beyond key after rows) (ends : shown.getLast? = some last) :
    beyond key after rows = shown ++ beyond key (some (key last)) rows := by
  obtain ⟨rest, whole⟩ := page
  have sorted := @beyond_sorted ρ κ _ key after rows distinct
  rw [← whole, List.pairwise_append] at sorted
  obtain ⟨front, rising, across⟩ := sorted
  obtain ⟨initial, rfl⟩ := List.getLast?_eq_some_iff.mp ends
  have lastMember : last ∈ initial ++ [last] := List.mem_append_right _ List.mem_cons_self
  have lastPast : Past after (key last) := by
    have present : last ∈ beyond key after rows := by
      rw [← whole]
      exact List.mem_append_left _ lastMember
    exact (mem_beyond.mp present).2
  rw [← whole]
  congr 1
  refine sorted_ext rising (beyond_sorted distinct) ?_
  intro row
  rw [mem_beyond]
  constructor
  · intro present
    have found : row ∈ beyond key after rows := by
      rw [← whole]
      exact List.mem_append_right _ present
    refine ⟨(mem_beyond.mp found).1, ?_⟩
    intro cursor same
    cases same
    exact across last lastMember row present
  · rintro ⟨present, past⟩
    have beyondLast : key last < key row := past _ rfl
    have found : row ∈ beyond key after rows :=
      mem_beyond.mpr ⟨present, fun cursor same => (lastPast cursor same).trans beyondLast⟩
    rw [← whole] at found
    rcases List.mem_append.mp found with shown | remains
    · exfalso
      rcases List.mem_append.mp shown with early | same
      · have before := (List.pairwise_append.mp front).2.2 row early last List.mem_cons_self
        exact lt_asymm before beyondLast
      · rw [List.mem_singleton.mp same] at beyondLast
        exact lt_irrefl _ beyondLast
    · exact remains

private theorem le_last {shown : List ρ} {last row : ρ} (distinct : (rows.map key).Nodup)
    (page : shown <+: beyond key after rows) (ends : shown.getLast? = some last)
    (present : row ∈ shown) : key row ≤ key last := by
  have sorted := (beyond_sorted distinct).sublist page.sublist
  obtain ⟨initial, rfl⟩ := List.getLast?_eq_some_iff.mp ends
  rcases List.mem_append.mp present with early | same
  · exact ((List.pairwise_append.mp sorted).2.2 row early last List.mem_cons_self).le
  · rw [List.mem_singleton.mp same]

end Page

/-! ### Walks -/

section Walk

variable {key : ρ → κ} {after finish : Option κ} {pages : List (Page ρ)}

theorem Walk.advances (walk : Walk key after pages finish) {later : κ} (past : Past finish later) :
    Past after later := by
  induction walk with
  | stay => exact past
  | page prefixed ends _ ih =>
      have beyondLast := ih past _ rfl
      have present := prefixed.subset (List.mem_of_getLast? ends)
      exact fun cursor same => ((mem_beyond.mp present).2 cursor same).trans beyondLast

theorem Walk.sorted (walk : Walk key after pages finish) (distinct : Distinct key pages) :
    (shown pages).Pairwise (fun left right => key left < key right) ∧
      ∀ row ∈ shown pages, Past after (key row) ∧ ¬ Past finish (key row) := by
  induction walk with
  | stay => exact ⟨List.Pairwise.nil, fun row present => nomatch present⟩
  | @page after finish page last pages prefixed ends rest ih =>
      obtain ⟨rising, within⟩ := ih distinct.tail
      have front := (beyond_sorted distinct.head).sublist prefixed.sublist
      have lastPast := (mem_beyond.mp (prefixed.subset (List.mem_of_getLast? ends))).2
      have unshown : ∀ row ∈ page.shown, key row ≤ key last :=
        fun row present => le_last distinct.head prefixed ends present
      constructor
      · refine List.pairwise_append.mpr ⟨front, rising, ?_⟩
        intro early earlyShown later laterShown
        exact lt_of_le_of_lt (unshown early earlyShown) ((within later laterShown).1 _ rfl)
      · intro row present
        rcases List.mem_append.mp present with here | there
        · refine ⟨(mem_beyond.mp (prefixed.subset here)).2, ?_⟩
          intro past
          exact absurd (rest.advances past _ rfl) (not_lt.mpr (unshown row here))
        · obtain ⟨past, reached⟩ := within row there
          exact ⟨fun cursor same => (lastPast cursor same).trans (past _ rfl), reached⟩

theorem Walk.shown_subset (walk : Walk key after pages finish) :
    ∀ row ∈ shown pages, ∃ page ∈ pages, row ∈ page.rows := by
  induction walk with
  | stay => exact fun row present => nomatch present
  | page prefixed _ _ ih =>
      intro row present
      rcases List.mem_append.mp present with here | there
      · exact ⟨_, List.mem_cons_self, (mem_beyond.mp (prefixed.subset here)).1⟩
      · obtain ⟨page, among, found⟩ := ih row there
        exact ⟨page, List.mem_cons_of_mem _ among, found⟩

/-- A key that stays is shown once the cursor has gone past it. -/
theorem Walk.covers (walk : Walk key after pages finish) (distinct : Distinct key pages) {kept : κ}
    (ahead : Past after kept) (reached : ¬ Past finish kept) (lasting : Lasting key pages kept) :
    ∃ row ∈ shown pages, key row = kept := by
  induction walk with
  | stay => exact absurd ahead reached
  | @page after finish page last pages prefixed ends _ ih =>
      by_cases later : Past (some (key last)) kept
      · obtain ⟨row, present, same⟩ := ih distinct.tail later reached
          (fun page present => lasting page (List.mem_cons_of_mem _ present))
        exact ⟨row, List.mem_append_right _ present, same⟩
      · obtain ⟨row, present, same⟩ := lasting page List.mem_cons_self
        have found : row ∈ beyond key after page.rows :=
          mem_beyond.mpr ⟨present, by rw [same]; exact ahead⟩
        rw [beyond_split distinct.head prefixed ends] at found
        rcases List.mem_append.mp found with here | there
        · exact ⟨row, List.mem_append_left _ here, same⟩
        · have past := (mem_beyond.mp there).2
          rw [same] at past
          exact absurd past later

theorem Walk.static (walk : Walk key after pages finish) {rows : List ρ}
    (distinct : (rows.map key).Nodup) (same : ∀ page ∈ pages, page.rows = rows) :
    shown pages ++ beyond key finish rows = beyond key after rows := by
  induction walk with
  | stay => rfl
  | @page after finish page last pages prefixed ends _ ih =>
      have here := same page List.mem_cons_self
      rw [here] at prefixed
      have rest := ih (fun other present => same other (List.mem_cons_of_mem _ present))
      rw [beyond_split distinct prefixed ends, ← rest, ← List.append_assoc]
      rfl

theorem Walk.length_le (walk : Walk key after pages finish) (distinct : Distinct key pages)
    {keys : Finset κ} (finite : ∀ page ∈ pages, ∀ row ∈ page.rows, key row ∈ keys) :
    pages.length ≤ keys.card := by
  have each : pages.length ≤ (shown pages).length := by
    clear finite distinct
    induction walk with
    | stay => exact Nat.le_refl 0
    | @page after finish page last pages _ ends _ ih =>
        have some : 0 < page.shown.length := List.length_pos_of_mem (List.mem_of_getLast? ends)
        have split : (shown (page :: pages)).length = page.shown.length + (shown pages).length :=
          List.length_append
        rw [List.length_cons, split]
        omega
  have apart : ((shown pages).map key).Nodup :=
    List.pairwise_map.mpr ((walk.sorted distinct).1.imp (fun less => less.ne))
  have inside : ((shown pages).map key).toFinset ⊆ keys := by
    intro value present
    obtain ⟨row, among, rfl⟩ := List.mem_map.mp (List.mem_toFinset.mp present)
    obtain ⟨page, member, found⟩ := walk.shown_subset row among
    exact finite page member row found
  have bound := Finset.card_le_card inside
  rw [List.toFinset_card_of_nodup apart, List.length_map] at bound
  exact each.trans bound

end Walk

/-! ### Finished walks -/

section Finished

variable {key : ρ → κ} {after : Option κ} {pages : List (Page ρ)}

theorem Finished.sorted (finished : Finished key after pages) (distinct : Distinct key pages) :
    (shown pages).Pairwise (fun left right => key left < key right) := by
  obtain ⟨pages, page, finish, rfl, walk, rest⟩ := finished
  have earlier : Distinct key pages :=
    fun other present => distinct other (List.mem_append_left _ present)
  have here := distinct page (List.mem_append_right _ List.mem_cons_self)
  obtain ⟨rising, within⟩ := walk.sorted earlier
  rw [shown_concat, rest]
  refine List.pairwise_append.mpr ⟨rising, beyond_sorted here, ?_⟩
  intro early earlyShown late lateShown
  have past := (mem_beyond.mp lateShown).2
  by_contra reversed
  exact (within early earlyShown).2
    (fun cursor same => lt_of_lt_of_le (past cursor same) (not_lt.mp reversed))

theorem Finished.shown_subset (finished : Finished key after pages) :
    ∀ row ∈ shown pages, ∃ page ∈ pages, row ∈ page.rows := by
  obtain ⟨pages, page, finish, rfl, walk, rest⟩ := finished
  intro row present
  rw [shown_concat, rest] at present
  rcases List.mem_append.mp present with early | late
  · obtain ⟨page, among, found⟩ := walk.shown_subset row early
    exact ⟨page, List.mem_append_left _ among, found⟩
  · exact ⟨page, List.mem_append_right _ List.mem_cons_self, (mem_beyond.mp late).1⟩

theorem Finished.covers (finished : Finished key after pages) (distinct : Distinct key pages)
    {kept : κ} (ahead : Past after kept) (lasting : Lasting key pages kept) :
    ∃ row ∈ shown pages, key row = kept := by
  obtain ⟨pages, page, finish, rfl, walk, rest⟩ := finished
  rw [shown_concat]
  by_cases past : Past finish kept
  · obtain ⟨row, present, same⟩ := lasting page (List.mem_append_right _ List.mem_cons_self)
    refine ⟨row, List.mem_append_right _ ?_, same⟩
    rw [rest]
    exact mem_beyond.mpr ⟨present, by rw [same]; exact past⟩
  · obtain ⟨row, present, same⟩ := walk.covers
      (fun other present => distinct other (List.mem_append_left _ present)) ahead past
      (fun other present => lasting other (List.mem_append_left _ present))
    exact ⟨row, List.mem_append_left _ present, same⟩

/-- Over rows that stay as they are, a finished walk shows all of them in order. -/
theorem Finished.static (finished : Finished key after pages) {rows : List ρ}
    (distinct : (rows.map key).Nodup) (same : ∀ page ∈ pages, page.rows = rows) :
    shown pages = beyond key after rows := by
  obtain ⟨pages, page, finish, rfl, walk, rest⟩ := finished
  rw [shown_concat, rest, same page (List.mem_append_right _ List.mem_cons_self)]
  exact walk.static distinct (fun other present => same other (List.mem_append_left _ present))

end Finished

end Keyset
