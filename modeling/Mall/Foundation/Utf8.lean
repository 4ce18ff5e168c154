/-
UTF-8 as a code on octets.

A letter is an octet that can start one, followed by octets that cannot.  Hence a
letter is recognised at either end of a text, and a text that is cut inside a
letter is no text any more.
-/

import Mathlib.Data.List.Basic
import Mathlib.Data.List.Infix

namespace Utf8

abbrev Octets := List UInt8

def encode (letters : List Char) : Octets :=
  letters.flatMap String.utf8EncodeChar

def letter? (octets : Octets) : Option Char :=
  octets.toByteArray.utf8DecodeChar? 0

/-- The letter at the end: the one that takes up the last one to four octets. -/
def lastLetter? (octets : Octets) : Option Char :=
  [1, 2, 3, 4].findSome? (fun size =>
    (letter? (octets.drop (octets.length - size))).filter (fun letter =>
      decide (letter.utf8Size = size)))

/-! ### Letters -/

@[simp] theorem encode_nil : encode [] = [] := rfl

@[simp] theorem encode_cons (letter : Char) (rest : List Char) :
    encode (letter :: rest) = String.utf8EncodeChar letter ++ encode rest := rfl

@[simp] theorem encode_append (first second : List Char) :
    encode (first ++ second) = encode first ++ encode second :=
  List.flatMap_append

theorem encode_singleton (letter : Char) : encode [letter] = String.utf8EncodeChar letter :=
  List.append_nil _

private theorem encodeChar_ne_nil (letter : Char) : String.utf8EncodeChar letter ≠ [] := by
  intro none
  have size := String.length_utf8EncodeChar letter
  rw [none] at size
  exact absurd size.symm (Nat.ne_of_gt letter.utf8Size_pos)

theorem encodeChar_eq_cons (letter : Char) :
    ∃ first rest, String.utf8EncodeChar letter = first :: rest ∧ first.IsUTF8FirstByte ∧
      ∀ octet ∈ rest, ¬ octet.IsUTF8FirstByte := by
  have starts : ∀ index (bound : index < (String.utf8EncodeChar letter).length),
      (String.utf8EncodeChar letter)[index].IsUTF8FirstByte ↔ index = 0 :=
    fun index bound => UInt8.isUTF8FirstByte_getElem_utf8EncodeChar
  cases whole : String.utf8EncodeChar letter with
  | nil => exact absurd whole (encodeChar_ne_nil letter)
  | cons first rest =>
      rw [whole] at starts
      refine ⟨first, rest, rfl, ?_, ?_⟩
      · exact (starts 0 (Nat.zero_lt_succ _)).mpr rfl
      · intro octet member begins
        obtain ⟨index, bound, rfl⟩ := List.getElem_of_mem member
        have here := (starts (index + 1) (Nat.succ_lt_succ bound)).mp begins
        exact absurd here (Nat.succ_ne_zero index)

theorem letter?_eq_some {octets : Octets} {letter : Char} :
    letter? octets = some letter ↔ String.utf8EncodeChar letter <+: octets := by
  constructor
  · intro found
    obtain ⟨rest, whole⟩ := ByteArray.exists_of_utf8DecodeChar?_eq_some found
    have listed : rest.data.toList.toByteArray = rest := by
      apply ByteArray.ext
      rw [List.data_toByteArray, Array.toArray_toList]
    refine ⟨rest.data.toList, ?_⟩
    apply List.toByteArray_inj.mp
    rw [List.toByteArray_append, listed]
    exact whole.symm
  · rintro ⟨rest, rfl⟩
    rw [letter?, List.toByteArray_append]
    exact ByteArray.utf8DecodeChar?_utf8EncodeChar_append

theorem eq_of_encodeChar_front {octets : Octets} {left right : Char}
    (first : String.utf8EncodeChar left <+: octets)
    (second : String.utf8EncodeChar right <+: octets) : left = right := by
  have found := letter?_eq_some.mpr first
  rw [letter?_eq_some.mpr second] at found
  exact (Option.some.inj found).symm

/-- No letter is the end of another one, as its first octet can only come first. -/
theorem eq_of_encodeChar_suffix {octets : Octets} {left right : Char}
    (first : String.utf8EncodeChar left <:+ octets)
    (second : String.utf8EncodeChar right <:+ octets) : left = right := by
  have same : ∀ {early late : Char}, String.utf8EncodeChar early <:+ octets →
      String.utf8EncodeChar late <:+ octets →
      (String.utf8EncodeChar early).length ≤ (String.utf8EncodeChar late).length → early = late := by
    intro early late ends whole shorter
    obtain ⟨before, together⟩ := List.suffix_of_suffix_length_le ends whole shorter
    obtain ⟨start, rest, split, _, inside⟩ := encodeChar_eq_cons late
    obtain ⟨head, tail, letter, begins, _⟩ := encodeChar_eq_cons early
    cases before with
    | nil =>
        apply eq_of_encodeChar_front (List.prefix_rfl)
        rw [← together]
        exact List.prefix_rfl
    | cons other before =>
        rw [split, List.cons_append, List.cons.injEq] at together
        have member : head ∈ rest := by
          rw [← together.2, letter]
          exact List.mem_append_right _ List.mem_cons_self
        exact absurd begins (inside head member)
  rcases Nat.le_total (String.utf8EncodeChar left).length (String.utf8EncodeChar right).length with
    shorter | longer
  · exact same first second shorter
  · exact (same second first longer).symm

private theorem suffix_of_found {octets : Octets} {size : Nat} {letter : Char}
    (found : (letter? (octets.drop (octets.length - size))).filter (fun letter =>
      decide (letter.utf8Size = size)) = some letter) :
    String.utf8EncodeChar letter <:+ octets := by
  obtain ⟨here, fits⟩ := Option.filter_eq_some_iff.mp found
  have exactly : letter.utf8Size = size := of_decide_eq_true fits
  have front := letter?_eq_some.mp here
  have fitting := front.length_le
  rw [List.length_drop, String.length_utf8EncodeChar] at fitting
  have whole : String.utf8EncodeChar letter = octets.drop (octets.length - size) := by
    apply front.eq_of_length
    rw [List.length_drop, String.length_utf8EncodeChar]
    omega
  rw [whole]
  exact List.drop_suffix _ _

theorem lastLetter?_eq_some {octets : Octets} {letter : Char} :
    lastLetter? octets = some letter ↔ String.utf8EncodeChar letter <:+ octets := by
  constructor
  · intro found
    obtain ⟨size, _, kept⟩ := List.exists_of_findSome?_eq_some found
    exact suffix_of_found kept
  · intro ends
    have size : letter.utf8Size ∈ [1, 2, 3, 4] := by
      rcases letter.utf8Size_eq with one | two | three | four
      · simp [one]
      · simp [two]
      · simp [three]
      · simp [four]
    have last : octets.drop (octets.length - letter.utf8Size) = String.utf8EncodeChar letter := by
      rw [← String.length_utf8EncodeChar letter]
      exact (List.suffix_iff_eq_drop.mp ends).symm
    have there : (letter? (octets.drop (octets.length - letter.utf8Size))).filter (fun other =>
        decide (other.utf8Size = letter.utf8Size)) = some letter := by
      rw [last, letter?_eq_some.mpr List.prefix_rfl, Option.filter_some, if_pos (decide_eq_true rfl)]
    cases found : lastLetter? octets with
    | none =>
        have never := List.findSome?_eq_none_iff.mp found letter.utf8Size size
        rw [there] at never
        cases never
    | some other =>
        obtain ⟨size, _, kept⟩ := List.exists_of_findSome?_eq_some found
        rw [eq_of_encodeChar_suffix (suffix_of_found kept) ends]

/-! ### Texts -/

theorem length_le_length_encode (letters : List Char) : letters.length ≤ (encode letters).length := by
  induction letters with
  | nil => exact le_refl 0
  | cons letter rest ih =>
      have positive := letter.utf8Size_pos
      rw [encode_cons, List.length_append, String.length_utf8EncodeChar, List.length_cons]
      omega

theorem length_encode_le (letters : List Char) : (encode letters).length ≤ 4 * letters.length := by
  induction letters with
  | nil => exact Nat.le_refl 0
  | cons letter rest ih =>
      have size := letter.utf8Size_le_four
      rw [encode_cons, List.length_append, String.length_utf8EncodeChar, List.length_cons]
      omega

private theorem exists_utf8Size {size : Nat} (least : 1 ≤ size) (most : size ≤ 4) :
    ∃ letter : Char, letter.utf8Size = size := by
  obtain rfl | rfl | rfl | rfl : size = 1 ∨ size = 2 ∨ size = 3 ∨ size = 4 := by omega
  · exact ⟨'a', by decide⟩
  · exact ⟨'é', by decide⟩
  · exact ⟨'中', by decide⟩
  · exact ⟨'😀', by decide⟩

/-- A text has any number of octets between one and four for each letter. -/
theorem exists_length_encode {count size : Nat} (least : count ≤ size)
    (most : size ≤ 4 * count) :
    ∃ letters : List Char, letters.length = count ∧ (encode letters).length = size := by
  induction count generalizing size with
  | zero => exact ⟨[], rfl, (Nat.le_zero.mp most).symm⟩
  | succ count ih =>
      -- one octet as long as the other letters can make up the rest
      obtain ⟨width, one, four, low, high, inside⟩ : ∃ width, 1 ≤ width ∧ width ≤ 4 ∧
          count ≤ size - width ∧ size - width ≤ 4 * count ∧ width ≤ size := by
        rcases Nat.le_total size (4 * count + 1) with few | many
        · exact ⟨1, by omega, by omega, by omega, by omega, by omega⟩
        · exact ⟨size - 4 * count, by omega, by omega, by omega, by omega, by omega⟩
      obtain ⟨letter, wide⟩ := exists_utf8Size one four
      obtain ⟨rest, counted, sized⟩ := ih low high
      refine ⟨letter :: rest, by rw [List.length_cons, counted], ?_⟩
      rw [encode_cons, List.length_append, String.length_utf8EncodeChar, wide, sized]
      omega

theorem encode_injective {left right : List Char} (same : encode left = encode right) :
    left = right := by
  induction left generalizing right with
  | nil =>
      cases right with
      | nil => rfl
      | cons letter rest =>
          have none : String.utf8EncodeChar letter ++ encode rest = [] := same.symm
          exact absurd (List.append_eq_nil_iff.mp none).1 (encodeChar_ne_nil letter)
  | cons first rest ih =>
      cases right with
      | nil =>
          have none : String.utf8EncodeChar first ++ encode rest = [] := same
          exact absurd (List.append_eq_nil_iff.mp none).1 (encodeChar_ne_nil first)
      | cons other more =>
          rw [encode_cons, encode_cons] at same
          have equal : first = other := eq_of_encodeChar_front (List.prefix_append _ (encode rest))
            ⟨encode more, same.symm⟩
          subst equal
          rw [ih (List.append_cancel_left same)]

/-- An octet cut falls between two letters or inside one. -/
theorem cut_cases (letters : List Char) {size : Nat} (inside : size ≤ (encode letters).length) :
    (∃ whole rest, letters = whole ++ rest ∧ (encode whole).length = size) ∨
      ∃ whole letter rest, letters = whole ++ letter :: rest ∧ (encode whole).length < size ∧
        size < (encode whole).length + letter.utf8Size := by
  induction letters generalizing size with
  | nil => exact .inl ⟨[], [], rfl, (Nat.eq_zero_of_le_zero inside).symm⟩
  | cons letter rest ih =>
      rw [encode_cons, List.length_append, String.length_utf8EncodeChar] at inside
      rcases Nat.lt_or_ge size letter.utf8Size with within | beyond
      · rcases Nat.eq_zero_or_pos size with rfl | positive
        · exact .inl ⟨[], letter :: rest, rfl, rfl⟩
        · refine .inr ⟨[], letter, rest, rfl, positive, ?_⟩
          rw [encode_nil, List.length_nil, Nat.zero_add]
          exact within
      · have length : ∀ whole, (encode (letter :: whole)).length =
            letter.utf8Size + (encode whole).length := by
          intro whole
          rw [encode_cons, List.length_append, String.length_utf8EncodeChar]
        have bound : size - letter.utf8Size ≤ (encode rest).length := by omega
        rcases ih bound with ⟨whole, more, rfl, exactly⟩ | ⟨whole, other, more, rfl, after, before⟩
        · exact .inl ⟨letter :: whole, more, rfl, by rw [length]; omega⟩
        · exact .inr ⟨letter :: whole, other, more, rfl, by rw [length]; omega, by rw [length]; omega⟩

/-! ### Broken letters -/

/-- A letter that lacks its end. -/
structure Broken (part : Octets) : Prop where
  some : part ≠ []
  cut : ∃ letter, part <+: String.utf8EncodeChar letter ∧ part ≠ String.utf8EncodeChar letter

theorem Broken.starts {part : Octets} (broken : Broken part) :
    ∃ first rest, part = first :: rest ∧ first.IsUTF8FirstByte ∧
      ∀ octet ∈ rest, ¬ octet.IsUTF8FirstByte := by
  obtain ⟨letter, ⟨tail, whole⟩, _⟩ := broken.cut
  obtain ⟨first, rest, split, begins, inside⟩ := encodeChar_eq_cons letter
  cases part with
  | nil => exact absurd rfl broken.some
  | cons head more =>
      rw [split, List.cons_append, List.cons.injEq] at whole
      refine ⟨head, more, rfl, whole.1 ▸ begins, ?_⟩
      intro octet member
      apply inside octet
      rw [← whole.2]
      exact List.mem_append_left _ member

theorem Broken.lastLetter? {part : Octets} (broken : Broken part) (octets : Octets) :
    lastLetter? (octets ++ part) = none := by
  rw [Option.eq_none_iff_forall_ne_some]
  intro letter found
  have ends := lastLetter?_eq_some.mp found
  obtain ⟨head, tail, split, begins, inside⟩ := encodeChar_eq_cons letter
  obtain ⟨first, rest, whole, starts, behind⟩ := broken.starts
  rcases Nat.le_total (String.utf8EncodeChar letter).length part.length with shorter | longer
  · obtain ⟨before, together⟩ := List.suffix_of_suffix_length_le ends (List.suffix_append _ _) shorter
    cases before with
    | nil =>
        obtain ⟨other, front, different⟩ := broken.cut
        rw [List.nil_append] at together
        rw [← together] at front different
        rw [eq_of_encodeChar_front front List.prefix_rfl] at different
        exact different rfl
    | cons octet before =>
        rw [whole, split, List.cons_append, List.cons.injEq] at together
        apply behind head _ begins
        rw [← together.2]
        exact List.mem_append_right _ List.mem_cons_self
  · obtain ⟨before, together⟩ := List.suffix_of_suffix_length_le (List.suffix_append octets part) ends
      longer
    cases before with
    | nil =>
        obtain ⟨other, front, different⟩ := broken.cut
        rw [List.nil_append] at together
        rw [together] at front different
        rw [eq_of_encodeChar_front front List.prefix_rfl] at different
        exact different rfl
    | cons octet before =>
        rw [split, whole, List.cons_append, List.cons.injEq] at together
        apply inside first _ starts
        rw [← together.2]
        exact List.mem_append_right _ List.mem_cons_self

private theorem encode_eq_append {letters before : List Char} {octets : Octets}
    (same : encode letters = encode before ++ octets) :
    ∃ more, letters = before ++ more ∧ encode more = octets := by
  induction before generalizing letters with
  | nil => exact ⟨letters, rfl, same⟩
  | cons first rest ih =>
      rw [encode_cons, List.append_assoc] at same
      cases letters with
      | nil => exact absurd (List.append_eq_nil_iff.mp same.symm).1 (encodeChar_ne_nil first)
      | cons letter letters =>
          rw [encode_cons] at same
          have equal : letter = first :=
            eq_of_encodeChar_front (List.prefix_append _ (encode letters)) ⟨_, same.symm⟩
          subst equal
          obtain ⟨more, rfl, rest⟩ := ih (List.append_cancel_left same)
          exact ⟨more, rfl, rest⟩

/-- Nothing that starts a letter mends a broken one. -/
theorem Broken.encode_ne {part : Octets} (broken : Broken part) {octet : UInt8}
    (starts : octet.IsUTF8FirstByte) (letters before : List Char) (rest : Octets) :
    encode letters ≠ encode before ++ (part ++ octet :: rest) := by
  intro same
  obtain ⟨more, _, text⟩ := encode_eq_append same
  cases more with
  | nil => exact absurd (List.append_eq_nil_iff.mp text.symm).1 broken.some
  | cons letter more =>
      have front : String.utf8EncodeChar letter <+: part ++ octet :: rest := ⟨encode more, text⟩
      rcases Nat.lt_or_ge part.length (String.utf8EncodeChar letter).length with longer | shorter
      · -- The letter would go on with an octet that starts one.
        obtain ⟨tail, whole⟩ := List.prefix_of_prefix_length_le (List.prefix_append part _) front
          longer.le
        obtain ⟨first, inner, split, _, inside⟩ := encodeChar_eq_cons letter
        obtain ⟨head, others, parts, _, _⟩ := broken.starts
        cases tail with
        | nil =>
            rw [List.append_nil] at whole
            rw [whole] at longer
            exact absurd longer (lt_irrefl _)
        | cons next tail =>
            have octetNext : next = octet := by
              have again := front
              rw [← whole, List.prefix_append_right_inj, List.cons_prefix_cons] at again
              exact again.1
            subst octetNext
            apply inside next _ starts
            rw [split, parts, List.cons_append, List.cons.injEq] at whole
            rw [← whole.2]
            exact List.mem_append_right _ List.mem_cons_self
      · obtain ⟨other, longer, different⟩ := broken.cut
        have inner := List.prefix_of_prefix_length_le front (List.prefix_append part _) shorter
        have equal := eq_of_encodeChar_front (inner.trans longer) List.prefix_rfl
        subst equal
        exact different (longer.eq_of_length (le_antisymm longer.length_le shorter))

theorem broken_take {letter : Char} {size : Nat} (positive : 0 < size)
    (short : size < letter.utf8Size) : Broken ((String.utf8EncodeChar letter).take size) := by
  have length : ((String.utf8EncodeChar letter).take size).length = size := by
    rw [List.length_take, String.length_utf8EncodeChar, Nat.min_eq_left short.le]
  refine
    { some := ?_
      cut := ⟨letter, List.take_prefix _ _, ?_⟩ }
  · intro none
    rw [none, List.length_nil] at length
    omega
  · intro whole
    rw [whole, String.length_utf8EncodeChar] at length
    omega

end Utf8
