/-
Decimal numerals inside text.

A numeral that is followed by a character of another kind can be read back, and
so can the text after it.  A finite decimal is read back from its shortest text.
-/

import Mathlib.Data.Int.Order.Basic
import Mathlib.Data.List.TakeWhile
import Mathlib.Data.Rat.Floor
import Mathlib.Tactic.FieldSimp
import Mathlib.Tactic.IntervalCases
import Mathlib.Tactic.Ring

namespace Decimal

def numeral (letter : Char) : Bool :=
  letter.isDigit || letter == '-'

def digits (value : Int) : List Char :=
  value.repr.toList

theorem digits_of_nonneg {value : Int} (nonnegative : 0 ≤ value) :
    digits value = Nat.toDigits 10 value.toNat := by
  rw [digits, Int.repr_eq_if, if_pos nonnegative, Nat.repr_eq_ofList_toDigits,
    String.toList_ofList]

theorem digits_of_neg {value : Int} (negative : value < 0) :
    digits value = '-' :: Nat.toDigits 10 (-value).toNat := by
  rw [digits, Int.repr_eq_if, if_neg (not_le.mpr negative), String.toList_append,
    Nat.repr_eq_ofList_toDigits, String.toList_ofList, String.toList_ofList]
  rfl

theorem isDigit_of_mem {magnitude : Nat} {letter : Char}
    (member : letter ∈ Nat.toDigits 10 magnitude) : letter.isDigit = true :=
  Nat.isDigit_of_mem_toDigits (by decide) (by decide) member

private theorem toDigits_injective {left right : Nat}
    (same : Nat.toDigits 10 left = Nat.toDigits 10 right) : left = right := by
  have read := congrArg (fun letters => Nat.ofDigitChars 10 letters 0) same
  rwa [Nat.ofDigitChars_ten_toDigits, Nat.ofDigitChars_ten_toDigits] at read

private theorem digits_ne_of_signs {left right : Int} (nonnegative : 0 ≤ left)
    (negative : right < 0) :
    digits left ≠ digits right := by
  intro same
  rw [digits_of_nonneg nonnegative, digits_of_neg negative] at same
  have sign : '-' ∈ Nat.toDigits 10 left.toNat := by
    rw [same]
    exact List.mem_cons_self
  exact absurd (isDigit_of_mem sign) (by decide)

theorem digits_injective {left right : Int} (same : digits left = digits right) :
    left = right := by
  rcases le_or_gt 0 left with leftSign | leftSign <;>
    rcases le_or_gt 0 right with rightSign | rightSign
  · rw [digits_of_nonneg leftSign, digits_of_nonneg rightSign] at same
    have magnitude := toDigits_injective same
    omega
  · exact absurd same (digits_ne_of_signs leftSign rightSign)
  · exact absurd same.symm (digits_ne_of_signs rightSign leftSign)
  · rw [digits_of_neg leftSign, digits_of_neg rightSign] at same
    have magnitude := toDigits_injective (List.cons.inj same).2
    omega

theorem digits_inj {left right : Int} : digits left = digits right ↔ left = right :=
  ⟨digits_injective, congrArg digits⟩

theorem numeral_of_mem_digits {value : Int} {letter : Char} (member : letter ∈ digits value) :
    numeral letter = true := by
  rw [numeral, Bool.or_eq_true]
  rcases le_or_gt 0 value with sign | sign
  · rw [digits_of_nonneg sign] at member
    exact Or.inl (isDigit_of_mem member)
  · rw [digits_of_neg sign] at member
    rcases List.mem_cons.mp member with rfl | listed
    · exact Or.inr rfl
    · exact Or.inl (isDigit_of_mem listed)

/-- Two texts that agree, cut where their letters first stop being of a kind. -/
theorem append_inj_of_stop {kind : Char → Bool} {left right rest others : List Char}
    {stop halt : Char} (leftKind : ∀ letter ∈ left, kind letter = true)
    (rightKind : ∀ letter ∈ right, kind letter = true) (stops : kind stop = false)
    (halts : kind halt = false) (same : left ++ stop :: rest = right ++ halt :: others) :
    left = right ∧ stop :: rest = halt :: others := by
  have cut : left = right := by
    have front := congrArg (List.takeWhile kind) same
    rw [List.takeWhile_append_of_pos leftKind, List.takeWhile_append_of_pos rightKind,
      List.takeWhile_cons_of_neg (by rw [stops]; nofun),
      List.takeWhile_cons_of_neg (by rw [halts]; nofun), List.append_nil, List.append_nil] at front
    exact front
  rw [cut] at same
  exact ⟨cut, List.append_cancel_left same⟩

private theorem digits_label_inj {left right : Int} {label rest others : List Char}
    (stops : label.head?.map numeral = some false)
    (same : digits left ++ (label ++ rest) = digits right ++ (label ++ others)) :
    left = right ∧ rest = others := by
  cases label with
  | nil => cases stops
  | cons stop tail =>
      have halts : numeral stop = false := Option.some.inj stops
      obtain ⟨numbers, tails⟩ := append_inj_of_stop (fun _ => numeral_of_mem_digits)
        (fun _ => numeral_of_mem_digits) halts halts same
      exact ⟨digits_injective numbers, List.append_cancel_left (List.cons.inj tails).2⟩

theorem two_digits_inj {opening label closing rest others : List Char}
    {first second third fourth : Int} (stops : label.head?.map numeral = some false)
    (ends : closing.head?.map numeral = some false)
    (same : opening ++ digits first ++ label ++ digits second ++ closing ++ rest =
      opening ++ digits third ++ label ++ digits fourth ++ closing ++ others) :
    first = third ∧ second = fourth ∧ rest = others := by
  simp only [List.append_assoc] at same
  obtain ⟨left, same⟩ := digits_label_inj stops (List.append_cancel_left same)
  obtain ⟨right, tails⟩ := digits_label_inj ends same
  exact ⟨left, right, tails⟩

/-! ### Finite decimals -/

def fraction : Nat → Nat → List Char
  | 0, _ => []
  | places + 1, rest => Nat.digitChar (rest / 10 ^ places) :: fraction places (rest % 10 ^ places)

def readFraction : List Char → ℚ
  | [] => 0
  | letter :: rest => ((letter.toNat - 48 : Nat) + readFraction rest) / 10

private theorem digitChar_read {digit : Nat} (small : digit < 10) :
    (Nat.digitChar digit).isDigit = true ∧ (Nat.digitChar digit).toNat - 48 = digit := by
  interval_cases digit <;> decide

theorem fraction_isDigit {places rest : Nat} (small : rest < 10 ^ places) :
    (fraction places rest).all Char.isDigit = true := by
  induction places generalizing rest with
  | zero => rfl
  | succ places ih =>
      have first : rest / 10 ^ places < 10 := by
        rw [Nat.div_lt_iff_lt_mul (by positivity), mul_comm, ← pow_succ]
        exact small
      rw [fraction, List.all_cons, (digitChar_read first).1, Bool.true_and]
      exact ih (Nat.mod_lt _ (by positivity))

private theorem readFraction_fraction {places rest : Nat} (small : rest < 10 ^ places) :
    readFraction (fraction places rest) = rest / 10 ^ places := by
  induction places generalizing rest with
  | zero =>
      have none : rest = 0 := by
        rw [pow_zero] at small
        omega
      rw [none, fraction, readFraction]
      simp
  | succ places ih =>
      have first : rest / 10 ^ places < 10 := by
        rw [Nat.div_lt_iff_lt_mul (by positivity), mul_comm, ← pow_succ]
        exact small
      have whole : ((10 ^ places : Nat) : ℚ) * (rest / 10 ^ places : Nat) + (rest % 10 ^ places : Nat) =
          rest := by
        exact_mod_cast Nat.div_add_mod rest (10 ^ places)
      rw [fraction, readFraction, (digitChar_read first).2, ih (Nat.mod_lt _ (by positivity)),
        ← whole]
      push_cast
      field_simp
      ring

/-- The least number of digits behind the point that spells the value out. -/
def places (value : ℚ) : Nat :=
  ((List.range (value.den + 1)).find? (fun count => decide ((value * 10 ^ count).den = 1))).getD 0

def unsignedText (value : ℚ) : List Char :=
  Nat.toDigits 10 value.floor.toNat ++
    if places value = 0 then []
    else '.' :: fraction (places value)
      ((value - value.floor) * 10 ^ places value).floor.toNat

/-- The text without needless zeros behind the point. -/
def text (value : ℚ) : List Char :=
  if value < 0 then '-' :: unsignedText (-value) else unsignedText value

def readUnsigned (letters : List Char) : Option ℚ :=
  match letters.dropWhile Char.isDigit with
  | [] => if letters = [] then none else some (Nat.ofDigitChars 10 letters 0 : Nat)
  | stop :: tail =>
      if stop = '.' ∧ tail.all Char.isDigit = true then
        some ((Nat.ofDigitChars 10 (letters.takeWhile Char.isDigit) 0 : Nat) + readFraction tail)
      else none

def read : List Char → Option ℚ
  | '-' :: letters => (readUnsigned letters).map (fun value => -value)
  | letters => readUnsigned letters

def Finite (value : ℚ) : Prop :=
  ∃ count ≤ value.den, (value * 10 ^ count).den = 1

theorem Finite.places {value : ℚ} (finite : Finite value) :
    (value * 10 ^ places value).den = 1 := by
  obtain ⟨count, bound, whole⟩ := finite
  have spelled : ((List.range (value.den + 1)).find?
      (fun count => decide ((value * 10 ^ count).den = 1))).isSome = true := by
    rw [List.find?_isSome]
    exact ⟨count, List.mem_range.mpr (Nat.lt_succ_of_le bound), decide_eq_true whole⟩
  obtain ⟨least, found⟩ := Option.isSome_iff_exists.mp spelled
  rw [Decimal.places, found, Option.getD_some]
  exact of_decide_eq_true
    (List.find?_some (p := fun count => decide ((value * 10 ^ count).den = 1)) found)

theorem Finite.neg {value : ℚ} (finite : Finite value) : Finite (-value) := by
  obtain ⟨count, bound, whole⟩ := finite
  refine ⟨count, bound, ?_⟩
  rw [neg_mul, Rat.den_neg_eq_den]
  exact whole

theorem eq_floor_of_den {value : ℚ} (whole : value.den = 1) : (value.floor : ℚ) = value := by
  have cast : (value.num : ℚ) = value := Rat.den_eq_one_iff value |>.mp whole
  rw [← cast]
  exact congrArg _ (Rat.floor_intCast value.num)

theorem Finite.rest {value : ℚ} (finite : Finite value) :
    (((value - value.floor) * 10 ^ Decimal.places value).floor.toNat : ℚ) =
        (value - value.floor) * 10 ^ Decimal.places value ∧
      ((value - value.floor) * 10 ^ Decimal.places value).floor.toNat <
        10 ^ Decimal.places value := by
  have whole := eq_floor_of_den finite.places
  have below : (value.floor : ℚ) ≤ value := Rat.floor_le value
  have above : value < value.floor + 1 := sub_lt_iff_lt_add.mp Rat.lt_floor
  have integral : (((value * 10 ^ Decimal.places value).floor -
      value.floor * 10 ^ Decimal.places value : Int) : ℚ) =
        (value - value.floor) * 10 ^ Decimal.places value := by
    push_cast
    rw [whole]
    ring
  have floored : (((value - value.floor) * 10 ^ Decimal.places value).floor : ℚ) =
      (value - value.floor) * 10 ^ Decimal.places value := by
    rw [← integral]
    exact congrArg _ (Rat.floor_intCast _)
  have nonnegative : 0 ≤ ((value - value.floor) * 10 ^ Decimal.places value).floor := by
    have front : 0 ≤ value - value.floor := by linarith
    have scale : (0 : ℚ) ≤ 10 ^ Decimal.places value := by positivity
    exact Rat.le_floor_iff.mpr (mul_nonneg front scale)
  have exact : (((value - value.floor) * 10 ^ Decimal.places value).floor.toNat : ℚ) =
      (value - value.floor) * 10 ^ Decimal.places value := by
    rw [← floored]
    exact_mod_cast Int.toNat_of_nonneg nonnegative
  refine ⟨exact, ?_⟩
  have small : (((value - value.floor) * 10 ^ Decimal.places value).floor.toNat : ℚ) <
      ((10 ^ Decimal.places value : Nat) : ℚ) := by
    rw [exact]
    push_cast
    have scale : (0 : ℚ) < 10 ^ Decimal.places value := by positivity
    nlinarith
  exact_mod_cast small

private theorem readUnsigned_unsignedText {value : ℚ} (finite : Finite value)
    (nonnegative : 0 ≤ value) :
    readUnsigned (unsignedText value) = some value := by
  have front : 0 ≤ value.floor := Rat.le_floor_iff.mpr nonnegative
  have counted : ((value.floor.toNat : Nat) : ℚ) = value.floor := by
    exact_mod_cast Int.toNat_of_nonneg front
  have letters : ∀ letter ∈ Nat.toDigits 10 value.floor.toNat, letter.isDigit = true :=
    fun _ member => isDigit_of_mem member
  by_cases bare : places value = 0
  · have whole := finite.places
    rw [bare, pow_zero, mul_one] at whole
    rw [unsignedText, if_pos bare, List.append_nil, readUnsigned,
      List.dropWhile_eq_nil_iff.mpr letters]
    dsimp only
    rw [if_neg Nat.toDigits_ne_nil, Nat.ofDigitChars_ten_toDigits, counted, eq_floor_of_den whole]
  · obtain ⟨rest, small⟩ := finite.rest
    have point : ('.' : Char).isDigit = false := by decide
    rw [unsignedText, if_neg bare, readUnsigned, List.dropWhile_append_of_pos letters,
      List.dropWhile_cons_of_neg (by rw [point]; nofun)]
    dsimp only
    rw [if_pos ⟨rfl, fraction_isDigit small⟩, List.takeWhile_append_of_pos letters,
      List.takeWhile_cons_of_neg (by rw [point]; nofun), List.append_nil,
      Nat.ofDigitChars_ten_toDigits, readFraction_fraction small, rest, counted]
    have scale : (10 : ℚ) ^ places value ≠ 0 := by positivity
    rw [mul_div_assoc, div_self scale]
    congr 1
    ring

/-- A finite decimal is read back from its text. -/
theorem read_text {value : ℚ} (finite : Finite value) : read (text value) = some value := by
  by_cases sign : value < 0
  · rw [text, if_pos sign, read, readUnsigned_unsignedText finite.neg (by linarith)]
    simp
  · have plain := readUnsigned_unsignedText finite (not_lt.mp sign)
    rw [text, if_neg sign]
    unfold read
    split
    · next letters same =>
        -- A text without sign starts with a digit.
        have first : '-' ∈ Nat.toDigits 10 value.floor.toNat := by
          cases digits : Nat.toDigits 10 value.floor.toNat with
          | nil => exact absurd digits Nat.toDigits_ne_nil
          | cons head tail =>
              rw [unsignedText, digits, List.cons_append] at same
              rw [(List.cons.inj same).1]
              exact List.mem_cons_self
        exact absurd (isDigit_of_mem first) (by decide)
    · exact plain

/-! ### Scientific notation -/

def signed : List Char → Int × List Char
  | '-' :: letters => (-1, letters)
  | '+' :: letters => (1, letters)
  | letters => (1, letters)

def wholeNumber (letters : List Char) : Option Int :=
  let (sign, magnitude) := signed letters
  if magnitude ≠ [] ∧ magnitude.all Char.isDigit = true then
    some (sign * (Nat.ofDigitChars 10 magnitude 0 : Nat))
  else none

def exponentMark (letter : Char) : Bool :=
  letter == 'e' || letter == 'E'

def mantissa (letters : List Char) : Option (List Char × List Char) :=
  match letters.dropWhile Char.isDigit with
  | [] => some (letters, [])
  | stop :: tail =>
      if stop = '.' ∧ tail.all Char.isDigit = true then some (letters.takeWhile Char.isDigit, tail)
      else none

/-- A numeral as a coefficient and a power of ten. -/
def scientific (letters : List Char) : Option (Int × Int) :=
  let (sign, unsigned) := signed (letters.takeWhile (fun letter => !exponentMark letter))
  match mantissa unsigned, letters.dropWhile (fun letter => !exponentMark letter) with
  | none, _ => none
  | some (whole, behind), rest =>
      if whole ++ behind = [] then none
      else
        let coefficient : Int := sign * (Nat.ofDigitChars 10 (whole ++ behind) 0 : Nat)
        match rest with
        | [] => some (coefficient, -behind.length)
        | _ :: exponent =>
            (wholeNumber exponent).map (fun power => (coefficient, power - behind.length))

def scaled (numeral : Int × Int) : ℚ :=
  numeral.1 * (10 : ℚ) ^ numeral.2

private theorem ofDigitChars_fraction {places rest start : Nat} (small : rest < 10 ^ places) :
    Nat.ofDigitChars 10 (fraction places rest) start = start * 10 ^ places + rest := by
  induction places generalizing rest start with
  | zero =>
      rw [pow_zero] at small
      rw [fraction, Nat.ofDigitChars_nil]
      omega
  | succ places ih =>
      have first : rest / 10 ^ places < 10 := by
        rw [Nat.div_lt_iff_lt_mul (by positivity), mul_comm, ← pow_succ]
        exact small
      have whole := Nat.div_add_mod rest (10 ^ places)
      have letter := (digitChar_read first).2
      rw [fraction, Nat.ofDigitChars_cons, ih (Nat.mod_lt _ (by positivity))]
      change (10 * start + ((Nat.digitChar (rest / 10 ^ places)).toNat - 48)) * 10 ^ places +
        rest % 10 ^ places = _
      rw [letter, pow_succ]
      calc (10 * start + rest / 10 ^ places) * 10 ^ places + rest % 10 ^ places
          = start * (10 ^ places * 10) + (10 ^ places * (rest / 10 ^ places) + rest % 10 ^ places) := by
            ring
        _ = start * (10 ^ places * 10) + rest := by rw [whole]

private theorem length_fraction (places rest : Nat) : (fraction places rest).length = places := by
  induction places generalizing rest with
  | zero => rfl
  | succ places ih => rw [fraction, List.length_cons, ih]

theorem exponentMark_of_isDigit {letter : Char} (digit : letter.isDigit = true) :
    exponentMark letter = false := by
  rw [exponentMark, Bool.or_eq_false_iff, beq_eq_false_iff_ne, beq_eq_false_iff_ne]
  constructor
  · rintro rfl
    exact absurd digit (by decide)
  · rintro rfl
    exact absurd digit (by decide)

private theorem signed_of_isDigit {letter : Char} (digit : letter.isDigit = true)
    (rest : List Char) :
    signed (letter :: rest) = (1, letter :: rest) := by
  unfold signed
  split
  · rename_i same
    rw [(List.cons.inj same).1] at digit
    exact absurd digit (by decide)
  · rename_i same
    rw [(List.cons.inj same).1] at digit
    exact absurd digit (by decide)
  · rfl

theorem wholeNumber_digits (value : Int) : wholeNumber (digits value) = some value := by
  have letters : ∀ magnitude : Nat, Nat.toDigits 10 magnitude ≠ [] ∧
      (Nat.toDigits 10 magnitude).all Char.isDigit = true := fun magnitude =>
    ⟨Nat.toDigits_ne_nil, List.all_eq_true.mpr fun _ member => isDigit_of_mem member⟩
  unfold wholeNumber
  rcases le_or_gt 0 value with sign | sign
  · have plain : signed (digits value) = (1, Nat.toDigits 10 value.toNat) := by
      rw [digits_of_nonneg sign]
      cases whole : Nat.toDigits 10 value.toNat with
      | nil => exact absurd whole Nat.toDigits_ne_nil
      | cons head tail => exact signed_of_isDigit (isDigit_of_mem (whole ▸ List.mem_cons_self)) tail
    rw [plain]
    dsimp only
    rw [if_pos (letters _), Nat.ofDigitChars_ten_toDigits, one_mul, Int.toNat_of_nonneg sign]
  · have negative : signed (digits value) = (-1, Nat.toDigits 10 (-value).toNat) := by
      rw [digits_of_neg sign]
      rfl
    rw [negative]
    dsimp only
    rw [if_pos (letters _), Nat.ofDigitChars_ten_toDigits, Int.toNat_of_nonneg (by omega)]
    congr 1
    omega

theorem scientific_fixed {whole places rest : Nat} (small : rest < 10 ^ places) :
    scientific (Nat.toDigits 10 whole ++ '.' :: fraction places rest) =
      some (((whole * 10 ^ places + rest : Nat) : Int), -(places : Int)) := by
  have front : ∀ letter ∈ Nat.toDigits 10 whole, letter.isDigit = true :=
    fun _ member => isDigit_of_mem member
  have back := fraction_isDigit small
  have unmarked : ∀ letter ∈ Nat.toDigits 10 whole ++ '.' :: fraction places rest,
      (!exponentMark letter) = true := by
    intro letter member
    rcases List.mem_append.mp member with listed | later
    · rw [exponentMark_of_isDigit (front letter listed), Bool.not_false]
    · rcases List.mem_cons.mp later with rfl | listed
      · rfl
      · rw [exponentMark_of_isDigit (List.all_eq_true.mp back letter listed), Bool.not_false]
  have sign : signed (Nat.toDigits 10 whole ++ '.' :: fraction places rest) =
      (1, Nat.toDigits 10 whole ++ '.' :: fraction places rest) := by
    cases digits : Nat.toDigits 10 whole with
    | nil => exact absurd digits Nat.toDigits_ne_nil
    | cons head tail =>
        rw [List.cons_append]
        exact signed_of_isDigit (front head (digits ▸ List.mem_cons_self)) _
  have point : ('.' : Char).isDigit = false := by decide
  have cut : mantissa (Nat.toDigits 10 whole ++ '.' :: fraction places rest) =
      some (Nat.toDigits 10 whole, fraction places rest) := by
    rw [mantissa, List.dropWhile_append_of_pos front,
      List.dropWhile_cons_of_neg (by rw [point]; nofun)]
    dsimp only
    rw [if_pos ⟨rfl, back⟩, List.takeWhile_append_of_pos front,
      List.takeWhile_cons_of_neg (by rw [point]; nofun), List.append_nil]
  unfold scientific
  rw [List.takeWhile_eq_self_iff.mpr unmarked, List.dropWhile_eq_nil_iff.mpr unmarked, sign]
  dsimp only
  rw [cut]
  dsimp only
  rw [if_neg (fun none => Nat.toDigits_ne_nil (List.append_eq_nil_iff.mp none).1),
    Nat.ofDigitChars_append, Nat.ofDigitChars_ten_toDigits, ofDigitChars_fraction small,
    length_fraction, one_mul]

end Decimal
