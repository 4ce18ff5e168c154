/-
Amounts at the Alipay boundary.

What the program sends is read back.  What it receives is converted exactly as
long as the amount in fen fits 64 bits; a larger one keeps its low 64 bits.
-/

import Mall.Alipay

namespace Mall

open Transactional

/-- What `decimal.NewFromString` promises: a numeral that it accepts has its
value, and it accepts every numeral without an exponent whose digits behind the
point can be counted in 32 bits. -/
structure ReadsDecimals (newFromString : String → Option ℚ) : Prop where
  exact : ∀ text numeral value, Decimal.scientific text.toList = some numeral →
    newFromString text = some value → value = Decimal.scaled numeral
  plain : ∀ text numeral, Decimal.scientific text.toList = some numeral →
    (∀ letter ∈ text.toList, Decimal.exponentMark letter = false) → -2 ^ 31 ≤ numeral.2 →
    (newFromString text).isSome = true

def FitsFen (fen : ℚ) : Prop :=
  -2 ^ 63 ≤ fen ∧ fen < 2 ^ 63

/-- The conversion of one text is right: an accepted amount is exact, and what is
no number of fen is rejected. -/
structure ConvertsExactly (newFromString : String → Option ℚ) (text : String) (yuan : ℚ) :
    Prop where
  exact : ∀ fen, yuanToFen newFromString text = .ok fen → (fen : ℚ) = 100 * yuan
  rejects : ¬ ((100 * yuan).den = 1 ∧ FitsFen (100 * yuan)) →
    ∃ fault, yuanToFen newFromString text = .error fault

/-! ### Decimals -/

private theorem truncate_of_whole {value : ℚ} (whole : value.den = 1) :
    Decimal.truncate value = value := by
  unfold Decimal.truncate
  split
  · have opposite : (-value).den = 1 := by rw [Rat.den_neg_eq_den]; exact whole
    rw [Decimal.eq_floor_of_den opposite, neg_neg]
  · exact Decimal.eq_floor_of_den whole

private theorem whole_of_truncate {value : ℚ} (same : value = Decimal.truncate value) :
    value.den = 1 := by
  rw [same]
  unfold Decimal.truncate
  split
  · rw [Rat.den_neg_eq_den, Rat.den_intCast]
  · exact Rat.den_intCast _

private theorem yuanToFen_eq {newFromString : String → Option ℚ} {text : String} {yuan : ℚ}
    (read : newFromString text = some yuan) :
    ((100 * yuan).den = 1 ∧
        yuanToFen newFromString text = .ok ((100 * yuan).num.bmod (2 ^ 64))) ∨
      ((100 * yuan).den ≠ 1 ∧
        yuanToFen newFromString text = .error (Fault.plain "amount has sub-minor precision")) := by
  have shifted : Decimal.shift yuan 2 = 100 * yuan := by
    have scale : ((10 ^ (2 : Int).toNat : Nat) : ℚ) = 100 := by norm_num [Int.toNat]
    rw [Decimal.shift, if_pos (by decide), mul_comm, scale]
  unfold yuanToFen
  rw [read, found_some, ok_bind]
  simp only [shifted]
  by_cases whole : (100 * yuan).den = 1
  · refine Or.inl ⟨whole, ?_⟩
    rw [require_of (truncate_of_whole whole).symm, ok_bind, Decimal.intPart,
      truncate_of_whole whole]
    rfl
  · refine Or.inr ⟨whole, ?_⟩
    rw [require_of_not (fun same => whole (whole_of_truncate same)), error_bind]

private theorem bmod_eq_iff_fits {fen : Int} : fen.bmod (2 ^ 64) = fen ↔ FitsFen fen := by
  unfold FitsFen
  constructor
  · intro same
    have least : -2 ^ 63 ≤ fen := by
      rw [← same]
      have := Int.le_bmod (x := fen) (m := 2 ^ 64) (by decide)
      omega
    have most : fen < 2 ^ 63 := by
      rw [← same]
      have := Int.bmod_lt (x := fen) (m := 2 ^ 64) (by decide)
      omega
    exact ⟨by exact_mod_cast least, by exact_mod_cast most⟩
  · rintro ⟨least, most⟩
    have leastInt : -2 ^ 63 ≤ fen := by exact_mod_cast least
    have mostInt : fen < 2 ^ 63 := by exact_mod_cast most
    exact Int.bmod_eq_of_le_mul_two (by omega) (by omega)

/-! ### Both directions -/

private theorem round_hundredths {fen : Int} (nonnegative : 0 ≤ fen) :
    Decimal.round ((fen : ℚ) / 100) 2 = (fen : ℚ) / 100 := by
  have positive : ¬ ((fen : ℚ) / 100 < 0) := by
    have cast : (0 : ℚ) ≤ fen := by exact_mod_cast nonnegative
    exact not_lt.mpr (by positivity)
  have scaled : (fen : ℚ) / 100 * ((10 ^ 2 : Nat) : ℚ) + 1 / 2 = (fen : ℚ) + 1 / 2 := by
    push_cast
    ring
  have floored : ((fen : ℚ) + 1 / 2).floor = fen := by
    have most : (((fen : ℚ) + 1 / 2).floor : ℚ) < ((fen + 1 : Int) : ℚ) := by
      have below := Rat.floor_le ((fen : ℚ) + 1 / 2)
      push_cast
      linarith
    have least : fen ≤ ((fen : ℚ) + 1 / 2).floor := Rat.le_floor_iff.mpr (by linarith)
    have mostInt : ((fen : ℚ) + 1 / 2).floor < fen + 1 := by exact_mod_cast most
    omega
  unfold Decimal.round
  simp only [if_neg positive, scaled, floored]
  norm_num

private theorem fenToYuan_letters {fen : Nat} :
    (fenToYuan fen).toList =
      Nat.toDigits 10 (fen / 10 ^ 2) ++ '.' :: Decimal.fraction 2 (fen % 10 ^ 2) := by
  have shifted : Decimal.shift ((fen : Int) : ℚ) (-2) = ((fen : Int) : ℚ) / 100 := by
    have scale : ((10 ^ (2 : Int).toNat : Nat) : ℚ) = 100 := by norm_num [Int.toNat]
    rw [Decimal.shift, if_neg (by decide), neg_neg, scale]
  have units : (((fen : Int) : ℚ) / 100 * ((10 ^ 2 : Nat) : ℚ)).num = fen := by
    have whole : ((fen : Int) : ℚ) / 100 * ((10 ^ 2 : Nat) : ℚ) = ((fen : Int) : ℚ) := by
      push_cast
      ring
    rw [whole, Rat.num_intCast]
  unfold fenToYuan Decimal.stringFixed
  rw [shifted, round_hundredths (Int.natCast_nonneg fen), units]
  simp

private theorem fenToYuan_scientific (fen : Nat) :
    Decimal.scientific (fenToYuan fen).toList = some ((fen : Int), -2) := by
  have digits := Nat.div_add_mod fen (10 ^ 2)
  rw [fenToYuan_letters, Decimal.scientific_fixed (Nat.mod_lt _ (by decide)), mul_comm, digits]
  rfl

private theorem fenToYuan_unmarked (fen : Nat) :
    ∀ letter ∈ (fenToYuan fen).toList, Decimal.exponentMark letter = false := by
  intro letter member
  rw [fenToYuan_letters] at member
  rcases List.mem_append.mp member with listed | later
  · exact Decimal.exponentMark_of_isDigit (Decimal.isDigit_of_mem listed)
  · rcases List.mem_cons.mp later with rfl | listed
    · rfl
    · exact Decimal.exponentMark_of_isDigit
        (List.all_eq_true.mp (Decimal.fraction_isDigit (Nat.mod_lt _ (by decide))) letter listed)

private theorem hundred_scaled (digits : Int) : 100 * Decimal.scaled (digits, -2) = digits := by
  rw [Decimal.scaled, zpow_neg]
  norm_num
  ring

private theorem yuanToFen_fenToYuan {newFromString : String → Option ℚ}
    (reads : ReadsDecimals newFromString) {fen : Int} (nonnegative : 0 ≤ fen)
    (fits : fen ≤ maxInt64) : yuanToFen newFromString (fenToYuan fen) = .ok fen := by
  obtain ⟨natural, rfl⟩ := Int.eq_ofNat_of_zero_le nonnegative
  have numeral := fenToYuan_scientific natural
  obtain ⟨yuan, read⟩ := Option.isSome_iff_exists.mp
    (reads.plain _ _ numeral (fenToYuan_unmarked natural) (by change (-2 ^ 31 : Int) ≤ -2; decide))
  have value : 100 * yuan = ((natural : Int) : ℚ) := by
    rw [reads.exact _ _ _ numeral read]
    exact hundred_scaled _
  rcases yuanToFen_eq read with ⟨_, result⟩ | ⟨broken, _⟩
  · rw [result, value, Rat.num_intCast]
    have small : (natural : Int) ≤ 9223372036854775807 := fits
    rw [Int.bmod_eq_of_le_mul_two (by omega) (by omega)]
  · rw [value] at broken
    exact absurd (Rat.den_intCast _) broken

/-- The conversion of a numeral is right exactly when its whole fen fit 64 bits. -/
theorem convertsExactly_iff {newFromString : String → Option ℚ} {text : String} {yuan : ℚ}
    (read : newFromString text = some yuan) :
    ConvertsExactly newFromString text yuan ↔
      ((100 * yuan).den = 1 → FitsFen (100 * yuan)) := by
  rcases yuanToFen_eq read with ⟨whole, result⟩ | ⟨broken, result⟩
  · have number : ((100 * yuan).num : ℚ) = 100 * yuan := (Rat.den_eq_one_iff _).mp whole
    constructor
    · intro converts _
      have same := converts.exact _ result
      rw [← number] at same ⊢
      exact bmod_eq_iff_fits.mp (by exact_mod_cast same)
    · intro condition
      have fits := condition whole
      constructor
      · intro fen returned
        rw [result] at returned
        rw [← Except.ok.inj returned, bmod_eq_iff_fits.mpr (by rw [number]; exact fits), number]
      · intro refused
        exact absurd ⟨whole, fits⟩ refused
  · constructor
    · intro _ whole
      exact absurd whole broken
    · intro _
      constructor
      · intro fen returned
        rw [result] at returned
        cases returned
      · intro _
        exact ⟨_, result⟩

/-- Amounts that are sent come back, and a received numeral is converted exactly,
or rejected where it is no number of fen, precisely when its whole fen fit 64
bits. -/
theorem alipay_amounts_exact_iff {newFromString : String → Option ℚ}
    (reads : ReadsDecimals newFromString) :
    (∀ fen : Int, 0 ≤ fen → fen ≤ maxInt64 →
        yuanToFen newFromString (fenToYuan fen) = .ok fen) ∧
      ∀ text numeral, Decimal.scientific text.toList = some numeral →
        (newFromString text).isSome = true →
        (ConvertsExactly newFromString text (Decimal.scaled numeral) ↔
          ((100 * Decimal.scaled numeral).den = 1 → FitsFen (100 * Decimal.scaled numeral))) := by
  refine ⟨fun fen nonnegative fits => yuanToFen_fenToYuan reads nonnegative fits, ?_⟩
  intro text numeral written accepted
  obtain ⟨yuan, read⟩ := Option.isSome_iff_exists.mp accepted
  have value := reads.exact text numeral yuan written read
  subst value
  exact convertsExactly_iff read

def readDecimal (text : String) : Option ℚ :=
  (Decimal.scientific text.toList).map Decimal.scaled

private theorem readDecimal_reads : ReadsDecimals readDecimal where
  exact := by
    intro text numeral value written read
    rw [readDecimal, written, Option.map_some] at read
    exact (Option.some.inj read).symm
  plain := by
    intro text numeral written _ _
    rw [readDecimal, written]
    rfl

theorem alipay_amounts_exact_iff_readDecimal :
    yuanToFen readDecimal (fenToYuan 1050) = .ok 1050 ∧
      ConvertsExactly readDecimal "1.05e1" (Decimal.scaled (105, -1)) := by
  have both := alipay_amounts_exact_iff readDecimal_reads
  refine ⟨both.1 1050 (by decide) (by decide), ?_⟩
  refine (both.2 "1.05e1" (105, -1) (by decide +kernel) (by decide +kernel)).mpr ?_
  intro _
  norm_num [FitsFen, Decimal.scaled]

/-- An amount of more than 64 bits of fen is taken for one yuan. -/
theorem huge_amount_taken_for_one_yuan :
    (∀ newFromString : String → Option ℚ, ReadsDecimals newFromString →
        yuanToFen newFromString "184467440737095517.16" = .ok 100) ∧
      Decimal.scientific "184467440737095517.16".toList = some (18446744073709551716, -2) := by
  have numeral : Decimal.scientific "184467440737095517.16".toList =
      some (18446744073709551716, -2) := by
    decide +kernel
  refine ⟨?_, numeral⟩
  intro newFromString reads
  have unmarked (letter : Char) (member : letter ∈ "184467440737095517.16".toList) :
      Decimal.exponentMark letter = false :=
    Bool.eq_false_of_not_eq_true (List.any_eq_false.mp (by decide +kernel) letter member)
  obtain ⟨yuan, read⟩ := Option.isSome_iff_exists.mp
    (reads.plain _ _ numeral unmarked (by decide))
  have value : 100 * yuan = ((18446744073709551716 : Int) : ℚ) := by
    rw [reads.exact _ _ _ numeral read]
    exact hundred_scaled _
  rcases yuanToFen_eq read with ⟨_, result⟩ | ⟨broken, _⟩
  · rw [result, value, Rat.num_intCast]
    decide
  · rw [value] at broken
    exact absurd (Rat.den_intCast _) broken

end Mall
