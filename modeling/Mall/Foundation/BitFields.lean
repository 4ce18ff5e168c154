/-
Fields packed into a machine word.

A field is shifted above the ones below it, so no bit of the two meets and the
word is their weighted sum.  Reading a field back is a shift and a mask.
-/

import Mathlib.Data.Int.Order.Basic
import Mathlib.Data.Nat.Bitwise
import Mathlib.Tactic.NormNum

namespace BitFields

variable {width : Nat}

theorem toNat_shiftLeft_or (high low : BitVec width) {shift : Nat}
    (below : low.toNat < 2 ^ shift) :
    (high <<< shift ||| low).toNat = (high.toNat * 2 ^ shift + low.toNat) % 2 ^ width := by
  have joined : high.toNat * 2 ^ shift + low.toNat = high.toNat <<< shift ||| low.toNat := by
    rw [← Nat.shiftLeft_eq]
    exact Nat.shiftLeft_add_eq_or_of_lt below high.toNat
  rw [joined, BitVec.toNat_or, BitVec.toNat_shiftLeft, Nat.or_mod_two_pow,
    Nat.mod_eq_of_lt low.isLt]

/-- The word as a signed number, when the upper field leaves room for the lower. -/
theorem toInt_shiftLeft_or (high low : BitVec width) {shift : Nat}
    (below : low.toNat < 2 ^ shift) (least : -2 ^ width ≤ 2 * (high.toInt * 2 ^ shift))
    (most : 2 * (high.toInt * 2 ^ shift + low.toNat) < 2 ^ width) :
    (high <<< shift ||| low).toInt = high.toInt * 2 ^ shift + low.toNat := by
  have residue : (high.toNat : Int) = high.toInt % (2 ^ width : Nat) := by
    rw [BitVec.toInt_eq_toNat_bmod, Int.bmod_emod, Int.emod_eq_of_lt (Int.natCast_nonneg _)]
    exact_mod_cast high.isLt
  rw [BitVec.toInt_eq_toNat_bmod, toNat_shiftLeft_or high low below, Int.natCast_mod,
    Int.emod_bmod]
  push_cast
  rw [residue, ← Int.emod_bmod, Int.add_emod, Int.mul_emod, Int.emod_emod, ← Int.mul_emod,
    ← Int.add_emod, Int.emod_bmod]
  apply Int.bmod_eq_of_le_mul_two
  · push_cast
    omega
  · push_cast
    omega

theorem toInt_ofInt {value : Int} (positive : 0 < width) (least : -2 ^ (width - 1) ≤ value)
    (most : value < 2 ^ (width - 1)) : (BitVec.ofInt width value).toInt = value := by
  rw [BitVec.toInt_ofInt]
  have split : (2 : Int) ^ width = 2 * 2 ^ (width - 1) := by
    rw [← pow_succ', Nat.sub_add_cancel positive]
  apply Int.bmod_eq_of_le_mul_two
  · push_cast
    omega
  · push_cast
    omega

theorem toNat_ofInt {value : Int} (least : 0 ≤ value) (most : value < 2 ^ width) :
    ((BitVec.ofInt width value).toNat : Int) = value := by
  rw [BitVec.toNat_ofInt]
  have small : value % (2 ^ width : Nat) = value := by
    apply Int.emod_eq_of_lt least
    exact_mod_cast most
  rw [small, Int.toNat_of_nonneg least]

theorem toInt_sshiftRight (word : BitVec width) (shift : Nat) :
    (word.sshiftRight shift).toInt = word.toInt / 2 ^ shift := by
  rw [BitVec.toInt_sshiftRight, Int.shiftRight_eq_div_pow]
  norm_num

theorem toNat_and_ones (word mask : BitVec width) {bits : Nat}
    (ones : mask.toNat = 2 ^ bits - 1) :
    (word &&& mask).toNat = word.toNat % 2 ^ bits := by
  rw [BitVec.toNat_and, ones, Nat.and_two_pow_sub_one_eq_mod]

theorem toNat_mod_eq_toInt_emod (word : BitVec width) {bits : Nat} (fits : bits ≤ width) :
    ((word.toNat % 2 ^ bits : Nat) : Int) = word.toInt % 2 ^ bits := by
  have divides : ((2 ^ bits : Nat) : Int) ∣ ((2 ^ width : Nat) : Int) := by
    exact_mod_cast Nat.pow_dvd_pow 2 fits
  rw [BitVec.toInt_eq_toNat_bmod]
  push_cast
  have whole : ((word.toNat : Int).bmod (2 ^ width)) % 2 ^ width = (word.toNat : Int) % 2 ^ width :=
    Int.bmod_emod
  calc (word.toNat : Int) % 2 ^ bits
      = ((word.toNat : Int) % 2 ^ width) % 2 ^ bits := by
        rw [Int.emod_emod_of_dvd]
        exact_mod_cast divides
    _ = (((word.toNat : Int).bmod (2 ^ width)) % 2 ^ width) % 2 ^ bits := by rw [whole]
    _ = ((word.toNat : Int).bmod (2 ^ width)) % 2 ^ bits := by
        rw [Int.emod_emod_of_dvd]
        exact_mod_cast divides

theorem two_pow_or_of_testBit {value position : Nat} (set : value.testBit position = true) :
    2 ^ position ||| value = value := by
  apply Nat.eq_of_testBit_eq
  intro index
  rw [Nat.testBit_or, Nat.testBit_two_pow]
  by_cases same : position = index
  · subst same
    rw [set, Bool.or_true]
  · rw [decide_eq_false same, Bool.false_or]

end BitFields
