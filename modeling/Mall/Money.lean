/-
Decimal prices and order totals.

A `decimal.Decimal` is an exact rational.  `IntPart` keeps the low 64 bits of
the truncated value, which is why the callers bound it first.
-/

import Mall.Faults
import Mathlib.Algebra.Ring.Int.Defs
import Mathlib.Algebra.Ring.Nat
import Mathlib.Data.Rat.Defs

namespace Mall

def maxInt64 : Int := 9223372036854775807

def maxInt32 : Int := 2147483647

/-- Two's complement in 64 bits, as Go's `int64` arithmetic wraps. -/
def wrap64 (value : Int) : Int :=
  Int.bmod value (2 ^ 64)

theorem wrap64_of_fits {value : Int} (least : -2 ^ 63 ≤ value) (most : value < 2 ^ 63) :
    wrap64 value = value :=
  Int.bmod_eq_of_le_mul_two (by omega) (by omega)

namespace Decimal

def shift (value : ℚ) (places : Int) : ℚ :=
  if 0 ≤ places then value * (10 ^ places.toNat : Nat)
  else value / (10 ^ (-places).toNat : Nat)

def truncate (value : ℚ) : ℚ :=
  if value < 0 then -((-value).floor : ℚ) else (value.floor : ℚ)

def round (value : ℚ) (places : Nat) : ℚ :=
  let scale : ℚ := (10 ^ places : Nat)
  if value < 0 then -(((-value) * scale + 1 / 2).floor : ℚ) / scale
  else ((value * scale + 1 / 2).floor : ℚ) / scale

def intPart (value : ℚ) : Int :=
  Int.bmod (truncate value).num (2 ^ 64)

end Decimal

def productPriceMinor (price : ℚ) : Except Fault Int :=
  let minor := Decimal.shift price 2
  if minor < 0 ∨ minor ≠ Decimal.truncate minor ∨ minor > (maxInt64 : ℚ) then
    .error errProductPriceInvalid
  else .ok (Decimal.intPart minor)

def productDiscount (discount : ℚ) : Except Fault Unit :=
  if 0 < discount ∧ discount ≤ 1 ∧ discount = Decimal.round discount 2 then .ok ()
  else .error errProductDiscountInvalid

def effectivePriceMinor (priceMinor : Int) (discount : ℚ) : Except Fault Int :=
  if priceMinor < 0 then .error errEffectivePriceInvalid
  else do
    productDiscount discount
    .ok (Decimal.intPart (Decimal.round ((priceMinor : ℚ) * discount) 0))

/-- The product and whether it overflows; Go's integer division truncates. -/
def multiplyMoney (amount quantity : Int) : Int × Bool :=
  if amount < 0 ∨ quantity < 0 ∨ (quantity ≠ 0 ∧ amount > maxInt64.tdiv quantity) then (0, true)
  else (wrap64 (amount * quantity), false)

example : (effectivePriceMinor 1999 (9 / 10)).toOption = some 1799 := by decide +kernel

end Mall
