import Mathlib.Algebra.Order.Ring.Int
import Mathlib.Data.Nat.Digits.Defs

/-!
# Machinery/BigDecimal — decimals with a scale of their own

`⟨u, s⟩` is `u · 10^(-s)`, and two decimals are equal if both parts are (`10` is not `10.00`).
Rounding is `HALF_UP`: to the nearest neighbour, and away from zero between two.
-/

/-- **`java.math.BigDecimal`.** -/
structure BigDecimal where
  unscaled : ℤ
  scale : ℤ
  deriving DecidableEq, Repr

namespace BigDecimal

/-- **`signum`.** -/
def signum (x : BigDecimal) : ℤ := x.unscaled.sign

/-- `|u| / d` to the nearest integer, halves up. -/
def divHalfUp (u : ℤ) (d : ℕ) : ℤ := u.sign * ((2 * u.natAbs + d) / (2 * d) : ℕ)

/-- **`setScale(scale, HALF_UP)`.** -/
def setScale (x : BigDecimal) (scale : ℤ) : BigDecimal :=
  if x.scale ≤ scale then ⟨x.unscaled * 10 ^ (scale - x.scale).toNat, scale⟩
  else ⟨divHalfUp x.unscaled (10 ^ (x.scale - scale).toNat), scale⟩

@[simp] theorem setScale_scale (x : BigDecimal) (scale : ℤ) : (x.setScale scale).scale = scale := by
  unfold setScale
  split <;> rfl

/-- A decimal at its own scale is as it was. -/
theorem setScale_self (x : BigDecimal) : x.setScale x.scale = x := by
  simp [setScale]

/-- **Rounding again changes nothing.** -/
@[simp] theorem setScale_setScale (x : BigDecimal) (scale : ℤ) :
    (x.setScale scale).setScale scale = x.setScale scale := by
  have h := setScale_self (x.setScale scale)
  rwa [setScale_scale] at h

/-! ## Arithmetic -/

/-- **`multiply`.** -/
def multiply (x y : BigDecimal) : BigDecimal := ⟨x.unscaled * y.unscaled, x.scale + y.scale⟩

/-- **`add`**, at the larger scale. -/
def add (x y : BigDecimal) : BigDecimal :=
  let scale := max x.scale y.scale
  ⟨x.unscaled * 10 ^ (scale - x.scale).toNat + y.unscaled * 10 ^ (scale - y.scale).toNat, scale⟩

/-- **`compareTo`**: the sign of the difference, at the larger scale. -/
def compareTo (x y : BigDecimal) : ℤ :=
  let scale := max x.scale y.scale
  (x.unscaled * 10 ^ (scale - x.scale).toNat - y.unscaled * 10 ^ (scale - y.scale).toNat).sign

/-- **`divide(divisor, scale, HALF_UP)`** by a divisor other than zero. -/
def divide (x y : BigDecimal) (scale : ℤ) : BigDecimal :=
  let shift := scale + y.scale - x.scale
  ⟨divHalfUp (x.unscaled * y.unscaled.sign * 10 ^ shift.toNat)
    (y.unscaled.natAbs * 10 ^ (-shift).toNat), scale⟩

/-- **`movePointRight`.** -/
def movePointRight (x : BigDecimal) (n : ℕ) : BigDecimal :=
  let moved : BigDecimal := ⟨x.unscaled, x.scale - n⟩
  if moved.scale < 0 then moved.setScale 0 else moved

/-- **`longValueExact`**: none if the value is no integer, or out of the range of a `long`. -/
def longValueExact (x : BigDecimal) : Option ℤ :=
  let whole := x.setScale 0
  if x.scale ≤ 0 ∨ x.unscaled = whole.unscaled * 10 ^ x.scale.toNat then
    if -2 ^ 63 ≤ whole.unscaled ∧ whole.unscaled < 2 ^ 63 then some whole.unscaled else none
  else none

/-! ## Texts -/

/-- The decimal digits of a number. -/
def digits (n : ℕ) : String := String.ofList (Nat.toDigits 10 n)

/-- **`toPlainString`**: no exponent, and as many places as the scale says. -/
def toPlainString (x : BigDecimal) : String :=
  let sign := if x.unscaled < 0 then "-" else ""
  if x.scale ≤ 0 then
    sign ++ digits (x.unscaled.natAbs * if x.unscaled = 0 then 1 else 10 ^ (-x.scale).toNat)
  else
    let places := x.scale.toNat
    let fraction := Nat.toDigits 10 (x.unscaled.natAbs % 10 ^ places)
    sign ++ digits (x.unscaled.natAbs / 10 ^ places) ++ "."
      ++ String.ofList (List.replicate (places - fraction.length) '0' ++ fraction)

/-- **`toString`**: plain where that takes few zeros, else with an exponent. -/
def toString (x : BigDecimal) : String :=
  let coefficient := Nat.toDigits 10 x.unscaled.natAbs
  let adjusted : ℤ := coefficient.length - 1 - x.scale
  if 0 ≤ x.scale ∧ -6 ≤ adjusted then x.toPlainString
  else
    let point := if coefficient.length = 1 then coefficient
      else coefficient.take 1 ++ '.' :: coefficient.drop 1
    let exponent := if adjusted = 0 then ""
      else (if 0 < adjusted then "E+" else "E-") ++ digits adjusted.natAbs
    (if x.unscaled < 0 then "-" else "") ++ String.ofList point ++ exponent

example : (setScale ⟨10005, 3⟩ 2).toPlainString = "10.01" := by decide
example : (setScale ⟨-1, 0⟩ 2).toPlainString = "-1.00" := by decide
example : toString ⟨5000000, 2⟩ = "50000.00" ∧ toString ⟨-12, -3⟩ = "-1.2E+4" := by decide

end BigDecimal
