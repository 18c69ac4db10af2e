import Mathlib.Algebra.Order.Field.Power
import Mathlib.Data.Rat.Floor
import Mathlib.Tactic.Positivity

/-!
# Decimal arithmetic

Finite decimal numbers `coefficient × 10 ^ exponent` and the arithmetic of a context of given
precision: every result is exact or rounded half-even to that many digits, and `quantize` rounds to a
given exponent and fails when the result needs more digits than the context has. Zeros carry no sign,
and the exponent is unbounded.
-/

set_option autoImplicit false

/-- A finite decimal number. -/
structure Decimal where
  coefficient : Int
  exponent : Int
deriving DecidableEq

namespace Decimal

/-! ## Values -/

/-- The value. -/
def toRat (d : Decimal) : ℚ :=
  d.coefficient * (10 : ℚ) ^ d.exponent

/-- The unit of an exponent. -/
def unit (e : Int) : ℚ :=
  (10 : ℚ) ^ e

/-- A whole number. -/
def ofInt (n : Int) : Decimal :=
  ⟨n, 0⟩

instance (n : Nat) : OfNat Decimal n :=
  ⟨ofInt n⟩

instance : LT Decimal :=
  ⟨fun a b => a.toRat < b.toRat⟩

instance : LE Decimal :=
  ⟨fun a b => a.toRat ≤ b.toRat⟩

/-- The coefficient at an exponent that is not larger. -/
def coefficientAt (d : Decimal) (e : Int) : Int :=
  d.coefficient * 10 ^ (d.exponent - e).toNat

variable {a b d : Decimal}

theorem coefficientAt_cast {e : Int} (he : e ≤ d.exponent) :
    (d.coefficientAt e : ℚ) * (10 : ℚ) ^ e = d.toRat := by
  have hten : (10 : ℚ) ≠ 0 := by norm_num
  have hsplit : ((10 : ℚ) ^ (d.exponent - e).toNat) * (10 : ℚ) ^ e = (10 : ℚ) ^ d.exponent := by
    rw [← zpow_natCast, ← zpow_add₀ hten, Int.toNat_of_nonneg (by omega)]
    congr 1
    omega
  unfold coefficientAt toRat
  push_cast
  rw [mul_assoc, hsplit]

theorem toRat_lt_iff (a b : Decimal) :
    a.toRat < b.toRat ↔ a.coefficientAt (min a.exponent b.exponent) <
      b.coefficientAt (min a.exponent b.exponent) := by
  have hpos : (0 : ℚ) < (10 : ℚ) ^ min a.exponent b.exponent := zpow_pos (by norm_num) _
  rw [← coefficientAt_cast (min_le_left a.exponent b.exponent),
    ← coefficientAt_cast (min_le_right a.exponent b.exponent), mul_lt_mul_iff_left₀ hpos, Int.cast_lt]

instance : DecidableLT Decimal :=
  fun a b => decidable_of_iff _ (toRat_lt_iff a b).symm

instance : DecidableLE Decimal :=
  fun a b => decidable_of_iff (¬ b < a) (not_lt (a := b.toRat))

theorem lt_def : a < b ↔ a.toRat < b.toRat := Iff.rfl

theorem le_def : a ≤ b ↔ a.toRat ≤ b.toRat := Iff.rfl

theorem le_iff_not_lt : a ≤ b ↔ ¬ b < a := by
  rw [le_def, lt_def, not_lt]

theorem zero_le_zero : (0 : Decimal) ≤ 0 :=
  le_def.2 (le_refl _)

@[simp] theorem toRat_ofInt (n : Int) : (ofInt n).toRat = n := by
  simp only [toRat, ofInt, zpow_zero, mul_one]

@[simp] theorem toRat_zero : (0 : Decimal).toRat = 0 := toRat_ofInt 0

theorem toRat_nonneg_iff : 0 ≤ d.toRat ↔ 0 ≤ d.coefficient := by
  have hpos : (0 : ℚ) < (10 : ℚ) ^ d.exponent := zpow_pos (by norm_num) _
  rw [toRat, mul_nonneg_iff_of_pos_right hpos, Int.cast_nonneg_iff]

/-! ## Digits -/

/-- Count digits, at most `fuel` of them. -/
def countDigits : Nat → Nat → Nat
  | 0, _ => 0
  | fuel + 1, n => if n = 0 then 0 else countDigits fuel (n / 10) + 1

/-- The number of decimal digits; none for zero. -/
def digitCount (n : Nat) : Nat :=
  countDigits (n.log2 + 1) n

variable {n p prec : Nat}

theorem countDigits_le_iff {fuel : Nat} (hfuel : n < 2 ^ fuel) :
    countDigits fuel n ≤ p ↔ n < 10 ^ p := by
  induction fuel generalizing n p with
  | zero =>
    have hn : n = 0 := by omega
    subst hn
    simp only [countDigits, Nat.zero_le, true_iff]
    positivity
  | succ fuel ih =>
    unfold countDigits
    split
    · rename_i hn
      subst hn
      simp only [Nat.zero_le, true_iff]
      positivity
    · have htail : n / 10 < 2 ^ fuel := by
        have hpow : 2 ^ (fuel + 1) = 2 * 2 ^ fuel := by ring
        omega
      cases p with
      | zero =>
        simp only [pow_zero, Nat.lt_one_iff]
        omega
      | succ p =>
        have hpow : 10 ^ (p + 1) = 10 * 10 ^ p := by ring
        rw [Nat.add_le_add_iff_right, ih htail, hpow]
        omega

/-- **The digit count measures the size.** -/
theorem digitCount_le_iff : digitCount n ≤ p ↔ n < 10 ^ p :=
  countDigits_le_iff Nat.lt_log2_self

/-! ## Rounding -/

/-- The rounding modes in use. -/
inductive Rounding where
  | halfUp
  | halfEven
deriving DecidableEq

/-- `n / k`, rounded; ties go up, or to the even quotient. -/
def roundDivNat (mode : Rounding) (n k : Nat) : Nat :=
  match mode with
  | .halfUp => if k ≤ 2 * (n % k) then n / k + 1 else n / k
  | .halfEven =>
    if k < 2 * (n % k) ∨ (k = 2 * (n % k) ∧ n / k % 2 = 1) then n / k + 1 else n / k

/-- The same on integers, away from zero where it goes up. -/
def roundDiv (mode : Rounding) (n : Int) (k : Nat) : Int :=
  n.sign * roundDivNat mode n.natAbs k

/-- The decimal at an exponent: exact towards a smaller one, rounded towards a larger one. -/
def rescale (mode : Rounding) (d : Decimal) (e : Int) : Decimal :=
  if e ≤ d.exponent then ⟨d.coefficientAt e, e⟩
  else ⟨roundDiv mode d.coefficient (10 ^ (e - d.exponent).toNat), e⟩

/-- The coefficient has at most `prec` digits. -/
def Fits (prec : Nat) (d : Decimal) : Prop :=
  digitCount d.coefficient.natAbs ≤ prec

instance (prec : Nat) (d : Decimal) : Decidable (d.Fits prec) :=
  inferInstanceAs (Decidable (_ ≤ _))

/-- The rounding of a context: half-even to `prec` digits. A carry may need one more digit to go. -/
def round (prec : Nat) (d : Decimal) : Decimal :=
  if d.Fits prec then d
  else
    let r := d.rescale .halfEven (d.exponent + (digitCount d.coefficient.natAbs - prec : Nat))
    if r.Fits prec then r else r.rescale .halfEven (r.exponent + 1)

/-- `quantize`: rounded to an exponent; none when that needs more than `prec` digits. -/
def quantize (prec : Nat) (mode : Rounding) (d : Decimal) (e : Int) : Option Decimal :=
  if (d.rescale mode e).Fits prec then some (d.rescale mode e) else none

/-! ## Operations -/

/-- The exact sum. -/
def addExact (a b : Decimal) : Decimal :=
  ⟨a.coefficientAt (min a.exponent b.exponent) + b.coefficientAt (min a.exponent b.exponent),
    min a.exponent b.exponent⟩

/-- The negated number, exact. -/
def negExact (a : Decimal) : Decimal :=
  ⟨-a.coefficient, a.exponent⟩

def add (prec : Nat) (a b : Decimal) : Decimal :=
  (a.addExact b).round prec

def neg (prec : Nat) (a : Decimal) : Decimal :=
  a.negExact.round prec

def sub (prec : Nat) (a b : Decimal) : Decimal :=
  add prec a b.negExact

def mul (prec : Nat) (a b : Decimal) : Decimal :=
  round prec ⟨a.coefficient * b.coefficient, a.exponent + b.exponent⟩

/-- Drop trailing zeros of a coefficient, up to an exponent. -/
def stripZeros : Nat → Int → Nat → Int × Nat
  | 0, e, n => (e, n)
  | fuel + 1, e, n => if n % 10 = 0 then stripZeros fuel (e + 1) (n / 10) else (e, n)

/-- The quotient by a nonzero number: `prec + 1` digits with a sticky last digit, then rounded; an exact
quotient stays at the exponent closest to the ideal one. -/
def div (prec : Nat) (a b : Decimal) : Decimal :=
  if a.coefficient = 0 then ⟨0, a.exponent - b.exponent⟩
  else
    let shift : Int := digitCount b.coefficient.natAbs - digitCount a.coefficient.natAbs + prec + 1
    let n := a.coefficient.natAbs * 10 ^ shift.toNat
    let k := b.coefficient.natAbs * 10 ^ (-shift).toNat
    let sign := a.coefficient.sign * b.coefficient.sign
    let e := a.exponent - b.exponent - shift
    if n % k = 0 then
      let (e', q) := stripZeros (a.exponent - b.exponent - e).toNat e (n / k)
      round prec ⟨sign * q, e'⟩
    else
      let q := n / k
      round prec ⟨sign * (if q % 5 = 0 then q + 1 else q), e⟩

/-- `normalize`: rounded, without trailing zeros. -/
def normalize (prec : Nat) (d : Decimal) : Decimal :=
  let r := d.round prec
  if r.coefficient = 0 then 0
  else
    let (e, n) := stripZeros (digitCount r.coefficient.natAbs) r.exponent r.coefficient.natAbs
    ⟨r.coefficient.sign * n, e⟩

/-- `to_integral_value`: half-even to a whole number. -/
def toIntegralValue (d : Decimal) : Decimal :=
  if 0 ≤ d.exponent then d else d.rescale .halfEven 0

/-- `int(value)`: the whole part. -/
def toInt (d : Decimal) : Int :=
  if 0 ≤ d.exponent then d.coefficientAt 0 else d.coefficient.tdiv (10 ^ (-d.exponent).toNat)

/-- `min(a, b)`: the first one unless the second is smaller. -/
def minimum (a b : Decimal) : Decimal :=
  if b < a then b else a

/-! ## Text -/

/-- `format(value, "f")`: plain positional notation. -/
def formatPlain (d : Decimal) : String :=
  let sign := if d.coefficient < 0 then "-" else ""
  if 0 ≤ d.exponent then sign ++ toString (d.coefficient.natAbs * 10 ^ d.exponent.toNat)
  else
    let places := (-d.exponent).toNat
    let fraction := toString (d.coefficient.natAbs % 10 ^ places)
    sign ++ toString (d.coefficient.natAbs / 10 ^ places) ++ "." ++
      String.ofList (List.replicate (places - fraction.length) '0') ++ fraction

/-- The decimal that the positional text reads back as. -/
def positional (d : Decimal) : Decimal :=
  if d.exponent ≤ 0 then d else ⟨d.coefficientAt 0, 0⟩

/-- `str(value)`: positional, or in scientific notation for large and for very small numbers. -/
def toText (d : Decimal) : String :=
  let digits := (toString d.coefficient.natAbs).toList
  let adjusted : Int := d.exponent + (digits.length - 1 : Nat)
  if d.exponent ≤ 0 ∧ -6 ≤ adjusted then formatPlain d
  else
    (if d.coefficient < 0 then "-" else "") ++ String.ofList (digits.take 1) ++
      (if digits.length = 1 then "" else "." ++ String.ofList (digits.drop 1)) ++
      "E" ++ (if adjusted < 0 then "" else "+") ++ toString adjusted

/-! ## Exact operations -/

theorem toRat_addExact (a b : Decimal) : (a.addExact b).toRat = a.toRat + b.toRat := by
  rw [← coefficientAt_cast (min_le_left a.exponent b.exponent),
    ← coefficientAt_cast (min_le_right a.exponent b.exponent), ← add_mul]
  simp only [toRat, addExact, Int.cast_add]

@[simp] theorem toRat_negExact (a : Decimal) : a.negExact.toRat = -a.toRat := by
  simp only [toRat, negExact, Int.cast_neg, neg_mul]

@[simp] theorem toRat_positional (d : Decimal) : d.positional.toRat = d.toRat := by
  unfold positional
  split
  · rfl
  · exact coefficientAt_cast (d := d) (e := 0) (by omega)

theorem toRat_minimum (a b : Decimal) : (minimum a b).toRat = min a.toRat b.toRat := by
  unfold minimum
  split
  · rename_i hlt
    exact (min_eq_right (le_of_lt (lt_def.1 hlt))).symm
  · rename_i hle
    exact (min_eq_left (not_lt.1 fun h => hle (lt_def.2 h))).symm

/-! ## What fits -/

theorem unit_pos (e : Int) : 0 < unit e :=
  zpow_pos (by norm_num) e

theorem unit_add (e : Int) (n : Nat) : unit (e + n) = 10 ^ n * unit e := by
  rw [unit, unit, zpow_add₀ (by norm_num), zpow_natCast, mul_comm]

theorem unit_mono {e e' : Int} (h : e ≤ e') : unit e ≤ unit e' :=
  zpow_le_zpow_right₀ (by norm_num) h

theorem fits_iff : d.Fits prec ↔ d.coefficient.natAbs < 10 ^ prec :=
  digitCount_le_iff

theorem round_of_fits (h : d.Fits prec) : d.round prec = d :=
  if_pos h

theorem abs_toRat (d : Decimal) : |d.toRat| = d.coefficient.natAbs * unit d.exponent := by
  have hcast : ((d.coefficient.natAbs : Nat) : ℚ) = |(d.coefficient : ℚ)| := by
    rw [← Int.cast_natCast, Int.natCast_natAbs, Int.cast_abs]
  have hpos : (0 : ℚ) < (10 : ℚ) ^ d.exponent := unit_pos d.exponent
  rw [hcast, toRat, abs_mul, unit, abs_of_pos hpos]

theorem fits_iff_abs_lt :
    d.Fits prec ↔ |d.toRat| < 10 ^ prec * unit d.exponent := by
  rw [fits_iff, abs_toRat, mul_lt_mul_iff_left₀ (unit_pos _)]
  exact_mod_cast Iff.rfl

/-- A value that some number of `prec` digits has. -/
def Representable (prec : Nat) (x : ℚ) : Prop :=
  ∃ d : Decimal, d.Fits prec ∧ d.toRat = x

theorem Representable.neg {x : ℚ} (h : Representable prec x) : Representable prec (-x) := by
  obtain ⟨d, hfits, rfl⟩ := h
  refine ⟨d.negExact, ?_, toRat_negExact d⟩
  rw [fits_iff] at hfits ⊢
  rw [negExact, Int.natAbs_neg]
  exact hfits

theorem Representable.abs {x : ℚ} (h : Representable prec x) : Representable prec |x| := by
  rcases abs_choice x with habs | habs
  · exact habs.symm ▸ h
  · exact habs.symm ▸ h.neg

end Decimal
