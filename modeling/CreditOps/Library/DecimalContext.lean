import Mathlib.Data.Nat.Cast.Order.Field
import CreditOps.Library.DecimalRounding
import CreditOps.Library.Results

/-!
# Decimal contexts

A context bounds the digits and the exponents of what its operations return. A result that is too long is
rounded half-even; one that is too small is rounded at the smallest exponent, to zero in the end; one that is
too large raises, as does a quotient by zero and a `quantize` that needs too many digits.
-/

set_option autoImplicit false

/-- The digits and the exponents of a context. -/
structure DecimalContext where
  precision : Nat
  emin : Int
  emax : Int
  precision_pos : 0 < precision
  emin_le : emin ≤ 0
  precision_le : (precision : Int) ≤ emax

/-- The signals that a context traps. -/
inductive DecimalSignal where
  | invalidOperation
  | divisionByZero
  | overflow
deriving DecidableEq

namespace Decimal

/-- The exponent of the first digit. -/
def adjusted (d : Decimal) : Int :=
  d.exponent + digitCount d.coefficient.natAbs - 1

/-- The exact product. -/
def mulExact (a b : Decimal) : Decimal :=
  ⟨a.coefficient * b.coefficient, a.exponent + b.exponent⟩

/-- The exact absolute value. -/
def absExact (a : Decimal) : Decimal :=
  ⟨a.coefficient.natAbs, a.exponent⟩

/-- The quotient by a nonzero number before it is rounded: exact, at the exponent closest to the ideal one,
or with a sticky last digit beyond the precision. -/
def quotient (prec : Nat) (a b : Decimal) : Decimal :=
  if a.coefficient = 0 then ⟨0, a.exponent - b.exponent⟩
  else
    let shift : Int := digitCount b.coefficient.natAbs - digitCount a.coefficient.natAbs + prec + 1
    let n := a.coefficient.natAbs * 10 ^ shift.toNat
    let k := b.coefficient.natAbs * 10 ^ (-shift).toNat
    let sign := a.coefficient.sign * b.coefficient.sign
    let e := a.exponent - b.exponent - shift
    if n % k = 0 then
      let (e', q) := stripZeros (a.exponent - b.exponent - e).toNat e (n / k)
      ⟨sign * q, e'⟩
    else
      let q := n / k
      ⟨sign * (if q % 5 = 0 then q + 1 else q), e⟩

/-- A number without trailing zeros. -/
def stripped (d : Decimal) : Decimal :=
  if d.coefficient = 0 then 0
  else
    let (e, n) := stripZeros (digitCount d.coefficient.natAbs) d.exponent d.coefficient.natAbs
    ⟨d.coefficient.sign * n, e⟩

end Decimal

namespace DecimalContext

open Decimal

variable (ctx : DecimalContext)

/-! ## Operations -/

/-- The smallest exponent. -/
def etiny : Int :=
  ctx.emin - (ctx.precision - 1 : Nat)

/-- The number as the context keeps it: to its digits, and no digit below the smallest exponent. -/
def rounded (d : Decimal) : Decimal :=
  if d.adjusted < ctx.emin then
    if ctx.etiny ≤ d.exponent then d else d.rescale .halfEven ctx.etiny
  else d.round ctx.precision

/-- What an operation returns for an exact result. -/
def fix (d : Decimal) : Except DecimalSignal Decimal :=
  if d.coefficient = 0 then .ok ⟨0, max ctx.etiny (min d.exponent ctx.emax)⟩
  else if ctx.emax < (ctx.rounded d).adjusted then .error .overflow
  else .ok (ctx.rounded d)

/-- `a + b` -/
def add (a b : Decimal) : Except DecimalSignal Decimal :=
  ctx.fix (a.addExact b)

/-- `a - b` -/
def sub (a b : Decimal) : Except DecimalSignal Decimal :=
  ctx.fix (a.addExact b.negExact)

/-- `a * b` -/
def mul (a b : Decimal) : Except DecimalSignal Decimal :=
  ctx.fix (a.mulExact b)

/-- `abs(a)` -/
def abs (a : Decimal) : Except DecimalSignal Decimal :=
  ctx.fix a.absExact

/-- `a / b` -/
def div (a b : Decimal) : Except DecimalSignal Decimal :=
  if b.coefficient = 0 then
    .error (if a.coefficient = 0 then .invalidOperation else .divisionByZero)
  else ctx.fix (quotient ctx.precision a b)

/-- `a.normalize()` -/
def normalize (a : Decimal) : Except DecimalSignal Decimal :=
  (ctx.fix a).map stripped

/-- `a.quantize(...)`, to an exponent of at most zero. -/
def quantize (mode : Rounding) (a : Decimal) (e : Int) : Except DecimalSignal Decimal :=
  match a.quantize ctx.precision mode e with
  | some result => .ok result
  | none => .error .invalidOperation

/-- Where the numbers stop. -/
def limit : ℚ :=
  (10 ^ ctx.precision - 1 / 2) * unit (ctx.emax + 1 - ctx.precision)

/-- Where the numbers stop that are rounded to an exponent. -/
def limitAt (e : Int) : ℚ :=
  (10 ^ ctx.precision - 1 / 2) * unit e

/-! ## Sizes -/

variable {a b d r : Decimal} {e : Int}

theorem adjusted_lt_iff (hd : d.coefficient ≠ 0) :
    d.adjusted < e ↔ |d.toRat| < unit e := by
  have hunit : 0 < unit d.exponent := unit_pos _
  have hone : 1 ≤ d.coefficient.natAbs := Int.natAbs_pos.2 hd
  rw [abs_toRat]
  rcases le_or_gt d.exponent e with _ | hgt
  · obtain ⟨n, rfl⟩ : ∃ n : Nat, e = d.exponent + n := ⟨(e - d.exponent).toNat, by omega⟩
    rw [unit_add, mul_lt_mul_iff_left₀ hunit]
    have hcount := digitCount_le_iff (n := d.coefficient.natAbs) (p := n)
    constructor
    · intro h
      exact_mod_cast hcount.1 (by unfold adjusted at h; omega)
    · intro h
      have hle' := hcount.2 (by exact_mod_cast h)
      unfold adjusted
      omega
  · -- the exponent alone is too large
    have hdigits : ¬ digitCount d.coefficient.natAbs ≤ 0 := by
      rw [digitCount_le_iff, pow_zero]
      omega
    have hmono : unit e ≤ unit d.exponent := unit_mono hgt.le
    have hcast : (1 : ℚ) ≤ d.coefficient.natAbs := by exact_mod_cast hone
    constructor
    · intro h
      unfold adjusted at h
      omega
    · intro h
      nlinarith

theorem unit_emin : unit ctx.emin = 10 ^ (ctx.precision - 1) * unit ctx.etiny := by
  rw [← unit_add, etiny, sub_add_cancel]

theorem toRat_eq_zero_iff : d.toRat = 0 ↔ d.coefficient = 0 := by
  rw [toRat, mul_eq_zero, Int.cast_eq_zero]
  exact or_iff_left (unit_pos d.exponent).ne'

@[simp] theorem toRat_absExact (a : Decimal) : a.absExact.toRat = |a.toRat| := by
  rw [abs_toRat, absExact, toRat, unit, Int.cast_natCast]

theorem toRat_mulExact (a b : Decimal) : (a.mulExact b).toRat = a.toRat * b.toRat :=
  Decimal.toRat_mulExact a b

/-! ## What the context keeps -/

theorem rounded_of_emin_le (h : unit ctx.emin ≤ |d.toRat|) :
    ctx.rounded d = d.round ctx.precision := by
  have hd : d.coefficient ≠ 0 := by
    intro hzero
    rw [toRat_eq_zero_iff.2 hzero, abs_zero] at h
    exact absurd h (not_le.2 (unit_pos _))
  rw [rounded, if_neg]
  rw [adjusted_lt_iff hd]
  exact not_lt.2 h

/-- A number below the smallest one with all digits stays at most that. -/
theorem abs_rounded_le (h : |d.toRat| < unit ctx.emin) :
    |(ctx.rounded d).toRat| ≤ unit ctx.emin := by
  have hround : |(d.round ctx.precision).toRat| ≤ unit ctx.emin := by
    rw [unit_emin] at h ⊢
    have hrep := representable_multiple ctx.precision_pos (m := 10 ^ (ctx.precision - 1))
      (Nat.pow_le_pow_right (by norm_num) (by omega)) ctx.etiny
    push_cast at hrep
    exact abs_toRat_round_le ctx.precision_pos hrep h.le
  unfold rounded
  split
  · split
    · exact h.le
    · -- the coefficient at the smallest exponent has one digit less, or is the power of ten
      rename_i hsmall
      obtain ⟨j, hj⟩ : ∃ j : Nat, ctx.etiny = d.exponent + j := ⟨(ctx.etiny - d.exponent).toNat, by omega⟩
      have hpos : 0 < j := by omega
      rw [unit_emin] at h ⊢
      rw [hj] at h ⊢
      rw [abs_toRat, rescale_add .halfEven d hpos, natAbs_roundDiv _ _ (by positivity)]
      apply mul_le_mul_of_nonneg_right _ (unit_pos _).le
      have hcoef : d.coefficient.natAbs ≤ 10 ^ (ctx.precision - 1) * 10 ^ j := by
        rw [abs_toRat, unit_add, ← mul_assoc, mul_lt_mul_iff_left₀ (unit_pos _)] at h
        exact_mod_cast h.le
      exact_mod_cast roundDivNat_le_of_le_mul .halfEven (by positivity) hcoef
  · exact hround

variable {m prec : Nat}

/-- **What is kept stays below an even number of units** exactly below the half before it. -/
theorem abs_rounded_lt_iff (heven : m % 2 = 0) (hlow : 10 ^ (ctx.precision - 1) < m)
    (hhigh : m ≤ 10 ^ ctx.precision) (he : ctx.etiny ≤ e) :
    |(ctx.rounded d).toRat| < m * unit e ↔ |d.toRat| < (m - 1 / 2) * unit e := by
  rcases le_or_gt (unit ctx.emin) |d.toRat| with hnormal | hsmall
  · rw [ctx.rounded_of_emin_le hnormal]
    exact abs_toRat_round_lt_multiple_iff ctx.precision_pos heven hlow hhigh
  · have hkept := ctx.abs_rounded_le hsmall
    have hunit : unit ctx.emin ≤ 10 ^ (ctx.precision - 1) * unit e := by
      rw [unit_emin]
      exact mul_le_mul_of_nonneg_left (unit_mono he) (by positivity)
    have hm : (10 : ℚ) ^ (ctx.precision - 1) + 1 ≤ m := by exact_mod_cast hlow
    have hue := unit_pos e
    constructor
    all_goals
      intro _
      nlinarith

theorem rounded_of_fits (hfits : d.Fits ctx.precision) (he : ctx.etiny ≤ d.exponent) :
    ctx.rounded d = d := by
  unfold rounded
  split
  · rfl
  · exact round_of_fits hfits

/-- Below the smallest number with all digits, the smallest exponent decides. -/
theorem toRat_rounded_of_lt_emin (h : |d.toRat| < unit ctx.emin) :
    (ctx.rounded d).toRat = (d.rescale .halfEven ctx.etiny).toRat := by
  unfold rounded
  split
  · split
    · rename_i he
      rw [toRat_rescale_of_le _ he]
    · rfl
  · -- only a zero is left
    rename_i hlarge
    have hzero : d.coefficient = 0 := by
      by_contra hd
      exact hlarge ((adjusted_lt_iff hd).2 h)
    obtain ⟨c, e⟩ := d
    obtain rfl : c = 0 := hzero
    have hfits : (⟨0, e⟩ : Decimal).Fits ctx.precision := fits_iff.2 (by positivity)
    rw [round_of_fits hfits, rescale]
    split
    all_goals rw [toRat_eq_zero_iff.2 rfl, toRat_eq_zero_iff.2 (zero_mul _)]

/-- **What is kept depends on the value only.** -/
theorem toRat_rounded_congr (h : a.toRat = b.toRat) :
    (ctx.rounded a).toRat = (ctx.rounded b).toRat := by
  rcases le_or_gt (unit ctx.emin) |a.toRat| with hnormal | hsmall
  · rw [ctx.rounded_of_emin_le hnormal, ctx.rounded_of_emin_le (h ▸ hnormal)]
    exact toRat_round_congr ctx.precision_pos h
  · rw [ctx.toRat_rounded_of_lt_emin hsmall, ctx.toRat_rounded_of_lt_emin (h ▸ hsmall)]
    exact toRat_rescale_congr _ h _

theorem toRat_rounded_zero (e : Int) : (ctx.rounded ⟨0, e⟩).toRat = 0 := by
  have hvalue : (⟨0, e⟩ : Decimal).toRat = (⟨0, ctx.etiny⟩ : Decimal).toRat := by
    rw [toRat_eq_zero_iff.2 rfl, toRat_eq_zero_iff.2 rfl]
  rw [ctx.toRat_rounded_congr hvalue, ctx.rounded_of_fits (fits_iff.2 (by positivity)) le_rfl,
    toRat_eq_zero_iff.2 rfl]

theorem toRat_rounded_nonneg (hd : 0 ≤ d.toRat) : 0 ≤ (ctx.rounded d).toRat := by
  rcases le_or_gt (unit ctx.emin) |d.toRat| with hnormal | hsmall
  · rw [ctx.rounded_of_emin_le hnormal]
    exact toRat_round_nonneg ctx.precision_pos hd
  · rw [ctx.toRat_rounded_of_lt_emin hsmall]
    exact rescale_nonneg _ hd _

theorem toRat_rounded_neg (d : Decimal) : (ctx.rounded d.negExact).toRat = -(ctx.rounded d).toRat := by
  have habs : |d.negExact.toRat| = |d.toRat| := by rw [toRat_negExact, abs_neg]
  rcases le_or_gt (unit ctx.emin) |d.toRat| with hnormal | hsmall
  · rw [ctx.rounded_of_emin_le hnormal, ctx.rounded_of_emin_le (habs ▸ hnormal), round_negExact,
      toRat_negExact]
  · rw [ctx.toRat_rounded_of_lt_emin hsmall, ctx.toRat_rounded_of_lt_emin (habs ▸ hsmall),
      rescale_negExact, toRat_negExact]

theorem toRat_rounded_nonpos (hd : d.toRat ≤ 0) : (ctx.rounded d).toRat ≤ 0 := by
  have hflip := ctx.toRat_rounded_nonneg (d := d.negExact) (by rw [toRat_negExact]; linarith)
  rw [toRat_rounded_neg] at hflip
  linarith

/-- **Only what is at most half the smallest number is kept as zero.** -/
theorem toRat_rounded_eq_zero_iff :
    (ctx.rounded d).toRat = 0 ↔ |d.toRat| ≤ unit ctx.etiny / 2 := by
  have hue := unit_pos ctx.etiny
  rcases le_or_gt (unit ctx.emin) |d.toRat| with hnormal | hsmall
  · have hrep := representable_multiple ctx.precision_pos (m := 1) (Nat.one_le_pow _ _ (by norm_num)) ctx.emin
    rw [Nat.cast_one, one_mul] at hrep
    have hkept := le_abs_toRat_round ctx.precision_pos hrep hnormal
    rw [ctx.rounded_of_emin_le hnormal]
    have hone : (1 : ℚ) ≤ 10 ^ (ctx.precision - 1) := one_le_pow₀ (by norm_num)
    rw [unit_emin] at hnormal hkept
    constructor
    · intro hzero
      rw [hzero, abs_zero] at hkept
      nlinarith
    · intro h
      nlinarith
  rw [ctx.toRat_rounded_of_lt_emin hsmall]
  rcases le_or_gt ctx.etiny d.exponent with hle | _
  · -- nothing is dropped, and a number that is not zero has a digit at the smallest exponent or above
    rw [toRat_rescale_of_le _ hle]
    constructor
    · intro hzero
      rw [hzero, abs_zero]
      linarith
    · intro h
      by_contra hne
      have hone : 1 ≤ d.coefficient.natAbs := Int.natAbs_pos.2 fun hzero => hne (toRat_eq_zero_iff.2 hzero)
      have hcast : (1 : ℚ) ≤ d.coefficient.natAbs := by exact_mod_cast hone
      have hunit := unit_mono hle
      rw [abs_toRat] at h
      nlinarith [unit_pos d.exponent]
  · obtain ⟨j, hj⟩ : ∃ j : Nat, ctx.etiny = d.exponent + j := ⟨(ctx.etiny - d.exponent).toNat, by omega⟩
    have hpos : 0 < j := by omega
    have hround : (d.rescale .halfEven ctx.etiny).toRat = 0 ↔
        roundDivNat .halfEven d.coefficient.natAbs (10 ^ j) = 0 := by
      rw [hj, rescale_add .halfEven d hpos, toRat_eq_zero_iff, ← Int.natAbs_eq_zero,
        natAbs_roundDiv _ _ (by positivity)]
    have hhalf : |d.toRat| ≤ unit ctx.etiny / 2 ↔ 2 * d.coefficient.natAbs ≤ 10 ^ j := by
      rw [abs_toRat, hj, unit_add, le_div_iff₀ (by norm_num), mul_right_comm, mul_comm _ (2 : ℚ),
        mul_le_mul_iff_left₀ (unit_pos _)]
      exact_mod_cast Iff.rfl
    rw [hround, hhalf]
    have hk : 0 < 10 ^ j := by positivity
    have hsplit := Nat.div_add_mod' d.coefficient.natAbs (10 ^ j)
    have hmod := Nat.mod_lt d.coefficient.natAbs hk
    unfold roundDivNat
    dsimp only
    rcases Nat.eq_zero_or_pos (d.coefficient.natAbs / 10 ^ j) with hzero | hquot
    · rw [hzero] at hsplit ⊢
      split <;> omega
    · have hmul : 10 ^ j ≤ d.coefficient.natAbs / 10 ^ j * 10 ^ j := Nat.le_mul_of_pos_left _ hquot
      split <;> omega

/-- What is kept has at most the digits of the context. -/
theorem representable_rounded (d : Decimal) : Representable ctx.precision (ctx.rounded d).toRat := by
  rcases le_or_gt (unit ctx.emin) |d.toRat| with hnormal | hsmall
  · rw [ctx.rounded_of_emin_le hnormal]
    exact representable_round ctx.precision_pos d
  · have hkept := ctx.abs_rounded_le hsmall
    rw [ctx.toRat_rounded_of_lt_emin hsmall] at hkept ⊢
    have hcoef : (d.rescale .halfEven ctx.etiny).coefficient.natAbs ≤ 10 ^ ctx.precision := by
      rw [unit_emin, abs_toRat, rescale_exponent, mul_le_mul_iff_left₀ (unit_pos _)] at hkept
      have hnat : (d.rescale .halfEven ctx.etiny).coefficient.natAbs ≤ 10 ^ (ctx.precision - 1) := by
        exact_mod_cast hkept
      exact hnat.trans (Nat.pow_le_pow_right (by norm_num) (by omega))
    have hrep := representable_multiple ctx.precision_pos hcoef ctx.etiny
    have habs := abs_toRat (d.rescale .halfEven ctx.etiny)
    rw [rescale_exponent] at habs
    rw [← habs] at hrep
    rcases abs_choice (d.rescale .halfEven ctx.etiny).toRat with hpos | hneg
    · rwa [hpos] at hrep
    · rw [hneg] at hrep
      have hback := hrep.neg
      rwa [neg_neg] at hback

/-- **Keeping a number first does not change what can be rounded to an exponent.** -/
theorem abs_rounded_lt_limitAt_iff (he : ctx.etiny ≤ e) :
    |(ctx.rounded d).toRat| < ctx.limitAt e ↔ |d.toRat| < ctx.limitAt e := by
  rcases le_or_gt (unit ctx.emin) |d.toRat| with hnormal | hsmall
  · rw [ctx.rounded_of_emin_le hnormal]
    exact abs_toRat_round_lt_iff ctx.precision_pos
  · have hkept := ctx.abs_rounded_le hsmall
    have hlimit : unit ctx.emin < ctx.limitAt e := by
      have hunit := unit_mono he
      have hpow : (10 : ℚ) ^ ctx.precision = 10 ^ (ctx.precision - 1) * 10 := by
        rw [← pow_succ, Nat.sub_add_cancel ctx.precision_pos]
      have hone : (1 : ℚ) ≤ 10 ^ (ctx.precision - 1) := one_le_pow₀ (by norm_num)
      rw [unit_emin, limitAt, hpow]
      nlinarith [unit_pos e, unit_pos ctx.etiny]
    exact ⟨fun _ => hsmall.trans hlimit, fun _ => hkept.trans_lt hlimit⟩

/-! ## What the operations return -/

/-- Nothing is left of a number that is kept as zero but the smallest exponent. -/
theorem adjusted_rounded_of_zero (hd : d.coefficient ≠ 0) (hzero : (ctx.rounded d).coefficient = 0) :
    (ctx.rounded d).adjusted ≤ ctx.emax := by
  have hkept := ctx.toRat_rounded_eq_zero_iff.1 (toRat_eq_zero_iff.2 hzero)
  have hsmall : d.adjusted < ctx.emin := by
    rw [adjusted_lt_iff hd, unit_emin]
    have hone : (1 : ℚ) ≤ 10 ^ (ctx.precision - 1) := one_le_pow₀ (by norm_num)
    nlinarith [unit_pos ctx.etiny]
  have hprec := ctx.precision_le
  have hemin := ctx.emin_le
  unfold rounded at hzero ⊢
  rw [if_pos hsmall] at hzero ⊢
  split at hzero
  · exact absurd hzero hd
  rename_i hexp
  rw [if_neg hexp, adjusted, hzero, rescale_exponent, etiny]
  have hcount : digitCount (Int.natAbs 0) = 0 := by decide
  rw [hcount]
  omega

/-- The limit is the half before the power of ten after the largest exponent. -/
theorem abs_rounded_lt_iff_limit :
    |(ctx.rounded d).toRat| < unit (ctx.emax + 1) ↔ |d.toRat| < ctx.limit := by
  have hprec := ctx.precision_le
  have hemin := ctx.emin_le
  have heven : 10 ^ ctx.precision % 2 = 0 := by
    obtain ⟨p, hp⟩ : ∃ p, ctx.precision = p + 1 := ⟨ctx.precision - 1, by have := ctx.precision_pos; omega⟩
    rw [hp, pow_succ]
    omega
  have hunit : unit (ctx.emax + 1) = (10 ^ ctx.precision : Nat) * unit (ctx.emax + 1 - ctx.precision) := by
    push_cast
    rw [← unit_add, sub_add_cancel]
  have hkept := ctx.abs_rounded_lt_iff (d := d) (e := ctx.emax + 1 - ctx.precision) heven
    (Nat.pow_lt_pow_right (by norm_num) (Nat.sub_lt ctx.precision_pos one_pos)) le_rfl
    (by unfold etiny; omega)
  rw [hunit, hkept, limit]
  push_cast
  exact Iff.rfl

/-- **An operation returns exactly when the exact value is below the limit.** -/
theorem fix_isOk_iff : (∃ r, ctx.fix d = .ok r) ↔ |d.toRat| < ctx.limit := by
  rw [← abs_rounded_lt_iff_limit]
  unfold fix
  split
  · rename_i hzero
    obtain ⟨c, e⟩ := d
    obtain rfl : c = 0 := hzero
    rw [toRat_rounded_zero, abs_zero]
    exact ⟨fun _ => unit_pos _, fun _ => ⟨_, rfl⟩⟩
  rename_i hd
  have hsize : ctx.emax < (ctx.rounded d).adjusted ↔ ¬ |(ctx.rounded d).toRat| < unit (ctx.emax + 1) := by
    by_cases hzero : (ctx.rounded d).coefficient = 0
    · have hle := ctx.adjusted_rounded_of_zero hd hzero
      have hlt : |(ctx.rounded d).toRat| < unit (ctx.emax + 1) := by
        rw [toRat_eq_zero_iff.2 hzero, abs_zero]
        exact unit_pos _
      exact ⟨fun h => absurd h (not_lt.2 hle), fun h => absurd hlt h⟩
    · rw [← adjusted_lt_iff hzero]
      omega
  split
  · rename_i hlarge
    exact ⟨fun ⟨_, h⟩ => (nomatch h), fun h => absurd h (hsize.1 hlarge)⟩
  · rename_i hsmall
    exact ⟨fun _ => not_not.1 (mt hsize.2 hsmall), fun _ => ⟨_, rfl⟩⟩

/-- **What an operation returns is the exact value as the context keeps it.** -/
theorem toRat_fix (h : ctx.fix d = .ok r) : r.toRat = (ctx.rounded d).toRat := by
  unfold fix at h
  split at h
  · rename_i hzero
    obtain ⟨c, e⟩ := d
    obtain rfl : c = 0 := hzero
    rw [Except.ok.injEq] at h
    rw [toRat_rounded_zero, ← h, toRat_eq_zero_iff]
  · split at h
    · cases h
    rw [Except.ok.injEq] at h
    rw [h]

theorem quantize_isOk_iff :
    (∃ r, ctx.quantize .halfUp d e = .ok r) ↔ |d.toRat| < ctx.limitAt e := by
  rw [limitAt, ← quantize_isSome_iff]
  unfold quantize
  split
  · rename_i hsome
    rw [hsome]
    exact ⟨fun _ => rfl, fun _ => ⟨_, rfl⟩⟩
  · rename_i hnone
    rw [hnone]
    exact ⟨fun ⟨_, h⟩ => (nomatch h), fun h => nomatch h⟩

theorem quantize_eq_ok {mode : Rounding} :
    ctx.quantize mode d e = .ok r ↔ (d.rescale mode e).Fits ctx.precision ∧ d.rescale mode e = r := by
  rw [← quantize_eq_some]
  unfold quantize
  split
  · rename_i hsome
    rw [hsome, Except.ok.injEq, Option.some.injEq]
  · rename_i hnone
    rw [hnone]
    simp only [reduceCtorEq]

/-! ## Quotients -/

theorem sticky_lt_iff {n k t : Nat} (hk : 0 < k) :
    ((if n / k % 5 = 0 then n / k + 1 else n / k : Nat) : ℚ) < 5 * t ↔ (n : ℚ) / k < 5 * t := by
  have hkq : (0 : ℚ) < k := by exact_mod_cast hk
  have hexact : (n : ℚ) / k < 5 * t ↔ n / k < 5 * t := by
    rw [div_lt_iff₀ hkq, Nat.div_lt_iff_lt_mul hk]
    exact_mod_cast Iff.rfl
  rw [hexact]
  have hnat : (if n / k % 5 = 0 then n / k + 1 else n / k) < 5 * t ↔ n / k < 5 * t := by
    split <;> omega
  rw [← hnat]
  exact_mod_cast Iff.rfl

/-- **The quotient has the halves of the exact one as its thresholds**, when they are halves of numbers of
the precision. -/
theorem abs_quotient_lt_iff {prec m : Nat} {a b : Decimal} {f : Int} (hb : b.coefficient ≠ 0) (hm : 0 < m)
    (hhigh : m ≤ 10 ^ prec) :
    |(quotient prec a b).toRat| < (m - 1 / 2) * unit f ↔ |a.toRat| / |b.toRat| < (m - 1 / 2) * unit f := by
  have hm' : (1 : ℚ) ≤ m := by exact_mod_cast hm
  have hhigh' : (m : ℚ) ≤ 10 ^ prec := by exact_mod_cast hhigh
  by_cases ha : a.coefficient = 0
  · have hzero : (quotient prec a b).toRat = 0 := by
      rw [quotient, if_pos ha, toRat_eq_zero_iff]
    rw [hzero, toRat_eq_zero_iff.2 ha, abs_zero, zero_div]
  have hA := Int.natAbs_pos.2 ha
  have hB := Int.natAbs_pos.2 hb
  have hsign : (a.coefficient.sign * b.coefficient.sign).natAbs = 1 := by
    rw [Int.natAbs_mul, Int.natAbs_sign_of_ne_zero ha, Int.natAbs_sign_of_ne_zero hb]
  have hsize : ∀ (q : Nat) (e : Int),
      |(⟨a.coefficient.sign * b.coefficient.sign * q, e⟩ : Decimal).toRat| = q * unit e := by
    intro q e
    rw [abs_toRat, Int.natAbs_mul, hsign, Int.natAbs_natCast, one_mul]
  have hlong := le_scaled_div prec hA hB
  unfold quotient
  rw [if_neg ha]
  dsimp only
  generalize (digitCount b.coefficient.natAbs : Int) - digitCount a.coefficient.natAbs + prec + 1 = shift
    at hlong ⊢
  have hvalue := scaled_quotient a b shift
  have hk : 0 < b.coefficient.natAbs * 10 ^ (-shift).toNat := Nat.mul_pos hB (by positivity)
  generalize a.coefficient.natAbs * 10 ^ shift.toNat = n at hlong hvalue ⊢
  generalize b.coefficient.natAbs * 10 ^ (-shift).toNat = k at hlong hvalue hk ⊢
  generalize a.exponent - b.exponent - shift = e at hvalue ⊢
  have hkq : (0 : ℚ) < k := by exact_mod_cast hk
  have hue := unit_pos e
  rw [← hvalue]
  split
  · rename_i hexact
    have hquot : ((n / k : Nat) : ℚ) = n / k :=
      Nat.cast_div (Nat.dvd_of_mod_eq_zero hexact) hkq.ne'
    rw [hsize, stripZeros_value, hquot]
  have hcast := hsize (if n / k % 5 = 0 then n / k + 1 else n / k) e
  push_cast at hcast ⊢
  rw [hcast]
  rcases le_or_gt f e with hfe | _
  · -- both are at least the power of ten that no threshold at a smaller exponent passes
    have hunit := unit_mono hfe
    have hlong' : (10 : ℚ) ^ prec ≤ (n / k : Nat) := by exact_mod_cast hlong
    have hfloor : ((n / k : Nat) : ℚ) ≤ n / k := Nat.cast_div_le
    have hsticky : ((n / k : Nat) : ℚ) ≤
        (if n / k % 5 = 0 then ((n / k : Nat) : ℚ) + 1 else ((n / k : Nat) : ℚ)) := by
      split
      · linarith
      · exact le_rfl
    have hbound : (m - 1 / 2) * unit f < ((n / k : Nat) : ℚ) * unit e := by
      calc (m - 1 / 2) * unit f < 10 ^ prec * unit f := by nlinarith [unit_pos f]
        _ ≤ ((n / k : Nat) : ℚ) * unit e := mul_le_mul hlong' hunit (unit_pos _).le (by positivity)
    constructor
    all_goals
      intro h
      nlinarith
  · -- the threshold is a multiple of five at the exponent of the digits
    obtain ⟨i, hi⟩ : ∃ i : Nat, f = e + (i + 1 : Nat) := ⟨(f - e).toNat - 1, by omega⟩
    have hthr : (m - 1 / 2) * unit f = 5 * ((2 * m - 1) * 10 ^ i : Nat) * unit e := by
      have hcast : ((2 * m - 1 : Nat) : ℚ) = 2 * m - 1 := by
        rw [Nat.cast_sub (by omega)]
        push_cast
        ring
      rw [hi, unit_add, pow_succ]
      push_cast
      rw [hcast]
      ring
    have hsticky := sticky_lt_iff (n := n) (t := (2 * m - 1) * 10 ^ i) hk
    push_cast at hsticky hthr
    rw [hthr, mul_lt_mul_iff_left₀ hue, mul_lt_mul_iff_left₀ hue]
    exact hsticky

theorem exists_quotient_eq (prec : Nat) (a b : Decimal) :
    ∃ (q : Nat) (e : Int), quotient prec a b = ⟨a.coefficient.sign * b.coefficient.sign * q, e⟩ := by
  unfold quotient
  split
  · refine ⟨0, a.exponent - b.exponent, ?_⟩
    rw [Nat.cast_zero, mul_zero]
  · dsimp only
    split
    · exact ⟨_, _, rfl⟩
    · split
      · exact ⟨_ + 1, _, rfl⟩
      · exact ⟨_, _, rfl⟩

theorem toRat_quotient_nonneg (ha : 0 ≤ a.toRat) (hb : 0 ≤ b.toRat) :
    0 ≤ (quotient prec a b).toRat := by
  obtain ⟨q, e, hquotient⟩ := exists_quotient_eq prec a b
  rw [toRat_nonneg_iff] at ha hb ⊢
  rw [hquotient]
  exact mul_nonneg (mul_nonneg (Int.sign_nonneg_iff.2 ha) (Int.sign_nonneg_iff.2 hb)) (Int.natCast_nonneg q)

theorem toRat_quotient_nonpos (ha : a.toRat ≤ 0) (hb : 0 ≤ b.toRat) :
    (quotient prec a b).toRat ≤ 0 := by
  obtain ⟨q, e, hquotient⟩ := exists_quotient_eq prec a b
  have ha' : a.coefficient ≤ 0 := by
    have hflip := toRat_nonneg_iff (d := a.negExact)
    rw [toRat_negExact, neg_nonneg] at hflip
    exact neg_nonneg.1 (hflip.1 ha)
  rw [toRat_nonneg_iff] at hb
  rw [hquotient, toRat, ← neg_nonneg, ← neg_mul]
  apply mul_nonneg _ (unit_pos e).le
  have hprod : a.coefficient.sign * b.coefficient.sign * (q : Int) ≤ 0 :=
    mul_nonpos_of_nonpos_of_nonneg
      (mul_nonpos_of_nonpos_of_nonneg (Int.sign_nonpos_iff.2 ha') (Int.sign_nonneg_iff.2 hb))
      (Int.natCast_nonneg q)
  exact_mod_cast neg_nonneg.2 hprod

theorem div_of_ne_zero (hb : b.toRat ≠ 0) :
    ctx.div a b = ctx.fix (quotient ctx.precision a b) :=
  if_neg (mt toRat_eq_zero_iff.2 hb)

/-- **A quotient by a number that is not zero returns** exactly when the exact one is below the limit. -/
theorem div_isOk_iff :
    (∃ r, ctx.div a b = .ok r) ↔ b.toRat ≠ 0 ∧ |a.toRat| / |b.toRat| < ctx.limit := by
  by_cases hb : b.toRat = 0
  · rw [div, if_pos (toRat_eq_zero_iff.1 hb)]
    exact ⟨fun ⟨_, h⟩ => (nomatch h), fun h => absurd hb h.1⟩
  · have hquotient := @abs_quotient_lt_iff ctx.precision (10 ^ ctx.precision) a b
      (ctx.emax + 1 - ctx.precision) (mt toRat_eq_zero_iff.2 hb) (by positivity) le_rfl
    push_cast at hquotient
    rw [ctx.div_of_ne_zero hb, fix_isOk_iff, limit, hquotient]
    exact ⟨fun h => ⟨hb, h⟩, fun h => h.2⟩

/-- **What a quotient is kept as stays below an even number of units** exactly when the exact one is below
the half before it. -/
theorem abs_div_lt_iff (h : ctx.div a b = .ok r) (heven : m % 2 = 0)
    (hlow : 10 ^ (ctx.precision - 1) < m) (hhigh : m ≤ 10 ^ ctx.precision) (he : ctx.etiny ≤ e) :
    |r.toRat| < m * unit e ↔ |a.toRat| / |b.toRat| < (m - 1 / 2) * unit e := by
  obtain ⟨hb, -⟩ := ctx.div_isOk_iff.1 ⟨r, h⟩
  rw [ctx.div_of_ne_zero hb] at h
  rw [ctx.toRat_fix h, ctx.abs_rounded_lt_iff heven hlow hhigh he]
  exact abs_quotient_lt_iff (mt toRat_eq_zero_iff.2 hb) (Nat.zero_lt_of_lt hlow) hhigh

theorem abs_div_lt_limitAt_iff (h : ctx.div a b = .ok r) (he : ctx.etiny ≤ e) :
    |r.toRat| < ctx.limitAt e ↔ |a.toRat| / |b.toRat| < ctx.limitAt e := by
  obtain ⟨hb, -⟩ := ctx.div_isOk_iff.1 ⟨r, h⟩
  have hquotient := @abs_quotient_lt_iff ctx.precision (10 ^ ctx.precision) a b e
    (mt toRat_eq_zero_iff.2 hb) (by positivity) le_rfl
  push_cast at hquotient
  rw [ctx.div_of_ne_zero hb] at h
  rw [ctx.toRat_fix h, ctx.abs_rounded_lt_limitAt_iff he]
  exact hquotient

theorem toRat_div_nonneg (h : ctx.div a b = .ok r) (ha : 0 ≤ a.toRat) (hb : 0 ≤ b.toRat) :
    0 ≤ r.toRat := by
  rw [ctx.div_of_ne_zero (ctx.div_isOk_iff.1 ⟨r, h⟩).1] at h
  rw [ctx.toRat_fix h]
  exact ctx.toRat_rounded_nonneg (toRat_quotient_nonneg ha hb)

theorem toRat_div_nonpos (h : ctx.div a b = .ok r) (ha : a.toRat ≤ 0) (hb : 0 ≤ b.toRat) :
    r.toRat ≤ 0 := by
  rw [ctx.div_of_ne_zero (ctx.div_isOk_iff.1 ⟨r, h⟩).1] at h
  rw [ctx.toRat_fix h]
  exact ctx.toRat_rounded_nonpos (toRat_quotient_nonpos ha hb)

end DecimalContext
