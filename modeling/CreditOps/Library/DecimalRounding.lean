import Mathlib.Algebra.Group.Subgroup.ZPowers.Basic
import Mathlib.Algebra.Order.Archimedean.Basic
import Mathlib.Data.Nat.Cast.Field
import Mathlib.Tactic.LinearCombination
import CreditOps.Library.Decimal

/-!
# What decimal rounding does

The rounding of a context never crosses a number of its precision (`abs_toRat_round_le`,
`le_abs_toRat_round`), so a result that is representable is exact (`toRat_round_of_representable`), and it
keeps the order of the values (`toRat_round_mono`). Half up to an exponent is the floor of the shifted
quotient (`toRat_rescale_halfUp`), and `quantize` succeeds below one value that depends on the precision
and the exponent only, also on a rounded operand (`quantize_isSome_iff`, `quantize_round_isSome_iff`). A
quotient is at most every number of the precision that the exact quotient is at most (`toRat_div_le`).
-/

set_option autoImplicit false

namespace Decimal

/-! ## Rounded quotients -/

theorem le_roundDivNat (mode : Rounding) (n k : Nat) : n / k ≤ roundDivNat mode n k := by
  unfold roundDivNat
  cases mode with
  | halfUp | halfEven => dsimp only; split <;> omega

theorem roundDivNat_le (mode : Rounding) (n k : Nat) : roundDivNat mode n k ≤ n / k + 1 := by
  unfold roundDivNat
  cases mode with
  | halfUp | halfEven => dsimp only; split <;> omega

variable {j k m n prec : Nat}

@[simp] theorem roundDivNat_mul (mode : Rounding) (q : Nat) (hk : 0 < k) :
    roundDivNat mode (q * k) k = q := by
  have hmod : q * k % k = 0 := Nat.mul_mod_left q k
  have hdiv : q * k / k = q := Nat.mul_div_cancel q hk
  unfold roundDivNat
  rw [hmod, hdiv]
  cases mode with
  | halfUp | halfEven => exact if_neg (by omega)

theorem roundDivNat_le_of_le_mul (mode : Rounding) (hk : 0 < k) (h : n ≤ m * k) :
    roundDivNat mode n k ≤ m := by
  rcases h.lt_or_eq with hlt | rfl
  · have hquot : n / k < m := (Nat.div_lt_iff_lt_mul hk).2 hlt
    have hround := roundDivNat_le mode n k
    omega
  · rw [roundDivNat_mul mode m hk]

theorem le_roundDivNat_of_mul_le (mode : Rounding) (hk : 0 < k) (h : m * k ≤ n) :
    m ≤ roundDivNat mode n k :=
  ((Nat.le_div_iff_mul_le hk).2 h).trans (le_roundDivNat mode n k)

theorem natAbs_roundDiv (mode : Rounding) (n : Int) (hk : 0 < k) :
    (roundDiv mode n k).natAbs = roundDivNat mode n.natAbs k := by
  rw [roundDiv, Int.natAbs_mul, Int.natAbs_natCast]
  rcases eq_or_ne n 0 with rfl | hn
  · have hzero := roundDivNat_mul mode 0 hk
    rw [zero_mul] at hzero
    rw [Int.natAbs_zero, hzero, mul_zero]
  · rw [Int.natAbs_sign_of_ne_zero hn, one_mul]

theorem roundDiv_nonneg (mode : Rounding) {n : Int} (hn : 0 ≤ n) (k : Nat) : 0 ≤ roundDiv mode n k := by
  apply mul_nonneg (Int.sign_nonneg_iff.2 hn)
  exact Int.natCast_nonneg _

theorem roundDiv_neg (mode : Rounding) (n : Int) (k : Nat) : roundDiv mode (-n) k = -roundDiv mode n k := by
  rw [roundDiv, roundDiv, Int.sign_neg, Int.natAbs_neg, neg_mul]

theorem roundDiv_mul (mode : Rounding) (q : Int) (hk : 0 < k) :
    roundDiv mode (q * k) k = q := by
  have hpos : (k : Int).sign = 1 := Int.sign_eq_one_of_pos (by exact_mod_cast hk)
  have hsign : (q * (k : Int)).sign = q.sign := by
    rw [Int.sign_mul, hpos, mul_one]
  have habs : (q * (k : Int)).natAbs = q.natAbs * k := by
    rw [Int.natAbs_mul, Int.natAbs_natCast]
  rw [roundDiv, hsign, habs, roundDivNat_mul mode _ hk, Int.sign_mul_natAbs]

/-! ## Rescaling -/

theorem rescale_exponent (mode : Rounding) (d : Decimal) (e : Int) :
    (d.rescale mode e).exponent = e := by
  unfold rescale
  split <;> rfl

variable {a b c d r : Decimal} {e : Int}

theorem toRat_rescale_of_le (mode : Rounding) (he : e ≤ d.exponent) :
    (d.rescale mode e).toRat = d.toRat := by
  rw [rescale, if_pos he, toRat]
  exact coefficientAt_cast he

theorem rescale_exponent_self (mode : Rounding) (d : Decimal) : d.rescale mode d.exponent = d := by
  rw [rescale, if_pos le_rfl, coefficientAt, sub_self, Int.toNat_zero, pow_zero, mul_one]

theorem rescale_add (mode : Rounding) (d : Decimal) (hm : 0 < m) :
    d.rescale mode (d.exponent + m) = ⟨roundDiv mode d.coefficient (10 ^ m), d.exponent + m⟩ := by
  have hexp : (d.exponent + m - d.exponent).toNat = m := by omega
  rw [rescale, if_neg (by omega), hexp]

theorem toRat_rescale_add (mode : Rounding) (d : Decimal) (hm : 0 < m) :
    (d.rescale mode (d.exponent + m)).toRat =
      roundDiv mode d.coefficient (10 ^ m) * unit (d.exponent + m) := by
  rw [rescale_add mode d hm, toRat, unit]

theorem toRat_rescale_succ (mode : Rounding) {q : Int} (h : d.coefficient = q * 10) :
    (d.rescale mode (d.exponent + 1)).toRat = d.toRat := by
  have hround := roundDiv_mul mode q (k := 10) (by norm_num)
  have hstep := toRat_rescale_add mode d (m := 1) (by norm_num)
  rw [Nat.cast_one, pow_one] at hstep
  rw [hstep, h]
  push_cast at hround
  rw [hround, toRat, h, unit, zpow_add_one₀ (by norm_num)]
  push_cast
  ring

/-! ## The rounding of a context -/

/-- **What rounding a long number does.** It keeps the leading `prec` digits and rounds the rest away. -/
theorem toRat_round_of_not_fits (hprec : 0 < prec) (hbig : ¬ d.Fits prec) :
    ∃ j : Nat, 10 ^ (prec - 1) ≤ d.coefficient.natAbs / 10 ^ j ∧
      d.coefficient.natAbs / 10 ^ j < 10 ^ prec ∧
      (d.round prec).toRat = roundDiv .halfEven d.coefficient (10 ^ j) * unit (d.exponent + j) := by
  obtain ⟨excess, hexcess⟩ : ∃ n, n = digitCount d.coefficient.natAbs - prec := ⟨_, rfl⟩
  have hdigits : prec < digitCount d.coefficient.natAbs := Nat.lt_of_not_le hbig
  have hhigh : d.coefficient.natAbs / 10 ^ excess < 10 ^ prec := by
    rw [Nat.div_lt_iff_lt_mul (by positivity), ← pow_add]
    exact digitCount_le_iff.1 (by omega)
  have hlow : 10 ^ (prec - 1) ≤ d.coefficient.natAbs / 10 ^ excess := by
    rw [Nat.le_div_iff_mul_le (by positivity), ← pow_add]
    by_contra hshort
    have hcount := digitCount_le_iff.2 (not_le.1 hshort)
    omega
  refine ⟨excess, hlow, hhigh, ?_⟩
  have hrescale := toRat_rescale_add .halfEven d (m := excess) (by omega)
  rw [round, if_neg hbig, ← hexcess]
  dsimp only
  split
  · exact hrescale
  · -- the rounding carried into one more digit, so the coefficient is a power of ten
    rename_i hcarry
    rw [fits_iff, rescale_add .halfEven d (by omega), natAbs_roundDiv _ _ (by positivity)] at hcarry
    have hcarry' := roundDivNat_le .halfEven d.coefficient.natAbs (10 ^ excess)
    have hpow : 10 ^ prec = 10 ^ (prec - 1) * 10 := by
      rw [← pow_succ]
      congr 1
      omega
    have hexact : (roundDiv .halfEven d.coefficient (10 ^ excess)).natAbs = 10 ^ (prec - 1) * 10 := by
      rw [natAbs_roundDiv _ _ (by positivity), ← hpow]
      omega
    rw [← hrescale]
    refine toRat_rescale_succ .halfEven
      (q := (roundDiv .halfEven d.coefficient (10 ^ excess)).sign * 10 ^ (prec - 1)) ?_
    rw [rescale_add .halfEven d (by omega)]
    conv_lhs => rw [← Int.sign_mul_natAbs (roundDiv .halfEven d.coefficient (10 ^ excess)), hexact]
    push_cast
    ring

theorem abs_toRat_round_of_not_fits (hprec : 0 < prec) (hbig : ¬ d.Fits prec) :
    ∃ j : Nat, 10 ^ (prec - 1) ≤ d.coefficient.natAbs / 10 ^ j ∧
      d.coefficient.natAbs / 10 ^ j < 10 ^ prec ∧
      |(d.round prec).toRat| =
        roundDivNat .halfEven d.coefficient.natAbs (10 ^ j) * unit (d.exponent + j) := by
  obtain ⟨j, hlow, hhigh, hvalue⟩ := toRat_round_of_not_fits hprec hbig
  refine ⟨j, hlow, hhigh, ?_⟩
  rw [hvalue, ← natAbs_roundDiv .halfEven d.coefficient (k := 10 ^ j) (by positivity)]
  exact abs_toRat ⟨roundDiv .halfEven d.coefficient (10 ^ j), d.exponent + j⟩

theorem rescale_negExact (mode : Rounding) (d : Decimal) (e : Int) :
    d.negExact.rescale mode e = (d.rescale mode e).negExact := by
  unfold rescale negExact coefficientAt
  dsimp only
  split
  · rw [neg_mul]
  · rw [roundDiv_neg]

theorem round_negExact (d : Decimal) :
    d.negExact.round prec = (d.round prec).negExact := by
  have hfits : ∀ x : Decimal, x.negExact.Fits prec ↔ x.Fits prec := by
    intro x
    rw [fits_iff, fits_iff, negExact, Int.natAbs_neg]
  unfold round
  dsimp only
  simp only [hfits, rescale_negExact]
  simp only [negExact, Int.natAbs_neg]
  split
  · rfl
  · split <;> rfl

theorem toRat_round_nonneg (hprec : 0 < prec) (hd : 0 ≤ d.toRat) :
    0 ≤ (d.round prec).toRat := by
  by_cases hfits : d.Fits prec
  · rw [round_of_fits hfits]
    exact hd
  · obtain ⟨j, -, -, hvalue⟩ := toRat_round_of_not_fits hprec hfits
    rw [hvalue]
    apply mul_nonneg _ (unit_pos _).le
    exact_mod_cast roundDiv_nonneg .halfEven (toRat_nonneg_iff.1 hd) (10 ^ j)

theorem toRat_round_nonpos (hprec : 0 < prec) (hd : d.toRat ≤ 0) :
    (d.round prec).toRat ≤ 0 := by
  have hflip := toRat_round_nonneg (d := d.negExact) hprec (by rw [toRat_negExact]; linarith)
  rw [round_negExact, toRat_negExact] at hflip
  linarith

variable {x : ℚ}

/-- A number of the precision that is not below the leading digits is a multiple of their unit. -/
theorem exists_multiple_of_le (hx : Representable prec x) (hle : 10 ^ (prec - 1) * unit e ≤ x) :
    ∃ m : Nat, x = m * unit e := by
  obtain ⟨y, hfits, rfl⟩ := hx
  have hpos : 0 ≤ y.toRat := le_trans (by positivity [unit_pos e]) hle
  have hexp : e ≤ y.exponent := by
    by_contra hlt
    have hsmall := fits_iff_abs_lt.1 hfits
    have hnext : 10 * unit y.exponent ≤ unit e := by
      calc 10 * unit y.exponent = unit (y.exponent + (1 : Nat)) := by rw [unit_add, pow_one]
        _ ≤ unit e := unit_mono (by push_cast; omega)
    have hpow : (10 : ℚ) ^ prec ≤ 10 ^ (prec - 1) * 10 := by
      rw [← pow_succ]
      exact pow_le_pow_right₀ (by norm_num) (by omega)
    rw [abs_of_nonneg hpos] at hsmall
    have hbound : 10 ^ prec * unit y.exponent ≤ 10 ^ (prec - 1) * unit e := by
      calc (10 : ℚ) ^ prec * unit y.exponent ≤ 10 ^ (prec - 1) * 10 * unit y.exponent :=
            mul_le_mul_of_nonneg_right hpow (unit_pos _).le
        _ = 10 ^ (prec - 1) * (10 * unit y.exponent) := mul_assoc _ _ _
        _ ≤ 10 ^ (prec - 1) * unit e := mul_le_mul_of_nonneg_left hnext (by positivity)
    linarith
  refine ⟨(y.coefficientAt e).natAbs, ?_⟩
  have hcast := coefficientAt_cast hexp
  have hcoeff : 0 ≤ y.coefficientAt e := by
    apply mul_nonneg (toRat_nonneg_iff.1 hpos)
    positivity
  rw [← hcast, unit, ← Int.cast_natCast, Int.natAbs_of_nonneg hcoeff]

/-- **Rounding does not cross a number of the precision, upwards.** -/
theorem abs_toRat_round_le (hprec : 0 < prec) (hx : Representable prec x) (h : |d.toRat| ≤ x) :
    |(d.round prec).toRat| ≤ x := by
  by_cases hfits : d.Fits prec
  · rw [round_of_fits hfits]
    exact h
  obtain ⟨j, hlow, -, hvalue⟩ := abs_toRat_round_of_not_fits hprec hfits
  rw [abs_toRat] at h
  have hsplit := unit_add d.exponent j
  have hleading : 10 ^ (prec - 1) * unit (d.exponent + j) ≤ x := by
    refine le_trans ?_ h
    rw [hsplit, ← mul_assoc, ← pow_add]
    apply mul_le_mul_of_nonneg_right _ (unit_pos _).le
    have hmul := (Nat.le_div_iff_mul_le (by positivity)).1 hlow
    rw [← pow_add] at hmul
    exact_mod_cast hmul
  obtain ⟨m, rfl⟩ := exists_multiple_of_le hx hleading
  rw [hvalue]
  apply mul_le_mul_of_nonneg_right _ (unit_pos _).le
  rw [hsplit, ← mul_assoc, mul_le_mul_iff_left₀ (unit_pos _)] at h
  have hnat : d.coefficient.natAbs ≤ m * 10 ^ j := by exact_mod_cast h
  exact_mod_cast roundDivNat_le_of_le_mul .halfEven (by positivity) hnat

/-- **Rounding does not cross a number of the precision, downwards.** -/
theorem le_abs_toRat_round (hprec : 0 < prec) (hx : Representable prec x) (h : x ≤ |d.toRat|) :
    x ≤ |(d.round prec).toRat| := by
  by_cases hfits : d.Fits prec
  · rw [round_of_fits hfits]
    exact h
  obtain ⟨j, hlow, -, hvalue⟩ := abs_toRat_round_of_not_fits hprec hfits
  rw [abs_toRat] at h
  have hsplit := unit_add d.exponent j
  rw [hvalue]
  rcases le_or_gt (10 ^ (prec - 1) * unit (d.exponent + j)) x with hleading | hsmall
  · obtain ⟨m, rfl⟩ := exists_multiple_of_le hx hleading
    apply mul_le_mul_of_nonneg_right _ (unit_pos _).le
    rw [hsplit, ← mul_assoc, mul_le_mul_iff_left₀ (unit_pos _)] at h
    have hnat : m * 10 ^ j ≤ d.coefficient.natAbs := by exact_mod_cast h
    exact_mod_cast le_roundDivNat_of_mul_le .halfEven (by positivity) hnat
  · refine hsmall.le.trans ?_
    apply mul_le_mul_of_nonneg_right _ (unit_pos _).le
    exact_mod_cast hlow.trans (le_roundDivNat .halfEven _ _)

/-- **A representable value is not rounded.** -/
theorem toRat_round_of_representable (hprec : 0 < prec) (h : Representable prec d.toRat) :
    (d.round prec).toRat = d.toRat := by
  have habs : |(d.round prec).toRat| = |d.toRat| :=
    le_antisymm (abs_toRat_round_le hprec h.abs le_rfl) (le_abs_toRat_round hprec h.abs le_rfl)
  rcases le_total 0 d.toRat with hpos | hneg
  · rwa [abs_of_nonneg hpos, abs_of_nonneg (toRat_round_nonneg hprec hpos)] at habs
  · rw [abs_of_nonpos hneg, abs_of_nonpos (toRat_round_nonpos hprec hneg)] at habs
    exact neg_injective habs

/-- Leading digits are found at one place only. -/
theorem leading_place_unique {i : Nat} (hprec : 0 < prec) (hlow : 10 ^ (prec - 1) ≤ n / 10 ^ j)
    (hhigh : n / 10 ^ i < 10 ^ prec) : j ≤ i := by
  by_contra hlt
  obtain ⟨k, hk⟩ : ∃ k, j = i + 1 + k := ⟨j - (i + 1), by omega⟩
  have hsplit : n / 10 ^ j = n / 10 ^ i / (10 * 10 ^ k) := by
    rw [Nat.div_div_eq_div_mul, hk, pow_add, pow_succ, mul_assoc]
  have hpow : 10 ^ prec = 10 ^ (prec - 1) * 10 := by
    rw [← pow_succ]
    congr 1
    omega
  have hshort : n / 10 ^ j < 10 ^ (prec - 1) := by
    rw [hsplit, Nat.div_lt_iff_lt_mul (by positivity)]
    have hone : 1 ≤ 10 ^ k := Nat.one_le_pow _ _ (by norm_num)
    calc n / 10 ^ i < 10 ^ (prec - 1) * 10 := hpow ▸ hhigh
      _ = 10 ^ (prec - 1) * (10 * 1) := by ring
      _ ≤ 10 ^ (prec - 1) * (10 * 10 ^ k) :=
        Nat.mul_le_mul_left _ (Nat.mul_le_mul_left _ hone)
  omega

theorem roundDivNat_mul_right (mode : Rounding) (n k : Nat) (hm : 0 < m) :
    roundDivNat mode (n * m) (k * m) = roundDivNat mode n k := by
  have hdiv : n * m / (k * m) = n / k := Nat.mul_div_mul_right _ _ hm
  have hmod : n * m % (k * m) = n % k * m := Nat.mul_mod_mul_right _ _ _
  have htwice : 2 * (n % k * m) = 2 * (n % k) * m := by ring
  unfold roundDivNat
  rw [hdiv, hmod, htwice]
  simp only [Nat.mul_le_mul_right_iff hm, Nat.mul_lt_mul_right hm, Nat.mul_left_inj hm.ne']

theorem coefficient_of_toRat_eq (h : a.toRat = b.toRat) (hk : b.exponent = a.exponent + k) :
    a.coefficient = b.coefficient * 10 ^ k := by
  have hshift := unit_add a.exponent k
  rw [← hk] at hshift
  have hcast : (a.coefficient : ℚ) * unit a.exponent =
      (b.coefficient * 10 ^ k : Int) * unit a.exponent := by
    push_cast
    calc (a.coefficient : ℚ) * unit a.exponent = b.coefficient * unit b.exponent := h
      _ = b.coefficient * 10 ^ k * unit a.exponent := by rw [hshift, mul_assoc]
  exact_mod_cast mul_right_cancel₀ (unit_pos a.exponent).ne' hcast

theorem roundDiv_mul_right (mode : Rounding) (n : Int) (j k : Nat) :
    roundDiv mode (n * 10 ^ k) (10 ^ (j + k)) = roundDiv mode n (10 ^ j) := by
  have hsign : (n * 10 ^ k).sign = n.sign := by
    have hten : (0 : Int) < 10 ^ k := pow_pos (by norm_num) k
    rw [Int.sign_mul, Int.sign_eq_one_of_pos hten, mul_one]
  have hnat : (n * 10 ^ k).natAbs = n.natAbs * 10 ^ k := by
    rw [Int.natAbs_mul, Int.natAbs_pow]
    rfl
  rw [roundDiv, roundDiv, hsign, hnat, pow_add, roundDivNat_mul_right _ _ _ (by positivity)]

/-- **Rescaling depends on the value only.** -/
theorem toRat_rescale_congr (mode : Rounding) (h : a.toRat = b.toRat) (e : Int) :
    (a.rescale mode e).toRat = (b.rescale mode e).toRat := by
  wlog hexp : a.exponent ≤ b.exponent generalizing a b
  · exact (this h.symm (by omega)).symm
  obtain ⟨k, hk⟩ : ∃ k : Nat, b.exponent = a.exponent + k :=
    ⟨(b.exponent - a.exponent).toNat, by omega⟩
  have hcoef := coefficient_of_toRat_eq h hk
  rcases le_or_gt e a.exponent with hea | hea
  · rw [toRat_rescale_of_le mode hea, toRat_rescale_of_le mode (hea.trans hexp), h]
  obtain ⟨i, hi⟩ : ∃ i : Nat, e = a.exponent + i := ⟨(e - a.exponent).toNat, by omega⟩
  rcases le_or_gt e b.exponent with heb | heb
  · -- the digits that the longer spelling loses are zeros
    obtain ⟨j, rfl⟩ : ∃ j, k = j + i := ⟨k - i, by omega⟩
    have hexact := roundDiv_mul mode (b.coefficient * 10 ^ j) (k := 10 ^ i) (by positivity)
    push_cast at hexact
    rw [toRat_rescale_of_le mode heb, hi, toRat_rescale_add mode a (by omega), hcoef, pow_add,
      ← mul_assoc, hexact, toRat, hk]
    have hunit := unit_add (a.exponent + i) j
    change _ = _ * unit _
    rw [add_assoc, ← Nat.cast_add, Nat.add_comm i j] at hunit
    rw [hunit]
    push_cast
    ring
  · obtain ⟨j, rfl⟩ : ∃ j, i = j + k := ⟨i - k, by omega⟩
    have hej : e = b.exponent + j := by omega
    have hleft := toRat_rescale_add mode a (m := j + k) (by omega)
    have hright := toRat_rescale_add mode b (m := j) (by omega)
    rw [← hi, hcoef, roundDiv_mul_right] at hleft
    rw [← hej] at hright
    rw [hleft, hright]

/-- **Rounding depends on the value only.** Two spellings of one number are rounded alike. -/
theorem toRat_round_congr (hprec : 0 < prec) (h : a.toRat = b.toRat) :
    (a.round prec).toRat = (b.round prec).toRat := by
  by_cases hrep : Representable prec a.toRat
  · rw [toRat_round_of_representable hprec hrep,
      toRat_round_of_representable hprec (h ▸ hrep), h]
  wlog he : a.exponent ≤ b.exponent generalizing a b
  · exact (this h.symm (h ▸ hrep) (by omega)).symm
  have hbigA : ¬ a.Fits prec := fun hfits => hrep ⟨a, hfits, rfl⟩
  have hbigB : ¬ b.Fits prec := fun hfits => hrep ⟨b, hfits, h.symm⟩
  obtain ⟨k, hk⟩ : ∃ k : Nat, b.exponent = a.exponent + k :=
    ⟨(b.exponent - a.exponent).toNat, by omega⟩
  have hcoef := coefficient_of_toRat_eq h hk
  obtain ⟨i, hlowA, hhighA, hvalueA⟩ := toRat_round_of_not_fits hprec hbigA
  obtain ⟨j, hlowB, hhighB, hvalueB⟩ := toRat_round_of_not_fits hprec hbigB
  have hsame : a.coefficient.natAbs / 10 ^ (j + k) = b.coefficient.natAbs / 10 ^ j := by
    have hnat : a.coefficient.natAbs = b.coefficient.natAbs * 10 ^ k := by
      rw [hcoef, Int.natAbs_mul, Int.natAbs_pow]
      rfl
    rw [hnat, pow_add, Nat.mul_div_mul_right _ _ (by positivity)]
  have hplace : i = j + k := by
    have hle := leading_place_unique hprec hlowA (hsame ▸ hhighB)
    have hge := leading_place_unique hprec (hsame ▸ hlowB) hhighA
    omega
  rw [hvalueA, hvalueB, hplace, hcoef, roundDiv_mul_right, hk]
  congr 2
  push_cast
  ring

theorem toRat_sub_congr (hprec : 0 < prec) (h : a.toRat = b.toRat) (c : Decimal) :
    (sub prec a c).toRat = (sub prec b c).toRat := by
  apply toRat_round_congr hprec
  rw [toRat_addExact, toRat_addExact, h]

/-! ## Exact results -/

theorem toRat_add (hprec : 0 < prec) (h : Representable prec (a.toRat + b.toRat)) :
    (add prec a b).toRat = a.toRat + b.toRat := by
  have hexact := toRat_addExact a b
  rw [add, toRat_round_of_representable hprec (hexact ▸ h), hexact]

theorem toRat_sub (hprec : 0 < prec) (h : Representable prec (a.toRat - b.toRat)) :
    (sub prec a b).toRat = a.toRat - b.toRat := by
  rw [sub_eq_add_neg, ← toRat_negExact] at h ⊢
  exact toRat_add hprec h

theorem toRat_neg (hprec : 0 < prec) (h : Representable prec a.toRat) :
    (neg prec a).toRat = -a.toRat := by
  have hneg : Representable prec a.negExact.toRat := by
    rw [toRat_negExact]
    exact h.neg
  rw [neg, toRat_round_of_representable hprec hneg, toRat_negExact]

theorem representable_zero (prec : Nat) : Representable prec 0 := by
  refine ⟨0, fits_iff.2 ?_, toRat_zero⟩
  show 0 < 10 ^ prec
  positivity

theorem Fits.representable_sub (ha : a.Fits prec) (he : a.exponent ≤ b.exponent)
    (hab : |a.toRat - b.toRat| ≤ |a.toRat|) :
    Representable prec (a.toRat - b.toRat) := by
  have hvalue : (a.addExact b.negExact).toRat = a.toRat - b.toRat := by
    rw [toRat_addExact, toRat_negExact, sub_eq_add_neg]
  refine ⟨a.addExact b.negExact, ?_, hvalue⟩
  have hexp : (a.addExact b.negExact).exponent = a.exponent := min_eq_left he
  rw [fits_iff_abs_lt, hvalue, hexp]
  exact hab.trans_lt (fits_iff_abs_lt.1 ha)

variable {values : List Decimal}

/-- **A sum is exact** when every partial sum is representable. -/
theorem toRat_foldl_add (hprec : 0 < prec) :
    ∀ start : Decimal,
      (∀ part, part <+: values → Representable prec (start.toRat + (part.map toRat).sum)) →
      (values.foldl (add prec) start).toRat = start.toRat + (values.map toRat).sum := by
  induction values with
  | nil =>
    intro start _
    rw [List.foldl_nil, List.map_nil, List.sum_nil, add_zero]
  | cons value values ih =>
    intro start h
    have hfirst := h [value] (List.prefix_append [value] values)
    rw [List.map_singleton, List.sum_singleton] at hfirst
    have hadd := toRat_add hprec hfirst
    rw [List.foldl_cons, ih, hadd, List.map_cons, List.sum_cons, add_assoc]
    intro part hpart
    have hnext := h (value :: part) ((List.prefix_cons_inj value).2 hpart)
    rwa [List.map_cons, List.sum_cons, ← add_assoc, ← hadd] at hnext

theorem toRat_mul_nonneg (hprec : 0 < prec) (ha : 0 ≤ a.toRat) (hb : 0 ≤ b.toRat) :
    0 ≤ (mul prec a b).toRat := by
  apply toRat_round_nonneg hprec
  rw [toRat_nonneg_iff] at ha hb ⊢
  exact mul_nonneg ha hb

theorem toRat_mulExact (a b : Decimal) :
    (⟨a.coefficient * b.coefficient, a.exponent + b.exponent⟩ : Decimal).toRat =
      a.toRat * b.toRat := by
  simp only [toRat]
  rw [zpow_add₀ (by norm_num)]
  push_cast
  ring

/-! ## Rounding half up to a unit -/

theorem roundDivNat_halfUp (n : Nat) (hk : 0 < k) :
    (roundDivNat .halfUp n k : Int) = ⌊(n : ℚ) / k + 1 / 2⌋ := by
  have hkq : (0 : ℚ) < k := by exact_mod_cast hk
  have hsplit : (n : ℚ) = (n / k : Nat) * k + (n % k : Nat) := by
    exact_mod_cast (Nat.div_add_mod' n k).symm
  have hrem : ((n % k : Nat) : ℚ) < k := by exact_mod_cast Nat.mod_lt n hk
  have hrem0 : (0 : ℚ) ≤ (n % k : Nat) := by positivity
  have hquot : (n : ℚ) / k = (n / k : Nat) + (n % k : Nat) / k := by
    rw [hsplit]
    field_simp
  symm
  rw [Int.floor_eq_iff, hquot]
  unfold roundDivNat
  dsimp only
  split
  · rename_i hup
    have hup' : (k : ℚ) ≤ 2 * (n % k : Nat) := by exact_mod_cast hup
    have hhalf : 1 / 2 ≤ ((n % k : Nat) : ℚ) / k := by
      rw [div_le_div_iff₀ (by norm_num) hkq]
      linarith
    have hone : ((n % k : Nat) : ℚ) / k < 1 := (div_lt_one hkq).2 hrem
    rw [Int.cast_natCast, Nat.cast_add, Nat.cast_one]
    constructor <;> linarith
  · rename_i hdown
    have hdown' : 2 * ((n % k : Nat) : ℚ) < k := by exact_mod_cast not_le.1 hdown
    have hhalf : ((n % k : Nat) : ℚ) / k < 1 / 2 := by
      rw [div_lt_div_iff₀ hkq (by norm_num)]
      linarith
    have hnn : 0 ≤ ((n % k : Nat) : ℚ) / k := by positivity
    rw [Int.cast_natCast]
    constructor <;> linarith

/-- The size of the coefficient is the floor of the shifted quotient. -/
theorem natAbs_rescale_halfUp (d : Decimal) (e : Int) :
    ((d.rescale .halfUp e).coefficient.natAbs : Int) = ⌊|d.toRat| / unit e + 1 / 2⌋ := by
  rcases le_or_gt e d.exponent with he | he
  · have hcast : |d.toRat| = ((d.coefficientAt e).natAbs : ℚ) * unit e := by
      rw [← coefficientAt_cast he]
      exact abs_toRat ⟨d.coefficientAt e, e⟩
    rw [rescale, if_pos he, hcast, mul_div_cancel_right₀ _ (unit_pos e).ne']
    symm
    rw [Int.floor_eq_iff, Int.cast_natCast]
    constructor <;> linarith
  · obtain ⟨m, hm, rfl⟩ : ∃ m : Nat, 0 < m ∧ e = d.exponent + m :=
      ⟨(e - d.exponent).toNat, by omega, by omega⟩
    have hquot : |d.toRat| / unit (d.exponent + m) = (d.coefficient.natAbs : ℚ) / (10 ^ m : Nat) := by
      rw [abs_toRat, unit_add, mul_div_mul_right _ _ (unit_pos _).ne']
      push_cast
      rfl
    rw [rescale_add _ _ hm, hquot, ← roundDivNat_halfUp _ (by positivity),
      natAbs_roundDiv _ _ (by positivity)]

theorem rescale_nonneg (mode : Rounding) (hd : 0 ≤ d.toRat) (e : Int) :
    0 ≤ (d.rescale mode e).toRat := by
  rw [toRat_nonneg_iff] at hd ⊢
  unfold rescale
  split
  · exact mul_nonneg hd (by positivity)
  · exact roundDiv_nonneg mode hd _

/-- **Half up is the floor of the shifted quotient**, for a value that is not negative. -/
theorem toRat_rescale_halfUp (hd : 0 ≤ d.toRat) (e : Int) :
    (d.rescale .halfUp e).toRat = ⌊d.toRat / unit e + 1 / 2⌋ * unit e := by
  have habs := abs_toRat (d.rescale .halfUp e)
  rw [abs_of_nonneg (rescale_nonneg _ hd e), rescale_exponent] at habs
  have hfloor := natAbs_rescale_halfUp d e
  rw [abs_of_nonneg hd] at hfloor
  rw [habs, ← hfloor, Int.cast_natCast]

/-! ## Quantizing -/

theorem quantize_eq_some {mode : Rounding} :
    quantize prec mode d e = some r ↔ (d.rescale mode e).Fits prec ∧ d.rescale mode e = r := by
  unfold quantize
  split
  · rename_i hfits
    simp only [Option.some.injEq, hfits, true_and]
  · rename_i hbig
    simp only [reduceCtorEq, hbig, false_and]

/-- **What can be quantized.** The values that stay below the precision when rounded. -/
theorem quantize_isSome_iff :
    (quantize prec .halfUp d e).isSome ↔ |d.toRat| < (10 ^ prec - 1 / 2) * unit e := by
  have hfits : (quantize prec .halfUp d e).isSome ↔ (d.rescale .halfUp e).Fits prec := by
    unfold quantize
    split <;> rename_i h <;> simp [h]
  have hnat : (d.rescale .halfUp e).coefficient.natAbs < 10 ^ prec ↔
      ⌊|d.toRat| / unit e + 1 / 2⌋ < (10 : Int) ^ prec := by
    rw [← natAbs_rescale_halfUp]
    exact_mod_cast Iff.rfl
  rw [hfits, fits_iff, hnat, Int.floor_lt, ← div_lt_iff₀ (unit_pos e)]
  push_cast
  constructor
  all_goals
    intro h
    linarith

theorem representable_power (hprec : 0 < prec) (e : Int) :
    Representable prec (10 ^ prec * unit e) := by
  refine ⟨⟨10 ^ (prec - 1), e + 1⟩, fits_iff.2 ?_, ?_⟩
  · rw [Int.natAbs_pow]
    exact Nat.pow_lt_pow_right (by norm_num) (by omega)
  · have hpow : (10 : ℚ) ^ prec = 10 ^ (prec - 1) * 10 := by
      rw [← pow_succ, Nat.sub_add_cancel hprec]
    simp only [toRat, unit]
    rw [zpow_add_one₀ (by norm_num), hpow]
    push_cast
    ring

/-- What is rounded is a number of the precision. -/
theorem representable_round (hprec : 0 < prec) (d : Decimal) :
    Representable prec (d.round prec).toRat := by
  by_cases hfits : d.Fits prec
  · rw [round_of_fits hfits]
    exact ⟨d, hfits, rfl⟩
  obtain ⟨j, -, _, hvalue⟩ := toRat_round_of_not_fits hprec hfits
  have hcoef : (roundDiv .halfEven d.coefficient (10 ^ j)).natAbs ≤ 10 ^ prec := by
    rw [natAbs_roundDiv _ _ (by positivity)]
    have hle := roundDivNat_le .halfEven d.coefficient.natAbs (10 ^ j)
    omega
  rcases hcoef.lt_or_eq with hlt | hcarry
  · exact ⟨⟨roundDiv .halfEven d.coefficient (10 ^ j), d.exponent + j⟩, fits_iff.2 hlt, hvalue.symm⟩
  · -- a carry leaves a power of ten
    have habs : |(d.round prec).toRat| = 10 ^ prec * unit (d.exponent + j) := by
      have hsize := abs_toRat ⟨roundDiv .halfEven d.coefficient (10 ^ j), d.exponent + j⟩
      rw [hcarry] at hsize
      rw [hvalue]
      push_cast at hsize
      exact hsize
    have hpower := representable_power hprec (d.exponent + j)
    rw [← habs] at hpower
    rcases abs_choice (d.round prec).toRat with hpos | hneg
    · rwa [hpos] at hpower
    · rw [hneg] at hpower
      have hback := hpower.neg
      rwa [neg_neg] at hback

/-- **Rounding keeps the multiples of a unit.** A multiple that has too many digits is rounded at a place
above the unit. -/
theorem round_mem_multiples (hprec : 0 < prec) (h : d.toRat ∈ AddSubgroup.zmultiples (unit e)) :
    (d.round prec).toRat ∈ AddSubgroup.zmultiples (unit e) := by
  obtain ⟨n, hn⟩ := AddSubgroup.mem_zmultiples_iff.1 h
  rw [zsmul_eq_mul] at hn
  rcases lt_or_ge |d.toRat| (10 ^ prec * unit e) with hsmall | hlarge
  · have hrep : Representable prec d.toRat := by
      refine ⟨⟨n, e⟩, ?_, hn⟩
      rw [fits_iff_abs_lt]
      have hvalue : (⟨n, e⟩ : Decimal).toRat = d.toRat := hn
      rw [hvalue]
      exact hsmall
    rwa [toRat_round_of_representable hprec hrep]
  · have hfar := le_abs_toRat_round hprec (representable_power hprec e) hlarge
    have hpow : (10 : ℚ) ^ (prec - 1) * unit e ≤ 10 ^ prec * unit e :=
      mul_le_mul_of_nonneg_right (pow_le_pow_right₀ (by norm_num) (by omega)) (unit_pos e).le
    obtain ⟨m, hm⟩ := exists_multiple_of_le (representable_round hprec d).abs (hpow.trans hfar)
    have habs : |(d.round prec).toRat| ∈ AddSubgroup.zmultiples (unit e) := by
      rw [hm, ← nsmul_eq_mul]
      exact nsmul_mem (AddSubgroup.mem_zmultiples _) m
    rcases abs_choice (d.round prec).toRat with hpos | hneg
    · rwa [hpos] at habs
    · rw [hneg] at habs
      exact neg_mem_iff.1 habs

/-! ## Rounding keeps the order -/

/-- **A number of the precision stays an upper bound.** -/
theorem toRat_round_le (hprec : 0 < prec) (hx : Representable prec x) (h : d.toRat ≤ x) :
    (d.round prec).toRat ≤ x := by
  rcases le_total 0 d.toRat with hpos | hneg
  · rw [← abs_of_nonneg hpos] at h
    exact (le_abs_self _).trans (abs_toRat_round_le hprec hx h)
  · have hround := toRat_round_nonpos hprec hneg
    rcases le_total 0 x with hxpos | _
    · exact hround.trans hxpos
    · have hfar : -x ≤ |d.toRat| := by
        rw [abs_of_nonpos hneg]
        linarith
      have hkept := le_abs_toRat_round hprec hx.neg hfar
      rw [abs_of_nonpos hround] at hkept
      linarith

/-- **A number of the precision stays a lower bound.** -/
theorem le_toRat_round (hprec : 0 < prec) (hx : Representable prec x) (h : x ≤ d.toRat) :
    x ≤ (d.round prec).toRat := by
  have hflip := toRat_round_le (d := d.negExact) hprec hx.neg (by rw [toRat_negExact]; linarith)
  rw [round_negExact, toRat_negExact] at hflip
  linarith

theorem roundDivNat_halfEven_within (n : Nat) (hk : 0 < k) :
    2 * (roundDivNat .halfEven n k * k) ≤ 2 * n + k ∧ 2 * n ≤ 2 * (roundDivNat .halfEven n k * k) + k := by
  have hsplit := Nat.div_add_mod' n k
  have hrem := Nat.mod_lt n hk
  unfold roundDivNat
  dsimp only
  split
  · rename_i hup
    rw [Nat.add_mul, Nat.one_mul]
    omega
  · rename_i hdown
    omega

/-- What a number that does not fit is rounded to: a multiple of the unit of its last kept digit, within
half of it. -/
theorem round_nonneg_of_not_fits (hprec : 0 < prec) (hbig : ¬ d.Fits prec) (hd : 0 ≤ d.toRat) :
    ∃ (e : Int) (m : Nat), (d.round prec).toRat = m * unit e ∧
      10 ^ (prec - 1) * unit e ≤ d.toRat ∧ d.toRat < 10 ^ prec * unit e ∧
      2 * (m * unit e) ≤ 2 * d.toRat + unit e ∧ 2 * d.toRat ≤ 2 * (m * unit e) + unit e := by
  obtain ⟨j, hlow, hhigh, hvalue⟩ := abs_toRat_round_of_not_fits hprec hbig
  have habs := abs_toRat d
  rw [abs_of_nonneg hd] at habs
  rw [abs_of_nonneg (toRat_round_nonneg hprec hd)] at hvalue
  obtain ⟨hup, hdown⟩ := roundDivNat_halfEven_within d.coefficient.natAbs (k := 10 ^ j) (by positivity)
  have hue := unit_pos d.exponent
  have hshift := unit_add d.exponent j
  have hlow' := (Nat.le_div_iff_mul_le (by positivity)).1 hlow
  have hhigh' := (Nat.div_lt_iff_lt_mul (by positivity)).1 hhigh
  refine ⟨d.exponent + j, _, hvalue, ?_, ?_, ?_, ?_⟩
  · rw [habs, hshift, ← mul_assoc]
    apply mul_le_mul_of_nonneg_right _ hue.le
    exact_mod_cast hlow'
  · rw [habs, hshift, ← mul_assoc]
    apply mul_lt_mul_of_pos_right _ hue
    exact_mod_cast hhigh'
  · have hcast : (2 * (roundDivNat .halfEven d.coefficient.natAbs (10 ^ j) * 10 ^ j) : ℚ) ≤
        2 * d.coefficient.natAbs + 10 ^ j := by exact_mod_cast hup
    rw [habs, hshift]
    nlinarith
  · have hcast : (2 * d.coefficient.natAbs : ℚ) ≤
        2 * (roundDivNat .halfEven d.coefficient.natAbs (10 ^ j) * 10 ^ j) + 10 ^ j := by
      exact_mod_cast hdown
    rw [habs, hshift]
    nlinarith

theorem toRat_round_mono_nonneg (hprec : 0 < prec) (ha : 0 ≤ a.toRat) (h : a.toRat ≤ b.toRat) :
    (a.round prec).toRat ≤ (b.round prec).toRat := by
  have hb := ha.trans h
  by_cases hfitsA : a.Fits prec
  · rw [round_of_fits hfitsA]
    exact le_toRat_round hprec ⟨a, hfitsA, rfl⟩ h
  by_cases hfitsB : b.Fits prec
  · rw [round_of_fits hfitsB]
    exact toRat_round_le hprec ⟨b, hfitsB, rfl⟩ h
  obtain ⟨e, m, hroundA, hlowA, hhighA, _, _⟩ := round_nonneg_of_not_fits hprec hfitsA ha
  obtain ⟨f, n, hroundB, hlowB, _, _, _⟩ := round_nonneg_of_not_fits hprec hfitsB hb
  have hue := unit_pos e
  have huf := unit_pos f
  have hpow : (10 : ℚ) ^ prec = 10 ^ (prec - 1) * 10 := by
    rw [← pow_succ, Nat.sub_add_cancel hprec]
  have hten : (0 : ℚ) < 10 ^ (prec - 1) := by positivity
  rcases lt_trichotomy e f with _ | heq | _
  · -- the power of ten between the two is a number of the precision
    have hstep : 10 * unit e ≤ unit f := by
      calc 10 * unit e = unit (e + (1 : Nat)) := by rw [unit_add, pow_one]
        _ ≤ unit f := unit_mono (by push_cast; omega)
    have hbelow : a.toRat ≤ 10 ^ prec * unit e := hhighA.le
    have habove : 10 ^ prec * unit e ≤ b.toRat := by
      rw [hpow, mul_assoc]
      exact (mul_le_mul_of_nonneg_left hstep hten.le).trans hlowB
    exact (toRat_round_le hprec (representable_power hprec e) hbelow).trans
      (le_toRat_round hprec (representable_power hprec e) habove)
  · -- on one grid, a later multiple would be half a unit away from both
    subst heq
    by_contra hover
    rw [hroundA, hroundB, not_le, mul_lt_mul_iff_left₀ hue] at hover
    have hnext : (n : ℚ) + 1 ≤ m := by exact_mod_cast hover
    have hmul := mul_le_mul_of_nonneg_right hnext hue.le
    have hsame : a.toRat = b.toRat := le_antisymm h (by linarith)
    have hround := toRat_round_congr hprec hsame
    rw [hroundA, hroundB, mul_left_inj' hue.ne'] at hround
    linarith
  · have hstep : 10 * unit f ≤ unit e := by
      calc 10 * unit f = unit (f + (1 : Nat)) := by rw [unit_add, pow_one]
        _ ≤ unit e := unit_mono (by push_cast; omega)
    have hfar : 10 ^ prec * unit f ≤ a.toRat := by
      rw [hpow, mul_assoc]
      exact (mul_le_mul_of_nonneg_left hstep hten.le).trans hlowA
    linarith

/-- **Rounding keeps the order.** -/
theorem toRat_round_mono (hprec : 0 < prec) (h : a.toRat ≤ b.toRat) :
    (a.round prec).toRat ≤ (b.round prec).toRat := by
  rcases le_total 0 a.toRat with ha | ha
  · exact toRat_round_mono_nonneg hprec ha h
  rcases le_total 0 b.toRat with hb | hb
  · exact (toRat_round_nonpos hprec ha).trans (toRat_round_nonneg hprec hb)
  · have hflip := toRat_round_mono_nonneg (a := b.negExact) (b := a.negExact) hprec
      (by rw [toRat_negExact]; linarith) (by rw [toRat_negExact, toRat_negExact]; linarith)
    rw [round_negExact, round_negExact, toRat_negExact, toRat_negExact] at hflip
    linarith

theorem toRat_add_mono (hprec : 0 < prec) (hab : a.toRat ≤ b.toRat) (hcd : c.toRat ≤ d.toRat) :
    (add prec a c).toRat ≤ (add prec b d).toRat := by
  apply toRat_round_mono hprec
  rw [toRat_addExact, toRat_addExact]
  exact add_le_add hab hcd

theorem toRat_sub_mono (hprec : 0 < prec) (hab : a.toRat ≤ b.toRat) (hdc : d.toRat ≤ c.toRat) :
    (sub prec a c).toRat ≤ (sub prec b d).toRat := by
  apply toRat_add_mono hprec hab
  rw [toRat_negExact, toRat_negExact]
  exact neg_le_neg hdc

theorem foldl_add_mono (hprec : 0 < prec) :
    ∀ {a b : Decimal}, a.toRat ≤ b.toRat →
      (values.foldl (add prec) a).toRat ≤ (values.foldl (add prec) b).toRat := by
  induction values with
  | nil => exact fun h => h
  | cons _ _ ih => exact fun h => ih (toRat_add_mono hprec h le_rfl)

theorem le_toRat_add (hprec : 0 < prec) (ha : Representable prec a.toRat) (hb : 0 ≤ b.toRat) :
    a.toRat ≤ (add prec a b).toRat := by
  apply le_toRat_round hprec ha
  rw [toRat_addExact]
  exact le_add_of_nonneg_right hb

/-- What is positive is not rounded to nothing. -/
theorem toRat_round_pos (hprec : 0 < prec) (hd : 0 < d.toRat) :
    0 < (d.round prec).toRat := by
  have hunit : unit d.exponent = 10 ^ prec * unit (d.exponent - prec) := by
    rw [← unit_add, sub_add_cancel]
  have hlast : unit d.exponent ≤ d.toRat := by
    have hone : (1 : ℚ) ≤ d.coefficient := by
      have hpos := (pos_iff_pos_of_mul_pos hd).2 (unit_pos d.exponent)
      exact_mod_cast (by exact_mod_cast hpos : (0 : Int) < d.coefficient)
    calc unit d.exponent = 1 * unit d.exponent := (one_mul _).symm
      _ ≤ d.coefficient * unit d.exponent := mul_le_mul_of_nonneg_right hone (unit_pos _).le
  have hrep : Representable prec (unit d.exponent) := by
    rw [hunit]
    exact representable_power hprec _
  exact (unit_pos _).trans_le (le_toRat_round hprec hrep hlast)

/-- A sum of amounts that are not negative is positive when one of them is. -/
theorem toRat_add_pos_iff (hprec : 0 < prec) (ha : 0 ≤ a.toRat) (hb : 0 ≤ b.toRat) :
    0 < (add prec a b).toRat ↔ 0 < a.toRat ∨ 0 < b.toRat := by
  have hsum := toRat_addExact a b
  constructor
  · intro hpos
    by_contra hnone
    rw [not_or, not_lt, not_lt] at hnone
    have hle : (addExact a b).toRat ≤ 0 := by
      rw [hsum]
      exact add_nonpos hnone.1 hnone.2
    exact hpos.not_ge (toRat_round_nonpos hprec hle)
  · intro hone
    apply toRat_round_pos hprec
    rw [hsum]
    rcases hone with hfirst | hsecond
    · exact add_pos_of_pos_of_nonneg hfirst hb
    · exact add_pos_of_nonneg_of_pos ha hsecond

/-! ## Quantizing a rounded number -/

theorem representable_multiple (hprec : 0 < prec) (hm : m ≤ 10 ^ prec) (e : Int) :
    Representable prec (m * unit e) := by
  rcases hm.lt_or_eq with _ | rfl
  · refine ⟨⟨m, e⟩, fits_iff.2 ?_, ?_⟩
    · rwa [Int.natAbs_natCast]
    · rw [toRat, Int.cast_natCast, unit]
  · push_cast
    exact representable_power hprec e

/-- Between two neighbours of the precision, the leading digits are those of the lower one. -/
theorem leading_of_between (hprec : 0 < prec) (hmlow : 10 ^ (prec - 1) < m) (hmhigh : m ≤ 10 ^ prec)
    (hlow : 10 ^ (prec - 1) ≤ d.coefficient.natAbs / 10 ^ j)
    (hhigh : d.coefficient.natAbs / 10 ^ j < 10 ^ prec) (habove : (m - 1) * unit e ≤ |d.toRat|)
    (hbelow : |d.toRat| < m * unit e) :
    d.exponent + j = e ∧ d.coefficient.natAbs / 10 ^ j = m - 1 := by
  have hpow : (10 : ℚ) ^ prec = 10 ^ (prec - 1) * 10 := by
    rw [← pow_succ, Nat.sub_add_cancel hprec]
  have hone : (1 : ℚ) ≤ 10 ^ (prec - 1) := one_le_pow₀ (by norm_num)
  have hmlow' : (10 : ℚ) ^ (prec - 1) ≤ m - 1 := by
    rw [le_sub_iff_add_le]
    exact_mod_cast hmlow
  have hmhigh' : (m : ℚ) ≤ 10 ^ prec := by exact_mod_cast hmhigh
  have hmpos : 0 < m := Nat.zero_lt_of_lt hmlow
  have hue := unit_pos e
  -- the leading digits, as a value
  have hquot : (d.coefficient.natAbs / 10 ^ j : Nat) * unit (d.exponent + j) ≤ |d.toRat| := by
    rw [abs_toRat, unit_add, ← mul_assoc]
    apply mul_le_mul_of_nonneg_right _ (unit_pos _).le
    exact_mod_cast Nat.div_mul_le_self _ _
  have hnext : |d.toRat| < ((d.coefficient.natAbs / 10 ^ j : Nat) + 1) * unit (d.exponent + j) := by
    rw [abs_toRat, unit_add, ← mul_assoc]
    apply mul_lt_mul_of_pos_right _ (unit_pos _)
    exact_mod_cast (Nat.div_lt_iff_lt_mul (by positivity)).1 (Nat.lt_succ_self _)
  have hlow' : (10 : ℚ) ^ (prec - 1) ≤ (d.coefficient.natAbs / 10 ^ j : Nat) := by exact_mod_cast hlow
  have hhigh' : ((d.coefficient.natAbs / 10 ^ j : Nat) : ℚ) + 1 ≤ 10 ^ prec := by exact_mod_cast hhigh
  have hle : d.exponent + j ≤ e := by
    by_contra hlt
    have hten : 10 * unit e ≤ unit (d.exponent + j) := by
      calc 10 * unit e = unit (e + (1 : Nat)) := by rw [unit_add, pow_one]
        _ ≤ unit (d.exponent + j) := unit_mono (by push_cast; omega)
    nlinarith [unit_pos (d.exponent + j)]
  have hge : e ≤ d.exponent + j := by
    by_contra hlt
    have hten : 10 * unit (d.exponent + j) ≤ unit e := by
      calc 10 * unit (d.exponent + j) = unit (d.exponent + j + (1 : Nat)) := by
            rw [unit_add (d.exponent + j) 1, pow_one]
        _ ≤ unit e := unit_mono (by push_cast; omega)
    nlinarith [unit_pos (d.exponent + j)]
  have heq : d.exponent + j = e := le_antisymm hle hge
  refine ⟨heq, ?_⟩
  rw [heq] at hquot hnext
  have hlast := lt_of_mul_lt_mul_right (habove.trans_lt hnext) hue.le
  have hfirst := lt_of_mul_lt_mul_right (hquot.trans_lt hbelow) hue.le
  have hfirst' : d.coefficient.natAbs / 10 ^ j < m := by exact_mod_cast hfirst
  have hlast' : m < d.coefficient.natAbs / 10 ^ j + 1 + 1 := by
    have hcast : (m : ℚ) < (d.coefficient.natAbs / 10 ^ j : Nat) + 1 + 1 := by linarith
    exact_mod_cast hcast
  omega

/-- Below the half, the lower neighbour is the rounding; from the half on it is the upper one, when its
last digit is even. -/
theorem roundDivNat_halfEven_lt_iff (hm : 0 < m) (heven : m % 2 = 0) (hquot : n / k = m - 1) :
    roundDivNat .halfEven n k < m ↔ 2 * n < (2 * m - 1) * k := by
  have hsplit : n = (m - 1) * k + n % k := by
    conv_lhs => rw [← Nat.div_add_mod' n k, hquot]
  have hdouble : (2 * m - 1) * k = 2 * ((m - 1) * k) + k := by
    have hone : 2 * m - 1 = 2 * (m - 1) + 1 := by omega
    rw [hone]
    ring
  have hodd : (m - 1) % 2 = 1 := by omega
  unfold roundDivNat
  dsimp only
  rw [hquot, hdouble]
  split <;> omega

theorem lt_half_of_representable {prec m : Nat} {x : ℚ} {e : Int} (hmlow : 10 ^ (prec - 1) < m)
    (hx : Representable prec x) (hlt : x < m * unit e) : x < (m - 1 / 2) * unit e := by
  have hue := unit_pos e
  rcases lt_or_ge x (10 ^ (prec - 1) * unit e) with _ | hlarge
  · have hm : (10 : ℚ) ^ (prec - 1) + 1 ≤ m := by exact_mod_cast hmlow
    nlinarith
  · obtain ⟨k, rfl⟩ := exists_multiple_of_le hx hlarge
    have hk : k + 1 ≤ m := by exact_mod_cast lt_of_mul_lt_mul_right hlt hue.le
    have hk' : (k : ℚ) + 1 ≤ m := by exact_mod_cast hk
    nlinarith

/-- **Rounding stays below an even number of units** exactly below the half before it. -/
theorem abs_toRat_round_lt_multiple_iff (hprec : 0 < prec) (heven : m % 2 = 0)
    (hmlow : 10 ^ (prec - 1) < m) (hmhigh : m ≤ 10 ^ prec) :
    |(d.round prec).toRat| < m * unit e ↔ |d.toRat| < (m - 1 / 2) * unit e := by
  have hue := unit_pos e
  have hmpos : 0 < m := Nat.zero_lt_of_lt hmlow
  have hpred : ((m - 1 : Nat) : ℚ) = m - 1 := Nat.cast_pred hmpos
  rcases lt_or_ge |d.toRat| ((m - 1) * unit e) with hsmall | habove
  · have hround := abs_toRat_round_le hprec
      (representable_multiple hprec ((Nat.sub_le m 1).trans hmhigh) e) (hpred ▸ hsmall.le)
    rw [hpred] at hround
    constructor
    all_goals
      intro _
      nlinarith
  rcases le_or_gt (m * unit e) |d.toRat| with hlarge | hbelow
  · have hround := le_abs_toRat_round hprec (representable_multiple hprec hmhigh e) hlarge
    constructor
    all_goals
      intro h
      nlinarith
  by_cases hfits : d.Fits prec
  · rw [round_of_fits hfits]
    constructor
    · exact lt_half_of_representable hmlow (Representable.abs ⟨d, hfits, rfl⟩)
    · intro h
      nlinarith
  -- one unit of room: the last digit decides
  obtain ⟨j, hlow, hhigh, hvalue⟩ := abs_toRat_round_of_not_fits hprec hfits
  obtain ⟨hexp, hquot⟩ := leading_of_between hprec hmlow hmhigh hlow hhigh habove hbelow
  have hright : |d.toRat| < (m - 1 / 2) * unit e ↔
      2 * d.coefficient.natAbs < (2 * m - 1) * 10 ^ j := by
    rw [abs_toRat, ← hexp, unit_add, ← mul_assoc, mul_lt_mul_iff_left₀ (unit_pos _)]
    have hcast : (((2 * m - 1 : Nat) : ℚ)) = 2 * m - 1 := by
      rw [Nat.cast_sub (by omega)]
      push_cast
      ring
    constructor
    · intro h
      have hq : (2 * d.coefficient.natAbs : ℚ) < ((2 * m - 1 : Nat) : ℚ) * 10 ^ j := by
        rw [hcast]
        linarith
      exact_mod_cast hq
    · intro h
      have hq : (2 * d.coefficient.natAbs : ℚ) < ((2 * m - 1 : Nat) : ℚ) * 10 ^ j := by
        exact_mod_cast h
      rw [hcast] at hq
      linarith
  rw [hright, ← roundDivNat_halfEven_lt_iff hmpos heven hquot, hvalue, hexp,
    mul_lt_mul_iff_left₀ hue, Nat.cast_lt]

/-- **Rounding first does not change what can be quantized.** -/
theorem abs_toRat_round_lt_iff (hprec : 0 < prec) :
    |(d.round prec).toRat| < (10 ^ prec - 1 / 2) * unit e ↔
      |d.toRat| < (10 ^ prec - 1 / 2) * unit e := by
  have heven : 10 ^ prec % 2 = 0 := by
    obtain ⟨p, rfl⟩ : ∃ p, prec = p + 1 := ⟨prec - 1, by omega⟩
    rw [pow_succ]
    omega
  have hlow : 10 ^ (prec - 1) < 10 ^ prec := Nat.pow_lt_pow_right (by norm_num) (by omega)
  have hround := abs_toRat_round_lt_multiple_iff (d := d) (e := e) hprec heven hlow le_rfl
  push_cast at hround
  rw [← hround]
  constructor
  · intro h
    nlinarith [unit_pos e]
  · intro h
    have hhalf := lt_half_of_representable hlow (representable_round hprec d).abs
      (by push_cast; exact h)
    push_cast at hhalf
    exact hhalf

theorem quantize_round_isSome_iff (hprec : 0 < prec) :
    (quantize prec .halfUp (d.round prec) e).isSome ↔ |d.toRat| < (10 ^ prec - 1 / 2) * unit e :=
  quantize_isSome_iff.trans (abs_toRat_round_lt_iff hprec)

/-- **A result at the exponent is not changed** by rounding it and quantizing it. -/
theorem quantize_round_eq (hprec : 0 < prec) (he : d.exponent = e)
    (h : quantize prec .halfUp (d.round prec) e = some r) : r = d := by
  have hsome : (quantize prec .halfUp (d.round prec) e).isSome := by
    rw [h]
    rfl
  have hlimit := (quantize_round_isSome_iff hprec).1 hsome
  have hfits : d.Fits prec := by
    rw [fits_iff_abs_lt, he]
    nlinarith [unit_pos e]
  rw [round_of_fits hfits, quantize_eq_some, ← he, rescale_exponent_self] at h
  exact h.2.symm

/-! ## Quotients of decimals -/

/-- Stripping trailing zeros keeps the value. -/
theorem stripZeros_value (fuel : Nat) :
    ∀ (e : Int) (n : Nat),
      ((stripZeros fuel e n).2 : ℚ) * unit (stripZeros fuel e n).1 = n * unit e := by
  induction fuel with
  | zero =>
    intro e n
    rfl
  | succ fuel ih =>
    intro e n
    unfold stripZeros
    split
    · rename_i hzero
      have hsplit : (n : ℚ) = (n / 10 : Nat) * 10 := by
        exact_mod_cast (Nat.div_mul_cancel (Nat.dvd_of_mod_eq_zero hzero)).symm
      have hunit : unit (e + 1) = 10 * unit e := by
        have hadd := unit_add e 1
        rwa [pow_one] at hadd
      rw [ih, hunit, hsplit]
      ring
    · rfl

/-- The scaled operands of a quotient, as a value. -/
theorem scaled_quotient (a b : Decimal) (shift : Int) :
    ((a.coefficient.natAbs * 10 ^ shift.toNat : Nat) : ℚ) /
        (b.coefficient.natAbs * 10 ^ (-shift).toNat : Nat) * unit (a.exponent - b.exponent - shift) =
      |a.toRat| / |b.toRat| := by
  have hten : (10 : ℚ) ≠ 0 := by norm_num
  have hunit : unit (a.exponent - b.exponent - shift) * 10 ^ shift.toNat * unit b.exponent =
      unit a.exponent * 10 ^ (-shift).toNat := by
    simp only [unit, ← zpow_natCast]
    rw [← zpow_add₀ hten, ← zpow_add₀ hten, ← zpow_add₀ hten]
    congr 1
    omega
  rw [abs_toRat, abs_toRat]
  push_cast
  rcases eq_or_ne ((b.coefficient.natAbs : Nat) : ℚ) 0 with hzero | _
  · rw [hzero]
    simp only [zero_mul, div_zero]
  · have hub := (unit_pos b.exponent).ne'
    field_simp
    linear_combination (a.coefficient.natAbs : ℚ) * hunit

/-- The scaled quotient has more digits than the precision. -/
theorem le_scaled_div (prec : Nat) {A B : Nat} (hA : 0 < A) (hB : 0 < B) :
    10 ^ prec ≤
      A * 10 ^ ((digitCount B : Int) - digitCount A + prec + 1).toNat /
        (B * 10 ^ (-((digitCount B : Int) - digitCount A + prec + 1)).toNat) := by
  have hA' : 10 ^ (digitCount A - 1) ≤ A := by
    by_contra hshort
    have hcount := digitCount_le_iff.2 (not_le.1 hshort)
    have hzero : ¬ digitCount A ≤ 0 := by
      rw [digitCount_le_iff]
      omega
    omega
  have hB' : B ≤ 10 ^ digitCount B := (digitCount_le_iff.1 le_rfl).le
  have hzero : ¬ digitCount A ≤ 0 := by
    rw [digitCount_le_iff]
    omega
  rw [Nat.le_div_iff_mul_le (by positivity)]
  generalize hshift : (digitCount B : Int) - digitCount A + prec + 1 = shift
  calc 10 ^ prec * (B * 10 ^ (-shift).toNat)
      ≤ 10 ^ prec * (10 ^ digitCount B * 10 ^ (-shift).toNat) := by gcongr
    _ = 10 ^ (digitCount A - 1) * 10 ^ shift.toNat := by
      rw [← pow_add, ← pow_add, ← pow_add]
      congr 1
      omega
    _ ≤ A * 10 ^ shift.toNat := by gcongr

theorem toRat_div_nonneg (hprec : 0 < prec) (ha : 0 ≤ a.toRat) (hb : 0 ≤ b.toRat) :
    0 ≤ (div prec a b).toRat := by
  rw [toRat_nonneg_iff] at ha hb
  have hsign : 0 ≤ a.coefficient.sign * b.coefficient.sign :=
    mul_nonneg (Int.sign_nonneg_iff.2 ha) (Int.sign_nonneg_iff.2 hb)
  have hround : ∀ (q : Nat) (e : Int),
      0 ≤ (round prec ⟨a.coefficient.sign * b.coefficient.sign * q, e⟩).toRat := by
    intro q e
    apply toRat_round_nonneg hprec
    rw [toRat_nonneg_iff]
    exact mul_nonneg hsign (Int.natCast_nonneg q)
  unfold div
  dsimp only
  split
  · rw [toRat_nonneg_iff]
  · split
    · exact hround _ _
    · exact_mod_cast hround _ _

/-- **A quotient is at most every number of the precision that the exact quotient is at most.** -/
theorem toRat_div_le (hprec : 0 < prec) (ha : 0 ≤ a.toRat) (hb : 0 < b.toRat) (hx : Representable prec x)
    (h : a.toRat / b.toRat ≤ x) :
    (div prec a b).toRat ≤ x := by
  have hx0 : 0 ≤ x := le_trans (div_nonneg ha hb.le) h
  rcases ha.eq_or_lt with hzero | hpos
  · have hcoeff : a.coefficient = 0 := by
      rcases mul_eq_zero.1 hzero.symm with hc | hu
      · exact_mod_cast hc
      · exact absurd hu (unit_pos a.exponent).ne'
    unfold div
    rw [if_pos hcoeff]
    simpa only [toRat, Int.cast_zero, zero_mul] using hx0
  have hcoeff : ∀ {d : Decimal}, 0 < d.toRat → 0 < d.coefficient := by
    intro d hd
    exact_mod_cast pos_of_mul_pos_left hd (unit_pos d.exponent).le
  have hA := hcoeff hpos
  have hB := hcoeff hb
  have hsign : a.coefficient.sign * b.coefficient.sign = 1 := by
    rw [Int.sign_eq_one_of_pos hA, Int.sign_eq_one_of_pos hB, mul_one]
  -- rounding a number of at most `x` stays at most `x`
  have hround : ∀ (q : Nat) (e : Int), (q : ℚ) * unit e ≤ x → (round prec ⟨q, e⟩).toRat ≤ x := by
    intro q e hle
    refine (le_abs_self _).trans (abs_toRat_round_le hprec hx ?_)
    rwa [abs_toRat, Int.natAbs_natCast]
  unfold div
  rw [if_neg hA.ne']
  dsimp only
  rw [hsign]
  have hlong := le_scaled_div prec (Int.natAbs_pos.2 hA.ne') (Int.natAbs_pos.2 hB.ne')
  generalize (digitCount b.coefficient.natAbs : Int) - digitCount a.coefficient.natAbs + prec + 1 = shift
    at hlong ⊢
  have hvalue := scaled_quotient a b shift
  rw [abs_of_pos hpos, abs_of_pos hb] at hvalue
  rw [← hvalue] at h
  have hk : 0 < b.coefficient.natAbs * 10 ^ (-shift).toNat :=
    Nat.mul_pos (Int.natAbs_pos.2 hB.ne') (by positivity)
  generalize a.coefficient.natAbs * 10 ^ shift.toNat = n at hlong h ⊢
  generalize b.coefficient.natAbs * 10 ^ (-shift).toNat = k at hlong h hk ⊢
  generalize a.exponent - b.exponent - shift = e at h ⊢
  have hkq : (0 : ℚ) < k := by exact_mod_cast hk
  split
  · rename_i hexact
    have hquot : ((n / k : Nat) : ℚ) = n / k :=
      Nat.cast_div (Nat.dvd_of_mod_eq_zero hexact) hkq.ne'
    rw [one_mul]
    apply hround
    rw [stripZeros_value, hquot]
    exact h
  · rename_i hinexact
    -- the quotient lies above its digits, and `x` is a multiple of their unit
    have hlt : ((n / k : Nat) : ℚ) < n / k := by
      rw [lt_div_iff₀ hkq]
      have hmod := Nat.div_add_mod' n k
      have hnat : n / k * k < n := by omega
      exact_mod_cast hnat
    have hbelow : ((n / k : Nat) : ℚ) * unit e < x :=
      lt_of_lt_of_le (mul_lt_mul_of_pos_right hlt (unit_pos e)) h
    have hleading : (10 : ℚ) ^ (prec - 1) * unit e ≤ x := by
      refine le_trans ?_ hbelow.le
      apply mul_le_mul_of_nonneg_right _ (unit_pos e).le
      have hpow : 10 ^ (prec - 1) ≤ n / k := le_trans (Nat.pow_le_pow_right (by norm_num) (by omega)) hlong
      exact_mod_cast hpow
    obtain ⟨m, rfl⟩ := exists_multiple_of_le hx hleading
    have hnext : n / k < m := by
      exact_mod_cast lt_of_mul_lt_mul_right hbelow (unit_pos e).le
    have hsticky : (if n / k % 5 = 0 then n / k + 1 else n / k) ≤ m := by
      split <;> omega
    rw [one_mul]
    exact hround _ _ (mul_le_mul_of_nonneg_right (by exact_mod_cast hsticky) (unit_pos e).le)

/-- Every positive value has a number of the precision closely above it. -/
theorem exists_representable_ge (prec : Nat) {y : ℚ} (hprec : 0 < prec) (hy : 0 < y) :
    ∃ x, Representable prec x ∧ y ≤ x ∧ 10 ^ (prec - 1) * (x - y) ≤ y := by
  obtain ⟨k, hlow, hhigh⟩ := exists_mem_Ico_zpow hy (by norm_num : (1 : ℚ) < 10)
  obtain ⟨e, rfl⟩ : ∃ e : Int, k = e + (prec - 1 : Nat) := ⟨k - (prec - 1 : Nat), by ring⟩
  have hue := unit_pos e
  have hlow' : 10 ^ (prec - 1) * unit e ≤ y := by
    rw [← unit_add]
    exact hlow
  have hhigh' : y < 10 ^ prec * unit e := by
    rw [← unit_add]
    refine hhigh.trans_le (le_of_eq ?_)
    rw [unit]
    congr 1
    omega
  -- the next multiple of the unit of the last digit
  have hfloor : 0 ≤ ⌊y / unit e⌋ := Int.floor_nonneg.2 (by positivity)
  have hle : y ≤ (⌊y / unit e⌋ + 1 : Int) * unit e := by
    push_cast
    exact ((div_lt_iff₀ hue).1 (Int.lt_floor_add_one (y / unit e))).le
  have hclose : (⌊y / unit e⌋ + 1 : Int) * unit e ≤ y + unit e := by
    have hbelow := (le_div_iff₀ hue).1 (Int.floor_le (y / unit e))
    push_cast
    linarith
  refine ⟨_, ?_, hle, ?_⟩
  · have hdigits : ⌊y / unit e⌋ < (10 : Int) ^ prec := by
      rw [Int.floor_lt, div_lt_iff₀ hue]
      exact_mod_cast hhigh'
    rcases (Int.add_one_le_of_lt hdigits).lt_or_eq with hfits | hcarry
    · refine ⟨⟨⌊y / unit e⌋ + 1, e⟩, fits_iff.2 ?_, rfl⟩
      zify
      rw [abs_of_nonneg (by omega)]
      exact hfits
    · rw [hcarry, Int.cast_pow]
      exact representable_power hprec e
  · have hpow : (0 : ℚ) ≤ 10 ^ (prec - 1) := by positivity
    nlinarith

end Decimal
