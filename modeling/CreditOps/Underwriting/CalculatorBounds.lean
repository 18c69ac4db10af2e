import CreditOps.Underwriting.Calculators

/-!
# When the calculators return

An operation of the decimal context raises when its exact result is too large, and rounding to six places
raises for a number of `10 ^ 22`. Each calculator therefore returns exactly under the bounds that its own steps
need, on the inputs it is given (`ratio_isOk_iff`, `cashConversionCycle_isOk_iff`,
`workingCapitalNeed_isOk_iff`, `workingCapitalGap_isOk_iff`, `trendAnalysis_isOk_iff`,
`scenarioProjection_isOk_iff`); every one of them also needs a text of each of its inputs.
-/

set_option autoImplicit false

namespace CreditOps.Underwriting

open Repayments Decimal Results

/-! ## Limits -/

/-- Where the numbers of the context stop: `10 ^ 1000000`, less half a unit of the last digit. -/
def valueLimit : ℚ := defaultContext.limit

/-- Where the numbers stop that are rounded to six places: `10 ^ 22`, less half a unit. -/
def quantLimit : ℚ := defaultContext.limitAt quantExponent

theorem etiny_le_quantExponent : defaultContext.etiny ≤ quantExponent := by decide

theorem quantLimit_le_valueLimit : quantLimit ≤ valueLimit := by
  have hunit : unit quantExponent ≤ unit (defaultContext.emax + 1 - defaultContext.precision) :=
    unit_mono (by decide)
  exact mul_le_mul_of_nonneg_left hunit (by norm_num [defaultContext, contextPrecision])

theorem one_lt_quantLimit : 1 < quantLimit := by
  norm_num [quantLimit, DecimalContext.limitAt, defaultContext, contextPrecision, quantExponent, unit]

/-- The value of an input, when there is one, is below the limit of the context. -/
def Held (input : CalculatorInput) : Prop :=
  ∀ value ∈ input.value, |value.toRat| < valueLimit

variable {a b d scale value result : Decimal}

theorem quantize_isOk_iff :
    (∃ result, quantize value = .ok result) ↔ |value.toRat| < quantLimit :=
  defaultContext.quantize_isOk_iff

theorem toRat_quantize (h : quantize value = .ok result) :
    result.toRat = (value.rescale .halfUp quantExponent).toRat := by
  obtain ⟨-, rfl⟩ := defaultContext.quantize_eq_ok.1 h
  rfl

/-! ## Texts -/

theorem canonical_isOk_iff {value : Option Decimal} :
    (∃ text, canonical value = .ok text) ↔ ∀ x ∈ value, |x.toRat| < valueLimit := by
  cases value with
  | none =>
    simp only [Option.not_mem_none, false_implies, implies_true, iff_true]
    exact ⟨_, rfl⟩
  | some x =>
    have hfix := defaultContext.fix_isOk_iff (d := x)
    simp only [Option.mem_some_iff, forall_eq', valueLimit]
    rw [← hfix]
    constructor
    · rintro ⟨_, h⟩
      obtain ⟨_, h, -⟩ := map_eq_ok h
      obtain ⟨r, h, -⟩ := map_eq_ok h
      exact ⟨r, h⟩
    · rintro ⟨r, h⟩
      refine ⟨r.stripped.formatPlain, ?_⟩
      rw [canonical, DecimalContext.normalize, h]
      rfl

variable {input : CalculatorInput}

theorem inputText_isOk_iff :
    (∃ text, inputText input = .ok text) ↔ Held input := by
  unfold inputText
  rw [exists_bind_eq_ok, Held, ← canonical_isOk_iff]
  constructor
  · rintro ⟨value, h, -⟩
    exact ⟨value, h⟩
  · rintro ⟨value, h⟩
    exact ⟨value, h, _, rfl⟩

theorem resultText_isOk_iff {calculator : String} {inputs : List CalculatorInput} :
    (∃ text, resultText calculator inputs = .ok text) ↔ ∀ input ∈ inputs, Held input := by
  unfold resultText
  have hparts := @exists_mapM_eq_ok _ _ _ inputText (inputs.insertionSort fun a b => a.name ≤ b.name)
  simp only [inputText_isOk_iff, List.mem_insertionSort] at hparts
  rw [exists_bind_eq_ok, ← hparts]
  constructor
  · rintro ⟨parts, h, -⟩
    exact ⟨parts, h⟩
  · rintro ⟨parts, h⟩
    exact ⟨parts, h, _, rfl⟩

/-- **An id exists** exactly when the values of all the inputs are below the limit. -/
theorem resultId_isOk_iff {calculator : String} {inputs : List CalculatorInput} :
    (∃ id, resultId calculator inputs = .ok id) ↔ ∀ input ∈ inputs, Held input := by
  unfold resultId
  rw [exists_bind_eq_ok, ← @resultText_isOk_iff calculator inputs]
  constructor
  · rintro ⟨text, h, -⟩
    exact ⟨text, h⟩
  · rintro ⟨text, h⟩
    exact ⟨text, h, _, rfl⟩

variable {calculator : String} {inputs : List CalculatorInput} {outcome : CalculatorOutcome}

theorem build_isOk_iff :
    (∃ result, build calculator inputs outcome = .ok result) ↔ ∀ input ∈ inputs, Held input := by
  unfold build
  rw [exists_bind_eq_ok, ← @resultId_isOk_iff calculator inputs]
  constructor
  · rintro ⟨id, h, -⟩
    exact ⟨id, h⟩
  · rintro ⟨id, h⟩
    exact ⟨id, h, _, rfl⟩

theorem of_build {result : CalculatorResult} (h : build calculator inputs outcome = .ok result) :
    result.calculator = calculator ∧ result.inputs = inputs ∧ result.outcome = outcome := by
  obtain ⟨_, -, hres⟩ := bind_eq_ok.1 h
  cases hres
  exact ⟨rfl, rfl, rfl⟩

/-! ## Quotients -/

/-- The product of a quotient, as it is kept. -/
def keptProduct (a scale : Decimal) : ℚ :=
  (defaultContext.rounded (a.mulExact scale)).toRat

/-- The bounds under which a quotient is computed. -/
structure QuotientBounds (a scale b : Decimal) : Prop where
  product : |a.toRat * scale.toRat| < valueLimit
  quotient : |keptProduct a scale| / |b.toRat| < quantLimit

theorem quantizedQuotient_isOk_iff {a scale b : Decimal} :
    (∃ result, quantizedQuotient a scale b = .ok result) ↔ b.toRat ≠ 0 ∧ QuotientBounds a scale b := by
  unfold quantizedQuotient
  simp only [exists_bind_eq_ok, quantize_isOk_iff]
  have hproduct := defaultContext.fix_isOk_iff (d := a.mulExact scale)
  rw [DecimalContext.toRat_mulExact] at hproduct
  constructor
  · rintro ⟨_, hmul, _, hdiv, hquant⟩
    have hvalue := defaultContext.toRat_fix hmul
    refine ⟨(defaultContext.div_isOk_iff.1 ⟨_, hdiv⟩).1, hproduct.1 ⟨_, hmul⟩, ?_⟩
    rw [keptProduct, ← hvalue]
    exact (defaultContext.abs_div_lt_limitAt_iff hdiv etiny_le_quantExponent).1 hquant
  · rintro ⟨hb, hbounds⟩
    obtain ⟨product, hmul⟩ := hproduct.2 hbounds.product
    have hvalue := defaultContext.toRat_fix hmul
    have hquotient := hbounds.quotient
    rw [keptProduct, ← hvalue] at hquotient
    obtain ⟨quotient, hdiv⟩ := defaultContext.div_isOk_iff.2
      ⟨hb, hquotient.trans_le quantLimit_le_valueLimit⟩
    refine ⟨product, hmul, quotient, hdiv, ?_⟩
    exact (defaultContext.abs_div_lt_limitAt_iff hdiv etiny_le_quantExponent).2 hquotient

/-- **A ratio returns** exactly when its inputs have texts and its quotient, if it is computed, is within
the bounds. -/
theorem ratio_isOk_iff {numerator denominator : CalculatorInput} :
    (∃ result, ratio calculator numerator denominator scale = .ok result) ↔
      Held numerator ∧ Held denominator ∧
        ∀ a ∈ numerator.value, ∀ b ∈ denominator.value, b.toRat ≠ 0 → QuotientBounds a scale b := by
  have hinputs : (∀ input ∈ [numerator, denominator], Held input) ↔ Held numerator ∧ Held denominator := by
    simp only [List.mem_cons, List.not_mem_nil, or_false, forall_eq_or_imp, forall_eq]
  unfold ratio
  cases hn : numerator.value with
  | none =>
    dsimp only
    rw [build_isOk_iff, hinputs]
    simp only [Option.not_mem_none, false_implies, implies_true, and_true]
  | some a =>
    cases hd : denominator.value with
    | none =>
      dsimp only
      rw [build_isOk_iff, hinputs]
      simp only [Option.not_mem_none, false_implies, implies_true, and_true]
    | some b =>
      dsimp only
      simp only [Option.mem_some_iff, forall_eq']
      split
      · rename_i hzero
        rw [build_isOk_iff, hinputs, DecimalContext.toRat_eq_zero_iff.2 hzero]
        simp only [ne_eq, not_true_eq_false, false_implies, and_true]
      · rename_i hnonzero
        have hb : b.toRat ≠ 0 := mt DecimalContext.toRat_eq_zero_iff.1 hnonzero
        rw [exists_bind_eq_ok]
        simp only [build_isOk_iff, hinputs]
        constructor
        · rintro ⟨value, hvalue, hheld⟩
          exact ⟨hheld.1, hheld.2, fun _ => (quantizedQuotient_isOk_iff.1 ⟨value, hvalue⟩).2⟩
        · rintro ⟨hn', hd', hbounds⟩
          obtain ⟨value, hvalue⟩ := quantizedQuotient_isOk_iff.2 ⟨hb, hbounds hb⟩
          exact ⟨value, hvalue, hn', hd'⟩

/-! ## Trends -/

/-- The kept difference of two values. -/
def keptDifference (a b : Decimal) : ℚ :=
  (defaultContext.rounded (a.addExact b.negExact)).toRat

/-- The kept absolute value. -/
def keptSize (a : Decimal) : ℚ :=
  (defaultContext.rounded a.absExact).toRat

/-- The bounds under which the growth from one value to another is computed. -/
structure GrowthBounds (before after : Decimal) : Prop where
  base : |before.toRat| < valueLimit
  notKeptAsZero : unit defaultContext.etiny / 2 < |before.toRat|
  rate : |keptDifference after before| / keptSize before < quantLimit

/-- The bounds under which a step of a trend is computed. -/
structure StepBounds (before after : Decimal) : Prop where
  delta : |after.toRat - before.toRat| < quantLimit
  growth : before.toRat ≠ 0 → GrowthBounds before after

theorem toRat_subExact (a b : Decimal) : (a.addExact b.negExact).toRat = a.toRat - b.toRat := by
  rw [toRat_addExact, toRat_negExact, sub_eq_add_neg]

theorem sub_isOk_iff :
    (∃ result, defaultContext.sub a b = .ok result) ↔ |a.toRat - b.toRat| < valueLimit := by
  have hfix := defaultContext.fix_isOk_iff (d := a.addExact b.negExact)
  rwa [toRat_subExact] at hfix

theorem toRat_sub (h : defaultContext.sub a b = .ok result) :
    result.toRat = keptDifference a b :=
  defaultContext.toRat_fix h

theorem keptDifference_lt_iff :
    |keptDifference a b| < quantLimit ↔ |a.toRat - b.toRat| < quantLimit := by
  rw [← toRat_subExact]
  exact defaultContext.abs_rounded_lt_limitAt_iff etiny_le_quantExponent

theorem growthRate_isOk_iff {period : String} {before after difference : Decimal}
    (hdiff : defaultContext.sub after before = .ok difference) :
    (∃ outcome, growthRate period before difference = .ok outcome) ↔
      (before.toRat ≠ 0 → GrowthBounds before after) := by
  have hvalue := toRat_sub hdiff
  have habs := defaultContext.fix_isOk_iff (d := before.absExact)
  rw [DecimalContext.toRat_absExact, abs_abs] at habs
  have hzero := defaultContext.toRat_rounded_eq_zero_iff (d := before.absExact)
  rw [DecimalContext.toRat_absExact, abs_abs] at hzero
  have hsize : |keptSize before| = keptSize before :=
    abs_of_nonneg (defaultContext.toRat_rounded_nonneg (by
      rw [DecimalContext.toRat_absExact]
      exact abs_nonneg _))
  unfold growthRate
  split
  · rename_i hcoef
    rw [DecimalContext.toRat_eq_zero_iff.2 hcoef]
    simp only [ne_eq, not_true_eq_false, false_implies, iff_true]
    exact ⟨_, rfl⟩
  rename_i hcoef
  have hpre : before.toRat ≠ 0 := mt DecimalContext.toRat_eq_zero_iff.1 hcoef
  simp only [exists_bind_eq_ok]
  constructor
  · rintro ⟨base, hbase, rate, hrate, growth, hgrowth, -⟩ -
    have hkept : base.toRat = keptSize before := defaultContext.toRat_fix hbase
    have hlimit := (defaultContext.abs_div_lt_limitAt_iff hrate etiny_le_quantExponent).1
      (quantize_isOk_iff.1 ⟨growth, hgrowth⟩)
    refine ⟨habs.1 ⟨base, hbase⟩, not_le.1 fun hsmall => ?_, ?_⟩
    · exact (defaultContext.div_isOk_iff.1 ⟨rate, hrate⟩).1 (hkept.trans (hzero.2 hsmall))
    · rw [← hvalue, ← hsize, ← hkept]
      exact hlimit
  · intro hbounds
    obtain ⟨hbase, hlarge, hrate⟩ := hbounds hpre
    obtain ⟨base, hbase⟩ := habs.2 hbase
    have hkept : base.toRat = keptSize before := defaultContext.toRat_fix hbase
    have hne : base.toRat ≠ 0 := fun h => not_le.2 hlarge (hzero.1 (hkept.symm.trans h))
    rw [← hvalue, ← hsize, ← hkept] at hrate
    obtain ⟨rate, hdiv⟩ := defaultContext.div_isOk_iff.2
      ⟨hne, hrate.trans_le quantLimit_le_valueLimit⟩
    obtain ⟨growth, hgrowth⟩ := quantize_isOk_iff.2
      ((defaultContext.abs_div_lt_limitAt_iff hdiv etiny_le_quantExponent).2 hrate)
    exact ⟨base, hbase, rate, hdiv, growth, hgrowth, _, rfl⟩

variable {current previous : TrendPoint}

/-- **A step of a trend returns** exactly when its difference and its growth are within the bounds. -/
theorem trendStep_isOk_iff :
    (∃ step, trendStep previous current = .ok step) ↔
      ∀ before ∈ previous.value, ∀ after ∈ current.value, StepBounds before after := by
  unfold trendStep
  cases hp : previous.value with
  | none =>
    simp only [Option.not_mem_none, false_implies, implies_true, iff_true]
    exact ⟨_, rfl⟩
  | some =>
    cases hc : current.value with
    | none =>
      simp only [Option.not_mem_none, false_implies, implies_true, iff_true]
      exact ⟨_, rfl⟩
    | some =>
      simp only [Option.mem_some_iff, forall_eq', exists_bind_eq_ok]
      constructor
      · rintro ⟨_, hdiff, delta, hdelta, growth, hgrowth, -⟩
        refine ⟨?_, (growthRate_isOk_iff hdiff).1 ⟨growth, hgrowth⟩⟩
        rw [← keptDifference_lt_iff, ← toRat_sub hdiff]
        exact quantize_isOk_iff.1 ⟨delta, hdelta⟩
      · rintro ⟨hdelta, hgrowth⟩
        obtain ⟨difference, hdiff⟩ := sub_isOk_iff.2 (hdelta.trans_le quantLimit_le_valueLimit)
        rw [← keptDifference_lt_iff, ← toRat_sub hdiff] at hdelta
        obtain ⟨delta, hdelta⟩ := quantize_isOk_iff.2 hdelta
        obtain ⟨growth, hgrowth⟩ := (growthRate_isOk_iff hdiff).2 hgrowth
        exact ⟨difference, hdiff, delta, hdelta, growth, hgrowth, _, rfl⟩

/-- The trend over two points returns when their step does and their values have texts. -/
theorem trendAnalysis_isOk_iff {metric : String} :
    (∃ result, trendAnalysis metric [previous, current] = .ok result) ↔
      (∀ before ∈ previous.value, ∀ after ∈ current.value, StepBounds before after) ∧
        (∀ x ∈ previous.value, |x.toRat| < valueLimit) ∧ ∀ x ∈ current.value, |x.toRat| < valueLimit := by
  unfold trendAnalysis
  simp only [exists_bind_eq_ok, List.tail_cons, List.zip_cons_cons, List.zip_nil_right]
  rw [← trendStep_isOk_iff]
  constructor
  · rintro ⟨steps, hsteps, id, hid, -⟩
    obtain ⟨step, hstep⟩ := exists_mapM_eq_ok.1 ⟨steps, hsteps⟩ (previous, current) List.mem_cons_self
    have hheld := resultId_isOk_iff.1 ⟨id, hid⟩
    exact ⟨⟨step, hstep⟩, hheld (pointInput metric previous) List.mem_cons_self,
      hheld (pointInput metric current) (List.mem_cons_of_mem _ List.mem_cons_self)⟩
  · rintro ⟨hstep, hprev, hcur⟩
    obtain ⟨steps, hsteps⟩ := (@exists_mapM_eq_ok _ _ _ (fun pair : TrendPoint × TrendPoint =>
      trendStep pair.1 pair.2) [(previous, current)]).2 (by
        intro pair hpair
        obtain rfl := List.mem_singleton.1 hpair
        exact hstep)
    obtain ⟨id, hid⟩ := (@resultId_isOk_iff ("trend_analysis:" ++ metric)
      ([previous, current].map (pointInput metric))).2 (by
        intro input hinput
        simp only [List.map_cons, List.map_nil, List.mem_cons, List.not_mem_nil, or_false] at hinput
        rcases hinput with rfl | rfl
        · exact hprev
        · exact hcur)
    exact ⟨steps, hsteps, id, hid, _, rfl⟩

/-! ## Working capital -/

/-- A number as `_quantize` returns it. -/
def Quantized (value : Decimal) : Prop :=
  value.Fits contextPrecision ∧ value.exponent = quantExponent

theorem quantized_of_quantize (h : quantize value = .ok result) :
    Quantized result := by
  obtain ⟨hfits, rfl⟩ := defaultContext.quantize_eq_ok.1 h
  exact ⟨hfits, rescale_exponent _ _ _⟩

theorem Quantized.neg (h : Quantized value) : Quantized value.negExact := by
  refine ⟨?_, h.2⟩
  have hfits := fits_iff.1 h.1
  rw [fits_iff, negExact, Int.natAbs_neg]
  exact hfits

theorem Quantized.abs_lt (h : Quantized value) : 4 * |value.toRat| < valueLimit := by
  have hfits := fits_iff_abs_lt.1 h.1
  rw [h.2] at hfits
  have hunit : unit (quantExponent + (1 : Nat)) ≤
      unit (defaultContext.emax + 1 - defaultContext.precision) := unit_mono (by decide)
  rw [unit_add] at hunit
  have hpos := unit_pos quantExponent
  have hlimit : (10 ^ contextPrecision - 1 / 2) * (10 ^ 1 * unit quantExponent) ≤ valueLimit :=
    mul_le_mul_of_nonneg_left hunit (by norm_num [contextPrecision])
  norm_num [contextPrecision] at hfits hlimit
  linarith

theorem Quantized.toRat_rounded (h : Quantized value) (hd : d.toRat = value.toRat) :
    (defaultContext.rounded d).toRat = value.toRat := by
  have hexpn : defaultContext.etiny ≤ value.exponent := h.2 ▸ etiny_le_quantExponent
  rw [defaultContext.toRat_rounded_congr hd, defaultContext.rounded_of_fits h.1 hexpn]

theorem eq_of_toRat_eq (hexpn : a.exponent = b.exponent) (h : a.toRat = b.toRat) :
    a = b := by
  obtain ⟨c, e⟩ := a
  obtain ⟨c', e'⟩ := b
  obtain rfl : e = e' := hexpn
  obtain rfl : c = c' := Int.cast_injective (mul_right_cancel₀ (unit_pos e).ne' h)
  rfl

/-- The quotient a calculator reports. -/
def reportedQuotient (a scale b : Decimal) : Decimal :=
  (defaultContext.rounded (quotient contextPrecision (defaultContext.rounded (a.mulExact scale)) b)).rescale
    .halfUp quantExponent

/-- The kept sum of two values. -/
def keptSum (a b : Decimal) : ℚ :=
  (defaultContext.rounded (a.addExact b)).toRat

/-- The cash conversion cycle of three day counts. -/
def reportedCycle (receivable inventory payable : Decimal) : Decimal :=
  (defaultContext.rounded
    ((defaultContext.rounded (receivable.addExact inventory)).addExact payable.negExact)).rescale
    .halfUp quantExponent

theorem fix_eq_rounded (hd : d.coefficient ≠ 0) (h : defaultContext.fix d = .ok result) :
    result = defaultContext.rounded d := by
  unfold DecimalContext.fix at h
  rw [if_neg hd] at h
  split at h
  · cases h
  · exact (Except.ok.inj h).symm

theorem toRat_rounded_quotient_of_zero (ha : a.toRat = 0) :
    (defaultContext.rounded (quotient contextPrecision a b)).toRat = 0 := by
  rw [quotient, if_pos (DecimalContext.toRat_eq_zero_iff.1 ha)]
  exact defaultContext.toRat_rounded_zero _

theorem eq_reportedQuotient (h : quantizedQuotient a scale b = .ok result) :
    result = reportedQuotient a scale b := by
  obtain ⟨product, hmul, h⟩ := bind_eq_ok.1 h
  obtain ⟨quot, hdiv, hquant⟩ := bind_eq_ok.1 h
  have hb := (defaultContext.div_isOk_iff.1 ⟨quot, hdiv⟩).1
  rw [defaultContext.div_of_ne_zero hb] at hdiv
  have hquot : quot.toRat = (defaultContext.rounded
      (quotient contextPrecision (defaultContext.rounded (a.mulExact scale)) b)).toRat := by
    rw [defaultContext.toRat_fix hdiv]
    by_cases hzero : (a.mulExact scale).coefficient = 0
    · -- a product that is zero may be kept at another exponent, but its quotient is zero again
      have hexact : (a.mulExact scale).toRat = 0 := DecimalContext.toRat_eq_zero_iff.2 hzero
      have hkept : (defaultContext.rounded (a.mulExact scale)).toRat = 0 := by
        rw [defaultContext.toRat_rounded_eq_zero_iff, hexact, abs_zero]
        exact (half_pos (unit_pos _)).le
      have hproduct : product.toRat = 0 := (defaultContext.toRat_fix hmul).trans hkept
      exact (toRat_rounded_quotient_of_zero hproduct).trans (toRat_rounded_quotient_of_zero hkept).symm
    · rw [fix_eq_rounded hzero hmul]
      rfl
  apply eq_of_toRat_eq
  · rw [(quantized_of_quantize hquant).2, reportedQuotient, rescale_exponent]
  · rw [toRat_quantize hquant, reportedQuotient]
    exact toRat_rescale_congr _ hquot _

section Cycle

variable {receivable inventory payable : Decimal}

theorem keptSum_congr {a b a' b' : Decimal} (ha : a.toRat = a'.toRat) (hb : b.toRat = b'.toRat) :
    keptSum a b = keptSum a' b' := by
  apply defaultContext.toRat_rounded_congr
  rw [toRat_addExact, toRat_addExact, ha, hb]

/-- The loop of `cash_conversion_cycle`, over three day counts. -/
theorem signedTotal_eq (hr : Quantized receivable) (hi : Quantized inventory) (hp : Quantized payable) :
    ∃ sum : Decimal, sum.toRat = keptSum receivable inventory ∧
      ∃ signed : Decimal, signed.toRat = -payable.toRat ∧
        signedTotal [(receivable, ofInt 1), (inventory, ofInt 1), (payable, ofInt (-1))] =
          defaultContext.add sum signed := by
  have hone : ∀ {x : Decimal}, Quantized x →
      ∃ y, defaultContext.mul x (ofInt 1) = .ok y ∧ y.toRat = x.toRat := by
    intro x hx
    have hexact : (x.mulExact (ofInt 1)).toRat = x.toRat := by
      rw [DecimalContext.toRat_mulExact, toRat_ofInt, Int.cast_one, mul_one]
    obtain ⟨y, hy⟩ := defaultContext.fix_isOk_iff.2 (hexact.symm ▸
      (by linarith [hx.abs_lt, abs_nonneg x.toRat] : |x.toRat| < valueLimit))
    exact ⟨y, hy, (defaultContext.toRat_fix hy).trans (hx.toRat_rounded hexact)⟩
  obtain ⟨r, hr', hrvalue⟩ := hone hr
  obtain ⟨i, hi', hivalue⟩ := hone hi
  have hnegative : (payable.mulExact (ofInt (-1))).toRat = payable.negExact.toRat := by
    rw [DecimalContext.toRat_mulExact, toRat_ofInt, toRat_negExact, Int.cast_neg, Int.cast_one, mul_neg_one]
  obtain ⟨p, hp'⟩ := defaultContext.fix_isOk_iff.2 (hnegative.symm ▸
    (by linarith [hp.neg.abs_lt, abs_nonneg payable.negExact.toRat] :
      |payable.negExact.toRat| < valueLimit))
  have hpvalue : p.toRat = -payable.toRat := by
    rw [← toRat_negExact, defaultContext.toRat_fix hp', hp.neg.toRat_rounded hnegative]
  -- the first addition is to zero
  have hfirst : ((0 : Decimal).addExact r).toRat = receivable.toRat := by
    rw [toRat_addExact, toRat_zero, zero_add, hrvalue]
  obtain ⟨total, htotal⟩ := defaultContext.fix_isOk_iff.2 (hfirst.symm ▸
    (by linarith [hr.abs_lt, abs_nonneg receivable.toRat] : |receivable.toRat| < valueLimit))
  have htotalvalue : total.toRat = receivable.toRat :=
    (defaultContext.toRat_fix htotal).trans (hr.toRat_rounded hfirst)
  have hsecond : (total.addExact i).toRat = receivable.toRat + inventory.toRat := by
    rw [toRat_addExact, htotalvalue, hivalue]
  obtain ⟨sum, hsum⟩ := defaultContext.fix_isOk_iff.2 (hsecond.symm ▸
    (by linarith [hr.abs_lt, hi.abs_lt, abs_nonneg receivable.toRat, abs_nonneg inventory.toRat,
          abs_add_le receivable.toRat inventory.toRat] :
      |receivable.toRat + inventory.toRat| < valueLimit))
  refine ⟨sum, (defaultContext.toRat_fix hsum).trans (keptSum_congr htotalvalue hivalue), p, hpvalue, ?_⟩
  have hp' : defaultContext.mul payable (ofInt (-1)) = .ok p := hp'
  have htotal : defaultContext.add 0 r = .ok total := htotal
  have hsum : defaultContext.add total i = .ok sum := hsum
  simp only [signedTotal, List.foldlM_cons, List.foldlM_nil, bind_pure, hr', hi', hp', ok_bind, htotal,
    hsum]

/-- The total of three day counts can be rounded to six places when what is kept of their sum, less the
payable days, can. -/
theorem quantize_signedTotal_isOk_iff (hr : Quantized receivable) (hi : Quantized inventory)
    (hp : Quantized payable) :
    (∃ total, signedTotal [(receivable, ofInt 1), (inventory, ofInt 1), (payable, ofInt (-1))] = .ok total ∧
        ∃ value, quantize total = .ok value) ↔
      |keptSum receivable inventory - payable.toRat| < quantLimit := by
  obtain ⟨sum, hsum, signed, hsigned, htotal⟩ := signedTotal_eq hr hi hp
  have hexact : (sum.addExact signed).toRat = keptSum receivable inventory - payable.toRat := by
    rw [toRat_addExact, hsum, hsigned, ← sub_eq_add_neg]
  have hkept := defaultContext.abs_rounded_lt_limitAt_iff (d := sum.addExact signed) etiny_le_quantExponent
  rw [hexact] at hkept
  rw [htotal]
  constructor
  · rintro ⟨_, hadd, hquant⟩
    rw [quantize_isOk_iff, defaultContext.toRat_fix hadd] at hquant
    exact hkept.1 hquant
  · intro hlimit
    obtain ⟨total, hadd⟩ := defaultContext.fix_isOk_iff.2
      (hexact.symm ▸ hlimit.trans_le quantLimit_le_valueLimit)
    refine ⟨total, hadd, quantize_isOk_iff.2 ?_⟩
    rw [defaultContext.toRat_fix hadd]
    exact hkept.2 hlimit

theorem eq_reportedCycle {total value : Decimal} (hr : Quantized receivable) (hi : Quantized inventory)
    (hp : Quantized payable)
    (htotal : signedTotal [(receivable, ofInt 1), (inventory, ofInt 1), (payable, ofInt (-1))] = .ok total)
    (h : quantize total = .ok value) : value = reportedCycle receivable inventory payable := by
  obtain ⟨_, hsum, _, hsigned, hadd⟩ := signedTotal_eq hr hi hp
  rw [hadd] at htotal
  have hkept : total.toRat = (defaultContext.rounded
      ((defaultContext.rounded (receivable.addExact inventory)).addExact payable.negExact)).toRat := by
    rw [defaultContext.toRat_fix htotal]
    apply defaultContext.toRat_rounded_congr
    rw [toRat_addExact, toRat_addExact, toRat_negExact, hsum, hsigned, keptSum]
  apply eq_of_toRat_eq
  · rw [(quantized_of_quantize h).2, reportedCycle, rescale_exponent]
  · rw [toRat_quantize h, reportedCycle]
    exact toRat_rescale_congr _ hkept _

end Cycle

/-- **The cash conversion cycle returns** exactly when the inputs of its components have texts and its
total, if it is computed, is within the bound. -/
theorem cashConversionCycle_isOk_iff {receivable inventory payable : CalculatorResult}
    (hr : ∀ x ∈ outcomeValue receivable.outcome, Quantized x)
    (hi : ∀ x ∈ outcomeValue inventory.outcome, Quantized x)
    (hp : ∀ x ∈ outcomeValue payable.outcome, Quantized x) :
    (∃ result, cashConversionCycle receivable inventory payable = .ok result) ↔
      (∀ input ∈ receivable.inputs ++ inventory.inputs ++ payable.inputs, Held input) ∧
        ∀ r ∈ outcomeValue receivable.outcome, ∀ i ∈ outcomeValue inventory.outcome,
          ∀ p ∈ outcomeValue payable.outcome, |keptSum r i - p.toRat| < quantLimit := by
  have hinputs : [receivable, inventory, payable].flatMap (·.inputs) =
      receivable.inputs ++ inventory.inputs ++ payable.inputs := by
    simp only [List.flatMap_cons, List.flatMap_nil, List.append_nil, List.append_assoc]
  unfold cashConversionCycle
  dsimp only
  rw [hinputs]
  split
  · rename_i r i p hr' hi' hp'
    have htotal := quantize_signedTotal_isOk_iff (hr r hr') (hi i hi') (hp p hp')
    simp only [exists_bind_eq_ok, build_isOk_iff, hr', hi', hp', Option.mem_some_iff, forall_eq']
    rw [← htotal]
    constructor
    · rintro ⟨total, htotal, value, hvalue, hheld⟩
      exact ⟨hheld, total, htotal, value, hvalue⟩
    · rintro ⟨hheld, total, htotal, value, hvalue⟩
      exact ⟨total, htotal, value, hvalue, hheld⟩
  · rename_i hsome
    rw [build_isOk_iff]
    refine ⟨fun h => ⟨h, fun r hr' i hi' p hp' => ?_⟩, fun h => h.1⟩
    exact (hsome r i p hr' hi' hp').elim

/-- The working capital need returns when its inputs have texts and its quotient is within the bounds. -/
theorem workingCapitalNeed_isOk_iff {outlay : CalculatorInput} {cycle : CalculatorResult} :
    (∃ result, workingCapitalNeed outlay cycle = .ok result) ↔
      (∀ input ∈ outlay :: cycle.inputs, Held input) ∧
        ∀ days ∈ outcomeValue cycle.outcome, ∀ a ∈ outlay.value, QuotientBounds a days daysPerYear := by
  have hyear : daysPerYear.toRat ≠ 0 := by
    change (ofInt 365).toRat ≠ 0
    norm_num
  unfold workingCapitalNeed
  dsimp only
  split
  · rename_i hcycle
    simp only [build_isOk_iff, hcycle, Option.not_mem_none, false_implies, implies_true, and_true]
  · rename_i hcycle houtlay
    simp only [build_isOk_iff, houtlay, Option.not_mem_none, false_implies, implies_true, and_true]
  · rename_i days a hcycle houtlay
    have hquotient := @quantizedQuotient_isOk_iff a days daysPerYear
    simp only [exists_bind_eq_ok, build_isOk_iff, hcycle, houtlay, Option.mem_some_iff, forall_eq']
    constructor
    · rintro ⟨value, hvalue, hheld⟩
      exact ⟨hheld, (hquotient.1 ⟨value, hvalue⟩).2⟩
    · rintro ⟨hheld, hbounds⟩
      obtain ⟨value, hvalue⟩ := hquotient.2 ⟨hyear, hbounds⟩
      exact ⟨value, hvalue, hheld⟩

/-- The bounds under which a gap is computed. -/
structure GapBounds (need own other : Decimal) : Prop where
  left : |need.toRat - own.toRat| < valueLimit
  gap : |keptDifference need own - other.toRat| < quantLimit

/-- The working capital gap returns when its inputs have texts and its differences are within the bounds. -/
theorem workingCapitalGap_isOk_iff {need : CalculatorResult} {own other : CalculatorInput} :
    (∃ result, workingCapitalGap need own other = .ok result) ↔
      (∀ input ∈ need.inputs ++ [own, other], Held input) ∧
        ∀ n ∈ outcomeValue need.outcome, ∀ a ∈ own.value, ∀ b ∈ other.value, GapBounds n a b := by
  unfold workingCapitalGap
  dsimp only
  split
  · rename_i hneed
    simp only [build_isOk_iff, hneed, Option.not_mem_none, false_implies, implies_true, and_true]
  · rename_i n a b hneed hown hother
    simp only [exists_bind_eq_ok, build_isOk_iff, hneed, hown, hother, Option.mem_some_iff, forall_eq']
    constructor
    · rintro ⟨left, hleft, _, hdiff, value, hvalue, hheld⟩
      refine ⟨hheld, sub_isOk_iff.1 ⟨left, hleft⟩, ?_⟩
      have hquant := quantize_isOk_iff.1 ⟨value, hvalue⟩
      rwa [toRat_sub hdiff, keptDifference_lt_iff, toRat_sub hleft] at hquant
    · rintro ⟨hheld, hleft, hgap⟩
      obtain ⟨left, hleft⟩ := sub_isOk_iff.2 hleft
      rw [← toRat_sub hleft] at hgap
      obtain ⟨difference, hdiff⟩ := sub_isOk_iff.2 (hgap.trans_le quantLimit_le_valueLimit)
      rw [← keptDifference_lt_iff, ← toRat_sub hdiff] at hgap
      obtain ⟨value, hvalue⟩ := quantize_isOk_iff.2 hgap
      exact ⟨left, hleft, difference, hdiff, value, hvalue, hheld⟩
  · rename_i n hneed hsome
    rw [build_isOk_iff]
    refine ⟨fun h => ⟨h, fun n' hn a ha b hb => ?_⟩, fun h => h.1⟩
    exact absurd hb (hsome a b ha)

/-! ## Scenarios -/

/-- The bounds under which an adjusted value is computed. -/
structure AdjustmentBounds (value : Decimal) (adjustment : ScenarioAdjustment) : Prop where
  factor : |1 + adjustment.relativeChange.toRat| < valueLimit
  scaled : |value.toRat * keptSum 1 adjustment.relativeChange| < valueLimit
  shifted : |keptProduct value (defaultContext.rounded ((1 : Decimal).addExact adjustment.relativeChange)) +
    adjustment.absoluteChange.toRat| < quantLimit

theorem add_isOk_iff :
    (∃ result, defaultContext.add a b = .ok result) ↔ |a.toRat + b.toRat| < valueLimit := by
  have hfix := defaultContext.fix_isOk_iff (d := a.addExact b)
  rwa [toRat_addExact] at hfix

theorem toRat_add (h : defaultContext.add a b = .ok result) :
    result.toRat = keptSum a b :=
  defaultContext.toRat_fix h

theorem mul_isOk_iff :
    (∃ result, defaultContext.mul a b = .ok result) ↔ |a.toRat * b.toRat| < valueLimit := by
  have hfix := defaultContext.fix_isOk_iff (d := a.mulExact b)
  rwa [DecimalContext.toRat_mulExact] at hfix

theorem toRat_mul (h : defaultContext.mul a b = .ok result) :
    result.toRat = keptProduct a b :=
  defaultContext.toRat_fix h

theorem keptProduct_congr {a' b' : Decimal} (ha : a.toRat = a'.toRat) (hb : b.toRat = b'.toRat) :
    keptProduct a b = keptProduct a' b' := by
  apply defaultContext.toRat_rounded_congr
  rw [DecimalContext.toRat_mulExact, DecimalContext.toRat_mulExact, ha, hb]

variable {adjustments : List ScenarioAdjustment}

/-- **A metric is projected** exactly when its base value and its adjusted value are within the bounds. -/
theorem scenarioMetric_isOk_iff {base : CalculatorInput} :
    (∃ outcome, scenarioMetric adjustments base = .ok outcome) ↔
      ∀ value ∈ base.value, |value.toRat| < quantLimit ∧
        ∀ adjustment ∈ adjustments.reverse.find? (·.metric = base.name),
          AdjustmentBounds value adjustment := by
  unfold scenarioMetric
  cases hbase : base.value with
  | none =>
    simp only [Option.not_mem_none, false_implies, implies_true, iff_true]
    exact ⟨_, rfl⟩
  | some =>
    dsimp only
    simp only [Option.mem_some_iff, forall_eq']
    cases adjustments.reverse.find? (·.metric = base.name) with
    | none =>
      simp only [Option.not_mem_none, false_implies, implies_true, and_true, exists_bind_eq_ok]
      rw [← quantize_isOk_iff]
      constructor
      · rintro ⟨rounded, hrnd, -⟩
        exact ⟨rounded, hrnd⟩
      · rintro ⟨rounded, hrnd⟩
        exact ⟨rounded, hrnd, _, rfl⟩
    | some adjustment =>
      simp only [Option.mem_some_iff, forall_eq', exists_bind_eq_ok]
      have hone : (1 : Decimal).toRat = 1 := by
        change (ofInt 1).toRat = 1
        norm_num
      have hlimit : ∀ {scaled shifted : Decimal},
          defaultContext.add scaled adjustment.absoluteChange = .ok shifted →
          (|shifted.toRat| < quantLimit ↔
            |scaled.toRat + adjustment.absoluteChange.toRat| < quantLimit) := by
        intro scaled shifted hshifted
        have hkept := defaultContext.abs_rounded_lt_limitAt_iff
          (d := scaled.addExact adjustment.absoluteChange) etiny_le_quantExponent
        rwa [← defaultContext.toRat_fix hshifted, toRat_addExact] at hkept
      constructor
      · rintro ⟨rounded, hrnd, factor, hfactor, scaled, hscaled, _, hshifted, adjusted,
          hadjusted, -⟩
        have hfactorvalue : factor.toRat =
            (defaultContext.rounded ((1 : Decimal).addExact adjustment.relativeChange)).toRat :=
          toRat_add hfactor
        refine ⟨quantize_isOk_iff.1 ⟨rounded, hrnd⟩, ?_, ?_, ?_⟩
        · rw [← hone]
          exact add_isOk_iff.1 ⟨factor, hfactor⟩
        · rw [← toRat_add hfactor]
          exact mul_isOk_iff.1 ⟨scaled, hscaled⟩
        · rw [← keptProduct_congr rfl hfactorvalue, ← toRat_mul hscaled]
          exact (hlimit hshifted).1 (quantize_isOk_iff.1 ⟨adjusted, hadjusted⟩)
      · rintro ⟨hvalue, hfactor, hscaled, hshifted⟩
        obtain ⟨rounded, hrnd⟩ := quantize_isOk_iff.2 hvalue
        rw [← hone] at hfactor
        obtain ⟨factor, hfactor⟩ := add_isOk_iff.2 hfactor
        have hfactorvalue : factor.toRat =
            (defaultContext.rounded ((1 : Decimal).addExact adjustment.relativeChange)).toRat :=
          toRat_add hfactor
        rw [← toRat_add hfactor] at hscaled
        obtain ⟨scaled, hscaled⟩ := mul_isOk_iff.2 hscaled
        rw [← keptProduct_congr rfl hfactorvalue, ← toRat_mul hscaled] at hshifted
        obtain ⟨shifted, hadd⟩ := add_isOk_iff.2 (hshifted.trans_le quantLimit_le_valueLimit)
        obtain ⟨adjusted, hadjusted⟩ := quantize_isOk_iff.2 ((hlimit hadd).2 hshifted)
        exact ⟨rounded, hrnd, factor, hfactor, scaled, hscaled, shifted, hadd, adjusted, hadjusted, _,
          rfl⟩

variable {adjustment : ScenarioAdjustment}

theorem adjustmentInput_isOk_iff :
    (∃ input, adjustmentInput adjustment = .ok input) ↔
      |adjustment.relativeChange.toRat + adjustment.absoluteChange.toRat| < valueLimit := by
  unfold adjustmentInput
  rw [exists_bind_eq_ok, ← add_isOk_iff]
  constructor
  · rintro ⟨value, hvalue, -⟩
    exact ⟨value, hvalue⟩
  · rintro ⟨value, hvalue⟩
    exact ⟨value, hvalue, _, rfl⟩

/-- What an operation returns is below the limit. -/
theorem abs_lt_of_fix (h : defaultContext.fix d = .ok result) :
    |result.toRat| < valueLimit := by
  have hkept := defaultContext.toRat_fix h
  have hlt := defaultContext.abs_rounded_lt_iff_limit.2 (defaultContext.fix_isOk_iff.1 ⟨result, h⟩)
  have hunit : unit (defaultContext.emax + 1) = (10 ^ contextPrecision : Nat) *
      unit (defaultContext.emax + 1 - defaultContext.precision) := by
    push_cast
    rw [← unit_add]
    rfl
  rw [hkept]
  rw [hunit] at hlt
  have hhalf := @lt_half_of_representable contextPrecision _ _ _ (by decide)
    (defaultContext.representable_rounded d).abs hlt
  push_cast at hhalf
  exact hhalf

theorem held_of_adjustmentInput (h : adjustmentInput adjustment = .ok input) : Held input := by
  obtain ⟨_, hvalue, hinput⟩ := bind_eq_ok.1 h
  cases hinput
  rintro x hx
  obtain rfl := Option.mem_some_iff.1 hx
  exact abs_lt_of_fix hvalue

/-- **A scenario returns** exactly when its metrics and its adjustments are within the bounds and the base
values have texts. -/
theorem scenarioProjection_isOk_iff {scenarioName : String} {baseMetrics : List CalculatorInput} :
    (∃ result, scenarioProjection scenarioName baseMetrics adjustments = .ok result) ↔
      (∀ base ∈ baseMetrics, ∀ value ∈ base.value, |value.toRat| < quantLimit ∧
        ∀ adjustment ∈ adjustments.reverse.find? (·.metric = base.name),
          AdjustmentBounds value adjustment) ∧
      ∀ adjustment ∈ adjustments,
        |adjustment.relativeChange.toRat + adjustment.absoluteChange.toRat| < valueLimit := by
  have houts := @exists_mapM_eq_ok _ _ _ (scenarioMetric adjustments) baseMetrics
  simp only [scenarioMetric_isOk_iff] at houts
  have hadjusted := @exists_mapM_eq_ok _ _ _ adjustmentInput adjustments
  simp only [adjustmentInput_isOk_iff] at hadjusted
  unfold scenarioProjection
  simp only [exists_bind_eq_ok]
  rw [← houts, ← hadjusted]
  constructor
  · rintro ⟨outcomes, h, adjusted, h', -⟩
    exact ⟨⟨outcomes, h⟩, adjusted, h'⟩
  · rintro ⟨⟨outcomes, h⟩, adjusted, h'⟩
    refine ⟨outcomes, h, adjusted, h', ?_⟩
    obtain ⟨id, hid⟩ := (@resultId_isOk_iff ("scenario_projection:" ++ scenarioName)
      (baseMetrics ++ adjusted)).2 (by
        intro input hinput
        rcases List.mem_append.1 hinput with hbase | hadjustment
        · intro x hx
          exact ((houts.1 ⟨outcomes, h⟩ input hbase x hx).1).trans_le quantLimit_le_valueLimit
        · obtain ⟨_, -, hinput⟩ := exists_left_of_mem (mapM_eq_ok.1 h') hadjustment
          exact held_of_adjustmentInput hinput)
    exact ⟨id, hid, _, rfl⟩

end CreditOps.Underwriting
