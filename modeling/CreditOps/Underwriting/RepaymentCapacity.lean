import CreditOps.Underwriting.CalculatorBounds

/-!
# Repayment capacity

The capacity calculator sets each period's operating cash flow against its debt service: a ratio to six places, a
flag for a shortfall, and two counts over the series. The flag compares the values themselves and the ratio is
rounded twice, to the digits of the context and then half up to six places.
-/

set_option autoImplicit false

namespace CreditOps.Underwriting

open Repayments Decimal Results

/-! ## The calculator -/

/-- What the calculators that check their inputs raise. -/
inductive CalculatorFault where
  /-- `CalculatorValidationError` -/
  | calculatorValidation (message : String)
  /-- a signal of the decimal context -/
  | decimal (signal : DecimalSignal)
deriving DecidableEq

/-- `_reject_negative` -/
def rejectNegative (input : CalculatorInput) : Except CalculatorFault Unit :=
  match input.value with
  | none => .ok ()
  | some value =>
    if value < 0 then
      .error (.calculatorValidation (input.name ++ " must be non-negative, got " ++ value.toText))
    else .ok ()

/-- `RepaymentCapacityPeriod` -/
structure RepaymentCapacityPeriod where
  period : String
  operatingCashflow : CalculatorOutcome
  debtService : CalculatorOutcome
  coverageRatio : CalculatorOutcome
  shortfall : Option Bool
deriving DecidableEq

/-- `RepaymentCapacity` -/
structure RepaymentCapacity where
  resultId : String
  inputs : List CalculatorInput
  periods : List RepaymentCapacityPeriod
  shortfallPeriodCount : Nat
  notComputablePeriodCount : Nat
deriving DecidableEq

/-- The variables of the loop. -/
structure CapacityTally where
  periods : List RepaymentCapacityPeriod
  shortfallCount : Nat
  notComputableCount : Nat
deriving DecidableEq

/-- The value of an input, as an outcome. -/
def inputOutcome (input : CalculatorInput) : CalculatorOutcome :=
  match input.value with
  | some value => .computed value
  | none => .notComputable ("not computable: missing input " ++ input.name)

/-- One round of the loop over the periods. -/
def capacityRound (tally : CapacityTally) (pair : CalculatorInput × CalculatorInput) :
    Except DecimalSignal CapacityTally :=
  let (cashflow, service) := pair
  let period := RepaymentCapacityPeriod.mk cashflow.name (inputOutcome cashflow) (inputOutcome service)
  match cashflow.value, service.value with
  | some operating, some due =>
    if due.coefficient = 0 then
      let reason := "not computable: division by zero (" ++ service.name ++ " debt service is zero)"
      .ok { tally with
        periods := tally.periods ++ [period (.notComputable reason) none]
        notComputableCount := tally.notComputableCount + 1 }
    else do
      let quotient ← defaultContext.div operating due
      let ratio ← quantize quotient
      let shortfall := decide (operating < due)
      return { tally with
        periods := tally.periods ++ [period (.computed ratio) (some shortfall)]
        shortfallCount := if shortfall then tally.shortfallCount + 1 else tally.shortfallCount }
  | _, _ =>
    .ok { tally with
      periods := tally.periods ++ [period (missingOutcome [cashflow, service]) none]
      notComputableCount := tally.notComputableCount + 1 }

/-- `repayment_capacity` -/
def repaymentCapacity (cashflows services : List CalculatorInput) :
    Except CalculatorFault RepaymentCapacity := do
  if cashflows.length ≠ services.length then
    .error (.calculatorValidation ("series length mismatch: " ++ toString cashflows.length ++
      " cash-flow periods vs " ++ toString services.length ++ " debt-service periods"))
  else
    let _ ← services.mapM rejectNegative
    let tally ← ((cashflows.zip services).foldlM capacityRound ⟨[], 0, 0⟩).mapError .decimal
    let inputs := cashflows ++ services
    let id ← (resultId "repayment_capacity" inputs).mapError .decimal
    return ⟨id, inputs, tally.periods, tally.shortfallCount, tally.notComputableCount⟩

/-! ## The counts -/

/-- What a period says of its inputs. -/
inductive PeriodOf (cashflow service : CalculatorInput) (period : RepaymentCapacityPeriod) : Prop where
  /-- a value is missing, or there is nothing to serve -/
  | notComputable (reason : String) (hcoverage : period.coverageRatio = .notComputable reason)
      (hshortfall : period.shortfall = none)
      (hvals : ∀ operating ∈ cashflow.value, ∀ due ∈ service.value, due.toRat = 0)
  /-- both values are there -/
  | computed (operating due quotient ratio : Decimal) (hcashflow : cashflow.value = some operating)
      (hservice : service.value = some due) (hquot : defaultContext.div operating due = .ok quotient)
      (hratio : quantize quotient = .ok ratio) (hcoverage : period.coverageRatio = .computed ratio)
      (hshortfall : period.shortfall = some (decide (operating < due)))

/-- The counts are those of the periods. -/
structure Tallied (tally : CapacityTally) : Prop where
  shortfalls : tally.shortfallCount = tally.periods.countP (·.shortfall = some true)
  notComputable : tally.notComputableCount = tally.periods.countP (·.shortfall = none)

variable {next tally : CapacityTally} {service cashflow : CalculatorInput}

/-- **What a round does**: it appends the period of its pair, and counts it. -/
theorem of_capacityRound (h : capacityRound tally (cashflow, service) = .ok next) :
    ∃ period, next.periods = tally.periods ++ [period] ∧ PeriodOf cashflow service period ∧
      next.shortfallCount = tally.shortfallCount + (if period.shortfall = some true then 1 else 0) ∧
      next.notComputableCount = tally.notComputableCount + (if period.shortfall = none then 1 else 0) := by
  unfold capacityRound at h
  dsimp only at h
  split at h
  · rename_i operating due hoper hdue
    split at h
    · rename_i hzero
      cases h
      refine ⟨_, rfl, .notComputable _ rfl rfl ?_, rfl, rfl⟩
      intro _ _ due' hdue'
      obtain rfl := Option.mem_some_iff.1 (hdue ▸ hdue')
      exact DecimalContext.toRat_eq_zero_iff.2 hzero
    · obtain ⟨quotient, hquot, h⟩ := bind_eq_ok.1 h
      obtain ⟨ratio, hratio, h⟩ := bind_eq_ok.1 h
      cases h
      refine ⟨_, rfl, .computed operating due quotient ratio hoper hdue hquot hratio rfl rfl, ?_, rfl⟩
      dsimp only
      by_cases hlt : operating < due
      · rw [decide_eq_true hlt, if_pos rfl, if_pos rfl]
      · rw [decide_eq_false hlt, if_neg Bool.false_ne_true, if_neg (by decide)]
        rfl
  · rename_i hsome
    cases h
    refine ⟨_, rfl, .notComputable _ rfl rfl ?_, rfl, rfl⟩
    intro operating hoper due hdue
    exact (hsome operating due hoper hdue).elim

theorem Tallied.round {pair : CalculatorInput × CalculatorInput} (ht : Tallied tally)
    (h : capacityRound tally pair = .ok next) : Tallied next := by
  obtain ⟨_, hpers, -, hshortfalls, hnotComputable⟩ := of_capacityRound h
  refine ⟨?_, ?_⟩
  · rw [hshortfalls, hpers, List.countP_append, ht.shortfalls, List.countP_singleton]
    simp only [decide_eq_true_eq]
  · rw [hnotComputable, hpers, List.countP_append, ht.notComputable, List.countP_singleton]
    simp only [decide_eq_true_eq]

variable {pairs : List (CalculatorInput × CalculatorInput)}

/-- **The rounds over a series** append the periods of its pairs and keep the counts right. -/
theorem tallied_of_capacityRounds :
    ∀ {tally final : CapacityTally}, Tallied tally → pairs.foldlM capacityRound tally = .ok final →
      Tallied final ∧ ∃ periods, final.periods = tally.periods ++ periods ∧
        List.Forall₂ (fun pair period => PeriodOf pair.1 pair.2 period) pairs periods := by
  induction pairs with
  | nil =>
    intro tally final ht h
    cases h
    exact ⟨ht, [], (List.append_nil _).symm, .nil⟩
  | cons _ _ ih =>
    intro tally final ht h
    rw [List.foldlM_cons] at h
    obtain ⟨_, hround, h⟩ := bind_eq_ok.1 h
    obtain ⟨period, hpers, hper, -, -⟩ := of_capacityRound hround
    obtain ⟨hfinal, periods, hrest, hforall⟩ := ih (ht.round hround) h
    refine ⟨hfinal, period :: periods, ?_, .cons hper hforall⟩
    rw [hrest, hpers, List.append_assoc, List.singleton_append]

/-! ## The reported ratio and the exact one -/

/-- From here on a ratio is reported as at least one: half a unit of the sixth place before one, less half a
unit of the twenty-eighth. -/
def coverageThreshold : ℚ := 9999995 / 10 ^ 7 - 1 / (2 * 10 ^ 28)

theorem half_before_one : (1 - 1 / 2 * unit quantExponent : ℚ) = (9999995 * 10 ^ 21 : Nat) * unit (-28) := by
  norm_num [quantExponent, unit]

theorem threshold_eq : coverageThreshold = ((9999995 * 10 ^ 21 : Nat) - 1 / 2 : ℚ) * unit (-28) := by
  norm_num [coverageThreshold, unit]

/-- A number that is not negative is rounded below one when it is below the half before it. -/
theorem quantized_lt_one_iff {value : Decimal} (hvalue : 0 ≤ value.toRat) :
    (value.rescale .halfUp quantExponent).toRat < 1 ↔
      value.toRat < (9999995 * 10 ^ 21 : Nat) * unit (-28) := by
  have hunit : (0 : ℚ) < unit quantExponent := unit_pos _
  have hone : (1 : ℚ) = (10 ^ 6 : Int) * unit quantExponent := by
    norm_num [quantExponent, unit]
  rw [← half_before_one, toRat_rescale_halfUp hvalue]
  conv_lhs => rw [hone]
  rw [mul_lt_mul_iff_left₀ hunit, Int.cast_lt, Int.floor_lt]
  constructor
  · intro h
    have hmul := mul_lt_mul_of_pos_right h hunit
    rw [add_mul, div_mul_cancel₀ _ hunit.ne', ← hone] at hmul
    linarith
  · intro h
    rw [← lt_sub_iff_add_lt, div_lt_iff₀ hunit, sub_mul, ← hone]
    exact h

/-- **The reported ratio is below one exactly when the exact one is below the threshold.** -/
theorem coverage_lt_one_iff {operating due quotient ratio : Decimal} (hdue : 0 < due.toRat)
    (hquot : defaultContext.div operating due = .ok quotient) (hratio : quantize quotient = .ok ratio) :
    ratio.toRat < 1 ↔ operating.toRat < coverageThreshold * due.toRat := by
  rw [toRat_quantize hratio]
  rcases le_or_gt 0 operating.toRat with hoper | hoper
  · have hkept := defaultContext.toRat_div_nonneg hquot hoper hdue.le
    have hdivision := defaultContext.abs_div_lt_iff (m := 9999995 * 10 ^ 21) (e := -28) hquot
      (by decide) (by norm_num [defaultContext, contextPrecision])
      (by norm_num [defaultContext, contextPrecision]) (by decide)
    rw [abs_of_nonneg hkept, abs_of_nonneg hoper, abs_of_pos hdue, ← threshold_eq,
      div_lt_iff₀ hdue] at hdivision
    exact (quantized_lt_one_iff hkept).trans hdivision
  · -- a negative cash flow is reported as at most zero
    have hkept := defaultContext.toRat_div_nonpos hquot hoper.le hdue.le
    have hrnd : (quotient.rescale .halfUp quantExponent).toRat ≤ 0 := by
      have hflip := rescale_nonneg .halfUp (d := quotient.negExact)
        (by rw [toRat_negExact]; linarith) quantExponent
      rw [rescale_negExact, toRat_negExact] at hflip
      linarith
    have hthr : 0 < coverageThreshold := by norm_num [coverageThreshold]
    exact ⟨fun _ => hoper.trans (mul_pos hthr hdue), fun _ => hrnd.trans_lt one_pos⟩

/-! ## Periods -/

/-- The pair falls short and its ratio is rounded up to one. -/
def RoundsUpToOne (cashflow service : CalculatorInput) : Prop :=
  ∃ operating ∈ cashflow.value, ∃ due ∈ service.value,
    operating < due ∧ coverageThreshold * due.toRat ≤ operating.toRat

/-- The ratio a period reports is below one when the period is flagged, and only then. -/
def Agrees (period : RepaymentCapacityPeriod) : Prop :=
  ∀ ratio, period.coverageRatio = .computed ratio → (ratio.toRat < 1 ↔ period.shortfall = some true)

/-- No debt service is negative. -/
def NonNegative (service : CalculatorInput) : Prop :=
  ∀ due ∈ service.value, 0 ≤ due.toRat

variable {period : RepaymentCapacityPeriod}

/-- **A period agrees with its flag** exactly when its ratio is not rounded up to one. -/
theorem PeriodOf.agrees_iff (h : PeriodOf cashflow service period) (hservice : NonNegative service) :
    Agrees period ↔ ¬ RoundsUpToOne cashflow service := by
  cases h with
  | notComputable _ hcoverage _ hvals =>
    constructor
    · rintro - ⟨operating, hoper, due, hdue, hlt, hle⟩
      have hzero := hvals operating hoper due hdue
      rw [lt_def, hzero] at hlt
      rw [hzero, mul_zero] at hle
      exact absurd hlt (not_lt.2 hle)
    · intro _ ratio hratio
      rw [hcoverage] at hratio
      cases hratio
  | computed operating due quotient ratio hcashflow hdue hquot hratio hcoverage hshortfall =>
    have hpos : 0 < due.toRat :=
      lt_of_le_of_ne (hservice due hdue) (defaultContext.div_isOk_iff.1 ⟨quotient, hquot⟩).1.symm
    have hbelow := coverage_lt_one_iff hpos hquot hratio
    have hthr : coverageThreshold < 1 := by norm_num [coverageThreshold]
    have hflag : period.shortfall = some true ↔ operating < due := by
      rw [hshortfall, Option.some.injEq, decide_eq_true_iff]
    constructor
    · rintro hagrees ⟨operating', hoper', due', hdue', hlt, hle⟩
      obtain rfl : operating = operating' := Option.some.inj (hcashflow.symm.trans hoper')
      obtain rfl : due = due' := Option.some.inj (hdue.symm.trans hdue')
      exact absurd (hbelow.1 ((hagrees ratio hcoverage).2 (hflag.2 hlt))) (not_lt.2 hle)
    · intro hnone reported hreported
      obtain rfl : ratio = reported := CalculatorOutcome.computed.inj (hcoverage.symm.trans hreported)
      rw [hbelow, hflag, lt_def]
      constructor
      · intro hlt
        exact hlt.trans (mul_lt_of_lt_one_left hpos hthr)
      · intro hlt
        by_contra hge
        exact hnone ⟨operating, hcashflow, due, hdue, hlt, not_lt.1 hge⟩

/-! ## The whole series -/

/-- The accounts of a series are consistent: every period is in one of three classes, the counts are those of
the classes, and the ratio of a period agrees with its flag. -/
structure Consistent (periods : Nat) (capacity : RepaymentCapacity) : Prop where
  shortfalls : capacity.shortfallPeriodCount = capacity.periods.countP (·.shortfall = some true)
  notComputable : capacity.notComputablePeriodCount =
    capacity.periods.countP fun period => (outcomeValue period.coverageRatio).isNone
  total : capacity.shortfallPeriodCount + capacity.notComputablePeriodCount +
    capacity.periods.countP (·.shortfall = some false) = periods
  classified : ∀ period ∈ capacity.periods,
    period.shortfall = none ↔ outcomeValue period.coverageRatio = none
  agrees : ∀ period ∈ capacity.periods, Agrees period

/-- The arithmetic of the series stays within the context. -/
structure WithinContext (cashflows services : List CalculatorInput) : Prop where
  held : ∀ input ∈ cashflows ++ services, Held input
  quotient : ∀ pair ∈ cashflows.zip services, ∀ operating ∈ pair.1.value, ∀ due ∈ pair.2.value,
    |operating.toRat| / |due.toRat| < quantLimit

theorem rejectNegative_isOk (h : NonNegative service) :
    rejectNegative service = .ok () := by
  unfold rejectNegative
  split
  · rfl
  · rename_i value hvalue
    rw [if_neg]
    rw [lt_def, toRat_zero, not_lt]
    exact h value hvalue

theorem capacityRound_isOk {tally : CapacityTally} {cashflow service : CalculatorInput}
    (h : ∀ operating ∈ cashflow.value, ∀ due ∈ service.value,
      |operating.toRat| / |due.toRat| < quantLimit) :
    ∃ next, capacityRound tally (cashflow, service) = .ok next := by
  unfold capacityRound
  dsimp only
  split
  · rename_i operating due hoper hdue
    split
    · exact ⟨_, rfl⟩
    · rename_i hne
      have hlimit := h operating hoper due hdue
      obtain ⟨_, hquot⟩ := defaultContext.div_isOk_iff.2
        ⟨mt DecimalContext.toRat_eq_zero_iff.1 hne, hlimit.trans_le quantLimit_le_valueLimit⟩
      obtain ⟨_, hratio⟩ := quantize_isOk_iff.2
        ((defaultContext.abs_div_lt_limitAt_iff hquot etiny_le_quantExponent).2 hlimit)
      rw [hquot, ok_bind, hratio]
      exact ⟨_, rfl⟩
  · exact ⟨_, rfl⟩

theorem capacityRounds_isOk
    (h : ∀ pair ∈ pairs, ∀ operating ∈ pair.1.value, ∀ due ∈ pair.2.value, |operating.toRat| / |due.toRat| < quantLimit) :
    ∀ tally, ∃ final, pairs.foldlM capacityRound tally = .ok final := by
  induction pairs with
  | nil => exact fun tally => ⟨tally, rfl⟩
  | cons pair _ ih =>
    intro tally
    obtain ⟨next, hround⟩ := @capacityRound_isOk tally _ _ (h pair List.mem_cons_self)
    obtain ⟨final, hfinal⟩ := ih (fun pair hpair => h pair (List.mem_cons_of_mem _ hpair)) next
    exact ⟨final, by rw [List.foldlM_cons]; exact bind_eq_ok.2 ⟨next, hround, hfinal⟩⟩

variable {services cashflows : List CalculatorInput}

theorem repaymentCapacity_isOk (hlen : cashflows.length = services.length)
    (hservices : ∀ service ∈ services, NonNegative service) (hcontext : WithinContext cashflows services) :
    ∃ capacity, repaymentCapacity cashflows services = .ok capacity := by
  obtain ⟨checked, hchecked⟩ := (@exists_mapM_eq_ok _ _ _ rejectNegative services).2
    fun service hservice => ⟨(), rejectNegative_isOk (hservices service hservice)⟩
  obtain ⟨tally, htally⟩ := capacityRounds_isOk hcontext.quotient ⟨[], 0, 0⟩
  obtain ⟨id, hid⟩ := (@resultId_isOk_iff "repayment_capacity" _).2 hcontext.held
  unfold repaymentCapacity
  rw [if_neg (not_not.2 hlen)]
  exact ⟨_, bind_eq_ok.2 ⟨checked, hchecked, bind_eq_ok.2 ⟨tally, mapError_eq_ok.2 htally,
    bind_eq_ok.2 ⟨id, mapError_eq_ok.2 hid, rfl⟩⟩⟩⟩

variable {capacity : RepaymentCapacity}

/-- **The periods a series is reported with** are those of its pairs, and the counts are theirs. -/
theorem of_repaymentCapacity (h : repaymentCapacity cashflows services = .ok capacity) :
    List.Forall₂ (fun pair period => PeriodOf pair.1 pair.2 period) (cashflows.zip services)
        capacity.periods ∧
      capacity.shortfallPeriodCount = capacity.periods.countP (·.shortfall = some true) ∧
      capacity.notComputablePeriodCount = capacity.periods.countP (·.shortfall = none) ∧
      cashflows.length = services.length := by
  unfold repaymentCapacity at h
  split at h
  · cases h
  rename_i hlen
  obtain ⟨_, -, h⟩ := bind_eq_ok.1 h
  obtain ⟨_, htally, h⟩ := bind_eq_ok.1 h
  obtain ⟨_, -, h⟩ := bind_eq_ok.1 h
  cases h
  obtain ⟨hcounts, _, hpers, hforall⟩ :=
    tallied_of_capacityRounds ⟨rfl, rfl⟩ (mapError_eq_ok.1 htally)
  rw [List.nil_append] at hpers
  refine ⟨?_, hcounts.shortfalls, hcounts.notComputable, not_not.1 hlen⟩
  dsimp only
  rw [hpers]
  exact hforall

theorem PeriodOf.classified (h : PeriodOf cashflow service period) :
    period.shortfall = none ↔ outcomeValue period.coverageRatio = none := by
  cases h with
  | notComputable _ hcoverage hshortfall =>
    rw [hcoverage, hshortfall]
    exact ⟨fun _ => rfl, fun _ => rfl⟩
  | computed _ _ _ _ _ _ _ _ hcoverage hshortfall =>
    rw [hcoverage, hshortfall]
    exact ⟨fun h => (nomatch h), fun h => (nomatch h)⟩

/-- Every period is in exactly one of the three classes. -/
theorem countP_classes (periods : List RepaymentCapacityPeriod) :
    periods.countP (·.shortfall = some true) + periods.countP (·.shortfall = none) +
      periods.countP (·.shortfall = some false) = periods.length := by
  induction periods with
  | nil => rfl
  | cons period =>
    simp only [List.countP_cons, List.length_cons, decide_eq_true_eq]
    rcases period.shortfall with _ | _ | _
    · simp only [reduceCtorEq, if_false, if_true]
      omega
    · simp only [reduceCtorEq, Option.some.injEq, if_false, if_true]
      omega
    · simp only [reduceCtorEq, Option.some.injEq, if_false, if_true]
      omega

/-- What is returned is consistent exactly when no ratio of a period that falls short is rounded up to one. -/
theorem consistent_iff (hservices : ∀ service ∈ services, NonNegative service)
    (h : repaymentCapacity cashflows services = .ok capacity) :
    Consistent cashflows.length capacity ↔
      ∀ pair ∈ cashflows.zip services, ¬ RoundsUpToOne pair.1 pair.2 := by
  obtain ⟨hpers, hshortfalls, hnotComputable, hlen⟩ := of_repaymentCapacity h
  have hagrees : ∀ {pair : CalculatorInput × CalculatorInput} {period : RepaymentCapacityPeriod},
      pair ∈ cashflows.zip services → PeriodOf pair.1 pair.2 period →
        (Agrees period ↔ ¬ RoundsUpToOne pair.1 pair.2) :=
    fun hpair hper => hper.agrees_iff (hservices _ (List.of_mem_zip hpair).2)
  constructor
  · intro hcons pair hpair
    obtain ⟨period, hmem, hper⟩ := exists_right_of_mem hpers hpair
    exact (hagrees hpair hper).1 (hcons.agrees period hmem)
  · intro hnone
    have hclassified : ∀ period ∈ capacity.periods,
        period.shortfall = none ↔ outcomeValue period.coverageRatio = none := by
      intro period hmem
      obtain ⟨_, -, hper⟩ := exists_left_of_mem hpers hmem
      exact hper.classified
    refine ⟨hshortfalls, ?_, ?_, hclassified, ?_⟩
    · rw [hnotComputable]
      apply List.countP_congr
      intro period hmem
      rw [decide_eq_true_iff, Option.isNone_iff_eq_none]
      exact hclassified period hmem
    · rw [hshortfalls, hnotComputable, countP_classes, ← hpers.length_eq, List.length_zip, ← hlen,
        Nat.min_self]
    · intro period hmem
      obtain ⟨pair, hpair, hper⟩ := exists_left_of_mem hpers hmem
      exact (hagrees hpair hper).2 (hnone pair hpair)

/-- **The accounts of a series are consistent** exactly when none of its cash flows falls short of its debt
service by so little that the ratio is rounded up to one. -/
theorem capacity_consistent_iff (cashflows services : List CalculatorInput)
    (hlen : cashflows.length = services.length) (hservices : ∀ service ∈ services, NonNegative service)
    (hcontext : WithinContext cashflows services) :
    (∃ capacity, repaymentCapacity cashflows services = .ok capacity ∧
        Consistent cashflows.length capacity) ↔
      ∀ pair ∈ cashflows.zip services, ¬ RoundsUpToOne pair.1 pair.2 := by
  constructor
  · rintro ⟨_, hcapacity, hcons⟩
    exact (consistent_iff hservices hcapacity).1 hcons
  · intro hnone
    obtain ⟨capacity, hcapacity⟩ := repaymentCapacity_isOk hlen hservices hcontext
    exact ⟨capacity, hcapacity, (consistent_iff hservices hcapacity).2 hnone⟩

/-- A cash flow or a debt service without references. -/
def plainInput (name : String) (value : Decimal) (hname : name ≠ "") : CalculatorInput :=
  ⟨name, some value, [], hname⟩

/-- A cash flow of twice the debt service. -/
theorem capacity_consistent_twice :
    (∃ capacity, repaymentCapacity [plainInput "cashflow" 2 (by decide)]
        [plainInput "service" 1 (by decide)] = .ok capacity ∧ Consistent 1 capacity) ↔
      ∀ pair ∈ [plainInput "cashflow" 2 (by decide)].zip [plainInput "service" 1 (by decide)],
        ¬ RoundsUpToOne pair.1 pair.2 := by
  have hone : (1 : Decimal).toRat = 1 := by
    change (ofInt 1).toRat = 1
    norm_num
  have htwo : (2 : Decimal).toRat = 2 := by
    change (ofInt 2).toRat = 2
    norm_num
  have hlimit : (2 : ℚ) < quantLimit := by
    norm_num [quantLimit, DecimalContext.limitAt, defaultContext, contextPrecision, quantExponent, unit]
  refine capacity_consistent_iff [plainInput "cashflow" 2 (by decide)] [plainInput "service" 1 (by decide)]
    rfl ?_ ⟨?_, ?_⟩
  · intro service hservice due hdue
    obtain rfl := List.mem_singleton.1 hservice
    obtain rfl := Option.mem_some_iff.1 hdue
    rw [hone]
    exact zero_le_one
  · intro input hinput x hx
    rw [List.singleton_append, List.mem_cons, List.mem_singleton] at hinput
    rcases hinput with rfl | rfl
    · obtain rfl := Option.mem_some_iff.1 hx
      rw [htwo, abs_of_pos two_pos]
      exact hlimit.trans_le quantLimit_le_valueLimit
    · obtain rfl := Option.mem_some_iff.1 hx
      rw [hone, abs_one]
      exact one_lt_quantLimit.trans_le quantLimit_le_valueLimit
  · intro pair hpair operating hoper due hdue
    obtain rfl := List.mem_singleton.1 hpair
    obtain rfl := Option.mem_some_iff.1 hoper
    obtain rfl := Option.mem_some_iff.1 hdue
    rw [hone, htwo, abs_one, div_one, abs_of_pos two_pos]
    exact hlimit

/-- A cash flow one ten-millionth short of its debt service is a shortfall with a ratio of one. -/
theorem capacity_rounds_up :
    ¬ ∃ capacity, repaymentCapacity [plainInput "cashflow" ⟨9999999, -7⟩ (by decide)]
      [plainInput "service" 1 (by decide)] = .ok capacity ∧ Consistent 1 capacity := by
  rintro ⟨_, hcapacity, hcons⟩
  have hone : (1 : Decimal).toRat = 1 := by
    change (ofInt 1).toRat = 1
    norm_num
  refine (consistent_iff ?_ hcapacity).1 hcons _ List.mem_cons_self
    ⟨⟨9999999, -7⟩, rfl, 1, rfl, by decide, ?_⟩
  · intro service hservice due hdue
    obtain rfl := List.mem_singleton.1 hservice
    obtain rfl := Option.mem_some_iff.1 hdue
    rw [hone]
    exact zero_le_one
  · rw [hone]
    norm_num [coverageThreshold, toRat]

end CreditOps.Underwriting
