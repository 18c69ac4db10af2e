import CreditOps.Underwriting.EvidenceSuite

/-!
# When the suite is built

The suite runs every calculator on one set of inputs, and one of them raising is the suite raising. The bounds of
the calculators are collected here in terms of the values of the inputs alone (`SuiteBounds`): the suite's
results, trends and scenario exist exactly within them (`suite_isOk_iff`).
-/

set_option autoImplicit false

namespace CreditOps.Underwriting

open Repayments Decimal Results Evidence

/-! ## What the calculators report -/

/-- The number a ratio reports. -/
def ratioValue (scale : Decimal) : Option Decimal → Option Decimal → Option Decimal
  | some a, some b => if b.coefficient = 0 then none else some (reportedQuotient a scale b)
  | _, _ => none

/-- The number of days a cash conversion cycle reports. -/
def cycleValue : Option Decimal → Option Decimal → Option Decimal → Option Decimal
  | some receivable, some inventory, some payable => some (reportedCycle receivable inventory payable)
  | _, _, _ => none

/-- The number a working capital need reports. -/
def needValue : Option Decimal → Option Decimal → Option Decimal
  | some outlay, some days => some (reportedQuotient outlay days daysPerYear)
  | _, _ => none

variable {result : CalculatorResult}

/-- **What a ratio returns** carries its inputs and the quotient of their values, to six places. -/
theorem of_ratio {calculator : String} {numerator denominator : CalculatorInput} {scale : Decimal}
    (h : ratio calculator numerator denominator scale = .ok result) :
    result.calculator = calculator ∧ result.inputs = [numerator, denominator] ∧
      outcomeValue result.outcome = ratioValue scale numerator.value denominator.value ∧
      ∀ x ∈ outcomeValue result.outcome, Quantized x := by
  unfold ratio at h
  dsimp only at h
  split at h
  · rename_i a b hn hd
    rw [hn, hd, ratioValue]
    split at h
    · rename_i hzero
      obtain ⟨hcalc, hinputs, hout⟩ := of_build h
      rw [hout, if_pos hzero]
      refine ⟨hcalc, hinputs, rfl, ?_⟩
      intro x hx
      cases hx
    · rename_i hnonzero
      obtain ⟨_, hvalue, h⟩ := bind_eq_ok.1 h
      obtain ⟨hcalc, hinputs, hout⟩ := of_build h
      obtain ⟨_, -, hquot⟩ := bind_eq_ok.1 hvalue
      obtain ⟨_, -, hquant⟩ := bind_eq_ok.1 hquot
      rw [hout, if_neg hnonzero, ← eq_reportedQuotient hvalue]
      refine ⟨hcalc, hinputs, rfl, fun x hx => ?_⟩
      obtain rfl := Option.mem_some_iff.1 hx
      exact quantized_of_quantize hquant
  · rename_i hsome
    obtain ⟨hcalc, hinputs, hout⟩ := of_build h
    rw [hout]
    refine ⟨hcalc, hinputs, ?_, ?_⟩
    · cases hn : numerator.value with
      | none => rfl
      | some a =>
        cases hd : denominator.value with
        | none => rfl
        | some b => exact (hsome a b hn hd).elim
    · intro x hx
      cases hx

theorem of_cashConversionCycle {receivable inventory payable : CalculatorResult}
    (hr : ∀ x ∈ outcomeValue receivable.outcome, Quantized x)
    (hi : ∀ x ∈ outcomeValue inventory.outcome, Quantized x)
    (hp : ∀ x ∈ outcomeValue payable.outcome, Quantized x)
    (h : cashConversionCycle receivable inventory payable = .ok result) :
    result.calculator = "cash_conversion_cycle" ∧
      result.inputs = receivable.inputs ++ inventory.inputs ++ payable.inputs ∧
      outcomeValue result.outcome = cycleValue (outcomeValue receivable.outcome)
        (outcomeValue inventory.outcome) (outcomeValue payable.outcome) := by
  have hflat : [receivable, inventory, payable].flatMap (·.inputs) =
      receivable.inputs ++ inventory.inputs ++ payable.inputs := by
    simp only [List.flatMap_cons, List.flatMap_nil, List.append_nil, List.append_assoc]
  unfold cashConversionCycle at h
  dsimp only at h
  rw [hflat] at h
  split at h
  · rename_i r i p hr' hi' hp'
    obtain ⟨_, htotal, h⟩ := bind_eq_ok.1 h
    obtain ⟨_, hvalue, h⟩ := bind_eq_ok.1 h
    obtain ⟨hcalc, hinputs, hout⟩ := of_build h
    rw [hout, hr', hi', hp', cycleValue,
      ← eq_reportedCycle (hr r hr') (hi i hi') (hp p hp') htotal hvalue]
    exact ⟨hcalc, hinputs, rfl⟩
  · rename_i hsome
    obtain ⟨hcalc, hinputs, hout⟩ := of_build h
    refine ⟨hcalc, hinputs, ?_⟩
    rw [hout]
    cases hr' : outcomeValue receivable.outcome with
    | none => rfl
    | some r =>
      cases hi' : outcomeValue inventory.outcome with
      | none => rfl
      | some i =>
        cases hp' : outcomeValue payable.outcome with
        | none => rfl
        | some p => exact (hsome r i p hr' hi' hp').elim

theorem of_workingCapitalNeed {outlay : CalculatorInput} {cycle : CalculatorResult}
    (h : workingCapitalNeed outlay cycle = .ok result) :
    result.calculator = "working_capital_need" ∧ result.inputs = outlay :: cycle.inputs ∧
      outcomeValue result.outcome = needValue outlay.value (outcomeValue cycle.outcome) := by
  unfold workingCapitalNeed at h
  dsimp only at h
  split at h
  · rename_i hcycle
    obtain ⟨hcalc, hinputs, hout⟩ := of_build h
    rw [hout, hcycle]
    exact ⟨hcalc, hinputs, by cases outlay.value <;> rfl⟩
  · rename_i houtlay
    obtain ⟨hcalc, hinputs, hout⟩ := of_build h
    rw [hout, houtlay]
    exact ⟨hcalc, hinputs, rfl⟩
  · rename_i days a hcycle houtlay
    obtain ⟨_, hvalue, h⟩ := bind_eq_ok.1 h
    obtain ⟨hcalc, hinputs, hout⟩ := of_build h
    rw [hout, hcycle, houtlay, needValue, ← eq_reportedQuotient hvalue]
    exact ⟨hcalc, hinputs, rfl⟩

theorem of_workingCapitalGap {need : CalculatorResult} {own other : CalculatorInput}
    (h : workingCapitalGap need own other = .ok result) :
    result.calculator = "working_capital_gap" ∧ result.inputs = need.inputs ++ [own, other] := by
  unfold workingCapitalGap at h
  dsimp only at h
  split at h
  · obtain ⟨hcalc, hinputs, -⟩ := of_build h
    exact ⟨hcalc, hinputs⟩
  · obtain ⟨_, -, h⟩ := bind_eq_ok.1 h
    obtain ⟨_, -, h⟩ := bind_eq_ok.1 h
    obtain ⟨_, -, h⟩ := bind_eq_ok.1 h
    obtain ⟨hcalc, hinputs, -⟩ := of_build h
    exact ⟨hcalc, hinputs⟩
  · obtain ⟨hcalc, hinputs, -⟩ := of_build h
    exact ⟨hcalc, hinputs⟩

variable {inventory currentAssets currentLiabilities : CalculatorInput}

theorem calculator_of_quickRatio (h : quickRatio currentAssets inventory currentLiabilities = .ok result) :
    result.calculator = "quick_ratio" := by
  obtain ⟨_, -, h⟩ := bind_eq_ok.1 h
  split at h
  · exact (of_build h).1
  · exact (of_ratio h).1

/-! ## The bounds of the suite -/

/-- The ratios of the suite, except the quick ratio: numerator, denominator and scale. -/
def suiteRatios : List (SuiteInput × SuiteInput × Decimal) :=
  [(.accountsReceivable, .revenue, daysPerYear), (.inventory, .costOfGoodsSold, daysPerYear),
    (.accountsPayable, .costOfGoodsSold, daysPerYear), (.currentAssets, .currentLiabilities, 1),
    (.totalDebt, .totalEquity, 1), (.totalDebt, .totalAssets, 1), (.grossProfit, .revenue, 1),
    (.operatingProfit, .revenue, 1), (.netProfit, .revenue, 1), (.netProfit, .totalAssets, 1),
    (.netProfit, .totalEquity, 1), (.revenue, .totalAssets, 1)]

/-- The metrics of the downside scenario. -/
def scenarioInputs : List SuiteInput :=
  [.revenue, .netProfit, .operatingProfit]

section Bounds

variable (value : SuiteInput → Option Decimal) (priorRevenue priorNetProfit : Option Decimal)

/-- The receivable days of the values. -/
def receivableDaysOf : Option Decimal :=
  ratioValue daysPerYear (value .accountsReceivable) (value .revenue)

/-- The inventory days of the values. -/
def inventoryDaysOf : Option Decimal :=
  ratioValue daysPerYear (value .inventory) (value .costOfGoodsSold)

/-- The payable days of the values. -/
def payableDaysOf : Option Decimal :=
  ratioValue daysPerYear (value .accountsPayable) (value .costOfGoodsSold)

/-- The cash conversion cycle of the values. -/
def cycleOf : Option Decimal :=
  cycleValue (receivableDaysOf value) (inventoryDaysOf value) (payableDaysOf value)

/-- The working capital need of the values. -/
def needOf : Option Decimal :=
  needValue (value .costOfGoodsSold) (cycleOf value)

/-- The bounds on the values of a suite's inputs within which its results exist. -/
structure ResultBounds : Prop where
  /-- every value has a text -/
  held : ∀ input, ∀ x ∈ value input, |x.toRat| < valueLimit
  ratios : ∀ entry ∈ suiteRatios, ∀ a ∈ value entry.1, ∀ b ∈ value entry.2.1, b.toRat ≠ 0 →
    QuotientBounds a entry.2.2 b
  quickDifference : ∀ a ∈ value .currentAssets, ∀ b ∈ value .inventory, |a.toRat - b.toRat| < valueLimit
  quickRatio : ∀ a ∈ value .currentAssets, ∀ b ∈ value .inventory, ∀ d ∈ value .currentLiabilities,
    d.toRat ≠ 0 → QuotientBounds (defaultContext.rounded (a.addExact b.negExact)) 1 d
  cycle : ∀ r ∈ receivableDaysOf value, ∀ i ∈ inventoryDaysOf value, ∀ p ∈ payableDaysOf value,
    |keptSum r i - p.toRat| < quantLimit
  need : ∀ days ∈ cycleOf value, ∀ a ∈ value .costOfGoodsSold, QuotientBounds a days daysPerYear
  gap : ∀ n ∈ needOf value, ∀ a ∈ value .ownWorkingCapital, ∀ b ∈ value .otherFundingSources,
    GapBounds n a b

/-- The bounds within which every calculator of the suite returns. -/
structure SuiteBounds : Prop extends ResultBounds value where
  priorRevenueHeld : ∀ x ∈ priorRevenue, |x.toRat| < valueLimit
  priorNetProfitHeld : ∀ x ∈ priorNetProfit, |x.toRat| < valueLimit
  revenueTrend : ∀ before ∈ priorRevenue, ∀ after ∈ value .revenue, StepBounds before after
  netProfitTrend : ∀ before ∈ priorNetProfit, ∀ after ∈ value .netProfit, StepBounds before after
  scenario : ∀ input ∈ scenarioInputs, ∀ x ∈ value input, |x.toRat| < quantLimit

end Bounds

/-! ## Results, trends and the scenario -/

theorem QuotientBounds.congr {a a' scale b : Decimal} (h : a.toRat = a'.toRat)
    (hbounds : QuotientBounds a scale b) : QuotientBounds a' scale b := by
  refine ⟨?_, ?_⟩
  · rw [← h]
    exact hbounds.product
  · rw [← keptProduct_congr h rfl]
    exact hbounds.quotient

/-- The quick ratio returns within the bounds of its difference and of its quotient. -/
theorem quickRatio_isOk_iff (hassets : Held currentAssets) (hinventory : Held inventory)
    (hliabilities : Held currentLiabilities) :
    (∃ result, quickRatio currentAssets inventory currentLiabilities = .ok result) ↔
      (∀ a ∈ currentAssets.value, ∀ b ∈ inventory.value, |a.toRat - b.toRat| < valueLimit) ∧
        ∀ a ∈ currentAssets.value, ∀ b ∈ inventory.value, ∀ d ∈ currentLiabilities.value,
          d.toRat ≠ 0 → QuotientBounds (defaultContext.rounded (a.addExact b.negExact)) 1 d := by
  have hinputs : ∀ input ∈ [currentAssets, inventory, currentLiabilities], Held input := by
    simp only [List.mem_cons, List.not_mem_nil, or_false, forall_eq_or_imp, forall_eq]
    exact ⟨hassets, hinventory, hliabilities⟩
  unfold quickRatio differenceInput
  cases ha : currentAssets.value with
  | none =>
    simp only [Option.not_mem_none, false_implies, implies_true, and_true, iff_true, ok_bind, true_or,
      if_true]
    exact build_isOk_iff.2 hinputs
  | some =>
    cases hb : inventory.value with
    | none =>
      simp only [Option.not_mem_none, false_implies, implies_true, and_true, iff_true, ok_bind, or_true,
        if_true]
      exact build_isOk_iff.2 hinputs
    | some =>
      simp only [Option.mem_some_iff, forall_eq', reduceCtorEq, or_self, if_false]
      rw [exists_bind_eq_ok, ← sub_isOk_iff]
      constructor
      · rintro ⟨_, hnum, hratio⟩
        obtain ⟨difference, hdiff, hnum⟩ := bind_eq_ok.1 hnum
        cases hnum
        refine ⟨⟨difference, hdiff⟩, fun d hd hne => ?_⟩
        exact ((ratio_isOk_iff.1 hratio).2.2 difference rfl d hd hne).congr
          (defaultContext.toRat_fix hdiff)
      · rintro ⟨⟨difference, hdiff⟩, hquotient⟩
        refine ⟨_, bind_eq_ok.2 ⟨difference, hdiff, rfl⟩, ratio_isOk_iff.2 ⟨?_, hliabilities, ?_⟩⟩
        · intro x hx
          obtain rfl := Option.mem_some_iff.1 hx
          exact abs_lt_of_fix hdiff
        · intro x hx d hd hne
          obtain rfl := Option.mem_some_iff.1 hx
          exact (hquotient d hd hne).congr (defaultContext.toRat_fix hdiff).symm

section Suite

variable {inputs : SuiteInput → CalculatorInput}

theorem suiteRatio_isOk_iff {calculator : String} {numerator denominator : SuiteInput} {scale : Decimal}
    (hheld : ∀ input, Held (inputs input)) :
    (∃ result, ratio calculator (inputs numerator) (inputs denominator) scale = .ok result) ↔
      ∀ a ∈ (inputs numerator).value, ∀ b ∈ (inputs denominator).value, b.toRat ≠ 0 →
        QuotientBounds a scale b := by
  rw [ratio_isOk_iff]
  exact ⟨fun h => h.2.2, fun h => ⟨hheld numerator, hheld denominator, h⟩⟩

/-- The three day counts and the cycle, the need and the gap that are computed from them. -/
theorem suiteCycle_isOk_iff (hheld : ∀ input, Held (inputs input)) {receivable inventory payable : CalculatorResult}
    (hr : receivableDays (inputs .accountsReceivable) (inputs .revenue) = .ok receivable)
    (hi : inventoryDays (inputs .inventory) (inputs .costOfGoodsSold) = .ok inventory)
    (hp : payableDays (inputs .accountsPayable) (inputs .costOfGoodsSold) = .ok payable) :
    (∃ cycle, cashConversionCycle receivable inventory payable = .ok cycle ∧
        ∃ need, workingCapitalNeed (annualOperatingOutlay (inputs .costOfGoodsSold)) cycle = .ok need ∧
          ∃ gap, workingCapitalGap need (inputs .ownWorkingCapital) (inputs .otherFundingSources) =
            .ok gap) ↔
      (∀ r ∈ receivableDaysOf fun i => (inputs i).value, ∀ i ∈ inventoryDaysOf fun i => (inputs i).value,
          ∀ p ∈ payableDaysOf fun i => (inputs i).value, |keptSum r i - p.toRat| < quantLimit) ∧
        (∀ days ∈ cycleOf fun i => (inputs i).value, ∀ a ∈ (inputs .costOfGoodsSold).value,
          QuotientBounds a days daysPerYear) ∧
        ∀ n ∈ needOf fun i => (inputs i).value, ∀ a ∈ (inputs .ownWorkingCapital).value,
          ∀ b ∈ (inputs .otherFundingSources).value, GapBounds n a b := by
  obtain ⟨-, hrinputs, hrvalue, hrquant⟩ := of_ratio hr
  obtain ⟨-, hiinputs, hivalue, hiquant⟩ := of_ratio hi
  obtain ⟨-, hpinputs, hpvalue, hpquant⟩ := of_ratio hp
  have hcycle := cashConversionCycle_isOk_iff hrquant hiquant hpquant
  have hcomponents : ∀ input ∈ receivable.inputs ++ inventory.inputs ++ payable.inputs, Held input := by
    rw [hrinputs, hiinputs, hpinputs]
    simp only [List.cons_append, List.nil_append, List.mem_cons, List.not_mem_nil, or_false,
      forall_eq_or_imp, forall_eq]
    exact ⟨hheld _, hheld _, hheld _, hheld _, hheld _, hheld _⟩
  have houtlay : Held (annualOperatingOutlay (inputs .costOfGoodsSold)) := hheld .costOfGoodsSold
  have hneedInputs : ∀ {cycle : CalculatorResult},
      cashConversionCycle receivable inventory payable = .ok cycle →
        ∀ input ∈ annualOperatingOutlay (inputs .costOfGoodsSold) :: cycle.inputs, Held input := by
    intro cycle h input hinput
    rw [(of_cashConversionCycle hrquant hiquant hpquant h).2.1] at hinput
    rcases List.mem_cons.1 hinput with rfl | hinput
    · exact houtlay
    · exact hcomponents input hinput
  have hgapInputs : ∀ {cycle need : CalculatorResult},
      cashConversionCycle receivable inventory payable = .ok cycle →
      workingCapitalNeed (annualOperatingOutlay (inputs .costOfGoodsSold)) cycle = .ok need →
        ∀ input ∈ need.inputs ++ [inputs .ownWorkingCapital, inputs .otherFundingSources], Held input := by
    intro cycle need hcycle hneed input hinput
    rw [(of_workingCapitalNeed hneed).2.1] at hinput
    rcases List.mem_append.1 hinput with hinput | hinput
    · exact hneedInputs hcycle input hinput
    · rcases List.mem_cons.1 hinput with rfl | hinput
      · exact hheld _
      · obtain rfl := List.mem_singleton.1 hinput
        exact hheld _
  rw [hrvalue, hivalue, hpvalue] at hcycle
  have hcycleValue : ∀ {cycle : CalculatorResult},
      cashConversionCycle receivable inventory payable = .ok cycle →
        outcomeValue cycle.outcome = cycleOf fun i => (inputs i).value := by
    intro cycle h
    rw [(of_cashConversionCycle hrquant hiquant hpquant h).2.2, hrvalue, hivalue, hpvalue]
    rfl
  have hneedValue : ∀ {cycle need : CalculatorResult},
      cashConversionCycle receivable inventory payable = .ok cycle →
      workingCapitalNeed (annualOperatingOutlay (inputs .costOfGoodsSold)) cycle = .ok need →
        outcomeValue need.outcome = needOf fun i => (inputs i).value := by
    intro cycle need hcycle hneed
    rw [(of_workingCapitalNeed hneed).2.2, hcycleValue hcycle]
    rfl
  constructor
  · rintro ⟨cycle, hc, need, hn, hgap⟩
    refine ⟨(hcycle.1 ⟨cycle, hc⟩).2, ?_, ?_⟩
    · rw [← hcycleValue hc]
      exact (workingCapitalNeed_isOk_iff.1 ⟨need, hn⟩).2
    · rw [← hneedValue hc hn]
      exact (workingCapitalGap_isOk_iff.1 hgap).2
  · rintro ⟨htotal, hneed, hgap⟩
    obtain ⟨cycle, hc⟩ := hcycle.2 ⟨hcomponents, htotal⟩
    rw [← hcycleValue hc] at hneed
    obtain ⟨need, hn⟩ := workingCapitalNeed_isOk_iff.2 ⟨hneedInputs hc, hneed⟩
    rw [← hneedValue hc hn] at hgap
    exact ⟨cycle, hc, need, hn, workingCapitalGap_isOk_iff.2 ⟨hgapInputs hc hn, hgap⟩⟩

theorem suiteResults_isOk_iff :
    (∃ results, suiteResults inputs = .ok results) ↔ ResultBounds fun input => (inputs input).value := by
  constructor
  · rintro ⟨_, h⟩
    unfold suiteResults at h
    obtain ⟨recDays, hrec, h⟩ := bind_eq_ok.1 h
    obtain ⟨invDays, hinv, h⟩ := bind_eq_ok.1 h
    obtain ⟨payDays, hpay, h⟩ := bind_eq_ok.1 h
    obtain ⟨ccc, hccc, h⟩ := bind_eq_ok.1 h
    obtain ⟨wcNeed, hneed, h⟩ := bind_eq_ok.1 h
    obtain ⟨current, hcur, h⟩ := bind_eq_ok.1 h
    obtain ⟨quick, hquick, h⟩ := bind_eq_ok.1 h
    obtain ⟨equity, hequity, h⟩ := bind_eq_ok.1 h
    obtain ⟨assets, hassets, h⟩ := bind_eq_ok.1 h
    obtain ⟨gross, hgross, h⟩ := bind_eq_ok.1 h
    obtain ⟨operating, hoper, h⟩ := bind_eq_ok.1 h
    obtain ⟨net, hnet, h⟩ := bind_eq_ok.1 h
    obtain ⟨roa, hroa, h⟩ := bind_eq_ok.1 h
    obtain ⟨roe, hroe, h⟩ := bind_eq_ok.1 h
    obtain ⟨turnover, hturnover, h⟩ := bind_eq_ok.1 h
    obtain ⟨gap, hgap, -⟩ := bind_eq_ok.1 h
    have hgapInputs := (workingCapitalGap_isOk_iff.1 ⟨gap, hgap⟩).1
    have hown : Held (inputs .ownWorkingCapital) :=
      hgapInputs _ (List.mem_append_right _ List.mem_cons_self)
    have hother : Held (inputs .otherFundingSources) :=
      hgapInputs _ (List.mem_append_right _ (List.mem_cons_of_mem _ List.mem_cons_self))
    -- every other input is one of a ratio
    have hheld : ∀ input, Held (inputs input) := by
      intro input
      cases input with
      | currentAssets => exact (ratio_isOk_iff.1 ⟨current, hcur⟩).1
      | currentLiabilities => exact (ratio_isOk_iff.1 ⟨current, hcur⟩).2.1
      | inventory => exact (ratio_isOk_iff.1 ⟨invDays, hinv⟩).1
      | totalDebt => exact (ratio_isOk_iff.1 ⟨equity, hequity⟩).1
      | totalEquity => exact (ratio_isOk_iff.1 ⟨equity, hequity⟩).2.1
      | totalAssets => exact (ratio_isOk_iff.1 ⟨assets, hassets⟩).2.1
      | revenue => exact (ratio_isOk_iff.1 ⟨gross, hgross⟩).2.1
      | grossProfit => exact (ratio_isOk_iff.1 ⟨gross, hgross⟩).1
      | operatingProfit => exact (ratio_isOk_iff.1 ⟨operating, hoper⟩).1
      | netProfit => exact (ratio_isOk_iff.1 ⟨net, hnet⟩).1
      | accountsReceivable => exact (ratio_isOk_iff.1 ⟨recDays, hrec⟩).1
      | accountsPayable => exact (ratio_isOk_iff.1 ⟨payDays, hpay⟩).1
      | costOfGoodsSold => exact (ratio_isOk_iff.1 ⟨invDays, hinv⟩).2.1
      | ownWorkingCapital => exact hown
      | otherFundingSources => exact hother
    have hquick' := (quickRatio_isOk_iff (hheld _) (hheld _) (hheld _)).1 ⟨quick, hquick⟩
    have hcycle := (suiteCycle_isOk_iff hheld hrec hinv hpay).1 ⟨ccc, hccc, wcNeed, hneed, gap, hgap⟩
    refine ⟨hheld, ?_, hquick'.1, hquick'.2, hcycle.1, hcycle.2.1, hcycle.2.2⟩
    simp only [suiteRatios, List.mem_cons, List.not_mem_nil, or_false, forall_eq_or_imp, forall_eq]
    exact ⟨(suiteRatio_isOk_iff hheld).1 ⟨recDays, hrec⟩, (suiteRatio_isOk_iff hheld).1 ⟨invDays, hinv⟩,
      (suiteRatio_isOk_iff hheld).1 ⟨payDays, hpay⟩, (suiteRatio_isOk_iff hheld).1 ⟨current, hcur⟩,
      (suiteRatio_isOk_iff hheld).1 ⟨equity, hequity⟩, (suiteRatio_isOk_iff hheld).1 ⟨assets, hassets⟩,
      (suiteRatio_isOk_iff hheld).1 ⟨gross, hgross⟩, (suiteRatio_isOk_iff hheld).1 ⟨operating, hoper⟩,
      (suiteRatio_isOk_iff hheld).1 ⟨net, hnet⟩, (suiteRatio_isOk_iff hheld).1 ⟨roa, hroa⟩,
      (suiteRatio_isOk_iff hheld).1 ⟨roe, hroe⟩, (suiteRatio_isOk_iff hheld).1 ⟨turnover, hturnover⟩⟩
  · rintro ⟨hheld, hratios, hquickDifference, hquickRatio, hcycle, hneed, hgap⟩
    have hheld : ∀ input, Held (inputs input) := hheld
    have hratio : ∀ {calculator : String} (entry : SuiteInput × SuiteInput × Decimal),
        entry ∈ suiteRatios →
        ∃ result, ratio calculator (inputs entry.1) (inputs entry.2.1) entry.2.2 = .ok result :=
      fun entry hentry => (suiteRatio_isOk_iff hheld).2 (hratios entry hentry)
    obtain ⟨recDays, hrec⟩ : ∃ result, receivableDays (inputs .accountsReceivable) (inputs .revenue) =
      .ok result := hratio (.accountsReceivable, .revenue, daysPerYear) (by decide)
    obtain ⟨invDays, hinv⟩ : ∃ result, inventoryDays (inputs .inventory) (inputs .costOfGoodsSold) =
      .ok result := hratio (.inventory, .costOfGoodsSold, daysPerYear) (by decide)
    obtain ⟨payDays, hpay⟩ : ∃ result, payableDays (inputs .accountsPayable) (inputs .costOfGoodsSold) =
      .ok result := hratio (.accountsPayable, .costOfGoodsSold, daysPerYear) (by decide)
    obtain ⟨current, hcur⟩ : ∃ result, currentRatio (inputs .currentAssets)
      (inputs .currentLiabilities) = .ok result :=
        hratio (.currentAssets, .currentLiabilities, 1) (by decide)
    obtain ⟨equity, hequity⟩ : ∃ result, debtToEquity (inputs .totalDebt) (inputs .totalEquity) =
      .ok result := hratio (.totalDebt, .totalEquity, 1) (by decide)
    obtain ⟨assets, hassets⟩ : ∃ result, debtToAssets (inputs .totalDebt) (inputs .totalAssets) =
      .ok result := hratio (.totalDebt, .totalAssets, 1) (by decide)
    obtain ⟨gross, hgross⟩ : ∃ result, grossMargin (inputs .grossProfit) (inputs .revenue) = .ok result :=
      hratio (.grossProfit, .revenue, 1) (by decide)
    obtain ⟨operating, hoper⟩ : ∃ result, operatingMargin (inputs .operatingProfit)
      (inputs .revenue) = .ok result := hratio (.operatingProfit, .revenue, 1) (by decide)
    obtain ⟨net, hnet⟩ : ∃ result, netMargin (inputs .netProfit) (inputs .revenue) = .ok result :=
      hratio (.netProfit, .revenue, 1) (by decide)
    obtain ⟨roa, hroa⟩ : ∃ result, returnOnAssets (inputs .netProfit) (inputs .totalAssets) = .ok result :=
      hratio (.netProfit, .totalAssets, 1) (by decide)
    obtain ⟨roe, hroe⟩ : ∃ result, returnOnEquity (inputs .netProfit) (inputs .totalEquity) = .ok result :=
      hratio (.netProfit, .totalEquity, 1) (by decide)
    obtain ⟨turnover, hturnover⟩ : ∃ result, assetTurnover (inputs .revenue) (inputs .totalAssets) =
      .ok result := hratio (.revenue, .totalAssets, 1) (by decide)
    obtain ⟨quick, hquick⟩ := (quickRatio_isOk_iff (hheld .currentAssets) (hheld .inventory)
      (hheld .currentLiabilities)).2 ⟨hquickDifference, hquickRatio⟩
    obtain ⟨ccc, hccc, wcNeed, hneed, gap, hgap⟩ :=
      (suiteCycle_isOk_iff hheld hrec hinv hpay).2 ⟨hcycle, hneed, hgap⟩
    refine ⟨[current, quick, equity, assets, gross, operating, net, roa, roe, recDays, invDays, payDays,
      turnover, ccc, wcNeed, gap], ?_⟩
    unfold suiteResults
    simp only [hrec, hinv, hpay, hccc, hneed, hcur, hquick, hequity, hassets, hgross, hoper, hnet,
      hroa, hroe, hturnover, hgap, ok_bind]
    rfl

theorem suiteTrend_isOk_iff {metric : SuiteInput} {prior : CalculatorInput} :
    (∃ trend, suiteTrend inputs metric prior = .ok trend) ↔
      (∀ before ∈ prior.value, ∀ after ∈ (inputs metric).value, StepBounds before after) ∧
        Held prior ∧ Held (inputs metric) :=
  trendAnalysis_isOk_iff

/-- What the downside leaves of a metric can be rounded when the metric can. -/
theorem downside_bounds {value : Decimal} (h : |value.toRat| < quantLimit) :
    AdjustmentBounds value downsideAdjustment := by
  have hchange : downsideAdjustment.relativeChange.toRat = -(1 / 5) := by
    norm_num [downsideAdjustment, toRat]
  have hfactor : keptSum 1 downsideAdjustment.relativeChange = 4 / 5 := by
    have hexact : ((1 : Decimal).addExact downsideAdjustment.relativeChange) = ⟨80, -2⟩ := by decide
    rw [keptSum, hexact, defaultContext.rounded_of_fits (by decide) (by decide)]
    norm_num [toRat]
  have hlimit := quantLimit_le_valueLimit
  have hpos := one_lt_quantLimit
  have hscaled : |value.toRat * (4 / 5)| < quantLimit := by
    rw [abs_mul, abs_of_pos (by norm_num : (0 : ℚ) < 4 / 5)]
    linarith [abs_nonneg value.toRat]
  refine ⟨?_, ?_, ?_⟩
  · rw [hchange]
    norm_num
    linarith
  · rw [hfactor]
    exact hscaled.trans_le hlimit
  · have hzero : downsideAdjustment.absoluteChange.toRat = 0 := toRat_zero
    rw [hzero, add_zero, keptProduct]
    apply (defaultContext.abs_rounded_lt_limitAt_iff etiny_le_quantExponent).2
    rw [DecimalContext.toRat_mulExact]
    change |value.toRat * keptSum 1 downsideAdjustment.relativeChange| < quantLimit
    rw [hfactor]
    exact hscaled

/-- The scenario of the suite returns exactly when its metrics can be rounded. -/
theorem suiteScenario_isOk_iff :
    (∃ scenario, suiteScenario inputs = .ok scenario) ↔
      ∀ input ∈ scenarioInputs, ∀ x ∈ (inputs input).value, |x.toRat| < quantLimit := by
  have hsum : |downsideAdjustment.relativeChange.toRat + downsideAdjustment.absoluteChange.toRat| <
      valueLimit := by
    have hvalue : downsideAdjustment.relativeChange.toRat + downsideAdjustment.absoluteChange.toRat =
        -(1 / 5) := by
      have hzero : downsideAdjustment.absoluteChange.toRat = 0 := toRat_zero
      rw [hzero]
      norm_num [downsideAdjustment, toRat]
    rw [hvalue]
    norm_num
    linarith [quantLimit_le_valueLimit, one_lt_quantLimit]
  unfold suiteScenario
  rw [scenarioProjection_isOk_iff]
  simp only [scenarioInputs, List.mem_cons, List.not_mem_nil, or_false, forall_eq_or_imp, forall_eq]
  constructor
  · rintro ⟨⟨hrevenue, hnet, hoper⟩, -⟩
    exact ⟨fun x hx => (hrevenue x hx).1, fun x hx => (hnet x hx).1, fun x hx => (hoper x hx).1⟩
  · -- the only adjustment there is keeps every number of the size that can be rounded
    have hfound : ∀ {name : String} {adjustment : ScenarioAdjustment},
        adjustment ∈ [downsideAdjustment].reverse.find? (·.metric = name) →
          adjustment = downsideAdjustment :=
      fun h => List.mem_singleton.1 (List.mem_of_find?_eq_some h)
    rintro ⟨hrevenue, hnet, hoper⟩
    refine ⟨⟨fun x hx => ⟨hrevenue x hx, ?_⟩, fun x hx => ⟨hnet x hx, ?_⟩, fun x hx =>
      ⟨hoper x hx, ?_⟩⟩, hsum⟩
    · intro adjustment h
      rw [hfound h]
      exact downside_bounds (hrevenue x hx)
    · intro adjustment h
      rw [hfound h]
      exact downside_bounds (hnet x hx)
    · intro adjustment h
      rw [hfound h]
      exact downside_bounds (hoper x hx)

end Suite

end CreditOps.Underwriting
