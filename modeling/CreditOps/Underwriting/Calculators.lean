import CreditOps.Library.DecimalContext
import CreditOps.Underwriting.CalculatorResults

/-!
# The calculators of the suite

Each calculator reports what it computed from its inputs, or why it could not, under an id that is a hash of
the calculator's name and of the texts of its inputs. Numbers are those of the default decimal context, whose
operations raise beyond its exponents, and results are rounded half up to six places, which raises from
`10 ^ 22` on.
-/

set_option autoImplicit false

namespace CreditOps.Underwriting

open Repayments Decimal

/-! ## Numbers -/

/-- The default context of the `decimal` module. -/
def defaultContext : DecimalContext where
  precision := contextPrecision
  emin := -999999
  emax := 999999
  precision_pos := by decide
  emin_le := by decide
  precision_le := by decide

/-- The exponent of `_QUANT`, which is `Decimal("0.000001")`. -/
def quantExponent : Int := -6

/-- `_DAYS_PER_YEAR` -/
def daysPerYear : Decimal := 365

/-- `_quantize` -/
def quantize (value : Decimal) : Except DecimalSignal Decimal :=
  defaultContext.quantize .halfUp value quantExponent

/-- `_quantize(a * scale / b)` -/
def quantizedQuotient (a scale b : Decimal) : Except DecimalSignal Decimal := do
  let product ← defaultContext.mul a scale
  let quotient ← defaultContext.div product b
  quantize quotient

/-- The value of an outcome that was computed. -/
def outcomeValue : CalculatorOutcome → Option Decimal
  | .computed value => some value
  | .notComputable _ => none

/-! ## Result ids -/

/-- `_canonical` -/
def canonical : Option Decimal → Except DecimalSignal String
  | none => .ok "null"
  | some value => (defaultContext.normalize value).map formatPlain

/-- The sorted references of an input, as they enter the result id. -/
def refsText (refs : List FactRef) : String :=
  ",".intercalate ((refs.insertionSort fun a b =>
    a.kind.value < b.kind.value ∨ (a.kind.value = b.kind.value ∧ a.refId ≤ b.refId)).map (·.text))

/-- An input as it enters the result id. -/
def inputText (input : CalculatorInput) : Except DecimalSignal String := do
  let value ← canonical input.value
  return input.name ++ "=" ++ value ++ "[" ++ refsText input.factRefs ++ "]"

/-- The text that the result id is a hash of. -/
def resultText (calculator : String) (inputs : List CalculatorInput) : Except DecimalSignal String := do
  let parts ← (inputs.insertionSort fun a b => a.name ≤ b.name).mapM inputText
  return "|".intercalate (calculator :: parts)

/-- `_result_id` -/
def resultId (calculator : String) (inputs : List CalculatorInput) : Except DecimalSignal String := do
  let text ← resultText calculator inputs
  return "calc_" ++ String.ofList ((sha256Hex text).toList.take 32)

/-- `_build` -/
def build (calculator : String) (inputs : List CalculatorInput) (outcome : CalculatorOutcome) :
    Except DecimalSignal CalculatorResult := do
  let id ← resultId calculator inputs
  return ⟨id, calculator, inputs, outcome⟩

/-- The outcome of `_missing`, for inputs of which one is missing. -/
def missingOutcome (inputs : List CalculatorInput) : CalculatorOutcome :=
  .notComputable ((missing inputs).getD "")

/-! ## Ratios -/

/-- `_ratio` -/
def ratio (calculator : String) (numerator denominator : CalculatorInput) (scale : Decimal) :
    Except DecimalSignal CalculatorResult :=
  let inputs := [numerator, denominator]
  match numerator.value, denominator.value with
  | some dividend, some divisor =>
    if divisor.coefficient = 0 then
      build calculator inputs
        (.notComputable ("not computable: division by zero (" ++ denominator.name ++ " is zero)"))
    else do
      let value ← quantizedQuotient dividend scale divisor
      build calculator inputs (.computed value)
  | _, _ => build calculator inputs (missingOutcome inputs)

/-- `_difference_input` -/
def differenceInput (name : String) (hname : name ≠ "") (left right : CalculatorInput) :
    Except DecimalSignal CalculatorInput :=
  match left.value, right.value with
  | some a, some b => do
    let value ← defaultContext.sub a b
    return ⟨name, some value, left.factRefs ++ right.factRefs, hname⟩
  | _, _ => .ok ⟨name, none, left.factRefs ++ right.factRefs, hname⟩

/-- `current_ratio` -/
def currentRatio (currentAssets currentLiabilities : CalculatorInput) :
    Except DecimalSignal CalculatorResult :=
  ratio "current_ratio" currentAssets currentLiabilities 1

/-- `quick_ratio` -/
def quickRatio (currentAssets inventory currentLiabilities : CalculatorInput) :
    Except DecimalSignal CalculatorResult := do
  let numerator ← differenceInput "current_assets_less_inventory" (by decide) currentAssets inventory
  if currentAssets.value = none ∨ inventory.value = none then
    let inputs := [currentAssets, inventory, currentLiabilities]
    build "quick_ratio" inputs (missingOutcome inputs)
  else ratio "quick_ratio" numerator currentLiabilities 1

/-- `debt_to_equity` -/
def debtToEquity (totalDebt totalEquity : CalculatorInput) : Except DecimalSignal CalculatorResult :=
  ratio "debt_to_equity" totalDebt totalEquity 1

/-- `debt_to_assets` -/
def debtToAssets (totalDebt totalAssets : CalculatorInput) : Except DecimalSignal CalculatorResult :=
  ratio "debt_to_assets" totalDebt totalAssets 1

/-- `gross_margin` -/
def grossMargin (grossProfit revenue : CalculatorInput) : Except DecimalSignal CalculatorResult :=
  ratio "gross_margin" grossProfit revenue 1

/-- `operating_margin` -/
def operatingMargin (operatingProfit revenue : CalculatorInput) :
    Except DecimalSignal CalculatorResult :=
  ratio "operating_margin" operatingProfit revenue 1

/-- `net_margin` -/
def netMargin (netProfit revenue : CalculatorInput) : Except DecimalSignal CalculatorResult :=
  ratio "net_margin" netProfit revenue 1

/-- `return_on_assets` -/
def returnOnAssets (netProfit totalAssets : CalculatorInput) : Except DecimalSignal CalculatorResult :=
  ratio "return_on_assets" netProfit totalAssets 1

/-- `return_on_equity` -/
def returnOnEquity (netProfit totalEquity : CalculatorInput) : Except DecimalSignal CalculatorResult :=
  ratio "return_on_equity" netProfit totalEquity 1

/-- `receivable_days` -/
def receivableDays (accountsReceivable revenue : CalculatorInput) :
    Except DecimalSignal CalculatorResult :=
  ratio "receivable_days" accountsReceivable revenue daysPerYear

/-- `inventory_days` -/
def inventoryDays (inventory costOfGoodsSold : CalculatorInput) :
    Except DecimalSignal CalculatorResult :=
  ratio "inventory_days" inventory costOfGoodsSold daysPerYear

/-- `payable_days` -/
def payableDays (accountsPayable costOfGoodsSold : CalculatorInput) :
    Except DecimalSignal CalculatorResult :=
  ratio "payable_days" accountsPayable costOfGoodsSold daysPerYear

/-- `asset_turnover` -/
def assetTurnover (revenue totalAssets : CalculatorInput) : Except DecimalSignal CalculatorResult :=
  ratio "asset_turnover" revenue totalAssets 1

/-! ## Trends -/

/-- The growth rate of a step, from the difference of its two values. -/
def growthRate (period : String) (before difference : Decimal) :
    Except DecimalSignal CalculatorOutcome :=
  if before.coefficient = 0 then
    .ok (.notComputable ("not computable: division by zero (base period " ++ period ++ " is zero)"))
  else do
    let base ← defaultContext.abs before
    let rate ← defaultContext.div difference base
    let value ← quantize rate
    return .computed value

/-- One round of the loop of `trend_analysis`. -/
def trendStep (previous current : TrendPoint) : Except DecimalSignal TrendStep :=
  match previous.value, current.value with
  | some before, some after => do
    let difference ← defaultContext.sub after before
    let delta ← quantize difference
    let growth ← growthRate previous.period before difference
    return ⟨previous.period, current.period, .computed delta, growth⟩
  | _, _ =>
    let periods := ([previous, current].filter (·.value.isNone)).map (·.period)
    let reason := "not computable: missing value for period " ++ ", ".intercalate periods
    .ok ⟨previous.period, current.period, .notComputable reason, .notComputable reason⟩

/-- A point as an input of the result id. -/
def pointInput (metric : String) (point : TrendPoint) : CalculatorInput where
  name := metric ++ ":" ++ point.period
  value := point.value
  factRefs := point.factRefs
  nameNonempty := by
    intro h
    have hlen := congrArg String.length h
    rw [String.length_append, String.length_append] at hlen
    have hcolon : ":".length = 1 := rfl
    have hempty : "".length = 0 := rfl
    omega

/-- `trend_analysis` -/
def trendAnalysis (metric : String) (points : List TrendPoint) : Except DecimalSignal TrendResult := do
  let steps ← (points.zip points.tail).mapM fun (previous, current) => trendStep previous current
  let id ← resultId ("trend_analysis:" ++ metric) (points.map (pointInput metric))
  return ⟨id, metric, points, steps⟩

/-! ## Working capital -/

/-- The loop of `cash_conversion_cycle` over the values and their signs. -/
def signedTotal (parts : List (Decimal × Decimal)) : Except DecimalSignal Decimal :=
  parts.foldlM (fun total part => do
    let signed ← defaultContext.mul part.1 part.2
    defaultContext.add total signed) 0

/-- `cash_conversion_cycle` -/
def cashConversionCycle (receivableDaysResult inventoryDaysResult payableDaysResult : CalculatorResult) :
    Except DecimalSignal CalculatorResult :=
  let components := [receivableDaysResult, inventoryDaysResult, payableDaysResult]
  let inputs := components.flatMap (·.inputs)
  match outcomeValue receivableDaysResult.outcome, outcomeValue inventoryDaysResult.outcome,
    outcomeValue payableDaysResult.outcome with
  | some receivable, some inventory, some payable => do
    let total ← signedTotal [(receivable, ofInt 1), (inventory, ofInt 1), (payable, ofInt (-1))]
    let value ← quantize total
    build "cash_conversion_cycle" inputs (.computed value)
  | _, _, _ =>
    let notComputable := (components.filter fun result => (outcomeValue result.outcome).isNone).map
      (·.calculator)
    build "cash_conversion_cycle" inputs (.notComputable
      ("not computable: component not computable (" ++ ", ".intercalate notComputable ++ ")"))

/-- `working_capital_need` -/
def workingCapitalNeed (annualOperatingOutlay : CalculatorInput)
    (cashConversionCycleResult : CalculatorResult) : Except DecimalSignal CalculatorResult :=
  let inputs := annualOperatingOutlay :: cashConversionCycleResult.inputs
  match outcomeValue cashConversionCycleResult.outcome, annualOperatingOutlay.value with
  | none, _ =>
    build "working_capital_need" inputs
      (.notComputable "not computable: cash conversion cycle not computable")
  | some _, none =>
    build "working_capital_need" inputs
      (.notComputable ("not computable: missing input " ++ annualOperatingOutlay.name))
  | some days, some outlay => do
    let value ← quantizedQuotient outlay days daysPerYear
    build "working_capital_need" inputs (.computed value)

/-- `working_capital_gap` -/
def workingCapitalGap (workingCapitalNeedResult : CalculatorResult)
    (ownWorkingCapital otherFundingSources : CalculatorInput) : Except DecimalSignal CalculatorResult :=
  let inputs := workingCapitalNeedResult.inputs ++ [ownWorkingCapital, otherFundingSources]
  match outcomeValue workingCapitalNeedResult.outcome, ownWorkingCapital.value,
    otherFundingSources.value with
  | none, _, _ =>
    build "working_capital_gap" inputs
      (.notComputable "not computable: working capital need not computable")
  | some need, some own, some other => do
    let left ← defaultContext.sub need own
    let difference ← defaultContext.sub left other
    let value ← quantize difference
    build "working_capital_gap" inputs (.computed value)
  | some _, _, _ =>
    build "working_capital_gap" inputs (missingOutcome [ownWorkingCapital, otherFundingSources])

/-! ## Scenarios -/

/-- One round of the loop of `scenario_projection` over the base metrics; of two adjustments of a metric
the later one is in the dictionary. -/
def scenarioMetric (adjustments : List ScenarioAdjustment) (base : CalculatorInput) :
    Except DecimalSignal ScenarioMetricOutcome :=
  match base.value with
  | none =>
    let outcome := .notComputable ("not computable: missing input " ++ base.name)
    .ok ⟨base.name, outcome, outcome⟩
  | some value => do
    let rounded ← quantize value
    match adjustments.reverse.find? (·.metric = base.name) with
    | none => return ⟨base.name, .computed rounded, .computed rounded⟩
    | some adjustment =>
      let factor ← defaultContext.add 1 adjustment.relativeChange
      let scaled ← defaultContext.mul value factor
      let shifted ← defaultContext.add scaled adjustment.absoluteChange
      let adjusted ← quantize shifted
      return ⟨base.name, .computed rounded, .computed adjusted⟩

/-- An adjustment as an input of the result id. -/
def adjustmentInput (adjustment : ScenarioAdjustment) : Except DecimalSignal CalculatorInput := do
  let value ← defaultContext.add adjustment.relativeChange adjustment.absoluteChange
  return {
    name := "adjustment:" ++ adjustment.metric
    value := some value
    factRefs := []
    nameNonempty := by
      intro h
      have hlen := congrArg String.length h
      rw [String.length_append] at hlen
      have hlabel : "adjustment:".length = 11 := by decide
      have hempty : "".length = 0 := rfl
      omega }

/-- The outcome of an adjustment of a metric that is not there. -/
def unknownMetric (metric : String) : ScenarioMetricOutcome :=
  let outcome := .notComputable ("not computable: missing input " ++ metric)
  ⟨metric, outcome, outcome⟩

/-- `scenario_projection` -/
def scenarioProjection (scenarioName : String) (baseMetrics : List CalculatorInput)
    (adjustments : List ScenarioAdjustment) : Except DecimalSignal ScenarioResult := do
  let outcomes ← baseMetrics.mapM (scenarioMetric adjustments)
  let unknown := (adjustments.map (·.metric)).eraseDups.filter fun metric =>
    metric ∉ baseMetrics.map (·.name)
  let adjusted ← adjustments.mapM adjustmentInput
  let id ← resultId ("scenario_projection:" ++ scenarioName) (baseMetrics ++ adjusted)
  return ⟨id, scenarioName, adjustments, outcomes ++ unknown.map unknownMetric, baseMetrics⟩

end CreditOps.Underwriting
