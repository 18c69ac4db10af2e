import CreditOps.Domain.DecimalText
import CreditOps.Domain.UuidText
import CreditOps.Evidence.Views
import CreditOps.Underwriting.CalculatorBounds

/-!
# The calculator suite of an evidence view

The suite looks up a confirmed fact for each of its inputs, reads the fact's value as a decimal, and runs every
calculator on what it found. An input without a fact, or with one whose value is not a number, is reported
missing; a special value is rejected by the input model, which raises.

The inputs a suite was computed from stand in its results (`inputs_of_suite`), and the first fact of each key is
what they are read from, so a suite is that of every order of the facts exactly when the facts of each key read
alike (`suite_anyOrder_iff`).
-/

set_option autoImplicit false

namespace CreditOps.Underwriting

open Repayments Decimal Results Evidence

/-! ## The inputs of the suite -/

/-- The calculator inputs that `CANONICAL_FIELD_KEYS` names. -/
inductive SuiteInput where
  | currentAssets
  | currentLiabilities
  | inventory
  | totalDebt
  | totalEquity
  | totalAssets
  | revenue
  | grossProfit
  | operatingProfit
  | netProfit
  | accountsReceivable
  | accountsPayable
  | costOfGoodsSold
  | ownWorkingCapital
  | otherFundingSources
deriving DecidableEq

/-- The keys of `CANONICAL_FIELD_KEYS`, in their order. -/
def SuiteInput.all : List SuiteInput :=
  [.currentAssets, .currentLiabilities, .inventory, .totalDebt, .totalEquity, .totalAssets, .revenue,
    .grossProfit, .operatingProfit, .netProfit, .accountsReceivable, .accountsPayable, .costOfGoodsSold,
    .ownWorkingCapital, .otherFundingSources]

def SuiteInput.name : SuiteInput → String
  | .currentAssets => "current_assets"
  | .currentLiabilities => "current_liabilities"
  | .inventory => "inventory"
  | .totalDebt => "total_debt"
  | .totalEquity => "total_equity"
  | .totalAssets => "total_assets"
  | .revenue => "revenue"
  | .grossProfit => "gross_profit"
  | .operatingProfit => "operating_profit"
  | .netProfit => "net_profit"
  | .accountsReceivable => "accounts_receivable"
  | .accountsPayable => "accounts_payable"
  | .costOfGoodsSold => "cost_of_goods_sold"
  | .ownWorkingCapital => "own_working_capital"
  | .otherFundingSources => "other_funding_sources"

/-- The values of `CANONICAL_FIELD_KEYS`. -/
def SuiteInput.fieldKey (input : SuiteInput) : String :=
  "financials." ++ input.name

/-- The values of `PRIOR_PERIOD_FIELD_KEYS`. -/
def priorRevenueKey : String := "financials.prior.revenue"

def priorNetProfitKey : String := "financials.prior.net_profit"

/-- The keys a suite looks up. -/
def usedKeys : List String :=
  SuiteInput.all.map SuiteInput.fieldKey ++ [priorRevenueKey, priorNetProfitKey]

/-- `DOWNSIDE_SCENARIO_NAME` -/
def downsideScenarioName : String := "doanh_thu_giam_20pct"

/-- The adjustment of the downside scenario. -/
def downsideAdjustment : ScenarioAdjustment where
  metric := "revenue"
  relativeChange := ⟨-20, -2⟩
  absoluteChange := 0
  metricNonempty := by decide

/-- What building a suite raises. -/
inductive SuiteFault where
  /-- `pydantic.ValidationError`, for a value that is not finite -/
  | validation
  /-- a signal of the decimal context -/
  | decimal (signal : DecimalSignal)
deriving DecidableEq

/-! ## Reading the facts -/

section Suite

variable (numberText : Decimal → String)

/-- `_decimal_of`; `numberText` is `str` of an `int` or a `float`. -/
def factDecimal (fact : EvidenceFact) : ParsedDecimal :=
  match fact.value with
  | .boolean _ => .invalid
  | .string text => decimalOf text
  | .number value => decimalOf (numberText value)

/-- The reference to a confirmed fact. -/
def factRef (fact : EvidenceFact) : FactRef where
  kind := .confirmedFact
  refId := uuidText fact.confirmedFactId
  refIdNonempty := by
    intro h
    have hmem : '-' ∈ (uuidText fact.confirmedFactId).toList := by
      rw [uuidText, String.toList_ofList]
      simp
    rw [h] at hmem
    cases hmem

/-- `_input_for`, for the fact that was found. -/
def factInput (name fieldKey : String) (hname : name ≠ "") (fact : Option EvidenceFact) :
    Except SuiteFault (CalculatorInput × Option MissingEvidence) :=
  match fact with
  | none => .ok (⟨name, none, [], hname⟩, some ⟨name, fieldKey, "no confirmed fact", .blocking⟩)
  | some fact =>
    match factDecimal numberText fact with
    | .invalid =>
      .ok (⟨name, none, [factRef fact], hname⟩,
        some ⟨name, fieldKey, "confirmed fact value is not numeric", .blocking⟩)
    | .special => .error .validation
    | .finite value => .ok (⟨name, some value, [factRef fact], hname⟩, none)

/-- `_input_for`: the first fact of the key is taken. -/
def inputFor (view : EvidenceView) (name fieldKey : String) (hname : name ≠ "") :
    Except SuiteFault (CalculatorInput × Option MissingEvidence) :=
  factInput numberText name fieldKey hname (view.confirmedFacts.find? (·.fieldKey = fieldKey))

theorem SuiteInput.name_ne_empty (input : SuiteInput) : input.name ≠ "" := by
  cases input <;> decide

theorem SuiteInput.mem_all (input : SuiteInput) : input ∈ SuiteInput.all := by
  cases input <;> decide

/-- The inputs of the suite with the records of what is missing. -/
def collectInputs (view : EvidenceView) :
    Except SuiteFault (SuiteInput → CalculatorInput × Option MissingEvidence) :=
  tabulate (fun input => inputFor numberText view input.name input.fieldKey input.name_ne_empty)
    (fun input => (⟨input.name, none, [], input.name_ne_empty⟩, none)) SuiteInput.all

/-! ## The calculators of the suite -/

/-- `CalculatorInput(name="annual_operating_outlay", ...)` -/
def annualOperatingOutlay (costOfGoodsSold : CalculatorInput) : CalculatorInput where
  name := "annual_operating_outlay"
  value := costOfGoodsSold.value
  factRefs := costOfGoodsSold.factRefs
  nameNonempty := by decide

/-- The results of the suite. -/
def suiteResults (inputs : SuiteInput → CalculatorInput) :
    Except DecimalSignal (List CalculatorResult) := do
  let recDays ← receivableDays (inputs .accountsReceivable) (inputs .revenue)
  let invDays ← inventoryDays (inputs .inventory) (inputs .costOfGoodsSold)
  let payDays ← payableDays (inputs .accountsPayable) (inputs .costOfGoodsSold)
  let ccc ← cashConversionCycle recDays invDays payDays
  let wcNeed ← workingCapitalNeed (annualOperatingOutlay (inputs .costOfGoodsSold)) ccc
  let current ← currentRatio (inputs .currentAssets) (inputs .currentLiabilities)
  let quick ← quickRatio (inputs .currentAssets) (inputs .inventory) (inputs .currentLiabilities)
  let equity ← debtToEquity (inputs .totalDebt) (inputs .totalEquity)
  let assets ← debtToAssets (inputs .totalDebt) (inputs .totalAssets)
  let gross ← grossMargin (inputs .grossProfit) (inputs .revenue)
  let operating ← operatingMargin (inputs .operatingProfit) (inputs .revenue)
  let net ← netMargin (inputs .netProfit) (inputs .revenue)
  let roa ← returnOnAssets (inputs .netProfit) (inputs .totalAssets)
  let roe ← returnOnEquity (inputs .netProfit) (inputs .totalEquity)
  let turnover ← assetTurnover (inputs .revenue) (inputs .totalAssets)
  let gap ← workingCapitalGap wcNeed (inputs .ownWorkingCapital) (inputs .otherFundingSources)
  return [current, quick, equity, assets, gross, operating, net, roa, roe, recDays, invDays, payDays,
    turnover, ccc, wcNeed, gap]

/-- The point of a period. -/
def periodPoint (period : String) (hper : period ≠ "") (input : CalculatorInput) : TrendPoint :=
  ⟨period, input.value, input.factRefs, hper⟩

/-- One round of the loop over `PRIOR_PERIOD_FIELD_KEYS`, on the prior input it looked up. -/
def suiteTrend (inputs : SuiteInput → CalculatorInput) (metric : SuiteInput) (prior : CalculatorInput) :
    Except DecimalSignal TrendResult :=
  trendAnalysis metric.name [periodPoint "ky_truoc" (by decide) prior,
    periodPoint "ky_hien_tai" (by decide) (inputs metric)]

/-- A missing prior period does not block. -/
def clarification (absent : MissingEvidence) : MissingEvidence :=
  { absent with blockingLevel := .clarification }

/-- The scenario of the suite. -/
def suiteScenario (inputs : SuiteInput → CalculatorInput) : Except DecimalSignal ScenarioResult :=
  scenarioProjection downsideScenarioName
    [inputs .revenue, inputs .netProfit, inputs .operatingProfit] [downsideAdjustment]

/-- `build_calculator_suite` -/
def buildCalculatorSuite (view : EvidenceView) : Except SuiteFault CalculatorSuite := do
  let built ← collectInputs numberText view
  let inputs := fun input => (built input).1
  let results ← (suiteResults inputs).mapError .decimal
  let (priorRevenue, noPriorRevenue) ←
    inputFor numberText view "prior_revenue" priorRevenueKey (by decide)
  let revenueTrend ← (suiteTrend inputs .revenue priorRevenue).mapError .decimal
  let (priorNetProfit, noPriorNetProfit) ←
    inputFor numberText view "prior_net_profit" priorNetProfitKey (by decide)
  let netProfitTrend ← (suiteTrend inputs .netProfit priorNetProfit).mapError .decimal
  let scenario ← (suiteScenario inputs).mapError .decimal
  return {
    results := results
    trendResults := [revenueTrend, netProfitTrend]
    scenarioResults := [scenario]
    missing := SuiteInput.all.filterMap (fun input => (built input).2) ++
      ([noPriorRevenue, noPriorNetProfit].filterMap id).map clarification }

end Suite

end CreditOps.Underwriting
