import CreditOps.Domain.Orchestration
import CreditOps.Repayments.Schedule

/-!
# What the calculators return

Every result carries the inputs it was computed from beside its outcome, and an id derived from them.
-/

set_option autoImplicit false

namespace CreditOps.Underwriting

open Repayments

/-- `CalculatorResult` -/
structure CalculatorResult where
  resultId : String
  calculator : String
  inputs : List CalculatorInput
  outcome : CalculatorOutcome
deriving DecidableEq

/-- `TrendPoint`: the value of a series in one period. -/
structure TrendPoint where
  period : String
  value : Option Decimal
  factRefs : List FactRef
  periodNonempty : period ≠ ""

instance : DecidableEq TrendPoint := fun a b =>
  decidable_of_iff (a.period = b.period ∧ a.value = b.value ∧ a.factRefs = b.factRefs) <| by
    cases a
    cases b
    simp only [TrendPoint.mk.injEq]

/-- `TrendStep`: the change between two adjacent points. -/
structure TrendStep where
  fromPeriod : String
  toPeriod : String
  delta : CalculatorOutcome
  growthRate : CalculatorOutcome
deriving DecidableEq

/-- `TrendResult` -/
structure TrendResult where
  resultId : String
  metric : String
  points : List TrendPoint
  steps : List TrendStep
deriving DecidableEq

/-- `ScenarioAdjustment` -/
structure ScenarioAdjustment where
  metric : String
  relativeChange : Decimal
  absoluteChange : Decimal
  metricNonempty : metric ≠ ""

instance : DecidableEq ScenarioAdjustment := fun a b =>
  decidable_of_iff (a.metric = b.metric ∧ a.relativeChange = b.relativeChange ∧
      a.absoluteChange = b.absoluteChange) <| by
    cases a
    cases b
    simp only [ScenarioAdjustment.mk.injEq]

/-- `ScenarioMetricOutcome` -/
structure ScenarioMetricOutcome where
  metric : String
  base : CalculatorOutcome
  adjusted : CalculatorOutcome
deriving DecidableEq

/-- `ScenarioResult` -/
structure ScenarioResult where
  resultId : String
  scenarioName : String
  adjustments : List ScenarioAdjustment
  metrics : List ScenarioMetricOutcome
  inputs : List CalculatorInput
deriving DecidableEq

/-- `MissingEvidence`: an input the evidence view could not supply. -/
structure MissingEvidence where
  inputName : String
  fieldKey : String
  reason : String
  blockingLevel : GapBlockingLevel
deriving DecidableEq

/-- `CalculatorSuite` -/
structure CalculatorSuite where
  results : List CalculatorResult
  trendResults : List TrendResult
  scenarioResults : List ScenarioResult
  missing : List MissingEvidence
deriving DecidableEq

/-- `CalculatorSuite.result_ids` -/
def CalculatorSuite.resultIds (suite : CalculatorSuite) : List String :=
  suite.results.map (·.resultId) ++ suite.trendResults.map (·.resultId) ++
    suite.scenarioResults.map (·.resultId)

end CreditOps.Underwriting
