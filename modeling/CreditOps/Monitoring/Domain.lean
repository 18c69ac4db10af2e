import CreditOps.Domain.Api
import CreditOps.Domain.Calendar
import CreditOps.Domain.Text
import CreditOps.Library.Decimal

/-!
# Covenants, observations and early-warning alerts

The rules of post-credit monitoring. A covenant passes a test exactly by its declared comparison, an
observation is late when the day it was made on is after the due date of its obligation, and nothing else
raises an alert. An alert starts open and moves along the edges of `allowedAlertTransitions`, which the
trigger of its table repeats (`enforce_eq_ok_iff`).
-/

set_option autoImplicit false

namespace CreditOps.Monitoring

/-! ## Points in time -/

namespace Calendar

/-- The days of a year before a month. -/
def daysBeforeMonth (year month : Nat) : Nat :=
  ((List.range (month - 1)).map fun m => daysInMonth year (m + 1)).sum

/-- `date.toordinal()` -/
def toordinal (date : Date) : Nat :=
  let before := date.year - 1
  before * 365 + before / 4 - before / 100 + before / 400 + daysBeforeMonth date.year date.month +
    date.day

end Calendar

/-- `datetime.datetime`: the day and the microsecond of the day as written, with the offset from UTC in
microseconds if there is one. -/
structure Datetime where
  date : Date
  timeOfDay : Nat
  utcoffset : Option Int
  inDay : timeOfDay < 86400000000
deriving DecidableEq

namespace Datetime

/-- The microseconds up to the point in time, at its offset. -/
def instant (t : Datetime) : Int :=
  Calendar.toordinal t.date * 86400000000 + t.timeOfDay - t.utcoffset.getD 0

/-- `a > b`; none where it raises `TypeError`, since one has an offset and the other has not. -/
def isAfter (a b : Datetime) : Option Bool :=
  if a.utcoffset.isSome = b.utcoffset.isSome then some (b.instant < a.instant) else none

end Datetime

/-! ## Covenants -/

/-- `ComparisonOperator` -/
inductive ComparisonOperator where
  | gte
  | gt
  | lte
  | lt
  | eq
deriving DecidableEq

/-- The stored text of an operator. -/
def ComparisonOperator.value : ComparisonOperator → String
  | .gte => "GTE"
  | .gt => "GT"
  | .lte => "LTE"
  | .lt => "LT"
  | .eq => "EQ"

/-- `CovenantThreshold` -/
structure CovenantThreshold where
  metricKey : String
  operator : ComparisonOperator
  thresholdValue : Decimal
  thresholdVersion : Nat
  metricKeyFits : 1 ≤ metricKey.length ∧ metricKey.length ≤ 200
  versionPositive : 1 ≤ thresholdVersion

instance : DecidableEq CovenantThreshold := fun a b =>
  decidable_of_iff (a.metricKey = b.metricKey ∧ a.operator = b.operator ∧
      a.thresholdValue = b.thresholdValue ∧ a.thresholdVersion = b.thresholdVersion) <| by
    cases a
    cases b
    simp only [CovenantThreshold.mk.injEq]

/-- `CovenantEvaluation` -/
structure CovenantEvaluation where
  metricKey : String
  operator : ComparisonOperator
  numerator : Decimal
  denominator : Decimal
  thresholdValue : Decimal
  thresholdVersion : Nat
  comparisonLhs : Decimal
  comparisonRhs : Decimal
  passed : Bool
deriving DecidableEq

/-- `_compare` -/
def compare (lhs : Decimal) (operator : ComparisonOperator) (rhs : Decimal) : Bool :=
  match operator with
  | .gte => rhs ≤ lhs
  | .gt => rhs < lhs
  | .lte => lhs ≤ rhs
  | .lt => lhs < rhs
  | .eq => lhs ≤ rhs ∧ rhs ≤ lhs

/-- The digits of the default decimal context. -/
def contextPrecision : Nat := 28

/-- `evaluate_covenant`; none where it raises `ValueError`. -/
def evaluateCovenant (numerator denominator : Decimal) (threshold : CovenantThreshold) :
    Option CovenantEvaluation :=
  if denominator ≤ 0 then none
  else
    let comparisonRhs := threshold.thresholdValue.mul contextPrecision denominator
    some
      { metricKey := threshold.metricKey
        operator := threshold.operator
        numerator
        denominator
        thresholdValue := threshold.thresholdValue
        thresholdVersion := threshold.thresholdVersion
        comparisonLhs := numerator
        comparisonRhs
        passed := compare numerator threshold.operator comparisonRhs }

/-- A row of `covenants`. -/
structure Covenant where
  id : Uuid
  caseVersion : CaseVersion
  threshold : CovenantThreshold
deriving DecidableEq

/-- A row of `covenant_tests`. -/
structure CovenantTest where
  id : Uuid
  covenantId : Uuid
  caseVersion : CaseVersion
  evaluation : CovenantEvaluation
deriving DecidableEq

/-! ## Obligations and observations -/

/-- A row of `monitoring_obligations`. -/
structure MonitoringObligation where
  id : Uuid
  caseVersion : CaseVersion
  dueDate : Date
deriving DecidableEq

/-- `MonitoringObservation` -/
structure MonitoringObservation where
  id : Uuid
  caseVersion : CaseVersion
  obligationId : Option Uuid
  effectiveAt : Datetime
  observedAt : Datetime
  temporalOrder : effectiveAt.isAfter observedAt = some false
deriving DecidableEq

/-! ## Alerts -/

/-- `AlertRule` -/
inductive AlertRule where
  | covenantBreach
  | overdueObligation
deriving DecidableEq

/-- `AlertStatus` -/
inductive AlertStatus where
  | opened
  | acknowledged
  | escalated
  | dismissedByHuman
deriving DecidableEq

/-- The stored text of a status. -/
def AlertStatus.value : AlertStatus → String
  | .opened => "OPEN"
  | .acknowledged => "ACKNOWLEDGED"
  | .escalated => "ESCALATED"
  | .dismissedByHuman => "DISMISSED_BY_HUMAN"

/-- `ALLOWED_ALERT_TRANSITIONS` -/
def allowedAlertTransitions : AlertStatus → List AlertStatus
  | .opened => [.acknowledged, .escalated, .dismissedByHuman]
  | .acknowledged => [.escalated, .dismissedByHuman]
  | .escalated => [.dismissedByHuman]
  | .dismissedByHuman => []

/-- `is_alert_transition_allowed` -/
def isAlertTransitionAllowed (fromStatus toStatus : AlertStatus) : Bool :=
  toStatus ∈ allowedAlertTransitions fromStatus

/-- The edges of the lifecycle. -/
def Allowed (fromStatus toStatus : AlertStatus) : Prop :=
  isAlertTransitionAllowed fromStatus toStatus = true

instance : DecidableRel Allowed :=
  fun a b => inferInstanceAs (Decidable (isAlertTransitionAllowed a b = true))

/-- The rule of an alert with its sources, as the check of the table ties them together: a breach binds the
failed test, an overdue obligation binds the obligation and the late observation. -/
inductive AlertSource where
  | failedTest (covenantTestId : Uuid)
  | lateObservation (obligationId observationId : Uuid)
deriving DecidableEq

/-- The rule that has raised an alert. -/
def AlertSource.rule : AlertSource → AlertRule
  | .failedTest _ => .covenantBreach
  | .lateObservation _ _ => .overdueObligation

/-- `source_obligation_id` -/
def AlertSource.obligationId : AlertSource → Option Uuid
  | .failedTest _ => none
  | .lateObservation obligationId _ => some obligationId

/-- `source_covenant_test_id` -/
def AlertSource.covenantTestId : AlertSource → Option Uuid
  | .failedTest covenantTestId => some covenantTestId
  | .lateObservation _ _ => none

/-- `EarlyWarningAlert`. A new alert is open; the status is the one column that changes, so it is kept
apart. -/
structure EarlyWarningAlert where
  id : Uuid
  caseVersion : CaseVersion
  source : AlertSource
  detailVi : String
  detailFits : FitsText detailVi
deriving DecidableEq

/-- One row of `alert_dispositions`. -/
structure AlertDisposition where
  id : Uuid
  alertId : Uuid
  fromStatus : AlertStatus
  toStatus : AlertStatus
deriving DecidableEq

/-- `array[…]` of the trigger, by the old status. -/
def triggerTransitions : AlertStatus → List AlertStatus
  | .opened => [.acknowledged, .escalated, .dismissedByHuman]
  | .acknowledged => [.escalated, .dismissedByHuman]
  | .escalated => [.dismissedByHuman]
  | .dismissedByHuman => []

/-- `enforce_early_warning_alert_transition` on an update of the status alone. -/
def enforceEarlyWarningAlertTransition (old new : AlertStatus) : Except SqlError Unit :=
  if new ∈ triggerTransitions old then .ok ()
  else
    .error (.checkViolation ("forbidden early warning alert transition " ++ old.value ++ " -> " ++
      new.value))

/-- `covenant_breach_detected` -/
def covenantBreachDetected (evaluation : CovenantEvaluation) : Bool :=
  !evaluation.passed

/-- `obligation_overdue` -/
def obligationOverdue (dueDate : Date) (observedAt : Datetime) : Bool :=
  ¬ observedAt.date ≤ dueDate

/-- `build_breach_detail` -/
def buildBreachDetail (evaluation : CovenantEvaluation) : String :=
  "Vi phạm cam kết " ++ evaluation.metricKey ++ ": " ++ evaluation.numerator.toText ++ "/" ++
    evaluation.denominator.toText ++ " không thỏa điều kiện " ++ evaluation.operator.value ++ " " ++
    evaluation.thresholdValue.toText ++ " (phiên bản ngưỡng " ++ toString evaluation.thresholdVersion ++
    ")."

/-- `build_overdue_detail` -/
def buildOverdueDetail (dueDate : Date) (observedAt : Datetime) : String :=
  "Nghĩa vụ giám sát quá hạn: quan sát ngày " ++ observedAt.date.isoformat ++ " sau hạn báo cáo " ++
    dueDate.isoformat ++ "."

end CreditOps.Monitoring
