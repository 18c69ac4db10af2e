import CreditOps.Library.KeyedInserts
import CreditOps.Library.PartialMap
import CreditOps.Library.AppendLog
import CreditOps.Library.Transition
import CreditOps.Monitoring.Domain

/-!
# Recording and disposing

The requests of post-credit monitoring, statement by statement and in any interleaving. An observation and a
covenant test are each recorded in one transaction with the alert their rule raises, which is inserted
unless one with the same source is there already; a disposition locks its alert, checks the move again,
moves the alert and records the move. A transaction can be rolled back at any point before its commit.
-/

set_option autoImplicit false

namespace CreditOps.Monitoring

open Transition PartialMap KeyedInserts

/-! ## Tables -/

/-- The unique keys of the tables, and the lock on the row of an alert. -/
inductive Key where
  | observation (id : Uuid)
  | covenantTest (id : Uuid)
  | alert (id : Uuid)
  | disposition (id : Uuid)
  | breach (covenantTestId : Uuid)
  | overdue (obligationId : Uuid)
  | alertRow (id : Uuid)
deriving DecidableEq

/-- The row of one of the tables that the requests append to. -/
inductive Row where
  | observation (observation : MonitoringObservation)
  | covenantTest (test : CovenantTest)
  | alert (alert : EarlyWarningAlert)
  | disposition (disposition : AlertDisposition)
deriving DecidableEq

/-- The key of the partial unique index of a rule. -/
def AlertSource.key : AlertSource → Key
  | .failedTest covenantTestId => .breach covenantTestId
  | .lateObservation obligationId _ => .overdue obligationId

/-- The unique keys a row falls under. -/
def Row.keys : Row → List Key
  | .observation o => [.observation o.id]
  | .covenantTest test => [.covenantTest test.id]
  | .alert a => [.alert a.id, a.source.key]
  | .disposition d => [.disposition d.id]

def Row.observation? : Row → Option MonitoringObservation
  | .observation o => some o
  | _ => none

def Row.covenantTest? : Row → Option CovenantTest
  | .covenantTest test => some test
  | _ => none

def Row.alert? : Row → Option EarlyWarningAlert
  | .alert a => some a
  | _ => none

/-- The move a row records for an alert. -/
def Row.move? (alertId : Uuid) : Row → Option (AlertStatus × AlertStatus)
  | .disposition d => if d.alertId = alertId then some (d.fromStatus, d.toStatus) else none
  | _ => none

/-- The moves of an alert, newest first. -/
def moves (rows : List Row) (alertId : Uuid) : List (AlertStatus × AlertStatus) :=
  rows.filterMap (Row.move? alertId)

/-! ## Requests -/

/-- How far a recording transaction has come. -/
inductive RecordingPhase where
  | loaded
  | recorded
  | raised
deriving DecidableEq

/-- An observation or a covenant test that is being recorded, with the alert its rule raises. -/
structure Recording where
  row : Row
  alert : Option EarlyWarningAlert
  phase : RecordingPhase

/-- How far a disposing transaction has come, with the status it has read under the lock. -/
inductive DisposingPhase where
  | loaded
  | locked (current : AlertStatus)
  | moved (current : AlertStatus)
deriving DecidableEq

/-- An alert that is being disposed of. -/
structure Disposing where
  dispositionId : Uuid
  alertId : Uuid
  caseVersion : CaseVersion
  toStatus : AlertStatus
  phase : DisposingPhase

/-- One request in flight. -/
inductive Run where
  | recording (recording : Recording)
  | disposing (disposing : Disposing)

/-- The obligations and covenants, the rows with the open transactions, the status of every alert, and the
requests in flight. -/
structure World where
  obligations : List MonitoringObligation
  covenants : List Covenant
  session : Session Key Uuid Row
  status : Uuid → AlertStatus
  runs : Uuid → Option Run

/-- The body of an observation request, with the case version the request has read. -/
structure ObservationRequest where
  caseVersion : CaseVersion
  obligationId : Option Uuid
  effectiveAt : Datetime
  observedAt : Datetime

/-- The body of a covenant-test request. -/
structure CovenantTestRequest where
  caseVersion : CaseVersion
  covenantId : Uuid
  numerator : Decimal
  denominator : Decimal

/-- The body of a disposition request. -/
structure DispositionRequest where
  caseVersion : CaseVersion
  alertId : Uuid
  toStatus : String

/-- One step of an interleaving. -/
inductive Action where
  | createObligations (obligations : List MonitoringObligation)
  | createCovenant (covenant : Covenant)
  | openObservation (requestId observationId alertId : Uuid) (body : ObservationRequest)
  | openCovenantTest (requestId testId alertId : Uuid) (body : CovenantTestRequest)
  | openDisposition (requestId dispositionId : Uuid) (body : DispositionRequest)
  | insertRow (requestId : Uuid)
  | raiseAlert (requestId : Uuid)
  | lockAlert (requestId : Uuid)
  | moveAlert (requestId : Uuid)
  | commit (requestId : Uuid)
  | rollback (requestId : Uuid)

/-! ## Checks -/

/-- `unexpected_exception_handler` -/
def internalError : ApiException :=
  ⟨500, "INTERNAL_ERROR", "Hệ thống không thể xử lý yêu cầu."⟩

/-- A new alert; an internal error when its text is out of bounds. -/
def newAlert (id : Uuid) (caseVersion : CaseVersion) (source : AlertSource) (detailVi : String) :
    Except ApiException EarlyWarningAlert :=
  if h : FitsText detailVi then .ok ⟨id, caseVersion, source, detailVi, h⟩ else .error internalError

/-- `MonitoringObservation(…)` in `record_observation`. -/
def newObservation (id : Uuid) (body : ObservationRequest) : Except ApiException MonitoringObservation :=
  match h : body.effectiveAt.isAfter body.observedAt with
  | some false => .ok ⟨id, body.caseVersion, body.obligationId, body.effectiveAt, body.observedAt, h⟩
  | some true =>
    .error ⟨422, "INVALID_OBSERVATION", "Quan sát không hợp lệ (effectiveAt phải <= observedAt)."⟩
  | none => .error internalError

/-- The checks of `record_observation`, up to its transaction. -/
def checkObservation (obligations : List MonitoringObligation) (observationId alertId : Uuid)
    (body : ObservationRequest) : Except ApiException Recording := do
  let observation ← newObservation observationId body
  match body.obligationId with
  | none => return ⟨.observation observation, none, .loaded⟩
  | some obligationId =>
    -- `load_obligation`
    match obligations.find? fun obligation =>
        obligation.id = obligationId ∧ obligation.caseVersion = body.caseVersion with
    | none =>
      throw ⟨404, "OBLIGATION_NOT_FOUND", "Không tìm thấy nghĩa vụ giám sát trong hồ sơ này."⟩
    | some obligation =>
      if obligationOverdue obligation.dueDate observation.observedAt then
        let alert ← newAlert alertId body.caseVersion (.lateObservation obligation.id observation.id)
          (buildOverdueDetail obligation.dueDate observation.observedAt)
        return ⟨.observation observation, some alert, .loaded⟩
      else return ⟨.observation observation, none, .loaded⟩

/-- The checks of `run_covenant_test`, up to its transaction. -/
def checkCovenantTest (covenants : List Covenant) (testId alertId : Uuid) (body : CovenantTestRequest) :
    Except ApiException Recording :=
  -- `load_covenant`
  match covenants.find? fun covenant =>
      covenant.id = body.covenantId ∧ covenant.caseVersion = body.caseVersion with
  | none => throw ⟨404, "COVENANT_NOT_FOUND", "Không tìm thấy cam kết trong hồ sơ này."⟩
  | some covenant =>
    match evaluateCovenant body.numerator body.denominator covenant.threshold with
    | none => throw ⟨422, "INVALID_COVENANT_TEST", "Đầu vào kiểm tra cam kết không hợp lệ."⟩
    | some evaluation =>
      let row := .covenantTest ⟨testId, covenant.id, body.caseVersion, evaluation⟩
      if covenantBreachDetected evaluation then do
        let alert ← newAlert alertId body.caseVersion (.failedTest testId) (buildBreachDetail evaluation)
        return ⟨row, some alert, .loaded⟩
      else return ⟨row, none, .loaded⟩

/-- The committed alert that a query by id and case version finds. -/
def loadAlert (rows : List Row) (alertId : Uuid) (caseVersion : CaseVersion) : Option EarlyWarningAlert :=
  (rows.filterMap Row.alert?).find? fun alert => alert.id = alertId ∧ alert.caseVersion = caseVersion

/-- The status a text names. -/
def alertStatus? (text : String) : Option AlertStatus :=
  [.opened, .acknowledged, .escalated, .dismissedByHuman].find? fun status => status.value = text

/-- The refusal of a move. -/
def forbiddenTransition : ApiException :=
  ⟨422, "FORBIDDEN_ALERT_TRANSITION", "Chuyển trạng thái cảnh báo không được phép."⟩

/-- The checks of `dispose_alert`, up to its transaction. -/
def checkDisposition (rows : List Row) (status : Uuid → AlertStatus) (dispositionId : Uuid)
    (body : DispositionRequest) : Except ApiException Disposing :=
  match alertStatus? body.toStatus with
  | none => throw ⟨422, "INVALID_ALERT_STATUS", "Trạng thái cảnh báo không hợp lệ."⟩
  | some toStatus =>
    match loadAlert rows body.alertId body.caseVersion with
    | none => throw ⟨404, "ALERT_NOT_FOUND", "Không tìm thấy cảnh báo trong hồ sơ này."⟩
    | some alert =>
      if isAlertTransitionAllowed (status alert.id) toStatus then
        return ⟨dispositionId, body.alertId, body.caseVersion, toStatus, .loaded⟩
      else throw forbiddenTransition

/-! ## Statements -/

namespace World

/-- The request goes on as `run`. -/
def setRun (w : World) (requestId : Uuid) (run : Run) : World :=
  { w with runs := Function.update w.runs requestId (some run) }

/-- The transaction of the request is rolled back, and the request ends. -/
def fail (w : World) (requestId : Uuid) : World :=
  { w with
    session := w.session.rollback requestId
    runs := Function.update w.runs requestId none }

/-- A request that has passed its checks. -/
def openRun (w : World) (requestId : Uuid) (run : Run) : Option World :=
  match w.runs requestId with
  | none => some (w.setRun requestId run)
  | some _ => none

/-- The insert of the observation or of the covenant test. -/
def insertRow (w : World) (requestId : Uuid) (recording : Recording) : Option World :=
  match w.session.insert Row.keys requestId recording.row with
  | .waits => none
  | .conflict => some (w.fail requestId)
  | .inserted session =>
    some { w.setRun requestId (.recording { recording with phase := .recorded }) with session }

/-- `_raise_overdue_alert` and `_raise_breach_alert`, each with the partial unique index of its rule:
`on conflict (…) where rule = … do nothing`. -/
def raiseAlert (w : World) (requestId : Uuid) (recording : Recording) : Option World :=
  let raised := w.setRun requestId (.recording { recording with phase := .raised })
  match recording.alert with
  | none => some raised
  | some alert =>
    if Taken Row.keys (w.session.view requestId) alert.source.key then some raised
    else
      match w.session.insert Row.keys requestId (.alert alert) with
      | .waits => none
      | .conflict => some (w.fail requestId)
      | .inserted session => some { raised with session }

/-- `select … for update`, with the check of the move under the lock. -/
def lockAlert (w : World) (requestId : Uuid) (disposing : Disposing) : Option World :=
  match w.session.lock requestId (.alertRow disposing.alertId) with
  | none => none
  | some session =>
    match loadAlert w.session.rows disposing.alertId disposing.caseVersion with
    | none => some (w.fail requestId)
    | some alert =>
      if isAlertTransitionAllowed (w.status alert.id) disposing.toStatus then
        some
          { w.setRun requestId
              (.disposing { disposing with phase := .locked (w.status alert.id) }) with session }
      else some (w.fail requestId)

/-- The update of the status with the trigger, and the insert of the disposition. -/
def moveAlert (w : World) (requestId : Uuid) (disposing : Disposing) (current : AlertStatus) :
    Option World :=
  match enforceEarlyWarningAlertTransition (w.status disposing.alertId) disposing.toStatus with
  | .error _ => some (w.fail requestId)
  | .ok _ =>
    match w.session.insert Row.keys requestId
        (.disposition ⟨disposing.dispositionId, disposing.alertId, current, disposing.toStatus⟩) with
    | .waits => none
    | .conflict => some (w.fail requestId)
    | .inserted session =>
      some { w.setRun requestId (.disposing { disposing with phase := .moved current }) with session }

/-- The new alerts of a transaction are open. -/
def openNew (status : Uuid → AlertStatus) : List Row → Uuid → AlertStatus
  | [] => status
  | .alert alert :: rows => Function.update (openNew status rows) alert.id .opened
  | _ :: rows => openNew status rows

/-- The commit of a recording transaction. -/
def commitRecording (w : World) (requestId : Uuid) : World :=
  { w with
    session := w.session.commit requestId
    status := openNew w.status (w.session.staged requestId)
    runs := Function.update w.runs requestId none }

/-- The commit of a disposing transaction. -/
def commitDisposing (w : World) (requestId : Uuid) (disposing : Disposing) : World :=
  { w with
    session := w.session.commit requestId
    status := Function.update w.status disposing.alertId disposing.toStatus
    runs := Function.update w.runs requestId none }

end World

/-- What a step does; none for a request that is not at that point, is refused, or waits. -/
def step (w : World) : Action → Option World
  | .createObligations obligations =>
    if (obligations.map (·.id) ++ w.obligations.map (·.id)).Nodup then
      some { w with obligations := obligations ++ w.obligations }
    else none
  | .createCovenant covenant =>
    if covenant.id ∈ w.covenants.map (·.id) then none
    else some { w with covenants := covenant :: w.covenants }
  | .openObservation requestId observationId alertId body =>
    match checkObservation w.obligations observationId alertId body with
    | .error _ => none
    | .ok recording => w.openRun requestId (.recording recording)
  | .openCovenantTest requestId testId alertId body =>
    match checkCovenantTest w.covenants testId alertId body with
    | .error _ => none
    | .ok recording => w.openRun requestId (.recording recording)
  | .openDisposition requestId dispositionId body =>
    match checkDisposition w.session.rows w.status dispositionId body with
    | .error _ => none
    | .ok disposing => w.openRun requestId (.disposing disposing)
  | .insertRow requestId =>
    match w.runs requestId with
    | some (.recording recording) =>
      if recording.phase = .loaded then w.insertRow requestId recording else none
    | _ => none
  | .raiseAlert requestId =>
    match w.runs requestId with
    | some (.recording recording) =>
      if recording.phase = .recorded then w.raiseAlert requestId recording else none
    | _ => none
  | .lockAlert requestId =>
    match w.runs requestId with
    | some (.disposing disposing) =>
      if disposing.phase = .loaded then w.lockAlert requestId disposing else none
    | _ => none
  | .moveAlert requestId =>
    match w.runs requestId with
    | some (.disposing disposing) =>
      match disposing.phase with
      | .locked current => w.moveAlert requestId disposing current
      | _ => none
    | _ => none
  | .commit requestId =>
    match w.runs requestId with
    | some (.recording recording) =>
      if recording.phase = .raised then some (w.commitRecording requestId) else none
    | some (.disposing disposing) =>
      match disposing.phase with
      | .moved _ => some (w.commitDisposing requestId disposing)
      | _ => none
    | none => none
  | .rollback requestId =>
    match w.runs requestId with
    | some _ => some (w.fail requestId)
    | none => none

/-- A case before its first monitoring record. -/
structure Initial (w : World) : Prop where
  obligationIds : (w.obligations.map (·.id)).Nodup
  session : w.session = .empty
  noRun : ∀ id, w.runs id = none

end CreditOps.Monitoring
