import CreditOps.Library.Transition
import CreditOps.Library.Fencing
import CreditOps.Library.AppendLog
import CreditOps.Domain.Api
import CreditOps.Orchestration.Revision

/-!
# Human dispositions of the checker's challenges

A disposition request loads the newest assessment of the case, appends one disposition, reads the
dispositions back and derives `G3_RISK_DISPOSITION`; only a derived gate is written, and a
`MAKER_MUST_REVISE` of a challenge then asks for a maker revision. The requests of any number of
reviewers interleave with each other, with the checker and with the engine.
-/

set_option autoImplicit false

namespace CreditOps.RiskReview

open Transition Fencing PartialMap Orchestration

/-! ## Rows -/

/-- One row of `risk_review_assessments`, with the challenges it raised. -/
structure RiskReviewAssessment where
  id : Uuid
  caseVersion : CaseVersion
  taskId : Uuid
  challenges : List (Uuid × ChallengeSeverity)
  createdAt : Timestamp
deriving DecidableEq

/-- One row of `challenge_dispositions`; without a challenge it is at assessment level. -/
structure ChallengeDisposition where
  id : Uuid
  assessmentId : Uuid
  caseVersion : CaseVersion
  challengeId : Option Uuid
  dispositionType : DispositionType
  rationaleVi : String
  actorId : Uuid
  actorRole : String
  createdAt : Timestamp
deriving DecidableEq

/-- `order by created_at, id` -/
def recordedBefore (a b : ChallengeDisposition) : Prop :=
  a.createdAt < b.createdAt ∨ (a.createdAt = b.createdAt ∧ a.id ≤ b.id)

instance : DecidableRel recordedBefore :=
  fun _ _ => inferInstanceAs (Decidable (_ ∨ (_ ∧ _)))

/-- The append-only tables of the risk review, newest first. -/
structure RiskReviewStore where
  assessments : List RiskReviewAssessment
  dispositions : List ChallengeDisposition

namespace RiskReviewStore

/-- `load_latest_assessment`: the newest assessment of the case, over all versions. -/
def loadLatestAssessment (store : RiskReviewStore) : Option RiskReviewAssessment :=
  AppendLog.latest (fun a b => a.createdAt ≤ b.createdAt) (fun _ => true) store.assessments

/-- The dispositions of a version. -/
def loadDispositions (store : RiskReviewStore) (caseVersion : CaseVersion) :
    List ChallengeDisposition :=
  store.dispositions.filter (·.caseVersion = caseVersion)

/-- The latest disposition of a challenge, or of the assessment level. -/
def latestDisposition (store : RiskReviewStore) (caseVersion : CaseVersion)
    (challengeId : Option Uuid) : Option DispositionType :=
  (AppendLog.latest recordedBefore (·.challengeId = challengeId)
    (store.loadDispositions caseVersion)).map (·.dispositionType)

/-- The derivation of `_maybe_satisfy_g3` for one assessment. -/
def g3Status (store : RiskReviewStore) (record : RiskReviewAssessment) : GateStatus :=
  deriveG3Status true record.challenges
    (fun id => store.latestDisposition record.caseVersion (some id))
    (store.latestDisposition record.caseVersion none) g3SeverityThreshold

/-- The derivation for a version: open as long as it has no assessment. -/
def currentG3Status (store : RiskReviewStore) (caseVersion : CaseVersion) : GateStatus :=
  match store.assessments.find? (·.caseVersion = caseVersion) with
  | none => .opened
  | some record => store.g3Status record

/-- The ids of all challenges. -/
def challengeIds (store : RiskReviewStore) : List Uuid :=
  store.assessments.flatMap fun record => record.challenges.map (·.1)

end RiskReviewStore

/-! ## Requests -/

/-- The body of a disposition request: both texts are stripped, then bounded. -/
structure RecordDispositionRequest where
  dispositionType : String
  rationaleVi : String
  dispositionType_length : 1 ≤ (strip dispositionType).length ∧ (strip dispositionType).length ≤ 50
  rationaleVi_length : 1 ≤ (strip rationaleVi).length ∧ (strip rationaleVi).length ≤ 4000
deriving DecidableEq

/-- `_DISPOSITION_TYPES`, by their stored texts. -/
def dispositionType? (text : String) : Option DispositionType :=
  [.acceptedRisk, .makerMustRevise, .escalated, .noted].find? fun t => t.value = text

/-- `RISK_REVIEWER_ROLE` -/
def riskReviewerRole : String := "RISK_REVIEWER"

/-- The checks of the two disposition endpoints, for a reviewer assigned to the case: the type, the
assessment and the challenge. -/
def checkDisposition (latest : Option RiskReviewAssessment) (challengeId : Option Uuid)
    (body : RecordDispositionRequest) :
    Except ApiException (RiskReviewAssessment × DispositionType) :=
  if challengeId = none ∧ strip body.dispositionType ≠ DispositionType.noted.value then
    .error ⟨422, "INVALID_DISPOSITION_TYPE", "Quyết định ở cấp bản đánh giá chỉ được phép là NOTED."⟩
  else
    match dispositionType? (strip body.dispositionType), latest with
    | none, _ => .error ⟨422, "INVALID_DISPOSITION_TYPE", "Loại quyết định không hợp lệ."⟩
    | _, none =>
      .error ⟨404, "RISK_REVIEW_NOT_AVAILABLE", "Chưa có bản rà soát rủi ro độc lập cho hồ sơ này."⟩
    | some dispositionType, some record =>
      if challengeId.all (· ∈ record.challenges.map (·.1)) then .ok (record, dispositionType)
      else .error ⟨404, "CHALLENGE_NOT_FOUND", "Không tìm thấy thách thức trong bản rà soát này."⟩

variable {challengeId : Option Uuid} {dispositionType : DispositionType}

/-- **What a passed check says.** The latest assessment exists, a disposition at assessment level is
`NOTED`, and a named challenge is one the assessment raised. -/
theorem checkDisposition_ok {latest : Option RiskReviewAssessment} {body : RecordDispositionRequest}
    {record : RiskReviewAssessment}
    (h : checkDisposition latest challengeId body = .ok (record, dispositionType)) :
    latest = some record ∧ (challengeId = none → dispositionType = .noted) ∧
      ∀ id, challengeId = some id → id ∈ record.challenges.map (·.1) := by
  unfold checkDisposition at h
  split at h
  · cases h
  rename_i hnoted
  split at h
  · cases h
  · cases h
  rename_i parsed found hparse
  split at h
  · rename_i hknown
    cases h
    refine ⟨rfl, fun hnone => ?_, fun id hid => ?_⟩
    · -- the parsed text is the text of the type, here `NOTED`
      have hvalue : dispositionType.value = strip body.dispositionType := by
        simpa using List.find?_some hparse
      have htext : strip body.dispositionType = DispositionType.noted.value := by
        by_contra hne
        exact hnoted ⟨hnone, hne⟩
      rw [htext] at hvalue
      cases dispositionType with
      | noted => rfl
      | acceptedRisk | makerMustRevise | escalated => exact absurd hvalue (by decide)
    · rw [hid] at hknown
      simpa using hknown
  · cases h

/-- How far one disposition request has come. -/
inductive DispositionPhase where
  | loaded
  | recorded
  | derived
  | settled
deriving DecidableEq

/-- One disposition request in flight: the assessment it loaded and what it is asked to record. -/
structure DispositionRun where
  record : RiskReviewAssessment
  challengeId : Option Uuid
  dispositionType : DispositionType
  rationaleVi : String
  actorId : Uuid
  phase : DispositionPhase
deriving DecidableEq

/-- The row the request appends. -/
def DispositionRun.row (run : DispositionRun) (dispositionId : Uuid) (now : Timestamp) :
    ChallengeDisposition where
  id := dispositionId
  assessmentId := run.record.id
  caseVersion := run.record.caseVersion
  challengeId := run.challengeId
  dispositionType := run.dispositionType
  rationaleVi := run.rationaleVi
  actorId := run.actorId
  actorRole := riskReviewerRole
  createdAt := now

/-- The request contests a severe challenge: its disposition does not authorise continuation. -/
def DispositionRun.contests (run : DispositionRun) : Bool :=
  continues (some run.dispositionType) = false ∧
    run.challengeId.any (· ∈ severeIds run.record.challenges g3SeverityThreshold)

/-- `f"risk-review-assessment:{assessment_id}"` -/
def g3DispositionRef (record : RiskReviewAssessment) : String :=
  "risk-review-assessment:" ++ uuidText record.id

/-- What matters for the gate of a version: a read that derived it, and a disposition that contests a
severe challenge. -/
inductive Event where
  | derived (caseVersion : CaseVersion)
  | contested (caseVersion : CaseVersion)
deriving DecidableEq

/-- The engine, the tables of the risk review and the disposition requests in flight. -/
structure System where
  engine : Engine
  store : RiskReviewStore
  runs : Uuid → Option DispositionRun
  history : List Event

/-- One step of an interleaving. -/
inductive Request where
  | engine (request : EngineRequest)
  | otherGate (caseVersion : CaseVersion) (gateType : GateType) (actorId : Uuid)
      (dispositionRef : Option String) (now : Timestamp)
  | persistAssessment (assessmentId taskId : Uuid) (challenges : List (Uuid × ChallengeSeverity))
      (gaps : List FoundGap) (now : Timestamp)
  | openDisposition (dispositionId : Uuid) (challengeId : Option Uuid)
      (body : RecordDispositionRequest) (actorId : Uuid)
  | recordDisposition (dispositionId : Uuid) (now : Timestamp)
  | readDispositions (dispositionId : Uuid)
  | satisfyG3 (dispositionId : Uuid) (now : Timestamp)
  | reviseMakers (dispositionId handoffId : Uuid)
deriving DecidableEq

namespace System

/-- The tables of the case. -/
abbrev tables (s : System) : CaseTables := s.engine.tables

/-- Replace the tables of the case. -/
def withTables (s : System) (tables : CaseTables) : System :=
  { s with engine := { s.engine with tables } }

/-- Move one disposition request to a phase. -/
def setPhase (s : System) (dispositionId : Uuid) (run : DispositionRun) (phase : DispositionPhase) :
    Uuid → Option DispositionRun :=
  Function.update s.runs dispositionId (some { run with phase })

end System

/-- `persist_assessment` of the checker: once a task, with its challenges and gaps; a later delivery
finds the row and writes nothing, and a challenge id that is taken rolls back. -/
def persistAssessment (s : System) (assessmentId taskId : Uuid)
    (challenges : List (Uuid × ChallengeSeverity)) (gaps : List FoundGap) (now : Timestamp) :
    Option System :=
  match s.tables.tasks.find? fun task => task.id = taskId ∧ task.taskType = .independentRiskReview with
  | none => none
  | some task =>
    if s.store.assessments.any fun record =>
        record.caseVersion = task.caseVersion ∧ record.taskId = taskId then some s
    else if (challenges.map (·.1) ++ s.store.challengeIds).Nodup then
      some { s.withTables (s.tables.addGaps task.caseVersion taskId gaps) with
             store :=
              { s.store with
                assessments :=
                  ⟨assessmentId, task.caseVersion, taskId, challenges, now⟩ ::
                    s.store.assessments } }
    else none

/-- The step function; `none` for a request that is not at that point or is refused. A gate other than
`G3` is satisfied by its own endpoint (`otherGate`). -/
def step (s : System) : Request → Option System
  | .engine request => (s.engine.step request).map fun engine => { s with engine }
  | .otherGate caseVersion gateType actorId dispositionRef now =>
    if gateType = .g3RiskDisposition then none
    else
      some (s.withTables (s.tables.ensureGate caseVersion gateType .satisfied now (some actorId)
        dispositionRef))
  | .persistAssessment assessmentId taskId challenges gaps now =>
    persistAssessment s assessmentId taskId challenges gaps now
  | .openDisposition dispositionId challengeId body actorId =>
    match s.runs dispositionId, checkDisposition s.store.loadLatestAssessment challengeId body with
    | none, .ok (record, dispositionType) =>
      some { s with
             runs := Function.update s.runs dispositionId
              (some ⟨record, challengeId, dispositionType, strip body.rationaleVi, actorId,
                .loaded⟩) }
    | _, _ => none
  | .recordDisposition dispositionId now =>
    match s.runs dispositionId with
    | none => none
    | some run =>
      if run.phase = .loaded then
        some { s with
               store :=
                { s.store with dispositions := run.row dispositionId now :: s.store.dispositions }
               runs := s.setPhase dispositionId run .recorded
               history :=
                if run.contests then .contested run.record.caseVersion :: s.history
                else s.history }
      else none
  | .readDispositions dispositionId =>
    match s.runs dispositionId with
    | none => none
    | some run =>
      if run.phase = .recorded then
        match s.store.g3Status run.record with
        | .satisfied =>
          some { s with
                 runs := s.setPhase dispositionId run .derived
                 history := .derived run.record.caseVersion :: s.history }
        | .opened => some { s with runs := s.setPhase dispositionId run .settled }
      else none
  | .satisfyG3 dispositionId now =>
    match s.runs dispositionId with
    | none => none
    | some run =>
      if run.phase = .derived then
        some { s.withTables
                (s.tables.ensureGate run.record.caseVersion .g3RiskDisposition .satisfied now
                  (some run.actorId) (some (g3DispositionRef run.record))) with
               runs := s.setPhase dispositionId run .settled }
      else none
  | .reviseMakers dispositionId handoffId =>
    match s.runs dispositionId with
    | none => none
    | some run =>
      if run.phase = .settled ∧ run.challengeId.isSome ∧
          run.dispositionType = .makerMustRevise then
        match s.tables.bumpCaseVersion
            ⟨run.record.caseVersion, dispositionId, run.actorId, run.rationaleVi⟩ handoffId with
        | .ok tables => some (s.withTables tables)
        | .error _ => none
      else none

/-- A case whose risk gate is open at every version, before its first risk review. -/
structure Initial (s : System) : Prop where
  gateOpen : ∀ v, ¬ s.tables.GateSatisfied v .g3RiskDisposition
  keyed : Engine.Keyed s.tables
  noAdvance : ∀ id, s.engine.advances id = none
  noAssessment : s.store.assessments = []
  noRun : ∀ id, s.runs id = none
  noHistory : s.history = []

/-! ## What a step can do -/

/-- Only the engine adds tasks; everything else keeps them all. -/
theorem tasks_of_step {s t : System} {q : Request} (hstep : step s q = some t) :
    t.tables.tasks = s.tables.tasks ∨
      ∃ request, q = .engine request ∧ s.engine.step request = some t.engine := by
  cases q with
  | engine request =>
    simp only [step, Option.map_eq_some_iff] at hstep
    obtain ⟨_, heng, rfl⟩ := hstep
    exact Or.inr ⟨request, rfl, heng⟩
  | otherGate =>
    simp only [step] at hstep
    split at hstep <;> cases hstep
    rw [CaseTables.ensureGate_frame]
    exact Or.inl rfl
  | persistAssessment =>
    simp only [step, persistAssessment] at hstep
    split at hstep
    · cases hstep
    split at hstep
    · cases hstep
      exact Or.inl rfl
    · split at hstep <;> cases hstep
      exact Or.inl rfl
  | openDisposition =>
    simp only [step] at hstep
    split at hstep <;> cases hstep
    exact Or.inl rfl
  | recordDisposition =>
    simp only [step] at hstep
    split at hstep
    · cases hstep
    split at hstep <;> cases hstep
    exact Or.inl rfl
  | readDispositions =>
    simp only [step] at hstep
    split at hstep
    · cases hstep
    split at hstep
    · split at hstep <;> cases hstep <;> exact Or.inl rfl
    · cases hstep
  | satisfyG3 =>
    simp only [step] at hstep
    split at hstep
    · cases hstep
    split at hstep <;> cases hstep
    rw [CaseTables.ensureGate_frame]
    exact Or.inl rfl
  | reviseMakers dispositionId handoffId =>
    simp only [step] at hstep
    split at hstep
    · cases hstep
    split at hstep
    · split at hstep
      · rename_i tables hbump
        cases hstep
        exact Or.inl (CaseTables.bumpCaseVersion_frame hbump).1
      · cases hstep
    · cases hstep

/-! ## One more disposition -/

section Record

variable {store : RiskReviewStore} {row : ChallengeDisposition}

theorem latestDisposition_record_of_ne {v : CaseVersion} (hv : row.caseVersion ≠ v)
    (challengeId : Option Uuid) :
    RiskReviewStore.latestDisposition { store with dispositions := row :: store.dispositions } v
        challengeId =
      store.latestDisposition v challengeId := by
  unfold RiskReviewStore.latestDisposition RiskReviewStore.loadDispositions
  rw [List.filter_cons_of_neg (by simpa using hv)]

/-- **One more disposition.** The latest one of a challenge stays, or the new one is of this challenge
and is the latest. -/
theorem latestDisposition_record (store : RiskReviewStore) (row : ChallengeDisposition)
    (challengeId : Option Uuid) :
    RiskReviewStore.latestDisposition { store with dispositions := row :: store.dispositions }
        row.caseVersion challengeId =
      store.latestDisposition row.caseVersion challengeId ∨
    (row.challengeId = challengeId ∧
      RiskReviewStore.latestDisposition { store with dispositions := row :: store.dispositions }
        row.caseVersion challengeId = some row.dispositionType) := by
  unfold RiskReviewStore.latestDisposition RiskReviewStore.loadDispositions
  rw [List.filter_cons_of_pos (by simp)]
  rcases AppendLog.latest_cons recordedBefore (fun d => decide (d.challengeId = challengeId)) row
    (store.dispositions.filter (·.caseVersion = row.caseVersion)) with hold | ⟨hmatch, hnew⟩
  · exact Or.inl (by rw [hold])
  · exact Or.inr ⟨of_decide_eq_true hmatch, by rw [hnew]; rfl⟩

/-- **A disposition that contests no severe challenge leaves a derived gate derived.** At assessment
level the disposition is one that authorises continuation. -/
theorem g3Status_record {record : RiskReviewAssessment} (hver : row.caseVersion = record.caseVersion)
    (hassessment : row.challengeId = none → continues (some row.dispositionType) = true)
    (hsevere : ∀ id ∈ severeIds record.challenges g3SeverityThreshold, row.challengeId = some id →
      continues (some row.dispositionType) = true)
    (h : store.g3Status record = .satisfied) :
    RiskReviewStore.g3Status { store with dispositions := row :: store.dispositions } record =
      .satisfied := by
  unfold RiskReviewStore.g3Status at h ⊢
  obtain ⟨hall, hempty⟩ := deriveG3Status_satisfied_iff.1 h
  rw [← hver] at hall hempty ⊢
  refine deriveG3Status_satisfied_iff.2 ⟨fun id hid => ?_, fun hnone => ?_⟩
  · rcases latestDisposition_record store row (some id) with hold | ⟨hof, hnew⟩
    · rw [hold]
      exact hall id hid
    · rw [hnew]
      exact hsevere id hid hof
  · rcases latestDisposition_record store row none with hold | ⟨hof, hnew⟩
    · rw [hold]
      exact hempty hnone
    · rw [hnew]
      exact hassessment hof

end Record

/-! ## No derivation without a disposition -/

theorem exists_of_latestDisposition {store : RiskReviewStore} {caseVersion : CaseVersion}
    (h : store.latestDisposition caseVersion challengeId = some dispositionType) :
    ∃ row ∈ store.dispositions, row.caseVersion = caseVersion ∧ row.challengeId = challengeId ∧
      row.dispositionType = dispositionType := by
  obtain ⟨row, hlatest, rfl⟩ := Option.map_eq_some_iff.1 h
  obtain ⟨hmem, hchal⟩ := AppendLog.mem_of_latest _ _ hlatest
  obtain ⟨hrow, hver⟩ := List.mem_filter.1 hmem
  exact ⟨row, hrow, of_decide_eq_true hver, of_decide_eq_true hchal, rfl⟩

/-- An accepting derivation goes back to a disposition for the version of the assessment, of one of its
severe challenges or at assessment level, that authorises continuation. -/
def RiskGateBacked (store : RiskReviewStore) : Prop :=
  ∀ record, store.g3Status record = .satisfied → ∃ row ∈ store.dispositions,
    row.caseVersion = record.caseVersion ∧ continues (some row.dispositionType) = true ∧
      ∀ id, row.challengeId = some id → id ∈ severeIds record.challenges g3SeverityThreshold

/-- **The derivation never accepts without a disposition**, whichever assessment it is about. -/
theorem riskGate_backed (store : RiskReviewStore) : RiskGateBacked store := by
  intro record hsat
  obtain ⟨hlatest, hempty⟩ := deriveG3Status_satisfied_iff.1 hsat
  cases hsevere : severeIds record.challenges g3SeverityThreshold with
  | nil =>
    obtain ⟨_, hnoted, hcontinues⟩ := Option.any_eq_true _ _ |>.1 (hempty hsevere)
    obtain ⟨row, hrow, hver, hchal, rfl⟩ := exists_of_latestDisposition hnoted
    refine ⟨row, hrow, hver, hcontinues, ?_⟩
    rintro _ hid
    rw [hchal] at hid
    cases hid
  | cons id =>
    have hid : id ∈ severeIds record.challenges g3SeverityThreshold := by
      rw [hsevere]
      exact List.mem_cons_self
    obtain ⟨_, hdisposed, hcontinues⟩ := Option.any_eq_true _ _ |>.1 (hlatest id hid)
    obtain ⟨row, hrow, hver, hchal, rfl⟩ := exists_of_latestDisposition hdisposed
    refine ⟨row, hrow, hver, hcontinues, ?_⟩
    intro other hother
    rw [hchal, Option.some.injEq] at hother
    rw [← hother]
    exact List.mem_cons_self

end CreditOps.RiskReview
