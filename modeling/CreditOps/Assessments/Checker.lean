import CreditOps.Assessments.PreAnalysis

/-!
# The checker's builder

The checker's builder puts the deterministic challenges first and appends what the language model adds.
Its readers of targets and citations check each against the scope of the execution: the universe of
addressable passages, the live confirmed facts, the maker's calculator results, the clauses and the
checks of the reviewer.
-/

set_option autoImplicit false

namespace CreditOps.Assessments.RiskReview

open JsonValue Evidence Orchestration

/-! ## The blind pass -/

/-- `IndependentRisk` -/
structure IndependentRisk where
  descriptionVi : SizedText 1 4000
  citations : NonemptyList Uuid
  severity : ChallengeSeverity
  confidence : ConfidenceLevel
deriving DecidableEq

/-- `IndependentObservation` -/
structure IndependentObservation where
  statementVi : SizedText 1 4000
  citations : NonemptyList Uuid
  confidence : ConfidenceLevel
deriving DecidableEq

/-- `RiskPreAnalysis`, which cites confirmed facts and nothing else. -/
structure RiskPreAnalysis where
  independentRisks : List IndependentRisk
  observations : List IndependentObservation
deriving DecidableEq

/-- `cited_confirmed_fact_ids` -/
def RiskPreAnalysis.citedConfirmedFactIds (blind : RiskPreAnalysis) : List Uuid :=
  blind.independentRisks.flatMap (·.citations.1) ++ blind.observations.flatMap (·.citations.1)

/-! ## The scope of an execution -/

/-- What an execution of the checker is given beside the payload. -/
structure CheckerScope where
  view : CheckerEvidenceView
  underwriting : Underwriting.UnderwritingAssessment
  underwritingExecutionId : Uuid
  legal : Legal.LegalComplianceAssessment
  legalExecutionId : Uuid
  preAnalysis : DeterministicPreAnalysis
  targets : TargetUniverse
  policyHits : List Legal.PolicyCitation
  controlledCheckResults : List Legal.ControlledCheckResult
  blindPreAnalysis : Option RiskPreAnalysis

namespace CheckerScope

/-- `_calculator_result_ids` -/
def knownResultIds (scope : CheckerScope) : List String :=
  scope.underwriting.knownResultIds

def knownInvocations (scope : CheckerScope) : List Uuid :=
  scope.controlledCheckResults.map (·.invocationId)

/-- `blind_fact_ids` -/
def blindFactIds (scope : CheckerScope) : List Uuid :=
  match scope.blindPreAnalysis with
  | some blind => blind.citedConfirmedFactIds
  | none => []

/-- `raised_blind` -/
def raisedBlind (scope : CheckerScope) (citations : List EvidenceCitation) : Bool :=
  citations.any fun citation =>
    match citation with
    | .confirmedFact id => uuidText id ∈ scope.blindFactIds.map uuidText
    | _ => false

end CheckerScope

/-! ## Reading the payload -/

section Readers

variable (str : JsonValue → String)

/-- The reading of a reference's fields; what it raises is raised anew. -/
def refFrom (raw : Mapping) : Except BuildFault MakerFindingRef := do
  let makerSource ← chosen [.creditUnderwriting, .legalComplianceCollateral] MakerSource.value
    (getText str raw "maker_source")
  let makerAssessmentId ← uuidFrom (getText str raw "maker_assessment_id")
  makeRef makerSource makerAssessmentId (getText str raw "section_path")

/-- `_target_from` -/
def targetFrom (targets : TargetUniverse) (raw : Mapping) : Except BuildFault MakerFindingRef := do
  let ref ← (refFrom str raw).mapError fun _ =>
    .outputInvalid "invalid target reference: " [.object raw]
  require (.outputInvalid "target does not resolve in the reviewed assessments: " [])
    (targets.contains ref = true)
  return ref

/-- `dict(item.get(key, {}))` -/
def dictAt (item : Mapping) (key : String) : Except BuildFault Mapping :=
  match item.lookup key with
  | some value => value.dict.mapError .exception
  | none => .ok []

/-- A target of an item. -/
def targetAt (targets : TargetUniverse) (item : Mapping) (key : String) :
    Except BuildFault MakerFindingRef := do
  let raw ← dictAt item key
  targetFrom str targets raw

/-- One element of `_citations_from`. -/
def citationFrom (scope : CheckerScope) (value : JsonValue) : Except BuildFault EvidenceCitation := do
  let item ← asItem value
  match item.lookup "kind" with
  | some (.string "CONFIRMED_FACT") =>
    let id ← knownUuid (scope.view.confirmedFacts.map (·.confirmedFactId))
      "citation references a confirmed fact outside scope: " (getText str item "confirmed_fact_id")
    return .confirmedFact id
  | some (.string "CALCULATOR_RESULT") =>
    require (.outputInvalid "citation references an unknown calculator result: "
      [.string (getText str item "result_id")]) (getText str item "result_id" ∈ scope.knownResultIds)
    if h : getText str item "result_id" ≠ "" then .ok (.calculatorResult (getText str item "result_id") h)
    else .error (.validation "CalculatorResultCitation" "result_id")
  | some (.string "POLICY_CITATION") =>
    let key := Legal.policyKeyFrom str item
    require (.outputInvalid "policy citation does not resolve: " [])
      (key ∈ scope.policyHits.map (·.key))
    let citation ← Legal.makePolicyCitation "PolicyCitation" key
    return .policy citation
  | some (.string "CONTROLLED_CHECK") =>
    let id ← knownUuid scope.knownInvocations
      "citation references an unknown controlled-check invocation: "
      (getText str item "invocation_id")
    return .controlledCheck id
  | some (.string "MAKER_FINDING") =>
    match (item.lookup "ref").bind mapping? with
    | none => .error (.outputInvalid "MAKER_FINDING citation missing ref" [])
    | some raw =>
      let ref ← targetFrom str scope.targets raw
      return .makerFinding ref
  | kind => .error (.outputInvalid "unsupported citation kind: " kind.toList)

/-- `_build_llm_challenge`; `id` is the uuid drawn for the challenge. -/
def llmChallengeFrom (scope : CheckerScope) (item : Mapping) (id : Uuid) :
    Except BuildFault Challenge := do
  let citations ← citationsAt (citationFrom str scope) item "citations"
  let target ← targetAt str scope.targets item "target"
  let challengeType ← chosen [.unsupportedAssumption, .omittedRisk, .inadequateMitigant,
    .gapVisibility, .exceptionVisibility, .otherConcern] ChallengeType.value
    (getText str item "challenge_type")
  let severity ← chosen [.low, .medium, .high, .critical] severityValue (getText str item "severity")
  let confidence ← confidenceFrom str item
  makeChallenge id target challengeType (getText str item "statement_vi") citations severity
    confidence .llm (scope.raisedBlind citations)

/-- `challenges` of the payload, with the uuids drawn in order. -/
def llmChallengesFrom (payload : Mapping) (scope : CheckerScope) (ids : Nat → Uuid) :
    Except BuildFault (List Challenge) := do
  let raw ← listAt payload "challenges"
  (mappings raw).zipIdx.mapM fun p => llmChallengeFrom str scope p.1 (ids p.2)

/-- One element of `omitted_risks`. -/
def omittedRiskFrom (scope : CheckerScope) (item : Mapping) : Except BuildFault OmittedRiskItem := do
  let citations ← citationsAt (citationFrom str scope) item "citations"
  let confidence ← confidenceFrom str item
  let descriptionVi ← validated "OmittedRiskItem" "description_vi"
    (SizedText.ofText? 1 4000 (getText str item "description_vi"))
  let citations ← validated "OmittedRiskItem" "citations" (NonemptyList.ofList? citations)
  let uncertaintyVi ← validated "OmittedRiskItem" "uncertainty_vi"
    (SizedText.ofText? 0 2000 (getText str item "uncertainty_vi"))
  return { descriptionVi, citations, confidence, uncertaintyVi }

/-- One element of `mitigant_adequacy_reviews`. -/
def mitigantReviewFrom (scope : CheckerScope) (item : Mapping) :
    Except BuildFault MitigantAdequacyReview := do
  let riskTarget ← targetAt str scope.targets item "risk_target"
  let mitigantTarget ← targetAt str scope.targets item "mitigant_target"
  let citations ← citationsAt (citationFrom str scope) item "citations"
  let confidence ← confidenceFrom str item
  let concernVi ← validated "MitigantAdequacyReview" "concern_vi"
    (SizedText.ofText? 1 4000 (getText str item "concern_vi"))
  let citations ← validated "MitigantAdequacyReview" "citations" (NonemptyList.ofList? citations)
  let uncertaintyVi ← validated "MitigantAdequacyReview" "uncertainty_vi"
    (SizedText.ofText? 0 2000 (getText str item "uncertainty_vi"))
  return { riskTarget, mitigantTarget, concernVi, citations, confidence, uncertaintyVi }

/-- One element of `recommendations`. -/
def recommendationFrom (scope : CheckerScope) (item : Mapping) :
    Except BuildFault RecommendationItem := do
  let recommendationType ← chosen [.requestInformation, .structuralChangeSuggestion, .manualReview,
    .escalation] RecommendationType.value (getText str item "recommendation_type")
  let citations ← citationsAt (citationFrom str scope) item "citations"
  let rationaleVi ← validated "RecommendationItem" "rationale_vi"
    (SizedText.ofText? 1 2000 (getText str item "rationale_vi"))
  return { recommendationType, rationaleVi, citations }

/-! ## The builder -/

/-- `CheckerRunContext`, with the model and the endpoint that answered. -/
structure CheckerRun where
  taskId : Uuid
  executionId : Uuid
  modelId : String
  endpointId : String
deriving DecidableEq

/-- `RISK_REVIEW_PROMPT_VERSION` -/
def promptVersion : String := "risk-review-prompt-v1"

theorem two_le_length (a b : MakerReviewedRef) : 2 ≤ [a, b].length := le_rfl

def makeProvenance (scope : CheckerScope) (run : CheckerRun) (now : Timestamp) :
    Except BuildFault RiskReviewProvenance :=
  if hver : 1 ≤ scope.view.caseVersion then
    if htexts : promptVersion ≠ "" ∧ run.modelId ≠ "" ∧ run.endpointId ≠ "" then
      .ok ⟨scope.view.caseId, scope.view.caseVersion, run.executionId, run.taskId, promptVersion,
        run.modelId, run.endpointId, scope.view.builtAt, now,
        [⟨.creditUnderwriting, scope.underwriting.id, scope.underwritingExecutionId⟩,
          ⟨.legalComplianceCollateral, scope.legal.id, scope.legalExecutionId⟩],
        hver, htexts, two_le_length _ _⟩
    else .error (.validation "RiskReviewProvenance" "model_id")
  else .error (.validation "RiskReviewProvenance" "case_version")

/-- The fields of the assessment, read from the payload. The uuid of the assessment is drawn after
those of the challenges. -/
def fieldsFrom (payload : Mapping) (scope : CheckerScope) (run : CheckerRun) (ids : Nat → Uuid)
    (now : Timestamp) : Except BuildFault AssessmentFields := do
  require .sameExecution
    (run.executionId ≠ scope.underwritingExecutionId ∧ run.executionId ≠ scope.legalExecutionId)
  let llmChallenges ← llmChallengesFrom str payload scope ids
  let omittedRisks ← listItemsAt payload "omitted_risks" (omittedRiskFrom str scope)
  let mitigantAdequacyReviews ←
    listItemsAt payload "mitigant_adequacy_reviews" (mitigantReviewFrom str scope)
  let recommendations ← listItemsAt payload "recommendations" (recommendationFrom str scope)
  let evidenceGaps ← listItemsAt payload "evidence_gaps" (gapFrom str)
  let provenance ← makeProvenance scope run now
  return {
    id := ids llmChallenges.length
    provenance
    challenges := scope.preAnalysis.allChallenges ++ llmChallenges
    omittedRisks, mitigantAdequacyReviews
    visibilityChecks := scope.preAnalysis.visibilityChecks
    recommendations, evidenceGaps }

/-- `RiskReviewAssessment(...)` -/
def makeAssessment (fields : AssessmentFields) : Except BuildFault RiskReviewAssessment :=
  if h : fields.Valid then .ok ⟨fields, h⟩
  else .error (.validation "RiskReviewAssessment" "")

/-- `BuildAssessment.build` -/
def build (payload : Mapping) (scope : CheckerScope) (run : CheckerRun) (ids : Nat → Uuid)
    (now : Timestamp) : Except BuildFault RiskReviewAssessment :=
  (do
    let fields ← fieldsFrom str payload scope run ids now
    makeAssessment fields).mapError (BuildFault.wrapped "checker output rejected: ")

end Readers

/-! ## What the readers ensure -/

/-- The citation names an item of the scope. -/
def EvidenceCitation.ResolvesIn (scope : CheckerScope) : EvidenceCitation → Prop
  | .confirmedFact id => Named (scope.view.confirmedFacts.map (·.confirmedFactId)) id
  | .calculatorResult resultId _ => resultId ∈ scope.knownResultIds
  | .documentRegion _ _ => False
  | .policy citation => citation.key ∈ scope.policyHits.map (·.key)
  | .controlledCheck id => Named scope.knownInvocations id
  | .makerFinding ref => scope.targets.contains ref = true

section Readers

variable {str : JsonValue → String} {scope : CheckerScope}

theorem targetFrom_contained (targets : TargetUniverse) (raw : Mapping) :
    Ensures (targetFrom str targets raw) fun ref => targets.contains ref = true := by
  refine Ensures.bind (Ensures.self _) fun ref _ => ?_
  refine Ensures.bind ensures_require fun _ hcontained => ?_
  exact Ensures.ok hcontained

theorem targetAt_contained (targets : TargetUniverse) (item : Mapping) (key : String) :
    Ensures (targetAt str targets item key) fun ref => targets.contains ref = true := by
  refine Ensures.bind (Ensures.self _) fun raw _ => ?_
  exact targetFrom_contained targets raw

/-- **The reader of a citation.** What it accepts is in the scope of the execution. -/
theorem citationFrom_resolves (value : JsonValue) :
    Ensures (citationFrom str scope value) (EvidenceCitation.ResolvesIn scope) := by
  unfold citationFrom
  refine Ensures.bind (Ensures.self _) fun item _ => ?_
  split
  · refine Ensures.bind knownUuid_named fun id hid => ?_
    exact Ensures.ok hid
  · refine Ensures.bind ensures_require fun _ hknown => ?_
    split
    · exact Ensures.ok hknown
    · exact Ensures.error _
  · refine Ensures.bind ensures_require fun _ hknown => ?_
    refine Ensures.bind (Legal.makePolicyCitation_key _ _) fun citation hkey => ?_
    apply Ensures.ok
    rw [← hkey] at hknown
    exact hknown
  · refine Ensures.bind knownUuid_named fun id hid => ?_
    exact Ensures.ok hid
  · split
    · exact Ensures.error _
    · refine Ensures.bind (targetFrom_contained _ _) fun ref hcontained => ?_
      exact Ensures.ok hcontained
  · exact Ensures.error _

/-- What the reader of a challenge ensures. -/
structure Challenge.Added (scope : CheckerScope) (challenge : Challenge) : Prop where
  target : scope.targets.contains challenge.target = true
  citations : ∀ citation ∈ challenge.citations.1, citation.ResolvesIn scope
  raisedBy : challenge.raisedBy = .llm
  raisedBlind : challenge.raisedBlind = scope.raisedBlind challenge.citations.1

theorem llmChallengeFrom_added (item : Mapping) (id : Uuid) :
    Ensures (llmChallengeFrom str scope item id) (Challenge.Added scope) := by
  refine Ensures.bind (citationsAt_ensures citationFrom_resolves item _) fun cited hcited => ?_
  refine Ensures.bind (targetAt_contained _ _ _) fun target htarget => ?_
  refine Ensures.bind (Ensures.self _) fun _ _ => ?_
  refine Ensures.bind (Ensures.self _) fun _ _ => ?_
  refine Ensures.bind (Ensures.self _) fun _ _ => ?_
  refine Ensures.mono (makeChallenge_spec _ _ _ _ _ _ _ _ _) fun challenge h => ?_
  obtain ⟨hsame, hcits, hraisedBy, hblind⟩ := h
  constructor
  · rw [hsame]
    exact htarget
  · rw [hcits]
    exact hcited
  · exact hraisedBy
  · rw [hblind, hcits]

theorem llmChallengesFrom_added (payload : Mapping) (ids : Nat → Uuid) :
    Ensures (llmChallengesFrom str payload scope ids) fun challenges =>
      ∀ challenge ∈ challenges, challenge.Added scope := by
  refine Ensures.bind (Ensures.self _) fun raw _ => ?_
  apply Ensures.mapM
  intro p
  exact llmChallengeFrom_added p.1 (ids p.2)

/-! ## What the builder ensures -/

/-- The deterministic part of an assessment, and what the model added to it. -/
structure Composed (scope : CheckerScope) (a : AssessmentFields) : Prop where
  challenges : ∃ llmChallenges, a.challenges = scope.preAnalysis.allChallenges ++ llmChallenges ∧
    ∀ challenge ∈ llmChallenges, challenge.Added scope
  visibility : a.visibilityChecks = scope.preAnalysis.visibilityChecks

/-- **What an assessment is composed of.** -/
theorem build_composed (payload : Mapping) (run : CheckerRun) (ids : Nat → Uuid) (now : Timestamp) :
    Ensures (build str payload scope run ids now) fun a => Composed scope a.toAssessmentFields := by
  apply Ensures.mapError
  refine Ensures.bind (P := Composed scope) ?_ fun fields hflds => ?_
  · refine Ensures.bind (Ensures.self _) fun _ _ => ?_
    refine Ensures.bind (llmChallengesFrom_added payload ids) fun llmChallenges hadded => ?_
    refine Ensures.bind (Ensures.self _) fun _ _ => ?_
    refine Ensures.bind (Ensures.self _) fun _ _ => ?_
    refine Ensures.bind (Ensures.self _) fun _ _ => ?_
    refine Ensures.bind (Ensures.self _) fun _ _ => ?_
    refine Ensures.bind (Ensures.self _) fun _ _ => ?_
    apply Ensures.ok
    exact ⟨⟨llmChallenges, rfl, hadded⟩, rfl⟩
  · unfold makeAssessment
    split
    · exact Ensures.ok hflds
    · exact Ensures.error _

end Readers

/-- The challenge cites a confirmed fact that the blind pass cited too. -/
def SharesBlindFact (scope : CheckerScope) (citations : List EvidenceCitation) : Prop :=
  ∃ id, EvidenceCitation.confirmedFact id ∈ citations ∧ Named scope.blindFactIds id

theorem raisedBlind_iff (scope : CheckerScope) (citations : List EvidenceCitation) :
    scope.raisedBlind citations = true ↔ SharesBlindFact scope citations := by
  unfold CheckerScope.raisedBlind
  rw [List.any_eq_true]
  constructor
  · rintro ⟨citation, hmem, hblind⟩
    cases citation with
    | confirmedFact id =>
      obtain ⟨known, hknown, htext⟩ := List.mem_map.1 (of_decide_eq_true hblind)
      exact ⟨id, hmem, known, hknown, htext⟩
    | calculatorResult | documentRegion | policy | controlledCheck | makerFinding => cases hblind
  · rintro ⟨_, hmem, _, hknown, htext⟩
    refine ⟨_, hmem, decide_eq_true ?_⟩
    rw [← htext]
    exact List.mem_map_of_mem hknown

/-- What the checker promises of an assessment. -/
structure Faithful (scope : CheckerScope) (a : RiskReviewAssessment) : Prop where
  challenges : ∃ llmChallenges, a.challenges = scope.preAnalysis.allChallenges ++ llmChallenges ∧
    ∀ challenge ∈ llmChallenges, scope.targets.contains challenge.target = true ∧
      ∀ citation ∈ challenge.citations.1, citation.ResolvesIn scope
  visibility : a.visibilityChecks = scope.preAnalysis.visibilityChecks
  raisedBlind : ∀ challenge ∈ a.challenges,
    challenge.raisedBlind = true ↔ SharesBlindFact scope challenge.citations.1

theorem Composed.faithful {scope : CheckerScope} {a : RiskReviewAssessment}
    (h : Composed scope a.toAssessmentFields)
    (hplain : ∀ challenge ∈ scope.preAnalysis.allChallenges, challenge.Plain) : Faithful scope a := by
  obtain ⟨llmChallenges, hchals, hadded⟩ := h.challenges
  refine ⟨⟨llmChallenges, hchals, ?_⟩, h.visibility, ?_⟩
  · intro challenge hmem
    exact ⟨(hadded challenge hmem).target, (hadded challenge hmem).citations⟩
  · intro challenge hmem
    rw [hchals] at hmem
    rcases List.mem_append.1 hmem with hdet | hllm
    · -- a deterministic challenge cites no confirmed fact at all
      have hone := hplain challenge hdet
      rw [hone.raisedBlind, hone.citations]
      constructor
      · intro hfalse
        cases hfalse
      · rintro ⟨_, hcited, -⟩
        rw [List.mem_singleton] at hcited
        cases hcited
    · rw [(hadded challenge hllm).raisedBlind]
      exact raisedBlind_iff scope challenge.citations.1

end CreditOps.Assessments.RiskReview
