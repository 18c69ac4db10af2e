import CreditOps.Assessments.FailClosed

/-!
# The outputs of the four agents

For each builder the stages of its reading, in the order of the source, and when a stage comes to a
citation that is no object. The builders return a value or raise their declared error on every output but
those (`reading_closed_iff`).
-/

set_option autoImplicit false

namespace CreditOps.Assessments

open JsonValue Results

/-! ## The underwriting maker -/

namespace Underwriting

open Evidence CreditOps.Underwriting

section Stages

variable (str : JsonValue → String) (view : EvidenceView)

/-- `proposed_structure`: the amount is resolved before the findings are read. -/
def StructureOff (payload : Mapping) (suite : CalculatorSuite) : Prop :=
  Stage.FirstOff
    [.guard (sectionAt payload "proposed_structure"),
      .guard (resolveAmount str (sectionOf payload "proposed_structure") suite),
      ⟨Succeeds (findingsFrom str (citationFrom str view) payload "proposed_structure"),
        FindingsOff str (citationFrom str view) payload "proposed_structure"⟩]

/-- The stages of `BuildAssessment.build`. -/
def stages (payload : Mapping) (suite : CalculatorSuite) (run : MakerRun) (now : Timestamp) :
    List Stage :=
  let cited := citationFrom str view
  let repayment := sectionOf payload "repayment_source"
  [.guard (sectionAt payload "repayment_source"),
    ⟨Succeeds (itemsAt repayment "downside_scenarios" (findingFrom str cited)),
      ItemsOff (findingFrom str cited) (FindingOff cited) repayment "downside_scenarios"⟩,
    ⟨Succeeds (structureFrom str payload view suite), StructureOff str view payload suite⟩,
    ⟨Succeeds (itemsAt payload "risks" (riskFrom str view "RiskItem")),
      ItemsOff (riskFrom str view "RiskItem") (CitationsOff cited "citations") payload "risks"⟩,
    ⟨Succeeds (itemsAt payload "mitigants" (riskFrom str view "MitigantItem")),
      ItemsOff (riskFrom str view "MitigantItem") (CitationsOff cited "citations") payload "mitigants"⟩,
    ⟨Succeeds (itemsAt payload "assumptions" (assumptionFrom str cited)),
      ItemsOff (assumptionFrom str cited) (CitationsOff cited "basis_citations") payload "assumptions"⟩,
    .guard (itemsAt payload "evidence_gaps" (gapFrom str)),
    .guard (deterministicGapItems suite),
    .guard (makeProvenance view run now),
    ⟨Succeeds (sectionFrom str payload view "business"), FindingsOff str cited payload "business"⟩,
    ⟨Succeeds (sectionFrom str payload view "financial"), FindingsOff str cited payload "financial"⟩,
    ⟨Succeeds (sectionFrom str payload view "cash_flow"), FindingsOff str cited payload "cash_flow"⟩,
    ⟨Succeeds (findingsFrom str cited payload "repayment_source"),
      FindingsOff str cited payload "repayment_source"⟩]

/-- The reading of `RunUnderwritingInference.infer`, behind the gateway. -/
def infer (value : JsonValue) (suite : CalculatorSuite) (run : MakerRun) (id : Uuid) (now : Timestamp) :
    Except BuildFault UnderwritingAssessment :=
  readAnswer "maker output is not a JSON object" value fun payload =>
    build str payload view suite run id now

end Stages

section Escapes

variable {str : JsonValue → String} {view : EvidenceView} {payload : Mapping} {suite : CalculatorSuite}
  {run : MakerRun} {id : Uuid} {now : Timestamp}

theorem escapes_citationFrom (value : JsonValue) :
    Escapes (citationFrom str view value) ↔ NonObject value := by
  refine escapes_asItem_bind fun item => ?_
  split
  · exact not_failsWith_bind not_escapes_knownUuid fun _ => not_failsWith_ok
  · split
    · exact not_failsWith_ok
    · exact escapes_error.not.2 id
  · exact escapes_error.not.2 id

theorem escapes_riskFrom {model : String} (item : Mapping) :
    Escapes (riskFrom str view model item) ↔
      CitationsOff (citationFrom str view) "citations" item := by
  unfold riskFrom
  rw [escapes_before, escapes_citationsAt escapes_citationFrom]
  intro citations
  refine not_failsWith_bind not_escapes_confidenceFrom fun _ => ?_
  repeat refine not_failsWith_bind not_escapes_validated fun _ => ?_
  exact not_failsWith_ok

theorem not_escapes_resolveAmount {raw : Mapping} : ¬ Escapes (resolveAmount str raw suite) := by
  unfold resolveAmount
  split
  · exact not_failsWith_ok
  · exact not_failsWith_ok
  · dsimp only
    split
    · exact not_failsWith_ok
    · exact escapes_error.not.2 id

theorem escapes_structureFrom :
    Escapes (structureFrom str payload view suite) ↔ StructureOff str view payload suite := by
  refine failsWith_guard not_escapes_sectionAt fun raw hraw => ?_
  rw [sectionOf_eq hraw]
  refine failsWith_guard not_escapes_resolveAmount fun amount _ => ?_
  refine failsWith_stage (escapes_findingsFrom escapes_citationFrom) fun findings _ => failsWith_nil ?_
  refine not_failsWith_bind not_escapes_validated fun _ => ?_
  refine not_failsWith_bind not_escapes_validated fun _ => ?_
  split
  · split
    · exact not_failsWith_ok
    · exact escapes_error.not.2 id
  · exact escapes_error.not.2 id

theorem escapes_sectionFrom {key : String} :
    Escapes (sectionFrom str payload view key) ↔ FindingsOff str (citationFrom str view) payload key := by
  unfold sectionFrom
  rw [escapes_before fun _ => not_escapes_makeSection, escapes_findingsFrom escapes_citationFrom]

theorem not_escapes_deterministicGapItems : ¬ Escapes (deterministicGapItems suite) :=
  not_failsWith_mapM fun _ => not_escapes_makeGap

theorem not_escapes_makeProvenance : ¬ Escapes (makeProvenance view run now) := by
  unfold makeProvenance
  split
  · split
    · exact not_failsWith_ok
    · exact escapes_error.not.2 id
  · exact escapes_error.not.2 id

theorem not_escapes_makeAssessment {fields : AssessmentFields} : ¬ Escapes (makeAssessment fields) := by
  unfold makeAssessment
  split
  · exact not_failsWith_ok
  · exact escapes_error.not.2 id

/-- **What the maker's reading lets through.** -/
theorem escapes_fieldsFrom :
    Escapes (fieldsFrom str payload view suite run id now) ↔
      Stage.FirstOff (stages str view payload suite run now) := by
  refine failsWith_guard not_escapes_sectionAt fun raw hraw => ?_
  rw [sectionOf_eq hraw]
  refine failsWith_stage (escapes_itemsAt (escapes_findingFrom escapes_citationFrom)) fun _ _ => ?_
  refine failsWith_stage escapes_structureFrom fun _ _ => ?_
  refine failsWith_stage (escapes_itemsAt escapes_riskFrom) fun _ _ => ?_
  refine failsWith_stage (escapes_itemsAt escapes_riskFrom) fun _ _ => ?_
  refine failsWith_stage (escapes_itemsAt (escapes_assumptionFrom escapes_citationFrom)) fun _ _ => ?_
  refine failsWith_guard (not_escapes_itemsAt not_escapes_gapFrom) fun _ _ => ?_
  refine failsWith_guard not_escapes_deterministicGapItems fun _ _ => ?_
  refine failsWith_guard not_escapes_makeProvenance fun _ _ => ?_
  refine failsWith_stage escapes_sectionFrom fun _ _ => ?_
  refine failsWith_stage escapes_sectionFrom fun _ _ => ?_
  refine failsWith_stage escapes_sectionFrom fun _ _ => ?_
  refine failsWith_stage (escapes_findingsFrom escapes_citationFrom) fun _ _ => failsWith_nil ?_
  exact not_failsWith_bind not_escapes_validated fun _ => not_failsWith_ok

/-- **When the maker's builder fails closed.** -/
theorem failsClosed_build_iff :
    FailsClosed (build str payload view suite run id now) ↔
      ¬ Stage.FirstOff (stages str view payload suite run now) := by
  unfold build
  rw [failsClosed_wrapped_iff, escapes_before fun _ => not_escapes_makeAssessment, escapes_fieldsFrom]

end Escapes

end Underwriting

/-! ## The legal reviewer -/

namespace Legal

open Evidence

section Stages

variable (str : JsonValue → String) (scope : ReviewScope)

/-- `policy_review`: findings without an offered clause are refused before they are read. -/
def PolicyReviewOff (payload : Mapping) : Prop :=
  ∃ raw, listAt payload "policy_review" = .ok raw ∧ (scope.policyHits ≠ [] ∨ raw.length = 0) ∧
    MeetsOff (policyFindingFrom str scope) (CitationsOff (citationFrom str scope) "citations") raw

/-- `collateral_review.ownership_evidence_findings` -/
def OwnershipEvidenceOff (payload : Mapping) : Prop :=
  ∃ entries raw, sectionAt payload "collateral_review" = .ok entries ∧
    (entries.lookup "ownership_evidence_findings").bind list? = some raw ∧
    MeetsOff (findingFrom str (citationFrom str scope)) (FindingOff (citationFrom str scope)) raw

/-- An exception: its category is read before its citations. -/
def ExceptionOff (item : Mapping) : Prop :=
  Succeeds (chosen [.policy, .legal, .collateral] ExceptionCategory.value (getText str item "category")) ∧
    CitationsOff (citationFrom str scope) "citations" item

/-- The stages of `BuildAssessment.build`. -/
def stages (payload : Mapping) (run : ReviewerRun) (now : Timestamp) : List Stage :=
  let cited := citationFrom str scope
  [.guard (sectionAt payload "ownership_consistency"),
    ⟨Succeeds (policyReviewFrom str payload scope), PolicyReviewOff str scope payload⟩,
    .guard (interpretationsFrom str payload scope),
    ⟨Succeeds (ownershipEvidenceFrom str payload scope), OwnershipEvidenceOff str scope payload⟩,
    .guard (scope.preAnalysis.items.mapM documentItemOf),
    ⟨Succeeds (listItemsAt payload "exceptions" (exceptionFrom str scope)),
      ListItemsOff (exceptionFrom str scope) (ExceptionOff str scope) payload "exceptions"⟩,
    ⟨Succeeds (listItemsAt payload "assumptions" (assumptionFrom str cited)),
      ListItemsOff (assumptionFrom str cited) (CitationsOff cited "basis_citations") payload "assumptions"⟩,
    .guard (listItemsAt payload "evidence_gaps" (gapFrom str)),
    .guard (deterministicGaps scope),
    .guard (makeProvenance scope.view run now),
    ⟨Succeeds (sectionFrom str payload scope "legal_entity_review"),
      FindingsOff str cited payload "legal_entity_review"⟩,
    ⟨Succeeds (sectionFrom str payload scope "authority_signatory_review"),
      FindingsOff str cited payload "authority_signatory_review"⟩,
    ⟨Succeeds (findingsFrom str cited payload "ownership_consistency"),
      FindingsOff str cited payload "ownership_consistency"⟩]

/-- The reading of `RunLegalInference.infer`, behind the gateway. -/
def infer (value : JsonValue) (run : ReviewerRun) (id : Uuid) (now : Timestamp) :
    Except BuildFault LegalComplianceAssessment :=
  readAnswer "reviewer output is not a JSON object" value fun payload =>
    build str payload scope run id now

end Stages

section Escapes

variable {str : JsonValue → String} {scope : ReviewScope} {payload : Mapping} {run : ReviewerRun}
  {id : Uuid} {now : Timestamp}

theorem not_escapes_makePolicyCitation {model : String} {key : PolicyKey} :
    ¬ Escapes (makePolicyCitation model key) := by
  repeat refine not_failsWith_bind not_escapes_validated fun _ => ?_
  exact not_failsWith_ok

theorem escapes_citationFrom (value : JsonValue) :
    Escapes (citationFrom str scope value) ↔ NonObject value := by
  refine escapes_asItem_bind fun item => ?_
  split
  · exact not_failsWith_bind not_escapes_knownUuid fun _ => not_failsWith_ok
  · exact not_failsWith_bind not_escapes_knownUuid fun _ =>
      not_failsWith_bind not_escapes_validated fun _ => not_failsWith_ok
  · exact not_failsWith_bind not_escapes_require fun _ =>
      not_failsWith_bind not_escapes_makePolicyCitation fun _ => not_failsWith_ok
  · exact not_failsWith_bind not_escapes_knownUuid fun _ => not_failsWith_ok
  · exact escapes_error.not.2 id

theorem escapes_policyFindingFrom (item : Mapping) :
    Escapes (policyFindingFrom str scope item) ↔
      CitationsOff (citationFrom str scope) "citations" item := by
  unfold policyFindingFrom
  rw [escapes_before, escapes_citationsAt escapes_citationFrom]
  intro citations
  refine not_failsWith_bind not_escapes_confidenceFrom fun _ => ?_
  repeat refine not_failsWith_bind not_escapes_validated fun _ => ?_
  exact not_failsWith_ok

theorem escapes_policyReviewFrom :
    Escapes (policyReviewFrom str payload scope) ↔ PolicyReviewOff str scope payload := by
  refine escapes_after _ not_escapes_listAt fun raw => ?_
  rw [escapes_then not_escapes_require fun _ => escapes_items escapes_policyFindingFrom]
  have hrequired : Succeeds (require (.outputInvalid
      "policy findings present without a configured policy corpus" [])
      (scope.policyHits ≠ [] ∨ raw.length = 0)) ↔ (scope.policyHits ≠ [] ∨ raw.length = 0) := by
    unfold require
    split
    · rename_i hc
      exact iff_of_true ⟨(), rfl⟩ hc
    · rename_i hc
      refine iff_of_false ?_ hc
      rintro ⟨u, h⟩
      cases h
  rw [hrequired]

theorem not_escapes_interpretationFrom (item : Mapping) : ¬ Escapes (interpretationFrom str item) := by
  refine not_failsWith_bind not_escapes_uuidFrom fun _ => ?_
  refine not_failsWith_bind not_escapes_confidenceFrom fun _ => ?_
  repeat refine not_failsWith_bind not_escapes_validated fun _ => ?_
  exact not_failsWith_ok

theorem not_escapes_interpretationsFrom : ¬ Escapes (interpretationsFrom str payload scope) :=
  not_failsWith_bind (not_escapes_listItemsAt not_escapes_interpretationFrom) fun _ =>
    not_failsWith_bind not_escapes_require fun _ => not_failsWith_ok

theorem escapes_ownershipEvidenceFrom :
    Escapes (ownershipEvidenceFrom str payload scope) ↔ OwnershipEvidenceOff str scope payload := by
  unfold ownershipEvidenceFrom
  rw [escapes_after (fun entries => ∃ raw,
    (entries.lookup "ownership_evidence_findings").bind list? = some raw ∧
    MeetsOff (findingFrom str (citationFrom str scope)) (FindingOff (citationFrom str scope)) raw)
    not_escapes_sectionAt]
  · constructor
    · rintro ⟨entries, hents, raw, hraw, h⟩
      exact ⟨entries, raw, hents, hraw, h⟩
    · rintro ⟨entries, raw, hents, hraw, h⟩
      exact ⟨entries, hents, raw, hraw, h⟩
  · intro entries
    split
    · rename_i hnone
      refine iff_of_false (escapes_error.not.2 id) ?_
      rintro ⟨_, hraw, -⟩
      cases hnone.symm.trans hraw
    · rename_i hnil
      refine iff_of_false (escapes_error.not.2 id) ?_
      rintro ⟨_, hraw, h⟩
      cases hnil.symm.trans hraw
      exact h
    · rename_i raw _ hraw
      rw [escapes_items (escapes_findingFrom escapes_citationFrom)]
      constructor
      · intro h
        exact ⟨raw, hraw, h⟩
      · rintro ⟨_, hother, h⟩
        cases hraw.symm.trans hother
        exact h

theorem not_escapes_documentItemOf (item : CollateralItemResult) : ¬ Escapes (documentItemOf item) := by
  repeat refine not_failsWith_bind not_escapes_validated fun _ => ?_
  exact not_failsWith_ok

theorem escapes_exceptionFrom (item : Mapping) :
    Escapes (exceptionFrom str scope item) ↔ ExceptionOff str scope item := by
  refine escapes_then not_escapes_chosen fun category => ?_
  rw [escapes_before, escapes_citationsAt escapes_citationFrom]
  intro citations
  refine not_failsWith_bind not_escapes_confidenceFrom fun _ => ?_
  repeat refine not_failsWith_bind not_escapes_validated fun _ => ?_
  exact not_failsWith_ok

theorem not_escapes_deterministicGaps : ¬ Escapes (deterministicGaps scope) := by
  refine not_failsWith_bind (not_failsWith_mapM fun _ => not_escapes_makeGap) fun _ => ?_
  dsimp only
  split
  · refine not_failsWith_bind ?_ fun _ => not_failsWith_ok
    exact not_failsWith_bind not_escapes_makeGap fun _ => not_failsWith_ok
  · exact not_failsWith_bind not_failsWith_ok fun _ => not_failsWith_ok

theorem not_escapes_makeProvenance {view : LegalEvidenceView} :
    ¬ Escapes (makeProvenance view run now) := by
  unfold makeProvenance
  split
  · split
    · exact not_failsWith_ok
    · exact escapes_error.not.2 id
  · exact escapes_error.not.2 id

theorem escapes_sectionFrom {key : String} :
    Escapes (sectionFrom str payload scope key) ↔
      FindingsOff str (citationFrom str scope) payload key := by
  unfold sectionFrom
  rw [escapes_before fun _ => not_escapes_makeSection, escapes_findingsFrom escapes_citationFrom]

theorem not_escapes_corpusRef {corpus : Option PolicyCorpus} : ¬ Escapes (corpus.mapM makeCorpusRef) := by
  cases corpus with
  | none => exact not_failsWith_ok
  | some =>
    refine not_failsWith_bind ?_ fun _ => not_failsWith_ok
    repeat refine not_failsWith_bind not_escapes_validated fun _ => ?_
    exact not_failsWith_ok

theorem not_escapes_makeAssessment {fields : AssessmentFields} : ¬ Escapes (makeAssessment fields) := by
  unfold makeAssessment
  split
  · exact not_failsWith_ok
  · exact escapes_error.not.2 id

/-- **What the reviewer's reading lets through.** -/
theorem escapes_fieldsFrom :
    Escapes (fieldsFrom str payload scope run id now) ↔
      Stage.FirstOff (stages str scope payload run now) := by
  refine failsWith_guard not_escapes_sectionAt fun _ _ => ?_
  refine failsWith_stage escapes_policyReviewFrom fun _ _ => ?_
  refine failsWith_guard not_escapes_interpretationsFrom fun _ _ => ?_
  refine failsWith_stage escapes_ownershipEvidenceFrom fun _ _ => ?_
  refine failsWith_guard (not_failsWith_mapM not_escapes_documentItemOf) fun _ _ => ?_
  refine failsWith_stage (escapes_listItemsAt escapes_exceptionFrom) fun _ _ => ?_
  refine failsWith_stage (escapes_listItemsAt (escapes_assumptionFrom escapes_citationFrom)) fun _ _ => ?_
  refine failsWith_guard (not_escapes_listItemsAt not_escapes_gapFrom) fun _ _ => ?_
  refine failsWith_guard not_escapes_deterministicGaps fun _ _ => ?_
  refine failsWith_guard not_escapes_makeProvenance fun _ _ => ?_
  refine failsWith_stage escapes_sectionFrom fun _ _ => ?_
  refine failsWith_stage escapes_sectionFrom fun _ _ => ?_
  refine failsWith_stage (escapes_findingsFrom escapes_citationFrom) fun _ _ => failsWith_nil ?_
  refine not_failsWith_bind not_escapes_validated fun _ => ?_
  refine not_failsWith_bind not_escapes_validated fun _ => ?_
  refine not_failsWith_bind (not_failsWith_mapM fun _ => not_escapes_makePolicyCitation) fun _ => ?_
  exact not_failsWith_bind not_escapes_corpusRef fun _ => not_failsWith_ok

/-- **When the reviewer's builder fails closed.** -/
theorem failsClosed_build_iff :
    FailsClosed (build str payload scope run id now) ↔
      ¬ Stage.FirstOff (stages str scope payload run now) := by
  unfold build
  rw [failsClosed_wrapped_iff, escapes_before fun _ => not_escapes_makeAssessment, escapes_fieldsFrom]

end Escapes

end Legal

/-! ## The checker -/

namespace RiskReview

section Stages

variable (str : JsonValue → String) (scope : CheckerScope)

/-- `challenges`, each read with the uuid drawn for it. -/
def ChallengesOff (payload : Mapping) (ids : Nat → Uuid) : Prop :=
  ∃ raw, listAt payload "challenges" = .ok raw ∧
    FirstOff (fun p : Mapping × Nat => Succeeds (llmChallengeFrom str scope p.1 (ids p.2)))
      (fun p => CitationsOff (citationFrom str scope) "citations" p.1) (mappings raw).zipIdx

/-- A review of a mitigant: its targets are read before its citations. -/
def MitigantReviewOff (item : Mapping) : Prop :=
  Succeeds (targetAt str scope.targets item "risk_target") ∧
    Succeeds (targetAt str scope.targets item "mitigant_target") ∧
    CitationsOff (citationFrom str scope) "citations" item

/-- A recommendation: its type is read before its citations. -/
def RecommendationOff (item : Mapping) : Prop :=
  Succeeds (chosen [.requestInformation, .structuralChangeSuggestion, .manualReview, .escalation]
    RecommendationType.value (getText str item "recommendation_type")) ∧
    CitationsOff (citationFrom str scope) "citations" item

/-- The execution is none of those that made the assessments under review. -/
def CheckerScope.Independent (scope : CheckerScope) (run : CheckerRun) : Prop :=
  run.executionId ≠ scope.underwritingExecutionId ∧ run.executionId ≠ scope.legalExecutionId

/-- The stages of `BuildAssessment.build`, behind the check of the execution. -/
def stages (payload : Mapping) (run : CheckerRun) (ids : Nat → Uuid) (now : Timestamp) : List Stage :=
  [⟨Succeeds (llmChallengesFrom str payload scope ids), ChallengesOff str scope payload ids⟩,
    ⟨Succeeds (listItemsAt payload "omitted_risks" (omittedRiskFrom str scope)),
      ListItemsOff (omittedRiskFrom str scope) (CitationsOff (citationFrom str scope) "citations") payload
        "omitted_risks"⟩,
    ⟨Succeeds (listItemsAt payload "mitigant_adequacy_reviews" (mitigantReviewFrom str scope)),
      ListItemsOff (mitigantReviewFrom str scope) (MitigantReviewOff str scope) payload
        "mitigant_adequacy_reviews"⟩,
    ⟨Succeeds (listItemsAt payload "recommendations" (recommendationFrom str scope)),
      ListItemsOff (recommendationFrom str scope) (RecommendationOff str scope) payload
        "recommendations"⟩,
    .guard (listItemsAt payload "evidence_gaps" (gapFrom str)),
    .guard (makeProvenance scope run now)]

/-- The reading of `RunCheckerInference.infer`: the execution is checked before the model is asked. -/
def infer (value : JsonValue) (run : CheckerRun) (ids : Nat → Uuid) (now : Timestamp) :
    Except BuildFault RiskReviewAssessment := do
  require .sameExecution
    (run.executionId ≠ scope.underwritingExecutionId ∧ run.executionId ≠ scope.legalExecutionId)
  readAnswer "checker output is not a JSON object" value fun payload =>
    build str payload scope run ids now

end Stages

section Escapes

variable {str : JsonValue → String} {scope : CheckerScope} {payload item : Mapping} {run : CheckerRun}
  {ids : Nat → Uuid} {id : Uuid} {now : Timestamp} {key : String}

theorem not_escapes_iterate {value : JsonValue} :
    ¬ FailsWith (· = PythonError.attributeError) value.iterate := by
  rintro ⟨_, h, rfl⟩
  cases iterate_error h

/-- Making a dictionary raises a `TypeError` or a `ValueError`. -/
theorem not_escapes_dict {value : JsonValue} :
    ¬ FailsWith (· = PythonError.attributeError) value.dict := by
  unfold JsonValue.dict
  split
  · exact not_failsWith_ok
  · refine not_failsWith_bind not_escapes_iterate fun _ => ?_
    refine not_failsWith_bind (not_failsWith_mapM fun element => ?_) fun _ => not_failsWith_ok
    refine not_failsWith_bind not_escapes_iterate fun _ => ?_
    split
    · exact not_failsWith_ok
    · rw [failsWith_error]
      decide
    · rw [failsWith_error]
      decide
    · exact not_failsWith_ok
    · rw [failsWith_error]
      decide

theorem not_escapes_dictAt : ¬ Escapes (dictAt item key) := by
  unfold dictAt
  split
  · rename_i value _
    have hdict : ¬ FailsWith (· = PythonError.attributeError) value.dict := not_escapes_dict
    cases hvalue : value.dict with
    | ok => exact not_failsWith_ok
    | error error =>
      rw [hvalue, failsWith_error] at hdict
      cases error with
      | attributeError => exact absurd rfl hdict
      | typeError | valueError => exact escapes_error.not.2 id
  · exact not_failsWith_ok

theorem not_escapes_targetFrom {targets : TargetUniverse} {raw : Mapping} :
    ¬ Escapes (targetFrom str targets raw) := by
  refine not_failsWith_bind ?_ fun _ => not_failsWith_bind not_escapes_require fun _ => not_failsWith_ok
  cases refFrom str raw with
  | ok => exact not_failsWith_ok
  | error => exact escapes_error.not.2 id

theorem not_escapes_targetAt {targets : TargetUniverse} : ¬ Escapes (targetAt str targets item key) :=
  not_failsWith_bind not_escapes_dictAt fun _ => not_escapes_targetFrom

theorem escapes_citationFrom (value : JsonValue) :
    Escapes (citationFrom str scope value) ↔ NonObject value := by
  refine escapes_asItem_bind fun item => ?_
  split
  · exact not_failsWith_bind not_escapes_knownUuid fun _ => not_failsWith_ok
  · refine not_failsWith_bind not_escapes_require fun _ => ?_
    split
    · exact not_failsWith_ok
    · exact escapes_error.not.2 id
  · exact not_failsWith_bind not_escapes_require fun _ =>
      not_failsWith_bind Legal.not_escapes_makePolicyCitation fun _ => not_failsWith_ok
  · exact not_failsWith_bind not_escapes_knownUuid fun _ => not_failsWith_ok
  · split
    · exact escapes_error.not.2 id
    · exact not_failsWith_bind not_escapes_targetFrom fun _ => not_failsWith_ok
  · exact escapes_error.not.2 id

theorem escapes_llmChallengeFrom :
    Escapes (llmChallengeFrom str scope item id) ↔
      CitationsOff (citationFrom str scope) "citations" item := by
  unfold llmChallengeFrom
  rw [escapes_before, escapes_citationsAt escapes_citationFrom]
  intro citations
  refine not_failsWith_bind not_escapes_targetAt fun _ => ?_
  refine not_failsWith_bind not_escapes_chosen fun _ => ?_
  refine not_failsWith_bind not_escapes_chosen fun _ => ?_
  refine not_failsWith_bind not_escapes_confidenceFrom fun _ => ?_
  repeat refine not_failsWith_bind not_escapes_validated fun _ => ?_
  exact not_failsWith_ok

theorem escapes_llmChallengesFrom :
    Escapes (llmChallengesFrom str payload scope ids) ↔ ChallengesOff str scope payload ids :=
  escapes_after _ not_escapes_listAt fun _ => escapes_mapM fun _ => escapes_llmChallengeFrom

theorem escapes_omittedRiskFrom (item : Mapping) :
    Escapes (omittedRiskFrom str scope item) ↔
      CitationsOff (citationFrom str scope) "citations" item := by
  unfold omittedRiskFrom
  rw [escapes_before, escapes_citationsAt escapes_citationFrom]
  intro citations
  refine not_failsWith_bind not_escapes_confidenceFrom fun _ => ?_
  repeat refine not_failsWith_bind not_escapes_validated fun _ => ?_
  exact not_failsWith_ok

theorem escapes_mitigantReviewFrom (item : Mapping) :
    Escapes (mitigantReviewFrom str scope item) ↔ MitigantReviewOff str scope item := by
  refine escapes_then not_escapes_targetAt fun riskTarget => ?_
  refine escapes_then not_escapes_targetAt fun mitigantTarget => ?_
  rw [escapes_before, escapes_citationsAt escapes_citationFrom]
  intro citations
  refine not_failsWith_bind not_escapes_confidenceFrom fun _ => ?_
  repeat refine not_failsWith_bind not_escapes_validated fun _ => ?_
  exact not_failsWith_ok

theorem escapes_recommendationFrom (item : Mapping) :
    Escapes (recommendationFrom str scope item) ↔ RecommendationOff str scope item := by
  refine escapes_then not_escapes_chosen fun recommendationType => ?_
  rw [escapes_before, escapes_citationsAt escapes_citationFrom]
  intro citations
  exact not_failsWith_bind not_escapes_validated fun _ => not_failsWith_ok

theorem not_escapes_makeProvenance : ¬ Escapes (makeProvenance scope run now) := by
  unfold makeProvenance
  split
  · split
    · exact not_failsWith_ok
    · exact escapes_error.not.2 id
  · exact escapes_error.not.2 id

theorem not_escapes_makeAssessment {fields : AssessmentFields} : ¬ Escapes (makeAssessment fields) := by
  unfold makeAssessment
  split
  · exact not_failsWith_ok
  · exact escapes_error.not.2 id

theorem require_independent (h : scope.Independent run) :
    require .sameExecution (run.executionId ≠ scope.underwritingExecutionId ∧
      run.executionId ≠ scope.legalExecutionId) = .ok () :=
  if_pos h

theorem require_not_independent (h : ¬ scope.Independent run) :
    require .sameExecution (run.executionId ≠ scope.underwritingExecutionId ∧
      run.executionId ≠ scope.legalExecutionId) = .error .sameExecution :=
  if_neg h

/-- The guard of the execution. -/
theorem escapes_independent_bind {α : Type} {f : Unit → Except BuildFault α} :
    Escapes (require .sameExecution (run.executionId ≠ scope.underwritingExecutionId ∧
      run.executionId ≠ scope.legalExecutionId) >>= f) ↔
        (scope.Independent run → Escapes (f ())) := by
  by_cases hrun : scope.Independent run
  · rw [require_independent hrun]
    constructor
    · intro h _
      exact h
    · intro h
      exact h hrun
  · rw [require_not_independent hrun]
    exact iff_of_true (escapes_error.2 trivial) fun h => absurd h hrun

/-- **What the checker's reading lets through.** -/
theorem escapes_fieldsFrom :
    Escapes (fieldsFrom str payload scope run ids now) ↔
      (scope.Independent run → Stage.FirstOff (stages str scope payload run ids now)) := by
  refine escapes_independent_bind.trans (imp_congr_right fun _ => ?_)
  refine failsWith_stage escapes_llmChallengesFrom fun _ _ => ?_
  refine failsWith_stage (escapes_listItemsAt escapes_omittedRiskFrom) fun _ _ => ?_
  refine failsWith_stage (escapes_listItemsAt escapes_mitigantReviewFrom) fun _ _ => ?_
  refine failsWith_stage (escapes_listItemsAt escapes_recommendationFrom) fun _ _ => ?_
  refine failsWith_guard (not_escapes_listItemsAt not_escapes_gapFrom) fun _ _ => ?_
  exact failsWith_guard not_escapes_makeProvenance fun _ _ => failsWith_nil not_failsWith_ok

/-- **When the checker's builder fails closed.** -/
theorem failsClosed_build_iff :
    FailsClosed (build str payload scope run ids now) ↔
      scope.Independent run ∧ ¬ Stage.FirstOff (stages str scope payload run ids now) := by
  unfold build
  rw [failsClosed_wrapped_iff, escapes_before fun _ => not_escapes_makeAssessment, escapes_fieldsFrom,
    Classical.not_imp]

end Escapes

end RiskReview

/-! ## The credit memo -/

namespace CreditMemo

section Stages

variable (str : JsonValue → String) (targets : MemoTargetUniverse)

/-- A section, whose statements have to be a list. -/
def SectionOff (payload : Mapping) (key : String) : Prop :=
  ∃ raw rawStatements, (payload.lookup key).bind mapping? = some raw ∧
    (raw.lookup "statements").bind list? = some rawStatements ∧
    MeetsOff (statementFrom str targets) (CitationsOff (citationFrom str targets) "citations") rawStatements

/-- One section of the memo. -/
def sectionStage (payload : Mapping) (key : String) : Stage :=
  ⟨Succeeds (sectionFrom str payload key targets), SectionOff str targets payload key⟩

/-- The stages of `BuildMemo.build`. -/
def stages (payload : Mapping) : List Stage :=
  [sectionStage str targets payload "tom_tat_nhu_cau",
    sectionStage str targets payload "phan_tich_maker",
    sectionStage str targets payload "ra_soat_phap_ly_tsbd",
    sectionStage str targets payload "dieu_kien_de_xuat",
    sectionStage str targets payload "phu_luc_bang_chung",
    sectionStage str targets payload "thach_thuc_checker"]

/-- The reading of `RunMemoInference.infer`, behind the gateway. -/
def infer (value : JsonValue) (dispositionStatusVi : String) : Except BuildFault DraftCreditMemo :=
  readAnswer "credit-ops memo output is not a JSON object" value fun payload =>
    build str payload targets dispositionStatusVi

end Stages

section Escapes

variable {str : JsonValue → String} {targets : MemoTargetUniverse} {payload : Mapping} {key : String}
  {dispositionStatusVi : String}

theorem not_escapes_refFrom {raw : Mapping} : ¬ Escapes (refFrom str targets raw) := by
  refine not_failsWith_bind ?_ fun _ => not_failsWith_bind not_escapes_require fun _ => not_failsWith_ok
  cases refFields str raw with
  | ok => exact not_failsWith_ok
  | error => exact escapes_error.not.2 id

theorem escapes_citationFrom (value : JsonValue) :
    Escapes (citationFrom str targets value) ↔ NonObject value := by
  refine escapes_asItem_bind fun item => ?_
  split
  · split
    · exact escapes_error.not.2 id
    · exact not_escapes_refFrom
  · exact escapes_error.not.2 id

theorem escapes_statementFrom (item : Mapping) :
    Escapes (statementFrom str targets item) ↔
      CitationsOff (citationFrom str targets) "citations" item := by
  unfold statementFrom
  rw [escapes_before, escapes_citationsAt escapes_citationFrom]
  intro citations
  repeat refine not_failsWith_bind not_escapes_validated fun _ => ?_
  exact not_failsWith_ok

theorem escapes_sectionFrom :
    Escapes (sectionFrom str payload key targets) ↔ SectionOff str targets payload key := by
  unfold sectionFrom SectionOff
  split
  · rename_i hnone
    refine iff_of_false (escapes_error.not.2 id) ?_
    rintro ⟨_, _, hraw, -⟩
    cases hnone.symm.trans hraw
  · rename_i raw hraw
    have hone : ∀ (P : Mapping → List JsonValue → Prop),
        (∃ other rawStatements, (payload.lookup key).bind mapping? = some other ∧
          (other.lookup "statements").bind list? = some rawStatements ∧ P other rawStatements) ↔
        ∃ rawStatements, (raw.lookup "statements").bind list? = some rawStatements ∧
          P raw rawStatements := by
      intro P
      constructor
      · rintro ⟨_, rawStatements, hother, hlist, h⟩
        cases hraw.symm.trans hother
        exact ⟨rawStatements, hlist, h⟩
      · rintro ⟨rawStatements, hlist, h⟩
        exact ⟨raw, rawStatements, hraw, hlist, h⟩
    rw [hone fun _ rawStatements => MeetsOff (statementFrom str targets)
      (CitationsOff (citationFrom str targets) "citations") rawStatements]
    split
    · rename_i hnone
      refine iff_of_false (escapes_error.not.2 id) ?_
      rintro ⟨_, hlist, -⟩
      cases hnone.symm.trans hlist
    · rename_i hnil
      refine iff_of_false (escapes_error.not.2 id) ?_
      rintro ⟨_, hlist, h⟩
      cases hnil.symm.trans hlist
      exact h
    · rename_i rawStatements _ hlist
      rw [escapes_before, escapes_items escapes_statementFrom]
      · constructor
        · intro h
          exact ⟨rawStatements, hlist, h⟩
        · rintro ⟨_, hother, h⟩
          cases hlist.symm.trans hother
          exact h
      · intro statements
        split
        · exact escapes_error.not.2 id
        · exact not_failsWith_ok

/-- **What the reading of a memo lets through.** -/
theorem escapes_memoFrom :
    Escapes (memoFrom str payload targets dispositionStatusVi) ↔
      Stage.FirstOff (stages str targets payload) := by
  refine failsWith_stage escapes_sectionFrom fun _ _ => ?_
  refine failsWith_stage escapes_sectionFrom fun _ _ => ?_
  refine failsWith_stage escapes_sectionFrom fun _ _ => ?_
  refine failsWith_stage escapes_sectionFrom fun _ _ => ?_
  refine failsWith_stage escapes_sectionFrom fun _ _ => ?_
  refine failsWith_stage escapes_sectionFrom fun _ _ => failsWith_nil ?_
  exact not_failsWith_bind not_escapes_validated fun _ => not_failsWith_ok

/-- **When the memo's builder fails closed.** -/
theorem failsClosed_build_iff :
    FailsClosed (build str payload targets dispositionStatusVi) ↔
      ¬ Stage.FirstOff (stages str targets payload) := by
  unfold build
  rw [failsClosed_wrapped_iff, escapes_memoFrom]

end Escapes

end CreditMemo

/-! ## The four agents -/

namespace RiskReview

theorem failsClosed_infer_iff {str : JsonValue → String} {scope : CheckerScope} {value : JsonValue}
    {run : CheckerRun} {ids : Nat → Uuid} {now : Timestamp} :
    FailsClosed (infer str scope value run ids now) ↔
      scope.Independent run ∧ ∀ payload, value.mapping? = some payload →
        ¬ Stage.FirstOff (stages str scope payload run ids now) := by
  by_cases hrun : scope.Independent run
  · have hinfer : infer str scope value run ids now =
        readAnswer "checker output is not a JSON object" value fun payload =>
          build str payload scope run ids now := by
      unfold infer
      rw [require_independent hrun]
      rfl
    rw [hinfer, failsClosed_readAnswer_iff, and_iff_right hrun]
    refine forall_congr' fun payload => imp_congr_right fun _ => ?_
    rw [failsClosed_build_iff, and_iff_right hrun]
  · have hinfer : infer str scope value run ids now = .error .sameExecution := by
      unfold infer
      rw [require_not_independent hrun]
      rfl
    rw [hinfer]
    refine iff_of_false ?_ fun h => hrun h.1
    intro h
    obtain ⟨_, _, heq⟩ := h _ rfl
    cases heq

end RiskReview

/-- **Reading fails closed, but for citations that are no objects.** Whatever the model returns, each agent
builds a valid artifact or raises its declared error, exactly when its reading does not come to a citation
that is no object; the checker moreover has to be an execution of its own. -/
theorem reading_closed_iff (str : JsonValue → String) (value : JsonValue) :
    (∀ view suite run id now,
      FailsClosed (Underwriting.infer str view value suite run id now) ↔
        ∀ payload, value.mapping? = some payload →
          ¬ Stage.FirstOff (Underwriting.stages str view payload suite run now)) ∧
    (∀ scope run id now,
      FailsClosed (Legal.infer str scope value run id now) ↔
        ∀ payload, value.mapping? = some payload →
          ¬ Stage.FirstOff (Legal.stages str scope payload run now)) ∧
    (∀ scope run ids now,
      FailsClosed (RiskReview.infer str scope value run ids now) ↔
        scope.Independent run ∧ ∀ payload, value.mapping? = some payload →
          ¬ Stage.FirstOff (RiskReview.stages str scope payload run ids now)) ∧
    ∀ targets dispositionStatusVi,
      FailsClosed (CreditMemo.infer str targets value dispositionStatusVi) ↔
        ∀ payload, value.mapping? = some payload →
          ¬ Stage.FirstOff (CreditMemo.stages str targets payload) := by
  refine ⟨?_, ?_, ?_, ?_⟩
  · intro view suite run id now
    refine failsClosed_readAnswer_iff.trans ?_
    exact forall_congr' fun payload => imp_congr_right fun _ => Underwriting.failsClosed_build_iff
  · intro scope run id now
    refine failsClosed_readAnswer_iff.trans ?_
    exact forall_congr' fun payload => imp_congr_right fun _ => Legal.failsClosed_build_iff
  · intro scope run ids now
    exact RiskReview.failsClosed_infer_iff
  · intro targets dispositionStatusVi
    refine failsClosed_readAnswer_iff.trans ?_
    exact forall_congr' fun payload => imp_congr_right fun _ => CreditMemo.failsClosed_build_iff

/-! ## A citation that is a text -/

/-- An item whose citations are texts. -/
def textCited : JsonValue :=
  .object [("citations", .array [.string "calc_1"])]

/-- A memo whose first section has a statement that cites a text. -/
def textCitedMemo : JsonValue :=
  .object [("tom_tat_nhu_cau", .object [("statements", .array [textCited])])]

/-- An underwriting assessment with a downside scenario that cites a text. -/
def textCitedAssessment : JsonValue :=
  .object [("repayment_source", .object [("downside_scenarios", .array [textCited])])]

/-- **The `AttributeError` leaves the builders.** -/
theorem text_citation_escapes :
    (¬ ∀ view suite run id now,
      FailsClosed (Underwriting.infer (fun _ => "") view textCitedAssessment suite run id now)) ∧
    ¬ ∀ targets dispositionStatusVi,
      FailsClosed (CreditMemo.infer (fun _ => "") targets textCitedMemo dispositionStatusVi) := by
  constructor
  · intro h
    obtain ⟨_, _, heq⟩ := h ⟨1, 1, 0, []⟩ ⟨[], [], [], []⟩ ⟨4, 5, "model", "endpoint"⟩ 9 0 _ rfl
    cases heq
  · intro h
    obtain ⟨_, _, heq⟩ := h ⟨1, [], 2, [], 3, []⟩ "PENDING" _ rfl
    cases heq

end CreditOps.Assessments
