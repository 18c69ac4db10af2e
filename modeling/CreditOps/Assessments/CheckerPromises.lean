import CreditOps.Assessments.Checker
import CreditOps.Assessments.Makers

/-!
# What the checker's assessment promises

For every context of the checker and every payload, an assessment that is built starts with the
deterministic challenges and is faithful to its scope (`checker_faithful`).

Who raised a challenge is another matter. No deterministic rule states it, and the default names the
language model, so the provenance of an assessment is right exactly when no rule found anything
(`provenance_iff`).
-/

set_option autoImplicit false

namespace CreditOps.Assessments.RiskReview

open JsonValue Evidence Orchestration

/-- The pre-analysis is the one computed from the makers' assessments, the view and the open gaps. -/
def CheckerScope.Computed (openGaps : List EvidenceGap) (ids : Nat → Uuid) (scope : CheckerScope) :
    Prop :=
  computeDeterministicPreAnalysis scope.underwriting scope.legal scope.view openGaps ids =
    .ok scope.preAnalysis

/-- **The model cannot suppress or forge a deterministic finding.** -/
theorem checker_faithful (str : JsonValue → String) (payload : Mapping) (scope : CheckerScope)
    (openGaps : List EvidenceGap) (preIds ids : Nat → Uuid) (run : CheckerRun) (now : Timestamp)
    (a : RiskReviewAssessment) (hscope : scope.Computed openGaps preIds)
    (hbuild : build str payload scope run ids now = .ok a) : Faithful scope a := by
  have hcomposed := build_composed payload run ids now a hbuild
  apply hcomposed.faithful
  exact computeDeterministicPreAnalysis_plain _ _ _ _ _ _ hscope

/-! ## Who raised a challenge -/

def RaisedBy.value : RaisedBy → String
  | .deterministic => "DETERMINISTIC"
  | .llm => "LLM"

/-- The provenance columns of a row of `risk_review_challenges`. -/
structure ChallengeRow where
  id : Uuid
  assessmentId : Uuid
  raisedBy : String
deriving DecidableEq

/-- The rows `persist_assessment` inserts. -/
def challengeRows (a : RiskReviewAssessment) : List ChallengeRow :=
  a.challenges.map fun challenge => ⟨challenge.id, a.id, challenge.raisedBy.value⟩

/-- Every challenge carries its origin, on the assessment and in its row: the deterministic ones stand
first, the model's after them. -/
def ProvenanceRight (scope : CheckerScope) (a : RiskReviewAssessment) : Prop :=
  ∃ llmChallenges, a.challenges = scope.preAnalysis.allChallenges ++ llmChallenges ∧
    (∀ challenge ∈ scope.preAnalysis.allChallenges, challenge.raisedBy = .deterministic) ∧
    (∀ challenge ∈ llmChallenges, challenge.raisedBy = .llm) ∧
    (challengeRows a).map (·.raisedBy) =
      scope.preAnalysis.allChallenges.map (fun _ => "DETERMINISTIC") ++
        llmChallenges.map fun _ => "LLM"

/-- No deterministic rule finds anything: every cited fact is live, every blocking gap is visible, every
assumption with a basis is taken up, and no item is of low confidence. -/
def NothingFound (scope : CheckerScope) (openGaps : List EvidenceGap) : Prop :=
  groundingDrafts scope.underwriting scope.legal scope.view = [] ∧
    visibilityDrafts (visibilityChecks scope.underwriting scope.legal openGaps) scope.underwriting.id
      scope.legal.id = [] ∧
    assumptionDrafts scope.underwriting = [] ∧ confidenceDrafts scope.underwriting scope.legal = []

instance (scope : CheckerScope) (openGaps : List EvidenceGap) :
    Decidable (NothingFound scope openGaps) :=
  inferInstanceAs (Decidable (_ ∧ _ ∧ _ ∧ _))

theorem raiseAll_length (ids : Nat → Uuid) (first : Nat) (drafts : List ChallengeDraft) :
    Ensures (raiseAll ids first drafts) fun challenges => (challenges = [] ↔ drafts = []) := by
  intro challenges h
  have hlen := (Results.mapM_eq_ok.1 h).length_eq
  rw [List.length_zipIdx] at hlen
  rw [← List.length_eq_zero_iff, ← List.length_eq_zero_iff, hlen]

theorem allChallenges_eq_nil_iff {scope : CheckerScope} {openGaps : List EvidenceGap}
    {ids : Nat → Uuid} (h : scope.Computed openGaps ids) :
    scope.preAnalysis.allChallenges = [] ↔ NothingFound scope openGaps := by
  have hspec : Ensures (computeDeterministicPreAnalysis scope.underwriting scope.legal scope.view
      openGaps ids) fun pre => (pre.allChallenges = [] ↔ NothingFound scope openGaps) := by
    refine Ensures.bind (raiseAll_length _ _ _) fun visibility hvisibility => ?_
    refine Ensures.bind (raiseAll_length _ _ _) fun grounding hgrounding => ?_
    refine Ensures.bind (raiseAll_length _ _ _) fun assumptions hassumptions => ?_
    refine Ensures.bind (raiseAll_length _ _ _) fun confidence hconfidence => ?_
    apply Ensures.ok
    simp only [DeterministicPreAnalysis.allChallenges, List.append_eq_nil_iff, NothingFound, hvisibility,
      hgrounding, hassumptions, hconfidence, and_assoc]
  exact hspec _ h

/-- **When the provenance is right.** -/
theorem provenance_iff (str : JsonValue → String) (payload : Mapping) (scope : CheckerScope)
    (openGaps : List EvidenceGap) (preIds ids : Nat → Uuid) (run : CheckerRun) (now : Timestamp)
    (a : RiskReviewAssessment) (hscope : scope.Computed openGaps preIds)
    (hbuild : build str payload scope run ids now = .ok a) :
    ProvenanceRight scope a ↔ NothingFound scope openGaps := by
  have hcomposed := build_composed payload run ids now a hbuild
  have hplain := computeDeterministicPreAnalysis_plain _ _ _ _ _ _ hscope
  rw [← allChallenges_eq_nil_iff hscope]
  constructor
  · rintro ⟨_, -, htagged, -⟩
    apply List.eq_nil_iff_forall_not_mem.2
    intro challenge hmem
    -- the rule left the default, which names the model
    have hdefault := (hplain challenge hmem).raisedBy
    rw [htagged challenge hmem] at hdefault
    cases hdefault
  · intro hnone
    obtain ⟨llmChallenges, hchals, hadded⟩ := hcomposed.challenges
    have htags : ∀ challenge ∈ llmChallenges, challenge.raisedBy = .llm := fun challenge hmem =>
      (hadded challenge hmem).raisedBy
    refine ⟨llmChallenges, hchals, ?_, htags, ?_⟩
    · intro challenge hmem
      rw [hnone] at hmem
      cases hmem
    · rw [hnone, List.nil_append] at hchals
      rw [hnone, challengeRows, hchals, List.map_map, List.map_nil, List.nil_append]
      apply List.map_congr_left
      intro challenge hmem
      rw [Function.comp_apply, htags challenge hmem]
      rfl

/-! ## An execution of the checker -/

theorem fits_statement : 1 ≤ 1 ∧ 1 ≤ 4000 := by decide

theorem firstVersion_pos : 1 ≤ (1 : CaseVersion) := by decide

theorem namedRun : "p" ≠ "" ∧ "m" ≠ "" ∧ "e" ≠ "" := by decide

def oneText (low high : Nat) (h : low ≤ 1 ∧ 1 ≤ high) : SizedText low high :=
  ⟨"a", h.1, h.2⟩

/-- A finding of middling confidence with one citation. -/
def oneFinding {Citation : Type} (citation : Citation) : Finding Citation where
  statementVi := oneText 1 4000 fits_statement
  citations := ⟨[citation], List.cons_ne_nil _ _⟩
  confidence := .medium
  uncertaintyVi := oneText 0 2000 (by decide)

def oneSection {Citation : Type} (citation : Citation) : AssessmentSection Citation where
  findings := ⟨[oneFinding citation], List.cons_ne_nil _ _⟩

/-- A maker's assessment with one assumption, which cites the confirmed fact and is taken up by
nothing. -/
def sampleUnderwriting : Underwriting.UnderwritingAssessment where
  id := 9
  provenance := ⟨1, 1, 5, 4, "p", "m", "e", 0, 0, firstVersion_pos, namedRun⟩
  business := oneSection (.confirmedFact 7)
  financial := oneSection (.confirmedFact 7)
  cashFlow := oneSection (.confirmedFact 7)
  repaymentSource := ⟨(oneSection (.confirmedFact 7)).findings, []⟩
  proposedStructure := ⟨oneText 1 500 (by decide), none, none, (oneSection (.confirmedFact 7)).findings,
    by decide, by decide⟩
  risks := []
  mitigants := []
  assumptions := [⟨oneText 1 4000 fits_statement, oneText 1 4000 fits_statement, [.confirmedFact 7]⟩]
  evidenceGaps := []
  calculatorResults := []
  trendResults := []
  scenarioResults := []
  valid := by decide +kernel

def sampleLegal : Legal.LegalComplianceAssessment where
  id := 10
  provenance := ⟨1, 1, 6, 4, "p", "m", "e", 0, 0, firstVersion_pos, namedRun⟩
  legalEntityReview := oneSection (.confirmedFact 7)
  authoritySignatoryReview := oneSection (.confirmedFact 7)
  ownershipConsistency := ⟨(oneSection (.confirmedFact 7)).findings, []⟩
  policyReview := []
  controlledCheckInterpretations := []
  collateralReview := ⟨[], (oneSection (.confirmedFact 7)).findings⟩
  exceptions := []
  assumptions := []
  evidenceGaps := []
  policyHits := []
  policyCorpusRef := none
  controlledCheckResults := []
  valid := by decide +kernel

def sampleCheckerView : CheckerEvidenceView where
  caseId := 1
  caseVersion := 1
  builtAt := 0
  confirmedFacts := [sampleFact "financials.revenue" (.number 5)]

/-- The blind pass observed the one confirmed fact. -/
def sampleBlind : RiskPreAnalysis where
  independentRisks := []
  observations := [⟨⟨"a", by decide, by decide⟩, ⟨[7], by decide⟩, .low⟩]

/-- The pre-analysis of the two assessments; it finds the assumption. -/
def samplePre : DeterministicPreAnalysis :=
  (computeDeterministicPreAnalysis sampleUnderwriting sampleLegal sampleCheckerView []
    (20 + ·)).toOption.getD ⟨[], ⟨[], []⟩, [], [], []⟩

def sampleScope : CheckerScope where
  view := sampleCheckerView
  underwriting := sampleUnderwriting
  underwritingExecutionId := 5
  legal := sampleLegal
  legalExecutionId := 6
  preAnalysis := samplePre
  targets := buildTargetUniverse sampleUnderwriting sampleLegal
  policyHits := []
  controlledCheckResults := []
  blindPreAnalysis := some sampleBlind

theorem sampleScope_computed : sampleScope.Computed [] (20 + ·) := by
  have hsome : (computeDeterministicPreAnalysis sampleUnderwriting sampleLegal sampleCheckerView []
      (20 + ·)).toOption.isSome = true := by
    decide +kernel
  obtain ⟨_, hpre⟩ := Option.isSome_iff_exists.1 hsome
  simp only [CheckerScope.Computed, sampleScope, samplePre, hpre, Option.getD_some]
  exact Results.toOption_eq_some.1 hpre

/-- One challenge of a finding of the maker, citing the confirmed fact. -/
def samplePayload : Mapping :=
  [("challenges", .array [.object [("target", .object [("maker_source", .string "CREDIT_UNDERWRITING"),
      ("maker_assessment_id", .string "00000000-0000-0000-0000-000000000009"),
      ("section_path", .string "business.findings[0]")]),
    ("challenge_type", .string "OMITTED_RISK"), ("statement_vi", .string "b"),
    ("citations", .array [citedFact]), ("severity", .string "LOW"),
    ("confidence", .string "LOW")]])]

def sampleRun : CheckerRun := ⟨4, 8, "m", "e"⟩

theorem sample_built : ∃ a, build noTexts samplePayload sampleScope sampleRun (30 + ·) 0 = .ok a := by
  have hsome : (build noTexts samplePayload sampleScope sampleRun (30 + ·) 0).toOption.isSome = true := by
    decide +kernel
  obtain ⟨a, ha⟩ := Option.isSome_iff_exists.1 hsome
  exact ⟨a, Results.toOption_eq_some.1 ha⟩

theorem checker_faithful_sample : ∃ a,
    build noTexts samplePayload sampleScope sampleRun (30 + ·) 0 = .ok a ∧ Faithful sampleScope a := by
  obtain ⟨a, ha⟩ := sample_built
  exact ⟨a, ha, checker_faithful _ _ _ _ _ _ _ _ a sampleScope_computed ha⟩

theorem provenance_iff_sample : ∃ a,
    build noTexts samplePayload sampleScope sampleRun (30 + ·) 0 = .ok a ∧
      (ProvenanceRight sampleScope a ↔ NothingFound sampleScope []) := by
  obtain ⟨a, ha⟩ := sample_built
  exact ⟨a, ha, provenance_iff _ _ _ _ _ _ _ _ a sampleScope_computed ha⟩

/-- A challenge the pre-analysis raised is stored as the model's. -/
theorem deterministic_challenge_tagged_llm : ∃ a,
    build noTexts samplePayload sampleScope sampleRun (30 + ·) 0 = .ok a ∧
      ∃ challenge ∈ sampleScope.preAnalysis.allChallenges, challenge ∈ a.challenges ∧
        challenge.raisedBy = .llm := by
  obtain ⟨a, ha⟩ := sample_built
  have hplain := computeDeterministicPreAnalysis_plain _ _ _ _ _ _ sampleScope_computed
  obtain ⟨_, hchals, -⟩ := (build_composed _ _ _ _ a ha).challenges
  have hne : sampleScope.preAnalysis.allChallenges ≠ [] := by
    intro hnone
    have hfound := (allChallenges_eq_nil_iff sampleScope_computed).1 hnone
    exact absurd hfound.2.2.1 (by decide +kernel)
  obtain ⟨challenge, hmem⟩ := List.exists_mem_of_ne_nil _ hne
  refine ⟨a, ha, challenge, hmem, ?_, (hplain challenge hmem).raisedBy⟩
  rw [hchals]
  exact List.mem_append_left _ hmem

end CreditOps.Assessments.RiskReview
