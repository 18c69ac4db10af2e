import CreditOps.Assessments.CheckerPromises
import CreditOps.Assessments.CreditMemo

/-!
# The narrative of the credit memo

A package is drafted in three steps: what comes before inference, the memo from the payload, and the
assembly. Two payloads give packages that differ in their statements and in nothing else
(`memo_narrative_only`).
-/

set_option autoImplicit false

namespace CreditOps.Assessments.CreditMemo

open JsonValue Orchestration CreditOperations

/-! ## Two payloads -/

/-- A package without the statements of its memo. -/
structure Skeleton where
  package : CreditOpsPackage
  provenance : CreditOpsProvenance
  evidenceConsolidation : EvidenceConsolidation
  dispositionStatusVi : String

def Package.skeleton (package : Package) : Skeleton where
  package := package.toCreditOpsPackage
  provenance := package.provenance
  evidenceConsolidation := package.evidenceConsolidation
  dispositionStatusVi := package.draftMemo.thachThucChecker.dispositionStatusVi.text

/-- Everything but the statements is what was computed beforehand. -/
structure Package.Deterministic (deterministic : DeterministicPackage) (package : Package) :
    Prop where
  packageCompleteness : package.packageCompleteness = deterministic.packageCompleteness
  evidenceConsolidation : package.evidenceConsolidation = deterministic.evidenceConsolidation
  documentRequests : package.documentRequests = deterministic.documentRequests
  proposedActions : package.proposedActions = deterministic.proposedActions
  dispositionStatusVi : package.draftMemo.thachThucChecker.dispositionStatusVi.text =
    deterministic.packageCompleteness.dispositionsStateVi

section Assembly

variable {view : UpstreamView} {deterministic : DeterministicPackage} {run : AssemblerRun}
  {now : Timestamp} {packageId : Uuid}

variable {memo : DraftCreditMemo} {package : Package}

/-- **What an assembled package consists of**: the parts that do not depend on the memo, and the
memo. -/
theorem assemble_eq_ok (h : assemble view deterministic memo run now packageId = .ok package) :
    makeProvenance view run now = .ok package.provenance ∧
      assemblePackage view.summary deterministic.toDeterministicCreditOpsPackage run.taskId packageId =
        some package.toCreditOpsPackage ∧
      package.evidenceConsolidation = deterministic.evidenceConsolidation ∧
      package.draftMemo = memo := by
  obtain ⟨_, hprovenance, hrest⟩ := Results.bind_eq_ok.1 h
  split at hrest
  · cases hrest
  next base hbase =>
  split at hrest
  · cases hrest
    exact ⟨hprovenance, hbase, rfl, rfl⟩
  · cases hrest

theorem assemblePackage_parts {summary : CreditOpsUpstreamView}
    {parts : DeterministicCreditOpsPackage} {taskId : Uuid} {package : CreditOpsPackage}
    (h : assemblePackage summary parts taskId packageId = some package) :
    package.packageCompleteness = parts.packageCompleteness ∧
      package.documentRequests = parts.documentRequests ∧
      package.proposedActions = parts.proposedActions := by
  rw [assemblePackage] at h
  split at h
  · cases h
    exact ⟨rfl, rfl, rfl⟩
  · cases h

theorem assemble_deterministic (h : assemble view deterministic memo run now packageId = .ok package)
    (hstat : memo.thachThucChecker.dispositionStatusVi.text = deterministic.packageCompleteness.dispositionsStateVi) :
    package.Deterministic deterministic := by
  obtain ⟨-, hbase, hconsolidation, hmemo⟩ := assemble_eq_ok h
  obtain ⟨hcompleteness, hreqs, hactions⟩ := assemblePackage_parts hbase
  refine ⟨hcompleteness, hconsolidation, hreqs, hactions, ?_⟩
  rw [hmemo]
  exact hstat

theorem assemble_skeleton {memo' : DraftCreditMemo} {package' : Package}
    (h : assemble view deterministic memo run now packageId = .ok package)
    (h' : assemble view deterministic memo' run now packageId = .ok package')
    (hstat : memo.thachThucChecker.dispositionStatusVi.text = memo'.thachThucChecker.dispositionStatusVi.text) :
    package.skeleton = package'.skeleton := by
  obtain ⟨hprovenance, hbase, hconsolidation, hmemo⟩ := assemble_eq_ok h
  obtain ⟨hprovenance', hbase', hconsolidation', hmemo'⟩ := assemble_eq_ok h'
  rw [hprovenance] at hprovenance'
  rw [hbase] at hbase'
  rw [Package.skeleton, Package.skeleton, Except.ok.inj hprovenance', Option.some.inj hbase',
    hconsolidation, hconsolidation', hmemo, hmemo', hstat]

end Assembly

/-- The drafting of a package from a payload: the parts that come first, the memo, and the assembly. -/
def draft (str : JsonValue → String) (view : UpstreamView) (openGaps : List EvidenceGap)
    (dispositions : List ChallengeDispositionSummary) (draw : Nat → Uuid) (run : AssemblerRun)
    (now : Timestamp) (packageId : Uuid) (payload : Mapping) : Except BuildFault Package := do
  let deterministic ← validated "DeterministicCreditOpsPackage" ""
    (computePackage view openGaps dispositions draw)
  let targets ← validated "MemoTargetUniverse" "" (targetUniverseFor view)
  let memo ← build str payload targets deterministic.packageCompleteness.dispositionsStateVi
  assemble view deterministic memo run now packageId

/-- The steps of a drafting that succeeds. -/
theorem draft_eq_ok {str : JsonValue → String} {view : UpstreamView} {openGaps : List EvidenceGap}
    {dispositions : List ChallengeDispositionSummary} {draw : Nat → Uuid} {run : AssemblerRun}
    {now : Timestamp} {packageId : Uuid} {payload : Mapping} {package : Package}
    (h : draft str view openGaps dispositions draw run now packageId payload = .ok package) :
    ∃ deterministic targets memo, computePackage view openGaps dispositions draw = some deterministic ∧
      targetUniverseFor view = some targets ∧
      build str payload targets deterministic.packageCompleteness.dispositionsStateVi = .ok memo ∧
      assemble view deterministic memo run now packageId = .ok package := by
  obtain ⟨deterministic, hdet, h⟩ := Results.bind_eq_ok.1 h
  obtain ⟨targets, htargets, h⟩ := Results.bind_eq_ok.1 h
  obtain ⟨memo, hbuild, hassemble⟩ := Results.bind_eq_ok.1 h
  exact ⟨deterministic, targets, memo, validated_eq_ok hdet, validated_eq_ok htargets, hbuild,
    hassemble⟩

/-- **The model writes the narrative and nothing else.** -/
theorem memo_narrative_only (str : JsonValue → String) (view : UpstreamView)
    (openGaps : List EvidenceGap) (dispositions : List ChallengeDispositionSummary)
    (draw : Nat → Uuid) (run : AssemblerRun) (now : Timestamp) (packageId : Uuid)
    (payload payload' : Mapping) (package package' : Package)
    (h : draft str view openGaps dispositions draw run now packageId payload = .ok package)
    (h' : draft str view openGaps dispositions draw run now packageId payload' = .ok package') :
    package.skeleton = package'.skeleton ∧
      ∃ deterministic targets, computePackage view openGaps dispositions draw = some deterministic ∧
        targetUniverseFor view = some targets ∧
        (package.Deterministic deterministic ∧ package'.Deterministic deterministic) ∧
        (∀ statement ∈ package.draftMemo.statements, statement.Grounded targets) ∧
        ∀ statement ∈ package'.draftMemo.statements, statement.Grounded targets := by
  obtain ⟨deterministic, targets, memo, hdet, htargets, hbuild, hassemble⟩ := draft_eq_ok h
  obtain ⟨_, _, memo', hsame, hsameTargets, hbuild', hassemble'⟩ := draft_eq_ok h'
  -- both runs start from one package and one universe
  cases Option.some.inj (hdet.symm.trans hsame)
  cases Option.some.inj (htargets.symm.trans hsameTargets)
  have hdrafted := build_cites payload _ memo hbuild
  have hdrafted' := build_cites payload' _ memo' hbuild'
  refine ⟨?_, deterministic, targets, hdet, htargets, ⟨?_, ?_⟩, ?_, ?_⟩
  · apply assemble_skeleton hassemble hassemble'
    rw [hdrafted.dispositionStatusVi, hdrafted'.dispositionStatusVi]
  · exact assemble_deterministic hassemble hdrafted.dispositionStatusVi
  · exact assemble_deterministic hassemble' hdrafted'.dispositionStatusVi
  · rw [(assemble_eq_ok hassemble).2.2.2]
    exact hdrafted.statements
  · rw [(assemble_eq_ok hassemble').2.2.2]
    exact hdrafted'.statements

/-! ## Two runs of the agent -/

/-- A review of the sample assessments without challenges. -/
def sampleReview : RiskReview.RiskReviewAssessment where
  id := 11
  provenance := ⟨1, 1, 8, 4, "p", "m", "e", 0, 0,
    [⟨.creditUnderwriting, 9, 5⟩, ⟨.legalComplianceCollateral, 10, 6⟩], RiskReview.firstVersion_pos, RiskReview.namedRun, by decide⟩
  challenges := []
  omittedRisks := []
  mitigantAdequacyReviews := []
  visibilityChecks := ⟨[], []⟩
  recommendations := []
  evidenceGaps := []
  valid := by decide +kernel

def sampleView : UpstreamView where
  caseId := 1
  caseVersion := 1
  builtAt := 0
  hasIntakeHandoff := true
  intakeHandoffId := some 12
  underwriting := some RiskReview.sampleUnderwriting
  underwritingExecutionId := some 5
  underwritingHandoffId := none
  legal := some RiskReview.sampleLegal
  legalExecutionId := some 6
  legalHandoffId := none
  riskReview := some sampleReview
  riskReviewExecutionId := some 8
  riskReviewHandoffId := none

/-- Six sections of one statement, which cites a finding of the maker. -/
def samplePayload (statement : String) : Mapping :=
  ["tom_tat_nhu_cau", "phan_tich_maker", "ra_soat_phap_ly_tsbd", "dieu_kien_de_xuat",
    "phu_luc_bang_chung", "thach_thuc_checker"].map fun key =>
      (key, .object [("statements", .array [.object [("statement_vi", .string statement),
        ("citations", .array [.object [("kind", .string "MEMO_FINDING"),
          ("ref", .object [("source", .string "CREDIT_UNDERWRITING"),
            ("source_assessment_id", .string "00000000-0000-0000-0000-000000000009"),
            ("section_path", .string "business.findings[0]")])]])]])])

def sampleRun : AssemblerRun := ⟨4, 13, "m", "e"⟩

theorem sample_drafted : ∀ statement ∈ ["a", "b"], ∃ package,
    draft noTexts sampleView [] [] (20 + ·) sampleRun 0 14 (samplePayload statement) = .ok package := by
  have hsome : ∀ statement ∈ ["a", "b"], (draft noTexts sampleView [] [] (20 + ·) sampleRun 0 14
      (samplePayload statement)).toOption.isSome = true := by
    decide +kernel
  intro statement hmem
  obtain ⟨package, hpkg⟩ := Option.isSome_iff_exists.1 (hsome statement hmem)
  exact ⟨package, Results.toOption_eq_some.1 hpkg⟩

theorem memo_narrative_only_sample : ∃ package package',
    draft noTexts sampleView [] [] (20 + ·) sampleRun 0 14 (samplePayload "a") = .ok package ∧
      draft noTexts sampleView [] [] (20 + ·) sampleRun 0 14 (samplePayload "b") = .ok package' ∧
      package.skeleton = package'.skeleton := by
  obtain ⟨package, hpkg⟩ := sample_drafted "a" (by decide)
  obtain ⟨package', hpkg'⟩ := sample_drafted "b" (by decide)
  exact ⟨package, package', hpkg, hpkg',
    (memo_narrative_only _ _ _ _ _ _ _ _ _ _ package package' hpkg hpkg').1⟩

end CreditOps.Assessments.CreditMemo
