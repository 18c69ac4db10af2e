import CreditOps.Assessments.MemoNarrative

/-!
# The number of citations in a provenance index

The index adds up the lengths of the citation lists of every section. What it reports as the number of
distinct citations counts a repeated citation again, and passes over what only an assumption cites
(`countsDistinct_iff`).
-/

set_option autoImplicit false

namespace CreditOps.Assessments.CreditMemo

open Orchestration CreditOperations

/-! ## Repetitions -/

/-- How many members of a list stand in it again further on. -/
def repetitions {α : Type} [DecidableEq α] : List α → Nat
  | [] => 0
  | a :: l => (if a ∈ l then 1 else 0) + repetitions l

theorem repetitions_add_card {α : Type} [DecidableEq α] (l : List α) :
    repetitions l + l.toFinset.card = l.length := by
  induction l with
  | nil => rfl
  | cons a l =>
    rw [repetitions, List.toFinset_cons, List.length_cons]
    by_cases ha : a ∈ l
    · rw [if_pos ha, Finset.insert_eq_of_mem (List.mem_toFinset.2 ha)]
      omega
    · rw [if_neg ha, Finset.card_insert_of_notMem (mt List.mem_toFinset.1 ha)]
      omega

/-! ## The citations of a view -/

/-- A maker's citation as one of the checker's, which have every kind. -/
def citationOfMaker : Underwriting.EvidenceCitation → RiskReview.EvidenceCitation
  | .confirmedFact id => .confirmedFact id
  | .calculatorResult resultId nonempty => .calculatorResult resultId nonempty
  | .documentRegion documentVersionId region => .documentRegion documentVersionId region

/-- A legal reviewer's citation as one of the checker's. -/
def citationOfReviewer : Legal.EvidenceCitation → RiskReview.EvidenceCitation
  | .confirmedFact id => .confirmedFact id
  | .documentRegion documentVersionId region => .documentRegion documentVersionId region
  | .policy citation => .policy citation
  | .controlledCheck invocationId => .controlledCheck invocationId

/-- The citations of a legal assessment outside of its assumptions. -/
def reviewedCitations (a : Legal.AssessmentFields) : List Legal.EvidenceCitation :=
  a.iterFindings.flatMap (·.citations.1) ++ a.policyReview.flatMap (·.citations.1.map .policy) ++
    a.collateralReview.documentItems.flatMap (·.citations.1) ++
    a.ownershipConsistency.inconsistencies.flatMap (·.citations) ++ a.exceptions.flatMap (·.citations.1)

namespace UpstreamView

variable (view : UpstreamView)

/-- Every citation of the assessments that are there. -/
def citations : List RiskReview.EvidenceCitation :=
  view.underwriting.toList.flatMap (·.citations.map citationOfMaker) ++
    view.legal.toList.flatMap (·.iterAllCitations.map citationOfReviewer) ++
    view.riskReview.toList.flatMap (·.iterAllCitations)

/-- The citations of the sections, each as often as it stands there. -/
def sectionCitations : List RiskReview.EvidenceCitation :=
  view.underwriting.toList.flatMap (·.checkedCitations.map citationOfMaker) ++
    view.legal.toList.flatMap (reviewedCitations ·.toAssessmentFields |>.map citationOfReviewer) ++
    view.riskReview.toList.flatMap (·.iterAllCitations)

/-- The bases of the assumptions. -/
def assumptionCitations : List RiskReview.EvidenceCitation :=
  view.underwriting.toList.flatMap
      (·.assumptions.flatMap (·.basisCitations) |>.map citationOfMaker) ++
    view.legal.toList.flatMap (·.assumptions.flatMap (·.basisCitations) |>.map citationOfReviewer)

/-- The artifact is there to be indexed. -/
def hasArtifact : UpstreamArtifactKind → Bool
  | .intakeHandoff => view.hasIntakeHandoff && view.intakeHandoffId.isSome
  | .underwritingAssessment => view.underwriting.isSome
  | .legalAssessment => view.legal.isSome
  | .riskReviewAssessment => view.riskReview.isSome

/-- The index has one entry for each artifact that is there, and reports as many distinct citations as
occur. -/
def CountsDistinct : Prop :=
  (consolidateEvidence view).distinctCitationCount = view.citations.toFinset.card ∧
    (consolidateEvidence view).entries.map (·.artifact) =
      [.intakeHandoff, .underwritingAssessment, .legalAssessment, .riskReviewAssessment].filter
        view.hasArtifact

end UpstreamView

/-! ## What the counts add up to -/

theorem countCitations_eq {α Citation : Type} (citations : α → List Citation) (items : List α) :
    countCitations citations items = (items.flatMap citations).length :=
  List.length_flatMap.symm

theorem countUnderwritingCitations_eq (a : Underwriting.UnderwritingAssessment) :
    countUnderwritingCitations a = a.checkedCitations.length := by
  simp only [countUnderwritingCitations, countCitations_eq, Underwriting.AssessmentFields.checkedCitations,
    Underwriting.AssessmentFields.iterFindings, List.flatMap_append, List.length_append]

theorem countLegalCitations_eq (a : Legal.LegalComplianceAssessment) :
    countLegalCitations a = (reviewedCitations a.toAssessmentFields).length := by
  simp only [countLegalCitations, countCitations_eq, reviewedCitations,
    Legal.AssessmentFields.iterFindings, List.flatMap_append, List.length_append, List.length_flatMap,
    List.length_map]
  omega

theorem countRiskReviewCitations_eq (a : RiskReview.RiskReviewAssessment) :
    countRiskReviewCitations a = a.iterAllCitations.length := by
  simp only [countRiskReviewCitations, countCitations_eq, RiskReview.AssessmentFields.iterAllCitations,
    List.length_append]

variable {view : UpstreamView}

/-- The reported number is that of the sections' citations, with repetitions. -/
theorem distinctCitationCount_eq :
    (consolidateEvidence view).distinctCitationCount = view.sectionCitations.length := by
  have hintake : ((view.intakeEntry.toList).map (·.citationCount)).sum = 0 := by
    unfold UpstreamView.intakeEntry
    cases view.hasIntakeHandoff <;> cases view.intakeHandoffId <;> rfl
  have hmaker : ((view.underwritingEntry.toList).map (·.citationCount)).sum =
      (view.underwriting.toList.flatMap (·.checkedCitations.map citationOfMaker)).length := by
    unfold UpstreamView.underwritingEntry
    cases view.underwriting <;> simp [countUnderwritingCitations_eq]
  have hreviewer : ((view.legalEntry.toList).map (·.citationCount)).sum =
      (view.legal.toList.flatMap
        (reviewedCitations ·.toAssessmentFields |>.map citationOfReviewer)).length := by
    unfold UpstreamView.legalEntry
    cases view.legal <;> simp [countLegalCitations_eq]
  have hchecker : ((view.riskReviewEntry.toList).map (·.citationCount)).sum =
      (view.riskReview.toList.flatMap (·.iterAllCitations)).length := by
    unfold UpstreamView.riskReviewEntry
    cases view.riskReview <;> simp [countRiskReviewCitations_eq]
  change (view.entries.map (·.citationCount)).sum = _
  simp only [UpstreamView.entries, List.map_append, List.sum_append, hintake, hmaker, hreviewer,
    hchecker, UpstreamView.sectionCitations, List.length_append, Nat.zero_add]

theorem entries_artifacts :
    (consolidateEvidence view).entries.map (·.artifact) =
      [.intakeHandoff, .underwritingAssessment, .legalAssessment, .riskReviewAssessment].filter
        view.hasArtifact := by
  obtain ⟨-, -, -, hasIntakeHandoff, intakeHandoffId, underwriting, -, -, legal, -, -, riskReview, -, -⟩ := view
  cases hasIntakeHandoff <;> cases intakeHandoffId <;> cases underwriting <;> cases legal <;>
    cases riskReview <;> rfl

/-- The citations are those of the sections and the bases of the assumptions. -/
theorem toFinset_citations :
    view.citations.toFinset = view.sectionCitations.toFinset ∪ view.assumptionCitations.toFinset := by
  ext citation
  simp only [UpstreamView.citations, UpstreamView.sectionCitations, UpstreamView.assumptionCitations,
    Underwriting.AssessmentFields.citations, Legal.AssessmentFields.iterAllCitations, reviewedCitations,
    Finset.mem_union, List.mem_toFinset, List.mem_append, List.mem_flatMap, List.map_append]
  grind

/-- **When the index counts distinct citations.** Exactly when as many section citations are repetitions
as there are citations that only assumptions have. -/
theorem countsDistinct_iff (view : UpstreamView) :
    view.CountsDistinct ↔ repetitions view.sectionCitations =
      (view.assumptionCitations.toFinset \ view.sectionCitations.toFinset).card := by
  have hlen := repetitions_add_card view.sectionCitations
  have hunion := Finset.card_sdiff_add_card view.assumptionCitations.toFinset
    view.sectionCitations.toFinset
  rw [Finset.union_comm, ← toFinset_citations] at hunion
  rw [UpstreamView.CountsDistinct, and_iff_left entries_artifacts, distinctCitationCount_eq]
  omega

/-- Nine findings cite one fact. -/
theorem sampleView_counts_again : ¬ ∀ view : UpstreamView, view.CountsDistinct := by
  intro h
  have hone := (h sampleView).1
  revert hone
  decide +kernel

end CreditOps.Assessments.CreditMemo
