import CreditOps.Assessments.PreAnalysisCoverage
import CreditOps.CreditOperations.Package
import CreditOps.GapRequests.Domain

/-!
# The room for derived texts

Three generators wrap a persisted text in a text of their own: the batch of gap requests, the package of
credit operations, and the checker's pre-analysis. A wrapped text is longer than what it wraps, and the
model it is placed in has a bound of its own, the same as the bound of what is wrapped. The generators
return exactly when every wrapped text leaves room for what is put around it (`drafting_returns_iff`).
-/

set_option autoImplicit false

namespace CreditOps.Assessments.Drafting

open Evidence Orchestration GapRequests CreditOperations Assessments.RiskReview

/-! ## Gaps -/

/-- A set of open gaps as the gap model admits it. -/
structure OpenGapSet where
  rows : List EvidenceGap
  ids_nodup : (rows.map (·.id)).Nodup
  allOpen : ∀ row ∈ rows, row.status.isOpen = true
  texts_fit : ∀ row ∈ rows, FitsText row.missingInformationVi

/-- The length of the request for a gap: its text, the suggested evidence, and what is put around
them. -/
def requestLength (row : EvidenceGap) : Nat :=
  45 + row.missingInformationVi.length +
    if row.suggestedEvidenceVi = [] then 0
    else 18 + ("; ".intercalate row.suggestedEvidenceVi).length

theorem length_requestText (row : EvidenceGap) : (requestText row).length = requestLength row := by
  have hopen : "Đề nghị khách hàng/đơn vị liên quan bổ sung: ".length = 45 := by decide
  have hevid : " Tài liệu gợi ý: ".length = 17 := by decide
  have hclose : ".".length = 1 := rfl
  simp only [requestText, requestLength]
  split
  · rw [String.length_append, hopen]
    omega
  · simp only [String.length_append]
    omega

/-! ## The batch of gap requests -/

section Batch

variable (gaps : OpenGapSet) {ids : Nat → Uuid}

/-- The uuids drawn for the requests. -/
def drawn (ids : Nat → Uuid) (n : Nat) : List Uuid :=
  (List.range n).map ids

theorem drawn_nodup (hids : Function.Injective ids) (n : Nat) : (drawn ids n).Nodup :=
  List.nodup_range.map hids

theorem length_drawn (n : Nat) : (drawn ids n).length = n := by
  rw [drawn, List.length_map, List.length_range]

theorem orderedGaps_perm (rows : List EvidenceGap) : (orderedGaps rows).Perm rows :=
  List.perm_insertionSort _ _

theorem draftItems_ids (rows : List EvidenceGap) :
    (draftItems rows (drawn ids rows.length)).map (·.id) = drawn ids rows.length := by
  have hlen : (drawn ids rows.length).length ≤ (orderedGaps rows).length := by
    rw [length_drawn, (orderedGaps_perm rows).length_eq]
  rw [draftItems, List.map_map]
  exact List.map_fst_zip hlen

theorem draftItems_gaps {β : Type} (rows : List EvidenceGap) (f : EvidenceGap → β)
    (g : GapRequestItem → β) (hfg : ∀ id row, g ⟨id, row.id, requestText row, row.blockingLevel⟩ = f row) :
    (draftItems rows (drawn ids rows.length)).map g = (orderedGaps rows).map f := by
  have hlen : (orderedGaps rows).length ≤ (drawn ids rows.length).length := by
    rw [length_drawn, (orderedGaps_perm rows).length_eq]
  rw [draftItems, List.map_map]
  calc ((drawn ids rows.length).zip (orderedGaps rows)).map _
      = (((drawn ids rows.length).zip (orderedGaps rows)).map Prod.snd).map f := by
        rw [List.map_map]
        apply List.map_congr_left
        intro p _
        exact hfg p.1 p.2
    _ = (orderedGaps rows).map f := by rw [List.map_snd_zip hlen]

/-- **The batch is assembled exactly when every request fits.** -/
theorem exists_batch_iff (hids : Function.Injective ids) (caseVersion : CaseVersion) (batchId : Uuid) :
    (∃ batch, assembleGapRequestBatch gaps.rows caseVersion (drawn ids gaps.rows.length) batchId =
      some batch) ↔ ∀ row ∈ gaps.rows, requestLength row ≤ 2000 := by
  have hidsNodup : ((draftItems gaps.rows (drawn ids gaps.rows.length)).map (·.id)).Nodup := by
    rw [draftItems_ids]
    exact drawn_nodup hids _
  have hgapsNodup : ((draftItems gaps.rows (drawn ids gaps.rows.length)).map (·.gapId)).Nodup := by
    rw [draftItems_gaps gaps.rows (·.id) _ fun _ _ => rfl]
    exact ((orderedGaps_perm gaps.rows).map _).nodup_iff.2 gaps.ids_nodup
  have htexts : (∀ item ∈ draftItems gaps.rows (drawn ids gaps.rows.length),
      FitsText item.requestTextVi) ↔ ∀ row ∈ gaps.rows, requestLength row ≤ 2000 := by
    have hmap : (draftItems gaps.rows (drawn ids gaps.rows.length)).map (·.requestTextVi) =
        (orderedGaps gaps.rows).map requestText :=
      draftItems_gaps gaps.rows requestText (·.requestTextVi) fun _ _ => rfl
    rw [← List.forall_mem_map (P := FitsText), hmap, List.forall_mem_map]
    constructor
    · intro h row hrow
      rw [← length_requestText]
      exact (h row ((orderedGaps_perm gaps.rows).mem_iff.2 hrow)).2
    · intro h row hrow
      have hfits := h row ((orderedGaps_perm gaps.rows).mem_iff.1 hrow)
      rw [← length_requestText] at hfits
      refine ⟨?_, hfits⟩
      rw [length_requestText, requestLength]
      omega
  rw [← htexts, assembleGapRequestBatch]
  constructor
  · rintro ⟨_, h⟩
    split at h
    · next hvalid => exact hvalid.1
    · cases h
  · intro h
    rw [dif_pos ⟨h, hidsNodup, hgapsNodup⟩]
    exact ⟨_, rfl⟩

end Batch

/-! ## The package of credit operations -/

/-- The length of the description of the action that prepares the request for a gap. -/
def actionLength (row : EvidenceGap) : Nat :=
  125 + row.missingInformationVi.length

variable {id : Uuid}

theorem exists_proposedAction_iff {actionType : ProposedActionType} {descriptionVi : String}
    {relatedDocumentRequestId : Option Uuid} :
    (∃ action, proposedAction? id actionType descriptionVi relatedDocumentRequestId = some action) ↔
      FitsText descriptionVi := by
  rw [proposedAction?]
  split
  · next h => exact iff_of_true ⟨_, rfl⟩ h
  · next h =>
    refine iff_of_false ?_ h
    rintro ⟨_, ⟨⟩⟩

theorem exists_losEntryAction (id : Uuid) : ∃ action, losEntryAction? id = some action :=
  exists_proposedAction_iff.2 (by decide)

theorem exists_handoffAction (id : Uuid) : ∃ action, handoffAction? id = some action :=
  exists_proposedAction_iff.2 (by decide)

theorem exists_proposedActions_iff {requests : List DocumentRequest} {packageComplete : Bool}
    {draw : Nat → Uuid} :
    (∃ actions, buildProposedActions requests packageComplete draw = some actions) ↔
      ∀ request ∈ requests, 80 + request.requestTextVi.length ≤ 2000 := by
  have hprepared : (∃ prepared, requests.zipIdx.mapM (fun p => prepareAction? (draw p.2) p.1) =
      some prepared) ↔ ∀ request ∈ requests, 80 + request.requestTextVi.length ≤ 2000 := by
    have hlen : ("Chuan bi yeu cau bo sung tai lieu (chi soan thao, cho phe duyet cua con nguoi): "
        ).length = 80 := by decide
    have hone : ∀ (request : DocumentRequest) (id : Uuid),
        (∃ action, prepareAction? id request = some action) ↔
          80 + request.requestTextVi.length ≤ 2000 := by
      intro request id
      rw [prepareAction?, exists_proposedAction_iff, FitsText, String.length_append, hlen]
      omega
    rw [Results.exists_mapM_eq_some]
    constructor
    · intro h request hreq
      rw [← List.zipIdx_map_fst 0 requests] at hreq
      obtain ⟨p, hp, rfl⟩ := List.mem_map.1 hreq
      exact (hone p.1 _).1 (h p hp)
    · intro h p hp
      exact (hone p.1 _).2 (h p.1 (List.fst_mem_of_mem_zipIdx hp))
  rw [← hprepared]
  constructor
  · rintro ⟨_, h⟩
    obtain ⟨prepared, h, -⟩ := Option.bind_eq_some_iff.1 h
    exact ⟨prepared, h⟩
  · rintro ⟨prepared, h⟩
    -- the other actions have fixed texts
    obtain ⟨entry, hentry⟩ := exists_losEntryAction (draw requests.length)
    obtain ⟨last, hlast⟩ := exists_handoffAction (draw (requests.length + 1))
    obtain ⟨handoff, hhandoff⟩ := exists_handoffAction (draw requests.length)
    cases packageComplete with
    | true =>
      refine ⟨prepared ++ [entry, last], Option.bind_eq_some_iff.2 ⟨prepared, h, ?_⟩⟩
      rw [if_pos rfl]
      refine Option.bind_eq_some_iff.2 ⟨entry, hentry, ?_⟩
      exact Option.bind_eq_some_iff.2 ⟨last, hlast, rfl⟩
    | false =>
      refine ⟨prepared ++ [handoff], Option.bind_eq_some_iff.2 ⟨prepared, h, ?_⟩⟩
      rw [if_neg Bool.false_ne_true]
      exact Option.bind_eq_some_iff.2 ⟨handoff, hhandoff, rfl⟩

variable {row : EvidenceGap}

theorem length_documentRequest_text {request : DocumentRequest}
    (h : documentRequest? row id = some request) :
    request.requestTextVi.length = 45 + row.missingInformationVi.length := by
  have hlen : "De nghi khach hang/don vi lien quan bo sung: ".length = 45 := by decide
  simp only [documentRequest?] at h
  split at h
  · cases h
    rw [String.length_append, hlen]
  · cases h

theorem exists_documentRequest_iff :
    (∃ request, documentRequest? row id = some request) ↔
      45 + row.missingInformationVi.length ≤ 2000 := by
  have hlen : "De nghi khach hang/don vi lien quan bo sung: ".length = 45 := by decide
  have hfits : FitsText ("De nghi khach hang/don vi lien quan bo sung: " ++ row.missingInformationVi) ↔
      45 + row.missingInformationVi.length ≤ 2000 := by
    rw [FitsText, String.length_append, hlen]
    omega
  rw [← hfits]
  simp only [documentRequest?]
  split
  · next h => exact iff_of_true ⟨_, rfl⟩ h
  · next h =>
    refine iff_of_false ?_ h
    rintro ⟨_, ⟨⟩⟩

/-- **The requests and the actions are drafted exactly when every description fits.** -/
theorem exists_package_iff (gaps : OpenGapSet) (view : CreditOpsUpstreamView)
    (dispositions : List ChallengeDispositionSummary) (draw : Nat → Uuid) :
    (∃ package, computeDeterministicPackage view gaps.rows dispositions draw = some package) ↔
      ∀ row ∈ gaps.rows, actionLength row ≤ 2000 := by
  have hopen : gaps.rows.filter (·.status.isOpen) = gaps.rows := List.filter_eq_self.2 gaps.allOpen
  constructor
  · rintro ⟨_, h⟩ _ hrow
    obtain ⟨_, hreqs, hrest⟩ := Option.bind_eq_some_iff.1 h
    obtain ⟨actions, hactions, -⟩ := Option.bind_eq_some_iff.1 hrest
    rw [consolidateDocumentRequests, hopen] at hreqs
    rw [← List.zipIdx_map_fst 0 gaps.rows] at hrow
    obtain ⟨p, hp, rfl⟩ := List.mem_map.1 hrow
    obtain ⟨request, hreq, hone⟩ :=
      Results.exists_right_of_mem (Results.mapM_eq_some.1 hreqs) hp
    have hfits := exists_proposedActions_iff.1 ⟨actions, hactions⟩ request hreq
    rw [length_documentRequest_text hone] at hfits
    rw [actionLength]
    omega
  · intro h
    have hreqs : ∃ requests, consolidateDocumentRequests gaps.rows draw = some requests := by
      rw [consolidateDocumentRequests, hopen, Results.exists_mapM_eq_some]
      intro p hp
      have hfits := h p.1 (List.fst_mem_of_mem_zipIdx hp)
      rw [actionLength] at hfits
      exact exists_documentRequest_iff.2 (by omega)
    obtain ⟨requests, hreqs⟩ := hreqs
    have hactions : ∀ request ∈ requests, 80 + request.requestTextVi.length ≤ 2000 := by
      intro request hreq
      have hreqs' := hreqs
      rw [consolidateDocumentRequests, hopen] at hreqs'
      obtain ⟨p, hp, hone⟩ :=
        Results.exists_left_of_mem (Results.mapM_eq_some.1 hreqs') hreq
      have hfits := h p.1 (List.fst_mem_of_mem_zipIdx hp)
      rw [length_documentRequest_text hone]
      rw [actionLength] at hfits
      omega
    obtain ⟨actions, hactions⟩ := exists_proposedActions_iff.2 hactions
    exact ⟨_, Option.bind_eq_some_iff.2 ⟨requests, hreqs,
      Option.bind_eq_some_iff.2 ⟨actions, hactions, rfl⟩⟩⟩

theorem length_satisfiedStateVi (count : Nat) :
    (dispositionsStateVi .satisfied count).length = 159 := by
  have htext : dispositionsStateVi .satisfied count =
      "G3_RISK_DISPOSITION: DA XU LY (SATISFIED) - moi thach thuc nghiem trong tu muc HIGH tro len " ++
        "(hoac su vang mat cua chung) da duoc con nguoi ghi nhan quyet dinh." := rfl
  rw [htext, String.length_append]
  decide

theorem length_openedStateVi (count : Nat) :
    (dispositionsStateVi .opened count).length = 104 + (toString count).length := by
  have htext : dispositionsStateVi .opened count =
      "G3_RISK_DISPOSITION: CHUA XU LY (OPEN) - con " ++ toString count ++
        " thach thuc chua co quyet dinh cua con nguoi co tham quyen." := rfl
  have hbefore : "G3_RISK_DISPOSITION: CHUA XU LY (OPEN) - con ".length = 45 := by decide
  have hafter : " thach thuc chua co quyet dinh cua con nguoi co tham quyen.".length = 59 := by decide
  rw [htext, String.length_append, String.length_append, hbefore, hafter]
  omega

theorem dispositionsStateVi_fits (status : GateStatus) {count : Nat} (h : count ≤ maxItems) :
    FitsText (dispositionsStateVi status count) := by
  cases status with
  | satisfied =>
    rw [FitsText, length_satisfiedStateVi]
    omega
  | opened =>
    have hdigits := length_toString_le h
    rw [FitsText, length_openedStateVi]
    omega

/-! ## The pre-analysis -/

/-- The length of the statement of the challenge of an assumption nobody takes up. -/
def assumptionLength (assumption : AssumptionItem Underwriting.EvidenceCitation) : Nat :=
  89 + assumption.statementVi.text.length

/-- No section of either assessment has more items than a tuple. -/
structure SectionsHeld (underwriting : Underwriting.UnderwritingAssessment)
    (legal : Legal.LegalComplianceAssessment) : Prop where
  underwritingCited : Held (underwritingIterated underwriting)
  legalCited : Held (legalIterated legal)
  underwritingWeighed : Held (underwritingWeighed underwriting)
  legalWeighed : Held (legalWeighed legal)
  assumptions : underwriting.assumptions.length ≤ maxItems

theorem assumptionDraft_fits_iff {underwritingId : Uuid} {index : Nat}
    {assumption : AssumptionItem Underwriting.EvidenceCitation} (h : index < maxItems) :
    (assumptionDraft underwritingId index assumption).Fits ↔ assumptionLength assumption ≤ 4000 := by
  have hpath : 1 ≤ ("assumptions" ++ "[" ++ toString index ++ "]").length ∧
      ("assumptions" ++ "[" ++ toString index ++ "]").length ≤ 200 := by
    have hbound := length_path_le "assumptions" h
    have hname : "assumptions".length = 11 := by decide
    have hclose : "]".length = 1 := rfl
    refine ⟨?_, by omega⟩
    rw [String.length_append, hclose]
    omega
  have hlen : ("Gia dinh cua MAKER khong duoc bat ky rui ro hay bien phap giam thieu nao tham chieu "
      ).length = 84 := by decide
  have hlast : "lai: ".length = 5 := by decide
  rw [ChallengeDraft.Fits, assumptionLength]
  constructor
  · rintro ⟨-, -, hstmt⟩
    simp only [assumptionDraft, String.length_append, hlen, hlast] at hstmt
    omega
  · intro hstmt
    refine ⟨hpath, ?_⟩
    simp only [assumptionDraft, String.length_append, hlen, hlast]
    omega

variable {underwriting : Underwriting.UnderwritingAssessment}

/-- **The assumptions' challenges are raised exactly when every statement fits.** -/
theorem assumptionDrafts_fit_iff (h : underwriting.assumptions.length ≤ maxItems) :
    (∀ draft ∈ assumptionDrafts underwriting, draft.Fits) ↔
      ∀ assumption ∈ underwriting.assumptions, Unaddressed underwriting assumption →
        assumptionLength assumption ≤ 4000 := by
  have hindex : ∀ p ∈ underwriting.assumptions.zipIdx, p.2 < maxItems := by
    intro p hp
    have hlt := List.snd_lt_of_mem_zipIdx hp
    omega
  constructor
  · intro hfits assumption hmem hunaddressed
    rw [← List.zipIdx_map_fst 0 underwriting.assumptions] at hmem
    obtain ⟨p, hp, rfl⟩ := List.mem_map.1 hmem
    have hdraft : assumptionDraft underwriting.id p.2 p.1 ∈ assumptionDrafts underwriting := by
      apply List.mem_filterMap.2
      exact ⟨p, hp, if_pos hunaddressed⟩
    exact (assumptionDraft_fits_iff (hindex p hp)).1 (hfits _ hdraft)
  · intro hfits draft hdraft
    obtain ⟨p, hp, hsome⟩ := List.mem_filterMap.1 hdraft
    split at hsome
    · next hunaddressed =>
      cases hsome
      apply (assumptionDraft_fits_iff (hindex p hp)).2
      exact hfits p.1 (List.fst_mem_of_mem_zipIdx hp) hunaddressed
    · cases hsome

/-- **The pre-analysis is computed exactly when every statement of an assumption fits.** -/
theorem exists_preAnalysis_iff {legal : Legal.LegalComplianceAssessment}
    (hheld : SectionsHeld underwriting legal) (view : CheckerEvidenceView) (openGaps : List EvidenceGap)
    (ids : Nat → Uuid) :
    (∃ pre, computeDeterministicPreAnalysis underwriting legal view openGaps ids = .ok pre) ↔
      ∀ assumption ∈ underwriting.assumptions, Unaddressed underwriting assumption →
        assumptionLength assumption ≤ 4000 := by
  rw [← assumptionDrafts_fit_iff hheld.assumptions]
  constructor
  · rintro ⟨_, h⟩
    obtain ⟨_, -, h⟩ := Results.bind_eq_ok.1 h
    obtain ⟨_, -, h⟩ := Results.bind_eq_ok.1 h
    obtain ⟨assumptions, hassumptions, -⟩ := Results.bind_eq_ok.1 h
    exact (exists_raiseAll_iff _ _).1 ⟨assumptions, hassumptions⟩
  · intro hassumptions
    obtain ⟨visibility, hvisibility⟩ := (exists_raiseAll_iff ids 0).2
      (visibilityDrafts_fit underwriting legal openGaps)
    obtain ⟨grounding, hgrounding⟩ := (exists_raiseAll_iff ids _).2
      (groundingDrafts_fit view hheld.underwritingCited hheld.legalCited)
    obtain ⟨assumptions, hraised⟩ := (exists_raiseAll_iff ids _).2 hassumptions
    obtain ⟨confidence, hconfidence⟩ := (exists_raiseAll_iff ids _).2
      (confidenceDrafts_fit hheld.underwritingWeighed hheld.legalWeighed)
    refine Results.exists_bind_eq_ok.2 ⟨visibility, hvisibility, ?_⟩
    refine Results.exists_bind_eq_ok.2 ⟨grounding, hgrounding, ?_⟩
    refine Results.exists_bind_eq_ok.2 ⟨assumptions, hraised, ?_⟩
    exact Results.exists_bind_eq_ok.2 ⟨confidence, hconfidence, _, rfl⟩

/-! ## The three generators -/

/-- What the generators are given for one case version. -/
structure Inputs where
  caseVersion : CaseVersion
  gaps : OpenGapSet
  underwriting : Underwriting.UnderwritingAssessment
  legal : Legal.LegalComplianceAssessment
  checkerView : CheckerEvidenceView
  upstream : CreditOpsUpstreamView
  dispositions : List ChallengeDispositionSummary

/-- The challenges of the checker the package counts. -/
def Inputs.challenges (inputs : Inputs) : List (Uuid × ChallengeSeverity) :=
  (inputs.upstream.riskReview.map (·.challenges)).getD []

/-- No tuple among the inputs has more items than a tuple can have. -/
structure Inputs.Sized (inputs : Inputs) : Prop where
  sections : SectionsHeld inputs.underwriting inputs.legal
  challenges : inputs.challenges.length ≤ maxItems

/-- Every generator returns an artifact with its validators. -/
structure DraftingReturns (inputs : Inputs) (ids : Nat → Uuid) (batchId : Uuid) : Prop where
  batch : ∃ batch, assembleGapRequestBatch inputs.gaps.rows inputs.caseVersion
    (drawn ids inputs.gaps.rows.length) batchId = some batch
  package : ∃ package, computeDeterministicPackage inputs.upstream inputs.gaps.rows
    inputs.dispositions ids = some package ∧ FitsText package.packageCompleteness.dispositionsStateVi
  preAnalysis : ∃ pre, computeDeterministicPreAnalysis inputs.underwriting inputs.legal
    inputs.checkerView inputs.gaps.rows ids = .ok pre

/-- Every text leaves room for what is put around it. -/
structure TextsLeaveRoom (inputs : Inputs) : Prop where
  requests : ∀ row ∈ inputs.gaps.rows, requestLength row ≤ 2000
  actions : ∀ row ∈ inputs.gaps.rows, actionLength row ≤ 2000
  assumptions : ∀ assumption ∈ inputs.underwriting.assumptions,
    Unaddressed inputs.underwriting assumption → assumptionLength assumption ≤ 4000

theorem stateVi_fits {inputs : Inputs} (hsized : inputs.Sized) {ids : Nat → Uuid}
    {package : DeterministicCreditOpsPackage}
    (h : computeDeterministicPackage inputs.upstream inputs.gaps.rows inputs.dispositions ids =
      some package) : FitsText package.packageCompleteness.dispositionsStateVi := by
  obtain ⟨_, -, hrest⟩ := Option.bind_eq_some_iff.1 h
  obtain ⟨_, -, hpkg⟩ := Option.bind_eq_some_iff.1 hrest
  cases hpkg
  exact dispositionsStateVi_fits _ (List.countP_le_length.trans hsized.challenges)

/-- **When drafting never rejects what was persisted.** -/
theorem drafting_returns_iff (inputs : Inputs) (ids : Nat → Uuid) (batchId : Uuid)
    (hids : Function.Injective ids) (hsized : inputs.Sized) :
    DraftingReturns inputs ids batchId ↔ TextsLeaveRoom inputs := by
  constructor
  · rintro ⟨hbatch, ⟨package, hpkg, -⟩, hpre⟩
    refine ⟨?_, ?_, ?_⟩
    · exact (exists_batch_iff inputs.gaps hids inputs.caseVersion batchId).1 hbatch
    · exact (exists_package_iff inputs.gaps inputs.upstream inputs.dispositions ids).1
        ⟨package, hpkg⟩
    · exact (exists_preAnalysis_iff hsized.sections inputs.checkerView inputs.gaps.rows ids).1 hpre
  · rintro ⟨hreqs, hactions, hassumptions⟩
    obtain ⟨package, hpkg⟩ :=
      (exists_package_iff inputs.gaps inputs.upstream inputs.dispositions ids).2 hactions
    refine ⟨?_, ⟨package, hpkg, stateVi_fits hsized hpkg⟩, ?_⟩
    · exact (exists_batch_iff inputs.gaps hids inputs.caseVersion batchId).2 hreqs
    · exact (exists_preAnalysis_iff hsized.sections inputs.checkerView inputs.gaps.rows ids).2
        hassumptions

/-- A gap whose text is as long as the gap model allows. -/
def longGap : EvidenceGap :=
  ⟨1, 1, 4, .formal, .blocking, String.ofList (List.replicate 2000 'a'), []⟩

theorem length_longGap : longGap.missingInformationVi.length = 2000 := by
  rw [longGap, String.length_ofList, List.length_replicate]

def longGapSet : OpenGapSet where
  rows := [longGap]
  ids_nodup := List.nodup_singleton _
  allOpen := by
    intro row hrow
    rw [List.mem_singleton.1 hrow]
    rfl
  texts_fit := by
    intro row hrow
    rw [List.mem_singleton.1 hrow, FitsText, length_longGap]
    omega

/-- The assessments and the gap of a case whose checker has not run. -/
def longInputs : Inputs where
  caseVersion := 1
  gaps := longGapSet
  underwriting := sampleUnderwriting
  legal := sampleLegal
  checkerView := sampleCheckerView
  upstream := ⟨1, false, none, some 9, some 10, none⟩
  dispositions := []

theorem longInputs_sized : longInputs.Sized :=
  ⟨⟨by decide +kernel, by decide +kernel, by decide +kernel, by decide +kernel, by decide +kernel⟩,
    by decide +kernel⟩

theorem draws_injective : Function.Injective (fun n => (20 + n : Uuid)) := by
  intro n m h
  exact Nat.add_left_cancel h

theorem drafting_returns_long : DraftingReturns longInputs (20 + ·) 3 ↔ TextsLeaveRoom longInputs :=
  drafting_returns_iff longInputs _ 3 draws_injective longInputs_sized

theorem long_gap_rejected : ¬DraftingReturns longInputs (20 + ·) 3 := by
  intro h
  have hreq := (exists_batch_iff longGapSet draws_injective 1 3).1 h.batch longGap
    List.mem_cons_self
  rw [requestLength, length_longGap] at hreq
  omega

end CreditOps.Assessments.Drafting
