import CreditOps.Assessments.CheckerPromises
import CreditOps.Assessments.ItemPaths

/-!
# What the deterministic rules cover

The rules of the pre-analysis enumerate the sections of both makers' assessments by hand. The cross-check
of citations goes over every section but the assumptions and the ownership inconsistencies
(`crossCheck_complete_iff`); the flagging of low confidence goes over five sections of one assessment and
three of the other (`flagging_exact_iff`); and the visibility of a gap is decided by its text alone
(`visibility_exact_iff`).
-/

set_option autoImplicit false

namespace CreditOps.Assessments.RiskReview

open Evidence Orchestration

/-! ## Places -/

/-- What a challenge is about: the maker, the assessment and the path in it. -/
abbrev Place := MakerSource × Uuid × String

def ChallengeDraft.place (draft : ChallengeDraft) : Place :=
  (draft.makerSource, draft.makerAssessmentId, draft.sectionPath)

def Challenge.place (challenge : Challenge) : Place :=
  (challenge.target.makerSource, challenge.target.makerAssessmentId, challenge.target.sectionPath.text)

theorem raise_place (draft : ChallengeDraft) (id : Uuid) :
    Ensures (draft.raise id) (·.place = draft.place) := by
  have href : Ensures (makeRef draft.makerSource draft.makerAssessmentId draft.sectionPath) fun ref =>
      (ref.makerSource, ref.makerAssessmentId, ref.sectionPath.text) = draft.place := by
    refine Ensures.bind (Ensures.self _) fun path hpath => ?_
    apply Ensures.ok
    rw [ChallengeDraft.place, SizedText.text_of_ofText? (validated_eq_ok hpath)]
  refine Ensures.bind href fun target htarget => ?_
  refine Ensures.mono (makeChallenge_spec _ _ _ _ _ _ _ _ _) fun challenge h => ?_
  rw [Challenge.place, h.1]
  exact htarget

/-- **The challenges are about what the drafts are about**, one by one. -/
theorem raiseAll_places (ids : Nat → Uuid) (first : Nat) (drafts : List ChallengeDraft) :
    Ensures (raiseAll ids first drafts) fun challenges =>
      challenges.map (·.place) = drafts.map (·.place) := by
  intro challenges h
  have hsame : challenges.map (·.place) = (drafts.zipIdx first).map fun p => p.1.place :=
    Results.map_eq_of_forall₂ (Results.mapM_eq_ok.1 h) fun hone => raise_place _ _ _ hone
  calc challenges.map (·.place)
      = ((drafts.zipIdx first).map Prod.fst).map (·.place) := by rw [hsame, List.map_map]; rfl
    _ = drafts.map (·.place) := by rw [List.zipIdx_map_fst]

variable {ids : Nat → Uuid} {first : Nat} {drafts : List ChallengeDraft} {challenges : List Challenge}

theorem exists_place_iff (h : raiseAll ids first drafts = .ok challenges) (place : Place) :
    (∃ challenge ∈ challenges, challenge.place = place) ↔ ∃ draft ∈ drafts, draft.place = place := by
  have hmem : place ∈ challenges.map (·.place) ↔ place ∈ drafts.map (·.place) := by
    rw [raiseAll_places ids first drafts challenges h]
  rw [List.mem_map, List.mem_map] at hmem
  exact hmem

/-! ## Drafts that can be raised -/

/-- The texts of the draft are within the bounds of a challenge. -/
def ChallengeDraft.Fits (draft : ChallengeDraft) : Prop :=
  (1 ≤ draft.sectionPath.length ∧ draft.sectionPath.length ≤ 200) ∧
    1 ≤ draft.statementVi.length ∧ draft.statementVi.length ≤ 4000

instance (draft : ChallengeDraft) : Decidable draft.Fits :=
  inferInstanceAs (Decidable (_ ∧ _))

theorem exists_validated_iff {low high : Nat} {text : String} (model field : String) :
    (∃ sized, validated model field (SizedText.ofText? low high text) = .ok sized) ↔
      low ≤ text.length ∧ text.length ≤ high := by
  rw [← SizedText.isSome_ofText?, Option.isSome_iff_exists]
  constructor
  · rintro ⟨sized, h⟩
    exact ⟨sized, validated_eq_ok h⟩
  · rintro ⟨sized, h⟩
    refine ⟨sized, ?_⟩
    rw [h]
    rfl

/-- **A draft can be raised exactly when its texts fit.** -/
theorem exists_raise_iff (draft : ChallengeDraft) (id : Uuid) :
    (∃ challenge, draft.raise id = .ok challenge) ↔ draft.Fits := by
  rw [ChallengeDraft.raise, Results.exists_bind_eq_ok]
  constructor
  · rintro ⟨_, htarget, hchal⟩
    obtain ⟨path, hpath, -⟩ := Results.bind_eq_ok.1 htarget
    obtain ⟨statement, hstmt, -⟩ := Results.exists_bind_eq_ok.1 hchal
    exact ⟨(exists_validated_iff _ _).1 ⟨path, hpath⟩,
      (exists_validated_iff _ _).1 ⟨statement, hstmt⟩⟩
  · rintro ⟨hpathFits, hstatementFits⟩
    obtain ⟨path, hpath⟩ := (exists_validated_iff "MakerFindingRef" "section_path").2 hpathFits
    obtain ⟨statement, hstmt⟩ := (exists_validated_iff "Challenge" "statement_vi").2 hstatementFits
    refine ⟨_, Results.bind_eq_ok.2 ⟨path, hpath, rfl⟩, ?_⟩
    exact Results.exists_bind_eq_ok.2 ⟨statement, hstmt, _, rfl⟩

theorem exists_raiseAll_iff (ids : Nat → Uuid) (first : Nat) :
    (∃ challenges, raiseAll ids first drafts = .ok challenges) ↔ ∀ draft ∈ drafts, draft.Fits := by
  rw [raiseAll, Results.exists_mapM_eq_ok]
  constructor
  · intro h draft hdraft
    rw [← List.zipIdx_map_fst first drafts] at hdraft
    obtain ⟨p, hp, rfl⟩ := List.mem_map.1 hdraft
    exact (exists_raise_iff p.1 _).1 (h p hp)
  · intro h p hp
    exact (exists_raise_iff p.1 _).2 (h p.1 (List.fst_mem_of_mem_zipIdx hp))

/-- `sys.maxsize`: a tuple has no more items. -/
def maxItems : Nat := 2 ^ 63 - 1

theorem length_toString_le {n : Nat} (h : n ≤ maxItems) : (toString n).length ≤ 19 := by
  rw [Nat.toString_eq_repr, Nat.length_repr_le_iff (by omega)]
  exact h.trans_lt (by decide)

theorem length_path_le (name : String) {i : Nat} (h : i < maxItems) :
    (name ++ "[" ++ toString i ++ "]").length ≤ name.length + 21 := by
  have hdigits := length_toString_le h.le
  rw [String.length_append, String.length_append, String.length_append]
  have hopen : "[".length = 1 := rfl
  have hclose : "]".length = 1 := rfl
  omega

/-- No family has more items than a tuple. -/
def Held {α : Type} (families : List (Family α)) : Prop :=
  ∀ family ∈ families, family.2.length ≤ maxItems

instance {α : Type} (families : List (Family α)) : Decidable (Held families) :=
  inferInstanceAs (Decidable (∀ family ∈ families, family.2.length ≤ maxItems))

/-- The names of the families are short. -/
def ShortNames {α : Type} (families : List (Family α)) : Prop :=
  ∀ name ∈ families.map (·.1), name.length ≤ 100

theorem length_of_mem_locateAll {α : Type} {families : List (Family α)} (h : Held families)
    (hshort : ShortNames families) {item : String × α} (hitem : item ∈ locateAll families) :
    1 ≤ item.1.length ∧ item.1.length ≤ 121 := by
  obtain ⟨family, hfamily, hlocated⟩ := List.mem_flatMap.1 hitem
  obtain ⟨i, x, hx, rfl⟩ := mem_located hlocated
  have hitems := h family hfamily
  have hname := hshort family.1 (List.mem_map_of_mem hfamily)
  have hi : i < maxItems := by
    have := (List.getElem?_eq_some_iff.1 hx).1
    omega
  have hpath := length_path_le family.1 hi
  dsimp only
  refine ⟨?_, by omega⟩
  rw [String.length_append, show "]".length = 1 from rfl]
  omega

/-! ## Covered families -/

theorem forall_locateAll {α : Type} {families : List (Family α)} {Q : α → Prop} :
    (∀ item ∈ locateAll families, Q item.2) ↔ ∀ family ∈ families, ∀ x ∈ family.2, Q x := by
  constructor
  · intro h family hfamily x hx
    obtain ⟨i, hi⟩ := List.getElem?_of_mem hx
    have hmem : (x, i) ∈ family.2.zipIdx := List.mem_zipIdx_iff_getElem?.2 hi
    have hlocated := List.mem_map_of_mem (f := fun p : α × Nat =>
      (family.1 ++ "[" ++ toString p.2 ++ "]", p.1)) hmem
    exact h _ (List.mem_flatMap.2 ⟨family, hfamily, hlocated⟩)
  · intro h item hitem
    obtain ⟨family, hfamily, hlocated⟩ := List.mem_flatMap.1 hitem
    obtain ⟨i, x, hx, rfl⟩ := mem_located hlocated
    exact h family hfamily x (List.mem_of_getElem? hx)

theorem not_mem_iterated {α : Type} {iterated overlooked : List (Family α)}
    (hplain : PlainNames (iterated ++ overlooked)) {item : String × α}
    (hitem : item ∈ locateAll overlooked) : item.1 ∉ (locateAll iterated).map (·.1) := by
  have hnodup := locateAll_nodup hplain
  rw [locateAll_append, List.map_append] at hnodup
  intro hmem
  exact List.disjoint_of_nodup_append hnodup hmem (List.mem_map_of_mem hitem)

/-- An item that is not overlooked is found under its path exactly when it has the property. -/
theorem found_iff_of_iterated {α : Type} {iterated overlooked : List (Family α)}
    (hplain : PlainNames (iterated ++ overlooked)) {Q : α → Prop} {item : String × α}
    (hitem : item ∈ locateAll iterated) :
    (∃ other ∈ locateAll iterated, Q other.2 ∧ other.1 = item.1) ↔ Q item.2 := by
  constructor
  · rintro ⟨other, hother, hQ, hpath⟩
    have hnodup := locateAll_nodup hplain
    rw [locateAll_append, List.map_append] at hnodup
    have hsame : other = item :=
      List.inj_on_of_nodup_map (List.nodup_append.1 hnodup).1 hother hitem hpath
    rw [hsame] at hQ
    exact hQ
  · intro hQ
    exact ⟨item, hitem, hQ, rfl⟩

theorem not_found_of_overlooked {α : Type} {iterated overlooked : List (Family α)}
    (hplain : PlainNames (iterated ++ overlooked)) {Q : α → Prop} {item : String × α}
    (hitem : item ∈ locateAll overlooked) :
    ¬∃ other ∈ locateAll iterated, Q other.2 ∧ other.1 = item.1 := by
  rintro ⟨_, hother, -, hpath⟩
  apply not_mem_iterated hplain hitem
  rw [← hpath]
  exact List.mem_map_of_mem hother

/-- **Every item with the property is found** exactly when no overlooked one has it. -/
theorem all_found_iff {α : Type} {iterated overlooked : List (Family α)}
    (hplain : PlainNames (iterated ++ overlooked)) {Q : α → Prop} :
    (∀ item ∈ locateAll (iterated ++ overlooked), Q item.2 →
      ∃ other ∈ locateAll iterated, Q other.2 ∧ other.1 = item.1) ↔
      ∀ family ∈ overlooked, ∀ x ∈ family.2, ¬Q x := by
  rw [← forall_locateAll (Q := fun x => ¬Q x), locateAll_append]
  constructor
  · intro h item hitem hQ
    exact not_found_of_overlooked hplain hitem (h item (List.mem_append_right _ hitem) hQ)
  · intro h item hitem hQ
    rcases List.mem_append.1 hitem with hiterated | hoverlooked
    · exact (found_iff_of_iterated hplain hiterated).2 hQ
    · exact absurd hQ (h item hoverlooked)

/-- **Exactly the items with the property are found**, under the same condition. -/
theorem exactly_found_iff {α : Type} {iterated overlooked : List (Family α)}
    (hplain : PlainNames (iterated ++ overlooked)) {Q : α → Prop} :
    (∀ item ∈ locateAll (iterated ++ overlooked),
      (∃ other ∈ locateAll iterated, Q other.2 ∧ other.1 = item.1) ↔ Q item.2) ↔
      ∀ family ∈ overlooked, ∀ x ∈ family.2, ¬Q x := by
  rw [← all_found_iff hplain]
  constructor
  · intro h item hitem
    exact (h item hitem).2
  · intro h item hitem
    refine ⟨?_, h item hitem⟩
    intro hfound
    rw [locateAll_append] at hitem
    rcases List.mem_append.1 hitem with hiterated | hoverlooked
    · exact (found_iff_of_iterated hplain hiterated).1 hfound
    · exact absurd hfound (not_found_of_overlooked hplain hoverlooked)

/-! ## The cross-check of citations -/

/-- One of the citations names a fact that is no longer live. -/
def CitesDead {Citation : Type} (live : List String) (fact? : Citation → Option Uuid)
    (citations : List Citation) : Prop :=
  ∃ id ∈ citations.filterMap fact?, uuidText id ∉ live

instance {Citation : Type} (live : List String) (fact? : Citation → Option Uuid)
    (citations : List Citation) : Decidable (CitesDead live fact? citations) :=
  inferInstanceAs (Decidable (∃ id ∈ citations.filterMap fact?, uuidText id ∉ live))

/-- `live_fact_ids` -/
def liveFactIds (view : CheckerEvidenceView) : List String :=
  view.confirmedFacts.map fun fact => uuidText fact.confirmedFactId

/-- The sections `_iter_underwriting_citations` goes over. -/
def underwritingIterated (a : Underwriting.UnderwritingAssessment) :
    List (Family (List Underwriting.EvidenceCitation)) :=
  [("business.findings", a.business.findings.1.map (·.citations.1)),
    ("financial.findings", a.financial.findings.1.map (·.citations.1)),
    ("cash_flow.findings", a.cashFlow.findings.1.map (·.citations.1)),
    ("repayment_source.findings", a.repaymentSource.findings.1.map (·.citations.1)),
    ("repayment_source.downside_scenarios", a.repaymentSource.downsideScenarios.map (·.citations.1)),
    ("proposed_structure.findings", a.proposedStructure.findings.1.map (·.citations.1)),
    ("risks", a.risks.map (·.citations.1)), ("mitigants", a.mitigants.map (·.citations.1))]

/-- The sections with citations it does not. -/
def underwritingOverlooked (a : Underwriting.UnderwritingAssessment) :
    List (Family (List Underwriting.EvidenceCitation)) :=
  [("assumptions", a.assumptions.map (·.basisCitations))]

/-- The sections `_iter_legal_citations` goes over. -/
def legalIterated (a : Legal.LegalComplianceAssessment) :
    List (Family (List Legal.EvidenceCitation)) :=
  [("legal_entity_review.findings", a.legalEntityReview.findings.1.map (·.citations.1)),
    ("authority_signatory_review.findings",
      a.authoritySignatoryReview.findings.1.map (·.citations.1)),
    ("ownership_consistency.findings", a.ownershipConsistency.findings.1.map (·.citations.1)),
    ("policy_review", a.policyReview.map (·.citations.1.map .policy)),
    ("collateral_review.document_items", a.collateralReview.documentItems.map (·.citations.1)),
    ("collateral_review.ownership_evidence_findings",
      a.collateralReview.ownershipEvidenceFindings.1.map (·.citations.1)),
    ("exceptions", a.exceptions.map (·.citations.1))]

/-- The sections with citations it does not. -/
def legalOverlooked (a : Legal.LegalComplianceAssessment) :
    List (Family (List Legal.EvidenceCitation)) :=
  [("ownership_consistency.inconsistencies",
      a.ownershipConsistency.inconsistencies.map (·.citations)),
    ("assumptions", a.assumptions.map (·.basisCitations))]

theorem iterUnderwritingCitations_eq (a : Underwriting.UnderwritingAssessment) :
    iterUnderwritingCitations a = locateAll (underwritingIterated a) := by
  simp only [iterUnderwritingCitations, locateAll, underwritingIterated, List.flatMap_cons,
    List.flatMap_nil, located_map, List.append_nil, List.append_assoc]

theorem iterLegalCitations_eq (a : Legal.LegalComplianceAssessment) :
    iterLegalCitations a = locateAll (legalIterated a) := by
  simp only [iterLegalCitations, locateAll, legalIterated, List.flatMap_cons, List.flatMap_nil,
    located_map, List.append_nil, List.append_assoc]

theorem underwriting_plainNames (a : Underwriting.UnderwritingAssessment) :
    PlainNames (underwritingIterated a ++ underwritingOverlooked a) := by
  constructor
  all_goals
    simp only [underwritingIterated, underwritingOverlooked, List.cons_append, List.nil_append,
      List.map_cons, List.map_nil]
    decide

theorem legal_plainNames (a : Legal.LegalComplianceAssessment) :
    PlainNames (legalIterated a ++ legalOverlooked a) := by
  constructor
  all_goals
    simp only [legalIterated, legalOverlooked, List.cons_append, List.nil_append, List.map_cons,
      List.map_nil]
    decide

theorem underwritingIterated_shortNames (a : Underwriting.UnderwritingAssessment) :
    ShortNames (underwritingIterated a) := by
  simp only [ShortNames, underwritingIterated, List.map_cons, List.map_nil]
  decide

theorem legalIterated_shortNames (a : Legal.LegalComplianceAssessment) :
    ShortNames (legalIterated a) := by
  simp only [ShortNames, legalIterated, List.map_cons, List.map_nil]
  decide

variable {live : List String} {source : MakerSource} {makerId : Uuid} {place : Place}

/-- What the drafts about one maker's citations are about. -/
theorem exists_groundingDraft_iff {Citation : Type} {fact? : Citation → Option Uuid}
    {items : List (String × List Citation)} :
    (∃ draft ∈ groundingDraftsOf live source makerId fact? items, draft.place = place) ↔
      ∃ item ∈ items, CitesDead live fact? item.2 ∧ (source, makerId, item.1) = place := by
  constructor
  · rintro ⟨draft, hdraft, rfl⟩
    obtain ⟨item, hitem, hmem⟩ := List.mem_flatMap.1 hdraft
    obtain ⟨id, hid, hsome⟩ := List.mem_filterMap.1 hmem
    split at hsome
    · cases hsome
    rename_i hdead
    cases hsome
    exact ⟨item, hitem, ⟨id, hid, hdead⟩, rfl⟩
  · rintro ⟨item, hitem, ⟨id, hid, hdead⟩, rfl⟩
    refine ⟨groundingDraft source makerId item.1, ?_, rfl⟩
    apply List.mem_flatMap.2
    refine ⟨item, hitem, List.mem_filterMap.2 ⟨id, hid, ?_⟩⟩
    rw [if_neg hdead]

theorem groundingDraftsOf_fits {Citation : Type} {fact? : Citation → Option Uuid}
    {families : List (Family (List Citation))} (h : Held families) (hshort : ShortNames families) :
    ∀ draft ∈ groundingDraftsOf live source makerId fact? (locateAll families), draft.Fits := by
  intro draft hdraft
  obtain ⟨_, hitem, hmem⟩ := List.mem_flatMap.1 hdraft
  obtain ⟨_, -, hsome⟩ := List.mem_filterMap.1 hmem
  have hpath := length_of_mem_locateAll h hshort hitem
  split at hsome
  · cases hsome
  cases hsome
  refine ⟨⟨hpath.1, by simp only [groundingDraft]; omega⟩, ?_⟩
  simp only [groundingDraft, String.length_append]
  have htext : ("Trich dan den mot du kien da xac nhan khong con ton tai trong pham vi bang chung ".length,
      "hien tai cua ho so (".length, ").".length) = (81, 20, 2) := by decide
  rw [Prod.mk.injEq, Prod.mk.injEq] at htext
  omega

variable {underwriting : Underwriting.UnderwritingAssessment} {legal : Legal.LegalComplianceAssessment}

theorem groundingDrafts_fit (view : CheckerEvidenceView)
    (hunderwriting : Held (underwritingIterated underwriting)) (hlegal : Held (legalIterated legal)) :
    ∀ draft ∈ groundingDrafts underwriting legal view, draft.Fits := by
  intro draft hdraft
  rw [groundingDrafts, iterUnderwritingCitations_eq, iterLegalCitations_eq] at hdraft
  rcases List.mem_append.1 hdraft with hmem | hmem
  · exact groundingDraftsOf_fits hunderwriting (underwritingIterated_shortNames _) draft hmem
  · exact groundingDraftsOf_fits hlegal (legalIterated_shortNames _) draft hmem

/-- `cross_check_citation_grounding`, with the uuids drawn from `first` on. -/
def crossCheckCitationGrounding (underwriting : Underwriting.UnderwritingAssessment)
    (legal : Legal.LegalComplianceAssessment) (view : CheckerEvidenceView) (ids : Nat → Uuid)
    (first : Nat) : Except BuildFault (List Challenge) :=
  raiseAll ids first (groundingDrafts underwriting legal view)

/-- Every item of either assessment that cites a fact no longer live is the target of a challenge. -/
def CrossCheckComplete (underwriting : Underwriting.UnderwritingAssessment)
    (legal : Legal.LegalComplianceAssessment) (view : CheckerEvidenceView)
    (challenges : List Challenge) : Prop :=
  (∀ item ∈ locateAll (underwritingIterated underwriting ++ underwritingOverlooked underwriting),
    CitesDead (liveFactIds view) underwritingFact? item.2 →
      ∃ challenge ∈ challenges,
        challenge.place = (.creditUnderwriting, underwriting.id, item.1)) ∧
  ∀ item ∈ locateAll (legalIterated legal ++ legalOverlooked legal),
    CitesDead (liveFactIds view) legalFact? item.2 →
      ∃ challenge ∈ challenges, challenge.place = (.legalComplianceCollateral, legal.id, item.1)

/-- No assumption and no ownership inconsistency cites a fact that is no longer live. -/
def OverlookedLive (underwriting : Underwriting.UnderwritingAssessment)
    (legal : Legal.LegalComplianceAssessment) (view : CheckerEvidenceView) : Prop :=
  (∀ family ∈ underwritingOverlooked underwriting, ∀ citations ∈ family.2,
    ¬CitesDead (liveFactIds view) underwritingFact? citations) ∧
  ∀ family ∈ legalOverlooked legal, ∀ citations ∈ family.2,
    ¬CitesDead (liveFactIds view) legalFact? citations

theorem exists_groundingChallenge_iff {view : CheckerEvidenceView}
    (h : crossCheckCitationGrounding underwriting legal view ids first = .ok challenges) (place : Place) :
    (∃ challenge ∈ challenges, challenge.place = place) ↔
      (∃ item ∈ locateAll (underwritingIterated underwriting),
        CitesDead (liveFactIds view) underwritingFact? item.2 ∧
          (.creditUnderwriting, underwriting.id, item.1) = place) ∨
      ∃ item ∈ locateAll (legalIterated legal), CitesDead (liveFactIds view) legalFact? item.2 ∧
        (.legalComplianceCollateral, legal.id, item.1) = place := by
  rw [exists_place_iff h, ← iterUnderwritingCitations_eq, ← iterLegalCitations_eq,
    ← exists_groundingDraft_iff, ← exists_groundingDraft_iff]
  simp only [groundingDrafts, liveFactIds, List.mem_append, or_and_right, exists_or]

/-- **When the cross-check is complete.** -/
theorem crossCheck_complete_iff (underwriting : Underwriting.UnderwritingAssessment)
    (legal : Legal.LegalComplianceAssessment) (view : CheckerEvidenceView) (ids : Nat → Uuid)
    (first : Nat) :
    (Held (underwritingIterated underwriting) → Held (legalIterated legal) →
      ∃ challenges, crossCheckCitationGrounding underwriting legal view ids first = .ok challenges) ∧
    ∀ challenges, crossCheckCitationGrounding underwriting legal view ids first = .ok challenges →
      (CrossCheckComplete underwriting legal view challenges ↔
        OverlookedLive underwriting legal view) := by
  constructor
  · intro hunderwriting hlegal
    exact (exists_raiseAll_iff ids first).2 (groundingDrafts_fit view hunderwriting hlegal)
  · intro challenges h
    have hplace := exists_groundingChallenge_iff h
    rw [OverlookedLive, ← all_found_iff (underwriting_plainNames underwriting),
      ← all_found_iff (legal_plainNames legal), CrossCheckComplete]
    -- the makers' challenges differ in their source
    simp only [hplace, Prod.mk.injEq, reduceCtorEq, true_and, false_and, and_false, exists_false,
      or_false, false_or]

/-- A maker's assessment whose assumption rests on a fact nothing else cites. -/
def staleUnderwriting : Underwriting.UnderwritingAssessment :=
  { sampleUnderwriting with
    assumptions := [⟨oneText 1 4000 fits_statement, oneText 1 4000 fits_statement, [.confirmedFact 8]⟩]
    valid := by decide +kernel }

theorem crossCheck_stale_run :
    crossCheckCitationGrounding staleUnderwriting sampleLegal sampleCheckerView (20 + ·) 0 = .ok [] :=
  Results.toOption_eq_some.1 (by decide +kernel)

/-- The fact of the assumption is no longer live, and nothing is raised. -/
theorem dead_assumption_overlooked :
    crossCheckCitationGrounding staleUnderwriting sampleLegal sampleCheckerView (20 + ·) 0 = .ok [] ∧
      ¬CrossCheckComplete staleUnderwriting sampleLegal sampleCheckerView [] := by
  refine ⟨crossCheck_stale_run, ?_⟩
  rintro ⟨hcomplete, -⟩
  have hitem : ("assumptions[0]", [Underwriting.EvidenceCitation.confirmedFact 8]) ∈
      locateAll (underwritingIterated staleUnderwriting ++
        underwritingOverlooked staleUnderwriting) := by
    decide +kernel
  have hdead : CitesDead (liveFactIds sampleCheckerView) underwritingFact? [.confirmedFact 8] := by
    decide +kernel
  obtain ⟨_, hmem, -⟩ := hcomplete _ hitem hdead
  cases hmem

theorem crossCheck_complete_stale :
    CrossCheckComplete staleUnderwriting sampleLegal sampleCheckerView [] ↔
      OverlookedLive staleUnderwriting sampleLegal sampleCheckerView :=
  (crossCheck_complete_iff staleUnderwriting sampleLegal sampleCheckerView (20 + ·) 0).2 []
    crossCheck_stale_run

/-! ## The flagging of low confidence -/

/-- The sections `_underwriting_confidence_items` goes over. -/
def underwritingWeighed (a : Underwriting.UnderwritingAssessment) : List (Family ConfidenceLevel) :=
  [("business.findings", a.business.findings.1.map (·.confidence)),
    ("financial.findings", a.financial.findings.1.map (·.confidence)),
    ("cash_flow.findings", a.cashFlow.findings.1.map (·.confidence)),
    ("risks", a.risks.map (·.confidence)), ("mitigants", a.mitigants.map (·.confidence))]

/-- The sections with a confidence it does not. -/
def underwritingUnweighed (a : Underwriting.UnderwritingAssessment) :
    List (Family ConfidenceLevel) :=
  [("repayment_source.findings", a.repaymentSource.findings.1.map (·.confidence)),
    ("repayment_source.downside_scenarios", a.repaymentSource.downsideScenarios.map (·.confidence)),
    ("proposed_structure.findings", a.proposedStructure.findings.1.map (·.confidence))]

/-- The sections `_legal_confidence_items` goes over. -/
def legalWeighed (a : Legal.LegalComplianceAssessment) : List (Family ConfidenceLevel) :=
  [("legal_entity_review.findings", a.legalEntityReview.findings.1.map (·.confidence)),
    ("authority_signatory_review.findings",
      a.authoritySignatoryReview.findings.1.map (·.confidence)),
    ("exceptions", a.exceptions.map (·.confidence))]

/-- The sections with a confidence it does not. -/
def legalUnweighed (a : Legal.LegalComplianceAssessment) : List (Family ConfidenceLevel) :=
  [("ownership_consistency.findings", a.ownershipConsistency.findings.1.map (·.confidence)),
    ("ownership_consistency.inconsistencies",
      a.ownershipConsistency.inconsistencies.map (·.confidence)),
    ("policy_review", a.policyReview.map (·.confidence)),
    ("controlled_check_interpretations", a.controlledCheckInterpretations.map (·.confidence)),
    ("collateral_review.ownership_evidence_findings",
      a.collateralReview.ownershipEvidenceFindings.1.map (·.confidence))]

theorem underwritingConfidenceItems_eq (a : Underwriting.UnderwritingAssessment) :
    underwritingConfidenceItems a = locateAll (underwritingWeighed a) := by
  simp only [underwritingConfidenceItems, locateAll, underwritingWeighed, List.flatMap_cons,
    List.flatMap_nil, located_map, List.append_nil, List.append_assoc]

theorem legalConfidenceItems_eq (a : Legal.LegalComplianceAssessment) :
    legalConfidenceItems a = locateAll (legalWeighed a) := by
  simp only [legalConfidenceItems, locateAll, legalWeighed, List.flatMap_cons, List.flatMap_nil,
    located_map, List.append_nil, List.append_assoc]

theorem underwritingConfidence_plainNames (a : Underwriting.UnderwritingAssessment) :
    PlainNames (underwritingWeighed a ++ underwritingUnweighed a) := by
  constructor
  all_goals
    simp only [underwritingWeighed, underwritingUnweighed, List.cons_append, List.nil_append,
      List.map_cons, List.map_nil]
    decide

theorem legalConfidence_plainNames (a : Legal.LegalComplianceAssessment) :
    PlainNames (legalWeighed a ++ legalUnweighed a) := by
  constructor
  all_goals
    simp only [legalWeighed, legalUnweighed, List.cons_append, List.nil_append, List.map_cons,
      List.map_nil]
    decide

theorem underwritingWeighed_shortNames (a : Underwriting.UnderwritingAssessment) :
    ShortNames (underwritingWeighed a) := by
  simp only [ShortNames, underwritingWeighed, List.map_cons, List.map_nil]
  decide

theorem legalWeighed_shortNames (a : Legal.LegalComplianceAssessment) :
    ShortNames (legalWeighed a) := by
  simp only [ShortNames, legalWeighed, List.map_cons, List.map_nil]
  decide

theorem exists_confidenceDraft_iff {items : List (String × ConfidenceLevel)} :
    (∃ draft ∈ confidenceDraftsOf source makerId items, draft.place = place) ↔
      ∃ item ∈ items, item.2 = .low ∧ (source, makerId, item.1) = place := by
  constructor
  · rintro ⟨_, hdraft, rfl⟩
    obtain ⟨item, hitem, rfl⟩ := List.mem_map.1 hdraft
    obtain ⟨hmem, hlow⟩ := List.mem_filter.1 hitem
    exact ⟨item, hmem, of_decide_eq_true hlow, rfl⟩
  · rintro ⟨item, hitem, hlow, rfl⟩
    refine ⟨confidenceDraft source makerId item.1 item.2, ?_, rfl⟩
    exact List.mem_map_of_mem (List.mem_filter.2 ⟨hitem, decide_eq_true hlow⟩)

variable {families : List (Family ConfidenceLevel)}

/-- No two drafts about one maker's items are about one place. -/
theorem confidenceDraftsOf_nodup (hplain : PlainNames families) :
    ((confidenceDraftsOf source makerId (locateAll families)).map (·.place)).Nodup := by
  have hplaces : (confidenceDraftsOf source makerId (locateAll families)).map (·.place) =
      (((locateAll families).filter (·.2 = confidenceFlagThreshold)).map (·.1)).map
        fun path => (source, makerId, path) := by
    rw [confidenceDraftsOf, List.map_map, List.map_map]
    rfl
  rw [hplaces]
  apply List.Nodup.map
  · intro path other h
    exact (Prod.mk.inj (Prod.mk.inj h).2).2
  · have hsub := List.filter_sublist (p := fun item : String × ConfidenceLevel =>
      decide (item.2 = confidenceFlagThreshold)) (l := locateAll families)
    exact (hsub.map _).nodup (locateAll_nodup hplain)

theorem confidenceDrafts_nodup (underwriting : Underwriting.UnderwritingAssessment)
    (legal : Legal.LegalComplianceAssessment) :
    ((confidenceDrafts underwriting legal).map (·.place)).Nodup := by
  rw [confidenceDrafts, underwritingConfidenceItems_eq, legalConfidenceItems_eq, List.map_append]
  apply List.Nodup.append
  · exact confidenceDraftsOf_nodup (underwritingConfidence_plainNames underwriting).left_of_append
  · exact confidenceDraftsOf_nodup (legalConfidence_plainNames legal).left_of_append
  · intro place hhere hthere
    obtain ⟨_, -, -, rfl⟩ := exists_confidenceDraft_iff.1 (List.mem_map.1 hhere)
    obtain ⟨_, -, -, hplace⟩ := exists_confidenceDraft_iff.1 (List.mem_map.1 hthere)
    cases (Prod.mk.inj hplace).1

theorem confidenceDraftsOf_fits (h : Held families) (hshort : ShortNames families) :
    ∀ draft ∈ confidenceDraftsOf source makerId (locateAll families), draft.Fits := by
  intro draft hdraft
  obtain ⟨item, hitem, rfl⟩ := List.mem_map.1 hdraft
  have hpath := length_of_mem_locateAll h hshort (List.mem_of_mem_filter hitem)
  refine ⟨⟨hpath.1, by simp only [confidenceDraft]; omega⟩, ?_⟩
  simp only [confidenceDraft, String.length_append]
  have htext : ("Muc do tin cay cua MAKER cho muc '".length, "' o nguong ".length,
      ", can duoc xem xet them.".length) = (34, 11, 24) := by decide
  rw [Prod.mk.injEq, Prod.mk.injEq] at htext
  have hvalue : item.2.value.length ≤ 6 := by cases item.2 <;> decide
  omega

theorem confidenceDrafts_fit (hunderwriting : Held (underwritingWeighed underwriting))
    (hlegal : Held (legalWeighed legal)) :
    ∀ draft ∈ confidenceDrafts underwriting legal, draft.Fits := by
  intro draft hdraft
  rw [confidenceDrafts, underwritingConfidenceItems_eq, legalConfidenceItems_eq] at hdraft
  rcases List.mem_append.1 hdraft with hmem | hmem
  · exact confidenceDraftsOf_fits hunderwriting (underwritingWeighed_shortNames _) draft hmem
  · exact confidenceDraftsOf_fits hlegal (legalWeighed_shortNames _) draft hmem

/-- `flag_low_confidence_findings`, with the uuids drawn from `first` on. -/
def flagLowConfidenceFindings (underwriting : Underwriting.UnderwritingAssessment)
    (legal : Legal.LegalComplianceAssessment) (ids : Nat → Uuid) (first : Nat) :
    Except BuildFault (List Challenge) :=
  raiseAll ids first (confidenceDrafts underwriting legal)

/-- Every item with a confidence is the target of one challenge if the confidence is low and of none
otherwise, and every challenge has such an item as its target. -/
def FlaggingExact (underwriting : Underwriting.UnderwritingAssessment)
    (legal : Legal.LegalComplianceAssessment) (challenges : List Challenge) : Prop :=
  (∀ item ∈ locateAll (underwritingWeighed underwriting ++ underwritingUnweighed underwriting),
    (challenges.map (·.place)).count (.creditUnderwriting, underwriting.id, item.1) =
      if item.2 = .low then 1 else 0) ∧
  (∀ item ∈ locateAll (legalWeighed legal ++ legalUnweighed legal),
    (challenges.map (·.place)).count (.legalComplianceCollateral, legal.id, item.1) =
      if item.2 = .low then 1 else 0) ∧
  ∀ challenge ∈ challenges,
    (∃ item ∈ locateAll (underwritingWeighed underwriting ++ underwritingUnweighed underwriting),
      item.2 = .low ∧ (.creditUnderwriting, underwriting.id, item.1) = challenge.place) ∨
    ∃ item ∈ locateAll (legalWeighed legal ++ legalUnweighed legal),
      item.2 = .low ∧ (.legalComplianceCollateral, legal.id, item.1) = challenge.place

/-- No item of the sections the flagging does not go over is of low confidence. -/
def UnweighedNotLow (underwriting : Underwriting.UnderwritingAssessment)
    (legal : Legal.LegalComplianceAssessment) : Prop :=
  (∀ family ∈ underwritingUnweighed underwriting, ∀ confidence ∈ family.2, confidence ≠ .low) ∧
  ∀ family ∈ legalUnweighed legal, ∀ confidence ∈ family.2, confidence ≠ .low

instance (underwriting : Underwriting.UnderwritingAssessment)
    (legal : Legal.LegalComplianceAssessment) : Decidable (UnweighedNotLow underwriting legal) :=
  inferInstanceAs (Decidable (_ ∧ _))

section Flagging

variable {underwriting : Underwriting.UnderwritingAssessment} {legal : Legal.LegalComplianceAssessment}
  {ids : Nat → Uuid} {first : Nat} {challenges : List Challenge}

theorem exists_confidenceChallenge_iff
    (h : flagLowConfidenceFindings underwriting legal ids first = .ok challenges) (place : Place) :
    (∃ challenge ∈ challenges, challenge.place = place) ↔
      (∃ item ∈ locateAll (underwritingWeighed underwriting), item.2 = .low ∧
        (.creditUnderwriting, underwriting.id, item.1) = place) ∨
      ∃ item ∈ locateAll (legalWeighed legal), item.2 = .low ∧
        (.legalComplianceCollateral, legal.id, item.1) = place := by
  rw [exists_place_iff h, ← underwritingConfidenceItems_eq, ← legalConfidenceItems_eq,
    ← exists_confidenceDraft_iff, ← exists_confidenceDraft_iff]
  simp only [confidenceDrafts, List.mem_append, or_and_right, exists_or]

theorem count_place (h : flagLowConfidenceFindings underwriting legal ids first = .ok challenges)
    (place : Place) (c : Prop) [Decidable c] :
    (challenges.map (·.place)).count place = (if c then 1 else 0) ↔
      ((∃ challenge ∈ challenges, challenge.place = place) ↔ c) := by
  have hnodup : (challenges.map (·.place)).Nodup := by
    rw [raiseAll_places ids first _ challenges h]
    exact confidenceDrafts_nodup underwriting legal
  rw [hnodup.count, ← List.mem_map]
  by_cases hmem : place ∈ challenges.map (·.place) <;> by_cases hc : c <;> simp [hmem, hc]

theorem flagging_exact_of_run
    (h : flagLowConfidenceFindings underwriting legal ids first = .ok challenges) :
    FlaggingExact underwriting legal challenges ↔ UnweighedNotLow underwriting legal := by
  have hplace := exists_confidenceChallenge_iff h
  have hcover : ∀ challenge ∈ challenges,
      (∃ item ∈ locateAll (underwritingWeighed underwriting ++ underwritingUnweighed underwriting),
        item.2 = .low ∧ (.creditUnderwriting, underwriting.id, item.1) = challenge.place) ∨
      ∃ item ∈ locateAll (legalWeighed legal ++ legalUnweighed legal),
        item.2 = .low ∧ (.legalComplianceCollateral, legal.id, item.1) = challenge.place := by
    intro challenge hmem
    rw [locateAll_append, locateAll_append]
    rcases (hplace challenge.place).1 ⟨challenge, hmem, rfl⟩ with
      ⟨item, hitem, hlow, heq⟩ | ⟨item, hitem, hlow, heq⟩
    · exact .inl ⟨item, List.mem_append_left _ hitem, hlow, heq⟩
    · exact .inr ⟨item, List.mem_append_left _ hitem, hlow, heq⟩
  rw [UnweighedNotLow, ← exactly_found_iff (underwritingConfidence_plainNames underwriting),
    ← exactly_found_iff (legalConfidence_plainNames legal), FlaggingExact]
  -- the makers' challenges differ in their source
  simp only [count_place h, hplace, Prod.mk.injEq, reduceCtorEq, true_and, false_and, and_false,
    exists_false, or_false, false_or, and_congr_right_iff, and_iff_left_iff_imp]
  intro _ _
  simpa only [Prod.mk.injEq] using hcover

end Flagging

/-- **When the flagging is exact.** -/
theorem flagging_exact_iff (underwriting : Underwriting.UnderwritingAssessment)
    (legal : Legal.LegalComplianceAssessment) (ids : Nat → Uuid) (first : Nat) :
    (Held (underwritingWeighed underwriting) → Held (legalWeighed legal) →
      ∃ challenges, flagLowConfidenceFindings underwriting legal ids first = .ok challenges) ∧
    ∀ challenges, flagLowConfidenceFindings underwriting legal ids first = .ok challenges →
      (FlaggingExact underwriting legal challenges ↔ UnweighedNotLow underwriting legal) := by
  constructor
  · intro hunderwriting hlegal
    exact (exists_raiseAll_iff ids first).2 (confidenceDrafts_fit hunderwriting hlegal)
  · intro challenges h
    exact flagging_exact_of_run h

/-- A maker's assessment that rates its finding about the source of repayment low. -/
def doubtedUnderwriting : Underwriting.UnderwritingAssessment :=
  { sampleUnderwriting with
    repaymentSource := ⟨⟨[{ oneFinding (.confirmedFact 7) with confidence := .low }],
      List.cons_ne_nil _ _⟩, []⟩
    valid := by decide +kernel }

theorem flag_doubted_run :
    flagLowConfidenceFindings doubtedUnderwriting sampleLegal (20 + ·) 0 = .ok [] :=
  Results.toOption_eq_some.1 (by decide +kernel)

theorem doubted_repayment_overlooked :
    flagLowConfidenceFindings doubtedUnderwriting sampleLegal (20 + ·) 0 = .ok [] ∧
      ¬FlaggingExact doubtedUnderwriting sampleLegal [] := by
  refine ⟨flag_doubted_run, ?_⟩
  rintro ⟨hflagged, -⟩
  have hitem : ("repayment_source.findings[0]", ConfidenceLevel.low) ∈
      locateAll (underwritingWeighed doubtedUnderwriting ++
        underwritingUnweighed doubtedUnderwriting) := by
    decide +kernel
  have hcount := hflagged _ hitem
  rw [if_pos rfl] at hcount
  cases hcount

theorem flagging_exact_doubted :
    FlaggingExact doubtedUnderwriting sampleLegal [] ↔
      UnweighedNotLow doubtedUnderwriting sampleLegal :=
  (flagging_exact_iff doubtedUnderwriting sampleLegal (20 + ·) 0).2 [] flag_doubted_run

/-! ## The visibility of gaps -/

/-- `recompute_visibility` -/
def recomputeVisibility (underwriting : Underwriting.UnderwritingAssessment)
    (legal : Legal.LegalComplianceAssessment) (openGaps : List EvidenceGap) (ids : Nat → Uuid) :
    Except BuildFault (VisibilityChecks × List Challenge) := do
  let checks := visibilityChecks underwriting legal openGaps
  let challenges ← raiseAll ids 0 (visibilityDrafts checks underwriting.id legal.id)
  return (checks, challenges)

/-- The task that persisted a maker's assessment, and with it the rows of its gaps. -/
def makerTask (underwriting : Underwriting.UnderwritingAssessment)
    (legal : Legal.LegalComplianceAssessment) : MakerSource → Uuid
  | .creditUnderwriting => underwriting.provenance.taskId
  | .legalComplianceCollateral => legal.provenance.taskId

/-- The blocking gaps of both makers, with their texts. -/
def blockingTexts (underwriting : Underwriting.UnderwritingAssessment)
    (legal : Legal.LegalComplianceAssessment) : List (MakerSource × String) :=
  (underwriting.evidenceGaps.filter (·.blockingLevel = .blocking)).map
      (fun gap => (.creditUnderwriting, gap.missingInformationVi.text)) ++
    (legal.evidenceGaps.filter (·.blockingLevel = .blocking)).map
      fun gap => (.legalComplianceCollateral, gap.missingInformationVi.text)

/-- The row is the open record of a blocking gap with the text, from the task. -/
def Records (row : EvidenceGap) (task : Uuid) (text : String) : Prop :=
  row.affectedTaskId = task ∧ row.missingInformationVi = text ∧ row.blockingLevel = .blocking

instance (row : EvidenceGap) (task : Uuid) (text : String) : Decidable (Records row task text) :=
  inferInstanceAs (Decidable (_ ∧ _ ∧ _))

/-- The blocking gaps of both makers are reported, and as visible exactly where an open row records
them. -/
def VisibilityExact (underwriting : Underwriting.UnderwritingAssessment)
    (legal : Legal.LegalComplianceAssessment) (openGaps : List EvidenceGap)
    (checks : VisibilityChecks) : Prop :=
  checks.blockingGaps.map (fun item => (item.source, item.missingInformationVi.text)) =
      blockingTexts underwriting legal ∧
    ∀ item ∈ checks.blockingGaps, item.stillVisible ↔
      ∃ row ∈ openGaps,
        Records row (makerTask underwriting legal item.source) item.missingInformationVi.text

/-- The text of no blocking gap stands only on open rows of another task or of a lower level. -/
def NothingMasked (underwriting : Underwriting.UnderwritingAssessment)
    (legal : Legal.LegalComplianceAssessment) (openGaps : List EvidenceGap) : Prop :=
  ∀ entry ∈ blockingTexts underwriting legal, ∀ masking ∈ openGaps,
    masking.missingInformationVi = entry.2 →
      ∃ row ∈ openGaps, Records row (makerTask underwriting legal entry.1) entry.2

instance (underwriting : Underwriting.UnderwritingAssessment)
    (legal : Legal.LegalComplianceAssessment) (openGaps : List EvidenceGap) :
    Decidable (NothingMasked underwriting legal openGaps) :=
  inferInstanceAs (Decidable (∀ entry ∈ blockingTexts underwriting legal, ∀ masking ∈ openGaps,
    masking.missingInformationVi = entry.2 →
      ∃ row ∈ openGaps, Records row (makerTask underwriting legal entry.1) entry.2))

theorem mem_visibilityGapItems {openTexts : List String} {gaps : List EvidenceGapItem}
    {item : VisibilityGapItem} (h : item ∈ visibilityGapItems openTexts source makerId gaps) :
    (item.stillVisible ↔ item.missingInformationVi.text ∈ openTexts) := by
  obtain ⟨_, -, rfl⟩ := List.mem_map.1 h
  exact decide_eq_true_iff

theorem visibilityGapItems_texts (openTexts : List String) (source : MakerSource) (makerId : Uuid)
    (gaps : List EvidenceGapItem) :
    (visibilityGapItems openTexts source makerId gaps).map
        (fun item => (item.source, item.missingInformationVi.text)) =
      (gaps.filter (·.blockingLevel = .blocking)).map
        fun gap => (source, gap.missingInformationVi.text) := by
  rw [visibilityGapItems, List.map_map]
  rfl

section Visibility

variable (underwriting : Underwriting.UnderwritingAssessment)
  (legal : Legal.LegalComplianceAssessment) (openGaps : List EvidenceGap)

/-- **Every blocking gap is reported.** -/
theorem blockingGaps_texts :
    (visibilityChecks underwriting legal openGaps).blockingGaps.map
        (fun item => (item.source, item.missingInformationVi.text)) =
      blockingTexts underwriting legal := by
  rw [visibilityChecks, List.map_append, visibilityGapItems_texts, visibilityGapItems_texts]
  rfl

theorem stillVisible_iff {item : VisibilityGapItem}
    (h : item ∈ (visibilityChecks underwriting legal openGaps).blockingGaps) :
    item.stillVisible ↔
      ∃ row ∈ openGaps, row.missingInformationVi = item.missingInformationVi.text := by
  rw [← List.mem_map]
  rcases List.mem_append.1 h with hmem | hmem
  all_goals exact mem_visibilityGapItems hmem

/-- The drafts about gaps have room for their texts, and an exception is always carried forward. -/
theorem visibilityDrafts_fit :
    ∀ draft ∈ visibilityDrafts (visibilityChecks underwriting legal openGaps) underwriting.id legal.id,
      draft.Fits := by
  intro draft hdraft
  rcases List.mem_append.1 hdraft with hmem | hmem
  · obtain ⟨item, -, rfl⟩ := List.mem_map.1 hmem
    have hpath : 1 ≤ "evidence_gaps[*]".length ∧ "evidence_gaps[*]".length ≤ 200 := by decide
    refine ⟨hpath, ?_⟩
    simp only [gapVisibilityDraft, String.length_append]
    have htext : ("Khoang trong bang chung chan (BLOCKING) da cong bo khong con hien thi trong ho so: "
        ).length = 83 := by decide
    have hgap := item.missingInformationVi.le_high
    omega
  · obtain ⟨_, hitem, -⟩ := List.mem_map.1 hmem
    obtain ⟨hexception, hhidden⟩ := List.mem_filter.1 hitem
    obtain ⟨_, -, rfl⟩ := List.mem_map.1 hexception
    cases hhidden

/-- **When the visibility of gaps is exact**, among the open records of the version. -/
theorem visibility_exact_iff (ids : Nat → Uuid) : ∃ checks challenges,
    recomputeVisibility underwriting legal openGaps ids = .ok (checks, challenges) ∧
      (VisibilityExact underwriting legal openGaps checks ↔
        NothingMasked underwriting legal openGaps) := by
  obtain ⟨challenges, hchals⟩ := (exists_raiseAll_iff ids 0).2
    (visibilityDrafts_fit underwriting legal openGaps)
  have hrun : recomputeVisibility underwriting legal openGaps ids =
      .ok (visibilityChecks underwriting legal openGaps, challenges) :=
    Results.bind_eq_ok.2 ⟨challenges, hchals, rfl⟩
  refine ⟨_, challenges, hrun, ?_⟩
  have htexts := blockingGaps_texts underwriting legal openGaps
  constructor
  · rintro ⟨-, hvisible⟩ _ hentry masking hmasking htext
    rw [← htexts] at hentry
    obtain ⟨item, hitem, rfl⟩ := List.mem_map.1 hentry
    apply (hvisible item hitem).1
    exact (stillVisible_iff underwriting legal openGaps hitem).2 ⟨masking, hmasking, htext⟩
  · intro hmasked
    refine ⟨htexts, ?_⟩
    intro item hitem
    rw [stillVisible_iff underwriting legal openGaps hitem]
    constructor
    · rintro ⟨masking, hmasking, htext⟩
      have hentry : (item.source, item.missingInformationVi.text) ∈ blockingTexts underwriting legal := by
        rw [← htexts]
        exact List.mem_map_of_mem (f := fun item : VisibilityGapItem =>
          (item.source, item.missingInformationVi.text)) hitem
      exact hmasked _ hentry masking hmasking htext
    · rintro ⟨row, hrow, -, htext, -⟩
      exact ⟨row, hrow, htext⟩

end Visibility

/-- A maker's assessment with one blocking gap. -/
def gappedUnderwriting : Underwriting.UnderwritingAssessment :=
  { sampleUnderwriting with
    evidenceGaps := [⟨oneText 1 2000 (by decide), oneText 1 2000 (by decide), .blocking, []⟩]
    valid := by decide +kernel }

/-- The only open row with the text is another task's, and does not block. -/
def maskingRow : EvidenceGap := ⟨1, 1, 40, .formal, .conditional, "a", []⟩

theorem dropped_gap_masked : ∃ checks challenges,
    recomputeVisibility gappedUnderwriting sampleLegal [maskingRow] (20 + ·) =
        .ok (checks, challenges) ∧
      ¬VisibilityExact gappedUnderwriting sampleLegal [maskingRow] checks := by
  refine ⟨visibilityChecks gappedUnderwriting sampleLegal [maskingRow], [], ?_, ?_⟩
  · exact Results.toOption_eq_some.1 (by decide +kernel)
  · rintro ⟨-, hvisible⟩
    exact absurd hvisible (by decide +kernel)

end CreditOps.Assessments.RiskReview
