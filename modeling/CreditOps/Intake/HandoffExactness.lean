import CreditOps.Intake.Handoffs

/-!
# What the validator of a handoff accepts

The validator walks the candidates, the confirmations and the facts, each beside the ones before it, and
compares keys at the end. What it accepts is described without the walk (`ExactHandoff`): distinct ids,
one confirmation a candidate, one fact a supported confirmation, the fields of each fact as its candidate
and its confirmation have them, and one case and version throughout. It accepts nothing else
(`checkHandoff_iff`).
-/

set_option autoImplicit false

namespace CreditOps.Intake

open Evidence (FactValue FactDisposition)

/-! ## The accepted handoffs -/

/-- The fact is what its candidate and its confirmation say, field by field. The value is the proposed one
or the correction; values are compared as the source compares them. -/
structure Agrees (candidate : CandidateFact) (confirmation : FactConfirmation) (fact : ConfirmedFact) :
    Prop where
  candidateId : fact.candidateId = candidate.id
  confirmationId : fact.confirmationId = confirmation.id
  confirms : confirmation.candidateId = candidate.id
  supported : supported confirmation.disposition = true
  documentVersionId : fact.documentVersionId = candidate.documentVersionId
  fieldKey : fact.fieldKey = candidate.fieldKey
  candidateValue : FactValue.pyEq fact.candidateValue candidate.proposedValue = true
  value : ∃ expected, expectedValue candidate confirmation.disposition = some expected ∧
    FactValue.pyEq fact.value expected = true
  source : fact.source = candidate.source
  authority : fact.authority = confirmation.authority
  confirmedAt : fact.confirmedAt = confirmation.confirmedAt

/-- The confirmations that support a fact. -/
def supportedConfirmations (artifact : HandoffArtifact) : List FactConfirmation :=
  artifact.confirmations.filter (supported ·.disposition)

/-- **An exact handoff.** Ids are distinct, so the two permutations of keys are bijections: of the
confirmations with the candidates, and of the facts with the supported confirmations. -/
structure ExactHandoff (artifact : HandoffArtifact) : Prop where
  candidates_scoped : ∀ candidate ∈ artifact.candidates,
    candidate.caseId = artifact.caseId ∧ candidate.caseVersion = artifact.caseVersion
  confirmations_scoped : ∀ confirmation ∈ artifact.confirmations,
    confirmation.authority.caseId = artifact.caseId ∧
      confirmation.authority.caseVersion = artifact.caseVersion
  facts_scoped : ∀ fact ∈ artifact.confirmedFacts,
    fact.caseId = artifact.caseId ∧ fact.caseVersion = artifact.caseVersion
  candidateIds_nodup : (artifact.candidates.map (·.id)).Nodup
  confirmationIds_nodup : (artifact.confirmations.map (·.id)).Nodup
  confirmations_perm :
    (artifact.confirmations.map (·.candidateId)).Perm (artifact.candidates.map (·.id))
  facts_perm :
    (artifact.confirmedFacts.map (·.confirmationId)).Perm ((supportedConfirmations artifact).map (·.id))
  facts_agree : ∀ fact ∈ artifact.confirmedFacts, ∃ candidate ∈ artifact.candidates,
    ∃ confirmation ∈ artifact.confirmations, Agrees candidate confirmation fact

/-! ## One record -/

variable {artifact : HandoffArtifact}

theorem any_eq_false_iff {α : Type} {xs : List α} {key : α → Uuid} {id : Uuid} :
    ¬ (xs.any fun x => key x = id) = true ↔ ∀ x ∈ xs, key x ≠ id := by
  rw [List.any_eq_true]
  push Not
  simp only [decide_eq_true_eq, ne_eq]

theorem checkCandidate_iff {seen out : List CandidateFact} {candidate : CandidateFact} :
    checkCandidate artifact seen candidate = .ok out ↔
      (candidate.caseId = artifact.caseId ∧ candidate.caseVersion = artifact.caseVersion) ∧
        (∀ earlier ∈ seen, earlier.id ≠ candidate.id) ∧ out = seen ++ [candidate] := by
  unfold checkCandidate
  rw [Results.refuse_eq_ok, Results.refuse_eq_ok, any_eq_false_iff, not_or, not_not, not_not,
    Except.ok.injEq, eq_comm (b := out)]

theorem checkConfirmation_iff {seen out : List FactConfirmation} {confirmation : FactConfirmation} :
    checkConfirmation artifact seen confirmation = .ok out ↔
      ((confirmation.authority.caseId = artifact.caseId ∧
          confirmation.authority.caseVersion = artifact.caseVersion) ∧
        ∃ candidate ∈ artifact.candidates, candidate.id = confirmation.candidateId) ∧
      (∀ earlier ∈ seen, earlier.id ≠ confirmation.id ∧ earlier.candidateId ≠ confirmation.candidateId) ∧
        out = seen ++ [confirmation] := by
  have hknown : ¬ (artifact.candidates.all fun candidate => candidate.id ≠ confirmation.candidateId) = true ↔
      ∃ candidate ∈ artifact.candidates, candidate.id = confirmation.candidateId := by
    rw [List.all_eq_true]
    push Not
    simp only [ne_eq, decide_not, Bool.not_eq_true', decide_eq_false_iff_not, not_not]
  unfold checkConfirmation
  rw [Results.refuse_eq_ok, Results.refuse_eq_ok, Results.refuse_eq_ok, Results.refuse_eq_ok,
    any_eq_false_iff, any_eq_false_iff, hknown, not_or, not_not, not_not, Except.ok.injEq,
    eq_comm (b := out)]
  constructor
  · rintro ⟨hscope, hid, hcand, hdisposed, hout⟩
    exact ⟨⟨hscope, hcand⟩, fun earlier hmem => ⟨hid earlier hmem, hdisposed earlier hmem⟩, hout⟩
  · rintro ⟨⟨hscope, hcand⟩, hfresh, hout⟩
    exact ⟨hscope, fun earlier hmem => (hfresh earlier hmem).1, hcand,
      fun earlier hmem => (hfresh earlier hmem).2, hout⟩

/-- What one fact is checked for on its own. -/
def FactFits (artifact : HandoffArtifact) (fact : ConfirmedFact) : Prop :=
  (fact.caseId = artifact.caseId ∧ fact.caseVersion = artifact.caseVersion) ∧
    ∃ candidate confirmation, artifact.candidates.find? (·.id = fact.candidateId) = some candidate ∧
      artifact.confirmations.find? (·.candidateId = fact.candidateId) = some confirmation ∧
        supported confirmation.disposition = true ∧ matchesEvidence candidate confirmation fact = true

theorem checkFact_iff {seen out : List ConfirmedFact} {fact : ConfirmedFact} :
    checkFact artifact seen fact = .ok out ↔
      FactFits artifact fact ∧ (∀ earlier ∈ seen, earlier.confirmationId ≠ fact.confirmationId) ∧
        out = seen ++ [fact] := by
  unfold checkFact FactFits
  rw [Results.refuse_eq_ok, not_or, not_not, not_not, and_assoc (c := _ ∧ _)]
  refine and_congr_right fun _ => ?_
  cases hcand : artifact.candidates.find? (·.id = fact.candidateId) with
  | none =>
    refine iff_of_false (fun h => by cases h) ?_
    rintro ⟨⟨_, _, hfound, -⟩, -⟩
    cases hfound
  | some candidate =>
    cases hconf : artifact.confirmations.find? (·.candidateId = fact.candidateId) with
    | none =>
      refine iff_of_false (fun h => by cases h) ?_
      rintro ⟨⟨_, _, -, hfound, -⟩, -⟩
      cases hfound
    | some confirmation =>
      dsimp only
      rw [Results.refuse_eq_ok, Results.refuse_eq_ok, any_eq_false_iff, Bool.not_eq_true', Bool.not_eq_false]
      by_cases hmatch : matchesEvidence candidate confirmation fact = true
      · rw [if_pos hmatch, Except.ok.injEq, eq_comm (b := out)]
        constructor
        · rintro ⟨hsupported, hfresh, hout⟩
          exact ⟨⟨candidate, confirmation, rfl, rfl, hsupported, hmatch⟩, hfresh, hout⟩
        · rintro ⟨⟨_, _, hfound, hfound', hsupported, -⟩, hfresh, hout⟩
          cases hfound
          cases hfound'
          exact ⟨hsupported, hfresh, hout⟩
      · rw [if_neg hmatch]
        refine iff_of_false (fun h => by cases h.2.2) ?_
        rintro ⟨⟨_, _, hfound, hfound', -, hmatch'⟩, -⟩
        cases hfound
        cases hfound'
        exact hmatch hmatch'

/-! ## The walks -/

theorem candidates_walk {out : List CandidateFact} :
    artifact.candidates.foldlM (checkCandidate artifact) [] = .ok out ↔
      (∀ candidate ∈ artifact.candidates,
        candidate.caseId = artifact.caseId ∧ candidate.caseVersion = artifact.caseVersion) ∧
      (artifact.candidates.map (·.id)).Nodup ∧ out = artifact.candidates := by
  rw [Results.foldlM_checked (fun _ _ _ => checkCandidate_iff), List.Nodup, List.pairwise_map,
    List.nil_append]
  simp only [List.not_mem_nil, false_implies, implies_true, true_and]

theorem confirmations_walk {out : List FactConfirmation} :
    artifact.confirmations.foldlM (checkConfirmation artifact) [] = .ok out ↔
      (∀ confirmation ∈ artifact.confirmations,
        (confirmation.authority.caseId = artifact.caseId ∧
          confirmation.authority.caseVersion = artifact.caseVersion) ∧
        ∃ candidate ∈ artifact.candidates, candidate.id = confirmation.candidateId) ∧
      ((artifact.confirmations.map (·.id)).Nodup ∧ (artifact.confirmations.map (·.candidateId)).Nodup) ∧
        out = artifact.confirmations := by
  rw [Results.foldlM_checked (R := fun a b => a.id ≠ b.id ∧ a.candidateId ≠ b.candidateId)
    (fun _ _ _ => checkConfirmation_iff), List.pairwise_and_iff, List.nil_append]
  simp only [List.Nodup, List.pairwise_map, List.not_mem_nil, false_implies, implies_true, true_and]

theorem facts_walk {out : List ConfirmedFact} :
    artifact.confirmedFacts.foldlM (checkFact artifact) [] = .ok out ↔
      (∀ fact ∈ artifact.confirmedFacts, FactFits artifact fact) ∧
      (artifact.confirmedFacts.map (·.confirmationId)).Nodup ∧ out = artifact.confirmedFacts := by
  rw [Results.foldlM_checked (fun _ _ _ => checkFact_iff), List.Nodup, List.pairwise_map, List.nil_append]
  simp only [List.not_mem_nil, false_implies, implies_true, true_and]

/-- The facts pass when each fits and their confirmations are the supported ones, each once. -/
theorem checkFacts_iff (hids : (artifact.confirmations.map (·.id)).Nodup) :
    checkFacts artifact = .ok () ↔ (∀ fact ∈ artifact.confirmedFacts, FactFits artifact fact) ∧
      (artifact.confirmedFacts.map (·.confirmationId)).Perm ((supportedConfirmations artifact).map (·.id)) := by
  have hsupported : ((supportedConfirmations artifact).map (·.id)).Nodup :=
    hids.sublist (List.filter_sublist.map _)
  unfold checkFacts
  rw [Results.bind_eq_ok]
  constructor
  · rintro ⟨facts, hwalk, hends⟩
    obtain ⟨hfits, hnodup, rfl⟩ := facts_walk.1 hwalk
    refine ⟨hfits, ?_⟩
    dsimp only at hends
    split at hends
    · rename_i hkeys
      obtain ⟨hsub, hsup⟩ := hkeys
      refine (List.perm_ext_iff_of_nodup hnodup hsupported).2 fun id => ?_
      constructor
      · intro hmem
        obtain ⟨fact, hfact, rfl⟩ := List.mem_map.1 hmem
        exact of_decide_eq_true (List.all_eq_true.1 hsub fact hfact)
      · intro hmem
        obtain ⟨fact, hfact, hid⟩ := List.any_eq_true.1 (List.all_eq_true.1 hsup id hmem)
        exact List.mem_map.2 ⟨fact, hfact, of_decide_eq_true hid⟩
    · cases hends
  · rintro ⟨hfits, hperm⟩
    refine ⟨artifact.confirmedFacts, facts_walk.2 ⟨hfits, hperm.nodup_iff.2 hsupported, rfl⟩, ?_⟩
    dsimp only
    refine if_pos ⟨List.all_eq_true.2 ?_, List.all_eq_true.2 ?_⟩
    · intro fact hfact
      exact decide_eq_true (hperm.subset (List.mem_map_of_mem hfact))
    · intro id hid
      obtain ⟨fact, hfact, hof⟩ := List.mem_map.1 (hperm.symm.subset hid)
      exact List.any_eq_true.2 ⟨fact, hfact, decide_eq_true hof⟩

/-! ## The whole check -/

theorem find?_key_eq_some_iff {α : Type} {xs : List α} {key : α → Uuid} (h : (xs.map key).Nodup) {id : Uuid}
    {x : α} : xs.find? (fun x => key x = id) = some x ↔ x ∈ xs ∧ key x = id := by
  constructor
  · intro hfound
    exact ⟨List.mem_of_find?_eq_some hfound, of_decide_eq_true (@List.find?_some _ (fun x => key x = id) _ _ hfound)⟩
  · rintro ⟨hmem, hkey⟩
    cases hfound : xs.find? (fun x => key x = id) with
    | none => exact absurd (decide_eq_true hkey) (List.find?_eq_none.1 hfound x hmem)
    | some y =>
      have hy : key y = id := of_decide_eq_true (@List.find?_some _ (fun x => key x = id) _ _ hfound)
      rw [List.inj_on_of_nodup_map h (List.mem_of_find?_eq_some hfound) hmem (hy.trans hkey.symm)]

/-- **One fact.** Where ids are distinct a fact passes exactly when it is in scope and agrees with a candidate
and its confirmation. -/
theorem factFits_iff (hcands : (artifact.candidates.map (·.id)).Nodup)
    (hconfs : (artifact.confirmations.map (·.candidateId)).Nodup) {fact : ConfirmedFact} :
    FactFits artifact fact ↔
      (fact.caseId = artifact.caseId ∧ fact.caseVersion = artifact.caseVersion) ∧
        ∃ candidate ∈ artifact.candidates, ∃ confirmation ∈ artifact.confirmations,
          Agrees candidate confirmation fact := by
  refine and_congr_right fun _ => ?_
  constructor
  · rintro ⟨candidate, confirmation, hcand, hconf, hsupported, hmatch⟩
    obtain ⟨hmem, hid⟩ := (find?_key_eq_some_iff hcands).1 hcand
    obtain ⟨hmem', hid'⟩ := (find?_key_eq_some_iff hconfs).1 hconf
    obtain ⟨hconfirms, hdoc, hfield, hprop, hvalue, hsource, hauthority, hat⟩ :=
      of_decide_eq_true hmatch
    obtain ⟨expected, hexpected, hequal⟩ := (Option.any_eq_true _ _).1 hvalue
    exact ⟨candidate, hmem, confirmation, hmem',
      ⟨hid.symm, hconfirms, hid'.trans hid.symm, hsupported, hdoc, hfield, hprop,
        ⟨expected, hexpected, hequal⟩, hsource, hauthority, hat⟩⟩
  · rintro ⟨candidate, hmem, confirmation, hmem', hagrees⟩
    obtain ⟨expected, hexpected, hequal⟩ := hagrees.value
    refine ⟨candidate, confirmation, (find?_key_eq_some_iff hcands).2 ⟨hmem, hagrees.candidateId.symm⟩,
      (find?_key_eq_some_iff hconfs).2 ⟨hmem', hagrees.confirms.trans hagrees.candidateId.symm⟩,
      hagrees.supported, decide_eq_true ?_⟩
    exact ⟨hagrees.confirmationId, hagrees.documentVersionId, hagrees.fieldKey, hagrees.candidateValue,
      (Option.any_eq_true _ _).2 ⟨expected, hexpected, hequal⟩, hagrees.source, hagrees.authority,
      hagrees.confirmedAt⟩

/-- **The validator is exact.** An artifact of a positive case version is accepted exactly when it is an exact
handoff. -/
theorem checkHandoff_iff (hver : 1 ≤ artifact.caseVersion) :
    checkHandoff artifact = .ok () ↔ ExactHandoff artifact := by
  have hpositive : ¬ artifact.caseVersion < 1 := Nat.not_lt.2 hver
  unfold checkHandoff
  rw [Results.refuse_eq_ok, and_iff_right hpositive, Results.bind_eq_ok]
  constructor
  · rintro ⟨candidates, hcands, hrest⟩
    obtain ⟨hscoped, hnodup, rfl⟩ := candidates_walk.1 hcands
    obtain ⟨confirmations, hconfs, hlast⟩ := Results.bind_eq_ok.1 hrest
    obtain ⟨hscoped', ⟨hids, hof⟩, rfl⟩ := confirmations_walk.1 hconfs
    split at hlast
    · cases hlast
    rename_i hmissing
    obtain ⟨hfits, hperm⟩ := (checkFacts_iff hids).1 hlast
    refine ⟨hscoped, fun c hc => (hscoped' c hc).1, fun fact hfact => (hfits fact hfact).1, hnodup, hids,
      ?_, hperm, fun fact hfact => ((factFits_iff hnodup hof).1 (hfits fact hfact)).2⟩
    refine (List.perm_ext_iff_of_nodup hof hnodup).2 fun id => ?_
    constructor
    · intro hmem
      obtain ⟨confirmation, hconf, rfl⟩ := List.mem_map.1 hmem
      obtain ⟨candidate, hcand, hid⟩ := (hscoped' confirmation hconf).2
      exact List.mem_map.2 ⟨candidate, hcand, hid⟩
    · intro hmem
      obtain ⟨candidate, hcand, rfl⟩ := List.mem_map.1 hmem
      by_contra hnone
      -- the candidate would be a missing one
      refine hmissing (List.any_eq_true.2 ⟨candidate, hcand, List.all_eq_true.2 ?_⟩)
      intro confirmation hconf
      refine decide_eq_true fun hid => hnone ?_
      exact List.mem_map.2 ⟨confirmation, hconf, hid⟩
  · intro hexact
    have hof : (artifact.confirmations.map (·.candidateId)).Nodup :=
      hexact.confirmations_perm.nodup_iff.2 hexact.candidateIds_nodup
    refine ⟨_, candidates_walk.2 ⟨hexact.candidates_scoped, hexact.candidateIds_nodup, rfl⟩,
      Results.bind_eq_ok.2 ⟨_, confirmations_walk.2 ⟨?_, ⟨hexact.confirmationIds_nodup, hof⟩, rfl⟩, ?_⟩⟩
    · intro confirmation hconf
      refine ⟨hexact.confirmations_scoped confirmation hconf, ?_⟩
      have hmem := hexact.confirmations_perm.subset
        (List.mem_map_of_mem (f := fun c : FactConfirmation => c.candidateId) hconf)
      obtain ⟨candidate, hcand, hid⟩ := List.mem_map.1 hmem
      exact ⟨candidate, hcand, hid⟩
    · have hpresent : ¬ (artifact.candidates.any fun candidate =>
          artifact.confirmations.all (·.candidateId ≠ candidate.id)) = true := by
        intro hmissing
        obtain ⟨_, hcand, hall⟩ := List.any_eq_true.1 hmissing
        have hmem := hexact.confirmations_perm.symm.subset
          (List.mem_map_of_mem (f := fun c : CandidateFact => c.id) hcand)
        obtain ⟨confirmation, hconf, hid⟩ := List.mem_map.1 hmem
        exact of_decide_eq_true (List.all_eq_true.1 hall confirmation hconf) hid
      rw [if_neg hpresent]
      refine (checkFacts_iff hexact.confirmationIds_nodup).2 ⟨fun fact hfact => ?_, hexact.facts_perm⟩
      exact (factFits_iff hexact.candidateIds_nodup hof).2
        ⟨hexact.facts_scoped fact hfact, hexact.facts_agree fact hfact⟩

/-- The authority of the assigned officer. -/
def sampleAuthority : ConfirmationAuthority where
  caseId := 1
  caseVersion := 7
  actorId := 9
  assignedOfficerId := 9
  grantedAt := 100
  source := "CASE_ASSIGNMENT"

/-- A candidate read from the first page of a document. -/
def sampleCandidate (id : Uuid) (fieldKey text : String) : CandidateFact where
  id
  caseId := 1
  caseVersion := 7
  documentVersionId := 61
  fieldKey
  proposedValue := .string text
  confidence := 1 / 2
  source := ⟨1, 0, 0, 1, 1⟩

/-- Two candidates, one accepted and one corrected, and their facts. -/
def sampleHandoff : HandoffArtifact where
  id := 1000
  caseId := 1
  caseVersion := 7
  candidates := [sampleCandidate 20 "revenue" "12", sampleCandidate 21 "tax_code" "O101"]
  confirmations :=
    [⟨31, 21, .corrected (.string "0101"), sampleAuthority, 110⟩, ⟨30, 20, .accepted, sampleAuthority, 111⟩]
  confirmedFacts :=
    [⟨40, 1, 7, 20, 30, 61, "revenue", .string "12", .string "12", ⟨1, 0, 0, 1, 1⟩, sampleAuthority, 111⟩,
      ⟨41, 1, 7, 21, 31, 61, "tax_code", .string "0101", .string "O101", ⟨1, 0, 0, 1, 1⟩, sampleAuthority,
        110⟩]
  conflictIds := []
  gapIds := []

theorem sampleHandoff_exact : 1 ≤ sampleHandoff.caseVersion ∧ ExactHandoff sampleHandoff := by
  have hver : 1 ≤ sampleHandoff.caseVersion := by decide
  have haccepted : checkHandoff sampleHandoff = .ok () := by decide +kernel
  exact ⟨hver, (checkHandoff_iff hver).1 haccepted⟩

end CreditOps.Intake
