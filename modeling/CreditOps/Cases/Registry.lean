import CreditOps.Library.Transition
import CreditOps.Orchestration.Revision

/-!
# The cases an officer sees

Whether an officer can see a case is decided by one query: the case joined with the officer's active
assignments and, laterally, with the newest financing request *of the current case version*. A case
without such a request has no row, so neither `get_assigned` nor `list_assigned` returns it, and every
endpoint of the case answers 404.

A financing request is written at the case version current at that moment and never moves
(`FromPast.step`). The bump of a maker revision opens a version that has none
(`currentRequest_bump`), so a revision hides its case from every officer
(`revision_hides_case`): from `get_assigned`, and from every page of `list_assigned`.
-/

set_option autoImplicit false

namespace CreditOps.Cases

open Orchestration Transition

/-! ## Rows -/

/-- One row of `credit_cases`, with the orchestration tables of its case. -/
structure CaseRow where
  tables : CaseTables
  createdBy : Uuid
  createdAt : Timestamp
deriving DecidableEq

/-- The primary key. -/
abbrev CaseRow.id (row : CaseRow) : Uuid := row.tables.caseId

/-- The column `case_version`. -/
abbrev CaseRow.version (row : CaseRow) : CaseVersion := row.tables.caseVersion

/-- One row of `case_assignments`: unique by case, officer and role. -/
structure CaseAssignment where
  caseId : Uuid
  officerId : Uuid
  caseRole : String
  assignedBy : Uuid
  revokedAt : Option Timestamp
deriving DecidableEq

/-- One row of `financing_requests`, with the columns the case query reads. The amount is a
`numeric(30, 0)`. -/
structure FinancingRequest where
  id : Uuid
  caseId : Uuid
  caseVersion : CaseVersion
  requestVersion : Nat
  requestedAmount : Nat
  purposeVi : String
  createdBy : Uuid
deriving DecidableEq

/-- The three tables of the query. -/
structure Registry where
  cases : List CaseRow
  assignments : List CaseAssignment
  financingRequests : List FinancingRequest
deriving DecidableEq

/-- `CaseRecord` -/
structure CaseRecord where
  id : Uuid
  version : CaseVersion
  assignedOfficerId : Uuid
  requestedAmount : String
  purposeVi : String
  createdAt : Timestamp
deriving DecidableEq

namespace Registry

/-! ## Reads -/

/-- The lateral join: the newest financing request of the current case version. -/
def currentRequest (registry : Registry) (row : CaseRow) : Option FinancingRequest :=
  ((registry.financingRequests.filter fun request =>
    request.caseId = row.id ∧ request.caseVersion = row.version).insertionSort
      fun a b => b.requestVersion ≤ a.requestVersion).head?

/-- `_CASE_COLUMNS` -/
def record (row : CaseRow) (assignment : CaseAssignment) (request : FinancingRequest) :
    CaseRecord where
  id := row.id
  version := row.version
  assignedOfficerId := assignment.officerId
  requestedAmount := toString request.requestedAmount
  purposeVi := request.purposeVi
  createdAt := row.createdAt

/-- `_CASE_FROM`, for the assignments of one officer. -/
def assignedRecords (registry : Registry) (actorId : Uuid) : List CaseRecord :=
  registry.cases.flatMap fun row =>
    (registry.assignments.filter fun assignment =>
      assignment.caseId = row.id ∧ assignment.revokedAt = none ∧
        assignment.officerId = actorId).filterMap fun assignment =>
          (registry.currentRequest row).map (record row assignment)

/-- `get_assigned` -/
def getAssigned (registry : Registry) (caseId actorId : Uuid) : Option CaseRecord :=
  (registry.assignedRecords actorId).find? (·.id = caseId)

/-- `order by created_at desc, id desc` -/
def newestFirst (a b : CaseRecord) : Prop :=
  b.createdAt < a.createdAt ∨ (b.createdAt = a.createdAt ∧ b.id ≤ a.id)

instance (a b : CaseRecord) : Decidable (newestFirst a b) :=
  inferInstanceAs (Decidable (_ ∨ _))

/-- Where a page starts: nowhere in particular, or after the cursor's case, if the officer is assigned
to it. -/
def cursorPosition (registry : Registry) (actorId : Uuid) :
    Option Uuid → Option (Option (Timestamp × Uuid))
  | none => some none
  | some cursor =>
    (registry.cases.find? fun row =>
      row.id = cursor ∧ registry.assignments.any fun assignment =>
        assignment.caseId = row.id ∧ assignment.revokedAt = none ∧
          assignment.officerId = actorId).map fun row => some (row.createdAt, row.id)

/-- `(created_at, id) < position` -/
def isAfter (position : Option (Timestamp × Uuid)) (found : CaseRecord) : Bool :=
  match position with
  | none => true
  | some (createdAt, id) =>
    found.createdAt < createdAt ∨ (found.createdAt = createdAt ∧ found.id < id)

/-- `list_assigned`: one page, and the cursor of the next; the endpoint asks for at least one row. -/
def listAssigned (registry : Registry) (actorId : Uuid) (cursor : Option Uuid) (limit : Nat) :
    List CaseRecord × Option Uuid :=
  match registry.cursorPosition actorId cursor with
  | none => ([], none)
  | some position =>
    let records := (((registry.assignedRecords actorId).filter (isAfter position)).insertionSort
      newestFirst).take (limit + 1)
    let page := records.take limit
    (page, if limit < records.length then page.getLast?.map (·.id) else none)

/-! ## Writes -/

/-- Case row of a new case: version one, with nothing in its tables. -/
def newCase (caseId actorId : Uuid) (now : Timestamp) : CaseRow where
  tables :=
    { caseId
      caseVersion := 1
      handoffs := []
      tasks := []
      dependencies := []
      gates := []
      gaps := []
      outbox := []
      audit := [] }
  createdBy := actorId
  createdAt := now

/-- `PostgresCaseRepository.create`: the case, the assignment and the first financing request. It is
rolled back when the officer does not see the case it just created. -/
def create (registry : Registry) (caseId requestId actorId assignedOfficerId : Uuid)
    (requestedAmount : Nat) (purposeVi : String) (now : Timestamp) : Option Registry :=
  if registry.cases.any (·.id = caseId) ∨ requestedAmount = 0 ∨ isBlank purposeVi then none
  else
    let created : Registry :=
      { cases := newCase caseId actorId now :: registry.cases
        assignments :=
          ⟨caseId, assignedOfficerId, "INTAKE_OFFICER", actorId, none⟩ :: registry.assignments
        financingRequests :=
          ⟨requestId, caseId, 1, 1, requestedAmount, purposeVi, actorId⟩ ::
            registry.financingRequests }
    if (created.getAssigned caseId assignedOfficerId).isSome then some created else none

/-- `coalesce(max(request_version), 0) + 1` -/
def nextRequestVersion (registry : Registry) (caseId : Uuid) : Nat :=
  ((registry.financingRequests.filter (·.caseId = caseId)).map (·.requestVersion)).foldl max 0 + 1

/-- `append_version`. The insert trigger refuses a request that is not written at the current case
version. -/
def appendVersion (registry : Registry) (requestId caseId : Uuid) (caseVersion : CaseVersion)
    (requestedAmount : Nat) (purposeVi : String) (actorId : Uuid) : Option Registry :=
  match registry.cases.find? (·.id = caseId) with
  | none => none
  | some row =>
    if row.version ≠ caseVersion ∨ requestedAmount = 0 ∨ isBlank purposeVi then none
    else
      some { registry with
             financingRequests :=
              ⟨requestId, caseId, caseVersion, registry.nextRequestVersion caseId, requestedAmount,
                purposeVi, actorId⟩ :: registry.financingRequests }

/-- Replace the orchestration tables of a case. -/
def setTables (registry : Registry) (caseId : Uuid) (tables : CaseTables) : Registry :=
  { registry with
    cases := registry.cases.map fun row => if row.id = caseId then { row with tables } else row }

end Registry

/-! ## Requests -/

/-- One transaction. Assignments are given and taken by the service role, outside the use cases.
`otherWrites` stands for every transaction of a case that leaves the three tables alone. -/
inductive Request where
  | create (caseId requestId actorId assignedOfficerId : Uuid) (requestedAmount : Nat)
      (purposeVi : String) (now : Timestamp)
  | appendVersion (requestId caseId : Uuid) (caseVersion : CaseVersion) (requestedAmount : Nat)
      (purposeVi : String) (actorId : Uuid)
  | assign (assignment : CaseAssignment)
  | revoke (caseId officerId : Uuid) (caseRole : String) (now : Timestamp)
  | otherWrites (tables : CaseTables)
  | bumpCaseVersion (caseId : Uuid) (revision : RevisionRequest) (handoffId : Uuid)
deriving DecidableEq

/-- The step function; `none` for a request that is refused. -/
def step (registry : Registry) : Request → Option Registry
  | .create caseId requestId actorId assignedOfficerId requestedAmount purposeVi now =>
    registry.create caseId requestId actorId assignedOfficerId requestedAmount purposeVi now
  | .appendVersion requestId caseId caseVersion requestedAmount purposeVi actorId =>
    registry.appendVersion requestId caseId caseVersion requestedAmount purposeVi actorId
  | .assign assignment =>
    if registry.assignments.any fun other =>
        other.caseId = assignment.caseId ∧ other.officerId = assignment.officerId ∧
          other.caseRole = assignment.caseRole then none
    else some { registry with assignments := assignment :: registry.assignments }
  | .revoke caseId officerId caseRole now =>
    some { registry with
           assignments := registry.assignments.map fun assignment =>
            if assignment.caseId = caseId ∧ assignment.officerId = officerId ∧
                assignment.caseRole = caseRole then { assignment with revokedAt := some now }
            else assignment }
  | .otherWrites tables =>
    match registry.cases.find? (·.id = tables.caseId) with
    | none => none
    | some row =>
      if row.version = tables.caseVersion then some (registry.setTables tables.caseId tables)
      else none
  | .bumpCaseVersion caseId revision handoffId =>
    match registry.cases.find? (·.id = caseId) with
    | none => none
    | some row =>
      match row.tables.bumpCaseVersion revision handoffId with
      | .ok tables => some (registry.setTables caseId tables)
      | .error _ => none

/-- A store without any case. -/
def noCases : Registry where
  cases := []
  assignments := []
  financingRequests := []

/-! ## Financing requests stay at their version -/

/-- No financing request is ahead of its case, a request has a case, and a case has one version. -/
structure FromPast (registry : Registry) : Prop where
  unique : ∀ row ∈ registry.cases, ∀ other ∈ registry.cases, row.id = other.id →
    row.version = other.version
  known : ∀ request ∈ registry.financingRequests, ∃ row ∈ registry.cases, row.id = request.caseId
  past : ∀ request ∈ registry.financingRequests, ∀ row ∈ registry.cases,
    row.id = request.caseId → request.caseVersion ≤ row.version

section Invariant

variable {registry registry' : Registry} {tables : CaseTables}

theorem find_row {caseId : Uuid} {row : CaseRow}
    (h : registry.cases.find? (·.id = caseId) = some row) : row ∈ registry.cases ∧ row.id = caseId :=
  ⟨List.mem_of_find?_eq_some h, of_decide_eq_true (List.find?_some (p := fun r : CaseRow =>
    decide (r.id = caseId)) h)⟩

/-- Writing the tables of a case forward keeps the requests in the past. -/
theorem FromPast.setTables (h : FromPast registry) {row : CaseRow}
    (hrow : row ∈ registry.cases) (hid : tables.caseId = row.id)
    (hver : row.version ≤ tables.caseVersion) : FromPast (registry.setTables row.id tables) where
  unique a ha b hb hsame := by
    obtain ⟨oldA, holdA, rfl⟩ := List.mem_map.1 ha
    obtain ⟨oldB, holdB, rfl⟩ := List.mem_map.1 hb
    -- both rows are the written one, or neither is
    by_cases hA : oldA.id = row.id
    · by_cases hB : oldB.id = row.id
      · rw [if_pos hA, if_pos hB]
      · rw [if_pos hA, if_neg hB] at hsame
        exact absurd (hsame.symm.trans hid) hB
    · by_cases hB : oldB.id = row.id
      · rw [if_neg hA, if_pos hB] at hsame
        exact absurd (hsame.trans hid) hA
      · rw [if_neg hA, if_neg hB] at hsame ⊢
        exact h.unique oldA holdA oldB holdB hsame
  known request hreq := by
    obtain ⟨found, hfound, hsame⟩ := h.known request hreq
    refine ⟨_, List.mem_map_of_mem hfound, ?_⟩
    split
    · rename_i hmatch
      exact hid.trans (hmatch.symm.trans hsame)
    · exact hsame
  past request hreq found hfound hsame := by
    obtain ⟨old, hold, rfl⟩ := List.mem_map.1 hfound
    split at hsame
    · rename_i hmatch
      rw [if_pos hmatch]
      exact (h.past request hreq row hrow (hid.symm.trans hsame)).trans hver
    · rename_i hother
      rw [if_neg hother]
      exact h.past request hreq old hold hsame

/-- **No request puts a financing request ahead of its case.** -/
theorem FromPast.step (h : FromPast registry) {q : Request}
    (hstep : Cases.step registry q = some registry') : FromPast registry' := by
  cases q with
  | create caseId requestId actorId assignedOfficerId requestedAmount purposeVi now =>
    simp only [Cases.step, Registry.create] at hstep
    split at hstep
    · cases hstep
    rename_i hnew
    split at hstep
    · cases hstep
      rw [not_or, Bool.not_eq_true, List.any_eq_false] at hnew
      have hfresh : ∀ row ∈ registry.cases, row.id ≠ caseId :=
        fun row hrow => by simpa only [decide_eq_true_eq] using hnew.1 row hrow
      refine ⟨?_, ?_, ?_⟩
      · intro a ha b hb hsame
        rcases List.mem_cons.1 ha with rfl | ha
        · rcases List.mem_cons.1 hb with rfl | hb
          · rfl
          · exact absurd hsame.symm (hfresh b hb)
        · rcases List.mem_cons.1 hb with rfl | hb
          · exact absurd hsame (hfresh a ha)
          · exact h.unique a ha b hb hsame
      · intro request hreq
        rcases List.mem_cons.1 hreq with rfl | hold
        · exact ⟨_, List.mem_cons_self, rfl⟩
        · obtain ⟨row, hrow, hid⟩ := h.known request hold
          exact ⟨row, List.mem_cons_of_mem _ hrow, hid⟩
      · intro request hreq row hrow hid
        rcases List.mem_cons.1 hreq with rfl | hold
        · rcases List.mem_cons.1 hrow with rfl | hrow
          · exact Nat.le_refl 1
          · exact absurd hid (hfresh row hrow)
        · rcases List.mem_cons.1 hrow with rfl | hrow
          · -- a request of a case that was not there
            obtain ⟨other, hother, hsame⟩ := h.known request hold
            exact absurd (hsame.trans hid.symm) (hfresh other hother)
          · exact h.past request hold row hrow hid
    · cases hstep
  | appendVersion requestId caseId caseVersion requestedAmount purposeVi actorId =>
    simp only [Cases.step, Registry.appendVersion] at hstep
    split at hstep
    · cases hstep
    rename_i found hfind
    obtain ⟨hfound, hid⟩ := find_row hfind
    split at hstep
    · cases hstep
    rename_i hcur
    rw [not_or, not_not] at hcur
    cases hstep
    refine ⟨h.unique, ?_, ?_⟩
    · intro request hreq
      rcases List.mem_cons.1 hreq with rfl | hold
      · exact ⟨found, hfound, hid⟩
      · exact h.known request hold
    · intro request hreq row hrow hsame
      rcases List.mem_cons.1 hreq with rfl | hold
      · -- the trigger has compared the version with the current one
        exact (hcur.1.symm.trans (h.unique found hfound row hrow (hid.trans hsame.symm))).le
      · exact h.past request hold row hrow hsame
  | assign =>
    simp only [Cases.step] at hstep
    split at hstep
    · cases hstep
    cases hstep
    exact ⟨h.unique, h.known, h.past⟩
  | revoke =>
    cases hstep
    exact ⟨h.unique, h.known, h.past⟩
  | otherWrites tables =>
    simp only [Cases.step] at hstep
    split at hstep
    · cases hstep
    rename_i row hfind
    obtain ⟨hrow, hid⟩ := find_row hfind
    split at hstep
    · rename_i hver
      cases hstep
      rw [← hid]
      exact h.setTables hrow hid.symm hver.le
    · cases hstep
  | bumpCaseVersion caseId revision handoffId =>
    simp only [Cases.step] at hstep
    split at hstep
    · cases hstep
    rename_i row hfind
    obtain ⟨hrow, hid⟩ := find_row hfind
    split at hstep
    · rename_i tables' hbump
      obtain ⟨hsame, hnext⟩ := CaseTables.bumpCaseVersion_next hbump
      cases hstep
      rw [← hid]
      exact h.setTables hrow hsame (by rw [hnext]; exact Nat.le_succ _)
    · cases hstep

theorem noCases_fromPast : FromPast noCases where
  unique _ hrow := by cases hrow
  known _ hreq := by cases hreq
  past _ hreq := by cases hreq

/-! ## A revision hides its case -/

theorem currentRequest_eq_none {row : CaseRow}
    (hahead : ∀ request ∈ registry.financingRequests, request.caseId = row.id →
      request.caseVersion < row.version) : registry.currentRequest row = none := by
  have hempty : (registry.financingRequests.filter fun request =>
      request.caseId = row.id ∧ request.caseVersion = row.version) = [] := by
    rw [List.filter_eq_nil_iff]
    intro request hreq hmatch
    obtain ⟨hcase, hver⟩ := of_decide_eq_true hmatch
    exact (hahead request hreq hcase).ne hver
  rw [Registry.currentRequest, hempty]
  rfl

theorem not_mem_assignedRecords {caseId : Uuid} (actorId : Uuid)
    (hnone : ∀ row ∈ registry.cases, row.id = caseId → registry.currentRequest row = none) :
    ∀ found ∈ registry.assignedRecords actorId, found.id ≠ caseId := by
  intro found hfound hid
  obtain ⟨row, hrow, hjoined⟩ := List.mem_flatMap.1 hfound
  obtain ⟨_, -, hrec⟩ := List.mem_filterMap.1 hjoined
  obtain ⟨_, hcur, rfl⟩ := Option.map_eq_some_iff.1 hrec
  rw [hnone row hrow hid] at hcur
  cases hcur

theorem mem_of_mem_listAssigned {actorId : Uuid} {cursor : Option Uuid} {limit : Nat}
    {found : CaseRecord} (h : found ∈ (registry.listAssigned actorId cursor limit).1) :
    found ∈ registry.assignedRecords actorId := by
  unfold Registry.listAssigned at h
  split at h
  · cases h
  have hsort := List.mem_of_mem_take (List.mem_of_mem_take h)
  exact (List.mem_filter.1 ((List.mem_insertionSort _).1 hsort)).1

/-- After a bump no row of the case has a current request. -/
theorem currentRequest_bump (h : FromPast registry) {caseId handoffId : Uuid}
    {revision : RevisionRequest}
    (hstep : step registry (.bumpCaseVersion caseId revision handoffId) = some registry') :
    ∀ row ∈ registry'.cases, row.id = caseId → registry'.currentRequest row = none := by
  simp only [step] at hstep
  split at hstep
  · cases hstep
  rename_i old hfind
  obtain ⟨hold, hid⟩ := find_row hfind
  split at hstep
  · rename_i tables' hbump
    obtain ⟨hsame, hnext⟩ := CaseTables.bumpCaseVersion_next hbump
    cases hstep
    intro row hrow hcase
    apply currentRequest_eq_none
    intro request hreq hof
    have hpast := h.past request hreq old hold (hid.trans (hof.trans hcase).symm)
    -- the row is the written one: its version is one more
    have hver : row.version = old.version + 1 := by
      obtain ⟨before, hpre, rfl⟩ := List.mem_map.1 hrow
      split at hcase
      · rename_i hmatch
        rw [if_pos hmatch]
        exact hnext
      · rename_i hother
        exact absurd hcase hother
    rw [hver]
    exact Nat.lt_succ_of_le hpast
  · cases hstep

/-- **A maker revision hides its case.** In every state reached, a successful bump leaves nobody who
sees the case, neither with `get_assigned` nor on any page of `list_assigned`. -/
theorem revision_hides_case {requests : List Request} {caseId actorId handoffId : Uuid}
    {revision : RevisionRequest} (hrun : run step noCases requests = some registry)
    (hbump : step registry (.bumpCaseVersion caseId revision handoffId) = some registry') :
    registry'.getAssigned caseId actorId = none ∧
      ∀ cursor limit, ∀ listed ∈ (registry'.listAssigned actorId cursor limit).1,
        listed.id ≠ caseId := by
  have hpast : FromPast registry := run_invariant (fun h hstep => h.step hstep) noCases_fromPast hrun
  have hgone := not_mem_assignedRecords actorId (currentRequest_bump hpast hbump)
  constructor
  · rw [Registry.getAssigned, List.find?_eq_none]
    intro listed hlisted hmatch
    exact hgone listed hlisted (of_decide_eq_true hmatch)
  · intro cursor limit listed hlisted
    exact hgone listed (mem_of_mem_listAssigned hlisted)

/-- Officer 40 opens a case and the risk reviewer asks the makers to revise it. -/
def openedCase : List Request :=
  [.create 10 30 40 40 500000000 "bổ sung vốn lưu động" 1]

/-- The bump of the revision. -/
def revised : Request :=
  .bumpCaseVersion 10 ⟨1, 50, 41, "phân tích lại dòng tiền"⟩ 20

theorem openedCase_hidden :
    ∃ registry registry', run step noCases openedCase = some registry ∧
      (registry.getAssigned 10 40).isSome = true ∧ step registry revised = some registry' ∧
        registry'.getAssigned 10 40 = none ∧
          ∀ cursor limit, ∀ listed ∈ (registry'.listAssigned 40 cursor limit).1, listed.id ≠ 10 := by
  have hruns : (run step noCases openedCase).any (fun registry =>
      (registry.getAssigned 10 40).isSome ∧ (step registry revised).isSome) = true := by
    decide +kernel
  obtain ⟨registry, hrun, hboth⟩ := (Option.any_eq_true _ _).1 hruns
  obtain ⟨hseen, hbumps⟩ := of_decide_eq_true hboth
  obtain ⟨registry', hbump⟩ := Option.isSome_iff_exists.1 hbumps
  exact ⟨registry, registry', hrun, hseen, hbump, revision_hides_case hrun hbump⟩

/-- **The promise fails on the code.** The officer sees the case at version one, on the first page of
the list too, and no longer finds it at version two. -/
theorem revision_keeps_case_fails :
    ¬ ∀ (requests : List Request) (registry registry' : Registry) (caseId actorId handoffId : Uuid)
        (revision : RevisionRequest), run step noCases requests = some registry →
      (registry.getAssigned caseId actorId).isSome = true →
      step registry (.bumpCaseVersion caseId revision handoffId) = some registry' →
      (registry'.getAssigned caseId actorId).isSome = true := by
  intro hclaim
  have hcheck : (run step noCases openedCase).any (fun registry =>
      (registry.getAssigned 10 40).isSome ∧ (step registry revised).any fun registry' =>
        (registry'.getAssigned 10 40).isNone) = true := by
    decide +kernel
  obtain ⟨registry, hrun, hboth⟩ := (Option.any_eq_true _ _).1 hcheck
  obtain ⟨hseen, hgone⟩ := of_decide_eq_true hboth
  obtain ⟨registry', hbump, hnone⟩ := (Option.any_eq_true _ _).1 hgone
  have hstill := hclaim openedCase registry registry' 10 40 20 _ hrun hseen hbump
  rw [Option.isNone_iff_eq_none] at hnone
  rw [hnone] at hstill
  cases hstill

end Invariant

end CreditOps.Cases
