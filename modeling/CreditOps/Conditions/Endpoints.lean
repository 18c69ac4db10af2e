import CreditOps.Disbursements.Endpoints
import CreditOps.Conditions.Ledger

/-!
# The condition endpoints

The requests on the conditions of one case version: an officer opens a condition, officers and checkers
move conditions along the table of transitions, and an independent checker confirms the ledger. A
transition is checked by its endpoint against one reading of the row and runs as a transaction of its own
later; a confirmation reads the conditions, reads the verifying actors, satisfies the gate and writes its
audit event in four transactions. Any other request may commit between two of them.

`step_cases` says once what a step can do. The audit trail of every condition holds in every state of
every run (`condition_audit_trail`).
-/

set_option autoImplicit false

namespace CreditOps.Conditions

open Transition RowTransactions PartialMap Orchestration ContractPackages ConditionStatus
open Disbursements (ActorContext opsOfficerRole opsCheckerRole insufficientRole)

/-! ## Checks -/

/-- `CreateConditionRequest`; the texts come stripped and within their lengths. -/
structure CreateConditionRequest where
  conditionTextVi : String
  ownerVi : Option String
  dueDate : Option Date
deriving DecidableEq

/-- `TransitionConditionRequest`; the texts come stripped and within their lengths. -/
structure TransitionConditionRequest where
  toStatus : String
  rationaleVi : Option String
  evidenceRefs : Option (List String)
deriving DecidableEq

/-- `_require_role` -/
def requireRole (actor : ActorContext) (role : String) : Except ApiException Unit :=
  if role ∈ actor.roles then .ok () else .error insufficientRole

/-- Conditions exist only downstream of an approval. -/
def requireApprovalDecision (decision : Option CreditDecision) : Except ApiException CreditDecision :=
  match decision.filter (·.decisionType ∈ approvalDecisions) with
  | some decision => .ok decision
  | none =>
    .error ⟨409, "CONDITIONS_REQUIRE_APPROVAL_DECISION",
      "Chưa có quyết định phê duyệt tín dụng cho phiên bản hồ sơ hiện tại để mở điều kiện giải ngân."⟩

/-- The checks of `create_condition`. -/
def checkCreate (decision : Option CreditDecision) (actor : ActorContext) :
    Except ApiException CreditDecision := do
  requireRole actor opsOfficerRole
  requireApprovalDecision decision

/-- The authority a target demands. -/
def requiredRole (toStatus : ConditionStatus) : String :=
  if toStatus ∈ checkerAuthorityTargets then opsCheckerRole else opsOfficerRole

/-- The status in the body must be one of the closed set. -/
def parseStatus (text : String) : Except ApiException ConditionStatus :=
  match ConditionStatus.ofValue text with
  | some status => .ok status
  | none => .error ⟨422, "INVALID_CONDITION_STATUS", "Trạng thái điều kiện không hợp lệ."⟩

/-- A ruling of a human authority must carry its rationale. -/
def requireRationale (toStatus : ConditionStatus) (rationaleVi : Option String) :
    Except ApiException Unit :=
  if toStatus ∈ rationaleRequiredTargets ∧ isFalsy rationaleVi = true then
    .error ⟨422, "RATIONALE_REQUIRED",
      "Cần lý do (authority record) cho quyết định miễn trừ / không áp dụng."⟩
  else .ok ()

/-- `load_condition` -/
def loadCondition (table : ConditionTable) (conditionId : Uuid) :
    Except ApiException DisbursementCondition :=
  match table.rows conditionId with
  | some condition => .ok condition
  | none =>
    .error ⟨404, "CONDITION_NOT_FOUND", "Không tìm thấy điều kiện giải ngân trong hồ sơ này."⟩

/-- The pre-check of a transition. -/
def requireAllowed (fromStatus toStatus : ConditionStatus) : Except ApiException Unit :=
  if isTransitionAllowed fromStatus toStatus = true then .ok ()
  else
    .error ⟨422, "FORBIDDEN_CONDITION_TRANSITION", "Chuyển trạng thái điều kiện không được phép."⟩

/-- The checks of `transition_condition`, and what it calls the repository with. -/
def checkTransition (table : ConditionTable) (actor : ActorContext) (conditionId : Uuid)
    (body : TransitionConditionRequest) : Except ApiException TransitionRequest := do
  let toStatus ← parseStatus body.toStatus
  requireRole actor (requiredRole toStatus)
  requireRationale toStatus body.rationaleVi
  let current ← loadCondition table conditionId
  requireAllowed current.status toStatus
  return ⟨conditionId, toStatus, actor.actorId, requiredRole toStatus, body.rationaleVi,
    body.evidenceRefs⟩

/-- The checks of `confirm_conditions` on the conditions it has listed. -/
def checkConfirm (table : ConditionTable) (actor : ActorContext) : Except ApiException (List Uuid) := do
  requireRole actor opsCheckerRole
  if deriveConditionsConfirmable table.statuses = true then return table.listing.map (·.id)
  else
    throw ⟨409, "CONDITIONS_NOT_SATISFIED",
      "Còn điều kiện giải ngân chưa được xác minh / miễn trừ / xác định không áp dụng; không thể " ++
        "xác nhận."⟩

/-- The confirming checker must not have verified a condition. -/
def checkSeparation (table : ConditionTable) (actorId : Uuid) : Except ApiException Unit :=
  if actorId ∈ table.verifyingActorIds then
    .error ⟨409, "SAME_ACTOR_FORBIDDEN",
      "Người xác nhận độc lập phải khác với người đã xác minh điều kiện."⟩
  else .ok ()

/-! ## The system -/

/-- How far one confirmation has come. -/
inductive ConfirmationPhase where
  | listed
  | checked
  | confirmed
  | closed
deriving DecidableEq

/-- One confirmation request: who confirms, and the conditions that were listed. -/
structure Confirmation where
  actorId : Uuid
  listed : List Uuid
  phase : ConfirmationPhase
deriving DecidableEq

/-- The ledger of one case version, the gates of the case, and the requests in flight. -/
structure System where
  caseId : Uuid
  caseVersion : CaseVersion
  decision : Option CreditDecision
  session : Session Uuid Uuid DisbursementCondition TransitionRequest LedgerEntry
  received : Uuid → Option TransitionRequest
  confirmations : Uuid → Option Confirmation
  tables : CaseTables
  confirmedAudit : List (Uuid × Nat)

/-- One step of an interleaving. -/
inductive Request where
  | decide (decision : CreditDecision)
  | create (newId : Uuid) (actor : ActorContext) (body : CreateConditionRequest) (now : Timestamp)
  | receive (callId : Uuid) (actor : ActorContext) (conditionId : Uuid)
      (body : TransitionConditionRequest)
  | begin (callId : Uuid)
  | transition (callId : Uuid) (statement : Continuation)
  | openConfirm (confirmId : Uuid) (actor : ActorContext)
  | checkVerifiers (confirmId : Uuid)
  | satisfyGate (confirmId : Uuid) (now : Timestamp)
  | auditConfirm (confirmId : Uuid)
deriving DecidableEq

namespace System

/-- The committed ledger. -/
abbrev ledger (s : System) : ConditionTable :=
  s.session.table

/-- The gate is stored as satisfied. -/
abbrev Confirmed (s : System) : Prop :=
  s.tables.GateSatisfied s.caseVersion .hgDisbursementConditionsConfirmed

/-- The condition a request opens. -/
def newCondition (s : System) (decision : CreditDecision) (newId : Uuid)
    (body : CreateConditionRequest) (now : Timestamp) : DisbursementCondition where
  id := newId
  caseId := s.caseId
  caseVersion := s.caseVersion
  decisionId := decision.decisionId
  conditionTextVi := body.conditionTextVi
  ownerVi := body.ownerVi
  dueDate := body.dueDate
  status := pending
  evidenceRefs := []
  createdAt := now

/-- Run one statement on the ledger. -/
def run (s : System)
    (statement : Statement Uuid Uuid DisbursementCondition TransitionRequest LedgerEntry) :
    Option System :=
  (execute transitionCondition s.session statement).map fun session => { s with session }

/-- Move one confirmation to a phase. -/
def setConfirmation (s : System) (confirmId : Uuid) (confirmation : Confirmation)
    (phase : ConfirmationPhase) : System :=
  { s with
    confirmations := Function.update s.confirmations confirmId (some { confirmation with phase }) }

/-- `ensure_gate` of a confirmation. -/
def satisfy (s : System) (actorId : Uuid) (now : Timestamp) : System :=
  { s with
    tables := s.tables.ensureGate s.caseVersion .hgDisbursementConditionsConfirmed .satisfied now
      (some actorId) (some ("disbursement-conditions:" ++ toString s.caseVersion)) }

end System

/-- What a request does; none when it is not at that point, waits for a lock, or is refused. -/
def step (s : System) : Request → Option System
  | .decide decision =>
    match s.decision with
    | some _ => none
    | none => some { s with decision := some decision }
  | .create newId actor body now =>
    match checkCreate s.decision actor with
    | .error _ => none
    | .ok decision =>
      let condition := s.newCondition decision newId body now
      s.run (.insert newId condition (creationEntry condition actor.actorId opsOfficerRole))
  | .receive callId actor conditionId body =>
    match s.received callId, s.session.transactions callId,
      checkTransition s.ledger actor conditionId body with
    | none, none, .ok request =>
      some { s with received := Function.update s.received callId (some request) }
    | _, _, _ => none
  | .begin callId =>
    match s.received callId with
    | none => none
    | some request =>
      { s with received := Function.update s.received callId none }.run (.select callId request)
  | .transition callId statement => s.run (statement.of callId)
  | .openConfirm confirmId actor =>
    match s.confirmations confirmId, checkConfirm s.ledger actor with
    | none, .ok listed =>
      some { s with
             confirmations :=
              Function.update s.confirmations confirmId (some ⟨actor.actorId, listed, .listed⟩) }
    | _, _ => none
  | .checkVerifiers confirmId =>
    match s.confirmations confirmId with
    | none => none
    | some confirmation =>
      if confirmation.phase = .listed then
        match checkSeparation s.ledger confirmation.actorId with
        | .ok () => some (s.setConfirmation confirmId confirmation .checked)
        | .error _ => some (s.setConfirmation confirmId confirmation .closed)
      else none
  | .satisfyGate confirmId now =>
    match s.confirmations confirmId with
    | none => none
    | some confirmation =>
      if confirmation.phase = .checked then
        some ((s.satisfy confirmation.actorId now).setConfirmation confirmId confirmation .confirmed)
      else none
  | .auditConfirm confirmId =>
    match s.confirmations confirmId with
    | none => none
    | some confirmation =>
      if confirmation.phase = .confirmed then
        some { s.setConfirmation confirmId confirmation .closed with
               confirmedAudit :=
                (confirmation.actorId, confirmation.listed.length) :: s.confirmedAudit }
      else none

/-- A case version before its first condition, whose conditions gate is open. -/
structure Initial (s : System) : Prop where
  session : s.session = .empty
  noRequest : ∀ id, s.received id = none
  noConfirmation : ∀ id, s.confirmations id = none
  gatesKeyed : s.tables.GatesKeyed
  gateOpen : ¬ s.Confirmed

/-! ## What a step can do -/

/-- What a step can do, with everything it has checked. -/
inductive Stepped (s : System) : Request → System → Prop where
  | decided {decision : CreditDecision} :
      Stepped s (.decide decision) { s with decision := some decision }
  | created {newId : Uuid} {actor : ActorContext} {body : CreateConditionRequest} {now : Timestamp}
      {decision : CreditDecision} {table : ConditionTable}
      (hcheck : checkCreate s.decision actor = .ok decision)
      (hins : s.ledger.insert newId (s.newCondition decision newId body now)
        (creationEntry (s.newCondition decision newId body now) actor.actorId opsOfficerRole) =
          some table) :
      Stepped s (.create newId actor body now) { s with session := { s.session with table } }
  | received {callId : Uuid} {actor : ActorContext} {conditionId : Uuid}
      {body : TransitionConditionRequest} {request : TransitionRequest}
      (hcheck : checkTransition s.ledger actor conditionId body = .ok request) :
      Stepped s (.receive callId actor conditionId body)
        { s with received := Function.update s.received callId (some request) }
  | begun {callId : Uuid} {request : TransitionRequest}
      {session : Session Uuid Uuid DisbursementCondition TransitionRequest LedgerEntry}
      (hreceived : s.received callId = some request)
      (hexec : execute transitionCondition s.session (.select callId request) = some session) :
      Stepped s (.begin callId)
        { s with received := Function.update s.received callId none, session }
  | executed {callId : Uuid} {statement : Continuation}
      {session : Session Uuid Uuid DisbursementCondition TransitionRequest LedgerEntry}
      (hexec : execute transitionCondition s.session (statement.of callId) = some session) :
      Stepped s (.transition callId statement) { s with session }
  | opened {confirmId : Uuid} {actor : ActorContext} {listed : List Uuid}
      (hfree : s.confirmations confirmId = none) (hcheck : checkConfirm s.ledger actor = .ok listed) :
      Stepped s (.openConfirm confirmId actor)
        { s with
          confirmations :=
            Function.update s.confirmations confirmId (some ⟨actor.actorId, listed, .listed⟩) }
  | cleared {confirmId : Uuid} {confirmation : Confirmation}
      (hconf : s.confirmations confirmId = some confirmation)
      (hphase : confirmation.phase = .listed)
      (hcheck : checkSeparation s.ledger confirmation.actorId = .ok ()) :
      Stepped s (.checkVerifiers confirmId) (s.setConfirmation confirmId confirmation .checked)
  | refused {confirmId : Uuid} {confirmation : Confirmation}
      (hconf : s.confirmations confirmId = some confirmation)
      (hphase : confirmation.phase = .listed) :
      Stepped s (.checkVerifiers confirmId) (s.setConfirmation confirmId confirmation .closed)
  | satisfied {confirmId : Uuid} {now : Timestamp} {confirmation : Confirmation}
      (hconf : s.confirmations confirmId = some confirmation)
      (hphase : confirmation.phase = .checked) :
      Stepped s (.satisfyGate confirmId now)
        ((s.satisfy confirmation.actorId now).setConfirmation confirmId confirmation .confirmed)
  | audited {confirmId : Uuid} {confirmation : Confirmation}
      (hconf : s.confirmations confirmId = some confirmation)
      (hphase : confirmation.phase = .confirmed) :
      Stepped s (.auditConfirm confirmId)
        { s.setConfirmation confirmId confirmation .closed with
          confirmedAudit :=
            (confirmation.actorId, confirmation.listed.length) :: s.confirmedAudit }

/-- **What a step can do.** -/
theorem step_cases {s t : System} {q : Request} (h : step s q = some t) : Stepped s q t := by
  cases q with
  | decide =>
    simp only [step] at h
    split at h
    · cases h
    cases h
    exact .decided
  | create newId actor body now =>
    simp only [step] at h
    split at h
    · cases h
    rename_i decision hcheck
    obtain ⟨_, hexec, rfl⟩ := Option.map_eq_some_iff.1 h
    obtain ⟨_, htable, rfl⟩ := Option.map_eq_some_iff.1 hexec
    exact .created hcheck htable
  | receive callId actor conditionId body =>
    simp only [step] at h
    split at h
    · rename_i request _ _ hcheck
      cases h
      exact .received hcheck
    · cases h
  | begin callId =>
    simp only [step] at h
    split at h
    · cases h
    rename_i request hreceived
    obtain ⟨_, hexec, rfl⟩ := Option.map_eq_some_iff.1 h
    exact .begun hreceived hexec
  | transition =>
    obtain ⟨_, hexec, rfl⟩ := Option.map_eq_some_iff.1 h
    exact .executed hexec
  | openConfirm confirmId actor =>
    simp only [step] at h
    split at h
    · rename_i listed hfree hcheck
      cases h
      exact .opened hfree hcheck
    · cases h
  | checkVerifiers confirmId =>
    simp only [step] at h
    split at h
    · cases h
    rename_i confirmation hconf
    split_ifs at h with hphase
    split at h
    · rename_i hcheck
      cases h
      exact .cleared hconf hphase hcheck
    · cases h
      exact .refused hconf hphase
  | satisfyGate confirmId now =>
    simp only [step] at h
    split at h
    · cases h
    rename_i confirmation hconf
    split_ifs at h with hphase
    cases h
    exact .satisfied hconf hphase
  | auditConfirm confirmId =>
    simp only [step] at h
    split at h
    · cases h
    rename_i confirmation hconf
    split_ifs at h with hphase
    cases h
    exact .audited hconf hphase

/-! ## What a step does to the ledger -/

/-- A step leaves the ledger alone, opens a condition, or is a transition at once. -/
inductive LedgerMove (s : System) : Request → ConditionTable → Prop where
  | same {q : Request} : LedgerMove s q s.ledger
  | opened {newId : Uuid} {actor : ActorContext} {body : CreateConditionRequest} {now : Timestamp}
      {decision : CreditDecision} {table : ConditionTable}
      (hcheck : checkCreate s.decision actor = .ok decision)
      (hins : s.ledger.insert newId (s.newCondition decision newId body now)
        (creationEntry (s.newCondition decision newId body now) actor.actorId opsOfficerRole) =
          some table) :
      LedgerMove s (.create newId actor body now) table
  | moved {callId : Uuid} {transaction : Transaction DisbursementCondition TransitionRequest}
      {table : ConditionTable} (htx : s.session.transactions callId = some transaction)
      (happly : atomicStep transitionCondition s.ledger (.apply transaction.request) = some table) :
      LedgerMove s (.transition callId .commit) table

variable {s t : System} {q : Request}

/-- **What a step does to the ledger.** -/
theorem ledgerMove_of_step (hcons : Consistent transitionCondition s.session)
    (h : step s q = some t) : LedgerMove s q t.ledger := by
  cases step_cases h with
  | created hcheck hins => exact .opened hcheck hins
  | @begun callId request session hreceived hexec =>
    rcases execute_table_cases hexec with hsame | ⟨_, _, _, hins, -⟩ | ⟨_, _, _, _, hcom, -⟩
    · simp only [System.ledger, hsame]
      exact .same
    · cases hins
    · cases hcom
  | @executed callId statement session hexec =>
    rcases execute_table_cases hexec with
      hsame | ⟨_, _, _, hins, -⟩ | ⟨id, transaction, base, new, hcom, hopen, hstage, htable⟩
    · simp only [System.ledger, hsame]
      exact .same
    · exact absurd hins Continuation.of_ne_insert
    · obtain ⟨rfl, rfl⟩ := Continuation.of_eq_commit hcom
      exact .moved hopen (hcons.commit_atomic rfl hopen hstage htable)
  | decided | received | opened | cleared | refused | satisfied | audited => exact .same

theorem consistent_of_step (hcons : Consistent transitionCondition s.session)
    (h : step s q = some t) : Consistent transitionCondition t.session := by
  cases step_cases h with
  | created _ hins => exact hcons.insert hins
  | begun _ hexec | executed hexec => exact hcons.execute hexec
  | decided | received | opened | cleared | refused | satisfied | audited => exact hcons

theorem commit_of_step (hcons : Consistent transitionCondition s.session) {callId : Uuid}
    (h : step s (.transition callId .commit) = some t) :
    ∃ transaction, s.session.transactions callId = some transaction ∧
      atomicStep transitionCondition s.ledger (.apply transaction.request) = some t.ledger := by
  cases step_cases h with
  | executed hexec =>
    cases execute_cases hexec with
    | committed htx htable =>
      exact ⟨_, htx, hcons.commit_atomic rfl htx ⟨rfl, rfl⟩ htable⟩

theorem ledger_of_step (hcons : Consistent transitionCondition s.session)
    (h : step s q = some t) (hcreate : ∀ newId actor body now, q ≠ .create newId actor body now)
    (hcom : ∀ callId, q ≠ .transition callId .commit) : t.ledger = s.ledger := by
  have hmove := ledgerMove_of_step hcons h
  generalize t.ledger = table at hmove ⊢
  cases hmove with
  | same => rfl
  | opened => exact absurd rfl (hcreate _ _ _ _)
  | moved => exact absurd rfl (hcom _)

/-! ## The audit trail -/

/-- What every reachable state satisfies. -/
structure Trailed (s : System) : Prop where
  consistent : Consistent transitionCondition s.session
  trail : AuditTrail s.ledger

theorem Initial.trailed (h : Initial s) : Trailed s := by
  refine ⟨?_, ?_⟩
  · rw [h.session]
    exact consistent_empty
  · rw [System.ledger, h.session]
    exact auditTrail_empty

theorem Trailed.step (h : Trailed s) (hstep : Conditions.step s q = some t) : Trailed t := by
  refine ⟨consistent_of_step h.consistent hstep, ?_⟩
  have hmove := ledgerMove_of_step h.consistent hstep
  generalize t.ledger = table at hmove ⊢
  cases hmove with
  | same => exact h.trail
  | opened _ hins =>
    refine h.trail.insert ?_ ?_ hins
    all_goals rfl
  | moved _ happly => exact h.trail.apply happly

/-- **The audit trail of every condition is complete.** In every state of every run, the events of each
condition follow on one another along the table from its creation to its status, and every ruling of a
human authority carries its rationale. -/
theorem condition_audit_trail {as : List Request} (hinit : Initial s)
    (hrun : run step s as = some t) :
    ∀ condition ∈ t.ledger.listing, Audited t.ledger condition := by
  have htrailed : Trailed t := run_invariant Trailed.step hinit.trailed hrun
  intro condition hmem
  obtain ⟨_, hrow⟩ := Table.mem_listing_iff.1 hmem
  exact htrailed.trail.audited hrow

/-! ## No confirmable ledger without a ruling -/

/-- An accepting derivation goes back to a human ruling on a condition of the version: its last event is the
transition to the status that counts. -/
def ConfirmationBacked (s : System) : Prop :=
  deriveConditionsConfirmable s.ledger.statuses = true →
    ∃ condition ∈ s.ledger.listing, condition.caseVersion = s.caseVersion ∧
      ∃ event ∈ s.ledger.eventsOf condition.id, event.fromStatus.isSome = true ∧
        event.toStatus = condition.status ∧ event.toStatus ∈ confirmableStatuses

/-- The ledger lists conditions of its own version. -/
def Versioned (s : System) : Prop :=
  ∀ key condition, s.ledger.rows key = some condition → condition.caseVersion = s.caseVersion

theorem Initial.versioned (h : Initial s) : Versioned s := by
  intro key condition hrow
  rw [System.ledger, h.session] at hrow
  cases hrow

theorem caseVersion_of_step (h : step s q = some t) : t.caseVersion = s.caseVersion := by
  cases step_cases h with
  | decided | created | received | begun | executed | opened | cleared | refused | satisfied
  | audited => rfl

theorem Versioned.step (h : Versioned s) (hcons : Consistent transitionCondition s.session)
    (hstep : Conditions.step s q = some t) : Versioned t := by
  have hmove := ledgerMove_of_step hcons hstep
  have hver := caseVersion_of_step hstep
  intro key condition hrow
  rw [hver]
  generalize t.ledger = table at hmove hrow
  cases hmove with
  | same => exact h key condition hrow
  | opened _ hins =>
    obtain ⟨-, hrows, -⟩ := Table.insert_eq_some hins
    rw [hrows] at hrow
    rcases update_some_cases hrow with ⟨-, rfl⟩ | ⟨-, hold⟩
    · rfl
    · exact h key condition hold
  | moved _ happly =>
    obtain ⟨current, hcur, -, -, hrows, -⟩ := applied_cases happly
    rw [hrows] at hrow
    rcases update_some_cases hrow with ⟨-, rfl⟩ | ⟨-, hold⟩
    · exact h _ current hcur
    · exact h key condition hold

/-- The last event of a condition that counts is a transition, since a condition starts as `PENDING`. -/
theorem Audited.ruling {table : ConditionTable} {condition : DisbursementCondition}
    (h : Audited table condition) (hcounts : condition.status ∈ confirmableStatuses) :
    ∃ event ∈ table.eventsOf condition.id, event.fromStatus.isSome = true ∧
      event.toStatus = condition.status := by
  obtain ⟨hlast, hpath, -⟩ := h
  cases hevts : table.eventsOf condition.id with
  | nil =>
    rw [hevts] at hlast
    cases hlast
  | cons event =>
    rw [hevts] at hlast hpath
    obtain hstat := Option.some.inj hlast
    obtain ⟨-, hfollows, -⟩ := hpath
    refine ⟨event, List.mem_cons_self, ?_, hstat⟩
    cases hfrom : event.fromStatus with
    | some => rfl
    | none =>
      simp only [ConditionStatusEvent.move, hfrom, Follows, hstat] at hfollows
      rw [hfollows] at hcounts
      exact absurd hcounts (by decide)

/-- **No ledger is confirmable without a ruling.** -/
theorem confirmation_backed {as : List Request} (hinit : Initial s) (hrun : run step s as = some t) :
    ConfirmationBacked t := by
  have hstep : ∀ {s q t}, Trailed s ∧ Versioned s → step s q = some t → Trailed t ∧ Versioned t :=
    fun ⟨htrailed, hversioned⟩ hstep =>
      ⟨htrailed.step hstep, Versioned.step hversioned htrailed.consistent hstep⟩
  obtain ⟨htrailed, hversioned⟩ := run_invariant hstep ⟨hinit.trailed, hinit.versioned⟩ hrun
  intro hconfirmable
  obtain ⟨hne, hall⟩ := confirmable_iff.1 hconfirmable
  obtain ⟨_, hstat⟩ := List.exists_mem_of_ne_nil _ hne
  obtain ⟨condition, hmem, rfl⟩ := List.mem_map.1 hstat
  obtain ⟨key, hrow⟩ := Table.mem_listing_iff.1 hmem
  have hcounts := hall condition.status hstat
  obtain ⟨event, hevent, hfrom, hto⟩ := (htrailed.trail.audited hrow).ruling hcounts
  refine ⟨condition, hmem, hversioned key condition hrow, event, hevent, hfrom, hto, ?_⟩
  rw [hto]
  exact hcounts

/-! ## A ledger at work -/

section Histories

/-- An approved case at version 1, before its first condition. -/
def approvedCase : System where
  caseId := 1
  caseVersion := 1
  decision := some ⟨2, .approvedAsProposed, "đủ điều kiện", [], ⟨none, none, none, none⟩, "snapshot"⟩
  session := .empty
  received _ := none
  confirmations _ := none
  tables := ⟨1, 1, [], [], [], [], [], [], []⟩
  confirmedAudit := []

theorem approvedCase_initial : Initial approvedCase where
  session := rfl
  noRequest _ := rfl
  noConfirmation _ := rfl
  gatesKeyed := List.nodup_nil
  gateOpen := by decide

/-- The operations officer. -/
def officer : ActorContext := ⟨20, [opsOfficerRole]⟩

/-- An operations checker. -/
def checker (actorId : Uuid) : ActorContext := ⟨actorId, [opsCheckerRole]⟩

/-- The officer opens a condition. -/
def opening (newId : Uuid) : Request :=
  .create newId officer ⟨"Hợp đồng thế chấp đã ký", none, none⟩ 5

/-- One transition, statement by statement. -/
def transitioning (callId : Uuid) (actor : ActorContext) (conditionId : Uuid) (toStatus : String)
    (rationaleVi : Option String) : List Request :=
  [.receive callId actor conditionId ⟨toStatus, rationaleVi, none⟩, .begin callId,
    .transition callId .update, .transition callId .record, .transition callId .commit]

/-- A condition whose waiver is requested and granted. -/
def waived : List Request :=
  opening 10 :: (transitioning 1 officer 10 "WAIVER_REQUESTED" none ++
    transitioning 2 (checker 30) 10 "WAIVED_BY_HUMAN" (some "Đã đánh giá rủi ro"))

theorem waived_audited :
    ∃ t, run step approvedCase waived = some t ∧ t.ledger.statuses = [waivedByHuman] ∧
      ∀ condition ∈ t.ledger.listing, Audited t.ledger condition := by
  have hruns : (run step approvedCase waived).any (fun t =>
      t.ledger.statuses = [waivedByHuman]) = true := by
    decide +kernel
  obtain ⟨t, hrun, hstatuses⟩ := (Option.any_eq_true _ _).1 hruns
  exact ⟨t, hrun, of_decide_eq_true hstatuses, condition_audit_trail approvedCase_initial hrun⟩

end Histories

end CreditOps.Conditions
