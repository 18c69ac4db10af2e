import CreditOps.Disbursements.Endpoints
import CreditOps.SecurityInterests.Ledger

/-!
# The security interest endpoints

The requests on the security interests of one case version: writers take interests, add perfection items
and move them, and a checker confirms the perfection. A transition of an item runs statement by statement.
A confirmation reads the interests, reads their items, satisfies the gate and writes its audit event in
four transactions. Any other request may commit between two of them.
-/

set_option autoImplicit false

namespace CreditOps.SecurityInterests

open Transition RowTransactions PartialMap Orchestration PerfectionStatus
open Disbursements (ActorContext opsOfficerRole opsCheckerRole)

/-! ## Checks -/

/-- `LEGAL_REVIEWER_ROLE` -/
def legalReviewerRole : String := "LEGAL_REVIEWER"

/-- `_WRITER_ROLES` -/
def writerRoles : List String := [legalReviewerRole, opsOfficerRole]

/-- `CreateInterestRequest`; the texts come stripped and within their lengths. -/
structure CreateInterestRequest where
  assetDescriptionVi : String
  assetKind : String
  ownerNameVi : Option String
  valuationReference : Option String
  notesVi : Option String
deriving DecidableEq

/-- `AddItemRequest`; the texts come stripped and within their lengths. -/
structure AddItemRequest where
  requirementVi : String
  evidenceRefs : List String
  filingReference : Option String
  effectiveDate : Option Date
  expiryDate : Option Date
deriving DecidableEq

/-- `TransitionItemRequest`; the texts come stripped and within their lengths. -/
structure TransitionItemRequest where
  toStatus : String
  rationaleVi : Option String
  evidenceRefs : List String
  filingReference : Option String
  effectiveDate : Option Date
  expiryDate : Option Date
deriving DecidableEq

/-- `_require_writer` -/
def requireWriter (actor : ActorContext) : Except ApiException Unit :=
  if writerRoles.any (· ∈ actor.roles) = true then .ok ()
  else
    .error ⟨403, "INSUFFICIENT_ROLE", "Bạn không có thẩm quyền cập nhật biện pháp bảo đảm."⟩

/-- `_require_checker` -/
def requireChecker (actor : ActorContext) : Except ApiException Unit :=
  if opsCheckerRole ∈ actor.roles then .ok ()
  else
    .error ⟨403, "INSUFFICIENT_ROLE", "Bạn không có thẩm quyền xác nhận hoàn thiện bảo đảm."⟩

/-- `_writer_role` -/
def writerRole (actor : ActorContext) : String :=
  if legalReviewerRole ∈ actor.roles then legalReviewerRole else opsOfficerRole

/-- `_parse_asset_kind` -/
def parseAssetKind (text : String) : Except ApiException SecurityAssetKind :=
  match SecurityAssetKind.ofValue text with
  | some kind => .ok kind
  | none => .error ⟨422, "INVALID_ASSET_KIND", "Loại tài sản bảo đảm không hợp lệ."⟩

/-- `_parse_status` -/
def parseStatus (text : String) : Except ApiException PerfectionStatus :=
  match PerfectionStatus.ofValue text with
  | some status => .ok status
  | none =>
    .error ⟨422, "INVALID_PERFECTION_STATUS", "Trạng thái hoàn thiện bảo đảm không hợp lệ."⟩

/-- The checks of `create_security_interest`. -/
def checkCreate (actor : ActorContext) (body : CreateInterestRequest) :
    Except ApiException SecurityAssetKind := do
  requireWriter actor
  parseAssetKind body.assetKind

/-- The checks of `transition_perfection_item`, and what it calls the repository with. -/
def checkTransition (actor : ActorContext) (itemId : Uuid) (body : TransitionItemRequest)
    (clock : Timestamp) : Except ApiException ItemTransition := do
  requireWriter actor
  let toStatus ← parseStatus body.toStatus
  return ⟨itemId, toStatus, actor.actorId, writerRole actor, body.rationaleVi, body.evidenceRefs,
    body.filingReference, body.effectiveDate, body.expiryDate, clock⟩

/-- An item of a request; it starts `PENDING`. -/
def AddItemRequest.item (body : AddItemRequest) (newId interestId : Uuid) : PerfectionItem where
  id := newId
  interestId := interestId
  requirementVi := body.requirementVi
  status := pending
  evidenceRefs := body.evidenceRefs
  filingReference := body.filingReference
  effectiveDate := body.effectiveDate
  expiryDate := body.expiryDate
  completedBy := none
  completedAt := none
  completedHasEvidence := nofun

/-! ## Reading the ledger -/

/-- The items of an interest. -/
def ItemTable.itemsOf (table : ItemTable) (interestId : Uuid) : List PerfectionItem :=
  table.listing.filter (·.interestId = interestId)

/-- The items of the interests that were read, grouped under them. -/
def ledgerEntries (interests : List SecurityInterest) (table : ItemTable) :
    List SecurityInterestWithItems :=
  interests.map fun interest => ⟨interest, table.itemsOf interest.id⟩

/-- The ids of the items in the entries. -/
def itemIds (entries : List SecurityInterestWithItems) : List Uuid :=
  entries.flatMap fun entry => entry.items.map (·.id)

/-- The derivation of `confirm_security_perfection` on the entries it has read; `_to_domain` raises for an
item the domain model does not accept. -/
def checkConfirmable (entries : List SecurityInterestWithItems) : Bool :=
  entries.all (fun entry => entry.items.all (·.valid)) ∧ derivePerfectionConfirmable entries

/-! ## The system -/

/-- How far one confirmation has come. -/
inductive ConfirmationPhase where
  | interestsRead
  | derived
  | confirmed
  | closed
deriving DecidableEq

/-- One confirmation request: who confirms and why, the interests it has read and the items it has
derived from. -/
structure Confirmation where
  actorId : Uuid
  rationaleVi : String
  interests : List SecurityInterest
  listed : List Uuid
  phase : ConfirmationPhase
deriving DecidableEq

/-- The security interests and items of one case version, the gates of the case, and the requests in
flight. -/
structure System where
  caseId : Uuid
  caseVersion : CaseVersion
  interests : List SecurityInterest
  session : Session Uuid Uuid PerfectionItem ItemTransition ItemAudit
  confirmations : Uuid → Option Confirmation
  tables : CaseTables
  confirmedAudit : List (Uuid × String × Nat)

/-- One step of an interleaving. -/
inductive Request where
  | createInterest (newId : Uuid) (actor : ActorContext) (body : CreateInterestRequest)
  | addItem (newId : Uuid) (actor : ActorContext) (interestId : Uuid) (body : AddItemRequest)
  | beginTransition (callId : Uuid) (actor : ActorContext) (itemId : Uuid)
      (body : TransitionItemRequest) (clock : Timestamp)
  | transition (callId : Uuid) (next : Continuation)
  | openConfirm (confirmId : Uuid) (actor : ActorContext) (rationaleVi : String)
  | listItems (confirmId : Uuid)
  | satisfyGate (confirmId : Uuid) (now : Timestamp)
  | auditConfirm (confirmId : Uuid)
deriving DecidableEq

namespace System

/-- The committed items. -/
abbrev items (s : System) : ItemTable :=
  s.session.table

/-- The current interests with their items. -/
def ledger (s : System) : List SecurityInterestWithItems :=
  ledgerEntries s.interests s.items

/-- The gate is stored as satisfied. -/
abbrev Confirmed (s : System) : Prop :=
  s.tables.GateSatisfied s.caseVersion .hgSecurityPerfectionConfirmed

/-- The interest a request takes. -/
def newInterest (s : System) (newId : Uuid) (actor : ActorContext) (body : CreateInterestRequest)
    (assetKind : SecurityAssetKind) : SecurityInterest where
  id := newId
  caseId := s.caseId
  caseVersion := s.caseVersion
  assetDescriptionVi := body.assetDescriptionVi
  assetKind := assetKind
  ownerNameVi := body.ownerNameVi
  valuationReference := body.valuationReference
  notesVi := body.notesVi
  createdBy := actor.actorId

/-- Run one statement on the items. -/
def run (s : System) (statement : Statement Uuid Uuid PerfectionItem ItemTransition ItemAudit) :
    Option System :=
  (execute transitionItem s.session statement).map fun session => { s with session }

/-- Store one confirmation. -/
def putConfirmation (s : System) (confirmId : Uuid) (confirmation : Confirmation) : System :=
  { s with confirmations := Function.update s.confirmations confirmId (some confirmation) }

/-- `ensure_gate` of a confirmation. -/
def satisfy (s : System) (actorId : Uuid) (now : Timestamp) : System :=
  { s with
    tables := s.tables.ensureGate s.caseVersion .hgSecurityPerfectionConfirmed .satisfied now
      (some actorId) (some ("security-perfection:" ++ toString s.caseVersion)) }

end System

/-- What a request does; none when it is not at that point, waits for a lock, or is refused. -/
def step (s : System) : Request → Option System
  | .createInterest newId actor body =>
    match checkCreate actor body with
    | .error _ => none
    | .ok assetKind =>
      if newId ∈ s.interests.map (·.id) then none
      else some { s with interests := s.interests ++ [s.newInterest newId actor body assetKind] }
  | .addItem newId actor interestId body =>
    match requireWriter actor with
    | .error _ => none
    | .ok () =>
      -- `_locate_interest`
      if interestId ∈ s.interests.map (·.id) then
        let item := body.item newId interestId
        s.run (.insert newId item (itemAddedEntry item actor.actorId (writerRole actor)))
      else none
  | .beginTransition callId actor itemId body clock =>
    match checkTransition actor itemId body clock with
    | .error _ => none
    | .ok request => s.run (.select callId request)
  | .transition callId next => s.run (next.of callId)
  | .openConfirm confirmId actor rationaleVi =>
    match s.confirmations confirmId, requireChecker actor with
    | none, .ok () =>
      some (s.putConfirmation confirmId ⟨actor.actorId, rationaleVi, s.interests, [], .interestsRead⟩)
    | _, _ => none
  | .listItems confirmId =>
    match s.confirmations confirmId with
    | none => none
    | some confirmation =>
      if confirmation.phase = .interestsRead then
        let entries := ledgerEntries confirmation.interests s.items
        if checkConfirmable entries = true then
          some (s.putConfirmation confirmId
            { confirmation with listed := itemIds entries, phase := .derived })
        else some (s.putConfirmation confirmId { confirmation with phase := .closed })
      else none
  | .satisfyGate confirmId now =>
    match s.confirmations confirmId with
    | none => none
    | some confirmation =>
      if confirmation.phase = .derived then
        some ((s.satisfy confirmation.actorId now).putConfirmation confirmId
          { confirmation with phase := .confirmed })
      else none
  | .auditConfirm confirmId =>
    match s.confirmations confirmId with
    | none => none
    | some confirmation =>
      if confirmation.phase = .confirmed then
        some { s.putConfirmation confirmId { confirmation with phase := .closed } with
               confirmedAudit :=
                (confirmation.actorId, confirmation.rationaleVi, confirmation.interests.length) ::
                  s.confirmedAudit }
      else none

/-- A case version before its first security interest, whose perfection gate is open. -/
structure Initial (s : System) : Prop where
  noInterest : s.interests = []
  session : s.session = .empty
  noConfirmation : ∀ id, s.confirmations id = none
  gateOpen : ¬ s.Confirmed

/-! ## What a step can do -/

/-- What a step can do, with everything it has checked. -/
inductive Stepped (s : System) : Request → System → Prop where
  | created {newId : Uuid} {actor : ActorContext} {body : CreateInterestRequest}
      {assetKind : SecurityAssetKind} (hfree : newId ∉ s.interests.map (·.id)) :
      Stepped s (.createInterest newId actor body)
        { s with interests := s.interests ++ [s.newInterest newId actor body assetKind] }
  | added {newId : Uuid} {actor : ActorContext} {interestId : Uuid} {body : AddItemRequest}
      {table : ItemTable} (hint : interestId ∈ s.interests.map (·.id))
      (hins : s.items.insert newId (body.item newId interestId)
        (itemAddedEntry (body.item newId interestId) actor.actorId (writerRole actor)) = some table) :
      Stepped s (.addItem newId actor interestId body) { s with session := { s.session with table } }
  | begun {callId : Uuid} {actor : ActorContext} {itemId : Uuid} {body : TransitionItemRequest}
      {clock : Timestamp} {request : ItemTransition}
      {session : Session Uuid Uuid PerfectionItem ItemTransition ItemAudit}
      (hcheck : checkTransition actor itemId body clock = .ok request)
      (hexec : execute transitionItem s.session (.select callId request) = some session) :
      Stepped s (.beginTransition callId actor itemId body clock) { s with session }
  | executed {callId : Uuid} {next : Continuation}
      {session : Session Uuid Uuid PerfectionItem ItemTransition ItemAudit}
      (hexec : execute transitionItem s.session (next.of callId) = some session) :
      Stepped s (.transition callId next) { s with session }
  | opened {confirmId : Uuid} {actor : ActorContext} {rationaleVi : String}
      (hfree : s.confirmations confirmId = none) :
      Stepped s (.openConfirm confirmId actor rationaleVi)
        (s.putConfirmation confirmId ⟨actor.actorId, rationaleVi, s.interests, [], .interestsRead⟩)
  | derived {confirmId : Uuid} {confirmation : Confirmation}
      (hconf : s.confirmations confirmId = some confirmation)
      (hphase : confirmation.phase = .interestsRead)
      (hcheck : checkConfirmable (ledgerEntries confirmation.interests s.items) = true) :
      Stepped s (.listItems confirmId)
        (s.putConfirmation confirmId
          { confirmation with
            listed := itemIds (ledgerEntries confirmation.interests s.items), phase := .derived })
  | refused {confirmId : Uuid} {confirmation : Confirmation}
      (hconf : s.confirmations confirmId = some confirmation)
      (hphase : confirmation.phase = .interestsRead) :
      Stepped s (.listItems confirmId)
        (s.putConfirmation confirmId { confirmation with phase := .closed })
  | satisfied {confirmId : Uuid} {now : Timestamp} {confirmation : Confirmation}
      (hconf : s.confirmations confirmId = some confirmation)
      (hphase : confirmation.phase = .derived) :
      Stepped s (.satisfyGate confirmId now)
        ((s.satisfy confirmation.actorId now).putConfirmation confirmId
          { confirmation with phase := .confirmed })
  | audited {confirmId : Uuid} {confirmation : Confirmation}
      (hconf : s.confirmations confirmId = some confirmation)
      (hphase : confirmation.phase = .confirmed) :
      Stepped s (.auditConfirm confirmId)
        { s.putConfirmation confirmId { confirmation with phase := .closed } with
          confirmedAudit :=
            (confirmation.actorId, confirmation.rationaleVi, confirmation.interests.length) ::
              s.confirmedAudit }

variable {s t : System} {q : Request}

/-- **What a step can do.** -/
theorem step_cases (h : step s q = some t) : Stepped s q t := by
  cases q with
  | createInterest =>
    simp only [step] at h
    split at h
    · cases h
    split_ifs at h with htaken
    cases h
    exact .created htaken
  | addItem =>
    simp only [step] at h
    split at h
    · cases h
    split_ifs at h with hint
    obtain ⟨_, hexec, rfl⟩ := Option.map_eq_some_iff.1 h
    obtain ⟨_, htable, rfl⟩ := Option.map_eq_some_iff.1 hexec
    exact .added hint htable
  | beginTransition callId actor itemId body clock =>
    simp only [step] at h
    split at h
    · cases h
    rename_i request hcheck
    obtain ⟨_, hexec, rfl⟩ := Option.map_eq_some_iff.1 h
    exact .begun hcheck hexec
  | transition =>
    obtain ⟨_, hexec, rfl⟩ := Option.map_eq_some_iff.1 h
    exact .executed hexec
  | openConfirm confirmId actor rationaleVi =>
    simp only [step] at h
    split at h
    · rename_i hfree _
      cases h
      exact .opened hfree
    · cases h
  | listItems confirmId =>
    simp only [step] at h
    split at h
    · cases h
    rename_i confirmation hconf
    split_ifs at h with hphase hcheck
    · cases h
      exact .derived hconf hphase hcheck
    · cases h
      exact .refused hconf hphase
  | satisfyGate confirmId now =>
    simp only [step] at h
    split at h
    · cases h
    rename_i confirmation hconf
    split_ifs at h with hphase
    cases h
    exact .satisfied hconf hphase
  | auditConfirm confirmId =>
    simp only [step] at h
    split at h
    · cases h
    rename_i confirmation hconf
    split_ifs at h with hphase
    cases h
    exact .audited hconf hphase

/-! ## What a step does to the items -/

/-- A step leaves the items alone, adds one, or commits what one transaction has written. -/
inductive ItemMove (s : System) : Request → ItemTable → Prop where
  | same {q : Request} (hcom : ∀ callId, q ≠ .transition callId .commit) : ItemMove s q s.items
  | added {newId : Uuid} {actor : ActorContext} {interestId : Uuid} {body : AddItemRequest}
      {table : ItemTable} (hint : interestId ∈ s.interests.map (·.id))
      (hfree : s.items.rows newId = none)
      (hrows : table.rows =
        Function.update s.items.rows newId (some (body.item newId interestId)))
      (hlog : table.log =
        (newId, itemAddedEntry (body.item newId interestId) actor.actorId (writerRole actor)) ::
          s.items.log) :
      ItemMove s (.addItem newId actor interestId body) table
  | moved {callId : Uuid} {transaction : Transaction PerfectionItem ItemTransition}
      {base new : PerfectionItem} {table : ItemTable}
      (htx : s.session.transactions callId = some transaction)
      (hadmits : admitsItemTransition transaction.request transaction.seen = true)
      (hstage : transaction.stage.Pending base new)
      (hbase : s.items.rows transaction.request.itemId = some base)
      (hwritten : Written transaction.request transaction.seen base new)
      (hrows : table.rows = Function.update s.items.rows transaction.request.itemId (some new))
      (hlog : table.log =
        (transaction.request.itemId,
          itemTransitionedEntry transaction.request transaction.seen) :: s.items.log) :
      ItemMove s (.transition callId .commit) table

/-- **What a step does to the items.** -/
theorem itemMove_of_step (hcons : Consistent transitionItem s.session)
    (h : step s q = some t) : ItemMove s q t.items := by
  cases step_cases h with
  | added hint hins =>
    obtain ⟨hfree, hrows, hlog⟩ := Table.insert_eq_some hins
    exact .added hint hfree hrows hlog
  | begun _ hexec =>
    cases execute_cases hexec with
    | selected | selectedForUpdate => exact .same nofun
  | @executed callId next session hexec =>
    cases next with
    | update =>
      cases execute_cases hexec with
      | updated | raised => exact .same nofun
    | record =>
      cases execute_cases hexec with
      | recorded => exact .same nofun
    | commit =>
      cases execute_cases hexec with
      | committed hopen htable =>
        obtain ⟨-, hbase, hwrite⟩ := hcons.pending hopen ⟨rfl, rfl⟩
        obtain ⟨-, hrows, hlog⟩ := Table.write_eq_some htable
        exact .moved hopen (hcons.admitted hopen) ⟨rfl, rfl⟩ hbase (written_of_write hwrite)
          hrows hlog
    | rollback =>
      cases execute_cases hexec with
      | rolledBack => exact .same nofun
  | created | opened | derived | refused | satisfied | audited => exact .same nofun

theorem items_of_step (hcons : Consistent transitionItem s.session) (h : step s q = some t)
    (hadd : ∀ newId actor interestId body, q ≠ .addItem newId actor interestId body)
    (hcom : ∀ callId, q ≠ .transition callId .commit) : t.items = s.items := by
  have hmove := itemMove_of_step hcons h
  generalize t.items = table at hmove ⊢
  cases hmove with
  | same => rfl
  | added => exact absurd rfl (hadd _ _ _ _)
  | moved => exact absurd rfl (hcom _)

theorem consistent_of_step (hcons : Consistent transitionItem s.session)
    (h : step s q = some t) : Consistent transitionItem t.session := by
  cases step_cases h with
  | added _ hins => exact hcons.insert hins
  | begun _ hexec | executed hexec => exact hcons.execute hexec
  | created | opened | derived | refused | satisfied | audited => exact hcons

theorem interests_of_step (h : step s q = some t) : ∃ added, t.interests = s.interests ++ added := by
  cases step_cases h with
  | created => exact ⟨_, rfl⟩
  | added | begun | executed | opened | derived | refused | satisfied | audited =>
    exact ⟨[], (List.append_nil _).symm⟩

/-! ## What every reachable state satisfies -/

/-- The transactions are consistent, an item is filed under its own id and belongs to an interest, and only
an item has transitions. -/
structure Tracked (s : System) : Prop where
  consistent : Consistent transitionItem s.session
  filed : ∀ {key item}, s.items.rows key = some item → item.id = key
  unfiled : ∀ {key}, s.items.rows key = none → s.items.transitionsOf key = []
  housed : ∀ {key item}, s.items.rows key = some item → item.interestId ∈ s.interests.map (·.id)

theorem Initial.tracked (h : Initial s) : Tracked s := by
  refine ⟨?_, ?_, ?_, ?_⟩
  · rw [h.session]
    exact consistent_empty
  all_goals
    rw [System.items, h.session]
  · exact fun h => nomatch h
  · exact fun _ => rfl
  · exact fun h => nomatch h

theorem Tracked.step (h : Tracked s) (hstep : SecurityInterests.step s q = some t) : Tracked t := by
  obtain ⟨added, hints⟩ := interests_of_step hstep
  have hgrown : ∀ {id}, id ∈ s.interests.map (·.id) → id ∈ t.interests.map (·.id) := by
    intro id hid
    rw [hints, List.map_append]
    exact List.mem_append_left _ hid
  have hmove := itemMove_of_step h.consistent hstep
  refine ⟨consistent_of_step h.consistent hstep, ?_, ?_, ?_⟩
  all_goals
    generalize t.items = table at hmove ⊢
  · intro key item hrow
    cases hmove with
    | same => exact h.filed hrow
    | added _ _ hrows =>
      rw [hrows] at hrow
      rcases update_some_cases hrow with ⟨rfl, rfl⟩ | ⟨-, hold⟩
      · rfl
      · exact h.filed hold
    | moved _ _ _ hbase hwritten hrows =>
      rw [hrows] at hrow
      rcases update_some_cases hrow with ⟨rfl, rfl⟩ | ⟨-, hold⟩
      · rw [hwritten.id, h.filed hbase]
      · exact h.filed hold
  · intro key hnone
    cases hmove with
    | same => exact h.unfiled hnone
    | added _ _ hrows hlog | moved _ _ _ _ _ hrows hlog =>
      rw [hrows] at hnone
      obtain ⟨hne, hold⟩ := of_update_some_none hnone
      rw [transitionsOf_of_cons hlog, if_neg hne, h.unfiled hold]
  · intro key item hrow
    cases hmove with
    | same => exact hgrown (h.housed hrow)
    | added hint _ hrows =>
      rw [hrows] at hrow
      rcases update_some_cases hrow with ⟨rfl, rfl⟩ | ⟨-, hold⟩
      · exact hgrown hint
      · exact hgrown (h.housed hold)
    | moved _ _ _ hbase hwritten hrows =>
      rw [hrows] at hrow
      rcases update_some_cases hrow with ⟨rfl, rfl⟩ | ⟨-, hold⟩
      · rw [hwritten.interestId]
        exact hgrown (h.housed hbase)
      · exact hgrown (h.housed hold)

/-! ## No confirmable perfection without a transition -/

/-- What the derivation is called with: the status endpoint reads the interests and the items at once, a
confirmation has read its interests before. -/
inductive DerivesFrom (s : System) : List SecurityInterestWithItems → Prop where
  | status : DerivesFrom s s.ledger
  | confirming {id : Uuid} {confirmation : Confirmation}
      (hconf : s.confirmations id = some confirmation) :
      DerivesFrom s (ledgerEntries confirmation.interests s.items)

/-- An accepting derivation goes back to a human transition of an item of the version to the status that
counts. -/
def PerfectionBacked (s : System) : Prop :=
  ∀ entries, DerivesFrom s entries → derivePerfectionConfirmable entries = true →
    ∃ entry ∈ entries, entry.interest.caseVersion = s.caseVersion ∧ ∃ item ∈ entry.items,
      ∃ event ∈ s.items.transitionsOf item.id, event.toStatus = item.status ∧
        item.status ∈ terminalSatisfiedStatuses

/-- An item has left `PENDING` by a recorded transition only, the interests are of the version, and a
confirmation has read some of them. -/
structure Recorded (s : System) : Prop extends Tracked s where
  entered : ∀ key item, s.items.rows key = some item → item.status ≠ pending →
    ∃ event ∈ s.items.transitionsOf key, event.toStatus = item.status
  versioned : ∀ interest ∈ s.interests, interest.caseVersion = s.caseVersion
  read : ∀ id confirmation, s.confirmations id = some confirmation →
    ∀ interest ∈ confirmation.interests, interest ∈ s.interests

theorem Initial.recorded (h : Initial s) : Recorded s where
  toTracked := h.tracked
  entered key item hrow := by
    rw [System.items, h.session] at hrow
    cases hrow
  versioned interest hmem := by rw [h.noInterest] at hmem; cases hmem
  read id confirmation hconf := by rw [h.noConfirmation] at hconf; cases hconf

namespace Recorded

theorem entered_step (h : Recorded s) (hstep : SecurityInterests.step s q = some t) :
    ∀ key item, t.items.rows key = some item → item.status ≠ pending →
      ∃ event ∈ t.items.transitionsOf key, event.toStatus = item.status := by
  have hmove := itemMove_of_step h.consistent hstep
  generalize t.items = table at hmove ⊢
  intro key item hrow hstat
  cases hmove with
  | same => exact h.entered key item hrow hstat
  | added _ _ hrows hlog =>
    rw [hrows] at hrow
    rcases update_some_cases hrow with ⟨-, rfl⟩ | ⟨hne, hold⟩
    · exact absurd rfl hstat
    rw [transitionsOf_of_cons hlog, if_neg hne]
    exact h.entered key item hold hstat
  | moved _ _ _ _ hwritten hrows hlog =>
    rw [hrows] at hrow
    rcases update_some_cases hrow with ⟨rfl, rfl⟩ | ⟨hne, hold⟩
    · -- the entry of the commit is the transition to the status it has written
      rw [transitionsOf_of_cons hlog, if_pos rfl]
      exact ⟨_, List.mem_append_left _ List.mem_cons_self, hwritten.status.symm⟩
    · rw [transitionsOf_of_cons hlog, if_neg hne]
      exact h.entered key item hold hstat

theorem versioned_step (h : Recorded s) (hstep : SecurityInterests.step s q = some t) :
    ∀ interest ∈ t.interests, interest.caseVersion = t.caseVersion := by
  cases step_cases hstep with
  | created =>
    intro interest hmem
    rcases List.mem_append.1 hmem with hold | hnew
    · exact h.versioned interest hold
    · rw [List.mem_singleton] at hnew
      rw [hnew]
      rfl
  | added | begun | executed | opened | derived | refused | satisfied | audited => exact h.versioned

theorem read_of_put (h : Recorded s) {confirmId : Uuid} {confirmation next : Confirmation}
    (hconf : s.confirmations confirmId = some confirmation)
    (hints : next.interests = confirmation.interests) :
    ∀ id other, (s.putConfirmation confirmId next).confirmations id = some other →
      ∀ interest ∈ other.interests, interest ∈ s.interests := by
  intro id other hother
  rcases update_some_cases hother with ⟨-, rfl⟩ | ⟨-, hold⟩
  · rw [hints]
    exact h.read confirmId confirmation hconf
  · exact h.read id other hold

theorem read_step (h : Recorded s) (hstep : SecurityInterests.step s q = some t) :
    ∀ id confirmation, t.confirmations id = some confirmation →
      ∀ interest ∈ confirmation.interests, interest ∈ t.interests := by
  cases step_cases hstep with
  | created =>
    intro id confirmation hconf interest hmem
    exact List.mem_append_left _ (h.read id confirmation hconf interest hmem)
  | opened =>
    intro id confirmation hconf
    rcases update_some_cases hconf with ⟨-, rfl⟩ | ⟨-, hold⟩
    · exact fun interest hmem => hmem
    · exact h.read id confirmation hold
  | derived hconf | refused hconf | satisfied hconf
  | audited hconf => exact h.read_of_put hconf rfl
  | added | begun | executed => exact h.read

theorem step (h : Recorded s) (hstep : SecurityInterests.step s q = some t) : Recorded t where
  toTracked := h.toTracked.step hstep
  entered := h.entered_step hstep
  versioned := h.versioned_step hstep
  read := h.read_step hstep

theorem interest_of_entry (h : Recorded s) {entries : List SecurityInterestWithItems}
    (hfrom : DerivesFrom s entries) {entry : SecurityInterestWithItems} (hmem : entry ∈ entries) :
    entry.interest ∈ s.interests ∧ entry.items = s.items.itemsOf entry.interest.id := by
  cases hfrom with
  | status =>
    obtain ⟨_, hint, rfl⟩ := List.mem_map.1 hmem
    exact ⟨hint, rfl⟩
  | confirming hconf =>
    obtain ⟨interest, hint, rfl⟩ := List.mem_map.1 hmem
    exact ⟨h.read _ _ hconf interest hint, rfl⟩

end Recorded

/-- **No perfection is confirmable without a transition.** -/
theorem perfection_backed {as : List Request} (hinit : Initial s) (hrun : run step s as = some t) :
    PerfectionBacked t := by
  have hrecorded : Recorded t :=
    run_invariant (fun hs hstep => Recorded.step hs hstep) hinit.recorded hrun
  intro entries hfrom hconfirmable
  obtain ⟨hne, hall⟩ := confirmable_iff.1 hconfirmable
  obtain ⟨entry, hentry⟩ := List.exists_mem_of_ne_nil _ hne
  obtain ⟨hitems, hsat⟩ := hall entry hentry
  obtain ⟨item, hitem⟩ := List.exists_mem_of_ne_nil _ hitems
  obtain ⟨hint, hof⟩ := hrecorded.interest_of_entry hfrom hentry
  refine ⟨entry, hentry, hrecorded.versioned _ hint, item, hitem, ?_⟩
  have hlisted : item ∈ t.items.listing := by
    rw [hof] at hitem
    exact List.mem_of_mem_filter hitem
  obtain ⟨key, hrow⟩ := Table.mem_listing_iff.1 hlisted
  have hcounts := hsat item hitem
  have hleft : item.status ≠ pending := by
    intro hpend
    rw [hpend] at hcounts
    exact pending_not_satisfied hcounts
  obtain ⟨event, hevent, hto⟩ := hrecorded.entered key item hrow hleft
  rw [hrecorded.filed hrow]
  exact ⟨event, hevent, hto, hcounts⟩

end CreditOps.SecurityInterests
