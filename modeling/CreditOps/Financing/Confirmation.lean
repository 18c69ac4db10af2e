import CreditOps.Orchestration.HumanGates
import CreditOps.Financing.Requests

/-!
# The confirmation of the financing need

Append and confirm requests of one case, interleaved at the granularity of their transactions, together
with version bumps and the ticks that write the open gate rows. A confirm request must name the latest
version, but looks at it before it writes the gate. The gate row is written once: a later confirmation of
the same case version changes nothing and is answered all the same, and an append after a confirmation
leaves the gate satisfied.
-/

set_option autoImplicit false

namespace CreditOps.Financing

open Transition Orchestration

/-! ## Requests -/

/-- How far an append request has come; `reading` counts the attempts that are left. -/
inductive AppendStage where
  | reading (attempts : Nat)
  | inserting (attempts nextVersion : Nat)
  | auditing (version : FinancingRequestVersion)
  | answered (version : FinancingRequestVersion)
  | failed (error : AppendError)
deriving DecidableEq

/-- `append_financing_version`, after the access check has read the case. -/
structure AppendRequest where
  caseVersion : CaseVersion
  fields : FinancingRequestDraft
  actorId : Uuid
  stage : AppendStage
deriving DecidableEq

/-- `ConfirmationResponse` -/
structure ConfirmationResponse where
  gateType : String
  status : String
  requestVersion : Nat
  dispositionRef : String
deriving DecidableEq

/-- Why a confirmation is refused; a stale one is told the latest version. -/
structure ConfirmationRefusal where
  exception : ApiException
  expectedVersion : Option Nat
deriving DecidableEq

/-- How far a confirm request has come. -/
inductive ConfirmStage where
  | loading
  | writing (latest : FinancingRequestVersion)
  | auditing (latest : FinancingRequestVersion)
  | answering
  | answered (response : ConfirmationResponse)
  | refused (refusal : ConfirmationRefusal)
deriving DecidableEq

/-- `confirm_financing_need`, after the access check has read the case. -/
structure ConfirmRequest where
  caseVersion : CaseVersion
  version : Nat
  rationaleVi : String
  actorId : Uuid
  stage : ConfirmStage
deriving DecidableEq

/-- The audit events of both requests. -/
inductive FinancingAudit where
  | financingRequestVersionAppended (caseVersion : CaseVersion) (artifactId actorId : Uuid)
      (requestVersion : Nat)
  | financingNeedConfirmed (caseVersion : CaseVersion) (artifactId actorId : Uuid)
      (requestVersion : Nat) (rationale : String)
deriving DecidableEq

/-- `f"{_DISPOSITION_REF_PREFIX}:{version}"` -/
def dispositionRef (version : Nat) : String :=
  "financing-request:" ++ Nat.repr version

theorem append_repr_inj (text : String) {n m : Nat} (h : text ++ Nat.repr n = text ++ Nat.repr m) :
    n = m := by
  have hlists := congrArg String.toList h
  rw [String.toList_append, String.toList_append] at hlists
  have hdigits := List.append_cancel_left hlists
  rw [Nat.toList_repr, Nat.toList_repr] at hdigits
  rw [← @Nat.ofDigitChars_ten_toDigits n, hdigits, Nat.ofDigitChars_ten_toDigits]

theorem dispositionRef_inj {version other : Nat} (h : dispositionRef version = dispositionRef other) :
    version = other :=
  append_repr_inj _ h

/-- The check of a confirm request against the latest version it has read. -/
def checkLatest (version : Nat) :
    Option FinancingRequestVersion → Except ConfirmationRefusal FinancingRequestVersion
  | none =>
    .error ⟨⟨404, "FINANCING_REQUEST_NOT_AVAILABLE",
      "Chưa có phiên bản nhu cầu tài trợ để xác nhận."⟩, none⟩
  | some latest =>
    if version = latest.requestVersion then .ok latest
    else
      .error ⟨⟨409, "STALE_FINANCING_VERSION",
        "Phiên bản nhu cầu tài trợ đã thay đổi; vui lòng xác nhận phiên bản mới nhất."⟩,
        some latest.requestVersion⟩

/-- What a confirm request answers. -/
def ConfirmRequest.response (confirm : ConfirmRequest) : ConfirmationResponse where
  gateType := GateType.hgFinancingNeedConfirmed.value
  status := "SATISFIED"
  requestVersion := confirm.version
  dispositionRef := Financing.dispositionRef confirm.version

/-! ## The system -/

/-- The financing requests and the orchestration tables of a case, the requests in flight, and the
version each gate was satisfied for by the request that satisfied it. -/
structure FinancingWorld where
  tables : CaseTables
  requests : List FinancingRequestVersion
  audit : List FinancingAudit
  appends : Uuid → Option AppendRequest
  confirms : Uuid → Option ConfirmRequest
  confirmed : CaseVersion → Option Nat

/-- One step of an interleaving. -/
inductive FinancingAction where
  | openAppend (appendId actorId : Uuid) (fields : FinancingRequestDraft)
  | advanceAppend (appendId newId : Uuid)
  | openConfirm (confirmId actorId : Uuid) (version : Nat) (rationaleVi : String)
  | advanceConfirm (confirmId : Uuid) (now : Timestamp)
  | tick (caseVersion : CaseVersion) (now : Timestamp)
  | bumpCaseVersion (request : RevisionRequest) (handoffId : Uuid)

namespace FinancingWorld

/-- The gate of a case version is satisfied. -/
def GateSatisfied (w : FinancingWorld) (caseVersion : CaseVersion) : Prop :=
  w.tables.GateSatisfied caseVersion .hgFinancingNeedConfirmed

instance (w : FinancingWorld) (caseVersion : CaseVersion) : Decidable (w.GateSatisfied caseVersion) :=
  inferInstanceAs (Decidable (w.tables.GateSatisfied caseVersion .hgFinancingNeedConfirmed))

/-- Move an append request on. -/
def setAppend (w : FinancingWorld) (appendId : Uuid) (append : AppendRequest) (stage : AppendStage) :
    FinancingWorld :=
  { w with appends := Function.update w.appends appendId (some { append with stage }) }

/-- Move a confirm request on. -/
def setConfirm (w : FinancingWorld) (confirmId : Uuid) (confirm : ConfirmRequest)
    (stage : ConfirmStage) : FinancingWorld :=
  { w with confirms := Function.update w.confirms confirmId (some { confirm with stage }) }

/-- The row an append writes. -/
def appendedRow (append : AppendRequest) (newId : Uuid) (requestVersion : Nat) :
    FinancingRequestVersion where
  id := newId
  caseVersion := append.caseVersion
  requestVersion
  fields := append.fields
  createdBy := append.actorId

/-- The next step of an append request: read the next version, insert under it, try again on a
conflict, then audit. -/
def advanceAppend (w : FinancingWorld) (appendId newId : Uuid) (append : AppendRequest) :
    Option FinancingWorld :=
  match append.stage with
  | .reading 0 => some (w.setAppend appendId append (.failed contentionError))
  | .reading (attempts + 1) =>
    some (w.setAppend appendId append (.inserting attempts (nextVersion w.requests)))
  | .inserting attempts next =>
    match insertVersion w.tables.caseVersion w.requests (appendedRow append newId next) with
    | .refused error => some (w.setAppend appendId append (.failed error))
    | .conflict => some (w.setAppend appendId append (.reading attempts))
    | .inserted requests =>
      some ({ w with requests }.setAppend appendId append (.auditing (appendedRow append newId next)))
  | .auditing version =>
    some ({ w with
            audit := .financingRequestVersionAppended append.caseVersion version.id append.actorId
              version.requestVersion :: w.audit }.setAppend appendId append (.answered version))
  | .answered _ | .failed _ => none

/-- The gate transaction of a confirm request. -/
def satisfy (w : FinancingWorld) (confirm : ConfirmRequest) (now : Timestamp) : FinancingWorld :=
  { w with
    tables := w.tables.ensureGate confirm.caseVersion .hgFinancingNeedConfirmed .satisfied now
      (some confirm.actorId) (some (dispositionRef confirm.version))
    confirmed :=
      if w.GateSatisfied confirm.caseVersion then w.confirmed
      else Function.update w.confirmed confirm.caseVersion (some confirm.version) }

/-- The next step of a confirm request: check the latest version, satisfy the gate, audit, answer. -/
def advanceConfirm (w : FinancingWorld) (confirmId : Uuid) (now : Timestamp)
    (confirm : ConfirmRequest) : Option FinancingWorld :=
  match confirm.stage with
  | .loading =>
    match checkLatest confirm.version (latestVersion w.requests) with
    | .error refusal => some (w.setConfirm confirmId confirm (.refused refusal))
    | .ok latest => some (w.setConfirm confirmId confirm (.writing latest))
  | .writing latest => some ((w.satisfy confirm now).setConfirm confirmId confirm (.auditing latest))
  | .auditing latest =>
    some ({ w with
            audit := .financingNeedConfirmed confirm.caseVersion latest.id confirm.actorId
              confirm.version confirm.rationaleVi :: w.audit }.setConfirm confirmId confirm .answering)
  | .answering => some (w.setConfirm confirmId confirm (.answered confirm.response))
  | .answered _ | .refused _ => none

/-- The step function. A tick writes the open gate of the version its snapshot was taken at. -/
def step (w : FinancingWorld) : FinancingAction → Option FinancingWorld
  | .openAppend appendId actorId fields =>
    match w.appends appendId with
    | some _ => none
    | none =>
      some { w with
             appends := Function.update w.appends appendId
              (some ⟨w.tables.caseVersion, fields, actorId, .reading maxAppendAttempts⟩) }
  | .advanceAppend appendId newId => (w.appends appendId).bind (w.advanceAppend appendId newId)
  | .openConfirm confirmId actorId version rationaleVi =>
    match w.confirms confirmId with
    | some _ => none
    | none =>
      some { w with
             confirms := Function.update w.confirms confirmId
              (some ⟨w.tables.caseVersion, version, rationaleVi, actorId, .loading⟩) }
  | .advanceConfirm confirmId now => (w.confirms confirmId).bind (w.advanceConfirm confirmId now)
  | .tick caseVersion now =>
    if caseVersion ≤ w.tables.caseVersion then
      some { w with
             tables := w.tables.ensureGate caseVersion .hgFinancingNeedConfirmed .opened now none
              none }
    else none
  | .bumpCaseVersion request handoffId =>
    (w.tables.bumpCaseVersion request handoffId).toOption.map fun tables => { w with tables }

/-- A case whose versions are numbered, before its first confirmation. -/
structure Initial (w : FinancingWorld) : Prop where
  numbered : NumberedRequests w.requests
  noGate : w.tables.gates = []
  noAppend : ∀ id, w.appends id = none
  noConfirm : ∀ id, w.confirms id = none

/-! ## The promise, and when it is kept -/

/-- The gate of the current case version names the latest version once it is satisfied, and an answered
request answers the reference its gate stores. -/
structure StaysCurrent (w : FinancingWorld) : Prop where
  latest : ∀ gate ∈ w.tables.gates,
    CaseTables.isGate w.tables.caseVersion .hgFinancingNeedConfirmed gate = true →
      gate.status = .satisfied → ∃ version, latestVersion w.requests = some version ∧
        gate.dispositionRef = some (dispositionRef version.requestVersion)
  answered : ∀ id confirm response, w.confirms id = some confirm →
    confirm.stage = .answered response → ∃ gate ∈ w.tables.gates,
      CaseTables.isGate confirm.caseVersion .hgFinancingNeedConfirmed gate = true ∧
        gate.status = .satisfied ∧ gate.dispositionRef = some response.dispositionRef

/-- An append that inserts now finds the gate of the current case version open. -/
def AppendKeeps (w : FinancingWorld) (caseVersion : CaseVersion) : AppendStage → Prop
  | .inserting _ next =>
    caseVersion = w.tables.caseVersion → VersionFree w.requests next →
      ¬ w.GateSatisfied w.tables.caseVersion
  | .reading _ | .auditing _ | .answered _ | .failed _ => True

/-- A confirmation that satisfies the gate of the current case version now is for the latest version, and
one that is answered now is for the version its gate was satisfied for. -/
def ConfirmKeeps (w : FinancingWorld) (caseVersion : CaseVersion) (version : Nat) :
    ConfirmStage → Prop
  | .writing _ =>
    caseVersion = w.tables.caseVersion → ¬ w.GateSatisfied caseVersion →
      (latestVersion w.requests).map (·.requestVersion) = some version
  | .answering => w.confirmed caseVersion = some version
  | .loading | .auditing _ | .answered _ | .refused _ => True

/-- What keeps the promise, step by step. -/
def KeepsCurrent (w : FinancingWorld) : FinancingAction → Prop
  | .advanceAppend appendId _ =>
    ∀ append ∈ w.appends appendId, w.AppendKeeps append.caseVersion append.stage
  | .advanceConfirm confirmId _ =>
    ∀ confirm ∈ w.confirms confirmId, w.ConfirmKeeps confirm.caseVersion confirm.version confirm.stage
  | .openAppend _ _ _ | .openConfirm _ _ _ _ | .tick _ _ | .bumpCaseVersion _ _ => True

instance decidableAppendKeeps (w : FinancingWorld) (caseVersion : CaseVersion) :
    ∀ stage, Decidable (w.AppendKeeps caseVersion stage)
  | .inserting _ _ => inferInstanceAs (Decidable (_ → _ → _))
  | .reading _ | .auditing _ | .answered _ | .failed _ => isTrue trivial

instance decidableConfirmKeeps (w : FinancingWorld) (caseVersion : CaseVersion) (version : Nat) :
    ∀ stage, Decidable (w.ConfirmKeeps caseVersion version stage)
  | .writing _ => inferInstanceAs (Decidable (_ → _ → _))
  | .answering => inferInstanceAs (Decidable (_ = _))
  | .loading | .auditing _ | .answered _ | .refused _ => isTrue trivial

instance decidableKeepsCurrent (w : FinancingWorld) : ∀ a, Decidable (w.KeepsCurrent a)
  | .advanceAppend _ _ | .advanceConfirm _ _ => inferInstanceAs (Decidable (∀ _ ∈ _, _))
  | .openAppend _ _ _ | .openConfirm _ _ _ _ | .tick _ _ | .bumpCaseVersion _ _ => isTrue trivial

/-! ## What a reachable state looks like -/

/-- The request has written its gate. -/
def Written : ConfirmStage → Prop
  | .auditing _ | .answering | .answered _ => True
  | .loading | .writing _ | .refused _ => False

/-- A confirm request is about a version the case has had, finds its gate satisfied once it has written
it, and answers its own version. -/
structure ConfirmTracked (tables : CaseTables) (confirm : ConfirmRequest) : Prop where
  version : confirm.caseVersion ≤ tables.caseVersion
  written : Written confirm.stage →
    tables.GateSatisfied confirm.caseVersion .hgFinancingNeedConfirmed
  answered : ∀ response, confirm.stage = .answered response →
    response.dispositionRef = dispositionRef confirm.version

/-- What every reachable state satisfies. -/
structure Tracked (w : FinancingWorld) : Prop where
  numbered : NumberedRequests w.requests
  follows : ∀ id append attempts next, w.appends id = some append →
    append.stage = .inserting attempts next →
      next = 1 ∨ ∃ row ∈ w.requests, next = row.requestVersion + 1
  keyed : w.tables.GatesKeyed
  gateVersions : ∀ gate ∈ w.tables.gates, gate.caseVersion ≤ w.tables.caseVersion
  confirms : ∀ id confirm, w.confirms id = some confirm → ConfirmTracked w.tables confirm
  stored : ∀ gate ∈ w.tables.gates, gate.gateType = .hgFinancingNeedConfirmed →
    gate.status = .satisfied → ∃ version, w.confirmed gate.caseVersion = some version ∧
      gate.dispositionRef = some (dispositionRef version)

variable {w t : FinancingWorld} {a : FinancingAction} {id newId : Uuid} {append : AppendRequest}
  {confirm : ConfirmRequest} {now : Timestamp}

theorem Initial.tracked (h : w.Initial) : w.Tracked where
  numbered := h.numbered
  follows id append attempts next happend := by
    rw [h.noAppend id] at happend
    cases happend
  keyed := by
    rw [CaseTables.GatesKeyed, h.noGate]
    exact List.nodup_nil
  gateVersions gate hmem := by
    rw [h.noGate] at hmem
    cases hmem
  confirms id confirm hconfirm := by
    rw [h.noConfirm id] at hconfirm
    cases hconfirm
  stored gate hmem := by
    rw [h.noGate] at hmem
    cases hmem

theorem Initial.staysCurrent (h : w.Initial) : w.StaysCurrent where
  latest gate hmem := by
    rw [h.noGate] at hmem
    cases hmem
  answered id confirm response hconfirm := by
    rw [h.noConfirm id] at hconfirm
    cases hconfirm

variable {tables : CaseTables}

theorem ConfirmTracked.mono {tables' : CaseTables} (h : ConfirmTracked tables confirm)
    (hver : tables.caseVersion ≤ tables'.caseVersion)
    (hsat : ∀ v, tables.GateSatisfied v .hgFinancingNeedConfirmed → tables'.GateSatisfied v .hgFinancingNeedConfirmed) :
    ConfirmTracked tables' confirm :=
  ⟨h.version.trans hver, fun hwritten => hsat _ (h.written hwritten), h.answered⟩

/-! ## What a step does -/

/-- What a step does, with everything it has checked. -/
inductive Stepped (w : FinancingWorld) (a : FinancingAction) : FinancingWorld → Prop where
  | appendMoved {appends : Uuid → Option AppendRequest} {audit : List FinancingAudit}
      (hnext : ∀ id append attempts next, appends id = some append →
        append.stage = .inserting attempts next →
          w.appends id = some append ∨ next = nextVersion w.requests)
      (hkeeps : w.KeepsCurrent a) :
      Stepped w a { w with appends, audit }
  | appended {id newId : Uuid} {append : AppendRequest} {attempts next : Nat}
      (ha : a = .advanceAppend id newId) (happend : w.appends id = some append)
      (hstage : append.stage = .inserting attempts next)
      (hcur : append.caseVersion = w.tables.caseVersion) (hfree : VersionFree w.requests next) :
      Stepped w a
        ({ w with requests := appendedRow append newId next :: w.requests }.setAppend id append
          (.auditing (appendedRow append newId next)))
  | confirmMoved {confirms : Uuid → Option ConfirmRequest} {audit : List FinancingAudit}
      (hconfirms : ∀ id confirm, confirms id = some confirm → w.confirms id = some confirm ∨
        (ConfirmTracked w.tables confirm ∧ ∀ response, confirm.stage ≠ .answered response))
      (hkeeps : w.KeepsCurrent a) :
      Stepped w a { w with confirms, audit }
  | satisfied {id : Uuid} {now : Timestamp} {confirm : ConfirmRequest}
      {latest : FinancingRequestVersion} (ha : a = .advanceConfirm id now)
      (hconfirm : w.confirms id = some confirm) (hstage : confirm.stage = .writing latest) :
      Stepped w a ((w.satisfy confirm now).setConfirm id confirm (.auditing latest))
  | answered {id : Uuid} {now : Timestamp} {confirm : ConfirmRequest}
      (ha : a = .advanceConfirm id now) (hconfirm : w.confirms id = some confirm)
      (hstage : confirm.stage = .answering) :
      Stepped w a (w.setConfirm id confirm (.answered confirm.response))
  | ticked {caseVersion : CaseVersion} {now : Timestamp} (ha : a = .tick caseVersion now)
      (hver : caseVersion ≤ w.tables.caseVersion) :
      Stepped w a
        { w with
          tables := w.tables.ensureGate caseVersion .hgFinancingNeedConfirmed .opened now none none }
  | bumped {request : RevisionRequest} {handoffId : Uuid} {tables : CaseTables}
      (ha : a = .bumpCaseVersion request handoffId)
      (hbump : w.tables.bumpCaseVersion request handoffId = .ok tables) :
      Stepped w a { w with tables }

variable {stage : AppendStage}

theorem inserting_setAppend
    (hstage : ∀ attempts next, stage = .inserting attempts next → next = nextVersion w.requests) :
    ∀ other otherAppend attempts next, (w.setAppend id append stage).appends other = some otherAppend →
      otherAppend.stage = .inserting attempts next →
        w.appends other = some otherAppend ∨ next = nextVersion w.requests := by
  intro other otherAppend attempts next hother hinserting
  rcases PartialMap.update_some_cases hother with ⟨-, rfl⟩ | ⟨-, hold⟩
  · exact Or.inr (hstage attempts next hinserting)
  · exact Or.inl hold

theorem tracked_setConfirm {stage : ConfirmStage}
    (hstage : ConfirmTracked w.tables { confirm with stage })
    (hopen : ∀ response, stage ≠ .answered response) :
    ∀ other otherConfirm, (w.setConfirm id confirm stage).confirms other = some otherConfirm →
      w.confirms other = some otherConfirm ∨
        (ConfirmTracked w.tables otherConfirm ∧ ∀ response, otherConfirm.stage ≠ .answered response) := by
  intro other otherConfirm hother
  rcases PartialMap.update_some_cases hother with ⟨-, rfl⟩ | ⟨-, hold⟩
  · exact Or.inr ⟨hstage, hopen⟩
  · exact Or.inl hold

theorem advanceAppend_cases (happend : w.appends id = some append)
    (h : w.advanceAppend id newId append = some t) : Stepped w (.advanceAppend id newId) t := by
  have hkeeps : w.AppendKeeps append.caseVersion append.stage →
      w.KeepsCurrent (.advanceAppend id newId) := by
    intro hkeeps other hother
    rw [Option.mem_def, happend, Option.some.injEq] at hother
    rwa [← hother]
  unfold advanceAppend at h
  split at h
  · rename_i hstage
    cases h
    exact .appendMoved (inserting_setAppend (by rintro _ _ ⟨⟩)) (hkeeps (by rw [hstage]; trivial))
  · rename_i attempts hstage
    cases h
    refine .appendMoved (inserting_setAppend ?_) (hkeeps (by rw [hstage]; trivial))
    intro attempts' next heq
    cases heq
    rfl
  · rename_i attempts next hstage
    split at h
    · rename_i error hins
      cases h
      refine .appendMoved (inserting_setAppend (by rintro _ _ ⟨⟩)) (hkeeps ?_)
      rw [hstage]
      intro hcur hfree
      have hrow : (appendedRow append newId next).caseVersion = w.tables.caseVersion := hcur
      rw [insertVersion_of_free hrow hfree] at hins
      cases hins
    · rename_i hins
      cases h
      refine .appendMoved (inserting_setAppend (by rintro _ _ ⟨⟩)) (hkeeps ?_)
      rw [hstage]
      intro hcur hfree
      have hrow : (appendedRow append newId next).caseVersion = w.tables.caseVersion := hcur
      rw [insertVersion_of_free hrow hfree] at hins
      cases hins
    · rename_i requests hins
      cases h
      obtain ⟨hcur, hfree, rfl⟩ := insertVersion_eq_inserted hins
      exact .appended rfl happend hstage hcur hfree
  · rename_i version hstage
    cases h
    refine .appendMoved ?_ (hkeeps (by rw [hstage]; trivial))
    exact inserting_setAppend (by rintro _ _ ⟨⟩)
  · cases h
  · cases h

theorem advanceConfirm_cases (hw : w.Tracked) (hconfirm : w.confirms id = some confirm)
    (h : w.advanceConfirm id now confirm = some t) : Stepped w (.advanceConfirm id now) t := by
  have htracked := hw.confirms id confirm hconfirm
  have hkeeps : w.ConfirmKeeps confirm.caseVersion confirm.version confirm.stage →
      w.KeepsCurrent (.advanceConfirm id now) := by
    intro hkeeps other hother
    rw [Option.mem_def, hconfirm, Option.some.injEq] at hother
    rwa [← hother]
  unfold advanceConfirm at h
  split at h
  · rename_i hstage
    have hkeeps' := hkeeps (by rw [hstage]; trivial)
    split at h
    all_goals
      cases h
      refine .confirmMoved (tracked_setConfirm ⟨htracked.version, nofun, ?_⟩ ?_) hkeeps'
      all_goals rintro _ ⟨⟩
  · rename_i latest hstage
    cases h
    exact .satisfied rfl hconfirm hstage
  · rename_i latest hstage
    cases h
    have hwritten := htracked.written (by rw [hstage]; trivial)
    refine .confirmMoved (tracked_setConfirm ⟨htracked.version, fun _ => hwritten, ?_⟩ ?_)
      (hkeeps (by rw [hstage]; trivial))
    all_goals rintro _ ⟨⟩
  · rename_i hstage
    cases h
    exact .answered rfl hconfirm hstage
  · cases h
  · cases h

/-- **What a step does.** -/
theorem step_cases (hw : w.Tracked) (h : step w a = some t) : Stepped w a t := by
  cases a with
  | openAppend =>
    simp only [step] at h
    split at h
    · cases h
    cases h
    refine .appendMoved ?_ trivial
    intro other otherAppend attempts next hother hinserting
    rcases PartialMap.update_some_cases hother with ⟨-, rfl⟩ | ⟨-, hold⟩
    · cases hinserting
    · exact Or.inl hold
  | advanceAppend =>
    obtain ⟨_, happend, hadv⟩ := Option.bind_eq_some_iff.1 h
    exact advanceAppend_cases happend hadv
  | openConfirm =>
    simp only [step] at h
    split at h
    · cases h
    cases h
    refine .confirmMoved ?_ trivial
    intro other otherConfirm hother
    rcases PartialMap.update_some_cases hother with ⟨-, rfl⟩ | ⟨-, hold⟩
    · refine Or.inr ⟨⟨le_refl _, nofun, ?_⟩, ?_⟩
      all_goals rintro _ ⟨⟩
    · exact Or.inl hold
  | advanceConfirm =>
    obtain ⟨_, hconfirm, hadv⟩ := Option.bind_eq_some_iff.1 h
    exact advanceConfirm_cases hw hconfirm hadv
  | tick caseVersion now =>
    simp only [step] at h
    split at h
    · rename_i hver
      cases h
      exact .ticked rfl hver
    · cases h
  | bumpCaseVersion =>
    obtain ⟨_, htabs, rfl⟩ := Option.map_eq_some_iff.1 h
    exact .bumped rfl (Results.toOption_eq_some.1 htabs)

/-! ## Every step keeps the tables in order -/

theorem caseVersion_ensureGate (tables : CaseTables) (caseVersion : CaseVersion) (gateType : GateType)
    (status : GateStatus) (now : Timestamp) (actorId : Option Uuid) (ref : Option String) :
    (tables.ensureGate caseVersion gateType status now actorId ref).caseVersion =
      tables.caseVersion := by
  rw [CaseTables.ensureGate_frame]

variable {caseVersion : CaseVersion}

/-- Gate rows stay within the versions the case has had. -/
theorem gateVersions_ensureGate {gateType : GateType} {status : GateStatus} {actorId : Option Uuid}
    {ref : Option String} (h : ∀ gate ∈ tables.gates, gate.caseVersion ≤ tables.caseVersion)
    (hver : caseVersion ≤ tables.caseVersion) :
    ∀ gate ∈ (tables.ensureGate caseVersion gateType status now actorId ref).gates,
      gate.caseVersion ≤ tables.caseVersion := by
  -- the inserted row, if there is one, is of the version that is asked for
  have hinserted : ∀ gate ∈ (tables.insertGate caseVersion gateType).gates,
      gate.caseVersion ≤ tables.caseVersion := by
    unfold CaseTables.insertGate
    split
    · exact h
    · exact List.forall_mem_cons.2 ⟨hver, h⟩
  cases status with
  | opened => exact hinserted
  | satisfied =>
    intro gate hmem
    obtain ⟨old, hold, rfl⟩ := List.mem_map.1 hmem
    split
    all_goals exact hinserted old hold

theorem ConfirmTracked.ensureGate (h : ConfirmTracked tables confirm) (caseVersion : CaseVersion)
    (gateType : GateType) (status : GateStatus) (now : Timestamp) (actorId : Option Uuid)
    (ref : Option String) :
    ConfirmTracked (tables.ensureGate caseVersion gateType status now actorId ref) confirm := by
  refine h.mono (caseVersion_ensureGate _ _ _ _ _ _ _).ge ?_
  intro v hsat
  exact CaseTables.gateSatisfied_ensureGate_of hsat

theorem Tracked.satisfied (hw : w.Tracked) (hconfirm : w.confirms id = some confirm)
    {latest : FinancingRequestVersion} (now : Timestamp) :
    ((w.satisfy confirm now).setConfirm id confirm (.auditing latest)).Tracked := by
  have htracked := hw.confirms id confirm hconfirm
  have hcase : (w.satisfy confirm now).tables.caseVersion = w.tables.caseVersion :=
    caseVersion_ensureGate _ _ _ _ _ _ _
  refine ⟨hw.numbered, hw.follows, hw.keyed.ensureGate _ _ _ _, ?_, ?_, ?_⟩
  · intro gate hmem
    exact (gateVersions_ensureGate hw.gateVersions htracked.version gate hmem).trans hcase.ge
  · intro other otherConfirm hother
    rcases PartialMap.update_some_cases hother with ⟨-, rfl⟩ | ⟨-, hold⟩
    · refine ⟨htracked.version.trans hcase.ge, fun _ => ?_, by rintro _ ⟨⟩⟩
      exact CaseTables.gateSatisfied_ensureGate_self _ _ _ _ _ _
    · exact (hw.confirms other otherConfirm hold).ensureGate confirm.caseVersion
        .hgFinancingNeedConfirmed .satisfied now (some confirm.actorId)
        (some (dispositionRef confirm.version))
  · intro gate hmem htype hstat
    by_cases hpre : w.GateSatisfied confirm.caseVersion
    · -- the gate was satisfied before, so no row has changed
      have hconfirmed : (w.satisfy confirm now).confirmed = w.confirmed := if_pos hpre
      rcases CaseTables.mem_ensureGate_satisfied hw.keyed hmem hstat with hold | ⟨-, -, -, -, hopen⟩
      · obtain ⟨version, hver, href⟩ := hw.stored gate hold htype hstat
        exact ⟨version, (congrFun hconfirmed gate.caseVersion).trans hver, href⟩
      · exact absurd hpre hopen
    · have hconfirmed : (w.satisfy confirm now).confirmed =
          Function.update w.confirmed confirm.caseVersion (some confirm.version) := if_neg hpre
      rcases CaseTables.mem_ensureGate_satisfied hw.keyed hmem hstat with
        hold | ⟨-, hisGate, -, href, -⟩
      · obtain ⟨version, hver, href⟩ := hw.stored gate hold htype hstat
        refine ⟨version, (congrFun hconfirmed gate.caseVersion).trans ?_, href⟩
        -- a row of the confirmed version would have been satisfied
        rw [Function.update_of_ne, hver]
        intro heq
        exact hpre ⟨gate, hold, CaseTables.isGate_iff.2 ⟨heq, htype⟩, hstat⟩
      · obtain ⟨hver, -⟩ := CaseTables.isGate_iff.1 hisGate
        refine ⟨confirm.version, (congrFun hconfirmed gate.caseVersion).trans ?_, href⟩
        rw [hver, Function.update_self]

/-- **Every step keeps the tables in order.** -/
theorem Tracked.step (hw : w.Tracked) (h : step w a = some t) : t.Tracked := by
  cases step_cases hw h with
  | appendMoved hnext =>
    refine ⟨hw.numbered, ?_, hw.keyed, hw.gateVersions, hw.confirms, hw.stored⟩
    intro id append attempts next happend hstage
    rcases hnext id append attempts next happend hstage with hold | rfl
    · exact hw.follows id append attempts next hold hstage
    · exact nextVersion_follows hw.numbered
  | @appended id newId append attempts next ha happend hstage hcur hfree =>
    have hnumbered : NumberedRequests (appendedRow append newId next :: w.requests) :=
      numbered_insert hw.numbered hfree (hw.follows id append attempts next happend hstage)
    refine ⟨hnumbered, ?_, hw.keyed, hw.gateVersions, hw.confirms, hw.stored⟩
    intro other otherAppend attempts' next' hother hinserting
    rcases PartialMap.update_some_cases hother with ⟨-, rfl⟩ | ⟨-, hold⟩
    · cases hinserting
    rcases hw.follows other otherAppend attempts' next' hold hinserting with hone | ⟨row, hmem, hrow⟩
    · exact Or.inl hone
    · exact Or.inr ⟨row, List.mem_cons_of_mem _ hmem, hrow⟩
  | confirmMoved hconfirms =>
    refine ⟨hw.numbered, hw.follows, hw.keyed, hw.gateVersions, ?_, hw.stored⟩
    intro id confirm hconfirm
    rcases hconfirms id confirm hconfirm with hold | ⟨htracked, -⟩
    · exact hw.confirms id confirm hold
    · exact htracked
  | satisfied _ hconfirm => exact hw.satisfied hconfirm _
  | @answered id now confirm ha hconfirm hstage =>
    refine ⟨hw.numbered, hw.follows, hw.keyed, hw.gateVersions, ?_, hw.stored⟩
    intro other otherConfirm hother
    rcases PartialMap.update_some_cases hother with ⟨-, rfl⟩ | ⟨-, hold⟩
    · have htracked := hw.confirms id confirm hconfirm
      refine ⟨htracked.version, fun _ => htracked.written (by rw [hstage]; trivial), ?_⟩
      rintro _ ⟨⟩
      rfl
    · exact hw.confirms other otherConfirm hold
  | @ticked caseVersion now ha hver =>
    have hcase := caseVersion_ensureGate w.tables caseVersion .hgFinancingNeedConfirmed .opened now none
      none
    refine ⟨hw.numbered, hw.follows, hw.keyed.ensureGate _ _ _ _, ?_, ?_, ?_⟩
    · intro gate hmem
      exact (gateVersions_ensureGate hw.gateVersions hver gate hmem).trans hcase.ge
    · intro id confirm hconfirm
      exact (hw.confirms id confirm hconfirm).ensureGate caseVersion .hgFinancingNeedConfirmed .opened
        now none none
    · intro gate hmem htype hstat
      rcases CaseTables.mem_ensureGate_satisfied hw.keyed hmem hstat with hold | ⟨hsatisfies, -⟩
      · exact hw.stored gate hold htype hstat
      · cases hsatisfies
  | @bumped request handoffId tables ha hbump =>
    obtain ⟨-, -, hgates, -, -⟩ := CaseTables.bumpCaseVersion_frame hbump
    have hcase : w.tables.caseVersion ≤ tables.caseVersion := by
      rw [(CaseTables.bumpCaseVersion_next hbump).2]
      exact Nat.le_succ _
    refine ⟨hw.numbered, hw.follows, ?_, ?_, ?_, ?_⟩
    · rw [CaseTables.GatesKeyed, hgates]
      exact hw.keyed
    · intro gate hmem
      rw [hgates] at hmem
      exact (hw.gateVersions gate hmem).trans hcase
    · intro id confirm hconfirm
      refine (hw.confirms id confirm hconfirm).mono hcase ?_
      intro v hsat
      rwa [CaseTables.GateSatisfied, hgates]
    · intro gate hmem
      rw [hgates] at hmem
      exact hw.stored gate hmem

/-! ## When a step keeps the promise -/

theorem Tracked.stored_ref (hw : w.Tracked) {gate : GateRecord} (hmem : gate ∈ w.tables.gates)
    (hisGate : CaseTables.isGate caseVersion .hgFinancingNeedConfirmed gate = true)
    (hstat : gate.status = .satisfied) :
    ∃ version, w.confirmed caseVersion = some version ∧
      gate.dispositionRef = some (dispositionRef version) := by
  obtain ⟨hver, htype⟩ := CaseTables.isGate_iff.1 hisGate
  have hstored := hw.stored gate hmem htype hstat
  rwa [hver] at hstored

theorem StaysCurrent.answered_mono (hP : w.StaysCurrent)
    (hrows : ∀ gate ∈ w.tables.gates, gate.status = .satisfied → gate ∈ t.tables.gates)
    (hconfirms : ∀ id confirm response, t.confirms id = some confirm →
      confirm.stage = .answered response → w.confirms id = some confirm) :
    ∀ id confirm response, t.confirms id = some confirm → confirm.stage = .answered response →
      ∃ gate ∈ t.tables.gates,
        CaseTables.isGate confirm.caseVersion .hgFinancingNeedConfirmed gate = true ∧
          gate.status = .satisfied ∧ gate.dispositionRef = some response.dispositionRef := by
  intro id confirm response hconfirm hstage
  obtain ⟨gate, hmem, hisGate, hstat, href⟩ :=
    hP.answered id confirm response (hconfirms id confirm response hconfirm hstage) hstage
  exact ⟨gate, hrows gate hmem hstat, hisGate, hstat, href⟩

/-- **An append** keeps the promise when the gate of the current case version is open. -/
theorem staysCurrent_appended_iff (hP : w.StaysCurrent) {attempts next : Nat}
    (hnumbered : NumberedRequests (appendedRow append newId next :: w.requests))
    (happend : w.appends id = some append) (hstage : append.stage = .inserting attempts next)
    (hcur : append.caseVersion = w.tables.caseVersion) (hfree : VersionFree w.requests next) :
    ({ w with requests := appendedRow append newId next :: w.requests }.setAppend id append
        stage).StaysCurrent ↔
      w.KeepsCurrent (.advanceAppend id newId) := by
  have hlatest := latestVersion_eq hnumbered
  constructor
  · intro ht other hother
    rw [Option.mem_def, happend, Option.some.injEq] at hother
    subst hother
    rw [hstage]
    rintro - - ⟨gate, hmem, hisGate, hstat⟩
    -- the gate would name the version that was the latest before and the appended one
    obtain ⟨version, hver, href⟩ := hP.latest gate hmem hisGate hstat
    obtain ⟨version', hver', href'⟩ := ht.latest gate hmem hisGate hstat
    obtain rfl : appendedRow append newId next = version' :=
      Option.some.inj (hlatest.symm.trans hver')
    have hsame : version.requestVersion = next :=
      dispositionRef_inj (Option.some.inj (href.symm.trans href'))
    exact hfree version (AppendLog.mem_of_latest _ _ hver).1 hsame
  · intro hkeeps
    have hopen : ¬ w.GateSatisfied w.tables.caseVersion := by
      have hstep := hkeeps append happend
      rw [hstage] at hstep
      exact hstep hcur hfree
    refine ⟨?_, hP.answered⟩
    intro gate hmem hisGate hstat
    exact absurd ⟨gate, hmem, hisGate, hstat⟩ hopen

/-- **A gate write** keeps the promise when it does not satisfy the current gate, or does so for the
latest version. -/
theorem staysCurrent_satisfied_iff (hw : w.Tracked) (hP : w.StaysCurrent)
    (hconfirm : w.confirms id = some confirm) {latest : FinancingRequestVersion}
    (hstage : confirm.stage = .writing latest) :
    ((w.satisfy confirm now).setConfirm id confirm (.auditing latest)).StaysCurrent ↔
      w.KeepsCurrent (.advanceConfirm id now) := by
  have hcase : (w.satisfy confirm now).tables.caseVersion = w.tables.caseVersion :=
    caseVersion_ensureGate _ _ _ _ _ _ _
  constructor
  · intro ht other hother
    rw [Option.mem_def, hconfirm, Option.some.injEq] at hother
    subst hother
    rw [hstage]
    intro hcur hopen
    obtain ⟨gate, hmem, hisGate, hstat, href⟩ := CaseTables.exists_satisfied_ensureGate hopen now
      (some confirm.actorId) (some (dispositionRef confirm.version))
    have hisCurrent : CaseTables.isGate (w.satisfy confirm now).tables.caseVersion
        .hgFinancingNeedConfirmed gate = true := by
      rw [hcase, ← hcur]
      exact hisGate
    obtain ⟨version, hver, href'⟩ := ht.latest gate hmem hisCurrent hstat
    have hsame : version.requestVersion = confirm.version :=
      dispositionRef_inj (Option.some.inj (href'.symm.trans href))
    exact (congrArg (Option.map (·.requestVersion)) hver).trans (congrArg some hsame)
  · intro hkeeps
    refine ⟨?_, ?_⟩
    · intro gate hmem hisCurrent hstat
      have hisCurrent' : CaseTables.isGate w.tables.caseVersion .hgFinancingNeedConfirmed gate = true := by
        rw [← hcase]
        exact hisCurrent
      rcases CaseTables.mem_ensureGate_satisfied hw.keyed hmem hstat with
        hold | ⟨-, hisGate, -, href, hopen⟩
      · exact hP.latest gate hold hisCurrent' hstat
      · -- the row was satisfied now, so the request is of the current case version
        have hcur : confirm.caseVersion = w.tables.caseVersion :=
          (CaseTables.isGate_iff.1 hisGate).1.symm.trans (CaseTables.isGate_iff.1 hisCurrent').1
        have hstep := hkeeps confirm hconfirm
        rw [hstage] at hstep
        obtain ⟨version, hver, hsame⟩ := Option.map_eq_some_iff.1 (hstep hcur hopen)
        exact ⟨version, hver, by rw [href, hsame]⟩
    · refine hP.answered_mono ?_ ?_
      · intro gate hmem hstat
        exact CaseTables.mem_gates_ensureGate_of_satisfied hmem hstat
      · intro other otherConfirm response hother hanswered
        rcases PartialMap.update_some_cases hother with ⟨-, rfl⟩ | ⟨-, hold⟩
        · cases hanswered
        · exact hold

/-- **An answer** keeps the promise when it is about the version its gate was satisfied for. -/
theorem staysCurrent_answered_iff (hw : w.Tracked) (hP : w.StaysCurrent)
    (hconfirm : w.confirms id = some confirm) (hstage : confirm.stage = .answering) :
    (w.setConfirm id confirm (.answered confirm.response)).StaysCurrent ↔
      w.KeepsCurrent (.advanceConfirm id now) := by
  constructor
  · intro ht other hother
    rw [Option.mem_def, hconfirm, Option.some.injEq] at hother
    subst hother
    rw [hstage]
    have hself : (w.setConfirm id confirm (.answered confirm.response)).confirms id =
        some { confirm with stage := .answered confirm.response } := Function.update_self _ _ _
    obtain ⟨_, hmem, hisGate, hstat, href⟩ := ht.answered id _ _ hself rfl
    obtain ⟨version, hver, href'⟩ := hw.stored_ref hmem hisGate hstat
    have hsame : version = confirm.version :=
      dispositionRef_inj (Option.some.inj (href'.symm.trans href))
    exact hver.trans (congrArg some hsame)
  · intro hkeeps
    have hstep := hkeeps confirm hconfirm
    rw [hstage] at hstep
    refine ⟨hP.latest, ?_⟩
    intro other otherConfirm response hother hanswered
    rcases PartialMap.update_some_cases hother with ⟨-, rfl⟩ | ⟨-, hold⟩
    · cases hanswered
      have hsat := (hw.confirms id confirm hconfirm).written (by rw [hstage]; trivial)
      obtain ⟨gate, hmem, hisGate, hstat⟩ := hsat
      obtain ⟨version, hver, href⟩ := hw.stored_ref hmem hisGate hstat
      obtain rfl : version = confirm.version := Option.some.inj (hver.symm.trans hstep)
      exact ⟨gate, hmem, hisGate, hstat, href⟩
    · exact hP.answered other otherConfirm response hold hanswered

/-- **One step.** It keeps the promise exactly when it meets the condition. -/
theorem staysCurrent_step_iff (hw : w.Tracked) (hP : w.StaysCurrent) (h : step w a = some t) :
    t.StaysCurrent ↔ w.KeepsCurrent a := by
  have ht := hw.step h
  cases step_cases hw h with
  | appendMoved _ hkeeps => exact iff_of_true ⟨hP.latest, hP.answered⟩ hkeeps
  | appended ha happend hstage hcur hfree =>
    subst ha
    exact staysCurrent_appended_iff hP ht.numbered happend hstage hcur hfree
  | confirmMoved hconfirms hkeeps =>
    refine iff_of_true ⟨hP.latest, ?_⟩ hkeeps
    intro id confirm response hconfirm hstage
    rcases hconfirms id confirm hconfirm with hold | ⟨-, hopen⟩
    · exact hP.answered id confirm response hold hstage
    · exact absurd hstage (hopen response)
  | satisfied ha hconfirm hstage =>
    subst ha
    exact staysCurrent_satisfied_iff hw hP hconfirm hstage
  | answered ha hconfirm hstage =>
    subst ha
    exact staysCurrent_answered_iff hw hP hconfirm hstage
  | @ticked caseVersion now ha hver =>
    subst ha
    refine iff_of_true ⟨?_, ?_⟩ trivial
    · intro gate hmem hisGate hstat
      rw [caseVersion_ensureGate] at hisGate
      rcases CaseTables.mem_ensureGate_satisfied hw.keyed hmem hstat with hold | ⟨hsatisfies, -⟩
      · exact hP.latest gate hold hisGate hstat
      · cases hsatisfies
    · refine hP.answered_mono ?_ (fun _ _ _ hconfirm _ => hconfirm)
      intro gate hmem hstat
      exact CaseTables.mem_gates_ensureGate_of_satisfied hmem hstat
  | @bumped request handoffId tables ha hbump =>
    subst ha
    obtain ⟨-, -, hgates, -, -⟩ := CaseTables.bumpCaseVersion_frame hbump
    have hnext := (CaseTables.bumpCaseVersion_next hbump).2
    refine iff_of_true ⟨?_, ?_⟩ trivial
    · -- no gate row is of the version the bump opens
      intro gate hmem hisGate hstat
      have hver : gate.caseVersion = tables.caseVersion := (CaseTables.isGate_iff.1 hisGate).1
      have hold : gate ∈ w.tables.gates := hgates ▸ hmem
      have hle := hw.gateVersions gate hold
      rw [hver, hnext] at hle
      exact absurd hle (Nat.not_succ_le_self _)
    · refine hP.answered_mono ?_ (fun _ _ _ hconfirm _ => hconfirm)
      intro gate hmem _
      exact hgates.symm ▸ hmem

/-- **When the confirmation stays current.** All along a run from the first version on, a satisfied gate of
the current case version names the latest version and every answer is what its gate stores, exactly when
every step of the run meets the condition. -/
theorem staysCurrent_iff {as : List FinancingAction} (hinit : w.Initial)
    (hrun : run step w as = some t) :
    AllAlong step StaysCurrent w as ↔ RunMeets step KeepsCurrent w as := by
  have hkeeps : ∀ {w a t}, Tracked w → StaysCurrent w → step w a = some t → StaysCurrent t →
      Tracked t := by
    intro w a t hw _ hstep _
    exact hw.step hstep
  have hiff : ∀ {w a t}, Tracked w → StaysCurrent w → step w a = some t →
      (StaysCurrent t ↔ KeepsCurrent w a) := by
    intro w a t hw hP hstep
    exact staysCurrent_step_iff hw hP hstep
  exact allAlong_iff_runMeets hkeeps hiff hinit.tracked hinit.staysCurrent hrun

/-! ## Runs -/

/-- What the customer asks for. -/
def sampleDraft : FinancingRequestDraft where
  requestedAmount := "500000000"
  purposeVi := "Bổ sung vốn lưu động"
  currency := none
  productVi := none
  termMonths := some 12
  expectedUseDate := none
  repaymentSourceVi := none
  repaymentPlanVi := none
  proposedSecurityVi := none
  customerOwnFunds := none
  connectedTradeProductsVi := none
  workingCapitalCycleVi := none
  keySuppliersCustomersVi := none
  proposedCashFlowControlsVi := none

/-- A case with the version its officer opened it with. -/
def opened : FinancingWorld where
  tables := ⟨1, 1, [], [], [], [], [], [], []⟩
  requests := [⟨11, 1, 1, sampleDraft, 7⟩]
  audit := []
  appends _ := none
  confirms _ := none
  confirmed _ := none

theorem initial_opened : opened.Initial where
  numbered := ⟨rfl, trivial⟩
  noGate := rfl
  noAppend _ := rfl
  noConfirm _ := rfl

/-- A confirm request from its first transaction to its answer. -/
def confirming (confirmId : Uuid) (version : Nat) : List FinancingAction :=
  [.openConfirm confirmId 7 version "Đã xác nhận với khách hàng", .advanceConfirm confirmId 100,
    .advanceConfirm confirmId 101, .advanceConfirm confirmId 102, .advanceConfirm confirmId 103]

/-- An append request from its first transaction to its answer. -/
def appending (appendId newId : Uuid) : List FinancingAction :=
  [.openAppend appendId 7 { sampleDraft with requestedAmount := "700000000" },
    .advanceAppend appendId newId, .advanceAppend appendId newId, .advanceAppend appendId newId]

/-- A second version after the confirmation of the first, and the confirmation of the second. -/
def overtaken : List FinancingAction :=
  confirming 1 1 ++ appending 2 12 ++ confirming 3 2

/-- The confirmation is overtaken: the gate names the first version, the latest one is the second, and
the request that confirms the second answers a reference the gate does not store. -/
theorem confirmation_overtaken : opened.Initial ∧ ∃ w, run step opened overtaken = some w ∧
    w.GateSatisfied w.tables.caseVersion ∧
    (∀ gate ∈ w.tables.gates, gate.dispositionRef = some "financing-request:1") ∧
    (latestVersion w.requests).map (·.requestVersion) = some 2 ∧
    (∃ confirm ∈ w.confirms 3, confirm.stage = .answered
      ⟨"HG_FINANCING_NEED_CONFIRMED", "SATISFIED", 2, "financing-request:2"⟩) ∧
    ¬ w.StaysCurrent := by
  have hruns : (run step opened overtaken).any (fun w =>
      w.GateSatisfied w.tables.caseVersion ∧
      (∀ gate ∈ w.tables.gates, gate.dispositionRef = some "financing-request:1") ∧
      (latestVersion w.requests).map (·.requestVersion) = some 2 ∧
      (∃ confirm ∈ w.confirms 3, confirm.stage = .answered
        ⟨"HG_FINANCING_NEED_CONFIRMED", "SATISFIED", 2, "financing-request:2"⟩)) = true := by
    decide +kernel
  obtain ⟨w, hrun, hw⟩ := (Option.any_eq_true _ _).1 hruns
  obtain ⟨hsat, hrefs, hlatest, hanswered⟩ := of_decide_eq_true hw
  refine ⟨initial_opened, w, hrun, hsat, hrefs, hlatest, hanswered, ?_⟩
  intro hstays
  obtain ⟨confirm, hconfirm, hstage⟩ := hanswered
  obtain ⟨gate, hmem, -, -, href⟩ := hstays.answered 3 confirm _ hconfirm hstage
  rw [hrefs gate hmem, Option.some.injEq] at href
  exact absurd href (by decide)

/-- The second version is appended first, then confirmed twice, and a bump opens the next case version
before a third one is appended. -/
def upToDate : List FinancingAction :=
  appending 1 12 ++ [.tick 1 90] ++ confirming 2 2 ++ confirming 3 2 ++
    [.bumpCaseVersion ⟨1, 40, 8, "Bổ sung hồ sơ"⟩ 41] ++ appending 4 13 ++ confirming 5 3

theorem staysCurrent_upToDate : AllAlong step StaysCurrent opened upToDate := by
  have hruns : (run step opened upToDate).isSome = true := by decide +kernel
  obtain ⟨w, hrun⟩ := Option.isSome_iff_exists.1 hruns
  exact (staysCurrent_iff initial_opened hrun).2 (by decide +kernel)

end FinancingWorld

end CreditOps.Financing
