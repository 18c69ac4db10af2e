import CreditOps.Disbursements.Endpoints
import CreditOps.Orchestration.HumanGates
import CreditOps.CreditOperations.Package

/-!
# Authorizing the proposed actions

Workers draft packages for their tasks and persist them, each task at most one; officers authorize one
action of the latest package at a time, upon which the request reads the authorizations of that package
and satisfies `G4_OPS_AUTHORIZATION` when the derivation says so. Workers and requests interleave.
-/

set_option autoImplicit false

namespace CreditOps.CreditOperations

open Transition PartialMap Orchestration AppendLog
open Disbursements (ActorContext opsOfficerRole)

/-! ## Rows -/

/-- One row of `credit_ops_packages`. -/
structure PackageRow where
  package : CreditOpsPackage
  createdAt : Timestamp

/-- One row of `ops_action_authorizations`. -/
structure ActionAuthorization where
  id : Uuid
  packageId : Uuid
  caseVersion : CaseVersion
  actionId : Uuid
  actorId : Uuid
  actorRole : String
  rationaleVi : String
  createdAt : Timestamp
deriving DecidableEq

/-- The append-only tables, newest first. -/
structure CreditOpsStore where
  packages : List PackageRow
  authorizations : List ActionAuthorization

namespace CreditOpsStore

/-- `load_latest_package`: the newest package of the case, over all versions. -/
def loadLatestPackage (store : CreditOpsStore) : Option CreditOpsPackage :=
  (latest (fun a b => a.createdAt ≤ b.createdAt) (fun _ => true) store.packages).map (·.package)

/-- The actions of a package that `load_action_authorizations` finds authorized. -/
def authorizedActionIds (store : CreditOpsStore) (packageId : Uuid) : List Uuid :=
  (store.authorizations.filter (·.packageId = packageId)).map (·.actionId)

/-- The derivation of the status endpoint and of `_maybe_satisfy_g4` for one package. -/
def g4Status (store : CreditOpsStore) (package : CreditOpsPackage) : GateStatus :=
  deriveG4Status true package.actionIds (store.authorizedActionIds package.id)

/-- `persist_package`: once a task; a redelivery finds the row and writes nothing, and an id that is taken
rolls back. -/
def persistPackage (store : CreditOpsStore) (package : CreditOpsPackage) (now : Timestamp) :
    Option CreditOpsStore :=
  if store.packages.any fun row =>
      row.package.caseVersion = package.caseVersion ∧ row.package.taskId = package.taskId then
    some store
  else if package.id ∈ store.packages.map (·.package.id) then none
  else some { store with packages := ⟨package, now⟩ :: store.packages }

/-- `record_action_authorization`; an action of a package is authorized at most once. -/
def recordActionAuthorization (store : CreditOpsStore) (authorization : ActionAuthorization) :
    Option CreditOpsStore :=
  if store.authorizations.any fun old =>
      old.packageId = authorization.packageId ∧ old.actionId = authorization.actionId then none
  else some { store with authorizations := authorization :: store.authorizations }

end CreditOpsStore

/-! ## Checks -/

/-- `_require_ops_officer` -/
def requireOpsOfficer (actor : ActorContext) : Except ApiException Unit :=
  if opsOfficerRole ∈ actor.roles then .ok ()
  else .error ⟨403, "INSUFFICIENT_ROLE", "Bạn không có vai trò vận hành tín dụng được yêu cầu."⟩

/-- The checks of `authorize_action`, and the package it is about. -/
def checkAuthorize (store : CreditOpsStore) (actor : ActorContext) (actionId : Uuid) :
    Except ApiException CreditOpsPackage := do
  requireOpsOfficer actor
  match store.loadLatestPackage with
  | none =>
    throw ⟨404, "CREDIT_OPS_NOT_AVAILABLE", "Chưa có gói hồ sơ vận hành tín dụng cho hồ sơ này."⟩
  | some package =>
    if actionId ∈ package.actionIds then return package
    else
      throw ⟨404, "ACTION_NOT_FOUND", "Không tìm thấy hành động đề xuất trong gói hồ sơ này."⟩

/-! ## The system -/

/-- How far one authorization request has come. -/
inductive AuthorizationPhase where
  | loaded
  | recorded
  | audited
  | derived
  | closed
deriving DecidableEq

/-- One authorization request: the package it has loaded and what it records. -/
structure AuthorizationRun where
  package : CreditOpsPackage
  actionId : Uuid
  actorId : Uuid
  rationaleVi : String
  phase : AuthorizationPhase

/-- The credit-operations tasks by id with their versions, the memo checkpoints of the workers, the tables,
the gates of the case, the requests in flight, and the audit events. -/
structure System where
  tasks : Uuid → Option CaseVersion
  checkpoints : Uuid → Option CreditOpsPackage
  store : CreditOpsStore
  tables : CaseTables
  runs : Uuid → Option AuthorizationRun
  audit : List (Uuid × Uuid × Uuid)

/-- One step of an interleaving. -/
inductive Request where
  | schedule (taskId : Uuid) (caseVersion : CaseVersion)
  | draft (taskId packageId : Uuid) (view : CreditOpsUpstreamView) (openGaps : List EvidenceGap)
      (dispositions : List ChallengeDispositionSummary) (draw : Nat → Uuid)
  | persist (taskId : Uuid) (now : Timestamp)
  | openAuthorization (authorizationId actionId : Uuid) (actor : ActorContext) (rationaleVi : String)
  | recordAuthorization (authorizationId : Uuid) (now : Timestamp)
  | auditAuthorization (authorizationId : Uuid)
  | readAuthorizations (authorizationId : Uuid)
  | satisfyG4 (authorizationId : Uuid) (now : Timestamp)
  | otherGate (caseVersion : CaseVersion) (gateType : GateType) (actorId : Uuid)
      (dispositionRef : Option String) (now : Timestamp)

namespace System

/-- Move an authorization request to a phase. -/
def setPhase (s : System) (authorizationId : Uuid) (run : AuthorizationRun)
    (phase : AuthorizationPhase) : System :=
  { s with runs := Function.update s.runs authorizationId (some { run with phase }) }

end System

/-- The row a request appends. -/
def AuthorizationRun.row (run : AuthorizationRun) (authorizationId : Uuid) (now : Timestamp) :
    ActionAuthorization where
  id := authorizationId
  packageId := run.package.id
  caseVersion := run.package.caseVersion
  actionId := run.actionId
  actorId := run.actorId
  actorRole := opsOfficerRole
  rationaleVi := run.rationaleVi
  createdAt := now

/-- What a step does; none for a request that is not at that point or is refused. -/
def step (s : System) : Request → Option System
  | .schedule taskId caseVersion =>
    match s.tasks taskId with
    | some _ => none
    | none => some { s with tasks := Function.update s.tasks taskId (some caseVersion) }
  | .draft taskId packageId view openGaps dispositions draw =>
    match s.tasks taskId with
    | none => none
    | some caseVersion =>
      -- a view of another version supersedes the task, an incomplete one fails closed; a task that is
      -- drafted again after its package persists nothing new
      if view.caseVersion = caseVersion ∧ view.isComplete = true then
        (draftPackage view openGaps dispositions taskId packageId draw).map fun package =>
          { s with checkpoints := Function.update s.checkpoints taskId (some package) }
      else none
  | .persist taskId now =>
    match s.checkpoints taskId with
    | none => none
    | some package => (s.store.persistPackage package now).map fun store => { s with store }
  | .openAuthorization authorizationId actionId actor rationaleVi =>
    match s.runs authorizationId, checkAuthorize s.store actor actionId with
    | none, .ok package =>
      some { s with
             runs := Function.update s.runs authorizationId
              (some ⟨package, actionId, actor.actorId, rationaleVi, .loaded⟩) }
    | _, _ => none
  | .recordAuthorization authorizationId now =>
    match s.runs authorizationId with
    | none => none
    | some run =>
      if run.phase = .loaded then
        (s.store.recordActionAuthorization (run.row authorizationId now)).map fun store =>
          { s.setPhase authorizationId run .recorded with store }
      else none
  | .auditAuthorization authorizationId =>
    match s.runs authorizationId with
    | none => none
    | some run =>
      if run.phase = .recorded then
        some { s.setPhase authorizationId run .audited with
               audit := (authorizationId, run.actionId, run.actorId) :: s.audit }
      else none
  | .readAuthorizations authorizationId =>
    match s.runs authorizationId with
    | none => none
    | some run =>
      if run.phase = .audited then
        match s.store.g4Status run.package with
        | .satisfied => some (s.setPhase authorizationId run .derived)
        | .opened => some (s.setPhase authorizationId run .closed)
      else none
  | .satisfyG4 authorizationId now =>
    match s.runs authorizationId with
    | none => none
    | some run =>
      if run.phase = .derived then
        some { s.setPhase authorizationId run .closed with
               tables :=
                s.tables.ensureGate run.package.caseVersion .g4OpsAuthorization .satisfied now
                  (some run.actorId) (some ("credit-ops-package:" ++ uuidText run.package.id)) }
      else none
  | .otherGate caseVersion gateType actorId dispositionRef now =>
    if gateType = .g4OpsAuthorization then none
    else
      some { s with
             tables := s.tables.ensureGate caseVersion gateType .satisfied now (some actorId)
              dispositionRef }

/-- A case before its first credit-operations package, whose operations gate is open at every version. -/
structure Initial (s : System) : Prop where
  noCheckpoint : ∀ id, s.checkpoints id = none
  noPackage : s.store.packages = []
  noAuthorization : s.store.authorizations = []
  noRun : ∀ id, s.runs id = none
  gateOpen : ∀ v, ¬ s.tables.GateSatisfied v .g4OpsAuthorization

/-! ## What a step can do -/

/-- What a step can do, with everything it has checked. -/
inductive Stepped (s : System) : System → Prop where
  | scheduled {tasks : Uuid → Option CaseVersion} : Stepped s { s with tasks }
  | drafted {taskId packageId : Uuid} {view : CreditOpsUpstreamView} {openGaps : List EvidenceGap}
      {dispositions : List ChallengeDispositionSummary} {draw : Nat → Uuid}
      {package : CreditOpsPackage}
      (hpkg : draftPackage view openGaps dispositions taskId packageId draw = some package) :
      Stepped s { s with checkpoints := Function.update s.checkpoints taskId (some package) }
  | persisted {taskId : Uuid} {package : CreditOpsPackage} {now : Timestamp} {store : CreditOpsStore}
      (hpkg : s.checkpoints taskId = some package)
      (hstore : s.store.persistPackage package now = some store) : Stepped s { s with store }
  | opened {authorizationId actionId : Uuid} {actor : ActorContext} {rationaleVi : String}
      {package : CreditOpsPackage} (hfree : s.runs authorizationId = none)
      (hcheck : checkAuthorize s.store actor actionId = .ok package) :
      Stepped s { s with
                  runs := Function.update s.runs authorizationId
                    (some ⟨package, actionId, actor.actorId, rationaleVi, .loaded⟩) }
  | recorded {authorizationId : Uuid} {run : AuthorizationRun} {now : Timestamp}
      {store : CreditOpsStore} (hrun : s.runs authorizationId = some run)
      (hphase : run.phase = .loaded)
      (hstore : s.store.recordActionAuthorization (run.row authorizationId now) = some store) :
      Stepped s { s.setPhase authorizationId run .recorded with store }
  | audited {authorizationId : Uuid} {run : AuthorizationRun}
      {audit : List (Uuid × Uuid × Uuid)} (hrun : s.runs authorizationId = some run) :
      Stepped s { s.setPhase authorizationId run .audited with audit }
  | derived {authorizationId : Uuid} {run : AuthorizationRun}
      (hrun : s.runs authorizationId = some run)
      (hstat : s.store.g4Status run.package = .satisfied) :
      Stepped s (s.setPhase authorizationId run .derived)
  | left {authorizationId : Uuid} {run : AuthorizationRun}
      (hrun : s.runs authorizationId = some run)
      (hstat : s.store.g4Status run.package = .opened) :
      Stepped s (s.setPhase authorizationId run .closed)
  | satisfied {authorizationId : Uuid} {run : AuthorizationRun} {now : Timestamp}
      {actorId : Option Uuid} {dispositionRef : Option String}
      (hrun : s.runs authorizationId = some run) (hphase : run.phase = .derived) :
      Stepped s { s.setPhase authorizationId run .closed with
                  tables := s.tables.ensureGate run.package.caseVersion .g4OpsAuthorization
                    .satisfied now actorId dispositionRef }
  | otherSatisfied {caseVersion : CaseVersion} {gateType : GateType} {now : Timestamp}
      {actorId : Option Uuid} {dispositionRef : Option String}
      (hgate : gateType ≠ .g4OpsAuthorization) :
      Stepped s { s with
                  tables := s.tables.ensureGate caseVersion gateType .satisfied now actorId
                    dispositionRef }

variable {s t : System} {q : Request}

/-- **What a step can do.** -/
theorem step_cases (h : step s q = some t) : Stepped s t := by
  cases q with
  | schedule =>
    simp only [step] at h
    split at h
    · cases h
    cases h
    exact .scheduled
  | draft =>
    simp only [step] at h
    split at h
    · cases h
    split_ifs at h
    obtain ⟨_, hpkg, rfl⟩ := Option.map_eq_some_iff.1 h
    exact .drafted hpkg
  | persist taskId now =>
    simp only [step] at h
    split at h
    · cases h
    rename_i package hpkg
    obtain ⟨_, hstore, rfl⟩ := Option.map_eq_some_iff.1 h
    exact .persisted hpkg hstore
  | openAuthorization authorizationId actionId actor rationaleVi =>
    simp only [step] at h
    split at h
    · rename_i package hfree hcheck
      cases h
      exact .opened hfree hcheck
    · cases h
  | recordAuthorization authorizationId now =>
    simp only [step] at h
    split at h
    · cases h
    rename_i run hrun
    split_ifs at h with hphase
    obtain ⟨_, hstore, rfl⟩ := Option.map_eq_some_iff.1 h
    exact .recorded hrun hphase hstore
  | auditAuthorization authorizationId =>
    simp only [step] at h
    split at h
    · cases h
    rename_i run hrun
    split_ifs at h with hphase
    cases h
    exact .audited hrun
  | readAuthorizations authorizationId =>
    simp only [step] at h
    split at h
    · cases h
    rename_i run hrun
    split_ifs at h with hphase
    split at h
    · rename_i hstat
      cases h
      exact .derived hrun hstat
    · rename_i hstat
      cases h
      exact .left hrun hstat
  | satisfyG4 authorizationId now =>
    simp only [step] at h
    split at h
    · cases h
    rename_i run hrun
    split_ifs at h with hphase
    cases h
    exact .satisfied hrun hphase
  | otherGate =>
    simp only [step] at h
    split_ifs at h with hgate
    cases h
    exact .otherSatisfied hgate

/-! ## What the repository writes -/

section Store

variable {store store' : CreditOpsStore} {package : CreditOpsPackage} {now : Timestamp}

theorem persistPackage_cases (h : store.persistPackage package now = some store') :
    store' = store ∨ package.id ∉ store.packages.map (·.package.id) ∧
      store' = { store with packages := ⟨package, now⟩ :: store.packages } := by
  unfold CreditOpsStore.persistPackage at h
  split_ifs at h with hdone htaken
  · exact Or.inl (Option.some.inj h).symm
  · exact Or.inr ⟨htaken, (Option.some.inj h).symm⟩

theorem recordActionAuthorization_eq_some {authorization : ActionAuthorization}
    (h : store.recordActionAuthorization authorization = some store') :
    store' = { store with authorizations := authorization :: store.authorizations } := by
  unfold CreditOpsStore.recordActionAuthorization at h
  split_ifs at h
  exact (Option.some.inj h).symm

variable {actionId : Uuid}

/-- **What an accepted authorization request has checked.** The package is stored, and the action is one of
its actions. -/
theorem checkAuthorize_ok {actor : ActorContext} (h : checkAuthorize store actor actionId = .ok package) :
    (∃ row ∈ store.packages, row.package = package) ∧ actionId ∈ package.actionIds := by
  simp only [checkAuthorize, requireOpsOfficer, bind, Except.bind] at h
  split at h
  · cases h
  split at h
  · cases h
  rename_i latest hlatest
  split_ifs at h with hknown
  cases h
  obtain ⟨row, hrow, rfl⟩ := Option.map_eq_some_iff.1 hlatest
  exact ⟨⟨row, (mem_of_latest _ _ hrow).1, rfl⟩, hknown⟩

theorem mem_authorizedActionIds {packageId : Uuid} :
    actionId ∈ store.authorizedActionIds packageId ↔
      ∃ authorization ∈ store.authorizations, authorization.packageId = packageId ∧
        authorization.actionId = actionId := by
  simp only [CreditOpsStore.authorizedActionIds, List.mem_map, List.mem_filter, decide_eq_true_eq,
    and_assoc]

theorem g4Status_satisfied_iff :
    store.g4Status package = .satisfied ↔
      ∀ id ∈ package.actionIds, id ∈ store.authorizedActionIds package.id := by
  rw [CreditOpsStore.g4Status, deriveG4Status_satisfied_iff, and_iff_right rfl]

end Store

/-! ## What every reachable state satisfies -/

/-- Every package proposes an action, packages have distinct ids, a request has loaded a stored package and
one of its actions, and an authorization is of an action of a stored package of its version, by an
officer. -/
structure Inv (s : System) : Prop where
  drafted : ∀ taskId package, s.checkpoints taskId = some package → package.actionIds ≠ []
  proposing : ∀ row ∈ s.store.packages, row.package.actionIds ≠ []
  keyed : (s.store.packages.map (·.package.id)).Nodup
  loaded : ∀ id run, s.runs id = some run →
    (∃ row ∈ s.store.packages, row.package = run.package) ∧ run.actionId ∈ run.package.actionIds
  authorized : ∀ authorization ∈ s.store.authorizations, ∃ row ∈ s.store.packages,
    row.package.id = authorization.packageId ∧ row.package.caseVersion = authorization.caseVersion ∧
      authorization.actionId ∈ row.package.actionIds ∧ authorization.actorRole = opsOfficerRole

theorem Initial.inv (h : Initial s) : Inv s where
  drafted taskId package hpkg := by rw [h.noCheckpoint] at hpkg; cases hpkg
  proposing row hmem := by rw [h.noPackage] at hmem; cases hmem
  keyed := by rw [h.noPackage]; exact List.nodup_nil
  loaded id run hrun := by rw [h.noRun] at hrun; cases hrun
  authorized authorization hmem := by rw [h.noAuthorization] at hmem; cases hmem

namespace Inv

variable {taskId authorizationId : Uuid} {package : CreditOpsPackage}

theorem actionIds_ne_nil {view : CreditOpsUpstreamView} {openGaps : List EvidenceGap}
    {dispositions : List ChallengeDispositionSummary} {packageId : Uuid} {draw : Nat → Uuid}
    (h : draftPackage view openGaps dispositions taskId packageId draw = some package) :
    package.actionIds ≠ [] := by
  obtain ⟨_, hmem, -⟩ := handoff_mem_proposedActions h
  exact List.ne_nil_of_mem (List.mem_map_of_mem hmem)

variable {run : AuthorizationRun} {phase : AuthorizationPhase}

theorem loaded_of_set (h : Inv s) (hrun : s.runs authorizationId = some run) :
    ∀ id run', (s.setPhase authorizationId run phase).runs id = some run' →
      (∃ row ∈ s.store.packages, row.package = run'.package) ∧
        run'.actionId ∈ run'.package.actionIds := by
  intro id run' hrun'
  rcases update_some_cases hrun' with ⟨-, rfl⟩ | ⟨-, hold⟩
  · exact h.loaded authorizationId run hrun
  · exact h.loaded id run' hold

theorem setPhase (h : Inv s) (hrun : s.runs authorizationId = some run) :
    Inv (s.setPhase authorizationId run phase) :=
  ⟨h.drafted, h.proposing, h.keyed, h.loaded_of_set hrun, h.authorized⟩

variable {now : Timestamp}

/-- A new package keeps what was known of the old ones. -/
theorem persist (h : Inv s) (hpkg : s.checkpoints taskId = some package)
    (hfree : package.id ∉ s.store.packages.map (·.package.id)) :
    Inv { s with store := { s.store with packages := ⟨package, now⟩ :: s.store.packages } } := by
  refine ⟨h.drafted, ?_, ?_, ?_, ?_⟩
  · intro row hmem
    rcases List.mem_cons.1 hmem with rfl | hold
    · exact h.drafted taskId package hpkg
    · exact h.proposing row hold
  · rw [List.map_cons]
    exact List.nodup_cons.2 ⟨hfree, h.keyed⟩
  · intro id run hrun
    obtain ⟨⟨row, hrow, hsame⟩, haction⟩ := h.loaded id run hrun
    exact ⟨⟨row, List.mem_cons_of_mem _ hrow, hsame⟩, haction⟩
  · intro authorization hmem
    obtain ⟨row, hrow, hrest⟩ := h.authorized authorization hmem
    exact ⟨row, List.mem_cons_of_mem _ hrow, hrest⟩

/-- A new authorization is of an action of the package its request has loaded. -/
theorem record (h : Inv s) (hrun : s.runs authorizationId = some run) :
    Inv { s.setPhase authorizationId run .recorded with
          store :=
            { s.store with
              authorizations := run.row authorizationId now :: s.store.authorizations } } := by
  refine ⟨h.drafted, h.proposing, h.keyed, h.loaded_of_set hrun, ?_⟩
  intro authorization hmem
  rcases List.mem_cons.1 hmem with rfl | hold
  · obtain ⟨⟨row, hrow, hsame⟩, haction⟩ := h.loaded authorizationId run hrun
    refine ⟨row, hrow, ?_⟩
    rw [hsame]
    exact ⟨rfl, rfl, haction, rfl⟩
  · exact h.authorized authorization hold

/-- **Every step keeps the invariant.** -/
theorem step (h : Inv s) (hstep : CreditOperations.step s q = some t) : Inv t := by
  cases step_cases hstep with
  | scheduled | otherSatisfied => exact ⟨h.drafted, h.proposing, h.keyed, h.loaded, h.authorized⟩
  | @drafted taskId packageId view openGaps dispositions draw package hpkg =>
    refine ⟨?_, h.proposing, h.keyed, h.loaded, h.authorized⟩
    intro id other hother
    rcases update_some_cases hother with ⟨-, rfl⟩ | ⟨-, hold⟩
    · exact actionIds_ne_nil hpkg
    · exact h.drafted id other hold
  | persisted hpkg hstore =>
    rcases persistPackage_cases hstore with rfl | ⟨hfree, rfl⟩
    · exact h
    · exact h.persist hpkg hfree
  | opened _ hcheck =>
    refine ⟨h.drafted, h.proposing, h.keyed, ?_, h.authorized⟩
    intro id run hrun
    rcases update_some_cases hrun with ⟨-, rfl⟩ | ⟨-, hold⟩
    · exact checkAuthorize_ok hcheck
    · exact h.loaded id run hold
  | recorded hrun _ hstore =>
    obtain rfl := recordActionAuthorization_eq_some hstore
    exact h.record hrun
  | audited hrun | satisfied hrun =>
    exact ⟨h.drafted, h.proposing, h.keyed, h.loaded_of_set hrun, h.authorized⟩
  | derived hrun | left hrun => exact h.setPhase hrun

end Inv

/-! ## No derivation without an authorization -/

/-- What the derivation of the operations gate is called with: the status endpoint reads the latest package,
an authorization request has loaded its own. -/
inductive DerivesFrom (s : System) : CreditOpsPackage → Prop where
  | status {package : CreditOpsPackage} (hlatest : s.store.loadLatestPackage = some package) :
      DerivesFrom s package
  | authorize {id : Uuid} {run : AuthorizationRun} (hrun : s.runs id = some run) :
      DerivesFrom s run.package

variable {package : CreditOpsPackage}

theorem Inv.stored (h : Inv s) (hfrom : DerivesFrom s package) :
    ∃ row ∈ s.store.packages, row.package = package := by
  cases hfrom with
  | status hlatest =>
    obtain ⟨row, hrow, rfl⟩ := Option.map_eq_some_iff.1 hlatest
    exact ⟨row, (mem_of_latest _ _ hrow).1, rfl⟩
  | authorize hrun => exact (h.loaded _ _ hrun).1

/-- An accepting derivation goes back to an authorization of one of the actions it was about, for the
version of the package. -/
def OperationsGateBacked (s : System) : Prop :=
  ∀ package, DerivesFrom s package → s.store.g4Status package = .satisfied →
    ∃ authorization ∈ s.store.authorizations, authorization.packageId = package.id ∧
      authorization.caseVersion = package.caseVersion ∧
      authorization.actionId ∈ package.actionIds ∧ authorization.actorRole = opsOfficerRole

/-- **The derivation never accepts without an authorization.** -/
theorem Inv.backed (h : Inv s) : OperationsGateBacked s := by
  intro package hfrom hsat
  obtain ⟨row, hrow, rfl⟩ := h.stored hfrom
  obtain ⟨actionId, hactionId⟩ := List.exists_mem_of_ne_nil _ (h.proposing row hrow)
  obtain ⟨authorization, hmem, hpkg, rfl⟩ :=
    mem_authorizedActionIds.1 (g4Status_satisfied_iff.1 hsat actionId hactionId)
  obtain ⟨_, howner, hid, hver, -, hrole⟩ := h.authorized authorization hmem
  obtain rfl := List.inj_on_of_nodup_map h.keyed howner hrow (hid.trans hpkg)
  exact ⟨authorization, hmem, hpkg, hver.symm, hactionId, hrole⟩

/-! ## The gate stays true -/

/-- Packages and authorizations are only added. -/
theorem grows_of_step (hstep : step s q = some t) :
    (∀ row ∈ s.store.packages, row ∈ t.store.packages) ∧
      ∀ authorization ∈ s.store.authorizations, authorization ∈ t.store.authorizations := by
  cases step_cases hstep with
  | persisted _ hstore =>
    rcases persistPackage_cases hstore with rfl | ⟨-, rfl⟩
    · exact ⟨fun _ hmem => hmem, fun _ hmem => hmem⟩
    · exact ⟨fun _ hmem => List.mem_cons_of_mem _ hmem, fun _ hmem => hmem⟩
  | recorded _ _ hstore =>
    obtain rfl := recordActionAuthorization_eq_some hstore
    exact ⟨fun _ hmem => hmem, fun _ hmem => List.mem_cons_of_mem _ hmem⟩
  | scheduled | drafted | opened | audited | derived | left | satisfied | otherSatisfied =>
    exact ⟨fun _ hmem => hmem, fun _ hmem => hmem⟩

theorem authorizedActionIds_grows (hstep : step s q = some t) {packageId actionId : Uuid}
    (h : actionId ∈ s.store.authorizedActionIds packageId) :
    actionId ∈ t.store.authorizedActionIds packageId := by
  obtain ⟨authorization, hmem, hrest⟩ := mem_authorizedActionIds.1 h
  exact mem_authorizedActionIds.2 ⟨authorization, (grows_of_step hstep).2 _ hmem, hrest⟩

theorem g4Status_grows (hstep : step s q = some t) (h : s.store.g4Status package = .satisfied) :
    t.store.g4Status package = .satisfied :=
  g4Status_satisfied_iff.2 fun id hid =>
    authorizedActionIds_grows hstep (g4Status_satisfied_iff.1 h id hid)

end CreditOps.CreditOperations
