import CreditOps.Disbursements.Endpoints

/-!
# Segregation of duties

Who must have acted before the adapter is called for a proposed disbursement, over every interleaving of
calls by any actors with the engine, the other gates and version bumps of the case. The endpoints check
in different transactions and write in later ones, so what a check saw must still hold when it is relied
on. It does, because the rows of the case are only ever added to (`Grows`): a satisfied gate stays the
row it is, a version keeps its one action, and of an action nothing but the status changes.

`Filed` is what the stored rows owe to the endpoints that wrote them: an action stands behind its
conditions gate, and an authorisation behind a validation by another actor. `CallBacked` is what a call
in flight has seen. Both are kept by every step, and `segregation_of_duties` reads them off at the
adapter call.
-/

set_option autoImplicit false

namespace CreditOps.Disbursements

open Transition Orchestration PartialMap Orchestration.CaseTables

namespace CaseSystem

variable {s t : CaseSystem} {callId : Uuid} {call : Call}

/-! ## The rows grow -/

/-- The rows of a later state keep those of an earlier one. -/
structure Grows (s t : CaseSystem) : Prop where
  caseId : t.engine.tables.caseId = s.engine.tables.caseId
  gates : ∀ gate ∈ s.engine.tables.gates, gate.status = .satisfied → gate ∈ t.engine.tables.gates
  proposed : ∀ caseVersion actionId, s.proposed caseVersion = some actionId →
    t.proposed caseVersion = some actionId
  rows : ∀ id row, s.store.actions id = some row →
    ∃ row', t.store.actions id = some row' ∧ row'.caseVersion = row.caseVersion ∧
      row'.createdBy = row.createdBy

theorem Grows.refl (s : CaseSystem) : Grows s s where
  caseId := rfl
  gates _ hmem _ := hmem
  proposed _ _ h := h
  rows _ row h := ⟨row, h, rfl, rfl⟩

theorem Grows.withCalls (h : Grows s t) (calls : Uuid → Option Call) :
    Grows s { t with calls } :=
  ⟨h.caseId, h.gates, h.proposed, h.rows⟩

variable {caseVersion : CaseVersion} {gateType : GateType}

theorem Grows.gateSatisfied (h : Grows s t) (hgate : s.engine.tables.GateSatisfied caseVersion gateType) :
    t.engine.tables.GateSatisfied caseVersion gateType := by
  obtain ⟨gate, hmem, hisGate, hstat⟩ := hgate
  exact ⟨gate, h.gates gate hmem hstat, hisGate, hstat⟩

theorem Grows.ensureGate (s : CaseSystem) (caseVersion : CaseVersion) (gateType : GateType)
    (now : Timestamp) (actorId : Option Uuid) (dispositionRef : Option String) :
    Grows s { s with
              engine := { s.engine with
                tables := s.engine.tables.ensureGate caseVersion gateType .satisfied now actorId
                  dispositionRef } } where
  caseId := by rw [ensureGate_frame]
  gates _ hmem hstat := mem_gates_ensureGate_of_satisfied hmem hstat
  proposed _ _ h := h
  rows _ row h := ⟨row, h, rfl, rfl⟩

variable {store : DisbursementStore} {row action : ProposedDisbursementAction}

theorem row_of_sameRows {store' : DisbursementStore} (h : store.SameRows store') {id : Uuid}
    (hrow : store.actions id = some row) :
    ∃ row', store'.actions id = some row' ∧ row'.id = row.id ∧ row'.caseId = row.caseId ∧
      row'.caseVersion = row.caseVersion ∧ row'.createdBy = row.createdBy := by
  have hid := h id
  rw [hrow, Option.map_some, Option.map_eq_some_iff] at hid
  obtain ⟨row', hrow', hsame⟩ := hid
  simp only [ProposedDisbursementAction.mk.injEq] at hsame
  obtain ⟨hids, hcase, hver, -, -, -, -, -, -, hcreated, -⟩ := hsame
  exact ⟨row', hrow', hids, hcase, hver, hcreated⟩

theorem Grows.withStore (s : CaseSystem) (h : s.store.SameRows store) :
    Grows s { s with store } where
  caseId := rfl
  gates _ hmem _ := hmem
  proposed _ _ h := h
  rows _ _ hrow := by
    obtain ⟨row', hrow', -, -, hver, hcreated⟩ := row_of_sameRows h hrow
    exact ⟨row', hrow', hver, hcreated⟩

variable {amount : Decimal}

/-- What `create_action` commits: nothing at a version that has its action, or the new row under a
fresh id and version. -/
theorem createAction_ok (h : s.createAction action amount = .ok t) :
    t = s ∨
      (s.proposed action.caseVersion = none ∧ s.store.actions action.id = none ∧
        t = { s with
              store := { s.store with
                actions := Function.update s.store.actions action.id (some action) }
              proposed := Function.update s.proposed action.caseVersion (some action.id) }) := by
  unfold createAction at h
  split at h
  · cases h
  split at h
  · cases h
    exact Or.inl rfl
  · rename_i hfree
    split at h
    · cases h
    rename_i hnew
    cases h
    refine Or.inr ⟨hfree, ?_, rfl⟩
    simpa only [Option.isSome_iff_ne_none, ne_eq, not_not] using hnew

/-- A new action grows the rows. -/
theorem Grows.createAction (h : s.createAction action amount = .ok t) : Grows s t := by
  rcases createAction_ok h with rfl | ⟨hfree, hnew, rfl⟩
  · exact Grows.refl _
  · refine ⟨rfl, fun _ hmem _ => hmem, ?_, ?_⟩
    · intro caseVersion actionId hprop
      have hne : caseVersion ≠ action.caseVersion := by
        rintro rfl
        rw [hfree] at hprop
        cases hprop
      exact (Function.update_of_ne hne ..).trans hprop
    · intro id row hrow
      have hne : id ≠ action.id := by
        rintro rfl
        rw [hnew] at hrow
        cases hrow
      exact ⟨row, (Function.update_of_ne hne ..).trans hrow, rfl, rfl⟩

theorem Acted.grows (h : Acted s callId call t) : Grows s t := by
  cases h with
  | crashed | closed | decided | confirmed | loaded | authorizing | executing | returned =>
    exact (Grows.refl s).withCalls _
  | created _ _ _ _ _ _ _ _ _ hcreated =>
    exact (Grows.createAction hcreated).withCalls _
  | validated | authorized => exact (Grows.ensureGate s ..).withCalls _
  | requested _ _ _ _ _ _ hcom =>
    exact (Grows.withStore s (DisbursementStore.requestExecution_sameRows hcom)).withCalls _
  | settled _ hrows => exact (Grows.withStore s hrows).withCalls _

variable {q : CaseRequest}

/-- **Every step grows the rows.** -/
theorem Grows.step (hstep : s.step q = some t) : Grows s t := by
  cases step_cases hstep with
  | opened => exact (Grows.refl s).withCalls _
  | acted _ _ _ _ _ hacted => exact hacted.grows
  | engine _ _ heng =>
    exact ⟨Engine.step_caseId heng, fun _ hmem hstat => Engine.mem_gates_step heng hmem hstat,
      fun _ _ h => h, fun _ row h => ⟨row, h, rfl, rfl⟩⟩
  | otherGate => exact Grows.ensureGate s ..
  | decided | assigned =>
    exact ⟨rfl, fun _ hmem _ => hmem, fun _ _ h => h,
      fun _ row h => ⟨row, h, rfl, rfl⟩⟩
  | bumped _ _ _ hbump =>
    obtain ⟨-, -, hgates, -, -⟩ := bumpCaseVersion_frame hbump
    refine ⟨(bumpCaseVersion_next hbump).1, ?_, fun _ _ h => h, fun _ row h => ⟨row, h, rfl, rfl⟩⟩
    intro gate hmem _
    rw [hgates]
    exact hmem

/-! ## What the stored rows owe -/

/-- The gate of the version was satisfied by the actor, for the reference. -/
def SignedBy (s : CaseSystem) (caseVersion : CaseVersion) (gateType : GateType) (actorId : Uuid)
    (dispositionRef : String) : Prop :=
  ∃ gate ∈ s.engine.tables.gates, isGate caseVersion gateType gate = true ∧
    gate.status = .satisfied ∧ gate.satisfiedByActorId = some actorId ∧
    gate.dispositionRef = some dispositionRef

variable {actorId actionId : Uuid} {dispositionRef : String}

theorem Grows.signedBy (h : Grows s t) (hsigned : s.SignedBy caseVersion gateType actorId dispositionRef) :
    t.SignedBy caseVersion gateType actorId dispositionRef := by
  obtain ⟨gate, hmem, hisGate, hstat, hactor, href⟩ := hsigned
  exact ⟨gate, h.gates gate hmem hstat, hisGate, hstat, hactor, href⟩

/-- What the stored rows owe to the endpoints that wrote them. -/
structure Filed (s : CaseSystem) : Prop where
  backed : s.engine.Backed
  keyed : s.engine.tables.GatesKeyed
  indexed : ∀ id row, s.store.actions id = some row → row.caseId = s.engine.tables.caseId →
    row.id = id ∧ s.proposed row.caseVersion = some id
  conditions : ∀ caseVersion actionId, s.proposed caseVersion = some actionId →
    s.engine.tables.GateSatisfied caseVersion .hgDisbursementConditionsConfirmed
  validated : ∀ gate ∈ s.engine.tables.gates, gate.status = .satisfied →
    gate.gateType = .hgDisbursementValidated → ∃ actionId a,
      s.proposed gate.caseVersion = some actionId ∧ gate.satisfiedByActorId = some a ∧
      gate.dispositionRef = some (validatedRef actionId)
  authorized : ∀ gate ∈ s.engine.tables.gates, gate.status = .satisfied →
    gate.gateType = .hgDisbursementAuthorized → ∃ actionId a b,
      s.proposed gate.caseVersion = some actionId ∧ gate.satisfiedByActorId = some b ∧
      gate.dispositionRef = some (authorizedRef actionId) ∧ a ≠ b ∧
      s.SignedBy gate.caseVersion .hgDisbursementValidated a (validatedRef actionId)

theorem Filed.withCalls (h : Filed s) (calls : Uuid → Option Call) : Filed { s with calls } :=
  ⟨h.backed, h.keyed, h.indexed, h.conditions, h.validated, h.authorized⟩

/-- **A gate write.** A validation names the action of the version, and an authorisation comes after a
validation by another actor. -/
theorem Filed.ensureGate (h : Filed s) {now : Timestamp}
    (hvalidated : gateType = .hgDisbursementValidated → ∃ actionId, s.proposed caseVersion = some actionId ∧ dispositionRef = validatedRef actionId)
    (hauthorized : gateType = .hgDisbursementAuthorized → ∃ actionId a, s.proposed caseVersion = some actionId ∧ dispositionRef = authorizedRef actionId ∧ a ≠ actorId ∧ s.SignedBy caseVersion .hgDisbursementValidated a (validatedRef actionId)) :
    Filed { s with
            engine := { s.engine with
              tables := s.engine.tables.ensureGate caseVersion gateType .satisfied now (some actorId)
                (some dispositionRef) } } := by
  have hgrows := Grows.ensureGate s caseVersion gateType now (some actorId) (some dispositionRef)
  refine ⟨h.backed.ensureGate caseVersion gateType .satisfied now (some actorId)
    (some dispositionRef), h.keyed.ensureGate .., ?_, ?_, ?_, ?_⟩
  · intro id row hrow hcase
    exact h.indexed id row hrow (hcase.trans hgrows.caseId)
  · intro version actionId hprop
    exact hgrows.gateSatisfied (h.conditions version actionId hprop)
  · intro gate hmem hstat htype
    rcases mem_ensureGate_satisfied h.keyed hmem hstat with
      hold | ⟨-, hisGate, hactor, href, -⟩
    · exact h.validated gate hold hstat htype
    · obtain ⟨hver, hgateType⟩ := isGate_iff.1 hisGate
      obtain ⟨actionId, hprop, hname⟩ := hvalidated (hgateType.symm.trans htype)
      exact ⟨actionId, actorId, hver ▸ hprop, hactor, href.trans (congrArg some hname)⟩
  · intro gate hmem hstat htype
    rcases mem_ensureGate_satisfied h.keyed hmem hstat with
      hold | ⟨-, hisGate, hactor, href, -⟩
    · obtain ⟨actionId, a, b, hprop, hactor, href, hne, hsigned⟩ :=
        h.authorized gate hold hstat htype
      exact ⟨actionId, a, b, hprop, hactor, href, hne, hgrows.signedBy hsigned⟩
    · obtain ⟨hver, hgateType⟩ := isGate_iff.1 hisGate
      obtain ⟨actionId, a, hprop, hname, hne, hsigned⟩ :=
        hauthorized (hgateType.symm.trans htype)
      exact ⟨actionId, a, actorId, hver ▸ hprop, hactor, href.trans (congrArg some hname),
        hne, hver ▸ hgrows.signedBy hsigned⟩

/-- **A new action** at a version whose conditions are confirmed. -/
theorem Filed.createAction (h : Filed s)
    (hconds : s.engine.tables.GateSatisfied action.caseVersion .hgDisbursementConditionsConfirmed)
    (hcreated : s.createAction action amount = .ok t) : Filed t := by
  have hgrows := Grows.createAction hcreated
  rcases createAction_ok hcreated with rfl | ⟨_, _, rfl⟩
  · exact h
  · refine ⟨h.backed, h.keyed, ?_, ?_, ?_, ?_⟩
    · intro id row hrow hcase
      rcases update_some_cases hrow with ⟨rfl, rfl⟩ | ⟨-, hold⟩
      · exact ⟨rfl, Function.update_self ..⟩
      · obtain ⟨hid, hprop⟩ := h.indexed id row hold hcase
        exact ⟨hid, hgrows.proposed _ _ hprop⟩
    · intro caseVersion actionId hprop
      rcases update_some_cases hprop with ⟨rfl, -⟩ | ⟨-, hold⟩
      · exact hconds
      · exact h.conditions caseVersion actionId hold
    · intro gate hmem hstat htype
      obtain ⟨actionId, a, hprop, hactor, href⟩ := h.validated gate hmem hstat htype
      exact ⟨actionId, a, hgrows.proposed _ _ hprop, hactor, href⟩
    · intro gate hmem hstat htype
      obtain ⟨actionId, a, b, hprop, hactor, href, hne, hsigned⟩ :=
        h.authorized gate hmem hstat htype
      exact ⟨actionId, a, b, hgrows.proposed _ _ hprop, hactor, href, hne, hsigned⟩

theorem Filed.withStore (h : Filed s) (hrows : s.store.SameRows store) :
    Filed { s with store } := by
  refine ⟨h.backed, h.keyed, ?_, h.conditions, h.validated, h.authorized⟩
  intro id row hrow hcase
  obtain ⟨row', hrow', hid, hcase', hver, -⟩ :=
    row_of_sameRows (fun k => (hrows k).symm) hrow
  obtain ⟨hids, hprop⟩ := h.indexed id row' hrow' (hcase'.trans hcase)
  exact ⟨hid.symm.trans hids, hver ▸ hprop⟩

/-- A step of the engine. -/
theorem Filed.withEngine (h : Filed s) {request : EngineRequest} {engine : Engine}
    (hstep : s.engine.step request = some engine) : Filed { s with engine } := by
  have hgrows : Grows s { s with engine } :=
    ⟨Engine.step_caseId hstep, fun _ hmem hstat => Engine.mem_gates_step hstep hmem hstat,
      fun _ _ h => h, fun _ row h => ⟨row, h, rfl, rfl⟩⟩
  refine ⟨h.backed.step hstep, Engine.gatesKeyed_step h.keyed hstep, ?_, ?_, ?_, ?_⟩
  · intro id row hrow hcase
    exact h.indexed id row hrow (hcase.trans hgrows.caseId)
  · intro caseVersion actionId hprop
    exact hgrows.gateSatisfied (h.conditions caseVersion actionId hprop)
  · intro gate hmem hstat htype
    have hold := h.backed.mem_gates_of_step h.keyed hstep hmem hstat (by rw [htype]; decide)
    exact h.validated gate hold hstat htype
  · intro gate hmem hstat htype
    have hold := h.backed.mem_gates_of_step h.keyed hstep hmem hstat (by rw [htype]; decide)
    obtain ⟨actionId, a, b, hprop, hactor, href, hne, hsigned⟩ :=
      h.authorized gate hold hstat htype
    exact ⟨actionId, a, b, hprop, hactor, href, hne, hgrows.signedBy hsigned⟩

variable {tables : CaseTables}

/-- A version bump. -/
theorem Filed.bump (h : Filed s) {revision : RevisionRequest} {handoffId : Uuid}
    (hbump : s.engine.tables.bumpCaseVersion revision handoffId = .ok tables) :
    Filed { s with engine := { s.engine with tables } } := by
  obtain ⟨-, -, hgates, -, -⟩ := bumpCaseVersion_frame hbump
  obtain ⟨hcaseId, -⟩ := bumpCaseVersion_next hbump
  have hkeep : ∀ v g, s.engine.tables.GateSatisfied v g → tables.GateSatisfied v g := by
    intro v g hsat
    unfold GateSatisfied
    rw [hgates]
    exact hsat
  refine ⟨h.backed.withTables hkeep, ?_, ?_, ?_, ?_, ?_⟩
  · unfold GatesKeyed
    rw [hgates]
    exact h.keyed
  · intro id row hrow hcase
    exact h.indexed id row hrow (hcase.trans hcaseId)
  · intro caseVersion actionId hprop
    exact hkeep _ _ (h.conditions caseVersion actionId hprop)
  · intro gate hmem
    rw [hgates] at hmem
    exact h.validated gate hmem
  · intro gate hmem hstat htype
    rw [hgates] at hmem
    obtain ⟨actionId, a, b, hprop, hactor, href, hne, hsigned⟩ :=
      h.authorized gate hmem hstat htype
    refine ⟨actionId, a, b, hprop, hactor, href, hne, ?_⟩
    unfold SignedBy
    rw [hgates]
    exact hsigned

/-! ## What a call has seen -/

/-- The call works on the action of its version, which it has read. -/
def Call.Reads (s : CaseSystem) (call : Call) (row : ProposedDisbursementAction) : Prop :=
  ∃ actionId, call.endpoint.actionId = some actionId ∧ s.proposed call.caseVersion = some actionId ∧
    ∃ current, s.store.actions actionId = some current ∧ current.caseVersion = call.caseVersion ∧
      current.createdBy = row.createdBy

/-- The gates allow the call. -/
def Call.Cleared (s : CaseSystem) (call : Call) (row : ProposedDisbursementAction) : Prop :=
  match call.endpoint with
  | .authorize _ => ∃ gate ∈ s.engine.tables.gates,
      isGate call.caseVersion .hgDisbursementValidated gate = true ∧ gate.status = .satisfied ∧
        gate.satisfiedByActorId ≠ some call.actor.actorId
  | .execute _ => s.engine.tables.GateSatisfied call.caseVersion .hgDisbursementValidated ∧
      s.engine.tables.GateSatisfied call.caseVersion .hgDisbursementAuthorized ∧
      row.createdBy ≠ call.actor.actorId
  | .create _ | .validate _ | .reconcile _ _ _ => True

/-- What a call at its stage has seen, and still holds. -/
def CallBacked (s : CaseSystem) (call : Call) : Prop :=
  match call.stage with
  | .confirmed _ =>
    s.engine.tables.GateSatisfied call.caseVersion .hgDisbursementConditionsConfirmed
  | .loaded row => Call.Reads s call row
  | .cleared row | .requested row _ => Call.Reads s call row ∧ Call.Cleared s call row
  | .opened | .decided _ | .returned _ _ | .answered | .refused _ | .failed => True

theorem Grows.reads (h : Grows s t) (hreads : Call.Reads s call row) : Call.Reads t call row := by
  obtain ⟨actionId, hendpoint, hprop, current, hcur, hver, hcreated⟩ := hreads
  obtain ⟨row', hrow', hver', hcreated'⟩ := h.rows actionId current hcur
  exact ⟨actionId, hendpoint, h.proposed _ _ hprop, row', hrow', hver'.trans hver,
    hcreated'.trans hcreated⟩

theorem Grows.cleared (h : Grows s t) (hcleared : Call.Cleared s call row) :
    Call.Cleared t call row := by
  unfold Call.Cleared at hcleared ⊢
  cases hendpoint : call.endpoint with
  | authorize =>
    rw [hendpoint] at hcleared
    obtain ⟨gate, hmem, hisGate, hstat, hne⟩ := hcleared
    exact ⟨gate, h.gates gate hmem hstat, hisGate, hstat, hne⟩
  | execute =>
    rw [hendpoint] at hcleared
    obtain ⟨hvalidated, hauthorized, hne⟩ := hcleared
    exact ⟨h.gateSatisfied hvalidated, h.gateSatisfied hauthorized, hne⟩
  | create | validate | reconcile => trivial

/-- **What a call has seen stays true.** -/
theorem Grows.callBacked (h : Grows s t) (hcall : CallBacked s call) : CallBacked t call := by
  unfold CallBacked at hcall ⊢
  cases hstage : call.stage with
  | confirmed =>
    rw [hstage] at hcall
    exact h.gateSatisfied hcall
  | loaded =>
    rw [hstage] at hcall
    exact h.reads hcall
  | cleared | requested =>
    rw [hstage] at hcall
    exact ⟨h.reads hcall.1, h.cleared hcall.2⟩
  | opened | decided | returned | answered | refused | failed => trivial

theorem callBacked_of_isClosed (h : call.stage.isClosed = true) : CallBacked s call := by
  unfold CallBacked
  cases hstage : call.stage with
  | answered | refused | failed => trivial
  | opened | decided | confirmed | loaded | cleared | requested | returned =>
    rw [hstage] at h
    cases h

variable {gate : GateRecord}

theorem mem_of_gateFor (h : gateFor tables.loadSnapshot gateType caseVersion = some gate) :
    gate ∈ tables.gates ∧ isGate caseVersion gateType gate = true ∧ gate.status = .satisfied := by
  unfold gateFor at h
  have hmatch := List.find?_some h
  simp only [decide_eq_true_eq] at hmatch
  obtain ⟨htype, hver, hstat⟩ := hmatch
  exact ⟨(List.mem_filter.1 (List.mem_of_find?_eq_some h)).1, isGate_iff.2 ⟨hver, htype⟩, hstat⟩

theorem requireConditions_ok (h : requireConditions tables.loadSnapshot caseVersion = .ok gate) :
    tables.GateSatisfied caseVersion .hgDisbursementConditionsConfirmed := by
  unfold requireConditions at h
  split at h
  · rename_i found hfound
    exact ⟨found, mem_of_gateFor hfound⟩
  · cases h

/-- The authorising checker has seen a validation by someone else. -/
theorem checkAuthorize_ok (h : checkAuthorize tables.loadSnapshot caseVersion actorId = .ok gate) :
    gate ∈ tables.gates ∧ isGate caseVersion .hgDisbursementValidated gate = true ∧
      gate.status = .satisfied ∧ gate.satisfiedByActorId ≠ some actorId := by
  unfold checkAuthorize at h
  split at h
  · cases h
  rename_i found hfound
  split at h
  · cases h
  rename_i hother
  cases h
  obtain ⟨hmem, hisGate, hstat⟩ := mem_of_gateFor hfound
  exact ⟨hmem, hisGate, hstat, hother⟩

/-- The executor has seen both gates, and is not the maker of the action. -/
theorem checkExecute_ok {gates : GateRecord × GateRecord}
    (h : checkExecute tables.loadSnapshot row caseVersion actorId = .ok gates) :
    tables.GateSatisfied caseVersion .hgDisbursementValidated ∧
      tables.GateSatisfied caseVersion .hgDisbursementAuthorized ∧ row.createdBy ≠ actorId := by
  unfold checkExecute at h
  split at h
  · rename_i validated authorized hvalidated hauthorized
    split at h
    · cases h
    rename_i hother
    exact ⟨⟨validated, mem_of_gateFor hvalidated⟩, ⟨authorized, mem_of_gateFor hauthorized⟩, hother⟩
  · cases h

/-! ## Every interleaving -/

/-- What every interleaving keeps. -/
structure Segregated (s : CaseSystem) : Prop where
  filed : Filed s
  calls : ∀ callId call, s.calls callId = some call → CallBacked s call

theorem Segregated.goTo (h : Segregated s) (hgrows : Grows s t) (hfiled : Filed t)
    (hcalls : t.calls = s.calls) {stage : CallStage} (hstage : CallBacked t { call with stage }) :
    Segregated (t.goTo callId call stage) := by
  refine ⟨hfiled.withCalls _, ?_⟩
  intro id other hother
  rcases update_some_cases hother with ⟨-, rfl⟩ | ⟨-, hold⟩
  · exact hstage
  · rw [hcalls] at hold
    exact hgrows.callBacked (h.calls id other hold)

theorem Call.Reads.proposed (h : Call.Reads s call row)
    (hendpoint : call.endpoint.actionId = some actionId) :
    s.proposed call.caseVersion = some actionId := by
  obtain ⟨_, hother, hprop, -⟩ := h
  rw [hendpoint, Option.some.injEq] at hother
  subst hother
  exact hprop

/-- **A call's transaction keeps the segregation.** -/
theorem Segregated.acted (h : Segregated s) (hcall : s.calls callId = some call)
    (hacted : Acted s callId call t) : Segregated t := by
  have hbacked := h.calls callId call hcall
  cases hacted with
  | crashed =>
    refine ⟨h.filed.withCalls _, ?_⟩
    intro id other hother
    by_cases hid : id = callId
    · subst hid
      simp only [Function.update_self, reduceCtorEq] at hother
    · simp only [Function.update_of_ne hid] at hother
      exact h.calls id other hother
  | closed _ hclosed => exact h.goTo (Grows.refl s) h.filed rfl (callBacked_of_isClosed hclosed)
  | decided | returned => exact h.goTo (Grows.refl s) h.filed rfl trivial
  | confirmed _ _ hgate =>
    exact h.goTo (Grows.refl s) h.filed rfl (requireConditions_ok hgate)
  | created _ _ _ _ _ _ created hstage _ hcreated =>
    -- the conditions gate was read as satisfied in the transaction before
    rw [CallBacked, hstage] at hbacked
    have hcalls : created.calls = s.calls := by
      rcases createAction_ok hcreated with rfl | ⟨-, -, rfl⟩ <;> rfl
    exact h.goTo (Grows.createAction hcreated) (h.filed.createAction hbacked hcreated) hcalls trivial
  | loaded actionId row hendpoint hrow =>
    obtain ⟨hstored, hcase, hver⟩ := DisbursementStore.selectForUpdate_ok hrow
    obtain ⟨-, hprop⟩ := h.filed.indexed actionId row hstored hcase
    rw [hver] at hprop
    refine h.goTo (Grows.refl s) h.filed rfl ?_
    exact ⟨actionId, hendpoint, hprop, row, hstored, hver, rfl⟩
  | authorizing _ _ gate hendpoint hstage hcheck =>
    rw [CallBacked, hstage] at hbacked
    refine h.goTo (Grows.refl s) h.filed rfl ⟨hbacked, ?_⟩
    rw [Call.Cleared, hendpoint]
    exact ⟨gate, checkAuthorize_ok hcheck⟩
  | executing _ _ _ hendpoint hstage hcheck =>
    rw [CallBacked, hstage] at hbacked
    refine h.goTo (Grows.refl s) h.filed rfl ⟨hbacked, ?_⟩
    rw [Call.Cleared, hendpoint]
    exact checkExecute_ok hcheck
  | validated actionId _ _ hendpoint hstage =>
    rw [CallBacked, hstage] at hbacked
    have hprop := hbacked.proposed (by rw [hendpoint]; rfl)
    refine h.goTo (Grows.ensureGate s ..) (h.filed.ensureGate ?_ ?_) rfl trivial
    · intro _
      exact ⟨actionId, hprop, rfl⟩
    · intro htype
      cases htype
  | authorized actionId _ _ hendpoint hstage =>
    rw [CallBacked, hstage] at hbacked
    obtain ⟨hreads, hcleared⟩ := hbacked
    have hprop := hreads.proposed (by rw [hendpoint]; rfl)
    rw [Call.Cleared, hendpoint] at hcleared
    obtain ⟨gate, hmem, hisGate, hstat, hother⟩ := hcleared
    refine h.goTo (Grows.ensureGate s ..) (h.filed.ensureGate ?_ ?_) rfl trivial
    · intro htype
      cases htype
    · -- the validation that was read names the same action, and stays by someone else
      intro _
      obtain ⟨hver, htype⟩ := isGate_iff.1 hisGate
      obtain ⟨_, a, hnamed, ha, href⟩ := h.filed.validated gate hmem hstat htype
      rw [hver, hprop, Option.some.injEq] at hnamed
      subst hnamed
      refine ⟨actionId, a, hprop, rfl, ?_, gate, hmem, hisGate, hstat, ha, href⟩
      rintro rfl
      exact hother ha
  | requested _ _ _ _ _ hstage hcom =>
    have hrows := DisbursementStore.requestExecution_sameRows hcom
    rw [CallBacked, hstage] at hbacked
    obtain ⟨hreads, hcleared⟩ := hbacked
    have hgrows := Grows.withStore s hrows
    exact h.goTo hgrows (h.filed.withStore hrows) rfl ⟨hgrows.reads hreads, hgrows.cleared hcleared⟩
  | settled _ hrows =>
    exact h.goTo (Grows.withStore s hrows) (h.filed.withStore hrows) rfl trivial

/-- **Every step keeps the segregation.** -/
theorem Segregated.step (h : Segregated s) (hstep : s.step q = some t) :
    Segregated t := by
  have hgrows := Grows.step hstep
  cases step_cases hstep with
  | opened _ _ _ _ hstage =>
    refine ⟨h.filed.withCalls _, ?_⟩
    intro id other hother
    rcases update_some_cases hother with ⟨-, rfl⟩ | ⟨-, hold⟩
    · rcases hstage with hopened | hclosed
      · rw [CallBacked, hopened]
        trivial
      · exact callBacked_of_isClosed hclosed
    · exact hgrows.callBacked (h.calls id other hold)
  | acted _ _ _ _ hcall hacted => exact h.acted hcall hacted
  | engine _ _ heng =>
    exact ⟨h.filed.withEngine heng, fun id call hcall => hgrows.callBacked (h.calls id call hcall)⟩
  | otherGate _ _ _ _ _ hother =>
    refine ⟨h.filed.ensureGate ?_ ?_, fun id call hcall => hgrows.callBacked (h.calls id call hcall)⟩
    all_goals
      rintro rfl
      exact absurd (by decide) hother
  | decided | assigned =>
    exact ⟨⟨h.filed.backed, h.filed.keyed, h.filed.indexed, h.filed.conditions, h.filed.validated,
      h.filed.authorized⟩, fun id call hcall => hgrows.callBacked (h.calls id call hcall)⟩
  | bumped _ _ _ hbump =>
    exact ⟨h.filed.bump hbump, fun id call hcall => hgrows.callBacked (h.calls id call hcall)⟩

/-! ## The duties at the adapter call -/

/-- A case before its first proposed disbursement: no action, no disbursement gate satisfied, no call
and no execution in flight. -/
structure Undisbursed (s : CaseSystem) : Prop where
  noAdvance : ∀ executionId, s.engine.advances executionId = none
  keyed : s.engine.tables.GatesKeyed
  noAction : ∀ id row, s.store.actions id = some row → row.caseId ≠ s.engine.tables.caseId
  noProposed : ∀ caseVersion, s.proposed caseVersion = none
  noGate : ∀ gate ∈ s.engine.tables.gates, gate.status = .satisfied →
    gate.gateType ∉ disbursementGates
  noCall : ∀ callId, s.calls callId = none

theorem Undisbursed.segregated (h : Undisbursed s) : Segregated s := by
  refine ⟨⟨?_, h.keyed, ?_, ?_, ?_, ?_⟩, ?_⟩
  · intro executionId run hrun
    rw [h.noAdvance] at hrun
    cases hrun
  · intro id row hrow hcase
    exact absurd hcase (h.noAction id row hrow)
  · intro caseVersion actionId hprop
    rw [h.noProposed] at hprop
    cases hprop
  · intro gate hmem hstat htype
    exact absurd (by rw [htype]; decide) (h.noGate gate hmem hstat)
  · intro gate hmem hstat htype
    exact absurd (by rw [htype]; decide) (h.noGate gate hmem hstat)
  · intro callId call hcall
    rw [h.noCall] at hcall
    cases hcall

/-- The duties behind an execution: the conditions were confirmed, one actor validated the action and
another authorised it, and the executor did not make it. -/
structure Duties (s : CaseSystem) (caseVersion : CaseVersion) (actionId executor : Uuid) : Prop where
  conditions : s.engine.tables.GateSatisfied caseVersion .hgDisbursementConditionsConfirmed
  checked : ∃ a b, s.SignedBy caseVersion .hgDisbursementValidated a (validatedRef actionId) ∧
    s.SignedBy caseVersion .hgDisbursementAuthorized b (authorizedRef actionId) ∧ b ≠ a
  notMaker : ∃ row, s.store.actions actionId = some row ∧ row.caseVersion = caseVersion ∧
    row.createdBy ≠ executor

/-- **What a call that may execute relies on.** -/
theorem Segregated.duties (h : Segregated s) (hcall : s.calls callId = some call) {key : IdempotencyKey}
    (hendpoint : call.endpoint = .execute actionId) (hstage : call.stage = .requested row key) :
    Duties s call.caseVersion actionId call.actor.actorId := by
  have hbacked := h.calls callId call hcall
  rw [CallBacked, hstage] at hbacked
  obtain ⟨hreads, hcleared⟩ := hbacked
  have hprop := hreads.proposed (by rw [hendpoint]; rfl)
  rw [Call.Cleared, hendpoint] at hcleared
  obtain ⟨-, ⟨gate, hmem, hisGate, hstat⟩, hmaker⟩ := hcleared
  obtain ⟨hver, htype⟩ := isGate_iff.1 hisGate
  refine ⟨h.filed.conditions _ _ hprop, ?_, ?_⟩
  · obtain ⟨_, a, b, hnamed, hb, href, hne, hsigned⟩ :=
      h.filed.authorized gate hmem hstat htype
    rw [hver, hprop, Option.some.injEq] at hnamed
    subst hnamed
    exact ⟨a, b, hver ▸ hsigned, ⟨gate, hmem, hisGate, hstat, hb, href⟩, hne.symm⟩
  · obtain ⟨_, hother, -, current, hcur, hcurrentVersion, hcreated⟩ := hreads
    rw [hendpoint] at hother
    cases hother
    exact ⟨current, hcur, hcurrentVersion, hcreated ▸ hmaker⟩

theorem callAdapter_cases {simulateUnknown : Bool} {receiptId : Uuid}
    (hstep : s.step (.call callId (.callAdapter simulateUnknown receiptId)) = some t) :
    ∃ call actionId row key, s.calls callId = some call ∧ call.endpoint = .execute actionId ∧
      call.stage = .requested row key := by
  obtain ⟨call, hcall, hact⟩ := Option.bind_eq_some_iff.1 hstep
  unfold act at hact
  split at hact <;> try contradiction
  rename_i hendpoint hstage
  exact ⟨call, _, _, _, hcall, hendpoint, hstage⟩

/-- **Segregation of duties.** Whatever calls any actors make, and however their transactions interleave
with each other and with the rest of the case, an adapter call is made for an action only where the
conditions of its version were confirmed, one actor validated it and another authorised it, and by
someone who did not create it. -/
theorem segregation_of_duties {requests : List CaseRequest} {u : CaseSystem} (hs : Undisbursed s)
    (hrun : run step s requests = some t) {simulateUnknown : Bool} {receiptId : Uuid}
    (hcall : t.step (.call callId (.callAdapter simulateUnknown receiptId)) = some u) :
    ∃ call actionId, t.calls callId = some call ∧ call.endpoint = .execute actionId ∧
      Duties t call.caseVersion actionId call.actor.actorId := by
  have hsegregated : Segregated t := run_invariant (fun h hstep => h.step hstep) hs.segregated hrun
  obtain ⟨call, actionId, _, _, hcalls, hendpoint, hstage⟩ := callAdapter_cases hcall
  exact ⟨call, actionId, hcalls, hendpoint, hsegregated.duties hcalls hendpoint hstage⟩

/-- A case with an approval and four assigned officers, before its first disbursement. -/
def approvedCase : CaseSystem where
  engine := Engine.handedOff 9 10 11
  decisions := Function.update (fun _ => none) 1
    (some { decisionId := 12
            decisionType := .approvedAsProposed
            rationaleVi := ""
            conditions := []
            terms := ⟨some 500, some "VND", none, none⟩
            snapshotHash := "" })
  assigned := [21, 22, 23, 24]
  store := ⟨fun _ => none, [], []⟩
  proposed := fun _ => none
  calls := fun _ => none

/-- One officer creates an action, two checkers validate and authorise it, and the first of them opens
its execution. -/
def createToExecute : List CaseRequest :=
  let checker (actorId : Uuid) : ActorContext := ⟨actorId, [opsCheckerRole]⟩
  [.otherGate 1 .hgDisbursementConditionsConfirmed 24 "conditions" 0,
    .openCall 1 ⟨21, [opsOfficerRole]⟩ (.create ⟨none, none, "", ""⟩), .call 1 .loadDecision,
    .call 1 .checkConditions, .call 1 (.createAction 100 0),
    .openCall 2 (checker 22) (.validate 100), .call 2 .loadAction, .call 2 (.satisfyGate 1),
    .openCall 3 (checker 23) (.authorize 100), .call 3 .loadAction, .call 3 .checkGates,
    .call 3 (.satisfyGate 2),
    .openCall 4 (checker 22) (.execute 100), .call 4 .loadAction, .call 4 .checkGates,
    .call 4 (.requestExecution 200)]

theorem approvedCase_undisbursed : Undisbursed approvedCase where
  noAdvance _ := rfl
  keyed := List.nodup_nil
  noAction _ _ h := by cases h
  noProposed _ := rfl
  noGate _ h := by cases h
  noCall _ := rfl

theorem createToExecute_duties :
    ∃ t u, run step approvedCase createToExecute = some t ∧
      t.step (.call 4 (.callAdapter false 300)) = some u ∧
      ∃ call actionId, t.calls 4 = some call ∧ call.endpoint = .execute actionId ∧
        Duties t call.caseVersion actionId call.actor.actorId := by
  refine ⟨_, _, rfl, rfl, ?_⟩
  exact segregation_of_duties approvedCase_undisbursed
    (rfl : run step approvedCase createToExecute = some _)
    (rfl : CaseSystem.step _ (.call 4 (.callAdapter false 300)) = some _)

end CaseSystem

end CreditOps.Disbursements
