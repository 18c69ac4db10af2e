import CreditOps.Library.Transition
import CreditOps.Orchestration.Revision

/-!
# Human gates over the life of a case

Every writer of the gates of a case, in any order: gate writes by the endpoints of the workflows for any
version and gate, the transactions of the engine, and version bumps. The trigger on the table lets the
gate writes pass and protects a satisfied row from everything else (`protect_of_satisfied`).
-/

set_option autoImplicit false

namespace CreditOps.Orchestration

open Transition

/-! ## Who satisfied a gate -/

namespace CaseTables

variable {tables : CaseTables} {caseVersion : CaseVersion} {gateType : GateType}

/-- The gate of a version is satisfied by an actor. -/
def SatisfiedBy (tables : CaseTables) (caseVersion : CaseVersion) (gateType : GateType)
    (actorId : Uuid) : Prop :=
  ∃ gate ∈ tables.gates, isGate caseVersion gateType gate = true ∧ gate.status = .satisfied ∧
    gate.satisfiedByActorId = some actorId

instance (tables : CaseTables) (caseVersion : CaseVersion) (gateType : GateType) (actorId : Uuid) :
    Decidable (tables.SatisfiedBy caseVersion gateType actorId) :=
  inferInstanceAs (Decidable (∃ gate ∈ tables.gates, _))

theorem SatisfiedBy.gateSatisfied {actorId : Uuid}
    (h : tables.SatisfiedBy caseVersion gateType actorId) :
    tables.GateSatisfied caseVersion gateType := by
  obtain ⟨gate, hmem, hisGate, hstat, -⟩ := h
  exact ⟨gate, hmem, hisGate, hstat⟩

theorem gateSatisfied_ensureGate_self (tables : CaseTables) (caseVersion : CaseVersion)
    (gateType : GateType) (now : Timestamp) (actorId : Option Uuid) (dispositionRef : Option String) :
    (tables.ensureGate caseVersion gateType .satisfied now actorId dispositionRef).GateSatisfied
      caseVersion gateType := by
  by_cases hopen : tables.GateSatisfied caseVersion gateType
  · exact gateSatisfied_ensureGate_of hopen
  · obtain ⟨gate, hmem, hisGate, hstat, -⟩ :=
      exists_satisfied_ensureGate hopen now actorId dispositionRef
    exact ⟨gate, hmem, hisGate, hstat⟩

/-- **The first confirmation stands.** After a gate write the gate is satisfied by whoever had satisfied
it, or by the writer when nobody had. -/
theorem satisfiedBy_ensureGate_iff (hkeyed : tables.GatesKeyed) {now : Timestamp}
    {writer actorId : Uuid} {dispositionRef : Option String} :
    (tables.ensureGate caseVersion gateType .satisfied now (some writer) dispositionRef).SatisfiedBy
        caseVersion gateType actorId ↔
      tables.SatisfiedBy caseVersion gateType actorId ∨
        (¬ tables.GateSatisfied caseVersion gateType ∧ actorId = writer) := by
  constructor
  · rintro ⟨gate, hmem, hisGate, hstat, hactor⟩
    rcases mem_ensureGate_satisfied hkeyed hmem hstat with hold | ⟨-, -, hwriter, -, hopen⟩
    · exact Or.inl ⟨gate, hold, hisGate, hstat, hactor⟩
    · rw [hwriter, Option.some.injEq] at hactor
      exact Or.inr ⟨hopen, hactor.symm⟩
  · rintro (⟨gate, hmem, hisGate, hstat, hactor⟩ | ⟨hopen, rfl⟩)
    · exact ⟨gate, mem_gates_ensureGate_of_satisfied hmem hstat, hisGate, hstat, hactor⟩
    · obtain ⟨gate, hmem, hisGate, hstat, -⟩ :=
        exists_satisfied_ensureGate hopen now (some actorId) dispositionRef
      rcases mem_ensureGate_satisfied hkeyed hmem hstat with hold | ⟨-, -, hwriter, -, -⟩
      · exact absurd ⟨gate, hold, hisGate, hstat⟩ hopen
      · exact ⟨gate, hmem, hisGate, hstat, hwriter⟩

end CaseTables

/-! ## The trigger -/

/-- `protect_human_gate_transitions` on an update; rows are within one case. -/
def protectHumanGateTransitions (old new : GateRecord) : Except SqlError GateRecord :=
  if old.status = .satisfied then
    .error (.insufficientPrivilege "a satisfied human gate is immutable")
  else if new.status = .opened ∧ new ≠ old then
    .error (.insufficientPrivilege "an open human gate may only transition to SATISFIED")
  else if new.caseVersion ≠ old.caseVersion ∨ new.gateType ≠ old.gateType then
    .error (.insufficientPrivilege "human gate identity is immutable")
  else .ok new

/-! ## The writers -/

/-- One write to the gates of a case, or to what they are derived from. -/
inductive GateRequest where
  | ensureGate (caseVersion : CaseVersion) (gateType : GateType) (status : GateStatus)
      (now : Timestamp) (actorId : Option Uuid) (dispositionRef : Option String)
  | engine (request : EngineRequest)
  | bumpCaseVersion (request : RevisionRequest) (handoffId : Uuid)
deriving DecidableEq

/-- The request is a gate write of an endpoint that satisfies the row. -/
def GateRequest.Satisfies (gate : GateRecord) : GateRequest → Prop
  | .ensureGate caseVersion gateType status _ actorId dispositionRef =>
    status = .satisfied ∧ caseVersion = gate.caseVersion ∧ gateType = gate.gateType ∧
      actorId = gate.satisfiedByActorId ∧ dispositionRef = gate.dispositionRef
  | .engine _ | .bumpCaseVersion _ _ => False

/-- The step function of the gates of a case. -/
def gateStep (e : Engine) : GateRequest → Option Engine
  | .ensureGate caseVersion gateType status now actorId dispositionRef =>
    some { e with
           tables := e.tables.ensureGate caseVersion gateType status now actorId dispositionRef }
  | .engine request => Engine.step e request
  | .bumpCaseVersion request handoffId =>
    (e.tables.bumpCaseVersion request handoffId).toOption.map fun tables => { e with tables }

/-- A case without gate rows and without executions in flight. -/
structure GatesInitial (e : Engine) : Prop where
  noGate : e.tables.gates = []
  noAdvance : ∀ id, e.advances id = none

/-- What every reachable state satisfies. -/
structure GatesInv (e : Engine) : Prop where
  keyed : e.tables.GatesKeyed
  backed : Engine.Backed e

variable {e e' : Engine} {q : GateRequest}

theorem GatesInitial.inv (h : GatesInitial e) : GatesInv e where
  keyed := by
    rw [CaseTables.GatesKeyed, h.noGate]
    exact List.nodup_nil
  backed executionId run hrun := by
    rw [h.noAdvance] at hrun
    cases hrun

theorem bump_eq_some {request : RevisionRequest} {handoffId : Uuid}
    (h : gateStep e (.bumpCaseVersion request handoffId) = some e') :
    e'.advances = e.advances ∧ e'.tables.gates = e.tables.gates := by
  obtain ⟨_, htabs, rfl⟩ := Option.map_eq_some_iff.1 h
  cases hbump : e.tables.bumpCaseVersion request handoffId with
  | error =>
    rw [hbump] at htabs
    cases htabs
  | ok =>
    rw [hbump] at htabs
    cases htabs
    exact ⟨rfl, (CaseTables.bumpCaseVersion_frame hbump).2.2.1⟩

/-- **A satisfied row stands.** -/
theorem mem_gates_gateStep (hstep : gateStep e q = some e') {gate : GateRecord}
    (hmem : gate ∈ e.tables.gates) (hstat : gate.status = .satisfied) : gate ∈ e'.tables.gates := by
  cases q with
  | ensureGate =>
    cases hstep
    exact CaseTables.mem_gates_ensureGate_of_satisfied hmem hstat
  | engine => exact Engine.mem_gates_step hstep hmem hstat
  | bumpCaseVersion =>
    rw [(bump_eq_some hstep).2]
    exact hmem

theorem GatesInv.step (h : GatesInv e) (hstep : gateStep e q = some e') : GatesInv e' := by
  cases q with
  | ensureGate caseVersion gateType status now actorId dispositionRef =>
    cases hstep
    exact ⟨h.keyed.ensureGate _ _ _ _,
      h.backed.ensureGate caseVersion gateType status now actorId dispositionRef⟩
  | engine => exact ⟨Engine.gatesKeyed_step h.keyed hstep, h.backed.step hstep⟩
  | bumpCaseVersion =>
    obtain ⟨hadvs, hgates⟩ := bump_eq_some hstep
    refine ⟨?_, ?_⟩
    · rw [CaseTables.GatesKeyed, hgates]
      exact h.keyed
    · intro executionId run hrun
      rw [hadvs] at hrun
      refine (h.backed executionId run hrun).mono fun v g hgate => ?_
      rw [CaseTables.GateSatisfied, hgates]
      exact hgate

/-- **A human gate is satisfied by a gate write of an endpoint**, for that version and gate. -/
theorem GatesInv.satisfied_cases (h : GatesInv e) (hstep : gateStep e q = some e')
    {gate : GateRecord} (hmem : gate ∈ e'.tables.gates) (hstat : gate.status = .satisfied)
    (hg1 : gate.gateType ≠ .g1IntakeComplete) : gate ∈ e.tables.gates ∨ q.Satisfies gate := by
  cases q with
  | ensureGate =>
    cases hstep
    rcases CaseTables.mem_ensureGate_satisfied h.keyed hmem hstat with
      hold | ⟨hsat, hisGate, hactor, href, -⟩
    · exact Or.inl hold
    · obtain ⟨hver, htype⟩ := CaseTables.isGate_iff.1 hisGate
      exact Or.inr ⟨hsat, hver.symm, htype.symm, hactor.symm, href.symm⟩
  | engine => exact Or.inl (h.backed.mem_gates_of_step h.keyed hstep hmem hstat hg1)
  | bumpCaseVersion =>
    rw [(bump_eq_some hstep).2] at hmem
    exact Or.inl hmem

/-- Along a run, a satisfied row of a human gate was there or was written on the way. -/
theorem GatesInv.satisfied_of_run {as : List GateRequest} (h : GatesInv e)
    (hrun : run gateStep e as = some e') {gate : GateRecord} (hmem : gate ∈ e'.tables.gates)
    (hstat : gate.status = .satisfied) (hg1 : gate.gateType ≠ .g1IntakeComplete) :
    gate ∈ e.tables.gates ∨ ∃ request ∈ as, request.Satisfies gate := by
  induction as generalizing e with
  | nil =>
    cases hrun
    exact Or.inl hmem
  | cons q _ ih =>
    obtain ⟨m, hstep, hrest⟩ := run_cons_eq_some.1 hrun
    rcases ih (h.step hstep) hrest with hmid | ⟨request, hreq, hsatisfies⟩
    · rcases h.satisfied_cases hstep hmid hstat hg1 with hold | hnow
      · exact Or.inl hold
      · exact Or.inr ⟨q, List.mem_cons_self, hnow⟩
    · exact Or.inr ⟨request, List.mem_cons_of_mem _ hreq, hsatisfies⟩

/-! ## Effective gates -/

/-- **Only the current version counts.** A gate is effective by its row at the current version, and the
intake gate also by a live handoff there. -/
theorem effectiveGate_loadSnapshot_iff {tables : CaseTables} (hkeyed : tables.GatesKeyed)
    (gateType : GateType) :
    (effectiveGate tables.loadSnapshot gateType).status = .satisfied ↔
      tables.GateSatisfied tables.caseVersion gateType ∨
        (gateType = .g1IntakeComplete ∧ tables.hasIntakeHandoff tables.caseVersion = true) := by
  have hstored : ∀ gate, storedGate tables.loadSnapshot gateType = some gate →
      gate ∈ tables.gates ∧ CaseTables.isGate tables.caseVersion gateType gate = true := by
    intro gate hgate
    obtain ⟨hmem, hmatch⟩ := List.mem_filter.1 (List.mem_of_getLast? hgate)
    have hmem' := (List.mem_filter.1 hmem).1
    exact ⟨hmem', CaseTables.isGate_iff.2 (of_decide_eq_true hmatch)⟩
  -- the row of the gate is the last of its matches, because it is the only one
  have hsat : tables.GateSatisfied tables.caseVersion gateType ↔
      ∃ gate, storedGate tables.loadSnapshot gateType = some gate ∧ gate.status = .satisfied := by
    constructor
    · rintro ⟨gate, hmem, hisGate, hstat⟩
      obtain ⟨hver, htype⟩ := CaseTables.isGate_iff.1 hisGate
      have hin : gate ∈ tables.loadSnapshot.gates.filter fun gate =>
          gate.caseVersion = tables.loadSnapshot.caseVersion ∧ gate.gateType = gateType := by
        refine List.mem_filter.2 ⟨List.mem_filter.2 ⟨hmem, decide_eq_true hver⟩, ?_⟩
        exact decide_eq_true ⟨hver, htype⟩
      obtain ⟨last, hlast⟩ := Option.isSome_iff_exists.1
        (List.getLast?_isSome.2 (List.ne_nil_of_mem hin))
      obtain ⟨hlastMem, hlastGate⟩ := hstored last hlast
      refine ⟨last, hlast, ?_⟩
      rw [hkeyed.eq_of_isGate hlastMem hmem hlastGate hisGate, hstat]
    · rintro ⟨gate, hgate, hstat⟩
      obtain ⟨hmem, hisGate⟩ := hstored gate hgate
      exact ⟨gate, hmem, hisGate, hstat⟩
  by_cases hg1 : gateType = .g1IntakeComplete
  · subst hg1
    rw [hsat]
    unfold effectiveGate
    simp only
    cases hgate : (storedGate tables.loadSnapshot .g1IntakeComplete).filter
        (·.status = .satisfied) with
    | some record =>
      obtain ⟨hrec, hstat⟩ := Option.filter_eq_some_iff.1 hgate
      have hstat' := of_decide_eq_true hstat
      exact iff_of_true hstat' (Or.inl ⟨record, hrec, hstat'⟩)
    | none =>
      have hnone : ¬ ∃ gate, storedGate tables.loadSnapshot .g1IntakeComplete = some gate ∧
          gate.status = .satisfied := by
        rintro ⟨_, hstoredGate, hstat⟩
        rw [hstoredGate, Option.filter_some, if_pos (decide_eq_true hstat)] at hgate
        cases hgate
      simp only [or_iff_right hnone, true_and]
      show (if tables.hasIntakeHandoff tables.caseVersion then _ else _ : GateRecord).status = _ ↔ _
      cases tables.hasIntakeHandoff tables.caseVersion <;> simp [GateRecord.opened]
  · rw [effectiveGate_satisfied_iff hg1, gateStatus_eq_storedGate, Option.map_eq_some_iff,
      hsat, or_iff_left (fun h => hg1 h.1)]

/-! ## Every run -/

/-- **Human gates are monotone and human-owned.** In every state of every run, each gate of a version has
at most one row; every row that was satisfied on the way still stands; every satisfied row of a human gate
was written by an endpoint for that version and gate; a gate is effective by its row at the current version
alone, the intake gate also by its handoff there; and no step of the engine on the way satisfied any other
gate. -/
theorem humanGates_monotone {as : List GateRequest} (hinit : GatesInitial e)
    (hrun : run gateStep e as = some e') :
    e'.tables.GatesKeyed ∧
      (∀ bs cs m, as = bs ++ cs → run gateStep e bs = some m → ∀ gate ∈ m.tables.gates,
        gate.status = .satisfied → gate ∈ e'.tables.gates) ∧
      (∀ gate ∈ e'.tables.gates, gate.status = .satisfied → gate.gateType ≠ .g1IntakeComplete →
        ∃ request ∈ as, request.Satisfies gate) ∧
      (∀ gateType, (effectiveGate e'.tables.loadSnapshot gateType).status = .satisfied ↔
        e'.tables.GateSatisfied e'.tables.caseVersion gateType ∨
          (gateType = .g1IntakeComplete ∧
            e'.tables.hasIntakeHandoff e'.tables.caseVersion = true)) ∧
      ∀ bs request cs m m', as = bs ++ .engine request :: cs → run gateStep e bs = some m →
        gateStep m (.engine request) = some m' → ∀ caseVersion gateType,
          m'.tables.GateSatisfied caseVersion gateType →
            m.tables.GateSatisfied caseVersion gateType ∨ gateType = .g1IntakeComplete := by
  have hinv : ∀ {bs : List GateRequest} {m : Engine}, run gateStep e bs = some m → GatesInv m :=
    fun hbs => run_invariant GatesInv.step hinit.inv hbs
  refine ⟨(hinv hrun).keyed, ?_, ?_, effectiveGate_loadSnapshot_iff (hinv hrun).keyed, ?_⟩
  · rintro _ _ m rfl hbs gate hmem hstat
    obtain ⟨m', hm', hcs⟩ := run_append_eq_some.1 hrun
    obtain rfl : m = m' := Option.some.inj (hbs.symm.trans hm')
    have hkeep : ∀ {s : Engine} {a : GateRequest} {s' : Engine}, gate ∈ s.tables.gates →
        gateStep s a = some s' → gate ∈ s'.tables.gates :=
      fun hold hstep => mem_gates_gateStep hstep hold hstat
    exact run_invariant hkeep hmem hcs
  · intro gate hmem hstat hg1
    rcases hinit.inv.satisfied_of_run hrun hmem hstat hg1 with hold | hwritten
    · rw [hinit.noGate] at hold
      exact absurd hold List.not_mem_nil
    · exact hwritten
  · rintro _ _ _ m _ rfl hbs hstep _ gateType hgate
    by_cases hg1 : gateType = .g1IntakeComplete
    · exact Or.inr hg1
    · exact Or.inl ((hinv hbs).backed.gateSatisfied_of_step hstep hg1 hgate)

/-- The engine derives the intake gate, a reviewer satisfies the risk gate, and the case moves on to its
next version. -/
def reviewedThenBumped : List GateRequest :=
  (Engine.advanceCase 4 []).map .engine ++
    [.ensureGate 1 .g3RiskDisposition .satisfied 5 (some 30) (some "risk-review-disposition"),
      .bumpCaseVersion ⟨1, 6, 30, "Cần bổ sung phân tích"⟩ 7]

/-- The risk gate of version 1 is no gate of version 2. -/
theorem reviewedThenBumped_monotone :
    ∃ e, run gateStep (Engine.handedOff 1 2 3) reviewedThenBumped = some e ∧
      e.tables.caseVersion = 2 ∧ e.tables.GateSatisfied 1 .g3RiskDisposition ∧
        (effectiveGate e.tables.loadSnapshot .g3RiskDisposition).status ≠ .satisfied := by
  have hruns : (run gateStep (Engine.handedOff 1 2 3) reviewedThenBumped).any (fun e =>
      e.tables.caseVersion = 2 ∧ e.tables.GateSatisfied 1 .g3RiskDisposition ∧
        ¬ e.tables.GateSatisfied 2 .g3RiskDisposition) = true := by
    decide +kernel
  obtain ⟨e, hrun, hstate⟩ := (Option.any_eq_true _ _).1 hruns
  obtain ⟨hver, hsat, hopen⟩ := of_decide_eq_true hstate
  have heffective := (humanGates_monotone ⟨rfl, fun _ => rfl⟩ hrun).2.2.2.1 .g3RiskDisposition
  rw [hver] at heffective
  refine ⟨e, hrun, hver, hsat, fun h => ?_⟩
  rcases heffective.1 h with hnow | ⟨hg1, -⟩
  · exact hopen hnow
  · cases hg1

end CreditOps.Orchestration
