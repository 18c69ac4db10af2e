import CreditOps.Library.Transition
import CreditOps.Library.Fencing
import CreditOps.Orchestration.Engine
import CreditOps.GapRequests.Domain

/-!
# Makers, batches and the risk review of one case version

Everything that bears on the start of the independent risk review of one case version, interleaved at
the granularity of transactions: the engine's requests, workers that persist assessments with their
gaps, and an intake officer who assembles a batch of the open gaps and disposes of it, upon which the
disposition request re-reads the open gaps and satisfies `G2_GAP_REQUEST_APPROVAL` when the derivation
says so.
-/

set_option autoImplicit false

namespace CreditOps.GapRequests

open Transition Fencing PartialMap Orchestration

/-! ## The system -/

/-- The append-only tables of the gap-request workflow, newest first, and the tasks whose assessment is
persisted. -/
structure GapStore where
  assessed : List Uuid
  batches : List GapRequestBatch
  dispositions : List GapRequestBatchDisposition

namespace GapStore

/-- `load_current_batch`: the newest batch of a version. -/
def currentBatch (store : GapStore) (caseVersion : CaseVersion) : Option GapRequestBatch :=
  store.batches.find? (·.caseVersion = caseVersion)

/-- `persist_batch`: idempotent on the version and the snapshot hash. -/
def persistBatch (store : GapStore) (batch : GapRequestBatch) : GapStore :=
  if store.batches.any fun stored =>
      stored.caseVersion = batch.caseVersion ∧
        stored.openGapSnapshotHash = batch.openGapSnapshotHash then store
  else { store with batches := batch :: store.batches }

end GapStore

/-- `_current_open_gap_hash` -/
def currentOpenGapHash (tables : CaseTables) : String :=
  computeOpenGapSnapshotHash (tables.openGaps tables.caseVersion)

/-- How far one disposition request has come. -/
inductive DecisionPhase where
  | loaded
  | recorded
  | derived
  | closed
deriving DecidableEq

/-- One disposition request in flight: the batch it loaded and the disposition it validated. -/
structure Decision where
  batch : GapRequestBatch
  disposition : GapRequestBatchDisposition
  phase : DecisionPhase

/-- What matters for the gate: an open-gap read that derived it, and a commit that added gaps. -/
inductive Event where
  | derived (batchId : Uuid)
  | gapsAdded (taskId : Uuid)
deriving DecidableEq

/-- The engine, the workflow's tables and the requests in flight, by the uuid each of them draws. -/
structure System where
  engine : Engine
  store : GapStore
  assemblies : Uuid → Option GapRequestBatch
  decisions : Uuid → Option Decision
  history : List Event

/-- One step of an interleaving. -/
inductive Request where
  | engine (request : EngineRequest)
  | persistAssessment (taskId : Uuid) (gaps : List FoundGap)
  | assemble (batchId : Uuid) (itemIds : List Uuid)
  | persistBatch (batchId : Uuid)
  | decide (disposition : GapRequestBatchDisposition)
  | recordDisposition (dispositionId : Uuid)
  | readOpenGaps (dispositionId : Uuid)
  | satisfyG2 (dispositionId : Uuid) (now : Timestamp)
deriving DecidableEq

/-- The task types whose processors persist evidence gaps. -/
def addsGaps : TaskType → Bool
  | .creditUnderwriting | .legalComplianceCollateral | .independentRiskReview => true
  | .documentIngestion | .orchestratorPlan | .creditOperations => false

namespace System

/-- The tables of the case. -/
abbrev tables (s : System) : CaseTables := s.engine.tables

/-- Replace the tables of the case. -/
def withTables (s : System) (tables : CaseTables) : System :=
  { s with engine := { s.engine with tables } }

/-- Move one decision to a phase. -/
def setPhase (s : System) (dispositionId : Uuid) (decision : Decision) (phase : DecisionPhase) :
    Uuid → Option Decision :=
  Function.update s.decisions dispositionId (some { decision with phase })

end System

/-- `persist_assessment`: the assessment is inserted once a task, together with the gaps it found; a
later delivery finds it and writes nothing. -/
def persistAssessment (s : System) (taskId : Uuid) (gaps : List FoundGap) : Option System :=
  match s.tables.tasks.find? (·.id = taskId) with
  | none => none
  | some task =>
    if addsGaps task.taskType ∧ task.caseVersion = s.tables.caseVersion then
      if taskId ∈ s.store.assessed then some s
      else
        some { s.withTables (s.tables.addGaps task.caseVersion taskId gaps) with
               store := { s.store with assessed := taskId :: s.store.assessed }
               history := if gaps = [] then s.history else .gapsAdded taskId :: s.history }
    else none

/-- The step function; `none` for a request that is not at that point or is refused. -/
def step (s : System) : Request → Option System
  | .engine request => (s.engine.step request).map fun engine => { s with engine }
  | .persistAssessment taskId gaps => persistAssessment s taskId gaps
  | .assemble batchId itemIds =>
    (assembleGapRequestBatch (s.tables.openGaps s.tables.caseVersion) s.tables.caseVersion itemIds
      batchId).map fun batch =>
        { s with assemblies := Function.update s.assemblies batchId (some batch) }
  | .persistBatch batchId =>
    (s.assemblies batchId).map fun batch => { s with store := s.store.persistBatch batch }
  | .decide disposition =>
    match s.store.currentBatch s.tables.caseVersion, s.decisions disposition.id with
    | some batch, none =>
      if batch.id = disposition.batchId ∧ isValidDisposition batch disposition then
        some { s with
               decisions :=
                Function.update s.decisions disposition.id (some ⟨batch, disposition, .loaded⟩) }
      else none
    | _, _ => none
  | .recordDisposition dispositionId =>
    match s.decisions dispositionId with
    | some ⟨batch, disposition, .loaded⟩ =>
      some { s with
             store := { s.store with dispositions := disposition :: s.store.dispositions }
             decisions := s.setPhase dispositionId ⟨batch, disposition, .loaded⟩ .recorded }
    | _ => none
  | .readOpenGaps dispositionId =>
    match s.decisions dispositionId with
    | some ⟨batch, disposition, .recorded⟩ =>
      match deriveG2FromBatch batch (some disposition) s.tables.caseVersion
          (currentOpenGapHash s.tables) with
      | .satisfied =>
        some { s with
               decisions := s.setPhase dispositionId ⟨batch, disposition, .recorded⟩ .derived
               history := .derived batch.id :: s.history }
      | .opened =>
        some { s with
               decisions := s.setPhase dispositionId ⟨batch, disposition, .recorded⟩ .closed }
    | _ => none
  | .satisfyG2 dispositionId now =>
    match s.decisions dispositionId with
    | some ⟨batch, disposition, .derived⟩ =>
      some { s.withTables
              (s.tables.ensureGate s.tables.caseVersion .g2GapRequestApproval .satisfied now
                (some disposition.actorId) (some ("gap-request-batch:" ++ uuidText batch.id))) with
             decisions := s.setPhase dispositionId ⟨batch, disposition, .derived⟩ .closed }
    | _ => none

/-- A case version whose gap-request gate nobody has satisfied yet, with nothing in flight. -/
structure Initial (s : System) : Prop where
  gateOpen : ¬ s.tables.GateSatisfied s.tables.caseVersion .g2GapRequestApproval
  noDecision : ∀ id, s.decisions id = none
  noAdvance : ∀ id, s.engine.advances id = none
  noHistory : s.history = []

/-! ## The promise -/

/-- The step creates an independent risk review task of the case version. -/
def CreatesRiskReview (s t : System) : Prop :=
  ∃ task ∈ t.tables.tasks, s.engine.Created t.engine task ∧
    task.taskType = .independentRiskReview ∧ task.caseVersion = s.tables.caseVersion

instance (s t : System) : Decidable (CreatesRiskReview s t) :=
  inferInstanceAs (Decidable (∃ task ∈ t.tables.tasks, _))

/-- The open gaps are covered by a recorded human disposition of a batch whose hash is the hash of the
current open gaps. -/
def Covered (s : System) : Prop :=
  ∃ batch ∈ s.store.batches, ∃ disposition ∈ s.store.dispositions,
    deriveG2FromBatch batch (some disposition) s.tables.caseVersion (currentOpenGapHash s.tables) =
      .satisfied

instance (s : System) : Decidable (Covered s) :=
  inferInstanceAs (Decidable (∃ batch ∈ s.store.batches, ∃ disposition ∈ s.store.dispositions, _))

/-- No open gap of the case version is blocking. -/
def NoBlockingGap (tables : CaseTables) : Prop :=
  ∀ gap ∈ tables.openGaps tables.caseVersion, gap.blockingLevel ≠ .blocking

instance (tables : CaseTables) : Decidable (NoBlockingGap tables) :=
  inferInstanceAs (Decidable (∀ gap ∈ tables.openGaps tables.caseVersion, _))

/-- **The promise, for one step.** If it creates a risk review task, every open blocking gap is
covered at that moment. -/
def StartsCovered (s : System) (q : Request) : Prop :=
  ∀ t, step s q = some t → CreatesRiskReview s t →
    ∀ gap ∈ s.tables.openGaps s.tables.caseVersion, gap.blockingLevel = .blocking → Covered s

/-! ## The condition -/

/-- A derivation of the gate takes the right to start the review; added gaps take it away. -/
def Event.fence : Event → FenceEvent Unit
  | .derived _ => .acquire ()
  | .gapsAdded _ => .revoke

/-- The fencing log of a history. -/
def fenceLog (history : List Event) : List (FenceEvent Unit) :=
  history.map Event.fence

/-- The condition on one step: a risk review is scheduled only while no gap was added since the last
open-gap read that derived the gate, or while no open gap is blocking. -/
def SchedulesSettled (s : System) : Request → Prop
  | .engine (.advanceSchedule executionId _ _) =>
    (s.engine.advances executionId).bind (·.nextType) = some .independentRiskReview →
      revokedSince () (fenceLog s.history) = false ∨ NoBlockingGap s.tables
  | _ => True

instance (s : System) : ∀ q, Decidable (SchedulesSettled s q)
  | .engine (.advanceSchedule _ _ _) => inferInstanceAs (Decidable (_ → _))
  | .engine (.workerMoves _ _) | .engine (.kickoff _ _ _) | .engine (.advanceLoad _)
  | .engine (.advanceRefresh _ _) | .engine (.advancePlan _ _) => isTrue trivial
  | .persistAssessment _ _ | .assemble _ _ | .persistBatch _ | .decide _ | .recordDisposition _
  | .readOpenGaps _ | .satisfyG2 _ _ => isTrue trivial

/-! ## The invariant -/

/-- What every reachable state of the case version satisfies. -/
structure Inv (s : System) : Prop where
  backed : s.engine.Backed
  atVersion : s.engine.AtVersion
  gateDerived : s.tables.GateSatisfied s.tables.caseVersion .g2GapRequestApproval →
    FenceEvent.acquire () ∈ fenceLog s.history
  decisionBacked : ∀ id d, s.decisions id = some d → d.batch ∈ s.store.batches ∧
    (d.phase = .recorded → d.disposition ∈ s.store.dispositions) ∧
    (d.phase = .derived → FenceEvent.acquire () ∈ fenceLog s.history)
  covered : holder (fenceLog s.history) = some () → Covered s

variable {s : System}

theorem Initial.inv (h : Initial s) : Inv s where
  backed executionId run hrun := by rw [h.noAdvance] at hrun; cases hrun
  atVersion executionId run hrun := by rw [h.noAdvance] at hrun; cases hrun
  gateDerived hg := absurd hg h.gateOpen
  decisionBacked id d hd := by rw [h.noDecision] at hd; cases hd
  covered hh := by rw [h.noHistory] at hh; cases hh

namespace Inv

variable {s : System}

/-- A step of the engine satisfies no gap-request gate and adds no gap. -/
theorem engine (h : Inv s) {request : EngineRequest} {engine : Engine}
    (hstep : s.engine.step request = some engine) : Inv { s with engine } := by
  obtain ⟨hver, hgaps⟩ := Engine.step_frame hstep
  refine ⟨h.backed.step hstep, h.atVersion.step hstep, ?_, h.decisionBacked, ?_⟩
  · intro hg
    apply h.gateDerived
    simp only [System.tables] at hg ⊢
    rw [← hver]
    exact h.backed.gateSatisfied_of_step hstep GateType.noConfusion hg
  · intro hholder
    obtain ⟨batch, hbatch, disposition, hdisp, hderive⟩ := h.covered hholder
    refine ⟨batch, hbatch, disposition, hdisp, ?_⟩
    rw [← hderive]
    simp only [System.tables, currentOpenGapHash, CaseTables.openGaps, hver, hgaps]

variable {t : System}

theorem persistAssessment (h : Inv s) {taskId : Uuid} {gaps : List FoundGap}
    (hstep : GapRequests.persistAssessment s taskId gaps = some t) : Inv t := by
  unfold GapRequests.persistAssessment at hstep
  split at hstep
  · cases hstep
  split at hstep
  · split at hstep
    · cases hstep
      exact h
    · cases hstep
      by_cases hgaps : gaps = []
      · subst hgaps
        exact ⟨h.backed.withTables fun _ _ hg => hg, h.atVersion, h.gateDerived, h.decisionBacked,
          h.covered⟩
      · simp only [if_neg hgaps]
        -- added gaps revoke the log, so coverage is owed no more
        refine ⟨h.backed.withTables fun _ _ hg => hg, h.atVersion, ?_, ?_, ?_⟩
        · intro hg
          exact List.mem_cons_of_mem _ (h.gateDerived hg)
        · intro id d hd
          obtain ⟨hbatch, hrec, hder⟩ := h.decisionBacked id d hd
          exact ⟨hbatch, hrec, fun hphase => List.mem_cons_of_mem _ (hder hphase)⟩
        · intro hholder
          cases hholder
  · cases hstep

theorem persistBatch (h : Inv s) (batch : GapRequestBatch) :
    Inv { s with store := s.store.persistBatch batch } := by
  unfold GapStore.persistBatch
  split
  · exact h
  · refine ⟨h.backed, h.atVersion, h.gateDerived, ?_, ?_⟩
    · intro id d hd
      obtain ⟨hbatch, hrest⟩ := h.decisionBacked id d hd
      exact ⟨List.mem_cons_of_mem _ hbatch, hrest⟩
    · intro hholder
      obtain ⟨b, hb, hrest⟩ := h.covered hholder
      exact ⟨b, List.mem_cons_of_mem _ hb, hrest⟩

variable {dispositionId : Uuid} {decision : Decision}

theorem setPhase_cases {id : Uuid} {d : Decision} {phase : DecisionPhase}
    (hd : s.setPhase dispositionId decision phase id = some d) :
    d = { decision with phase } ∨ s.decisions id = some d := by
  rcases update_some_cases hd with ⟨-, hnew⟩ | ⟨-, hold⟩
  · exact Or.inl hnew
  · exact Or.inr hold

theorem close (h : Inv s) (hd : s.decisions dispositionId = some decision) :
    Inv { s with decisions := s.setPhase dispositionId decision .closed } := by
  refine ⟨h.backed, h.atVersion, h.gateDerived, ?_, h.covered⟩
  intro id d hid
  rcases setPhase_cases hid with rfl | hold
  · exact ⟨(h.decisionBacked _ _ hd).1, by simp, by simp⟩
  · exact h.decisionBacked id d hold

theorem decide (h : Inv s) {disposition : GapRequestBatchDisposition}
    (hstep : step s (.decide disposition) = some t) : Inv t := by
  simp only [step] at hstep
  split at hstep
  · rename_i batch hbatch hfree
    split at hstep
    · cases hstep
      refine ⟨h.backed, h.atVersion, h.gateDerived, ?_, h.covered⟩
      intro id d hd
      rcases update_some_cases hd with ⟨-, rfl⟩ | ⟨-, hold⟩
      · exact ⟨List.mem_of_find?_eq_some hbatch, by simp, by simp⟩
      · exact h.decisionBacked id d hold
    · cases hstep
  · cases hstep

theorem recordDisposition (h : Inv s) (hstep : step s (.recordDisposition dispositionId) = some t) :
    Inv t := by
  simp only [step] at hstep
  split at hstep
  · rename_i batch disposition hd
    cases hstep
    refine ⟨h.backed, h.atVersion, h.gateDerived, ?_, ?_⟩
    · intro id d hid
      rcases setPhase_cases hid with rfl | hold
      · exact ⟨(h.decisionBacked _ _ hd).1, fun _ => List.mem_cons_self, by simp⟩
      · obtain ⟨hbatch, hrec, hder⟩ := h.decisionBacked id d hold
        exact ⟨hbatch, fun hphase => List.mem_cons_of_mem _ (hrec hphase), hder⟩
    · intro hholder
      obtain ⟨b, hb, d, hmem, hderive⟩ := h.covered hholder
      exact ⟨b, hb, d, List.mem_cons_of_mem _ hmem, hderive⟩
  · cases hstep

theorem readOpenGaps (h : Inv s) (hstep : step s (.readOpenGaps dispositionId) = some t) : Inv t := by
  simp only [step] at hstep
  split at hstep
  · rename_i batch disposition hd
    obtain ⟨hbatch, hrec, -⟩ := h.decisionBacked _ _ hd
    split at hstep
    · rename_i hderive
      cases hstep
      refine ⟨h.backed, h.atVersion, fun _ => List.mem_cons_self, ?_, ?_⟩
      · intro id d hid
        rcases setPhase_cases hid with rfl | hold
        · exact ⟨hbatch, by simp, fun _ => List.mem_cons_self⟩
        · obtain ⟨hb, hr, hder⟩ := h.decisionBacked id d hold
          exact ⟨hb, hr, fun hphase => List.mem_cons_of_mem _ (hder hphase)⟩
      · -- the read that derived the gate is the covering one
        intro _
        exact ⟨batch, hbatch, disposition, hrec rfl, hderive⟩
    · cases hstep
      exact h.close hd
  · cases hstep

theorem satisfyG2 (h : Inv s) {now : Timestamp} (hstep : step s (.satisfyG2 dispositionId now) = some t) :
    Inv t := by
  simp only [step] at hstep
  split at hstep
  · rename_i batch disposition hd
    cases hstep
    have hacquired := (h.decisionBacked _ _ hd).2.2 rfl
    have hbacked := h.backed.ensureGate s.tables.caseVersion .g2GapRequestApproval .satisfied now
      (some disposition.actorId) (some ("gap-request-batch:" ++ uuidText batch.id))
    have hsat : Inv (s.withTables (s.tables.ensureGate s.tables.caseVersion
        .g2GapRequestApproval .satisfied now (some disposition.actorId)
        (some ("gap-request-batch:" ++ uuidText batch.id)))) := by
      rw [CaseTables.ensureGate_frame] at hbacked ⊢
      exact ⟨hbacked, h.atVersion, fun _ => hacquired, h.decisionBacked, h.covered⟩
    exact hsat.close hd
  · cases hstep

/-- **Every step keeps the invariant.** -/
theorem step (h : Inv s) {q : Request} (hstep : GapRequests.step s q = some t) :
    Inv t := by
  cases q with
  | engine =>
    simp only [GapRequests.step, Option.map_eq_some_iff] at hstep
    obtain ⟨_, heng, rfl⟩ := hstep
    exact h.engine heng
  | persistAssessment => exact h.persistAssessment hstep
  | assemble =>
    simp only [GapRequests.step, Option.map_eq_some_iff] at hstep
    obtain ⟨_, -, rfl⟩ := hstep
    exact ⟨h.backed, h.atVersion, h.gateDerived, h.decisionBacked, h.covered⟩
  | persistBatch =>
    simp only [GapRequests.step, Option.map_eq_some_iff] at hstep
    obtain ⟨batch, -, rfl⟩ := hstep
    exact h.persistBatch batch
  | decide => exact h.decide hstep
  | recordDisposition => exact h.recordDisposition hstep
  | readOpenGaps => exact h.readOpenGaps hstep
  | satisfyG2 => exact h.satisfyG2 hstep

end Inv

/-! ## The review starts covered -/

theorem requiredGate_independentRiskReview :
    ∀ node ∈ DependencyTemplate.canonical.nodes, node.taskType = .independentRiskReview →
      node.requiredGate = some .g2GapRequestApproval := by
  decide

variable {q : Request}

/-- Only the engine adds tasks. -/
theorem tasks_of_step {t : System} (hstep : step s q = some t) :
    t.tables.tasks = s.tables.tasks ∨
      ∃ request, q = .engine request ∧ s.engine.step request = some t.engine := by
  cases q with
  | engine request =>
    simp only [step, Option.map_eq_some_iff] at hstep
    obtain ⟨_, heng, rfl⟩ := hstep
    exact Or.inr ⟨request, rfl, heng⟩
  | persistAssessment =>
    simp only [step, persistAssessment] at hstep
    split at hstep
    · cases hstep
    split at hstep
    · split at hstep <;> cases hstep <;> exact Or.inl rfl
    · cases hstep
  | assemble | persistBatch =>
    simp only [step, Option.map_eq_some_iff] at hstep
    obtain ⟨_, -, rfl⟩ := hstep
    exact Or.inl rfl
  | decide =>
    simp only [step] at hstep
    split at hstep
    · split at hstep <;> cases hstep
      exact Or.inl rfl
    · cases hstep
  | recordDisposition =>
    simp only [step] at hstep
    split at hstep <;> cases hstep
    exact Or.inl rfl
  | readOpenGaps =>
    simp only [step] at hstep
    split at hstep
    · split at hstep <;> cases hstep <;> exact Or.inl rfl
    · cases hstep
  | satisfyG2 =>
    simp only [step] at hstep
    split at hstep <;> cases hstep
    rw [CaseTables.ensureGate_frame]
    exact Or.inl rfl

/-- A settled step starts the review covered. -/
theorem Inv.startsCovered (h : Inv s) (hsettled : SchedulesSettled s q) :
    StartsCovered s q := by
  rintro t hstep ⟨_, hmem, hnew, htype, hver⟩ gap hgap hblocking
  rcases tasks_of_step hstep with hsame | ⟨_, rfl, heng⟩
  · rw [hsame] at hmem
    exact absurd (List.mem_map_of_mem hmem) hnew.2
  obtain ⟨node, hnode, hnodeType, hgate⟩ :=
    h.backed.created_gate heng hnew (by rw [htype]; exact TaskType.noConfusion)
  -- the review is created behind its gate, so the gate was derived
  have hstored := hgate _ (requiredGate_independentRiskReview node hnode (hnodeType.trans htype))
  rw [hver] at hstored
  have hderived := h.gateDerived hstored
  rcases Engine.created_cases heng hnew with hplan | ⟨executionId, _, _, _, rfl, hrun, hnext, -⟩
  · rw [htype] at hplan
    cases hplan
  have hready : (s.engine.advances executionId).bind (·.nextType) = some .independentRiskReview := by
    rw [hrun, Option.bind_some, hnext, htype]
  rcases hsettled hready with hquiet | hnone
  · exact h.covered (holder_eq_some_of_acquire_mem hderived hquiet)
  · exact absurd hblocking (hnone gap hgap)

/-- **The review never starts past an undisposed blocking gap, on settled runs.** On every run from a
case version whose gate is open, if each risk review is scheduled while no gap was added since the
last open-gap read that derived the gate, or while no open gap is blocking, then each risk review
task is created only with every open blocking gap covered. -/
theorem riskReview_covered {s : System} {as : List Request} (hs : Initial s)
    (hsettled : RunMeets step SchedulesSettled s as) : RunMeets step StartsCovered s as :=
  RunMeets.imp_of_invariant (fun hinv hstep => hinv.step hstep)
    (fun hinv hsettled => hinv.startsCovered hsettled) hs.inv hsettled

/-! ## Concrete interleavings -/

section Interleavings

/-- A case at its first version, handed off by intake. -/
def sampleCase : System where
  engine := Engine.handedOff 10 20 21
  store := { assessed := [], batches := [], dispositions := [] }
  assemblies := fun _ => none
  decisions := fun _ => none
  history := []

theorem sampleCase_initial : Initial sampleCase where
  gateOpen := by decide
  noDecision _ := rfl
  noAdvance _ := rfl
  noHistory := rfl

/-- A whole `AdvanceCase` execution: up to its plan, and one scheduled task after the other. -/
def advance (executionId : Uuid) (taskIds : List Uuid) : List Request :=
  (Engine.advanceCase executionId taskIds).map .engine

/-- A worker moves a task. -/
def workerMoves (taskId : Uuid) (status : TaskStatus) : Request :=
  .engine (.workerMoves taskId status)

/-- Both makers run; the underwriter finds one blocking gap. -/
def makersRun : List Request :=
  [workerMoves 201 .running, workerMoves 202 .running,
    .persistAssessment 201 [⟨400, .blocking, "báo cáo tài chính kiểm toán", []⟩],
    .persistAssessment 202 [], workerMoves 201 .succeeded, workerMoves 202 .succeeded]

/-- An officer assembles the batch of the open gaps and disposes of it. -/
def officerDisposes (itemIds : List Uuid) (dispositionType : BatchDispositionType) : List Request :=
  [.assemble 300 itemIds, .persistBatch 300,
    .decide ⟨301, 300, dispositionType, [], [], 30, "INTAKE_OFFICER", "đã rà soát"⟩,
    .recordDisposition 301, .readOpenGaps 301, .satisfyG2 301 0]

/-- The makers run first, the officer approves the batch with their gap, and the review starts. -/
def disposedAfterMakers : List Request :=
  advance 100 [201, 202] ++ makersRun ++
    officerDisposes [302] .approvedAll ++ advance 101 [203]

theorem disposedAfterMakers_covered : RunMeets step StartsCovered sampleCase disposedAfterMakers :=
  riskReview_covered sampleCase_initial (by decide +kernel)

/-- The officer records that nothing needs to be requested before the makers have run. -/
def disposedBeforeMakers : List Request :=
  advance 100 [201, 202] ++
    officerDisposes [] .noOutboundRequests ++ makersRun ++ advance 101 []

/-- **The promise fails on the code.** The gate stays satisfied, and the review starts past a blocking
gap that no disposition covers. -/
theorem riskReview_started_past_gap :
    Initial sampleCase ∧
    ∃ s, run step sampleCase disposedBeforeMakers = some s ∧
      ¬ StartsCovered s (.engine (.advanceSchedule 101 203 0)) := by
  refine ⟨sampleCase_initial, ?_⟩
  have hcheck : (run step sampleCase disposedBeforeMakers).any (fun s =>
      (step s (.engine (.advanceSchedule 101 203 0))).any fun t =>
        decide (CreatesRiskReview s t ∧ ¬ NoBlockingGap s.tables ∧ ¬ Covered s)) = true := by
    decide +kernel
  obtain ⟨s, hrun, hs⟩ := (Option.any_eq_true _ _).1 hcheck
  obtain ⟨t, hstep, ht⟩ := (Option.any_eq_true _ _).1 hs
  obtain ⟨hcreate, hblocking, huncovered⟩ := of_decide_eq_true ht
  refine ⟨s, hrun, fun hstarts => hblocking fun gap hgap hlevel => ?_⟩
  exact huncovered (hstarts t hstep hcreate gap hgap hlevel)

end Interleavings

end CreditOps.GapRequests
