import CreditOps.RiskReview.Dispositions

/-!
# The risk gate and the start of Credit Operations

Dispositions can be revised, but the gate row is never taken back. So the promise that a severe
challenge still contested keeps the case out of Credit Operations (`StartsSettled`) fails
(`creditOperations_started_contested`). It holds on every run in which no severe challenge was contested
since the last derivation of the gate of that version when its Credit Operations task is scheduled
(`creditOperations_settled`).
-/

set_option autoImplicit false

namespace CreditOps.RiskReview

open Transition Fencing PartialMap Orchestration

/-! ## The promise -/

/-- **The promise, for one step.** If it creates a Credit Operations task, the risk gate of its version
derives as satisfied at that moment. -/
def StartsSettled (s : System) (q : Request) : Prop :=
  ∀ t, step s q = some t → ∀ task, s.engine.Created t.engine task →
    task.taskType = .creditOperations →
      s.store.currentG3Status task.caseVersion = .satisfied

/-! ## The condition -/

/-- A derivation of the gate of a version takes the right to start; a contest takes it away. -/
def Event.fence (v : CaseVersion) : Event → FenceEvent Unit
  | .derived caseVersion => if caseVersion = v then .acquire () else .neutral
  | .contested caseVersion => if caseVersion = v then .revoke else .neutral

/-- The fencing log of a version. -/
def fenceLog (v : CaseVersion) (history : List Event) : List (FenceEvent Unit) :=
  history.map (Event.fence v)

/-- The condition on one step: Credit Operations is scheduled only while no severe challenge of the
version was contested since the last derivation of its gate. -/
def SchedulesUncontested (s : System) : Request → Prop
  | .engine (.advanceSchedule executionId _ _) =>
    ∀ run ∈ s.engine.advances executionId, run.nextType = some .creditOperations →
      revokedSince () (fenceLog run.snapshot.caseVersion s.history) = false
  | _ => True

instance (s : System) : ∀ q, Decidable (SchedulesUncontested s q)
  | .engine (.advanceSchedule executionId _ _) =>
    inferInstanceAs (Decidable (∀ run ∈ s.engine.advances executionId, _))
  | .engine (.workerMoves _ _) | .engine (.kickoff _ _ _) | .engine (.advanceLoad _)
  | .engine (.advanceRefresh _ _) | .engine (.advancePlan _ _) => isTrue trivial
  | .otherGate _ _ _ _ _ | .persistAssessment _ _ _ _ _ | .openDisposition _ _ _ _
  | .recordDisposition _ _ | .readDispositions _ | .satisfyG3 _ _ | .reviseMakers _ _ =>
    isTrue trivial

/-! ## The fencing log -/

theorem fenceLog_derived_self (v : CaseVersion) (history : List Event) :
    fenceLog v (.derived v :: history) = .acquire () :: fenceLog v history := by
  simp only [fenceLog, List.map_cons, Event.fence, ↓reduceIte]

theorem fenceLog_derived_of_ne {u v : CaseVersion} (huv : u ≠ v) (history : List Event) :
    fenceLog v (.derived u :: history) = .neutral :: fenceLog v history := by
  simp only [fenceLog, List.map_cons, Event.fence, if_neg huv]

theorem fenceLog_contested_self (v : CaseVersion) (history : List Event) :
    fenceLog v (.contested v :: history) = .revoke :: fenceLog v history := by
  simp only [fenceLog, List.map_cons, Event.fence, ↓reduceIte]

theorem fenceLog_contested_of_ne {u v : CaseVersion} (huv : u ≠ v) (history : List Event) :
    fenceLog v (.contested u :: history) = .neutral :: fenceLog v history := by
  simp only [fenceLog, List.map_cons, Event.fence, if_neg huv]

theorem acquire_mem_fenceLog_cons {v : CaseVersion} {history : List Event} (event : Event)
    (h : FenceEvent.acquire () ∈ fenceLog v history) :
    FenceEvent.acquire () ∈ fenceLog v (event :: history) :=
  List.mem_cons_of_mem _ h

/-! ## The invariant -/

/-- What every reachable state of the case satisfies. -/
structure Inv (s : System) : Prop where
  backed : s.engine.Backed
  keyed : Engine.Keyed s.tables
  reviewTask : ∀ record ∈ s.store.assessments, ∃ task ∈ s.tables.tasks, task.id = record.taskId ∧
    task.taskType = .independentRiskReview ∧ task.caseVersion = record.caseVersion
  oneReview : ∀ a ∈ s.store.assessments, ∀ b ∈ s.store.assessments,
    a.caseVersion = b.caseVersion → a = b
  runBacked : ∀ id run, s.runs id = some run → run.record ∈ s.store.assessments ∧
    (run.challengeId = none → run.dispositionType = .noted) ∧
    (run.phase = .derived → FenceEvent.acquire () ∈ fenceLog run.record.caseVersion s.history)
  gateDerived : ∀ v, s.tables.GateSatisfied v .g3RiskDisposition →
    FenceEvent.acquire () ∈ fenceLog v s.history
  settled : ∀ v, holder (fenceLog v s.history) = some () →
    s.store.currentG3Status v = .satisfied

theorem Initial.inv {s : System} (h : Initial s) : Inv s where
  backed executionId run hrun := by rw [h.noAdvance] at hrun; cases hrun
  keyed := h.keyed
  reviewTask record hrec := by rw [h.noAssessment] at hrec; cases hrec
  oneReview a ha := by rw [h.noAssessment] at ha; cases ha
  runBacked id run hrun := by rw [h.noRun] at hrun; cases hrun
  gateDerived v hg := absurd hg (h.gateOpen v)
  settled v hh := by rw [h.noHistory] at hh; cases hh

theorem currentG3Status_eq {store : RiskReviewStore} {record : RiskReviewAssessment}
    (hone : ∀ a ∈ store.assessments, ∀ b ∈ store.assessments, a.caseVersion = b.caseVersion → a = b)
    (hrec : record ∈ store.assessments) :
    store.currentG3Status record.caseVersion = store.g3Status record := by
  unfold RiskReviewStore.currentG3Status
  cases hfind : store.assessments.find? (·.caseVersion = record.caseVersion) with
  | none => simpa using List.find?_eq_none.1 hfind record hrec
  | some found =>
    have hver : found.caseVersion = record.caseVersion := by
      simpa using List.find?_some hfind
    rw [hone found (List.mem_of_find?_eq_some hfind) record hrec hver]

namespace Inv

variable {s : System}

theorem withEngine (h : Inv s) {engine : Engine} (hbacked : engine.Backed)
    (hkeyed : Engine.Keyed engine.tables)
    (htasks : ∀ task ∈ s.tables.tasks, ∃ task' ∈ engine.tables.tasks, task'.id = task.id ∧
      task'.taskType = task.taskType ∧ task'.caseVersion = task.caseVersion)
    (hgate : ∀ v, engine.tables.GateSatisfied v .g3RiskDisposition →
      FenceEvent.acquire () ∈ fenceLog v s.history) :
    Inv { s with engine } := by
  refine ⟨hbacked, hkeyed, ?_, h.oneReview, h.runBacked, hgate, h.settled⟩
  intro record hrec
  obtain ⟨task, hmem, hid, htype, hver⟩ := h.reviewTask record hrec
  obtain ⟨task', hmem', hid', htype', hver'⟩ := htasks task hmem
  exact ⟨task', hmem', hid'.trans hid, htype'.trans htype, hver'.trans hver⟩

theorem withTables (h : Inv s) {tables : CaseTables} (htasks : tables.tasks = s.tables.tasks)
    (hgates : tables.gates = s.tables.gates) : Inv (s.withTables tables) := by
  have hsat : ∀ v g, tables.GateSatisfied v g ↔ s.tables.GateSatisfied v g := by
    intro v g
    rw [CaseTables.GateSatisfied, CaseTables.GateSatisfied, hgates]
  refine h.withEngine (h.backed.withTables fun v g hg => (hsat v g).2 hg) ?_ ?_ ?_
  · exact ⟨by simpa only [htasks] using h.keyed.unique, by simpa only [htasks] using h.keyed.agentKey⟩
  · intro task hmem
    exact ⟨task, by simpa only [htasks] using hmem, rfl, rfl, rfl⟩
  · intro v hg
    exact h.gateDerived v ((hsat v _).1 hg)

/-- A gate write satisfies the risk gate only where it was derived. -/
theorem ensureGate (h : Inv s) {caseVersion : CaseVersion} {gateType : GateType}
    (actorId : Option Uuid) (dispositionRef : Option String) (now : Timestamp)
    (hderived : gateType = .g3RiskDisposition →
      FenceEvent.acquire () ∈ fenceLog caseVersion s.history) :
    Inv (s.withTables (s.tables.ensureGate caseVersion gateType .satisfied now actorId
      dispositionRef)) := by
  refine h.withEngine (h.backed.ensureGate caseVersion gateType .satisfied now actorId
    dispositionRef) ?_ ?_ ?_
  · rw [CaseTables.ensureGate_frame]
    exact ⟨h.keyed.unique, h.keyed.agentKey⟩
  · intro task hmem
    rw [CaseTables.ensureGate_frame]
    exact ⟨task, hmem, rfl, rfl, rfl⟩
  · intro v hg
    rcases CaseTables.gateSatisfied_of_ensureGate hg with hold | ⟨-, rfl, htype⟩
    · exact h.gateDerived v hold
    · exact hderived htype.symm

theorem engine (h : Inv s) {request : EngineRequest} {engine : Engine}
    (hstep : s.engine.step request = some engine) : Inv { s with engine } := by
  refine h.withEngine (h.backed.step hstep) (h.keyed.step hstep) ?_ ?_
  · intro task hmem
    exact Engine.task_persists hstep hmem
  · intro v hg
    exact h.gateDerived v (h.backed.gateSatisfied_of_step hstep GateType.noConfusion hg)

/-- **One review a version.** A checker's task whose version already has an assessment is the task of
that assessment. -/
theorem review_taskId (h : Inv s) {record : RiskReviewAssessment} {task : ProcessingTask}
    (hrec : record ∈ s.store.assessments) (htask : task ∈ s.tables.tasks)
    (htype : task.taskType = .independentRiskReview)
    (hver : record.caseVersion = task.caseVersion) : record.taskId = task.id := by
  obtain ⟨_, hold, hid, holdType, holdVersion⟩ := h.reviewTask record hrec
  rw [← hid]
  refine h.keyed.agentTask_unique hold htask ?_ ?_ ?_ ?_
  · rw [holdType]
    exact TaskType.noConfusion
  · rw [holdType]
    exact TaskType.noConfusion
  · rw [htype, holdType]
  · rw [holdVersion, hver]

/-- A new assessment is the first of its version. -/
theorem persistAssessment (h : Inv s) {assessmentId taskId : Uuid}
    {challenges : List (Uuid × ChallengeSeverity)} {gaps : List FoundGap} {now : Timestamp}
    {t : System}
    (hstep : RiskReview.persistAssessment s assessmentId taskId challenges gaps now = some t) :
    Inv t := by
  unfold RiskReview.persistAssessment at hstep
  split at hstep
  · cases hstep
  rename_i task hfind
  split at hstep
  · cases hstep
    exact h
  · rename_i hnone
    split at hstep
    · cases hstep
      have htask := List.mem_of_find?_eq_some hfind
      obtain ⟨htaskId, htype⟩ : task.id = taskId ∧ task.taskType = .independentRiskReview := by
        simpa using List.find?_some hfind
      have hfirst : ∀ record ∈ s.store.assessments, record.caseVersion ≠ task.caseVersion := by
        intro record hrec hver
        refine hnone (List.any_eq_true.2 ⟨record, hrec, decide_eq_true ⟨hver, ?_⟩⟩)
        exact (h.review_taskId hrec htask htype hver).trans htaskId
      have hinv : Inv (s.withTables (s.tables.addGaps task.caseVersion taskId gaps)) :=
        h.withTables rfl rfl
      refine ⟨hinv.backed, hinv.keyed, ?_, ?_, ?_, hinv.gateDerived, ?_⟩
      · intro record hrec
        rcases List.mem_cons.1 hrec with rfl | hold
        · exact ⟨task, htask, htaskId, htype, rfl⟩
        · exact h.reviewTask record hold
      · intro a ha b hb hab
        rcases List.mem_cons.1 ha with rfl | hold
        · rcases List.mem_cons.1 hb with rfl | hold'
          · rfl
          · exact absurd hab.symm (hfirst b hold')
        · rcases List.mem_cons.1 hb with rfl | hold'
          · exact absurd hab (hfirst a hold)
          · exact h.oneReview a hold b hold' hab
      · intro id run hrun
        obtain ⟨hmem, hrest⟩ := h.runBacked id run hrun
        exact ⟨List.mem_cons_of_mem _ hmem, hrest⟩
      · intro v hholder
        have hsettled := h.settled v hholder
        unfold RiskReviewStore.currentG3Status at hsettled ⊢
        by_cases hv : task.caseVersion = v
        · -- the version had no assessment, so its gate was not derived
          subst hv
          rw [List.find?_eq_none.2 (by simpa using hfirst)] at hsettled
          cases hsettled
        · rw [List.find?_cons_of_neg (by simpa using hv)]
          exact hsettled
    · cases hstep

theorem setPhase_cases {dispositionId id : Uuid} {run run' : DispositionRun}
    {phase : DispositionPhase} (hrun : s.setPhase dispositionId run phase id = some run') :
    run' = { run with phase } ∨ s.runs id = some run' := by
  rcases update_some_cases hrun with ⟨-, hnew⟩ | ⟨-, hold⟩
  · exact Or.inl hnew
  · exact Or.inr hold

theorem settle (h : Inv s) {dispositionId : Uuid} {run : DispositionRun}
    (hrun : s.runs dispositionId = some run) :
    Inv { s with runs := s.setPhase dispositionId run .settled } := by
  refine ⟨h.backed, h.keyed, h.reviewTask, h.oneReview, ?_, h.gateDerived, h.settled⟩
  intro id run' hrun'
  rcases setPhase_cases hrun' with rfl | hold
  · obtain ⟨hmem, hnoted, -⟩ := h.runBacked _ _ hrun
    exact ⟨hmem, hnoted, by simp⟩
  · exact h.runBacked id run' hold

theorem openDisposition (h : Inv s) {dispositionId : Uuid} {challengeId : Option Uuid}
    {body : RecordDispositionRequest} {actorId : Uuid} {t : System}
    (hstep : RiskReview.step s (.openDisposition dispositionId challengeId body actorId) = some t) :
    Inv t := by
  simp only [RiskReview.step] at hstep
  split at hstep
  · rename_i record dispositionType hfree hcheck
    cases hstep
    obtain ⟨hlatest, hnoted, -⟩ := checkDisposition_ok hcheck
    refine ⟨h.backed, h.keyed, h.reviewTask, h.oneReview, ?_, h.gateDerived, h.settled⟩
    intro id run hrun
    rcases update_some_cases hrun with ⟨-, rfl⟩ | ⟨-, hold⟩
    · exact ⟨(AppendLog.mem_of_latest _ _ hlatest).1, hnoted, by simp⟩
    · exact h.runBacked id run hold
  · cases hstep

/-- A recorded disposition contests a severe challenge, which revokes the log, or it leaves a derived
gate derived. -/
theorem recordDisposition (h : Inv s) {dispositionId : Uuid} {now : Timestamp} {t : System}
    (hstep : RiskReview.step s (.recordDisposition dispositionId now) = some t) : Inv t := by
  simp only [RiskReview.step] at hstep
  split at hstep
  · cases hstep
  rename_i run hrun
  split at hstep
  swap
  · cases hstep
  cases hstep
  obtain ⟨hmem, hnoted, -⟩ := h.runBacked _ _ hrun
  have hkeep : ∀ v, FenceEvent.acquire () ∈ fenceLog v s.history → FenceEvent.acquire () ∈
      fenceLog v (if run.contests then .contested run.record.caseVersion :: s.history
        else s.history) := by
    intro v hacquired
    split
    · exact acquire_mem_fenceLog_cons _ hacquired
    · exact hacquired
  refine ⟨h.backed, h.keyed, h.reviewTask, h.oneReview, ?_, ?_, ?_⟩
  · intro id run' hrun'
    rcases setPhase_cases hrun' with rfl | hold
    · exact ⟨hmem, hnoted, by simp⟩
    · obtain ⟨hmem', hnoted', hderived'⟩ := h.runBacked id run' hold
      exact ⟨hmem', hnoted', fun hphase => hkeep _ (hderived' hphase)⟩
  · intro v hg
    exact hkeep v (h.gateDerived v hg)
  · intro v hholder
    by_cases hv : run.record.caseVersion = v
    · subst hv
      cases hcontests : run.contests with
      | true =>
        rw [hcontests, if_pos rfl, fenceLog_contested_self] at hholder
        cases hholder
      | false =>
        rw [hcontests, if_neg Bool.false_ne_true] at hholder
        have hsettled := h.settled _ hholder
        rw [currentG3Status_eq h.oneReview hmem] at hsettled
        rw [@currentG3Status_eq { s.store with
          dispositions := run.row dispositionId now :: s.store.dispositions } _ h.oneReview hmem]
        refine g3Status_record rfl ?_ ?_ hsettled
        · intro hnone
          simp only [DispositionRun.row] at hnone ⊢
          rw [hnoted hnone]
          decide
        · intro id hid hof
          simp only [DispositionRun.row] at hof ⊢
          by_contra hcontinues
          rw [Bool.not_eq_true] at hcontinues
          have hcontested : run.contests = true := by
            simp only [DispositionRun.contests, hof, hcontinues, Option.any_some, hid, decide_true,
              and_self]
          rw [hcontested] at hcontests
          cases hcontests
    · have hquiet : holder (fenceLog v s.history) = some () := by
        split at hholder
        · rwa [fenceLog_contested_of_ne hv, holder_neutral] at hholder
        · exact hholder
      have hsettled := h.settled v hquiet
      unfold RiskReviewStore.currentG3Status at hsettled ⊢
      simp only
      cases hfind : s.store.assessments.find? (·.caseVersion = v) with
      | none =>
        rw [hfind] at hsettled
        exact hsettled
      | some record =>
        rw [hfind] at hsettled
        have hver : record.caseVersion = v := by
          simpa using List.find?_some hfind
        have hne : (run.row dispositionId now).caseVersion ≠ record.caseVersion := by
          rw [hver]
          exact hv
        rw [← hsettled]
        simp only [RiskReviewStore.g3Status, latestDisposition_record_of_ne hne]

/-- The read that derives the gate of a version derives it from the only assessment of that version. -/
theorem readDispositions (h : Inv s) {dispositionId : Uuid} {t : System}
    (hstep : RiskReview.step s (.readDispositions dispositionId) = some t) : Inv t := by
  simp only [RiskReview.step] at hstep
  split at hstep
  · cases hstep
  rename_i run hrun
  split at hstep
  swap
  · cases hstep
  obtain ⟨hmem, hnoted, -⟩ := h.runBacked _ _ hrun
  split at hstep
  · rename_i hderive
    cases hstep
    refine ⟨h.backed, h.keyed, h.reviewTask, h.oneReview, ?_, ?_, ?_⟩
    · intro id run' hrun'
      rcases setPhase_cases hrun' with rfl | hold
      · refine ⟨hmem, hnoted, fun _ => ?_⟩
        rw [fenceLog_derived_self]
        exact List.mem_cons_self
      · obtain ⟨hmem', hnoted', hderived'⟩ := h.runBacked id run' hold
        exact ⟨hmem', hnoted', fun hphase => acquire_mem_fenceLog_cons _ (hderived' hphase)⟩
    · intro v hg
      exact acquire_mem_fenceLog_cons _ (h.gateDerived v hg)
    · intro v hholder
      by_cases hv : run.record.caseVersion = v
      · subst hv
        rw [currentG3Status_eq h.oneReview hmem]
        exact hderive
      · rw [fenceLog_derived_of_ne hv, holder_neutral] at hholder
        exact h.settled v hholder
  · cases hstep
    exact h.settle hrun

theorem satisfyG3 (h : Inv s) {dispositionId : Uuid} {now : Timestamp} {t : System}
    (hstep : RiskReview.step s (.satisfyG3 dispositionId now) = some t) : Inv t := by
  simp only [RiskReview.step] at hstep
  split at hstep
  · cases hstep
  rename_i run hrun
  split at hstep
  swap
  · cases hstep
  rename_i hphase
  cases hstep
  have hacquired := (h.runBacked _ _ hrun).2.2 hphase
  exact (h.ensureGate (some run.actorId) (some (g3DispositionRef run.record)) now
    fun _ => hacquired).settle hrun

theorem reviseMakers (h : Inv s) {dispositionId handoffId : Uuid} {t : System}
    (hstep : RiskReview.step s (.reviseMakers dispositionId handoffId) = some t) : Inv t := by
  simp only [RiskReview.step] at hstep
  split at hstep
  · cases hstep
  split at hstep
  swap
  · cases hstep
  split at hstep
  · rename_i tables hbump
    cases hstep
    obtain ⟨htasks, -, hgates, -, -⟩ := CaseTables.bumpCaseVersion_frame hbump
    exact h.withTables htasks hgates
  · cases hstep

/-- **Every step keeps the invariant.** -/
theorem step (h : Inv s) {q : Request} {t : System} (hstep : RiskReview.step s q = some t) :
    Inv t := by
  cases q with
  | engine =>
    simp only [RiskReview.step, Option.map_eq_some_iff] at hstep
    obtain ⟨_, heng, rfl⟩ := hstep
    exact h.engine heng
  | otherGate caseVersion gateType actorId dispositionRef now =>
    simp only [RiskReview.step] at hstep
    split at hstep
    · cases hstep
    rename_i hother
    cases hstep
    exact h.ensureGate (some actorId) dispositionRef now fun hg3 => absurd hg3 hother
  | persistAssessment => exact h.persistAssessment hstep
  | openDisposition => exact h.openDisposition hstep
  | recordDisposition => exact h.recordDisposition hstep
  | readDispositions => exact h.readDispositions hstep
  | satisfyG3 => exact h.satisfyG3 hstep
  | reviseMakers => exact h.reviseMakers hstep

end Inv

/-! ## Credit Operations starts settled -/

theorem requiredGate_creditOperations :
    ∀ node ∈ DependencyTemplate.canonical.nodes, node.taskType = .creditOperations →
      node.requiredGate = some .g3RiskDisposition := by
  decide

/-- An uncontested step starts Credit Operations settled. -/
theorem Inv.startsSettled {s : System} (h : Inv s) {q : Request}
    (huncontested : SchedulesUncontested s q) : StartsSettled s q := by
  intro t hstep task hnew htype
  rcases tasks_of_step hstep with hsame | ⟨_, rfl, heng⟩
  · obtain ⟨hmem, hfresh⟩ := hnew
    rw [show t.engine.tables.tasks = s.tables.tasks from hsame] at hmem
    exact absurd (List.mem_map_of_mem hmem) hfresh
  obtain ⟨node, hnode, hnodeType, hgate⟩ :=
    h.backed.created_gate heng hnew (by rw [htype]; exact TaskType.noConfusion)
  -- the task is created behind its gate, so the gate was derived
  have hstored := hgate _ (requiredGate_creditOperations node hnode (hnodeType.trans htype))
  have hderived := h.gateDerived _ hstored
  rcases Engine.created_cases heng hnew with hplan | ⟨_, _, _, run, rfl, hrun, hnext, hver⟩
  · rw [htype] at hplan
    cases hplan
  rw [htype] at hnext
  have hquiet := huncontested run hrun hnext
  rw [hver] at hderived ⊢
  exact h.settled _ (holder_eq_some_of_acquire_mem hderived hquiet)

/-- **No contested severe challenge reaches Credit Operations, on uncontested runs.** On every run from
a case whose risk gate is open, if each Credit Operations task is scheduled while no severe challenge of
its version was contested since the last derivation of the gate, then each of them is created only with
the gate derived as satisfied at that moment. -/
theorem creditOperations_settled {s : System} {as : List Request} (hs : Initial s)
    (huncontested : RunMeets step SchedulesUncontested s as) :
    RunMeets step StartsSettled s as :=
  RunMeets.imp_of_invariant (fun hinv hstep => hinv.step hstep)
    (fun hinv huncontested => hinv.startsSettled huncontested) hs.inv huncontested

/-! ## Concrete interleavings -/

section Interleavings

/-- A case at its first version, handed off by intake. -/
def sampleCase : System where
  engine := Engine.handedOff 10 20 21
  store := { assessments := [], dispositions := [] }
  runs := fun _ => none
  history := []

theorem sampleCase_initial : Initial sampleCase where
  gateOpen v hg := by
    obtain ⟨_, hmem, -⟩ := hg
    cases hmem
  keyed := ⟨fun t₁ h₁ => (List.not_mem_nil h₁).elim, fun t h => (List.not_mem_nil h).elim⟩
  noAdvance _ := rfl
  noAssessment := rfl
  noRun _ := rfl
  noHistory := rfl

/-- A whole `AdvanceCase` execution. -/
def advance (executionId : Uuid) (taskIds : List Uuid) : List Request :=
  (Engine.advanceCase executionId taskIds).map .engine

/-- A worker runs a task to its end. -/
def worked (taskId : Uuid) : List Request :=
  [.engine (.workerMoves taskId .running), .engine (.workerMoves taskId .succeeded)]

/-- The makers and the checker run; the checker raises one severe challenge. -/
def reviewed : List Request :=
  advance 100 [201, 202] ++ worked 201 ++ worked 202 ++
    .otherGate 1 .g2GapRequestApproval 30 none 0 :: advance 101 [203] ++
    .engine (.workerMoves 203 .running) :: .persistAssessment 300 203 [(400, .high)] [] 1 ::
    [.engine (.workerMoves 203 .succeeded)]

/-- A reviewer disposes of the challenge. -/
def disposes (dispositionId : Uuid) (body : RecordDispositionRequest) (now : Timestamp) :
    List Request :=
  [.openDisposition dispositionId (some 400) body 31, .recordDisposition dispositionId now,
    .readDispositions dispositionId]

/-- The reviewer takes note of the challenge. -/
def noted : RecordDispositionRequest :=
  ⟨"NOTED", "đã rà soát", by decide +kernel, by decide +kernel⟩

/-- The reviewer escalates the challenge. -/
def escalated : RecordDispositionRequest :=
  ⟨"ESCALATED", "cần cấp trên quyết định", by decide +kernel, by decide +kernel⟩

/-- The escalated challenge is noted at last, and Credit Operations starts. -/
def escalatedThenNoted : List Request :=
  reviewed ++ disposes 500 escalated 2 ++ disposes 501 noted 3 ++ .satisfyG3 501 4 :: advance 102 [204]

theorem escalatedThenNoted_settled : RunMeets step StartsSettled sampleCase escalatedThenNoted :=
  creditOperations_settled sampleCase_initial (by decide +kernel)

/-- The noted challenge is escalated before Credit Operations is scheduled. -/
def notedThenEscalated : List Request :=
  reviewed ++ disposes 500 noted 2 ++ .satisfyG3 500 3 :: disposes 501 escalated 4 ++ advance 102 []

/-- **The promise fails on the code.** The gate stays satisfied, and Credit Operations starts while a
severe challenge is escalated. -/
theorem creditOperations_started_contested :
    Initial sampleCase ∧
    ∃ s, run step sampleCase notedThenEscalated = some s ∧
      ¬ StartsSettled s (.engine (.advanceSchedule 102 204 0)) := by
  refine ⟨sampleCase_initial, ?_⟩
  have hcheck : (run step sampleCase notedThenEscalated).any (fun s =>
      (step s (.engine (.advanceSchedule 102 204 0))).any fun t =>
        t.tables.tasks.any fun task => decide (s.engine.Created t.engine task ∧
          task.taskType = .creditOperations ∧
            s.store.currentG3Status task.caseVersion ≠ .satisfied)) = true := by
    decide +kernel
  obtain ⟨s, hrun, hs⟩ := (Option.any_eq_true _ _).1 hcheck
  obtain ⟨t, hstep, ht⟩ := (Option.any_eq_true _ _).1 hs
  obtain ⟨task, -, htask⟩ := List.any_eq_true.1 ht
  obtain ⟨hnew, htype, hcontested⟩ := of_decide_eq_true htask
  exact ⟨s, hrun, fun hstarts => hcontested (hstarts t hstep task hnew htype)⟩

end Interleavings

end CreditOps.RiskReview
