import CreditOps.RiskReview.Settlement
import CreditOps.CreditOperations.Satisfaction

/-!
# The last disposition satisfies the gate

Every disposition request reads the dispositions back after its own insert has committed. So once the
latest dispositions of an assessment derive the risk gate, the gate of its version is satisfied or some
request is still between its insert and its end (`Settles`): the request whose insert committed last reads
all of them, whichever of them count as the latest. With no request in flight the gate is satisfied.

Together with the operations gate this is `humanActs_reach_gates`: no human act is lost on the way to its
gate.
-/

set_option autoImplicit false

namespace CreditOps.RiskReview

open Transition PartialMap Orchestration

/-- The request has inserted its disposition and may still satisfy the gate. -/
def DispositionPhase.InFlight : DispositionPhase → Prop
  | .recorded | .derived => True
  | .loaded | .settled => False

/-- Some request about the assessment is in flight. -/
def AssessmentInFlight (s : System) (record : RiskReviewAssessment) : Prop :=
  ∃ id, ∃ run, s.runs id = some run ∧ run.record = record ∧ run.phase.InFlight

/-- A case before its first risk review; a disposition belongs to an assessment, so there is none. -/
structure Undisposed (s : System) : Prop extends Initial s where
  noDisposition : s.store.dispositions = []

/-- The gate of every assessment whose dispositions derive it is satisfied, or a request in flight will
satisfy it. -/
structure Settles (s : System) : Prop extends Inv s where
  disposed : ∀ row ∈ s.store.dispositions, ∃ record ∈ s.store.assessments,
    record.caseVersion = row.caseVersion
  settles : ∀ record ∈ s.store.assessments, s.store.g3Status record = .satisfied →
    s.tables.GateSatisfied record.caseVersion .g3RiskDisposition ∨ AssessmentInFlight s record

theorem Undisposed.settles {s : System} (h : Undisposed s) : Settles s where
  toInv := h.toInitial.inv
  disposed row hmem := by rw [h.noDisposition] at hmem; cases hmem
  settles record hmem := by rw [h.noAssessment] at hmem; cases hmem

/-! ## Requests in flight -/

section Flight

variable {s t : System} {record : RiskReviewAssessment} {dispositionId : Uuid} {run : DispositionRun}
  {phase : DispositionPhase}

/-- A request that goes on in flight leaves the assessment in flight. -/
theorem AssessmentInFlight.goesOn (h : AssessmentInFlight s record)
    (hrun : s.runs dispositionId = some run) (hruns : t.runs = s.setPhase dispositionId run phase)
    (hphase : phase.InFlight) : AssessmentInFlight t record := by
  obtain ⟨id, other, hother, hrec, hflight⟩ := h
  by_cases hid : id = dispositionId
  · subst hid
    rw [hrun, Option.some.injEq] at hother
    subst hother
    refine ⟨id, { run with phase }, ?_, hrec, hphase⟩
    rw [hruns]
    exact Function.update_self ..
  · refine ⟨id, other, ?_, hrec, hflight⟩
    rw [hruns]
    exact (Function.update_of_ne hid _ _).trans hother

theorem AssessmentInFlight.of_other (h : AssessmentInFlight s record)
    (hrun : s.runs dispositionId = some run) (hruns : t.runs = s.setPhase dispositionId run phase)
    (hnot : ¬ (run.record = record ∧ run.phase.InFlight)) : AssessmentInFlight t record := by
  obtain ⟨id, hflight⟩ := h
  refine ⟨id, ?_⟩
  rw [hruns]
  exact update_keeps hrun hnot hflight

end Flight

namespace Settles

variable {s t : System} {q : Request}

theorem gates_step (h : Settles s) (hinv : Inv t) (hstore : t.store = s.store) (hruns : t.runs = s.runs)
    (hgate : ∀ v, s.tables.GateSatisfied v .g3RiskDisposition →
      t.tables.GateSatisfied v .g3RiskDisposition) : Settles t := by
  refine ⟨hinv, ?_, ?_⟩
  · rw [hstore]
    exact h.disposed
  · intro record hmem hstat
    rw [hstore] at hmem hstat
    refine (h.settles record hmem hstat).imp (hgate _) ?_
    rintro ⟨id, run, hrun, hrest⟩
    exact ⟨id, run, hruns ▸ hrun, hrest⟩

variable {now : Timestamp}

/-- A new assessment has no disposition, so it derives nothing. -/
theorem persistAssessment (h : Settles s) {assessmentId taskId : Uuid}
    {challenges : List (Uuid × ChallengeSeverity)} {gaps : List FoundGap}
    (hstep : RiskReview.persistAssessment s assessmentId taskId challenges gaps now = some t) :
    Settles t := by
  have hinv := h.toInv.persistAssessment hstep
  unfold RiskReview.persistAssessment at hstep
  split at hstep
  · cases hstep
  rename_i task hfind
  split at hstep
  · cases hstep
    exact h
  · split at hstep
    · cases hstep
      refine ⟨hinv, ?_, ?_⟩
      · intro row hrow
        obtain ⟨record, hrec, hver⟩ := h.disposed row hrow
        exact ⟨record, List.mem_cons_of_mem _ hrec, hver⟩
      · intro record hrec hstat
        rcases List.mem_cons.1 hrec with rfl | hold
        · -- a disposition of this version would belong to another assessment of it
          obtain ⟨row, hrow, hver, -⟩ := riskGate_backed _ _ hstat
          obtain ⟨other, hother, hsame⟩ := h.disposed row hrow
          have hfirst := hinv.oneReview _ List.mem_cons_self _ (List.mem_cons_of_mem _ hother)
            (hver.symm.trans hsame.symm)
          have hdone : (s.store.assessments.any fun record =>
              record.caseVersion = task.caseVersion ∧ record.taskId = taskId) = true := by
            refine List.any_eq_true.2 ⟨other, hother, ?_⟩
            rw [← hfirst]
            exact decide_eq_true ⟨rfl, rfl⟩
          contradiction
        · exact h.settles record hold hstat
    · cases hstep

variable {dispositionId : Uuid}

theorem openDisposition (h : Settles s) {challengeId : Option Uuid} {body : RecordDispositionRequest}
    {actorId : Uuid}
    (hstep : RiskReview.step s (.openDisposition dispositionId challengeId body actorId) = some t) :
    Settles t := by
  have hinv := h.toInv.openDisposition hstep
  simp only [RiskReview.step] at hstep
  split at hstep
  · rename_i record dispositionType hfree hcheck
    cases hstep
    refine ⟨hinv, h.disposed, fun record hmem hstat => (h.settles record hmem hstat).imp_right ?_⟩
    rintro ⟨id, run, hrun, hrest⟩
    exact ⟨id, run, update_of_free hfree hrun, hrest⟩
  · cases hstep

/-- **The last disposition.** A new disposition changes the derivation of its own assessment at most, and
puts that one in flight. -/
theorem recordDisposition (h : Settles s)
    (hstep : RiskReview.step s (.recordDisposition dispositionId now) = some t) : Settles t := by
  have hinv := h.toInv.recordDisposition hstep
  simp only [RiskReview.step] at hstep
  split at hstep
  · cases hstep
  rename_i run hrun
  split at hstep
  swap
  · cases hstep
  rename_i hphase
  cases hstep
  have hrec := (h.runBacked _ _ hrun).1
  refine ⟨hinv, ?_, ?_⟩
  · intro row hrow
    rcases List.mem_cons.1 hrow with rfl | hold
    · exact ⟨run.record, hrec, rfl⟩
    · exact h.disposed row hold
  · intro record hmem hstat
    by_cases hsame : run.record = record
    · right
      rw [← hsame]
      exact ⟨dispositionId, { run with phase := .recorded }, Function.update_self .., rfl, trivial⟩
    · -- the assessments are of different versions, so nothing changes for the other one
      have hver : (run.row dispositionId now).caseVersion ≠ record.caseVersion :=
        fun hver => hsame (h.oneReview _ hrec _ hmem hver)
      have hold : s.store.g3Status record = .satisfied := by
        rw [← hstat]
        simp only [RiskReviewStore.g3Status, latestDisposition_record_of_ne hver]
      rcases h.settles record hmem hold with hgate | hflight
      · exact Or.inl hgate
      · refine Or.inr (hflight.of_other hrun rfl ?_)
        rintro ⟨hof, -⟩
        exact hsame hof

theorem readDispositions (h : Settles s)
    (hstep : RiskReview.step s (.readDispositions dispositionId) = some t) : Settles t := by
  have hinv := h.toInv.readDispositions hstep
  simp only [RiskReview.step] at hstep
  split at hstep
  · cases hstep
  rename_i run hrun
  split at hstep
  swap
  · cases hstep
  split at hstep
  · cases hstep
    refine ⟨hinv, h.disposed, fun record hmem hstat => (h.settles record hmem hstat).imp_right ?_⟩
    exact fun hflight => hflight.goesOn hrun rfl trivial
  · rename_i hopened
    cases hstep
    refine ⟨hinv, h.disposed, fun record hmem hstat => (h.settles record hmem hstat).imp_right ?_⟩
    intro hflight
    refine hflight.of_other hrun rfl ?_
    -- a request that ends without the gate has read a derivation that fails
    rintro ⟨hsame, -⟩
    rw [hsame] at hopened
    cases hopened.symm.trans hstat

theorem satisfyG3 (h : Settles s) (hstep : RiskReview.step s (.satisfyG3 dispositionId now) = some t) :
    Settles t := by
  have hinv := h.toInv.satisfyG3 hstep
  simp only [RiskReview.step] at hstep
  split at hstep
  · cases hstep
  rename_i run hrun
  split at hstep
  swap
  · cases hstep
  cases hstep
  refine ⟨hinv, h.disposed, fun record hmem hstat => ?_⟩
  by_cases hsame : run.record = record
  · left
    rw [← hsame]
    exact CaseTables.gateSatisfied_ensureGate_self ..
  · rcases h.settles record hmem hstat with hgate | hflight
    · exact Or.inl (CaseTables.gateSatisfied_ensureGate_of hgate)
    · refine Or.inr (hflight.of_other hrun rfl ?_)
      rintro ⟨hof, -⟩
      exact hsame hof

/-- **Every step settles.** -/
theorem step (h : Settles s) (hstep : RiskReview.step s q = some t) : Settles t := by
  have hinv := h.toInv.step hstep
  cases q with
  | engine =>
    simp only [RiskReview.step, Option.map_eq_some_iff] at hstep
    obtain ⟨_, heng, rfl⟩ := hstep
    exact h.gates_step hinv rfl rfl fun _ hgate => Engine.gateSatisfied_step heng hgate
  | otherGate =>
    simp only [RiskReview.step] at hstep
    split at hstep
    · cases hstep
    cases hstep
    exact h.gates_step hinv rfl rfl fun _ hgate => CaseTables.gateSatisfied_ensureGate_of hgate
  | persistAssessment => exact h.persistAssessment hstep
  | openDisposition => exact h.openDisposition hstep
  | recordDisposition => exact h.recordDisposition hstep
  | readDispositions => exact h.readDispositions hstep
  | satisfyG3 => exact h.satisfyG3 hstep
  | reviseMakers dispositionId handoffId =>
    simp only [RiskReview.step] at hstep
    split at hstep
    · cases hstep
    split at hstep
    swap
    · cases hstep
    split at hstep
    · rename_i tables hbump
      cases hstep
      refine h.gates_step hinv rfl rfl fun v hgate => ?_
      obtain ⟨-, -, hgates, -, -⟩ := CaseTables.bumpCaseVersion_frame hbump
      obtain ⟨gate, hmem, hrest⟩ := hgate
      exact ⟨gate, hgates ▸ hmem, hrest⟩
    · cases hstep

end Settles

/-- **No human act is lost on the way to a gate.** In every state of every run, a stored package all of whose
actions are authorized has its operations gate satisfied, and an assessment whose latest dispositions derive
the risk gate has that gate satisfied, as soon as no request about it is in flight. -/
theorem humanActs_reach_gates :
    (∀ (s t : CreditOperations.System) (as : List CreditOperations.Request),
      CreditOperations.Initial s → run CreditOperations.step s as = some t →
        ∀ row ∈ t.store.packages, ¬ CreditOperations.PackageInFlight t row.package →
          (∀ id ∈ row.package.actionIds, id ∈ t.store.authorizedActionIds row.package.id) →
            t.tables.GateSatisfied row.package.caseVersion .g4OpsAuthorization) ∧
    (∀ (s t : System) (as : List Request), Undisposed s → run step s as = some t →
      ∀ record ∈ t.store.assessments, ¬ AssessmentInFlight t record →
        t.store.g3Status record = .satisfied →
          t.tables.GateSatisfied record.caseVersion .g3RiskDisposition) := by
  constructor
  · intro s t as hinit hrun row hmem hended hall
    exact CreditOperations.operationsGate_settled hinit hrun hmem hall hended
  · intro s t as hinit hrun record hmem hended hstat
    have hsettles := run_invariant Settles.step hinit.settles hrun
    exact (hsettles.settles record hmem hstat).resolve_right hended

end CreditOps.RiskReview
