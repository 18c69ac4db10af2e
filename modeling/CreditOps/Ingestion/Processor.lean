import CreditOps.Ingestion.Extraction

/-!
# The ingestion processor

An attempt of the processor loads the document version and goes through the stages from the first on. A
stage that the version or the task's checkpoint has passed is only read for, the others write their rows
and advance the version in one transaction and save a checkpoint in the next (`advanceAttempt`). Any number
of attempts run beside each other: a task is delivered again while a worker that lost it still runs, and a
worker may stop anywhere (`ingest`).
-/

set_option autoImplicit false

namespace CreditOps.Ingestion

open Transition
open Evidence (DocumentStage)
open Workers (WorkerOutcome)

/-! ## Attempts -/

/-- Reading the private original and validating its bytes. -/
inductive OriginalRead where
  | secured
  | rejected
  | unavailable
deriving DecidableEq

/-- What an attempt gets from outside: the original, what the parser makes of it, and the answers of the
two routes. -/
structure World where
  original : OriginalRead
  parsed : Option ParsedDocument
  extraction : ExtractionAnswer
  embedding : EmbeddingAnswer

/-- Where an attempt stands: before it loads the version, with the checkpoint the worker has read; before the
transaction that leads to a stage; or before the checkpoint of a stage it has led to. -/
inductive Point where
  | load (checkpoint : Option DocumentStage)
  | persist (toStage : DocumentStage)
  | save (stage : DocumentStage)
deriving DecidableEq

/-- One attempt of the processor; `resumeRank` is meant from the load on. -/
structure Attempt where
  world : World
  resumeRank : Nat
  point : Point

/-- The configuration of the processor and the document version it works on. -/
structure Processor (ι : Type) where
  uuid5 : IdName ι → ι
  platform : Platform
  expectedDimension : Option Nat
  documentVersionId : Uuid

section Process

variable {ι : Type} (processor : Processor ι)

/-- The outcomes with which an attempt returns before a stage, whether it resumes behind it or not. -/
def World.refusal (world : World) : DocumentStage → Option WorkerOutcome
  | .securityValidated =>
    match world.original with
    | .secured => none
    | .rejected => some .failedManualReview
    | .unavailable => some .retryWait
  | .parsed =>
    match world.parsed with
    | none => some .failedManualReview
    | some parsed => if parsed.regions = [] then some .failedManualReview else none
  | .registered | .classified | .extracted | .indexed | .readyForOfficerReview => none

/-- The rows of a stage, or the outcome with which it fails. -/
def Processor.writes (world : World) : DocumentStage → Except WorkerOutcome (Contents ι)
  | .parsed =>
    match world.parsed with
    | none => .error .failedManualReview
    | some parsed =>
      .ok { noContents with regions := regionRows processor.uuid5 processor.documentVersionId parsed }
  | .extracted =>
    match world.parsed with
    | none => .error .failedManualReview
    | some parsed =>
      (extract processor.uuid5 processor.documentVersionId processor.platform parsed
        world.extraction).map fun candidates => { noContents with candidates }
  | .indexed =>
    match world.parsed with
    | none => .error .failedManualReview
    | some parsed =>
      (index processor.uuid5 processor.documentVersionId processor.expectedDimension parsed
        world.embedding).map fun passages => { noContents with passages }
  | .registered | .securityValidated | .classified | .readyForOfficerReview => .ok noContents

/-- The stage before. -/
def previous : DocumentStage → DocumentStage
  | .registered | .securityValidated => .registered
  | .parsed => .securityValidated
  | .classified => .parsed
  | .extracted => .classified
  | .indexed => .extracted
  | .readyForOfficerReview => .indexed

/-- How an attempt ends: with an outcome, or with an exception the worker retries on. -/
inductive Result where
  | returned (outcome : WorkerOutcome)
  | raised
deriving DecidableEq

/-- What an attempt does next: it goes on, or ends, with the version as it is then. -/
inductive Progress (ι : Type) where
  | moved (state : DocumentState ι) (attempt : Attempt)
  | ended (state : DocumentState ι) (result : Result)

/-- The version after a step of an attempt. -/
def Progress.document : Progress ι → DocumentState ι
  | .moved state _ | .ended state _ => state

/-- The attempt after a step of it, while it goes on. -/
def Progress.next : Progress ι → Option Attempt
  | .moved _ attempt => some attempt
  | .ended _ _ => none

/-- The attempt goes on after a stage; `READY_FOR_OFFICER_REVIEW` is the last. -/
def Attempt.after (attempt : Attempt) (stage : DocumentStage) (state : DocumentState ι) : Progress ι :=
  match stage.next with
  | some next => .moved state { attempt with point := .persist next }
  | none => .ended state (.returned .succeeded)

variable [DecidableEq ι]

/-- `max(_rank(context.stage), _checkpoint_rank(checkpoint))`; an absent checkpoint counts for nothing. -/
def resumeRank (stage : DocumentStage) (checkpoint : Option DocumentStage) : Nat :=
  max (rank stage) (checkpoint.elim 0 rank)

/-- How an attempt begins: a superseded version ends it, a finished one needs nothing, and behind `INDEXED`
only the last advance is left. -/
def begin (state : DocumentState ι) (world : World) (checkpoint : Option DocumentStage) : Progress ι :=
  let resume := resumeRank state.stage checkpoint
  if state.stale then .ended state (.returned .superseded)
  else if rank .readyForOfficerReview ≤ resume then .ended state (.returned .succeeded)
  else if resume < rank .indexed then .moved state ⟨world, resume, .persist .securityValidated⟩
  else .moved state ⟨world, resume, .persist .readyForOfficerReview⟩

/-- One step of an attempt: `process` and `_run_content_stages` between two transactions. -/
def Processor.advanceAttempt (state : DocumentState ι) (attempt : Attempt) : Progress ι :=
  match attempt.point with
  | .load checkpoint => begin state attempt.world checkpoint
  | .save stage => attempt.after stage { state with checkpoint := some stage }
  | .persist toStage =>
    match attempt.world.refusal toStage with
    | some outcome => .ended state (.returned outcome)
    | none =>
      if attempt.resumeRank < rank toStage then
        match processor.writes attempt.world toStage with
        | .error outcome => .ended state (.returned outcome)
        | .ok writes =>
          match state.persist processor.platform.acceptsVector writes (previous toStage) toStage with
          | none => .ended state .raised
          | some next => .moved next { attempt with point := .save toStage }
      else attempt.after toStage state

/-! ## Deliveries -/

/-- A document version and the attempts that work on it. -/
structure IngestionSystem (ι : Type) where
  document : DocumentState ι
  attempts : Nat → Option Attempt

/-- The version as it was registered, with no attempt yet. -/
def notStarted : IngestionSystem ι where
  document := registered
  attempts _ := none

/-- An event: the task is delivered to a worker, a worker takes a step or stops, the version is
superseded. -/
inductive Event where
  | deliver (worker : Nat) (world : World)
  | work (worker : Nat)
  | stop (worker : Nat)
  | supersede

/-- The system after a step of an attempt. -/
def IngestionSystem.after (ingestion : IngestionSystem ι) (worker : Nat) (progress : Progress ι) :
    IngestionSystem ι where
  document := progress.document
  attempts := Function.update ingestion.attempts worker progress.next

/-- The step function. -/
def Processor.ingest (ingestion : IngestionSystem ι) : Event → Option (IngestionSystem ι)
  | .deliver worker world =>
    if (ingestion.attempts worker).isNone then
      some (ingestion.after worker
        (.moved ingestion.document ⟨world, 0, .load ingestion.document.checkpoint⟩))
    else none
  | .work worker =>
    (ingestion.attempts worker).map fun attempt =>
      ingestion.after worker (processor.advanceAttempt ingestion.document attempt)
  | .stop worker => some { ingestion with attempts := Function.update ingestion.attempts worker none }
  | .supersede => some { ingestion with document := { ingestion.document with stale := true } }

end Process

/-! ## What a step does -/

/-- The transaction of an attempt at a stage succeeds. -/
structure Persists {ι : Type} [DecidableEq ι] (processor : Processor ι) (state : DocumentState ι)
    (attempt : Attempt) (toStage : DocumentStage) (writes : Contents ι) (next : DocumentState ι) :
    Prop where
  point : attempt.point = .persist toStage
  accepted : attempt.world.refusal toStage = none
  ahead : attempt.resumeRank < rank toStage
  written : processor.writes attempt.world toStage = .ok writes
  persisted :
    state.persist processor.platform.acceptsVector writes (previous toStage) toStage = some next

section Steps

variable {ι : Type} {state : DocumentState ι} {attempt next : Attempt} {stage : DocumentStage}

@[simp] theorem Attempt.after_document : (attempt.after stage state).document = state := by
  rw [Attempt.after]
  cases stage.next <;> rfl

theorem Attempt.after_next (h : (attempt.after stage state).next = some next) :
    ∃ toStage, stage.next = some toStage ∧ next = { attempt with point := .persist toStage } := by
  rw [Attempt.after] at h
  cases hnext : stage.next with
  | none =>
    rw [hnext] at h
    cases h
  | some toStage =>
    rw [hnext] at h
    cases h
    exact ⟨toStage, rfl, rfl⟩

theorem begin_cases (state : DocumentState ι) (world : World) (checkpoint : Option DocumentStage) :
    (begin state world checkpoint).document = state ∧
      ∀ next, (begin state world checkpoint).next = some next →
        ∃ toStage, next = ⟨world, resumeRank state.stage checkpoint, .persist toStage⟩ := by
  simp only [begin]
  split_ifs
  · exact ⟨rfl, fun _ h => by cases h⟩
  · exact ⟨rfl, fun _ h => by cases h⟩
  · exact ⟨rfl, fun _ h => by cases h; exact ⟨_, rfl⟩⟩
  · exact ⟨rfl, fun _ h => by cases h; exact ⟨_, rfl⟩⟩

variable {s t : IngestionSystem ι} {event : Event}

theorem attempts_cases {worker other : Nat} {changed : Option Attempt}
    (h : Function.update s.attempts worker changed other = some attempt) :
    changed = some attempt ∨ s.attempts other = some attempt := by
  by_cases hother : other = worker
  · rw [hother, Function.update_self] at h
    exact .inl h
  · rw [Function.update_of_ne hother] at h
    exact .inr h

variable [DecidableEq ι] {processor : Processor ι}

/-- **What an attempt does to the version.** It leaves it alone, saves its checkpoint, or persists a stage. -/
theorem advanceAttempt_document (processor : Processor ι) (state : DocumentState ι) (attempt : Attempt) :
    (processor.advanceAttempt state attempt).document = state ∨
      (∃ stage, attempt.point = .save stage ∧
        (processor.advanceAttempt state attempt).document = { state with checkpoint := some stage }) ∨
      ∃ toStage writes, Persists processor state attempt toStage writes
        (processor.advanceAttempt state attempt).document := by
  rw [Processor.advanceAttempt]
  cases hpoint : attempt.point with
  | load checkpoint => exact .inl (begin_cases state attempt.world checkpoint).1
  | save stage => exact .inr (.inl ⟨stage, rfl, Attempt.after_document⟩)
  | persist toStage =>
    simp only
    cases haccepted : attempt.world.refusal toStage with
    | some => exact .inl rfl
    | none =>
      simp only
      split
      · rename_i hahead
        cases hwritten : processor.writes attempt.world toStage with
        | error => exact .inl rfl
        | ok writes =>
          simp only
          cases hpersist : state.persist processor.platform.acceptsVector writes (previous toStage)
            toStage with
          | none => exact .inl rfl
          | some next =>
            exact .inr (.inr ⟨toStage, writes, ⟨hpoint, haccepted, hahead, hwritten, hpersist⟩⟩)
      · exact .inl Attempt.after_document

/-- **What an attempt does next.** It keeps what it got from outside, and saves a checkpoint only of a stage
it has just persisted. -/
theorem advanceAttempt_next (h : (processor.advanceAttempt state attempt).next = some next) :
    next.world = attempt.world ∧
      ((∃ toStage, next.point = .persist toStage) ∨
        ∃ toStage writes, next.point = .save toStage ∧
          Persists processor state attempt toStage writes
            (processor.advanceAttempt state attempt).document) := by
  have hafter : ∀ {stage : DocumentStage} {state : DocumentState ι},
      (attempt.after stage state).next = some next →
        next.world = attempt.world ∧ ∃ toStage, next.point = .persist toStage := by
    intro stage state hnext
    obtain ⟨toStage, -, rfl⟩ := Attempt.after_next hnext
    exact ⟨rfl, toStage, rfl⟩
  revert h
  rw [Processor.advanceAttempt]
  cases hpoint : attempt.point with
  | load checkpoint =>
    intro h
    obtain ⟨toStage, rfl⟩ := (begin_cases state attempt.world checkpoint).2 next h
    exact ⟨rfl, .inl ⟨toStage, rfl⟩⟩
  | save =>
    intro h
    exact (hafter h).imp_right .inl
  | persist toStage =>
    simp only
    cases haccepted : attempt.world.refusal toStage with
    | some =>
      intro h
      cases h
    | none =>
      simp only
      split
      · rename_i hahead
        cases hwritten : processor.writes attempt.world toStage with
        | error =>
          intro h
          cases h
        | ok writes =>
          simp only
          cases hpersist : state.persist processor.platform.acceptsVector writes (previous toStage)
            toStage with
          | none =>
            intro h
            cases h
          | some persisted =>
            intro h
            cases h
            exact ⟨rfl, .inr ⟨toStage, writes, rfl, ⟨hpoint, haccepted, hahead, hwritten, hpersist⟩⟩⟩
      · intro h
        exact (hafter h).imp_right .inl

/-- An event delivers nothing but a world with the property. -/
def Event.Delivers (W : World → Prop) (event : Event) : Prop :=
  ∀ worker world, event = .deliver worker world → W world

variable {W : World → Prop}

/-- The worlds of running attempts are the ones delivered. -/
theorem worlds_step (hevent : event.Delivers W)
    (hworlds : ∀ worker attempt, s.attempts worker = some attempt → W attempt.world)
    (hstep : processor.ingest s event = some t) :
    ∀ worker attempt, t.attempts worker = some attempt → W attempt.world := by
  cases event with
  | deliver worker world =>
    obtain ⟨-, heq⟩ := Option.ite_none_right_eq_some.1 hstep
    cases heq
    intro other attempt hatt
    rcases attempts_cases hatt with hnew | hold
    · cases hnew
      exact hevent worker world rfl
    · exact hworlds other attempt hold
  | work worker =>
    obtain ⟨attempt, hrunning, rfl⟩ := Option.map_eq_some_iff.1 hstep
    intro other attempt' hatt
    rcases attempts_cases hatt with hnew | hold
    · rw [(advanceAttempt_next hnew).1]
      exact hworlds worker attempt hrunning
    · exact hworlds other attempt' hold
  | stop =>
    cases hstep
    intro other attempt hatt
    rcases attempts_cases hatt with hnew | hold
    · cases hnew
    · exact hworlds other attempt hold
  | supersede =>
    cases hstep
    exact hworlds

/-- **What an event does to the version.** Its stage and its rows stay, or an attempt persists a stage. -/
theorem ingest_document (hstep : processor.ingest s event = some t) :
    (t.document.stage = s.document.stage ∧ t.document.contents = s.document.contents) ∨
      ∃ worker attempt toStage writes, s.attempts worker = some attempt ∧
        Persists processor s.document attempt toStage writes t.document := by
  cases event with
  | deliver =>
    obtain ⟨-, heq⟩ := Option.ite_none_right_eq_some.1 hstep
    cases heq
    exact .inl ⟨rfl, rfl⟩
  | work worker =>
    obtain ⟨attempt, hrunning, rfl⟩ := Option.map_eq_some_iff.1 hstep
    rcases advanceAttempt_document processor s.document attempt with
      hsame | ⟨stage, -, hsaved⟩ | ⟨toStage, writes, hpersists⟩
    · exact .inl ⟨congrArg DocumentState.stage hsame, congrArg DocumentState.contents hsame⟩
    · left
      simp only [IngestionSystem.after, hsaved, and_self]
    · exact .inr ⟨worker, attempt, toStage, writes, hrunning, hpersists⟩
  | stop | supersede =>
    cases hstep
    exact .inl ⟨rfl, rfl⟩

variable {events : List Event}

/-- **The rule for ingestion.** What holds of a registered version and is kept by every stage that an attempt
persists with an allowed world holds of the version in every run. -/
theorem document_invariant {P : DocumentStage → Contents ι → Prop} (hstart : P .registered noContents)
    (hpersist : ∀ {state next : DocumentState ι} {attempt : Attempt} {toStage : DocumentStage} {writes : Contents ι}, P state.stage state.contents → W attempt.world → Persists processor state attempt toStage writes next → P next.stage next.contents)
    (hevts : ∀ event ∈ events, event.Delivers W)
    (hrun : run processor.ingest notStarted events = some s) :
    P s.document.stage s.document.contents := by
  have hkeeps : ∀ {s event t},
      ((∀ worker attempt, s.attempts worker = some attempt → W attempt.world) ∧
        P s.document.stage s.document.contents) → event.Delivers W →
      processor.ingest s event = some t →
      (∀ worker attempt, t.attempts worker = some attempt → W attempt.world) ∧
        P t.document.stage t.document.contents := by
    intro s event t hinv hevent hstep
    refine ⟨worlds_step hevent hinv.1 hstep, ?_⟩
    rcases ingest_document hstep with ⟨hstage, hconts⟩ | ⟨worker, attempt, _, _, hrunning, hp⟩
    · rw [hstage, hconts]
      exact hinv.2
    · exact hpersist hinv.2 (hinv.1 worker attempt hrunning) hp
  have hnone : ∀ worker attempt, (notStarted : IngestionSystem ι).attempts worker = some attempt →
      W attempt.world := by
    intro worker attempt hatt
    cases hatt
  exact (run_invariant_of_allowed hkeeps hevts ⟨hnone, hstart⟩ hrun).2

/-- **The stage of a version never moves backwards.** -/
theorem rank_le_of_step (hstep : processor.ingest s event = some t) :
    rank s.document.stage ≤ rank t.document.stage := by
  rcases ingest_document hstep with ⟨hstage, -⟩ | ⟨_, _, _, _, -, hpersists⟩
  · rw [hstage]
  · exact DocumentState.rank_le_of_persist hpersists.persisted

theorem rank_le_of_run (hrun : run processor.ingest s events = some t) :
    rank s.document.stage ≤ rank t.document.stage := by
  have hkeeps : ∀ {m event n}, rank s.document.stage ≤ rank m.document.stage →
      processor.ingest m event = some n → rank s.document.stage ≤ rank n.document.stage :=
    fun hle hstep => hle.trans (rank_le_of_step hstep)
  exact run_invariant hkeeps le_rfl hrun

/-- The checkpoints an attempt has read or is about to save are of stages the version has reached. -/
def Point.Behind (stage : DocumentStage) : Point → Prop
  | .load checkpoint => ∀ saved, checkpoint = some saved → rank saved ≤ rank stage
  | .persist _ => True
  | .save saved => rank saved ≤ rank stage

theorem Point.Behind.mono {stage stage' : DocumentStage} {point : Point} (h : point.Behind stage)
    (hle : rank stage ≤ rank stage') : point.Behind stage' := by
  cases point with
  | load => exact fun saved hsaved => (h saved hsaved).trans hle
  | persist => trivial
  | save => exact le_trans h hle

/-- **No checkpoint runs ahead of the version.** -/
structure CheckpointBehind (s : IngestionSystem ι) : Prop where
  saved : ∀ stage, s.document.checkpoint = some stage → rank stage ≤ rank s.document.stage
  attempts : ∀ worker attempt, s.attempts worker = some attempt → attempt.point.Behind s.document.stage

theorem CheckpointBehind.step (h : CheckpointBehind s) (hstep : processor.ingest s event = some t) :
    CheckpointBehind t := by
  have hle := rank_le_of_step hstep
  cases event with
  | deliver =>
    obtain ⟨-, heq⟩ := Option.ite_none_right_eq_some.1 hstep
    cases heq
    refine ⟨h.saved, ?_⟩
    intro other attempt hatt
    rcases attempts_cases hatt with hnew | hold
    · cases hnew
      exact h.saved
    · exact h.attempts other attempt hold
  | work worker =>
    obtain ⟨attempt, hrunning, rfl⟩ := Option.map_eq_some_iff.1 hstep
    constructor
    · intro stage hstage
      rcases advanceAttempt_document processor s.document attempt with
        hsame | ⟨saved, hpoint, hsaved⟩ | ⟨toStage, writes, hpersists⟩
      · have hcheckpoint := congrArg DocumentState.checkpoint hsame
        exact (h.saved stage (hcheckpoint.symm.trans hstage)).trans hle
      · have hbehind := h.attempts worker attempt hrunning
        rw [hpoint] at hbehind
        have hcheckpoint := congrArg DocumentState.checkpoint hsaved
        cases hcheckpoint.symm.trans hstage
        exact le_trans hbehind hle
      · obtain ⟨-, -, -, hnext⟩ := DocumentState.persist_eq_some.1 hpersists.persisted
        have hcheckpoint := congrArg DocumentState.checkpoint hnext
        exact (h.saved stage (hcheckpoint.symm.trans hstage)).trans hle
    · intro other attempt' hatt
      rcases attempts_cases hatt with hnew | hold
      · obtain ⟨-, ⟨toStage, hpoint⟩ | ⟨toStage, _, hpoint, hpersists⟩⟩ := advanceAttempt_next hnew
        · rw [hpoint]
          trivial
        · obtain ⟨-, -, -, hnext⟩ := DocumentState.persist_eq_some.1 hpersists.persisted
          rw [hpoint]
          exact le_of_eq (congrArg (fun state : DocumentState ι => rank state.stage) hnext).symm
      · exact (h.attempts other attempt' hold).mono hle
  | stop =>
    cases hstep
    refine ⟨h.saved, ?_⟩
    intro other attempt hatt
    rcases attempts_cases hatt with hnew | hold
    · cases hnew
    · exact h.attempts other attempt hold
  | supersede =>
    cases hstep
    exact ⟨h.saved, h.attempts⟩

theorem checkpointBehind_of_run (hrun : run processor.ingest notStarted events = some s) :
    CheckpointBehind s :=
  run_invariant CheckpointBehind.step
    ⟨fun _ hsaved => (by cases hsaved), fun _ _ hatt => (by cases hatt)⟩ hrun

end Steps

end CreditOps.Ingestion
