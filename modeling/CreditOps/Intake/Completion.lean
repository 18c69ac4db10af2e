import CreditOps.Intake.Tables

/-!
# Completing intake

Any number of intake-completion requests run beside each other and beside uploads, ingestion and review. A
request looks for a live handoff and returns it; otherwise it reads the evidence, statement by statement,
validates the handoff, looks again inside the transaction that inserts it, writes the audit event and
attempts the kickoff, each in a transaction of its own. A request may stop anywhere: its later steps are
just not taken.
-/

set_option autoImplicit false

namespace CreditOps.Intake

open Transition
open Evidence (DocumentStage)

/-! ## Requests -/

/-- `IntakeCompletionResult`, but for the version and the state, which never differ. -/
structure CompletionResult where
  handoffId : Uuid
  created : Bool
deriving DecidableEq

/-- What ends a request without a result. -/
inductive CompletionError where
  | intakeIncomplete (reason : String)
  | evidenceUnreadable
  | handoffSourceMissing
  | sql (error : SqlError)
deriving DecidableEq

/-- How far a request has come. Behind `readingConfirmations` it holds what its queries have answered,
behind `persisting` the validated handoff, and behind `inserting` it is in the transaction, which has found
no live handoff. -/
inductive CompletionStage where
  | looking
  | readingCandidates
  | readingConfirmations (candidates : List CandidateFact)
  | readingFacts (candidates : List CandidateFact) (confirmations : List FactConfirmation)
  | readingOpen (candidates : List CandidateFact) (confirmations : List FactConfirmation)
      (facts : List ConfirmedFact)
  | persisting (artifact : HandoffArtifact)
  | inserting (artifact : HandoffArtifact) (sourceTaskId : Uuid)
  | auditing (artifact : HandoffArtifact)
  | kickingOff (handoffId : Uuid)
  | returning (result : CompletionResult)
  | done (result : CompletionResult)
  | failed (error : CompletionError)
deriving DecidableEq

/-- One call of `CompleteIntake.execute`. -/
structure CompletionRequest where
  actorId : Uuid
  stage : CompletionStage
deriving DecidableEq

/-- An `INTAKE_HANDOFF_CREATED` row of the audit. -/
structure IntakeAudit where
  actorId : Uuid
  handoffId : Uuid
  confirmedFactCount : Nat
  conflictCount : Nat
  gapCount : Nat
deriving DecidableEq

/-- The tables, the audit, the handoffs a kickoff was attempted for, and the requests. -/
structure IntakeWorld where
  tables : IntakeTables
  audit : List IntakeAudit
  kickoffs : List Uuid
  requests : Uuid → Option CompletionRequest

/-- One step of an interleaving. A request draws a uuid where it validates its handoff, and reads there what
the tables of conflicts and gaps answer. -/
inductive IntakeAction where
  | write (write : EvidenceWrite)
  | openCompletion (requestId actorId : Uuid)
  | advanceCompletion (requestId newId : Uuid) (conflictIds gapIds : List Uuid) (now : Timestamp)

namespace IntakeWorld

/-- Move a request on. -/
def put (w : IntakeWorld) (requestId : Uuid) (request : CompletionRequest) (stage : CompletionStage) :
    IntakeWorld :=
  { w with requests := Function.update w.requests requestId (some { request with stage }) }

/-- The handoff a request validates. -/
def handoffArtifact (w : IntakeWorld) (newId : Uuid) (conflictIds gapIds : List Uuid)
    (candidates : List CandidateFact) (confirmations : List FactConfirmation)
    (facts : List ConfirmedFact) : HandoffArtifact where
  id := newId
  caseId := w.tables.caseId
  caseVersion := w.tables.caseVersion
  candidates
  confirmations
  confirmedFacts := facts
  conflictIds
  gapIds

/-- The row of a handoff. -/
def handoffRow (artifact : HandoffArtifact) (sourceTaskId actorId : Uuid) (now : Timestamp) :
    HandoffRow where
  id := artifact.id
  sourceTaskId
  artifact
  createdById := actorId
  createdAt := now
  staleAt := none

/-- The handoff id is taken. -/
def HandoffTaken (w : IntakeWorld) (handoffId : Uuid) : Prop :=
  ∃ row ∈ w.tables.handoffs, row.id = handoffId

instance (w : IntakeWorld) (handoffId : Uuid) : Decidable (w.HandoffTaken handoffId) :=
  inferInstanceAs (Decidable (∃ row ∈ w.tables.handoffs, _))

/-- The insert and the commit of `persist_handoff`; an id that is taken raises. -/
def insertHandoff (w : IntakeWorld) (requestId : Uuid) (request : CompletionRequest)
    (artifact : HandoffArtifact) (sourceTaskId : Uuid) (now : Timestamp) : IntakeWorld :=
  if w.HandoffTaken artifact.id then
    w.put requestId request (.failed (.sql (.uniqueViolation "handoffs_pkey")))
  else
    { w with
      tables :=
        { w.tables with
          handoffs :=
            handoffRow artifact sourceTaskId request.actorId now :: w.tables.handoffs } }.put
      requestId request (.auditing artifact)

/-- The next step of a request. -/
def advance (w : IntakeWorld) (requestId newId : Uuid) (conflictIds gapIds : List Uuid)
    (now : Timestamp) (request : CompletionRequest) : Option IntakeWorld :=
  match request.stage with
  | .looking =>
    match w.tables.loadCurrentHandoff with
    | some existing => some (w.put requestId request (.returning ⟨existing.id, false⟩))
    | none => some (w.put requestId request .readingCandidates)
  | .readingCandidates =>
    some (w.put requestId request (.readingConfirmations w.tables.readCandidates))
  | .readingConfirmations candidates =>
    some (w.put requestId request (.readingFacts candidates w.tables.readConfirmations))
  | .readingFacts candidates confirmations =>
    match w.tables.readFacts candidates confirmations with
    | none => some (w.put requestId request (.failed .evidenceUnreadable))
    | some facts => some (w.put requestId request (.readingOpen candidates confirmations facts))
  | .readingOpen candidates confirmations facts =>
    let artifact := w.handoffArtifact newId conflictIds gapIds candidates confirmations facts
    match checkHandoff artifact with
    | .error reason => some (w.put requestId request (.failed (.intakeIncomplete reason)))
    | .ok () => some (w.put requestId request (.persisting artifact))
  | .persisting artifact =>
    match w.tables.firstHandoff with
    | some existing => some (w.put requestId request (.returning ⟨existing.id, false⟩))
    | none =>
      match w.tables.sourceTask with
      | none => some (w.put requestId request (.failed .handoffSourceMissing))
      | some task => some (w.put requestId request (.inserting artifact task.id))
  | .inserting artifact sourceTaskId =>
    some (w.insertHandoff requestId request artifact sourceTaskId now)
  | .auditing artifact =>
    some ({ w with
            audit :=
              ⟨request.actorId, artifact.id, artifact.confirmedFacts.length,
                artifact.conflictIds.length, artifact.gapIds.length⟩ :: w.audit }.put
      requestId request (.kickingOff artifact.id))
  | .kickingOff handoffId =>
    some ({ w with kickoffs := handoffId :: w.kickoffs }.put requestId request
      (.returning ⟨handoffId, true⟩))
  | .returning result => some (w.put requestId request (.done result))
  | .done _ | .failed _ => none

/-- The step function. -/
def step (w : IntakeWorld) : IntakeAction → Option IntakeWorld
  | .write write => (w.tables.write write).map fun tables => { w with tables }
  | .openCompletion requestId actorId =>
    match w.requests requestId with
    | some _ => none
    | none =>
      some { w with requests := Function.update w.requests requestId (some ⟨actorId, .looking⟩) }
  | .advanceCompletion requestId newId conflictIds gapIds now =>
    (w.requests requestId).bind (w.advance requestId newId conflictIds gapIds now)

/-- A case version before its evidence. The revision that opened it may have brought one handoff along. -/
structure Initial (w : IntakeWorld) : Prop where
  noDocument : w.tables.documents = []
  noCandidate : w.tables.candidates = []
  noConfirmation : w.tables.confirmations = []
  noFact : w.tables.facts = []
  handoffs : w.tables.handoffs.length ≤ 1
  noAudit : w.audit = []
  noKickoff : w.kickoffs = []
  noRequest : ∀ id, w.requests id = none

/-- A live handoff has the id. -/
def LiveHandoff (w : IntakeWorld) (handoffId : Uuid) : Prop :=
  ∃ row ∈ w.tables.handoffs, row.isLive = true ∧ row.id = handoffId

end IntakeWorld

namespace CompletionStage

/-- The handoff a request has inserted. -/
def inserted : CompletionStage → Option Uuid
  | .auditing artifact => some artifact.id
  | .kickingOff handoffId => some handoffId
  | .returning ⟨handoffId, true⟩ | .done ⟨handoffId, true⟩ => some handoffId
  | .returning ⟨_, false⟩ | .done ⟨_, false⟩ | .looking | .readingCandidates | .readingConfirmations _
  | .readingFacts _ _ | .readingOpen _ _ _ | .persisting _ | .inserting _ _ | .failed _ => none

/-- The handoff a request returns. -/
def returns : CompletionStage → Option Uuid
  | .returning result | .done result => some result.handoffId
  | _ => none

/-- The candidates are those of rows. -/
def FromCandidates (s : IntakeTables) (candidates : List CandidateFact) : Prop :=
  ∀ candidate ∈ candidates, ∃ row ∈ s.candidates, candidate = s.toCandidate row

/-- The confirmations are those of rows. -/
def FromConfirmations (s : IntakeTables) (confirmations : List FactConfirmation) : Prop :=
  ∀ confirmation ∈ confirmations, ∃ row ∈ s.confirmations, confirmation = s.toConfirmation row

/-- What a request has read is in the tables, and what it is about to insert is validated. -/
def Sound (s : IntakeTables) : CompletionStage → Prop
  | .readingConfirmations candidates => FromCandidates s candidates
  | .readingFacts candidates confirmations | .readingOpen candidates confirmations _ =>
    FromCandidates s candidates ∧ FromConfirmations s confirmations
  | .persisting artifact | .inserting artifact _ =>
    checkHandoff artifact = .ok () ∧ FromCandidates s artifact.candidates ∧
      FromConfirmations s artifact.confirmations
  | _ => True

variable {s s' : IntakeTables}

theorem FromCandidates.mono {candidates : List CandidateFact} (h : FromCandidates s candidates)
    (hgrows : s.Grows s') : FromCandidates s' candidates := by
  intro candidate hmem
  obtain ⟨row, hrow, rfl⟩ := h candidate hmem
  refine ⟨row, hgrows.candidates hrow, ?_⟩
  rw [IntakeTables.toCandidate, IntakeTables.toCandidate, hgrows.caseId, hgrows.caseVersion]

theorem FromConfirmations.mono {confirmations : List FactConfirmation}
    (h : FromConfirmations s confirmations) (hgrows : s.Grows s') :
    FromConfirmations s' confirmations := by
  intro confirmation hmem
  obtain ⟨row, hrow, rfl⟩ := h confirmation hmem
  refine ⟨row, hgrows.confirmations hrow, ?_⟩
  rw [IntakeTables.toConfirmation, IntakeTables.toConfirmation, hgrows.caseId, hgrows.caseVersion]

theorem Sound.mono {stage : CompletionStage} (h : stage.Sound s) (hgrows : s.Grows s') :
    stage.Sound s' := by
  cases stage with
  | readingConfirmations => exact FromCandidates.mono h hgrows
  | readingFacts | readingOpen => exact ⟨h.1.mono hgrows, h.2.mono hgrows⟩
  | persisting | inserting => exact ⟨h.1, h.2.1.mono hgrows, h.2.2.mono hgrows⟩
  | _ => trivial

theorem fromCandidates_readCandidates (s : IntakeTables) : FromCandidates s s.readCandidates := by
  intro candidate hmem
  obtain ⟨row, hrow, rfl⟩ := List.mem_map.1 hmem
  have hfiltered := (List.mem_insertionSort _).1 hrow
  exact ⟨row, (List.mem_filter.1 hfiltered).1, rfl⟩

theorem fromConfirmations_readConfirmations (s : IntakeTables) :
    FromConfirmations s s.readConfirmations := by
  intro confirmation hmem
  obtain ⟨row, hrow, rfl⟩ := List.mem_map.1 hmem
  exact ⟨row, (List.mem_insertionSort _).1 hrow, rfl⟩

end CompletionStage

namespace IntakeWorld

/-! ## What a step does -/

variable {w t : IntakeWorld} {a : IntakeAction} {id newId : Uuid} {request : CompletionRequest}
  {conflictIds gapIds : List Uuid} {now : Timestamp}

/-- A request that has inserted nothing goes on to a stage at which it still has not: it reads, validates,
finds a handoff to return, or fails. -/
structure Moves (w : IntakeWorld) (before after : CompletionStage) : Prop where
  insertedNone : before.inserted = none
  insertsNone : after.inserted = none
  unfinished : ∀ result, before ≠ .returning result
  refused : ∀ artifact sourceTaskId, before = .inserting artifact sourceTaskId →
    w.HandoffTaken artifact.id
  goesOn : ∀ result, after ≠ .done result
  returns : ∀ handoffId, after.returns = some handoffId → w.LiveHandoff handoffId
  sound : before.Sound w.tables → after.Sound w.tables

/-- What a step does, with what it has checked. -/
inductive Stepped (w : IntakeWorld) : IntakeAction → IntakeWorld → Prop where
  | written {e : EvidenceWrite} {tables : IntakeTables} (hwrite : w.tables.write e = some tables) :
      Stepped w (.write e) { w with tables }
  | opened {id actorId : Uuid} (hfree : w.requests id = none) :
      Stepped w (.openCompletion id actorId)
        { w with requests := Function.update w.requests id (some ⟨actorId, .looking⟩) }
  | moved {id newId : Uuid} {conflictIds gapIds : List Uuid} {now : Timestamp}
      {request : CompletionRequest} {stage : CompletionStage} (hreq : w.requests id = some request)
      (hmoves : w.Moves request.stage stage) :
      Stepped w (.advanceCompletion id newId conflictIds gapIds now) (w.put id request stage)
  | inserted {id newId : Uuid} {conflictIds gapIds : List Uuid} {now : Timestamp}
      {request : CompletionRequest} {artifact : HandoffArtifact} {sourceTaskId : Uuid}
      (hreq : w.requests id = some request) (hstage : request.stage = .inserting artifact sourceTaskId)
      (hfresh : ¬ w.HandoffTaken artifact.id) :
      Stepped w (.advanceCompletion id newId conflictIds gapIds now)
        ({ w with
          tables :=
            { w.tables with
              handoffs := handoffRow artifact sourceTaskId request.actorId now ::
                w.tables.handoffs } }.put id request (.auditing artifact))
  | audited {id newId : Uuid} {conflictIds gapIds : List Uuid} {now : Timestamp}
      {request : CompletionRequest} {artifact : HandoffArtifact} {event : IntakeAudit}
      (hreq : w.requests id = some request) (hstage : request.stage = .auditing artifact)
      (hevent : event.handoffId = artifact.id) :
      Stepped w (.advanceCompletion id newId conflictIds gapIds now)
        ({ w with audit := event :: w.audit }.put id request (.kickingOff artifact.id))
  | kickedOff {id newId : Uuid} {conflictIds gapIds : List Uuid} {now : Timestamp} {handoffId : Uuid}
      {request : CompletionRequest} (hreq : w.requests id = some request)
      (hstage : request.stage = .kickingOff handoffId) :
      Stepped w (.advanceCompletion id newId conflictIds gapIds now)
        ({ w with kickoffs := handoffId :: w.kickoffs }.put id request (.returning ⟨handoffId, true⟩))
  | returned {id newId : Uuid} {conflictIds gapIds : List Uuid} {now : Timestamp}
      {request : CompletionRequest} {result : CompletionResult}
      (hreq : w.requests id = some request) (hstage : request.stage = .returning result) :
      Stepped w (.advanceCompletion id newId conflictIds gapIds now) (w.put id request (.done result))

theorem liveHandoff_of_current {row : HandoffRow} (h : w.tables.loadCurrentHandoff = some row) :
    w.LiveHandoff row.id := by
  obtain ⟨hmem, hlive⟩ := AppendLog.mem_of_latest _ _ h
  exact ⟨row, hmem, hlive, rfl⟩

theorem liveHandoff_of_first {row : HandoffRow} (h : w.tables.firstHandoff = some row) :
    w.LiveHandoff row.id := by
  have hsort := List.mem_of_head? h
  obtain ⟨hmem, hlive⟩ := List.mem_filter.1 ((List.mem_insertionSort _).1 hsort)
  exact ⟨row, hmem, hlive, rfl⟩

/-- A request that goes on to its next query, or fails. -/
theorem Moves.onward {before after : CompletionStage} (hpre : before.inserted = none)
    (hafter : after.inserted = none) (hreturns : before.returns = none) (hnone : after.returns = none)
    (hinserting : ∀ artifact sourceTaskId, before ≠ .inserting artifact sourceTaskId)
    (hsound : before.Sound w.tables → after.Sound w.tables) : w.Moves before after where
  insertedNone := hpre
  insertsNone := hafter
  unfinished result heq := by
    rw [heq] at hreturns
    cases hreturns
  refused artifact sourceTaskId heq := absurd heq (hinserting artifact sourceTaskId)
  goesOn result heq := by
    rw [heq] at hnone
    cases hnone
  returns handoffId hsome := by
    rw [hnone] at hsome
    cases hsome
  sound := hsound

/-- A request that has found a handoff to return. -/
theorem Moves.found {before : CompletionStage} {handoffId : Uuid} (hpre : before.inserted = none)
    (hreturns : before.returns = none)
    (hinserting : ∀ artifact sourceTaskId, before ≠ .inserting artifact sourceTaskId)
    (hlive : w.LiveHandoff handoffId) : w.Moves before (.returning ⟨handoffId, false⟩) where
  insertedNone := hpre
  insertsNone := rfl
  unfinished result heq := by
    rw [heq] at hreturns
    cases hreturns
  refused artifact sourceTaskId heq := absurd heq (hinserting artifact sourceTaskId)
  goesOn result heq := by cases heq
  returns other hother := by
    cases hother
    exact hlive
  sound _ := trivial

theorem advance_cases (hreq : w.requests id = some request)
    (h : w.advance id newId conflictIds gapIds now request = some t) :
    Stepped w (.advanceCompletion id newId conflictIds gapIds now) t := by
  unfold advance at h
  split at h
  · rename_i hstage
    split at h
    · rename_i existing hexisting
      cases h
      refine .moved hreq ?_
      rw [hstage]
      exact Moves.found rfl rfl (by rintro _ _ ⟨⟩) (liveHandoff_of_current hexisting)
    · cases h
      refine .moved hreq ?_
      rw [hstage]
      exact Moves.onward rfl rfl rfl rfl (by rintro _ _ ⟨⟩) (fun _ => trivial)
  · rename_i hstage
    cases h
    refine .moved hreq ?_
    rw [hstage]
    exact Moves.onward rfl rfl rfl rfl (by rintro _ _ ⟨⟩)
      (fun _ => CompletionStage.fromCandidates_readCandidates w.tables)
  · rename_i candidates hstage
    cases h
    refine .moved hreq ?_
    rw [hstage]
    exact Moves.onward rfl rfl rfl rfl (by rintro _ _ ⟨⟩)
      (fun hsound => ⟨hsound, CompletionStage.fromConfirmations_readConfirmations w.tables⟩)
  · rename_i candidates confirmations hstage
    split at h
    · cases h
      refine .moved hreq ?_
      rw [hstage]
      exact Moves.onward rfl rfl rfl rfl (by rintro _ _ ⟨⟩) (fun _ => trivial)
    · cases h
      refine .moved hreq ?_
      rw [hstage]
      exact Moves.onward rfl rfl rfl rfl (by rintro _ _ ⟨⟩) (fun hsound => hsound)
  · rename_i candidates confirmations facts hstage
    dsimp only at h
    split at h
    · cases h
      refine .moved hreq ?_
      rw [hstage]
      exact Moves.onward rfl rfl rfl rfl (by rintro _ _ ⟨⟩) (fun _ => trivial)
    · rename_i hcheck
      cases h
      refine .moved hreq ?_
      rw [hstage]
      exact Moves.onward rfl rfl rfl rfl (by rintro _ _ ⟨⟩) (fun hsound => ⟨hcheck, hsound⟩)
  · rename_i artifact hstage
    split at h
    · rename_i existing hexisting
      cases h
      refine .moved hreq ?_
      rw [hstage]
      exact Moves.found rfl rfl (by rintro _ _ ⟨⟩) (liveHandoff_of_first hexisting)
    · split at h
      · cases h
        refine .moved hreq ?_
        rw [hstage]
        exact Moves.onward rfl rfl rfl rfl (by rintro _ _ ⟨⟩) (fun _ => trivial)
      · cases h
        refine .moved hreq ?_
        rw [hstage]
        exact Moves.onward rfl rfl rfl rfl (by rintro _ _ ⟨⟩) (fun hsound => hsound)
  · rename_i artifact sourceTaskId hstage
    cases h
    unfold insertHandoff
    split
    · rename_i htaken
      -- the id of the handoff is taken, so the insert raises
      refine .moved hreq ⟨?_, rfl, ?_, ?_, ?_, ?_, fun _ => trivial⟩
      · rw [hstage]
        rfl
      · rw [hstage]
        rintro _ ⟨⟩
      · intro other otherTask heq
        rw [hstage] at heq
        cases heq
        exact htaken
      · rintro _ ⟨⟩
      · rintro _ ⟨⟩
    · rename_i hfresh
      exact .inserted hreq hstage hfresh
  · rename_i artifact hstage
    cases h
    exact .audited hreq hstage rfl
  · rename_i handoffId hstage
    cases h
    exact .kickedOff hreq hstage
  · rename_i result hstage
    cases h
    exact .returned hreq hstage
  · cases h
  · cases h

/-- **What a step does.** -/
theorem step_cases (h : step w a = some t) : Stepped w a t := by
  cases a with
  | write =>
    obtain ⟨_, htabs, rfl⟩ := Option.map_eq_some_iff.1 h
    exact .written htabs
  | openCompletion id actorId =>
    simp only [step] at h
    split at h
    · cases h
    rename_i hfree
    cases h
    exact .opened hfree
  | advanceCompletion =>
    obtain ⟨_, hreq, hadv⟩ := Option.bind_eq_some_iff.1 h
    exact advance_cases hreq hadv

/-- A case version before its first upload. -/
def beforeUploads : IntakeWorld where
  tables := ⟨1, 1, [], [], [], [], [], []⟩
  audit := []
  kickoffs := []
  requests _ := none

theorem initial_beforeUploads : beforeUploads.Initial where
  noDocument := rfl
  noCandidate := rfl
  noConfirmation := rfl
  noFact := rfl
  handoffs := Nat.zero_le 1
  noAudit := rfl
  noKickoff := rfl
  noRequest _ := rfl

end IntakeWorld

end CreditOps.Intake
