import CreditOps.Intake.Completion

/-!
# What the handoff of intake covers

A live handoff lets the case go on, so it should cover the evidence of its case version: every document
version registered is ready for review, and every live candidate has one disposition and is in the handoff
(`Covers`). The validator sees the rows that were read, in statements before the transaction that inserts;
it does not look at the stages of document versions, and nothing keeps a document version from being
registered once the handoff is there (`uncovered`).

Ingestion and review keep a covering handoff covering. All along a run the handoff covers the evidence exactly
when it is inserted while every document version is ready and every live candidate is among those the request
has read, and no document version is registered beside a live handoff (`covers_iff`).
-/

set_option autoImplicit false

namespace CreditOps.Intake

open Transition
open Evidence (DocumentStage)

namespace IntakeTables

/-- Every document version is ready for review. -/
def AllReady (s : IntakeTables) : Prop :=
  ∀ row ∈ s.documents, row.stage = .readyForOfficerReview

/-- The candidate has exactly one disposition. -/
def DisposedOnce (s : IntakeTables) (row : CandidateRow) : Prop :=
  (s.confirmations.countP (·.candidateFactId = row.id)) = 1

/-- The handoff covers the evidence of its case version. -/
structure CoveredBy (s : IntakeTables) (artifact : HandoffArtifact) : Prop where
  ready : s.AllReady
  disposed : ∀ row ∈ s.candidates, row.staleAt = none → s.DisposedOnce row
  contained : ∀ row ∈ s.candidates, row.staleAt = none → s.toCandidate row ∈ artifact.candidates

/-- Every live handoff covers the evidence. -/
def Covers (s : IntakeTables) : Prop :=
  ∀ handoff ∈ s.handoffs, handoff.isLive = true → s.CoveredBy handoff.artifact

/-- The live candidates are among those that were read. -/
def ReadAll (s : IntakeTables) (candidates : List CandidateFact) : Prop :=
  ∀ row ∈ s.candidates, row.staleAt = none → ∃ candidate ∈ candidates, candidate.id = row.id

instance (s : IntakeTables) : Decidable s.AllReady :=
  inferInstanceAs (Decidable (∀ row ∈ s.documents, _))

instance (s : IntakeTables) (candidates : List CandidateFact) : Decidable (s.ReadAll candidates) :=
  inferInstanceAs (Decidable (∀ row ∈ s.candidates, _))

variable {s s' : IntakeTables}

/-! ## What uploads, ingestion and review do to the coverage -/

theorem DisposedOnce.mono {row : CandidateRow} (h : s.DisposedOnce row) (hkeyed : s'.Keyed)
    (hgrows : s.Grows s') : s'.DisposedOnce row := by
  have hle : s'.confirmations.countP (·.candidateFactId = row.id) ≤ 1 := by
    have hcount := List.nodup_iff_count_le_one.1 hkeyed.dispositions row.id
    rwa [List.count, List.countP_map] at hcount
  have hpos : 0 < s'.confirmations.countP (·.candidateFactId = row.id) := by
    have hold : 0 < s.confirmations.countP (·.candidateFactId = row.id) := by
      rw [h]
      exact Nat.one_pos
    obtain ⟨confirmation, hmem, hid⟩ := List.countP_pos_iff.1 hold
    exact List.countP_pos_iff.2 ⟨confirmation, hgrows.confirmations hmem, hid⟩
  exact Nat.le_antisymm hle hpos

/-- A move to a stage leaves ready what is ready. -/
theorem AllReady.advance (h : s.AllReady) {documentVersionId : Uuid} {fromStage toStage : DocumentStage}
    (hstep : s.advanceStage documentVersionId fromStage toStage = some s') :
    toStage = .readyForOfficerReview ∧ s'.AllReady := by
  obtain ⟨hnext, ⟨row, hmem, hrow⟩, rfl⟩ := advanceStage_eq_some hstep
  have hready := h row hmem
  have hto : toStage = .readyForOfficerReview := by
    rcases hrow with hfrom | hto
    · -- nothing leads on from the last stage
      rw [← hfrom, hready] at hnext
      cases hnext
    · exact hto.symm.trans hready
  refine ⟨hto, ?_⟩
  intro after hafter
  obtain ⟨before, hpre, rfl⟩ := List.mem_map.1 hafter
  unfold moved
  split
  · exact hto
  · exact h before hpre

/-- **Ingestion and review keep a covering handoff covering.** -/
theorem CoveredBy.write {artifact : HandoffArtifact} (h : s.CoveredBy artifact) (hkeyed : s.Keyed)
    {e : EvidenceWrite} (hupload : ∀ documentVersionId taskId now, e ≠ .registerUpload documentVersionId
      taskId now) (hwrite : s.write e = some s') : s'.CoveredBy artifact := by
  obtain ⟨hgrows, hkeys⟩ := write_grows hwrite
  have hcand : ∀ row, s'.toCandidate row = s.toCandidate row := by
    intro row
    rw [toCandidate, toCandidate, hgrows.caseId, hgrows.caseVersion]
  cases e with
  | registerUpload documentVersionId taskId now => exact absurd rfl (hupload documentVersionId taskId now)
  | advanceStage =>
    obtain ⟨-, hready⟩ := h.ready.advance hwrite
    obtain ⟨-, -, rfl⟩ := advanceStage_eq_some hwrite
    exact ⟨hready, h.disposed, h.contained⟩
  | persistCandidates documentVersionId candidates now =>
    -- no document version is at a stage that candidates are written from
    have hready : AllReady { s with
        candidates := KeyedTable.addAll CandidateRow.id s.candidates
          (candidates.map (candidateRow documentVersionId now)) } := h.ready
    cases (hready.advance hwrite).1
  | recordConfirmations =>
    obtain ⟨hdocs, hcands, -, -⟩ := recordConfirmations_frame hwrite
    refine ⟨?_, ?_, ?_⟩
    · rw [AllReady, hdocs]
      exact h.ready
    · rw [hcands]
      intro row hmem hlive
      exact (h.disposed row hmem hlive).mono (hkeys hkeyed) hgrows
    · rw [hcands]
      intro row hmem hlive
      rw [hcand]
      exact h.contained row hmem hlive

/-- **What a validated handoff covers.** When every document version is ready and every live candidate was
read, the handoff covers the evidence. -/
theorem coveredBy_of_read (hkeyed : s.Keyed) {artifact : HandoffArtifact}
    (hcheck : checkHandoff artifact = .ok ())
    (hcands : CompletionStage.FromCandidates s artifact.candidates)
    (hconfs : CompletionStage.FromConfirmations s artifact.confirmations)
    (hready : s.AllReady) (hread : s.ReadAll artifact.candidates) : s.CoveredBy artifact := by
  refine ⟨hready, ?_, ?_⟩
  · intro row hmem hlive
    obtain ⟨_, hcand, hid⟩ := hread row hmem hlive
    obtain ⟨confirmation, hconf, hof⟩ := disposed_of_checkHandoff hcheck hcand
    obtain ⟨confirmationRow, hrow, rfl⟩ := hconfs confirmation hconf
    have hle : s.confirmations.countP (·.candidateFactId = row.id) ≤ 1 := by
      have hcount := List.nodup_iff_count_le_one.1 hkeyed.dispositions row.id
      rwa [List.count, List.countP_map] at hcount
    have hpos : 0 < s.confirmations.countP (·.candidateFactId = row.id) :=
      List.countP_pos_iff.2 ⟨confirmationRow, hrow, decide_eq_true (hof.trans hid)⟩
    exact Nat.le_antisymm hle hpos
  · intro row hmem hlive
    obtain ⟨candidate, hcand, hid⟩ := hread row hmem hlive
    obtain ⟨candidateRow, hrow, rfl⟩ := hcands candidate hcand
    -- the candidate that was read is the one of the row
    obtain rfl : candidateRow = row := List.inj_on_of_nodup_map hkeyed.candidates hrow hmem hid
    exact hcand

end IntakeTables

namespace IntakeWorld

/-! ## The promise, and when it is kept -/

/-- The live handoffs of the case version cover its evidence. -/
def Covers (w : IntakeWorld) : Prop :=
  w.tables.Covers

/-- An insert that goes through finds every document version ready, and has read every live candidate. -/
def StageKeepsCovered (w : IntakeWorld) : CompletionStage → Prop
  | .inserting artifact _ =>
    ¬ w.HandoffTaken artifact.id → w.tables.AllReady ∧ w.tables.ReadAll artifact.candidates
  | _ => True

/-- What keeps the handoff covering, step by step. -/
def KeepsCovered (w : IntakeWorld) : IntakeAction → Prop
  | .write (.registerUpload _ _ _) => ¬ w.tables.HasLiveHandoff
  | .advanceCompletion requestId _ _ _ _ =>
    ∀ request ∈ w.requests requestId, w.StageKeepsCovered request.stage
  | .write (.advanceStage _ _ _) | .write (.persistCandidates _ _ _)
  | .write (.recordConfirmations _ _ _ _) | .openCompletion _ _ => True

instance decidableStageKeepsCovered (w : IntakeWorld) : ∀ stage, Decidable (w.StageKeepsCovered stage)
  | .inserting _ _ => inferInstanceAs (Decidable (_ → _))
  | .looking | .readingCandidates | .readingConfirmations _ | .readingFacts _ _ | .readingOpen _ _ _
  | .persisting _ | .auditing _ | .kickingOff _ | .returning _ | .done _ | .failed _ => isTrue trivial

instance decidableKeepsCovered (w : IntakeWorld) : ∀ a, Decidable (w.KeepsCovered a)
  | .write (.registerUpload _ _ _) => inferInstanceAs (Decidable (¬ _))
  | .advanceCompletion _ _ _ _ _ => inferInstanceAs (Decidable (∀ _ ∈ _, _))
  | .write (.advanceStage _ _ _) | .write (.persistCandidates _ _ _)
  | .write (.recordConfirmations _ _ _ _) | .openCompletion _ _ => isTrue trivial

/-- What every reachable state satisfies: the keys are unique, and what requests have read is there. -/
structure Read (w : IntakeWorld) : Prop where
  keyed : w.tables.Keyed
  stages : ∀ id request, w.requests id = some request → request.stage.Sound w.tables

variable {w t : IntakeWorld} {a : IntakeAction} {id newId : Uuid} {request : CompletionRequest}
  {conflictIds gapIds : List Uuid} {now : Timestamp} {stage : CompletionStage}

theorem Initial.read (h : w.Initial) : w.Read where
  keyed := by
    refine ⟨?_, ?_⟩
    · rw [h.noCandidate]
      exact List.nodup_nil
    · rw [h.noConfirmation]
      exact List.nodup_nil
  stages id request hreq := by
    rw [h.noRequest id] at hreq
    cases hreq

theorem Initial.covers (h : w.Initial) : w.Covers := by
  intro handoff _ _
  refine ⟨?_, ?_, ?_⟩
  · intro row hmem
    rw [h.noDocument] at hmem
    cases hmem
  · intro row hmem
    rw [h.noCandidate] at hmem
    cases hmem
  · intro row hmem
    rw [h.noCandidate] at hmem
    cases hmem

theorem Read.update (hw : w.Read) (hsound : request.stage.Sound w.tables) :
    ∀ other otherRequest, Function.update w.requests id (some request) other = some otherRequest →
      otherRequest.stage.Sound w.tables := by
  intro other otherRequest hother
  rcases PartialMap.update_some_cases hother with ⟨-, rfl⟩ | ⟨-, hold⟩
  · exact hsound
  · exact hw.stages other otherRequest hold

/-- **Every step keeps what was read.** -/
theorem Read.step (hw : w.Read) (h : step w a = some t) : t.Read := by
  cases step_cases h with
  | written hwrite =>
    obtain ⟨hgrows, hkeyed⟩ := IntakeTables.write_grows hwrite
    exact ⟨hkeyed hw.keyed, fun id request hreq => (hw.stages id request hreq).mono hgrows⟩
  | opened | audited | kickedOff | returned => exact ⟨hw.keyed, hw.update trivial⟩
  | moved hreq hmoves =>
    exact ⟨hw.keyed, hw.update (hmoves.sound (hw.stages _ _ hreq))⟩
  | inserted =>
    refine ⟨⟨hw.keyed.candidates, hw.keyed.dispositions⟩, ?_⟩
    intro other otherRequest hother
    -- a handoff more changes none of the rows that were read
    rcases PartialMap.update_some_cases hother with ⟨-, rfl⟩ | ⟨-, hold⟩
    · trivial
    · have hsound := hw.stages other otherRequest hold
      revert hsound
      cases otherRequest.stage <;> exact fun hsound => hsound

/-! ## When a step keeps the promise -/

theorem keepsCovered_iff (hreq : w.requests id = some request) :
    w.KeepsCovered (.advanceCompletion id newId conflictIds gapIds now) ↔
      w.StageKeepsCovered request.stage := by
  constructor
  · intro h
    exact h request hreq
  · intro h other hother
    rw [Option.mem_def, hreq, Option.some.injEq] at hother
    rwa [← hother]

theorem Moves.keepsCovered {after : CompletionStage} (h : w.Moves stage after) :
    w.StageKeepsCovered stage := by
  cases stage with
  | inserting artifact sourceTaskId => exact fun hfresh => absurd (h.refused artifact sourceTaskId rfl) hfresh
  | _ => trivial

/-- **An upload** keeps the handoff covering when there is none. -/
theorem covers_registerUpload_iff {documentVersionId taskId : Uuid} {now : Timestamp}
    {tables : IntakeTables} (hwrite : w.tables.registerUpload documentVersionId taskId now = some tables) :
    tables.Covers ↔ ¬ w.tables.HasLiveHandoff := by
  obtain ⟨-, heq⟩ := Option.ite_none_left_eq_some.1 hwrite
  cases heq
  constructor
  · rintro hcovers ⟨handoff, hmem, hlive⟩
    -- the registered version is not ready
    have hready := (hcovers handoff hmem hlive).ready ⟨documentVersionId, .registered, none⟩
      (List.mem_append_right _ (List.mem_singleton_self _))
    cases hready
  · intro hnone handoff hmem hlive
    exact absurd ⟨handoff, hmem, hlive⟩ hnone

/-- **An insert** keeps the handoffs covering when every document version is ready and every live candidate
was read. -/
theorem covers_insert_iff (hw : w.Read) (hP : w.Covers) {artifact : HandoffArtifact} {sourceTaskId : Uuid}
    (hreq : w.requests id = some request) (hstage : request.stage = .inserting artifact sourceTaskId)
    (hfresh : ¬ w.HandoffTaken artifact.id) {row : HandoffRow} (hlive : row.isLive = true)
    (hartifact : row.artifact = artifact) :
    IntakeTables.Covers { w.tables with handoffs := row :: w.tables.handoffs } ↔
      w.KeepsCovered (.advanceCompletion id newId conflictIds gapIds now) := by
  rw [keepsCovered_iff hreq, hstage]
  have hsound := hw.stages id request hreq
  rw [hstage] at hsound
  obtain ⟨hcheck, hcands, hconfs⟩ := hsound
  constructor
  · intro hcovers _
    have hcovered := hcovers row List.mem_cons_self hlive
    rw [hartifact] at hcovered
    refine ⟨hcovered.ready, ?_⟩
    intro candidateRow hmem hcandidateLive
    exact ⟨_, hcovered.contained candidateRow hmem hcandidateLive, rfl⟩
  · intro hkeeps handoff hmem hhandoffLive
    obtain ⟨hready, hread⟩ := hkeeps hfresh
    rcases List.mem_cons.1 hmem with rfl | hold
    · have hcovered := IntakeTables.coveredBy_of_read hw.keyed hcheck hcands hconfs hready hread
      rw [hartifact]
      exact ⟨hcovered.ready, hcovered.disposed, hcovered.contained⟩
    · have hcovered := hP handoff hold hhandoffLive
      exact ⟨hcovered.ready, hcovered.disposed, hcovered.contained⟩

/-- **One step.** It keeps the promise exactly when it meets the condition. -/
theorem covers_step_iff (hw : w.Read) (hP : w.Covers) (h : step w a = some t) :
    t.Covers ↔ w.KeepsCovered a := by
  cases step_cases h with
  | @written e tables hwrite =>
    cases e with
    | registerUpload => exact covers_registerUpload_iff hwrite
    | advanceStage | persistCandidates | recordConfirmations =>
      refine iff_of_true ?_ trivial
      intro handoff hmem hlive
      rw [(IntakeTables.write_grows hwrite).1.handoffs] at hmem
      exact (hP handoff hmem hlive).write hw.keyed (by rintro _ _ _ ⟨⟩) hwrite
  | opened => exact iff_of_true hP trivial
  | moved hreq hmoves => exact iff_of_true hP ((keepsCovered_iff hreq).2 hmoves.keepsCovered)
  | inserted hreq hstage hfresh => exact covers_insert_iff hw hP hreq hstage hfresh rfl rfl
  | audited hreq hstage | kickedOff hreq hstage | returned hreq hstage =>
    exact iff_of_true hP ((keepsCovered_iff hreq).2 (by rw [hstage]; trivial))

/-- **When the handoff covers the evidence.** All along a run from the first upload on, every live handoff
covers the evidence of the case version exactly when every step of the run meets the condition. -/
theorem covers_iff {as : List IntakeAction} (hinit : w.Initial) (hrun : run step w as = some t) :
    AllAlong step Covers w as ↔ RunMeets step KeepsCovered w as := by
  have hkeeps : ∀ {w a t}, Read w → Covers w → step w a = some t → Covers t → Read t := by
    intro w a t hw _ hstep _
    exact hw.step hstep
  have hiff : ∀ {w a t}, Read w → Covers w → step w a = some t → (Covers t ↔ KeepsCovered w a) := by
    intro w a t hw hP hstep
    exact covers_step_iff hw hP hstep
  exact allAlong_iff_runMeets hkeeps hiff hinit.read hinit.covers hrun

/-! ## Runs -/

/-- The upload of document version 5, and its ingestion up to the extraction of one candidate. -/
def extracting : List IntakeAction :=
  [.write (.advanceStage 5 .registered .securityValidated), .write (.advanceStage 5 .securityValidated .parsed),
    .write (.advanceStage 5 .parsed .classified),
    .write (.persistCandidates 5 [⟨30, "company_name", .string "Công ty A", 1 / 2, ⟨1, 0, 0, 1, 1⟩⟩] 20)]

/-- A request that runs from its first look to the insert of the handoff. -/
def handingOff (requestId : Uuid) : List IntakeAction :=
  .openCompletion requestId 7 ::
    List.replicate 7 (.advanceCompletion requestId (100 + requestId) [] [] 50)

/-- Intake is completed right after the upload, and the document version is ingested afterwards. -/
def handedOffEarly : List IntakeAction :=
  .write (.registerUpload 5 6 10) :: handingOff 1 ++ extracting

/-- The handoff is live while the document version is not ready, and the candidate found in it has no
disposition and is not in the handoff. -/
theorem uncovered : beforeUploads.Initial ∧ ∃ w, run step beforeUploads handedOffEarly = some w ∧
    w.tables.HasLiveHandoff ∧ w.tables.documents = [⟨5, .extracted, none⟩] ∧
    w.tables.candidates.map CandidateRow.id = [30] ∧ w.tables.confirmations = [] ∧
    (∀ handoff ∈ w.tables.handoffs, handoff.artifact.candidates = []) ∧ ¬ w.Covers := by
  have hruns : (run step beforeUploads handedOffEarly).any (fun w =>
      w.tables.HasLiveHandoff ∧ w.tables.documents = [⟨5, .extracted, none⟩] ∧
        w.tables.candidates.map CandidateRow.id = [30] ∧ w.tables.confirmations = [] ∧
          ∀ handoff ∈ w.tables.handoffs, handoff.artifact.candidates = []) = true := by
    decide +kernel
  obtain ⟨w, hrun, hw⟩ := (Option.any_eq_true _ _).1 hruns
  obtain ⟨hlive, hdocs, hcands, hconfs, hartifacts⟩ := of_decide_eq_true hw
  refine ⟨initial_beforeUploads, w, hrun, hlive, hdocs, hcands, hconfs, hartifacts, ?_⟩
  intro hcovers
  obtain ⟨handoff, hmem, hhandoff⟩ := hlive
  have hready := (hcovers handoff hmem hhandoff).ready
  rw [IntakeTables.AllReady, hdocs] at hready
  cases hready _ (List.mem_singleton_self _)

/-- The upload is ingested and reviewed before intake is completed. -/
def handedOffInTime : List IntakeAction :=
  .write (.registerUpload 5 6 10) :: extracting ++
    [.write (.advanceStage 5 .extracted .indexed), .write (.advanceStage 5 .indexed .readyForOfficerReview),
      .write (.recordConfirmations 5 7 [⟨40, 41, 30, .corrected (.string "Công ty B")⟩] 30)] ++ handingOff 1

theorem covers_handedOffInTime : AllAlong step Covers beforeUploads handedOffInTime := by
  have hruns : (run step beforeUploads handedOffInTime).isSome = true := by decide +kernel
  obtain ⟨w, hrun⟩ := Option.isSome_iff_exists.1 hruns
  exact (covers_iff initial_beforeUploads hrun).2 (by decide +kernel)

end IntakeWorld

end CreditOps.Intake
