import CreditOps.Intake.Completion

/-!
# Intake completion happens once

No key of the table of handoffs backs the second look of a request, and a repeated request skips the audit
event and the kickoff whether or not the request that inserted the handoff has come to them. So two requests
may each insert a handoff, and after a crash a request may return a handoff that was never audited and for
which no kickoff was attempted (`completed_twice_unaudited`).

Intake completion happens once, all along a run, exactly when a handoff is inserted while there is no live
one and a repeated request returns only after the request that inserted the handoff has attempted its kickoff
(`completesOnce_iff`).
-/

set_option autoImplicit false

namespace CreditOps.Intake

open Transition

namespace CompletionStage

/-- The handoff a request has audited. -/
def audited : CompletionStage → Option Uuid
  | .auditing _ => none
  | stage => stage.inserted

/-- The handoff a request has attempted the kickoff for. -/
def kickedOff : CompletionStage → Option Uuid
  | .auditing _ | .kickingOff _ => none
  | stage => stage.inserted

variable {stage : CompletionStage} {handoffId : Uuid}

theorem audited_of_kickedOff (h : stage.kickedOff = some handoffId) :
    stage.audited = some handoffId := by
  cases stage with
  | auditing | kickingOff => cases h
  | _ => exact h

theorem inserted_of_audited (h : stage.audited = some handoffId) : stage.inserted = some handoffId := by
  cases stage with
  | auditing => cases h
  | _ => exact h

theorem audited_of_not_inserted (h : stage.inserted = none) :
    stage.audited = none := by
  cases haudited : stage.audited with
  | none => rfl
  | some =>
    rw [inserted_of_audited haudited] at h
    cases h

theorem kickedOff_of_not_inserted (h : stage.inserted = none) :
    stage.kickedOff = none := by
  cases hkicked : stage.kickedOff with
  | none => rfl
  | some =>
    rw [inserted_of_audited (audited_of_kickedOff hkicked)] at h
    cases h

end CompletionStage

namespace IntakeWorld

/-! ## The promise, and when it is kept -/

/-- The audit events of a handoff. -/
def auditCount (w : IntakeWorld) (handoffId : Uuid) : Nat :=
  w.audit.countP (·.handoffId = handoffId)

/-- There is at most one live handoff, and what a finished request has returned is its id; it has one audit
event, and a kickoff was attempted for it. -/
structure CompletesOnce (w : IntakeWorld) : Prop where
  one : (w.tables.handoffs.filter HandoffRow.isLive).length ≤ 1
  returned : ∀ id request result, w.requests id = some request → request.stage = .done result →
    w.LiveHandoff result.handoffId ∧ w.auditCount result.handoffId = 1 ∧
      result.handoffId ∈ w.kickoffs

/-- An insert that goes through finds no live handoff, and a repeated request returns a handoff whose
request has attempted the kickoff. -/
def StageKeepsOnce (w : IntakeWorld) : CompletionStage → Prop
  | .inserting artifact _ => ¬ w.HandoffTaken artifact.id → ¬ w.tables.HasLiveHandoff
  | .returning ⟨handoffId, false⟩ =>
    ∃ creator request, w.requests creator = some request ∧ request.stage.kickedOff = some handoffId
  | _ => True

/-- What keeps the promise, step by step. -/
def KeepsOnce (w : IntakeWorld) : IntakeAction → Prop
  | .advanceCompletion requestId _ _ _ _ =>
    ∀ request ∈ w.requests requestId, w.StageKeepsOnce request.stage
  | .write _ | .openCompletion _ _ => True

/-! ## What a reachable state looks like -/

/-- What every reachable state satisfies. -/
structure Once (w : IntakeWorld) : Prop where
  inserted : ∀ id request handoffId, w.requests id = some request →
    request.stage.inserted = some handoffId → w.LiveHandoff handoffId
  apart : ∀ id request id' request' handoffId, w.requests id = some request →
    w.requests id' = some request' → request.stage.inserted = some handoffId →
      request'.stage.inserted = some handoffId → id = id'
  audited : ∀ id request handoffId, w.requests id = some request →
    request.stage.audited = some handoffId → w.auditCount handoffId = 1
  unaudited : ∀ id request artifact, w.requests id = some request →
    request.stage = .auditing artifact → w.auditCount artifact.id = 0
  fresh : ∀ handoffId, ¬ w.HandoffTaken handoffId → w.auditCount handoffId = 0
  kickedOff : ∀ id request handoffId, w.requests id = some request →
    request.stage.kickedOff = some handoffId → handoffId ∈ w.kickoffs
  kicker : ∀ handoffId ∈ w.kickoffs, ∃ id request, w.requests id = some request ∧
    request.stage.kickedOff = some handoffId
  returns : ∀ id request handoffId, w.requests id = some request →
    request.stage.returns = some handoffId → w.LiveHandoff handoffId

variable {w t : IntakeWorld} {a : IntakeAction} {id newId : Uuid} {request : CompletionRequest}
  {conflictIds gapIds : List Uuid} {now : Timestamp} {stage : CompletionStage}

theorem Initial.once (h : w.Initial) : w.Once := by
  have hnone : ∀ id request, w.requests id ≠ some request := by
    intro id request hreq
    rw [h.noRequest id] at hreq
    cases hreq
  refine ⟨?_, ?_, ?_, ?_, ?_, ?_, ?_, ?_⟩
  · intro id request handoffId hreq
    exact absurd hreq (hnone id request)
  · intro id request id' request' handoffId hreq
    exact absurd hreq (hnone id request)
  · intro id request handoffId hreq
    exact absurd hreq (hnone id request)
  · intro id request artifact hreq
    exact absurd hreq (hnone id request)
  · intro handoffId _
    rw [auditCount, h.noAudit, List.countP_nil]
  · intro id request handoffId hreq
    exact absurd hreq (hnone id request)
  · intro handoffId hmem
    rw [h.noKickoff] at hmem
    cases hmem
  · intro id request handoffId hreq
    exact absurd hreq (hnone id request)

theorem Initial.completesOnce (h : w.Initial) : w.CompletesOnce where
  one := (List.length_filter_le _ _).trans h.handoffs
  returned id request result hreq := by
    rw [h.noRequest id] at hreq
    cases hreq

/-- **A request that inserts nothing** keeps the state in order. -/
theorem Once.quiet (hw : w.Once) (hpre : ∀ before, w.requests id = some before →
    before.stage.inserted = none) (hafter : request.stage.inserted = none)
    (hreturns : ∀ handoffId, request.stage.returns = some handoffId → w.LiveHandoff handoffId) :
    ({ w with requests := Function.update w.requests id (some request) } : IntakeWorld).Once := by
  refine ⟨?_, ?_, ?_, ?_, hw.fresh, ?_, ?_, ?_⟩
  · intro other otherRequest handoffId hother hinserted
    rcases PartialMap.update_some_cases hother with ⟨-, rfl⟩ | ⟨-, hold⟩
    · rw [hafter] at hinserted
      cases hinserted
    · exact hw.inserted other otherRequest handoffId hold hinserted
  · intro one oneRequest two twoRequest handoffId hone htwo hinserted hinserted'
    rcases PartialMap.update_some_cases hone with ⟨-, rfl⟩ | ⟨-, hold⟩
    · rw [hafter] at hinserted
      cases hinserted
    · rcases PartialMap.update_some_cases htwo with ⟨-, rfl⟩ | ⟨-, hold'⟩
      · rw [hafter] at hinserted'
        cases hinserted'
      · exact hw.apart one oneRequest two twoRequest handoffId hold hold' hinserted hinserted'
  · intro other otherRequest handoffId hother haudited
    rcases PartialMap.update_some_cases hother with ⟨-, rfl⟩ | ⟨-, hold⟩
    · rw [CompletionStage.audited_of_not_inserted hafter] at haudited
      cases haudited
    · exact hw.audited other otherRequest handoffId hold haudited
  · intro other otherRequest artifact hother hstage
    rcases PartialMap.update_some_cases hother with ⟨-, rfl⟩ | ⟨-, hold⟩
    · rw [hstage] at hafter
      cases hafter
    · exact hw.unaudited other otherRequest artifact hold hstage
  · intro other otherRequest handoffId hother hkicked
    rcases PartialMap.update_some_cases hother with ⟨-, rfl⟩ | ⟨-, hold⟩
    · rw [CompletionStage.kickedOff_of_not_inserted hafter] at hkicked
      cases hkicked
    · exact hw.kickedOff other otherRequest handoffId hold hkicked
  · intro handoffId hmem
    obtain ⟨kicker, kickerRequest, hkicker, hkicked⟩ := hw.kicker handoffId hmem
    refine ⟨kicker, kickerRequest, ?_, hkicked⟩
    -- the request that moves is not the one that has kicked off
    have hne : kicker ≠ id := by
      rintro rfl
      rw [CompletionStage.kickedOff_of_not_inserted (hpre kickerRequest hkicker)] at hkicked
      cases hkicked
    exact (Function.update_of_ne hne _ _).trans hkicker
  · intro other otherRequest handoffId hother hsome
    rcases PartialMap.update_some_cases hother with ⟨-, rfl⟩ | ⟨-, hold⟩
    · exact hreturns handoffId hsome
    · exact hw.returns other otherRequest handoffId hold hsome

variable {handoffId sourceTaskId : Uuid}

theorem LiveHandoff.taken (h : w.LiveHandoff handoffId) :
    w.HandoffTaken handoffId := by
  obtain ⟨row, hmem, -, hid⟩ := h
  exact ⟨row, hmem, hid⟩

theorem exists_inserted_put (hreq : w.requests id = some request)
    (hsame : stage.inserted = request.stage.inserted) {other : Uuid} {otherRequest : CompletionRequest}
    (hother : (w.put id request stage).requests other = some otherRequest) :
    ∃ old, w.requests other = some old ∧ otherRequest.stage.inserted = old.stage.inserted := by
  rcases PartialMap.update_some_cases hother with ⟨rfl, rfl⟩ | ⟨-, hold⟩
  · exact ⟨request, hreq, hsame⟩
  · exact ⟨otherRequest, hold, rfl⟩

theorem Once.apart_put (hw : w.Once) (hreq : w.requests id = some request)
    (hsame : stage.inserted = request.stage.inserted) :
    ∀ one oneRequest two twoRequest handoffId, (w.put id request stage).requests one = some oneRequest →
      (w.put id request stage).requests two = some twoRequest →
        oneRequest.stage.inserted = some handoffId → twoRequest.stage.inserted = some handoffId →
          one = two := by
  intro one oneRequest two twoRequest handoffId hone htwo hinserted hinserted'
  obtain ⟨old, hold, heq⟩ := exists_inserted_put hreq hsame hone
  obtain ⟨old', hold', heq'⟩ := exists_inserted_put hreq hsame htwo
  exact hw.apart one old two old' handoffId hold hold' (heq.symm.trans hinserted)
    (heq'.symm.trans hinserted')

theorem Once.inserted_put (hw : w.Once) (hreq : w.requests id = some request)
    (hsame : stage.inserted = request.stage.inserted) :
    ∀ other otherRequest handoffId, (w.put id request stage).requests other = some otherRequest →
      otherRequest.stage.inserted = some handoffId → w.LiveHandoff handoffId := by
  intro other otherRequest handoffId hother hinserted
  obtain ⟨old, hold, heq⟩ := exists_inserted_put hreq hsame hother
  exact hw.inserted other old handoffId hold (heq.symm.trans hinserted)

theorem Once.kicker_put (hw : w.Once) (hreq : w.requests id = some request)
    (hnone : request.stage.kickedOff = none) (hmem : handoffId ∈ w.kickoffs) :
    ∃ other otherRequest, (w.put id request stage).requests other = some otherRequest ∧
      otherRequest.stage.kickedOff = some handoffId := by
  obtain ⟨kicker, kickerRequest, hkicker, hkicked⟩ := hw.kicker handoffId hmem
  have hne : kicker ≠ id := by
    rintro rfl
    obtain rfl : request = kickerRequest := Option.some.inj (hreq.symm.trans hkicker)
    rw [hnone] at hkicked
    cases hkicked
  exact ⟨kicker, kickerRequest, (Function.update_of_ne hne _ _).trans hkicker, hkicked⟩

variable {artifact : HandoffArtifact}

/-- **The insert of a handoff.** -/
theorem Once.insert (hw : w.Once) (hreq : w.requests id = some request)
    (hstage : request.stage = .inserting artifact sourceTaskId) (hfresh : ¬ w.HandoffTaken artifact.id)
    (row : HandoffRow) (hlive : row.isLive = true) (hid : row.id = artifact.id) :
    ({ w with tables := { w.tables with handoffs := row :: w.tables.handoffs } }.put id request
      (.auditing artifact)).Once := by
  have hmono : ∀ {handoffId}, w.LiveHandoff handoffId →
      ({ w with tables := { w.tables with handoffs := row :: w.tables.handoffs } }.put id request
        (.auditing artifact)).LiveHandoff handoffId := by
    rintro _ ⟨old, hmem, hold⟩
    exact ⟨old, List.mem_cons_of_mem _ hmem, hold⟩
  refine ⟨?_, ?_, ?_, ?_, ?_, ?_, ?_, ?_⟩
  · intro other otherRequest handoffId hother hinserted
    rcases PartialMap.update_some_cases hother with ⟨-, rfl⟩ | ⟨-, hold⟩
    · cases hinserted
      exact ⟨row, List.mem_cons_self, hlive, hid⟩
    · exact hmono (hw.inserted other otherRequest handoffId hold hinserted)
  · -- nobody has inserted a handoff with the new id
    have hnobody : ∀ other otherRequest, w.requests other = some otherRequest →
        otherRequest.stage.inserted ≠ some artifact.id := by
      intro other otherRequest hother hinserted
      exact hfresh (hw.inserted other otherRequest artifact.id hother hinserted).taken
    intro one oneRequest two twoRequest handoffId hone htwo hinserted hinserted'
    rcases PartialMap.update_some_cases hone with ⟨rfl, rfl⟩ | ⟨-, hold⟩
    · rcases PartialMap.update_some_cases htwo with ⟨rfl, rfl⟩ | ⟨-, hold'⟩
      · rfl
      · cases hinserted
        exact absurd hinserted' (hnobody two twoRequest hold')
    · rcases PartialMap.update_some_cases htwo with ⟨rfl, rfl⟩ | ⟨-, hold'⟩
      · cases hinserted'
        exact absurd hinserted (hnobody one oneRequest hold)
      · exact hw.apart one oneRequest two twoRequest handoffId hold hold' hinserted hinserted'
  · intro other otherRequest handoffId hother haudited
    rcases PartialMap.update_some_cases hother with ⟨-, rfl⟩ | ⟨-, hold⟩
    · cases haudited
    · exact hw.audited other otherRequest handoffId hold haudited
  · intro other otherRequest otherArtifact hother hauditing
    rcases PartialMap.update_some_cases hother with ⟨-, rfl⟩ | ⟨-, hold⟩
    · cases hauditing
      exact hw.fresh artifact.id hfresh
    · exact hw.unaudited other otherRequest otherArtifact hold hauditing
  · intro handoffId hnot
    refine hw.fresh handoffId ?_
    rintro ⟨old, hmem, hold⟩
    exact hnot ⟨old, List.mem_cons_of_mem _ hmem, hold⟩
  · intro other otherRequest handoffId hother hkicked
    rcases PartialMap.update_some_cases hother with ⟨-, rfl⟩ | ⟨-, hold⟩
    · cases hkicked
    · exact hw.kickedOff other otherRequest handoffId hold hkicked
  · intro handoffId hmem
    exact hw.kicker_put hreq (by rw [hstage]; rfl) hmem
  · intro other otherRequest handoffId hother hreturns
    rcases PartialMap.update_some_cases hother with ⟨-, rfl⟩ | ⟨-, hold⟩
    · cases hreturns
    · exact hmono (hw.returns other otherRequest handoffId hold hreturns)

/-- **The audit of a handoff.** -/
theorem Once.audit_handoff (hw : w.Once) (hreq : w.requests id = some request)
    (hstage : request.stage = .auditing artifact) {event : IntakeAudit}
    (hevent : event.handoffId = artifact.id) :
    ({ w with audit := event :: w.audit }.put id request (.kickingOff artifact.id)).Once := by
  have hinserted : request.stage.inserted = some artifact.id := by
    rw [hstage]
    rfl
  have hsame : (CompletionStage.kickingOff artifact.id).inserted = request.stage.inserted :=
    hinserted.symm
  have hself : ({ w with audit := event :: w.audit } : IntakeWorld).auditCount artifact.id =
      w.auditCount artifact.id + 1 := List.countP_cons_of_pos (decide_eq_true hevent)
  have hothers : ∀ {handoffId}, handoffId ≠ artifact.id →
      ({ w with audit := event :: w.audit } : IntakeWorld).auditCount handoffId =
        w.auditCount handoffId := by
    intro handoffId hne
    refine List.countP_cons_of_neg ?_
    rw [decide_eq_true_eq, hevent]
    exact hne.symm
  -- no other request has inserted the handoff
  have hapart : ∀ other otherRequest, other ≠ id → w.requests other = some otherRequest →
      ∀ handoffId, otherRequest.stage.inserted = some handoffId → handoffId ≠ artifact.id := by
    rintro other otherRequest hne hother _ hother' rfl
    exact hne (hw.apart other otherRequest id request _ hother hreq hother' hinserted)
  refine ⟨hw.inserted_put hreq hsame, hw.apart_put hreq hsame, ?_, ?_, ?_, ?_, ?_, ?_⟩
  · intro other otherRequest handoffId hother haudited
    rcases PartialMap.update_some_cases hother with ⟨-, rfl⟩ | ⟨hne, hold⟩
    · cases haudited
      exact hself.trans (congrArg (· + 1) (hw.unaudited id request artifact hreq hstage))
    · have hdifferent := hapart other otherRequest hne hold handoffId
        (CompletionStage.inserted_of_audited haudited)
      exact (hothers hdifferent).trans (hw.audited other otherRequest handoffId hold haudited)
  · intro other otherRequest otherArtifact hother hauditing
    rcases PartialMap.update_some_cases hother with ⟨-, rfl⟩ | ⟨hne, hold⟩
    · cases hauditing
    have hdifferent := hapart other otherRequest hne hold otherArtifact.id (by rw [hauditing]; rfl)
    exact (hothers hdifferent).trans (hw.unaudited other otherRequest otherArtifact hold hauditing)
  · intro handoffId hnot
    have hdifferent : handoffId ≠ artifact.id := by
      rintro rfl
      exact hnot (hw.inserted id request artifact.id hreq hinserted).taken
    exact (hothers hdifferent).trans (hw.fresh handoffId hnot)
  · intro other otherRequest handoffId hother hkicked
    rcases PartialMap.update_some_cases hother with ⟨-, rfl⟩ | ⟨-, hold⟩
    · cases hkicked
    · exact hw.kickedOff other otherRequest handoffId hold hkicked
  · intro handoffId hmem
    exact hw.kicker_put hreq (by rw [hstage]; rfl) hmem
  · intro other otherRequest handoffId hother hreturns
    rcases PartialMap.update_some_cases hother with ⟨-, rfl⟩ | ⟨-, hold⟩
    · cases hreturns
    · exact hw.returns other otherRequest handoffId hold hreturns

/-- **The kickoff for a handoff.** -/
theorem Once.kick_off (hw : w.Once) (hreq : w.requests id = some request)
    (hstage : request.stage = .kickingOff handoffId) :
    ({ w with kickoffs := handoffId :: w.kickoffs }.put id request
      (.returning ⟨handoffId, true⟩)).Once := by
  have hsame : (CompletionStage.returning ⟨handoffId, true⟩).inserted = request.stage.inserted := by
    rw [hstage]
    rfl
  refine ⟨hw.inserted_put hreq hsame, hw.apart_put hreq hsame, ?_, ?_, hw.fresh, ?_, ?_, ?_⟩
  · intro other otherRequest otherHandoff hother haudited
    rcases PartialMap.update_some_cases hother with ⟨-, rfl⟩ | ⟨-, hold⟩
    · cases haudited
      exact hw.audited id request handoffId hreq (by rw [hstage]; rfl)
    · exact hw.audited other otherRequest otherHandoff hold haudited
  · intro other otherRequest otherArtifact hother hauditing
    rcases PartialMap.update_some_cases hother with ⟨-, rfl⟩ | ⟨-, hold⟩
    · cases hauditing
    · exact hw.unaudited other otherRequest otherArtifact hold hauditing
  · intro other otherRequest otherHandoff hother hkicked
    rcases PartialMap.update_some_cases hother with ⟨-, rfl⟩ | ⟨-, hold⟩
    · cases hkicked
      exact List.mem_cons_self
    · exact List.mem_cons_of_mem _ (hw.kickedOff other otherRequest otherHandoff hold hkicked)
  · intro otherHandoff hmem
    rcases List.mem_cons.1 hmem with rfl | hold
    · exact ⟨id, _, Function.update_self _ _ _, rfl⟩
    · exact hw.kicker_put hreq (by rw [hstage]; rfl) hold
  · intro other otherRequest otherHandoff hother hreturns
    rcases PartialMap.update_some_cases hother with ⟨-, rfl⟩ | ⟨-, hold⟩
    · cases hreturns
      exact hw.inserted id request handoffId hreq (by rw [hstage]; rfl)
    · exact hw.returns other otherRequest otherHandoff hold hreturns

variable {result : CompletionResult}

/-- **The end of a request.** -/
theorem Once.return_result (hw : w.Once) (hreq : w.requests id = some request)
    (hstage : request.stage = .returning result) :
    (w.put id request (.done result)).Once := by
  have hinserted : (CompletionStage.done result).inserted = request.stage.inserted := by
    rw [hstage]
    rcases result with ⟨_, _ | _⟩ <;> rfl
  have haudited : (CompletionStage.done result).audited = request.stage.audited := by
    rw [hstage]
    exact hinserted.trans (congrArg CompletionStage.inserted hstage)
  have hkicked : (CompletionStage.done result).kickedOff = request.stage.kickedOff := by
    rw [hstage]
    exact hinserted.trans (congrArg CompletionStage.inserted hstage)
  refine ⟨hw.inserted_put hreq hinserted, hw.apart_put hreq hinserted, ?_, ?_, hw.fresh, ?_, ?_,
    ?_⟩
  · intro other otherRequest handoffId hother hsome
    rcases PartialMap.update_some_cases hother with ⟨-, rfl⟩ | ⟨-, hold⟩
    · exact hw.audited id request handoffId hreq (haudited.symm.trans hsome)
    · exact hw.audited other otherRequest handoffId hold hsome
  · intro other otherRequest artifact hother hauditing
    rcases PartialMap.update_some_cases hother with ⟨-, rfl⟩ | ⟨-, hold⟩
    · cases hauditing
    · exact hw.unaudited other otherRequest artifact hold hauditing
  · intro other otherRequest handoffId hother hsome
    rcases PartialMap.update_some_cases hother with ⟨-, rfl⟩ | ⟨-, hold⟩
    · exact hw.kickedOff id request handoffId hreq (hkicked.symm.trans hsome)
    · exact hw.kickedOff other otherRequest handoffId hold hsome
  · intro handoffId hmem
    obtain ⟨kicker, kickerRequest, hkicker, hsome⟩ := hw.kicker handoffId hmem
    by_cases hne : kicker = id
    · subst hne
      obtain rfl : request = kickerRequest := Option.some.inj (hreq.symm.trans hkicker)
      exact ⟨kicker, _, Function.update_self _ _ _, hkicked.trans hsome⟩
    · exact ⟨kicker, kickerRequest, (Function.update_of_ne hne _ _).trans hkicker, hsome⟩
  · intro other otherRequest handoffId hother hreturns
    rcases PartialMap.update_some_cases hother with ⟨-, rfl⟩ | ⟨-, hold⟩
    · exact hw.returns id request handoffId hreq (by rw [hstage]; exact hreturns)
    · exact hw.returns other otherRequest handoffId hold hreturns

/-- **Every step keeps the state in order.** -/
theorem Once.step (hw : w.Once) (h : step w a = some t) : t.Once := by
  cases step_cases h with
  | @written e tables hwrite =>
    have hhandoffs : tables.handoffs = w.tables.handoffs :=
      (IntakeTables.write_grows hwrite).1.handoffs
    have hlive : ∀ handoffId, w.LiveHandoff handoffId →
        ({ w with tables } : IntakeWorld).LiveHandoff handoffId := by
      rintro _ ⟨row, hmem, hrow⟩
      exact ⟨row, hhandoffs.symm ▸ hmem, hrow⟩
    refine ⟨?_, hw.apart, hw.audited, hw.unaudited, ?_, hw.kickedOff, hw.kicker, ?_⟩
    · intro id request handoffId hreq hinserted
      exact hlive handoffId (hw.inserted id request handoffId hreq hinserted)
    · intro handoffId hnot
      refine hw.fresh handoffId ?_
      rintro ⟨row, hmem, hid⟩
      exact hnot ⟨row, hhandoffs.symm ▸ hmem, hid⟩
    · intro id request handoffId hreq hreturns
      exact hlive handoffId (hw.returns id request handoffId hreq hreturns)
  | opened hfree =>
    refine hw.quiet ?_ rfl (by rintro _ ⟨⟩)
    intro before hpre
    rw [hfree] at hpre
    cases hpre
  | moved hreq hmoves =>
    refine hw.quiet ?_ hmoves.insertsNone hmoves.returns
    intro before hpre
    rw [hreq, Option.some.injEq] at hpre
    rw [← hpre]
    exact hmoves.insertedNone
  | inserted hreq hstage hfresh => exact hw.insert hreq hstage hfresh _ rfl rfl
  | audited hreq hstage hevent => exact hw.audit_handoff hreq hstage hevent
  | kickedOff hreq hstage => exact hw.kick_off hreq hstage
  | returned hreq hstage => exact hw.return_result hreq hstage

/-! ## When a step keeps the promise -/

theorem keepsOnce_iff (hreq : w.requests id = some request) :
    w.KeepsOnce (.advanceCompletion id newId conflictIds gapIds now) ↔
      w.StageKeepsOnce request.stage := by
  constructor
  · intro h
    exact h request hreq
  · intro h other hother
    rw [Option.mem_def, hreq, Option.some.injEq] at hother
    rwa [← hother]

theorem Moves.keepsOnce {after : CompletionStage} (h : w.Moves stage after) : w.StageKeepsOnce stage := by
  cases stage with
  | inserting artifact sourceTaskId => exact fun hfresh => absurd (h.refused artifact sourceTaskId rfl) hfresh
  | returning result => exact absurd rfl (h.unfinished result)
  | _ => trivial

theorem filter_live_eq_nil : w.tables.handoffs.filter HandoffRow.isLive = [] ↔
    ¬ w.tables.HasLiveHandoff := by
  rw [List.filter_eq_nil_iff]
  constructor
  · rintro hnone ⟨row, hmem, hlive⟩
    exact hnone row hmem hlive
  · intro hnone row hmem hlive
    exact hnone ⟨row, hmem, hlive⟩

/-- What finished requests have returned stands while the live handoffs, the audit events of what they
returned and the kickoffs stand. -/
theorem CompletesOnce.returned_mono (hP : w.CompletesOnce)
    (hlive : ∀ handoffId, w.LiveHandoff handoffId → t.LiveHandoff handoffId)
    (haudit : ∀ handoffId, w.auditCount handoffId = 1 → t.auditCount handoffId = 1)
    (hkickoffs : w.kickoffs ⊆ t.kickoffs)
    (hdone : ∀ id request result, t.requests id = some request → request.stage = .done result →
      w.requests id = some request) :
    ∀ id request result, t.requests id = some request → request.stage = .done result →
      t.LiveHandoff result.handoffId ∧ t.auditCount result.handoffId = 1 ∧
        result.handoffId ∈ t.kickoffs := by
  intro id request result hreq hstage
  obtain ⟨h, h', h''⟩ :=
    hP.returned id request result (hdone id request result hreq hstage) hstage
  exact ⟨hlive _ h, haudit _ h', hkickoffs h''⟩

theorem done_put (hopen : ∀ result, stage ≠ .done result) :
    ∀ other otherRequest result, (w.put id request stage).requests other = some otherRequest →
      otherRequest.stage = .done result → w.requests other = some otherRequest := by
  intro other otherRequest result hother hdone
  rcases PartialMap.update_some_cases hother with ⟨-, rfl⟩ | ⟨-, hold⟩
  · exact absurd hdone (hopen result)
  · exact hold

/-- **An insert** keeps the promise when there is no live handoff. -/
theorem completesOnce_insert_iff (hP : w.CompletesOnce) (hreq : w.requests id = some request)
    (hstage : request.stage = .inserting artifact sourceTaskId) (hfresh : ¬ w.HandoffTaken artifact.id)
    {row : HandoffRow} (hlive : row.isLive = true) :
    ({ w with tables := { w.tables with handoffs := row :: w.tables.handoffs } }.put id request
        (.auditing artifact)).CompletesOnce ↔
      w.KeepsOnce (.advanceCompletion id newId conflictIds gapIds now) := by
  rw [keepsOnce_iff hreq, hstage]
  have hlen : ((row :: w.tables.handoffs).filter HandoffRow.isLive).length =
      (w.tables.handoffs.filter HandoffRow.isLive).length + 1 := by
    rw [List.filter_cons_of_pos hlive, List.length_cons]
  constructor
  · intro ht _
    have hone : ((row :: w.tables.handoffs).filter HandoffRow.isLive).length ≤ 1 := ht.one
    rw [← filter_live_eq_nil, ← List.length_eq_zero_iff]
    omega
  · intro hkeeps
    have hnil := filter_live_eq_nil.2 (hkeeps hfresh)
    refine ⟨?_, hP.returned_mono ?_ (fun _ h => h) (List.Subset.refl _) (done_put (by rintro _ ⟨⟩))⟩
    · change ((row :: w.tables.handoffs).filter HandoffRow.isLive).length ≤ 1
      rw [hlen, hnil]
      exact le_rfl
    · rintro _ ⟨old, hmem, hold⟩
      exact ⟨old, List.mem_cons_of_mem _ hmem, hold⟩

/-- **The end of a request** keeps the promise when it has inserted the handoff itself, or the request that
has is past its kickoff. -/
theorem completesOnce_return_iff (hw : w.Once) (hP : w.CompletesOnce)
    (hreq : w.requests id = some request) (hstage : request.stage = .returning result) :
    (w.put id request (.done result)).CompletesOnce ↔
      w.KeepsOnce (.advanceCompletion id newId conflictIds gapIds now) := by
  rw [keepsOnce_iff hreq, hstage]
  have hlive : w.LiveHandoff result.handoffId :=
    hw.returns id request result.handoffId hreq (by rw [hstage]; rfl)
  have hself : (w.put id request (.done result)).requests id =
      some { request with stage := .done result } := Function.update_self _ _ _
  -- the promise is kept exactly when it is kept for this result
  have hiff : (w.put id request (.done result)).CompletesOnce ↔
      w.auditCount result.handoffId = 1 ∧ result.handoffId ∈ w.kickoffs := by
    constructor
    · intro ht
      exact (ht.returned id _ result hself rfl).2
    · rintro ⟨haudit, hkicked⟩
      refine ⟨hP.one, ?_⟩
      intro other otherRequest otherResult hother hdone
      rcases PartialMap.update_some_cases hother with ⟨-, rfl⟩ | ⟨-, hold⟩
      · cases hdone
        exact ⟨hlive, haudit, hkicked⟩
      · exact hP.returned other otherRequest otherResult hold hdone
  rw [hiff]
  obtain ⟨handoffId, created⟩ := result
  cases created with
  | true =>
    have haudited : request.stage.audited = some handoffId := by
      rw [hstage]
      rfl
    have hkicked : request.stage.kickedOff = some handoffId := by
      rw [hstage]
      rfl
    exact iff_of_true ⟨hw.audited id request handoffId hreq haudited,
      hw.kickedOff id request handoffId hreq hkicked⟩ trivial
  | false =>
    constructor
    · rintro ⟨-, hmem⟩
      exact hw.kicker handoffId hmem
    · rintro ⟨creator, creatorRequest, hcreator, hkicked⟩
      exact ⟨hw.audited creator creatorRequest handoffId hcreator
        (CompletionStage.audited_of_kickedOff hkicked),
        hw.kickedOff creator creatorRequest handoffId hcreator hkicked⟩

/-- **One step.** It keeps the promise exactly when it meets the condition. -/
theorem completesOnce_step_iff (hw : w.Once) (hP : w.CompletesOnce) (h : step w a = some t) :
    t.CompletesOnce ↔ w.KeepsOnce a := by
  cases step_cases h with
  | @written e tables hwrite =>
    have hhandoffs : tables.handoffs = w.tables.handoffs :=
      (IntakeTables.write_grows hwrite).1.handoffs
    refine iff_of_true ⟨?_, ?_⟩ trivial
    · change (tables.handoffs.filter HandoffRow.isLive).length ≤ 1
      rw [hhandoffs]
      exact hP.one
    · refine hP.returned_mono ?_ (fun _ h => h) (List.Subset.refl _) (fun _ _ _ h _ => h)
      rintro _ ⟨row, hmem, hrow⟩
      exact ⟨row, hhandoffs.symm ▸ hmem, hrow⟩
  | @opened id actorId hfree =>
    refine iff_of_true ⟨hP.one, ?_⟩ trivial
    exact hP.returned_mono (fun _ h => h) (fun _ h => h) (List.Subset.refl _) (by
      intro other otherRequest result hother hdone
      rcases PartialMap.update_some_cases hother with ⟨-, rfl⟩ | ⟨-, hold⟩
      · cases hdone
      · exact hold)
  | moved hreq hmoves =>
    refine iff_of_true ⟨hP.one, ?_⟩ ((keepsOnce_iff hreq).2 hmoves.keepsOnce)
    exact hP.returned_mono (fun _ h => h) (fun _ h => h) (List.Subset.refl _) (done_put hmoves.goesOn)
  | inserted hreq hstage hfresh => exact completesOnce_insert_iff hP hreq hstage hfresh rfl
  | @audited id newId conflictIds gapIds now request artifact event hreq hstage hevent =>
    refine iff_of_true ⟨hP.one, ?_⟩ ((keepsOnce_iff hreq).2 (by rw [hstage]; trivial))
    refine hP.returned_mono (fun _ h => h) ?_ (List.Subset.refl _) (done_put (by rintro _ ⟨⟩))
    intro handoffId hcount
    -- the handoff that is audited now has not been audited before
    have hzero := hw.unaudited id request artifact hreq hstage
    have hne : artifact.id ≠ handoffId := by
      rintro rfl
      rw [hzero] at hcount
      cases hcount
    refine (List.countP_cons_of_neg ?_).trans hcount
    rw [decide_eq_true_eq, hevent]
    exact hne
  | @kickedOff id newId conflictIds gapIds now handoffId request hreq hstage =>
    refine iff_of_true ⟨hP.one, ?_⟩ ((keepsOnce_iff hreq).2 (by rw [hstage]; trivial))
    exact hP.returned_mono (fun _ h => h) (fun _ h => h) (List.subset_cons_self _ _)
      (done_put (by rintro _ ⟨⟩))
  | returned hreq hstage => exact completesOnce_return_iff hw hP hreq hstage

/-- **When intake completion happens once.** All along a run, there is at most one live handoff and whatever
a finished request has returned is that handoff, audited once and kicked off, exactly when every step of the
run meets the condition. -/
theorem completesOnce_iff {as : List IntakeAction} (hinit : w.Initial) (hrun : run step w as = some t) :
    AllAlong step CompletesOnce w as ↔ RunMeets step KeepsOnce w as := by
  have hkeeps : ∀ {w a t}, Once w → CompletesOnce w → step w a = some t → CompletesOnce t → Once t := by
    intro w a t hw _ hstep _
    exact hw.step hstep
  have hiff : ∀ {w a t}, Once w → CompletesOnce w → step w a = some t →
      (CompletesOnce t ↔ KeepsOnce w a) := by
    intro w a t hw hP hstep
    exact completesOnce_step_iff hw hP hstep
  exact allAlong_iff_runMeets hkeeps hiff hinit.once hinit.completesOnce hrun

/-! ## Runs -/

/-- The condition as the recorded kickoffs show it. -/
def StageShowsOnce (w : IntakeWorld) : CompletionStage → Prop
  | .inserting artifact _ => ¬ w.HandoffTaken artifact.id → ¬ w.tables.HasLiveHandoff
  | .returning ⟨handoffId, false⟩ => handoffId ∈ w.kickoffs
  | _ => True

/-- The condition as the recorded kickoffs show it, step by step. -/
def ShowsOnce (w : IntakeWorld) : IntakeAction → Prop
  | .advanceCompletion requestId _ _ _ _ =>
    ∀ request ∈ w.requests requestId, w.StageShowsOnce request.stage
  | .write _ | .openCompletion _ _ => True

instance decidableStageShowsOnce (w : IntakeWorld) : ∀ stage, Decidable (w.StageShowsOnce stage)
  | .inserting _ _ => inferInstanceAs (Decidable (_ → _))
  | .returning ⟨_, false⟩ => inferInstanceAs (Decidable (_ ∈ _))
  | .returning ⟨_, true⟩ | .looking | .readingCandidates | .readingConfirmations _ | .readingFacts _ _
  | .readingOpen _ _ _ | .persisting _ | .auditing _ | .kickingOff _ | .done _ | .failed _ =>
    isTrue trivial

instance decidableShowsOnce (w : IntakeWorld) : ∀ a, Decidable (w.ShowsOnce a)
  | .advanceCompletion _ _ _ _ _ => inferInstanceAs (Decidable (∀ _ ∈ _, _))
  | .write _ | .openCompletion _ _ => isTrue trivial

/-- In a reachable state the recorded kickoffs show the condition. -/
theorem keepsOnce_of_shows (hw : w.Once) (h : w.ShowsOnce a) : w.KeepsOnce a := by
  cases a with
  | write | openCompletion => trivial
  | advanceCompletion =>
    intro request hreq
    have hshows := h request hreq
    cases hstage : request.stage with
    | inserting =>
      rw [hstage] at hshows
      exact hshows
    | returning result =>
      rw [hstage] at hshows
      obtain ⟨handoffId, created⟩ := result
      cases created with
      | true => trivial
      | false => exact hw.kicker handoffId hshows
    | _ => trivial

/-- A request takes some of its steps. -/
def advancing (requestId steps : Nat) : List IntakeAction :=
  List.replicate steps (.advanceCompletion requestId (100 + requestId) [] [] 50)

/-- A request opens and takes some of its steps. -/
def completing (requestId steps : Nat) : List IntakeAction :=
  .openCompletion requestId 7 :: advancing requestId steps

/-- One upload; two requests both find no handoff, and both insert one. -/
def racing : List IntakeAction :=
  .write (.registerUpload 5 6 10) :: completing 1 6 ++ completing 2 6 ++ advancing 1 1 ++ advancing 2 1

/-- One upload; a request stops after it has inserted the handoff, and the next one finds it. -/
def stopping : List IntakeAction :=
  .write (.registerUpload 5 6 10) :: completing 1 7 ++ completing 2 2

/-- Two live handoffs; or a handoff returned without an audit event and without a kickoff. -/
theorem completed_twice_unaudited : beforeUploads.Initial ∧
    (∃ w, run step beforeUploads racing = some w ∧
      w.tables.handoffs.map (fun row => (row.id, row.isLive)) = [(102, true), (101, true)] ∧
      ¬ w.CompletesOnce) ∧
    ∃ w, run step beforeUploads stopping = some w ∧
      (∃ request ∈ w.requests 2, request.stage = .done ⟨101, false⟩) ∧
      w.audit = [] ∧ w.kickoffs = [] ∧ ¬ w.CompletesOnce := by
  refine ⟨initial_beforeUploads, ?_, ?_⟩
  · have hruns : (run step beforeUploads racing).any (fun w =>
        w.tables.handoffs.map (fun row => (row.id, row.isLive)) = [(102, true), (101, true)] ∧
          (w.tables.handoffs.filter HandoffRow.isLive).length = 2) = true := by
      decide +kernel
    obtain ⟨w, hrun, hw⟩ := (Option.any_eq_true _ _).1 hruns
    obtain ⟨hrows, _⟩ := of_decide_eq_true hw
    refine ⟨w, hrun, hrows, ?_⟩
    intro honce
    have hone := honce.one
    omega
  · have hruns : (run step beforeUploads stopping).any (fun w =>
        (∃ request ∈ w.requests 2, request.stage = .done ⟨101, false⟩) ∧ w.audit = [] ∧
          w.kickoffs = []) = true := by
      decide +kernel
    obtain ⟨w, hrun, hw⟩ := (Option.any_eq_true _ _).1 hruns
    obtain ⟨⟨request, hreq, hstage⟩, haudit, hkickoffs⟩ := of_decide_eq_true hw
    refine ⟨w, hrun, ⟨request, hreq, hstage⟩, haudit, hkickoffs, ?_⟩
    intro honce
    obtain ⟨-, -, hmem⟩ := honce.returned 2 request _ hreq hstage
    rw [hkickoffs] at hmem
    cases hmem

/-- One upload; the second request starts before the first has inserted its handoff and looks after it is
through. -/
def repeated : List IntakeAction :=
  .write (.registerUpload 5 6 10) :: completing 1 5 ++ completing 2 5 ++ advancing 1 5 ++ advancing 2 2

theorem completesOnce_repeated : AllAlong step CompletesOnce beforeUploads repeated := by
  have hruns : (run step beforeUploads repeated).isSome = true := by decide +kernel
  obtain ⟨w, hrun⟩ := Option.isSome_iff_exists.1 hruns
  have hshows : RunMeets step ShowsOnce beforeUploads repeated := by decide +kernel
  have hkeeps : ∀ {w a t}, Once w → step w a = some t → Once t := fun hw hstep => hw.step hstep
  exact (completesOnce_iff initial_beforeUploads hrun).2
    (hshows.imp_of_invariant hkeeps (fun hw h => keepsOnce_of_shows hw h) initial_beforeUploads.once)

end IntakeWorld

end CreditOps.Intake
