import CreditOps.SettlementRecovery.Exclusion

/-!
# Retrying the approval of a recovery strategy

An approval updates the case and satisfies the gate in two transactions, and the endpoint refuses a case
that is not in preparation any more. An approval that stops in between leaves an approved case and an
open gate, and repeating the request is refused (`approvalRetryable_iff`): only the approval of another case of
the version, which satisfies the same gate, makes the stop harmless.
-/

set_option autoImplicit false

namespace CreditOps.SettlementRecovery

open Transition Orchestration PartialMap Results

/-! ## Executions -/

namespace StrategyApproval

/-- A step of an approval that nothing runs beside; an approval that is over stays as it is. -/
def next (now : Timestamp) (state : SettlementTables × StrategyApproval) :
    SettlementTables × StrategyApproval :=
  (state.2.advance state.1 now).getD state

/-- The tables after an approval that stops after `stop` transactions. -/
def executeUntil (recoveryId actorId : Uuid) (now : Timestamp) (stop : Nat)
    (tables : SettlementTables) : SettlementTables :=
  ((next now)^[stop] (tables, ⟨recoveryId, actorId, .started⟩)).1

/-- The tables after an approval that nothing interrupts: four transactions at most. -/
def execute (recoveryId actorId : Uuid) (now : Timestamp) (tables : SettlementTables) :
    SettlementTables :=
  executeUntil recoveryId actorId now 4 tables

end StrategyApproval

/-! ## What an approval is meant to reach -/

/-- The events written with the status change of a case. -/
def SettlementTables.approvalsOf (tables : SettlementTables) (recoveryId : Uuid) : List SettlementAudit :=
  tables.audit.filter (SettlementAudit.isApprovalOf recoveryId)

/-- The officer has approved the case, once and not as its escalator; the gate is satisfied, and the
approval is audited. -/
structure Approved (tables : SettlementTables) (recoveryId actorId : Uuid) : Prop where
  approver : ∃ recovery, tables.loadRecoveryCase recoveryId = some recovery ∧
    recovery.status = .strategyApproved ∧ recovery.approvedBy = some actorId ∧
      actorId ≠ recovery.escalatedBy
  once : (tables.approvalsOf recoveryId).length = 1
  audited : ∃ event ∈ tables.audit,
    event.eventType = "RECOVERY_STRATEGY_APPROVED" ∧ event.artifactId = recoveryId
  gate : tables.Satisfied .hgRecoveryStrategyApproved

/-! ## A case is approved as often as it is audited -/

/-- An approved case has one approval on record, any other none. -/
def SettlementTables.Counted (tables : SettlementTables) : Prop :=
  ∀ id, (tables.approvalsOf id).length =
    if (tables.loadRecoveryCase id).any (·.status = .strategyApproved) then 1 else 0

variable {decimal : String → ParsedDecimal} {s t : SettlementSystem} {q : SettlementRequest}
  {tables tables' : SettlementTables} {id recoveryId actorId : Uuid} {now : Timestamp}

theorem SettlementTables.Counted.of_same (h : tables.Counted)
    (hrecoveries : tables'.recoveries = tables.recoveries)
    (haudit : ∀ id, tables'.approvalsOf id = tables.approvalsOf id) : tables'.Counted := by
  intro id
  rw [haudit, SettlementTables.loadRecoveryCase, hrecoveries]
  exact h id

theorem approvalsOf_of_cons {event : SettlementAudit} (haudit : tables'.audit = event :: tables.audit)
    (hevent : ∀ id, event.isApprovalOf id = false) :
    tables'.approvalsOf id = tables.approvalsOf id := by
  unfold SettlementTables.approvalsOf
  rw [haudit, List.filter_cons, hevent id, if_neg Bool.false_ne_true]

theorem loadRecoveryCase_id {recovery : RecoveryCase} (h : tables.loadRecoveryCase id = some recovery) :
    recovery.id = id := by
  simpa using List.find?_some h

/-- The case a row lookup finds after an approval. -/
theorem loadRecoveryCase_approved {approved current : RecoveryCase}
    (hcur : tables.loadRecoveryCase recoveryId = some current) (hid : approved.id = recoveryId)
    (hrecoveries : tables'.recoveries =
      tables.recoveries.map fun row => if row.id = recoveryId then approved else row) :
    tables'.loadRecoveryCase id =
      if id = recoveryId then some approved else tables.loadRecoveryCase id := by
  -- the update keeps the ids, so it finds the row it has found before
  have hfind : (fun row : RecoveryCase => decide (row.id = id)) ∘
      (fun row => if row.id = recoveryId then approved else row) = fun row => decide (row.id = id) := by
    funext row
    by_cases hrow : row.id = recoveryId
    · rw [Function.comp_apply, if_pos hrow, hid, hrow]
    · rw [Function.comp_apply, if_neg hrow]
  have hload : tables'.loadRecoveryCase id =
      (tables.loadRecoveryCase id).map fun row => if row.id = recoveryId then approved else row := by
    rw [SettlementTables.loadRecoveryCase, hrecoveries, List.find?_map, hfind,
      SettlementTables.loadRecoveryCase]
  rw [hload]
  by_cases hsame : id = recoveryId
  · rw [if_pos hsame, hsame, hcur, Option.map_some, if_pos (loadRecoveryCase_id hcur)]
  · rw [if_neg hsame]
    cases hold : tables.loadRecoveryCase id with
    | none => rfl
    | some => rw [Option.map_some, if_neg (by rw [loadRecoveryCase_id hold]; exact hsame)]

theorem SettlementTables.Counted.approve (h : tables.Counted)
    (happrove : tables.approveRecoveryStrategy recoveryId actorId = .ok tables') : tables'.Counted := by
  obtain ⟨current, approved, hcur, hpreparing, happroved, rfl⟩ :=
    SettlementSystem.approveRecoveryStrategy_eq_ok happrove
  obtain ⟨-, -, hid, -, hstat, -⟩ := RecoveryCase.approve_eq_ok happroved
  have hrow : approved.id = recoveryId := hid.trans (loadRecoveryCase_id hcur)
  intro id
  rw [loadRecoveryCase_approved hcur hrow rfl, SettlementTables.approvalsOf, List.filter_cons]
  by_cases hsame : id = recoveryId
  · subst hsame
    -- the case was in preparation, so this is its first approval
    have hnone := h id
    have hfirst : (SettlementAudit.strategyApproved id actorId current.escalatedBy).isApprovalOf id =
        true := decide_eq_true rfl
    have happrovedNow : (some approved).any (·.status = .strategyApproved) = true :=
      decide_eq_true hstat
    rw [hcur, Option.any_some, if_neg (by rw [hpreparing]; decide)] at hnone
    rw [if_pos hfirst, if_pos rfl, if_pos happrovedNow, List.length_cons]
    exact congrArg (· + 1) hnone
  · have hother : (SettlementAudit.strategyApproved recoveryId actorId
        current.escalatedBy).isApprovalOf id = false := decide_eq_false (Ne.symm hsame)
    rw [if_neg hsame, hother, if_neg Bool.false_ne_true]
    exact h id

theorem SettlementTables.Counted.openRecovery {body : SettlementTables.OpenRecoveryRequest}
    (h : tables.Counted) (hopen : tables.openRecovery decimal body recoveryId actorId = .ok tables') :
    tables'.Counted := by
  obtain ⟨-, -, hfree, hrecoveries, haudit⟩ := SettlementSystem.openRecovery_eq_ok hopen
  intro id
  rw [approvalsOf_of_cons haudit (fun _ => rfl), h id, SettlementTables.loadRecoveryCase,
    SettlementTables.loadRecoveryCase, hrecoveries, List.find?_cons]
  by_cases hsame : (body.recoveryCase recoveryId actorId).id = id
  · have hnone : tables.recoveries.find? (fun row => decide (row.id = id)) = none := by
      rw [List.find?_eq_none]
      intro row hrow
      have hother := List.any_eq_false.1 hfree row hrow
      rwa [← hsame]
    rw [hnone, decide_eq_true hsame]
    rfl
  · rw [decide_eq_false hsame]

/-- Every transaction of a confirmation leaves the cases and their approvals alone. -/
theorem SettlementTables.Counted.confirm {run run' : Confirmation} (h : tables.Counted)
    (hadv : run.advance tables now = some (tables', run')) : tables'.Counted := by
  unfold Confirmation.advance at hadv
  split at hadv
  · split at hadv <;> cases hadv <;> exact h
  · cases hadv
    exact h.of_same rfl (fun _ => approvalsOf_of_cons rfl (fun _ => rfl))
  · cases hadv
    exact h.of_same rfl (fun _ => rfl)
  · cases hadv
    exact h.of_same rfl (fun _ => approvalsOf_of_cons rfl (fun _ => rfl))
  · cases hadv
  · cases hadv

theorem SettlementTables.Counted.advance {run run' : StrategyApproval} (h : tables.Counted)
    (hadv : run.advance tables now = some (tables', run')) : tables'.Counted := by
  unfold StrategyApproval.advance at hadv
  split at hadv
  · split at hadv <;> cases hadv <;> exact h
  · split at hadv
    · rename_i happrove
      cases hadv
      exact h.approve happrove
    · cases hadv
      exact h
  · cases hadv
    exact h.of_same rfl (fun _ => rfl)
  · cases hadv
    exact h.of_same rfl (fun _ => approvalsOf_of_cons rfl (fun _ => rfl))
  · cases hadv
  · cases hadv

theorem SettlementTables.Counted.step (h : s.tables.Counted)
    (hstep : SettlementSystem.step decimal s q = some t) : t.tables.Counted := by
  cases q with
  | check =>
    obtain ⟨_, htabs, rfl⟩ := Option.map_eq_some_iff.1 hstep
    have hok := toOption_eq_some.1 htabs
    unfold SettlementTables.createSettlementCheck at hok
    split at hok
    · cases hok
    dsimp only at hok
    split at hok
    · cases hok
      exact h.of_same rfl (fun _ => approvalsOf_of_cons rfl (fun _ => rfl))
    · cases hok
  | openConfirmation | openApproval =>
    unfold SettlementSystem.step at hstep
    dsimp only at hstep
    split at hstep
    · cases hstep
    cases hstep
    exact h
  | advanceConfirmation =>
    obtain ⟨⟨_, _⟩, hbind, rfl⟩ := Option.map_eq_some_iff.1 hstep
    obtain ⟨_, -, hadv⟩ := Option.bind_eq_some_iff.1 hbind
    exact h.confirm hadv
  | openRecovery =>
    obtain ⟨_, htabs, rfl⟩ := Option.map_eq_some_iff.1 hstep
    exact h.openRecovery (toOption_eq_some.1 htabs)
  | advanceApproval =>
    obtain ⟨⟨_, _⟩, hbind, rfl⟩ := Option.map_eq_some_iff.1 hstep
    obtain ⟨_, -, hadv⟩ := Option.bind_eq_some_iff.1 hbind
    exact h.advance hadv

theorem SettlementSystem.Initial.counted (h : s.Initial) : s.tables.Counted := by
  intro id
  rw [SettlementTables.approvalsOf, h.noAudit, SettlementTables.loadRecoveryCase, h.noRecovery]
  rfl

/-! ## What a retry reaches -/

namespace StrategyApproval

variable {current : RecoveryCase}

/-- The transactions of an accepted approval. -/
structure Accepted (tables : SettlementTables) (recoveryId actorId : Uuid)
    (approved : SettlementTables) : Prop where
  check : ∃ current, tables.checkApproval recoveryId actorId = .ok current
  approve : tables.approveRecoveryStrategy recoveryId actorId = .ok approved

/-- What `approve_recovery_strategy` has read when it goes on. -/
theorem checkApproval_eq_ok (h : tables.checkApproval recoveryId actorId = .ok current) :
    tables.loadRecoveryCase recoveryId = some current ∧ current.status = .preparing ∧
      actorId ≠ current.escalatedBy := by
  unfold SettlementTables.checkApproval at h
  split at h
  · cases h
  rename_i loaded hloaded
  split at h
  · cases h
  rename_i hpreparing
  split at h
  · cases h
  rename_i hdiffers
  cases h
  exact ⟨hloaded, not_not.1 hpreparing, Ne.symm hdiffers⟩

theorem exists_accepted (h : tables.checkApproval recoveryId actorId = .ok current) :
    ∃ approved, Accepted tables recoveryId actorId approved := by
  obtain ⟨hloaded, hpreparing, hdiffers⟩ := checkApproval_eq_ok h
  obtain ⟨_, hrow⟩ := RecoveryCase.exists_approve hpreparing hdiffers
  have happrove : ∃ approved, tables.approveRecoveryStrategy recoveryId actorId = .ok approved := by
    rw [SettlementTables.approveRecoveryStrategy, hloaded]
    dsimp only
    rw [if_neg (not_not.2 hpreparing), hrow]
    exact ⟨_, rfl⟩
  obtain ⟨approved, hok⟩ := happrove
  exact ⟨approved, ⟨current, h⟩, hok⟩

variable {approved : SettlementTables} (haccepted : Accepted tables recoveryId actorId approved)
include haccepted

theorem iterate_two : (next now)^[2] (tables, ⟨recoveryId, actorId, .started⟩) =
    (approved, ⟨recoveryId, actorId, .approved⟩) := by
  obtain ⟨_, hcheck⟩ := haccepted.check
  have hloaded : next now (tables, ⟨recoveryId, actorId, .started⟩) =
      (tables, ⟨recoveryId, actorId, .loaded⟩) := by
    rw [next, advance, hcheck]
    rfl
  rw [Function.iterate_succ_apply, Function.iterate_one, hloaded, next, advance, haccepted.approve]
  rfl

theorem executeUntil_one : executeUntil recoveryId actorId now 1 tables = tables := by
  obtain ⟨_, hcheck⟩ := haccepted.check
  rw [executeUntil, Function.iterate_one, next, advance, hcheck]
  rfl

theorem executeUntil_two : executeUntil recoveryId actorId now 2 tables = approved := by
  rw [executeUntil, iterate_two haccepted]

omit haccepted in
/-- The tables with the gate satisfied. -/
def gated (recoveryId actorId : Uuid) (now : Timestamp) (approved : SettlementTables) :
    SettlementTables :=
  approved.satisfy .hgRecoveryStrategyApproved actorId
    ("recovery-strategy:" ++ uuidText recoveryId) now

/-- From the third transaction on the gate is satisfied; after it only the audit event is written. -/
theorem executeUntil_add_three (more : Nat) :
    executeUntil recoveryId actorId now (more + 3) tables = gated recoveryId actorId now approved ∨
      executeUntil recoveryId actorId now (more + 3) tables =
        (gated recoveryId actorId now approved).appendAudit
          (.strategyApprovalAudited recoveryId actorId) := by
  have hthree : (next now)^[3] (tables, ⟨recoveryId, actorId, .started⟩) =
      (gated recoveryId actorId now approved, ⟨recoveryId, actorId, .satisfied⟩) := by
    rw [Function.iterate_succ_apply', iterate_two haccepted]
    rfl
  rw [executeUntil, Function.iterate_add_apply, hthree]
  cases more with
  | zero => exact Or.inl rfl
  | succ =>
    rw [Function.iterate_succ_apply]
    have hfinished : next now (gated recoveryId actorId now approved,
        ⟨recoveryId, actorId, .satisfied⟩) =
          ((gated recoveryId actorId now approved).appendAudit
            (.strategyApprovalAudited recoveryId actorId), ⟨recoveryId, actorId, .finished⟩) := rfl
    rw [hfinished, Function.iterate_fixed rfl]
    exact Or.inr rfl

/-- After the update the case is approved and audited; only the gate may be open. -/
theorem approved_of_gate (hcounted : tables.Counted) {after : SettlementTables}
    (hrecoveries : after.recoveries = approved.recoveries)
    (haudit : after.audit = approved.audit ∨
      after.audit = .strategyApprovalAudited recoveryId actorId :: approved.audit)
    (hgate : after.Satisfied .hgRecoveryStrategyApproved) : Approved after recoveryId actorId := by
  obtain ⟨current, row, hcur, -, hrow, happroved⟩ :=
    SettlementSystem.approveRecoveryStrategy_eq_ok haccepted.approve
  obtain ⟨-, hdiffers, hid, hescalated, hstat, happrover⟩ := RecoveryCase.approve_eq_ok hrow
  have hload : approved.loadRecoveryCase recoveryId = some row := by
    rw [loadRecoveryCase_approved hcur (hid.trans (loadRecoveryCase_id hcur))
      (by rw [happroved]), if_pos rfl]
  have hcount := (hcounted.approve haccepted.approve) recoveryId
  rw [hload, Option.any_some, if_pos (decide_eq_true hstat)] at hcount
  have hevent : .strategyApproved recoveryId actorId current.escalatedBy ∈ approved.audit := by
    rw [happroved]
    exact List.mem_cons_self
  have hsame : after.approvalsOf recoveryId = approved.approvalsOf recoveryId := by
    rcases haudit with hsame | hmore
    · rw [SettlementTables.approvalsOf, hsame, SettlementTables.approvalsOf]
    · exact approvalsOf_of_cons hmore (fun _ => rfl)
  refine ⟨⟨row, ?_, hstat, happrover, by rw [hescalated]; exact hdiffers⟩, ?_, ?_, hgate⟩
  · rw [SettlementTables.loadRecoveryCase, hrecoveries]
    exact hload
  · rw [hsame]
    exact hcount
  · refine ⟨.strategyApproved recoveryId actorId current.escalatedBy, ?_, rfl, rfl⟩
    rcases haudit with hsame | hmore
    · rw [hsame]
      exact hevent
    · rw [hmore]
      exact List.mem_cons_of_mem _ hevent

theorem approved_executeUntil (hcounted : tables.Counted) (more : Nat) :
    Approved (executeUntil recoveryId actorId now (more + 3) tables) recoveryId actorId := by
  have hgate : (gated recoveryId actorId now approved).Satisfied .hgRecoveryStrategyApproved :=
    SettlementSystem.satisfied_satisfy_iff.2 (Or.inr rfl)
  rcases executeUntil_add_three haccepted more with hgated | haudited
  · rw [hgated]
    exact approved_of_gate haccepted hcounted rfl (Or.inl rfl) hgate
  · rw [haudited]
    exact approved_of_gate haccepted hcounted rfl (Or.inr rfl) hgate

/-- Once a case is approved, repeating the request is refused and changes nothing. -/
theorem execute_of_approved {after : SettlementTables}
    (hrecoveries : after.recoveries = approved.recoveries) (now : Timestamp) :
    execute recoveryId actorId now after = after := by
  obtain ⟨_, row, hcur, -, hrow, happroved⟩ :=
    SettlementSystem.approveRecoveryStrategy_eq_ok haccepted.approve
  obtain ⟨-, -, hid, -, hstat, -⟩ := RecoveryCase.approve_eq_ok hrow
  have hload : after.loadRecoveryCase recoveryId = some row := by
    rw [loadRecoveryCase_approved hcur (hid.trans (loadRecoveryCase_id hcur))
      (by rw [hrecoveries, happroved]), if_pos rfl]
  have hrefused : next now (after, ⟨recoveryId, actorId, .started⟩) =
      (after, ⟨recoveryId, actorId, .refused (.api SettlementTables.recoveryAlreadyApproved)⟩) := by
    rw [next, advance, SettlementTables.checkApproval, hload]
    dsimp only
    rw [if_pos (by rw [hstat]; decide)]
    rfl
  rw [execute, executeUntil, Function.iterate_succ_apply, hrefused, Function.iterate_fixed rfl]

end StrategyApproval

open StrategyApproval

/-- **When an approval can be retried.** In every state reached, whatever else is in flight, an accepted
approval that stops anywhere is made good by repeating the request, unless it stopped between the update of
the case and the gate, with the gate open. -/
theorem approvalRetryable_iff {qs : List SettlementRequest} (hinit : s.Initial)
    (hrun : run (SettlementSystem.step decimal) s qs = some t) {current : RecoveryCase}
    (hcheck : t.tables.checkApproval recoveryId actorId = .ok current) (stop : Nat)
    (now later : Timestamp) :
    Approved
        (execute recoveryId actorId later (executeUntil recoveryId actorId now stop t.tables))
        recoveryId actorId ↔
      ¬ (stop = 2 ∧ ¬ t.tables.Satisfied .hgRecoveryStrategyApproved) := by
  have hkeeps : ∀ {s q t}, s.tables.Counted → SettlementSystem.step decimal s q = some t →
      t.tables.Counted := fun hcounted hstep => hcounted.step hstep
  have hcounted : t.tables.Counted := run_invariant hkeeps hinit.counted hrun
  obtain ⟨approved, haccepted⟩ := exists_accepted hcheck
  have hgate : approved.Satisfied .hgRecoveryStrategyApproved ↔
      t.tables.Satisfied .hgRecoveryStrategyApproved :=
    (SettlementSystem.sameBranches_approve haccepted.approve).1.satisfied_iff
  -- an approval that nothing interrupts
  have hwhole : Approved (execute recoveryId actorId later t.tables) recoveryId actorId :=
    approved_executeUntil haccepted hcounted 1
  rcases stop with _ | _ | _ | stop
  · refine iff_of_true hwhole ?_
    rintro ⟨hstop, -⟩
    cases hstop
  · rw [executeUntil_one haccepted]
    refine iff_of_true hwhole ?_
    rintro ⟨hstop, -⟩
    cases hstop
  · rw [executeUntil_two haccepted, execute_of_approved haccepted rfl]
    constructor
    · rintro happroved ⟨-, hopen⟩
      exact hopen (hgate.1 happroved.gate)
    · intro hclosed
      have hsat : approved.Satisfied .hgRecoveryStrategyApproved := by
        by_contra hopen
        exact hclosed ⟨rfl, fun h => hopen (hgate.2 h)⟩
      exact approved_of_gate haccepted hcounted rfl (Or.inl rfl) hsat
  · have hkept : (executeUntil recoveryId actorId now (stop + 3) t.tables).recoveries =
        approved.recoveries := by
      rcases executeUntil_add_three haccepted stop with hgated | haudited
      · rw [hgated]
        rfl
      · rw [haudited]
        rfl
    rw [execute_of_approved haccepted hkept]
    refine iff_of_true (approved_executeUntil haccepted hcounted stop) ?_
    rintro ⟨_, -⟩
    omega

/-- A recovery case that waits for its approval. -/
def openedRun : List SettlementRequest :=
  [.openRecovery SettlementSystem.shortfallBody 30 8]

theorem openedRun_ends : (run (SettlementSystem.step SettlementSystem.digitsDecimal)
    (SettlementSystem.start 1 1) openedRun).any (fun t =>
      ((t.tables.checkApproval 30 9).toOption.isSome = true ∧
        ¬ (execute 30 9 6 (executeUntil 30 9 5 2 t.tables)).Satisfied
          .hgRecoveryStrategyApproved)) = true := by
  decide +kernel

theorem exists_check_of_openedRun : ∃ t current,
    run (SettlementSystem.step SettlementSystem.digitsDecimal) (SettlementSystem.start 1 1) openedRun =
      some t ∧ t.tables.checkApproval 30 9 = .ok current ∧
        ¬ (execute 30 9 6 (executeUntil 30 9 5 2 t.tables)).Satisfied .hgRecoveryStrategyApproved := by
  obtain ⟨t, hrun, hends⟩ := (Option.any_eq_true _ _).1 openedRun_ends
  obtain ⟨hcheck, hopen⟩ := of_decide_eq_true hends
  obtain ⟨current, hcur⟩ := Option.isSome_iff_exists.1 hcheck
  exact ⟨t, current, hrun, toOption_eq_some.1 hcur, hopen⟩

/-- **An approval that cannot be retried.** It stops after it has approved the case; the gate stays open,
and the same request is refused. -/
theorem approval_not_retryable : ¬ ∀ (decimal : String → ParsedDecimal) (qs : List SettlementRequest)
    (s t : SettlementSystem) (recoveryId actorId : Uuid) (current : RecoveryCase), s.Initial →
      run (SettlementSystem.step decimal) s qs = some t →
        t.tables.checkApproval recoveryId actorId = .ok current → ∀ (stop : Nat) (now later : Timestamp),
          Approved
            (execute recoveryId actorId later (executeUntil recoveryId actorId now stop t.tables))
            recoveryId actorId := by
  intro hclaim
  obtain ⟨t, current, hrun, hcheck, hopen⟩ := exists_check_of_openedRun
  exact hopen (hclaim _ openedRun _ t 30 9 current (SettlementSystem.initial_start 1 1) hrun hcheck
    2 5 6).gate

theorem retryable_openedRun : ∃ t,
    run (SettlementSystem.step SettlementSystem.digitsDecimal) (SettlementSystem.start 1 1) openedRun =
      some t ∧ Approved (execute 30 9 6 (executeUntil 30 9 5 1 t.tables)) 30 9 := by
  obtain ⟨t, _, hrun, hcheck, -⟩ := exists_check_of_openedRun
  refine ⟨t, hrun, (approvalRetryable_iff (SettlementSystem.initial_start 1 1) hrun hcheck 1 5 6).2 ?_⟩
  rintro ⟨hstop, -⟩
  cases hstop

end CreditOps.SettlementRecovery
