import CreditOps.Library.Results
import CreditOps.SettlementRecovery.Endpoints

/-!
# The two branches

Settlement and recovery are meant to exclude each other at a case version. Neither branch looks at the
other: a settlement is confirmed from a check of a balance the officer supplies, a recovery case is
opened from a shortfall the officer supplies. So both can be there (`settled_and_recovering`). They
exclude each other all along a run exactly when every settlement gate is written without a recovery case,
and every recovery case is opened with the settlement gate open (`exclusive_iff`).
-/

set_option autoImplicit false

namespace CreditOps.SettlementRecovery

open Transition Orchestration PartialMap Results

namespace SettlementSystem

/-! ## The promise and the condition -/

/-- **The branches exclude each other.** No settlement is confirmed at a case version with a recovery case
or an approved recovery strategy. -/
def Exclusive (s : SettlementSystem) : Prop :=
  ¬ (s.tables.Satisfied .hgSettlementConfirmed ∧
    (s.tables.recoveries ≠ [] ∨ s.tables.Satisfied .hgRecoveryStrategyApproved))

/-- The step is the gate write of a confirmation. -/
def ConfirmsSettlement (s : SettlementSystem) (confirmationId : Uuid) : Prop :=
  ∃ run check, s.confirmations confirmationId = some run ∧ run.stage = .receipted check

/-- The condition on one step: it does not write the settlement gate beside a recovery case, and does not
open a recovery case after the settlement. -/
def LooksAtOther (s : SettlementSystem) : SettlementRequest → Prop
  | .advanceConfirmation confirmationId _ =>
    s.ConfirmsSettlement confirmationId → s.tables.recoveries = []
  | .openRecovery _ _ _ => ¬ s.tables.Satisfied .hgSettlementConfirmed
  | .check _ _ _ _ | .openConfirmation _ _ | .openApproval _ _ _ | .advanceApproval _ _ => True

/-! ## What a step does to the branches -/

/-- What an approval has behind it once it has approved: a recovery case. -/
structure Backed (s : SettlementSystem) : Prop where
  gate : s.tables.Satisfied .hgRecoveryStrategyApproved → s.tables.recoveries ≠ []
  approved : ∀ id run, s.approvals id = some run → run.stage = .approved → s.tables.recoveries ≠ []

variable {decimal : String → ParsedDecimal} {s t : SettlementSystem} {q : SettlementRequest}
  {tables tables' : SettlementTables}

theorem Initial.backed (h : Initial s) : Backed s where
  gate hgate := absurd hgate h.recoveryOpen
  approved id run hrun := by
    rw [h.noApproval] at hrun
    cases hrun

theorem Initial.exclusive (h : Initial s) : Exclusive s :=
  fun hboth => h.settlementOpen hboth.1

/-- Nothing about the two branches has changed. -/
structure SameBranches (tables tables' : SettlementTables) : Prop where
  caseVersion : tables'.caseVersion = tables.caseVersion
  gates : tables'.gates = tables.gates
  recoveries : tables'.recoveries = [] ↔ tables.recoveries = []

theorem SameBranches.refl (tables : SettlementTables) : SameBranches tables tables :=
  ⟨rfl, rfl, Iff.rfl⟩

variable {gateType : GateType}

theorem SameBranches.satisfied_iff (h : SameBranches tables tables') :
    tables'.Satisfied gateType ↔ tables.Satisfied gateType := by
  unfold SettlementTables.Satisfied
  rw [h.gates, h.caseVersion]

variable {id actorId approvedBy recoveryId : Uuid} {now : Timestamp}

theorem sameBranches_check {body : SettlementTables.CheckRequest}
    (h : tables.createSettlementCheck decimal body id actorId now = .ok tables') :
    SameBranches tables tables' := by
  unfold SettlementTables.createSettlementCheck at h
  split at h
  · cases h
  dsimp only at h
  split at h
  · cases h
    exact ⟨rfl, rfl, Iff.rfl⟩
  · cases h

/-- Opening a recovery case adds it and leaves the gates alone. -/
theorem openRecovery_eq_ok {body : SettlementTables.OpenRecoveryRequest}
    (h : tables.openRecovery decimal body id actorId = .ok tables') :
    tables'.caseVersion = tables.caseVersion ∧ tables'.gates = tables.gates ∧
      tables.recoveries.any (·.id = id) = false ∧
      tables'.recoveries = body.recoveryCase id actorId :: tables.recoveries ∧
      tables'.audit = .recoveryCaseOpened id actorId body.options.length body.evidenceRefs.length ::
        tables.audit := by
  unfold SettlementTables.openRecovery at h
  split at h
  · cases h
  dsimp only at h
  split at h
  · split at h
    · split at h
      · cases h
      rename_i hfree
      cases h
      exact ⟨rfl, rfl, Bool.eq_false_iff.2 hfree, rfl, rfl⟩
    · cases h
  · cases h

/-- What the approval of a case changes. -/
theorem approveRecoveryStrategy_eq_ok
    (h : tables.approveRecoveryStrategy recoveryId approvedBy = .ok tables') :
    ∃ current approved, tables.loadRecoveryCase recoveryId = some current ∧
      current.status = .preparing ∧ current.approve approvedBy = .ok approved ∧
      tables' = { tables with
                  recoveries := tables.recoveries.map fun row =>
                    if row.id = recoveryId then approved else row
                  audit := .strategyApproved recoveryId approvedBy current.escalatedBy ::
                    tables.audit } := by
  unfold SettlementTables.approveRecoveryStrategy at h
  split at h
  · cases h
  rename_i current hcur
  split at h
  · cases h
  rename_i hpreparing
  split at h
  · cases h
  rename_i approved happrove
  cases h
  exact ⟨current, approved, hcur, not_not.1 hpreparing, happrove, rfl⟩

theorem sameBranches_approve (h : tables.approveRecoveryStrategy recoveryId approvedBy = .ok tables') :
    SameBranches tables tables' ∧ tables.recoveries ≠ [] := by
  obtain ⟨_, _, hcur, -, -, rfl⟩ := approveRecoveryStrategy_eq_ok h
  refine ⟨⟨rfl, rfl, List.map_eq_nil_iff⟩, ?_⟩
  exact List.ne_nil_of_mem (List.mem_of_find?_eq_some hcur)

theorem satisfied_satisfy_iff {other : GateType} {dispositionRef : String} :
    (tables.satisfy gateType actorId dispositionRef now).Satisfied other ↔
      tables.Satisfied other ∨ other = gateType := by
  constructor
  · intro h
    rcases CaseTables.gateSatisfied_of_ensureGate h with hold | ⟨-, -, hsame⟩
    · exact Or.inl hold
    · exact Or.inr hsame
  · rintro (hold | rfl)
    · exact CaseTables.gateSatisfied_ensureGate_of hold
    · exact CaseTables.gateSatisfied_ensureGate_self ..

/-- **What a step does to the two branches.** It leaves them alone, writes one of the gates, or opens a
recovery case; an approval has a recovery case before it writes its gate. -/
inductive BranchMove (decimal : String → ParsedDecimal) (s t : SettlementSystem) :
    SettlementRequest → Prop where
  | same (q : SettlementRequest) (hsame : SameBranches s.tables t.tables)
      (happrs : ∀ id run, t.approvals id = some run → run.stage = .approved →
        s.approvals id = some run ∨ s.tables.recoveries ≠ [])
      (hq : ∀ confirmationId now, q = .advanceConfirmation confirmationId now →
        ¬ s.ConfirmsSettlement confirmationId)
      (hopen : ∀ body id actorId, q ≠ .openRecovery body id actorId) : BranchMove decimal s t q
  | confirmed (confirmationId : Uuid) (now : Timestamp) (actorId : Uuid) (dispositionRef : String)
      (hconfirms : s.ConfirmsSettlement confirmationId)
      (htabs : t.tables = s.tables.satisfy .hgSettlementConfirmed actorId dispositionRef now)
      (happrs : t.approvals = s.approvals) :
      BranchMove decimal s t (.advanceConfirmation confirmationId now)
  | opened (body : SettlementTables.OpenRecoveryRequest) (id actorId : Uuid)
      (hopened : s.tables.openRecovery decimal body id actorId = .ok t.tables)
      (happrs : t.approvals = s.approvals) : BranchMove decimal s t (.openRecovery body id actorId)
  | approved (approvalId : Uuid) (now : Timestamp) (actorId : Uuid) (dispositionRef : String)
      (hcase : ∃ run, s.approvals approvalId = some run ∧ run.stage = .approved)
      (htabs : t.tables = s.tables.satisfy .hgRecoveryStrategyApproved actorId dispositionRef now)
      (happrs : ∀ id run, t.approvals id = some run → run.stage = .approved →
        s.approvals id = some run) :
      BranchMove decimal s t (.advanceApproval approvalId now)

theorem branchMove_confirmation {confirmationId : Uuid} {run run' : Confirmation}
    (hrun : s.confirmations confirmationId = some run)
    (hadv : run.advance s.tables now = some (tables', run')) :
    BranchMove decimal s
      { s with
        tables := tables'
        confirmations := Function.update s.confirmations confirmationId (some run') }
      (.advanceConfirmation confirmationId now) := by
  -- every transaction but the gate write leaves the branches alone
  have hsame : SameBranches s.tables tables' → (∀ check, run.stage ≠ .receipted check) →
      BranchMove decimal s
        { s with
          tables := tables'
          confirmations := Function.update s.confirmations confirmationId (some run') }
        (.advanceConfirmation confirmationId now) := by
    intro hbranches hstage
    refine .same _ hbranches (fun _ _ hold _ => Or.inl hold) ?_ (by rintro _ _ _ ⟨⟩)
    rintro _ _ hq ⟨_, check, hother, hreceipted⟩
    obtain ⟨rfl, rfl⟩ := SettlementRequest.advanceConfirmation.inj hq
    obtain rfl := Option.some.inj (hrun.symm.trans hother)
    exact hstage check hreceipted
  unfold Confirmation.advance at hadv
  split at hadv
  · rename_i hstage
    split at hadv
    all_goals
      cases hadv
      exact hsame (SameBranches.refl _) (fun check h => by rw [hstage] at h; cases h)
  · rename_i hstage
    cases hadv
    exact hsame ⟨rfl, rfl, Iff.rfl⟩ (fun check h => by rw [hstage] at h; cases h)
  · rename_i check hstage
    cases hadv
    exact .confirmed _ _ _ _ ⟨run, check, hrun, hstage⟩ rfl rfl
  · rename_i hstage
    cases hadv
    exact hsame ⟨rfl, rfl, Iff.rfl⟩ (fun check h => by rw [hstage] at h; cases h)
  · cases hadv
  · cases hadv

theorem branchMove_approval {approvalId : Uuid} {run run' : StrategyApproval}
    (hrun : s.approvals approvalId = some run)
    (hadv : run.advance s.tables now = some (tables', run')) :
    BranchMove decimal s
      { s with
        tables := tables'
        approvals := Function.update s.approvals approvalId (some run') }
      (.advanceApproval approvalId now) := by
  have hother : ∀ id other, Function.update s.approvals approvalId (some run') id = some other →
      other.stage = .approved → s.approvals id = some other ∨ run'.stage = .approved := by
    intro id other hid hstage
    rcases update_some_cases hid with ⟨-, rfl⟩ | ⟨-, hold⟩
    · exact Or.inr hstage
    · exact Or.inl hold
  -- every transaction but the approval and the gate write leaves the branches alone
  have hsame : SameBranches s.tables tables' → run'.stage ≠ .approved →
      BranchMove decimal s
        { s with
          tables := tables'
          approvals := Function.update s.approvals approvalId (some run') }
        (.advanceApproval approvalId now) := by
    intro hbranches hstage
    refine .same _ hbranches ?_ (by rintro _ _ ⟨⟩) (by rintro _ _ _ ⟨⟩)
    intro id other hid happroved
    rcases hother id other hid happroved with hold | hnew
    · exact Or.inl hold
    · exact absurd hnew hstage
  unfold StrategyApproval.advance at hadv
  split at hadv
  · split at hadv
    all_goals
      cases hadv
      exact hsame (SameBranches.refl _) (by rintro ⟨⟩)
  · split at hadv
    · rename_i approved happrove
      cases hadv
      obtain ⟨hbranches, hcase⟩ := sameBranches_approve happrove
      exact .same _ hbranches (fun _ _ _ _ => Or.inr hcase) (by rintro _ _ ⟨⟩) (by rintro _ _ _ ⟨⟩)
    · cases hadv
      exact hsame (SameBranches.refl _) (by rintro ⟨⟩)
  · rename_i hstage
    cases hadv
    refine .approved _ _ _ _ ⟨run, hrun, hstage⟩ rfl ?_
    intro id other hid happroved
    rcases hother id other hid happroved with hold | hnew
    · exact hold
    · cases hnew
  · cases hadv
    exact hsame ⟨rfl, rfl, Iff.rfl⟩ (by rintro ⟨⟩)
  · cases hadv
  · cases hadv

theorem branchMove_of_step (h : step decimal s q = some t) : BranchMove decimal s t q := by
  cases q with
  | check =>
    obtain ⟨_, htabs, rfl⟩ := Option.map_eq_some_iff.1 h
    exact .same _ (sameBranches_check (toOption_eq_some.1 htabs))
      (fun _ _ hold _ => Or.inl hold) (by rintro _ _ ⟨⟩) (by rintro _ _ _ ⟨⟩)
  | openConfirmation =>
    unfold step at h
    dsimp only at h
    split at h
    · cases h
    cases h
    exact .same _ (SameBranches.refl _) (fun _ _ hold _ => Or.inl hold) (by rintro _ _ ⟨⟩)
      (by rintro _ _ _ ⟨⟩)
  | advanceConfirmation =>
    obtain ⟨⟨_, _⟩, hbind, rfl⟩ := Option.map_eq_some_iff.1 h
    obtain ⟨_, hrun, hadv⟩ := Option.bind_eq_some_iff.1 hbind
    exact branchMove_confirmation hrun hadv
  | openRecovery body id actorId =>
    obtain ⟨_, htabs, rfl⟩ := Option.map_eq_some_iff.1 h
    exact .opened body id actorId (toOption_eq_some.1 htabs) rfl
  | openApproval =>
    unfold step at h
    dsimp only at h
    split at h
    · cases h
    cases h
    refine .same _ (SameBranches.refl _) ?_ (by rintro _ _ ⟨⟩) (by rintro _ _ _ ⟨⟩)
    intro id run hid hstage
    rcases update_some_cases hid with ⟨-, rfl⟩ | ⟨-, hold⟩
    · cases hstage
    · exact Or.inl hold
  | advanceApproval =>
    obtain ⟨⟨_, _⟩, hbind, rfl⟩ := Option.map_eq_some_iff.1 h
    obtain ⟨_, hrun, hadv⟩ := Option.bind_eq_some_iff.1 hbind
    exact branchMove_approval hrun hadv

/-! ## The exact condition -/

theorem Backed.step (h : Backed s) (hstep : step decimal s q = some t) : Backed t := by
  cases branchMove_of_step hstep with
  | same _ hsame happrs =>
    have hne : s.tables.recoveries ≠ [] → t.tables.recoveries ≠ [] :=
      fun hs ht => hs (hsame.recoveries.1 ht)
    refine ⟨fun hgate => hne (h.gate (hsame.satisfied_iff.1 hgate)), ?_⟩
    intro id run hrun hstage
    rcases happrs id run hrun hstage with hold | hcase
    · exact hne (h.approved id run hold hstage)
    · exact hne hcase
  | confirmed _ _ _ _ _ htabs happrs =>
    constructor
    · rw [htabs, satisfied_satisfy_iff]
      rintro (hgate | hother)
      · exact h.gate hgate
      · cases hother
    · rw [htabs, happrs]
      exact h.approved
  | opened _ _ _ hopened =>
    have hrecoveries := (openRecovery_eq_ok hopened).2.2.2.1
    have hne : t.tables.recoveries ≠ [] := by
      rw [hrecoveries]
      exact List.cons_ne_nil _ _
    exact ⟨fun _ => hne, fun _ _ _ _ => hne⟩
  | approved approvalId _ _ _ hcase htabs =>
    obtain ⟨run, hrun, hstage⟩ := hcase
    have hne : t.tables.recoveries ≠ [] := by
      rw [htabs]
      exact h.approved approvalId run hrun hstage
    exact ⟨fun _ => hne, fun _ _ _ _ => hne⟩

/-- **One step.** From a state where the branches exclude each other, a step keeps that exactly when it
looks at the other branch. -/
theorem exclusive_step_iff (hbacked : Backed s) (hexclusive : Exclusive s)
    (hstep : step decimal s q = some t) : Exclusive t ↔ LooksAtOther s q := by
  cases branchMove_of_step hstep with
  | same q hsame _ hq hopen =>
    have hkept : Exclusive t := by
      unfold Exclusive
      rw [hsame.satisfied_iff, hsame.satisfied_iff, ne_eq, hsame.recoveries]
      exact hexclusive
    refine iff_of_true hkept ?_
    cases q with
    | advanceConfirmation => exact fun hconfirms => absurd hconfirms (hq _ _ rfl)
    | openRecovery body id actorId => exact absurd rfl (hopen body id actorId)
    | check | openConfirmation | openApproval | advanceApproval => trivial
  | confirmed _ _ _ _ hconfirms htabs =>
    have hrecoveries : t.tables.recoveries = s.tables.recoveries := by
      rw [htabs]
      rfl
    have hgate : t.tables.Satisfied .hgSettlementConfirmed := by
      rw [htabs, satisfied_satisfy_iff]
      exact Or.inr rfl
    constructor
    · intro hkept _
      by_contra hcase
      exact hkept ⟨hgate, Or.inl (by rw [hrecoveries]; exact hcase)⟩
    · rintro hlooks ⟨-, hrecovery⟩
      have hnone := hlooks hconfirms
      rcases hrecovery with hcase | hstrategy
      · rw [hrecoveries] at hcase
        exact hcase hnone
      · rw [htabs, satisfied_satisfy_iff] at hstrategy
        rcases hstrategy with hold | hother
        · exact hbacked.gate hold hnone
        · cases hother
  | opened _ _ _ hopened =>
    obtain ⟨hver, hgates, -, hrecoveries, -⟩ := openRecovery_eq_ok hopened
    have hsame : t.tables.Satisfied .hgSettlementConfirmed ↔
        s.tables.Satisfied .hgSettlementConfirmed := by
      unfold SettlementTables.Satisfied
      rw [hgates, hver]
    constructor
    · intro hkept hsettled
      refine hkept ⟨hsame.2 hsettled, Or.inl ?_⟩
      rw [hrecoveries]
      exact List.cons_ne_nil _ _
    · rintro hlooks ⟨hsettled, -⟩
      exact hlooks (hsame.1 hsettled)
  | approved approvalId _ _ _ hcase htabs =>
    obtain ⟨run, hrun, hstage⟩ := hcase
    refine iff_of_true ?_ trivial
    -- the approval has a recovery case, so the settlement gate is open
    rintro ⟨hsettled, -⟩
    rw [htabs, satisfied_satisfy_iff] at hsettled
    rcases hsettled with hold | hother
    · exact hexclusive ⟨hold, Or.inl (hbacked.approved approvalId run hrun hstage)⟩
    · cases hother

/-- **When the branches exclude each other.** They do in every state of a run exactly when every settlement
gate of the run is written without a recovery case, and every recovery case is opened while the settlement
gate is open. -/
theorem exclusive_iff {qs : List SettlementRequest} (hinit : Initial s)
    (hrun : run (step decimal) s qs = some t) :
    AllAlong (step decimal) Exclusive s qs ↔ RunMeets (step decimal) LooksAtOther s qs := by
  have hinv : ∀ {s q t}, Backed s → Exclusive s → step decimal s q = some t → Exclusive t → Backed t :=
    fun hbacked _ hstep _ => hbacked.step hstep
  have hiff : ∀ {s q t}, Backed s → Exclusive s → step decimal s q = some t →
      (Exclusive t ↔ LooksAtOther s q) :=
    fun hbacked hexclusive hstep => exclusive_step_iff hbacked hexclusive hstep
  exact allAlong_iff_runMeets hinv hiff hinit.backed hinit.exclusive hrun

/-- What `Decimal` reads from a text of digits. -/
def digitsDecimal (text : String) : ParsedDecimal :=
  if text ≠ "" ∧ text.toList.all Char.isDigit = true then
    .finite (.ofInt (text.toList.foldl (fun n c => 10 * n + (c.toNat - '0'.toNat)) 0))
  else .invalid

/-- A ledger without a balance. -/
def settledBody : SettlementTables.CheckRequest :=
  ⟨"0", "0", "0", 0⟩

/-- A shortfall of three periods. -/
def shortfallBody : SettlementTables.OpenRecoveryRequest where
  outstandingTotal := "100"
  periodsInShortfall := 3
  triggerSummaryVi := "chậm trả ba kỳ"
  escalationRationaleVi := "cần xử lý nợ"
  evidenceRefs := ["bút toán 7"]
  options := [⟨"cơ cấu", "giãn nợ", "kéo dài kỳ hạn", none⟩]

/-- A settlement, and a recovery case after it. -/
def bothRun : List SettlementRequest :=
  [.check settledBody 10 7 1, .openConfirmation 20 7, .advanceConfirmation 20 2,
    .advanceConfirmation 20 3, .advanceConfirmation 20 4, .openRecovery shortfallBody 30 8]

theorem bothRun_ends : (run (step digitsDecimal) (start 1 1) bothRun).any (fun t =>
    t.tables.Satisfied .hgSettlementConfirmed ∧ t.tables.recoveries.isEmpty = false) = true := by
  decide +kernel

/-- **A settled case version with a recovery case.** The balance of the settlement and the shortfall of the
recovery are both taken from what the officers supply. -/
theorem settled_and_recovering : ¬ ∀ (decimal : String → ParsedDecimal) (qs : List SettlementRequest)
    (s t : SettlementSystem), Initial s → run (step decimal) s qs = some t → Exclusive t := by
  intro hclaim
  obtain ⟨t, hrun, hends⟩ := (Option.any_eq_true _ _).1 bothRun_ends
  obtain ⟨hsettled, hcase⟩ := of_decide_eq_true hends
  refine hclaim digitsDecimal bothRun (start 1 1) t (initial_start 1 1) hrun ⟨hsettled, Or.inl ?_⟩
  intro hnone
  rw [hnone] at hcase
  cases hcase

/-- A settlement with nothing beside it. -/
def settledRun : List SettlementRequest :=
  [.check settledBody 10 7 1, .openConfirmation 20 7, .advanceConfirmation 20 2,
    .advanceConfirmation 20 3, .advanceConfirmation 20 4, .advanceConfirmation 20 5]

theorem settledRun_ends : (run (step digitsDecimal) (start 1 1) settledRun).any (fun t =>
    t.tables.Satisfied .hgSettlementConfirmed ∧ t.tables.audit.length = 3) = true := by
  decide +kernel

theorem settledRun_exclusive : ∃ t,
    run (step digitsDecimal) (start 1 1) settledRun = some t ∧
      t.tables.Satisfied .hgSettlementConfirmed ∧
        (AllAlong (step digitsDecimal) Exclusive (start 1 1) settledRun ↔
          RunMeets (step digitsDecimal) LooksAtOther (start 1 1) settledRun) := by
  obtain ⟨t, hrun, hends⟩ := (Option.any_eq_true _ _).1 settledRun_ends
  exact ⟨t, hrun, (of_decide_eq_true hends).1, exclusive_iff (initial_start 1 1) hrun⟩

end SettlementSystem

end CreditOps.SettlementRecovery
