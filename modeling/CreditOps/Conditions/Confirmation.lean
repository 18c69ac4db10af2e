import CreditOps.Orchestration.HumanGates
import CreditOps.Conditions.Endpoints

/-!
# What a confirmed ledger is worth

A confirmation checks the ledger and the verifying actors once and satisfies a gate that nothing opens
again. Neither creating a condition nor moving one looks at the gate, and a condition or a verification
can also slip in between a confirmation's reading and its gate write.
-/

set_option autoImplicit false

namespace CreditOps.Conditions

open Transition RowTransactions PartialMap Orchestration ConditionStatus ConditionTable

/-! ## The promises -/

/-- **The gate is truthful.** A confirmed ledger is confirmable. -/
def GateTruthful (s : System) : Prop :=
  s.Confirmed → deriveConditionsConfirmable s.ledger.statuses = true

instance (s : System) : Decidable (GateTruthful s) :=
  inferInstanceAs (Decidable (_ → _))

/-- The ledger was confirmed by an actor. -/
abbrev System.ConfirmedBy (s : System) (actorId : Uuid) : Prop :=
  s.tables.SatisfiedBy s.caseVersion .hgDisbursementConditionsConfirmed actorId

/-- **Duties are separate.** No actor who has verified a condition has confirmed the ledger. -/
def Segregated (s : System) : Prop :=
  ∀ actorId ∈ s.ledger.verifyingActorIds, ¬ s.ConfirmedBy actorId

instance (s : System) : Decidable (Segregated s) :=
  inferInstanceAs (Decidable (∀ actorId ∈ s.ledger.verifyingActorIds, _))

/-! ## The conditions -/

/-- The conditions a confirmation has listed have not been superseded since, and the others are satisfied
on their own. -/
def stillReady (s : System) (confirmation : Confirmation) : Bool :=
  s.ledger.listing.all fun condition =>
    if condition.id ∈ confirmation.listed then condition.status ≠ superseded
    else condition.status ∈ confirmableStatuses

/-- The condition on one step: a confirmed ledger gets no new condition and loses none, and a ledger is
confirmed only while what the confirmation has listed still stands. -/
def KeepsConfirmed (s : System) : Request → Prop
  | .create _ _ _ _ => ¬ s.Confirmed
  | .transition callId .commit =>
    s.Confirmed → (s.session.transactions callId).all (·.request.toStatus ≠ superseded) = true
  | .satisfyGate confirmId _ =>
    s.Confirmed ∨ (s.confirmations confirmId).all (stillReady s) = true
  | _ => True

/-- The condition on one step: the confirmer verifies nothing, and a ledger is confirmed only by an actor
who has verified nothing so far. -/
def KeepsSegregated (s : System) : Request → Prop
  | .transition callId .commit =>
    (s.session.transactions callId).all (fun transaction =>
      transaction.request.toStatus = verified → ¬ s.ConfirmedBy transaction.request.actorId) = true
  | .satisfyGate confirmId _ =>
    s.Confirmed ∨
      (s.confirmations confirmId).all (·.actorId ∉ s.ledger.verifyingActorIds) = true
  | _ => True

instance (s : System) : ∀ q, Decidable (KeepsConfirmed s q)
  | .create _ _ _ _ => inferInstanceAs (Decidable (¬ s.Confirmed))
  | .transition _ .commit => inferInstanceAs (Decidable (s.Confirmed → _ = true))
  | .satisfyGate _ _ => inferInstanceAs (Decidable (s.Confirmed ∨ _ = true))
  | .transition _ .update | .transition _ .record | .transition _ .rollback | .decide _
  | .receive _ _ _ _ | .begin _ | .openConfirm _ _ | .checkVerifiers _ | .auditConfirm _ =>
    isTrue trivial

instance (s : System) : ∀ q, Decidable (KeepsSegregated s q)
  | .transition _ .commit => inferInstanceAs (Decidable (_ = true))
  | .satisfyGate _ _ => inferInstanceAs (Decidable (s.Confirmed ∨ _ = true))
  | .create _ _ _ _ | .transition _ .update | .transition _ .record | .transition _ .rollback
  | .decide _ | .receive _ _ _ _ | .begin _ | .openConfirm _ _ | .checkVerifiers _
  | .auditConfirm _ => isTrue trivial

variable {s t : System} {q : Request}

/-! ## What a step does to the gate -/

theorem tables_of_step (h : step s q = some t) (hwrite : ∀ confirmId now, q ≠ .satisfyGate confirmId now) :
    t.tables = s.tables ∧ t.caseVersion = s.caseVersion := by
  cases step_cases h with
  | satisfied => exact absurd rfl (hwrite _ _)
  | decided | created | received | begun | executed | opened | cleared | refused | audited =>
    exact ⟨rfl, rfl⟩

theorem confirmed_congr (h : t.tables = s.tables ∧ t.caseVersion = s.caseVersion) :
    t.Confirmed ↔ s.Confirmed := by
  rw [System.Confirmed, System.Confirmed, h.1, h.2]

theorem confirmedBy_congr (h : t.tables = s.tables ∧ t.caseVersion = s.caseVersion) {actorId : Uuid} :
    t.ConfirmedBy actorId ↔ s.ConfirmedBy actorId := by
  rw [System.ConfirmedBy, System.ConfirmedBy, h.1, h.2]

theorem confirmed_satisfy (s : System) (actorId : Uuid) (now : Timestamp) :
    (s.satisfy actorId now).Confirmed :=
  CaseTables.gateSatisfied_ensureGate_self ..

/-! ## What a step does to the statuses -/

variable {table : ConditionTable}

theorem confirmable_statuses_iff :
    deriveConditionsConfirmable table.statuses = true ↔
      table.listing ≠ [] ∧ ∀ condition ∈ table.listing, condition.status ∈ confirmableStatuses := by
  rw [confirmable_iff, statuses, ne_eq, List.map_eq_nil_iff]
  simp only [List.mem_map, forall_exists_index, and_imp, forall_apply_eq_imp_iff₂]

theorem not_confirmable_of_mem {condition : DisbursementCondition} (hmem : condition ∈ table.listing)
    (hstat : condition.status ∉ confirmableStatuses) :
    ¬ deriveConditionsConfirmable table.statuses = true :=
  fun h => hstat ((confirmable_statuses_iff.1 h).2 condition hmem)

/-- What a confirmation in flight has listed is still there, satisfied or superseded. -/
def ListedStands (s : System) : Prop :=
  ∀ confirmId confirmation, s.confirmations confirmId = some confirmation →
    confirmation.listed ≠ [] ∧ ∀ id ∈ confirmation.listed, ∃ condition,
      s.ledger.rows id = some condition ∧
        (condition.status ∈ confirmableStatuses ∨ condition.status = superseded)

/-- What every reachable state satisfies. -/
structure ConfirmInv (s : System) : Prop where
  trailed : Trailed s
  keyed : s.tables.GatesKeyed
  listed : ListedStands s

theorem checkConfirm_eq_ok {actor : Disbursements.ActorContext} {listed : List Uuid}
    (h : checkConfirm table actor = .ok listed) :
    deriveConditionsConfirmable table.statuses = true ∧ listed = table.listing.map (·.id) := by
  simp only [checkConfirm, requireRole] at h
  split_ifs at h with hrole hconfirmable
  · cases h
    exact ⟨hconfirmable, rfl⟩
  · cases h
  all_goals cases h

theorem Initial.confirmInv (h : Initial s) : ConfirmInv s where
  trailed := h.trailed
  keyed := h.gatesKeyed
  listed confirmId confirmation hconf := by
    rw [h.noConfirmation] at hconf
    cases hconf

/-- What is listed stays satisfied or superseded under every move of the ledger. -/
theorem listed_stands_of_move (hmove : LedgerMove s q table) {id : Uuid}
    (hlisted : ∃ condition, s.ledger.rows id = some condition ∧ (condition.status ∈ confirmableStatuses ∨ condition.status = superseded)) :
    ∃ condition, table.rows id = some condition ∧
      (condition.status ∈ confirmableStatuses ∨ condition.status = superseded) := by
  obtain ⟨condition, hrow, hstat⟩ := hlisted
  cases hmove with
  | same => exact ⟨condition, hrow, hstat⟩
  | @opened newId actor body now decision table hcheck hins =>
    obtain ⟨hfree, hrows, -⟩ := Table.insert_eq_some hins
    exact ⟨condition, hrows ▸ update_of_free hfree hrow, hstat⟩
  | @moved callId transaction table htx happly =>
    obtain ⟨current, hcur, hallow, -, hrows, -⟩ := applied_cases happly
    by_cases hid : id = transaction.request.conditionId
    · subst hid
      obtain rfl : condition = current := Option.some.inj (hrow.symm.trans hcur)
      refine ⟨_, by rw [hrows, Function.update_self], Or.inr ?_⟩
      rcases hstat with hconfirmable | hsuperseded
      · exact toStatus_of_confirmable hconfirmable hallow
      · rw [hsuperseded, not_allowed_of_superseded] at hallow
        cases hallow
    · exact ⟨condition, by rw [hrows, Function.update_of_ne hid, hrow], hstat⟩

theorem ConfirmInv.step (h : ConfirmInv s) (hstep : Conditions.step s q = some t) : ConfirmInv t := by
  have hmove := ledgerMove_of_step h.trailed.consistent hstep
  refine ⟨h.trailed.step hstep, ?_, ?_⟩
  · cases step_cases hstep with
    | satisfied => exact h.keyed.ensureGate ..
    | decided | created | received | begun | executed | opened | cleared | refused | audited =>
      exact h.keyed
  · have hold : ∀ confirmId confirmation, s.confirmations confirmId = some confirmation →
        confirmation.listed ≠ [] ∧ ∀ id ∈ confirmation.listed, ∃ condition,
          t.ledger.rows id = some condition ∧
            (condition.status ∈ confirmableStatuses ∨ condition.status = superseded) := by
      intro confirmId confirmation hconf
      obtain ⟨hne, hlisted⟩ := h.listed confirmId confirmation hconf
      exact ⟨hne, fun id hid => listed_stands_of_move hmove (hlisted id hid)⟩
    have hset : ∀ {confirmId confirmation phase}, s.confirmations confirmId = some confirmation →
        ∀ id c, Function.update s.confirmations confirmId (some { confirmation with phase }) id =
          some c → c.listed ≠ [] ∧ ∀ id ∈ c.listed, ∃ condition,
            t.ledger.rows id = some condition ∧
              (condition.status ∈ confirmableStatuses ∨ condition.status = superseded) := by
      intro confirmId confirmation phase hconf id c hc
      rcases update_some_cases hc with ⟨-, rfl⟩ | ⟨-, hc'⟩
      · exact hold confirmId confirmation hconf
      · exact hold id c hc'
    cases step_cases hstep with
    | decided | created | received | begun | executed => exact hold
    | cleared hconf | refused hconf | satisfied hconf
    | audited hconf => exact hset hconf
    | @opened confirmId actor listed hfree hcheck =>
      obtain ⟨hconfirmable, rfl⟩ := checkConfirm_eq_ok hcheck
      obtain ⟨hne, hall⟩ := confirmable_statuses_iff.1 hconfirmable
      intro id c hc
      rcases update_some_cases hc with ⟨-, rfl⟩ | ⟨-, hc'⟩
      · refine ⟨fun hnil => hne (List.map_eq_nil_iff.1 hnil), fun conditionId hid => ?_⟩
        obtain ⟨condition, hmem, rfl⟩ := List.mem_map.1 hid
        obtain ⟨_, hrow⟩ := Table.mem_listing_iff.1 hmem
        have hkey := h.trailed.trail.filed hrow
        exact ⟨condition, hkey ▸ hrow, Or.inl (hall condition hmem)⟩
      · exact hold id c hc'

/-! ## Truthfulness -/

theorem truthful_congr (htabs : t.tables = s.tables ∧ t.caseVersion = s.caseVersion)
    (hledger : t.ledger = s.ledger) : GateTruthful t ↔ GateTruthful s := by
  rw [GateTruthful, GateTruthful, confirmed_congr htabs, hledger]

/-- What is still ready makes the ledger confirmable, and nothing else does. -/
theorem confirmable_iff_stillReady (h : ConfirmInv s) {confirmId : Uuid} {confirmation : Confirmation}
    (hconf : s.confirmations confirmId = some confirmation) :
    deriveConditionsConfirmable s.ledger.statuses = true ↔ stillReady s confirmation = true := by
  obtain ⟨hne, hlisted⟩ := h.listed confirmId confirmation hconf
  rw [confirmable_statuses_iff, stillReady, List.all_eq_true]
  constructor
  · rintro ⟨-, hall⟩ condition hmem
    split_ifs with hid
    · refine decide_eq_true fun hsuperseded => ?_
      exact absurd (hall condition hmem) (by rw [hsuperseded]; decide)
    · exact decide_eq_true (hall condition hmem)
  · intro hready
    refine ⟨?_, fun condition hmem => ?_⟩
    · -- the confirmation has listed a condition, and conditions are never deleted
      obtain ⟨id, hid⟩ := List.exists_mem_of_ne_nil _ hne
      obtain ⟨_, hrow, -⟩ := hlisted id hid
      exact List.ne_nil_of_mem (Table.mem_listing_iff.2 ⟨id, hrow⟩)
    · have hcond := hready condition hmem
      split_ifs at hcond with hid
      · obtain ⟨other, hrow, hstat⟩ := hlisted condition.id hid
        obtain ⟨_, hkey⟩ := Table.mem_listing_iff.1 hmem
        obtain rfl := h.trailed.trail.filed hkey
        obtain rfl : condition = other := Option.some.inj (hkey.symm.trans hrow)
        exact hstat.resolve_right (of_decide_eq_true hcond)
      · exact of_decide_eq_true hcond

/-- **A step keeps the gate truthful exactly if it meets the condition.** -/
theorem truthful_step_iff (h : ConfirmInv s) (htruthful : GateTruthful s) (hstep : step s q = some t) :
    GateTruthful t ↔ KeepsConfirmed s q := by
  have hcons := h.trailed.consistent
  cases q with
  | create newId =>
    have htabs := tables_of_step hstep nofun
    cases step_cases hstep with
    | @created _ _ _ _ decision table hcheck hins =>
      obtain ⟨-, hrows, -⟩ := Table.insert_eq_some hins
      -- the new condition is pending
      have hblocked : ¬ deriveConditionsConfirmable table.statuses = true :=
        not_confirmable_of_mem (Table.mem_listing_iff.2 ⟨newId, by rw [hrows, Function.update_self]⟩)
          (show pending ∉ confirmableStatuses by decide)
      exact imp_iff_not hblocked
  | transition _ statement =>
    have htabs := tables_of_step hstep nofun
    cases statement with
    | commit =>
      obtain ⟨transaction, htx, happly⟩ := commit_of_step hcons hstep
      obtain ⟨current, hcur, hallow, -, hrows, -⟩ := applied_cases happly
      rw [GateTruthful, confirmed_congr htabs]
      simp only [KeepsConfirmed, htx, Option.all_some, ne_eq, decide_not,
        Bool.not_eq_true', decide_eq_false_iff_not]
      refine imp_congr_right fun hconfirmed => ?_
      -- in a confirmed ledger the condition was satisfied, so it is superseded
      have hsat := (confirmable_statuses_iff.1 (htruthful hconfirmed)).2 current
        (Table.mem_listing_iff.2 ⟨_, hcur⟩)
      have hsuperseded := toStatus_of_confirmable hsat hallow
      refine iff_of_false (not_confirmable_of_mem (Table.mem_listing_iff.2
        ⟨_, by rw [hrows, Function.update_self]⟩) ?_) (not_not.2 hsuperseded)
      show transaction.request.toStatus ∉ confirmableStatuses
      rw [hsuperseded]
      decide
    | update | record | rollback =>
      rw [truthful_congr htabs (ledger_of_step hcons hstep nofun nofun)]
      exact iff_of_true htruthful trivial
  | satisfyGate _ now =>
    cases step_cases hstep with
    | @satisfied _ _ confirmation hconf hphase =>
      have hready := confirmable_iff_stillReady h hconf
      simp only [KeepsConfirmed, hconf, Option.all_some, ← hready]
      constructor
      · intro hafter
        exact Or.inr (hafter (confirmed_satisfy s confirmation.actorId now))
      · rintro (hconfirmed | hconfirmable) -
        · exact htruthful hconfirmed
        · exact hconfirmable
  | decide | receive | begin | openConfirm | checkVerifiers | auditConfirm =>
    rw [truthful_congr (tables_of_step hstep nofun) (ledger_of_step hcons hstep nofun nofun)]
    exact iff_of_true htruthful trivial

/-- **When the conditions gate is truthful.** The gate stays truthful in every state of a run exactly if
every step meets the condition. -/
theorem conditionsGate_truthful_iff {as : List Request} (hinit : Initial s)
    (hrun : run step s as = some t) :
    AllAlong step GateTruthful s as ↔ RunMeets step KeepsConfirmed s as :=
  allAlong_iff_runMeets (fun hs _ hstep _ => ConfirmInv.step hs hstep)
    (fun hs htruthful hstep => truthful_step_iff hs htruthful hstep) hinit.confirmInv
    (fun hconfirmed => absurd hconfirmed hinit.gateOpen) hrun

/-- The officer opens a condition, submits evidence for it, and the checker verifies it. -/
def verifying (newId callId : Uuid) (verifier : Uuid) : List Request :=
  opening newId :: (transitioning callId officer newId "EVIDENCE_SUBMITTED" none ++
    transitioning (callId + 1) (checker verifier) newId "VERIFIED" none)

/-- An independent checker confirms the ledger. -/
def confirming (confirmId confirmer : Uuid) : List Request :=
  [.openConfirm confirmId (checker confirmer), .checkVerifiers confirmId, .satisfyGate confirmId 9,
    .auditConfirm confirmId]

/-- One condition is verified and the ledger is confirmed. -/
def verifiedThenConfirmed : List Request :=
  verifying 10 1 30 ++ confirming 1 31

theorem verifiedThenConfirmed_truthful :
    ∃ t, run step approvedCase verifiedThenConfirmed = some t ∧ t.Confirmed ∧
      AllAlong step GateTruthful approvedCase verifiedThenConfirmed := by
  have hruns : (run step approvedCase verifiedThenConfirmed).any (·.Confirmed) = true := by
    decide +kernel
  obtain ⟨t, hrun, hconfirmed⟩ := (Option.any_eq_true _ _).1 hruns
  have hmeets : RunMeets step KeepsConfirmed approvedCase verifiedThenConfirmed := by decide +kernel
  exact ⟨t, hrun, of_decide_eq_true hconfirmed,
    (conditionsGate_truthful_iff approvedCase_initial hrun).2 hmeets⟩

/-- **A confirmed ledger takes another condition.** The ledger is confirmed on its one verified condition,
and the officer opens a second one. -/
theorem confirmed_with_pending :
    Initial approvedCase ∧ ∃ t, run step approvedCase (verifiedThenConfirmed ++ [opening 11]) = some t ∧
      t.Confirmed ∧ t.ledger.statuses = [verified, pending] ∧ ¬ GateTruthful t := by
  have hruns : (run step approvedCase (verifiedThenConfirmed ++ [opening 11])).any (fun t =>
      t.Confirmed ∧ t.ledger.statuses = [verified, pending] ∧ ¬ GateTruthful t) = true := by
    decide +kernel
  obtain ⟨t, hrun, hstate⟩ := (Option.any_eq_true _ _).1 hruns
  exact ⟨approvedCase_initial, t, hrun, of_decide_eq_true hstate⟩

/-! ## Segregation of duties -/

theorem verifyingActorIds_of_cons {table' : ConditionTable} {key : Uuid} {entry : LedgerEntry}
    (h : table'.log = (key, entry) :: table.log) :
    table'.verifyingActorIds =
      if entry.event.toStatus = verified then entry.event.actorId :: table.verifyingActorIds
      else table.verifyingActorIds := by
  unfold verifyingActorIds
  rw [h, List.map_cons, List.filter_cons]
  by_cases hverified : entry.event.toStatus = verified
  · rw [if_pos (decide_eq_true hverified), if_pos hverified, List.map_cons]
  · rw [if_neg (by simpa using hverified), if_neg hverified]

theorem segregated_congr (htabs : t.tables = s.tables ∧ t.caseVersion = s.caseVersion)
    (hverifying : t.ledger.verifyingActorIds = s.ledger.verifyingActorIds) :
    Segregated t ↔ Segregated s := by
  rw [Segregated, Segregated, hverifying]
  exact forall₂_congr fun _ _ => not_congr (confirmedBy_congr htabs)

/-- **A step keeps the duties apart exactly if it meets the condition.** -/
theorem segregated_step_iff (h : ConfirmInv s) (hsegregated : Segregated s)
    (hstep : step s q = some t) : Segregated t ↔ KeepsSegregated s q := by
  have hcons := h.trailed.consistent
  cases q with
  | create =>
    have htabs := tables_of_step hstep (by rintro _ _ ⟨⟩)
    refine iff_of_true ((segregated_congr htabs ?_).2 hsegregated) trivial
    cases step_cases hstep with
    | created _ hins =>
      -- a creation is no verification
      rw [System.ledger, verifyingActorIds_of_cons (Table.insert_eq_some hins).2.2, if_neg]
      rintro ⟨⟩
  | transition _ statement =>
    have htabs := tables_of_step hstep (by rintro _ _ ⟨⟩)
    cases statement with
    | commit =>
      obtain ⟨transaction, htx, happly⟩ := commit_of_step hcons hstep
      obtain ⟨_, -, -, -, -, hlog⟩ := applied_cases happly
      simp only [KeepsSegregated, htx, Option.all_some, decide_eq_true_eq]
      have hverifying : t.ledger.verifyingActorIds =
          if transaction.request.toStatus = verified then
            transaction.request.actorId :: s.ledger.verifyingActorIds
          else s.ledger.verifyingActorIds := verifyingActorIds_of_cons hlog
      by_cases hverified : transaction.request.toStatus = verified
      · rw [if_pos hverified] at hverifying
        rw [Segregated, hverifying, List.forall_mem_cons, confirmedBy_congr htabs]
        refine and_iff_left_of_imp (fun _ actorId hmem => ?_) |>.trans (imp_iff_right hverified).symm
        rw [confirmedBy_congr htabs]
        exact hsegregated actorId hmem
      · rw [if_neg hverified] at hverifying
        exact iff_of_true ((segregated_congr htabs hverifying).2 hsegregated)
          fun hsame => absurd hsame hverified
    | update | record | rollback =>
      have hledger :=
        ledger_of_step hcons hstep (by rintro _ _ _ _ ⟨⟩) (by rintro _ ⟨⟩)
      exact iff_of_true ((segregated_congr htabs (by rw [hledger])).2 hsegregated) trivial
  | satisfyGate _ now =>
    cases step_cases hstep with
    | @satisfied _ _ confirmation hconf hphase =>
      have hafter : ∀ actorId, (s.satisfy confirmation.actorId now).ConfirmedBy actorId ↔
          s.ConfirmedBy actorId ∨ (¬ s.Confirmed ∧ actorId = confirmation.actorId) :=
        fun actorId => CaseTables.satisfiedBy_ensureGate_iff h.keyed
      simp only [KeepsSegregated, hconf, Option.all_some, decide_eq_true_eq]
      constructor
      · intro hnext
        by_cases hconfirmed : s.Confirmed
        · exact Or.inl hconfirmed
        · refine Or.inr fun hmem => hnext confirmation.actorId hmem ?_
          exact (hafter _).2 (Or.inr ⟨hconfirmed, rfl⟩)
      · intro hcond actorId hmem hby
        rcases (hafter actorId).1 hby with hold | ⟨hopen, rfl⟩
        · exact hsegregated actorId hmem hold
        · exact hcond.resolve_left hopen hmem
  | decide | receive | begin | openConfirm | checkVerifiers | auditConfirm =>
    have htabs := tables_of_step hstep (by rintro _ _ ⟨⟩)
    have hledger := ledger_of_step hcons hstep (by rintro _ _ _ _ ⟨⟩) (by rintro _ ⟨⟩)
    exact iff_of_true ((segregated_congr htabs (by rw [hledger])).2 hsegregated) trivial

/-- **When confirmer and verifiers stay apart.** They do in every state of a run exactly if every step meets
the condition. -/
theorem conditions_segregated_iff {as : List Request} (hinit : Initial s)
    (hrun : run step s as = some t) :
    AllAlong step Segregated s as ↔ RunMeets step KeepsSegregated s as := by
  refine allAlong_iff_runMeets (fun hs _ hstep _ => ConfirmInv.step hs hstep)
    (fun hs hsegregated hstep => segregated_step_iff hs hsegregated hstep) hinit.confirmInv ?_ hrun
  intro actorId _ hby
  exact hinit.gateOpen hby.gateSatisfied

theorem verifiedThenConfirmed_segregated :
    ∃ t, run step approvedCase verifiedThenConfirmed = some t ∧ t.ConfirmedBy 31 ∧
      AllAlong step Segregated approvedCase verifiedThenConfirmed := by
  have hruns : (run step approvedCase verifiedThenConfirmed).any (·.ConfirmedBy 31) = true := by
    decide +kernel
  obtain ⟨t, hrun, hconfirmed⟩ := (Option.any_eq_true _ _).1 hruns
  have hmeets : RunMeets step KeepsSegregated approvedCase verifiedThenConfirmed := by decide +kernel
  exact ⟨t, hrun, of_decide_eq_true hconfirmed,
    (conditions_segregated_iff approvedCase_initial hrun).2 hmeets⟩

/-- **The confirmer verifies a condition.** The ledger is confirmed by checker 31, the officer opens a second
condition, and checker 31 verifies it. -/
theorem confirmer_verifies :
    Initial approvedCase ∧
      ∃ t, run step approvedCase (verifiedThenConfirmed ++ verifying 11 3 31) = some t ∧
        t.ConfirmedBy 31 ∧ 31 ∈ t.ledger.verifyingActorIds ∧ ¬ Segregated t := by
  have hruns : (run step approvedCase (verifiedThenConfirmed ++ verifying 11 3 31)).any (fun t =>
      t.ConfirmedBy 31 ∧ 31 ∈ t.ledger.verifyingActorIds ∧ ¬ Segregated t) = true := by
    decide +kernel
  obtain ⟨t, hrun, hstate⟩ := (Option.any_eq_true _ _).1 hruns
  exact ⟨approvedCase_initial, t, hrun, of_decide_eq_true hstate⟩

end CreditOps.Conditions
