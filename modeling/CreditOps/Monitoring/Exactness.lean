import CreditOps.Monitoring.Statements

/-!
# Alerts are exact

In every state of every run each obligation has one overdue alert if a late observation of it was recorded
and none otherwise, each covenant test has one breach alert if it failed and none otherwise, and the
dispositions of an alert lead from `OPEN` to its status along allowed moves (`alerts_exact`).
-/

set_option autoImplicit false

namespace CreditOps.Monitoring

open Transition PartialMap KeyedInserts AppendLog

/-! ## Commits -/

section Commits

variable {obligations : List MonitoringObligation} {rows new : List Row} {row : Row}
  {alert : Option EarlyWarningAlert}

/-- A row whose alert is there, or that raises none, is backed. -/
theorem Planned.backedRow (h : Planned obligations row alert)
    (htaken : ∀ a, alert = some a → Taken Row.keys rows a.source.key) :
    BackedRow obligations rows row := by
  cases h with
  | timely _ hknown htimely => exact ⟨hknown, fun hlate => absurd hlate htimely⟩
  | late _ a hknown hof _ hsource =>
    refine ⟨hknown, fun _ id hid => ?_⟩
    have hkey := htaken a rfl
    rw [hsource] at hkey
    rw [hof, Option.some.injEq] at hid
    rw [← hid]
    exact hkey
  | passed _ hpassed =>
    intro hfailed
    rw [hpassed] at hfailed
    cases hfailed
  | failed _ a _ hsource =>
    intro _
    have hkey := htaken a rfl
    rw [hsource] at hkey
    exact hkey

variable {a : EarlyWarningAlert}

/-- An alert is backed by the row that has raised it. -/
theorem Planned.backedAlert (h : Planned obligations row (some a)) (hrow : row ∈ rows) :
    BackedRow obligations rows (.alert a) := by
  cases h with
  | late o _ _ hof hlate hsource =>
    refine ⟨fun id hid => ⟨o, hrow, ?_, hlate⟩, fun id hid => ?_⟩
    · rw [hsource] at hid
      exact hof.trans hid
    · rw [hsource] at hid
      cases hid
  | failed test _ hfailed hsource =>
    refine ⟨fun id hid => ?_, fun id hid => ⟨test, hrow, ?_, hfailed⟩⟩
    · rw [hsource] at hid
      cases hid
    · rw [hsource] at hid
      exact Option.some.inj hid

theorem Planned.no_move (h : Planned obligations row alert) (alertId : Uuid) :
    Row.move? alertId row = none := by
  cases h <;> rfl

theorem moves_append (alertId : Uuid) :
    moves (new ++ rows) alertId = moves new alertId ++ moves rows alertId :=
  List.filterMap_append

variable {status : Uuid → AlertStatus}

theorem openNew_of_fresh {id : Uuid} (hfresh : ∀ a, Row.alert a ∈ new → id ≠ a.id) :
    World.openNew status new id = status id := by
  induction new with
  | nil => rfl
  | cons row _ ih =>
    have hrest := ih fun a ha => hfresh a (List.mem_cons_of_mem row ha)
    cases row with
    | alert a => exact (Function.update_of_ne (hfresh a List.mem_cons_self) ..).trans hrest
    | observation | covenantTest | disposition => exact hrest

theorem openNew_self (hnew : Row.alert a ∈ new) :
    World.openNew status new a.id = .opened := by
  induction new with
  | nil => cases hnew
  | cons row _ ih =>
    rcases List.mem_cons.1 hnew with rfl | hrest
    · exact Function.update_self ..
    · cases row with
      | alert b =>
        by_cases hid : a.id = b.id
        · rw [hid]
          exact Function.update_self ..
        · exact (Function.update_of_ne hid ..).trans (ih hrest)
      | observation | covenantTest | disposition => exact ih hrest

variable {w : World} {requestId : Uuid}

theorem Inv.id_ne (h : Inv w) {b : EarlyWarningAlert} (ha : Row.alert a ∈ w.session.staged requestId)
    (hb : Row.alert b ∈ w.session.rows) : b.id ≠ a.id := by
  intro hid
  have hapart := (List.pairwise_append.1 (h.exclusive.view requestId)).2.2 _ ha _ hb
  exact hapart (a := .alert a.id) List.mem_cons_self (by rw [← hid]; exact List.mem_cons_self)

theorem Inv.moves_eq_nil (h : Inv w) (ha : Row.alert a ∈ w.session.staged requestId) :
    moves w.session.rows a.id = [] := by
  rw [moves, List.filterMap_eq_nil_iff]
  intro row hrow
  cases row with
  | disposition =>
    obtain ⟨b, hb, hid⟩ := h.backed _ hrow
    exact if_neg (hid ▸ h.id_ne ha hb)
  | observation | covenantTest | alert => rfl

variable {session : Session Key Uuid Row} {recording : Recording}

theorem Recording.Staged.cases (h : recording.Staged session requestId)
    (hphase : recording.phase = .raised) :
    (session.staged requestId = [recording.row] ∧
      ∀ a, recording.alert = some a → Taken Row.keys session.rows a.source.key) ∨
    ∃ a, recording.alert = some a ∧ session.staged requestId = [.alert a, recording.row] := by
  unfold Recording.Staged at h
  rw [hphase] at h
  exact h

/-- What a recording transaction adds is backed. -/
theorem Inv.backed_staged (h : Inv w) (hplanned : Planned w.obligations recording.row recording.alert)
    (hstaged : recording.Staged w.session requestId) (hphase : recording.phase = .raised) :
    Backed w.obligations (w.session.staged requestId ++ w.session.rows) := by
  refine h.backed.append fun row hrow => ?_
  rcases hstaged.cases hphase with ⟨heq, htaken⟩ | ⟨a, ha, heq⟩
  · rw [heq] at hrow ⊢
    rw [List.mem_singleton.1 hrow]
    exact hplanned.backedRow fun a ha => taken_mono (fun _ => List.mem_append_right _) (htaken a ha)
  · rw [heq] at hrow ⊢
    rw [ha] at hplanned
    rcases List.mem_cons.1 hrow with rfl | hown
    · exact hplanned.backedAlert (List.mem_cons_of_mem _ List.mem_cons_self)
    · rw [List.mem_singleton.1 hown]
      refine hplanned.backedRow fun b hb => ?_
      cases hb
      exact ⟨.alert a, List.mem_cons_self, List.mem_cons_of_mem _ List.mem_cons_self⟩

theorem Recording.Staged.moves_eq_nil (hplanned : Planned obligations recording.row recording.alert)
    (h : recording.Staged session requestId) (hphase : recording.phase = .raised) (alertId : Uuid) :
    moves (session.staged requestId) alertId = [] := by
  have hnone := hplanned.no_move alertId
  rcases h.cases hphase with ⟨heq, -⟩ | ⟨a, -, heq⟩
  · rw [heq, moves, List.filterMap_cons_none hnone, List.filterMap_nil]
  · have halert : Row.move? alertId (.alert a) = none := rfl
    rw [heq, moves, List.filterMap_cons_none halert, List.filterMap_cons_none hnone, List.filterMap_nil]

/-- **The row and its alert are committed together.** -/
theorem Inv.commitRecording (h : Inv w) (hrun : w.runs requestId = some (.recording recording))
    (hphase : recording.phase = .raised) :
    Inv (w.commitRecording requestId) := by
  obtain ⟨hplanned, hstaged⟩ : RunOk w requestId (some (.recording recording)) := hrun ▸ h.runs requestId
  have hframe : Frame requestId w (w.commitRecording requestId) :=
    { obligations := rfl
      staged := fun id hne => Session.commit_staged_of_ne hne
      rows := fun row hrow => List.mem_append_right _ hrow
      holder := fun id hne key hheld => Session.release_of_ne hheld hne
      runs := fun id hne => Function.update_of_ne hne _ _
      status := fun id _ b hb _ => openNew_of_fresh fun a ha => h.id_ne ha hb }
  refine h.of_frame hframe (h.exclusive.commit requestId) (h.backed_staged hplanned hstaged hphase) ?_ ?_
  · intro b hb
    have hmoves : moves (w.commitRecording requestId).session.rows b.id = moves w.session.rows b.id := by
      have hnil := hstaged.moves_eq_nil hplanned hphase b.id
      exact (moves_append b.id).trans (by rw [hnil, List.nil_append])
    rw [hmoves]
    rcases List.mem_append.1 hb with hnew | hold
    · -- a new alert is open and was never disposed of
      rw [h.moves_eq_nil hnew]
      exact openNew_self hnew
    · have hstat : (w.commitRecording requestId).status b.id = w.status b.id :=
        openNew_of_fresh fun a ha => h.id_ne ha hold
      rw [hstat]
      exact h.lifecycle b hold
  · have hnone : (w.commitRecording requestId).runs requestId = none := Function.update_self ..
    rw [hnone]
    exact Session.commit_staged_self

/-- **The move is recorded with the status it leads to.** -/
theorem Inv.commitDisposing (h : Inv w) {disposing : Disposing} {current : AlertStatus}
    (hrun : w.runs requestId = some (.disposing disposing)) (hphase : disposing.phase = .moved current) :
    Inv (w.commitDisposing requestId disposing) := by
  have hok : disposing.Ok w.session w.status requestId := by
    have hruns := h.runs requestId
    rw [hrun] at hruns
    exact hruns
  unfold Disposing.Ok at hok
  rw [hphase] at hok
  obtain ⟨hstaged, hholding⟩ := hok
  have hframe : Frame requestId w (w.commitDisposing requestId disposing) :=
    { obligations := rfl
      staged := fun id hne => Session.commit_staged_of_ne hne
      rows := fun row hrow => List.mem_append_right _ hrow
      holder := fun id hne key hheld => Session.release_of_ne hheld hne
      runs := fun id hne => Function.update_of_ne hne _ _
      status := fun id hne b _ hheld => by
        -- the alert is locked here, so the other request holds another one
        refine Function.update_of_ne (fun hid => hne ?_) _ _
        rw [hid, hholding.lock] at hheld
        exact (Option.some.inj hheld).symm }
  refine h.of_frame hframe (h.exclusive.commit requestId) ?_ ?_ ?_
  · refine h.backed.append fun row hrow => ?_
    rw [hstaged] at hrow ⊢
    obtain ⟨a, ha, hid⟩ := hholding.alert
    rw [List.mem_singleton.1 hrow]
    exact ⟨a, List.mem_append_right _ ha, hid⟩
  · intro b hb
    have hold : Row.alert b ∈ w.session.rows := by
      rcases List.mem_append.1 hb with hnew | hold
      · rw [hstaged] at hnew
        cases List.mem_singleton.1 hnew
      · exact hold
    have htrail := h.lifecycle b hold
    have hmoves : moves (w.commitDisposing requestId disposing).session.rows b.id =
        moves (w.session.staged requestId) b.id ++ moves w.session.rows b.id := moves_append b.id
    rw [hmoves, hstaged]
    by_cases hid : b.id = disposing.alertId
    · have hmove : Row.move? b.id (.disposition ⟨disposing.dispositionId, disposing.alertId, current,
          disposing.toStatus⟩) = some (current, disposing.toStatus) := if_pos hid.symm
      have hstat : (w.commitDisposing requestId disposing).status b.id = disposing.toStatus := by
        rw [hid]
        exact Function.update_self ..
      rw [moves, List.filterMap_cons_some hmove, List.filterMap_nil, hstat]
      have hstands : w.status b.id = current := by
        rw [hid]
        exact hholding.stands
      exact (trail_cons_iff htrail).2 ⟨hstands.symm, hholding.allowed⟩
    · have hmove : Row.move? b.id (.disposition ⟨disposing.dispositionId, disposing.alertId, current,
          disposing.toStatus⟩) = none := if_neg fun heq => hid heq.symm
      have hstat : (w.commitDisposing requestId disposing).status b.id = w.status b.id :=
        Function.update_of_ne hid ..
      rw [moves, List.filterMap_cons_none hmove, List.filterMap_nil, hstat]
      exact htrail
  · have hnone : (w.commitDisposing requestId disposing).runs requestId = none := Function.update_self ..
    rw [hnone]
    exact Session.commit_staged_self

end Commits

/-! ## Every run -/

section Runs

variable {w v : World} {obligations obligations' : List MonitoringObligation} {row : Row}
  {alert : Option EarlyWarningAlert}

theorem Planned.grow (h : Planned obligations row alert)
    (hids : (obligations'.map (·.id) ++ obligations.map (·.id)).Nodup) :
    Planned (obligations' ++ obligations) row alert := by
  cases h with
  | timely o hknown htimely =>
    exact .timely o hknown.append fun hlate => htimely ((late_append_iff hids hknown).1 hlate)
  | late o a hknown hof hlate hsource =>
    exact .late o a hknown.append hof ((late_append_iff hids hknown).2 hlate) hsource
  | passed test hpassed => exact .passed test hpassed
  | failed test a hfailed hsource => exact .failed test a hfailed hsource

theorem Inv.createObligations (h : Inv w)
    (hids : (obligations'.map (·.id) ++ w.obligations.map (·.id)).Nodup) :
    Inv { w with obligations := obligations' ++ w.obligations } := by
  refine ⟨by rw [List.map_append]; exact hids, h.exclusive, h.backed.grow hids, h.lifecycle, fun id => ?_⟩
  have hrun := h.runs id
  match hcase : w.runs id with
  | none =>
    rw [hcase] at hrun
    exact hrun
  | some (.recording recording) =>
    rw [hcase] at hrun
    exact ⟨hrun.1.grow hids, hrun.2⟩
  | some (.disposing disposing) =>
    rw [hcase] at hrun
    exact hrun

variable {requestId : Uuid}

theorem Inv.openRecording (h : Inv w) {recording : Recording}
    (hplanned : Planned w.obligations recording.row recording.alert) (hphase : recording.phase = .loaded)
    (hopen : w.openRun requestId (.recording recording) = some v) : Inv v := by
  refine h.openRun hopen fun hidle => ⟨hplanned, ?_⟩
  unfold Recording.Staged
  rw [hphase]
  exact hidle

theorem Inv.openDisposing (h : Inv w) {disposing : Disposing} (hphase : disposing.phase = .loaded)
    (hopen : w.openRun requestId (.disposing disposing) = some v) : Inv v := by
  refine h.openRun hopen fun hidle => ?_
  change disposing.Ok w.session w.status requestId
  unfold Disposing.Ok
  rw [hphase]
  exact hidle

/-- **One step keeps the invariant.** -/
theorem Inv.step (h : Inv w) {action : Action} (hstep : step w action = some v) : Inv v := by
  cases action with
  | createObligations obligations =>
    simp only [Monitoring.step] at hstep
    split at hstep
    · rename_i hids
      cases hstep
      exact h.createObligations hids
    · cases hstep
  | createCovenant =>
    simp only [Monitoring.step] at hstep
    split at hstep
    · cases hstep
    cases hstep
    exact ⟨h.ids, h.exclusive, h.backed, h.lifecycle, fun id => h.runs id⟩
  | openObservation requestId observationId alertId body =>
    simp only [Monitoring.step] at hstep
    split at hstep
    · cases hstep
    rename_i recording hcheck
    obtain ⟨hplanned, hphase⟩ := checkObservation_ok h.ids hcheck
    exact h.openRecording hplanned hphase hstep
  | openCovenantTest requestId testId alertId body =>
    simp only [Monitoring.step] at hstep
    split at hstep
    · cases hstep
    rename_i recording hcheck
    obtain ⟨hplanned, hphase⟩ := checkCovenantTest_ok hcheck
    exact h.openRecording hplanned hphase hstep
  | openDisposition requestId dispositionId body =>
    simp only [Monitoring.step] at hstep
    split at hstep
    · cases hstep
    rename_i disposing hcheck
    exact h.openDisposing (checkDisposition_ok hcheck) hstep
  | insertRow requestId =>
    simp only [Monitoring.step] at hstep
    split at hstep
    · rename_i recording hrun
      split at hstep
      · rename_i hphase
        exact h.insertRow hrun hphase hstep
      · cases hstep
    · cases hstep
  | raiseAlert requestId =>
    simp only [Monitoring.step] at hstep
    split at hstep
    · rename_i recording hrun
      split at hstep
      · rename_i hphase
        exact h.raiseAlert hrun hphase hstep
      · cases hstep
    · cases hstep
  | lockAlert requestId =>
    simp only [Monitoring.step] at hstep
    split at hstep
    · rename_i disposing hrun
      split at hstep
      · rename_i hphase
        exact h.lockAlert hrun hphase hstep
      · cases hstep
    · cases hstep
  | moveAlert requestId =>
    simp only [Monitoring.step] at hstep
    split at hstep
    · rename_i disposing hrun
      split at hstep
      · rename_i current hphase
        exact h.moveAlert hrun hphase hstep
      · cases hstep
    · cases hstep
  | commit requestId =>
    simp only [Monitoring.step] at hstep
    split at hstep
    · rename_i recording hrun
      split at hstep
      · rename_i hphase
        cases hstep
        exact h.commitRecording hrun hphase
      · cases hstep
    · rename_i disposing hrun
      split at hstep
      · rename_i current hphase
        cases hstep
        exact h.commitDisposing hrun hphase
      · cases hstep
    · cases hstep
  | rollback requestId =>
    simp only [Monitoring.step] at hstep
    split at hstep
    · cases hstep
      exact h.fail requestId
    · cases hstep

theorem Initial.inv (h : Initial w) : Inv w := by
  refine ⟨h.obligationIds, by rw [h.session]; exact exclusive_empty, ?_, ?_, fun id => ?_⟩
  · intro row hrow
    rw [h.session] at hrow
    cases hrow
  · intro a ha
    rw [h.session] at ha
    cases ha
  · rw [h.noRun id]
    exact congrArg (fun session => session.staged id) h.session

end Runs

/-! ## Alerts are exact -/

namespace World

/-- The committed observations. -/
def observations (w : World) : List MonitoringObservation :=
  w.session.rows.filterMap Row.observation?

/-- The committed covenant tests. -/
def covenantTests (w : World) : List CovenantTest :=
  w.session.rows.filterMap Row.covenantTest?

/-- The committed alerts. -/
def alerts (w : World) : List EarlyWarningAlert :=
  w.session.rows.filterMap Row.alert?

/-- The number of overdue alerts of an obligation. -/
def overdueCount (w : World) (obligationId : Uuid) : Nat :=
  w.alerts.countP fun a => a.source.rule = .overdueObligation ∧ a.source.obligationId = some obligationId

/-- The number of breach alerts of a covenant test. -/
def breachCount (w : World) (covenantTestId : Uuid) : Nat :=
  w.alerts.countP fun a => a.source.rule = .covenantBreach ∧ a.source.covenantTestId = some covenantTestId

end World

/-- Nothing is lost, nothing is raised twice, and every alert stands where its dispositions lead. -/
structure AlertsExact (w : World) : Prop where
  overdueOnce : ∀ obligation ∈ w.obligations, w.overdueCount obligation.id ≤ 1
  overdue : ∀ obligation ∈ w.obligations, w.overdueCount obligation.id = 1 ↔
    ∃ o ∈ w.observations, o.obligationId = some obligation.id ∧
      obligationOverdue obligation.dueDate o.observedAt = true
  breach : ∀ test ∈ w.covenantTests, w.breachCount test.id = if test.evaluation.passed then 0 else 1
  lifecycle : ∀ a ∈ w.alerts, Trail Allowed .opened (moves w.session.rows a.id) (w.status a.id)

section Exact

variable {w : World}

theorem mem_alerts {a : EarlyWarningAlert} : a ∈ w.alerts ↔ Row.alert a ∈ w.session.rows := by
  rw [World.alerts, List.mem_filterMap]
  constructor
  · rintro ⟨row, hrow, halert⟩
    cases row with
    | alert =>
      cases halert
      exact hrow
    | observation | covenantTest | disposition => cases halert
  · intro hrow
    exact ⟨.alert a, hrow, rfl⟩

theorem mem_observations {o : MonitoringObservation} :
    o ∈ w.observations ↔ Row.observation o ∈ w.session.rows := by
  rw [World.observations, List.mem_filterMap]
  constructor
  · rintro ⟨row, hrow, hobservation⟩
    cases row with
    | observation =>
      cases hobservation
      exact hrow
    | alert | covenantTest | disposition => cases hobservation
  · intro hrow
    exact ⟨.observation o, hrow, rfl⟩

theorem mem_covenantTests {test : CovenantTest} :
    test ∈ w.covenantTests ↔ Row.covenantTest test ∈ w.session.rows := by
  rw [World.covenantTests, List.mem_filterMap]
  constructor
  · rintro ⟨row, hrow, htest⟩
    cases row with
    | covenantTest =>
      cases htest
      exact hrow
    | alert | observation | disposition => cases htest
  · intro hrow
    exact ⟨.covenantTest test, hrow, rfl⟩

theorem overdueCount_eq (obligationId : Uuid) :
    w.overdueCount obligationId =
      w.session.rows.countP fun row => Key.overdue obligationId ∈ Row.keys row := by
  rw [World.overdueCount, World.alerts, List.countP_filterMap]
  refine List.countP_congr fun row _ => ?_
  cases row with
  | alert a => cases hsource : a.source <;> simp [Row.alert?, Row.keys, AlertSource.rule,
      AlertSource.obligationId, AlertSource.key, hsource, eq_comm]
  | observation | covenantTest | disposition => simp [Row.alert?, Row.keys]

theorem breachCount_eq (covenantTestId : Uuid) :
    w.breachCount covenantTestId =
      w.session.rows.countP fun row => Key.breach covenantTestId ∈ Row.keys row := by
  rw [World.breachCount, World.alerts, List.countP_filterMap]
  refine List.countP_congr fun row _ => ?_
  cases row with
  | alert a => cases hsource : a.source <;> simp [Row.alert?, Row.keys, AlertSource.rule,
      AlertSource.covenantTestId, AlertSource.key, hsource, eq_comm]
  | observation | covenantTest | disposition => simp [Row.alert?, Row.keys]

theorem Inv.countP_eq_one (h : Inv w) {key : Key} (htaken : Taken Row.keys w.session.rows key) :
    w.session.rows.countP (fun row => key ∈ Row.keys row) = 1 := by
  obtain ⟨row, hrow, hkey⟩ := htaken
  have hpos : 0 < w.session.rows.countP (fun row => key ∈ Row.keys row) :=
    List.countP_pos_iff.2 ⟨row, hrow, decide_eq_true hkey⟩
  have hle := h.exclusive.countP_le_one key
  omega

/-- **The invariant makes the alerts exact.** -/
theorem Inv.alertsExact (h : Inv w) : AlertsExact w where
  overdueOnce obligation _ := by
    rw [overdueCount_eq]
    exact h.exclusive.countP_le_one _
  overdue obligation hmem := by
    constructor
    · intro hone
      obtain ⟨a, ha, hof⟩ := List.countP_pos_iff.1 (by rw [← World.overdueCount, hone]; exact Nat.one_pos)
      obtain ⟨-, hof⟩ := of_decide_eq_true hof
      obtain ⟨o, ho, hid, other, hother, hsame, hoverdue⟩ := (h.backed _ (mem_alerts.1 ha)).1 _ hof
      have hids : obligation.id = other.id := Option.some.inj (hid.symm.trans hsame)
      obtain rfl := List.inj_on_of_nodup_map h.ids hmem hother hids
      exact ⟨o, mem_observations.2 ho, hid, hoverdue⟩
    · rintro ⟨o, ho, hof, hoverdue⟩
      have hbacked := h.backed _ (mem_observations.1 ho)
      rw [overdueCount_eq]
      exact h.countP_eq_one (hbacked.2 ⟨obligation, hmem, hof, hoverdue⟩ _ hof)
  breach test hmem := by
    have hrow := mem_covenantTests.1 hmem
    cases hpassed : test.evaluation.passed with
    | false =>
      rw [breachCount_eq]
      exact h.countP_eq_one (h.backed _ hrow hpassed)
    | true =>
      refine List.countP_eq_zero.2 fun a ha hof => ?_
      obtain ⟨-, hof⟩ := of_decide_eq_true hof
      obtain ⟨other, hother, hid, hfailed⟩ := (h.backed _ (mem_alerts.1 ha)).2 _ hof
      have hkey : Key.covenantTest test.id ∈ Row.keys (.covenantTest other) := by
        rw [← hid]
        exact List.mem_cons_self
      cases h.exclusive.eq_of_key hother hrow hkey List.mem_cons_self
      rw [hpassed] at hfailed
      cases hfailed
  lifecycle a ha := h.lifecycle a (mem_alerts.1 ha)

/-- **Early-warning alerts are exact.** In every state of every run, whatever the requests are and however
their statements interleave. -/
theorem alerts_exact {w v : World} {as : List Action} (hinit : Initial w)
    (hrun : run step w as = some v) : AlertsExact v :=
  (run_invariant (fun h => h.step) hinit.inv hrun).alertsExact

end Exact

/-! ## A history -/

section History

/-- The fourteenth of March. -/
def sampleDueDate : Date := (Date.ofParts 2026 3 14).get (by decide)

/-- The fifteenth of March. -/
def sampleLateDate : Date := (Date.ofParts 2026 3 15).get (by decide)

/-- Midnight in UTC. -/
def midnight (date : Date) : Datetime := ⟨date, 0, some 0, by decide⟩

/-- One obligation, due on the fourteenth of March. -/
def sampleMonitoring : World where
  obligations := [⟨1, 1, sampleDueDate⟩]
  covenants := []
  session := .empty
  status _ := .opened
  runs _ := none

theorem sampleMonitoring_initial : Initial sampleMonitoring where
  obligationIds := List.nodup_singleton 1
  session := rfl
  noRun _ := rfl

/-- An observation made on the fifteenth. -/
def lateObservation : ObservationRequest :=
  ⟨1, some 1, midnight sampleDueDate, midnight sampleLateDate⟩

/-- Two late observations are recorded at the same time, and the alert is acknowledged and dismissed. -/
def lateTwice : List Action :=
  [.openObservation 11 21 31 lateObservation, .openObservation 12 22 32 lateObservation,
    .insertRow 11, .insertRow 12, .raiseAlert 11, .commit 11, .raiseAlert 12, .commit 12,
    .openDisposition 13 41 ⟨1, 31, "ACKNOWLEDGED"⟩, .openDisposition 14 42 ⟨1, 31, "DISMISSED_BY_HUMAN"⟩,
    .lockAlert 13, .moveAlert 13, .commit 13, .lockAlert 14, .moveAlert 14, .commit 14]

theorem lateTwice_exact :
    ∃ v, run step sampleMonitoring lateTwice = some v ∧ v.observations.length = 2 ∧
      v.overdueCount 1 = 1 ∧ AlertsExact v := by
  have hruns : (run step sampleMonitoring lateTwice).any (fun v =>
      v.observations.length = 2 ∧ v.overdueCount 1 = 1) = true := by
    decide +kernel
  obtain ⟨v, hrun, hstate⟩ := (Option.any_eq_true _ _).1 hruns
  obtain ⟨hlen, hcount⟩ := of_decide_eq_true hstate
  exact ⟨v, hrun, hlen, hcount, alerts_exact sampleMonitoring_initial hrun⟩

end History

end CreditOps.Monitoring
