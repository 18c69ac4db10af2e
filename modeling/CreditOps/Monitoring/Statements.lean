import CreditOps.Monitoring.World

/-!
# What a statement leaves alone

What the committed rows promise, how far each request has come, and why every statement of a request keeps
both. A row and the alert it raises are committed together, or the alert is left to a row that has raised
it before (`Backed`). The lock on an alert keeps its status from the check of a move to the commit
(`Disposing.Ok`). Each statement of a request leaves what the other requests hold alone (`Frame`), so it
keeps the invariant as soon as its own request is where it should be (`Inv.of_frame`).
-/

set_option autoImplicit false

namespace CreditOps.Monitoring

open Transition PartialMap KeyedInserts AppendLog

/-! ## What the rows promise -/

/-- The observation was made after the due date of its obligation. -/
def Late (obligations : List MonitoringObligation) (o : MonitoringObservation) : Prop :=
  ∃ obligation ∈ obligations, o.obligationId = some obligation.id ∧
    obligationOverdue obligation.dueDate o.observedAt = true

/-- The obligation the observation names is there. -/
def Known (obligations : List MonitoringObligation) (o : MonitoringObservation) : Prop :=
  ∀ id, o.obligationId = some id → id ∈ obligations.map (·.id)

/-- What is there when a row is: the alert that a late observation or a failed test raises, what has raised
an alert, and the alert that was disposed of. -/
def BackedRow (obligations : List MonitoringObligation) (rows : List Row) : Row → Prop
  | .observation o => Known obligations o ∧
    (Late obligations o → ∀ id, o.obligationId = some id → Taken Row.keys rows (.overdue id))
  | .covenantTest test => test.evaluation.passed = false → Taken Row.keys rows (.breach test.id)
  | .alert a =>
    (∀ id, a.source.obligationId = some id →
      ∃ o, Row.observation o ∈ rows ∧ o.obligationId = some id ∧ Late obligations o) ∧
    ∀ id, a.source.covenantTestId = some id →
      ∃ test, Row.covenantTest test ∈ rows ∧ test.id = id ∧ test.evaluation.passed = false
  | .disposition d => ∃ a, Row.alert a ∈ rows ∧ a.id = d.alertId

/-- Every row is backed. -/
def Backed (obligations : List MonitoringObligation) (rows : List Row) : Prop :=
  ∀ row ∈ rows, BackedRow obligations rows row

/-- The moves of every alert lead from `OPEN` to its status. -/
def Lifecycle (rows : List Row) (status : Uuid → AlertStatus) : Prop :=
  ∀ a, Row.alert a ∈ rows → Trail Allowed .opened (moves rows a.id) (status a.id)

section Rows

variable {obligations obligations' : List MonitoringObligation} {rows rows' new : List Row} {row : Row}

theorem taken_mono {key : Key} (hgrows : ∀ row ∈ rows, row ∈ rows') (h : Taken Row.keys rows key) :
    Taken Row.keys rows' key := by
  obtain ⟨row, hrow, hkey⟩ := h
  exact ⟨row, hgrows row hrow, hkey⟩

/-- A backed row stays backed as rows are added. -/
theorem BackedRow.mono (h : BackedRow obligations rows row) (hgrows : ∀ row ∈ rows, row ∈ rows') :
    BackedRow obligations rows' row := by
  cases row with
  | observation => exact ⟨h.1, fun hlate id hid => taken_mono hgrows (h.2 hlate id hid)⟩
  | covenantTest => exact fun hfailed => taken_mono hgrows (h hfailed)
  | alert =>
    refine ⟨fun id hid => ?_, fun id hid => ?_⟩
    · obtain ⟨o, ho, hrest⟩ := h.1 id hid
      exact ⟨o, hgrows _ ho, hrest⟩
    · obtain ⟨test, htest, hrest⟩ := h.2 id hid
      exact ⟨test, hgrows _ htest, hrest⟩
  | disposition =>
    obtain ⟨a, ha, hid⟩ := h
    exact ⟨a, hgrows _ ha, hid⟩

theorem Backed.append (h : Backed obligations rows)
    (hnew : ∀ row ∈ new, BackedRow obligations (new ++ rows) row) : Backed obligations (new ++ rows) := by
  intro row hrow
  rcases List.mem_append.1 hrow with hadded | hold
  · exact hnew row hadded
  · exact (h row hold).mono fun _ => List.mem_append_right new

variable {o : MonitoringObservation}

theorem late_append_iff (hids : (obligations'.map (·.id) ++ obligations.map (·.id)).Nodup)
    (hknown : Known obligations o) :
    Late (obligations' ++ obligations) o ↔ Late obligations o := by
  constructor
  · rintro ⟨obligation, hmem, hof, hoverdue⟩
    rcases List.mem_append.1 hmem with hnew | hold
    · have hdisj := (List.nodup_append'.1 hids).2.2
      exact absurd (hknown _ hof) (hdisj (List.mem_map_of_mem hnew))
    · exact ⟨obligation, hold, hof, hoverdue⟩
  · rintro ⟨obligation, hmem, hrest⟩
    exact ⟨obligation, List.mem_append_right _ hmem, hrest⟩

theorem Known.append (h : Known obligations o) :
    Known (obligations' ++ obligations) o := by
  intro id hid
  rw [List.map_append]
  exact List.mem_append_right _ (h id hid)

/-- New obligations leave the rows backed. -/
theorem Backed.grow (h : Backed obligations rows)
    (hids : (obligations'.map (·.id) ++ obligations.map (·.id)).Nodup) :
    Backed (obligations' ++ obligations) rows := by
  intro row hrow
  have hbacked := h row hrow
  cases row with
  | observation =>
    refine ⟨hbacked.1.append, fun hlate => hbacked.2 ?_⟩
    exact (late_append_iff hids hbacked.1).1 hlate
  | covenantTest | disposition => exact hbacked
  | alert =>
    refine ⟨fun id hid => ?_, hbacked.2⟩
    obtain ⟨o, ho, hof, hlate⟩ := hbacked.1 id hid
    exact ⟨o, ho, hof, (late_append_iff hids (h _ ho).1).2 hlate⟩

end Rows

/-! ## Requests in flight -/

/-- The alert a row raises, by its rule. -/
inductive Planned (obligations : List MonitoringObligation) : Row → Option EarlyWarningAlert → Prop where
  | timely (o : MonitoringObservation) (hknown : Known obligations o) (htimely : ¬ Late obligations o) :
      Planned obligations (.observation o) none
  | late (o : MonitoringObservation) (a : EarlyWarningAlert) {obligationId : Uuid}
      (hknown : Known obligations o) (hof : o.obligationId = some obligationId)
      (hlate : Late obligations o) (hsource : a.source = .lateObservation obligationId o.id) :
      Planned obligations (.observation o) (some a)
  | passed (test : CovenantTest) (hpassed : test.evaluation.passed = true) :
      Planned obligations (.covenantTest test) none
  | failed (test : CovenantTest) (a : EarlyWarningAlert) (hfailed : test.evaluation.passed = false)
      (hsource : a.source = .failedTest test.id) : Planned obligations (.covenantTest test) (some a)

/-- What a recording transaction has inserted so far. -/
def Recording.Staged (session : Session Key Uuid Row) (requestId : Uuid) (recording : Recording) : Prop :=
  match recording.phase with
  | .loaded => session.staged requestId = []
  | .recorded => session.staged requestId = [recording.row]
  | .raised =>
    (session.staged requestId = [recording.row] ∧
      ∀ a, recording.alert = some a → Taken Row.keys session.rows a.source.key) ∨
    ∃ a, recording.alert = some a ∧ session.staged requestId = [.alert a, recording.row]

/-- A disposing transaction that has read a status under the lock still holds it, and the status stands. -/
structure Holding (session : Session Key Uuid Row) (status : Uuid → AlertStatus) (requestId : Uuid)
    (disposing : Disposing) (current : AlertStatus) : Prop where
  lock : session.holder (.alertRow disposing.alertId) = some requestId
  alert : ∃ a, Row.alert a ∈ session.rows ∧ a.id = disposing.alertId
  stands : status disposing.alertId = current
  allowed : Allowed current disposing.toStatus

/-- What a disposing transaction has done so far. -/
def Disposing.Ok (session : Session Key Uuid Row) (status : Uuid → AlertStatus) (requestId : Uuid)
    (disposing : Disposing) : Prop :=
  match disposing.phase with
  | .loaded => session.staged requestId = []
  | .locked current => session.staged requestId = [] ∧ Holding session status requestId disposing current
  | .moved current =>
    session.staged requestId =
      [.disposition ⟨disposing.dispositionId, disposing.alertId, current, disposing.toStatus⟩] ∧
      Holding session status requestId disposing current

/-- What a request has done so far. -/
def RunOk (w : World) (requestId : Uuid) : Option Run → Prop
  | none => w.session.staged requestId = []
  | some (.recording recording) =>
    Planned w.obligations recording.row recording.alert ∧ recording.Staged w.session requestId
  | some (.disposing disposing) => disposing.Ok w.session w.status requestId

/-- What every reachable state satisfies. -/
structure Inv (w : World) : Prop where
  ids : (w.obligations.map (·.id)).Nodup
  exclusive : Exclusive Row.keys w.session
  backed : Backed w.obligations w.session.rows
  lifecycle : Lifecycle w.session.rows w.status
  runs : ∀ id, RunOk w id (w.runs id)

/-- What a statement of one request leaves alone. -/
structure Frame (requestId : Uuid) (w v : World) : Prop where
  obligations : v.obligations = w.obligations
  staged : ∀ id, id ≠ requestId → v.session.staged id = w.session.staged id
  rows : ∀ row ∈ w.session.rows, row ∈ v.session.rows
  holder : ∀ id, id ≠ requestId → ∀ key, w.session.holder key = some id → v.session.holder key = some id
  runs : ∀ id, id ≠ requestId → v.runs id = w.runs id
  status : ∀ id, id ≠ requestId → ∀ a, Row.alert a ∈ w.session.rows →
    w.session.holder (.alertRow a.id) = some id → v.status a.id = w.status a.id

section Frame

variable {w v : World} {requestId id : Uuid}

variable {disposing : Disposing}

theorem Holding.frame {current : AlertStatus} (h : Holding w.session w.status id disposing current)
    (hframe : Frame requestId w v) (hne : id ≠ requestId) :
    Holding v.session v.status id disposing current := by
  obtain ⟨a, ha, haid⟩ := h.alert
  refine ⟨hframe.holder id hne _ h.lock, ⟨a, hframe.rows _ ha, haid⟩, ?_, h.allowed⟩
  rw [← haid, hframe.status id hne a ha (by rw [haid]; exact h.lock), haid]
  exact h.stands

theorem Recording.Staged.frame {recording : Recording} (h : recording.Staged w.session id)
    (hframe : Frame requestId w v) (hne : id ≠ requestId) : recording.Staged v.session id := by
  have hstaged := hframe.staged id hne
  unfold Recording.Staged at h ⊢
  cases hphase : recording.phase with
  | loaded | recorded =>
    rw [hphase] at h
    exact hstaged.trans h
  | raised =>
    rw [hphase] at h
    rcases h with ⟨h, htaken⟩ | ⟨a, ha, h⟩
    · exact Or.inl ⟨hstaged.trans h, fun a ha => taken_mono hframe.rows (htaken a ha)⟩
    · exact Or.inr ⟨a, ha, hstaged.trans h⟩

theorem Disposing.Ok.frame (h : disposing.Ok w.session w.status id) (hframe : Frame requestId w v)
    (hne : id ≠ requestId) : disposing.Ok v.session v.status id := by
  have hstaged := hframe.staged id hne
  unfold Disposing.Ok at h ⊢
  cases hphase : disposing.phase with
  | loaded =>
    rw [hphase] at h
    exact hstaged.trans h
  | locked current | moved current =>
    rw [hphase] at h
    exact ⟨hstaged.trans h.1, h.2.frame hframe hne⟩

theorem RunOk.frame {run : Option Run} (h : RunOk w id run) (hframe : Frame requestId w v)
    (hne : id ≠ requestId) : RunOk v id run := by
  match run, h with
  | none, h => exact (hframe.staged id hne).trans h
  | some (.recording recording), ⟨hplanned, h⟩ =>
    refine ⟨?_, h.frame hframe hne⟩
    rw [hframe.obligations]
    exact hplanned
  | some (.disposing disposing), h => exact Disposing.Ok.frame h hframe hne

/-- **The frame rule.** A statement keeps the invariant when it keeps what the committed rows promise and
its own request is where it should be. -/
theorem Inv.of_frame (h : Inv w) (hframe : Frame requestId w v) (hexclusive : Exclusive Row.keys v.session)
    (hbacked : Backed v.obligations v.session.rows) (hlifecycle : Lifecycle v.session.rows v.status)
    (hself : RunOk v requestId (v.runs requestId)) : Inv v := by
  refine ⟨by rw [hframe.obligations]; exact h.ids, hexclusive, hbacked, hlifecycle, fun id => ?_⟩
  by_cases hid : id = requestId
  · rw [hid]
    exact hself
  · rw [hframe.runs id hid]
    exact (h.runs id).frame hframe hid

end Frame

/-! ## Opening a request -/

section Checks

variable {obligations : List MonitoringObligation} {observationId testId alertId : Uuid}
  {recording : Recording}

variable {caseVersion : CaseVersion} {a : EarlyWarningAlert}

theorem newAlert_source {source : AlertSource} {detailVi : String}
    (h : newAlert alertId caseVersion source detailVi = .ok a) :
    a.source = source := by
  unfold newAlert at h
  split at h
  · cases h
    rfl
  · cases h

variable {body : ObservationRequest}

theorem newObservation_ok {o : MonitoringObservation} (h : newObservation observationId body = .ok o) :
    o.id = observationId ∧ o.obligationId = body.obligationId := by
  unfold newObservation at h
  split at h
  · cases h
    exact ⟨rfl, rfl⟩
  · cases h
  · cases h

/-- **An observation request raises an alert exactly when it is late.** -/
theorem checkObservation_ok (hids : (obligations.map (·.id)).Nodup)
    (h : checkObservation obligations observationId alertId body = .ok recording) :
    Planned obligations recording.row recording.alert ∧ recording.phase = .loaded := by
  unfold checkObservation at h
  obtain ⟨o, ho, hrest⟩ := Results.bind_eq_ok.1 h
  obtain ⟨-, hof⟩ := newObservation_ok ho
  split at hrest
  · rename_i hnone
    cases hrest
    rw [hnone] at hof
    refine ⟨.timely o ?_ ?_, rfl⟩
    · intro id hid
      rw [hof] at hid
      cases hid
    · rintro ⟨_, -, hid, -⟩
      rw [hof] at hid
      cases hid
  · rename_i obligationId hsome
    rw [hsome] at hof
    split at hrest
    · cases hrest
    rename_i obligation hfind
    obtain ⟨hid, -⟩ : obligation.id = obligationId ∧ obligation.caseVersion = body.caseVersion := by
      simpa using List.find?_some hfind
    have hmem := List.mem_of_find?_eq_some hfind
    have hknown : Known obligations o := by
      intro id hid'
      rw [hof, Option.some.injEq, ← hid] at hid'
      rw [← hid']
      exact List.mem_map_of_mem hmem
    split at hrest
    · rename_i hoverdue
      obtain ⟨a, ha, hrecording⟩ := Results.bind_eq_ok.1 hrest
      cases hrecording
      refine ⟨.late o a hknown hof ⟨obligation, hmem, by rw [hof, hid], hoverdue⟩ ?_, rfl⟩
      rw [newAlert_source ha, hid]
    · rename_i htimely
      cases hrest
      refine ⟨.timely o hknown ?_, rfl⟩
      rintro ⟨_, hother, hsame, hoverdue⟩
      rw [hof, Option.some.injEq, ← hid] at hsame
      obtain rfl := List.inj_on_of_nodup_map hids hmem hother hsame
      exact htimely hoverdue

/-- **A covenant test raises an alert exactly when it fails.** -/
theorem checkCovenantTest_ok {covenants : List Covenant} {body : CovenantTestRequest}
    (h : checkCovenantTest covenants testId alertId body = .ok recording) :
    Planned obligations recording.row recording.alert ∧ recording.phase = .loaded := by
  unfold checkCovenantTest at h
  split at h
  · cases h
  split at h
  · cases h
  rename_i evaluation hevaluation
  dsimp only at h
  split at h
  · rename_i hbreach
    obtain ⟨a, ha, hrecording⟩ := Results.bind_eq_ok.1 h
    cases hrecording
    refine ⟨.failed _ a ?_ (newAlert_source ha), rfl⟩
    simpa [covenantBreachDetected] using hbreach
  · rename_i hbreach
    cases h
    refine ⟨.passed _ ?_, rfl⟩
    simpa [covenantBreachDetected] using hbreach

variable {rows : List Row}

theorem checkDisposition_ok {status : Uuid → AlertStatus} {dispositionId : Uuid}
    {body : DispositionRequest} {disposing : Disposing}
    (h : checkDisposition rows status dispositionId body = .ok disposing) :
    disposing.phase = .loaded := by
  unfold checkDisposition at h
  split at h
  · cases h
  split at h
  · cases h
  split at h
  · cases h
    rfl
  · cases h

theorem loadAlert_eq_some (h : loadAlert rows alertId caseVersion = some a) :
    Row.alert a ∈ rows ∧ a.id = alertId := by
  have hmem := List.mem_of_find?_eq_some h
  obtain ⟨row, hrow, halert⟩ := List.mem_filterMap.1 hmem
  obtain ⟨hid, -⟩ : a.id = alertId ∧ a.caseVersion = caseVersion := by
    simpa using List.find?_some h
  cases row with
  | alert =>
    cases halert
    exact ⟨hrow, hid⟩
  | observation | covenantTest | disposition => cases halert

end Checks

/-! ## What a statement does -/

section Statements

variable {w v : World} {requestId : Uuid}

theorem frame_setRun (run : Run) : Frame requestId w (w.setRun requestId run) where
  obligations := rfl
  staged _ _ := rfl
  rows _ hrow := hrow
  holder _ _ _ hheld := hheld
  runs _ hne := Function.update_of_ne hne _ _
  status _ _ _ _ _ := rfl

variable {run : Run}

theorem Inv.setRun (h : Inv w) (hself : RunOk w requestId (some run)) :
    Inv (w.setRun requestId run) := by
  refine h.of_frame (frame_setRun run) h.exclusive h.backed h.lifecycle ?_
  have hrun : (w.setRun requestId run).runs requestId = some run := Function.update_self ..
  rw [hrun]
  exact hself

theorem Inv.openRun (h : Inv w) (hopen : w.openRun requestId run = some v)
    (hok : w.session.staged requestId = [] → RunOk w requestId (some run)) : Inv v := by
  unfold World.openRun at hopen
  split at hopen
  · rename_i hfree
    cases hopen
    have hidle := h.runs requestId
    rw [hfree] at hidle
    exact h.setRun (hok hidle)
  · cases hopen

theorem Inv.fail (h : Inv w) (requestId : Uuid) : Inv (w.fail requestId) := by
  have hframe : Frame requestId w (w.fail requestId) :=
    { obligations := rfl
      staged := fun id hne => Session.rollback_staged_of_ne hne
      rows := fun _ hrow => hrow
      holder := fun id hne key hheld => Session.release_of_ne hheld hne
      runs := fun id hne => Function.update_of_ne hne _ _
      status := fun _ _ _ _ _ => rfl }
  refine h.of_frame hframe (h.exclusive.rollback requestId) h.backed h.lifecycle ?_
  have hrun : (w.fail requestId).runs requestId = none := Function.update_self ..
  rw [hrun]
  exact Session.rollback_staged_self

/-- A statement that inserts a row or takes a lock, and moves its request on. -/
theorem Inv.withSession (h : Inv w) {session : Session Key Uuid Row}
    (hexclusive : Exclusive Row.keys session) (hrows : session.rows = w.session.rows)
    (hstaged : ∀ id, id ≠ requestId → session.staged id = w.session.staged id)
    (hholder : ∀ id key, w.session.holder key = some id → session.holder key = some id)
    (hself : RunOk { w with session } requestId (some run)) :
    Inv { w.setRun requestId run with session } := by
  have hframe : Frame requestId w { w.setRun requestId run with session } :=
    { obligations := rfl
      staged := hstaged
      rows := fun row hrow => by rw [hrows]; exact hrow
      holder := fun id _ key hheld => hholder id key hheld
      runs := fun id hne => Function.update_of_ne hne _ _
      status := fun _ _ _ _ _ => rfl }
  refine h.of_frame hframe hexclusive ?_ ?_ ?_
  · rw [hrows]
    exact h.backed
  · rw [hrows]
    exact h.lifecycle
  · have hrun : { w.setRun requestId run with session }.runs requestId = some run :=
      Function.update_self ..
    rw [hrun]
    exact hself

variable {recording : Recording}

/-- The observation or the covenant test is inserted. -/
theorem Inv.insertRow (h : Inv w) (hrun : w.runs requestId = some (.recording recording))
    (hphase : recording.phase = .loaded) (hstep : w.insertRow requestId recording = some v) : Inv v := by
  obtain ⟨hplanned, hstaged⟩ : RunOk w requestId (some (.recording recording)) := hrun ▸ h.runs requestId
  unfold Recording.Staged at hstaged
  rw [hphase] at hstaged
  unfold World.insertRow at hstep
  split at hstep
  · cases hstep
  · cases hstep
    exact h.fail requestId
  · rename_i session hins
    cases hstep
    refine h.withSession (h.exclusive.insert hins) (Session.insert_rows hins)
      (fun id => Session.insert_staged_of_ne hins) (fun id key => Session.holder_insert hins) ?_
    refine ⟨hplanned, ?_⟩
    exact (Session.insert_staged_self hins).trans (by rw [hstaged])

theorem Planned.taken {obligations : List MonitoringObligation} {row : Row}
    {alert : Option EarlyWarningAlert} (h : Planned obligations row alert) {source : AlertSource}
    {rows : List Row} (htaken : Taken Row.keys ([row] ++ rows) source.key) :
    Taken Row.keys rows source.key := by
  rcases Taken.append_iff.1 htaken with ⟨_, hown, hkey⟩ | hrows
  · rw [List.mem_singleton.1 hown] at hkey
    cases h <;> cases source <;> cases List.mem_singleton.1 hkey
  · exact hrows

/-- The alert is inserted, or there is one with its source already. -/
theorem Inv.raiseAlert (h : Inv w) (hrun : w.runs requestId = some (.recording recording))
    (hphase : recording.phase = .recorded) (hstep : w.raiseAlert requestId recording = some v) :
    Inv v := by
  obtain ⟨hplanned, hstaged⟩ : RunOk w requestId (some (.recording recording)) := hrun ▸ h.runs requestId
  unfold Recording.Staged at hstaged
  rw [hphase] at hstaged
  unfold World.raiseAlert at hstep
  dsimp only at hstep
  split at hstep
  · rename_i hnone
    cases hstep
    refine h.setRun ⟨hplanned, Or.inl ⟨hstaged, ?_⟩⟩
    intro a ha
    rw [hnone] at ha
    cases ha
  · rename_i alert halert
    split at hstep
    · rename_i htaken
      cases hstep
      refine h.setRun ⟨hplanned, Or.inl ⟨hstaged, ?_⟩⟩
      intro a ha
      cases Option.some.inj (halert.symm.trans ha)
      rw [Session.view, hstaged] at htaken
      exact hplanned.taken htaken
    · split at hstep
      · cases hstep
      · cases hstep
        exact h.fail requestId
      · rename_i session hins
        cases hstep
        refine h.withSession (h.exclusive.insert hins) (Session.insert_rows hins)
          (fun id => Session.insert_staged_of_ne hins) (fun id key => Session.holder_insert hins) ?_
        refine ⟨hplanned, Or.inr ⟨alert, halert, ?_⟩⟩
        exact (Session.insert_staged_self hins).trans (by rw [hstaged])

variable {disposing : Disposing}

/-- The alert is locked, and the move checked against the status that stands. -/
theorem Inv.lockAlert (h : Inv w) (hrun : w.runs requestId = some (.disposing disposing))
    (hphase : disposing.phase = .loaded) (hstep : w.lockAlert requestId disposing = some v) : Inv v := by
  have hok : disposing.Ok w.session w.status requestId := by
    have hruns := h.runs requestId
    rw [hrun] at hruns
    exact hruns
  unfold Disposing.Ok at hok
  rw [hphase] at hok
  unfold World.lockAlert at hstep
  split at hstep
  · cases hstep
  rename_i session hlock
  split at hstep
  · cases hstep
    exact h.fail requestId
  · rename_i alert hload
    obtain ⟨hmem, hid⟩ := loadAlert_eq_some hload
    split at hstep
    · rename_i hallow
      cases hstep
      refine h.withSession (h.exclusive.lock hlock) (Session.lock_rows hlock)
        (fun id _ => by rw [Session.lock_staged hlock]) (fun id key => Session.holder_lock hlock) ?_
      refine ⟨by rw [Session.lock_staged hlock]; exact hok, ?_⟩
      refine ⟨Session.holder_lock_self hlock, ⟨alert, ?_, hid⟩, by rw [hid], hallow⟩
      rw [Session.lock_rows hlock]
      exact hmem
    · cases hstep
      exact h.fail requestId

/-- The status is moved and the move recorded. -/
theorem Inv.moveAlert (h : Inv w) {current : AlertStatus}
    (hrun : w.runs requestId = some (.disposing disposing)) (hphase : disposing.phase = .locked current)
    (hstep : w.moveAlert requestId disposing current = some v) : Inv v := by
  have hok : disposing.Ok w.session w.status requestId := by
    have hruns := h.runs requestId
    rw [hrun] at hruns
    exact hruns
  unfold Disposing.Ok at hok
  rw [hphase] at hok
  obtain ⟨hstaged, hholding⟩ := hok
  unfold World.moveAlert at hstep
  split at hstep
  · cases hstep
    exact h.fail requestId
  · split at hstep
    · cases hstep
    · cases hstep
      exact h.fail requestId
    · rename_i session hins
      cases hstep
      refine h.withSession (h.exclusive.insert hins) (Session.insert_rows hins)
        (fun id => Session.insert_staged_of_ne hins) (fun id key => Session.holder_insert hins) ?_
      refine ⟨(Session.insert_staged_self hins).trans (by rw [hstaged]), ?_⟩
      obtain ⟨alert, hmem, hid⟩ := hholding.alert
      refine ⟨Session.holder_insert hins hholding.lock, ⟨alert, ?_, hid⟩, hholding.stands,
        hholding.allowed⟩
      rw [Session.insert_rows hins]
      exact hmem

end Statements

end CreditOps.Monitoring
