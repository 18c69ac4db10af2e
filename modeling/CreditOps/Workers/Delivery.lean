import CreditOps.Workers.Leases

/-!
# No task is lost

A message leaves the queue in one way only: the worker that holds it archives it, and a worker gets to
that point by a terminal write of its own or by reading a finished task. Since a finished task is never
touched again, the task of an archived message is finished for good.
-/

set_option autoImplicit false

namespace CreditOps.Workers

open Orchestration Transition PartialMap

/-! ## Writes under a lease -/

section Updates

variable {tables tables' : CaseTables} {clock : Timestamp} {envelope : TaskEnvelope}
  {leaseToken : Uuid} {set : ProcessingTask → ProcessingTask}

theorem exists_of_updateOwned
    (h : updateOwned tables clock envelope leaseToken set = some tables') :
    ∃ task ∈ tables.tasks, inScope tables envelope task = true ∧
      ownedBy leaseToken clock task = true ∧ set task ∈ tables'.tasks := by
  unfold updateOwned updateTasks at h
  split at h
  · rename_i hany
    cases h
    obtain ⟨task, hmem, hguard⟩ := List.any_eq_true.1 hany
    obtain ⟨hscope, howned⟩ := Bool.and_eq_true_iff.1 hguard
    exact ⟨task, hmem, hscope, howned, List.mem_map.2 ⟨task, hmem, if_pos hguard⟩⟩
  · cases h

theorem getTask_eq_some {taskId caseId : Uuid} {task : ProcessingTask}
    (h : getTask tables taskId caseId = some task) :
    task ∈ tables.tasks ∧ task.id = taskId ∧ tables.caseId = caseId := by
  unfold getTask at h
  split at h
  · rename_i hcase
    have hid := List.find?_some (p := fun row : ProcessingTask => decide (row.id = taskId)) h
    exact ⟨List.mem_of_find?_eq_some h, of_decide_eq_true hid, hcase⟩
  · cases h

end Updates

/-! ## Messages -/

/-- Two copies of one message: they may differ in when they are visible. -/
def SameMessage (message copy : QueueMessage) : Prop :=
  copy.messageId = message.messageId ∧ copy.envelope = message.envelope

instance (message copy : QueueMessage) : Decidable (SameMessage message copy) :=
  inferInstanceAs (Decidable (_ ∧ _))

variable {queue : List QueueMessage} {message : QueueMessage}

theorem exists_same_of_mem_setVisibility {messageId : Nat} {visibleAt : Timestamp}
    (h : message ∈ setVisibility queue messageId visibleAt) :
    ∃ old ∈ queue, SameMessage old message := by
  obtain ⟨old, hold, rfl⟩ := List.mem_map.1 h
  refine ⟨old, hold, ?_⟩
  split <;> exact ⟨rfl, rfl⟩

theorem exists_same_in_setVisibility (hmem : message ∈ queue) (messageId : Nat) (visibleAt : Timestamp) :
    ∃ new ∈ setVisibility queue messageId visibleAt, SameMessage message new := by
  refine ⟨_, List.mem_map_of_mem hmem, ?_⟩
  split <;> exact ⟨rfl, rfl⟩

namespace System

variable {s s' : System} {leaseToken : Uuid} {run : WorkerRun}

/-- The task of the message is finished. -/
def Settled (s : System) (message : QueueMessage) : Prop :=
  ∃ task ∈ s.tables.tasks, task.id = message.envelope.taskId ∧ isTerminal task.status = true

instance (s : System) (message : QueueMessage) : Decidable (s.Settled message) :=
  inferInstanceAs (Decidable (∃ task ∈ s.tables.tasks, _))

variable {message : QueueMessage} {q : Request}

theorem Settled.step (h : s.Settled message) (hstep : s.step q = some s') : s'.Settled message := by
  obtain ⟨task, hmem, hid, hterm⟩ := h
  exact ⟨task, terminal_persists hstep hmem hterm, hid, hterm⟩

theorem Settled.of_same {copy : QueueMessage} (h : s.Settled message)
    (hsame : copy.envelope = message.envelope) : s.Settled copy := by
  obtain ⟨task, hmem, hid, hterm⟩ := h
  exact ⟨task, hmem, by rw [hsame]; exact hid, hterm⟩

theorem settled_of_taskOf {task : ProcessingTask} (htask : s.taskOf message = some task)
    (hterm : isTerminal task.status = true) :
    s.Settled message := by
  obtain ⟨hmem, hid, -⟩ := getTask_eq_some htask
  exact ⟨task, hmem, hid, hterm⟩

variable {tables : CaseTables}

theorem settled_of_closing {now : Timestamp} {outcome : WorkerOutcome}
    (hout : outcome = .succeeded ∨ outcome = .superseded)
    (h : s.settleOutcome leaseToken run message now outcome = some tables) :
    ({ s with tables } : System).Settled message := by
  rcases hout with rfl | rfl
  all_goals
    obtain ⟨task, -, hscope, -, hclosed⟩ := exists_of_updateOwned h
    exact ⟨_, hclosed, (of_decide_eq_true hscope).1, rfl⟩

/-! ## What an action does to the mail -/

/-- The queue and the archive after an action: the messages are those before, or the one the worker was
about to archive has moved. -/
theorem Acted.mail (h : Acted s leaseToken run s') :
    ((s'.queue = s.queue ∨ ∃ messageId visibleAt, s'.queue = setVisibility s.queue messageId visibleAt) ∧
      s'.archive = s.archive) ∨
    ∃ message, run.stage = .archiving message ∧ s'.queue = dropMessage s.queue message.messageId ∧
      s'.archive = message :: s.archive := by
  cases h with
  | delivered message visibleUntil =>
    exact Or.inl ⟨Or.inr ⟨message.messageId, visibleUntil, rfl⟩, rfl⟩
  | renewed message leaseUntil renewal _ _ _ hrenew =>
    cases renewal with
    | taskLease =>
      obtain ⟨tables, -, rfl⟩ := Option.map_eq_some_iff.1 hrenew
      exact Or.inl ⟨Or.inl rfl, rfl⟩
    | workerSlot =>
      obtain ⟨slot, -, rfl⟩ := Option.map_eq_some_iff.1 hrenew
      exact Or.inl ⟨Or.inl rfl, rfl⟩
    | visibility =>
      cases hrenew
      exact Or.inl ⟨Or.inr ⟨message.messageId, leaseUntil, rfl⟩, rfl⟩
  | retried message _ tables =>
    rcases afterRetry_cases { s with tables } leaseToken run message with
      ⟨_, -, -, h⟩ | h <;> rw [h] <;> exact Or.inl ⟨Or.inl rfl, rfl⟩
  | archived message hstage => exact Or.inr ⟨message, hstage, rfl, rfl⟩
  | _ => exact Or.inl ⟨Or.inl rfl, rfl⟩

/-- The worker after an action: what it is busy with it was busy with before or has just read, and what
it is about to archive has a finished task. -/
theorem Acted.worker (h : Acted s leaseToken run s') :
    ∃ next : Option WorkerRun, s'.workers = Function.update s.workers leaseToken next ∧
      ∀ after, next = some after →
        (∀ message, held after.stage = some message →
          held run.stage = some message ∨ message ∈ s.queue) ∧
        ∀ message, after.stage = .archiving message → s'.Settled message := by
  have hnone : ∀ message, held .finished = some message →
      held run.stage = some message ∨ message ∈ s.queue := fun _ h => by cases h
  cases h with
  | reclaimed | archived =>
    refine ⟨_, rfl, ?_⟩
    rintro after ⟨⟩
    exact ⟨hnone, fun _ h => by cases h⟩
  | delivered message _ hmem =>
    refine ⟨_, rfl, ?_⟩
    rintro after ⟨⟩
    refine ⟨?_, fun _ h => by cases h⟩
    rintro message ⟨⟩
    exact Or.inr hmem
  | claimed _ _ _ hstage | loaded _ hstage | saved _ _ _ _ _ hstage | reported _ _ _ hstage =>
    refine ⟨_, rfl, ?_⟩
    rintro after ⟨⟩
    exact ⟨fun _ h => Or.inl (by rw [hstage]; exact h), fun _ h => by cases h⟩
  | idles _ hidle hheld =>
    refine ⟨_, rfl, ?_⟩
    rintro after ⟨⟩
    refine ⟨fun message h => Or.inl (hheld message h), ?_⟩
    rintro message ⟨⟩
    cases hidle
  | foundTerminal message _ hstage htask hterm =>
    refine ⟨_, rfl, ?_⟩
    rintro after ⟨⟩
    refine ⟨fun _ h => Or.inl (by rw [hstage]; exact h), ?_⟩
    rintro message ⟨⟩
    exact settled_of_taskOf htask hterm
  | renewed _ _ renewal renewed stage hrenewing hrenew =>
    have hwkrs : renewed.workers = s.workers := by
      cases renewal with
      | taskLease =>
        obtain ⟨tables, -, rfl⟩ := Option.map_eq_some_iff.1 hrenew
        rfl
      | workerSlot =>
        obtain ⟨slot, -, rfl⟩ := Option.map_eq_some_iff.1 hrenew
        rfl
      | visibility =>
        cases hrenew
        rfl
    refine ⟨some { run with stage }, by rw [← hwkrs]; rfl, ?_⟩
    rintro after ⟨⟩
    generalize run.stage = before at hrenewing
    cases hrenewing with
    | claimed | processing | heartbeat => exact ⟨fun _ h => Or.inl h, fun _ h => by cases h⟩
  | closed message _ _ _ hstage hout hsettle =>
    refine ⟨_, rfl, ?_⟩
    rintro after ⟨⟩
    refine ⟨fun _ h => Or.inl (by rw [hstage]; exact h), ?_⟩
    rintro message ⟨⟩
    exact settled_of_closing hout hsettle
  | retried message _ tables hheld =>
    rcases afterRetry_cases { s with tables } leaseToken run message with
      ⟨task, htask, hfailed, hafter⟩ | hafter
    · rw [hafter]
      refine ⟨_, rfl, ?_⟩
      rintro after ⟨⟩
      refine ⟨fun _ h => Or.inl (by rw [hheld]; exact h), ?_⟩
      rintro message ⟨⟩
      exact settled_of_taskOf htask (by rw [hfailed]; rfl)
    · rw [hafter]
      refine ⟨_, rfl, ?_⟩
      rintro after ⟨⟩
      exact ⟨hnone, fun _ h => by cases h⟩
  | released | crashed => exact ⟨none, rfl, fun _ h => by cases h⟩

/-! ## The mail invariant -/

/-- The message was posted: a copy of it is in the queue or in the archive. -/
def Posted (s : System) (message : QueueMessage) : Prop :=
  ∃ copy ∈ s.queue ++ s.archive, SameMessage message copy

/-- What every interleaving keeps of the messages. -/
structure Mail (s : System) : Prop where
  posted : ∀ one ∈ s.queue ++ s.archive, ∀ other ∈ s.queue ++ s.archive,
    one.messageId = other.messageId → one.envelope = other.envelope
  held : ∀ leaseToken run message, s.workers leaseToken = some run →
    held run.stage = some message → s.Posted message
  archiving : ∀ leaseToken run message, s.workers leaseToken = some run →
    run.stage = .archiving message → s.Settled message
  archived : ∀ message ∈ s.archive, s.Settled message

theorem idle_mail (tables : CaseTables) : Mail (idle tables) where
  posted _ h := by cases h
  held _ _ _ h := by cases h
  archiving _ _ _ h := by cases h
  archived _ h := by cases h

theorem posted_of_mem (h : message ∈ s.queue) : s.Posted message :=
  ⟨message, List.mem_append_left _ h, rfl, rfl⟩

/-- What is posted after an action was posted before, and the other way round. -/
theorem Acted.posted (h : Acted s leaseToken run s') (hmail : Mail s)
    (hrun : s.workers leaseToken = some run) :
    (∀ message ∈ s'.queue ++ s'.archive, s.Posted message) ∧
      ∀ message, s.Posted message → s'.Posted message := by
  rcases h.mail with ⟨hqueue | ⟨messageId, visibleAt, hqueue⟩, harchive⟩ |
    ⟨archived, hstage, hqueue, harchive⟩
  · simp only [Posted, hqueue, harchive]
    exact ⟨fun message hmem => ⟨message, hmem, rfl, rfl⟩, fun _ h => h⟩
  · simp only [Posted, hqueue, harchive]
    constructor
    · intro message hmem
      rcases List.mem_append.1 hmem with hnew | hold
      · obtain ⟨old, hold, hid, henv⟩ := exists_same_of_mem_setVisibility hnew
        exact ⟨old, List.mem_append_left _ hold, hid.symm, henv.symm⟩
      · exact ⟨message, List.mem_append_right _ hold, rfl, rfl⟩
    · rintro message ⟨copy, hmem, hid, henv⟩
      rcases List.mem_append.1 hmem with hold | hold
      · obtain ⟨new, hnew, hid', henv'⟩ := exists_same_in_setVisibility hold messageId visibleAt
        exact ⟨new, List.mem_append_left _ hnew, hid'.trans hid, henv'.trans henv⟩
      · exact ⟨copy, List.mem_append_right _ hold, hid, henv⟩
  · have harchivedPosted : s.Posted archived :=
      hmail.held leaseToken run archived hrun (by rw [hstage]; rfl)
    simp only [Posted, hqueue, harchive]
    constructor
    · intro message hmem
      rcases List.mem_append.1 hmem with hkept | hold
      · exact posted_of_mem (List.mem_filter.1 hkept).1
      · rcases List.mem_cons.1 hold with rfl | hold
        · exact harchivedPosted
        · exact ⟨message, List.mem_append_right _ hold, rfl, rfl⟩
    · rintro message ⟨copy, hmem, hid, henv⟩
      by_cases hdropped : copy.messageId = archived.messageId
      · -- the copy that was dropped is a copy of the one that went to the archive
        obtain ⟨known, hknown, hknownId, hknownEnvelope⟩ := harchivedPosted
        have hsame := hmail.posted copy hmem known hknown (hdropped.trans hknownId.symm)
        exact ⟨archived, List.mem_append_right _ List.mem_cons_self, hdropped ▸ hid,
          hknownEnvelope.symm.trans (hsame.symm.trans henv)⟩
      · rcases List.mem_append.1 hmem with hold | hold
        · exact ⟨copy, List.mem_append_left _ (List.mem_filter.2 ⟨hold, decide_eq_true hdropped⟩),
            hid, henv⟩
        · exact ⟨copy, List.mem_append_right _ (List.mem_cons_of_mem _ hold), hid, henv⟩

/-- **An action keeps the mail invariant.** -/
theorem Mail.acted (hmail : Mail s) (hrun : s.workers leaseToken = some run)
    (h : Acted s leaseToken run s')
    (hsettled : ∀ message, s.Settled message → s'.Settled message) : Mail s' := by
  obtain ⟨hback, hforth⟩ := h.posted hmail hrun
  obtain ⟨next, hwkrs, hnext⟩ := h.worker
  constructor
  · intro one hone other hother hid
    obtain ⟨one', hone', honeId, honeEnvelope⟩ := hback one hone
    obtain ⟨other', hother', hotherId, hotherEnvelope⟩ := hback other hother
    have hsame := hmail.posted one' hone' other' hother'
      (honeId.trans (hid.trans hotherId.symm))
    exact honeEnvelope.symm.trans (hsame.trans hotherEnvelope)
  · intro token after message hafter hmsg
    apply hforth
    by_cases htoken : token = leaseToken
    · subst htoken
      rw [hwkrs, Function.update_self] at hafter
      rcases (hnext after hafter).1 message hmsg with hpre | hread
      · exact hmail.held token run message hrun hpre
      · exact posted_of_mem hread
    · rw [hwkrs, Function.update_of_ne htoken] at hafter
      exact hmail.held token after message hafter hmsg
  · intro token after message hafter hstage
    by_cases htoken : token = leaseToken
    · subst htoken
      rw [hwkrs, Function.update_self] at hafter
      exact (hnext after hafter).2 message hstage
    · rw [hwkrs, Function.update_of_ne htoken] at hafter
      exact hsettled message (hmail.archiving token after message hafter hstage)
  · intro message hmem
    rcases h.mail with ⟨-, harchive⟩ | ⟨archived, hstage, -, harchive⟩
    · rw [harchive] at hmem
      exact hsettled message (hmail.archived message hmem)
    · rw [harchive] at hmem
      rcases List.mem_cons.1 hmem with rfl | hold
      · exact hsettled message (hmail.archiving leaseToken run message hrun hstage)
      · exact hsettled message (hmail.archived message hold)

/-- **Every step keeps the mail invariant.** -/
theorem Mail.step (hmail : Mail s) (hstep : s.step q = some s') : Mail s' := by
  have hsettled : ∀ message, s.Settled message → s'.Settled message :=
    fun message h => h.step hstep
  cases step_cases hstep with
  | acquired =>
    refine ⟨hmail.posted, ?_, ?_, hmail.archived⟩
    · intro token after message hafter hmsg
      rcases update_some_cases hafter with ⟨-, rfl⟩ | ⟨-, hold⟩
      · cases hmsg
      · exact hmail.held token after message hold hmsg
    · intro token after message hafter hstage
      rcases update_some_cases hafter with ⟨-, rfl⟩ | ⟨-, hold⟩
      · cases hstage
      · exact hmail.archiving token after message hold hstage
  | acted _ _ _ hrun hacted => exact hmail.acted hrun hacted hsettled
  | ticked => exact ⟨hmail.posted, hmail.held, hmail.archiving, hmail.archived⟩
  | sent messageId envelope visibleAt hfresh =>
    have hgrows : ∀ message ∈ s.queue ++ s.archive,
        message ∈ s.queue ++ [⟨messageId, visibleAt, envelope⟩] ++ s.archive := by
      intro message hmem
      rcases List.mem_append.1 hmem with hold | hold
      · exact List.mem_append_left _ (List.mem_append_left _ hold)
      · exact List.mem_append_right _ hold
    have hcases : ∀ message ∈ s.queue ++ [⟨messageId, visibleAt, envelope⟩] ++ s.archive,
        message ∈ s.queue ++ s.archive ∨ message = ⟨messageId, visibleAt, envelope⟩ := by
      intro message hmem
      rcases List.mem_append.1 hmem with hqueue | hold
      · rcases List.mem_append.1 hqueue with hold | hnew
        · exact Or.inl (List.mem_append_left _ hold)
        · exact Or.inr (List.mem_singleton.1 hnew)
      · exact Or.inl (List.mem_append_right _ hold)
    refine ⟨?_, ?_, hmail.archiving, hmail.archived⟩
    · intro one hone other hother hid
      rcases hcases one hone with hone | rfl
      · rcases hcases other hother with hother | rfl
        · exact hmail.posted one hone other hother hid
        · exact absurd hid (hfresh one hone)
      · rcases hcases other hother with hother | rfl
        · exact absurd hid.symm (hfresh other hother)
        · rfl
    · intro token after message hafter hmsg
      obtain ⟨copy, hmem, hsame⟩ := hmail.held token after message hafter hmsg
      exact ⟨copy, hgrows copy hmem, hsame⟩
  | created | others =>
    exact ⟨hmail.posted, hmail.held,
      fun token after message hafter hstage =>
        hsettled message (hmail.archiving token after message hafter hstage),
      fun message hmem => hsettled message (hmail.archived message hmem)⟩

theorem mail_of_run {requests : List Request}
    (hrun : Transition.run System.step (idle tables) requests = some s) : Mail s :=
  run_invariant (fun h hstep => h.step hstep) (idle_mail tables) hrun

/-! ## The guarantee -/

/-- The message is still in the queue, or its task is finished. -/
def Kept (s : System) (message : QueueMessage) : Prop :=
  s.Settled message ∨ ∃ copy ∈ s.queue, SameMessage message copy

/-- **A step loses no message** of a task that is not finished. -/
theorem Kept.step (h : s.Kept message) (hmail : Mail s) (hstep : s.step q = some s') :
    s'.Kept message := by
  rcases h with hsettled | ⟨copy, hcopy, hid, henv⟩
  · exact Or.inl (hsettled.step hstep)
  · cases step_cases hstep with
    | acquired | ticked | created | others =>
      exact Or.inr ⟨copy, hcopy, hid, henv⟩
    | acted leaseToken run _ hrun hacted =>
      rcases hacted.mail with ⟨hqueue | ⟨messageId, visibleAt, hqueue⟩, -⟩ |
        ⟨archived, hstage, hqueue, -⟩
      · exact Or.inr ⟨copy, by rw [hqueue]; exact hcopy, hid, henv⟩
      · obtain ⟨new, hnew, hid', henv'⟩ :=
          exists_same_in_setVisibility hcopy messageId visibleAt
        exact Or.inr ⟨new, by rw [hqueue]; exact hnew, hid'.trans hid, henv'.trans henv⟩
      · by_cases hdropped : copy.messageId = archived.messageId
        · -- the message is archived by a worker that knows its task to be finished
          obtain ⟨known, hknown, hknownId, hknownEnvelope⟩ :=
            hmail.held leaseToken run archived hrun (by rw [hstage]; rfl)
          have hsame := hmail.posted copy (List.mem_append_left _ hcopy) known hknown
            (hdropped.trans hknownId.symm)
          have hsettled := hmail.archiving leaseToken run archived hrun hstage
          refine Or.inl ((hsettled.of_same ?_).step hstep)
          exact henv.symm.trans (hsame.trans hknownEnvelope)
        · refine Or.inr ⟨copy, ?_, hid, henv⟩
          rw [hqueue]
          exact List.mem_filter.2 ⟨hcopy, decide_eq_true hdropped⟩
    | sent =>
      exact Or.inr ⟨copy, List.mem_append_left _ hcopy, hid, henv⟩

/-- **No task is lost.** In every state reached, the task of each archived message is finished; and a
message that was in the queue at some point is in the queue at every later one at which its task is not
finished. -/
theorem archived_only_finished {tables : CaseTables} {before later : List Request} {t : System}
    (hpre : Transition.run System.step (idle tables) before = some s)
    (hlater : Transition.run System.step s later = some t) :
    (∀ message ∈ t.archive, t.Settled message) ∧
      ∀ message ∈ s.queue, ¬ t.Settled message → ∃ copy ∈ t.queue, SameMessage message copy := by
  have hmail : Mail s := mail_of_run hpre
  refine ⟨(run_invariant (fun h hstep => h.step hstep) hmail hlater).archived, ?_⟩
  intro message hmem hopen
  have hkeep : ∀ {u : System} {q : Request} {u' : System}, Mail u ∧ u.Kept message →
      u.step q = some u' → Mail u' ∧ u'.Kept message :=
    fun h hstep => ⟨h.1.step hstep, h.2.step h.1 hstep⟩
  have hkept := run_invariant hkeep ⟨hmail, Or.inr ⟨message, hmem, rfl, rfl⟩⟩ hlater
  exact hkept.2.resolve_left hopen

/-- A document is registered and its message is sent. -/
def ingestionPosted : List Request :=
  [.registerIngestion 1 5 1 0, .send 1 ingestionEnvelope 0]

/-- A worker claims the task and crashes. -/
def crashedClaim : List Request :=
  claiming 21 300 ++ [.worker 21 .crash]

theorem crashedClaim_keeps_message :
    ∃ s t, Transition.run System.step (idle emptyCase) ingestionPosted = some s ∧
      Transition.run System.step s crashedClaim = some t ∧
      ∃ copy ∈ t.queue, SameMessage ⟨1, 0, ingestionEnvelope⟩ copy := by
  refine ⟨_, _, rfl, rfl, ?_⟩
  apply (archived_only_finished
    (rfl : Transition.run System.step (idle emptyCase) ingestionPosted = some _)
    (rfl : Transition.run System.step _ crashedClaim = some _)).2 ⟨1, 0, ingestionEnvelope⟩
  · exact List.mem_singleton.2 rfl
  · decide

end System

end CreditOps.Workers
