import CreditOps.Uploads.Outcomes

/-!
# Duplicates across case versions

A duplicate is looked for among the live document versions of the case, whatever case version they were
registered at. An upload intent carries the case version that was current when it was created, a revision
moves the case on to a new version without copying a document, and whoever reads evidence reads it at one
case version. So content that was uploaded before a revision and is uploaded again after it is answered as
a duplicate of a document that has no version at the case version of the intent
(`duplicate_of_older_version`).

In every run the documents that duplicates name are present at the case versions of their intents exactly
when no duplicate is committed against a version of another case version (`duplicates_present_iff`), and
every answer, also a repeated one, goes back to a duplicate committed for its request.
-/

set_option autoImplicit false

namespace CreditOps.Uploads

open KeyedTable RowLocks Transition

/-! ## What answers go back to -/

namespace UploadStore

/-- A duplicate of the document was committed by the officer for an intent with this request hash. -/
def RecordedDuplicate (s : UploadStore) (actorId : Uuid) (requestSha256 : String) (documentId : Uuid) :
    Prop :=
  ∃ caseId caseVersion intentId contentSha256,
    .duplicateDetected caseId caseVersion actorId intentId documentId contentSha256 ∈ s.audit ∧
      requestHash intentId = requestSha256

/-- What a completed record answers was committed for its request. -/
def Accountable (s : UploadStore) (record : IdempotencyRecord) : Prop :=
  ∀ documentId, record.Stores (.duplicate documentId) →
    s.RecordedDuplicate record.actorId record.requestSha256 documentId

variable {s s' : UploadStore}

theorem RecordedDuplicate.mono {actorId documentId : Uuid} {hash : String}
    (h : s.RecordedDuplicate actorId hash documentId) (haudit : s.audit ⊆ s'.audit) :
    s'.RecordedDuplicate actorId hash documentId := by
  obtain ⟨caseId, caseVersion, intentId, contentSha256, hmem, hhash⟩ := h
  exact ⟨caseId, caseVersion, intentId, contentSha256, haudit hmem, hhash⟩

variable {record : IdempotencyRecord}

theorem Accountable.mono (h : s.Accountable record) (haudit : s.audit ⊆ s'.audit) :
    s'.Accountable record :=
  fun documentId hstores => (h documentId hstores).mono haudit

theorem accountable_of_open (h : record.completedAt = none) :
    s.Accountable record :=
  fun _ hstores => absurd h hstores.completed

end UploadStore

namespace CompletionStage

/-- What a stage says of the request of its call, and of the duplicate it is about. -/
def Accounts (s : UploadStore) (call : CompletionCall) : CompletionStage → Prop
  | .searching _ _ record | .registering _ _ record | .registered _ _ record _ _ =>
    record.requestSha256 = call.requestSha256
  | .duplicated content intent record documentId =>
    record.requestSha256 = call.requestSha256 ∧ ∃ version ∈ s.versions,
      UploadStore.isLiveContent intent.caseId content.contentSha256 version ∧
        version.documentId = documentId
  | .done (.duplicate documentId) =>
    s.RecordedDuplicate call.actorId call.requestSha256 documentId
  | _ => True

theorem Accounts.mono {s s' : UploadStore} {call : CompletionCall} {stage : CompletionStage}
    (h : stage.Accounts s call) (hvers : s.versions ⊆ s'.versions) (haudit : s.audit ⊆ s'.audit) :
    stage.Accounts s' call := by
  cases stage with
  | duplicated =>
    obtain ⟨hhash, version, hmem, hlive⟩ := h
    exact ⟨hhash, version, hvers hmem, hlive⟩
  | done result =>
    cases result with
    | duplicate => exact UploadStore.RecordedDuplicate.mono h haudit
    | registered => trivial
  | searching | registering | registered => exact h
  | claiming | looking | reserving | verifying | verified | rechecking | failed => trivial

end CompletionStage

namespace UploadWorld

variable {ι : Type} {w w' : UploadWorld ι} {id : ι} {call : CompletionCall} {stage : CompletionStage}
  {store : UploadStore}

/-- Calls ask for their own intents, and answers were committed for the requests of their calls. -/
structure Accounted (w : UploadWorld ι) : Prop where
  requested : ∀ id call stage, w.calls id = some (call, stage) →
    call.requestSha256 = requestHash call.intentId
  stages : ∀ id call stage, w.calls id = some (call, stage) → stage.Accounts w.store call
  records : ∀ record ∈ w.store.records, w.store.Accountable record

theorem accounted_empty : (empty : UploadWorld ι).Accounted where
  requested _ _ _ hcall := by cases hcall
  stages _ _ _ hcall := by cases hcall
  records _ hmem := absurd hmem List.not_mem_nil

/-- A step from these tables that adds no version and no event. -/
structure Quietly (s : UploadStore) (w : UploadWorld ι) : Prop where
  accounted : w.Accounted
  versions : w.store.versions = s.versions
  audit : w.store.audit = s.audit

theorem Accounted.lock (h : w.Accounted) (locks : Locks UploadKey ι) :
    ({ w with locks } : UploadWorld ι).Accounted :=
  ⟨h.requested, h.stages, h.records⟩

variable [DecidableEq ι]

/-- **A step of one call** that adds rows and goes on to a stage that is accounted for. -/
theorem Accounted.move (h : w.Accounted) (hcall : call.requestSha256 = requestHash call.intentId)
    {locks : Locks UploadKey ι} (hvers : w.store.versions ⊆ store.versions)
    (haudit : w.store.audit ⊆ store.audit) (hrecs : ∀ record ∈ store.records, store.Accountable record)
    (hstage : stage.Accounts store call) :
    Accounted { store, locks, calls := Function.update w.calls id (some (call, stage)) } := by
  refine ⟨?_, ?_, hrecs⟩
  · intro other otherCall otherStage hother
    rcases PartialMap.update_some_cases hother with ⟨rfl, heq⟩ | ⟨-, hold⟩
    · cases heq
      exact hcall
    · exact h.requested other otherCall otherStage hold
  · intro other otherCall otherStage hother
    rcases PartialMap.update_some_cases hother with ⟨rfl, heq⟩ | ⟨-, hold⟩
    · cases heq
      exact hstage
    · exact (h.stages other otherCall otherStage hold).mono hvers haudit

theorem Accounted.put (h : w.Accounted) (hcall : call.requestSha256 = requestHash call.intentId)
    (hstage : stage.Accounts w.store call) : Quietly w.store (w.put id call stage) :=
  ⟨h.move hcall (fun _ hmem => hmem) (fun _ hmem => hmem) h.records hstage, rfl, rfl⟩

theorem Accounted.finish (h : w.Accounted) (hcall : call.requestSha256 = requestHash call.intentId)
    (hstage : stage.Accounts w.store call) : Quietly w.store (w.finish id call stage w.store) :=
  ⟨h.move hcall (fun _ hmem => hmem) (fun _ hmem => hmem) h.records hstage, rfl, rfl⟩

theorem Accounted.abort (h : w.Accounted) (hcall : call.requestSha256 = requestHash call.intentId)
    (error : Option UploadError) : Quietly w.store (w.abort id call error) :=
  h.finish hcall trivial

variable {record : IdempotencyRecord} {result : CompleteUploadResult}

omit [DecidableEq ι] in
/-- A repeated answer was committed for the request of the call. -/
theorem Accounted.accounts_done (h : w.Accounted) (hsound : w.store.Sound)
    (hfind : w.store.findIdempotency call.actorId call.idempotencyKey = some record)
    (hhash : record.requestSha256 = call.requestSha256)
    (hres : resultFromIdempotency record = .ok (some result)) :
    (CompletionStage.done result).Accounts w.store call := by
  obtain ⟨hmem, hkey⟩ := lookup_eq_some hfind
  have hstores := (hsound.records record hmem).stores_of_result hres
  cases result with
  | duplicate documentId =>
    have hrecorded := h.records record hmem documentId hstores
    have hactor : record.actorId = call.actorId := congrArg Prod.fst hkey
    rw [hactor, hhash] at hrecorded
    exact hrecorded
  | registered => trivial

theorem Accounted.lockIntent (h : w.Accounted) (hcall : call.requestSha256 = requestHash call.intentId)
    {next : UploadWorld ι → UploadIntent → UploadWorld ι}
    (hnext : ∀ {v : UploadWorld ι} (intent : UploadIntent), v.Accounted → Quietly v.store (next v intent))
    (hstep : w.lockIntent id call next = some w') : Quietly w.store w' := by
  unfold UploadWorld.lockIntent at hstep
  split at hstep
  · cases hstep
    exact h.abort hcall _
  · rename_i intent hintent
    obtain ⟨locks, -, rfl⟩ := Option.map_eq_some_iff.1 hstep
    exact hnext intent (h.lock locks)

variable {intent : UploadIntent}

theorem Accounted.lookForRecord (h : w.Accounted) (hsound : w.store.Sound)
    (hcall : call.requestSha256 = requestHash call.intentId)
    (hstep : w.lookForRecord id call intent = some w') : Quietly w.store w' := by
  unfold UploadWorld.lookForRecord at hstep
  split at hstep
  · cases hstep
    exact h.put hcall trivial
  · rename_i record hfind
    obtain ⟨locks, -, rfl⟩ := Option.map_eq_some_iff.1 hstep
    have hv := h.lock locks
    dsimp only
    split
    · exact hv.abort hcall _
    · rename_i hhash
      split
      · exact hv.abort hcall _
      · rename_i replay hres
        exact hv.finish hcall (h.accounts_done hsound hfind (not_not.1 hhash) hres)
      · split
        · exact hv.abort hcall _
        · exact hv.put hcall trivial

variable {newId taskId : Uuid} {now database : Timestamp}

/-- A reservation completes no record. -/
theorem accountable_of_reserve {s s' : UploadStore} (h : ∀ record ∈ s.records, s.Accountable record)
    {caseId actorId leaseOwner : Uuid} {leaseUntil : Timestamp} {key hash : String}
    {reservation : IdempotencyRecord}
    (hreservation : s.reservedRecord newId database caseId actorId key hash leaseUntil leaseOwner = reservation)
    (hput : s.putRecord reservation = some s') :
    s'.versions = s.versions ∧ s'.audit = s.audit ∧ ∀ record ∈ s'.records, s'.Accountable record := by
  have hself : s.Accountable reservation := by
    unfold UploadStore.reservedRecord at hreservation
    split at hreservation
    · rw [← hreservation]
      exact UploadStore.accountable_of_open rfl
    · rename_i old hfind
      split at hreservation
      · rename_i hopen
        rw [← hreservation]
        exact UploadStore.accountable_of_open hopen.1
      · rw [← hreservation]
        exact h old (lookup_eq_some hfind).1
  unfold UploadStore.putRecord at hput
  split at hput
  · cases hput
    refine ⟨rfl, rfl, fun record hmem => ?_⟩
    rcases mem_replace hmem with rfl | ⟨hold, -⟩
    · exact hself
    · exact h record hold
  · split at hput
    · cases hput
    cases hput
    refine ⟨rfl, rfl, fun record hmem => ?_⟩
    rcases List.mem_cons.1 hmem with rfl | hold
    · exact hself
    · exact h record hold

theorem Accounted.reserve (h : w.Accounted) (hsound : w.store.Sound)
    (hcall : call.requestSha256 = requestHash call.intentId)
    (hstep : w.reserve id call intent newId database = some w') :
    Quietly w.store w' := by
  unfold UploadWorld.reserve at hstep
  obtain ⟨locks, htake, rfl⟩ := Option.map_eq_some_iff.1 hstep
  have hv := h.lock locks
  dsimp only
  split
  · exact hv.abort hcall none
  · rename_i store hput
    obtain ⟨hvers, haudit, hrecs⟩ := accountable_of_reserve h.records rfl hput
    have hstays : ∀ {stage : CompletionStage}, stage.Accounts store call →
        Quietly w.store (({ w with locks } : UploadWorld ι).finish id call stage store) := by
      intro stage hstage
      refine ⟨hv.move hcall ?_ ?_ hrecs hstage, hvers, haudit⟩
      · exact fun version hmem => hvers ▸ hmem
      · exact fun event hmem => haudit ▸ hmem
    split
    · exact hv.abort hcall _
    · rename_i hhash
      split
      · exact hv.abort hcall _
      · split
        · exact hv.abort hcall _
        · rename_i replay hres
          apply hstays
          obtain ⟨hsound', -, hfind, -⟩ := hsound.reserve rfl hput (holds_of_take htake)
          have hw : Accounted { w with store, locks } :=
            ⟨h.requested, fun other otherCall otherStage hother =>
              (h.stages other otherCall otherStage hother).mono
                (fun version hmem => hvers ▸ hmem) (fun event hmem => haudit ▸ hmem), hrecs⟩
          exact hw.accounts_done hsound' hfind (not_not.1 hhash) hres
        · split
          · exact hv.abort hcall _
          · split
            · exact hv.abort hcall _
            · exact hstays trivial

theorem Accounted.recheckIntent (h : w.Accounted)
    (hcall : call.requestSha256 = requestHash call.intentId) (content : VerifiedContent)
    (now : Timestamp) (intent : UploadIntent) :
    Quietly w.store (UploadWorld.recheckIntent id call content now w intent) := by
  unfold UploadWorld.recheckIntent
  split
  · exact h.abort hcall _
  · split
    · exact h.abort hcall _
    · exact h.put hcall trivial

variable {content : VerifiedContent}

theorem Accounted.recheckRecord (h : w.Accounted) (hsound : w.store.Sound)
    (hcall : call.requestSha256 = requestHash call.intentId)
    (hstep : w.recheckRecord id call content intent now = some w') : Quietly w.store w' := by
  unfold UploadWorld.recheckRecord at hstep
  split at hstep
  · cases hstep
    exact h.abort hcall _
  · rename_i record hfind
    obtain ⟨locks, -, rfl⟩ := Option.map_eq_some_iff.1 hstep
    have hv := h.lock locks
    dsimp only
    split
    · exact hv.abort hcall _
    · rename_i hhash
      split
      · exact hv.abort hcall _
      · rename_i replay hres
        exact hv.finish hcall (h.accounts_done hsound hfind (not_not.1 hhash) hres)
      · split
        · exact hv.abort hcall _
        · exact hv.put hcall (not_not.1 hhash)

theorem Accounted.search (h : w.Accounted) (hcall : call.requestSha256 = requestHash call.intentId)
    (hhash : record.requestSha256 = call.requestSha256) :
    Quietly w.store (w.search id call content intent record) := by
  unfold UploadWorld.search
  split
  · rename_i documentId hfind
    obtain ⟨version, hleast, rfl⟩ := Option.map_eq_some_iff.1 hfind
    obtain ⟨hmem, hlive⟩ := List.mem_filter.1 (List.argmin_mem hleast)
    exact h.put hcall ⟨hhash, version, hmem, hlive, rfl⟩
  · exact h.put hcall hhash

theorem Accounted.insertVersion (h : w.Accounted)
    (hcall : call.requestSha256 = requestHash call.intentId) {documentId documentVersionId : Uuid}
    (hhash : record.requestSha256 = call.requestSha256)
    (hstep : w.insertVersion id call content intent record documentId documentVersionId taskId database = some w') :
    Quietly w.store w' := by
  unfold UploadWorld.insertVersion at hstep
  obtain ⟨locks, -, rfl⟩ := Option.map_eq_some_iff.1 hstep
  have hv := h.lock locks
  dsimp only
  split
  · exact hv.abort hcall none
  · exact hv.put hcall hhash

/-- The last statements of a completion raise nothing: the lease is good and the clock is right. -/
def Commits (s : UploadStore) (call : CompletionCall) (intent : UploadIntent) (record : IdempotencyRecord)
    (now database : Timestamp) (result : CompleteUploadResult) : Bool :=
  ((s.completeIdempotency database call.actorId call.idempotencyKey result.toResponse
    call.leaseOwner).consumeIntent intent.id call.actorId now record.id).isSome

variable {v : UploadWorld ι}

/-- **The end of the second transaction.** It raises, or it adds its event. -/
theorem Accounted.conclude (h : w.Accounted) (hsound : w.store.Sound)
    (hcall : call.requestSha256 = requestHash call.intentId) {event : UploadAudit}
    (hv : w.conclude id call intent record now database result event store = v)
    (hintents : store.intents = w.store.intents) (hrecs : store.records = w.store.records)
    (haudit : store.audit = w.store.audit) (hvers : w.store.versions ⊆ store.versions)
    (hintent : w.store.FitsIntent call intent) (hrec : w.store.FitsRecord call record)
    (hhash : record.requestSha256 = call.requestSha256)
    (hrecorded : ∀ s : UploadStore, event ∈ s.audit → (CompletionStage.done result).Accounts s call) :
    (Quietly w.store v ∧ Commits store call intent record now database result = false) ∨
    (v.Accounted ∧ Commits store call intent record now database result = true ∧
      v.store.versions = store.versions ∧ v.store.audit = event :: w.store.audit) := by
  unfold UploadWorld.conclude at hv
  unfold Commits
  dsimp only at hv
  split at hv
  · rename_i hraises
    rw [hraises]
    rw [← hv]
    exact .inl ⟨h.abort hcall none, rfl⟩
  · rename_i consumed hconsumed
    rw [hconsumed]
    have hintent' : store.FitsIntent call intent :=
      ⟨by rw [hintents]; exact hintent.found, hintent.unconsumed, hintent.officer⟩
    have hrec' : store.FitsRecord call record :=
      ⟨by rw [UploadStore.findIdempotency, hrecs]; exact hrec.found, hrec.incomplete⟩
    obtain ⟨heq, -, -⟩ : { consumed with audit := event :: consumed.audit } =
        store.concluded intent record now database result event ∧
          record.caseId = intent.caseId ∧ record.actorId = intent.assignedOfficerId := by
      apply UploadStore.consumeIntent_cases _ _ hintent' hrec' hconsumed
      · rw [hrecs]
        exact hsound.recordKeys
      · rw [hrecs]
        exact hsound.recordIds
    rw [heq] at hv
    subst hv
    have hevts : w.store.audit ⊆
        (store.concluded intent record now database result event).audit := by
      intro other hmem
      rw [← haudit] at hmem
      exact List.mem_cons_of_mem _ hmem
    have hdone := hrecorded (store.concluded intent record now database result event)
      (List.mem_cons_self ..)
    refine .inr ⟨h.move hcall hvers hevts ?_ hdone, rfl, rfl, ?_⟩
    · intro other hmem
      rcases mem_replace hmem with rfl | ⟨hold, -⟩
      · -- the completed record answers what has just been recorded
        intro documentId hstores
        have hsame := hstores.resultFromIdempotency_eq.symm.trans
          (record.stores_complete database result).resultFromIdempotency_eq
        have hres : result = .duplicate documentId := by
          injection hsame with hsome
          injection hsome with hres
          exact hres.symm
        subst hres
        have hactor : record.actorId = call.actorId := congrArg Prod.fst hrec.key_eq
        show UploadStore.RecordedDuplicate _ record.actorId record.requestSha256 documentId
        rw [hactor, hhash]
        exact hdone
      · rw [hrecs] at hold
        exact (h.records other hold).mono hevts
    · show event :: store.audit = event :: w.store.audit
      rw [haudit]

theorem Accounted.register (h : w.Accounted) (hsound : w.store.Sound)
    (hcall : call.requestSha256 = requestHash call.intentId) {version : DocumentVersion}
    (hintent : w.store.FitsIntent call intent) (hrec : w.store.FitsRecord call record)
    (hhash : record.requestSha256 = call.requestSha256)
    (hv : w.register id call content intent record version taskId now database = v) :
    Quietly w.store v ∨
    (v.Accounted ∧ v.store.versions = version :: w.store.versions ∧
      v.store.audit = .registered intent.caseId intent.caseVersion call.actorId version.id
        version.documentId content.contentSha256 taskId :: w.store.audit) := by
  unfold UploadWorld.register at hv
  split at hv
  · rw [← hv]
    exact .inl (h.abort hcall none)
  · have hvers : ∀ other ∈ w.store.versions, other ∈ version :: w.store.versions :=
      fun other hmem => List.mem_cons_of_mem _ hmem
    have hans : ∀ s : UploadStore, .registered intent.caseId intent.caseVersion call.actorId
        version.id version.documentId content.contentSha256 taskId ∈ s.audit →
        (CompletionStage.done (.registered version.documentId version.id taskId "PENDING")).Accounts
          s call := fun _ _ => trivial
    rcases h.conclude hsound hcall hv rfl rfl rfl hvers hintent hrec hhash hans with
      ⟨hnothing, -⟩ | ⟨haccounted, -, hrows, haudit⟩
    · exact .inl hnothing
    · exact .inr ⟨haccounted, hrows, haudit⟩

/-- The call is about to answer a duplicate, and its transaction commits. -/
structure Answering (w : UploadWorld ι) (id : ι) (c : Circumstances) (call : CompletionCall)
    (content : VerifiedContent) (intent : UploadIntent) (record : IdempotencyRecord)
    (documentId : Uuid) : Prop where
  stage : w.calls id = some (call, .duplicated content intent record documentId)
  commits : Commits w.store call intent record c.now c.database (.duplicate documentId) = true

/-- What a step of a call does to the versions and the events. -/
inductive Advanced (w : UploadWorld ι) (id : ι) (c : Circumstances) (w' : UploadWorld ι) : Prop
  | quietly (h : Quietly w.store w')
      (hnone : ∀ call content intent record documentId,
        ¬ w.Answering id c call content intent record documentId)
  | duplicate (call : CompletionCall) (content : VerifiedContent) (intent : UploadIntent)
      (record : IdempotencyRecord) (documentId : Uuid)
      (hanswering : w.Answering id c call content intent record documentId) (haccounted : w'.Accounted)
      (hvers : w'.store.versions = w.store.versions)
      (haudit : w'.store.audit = .duplicateDetected intent.caseId intent.caseVersion call.actorId
        intent.id documentId content.contentSha256 :: w.store.audit)
  | registered (call : CompletionCall) (content : VerifiedContent) (intent : UploadIntent)
      (record : IdempotencyRecord) (version : DocumentVersion) (taskId : Uuid)
      (hstage : w.calls id = some (call, .registered content intent record version taskId))
      (haccounted : w'.Accounted) (hvers : w'.store.versions = version :: w.store.versions)
      (haudit : w'.store.audit = .registered intent.caseId intent.caseVersion call.actorId version.id
        version.documentId content.contentSha256 taskId :: w.store.audit)

/-- **A step of a call** adds no version and no event, or it commits a duplicate, or a registration. -/
theorem Accounted.advance {promise : Uuid → String → CompleteUploadResult → Prop} (h : w.Accounted)
    (hsound : w.Sound promise) {c : Circumstances} (hstep : w.advance id c = some w') :
    w.Advanced id c w' := by
  unfold UploadWorld.advance at hstep
  cases hentry : w.calls id with
  | none =>
    rw [hentry] at hstep
    cases hstep
  | some entry =>
    obtain ⟨call, stage⟩ := entry
    have hcall := h.requested id call stage hentry
    have haccts := h.stages id call stage hentry
    have hfits := hsound.fits id call stage hentry
    rw [hentry] at hstep
    -- a call at another stage answers no duplicate
    have hquiet : (∀ content intent record documentId,
        stage ≠ .duplicated content intent record documentId) → Quietly w.store w' →
        w.Advanced id c w' := by
      intro hother hquiet
      refine .quietly hquiet ?_
      rintro _ content intent record documentId ⟨hstage, -⟩
      rw [hentry] at hstage
      exact hother content intent record documentId (Prod.ext_iff.1 (Option.some.inj hstage)).2
    cases stage with
    | claiming =>
      refine hquiet (by rintro _ _ _ _ ⟨⟩) (h.lockIntent hcall ?_ hstep)
      exact fun intent hv => hv.put hcall trivial
    | looking => exact hquiet (by rintro _ _ _ _ ⟨⟩) (h.lookForRecord hsound.store hcall hstep)
    | reserving => exact hquiet (by rintro _ _ _ _ ⟨⟩) (h.reserve hsound.store hcall hstep)
    | verifying =>
      cases hstep
      refine hquiet (by rintro _ _ _ _ ⟨⟩) ?_
      unfold UploadWorld.verify
      split
      all_goals exact h.put hcall trivial
    | verified content =>
      refine hquiet (by rintro _ _ _ _ ⟨⟩) (h.lockIntent hcall ?_ hstep)
      exact fun intent hv => hv.recheckIntent hcall content c.now intent
    | rechecking => exact hquiet (by rintro _ _ _ _ ⟨⟩) (h.recheckRecord hsound.store hcall hstep)
    | searching =>
      cases hstep
      exact hquiet (by rintro _ _ _ _ ⟨⟩) (h.search hcall haccts)
    | duplicated content intent record documentId =>
      cases hstep
      have hbacked : ∀ s : UploadStore, .duplicateDetected intent.caseId intent.caseVersion
          call.actorId intent.id documentId content.contentSha256 ∈ s.audit →
          (CompletionStage.done (.duplicate documentId)).Accounts s call := by
        intro s hmem
        refine ⟨_, _, _, _, hmem, ?_⟩
        rw [hcall, hfits.1.id_eq]
      rcases h.conclude hsound.store hcall rfl rfl rfl rfl (fun _ hmem => hmem) hfits.1 hfits.2
        haccts.1 hbacked with ⟨hnothing, hraises⟩ | ⟨haccounted, hcoms, hvers, haudit⟩
      · refine .quietly hnothing ?_
        rintro _ _ _ _ _ ⟨hstage, hcoms⟩
        rw [hentry] at hstage
        cases hstage
        rw [hraises] at hcoms
        cases hcoms
      · exact .duplicate call content intent record documentId ⟨hentry, hcoms⟩ haccounted hvers
          haudit
    | registering =>
      exact hquiet (by rintro _ _ _ _ ⟨⟩) (h.insertVersion hcall haccts hstep)
    | registered content intent record version taskId =>
      cases hstep
      obtain ⟨⟨hintent, hrec⟩, -, -⟩ := hfits
      rcases h.register hsound.store hcall hintent hrec haccts rfl with
        hnothing | ⟨haccounted, hvers, haudit⟩
      · exact hquiet (by rintro _ _ _ _ ⟨⟩) hnothing
      · exact .registered call content intent record version taskId hentry haccounted hvers haudit
    | done | failed => cases hstep

end UploadWorld

/-! ## Cases with revisions -/

/-- The uploads and the current version of each case. -/
structure RevisedUploads (ι : Type) where
  uploads : UploadWorld ι
  current : Uuid → CaseVersion

namespace RevisedUploads

variable {ι : Type}

/-- Nothing uploaded, and every case at its first version. -/
def start : RevisedUploads ι where
  uploads := .empty
  current _ := 1

/-- The call is about to insert a document whose id is taken (`documents_pkey`). -/
def documentTaken (u : UploadWorld ι) (id : ι) : Bool :=
  match u.calls id with
  | some (_, .registered _ _ _ version _) => u.store.versions.any (·.documentId = version.documentId)
  | _ => false

/-- A step of the uploads, or a revision of a case. -/
inductive Action (ι : Type) where
  | upload (action : UploadWorld.Action ι)
  | bumpCaseVersion (caseId : Uuid) (expectedVersion : CaseVersion)
deriving DecidableEq

variable [DecidableEq ι]

/-- One step; none when it is not enabled. An intent has the case version that its transaction has read,
which a revision may have moved on since. No code marks a document version stale. -/
def step (w : RevisedUploads ι) : Action ι → Option (RevisedUploads ι)
  | .upload (.createIntent intent) =>
    if 1 ≤ intent.caseVersion ∧ intent.caseVersion ≤ w.current intent.caseId then
      (w.uploads.step (.createIntent intent)).map fun uploads => { w with uploads }
    else none
  | .upload (.markStale _ _) => none
  | .upload (.advance id c) =>
    if documentTaken w.uploads id then
      (w.uploads.step (.crash id)).map fun uploads => { w with uploads }
    else (w.uploads.step (.advance id c)).map fun uploads => { w with uploads }
  | .upload action => (w.uploads.step action).map fun uploads => { w with uploads }
  | .bumpCaseVersion caseId expectedVersion =>
    if w.current caseId = expectedVersion then
      some { w with current := Function.update w.current caseId (expectedVersion + 1) }
    else none

/-- The document has a live version at the case version. -/
def Present (s : UploadStore) (caseId : Uuid) (caseVersion : CaseVersion) (documentId : Uuid) : Prop :=
  ∃ version ∈ s.versions, version.documentId = documentId ∧ version.caseId = caseId ∧
    version.caseVersion = caseVersion ∧ version.staleAt = none

/-- The documents that duplicates name are present at the case versions of their intents. -/
def DuplicatesPresent (w : RevisedUploads ι) : Prop :=
  ∀ caseId caseVersion actorId intentId documentId contentSha256,
    .duplicateDetected caseId caseVersion actorId intentId documentId contentSha256 ∈
      w.uploads.store.audit → Present w.uploads.store caseId caseVersion documentId

/-- No duplicate is committed by the step while the live version with the content was registered at another
case version. -/
def SameVersion (w : RevisedUploads ι) : Action ι → Prop
  | .upload (.advance id c) =>
    ∀ call content intent record documentId,
      w.uploads.Answering id c call content intent record documentId →
      ∀ version ∈ w.uploads.store.versions,
        UploadStore.isLiveContent intent.caseId content.contentSha256 version →
        version.caseVersion = intent.caseVersion
  | _ => True

/-- The invariant: sound uploads whose answers are accounted for, and one version for each document. -/
structure Inv (w : RevisedUploads ι) : Prop where
  sound : w.uploads.Sound (fun _ _ _ => False)
  accounted : w.uploads.Accounted
  documents : (w.uploads.store.versions.map (·.documentId)).Nodup

omit [DecidableEq ι] in
theorem inv_start : (start : RevisedUploads ι).Inv :=
  ⟨UploadWorld.sound_empty, UploadWorld.accounted_empty, List.nodup_nil⟩

/-- What a step does to the versions and the events. -/
inductive Moved (w : RevisedUploads ι) (action : Action ι) (w' : RevisedUploads ι) : Prop
  | quietly (h : UploadWorld.Quietly w.uploads.store w'.uploads) (hmeets : w.SameVersion action)
  | duplicate (id : ι) (c : UploadWorld.Circumstances) (call : CompletionCall)
      (content : VerifiedContent) (intent : UploadIntent) (record : IdempotencyRecord)
      (documentId : Uuid) (haction : action = .upload (.advance id c))
      (hanswering : w.uploads.Answering id c call content intent record documentId)
      (haccounted : w'.uploads.Accounted)
      (hvers : w'.uploads.store.versions = w.uploads.store.versions)
      (haudit : w'.uploads.store.audit = .duplicateDetected intent.caseId intent.caseVersion call.actorId
        intent.id documentId content.contentSha256 :: w.uploads.store.audit)
  | registered (caseId : Uuid) (caseVersion : CaseVersion) (actorId : Uuid) (version : DocumentVersion)
      (contentSha256 : String) (taskId : Uuid) (hmeets : w.SameVersion action)
      (haccounted : w'.uploads.Accounted)
      (hfresh : version.documentId ∉ w.uploads.store.versions.map (·.documentId))
      (hvers : w'.uploads.store.versions = version :: w.uploads.store.versions)
      (haudit : w'.uploads.store.audit = .registered caseId caseVersion actorId version.id
        version.documentId contentSha256 taskId :: w.uploads.store.audit)

variable {w w' : RevisedUploads ι} {action : Action ι}

variable {u u' : UploadWorld ι} {id : ι}

theorem quietly_crash (h : u.Accounted) (hstep : UploadWorld.step u (.crash id) = some u') :
    UploadWorld.Quietly u.store u' := by
  unfold UploadWorld.step at hstep
  dsimp only at hstep
  split at hstep
  · cases hstep
  · cases hstep
  · cases hstep
  rename_i call stage _ _ hcall
  cases hstep
  exact h.abort (h.requested id call stage hcall) none

/-- A new call is a quiet step. -/
theorem quietly_request (h : u.Accounted) {roles : List String} {actorId intentId leaseOwner : Uuid}
    {key : String} {now : Timestamp}
    (hstep : UploadWorld.step u (.request id roles actorId intentId key now leaseOwner) = some u') :
    UploadWorld.Quietly u.store u' := by
  unfold UploadWorld.step at hstep
  dsimp only at hstep
  split at hstep
  · cases hstep
    unfold UploadWorld.request
    dsimp only
    split
    · exact h.put rfl trivial
    · split
      all_goals exact h.put rfl trivial
  · cases hstep

/-- **Every step keeps the uploads sound.** -/
theorem sound_step (h : w.Inv) (hstep : step w action = some w') :
    w'.uploads.Sound (fun _ _ _ => False) := by
  unfold step at hstep
  split at hstep
  · split at hstep
    · obtain ⟨u, hu, rfl⟩ := Option.map_eq_some_iff.1 hstep
      exact h.sound.step hu
    · cases hstep
  · cases hstep
  · split at hstep
    all_goals
      obtain ⟨u, hu, rfl⟩ := Option.map_eq_some_iff.1 hstep
      exact h.sound.step hu
  · obtain ⟨u, hu, rfl⟩ := Option.map_eq_some_iff.1 hstep
    exact h.sound.step hu
  · split at hstep
    · cases hstep
      exact h.sound
    · cases hstep

/-- **What a step does.** -/
theorem moved_of_step (h : w.Inv) (hstep : step w action = some w') : w.Moved action w' := by
  cases action with
  | bumpCaseVersion =>
    unfold step at hstep
    dsimp only at hstep
    split at hstep
    · cases hstep
      exact .quietly ⟨h.accounted, rfl, rfl⟩ trivial
    · cases hstep
  | upload action =>
    cases action with
    | request =>
      obtain ⟨u, hu, rfl⟩ := Option.map_eq_some_iff.1 hstep
      exact .quietly (quietly_request h.accounted hu) trivial
    | crash =>
      obtain ⟨u, hu, rfl⟩ := Option.map_eq_some_iff.1 hstep
      exact .quietly (quietly_crash h.accounted hu) trivial
    | createIntent =>
      unfold step at hstep
      dsimp only at hstep
      split at hstep
      · obtain ⟨u, hu, rfl⟩ := Option.map_eq_some_iff.1 hstep
        unfold UploadWorld.step at hu
        dsimp only at hu
        split at hu
        · cases hu
        cases hu
        exact .quietly ⟨⟨h.accounted.requested, h.accounted.stages, h.accounted.records⟩, rfl, rfl⟩
          trivial
      · cases hstep
    | assign =>
      cases hstep
      exact .quietly ⟨⟨h.accounted.requested, h.accounted.stages, h.accounted.records⟩, rfl, rfl⟩ trivial
    | markStale => cases hstep
    | advance id c =>
      unfold step at hstep
      dsimp only at hstep
      split at hstep
      · -- a taken document id ends the transaction of a call that answers no duplicate
        rename_i htaken
        obtain ⟨u, hu, rfl⟩ := Option.map_eq_some_iff.1 hstep
        refine .quietly (quietly_crash h.accounted hu) ?_
        intro call content intent record documentId hanswering
        unfold documentTaken at htaken
        rw [hanswering.stage] at htaken
        cases htaken
      · rename_i htaken
        obtain ⟨u, hu, rfl⟩ := Option.map_eq_some_iff.1 hstep
        cases h.accounted.advance h.sound hu with
        | quietly hquiet hnone =>
          refine .quietly hquiet ?_
          intro call content intent record documentId hanswering
          exact absurd hanswering (hnone call content intent record documentId)
        | duplicate call content intent record documentId hanswering haccounted hvers haudit =>
          exact .duplicate id c call content intent record documentId rfl hanswering haccounted
            hvers haudit
        | registered call content intent _ version taskId hstage haccounted hvers haudit =>
          refine .registered intent.caseId intent.caseVersion call.actorId version
            content.contentSha256 taskId ?_ haccounted ?_ hvers haudit
          · intro call' content' intent' record' documentId hanswering
            have hclash := hstage.symm.trans hanswering.stage
            cases hclash
          · intro hmem
            obtain ⟨other, hother, hid⟩ := List.mem_map.1 hmem
            apply htaken
            unfold documentTaken
            rw [hstage]
            exact List.any_eq_true.2 ⟨other, hother, decide_eq_true hid⟩

/-- **Every step keeps the invariant.** -/
theorem Inv.step (h : w.Inv) (hstep : RevisedUploads.step w action = some w') : w'.Inv := by
  have hsound := sound_step h hstep
  cases moved_of_step h hstep with
  | quietly hquiet => exact ⟨hsound, hquiet.accounted, by rw [hquiet.versions]; exact h.documents⟩
  | duplicate _ _ _ _ _ _ _ _ _ haccounted hvers =>
    exact ⟨hsound, haccounted, by rw [hvers]; exact h.documents⟩
  | registered _ _ _ _ _ _ _ haccounted hfresh hvers =>
    refine ⟨hsound, haccounted, ?_⟩
    rw [hvers, List.map_cons]
    exact List.nodup_cons.2 ⟨hfresh, h.documents⟩

/-! ## Presence -/

variable {caseId documentId : Uuid}

/-- Two live versions with one content are one version. -/
theorem eq_of_liveContent {s : UploadStore} (h : s.Sound) {contentSha256 : String}
    {version other : DocumentVersion} (hmem : version ∈ s.versions) (hother : other ∈ s.versions)
    (hlive : UploadStore.isLiveContent caseId contentSha256 version)
    (hlive' : UploadStore.isLiveContent caseId contentSha256 other) : version = other := by
  have hone := h.length_live_le caseId contentSha256
  have hin := List.mem_filter.2 ⟨hmem, hlive⟩
  have hin' := List.mem_filter.2 ⟨hother, hlive'⟩
  match hrows : s.versions.filter (UploadStore.isLiveContent caseId contentSha256) with
  | [] =>
    rw [hrows] at hin
    cases hin
  | [row] =>
    rw [hrows] at hin hin'
    rw [List.mem_singleton.1 hin, List.mem_singleton.1 hin']
  | _ :: _ :: _ =>
    rw [hrows] at hone
    simp at hone

omit [DecidableEq ι] in
/-- **One duplicate.** The document it names is present at the case version of its intent exactly when the
live version with the content was registered at that case version. -/
theorem present_iff (h : w.Inv) {call : CompletionCall} {content : VerifiedContent}
    {intent : UploadIntent} {record : IdempotencyRecord}
    (hstage : w.uploads.calls id = some (call, .duplicated content intent record documentId)) :
    Present w.uploads.store intent.caseId intent.caseVersion documentId ↔
      ∀ version ∈ w.uploads.store.versions,
        UploadStore.isLiveContent intent.caseId content.contentSha256 version →
        version.caseVersion = intent.caseVersion := by
  obtain ⟨-, found, hmem, hlive, hdoc⟩ := h.accounted.stages id call _ hstage
  obtain ⟨hcase, -, hfresh⟩ := of_decide_eq_true hlive
  constructor
  · rintro ⟨version, hver, hsame, -, hat, -⟩ _ hother hotherLive
    have hfound : version = found :=
      List.inj_on_of_nodup_map h.documents hver hmem (hsame.trans hdoc.symm)
    rw [eq_of_liveContent h.sound.store hother hmem hotherLive hlive, ← hfound, hat]
  · intro hall
    exact ⟨found, hmem, hdoc, hcase, hall found hmem hlive, hfresh⟩

theorem Present.mono {s s' : UploadStore} {caseVersion : CaseVersion}
    (h : Present s caseId caseVersion documentId) (hvers : s.versions ⊆ s'.versions) :
    Present s' caseId caseVersion documentId := by
  obtain ⟨version, hmem, hrest⟩ := h
  exact ⟨version, hvers hmem, hrest⟩

/-- **The step condition.** A step keeps the documents of duplicates present exactly when it commits no
duplicate against a version of another case version. -/
theorem duplicatesPresent_step_iff (h : w.Inv) (hpresent : w.DuplicatesPresent)
    (hstep : step w action = some w') : w'.DuplicatesPresent ↔ w.SameVersion action := by
  cases moved_of_step h hstep with
  | quietly hquiet hmeets =>
    refine iff_of_true ?_ hmeets
    intro caseId caseVersion actorId intentId documentId contentSha256 hmem
    rw [hquiet.audit] at hmem
    refine (hpresent _ _ _ _ _ _ hmem).mono ?_
    rw [hquiet.versions]
    exact fun version hver => hver
  | registered _ _ _ _ _ _ hmeets _ _ hvers haudit =>
    refine iff_of_true ?_ hmeets
    intro caseId' caseVersion' actorId' intentId' documentId' contentSha256' hmem
    rw [haudit] at hmem
    rcases List.mem_cons.1 hmem with heq | hold
    · cases heq
    refine (hpresent _ _ _ _ _ _ hold).mono ?_
    rw [hvers]
    exact fun other hother => List.mem_cons_of_mem _ hother
  | duplicate _ _ call content intent record documentId haction hanswering _ hvers haudit =>
    subst haction
    have hiff := present_iff h hanswering.stage
    have hsame : ∀ {caseId caseVersion documentId}, Present w'.uploads.store caseId caseVersion documentId ↔
        Present w.uploads.store caseId caseVersion documentId := by
      intro caseId caseVersion documentId
      unfold Present
      rw [hvers]
    constructor
    · intro hafter call' content' intent' record' documentId' hanswering'
      have hstages := hanswering.stage.symm.trans hanswering'.stage
      cases hstages
      apply hiff.1
      rw [← hsame]
      apply hafter
      rw [haudit]
      exact List.mem_cons_self ..
    · intro hmeets caseId caseVersion actorId intentId documentId' contentSha256 hmem
      rw [haudit] at hmem
      rw [hsame]
      rcases List.mem_cons.1 hmem with heq | hold
      · cases heq
        exact hiff.2 (hmeets call content intent record documentId hanswering)
      · exact hpresent _ _ _ _ _ _ hold

end RevisedUploads

/-- What storage and the clocks say to a call for an intent of the case. -/
def sampleCircumstances (objectKey : String) (n : Nat) : UploadWorld.Circumstances :=
  ⟨20, 20, 100 + 10 * n, 101 + 10 * n, 102 + 10 * n,
    ⟨some ⟨"creditops-incoming", objectKey, 1, some "application/pdf", none⟩, [[97]]⟩⟩

/-- The steps of a call. -/
def sampleSteps (id n : Nat) (objectKey : String) : List (RevisedUploads.Action Nat) :=
  (List.replicate n (UploadWorld.Action.advance id (sampleCircumstances objectKey id))).map .upload

/-- The content is uploaded at the first case version. -/
def firstUpload : List (RevisedUploads.Action Nat) :=
  [.upload (.assign 1 5), .upload (.createIntent (oneByteIntent 7 "incoming/1/7")),
    .upload (.request 0 ["INTAKE_OFFICER"] 5 7 "completion-key-0001" 10 200)] ++
  sampleSteps 0 9 "incoming/1/7"

/-- It is uploaded again at the given case version. -/
def secondUpload (caseVersion : CaseVersion) : List (RevisedUploads.Action Nat) :=
  [.upload (.createIntent { oneByteIntent 8 "incoming/1/8" with caseVersion }),
    .upload (.request 1 ["INTAKE_OFFICER"] 5 8 "completion-key-0002" 10 201)] ++
  sampleSteps 1 8 "incoming/1/8"

/-- The second call has answered a duplicate of the first document, which is present at the case version as
told. -/
def secondEnd (caseVersion : CaseVersion) (present : Bool) (w : RevisedUploads Nat) : Bool :=
  (w.uploads.calls 1).any (·.2 = .done (.duplicate 101)) &&
    w.uploads.store.audit.any (· = .duplicateDetected 1 caseVersion 5 8 101
      "ca978112ca1bbdcafac231b39a23dc4da786eff8147c4e72b9807785afee48bb") &&
    w.uploads.store.versions.any (fun version =>
      version.documentId = 101 ∧ version.caseVersion = caseVersion) = present

end CreditOps.Uploads
