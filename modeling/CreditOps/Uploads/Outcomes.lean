import CreditOps.Library.PartialMap
import CreditOps.Library.Transition
import CreditOps.Uploads.Completion

/-!
# What a completed upload leaves

However calls interleave and crash, an upload intent has one outcome at the most: a registered version, or
the event that its upload is a duplicate. No two live versions of a case share their content, a consumed
intent has the completed record it names, and every call with a key returns what the record of the key
stores (`one_outcome_of_run`).
-/

set_option autoImplicit false

namespace CreditOps.Uploads

open KeyedTable RowLocks Transition

/-! ## Outcomes -/

/-- The outcome of an intent: a version registered for it, or a duplicate detected for it. -/
inductive CommittedOutcome where
  | registered (documentVersionId : Uuid)
  | duplicate (documentId : Uuid)
deriving DecidableEq

/-- The duplicate an audit event reports for an intent. -/
def UploadAudit.duplicateFor (intentId : Uuid) : UploadAudit → Option CommittedOutcome
  | .duplicateDetected _ _ _ id documentId _ =>
    if id = intentId then some (.duplicate documentId) else none
  | .registered .. => none

@[simp] theorem UploadAudit.duplicateFor_duplicateDetected (intentId caseId : Uuid)
    (caseVersion : CaseVersion) (actorId id documentId : Uuid) (contentSha256 : String) :
    duplicateFor intentId (.duplicateDetected caseId caseVersion actorId id documentId contentSha256) =
      if id = intentId then some (.duplicate documentId) else none := rfl

@[simp] theorem UploadAudit.duplicateFor_registered (intentId caseId : Uuid)
    (caseVersion : CaseVersion) (actorId versionId documentId : Uuid) (contentSha256 : String)
    (taskId : Uuid) :
    duplicateFor intentId
      (.registered caseId caseVersion actorId versionId documentId contentSha256 taskId) = none := rfl

/-- The version as an outcome of the intent its object is stored for. -/
def DocumentVersion.registeredFor (intentId : Uuid) (version : DocumentVersion) :
    Option CommittedOutcome :=
  if version.storageObjectKey.intentId = intentId then some (.registered version.id) else none

namespace UploadStore

/-- The outcomes of an intent. -/
def outcomesOf (s : UploadStore) (intentId : Uuid) : List CommittedOutcome :=
  s.versions.filterMap (DocumentVersion.registeredFor intentId) ++
    s.audit.filterMap (UploadAudit.duplicateFor intentId)

/-- The versions registered for an intent. -/
def versionsOf (s : UploadStore) (intentId : Uuid) : List DocumentVersion :=
  s.versions.filter (·.storageObjectKey.intentId = intentId)

/-- The processing tasks of an intent. -/
def tasksOf (s : UploadStore) (intentId : Uuid) : List IngestionTask :=
  s.tasks.filter (·.intentId = intentId)

theorem length_versionsOf_le (s : UploadStore) (intentId : Uuid) :
    (s.versionsOf intentId).length ≤ (s.outcomesOf intentId).length := by
  have hvers : (s.versionsOf intentId).length =
      (s.versions.filterMap (DocumentVersion.registeredFor intentId)).length := by
    unfold versionsOf
    induction s.versions with
    | nil => rfl
    | cons version _ ih =>
      rw [List.filter_cons, List.filterMap_cons, DocumentVersion.registeredFor]
      by_cases hkey : version.storageObjectKey.intentId = intentId <;> simp [hkey, ih]
  rw [outcomesOf, List.length_append, hvers]
  omega

end UploadStore

/-! ## Records -/

namespace IdempotencyRecord

/-- The record is completed and stores the result. -/
structure Stores (record : IdempotencyRecord) (result : CompleteUploadResult) : Prop where
  completed : record.completedAt ≠ none
  status : record.responseStatus = some result.toResponse.1
  data : record.responseData = some result.toResponse.2

/-- The record is not completed and has no response, or it stores a result. -/
def WellFormed (record : IdempotencyRecord) : Prop :=
  (record.completedAt = none ∧ record.responseStatus = none) ∨ ∃ result, record.Stores result

variable {record : IdempotencyRecord} {result : CompleteUploadResult}

theorem Stores.resultFromIdempotency_eq (h : record.Stores result) :
    resultFromIdempotency record = .ok (some result) :=
  resultFromIdempotency_of_stored h.status h.data

theorem WellFormed.open_of_result (h : record.WellFormed)
    (hres : resultFromIdempotency record = .ok none) : record.completedAt = none := by
  rcases h with ⟨hopen, -⟩ | ⟨_, hstores⟩
  · exact hopen
  · rw [hstores.resultFromIdempotency_eq] at hres
    cases hres

theorem WellFormed.stores_of_result (h : record.WellFormed)
    (hres : resultFromIdempotency record = .ok (some result)) : record.Stores result := by
  rcases h with ⟨-, hnull⟩ | ⟨_, hstores⟩
  · rw [resultFromIdempotency_of_null hnull] at hres
    cases hres
  · rw [hstores.resultFromIdempotency_eq] at hres
    cases hres
    exact hstores

end IdempotencyRecord

/-! ## Sound tables -/

namespace UploadStore

/-- The completed record a consumed intent names. -/
def HasCompletion (s : UploadStore) (intent : UploadIntent) : Prop :=
  ∃ record ∈ s.records, intent.completionIdempotencyRecordId = some record.id ∧
    record.completedAt ≠ none ∧ record.caseId = intent.caseId ∧
    record.actorId = intent.assignedOfficerId

/-- What stands in the tables about one intent id: nothing as long as no intent with the id is consumed, and
never more than one outcome and one task. -/
structure Settled (s : UploadStore) (intentId : Uuid) : Prop where
  untouched : (∀ intent ∈ s.intents, intent.id = intentId → intent.consumedAt = none) →
    s.outcomesOf intentId = [] ∧ s.tasksOf intentId = []
  once : (s.outcomesOf intentId).length ≤ 1 ∧ (s.tasksOf intentId).length ≤ 1

/-- Two versions that may both be in the table: one of them is stale, or their content differs. -/
def MayCoexist (version other : DocumentVersion) : Prop :=
  version.staleAt = none → other.staleAt = none →
    ¬ (version.caseId = other.caseId ∧ version.contentSha256 = other.contentSha256)

/-- The invariant of the tables. -/
structure Sound (s : UploadStore) : Prop where
  intents : (s.intents.map UploadIntent.id).Nodup
  recordKeys : (s.records.map IdempotencyRecord.key).Nodup
  recordIds : (s.records.map IdempotencyRecord.id).Nodup
  records : ∀ record ∈ s.records, record.WellFormed
  content : s.versions.Pairwise MayCoexist
  settled : ∀ intentId, s.Settled intentId
  consumed : ∀ intent ∈ s.intents, intent.consumedAt ≠ none → s.HasCompletion intent

/-- No live version has the content. -/
def NoLive (s : UploadStore) (caseId : Uuid) (contentSha256 : String) : Prop :=
  ∀ version ∈ s.versions, isLiveContent caseId contentSha256 version = false

/-- A step that writes only rows under the keys it holds: other intents and records are where they were,
a completed record stays as it is, and no other content becomes live. -/
structure Moves (held : UploadKey → Prop) (s s' : UploadStore) : Prop where
  intents : ∀ intentId intent, ¬ held (.intent intentId) →
    lookup UploadIntent.id intentId s.intents = some intent →
    lookup UploadIntent.id intentId s'.intents = some intent
  records : ∀ actorId key record, ¬ held (.record actorId key) →
    s.findIdempotency actorId key = some record → s'.findIdempotency actorId key = some record
  completed : ∀ actorId key record, s.findIdempotency actorId key = some record →
    record.completedAt ≠ none → s'.findIdempotency actorId key = some record
  content : ∀ caseId contentSha256, ¬ held (.content caseId contentSha256) →
    s.NoLive caseId contentSha256 → s'.NoLive caseId contentSha256

theorem Moves.refl (held : UploadKey → Prop) (s : UploadStore) : s.Moves held s :=
  ⟨fun _ _ _ h => h, fun _ _ _ _ h => h, fun _ _ _ h _ => h, fun _ _ _ h => h⟩

variable {s s' : UploadStore}

/-- The record under the key stores the result. -/
def StoresUnder (s : UploadStore) (actorId : Uuid) (key : String) (result : CompleteUploadResult) :
    Prop :=
  ∃ record, s.findIdempotency actorId key = some record ∧ record.Stores result

theorem StoresUnder.move {held : UploadKey → Prop} {actorId : Uuid} {key : String}
    {result : CompleteUploadResult} (h : s.StoresUnder actorId key result)
    (hmoves : s.Moves held s') : s'.StoresUnder actorId key result := by
  obtain ⟨record, hfound, hstores⟩ := h
  exact ⟨record, hmoves.completed _ _ _ hfound hstores.completed, hstores⟩

theorem Moves.mem_records {held : UploadKey → Prop} (h : s.Moves held s') (hsound : s.Sound)
    {record : IdempotencyRecord} (hmem : record ∈ s.records) (hcompleted : record.completedAt ≠ none) :
    record ∈ s'.records :=
  (lookup_eq_some (h.completed record.actorId record.idempotencyKey record
    (lookup_of_mem hsound.recordKeys hmem) hcompleted)).1

theorem HasCompletion.move {held : UploadKey → Prop} {intent : UploadIntent}
    (h : s.HasCompletion intent) (hmoves : s.Moves held s') (hsound : s.Sound) :
    s'.HasCompletion intent := by
  obtain ⟨record, hmem, hnamed, hcompleted, hrest⟩ := h
  exact ⟨record, hmoves.mem_records hsound hmem hcompleted, hnamed, hcompleted, hrest⟩

/-! ## Writing a record -/

variable {actorId : Uuid} {key : String} {old record : IdempotencyRecord} {held : UploadKey → Prop}

/-- Overwriting an open record moves the tables. -/
theorem moves_replaceRecord (hold : s.findIdempotency actorId key = some old)
    (hkey : record.key = (actorId, key)) (hheld : held (.record actorId key))
    (hkept : old.completedAt ≠ none → record = old) :
    s.Moves held { s with records := replace IdempotencyRecord.key record s.records } := by
  refine ⟨fun _ _ _ h => h, ?_, ?_, fun _ _ _ h => h⟩
  · intro otherActor otherKey other hfree hother
    have hne : (otherActor, otherKey) ≠ record.key := by
      rw [hkey]
      rintro heq
      cases heq
      exact hfree hheld
    exact (lookup_replace_of_ne hne).trans hother
  · intro otherActor otherKey other hother hcompleted
    by_cases hne : (otherActor, otherKey) = record.key
    · rw [hkey] at hne
      cases hne
      rw [hold] at hother
      cases hother
      have hfound : lookup IdempotencyRecord.key record.key s.records ≠ none := by
        rw [hkey]
        exact fun hnone => Option.some_ne_none _ (hold.symm.trans hnone)
      have hself := lookup_replace_self hfound
      rw [hkey] at hself
      rw [← hkept hcompleted]
      exact hself
    · exact (lookup_replace_of_ne hne).trans hother

/-- The ids of the records when one of them is overwritten under its id. -/
theorem map_id_replaceRecord (hkeys : (s.records.map IdempotencyRecord.key).Nodup)
    (hold : s.findIdempotency actorId key = some old)
    (hkey : record.key = (actorId, key)) (hid : record.id = old.id) :
    (replace IdempotencyRecord.key record s.records).map IdempotencyRecord.id =
      s.records.map IdempotencyRecord.id := by
  rw [replace, List.map_map]
  refine List.map_congr_left ?_
  intro other hother
  rw [Function.comp_apply]
  split
  · rename_i hsame
    obtain ⟨hmem, holdKey⟩ := lookup_eq_some hold
    have heq := List.inj_on_of_nodup_map hkeys hother hmem
      (hsame.trans (hkey.trans holdKey.symm))
    rw [hid, heq]
  · rfl

theorem Sound.replaceRecord (h : s.Sound) (hold : s.findIdempotency actorId key = some old)
    (hkey : record.key = (actorId, key)) (hid : record.id = old.id) (hrec : record.WellFormed)
    (hkept : old.completedAt ≠ none → record = old) :
    Sound { s with records := replace IdempotencyRecord.key record s.records } := by
  have hmoves : s.Moves (fun _ => True)
      { s with records := replace IdempotencyRecord.key record s.records } :=
    moves_replaceRecord hold hkey trivial hkept
  refine ⟨h.intents, ?_, ?_, ?_, h.content, ?_, ?_⟩
  · rw [map_key_replace]
    exact h.recordKeys
  · rw [map_id_replaceRecord h.recordKeys hold hkey hid]
    exact h.recordIds
  · intro other hother
    rcases mem_replace hother with rfl | ⟨hmem, -⟩
    · exact hrec
    · exact h.records other hmem
  · exact fun intentId => ⟨(h.settled intentId).untouched, (h.settled intentId).once⟩
  · exact fun intent hmem hconsumed => (h.consumed intent hmem hconsumed).move hmoves h

/-- A new record under a free key and a free id. -/
theorem Sound.newRecord (h : s.Sound) (hnone : s.findIdempotency actorId key = none)
    (hkey : record.key = (actorId, key)) (hid : ∀ other ∈ s.records, other.id ≠ record.id)
    (hrec : record.WellFormed) :
    Sound { s with records := record :: s.records } ∧
      s.Moves held { s with records := record :: s.records } := by
  have hfree := lookup_eq_none_iff.1 hnone
  have hmoves : s.Moves held { s with records := record :: s.records } := by
    have hcons : ∀ otherActor otherKey other,
        s.findIdempotency otherActor otherKey = some other →
        UploadStore.findIdempotency { s with records := record :: s.records } otherActor otherKey =
          some other := by
      intro otherActor otherKey other hother
      refine (lookup_cons_of_ne ?_).trans hother
      rw [hkey]
      rintro heq
      cases heq
      exact Option.some_ne_none _ (hother.symm.trans hnone)
    exact ⟨fun _ _ _ h => h, fun _ _ _ _ hother => hcons _ _ _ hother,
      fun _ _ _ hother _ => hcons _ _ _ hother, fun _ _ _ h => h⟩
  refine ⟨⟨h.intents, ?_, ?_, ?_, h.content, ?_, ?_⟩, hmoves⟩
  · rw [List.map_cons, List.nodup_cons]
    refine ⟨?_, h.recordKeys⟩
    intro hmem
    obtain ⟨other, hother, heq⟩ := List.mem_map.1 hmem
    exact hfree other hother (heq.trans hkey)
  · rw [List.map_cons, List.nodup_cons]
    refine ⟨?_, h.recordIds⟩
    intro hmem
    obtain ⟨other, hother, heq⟩ := List.mem_map.1 hmem
    exact hid other hother heq
  · intro other hother
    rcases List.mem_cons.1 hother with rfl | hmem
    · exact hrec
    · exact h.records other hmem
  · exact fun intentId => ⟨(h.settled intentId).untouched, (h.settled intentId).once⟩
  · exact fun intent hmem hconsumed => (h.consumed intent hmem hconsumed).move hmoves h

/-- **A reservation.** It moves the tables to sound ones in which the key finds the reserved record. -/
theorem Sound.reserve (h : s.Sound) {newId caseId leaseOwner : Uuid}
    {database leaseUntil : Timestamp} {hash : String} {reservation : IdempotencyRecord}
    (hreservation : s.reservedRecord newId database caseId actorId key hash leaseUntil leaseOwner =
      reservation)
    (hput : s.putRecord reservation = some s') (hheld : held (.record actorId key)) :
    s'.Sound ∧ s.Moves held s' ∧ s'.findIdempotency actorId key = some reservation ∧
      reservation.WellFormed := by
  cases hfind : s.findIdempotency actorId key with
  | none =>
    rw [reservedRecord, hfind] at hreservation
    have hkey : reservation.key = (actorId, key) := by
      rw [← hreservation]
      rfl
    have hformed : reservation.WellFormed := by
      rw [← hreservation]
      exact .inl ⟨rfl, rfl⟩
    have hlookup : lookup IdempotencyRecord.key reservation.key s.records = none := by
      rw [hkey]
      exact hfind
    rw [putRecord, hlookup] at hput
    dsimp only at hput
    split at hput
    · cases hput
    rename_i hfresh
    cases hput
    have hid : ∀ other ∈ s.records, other.id ≠ reservation.id := fun other hother hsame =>
      hfresh (List.any_eq_true.2 ⟨other, hother, decide_eq_true hsame⟩)
    obtain ⟨hsound, hmoves⟩ := h.newRecord hfind hkey hid hformed
    refine ⟨hsound, hmoves, ?_, hformed⟩
    have hself : lookup IdempotencyRecord.key reservation.key (reservation :: s.records) =
        some reservation := lookup_cons_self
    rw [hkey] at hself
    exact hself
  | some old =>
    obtain ⟨hmem, holdKey⟩ := lookup_eq_some hfind
    have hold := h.records old hmem
    rw [reservedRecord, hfind] at hreservation
    dsimp only at hreservation
    -- the record keeps its key, its id and its response, and is not touched once it is completed
    obtain ⟨hkey, hid, hformed, hkept⟩ : reservation.key = old.key ∧ reservation.id = old.id ∧
        reservation.WellFormed ∧ (old.completedAt ≠ none → reservation = old) := by
      split at hreservation
      · rename_i hopen
        rw [← hreservation]
        refine ⟨rfl, rfl, ?_, fun hcompleted => absurd hopen.1 hcompleted⟩
        rcases hold with hnull | ⟨_, hstores⟩
        · exact .inl hnull
        · exact absurd hopen.1 hstores.completed
      · rw [← hreservation]
        exact ⟨rfl, rfl, hold, fun _ => rfl⟩
    have hlookup : lookup IdempotencyRecord.key reservation.key s.records = some old := by
      rw [hkey, holdKey]
      exact hfind
    rw [putRecord, hlookup] at hput
    cases hput
    have hkey' := hkey.trans holdKey
    refine ⟨h.replaceRecord hfind hkey' hid hformed hkept,
      moves_replaceRecord hfind hkey' hheld hkept, ?_, hformed⟩
    have hself : lookup IdempotencyRecord.key reservation.key
        (replace IdempotencyRecord.key reservation s.records) = some reservation :=
      lookup_replace_self (by rw [hlookup]; exact Option.some_ne_none _)
    rw [hkey'] at hself
    exact hself

/-! ## Concluding an intent -/

/-- The intent under its id is open and is the officer's. -/
structure FitsIntent (s : UploadStore) (call : CompletionCall) (intent : UploadIntent) : Prop where
  found : lookup UploadIntent.id call.intentId s.intents = some intent
  unconsumed : intent.consumedAt = none
  officer : intent.assignedOfficerId = call.actorId

/-- The record under the key of the call is not completed. -/
structure FitsRecord (s : UploadStore) (call : CompletionCall) (record : IdempotencyRecord) : Prop where
  found : s.findIdempotency call.actorId call.idempotencyKey = some record
  incomplete : record.completedAt = none

variable {call : CompletionCall} {intent : UploadIntent}

theorem FitsIntent.id_eq (h : s.FitsIntent call intent) : intent.id = call.intentId :=
  (lookup_eq_some h.found).2

theorem FitsRecord.key_eq (h : s.FitsRecord call record) :
    record.key = (call.actorId, call.idempotencyKey) :=
  (lookup_eq_some h.found).2

end UploadStore

/-- The record with a response. -/
def IdempotencyRecord.complete (record : IdempotencyRecord) (database : Timestamp)
    (result : CompleteUploadResult) : IdempotencyRecord :=
  { record with
    responseStatus := some result.toResponse.1
    responseData := some result.toResponse.2
    completedAt := some database
    leaseOwner := none
    leaseUntil := none }

theorem IdempotencyRecord.stores_complete (record : IdempotencyRecord) (database : Timestamp)
    (result : CompleteUploadResult) : (record.complete database result).Stores result :=
  ⟨Option.some_ne_none _, rfl, rfl⟩

/-- The intent consumed by a record. -/
def UploadIntent.consume (intent : UploadIntent) (now : Timestamp) (recordId : Uuid) : UploadIntent :=
  { intent with
    consumedAt := some now
    completionIdempotencyRecordId := some recordId }

namespace UploadStore

/-- The tables behind the last statements of a completion. -/
def concluded (s : UploadStore) (intent : UploadIntent) (record : IdempotencyRecord)
    (now database : Timestamp) (result : CompleteUploadResult) (event : UploadAudit) : UploadStore :=
  { s with
    intents := replace UploadIntent.id (intent.consume now record.id) s.intents
    records := replace IdempotencyRecord.key (record.complete database result) s.records
    audit := event :: s.audit }

variable {s s' : UploadStore} {held : UploadKey → Prop} {call : CompletionCall}
  {intent : UploadIntent} {record : IdempotencyRecord} {now database : Timestamp}
  {result : CompleteUploadResult} {event : UploadAudit}

theorem eq_true_of_not_not {b : Bool} (h : ¬ (!b) = true) : b = true := by
  simpa using h

theorem record_of_isCompletionOf {records : List IdempotencyRecord}
    (hids : (records.map IdempotencyRecord.id).Nodup) (hmem : record ∈ records)
    (hany : records.any (isCompletionOf intent record.id) = true) :
    record.completedAt ≠ none ∧ record.caseId = intent.caseId ∧
      record.actorId = intent.assignedOfficerId := by
  obtain ⟨_, hother, hcompletion⟩ := List.any_eq_true.1 hany
  obtain ⟨hid, hcase, hactor, hcompleted⟩ := of_decide_eq_true hcompletion
  rw [List.inj_on_of_nodup_map hids hother hmem hid] at hcase hactor hcompleted
  exact ⟨hcompleted, hcase, hactor⟩

/-- **The last statements.** They raise, or they complete the record and consume the intent: a completion
that finds its lease gone leaves the record open, and the trigger does not let the intent be consumed. -/
theorem consumeIntent_cases (hkeys : (s.records.map IdempotencyRecord.key).Nodup)
    (hids : (s.records.map IdempotencyRecord.id).Nodup) (hintent : s.FitsIntent call intent)
    (hrec : s.FitsRecord call record) {t : UploadStore}
    (ht : (s.completeIdempotency database call.actorId call.idempotencyKey result.toResponse
      call.leaseOwner).consumeIntent intent.id call.actorId now record.id = some t) :
    { t with audit := event :: t.audit } = s.concluded intent record now database result event ∧
      record.caseId = intent.caseId ∧ record.actorId = intent.assignedOfficerId := by
  obtain ⟨hmem, hkey⟩ := lookup_eq_some hrec.found
  have hid := hintent.id_eq
  have hopen : ¬ (intent.assignedOfficerId ≠ call.actorId ∨ intent.consumedAt ≠ none) := by
    rintro (hactor | hconsumed)
    · exact hactor hintent.officer
    · exact hconsumed hintent.unconsumed
  rw [completeIdempotency, hrec.found] at ht
  dsimp only at ht
  split at ht
  · -- the lease is good, and the record is completed
    rw [consumeIntent] at ht
    dsimp only at ht
    rw [hid, hintent.found] at ht
    dsimp only at ht
    rw [if_neg hopen] at ht
    split at ht
    · cases ht
    split at ht
    · cases ht
    rename_i hany
    split at ht
    · cases ht
    cases ht
    refine ⟨rfl, ?_⟩
    have hkey' : (record.complete database result).key =
        (call.actorId, call.idempotencyKey) := hkey
    have hids' : ((replace IdempotencyRecord.key (record.complete database result)
        s.records).map IdempotencyRecord.id).Nodup := by
      rw [map_id_replaceRecord hkeys hrec.found hkey' rfl]
      exact hids
    have hmem' : record.complete database result ∈
        replace IdempotencyRecord.key (record.complete database result) s.records := by
      refine (lookup_eq_some (lookup_replace_self ?_)).1
      rw [hkey']
      exact fun hnone => Option.some_ne_none _ (hrec.found.symm.trans hnone)
    exact (record_of_isCompletionOf hids' hmem' (eq_true_of_not_not hany)).2
  · -- the record is as it was, and the trigger raises
    rw [consumeIntent, hid, hintent.found] at ht
    dsimp only at ht
    rw [if_neg hopen] at ht
    split at ht
    · cases ht
    split at ht
    · cases ht
    rename_i hany
    exact absurd hrec.incomplete
      (record_of_isCompletionOf hids hmem (eq_true_of_not_not hany)).1

variable {versions : List DocumentVersion} {tasks : List IngestionTask}

/-- Concluding moves the tables: it writes the intent and the record, which are held, and the contents that
become live are held. -/
theorem moves_concluded (hintent : s.FitsIntent call intent) (hrec : s.FitsRecord call record)
    (hheldIntent : held (.intent call.intentId))
    (hheldRecord : held (.record call.actorId call.idempotencyKey))
    (hcont : ∀ caseId contentSha256, ¬ held (.content caseId contentSha256) → s.NoLive caseId contentSha256 → ∀ version ∈ versions, isLiveContent caseId contentSha256 version = false) :
    s.Moves held
      (concluded { s with versions, tasks } intent record now database result event) := by
  have hrecordKey : (record.complete database result).key = (call.actorId, call.idempotencyKey) :=
    hrec.key_eq
  have hrecs : s.Moves held
      { s with records := replace IdempotencyRecord.key (record.complete database result) s.records } :=
    moves_replaceRecord hrec.found hrecordKey hheldRecord
      fun hcompleted => absurd hrec.incomplete hcompleted
  refine ⟨?_, hrecs.records, hrecs.completed, hcont⟩
  intro intentId other hfree hother
  have hne : intentId ≠ (intent.consume now record.id).id := by
    rintro rfl
    have hid : (intent.consume now record.id).id = call.intentId := hintent.id_eq
    rw [hid] at hfree
    exact hfree hheldIntent
  exact (lookup_replace_of_ne hne).trans hother

/-- **Concluding an intent.** The tables stay sound when nothing but the one outcome of the intent, and its
task, is new. -/
theorem Sound.conclude (h : s.Sound) (hintent : s.FitsIntent call intent)
    (hrec : s.FitsRecord call record) (hcase : record.caseId = intent.caseId)
    (hofficer : record.actorId = intent.assignedOfficerId) (hcont : versions.Pairwise MayCoexist)
    (hother : ∀ intentId, intentId ≠ intent.id → (concluded { s with versions, tasks } intent record now database result event).outcomesOf intentId = s.outcomesOf intentId ∧ (concluded { s with versions, tasks } intent record now database result event).tasksOf intentId = s.tasksOf intentId)
    (hown : ((concluded { s with versions, tasks } intent record now database result event).outcomesOf intent.id).length ≤ 1 ∧ ((concluded { s with versions, tasks } intent record now database result event).tasksOf intent.id).length ≤ 1) :
    Sound (concluded { s with versions, tasks } intent record now database result event) := by
  have hrecordKey : (record.complete database result).key = (call.actorId, call.idempotencyKey) :=
    hrec.key_eq
  have hmoves : s.Moves (fun _ => True)
      { s with records := replace IdempotencyRecord.key (record.complete database result) s.records } :=
    moves_replaceRecord hrec.found hrecordKey trivial
      fun hcompleted => absurd hrec.incomplete hcompleted
  have hmemRecord : record.complete database result ∈
      replace IdempotencyRecord.key (record.complete database result) s.records := by
    refine (lookup_eq_some (lookup_replace_self ?_)).1
    rw [hrecordKey]
    exact fun hnone => Option.some_ne_none _ (hrec.found.symm.trans hnone)
  refine ⟨?_, ?_, ?_, ?_, hcont, ?_, ?_⟩
  · exact (congrArg List.Nodup map_key_replace).mpr h.intents
  · exact (congrArg List.Nodup map_key_replace).mpr h.recordKeys
  · exact (congrArg List.Nodup
      (map_id_replaceRecord h.recordKeys hrec.found hrecordKey rfl)).mpr h.recordIds
  · intro other hmem
    rcases mem_replace hmem with rfl | ⟨hold, -⟩
    · exact .inr ⟨result, record.stores_complete database result⟩
    · exact h.records other hold
  · intro intentId
    by_cases hid : intentId = intent.id
    · subst hid
      refine ⟨fun hopen => ?_, hown⟩
      have hfound : lookup UploadIntent.id (intent.consume now record.id).id s.intents ≠ none := by
        have hsame : (intent.consume now record.id).id = call.intentId := hintent.id_eq
        rw [hsame, hintent.found]
        exact Option.some_ne_none _
      have hmem := (lookup_eq_some (lookup_replace_self hfound)).1
      exact absurd (hopen _ hmem rfl) (Option.some_ne_none _)
    · obtain ⟨houts, htasks⟩ := hother intentId hid
      refine ⟨fun hopen => ?_, ?_⟩
      · rw [houts, htasks]
        refine (h.settled intentId).untouched ?_
        intro old hold holdId
        refine hopen old (List.mem_map.2 ⟨old, hold, if_neg ?_⟩) holdId
        rw [holdId]
        exact hid
      · rw [houts, htasks]
        exact (h.settled intentId).once
  · intro other hmem hconsumed
    rcases mem_replace hmem with rfl | ⟨hold, -⟩
    · exact ⟨_, hmemRecord, rfl, Option.some_ne_none _, hcase, hofficer⟩
    · obtain ⟨completion, hcompletion, hnamed, hcompleted, hrest⟩ := h.consumed other hold hconsumed
      exact ⟨completion, hmoves.mem_records h hcompletion hcompleted, hnamed, hcompleted, hrest⟩

end UploadStore

/-! ## Calls -/

namespace CompletionStage

/-- The keys a call holds at a stage. -/
def keys (call : CompletionCall) : CompletionStage → List UploadKey
  | .looking _ | .reserving _ | .rechecking .. => [.intent call.intentId]
  | .searching .. | .duplicated .. | .registering .. =>
    [.intent call.intentId, .record call.actorId call.idempotencyKey]
  | .registered _ _ _ version _ =>
    [.intent call.intentId, .record call.actorId call.idempotencyKey,
      .content version.caseId version.contentSha256]
  | .claiming | .verifying _ | .verified _ | .done _ | .failed _ => []

/-- What a call knows about the tables at a stage. -/
def Fits (s : UploadStore) (call : CompletionCall) : CompletionStage → Prop
  | .rechecking _ intent => s.FitsIntent call intent
  | .searching _ intent record | .duplicated _ intent record _ | .registering _ intent record =>
    s.FitsIntent call intent ∧ s.FitsRecord call record
  | .registered _ intent record version _ =>
    (s.FitsIntent call intent ∧ s.FitsRecord call record) ∧
      version.storageObjectKey.intentId = intent.id ∧ s.NoLive version.caseId version.contentSha256
  | .done result => s.StoresUnder call.actorId call.idempotencyKey result
  | .claiming | .looking _ | .reserving _ | .verifying _ | .verified _ | .failed _ => True

variable {s s' : UploadStore} {held : UploadKey → Prop} {call : CompletionCall}
  {intent : UploadIntent} {record : IdempotencyRecord} {stage : CompletionStage}

theorem fitsIntent_frame (h : s.FitsIntent call intent) (hmoves : s.Moves held s')
    (hfree : ¬ held (.intent call.intentId)) : s'.FitsIntent call intent :=
  ⟨hmoves.intents _ _ hfree h.found, h.unconsumed, h.officer⟩

theorem fitsRecord_frame (h : s.FitsRecord call record) (hmoves : s.Moves held s')
    (hfree : ¬ held (.record call.actorId call.idempotencyKey)) : s'.FitsRecord call record :=
  ⟨hmoves.records _ _ _ hfree h.found, h.incomplete⟩

/-- **What a call knows stays true while others move the tables** under keys that it holds itself. -/
theorem Fits.frame (h : stage.Fits s call) (hmoves : s.Moves held s')
    (hfree : ∀ key ∈ stage.keys call, ¬ held key) : stage.Fits s' call := by
  have hboth : ∀ {intent record}, s.FitsIntent call intent ∧ s.FitsRecord call record →
      ¬ held (.intent call.intentId) → ¬ held (.record call.actorId call.idempotencyKey) →
      s'.FitsIntent call intent ∧ s'.FitsRecord call record :=
    fun hfits hintent hrec =>
      ⟨fitsIntent_frame hfits.1 hmoves hintent, fitsRecord_frame hfits.2 hmoves hrec⟩
  cases stage with
  | rechecking =>
    exact fitsIntent_frame h hmoves (hfree _ (by simp [keys]))
  | searching | duplicated | registering =>
    exact hboth h (hfree _ (by simp [keys])) (hfree _ (by simp [keys]))
  | registered =>
    obtain ⟨hfits, hkey, hlive⟩ := h
    refine ⟨hboth hfits (hfree _ (by simp [keys])) (hfree _ (by simp [keys])), hkey, ?_⟩
    exact hmoves.content _ _ (hfree _ (by simp [keys])) hlive
  | done => exact h.move hmoves
  | claiming | looking | reserving | verifying | verified | failed => trivial

end CompletionStage

namespace UploadWorld

variable {ι : Type} {w w' : UploadWorld ι} {id : ι} {call : CompletionCall}
  {stage : CompletionStage} {store : UploadStore}
  {promise : Uuid → String → CompleteUploadResult → Prop}

/-- The tables are sound, every call holds the keys of its stage and knows what is true, and the records
store the results that some earlier state has promised. -/
structure Sound (promise : Uuid → String → CompleteUploadResult → Prop) (w : UploadWorld ι) : Prop where
  store : w.store.Sound
  promised : ∀ actorId key result, promise actorId key result → w.store.StoresUnder actorId key result
  held : ∀ id call stage, w.calls id = some (call, stage) →
    ∀ key ∈ stage.keys call, Holds w.locks id key
  fits : ∀ id call stage, w.calls id = some (call, stage) → stage.Fits w.store call

theorem sound_empty : (empty : UploadWorld ι).Sound (fun _ _ _ => False) where
  promised _ _ _ hfalse := absurd hfalse id
  store :=
    { intents := List.nodup_nil
      recordKeys := List.nodup_nil
      recordIds := List.nodup_nil
      records := fun _ hmem => absurd hmem List.not_mem_nil
      content := List.Pairwise.nil
      settled := fun _ => ⟨fun _ => ⟨rfl, rfl⟩, Nat.zero_le 1, Nat.zero_le 1⟩
      consumed := fun _ hmem => absurd hmem List.not_mem_nil }
  held _ _ _ hcall := by cases hcall
  fits _ _ _ hcall := by cases hcall

variable [DecidableEq ι]

variable {locks : Locks UploadKey ι}

/-- **A step of one call.** It writes under the keys it holds, leaves the keys of the others alone, and goes
on to a stage whose keys it holds and whose facts are true. -/
theorem Sound.move (h : w.Sound promise) (hstore : store.Sound)
    (hmoves : w.store.Moves (Holds w.locks id) store)
    (hlocks : ∀ other key, other ≠ id → Holds w.locks other key → Holds locks other key)
    (hheld : ∀ key ∈ stage.keys call, Holds locks id key) (hfits : stage.Fits store call) :
    Sound promise { store, locks, calls := Function.update w.calls id (some (call, stage)) } := by
  refine ⟨hstore, fun _ _ _ hpromise => (h.promised _ _ _ hpromise).move hmoves, ?_, ?_⟩
  · intro other otherCall otherStage hcall key hkey
    rcases PartialMap.update_some_cases hcall with ⟨rfl, heq⟩ | ⟨hother, hold⟩
    · cases heq
      exact hheld key hkey
    · exact hlocks other key hother (h.held other otherCall otherStage hold key hkey)
  · intro other otherCall otherStage hcall
    rcases PartialMap.update_some_cases hcall with ⟨rfl, heq⟩ | ⟨hother, hold⟩
    · cases heq
      exact hfits
    · refine (h.fits other otherCall otherStage hold).frame hmoves ?_
      intro key hkey hid
      exact hother ((h.held other otherCall otherStage hold key hkey).unique hid)

theorem Sound.put (h : w.Sound promise) (hheld : ∀ key ∈ stage.keys call, Holds w.locks id key)
    (hfits : stage.Fits w.store call) : (w.put id call stage).Sound promise :=
  h.move h.store (UploadStore.Moves.refl _ _) (fun _ _ _ hother => hother) hheld hfits

theorem Sound.finish (h : w.Sound promise) (hstore : store.Sound)
    (hmoves : w.store.Moves (Holds w.locks id) store) (hkeys : stage.keys call = [])
    (hfits : stage.Fits store call) : (w.finish id call stage store).Sound promise := by
  refine h.move hstore hmoves (fun _ _ hother hheld => hheld.release hother) ?_ hfits
  intro key hkey
  rw [hkeys] at hkey
  cases hkey

theorem Sound.abort (h : w.Sound promise) (error : Option UploadError) : (w.abort id call error).Sound promise :=
  h.finish h.store (UploadStore.Moves.refl _ _) rfl trivial

theorem Sound.take (h : w.Sound promise) {key : UploadKey} (htake : take w.locks id key = some locks) :
    Sound promise { w with locks } :=
  ⟨h.store, h.promised, fun other otherCall otherStage hcall k hk =>
    (h.held other otherCall otherStage hcall k hk).take htake, h.fits⟩

/-! ## Statements -/

variable {s : UploadStore} {intent : UploadIntent}

theorem fitsIntent_of_getIntent (h : s.getIntent call.intentId call.actorId = some intent)
    (hopen : intent.consumedAt = none) :
    s.FitsIntent call intent := by
  obtain ⟨hfound, hofficer⟩ := Option.filter_eq_some_iff.1 h
  exact ⟨hfound, hopen, (of_decide_eq_true hofficer).1⟩

theorem Sound.lockIntent (h : w.Sound promise) {next : UploadWorld ι → UploadIntent → UploadWorld ι}
    (hnext : ∀ {v : UploadWorld ι} {intent}, v.Sound promise → Holds v.locks id (.intent call.intentId) →
      v.store.getIntent call.intentId call.actorId = some intent → (next v intent).Sound promise)
    (hstep : w.lockIntent id call next = some w') : w'.Sound promise := by
  unfold UploadWorld.lockIntent at hstep
  cases hintent : w.store.getIntent call.intentId call.actorId with
  | none =>
    rw [hintent] at hstep
    cases hstep
    exact h.abort _
  | some =>
    rw [hintent] at hstep
    obtain ⟨_, htake, rfl⟩ := Option.map_eq_some_iff.1 hstep
    exact hnext (h.take htake) (holds_of_take htake) hintent

variable {record : IdempotencyRecord} {result : CompleteUploadResult}

omit [DecidableEq ι] in
theorem Sound.fits_done (h : w.Sound promise)
    (hfind : w.store.findIdempotency call.actorId call.idempotencyKey = some record)
    (hres : resultFromIdempotency record = .ok (some result)) :
    (CompletionStage.done result).Fits w.store call :=
  ⟨record, hfind, (h.store.records record (lookup_eq_some hfind).1).stores_of_result hres⟩

theorem Sound.replay (h : w.Sound promise)
    (hfind : w.store.findIdempotency call.actorId call.idempotencyKey = some record)
    (hres : resultFromIdempotency record = .ok (some result)) :
    (w.finish id call (.done result) w.store).Sound promise :=
  h.finish h.store (UploadStore.Moves.refl _ _) rfl (h.fits_done hfind hres)

theorem Sound.lookForRecord (h : w.Sound promise) (hheld : Holds w.locks id (.intent call.intentId))
    (hstep : w.lookForRecord id call intent = some w') : w'.Sound promise := by
  have hput : ∀ {v : UploadWorld ι}, v.Sound promise → Holds v.locks id (.intent call.intentId) →
      (v.put id call (.reserving intent)).Sound promise := by
    intro v hv hintent
    refine hv.put ?_ trivial
    intro key hkey
    rw [List.mem_singleton.1 hkey]
    exact hintent
  unfold UploadWorld.lookForRecord at hstep
  cases hfind : w.store.findIdempotency call.actorId call.idempotencyKey with
  | none =>
    rw [hfind] at hstep
    cases hstep
    exact hput h hheld
  | some record =>
    rw [hfind] at hstep
    obtain ⟨locks, htake, rfl⟩ := Option.map_eq_some_iff.1 hstep
    have hv := h.take htake
    dsimp only
    split
    · exact hv.abort _
    · split
      · exact hv.abort _
      · rename_i hres
        exact hv.replay hfind hres
      · split
        · exact hv.abort _
        · exact hput hv (hheld.take htake)

variable {now database : Timestamp}

theorem Sound.reserve (h : w.Sound promise) {newId : Uuid}
    (hstep : w.reserve id call intent newId database = some w') : w'.Sound promise := by
  unfold UploadWorld.reserve at hstep
  obtain ⟨locks, htake, rfl⟩ := Option.map_eq_some_iff.1 hstep
  have hv := h.take htake
  dsimp only
  split
  · exact hv.abort _
  · rename_i store hput
    obtain ⟨hstore, hmoves, hfind, hformed⟩ :=
      hv.store.reserve rfl hput (holds_of_take htake)
    split
    · exact hv.abort _
    · split
      · exact hv.abort _
      · split
        · exact hv.abort _
        · rename_i replay hres
          exact hv.finish hstore hmoves rfl ⟨_, hfind, hformed.stores_of_result hres⟩
        · split
          · exact hv.abort _
          · split
            · exact hv.abort _
            · exact hv.finish hstore hmoves rfl trivial

variable {content : VerifiedContent}

theorem Sound.recheckIntent (h : w.Sound promise) (hheld : Holds w.locks id (.intent call.intentId))
    (hintent : w.store.getIntent call.intentId call.actorId = some intent) :
    (recheckIntent id call content now w intent).Sound promise := by
  unfold UploadWorld.recheckIntent
  split
  · exact h.abort _
  · rename_i hconsumed
    split
    · exact h.abort _
    · refine h.put ?_ (fitsIntent_of_getIntent hintent (not_not.1 hconsumed))
      intro key hkey
      rw [List.mem_singleton.1 hkey]
      exact hheld

theorem Sound.recheckRecord (h : w.Sound promise) (hheld : Holds w.locks id (.intent call.intentId))
    (hintent : w.store.FitsIntent call intent)
    (hstep : w.recheckRecord id call content intent now = some w') : w'.Sound promise := by
  unfold UploadWorld.recheckRecord at hstep
  cases hfind : w.store.findIdempotency call.actorId call.idempotencyKey with
  | none =>
    rw [hfind] at hstep
    cases hstep
    exact h.abort _
  | some record =>
    rw [hfind] at hstep
    obtain ⟨locks, htake, rfl⟩ := Option.map_eq_some_iff.1 hstep
    have hv := h.take htake
    dsimp only
    split
    · exact hv.abort _
    · split
      · exact hv.abort _
      · rename_i hres
        exact hv.replay hfind hres
      · rename_i hres
        split
        · exact hv.abort _
        · have hformed := h.store.records record (lookup_eq_some hfind).1
          refine hv.put ?_ ⟨hintent, hfind, hformed.open_of_result hres⟩
          intro key hkey
          rcases List.mem_cons.1 hkey with rfl | hrest
          · exact hheld.take htake
          · rw [List.mem_singleton.1 hrest]
            exact holds_of_take htake

theorem nothing_of_fitsIntent (h : s.Sound) (hintent : s.FitsIntent call intent) :
    s.outcomesOf intent.id = [] ∧ s.tasksOf intent.id = [] := by
  refine (h.settled intent.id).untouched ?_
  intro other hmem hid
  rw [List.inj_on_of_nodup_map h.intents hmem (lookup_eq_some hintent.found).1 hid]
  exact hintent.unconsumed

/-- **The end of the second transaction.** It raises, or it commits the one outcome of its intent. -/
theorem Sound.conclude (h : w.Sound promise) {event : UploadAudit} {versions : List DocumentVersion}
    {tasks : List IngestionTask} (hheldIntent : Holds w.locks id (.intent call.intentId))
    (hheldRecord : Holds w.locks id (.record call.actorId call.idempotencyKey))
    (hintent : w.store.FitsIntent call intent) (hrec : w.store.FitsRecord call record)
    (hnew : ∀ caseId contentSha256, ¬ Holds w.locks id (.content caseId contentSha256) → w.store.NoLive caseId contentSha256 → ∀ version ∈ versions, UploadStore.isLiveContent caseId contentSha256 version = false)
    (hcont : versions.Pairwise UploadStore.MayCoexist)
    (hother : ∀ intentId, intentId ≠ intent.id → (UploadStore.concluded { w.store with versions, tasks } intent record now database result event).outcomesOf intentId = w.store.outcomesOf intentId ∧ (UploadStore.concluded { w.store with versions, tasks } intent record now database result event).tasksOf intentId = w.store.tasksOf intentId)
    (hown : ((UploadStore.concluded { w.store with versions, tasks } intent record now database result event).outcomesOf intent.id).length ≤ 1 ∧ ((UploadStore.concluded { w.store with versions, tasks } intent record now database result event).tasksOf intent.id).length ≤ 1) :
    (w.conclude id call intent record now database result event
      { w.store with versions, tasks }).Sound promise := by
  unfold UploadWorld.conclude
  dsimp only
  split
  · exact h.abort _
  · rename_i consumed hconsumed
    have hintent' : UploadStore.FitsIntent { w.store with versions, tasks } call intent :=
      ⟨hintent.found, hintent.unconsumed, hintent.officer⟩
    have hrec' : UploadStore.FitsRecord { w.store with versions, tasks } call record :=
      ⟨hrec.found, hrec.incomplete⟩
    obtain ⟨heq, hcase, hofficer⟩ : { consumed with audit := event :: consumed.audit } =
        UploadStore.concluded { w.store with versions, tasks } intent record now database result event ∧
          record.caseId = intent.caseId ∧ record.actorId = intent.assignedOfficerId := by
      apply UploadStore.consumeIntent_cases _ _ hintent' hrec' hconsumed
      · exact h.store.recordKeys
      · exact h.store.recordIds
    have hsound : (UploadStore.concluded { w.store with versions, tasks } intent record now database
        result event).Sound :=
      h.store.conclude hintent hrec hcase hofficer hcont hother hown
    have hmoves : w.store.Moves (Holds w.locks id)
        (UploadStore.concluded { w.store with versions, tasks } intent record now database result event) :=
      UploadStore.moves_concluded hintent hrec hheldIntent hheldRecord hnew
    rw [heq]
    refine h.finish hsound hmoves rfl
      ⟨record.complete database result, ?_, record.stores_complete database result⟩
    have hkey : (record.complete database result).key = (call.actorId, call.idempotencyKey) :=
      hrec.key_eq
    have hself : lookup IdempotencyRecord.key (record.complete database result).key
        (replace IdempotencyRecord.key (record.complete database result) w.store.records) =
          some (record.complete database result) := by
      apply lookup_replace_self
      rw [hkey]
      exact fun hnone => Option.some_ne_none _ (hrec.found.symm.trans hnone)
    rw [hkey] at hself
    exact hself

variable {taskId documentId : Uuid}

theorem Sound.answerDuplicate (h : w.Sound promise)
    (hheldIntent : Holds w.locks id (.intent call.intentId))
    (hheldRecord : Holds w.locks id (.record call.actorId call.idempotencyKey))
    (hintent : w.store.FitsIntent call intent) (hrec : w.store.FitsRecord call record) :
    (w.answerDuplicate id call content intent record documentId now database).Sound promise := by
  obtain ⟨houts, htasks⟩ := nothing_of_fitsIntent h.store hintent
  refine h.conclude hheldIntent hheldRecord hintent hrec (fun _ _ _ hlive => hlive)
    h.store.content ?_ ?_
  · intro intentId hne
    refine ⟨?_, rfl⟩
    simp [UploadStore.outcomesOf, UploadStore.concluded, hne.symm]
  · refine ⟨?_, ?_⟩
    · obtain ⟨hvers, haudit⟩ := List.append_eq_nil_iff.1 houts
      simp [UploadStore.outcomesOf, UploadStore.concluded, hvers, haudit]
    · exact (congrArg List.length htasks).trans_le (Nat.zero_le 1)

theorem Sound.insertVersion (h : w.Sound promise) {documentVersionId : Uuid}
    (hheldIntent : Holds w.locks id (.intent call.intentId))
    (hheldRecord : Holds w.locks id (.record call.actorId call.idempotencyKey))
    (hintent : w.store.FitsIntent call intent) (hrec : w.store.FitsRecord call record)
    (hstep : w.insertVersion id call content intent record documentId documentVersionId taskId database = some w') :
    w'.Sound promise := by
  unfold UploadWorld.insertVersion at hstep
  obtain ⟨locks, htake, rfl⟩ := Option.map_eq_some_iff.1 hstep
  have hv := h.take htake
  dsimp only
  split
  · exact hv.abort _
  · rename_i hfree
    refine hv.put ?_ ⟨⟨hintent, hrec⟩, rfl, ?_⟩
    · intro key hkey
      simp only [CompletionStage.keys, List.mem_cons, List.not_mem_nil, or_false] at hkey
      rcases hkey with rfl | rfl | rfl
      · exact hheldIntent.take htake
      · exact hheldRecord.take htake
      · exact holds_of_take htake
    · intro version hmem
      rw [Bool.eq_false_iff]
      intro hlive
      exact hfree (List.any_eq_true.2 ⟨version, hmem, by rw [hlive, Bool.true_or]⟩)

theorem Sound.register (h : w.Sound promise) {version : DocumentVersion}
    (hheldIntent : Holds w.locks id (.intent call.intentId))
    (hheldRecord : Holds w.locks id (.record call.actorId call.idempotencyKey))
    (hheldContent : Holds w.locks id (.content version.caseId version.contentSha256))
    (hintent : w.store.FitsIntent call intent) (hrec : w.store.FitsRecord call record)
    (hkey : version.storageObjectKey.intentId = intent.id)
    (hlive : w.store.NoLive version.caseId version.contentSha256) :
    (w.register id call content intent record version taskId now database).Sound promise := by
  unfold UploadWorld.register
  split
  · exact h.abort _
  · obtain ⟨houts, htasks⟩ := nothing_of_fitsIntent h.store hintent
    refine h.conclude hheldIntent hheldRecord hintent hrec ?_ ?_ ?_ ?_
    · intro caseId contentSha256 hfree hnone other hmem
      rcases List.mem_cons.1 hmem with rfl | hold
      · rw [Bool.eq_false_iff]
        intro hnew
        obtain ⟨rfl, rfl, -⟩ := of_decide_eq_true hnew
        exact hfree hheldContent
      · exact hnone other hold
    · refine List.pairwise_cons.2 ⟨?_, h.store.content⟩
      rintro other hmem _ hotherLive ⟨hcase, hsha⟩
      have hdead := hlive other hmem
      rw [UploadStore.isLiveContent, decide_eq_false_iff_not] at hdead
      exact hdead ⟨hcase.symm, hsha.symm, hotherLive⟩
    · intro intentId hne
      have hne' : version.storageObjectKey.intentId ≠ intentId := by
        rw [hkey]
        exact hne.symm
      constructor
      · simp [UploadStore.outcomesOf, UploadStore.concluded, List.filterMap_cons,
          DocumentVersion.registeredFor, hne']
      · simp [UploadStore.tasksOf, UploadStore.concluded, hne.symm]
    · obtain ⟨hvers, haudit⟩ := List.append_eq_nil_iff.1 houts
      constructor
      · rw [UploadStore.outcomesOf, UploadStore.concluded, List.filterMap_cons, List.filterMap_cons,
          hvers, haudit, DocumentVersion.registeredFor, if_pos hkey]
        exact Nat.le_refl 1
      · have hnone : w.store.tasks.filter (·.intentId = intent.id) = [] := htasks
        simp [UploadStore.tasksOf, UploadStore.concluded, hnone]

/-! ## Steps -/

/-- **A step of a call keeps the world sound.** -/
theorem Sound.advance (h : w.Sound promise) {c : Circumstances} (hstep : w.advance id c = some w') :
    w'.Sound promise := by
  unfold UploadWorld.advance at hstep
  cases hcall : w.calls id with
  | none =>
    rw [hcall] at hstep
    cases hstep
  | some entry =>
    obtain ⟨call, stage⟩ := entry
    have hheld := h.held id call stage hcall
    have hfits := h.fits id call stage hcall
    rw [hcall] at hstep
    cases stage with
    | claiming =>
      refine h.lockIntent ?_ hstep
      intro v intent hv hlock _
      refine hv.put ?_ trivial
      intro key hkey
      rw [List.mem_singleton.1 hkey]
      exact hlock
    | looking => exact h.lookForRecord (hheld _ (by simp [CompletionStage.keys])) hstep
    | reserving => exact h.reserve hstep
    | verifying =>
      cases hstep
      unfold UploadWorld.verify
      split
      all_goals exact h.put (fun _ hkey => absurd hkey List.not_mem_nil) trivial
    | verified =>
      refine h.lockIntent ?_ hstep
      intro v intent hv hlock hintent
      exact hv.recheckIntent hlock hintent
    | rechecking =>
      exact h.recheckRecord (hheld _ (by simp [CompletionStage.keys])) hfits hstep
    | searching =>
      cases hstep
      unfold UploadWorld.search
      split
      all_goals exact h.put hheld hfits
    | duplicated =>
      cases hstep
      exact h.answerDuplicate (hheld _ (by simp [CompletionStage.keys]))
        (hheld _ (by simp [CompletionStage.keys])) hfits.1 hfits.2
    | registering =>
      exact h.insertVersion (hheld _ (by simp [CompletionStage.keys]))
        (hheld _ (by simp [CompletionStage.keys])) hfits.1 hfits.2 hstep
    | registered =>
      cases hstep
      obtain ⟨⟨hintent, hrec⟩, hkey, hlive⟩ := hfits
      exact h.register (hheld _ (by simp [CompletionStage.keys]))
        (hheld _ (by simp [CompletionStage.keys])) (hheld _ (by simp [CompletionStage.keys]))
        hintent hrec hkey hlive
    | done | failed => cases hstep

omit [DecidableEq ι] in
theorem Sound.outside (h : w.Sound promise) (hstore : store.Sound)
    (hmoves : w.store.Moves (fun _ => False) store) : Sound promise { w with store } :=
  ⟨hstore, fun _ _ _ hpromise => (h.promised _ _ _ hpromise).move hmoves, h.held,
    fun id call stage hcall => (h.fits id call stage hcall).frame hmoves fun _ _ hfalse => hfalse⟩

end UploadWorld

namespace UploadStore

variable {s : UploadStore}

/-- A new intent is open, and nothing is about it. -/
theorem Sound.createIntent (h : s.Sound) {intent : UploadIntent} (hopen : intent.consumedAt = none)
    (hfresh : ∀ other ∈ s.intents, other.id ≠ intent.id) :
    Sound { s with intents := intent :: s.intents } ∧
      s.Moves (fun _ => False) { s with intents := intent :: s.intents } := by
  refine ⟨⟨?_, h.recordKeys, h.recordIds, h.records, h.content, ?_, ?_⟩, ?_⟩
  · rw [List.map_cons, List.nodup_cons]
    refine ⟨?_, h.intents⟩
    intro hmem
    obtain ⟨other, hother, hid⟩ := List.mem_map.1 hmem
    exact hfresh other hother hid
  · intro intentId
    refine ⟨fun hall => (h.settled intentId).untouched ?_, (h.settled intentId).once⟩
    exact fun other hother => hall other (List.mem_cons_of_mem _ hother)
  · intro other hother hconsumed
    rcases List.mem_cons.1 hother with rfl | hold
    · exact absurd hopen hconsumed
    · exact h.consumed other hold hconsumed
  · refine ⟨?_, fun _ _ _ _ h => h, fun _ _ _ h _ => h, fun _ _ _ h => h⟩
    intro intentId other _ hother
    refine (lookup_cons_of_ne ?_).trans hother
    intro hid
    obtain ⟨hmem, hotherId⟩ := lookup_eq_some hother
    exact hfresh other hmem (hotherId.trans hid.symm)

/-- Marking versions stale takes content out of the live ones, and nothing else. -/
theorem Sound.markStale (h : s.Sound) (versionId : Uuid) (staleAt : Timestamp) :
    Sound { s with
      versions := s.versions.map fun version =>
        if version.id = versionId then { version with staleAt := some staleAt } else version } ∧
    s.Moves (fun _ => False) { s with
      versions := s.versions.map fun version =>
        if version.id = versionId then { version with staleAt := some staleAt } else version } := by
  have houts : ∀ intentId, UploadStore.outcomesOf { s with
      versions := s.versions.map fun version =>
        if version.id = versionId then { version with staleAt := some staleAt } else version }
      intentId = s.outcomesOf intentId := by
    intro intentId
    rw [UploadStore.outcomesOf, UploadStore.outcomesOf, List.filterMap_map]
    congr 1
    refine List.filterMap_congr ?_
    intro version _
    rw [Function.comp_apply]
    split <;> rfl
  refine ⟨⟨h.intents, h.recordKeys, h.recordIds, h.records, ?_, ?_, h.consumed⟩, ?_⟩
  · refine List.pairwise_map.2 (h.content.imp ?_)
    intro version other hcoexist hlive hotherLive
    split at hlive
    · cases hlive
    split at hotherLive
    · cases hotherLive
    · simp_all [MayCoexist]
  · intro intentId
    constructor
    · intro hall
      rw [houts]
      exact (h.settled intentId).untouched hall
    · rw [houts]
      exact (h.settled intentId).once
  · refine ⟨fun _ _ _ h => h, fun _ _ _ _ h => h, fun _ _ _ h _ => h, ?_⟩
    intro caseId contentSha256 _ hnone version hmem
    obtain ⟨old, hold, rfl⟩ := List.mem_map.1 hmem
    split
    · simp [isLiveContent]
    · exact hnone old hold

end UploadStore

namespace UploadWorld

variable {ι : Type} [DecidableEq ι] {w w' : UploadWorld ι}
  {promise : Uuid → String → CompleteUploadResult → Prop}

/-- **Every step keeps the world sound.** -/
theorem Sound.step (h : w.Sound promise) {action : Action ι} (hstep : UploadWorld.step w action = some w') :
    w'.Sound promise := by
  cases action with
  | request =>
    unfold UploadWorld.step at hstep
    dsimp only at hstep
    split at hstep
    · cases hstep
      unfold UploadWorld.request
      dsimp only
      split
      · exact h.put (fun _ hkey => absurd hkey List.not_mem_nil) trivial
      · split
        all_goals exact h.put (fun _ hkey => absurd hkey List.not_mem_nil) trivial
    · cases hstep
  | advance => exact h.advance hstep
  | crash =>
    unfold UploadWorld.step at hstep
    dsimp only at hstep
    split at hstep
    · cases hstep
    · cases hstep
    · cases hstep
    cases hstep
    exact h.abort none
  | createIntent intent =>
    unfold UploadWorld.step at hstep
    dsimp only at hstep
    split at hstep
    · cases hstep
    rename_i hnew
    cases hstep
    push Not at hnew
    obtain ⟨hopen, -, hfresh⟩ := hnew
    obtain ⟨hstore, hmoves⟩ := h.store.createIntent hopen fun other hother hid =>
      hfresh (List.any_eq_true.2 ⟨other, hother, decide_eq_true hid⟩)
    exact h.outside hstore hmoves
  | assign =>
    cases hstep
    exact h.outside
      ⟨h.store.intents, h.store.recordKeys, h.store.recordIds, h.store.records, h.store.content,
        fun intentId => ⟨(h.store.settled intentId).untouched, (h.store.settled intentId).once⟩,
        h.store.consumed⟩
      ⟨fun _ _ _ h => h, fun _ _ _ _ h => h, fun _ _ _ h _ => h, fun _ _ _ h => h⟩
  | markStale versionId staleAt =>
    cases hstep
    obtain ⟨hstore, hmoves⟩ := h.store.markStale versionId staleAt
    exact h.outside hstore hmoves

theorem sound_of_run {actions : List (Action ι)} (hrun : run step empty actions = some w) :
    w.Sound (fun _ _ _ => False) :=
  run_invariant (fun hsound hstep => hsound.step hstep) sound_empty hrun

end UploadWorld

/-! ## Runs -/

namespace UploadStore

variable {s : UploadStore}

theorem StoresUnder.unique {actorId : Uuid} {key : String} {result other : CompleteUploadResult}
    (h : s.StoresUnder actorId key result) (h' : s.StoresUnder actorId key other) :
    other = result := by
  obtain ⟨_, hfound, hstores⟩ := h
  obtain ⟨_, hfound', hstores'⟩ := h'
  rw [hfound] at hfound'
  cases hfound'
  have hres := hstores'.resultFromIdempotency_eq.symm.trans hstores.resultFromIdempotency_eq
  cases hres
  rfl

/-- Of the versions with a content one at the most is live. -/
theorem Sound.length_live_le (h : s.Sound) (caseId : Uuid) (contentSha256 : String) :
    (s.versions.filter (isLiveContent caseId contentSha256)).length ≤ 1 := by
  have hpairs := h.content.filter (isLiveContent caseId contentSha256)
  have hlive : ∀ version ∈ s.versions.filter (isLiveContent caseId contentSha256),
      isLiveContent caseId contentSha256 version = true :=
    fun version hmem => (List.mem_filter.1 hmem).2
  cases hfilter : s.versions.filter (isLiveContent caseId contentSha256) with
  | nil => exact Nat.zero_le 1
  | cons first rest =>
    cases rest with
    | nil => exact Nat.le_refl 1
    | cons second =>
      rw [hfilter] at hpairs hlive
      have hcoexist : MayCoexist first second :=
        (List.pairwise_cons.1 hpairs).1 second List.mem_cons_self
      obtain ⟨hcase, hsha, hfresh⟩ := of_decide_eq_true (hlive first List.mem_cons_self)
      obtain ⟨hcase', hsha', hfresh'⟩ :=
        of_decide_eq_true (hlive second (List.mem_cons_of_mem _ List.mem_cons_self))
      exact absurd ⟨hcase.trans hcase'.symm, hsha.trans hsha'.symm⟩ (hcoexist hfresh hfresh')

end UploadStore

/-- **Completion commits one outcome.** In every run of completion calls: an intent has one outcome at the
most, registered or duplicate, and one version and one task at the most; no two live versions of a case have
the same content; an intent that is not consumed has no outcome, and a consumed one has its completed record;
what a call has returned is stored under its key; and whatever is stored under a key is what every call with
the key returns from then on. -/
theorem one_outcome_of_run {ι : Type} [DecidableEq ι] {actions : List (UploadWorld.Action ι)}
    {w : UploadWorld ι} (hrun : run UploadWorld.step UploadWorld.empty actions = some w) :
    (∀ intentId, (w.store.outcomesOf intentId).length ≤ 1 ∧
      (w.store.versionsOf intentId).length ≤ 1 ∧ (w.store.tasksOf intentId).length ≤ 1) ∧
    (∀ caseId contentSha256,
      (w.store.versions.filter (UploadStore.isLiveContent caseId contentSha256)).length ≤ 1) ∧
    (∀ intent ∈ w.store.intents,
      (intent.consumedAt = none → w.store.outcomesOf intent.id = []) ∧
        (intent.consumedAt ≠ none → w.store.HasCompletion intent)) ∧
    (∀ id call result, w.calls id = some (call, .done result) →
      w.store.StoresUnder call.actorId call.idempotencyKey result) ∧
    ∀ actorId key result, w.store.StoresUnder actorId key result →
      ∀ more w', run UploadWorld.step w more = some w' → ∀ id call later,
        w'.calls id = some (call, .done later) → call.actorId = actorId → call.idempotencyKey = key →
          later = result := by
  have hsound := UploadWorld.sound_of_run hrun
  refine ⟨?_, hsound.store.length_live_le, ?_, fun id call result hcall => hsound.fits id call _ hcall, ?_⟩
  · intro intentId
    obtain ⟨houts, htasks⟩ := (hsound.store.settled intentId).once
    exact ⟨houts, (w.store.length_versionsOf_le intentId).trans houts, htasks⟩
  · intro intent hmem
    refine ⟨fun hopen => ((hsound.store.settled intent.id).untouched ?_).1,
      hsound.store.consumed intent hmem⟩
    intro other hother hid
    rw [List.inj_on_of_nodup_map hsound.store.intents hother hmem hid]
    exact hopen
  · rintro _ _ result hstored _ w' hmore id call later hcall rfl rfl
    -- the rest of the run starts from a state that has promised the stored result
    have hpromise : w.Sound fun actorId' key' result' =>
        actorId' = call.actorId ∧ key' = call.idempotencyKey ∧ result' = result := by
      refine ⟨hsound.store, ?_, hsound.held, hsound.fits⟩
      rintro _ _ _ ⟨rfl, rfl, rfl⟩
      exact hstored
    have hlater := run_invariant (fun hs hstep => UploadWorld.Sound.step hs hstep) hpromise hmore
    have hdone : w'.store.StoresUnder call.actorId call.idempotencyKey later :=
      hlater.fits id call _ hcall
    exact (hlater.promised _ _ _ ⟨rfl, rfl, rfl⟩).unique hdone

/-- An intent of one byte. -/
def oneByteIntent (id : Uuid) (objectKey : String) : UploadIntent :=
  ⟨id, 1, 1, 5, "creditops-incoming", objectKey, "a.pdf", "application/pdf", 1, 0, 1000, none, none⟩

/-- Two calls for one intent, which verify its object side by side, and a call for another intent with the
same content; the first call comes back with its key. -/
def contestedCompletions : List (UploadWorld.Action Nat) :=
  let circumstances (objectKey : String) (n : Nat) : UploadWorld.Circumstances :=
    ⟨20, 20, 100 + 10 * n, 101 + 10 * n, 102 + 10 * n,
      ⟨some ⟨"creditops-incoming", objectKey, 1, some "application/pdf", none⟩, [[97]]⟩⟩
  [.assign 1 5, .createIntent (oneByteIntent 7 "incoming/1/7"),
    .createIntent (oneByteIntent 8 "incoming/1/8"),
    .request 0 ["INTAKE_OFFICER"] 5 7 "completion-key-0001" 10 200,
    .request 1 ["INTAKE_OFFICER"] 5 7 "completion-key-0002" 10 201,
    .request 2 ["INTAKE_OFFICER"] 5 8 "completion-key-0003" 10 202] ++
  [0, 0, 0, 0, 1, 1, 1, 1, 0, 0, 0, 0, 0, 1].map
    (fun id => .advance id (circumstances "incoming/1/7" id)) ++
  [2, 2, 2, 2, 2, 2, 2, 2].map (fun id => .advance id (circumstances "incoming/1/8" id)) ++
  [.request 3 ["INTAKE_OFFICER"] 5 7 "completion-key-0001" 30 203,
    .advance 3 (circumstances "incoming/1/7" 3), .advance 3 (circumstances "incoming/1/7" 3)]

/-- How the calls of the contested run end. -/
def contestedEnd (w : UploadWorld Nat) : Bool :=
  (w.calls 0).any (·.2 = .done (.registered 101 100 102 "PENDING")) &&
    (w.calls 1).any (·.2 = .failed (some (completionError "upload intent was already consumed"))) &&
    (w.calls 2).any (·.2 = .done (.duplicate 101)) &&
    (w.calls 3).any (·.2 = .done (.registered 101 100 102 "PENDING")) &&
    (w.store.outcomesOf 7 = [.registered 100]) && (w.store.outcomesOf 8 = [.duplicate 101])

theorem one_outcome_of_run_contested :
    ∃ w, run UploadWorld.step UploadWorld.empty contestedCompletions = some w ∧
      contestedEnd w = true ∧ (w.store.outcomesOf 7).length ≤ 1 := by
  have hrun : (run UploadWorld.step UploadWorld.empty contestedCompletions).any contestedEnd = true := by
    decide +kernel
  obtain ⟨w, hw, hend⟩ := (Option.any_eq_true _ _).1 hrun
  exact ⟨w, hw, hend, ((one_outcome_of_run hw).1 7).1⟩

end CreditOps.Uploads
