import Mathlib.Data.List.MinMax
import CreditOps.Domain.Text
import CreditOps.Library.KeyedTable
import CreditOps.Library.RowLocks

/-!
# Completing an upload

A call of `CompleteUploadIntent.execute` has three parts. A first transaction locks the upload intent and
reserves the idempotency record of the caller's key for a time. Between the transactions the stored object is
verified and copied. A second transaction locks both rows again, looks for a live document version with the
same content, registers the upload or answers that it is a duplicate, stores the answer in the idempotency
record and consumes the intent.
-/

set_option autoImplicit false

namespace CreditOps.Uploads

open KeyedTable RowLocks

/-! ## Errors -/

/-- The classes of errors of the use case. -/
inductive UploadErrorClass where
  | uploadCompletionError
  | uploadIntentNotFound
  | uploadIntentExpired
  | idempotencyKeyReused
  | idempotencyInProgress
deriving DecidableEq

/-- An error with its text. -/
structure UploadError where
  errorClass : UploadErrorClass
  message : String
deriving DecidableEq

/-- `UploadCompletionError(message)` -/
def completionError (message : String) : UploadError :=
  ⟨.uploadCompletionError, message⟩

/-- `INTAKE_OFFICER_ROLE` -/
def intakeOfficerRole : String := "INTAKE_OFFICER"

/-- `_IDEMPOTENCY_LEASE`, five minutes in microseconds. -/
def idempotencyLease : Timestamp := 300000000

/-- `_IDEMPOTENCY_KEY_RE` -/
def isIdempotencyKey (key : String) : Bool :=
  16 ≤ key.length && key.length ≤ 200 && key.toList.all fun c =>
    c.isAlphanum || c = '.' || c = '_' || c = ':' || c = '-'

/-- `_request_hash` -/
def requestHash (intentId : Uuid) : String :=
  sha256Hex ("complete-upload:" ++ uuidText intentId ++ ":\x7b\x7d")

/-! ## Rows -/

/-- One row of `upload_intents`. It is open as long as `consumed_at` is null. -/
structure UploadIntent where
  id : Uuid
  caseId : Uuid
  caseVersion : CaseVersion
  assignedOfficerId : Uuid
  bucketId : String
  objectKey : String
  originalFilename : String
  acceptedContentType : String
  declaredSizeBytes : Nat
  createdAt : Timestamp
  expiresAt : Timestamp
  consumedAt : Option Timestamp
  completionIdempotencyRecordId : Option Uuid
deriving DecidableEq

/-- `CompleteUploadResult` -/
inductive CompleteUploadResult where
  | duplicate (duplicateOfDocumentId : Uuid)
  | registered (documentId documentVersionId taskId : Uuid) (taskStatus : String)
deriving DecidableEq

/-- The JSON object of a stored response. -/
structure ResponseData where
  outcome : Option String
  duplicateOfDocumentId : Option Uuid
  documentId : Option Uuid
  documentVersionId : Option Uuid
  task : Option (Option Uuid × Option String)
deriving DecidableEq

/-- One row of `idempotency_records` for the operation `COMPLETE_UPLOAD_INTENT_V1`. -/
structure IdempotencyRecord where
  id : Uuid
  caseId : Uuid
  actorId : Uuid
  idempotencyKey : String
  requestSha256 : String
  leaseOwner : Option Uuid
  leaseUntil : Option Timestamp
  completedAt : Option Timestamp
  responseStatus : Option Nat
  responseData : Option ResponseData
deriving DecidableEq

/-- The unique key of a record. -/
def IdempotencyRecord.key (record : IdempotencyRecord) : Uuid × String :=
  (record.actorId, record.idempotencyKey)

/-- An object key `originals/<case>/<intent>` of the immutable bucket. -/
structure ImmutableKey where
  caseId : Uuid
  intentId : Uuid
deriving DecidableEq

/-- One row of `document_versions`. -/
structure DocumentVersion where
  id : Uuid
  documentId : Uuid
  caseId : Uuid
  caseVersion : CaseVersion
  storageObjectKey : ImmutableKey
  originalFilename : String
  declaredContentType : String
  detectedContentType : String
  byteSize : Nat
  contentSha256 : String
  createdBy : Uuid
  createdAt : Timestamp
  staleAt : Option Timestamp
deriving DecidableEq

/-- One row of `processing_tasks` of type `DOCUMENT_INGESTION`, whose idempotency key is
`UPLOAD:<intent>`. -/
structure IngestionTask where
  id : Uuid
  caseId : Uuid
  caseVersion : CaseVersion
  documentVersionId : Uuid
  intentId : Uuid
  storageObjectKey : ImmutableKey
  contentSha256 : String
deriving DecidableEq

/-- The audit events of the use case. -/
inductive UploadAudit where
  | duplicateDetected (caseId : Uuid) (caseVersion : CaseVersion) (actorId intentId : Uuid)
      (duplicateOfDocumentId : Uuid) (contentSha256 : String)
  | registered (caseId : Uuid) (caseVersion : CaseVersion) (actorId documentVersionId : Uuid)
      (documentId : Uuid) (contentSha256 : String) (taskId : Uuid)
deriving DecidableEq

/-- The committed tables, newest rows first. -/
structure UploadStore where
  intents : List UploadIntent
  assignments : List (Uuid × Uuid)
  records : List IdempotencyRecord
  versions : List DocumentVersion
  tasks : List IngestionTask
  audit : List UploadAudit
deriving DecidableEq

/-! ## Stored responses -/

/-- The response a call stores. -/
def CompleteUploadResult.toResponse : CompleteUploadResult → Nat × ResponseData
  | .duplicate documentId => (200, ⟨some "DUPLICATE", some documentId, none, none, none⟩)
  | .registered documentId versionId taskId status =>
    (202, ⟨some "REGISTERED", none, some documentId, some versionId, some (some taskId, some status)⟩)

/-- `_result_from_idempotency` -/
def resultFromIdempotency (record : IdempotencyRecord) :
    Except UploadError (Option CompleteUploadResult) :=
  match record.responseStatus, record.responseData with
  | some _, some data =>
    if data.outcome = some "DUPLICATE" ∧ data.duplicateOfDocumentId.isSome then
      .ok (data.duplicateOfDocumentId.map .duplicate)
    else if data.outcome = some "REGISTERED" then
      match data.documentId, data.documentVersionId, data.task with
      | some documentId, some versionId, some (some taskId, some status) =>
        .ok (some (.registered documentId versionId taskId status))
      | _, _, _ => .error (completionError "stored idempotency response is invalid")
    else .error (completionError "stored idempotency response is invalid")
  | _, _ => .ok none

/-- **A stored response reads back as the result it was written for.** -/
theorem resultFromIdempotency_of_stored {record : IdempotencyRecord} {result : CompleteUploadResult}
    (hstat : record.responseStatus = some result.toResponse.1)
    (hdata : record.responseData = some result.toResponse.2) :
    resultFromIdempotency record = .ok (some result) := by
  unfold resultFromIdempotency
  rw [hstat, hdata]
  cases result <;> rfl

theorem resultFromIdempotency_of_null {record : IdempotencyRecord}
    (hstat : record.responseStatus = none) : resultFromIdempotency record = .ok none := by
  unfold resultFromIdempotency
  rw [hstat]

/-! ## Verifying the object -/

/-- `StorageObjectMetadata` -/
structure StorageObjectMetadata where
  bucketId : String
  objectKey : String
  sizeBytes : Nat
  contentType : Option String
  sha256 : Option String
deriving DecidableEq

/-- What storage answers during one verification: the metadata unless the object is missing, and the chunks
of its bytes. -/
structure StorageAnswers where
  metadata : Option StorageObjectMetadata
  chunks : List (List Nat)
deriving DecidableEq

/-- What the verification leaves for the second transaction. -/
structure VerifiedContent where
  contentSha256 : String
  detectedContentType : String
deriving DecidableEq

/-- `if value`: a text that is there and is not empty. -/
def truthy (value : Option String) : Option String :=
  value.filter (· ≠ "")

/-- The size of the stream, chunk by chunk. -/
def streamedSize (declared : Nat) : Nat → List (List Nat) → Except UploadError Nat
  | observed, [] => .ok observed
  | observed, chunk :: chunks =>
    if observed + chunk.length > declared then
      .error (completionError "streamed object is larger than the declared size")
    else streamedSize declared (observed + chunk.length) chunks

/-- `_sha256_stream` -/
def sha256Stream (intent : UploadIntent) (chunks : List (List Nat)) : Except UploadError String :=
  match streamedSize intent.declaredSizeBytes 0 chunks with
  | .error error => .error error
  | .ok observed =>
    if observed ≠ intent.declaredSizeBytes then
      .error (completionError "streamed object size does not match the declared size")
    else
      let r := Sha256.digest chunks.flatten
      .ok (String.ofList ([r.a, r.b, r.c, r.d, r.e, r.f, r.g, r.h].flatMap (Sha256.hexDigits 8)))

/-- The checks of the object against the intent. -/
def verifyObject (intent : UploadIntent) (answers : StorageAnswers) :
    Except UploadError VerifiedContent :=
  match answers.metadata with
  | none => .error (completionError "uploaded object was not found")
  | some metadata =>
    if metadata.bucketId ≠ intent.bucketId then
      .error (completionError "object bucket does not match upload intent")
    else if metadata.objectKey ≠ intent.objectKey then
      .error (completionError "object key does not match upload intent")
    else if metadata.sizeBytes ≠ intent.declaredSizeBytes then
      .error (completionError "object size does not match upload intent")
    else if (truthy metadata.contentType).any
        (·.toLower ≠ intent.acceptedContentType.toLower) then
      .error (completionError "object content type does not match upload intent")
    else
      match sha256Stream intent answers.chunks with
      | .error error => .error error
      | .ok contentSha256 =>
        if (truthy metadata.sha256).any fun digest => !isSha256Hex digest then
          .error (completionError "provider checksum is invalid")
        else if (truthy metadata.sha256).any (· ≠ contentSha256) then
          .error (completionError "provider checksum does not match object bytes")
        else
          .ok
            { contentSha256
              detectedContentType :=
                (truthy metadata.contentType).getD intent.acceptedContentType }

/-! ## Statements -/

namespace UploadStore

/-- `get_intent`, without its lock. -/
def getIntent (s : UploadStore) (intentId actorId : Uuid) : Option UploadIntent :=
  (lookup UploadIntent.id intentId s.intents).filter fun intent =>
    intent.assignedOfficerId = actorId ∧ (intent.caseId, intent.assignedOfficerId) ∈ s.assignments

/-- `find_idempotency`, without its lock. -/
def findIdempotency (s : UploadStore) (actorId : Uuid) (idempotencyKey : String) :
    Option IdempotencyRecord :=
  lookup IdempotencyRecord.key (actorId, idempotencyKey) s.records

/-- The version is live and has the content. -/
def isLiveContent (caseId : Uuid) (contentSha256 : String) (version : DocumentVersion) : Bool :=
  version.caseId = caseId ∧ version.contentSha256 = contentSha256 ∧ version.staleAt = none

/-- `find_duplicate_document` -/
def findDuplicateDocument (s : UploadStore) (caseId : Uuid) (contentSha256 : String) : Option Uuid :=
  ((s.versions.filter (isLiveContent caseId contentSha256)).argmin (·.createdAt)).map (·.documentId)

/-- The record an upsert of `reserve_idempotency` leaves: a new one, the old one with a new lease where its
lease has run out by the clock of the database, or the old one as it is. -/
def reservedRecord (s : UploadStore) (newId : Uuid) (database : Timestamp) (caseId actorId : Uuid)
    (idempotencyKey requestSha256 : String) (leaseUntil : Timestamp) (leaseOwner : Uuid) :
    IdempotencyRecord :=
  match s.findIdempotency actorId idempotencyKey with
  | none =>
    { id := newId
      caseId
      actorId
      idempotencyKey
      requestSha256
      leaseOwner := some leaseOwner
      leaseUntil := some leaseUntil
      completedAt := none
      responseStatus := none
      responseData := none }
  | some record =>
    if record.completedAt = none ∧ ∀ deadline ∈ record.leaseUntil, deadline ≤ database then
      { record with leaseOwner := some leaseOwner, leaseUntil := some leaseUntil }
    else record

/-- Write the record of a reservation; none when the id of a new one is taken. -/
def putRecord (s : UploadStore) (record : IdempotencyRecord) : Option UploadStore :=
  match lookup IdempotencyRecord.key record.key s.records with
  | some _ => some { s with records := replace IdempotencyRecord.key record s.records }
  | none =>
    if s.records.any (·.id = record.id) then none
    else some { s with records := record :: s.records }

/-- `complete_idempotency`: nothing happens when the lease is not the caller's, has run out or is done. -/
def completeIdempotency (s : UploadStore) (database : Timestamp) (actorId : Uuid)
    (idempotencyKey : String) (response : Nat × ResponseData) (leaseOwner : Uuid) : UploadStore :=
  match s.findIdempotency actorId idempotencyKey with
  | none => s
  | some record =>
    if record.leaseOwner = some leaseOwner ∧ (∃ deadline ∈ record.leaseUntil, database < deadline) ∧
        record.completedAt = none then
      { s with
        records := replace IdempotencyRecord.key
          { record with
            responseStatus := some response.1
            responseData := some response.2
            completedAt := some database
            leaseOwner := none
            leaseUntil := none } s.records }
    else s

/-- The record a consumed intent has to name: completed, for its case and its officer. -/
def isCompletionOf (intent : UploadIntent) (recordId : Uuid) (record : IdempotencyRecord) : Bool :=
  record.id = recordId ∧ record.caseId = intent.caseId ∧ record.actorId = intent.assignedOfficerId ∧
    record.completedAt ≠ none

/-- `consume_intent` and `protect_upload_intent_identity`; none when the trigger or the unique constraint on
the completion record raises. -/
def consumeIntent (s : UploadStore) (intentId actorId : Uuid) (consumedAt : Timestamp)
    (recordId : Uuid) : Option UploadStore :=
  match lookup UploadIntent.id intentId s.intents with
  | none => some s
  | some intent =>
    if intent.assignedOfficerId ≠ actorId ∨ intent.consumedAt ≠ none then some s
    else if consumedAt < intent.createdAt then none
    else if !s.records.any (isCompletionOf intent recordId) then none
    else if s.intents.any (·.completionIdempotencyRecordId = some recordId) then none
    else
      some
        { s with
          intents := replace UploadIntent.id
            { intent with
              consumedAt := some consumedAt
              completionIdempotencyRecordId := some recordId } s.intents }

end UploadStore

/-! ## Calls -/

/-- The rows and keys a transaction locks. -/
inductive UploadKey where
  | intent (intentId : Uuid)
  | record (actorId : Uuid) (idempotencyKey : String)
  | content (caseId : Uuid) (contentSha256 : String)
deriving DecidableEq

/-- What a call of `execute` is given and what it computes first. -/
structure CompletionCall where
  actorId : Uuid
  intentId : Uuid
  idempotencyKey : String
  requestSha256 : String
  now : Timestamp
  leaseOwner : Uuid
deriving DecidableEq

/-- How far a call has come. -/
inductive CompletionStage where
  /-- Before the first transaction. -/
  | claiming
  /-- The first transaction has locked the intent. -/
  | looking (intent : UploadIntent)
  /-- It has found no answer and no lease that runs. -/
  | reserving (intent : UploadIntent)
  /-- Between the transactions, before the object is verified. -/
  | verifying (intent : UploadIntent)
  /-- The object is verified and copied. -/
  | verified (content : VerifiedContent)
  /-- The second transaction has locked the intent. -/
  | rechecking (content : VerifiedContent) (intent : UploadIntent)
  /-- It has locked the record, whose lease is the call's. -/
  | searching (content : VerifiedContent) (intent : UploadIntent) (record : IdempotencyRecord)
  /-- It has found a live version with the content. -/
  | duplicated (content : VerifiedContent) (intent : UploadIntent) (record : IdempotencyRecord)
      (documentId : Uuid)
  /-- It has found none. -/
  | registering (content : VerifiedContent) (intent : UploadIntent) (record : IdempotencyRecord)
  /-- It has inserted a version. -/
  | registered (content : VerifiedContent) (intent : UploadIntent) (record : IdempotencyRecord)
      (version : DocumentVersion) (taskId : Uuid)
  /-- The call has returned. -/
  | done (result : CompleteUploadResult)
  /-- The call has raised, with an error of the use case or another one. -/
  | failed (error : Option UploadError)
deriving DecidableEq

/-- The tables, the locks and the calls. -/
structure UploadWorld (ι : Type) where
  store : UploadStore
  locks : Locks UploadKey ι
  calls : ι → Option (CompletionCall × CompletionStage)

namespace UploadWorld

variable {ι : Type}

/-- Nothing stored and nothing called. -/
def empty : UploadWorld ι where
  store := ⟨[], [], [], [], [], []⟩
  locks := unheld
  calls _ := none

variable [DecidableEq ι]

/-- Move a call on. -/
def put (w : UploadWorld ι) (id : ι) (call : CompletionCall) (stage : CompletionStage) :
    UploadWorld ι :=
  { w with calls := Function.update w.calls id (some (call, stage)) }

/-- The transaction of a call ends: its locks are released, and the tables are the ones it leaves. -/
def finish (w : UploadWorld ι) (id : ι) (call : CompletionCall) (stage : CompletionStage)
    (store : UploadStore) : UploadWorld ι :=
  { w.put id call stage with store, locks := release w.locks id }

/-- The call raises, and its transaction is rolled back. -/
def abort (w : UploadWorld ι) (id : ι) (call : CompletionCall) (error : Option UploadError) :
    UploadWorld ι :=
  w.finish id call (.failed error) w.store

/-- A call comes in: the checks on the role and the key. -/
def request (w : UploadWorld ι) (id : ι) (roles : List String) (actorId intentId : Uuid)
    (idempotencyKey : String) (now : Timestamp) (leaseOwner : Uuid) : UploadWorld ι :=
  let call : CompletionCall :=
    ⟨actorId, intentId, idempotencyKey, requestHash intentId, now, leaseOwner⟩
  if intakeOfficerRole ∉ roles then
    w.put id call (.failed (some (completionError "intake officer role is required")))
  else if !isIdempotencyKey idempotencyKey then
    w.put id call (.failed (some (completionError "idempotency key is invalid")))
  else w.put id call .claiming

/-- The intent is locked and read; none when the call waits for it. -/
def lockIntent (w : UploadWorld ι) (id : ι) (call : CompletionCall)
    (next : UploadWorld ι → UploadIntent → UploadWorld ι) : Option (UploadWorld ι) :=
  match w.store.getIntent call.intentId call.actorId with
  | none => some (w.abort id call (some ⟨.uploadIntentNotFound, "upload intent was not found"⟩))
  | some intent =>
    (take w.locks id (.intent call.intentId)).map fun locks => next { w with locks } intent

/-- The first transaction looks for the record of the key. -/
def lookForRecord (w : UploadWorld ι) (id : ι) (call : CompletionCall) (intent : UploadIntent) :
    Option (UploadWorld ι) :=
  match w.store.findIdempotency call.actorId call.idempotencyKey with
  | none => some (w.put id call (.reserving intent))
  | some record =>
    (take w.locks id (.record call.actorId call.idempotencyKey)).map fun locks =>
      let w := { w with locks }
      if record.requestSha256 ≠ call.requestSha256 then
        w.abort id call
          (some ⟨.idempotencyKeyReused, "idempotency key is already bound to another request"⟩)
      else
        match resultFromIdempotency record with
        | .error error => w.abort id call (some error)
        | .ok (some replay) => w.finish id call (.done replay) w.store
        | .ok none =>
          if record.leaseUntil.any (call.now < ·) then
            w.abort id call
              (some ⟨.idempotencyInProgress, "an earlier completion is still in progress"⟩)
          else w.put id call (.reserving intent)

/-- The first transaction reserves the record, reads it back, checks and commits. -/
def reserve (w : UploadWorld ι) (id : ι) (call : CompletionCall) (intent : UploadIntent) (newId : Uuid)
    (database : Timestamp) : Option (UploadWorld ι) :=
  (take w.locks id (.record call.actorId call.idempotencyKey)).map fun locks =>
    let w := { w with locks }
    let reservation := w.store.reservedRecord newId database intent.caseId call.actorId
      call.idempotencyKey call.requestSha256 (call.now + idempotencyLease) call.leaseOwner
    match w.store.putRecord reservation with
    | none => w.abort id call none
    | some store =>
      if reservation.requestSha256 ≠ call.requestSha256 then
        w.abort id call
          (some ⟨.idempotencyKeyReused, "idempotency key is already bound to another request"⟩)
      else if reservation.leaseOwner ≠ some call.leaseOwner then
        w.abort id call
          (some ⟨.idempotencyInProgress, "an earlier completion is still in progress"⟩)
      else
        match resultFromIdempotency reservation with
        | .error error => w.abort id call (some error)
        | .ok (some replay) => w.finish id call (.done replay) store
        | .ok none =>
          if intent.consumedAt ≠ none then
            w.abort id call (some (completionError "upload intent was already consumed"))
          else if intent.expiresAt ≤ call.now then
            w.abort id call (some ⟨.uploadIntentExpired, "upload intent has expired"⟩)
          else w.finish id call (.verifying intent) store

/-- The object is verified and copied, outside any transaction. -/
def verify (w : UploadWorld ι) (id : ι) (call : CompletionCall) (intent : UploadIntent)
    (answers : StorageAnswers) : UploadWorld ι :=
  match verifyObject intent answers with
  | .error error => w.put id call (.failed (some error))
  | .ok content => w.put id call (.verified content)

/-- The second transaction checks the intent it has locked. -/
def recheckIntent (id : ι) (call : CompletionCall) (content : VerifiedContent) (now : Timestamp)
    (w : UploadWorld ι) (intent : UploadIntent) : UploadWorld ι :=
  if intent.consumedAt ≠ none then
    w.abort id call (some (completionError "upload intent was already consumed"))
  else if intent.expiresAt ≤ now then
    w.abort id call (some ⟨.uploadIntentExpired, "upload intent has expired"⟩)
  else w.put id call (.rechecking content intent)

/-- The second transaction locks and checks the record. -/
def recheckRecord (w : UploadWorld ι) (id : ι) (call : CompletionCall) (content : VerifiedContent)
    (intent : UploadIntent) (now : Timestamp) : Option (UploadWorld ι) :=
  match w.store.findIdempotency call.actorId call.idempotencyKey with
  | none =>
    some (w.abort id call
      (some ⟨.idempotencyKeyReused, "idempotency reservation is no longer valid"⟩))
  | some record =>
    (take w.locks id (.record call.actorId call.idempotencyKey)).map fun locks =>
      let w := { w with locks }
      if record.requestSha256 ≠ call.requestSha256 then
        w.abort id call
          (some ⟨.idempotencyKeyReused, "idempotency reservation is no longer valid"⟩)
      else
        match resultFromIdempotency record with
        | .error error => w.abort id call (some error)
        | .ok (some replay) => w.finish id call (.done replay) w.store
        | .ok none =>
          if record.leaseOwner ≠ some call.leaseOwner ∨ ∀ deadline ∈ record.leaseUntil, deadline ≤ now then
            w.abort id call
              (some ⟨.idempotencyInProgress, "idempotency reservation is no longer owned"⟩)
          else w.put id call (.searching content intent record)

/-- The second transaction looks for a live version with the content. -/
def search (w : UploadWorld ι) (id : ι) (call : CompletionCall) (content : VerifiedContent)
    (intent : UploadIntent) (record : IdempotencyRecord) : UploadWorld ι :=
  match w.store.findDuplicateDocument intent.caseId content.contentSha256 with
  | some documentId => w.put id call (.duplicated content intent record documentId)
  | none => w.put id call (.registering content intent record)

/-- The last statements of the second transaction: the answer is stored, the intent is consumed, the event
is recorded, and the transaction commits. -/
def conclude (w : UploadWorld ι) (id : ι) (call : CompletionCall) (intent : UploadIntent)
    (record : IdempotencyRecord) (now database : Timestamp) (result : CompleteUploadResult)
    (event : UploadAudit) (store : UploadStore) : UploadWorld ι :=
  let completed := store.completeIdempotency database call.actorId call.idempotencyKey
    result.toResponse call.leaseOwner
  match completed.consumeIntent intent.id call.actorId now record.id with
  | none => w.abort id call none
  | some consumed => w.finish id call (.done result) { consumed with audit := event :: consumed.audit }

/-- The second transaction answers that the upload is a duplicate. -/
def answerDuplicate (w : UploadWorld ι) (id : ι) (call : CompletionCall) (content : VerifiedContent)
    (intent : UploadIntent) (record : IdempotencyRecord) (documentId : Uuid) (now database : Timestamp) :
    UploadWorld ι :=
  w.conclude id call intent record now database (.duplicate documentId)
    (.duplicateDetected intent.caseId intent.caseVersion call.actorId intent.id documentId
      content.contentSha256) w.store

/-- `register_verified_upload`, up to the version: it waits for another insert of the content, and raises on
a live version with the content or on a taken id. -/
def insertVersion (w : UploadWorld ι) (id : ι) (call : CompletionCall) (content : VerifiedContent)
    (intent : UploadIntent) (record : IdempotencyRecord) (documentId documentVersionId taskId : Uuid)
    (database : Timestamp) : Option (UploadWorld ι) :=
  (take w.locks id (.content intent.caseId content.contentSha256)).map fun locks =>
    let w := { w with locks }
    if w.store.versions.any fun version =>
        UploadStore.isLiveContent intent.caseId content.contentSha256 version ||
          version.id = documentVersionId then
      w.abort id call none
    else
      w.put id call (.registered content intent record
        { id := documentVersionId
          documentId
          caseId := intent.caseId
          caseVersion := intent.caseVersion
          storageObjectKey := ⟨intent.caseId, intent.id⟩
          originalFilename := intent.originalFilename
          declaredContentType := intent.acceptedContentType
          detectedContentType := content.detectedContentType
          byteSize := intent.declaredSizeBytes
          contentSha256 := content.contentSha256
          createdBy := call.actorId
          createdAt := database
          staleAt := none } taskId)

/-- The task of the version, and the rest of the second transaction. -/
def register (w : UploadWorld ι) (id : ι) (call : CompletionCall) (content : VerifiedContent)
    (intent : UploadIntent) (record : IdempotencyRecord) (version : DocumentVersion) (taskId : Uuid)
    (now database : Timestamp) : UploadWorld ι :=
  -- the unique key of the case and `UPLOAD:<intent>`, and the primary key
  if w.store.tasks.any fun task =>
      (task.caseId = intent.caseId ∧ task.intentId = intent.id) ∨ task.id = taskId then
    w.abort id call none
  else
    w.conclude id call intent record now database
      (.registered version.documentId version.id taskId "PENDING")
      (.registered intent.caseId intent.caseVersion call.actorId version.id version.documentId
        content.contentSha256 taskId)
      { w.store with
        versions := version :: w.store.versions
        tasks :=
          { id := taskId
            caseId := intent.caseId
            caseVersion := intent.caseVersion
            documentVersionId := version.id
            intentId := intent.id
            storageObjectKey := version.storageObjectKey
            contentSha256 := content.contentSha256 } :: w.store.tasks }

/-- What the next step of a call meets: the readings of the two clocks, the ids it draws, and what storage
answers. -/
structure Circumstances where
  now : Timestamp
  database : Timestamp
  newId : Uuid
  documentId : Uuid
  taskId : Uuid
  answers : StorageAnswers
deriving DecidableEq

/-- The next step of a call; none when it has ended, or waits. -/
def advance (w : UploadWorld ι) (id : ι) (c : Circumstances) : Option (UploadWorld ι) :=
  match w.calls id with
  | some (call, .claiming) =>
    w.lockIntent id call fun w intent => w.put id call (.looking intent)
  | some (call, .looking intent) => w.lookForRecord id call intent
  | some (call, .reserving intent) => w.reserve id call intent c.newId c.database
  | some (call, .verifying intent) => some (w.verify id call intent c.answers)
  | some (call, .verified content) => w.lockIntent id call (recheckIntent id call content c.now)
  | some (call, .rechecking content intent) => w.recheckRecord id call content intent c.now
  | some (call, .searching content intent record) => some (w.search id call content intent record)
  | some (call, .duplicated content intent record documentId) =>
    some (w.answerDuplicate id call content intent record documentId c.now c.database)
  | some (call, .registering content intent record) =>
    w.insertVersion id call content intent record c.documentId c.newId c.taskId c.database
  | some (call, .registered content intent record version taskId) =>
    some (w.register id call content intent record version taskId c.now c.database)
  | some (_, .done _) | some (_, .failed _) | none => none

/-- A call comes in, goes on or crashes; an intent is created, an officer is assigned to a case, a version is
marked stale. -/
inductive Action (ι : Type) where
  | request (id : ι) (roles : List String) (actorId intentId : Uuid) (idempotencyKey : String)
      (now : Timestamp) (leaseOwner : Uuid)
  | advance (id : ι) (c : Circumstances)
  | crash (id : ι)
  | createIntent (intent : UploadIntent)
  | assign (caseId officerId : Uuid)
  | markStale (versionId : Uuid) (staleAt : Timestamp)
deriving DecidableEq

/-- One step of the world; none when it is not enabled. -/
def step (w : UploadWorld ι) : Action ι → Option (UploadWorld ι)
  | .request id roles actorId intentId idempotencyKey now leaseOwner =>
    match w.calls id with
    | none => some (w.request id roles actorId intentId idempotencyKey now leaseOwner)
    | some _ => none
  | .advance id c => w.advance id c
  | .crash id =>
    match w.calls id with
    | some (_, .done _) | some (_, .failed _) | none => none
    | some (call, _) => some (w.abort id call none)
  | .createIntent intent =>
    if intent.consumedAt ≠ none ∨ intent.completionIdempotencyRecordId ≠ none ∨
        w.store.intents.any (·.id = intent.id) then none
    else some { w with store := { w.store with intents := intent :: w.store.intents } }
  | .assign caseId officerId =>
    some { w with store := { w.store with assignments := (caseId, officerId) :: w.store.assignments } }
  | .markStale versionId staleAt =>
    some { w with
      store := { w.store with
        versions := w.store.versions.map fun version =>
          if version.id = versionId then { version with staleAt := some staleAt } else version } }

end UploadWorld

end CreditOps.Uploads
