import Mathlib.Data.String.Basic
import CreditOps.Domain.Text
import CreditOps.Orchestration.Store

/-!
# Gap-request batches

A batch is a snapshot of the open evidence gaps of one case version with one drafted request a gap; it
is bound to the snapshot by a hash. A human disposes of the batch, and the gate
`G2_GAP_REQUEST_APPROVAL` derives from the batch and the disposition alone (`deriveG2FromBatch`).
-/

set_option autoImplicit false

namespace CreditOps.GapRequests

open Orchestration

/-! ## The snapshot hash -/

/-- The triple of one open gap. -/
def gapTriple (gap : EvidenceGap) : List String :=
  [uuidText gap.id, gap.status.value, gap.blockingLevel.value]

/-- `sorted(triples)`: tuples of strings, lexicographically. -/
def sortedTriples (gaps : List EvidenceGap) : List (List String) :=
  (gaps.map gapTriple).insertionSort (· ≤ ·)

/-- `compute_open_gap_snapshot_hash` -/
def computeOpenGapSnapshotHash (gaps : List EvidenceGap) : String :=
  sha256Hex ("[" ++ ",".intercalate ((sortedTriples gaps).map jsonStrings) ++ "]")

/-! ## Batches -/

/-- One drafted request. -/
structure GapRequestItem where
  id : Uuid
  gapId : Uuid
  requestTextVi : String
  blockingLevel : GapBlockingLevel
deriving DecidableEq

/-- A versioned snapshot of the open gaps with its drafted requests. -/
structure GapRequestBatch where
  id : Uuid
  caseVersion : CaseVersion
  items : List GapRequestItem
  openGapSnapshotHash : String
  requestTexts_fit : ∀ item ∈ items, FitsText item.requestTextVi
  itemIds_nodup : (items.map (·.id)).Nodup
  gapIds_nodup : (items.map (·.gapId)).Nodup
  hash_hex : isSha256Hex openGapSnapshotHash = true
deriving DecidableEq

/-- `item_ids` -/
def GapRequestBatch.itemIds (batch : GapRequestBatch) : List Uuid :=
  batch.items.map (·.id)

/-- `_request_text` -/
def requestText (gap : EvidenceGap) : String :=
  let text := "Đề nghị khách hàng/đơn vị liên quan bổ sung: " ++ gap.missingInformationVi
  if gap.suggestedEvidenceVi = [] then text
  else text ++ " Tài liệu gợi ý: " ++ "; ".intercalate gap.suggestedEvidenceVi ++ "."

/-- The gaps in `str(gap_id)` order. -/
def orderedGaps (gaps : List EvidenceGap) : List EvidenceGap :=
  gaps.insertionSort fun a b => uuidText a.id ≤ uuidText b.id

/-- The drafted requests, with the ids drawn for them. -/
def draftItems (gaps : List EvidenceGap) (ids : List Uuid) : List GapRequestItem :=
  (ids.zip (orderedGaps gaps)).map fun p =>
    { id := p.1
      gapId := p.2.id
      requestTextVi := requestText p.2
      blockingLevel := p.2.blockingLevel }

/-- `assemble_gap_request_batch`; `none` is the validation error of an item or of the batch. `ids` are
the uuids drawn for the items, one a gap. -/
def assembleGapRequestBatch (gaps : List EvidenceGap) (caseVersion : CaseVersion) (ids : List Uuid)
    (batchId : Uuid) : Option GapRequestBatch :=
  if h : (∀ item ∈ draftItems gaps ids, FitsText item.requestTextVi) ∧
      ((draftItems gaps ids).map (·.id)).Nodup ∧ ((draftItems gaps ids).map (·.gapId)).Nodup then
    some
      { id := batchId
        caseVersion
        items := draftItems gaps ids
        openGapSnapshotHash := computeOpenGapSnapshotHash gaps
        requestTexts_fit := h.1
        itemIds_nodup := h.2.1
        gapIds_nodup := h.2.2
        hash_hex := isSha256Hex_sha256Hex _ }
  else none

/-! ## Dispositions -/

/-- The closed set of human decisions on one batch. -/
inductive BatchDispositionType where
  | approvedAll
  | approvedWithChanges
  | rejected
  | noOutboundRequests
deriving DecidableEq

/-- The stored text of a batch disposition. -/
def BatchDispositionType.value : BatchDispositionType → String
  | .approvedAll => "APPROVED_ALL"
  | .approvedWithChanges => "APPROVED_WITH_CHANGES"
  | .rejected => "REJECTED"
  | .noOutboundRequests => "NO_OUTBOUND_REQUESTS"

/-- `_SATISFYING_DISPOSITIONS` -/
def satisfyingDispositions : List BatchDispositionType :=
  [.approvedAll, .approvedWithChanges, .noOutboundRequests]

/-- The decision on one drafted request. -/
inductive ItemDisposition where
  | approved
  | removed
  | edited
deriving DecidableEq

/-- One human disposition of one batch. The two mappings are lists of key-value pairs. -/
structure GapRequestBatchDisposition where
  id : Uuid
  batchId : Uuid
  dispositionType : BatchDispositionType
  itemDispositions : List (Uuid × ItemDisposition)
  editedTexts : List (Uuid × String)
  actorId : Uuid
  actorRole : String
  rationaleVi : String
deriving DecidableEq

/-- The keys of a mapping. -/
def keys {β : Type} (mapping : List (Uuid × β)) : List Uuid :=
  mapping.map (·.1)

/-- Two key sets are equal. -/
def sameKeys (xs ys : List Uuid) : Bool :=
  xs.all (· ∈ ys) && ys.all (· ∈ xs)

/-- `_shape_matches_disposition_type`: the first violated rule, if any. -/
def shapeError (d : GapRequestBatchDisposition) : Option String :=
  match d.dispositionType with
  | .rejected | .noOutboundRequests =>
    if d.itemDispositions ≠ [] ∨ d.editedTexts ≠ [] then
      some (d.dispositionType.value ++ " takes no per-item dispositions or edited texts")
    else none
  | .approvedAll =>
    if d.editedTexts ≠ [] then some "APPROVED_ALL cannot carry edited texts"
    else if d.itemDispositions.any (·.2 ≠ .approved) then
      some "APPROVED_ALL implies every listed item is APPROVED"
    else none
  | .approvedWithChanges =>
    if d.itemDispositions = [] then
      some "APPROVED_WITH_CHANGES requires an explicit disposition for every item"
    else if sameKeys (keys d.editedTexts)
        (keys (d.itemDispositions.filter (·.2 = .edited))) = false then
      some "edited_texts must contain replacement text for exactly the EDITED items"
    else if d.editedTexts.any (isBlank ·.2) then
      some "an EDITED item requires non-empty replacement text"
    else none

/-- `assert_disposition_matches_batch`: the first violated rule, if any. -/
def batchMatchError (batch : GapRequestBatch) (d : GapRequestBatchDisposition) : Option String :=
  if d.batchId ≠ batch.id then some "disposition does not reference this batch"
  else
    match (keys d.itemDispositions).filter (· ∉ batch.itemIds) with
    | unknown@(_ :: _) =>
      some ("disposition references unknown item ids: " ++ jsonStrings (unknown.map uuidText))
    | [] =>
      match d.dispositionType with
      | .noOutboundRequests =>
        if batch.items ≠ [] then
          some "NO_OUTBOUND_REQUESTS is valid only for a batch with no drafted requests"
        else none
      | .approvedAll =>
        if batch.items = [] then
          some "APPROVED_ALL is valid only for a batch with drafted requests"
        else none
      | .approvedWithChanges =>
        if sameKeys (keys d.itemDispositions) batch.itemIds = false then
          some "APPROVED_WITH_CHANGES must dispose every item in the batch exactly once"
        else none
      | .rejected => none

/-- `_validated_disposition`: both checks pass. -/
def isValidDisposition (batch : GapRequestBatch) (d : GapRequestBatchDisposition) : Bool :=
  (shapeError d).isNone && (batchMatchError batch d).isNone

/-! ## The gate -/

/-- `derive_g2_from_batch` -/
def deriveG2FromBatch (batch : GapRequestBatch) (disposition : Option GapRequestBatchDisposition)
    (currentCaseVersion : CaseVersion) (currentOpenGapHash : String) : GateStatus :=
  match disposition with
  | none => .opened
  | some d =>
    if batch.caseVersion ≠ currentCaseVersion then .opened
    else if batch.openGapSnapshotHash ≠ currentOpenGapHash then .opened
    else if d.batchId ≠ batch.id then .opened
    else if d.dispositionType ∈ satisfyingDispositions then .satisfied
    else .opened

/-- **When the gate derives as satisfied.** -/
theorem deriveG2FromBatch_satisfied_iff {batch : GapRequestBatch}
    {d : GapRequestBatchDisposition} {currentCaseVersion : CaseVersion}
    {currentOpenGapHash : String} :
    deriveG2FromBatch batch (some d) currentCaseVersion currentOpenGapHash = .satisfied ↔
      batch.caseVersion = currentCaseVersion ∧ batch.openGapSnapshotHash = currentOpenGapHash ∧
        d.batchId = batch.id ∧ d.dispositionType ∈ satisfyingDispositions := by
  unfold deriveG2FromBatch
  by_cases hver : batch.caseVersion = currentCaseVersion
  · by_cases hhash : batch.openGapSnapshotHash = currentOpenGapHash
    · by_cases hbatch : d.batchId = batch.id
      · by_cases htype : d.dispositionType ∈ satisfyingDispositions
        · simp only [hver, hhash, hbatch, htype, ne_eq, not_true_eq_false, ↓reduceIte, and_self]
        · simp only [hver, hhash, hbatch, htype, ne_eq, not_true_eq_false, ↓reduceIte,
            reduceCtorEq, and_false]
      · simp only [hver, hhash, hbatch, ne_eq, not_true_eq_false, not_false_eq_true, ↓reduceIte,
          reduceCtorEq, false_and, and_false]
    · simp only [hver, hhash, ne_eq, not_true_eq_false, not_false_eq_true, ↓reduceIte,
        reduceCtorEq, false_and, and_false]
  · simp only [hver, ne_eq, not_false_eq_true, ↓reduceIte, reduceCtorEq, false_and]

theorem deriveG2FromBatch_none (batch : GapRequestBatch) (currentCaseVersion : CaseVersion)
    (currentOpenGapHash : String) :
    deriveG2FromBatch batch none currentCaseVersion currentOpenGapHash = .opened := rfl

end CreditOps.GapRequests
