import CreditOps.Domain.CanonicalHash
import CreditOps.GapRequests.Domain

/-!
# What the snapshot hash binds

The hash of a collection of open gaps reads three things of each gap, whatever text its status is
(`OpenGapSnapshotView`), and is SHA-256 over the canonical JSON of the sorted triples. Two collections have
one hash exactly when they are equal as multisets of triples, and so a gate that derives as satisfied was
disposed against exactly the gaps that are open (`openGapSnapshotHash_eq_iff`).
-/

set_option autoImplicit false

namespace CreditOps.GapRequests

open Orchestration JsonText CanonicalOrder

/-! ## The hash -/

/-- The shape the snapshot hash reads from one open gap. -/
@[ext]
structure OpenGapSnapshotView where
  gapId : Uuid128
  status : String
  blockingLevel : GapBlockingLevel
deriving DecidableEq

/-- `(str(gap.gap_id), str(gap.status), str(gap.blocking_level))` -/
def OpenGapSnapshotView.triple (gap : OpenGapSnapshotView) : List String :=
  [gap.gapId.text, gap.status, gap.blockingLevel.value]

/-- A list of texts as a value. -/
def textList (texts : List String) : JsonValue :=
  .array (texts.map .string)

/-- The value that is hashed: `sorted(triples)`. -/
def snapshotPayload (gaps : List OpenGapSnapshotView) : JsonValue :=
  .array (((gaps.map OpenGapSnapshotView.triple).insertionSort (· ≤ ·)).map textList)

/-- `compute_open_gap_snapshot_hash` -/
def openGapSnapshotHash (gaps : List OpenGapSnapshotView) : String :=
  canonicalHash (snapshotPayload gaps)

theorem blockingLevel_value_injective : Function.Injective GapBlockingLevel.value := by
  intro level other h
  cases level <;> cases other <;> first | rfl | (revert h; decide)

theorem OpenGapSnapshotView.triple_injective : Function.Injective OpenGapSnapshotView.triple := by
  intro gap other h
  simp only [triple, List.cons.injEq, and_true] at h
  obtain ⟨hid, hstat, hlevel⟩ := h
  exact OpenGapSnapshotView.ext (Uuid128.text_injective hid) hstat (blockingLevel_value_injective hlevel)

theorem sortKeys_textList (texts : List String) : sortKeys (textList texts) = textList texts := by
  rw [textList, sortKeys, sortKeysItems_eq_map, List.map_map]
  rfl

theorem textList_injective : Function.Injective fun texts => sortKeys (textList texts) := by
  intro texts other h
  simp only [sortKeys_textList] at h
  exact List.map_injective_iff.2 (fun _ _ heq => JsonValue.string.inj heq) (JsonValue.array.inj h)

theorem writable_textList (texts : List String) : Writable everyInteger (textList texts) := by
  refine .array ?_
  intro item hitem
  obtain ⟨text, -, rfl⟩ := List.mem_map.1 hitem
  exact .string text

theorem writable_snapshotPayload (gaps : List OpenGapSnapshotView) :
    Writable everyInteger (snapshotPayload gaps) := by
  refine .array ?_
  intro item hitem
  obtain ⟨texts, -, rfl⟩ := List.mem_map.1 hitem
  exact writable_textList texts

theorem sortKeys_snapshotPayload_iff {gaps others : List OpenGapSnapshotView} :
    sortKeys (snapshotPayload gaps) = sortKeys (snapshotPayload others) ↔ gaps.Perm others :=
  (sortKeys_array_map_iff textList_injective).trans
    (insertionSort_map_eq_iff OpenGapSnapshotView.triple_injective)

/-- **Two collections have one hash exactly when they are one multiset of triples.** -/
theorem openGapSnapshotHash_iff_perm {gaps current : List OpenGapSnapshotView}
    (hsha : NoCollision (canonicalText (snapshotPayload gaps)) (canonicalText (snapshotPayload current))) :
    openGapSnapshotHash gaps = openGapSnapshotHash current ↔ gaps.Perm current :=
  (canonicalHash_eq_iff (writable_snapshotPayload gaps) (writable_snapshotPayload current) hsha).trans
    sortKeys_snapshotPayload_iff

theorem canonicalText_of_perm {gaps current : List OpenGapSnapshotView} (h : gaps.Perm current) :
    canonicalText (snapshotPayload gaps) = canonicalText (snapshotPayload current) :=
  (canonicalText_eq_iff (writable_snapshotPayload gaps) (writable_snapshotPayload current)).2
    (sortKeys_snapshotPayload_iff.2 h)

/-! ## The gate -/

variable {batch : GapRequestBatch} {disposition : Option GapRequestBatchDisposition}
  {caseVersion currentCaseVersion : CaseVersion}

theorem hash_of_satisfied {currentOpenGapHash : String}
    (h : deriveG2FromBatch batch disposition currentCaseVersion currentOpenGapHash = .satisfied) :
    batch.openGapSnapshotHash = currentOpenGapHash := by
  cases disposition with
  | none => cases h
  | some => exact (deriveG2FromBatch_satisfied_iff.1 h).2.1

/-- **The hash binds a batch to the gaps that were open and unchanged.** -/
theorem openGapSnapshotHash_eq_iff {gaps current : List OpenGapSnapshotView}
    (hsha : NoCollision (canonicalText (snapshotPayload gaps)) (canonicalText (snapshotPayload current))) :
    (openGapSnapshotHash gaps = openGapSnapshotHash current ↔ gaps.Perm current) ∧
      ∀ (batch : GapRequestBatch) (disposition : Option GapRequestBatchDisposition)
        (currentCaseVersion : CaseVersion), batch.openGapSnapshotHash = openGapSnapshotHash gaps →
          deriveG2FromBatch batch disposition currentCaseVersion (openGapSnapshotHash current) = .satisfied →
            gaps.Perm current := by
  have hperm := openGapSnapshotHash_iff_perm hsha
  refine ⟨hperm, ?_⟩
  intro batch disposition currentCaseVersion hbatch hsat
  exact hperm.1 (hbatch.symm.trans (hash_of_satisfied hsat))

/-- Two gaps read in the other order. -/
def rereadGaps : List OpenGapSnapshotView :=
  [⟨.ofNat 7, "FORMAL", .clarification⟩, ⟨.ofNat 6, "PROVISIONAL", .blocking⟩]

theorem openGapSnapshotHash_rereadGaps :
    openGapSnapshotHash rereadGaps = openGapSnapshotHash rereadGaps.reverse :=
  (openGapSnapshotHash_eq_iff fun _ => canonicalText_of_perm rereadGaps.reverse_perm.symm).1.2
    rereadGaps.reverse_perm.symm

/-! ## The rows of the store -/

/-- What the hash reads of a row. -/
def gapView (gap : EvidenceGap) (h : gap.id < 16 ^ 32) : OpenGapSnapshotView :=
  ⟨⟨gap.id, h⟩, gap.status.value, gap.blockingLevel⟩

/-- What the hash reads of the rows of the store. -/
def gapViews (gaps : List EvidenceGap) (h : ∀ gap ∈ gaps, gap.id < 16 ^ 32) : List OpenGapSnapshotView :=
  gaps.pmap gapView h

/-- A text of characters that are not escaped. -/
def IsPlain (text : String) : Prop :=
  ∀ c ∈ text.toList, escapeChar false c = [c]

theorem encode_string_of_isPlain {text : String} (h : IsPlain text) :
    encode .compact (.string text) = ("\"" ++ text ++ "\"").toList := by
  have hself : text.toList.flatMap (escapeChar false) = text.toList := by
    rw [List.flatMap_congr h, List.flatMap_singleton']
  rw [encode, quote, String.toList_append, String.toList_append]
  exact congrArg (fun middle => '"' :: (middle ++ ['"'])) hself

/-- Items that are written as texts are written as the texts with commas between them. -/
theorem encodeItems_compact {α : Type} {f : α → JsonValue} {g : α → String} {l : List α}
    (h : ∀ a ∈ l, encode .compact (f a) = (g a).toList) :
    encodeItems .compact (l.map f) = (",".intercalate (l.map g)).toList := by
  induction l with
  | nil => rfl
  | cons _ l ih =>
    obtain ⟨ha, hrest⟩ := List.forall_mem_cons.1 h
    cases l with
    | nil =>
      rw [List.map_singleton, List.map_singleton, encodeItems_singleton, String.intercalate_singleton, ha]
    | cons =>
      have htail := ih hrest
      simp only [List.map_cons] at htail ⊢
      rw [encodeItems_cons_cons, ha, htail, String.intercalate_cons_cons, String.toList_append,
        String.toList_append, List.append_assoc]
      rfl

theorem encode_array_compact {α : Type} {f : α → JsonValue} {g : α → String} {l : List α}
    (h : ∀ a ∈ l, encode .compact (f a) = (g a).toList) :
    encode .compact (.array (l.map f)) = ("[" ++ ",".intercalate (l.map g) ++ "]").toList := by
  rw [encode, encodeItems_compact h, String.toList_append, String.toList_append]
  rfl

theorem encode_textList {texts : List String} (h : ∀ text ∈ texts, IsPlain text) :
    encode .compact (textList texts) = (jsonStrings texts).toList :=
  encode_array_compact fun text htext => encode_string_of_isPlain (h text htext)

theorem isPlain_uuidText (id : Uuid) : IsPlain (uuidText id) := by
  have hdigits : ∀ c ∈ Sha256.hexAlphabet, escapeChar false c = [c] :=
    @of_decide_eq_true _ (List.decidableBAll _ _) rfl
  intro c hc
  by_cases hyphen : c = '-'
  · subst hyphen
    rfl
  · have hmem : c ∈ (uuidText id).toList.filter (· ≠ '-') :=
      List.mem_filter.2 ⟨hc, decide_eq_true hyphen⟩
    rw [filter_uuidText] at hmem
    exact hdigits c (Sha256.mem_hexAlphabet_of_mem_hexDigits hmem)

theorem isPlain_gapTriple (gap : EvidenceGap) : ∀ text ∈ gapTriple gap, IsPlain text := by
  have hstat : ∀ status : GapStatus, ∀ c ∈ status.value.toList, escapeChar false c = [c] := by
    intro status
    cases status <;> exact @of_decide_eq_true _ (List.decidableBAll _ _) rfl
  have hlevel : ∀ level : GapBlockingLevel, ∀ c ∈ level.value.toList, escapeChar false c = [c] := by
    intro level
    cases level <;> exact @of_decide_eq_true _ (List.decidableBAll _ _) rfl
  intro text htext
  simp only [gapTriple, List.mem_cons, List.not_mem_nil, or_false] at htext
  rcases htext with rfl | rfl | rfl
  · exact isPlain_uuidText gap.id
  · exact hstat gap.status
  · exact hlevel gap.blockingLevel

variable {gaps : List EvidenceGap}

theorem map_triple_gapViews (h : ∀ gap ∈ gaps, gap.id < 16 ^ 32) :
    (gapViews gaps h).map OpenGapSnapshotView.triple = gaps.map gapTriple := by
  rw [gapViews, List.map_pmap]
  calc gaps.pmap (fun gap hgap => (gapView gap hgap).triple) h
      = gaps.pmap (fun gap _ => gapTriple gap) h := List.pmap_congr_left gaps fun _ _ _ _ => rfl
    _ = gaps.map gapTriple := List.pmap_eq_map h

/-- **On the rows of the store the hash is the one the batches are assembled with.** -/
theorem computeOpenGapSnapshotHash_eq (h : ∀ gap ∈ gaps, gap.id < 16 ^ 32) :
    computeOpenGapSnapshotHash gaps = openGapSnapshotHash (gapViews gaps h) := by
  have hplain : ∀ texts ∈ sortedTriples gaps, encode .compact (textList texts) = (jsonStrings texts).toList := by
    intro texts htexts
    have hmem := (List.perm_insertionSort _ _).mem_iff.1 htexts
    obtain ⟨gap, -, rfl⟩ := List.mem_map.1 hmem
    exact encode_textList (isPlain_gapTriple gap)
  have hpayl : snapshotPayload (gapViews gaps h) = .array ((sortedTriples gaps).map textList) := by
    rw [snapshotPayload, map_triple_gapViews]
    rfl
  have hkeys : sortKeys (.array ((sortedTriples gaps).map textList)) =
      .array ((sortedTriples gaps).map textList) := by
    rw [sortKeys, sortKeysItems_eq_map, List.map_map]
    exact congrArg _ (List.map_congr_left fun texts _ => sortKeys_textList texts)
  rw [openGapSnapshotHash, canonicalHash, canonicalText, hpayl, hkeys, dumps, encode_array_compact hplain,
    String.ofList_toList]
  rfl

variable {ids : List Uuid}

theorem map_gapId_draftItems (h : gaps.length ≤ ids.length) :
    (draftItems gaps ids).map (·.gapId) = (orderedGaps gaps).map (·.id) := by
  have hlen : (orderedGaps gaps).length ≤ ids.length := by
    rwa [orderedGaps, (List.perm_insertionSort _ gaps).length_eq]
  calc (draftItems gaps ids).map (·.gapId)
      = ((ids.zip (orderedGaps gaps)).map Prod.snd).map (·.id) := by
        rw [draftItems, List.map_map, List.map_map]
        rfl
    _ = (orderedGaps gaps).map (·.id) := by rw [List.map_snd_zip hlen]

variable {batchId : Uuid}

theorem assembled_of_eq_some (h : assembleGapRequestBatch gaps caseVersion ids batchId = some batch) :
    batch.items = draftItems gaps ids ∧ batch.openGapSnapshotHash = computeOpenGapSnapshotHash gaps := by
  unfold assembleGapRequestBatch at h
  split_ifs at h
  cases h
  exact ⟨rfl, rfl⟩

/-- **A batch with a satisfied gate asks once for each gap that is open.** -/
theorem gapIds_of_satisfied {current : List EvidenceGap} (hgaps : ∀ gap ∈ gaps, gap.id < 16 ^ 32)
    (hcur : ∀ gap ∈ current, gap.id < 16 ^ 32)
    (hsha : NoCollision (canonicalText (snapshotPayload (gapViews gaps hgaps))) (canonicalText (snapshotPayload (gapViews current hcur))))
    (hids : gaps.length ≤ ids.length)
    (hbatch : assembleGapRequestBatch gaps caseVersion ids batchId = some batch)
    (hsat : deriveG2FromBatch batch disposition currentCaseVersion (computeOpenGapSnapshotHash current) = .satisfied) :
    (batch.items.map (·.gapId)).Perm (current.map (·.id)) := by
  obtain ⟨hitems, hhash⟩ := assembled_of_eq_some hbatch
  have heq := hhash.symm.trans (hash_of_satisfied hsat)
  rw [computeOpenGapSnapshotHash_eq hgaps, computeOpenGapSnapshotHash_eq hcur] at heq
  have hids_of : ∀ (rows : List EvidenceGap) (hrows : ∀ gap ∈ rows, gap.id < 16 ^ 32),
      (gapViews rows hrows).map (fun view => view.gapId.val) = rows.map (·.id) := by
    intro rows hrows
    rw [gapViews, List.map_pmap]
    exact List.pmap_eq_map hrows
  have hperm := ((openGapSnapshotHash_iff_perm hsha).1 heq).map fun view => view.gapId.val
  rw [hids_of, hids_of] at hperm
  rw [hitems, map_gapId_draftItems hids]
  exact ((List.perm_insertionSort _ gaps).map _).trans hperm

/-- One gap that blocks. -/
def blockingGap : EvidenceGap := ⟨1, 1, 40, .formal, .blocking, "a", []⟩

theorem gapIds_blockingGap : ∃ batch, assembleGapRequestBatch [blockingGap] 1 [8] 9 = some batch ∧
    (batch.items.map (·.gapId)).Perm [1] := by
  obtain ⟨batch, hbatch⟩ := Option.isSome_iff_exists.1
    (show (assembleGapRequestBatch [blockingGap] 1 [8] 9).isSome by decide)
  have hsmall : ∀ gap ∈ [blockingGap], gap.id < 16 ^ 32 := by decide
  have hsat : deriveG2FromBatch batch (some ⟨5, batch.id, .approvedAll, [], [], 3, "r", "r"⟩)
      batch.caseVersion (computeOpenGapSnapshotHash [blockingGap]) = .satisfied :=
    deriveG2FromBatch_satisfied_iff.2 ⟨rfl, (assembled_of_eq_some hbatch).2, rfl, List.mem_cons_self⟩
  exact ⟨batch, hbatch, gapIds_of_satisfied hsmall hsmall (fun _ => rfl) le_rfl hbatch hsat⟩

end CreditOps.GapRequests
