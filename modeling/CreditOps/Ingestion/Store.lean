import CreditOps.Library.KeyedTable
import CreditOps.Evidence.Views
import CreditOps.Ingestion.Documents

/-!
# The rows of one document version

Ingestion writes three tables: the regions of the document, the candidate facts found in them, and the
passages a search reads. Their ids are hashes of where a row comes from, so a row that is written again is
recognised and ignored. Every write advances the stage of the version in the same transaction, from the
stage before or, for a write that is repeated, from the stage it leads to (`persist`).
-/

set_option autoImplicit false

namespace CreditOps.Ingestion

open Evidence (DocumentStage)

/-! ## Stages -/

/-- `_STAGE_RANK` -/
def rank : DocumentStage → Nat
  | .registered => 0
  | .securityValidated => 1
  | .parsed => 2
  | .classified => 3
  | .extracted => 4
  | .indexed => 5
  | .readyForOfficerReview => 6

theorem rank_injective : Function.Injective rank := by
  intro stage stage' h
  cases stage <;> cases stage' <;> first | rfl | cases h

@[simp] theorem rank_inj {stage stage' : DocumentStage} : rank stage = rank stage' ↔ stage = stage' :=
  rank_injective.eq_iff

theorem rank_of_next {stage stage' : DocumentStage} (h : stage.next = some stage') :
    rank stage' = rank stage + 1 := by
  cases stage <;> cases h <;> rfl

/-! ## Ids -/

/-- The names the ids of rows are hashed from. -/
inductive IdName (ι : Type) where
  | pageRegion (documentVersionId : Uuid) (place : Place)
  | candidateFact (documentVersionId : Uuid) (pageRegionId : ι) (fieldKey : String)
  | retrievalPassage (documentVersionId : Uuid) (pageRegionId : ι)
deriving DecidableEq

section Ids

variable {ι : Type} (uuid5 : IdName ι → ι) (documentVersionId : Uuid)

/-- `_region_id`: a region is known by its place, not by its text. -/
def regionId (region : ParsedRegion) : ι :=
  uuid5 (.pageRegion documentVersionId region.place)

/-- `_candidate_id` -/
def candidateId (pageRegionId : ι) (fieldKey : String) : ι :=
  uuid5 (.candidateFact documentVersionId pageRegionId fieldKey)

/-- `_passage_id` -/
def passageId (pageRegionId : ι) : ι :=
  uuid5 (.retrievalPassage documentVersionId pageRegionId)

end Ids

/-! ## Values -/

/-- A proposed value; a float is given by its `repr`. -/
inductive ProposedValue where
  | string (text : String)
  | integer (value : Int)
  | float (digits : String)
  | boolean (value : Bool)
deriving DecidableEq

/-- `str(value)` -/
def ProposedValue.str : ProposedValue → String
  | .string text => text
  | .integer value => toString value
  | .float digits => digits
  | .boolean true => "True"
  | .boolean false => "False"

/-- A text the database takes: it stores no NUL. -/
def storableText (text : String) : Bool :=
  text.toList.all (· ≠ '\x00')

/-- `length(btrim(text)) > 0`, where only blanks are trimmed. -/
def filled (text : String) : Bool :=
  text.toList.any (· ≠ ' ')

/-- The values `jsonb` takes: no NUL in a string, and no float that is not a number. -/
def ProposedValue.storable : ProposedValue → Bool
  | .string text => storableText text
  | .float digits => digits ≠ "nan" ∧ digits ≠ "inf" ∧ digits ≠ "-inf"
  | .integer _ | .boolean _ => true

/-! ## Rows -/

/-- One row of `page_regions`. -/
structure PageRegion (ι : Type) where
  id : ι
  place : Place
  extractionMethod : String
deriving DecidableEq

/-- One row of `candidate_facts`. -/
structure CandidateFact (ι : Type) where
  id : ι
  pageRegionId : ι
  fieldKey : String
  proposedValue : ProposedValue
  confidence : ℚ
  extractionMethod : String
deriving DecidableEq

/-- One row of `retrieval_passages`. -/
structure RetrievalPassage (ι : Type) where
  id : ι
  pageRegionId : ι
  passageText : String
  extractionMethod : String
  embedding : List ℚ
  embeddingModel : String
  embeddingVersion : String
deriving DecidableEq

/-- The checks of `page_regions` that a place on its page does not meet by itself. -/
def PageRegion.storable {ι : Type} (row : PageRegion ι) : Bool :=
  filled row.extractionMethod ∧ storableText row.extractionMethod

/-- The checks of `candidate_facts`. -/
def CandidateFact.storable {ι : Type} (row : CandidateFact ι) : Bool :=
  filled row.fieldKey ∧ storableText row.fieldKey ∧ row.proposedValue.storable

/-- The checks of `retrieval_passages`; `acceptsVector` is the vector type's. -/
def RetrievalPassage.storable {ι : Type} (acceptsVector : List ℚ → Bool) (row : RetrievalPassage ι) :
    Bool :=
  filled row.passageText ∧ storableText row.passageText ∧ acceptsVector row.embedding ∧
    filled row.extractionMethod ∧ storableText row.extractionMethod ∧ filled row.embeddingModel ∧ storableText row.embeddingModel ∧
      filled row.embeddingVersion ∧ storableText row.embeddingVersion

/-- The rows of a document version. -/
structure Contents (ι : Type) where
  regions : List (PageRegion ι)
  candidates : List (CandidateFact ι)
  passages : List (RetrievalPassage ι)
deriving DecidableEq

/-- No rows. -/
def noContents {ι : Type} : Contents ι where
  regions := []
  candidates := []
  passages := []

/-- The rows a stage writes are rows the database takes. -/
def Contents.storable {ι : Type} (acceptsVector : List ℚ → Bool) (writes : Contents ι) : Bool :=
  writes.regions.all PageRegion.storable ∧ writes.candidates.all CandidateFact.storable ∧
    writes.passages.all (RetrievalPassage.storable acceptsVector)

section Inserts

variable {ι : Type} [DecidableEq ι]

/-- `insert … on conflict (id) do nothing` of all rows. -/
def Contents.insert (contents writes : Contents ι) : Contents ι where
  regions := KeyedTable.addAll PageRegion.id contents.regions writes.regions
  candidates := KeyedTable.addAll CandidateFact.id contents.candidates writes.candidates
  passages := KeyedTable.addAll RetrievalPassage.id contents.passages writes.passages

theorem Contents.insert_insert (contents writes : Contents ι) :
    (contents.insert writes).insert writes = contents.insert writes := by
  simp only [Contents.insert, KeyedTable.addAll_addAll]

@[simp] theorem Contents.insert_noContents (contents : Contents ι) :
    contents.insert noContents = contents := rfl

/-! ## The document version -/

/-- A document version with its rows and the type of the task's latest checkpoint. -/
structure DocumentState (ι : Type) where
  stage : DocumentStage
  stale : Bool
  contents : Contents ι
  checkpoint : Option DocumentStage
deriving DecidableEq

/-- A version as the upload registers it. -/
def registered : DocumentState ι where
  stage := .registered
  stale := false
  contents := noContents
  checkpoint := none

/-- `_advance_stage` -/
def DocumentState.advanceStage (state : DocumentState ι) (fromStage toStage : DocumentStage) :
    Option (DocumentState ι) :=
  if fromStage.next = some toStage ∧ (state.stage = fromStage ∨ state.stage = toStage) then
    some { state with stage := toStage }
  else none

/-- One transaction that writes rows and advances the stage; `none` when it is rolled back. -/
def DocumentState.persist (acceptsVector : List ℚ → Bool) (state : DocumentState ι)
    (writes : Contents ι) (fromStage toStage : DocumentStage) : Option (DocumentState ι) :=
  if writes.storable acceptsVector then
    DocumentState.advanceStage { state with contents := state.contents.insert writes } fromStage toStage
  else none

/-- `persist_parsed_regions` -/
def DocumentState.persistParsedRegions (acceptsVector : List ℚ → Bool) (state : DocumentState ι)
    (regions : List (PageRegion ι)) (fromStage toStage : DocumentStage) : Option (DocumentState ι) :=
  state.persist acceptsVector { noContents with regions } fromStage toStage

/-- `persist_candidates` -/
def DocumentState.persistCandidates (acceptsVector : List ℚ → Bool) (state : DocumentState ι)
    (candidates : List (CandidateFact ι)) (fromStage toStage : DocumentStage) :
    Option (DocumentState ι) :=
  state.persist acceptsVector { noContents with candidates } fromStage toStage

/-- `persist_passages` -/
def DocumentState.persistPassages (acceptsVector : List ℚ → Bool) (state : DocumentState ι)
    (passages : List (RetrievalPassage ι)) (fromStage toStage : DocumentStage) :
    Option (DocumentState ι) :=
  state.persist acceptsVector { noContents with passages } fromStage toStage

variable {acceptsVector : List ℚ → Bool} {state state' : DocumentState ι} {writes : Contents ι}
  {fromStage toStage : DocumentStage}

/-- **What a transaction does.** It leads from the stage before, or repeats itself. -/
theorem DocumentState.persist_eq_some :
    state.persist acceptsVector writes fromStage toStage = some state' ↔
      writes.storable acceptsVector = true ∧ fromStage.next = some toStage ∧
        (state.stage = fromStage ∨ state.stage = toStage) ∧
          state' = { state with contents := state.contents.insert writes, stage := toStage } := by
  rw [DocumentState.persist]
  split
  · rename_i hstorable
    rw [DocumentState.advanceStage, Option.ite_none_right_eq_some, Option.some.injEq, and_assoc]
    simp only [hstorable, true_and, eq_comm]
  · rename_i hstorable
    simp [hstorable]

theorem DocumentState.rank_le_of_persist
    (h : state.persist acceptsVector writes fromStage toStage = some state') :
    rank state.stage ≤ rank state'.stage := by
  obtain ⟨-, hnext, hstage, rfl⟩ := DocumentState.persist_eq_some.1 h
  have hrank := rank_of_next hnext
  rcases hstage with hfrom | hto
  · rw [hfrom]
    exact hrank.symm ▸ Nat.le_succ _
  · rw [hto]

end Inserts

end CreditOps.Ingestion
