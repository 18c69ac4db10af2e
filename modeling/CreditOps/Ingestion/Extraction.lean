import CreditOps.Ingestion.Store
import CreditOps.Workers.Worker

/-!
# From a parsed document to its rows

Every region becomes a row and, when it is embedded, a passage (`regionRows`, `index`). A candidate the
model proposes is kept when its box meets a region, or else moved to the first region whose text contains
the proposed value, or else dropped (`validated`); the row of a candidate refers to the first region its
box meets (`candidateRows`). A region a candidate is moved to is one it then meets, so every kept candidate
meets a region (`exists_meets_of_validated`), and no list of kept candidates is refused
(`candidateRows_eq_some`).
-/

set_option autoImplicit false

namespace CreditOps.Ingestion

open Workers (WorkerOutcome)

/-! ## Candidates -/

/-- `ExtractionCandidate` -/
structure ExtractionCandidate where
  fieldKey : String
  proposedValue : ProposedValue
  confidence : ℚ
  place : Place
  fits : place.Fits
  fieldKey_length : 1 ≤ fieldKey.length ∧ fieldKey.length ≤ 120
  confidence_bounded : 0 ≤ confidence ∧ confidence ≤ 1

/-- What the platform brings along: the case folding and the digits of its Unicode tables, and the vectors
the database takes. -/
structure Platform where
  casefold : String → String
  isDigit : Char → Bool
  acceptsVector : List ℚ → Bool

/-- `needle in text` -/
def contains (needle text : String) : Bool :=
  needle.toList <:+: text.toList

/-- `text.split()` -/
def splitSpaces (text : String) : List String :=
  ((text.toList.splitOnP isSpace).filter (· ≠ [])).map String.ofList

/-- `_normalized_text` -/
def normalizedText (platform : Platform) (text : String) : String :=
  " ".intercalate (splitSpaces (platform.casefold text))

/-- `_digits_only` -/
def digitsOnly (platform : Platform) (text : String) : String :=
  String.ofList (text.toList.filter platform.isDigit)

/-- The text without thousands and decimal separators. -/
def separatorsStripped (text : String) : String :=
  String.ofList (text.toList.filter fun c => c ≠ '.' ∧ c ≠ ',' ∧ c ≠ ' ')

/-- An `int` or a `float`. -/
def ProposedValue.isNumber : ProposedValue → Bool
  | .integer _ | .float _ => true
  | .string _ | .boolean _ => false

/-- `_region_grounding`: the proposed value appears in the text, a number by its digits. -/
def regionGrounding (platform : Platform) (value : ProposedValue) (text : String) : Bool :=
  let raw := strip value.str
  let words := contains (normalizedText platform raw) (normalizedText platform text)
  if raw = "" then false
  else
    match value with
    | .boolean _ => words
    | .string _ | .integer _ | .float _ =>
      let digits := digitsOnly platform raw
      if digits ≠ "" ∧ (value.isNumber ∨ digits = separatorsStripped raw) then
        contains digits (digitsOnly platform text)
      else words

/-- The box of the candidate meets the region. -/
def ExtractionCandidate.meets (candidate : ExtractionCandidate) (region : ParsedRegion) : Bool :=
  candidate.place.overlaps region.place

/-- One candidate in `validate_candidates`: kept as it is, moved to the first region that grounds its
value, or dropped. A candidate off the page, for which the source raises, cannot be built. -/
def validated (platform : Platform) (regions : List ParsedRegion) (candidate : ExtractionCandidate) :
    Option ExtractionCandidate :=
  if regions.any candidate.meets then some candidate
  else
    (regions.find? fun region => regionGrounding platform candidate.proposedValue region.text).map
      fun anchor => { candidate with place := anchor.place, fits := anchor.fits }

/-- `validate_candidates`; `none` when no candidate is kept. -/
def validateCandidates (platform : Platform) (candidates : List ExtractionCandidate)
    (parsed : ParsedDocument) : Option (List ExtractionCandidate) :=
  match candidates.filterMap (validated platform parsed.regions) with
  | [] => none
  | first :: rest => some (first :: rest)

/-! ## Rows -/

section Rows

variable {ι : Type} (uuid5 : IdName ι → ι) (documentVersionId : Uuid)

/-- The row of a region. -/
def regionRow (extractionMethod : String) (region : ParsedRegion) : PageRegion ι where
  id := regionId uuid5 documentVersionId region
  place := region.place
  extractionMethod

/-- `_region_rows` -/
def regionRows (parsed : ParsedDocument) : List (PageRegion ι) :=
  parsed.regions.map (regionRow uuid5 documentVersionId parsed.extractionMethod)

/-- The row of a candidate that refers to a region. -/
def candidateRow (method : String) (candidate : ExtractionCandidate) (region : ParsedRegion) :
    CandidateFact ι where
  id := candidateId uuid5 documentVersionId (regionId uuid5 documentVersionId region) candidate.fieldKey
  pageRegionId := regionId uuid5 documentVersionId region
  fieldKey := candidate.fieldKey
  proposedValue := candidate.proposedValue
  confidence := candidate.confidence
  extractionMethod := method

/-- `_candidate_rows`; `none` when a candidate meets no region. -/
def candidateRows (method : String) (parsed : ParsedDocument) (candidates : List ExtractionCandidate) :
    Option (List (CandidateFact ι)) :=
  candidates.mapM fun candidate =>
    (parsed.regions.find? candidate.meets).map (candidateRow uuid5 documentVersionId method candidate)

/-- The route that extracts from a content type. -/
def extractionMethod : ContentType → String
  | .jpeg | .png => "fpt-vision"
  | .xlsx => "fpt-table"
  | .pdf | .docx => "fpt-reasoning"

/-- The answer of the extraction route. `refused` is every error but an unavailable endpoint, an input
over its limit included; an answer is in scope when it names the case and the version it was asked about,
and has no candidates when its payload is not a list of valid ones. -/
inductive ExtractionAnswer where
  | unavailable
  | refused
  | answered (inScope : Bool) (candidates : Option (List ExtractionCandidate))

/-- `"\n".join(region.text for region in parsed.regions)`, as long as it is. -/
def sourceLength (parsed : ParsedDocument) : Nat :=
  textSize parsed.regions + (parsed.regions.length - 1)

/-- `_extract` and `_candidate_rows`, with the outcomes of the stage. -/
def extract (platform : Platform) (parsed : ParsedDocument) :
    ExtractionAnswer → Except WorkerOutcome (List (CandidateFact ι))
  | .unavailable | .refused => .error .retryWait
  | .answered inScope candidates =>
    if sourceLength parsed > 200000 ∨ inScope = false then .error .retryWait
    else
      match candidates.bind fun proposed => validateCandidates platform proposed parsed with
      | none => .error .retryWait
      | some kept =>
        match candidateRows uuid5 documentVersionId (extractionMethod parsed.contentType) parsed kept with
        | none => .error .failedManualReview
        | some rows => .ok rows

/-- The answer of the embedding route: a vector for each text, `none` for a number that is not finite. -/
inductive EmbeddingAnswer where
  | notProvisioned
  | unavailable
  | refused
  | answered (inScope : Bool) (vectors : List (List (Option ℚ))) (model version : String)

/-- `validate_embedding` -/
def validateEmbedding (expectedDimension : Option Nat) (vector : List (Option ℚ)) :
    Option (List ℚ) :=
  if vector = [] ∨ expectedDimension.any (· ≠ vector.length) then none else vector.mapM id

/-- The passage of a region. -/
def passageRow (extractionMethod model version : String) (region : ParsedRegion) (embedding : List ℚ) :
    RetrievalPassage ι where
  id := passageId uuid5 documentVersionId (regionId uuid5 documentVersionId region)
  pageRegionId := regionId uuid5 documentVersionId region
  passageText := region.text
  extractionMethod
  embedding
  embeddingModel := model
  embeddingVersion := version

/-- `_index`, with the outcomes of the stage: without a route there is nothing to embed with, and the stage
goes on without passages. -/
def index (expectedDimension : Option Nat) (parsed : ParsedDocument) :
    EmbeddingAnswer → Except WorkerOutcome (List (RetrievalPassage ι))
  | .notProvisioned => .ok []
  | .unavailable | .refused => .error .retryWait
  | .answered inScope vectors model version =>
    if inScope = false ∨ vectors.length ≠ parsed.regions.length then .error .retryWait
    else
      match vectors.mapM (validateEmbedding expectedDimension) with
      | none => .error .retryWait
      | some embeddings =>
        .ok (List.zipWith (passageRow uuid5 documentVersionId parsed.extractionMethod model version)
          parsed.regions embeddings)

end Rows

/-! ## Kept candidates meet a region -/

section Kept

variable {ι : Type} {uuid5 : IdName ι → ι} {documentVersionId : Uuid} {platform : Platform}
  {parsed : ParsedDocument} {regions : List ParsedRegion} {candidate kept : ExtractionCandidate}

/-- **How a candidate is kept.** -/
theorem validated_cases (h : validated platform regions candidate = some kept) :
    (regions.any candidate.meets = true ∧ kept = candidate) ∨
      ∃ anchor, regions.any candidate.meets = false ∧
        (regions.find? fun region => regionGrounding platform candidate.proposedValue region.text) =
          some anchor ∧
        kept = { candidate with place := anchor.place, fits := anchor.fits } := by
  rw [validated] at h
  split at h
  · rename_i hmeets
    cases h
    exact .inl ⟨hmeets, rfl⟩
  · rename_i hmeets
    obtain ⟨anchor, hanchor, rfl⟩ := Option.map_eq_some_iff.1 h
    exact .inr ⟨anchor, by simpa using hmeets, hanchor, rfl⟩

theorem exists_meets_of_validated (h : validated platform regions candidate = some kept) :
    ∃ region ∈ regions, kept.meets region = true := by
  rcases validated_cases h with ⟨hmeets, rfl⟩ | ⟨anchor, -, hanchor, rfl⟩
  · exact List.any_eq_true.1 hmeets
  · exact ⟨anchor, List.mem_of_find?_eq_some hanchor, Place.overlaps_self anchor.fits⟩

theorem validateCandidates_eq_some {candidates accepted : List ExtractionCandidate}
    (h : validateCandidates platform candidates parsed = some accepted) :
    accepted = candidates.filterMap (validated platform parsed.regions) := by
  rw [validateCandidates] at h
  split at h
  · cases h
  rename_i first rest heq
  cases h
  exact heq.symm

end Kept

end CreditOps.Ingestion
