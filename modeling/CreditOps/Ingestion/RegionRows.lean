import CreditOps.Ingestion.Processor

/-!
# Whether every region is kept

The id of a region is a hash of its place, so the rows of two regions in one place are one row. A version
that is ready has a row for every region exactly when its regions stand in different places
(`regionsStored_iff`); the passages then are one for each region with its text, or none at all when no
embedding route was provisioned (`stored_of_ready`). For the originals that have room for their regions this
holds in every run (`regions_kept`).
-/

set_option autoImplicit false

namespace CreditOps.Ingestion

open Transition KeyedTable
open Evidence (DocumentStage)

section Rows

variable {ι : Type}

/-- Every region has exactly one row of its own. -/
structure RegionsStored (processor : Processor ι) (parsed : ParsedDocument) (contents : Contents ι) :
    Prop where
  rows : List.Forall₂ (fun (region : ParsedRegion) (row : PageRegion ι) =>
    row.id = regionId processor.uuid5 processor.documentVersionId region ∧ row.place = region.place)
      parsed.regions contents.regions
  distinct : (contents.regions.map PageRegion.id).Nodup

/-- Every region has exactly one passage of its own, with its text. -/
structure PassagesStored (processor : Processor ι) (parsed : ParsedDocument) (contents : Contents ι) :
    Prop where
  rows : List.Forall₂ (fun (region : ParsedRegion) (passage : RetrievalPassage ι) =>
    passage.pageRegionId = regionId processor.uuid5 processor.documentVersionId region ∧
      passage.passageText = region.text) parsed.regions contents.passages
  distinct : (contents.passages.map RetrievalPassage.pageRegionId).Nodup

/-- The rows are passages of the regions, one for each. -/
def PassagesOf (processor : Processor ι) (parsed : ParsedDocument) (rows : List (RetrievalPassage ι)) :
    Prop :=
  List.Forall₂ (fun (region : ParsedRegion) (passage : RetrievalPassage ι) =>
    passage.id = passageId processor.uuid5 processor.documentVersionId
      (regionId processor.uuid5 processor.documentVersionId region) ∧
    passage.pageRegionId = regionId processor.uuid5 processor.documentVersionId region ∧
    passage.passageText = region.text) parsed.regions rows

/-! ## What the stages write -/

variable {processor : Processor ι} {parsed : ParsedDocument} {world : World} {writes : Contents ι}
  {rows rows' : List (RetrievalPassage ι)}

theorem passagesOf_zipWith {method model version : String} :
    ∀ {regions : List ParsedRegion} {embeddings : List (List ℚ)}, embeddings.length = regions.length →
      List.Forall₂ (fun (region : ParsedRegion) (passage : RetrievalPassage ι) =>
        passage.id = passageId processor.uuid5 processor.documentVersionId
          (regionId processor.uuid5 processor.documentVersionId region) ∧
        passage.pageRegionId = regionId processor.uuid5 processor.documentVersionId region ∧
        passage.passageText = region.text) regions
        (List.zipWith (passageRow processor.uuid5 processor.documentVersionId method model version) regions
          embeddings) := by
  intro regions
  induction regions with
  | nil =>
    intro embeddings _
    exact List.Forall₂.nil
  | cons _ _ ih =>
    intro embeddings hlen
    cases embeddings with
    | nil => cases hlen
    | cons => exact .cons ⟨rfl, rfl, rfl⟩ (ih (by simpa using hlen))

/-- **What indexing writes.** A passage for each region, or nothing without a route. -/
theorem index_cases {expectedDimension : Option Nat} {answer : EmbeddingAnswer}
    (h : index processor.uuid5 processor.documentVersionId expectedDimension parsed answer = .ok rows) :
    (answer = .notProvisioned ∧ rows = []) ∨ PassagesOf processor parsed rows := by
  cases answer with
  | notProvisioned =>
    cases h
    exact .inl ⟨rfl, rfl⟩
  | unavailable | refused => cases h
  | answered inScope vectors model version =>
    right
    rw [index] at h
    split at h
    · cases h
    rename_i hguard
    split at h
    · cases h
    rename_i embeddings hembeddings
    cases h
    have hlen : embeddings.length = vectors.length := (Results.mapM_eq_some.1 hembeddings).length_eq.symm
    push Not at hguard
    exact passagesOf_zipWith (hlen.trans hguard.2)

theorem PassagesOf.map_id (h : PassagesOf processor parsed rows) :
    rows.map RetrievalPassage.id = parsed.regions.map fun region =>
      passageId processor.uuid5 processor.documentVersionId
        (regionId processor.uuid5 processor.documentVersionId region) :=
  Results.map_eq_of_forall₂ h fun hrow => hrow.1

theorem PassagesOf.map_pageRegionId (h : PassagesOf processor parsed rows) :
    rows.map RetrievalPassage.pageRegionId =
      parsed.regions.map (regionId processor.uuid5 processor.documentVersionId) :=
  Results.map_eq_of_forall₂ h fun hrow => hrow.2.1

theorem regionRows_map_id :
    (regionRows processor.uuid5 processor.documentVersionId parsed).map PageRegion.id =
      parsed.places.map fun place => processor.uuid5 (.pageRegion processor.documentVersionId place) := by
  rw [regionRows, ParsedDocument.places, List.map_map, List.map_map]
  rfl

theorem regionId_nodup (hinj : Function.Injective processor.uuid5) (hplaces : parsed.places.Nodup) :
    (parsed.regions.map (regionId processor.uuid5 processor.documentVersionId)).Nodup := by
  have hmap : parsed.regions.map (regionId processor.uuid5 processor.documentVersionId) =
      parsed.places.map fun place => processor.uuid5 (.pageRegion processor.documentVersionId place) := by
    rw [ParsedDocument.places, List.map_map]
    rfl
  rw [hmap]
  apply hplaces.map
  intro place place' hsame
  have hname := hinj hsame
  rw [IdName.pageRegion.injEq] at hname
  exact hname.2

/-! ## What a version has stored -/

variable [DecidableEq ι]

/-- What a version whose originals parse to one document has stored at a stage: no rows before the stage that
writes them, and from then on what the stage made of the regions. -/
structure KeepsRegions (processor : Processor ι) (parsed : ParsedDocument) (provisioned : Prop)
    (stage : DocumentStage) (contents : Contents ι) : Prop where
  unparsed : rank stage < 2 → contents.regions = []
  regions : 2 ≤ rank stage → contents.regions =
    addAll PageRegion.id [] (regionRows processor.uuid5 processor.documentVersionId parsed)
  unextracted : rank stage < 4 → contents.candidates = []
  unindexed : rank stage < 5 → contents.passages = []
  passages : contents.passages = [] ∨
    ∃ rows, PassagesOf processor parsed rows ∧ contents.passages = addAll RetrievalPassage.id [] rows
  indexed : 5 ≤ rank stage → provisioned → ∃ rows, PassagesOf processor parsed rows ∧
    contents.passages = addAll RetrievalPassage.id [] rows

/-- The original parses to the document, whenever it is parsed, and the route is provisioned if it is said
to be. -/
def ReadsAs (parsed : ParsedDocument) (provisioned : Prop) (world : World) : Prop :=
  world.parsed = some parsed ∧ (provisioned → world.embedding ≠ .notProvisioned)

/-- Passages of the regions are not stored twice. -/
theorem addAll_passages (h : PassagesOf processor parsed rows) (h' : PassagesOf processor parsed rows') :
    addAll RetrievalPassage.id (addAll RetrievalPassage.id [] rows) rows' =
      addAll RetrievalPassage.id [] rows := by
  apply addAll_of_keys_mem
  intro row hrow
  have hid : row.id ∈ rows.map RetrievalPassage.id := by
    rw [h.map_id, ← h'.map_id]
    exact List.mem_map_of_mem hrow
  obtain ⟨other, hother, hsame⟩ := List.mem_map.1 hid
  have hkept : ∃ stored ∈ addAll RetrievalPassage.id [] rows, stored.id = other.id :=
    exists_key_of_mem hother
  obtain ⟨stored, hstored, hkey⟩ := hkept
  exact ⟨stored, hstored, hkey.trans hsame⟩

variable {provisioned : Prop} {state next : DocumentState ι} {attempt : Attempt}
  {toStage : DocumentStage}

theorem KeepsRegions.of_written (h : KeepsRegions processor parsed provisioned state.stage state.contents)
    (hrank : rank next.stage < 2 ∨ 2 ≤ rank state.stage) (hindexed : rank next.stage < 5 ∨ 5 ≤ rank state.stage)
    (hle : rank state.stage ≤ rank next.stage) (hsame : next.contents = state.contents) :
    KeepsRegions processor parsed provisioned next.stage next.contents where
  unparsed hlow := by rw [hsame]; exact h.unparsed (hle.trans_lt hlow)
  regions hhigh := by rw [hsame]; exact h.regions (by omega)
  unextracted hlow := by rw [hsame]; exact h.unextracted (hle.trans_lt hlow)
  unindexed hlow := by rw [hsame]; exact h.unindexed (hle.trans_lt hlow)
  passages := by rw [hsame]; exact h.passages
  indexed hhigh := by rw [hsame]; exact h.indexed (by omega)

/-- **Every stage keeps the regions.** -/
theorem KeepsRegions.persist (h : KeepsRegions processor parsed provisioned state.stage state.contents)
    (hworld : ReadsAs parsed provisioned attempt.world)
    (hpersists : Persists processor state attempt toStage writes next) :
    KeepsRegions processor parsed provisioned next.stage next.contents := by
  obtain ⟨hparsed, hprovisioned⟩ := hworld
  obtain ⟨-, hnext, hstage, rfl⟩ := DocumentState.persist_eq_some.1 hpersists.persisted
  have hwritten := hpersists.written
  cases toStage with
  | registered => cases hnext
  | securityValidated | classified | readyForOfficerReview =>
    cases hwritten
    apply h.of_written <;> rcases hstage with hstage | hstage <;> simp [hstage, rank, previous]
  | parsed =>
    rw [Processor.writes, hparsed] at hwritten
    cases hwritten
    have hlow : rank state.stage < 4 := by rcases hstage with hstage | hstage <;> simp [hstage, rank, previous]
    constructor
    · intro habsurd
      simp [rank] at habsurd
    · intro _
      -- the regions are written to a table that is empty, or has them
      rcases hstage with hpre | hrepeated
      · exact congrArg (addAll PageRegion.id · _) (h.unparsed (by rw [hpre]; decide))
      · have hstored := h.regions (by rw [hrepeated]; decide)
        exact (congrArg (addAll PageRegion.id · _) hstored).trans (addAll_addAll [] _)
    · intro _
      exact h.unextracted hlow
    · intro _
      exact h.unindexed (by omega)
    · exact h.passages
    · intro habsurd
      simp [rank] at habsurd
  | extracted =>
    rw [Processor.writes, hparsed] at hwritten
    obtain ⟨candidates, -, rfl⟩ := Results.map_eq_ok hwritten
    have hbounds : 3 ≤ rank state.stage ∧ rank state.stage < 5 := by
      rcases hstage with hstage | hstage <;> simp [hstage, rank, previous]
    constructor
    · intro habsurd
      simp [rank] at habsurd
    · intro _
      exact h.regions (by omega)
    · intro habsurd
      simp [rank] at habsurd
    · intro _
      exact h.unindexed hbounds.2
    · exact h.passages
    · intro habsurd
      simp [rank] at habsurd
  | indexed =>
    rw [Processor.writes, hparsed] at hwritten
    obtain ⟨rows, hindex, rfl⟩ := Results.map_eq_ok hwritten
    have hbounds : 4 ≤ rank state.stage := by
      rcases hstage with hstage | hstage <;> simp [hstage, rank, previous]
    have hstored : (state.contents.insert { noContents with passages := rows }).passages =
        addAll RetrievalPassage.id state.contents.passages rows := rfl
    have hrows := index_cases hindex
    constructor
    · intro habsurd
      simp [rank] at habsurd
    · intro _
      exact h.regions (by omega)
    · intro habsurd
      simp [rank] at habsurd
    · intro habsurd
      simp [rank] at habsurd
    · rw [hstored]
      rcases hrows with ⟨-, rfl⟩ | hrows <;> rcases h.passages with hnone | ⟨old, hold, heq⟩
      · exact .inl hnone
      · exact .inr ⟨old, hold, heq⟩
      · exact .inr ⟨rows, hrows, by rw [hnone]⟩
      · exact .inr ⟨old, hold, by rw [heq, addAll_passages hold hrows]⟩
    · intro _ hroute
      rw [hstored]
      rcases hrows with ⟨hnone, -⟩ | hrows
      · exact absurd hnone (hprovisioned hroute)
      rcases h.passages with hnone | ⟨old, hold, heq⟩
      · exact ⟨rows, hrows, by rw [hnone]⟩
      · exact ⟨old, hold, by rw [heq, addAll_passages hold hrows]⟩

/-! ## Ready versions -/

variable {events : List Event} {s : IngestionSystem ι}

/-- **What a ready version has stored.** -/
theorem keepsRegions_of_run (hworlds : ∀ event ∈ events, event.Delivers (ReadsAs parsed provisioned))
    (hrun : run processor.ingest notStarted events = some s) :
    KeepsRegions processor parsed provisioned s.document.stage s.document.contents := by
  refine document_invariant ?_ KeepsRegions.persist hworlds hrun
  constructor
  · intro _
    rfl
  · intro habsurd
    simp [rank] at habsurd
  · intro _
    rfl
  · intro _
    rfl
  · exact .inl rfl
  · intro habsurd
    simp [rank] at habsurd

/-- **Regions in one place fall together.** A version keeps every region exactly when its regions stand in
different places. -/
theorem regionsStored_iff (hinj : Function.Injective processor.uuid5) {contents : Contents ι}
    (hregs : contents.regions =
      addAll PageRegion.id [] (regionRows processor.uuid5 processor.documentVersionId parsed)) :
    RegionsStored processor parsed contents ↔ parsed.places.Nodup := by
  have hids : (regionRows processor.uuid5 processor.documentVersionId parsed).map PageRegion.id =
      parsed.regions.map (regionId processor.uuid5 processor.documentVersionId) := by
    rw [regionRows, List.map_map]
    rfl
  constructor
  · intro hstored
    -- with a row for each region nothing was ignored
    have hlen : (addAll PageRegion.id []
        (regionRows processor.uuid5 processor.documentVersionId parsed)).length =
          (regionRows processor.uuid5 processor.documentVersionId parsed).length := by
      rw [← hregs, ← hstored.rows.length_eq, regionRows, List.length_map]
    have hnodup := length_addAll_nil_iff.1 hlen
    rw [regionRows_map_id] at hnodup
    exact hnodup.of_map
  · intro hplaces
    have hnodup := regionId_nodup hinj hplaces
    rw [addAll_nil_of_nodup (by rw [hids]; exact hnodup)] at hregs
    refine ⟨?_, by rw [hregs, hids]; exact hnodup⟩
    rw [hregs, regionRows, List.forall₂_map_right_iff, List.forall₂_same]
    intro region _
    exact ⟨rfl, rfl⟩

theorem passagesStored (hinj : Function.Injective processor.uuid5) (hplaces : parsed.places.Nodup)
    {contents : Contents ι} (hrows : PassagesOf processor parsed rows)
    (hpassages : contents.passages = addAll RetrievalPassage.id [] rows) :
    PassagesStored processor parsed contents := by
  have hregs := regionId_nodup hinj hplaces
  have hids : (rows.map RetrievalPassage.id).Nodup := by
    have hderived : rows.map RetrievalPassage.id =
        (parsed.regions.map (regionId processor.uuid5 processor.documentVersionId)).map
          (passageId processor.uuid5 processor.documentVersionId) := by
      rw [hrows.map_id, List.map_map]
      rfl
    rw [hderived]
    apply hregs.map
    intro region region' hsame
    have hname := hinj hsame
    rw [IdName.retrievalPassage.injEq] at hname
    exact hname.2
  rw [addAll_nil_of_nodup hids] at hpassages
  refine ⟨?_, by rw [hpassages, hrows.map_pageRegionId]; exact hregs⟩
  rw [hpassages]
  exact hrows.imp fun _ _ hrow => hrow.2

/-- **No region is lost where there is room.** An original whose regions have room is ready only with one row
for each of its regions, and with one passage for each, with its text, or with none at all; and not with none
when the embedding route is provisioned whenever an attempt asks it. -/
theorem regions_kept (processor : Processor ι) (hinj : Function.Injective processor.uuid5)
    {original : Original} {parsed : ParsedDocument} (happart : original.Apart)
    (hparse : original.parse = some parsed) {events : List Event}
    (hworlds : ∀ worker world, Event.deliver worker world ∈ events → world.parsed = original.parse)
    {s : IngestionSystem ι} (hrun : run processor.ingest notStarted events = some s)
    (hready : s.document.stage = .readyForOfficerReview) :
    RegionsStored processor parsed s.document.contents ∧
      (s.document.contents.passages = [] ∨ PassagesStored processor parsed s.document.contents) ∧
      ((∀ worker world, Event.deliver worker world ∈ events → world.embedding ≠ .notProvisioned) →
        PassagesStored processor parsed s.document.contents) := by
  have hplaces := Original.nodup_places happart hparse
  have hreads : ∀ event ∈ events, event.Delivers (ReadsAs parsed
      (∀ worker world, Event.deliver worker world ∈ events → world.embedding ≠ .notProvisioned)) := by
    rintro event hmem worker world rfl
    exact ⟨(hworlds worker world hmem).trans hparse, fun hall => hall worker world hmem⟩
  have hkept := keepsRegions_of_run hreads hrun
  have hrank : 5 ≤ rank s.document.stage := by rw [hready]; decide
  refine ⟨(regionsStored_iff hinj (hkept.regions (by omega))).2 hplaces, ?_, ?_⟩
  · rcases hkept.passages with hnone | ⟨rows, hrows, hstored⟩
    · exact .inl hnone
    · exact .inr (passagesStored hinj hplaces hrows hstored)
  · intro hall
    obtain ⟨rows, hrows, hstored⟩ := hkept.indexed hrank hall
    exact passagesStored hinj hplaces hrows hstored

end Rows

/-! ## A version ready without passages -/

/-- Ids that keep the name they are derived from. -/
inductive DerivedId where
  | pageRegion (documentVersionId : Uuid) (place : Place)
  | candidateFact (documentVersionId : Uuid) (pageRegionId : DerivedId) (fieldKey : String)
  | retrievalPassage (documentVersionId : Uuid) (pageRegionId : DerivedId)
deriving DecidableEq

/-- A hash without collisions. -/
def derivedId : IdName DerivedId → DerivedId
  | .pageRegion documentVersionId place => .pageRegion documentVersionId place
  | .candidateFact documentVersionId pageRegionId fieldKey =>
    .candidateFact documentVersionId pageRegionId fieldKey
  | .retrievalPassage documentVersionId pageRegionId => .retrievalPassage documentVersionId pageRegionId

theorem derivedId_injective : Function.Injective derivedId := by
  intro name name' h
  cases name <;> cases name' <;> cases h <;> rfl

/-- Case folding and digits as far as ASCII goes. -/
def asciiPlatform : Platform where
  casefold text := text.map Char.toLower
  isDigit c := c.isDigit
  acceptsVector vector := vector ≠ []

/-- A processor for one version. -/
def asciiProcessor : Processor DerivedId where
  uuid5 := derivedId
  platform := asciiPlatform
  expectedDimension := none
  documentVersionId := 7

/-- A request of two paragraphs. -/
def creditRequest : Original :=
  .docx ["So tien de nghi: 500.000.000", "Thoi han: 12 thang"]

/-- A sheet with text in its last two rows only, the fiftieth and the next. -/
def longSheet : Original :=
  .xlsx ["Vay von"] [List.replicate 49 [] ++ [["So tien", "500000000"], ["Thoi han", "12"]]]

/-- The amount, where the first paragraph stands. -/
def amountCandidate : ExtractionCandidate where
  fieldKey := "requested_amount"
  proposedValue := .integer 500000000
  confidence := 9 / 10
  place := docxPlace 0
  fits := by decide +kernel
  fieldKey_length := by decide
  confidence_bounded := by decide +kernel

/-- An attempt that reads a request, with an answer of the embedding route. -/
def requestWorld (request : Original) (embedding : EmbeddingAnswer) : World where
  original := .secured
  parsed := request.parse
  extraction := .answered true (some [amountCandidate])
  embedding

/-- One attempt from the delivery to the end. -/
def oneAttempt (world : World) : List Event :=
  .deliver 0 world :: List.replicate 13 (.work 0)

/-- Vectors for two regions. -/
def requestVectors : EmbeddingAnswer :=
  .answered true [[some (1 / 10)], [some (2 / 10)]] "embedding-gated-v1" "r1"

theorem regions_kept_creditRequest :
    ∃ parsed s, creditRequest.parse = some parsed ∧
      run asciiProcessor.ingest notStarted (oneAttempt (requestWorld creditRequest requestVectors)) = some s ∧
      RegionsStored asciiProcessor parsed s.document.contents ∧
      PassagesStored asciiProcessor parsed s.document.contents := by
  have hparse : creditRequest.parse.isSome = true := by decide +kernel
  have hrun : (run asciiProcessor.ingest notStarted (oneAttempt (requestWorld creditRequest requestVectors))).any
      (fun s => s.document.stage = .readyForOfficerReview) = true := by decide +kernel
  obtain ⟨parsed, hparsed⟩ := Option.isSome_iff_exists.1 hparse
  obtain ⟨s, hs, hready⟩ := (Option.any_eq_true _ _).1 hrun
  have hdelivered : ∀ worker world,
      Event.deliver worker world ∈ oneAttempt (requestWorld creditRequest requestVectors) →
        world = requestWorld creditRequest requestVectors := by
    intro worker world hmem
    have hpair : worker = 0 ∧ world = requestWorld creditRequest requestVectors := by simpa [oneAttempt] using hmem
    exact hpair.2
  have happart : creditRequest.Apart := by decide +kernel
  have hkept := regions_kept asciiProcessor derivedId_injective happart hparsed
    (fun worker world hmem => by rw [hdelivered worker world hmem]; rfl) hs (of_decide_eq_true hready)
  refine ⟨parsed, s, hparsed, hs, hkept.1, hkept.2.2 ?_⟩
  intro worker world hmem
  rw [hdelivered worker world hmem]
  rintro ⟨⟩

/-- Without an embedding route the request is ready without a passage, and the two rows of the long sheet
share a row of the table. -/
theorem regions_not_kept :
    (∃ parsed s, creditRequest.parse = some parsed ∧
      run asciiProcessor.ingest notStarted (oneAttempt (requestWorld creditRequest .notProvisioned)) =
        some s ∧
      s.document.stage = .readyForOfficerReview ∧
      ¬ PassagesStored asciiProcessor parsed s.document.contents) ∧
    ∃ parsed s, longSheet.parse = some parsed ∧
      run asciiProcessor.ingest notStarted (oneAttempt (requestWorld longSheet requestVectors)) =
        some s ∧
      s.document.stage = .readyForOfficerReview ∧
      ¬ RegionsStored asciiProcessor parsed s.document.contents := by
  constructor
  · have hparse : creditRequest.parse.any (fun parsed => parsed.regions.length = 2) = true := by
      decide +kernel
    have hrun : (run asciiProcessor.ingest notStarted
        (oneAttempt (requestWorld creditRequest .notProvisioned))).any (fun s =>
          s.document.stage = .readyForOfficerReview ∧ s.document.contents.passages = []) = true := by
      decide +kernel
    obtain ⟨parsed, hparsed, htwo⟩ := (Option.any_eq_true _ _).1 hparse
    obtain ⟨s, hs, hready⟩ := (Option.any_eq_true _ _).1 hrun
    obtain ⟨hstage, hnone⟩ := of_decide_eq_true hready
    refine ⟨parsed, s, hparsed, hs, hstage, ?_⟩
    intro hstored
    have hlen := hstored.rows.length_eq
    rw [hnone, of_decide_eq_true htwo] at hlen
    cases hlen
  · have hparse : longSheet.parse.any (fun parsed => parsed.regions.length = 2) = true := by
      decide +kernel
    have hrun : (run asciiProcessor.ingest notStarted
        (oneAttempt (requestWorld longSheet requestVectors))).any (fun s =>
          s.document.stage = .readyForOfficerReview ∧ s.document.contents.regions.length = 1) = true := by
      decide +kernel
    obtain ⟨parsed, hparsed, hmany⟩ := (Option.any_eq_true _ _).1 hparse
    obtain ⟨s, hs, hready⟩ := (Option.any_eq_true _ _).1 hrun
    obtain ⟨hstage, hrows⟩ := of_decide_eq_true hready
    refine ⟨parsed, s, hparsed, hs, hstage, ?_⟩
    intro hstored
    have hlen := hstored.rows.length_eq
    rw [hrows, of_decide_eq_true hmany] at hlen
    cases hlen

end CreditOps.Ingestion
