import CreditOps.Ingestion.RegionRows

/-!
# Whether kept candidates keep their grounding

A candidate is kept for the evidence in some region, its row refers to the first region its box meets, and
the id of the row is a hash of that region and the field. So the kept candidates of an extraction all have
rows of their own, referring to regions with the evidence they were kept for, exactly when no two of them
fill one field from one region, the first region a moved candidate meets has its value, and the database
takes their fields and values (`survives_iff`).
-/

set_option autoImplicit false

namespace CreditOps.Ingestion

open Transition KeyedTable
open Evidence (DocumentStage)

section Grounding

variable {ι : Type} (processor : Processor ι)

/-! ## What is to survive -/

/-- The candidates that are kept, each beside the one that was proposed. -/
def kept (platform : Platform) (regions : List ParsedRegion) (proposed : List ExtractionCandidate) :
    List (ExtractionCandidate × ExtractionCandidate) :=
  proposed.filterMap fun candidate => (validated platform regions candidate).map (candidate, ·)

/-- The region has the evidence the candidate was kept for: its box, or else its value in the text. -/
def HasEvidence (platform : Platform) (regions : List ParsedRegion) (candidate : ExtractionCandidate)
    (region : ParsedRegion) : Prop :=
  if regions.any candidate.meets then candidate.meets region = true
  else regionGrounding platform candidate.proposedValue region.text = true

/-- The row has the content of the candidate and refers to a stored region of its page; the region stored
in that place is one with the evidence. -/
structure Carries (parsed : ParsedDocument) (contents : Contents ι)
    (pair : ExtractionCandidate × ExtractionCandidate) (row : CandidateFact ι) : Prop where
  fieldKey : row.fieldKey = pair.1.fieldKey
  proposedValue : row.proposedValue = pair.1.proposedValue
  confidence : row.confidence = pair.1.confidence
  grounded : ∃ stored ∈ contents.regions, stored.id = row.pageRegionId ∧
    stored.place.page = pair.2.place.page ∧
    ∃ region, parsed.regions.find? (·.place = stored.place) = some region ∧
      HasEvidence processor.platform parsed.regions pair.1 region

/-- Every kept candidate has a row of its own that carries it. -/
def Survives (parsed : ParsedDocument) (proposed : List ExtractionCandidate) (contents : Contents ι) :
    Prop :=
  List.Forall₂ (Carries processor parsed contents) (kept processor.platform parsed.regions proposed)
    contents.candidates

/-- The candidate's place among the rows: the place of the first region it meets, and its field. -/
def slot (parsed : ParsedDocument) (candidate : ExtractionCandidate) : Option Place × String :=
  ((parsed.regions.find? candidate.meets).map (·.place), candidate.fieldKey)

/-- The kept candidates have slots of their own, the first region a moved one meets has its value, and the
database takes them. -/
structure Survivable (platform : Platform) (parsed : ParsedDocument) (proposed : List ExtractionCandidate) :
    Prop where
  apart : ((kept platform parsed.regions proposed).map fun pair => slot parsed pair.2).Nodup
  found : ∀ pair ∈ kept platform parsed.regions proposed, parsed.regions.any pair.1.meets = false →
    ∀ region, parsed.regions.find? pair.2.meets = some region →
      regionGrounding platform pair.1.proposedValue region.text = true
  storable : ∀ pair ∈ kept platform parsed.regions proposed,
    filled pair.1.fieldKey = true ∧ storableText pair.1.fieldKey = true ∧
      pair.1.proposedValue.storable = true

/-- The transaction of the extraction stage, on the candidates that are kept. -/
def Processor.persistKept [DecidableEq ι] (state : DocumentState ι) (parsed : ParsedDocument)
    (accepted : List ExtractionCandidate) : Option (DocumentState ι) :=
  (candidateRows processor.uuid5 processor.documentVersionId (extractionMethod parsed.contentType) parsed
    accepted).bind fun rows =>
      state.persistCandidates processor.platform.acceptsVector rows .classified .extracted

/-! ## The rows of kept candidates -/

variable {processor} {platform : Platform} {parsed : ParsedDocument} {regions : List ParsedRegion}
  {proposed accepted : List ExtractionCandidate} {pair : ExtractionCandidate × ExtractionCandidate}

theorem map_kept : (kept platform regions proposed).map Prod.snd =
    proposed.filterMap (validated platform regions) := by
  rw [kept, List.map_filterMap]
  congr
  funext candidate
  cases validated platform regions candidate <;> rfl

theorem validated_of_kept (h : pair ∈ kept platform regions proposed) :
    validated platform regions pair.1 = some pair.2 := by
  obtain ⟨_, -, hvalidated⟩ := List.mem_filterMap.1 h
  obtain ⟨_, hkept, rfl⟩ := Option.map_eq_some_iff.1 hvalidated
  exact hkept

theorem content_of_kept (h : pair ∈ kept platform regions proposed) :
    pair.2.fieldKey = pair.1.fieldKey ∧ pair.2.proposedValue = pair.1.proposedValue ∧
      pair.2.confidence = pair.1.confidence := by
  rcases validated_cases (validated_of_kept h) with ⟨-, hsame⟩ | ⟨_, -, -, hmoved⟩
  · rw [hsame]
    exact ⟨rfl, rfl, rfl⟩
  · rw [hmoved]
    exact ⟨rfl, rfl, rfl⟩

/-- The first element with a property is the first with any stronger property it has. -/
theorem find?_of_imp {α : Type} {p q : α → Bool} {a : α} :
    ∀ {l : List α}, l.find? p = some a → q a = true → (∀ x, q x = true → p x = true) →
      l.find? q = some a := by
  intro l
  induction l with
  | nil =>
    intro h
    cases h
  | cons x _ ih =>
    intro h hq himp
    rw [List.find?_cons] at h ⊢
    cases hx : p x with
    | true =>
      rw [hx] at h
      cases h
      rw [hq]
    | false =>
      rw [hx] at h
      have hqx : q x = false := by
        by_contra hne
        have hpx := himp x (by simpa using hne)
        rw [hx] at hpx
        cases hpx
      rw [hqx]
      exact ih h hq himp

theorem find?_place {candidate : ExtractionCandidate} {region : ParsedRegion}
    (h : regions.find? candidate.meets = some region) :
    regions.find? (·.place = region.place) = some region := by
  apply find?_of_imp h (decide_eq_true rfl)
  intro other hplace
  have hmeets := List.find?_some h
  rw [ExtractionCandidate.meets] at hmeets ⊢
  rw [of_decide_eq_true hplace]
  exact hmeets

/-- The row of a kept candidate refers to the first region it meets. -/
def RowOf (processor : Processor ι) (parsed : ParsedDocument) (candidate : ExtractionCandidate)
    (row : CandidateFact ι) : Prop :=
  ∃ region, parsed.regions.find? candidate.meets = some region ∧
    row = candidateRow processor.uuid5 processor.documentVersionId (extractionMethod parsed.contentType)
      candidate region

/-- **Every kept candidate meets a region, so none sends the version to manual review.** -/
theorem exists_candidateRows :
    ∃ rows, candidateRows processor.uuid5 processor.documentVersionId
        (extractionMethod parsed.contentType) parsed
        (proposed.filterMap (validated platform parsed.regions)) = some rows ∧
      List.Forall₂ (fun pair row => RowOf processor parsed pair.2 row)
        (kept platform parsed.regions proposed) rows := by
  have hrows : ∀ candidate ∈ proposed.filterMap (validated platform parsed.regions),
      ∃ region, parsed.regions.find? candidate.meets = some region := by
    intro candidate hmem
    obtain ⟨_, -, hvalidated⟩ := List.mem_filterMap.1 hmem
    obtain ⟨region, hreg, hmeets⟩ := exists_meets_of_validated hvalidated
    rw [← Option.isSome_iff_exists, List.find?_isSome]
    exact ⟨region, hreg, hmeets⟩
  rw [← map_kept] at hrows ⊢
  generalize kept platform parsed.regions proposed = pairs at hrows ⊢
  simp only [candidateRows, Results.mapM_eq_some, List.forall₂_map_left_iff]
  induction pairs with
  | nil => exact ⟨[], List.Forall₂.nil, List.Forall₂.nil⟩
  | cons pair _ ih =>
    obtain ⟨region, hreg⟩ := hrows pair.2 (by simp)
    obtain ⟨rows, hmapped, hrowsOf⟩ := ih fun candidate hmem =>
      hrows candidate (List.mem_cons_of_mem _ hmem)
    refine ⟨_ :: rows, .cons ?_ hmapped, .cons ⟨region, hreg, rfl⟩ hrowsOf⟩
    rw [hreg, Option.map_some]

theorem forall₂_and {α β : Type} {R S : α → β → Prop} {xs : List α} {ys : List β}
    (hR : List.Forall₂ R xs ys) (hS : List.Forall₂ S xs ys) :
    List.Forall₂ (fun x y => R x y ∧ S x y) xs ys := by
  induction hR with
  | nil => exact .nil
  | cons hxy _ ih =>
    cases hS with
    | cons hxy' hrest => exact .cons ⟨hxy, hxy'⟩ (ih hrest)

theorem forall₂_imp_of_mem {α β : Type} {R S : α → β → Prop} {xs : List α} {ys : List β}
    (hR : List.Forall₂ R xs ys) (h : ∀ x ∈ xs, ∀ y, R x y → S x y) : List.Forall₂ S xs ys := by
  induction hR with
  | nil => exact .nil
  | cons hxy _ ih =>
    obtain ⟨hfirst, hrest⟩ := List.forall_mem_cons.1 h
    exact .cons (hfirst _ hxy) (ih hrest)

/-- The id a slot is hashed to. -/
def slotId (processor : Processor ι) (place : Option Place × String) : Option ι :=
  place.1.map fun region => candidateId processor.uuid5 processor.documentVersionId
    (processor.uuid5 (.pageRegion processor.documentVersionId region)) place.2

/-- **Rows have one id exactly when their candidates have one slot.** -/
theorem nodup_ids_iff (hinj : Function.Injective processor.uuid5)
    {pairs : List (ExtractionCandidate × ExtractionCandidate)} {rows : List (CandidateFact ι)}
    (hrows : List.Forall₂ (fun pair row => RowOf processor parsed pair.2 row) pairs rows) :
    (rows.map CandidateFact.id).Nodup ↔ (pairs.map fun pair => slot parsed pair.2).Nodup := by
  have hids : rows.map (fun row => some row.id) =
      pairs.map fun pair => slotId processor (slot parsed pair.2) := by
    apply Results.map_eq_of_forall₂ hrows
    rintro _ _ ⟨_, hreg, rfl⟩
    rw [slotId, slot, hreg]
    rfl
  have hsome : (rows.map CandidateFact.id).Nodup ↔ (rows.map fun row => some row.id).Nodup := by
    rw [← List.nodup_map_iff (Option.some_injective ι), List.map_map]
    rfl
  have hcomposed : pairs.map (fun pair => slotId processor (slot parsed pair.2)) =
      (pairs.map fun pair => slot parsed pair.2).map (slotId processor) := by
    rw [List.map_map]
    rfl
  rw [hsome, hids, hcomposed]
  constructor
  · intro hnodup
    exact hnodup.of_map
  · intro hnodup
    -- every kept candidate meets a region, so its slot has an id
    have hplace : ∀ place ∈ pairs.map (fun pair => slot parsed pair.2), ∃ region,
        place.1 = some region := by
      intro place hmem
      obtain ⟨_, hpair, rfl⟩ := List.mem_map.1 hmem
      obtain ⟨_, -, region, hreg, -⟩ := Results.exists_right_of_mem hrows hpair
      exact ⟨region.place, by rw [slot, hreg]; rfl⟩
    refine List.Nodup.map_on ?_ hnodup
    rintro ⟨_, _⟩ hmem ⟨_, _⟩ hmem' hsame
    obtain ⟨_, hreg⟩ := hplace _ hmem
    obtain ⟨_, hreg'⟩ := hplace _ hmem'
    dsimp only at hreg hreg'
    subst hreg hreg'
    have hname := hinj (Option.some.inj hsame)
    rw [IdName.candidateFact.injEq] at hname
    obtain ⟨-, hplaces, rfl⟩ := hname
    have hplaceName := hinj hplaces
    rw [IdName.pageRegion.injEq] at hplaceName
    rw [hplaceName.2]

/-! ## Extractions of a classified version -/

variable [DecidableEq ι] {contents : Contents ι} {candidate : ExtractionCandidate} {row : CandidateFact ι}
  {region : ParsedRegion} {stored : PageRegion ι}

theorem place_of_id (hinj : Function.Injective processor.uuid5)
    (hregs : contents.regions =
      addAll PageRegion.id [] (regionRows processor.uuid5 processor.documentVersionId parsed))
    (hstored : stored ∈ contents.regions)
    (hid : stored.id = regionId processor.uuid5 processor.documentVersionId region) :
    stored.place = region.place := by
  rw [hregs] at hstored
  obtain ⟨_, -, rfl⟩ := List.mem_map.1 (mem_of_mem_addAll_nil hstored)
  have hname := hinj hid
  rw [IdName.pageRegion.injEq] at hname
  exact hname.2

/-- The region a candidate's row refers to is stored, on the candidate's page. -/
theorem exists_stored (hinj : Function.Injective processor.uuid5)
    (hregs : contents.regions =
      addAll PageRegion.id [] (regionRows processor.uuid5 processor.documentVersionId parsed))
    (hreg : parsed.regions.find? candidate.meets = some region) :
    ∃ stored ∈ contents.regions,
      stored.id = regionId processor.uuid5 processor.documentVersionId region ∧
      stored.place = region.place ∧ stored.place.page = candidate.place.page := by
  have hmem : regionRow processor.uuid5 processor.documentVersionId parsed.extractionMethod region ∈
      regionRows processor.uuid5 processor.documentVersionId parsed :=
    List.mem_map_of_mem (List.mem_of_find?_eq_some hreg)
  have hkey : ∃ stored ∈ addAll PageRegion.id []
      (regionRows processor.uuid5 processor.documentVersionId parsed),
      stored.id = regionId processor.uuid5 processor.documentVersionId region := exists_key_of_mem hmem
  obtain ⟨stored, hstored, hid⟩ := hkey
  rw [← hregs] at hstored
  have hplace := place_of_id hinj hregs hstored hid
  have hmeets := List.find?_some hreg
  rw [ExtractionCandidate.meets, Place.overlaps, decide_eq_true_eq] at hmeets
  exact ⟨stored, hstored, hid, hplace, by rw [hplace, hmeets.1]⟩

/-- **When a row carries its candidate.** -/
theorem carries_iff (hinj : Function.Injective processor.uuid5)
    (hregs : contents.regions =
      addAll PageRegion.id [] (regionRows processor.uuid5 processor.documentVersionId parsed))
    (hpair : pair ∈ kept processor.platform parsed.regions proposed)
    (hrow : RowOf processor parsed pair.2 row) :
    Carries processor parsed contents pair row ↔
      (parsed.regions.any pair.1.meets = false → ∀ region,
        parsed.regions.find? pair.2.meets = some region →
          regionGrounding processor.platform pair.1.proposedValue region.text = true) := by
  obtain ⟨region, hreg, rfl⟩ := hrow
  obtain ⟨hfield, hvalue, hconfidence⟩ := content_of_kept hpair
  constructor
  · intro hcarries hmeetsNone other hother
    cases hreg.symm.trans hother
    obtain ⟨_, hstored, hid, -, _, hfound, hevid⟩ := hcarries.grounded
    rw [place_of_id hinj hregs hstored hid, find?_place hreg] at hfound
    cases hfound
    rw [HasEvidence, if_neg (by simp [hmeetsNone])] at hevid
    exact hevid
  · intro hfound
    obtain ⟨stored, hstored, hid, hplace, hpage⟩ := exists_stored hinj hregs hreg
    refine ⟨hfield, hvalue, hconfidence, stored, hstored, hid, hpage, region, ?_, ?_⟩
    · rw [hplace]
      exact find?_place hreg
    · rw [HasEvidence]
      split
      · -- a candidate that meets a region is kept where it is
        rename_i hmeets
        rcases validated_cases (validated_of_kept hpair) with ⟨-, hsame⟩ | ⟨_, hnone, -, -⟩
        · rw [← hsame]
          exact List.find?_some hreg
        · rw [hmeets] at hnone
          cases hnone
      · rename_i hmeets
        exact hfound (by simpa using hmeets) region hreg

end Grounding

/-! ## Two amounts in one paragraph -/

/-- Another value for the same field, found in the same paragraph. -/
def otherAmount : ExtractionCandidate :=
  { amountCandidate with proposedValue := .integer 500 }

/-- An attempt up to the classified version. -/
def classifiedRequest : List Event :=
  .deliver 0 (requestWorld creditRequest requestVectors) :: List.replicate 6 (.work 0)

theorem deliver_classifiedRequest {worker : Nat} {world : World}
    (h : Event.deliver worker world ∈ classifiedRequest) : world.parsed = creditRequest.parse := by
  have hpair : worker = 0 ∧ world = requestWorld creditRequest requestVectors := by
    simpa [classifiedRequest] using h
  rw [hpair.2]
  rfl

end CreditOps.Ingestion
