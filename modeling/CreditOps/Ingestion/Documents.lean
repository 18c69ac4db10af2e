import Mathlib.Data.List.Nodup
import Mathlib.Tactic.Linarith
import CreditOps.Domain.Text
import CreditOps.Library.Results

/-!
# Parsed documents

A parsed document is a list of text regions, each at a place of its page (`ParsedRegion`,
`ParsedDocument`). The parsers give every region a place by its position: a Word document has one page on
which paragraphs stand below each other, a workbook a page for each sheet and a line for each row, a PDF
one region for each page. Past the bottom of the page paragraphs and rows stand in one place, so the
regions of a document stand in different places exactly when the document is short enough
(`nodup_places_iff`).
-/

set_option autoImplicit false

namespace CreditOps.Ingestion

/-! ## Regions -/

/-- The page of a region and its box on the page. -/
structure Place where
  page : Nat
  x : ℚ
  y : ℚ
  width : ℚ
  height : ℚ
deriving DecidableEq

/-- The field constraints of a region and `fits_page`. -/
def Place.Fits (place : Place) : Prop :=
  1 ≤ place.page ∧ (0 ≤ place.x ∧ place.x ≤ 1) ∧ (0 ≤ place.y ∧ place.y ≤ 1) ∧
    (0 < place.width ∧ place.width ≤ 1) ∧ (0 < place.height ∧ place.height ≤ 1) ∧
      place.x + place.width ≤ 1 ∧ place.y + place.height ≤ 1

instance (place : Place) : Decidable place.Fits :=
  inferInstanceAs (Decidable (_ ∧ _))

/-- `_overlaps`: one page, and boxes that meet. -/
def Place.overlaps (candidate region : Place) : Bool :=
  candidate.page = region.page ∧
    candidate.x < region.x + region.width ∧ candidate.x + candidate.width > region.x ∧
      candidate.y < region.y + region.height ∧ candidate.y + candidate.height > region.y

variable {place : Place}

theorem Place.overlaps_self (h : place.Fits) : place.overlaps place = true := by
  obtain ⟨-, -, -, ⟨hwidth, -⟩, ⟨hheight, -⟩, -⟩ := h
  simp only [Place.overlaps, decide_eq_true_eq, gt_iff_lt, lt_add_iff_pos_right, true_and]
  exact ⟨hwidth, hwidth, hheight, hheight⟩

/-- `ParsedRegion` -/
structure ParsedRegion where
  place : Place
  text : String
  fits : place.Fits
  text_length : 1 ≤ text.length ∧ text.length ≤ 100000

instance : DecidableEq ParsedRegion := fun a b =>
  decidable_of_iff (a.place = b.place ∧ a.text = b.text) <| by
    obtain ⟨_, _, -, -⟩ := a
    obtain ⟨_, _, -, -⟩ := b
    rw [ParsedRegion.mk.injEq]

/-- The validation of a region; `none` is a validation error. -/
def parsedRegion (place : Place) (text : String) : Option ParsedRegion :=
  if h : place.Fits ∧ 1 ≤ text.length ∧ text.length ≤ 100000 then some ⟨place, text, h.1, h.2⟩
  else none

/-- The content types the security stage lets through. -/
inductive ContentType where
  | pdf
  | docx
  | xlsx
  | jpeg
  | png
deriving DecidableEq

/-- The characters of all regions. -/
def textSize (regions : List ParsedRegion) : Nat :=
  (regions.map fun region => region.text.length).sum

/-- `ParsedDocument`, with `bounded_regions` -/
structure ParsedDocument where
  contentType : ContentType
  regions : List ParsedRegion
  extractionMethod : String
  bounded_regions : regions.length ≤ 50000 ∧ textSize regions ≤ 2000000

/-- The validation of a document; `none` is a validation error. -/
def parsedDocument (contentType : ContentType) (regions : List ParsedRegion)
    (extractionMethod : String) : Option ParsedDocument :=
  if h : regions.length ≤ 50000 ∧ textSize regions ≤ 2000000 then
    some ⟨contentType, regions, extractionMethod, h⟩
  else none

/-- The places of the regions, in their order. -/
def ParsedDocument.places (document : ParsedDocument) : List Place :=
  document.regions.map (·.place)

/-! ## The parsers -/

/-- `text[:limit]` -/
def truncate (limit : Nat) (text : String) : String :=
  String.ofList (text.toList.take limit)

/-- The place of paragraph `i` of a Word document. -/
def docxPlace (i : Nat) : Place where
  page := 1
  x := 0
  y := min (i * (5 / 100)) (95 / 100)
  width := 1
  height := 4 / 100

/-- The place of row `rowIndex` of a sheet; rows are counted from one, empty ones included. -/
def xlsxPlace (sheetIndex rowIndex : Nat) : Place where
  page := sheetIndex
  x := 0
  y := min (((rowIndex : ℚ) - 1) * (2 / 100)) (98 / 100)
  width := 1
  height := 15 / 1000

/-- The whole of a page. -/
def wholePage (number : Nat) : Place where
  page := number
  x := 0
  y := 0
  width := 1
  height := 1

/-- What the archive, XML and PDF readers find in an original: the texts of the paragraphs, the cell
values of the rows of each sheet, the texts of the pages. -/
inductive Original where
  | docx (paragraphs : List String)
  | xlsx (sheetNames : List String) (sheets : List (List (List String)))
  | pdf (pages : List String)
  | jpeg
  | png
deriving DecidableEq

/-- The paragraphs with text in them. -/
def docxTexts (paragraphs : List String) : List String :=
  (paragraphs.map strip).filter (· ≠ "")

/-- The text of a row: the cells with a value. -/
def rowText (values : List String) : String :=
  " | ".intercalate (values.filter (· ≠ ""))

/-- The rows of a sheet with text in them, with their numbers. -/
def sheetRows (rows : List (List String)) : List (String × Nat) :=
  ((rows.map rowText).zipIdx 1).filter fun row => row.1 ≠ ""

/-- The label of a sheet. -/
def sheetLabel (sheetNames : List String) (sheetIndex : Nat) : String :=
  if sheetIndex ≤ sheetNames.length then sheetNames.getD (sheetIndex - 1) "Sheet" else "Sheet"

/-- The places and texts of the rows of a workbook. -/
def xlsxLines (sheetNames : List String) (sheets : List (List (List String))) :
    List (Place × String) :=
  (sheets.zipIdx 1).flatMap fun (rows, sheetIndex) =>
    (sheetRows rows).map fun (text, rowIndex) =>
      (xlsxPlace sheetIndex rowIndex,
        sheetLabel sheetNames sheetIndex ++ " row " ++ toString rowIndex ++ ": " ++ text)

/-- The pages with text in them, with their numbers. -/
def pdfPages (pages : List String) : List (String × Nat) :=
  ((pages.map strip).zipIdx 1).filter fun page => page.1 ≠ ""

/-- `ImageParser`: the text that stands for a picture. -/
def pictureText : String :=
  "[Hình ảnh chưa có văn bản trích xuất; cần kiểm tra thị giác]"

/-- The places and texts of the regions, before the limits of the parsers. -/
def Original.lines : Original → List (Place × String)
  | .docx paragraphs => ((docxTexts paragraphs).take 2000).zipIdx.map fun (text, i) => (docxPlace i, text)
  | .xlsx sheetNames sheets => xlsxLines sheetNames sheets
  | .pdf pages => (pdfPages pages).map fun (text, number) => (wholePage number, text)
  | .jpeg | .png => [(wholePage 1, pictureText)]

/-- The content type of an original. -/
def Original.contentType : Original → ContentType
  | .docx _ => .docx
  | .xlsx _ _ => .xlsx
  | .pdf _ => .pdf
  | .jpeg => .jpeg
  | .png => .png

/-- The extraction method a parser reports. -/
def Original.extractionMethod : Original → String
  | .docx _ => "docx-xml-v1"
  | .xlsx _ _ => "xlsx-xml-v1"
  | .pdf _ => "pypdf-text-v1"
  | .jpeg | .png => "image-metadata-v1"

/-- The regions a parser builds. A workbook is cut off after 50 000 of them. -/
def Original.regions (original : Original) : Option (List ParsedRegion) :=
  (original.lines.mapM fun (place, text) => parsedRegion place (truncate 100000 text)).map
    fun regions : List ParsedRegion =>
      match original with
      | .xlsx _ _ => regions.take 50000
      | _ => regions

/-- `DocxParser.parse`, `XlsxParser.parse`, `PdfParser.parse`, `ImageParser.parse` -/
def Original.parse (original : Original) : Option ParsedDocument :=
  original.regions.bind fun regions =>
    parsedDocument original.contentType regions original.extractionMethod

/-! ## Where regions stand -/

section Apart

variable {κ : Type} {bottom : Nat}

/-- Numbers that fall together from `bottom` on stay apart when at most one of them is that large. -/
theorem nodup_map_iff (f : Nat → κ) (hf : ∀ {a b}, f a = f b ↔ a = b ∨ (bottom ≤ a ∧ bottom ≤ b)) {l : List Nat}
    (hl : l.Nodup) : (l.map f).Nodup ↔ (l.filter (bottom ≤ ·)).length ≤ 1 := by
  constructor
  · intro hnodup
    -- two numbers past the bottom would be two equal entries
    rcases hlow : l.filter (bottom ≤ ·) with _ | ⟨a, _ | ⟨b, rest⟩⟩
    · simp
    · simp
    · have hsub : [a, b].Sublist l := by
        have : [a, b].Sublist (l.filter (bottom ≤ ·)) := by
          rw [hlow]
          exact List.Sublist.cons_cons a (List.Sublist.cons_cons b (List.nil_sublist rest))
        exact this.trans List.filter_sublist
      have hpast : ∀ c ∈ l.filter (bottom ≤ ·), bottom ≤ c := by
        intro c hc
        simpa using (List.mem_filter.1 hc).2
      have heq : f a = f b := hf.2 (.inr ⟨hpast a (by simp [hlow]), hpast b (by simp [hlow])⟩)
      have htwo := (hsub.map f).nodup hnodup
      simp [heq] at htwo
  · intro hlen
    rw [List.nodup_map_iff_inj_on hl]
    intro a ha b hb hab
    rcases hf.1 hab with hsame | ⟨hpast, hpast'⟩
    · exact hsame
    · have ha' : a ∈ l.filter (bottom ≤ ·) := List.mem_filter.2 ⟨ha, decide_eq_true hpast⟩
      have hb' : b ∈ l.filter (bottom ≤ ·) := List.mem_filter.2 ⟨hb, decide_eq_true hpast'⟩
      rcases hlow : l.filter (bottom ≤ ·) with _ | ⟨c, _ | ⟨d, _⟩⟩
      · simp [hlow] at ha'
      · rw [hlow, List.mem_singleton] at ha' hb'
        rw [ha', hb']
      · simp [hlow] at hlen

end Apart

variable {i j sheetIndex : Nat}

/-- Heights that grow with the position and are cut off at the bottom of the page. -/
theorem min_eq_min_iff (height : Nat → ℚ) (clamp : ℚ) {bottom : Nat} (hinj : Function.Injective height)
    (hclamp : ∀ n, height n < clamp ↔ n < bottom) :
    min (height i) clamp = min (height j) clamp ↔ i = j ∨ (bottom ≤ i ∧ bottom ≤ j) := by
  have hpast : ∀ {n}, bottom ≤ n → min (height n) clamp = clamp := by
    intro n hn
    exact min_eq_right (not_lt.1 (mt (hclamp n).1 (not_lt.2 hn)))
  have habove : ∀ {n}, n < bottom → min (height n) clamp = height n ∧ height n < clamp := by
    intro n hn
    have hlt := (hclamp n).2 hn
    exact ⟨min_eq_left hlt.le, hlt⟩
  rcases lt_or_ge i bottom with hi | hi <;> rcases lt_or_ge j bottom with hj | hj
  · rw [(habove hi).1, (habove hj).1, hinj.eq_iff]
    omega
  · rw [(habove hi).1, hpast hj]
    exact iff_of_false (habove hi).2.ne (by omega)
  · rw [hpast hi, (habove hj).1]
    exact iff_of_false (habove hj).2.ne' (by omega)
  · rw [hpast hi, hpast hj]
    exact iff_of_true rfl (.inr ⟨hi, hj⟩)

theorem docxPlace_eq_iff :
    docxPlace i = docxPlace j ↔ i = j ∨ (19 ≤ i ∧ 19 ≤ j) := by
  rw [← min_eq_min_iff (fun n => (n : ℚ) * (5 / 100)) (95 / 100)]
  · simp [docxPlace]
  · intro a b hab
    have : (a : ℚ) = b := by simpa using hab
    exact_mod_cast this
  · intro n
    rw [← Nat.cast_lt (α := ℚ)]
    constructor <;> intro h <;> push_cast at * <;> linarith

theorem xlsxPlace_eq_iff {rowIndex rowIndex' : Nat} :
    xlsxPlace sheetIndex rowIndex = xlsxPlace sheetIndex rowIndex' ↔
      rowIndex = rowIndex' ∨ (50 ≤ rowIndex ∧ 50 ≤ rowIndex') := by
  rw [← min_eq_min_iff (fun n => ((n : ℚ) - 1) * (2 / 100)) (98 / 100)]
  · simp [xlsxPlace]
  · intro a b hab
    have : (a : ℚ) = b := by simpa using hab
    exact_mod_cast this
  · intro n
    rw [← Nat.cast_lt (α := ℚ)]
    constructor <;> intro h <;> push_cast at * <;> linarith

/-- The regions of an original have room: at most twenty paragraphs, and no sheet with two rows of text
past its fiftieth line. -/
def Original.Apart : Original → Prop
  | .docx paragraphs => (docxTexts paragraphs).length ≤ 20
  | .xlsx _ sheets =>
    ∀ rows ∈ sheets, ((sheetRows rows).filter fun row => 50 ≤ row.2).length ≤ 1
  | .pdf _ | .jpeg | .png => True

instance (original : Original) : Decidable original.Apart :=
  match original with
  | .docx _ => inferInstanceAs (Decidable (_ ≤ _))
  | .xlsx _ sheets =>
    inferInstanceAs (Decidable (∀ rows ∈ sheets, ((sheetRows rows).filter _).length ≤ 1))
  | .pdf _ | .jpeg | .png => isTrue trivial

theorem nodup_zipIdx_filter {α : Type} (l : List α) (start : Nat) (p : α × Nat → Bool) :
    (((l.zipIdx start).filter p).map Prod.snd).Nodup := by
  have hall : ((l.zipIdx start).map Prod.snd).Nodup := by
    rw [List.zipIdx_map_snd]
    exact List.nodup_range'
  exact (List.filter_sublist.map Prod.snd).nodup hall

theorem nodup_sheet_iff {rows : List (List String)} :
    ((sheetRows rows).map fun row => xlsxPlace sheetIndex row.2).Nodup ↔
      ((sheetRows rows).filter fun row => 50 ≤ row.2).length ≤ 1 := by
  have hindices : ((sheetRows rows).map Prod.snd).Nodup := nodup_zipIdx_filter _ 1 _
  have hfilter : (((sheetRows rows).map Prod.snd).filter (50 ≤ ·)).length =
      ((sheetRows rows).filter fun row => 50 ≤ row.2).length := by
    rw [List.filter_map, List.length_map]
    rfl
  rw [← hfilter, ← nodup_map_iff (xlsxPlace sheetIndex) xlsxPlace_eq_iff hindices, List.map_map]
  rfl

/-- **The regions of an original stand in different places exactly when they have room.** -/
theorem nodup_lines_iff (original : Original) :
    (original.lines.map Prod.fst).Nodup ↔ original.Apart := by
  cases original with
  | docx paragraphs =>
    have hplaces : ((Original.docx paragraphs).lines.map Prod.fst) =
        (List.range ((docxTexts paragraphs).take 2000).length).map docxPlace := by
      rw [Original.lines, List.map_map, List.range_eq_range', ← List.zipIdx_map_snd 0, List.map_map]
      rfl
    have hpast : ∀ n, ((List.range n).filter (19 ≤ ·)).length = n - 19 := by
      intro n
      induction n with
      | zero => rfl
      | succ n ih =>
        rw [List.range_succ, List.filter_append, List.length_append, ih, List.filter_singleton]
        by_cases hn : 19 ≤ n <;> simp [hn] <;> omega
    rw [hplaces, nodup_map_iff docxPlace docxPlace_eq_iff List.nodup_range, hpast, List.length_take,
      Original.Apart]
    omega
  | xlsx sheetNames sheets =>
    have hplaces : (Original.xlsx sheetNames sheets).lines.map Prod.fst =
        (sheets.zipIdx 1).flatMap fun sheet =>
          (sheetRows sheet.1).map fun row => xlsxPlace sheet.2 row.2 := by
      rw [Original.lines, xlsxLines, List.map_flatMap]
      simp only [List.map_map, Function.comp_def]
    -- rows of different sheets stand on different pages
    have hapart : (sheets.zipIdx 1).Pairwise fun sheet sheet' => List.Disjoint
        ((sheetRows sheet.1).map fun row => xlsxPlace sheet.2 row.2)
        ((sheetRows sheet'.1).map fun row => xlsxPlace sheet'.2 row.2) := by
      have hindices : ((sheets.zipIdx 1).map Prod.snd).Nodup := by
        rw [List.zipIdx_map_snd]
        exact List.nodup_range'
      refine (List.pairwise_map.1 hindices).imp ?_
      intro sheet sheet' hne place hplace hplace'
      obtain ⟨_, -, rfl⟩ := List.mem_map.1 hplace
      obtain ⟨_, -, hrow'⟩ := List.mem_map.1 hplace'
      exact hne (congrArg Place.page hrow').symm
    rw [hplaces, List.nodup_flatMap, Original.Apart, and_iff_left hapart]
    constructor
    · intro h rows hrows
      obtain ⟨i, hi, hget⟩ := List.mem_iff_getElem.1 hrows
      have hsheet : (rows, 1 + i) ∈ sheets.zipIdx 1 := by
        rw [List.mk_mem_zipIdx_iff_le_and_getElem?_sub]
        exact ⟨by omega, by simp [← hget, hi]⟩
      exact nodup_sheet_iff.1 (h _ hsheet)
    · intro h sheet hsheet
      exact nodup_sheet_iff.2 (h _ (List.fst_mem_of_mem_zipIdx hsheet))
  | pdf pages =>
    have hnumbers : ((pdfPages pages).map Prod.snd).Nodup := nodup_zipIdx_filter _ 1 _
    have hplaces : (Original.pdf pages).lines.map Prod.fst =
        ((pdfPages pages).map Prod.snd).map wholePage := by
      rw [Original.lines, List.map_map, List.map_map]
      rfl
    have hinj : Function.Injective wholePage := fun a b hab => congrArg Place.page hab
    rw [hplaces, List.nodup_map_iff hinj]
    exact iff_of_true hnumbers trivial
  | jpeg | png => exact iff_of_true (List.nodup_singleton _) trivial

theorem parsedRegion_eq_some {text : String} {region : ParsedRegion}
    (h : parsedRegion place text = some region) : region.place = place ∧ region.text = text := by
  rw [parsedRegion] at h
  split at h
  · cases h
    exact ⟨rfl, rfl⟩
  · cases h

variable {document : ParsedDocument}

theorem parsedDocument_eq_some {contentType : ContentType} {regions : List ParsedRegion}
    {extractionMethod : String} (h : parsedDocument contentType regions extractionMethod = some document) :
    document.regions = regions := by
  rw [parsedDocument] at h
  split at h
  · cases h
    rfl
  · cases h

variable {original : Original}

/-- The parsed regions are the lines of the original, as far as the parser goes. -/
theorem Original.places_sublist (h : original.parse = some document) :
    document.places.Sublist (original.lines.map Prod.fst) := by
  obtain ⟨_, hregs, hdoc⟩ := Option.bind_eq_some_iff.1 h
  obtain ⟨all, hall, rfl⟩ := Option.map_eq_some_iff.1 hregs
  have hplaces : all.map (·.place) = original.lines.map Prod.fst := by
    apply Results.map_eq_of_forall₂ (Results.mapM_eq_some.1 hall)
    intro line region hreg
    exact (parsedRegion_eq_some hreg).1
  rw [ParsedDocument.places, parsedDocument_eq_some hdoc, ← hplaces]
  apply List.Sublist.map
  cases original with
  | xlsx => exact List.take_sublist _ _
  | docx | pdf | jpeg | png => exact List.Sublist.refl _

theorem Original.nodup_places (happart : original.Apart) (h : original.parse = some document) :
    document.places.Nodup :=
  (Original.places_sublist h).nodup ((nodup_lines_iff original).2 happart)

end CreditOps.Ingestion
