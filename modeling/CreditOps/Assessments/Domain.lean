import CreditOps.Library.UntrustedJson
import CreditOps.Domain.Orchestration
import CreditOps.Domain.UuidText

/-!
# What the agents' assessments are made of

The items the underwriting maker, the legal reviewer and the checker share, and the readers that build
them from the payload of a language model. The three builders read findings, assumptions and evidence
gaps the same way and differ in the citations they accept, so the readers take the reader of one
citation as a parameter. What it ensures of a citation holds of every citation of a finding
(`findingsFrom_cites`) and of an assumption (`assumptionFrom_cites`).
-/

set_option autoImplicit false

namespace CreditOps.Assessments

open JsonValue

/-! ## Failures -/

/-- What a builder raises. -/
inductive BuildFault where
  /-- `MakerOutputInvalid` and its kin: the message, and the values it interpolates. -/
  | outputInvalid (message : String) (about : List JsonValue)
  /-- An exception of one of the conversions. -/
  | exception (error : PythonError)
  /-- `ValidationError` of a field of a model. -/
  | validation (model field : String)
  /-- `SameExecutionGuardTriggered` -/
  | sameExecution

/-- What leaves `build`: the exceptions it catches are raised anew, and an `AttributeError` escapes. -/
def BuildFault.wrapped (message : String) : BuildFault → BuildFault
  | .exception .attributeError => .exception .attributeError
  | .exception _ | .validation _ _ => .outputInvalid message []
  | fault => fault

/-- A field of a model, where it passes its own check. -/
def validated {α : Type} (model field : String) : Option α → Except BuildFault α
  | some value => .ok value
  | none => .error (.validation model field)

/-- The member of an enumeration with a text; another text raises `ValueError`. -/
def chosen {α : Type} (all : List α) (value : α → String) (text : String) : Except BuildFault α :=
  match all.find? fun a => value a = text with
  | some a => .ok a
  | none => .error (.exception .valueError)

/-- Raises unless the condition holds. -/
def require (fault : BuildFault) (c : Prop) [Decidable c] : Except BuildFault Unit :=
  if c then .ok () else .error fault

theorem validated_eq_ok {α : Type} {model field : String} {o : Option α} {a : α}
    (h : validated model field o = .ok a) : o = some a := by
  cases o with
  | none => cases h
  | some =>
    cases h
    rfl

theorem ensures_require {fault : BuildFault} {c : Prop} [Decidable c] :
    Ensures (require fault c) fun _ => c := by
  apply Ensures.ite
  · intro hc
    exact Ensures.ok hc
  · intro _
    exact Ensures.error fault

/-! ## Reading a dictionary -/

section Readers

variable (str : JsonValue → String)

/-- `str(value)` -/
def textOf : JsonValue → String
  | .string text => text
  | value => str value

/-- `str(item.get(key, ""))` -/
def getText (item : Mapping) (key : String) : String :=
  match item.lookup key with
  | some value => textOf str value
  | none => ""

/-- `list(item.get(key, []))` -/
def iterateAt (item : Mapping) (key : String) : Except BuildFault (List JsonValue) :=
  match item.lookup key with
  | some value => value.iterate.mapError .exception
  | none => .ok []

/-- `payload.get(key, [])`, which has to be a list. -/
def listAt (payload : Mapping) (key : String) : Except BuildFault (List JsonValue) :=
  match payload.lookup key with
  | some value =>
    match value.list? with
    | some items => .ok items
    | none => .error (.outputInvalid (key ++ " must be a list") [])
  | none => .ok []

/-- `payload.get(key)`, which has to be a dictionary. -/
def sectionAt (payload : Mapping) (key : String) : Except BuildFault Mapping :=
  match (payload.lookup key).bind mapping? with
  | some entries => .ok entries
  | none => .error (.outputInvalid ("section " ++ key ++ " is missing") [])

/-- A value the builder calls `.get` on. -/
def asItem (value : JsonValue) : Except BuildFault Mapping :=
  match value.mapping? with
  | some item => .ok item
  | none => .error (.exception .attributeError)

/-- The dictionaries among the elements of `payload.get(key, [])`, each read by `read`. -/
def itemsAt {α : Type} (payload : Mapping) (key : String) (read : Mapping → Except BuildFault α) :
    Except BuildFault (List α) := do
  let raw ← iterateAt payload key
  (mappings raw).mapM read

/-- The same where `payload.get(key, [])` has to be a list. -/
def listItemsAt {α : Type} (payload : Mapping) (key : String)
    (read : Mapping → Except BuildFault α) : Except BuildFault (List α) := do
  let raw ← listAt payload key
  (mappings raw).mapM read

/-- `UUID(text)` -/
def uuidFrom (text : String) : Except BuildFault Uuid :=
  match readUuid text with
  | some id => .ok id
  | none => .error (.exception .valueError)

/-- A cited uuid, whose text has to be the text of a known one. -/
def knownUuid (known : List Uuid) (message text : String) : Except BuildFault Uuid := do
  require (.outputInvalid message [.string text]) (text ∈ known.map uuidText)
  uuidFrom text

/-! ## Shared items -/

/-- `ConfidenceLevel` -/
inductive ConfidenceLevel where
  | high
  | medium
  | low
deriving DecidableEq

def ConfidenceLevel.value : ConfidenceLevel → String
  | .high => "HIGH"
  | .medium => "MEDIUM"
  | .low => "LOW"

/-- `ConfidenceLevel(str(item.get("confidence", "")))` -/
def confidenceFrom (item : Mapping) : Except BuildFault ConfidenceLevel :=
  chosen [.high, .medium, .low] ConfidenceLevel.value (getText str item "confidence")

/-- `GapBlockingLevel(str(item.get("blocking_level", "")))` -/
def blockingLevelFrom (item : Mapping) : Except BuildFault GapBlockingLevel :=
  chosen [.blocking, .conditional, .clarification] GapBlockingLevel.value
    (getText str item "blocking_level")

/-- `Finding`: one statement, always cited. -/
structure Finding (Citation : Type) where
  statementVi : SizedText 1 4000
  citations : NonemptyList Citation
  confidence : ConfidenceLevel
  uncertaintyVi : SizedText 0 2000
deriving DecidableEq

/-- `AssessmentSection` -/
structure AssessmentSection (Citation : Type) where
  findings : NonemptyList (Finding Citation)
deriving DecidableEq

/-- `AssumptionItem` -/
structure AssumptionItem (Citation : Type) where
  statementVi : SizedText 1 4000
  rationaleVi : SizedText 1 4000
  basisCitations : List Citation
deriving DecidableEq

/-- `EvidenceGapItem` -/
structure EvidenceGapItem where
  missingInformationVi : SizedText 1 2000
  whyNeededVi : SizedText 1 2000
  blockingLevel : GapBlockingLevel
  suggestedEvidenceVi : List String
deriving DecidableEq

/-! ## Building the items -/

def makeFinding {Citation : Type} (statementVi : String) (citations : List Citation)
    (confidence : ConfidenceLevel) (uncertaintyVi : String) :
    Except BuildFault (Finding Citation) := do
  let statementVi ← validated "Finding" "statement_vi" (SizedText.ofText? 1 4000 statementVi)
  let citations ← validated "Finding" "citations" (NonemptyList.ofList? citations)
  let uncertaintyVi ← validated "Finding" "uncertainty_vi" (SizedText.ofText? 0 2000 uncertaintyVi)
  return { statementVi, citations, confidence, uncertaintyVi }

def makeSection {Citation : Type} (findings : List (Finding Citation)) :
    Except BuildFault (AssessmentSection Citation) := do
  let findings ← validated "AssessmentSection" "findings" (NonemptyList.ofList? findings)
  return { findings }

def makeAssumption {Citation : Type} (statementVi rationaleVi : String)
    (basisCitations : List Citation) : Except BuildFault (AssumptionItem Citation) := do
  let statementVi ← validated "AssumptionItem" "statement_vi" (SizedText.ofText? 1 4000 statementVi)
  let rationaleVi ← validated "AssumptionItem" "rationale_vi" (SizedText.ofText? 1 4000 rationaleVi)
  return { statementVi, rationaleVi, basisCitations }

def makeGap (missingInformationVi whyNeededVi : String) (blockingLevel : GapBlockingLevel)
    (suggestedEvidenceVi : List String) : Except BuildFault EvidenceGapItem := do
  let missingInformationVi ←
    validated "EvidenceGapItem" "missing_information_vi" (SizedText.ofText? 1 2000 missingInformationVi)
  let whyNeededVi ← validated "EvidenceGapItem" "why_needed_vi" (SizedText.ofText? 1 2000 whyNeededVi)
  return { missingInformationVi, whyNeededVi, blockingLevel, suggestedEvidenceVi }

variable {Citation : Type} (citationFrom : JsonValue → Except BuildFault Citation)

/-- The citations of an item, read in order. -/
def citationsAt (item : Mapping) (key : String) : Except BuildFault (List Citation) := do
  let raw ← iterateAt item key
  raw.mapM citationFrom

/-- `_finding_from` -/
def findingFrom (item : Mapping) : Except BuildFault (Finding Citation) :=
  match (item.lookup "citations").bind list? with
  | none | some [] => .error (.outputInvalid "a finding without citations is not acceptable" [])
  | some raw => do
    let citations ← raw.mapM citationFrom
    let confidence ← confidenceFrom str item
    makeFinding (getText str item "statement_vi") citations confidence
      (getText str item "uncertainty_vi")

/-- `_findings_from` -/
def findingsFrom (payload : Mapping) (key : String) :
    Except BuildFault (List (Finding Citation)) := do
  let entries ← sectionAt payload key
  match (entries.lookup "findings").bind list? with
  | none => .error (.outputInvalid ("section " ++ key ++ " has no findings list") [])
  | some raw => (mappings raw).mapM (findingFrom str citationFrom)

/-- One element of `assumptions`. -/
def assumptionFrom (item : Mapping) : Except BuildFault (AssumptionItem Citation) := do
  let basisCitations ← citationsAt citationFrom item "basis_citations"
  makeAssumption (getText str item "statement_vi") (getText str item "rationale_vi") basisCitations

/-- One element of `evidence_gaps`. -/
def gapFrom (item : Mapping) : Except BuildFault EvidenceGapItem := do
  let blockingLevel ← blockingLevelFrom str item
  let suggested ← iterateAt item "suggested_evidence_vi"
  makeGap (getText str item "missing_information_vi") (getText str item "why_needed_vi") blockingLevel
    (suggested.map (textOf str))

end Readers

/-- The deterministic gaps, and the gaps of the model that name something else. -/
def mergedGaps (deterministic llmGaps : List EvidenceGapItem) : List EvidenceGapItem :=
  let seen := deterministic.map (·.missingInformationVi.text)
  deterministic ++ llmGaps.filter (·.missingInformationVi.text ∉ seen)

/-! ## Known uuids -/

/-- The id is one of the known ones, as far as its text goes. -/
def Named (known : List Uuid) (id : Uuid) : Prop :=
  ∃ k ∈ known, uuidText k = uuidText id

/-- **A uuid read from the text of a known one is the known one.** -/
theorem knownUuid_named {known : List Uuid} {message text : String} :
    Ensures (knownUuid known message text) (Named known) := by
  refine Ensures.bind ensures_require fun _ hknown => ?_
  obtain ⟨k, hk, rfl⟩ := List.mem_map.1 hknown
  unfold uuidFrom
  rw [readUuid_uuidText]
  apply Ensures.ok
  exact ⟨k, hk, (uuidText_mod k).symm⟩

theorem itemsAt_ensures {α : Type} {P : α → Prop} {read : Mapping → Except BuildFault α}
    (h : ∀ item, Ensures (read item) P) (payload : Mapping) (key : String) :
    Ensures (itemsAt payload key read) fun xs => ∀ x ∈ xs, P x := by
  refine Ensures.bind (Ensures.self _) fun raw _ => ?_
  exact Ensures.mapM h _

theorem listItemsAt_ensures {α : Type} {P : α → Prop} {read : Mapping → Except BuildFault α}
    (h : ∀ item, Ensures (read item) P) (payload : Mapping) (key : String) :
    Ensures (listItemsAt payload key read) fun xs => ∀ x ∈ xs, P x := by
  refine Ensures.bind (Ensures.self _) fun raw _ => ?_
  exact Ensures.mapM h _

/-! ## What the readers ensure of the citations -/

section Citations

variable {Citation : Type} {P : Citation → Prop}

def Finding.Cites (P : Citation → Prop) (finding : Finding Citation) : Prop :=
  ∀ citation ∈ finding.citations.1, P citation

theorem makeFinding_cites {statementVi uncertaintyVi : String} {citations : List Citation}
    {confidence : ConfidenceLevel} (h : ∀ citation ∈ citations, P citation) :
    Ensures (makeFinding statementVi citations confidence uncertaintyVi) (Finding.Cites P) := by
  refine Ensures.bind (Ensures.self _) fun statement _ => ?_
  refine Ensures.bind (Ensures.self _) fun cited hcited => ?_
  refine Ensures.bind (Ensures.self _) fun uncertainty _ => ?_
  apply Ensures.ok
  intro citation hmem
  rw [NonemptyList.val_of_ofList? (validated_eq_ok hcited)] at hmem
  exact h citation hmem

variable {str : JsonValue → String} {citationFrom : JsonValue → Except BuildFault Citation}

theorem citationsAt_ensures (h : ∀ value, Ensures (citationFrom value) P) (item : Mapping)
    (key : String) : Ensures (citationsAt citationFrom item key) fun cs => ∀ c ∈ cs, P c := by
  refine Ensures.bind (Ensures.self _) fun raw _ => ?_
  exact Ensures.mapM h raw

theorem findingFrom_cites (h : ∀ value, Ensures (citationFrom value) P) (item : Mapping) :
    Ensures (findingFrom str citationFrom item) (Finding.Cites P) := by
  unfold findingFrom
  split
  · exact Ensures.error _
  · exact Ensures.error _
  · refine Ensures.bind (Ensures.mapM h _) fun citations hcits => ?_
    refine Ensures.bind (Ensures.self _) fun confidence _ => ?_
    exact makeFinding_cites hcits

/-- **Every finding of a section cites what the reader of citations accepts.** -/
theorem findingsFrom_cites (h : ∀ value, Ensures (citationFrom value) P) (payload : Mapping)
    (key : String) : Ensures (findingsFrom str citationFrom payload key)
      fun findings => ∀ finding ∈ findings, finding.Cites P := by
  refine Ensures.bind (Ensures.self _) fun entries _ => ?_
  split
  · exact Ensures.error _
  · exact Ensures.mapM (findingFrom_cites h) _

theorem makeAssumption_basis {statementVi rationaleVi : String} {citations : List Citation} :
    Ensures (makeAssumption statementVi rationaleVi citations) (·.basisCitations = citations) := by
  refine Ensures.bind (Ensures.self _) fun statement _ => ?_
  refine Ensures.bind (Ensures.self _) fun rationale _ => ?_
  exact Ensures.ok rfl

theorem assumptionFrom_cites (h : ∀ value, Ensures (citationFrom value) P) (item : Mapping) :
    Ensures (assumptionFrom str citationFrom item) fun a => ∀ c ∈ a.basisCitations, P c := by
  refine Ensures.bind (citationsAt_ensures h item _) fun citations hcits => ?_
  refine Ensures.mono makeAssumption_basis fun assumption hbasis => ?_
  rw [hbasis]
  exact hcits

end Citations

/-! ## The merged gaps -/

theorem subset_mergedGaps {deterministic llmGaps : List EvidenceGapItem} :
    deterministic ⊆ mergedGaps deterministic llmGaps := by
  intro gap hgap
  exact List.mem_append_left _ hgap

end CreditOps.Assessments
