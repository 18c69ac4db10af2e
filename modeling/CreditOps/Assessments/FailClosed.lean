import CreditOps.Assessments.CreditMemo

/-!
# Reading an output fails closed

What a language model returns is read by the builders of the four agents. Whatever is wrong with it should
end in the error the agent declares. Every access is guarded or its exception caught, except one: the
elements of a list of citations are taken for objects, and `.get` on another value raises an
`AttributeError` that no builder catches.

A builder reads its payload in a fixed order and stops at the first failure, so an output escapes the
declared error exactly when the reading comes to a citation that is no object before anything else is
refused (`reading_closed_iff`).
-/

set_option autoImplicit false

namespace CreditOps.Assessments

open JsonValue Results

/-! ## What escapes -/

/-- The faults that leave a builder without being its declared error. -/
def BuildFault.Undeclared : BuildFault → Prop
  | .exception .attributeError => True
  | .sameExecution => True
  | _ => False

/-- What a builder catches and raises anew. -/
abbrev Escapes {α : Type} (x : Except BuildFault α) : Prop :=
  FailsWith BuildFault.Undeclared x

/-- The computation returns a value or raises the declared error. -/
def FailsClosed {α : Type} (x : Except BuildFault α) : Prop :=
  ∀ fault, x = .error fault → ∃ message about, fault = .outputInvalid message about

/-- The answer of a model, which has to be an object. -/
def readAnswer {α : Type} (message : String) (value : JsonValue)
    (build : Mapping → Except BuildFault α) : Except BuildFault α :=
  match value.mapping? with
  | some payload => build payload
  | none => .error (.outputInvalid message [])

section Faults

variable {α : Type} {x : Except BuildFault α} {message : String}

theorem escapes_error {fault : BuildFault} :
    Escapes (.error fault : Except BuildFault α) ↔ fault.Undeclared :=
  failsWith_error

theorem escapes_bind {β : Type} {f : α → Except BuildFault β} :
    Escapes (x >>= f) ↔ Escapes x ∨ ∃ a, x = .ok a ∧ Escapes (f a) :=
  failsWith_bind

theorem escapes_mapM {β : Type} {f : α → Except BuildFault β} {off : α → Prop}
    (hf : ∀ a, Escapes (f a) ↔ off a) {xs : List α} :
    Escapes (xs.mapM f) ↔ FirstOff (fun a => Succeeds (f a)) off xs :=
  failsWith_mapM hf

/-- **What a builder lets through.** -/
theorem failsClosed_wrapped_iff :
    FailsClosed (x.mapError (BuildFault.wrapped message)) ↔ ¬ Escapes x := by
  cases x with
  | ok =>
    refine iff_of_true ?_ not_failsWith_ok
    intro fault h
    cases h
  | error fault =>
    rw [escapes_error]
    have hwrapped : FailsClosed (α := α) ((Except.error fault).mapError (BuildFault.wrapped message)) ↔
        ∃ text about, fault.wrapped message = .outputInvalid text about := by
      constructor
      · intro h
        exact h _ rfl
      · intro h other hother
        cases hother
        exact h
    rw [hwrapped]
    cases fault with
    | outputInvalid text about => exact iff_of_true ⟨text, about, rfl⟩ id
    | validation => exact iff_of_true ⟨message, [], rfl⟩ id
    | sameExecution =>
      refine iff_of_false ?_ (not_not_intro trivial)
      rintro ⟨_, _, h⟩
      cases h
    | exception error =>
      cases error with
      | attributeError =>
        refine iff_of_false ?_ (not_not_intro trivial)
        rintro ⟨_, _, h⟩
        cases h
      | typeError | valueError => exact iff_of_true ⟨message, [], rfl⟩ id

theorem failsClosed_readAnswer_iff {value : JsonValue} {build : Mapping → Except BuildFault α} :
    FailsClosed (readAnswer message value build) ↔
      ∀ payload, value.mapping? = some payload → FailsClosed (build payload) := by
  unfold readAnswer
  split
  · rename_i payload hpayl
    constructor
    · intro h other hother
      cases hpayl.symm.trans hother
      exact h
    · intro h
      exact h payload hpayl
  · rename_i hnone
    refine iff_of_true ?_ ?_
    · intro fault h
      cases h
      exact ⟨message, [], rfl⟩
    · intro payload hpayl
      cases hnone.symm.trans hpayl

end Faults

/-! ## Readers that only refuse -/

section Refusals

variable {α : Type} {str : JsonValue → String} {item payload : Mapping} {key : String}

theorem not_escapes_validated {model field : String} {o : Option α} :
    ¬ Escapes (validated model field o) := by
  cases o with
  | none => exact escapes_error.not.2 id
  | some => exact not_failsWith_ok

variable {text message statementVi : String}

theorem not_escapes_chosen {all : List α} {value : α → String} :
    ¬ Escapes (chosen all value text) := by
  unfold chosen
  split
  · exact not_failsWith_ok
  · exact escapes_error.not.2 id

variable {c : Prop}

theorem escapes_require {fault : BuildFault} [Decidable c] :
    Escapes (require fault c) ↔ ¬ c ∧ fault.Undeclared := by
  unfold require
  split
  · rename_i hc
    exact iff_of_false not_failsWith_ok fun h => h.1 hc
  · rename_i hc
    rw [escapes_error, and_iff_right hc]

theorem not_escapes_require {about : List JsonValue} [Decidable c] :
    ¬ Escapes (require (.outputInvalid message about) c) := by
  rw [escapes_require]
  exact fun h => h.2

theorem not_escapes_uuidFrom : ¬ Escapes (uuidFrom text) := by
  unfold uuidFrom
  split
  · exact not_failsWith_ok
  · exact escapes_error.not.2 id

theorem not_escapes_knownUuid {known : List Uuid} :
    ¬ Escapes (knownUuid known message text) :=
  not_failsWith_bind not_escapes_require fun _ => not_escapes_uuidFrom

theorem iterate_error {value : JsonValue} {error : PythonError} (h : value.iterate = .error error) :
    error = .typeError := by
  cases value <;> cases h <;> rfl

theorem not_escapes_iterateAt : ¬ Escapes (iterateAt item key) := by
  unfold iterateAt
  split
  · rename_i value _
    cases hvalue : value.iterate with
    | ok => exact not_failsWith_ok
    | error =>
      cases iterate_error hvalue
      exact escapes_error.not.2 id
  · exact not_failsWith_ok

theorem not_escapes_listAt : ¬ Escapes (listAt payload key) := by
  unfold listAt
  split
  · split
    · exact not_failsWith_ok
    · exact escapes_error.not.2 id
  · exact not_failsWith_ok

theorem not_escapes_sectionAt : ¬ Escapes (sectionAt payload key) := by
  unfold sectionAt
  split
  · exact not_failsWith_ok
  · exact escapes_error.not.2 id

variable {read : Mapping → Except BuildFault α}

theorem not_escapes_itemsAt (hread : ∀ m, ¬ Escapes (read m)) :
    ¬ Escapes (itemsAt payload key read) :=
  not_failsWith_bind not_escapes_iterateAt fun _ => not_failsWith_mapM hread

theorem not_escapes_listItemsAt (hread : ∀ m, ¬ Escapes (read m)) :
    ¬ Escapes (listItemsAt payload key read) :=
  not_failsWith_bind not_escapes_listAt fun _ => not_failsWith_mapM hread

theorem not_escapes_makeFinding {Citation : Type} {uncertaintyVi : String} {citations : List Citation}
    {confidence : ConfidenceLevel} :
    ¬ Escapes (makeFinding statementVi citations confidence uncertaintyVi) :=
  not_failsWith_bind not_escapes_validated fun _ => not_failsWith_bind not_escapes_validated fun _ =>
    not_failsWith_bind not_escapes_validated fun _ => not_failsWith_ok

theorem not_escapes_makeSection {Citation : Type} {findings : List (Finding Citation)} :
    ¬ Escapes (makeSection findings) :=
  not_failsWith_bind not_escapes_validated fun _ => not_failsWith_ok

theorem not_escapes_makeAssumption {Citation : Type} {rationaleVi : String} {citations : List Citation} :
    ¬ Escapes (makeAssumption statementVi rationaleVi citations) :=
  not_failsWith_bind not_escapes_validated fun _ => not_failsWith_bind not_escapes_validated fun _ =>
    not_failsWith_ok

theorem not_escapes_makeGap {missingInformationVi whyNeededVi : String} {level : GapBlockingLevel}
    {suggested : List String} : ¬ Escapes (makeGap missingInformationVi whyNeededVi level suggested) :=
  not_failsWith_bind not_escapes_validated fun _ => not_failsWith_bind not_escapes_validated fun _ =>
    not_failsWith_ok

theorem not_escapes_confidenceFrom : ¬ Escapes (confidenceFrom str item) :=
  not_escapes_chosen

theorem not_escapes_gapFrom (item : Mapping) : ¬ Escapes (gapFrom str item) :=
  not_failsWith_bind not_escapes_chosen fun _ => not_failsWith_bind not_escapes_iterateAt fun _ =>
    not_escapes_makeGap

end Refusals

/-! ## Citations -/

/-- The value is no object. -/
def NonObject (value : JsonValue) : Prop :=
  value.mapping? = none

/-- Reading the list comes to an element that is no object, all before it being accepted. -/
def MeetsNonObject {Citation : Type} (citationFrom : JsonValue → Except BuildFault Citation)
    (raw : List JsonValue) : Prop :=
  FirstOff (fun value => Succeeds (citationFrom value)) NonObject raw

/-- Reading the dictionaries of the list comes to one that is off, all before it being accepted. -/
def MeetsOff {α : Type} (read : Mapping → Except BuildFault α) (off : Mapping → Prop)
    (raw : List JsonValue) : Prop :=
  FirstOff (fun item => Succeeds (read item)) off (mappings raw)

/-- The citations of an item, under their key. -/
def CitationsOff {Citation : Type} (citationFrom : JsonValue → Except BuildFault Citation) (key : String)
    (item : Mapping) : Prop :=
  ∃ raw, iterateAt item key = .ok raw ∧ MeetsNonObject citationFrom raw

/-- A finding, whose citations have to be a list. -/
def FindingOff {Citation : Type} (citationFrom : JsonValue → Except BuildFault Citation)
    (item : Mapping) : Prop :=
  ∃ raw, (item.lookup "citations").bind list? = some raw ∧ MeetsNonObject citationFrom raw

/-- The findings of a section. -/
def FindingsOff {Citation : Type} (str : JsonValue → String)
    (citationFrom : JsonValue → Except BuildFault Citation) (payload : Mapping) (key : String) : Prop :=
  ∃ entries raw, sectionAt payload key = .ok entries ∧ (entries.lookup "findings").bind list? = some raw ∧
    MeetsOff (findingFrom str citationFrom) (FindingOff citationFrom) raw

/-- The items under a key. -/
def ItemsOff {α : Type} (read : Mapping → Except BuildFault α) (off : Mapping → Prop) (payload : Mapping)
    (key : String) : Prop :=
  ∃ raw, iterateAt payload key = .ok raw ∧ MeetsOff read off raw

/-- The items under a key that has to hold a list. -/
def ListItemsOff {α : Type} (read : Mapping → Except BuildFault α) (off : Mapping → Prop)
    (payload : Mapping) (key : String) : Prop :=
  ∃ raw, listAt payload key = .ok raw ∧ MeetsOff read off raw

/-- The section of a payload, where it is there. -/
def sectionOf (payload : Mapping) (key : String) : Mapping :=
  ((payload.lookup key).bind mapping?).getD []

theorem sectionOf_eq {payload entries : Mapping} {key : String}
    (h : sectionAt payload key = .ok entries) : sectionOf payload key = entries := by
  unfold sectionAt at h
  split at h
  · rename_i found hfound
    cases h
    rw [sectionOf, hfound, Option.getD_some]
  · cases h

section Citations

variable {α Citation : Type} {str : JsonValue → String} {payload item : Mapping} {key : String}
  {citationFrom : JsonValue → Except BuildFault Citation}

/-- **A citation escapes when it is no object**, whatever its reader asks of an object. -/
theorem escapes_asItem_bind {value : JsonValue} {f : Mapping → Except BuildFault α}
    (hf : ∀ item, ¬ Escapes (f item)) : Escapes (asItem value >>= f) ↔ NonObject value := by
  rw [escapes_bind, NonObject, asItem]
  split
  · rename_i item hitem
    rw [hitem]
    refine iff_of_false ?_ (Option.some_ne_none item)
    rintro (h | ⟨a, -, h⟩)
    · exact not_failsWith_ok h
    · exact hf a h
  · rename_i hnone
    exact iff_of_true (.inl (escapes_error.2 trivial)) hnone

variable {read : Mapping → Except BuildFault α} {off : Mapping → Prop}

theorem escapes_items (hread : ∀ m, Escapes (read m) ↔ off m) {raw : List JsonValue} :
    Escapes ((mappings raw).mapM read) ↔ MeetsOff read off raw :=
  escapes_mapM hread

theorem escapes_after {β γ : Type} {x : Except BuildFault β} {f : β → Except BuildFault γ}
    (off : β → Prop) (hx : ¬ Escapes x) (hf : ∀ b, Escapes (f b) ↔ off b) :
    Escapes (x >>= f) ↔ ∃ b, x = .ok b ∧ off b := by
  rw [escapes_bind, or_iff_right hx]
  exact exists_congr fun b => and_congr_right fun _ => hf b

theorem escapes_then {β γ : Type} {x : Except BuildFault β} {f : β → Except BuildFault γ} {off : Prop}
    (hx : ¬ Escapes x) (hf : ∀ b, Escapes (f b) ↔ off) : Escapes (x >>= f) ↔ Succeeds x ∧ off := by
  rw [escapes_after (fun _ => off) hx hf, exists_and_right]
  exact Iff.rfl

theorem escapes_before {β γ : Type} {x : Except BuildFault β} {f : β → Except BuildFault γ}
    (hf : ∀ b, ¬ Escapes (f b)) : Escapes (x >>= f) ↔ Escapes x := by
  rw [escapes_bind, or_iff_left]
  rintro ⟨b, -, h⟩
  exact hf b h

theorem escapes_citationsAt (hcit : ∀ value, Escapes (citationFrom value) ↔ NonObject value) :
    Escapes (citationsAt citationFrom item key) ↔ CitationsOff citationFrom key item :=
  escapes_after _ not_escapes_iterateAt fun _ => escapes_mapM hcit

theorem escapes_findingFrom (hcit : ∀ value, Escapes (citationFrom value) ↔ NonObject value)
    (item : Mapping) : Escapes (findingFrom str citationFrom item) ↔ FindingOff citationFrom item := by
  unfold findingFrom FindingOff
  split
  · rename_i hnone
    refine iff_of_false (escapes_error.not.2 id) ?_
    rintro ⟨_, hraw, -⟩
    cases hnone.symm.trans hraw
  · rename_i hnil
    refine iff_of_false (escapes_error.not.2 id) ?_
    rintro ⟨_, hraw, hmeets⟩
    cases hnil.symm.trans hraw
    exact hmeets
  · rename_i raw _ hraw
    rw [escapes_before fun _ => not_failsWith_bind not_escapes_confidenceFrom fun _ =>
      not_escapes_makeFinding, escapes_mapM hcit]
    constructor
    · intro h
      exact ⟨raw, hraw, h⟩
    · rintro ⟨_, hother, h⟩
      cases hraw.symm.trans hother
      exact h

theorem escapes_findingsFrom (hcit : ∀ value, Escapes (citationFrom value) ↔ NonObject value) :
    Escapes (findingsFrom str citationFrom payload key) ↔ FindingsOff str citationFrom payload key := by
  unfold findingsFrom
  rw [escapes_after (fun entries => ∃ raw, (entries.lookup "findings").bind list? = some raw ∧
    MeetsOff (findingFrom str citationFrom) (FindingOff citationFrom) raw) not_escapes_sectionAt]
  · constructor
    · rintro ⟨entries, hents, raw, hraw, h⟩
      exact ⟨entries, raw, hents, hraw, h⟩
    · rintro ⟨entries, raw, hents, hraw, h⟩
      exact ⟨entries, hents, raw, hraw, h⟩
  · intro entries
    split
    · rename_i hnone
      refine iff_of_false (escapes_error.not.2 id) ?_
      rintro ⟨_, hraw, -⟩
      cases hnone.symm.trans hraw
    · rename_i raw hraw
      rw [escapes_items (escapes_findingFrom hcit)]
      constructor
      · intro h
        exact ⟨raw, hraw, h⟩
      · rintro ⟨_, hother, h⟩
        cases hraw.symm.trans hother
        exact h

theorem escapes_assumptionFrom (hcit : ∀ value, Escapes (citationFrom value) ↔ NonObject value)
    (item : Mapping) :
    Escapes (assumptionFrom str citationFrom item) ↔ CitationsOff citationFrom "basis_citations" item := by
  unfold assumptionFrom
  rw [escapes_before fun _ => not_escapes_makeAssumption, escapes_citationsAt hcit]

theorem escapes_itemsAt (hread : ∀ m, Escapes (read m) ↔ off m) :
    Escapes (itemsAt payload key read) ↔ ItemsOff read off payload key :=
  escapes_after _ not_escapes_iterateAt fun _ => escapes_items hread

theorem escapes_listItemsAt (hread : ∀ m, Escapes (read m) ↔ off m) :
    Escapes (listItemsAt payload key read) ↔ ListItemsOff read off payload key :=
  escapes_after _ not_escapes_listAt fun _ => escapes_items hread

end Citations

end CreditOps.Assessments
