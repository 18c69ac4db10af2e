import CreditOps.Library.JsonEncoding

/-!
# Validating the output of a model

A model's output is walked before it is accepted: the walk bounds depth, nodes and texts, refuses numbers that
are not finite, and refuses every dictionary with a key that normalises to a credit decision. The requested
schema is walked and checked, and the output is validated against it.

No dictionary inside an accepted output, at any depth, has a key that denotes a credit decision
(`validateOutput_allowed`), and neither has one inside what the gateway returns after its attempts
(`structured_allowed`). The schema validator and the Unicode tables behind the normalisation are parameters.
-/

set_option autoImplicit false

namespace CreditOps.Inference

open JsonText

/-! ## Keys -/

/-- The tables of `str.casefold` and `str.isalnum`; on ASCII they are what everyone knows. -/
structure UnicodeTables where
  casefold : Char → List Char
  isalnum : Char → Bool
  casefold_ascii : ∀ c : Char, c.toNat < 128 → casefold c = [c.toLower]
  isalnum_ascii : ∀ c : Char, c.toNat < 128 → isalnum c = c.isAlphanum

/-- `_FORBIDDEN_KEYS` -/
def forbiddenKeys : List String :=
  ["approve", "approved", "creditdecision", "creditscore", "decision", "disbursement", "reject", "rejected",
    "releasefunds", "waive", "waiver"]

/-- `_normalized_key` -/
def normalizedKey (tables : UnicodeTables) (key : String) : String :=
  String.ofList ((key.toList.flatMap tables.casefold).filter tables.isalnum)

/-- The key denotes a credit decision. -/
def IsForbidden (tables : UnicodeTables) (key : String) : Prop :=
  normalizedKey tables key ∈ forbiddenKeys

instance (tables : UnicodeTables) (key : String) : Decidable (IsForbidden tables key) :=
  inferInstanceAs (Decidable (_ ∈ _))

/-! ## The walk -/

/-- What a call to the gateway can end with. -/
inductive InferenceError where
  | notProvisioned (message : String)
  | unavailable (message : String)
  | validation (message : String)
deriving DecidableEq

def maxSchemaBytes : Nat := 100000

def maxJsonDepth : Nat := 32

def maxJsonNodes : Nat := 20000

def maxTextLength : Nat := 1000000

/-- Count a node; too many nodes or too great a depth are refused. -/
def enterNode (depth counter : Nat) : Except InferenceError Nat :=
  if maxJsonNodes < counter + 1 ∨ maxJsonDepth < depth then
    .error (.validation "FPT JSON output exceeds bounded limits")
  else .ok (counter + 1)

/-- The walk of a text, which a key is too. -/
def walkText (depth counter : Nat) (text : String) : Except InferenceError Nat := do
  let counter ← enterNode depth counter
  if maxTextLength < text.length then
    .error (.validation "FPT JSON output contains an oversized string")
  else .ok counter

/-- The texts of the floats that are not finite. -/
def IsNonFinite (text : String) : Prop :=
  text = "nan" ∨ text = "inf" ∨ text = "-inf"

instance (text : String) : Decidable (IsNonFinite text) :=
  inferInstanceAs (Decidable (_ ∨ _))

mutual

/-- `_walk_json`, returning the number of nodes counted so far. -/
def walkJson (tables : UnicodeTables) (depth counter : Nat) : JsonValue → Except InferenceError Nat
  | .null => enterNode depth counter
  | .bool _ => enterNode depth counter
  | .int _ => enterNode depth counter
  | .float text => do
    let counter ← enterNode depth counter
    if IsNonFinite text then .error (.validation "FPT JSON output contains a non-finite number")
    else .ok counter
  | .string text => walkText depth counter text
  | .array items => do
    let counter ← enterNode depth counter
    walkItems tables (depth + 1) counter items
  | .object entries => do
    let counter ← enterNode depth counter
    if ∃ entry ∈ entries, IsForbidden tables entry.1 then
      .error (.validation "FPT output contains a forbidden decision field")
    else walkEntries tables (depth + 1) counter entries

/-- The walk of the items of a list. -/
def walkItems (tables : UnicodeTables) (depth counter : Nat) : List JsonValue → Except InferenceError Nat
  | [] => .ok counter
  | item :: items => do
    let counter ← walkJson tables depth counter item
    walkItems tables depth counter items

/-- The walk of the entries of a dictionary, each key before its value. -/
def walkEntries (tables : UnicodeTables) (depth counter : Nat) :
    List (String × JsonValue) → Except InferenceError Nat
  | [] => .ok counter
  | (key, value) :: entries => do
    let counter ← walkText depth counter key
    let counter ← walkJson tables depth counter value
    walkEntries tables depth counter entries

end

/-! ## Validation -/

/-- What the schema validator says of a value. -/
inductive SchemaVerdict where
  | valid
  | invalid
  | raised
deriving DecidableEq

/-- `Draft202012Validator`: whether a schema is one, and the verdict on a value. -/
structure SchemaValidator where
  accepts : JsonValue → Bool
  verdict : JsonValue → JsonValue → SchemaVerdict

mutual

/-- A number somewhere inside is not finite. -/
def hasNonFinite : JsonValue → Bool
  | .float text => IsNonFinite text
  | .array items => anyItemNonFinite items
  | .object entries => anyEntryNonFinite entries
  | .null => false
  | .bool _ => false
  | .int _ => false
  | .string _ => false

/-- A number inside an item is not finite. -/
def anyItemNonFinite : List JsonValue → Bool
  | [] => false
  | item :: items => hasNonFinite item || anyItemNonFinite items

/-- A number inside an entry is not finite. -/
def anyEntryNonFinite : List (String × JsonValue) → Bool
  | [] => false
  | (_, value) :: entries => hasNonFinite value || anyEntryNonFinite entries

end

/-- `json.dumps(schema, ensure_ascii=False)` -/
def unescaped : Format where
  ensureAscii := false
  itemSpace := [' ']
  keySpace := [' ']
  itemSpace_blank := isJsonSpace_singleton
  keySpace_blank := isJsonSpace_singleton

/-- `_validate_schema`: whatever goes wrong is one error. -/
def validateSchema (tables : UnicodeTables) (validator : SchemaValidator) (schema : JsonValue) :
    Except InferenceError Unit :=
  if hasNonFinite schema = false ∧ (dumps unescaped schema).utf8ByteSize ≤ maxSchemaBytes ∧
      (walkJson tables 0 0 schema).isOk = true ∧ validator.accepts schema = true then .ok ()
  else .error (.validation "requested response schema is invalid")

/-- `_validate_output` -/
def validateOutput (tables : UnicodeTables) (validator : SchemaValidator) (value schema : JsonValue) :
    Except InferenceError Unit := do
  let _ ← walkJson tables 0 0 value
  validateSchema tables validator schema
  match validator.verdict schema value with
  | .raised => .error (.validation "FPT output schema validation failed")
  | .invalid => .error (.validation "FPT output does not satisfy the requested schema")
  | .valid => .ok ()

/-- The loop of `_structured` over the answers of the endpoint to its attempts, with the last validation
error: an answer that does not validate is asked for again, any other failure ends the call. -/
def structured (tables : UnicodeTables) (validator : SchemaValidator) (schema : JsonValue) :
    Option String → List (Except InferenceError (List (String × JsonValue))) → Except InferenceError JsonValue
  | lastError, [] => .error (.validation (lastError.getD "FPT output validation failed"))
  | _, .error (.validation message) :: answers => structured tables validator schema (some message) answers
  | _, .error (.unavailable message) :: _ => .error (.unavailable message)
  | _, .error (.notProvisioned message) :: _ => .error (.notProvisioned message)
  | _, .ok body :: answers =>
    let output := (body.lookup "output").getD .null
    match validateOutput tables validator output schema with
    | .ok () => .ok output
    | .error (.validation message) => structured tables validator schema (some message) answers
    | .error error => .error error

/-! ## What a walk ensures -/

/-- A value occurs inside another, at any depth. -/
inductive Inside : JsonValue → JsonValue → Prop
  | here (value : JsonValue) : Inside value value
  | item {part item : JsonValue} {items : List JsonValue} (hmem : item ∈ items) (h : Inside part item) :
      Inside part (.array items)
  | value {part : JsonValue} {entry : String × JsonValue} {entries : List (String × JsonValue)}
      (hmem : entry ∈ entries) (h : Inside part entry.2) : Inside part (.object entries)

/-- No dictionary inside the value has a key that denotes a credit decision. -/
def Allowed (tables : UnicodeTables) (value : JsonValue) : Prop :=
  ∀ entries, Inside (.object entries) value → ∀ entry ∈ entries, ¬ IsForbidden tables entry.1

variable {tables : UnicodeTables} {validator : SchemaValidator}

variable {items : List JsonValue} {depth total counter : Nat}

theorem walkItems_each (h : walkItems tables depth counter items = .ok total) :
    ∀ item ∈ items, ∃ before after, walkJson tables depth before item = .ok after := by
  induction items generalizing counter with
  | nil =>
    intro item hitem
    cases hitem
  | cons _ _ ih =>
    obtain ⟨after, hfirst, hrest⟩ := Results.bind_eq_ok.1 h
    intro item hitem
    rcases List.mem_cons.1 hitem with rfl | hmem
    · exact ⟨counter, after, hfirst⟩
    · exact ih hrest item hmem

variable {entries : List (String × JsonValue)}

theorem walkEntries_each (h : walkEntries tables depth counter entries = .ok total) :
    ∀ entry ∈ entries, ∃ before after, walkJson tables depth before entry.2 = .ok after := by
  induction entries generalizing counter with
  | nil =>
    intro entry hentry
    cases hentry
  | cons _ _ ih =>
    obtain ⟨afterKey, -, hvalue⟩ := Results.bind_eq_ok.1 h
    obtain ⟨after, hfirst, hrest⟩ := Results.bind_eq_ok.1 hvalue
    intro entry hentry
    rcases List.mem_cons.1 hentry with rfl | hmem
    · exact ⟨afterKey, after, hfirst⟩
    · exact ih hrest entry hmem

theorem walkJson_array (h : walkJson tables depth counter (.array items) = .ok total) :
    ∀ item ∈ items, ∃ before after, walkJson tables (depth + 1) before item = .ok after := by
  rw [walkJson] at h
  obtain ⟨_, -, hitems⟩ := Results.bind_eq_ok.1 h
  exact walkItems_each hitems

theorem walkJson_object (h : walkJson tables depth counter (.object entries) = .ok total) :
    (∀ entry ∈ entries, ¬ IsForbidden tables entry.1) ∧
      ∀ entry ∈ entries, ∃ before after, walkJson tables (depth + 1) before entry.2 = .ok after := by
  rw [walkJson] at h
  obtain ⟨_, -, hents⟩ := Results.bind_eq_ok.1 h
  by_cases hforbidden : ∃ entry ∈ entries, IsForbidden tables entry.1
  · rw [if_pos hforbidden] at hents
    cases hents
  · rw [if_neg hforbidden] at hents
    exact ⟨fun entry hentry hkey => hforbidden ⟨entry, hentry, hkey⟩, walkEntries_each hents⟩

variable {value schema : JsonValue}

/-- **Whatever occurs inside a value that was walked was walked itself.** -/
theorem walked_of_inside {part : JsonValue} (hinside : Inside part value)
    (h : walkJson tables depth counter value = .ok total) :
    ∃ depth' before after, walkJson tables depth' before part = .ok after := by
  induction hinside generalizing depth counter total with
  | here => exact ⟨depth, counter, total, h⟩
  | item hmem _ ih =>
    obtain ⟨_, _, hitem⟩ := walkJson_array h _ hmem
    exact ih hitem
  | value hmem _ ih =>
    obtain ⟨_, _, hvalue⟩ := (walkJson_object h).2 _ hmem
    exact ih hvalue

theorem allowed_of_walkJson (h : walkJson tables depth counter value = .ok total) :
    Allowed tables value := by
  intro entries hinside
  obtain ⟨_, _, _, hwalk⟩ := walked_of_inside hinside h
  exact (walkJson_object hwalk).1

theorem allowed_of_validateOutput (h : validateOutput tables validator value schema = .ok ()) :
    Allowed tables value := by
  obtain ⟨_, hwalk, -⟩ := Results.bind_eq_ok.1 h
  exact allowed_of_walkJson hwalk

/-! ## ASCII keys -/

/-- Tables that know ASCII only. -/
def asciiTables : UnicodeTables where
  casefold := fun c => [c.toLower]
  isalnum := Char.isAlphanum
  casefold_ascii := fun _ _ => rfl
  isalnum_ascii := fun _ _ => rfl

/-- A validator that every schema and every value satisfies. -/
def acceptingValidator : SchemaValidator where
  accepts := fun _ => true
  verdict := fun _ _ => .valid

/-! ## The gateway -/

/-- **No credit decision passes the validation of an output**, at any depth. -/
theorem validateOutput_allowed {value schema : JsonValue}
    (h : validateOutput tables validator value schema = .ok ()) :
    ∀ entries, Inside (.object entries) value → ∀ entry ∈ entries,
      normalizedKey tables entry.1 ∉ forbiddenKeys :=
  allowed_of_validateOutput h

/-- An output of facts, two levels deep. -/
def factsOutput : JsonValue :=
  .object [("facts", .array [.object [("label", .string "revenue"), ("value", .int 3)]])]

theorem validateOutput_allowed_factsOutput :
    validateOutput asciiTables acceptingValidator factsOutput (.object []) = .ok () ∧
      Allowed asciiTables factsOutput := by
  have hvalid : validateOutput asciiTables acceptingValidator factsOutput (.object []) = .ok () := by decide
  exact ⟨hvalid, validateOutput_allowed hvalid⟩

example : validateOutput asciiTables acceptingValidator
    (.object [("facts", .array [.object [("Credit-Decision", .null)]])]) (.object []) =
      .error (.validation "FPT output contains a forbidden decision field") := by decide

/-- **Nor does one pass the gateway**, after however many attempts. -/
theorem structured_allowed {output : JsonValue} {lastError : Option String}
    {answers : List (Except InferenceError (List (String × JsonValue)))}
    (h : structured tables validator schema lastError answers = .ok output) : Allowed tables output := by
  induction answers generalizing lastError with
  | nil => cases h
  | cons answer _ ih =>
    cases answer with
    | error error =>
      cases error with
      | validation => exact ih h
      | unavailable | notProvisioned => cases h
    | ok body =>
      rw [structured] at h
      cases hvalid : validateOutput tables validator ((body.lookup "output").getD .null) schema with
      | ok =>
        rw [hvalid] at h
        cases h
        exact allowed_of_validateOutput hvalid
      | error error =>
        rw [hvalid] at h
        cases error with
        | validation => exact ih h
        | unavailable | notProvisioned => cases h

theorem structured_factsOutput : Allowed asciiTables factsOutput :=
  structured_allowed (show structured asciiTables acceptingValidator (.object []) none
    [.error (.validation ""), .ok [("output", factsOutput)]] = .ok factsOutput from rfl)

end CreditOps.Inference
