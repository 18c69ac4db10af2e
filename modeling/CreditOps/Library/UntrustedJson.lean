import CreditOps.Library.Results

/-!
# Reading an untrusted JSON value

The values `json.loads` builds, and the few operations a dynamically typed reader performs on them:
looking up a key, iterating, converting to a dictionary. Each of them raises on a value of the wrong
type, so a reader is a computation in `Except`.
-/

set_option autoImplicit false

/-! ## What a fallible computation ensures -/

section Ensures

universe u v

variable {ε : Type u} {α β : Type v}

/-- Whatever the computation returns has the property; it may also fail. -/
def Ensures (x : Except ε α) (P : α → Prop) : Prop :=
  ∀ a, x = .ok a → P a

namespace Ensures

variable {P : α → Prop}

theorem ok {a : α} (h : P a) : Ensures (.ok a : Except ε α) P := by
  intro b hb
  cases hb
  exact h

theorem error (e : ε) : Ensures (.error e : Except ε α) P := by
  intro b hb
  cases hb

variable {x : Except ε α}

theorem mono {Q : α → Prop} (hx : Ensures x P) (hPQ : ∀ a, P a → Q a) :
    Ensures x Q := by
  intro a ha
  exact hPQ a (hx a ha)

theorem self (x : Except ε α) : Ensures x fun a => x = .ok a := by
  intro a ha
  exact ha

variable {f : α → Except ε β}

/-- **Sequencing.** -/
theorem bind {Q : β → Prop} (hx : Ensures x P) (hf : ∀ a, P a → Ensures (f a) Q) :
    Ensures (x >>= f) Q := by
  intro b hb
  obtain ⟨a, ha, hfa⟩ := Results.bind_eq_ok.1 hb
  exact hf a (hx a ha) b hfa

theorem ite {c : Prop} [Decidable c] {y : Except ε α} (hx : c → Ensures x P) (hy : ¬c → Ensures y P) :
    Ensures (if c then x else y) P := by
  by_cases hc : c
  · rw [if_pos hc]
    exact hx hc
  · rw [if_neg hc]
    exact hy hc

theorem mapError {ε' : Type u} (g : ε → ε') (hx : Ensures x P) :
    Ensures (x.mapError g) P := by
  cases x with
  | error e => exact error (g e)
  | ok a => exact ok (hx a rfl)

/-- **Element by element.** -/
theorem mapM {P : β → Prop} (hf : ∀ a, Ensures (f a) P) (xs : List α) :
    Ensures (xs.mapM f) fun ys => ∀ y ∈ ys, P y := by
  induction xs with
  | nil =>
    rw [List.mapM_nil]
    apply ok
    intro y hy
    cases hy
  | cons x _ ih =>
    rw [List.mapM_cons]
    refine bind (hf x) fun y hy => ?_
    refine bind ih fun ys hys => ?_
    apply ok
    intro z hz
    -- the new element heads the list
    rcases List.mem_cons.1 hz with rfl | htail
    · exact hy
    · exact hys z htail

end Ensures

end Ensures

/-! ## Bounded texts and lists -/

/-- A text of at least `low` and at most `high` characters. -/
structure SizedText (low high : Nat) where
  text : String
  low_le : low ≤ text.length
  le_high : text.length ≤ high
deriving DecidableEq

/-- The text, where its length is within the bounds. -/
def SizedText.ofText? (low high : Nat) (text : String) : Option (SizedText low high) :=
  if h : low ≤ text.length ∧ text.length ≤ high then some ⟨text, h.1, h.2⟩ else none

variable {low high : Nat} {text : String}

theorem SizedText.text_of_ofText? {sized : SizedText low high}
    (h : SizedText.ofText? low high text = some sized) : sized.text = text := by
  simp only [SizedText.ofText?] at h
  split at h
  · cases h
    rfl
  · cases h

theorem SizedText.isSome_ofText? :
    (SizedText.ofText? low high text).isSome ↔ low ≤ text.length ∧ text.length ≤ high := by
  simp only [SizedText.ofText?]
  split
  · simp only [Option.isSome_some, true_iff]
    assumption
  · simp only [Option.isSome_none, Bool.false_eq_true, false_iff]
    assumption

/-- A list with at least one element. -/
abbrev NonemptyList (α : Type) := {items : List α // items ≠ []}

def NonemptyList.ofList? {α : Type} : List α → Option (NonemptyList α)
  | [] => none
  | item :: items => some ⟨item :: items, List.cons_ne_nil item items⟩

theorem NonemptyList.val_of_ofList? {α : Type} {items : List α} {list : NonemptyList α}
    (h : NonemptyList.ofList? items = some list) : list.1 = items := by
  cases items with
  | nil => cases h
  | cons =>
    cases h
    rfl

/-! ## Values -/

/-- A value `json.loads` returns. A float stands as the text Python writes it with. -/
inductive JsonValue where
  | null
  | bool (value : Bool)
  | int (value : Int)
  | float (text : String)
  | string (text : String)
  | array (items : List JsonValue)
  | object (entries : List (String × JsonValue))

/-- The exceptions the operations on a value raise. -/
inductive PythonError where
  | typeError
  | valueError
  | attributeError
deriving DecidableEq

namespace JsonValue

/-- The entries of a dictionary. -/
abbrev Mapping := List (String × JsonValue)

/-- `isinstance(value, Mapping)` -/
def mapping? : JsonValue → Option Mapping
  | object entries => some entries
  | _ => none

/-- `isinstance(value, list)` -/
def list? : JsonValue → Option (List JsonValue)
  | array items => some items
  | _ => none

/-- `isinstance(value, int)`: a boolean is an integer. -/
def int? : JsonValue → Option Int
  | int value => some value
  | bool value => some (if value then 1 else 0)
  | _ => none

/-- `iter(value)`: the items of a list, the characters of a string, the keys of a dictionary. -/
def iterate : JsonValue → Except PythonError (List JsonValue)
  | array items => .ok items
  | string text => .ok (text.toList.map fun c => string (String.singleton c))
  | object entries => .ok (entries.map fun entry => string entry.1)
  | _ => .error .typeError

/-- One element of the sequence of pairs a dictionary is made from; none where its key is hashable but
no string. -/
def entry? (element : JsonValue) : Except PythonError (Option (String × JsonValue)) := do
  match ← element.iterate with
  | [string key, value] => .ok (some (key, value))
  | [array _, _] | [object _, _] => .error .typeError
  | [_, _] => .ok none
  | _ => .error .valueError

/-- `dict(value)`; of two entries with one key the later one stands. -/
def dict : JsonValue → Except PythonError Mapping
  | object entries => .ok entries
  | value => do
    let elements ← value.iterate
    let entries ← elements.mapM entry?
    return (entries.filterMap id).reverse

/-- The elements that are dictionaries. -/
def mappings (items : List JsonValue) : List Mapping :=
  items.filterMap mapping?

end JsonValue
