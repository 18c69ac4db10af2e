import CreditOps.Library.CanonicalOrder
import CreditOps.Library.JsonRoundTrip
import Mathlib.Data.String.Basic

/-!
# Canonical JSON

`json.dumps` with `sort_keys`: the entries of every dictionary inside the value are written in the order of
their keys. Two values are written alike exactly when they are equal up to the order of the entries
(`canonicalText_eq_iff`), and a dictionary does not depend on the order its entries were put in
(`sortKeys_object_of_perm`).
-/

set_option autoImplicit false

namespace JsonText

open CanonicalOrder

variable {reading : Reading}

mutual

/-- The value with the entries of every dictionary in the order of their keys. -/
def sortKeys : JsonValue → JsonValue
  | .array items => .array (sortKeysItems items)
  | .object entries => .object (sortBy (·.1) (sortKeysEntries entries))
  | .null => .null
  | .bool value => .bool value
  | .int value => .int value
  | .float text => .float text
  | .string text => .string text

/-- The items, each with its keys sorted. -/
def sortKeysItems : List JsonValue → List JsonValue
  | [] => []
  | item :: items => sortKeys item :: sortKeysItems items

/-- The entries, each value with its keys sorted. -/
def sortKeysEntries : List (String × JsonValue) → List (String × JsonValue)
  | [] => []
  | (key, value) :: entries => (key, sortKeys value) :: sortKeysEntries entries

end

/-- `json.dumps(value, sort_keys=True, separators=(",", ":"), ensure_ascii=False)` -/
def canonicalText (value : JsonValue) : String :=
  dumps .compact (sortKeys value)

theorem sortKeysItems_eq_map (items : List JsonValue) : sortKeysItems items = items.map sortKeys := by
  induction items with
  | nil => rfl
  | cons _ _ ih => exact congrArg _ ih

theorem sortKeysEntries_eq_map (entries : List (String × JsonValue)) :
    sortKeysEntries entries = entries.map fun entry => (entry.1, sortKeys entry.2) := by
  induction entries with
  | nil => rfl
  | cons _ _ ih => exact congrArg _ ih

theorem map_fst_sortKeysEntries (entries : List (String × JsonValue)) :
    (sortKeysEntries entries).map (·.1) = entries.map (·.1) := by
  rw [sortKeysEntries_eq_map, List.map_map]
  rfl

/-- A value that can be written can be written with its keys sorted. -/
theorem Writable.sortKeys {value : JsonValue} (h : Writable reading value) :
    Writable reading (sortKeys value) := by
  induction h with
  | null => exact .null
  | bool value => exact .bool value
  | int h => exact .int h
  | nan => exact .nan
  | infinity => exact .infinity
  | negativeInfinity => exact .negativeInfinity
  | float h => exact .float h
  | string text => exact .string text
  | array _ ih =>
    refine .array ?_
    rw [sortKeysItems_eq_map]
    intro item hitem
    obtain ⟨old, hold, rfl⟩ := List.mem_map.1 hitem
    exact ih old hold
  | object hkeys _ ih =>
    refine .object ?_ ?_
    · rw [((sortBy_perm _ _).map _).nodup_iff, map_fst_sortKeysEntries]
      exact hkeys
    · intro entry hentry
      rw [(sortBy_perm _ _).mem_iff, sortKeysEntries_eq_map] at hentry
      obtain ⟨old, hold, rfl⟩ := List.mem_map.1 hentry
      exact ih old hold

/-- **A dictionary does not depend on the order its entries were put in.** -/
theorem sortKeys_object_of_perm {entries entries' : List (String × JsonValue)} (h : entries.Perm entries')
    (hkeys : (entries.map (·.1)).Nodup) : sortKeys (.object entries) = sortKeys (.object entries') := by
  have hperm : (sortKeysEntries entries).Perm (sortKeysEntries entries') := by
    rw [sortKeysEntries_eq_map, sortKeysEntries_eq_map]
    exact h.map _
  have hdistinct : ((sortKeysEntries entries).map (·.1)).Nodup := by
    rwa [map_fst_sortKeysEntries]
  exact congrArg JsonValue.object
    (sortBy_eq_of_perm hperm fun a ha b hb heq => List.inj_on_of_nodup_map hdistinct ha hb heq)

/-- **Dictionaries with the same keys in the same order agree value by value.** -/
theorem sortKeys_object_inj {entries entries' : List (String × JsonValue)}
    (h : sortKeys (.object entries) = sortKeys (.object entries'))
    (hnames : entries.map (·.1) = entries'.map (·.1)) (hkeys : (entries.map (·.1)).Nodup) :
    sortKeysEntries entries = sortKeysEntries entries' := by
  refine eq_of_sortBy_eq (JsonValue.object.inj h) ?_ ?_
  · rw [map_fst_sortKeysEntries, map_fst_sortKeysEntries, hnames]
  · rwa [map_fst_sortKeysEntries]

/-- Arrays of images agree when the lists do. -/
theorem sortKeys_array_map_iff {α : Type} {f : α → JsonValue}
    (hf : Function.Injective fun a => sortKeys (f a)) {l l' : List α} :
    sortKeys (.array (l.map f)) = sortKeys (.array (l'.map f)) ↔ l = l' := by
  have hitems : ∀ m : List α, sortKeys (.array (m.map f)) = .array (m.map fun a => sortKeys (f a)) := by
    intro m
    rw [sortKeys, sortKeysItems_eq_map, List.map_map]
    rfl
  rw [hitems, hitems]
  constructor
  · intro h
    exact List.map_injective_iff.2 hf (JsonValue.array.inj h)
  · intro h
    rw [h]

/-- **The canonical text is the value up to the order of its entries.** -/
theorem canonicalText_eq_iff {value other : JsonValue} (h : Writable reading value)
    (hother : Writable reading other) :
    canonicalText value = canonicalText other ↔ sortKeys value = sortKeys other := by
  constructor
  · intro heq
    exact encode_inj h.sortKeys hother.sortKeys (String.ofList_injective heq)
  · intro heq
    rw [canonicalText, canonicalText, heq]

end JsonText
