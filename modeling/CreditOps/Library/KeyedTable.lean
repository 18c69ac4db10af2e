import Mathlib.Data.List.Nodup

/-!
# Tables filled by conflict-ignoring inserts

A table is the list of its rows in the order of their insertion, and a row has a key. An insert of a row
whose key the table has already is ignored (`addNew`), so a batch (`addAll`) can be inserted again without
effect (`addAll_addAll`). What a batch adds is a part of it, in its order (`addAll_eq_append`); it adds all
of its rows to an empty table exactly when no two of them share a key (`length_addAll_nil_iff`), and of the
rows that share a key it stores the first (`find?_addAll_nil`).
-/

set_option autoImplicit false

namespace KeyedTable

universe u v

variable {α : Type u} {κ : Type v} [DecidableEq κ] (key : α → κ)

/-- Insert a row, unless the table has a row with its key. -/
def addNew (rows : List α) (row : α) : List α :=
  if rows.any (key · = key row) then rows else rows ++ [row]

/-- Insert a batch, one row after the other. -/
def addAll (rows batch : List α) : List α :=
  batch.foldl (addNew key) rows

variable {key} {rows batch : List α} {row : α}

@[simp] theorem addAll_nil : addAll key rows [] = rows := rfl

@[simp] theorem addAll_cons :
    addAll key rows (row :: batch) = addAll key (addNew key rows row) batch := rfl

theorem addNew_of_mem {other : α} (hmem : other ∈ rows) (hkey : key other = key row) :
    addNew key rows row = rows := by
  apply if_pos
  exact List.any_eq_true.2 ⟨other, hmem, decide_eq_true hkey⟩

theorem addNew_of_forall_ne (h : ∀ other ∈ rows, key other ≠ key row) :
    addNew key rows row = rows ++ [row] := by
  apply if_neg
  rw [List.any_eq_true]
  rintro ⟨other, hmem, hkey⟩
  exact h other hmem (of_decide_eq_true hkey)

theorem addNew_cases (key : α → κ) (rows : List α) (row : α) :
    ((∃ other ∈ rows, key other = key row) ∧ addNew key rows row = rows) ∨
      ((∀ other ∈ rows, key other ≠ key row) ∧ addNew key rows row = rows ++ [row]) := by
  by_cases h : ∃ other ∈ rows, key other = key row
  · obtain ⟨other, hmem, hkey⟩ := h
    exact .inl ⟨⟨other, hmem, hkey⟩, addNew_of_mem hmem hkey⟩
  · push Not at h
    exact .inr ⟨h, addNew_of_forall_ne h⟩

/-- **What a batch adds is a part of it.** -/
theorem addAll_eq_append (key : α → κ) (rows batch : List α) :
    ∃ added, added.Sublist batch ∧ addAll key rows batch = rows ++ added := by
  induction batch generalizing rows with
  | nil => exact ⟨[], List.Sublist.refl _, by simp⟩
  | cons row _ ih =>
    rcases addNew_cases key rows row with ⟨-, hsame⟩ | ⟨-, hnew⟩
    · obtain ⟨added, hadded, heq⟩ := ih rows
      exact ⟨added, hadded.cons row, by rw [addAll_cons, hsame, heq]⟩
    · obtain ⟨added, hadded, heq⟩ := ih (rows ++ [row])
      refine ⟨row :: added, hadded.cons_cons row, ?_⟩
      rw [addAll_cons, hnew, heq, List.append_assoc, List.singleton_append]

theorem mem_addAll_of_mem {other : α} (h : other ∈ rows) : other ∈ addAll key rows batch := by
  obtain ⟨added, -, heq⟩ := addAll_eq_append key rows batch
  rw [heq]
  exact List.mem_append_left added h

theorem mem_of_mem_addAll_nil (h : row ∈ addAll key [] batch) : row ∈ batch := by
  obtain ⟨_, hadded, heq⟩ := addAll_eq_append key [] batch
  rw [heq, List.nil_append] at h
  exact hadded.subset h

theorem exists_key_of_mem (h : row ∈ batch) : ∃ other ∈ addAll key rows batch, key other = key row := by
  induction batch generalizing rows with
  | nil => cases h
  | cons _ _ ih =>
    rw [addAll_cons]
    rcases List.mem_cons.1 h with rfl | hrest
    · rcases addNew_cases key rows row with ⟨⟨other, hmem, hkey⟩, hsame⟩ | ⟨-, hnew⟩
      · exact ⟨other, mem_addAll_of_mem (by rw [hsame]; exact hmem), hkey⟩
      · exact ⟨row, mem_addAll_of_mem (by simp [hnew]), rfl⟩
    · exact ih hrest

theorem addAll_of_keys_mem (h : ∀ row ∈ batch, ∃ other ∈ rows, key other = key row) :
    addAll key rows batch = rows := by
  induction batch with
  | nil => rfl
  | cons row _ ih =>
    obtain ⟨_, hmem, hkey⟩ := h row List.mem_cons_self
    rw [addAll_cons, addNew_of_mem hmem hkey]
    exact ih fun row hrow => h row (List.mem_cons_of_mem _ hrow)

/-- **A batch inserted again adds nothing.** -/
theorem addAll_addAll (rows batch : List α) :
    addAll key (addAll key rows batch) batch = addAll key rows batch :=
  addAll_of_keys_mem fun _ hrow => exists_key_of_mem hrow

theorem addNew_nodup (h : (rows.map key).Nodup) (row : α) : ((addNew key rows row).map key).Nodup := by
  rcases addNew_cases key rows row with ⟨-, hsame⟩ | ⟨hfresh, hnew⟩
  · rwa [hsame]
  · rw [hnew, List.map_append, List.nodup_append]
    refine ⟨h, by simp, ?_⟩
    rintro k hk _ hk' rfl
    obtain ⟨other, hmem, hother⟩ := List.mem_map.1 hk
    rw [List.map_singleton, List.mem_singleton] at hk'
    exact hfresh other hmem (hother.trans hk')

theorem addAll_nodup (h : (rows.map key).Nodup) (batch : List α) :
    ((addAll key rows batch).map key).Nodup := by
  induction batch generalizing rows with
  | nil => exact h
  | cons row _ ih => exact ih (addNew_nodup h row)

theorem addAll_of_nodup (h : ((rows ++ batch).map key).Nodup) :
    addAll key rows batch = rows ++ batch := by
  induction batch generalizing rows with
  | nil => simp
  | cons row _ ih =>
    have hfresh : ∀ other ∈ rows, key other ≠ key row := by
      intro other hmem hkey
      rw [List.map_append, List.nodup_append] at h
      exact h.2.2 (key other) (List.mem_map_of_mem hmem) (key row) (by simp) hkey
    rw [addAll_cons, addNew_of_forall_ne hfresh, ih (by simpa using h), List.append_assoc,
      List.singleton_append]

/-- **An empty table takes the whole batch exactly when no two of its rows share a key.** -/
theorem length_addAll_nil_iff :
    (addAll key [] batch).length = batch.length ↔ (batch.map key).Nodup := by
  constructor
  · intro hlen
    obtain ⟨added, hadded, heq⟩ := addAll_eq_append key [] batch
    rw [List.nil_append] at heq
    rw [heq] at hlen
    have hall : added = batch := hadded.eq_of_length hlen
    have hempty : (([] : List α).map key).Nodup := List.nodup_nil
    have hnodup := addAll_nodup hempty batch
    rwa [heq, hall] at hnodup
  · intro hnodup
    rw [addAll_of_nodup hnodup, List.nil_append]

theorem addAll_nil_of_nodup (h : (batch.map key).Nodup) : addAll key [] batch = batch :=
  addAll_of_nodup h

/-! ## Rows by key -/

/-- The row with the key. -/
def lookup (key : α → κ) (k : κ) (rows : List α) : Option α :=
  rows.find? (key · = k)

/-- Overwrite the row that has the key of the new one. -/
def replace (key : α → κ) (row : α) (rows : List α) : List α :=
  rows.map fun old => if key old = key row then row else old

variable {k : κ}

theorem lookup_eq_some (h : lookup key k rows = some row) : row ∈ rows ∧ key row = k := by
  have hkey := List.find?_some h
  exact ⟨List.mem_of_find?_eq_some h, of_decide_eq_true hkey⟩

theorem lookup_eq_none_iff : lookup key k rows = none ↔ ∀ row ∈ rows, key row ≠ k := by
  simp [lookup]

theorem lookup_of_mem (h : (rows.map key).Nodup) (hmem : row ∈ rows) :
    lookup key (key row) rows = some row := by
  cases hlookup : lookup key (key row) rows with
  | none => exact absurd rfl (lookup_eq_none_iff.1 hlookup row hmem)
  | some =>
    obtain ⟨hfound, hkey⟩ := lookup_eq_some hlookup
    rw [List.inj_on_of_nodup_map h hfound hmem hkey]

theorem lookup_cons_of_ne (hne : key row ≠ k) : lookup key k (row :: rows) = lookup key k rows := by
  unfold lookup
  rw [List.find?_cons_of_neg (by simpa using hne)]

theorem lookup_cons_self : lookup key (key row) (row :: rows) = some row := by
  unfold lookup
  rw [List.find?_cons_of_pos (by simp)]

/-- A row with another key is where it was. -/
theorem lookup_replace_of_ne (hne : k ≠ key row) :
    lookup key k (replace key row rows) = lookup key k rows := by
  induction rows with
  | nil => rfl
  | cons old _ ih =>
    rw [replace, List.map_cons, ← replace]
    by_cases hold : key old = key row
    · rw [if_pos hold, lookup_cons_of_ne (Ne.symm hne), ih, lookup_cons_of_ne]
      rw [hold]
      exact Ne.symm hne
    · rw [if_neg hold]
      by_cases hk : key old = k
      · subst hk
        rw [lookup_cons_self, lookup_cons_self]
      · rw [lookup_cons_of_ne hk, lookup_cons_of_ne hk, ih]

theorem lookup_replace_self (h : lookup key (key row) rows ≠ none) :
    lookup key (key row) (replace key row rows) = some row := by
  induction rows with
  | nil => exact absurd rfl h
  | cons old _ ih =>
    rw [replace, List.map_cons, ← replace]
    by_cases hold : key old = key row
    · rw [if_pos hold, lookup_cons_self]
    · rw [if_neg hold, lookup_cons_of_ne hold]
      rw [lookup_cons_of_ne hold] at h
      exact ih h

@[simp] theorem map_key_replace : (replace key row rows).map key = rows.map key := by
  rw [replace, List.map_map]
  refine List.map_congr_left ?_
  intro old _
  rw [Function.comp_apply]
  split
  · rename_i hkey
    exact hkey.symm
  · rfl

theorem mem_replace {other : α} (h : other ∈ replace key row rows) :
    other = row ∨ (other ∈ rows ∧ key other ≠ key row) := by
  obtain ⟨old, hold, heq⟩ := List.mem_map.1 h
  split at heq
  · exact .inl heq.symm
  · rename_i hkey
    cases heq
    exact .inr ⟨hold, hkey⟩

end KeyedTable
