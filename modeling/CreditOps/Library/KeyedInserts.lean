import Mathlib.Data.List.Pairwise
import Mathlib.Data.List.Lattice

/-!
# Inserting rows under unique keys

Tables that only grow, at read-committed isolation: the committed rows, and any number of open
transactions that insert rows of their own. A row has the keys of the unique constraints it falls under.
A transaction sees the committed rows and its own; an insert meets a row with one of its keys
(`conflict`), waits for the transaction that holds one of them (`waits`), or takes the keys until its
transaction ends (`inserted`). A row lock is a key held without a row. A commit adds what the transaction
has inserted, a rollback drops it, and nothing else changes what is committed.
-/

set_option autoImplicit false

namespace KeyedInserts

universe u v w

variable {κ : Type u} {ι : Type v} {ρ : Type w}

/-! ## Sessions -/

/-- The committed rows, newest first; the rows each open transaction has inserted, newest first; and the
transaction that holds each key. -/
structure Session (κ : Type u) (ι : Type v) (ρ : Type w) where
  rows : List ρ
  staged : ι → List ρ
  holder : κ → Option ι

/-- What an insert does. -/
inductive Insert (κ : Type u) (ι : Type v) (ρ : Type w) where
  | waits
  | conflict
  | inserted (session : Session κ ι ρ)

/-- A row of the list has the key. -/
def Taken (keys : ρ → List κ) (rows : List ρ) (key : κ) : Prop :=
  ∃ row ∈ rows, key ∈ keys row

instance [DecidableEq κ] (keys : ρ → List κ) (rows : List ρ) (key : κ) :
    Decidable (Taken keys rows key) :=
  inferInstanceAs (Decidable (∃ row ∈ rows, key ∈ keys row))

theorem Taken.append_iff {keys : ρ → List κ} {rows rows' : List ρ} {key : κ} :
    Taken keys (rows ++ rows') key ↔ Taken keys rows key ∨ Taken keys rows' key := by
  simp only [Taken, List.mem_append, or_and_right, exists_or]

namespace Session

/-- Nothing stored, nothing open. -/
def empty : Session κ ι ρ where
  rows := []
  staged _ := []
  holder _ := none

/-- What a transaction sees: its own rows and the committed ones. -/
def view (s : Session κ ι ρ) (id : ι) : List ρ :=
  s.staged id ++ s.rows

/-- Another transaction holds the key. -/
def HeldByOther (s : Session κ ι ρ) (id : ι) (key : κ) : Prop :=
  s.holder key ≠ none ∧ s.holder key ≠ some id

variable [DecidableEq ι]

instance (s : Session κ ι ρ) (id : ι) (key : κ) : Decidable (s.HeldByOther id key) :=
  inferInstanceAs (Decidable (_ ∧ _))

/-- The keys a transaction held are free. -/
def release (s : Session κ ι ρ) (id : ι) (key : κ) : Option ι :=
  if s.holder key = some id then none else s.holder key

/-- Add what the transaction has inserted. -/
def commit (s : Session κ ι ρ) (id : ι) : Session κ ι ρ where
  rows := s.view id
  staged := Function.update s.staged id []
  holder := s.release id

/-- Drop what the transaction has inserted. -/
def rollback (s : Session κ ι ρ) (id : ι) : Session κ ι ρ where
  rows := s.rows
  staged := Function.update s.staged id []
  holder := s.release id

variable {keys : ρ → List κ} {s t : Session κ ι ρ} {id other : ι} {key : κ} {row : ρ}

@[simp] theorem commit_rows : (s.commit id).rows = s.staged id ++ s.rows := rfl

@[simp] theorem commit_staged_self : (s.commit id).staged id = [] :=
  Function.update_self ..

theorem commit_staged_of_ne (hne : other ≠ id) : (s.commit id).staged other = s.staged other :=
  Function.update_of_ne hne ..

@[simp] theorem rollback_rows : (s.rollback id).rows = s.rows := rfl

@[simp] theorem rollback_staged_self : (s.rollback id).staged id = [] :=
  Function.update_self ..

theorem rollback_staged_of_ne (hne : other ≠ id) :
    (s.rollback id).staged other = s.staged other :=
  Function.update_of_ne hne ..

theorem release_of_ne (hheld : s.holder key = some other) (hne : other ≠ id) :
    s.release id key = some other := by
  unfold release
  rw [if_neg (by rw [hheld]; exact fun h => hne (Option.some.inj h)), hheld]

variable [DecidableEq κ]

/-- `select … for update`: take the key, or wait for its holder. -/
def lock (s : Session κ ι ρ) (id : ι) (key : κ) : Option (Session κ ι ρ) :=
  if s.HeldByOther id key then none
  else some { s with holder := Function.update s.holder key (some id) }

/-- Insert a row. -/
def insert (keys : ρ → List κ) (s : Session κ ι ρ) (id : ι) (row : ρ) : Insert κ ι ρ :=
  if ∃ key ∈ keys row, Taken keys (s.view id) key then .conflict
  else if ∃ key ∈ keys row, s.HeldByOther id key then .waits
  else
    .inserted
      { s with
        staged := Function.update s.staged id (row :: s.staged id)
        holder := fun key => if key ∈ keys row then some id else s.holder key }

theorem lock_eq_some (h : s.lock id key = some t) :
    ¬ s.HeldByOther id key ∧ t = { s with holder := Function.update s.holder key (some id) } := by
  unfold lock at h
  split at h
  · cases h
  rename_i hfree
  cases h
  exact ⟨hfree, rfl⟩

theorem lock_rows (h : s.lock id key = some t) : t.rows = s.rows := by
  obtain ⟨-, rfl⟩ := lock_eq_some h
  rfl

theorem lock_staged (h : s.lock id key = some t) : t.staged = s.staged := by
  obtain ⟨-, rfl⟩ := lock_eq_some h
  rfl

/-- An insert that goes through has found its keys free and unused. -/
theorem insert_eq_inserted (h : s.insert keys id row = .inserted t) :
    (∀ key ∈ keys row, ¬ Taken keys (s.view id) key) ∧
      (∀ key ∈ keys row, s.holder key = none ∨ s.holder key = some id) ∧
      t.rows = s.rows ∧ t.staged = Function.update s.staged id (row :: s.staged id) ∧
      ∀ key, t.holder key = if key ∈ keys row then some id else s.holder key := by
  unfold insert at h
  split at h
  · cases h
  rename_i hunused
  split at h
  · cases h
  rename_i hfree
  cases h
  refine ⟨fun key hkey htaken => hunused ⟨key, hkey, htaken⟩, ?_, rfl, rfl, fun _ => rfl⟩
  intro key hkey
  by_contra hheld
  obtain ⟨hnone, hother⟩ := not_or.1 hheld
  exact hfree ⟨key, hkey, hnone, hother⟩

theorem insert_rows (h : s.insert keys id row = .inserted t) : t.rows = s.rows :=
  (insert_eq_inserted h).2.2.1

theorem insert_staged_self (h : s.insert keys id row = .inserted t) :
    t.staged id = row :: s.staged id := by
  rw [(insert_eq_inserted h).2.2.2.1, Function.update_self]

theorem insert_staged_of_ne (h : s.insert keys id row = .inserted t) (hne : other ≠ id) :
    t.staged other = s.staged other := by
  rw [(insert_eq_inserted h).2.2.2.1, Function.update_of_ne hne]

theorem holder_lock (h : s.lock id key = some t) {k : κ} (hheld : s.holder k = some other) :
    t.holder k = some other := by
  obtain ⟨hfree, rfl⟩ := lock_eq_some h
  by_cases hkey : k = key
  · subst hkey
    have hid : other = id := by
      by_contra hne
      exact hfree ⟨by rw [hheld]; exact Option.some_ne_none _,
        by rw [hheld]; exact fun heq => hne (Option.some.inj heq)⟩
    rw [hid]
    exact Function.update_self ..
  · exact (Function.update_of_ne hkey ..).trans hheld

theorem holder_lock_self (h : s.lock id key = some t) : t.holder key = some id := by
  obtain ⟨-, rfl⟩ := lock_eq_some h
  exact Function.update_self ..

theorem holder_insert (h : s.insert keys id row = .inserted t) {k : κ} (hheld : s.holder k = some other) :
    t.holder k = some other := by
  obtain ⟨-, hfree, -, -, hholder⟩ := insert_eq_inserted h
  rw [hholder]
  split
  · rename_i hkey
    rcases hfree k hkey with hnone | hid
    · rw [hheld] at hnone
      cases hnone
    · rw [← hid, hheld]
  · exact hheld

end Session

/-! ## No two rows share a key -/

open Session

/-- Two rows without a common key. -/
def Apart (keys : ρ → List κ) (row row' : ρ) : Prop :=
  List.Disjoint (keys row) (keys row')

/-- Every transaction sees rows that share no key, and holds the keys of what it has inserted. -/
structure Exclusive (keys : ρ → List κ) (s : Session κ ι ρ) : Prop where
  rows : s.rows.Pairwise (Apart keys)
  view : ∀ id, (s.view id).Pairwise (Apart keys)
  held : ∀ id, ∀ row ∈ s.staged id, ∀ key ∈ keys row, s.holder key = some id

theorem exclusive_empty {keys : ρ → List κ} : Exclusive keys (empty : Session κ ι ρ) where
  rows := List.Pairwise.nil
  view _ := List.Pairwise.nil
  held _ _ hrow := absurd hrow List.not_mem_nil

namespace Exclusive

variable {keys : ρ → List κ} {s t : Session κ ι ρ} {id : ι} {key : κ} {row row' : ρ}

/-- **A committed row is the only one with its key.** -/
theorem eq_of_key (h : Exclusive keys s) (hrow : row ∈ s.rows) (hrow' : row' ∈ s.rows)
    (hkey : key ∈ keys row) (hkey' : key ∈ keys row') : row = row' := by
  by_contra hne
  have hsymm : Std.Symm (Apart keys) := ⟨fun _ _ hapart => List.Disjoint.symm hapart⟩
  have hapart : Apart keys row row' := h.rows.forall hrow hrow' hne
  exact hapart hkey hkey'

theorem staged_apart (h : Exclusive keys s) {id other : ι} (hne : other ≠ id)
    (hrow : row ∈ s.staged other) (hrow' : row' ∈ s.staged id) : Apart keys row row' := by
  intro key hkey hkey'
  have hother := h.held other row hrow key hkey
  have hid := h.held id row' hrow' key hkey'
  exact hne (Option.some.inj (hother.symm.trans hid))

variable [DecidableEq κ] [DecidableEq ι]

theorem lock (h : Exclusive keys s) (hlock : s.lock id key = some t) : Exclusive keys t := by
  have hview : ∀ id, t.view id = s.view id := by
    intro id
    rw [Session.view, Session.view, lock_rows hlock, lock_staged hlock]
  refine ⟨by rw [lock_rows hlock]; exact h.rows, fun id => by rw [hview]; exact h.view id, ?_⟩
  intro other row hrow k hk
  rw [lock_staged hlock] at hrow
  exact holder_lock hlock (h.held other row hrow k hk)

theorem insert (h : Exclusive keys s) (hins : s.insert keys id row = .inserted t) :
    Exclusive keys t := by
  obtain ⟨hunused, _, hrows, hstaged, hholder⟩ := insert_eq_inserted hins
  refine ⟨by rw [hrows]; exact h.rows, ?_, ?_⟩
  · intro other
    rw [Session.view, hrows, hstaged]
    by_cases hother : other = id
    · subst hother
      rw [Function.update_self, List.cons_append, List.pairwise_cons]
      refine ⟨?_, h.view other⟩
      intro old hold k hk hk'
      exact hunused k hk ⟨old, hold, hk'⟩
    · rw [Function.update_of_ne hother]
      exact h.view other
  · intro other old hold k hk
    rw [hstaged] at hold
    rw [hholder]
    by_cases hother : other = id
    · subst hother
      rw [Function.update_self] at hold
      rcases List.mem_cons.1 hold with rfl | hmem
      · rw [if_pos hk]
      · rw [h.held other old hmem k hk, ite_self]
    · rw [Function.update_of_ne hother] at hold
      rw [← hholder]
      exact holder_insert hins (h.held other old hold k hk)

omit [DecidableEq ι] in
/-- **A key has at most one committed row.** -/
theorem countP_le_one (h : Exclusive keys s) (key : κ) :
    s.rows.countP (fun row => key ∈ keys row) ≤ 1 := by
  have hrows := h.rows
  generalize s.rows = rows at hrows
  induction rows with
  | nil => exact Nat.zero_le 1
  | cons row rows ih =>
    have hapart := List.pairwise_cons.1 hrows
    rw [List.countP_cons]
    split
    · rename_i hkey
      have hrest : rows.countP (fun row => key ∈ keys row) = 0 := by
        rw [List.countP_eq_zero]
        intro other hother hsame
        exact hapart.1 other hother (of_decide_eq_true hkey) (of_decide_eq_true hsame)
      omega
    · exact ih hapart.2

omit [DecidableEq κ] in
theorem commit (h : Exclusive keys s) (id : ι) : Exclusive keys (s.commit id) := by
  refine ⟨h.view id, ?_, ?_⟩
  · intro other
    rw [Session.view, commit_rows]
    by_cases hother : other = id
    · subst hother
      rw [commit_staged_self, List.nil_append]
      exact h.view other
    · rw [commit_staged_of_ne hother]
      have hview := List.pairwise_append.1 (h.view other)
      refine List.pairwise_append.2 ⟨hview.1, h.view id, ?_⟩
      intro old hold new hnew
      rcases List.mem_append.1 hnew with hstaged | hcommitted
      · exact h.staged_apart hother hold hstaged
      · exact hview.2.2 old hold new hcommitted
  · intro other old hold k hk
    by_cases hother : other = id
    · subst hother
      rw [commit_staged_self] at hold
      cases hold
    · rw [commit_staged_of_ne hother] at hold
      exact release_of_ne (h.held other old hold k hk) hother

omit [DecidableEq κ] in
theorem rollback (h : Exclusive keys s) (id : ι) : Exclusive keys (s.rollback id) := by
  refine ⟨h.rows, ?_, ?_⟩
  · intro other
    rw [Session.view, rollback_rows]
    by_cases hother : other = id
    · subst hother
      rw [rollback_staged_self]
      exact h.rows
    · rw [rollback_staged_of_ne hother]
      exact h.view other
  · intro other old hold k hk
    by_cases hother : other = id
    · subst hother
      rw [rollback_staged_self] at hold
      cases hold
    · rw [rollback_staged_of_ne hother] at hold
      exact release_of_ne (h.held other old hold k hk) hother

end Exclusive

end KeyedInserts
