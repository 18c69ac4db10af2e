import Mathlib.Logic.Function.Basic

/-!
# Row locks

Which transaction holds which key. A transaction takes a key that is free or its own, waits for a key of
another, and releases all of its keys at once when it ends. No key has two holders, so what one transaction
does leaves the keys of every other alone (`Holds.take`, `Holds.release`).
-/

set_option autoImplicit false

namespace RowLocks

universe u v

/-- The transaction that holds each key. -/
abbrev Locks (κ : Type u) (ι : Type v) := κ → Option ι

variable {κ : Type u} {ι : Type v}

/-- No key is held. -/
def unheld : Locks κ ι := fun _ => none

/-- The transaction holds the key. -/
def Holds (locks : Locks κ ι) (id : ι) (key : κ) : Prop :=
  locks key = some id

variable {locks locks' : Locks κ ι} {id other : ι} {key k : κ}

theorem Holds.unique (h : Holds locks id key) (h' : Holds locks other key) : id = other :=
  Option.some.inj (h.symm.trans h')

variable [DecidableEq ι]

/-- Release the keys of a transaction. -/
def release (locks : Locks κ ι) (id : ι) (key : κ) : Option ι :=
  if locks key = some id then none else locks key

theorem Holds.release (h : Holds locks other key) (hne : other ≠ id) :
    Holds (release locks id) other key := by
  have hkept : ¬ locks key = some id := by
    rw [h]
    exact fun heq => hne (Option.some.inj heq)
  exact (if_neg hkept).trans h

variable [DecidableEq κ]

/-- Take a key; none when the transaction waits for it. -/
def take (locks : Locks κ ι) (id : ι) (key : κ) : Option (Locks κ ι) :=
  if locks key = none ∨ locks key = some id then some (Function.update locks key (some id)) else none

theorem take_eq_some (h : take locks id key = some locks') :
    (∀ other, Holds locks other key → other = id) ∧
      locks' = Function.update locks key (some id) := by
  unfold take at h
  split at h
  · rename_i hfree
    cases h
    refine ⟨?_, rfl⟩
    intro other hother
    rcases hfree with hnone | hid
    · rw [Holds, hnone] at hother
      cases hother
    · exact hother.unique hid
  · cases h

theorem holds_of_take (h : take locks id key = some locks') : Holds locks' id key := by
  obtain ⟨-, rfl⟩ := take_eq_some h
  exact Function.update_self ..

theorem Holds.take (h : Holds locks other k) (htake : take locks id key = some locks') :
    Holds locks' other k := by
  obtain ⟨hfree, rfl⟩ := take_eq_some htake
  by_cases hk : k = key
  · subst hk
    rw [hfree other h]
    exact Function.update_self ..
  · rw [Holds, Function.update_of_ne hk]
    exact h

end RowLocks
