import Mathlib.Data.List.Basic

/-!
# Fencing logs

A log, newest event first, of a resource that one holder at a time may act on: a holder acquires it,
and a third party may revoke it. The holder is read off the log (`holder`). `revokedSince` says that a
revocation is newer than the last acquisition of a given key, and `acquiredSince` lists the
acquisitions newer than it.
-/

set_option autoImplicit false

namespace Fencing

universe u

/-- One entry of a fencing log. -/
inductive FenceEvent (κ : Type u) where
  | acquire (key : κ)
  | revoke
  | neutral
deriving DecidableEq

variable {κ : Type u}

/-- The holder after a log, newest event first. -/
def holder : List (FenceEvent κ) → Option κ
  | [] => none
  | .acquire k :: _ => some k
  | .revoke :: _ => none
  | .neutral :: log => holder log

@[simp] theorem holder_acquire (k : κ) (log : List (FenceEvent κ)) :
    holder (.acquire k :: log) = some k := rfl

@[simp] theorem holder_neutral (log : List (FenceEvent κ)) :
    holder (.neutral :: log) = holder log := rfl

variable [DecidableEq κ]

/-- A revocation is newer than the last acquisition of `k`. -/
def revokedSince (k : κ) : List (FenceEvent κ) → Bool
  | [] => false
  | .acquire j :: log => if j = k then false else revokedSince k log
  | .revoke :: log => decide (FenceEvent.acquire k ∈ log)
  | .neutral :: log => revokedSince k log

/-- The acquisitions newer than the last acquisition of `k`, newest first. -/
def acquiredSince (k : κ) : List (FenceEvent κ) → List κ
  | [] => []
  | .acquire j :: log => if j = k then [] else j :: acquiredSince k log
  | .revoke :: log => acquiredSince k log
  | .neutral :: log => acquiredSince k log

/-! ## One event -/

@[simp] theorem revokedSince_acquire_self (k : κ) (log : List (FenceEvent κ)) :
    revokedSince k (.acquire k :: log) = false := by
  simp only [revokedSince, ↓reduceIte]

@[simp] theorem revokedSince_neutral (k : κ) (log : List (FenceEvent κ)) :
    revokedSince k (.neutral :: log) = revokedSince k log := rfl

variable {k : κ}

theorem revokedSince_acquire_of_ne {j : κ} (hjk : j ≠ k) (log : List (FenceEvent κ)) :
    revokedSince k (.acquire j :: log) = revokedSince k log := by
  simp only [revokedSince, if_neg hjk]

variable {log : List (FenceEvent κ)}

theorem revokedSince_revoke (hk : FenceEvent.acquire k ∈ log) :
    revokedSince k (.revoke :: log) = true := by
  simp only [revokedSince, decide_eq_true_eq]
  exact hk

@[simp] theorem acquiredSince_neutral (k : κ) (log : List (FenceEvent κ)) :
    acquiredSince k (.neutral :: log) = acquiredSince k log := rfl

/-! ## The log as a whole -/

/-- The holder has not been revoked. -/
theorem revokedSince_eq_false_of_holder (h : holder log = some k) : revokedSince k log = false := by
  induction log with
  | nil => cases h
  | cons e log ih =>
    cases e with
    | acquire =>
      cases h
      exact revokedSince_acquire_self k log
    | revoke => cases h
    | neutral =>
      rw [revokedSince_neutral]
      exact ih h

/-- Nothing was acquired after the holder. -/
theorem acquiredSince_eq_nil_of_holder (h : holder log = some k) : acquiredSince k log = [] := by
  induction log with
  | nil => cases h
  | cons e _ ih =>
    cases e with
    | acquire =>
      cases h
      simp only [acquiredSince, ↓reduceIte]
    | revoke => cases h
    | neutral =>
      rw [acquiredSince_neutral]
      exact ih h

/-- Where only one key exists, it holds the resource once acquired and until revoked. -/
theorem holder_eq_some_of_acquire_mem [Subsingleton κ] (hmem : FenceEvent.acquire k ∈ log)
    (h : revokedSince k log = false) : holder log = some k := by
  induction log with
  | nil => cases hmem
  | cons e log ih =>
    cases e with
    | acquire j => rw [holder_acquire, Subsingleton.elim j k]
    | revoke =>
      have hrest : FenceEvent.acquire k ∈ log := List.mem_of_ne_of_mem (by simp) hmem
      rw [revokedSince_revoke hrest] at h
      cases h
    | neutral =>
      rw [revokedSince_neutral] at h
      exact ih (List.mem_of_ne_of_mem (by simp) hmem) h

/-- **An overtaken key is not the holder.** -/
theorem holder_ne_of_revokedSince (h : revokedSince k log = true) : holder log ≠ some k := by
  intro hk
  rw [revokedSince_eq_false_of_holder hk] at h
  cases h

end Fencing
