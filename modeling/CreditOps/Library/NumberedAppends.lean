import CreditOps.Library.AppendLog
import CreditOps.Library.KeyedInserts
import CreditOps.Library.Transition

/-!
# Appending under the next number

Callers append rows to one table. Each reads the largest number in one statement, inserts a row under the
next one in a later statement, and commits; a unique key on the number decides between two that have read
the same. What meets a row starts over until its attempts are used up. The answer is made after the
commit, so a row whose answer cannot be made is stored by a call that fails.
-/

set_option autoImplicit false

namespace NumberedAppends

open KeyedInserts Transition AppendLog

universe u v

variable {ι : Type u} {φ : Type v}

/-- A row: its caller, its number and its fields. -/
structure Row (ι : Type u) (φ : Type v) where
  caller : ι
  number : Nat
  fields : φ
deriving DecidableEq

/-- How rows are appended: which ones the checks let in, how often it is tried, and which ones can be
answered with. -/
structure Appender (φ : Type v) where
  admits : φ → Bool
  attempts : Nat
  answers : φ → Bool

/-- How far a call has come, and how often it has met a row. -/
inductive Stage where
  | reading (lost : Nat)
  | inserting (lost number : Nat)
  | committing (number : Nat)
  | done (number : Nat)
  | failed
deriving DecidableEq

/-- The unique key of a row. -/
def numberKeys (row : Row ι φ) : List Nat :=
  [row.number]

/-- The largest number and one. -/
def nextNumber (rows : List (Row ι φ)) : Nat :=
  (rows.map (·.number)).foldr max 0 + 1

/-- The table, and the calls. -/
structure World (ι : Type u) (φ : Type v) where
  session : Session Nat ι (Row ι φ)
  calls : ι → Option (φ × Stage)

/-- A call starts, takes its next statement, or has it refused: by a constraint, or by a lost connection. -/
inductive Action (ι : Type u) (φ : Type v) where
  | request (id : ι) (fields : φ)
  | statement (id : ι)
  | refuse (id : ι)
deriving DecidableEq

namespace World

/-- No row and no call. -/
def empty : World ι φ where
  session := .empty
  calls _ := none

variable [DecidableEq ι]

/-- The committed rows of a call. -/
def rowsOf (w : World ι φ) (id : ι) : List (Row ι φ) :=
  w.session.rows.filter (·.caller = id)

/-- Move a call on. -/
def put (w : World ι φ) (session : Session Nat ι (Row ι φ)) (id : ι) (call : φ × Stage) : World ι φ where
  session
  calls := Function.update w.calls id (some call)

variable (appender : Appender φ)

/-- One step; none when it is not enabled, or when the insert waits. -/
def step (w : World ι φ) : Action ι φ → Option (World ι φ)
  | .request id fields =>
    match w.calls id with
    | none => some (w.put w.session id (fields, .reading 0))
    | some _ => none
  | .statement id =>
    match w.calls id with
    | some (fields, .reading lost) =>
      some (w.put w.session id (fields,
        if appender.admits fields then .inserting lost (nextNumber (w.session.view id)) else .failed))
    | some (fields, .inserting lost number) =>
      match w.session.insert numberKeys id ⟨id, number, fields⟩ with
      | .waits => none
      | .conflict =>
        some (w.put (w.session.rollback id) id
          (fields, if lost + 1 < appender.attempts then .reading (lost + 1) else .failed))
      | .inserted session => some (w.put session id (fields, .committing number))
    | some (fields, .committing number) =>
      some (w.put (w.session.commit id) id
        (fields, if appender.answers fields then .done number else .failed))
    | some (_, .done _) | some (_, .failed) | none => none
  | .refuse id =>
    match w.calls id with
    | some (fields, .reading _) | some (fields, .inserting _ _) | some (fields, .committing _) =>
      some (w.put (w.session.rollback id) id (fields, .failed))
    | some (_, .done _) | some (_, .failed) | none => none

end World

/-! ## The invariant -/

/-- What the open transaction of a call has inserted. -/
def pending (id : ι) : Option (φ × Stage) → List (Row ι φ)
  | some (fields, .committing number) => [⟨id, number, fields⟩]
  | _ => []

/-- What a call has stored: nothing, or its own row once it is done. -/
def storedBy (id : ι) : Option (φ × Stage) → List (Row ι φ)
  | some (fields, .done number) => [⟨id, number, fields⟩]
  | _ => []

/-- The number a call has read and not yet committed. -/
def read : Option (φ × Stage) → Option Nat
  | some (_, .inserting _ number) | some (_, .committing number) => some number
  | _ => none

/-- A number is one, or one beyond a stored number. -/
def Follows (rows : List (Row ι φ)) (number : Nat) : Prop :=
  number = 1 ∨ ∃ row ∈ rows, number = row.number + 1

theorem nextNumber_follows (rows : List (Row ι φ)) : Follows rows (nextNumber rows) := by
  unfold nextNumber Follows
  induction rows with
  | nil => exact Or.inl rfl
  | cons row rows ih =>
    rw [List.map_cons, List.foldr_cons]
    rcases le_total row.number ((rows.map (·.number)).foldr max 0) with hle | hle
    · rw [max_eq_right hle]
      refine ih.imp_right ?_
      rintro ⟨other, hother, heq⟩
      exact ⟨other, List.mem_cons_of_mem _ hother, heq⟩
    · rw [max_eq_left hle]
      exact Or.inr ⟨row, List.mem_cons_self, rfl⟩

variable [DecidableEq ι]

/-- The numbers run from one without a hole, and each call has stored what it says. -/
structure Gapless (w : World ι φ) : Prop where
  numbered : (w.session.rows.map (·.number)).reverse = List.range' 1 w.session.rows.length
  stored : ∀ id, w.rowsOf id = storedBy id (w.calls id)

/-- Every row that is let in can be answered with, and a call with a number has been let in. -/
def Answerable (appender : Appender φ) (fields : φ) (stage : Stage) : Prop :=
  (appender.admits fields → appender.answers fields) ∧
    (read (some (fields, stage)) = none ∨ appender.admits fields)

/-- What every step keeps. -/
structure Inv (appender : Appender φ) (w : World ι φ) : Prop where
  numbered : Numbered Row.number w.session.rows
  exclusive : Exclusive numberKeys w.session
  staged : ∀ id, w.session.staged id = pending id (w.calls id)
  stored : ∀ id, w.rowsOf id = storedBy id (w.calls id)
  follows : ∀ id number, read (w.calls id) = some number → Follows w.session.rows number
  answers : ∀ id fields stage, w.calls id = some (fields, stage) → Answerable appender fields stage

theorem inv_empty (appender : Appender φ) : Inv appender (World.empty : World ι φ) where
  numbered := trivial
  exclusive := exclusive_empty
  staged _ := rfl
  stored _ := rfl
  follows _ _ := nofun
  answers _ _ _ := nofun

variable {appender : Appender φ} {w w' : World ι φ} {id : ι} {fields : φ} {stage : Stage}
  {session : Session Nat ι (Row ι φ)}

/-- One call moves on, and what is new in the table is its own. -/
theorem Inv.put (h : Inv appender w) {new : List (Row ι φ)} (hrows : session.rows = new ++ w.session.rows)
    (hnew : ∀ row ∈ new, row.caller = id) (hnum : Numbered Row.number session.rows)
    (hexcl : Exclusive numberKeys session) (hself : session.staged id = pending id (some (fields, stage)))
    (hother : ∀ other, other ≠ id → session.staged other = w.session.staged other)
    (hstored : new ++ storedBy id (w.calls id) = storedBy id (some (fields, stage)))
    (hread : ∀ number, read (some (fields, stage)) = some number → Follows session.rows number)
    (hans : Answerable appender fields stage) : Inv appender (w.put session id (fields, stage)) := by
  have hcall : (w.put session id (fields, stage)).calls id = some (fields, stage) := Function.update_self ..
  have hcalls : ∀ other, other ≠ id → (w.put session id (fields, stage)).calls other = w.calls other :=
    fun other hne => Function.update_of_ne hne _ _
  refine ⟨hnum, hexcl, fun other => ?_, fun other => ?_, fun other => ?_, fun other => ?_⟩
  all_goals by_cases hne : other = id
  · rw [hne, hcall]
    exact hself
  · rw [hcalls other hne, ← h.staged other]
    exact hother other hne
  · subst hne
    have hsplit : (w.put session other (fields, stage)).rowsOf other = new ++ w.rowsOf other := by
      rw [World.rowsOf, World.put, hrows, List.filter_append]
      exact congrArg (· ++ _) (List.filter_eq_self.2 fun row hrow => decide_eq_true (hnew row hrow))
    rw [hsplit, h.stored, hcall, hstored]
  · have hnone : new.filter (·.caller = other) = [] :=
      List.filter_eq_nil_iff.2 fun row hrow heq => hne ((of_decide_eq_true heq).symm.trans (hnew row hrow))
    rw [hcalls other hne, ← h.stored other, World.rowsOf, World.put, hrows, List.filter_append, hnone]
    rfl
  · rw [hne, hcall]
    exact hread
  · -- a stored number stays stored
    intro number hnumber
    rw [hcalls other hne] at hnumber
    refine (h.follows other number hnumber).imp_right ?_
    rintro ⟨row, hrow, heq⟩
    refine ⟨row, ?_, heq⟩
    rw [World.put, hrows]
    exact List.mem_append_right new hrow
  · rintro _ _ hmoved
    rw [hne, hcall] at hmoved
    cases hmoved
    exact hans
  · rw [hcalls other hne]
    exact h.answers other

/-- A call that has stored nothing moves on without storing anything. -/
theorem Inv.move (h : Inv appender w) (hrows : session.rows = w.session.rows)
    (hexcl : Exclusive numberKeys session) (hself : session.staged id = pending id (some (fields, stage)))
    (hother : ∀ other, other ≠ id → session.staged other = w.session.staged other)
    (hbefore : storedBy id (w.calls id) = [])
    (hafter : storedBy id (some (fields, stage)) = [])
    (hread : ∀ number, read (some (fields, stage)) = some number → Follows w.session.rows number)
    (hans : Answerable appender fields stage) : Inv appender (w.put session id (fields, stage)) :=
  h.put (show _ = [] ++ w.session.rows from hrows) (fun _ hrow => absurd hrow List.not_mem_nil) (hrows ▸ h.numbered)
    hexcl hself hother (hbefore.trans hafter.symm) (hrows ▸ hread) hans

/-- A call that has stored nothing is rolled back. -/
theorem Inv.rollback (h : Inv appender w) {before : Stage} (hcall : w.calls id = some (fields, before))
    (hbefore : storedBy id (some (fields, before)) = [])
    (hself : pending id (some (fields, stage)) = []) (hafter : storedBy id (some (fields, stage)) = [])
    (hread : read (some (fields, stage)) = none) :
    Inv appender (w.put (w.session.rollback id) id (fields, stage)) :=
  h.move rfl (h.exclusive.rollback id) (Session.rollback_staged_self.trans hself.symm)
    (fun _ hne => Session.rollback_staged_of_ne hne) (hcall ▸ hbefore) hafter
    (fun _ hnum => by cases hread.symm.trans hnum) ⟨(h.answers id _ _ hcall).1, Or.inl hread⟩

/-- **One step.** Every action keeps the invariant when the rows it starts can be answered with. -/
theorem Inv.step (h : Inv appender w) {action : Action ι φ}
    (hallow : ∀ id fields, action = .request id fields → appender.admits fields → appender.answers fields)
    (hstep : World.step appender w action = some w') : Inv appender w' := by
  cases action with
  | request id fields =>
    simp only [World.step] at hstep
    split at hstep
    · rename_i hnone
      cases hstep
      exact h.move rfl h.exclusive (by rw [h.staged, hnone]; rfl) (fun _ _ => rfl) (by rw [hnone]; rfl) rfl
        (by rintro _ ⟨⟩) ⟨hallow id fields rfl, Or.inl rfl⟩
    · cases hstep
  | statement id =>
    simp only [World.step] at hstep
    have hstaged := h.staged id
    have hfollows := h.follows id
    split at hstep
    case h_1 fields lost hcall =>
      cases hstep
      have hans := (h.answers id _ _ hcall).1
      rw [hcall] at hstaged
      have hview : w.session.view id = w.session.rows := by rw [Session.view, hstaged]; rfl
      split
      · rename_i hadm
        refine h.move rfl h.exclusive hstaged (fun _ _ => rfl) (by rw [hcall]; rfl) rfl ?_ ⟨hans, Or.inr hadm⟩
        rintro _ ⟨⟩
        exact hview ▸ nextNumber_follows _
      · exact h.move rfl h.exclusive hstaged (fun _ _ => rfl) (by rw [hcall]; rfl) rfl (by rintro _ ⟨⟩)
          ⟨hans, Or.inl rfl⟩
    case h_2 fields lost number hcall =>
      split at hstep
      · cases hstep
      · cases hstep
        split <;> exact h.rollback hcall rfl rfl rfl rfl
      · rename_i session hins
        cases hstep
        obtain ⟨hans, hadm⟩ := h.answers id _ _ hcall
        rw [hcall] at hstaged hfollows
        refine h.move (Session.insert_rows hins) (h.exclusive.insert hins) ?_
          (fun _ hne => Session.insert_staged_of_ne hins hne) (by rw [hcall]; rfl) rfl hfollows
          ⟨hans, Or.inr (hadm.resolve_left (by rintro ⟨⟩))⟩
        rw [Session.insert_staged_self hins, hstaged]
        rfl
    case h_3 fields number hcall =>
      cases hstep
      rw [hcall] at hstaged hfollows
      have hrows : (w.session.commit id).rows = [⟨id, number, fields⟩] ++ w.session.rows := by
        rw [Session.commit_rows, hstaged]
        rfl
      -- the number is free: the transaction has held its key since the insert
      have hview := h.exclusive.view id
      rw [Session.view, hstaged] at hview
      have hfree : ∀ row ∈ w.session.rows, row.number ≠ number := fun row hrow heq =>
        (List.pairwise_cons.1 hview).1 row hrow (List.mem_singleton.2 rfl) (List.mem_singleton.2 heq.symm)
      obtain ⟨hans, hadm⟩ := h.answers id _ _ hcall
      rw [if_pos (hans (hadm.resolve_left (by rintro ⟨⟩)))]
      refine h.put hrows (fun row hrow => by rw [List.mem_singleton.1 hrow])
        (hrows ▸ ⟨h.numbered.eq_next hfree (hfollows number rfl), h.numbered⟩) (h.exclusive.commit id)
        Session.commit_staged_self (fun _ hne => Session.commit_staged_of_ne hne) ?_ (by rintro _ ⟨⟩)
        ⟨hans, Or.inl rfl⟩
      rw [hcall]
      rfl
    all_goals cases hstep
  | refuse id =>
    simp only [World.step] at hstep
    split at hstep
    case h_1 hcall | h_2 hcall | h_3 hcall =>
      cases hstep
      exact h.rollback hcall rfl rfl rfl rfl
    all_goals cases hstep

/-- **Every run.** However the calls interleave, the table is gapless. -/
theorem gapless_of_run {actions : List (Action ι φ)}
    (hallow : ∀ id fields, .request id fields ∈ actions → appender.admits fields → appender.answers fields)
    (hrun : run (World.step appender) World.empty actions = some w) : Gapless w := by
  have hinv : Inv appender w :=
    run_invariant_of_allowed (fun hs hallow hstep => Inv.step hs hallow hstep)
      (fun _ hmem _ _ heq => hallow _ _ (heq ▸ hmem)) (inv_empty appender) hrun
  exact ⟨hinv.numbered.map_reverse, hinv.stored⟩

end NumberedAppends
