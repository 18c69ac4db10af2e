import CreditOps.Library.PartialMap
import CreditOps.Library.Transition

/-!
# Read-modify-write transactions at read-committed isolation

A table of rows by key with an append-only log, and any number of transactions that each read one row,
check it, update it, append one log entry and commit, statement by statement and in any interleaving. A
read sees the last committed row; it may lock the row (`select … for update`). An update waits for the
lock of the row, takes it until the transaction ends, and applies to the row as it stands then, which a
trigger may reject. A transaction can be rolled back at any point before its commit, and leaves no trace
if it is.
-/

set_option autoImplicit false

namespace RowTransactions

open PartialMap

universe u v w x y

variable {κ : Type u} {ι : Type v} {ρ : Type w} {θ : Type x} {ε : Type y} [DecidableEq κ]

/-! ## Tables -/

/-- The committed rows by key, with their keys in the order of insertion and the log, newest entry
first. -/
structure Table (κ : Type u) (ρ : Type w) (ε : Type y) where
  keys : List κ
  rows : κ → Option ρ
  log : List (κ × ε)
  keyed : ∀ key, key ∈ keys ↔ (rows key).isSome = true

namespace Table

/-- The table without rows. -/
def empty : Table κ ρ ε where
  keys := []
  rows _ := none
  log := []
  keyed key := by simp only [List.not_mem_nil, Option.isSome_none, Bool.false_eq_true]

/-- The rows, oldest first. -/
def listing (table : Table κ ρ ε) : List ρ :=
  table.keys.filterMap table.rows

/-- The log entries of a row, newest first. -/
def logOf (table : Table κ ρ ε) (key : κ) : List ε :=
  (table.log.filter (·.1 = key)).map (·.2)

/-- Insert a row with its first entry; none when the key is taken. -/
def insert (table : Table κ ρ ε) (key : κ) (row : ρ) (entry : ε) : Option (Table κ ρ ε) :=
  if table.rows key = none then
    some
      { keys := table.keys ++ [key]
        rows := Function.update table.rows key (some row)
        log := (key, entry) :: table.log
        keyed := by
          intro k
          rw [List.mem_append, List.mem_singleton, table.keyed]
          by_cases hk : k = key
          · subst hk
            simp only [or_true, Function.update_self, Option.isSome_some]
          · rw [Function.update_of_ne hk, or_iff_left hk] }
  else none

/-- Overwrite a row and log it; none when there is no such row. -/
def write (table : Table κ ρ ε) (key : κ) (row : ρ) (entry : ε) : Option (Table κ ρ ε) :=
  if h : (table.rows key).isSome = true then
    some
      { keys := table.keys
        rows := Function.update table.rows key (some row)
        log := (key, entry) :: table.log
        keyed := by
          intro k
          obtain ⟨_, hold⟩ := Option.isSome_iff_exists.1 h
          rw [isSome_update_of_isSome hold, table.keyed] }
  else none

variable {table table' : Table κ ρ ε} {key k : κ} {row : ρ} {entry : ε}

omit [DecidableEq κ] in
theorem mem_listing_iff : row ∈ table.listing ↔ ∃ key, table.rows key = some row := by
  rw [listing, List.mem_filterMap]
  constructor
  · rintro ⟨key, -, hrow⟩
    exact ⟨key, hrow⟩
  · rintro ⟨key, hrow⟩
    exact ⟨key, (table.keyed key).2 (by rw [hrow, Option.isSome_some]), hrow⟩

theorem insert_eq_some (h : table.insert key row entry = some table') :
    table.rows key = none ∧ table'.rows = Function.update table.rows key (some row) ∧
      table'.log = (key, entry) :: table.log := by
  unfold insert at h
  split at h
  · rename_i hfree
    cases h
    exact ⟨hfree, rfl, rfl⟩
  · cases h

theorem write_eq_some (h : table.write key row entry = some table') :
    (table.rows key).isSome = true ∧ table'.rows = Function.update table.rows key (some row) ∧
      table'.log = (key, entry) :: table.log := by
  unfold write at h
  split at h
  · rename_i hrow
    cases h
    exact ⟨hrow, rfl, rfl⟩
  · cases h

theorem logOf_of_cons (h : table'.log = (key, entry) :: table.log) :
    table'.logOf k = if k = key then entry :: table.logOf k else table.logOf k := by
  unfold logOf
  rw [h, List.filter_cons]
  by_cases hk : k = key
  · subst hk
    rw [if_pos (decide_eq_true rfl), if_pos rfl, List.map_cons]
  · rw [if_neg (by simpa using Ne.symm hk), if_neg hk]

end Table

/-! ## Transactions -/

/-- A kind of transaction: the row it is about, whether its read locks the row, what it checks on the row
it has read, what its update makes of the row it meets (none when a trigger raises), and what it logs. -/
structure Protocol (κ : Type u) (ρ : Type w) (θ : Type x) (ε : Type y) where
  key : θ → κ
  forUpdate : Bool
  admits : θ → ρ → Bool
  write : θ → ρ → ρ → Option ρ
  entry : θ → ρ → ε

/-- How far a transaction has come. After the update it knows the row it met and the one it made. -/
inductive Stage (ρ : Type w) where
  | read
  | updated (base new : ρ)
  | recorded (base new : ρ)
deriving DecidableEq

/-- An open transaction: what was asked for, and the row as it was read. -/
structure Transaction (ρ : Type w) (θ : Type x) where
  request : θ
  seen : ρ
  stage : Stage ρ
deriving DecidableEq

/-- The committed table, the row locks, and the open transactions. -/
structure Session (κ : Type u) (ι : Type v) (ρ : Type w) (θ : Type x) (ε : Type y) where
  table : Table κ ρ ε
  holder : κ → Option ι
  transactions : ι → Option (Transaction ρ θ)

/-- One statement. -/
inductive Statement (κ : Type u) (ι : Type v) (ρ : Type w) (θ : Type x) (ε : Type y) where
  | insert (key : κ) (row : ρ) (entry : ε)
  | select (id : ι) (request : θ)
  | update (id : ι)
  | record (id : ι)
  | commit (id : ι)
  | rollback (id : ι)
deriving DecidableEq

/-- The statements of a transaction after its read. -/
inductive Continuation where
  | update
  | record
  | commit
  | rollback
deriving DecidableEq

namespace Continuation

/-- The statement of a transaction. -/
def of (id : ι) : Continuation → Statement κ ι ρ θ ε
  | update => .update id
  | record => .record id
  | commit => .commit id
  | rollback => .rollback id

omit [DecidableEq κ] in
theorem of_ne_insert {id : ι} {next : Continuation} {key : κ} {row : ρ} {entry : ε} :
    (next.of id : Statement κ ι ρ θ ε) ≠ .insert key row entry := by
  cases next <;> nofun

omit [DecidableEq κ] in
theorem of_eq_commit {id other : ι} {next : Continuation}
    (h : (next.of id : Statement κ ι ρ θ ε) = .commit other) : next = .commit ∧ other = id := by
  cases next with
  | commit =>
    cases h
    exact ⟨rfl, rfl⟩
  | update | record | rollback => cases h

end Continuation

variable [DecidableEq ι] {P : Protocol κ ρ θ ε}

namespace Session

/-- Nothing stored, nothing open. -/
def empty : Session κ ι ρ θ ε where
  table := .empty
  holder _ := none
  transactions _ := none

/-- Open a transaction or move it on. -/
def put (s : Session κ ι ρ θ ε) (id : ι) (transaction : Transaction ρ θ) : Session κ ι ρ θ ε :=
  { s with transactions := Function.update s.transactions id (some transaction) }

/-- Take the lock of a row. -/
def lock (s : Session κ ι ρ θ ε) (key : κ) (id : ι) : Session κ ι ρ θ ε :=
  { s with holder := Function.update s.holder key (some id) }

/-- End a transaction and release its lock. -/
def close (s : Session κ ι ρ θ ε) (id : ι) (key : κ) : Session κ ι ρ θ ε :=
  { s with
    transactions := Function.update s.transactions id none
    holder := if s.holder key = some id then Function.update s.holder key none else s.holder }

end Session

open Session

/-- What a statement does; none when it is not the transaction's next one, when it waits for a lock, or
when a read finds nothing the transaction may act on. -/
def execute (P : Protocol κ ρ θ ε) (s : Session κ ι ρ θ ε) :
    Statement κ ι ρ θ ε → Option (Session κ ι ρ θ ε)
  | .insert key row entry => (s.table.insert key row entry).map fun table => { s with table }
  | .select id request =>
    match s.transactions id, s.table.rows (P.key request) with
    | none, some row =>
      if P.admits request row = true then
        if P.forUpdate = true then
          if s.holder (P.key request) = none then
            some ((s.lock (P.key request) id).put id ⟨request, row, .read⟩)
          else none
        else some (s.put id ⟨request, row, .read⟩)
      else none
    | _, _ => none
  | .update id =>
    match s.transactions id with
    | some ⟨request, seen, .read⟩ =>
      if s.holder (P.key request) = none ∨ s.holder (P.key request) = some id then
        (s.table.rows (P.key request)).map fun base =>
          match P.write request seen base with
          | some new => (s.lock (P.key request) id).put id ⟨request, seen, .updated base new⟩
          | none => s.close id (P.key request)
      else none
    | _ => none
  | .record id =>
    match s.transactions id with
    | some ⟨request, seen, .updated base new⟩ => some (s.put id ⟨request, seen, .recorded base new⟩)
    | _ => none
  | .commit id =>
    match s.transactions id with
    | some ⟨request, seen, .recorded _ new⟩ =>
      (s.table.write (P.key request) new (P.entry request seen)).map fun table =>
        { s.close id (P.key request) with table }
    | _ => none
  | .rollback id =>
    (s.transactions id).map fun transaction => s.close id (P.key transaction.request)

/-- What a statement can do, with everything it has checked. -/
inductive Executed (P : Protocol κ ρ θ ε) (s : Session κ ι ρ θ ε) :
    Statement κ ι ρ θ ε → Session κ ι ρ θ ε → Prop where
  | inserted {key : κ} {row : ρ} {entry : ε} {table : Table κ ρ ε}
      (hins : s.table.insert key row entry = some table) :
      Executed P s (.insert key row entry) { s with table }
  | selected {id : ι} {request : θ} {row : ρ} (hfree : s.transactions id = none)
      (hrow : s.table.rows (P.key request) = some row) (hadmits : P.admits request row = true)
      (hplain : P.forUpdate = false) :
      Executed P s (.select id request) (s.put id ⟨request, row, .read⟩)
  | selectedForUpdate {id : ι} {request : θ} {row : ρ} (hfree : s.transactions id = none)
      (hrow : s.table.rows (P.key request) = some row) (hadmits : P.admits request row = true)
      (hforUpdate : P.forUpdate = true) (hunlocked : s.holder (P.key request) = none) :
      Executed P s (.select id request)
        ((s.lock (P.key request) id).put id ⟨request, row, .read⟩)
  | updated {id : ι} {request : θ} {seen base new : ρ}
      (htx : s.transactions id = some ⟨request, seen, .read⟩)
      (hbase : s.table.rows (P.key request) = some base)
      (hlock : s.holder (P.key request) = none ∨ s.holder (P.key request) = some id)
      (hwrite : P.write request seen base = some new) :
      Executed P s (.update id)
        ((s.lock (P.key request) id).put id ⟨request, seen, .updated base new⟩)
  | raised {id : ι} {request : θ} {seen base : ρ}
      (htx : s.transactions id = some ⟨request, seen, .read⟩)
      (hbase : s.table.rows (P.key request) = some base)
      (hwrite : P.write request seen base = none) :
      Executed P s (.update id) (s.close id (P.key request))
  | recorded {id : ι} {request : θ} {seen base new : ρ}
      (htx : s.transactions id = some ⟨request, seen, .updated base new⟩) :
      Executed P s (.record id) (s.put id ⟨request, seen, .recorded base new⟩)
  | committed {id : ι} {request : θ} {seen base new : ρ} {table : Table κ ρ ε}
      (htx : s.transactions id = some ⟨request, seen, .recorded base new⟩)
      (htable : s.table.write (P.key request) new (P.entry request seen) = some table) :
      Executed P s (.commit id) { s.close id (P.key request) with table }
  | rolledBack {id : ι} {transaction : Transaction ρ θ}
      (htx : s.transactions id = some transaction) :
      Executed P s (.rollback id) (s.close id (P.key transaction.request))

variable {s t : Session κ ι ρ θ ε} {statement : Statement κ ι ρ θ ε}

/-- **What a statement can do.** -/
theorem execute_cases (h : execute P s statement = some t) : Executed P s statement t := by
  cases statement with
  | insert =>
    obtain ⟨_, htable, rfl⟩ := Option.map_eq_some_iff.1 h
    exact .inserted htable
  | select id request =>
    simp only [execute] at h
    split at h
    · rename_i row hfree hrow
      split_ifs at h with hadmits hforUpdate hunlocked
      · cases h
        exact .selectedForUpdate hfree hrow hadmits hforUpdate hunlocked
      · cases h
        exact .selected hfree hrow hadmits (Bool.eq_false_iff.2 hforUpdate)
    · cases h
  | update id =>
    simp only [execute] at h
    split at h
    · rename_i request seen htx
      split_ifs at h with hlock
      obtain ⟨base, hbase, hnext⟩ := Option.map_eq_some_iff.1 h
      cases hwrite : P.write request seen base with
      | some =>
        simp only [hwrite] at hnext
        subst hnext
        exact .updated htx hbase hlock hwrite
      | none =>
        simp only [hwrite] at hnext
        subst hnext
        exact .raised htx hbase hwrite
    · cases h
  | record id =>
    simp only [execute] at h
    split at h
    · rename_i request seen base new htx
      cases h
      exact .recorded htx
    · cases h
  | commit id =>
    simp only [execute] at h
    split at h
    · rename_i request seen base new htx
      obtain ⟨_, htable, rfl⟩ := Option.map_eq_some_iff.1 h
      exact .committed htx htable
    · cases h
  | rollback =>
    obtain ⟨_, htx, rfl⟩ := Option.map_eq_some_iff.1 h
    exact .rolledBack htx

/-! ## Locks -/

/-- The update has been made: the row it met and the row it made. -/
def Stage.Pending (base new : ρ) : Stage ρ → Prop
  | .read => False
  | .updated base' new' | .recorded base' new' => base' = base ∧ new' = new

/-- What holds between the statements: a lock belongs to a transaction on its row, a transaction has
checked the row it read and its row is there, one that has updated its row holds the lock and the row has
stood still since, and under a locking read the same is true from the read on. -/
structure Consistent (P : Protocol κ ρ θ ε) (s : Session κ ι ρ θ ε) : Prop where
  held : ∀ {key id}, s.holder key = some id →
    ∃ transaction, s.transactions id = some transaction ∧ P.key transaction.request = key
  admitted : ∀ {id transaction}, s.transactions id = some transaction →
    P.admits transaction.request transaction.seen = true
  present : ∀ {id transaction}, s.transactions id = some transaction →
    (s.table.rows (P.key transaction.request)).isSome = true
  pending : ∀ {id transaction base new}, s.transactions id = some transaction →
    transaction.stage.Pending base new → s.holder (P.key transaction.request) = some id ∧
      s.table.rows (P.key transaction.request) = some base ∧
        P.write transaction.request transaction.seen base = some new
  locked : P.forUpdate = true → ∀ {id transaction}, s.transactions id = some transaction →
    s.holder (P.key transaction.request) = some id ∧
      s.table.rows (P.key transaction.request) = some transaction.seen

omit [DecidableEq κ] [DecidableEq ι] in
theorem consistent_empty : Consistent P (empty : Session κ ι ρ θ ε) where
  held h := nomatch h
  admitted h := nomatch h
  present h := nomatch h
  pending h := nomatch h
  locked _ _ _ h := nomatch h

namespace Consistent

variable {id : ι} {transaction : Transaction ρ θ}

omit [DecidableEq ι] in
/-- Inserting a row disturbs no transaction. -/
theorem insert (h : Consistent P s) {key : κ} {row : ρ} {entry : ε} {table : Table κ ρ ε}
    (hins : s.table.insert key row entry = some table) : Consistent P { s with table } := by
  obtain ⟨hfree, hrows, -⟩ := Table.insert_eq_some hins
  have hkeeps : ∀ {k base}, s.table.rows k = some base → table.rows k = some base := by
    intro k base hbase
    have hne : k ≠ key := by
      rintro rfl
      rw [hfree] at hbase
      cases hbase
    rw [hrows, Function.update_of_ne hne, hbase]
  refine ⟨h.held, h.admitted, ?_, ?_, ?_⟩
  · intro id transaction htx
    obtain ⟨row', hrow'⟩ := Option.isSome_iff_exists.1 (h.present htx)
    exact Option.isSome_iff_exists.2 ⟨row', hkeeps hrow'⟩
  · intro id transaction base new htx hpend
    obtain ⟨hholder, hbase, hwrite⟩ := h.pending htx hpend
    exact ⟨hholder, hkeeps hbase, hwrite⟩
  · intro hforUpdate id transaction htx
    obtain ⟨hholder, hseen⟩ := h.locked hforUpdate htx
    exact ⟨hholder, hkeeps hseen⟩

/-- Opening a transaction or moving it on, with or without taking the lock of its row. -/
theorem put (h : Consistent P s) (holder : κ → Option ι)
    (hsame : ∀ old, s.transactions id = some old → P.key old.request = P.key transaction.request)
    (hadmits : P.admits transaction.request transaction.seen = true)
    (hpresent : (s.table.rows (P.key transaction.request)).isSome = true)
    (hholder : holder = s.holder ∨
      ((s.holder (P.key transaction.request) = none ∨
          s.holder (P.key transaction.request) = some id) ∧
        holder = Function.update s.holder (P.key transaction.request) (some id)))
    (hpend : ∀ base new, transaction.stage.Pending base new →
      holder (P.key transaction.request) = some id ∧
        s.table.rows (P.key transaction.request) = some base ∧
          P.write transaction.request transaction.seen base = some new)
    (hlocked : P.forUpdate = true → holder (P.key transaction.request) = some id ∧
      s.table.rows (P.key transaction.request) = some transaction.seen) :
    Consistent P { Session.put s id transaction with holder } := by
  -- the locks of the other transactions stay with them
  have hothers : ∀ {k other}, other ≠ id → s.holder k = some other → holder k = some other := by
    intro k other hne hk
    rcases hholder with rfl | ⟨hmine, rfl⟩
    · exact hk
    · have hkey : k ≠ P.key transaction.request := by
        rintro rfl
        rcases hmine with hnone | hsome
        · rw [hnone] at hk
          cases hk
        · exact hne (Option.some.inj (hk.symm.trans hsome))
      rw [Function.update_of_ne hkey, hk]
  refine ⟨?_, ?_, ?_, ?_, ?_⟩
  · intro k other hk
    have hcases : s.holder k = some other ∨ (k = P.key transaction.request ∧ other = id) := by
      rcases hholder with rfl | ⟨-, rfl⟩
      · exact Or.inl hk
      · rcases update_some_cases hk with ⟨hkey, hother⟩ | ⟨-, hold⟩
        · exact Or.inr ⟨hkey, hother⟩
        · exact Or.inl hold
    by_cases hid : other = id
    · subst hid
      refine ⟨transaction, Function.update_self .., ?_⟩
      rcases hcases with hold | ⟨hkey, -⟩
      · obtain ⟨old, hold', hkey⟩ := h.held hold
        rw [← hsame old hold', hkey]
      · exact hkey.symm
    · rcases hcases with hold | ⟨-, hother⟩
      · obtain ⟨old, hold', hkey⟩ := h.held hold
        exact ⟨old, (Function.update_of_ne hid ..).trans hold', hkey⟩
      · exact absurd hother hid
  · intro other t ht
    rcases update_some_cases ht with ⟨-, rfl⟩ | ⟨-, hold⟩
    · exact hadmits
    · exact h.admitted hold
  · intro other t ht
    rcases update_some_cases ht with ⟨-, rfl⟩ | ⟨-, hold⟩
    · exact hpresent
    · exact h.present hold
  · intro other t base new ht hstage
    rcases update_some_cases ht with ⟨rfl, rfl⟩ | ⟨hne, hold⟩
    · exact hpend base new hstage
    · obtain ⟨hlock, hbase, hwrite⟩ := h.pending hold hstage
      exact ⟨hothers hne hlock, hbase, hwrite⟩
  · intro hforUpdate other t ht
    rcases update_some_cases ht with ⟨rfl, rfl⟩ | ⟨hne, hold⟩
    · exact hlocked hforUpdate
    · obtain ⟨hlock, hseen⟩ := h.locked hforUpdate hold
      exact ⟨hothers hne hlock, hseen⟩

/-- Ending a transaction, with the table left alone or with its own row written under its lock. -/
theorem close (h : Consistent P s) (htx : s.transactions id = some transaction)
    {table : Table κ ρ ε}
    (hpresent : ∀ k, (s.table.rows k).isSome = true → (table.rows k).isSome = true)
    (hrows : ∀ k, k ≠ P.key transaction.request ∨
      s.holder (P.key transaction.request) ≠ some id → table.rows k = s.table.rows k) :
    Consistent P { Session.close s id (P.key transaction.request) with table } := by
  -- what the lock of another transaction guards is not what this one wrote
  have hothers : ∀ {k other}, other ≠ id → s.holder k = some other →
      (Session.close s id (P.key transaction.request)).holder k = some other ∧
        table.rows k = s.table.rows k := by
    intro k other hne hk
    by_cases hmine : s.holder (P.key transaction.request) = some id
    · have hkey : k ≠ P.key transaction.request := by
        rintro rfl
        exact hne (Option.some.inj (hk.symm.trans hmine))
      refine ⟨?_, hrows k (Or.inl hkey)⟩
      simp only [Session.close, if_pos hmine, Function.update_of_ne hkey, hk]
    · refine ⟨?_, hrows k (Or.inr hmine)⟩
      simp only [Session.close, if_neg hmine, hk]
  have hopen : ∀ {other t}, Function.update s.transactions id none other = some t →
      other ≠ id ∧ s.transactions other = some t := by
    intro other t ht
    have hne : other ≠ id := by
      rintro rfl
      rw [Function.update_self] at ht
      cases ht
    exact ⟨hne, of_update_none ht⟩
  refine ⟨?_, ?_, ?_, ?_, ?_⟩
  · intro k other hk
    have hk' : s.holder k = some other ∧ other ≠ id := by
      simp only [Session.close] at hk
      split_ifs at hk with hmine
      · have hold := of_update_none hk
        refine ⟨hold, ?_⟩
        rintro rfl
        obtain ⟨_, hold', hkey⟩ := h.held hold
        rw [htx, Option.some.injEq] at hold'
        subst hold'
        rw [hkey, Function.update_self] at hk
        cases hk
      · refine ⟨hk, ?_⟩
        rintro rfl
        obtain ⟨_, hold', hkey⟩ := h.held hk
        rw [htx, Option.some.injEq] at hold'
        subst hold'
        exact hmine (hkey ▸ hk)
    obtain ⟨old, hold, hkey⟩ := h.held hk'.1
    exact ⟨old, (Function.update_of_ne hk'.2 ..).trans hold, hkey⟩
  · intro other t ht
    exact h.admitted (hopen ht).2
  · intro other t ht
    exact hpresent _ (h.present (hopen ht).2)
  · intro other t base new ht hstage
    obtain ⟨hne, hold⟩ := hopen ht
    obtain ⟨hlock, hbase, hwrite⟩ := h.pending hold hstage
    obtain ⟨hlock', hsame⟩ := hothers hne hlock
    exact ⟨hlock', hsame.trans hbase, hwrite⟩
  · intro hforUpdate other t ht
    obtain ⟨hne, hold⟩ := hopen ht
    obtain ⟨hlock, hseen⟩ := h.locked hforUpdate hold
    obtain ⟨hlock', hsame⟩ := hothers hne hlock
    exact ⟨hlock', hsame.trans hseen⟩

/-- **Every statement keeps the locks consistent.** -/
theorem execute (h : Consistent P s) (hstep : RowTransactions.execute P s statement = some t) :
    Consistent P t := by
  cases execute_cases hstep with
  | inserted hins => exact h.insert hins
  | @selected id request row hfree hrow hadmits hplain =>
    have hpresent := Option.isSome_iff_exists.2 ⟨row, hrow⟩
    refine h.put s.holder ?_ hadmits hpresent (Or.inl rfl) nofun ?_
    · intro old hold
      rw [hfree] at hold
      cases hold
    · intro hforUpdate
      rw [hplain] at hforUpdate
      cases hforUpdate
  | @selectedForUpdate id request row hfree hrow hadmits hforUpdate hunlocked =>
    have hpresent := Option.isSome_iff_exists.2 ⟨row, hrow⟩
    refine h.put _ ?_ hadmits hpresent (Or.inr ⟨Or.inl hunlocked, rfl⟩) nofun ?_
    · intro old hold
      rw [hfree] at hold
      cases hold
    · intro _
      exact ⟨Function.update_self .., hrow⟩
  | @updated id request seen base new htx hbase hlock hwrite =>
    have hadmits := h.admitted htx
    have hpresent := h.present htx
    refine h.put _ ?_ hadmits hpresent (Or.inr ⟨hlock, rfl⟩) ?_ ?_
    · intro old hold
      rw [htx, Option.some.injEq] at hold
      rw [← hold]
    · rintro _ _ ⟨rfl, rfl⟩
      exact ⟨Function.update_self .., hbase, hwrite⟩
    · intro hforUpdate
      exact ⟨Function.update_self .., (h.locked hforUpdate htx).2⟩
  | raised htx | rolledBack htx => exact h.close htx (fun _ hk => hk) fun _ _ => rfl
  | @recorded id request seen base new htx =>
    have hadmits := h.admitted htx
    have hpresent := h.present htx
    refine h.put s.holder ?_ hadmits hpresent (Or.inl rfl) ?_ ?_
    · intro old hold
      rw [htx, Option.some.injEq] at hold
      rw [← hold]
    · rintro _ _ ⟨rfl, rfl⟩
      have hpend := h.pending htx ⟨rfl, rfl⟩
      exact hpend
    · intro hforUpdate
      have hlocked := h.locked hforUpdate htx
      exact hlocked
  | @committed id request seen base new table htx htable =>
    obtain ⟨hsome, hrows, -⟩ := Table.write_eq_some htable
    refine h.close htx (fun k hk => ?_) fun k hk => ?_
    · obtain ⟨_, hold⟩ := Option.isSome_iff_exists.1 hsome
      rw [hrows, isSome_update_of_isSome hold, hk]
    · have hholder := (h.pending htx ⟨rfl, rfl⟩).1
      rcases hk with hne | hnot
      · rw [hrows, Function.update_of_ne hne]
      · exact absurd hholder hnot

end Consistent

/-! ## What is committed -/

/-- **What a statement makes visible**: nothing, a new row, or what one transaction has written. -/
theorem execute_table_cases (h : execute P s statement = some t) :
    t.table = s.table ∨
      (∃ key row entry, statement = .insert key row entry ∧
        s.table.insert key row entry = some t.table) ∨
      ∃ id transaction base new, statement = .commit id ∧ s.transactions id = some transaction ∧
        transaction.stage.Pending base new ∧
        s.table.write (P.key transaction.request) new
          (P.entry transaction.request transaction.seen) = some t.table := by
  cases execute_cases h with
  | inserted hins => exact Or.inr (Or.inl ⟨_, _, _, rfl, hins⟩)
  | committed htx htable =>
    exact Or.inr (Or.inr ⟨_, _, _, _, rfl, htx, ⟨rfl, rfl⟩, htable⟩)
  | selected | selectedForUpdate | updated | raised | recorded | rolledBack => exact Or.inl rfl

/-- One action of the table on its own: a new row, or a whole transaction at once. -/
inductive AtomicAction (κ : Type u) (ρ : Type w) (θ : Type x) (ε : Type y) where
  | insert (key : κ) (row : ρ) (entry : ε)
  | apply (request : θ)

/-- The transactions one at a time: each reads the row, checks it and writes it. -/
def atomicStep (P : Protocol κ ρ θ ε) (table : Table κ ρ ε) :
    AtomicAction κ ρ θ ε → Option (Table κ ρ ε)
  | .insert key row entry => table.insert key row entry
  | .apply request =>
    match table.rows (P.key request) with
    | none => none
    | some row =>
      if P.admits request row = true then
        (P.write request row row).bind fun new =>
          table.write (P.key request) new (P.entry request row)
      else none

theorem apply_eq_some {table table' : Table κ ρ ε} {request : θ}
    (h : atomicStep P table (.apply request) = some table') :
    ∃ row new, table.rows (P.key request) = some row ∧ P.admits request row = true ∧
      P.write request row row = some new ∧
      table'.rows = Function.update table.rows (P.key request) (some new) ∧
      table'.log = (P.key request, P.entry request row) :: table.log := by
  simp only [atomicStep] at h
  split at h
  · cases h
  rename_i row hrow
  split_ifs at h with hadmits
  obtain ⟨new, hwrite, htable⟩ := Option.bind_eq_some_iff.1 h
  obtain ⟨-, hrows, hlog⟩ := Table.write_eq_some htable
  exact ⟨row, new, hrow, hadmits, hwrite, hrows, hlog⟩

omit [DecidableEq ι] in
theorem Consistent.commit_atomic (h : Consistent P s) (hforUpdate : P.forUpdate = true) {id : ι}
    {transaction : Transaction ρ θ} {base new : ρ} {table : Table κ ρ ε}
    (hopen : s.transactions id = some transaction) (hstage : transaction.stage.Pending base new)
    (htable : s.table.write (P.key transaction.request) new
      (P.entry transaction.request transaction.seen) = some table) :
    atomicStep P s.table (.apply transaction.request) = some table := by
  obtain ⟨-, hbase, hwrite⟩ := h.pending hopen hstage
  obtain ⟨-, hseen⟩ := h.locked hforUpdate hopen
  -- the row the update met is the row that was read
  obtain rfl : base = transaction.seen := Option.some.inj (hbase.symm.trans hseen)
  simp only [atomicStep, hseen, if_pos (h.admitted hopen), hwrite, Option.bind_some, htable]

/-! ## Stale reads -/

/-- Every open transaction has read a row from which the current one has come. -/
def ReadsRelated (R : ρ → ρ → Prop) (P : Protocol κ ρ θ ε) (s : Session κ ι ρ θ ε) : Prop :=
  ∀ id transaction row, s.transactions id = some transaction →
    s.table.rows (P.key transaction.request) = some row → R transaction.seen row

/-- **What is read stays related to what it becomes**, as long as each commit moves its row along the
relation. -/
theorem ReadsRelated.execute {R : ρ → ρ → Prop} (hrefl : ∀ row, R row row)
    (htrans : ∀ {a b c}, R a b → R b c → R a c) (h : ReadsRelated R P s) (hcons : Consistent P s)
    (hstep : RowTransactions.execute P s statement = some t)
    (hcom : ∀ {id transaction base new}, statement = .commit id →
      s.transactions id = some transaction → transaction.stage.Pending base new → R base new) :
    ReadsRelated R P t := by
  have hput : ∀ id tr, (∀ row, s.table.rows (P.key tr.request) = some row → R tr.seen row) →
      ∀ other tr' row, Function.update s.transactions id (some tr) other = some tr' →
        s.table.rows (P.key tr'.request) = some row → R tr'.seen row := by
    intro id tr htr other tr' row ht hrow
    rcases update_some_cases ht with ⟨-, rfl⟩ | ⟨-, hold⟩
    · exact htr row hrow
    · exact h other tr' row hold hrow
  have hread : ∀ request row, s.table.rows (P.key request) = some row →
      ∀ row', s.table.rows (P.key request) = some row' → R row row' := by
    intro request row hrow row' hrow'
    obtain rfl : row = row' := Option.some.inj (hrow.symm.trans hrow')
    exact hrefl row
  cases execute_cases hstep with
  | @inserted key row entry table hins =>
    obtain ⟨hfree, hrows, -⟩ := Table.insert_eq_some hins
    intro id tr row' ht hrow'
    have hne : P.key tr.request ≠ key := by
      intro hkey
      have hpresent := hcons.present ht
      rw [hkey, hfree] at hpresent
      cases hpresent
    simp only [hrows, Function.update_of_ne hne] at hrow'
    exact h id tr row' ht hrow'
  | @selected id request row hfree hrow | @selectedForUpdate id request row hfree hrow =>
    exact hput id ⟨request, row, .read⟩ (hread request row hrow)
  | @updated id request seen base new htx =>
    have hold := h id ⟨request, seen, .read⟩
    exact hput id ⟨request, seen, .updated base new⟩ fun row hrow => hold row htx hrow
  | @recorded id request seen base new htx =>
    have hold := h id ⟨request, seen, .updated base new⟩
    exact hput id ⟨request, seen, .recorded base new⟩ fun row hrow => hold row htx hrow
  | raised | rolledBack => exact fun id tr row ht hrow => h id tr row (of_update_none ht) hrow
  | @committed id request seen base new table htx htable =>
    obtain ⟨-, hrows, -⟩ := Table.write_eq_some htable
    obtain ⟨-, hbase, -⟩ := hcons.pending htx ⟨rfl, rfl⟩
    intro other tr row ht hrow
    have hold := of_update_none ht
    simp only [hrows] at hrow
    rcases update_some_cases hrow with ⟨hkey, rfl⟩ | ⟨-, hrow'⟩
    · exact htrans (h other tr base hold (hkey ▸ hbase)) (hcom rfl htx ⟨rfl, rfl⟩)
    · exact h other tr row hold hrow'

end RowTransactions
