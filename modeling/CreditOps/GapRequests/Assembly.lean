import CreditOps.Library.AppendLog
import CreditOps.Orchestration.HumanGates
import CreditOps.GapRequests.Requests

/-!
# Assembling a batch and disposing of it

Assemble requests on one case version, statement by statement, while the evidence gaps change between them:
a request reads the open gaps, drafts a batch, inserts it under its snapshot hash unless a batch with that
hash is stored, and returns the stored batch with that hash. A disposition request takes the batch that was
created last and refuses any other.
-/

set_option autoImplicit false

namespace CreditOps.GapRequests.Assembly

open Transition PartialMap Orchestration AppendLog

/-! ## The system -/

/-- One row of `gap_request_batches` with its items; an inserted row shows up in reads once its transaction
has committed. -/
structure BatchRow where
  batch : GapRequestBatch
  createdAt : Timestamp
  committed : Bool
deriving DecidableEq

/-- How far one assemble request has come. -/
inductive AssemblePhase where
  | drafted
  | inserted
  | found
  | closed
deriving DecidableEq

/-- One assemble request and the batch it has drafted. -/
structure AssembleCall where
  batch : GapRequestBatch
  phase : AssemblePhase
deriving DecidableEq

/-- The gaps and gates of a case, its batches in the order of their inserts, newest first, what the
assemble requests have returned, newest first, and the requests in flight. -/
structure Desk where
  tables : CaseTables
  clock : Timestamp
  rows : List BatchRow
  assemblies : Uuid → Option AssembleCall
  returned : List GapRequestBatch
  decisions : Uuid → Option Decision
  dispositions : List GapRequestBatchDisposition

/-- One step of an interleaving. -/
inductive Request where
  | changeGaps (gaps : List EvidenceGap)
  | loadOpenGaps (batchId : Uuid) (itemIds : List Uuid)
  | insertBatch (batchId : Uuid) (now : Timestamp)
  | commitBatch (batchId : Uuid)
  | rollBack (batchId : Uuid)
  | decide (disposition : GapRequestBatchDisposition)
  | recordDisposition (dispositionId : Uuid)
  | readOpenGaps (dispositionId : Uuid)
  | satisfyG2 (dispositionId : Uuid) (now : Timestamp)
deriving DecidableEq

/-- The row of an assemble request. -/
def BatchRow.isOf (batchId : Uuid) (row : BatchRow) : Bool :=
  row.batch.id = batchId

/-- The row has the snapshot key. -/
def BatchRow.hasKey (batch : GapRequestBatch) (row : BatchRow) : Bool :=
  row.batch.caseVersion = batch.caseVersion ∧
    row.batch.openGapSnapshotHash = batch.openGapSnapshotHash

/-- `load_current_batch`: of the committed batches of the version, the one created last. -/
def loadCurrentBatch (rows : List BatchRow) (caseVersion : CaseVersion) : Option GapRequestBatch :=
  (latest (fun a b => a.createdAt ≤ b.createdAt)
    (fun row => row.committed ∧ row.batch.caseVersion = caseVersion) rows).map (·.batch)

/-- `_load_batch_by_key` -/
def loadBatchByKey (rows : List BatchRow) (batch : GapRequestBatch) : Option GapRequestBatch :=
  (rows.find? fun row => row.committed ∧ row.hasKey batch).map (·.batch)

namespace Desk

/-- Move an assemble request to a phase. -/
def setAssembly (s : Desk) (batchId : Uuid) (batch : GapRequestBatch) (phase : AssemblePhase) : Desk :=
  { s with assemblies := Function.update s.assemblies batchId (some ⟨batch, phase⟩) }

/-- Move a decision to a phase. -/
def setDecision (s : Desk) (dispositionId : Uuid) (batch : GapRequestBatch)
    (disposition : GapRequestBatchDisposition) (phase : DecisionPhase) : Desk :=
  { s with
    decisions := Function.update s.decisions dispositionId (some ⟨batch, disposition, phase⟩) }

end Desk

/-- The step function; none for a request that is not at that point, waits for another transaction, or is
refused. The clock reads later at every insert. -/
def step (s : Desk) : Request → Option Desk
  | .changeGaps gaps => some { s with tables := { s.tables with gaps } }
  | .loadOpenGaps batchId itemIds =>
    match s.assemblies batchId, assembleGapRequestBatch (s.tables.openGaps s.tables.caseVersion)
        s.tables.caseVersion itemIds batchId with
    | none, some batch => some (s.setAssembly batchId batch .drafted)
    | _, _ => none
  | .insertBatch batchId now =>
    match s.assemblies batchId with
    | some ⟨batch, .drafted⟩ =>
      match s.rows.find? (·.hasKey batch) with
      | none =>
        if s.clock < now then
          some { s.setAssembly batchId batch .inserted with
                 clock := now
                 rows := ⟨batch, now, false⟩ :: s.rows }
        else none
      | some row =>
        -- `on conflict do nothing`, once the other transaction has ended
        if row.committed = true then some (s.setAssembly batchId batch .found) else none
    | _ => none
  | .commitBatch batchId =>
    match s.assemblies batchId with
    | some ⟨batch, .inserted⟩ =>
      some { s.setAssembly batchId batch .closed with
             rows := s.rows.map fun row =>
              if row.isOf batchId = true then { row with committed := true } else row
             returned := batch :: s.returned }
    | some ⟨batch, .found⟩ =>
      (loadBatchByKey s.rows batch).map fun stored =>
        { s.setAssembly batchId batch .closed with returned := stored :: s.returned }
    | _ => none
  | .rollBack batchId =>
    match s.assemblies batchId with
    | some ⟨batch, .inserted⟩ =>
      some { s.setAssembly batchId batch .closed with
             rows := s.rows.filter fun row => !row.isOf batchId }
    | some ⟨batch, .drafted⟩ | some ⟨batch, .found⟩ => some (s.setAssembly batchId batch .closed)
    | _ => none
  | .decide disposition =>
    match loadCurrentBatch s.rows s.tables.caseVersion, s.decisions disposition.id with
    | some batch, none =>
      if batch.id = disposition.batchId ∧ isValidDisposition batch disposition = true then
        some (s.setDecision disposition.id batch disposition .loaded)
      else none
    | _, _ => none
  | .recordDisposition dispositionId =>
    match s.decisions dispositionId with
    | some ⟨batch, disposition, .loaded⟩ =>
      some { s.setDecision dispositionId batch disposition .recorded with
             dispositions := disposition :: s.dispositions }
    | _ => none
  | .readOpenGaps dispositionId =>
    match s.decisions dispositionId with
    | some ⟨batch, disposition, .recorded⟩ =>
      match deriveG2FromBatch batch (some disposition) s.tables.caseVersion
          (currentOpenGapHash s.tables) with
      | .satisfied => some (s.setDecision dispositionId batch disposition .derived)
      | .opened => some (s.setDecision dispositionId batch disposition .closed)
    | _ => none
  | .satisfyG2 dispositionId now =>
    match s.decisions dispositionId with
    | some ⟨batch, disposition, .derived⟩ =>
      some { s.setDecision dispositionId batch disposition .closed with
             tables :=
              s.tables.ensureGate s.tables.caseVersion .g2GapRequestApproval .satisfied now
                (some disposition.actorId) (some ("gap-request-batch:" ++ uuidText batch.id)) }
    | _ => none

/-- A case version without batches, with nothing in flight. -/
structure Initial (s : Desk) : Prop where
  noRow : s.rows = []
  noAssembly : ∀ id, s.assemblies id = none
  noneReturned : s.returned = []
  noDecision : ∀ id, s.decisions id = none

/-! ## The promise and the condition -/

/-- The requests of one disposition, from the endpoint's read of the current batch to its gate write. -/
def disposing (disposition : GapRequestBatchDisposition) (now : Timestamp) : List Request :=
  [.decide disposition, .recordDisposition disposition.id, .readOpenGaps disposition.id,
    .satisfyG2 disposition.id now]

/-- The disposition is accepted and satisfies the gate. -/
def Accepted (s : Desk) (disposition : GapRequestBatchDisposition) (now : Timestamp) : Prop :=
  ∃ t, run step s (disposing disposition now) = some t ∧
    t.tables.GateSatisfied t.tables.caseVersion .g2GapRequestApproval

/-- A batch of the same version was created after this one. -/
def Superseded (s : Desk) (batch : GapRequestBatch) : Prop :=
  ∃ row ∈ s.rows, row.batch = batch ∧ ∃ later ∈ s.rows, later.committed = true ∧
    later.batch.caseVersion = batch.caseVersion ∧ row.createdAt < later.createdAt

instance (s : Desk) (batch : GapRequestBatch) : Decidable (Superseded s batch) :=
  inferInstanceAs (Decidable (∃ row ∈ s.rows, row.batch = batch ∧ ∃ later ∈ s.rows, _))

variable {s t : Desk} {q : Request}

/-! ## What every reachable state satisfies -/

variable {batch : GapRequestBatch}

theorem assemble_eq_some {gaps : List EvidenceGap} {caseVersion : CaseVersion} {ids : List Uuid}
    {batchId : Uuid} (h : assembleGapRequestBatch gaps caseVersion ids batchId = some batch) :
    batch.id = batchId ∧ batch.caseVersion = caseVersion := by
  unfold assembleGapRequestBatch at h
  split_ifs at h
  cases h
  exact ⟨rfl, rfl⟩

/-- A row belongs to the request that has inserted it; the row is committed once that request is over. -/
def RowOf (row : BatchRow) (call : AssembleCall) : Prop :=
  call.batch = row.batch ∧
    (row.committed = true ∧ call.phase = .closed ∨ row.committed = false ∧ call.phase = .inserted)

/-- The batches are listed by the times of their inserts and have distinct ids, each belongs to its
request, a request drafts a batch of the version under its own id and finds it once it is inserted, and
what was returned is stored. -/
structure Filed (s : Desk) : Prop where
  sorted : s.rows.Pairwise fun newer older => older.createdAt < newer.createdAt
  clocked : ∀ row ∈ s.rows, row.createdAt ≤ s.clock
  keyed : (s.rows.map (·.batch.id)).Nodup
  calls : ∀ id call, s.assemblies id = some call →
    call.batch.id = id ∧ call.batch.caseVersion = s.tables.caseVersion
  owned : ∀ row ∈ s.rows, ∃ call, s.assemblies row.batch.id = some call ∧ RowOf row call
  inserted : ∀ id batch, s.assemblies id = some ⟨batch, .inserted⟩ →
    ∃ row ∈ s.rows, row.batch = batch
  stored : ∀ batch ∈ s.returned, ∃ row ∈ s.rows, row.committed = true ∧ row.batch = batch

theorem Initial.filed (h : Initial s) : Filed s where
  sorted := by rw [h.noRow]; exact List.Pairwise.nil
  clocked row hmem := by rw [h.noRow] at hmem; cases hmem
  keyed := by rw [h.noRow]; exact List.nodup_nil
  calls id call hcall := by rw [h.noAssembly] at hcall; cases hcall
  owned row hmem := by rw [h.noRow] at hmem; cases hmem
  inserted id batch hcall := by rw [h.noAssembly] at hcall; cases hcall
  stored batch hmem := by rw [h.noneReturned] at hmem; cases hmem

theorem closed_ne_inserted : AssemblePhase.closed ≠ .inserted := nofun

namespace Filed

theorem congr (h : Filed s) (hrows : t.rows = s.rows) (hclock : t.clock = s.clock)
    (hassemblies : t.assemblies = s.assemblies) (hreturned : t.returned = s.returned)
    (hver : t.tables.caseVersion = s.tables.caseVersion) : Filed t := by
  obtain ⟨hsort, hclocked, hkeyed, hcalls, howned, hinserted, hstored⟩ := h
  refine ⟨?_, ?_, ?_, ?_, ?_, ?_, ?_⟩
  · rwa [hrows]
  · rwa [hrows, hclock]
  · rwa [hrows]
  · rwa [hassemblies, hver]
  · rwa [hrows, hassemblies]
  · rwa [hrows, hassemblies]
  · rwa [hrows, hreturned]

variable {batchId : Uuid} {batch : GapRequestBatch} {phase : AssemblePhase}

theorem calls_of_set (h : Filed s) (hid : batch.id = batchId)
    (hver : batch.caseVersion = s.tables.caseVersion) :
    ∀ id call, (s.setAssembly batchId batch phase).assemblies id = some call →
      call.batch.id = id ∧ call.batch.caseVersion = s.tables.caseVersion := by
  intro id call hcall
  rcases update_some_cases hcall with ⟨rfl, rfl⟩ | ⟨-, hold⟩
  · exact ⟨hid, hver⟩
  · exact h.calls id call hold

theorem owned_of_set (h : Filed s) (hfree : ∀ row ∈ s.rows, row.batch.id ≠ batchId) :
    ∀ row ∈ s.rows, ∃ call, (s.setAssembly batchId batch phase).assemblies row.batch.id = some call ∧
      RowOf row call := by
  intro row hmem
  obtain ⟨call, hcall, howns⟩ := h.owned row hmem
  exact ⟨call, (Function.update_of_ne (hfree row hmem) ..).trans hcall, howns⟩

theorem no_row (h : Filed s) {call : AssembleCall} (hcall : s.assemblies batchId = some call)
    (hphase : call.phase = .drafted ∨ call.phase = .found) :
    ∀ row ∈ s.rows, row.batch.id ≠ batchId := by
  rintro row hmem rfl
  obtain ⟨owner, howner, -, howns⟩ := h.owned row hmem
  obtain rfl := Option.some.inj (howner.symm.trans hcall)
  rcases howns with ⟨-, hclosed⟩ | ⟨-, hinserted⟩
  · rcases hphase with hphase | hphase <;> rw [hphase] at hclosed <;> cases hclosed
  · rcases hphase with hphase | hphase <;> rw [hphase] at hinserted <;> cases hinserted

theorem inserted_of_set (h : Filed s) (hphase : phase ≠ .inserted) : ∀ id other,
      (s.setAssembly batchId batch phase).assemblies id = some ⟨other, .inserted⟩ →
        id ≠ batchId ∧ ∃ row ∈ s.rows, row.batch = other := by
  intro id other hcall
  rcases update_some_cases hcall with ⟨-, hsame⟩ | ⟨hne, hold⟩
  · exact absurd (congrArg AssembleCall.phase hsame).symm hphase
  · exact ⟨hne, h.inserted id other hold⟩

theorem set (h : Filed s) (hid : batch.id = batchId)
    (hver : batch.caseVersion = s.tables.caseVersion) (hphase : phase ≠ .inserted)
    (hfree : ∀ row ∈ s.rows, row.batch.id ≠ batchId) :
    Filed (s.setAssembly batchId batch phase) :=
  ⟨h.sorted, h.clocked, h.keyed, h.calls_of_set hid hver, h.owned_of_set hfree,
    fun id other hcall => (h.inserted_of_set hphase id other hcall).2, h.stored⟩

/-- The row of an insert is the newest. -/
theorem insert (h : Filed s) {now : Timestamp} (hcall : s.assemblies batchId = some ⟨batch, .drafted⟩)
    (hnow : s.clock < now) :
    Filed { s.setAssembly batchId batch .inserted with
            clock := now
            rows := ⟨batch, now, false⟩ :: s.rows } := by
  obtain ⟨hid, hver⟩ := h.calls _ _ hcall
  have hfree := h.no_row hcall (Or.inl rfl)
  refine ⟨?_, ?_, ?_, h.calls_of_set hid hver, ?_, ?_, ?_⟩
  · exact List.Pairwise.cons (fun row hmem => lt_of_le_of_lt (h.clocked row hmem) hnow) h.sorted
  · intro row hmem
    rcases List.mem_cons.1 hmem with rfl | hold
    · exact le_refl now
    · exact (h.clocked row hold).trans hnow.le
  · rw [List.map_cons]
    refine List.nodup_cons.2 ⟨?_, h.keyed⟩
    rintro hmem
    obtain ⟨row, hrow, hsame⟩ := List.mem_map.1 hmem
    exact hfree row hrow (hsame.trans hid)
  · intro row hmem
    rcases List.mem_cons.1 hmem with rfl | hold
    · show ∃ call, Function.update s.assemblies batchId _ batch.id = some call ∧ _
      rw [hid, Function.update_self]
      exact ⟨_, rfl, rfl, Or.inr ⟨rfl, rfl⟩⟩
    · exact h.owned_of_set hfree row hold
  · intro id other hcall'
    rcases update_some_cases hcall' with ⟨-, hsame⟩ | ⟨-, hold⟩
    · obtain rfl := congrArg AssembleCall.batch hsame
      exact ⟨_, List.mem_cons_self, rfl⟩
    · obtain ⟨row, hrow, hbatch⟩ := h.inserted id other hold
      exact ⟨row, List.mem_cons_of_mem _ hrow, hbatch⟩
  · intro returned hmem
    obtain ⟨row, hrow, hrest⟩ := h.stored returned hmem
    exact ⟨row, List.mem_cons_of_mem _ hrow, hrest⟩

theorem uncommitted (h : Filed s) (hcall : s.assemblies batchId = some ⟨batch, .inserted⟩)
    {row : BatchRow} (hmem : row ∈ s.rows) (hid : row.batch.id = batchId) : row.committed = false := by
  obtain ⟨owner, howner, -, howns⟩ := h.owned row hmem
  rw [hid] at howner
  obtain rfl := Option.some.inj (howner.symm.trans hcall)
  rcases howns with ⟨-, hclosed⟩ | ⟨hcommitted, -⟩
  · cases hclosed
  · exact hcommitted

/-- The commit of an insert. -/
theorem commit (h : Filed s) (hcall : s.assemblies batchId = some ⟨batch, .inserted⟩) :
    Filed { s.setAssembly batchId batch .closed with
            rows := s.rows.map fun row =>
              if row.isOf batchId = true then { row with committed := true } else row
            returned := batch :: s.returned } := by
  obtain ⟨hid, hver⟩ := h.calls _ _ hcall
  have hbatch : ∀ row : BatchRow, (if row.isOf batchId = true then { row with committed := true }
      else row).batch = row.batch := by
    intro row
    split_ifs <;> rfl
  have hcreatedAt : ∀ row : BatchRow, (if row.isOf batchId = true then { row with committed := true }
      else row).createdAt = row.createdAt := by
    intro row
    split_ifs <;> rfl
  have hkept : ∀ {row}, row ∈ s.rows → row.committed = true → row ∈ s.rows.map fun row =>
      if row.isOf batchId = true then { row with committed := true } else row := by
    intro row hmem hcommitted
    refine List.mem_map.2 ⟨row, hmem, if_neg fun hof => ?_⟩
    rw [h.uncommitted hcall hmem (of_decide_eq_true hof)] at hcommitted
    cases hcommitted
  refine ⟨?_, ?_, ?_, h.calls_of_set hid hver, ?_, ?_, ?_⟩
  · refine List.pairwise_map.2 (h.sorted.imp fun {newer older} hlt => ?_)
    rw [hcreatedAt, hcreatedAt]
    exact hlt
  · intro row hmem
    obtain ⟨old, hold, rfl⟩ := List.mem_map.1 hmem
    rw [hcreatedAt]
    exact h.clocked old hold
  · rw [List.map_map]
    rw [show ((fun row : BatchRow => row.batch.id) ∘ fun row : BatchRow =>
      if row.isOf batchId = true then { row with committed := true } else row) =
        fun row => row.batch.id from funext fun row => congrArg GapRequestBatch.id (hbatch row)]
    exact h.keyed
  · intro row hmem
    obtain ⟨old, hold, rfl⟩ := List.mem_map.1 hmem
    obtain ⟨call, howner, howns⟩ := h.owned old hold
    rw [hbatch]
    by_cases hof : old.batch.id = batchId
    · -- the row of this request
      rw [hof] at howner
      obtain rfl := Option.some.inj (howner.symm.trans hcall)
      refine ⟨⟨batch, .closed⟩, ?_, ?_⟩
      · rw [hof]
        exact Function.update_self ..
      · rw [if_pos (show old.isOf batchId = true from decide_eq_true hof)]
        exact ⟨howns.1, Or.inl ⟨rfl, rfl⟩⟩
    · rw [if_neg (show ¬ old.isOf batchId = true by simpa [BatchRow.isOf] using hof)]
      exact ⟨call, (Function.update_of_ne hof ..).trans howner, howns⟩
  · intro id other hcall'
    obtain ⟨-, row, hrow, rfl⟩ := h.inserted_of_set closed_ne_inserted id other hcall'
    exact ⟨_, List.mem_map_of_mem hrow, hbatch row⟩
  · intro returned hmem
    rcases List.mem_cons.1 hmem with rfl | hold
    · obtain ⟨row, hrow, rfl⟩ := h.inserted _ _ hcall
      refine ⟨_, List.mem_map_of_mem hrow, ?_, hbatch row⟩
      rw [if_pos (show row.isOf batchId = true from decide_eq_true hid)]
    · obtain ⟨row, hrow, hcommitted, hsame⟩ := h.stored returned hold
      exact ⟨row, hkept hrow hcommitted, hcommitted, hsame⟩

/-- The rollback of an insert. -/
theorem rollBack (h : Filed s) (hcall : s.assemblies batchId = some ⟨batch, .inserted⟩) :
    Filed { s.setAssembly batchId batch .closed with
            rows := s.rows.filter fun row => !row.isOf batchId } := by
  obtain ⟨hid, hver⟩ := h.calls _ _ hcall
  have hleft : ∀ {row}, row ∈ s.rows.filter (fun row => !row.isOf batchId) ↔
      row ∈ s.rows ∧ row.batch.id ≠ batchId := by
    intro row
    rw [List.mem_filter, Bool.not_eq_true', BatchRow.isOf, decide_eq_false_iff_not]
  refine ⟨h.sorted.filter _, ?_, (h.keyed.sublist ((List.filter_sublist).map _)),
    h.calls_of_set hid hver, ?_, ?_, ?_⟩
  · intro row hmem
    exact h.clocked row (hleft.1 hmem).1
  · intro row hmem
    obtain ⟨hrow, hne⟩ := hleft.1 hmem
    obtain ⟨call, howner, howns⟩ := h.owned row hrow
    exact ⟨call, (Function.update_of_ne hne ..).trans howner, howns⟩
  · intro id other hcall'
    obtain ⟨hne, row, hrow, rfl⟩ := h.inserted_of_set closed_ne_inserted id other hcall'
    have hother : s.assemblies id = some ⟨row.batch, .inserted⟩ :=
      (Function.update_of_ne hne ..).symm.trans hcall'
    exact ⟨row, hleft.2 ⟨hrow, (h.calls _ _ hother).1 ▸ hne⟩, rfl⟩
  · intro returned hmem
    obtain ⟨row, hrow, hcommitted, hsame⟩ := h.stored returned hmem
    refine ⟨row, hleft.2 ⟨hrow, fun hof => ?_⟩, hcommitted, hsame⟩
    rw [h.uncommitted hcall hrow hof] at hcommitted
    cases hcommitted

theorem loadBatchByKey_stored {rows : List BatchRow} {stored : GapRequestBatch}
    (hload : loadBatchByKey rows batch = some stored) :
    ∃ row ∈ rows, row.committed = true ∧ row.batch = stored := by
  obtain ⟨row, hfind, rfl⟩ := Option.map_eq_some_iff.1 hload
  obtain ⟨hkey, -⟩ := List.find?_eq_some_iff_append.1 hfind
  exact ⟨row, List.mem_of_find?_eq_some hfind, (of_decide_eq_true hkey).1, rfl⟩

/-- **Every step keeps the batches filed.** -/
theorem step (h : Filed s) (hstep : Assembly.step s q = some t) : Filed t := by
  cases q with
  | changeGaps =>
    cases hstep
    exact h.congr rfl rfl rfl rfl rfl
  | loadOpenGaps batchId itemIds =>
    simp only [Assembly.step] at hstep
    split at hstep
    · rename_i batch hfree hbatch
      cases hstep
      obtain ⟨hid, hver⟩ := assemble_eq_some hbatch
      refine h.set hid hver nofun ?_
      rintro row hmem rfl
      obtain ⟨call, hcall, -⟩ := h.owned row hmem
      rw [hfree] at hcall
      cases hcall
    · cases hstep
  | insertBatch batchId now =>
    simp only [Assembly.step] at hstep
    split at hstep
    · rename_i batch hcall
      obtain ⟨hid, hver⟩ := h.calls _ _ hcall
      split at hstep
      · split_ifs at hstep with hnow
        cases hstep
        exact h.insert hcall hnow
      · split_ifs at hstep
        cases hstep
        exact h.set hid hver nofun (h.no_row hcall (Or.inl rfl))
    · cases hstep
  | commitBatch batchId =>
    simp only [Assembly.step] at hstep
    split at hstep
    · rename_i batch hcall
      cases hstep
      exact h.commit hcall
    · rename_i batch hcall
      obtain ⟨stored, hload, rfl⟩ := Option.map_eq_some_iff.1 hstep
      obtain ⟨hid, hver⟩ := h.calls _ _ hcall
      have hset : Filed (s.setAssembly batchId batch .closed) :=
        h.set hid hver nofun (h.no_row hcall (Or.inr rfl))
      refine ⟨hset.sorted, hset.clocked, hset.keyed, hset.calls, hset.owned, hset.inserted, ?_⟩
      intro returned hmem
      rcases List.mem_cons.1 hmem with rfl | hold
      · exact loadBatchByKey_stored hload
      · exact h.stored returned hold
    · cases hstep
  | rollBack batchId =>
    simp only [Assembly.step] at hstep
    split at hstep
    · rename_i batch hcall
      cases hstep
      exact h.rollBack hcall
    · rename_i batch hcall
      cases hstep
      obtain ⟨hid, hver⟩ := h.calls _ _ hcall
      exact h.set hid hver nofun (h.no_row hcall (Or.inl rfl))
    · rename_i batch hcall
      cases hstep
      obtain ⟨hid, hver⟩ := h.calls _ _ hcall
      exact h.set hid hver nofun (h.no_row hcall (Or.inr rfl))
    · cases hstep
  | decide =>
    simp only [Assembly.step] at hstep
    split at hstep
    · split_ifs at hstep
      cases hstep
      exact h.congr rfl rfl rfl rfl rfl
    · cases hstep
  | recordDisposition =>
    simp only [Assembly.step] at hstep
    split at hstep
    · cases hstep
      exact h.congr rfl rfl rfl rfl rfl
    · cases hstep
  | readOpenGaps =>
    simp only [Assembly.step] at hstep
    split at hstep
    · split at hstep
      all_goals
        cases hstep
        exact h.congr rfl rfl rfl rfl rfl
    · cases hstep
  | satisfyG2 =>
    simp only [Assembly.step] at hstep
    split at hstep
    · cases hstep
      refine h.congr rfl rfl rfl rfl ?_
      rw [CaseTables.ensureGate_frame]
    · cases hstep

end Filed

/-! ## What a disposition needs -/

variable {disposition : GapRequestBatchDisposition}

theorem batchId_of_valid (h : isValidDisposition batch disposition = true) :
    disposition.batchId = batch.id := by
  rw [isValidDisposition, Bool.and_eq_true] at h
  obtain ⟨-, hmatch⟩ := h
  by_contra hne
  rw [batchMatchError, if_pos hne] at hmatch
  cases hmatch

/-- **When a disposition is accepted and satisfies the gate.** The current batch is the one it is about,
it is valid for that batch, and the derivation from that batch and the open gaps says so. -/
theorem accepted_iff {now : Timestamp} (hfresh : s.decisions disposition.id = none) :
    Accepted s disposition now ↔ ∃ batch, loadCurrentBatch s.rows s.tables.caseVersion = some batch ∧
      batch.id = disposition.batchId ∧ isValidDisposition batch disposition = true ∧
      deriveG2FromBatch batch (some disposition) s.tables.caseVersion (currentOpenGapHash s.tables) =
        .satisfied := by
  constructor
  · rintro ⟨t, hrun, -⟩
    obtain ⟨decided, hdecide, hrest⟩ := run_cons_eq_some.1 hrun
    simp only [step, hfresh] at hdecide
    split at hdecide
    · rename_i batch hcur _
      split_ifs at hdecide with hvalid
      cases hdecide
      refine ⟨batch, hcur, hvalid.1, hvalid.2, ?_⟩
      obtain ⟨recorded, hrec, hread⟩ := run_cons_eq_some.1 hrest
      simp only [step, Desk.setDecision, Function.update_self, Option.some.injEq] at hrec
      subst hrec
      obtain ⟨read, hread, hsatisfy⟩ := run_cons_eq_some.1 hread
      simp only [step, Desk.setDecision, Function.update_self] at hread
      split at hread
      · assumption
      · -- a derivation that leaves the gate open closes the decision, so no gate write follows
        cases hread
        obtain ⟨last, hlast, -⟩ := run_cons_eq_some.1 hsatisfy
        simp only [step, Function.update_self, reduceCtorEq] at hlast
    · cases hdecide
  · rintro ⟨batch, hcur, hid, hvalid, hderive⟩
    have hdecide : step s (.decide disposition) =
        some (s.setDecision disposition.id batch disposition .loaded) := by
      simp only [step, hcur, hfresh, hid, hvalid, and_self, if_true]
    let recorded : Desk :=
      { (s.setDecision disposition.id batch disposition .loaded).setDecision disposition.id batch
          disposition .recorded with dispositions := disposition :: s.dispositions }
    have hrec : step (s.setDecision disposition.id batch disposition .loaded)
        (.recordDisposition disposition.id) = some recorded := by
      simp only [step, Desk.setDecision, Function.update_self, recorded]
    have hread : step recorded (.readOpenGaps disposition.id) =
        some (recorded.setDecision disposition.id batch disposition .derived) := by
      simp only [step, recorded, Desk.setDecision, Function.update_self, hderive]
    have hsatisfy : step (recorded.setDecision disposition.id batch disposition .derived)
        (.satisfyG2 disposition.id now) =
          some { (recorded.setDecision disposition.id batch disposition .derived).setDecision
                  disposition.id batch disposition .closed with
                 tables := s.tables.ensureGate s.tables.caseVersion .g2GapRequestApproval .satisfied now
                  (some disposition.actorId) (some ("gap-request-batch:" ++ uuidText batch.id)) } := by
      simp only [step, recorded, Desk.setDecision, Function.update_self]
    refine ⟨_, run_cons_eq_some.2 ⟨_, hdecide, run_cons_eq_some.2 ⟨_, hrec,
      run_cons_eq_some.2 ⟨_, hread, run_singleton.trans hsatisfy⟩⟩⟩, ?_⟩
    have hsat := CaseTables.gateSatisfied_ensureGate_self s.tables s.tables.caseVersion
      .g2GapRequestApproval now (some disposition.actorId)
        (some ("gap-request-batch:" ++ uuidText batch.id))
    rw [CaseTables.ensureGate_frame] at hsat ⊢
    exact hsat

/-! ## The current batch -/

variable {row other : BatchRow}

theorem Filed.createdAt_inj (h : Filed s) (hrow : row ∈ s.rows) (hother : other ∈ s.rows)
    (hsame : row.createdAt = other.createdAt) : row = other := by
  have hne : s.rows.Pairwise fun a b => a.createdAt ≠ b.createdAt := h.sorted.imp ne_of_gt
  have : Std.Symm fun a b : BatchRow => a.createdAt ≠ b.createdAt := ⟨fun _ _ hab => Ne.symm hab⟩
  by_contra hdiffer
  exact hne.forall hrow hother hdiffer hsame

theorem Filed.id_inj (h : Filed s) (hrow : row ∈ s.rows) (hother : other ∈ s.rows)
    (hsame : row.batch.id = other.batch.id) : row = other :=
  List.inj_on_of_nodup_map h.keyed hrow hother hsame

theorem Filed.version (h : Filed s) (hrow : row ∈ s.rows) :
    row.batch.caseVersion = s.tables.caseVersion := by
  obtain ⟨call, hcall, hsame, -⟩ := h.owned row hrow
  rw [← hsame]
  exact (h.calls _ _ hcall).2

/-- The current batch is the one of the committed row with the latest insert. -/
theorem Filed.loadCurrentBatch_eq_some_iff (h : Filed s) (hrow : row ∈ s.rows) :
    loadCurrentBatch s.rows s.tables.caseVersion = some row.batch ↔
      row.committed = true ∧ ∀ other ∈ s.rows, other.committed = true →
        other.createdAt ≤ row.createdAt := by
  have hlatest : latest (fun a b : BatchRow => a.createdAt ≤ b.createdAt)
      (fun row => row.committed ∧ row.batch.caseVersion = s.tables.caseVersion) s.rows = some row ↔
        row ∈ s.rows ∧
          decide (row.committed = true ∧ row.batch.caseVersion = s.tables.caseVersion) = true ∧
          ∀ other ∈ s.rows,
            decide (other.committed = true ∧ other.batch.caseVersion = s.tables.caseVersion) = true →
              other.createdAt ≤ row.createdAt :=
    latest_eq_some_iff fun _ ha _ hb hab => h.createdAt_inj ha hb hab
  have hcounts : ∀ other ∈ s.rows,
      (decide (other.committed = true ∧ other.batch.caseVersion = s.tables.caseVersion) = true ↔
        other.committed = true) :=
    fun other hother => by rw [decide_eq_true_eq, and_iff_left (h.version hother)]
  constructor
  · intro hcur
    obtain ⟨newest, hnewest, hsame⟩ := Option.map_eq_some_iff.1 hcur
    obtain rfl := h.id_inj (mem_of_latest _ _ hnewest).1 hrow (congrArg GapRequestBatch.id hsame)
    obtain ⟨-, hcommitted, hmax⟩ := hlatest.1 hnewest
    exact ⟨(hcounts _ hrow).1 hcommitted,
      fun other hother hc => hmax other hother ((hcounts _ hother).2 hc)⟩
  · rintro ⟨hcommitted, hmax⟩
    have hnewest := hlatest.2 ⟨hrow, (hcounts _ hrow).2 hcommitted,
      fun other hother hc => hmax other hother ((hcounts _ hother).1 hc)⟩
    exact Option.map_eq_some_iff.2 ⟨row, hnewest, rfl⟩

/-- **A stored batch is the current one unless it is superseded.** -/
theorem Filed.loadCurrentBatch_iff (h : Filed s) (hrow : row ∈ s.rows)
    (hcommitted : row.committed = true) :
    loadCurrentBatch s.rows s.tables.caseVersion = some row.batch ↔ ¬ Superseded s row.batch := by
  rw [h.loadCurrentBatch_eq_some_iff hrow, and_iff_right hcommitted]
  constructor
  · rintro hmax ⟨same, hsame, hbatch, later, hlater, hcommitted', -, hlt⟩
    obtain rfl := h.id_inj hsame hrow (congrArg GapRequestBatch.id hbatch)
    exact absurd hlt (not_lt_of_ge (hmax later hlater hcommitted'))
  · intro hlast other hother hcommitted'
    refine le_of_not_gt fun hlt => hlast ⟨row, hrow, rfl, other, hother, hcommitted', ?_, hlt⟩
    rw [h.version hother, h.version hrow]

/-! ## The two selections -/

/-- **When an approved batch satisfies the gate.** An approving, valid disposition of a batch that an
assemble request has returned, while the open gaps match its snapshot, is accepted and satisfies the gate
exactly if no batch has been created after it. -/
theorem approval_accepted_iff {as : List Request} {batch : GapRequestBatch}
    {disposition : GapRequestBatchDisposition} {now : Timestamp} (hinit : Initial s)
    (hrun : run step s as = some t) (hreturned : batch ∈ t.returned)
    (hmatch : batch.openGapSnapshotHash = currentOpenGapHash t.tables)
    (hvalid : isValidDisposition batch disposition = true)
    (happroving : disposition.dispositionType ∈ satisfyingDispositions)
    (hfresh : t.decisions disposition.id = none) :
    Accepted t disposition now ↔ ¬ Superseded t batch := by
  have hfiled : Filed t := run_invariant (fun hs hstep => Filed.step hs hstep) hinit.filed hrun
  obtain ⟨row, hrow, hcommitted, rfl⟩ := hfiled.stored batch hreturned
  rw [accepted_iff hfresh, ← hfiled.loadCurrentBatch_iff hrow hcommitted]
  constructor
  · rintro ⟨current, hcur, hid, -, -⟩
    -- the current batch is the one the disposition names
    obtain ⟨newest, hnewest, rfl⟩ := Option.map_eq_some_iff.1 hcur
    obtain rfl := hfiled.id_inj (mem_of_latest _ _ hnewest).1 hrow
      (hid.trans (batchId_of_valid hvalid))
    exact hcur
  · intro hcur
    refine ⟨row.batch, hcur, (batchId_of_valid hvalid).symm, hvalid, ?_⟩
    exact deriveG2FromBatch_satisfied_iff.2
      ⟨hfiled.version hrow, hmatch, batchId_of_valid hvalid, happroving⟩

/-! ## No derivation without a disposition -/

/-- The last of `load_dispositions`. -/
def Desk.latestDisposition (s : Desk) (batch : GapRequestBatch) : Option GapRequestBatchDisposition :=
  s.dispositions.find? (·.batchId = batch.id)

/-- What the derivation of the gate is called with: the status endpoint reads the current batch and its last
disposition, a disposition request derives from what it has recorded. -/
inductive DerivesFrom (s : Desk) : GapRequestBatch → Option GapRequestBatchDisposition → Prop where
  | status {batch : GapRequestBatch}
      (hcur : loadCurrentBatch s.rows s.tables.caseVersion = some batch) :
      DerivesFrom s batch (s.latestDisposition batch)
  | disposing {id : Uuid} {decision : Decision} (hdec : s.decisions id = some decision)
      (hphase : decision.phase = .recorded) :
      DerivesFrom s decision.batch (some decision.disposition)

/-- An accepting derivation goes back to a recorded disposition of the batch, which is of the version. -/
def BatchGateBacked (s : Desk) : Prop :=
  ∀ batch disposition, DerivesFrom s batch disposition →
    deriveG2FromBatch batch disposition s.tables.caseVersion (currentOpenGapHash s.tables) =
      .satisfied →
    ∃ recorded ∈ s.dispositions, disposition = some recorded ∧ recorded.batchId = batch.id ∧
      batch.caseVersion = s.tables.caseVersion ∧
      recorded.dispositionType ∈ satisfyingDispositions

/-- A request that has recorded its disposition finds it recorded. -/
def DispositionsKept (s : Desk) : Prop :=
  ∀ id decision, s.decisions id = some decision → decision.phase = .recorded →
    decision.disposition ∈ s.dispositions

namespace DispositionsKept

theorem congr (h : DispositionsKept s) (hdisps : t.dispositions = s.dispositions)
    (hdecs : ∀ id decision, t.decisions id = some decision → decision.phase = .recorded →
      s.decisions id = some decision) : DispositionsKept t := by
  intro id decision hdec hphase
  rw [hdisps]
  exact h id decision (hdecs id decision hdec hphase) hphase

theorem decisions_of_set {dispositionId : Uuid} {batch : GapRequestBatch}
    {disposition : GapRequestBatchDisposition} {phase : DecisionPhase} (hphase : phase ≠ .recorded) :
    ∀ id decision, (s.setDecision dispositionId batch disposition phase).decisions id =
      some decision → decision.phase = .recorded → s.decisions id = some decision := by
  intro id decision hdec hrecorded
  rcases update_some_cases hdec with ⟨-, rfl⟩ | ⟨-, hold⟩
  · exact absurd hrecorded hphase
  · exact hold

theorem step (h : DispositionsKept s) (hstep : Assembly.step s q = some t) : DispositionsKept t := by
  cases q with
  | changeGaps =>
    cases hstep
    exact h
  | loadOpenGaps =>
    simp only [Assembly.step] at hstep
    split at hstep
    · cases hstep
      exact h
    · cases hstep
  | insertBatch =>
    simp only [Assembly.step] at hstep
    split at hstep
    · split at hstep
      all_goals
        split_ifs at hstep
        cases hstep
        exact h
    · cases hstep
  | commitBatch =>
    simp only [Assembly.step] at hstep
    split at hstep
    · cases hstep
      exact h
    · obtain ⟨stored, -, rfl⟩ := Option.map_eq_some_iff.1 hstep
      exact h
    · cases hstep
  | rollBack =>
    simp only [Assembly.step] at hstep
    split at hstep
    · cases hstep
      exact h
    · cases hstep
      exact h
    · cases hstep
      exact h
    · cases hstep
  | decide =>
    simp only [Assembly.step] at hstep
    split at hstep
    · split_ifs at hstep
      cases hstep
      exact h.congr rfl (decisions_of_set nofun)
    · cases hstep
  | recordDisposition =>
    simp only [Assembly.step] at hstep
    split at hstep
    · cases hstep
      intro id decision hdec hphase
      rcases update_some_cases hdec with ⟨-, rfl⟩ | ⟨-, hold⟩
      · exact List.mem_cons_self
      · exact List.mem_cons_of_mem _ (h id decision hold hphase)
    · cases hstep
  | readOpenGaps =>
    simp only [Assembly.step] at hstep
    split at hstep
    · split at hstep
      all_goals
        cases hstep
        exact h.congr rfl (decisions_of_set nofun)
    · cases hstep
  | satisfyG2 =>
    simp only [Assembly.step] at hstep
    split at hstep
    · cases hstep
      exact h.congr rfl (decisions_of_set nofun)
    · cases hstep

end DispositionsKept

/-- **The derivation never accepts without a disposition.** -/
theorem batchGate_backed {as : List Request} (hinit : Initial s) (hrun : run step s as = some t) :
    BatchGateBacked t := by
  have hstart : DispositionsKept s := by
    intro id decision hdec
    rw [hinit.noDecision] at hdec
    cases hdec
  have hkept : DispositionsKept t :=
    run_invariant (fun hs hstep => DispositionsKept.step hs hstep) hstart hrun
  intro batch disposition hfrom hsat
  cases hfrom with
  | status =>
    cases hlatest : t.latestDisposition batch with
    | none =>
      rw [hlatest, deriveG2FromBatch_none] at hsat
      cases hsat
    | some recorded =>
      rw [hlatest] at hsat
      obtain ⟨hver, -, hbatch, htype⟩ := deriveG2FromBatch_satisfied_iff.1 hsat
      exact ⟨recorded, List.mem_of_find?_eq_some hlatest, rfl, hbatch, hver, htype⟩
  | disposing hdec hphase =>
    obtain ⟨hver, -, hbatch, htype⟩ := deriveG2FromBatch_satisfied_iff.1 hsat
    exact ⟨_, hkept _ _ hdec hphase, rfl, hbatch, hver, htype⟩

/-! ## Concrete histories -/

section Histories

/-- A case at its first version, before its first batch. -/
def sampleDesk : Desk where
  tables :=
    { caseId := 10
      caseVersion := 1
      handoffs := []
      tasks := []
      dependencies := []
      gates := []
      gaps := []
      outbox := []
      audit := [] }
  clock := 0
  rows := []
  assemblies _ := none
  returned := []
  decisions _ := none
  dispositions := []

theorem sampleDesk_initial : Initial sampleDesk where
  noRow := rfl
  noAssembly _ := rfl
  noneReturned := rfl
  noDecision _ := rfl

/-- A gap of the underwriter. -/
def missingReport : EvidenceGap where
  id := 400
  caseVersion := 1
  affectedTaskId := 201
  status := .formal
  blockingLevel := .blocking
  missingInformationVi := "báo cáo tài chính kiểm toán"
  suggestedEvidenceVi := []

/-- One assemble request from its gap read to its commit. -/
def assembling (batchId : Uuid) (itemIds : List Uuid) (now : Timestamp) : List Request :=
  [.loadOpenGaps batchId itemIds, .insertBatch batchId now, .commitBatch batchId]

/-- The officer approves all the requests of batch 300. -/
def approvalOf300 : GapRequestBatchDisposition where
  id := 301
  batchId := 300
  dispositionType := .approvedAll
  itemDispositions := []
  editedTexts := []
  actorId := 30
  actorRole := "INTAKE_OFFICER"
  rationaleVi := "đã rà soát"

/-- The last assemble request has returned a batch that matches the open gaps, and the disposition of it is
an approval. -/
def ApprovesLast (t : Desk) (batch : GapRequestBatch) (disposition : GapRequestBatchDisposition) : Prop :=
  t.returned.head? = some batch ∧ batch.openGapSnapshotHash = currentOpenGapHash t.tables ∧
    isValidDisposition batch disposition = true ∧ disposition.dispositionType = .approvedAll ∧
      t.decisions disposition.id = none

instance (t : Desk) (batch : GapRequestBatch) (disposition : GapRequestBatchDisposition) :
    Decidable (ApprovesLast t batch disposition) :=
  inferInstanceAs (Decidable (_ ∧ _))

/-- The batch is empty at first; once the gap is found, the officer assembles again. -/
def emptyThenGap : List Request :=
  assembling 299 [] 1 ++ .changeGaps [missingReport] :: assembling 300 [302] 2

/-- The new batch is the last one, and its approval satisfies the gate. -/
theorem emptyThenGap_accepted :
    ∃ t, run step sampleDesk emptyThenGap = some t ∧ Accepted t approvalOf300 9 := by
  have hruns : (run step sampleDesk emptyThenGap).any (fun t => t.returned.head?.any fun batch =>
      ApprovesLast t batch approvalOf300 ∧ ¬ Superseded t batch) = true := by
    decide +kernel
  obtain ⟨t, hrun, hlast⟩ := (Option.any_eq_true _ _).1 hruns
  obtain ⟨batch, -, hbatch⟩ := (Option.any_eq_true _ _).1 hlast
  obtain ⟨⟨hreturned, hmatch, hvalid, htype, hfresh⟩, hcur⟩ := of_decide_eq_true hbatch
  have happroving : approvalOf300.dispositionType ∈ satisfyingDispositions := by
    rw [htype]
    exact List.mem_cons_self
  exact ⟨t, hrun, (approval_accepted_iff sampleDesk_initial hrun (List.mem_of_mem_head? hreturned)
    hmatch hvalid happroving hfresh).2 hcur⟩

/-- The gap is withdrawn and found again, and the officer assembles after each change. -/
def gapWithdrawnAndBack : List Request :=
  .changeGaps [missingReport] :: assembling 300 [302] 1 ++
    .changeGaps [] :: assembling 310 [] 2 ++
    .changeGaps [missingReport] :: assembling 320 [322] 3

/-- **An assembled batch cannot be approved.** The last assemble request returns the first batch, which
matches the open gaps; the disposition endpoint reads the empty one, which was created after it, and
refuses. -/
theorem returned_batch_refused :
    Initial sampleDesk ∧ ∃ t batch, run step sampleDesk gapWithdrawnAndBack = some t ∧
      ApprovesLast t batch approvalOf300 ∧ ¬ Accepted t approvalOf300 9 := by
  have hruns : (run step sampleDesk gapWithdrawnAndBack).any (fun t => t.returned.head?.any fun batch =>
      ApprovesLast t batch approvalOf300 ∧ (step t (.decide approvalOf300)).isNone = true) = true := by
    decide +kernel
  obtain ⟨t, hrun, hlast⟩ := (Option.any_eq_true _ _).1 hruns
  obtain ⟨batch, -, hbatch⟩ := (Option.any_eq_true _ _).1 hlast
  obtain ⟨happroves, hrefused⟩ := of_decide_eq_true hbatch
  refine ⟨sampleDesk_initial, t, batch, hrun, happroves, ?_⟩
  rintro ⟨after, hdisposing, -⟩
  obtain ⟨decided, hdecide, -⟩ := run_cons_eq_some.1 hdisposing
  rw [Option.isNone_iff_eq_none.1 hrefused] at hdecide
  cases hdecide

end Histories

end CreditOps.GapRequests.Assembly
