import CreditOps.SecurityInterests.Endpoints

/-!
# What concurrent transitions lose

Two transitions of one item can both read the row before either has written it. The second update waits
for the first, passes the trigger because the row has already reached the same status, and overwrites the
merged evidence with its own (`evidence_overwritten`).

A run loses nothing of any item exactly if no transition is committed over a row that has reached its
target status (`items_keep_transitions_iff`). Any other overwrite fails at the trigger: each status is
entered from one other status only, so a row that has moved on since it was read has moved to the target
or past it.
-/

set_option autoImplicit false

namespace CreditOps.SecurityInterests

open Transition RowTransactions PartialMap AppendLog PerfectionStatus
open Disbursements (ActorContext opsOfficerRole)

/-! ## The promise and the condition -/

/-- **Nothing is lost.** Each item holds what its committed transitions have added, on their path. -/
def NothingLost (s : System) : Prop :=
  ∀ item ∈ s.items.listing, Kept (s.items.transitionsOf item.id) item

instance (s : System) : Decidable (NothingLost s) :=
  inferInstanceAs (Decidable (∀ item ∈ s.items.listing, _))

/-- The condition on one step: no transition is committed over a row that has reached its target. -/
def OverwritesNothing (s : System) : Request → Prop
  | .transition callId .commit =>
    (s.session.transactions callId).all (fun transaction =>
      (s.items.rows transaction.request.itemId).all
        (·.status ≠ transaction.request.toStatus)) = true
  | _ => True

instance (s : System) : ∀ q, Decidable (OverwritesNothing s q)
  | .transition _ .commit => inferInstanceAs (Decidable (_ = true))
  | .transition _ .update | .transition _ .record | .transition _ .rollback | .createInterest _ _ _
  | .addItem _ _ _ _ | .beginTransition _ _ _ _ _ | .openConfirm _ _ _ | .listItems _
  | .satisfyGate _ _ | .auditConfirm _ => isTrue trivial

variable {s t : System} {q : Request}

/-! ## One step -/

/-- What holds as long as nothing has been lost: what a transition has read is what its item is, or an
earlier status of it. -/
structure Traced (s : System) : Prop where
  tracked : Tracked s
  reads : ReadsRelated CameFrom transitionItem s.session

theorem Initial.traced (h : Initial s) : Traced s where
  tracked := h.tracked
  reads := by
    intro id transaction row hopen
    rw [h.session] at hopen
    cases hopen

theorem Traced.cameFrom (h : Traced s) {callId : Uuid}
    {transaction : Transaction PerfectionItem ItemTransition} {base : PerfectionItem}
    (hopen : s.session.transactions callId = some transaction)
    (hbase : s.items.rows transaction.request.itemId = some base) : CameFrom transaction.seen base :=
  h.reads callId transaction base hopen hbase

theorem kept_of_mem_listing (h : NothingLost s) (htracked : Tracked s) {key : Uuid}
    {item : PerfectionItem} (hrow : s.items.rows key = some item) :
    Kept (s.items.transitionsOf key) item := by
  have hkept := h item (Table.mem_listing_iff.2 ⟨key, hrow⟩)
  rwa [htracked.filed hrow] at hkept

/-- Adding an item loses nothing. -/
theorem nothingLost_of_added {table : ItemTable} {newId actorId interestId : Uuid} {actorRole : String}
    {body : AddItemRequest} (h : NothingLost s) (htracked : Tracked s)
    (hfree : s.items.rows newId = none)
    (hrows : table.rows = Function.update s.items.rows newId (some (body.item newId interestId)))
    (hlog : table.log =
      (newId, itemAddedEntry (body.item newId interestId) actorId actorRole) :: s.items.log) :
    ∀ item ∈ table.listing, Kept (table.transitionsOf item.id) item := by
  have hsame : ∀ key, table.transitionsOf key = s.items.transitionsOf key := by
    intro key
    rw [transitionsOf_of_cons hlog]
    split_ifs
    all_goals rfl
  intro item hmem
  obtain ⟨key, hrow⟩ := Table.mem_listing_iff.1 hmem
  rw [hrows] at hrow
  rcases update_some_cases hrow with ⟨rfl, rfl⟩ | ⟨-, hold⟩
  · show Kept (table.transitionsOf key) _
    rw [hsame, htracked.unfiled hfree]
    exact kept_pending rfl rfl
  · rw [hsame, htracked.filed hold]
    exact kept_of_mem_listing h htracked hold

/-- **A commit loses nothing exactly if it overwrites no row that has reached the target.** -/
theorem nothingLost_commit_iff {table : ItemTable} {request : ItemTransition}
    {seen base new : PerfectionItem} (h : NothingLost s) (htracked : Tracked s)
    (hadmits : admitsItemTransition request seen = true) (hcame : CameFrom seen base)
    (hbase : s.items.rows request.itemId = some base) (hwritten : Written request seen base new)
    (hrows : table.rows = Function.update s.items.rows request.itemId (some new))
    (hlog : table.log = (request.itemId, itemTransitionedEntry request seen) :: s.items.log) :
    (∀ item ∈ table.listing, Kept (table.transitionsOf item.id) item) ↔
      base.status ≠ request.toStatus := by
  have hkept := kept_of_mem_listing h htracked hbase
  have hid : new.id = request.itemId := by rw [hwritten.id, htracked.filed hbase]
  have hcom := kept_commit_iff hkept hadmits hcame hwritten rfl
  constructor
  · intro hall
    have hnew := hall new (Table.mem_listing_iff.2
      ⟨request.itemId, by rw [hrows, Function.update_self]⟩)
    rw [hid, transitionsOf_of_cons hlog, if_pos rfl] at hnew
    exact hcom.1 hnew
  · intro hne item hmem
    obtain ⟨_, hrow⟩ := Table.mem_listing_iff.1 hmem
    rw [hrows] at hrow
    rcases update_some_cases hrow with ⟨rfl, rfl⟩ | ⟨hother, hold⟩
    · rw [hid, transitionsOf_of_cons hlog, if_pos rfl]
      exact hcom.2 hne
    · -- the other items and their events stand still
      rw [htracked.filed hold, transitionsOf_of_cons hlog, if_neg hother]
      exact kept_of_mem_listing h htracked hold

/-- **A step loses nothing exactly if it meets the condition.** -/
theorem nothingLost_step_iff (h : Traced s) (hkept : NothingLost s) (hstep : step s q = some t) :
    NothingLost t ↔ OverwritesNothing s q := by
  have hmove := itemMove_of_step h.tracked.consistent hstep
  unfold NothingLost
  generalize t.items = table at hmove ⊢
  cases hmove with
  | added _ hfree hrows hlog =>
    exact iff_of_true (nothingLost_of_added hkept h.tracked hfree hrows hlog) trivial
  | moved hopen hadmits _ hbase hwritten hrows hlog =>
    simp only [OverwritesNothing, hopen, hbase, Option.all_some, decide_eq_true_eq]
    exact nothingLost_commit_iff hkept h.tracked hadmits (h.cameFrom hopen hbase) hbase hwritten hrows
      hlog
  | same hcom =>
    refine iff_of_true hkept ?_
    cases q with
    | transition callId next =>
      cases next with
      | commit => exact absurd rfl (hcom callId)
      | update | record | rollback => trivial
    | createInterest | addItem | beginTransition | openConfirm | listItems | satisfyGate
    | auditConfirm => trivial

theorem Traced.step (h : Traced s) (hkept : NothingLost s) (hstep : SecurityInterests.step s q = some t)
    (hnext : NothingLost t) : Traced t := by
  have hcond := (nothingLost_step_iff h hkept hstep).1 hnext
  refine ⟨h.tracked.step hstep, ?_⟩
  have hexecuted : ∀ {statement session},
      execute transitionItem s.session statement = some session →
      (∀ callId, statement = .commit callId → q = .transition callId .commit) →
      ReadsRelated CameFrom transitionItem session := by
    intro statement session hexec hcoms
    refine h.reads.execute CameFrom.refl CameFrom.trans h.tracked.consistent hexec ?_
    intro id transaction base new hcom hopen hstage
    obtain rfl := hcoms id hcom
    obtain ⟨-, hbase, hwrite⟩ := h.tracked.consistent.pending hopen hstage
    -- the row the commit overwrites has not reached the target, so it climbs
    refine (written_of_write hwrite).cameFrom ?_
    simp only [OverwritesNothing, hopen, Option.all_some] at hcond
    rw [show s.items.rows transaction.request.itemId = some base from hbase, Option.all_some,
      decide_eq_true_eq] at hcond
    exact hcond
  cases step_cases hstep with
  | @added newId actor interestId body table hint hins =>
    have hexec : execute transitionItem s.session (.insert newId (body.item newId interestId)
        (itemAddedEntry (body.item newId interestId) actor.actorId (writerRole actor))) =
          some { s.session with table } := Option.map_eq_some_iff.2 ⟨table, hins, rfl⟩
    exact hexecuted hexec nofun
  | begun _ hexec => exact hexecuted hexec nofun
  | executed hexec =>
    refine hexecuted hexec fun callId hcom => ?_
    obtain ⟨rfl, rfl⟩ := Continuation.of_eq_commit hcom
    rfl
  | created | opened | derived | refused | satisfied | audited => exact h.reads

/-! ## Whole runs -/

/-- **When transitions lose nothing.** In every state of a run each item holds what its transitions have
added, on their path, exactly if every step meets the condition. -/
theorem items_keep_transitions_iff {as : List Request} (hinit : Initial s)
    (hrun : run step s as = some t) :
    AllAlong step NothingLost s as ↔ RunMeets step OverwritesNothing s as := by
  refine allAlong_iff_runMeets (fun hs hkept hstep hnext => Traced.step hs hkept hstep hnext)
    (fun hs hkept hstep => nothingLost_step_iff hs hkept hstep) hinit.traced ?_ hrun
  intro item hmem
  rw [System.items, hinit.session] at hmem
  cases hmem

/-! ## Items at work -/

section Histories

/-- A case at version 1 before its first security interest. -/
def openedCase : System where
  caseId := 1
  caseVersion := 1
  interests := []
  session := .empty
  confirmations _ := none
  tables := ⟨1, 1, [], [], [], [], [], [], []⟩
  confirmedAudit := []

theorem openedCase_initial : Initial openedCase where
  noInterest := rfl
  session := rfl
  noConfirmation _ := rfl
  gateOpen := by decide

/-- An operations officer. -/
def officer (actorId : Uuid) : ActorContext := ⟨actorId, [opsOfficerRole]⟩

/-- An officer takes an interest in an asset and lists a requirement for it. -/
def listing (interestId itemId : Uuid) : List Request :=
  [.createInterest interestId (officer 20) ⟨"Căn hộ", "REAL_ESTATE", none, none, none⟩,
    .addItem itemId (officer 20) interestId ⟨"Đăng ký giao dịch bảo đảm", [], none, none, none⟩]

/-- A transition reads its item. -/
def beginning (callId actorId itemId : Uuid) (toStatus : String) (evidenceRefs : List String) :
    Request :=
  .beginTransition callId (officer actorId) itemId ⟨toStatus, none, evidenceRefs, none, none, none⟩ 9

/-- A transition writes its item and commits. -/
def writing (callId : Uuid) : List Request :=
  [.transition callId .update, .transition callId .record, .transition callId .commit]

/-- A requirement is met with two pieces of evidence, one after the other. -/
def completedInTurn : List Request :=
  listing 5 10 ++ beginning 1 21 10 "EVIDENCE_ATTACHED" ["hợp đồng"] :: writing 1 ++
    beginning 2 22 10 "COMPLETED" ["giấy chứng nhận"] :: writing 2

/-- Two transitions in turn keep all of the evidence. -/
theorem completedInTurn_keeps :
    ∃ t, run step openedCase completedInTurn = some t ∧
      t.items.listing.map (fun item => (item.status, item.evidenceRefs, item.completedBy)) =
        [(completed, ["hợp đồng", "giấy chứng nhận"], some 22)] ∧
      AllAlong step NothingLost openedCase completedInTurn := by
  have hruns : (run step openedCase completedInTurn).any (fun t =>
      t.items.listing.map (fun item => (item.status, item.evidenceRefs, item.completedBy)) =
        [(completed, ["hợp đồng", "giấy chứng nhận"], some 22)]) = true := by
    decide +kernel
  obtain ⟨t, hrun, hitems⟩ := (Option.any_eq_true _ _).1 hruns
  have hmeets : RunMeets step OverwritesNothing openedCase completedInTurn := by decide +kernel
  exact ⟨t, hrun, of_decide_eq_true hitems,
    (items_keep_transitions_iff openedCase_initial hrun).2 hmeets⟩

/-- Two officers attach evidence to one item; both read it before either writes. -/
def attachedAtOnce : List Request :=
  listing 5 10 ++ [beginning 1 21 10 "EVIDENCE_ATTACHED" ["hợp đồng"],
    beginning 2 22 10 "EVIDENCE_ATTACHED" ["giấy chứng nhận"]] ++ writing 1 ++ writing 2

/-- **The later of two transitions overwrites the evidence of the earlier one.** Both are committed and
audited. -/
theorem evidence_overwritten :
    Initial openedCase ∧ ∃ t, run step openedCase attachedAtOnce = some t ∧
      (t.items.transitionsOf 10).map (·.evidenceRefsAdded) = [["giấy chứng nhận"], ["hợp đồng"]] ∧
      t.items.listing.map (·.evidenceRefs) = [["giấy chứng nhận"]] ∧ ¬ NothingLost t := by
  have hruns : (run step openedCase attachedAtOnce).any (fun t =>
      (t.items.transitionsOf 10).map (·.evidenceRefsAdded) =
          [["giấy chứng nhận"], ["hợp đồng"]] ∧
        t.items.listing.map (·.evidenceRefs) = [["giấy chứng nhận"]] ∧ ¬ NothingLost t) = true := by
    decide +kernel
  obtain ⟨t, hrun, hstate⟩ := (Option.any_eq_true _ _).1 hruns
  exact ⟨openedCase_initial, t, hrun, of_decide_eq_true hstate⟩

end Histories

end CreditOps.SecurityInterests
