import CreditOps.Library.AppendLog
import CreditOps.Library.RowTransactions
import CreditOps.SecurityInterests.Domain

/-!
# The perfection ledger

A transition of an item is one transaction, but its read takes no lock: it reads the status and the
evidence, checks the move, and later writes the merged evidence over the row as it stands then. The
trigger lets that update pass when the row has reached the same status in the meantime.
-/

set_option autoImplicit false

namespace CreditOps.SecurityInterests

open PerfectionStatus RowTransactions AppendLog

/-! ## Rows and events -/

/-- The audit event of a transition. -/
structure ItemTransitioned where
  fromStatus : PerfectionStatus
  toStatus : PerfectionStatus
  rationale : Option String
  evidenceRefsAdded : List String
  filingReference : Option String
  actorId : Uuid
  actorRole : String
deriving DecidableEq

/-- The audit events about an item. -/
inductive ItemAudit where
  | added (interestId : Uuid) (status : PerfectionStatus) (actorId : Uuid) (actorRole : String)
  | transitioned (event : ItemTransitioned)
deriving DecidableEq

/-- The transition an event is about. -/
def ItemAudit.transition? : ItemAudit → Option ItemTransitioned
  | added _ _ _ _ => none
  | transitioned event => some event

/-- What `transition_item` is called with, and what the clock reads at its update. -/
structure ItemTransition where
  itemId : Uuid
  toStatus : PerfectionStatus
  actorId : Uuid
  actorRole : String
  rationale : Option String
  evidenceRefs : List String
  filingReference : Option String
  effectiveDate : Option Date
  expiryDate : Option Date
  clock : Timestamp
deriving DecidableEq

/-- `merged_evidence` -/
def ItemTransition.mergedEvidence (request : ItemTransition) (current : PerfectionItem) :
    List String :=
  current.evidenceRefs ++ request.evidenceRefs

/-- The checks of `transition_item` on the row it has read. -/
def admitsItemTransition (request : ItemTransition) (current : PerfectionItem) : Bool :=
  isAllowedItemTransition current.status request.toStatus ∧
    ¬ (request.toStatus = completed ∧ request.mergedEvidence current = []) ∧
    ¬ (request.toStatus = notRequiredByHuman ∧ isBlank (request.rationale.getD "") = true)

/-- `case when toStatus = 'COMPLETED' then value else old end` -/
def ItemTransition.onCompletion {α : Type} (request : ItemTransition) (value : α) (old : Option α) :
    Option α :=
  if request.toStatus = completed then some value else old

/-- The update statement on the row it meets, with the trigger and the check constraint; the evidence is
merged with what was read. -/
def writeItemTransition (request : ItemTransition) (current base : PerfectionItem) :
    Option PerfectionItem :=
  let evidenceRefs := request.mergedEvidence current
  let completedBy := request.onCompletion request.actorId base.completedBy
  let completedAt := request.onCompletion request.clock base.completedAt
  if triggerPasses base.status request.toStatus = true then
    if hevid : request.toStatus = completed →
        evidenceRefs ≠ [] ∧ completedBy.isSome = true ∧ completedAt.isSome = true then
      some
        { id := base.id
          interestId := base.interestId
          requirementVi := base.requirementVi
          status := request.toStatus
          evidenceRefs
          filingReference := request.filingReference.or base.filingReference
          effectiveDate := request.effectiveDate.or base.effectiveDate
          expiryDate := request.expiryDate.or base.expiryDate
          completedBy
          completedAt
          completedHasEvidence := hevid }
    else none
  else none

/-- `_insert_audit` of a transition: the status it came from is the one that was read. -/
def itemTransitionedEntry (request : ItemTransition) (current : PerfectionItem) : ItemAudit :=
  .transitioned
    { fromStatus := current.status
      toStatus := request.toStatus
      rationale := request.rationale
      evidenceRefsAdded := request.evidenceRefs
      filingReference := request.filingReference
      actorId := request.actorId
      actorRole := request.actorRole }

/-- `transition_item`; its read takes no lock. -/
def transitionItem : Protocol Uuid PerfectionItem ItemTransition ItemAudit where
  key request := request.itemId
  forUpdate := false
  admits := admitsItemTransition
  write := writeItemTransition
  entry := itemTransitionedEntry

/-- `_insert_audit` of `add_item`. -/
def itemAddedEntry (item : PerfectionItem) (actorId : Uuid) (actorRole : String) : ItemAudit :=
  .added item.interestId item.status actorId actorRole

/-- The items of a case version with their audit events. -/
abbrev ItemTable :=
  Table Uuid PerfectionItem ItemAudit

/-- The committed transitions of an item, newest first. -/
def ItemTable.transitionsOf (table : ItemTable) (itemId : Uuid) : List ItemTransitioned :=
  (table.logOf itemId).filterMap ItemAudit.transition?

theorem transitionsOf_of_cons {table table' : ItemTable} {key k : Uuid} {entry : ItemAudit}
    (h : table'.log = (key, entry) :: table.log) :
    table'.transitionsOf k =
      if k = key then entry.transition?.toList ++ table.transitionsOf k else table.transitionsOf k := by
  unfold ItemTable.transitionsOf
  rw [Table.logOf_of_cons h]
  split_ifs
  · cases entry with
    | added | transitioned => rfl
  · rfl

/-! ## What an update writes -/

/-- The columns an update writes beside those it keeps. -/
structure Written (request : ItemTransition) (current base new : PerfectionItem) : Prop where
  passes : triggerPasses base.status request.toStatus = true
  id : new.id = base.id
  interestId : new.interestId = base.interestId
  status : new.status = request.toStatus
  evidenceRefs : new.evidenceRefs = current.evidenceRefs ++ request.evidenceRefs
  completedBy : new.completedBy = request.onCompletion request.actorId base.completedBy

variable {request : ItemTransition} {current base new item : PerfectionItem}

/-- **What an update writes.** -/
theorem written_of_write (h : writeItemTransition request current base = some new) :
    Written request current base new := by
  simp only [writeItemTransition] at h
  split_ifs at h with hpasses hevid
  cases h
  exact ⟨hpasses, rfl, rfl, rfl, rfl, rfl⟩

theorem admitsItemTransition_iff :
    admitsItemTransition request current = true ↔
      isAllowedItemTransition current.status request.toStatus = true ∧
        ¬ (request.toStatus = completed ∧ request.mergedEvidence current = []) ∧
        ¬ (request.toStatus = notRequiredByHuman ∧ isBlank (request.rationale.getD "") = true) := by
  rw [admitsItemTransition, decide_eq_true_eq]

/-! ## What a ledger that loses nothing records -/

/-- An event as a move. -/
def ItemTransitioned.move (event : ItemTransitioned) : PerfectionStatus × PerfectionStatus :=
  (event.fromStatus, event.toStatus)

/-- The moves of `ALLOWED_ITEM_TRANSITIONS`. -/
abbrev Allowed (current target : PerfectionStatus) : Prop :=
  isAllowedItemTransition current target = true

/-- The actors of the transitions to `COMPLETED`, newest first. -/
def completers (events : List ItemTransitioned) : List Uuid :=
  (events.filter (·.toStatus = completed)).map (·.actorId)

/-- Nothing is lost of the transitions of an item: its evidence holds every reference they have added,
they lead from `PENDING` to its status, and `completed_by` is the actor of the one that has completed it
if one has. -/
structure Kept (events : List ItemTransitioned) (item : PerfectionItem) : Prop where
  evidence : ∀ event ∈ events, ∀ ref ∈ event.evidenceRefsAdded, ref ∈ item.evidenceRefs
  path : Trail Allowed pending (events.map ItemTransitioned.move) item.status
  completion : completers events = item.completedBy.toList

instance (events : List ItemTransitioned) (item : PerfectionItem) : Decidable (Kept events item) :=
  decidable_of_iff
    ((∀ event ∈ events, ∀ ref ∈ event.evidenceRefsAdded, ref ∈ item.evidenceRefs) ∧
      Trail Allowed pending (events.map ItemTransitioned.move) item.status ∧
        completers events = item.completedBy.toList)
    ⟨fun ⟨hevid, hpath, hcompletion⟩ => ⟨hevid, hpath, hcompletion⟩,
      fun ⟨hevid, hpath, hcompletion⟩ => ⟨hevid, hpath, hcompletion⟩⟩

theorem kept_pending (hstat : item.status = pending) (hcompletedBy : item.completedBy = none) :
    Kept [] item where
  evidence _ h := absurd h List.not_mem_nil
  path := hstat
  completion := by rw [hcompletedBy]; rfl

/-- A row has come from another one along the graph. -/
def CameFrom (seen row : PerfectionItem) : Prop :=
  seen = row ∨ seen.status.rank < row.status.rank

theorem CameFrom.refl (row : PerfectionItem) : CameFrom row row :=
  Or.inl rfl

theorem CameFrom.trans {a b c : PerfectionItem} (hab : CameFrom a b) (hbc : CameFrom b c) :
    CameFrom a c := by
  rcases hab with rfl | hab
  · exact hbc
  · rcases hbc with rfl | hbc
    · exact Or.inr hab
    · exact Or.inr (hab.trans hbc)

theorem Written.allowed (h : Written request current base new) (hne : base.status ≠ request.toStatus) :
    isAllowedItemTransition base.status request.toStatus = true := by
  rcases triggerPasses_iff.1 h.passes with hsame | hallow
  · exact absurd hsame.symm hne
  · exact hallow

theorem Written.cameFrom (h : Written request current base new)
    (hne : base.status ≠ request.toStatus) : CameFrom base new := by
  refine Or.inr ?_
  rw [h.status]
  exact rank_lt (h.allowed hne)

theorem seen_eq_base (hadmits : admitsItemTransition request current = true)
    (hwritten : Written request current base new) (hcame : CameFrom current base)
    (hne : base.status ≠ request.toStatus) : current = base := by
  have hsource : current.status = base.status :=
    source_unique (admitsItemTransition_iff.1 hadmits).1 (hwritten.allowed hne)
  rcases hcame with hsame | hrank
  · exact hsame
  · -- both have the one status that leads to the target, so neither is ahead
    rw [hsource] at hrank
    exact absurd hrank (lt_irrefl _)

theorem completers_eq_nil {events : List ItemTransitioned} {status : PerfectionStatus}
    (hpath : Trail Allowed pending (events.map ItemTransitioned.move) status)
    (hrank : status.rank < completed.rank) : completers events = [] := by
  refine List.map_eq_nil_iff.2 (List.filter_eq_nil_iff.2 ?_)
  intro event hevent hcompleted
  have hbelow : event.toStatus.rank ≤ status.rank :=
    Trail.rank_le (fun hallow => rank_lt hallow) hpath (List.mem_map_of_mem hevent)
  rw [of_decide_eq_true hcompleted] at hbelow
  omega

/-- **A commit loses nothing exactly if the row it overwrites has not reached its target.** -/
theorem kept_commit_iff {events : List ItemTransitioned} {event : ItemTransitioned}
    (hkept : Kept events base) (hadmits : admitsItemTransition request current = true)
    (hcame : CameFrom current base) (hwritten : Written request current base new)
    (hevent : (itemTransitionedEntry request current).transition? = some event) :
    Kept (event :: events) new ↔ base.status ≠ request.toStatus := by
  obtain rfl := Option.some.inj hevent
  have hallow := (admitsItemTransition_iff.1 hadmits).1
  constructor
  · intro hnext hreached
    have hpath := hnext.path
    rw [hwritten.status] at hpath
    have hpre : Trail Allowed pending (events.map ItemTransitioned.move) request.toStatus :=
      hreached ▸ hkept.path
    -- the path would have to leave the target for the target
    obtain ⟨hsame, -⟩ : current.status = request.toStatus ∧ _ := (trail_cons_iff hpre).1 hpath
    rw [hsame, isAllowedItemTransition_irrefl] at hallow
    cases hallow
  · intro hne
    obtain rfl := seen_eq_base hadmits hwritten hcame hne
    refine ⟨?_, ?_, ?_⟩
    · intro event hmem ref href
      rw [hwritten.evidenceRefs, List.mem_append]
      rcases List.mem_cons.1 hmem with rfl | hold
      · exact Or.inr href
      · exact Or.inl (hkept.evidence event hold ref href)
    · rw [hwritten.status]
      exact ⟨rfl, hallow, hkept.path⟩
    · rw [hwritten.completedBy, ItemTransition.onCompletion, completers, List.filter_cons]
      by_cases hcompleted : request.toStatus = completed
      · -- the first completion
        have hnone := completers_eq_nil hkept.path (hcompleted ▸ rank_lt hallow)
        rw [if_pos (decide_eq_true hcompleted), if_pos hcompleted, List.map_cons]
        exact congrArg (request.actorId :: ·) hnone
      · rw [if_neg (by simpa using hcompleted), if_neg hcompleted]
        exact hkept.completion

end CreditOps.SecurityInterests
