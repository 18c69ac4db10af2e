import CreditOps.Orchestration.HumanGates
import CreditOps.SecurityInterests.Transitions

/-!
# What a confirmed perfection is worth

A confirmation derives once that every interest has items and that all of them are satisfied, and then
satisfies a gate that nothing opens again. Taking an interest, adding an item and expiring one do not look
at the gate, and each of them can also slip in between what a confirmation has read and its gate write.
-/

set_option autoImplicit false

namespace CreditOps.SecurityInterests

open Transition RowTransactions PartialMap Orchestration PerfectionStatus
open Disbursements (ActorContext opsCheckerRole)

/-! ## The promise and the condition -/

/-- **The gate is truthful.** A confirmed perfection is confirmable. -/
def GateTruthful (s : System) : Prop :=
  s.Confirmed → derivePerfectionConfirmable s.ledger = true

instance (s : System) : Decidable (GateTruthful s) :=
  inferInstanceAs (Decidable (_ → _))

/-- What a confirmation has read still stands, and what it has not read is satisfied on its own: each
interest was read or has an item by now, no item it has listed has expired, and the other items are
satisfied. -/
def stillReady (s : System) (confirmation : Confirmation) : Bool :=
  s.interests.all fun interest =>
    (interest ∈ confirmation.interests ∨ s.items.itemsOf interest.id ≠ []) ∧
      (s.items.itemsOf interest.id).all fun item =>
        if item.id ∈ confirmation.listed then item.status ≠ expired
        else item.status ∈ terminalSatisfiedStatuses

/-- The condition on one step: a confirmed case takes no interest, adds no item and expires none, and is
confirmed only while what the confirmation has read still stands. -/
def KeepsConfirmed (s : System) : Request → Prop
  | .createInterest _ _ _ | .addItem _ _ _ _ => ¬ s.Confirmed
  | .transition callId .commit =>
    s.Confirmed → (s.session.transactions callId).all (·.request.toStatus ≠ expired) = true
  | .satisfyGate confirmId _ =>
    s.Confirmed ∨ (s.confirmations confirmId).all (stillReady s) = true
  | _ => True

instance (s : System) : ∀ q, Decidable (KeepsConfirmed s q)
  | .createInterest _ _ _ | .addItem _ _ _ _ => inferInstanceAs (Decidable (¬ s.Confirmed))
  | .transition _ .commit => inferInstanceAs (Decidable (s.Confirmed → _ = true))
  | .satisfyGate _ _ => inferInstanceAs (Decidable (s.Confirmed ∨ _ = true))
  | .transition _ .update | .transition _ .record | .transition _ .rollback
  | .beginTransition _ _ _ _ _ | .openConfirm _ _ _ | .listItems _ | .auditConfirm _ => isTrue trivial

variable {s t : System} {q : Request}

/-! ## The ledger -/

variable {table : ItemTable} {key interestId : Uuid} {item : PerfectionItem}

theorem mem_itemsOf_iff :
    item ∈ table.itemsOf interestId ↔
      (∃ key, table.rows key = some item) ∧ item.interestId = interestId := by
  rw [ItemTable.itemsOf, List.mem_filter, Table.mem_listing_iff, decide_eq_true_eq]

variable {interests : List SecurityInterest}

theorem confirmable_entries_iff :
    derivePerfectionConfirmable (ledgerEntries interests table) = true ↔
      interests ≠ [] ∧ ∀ interest ∈ interests, table.itemsOf interest.id ≠ [] ∧
        ∀ item ∈ table.itemsOf interest.id, item.status ∈ terminalSatisfiedStatuses := by
  rw [confirmable_iff, ledgerEntries, ne_eq, List.map_eq_nil_iff, List.forall_mem_map]

theorem not_confirmable_of_item (hrow : table.rows key = some item)
    (hhoused : item.interestId ∈ interests.map (·.id))
    (hstat : item.status ∉ terminalSatisfiedStatuses) :
    ¬ derivePerfectionConfirmable (ledgerEntries interests table) = true := by
  intro hconfirmable
  obtain ⟨interest, hint, hid⟩ := List.mem_map.1 hhoused
  have hitems := ((confirmable_entries_iff.1 hconfirmable).2 interest hint).2
  exact hstat (hitems item (mem_itemsOf_iff.2 ⟨⟨key, hrow⟩, hid.symm⟩))

theorem satisfied_of_confirmable (h : Tracked s)
    (hconfirmable : derivePerfectionConfirmable s.ledger = true) (hrow : s.items.rows key = some item) :
    item.status ∈ terminalSatisfiedStatuses := by
  by_contra hstat
  exact not_confirmable_of_item hrow (h.housed hrow) hstat hconfirmable

/-! ## What a step does to the gate -/

theorem tables_of_step (h : step s q = some t) (hwrite : ∀ confirmId now, q ≠ .satisfyGate confirmId now) :
    t.tables = s.tables ∧ t.caseVersion = s.caseVersion := by
  cases step_cases h with
  | satisfied => exact absurd rfl (hwrite _ _)
  | created | added | begun | executed | opened | derived | refused | audited => exact ⟨rfl, rfl⟩

theorem confirmed_congr (h : t.tables = s.tables ∧ t.caseVersion = s.caseVersion) :
    t.Confirmed ↔ s.Confirmed := by
  rw [System.Confirmed, System.Confirmed, h.1, h.2]

theorem confirmed_satisfy (s : System) (actorId : Uuid) (now : Timestamp) :
    (s.satisfy actorId now).Confirmed :=
  CaseTables.gateSatisfied_ensureGate_self ..

theorem interests_eq_of_step (h : step s q = some t)
    (hcreate : ∀ newId actor body, q ≠ .createInterest newId actor body) :
    t.interests = s.interests := by
  cases step_cases h with
  | created => exact absurd rfl (hcreate _ _ _)
  | added | begun | executed | opened | derived | refused | satisfied | audited => rfl

/-! ## What a confirmation may rely on -/

/-- An item that was satisfied when it was listed: it is still there, and satisfied or expired. -/
def ItemStands (table : ItemTable) (id : Uuid) : Prop :=
  ∃ item, table.rows id = some item ∧
    (item.status ∈ terminalSatisfiedStatuses ∨ item.status = expired)

/-- An interest has an item. -/
def HasItem (table : ItemTable) (interestId : Uuid) : Prop :=
  ∃ key item, table.rows key = some item ∧ item.interestId = interestId

/-- What a confirmation has derived from stands: there was an interest, each interest it has read has an
item, and each item it has listed is satisfied or has expired since. -/
structure Derived (table : ItemTable) (confirmation : Confirmation) : Prop where
  interests : confirmation.interests ≠ []
  items : ∀ interest ∈ confirmation.interests, HasItem table interest.id
  listed : ∀ id ∈ confirmation.listed, ItemStands table id

/-- Every move of the items keeps what was listed. -/
theorem ItemStands.move {id : Uuid} (h : ItemStands s.items id) (hmove : ItemMove s q table) :
    ItemStands table id := by
  obtain ⟨item, hrow, hstat⟩ := h
  cases hmove with
  | same => exact ⟨item, hrow, hstat⟩
  | added _ hfree hrows =>
    exact ⟨item, hrows ▸ update_of_free hfree hrow, hstat⟩
  | @moved callId transaction base new table _ _ _ hbase hwritten hrows _ =>
    by_cases hid : id = transaction.request.itemId
    · subst hid
      obtain rfl : item = base := Option.some.inj (hrow.symm.trans hbase)
      refine ⟨new, by rw [hrows, Function.update_self], ?_⟩
      rw [hwritten.status]
      rcases triggerPasses_iff.1 hwritten.passes with hsame | hallow
      · rw [hsame]
        exact hstat
      · rcases hstat with hsat | hexpired
        · exact Or.inr (target_of_terminal hsat hallow)
        · rw [hexpired, not_allowed_of_expired] at hallow
          cases hallow
    · exact ⟨item, by rw [hrows, Function.update_of_ne hid, hrow], hstat⟩

/-- An item stays under its interest. -/
theorem HasItem.move (h : HasItem s.items interestId) (hmove : ItemMove s q table) :
    HasItem table interestId := by
  obtain ⟨key, item, hrow, hint⟩ := h
  cases hmove with
  | same => exact ⟨key, item, hrow, hint⟩
  | added _ hfree hrows =>
    exact ⟨key, item, hrows ▸ update_of_free hfree hrow, hint⟩
  | @moved callId transaction base new table _ _ _ hbase hwritten hrows _ =>
    by_cases hkey : key = transaction.request.itemId
    · subst hkey
      obtain rfl : item = base := Option.some.inj (hrow.symm.trans hbase)
      exact ⟨_, new, by rw [hrows, Function.update_self], hwritten.interestId.trans hint⟩
    · exact ⟨key, item, by rw [hrows, Function.update_of_ne hkey, hrow], hint⟩

variable {confirmation : Confirmation}

theorem Derived.move (h : Derived s.items confirmation) (hmove : ItemMove s q table) :
    Derived table confirmation where
  interests := h.interests
  items interest hint := (h.items interest hint).move hmove
  listed id hid := (h.listed id hid).move hmove

/-- A successful derivation stands. -/
theorem derived_of_check (h : Tracked s) {phase : ConfirmationPhase}
    (hcheck : checkConfirmable (ledgerEntries confirmation.interests s.items) = true) :
    Derived s.items
      { confirmation with
        listed := itemIds (ledgerEntries confirmation.interests s.items), phase } := by
  obtain ⟨-, hconfirmable⟩ := of_decide_eq_true hcheck
  obtain ⟨hne, hall⟩ := confirmable_entries_iff.1 hconfirmable
  refine ⟨hne, fun interest hint => ?_, fun id hid => ?_⟩
  · obtain ⟨item, hmem⟩ := List.exists_mem_of_ne_nil _ (hall interest hint).1
    obtain ⟨⟨key, hrow⟩, hid⟩ := mem_itemsOf_iff.1 hmem
    exact ⟨key, item, hrow, hid⟩
  · obtain ⟨_, hentry, hmem⟩ := List.mem_flatMap.1 hid
    obtain ⟨interest, hint, rfl⟩ := List.mem_map.1 hentry
    obtain ⟨item, hitem, rfl⟩ := List.mem_map.1 hmem
    obtain ⟨⟨_, hrow⟩, -⟩ := mem_itemsOf_iff.1 hitem
    have hkey := h.filed hrow
    exact ⟨item, hkey ▸ hrow, Or.inl ((hall interest hint).2 item hitem)⟩

/-- What every reachable state satisfies. -/
structure ConfirmInv (s : System) : Prop where
  tracked : Tracked s
  derived : ∀ confirmId confirmation, s.confirmations confirmId = some confirmation →
    confirmation.phase = .derived → Derived s.items confirmation

theorem Initial.confirmInv (h : Initial s) : ConfirmInv s where
  tracked := h.tracked
  derived confirmId confirmation hconf := by
    rw [h.noConfirmation] at hconf
    cases hconf

theorem ConfirmInv.step (h : ConfirmInv s) (hstep : SecurityInterests.step s q = some t) :
    ConfirmInv t := by
  have hmove := itemMove_of_step h.tracked.consistent hstep
  have hold : ∀ confirmId confirmation, s.confirmations confirmId = some confirmation →
      confirmation.phase = .derived → Derived t.items confirmation := by
    intro confirmId confirmation hconf hphase
    exact (h.derived confirmId confirmation hconf hphase).move hmove
  have hput : ∀ {confirmId next}, (next.phase = .derived → Derived t.items next) → ∀ id confirmation,
      Function.update s.confirmations confirmId (some next) id = some confirmation →
        confirmation.phase = .derived → Derived t.items confirmation := by
    intro confirmId next hnext id confirmation hconf hphase
    rcases update_some_cases hconf with ⟨-, rfl⟩ | ⟨-, hpre⟩
    · exact hnext hphase
    · exact hold id confirmation hpre hphase
  refine ⟨h.tracked.step hstep, ?_⟩
  cases step_cases hstep with
  | created | added | begun | executed => exact hold
  | derived _ _ hcheck => exact hput fun _ => derived_of_check h.tracked hcheck
  | opened | refused | satisfied | audited => exact hput nofun

/-! ## Truthfulness -/

theorem truthful_congr (htabs : t.tables = s.tables ∧ t.caseVersion = s.caseVersion)
    (hints : t.interests = s.interests) (hitems : t.items = s.items) :
    GateTruthful t ↔ GateTruthful s := by
  rw [GateTruthful, GateTruthful, confirmed_congr htabs, System.ledger, System.ledger, hints,
    hitems]

/-- What is still ready makes the ledger confirmable, and nothing else does. -/
theorem confirmable_iff_stillReady (h : Tracked s) (hderived : Derived s.items confirmation) :
    derivePerfectionConfirmable s.ledger = true ↔ stillReady s confirmation = true := by
  rw [System.ledger, confirmable_entries_iff, stillReady, List.all_eq_true]
  simp only [decide_eq_true_eq, List.all_eq_true]
  constructor
  · rintro ⟨-, hall⟩ interest hint
    obtain ⟨hne, hsat⟩ := hall interest hint
    refine ⟨Or.inr hne, fun item hitem => ?_⟩
    split_ifs with hlisted
    · refine decide_eq_true fun hexpired => ?_
      exact absurd (hsat item hitem) (by rw [hexpired]; decide)
    · exact decide_eq_true (hsat item hitem)
  · intro hready
    refine ⟨?_, fun interest hint => ?_⟩
    · -- an interest was read, it has an item, and the item is under a current interest
      obtain ⟨interest, hread⟩ := List.exists_mem_of_ne_nil _ hderived.interests
      obtain ⟨_, _, hrow, -⟩ := hderived.items interest hread
      obtain ⟨_, hcur, -⟩ := List.mem_map.1 (h.housed hrow)
      exact List.ne_nil_of_mem hcur
    · obtain ⟨hitems, hall⟩ := hready interest hint
      refine ⟨?_, fun item hitem => ?_⟩
      · rcases hitems with hread | hne
        · obtain ⟨key, _, hrow, hid⟩ := hderived.items interest hread
          exact List.ne_nil_of_mem (mem_itemsOf_iff.2 ⟨⟨key, hrow⟩, hid⟩)
        · exact hne
      · have hitem' := hall item hitem
        split_ifs at hitem' with hlisted
        · obtain ⟨other, hrow, hstat⟩ := hderived.listed item.id hlisted
          obtain ⟨⟨_, hkey⟩, -⟩ := mem_itemsOf_iff.1 hitem
          obtain rfl := h.filed hkey
          obtain rfl : item = other := Option.some.inj (hkey.symm.trans hrow)
          exact hstat.resolve_right (of_decide_eq_true hitem')
        · exact of_decide_eq_true hitem'

/-- **A commit in a confirmable ledger keeps it confirmable exactly if it does not expire the item.** -/
theorem confirmable_commit_iff (h : Tracked s)
    (hconfirmable : derivePerfectionConfirmable s.ledger = true) {request : ItemTransition}
    {seen base new : PerfectionItem} (hbase : s.items.rows request.itemId = some base)
    (hwritten : Written request seen base new)
    (hrows : table.rows = Function.update s.items.rows request.itemId (some new)) :
    derivePerfectionConfirmable (ledgerEntries s.interests table) = true ↔
      request.toStatus ≠ expired := by
  have hsat := satisfied_of_confirmable h hconfirmable hbase
  have hnewRow : table.rows request.itemId = some new := by rw [hrows, Function.update_self]
  constructor
  · intro hafter hexpired
    refine not_confirmable_of_item hnewRow ?_ ?_ hafter
    · rw [hwritten.interestId]
      exact h.housed hbase
    · rw [hwritten.status, hexpired]
      decide
  · intro hne
    -- the update passed the trigger, so it kept the status of the satisfied item
    have hkept : new.status = base.status := by
      rw [hwritten.status]
      rcases triggerPasses_iff.1 hwritten.passes with hsame | hallow
      · exact hsame
      · exact absurd (target_of_terminal hsat hallow) hne
    obtain ⟨hints, hall⟩ := confirmable_entries_iff.1 hconfirmable
    refine confirmable_entries_iff.2 ⟨hints, fun interest hint => ?_⟩
    obtain ⟨hitems, hstatuses⟩ := hall interest hint
    refine ⟨?_, fun item hmem => ?_⟩
    · obtain ⟨item, hmem⟩ := List.exists_mem_of_ne_nil _ hitems
      obtain ⟨⟨key, hrow⟩, hid⟩ := mem_itemsOf_iff.1 hmem
      by_cases hkey : key = request.itemId
      · subst hkey
        obtain rfl : item = base := Option.some.inj (hrow.symm.trans hbase)
        exact List.ne_nil_of_mem (mem_itemsOf_iff.2
          ⟨⟨_, hnewRow⟩, hwritten.interestId.trans hid⟩)
      · exact List.ne_nil_of_mem (mem_itemsOf_iff.2
          ⟨⟨key, by rw [hrows, Function.update_of_ne hkey, hrow]⟩, hid⟩)
    · obtain ⟨⟨key, hrow⟩, hid⟩ := mem_itemsOf_iff.1 hmem
      rw [hrows] at hrow
      rcases update_some_cases hrow with ⟨-, rfl⟩ | ⟨-, hold⟩
      · rw [hkept]
        exact hsat
      · exact hstatuses item (mem_itemsOf_iff.2 ⟨⟨key, hold⟩, hid⟩)

theorem not_confirmable_of_created (h : Tracked s) {interest : SecurityInterest}
    (hfree : interest.id ∉ s.interests.map (·.id)) :
    ¬ derivePerfectionConfirmable (ledgerEntries (s.interests ++ [interest]) s.items) = true := by
  intro hconfirmable
  have hmem : interest ∈ s.interests ++ [interest] :=
    List.mem_append_right _ (List.mem_singleton_self interest)
  obtain ⟨_, hitem⟩ := List.exists_mem_of_ne_nil _
    ((confirmable_entries_iff.1 hconfirmable).2 interest hmem).1
  obtain ⟨⟨_, hrow⟩, hid⟩ := mem_itemsOf_iff.1 hitem
  exact hfree (hid ▸ h.housed hrow)

/-- **A step keeps the gate truthful exactly if it meets the condition.** -/
theorem truthful_step_iff (h : ConfirmInv s) (htruthful : GateTruthful s) (hstep : step s q = some t) :
    GateTruthful t ↔ KeepsConfirmed s q := by
  have hcons := h.tracked.consistent
  cases q with
  | createInterest =>
    cases step_cases hstep with
    | created hfree => exact imp_iff_not (not_confirmable_of_created h.tracked hfree)
  | addItem newId _ interestId body =>
    cases step_cases hstep with
    | added hint hins =>
      obtain ⟨-, hrows, -⟩ := Table.insert_eq_some hins
      have hitem : ∀ {table : ItemTable}, table.rows = Function.update s.items.rows newId
          (some (body.item newId interestId)) → table.rows newId = some (body.item newId interestId) :=
        fun hrows => by rw [hrows, Function.update_self]
      -- the new item is pending
      exact imp_iff_not (not_confirmable_of_item (hitem hrows) hint pending_not_satisfied)
  | transition callId next =>
    have htabs := tables_of_step hstep nofun
    have hints := interests_eq_of_step hstep nofun
    cases next with
    | commit =>
      have hmove := itemMove_of_step hcons hstep
      rw [GateTruthful, confirmed_congr htabs, System.ledger, hints]
      generalize t.items = table at hmove ⊢
      cases hmove with
      | same hcom => exact absurd rfl (hcom callId)
      | moved hopen _ _ hbase hwritten hrows =>
        simp only [KeepsConfirmed, hopen, Option.all_some, decide_eq_true_eq]
        refine imp_congr_right fun hconfirmed => ?_
        exact confirmable_commit_iff h.tracked (htruthful hconfirmed) hbase hwritten hrows
    | update | record | rollback =>
      rw [truthful_congr htabs hints (items_of_step hcons hstep nofun nofun)]
      exact iff_of_true htruthful trivial
  | satisfyGate confirmId now =>
    cases step_cases hstep with
    | @satisfied _ _ confirmation hconf hphase =>
      have hready := confirmable_iff_stillReady h.tracked
        (h.derived confirmId confirmation hconf hphase)
      simp only [KeepsConfirmed, hconf, Option.all_some, ← hready]
      constructor
      · intro hafter
        exact Or.inr (hafter (confirmed_satisfy s confirmation.actorId now))
      · rintro (hconfirmed | hconfirmable) -
        · exact htruthful hconfirmed
        · exact hconfirmable
  | beginTransition | openConfirm | listItems | auditConfirm =>
    rw [truthful_congr (tables_of_step hstep nofun) (interests_eq_of_step hstep nofun)
      (items_of_step hcons hstep nofun nofun)]
    exact iff_of_true htruthful trivial

/-- **When the perfection gate is truthful.** The gate stays truthful in every state of a run exactly if
every step meets the condition. -/
theorem perfectionGate_truthful_iff {as : List Request} (hinit : Initial s)
    (hrun : run step s as = some t) :
    AllAlong step GateTruthful s as ↔ RunMeets step KeepsConfirmed s as :=
  allAlong_iff_runMeets (fun hs _ hstep _ => ConfirmInv.step hs hstep)
    (fun hs htruthful hstep => truthful_step_iff hs htruthful hstep) hinit.confirmInv
    (fun hconfirmed => absurd hconfirmed hinit.gateOpen) hrun

/-! ## A confirmation at work -/

section Histories

/-- A checker confirms the perfection. -/
def confirming (confirmId actorId : Uuid) : List Request :=
  [.openConfirm confirmId ⟨actorId, [opsCheckerRole]⟩ "đã kiểm tra", .listItems confirmId,
    .satisfyGate confirmId 10, .auditConfirm confirmId]

/-- A requirement is completed and the perfection is confirmed. -/
def completedThenConfirmed : List Request :=
  completedInTurn ++ confirming 1 31

theorem completedThenConfirmed_truthful :
    ∃ t, run step openedCase completedThenConfirmed = some t ∧ t.Confirmed ∧
      AllAlong step GateTruthful openedCase completedThenConfirmed := by
  have hruns : (run step openedCase completedThenConfirmed).any (·.Confirmed) = true := by
    decide +kernel
  obtain ⟨t, hrun, hconfirmed⟩ := (Option.any_eq_true _ _).1 hruns
  have hmeets : RunMeets step KeepsConfirmed openedCase completedThenConfirmed := by decide +kernel
  exact ⟨t, hrun, of_decide_eq_true hconfirmed,
    (perfectionGate_truthful_iff openedCase_initial hrun).2 hmeets⟩

/-- An officer takes a second interest after the confirmation. -/
def takenAfterwards : List Request :=
  completedThenConfirmed ++
    [.createInterest 6 (officer 20) ⟨"Xe tải", "VEHICLE", none, none, none⟩]

/-- **A confirmed case takes another interest.** It has no requirement yet, and the gate stays
satisfied. -/
theorem confirmed_without_items :
    Initial openedCase ∧ ∃ t, run step openedCase takenAfterwards = some t ∧ t.Confirmed ∧
      (derivePerfectionBlockers t.ledger).interestsWithoutItems = [6] ∧ ¬ GateTruthful t := by
  have hruns : (run step openedCase takenAfterwards).any (fun t => t.Confirmed ∧
      (derivePerfectionBlockers t.ledger).interestsWithoutItems = [6] ∧ ¬ GateTruthful t) = true := by
    decide +kernel
  obtain ⟨t, hrun, hstate⟩ := (Option.any_eq_true _ _).1 hruns
  exact ⟨openedCase_initial, t, hrun, of_decide_eq_true hstate⟩

end Histories

end CreditOps.SecurityInterests
