import CreditOps.Repayments.Priority
import CreditOps.Repayments.Deliveries

/-!
# One more payment, a later date

A ledger of whole cents is monotone. A payment that joins the history takes one place in its canonical order
(`sortEvents_insert`), and the sums keep their order when the context rounds them, so the net cash does not
go down (`netPaid_le`). With more cash no bucket receives less and no less is left for the later ones
(`takeMoney_mono`), hence every bucket of the snapshot grows (`allocate_grows`). A later date changes no
bucket: it lets more installments fall due (`allocate_ages`).
-/

set_option autoImplicit false

namespace CreditOps.Repayments

open Decimal Results AddSubgroup

/-! ## What monotone says -/

/-- A period once more cash has arrived: no bucket lower, still paid, not newly overdue. -/
structure LedgerPeriod.GrowsTo (before after : LedgerPeriod) : Prop where
  period : before.period = after.period
  dueDate : before.dueDate = after.dueDate
  demands : before.demands = after.demands
  shares : List.Forall₂ (· ≤ ·) before.shares after.shares
  paid : before.status = .paid → after.status = .paid
  overdue : after.overdue = true → before.overdue = true

/-- A period at a later date: it may have become overdue, nothing else. -/
structure LedgerPeriod.AgesTo (before after : LedgerPeriod) : Prop where
  same : after = { before with overdue := after.overdue }
  overdue : before.overdue = true → after.overdue = true

/-! ## The order of the events -/

instance : Std.Total RepaymentEvent.ordered where
  total a b := by
    unfold RepaymentEvent.ordered
    have hid := le_total a.id b.id
    grind

instance : IsTrans RepaymentEvent RepaymentEvent.ordered where
  trans a b c hab hbc := by
    unfold RepaymentEvent.ordered at hab hbc ⊢
    have hid : a.id ≤ b.id → b.id ≤ c.id → a.id ≤ c.id := le_trans
    grind

/-- **An event takes one place.** The other events keep their order. -/
theorem sortEvents_insert (before after : List RepaymentEvent) (event : RepaymentEvent) :
    ∃ early late, sortEvents (before ++ after) = early ++ late ∧
      sortEvents (before ++ event :: after) = early ++ event :: late := by
  apply exists_insert_of_sublist
  · induction before with
    | nil => exact List.sublist_orderedInsert _ _
    | cons first _ ih =>
      exact ih.orderedInsert_sublist first (List.pairwise_insertionSort _ _)
  · exact (sortEvents_perm _).trans
      (List.perm_middle.trans ((sortEvents_perm (before ++ after)).symm.cons event))

/-- **A payment does not lower the net cash.** -/
theorem netPaid_le {before after : List RepaymentEvent} {payment : RepaymentEvent}
    (hcents : ∀ event ∈ before ++ payment :: after, event.amount.toRat ∈ zmultiples cent)
    (hkind : payment.kind = .payment) :
    (sumMoney ((sortEvents (before ++ after)).map (·.signedAmount))).toRat ≤
      (sumMoney ((sortEvents (before ++ payment :: after)).map (·.signedAmount))).toRat := by
  obtain ⟨early, _, hold, hnew⟩ := sortEvents_insert before after payment
  have hearly : ∀ value ∈ early.map (·.signedAmount), value.toRat ∈ zmultiples cent := by
    intro value hvalue
    obtain ⟨event, hevent, rfl⟩ := List.mem_map.1 hvalue
    refine signedAmount_mem (hcents event ((sortEvents_perm _).subset ?_))
    rw [hnew]
    exact List.mem_append_left _ hevent
  have hamount : 0 ≤ payment.signedAmount.toRat := by
    have hsigned : payment.signedAmount = payment.amount := by
      unfold RepaymentEvent.signedAmount
      rw [hkind]
    rw [hsigned]
    exact amount_nonneg payment
  have hstart : WholeCents
      ((early.map (·.signedAmount)).foldl (Decimal.add contextPrecision) zeroMoney) :=
    wholeCents_foldl hearly wholeCents_zeroMoney
  rw [hold, hnew]
  unfold sumMoney
  rw [List.map_append, List.map_append, List.foldl_append, List.foldl_append, List.map_cons,
    List.foldl_cons]
  exact foldl_add_mono (by decide) (le_toRat_add (by decide) hstart.fits hamount)

/-! ## More cash -/

/-- **More cash in a bucket.** It receives no less and leaves no less. -/
theorem takeMoney_mono {less more demand share share' : Decimal} (hless : WholeCents less)
    (hmore : WholeCents more) (hcents : Cents demand) (hdemand : 0 ≤ demand.toRat)
    (hle : less.toRat ≤ more.toRat) (h : takeMoney less demand = .ok share)
    (h' : takeMoney more demand = .ok share') :
    share.toRat ≤ share'.toRat ∧
      (less.sub contextPrecision share).toRat ≤ (more.sub contextPrecision share').toRat := by
  have hshare := takeMoney_toRat hless hcents h
  have hshare' := takeMoney_toRat hmore hcents h'
  have hshares : share.toRat ≤ share'.toRat := by
    rw [hshare, hshare']
    exact max_le_max le_rfl (min_le_min hle le_rfl)
  refine ⟨hshares, ?_⟩
  have hfull : share'.toRat ≤ demand.toRat := by
    rw [hshare']
    exact max_le hdemand (min_le_right _ _)
  by_cases hshort : less.toRat ≤ 0 ∨ share.toRat < demand.toRat
  · rw [takeMoney_left hless hcents hdemand h hshort]
    by_cases hshort' : more.toRat ≤ 0 ∨ share'.toRat < demand.toRat
    · rw [takeMoney_left hmore hcents hdemand h' hshort']
      exact min_le_min hle le_rfl
    · -- the bucket is full, so what is left is not negative
      rw [not_or, not_le, not_lt] at hshort'
      refine (min_le_right _ _).trans (toRat_round_nonneg (by decide) ?_)
      have hwithin : share'.toRat ≤ more.toRat := by
        rw [hshare']
        exact max_le hshort'.1.le (min_le_left _ _)
      rw [toRat_addExact, toRat_negExact]
      linarith
  · rw [not_or, not_le, not_lt] at hshort
    exact toRat_sub_mono (by decide) hle (hfull.trans hshort.2)

variable {asOf : Date}

/-- **More cash in an installment.** -/
theorem allocateInstallment_grows {less more left left' : Decimal} {installment : ExpectedInstallment}
    {period period' : LedgerPeriod} (hless : WholeCents less) (hmore : WholeCents more)
    (hpayable : installment.Payable) (hle : less.toRat ≤ more.toRat)
    (h : allocateInstallment asOf less installment = .ok (period, left))
    (h' : allocateInstallment asOf more installment = .ok (period', left')) :
    period.GrowsTo period' ∧ left.toRat ≤ left'.toRat := by
  obtain ⟨-, -, -, hstat, hoverdue, hnumber, hdue⟩ := allocateInstallment_flags h
  obtain ⟨-, -, -, hstat', hoverdue', hnumber', hdue'⟩ := allocateInstallment_flags h'
  obtain ⟨hdemands, hfee, hint, hprin, rfl⟩ := allocateInstallment_eq_ok h
  obtain ⟨hdemands', hfee', hint', hprin', rfl⟩ := allocateInstallment_eq_ok h'
  obtain ⟨hfeeCents, hfeePos⟩ := hpayable.fee
  obtain ⟨hinterestCents, hinterestPos⟩ := hpayable.interest
  obtain ⟨hprincipalCents, hprincipalPos⟩ := hpayable.principal
  -- the three buckets, side by side
  obtain ⟨hfees, hafterFee⟩ := takeMoney_mono hless hmore hfeeCents hfeePos hle hfee hfee'
  have hless' := (takeMoney_wholeCents hless hfeeCents hfee).2
  have hmore' := (takeMoney_wholeCents hmore hfeeCents hfee').2
  obtain ⟨hints, hafterInterest⟩ :=
    takeMoney_mono hless' hmore' hinterestCents hinterestPos hafterFee hint hint'
  have hless'' := (takeMoney_wholeCents hless' hinterestCents hint).2
  have hmore'' := (takeMoney_wholeCents hmore' hinterestCents hint').2
  obtain ⟨hprins, hafter⟩ :=
    takeMoney_mono hless'' hmore'' hprincipalCents hprincipalPos hafterInterest hprin hprin'
  have htotal : period.allocatedTotal.toRat ≤ period'.allocatedTotal.toRat :=
    total_mono hfees hints hprins
  refine ⟨⟨hnumber.trans hnumber'.symm, hdue.trans hdue'.symm, hdemands.trans hdemands'.symm,
    .cons hfees (.cons hints (.cons hprins .nil)), fun hpaid => ?_, fun hlate => ?_⟩, hafter⟩
  · have hcovers : installment.total ≤ period.allocatedTotal := by
      by_contra hshort
      rw [hstat, if_neg hshort] at hpaid
      split at hpaid <;> cases hpaid
    rw [hstat', if_pos]
    exact le_def.2 ((le_def.1 hcovers).trans htotal)
  · rw [hoverdue', decide_eq_true_iff, hdue', ← hdue] at hlate
    rw [hoverdue, decide_eq_true_iff]
    exact ⟨hlate.1, lt_def.2 (htotal.trans_lt (lt_def.1 hlate.2))⟩

variable {installments : List ExpectedInstallment}

/-- **More cash in the loop.** Every period grows. -/
theorem allocate_grows (hpayable : ∀ i ∈ installments, i.Payable) :
    ∀ {less more left left' : Decimal} {periods periods' : List LedgerPeriod}, WholeCents less →
      WholeCents more → less.toRat ≤ more.toRat →
      allocate asOf less installments = .ok (periods, left) →
      allocate asOf more installments = .ok (periods', left') →
      List.Forall₂ LedgerPeriod.GrowsTo periods periods' := by
  induction installments with
  | nil =>
    intro less more left left' periods periods' _ _ _ h h'
    cases h
    cases h'
    exact .nil
  | cons _ _ ih =>
    intro less more left left' periods periods' hless hmore hle h h'
    obtain ⟨_, _, _, hone, hloop, rfl⟩ := allocate_cons_eq_ok h
    obtain ⟨_, _, _, hone', hloop', rfl⟩ := allocate_cons_eq_ok h'
    rw [List.forall_mem_cons] at hpayable
    obtain ⟨hgrows, hafter⟩ :=
      allocateInstallment_grows hless hmore hpayable.1 hle hone hone'
    have hless' := (allocateInstallment_served hless hpayable.1 hone (.nil _)).2.2
    have hmore' := (allocateInstallment_served hmore hpayable.1 hone' (.nil _)).2.2
    exact .cons hgrows (ih hpayable.2 hless' hmore' hafter hloop hloop')

/-! ## A later date -/

/-- **The loop at a later date** hands out the same; more periods may be overdue. -/
theorem allocate_ages {later : Date} (hlater : asOf ≤ later) :
    ∀ {remaining left : Decimal} {periods : List LedgerPeriod},
      allocate asOf remaining installments = .ok (periods, left) →
      ∃ periods', allocate later remaining installments = .ok (periods', left) ∧
        List.Forall₂ LedgerPeriod.AgesTo periods periods' := by
  induction installments with
  | nil =>
    intro remaining left periods h
    cases h
    exact ⟨[], rfl, .nil⟩
  | cons installment _ ih =>
    intro remaining left periods h
    obtain ⟨period, after, _, hone, hloop, rfl⟩ := allocate_cons_eq_ok h
    obtain ⟨rest', hloop', hages⟩ := ih hloop
    have hstep : ∃ period', allocateInstallment later remaining installment = .ok (period', after) ∧
        period.AgesTo period' := by
      unfold allocateInstallment at hone
      obtain ⟨fee, hfee, hone⟩ := bind_eq_ok.1 hone
      obtain ⟨interest, hint, hone⟩ := bind_eq_ok.1 hone
      obtain ⟨principal, hprin, hone⟩ := bind_eq_ok.1 hone
      cases hone
      refine ⟨_, bind_eq_ok.2 ⟨fee, hfee, bind_eq_ok.2 ⟨interest, hint,
        bind_eq_ok.2 ⟨principal, hprin, rfl⟩⟩⟩, rfl, ?_⟩
      intro hoverdue
      obtain ⟨hdue, hshort⟩ := of_decide_eq_true hoverdue
      exact decide_eq_true ⟨le_trans (α := Nat) hdue hlater, hshort⟩
    obtain ⟨period', hone', hage⟩ := hstep
    exact ⟨period' :: rest', bind_eq_ok.2 ⟨_, hone', bind_eq_ok.2 ⟨_, hloop', rfl⟩⟩, .cons hage hages⟩

/-! ## The history with one more payment -/

section Insert

variable {before after : List RepaymentEvent} {payment : RepaymentEvent}

theorem mem_insert_iff {event : RepaymentEvent} :
    event ∈ before ++ payment :: after ↔ event = payment ∨ event ∈ before ++ after := by
  rw [List.perm_middle.mem_iff, List.mem_cons]

theorem paymentAmount_insert {id : Uuid} (hid : id ≠ payment.id) :
    paymentAmount (before ++ payment :: after) id = paymentAmount (before ++ after) id := by
  have hskip : ¬ decide (payment.kind = .payment ∧ payment.id = id) = true := by
    rw [decide_eq_true_iff]
    exact fun h => hid h.2.symm
  unfold paymentAmount
  rw [List.filter_append, List.filter_append, List.filter_cons, if_neg hskip]

theorem reversalsOf_insert (hkind : payment.kind = .payment) (id : Uuid) :
    reversalsOf (before ++ payment :: after) id = reversalsOf (before ++ after) id := by
  have hskip : ¬ decide (payment.kind = .reversal ∧ payment.reversedEventId = some id) = true := by
    rw [decide_eq_true_iff, hkind]
    exact fun h => nomatch h.1
  unfold reversalsOf
  rw [List.filter_append, List.filter_append, List.filter_cons, if_neg hskip]

/-- **A valid history stays valid** with one more payment of the facility under a new id. -/
theorem orderEvents_insert {facilityId : Uuid} (hkind : payment.kind = .payment)
    (hown : payment.facilityId = facilityId) (hnew : ∀ event ∈ before ++ after, event.id ≠ payment.id)
    (h : ∃ ordered, orderEvents facilityId (before ++ after) = .ok ordered) :
    ∃ ordered, orderEvents facilityId (before ++ payment :: after) = .ok ordered := by
  rw [orderEvents_isOk_iff] at h ⊢
  obtain ⟨howns, hknown, hwithin⟩ := h
  refine ⟨fun event hevent => ?_, fun event hdangling => ?_, fun id hid => ?_⟩
  · rcases mem_insert_iff.1 hevent with rfl | hold
    · exact hown
    · exact howns event hold
  · obtain ⟨hmem, hreversal, hunknown⟩ := hdangling
    rcases mem_insert_iff.1 hmem with rfl | hold
    · rw [hkind] at hreversal
      cases hreversal
    · refine hknown event ⟨hold, hreversal, fun target htarget hpay => ?_⟩
      obtain ⟨paid, hpaid, hof⟩ := hpay
      exact hunknown target htarget ⟨paid, mem_insert_iff.2 (.inr hpaid), hof⟩
  · obtain ⟨event, hevent, htarget⟩ := List.mem_filterMap.1 hid
    have hold : event ∈ before ++ after := by
      rcases mem_insert_iff.1 hevent with rfl | hold
      · have hsome := event.reference.2 (Option.isSome_iff_exists.2 ⟨id, htarget⟩)
        rw [hkind] at hsome
        cases hsome
      · exact hold
    have hreversal := event.reference.2 (Option.isSome_iff_exists.2 ⟨id, htarget⟩)
    -- the reversed payment was there before, so it is not the new one
    have hother : id ≠ payment.id := by
      intro hsame
      refine hknown event ⟨hold, hreversal, fun target htarget' hpay => ?_⟩
      obtain ⟨paid, hpaid, -, hpaidId⟩ := hpay
      rw [htarget, Option.some.injEq] at htarget'
      exact hnew paid hpaid (hpaidId.trans (htarget'.symm.trans hsame))
    have hsame : overReversed (before ++ payment :: after) id = overReversed (before ++ after) id := by
      unfold overReversed reversedTotal
      rw [paymentAmount_insert hother, reversalsOf_insert hkind]
    rw [hsame]
    exact hwithin id (List.mem_filterMap.2 ⟨event, hold, htarget⟩)

end Insert

/-! ## The ledger -/

theorem exists_snapshot {facility : Facility}
    (hbuild : facility.buildExpectedInstallments = .ok installments) {events : List RepaymentEvent}
    (hvalid : ∃ ordered, orderEvents facility.id events = .ok ordered) (asOf : Date) :
    ∃ snapshot, applyEvents facility events asOf = .ok snapshot := by
  obtain ⟨schedule, hsched⟩ := Facility.Scheduled.exists_schedule ⟨installments, hbuild⟩
  obtain ⟨ordered, hordered⟩ := hvalid
  obtain ⟨⟨_, _⟩, hloop⟩ := exists_allocate asOf (installments_lt hbuild)
    (sumMoney (ordered.map (·.signedAmount)))
  exact ⟨_, bind_eq_ok.2 ⟨schedule, hsched, bind_eq_ok.2 ⟨installments, hbuild,
    bind_eq_ok.2 ⟨ordered, hordered, bind_eq_ok.2 ⟨_, hloop, rfl⟩⟩⟩⟩⟩

/-- **The ledger is monotone.** One more payment, at any place of a history of whole cents and of any date,
lowers no bucket, leaves paid periods paid and makes no period overdue; it is accepted when its id is new. A
later date changes no allocation and only adds overdue periods. -/
theorem ledger_monotone {facility : Facility} {before after : List RepaymentEvent}
    {payment : RepaymentEvent} {asOf : Date} {snapshot : LedgerSnapshot}
    (hnn : ∀ d ∈ facility.demands, 0 ≤ d)
    (hcents : ∀ event ∈ before ++ payment :: after, event.amount.toRat ∈ zmultiples cent)
    (hkind : payment.kind = .payment)
    (happly : applyEvents facility (before ++ after) asOf = .ok snapshot) :
    (∀ extended, applyEvents facility (before ++ payment :: after) asOf = .ok extended →
        List.Forall₂ LedgerPeriod.GrowsTo snapshot.periods extended.periods) ∧
      (payment.facilityId = facility.id → (∀ event ∈ before ++ after, event.id ≠ payment.id) →
        ∃ extended, applyEvents facility (before ++ payment :: after) asOf = .ok extended) ∧
      ∀ later, asOf ≤ later → ∃ aged, applyEvents facility (before ++ after) later = .ok aged ∧
        List.Forall₂ LedgerPeriod.AgesTo snapshot.periods aged.periods := by
  have hvalid : ∃ ordered, orderEvents facility.id (before ++ after) = .ok ordered := by
    unfold applyEvents at happly
    obtain ⟨_, -, hrest⟩ := bind_eq_ok.1 happly
    obtain ⟨_, -, hrest⟩ := bind_eq_ok.1 hrest
    obtain ⟨ordered, hordered, -⟩ := bind_eq_ok.1 hrest
    exact ⟨ordered, hordered⟩
  obtain ⟨_, _, _, _, hbuild, hloop, rfl⟩ := applyEvents_eq_ok happly
  have hpayable := payable_of_demands hbuild hnn
  refine ⟨fun extended hextended => ?_, fun hown hnew => ?_, fun later hlater => ?_⟩
  · obtain ⟨_, _, _, _, hbuild', hloop', rfl⟩ := applyEvents_eq_ok hextended
    rw [hbuild] at hbuild'
    cases hbuild'
    exact allocate_grows hpayable
      (wholeCents_netPaid fun event hevent => hcents event (mem_insert_iff.2 (.inr hevent)))
      (wholeCents_netPaid hcents) (netPaid_le hcents hkind) hloop hloop'
  · exact exists_snapshot hbuild (orderEvents_insert hkind hown hnew hvalid) asOf
  · obtain ⟨_, haged⟩ := exists_snapshot hbuild hvalid later
    obtain ⟨_, _, _, _, hbuild', hloop', rfl⟩ := applyEvents_eq_ok haged
    rw [hbuild] at hbuild'
    cases hbuild'
    obtain ⟨_, hlater', hages⟩ := allocate_ages hlater hloop
    rw [hloop'] at hlater'
    cases hlater'
    exact ⟨_, haged, hages⟩

/-- Five are paid into the loan of ten, then seven and a half at an earlier date. -/
theorem ledger_monotone_twice :
    ∃ snapshot extended aged,
      applyEvents sampleFacility [samplePay 11 ⟨500, -2⟩ daySix (by decide)] dayFive = .ok snapshot ∧
      applyEvents sampleFacility [samplePay 10 ⟨750, -2⟩ dayFive (by decide),
        samplePay 11 ⟨500, -2⟩ daySix (by decide)] dayFive = .ok extended ∧
      applyEvents sampleFacility [samplePay 11 ⟨500, -2⟩ daySix (by decide)] sampleDay = .ok aged ∧
      List.Forall₂ LedgerPeriod.GrowsTo snapshot.periods extended.periods ∧
      List.Forall₂ LedgerPeriod.AgesTo snapshot.periods aged.periods := by
  have hsome : (applyEvents sampleFacility [samplePay 11 ⟨500, -2⟩ daySix (by decide)]
      dayFive).toOption.isSome = true := by decide +kernel
  obtain ⟨snapshot, hsnap⟩ := Option.isSome_iff_exists.1 hsome
  have hok := toOption_eq_some.1 hsnap
  obtain ⟨_, _, _, _, hbuild, -⟩ := applyEvents_eq_ok hok
  have hcents : ∀ event ∈ [] ++ samplePay 10 ⟨750, -2⟩ dayFive (by decide) ::
      [samplePay 11 ⟨500, -2⟩ daySix (by decide)], event.amount.toRat ∈ zmultiples cent :=
    List.forall_mem_cons.2 ⟨Cents.mem rfl, List.forall_mem_singleton.2 (Cents.mem rfl)⟩
  obtain ⟨hgrows, haccepted, hages⟩ := ledger_monotone
    ((demands_nonneg_iff hbuild).2 (amortises_of_balloon rfl)) hcents rfl hok
  obtain ⟨extended, hextended⟩ := haccepted rfl (List.forall_mem_singleton.2 (by decide))
  obtain ⟨aged, haged, hpers⟩ := hages sampleDay (by decide)
  exact ⟨snapshot, extended, aged, hok, hextended, haged, hgrows extended hextended, hpers⟩

end CreditOps.Repayments
