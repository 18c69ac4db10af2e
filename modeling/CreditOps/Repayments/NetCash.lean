import CreditOps.Repayments.Conservation
import CreditOps.Repayments.Readability

/-!
# Snapshots of one net cash

A snapshot of the ledger shows how many events the history has and what their net cash buys. The fold over
the installments depends on the value of the cash only (`allocate_congr`), so two valid histories with the
same net cash lead to snapshots that differ in the number of events at most, as long as none of their sums
needs more digits than the decimal context has (`exists_equal_of_cash`). Sums of whole cents below
`10 ^ 26` never do (`exactSums_of_cents`).
-/

set_option autoImplicit false

namespace CreditOps.Repayments

open Decimal Results

/-! ## Equality of snapshots -/

/-- Equality of exceptions; amounts are compared by value. -/
structure CollectionsException.Equal (a b : CollectionsException) : Prop where
  kind : a.kind = b.kind
  period : a.period = b.period
  amount : a.amount.toRat = b.amount.toRat
  detailVi : a.detailVi = b.detailVi

/-- Equality of periods. -/
structure LedgerPeriod.Equal (a b : LedgerPeriod) : Prop where
  period : a.period = b.period
  dueDate : a.dueDate = b.dueDate
  demands : a.demands = b.demands
  shares : a.shares = b.shares
  status : a.status = b.status
  overdue : a.overdue = b.overdue

/-- Equality of snapshots up to the number of events. -/
structure LedgerSnapshot.EqualExceptCount (a b : LedgerSnapshot) : Prop where
  facilityId : a.facilityId = b.facilityId
  asOf : a.asOf = b.asOf
  scheduleResultId : a.scheduleResultId = b.scheduleResultId
  allocationPolicyVersion : a.allocationPolicyVersion = b.allocationPolicyVersion
  netPaid : a.netPaid.toRat = b.netPaid.toRat
  totalExpectedFees : a.totalExpectedFees.toRat = b.totalExpectedFees.toRat
  totalExpectedInterest : a.totalExpectedInterest.toRat = b.totalExpectedInterest.toRat
  totalExpectedPrincipal : a.totalExpectedPrincipal.toRat = b.totalExpectedPrincipal.toRat
  outstandingFees : a.outstandingFees.toRat = b.outstandingFees.toRat
  outstandingInterest : a.outstandingInterest.toRat = b.outstandingInterest.toRat
  outstandingPrincipal : a.outstandingPrincipal.toRat = b.outstandingPrincipal.toRat
  overpayment : a.overpayment.toRat = b.overpayment.toRat
  periods : List.Forall₂ LedgerPeriod.Equal a.periods b.periods
  exceptions : List.Forall₂ CollectionsException.Equal a.exceptions b.exceptions

/-- Equality of snapshots. -/
structure LedgerSnapshot.Equal (a b : LedgerSnapshot) : Prop extends
    LedgerSnapshot.EqualExceptCount a b where
  eventCount : a.eventCount = b.eventCount

/-- Two reads have one outcome: related snapshots, or the same error. -/
def SameOutcome (R : LedgerSnapshot → LedgerSnapshot → Prop) :
    Except LedgerFault LedgerSnapshot → Except LedgerFault LedgerSnapshot → Prop
  | .ok a, .ok b => R a b
  | .error e, .error e' => e = e'
  | _, _ => False

theorem CollectionsException.Equal.refl (a : CollectionsException) : a.Equal a :=
  ⟨rfl, rfl, rfl, rfl⟩

theorem LedgerPeriod.Equal.refl (a : LedgerPeriod) : a.Equal a :=
  ⟨rfl, rfl, rfl, rfl, rfl, rfl⟩

/-! ## The fold depends on the value of the cash -/

variable {a b : Decimal}

/-- Amounts of one value are rounded to one amount. -/
theorem quantizeMoney_congr (ha : 0 ≤ a.toRat) (h : a.toRat = b.toRat) :
    quantizeMoney a = quantizeMoney b := by
  have hvalue : (a.rescale .halfUp moneyExponent).toRat = (b.rescale .halfUp moneyExponent).toRat := by
    rw [toRat_rescale_halfUp ha, toRat_rescale_halfUp (h ▸ ha), h]
  have hcoef : (a.rescale .halfUp moneyExponent).coefficient =
      (b.rescale .halfUp moneyExponent).coefficient := by
    rw [toRat, toRat, rescale_exponent, rescale_exponent] at hvalue
    exact_mod_cast mul_right_cancel₀ (zpow_ne_zero _ (by norm_num)) hvalue
  have hrescale : a.rescale .halfUp moneyExponent = b.rescale .halfUp moneyExponent := by
    rw [Decimal.mk.injEq (a.rescale .halfUp moneyExponent).coefficient
      (a.rescale .halfUp moneyExponent).exponent]
    exact ⟨hcoef, by rw [rescale_exponent, rescale_exponent]⟩
  unfold quantizeMoney quantize
  rw [hrescale]

/-- A bucket takes the same from cash of the same value. -/
theorem takeMoney_congr (h : a.toRat = b.toRat) (demand : Decimal) :
    takeMoney a demand = takeMoney b demand := by
  unfold takeMoney
  simp only [le_def, h]
  split
  · rfl
  · rename_i hboth
    rw [not_or, toRat_zero, not_le, not_le] at hboth
    have hmin : 0 ≤ (a.minimum demand).toRat := by
      rw [toRat_minimum, h]
      exact le_min hboth.1.le hboth.2.le
    apply quantizeMoney_congr hmin
    rw [toRat_minimum, toRat_minimum, h]

theorem sub_congr (h : a.toRat = b.toRat) (c : Decimal) :
    (a.sub contextPrecision c).toRat = (b.sub contextPrecision c).toRat :=
  toRat_sub_congr (by decide) h c

/-- **The loop depends on the value of the cash.** Its periods are the same, and so is the value left. -/
theorem allocate_congr {asOf : Date} {installments : List ExpectedInstallment} :
    ∀ {a b left : Decimal} {periods : List LedgerPeriod}, a.toRat = b.toRat →
      allocate asOf a installments = .ok (periods, left) →
      ∃ left', allocate asOf b installments = .ok (periods, left') ∧ left.toRat = left'.toRat := by
  induction installments with
  | nil =>
    intro a b left periods h hloop
    cases hloop
    exact ⟨b, rfl, h⟩
  | cons installment _ ih =>
    intro a b left periods h hloop
    obtain ⟨period, _, _, hone, hrest, rfl⟩ := allocate_cons_eq_ok hloop
    obtain ⟨-, hfee, hint, hprin, rfl⟩ := allocateInstallment_eq_ok hone
    have hafterFee := sub_congr h period.allocatedFee
    have hafterInterest := sub_congr hafterFee period.allocatedInterest
    have hafter := sub_congr hafterInterest period.allocatedPrincipal
    obtain ⟨left', hloop', hleft⟩ := ih hafter hrest
    have hone' : allocateInstallment asOf b installment = .ok (period,
        ((b.sub contextPrecision period.allocatedFee).sub contextPrecision
          period.allocatedInterest).sub contextPrecision period.allocatedPrincipal) := by
      unfold allocateInstallment at hone ⊢
      rw [takeMoney_congr h] at hfee
      rw [takeMoney_congr hafterFee] at hint
      rw [takeMoney_congr hafterInterest] at hprin
      rw [takeMoney_congr h, hfee] at hone
      rw [hfee]
      simp only [bind, Except.bind] at hone ⊢
      rw [takeMoney_congr hafterFee, hint] at hone
      rw [hint]
      simp only at hone ⊢
      rw [takeMoney_congr hafterInterest, hprin] at hone
      rw [hprin]
      simp only [pure, Except.pure, Except.ok.injEq, Prod.mk.injEq] at hone ⊢
      exact ⟨hone.1, trivial⟩
    refine ⟨left', ?_, hleft⟩
    unfold allocate
    exact bind_eq_ok.2 ⟨_, hone', bind_eq_ok.2 ⟨_, hloop', rfl⟩⟩

theorem deriveExceptions_equal (periods : List LedgerPeriod) {excess excess' : Decimal}
    (h : excess.toRat = excess'.toRat) :
    List.Forall₂ CollectionsException.Equal (deriveExceptions periods excess)
      (deriveExceptions periods excess') := by
  have hsome : 0 < excess ↔ 0 < excess' := by
    rw [lt_def, lt_def, h]
  unfold deriveExceptions
  refine List.rel_append (List.forall₂_same.2 fun e _ => .refl e) ?_
  by_cases hpos : 0 < excess
  · rw [if_pos hpos, if_pos (hsome.1 hpos)]
    exact .cons ⟨rfl, rfl, h, rfl⟩ .nil
  · rw [if_neg hpos, if_neg fun h => hpos (hsome.2 h)]
    exact .nil

/-- The snapshots of one fold over cash of one value. -/
theorem snapshotOf_equal (facility : Facility) (asOf : Date) (schedule : DebtServiceSchedule)
    (n m : Nat) {net net' left left' : Decimal} (periods : List LedgerPeriod)
    (hnet : net.toRat = net'.toRat) (hleft : left.toRat = left'.toRat) :
    (snapshotOf facility asOf schedule n net periods left).EqualExceptCount
      (snapshotOf facility asOf schedule m net' periods left') := by
  have hsome : 0 < left ↔ 0 < left' := by
    rw [lt_def, lt_def, hleft]
  have hover : (if 0 < left then left else zeroMoney).toRat =
      (if 0 < left' then left' else zeroMoney).toRat := by
    by_cases hpos : 0 < left
    · rw [if_pos hpos, if_pos (hsome.1 hpos), hleft]
    · rw [if_neg hpos, if_neg fun h => hpos (hsome.2 h)]
  exact ⟨rfl, rfl, rfl, rfl, hnet, rfl, rfl, rfl, rfl, rfl, rfl, hover,
    List.forall₂_same.2 fun p _ => .refl p, deriveExceptions_equal periods hover⟩

/-! ## Exact sums -/

/-- What the reversals of a payment add up to, exactly. -/
def reversed (events : List RepaymentEvent) (id : Uuid) : ℚ :=
  ((reversalsOf events id).map (·.amount.toRat)).sum

/-- No sum over the history needs more digits than the context has. -/
structure ExactSums (events : List RepaymentEvent) : Prop where
  reversals : ∀ event ∈ events, event.kind = .reversal →
    Representable contextPrecision event.amount.toRat
  sums : ∀ part, part <+: sortEvents events → Representable contextPrecision (cash part)
  totals : ∀ id part, part <+: reversalsOf events id →
    Representable contextPrecision (part.map (·.amount.toRat)).sum

variable {events others : List RepaymentEvent}

theorem toRat_reversedTotal (h : ExactSums events) (id : Uuid) :
    (reversedTotal events id).toRat = reversed events id := by
  have hfold : reversedTotal events id =
      ((reversalsOf events id).map (·.amount)).foldl (Decimal.add contextPrecision) 0 := by
    rw [List.foldl_map]
    rfl
  have hparts : ∀ part, part <+: (reversalsOf events id).map (·.amount) →
      Representable contextPrecision ((0 : Decimal).toRat + (part.map toRat).sum) := by
    intro part hpart
    obtain ⟨part', hpart', rfl⟩ := List.prefix_map_iff.1 hpart
    rw [toRat_zero, zero_add, List.map_map]
    exact h.totals id part' hpart'
  rw [hfold, toRat_foldl_add (by decide) _ hparts, toRat_zero, zero_add, List.map_map]
  rfl

/-- **Sums of whole cents are exact**, as long as they stay below `10 ^ 26` in total. -/
theorem exactSums_of_cents (hcents : ∀ event ∈ events, event.amount.toRat ∈ AddSubgroup.zmultiples cent)
    (hlt : (events.map (·.amount.toRat)).sum < 10 ^ contextPrecision * cent) : ExactSums events := by
  refine ⟨fun event hmem _ => ?_, fun part hpart => ?_, fun id part hpart => ?_⟩
  · have hone := (representable_cash_of_cents (List.singleton_subperm_iff.2 hmem) hcents hlt).abs
    rwa [cash, List.map_singleton, List.sum_singleton, abs_value] at hone
  · exact representable_cash_of_cents
      (hpart.sublist.subperm.trans (sortEvents_perm events).subperm) hcents hlt
  · have hsub : part.Sublist events := hpart.sublist.trans List.filter_sublist
    have hneg := (representable_cash_of_cents hsub.subperm hcents hlt).neg
    have hvalue : -cash part = (part.map (·.amount.toRat)).sum := by
      unfold cash
      rw [List.sum_neg, List.map_map]
      refine congrArg List.sum (List.map_congr_left fun event hmem => ?_)
      have hkind := (of_decide_eq_true (List.mem_filter.1 (hpart.subset hmem)).2).1
      show -event.value = event.amount.toRat
      unfold RepaymentEvent.value
      rw [hkind]
      exact neg_neg _
    rwa [hvalue] at hneg

theorem reversed_perm (h : others.Perm events) (id : Uuid) :
    reversed others id = reversed events id :=
  ((h.filter _).map _).sum_eq

theorem cash_perm (h : others.Perm events) :
    cash others = cash events :=
  (h.map _).sum_eq

/-! ## Equal cash, equal snapshots -/

/-- The schedule of the facility can be built. -/
def Facility.Scheduled (facility : Facility) : Prop :=
  ∃ installments, facility.buildExpectedInstallments = .ok installments

theorem Facility.Scheduled.exists_schedule {facility : Facility} (h : facility.Scheduled) :
    ∃ schedule, facility.buildExpectedSchedule = .ok schedule := by
  obtain ⟨_, hbuild⟩ := h
  unfold Facility.buildExpectedInstallments at hbuild
  obtain ⟨schedule, hok, -⟩ := bind_eq_ok.1 hbuild
  exact ⟨schedule, hok⟩

variable {facility : Facility}

/-- **Reads without a schedule** raise the same, whatever the history. -/
theorem sameOutcome_of_not_scheduled (h : ¬ facility.Scheduled)
    (R : LedgerSnapshot → LedgerSnapshot → Prop) (events others : List RepaymentEvent) (asOf : Date) :
    SameOutcome R (applyEvents facility events asOf) (applyEvents facility others asOf) := by
  unfold applyEvents
  cases hsched : facility.buildExpectedSchedule with
  | error => exact rfl
  | ok =>
    cases hbuild : facility.buildExpectedInstallments with
    | error => exact rfl
    | ok installments => exact absurd ⟨installments, hbuild⟩ h

theorem applyEvents_of_refused (h : facility.Scheduled) {fault : LedgerFault}
    (hrefused : orderEvents facility.id events = .error fault) (asOf : Date) :
    applyEvents facility events asOf = .error fault := by
  obtain ⟨_, hsched⟩ := h.exists_schedule
  obtain ⟨_, hbuild⟩ := h
  unfold applyEvents
  rw [hsched, hbuild, hrefused]
  rfl

/-- **Two valid histories of one net cash** lead to snapshots that differ in the number of events at
most. -/
theorem exists_equal_of_cash (h : facility.Scheduled)
    (hvalid : ∃ ordered, orderEvents facility.id events = .ok ordered)
    (hvalid' : ∃ ordered, orderEvents facility.id others = .ok ordered) (hexact : ExactSums events)
    (hexact' : ExactSums others) (hcash : cash events = cash others) (asOf : Date) :
    ∃ snapshot snapshot', applyEvents facility events asOf = .ok snapshot ∧
      applyEvents facility others asOf = .ok snapshot' ∧ snapshot.EqualExceptCount snapshot' ∧
      snapshot.eventCount = events.length ∧ snapshot'.eventCount = others.length := by
  obtain ⟨schedule, hsched⟩ := h.exists_schedule
  obtain ⟨installments, hbuild⟩ := h
  obtain ⟨ordered, hordered⟩ := hvalid
  obtain ⟨ordered', hordered'⟩ := hvalid'
  have hnet := toRat_sumMoney hexact.reversals hexact.sums
  have hnet' := toRat_sumMoney hexact'.reversals hexact'.sums
  have hsame := hnet.trans (hcash.trans hnet'.symm)
  rw [← orderEvents_eq_ok hordered, ← orderEvents_eq_ok hordered'] at hsame
  obtain ⟨⟨periods, _⟩, hloop⟩ := exists_allocate asOf (installments_lt hbuild)
    (sumMoney (ordered.map (·.signedAmount)))
  obtain ⟨_, hloop', hleft⟩ := allocate_congr hsame hloop
  refine ⟨_, _, bind_eq_ok.2 ⟨schedule, hsched, bind_eq_ok.2 ⟨installments, hbuild,
      bind_eq_ok.2 ⟨ordered, hordered, bind_eq_ok.2 ⟨_, hloop, rfl⟩⟩⟩⟩,
    bind_eq_ok.2 ⟨schedule, hsched, bind_eq_ok.2 ⟨installments, hbuild,
      bind_eq_ok.2 ⟨ordered', hordered', bind_eq_ok.2 ⟨_, hloop', rfl⟩⟩⟩⟩,
    snapshotOf_equal facility asOf schedule _ _ periods hsame hleft, ?_, ?_⟩
  · rw [orderEvents_eq_ok hordered]
    exact (sortEvents_perm events).length_eq
  · rw [orderEvents_eq_ok hordered']
    exact (sortEvents_perm others).length_eq

end CreditOps.Repayments
