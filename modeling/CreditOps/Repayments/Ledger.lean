import CreditOps.Repayments.Schedule

/-!
# The repayment ledger

The ledger of a facility is recomputed from its schedule and the history of its payments and reversals:
the events are validated and ordered, their signed amounts are added up to the net cash, and the net
cash fills the installments in order, fees before interest before principal. What is left is an
overpayment. Collections exceptions are read off the installments that are due.
-/

set_option autoImplicit false

namespace CreditOps.Repayments

open Decimal Results

/-! ## Events -/

inductive EventKind where
  | payment
  | reversal
deriving DecidableEq

def EventKind.value : EventKind → String
  | .payment => "PAYMENT"
  | .reversal => "REVERSAL"

/-- `RepaymentEvent`: one payment, or one reversal of a payment. -/
@[ext] structure RepaymentEvent where
  id : Uuid
  facilityId : Uuid
  kind : EventKind
  amount : Decimal
  externalReference : String
  reversedEventId : Option Uuid
  effectiveDate : Date
  recordedAt : Option Timestamp
  amountPositive : 0 < amount
  referenceNonempty : externalReference ≠ ""
  reference : kind = .reversal ↔ reversedEventId.isSome

instance : DecidableEq RepaymentEvent :=
  fun _ _ => decidable_of_iff _ RepaymentEvent.ext_iff.symm

namespace RepaymentEvent

/-- `signed_amount` -/
def signedAmount (event : RepaymentEvent) : Decimal :=
  match event.kind with
  | .payment => event.amount
  | .reversal => event.amount.neg contextPrecision

/-- `_order_key`, compared: effective date, then recording time, then id. -/
def ordered (a b : RepaymentEvent) : Prop :=
  a.effectiveDate.serial < b.effectiveDate.serial ∨
    (a.effectiveDate.serial = b.effectiveDate.serial ∧
      (a.recordedAt.getD 0 < b.recordedAt.getD 0 ∨
        (a.recordedAt.getD 0 = b.recordedAt.getD 0 ∧ a.id ≤ b.id)))

instance : DecidableRel ordered :=
  fun _ _ => inferInstanceAs (Decidable (_ ∨ _))

end RepaymentEvent

/-- The events in their canonical order. -/
def sortEvents (events : List RepaymentEvent) : List RepaymentEvent :=
  events.insertionSort RepaymentEvent.ordered

/-- `payment_amounts`: the amount of a payment; a later payment of the same id replaces it. -/
def paymentAmount (events : List RepaymentEvent) (id : Uuid) : Option Decimal :=
  ((events.filter fun event => event.kind = .payment ∧ event.id = id).getLast?).map (·.amount)

/-- The reversals of a payment. -/
def reversalsOf (events : List RepaymentEvent) (id : Uuid) : List RepaymentEvent :=
  events.filter fun event => event.kind = .reversal ∧ event.reversedEventId = some id

/-- `reversed_totals`: what the reversals of a payment add up to. -/
def reversedTotal (events : List RepaymentEvent) (id : Uuid) : Decimal :=
  (reversalsOf events id).foldl (fun total event => total.add contextPrecision event.amount) 0

/-- The payment a reversal refers to is not in the history. -/
def unknownTarget (events : List RepaymentEvent) (event : RepaymentEvent) : Bool :=
  match event.reversedEventId with
  | none => true
  | some target => (paymentAmount events target).isNone

/-- More was reversed of a payment than was paid. -/
def overReversed (events : List RepaymentEvent) (id : Uuid) : Bool :=
  match paymentAmount events id with
  | none => false
  | some paid => paid < reversedTotal events id

/-- `order_events` -/
def orderEvents (facilityId : Uuid) (events : List RepaymentEvent) :
    Except LedgerFault (List RepaymentEvent) :=
  match events.find? (·.facilityId ≠ facilityId) with
  | some event => .error (.repaymentLedger
      ("event " ++ uuidText event.id ++ " does not belong to facility " ++ uuidText facilityId))
  | none =>
    match (events.filter (·.kind = .reversal)).find? (unknownTarget events) with
    | some event => .error (.repaymentLedger ("reversal " ++ uuidText event.id ++
        " references unknown payment " ++ (event.reversedEventId.map uuidText).getD "None"))
    | none =>
      match (events.filterMap (·.reversedEventId)).find? (overReversed events) with
      | some id => .error (.repaymentLedger
          ("reversals of payment " ++ uuidText id ++ " exceed the amount paid"))
      | none => .ok (sortEvents events)

/-! ## The snapshot -/

inductive PeriodStatus where
  | paid
  | partiallyPaid
  | unpaid
deriving DecidableEq

/-- `LedgerPeriod` -/
structure LedgerPeriod where
  period : Nat
  dueDate : Date
  expectedFee : Decimal
  expectedInterest : Decimal
  expectedPrincipal : Decimal
  allocatedFee : Decimal
  allocatedInterest : Decimal
  allocatedPrincipal : Decimal
  status : PeriodStatus
  overdue : Bool
deriving DecidableEq

namespace LedgerPeriod

/-- `expected_total` -/
def expectedTotal (period : LedgerPeriod) : Decimal :=
  (period.expectedFee.add contextPrecision period.expectedInterest).add contextPrecision
    period.expectedPrincipal

/-- `allocated_total` -/
def allocatedTotal (period : LedgerPeriod) : Decimal :=
  (period.allocatedFee.add contextPrecision period.allocatedInterest).add contextPrecision
    period.allocatedPrincipal

/-- `outstanding_total` -/
def outstandingTotal (period : LedgerPeriod) : Decimal :=
  period.expectedTotal.sub contextPrecision period.allocatedTotal

end LedgerPeriod

inductive CollectionsExceptionKind where
  | overdueInstallment
  | underpaidPeriod
  | unmatchedPayment
deriving DecidableEq

/-- `CollectionsException` -/
structure CollectionsException where
  kind : CollectionsExceptionKind
  period : Option Nat
  amount : Decimal
  detailVi : String
deriving DecidableEq

/-- `LedgerSnapshot` -/
structure LedgerSnapshot where
  facilityId : Uuid
  asOf : Date
  scheduleResultId : String
  allocationPolicyVersion : String
  eventCount : Nat
  netPaid : Decimal
  totalExpectedFees : Decimal
  totalExpectedInterest : Decimal
  totalExpectedPrincipal : Decimal
  outstandingFees : Decimal
  outstandingInterest : Decimal
  outstandingPrincipal : Decimal
  overpayment : Decimal
  periods : List LedgerPeriod
  exceptions : List CollectionsException
deriving DecidableEq

/-! ## The fold -/

/-- `_take`: the cash a demand absorbs. -/
def takeMoney (remaining demand : Decimal) : Except LedgerFault Decimal :=
  if remaining ≤ 0 ∨ demand ≤ 0 then .ok zeroMoney
  else quantizeMoney (remaining.minimum demand)

/-- One installment of the waterfall: what it takes, and the cash after it. -/
def allocateInstallment (asOf : Date) (remaining : Decimal) (installment : ExpectedInstallment) :
    Except LedgerFault (LedgerPeriod × Decimal) := do
  let allocatedFee ← takeMoney remaining installment.fee
  let remaining := remaining.sub contextPrecision allocatedFee
  let allocatedInterest ← takeMoney remaining installment.interest
  let remaining := remaining.sub contextPrecision allocatedInterest
  let allocatedPrincipal ← takeMoney remaining installment.principal
  let remaining := remaining.sub contextPrecision allocatedPrincipal
  let allocatedTotal :=
    (allocatedFee.add contextPrecision allocatedInterest).add contextPrecision allocatedPrincipal
  let status :=
    if installment.total ≤ allocatedTotal then PeriodStatus.paid
    else if 0 < allocatedTotal then .partiallyPaid
    else .unpaid
  let overdue := decide (installment.dueDate ≤ asOf ∧ allocatedTotal < installment.total)
  return (⟨installment.period, installment.dueDate, installment.fee, installment.interest,
    installment.principal, allocatedFee, allocatedInterest, allocatedPrincipal, status, overdue⟩,
    remaining)

/-- The loop over the installments. -/
def allocate (asOf : Date) :
    Decimal → List ExpectedInstallment → Except LedgerFault (List LedgerPeriod × Decimal)
  | remaining, [] => .ok ([], remaining)
  | remaining, installment :: installments => do
    let (period, remaining) ← allocateInstallment asOf remaining installment
    let (periods, remaining) ← allocate asOf remaining installments
    return (period :: periods, remaining)

/-- `sum(values, Decimal("0.00"))` -/
def sumMoney (values : List Decimal) : Decimal :=
  values.foldl (Decimal.add contextPrecision) zeroMoney

/-- The exception of a period, if it is overdue. -/
def periodException (period : LedgerPeriod) : Option CollectionsException :=
  if ¬ period.overdue then none
  else if period.allocatedTotal ≤ 0 ∧ 0 ≤ period.allocatedTotal then
    some ⟨.overdueInstallment, some period.period, period.outstandingTotal,
      "Kỳ " ++ toString period.period ++ " đến hạn " ++ period.dueDate.isoformat ++
        " chưa được thanh toán."⟩
  else
    some ⟨.underpaidPeriod, some period.period, period.outstandingTotal,
      "Kỳ " ++ toString period.period ++ " đến hạn " ++ period.dueDate.isoformat ++
        " mới được thanh toán một phần."⟩

/-- `_derive_exceptions` -/
def deriveExceptions (periods : List LedgerPeriod) (overpayment : Decimal) :
    List CollectionsException :=
  periods.filterMap periodException ++
    if 0 < overpayment then
      [⟨.unmatchedPayment, none, overpayment, "Có khoản tiền vượt quá toàn bộ nghĩa vụ theo lịch, " ++
        "chưa khớp được với kỳ trả nợ nào."⟩]
    else []

/-- The snapshot of a fold. -/
def snapshotOf (facility : Facility) (asOf : Date) (schedule : DebtServiceSchedule) (eventCount : Nat)
    (netPaid : Decimal) (periods : List LedgerPeriod) (remaining : Decimal) : LedgerSnapshot :=
  let overpayment := if 0 < remaining then remaining else zeroMoney
  let fees := sumMoney (periods.map (·.expectedFee))
  let interest := sumMoney (periods.map (·.expectedInterest))
  let principal := sumMoney (periods.map (·.expectedPrincipal))
  { facilityId := facility.id
    asOf
    scheduleResultId := schedule.resultId
    allocationPolicyVersion := "collections-allocation-v1"
    eventCount
    netPaid
    totalExpectedFees := fees
    totalExpectedInterest := interest
    totalExpectedPrincipal := principal
    outstandingFees := fees.sub contextPrecision (sumMoney (periods.map (·.allocatedFee)))
    outstandingInterest := interest.sub contextPrecision (sumMoney (periods.map (·.allocatedInterest)))
    outstandingPrincipal :=
      principal.sub contextPrecision (sumMoney (periods.map (·.allocatedPrincipal)))
    overpayment
    periods
    exceptions := deriveExceptions periods overpayment }

/-- `apply_events` -/
def applyEvents (facility : Facility) (events : List RepaymentEvent) (asOf : Date) :
    Except LedgerFault LedgerSnapshot := do
  let schedule ← facility.buildExpectedSchedule
  let installments ← facility.buildExpectedInstallments
  let ordered ← orderEvents facility.id events
  let netPaid := sumMoney (ordered.map (·.signedAmount))
  let (periods, remaining) ← allocate asOf netPaid installments
  return snapshotOf facility asOf schedule ordered.length netPaid periods remaining

/-! ## The waterfall behind the fold -/

/-- What an installment asks for, in the order of the policy. -/
def ExpectedInstallment.demands (installment : ExpectedInstallment) : List ℚ :=
  [installment.fee.toRat, installment.interest.toRat, installment.principal.toRat]

/-- The same, as a period of the snapshot repeats it. -/
def LedgerPeriod.demands (period : LedgerPeriod) : List ℚ :=
  [period.expectedFee.toRat, period.expectedInterest.toRat, period.expectedPrincipal.toRat]

/-- What the buckets of a period received. -/
def LedgerPeriod.shares (period : LedgerPeriod) : List ℚ :=
  [period.allocatedFee.toRat, period.allocatedInterest.toRat, period.allocatedPrincipal.toRat]

/-- A demand of whole cents that is not negative. -/
def Payable (demand : ℚ) : Prop :=
  0 ≤ demand ∧ demand ∈ AddSubgroup.zmultiples cent

/-- What is left after the demands that are covered in full needs no more digits than the context has. -/
def RemaindersFit (cash : ℚ) (demands : List ℚ) : Prop :=
  ∀ paid, paid <+: demands → paid.sum ≤ cash → Representable contextPrecision (cash - paid.sum)

/-- What a fraction of a cent leaves is representable. -/
theorem representable_sub_halfUp {x : ℚ} (hx : 0 ≤ x) (h : Representable contextPrecision x) :
    Representable contextPrecision (x - Waterfall.halfUp cent x) := by
  obtain ⟨y, hfits, rfl⟩ := h
  have hhalf : (y.rescale .halfUp moneyExponent).toRat = Waterfall.halfUp cent y.toRat :=
    toRat_rescale_halfUp hx _
  rcases le_or_gt moneyExponent y.exponent with he | he
  · -- a whole number of cents is handed out exactly
    rw [← hhalf, toRat_rescale_of_le _ he, sub_self]
    exact representable_zero _
  · rw [← hhalf]
    apply hfits.representable_sub
    · rw [rescale_exponent]
      exact he.le
    · rw [hhalf, abs_of_nonneg hx]
      exact Waterfall.abs_sub_halfUp_le_self cent_pos hx

variable {left remaining : Decimal}

/-- **One bucket.** It takes what the waterfall hands out, and the cash after it is exact. -/
theorem takeMoney_eq_ok {demand share : Decimal} {demands : List ℚ} (hcents : Cents demand)
    (hdemand : 0 ≤ demand.toRat) (hdemands : ∀ d ∈ demands, Payable d)
    (hrep : Representable contextPrecision remaining.toRat)
    (hfit : RemaindersFit remaining.toRat (demand.toRat :: demands))
    (h : takeMoney remaining demand = .ok share) :
    share.toRat = Waterfall.take cent remaining.toRat demand.toRat ∧
      (remaining.sub contextPrecision share).toRat =
        remaining.toRat - Waterfall.take cent remaining.toRat demand.toRat ∧
      Representable contextPrecision (remaining.sub contextPrecision share).toRat ∧
      RemaindersFit (remaining.sub contextPrecision share).toRat demands := by
  have hshare : share.toRat = Waterfall.take cent remaining.toRat demand.toRat := by
    unfold takeMoney at h
    unfold Waterfall.take
    simp only [le_def, toRat_zero] at h
    split at h
    · rename_i hnone
      cases h
      rw [if_pos hnone, toRat_zeroMoney]
    · rename_i hboth
      have hmin : 0 ≤ (remaining.minimum demand).toRat := by
        rw [not_or, not_le, not_le] at hboth
        rw [toRat_minimum]
        exact le_min hboth.1.le hboth.2.le
      rw [if_neg hboth, toRat_quantizeMoney hmin h, toRat_minimum]
  -- it suffices that what is left is representable and lets the rest through
  suffices hleft : Representable contextPrecision (remaining.toRat - share.toRat) ∧
      RemaindersFit (remaining.toRat - share.toRat) demands by
    have hsub := toRat_sub (by decide) hleft.1
    rw [hsub, ← hshare]
    exact ⟨rfl, rfl, hleft⟩
  have hsums : ∀ paid, paid <+: demands → 0 ≤ paid.sum ∧ paid.sum ∈ AddSubgroup.zmultiples cent := by
    intro paid hpaid
    exact ⟨List.sum_nonneg fun d hd => (hdemands d (hpaid.subset hd)).1,
      AddSubgroup.list_sum_mem _ fun d hd => (hdemands d (hpaid.subset hd)).2⟩
  rw [hshare]
  rcases le_or_gt demand.toRat remaining.toRat with hfull | hshort
  · rw [Waterfall.take_of_le cent_pos hdemand hcents.mem hfull]
    constructor
    · have hone := hfit [demand.toRat] (List.prefix_append [demand.toRat] demands)
      rw [List.sum_singleton] at hone
      exact hone hfull
    · intro paid hpaid hle
      have hnext := hfit (demand.toRat :: paid) ((List.prefix_cons_inj _).2 hpaid)
      rw [List.sum_cons, ← sub_sub] at hnext
      exact hnext (by linarith)
  rcases le_or_gt remaining.toRat 0 with hempty | hsome
  · have hzero : Waterfall.take cent remaining.toRat demand.toRat = 0 := if_pos (Or.inl hempty)
    rw [hzero, sub_zero]
    refine ⟨hrep, fun paid hpaid hle => ?_⟩
    have hnone : remaining.toRat - paid.sum = 0 := by
      have hpos := (hsums paid hpaid).1
      linarith
    rw [hnone]
    exact representable_zero _
  · rw [Waterfall.take_of_lt cent_pos hsome.le hshort]
    have hrest := representable_sub_halfUp hsome.le hrep
    refine ⟨hrest, fun paid hpaid hle => ?_⟩
    -- what is left is less than a cent, so no further demand is covered in full
    obtain ⟨_, hmem⟩ := hsums paid hpaid
    have hclose := (abs_le.1 (Waterfall.abs_sub_halfUp_le cent_pos remaining.toRat)).2
    have hnone : paid.sum = 0 := by
      obtain ⟨n, hn⟩ := AddSubgroup.mem_zmultiples_iff.1 hmem
      rw [zsmul_eq_mul] at hn
      have hcent := cent_pos
      have hn0 : 0 ≤ n := by
        by_contra hneg
        have hcast : (n : ℚ) ≤ -1 := by exact_mod_cast (by omega : n ≤ -1)
        nlinarith
      have hn1 : n < 1 := by
        by_contra hone
        have hcast : (1 : ℚ) ≤ n := by exact_mod_cast not_lt.1 hone
        nlinarith
      have hzero : n = 0 := by omega
      rw [← hn, hzero, Int.cast_zero, zero_mul]
    rw [hnone, sub_zero]
    exact hrest

variable {asOf : Date} {installment : ExpectedInstallment}

theorem allocateInstallment_eq_ok {period : LedgerPeriod}
    (h : allocateInstallment asOf remaining installment = .ok (period, left)) :
    period.demands = installment.demands ∧
      takeMoney remaining installment.fee = .ok period.allocatedFee ∧
      takeMoney (remaining.sub contextPrecision period.allocatedFee) installment.interest =
        .ok period.allocatedInterest ∧
      takeMoney ((remaining.sub contextPrecision period.allocatedFee).sub contextPrecision
        period.allocatedInterest) installment.principal = .ok period.allocatedPrincipal ∧
      left = ((remaining.sub contextPrecision period.allocatedFee).sub contextPrecision
        period.allocatedInterest).sub contextPrecision period.allocatedPrincipal := by
  unfold allocateInstallment at h
  obtain ⟨_, hfee, h⟩ := bind_eq_ok.1 h
  obtain ⟨_, hint, h⟩ := bind_eq_ok.1 h
  obtain ⟨_, hprin, h⟩ := bind_eq_ok.1 h
  cases h
  exact ⟨rfl, hfee, hint, hprin, rfl⟩

variable {installments : List ExpectedInstallment}

theorem allocate_cons_eq_ok {periods : List LedgerPeriod}
    (h : allocate asOf remaining (installment :: installments) = .ok (periods, left)) :
    ∃ period after rest, allocateInstallment asOf remaining installment = .ok (period, after) ∧
      allocate asOf after installments = .ok (rest, left) ∧ periods = period :: rest := by
  unfold allocate at h
  obtain ⟨⟨period, after⟩, hone, h⟩ := bind_eq_ok.1 h
  obtain ⟨⟨rest, _⟩, hloop, h⟩ := bind_eq_ok.1 h
  cases h
  exact ⟨period, after, rest, hone, hloop, rfl⟩

/-- The periods of a snapshot repeat the demands of the installments. -/
theorem allocate_demands :
    ∀ {remaining left : Decimal} {periods : List LedgerPeriod},
      allocate asOf remaining installments = .ok (periods, left) →
      periods.flatMap (·.demands) = installments.flatMap (·.demands) := by
  induction installments with
  | nil =>
    intro remaining left periods h
    cases h
    rfl
  | cons _ _ ih =>
    intro remaining left periods h
    obtain ⟨_, _, _, hone, hloop, rfl⟩ := allocate_cons_eq_ok h
    rw [List.flatMap_cons, List.flatMap_cons, (allocateInstallment_eq_ok hone).1, ih hloop]

/-- **The loop is the waterfall.** On demands of whole cents that are not negative, with remainders that
fit, the shares are those of the waterfall and what remains is what it leaves over. -/
theorem allocate_amounts
    (hcents : ∀ i ∈ installments, Cents i.fee ∧ Cents i.interest ∧ Cents i.principal)
    (hpayable : ∀ d ∈ installments.flatMap (·.demands), Payable d) :
    ∀ {remaining left : Decimal} {periods : List LedgerPeriod},
      Representable contextPrecision remaining.toRat →
      RemaindersFit remaining.toRat (installments.flatMap (·.demands)) →
      allocate asOf remaining installments = .ok (periods, left) →
      periods.flatMap (·.shares) =
        Waterfall.allocations cent remaining.toRat (installments.flatMap (·.demands)) ∧
      left.toRat = Waterfall.leftover cent remaining.toRat (installments.flatMap (·.demands)) := by
  induction installments with
  | nil =>
    intro remaining left periods _ _ h
    cases h
    refine ⟨rfl, ?_⟩
    rw [List.flatMap_nil, Waterfall.leftover, Waterfall.allocations, List.sum_nil, sub_zero]
  | cons installment installments ih =>
    intro remaining left periods hrep hfit h
    obtain ⟨_, after, _, hone, hloop, rfl⟩ := allocate_cons_eq_ok h
    obtain ⟨-, hfee, hint, hprin, hafter⟩ := allocateInstallment_eq_ok hone
    rw [List.forall_mem_cons] at hcents
    obtain ⟨⟨hfeeCents, hinterestCents, hprincipalCents⟩, hcentsRest⟩ := hcents
    have hdemands : (installment :: installments).flatMap (·.demands) =
        installment.fee.toRat :: installment.interest.toRat :: installment.principal.toRat ::
          installments.flatMap (·.demands) := rfl
    rw [hdemands] at hpayable hfit ⊢
    simp only [List.forall_mem_cons] at hpayable
    obtain ⟨hpayFee, hpayInterest, hpayPrincipal, hpayRest⟩ := hpayable
    -- the three buckets, one after the other
    obtain ⟨hfeeShare, hfeeLeft, hfeeRep, hfeeFit⟩ := takeMoney_eq_ok hfeeCents hpayFee.1
      (List.forall_mem_cons.2 ⟨hpayInterest, List.forall_mem_cons.2 ⟨hpayPrincipal, hpayRest⟩⟩)
      hrep hfit hfee
    obtain ⟨hinterestShare, hinterestLeft, hinterestRep, hinterestFit⟩ :=
      takeMoney_eq_ok hinterestCents hpayInterest.1
        (List.forall_mem_cons.2 ⟨hpayPrincipal, hpayRest⟩) hfeeRep hfeeFit hint
    obtain ⟨hprincipalShare, hprincipalLeft, hprincipalRep, hprincipalFit⟩ :=
      takeMoney_eq_ok hprincipalCents hpayPrincipal.1 hpayRest hinterestRep hinterestFit hprin
    subst hafter
    obtain ⟨hshares, hleft⟩ := ih hcentsRest hpayRest hprincipalRep hprincipalFit hloop
    constructor
    · rw [Waterfall.allocations, ← hfeeLeft, Waterfall.allocations, ← hinterestLeft,
        Waterfall.allocations, ← hprincipalLeft, ← hshares, ← hfeeShare, ← hinterestShare,
        ← hprincipalShare]
      rfl
    · rw [Waterfall.leftover_cons, ← hfeeLeft, Waterfall.leftover_cons, ← hinterestLeft,
        Waterfall.leftover_cons, ← hprincipalLeft]
      exact hleft

end CreditOps.Repayments
