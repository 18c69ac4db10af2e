import CreditOps.Repayments.Ledger

/-!
# Conservation of cash

A ledger conserves cash when the net cash is payments minus reversals, equals what the buckets received
plus the overpayment, no bucket received more than it asked for, and an overpayment is reported only
after every bucket is full.
-/

set_option autoImplicit false

namespace CreditOps.Repayments

open Decimal Results AddSubgroup

/-! ## What conservation says -/

/-- The exact effect of an event on the cash. -/
def RepaymentEvent.value (event : RepaymentEvent) : ℚ :=
  match event.kind with
  | .payment => event.amount.toRat
  | .reversal => -event.amount.toRat

/-- Payments minus reversals. -/
def cash (events : List RepaymentEvent) : ℚ :=
  (events.map (·.value)).sum

/-- What the buckets of the snapshot asked for, in order. -/
def LedgerSnapshot.demands (snapshot : LedgerSnapshot) : List ℚ :=
  snapshot.periods.flatMap (·.demands)

/-- What the buckets of the snapshot received, in order. -/
def LedgerSnapshot.shares (snapshot : LedgerSnapshot) : List ℚ :=
  snapshot.periods.flatMap (·.shares)

/-- The snapshot accounts for the cash of the events. -/
structure Conserved (events : List RepaymentEvent) (snapshot : LedgerSnapshot) : Prop where
  net : snapshot.netPaid.toRat = cash events
  total : snapshot.netPaid.toRat = snapshot.shares.sum + snapshot.overpayment.toRat
  within : List.Forall₂ (fun share demand => 0 ≤ share ∧ share ≤ demand) snapshot.shares
    snapshot.demands
  full : 0 < snapshot.overpayment.toRat → snapshot.shares = snapshot.demands

/-- What the facility is owed, fee, interest and principal of each period; nothing when the schedule
cannot be built. -/
def Facility.demands (facility : Facility) : List ℚ :=
  match facility.buildExpectedInstallments with
  | .ok installments => installments.flatMap (·.demands)
  | .error _ => []

/-- No sum of the history and no remainder of the waterfall needs more digits than the context has. -/
structure WithinPrecision (facility : Facility) (events : List RepaymentEvent) : Prop where
  reversals : ∀ event ∈ events, event.kind = .reversal →
    Representable contextPrecision event.amount.toRat
  sums : ∀ part, part <+: sortEvents events → Representable contextPrecision (cash part)
  remainders : RemaindersFit (cash events) facility.demands

/-- The cash can be handed out in whole cents: it is not negative, no expected amount is negative, and it
is whole cents or covers all of them. -/
structure Allocatable (facility : Facility) (events : List RepaymentEvent) : Prop where
  nonneg : 0 ≤ cash events
  amortises : facility.Amortises
  wholeCents : cash events ∈ zmultiples cent ∨ facility.demands.sum ≤ cash events

/-! ## The fold, inverted -/

variable {events : List RepaymentEvent}

theorem orderEvents_eq_ok {facilityId : Uuid} {ordered : List RepaymentEvent}
    (h : orderEvents facilityId events = .ok ordered) : ordered = sortEvents events := by
  unfold orderEvents at h
  split at h
  · cases h
  split at h
  · cases h
  split at h
  · cases h
  · exact (Except.ok.inj h).symm

variable {facility : Facility} {asOf : Date} {snapshot : LedgerSnapshot}

theorem applyEvents_eq_ok (h : applyEvents facility events asOf = .ok snapshot) :
    ∃ schedule installments periods remaining,
      facility.buildExpectedInstallments = .ok installments ∧
      allocate asOf (sumMoney ((sortEvents events).map (·.signedAmount))) installments =
        .ok (periods, remaining) ∧
      snapshot = snapshotOf facility asOf schedule (sortEvents events).length
        (sumMoney ((sortEvents events).map (·.signedAmount))) periods remaining := by
  unfold applyEvents at h
  obtain ⟨schedule, -, h⟩ := bind_eq_ok.1 h
  obtain ⟨installments, hinsts, h⟩ := bind_eq_ok.1 h
  obtain ⟨_, hordered, h⟩ := bind_eq_ok.1 h
  obtain ⟨⟨periods, remaining⟩, hallocate, h⟩ := bind_eq_ok.1 h
  cases h
  rw [orderEvents_eq_ok hordered] at hallocate ⊢
  exact ⟨schedule, installments, periods, remaining, hinsts, hallocate, rfl⟩

theorem sortEvents_perm (events : List RepaymentEvent) : (sortEvents events).Perm events :=
  List.perm_insertionSort _ events

theorem cash_sortEvents (events : List RepaymentEvent) : cash (sortEvents events) = cash events :=
  ((sortEvents_perm events).map _).sum_eq

/-! ## Net cash -/

theorem toRat_signedAmount {event : RepaymentEvent}
    (h : event.kind = .reversal → Representable contextPrecision event.amount.toRat) :
    event.signedAmount.toRat = event.value := by
  unfold RepaymentEvent.signedAmount RepaymentEvent.value
  cases hkind : event.kind with
  | payment => rfl
  | reversal => exact toRat_neg (by decide) (h hkind)

/-- **The net cash is payments minus reversals**, when no sum needs more digits. -/
theorem toRat_sumMoney
    (hreversals : ∀ event ∈ events, event.kind = .reversal → Representable contextPrecision event.amount.toRat)
    (hsums : ∀ part, part <+: sortEvents events → Representable contextPrecision (cash part)) :
    (sumMoney ((sortEvents events).map (·.signedAmount))).toRat = cash events := by
  have hvals : ∀ part, part <+: sortEvents events →
      (part.map (·.signedAmount)).map toRat = part.map (·.value) := by
    intro part hpart
    rw [List.map_map]
    refine List.map_congr_left fun event hevent => toRat_signedAmount ?_
    exact hreversals event ((sortEvents_perm events).subset (hpart.subset hevent))
  have hparts : ∀ part, part <+: (sortEvents events).map (·.signedAmount) →
      Representable contextPrecision (zeroMoney.toRat + (part.map toRat).sum) := by
    intro part hpart
    obtain ⟨part', hpart', rfl⟩ := List.prefix_map_iff.1 hpart
    rw [toRat_zeroMoney, zero_add, hvals part' hpart']
    exact hsums part' hpart'
  have hsum := toRat_foldl_add (by decide) zeroMoney hparts
  rw [toRat_zeroMoney, zero_add, hvals _ List.prefix_rfl] at hsum
  exact hsum.trans (cash_sortEvents events)

theorem toRat_netPaid (h : WithinPrecision facility events) :
    (sumMoney ((sortEvents events).map (·.signedAmount))).toRat = cash events :=
  toRat_sumMoney h.reversals h.sums

/-! ## Expected amounts -/

variable {installments : List ExpectedInstallment}

theorem demands_of_ok (h : facility.buildExpectedInstallments = .ok installments) :
    facility.demands = installments.flatMap (·.demands) := by
  unfold Facility.demands
  rw [h]

/-- The expected amounts are whole cents. -/
theorem demands_mem (facility : Facility) : ∀ d ∈ facility.demands, d ∈ zmultiples cent := by
  intro d hd
  unfold Facility.demands at hd
  split at hd
  · rename_i installments hok
    obtain ⟨i, hi, hdi⟩ := List.mem_flatMap.1 hd
    obtain ⟨hfee, hint, hprin⟩ := Facility.installments_cents hok i hi
    simp only [ExpectedInstallment.demands, List.mem_cons, List.not_mem_nil, or_false] at hdi
    rcases hdi with rfl | rfl | rfl
    · exact hfee.mem
    · exact hint.mem
    · exact hprin.mem
  · cases hd

theorem demands_nonneg_iff (h : facility.buildExpectedInstallments = .ok installments) :
    (∀ d ∈ facility.demands, 0 ≤ d) ↔ facility.Amortises := by
  rw [demands_of_ok h, ← Facility.installments_nonneg_iff h]
  simp only [List.forall_mem_flatMap, ExpectedInstallment.demands, List.forall_mem_cons,
    List.not_mem_nil, false_implies, implies_true, and_true]

/-! ## When cash is conserved -/

/-- **Conservation is the balance of the waterfall.** -/
theorem conserved_iff_balanced (happly : applyEvents facility events asOf = .ok snapshot)
    (hprec : WithinPrecision facility events) (hamortises : facility.Amortises) :
    Conserved events snapshot ↔ Waterfall.Balanced cent (cash events) facility.demands := by
  obtain ⟨schedule, installments, periods, remaining, hbuild, hallocate, rfl⟩ :=
    applyEvents_eq_ok happly
  have hnet := toRat_netPaid hprec
  have hdemands := demands_of_ok hbuild
  have hpayable : ∀ d ∈ installments.flatMap (·.demands), Payable d := by
    intro d hd
    rw [← hdemands] at hd
    exact ⟨(demands_nonneg_iff hbuild).2 hamortises d hd, demands_mem facility d hd⟩
  have hrep : Representable contextPrecision
      (sumMoney ((sortEvents events).map (·.signedAmount))).toRat := by
    rw [hnet, ← cash_sortEvents]
    exact hprec.sums _ List.prefix_rfl
  have hfit : RemaindersFit (sumMoney ((sortEvents events).map (·.signedAmount))).toRat
      (installments.flatMap (·.demands)) := by
    rw [hnet, ← hdemands]
    exact hprec.remainders
  obtain ⟨hshares, hleft⟩ := allocate_amounts (Facility.installments_cents hbuild) hpayable hrep hfit
    hallocate
  have hasked := allocate_demands hallocate
  rw [hnet, ← hdemands] at hshares hleft
  rw [← hdemands] at hasked
  have hover : (if 0 < remaining then remaining else zeroMoney).toRat =
      max (Waterfall.leftover cent (cash events) facility.demands) 0 := by
    rw [← hleft]
    split
    · rename_i hpos
      rw [lt_def, toRat_zero] at hpos
      exact (max_eq_left hpos.le).symm
    · rename_i hnone
      rw [lt_def, toRat_zero, not_lt] at hnone
      rw [toRat_zeroMoney, max_eq_right hnone]
  -- the snapshot shows the shares, the demands and what is left over
  constructor
  · rintro ⟨-, htotal, hwithin, hfull⟩
    simp only [snapshotOf, LedgerSnapshot.shares, LedgerSnapshot.demands, hnet, hshares, hasked,
      hover] at htotal hwithin hfull
    exact ⟨htotal, hwithin, fun hsome => hfull (lt_max_of_lt_left hsome)⟩
  · rintro ⟨htotal, hwithin, hfull⟩
    refine ⟨hnet, ?_, ?_, ?_⟩
    · simp only [snapshotOf, LedgerSnapshot.shares, hnet, hshares, hover]
      exact htotal
    · simp only [snapshotOf, LedgerSnapshot.shares, LedgerSnapshot.demands, hshares, hasked]
      exact hwithin
    · simp only [snapshotOf, LedgerSnapshot.shares, LedgerSnapshot.demands, hshares, hasked, hover]
      intro hsome
      rcases lt_max_iff.1 hsome with hleftover | hzero
      · exact hfull hleftover
      · exact absurd hzero (lt_irrefl 0)

theorem Conserved.amortises (happly : applyEvents facility events asOf = .ok snapshot)
    (h : Conserved events snapshot) : facility.Amortises := by
  obtain ⟨_, _, _, _, hbuild, hallocate, rfl⟩ :=
    applyEvents_eq_ok happly
  rw [← demands_nonneg_iff hbuild, demands_of_ok hbuild, ← allocate_demands hallocate]
  intro d hd
  obtain ⟨_, -, hshare, hle⟩ := exists_left_of_mem h.within hd
  exact hshare.trans hle

/-! ## Whole cents -/

theorem representable_of_cents {x : ℚ} (hx : x ∈ zmultiples cent)
    (hlt : |x| < 10 ^ contextPrecision * cent) : Representable contextPrecision x := by
  obtain ⟨n, rfl⟩ := mem_zmultiples_iff.1 hx
  have hvalue : (⟨n, moneyExponent⟩ : Decimal).toRat = n • cent := by
    rw [zsmul_eq_mul]
    rfl
  refine ⟨⟨n, moneyExponent⟩, ?_, hvalue⟩
  rw [fits_iff_abs_lt, hvalue]
  exact hlt

theorem abs_value (event : RepaymentEvent) : |event.value| = event.amount.toRat := by
  have hpos := event.amountPositive
  rw [lt_def, toRat_zero] at hpos
  unfold RepaymentEvent.value
  cases event.kind with
  | payment => exact abs_of_pos hpos
  | reversal =>
    show |-event.amount.toRat| = event.amount.toRat
    rw [abs_neg, abs_of_pos hpos]

theorem abs_cash_le (events : List RepaymentEvent) :
    |cash events| ≤ (events.map (·.amount.toRat)).sum := by
  induction events with
  | nil => exact abs_zero.le
  | cons event events ih =>
    unfold cash at ih ⊢
    rw [List.map_cons, List.map_cons, List.sum_cons, List.sum_cons]
    calc |event.value + (events.map (·.value)).sum|
        ≤ |event.value| + |(events.map (·.value)).sum| := abs_add_le _ _
      _ ≤ event.amount.toRat + (events.map (·.amount.toRat)).sum := by
        rw [abs_value]
        linarith

theorem cash_mem (h : ∀ event ∈ events, event.amount.toRat ∈ zmultiples cent) :
    cash events ∈ zmultiples cent := by
  refine list_sum_mem fun x hx => ?_
  obtain ⟨event, hevent, rfl⟩ := List.mem_map.1 hx
  unfold RepaymentEvent.value
  cases event.kind with
  | payment => exact h event hevent
  | reversal => exact neg_mem (h event hevent)

theorem amount_nonneg (event : RepaymentEvent) : 0 ≤ event.amount.toRat := by
  rw [← abs_value]
  exact abs_nonneg _

/-- Some of the events of a history of whole cents, below the precision in total. -/
theorem representable_cash_of_cents {part : List RepaymentEvent} (hpart : part.Subperm events)
    (hcents : ∀ event ∈ events, event.amount.toRat ∈ zmultiples cent)
    (hlt : (events.map (·.amount.toRat)).sum < 10 ^ contextPrecision * cent) :
    Representable contextPrecision (cash part) := by
  have hnn : ∀ x ∈ events.map (·.amount.toRat), 0 ≤ x := by
    intro x hx
    obtain ⟨event, -, rfl⟩ := List.mem_map.1 hx
    exact amount_nonneg event
  obtain ⟨same, hperm, hsub⟩ := hpart
  apply representable_of_cents (cash_mem fun e he => hcents e (hsub.subset (hperm.mem_iff.2 he)))
  calc |cash part| ≤ (part.map (·.amount.toRat)).sum := abs_cash_le part
    _ = (same.map (·.amount.toRat)).sum := ((hperm.map _).sum_eq).symm
    _ ≤ (events.map (·.amount.toRat)).sum := (hsub.map _).sum_le_sum hnn
    _ < 10 ^ contextPrecision * cent := hlt

/-- **Whole cents are within the precision.** Payments and reversals of whole cents that stay below
`10 ^ 26` in total lose no digit, on a facility whose instalments repay at most the principal. -/
theorem withinPrecision_of_cents (hbuild : facility.buildExpectedInstallments = .ok installments)
    (hamortises : facility.Amortises) (hcents : ∀ event ∈ events, event.amount.toRat ∈ zmultiples cent)
    (hlt : (events.map (·.amount.toRat)).sum < 10 ^ contextPrecision * cent) :
    WithinPrecision facility events := by
  refine ⟨fun event hevent _ => ?_, fun part hpart => ?_, fun paid hpaid hle => ?_⟩
  · have hone := (representable_cash_of_cents (List.singleton_subperm_iff.2 hevent) hcents hlt).abs
    rwa [cash, List.map_singleton, List.sum_singleton, abs_value] at hone
  · exact representable_cash_of_cents
      (hpart.sublist.subperm.trans (sortEvents_perm events).subperm) hcents hlt
  · have hpaidNonneg : 0 ≤ paid.sum := List.sum_nonneg fun d hd =>
      (demands_nonneg_iff hbuild).2 hamortises d (hpaid.subset hd)
    have hpaidMem : paid.sum ∈ zmultiples cent :=
      list_sum_mem fun d hd => demands_mem facility d (hpaid.subset hd)
    apply representable_of_cents (sub_mem (cash_mem hcents) hpaidMem)
    rw [abs_of_nonneg (sub_nonneg.2 hle)]
    have hcash := (le_abs_self (cash events)).trans (abs_cash_le events)
    linarith

theorem amortises_of_balloon (h : facility.repaymentStyle = .balloon) :
    facility.Amortises := by
  intro balance perInstalment hbal hinst
  rw [h]
  exact (Facility.perInstalment_nonneg hbal hinst).1

/-! ## The exact condition -/

/-- **When cash is conserved.** Within the precision of the decimal context, exactly when the cash can be
handed out in whole cents. -/
theorem conserved_iff {facility : Facility} {events : List RepaymentEvent} {asOf : Date}
    {snapshot : LedgerSnapshot} (happly : applyEvents facility events asOf = .ok snapshot)
    (hprec : WithinPrecision facility events) :
    Conserved events snapshot ↔ Allocatable facility events := by
  obtain ⟨_, _, _, _, hbuild, -, -⟩ := applyEvents_eq_ok happly
  have hbalanced := Waterfall.balanced_iff cent_pos (cash events) (demands_mem facility)
  constructor
  · intro h
    have hamortises := h.amortises happly
    obtain ⟨hnn, -, hcents⟩ :=
      hbalanced.1 ((conserved_iff_balanced happly hprec hamortises).1 h)
    exact ⟨hnn, hamortises, hcents⟩
  · rintro ⟨hnn, hamortises, hcents⟩
    have hdemands := (demands_nonneg_iff hbuild).2 hamortises
    exact (conserved_iff_balanced happly hprec hamortises).2
      (hbalanced.2 ⟨hnn, hdemands, hcents⟩)

/-! ## Concrete histories -/

section Histories

/-- A loan of 10.00 over one month without interest or fees, due on 2026-01-31. -/
def sampleFacility : Facility where
  id := 1
  caseId := 2
  caseVersion := 1
  decisionId := 3
  principal := ⟨1000, -2⟩
  annualRatePercent := 0
  termMonths := 1
  repaymentStyle := .balloon
  firstPaymentDate := ⟨2026, 1, 31, by decide, by decide, by decide⟩
  periodicFee := 0
  versionPositive := by decide
  principalPositive := by decide
  rateNonneg := by decide
  termPositive := by decide
  feeNonneg := by decide

/-- A payment into it. -/
def samplePayment (amount : Decimal) (h : 0 < amount) : RepaymentEvent where
  id := 10
  facilityId := 1
  kind := .payment
  amount
  externalReference := "ref-1"
  reversedEventId := none
  effectiveDate := ⟨2026, 1, 15, by decide, by decide, by decide⟩
  recordedAt := some 5
  amountPositive := h
  referenceNonempty := by decide
  reference := by simp

/-- The day the ledger is read. -/
def sampleDay : Date :=
  ⟨2026, 2, 1, by decide, by decide, by decide⟩

/-- The amounts of the snapshot a payment leads to: net cash, overpayment and shares. -/
def samplePaid (amount : Decimal) (h : 0 < amount) : Option (Decimal × Decimal × List Decimal) :=
  match applyEvents sampleFacility [samplePayment amount h] sampleDay with
  | .ok snapshot => some (snapshot.netPaid, snapshot.overpayment, snapshot.periods.flatMap fun p =>
      [p.allocatedFee, p.allocatedInterest, p.allocatedPrincipal])
  | .error _ => none

theorem samplePaid_eq_some {amount net overpaid : Decimal} {h : 0 < amount} {shares : List Decimal}
    (hpaid : samplePaid amount h = some (net, overpaid, shares)) :
    ∃ snapshot, applyEvents sampleFacility [samplePayment amount h] sampleDay = .ok snapshot ∧
      snapshot.netPaid = net ∧ snapshot.overpayment = overpaid ∧
        snapshot.shares = shares.map toRat := by
  unfold samplePaid at hpaid
  split at hpaid
  · rename_i snapshot hok
    cases hpaid
    refine ⟨snapshot, hok, rfl, rfl, ?_⟩
    rw [List.map_flatMap]
    rfl
  · cases hpaid

/-- Twelve and a half pay the loan and leave an overpayment. -/
theorem overpaid_conserved :
    ∃ snapshot, applyEvents sampleFacility [samplePayment ⟨1250, -2⟩ (by decide)] sampleDay =
      .ok snapshot ∧ Conserved [samplePayment ⟨1250, -2⟩ (by decide)] snapshot := by
  obtain ⟨snapshot, hok, -⟩ := samplePaid_eq_some
    (show samplePaid ⟨1250, -2⟩ (by decide) =
      some (⟨1250, -2⟩, ⟨250, -2⟩, [⟨0, -2⟩, ⟨0, -2⟩, ⟨1000, -2⟩]) by decide +kernel)
  obtain ⟨_, _, _, _, hbuild, -⟩ := applyEvents_eq_ok hok
  have hamortises : sampleFacility.Amortises := amortises_of_balloon rfl
  have hamount : toRat ⟨1250, -2⟩ = 25 / 2 := by
    norm_num [toRat]
  have hcents : ∀ event ∈ [samplePayment ⟨1250, -2⟩ (by decide)],
      event.amount.toRat ∈ zmultiples cent :=
    List.forall_mem_singleton.2 (Cents.mem rfl)
  have hcash : cash [samplePayment ⟨1250, -2⟩ (by decide)] = 25 / 2 := by
    simp only [cash, List.map_singleton, List.sum_singleton]
    exact hamount
  have hprec := withinPrecision_of_cents hbuild hamortises hcents (by
    simp only [List.map_singleton, List.sum_singleton, samplePayment, hamount]
    norm_num [contextPrecision, cent, unit, moneyExponent])
  refine ⟨snapshot, hok, (conserved_iff hok hprec).2 ⟨?_, hamortises, Or.inl (cash_mem hcents)⟩⟩
  rw [hcash]
  norm_num

theorem halfCent_not_conserved :
    ∃ snapshot, applyEvents sampleFacility [samplePayment ⟨5, -3⟩ (by decide)] sampleDay =
      .ok snapshot ∧ ¬ Conserved [samplePayment ⟨5, -3⟩ (by decide)] snapshot := by
  obtain ⟨snapshot, hok, hnet, hover, hshares⟩ := samplePaid_eq_some
    (show samplePaid ⟨5, -3⟩ (by decide) =
      some (⟨5, -3⟩, ⟨0, -2⟩, [⟨0, -2⟩, ⟨0, -2⟩, ⟨1, -2⟩]) by decide +kernel)
  refine ⟨snapshot, hok, fun hconserved => ?_⟩
  have htotal := hconserved.total
  rw [hnet, hover, hshares] at htotal
  norm_num [toRat] at htotal

end Histories

end CreditOps.Repayments
