import CreditOps.Repayments.Readability
import CreditOps.Repayments.Conservation

/-!
# The priority of the waterfall

On expected amounts that are not negative, a history of whole cents fills the buckets of a ledger in order:
a bucket receives something only when every bucket before it is full. This holds for amounts of any size,
since the roundings of the context keep whole cents whole (`WholeCents.sub`), a bucket takes all that is left
or all it asks for (`takeMoney_toRat`), and nothing is left after one that is not full (`takeMoney_left`).

The status of a period compares the totals of its buckets as the context rounds them. A period that is one
cent short may round to the same total, so the flags say what the buckets received as long as a missing cent
shows in the expected total (`waterfall_prioritised`).
-/

set_option autoImplicit false

namespace CreditOps.Repayments

open Decimal Results AddSubgroup Waterfall

/-! ## What priority says -/

/-- The buckets of a period in the order of the policy, each with its share and its demand. -/
def LedgerPeriod.buckets (period : LedgerPeriod) : List (ℚ × ℚ) :=
  [(period.allocatedFee.toRat, period.expectedFee.toRat),
    (period.allocatedInterest.toRat, period.expectedInterest.toRat),
    (period.allocatedPrincipal.toRat, period.expectedPrincipal.toRat)]

/-- Every bucket of the period is full. -/
def LedgerPeriod.Covered (period : LedgerPeriod) : Prop :=
  ∀ bucket ∈ period.buckets, bucket.1 = bucket.2

/-- The flags of a period say what its buckets received. -/
structure LedgerPeriod.Agrees (asOf : Date) (period : LedgerPeriod) : Prop where
  paid : period.status = .paid ↔ period.Covered
  partiallyPaid : period.status = .partiallyPaid ↔
    ¬ period.Covered ∧ ∃ bucket ∈ period.buckets, 0 < bucket.1
  unpaid : period.status = .unpaid ↔ ¬ period.Covered ∧ ∀ bucket ∈ period.buckets, bucket.1 = 0
  overdue : period.overdue = true ↔ period.dueDate ≤ asOf ∧ ¬ period.Covered

/-- All buckets of a snapshot, by period and in the order of the policy. -/
def LedgerSnapshot.buckets (snapshot : LedgerSnapshot) : List (ℚ × ℚ) :=
  snapshot.periods.flatMap (·.buckets)

/-- The cash of a snapshot went down its buckets in order. -/
structure LedgerSnapshot.Prioritised (snapshot : LedgerSnapshot) : Prop where
  periods : (snapshot.periods.map (·.period)).Pairwise (· < ·)
  within : ∀ bucket ∈ snapshot.buckets, 0 ≤ bucket.1 ∧ bucket.1 ≤ bucket.2
  inOrder : snapshot.buckets.Pairwise fun earlier later => 0 < later.1 → earlier.1 = earlier.2
  onePartial : (snapshot.buckets.countP fun bucket => 0 < bucket.1 ∧ bucket.1 < bucket.2) ≤ 1

/-- One cent less. -/
def lessCent (amount : Decimal) : Decimal :=
  amount.addExact ⟨-1, moneyExponent⟩

/-- The total of an installment with one cent less in the last bucket that asks for anything. -/
def ExpectedInstallment.shortTotal (installment : ExpectedInstallment) : Decimal :=
  if 0 < installment.principal then
    { installment with principal := lessCent installment.principal }.total
  else if 0 < installment.interest then
    { installment with interest := lessCent installment.interest }.total
  else { installment with fee := lessCent installment.fee }.total

/-- A missing cent shows in the total of every installment. -/
def Facility.ShowsCents (facility : Facility) : Prop :=
  ∀ installments, facility.buildExpectedInstallments = .ok installments →
    ∀ installment ∈ installments, installment.shortTotal < installment.total

/-! ## Whole cents -/

/-- Whole cents in the digits of the context. -/
structure WholeCents (amount : Decimal) : Prop where
  fits : Representable contextPrecision amount.toRat
  cents : amount.toRat ∈ zmultiples cent

theorem wholeCents_zeroMoney : WholeCents zeroMoney := by
  constructor
  · rw [toRat_zeroMoney]
    exact representable_zero _
  · rw [toRat_zeroMoney]
    exact zero_mem _

variable {a b left share demand remaining : Decimal}

/-- **Sums of cents are cents**, also when the context rounds them. -/
theorem wholeCents_add (ha : a.toRat ∈ zmultiples cent) (hb : b.toRat ∈ zmultiples cent) :
    WholeCents (a.add contextPrecision b) := by
  refine ⟨representable_round (by decide) _, round_mem_multiples (by decide) ?_⟩
  rw [toRat_addExact]
  exact add_mem ha hb

theorem WholeCents.sub (ha : WholeCents a) (hb : b.toRat ∈ zmultiples cent) :
    WholeCents (a.sub contextPrecision b) := by
  apply wholeCents_add ha.cents
  rw [toRat_negExact]
  exact neg_mem hb

theorem signedAmount_mem {event : RepaymentEvent} (h : event.amount.toRat ∈ zmultiples cent) :
    event.signedAmount.toRat ∈ zmultiples cent := by
  unfold RepaymentEvent.signedAmount
  cases event.kind with
  | payment => exact h
  | reversal =>
    apply round_mem_multiples (by decide)
    rw [toRat_negExact]
    exact neg_mem h

theorem wholeCents_foldl {values : List Decimal} (h : ∀ v ∈ values, v.toRat ∈ zmultiples cent) :
    ∀ {start : Decimal}, WholeCents start →
      WholeCents (values.foldl (Decimal.add contextPrecision) start) := by
  induction values with
  | nil => exact fun hstart => hstart
  | cons _ _ ih =>
    intro start hstart
    rw [List.forall_mem_cons] at h
    exact ih h.2 (wholeCents_add hstart.cents h.1)

theorem wholeCents_netPaid {events : List RepaymentEvent}
    (h : ∀ event ∈ events, event.amount.toRat ∈ zmultiples cent) :
    WholeCents (sumMoney ((sortEvents events).map (·.signedAmount))) := by
  apply wholeCents_foldl _ wholeCents_zeroMoney
  intro value hvalue
  obtain ⟨event, hevent, rfl⟩ := List.mem_map.1 hvalue
  exact signedAmount_mem (h event ((sortEvents_perm events).subset hevent))

/-! ## One bucket -/

/-- **What a bucket receives**: all that is left or all it asks for. -/
theorem takeMoney_toRat (hrem : WholeCents remaining) (hcents : Cents demand)
    (h : takeMoney remaining demand = .ok share) :
    share.toRat = max 0 (min remaining.toRat demand.toRat) := by
  unfold takeMoney at h
  simp only [le_def, toRat_zero] at h
  split at h
  · rename_i hnone
    cases h
    rw [toRat_zeroMoney]
    rcases hnone with hempty | hzero
    · exact (max_eq_left ((min_le_left _ _).trans hempty)).symm
    · exact (max_eq_left ((min_le_right _ _).trans hzero)).symm
  · rename_i hboth
    rw [not_or, not_le, not_le] at hboth
    have hmin : 0 < (remaining.minimum demand).toRat := by
      rw [toRat_minimum]
      exact lt_min hboth.1 hboth.2
    have hmem : (remaining.minimum demand).toRat ∈ zmultiples cent := by
      rw [toRat_minimum]
      rcases min_choice remaining.toRat demand.toRat with hleft | hright
      · rw [hleft]
        exact hrem.cents
      · rw [hright]
        exact hcents.mem
    rw [toRat_quantizeMoney hmin.le h, halfUp_of_mem cent_pos hmem, ← toRat_minimum,
      max_eq_right hmin.le]

/-- **What a bucket leaves.** One that is not full leaves nothing. -/
theorem takeMoney_left (hrem : WholeCents remaining) (hcents : Cents demand)
    (hdemand : 0 ≤ demand.toRat) (h : takeMoney remaining demand = .ok share)
    (hshort : remaining.toRat ≤ 0 ∨ share.toRat < demand.toRat) :
    (remaining.sub contextPrecision share).toRat = min remaining.toRat 0 := by
  have hshare := takeMoney_toRat hrem hcents h
  rcases le_or_gt remaining.toRat 0 with hempty | hsome
  · have hzero : share.toRat = 0 := by
      rw [hshare]
      exact max_eq_left ((min_le_left _ _).trans hempty)
    have hrest : remaining.toRat - share.toRat = remaining.toRat := by rw [hzero, sub_zero]
    have hfits : Representable contextPrecision (remaining.toRat - share.toRat) := by
      rw [hrest]
      exact hrem.fits
    rw [toRat_sub (by decide) hfits, hrest, min_eq_left hempty]
  · have hlt := hshort.resolve_left hsome.not_ge
    have hall : share.toRat = remaining.toRat := by
      rcases le_total remaining.toRat demand.toRat with hle | hle
      · rw [hshare, min_eq_left hle, max_eq_right hsome.le]
      · rw [hshare, min_eq_right hle, max_eq_right hdemand] at hlt
        exact absurd hlt (lt_irrefl _)
    have hrest : remaining.toRat - share.toRat = 0 := by rw [hall, sub_self]
    have hfits : Representable contextPrecision (remaining.toRat - share.toRat) := by
      rw [hrest]
      exact representable_zero _
    rw [toRat_sub (by decide) hfits, hrest, min_eq_right hsome.le]

variable {buckets : List (ℚ × ℚ)}

/-- **A bucket is served in its turn.** -/
theorem served_of_takeMoney (hrem : WholeCents remaining) (hcents : Cents demand)
    (hdemand : 0 ≤ demand.toRat) (h : takeMoney remaining demand = .ok share)
    (hrest : Served (remaining.sub contextPrecision share).toRat buckets) :
    Served remaining.toRat ((share.toRat, demand.toRat) :: buckets) := by
  have hshare := takeMoney_toRat hrem hcents h
  have hleft := takeMoney_left hrem hcents hdemand h
  refine .cons ?_ ?_ ?_ ?_ hrest
  · rw [hshare]
    exact le_max_left _ _
  · rw [hshare]
    exact max_le hdemand (min_le_right _ _)
  · intro hempty
    rw [hleft (.inl hempty), hshare]
    exact ⟨max_eq_left ((min_le_left _ _).trans hempty), min_le_right _ _⟩
  · intro hshort
    rw [hleft (.inr hshort)]
    exact min_le_right _ _

/-- What a bucket leaves is whole cents again. -/
theorem takeMoney_wholeCents (hrem : WholeCents remaining) (hcents : Cents demand)
    (h : takeMoney remaining demand = .ok share) :
    share.toRat ∈ zmultiples cent ∧ WholeCents (remaining.sub contextPrecision share) := by
  have hshare : share.toRat ∈ zmultiples cent := by
    rw [takeMoney_toRat hrem hcents h]
    rcases max_choice 0 (min remaining.toRat demand.toRat) with hzero | hmin
    · rw [hzero]
      exact zero_mem _
    · rw [hmin]
      rcases min_choice remaining.toRat demand.toRat with hleft | hright
      · rw [hleft]
        exact hrem.cents
      · rw [hright]
        exact hcents.mem
  exact ⟨hshare, hrem.sub hshare⟩

/-! ## One installment -/

variable {asOf : Date} {installment : ExpectedInstallment} {period : LedgerPeriod}

/-- The flags of a period, as the loop sets them. -/
theorem allocateInstallment_flags
    (h : allocateInstallment asOf remaining installment = .ok (period, left)) :
    period.expectedFee = installment.fee ∧ period.expectedInterest = installment.interest ∧
      period.expectedPrincipal = installment.principal ∧
      period.status = (if installment.total ≤ period.allocatedTotal then PeriodStatus.paid
        else if 0 < period.allocatedTotal then .partiallyPaid else .unpaid) ∧
      period.overdue = decide (period.dueDate ≤ asOf ∧ period.allocatedTotal < installment.total) ∧
      period.period = installment.period ∧ period.dueDate = installment.dueDate := by
  unfold allocateInstallment at h
  obtain ⟨_, -, h⟩ := bind_eq_ok.1 h
  obtain ⟨_, -, h⟩ := bind_eq_ok.1 h
  obtain ⟨_, -, h⟩ := bind_eq_ok.1 h
  cases h
  exact ⟨rfl, rfl, rfl, rfl, rfl, rfl, rfl⟩

/-- An installment asks for whole cents and for nothing negative. -/
structure ExpectedInstallment.Payable (installment : ExpectedInstallment) : Prop where
  fee : Cents installment.fee ∧ 0 ≤ installment.fee.toRat
  interest : Cents installment.interest ∧ 0 ≤ installment.interest.toRat
  principal : Cents installment.principal ∧ 0 ≤ installment.principal.toRat

/-- The shares of a period are numbers of whole cents. -/
def LedgerPeriod.InCents (period : LedgerPeriod) : Prop :=
  ∀ bucket ∈ period.buckets, bucket.1 ∈ zmultiples cent

/-- **One installment** is served bucket after bucket, before whatever comes after it. -/
theorem allocateInstallment_served (hrem : WholeCents remaining) (hpayable : installment.Payable)
    (h : allocateInstallment asOf remaining installment = .ok (period, left))
    (hrest : Served left.toRat buckets) :
    Served remaining.toRat (period.buckets ++ buckets) ∧ period.InCents ∧ WholeCents left := by
  obtain ⟨hfees, hints, hprins, -⟩ := allocateInstallment_flags h
  obtain ⟨-, hfee, hint, hprin, rfl⟩ := allocateInstallment_eq_ok h
  obtain ⟨hfeeMem, hafterFee⟩ := takeMoney_wholeCents hrem hpayable.fee.1 hfee
  obtain ⟨hinterestMem, hafterInterest⟩ :=
    takeMoney_wholeCents hafterFee hpayable.interest.1 hint
  obtain ⟨hprincipalMem, hleft⟩ :=
    takeMoney_wholeCents hafterInterest hpayable.principal.1 hprin
  have hserved : Served remaining.toRat (period.buckets ++ buckets) := by
    unfold LedgerPeriod.buckets
    rw [hfees, hints, hprins]
    apply served_of_takeMoney hrem hpayable.fee.1 hpayable.fee.2 hfee
    apply served_of_takeMoney hafterFee hpayable.interest.1 hpayable.interest.2 hint
    exact served_of_takeMoney hafterInterest hpayable.principal.1 hpayable.principal.2 hprin hrest
  refine ⟨hserved, ?_, hleft⟩
  unfold LedgerPeriod.InCents LedgerPeriod.buckets
  simp only [List.forall_mem_cons, List.not_mem_nil, false_implies, implies_true, and_true]
  exact ⟨hfeeMem, hinterestMem, hprincipalMem⟩

variable {installments : List ExpectedInstallment}

/-- **The loop is served in order**, and so is each period of it. -/
theorem allocate_served (hpayable : ∀ i ∈ installments, i.Payable) :
    ∀ {remaining left : Decimal} {periods : List LedgerPeriod}, WholeCents remaining →
      allocate asOf remaining installments = .ok (periods, left) →
      Served remaining.toRat (periods.flatMap (·.buckets)) ∧ WholeCents left := by
  induction installments with
  | nil =>
    intro remaining left periods hrem h
    cases h
    exact ⟨.nil _, hrem⟩
  | cons _ _ ih =>
    intro remaining left periods hrem h
    obtain ⟨_, _, _, hone, hloop, rfl⟩ := allocate_cons_eq_ok h
    rw [List.forall_mem_cons] at hpayable
    obtain ⟨-, -, hafter⟩ := allocateInstallment_served hrem hpayable.1 hone (.nil _)
    obtain ⟨hserved, hleft⟩ := ih hpayable.2 hafter hloop
    rw [List.flatMap_cons]
    exact ⟨(allocateInstallment_served hrem hpayable.1 hone hserved).1, hleft⟩

/-- Each period comes from one installment and some cash. -/
theorem allocate_periods (hpayable : ∀ i ∈ installments, i.Payable) :
    ∀ {remaining left : Decimal} {periods : List LedgerPeriod}, WholeCents remaining →
      allocate asOf remaining installments = .ok (periods, left) →
      List.Forall₂ (fun installment period => ∃ before after, WholeCents before ∧
        allocateInstallment asOf before installment = .ok (period, after)) installments periods := by
  induction installments with
  | nil =>
    intro remaining left periods _ h
    cases h
    exact .nil
  | cons _ _ ih =>
    intro remaining left periods hrem h
    obtain ⟨_, after, _, hone, hloop, rfl⟩ := allocate_cons_eq_ok h
    rw [List.forall_mem_cons] at hpayable
    obtain ⟨-, -, hafter⟩ := allocateInstallment_served hrem hpayable.1 hone (.nil _)
    exact .cons ⟨remaining, after, hrem, hone⟩ (ih hpayable.2 hafter hloop)

/-! ## The flags -/

theorem lessCent_toRat (amount : Decimal) : (lessCent amount).toRat = amount.toRat - cent := by
  have hcent : (⟨-1, moneyExponent⟩ : Decimal).toRat = -cent := by
    simp only [toRat, cent, unit]
    push_cast
    ring
  unfold lessCent
  rw [toRat_addExact, hcent, sub_eq_add_neg]

theorem le_lessCent {share : ℚ} (hshare : share ∈ zmultiples cent) (hdemand : Cents demand)
    (h : share < demand.toRat) : share ≤ (lessCent demand).toRat := by
  obtain ⟨n, hn⟩ := mem_zmultiples_iff.1 hshare
  obtain ⟨m, hm⟩ := mem_zmultiples_iff.1 hdemand.mem
  rw [lessCent_toRat, ← hn, ← hm, zsmul_eq_mul, zsmul_eq_mul]
  rw [← hn, ← hm, zsmul_eq_mul, zsmul_eq_mul, mul_lt_mul_iff_left₀ cent_pos] at h
  have hnext : (n : ℚ) ≤ m - 1 := by
    have hlt : n < m := by exact_mod_cast h
    exact_mod_cast (by omega : n ≤ m - 1)
  calc (n : ℚ) * cent ≤ (m - 1) * cent := mul_le_mul_of_nonneg_right hnext cent_pos.le
    _ = m * cent - cent := by ring

theorem total_mono {fee interest principal fee' interest' principal' : Decimal}
    (hfee : fee.toRat ≤ fee'.toRat) (hint : interest.toRat ≤ interest'.toRat)
    (hprin : principal.toRat ≤ principal'.toRat) :
    ((fee.add contextPrecision interest).add contextPrecision principal).toRat ≤
      ((fee'.add contextPrecision interest').add contextPrecision principal').toRat :=
  toRat_add_mono (by decide) (toRat_add_mono (by decide) hfee hint) hprin

/-- The total of a period is positive when a bucket of it received something. -/
theorem allocatedTotal_pos_iff (hnn : ∀ bucket ∈ period.buckets, 0 ≤ bucket.1) :
    0 < period.allocatedTotal.toRat ↔ ∃ bucket ∈ period.buckets, 0 < bucket.1 := by
  unfold LedgerPeriod.buckets at hnn ⊢
  simp only [List.forall_mem_cons, List.not_mem_nil, false_implies, implies_true, and_true] at hnn
  obtain ⟨hfee, hint, hprin⟩ := hnn
  have hfirst : 0 ≤ (period.allocatedFee.add contextPrecision period.allocatedInterest).toRat := by
    apply toRat_round_nonneg (by decide)
    rw [toRat_addExact]
    exact add_nonneg hfee hint
  unfold LedgerPeriod.allocatedTotal
  rw [toRat_add_pos_iff (by decide) hfirst hprin, toRat_add_pos_iff (by decide) hfee hint]
  simp only [List.exists_mem_cons_iff, List.not_mem_nil, false_and, exists_false, or_false, or_assoc]

/-- A period that is not covered stays below the expected total, when a missing cent shows in it. -/
theorem covered_iff {remaining : ℚ} (hpayable : installment.Payable)
    (hfees : period.expectedFee = installment.fee)
    (hints : period.expectedInterest = installment.interest)
    (hprins : period.expectedPrincipal = installment.principal)
    (hserved : Served remaining period.buckets) (hcents : period.InCents)
    (hshows : installment.shortTotal < installment.total) :
    installment.total ≤ period.allocatedTotal ↔ period.Covered := by
  have hwithin := hserved.within
  have horder := hserved.pairwise
  unfold LedgerPeriod.InCents at hcents
  unfold LedgerPeriod.Covered
  unfold LedgerPeriod.buckets at hwithin horder hcents ⊢
  rw [hfees, hints, hprins] at hwithin horder hcents ⊢
  simp only [List.forall_mem_cons, List.not_mem_nil, false_implies, implies_true, and_true,
    List.pairwise_cons, List.Pairwise.nil] at hwithin horder hcents ⊢
  obtain ⟨⟨-, hfee⟩, ⟨-, hint⟩, -, hprin⟩ := hwithin
  obtain ⟨⟨hfeeInterest, hfeePrincipal⟩, hinterestPrincipal⟩ := horder
  obtain ⟨hfeeMem, hinterestMem, hprincipalMem⟩ := hcents
  rw [lt_def] at hshows
  rw [le_def]
  constructor
  · intro hfull
    by_contra hshort
    -- a short period has at most the expected amounts with a cent less in the last open bucket
    suffices hle : period.allocatedTotal.toRat ≤ installment.shortTotal.toRat from
      absurd (hfull.trans hle) hshows.not_ge
    unfold ExpectedInstallment.shortTotal
    split
    · rename_i hsome
      rw [lt_def, toRat_zero] at hsome
      apply total_mono hfee hint
      apply le_lessCent hprincipalMem hpayable.principal.1
      refine lt_of_le_of_ne hprin fun hall => hshort ?_
      have hpos : 0 < period.allocatedPrincipal.toRat := by
        rw [hall]
        exact hsome
      exact ⟨hfeePrincipal hpos, hinterestPrincipal hpos, hall⟩
    · rename_i hnone
      rw [lt_def, toRat_zero] at hnone
      have hzero : installment.principal.toRat = 0 :=
        le_antisymm (not_lt.1 hnone) hpayable.principal.2
      have hprincipalFull : period.allocatedPrincipal.toRat = installment.principal.toRat := by
        apply le_antisymm hprin
        rw [hzero]
        exact (hserved.within (period.allocatedPrincipal.toRat, period.expectedPrincipal.toRat)
          (List.mem_cons_of_mem _ (List.mem_cons_of_mem _ List.mem_cons_self))).1
      split
      · rename_i hsome
        rw [lt_def, toRat_zero] at hsome
        refine total_mono hfee ?_ hprin
        apply le_lessCent hinterestMem hpayable.interest.1
        refine lt_of_le_of_ne hint fun hall => hshort ?_
        have hpos : 0 < period.allocatedInterest.toRat := by
          rw [hall]
          exact hsome
        exact ⟨hfeeInterest hpos, hall, hprincipalFull⟩
      · rename_i hnone'
        rw [lt_def, toRat_zero] at hnone'
        have hinterestFull : period.allocatedInterest.toRat = installment.interest.toRat := by
          apply le_antisymm hint
          exact (not_lt.1 hnone').trans (hserved.within
            (period.allocatedInterest.toRat, period.expectedInterest.toRat)
            (List.mem_cons_of_mem _ List.mem_cons_self)).1
        refine total_mono ?_ hint hprin
        apply le_lessCent hfeeMem hpayable.fee.1
        exact lt_of_le_of_ne hfee fun hall => hshort ⟨hall, hinterestFull, hprincipalFull⟩
  · rintro ⟨hfeeFull, hinterestFull, hprincipalFull⟩
    exact total_mono hfeeFull.ge hinterestFull.ge hprincipalFull.ge

/-- **The flags say what the buckets received**, when a missing cent shows in the total. -/
theorem allocateInstallment_agrees (hrem : WholeCents remaining) (hpayable : installment.Payable)
    (hshows : installment.shortTotal < installment.total)
    (h : allocateInstallment asOf remaining installment = .ok (period, left)) :
    period.Agrees asOf := by
  obtain ⟨hserved, hcents, -⟩ := allocateInstallment_served hrem hpayable h (.nil _)
  rw [List.append_nil] at hserved
  obtain ⟨hfees, hints, hprins, hstat, hoverdue, -⟩ := allocateInstallment_flags h
  have hcovered := covered_iff hpayable hfees hints hprins hserved hcents hshows
  have hnn : ∀ bucket ∈ period.buckets, 0 ≤ bucket.1 :=
    fun bucket hbucket => (hserved.within bucket hbucket).1
  have hpositive : 0 < period.allocatedTotal ↔ ∃ bucket ∈ period.buckets, 0 < bucket.1 := by
    rw [lt_def, toRat_zero]
    exact allocatedTotal_pos_iff hnn
  have hnothing : (∀ bucket ∈ period.buckets, bucket.1 = 0) ↔ ¬ 0 < period.allocatedTotal := by
    rw [hpositive]
    constructor
    · rintro hzero ⟨bucket, hbucket, hpos⟩
      exact hpos.ne' (hzero bucket hbucket)
    · intro hnone bucket hbucket
      by_contra hother
      exact hnone ⟨bucket, hbucket, lt_of_le_of_ne (hnn bucket hbucket) (Ne.symm hother)⟩
  have hbelow : period.allocatedTotal < installment.total ↔ ¬ period.Covered := by
    rw [← hcovered, le_iff_not_lt, not_not]
  constructor
  · rw [hstat, ← hcovered]
    split_ifs <;> simp_all
  · rw [hstat, ← hcovered, ← hpositive]
    split_ifs <;> simp_all
  · rw [hstat, ← hcovered, hnothing]
    split_ifs <;> simp_all
  · rw [hoverdue, decide_eq_true_iff, hbelow]

/-! ## The snapshot -/

variable {facility : Facility}

theorem payable_of_demands (hbuild : facility.buildExpectedInstallments = .ok installments)
    (hnn : ∀ d ∈ facility.demands, 0 ≤ d) : ∀ i ∈ installments, i.Payable := by
  intro i hi
  obtain ⟨hfeeCents, hinterestCents, hprincipalCents⟩ := Facility.installments_cents hbuild i hi
  rw [demands_of_ok hbuild] at hnn
  have hone := fun d hd => hnn d (List.mem_flatMap.2 ⟨i, hi, hd⟩)
  simp only [ExpectedInstallment.demands, List.mem_cons, List.not_mem_nil, or_false,
    forall_eq_or_imp, forall_eq] at hone
  exact ⟨⟨hfeeCents, hone.1⟩, ⟨hinterestCents, hone.2.1⟩, ⟨hprincipalCents, hone.2.2⟩⟩

theorem installments_pairwise (hbuild : facility.buildExpectedInstallments = .ok installments) :
    (installments.map (·.period)).Pairwise (· < ·) := by
  obtain ⟨rows, _, hrows, -, hmap⟩ := Facility.buildExpectedInstallments_eq_ok.1 hbuild
  have hsame : installments.map (·.period) = rows.map (·.period) :=
    map_eq_of_forall₂ hmap fun hof => (Facility.installment_eq_ok hof).1
  rw [hsame, rows_periods hrows]
  exact List.pairwise_lt_range'

/-- **The waterfall keeps its priority.** A history of whole cents fills the buckets in order, and the flags
of every period say what its buckets received when a missing cent shows in every expected total. -/
theorem waterfall_prioritised {facility : Facility} {events : List RepaymentEvent} {asOf : Date}
    {snapshot : LedgerSnapshot} (hnn : ∀ d ∈ facility.demands, 0 ≤ d)
    (hcents : ∀ event ∈ events, event.amount.toRat ∈ zmultiples cent)
    (happly : applyEvents facility events asOf = .ok snapshot) :
    snapshot.Prioritised ∧
      (facility.ShowsCents → ∀ period ∈ snapshot.periods, period.Agrees asOf) := by
  obtain ⟨_, installments, periods, _, hbuild, hloop, rfl⟩ := applyEvents_eq_ok happly
  have hpayable := payable_of_demands hbuild hnn
  have hnet := wholeCents_netPaid hcents
  obtain ⟨hserved, -⟩ := allocate_served hpayable hnet hloop
  have hpers := allocate_periods hpayable hnet hloop
  constructor
  · refine ⟨?_, hserved.within, hserved.pairwise, hserved.countP_le_one⟩
    have hsame : periods.map (·.period) = installments.map (·.period) := by
      refine map_eq_of_forall₂ hpers fun hof => ?_
      obtain ⟨_, _, -, hone⟩ := hof
      exact (allocateInstallment_flags hone).2.2.2.2.2.1
    show (periods.map (·.period)).Pairwise (· < ·)
    rw [hsame]
    exact installments_pairwise hbuild
  · intro hshows period hper
    obtain ⟨installment, hmem, _, _, hpre, hone⟩ := exists_left_of_mem hpers hper
    exact allocateInstallment_agrees hpre (hpayable installment hmem)
      (hshows installments hbuild installment hmem) hone

/-- Twelve and a half fill the loan of ten, and the flags say so. -/
theorem sampleFacility_prioritised :
    ∃ snapshot, applyEvents sampleFacility [samplePayment ⟨1250, -2⟩ (by decide)] sampleDay =
      .ok snapshot ∧ snapshot.Prioritised ∧ ∀ period ∈ snapshot.periods, period.Agrees sampleDay := by
  obtain ⟨snapshot, hok, -⟩ := samplePaid_eq_some
    (show samplePaid ⟨1250, -2⟩ (by decide) =
      some (⟨1250, -2⟩, ⟨250, -2⟩, [⟨0, -2⟩, ⟨0, -2⟩, ⟨1000, -2⟩]) by decide +kernel)
  obtain ⟨_, _, _, _, hbuild, -⟩ := applyEvents_eq_ok hok
  have hcents : ∀ event ∈ [samplePayment ⟨1250, -2⟩ (by decide)],
      event.amount.toRat ∈ zmultiples cent :=
    List.forall_mem_singleton.2 (Cents.mem rfl)
  obtain ⟨hprioritised, hagrees⟩ := waterfall_prioritised
    ((demands_nonneg_iff hbuild).2 (amortises_of_balloon rfl)) hcents hok
  refine ⟨snapshot, hok, hprioritised, hagrees ?_⟩
  have hshows : sampleFacility.buildExpectedInstallments.toOption.all (fun installments =>
      installments.all fun i => i.shortTotal < i.total) = true := by decide +kernel
  intro installments hinsts installment hmem
  rw [hinsts] at hshows
  exact of_decide_eq_true (List.all_eq_true.1 hshows installment hmem)

/-! ## A cent that does not show -/

/-- A loan of `6 · 10 ^ 25` and a cent over one month, at one hundred percent a month. -/
def hugeFacility : Facility where
  __ := sampleFacility
  principal := ⟨6000000000000000000000000001, -2⟩
  annualRatePercent := 1200
  principalPositive := by decide
  rateNonneg := by decide

/-- Two cents less than interest and principal come to. -/
def hugePayment : RepaymentEvent :=
  samplePayment ⟨120000000000000000000000000, 0⟩ (by decide)

/-- The principal stays two cents short, and the period is paid. -/
theorem hugeFacility_paid_short :
    (∀ d ∈ hugeFacility.demands, 0 ≤ d) ∧
      (∀ event ∈ [hugePayment], event.amount.toRat ∈ zmultiples cent) ∧
      ∃ snapshot, applyEvents hugeFacility [hugePayment] sampleDay = .ok snapshot ∧
        ¬ ∀ period ∈ snapshot.periods, period.Agrees sampleDay := by
  have hsome : (applyEvents hugeFacility [hugePayment] sampleDay).toOption.any (fun snapshot =>
      snapshot.periods.any fun period => period.status = .paid ∧
        period.allocatedPrincipal < period.expectedPrincipal) = true := by decide +kernel
  obtain ⟨snapshot, hsnap, hany⟩ := (Option.any_eq_true _ _).1 hsome
  have hok := toOption_eq_some.1 hsnap
  obtain ⟨_, _, _, _, hbuild, -⟩ := applyEvents_eq_ok hok
  refine ⟨(demands_nonneg_iff hbuild).2 (amortises_of_balloon rfl), ?_, snapshot, hok, fun hall => ?_⟩
  · refine List.forall_mem_singleton.2 (mem_zmultiples_iff.2 ⟨12000000000000000000000000000, ?_⟩)
    norm_num [hugePayment, samplePayment, toRat, cent, unit, moneyExponent]
  · obtain ⟨period, hper, hflags⟩ := List.any_eq_true.1 hany
    obtain ⟨hpaid, hshort⟩ := of_decide_eq_true hflags
    have hcovered := (hall period hper).paid.1 hpaid
    have hequal := hcovered (period.allocatedPrincipal.toRat, period.expectedPrincipal.toRat)
      (List.mem_cons_of_mem _ (List.mem_cons_of_mem _ List.mem_cons_self))
    exact (lt_def.1 hshort).ne hequal

end CreditOps.Repayments
