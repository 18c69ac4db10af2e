import CreditOps.Repayments.Ledger

/-!
# When a ledger can be read

A ledger read rebuilds the schedule with its due dates and folds the whole history over it. It raises
when an amount needs more digits than the decimal context has at the cent, when a due date lies after
the last representable year, or when the history is not a valid one.
-/

set_option autoImplicit false

namespace CreditOps.Repayments

open Decimal Results

/-! ## Amounts -/

variable {rate value result balance perInstalment : Decimal}

theorem abs_lt_of_quantizeMoney (h : quantizeMoney value = .ok result) :
    |result.toRat| < moneyLimit :=
  (cents_of_quantizeMoney h).fits_iff.1 (fits_of_quantizeMoney h)

theorem representable_of_quantizeMoney (h : quantizeMoney value = .ok result) :
    Representable contextPrecision result.toRat :=
  ⟨result, fits_of_quantizeMoney h, rfl⟩

/-- **A bucket never fails.** It takes at most its demand, which is an amount at the cent. -/
theorem exists_takeMoney (remaining : Decimal) {demand : Decimal}
    (hdemand : |demand.toRat| < moneyLimit) :
    ∃ share, takeMoney remaining demand = .ok share := by
  unfold takeMoney
  split
  · exact ⟨_, rfl⟩
  · rename_i hboth
    rw [not_or, le_def, le_def, toRat_zero, not_le, not_le] at hboth
    rw [exists_quantizeMoney, toRat_minimum, abs_of_pos (lt_min hboth.1 hboth.2)]
    exact (min_le_right _ _).trans_lt ((le_abs_self _).trans_lt hdemand)

variable {installments : List ExpectedInstallment}

/-- **The fold never fails** on installments whose amounts stay below the limit. -/
theorem exists_allocate (asOf : Date)
    (h : ∀ i ∈ installments, |i.fee.toRat| < moneyLimit ∧ |i.interest.toRat| < moneyLimit ∧ |i.principal.toRat| < moneyLimit) :
    ∀ remaining, ∃ result, allocate asOf remaining installments = .ok result := by
  induction installments with
  | nil => exact fun remaining => ⟨_, rfl⟩
  | cons installment _ ih =>
    intro remaining
    rw [List.forall_mem_cons] at h
    obtain ⟨⟨hfee, hinterest, hprin⟩, hrest⟩ := h
    unfold allocate
    rw [exists_bind_eq_ok]
    have hone : ∃ result, allocateInstallment asOf remaining installment = .ok result := by
      unfold allocateInstallment
      obtain ⟨fee, hfeeTake⟩ := exists_takeMoney remaining hfee
      obtain ⟨interest, hinterestTake⟩ :=
        exists_takeMoney (remaining.sub contextPrecision fee) hinterest
      obtain ⟨principal, hprincipalTake⟩ := exists_takeMoney
        ((remaining.sub contextPrecision fee).sub contextPrecision interest) hprin
      exact ⟨_, bind_eq_ok.2 ⟨fee, hfeeTake, bind_eq_ok.2 ⟨interest, hinterestTake,
        bind_eq_ok.2 ⟨principal, hprincipalTake, rfl⟩⟩⟩⟩
    obtain ⟨⟨_, after⟩, hper⟩ := hone
    obtain ⟨⟨_, _⟩, hloop⟩ := ih hrest after
    exact ⟨_, hper, _, bind_eq_ok.2 ⟨_, hloop, rfl⟩⟩

/-! ## Openings -/

variable {n term : Nat}

/-- The rounded instalment is at most twice an equal share, up to the last digit of the context. -/
theorem perInstalment_le (hn : 1 ≤ n) (hbalance : 0 < balance.toRat)
    (h : quantizeMoney (balance.div contextPrecision (.ofInt n)) = .ok perInstalment) :
    10 ^ 27 * (perInstalment.toRat * n - 2 * balance.toRat) ≤ 2 * balance.toRat := by
  have hnq : (0 : ℚ) < n := by exact_mod_cast hn
  have hterm : (ofInt n).toRat = n := by
    rw [toRat_ofInt, Int.cast_natCast]
  have hquot : 0 ≤ (balance.div contextPrecision (.ofInt n)).toRat :=
    toRat_div_nonneg (by decide) hbalance.le (by rw [hterm]; exact hnq.le)
  -- a positive multiple of the cent comes from at least half a cent
  have hhalf : perInstalment.toRat ≤ 2 * (balance.div contextPrecision (.ofInt n)).toRat := by
    rw [toRat_quantizeMoney hquot h]
    have hself := (abs_le.1 (Waterfall.abs_sub_halfUp_le_self cent_pos hquot)).1
    linarith
  obtain ⟨x, hx, hle, hclose⟩ := exists_representable_ge contextPrecision (by decide)
    (div_pos hbalance hnq)
  have hdiv : (balance.div contextPrecision (.ofInt n)).toRat ≤ x :=
    toRat_div_le (by decide) hbalance.le (by rw [hterm]; exact hnq) hx (by rw [hterm]; exact hle)
  have hscaled : 10 ^ 27 * (x * n - balance.toRat) ≤ balance.toRat := by
    have hmul := mul_le_mul_of_nonneg_right hclose hnq.le
    have hshare : balance.toRat / n * n = balance.toRat := div_mul_cancel₀ _ hnq.ne'
    have hprec : (10 : ℚ) ^ (contextPrecision - 1) = 10 ^ 27 := by norm_num [contextPrecision]
    rw [hprec, mul_assoc, sub_mul, hshare] at hmul
    exact hmul
  nlinarith

/-- **No opening balance exceeds the first one in size**, over at most six hundred months. -/
theorem neg_le_lastOpening (style : RepaymentStyle) (hn : 1 ≤ n) (hmonths : n ≤ 600)
    (hbalance : 0 ≤ balance.toRat) (hpos : 0 ≤ perInstalment.toRat)
    (h : quantizeMoney (balance.div contextPrecision (.ofInt n)) = .ok perInstalment) :
    -balance.toRat ≤ lastOpening style perInstalment.toRat n balance.toRat := by
  cases style with
  | balloon =>
    show -balance.toRat ≤ balance.toRat
    linarith
  | equalPrincipal =>
    show -balance.toRat ≤ balance.toRat - (n - 1) * perInstalment.toRat
    have hnq : (1 : ℚ) ≤ n := by exact_mod_cast hn
    have hmonthsq : (n : ℚ) ≤ 600 := by exact_mod_cast hmonths
    rcases hpos.eq_or_lt with hzero | _
    · rw [← hzero, mul_zero]
      linarith
    rcases hbalance.eq_or_lt with hnothing | hsome
    · -- nothing to repay, so the instalment is nothing too
      exfalso
      have hquot : (balance.div contextPrecision (.ofInt n)).toRat ≤ 0 := by
        apply toRat_div_le (by decide) hbalance _ (representable_zero _) _
        · rw [toRat_ofInt, Int.cast_natCast]
          linarith
        · rw [← hnothing, zero_div]
      have hquot0 : 0 ≤ (balance.div contextPrecision (.ofInt n)).toRat :=
        toRat_div_nonneg (by decide) hbalance (by rw [toRat_ofInt, Int.cast_natCast]; linarith)
      have hvalue := toRat_quantizeMoney hquot0 h
      rw [le_antisymm hquot hquot0, Waterfall.halfUp_of_mem cent_pos (zero_mem _)] at hvalue
      linarith
    · have hlevel := perInstalment_le hn hsome h
      nlinarith

theorem principalPaid_exists (style : RepaymentStyle) (last : Bool) (perInstalment opening : Decimal) :
    ∃ principal, principalPaid style last perInstalment opening = .ok principal := by
  cases style <;> cases last <;> exact ⟨_, rfl⟩

variable {style : RepaymentStyle}

/-- **The loop succeeds** when every opening balance is at most `bound` in size and the interest on
`bound` stays below the limit. -/
theorem exists_scheduleRows (term : Nat) {bound : ℚ} (hrate : 0 ≤ rate.toRat)
    (hcents : Cents perInstalment) (hinst : 0 ≤ perInstalment.toRat) (hbound : bound < moneyLimit)
    (hinterest : bound * rate.toRat < moneyLimit) (left : Nat) :
    ∀ {opening : Decimal}, Cents opening → opening.toRat ≤ bound →
      -bound ≤ lastOpening style perInstalment.toRat (left + 1) opening.toRat →
      ∃ rows, scheduleRows style rate perInstalment term (left + 1) opening = .ok rows := by
  induction left with
  | zero =>
    intro opening hopening hle hlast
    have hsize : |opening.toRat| ≤ bound := by
      refine abs_le.2 ⟨hlast.trans (lastOpening_le (by omega) hinst), hle⟩
    have hproduct : |opening.toRat * rate.toRat| < moneyLimit := by
      rw [abs_mul, abs_of_nonneg hrate]
      exact (mul_le_mul_of_nonneg_right hsize hrate).trans_lt hinterest
    obtain ⟨interest, hint⟩ := exists_quantizeMoney_mul.2 hproduct
    have hnothing : |opening.toRat - opening.toRat| < moneyLimit := by
      rw [sub_self, abs_zero]
      exact ((abs_nonneg _).trans hsize).trans_lt hbound
    obtain ⟨balance, hbal⟩ := exists_quantizeMoney_sub.2 hnothing
    exact ⟨_, scheduleRows_succ.2 ⟨interest, opening, balance, [], hint, principalPaid_true, hbal,
      rfl, rfl⟩⟩
  | succ left ih =>
    intro opening hopening hle hlast
    have hsize : |opening.toRat| ≤ bound := by
      refine abs_le.2 ⟨hlast.trans (lastOpening_le (by omega) hinst), hle⟩
    have hproduct : |opening.toRat * rate.toRat| < moneyLimit := by
      rw [abs_mul, abs_of_nonneg hrate]
      exact (mul_le_mul_of_nonneg_right hsize hrate).trans_lt hinterest
    obtain ⟨interest, hint⟩ := exists_quantizeMoney_mul.2 hproduct
    obtain ⟨principal, hprin⟩ := principalPaid_exists style false perInstalment opening
    -- the next opening lies between the last one and this one
    have hnext : opening.toRat - principal.toRat ≤ opening.toRat ∧
        lastOpening style perInstalment.toRat (left + 1 + 1) opening.toRat ≤
          opening.toRat - principal.toRat := by
      rcases principalPaid_false hprin with ⟨rfl, rfl⟩ | ⟨rfl, rfl⟩
      · rw [toRat_zeroMoney, sub_zero]
        exact ⟨le_rfl, le_rfl⟩
      · refine ⟨sub_le_self _ hinst, ?_⟩
        simp only [lastOpening]
        push_cast
        have hleft : (0 : ℚ) ≤ left := Nat.cast_nonneg left
        nlinarith
    have hdiff : |opening.toRat - principal.toRat| < moneyLimit :=
      (abs_le.2 ⟨hlast.trans hnext.2, hnext.1.trans hle⟩).trans_lt hbound
    obtain ⟨balance, hbal⟩ := exists_quantizeMoney_sub.2 hdiff
    have hvalue := toRat_quantizeMoney_sub hopening (principalPaid_cents hopening hcents hprin) hbal
    have hstep := lastOpening_step left hopening hcents hprin hbal
    obtain ⟨rows, hrows⟩ := ih (cents_of_quantizeMoney hbal) (by rw [hvalue]; exact hnext.1.trans hle)
      (by rw [hstep]; exact hlast)
    refine ⟨_, scheduleRows_succ.2 ⟨interest, principal, balance, rows, hint, ?_, hbal, hrows, rfl⟩⟩
    rw [decide_eq_false (Nat.succ_ne_zero left)]
    exact hprin

/-- The amounts of the rows stay below the limit. -/
theorem scheduleRows_lt (hinst : |perInstalment.toRat| < moneyLimit) (left : Nat) :
    ∀ {opening : Decimal} {rows : List DebtServiceRow}, |opening.toRat| < moneyLimit →
      scheduleRows style rate perInstalment term left opening = .ok rows →
      ∀ row ∈ rows, |row.principal.toRat| < moneyLimit ∧ |row.interest.toRat| < moneyLimit := by
  induction left with
  | zero =>
    intro opening rows _ h row hrow
    cases h
    cases hrow
  | succ left ih =>
    intro opening rows hopening h row hrow
    obtain ⟨_, _, _, _, hinterest, hprin, hbalance, hrest, rfl⟩ :=
      scheduleRows_succ.1 h
    rcases List.mem_cons.1 hrow with rfl | htail
    · refine ⟨?_, abs_lt_of_quantizeMoney hinterest⟩
      cases hlast : decide (left = 0) with
      | true =>
        rw [hlast, principalPaid_true] at hprin
        cases hprin
        exact hopening
      | false =>
        rw [hlast] at hprin
        rcases principalPaid_false hprin with ⟨-, rfl⟩ | ⟨-, rfl⟩
        · show |zeroMoney.toRat| < moneyLimit
          rw [toRat_zeroMoney, abs_zero]
          exact (abs_nonneg _).trans_lt hinst
        · exact hinst
    · exact ih (abs_lt_of_quantizeMoney hbalance) hrest row htail

/-- The rows are numbered to the end of the term. -/
theorem scheduleRows_periods (left : Nat) :
    ∀ {opening : Decimal} {rows : List DebtServiceRow}, left ≤ term →
      scheduleRows style rate perInstalment term left opening = .ok rows →
      rows.map (·.period) = List.range' (term - left + 1) left := by
  induction left with
  | zero =>
    intro opening rows _ h
    cases h
    rfl
  | succ left ih =>
    intro opening rows hleft h
    obtain ⟨_, _, _, _, -, -, -, hrest, rfl⟩ := scheduleRows_succ.1 h
    have hfirst : term - (left + 1) + 1 = term - left := by omega
    rw [List.map_cons, ih (by omega) hrest, List.range'_succ, hfirst]

/-! ## The schedule of a facility -/

/-- What the terms of a facility must satisfy for its ledger to be read. -/
structure TermsReadable (facility : Facility) : Prop where
  principal : facility.principal.toRat < moneyLimit
  interest : Waterfall.halfUp cent facility.principal.toRat *
    (monthlyRate facility.annualRatePercent).toRat < moneyLimit
  fee : facility.periodicFee.toRat < moneyLimit
  dates : facility.firstPaymentDate.year +
    (facility.firstPaymentDate.month - 1 + (facility.termMonths - 1)) / 12 ≤ 9999

theorem principal_pos (facility : Facility) : 0 < facility.principal.toRat := by
  have hpos := facility.principalPositive
  rwa [lt_def, toRat_zero] at hpos

theorem fee_nonneg (facility : Facility) : 0 ≤ facility.periodicFee.toRat := by
  have hnn := facility.feeNonneg
  rwa [le_def, toRat_zero] at hnn

variable {facility : Facility}

/-- The rounded instalment exists: an equal share is at most the balance. -/
theorem exists_perInstalment (hbalance : quantizeMoney facility.principal = .ok balance) :
    ∃ perInstalment,
      quantizeMoney (balance.div contextPrecision (.ofInt facility.termMonths)) = .ok perInstalment := by
  have hpos := quantizeMoney_nonneg (principal_pos facility).le hbalance
  have hterm : (1 : ℚ) ≤ (ofInt facility.termMonths).toRat := by
    rw [toRat_ofInt, Int.cast_natCast]
    exact_mod_cast facility.termPositive
  have hquot : 0 ≤ (balance.div contextPrecision (.ofInt facility.termMonths)).toRat :=
    toRat_div_nonneg (by decide) hpos (by linarith)
  have hle : (balance.div contextPrecision (.ofInt facility.termMonths)).toRat ≤ balance.toRat :=
    toRat_div_le (by decide) hpos (by linarith) (representable_of_quantizeMoney hbalance)
      (div_le_self hpos hterm)
  rw [exists_quantizeMoney, abs_of_nonneg hquot]
  exact hle.trans_lt ((le_abs_self _).trans_lt (abs_lt_of_quantizeMoney hbalance))

/-- **When the rows of a schedule exist.** -/
theorem rows_exist_iff (hmonths : facility.termMonths ≤ 600) :
    (∃ rows, facility.rows = .ok rows) ↔ facility.principal.toRat < moneyLimit ∧
      Waterfall.halfUp cent facility.principal.toRat *
        (monthlyRate facility.annualRatePercent).toRat < moneyLimit := by
  have hprin := principal_pos facility
  have hrate := facility.monthlyRate_nonneg
  obtain ⟨left, hleft⟩ : ∃ left, facility.termMonths = left + 1 :=
    ⟨facility.termMonths - 1, by have hterm := facility.termPositive; omega⟩
  constructor
  · rintro ⟨_, hrows⟩
    obtain ⟨balance, _, hbalance, -, hsched⟩ := Facility.rows_eq_ok.1 hrows
    have hvalue := toRat_quantizeMoney hprin.le hbalance
    rw [hleft] at hsched
    obtain ⟨interest, _, _, _, hinterest, -⟩ := scheduleRows_succ.1 hsched
    constructor
    · have hlimit := exists_quantizeMoney.1 ⟨balance, hbalance⟩
      rwa [abs_of_pos hprin] at hlimit
    · have hproduct := exists_quantizeMoney_mul.1 ⟨interest, hinterest⟩
      rw [hvalue] at hproduct
      exact (le_abs_self _).trans_lt hproduct
  · rintro ⟨hlimit, hinterest⟩
    obtain ⟨balance, hbalance⟩ := exists_quantizeMoney.2 ((abs_of_pos hprin).trans_lt hlimit)
    obtain ⟨perInstalment, hinst⟩ := exists_perInstalment hbalance
    obtain ⟨hpos, hlevel⟩ := Facility.perInstalment_nonneg hbalance hinst
    have hvalue := toRat_quantizeMoney hprin.le hbalance
    have hlast := neg_le_lastOpening facility.repaymentStyle facility.termPositive hmonths
      hpos hlevel hinst
    rw [← hvalue] at hinterest
    have hexists := exists_scheduleRows facility.termMonths hrate
      (cents_of_quantizeMoney hinst) hlevel
      ((le_abs_self _).trans_lt (abs_lt_of_quantizeMoney hbalance)) hinterest left
      (cents_of_quantizeMoney hbalance) le_rfl (by rw [← hleft]; exact hlast)
    obtain ⟨rows, hrows⟩ := hexists
    rw [← hleft] at hrows
    exact ⟨rows, Facility.rows_eq_ok.2 ⟨balance, perInstalment, hbalance, hinst, hrows⟩⟩

theorem rows_periods {rows : List DebtServiceRow} (h : facility.rows = .ok rows) :
    rows.map (·.period) = List.range' 1 facility.termMonths := by
  obtain ⟨_, _, -, -, hsched⟩ := Facility.rows_eq_ok.1 h
  have hrange := scheduleRows_periods _ le_rfl hsched
  rwa [Nat.sub_self] at hrange

theorem exists_installment {fee : Decimal} {row : DebtServiceRow} :
    (∃ installment, facility.installment fee row = .ok installment) ↔
      facility.firstPaymentDate.year +
        (facility.firstPaymentDate.month - 1 + (row.period - 1)) / 12 ≤ 9999 := by
  rw [← Date.addMonths_isSome_iff]
  unfold Facility.installment
  cases facility.firstPaymentDate.addMonths (row.period - 1) with
  | none | some => simp

/-- **When the installments of a facility exist.** -/
theorem installments_exist_iff (hmonths : facility.termMonths ≤ 600) :
    (∃ installments, facility.buildExpectedInstallments = .ok installments) ↔
      TermsReadable facility := by
  have hrowsIff := rows_exist_iff hmonths
  have hfeeIff : (∃ fee, quantizeMoney facility.periodicFee = .ok fee) ↔
      facility.periodicFee.toRat < moneyLimit := by
    rw [exists_quantizeMoney, abs_of_nonneg (fee_nonneg facility)]
  have hterm := facility.termPositive
  constructor
  · rintro ⟨_, hbuild⟩
    obtain ⟨rows, fee, hrows, hfee, hmap⟩ := Facility.buildExpectedInstallments_eq_ok.1 hbuild
    obtain ⟨hprin, hinterest⟩ := hrowsIff.1 ⟨rows, hrows⟩
    refine ⟨hprin, hinterest, hfeeIff.1 ⟨fee, hfee⟩, ?_⟩
    -- the last row has the last due date
    have hlast : facility.termMonths ∈ rows.map (·.period) := by
      rw [rows_periods hrows, List.mem_range'_1]
      omega
    obtain ⟨_, hrow, hper⟩ := List.mem_map.1 hlast
    obtain ⟨installment, -, hof⟩ := exists_right_of_mem hmap hrow
    rw [← hper]
    exact exists_installment.1 ⟨installment, hof⟩
  · rintro ⟨hprin, hinterest, hfee, hdates⟩
    obtain ⟨rows, hrows⟩ := hrowsIff.2 ⟨hprin, hinterest⟩
    obtain ⟨fee, hfee⟩ := hfeeIff.2 hfee
    have hall : ∀ row ∈ rows, ∃ installment, facility.installment fee row = .ok installment := by
      intro row hrow
      have hmem : row.period ∈ rows.map (·.period) := List.mem_map_of_mem hrow
      rw [rows_periods hrows, List.mem_range'_1] at hmem
      rw [exists_installment]
      refine le_trans (Nat.add_le_add_left (Nat.div_le_div_right ?_) _) hdates
      omega
    obtain ⟨installments, hmap⟩ := exists_mapM_eq_ok.2 hall
    exact ⟨installments, Facility.buildExpectedInstallments_eq_ok.2
      ⟨rows, fee, hrows, hfee, mapM_eq_ok.1 hmap⟩⟩

/-- The amounts of existing installments stay below the limit. -/
theorem installments_lt (h : facility.buildExpectedInstallments = .ok installments) :
    ∀ i ∈ installments, |i.fee.toRat| < moneyLimit ∧ |i.interest.toRat| < moneyLimit ∧
      |i.principal.toRat| < moneyLimit := by
  obtain ⟨_, _, hrows, hfee, hmap⟩ := Facility.buildExpectedInstallments_eq_ok.1 h
  obtain ⟨_, _, hbalance, hinst, hsched⟩ := Facility.rows_eq_ok.1 hrows
  intro i hi
  obtain ⟨row, hrow, hof⟩ := exists_left_of_mem hmap hi
  obtain ⟨-, hf, hint, hp⟩ := Facility.installment_eq_ok hof
  rw [hf, hint, hp]
  have hlimits := scheduleRows_lt (abs_lt_of_quantizeMoney hinst) _
    (abs_lt_of_quantizeMoney hbalance) hsched row hrow
  exact ⟨abs_lt_of_quantizeMoney hfee, hlimits.2, hlimits.1⟩

/-! ## Due dates -/

/-- **The due dates do not drift.** The date of each installment is shifted from the first payment date
itself, by one month more than the date before it. -/
theorem installments_keepAnchor (h : facility.buildExpectedInstallments = .ok installments) :
    Date.KeepsAnchor facility.firstPaymentDate (List.range facility.termMonths)
      (installments.map (·.dueDate)) := by
  obtain ⟨rows, fee, hrows, -, hmap⟩ := Facility.buildExpectedInstallments_eq_ok.1 h
  have hmonths : rows.map (fun row => row.period - 1) = List.range facility.termMonths := by
    have hpers := congrArg (List.map (· - 1)) (rows_periods hrows)
    rw [List.map_map, List.map_sub_range' le_rfl, Nat.sub_self, ← List.range_eq_range'] at hpers
    exact hpers
  apply Date.keepsAnchor_of_each List.pairwise_lt_range
  rw [← hmonths, List.forall₂_map_left_iff, List.forall₂_map_right_iff]
  refine hmap.imp fun row installment hof => ?_
  unfold Facility.installment at hof
  split at hof
  · rename_i dueDate hdate
    cases hof
    exact Date.addMonths_eq_some_iff.1 hdate
  · cases hof

end CreditOps.Repayments
