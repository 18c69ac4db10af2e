import CreditOps.Repayments.Reconciliation

/-!
# Sound schedules

A schedule is economically sound when no row repays or charges a negative amount, the balance never grows,
and it stays between nothing and the rounded principal. A schedule that is returned reconciles, so its
balances do what its principals do, and the principals are sound unless the equal instalments before the
last one, each rounded half up, repay more than the principal; the last row then takes the excess back. So
a schedule is sound exactly when the rounded instalments are covered by the principal (`sound_iff`).
-/

set_option autoImplicit false

namespace CreditOps.Repayments

open Decimal Results

/-- The rows are economically sound for a principal. -/
structure Sound (principal : ℚ) (rows : List DebtServiceRow) : Prop where
  nonneg : ∀ row ∈ rows, 0 ≤ row.principal.toRat ∧ 0 ≤ row.interest.toRat
  declining : (principal :: rows.map (·.balance.toRat)).Pairwise (· ≥ ·)
  within : ∀ row ∈ rows, 0 ≤ row.balance.toRat ∧ row.balance.toRat ≤ principal

/-- The instalments before the last one repay at most the rounded principal; a balloon has none. -/
def Loan.Covers (loan : Loan) (style : RepaymentStyle) : Prop :=
  style = .balloon ∨ ∀ balance perInstalment, quantizeMoney loan.amount = .ok balance →
    quantizeMoney (balance.div contextPrecision (.ofInt loan.term)) = .ok perInstalment →
    (loan.term - 1) * perInstalment.toRat ≤ balance.toRat

/-- **Balances follow the principals.** When no principal is negative, the balances decline from the
opening to the closing balance. -/
theorem Telescopes.declining {rows : List DebtServiceRow} :
    ∀ {opening : ℚ}, Telescopes opening rows → (∀ row ∈ rows, 0 ≤ row.principal.toRat) →
      (opening :: rows.map (·.balance.toRat)).Pairwise (· ≥ ·) ∧ closing opening rows ≤ opening ∧
        ∀ row ∈ rows, closing opening rows ≤ row.balance.toRat ∧ row.balance.toRat ≤ opening := by
  induction rows with
  | nil =>
    intro opening _ _
    refine ⟨List.pairwise_singleton _ _, le_rfl, fun row hrow => ?_⟩
    cases hrow
  | cons row _ ih =>
    intro opening h hnn
    obtain ⟨_, hrest⟩ := h
    rw [List.forall_mem_cons] at hnn
    obtain ⟨hpairwise, hclosing, hwithin⟩ := ih hrest hnn.2
    have hle : row.balance.toRat ≤ opening := by
      have hpaid := hnn.1
      linarith
    rw [closing_cons]
    refine ⟨?_, hclosing.trans hle, ?_⟩
    · refine List.Pairwise.cons ?_ hpairwise
      intro later hlater
      rcases List.mem_cons.1 hlater with rfl | htail
      · exact hle
      · obtain ⟨other, hother, rfl⟩ := List.mem_map.1 htail
        exact (hwithin other hother).2.trans hle
    · rw [List.forall_mem_cons]
      refine ⟨⟨hclosing, hle⟩, fun other hother => ?_⟩
      obtain ⟨hlow, hhigh⟩ := hwithin other hother
      exact ⟨hlow, hhigh.trans hle⟩

theorem sound_of_nonneg {loan : Loan} {rows : List DebtServiceRow} (h : RowsReconcile loan rows)
    (hnn : ∀ row ∈ rows, 0 ≤ row.principal.toRat ∧ 0 ≤ row.interest.toRat) :
    Sound loan.rounded rows := by
  obtain ⟨hpairwise, -, hwithin⟩ := h.telescopes.declining fun row hrow => (hnn row hrow).1
  obtain ⟨_, hlast, hzero⟩ := h.final
  have hclosing : closing loan.rounded rows = 0 := by
    rw [closing, hlast]
    exact hzero
  rw [hclosing] at hwithin
  exact ⟨hnn, hpairwise, hwithin⟩

/-- **When a schedule is sound.** Exactly when the principal covers the rounded instalments before the
last one. -/
theorem sound_iff {loan : Loan} {style : RepaymentStyle} {schedule : DebtServiceSchedule}
    (h : loan.schedule style = .ok schedule) :
    Sound loan.rounded schedule.rows ↔ loan.Covers style := by
  have hrows := (Loan.schedule_eq_ok h).1
  obtain ⟨balance, perInstalment, hbal, hinst, hloop⟩ := Loan.computeRows_eq_ok.1 hrows
  obtain ⟨hlevel, -, -⟩ := Loan.instalment_le hbal hinst
  obtain ⟨left, hleft⟩ : ∃ left, loan.term = left + 1 :=
    ⟨loan.term - 1, by have hterm := loan.term_pos; omega⟩
  have hpos := quantizeMoney_nonneg loan.amount_nonneg hbal
  have hnn : (∀ row ∈ schedule.rows, 0 ≤ row.principal.toRat ∧ 0 ≤ row.interest.toRat) ↔
      0 ≤ lastOpening style perInstalment.toRat loan.term balance.toRat := by
    rw [hleft] at hloop ⊢
    exact scheduleRows_nonneg_iff (toRat_monthlyRate_nonneg loan.rate_nonneg)
      (cents_of_quantizeMoney hinst) hlevel left (cents_of_quantizeMoney hbal) hloop
  have hcovers : loan.Covers style ↔
      0 ≤ lastOpening style perInstalment.toRat loan.term balance.toRat := by
    unfold Loan.Covers
    cases style with
    | balloon => simp only [lastOpening, hpos, true_or]
    | equalPrincipal =>
      simp only [lastOpening, sub_nonneg, reduceCtorEq, false_or]
      constructor
      · intro hall
        exact hall balance perInstalment hbal hinst
      · intro hlast balance' perInstalment' hbal' hinst'
        rw [hbal] at hbal'
        cases hbal'
        rw [hinst] at hinst'
        cases hinst'
        exact hlast
  rw [hcovers, ← hnn]
  constructor
  · exact fun hsound => hsound.nonneg
  · exact sound_of_nonneg (rowsReconcile hrows)

/-! ## Six cents over a year -/

/-- Six cents without interest over twelve months: half a cent a month is rounded up to a whole one. -/
def sixCents : Loan where
  principal := ⟨"six_cents", some ⟨6, -2⟩, [], by decide⟩
  annualRatePercent := ⟨"no_rate", some 0, [], by decide⟩
  termMonths := ⟨"a_year", some 12, [], by decide⟩
  amount := ⟨6, -2⟩
  rate := 0
  termValue := 12
  term := 12
  principal_value := rfl
  rate_value := rfl
  term_value := rfl
  amount_nonneg := by decide +kernel
  rate_nonneg := by decide +kernel
  term_pos := by decide
  term_whole := by decide +kernel

theorem exists_schedule {loan : Loan} {style : RepaymentStyle} {rows : List DebtServiceRow}
    (h : computeRows style loan.amount loan.rate loan.termValue = .ok rows) :
    ∃ schedule, loan.schedule style = .ok schedule ∧ schedule.rows = rows := by
  rw [Loan.schedule_eq]
  exact ⟨_, bind_eq_ok.2 ⟨rows, h, rfl⟩, rfl⟩

theorem sixCents_not_sound :
    ∃ schedule, sixCents.schedule .equalPrincipal = .ok schedule ∧
      ¬ Sound sixCents.rounded schedule.rows := by
  have hnegative : (computeRows .equalPrincipal ⟨6, -2⟩ 0 12).toOption.any
      (·.any fun row => row.principal < 0) = true := by decide +kernel
  obtain ⟨_, hrows, hany⟩ := (Option.any_eq_true _ _).1 hnegative
  obtain ⟨row, hrow, hbelow⟩ := List.any_eq_true.1 hany
  obtain ⟨schedule, hrun, rfl⟩ := @exists_schedule sixCents _ _ (toOption_eq_some.1 hrows)
  refine ⟨schedule, hrun, fun hsound => ?_⟩
  have hlt := lt_def.1 (of_decide_eq_true hbelow)
  rw [toRat_zero] at hlt
  exact (hsound.nonneg row hrow).1.not_gt hlt

theorem sixCents_balloon_sound :
    ∃ schedule, sixCents.schedule .balloon = .ok schedule ∧
      (Sound sixCents.rounded schedule.rows ↔ sixCents.Covers .balloon) := by
  have hsome : (computeRows .balloon ⟨6, -2⟩ 0 12).toOption.isSome = true := by decide +kernel
  obtain ⟨_, hrows⟩ := Option.isSome_iff_exists.1 hsome
  obtain ⟨schedule, hrun, -⟩ := @exists_schedule sixCents _ _ (toOption_eq_some.1 hrows)
  exact ⟨schedule, hrun, sound_iff hrun⟩

end CreditOps.Repayments
