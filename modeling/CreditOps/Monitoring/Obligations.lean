import CreditOps.Monitoring.Domain
import CreditOps.Repayments.Conservation
import CreditOps.Repayments.Readability

/-!
# The schedule of monitoring obligations

One spec, an anchor date and a count give a run of obligations, one a month or one a quarter. Every due
date is shifted from the anchor itself, so a month that is too short for the day of the anchor shortens
its own date and no later one. The run exists exactly when its last date does
(`exists_generateObligations_iff`), and neither its dates nor those of a repayment schedule drift
(`dueDates_keepAnchor`).
-/

set_option autoImplicit false

namespace CreditOps.Monitoring

open Results Repayments

/-- `ObligationFrequency` -/
inductive ObligationFrequency where
  | monthly
  | quarterly
deriving DecidableEq

/-- `_FREQUENCY_MONTHS` -/
def frequencyMonths : ObligationFrequency → Nat
  | .monthly => 1
  | .quarterly => 3

/-- `ObligationSpec` -/
structure ObligationSpec where
  frequency : ObligationFrequency
  requirementTextVi : String
  requirementFits : 1 ≤ requirementTextVi.length ∧ requirementTextVi.length ≤ 4000

/-- `GeneratedObligation` -/
structure GeneratedObligation where
  sequence : Nat
  dueDate : Date
  frequency : ObligationFrequency
  requirementTextVi : String
deriving DecidableEq

/-- The obligation of a number in the run; none where `_add_months` raises `ValueError`. -/
def ObligationSpec.obligation (spec : ObligationSpec) (fromDate : Date) (k : Nat) :
    Option GeneratedObligation :=
  (fromDate.addMonths (k * frequencyMonths spec.frequency)).map fun dueDate =>
    ⟨k, dueDate, spec.frequency, spec.requirementTextVi⟩

/-- `generate_obligations`; none where it raises `ValueError`. -/
def generateObligations (spec : ObligationSpec) (fromDate : Date) (count : Int) :
    Option (List GeneratedObligation) :=
  if count < 1 then none
  else (List.range' 1 count.toNat).mapM (spec.obligation fromDate)

/-- The months from the anchor to the due dates of a run. -/
def obligationMonths (spec : ObligationSpec) (count : Nat) : List Nat :=
  (List.range' 1 count).map (· * frequencyMonths spec.frequency)

theorem frequencyMonths_pos (frequency : ObligationFrequency) : 0 < frequencyMonths frequency := by
  cases frequency <;> decide

variable {spec : ObligationSpec} {fromDate : Date}

theorem obligation_eq_some {k : Nat} {obligation : GeneratedObligation}
    (h : spec.obligation fromDate k = some obligation) :
    obligation.sequence = k ∧
      Date.MonthsAfter fromDate (k * frequencyMonths spec.frequency) obligation.dueDate := by
  obtain ⟨_, hdate, rfl⟩ := Option.map_eq_some_iff.1 h
  exact ⟨rfl, Date.addMonths_eq_some_iff.1 hdate⟩

theorem exists_obligation_iff {k : Nat} :
    (∃ obligation, spec.obligation fromDate k = some obligation) ↔
      (fromDate.monthIndex + k * frequencyMonths spec.frequency) / 12 ≤ 9999 := by
  have hmonth := fromDate.monthInRange
  have hyear : fromDate.year + (fromDate.month - 1 + k * frequencyMonths spec.frequency) / 12 =
      (fromDate.monthIndex + k * frequencyMonths spec.frequency) / 12 := by
    unfold Date.monthIndex
    omega
  rw [← hyear, ← Date.addMonths_isSome_iff, ← Option.isSome_iff_exists, ObligationSpec.obligation,
    Option.isSome_map]

variable {count : Int}

/-- **When a run exists.** It has an obligation and its last due date does not leave year 9999. -/
theorem exists_generateObligations_iff :
    (∃ obligations, generateObligations spec fromDate count = some obligations) ↔
      1 ≤ count ∧
        (fromDate.monthIndex + count.toNat * frequencyMonths spec.frequency) / 12 ≤ 9999 := by
  unfold generateObligations
  by_cases hcount : count < 1
  · rw [if_pos hcount]
    constructor
    · rintro ⟨_, h⟩
      cases h
    · rintro ⟨_, -⟩
      omega
  · rw [if_neg hcount, exists_mapM_eq_some]
    simp only [exists_obligation_iff, List.mem_range'_1]
    constructor
    · intro h
      exact ⟨by omega, h count.toNat (by omega)⟩
    · rintro ⟨-, _⟩ k _
      -- the dates grow, so the last one decides
      have hmul : k * frequencyMonths spec.frequency ≤ count.toNat * frequencyMonths spec.frequency :=
        Nat.mul_le_mul_right _ (by omega)
      omega

/-- What a run holds: one obligation a number, each due that many periods after the anchor. -/
theorem generateObligations_eq_some {obligations : List GeneratedObligation}
    (h : generateObligations spec fromDate count = some obligations) :
    obligations.map (·.sequence) = List.range' 1 count.toNat ∧
      Date.KeepsAnchor fromDate (obligationMonths spec count.toNat) (obligations.map (·.dueDate)) := by
  unfold generateObligations at h
  split at h
  · cases h
  have heach := mapM_eq_some.1 h
  constructor
  · rw [← List.map_id (List.range' 1 count.toNat)]
    exact map_eq_of_forall₂ heach fun hof => (obligation_eq_some hof).1
  · apply Date.keepsAnchor_of_each
    · rw [obligationMonths, List.pairwise_map]
      apply List.Pairwise.imp _ List.pairwise_lt_range'
      intro k later hlt
      exact Nat.mul_lt_mul_of_pos_right hlt (frequencyMonths_pos _)
    · rw [obligationMonths, List.forall₂_map_left_iff, List.forall₂_map_right_iff]
      exact heach.imp fun k obligation hof => (obligation_eq_some hof).2

/-- **Due dates do not drift.** A run whose last date is within year 9999 exists, and its dates are whole
periods after the month of the anchor, each clamped for itself, and grow; so do the dates of the
installments of a facility, a month apart from the first payment date on. -/
theorem dueDates_keepAnchor (spec : ObligationSpec) (fromDate : Date) (count : Nat)
    (hcount : 1 ≤ count)
    (hyear : (fromDate.monthIndex + count * frequencyMonths spec.frequency) / 12 ≤ 9999)
    (facility : Facility) (installments : List ExpectedInstallment)
    (hbuild : facility.buildExpectedInstallments = .ok installments) :
    (∃ obligations, generateObligations spec fromDate count = some obligations ∧
      obligations.map (·.sequence) = List.range' 1 count ∧
      Date.KeepsAnchor fromDate (obligationMonths spec count) (obligations.map (·.dueDate))) ∧
    Date.KeepsAnchor facility.firstPaymentDate (List.range facility.termMonths)
      (installments.map (·.dueDate)) := by
  have hpos : 1 ≤ (count : Int) := by exact_mod_cast hcount
  obtain ⟨obligations, hrun⟩ := exists_generateObligations_iff.2 ⟨hpos, hyear⟩
  obtain ⟨hsequence, hdates⟩ := generateObligations_eq_some hrun
  rw [Int.toNat_natCast] at hsequence hdates
  exact ⟨⟨obligations, hrun, hsequence, hdates⟩, installments_keepAnchor hbuild⟩

/-- Three months from the last day of January 2028 on, where the clamped February leaves March alone, and
the one installment of the sample loan. -/
theorem dueDates_keepAnchor_january :
    ∃ installments, sampleFacility.buildExpectedInstallments = .ok installments ∧
      (∃ obligations, generateObligations ⟨.monthly, "bao cao", by decide⟩
          ⟨2028, 1, 31, by decide, by decide, by decide⟩ 3 = some obligations ∧
        obligations.map (·.sequence) = [1, 2, 3] ∧
        Date.KeepsAnchor ⟨2028, 1, 31, by decide, by decide, by decide⟩ [1, 2, 3]
          (obligations.map (·.dueDate))) ∧
      Date.KeepsAnchor ⟨2026, 1, 31, by decide, by decide, by decide⟩ [0]
        (installments.map (·.dueDate)) := by
  obtain ⟨_, hok, -⟩ := samplePaid_eq_some
    (show samplePaid ⟨1000, -2⟩ (by decide) =
      some (⟨1000, -2⟩, ⟨0, -2⟩, [⟨0, -2⟩, ⟨0, -2⟩, ⟨1000, -2⟩]) by decide +kernel)
  obtain ⟨_, installments, _, _, hbuild, -⟩ := applyEvents_eq_ok hok
  exact ⟨installments, hbuild, dueDates_keepAnchor ⟨.monthly, "bao cao", by decide⟩
    ⟨2028, 1, 31, by decide, by decide, by decide⟩ 3 (by decide) (by decide) sampleFacility
    installments hbuild⟩

end CreditOps.Monitoring
