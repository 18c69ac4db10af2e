import CreditOps.Domain.Api
import CreditOps.Domain.Money
import CreditOps.Domain.Text

/-!
# Settlement and recovery

The two branches after the repayment of a facility. A settlement opens on a ledger without a balance and
without open exceptions, a recovery on a balance whose shortfall has lasted; both are derived from what
the request supplies. Amounts come as text and are kept as text; a zero is kept as the one text `"0"`.
-/

set_option autoImplicit false

namespace CreditOps.SettlementRecovery

/-- `SUSTAINED_SHORTFALL_PERIODS` -/
def sustainedShortfallPeriods : Nat := 3

/-! ## Amounts -/

/-- An amount as it is kept: the text, and what `Decimal` reads from it. -/
structure LedgerAmount where
  text : String
  value : Decimal
  nonneg : 0 ≤ value.coefficient
  canonical : value.coefficient = 0 → text = "0"

/-- The amount is a decimal zero. -/
def LedgerAmount.isZero (amount : LedgerAmount) : Bool :=
  amount.value.coefficient = 0

/-- `_canonical_nonneg_amount`; `decimal` is the constructor `Decimal` on a stripped text. -/
def canonicalNonnegAmount (decimal : String → ParsedDecimal) (raw : String) : Option LedgerAmount :=
  match decimal (strip raw) with
  | .invalid | .special => none
  | .finite value =>
    if hneg : value.coefficient < 0 then none
    else if hzero : value.coefficient = 0 then some ⟨"0", 0, le_refl _, fun _ => rfl⟩
    else some ⟨strip raw, value, not_lt.1 hneg, fun h => absurd h hzero⟩

/-! ## Derivations -/

/-- `SettlementLedgerInputs` -/
structure SettlementLedgerInputs where
  outstandingPrincipal : LedgerAmount
  outstandingInterest : LedgerAmount
  outstandingFees : LedgerAmount
  openExceptionCount : Nat

/-- `RecoveryTriggerInputs` -/
structure RecoveryTriggerInputs where
  outstandingTotal : LedgerAmount
  periodsInShortfall : Nat

/-- `SettlementEligibility` -/
structure SettlementEligibility where
  eligible : Bool
  zeroBalance : Bool
  outstandingPrincipal : String
  outstandingInterest : String
  outstandingFees : String
  openExceptionCount : Nat
deriving DecidableEq

/-- `RecoveryTriggerAssessment` -/
structure RecoveryTriggerAssessment where
  triggered : Bool
  outstandingTotal : String
  periodsInShortfall : Nat
  thresholdPeriods : Nat
deriving DecidableEq

/-- `derive_settlement_eligible` -/
def deriveSettlementEligible (inputs : SettlementLedgerInputs) : SettlementEligibility :=
  let zeroBalance := inputs.outstandingPrincipal.isZero && inputs.outstandingInterest.isZero &&
    inputs.outstandingFees.isZero
  { eligible := zeroBalance && inputs.openExceptionCount = 0
    zeroBalance
    outstandingPrincipal := inputs.outstandingPrincipal.text
    outstandingInterest := inputs.outstandingInterest.text
    outstandingFees := inputs.outstandingFees.text
    openExceptionCount := inputs.openExceptionCount }

/-- `derive_recovery_trigger` -/
def deriveRecoveryTrigger (inputs : RecoveryTriggerInputs) (thresholdPeriods : Nat) :
    RecoveryTriggerAssessment where
  triggered := !inputs.outstandingTotal.isZero && thresholdPeriods ≤ inputs.periodsInShortfall
  outstandingTotal := inputs.outstandingTotal.text
  periodsInShortfall := inputs.periodsInShortfall
  thresholdPeriods

/-! ## Rows -/

/-- The labelled mock receipts of a settlement. -/
inductive SettlementReceiptKind where
  | mockClosure
  | mockRelease
deriving DecidableEq

/-- `MOCK_SETTLEMENT_RECEIPTS` -/
def mockSettlementReceipts : List SettlementReceiptKind :=
  [.mockClosure, .mockRelease]

/-- `_MOCK_RECEIPT_NOTES` -/
def mockReceiptNote : SettlementReceiptKind → String
  | .mockClosure => "Tất toán khoản vay (chứng từ mô phỏng)."
  | .mockRelease => "Giải chấp và xóa đăng ký biện pháp bảo đảm (chứng từ mô phỏng)."

/-- One row of `settlement_checks`. -/
structure SettlementCheck where
  id : Uuid
  outstandingPrincipal : String
  outstandingInterest : String
  outstandingFees : String
  openExceptionCount : Nat
  zeroBalanceConfirmed : Bool
  recordedBy : Uuid
  createdAt : Timestamp
deriving DecidableEq

/-- One row of `settlement_receipts`. -/
structure SettlementReceipt where
  settlementCheckId : Uuid
  kind : SettlementReceiptKind
  noteVi : String
  recordedBy : Uuid
deriving DecidableEq

/-- The status of a recovery case. -/
inductive RecoveryStatus where
  | preparing
  | strategyApproved
deriving DecidableEq

/-- The stored text of a status. -/
def RecoveryStatus.value : RecoveryStatus → String
  | .preparing => "PREPARING"
  | .strategyApproved => "STRATEGY_APPROVED"

/-- `RecoveryOption` -/
structure RecoveryOption where
  labelVi : String
  descriptionVi : String
  consequencesVi : String
  dependenciesVi : Option String
deriving DecidableEq

/-- One row of `recovery_cases`, with the check constraints of the table: `recovery_cases_approved_shape`
and `recovery_cases_approver_differs`. -/
structure RecoveryCase where
  id : Uuid
  triggerSummaryVi : String
  escalatedBy : Uuid
  escalationRationaleVi : String
  status : RecoveryStatus
  evidenceRefs : List String
  options : List RecoveryOption
  approvedBy : Option Uuid
  shape : status = .preparing ↔ approvedBy = none
  differs : approvedBy ≠ some escalatedBy

/-- The update of `approve_recovery_strategy`: the trigger lets only a case in preparation be approved,
and the check constraint refuses the escalator. -/
def RecoveryCase.approve (recovery : RecoveryCase) (approvedBy : Uuid) : Except SqlError RecoveryCase :=
  if recovery.status = .preparing then
    if h : approvedBy = recovery.escalatedBy then
      .error (.checkViolation "recovery_cases_approver_differs")
    else
      .ok
        { recovery with
          status := .strategyApproved
          approvedBy := some approvedBy
          shape := by simp only [reduceCtorEq]
          differs := fun hsame => h (Option.some.inj hsame) }
  else
    .error (.checkViolation
      ("forbidden recovery case transition " ++ recovery.status.value ++ " -> STRATEGY_APPROVED"))

/-- What an approval changes. -/
theorem RecoveryCase.approve_eq_ok {recovery approved : RecoveryCase} {approvedBy : Uuid}
    (h : recovery.approve approvedBy = .ok approved) :
    recovery.status = .preparing ∧ approvedBy ≠ recovery.escalatedBy ∧ approved.id = recovery.id ∧
      approved.escalatedBy = recovery.escalatedBy ∧ approved.status = .strategyApproved ∧
      approved.approvedBy = some approvedBy := by
  unfold RecoveryCase.approve at h
  split at h
  · rename_i hpreparing
    split at h
    · cases h
    rename_i hdiffers
    cases h
    exact ⟨hpreparing, hdiffers, rfl, rfl, rfl, rfl⟩
  · cases h

theorem RecoveryCase.exists_approve {recovery : RecoveryCase} {approvedBy : Uuid}
    (hpreparing : recovery.status = .preparing) (hdiffers : approvedBy ≠ recovery.escalatedBy) :
    ∃ approved, recovery.approve approvedBy = .ok approved := by
  rw [RecoveryCase.approve, if_pos hpreparing, dif_neg hdiffers]
  exact ⟨_, rfl⟩

end CreditOps.SettlementRecovery
