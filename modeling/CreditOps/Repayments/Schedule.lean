import Mathlib.Data.String.Basic
import CreditOps.Library.DecimalRounding
import CreditOps.Library.Waterfall
import CreditOps.Domain.Calendar
import CreditOps.Domain.Text

/-!
# Repayment schedules

A facility's schedule is derived from its principal, rate, term and style by the debt-service calculator
and is never stored. Money is rounded half up to the cent, in a decimal context of twenty-eight digits.
The equal instalments of a facility are rounded one by one, and the last row repays the opening balance
that is left, whatever its sign.
-/

set_option autoImplicit false

namespace CreditOps.Repayments

/-! ## Money -/

/-- The digits of the default decimal context. -/
def contextPrecision : Nat := 28

/-- The exponent of `Decimal("0.01")`. -/
def moneyExponent : Int := -2

/-- What the ledger raises. -/
inductive LedgerFault where
  /-- `CalculatorValidationError` -/
  | calculatorValidation (message : String)
  /-- `decimal.InvalidOperation`, from `quantize` -/
  | invalidOperation
  /-- `ValueError`, from `date` -/
  | yearOutOfRange
  /-- `RepaymentLedgerError` -/
  | repaymentLedger (message : String)
deriving DecidableEq

/-- `_money` and `_quantize_money`: half up to the cent. -/
def quantizeMoney (value : Decimal) : Except LedgerFault Decimal :=
  match value.quantize contextPrecision .halfUp moneyExponent with
  | some result => .ok result
  | none => .error .invalidOperation

/-- `Decimal("0.00")` -/
def zeroMoney : Decimal := ⟨0, moneyExponent⟩

/-! ## Calculator inputs -/

inductive FactKind where
  | confirmedFact
  | documentRegion
deriving DecidableEq

def FactKind.value : FactKind → String
  | .confirmedFact => "CONFIRMED_FACT"
  | .documentRegion => "DOCUMENT_REGION"

/-- `FactRef`: the evidence an input was read from. -/
structure FactRef where
  kind : FactKind
  refId : String
  refIdNonempty : refId ≠ ""
deriving DecidableEq

/-- `CalculatorInput` -/
structure CalculatorInput where
  name : String
  value : Option Decimal
  factRefs : List FactRef
  nameNonempty : name ≠ ""
deriving DecidableEq

inductive CalculatorOutcome where
  | computed (value : Decimal)
  | notComputable (reason : String)
deriving DecidableEq

/-- `_canonical` -/
def canonical : Option Decimal → String
  | none => "null"
  | some value => (value.normalize contextPrecision).formatPlain

/-- The reference as it enters the result id. -/
def FactRef.text (ref : FactRef) : String :=
  ref.kind.value ++ ":" ++ ref.refId

/-- `_result_id` -/
def resultId (calculator : String) (inputs : List CalculatorInput) : String :=
  let parts := (inputs.insertionSort fun a b => a.name ≤ b.name).map fun input =>
    let refs := input.factRefs.insertionSort fun a b =>
      a.kind.value < b.kind.value ∨ (a.kind.value = b.kind.value ∧ a.refId ≤ b.refId)
    input.name ++ "=" ++ canonical input.value ++ "[" ++ ",".intercalate (refs.map (·.text)) ++ "]"
  "calc_" ++ String.ofList ((sha256Hex ("|".intercalate (calculator :: parts))).toList.take 32)

/-- `_missing` -/
def missing (inputs : List CalculatorInput) : Option String :=
  let names := (inputs.filter (·.value.isNone)).map (·.name)
  if names = [] then none
  else some ("not computable: missing input " ++
    ", ".intercalate (names.insertionSort fun a b => a ≤ b))

/-- `_reject_negative` -/
def rejectNegative (input : CalculatorInput) : Except LedgerFault Unit :=
  match input.value with
  | none => .ok ()
  | some value =>
    if value < 0 then
      .error (.calculatorValidation (input.name ++ " must be non-negative, got " ++ value.toText))
    else .ok ()

/-- `_validate_term` -/
def validateTerm (input : CalculatorInput) : Except LedgerFault Unit :=
  match input.value with
  | none => .ok ()
  | some value =>
    if value < value.toIntegralValue ∨ value.toIntegralValue < value then
      .error (.calculatorValidation
        (input.name ++ " must be a whole number of months, got " ++ value.toText))
    else if value ≤ 0 then
      .error (.calculatorValidation (input.name ++ " must be positive, got " ++ value.toText))
    else .ok ()

/-! ## The debt-service schedule -/

inductive RepaymentStyle where
  | equalPrincipal
  | balloon
deriving DecidableEq

def RepaymentStyle.value : RepaymentStyle → String
  | .equalPrincipal => "EQUAL_PRINCIPAL"
  | .balloon => "BALLOON"

/-- `DebtServiceRow` -/
structure DebtServiceRow where
  period : Nat
  principal : Decimal
  interest : Decimal
  balance : Decimal
deriving DecidableEq

/-- `DebtServiceSchedule` -/
structure DebtServiceSchedule where
  resultId : String
  repaymentStyle : RepaymentStyle
  inputs : List CalculatorInput
  outcome : CalculatorOutcome
  rows : List DebtServiceRow
deriving DecidableEq

/-- What a row repays of the opening balance; `last` is the row of the final period. -/
def principalPaid (style : RepaymentStyle) (last : Bool) (perInstalment opening : Decimal) :
    Except LedgerFault Decimal :=
  match style with
  | .balloon => if last then .ok opening else quantizeMoney 0
  | .equalPrincipal => if last then .ok opening else .ok perInstalment

/-- The loop over the periods, with the number of periods left. -/
def scheduleRows (style : RepaymentStyle) (monthlyRate perInstalment : Decimal) (term : Nat) :
    Nat → Decimal → Except LedgerFault (List DebtServiceRow)
  | 0, _ => .ok []
  | left + 1, opening => do
    let interest ← quantizeMoney (opening.mul contextPrecision monthlyRate)
    let principal ← principalPaid style (left = 0) perInstalment opening
    let balance ← quantizeMoney (opening.sub contextPrecision principal)
    let rows ← scheduleRows style monthlyRate perInstalment term left balance
    return ⟨term - left, principal, interest, balance⟩ :: rows

/-- `annual_rate_percent / 100 / 12` -/
def monthlyRate (annualRatePercent : Decimal) : Decimal :=
  (annualRatePercent.div contextPrecision 100).div contextPrecision 12

/-- The rows for three present inputs. -/
def computeRows (style : RepaymentStyle) (principal annualRatePercent termMonths : Decimal) :
    Except LedgerFault (List DebtServiceRow) := do
  let term := termMonths.toInt.toNat
  let balance ← quantizeMoney principal
  let perInstalment ← quantizeMoney (balance.div contextPrecision (.ofInt term))
  scheduleRows style (monthlyRate annualRatePercent) perInstalment term term balance

/-- `debt_service_schedule` -/
def debtServiceSchedule (principal annualRatePercent termMonths : CalculatorInput)
    (style : RepaymentStyle) : Except LedgerFault DebtServiceSchedule := do
  rejectNegative principal
  rejectNegative annualRatePercent
  validateTerm termMonths
  let inputs := [principal, annualRatePercent, termMonths]
  let id := resultId ("debt_service_schedule:" ++ style.value) inputs
  match principal.value, annualRatePercent.value, termMonths.value with
  | some principal, some rate, some term =>
    let rows ← computeRows style principal rate term
    let total := rows.foldl (fun sum row =>
      sum.add contextPrecision (row.principal.add contextPrecision row.interest)) 0
    return ⟨id, style, inputs, .computed total, rows⟩
  | _, _, _ => return ⟨id, style, inputs, .notComputable ((missing inputs).getD ""), []⟩

/-! ## What the rows are -/

open Decimal Results

/-- A number at the exponent of the cent. -/
def Cents (value : Decimal) : Prop :=
  value.exponent = moneyExponent

/-- The cent. -/
def cent : ℚ := unit moneyExponent

/-- Where rounding to the cent starts to need more digits than the context has. -/
def moneyLimit : ℚ := (10 ^ contextPrecision - 1 / 2) * cent

theorem cent_pos : 0 < cent :=
  unit_pos _

@[simp] theorem toRat_zeroMoney : zeroMoney.toRat = 0 := by
  simp only [zeroMoney, toRat, Int.cast_zero, zero_mul]

variable {a b rate value result opening principal perInstalment : Decimal}

theorem quantizeMoney_eq_ok :
    quantizeMoney value = .ok result ↔
      value.quantize contextPrecision .halfUp moneyExponent = some result := by
  unfold quantizeMoney
  split
  · rename_i hsome
    rw [hsome, Except.ok.injEq, Option.some.injEq]
  · rename_i hnone
    rw [hnone]
    simp only [reduceCtorEq]

theorem exists_quantizeMoney :
    (∃ result, quantizeMoney value = .ok result) ↔ |value.toRat| < moneyLimit := by
  simp only [quantizeMoney_eq_ok, ← Option.isSome_iff_exists]
  exact quantize_isSome_iff

theorem exists_quantizeMoney_round (value : Decimal) :
    (∃ result, quantizeMoney (value.round contextPrecision) = .ok result) ↔
      |value.toRat| < moneyLimit := by
  simp only [quantizeMoney_eq_ok, ← Option.isSome_iff_exists]
  exact quantize_round_isSome_iff (by decide)

theorem cents_of_quantizeMoney (h : quantizeMoney value = .ok result) :
    Cents result := by
  obtain ⟨-, rfl⟩ := quantize_eq_some.1 (quantizeMoney_eq_ok.1 h)
  exact rescale_exponent _ _ _

theorem fits_of_quantizeMoney (h : quantizeMoney value = .ok result) :
    result.Fits contextPrecision := by
  obtain ⟨hfits, rfl⟩ := quantize_eq_some.1 (quantizeMoney_eq_ok.1 h)
  exact hfits

theorem toRat_quantizeMoney (hvalue : 0 ≤ value.toRat) (h : quantizeMoney value = .ok result) :
    result.toRat = Waterfall.halfUp cent value.toRat := by
  obtain ⟨-, rfl⟩ := quantize_eq_some.1 (quantizeMoney_eq_ok.1 h)
  exact toRat_rescale_halfUp hvalue _

theorem quantizeMoney_nonneg (hvalue : 0 ≤ value.toRat) (h : quantizeMoney value = .ok result) :
    0 ≤ result.toRat := by
  rw [toRat_quantizeMoney hvalue h]
  exact Waterfall.halfUp_nonneg cent_pos hvalue

theorem Cents.mem (h : Cents value) : value.toRat ∈ AddSubgroup.zmultiples cent := by
  refine AddSubgroup.mem_zmultiples_iff.2 ⟨value.coefficient, ?_⟩
  rw [zsmul_eq_mul, toRat, cent, unit, h]

theorem Cents.fits_iff (h : Cents value) :
    value.Fits contextPrecision ↔ |value.toRat| < moneyLimit := by
  have hvalue : value.rescale .halfUp moneyExponent = value := by
    rw [← h, rescale_exponent_self]
  rw [← exists_quantizeMoney]
  simp only [quantizeMoney_eq_ok, quantize_eq_some, hvalue, exists_eq_right']

theorem toRat_quantizeMoney_sub (ha : Cents a) (hb : Cents b)
    (h : quantizeMoney (a.sub contextPrecision b) = .ok result) :
    result.toRat = a.toRat - b.toRat := by
  have hexp : (a.addExact b.negExact).exponent = moneyExponent := by
    show min a.exponent b.exponent = moneyExponent
    rw [ha, hb, min_self]
  have hexact := quantize_round_eq (by decide) hexp (quantizeMoney_eq_ok.1 h)
  rw [hexact, toRat_addExact, toRat_negExact, sub_eq_add_neg]

theorem exists_quantizeMoney_sub :
    (∃ result, quantizeMoney (a.sub contextPrecision b) = .ok result) ↔
      |a.toRat - b.toRat| < moneyLimit := by
  have hround := exists_quantizeMoney_round (a.addExact b.negExact)
  rw [toRat_addExact, toRat_negExact, ← sub_eq_add_neg] at hround
  exact hround

theorem exists_quantizeMoney_mul :
    (∃ result, quantizeMoney (a.mul contextPrecision b) = .ok result) ↔
      |a.toRat * b.toRat| < moneyLimit := by
  have hround := exists_quantizeMoney_round
    ⟨a.coefficient * b.coefficient, a.exponent + b.exponent⟩
  rw [toRat_mulExact] at hround
  exact hround

/-- What is left of the balance for the last of `left` rows. -/
def lastOpening (style : RepaymentStyle) (perInstalment : ℚ) (left : Nat) (opening : ℚ) : ℚ :=
  match style with
  | .balloon => opening
  | .equalPrincipal => opening - (left - 1) * perInstalment

variable {style : RepaymentStyle} {left term : Nat}

/-- **One turn of the loop.** -/
theorem scheduleRows_succ {rows : List DebtServiceRow} :
    scheduleRows style rate perInstalment term (left + 1) opening = .ok rows ↔
      ∃ interest principal balance rest,
        quantizeMoney (opening.mul contextPrecision rate) = .ok interest ∧
        principalPaid style (left = 0) perInstalment opening = .ok principal ∧
        quantizeMoney (opening.sub contextPrecision principal) = .ok balance ∧
        scheduleRows style rate perInstalment term left balance = .ok rest ∧
        rows = ⟨term - left, principal, interest, balance⟩ :: rest := by
  rw [scheduleRows, bind_eq_ok]
  constructor
  · rintro ⟨interest, hint, h⟩
    obtain ⟨principal, hprin, h⟩ := bind_eq_ok.1 h
    obtain ⟨balance, hbal, h⟩ := bind_eq_ok.1 h
    obtain ⟨rest, hrest, h⟩ := bind_eq_ok.1 h
    cases h
    exact ⟨interest, principal, balance, rest, hint, hprin, hbal, hrest, rfl⟩
  · rintro ⟨interest, principal, balance, rest, hint, hprin, hbal, hrest, rfl⟩
    refine ⟨interest, hint, bind_eq_ok.2 ⟨principal, hprin, bind_eq_ok.2 ⟨balance, hbal, ?_⟩⟩⟩
    exact bind_eq_ok.2 ⟨rest, hrest, rfl⟩

theorem principalPaid_false (h : principalPaid style false perInstalment opening = .ok principal) :
    (style = .balloon ∧ principal = zeroMoney) ∨ (style = .equalPrincipal ∧ principal = perInstalment) := by
  cases style with
  | balloon => exact Or.inl ⟨rfl, (Except.ok.inj h).symm⟩
  | equalPrincipal => exact Or.inr ⟨rfl, (Except.ok.inj h).symm⟩

theorem principalPaid_true :
    principalPaid style true perInstalment opening = .ok opening := by
  cases style <;> rfl

theorem principalPaid_cents {last : Bool} (hopening : Cents opening) (hinst : Cents perInstalment)
    (h : principalPaid style last perInstalment opening = .ok principal) : Cents principal := by
  cases last with
  | true =>
    rw [principalPaid_true] at h
    cases h
    exact hopening
  | false =>
    rcases principalPaid_false h with ⟨-, rfl⟩ | ⟨-, rfl⟩
    · rfl
    · exact hinst

/-- **Every row is on the cent.** -/
theorem scheduleRows_cents (hinst : Cents perInstalment) (left : Nat) :
    ∀ {opening : Decimal} {rows : List DebtServiceRow}, Cents opening →
      scheduleRows style rate perInstalment term left opening = .ok rows →
      ∀ row ∈ rows, Cents row.principal ∧ Cents row.interest := by
  induction left with
  | zero =>
    intro opening rows _ h row hrow
    cases h
    cases hrow
  | succ _ ih =>
    intro opening rows hopening h row hrow
    obtain ⟨_, _, _, _, hint, hprin, hbal, hrest, rfl⟩ :=
      scheduleRows_succ.1 h
    rcases List.mem_cons.1 hrow with rfl | htail
    · exact ⟨principalPaid_cents hopening hinst hprin, cents_of_quantizeMoney hint⟩
    · exact ih (cents_of_quantizeMoney hbal) hrest row htail

/-- The rows before the last one leave the last opening as it was. -/
theorem lastOpening_step (left : Nat) {balance : Decimal} (hopening : Cents opening)
    (hinst : Cents perInstalment)
    (hprin : principalPaid style false perInstalment opening = .ok principal)
    (hbal : quantizeMoney (opening.sub contextPrecision principal) = .ok balance) :
    lastOpening style perInstalment.toRat (left + 1) balance.toRat =
      lastOpening style perInstalment.toRat (left + 1 + 1) opening.toRat := by
  have hcents := principalPaid_cents hopening hinst hprin
  have hvalue := toRat_quantizeMoney_sub hopening hcents hbal
  rcases principalPaid_false hprin with ⟨rfl, rfl⟩ | ⟨rfl, rfl⟩
  · simp only [lastOpening, hvalue, toRat_zeroMoney, sub_zero]
  · simp only [lastOpening, hvalue]
    push_cast
    ring

theorem lastOpening_le {perInstalment opening : ℚ} (hleft : 1 ≤ left) (hinst : 0 ≤ perInstalment) :
    lastOpening style perInstalment left opening ≤ opening := by
  cases style with
  | balloon => exact le_rfl
  | equalPrincipal =>
    have hcast : (1 : ℚ) ≤ left := by exact_mod_cast hleft
    simp only [lastOpening]
    nlinarith

/-- **When no row is negative.** What is left for the last row is not negative. -/
theorem scheduleRows_nonneg_iff (hrate : 0 ≤ rate.toRat) (hcents : Cents perInstalment)
    (hinst : 0 ≤ perInstalment.toRat) (left : Nat) :
    ∀ {opening : Decimal} {rows : List DebtServiceRow}, Cents opening →
      scheduleRows style rate perInstalment term (left + 1) opening = .ok rows →
      ((∀ row ∈ rows, 0 ≤ row.principal.toRat ∧ 0 ≤ row.interest.toRat) ↔
        0 ≤ lastOpening style perInstalment.toRat (left + 1) opening.toRat) := by
  induction left with
  | zero =>
    intro opening rows hopening h
    obtain ⟨_, _, _, _, hint, hprin, -, hrest, rfl⟩ :=
      scheduleRows_succ.1 h
    rw [decide_eq_true rfl, principalPaid_true] at hprin
    cases hprin
    cases hrest
    have hlast : lastOpening style perInstalment.toRat (0 + 1) opening.toRat = opening.toRat := by
      cases style <;> simp [lastOpening]
    rw [hlast, List.forall_mem_singleton]
    constructor
    · exact fun hrow => hrow.1
    · intro hpos
      exact ⟨hpos, quantizeMoney_nonneg (toRat_mul_nonneg (by decide) hpos hrate) hint⟩
  | succ left ih =>
    intro opening rows hopening h
    obtain ⟨_, _, _, _, hint, hprin, hbal, hrest, rfl⟩ :=
      scheduleRows_succ.1 h
    rw [decide_eq_false (Nat.succ_ne_zero left)] at hprin
    have hstep := lastOpening_step left hopening hcents hprin hbal
    rw [List.forall_mem_cons, ih (cents_of_quantizeMoney hbal) hrest, hstep]
    constructor
    · exact fun hrows => hrows.2
    · intro hlast
      have hpos : 0 ≤ opening.toRat := hlast.trans (lastOpening_le (by omega) hinst)
      refine ⟨⟨?_, quantizeMoney_nonneg (toRat_mul_nonneg (by decide) hpos hrate) hint⟩, hlast⟩
      rcases principalPaid_false hprin with ⟨-, rfl⟩ | ⟨-, rfl⟩
      · exact toRat_zeroMoney.ge
      · exact hinst

/-! ## Facilities -/

/-- `Facility`: the terms a schedule is derived from. -/
structure Facility where
  id : Uuid
  caseId : Uuid
  caseVersion : CaseVersion
  decisionId : Uuid
  principal : Decimal
  annualRatePercent : Decimal
  termMonths : Nat
  repaymentStyle : RepaymentStyle
  firstPaymentDate : Date
  periodicFee : Decimal
  versionPositive : 1 ≤ caseVersion
  principalPositive : 0 < principal
  rateNonneg : 0 ≤ annualRatePercent
  termPositive : 1 ≤ termMonths
  feeNonneg : 0 ≤ periodicFee
deriving DecidableEq

/-- `ExpectedInstallment` -/
structure ExpectedInstallment where
  period : Nat
  dueDate : Date
  fee : Decimal
  interest : Decimal
  principal : Decimal
deriving DecidableEq

/-- `ExpectedInstallment.total` -/
def ExpectedInstallment.total (installment : ExpectedInstallment) : Decimal :=
  (installment.fee.add contextPrecision installment.interest).add contextPrecision
    installment.principal

namespace Facility

/-- `build_expected_schedule` -/
def buildExpectedSchedule (facility : Facility) : Except LedgerFault DebtServiceSchedule :=
  debtServiceSchedule
    ⟨"principal", some facility.principal, [], by decide⟩
    ⟨"annual_rate_percent", some facility.annualRatePercent, [], by decide⟩
    ⟨"term_months", some (.ofInt facility.termMonths), [], by decide⟩
    facility.repaymentStyle

/-- The rows of the schedule. -/
def rows (facility : Facility) : Except LedgerFault (List DebtServiceRow) :=
  computeRows facility.repaymentStyle facility.principal facility.annualRatePercent
    (.ofInt facility.termMonths)

/-- The installment of a row. -/
def installment (facility : Facility) (fee : Decimal) (row : DebtServiceRow) :
    Except LedgerFault ExpectedInstallment :=
  match facility.firstPaymentDate.addMonths (row.period - 1) with
  | some dueDate => .ok ⟨row.period, dueDate, fee, row.interest, row.principal⟩
  | none => .error .yearOutOfRange

/-- `build_expected_installments` -/
def buildExpectedInstallments (facility : Facility) :
    Except LedgerFault (List ExpectedInstallment) := do
  let schedule ← facility.buildExpectedSchedule
  let fee ← quantizeMoney facility.periodicFee
  schedule.rows.mapM (facility.installment fee)

/-- The rounded instalments before the last one repay at most the principal. -/
def Amortises (facility : Facility) : Prop :=
  ∀ balance perInstalment, quantizeMoney facility.principal = .ok balance →
    quantizeMoney (balance.div contextPrecision (.ofInt facility.termMonths)) = .ok perInstalment →
    0 ≤ lastOpening facility.repaymentStyle perInstalment.toRat facility.termMonths balance.toRat

end Facility

/-! ## The schedule of a facility -/

variable {input : CalculatorInput}

theorem rejectNegative_of_nonneg (hinput : input.value = some value) (hvalue : 0 ≤ value.toRat) :
    rejectNegative input = .ok () := by
  have hnot : ¬ value < 0 := by
    rw [lt_def, toRat_zero, not_lt]
    exact hvalue
  unfold rejectNegative
  rw [hinput]
  exact if_neg hnot

theorem validateTerm_of_positive {n : Nat} (hn : 1 ≤ n) (hinput : input.value = some (ofInt n)) :
    validateTerm input = .ok () := by
  have hintegral : (ofInt n).toIntegralValue = ofInt n := if_pos le_rfl
  have hpos : ¬ ofInt n ≤ 0 := by
    rw [le_def, toRat_ofInt, toRat_zero, not_le]
    exact_mod_cast hn
  have hself : ¬ (ofInt n < ofInt n) := lt_irrefl (ofInt n).toRat
  unfold validateTerm
  rw [hinput]
  dsimp only
  rw [hintegral, if_neg (not_or.2 ⟨hself, hself⟩), if_neg hpos]

theorem toInt_ofInt (n : Nat) : (ofInt n).toInt.toNat = n := by
  have hvalue : (ofInt n).toInt = n := by
    simp only [toInt, ofInt, coefficientAt, le_refl, if_true, sub_zero, Int.toNat_zero, pow_zero,
      mul_one]
  rw [hvalue, Int.toNat_natCast]

theorem toRat_monthlyRate_nonneg {annualRatePercent : Decimal} (h : 0 ≤ annualRatePercent.toRat) :
    0 ≤ (monthlyRate annualRatePercent).toRat := by
  have hwhole : ∀ n : Nat, 0 ≤ (ofInt n).toRat := by
    intro n
    rw [toRat_ofInt]
    positivity
  exact toRat_div_nonneg (by decide) (toRat_div_nonneg (by decide) h (hwhole 100)) (hwhole 12)

namespace Facility

/-- **The schedule of a facility exists when its rows do.** The validations of the calculator repeat
those of the facility. -/
theorem buildExpectedSchedule_eq (facility : Facility) :
    ∃ schedule : List DebtServiceRow → DebtServiceSchedule,
      (∀ rows, (schedule rows).rows = rows) ∧
        facility.buildExpectedSchedule = facility.rows >>= fun rows => .ok (schedule rows) := by
  have hprin : 0 ≤ facility.principal.toRat := by
    have hpos := facility.principalPositive
    rw [lt_def, toRat_zero] at hpos
    exact hpos.le
  have hrate : 0 ≤ facility.annualRatePercent.toRat := by
    have hnn := facility.rateNonneg
    rwa [le_def, toRat_zero] at hnn
  refine ⟨?_, ?_, ?_⟩
  rotate_right
  · unfold buildExpectedSchedule debtServiceSchedule
    rw [rejectNegative_of_nonneg rfl hprin, rejectNegative_of_nonneg rfl hrate,
      validateTerm_of_positive facility.termPositive rfl]
    rfl
  · intro rows
    rfl

variable {facility : Facility}

theorem rows_eq_ok {rows : List DebtServiceRow} :
    facility.rows = .ok rows ↔ ∃ balance perInstalment,
      quantizeMoney facility.principal = .ok balance ∧
      quantizeMoney (balance.div contextPrecision (.ofInt facility.termMonths)) = .ok perInstalment ∧
      scheduleRows facility.repaymentStyle (monthlyRate facility.annualRatePercent) perInstalment
        facility.termMonths facility.termMonths balance = .ok rows := by
  unfold Facility.rows computeRows
  dsimp only
  rw [toInt_ofInt, bind_eq_ok]
  simp only [bind_eq_ok, exists_and_left]

variable {installments : List ExpectedInstallment}

/-- The installments are the rows with a fee and a due date each. -/
theorem buildExpectedInstallments_eq_ok :
    facility.buildExpectedInstallments = .ok installments ↔ ∃ rows fee,
      facility.rows = .ok rows ∧ quantizeMoney facility.periodicFee = .ok fee ∧
      List.Forall₂ (fun row installment => facility.installment fee row = .ok installment)
        rows installments := by
  obtain ⟨schedule, hrows, hbuild⟩ := facility.buildExpectedSchedule_eq
  unfold buildExpectedInstallments
  rw [hbuild, bind_eq_ok]
  constructor
  · rintro ⟨_, hsched, h⟩
    obtain ⟨rows, hok, hsched⟩ := bind_eq_ok.1 hsched
    cases hsched
    obtain ⟨fee, hfee, hmap⟩ := bind_eq_ok.1 h
    rw [hrows] at hmap
    exact ⟨rows, fee, hok, hfee, mapM_eq_ok.1 hmap⟩
  · rintro ⟨rows, fee, hok, hfee, hmap⟩
    refine ⟨schedule rows, bind_eq_ok.2 ⟨rows, hok, rfl⟩, bind_eq_ok.2 ⟨fee, hfee, ?_⟩⟩
    rw [hrows]
    exact mapM_eq_ok.2 hmap

theorem installment_eq_ok {fee : Decimal} {row : DebtServiceRow} {installment : ExpectedInstallment}
    (h : facility.installment fee row = .ok installment) :
    installment.period = row.period ∧ installment.fee = fee ∧ installment.interest = row.interest ∧
      installment.principal = row.principal := by
  unfold Facility.installment at h
  split at h
  · cases h
    exact ⟨rfl, rfl, rfl, rfl⟩
  · cases h

theorem monthlyRate_nonneg (facility : Facility) :
    0 ≤ (monthlyRate facility.annualRatePercent).toRat := by
  have hrate := facility.rateNonneg
  rw [le_def, toRat_zero] at hrate
  exact toRat_monthlyRate_nonneg hrate

theorem perInstalment_nonneg {balance perInstalment : Decimal}
    (hbal : quantizeMoney facility.principal = .ok balance)
    (hinst : quantizeMoney (balance.div contextPrecision (.ofInt facility.termMonths)) = .ok perInstalment) :
    0 ≤ balance.toRat ∧ 0 ≤ perInstalment.toRat := by
  have hprin := facility.principalPositive
  rw [lt_def, toRat_zero] at hprin
  have hpos := quantizeMoney_nonneg hprin.le hbal
  have hterm : 0 ≤ (ofInt facility.termMonths).toRat := by
    rw [toRat_ofInt]
    positivity
  exact ⟨hpos, quantizeMoney_nonneg (toRat_div_nonneg (by decide) hpos hterm) hinst⟩

/-- **Every expected amount is on the cent.** -/
theorem installments_cents (h : facility.buildExpectedInstallments = .ok installments) :
    ∀ installment ∈ installments,
      Cents installment.fee ∧ Cents installment.interest ∧ Cents installment.principal := by
  obtain ⟨_, _, hrows, hfee, hmap⟩ := buildExpectedInstallments_eq_ok.1 h
  obtain ⟨_, _, hbal, hinst, hsched⟩ := rows_eq_ok.1 hrows
  have hcents := scheduleRows_cents (cents_of_quantizeMoney hinst) _
    (cents_of_quantizeMoney hbal) hsched
  intro installment hmem
  obtain ⟨row, hrow, hof⟩ := Results.exists_left_of_mem hmap hmem
  obtain ⟨-, hf, hi, hp⟩ := installment_eq_ok hof
  rw [hf, hi, hp]
  exact ⟨cents_of_quantizeMoney hfee, (hcents row hrow).2, (hcents row hrow).1⟩

/-- **When no expected amount is negative.** -/
theorem installments_nonneg_iff (h : facility.buildExpectedInstallments = .ok installments) :
    (∀ installment ∈ installments,
      0 ≤ installment.fee.toRat ∧ 0 ≤ installment.interest.toRat ∧ 0 ≤ installment.principal.toRat) ↔
      facility.Amortises := by
  obtain ⟨rows, fee, hrows, hfee, hmap⟩ := buildExpectedInstallments_eq_ok.1 h
  obtain ⟨balance, perInstalment, hbal, hinst, hsched⟩ := rows_eq_ok.1 hrows
  obtain ⟨-, hlevel⟩ := perInstalment_nonneg hbal hinst
  have hfeeNonneg : 0 ≤ fee.toRat := by
    have hnn := facility.feeNonneg
    rw [le_def, toRat_zero] at hnn
    exact quantizeMoney_nonneg hnn hfee
  obtain ⟨left, hleft⟩ : ∃ left, facility.termMonths = left + 1 :=
    ⟨facility.termMonths - 1, by have hterm := facility.termPositive; omega⟩
  have hiff : (∀ row ∈ rows, 0 ≤ row.principal.toRat ∧ 0 ≤ row.interest.toRat) ↔
      0 ≤ lastOpening facility.repaymentStyle perInstalment.toRat facility.termMonths
        balance.toRat := by
    rw [hleft] at hsched ⊢
    exact scheduleRows_nonneg_iff facility.monthlyRate_nonneg (cents_of_quantizeMoney hinst)
      hlevel left (cents_of_quantizeMoney hbal) hsched
  have hamortises : facility.Amortises ↔
      0 ≤ lastOpening facility.repaymentStyle perInstalment.toRat facility.termMonths
        balance.toRat := by
    constructor
    · intro hall
      exact hall balance perInstalment hbal hinst
    · intro hlast balance' perInstalment' hbal' hinst'
      rw [hbal] at hbal'
      cases hbal'
      rw [hinst] at hinst'
      cases hinst'
      exact hlast
  rw [hamortises, ← hiff]
  constructor
  · intro hall row hrow
    obtain ⟨installment, hmem, hof⟩ := Results.exists_right_of_mem hmap hrow
    obtain ⟨-, -, hi, hp⟩ := installment_eq_ok hof
    obtain ⟨-, hint, hprin⟩ := hall installment hmem
    exact ⟨hp ▸ hprin, hi ▸ hint⟩
  · intro hall installment hmem
    obtain ⟨row, hrow, hof⟩ := Results.exists_left_of_mem hmap hmem
    obtain ⟨-, hf, hi, hp⟩ := installment_eq_ok hof
    rw [hf, hi, hp]
    exact ⟨hfeeNonneg, (hall row hrow).2, (hall row hrow).1⟩

end Facility

end CreditOps.Repayments
