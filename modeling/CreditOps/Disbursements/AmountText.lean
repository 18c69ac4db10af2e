import CreditOps.Disbursements.Endpoints
import CreditOps.Domain.DecimalText

/-!
# The text of an amount

The amount of a proposed disbursement comes as text, is parsed exactly, and is stored as text again, in plain
notation. Whatever notation it came in (an exponent, a sign, underscores, the digits of another script),
what is stored passes the check of the table and is parsed as the same amount (`amountText_roundTrip`).
-/

set_option autoImplicit false

namespace CreditOps.Disbursements

open DecimalNumeral

/-- What `parse_exact_amount` raises; the text of the first one quotes the input. -/
inductive AmountError where
  | malformed (text : String)
  | notFinite
  | notPositive
deriving DecidableEq

/-- `parse_exact_amount` -/
def parseExactAmount (text : String) : Except AmountError Decimal :=
  match decimalOf (strip text) with
  | .invalid => .error (.malformed text)
  | .special => .error .notFinite
  | .finite amount => if amount ≤ 0 then .error .notPositive else .ok amount

/-- `amount_text` -/
def amountText (amount : Decimal) : String :=
  amount.formatPlain

/-- The pattern `^[0-9]+(\.[0-9]+)?$` of the check on `amount_text`. -/
def matchesAmountCheck (text : String) : Bool :=
  let whole := readDigits text.toList
  match whole.2 with
  | [] => whole.1 ≠ []
  | '.' :: fraction => whole.1 ≠ [] ∧ fraction ≠ [] ∧ fraction.all Char.isDigit
  | _ => false

example : matchesAmountCheck "10.50" = true := by decide
example : matchesAmountCheck "1." = false := by decide
example : matchesAmountCheck "-1" = false := by decide

theorem parseExactAmount_eq_ok {text : String} {amount : Decimal} :
    parseExactAmount text = .ok amount ↔ decimalOf (strip text) = .finite amount ∧ 0 < amount := by
  unfold parseExactAmount
  cases decimalOf (strip text) with
  | invalid | special => simp
  | finite value =>
    simp only [ParsedDecimal.finite.injEq]
    split
    · rename_i hle
      simp only [reduceCtorEq, false_iff, not_and]
      rintro rfl
      exact not_lt.2 (Decimal.le_def.1 hle)
    · rename_i hpos
      simp only [Except.ok.injEq, iff_self_and]
      rintro rfl
      exact not_le.1 fun hle => hpos (Decimal.le_def.2 hle)

/-- Plain notation matches the check. -/
theorem matchesAmountCheck_formatPlain {d : Decimal} (hd : 0 ≤ d.coefficient) :
    matchesAmountCheck d.formatPlain = true := by
  obtain ⟨_, fraction, hwhole, hfraction, hne, hchars, -, -⟩ := Decimal.formatPlain_spec hd
  have hpoint : NoDigitFirst (if fraction = [] then [] else '.' :: fraction) := by
    intro c hc
    split at hc
    · cases hc
    obtain rfl : '.' = c := Option.some.inj hc
    decide
  unfold matchesAmountCheck
  rw [hchars, readDigits_append hwhole hpoint]
  by_cases hnil : fraction = []
  · simp only [hnil, if_true]
    exact decide_eq_true hne
  · simp only [hnil, if_false]
    exact decide_eq_true ⟨hne, hnil, List.all_eq_true.2 hfraction⟩

/-- **The text of an amount.** What is stored for a parsed amount passes the check of the table, and is
parsed as an equal, positive amount. -/
theorem amountText_roundTrip {text : String} {amount : Decimal}
    (h : parseExactAmount text = .ok amount) :
    matchesAmountCheck (amountText amount) = true ∧
      ∃ again, parseExactAmount (amountText amount) = .ok again ∧ again.toRat = amount.toRat ∧
        0 < again.toRat := by
  obtain ⟨hparsed, hpos⟩ := parseExactAmount_eq_ok.1 h
  rw [Decimal.lt_def, Decimal.toRat_zero] at hpos
  have hnn : 0 ≤ amount.coefficient := Decimal.toRat_nonneg_iff.1 hpos.le
  have hagain := decimalOf_formatPlain hnn (withinLimits_of_decimalOf hparsed)
  have hstrip : strip amount.formatPlain = amount.formatPlain :=
    strip_of_noSpace fun c hc => (plain_formatPlain hnn c hc).spec.1
  refine ⟨matchesAmountCheck_formatPlain hnn, amount.positional, ?_, ?_, ?_⟩
  · rw [parseExactAmount_eq_ok, amountText, hstrip, Decimal.lt_def, Decimal.toRat_positional,
      Decimal.toRat_zero]
    exact ⟨hagain, hpos⟩
  · exact Decimal.toRat_positional amount
  · rw [Decimal.toRat_positional]
    exact hpos

theorem amountText_fifteenHundred :
    parseExactAmount " +1_5e2 " = .ok ⟨15, 2⟩ ∧ matchesAmountCheck (amountText ⟨15, 2⟩) = true ∧
      ∃ again, parseExactAmount (amountText ⟨15, 2⟩) = .ok again ∧
        again.toRat = Decimal.toRat ⟨15, 2⟩ ∧ 0 < again.toRat := by
  have hparse : parseExactAmount " +1_5e2 " = .ok ⟨15, 2⟩ := by decide +kernel
  exact ⟨hparse, amountText_roundTrip hparse⟩

end CreditOps.Disbursements
