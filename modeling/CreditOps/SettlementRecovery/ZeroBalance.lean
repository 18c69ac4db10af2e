import CreditOps.Domain.DecimalText
import CreditOps.SettlementRecovery.Endpoints

/-!
# The zero balance of a settlement

Three places decide whether a settlement check has a zero balance: the derivation and the validator of the
record compare decimals, the constraint of the table compares texts. They agree because a text is accepted
only as one canonical text: an amount of zero, however it is written, is kept as `"0"`, and what is kept for
any other amount is not a zero (`canonical_spec`). Canonicalizing twice changes nothing, so the record keeps
the texts of the inputs, and the three places agree on every request (`zeroBalance_exact`).
-/

set_option autoImplicit false

namespace CreditOps.SettlementRecovery

open SettlementTables

/-! ## The validator and the table -/

/-- `Decimal(text) == 0` -/
def decimalIsZero (decimal : String → ParsedDecimal) (text : String) : Bool :=
  match decimal text with
  | .finite value => value.coefficient = 0
  | .invalid | .special => false

/-- The validators of `SettlementCheck`: the amounts are canonical, and the flag is what they compute. -/
def settlementCheckValid (decimal : String → ParsedDecimal) (principal interest fees : String)
    (zeroBalanceConfirmed : Bool) : Bool :=
  match canonicalNonnegAmount decimal principal, canonicalNonnegAmount decimal interest,
    canonicalNonnegAmount decimal fees with
  | some principal, some interest, some fees =>
    (decimalIsZero decimal principal.text && decimalIsZero decimal interest.text &&
      decimalIsZero decimal fees.text) = zeroBalanceConfirmed
  | _, _, _ => false

/-- `length(btrim(text)) > 0`: only blanks are trimmed. -/
def amountTextPresent (text : String) : Bool :=
  text.toList.any (· ≠ ' ')

/-- The constraint `settlement_checks_zero_balance_consistent`. -/
def zeroBalanceConsistent (principal interest fees : String) (zeroBalanceConfirmed : Bool) : Bool :=
  zeroBalanceConfirmed = (principal = "0" && interest = "0" && fees = "0")

/-! ## Numbers behind the texts -/

/-- The text denotes the number zero. -/
def DenotesZero (text : String) : Prop :=
  ∃ value, decimalOf text = .finite value ∧ value.toRat = 0

/-- All three amounts of a request are zero. -/
def SettlementTables.CheckRequest.AllZero (body : CheckRequest) : Prop :=
  DenotesZero body.outstandingPrincipal ∧ DenotesZero body.outstandingInterest ∧
    DenotesZero body.outstandingFees

theorem decimalOf_strip (text : String) : decimalOf (strip text) = decimalOf text := by
  unfold decimalOf numericAsAscii
  rw [strip_strip]

theorem toRat_eq_zero_iff {value : Decimal} : value.toRat = 0 ↔ value.coefficient = 0 := by
  unfold Decimal.toRat
  rw [mul_eq_zero, Int.cast_eq_zero]
  exact or_iff_left (zpow_ne_zero _ (by norm_num))

/-- A text that a finite decimal is read from is not empty once it is stripped. -/
theorem strip_ne_nil_of_decimalOf {text : String} {value : Decimal}
    (h : decimalOf text = .finite value) : (strip text).toList ≠ [] := by
  intro hnil
  have hnone : numericAsAscii text = some [] := by
    unfold numericAsAscii
    rw [hnil]
    rfl
  have hinvalid : decimalOf text = .invalid := by
    unfold decimalOf
    rw [hnone]
    rfl
  rw [hinvalid] at h
  cases h

theorem amountTextPresent_strip {text : String} (h : (strip text).toList ≠ []) :
    amountTextPresent (strip text) = true := by
  unfold amountTextPresent
  -- a strip leaves no white space at the end
  refine List.any_eq_true.2 ⟨(strip text).toList.getLast h, List.getLast_mem h, decide_eq_true ?_⟩
  intro hblank
  have hlast := List.rdropWhile_last_not isSpace (text.toList.dropWhile isSpace)
  simp only [← strip_toList] at hlast
  have hspace := hlast h
  rw [hblank] at hspace
  exact hspace (by decide)

/-! ## One amount -/

/-- **What is kept of an accepted text.** It is present for the table, it is canonical, and it is the text
`"0"` exactly when the amount is zero. -/
theorem canonical_spec {raw : String} {amount : LedgerAmount}
    (h : canonicalNonnegAmount decimalOf raw = some amount) :
    amountTextPresent amount.text = true ∧
      canonicalNonnegAmount decimalOf amount.text = some amount ∧
      (amount.text = "0" ↔ DenotesZero raw) ∧ (amount.isZero = true ↔ DenotesZero raw) ∧
      decimalIsZero decimalOf amount.text = amount.isZero := by
  unfold canonicalNonnegAmount at h
  cases hparsed : decimalOf (strip raw) with
  | invalid | special => rw [hparsed] at h; cases h
  | finite value =>
    have hraw : decimalOf raw = .finite value := by rw [← decimalOf_strip, hparsed]
    have hdenotes : DenotesZero raw ↔ value.coefficient = 0 := by
      unfold DenotesZero
      rw [hraw]
      simp only [ParsedDecimal.finite.injEq, exists_eq_left']
      exact toRat_eq_zero_iff
    rw [hparsed] at h
    dsimp only at h
    split at h
    · cases h
    rename_i hneg
    split at h
    · rename_i hzero
      cases h
      have hone : canonicalNonnegAmount decimalOf "0" =
          some ⟨"0", 0, le_refl _, fun _ => rfl⟩ := by
        have hread : decimalOf (strip "0") = .finite 0 := by decide +kernel
        unfold canonicalNonnegAmount
        rw [hread]
        rfl
      have hread : decimalOf "0" = .finite 0 := by decide +kernel
      refine ⟨by decide, hone, iff_of_true rfl (hdenotes.2 hzero), ?_, ?_⟩
      · exact iff_of_true rfl (hdenotes.2 hzero)
      · unfold decimalIsZero
        rw [hread]
        rfl
    · rename_i hzero
      cases h
      have hother : strip raw ≠ "0" := by
        intro htext
        rw [htext] at hparsed
        have hread : decimalOf "0" = .finite 0 := by decide +kernel
        rw [hread] at hparsed
        cases hparsed
        exact hzero rfl
      have hfalse : ¬ DenotesZero raw := fun hden => hzero (hdenotes.1 hden)
      refine ⟨amountTextPresent_strip (strip_ne_nil_of_decimalOf hraw), ?_, ?_, ?_, ?_⟩
      · unfold canonicalNonnegAmount
        simp only [strip_strip, hparsed]
        rw [dif_neg hneg, dif_neg hzero]
      · exact iff_of_false hother hfalse
      · exact iff_of_false (fun hisZero => hzero (of_decide_eq_true hisZero)) hfalse
      · unfold decimalIsZero LedgerAmount.isZero
        simp only [hparsed]

/-! ## The three places -/

/-- The texts a request is kept as. -/
def SettlementTables.CheckRequest.canonical (body : CheckRequest)
    (eligibility : SettlementEligibility) : CheckRequest :=
  { body with
    outstandingPrincipal := eligibility.outstandingPrincipal
    outstandingInterest := eligibility.outstandingInterest
    outstandingFees := eligibility.outstandingFees }

/-- **The zero balance is exact and storable.** For every accepted request the kept texts are present for
the table and canonical, the derived balance is zero exactly when all three amounts are, the ledger is
eligible when it is zero and no exception is open, and the validator of the record and the constraint of the
table accept the flag that says so, and no other. -/
theorem zeroBalance_exact {body : CheckRequest} {inputs : SettlementLedgerInputs}
    (h : body.inputs decimalOf = some inputs) :
    (∀ text ∈ [inputs.outstandingPrincipal.text, inputs.outstandingInterest.text,
        inputs.outstandingFees.text], amountTextPresent text = true) ∧
      (body.canonical (deriveSettlementEligible inputs)).inputs decimalOf = some inputs ∧
      ((deriveSettlementEligible inputs).zeroBalance = true ↔ body.AllZero) ∧
      ((deriveSettlementEligible inputs).eligible = true ↔
        body.AllZero ∧ body.openExceptionCount = 0) ∧
      ∀ confirmed : Bool,
        (settlementCheckValid decimalOf inputs.outstandingPrincipal.text
            inputs.outstandingInterest.text inputs.outstandingFees.text confirmed = true ↔
          (confirmed = true ↔ body.AllZero)) ∧
        (zeroBalanceConsistent inputs.outstandingPrincipal.text inputs.outstandingInterest.text
            inputs.outstandingFees.text confirmed = true ↔ (confirmed = true ↔ body.AllZero)) := by
  unfold CheckRequest.inputs at h
  obtain ⟨principal, hprin, h⟩ := Option.bind_eq_some_iff.1 h
  obtain ⟨interest, hint, h⟩ := Option.bind_eq_some_iff.1 h
  obtain ⟨fees, hfees, h⟩ := Option.bind_eq_some_iff.1 h
  cases h
  obtain ⟨hprincipalPresent, hprincipalAgain, hprincipalText, hprincipalZero, hprincipalRead⟩ :=
    canonical_spec hprin
  obtain ⟨hinterestPresent, hinterestAgain, hinterestText, hinterestZero, hinterestRead⟩ :=
    canonical_spec hint
  obtain ⟨hfeesPresent, hfeesAgain, hfeesText, hfeesZero, hfeesRead⟩ := canonical_spec hfees
  have hbal : (deriveSettlementEligible
      ⟨principal, interest, fees, body.openExceptionCount⟩).zeroBalance = true ↔ body.AllZero := by
    unfold deriveSettlementEligible CheckRequest.AllZero
    rw [Bool.and_eq_true, Bool.and_eq_true, hprincipalZero, hinterestZero, hfeesZero, and_assoc]
  have htexts : (principal.text = "0" && interest.text = "0" && fees.text = "0") = true ↔
      body.AllZero := by
    unfold CheckRequest.AllZero
    rw [Bool.and_eq_true, Bool.and_eq_true, decide_eq_true_iff, decide_eq_true_iff,
      decide_eq_true_iff, hprincipalText, hinterestText, hfeesText, and_assoc]
  refine ⟨?_, ?_, hbal, ?_, fun confirmed => ⟨?_, ?_⟩⟩
  · simp only [List.forall_mem_cons, List.not_mem_nil, false_implies, implies_true, and_true]
    exact ⟨hprincipalPresent, hinterestPresent, hfeesPresent⟩
  · unfold CheckRequest.inputs CheckRequest.canonical deriveSettlementEligible
    simp only [hprincipalAgain, hinterestAgain, hfeesAgain]
    rfl
  · rw [← hbal]
    unfold deriveSettlementEligible
    rw [Bool.and_eq_true, decide_eq_true_iff]
  · unfold settlementCheckValid
    simp only [hprincipalAgain, hinterestAgain, hfeesAgain, hprincipalRead, hinterestRead, hfeesRead]
    rw [decide_eq_true_iff, ← hbal]
    unfold deriveSettlementEligible
    rw [Bool.eq_iff_iff]
    exact iff_comm
  · unfold zeroBalanceConsistent
    rw [decide_eq_true_iff, Bool.eq_iff_iff, htexts]

/-- Three spellings of zero are one text, and the check is recorded. -/
theorem zeroBalance_spellings :
    ∃ inputs, CheckRequest.inputs decimalOf ⟨" 0.00", "-0", "0E-5", 0⟩ = some inputs ∧
      (deriveSettlementEligible inputs).eligible = true ∧
      zeroBalanceConsistent inputs.outstandingPrincipal.text inputs.outstandingInterest.text
        inputs.outstandingFees.text true = true := by
  have hsome : (CheckRequest.inputs decimalOf ⟨" 0.00", "-0", "0E-5", 0⟩).isSome = true := by
    decide +kernel
  obtain ⟨inputs, hinputs⟩ := Option.isSome_iff_exists.1 hsome
  obtain ⟨-, -, -, heligible, hplaces⟩ := zeroBalance_exact hinputs
  have hzero : CheckRequest.AllZero ⟨" 0.00", "-0", "0E-5", 0⟩ :=
    ⟨⟨⟨0, -2⟩, by decide +kernel, by norm_num [Decimal.toRat]⟩,
      ⟨⟨0, 0⟩, by decide +kernel, by norm_num [Decimal.toRat]⟩,
      ⟨⟨0, -5⟩, by decide +kernel, by norm_num [Decimal.toRat]⟩⟩
  exact ⟨inputs, hinputs, heligible.2 ⟨hzero, rfl⟩, (hplaces true).2.2 (iff_of_true rfl hzero)⟩

end CreditOps.SettlementRecovery
