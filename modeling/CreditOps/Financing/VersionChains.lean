import CreditOps.Domain.Text
import CreditOps.Financing.Requests
import CreditOps.Library.NumberedAppends
import CreditOps.Library.UntrustedJson

/-!
# The two version chains

`append_version` tries eight times, each time in a transaction of its own; `append_screening_snapshot`
tries once and lets the unique violation out. Both make their answer after the commit. That of a financing
request can always be made, because its draft has been through the same checks; that of a snapshot cannot
when the `ScreeningSnapshot` model refuses what the table lets in (`chains_gapless`).
-/

set_option autoImplicit false

namespace CreditOps.Financing

open NumberedAppends Transition

/-! ## Financing requests -/

/-- `^[1-9][0-9]*$`, of at most thirty digits. -/
def isPositiveAmount (text : String) : Bool :=
  text.length ≤ 30 ∧ text.toList.all Char.isDigit ∧ text.toList.head?.any (· ≠ '0')

/-- `^(0|[1-9][0-9]*)$`, of at most thirty digits. -/
def isOwnFunds (text : String) : Bool :=
  text = "0" ∨ isPositiveAmount text

/-- An optional text of at least one and at most so many characters. -/
def fits (text : Option String) (bound : Nat) : Bool :=
  text.all fun text => 1 ≤ text.length ∧ text.length ≤ bound

/-- The checks of the `FinancingRequestDraft` model. -/
def FinancingRequestDraft.isValid (fields : FinancingRequestDraft) : Bool :=
  isPositiveAmount fields.requestedAmount ∧ fits (some fields.purposeVi) 500 ∧ fits fields.currency 8 ∧
    fits fields.productVi 200 ∧ fields.termMonths.all (fun months => 0 < months ∧ months ≤ 600) ∧
    fits fields.repaymentSourceVi 2000 ∧ fits fields.repaymentPlanVi 2000 ∧
    fits fields.proposedSecurityVi 2000 ∧ fields.customerOwnFunds.all isOwnFunds ∧
    fits fields.connectedTradeProductsVi 2000 ∧ fits fields.workingCapitalCycleVi 2000 ∧
    fits fields.keySuppliersCustomersVi 2000 ∧ fits fields.proposedCashFlowControlsVi 2000

/-- A call of `append_version`: a draft is a model, so it has been through its checks. -/
structure AppendVersionCall where
  caseVersion : CaseVersion
  fields : FinancingRequestDraft
  actorId : Uuid
  valid : fields.isValid

/-- The checks the `FinancingRequestVersion` model makes of a row, whose number is at least one. -/
def AppendVersionCall.answers (call : AppendVersionCall) : Bool :=
  0 < call.caseVersion ∧ isPositiveAmount call.fields.requestedAmount ∧ fits (some call.fields.purposeVi) 500 ∧
    call.fields.termMonths.all (0 < ·) ∧ call.fields.customerOwnFunds.all isOwnFunds

/-- `append_version`: the table lets positive case versions in. -/
def versions : Appender AppendVersionCall where
  admits call := 0 < call.caseVersion
  attempts := maxAppendAttempts
  answers := AppendVersionCall.answers

/-- **An appended version can be answered with.** -/
theorem answers_of_admits (call : AppendVersionCall) (h : versions.admits call) : versions.answers call := by
  have hvalid := of_decide_eq_true call.valid
  have hterm : call.fields.termMonths.all (0 < ·) := by
    have hmonths := hvalid.2.2.2.2.1
    cases hfields : call.fields.termMonths with
    | none => rfl
    | some months =>
      rw [hfields] at hmonths
      exact decide_eq_true (of_decide_eq_true hmonths).1
  exact decide_eq_true
    ⟨of_decide_eq_true h, hvalid.1, hvalid.2.1, hterm, hvalid.2.2.2.2.2.2.2.2.1⟩

/-! ## Screening snapshots -/

/-- A call of `append_screening_snapshot` on one prospect. -/
structure SnapshotCall where
  createdBy : Uuid
  screeningConfigVersion : String
  industryVi : Option String
  yearsOperating : Option Int
  revenueBandVi : Option String
  legalStatusVi : Option String
  creditHistoryVi : Option String
  riskAppetiteNoteVi : Option String
  details : List (String × JsonValue)

/-- `_FORBIDDEN_DETAIL_KEYS` -/
def forbiddenDetailKeys : List String :=
  ["score", "verdict", "approved", "rating", "decision", "pass", "fail"]

/-- `_require_owned`, and the checks of the table: a version that is not made of spaces, no negative years. -/
def SnapshotCall.admits (owner : Uuid) (call : SnapshotCall) : Bool :=
  call.createdBy = owner ∧ call.screeningConfigVersion.toList.any (· ≠ ' ') ∧ call.yearsOperating.all (0 ≤ ·)

/-- The checks of the `ScreeningSnapshot` model, given `str.lower`. -/
def SnapshotCall.answers (lower : String → String) (call : SnapshotCall) : Bool :=
  fits (some call.screeningConfigVersion) 200 ∧ ¬ isBlank call.screeningConfigVersion ∧
    call.industryVi.all (·.length ≤ 500) ∧ call.yearsOperating.all (0 ≤ ·) ∧
    call.revenueBandVi.all (·.length ≤ 500) ∧ call.legalStatusVi.all (·.length ≤ 500) ∧
    call.creditHistoryVi.all (·.length ≤ 2000) ∧ call.riskAppetiteNoteVi.all (·.length ≤ 2000) ∧
    call.details.all fun entry => lower entry.1 ∉ forbiddenDetailKeys

/-- `append_screening_snapshot` -/
def snapshots (lower : String → String) (owner : Uuid) : Appender SnapshotCall where
  admits := SnapshotCall.admits owner
  attempts := 1
  answers := SnapshotCall.answers lower

/-! ## Both chains -/

variable {ι : Type} [DecidableEq ι]

/-- **The chains are gapless.** However the calls interleave, the numbers run from one, a call that returns
a number has stored the one row with it and its fields, and every other call has stored nothing, provided
that the model of the answer accepts each snapshot the table accepts. -/
theorem chains_gapless (lower : String → String) (owner : Uuid)
    {appends : List (Action ι AppendVersionCall)} {screenings : List (Action ι SnapshotCall)}
    {requests : World ι AppendVersionCall} {prospect : World ι SnapshotCall}
    (hrequests : run (World.step versions) World.empty appends = some requests)
    (hprospect : run (World.step (snapshots lower owner)) World.empty screenings = some prospect)
    (haccepted : ∀ id call, .request id call ∈ screenings → call.admits owner → call.answers lower) :
    Gapless requests ∧ Gapless prospect :=
  ⟨gapless_of_run (fun _ call _ => answers_of_admits call) hrequests, gapless_of_run haccepted hprospect⟩

/-- A snapshot whose version is one file separator, which no request model strips. -/
def separatorSnapshot : SnapshotCall where
  createdBy := 7
  screeningConfigVersion := String.singleton (Char.ofNat 28)
  industryVi := none
  yearsOperating := none
  revenueBandVi := none
  legalStatusVi := none
  creditHistoryVi := none
  riskAppetiteNoteVi := none
  details := []

/-- Two snapshots that read the same number; the second one is first to insert. -/
def racingSnapshots : List (Action Nat SnapshotCall) :=
  let call := { separatorSnapshot with screeningConfigVersion := "v1" }
  [.request 0 call, .request 1 call, .statement 0, .statement 1, .statement 1, .statement 1, .statement 0]

theorem racingSnapshots_gapless : ∃ prospect,
    run (World.step (snapshots id 7)) World.empty racingSnapshots = some prospect ∧
      Gapless prospect := by
  have hnone : run (World.step versions) (World.empty : World Nat AppendVersionCall) [] = some World.empty := rfl
  obtain ⟨prospect, hrun⟩ := Option.isSome_iff_exists.1
    (show (run (World.step (snapshots id 7)) World.empty racingSnapshots).isSome from rfl)
  refine ⟨prospect, hrun, (chains_gapless id 7 hnone hrun ?_).2⟩
  intro id call hmem _
  simp only [racingSnapshots, List.mem_cons, Action.request.injEq, reduceCtorEq, false_or, or_false,
    List.not_mem_nil] at hmem
  rcases hmem with ⟨-, rfl⟩ | ⟨-, rfl⟩ <;> decide

/-- **A call that fails leaves its row.** The row is committed before the answer is refused. -/
theorem separatorSnapshot_stored : ¬ ∀ (actions : List (Action Nat SnapshotCall)) (w : World Nat SnapshotCall),
    run (World.step (snapshots id 7)) World.empty actions = some w → Gapless w := by
  intro h
  have hrows := (h [.request 0 separatorSnapshot, .statement 0, .statement 0, .statement 0] _ rfl).stored 0
  exact absurd hrows (List.cons_ne_nil _ _)

end CreditOps.Financing
