import CreditOps.Domain.Api
import CreditOps.Domain.Calendar
import CreditOps.Domain.Database
import CreditOps.Library.AppendLog

/-!
# Versions of the financing request

The financing request of a case is an append-only table: every edit is a new row under the next request
version, and no row is changed. An append reads the highest version, takes the one after it and inserts
unless another append was faster, then it tries again.
-/

set_option autoImplicit false

namespace CreditOps.Financing

open AppendLog

/-- The writable fields of one edit; what the customer did not supply stays `none`. -/
structure FinancingRequestDraft where
  requestedAmount : String
  purposeVi : String
  currency : Option String
  productVi : Option String
  termMonths : Option Nat
  expectedUseDate : Option Date
  repaymentSourceVi : Option String
  repaymentPlanVi : Option String
  proposedSecurityVi : Option String
  customerOwnFunds : Option String
  connectedTradeProductsVi : Option String
  workingCapitalCycleVi : Option String
  keySuppliersCustomersVi : Option String
  proposedCashFlowControlsVi : Option String
deriving DecidableEq

/-- One row of `financing_requests`. -/
structure FinancingRequestVersion where
  id : Uuid
  caseVersion : CaseVersion
  requestVersion : Nat
  fields : FinancingRequestDraft
  createdBy : Uuid
deriving DecidableEq

/-- `_MAX_APPEND_ATTEMPTS` -/
def maxAppendAttempts : Nat := 8

/-- What an append raises. -/
inductive AppendError where
  | sql (error : SqlError)
  | runtimeError (message : String)
deriving DecidableEq

/-- What is raised when every attempt lost its version to another append. -/
def contentionError : AppendError :=
  .runtimeError ("could not append a financing-request version after " ++
    Nat.repr maxAppendAttempts ++ " attempts (persistent version contention)")

/-- `enforce_financing_request_case_version` on a row of another case version. -/
def caseVersionError : AppendError :=
  .sql (.checkViolation "financing request case_version must match the current credit case version")

/-- `coalesce(max(request_version), 0) + 1` -/
def nextVersion (requests : List FinancingRequestVersion) : Nat :=
  requests.foldr (fun row highest => max row.requestVersion highest) 0 + 1

/-- `latest_version`: `order by request_version desc limit 1`. -/
def latestVersion (requests : List FinancingRequestVersion) : Option FinancingRequestVersion :=
  latest (fun a b => a.requestVersion ≤ b.requestVersion) (fun _ => true) requests

/-- The version is not in use. -/
def VersionFree (requests : List FinancingRequestVersion) (version : Nat) : Prop :=
  ∀ row ∈ requests, row.requestVersion ≠ version

instance (requests : List FinancingRequestVersion) (version : Nat) :
    Decidable (VersionFree requests version) :=
  inferInstanceAs (Decidable (∀ row ∈ requests, _))

/-- What one insertion does: it is refused, another append has its version, or the row is there. -/
inductive Insertion where
  | refused (error : AppendError)
  | conflict
  | inserted (requests : List FinancingRequestVersion)
deriving DecidableEq

/-- `insert … on conflict (case_id, request_version) do nothing`, behind the trigger that holds the row to
the current case version. -/
def insertVersion (currentVersion : CaseVersion) (requests : List FinancingRequestVersion)
    (row : FinancingRequestVersion) : Insertion :=
  if row.caseVersion = currentVersion then
    if VersionFree requests row.requestVersion then .inserted (row :: requests) else .conflict
  else .refused caseVersionError

/-! ## Numbered requests -/

section Numbered

variable {requests : List FinancingRequestVersion}

/-- The versions of a case are numbered from one without a hole, newest first. -/
def NumberedRequests (requests : List FinancingRequestVersion) : Prop :=
  Numbered (·.requestVersion) requests

theorem NumberedRequests.cons {row : FinancingRequestVersion}
    (h : NumberedRequests (row :: requests)) :
    row.requestVersion = requests.length + 1 ∧ NumberedRequests requests := h

theorem highest_eq (h : NumberedRequests requests) :
    requests.foldr (fun row highest => max row.requestVersion highest) 0 = requests.length := by
  induction requests with
  | nil => rfl
  | cons _ _ ih =>
    obtain ⟨hrow, holder⟩ := h.cons
    rw [List.foldr_cons, ih holder, hrow, List.length_cons]
    omega

theorem nextVersion_eq (h : NumberedRequests requests) :
    nextVersion requests = requests.length + 1 := by
  rw [nextVersion, highest_eq h]

theorem nextVersion_follows (h : NumberedRequests requests) :
    nextVersion requests = 1 ∨ ∃ row ∈ requests, nextVersion requests = row.requestVersion + 1 := by
  cases requests with
  | nil => exact Or.inl rfl
  | cons row =>
    refine Or.inr ⟨row, List.mem_cons_self, ?_⟩
    rw [nextVersion_eq h, List.length_cons, h.cons.1]

/-- Versions name their rows. -/
theorem NumberedRequests.injective (h : NumberedRequests requests) :
    ∀ a ∈ requests, ∀ b ∈ requests, a.requestVersion = b.requestVersion → a = b := by
  induction requests with
  | nil =>
    intro a ha
    cases ha
  | cons row older ih =>
    obtain ⟨_, holder⟩ := h.cons
    -- an older row has a version within the length of the older rows
    have hbelow : ∀ a ∈ older, a.requestVersion ≠ row.requestVersion := by
      intro a ha heq
      have hused := (Numbered.exists_iff holder a.requestVersion).1 ⟨a, ha, rfl⟩
      omega
    intro a ha b hb hab
    rcases List.mem_cons.1 ha with rfl | haold
    · rcases List.mem_cons.1 hb with rfl | hbold
      · rfl
      · exact absurd hab.symm (hbelow b hbold)
    · rcases List.mem_cons.1 hb with rfl | hbold
      · exact absurd hab (hbelow a haold)
      · exact ih holder a haold b hbold hab

/-- **The latest version is the newest row.** -/
theorem latestVersion_eq (h : NumberedRequests requests) : latestVersion requests = requests.head? := by
  cases requests with
  | nil => rfl
  | cons =>
    refine (latest_eq_some_iff h.injective).2 ⟨List.mem_cons_self, rfl, ?_⟩
    intro other hother _
    have hused := (Numbered.exists_iff h other.requestVersion).1 ⟨other, hother, rfl⟩
    rw [h.cons.1]
    exact hused.2

/-- **A free version that was read next is the next one.** -/
theorem numbered_insert (h : NumberedRequests requests) {row : FinancingRequestVersion}
    (hfree : VersionFree requests row.requestVersion)
    (hfollows : row.requestVersion = 1 ∨
      ∃ older ∈ requests, row.requestVersion = older.requestVersion + 1) :
    NumberedRequests (row :: requests) :=
  ⟨Numbered.eq_next h hfree hfollows, h⟩

end Numbered

variable {currentVersion : CaseVersion} {requests : List FinancingRequestVersion}
  {row : FinancingRequestVersion}

theorem insertVersion_of_free (hcur : row.caseVersion = currentVersion)
    (hfree : VersionFree requests row.requestVersion) :
    insertVersion currentVersion requests row = .inserted (row :: requests) := by
  rw [insertVersion, if_pos hcur, if_pos hfree]

theorem insertVersion_eq_inserted {requests' : List FinancingRequestVersion}
    (h : insertVersion currentVersion requests row = .inserted requests') :
    row.caseVersion = currentVersion ∧ VersionFree requests row.requestVersion ∧
      requests' = row :: requests := by
  unfold insertVersion at h
  split at h
  · rename_i hcur
    split at h
    · rename_i hfree
      cases h
      exact ⟨hcur, hfree, rfl⟩
    · cases h
  · cases h

end CreditOps.Financing
