import CreditOps.Domain.Text
import CreditOps.Orchestration.Gates

/-!
# What fires a tick

Every committed fact that may let work start re-ticks the case under a reference of its own: a task that
succeeded, an intake handoff, a maker revision, a gate satisfied by a human. The reference is the last
part of the idempotency key of the planning task, so two facts with one reference would share a tick.
-/

set_option autoImplicit false

namespace CreditOps.Orchestration

/-- What a tick is fired for. A gate is satisfied for a row, by its uuid or its version number. -/
inductive TickTrigger where
  | task (taskId : Uuid)
  | handoff (handoffId : Uuid)
  | revise (dispositionId : Uuid)
  | gate (gateType : GateType) (ref : Nat)
deriving DecidableEq

/-- The label of the re-tick after an endpoint has satisfied the gate. The intake gate is derived and has
no endpoint. -/
def gateLabel : GateType → Option String
  | .g1IntakeComplete => none
  | .g2GapRequestApproval => some "G2"
  | .g3RiskDisposition => some "G3"
  | .g4OpsAuthorization => some "G4"
  | .hgFinancingNeedConfirmed => some "HG_FIN"
  | .hgUnderwritingAssessmentReviewed => some "HG_UWR"
  | .hgLegalAssessmentReviewed => some "HG_LGL"
  | .hgMakerSubmissionConfirmed => some "HG_SUB"
  | .hgCreditNotificationApproved => some "HG_NOTIF"
  | .hgSecurityPerfectionConfirmed => some "HG_SEC"
  | .hgDisbursementConditionsConfirmed => some "HG_COND"
  | .hgContractPackageApproved => some "HG_CONTR"
  | .hgSignatureAuthorityConfirmed => some "HG_SIGAUTH"
  | .hgContractsSigned => some "HG_SIGNED"
  | .hgDisbursementValidated => some "HG_DISB_V"
  | .hgDisbursementAuthorized => some "HG_DISB_A"
  | .hgSettlementConfirmed => some "HG_SETTLE"
  | .hgRecoveryStrategyApproved => some "HG_RECOVERY"

/-- The gates whose reference is a version number. -/
def refersToVersion : GateType → Bool
  | .hgFinancingNeedConfirmed | .hgDisbursementConditionsConfirmed | .hgSecurityPerfectionConfirmed
  | .hgSettlementConfirmed => true
  | _ => false

namespace TickTrigger

/-- What stands before the colon. -/
def label : TickTrigger → String
  | .task _ => "TASK"
  | .handoff _ => "HANDOFF"
  | .revise _ => "REVISE"
  | .gate gateType _ => (gateLabel gateType).getD gateType.value

/-- What stands after it. -/
def subject : TickTrigger → String
  | .task id | .handoff id | .revise id => uuidText id
  | .gate gateType ref => if refersToVersion gateType then toString ref else uuidText ref

/-- The `trigger_ref` of the kickoff. -/
def ref (trigger : TickTrigger) : String :=
  trigger.label ++ ":" ++ trigger.subject

/-- The trigger is known by a uuid. -/
def namesUuid : TickTrigger → Bool
  | .task _ | .handoff _ | .revise _ => true
  | .gate gateType _ => !refersToVersion gateType

/-- A uuid has 128 bits. -/
def inRange : TickTrigger → Bool
  | .task id | .handoff id | .revise id => id < 16 ^ 32
  | .gate gateType ref => refersToVersion gateType ∨ ref < 16 ^ 32

/-! ## The label and the subject of a reference -/

/-- A label has no colon in it. -/
theorem label_ne_colon (trigger : TickTrigger) : ∀ c ∈ trigger.label.toList, c ≠ ':' := by
  have hall : trigger.label.toList.all (fun c => c ≠ ':') = true := by
    cases trigger with
    | task | handoff | revise =>
      rw [label]
      decide
    | gate gateType =>
      rw [label]
      cases gateType <;> decide
  intro c hc
  exact of_decide_eq_true (List.all_eq_true.1 hall c hc)

theorem toList_ref (trigger : TickTrigger) :
    trigger.ref.toList = trigger.label.toList ++ ':' :: trigger.subject.toList := by
  simp only [ref, String.toList_append]
  rw [List.append_assoc]
  rfl

/-- **A reference is read back** as its label and its subject. -/
theorem parts_of_ref_eq {one other : TickTrigger} (h : one.ref = other.ref) :
    one.label = other.label ∧ one.subject = other.subject := by
  have hlabel : ∀ trigger : TickTrigger,
      trigger.ref.toList.takeWhile (· ≠ ':') = trigger.label.toList := by
    intro trigger
    rw [toList_ref, List.takeWhile_append_of_pos fun c hc =>
      decide_eq_true (label_ne_colon trigger c hc)]
    simp only [ne_eq, decide_not, decide_true, Bool.not_true, Bool.false_eq_true,
      not_false_eq_true, List.takeWhile_cons_of_neg, List.append_nil]
  have hsame : one.label.toList = other.label.toList := by
    rw [← hlabel, ← hlabel, h]
  refine ⟨String.toList_inj.1 hsame, ?_⟩
  have hlist : one.ref.toList = other.ref.toList := by rw [h]
  rw [toList_ref, toList_ref, hsame] at hlist
  exact String.toList_inj.1 (List.cons.inj (List.append_cancel_left hlist)).2

/-! ## The label tells the kind -/

/-- The gate with a label. -/
def gateOfLabel (text : String) : Option GateType :=
  allGates.find? fun gateType => (gateLabel gateType).getD gateType.value = text

theorem gateOfLabel_label (gateType : GateType) (ref : Nat) :
    gateOfLabel (label (.gate gateType ref)) = some gateType := by
  rw [label]
  cases gateType <;> rfl

theorem gateType_of_label_eq {one other : GateType} {ref ref' : Nat}
    (h : label (.gate one ref) = label (.gate other ref')) : one = other := by
  have hone := gateOfLabel_label one ref
  rw [h, gateOfLabel_label, Option.some.injEq] at hone
  exact hone.symm

theorem label_gate_ne (gateType : GateType) (ref : Nat) {text : String}
    (htext : text ∈ ["TASK", "HANDOFF", "REVISE"]) : label (.gate gateType ref) ≠ text := by
  intro h
  have hgate := gateOfLabel_label gateType ref
  rw [h] at hgate
  simp only [List.mem_cons, List.not_mem_nil, or_false] at htext
  rcases htext with rfl | rfl | rfl
  · cases hgate.symm.trans (rfl : gateOfLabel "TASK" = none)
  · cases hgate.symm.trans (rfl : gateOfLabel "HANDOFF" = none)
  · cases hgate.symm.trans (rfl : gateOfLabel "REVISE" = none)

/-- **A reference by uuid stands for one fact.** -/
theorem eq_of_ref_eq {one other : TickTrigger} (hone : one.inRange = true)
    (hother : other.inRange = true) (huuid : one.namesUuid = true) (h : one.ref = other.ref) :
    one = other := by
  obtain ⟨hlabel, hsubject⟩ := parts_of_ref_eq h
  cases one with
  | task =>
    cases other with
    | task =>
      rw [uuidText_inj (of_decide_eq_true hone) (of_decide_eq_true hother) hsubject]
    | handoff | revise => exact absurd hlabel (by simp [label])
    | gate gateType ref => exact absurd hlabel.symm (label_gate_ne gateType ref (by simp [label]))
  | handoff =>
    cases other with
    | task | revise => exact absurd hlabel (by simp [label])
    | handoff =>
      rw [uuidText_inj (of_decide_eq_true hone) (of_decide_eq_true hother) hsubject]
    | gate gateType ref => exact absurd hlabel.symm (label_gate_ne gateType ref (by simp [label]))
  | revise =>
    cases other with
    | task | handoff => exact absurd hlabel (by simp [label])
    | revise =>
      rw [uuidText_inj (of_decide_eq_true hone) (of_decide_eq_true hother) hsubject]
    | gate gateType ref => exact absurd hlabel.symm (label_gate_ne gateType ref (by simp [label]))
  | gate gateType ref =>
    cases other with
    | task | handoff | revise => exact absurd hlabel (label_gate_ne gateType ref (by simp [label]))
    | gate =>
      obtain rfl := gateType_of_label_eq hlabel
      have hrow : refersToVersion gateType = false := by simpa [namesUuid] using huuid
      simp only [inRange, hrow, Bool.false_eq_true, false_or, decide_eq_true_eq] at hone hother
      simp only [subject, hrow, Bool.false_eq_true, if_false] at hsubject
      rw [uuidText_inj hone hother hsubject]

end TickTrigger

end CreditOps.Orchestration
