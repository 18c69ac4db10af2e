import Mathlib.Data.List.Sort
import CreditOps.Orchestration.Readiness

/-!
# The planner

The engine's plan is the ready types in canonical order (`buildDefaultPlan`); a model may propose other
priorities, which are taken over only when the deterministic validator finds nothing wrong
(`validateProposal`, `planFromProposal`). A rejected or unavailable proposal falls back to the
default plan.
-/

set_option autoImplicit false

namespace CreditOps.Orchestration

/-! ## Plans and proposals -/

/-- One step of a plan. -/
structure PlanStep where
  taskType : TaskType
  priority : Nat
  rationale : String
deriving DecidableEq

/-- Where a plan comes from. -/
inductive PlanSource where
  | default
  | llmProposed
deriving DecidableEq

/-- The stored text of a plan source. -/
def PlanSource.value : PlanSource → String
  | .default => "DEFAULT"
  | .llmProposed => "LLM_PROPOSED"

/-- An ordered plan. -/
structure Plan where
  steps : List PlanStep
  source : PlanSource
deriving DecidableEq

/-- One proposed step; the schema admits priorities up to 999. -/
structure ProposedStep where
  taskType : TaskType
  priority : Nat
  priority_le : priority ≤ 999
deriving DecidableEq

/-- What became of a proposal. -/
inductive ProposalStatus where
  | accepted
  | rejected
  | skipped
deriving DecidableEq

/-- The plan with the fate of the proposal it came from. -/
structure ProposalOutcome where
  status : ProposalStatus
  plan : Plan
  validationErrors : List String
deriving DecidableEq

/-- `sorted(types, key=key)`: stable, by one numeric key. -/
def sortedBy (key : TaskType → Nat) (types : List TaskType) : List TaskType :=
  types.insertionSort fun a b => key a ≤ key b

/-- `build_default_plan` -/
def buildDefaultPlan (report : ReadinessReport) (template : DependencyTemplate) : Plan where
  steps := (sortedBy template.priorityOf report.readyTypes).map fun taskType =>
    ⟨taskType, template.priorityOf taskType, "canonical default order"⟩
  source := .default

/-- The loop of `validate_proposal`, with the types seen so far. -/
def validateSteps (report : ReadinessReport) (template : DependencyTemplate) :
    List ProposedStep → List TaskType → List String
  | [], _ => []
  | step :: steps, seen =>
    if step.taskType ∉ template.orderedTypes then
      ("unknown task type proposed: " ++ step.taskType.value) ::
        validateSteps report template steps seen
    else if step.taskType ∈ seen then
      ("duplicate task type proposed: " ++ step.taskType.value) ::
        validateSteps report template steps seen
    else if report.state step.taskType ≠ some .ready then
      ("proposed task " ++ step.taskType.value ++ " is not READY (" ++
        ((report.state step.taskType).getD .blocked).value ++ ")") ::
          validateSteps report template steps (step.taskType :: seen)
    else validateSteps report template steps (step.taskType :: seen)

/-- `validate_proposal` -/
def validateProposal (payload : List ProposedStep) (report : ReadinessReport)
    (template : DependencyTemplate) : List String :=
  validateSteps report template payload []

/-- The proposed priority of a type; the last proposed step of a type stands. -/
def proposedPriority (payload : List ProposedStep) (taskType : TaskType) : Option Nat :=
  ((payload.filter (·.taskType = taskType)).getLast?).map (·.priority)

/-- `_plan_from_proposal`: the sort key is the proposed priority, `1000` where there is none, with
the canonical order as the tie-break. -/
def planFromProposal (payload : List ProposedStep) (report : ReadinessReport)
    (template : DependencyTemplate) : Plan where
  steps :=
    (sortedBy (fun taskType => (proposedPriority payload taskType).getD 1000)
      (sortedBy template.priorityOf report.readyTypes)).map fun taskType =>
        match proposedPriority payload taskType with
        | some priority => ⟨taskType, priority, "llm-proposed priority"⟩
        | none => ⟨taskType, template.priorityOf taskType, "appended ready task"⟩
  source := .llmProposed

/-- What the reasoning gateway answered: nothing was asked, the answer was unusable, or a payload. -/
inductive GatewayAnswer where
  | notAsked
  | unavailable (reason : String)
  | payload (steps : List ProposedStep)
deriving DecidableEq

/-- `OrchestrationPlanner.plan`: the gateway is asked only when something is ready. -/
def plan (report : ReadinessReport) (template : DependencyTemplate) (answer : GatewayAnswer) :
    ProposalOutcome :=
  let default := buildDefaultPlan report template
  if report.readyTypes = [] then ⟨.skipped, default, []⟩
  else
    match answer with
    | .notAsked => ⟨.skipped, default, []⟩
    | .unavailable reason =>
      ⟨.rejected, default, ["planner proposal unavailable or invalid: " ++ reason]⟩
    | .payload steps =>
      match validateProposal steps report template with
      | [] => ⟨.accepted, planFromProposal steps report template, []⟩
      | errors => ⟨.rejected, default, errors⟩

/-! ## A plan schedules exactly the ready types -/

/-- The types a plan schedules, in order. -/
def Plan.taskTypes (plan : Plan) : List TaskType :=
  plan.steps.map (·.taskType)

theorem sortedBy_perm (key : TaskType → Nat) (types : List TaskType) :
    (sortedBy key types).Perm types :=
  List.perm_insertionSort _ types

theorem buildDefaultPlan_taskTypes (report : ReadinessReport) (template : DependencyTemplate) :
    (buildDefaultPlan report template).taskTypes = sortedBy template.priorityOf report.readyTypes := by
  simp only [Plan.taskTypes, buildDefaultPlan, List.map_map, Function.comp_def, List.map_id']

theorem planFromProposal_taskTypes (payload : List ProposedStep) (report : ReadinessReport)
    (template : DependencyTemplate) :
    (planFromProposal payload report template).taskTypes =
      sortedBy (fun taskType => (proposedPriority payload taskType).getD 1000)
        (sortedBy template.priorityOf report.readyTypes) := by
  simp only [Plan.taskTypes, planFromProposal, List.map_map]
  conv_rhs => rw [← List.map_id (sortedBy _ _)]
  apply List.map_congr_left
  intro taskType _
  simp only [Function.comp_apply, id_eq]
  cases proposedPriority payload taskType <;> rfl

/-- **The planner may reorder ready work; it can neither add nor drop any.** -/
theorem plan_perm_readyTypes (report : ReadinessReport) (template : DependencyTemplate)
    (answer : GatewayAnswer) :
    (plan report template answer).plan.taskTypes.Perm report.readyTypes := by
  have hdefault : (buildDefaultPlan report template).taskTypes.Perm report.readyTypes := by
    rw [buildDefaultPlan_taskTypes]
    exact sortedBy_perm _ _
  have hprop : ∀ steps, (planFromProposal steps report template).taskTypes.Perm
      report.readyTypes := by
    intro steps
    rw [planFromProposal_taskTypes]
    exact (sortedBy_perm _ _).trans (sortedBy_perm _ _)
  unfold plan
  split
  · exact hdefault
  · split
    · exact hdefault
    · exact hdefault
    · split
      · exact hprop _
      · exact hdefault

end CreditOps.Orchestration
