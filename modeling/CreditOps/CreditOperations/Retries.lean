import CreditOps.CreditOperations.Satisfaction
import CreditOps.Orchestration.HumanRecords

/-!
# Repeating an authorization

The insert, the audit event and the gate of an authorization request are transactions of their own, and the
table holds one row for an action of a package. A request whose action already has a row fails in its insert
with an internal error, and so it never reads the authorizations back. After a crash behind the insert of the
last authorization no request satisfies the gate any more (`retry_refused`).

All along a run no request fails so, no action has two authorizations, and a request that was sent once all
actions were authorized ends with the gate satisfied, exactly when no request comes to its insert after
another one for the same action of the same package (`retries_act_iff`).
-/

set_option autoImplicit false

namespace CreditOps.CreditOperations

open Transition PartialMap Orchestration

/-! ## The requests to their end -/

/-- The package and the action a request is about. -/
def AuthorizationRun.key (run : AuthorizationRun) : Uuid × Uuid :=
  (run.package.id, run.actionId)

def ActionAuthorization.key (authorization : ActionAuthorization) : Uuid × Uuid :=
  (authorization.packageId, authorization.actionId)

/-- The system, the keys of the inserts that requests have come to, the requests that ended in an internal
error, and those opened when all actions of their package were authorized. A request that crashes takes no
further step. -/
structure Desk where
  system : System
  inserts : List (Uuid × Uuid)
  refused : List Uuid
  late : List Uuid

/-- The request opens with all actions of its package authorized. -/
def openedLate (s t : System) : Request → List Uuid
  | .openAuthorization authorizationId _ _ _ =>
    match t.runs authorizationId with
    | some run => if s.store.g4Status run.package = .satisfied then [authorizationId] else []
    | none => []
  | _ => []

namespace Desk

/-- What a step does. The insert of a request meets the key `(package_id, action_id)` of the table: it goes
through, or the request is answered with an internal error. -/
def step (d : Desk) : Request → Option Desk
  | .recordAuthorization authorizationId now =>
    match d.system.runs authorizationId with
    | none => none
    | some run =>
      if run.phase = .loaded then
        match d.system.store.recordActionAuthorization (run.row authorizationId now) with
        | some store =>
          some { d with
                 system := { d.system.setPhase authorizationId run .recorded with store }
                 inserts := run.key :: d.inserts }
        | none =>
          some { d with
                 system := d.system.setPhase authorizationId run .closed
                 inserts := run.key :: d.inserts
                 refused := authorizationId :: d.refused }
      else none
  | q =>
    (CreditOperations.step d.system q).map fun system =>
      { d with system, late := openedLate d.system system q ++ d.late }

/-- A desk before its first request. -/
structure Initial (d : Desk) : Prop where
  system : CreditOperations.Initial d.system
  noInsert : d.inserts = []
  noRefusal : d.refused = []
  noLate : d.late = []

/-- **The promise.** No request has failed because its action was authorized, no action of a package has two
authorizations, and a request that was opened with all actions authorized has ended with the gate
satisfied. -/
structure Retryable (d : Desk) : Prop where
  unfailed : d.refused = []
  once : (d.system.store.authorizations.map (·.key)).Nodup
  gated : ∀ id ∈ d.late, ∀ run, d.system.runs id = some run → run.phase = .closed →
    d.system.tables.GateSatisfied run.package.caseVersion .g4OpsAuthorization

/-- The condition on a step: a request that comes to its insert is the first to do so for its action of its
package. -/
def FirstInsert (d : Desk) : Request → Prop
  | .recordAuthorization authorizationId _ =>
    ∀ run ∈ d.system.runs authorizationId, run.key ∉ d.inserts
  | _ => True

instance (d : Desk) : ∀ q, Decidable (d.FirstInsert q)
  | .recordAuthorization authorizationId _ =>
    inferInstanceAs (Decidable (∀ run ∈ d.system.runs authorizationId, _))
  | .schedule _ _ | .draft _ _ _ _ _ _ | .persist _ _ | .openAuthorization _ _ _ _
  | .auditAuthorization _ | .readAuthorizations _ | .satisfyG4 _ _ | .otherGate _ _ _ _ _ =>
    isTrue trivial

/-! ## What a step can do -/

variable {d e : Desk} {q : Request}

/-- What a step can do, with everything it has checked. -/
inductive Stepped (d : Desk) : Request → Desk → Prop where
  | recorded {authorizationId : Uuid} {now : Timestamp} {run : AuthorizationRun}
      {store : CreditOpsStore} (hrun : d.system.runs authorizationId = some run)
      (hphase : run.phase = .loaded)
      (hstore : d.system.store.recordActionAuthorization (run.row authorizationId now) = some store) :
      Stepped d (.recordAuthorization authorizationId now)
        { d with
          system := { d.system.setPhase authorizationId run .recorded with store }
          inserts := run.key :: d.inserts }
  | refused {authorizationId : Uuid} {now : Timestamp} {run : AuthorizationRun}
      (hrun : d.system.runs authorizationId = some run) (hphase : run.phase = .loaded)
      (hstore : d.system.store.recordActionAuthorization (run.row authorizationId now) = none) :
      Stepped d (.recordAuthorization authorizationId now)
        { d with
          system := d.system.setPhase authorizationId run .closed
          inserts := run.key :: d.inserts
          refused := authorizationId :: d.refused }
  | moved {q : Request} {system : System} (hins : ∀ id now, q ≠ .recordAuthorization id now)
      (hstep : CreditOperations.step d.system q = some system) :
      Stepped d q { d with system, late := openedLate d.system system q ++ d.late }

/-- **What a step can do.** -/
theorem step_cases (h : d.step q = some e) : Stepped d q e := by
  cases q with
  | recordAuthorization authorizationId now =>
    simp only [Desk.step] at h
    split at h
    · cases h
    rename_i run hrun
    split_ifs at h with hphase
    split at h
    · rename_i store hstore
      cases h
      exact .recorded hrun hphase hstore
    · rename_i hstore
      cases h
      exact .refused hrun hphase hstore
  | schedule | draft | persist | openAuthorization | auditAuthorization | readAuthorizations
  | satisfyG4 | otherGate =>
    obtain ⟨_, hstep, rfl⟩ := Option.map_eq_some_iff.1 h
    refine .moved ?_ hstep
    rintro _ _ ⟨⟩

/-- The insert goes through exactly when no authorization has its key. -/
theorem recordActionAuthorization_eq_none {store : CreditOpsStore} {authorization : ActionAuthorization} :
    store.recordActionAuthorization authorization = none ↔
      authorization.key ∈ store.authorizations.map (·.key) := by
  unfold CreditOpsStore.recordActionAuthorization
  split_ifs with hknown
  · refine iff_of_true rfl ?_
    obtain ⟨old, hold, hsame⟩ := List.any_eq_true.1 hknown
    obtain ⟨hpkg, haction⟩ := of_decide_eq_true hsame
    exact List.mem_map.2 ⟨old, hold, Prod.ext hpkg haction⟩
  · refine iff_of_false nofun ?_
    intro hmem
    obtain ⟨old, hold, hsame⟩ := List.mem_map.1 hmem
    refine hknown (List.any_eq_true.2 ⟨old, hold, decide_eq_true ?_⟩)
    exact Prod.ext_iff.1 hsame

theorem resting_of_setPhase {s : System} {authorizationId id : Uuid} {run other : AuthorizationRun}
    {phase : AuthorizationPhase} (hrun : s.runs authorizationId = some run)
    (hflight : run.phase.InFlight) (hother : s.runs id = some other) (hrests : ¬ other.phase.InFlight) :
    (s.setPhase authorizationId run phase).runs id = some other := by
  have hne : id ≠ authorizationId := by
    rintro rfl
    rw [hrun, Option.some.injEq] at hother
    rw [hother] at hflight
    exact hrests hflight
  exact (Function.update_of_ne hne _ _).trans hother

/-- A step other than an insert leaves the authorizations alone, and the requests that are not in flight. -/
theorem kept_of_moved {s t : System} (hins : ∀ id now, q ≠ .recordAuthorization id now)
    (hstep : CreditOperations.step s q = some t) :
    t.store.authorizations = s.store.authorizations ∧
      ∀ id run, s.runs id = some run → ¬ run.phase.InFlight → t.runs id = some run := by
  cases q with
  | recordAuthorization id now => exact absurd rfl (hins id now)
  | schedule =>
    simp only [CreditOperations.step] at hstep
    split at hstep
    · cases hstep
    cases hstep
    exact ⟨rfl, fun _ _ hrun _ => hrun⟩
  | draft =>
    simp only [CreditOperations.step] at hstep
    split at hstep
    · cases hstep
    split_ifs at hstep
    obtain ⟨_, -, rfl⟩ := Option.map_eq_some_iff.1 hstep
    exact ⟨rfl, fun _ _ hrun _ => hrun⟩
  | persist =>
    simp only [CreditOperations.step] at hstep
    split at hstep
    · cases hstep
    obtain ⟨_, hstore, rfl⟩ := Option.map_eq_some_iff.1 hstep
    refine ⟨?_, fun _ _ hrun _ => hrun⟩
    rcases persistPackage_cases hstore with rfl | ⟨-, rfl⟩
    all_goals rfl
  | openAuthorization authorizationId actionId actor rationaleVi =>
    simp only [CreditOperations.step] at hstep
    split at hstep
    · rename_i package hfree hcheck
      cases hstep
      exact ⟨rfl, fun _ _ hrun _ => update_of_free hfree hrun⟩
    · cases hstep
  | auditAuthorization authorizationId | satisfyG4 authorizationId now =>
    simp only [CreditOperations.step] at hstep
    split at hstep
    · cases hstep
    rename_i run hrun
    split_ifs at hstep with hphase
    cases hstep
    exact ⟨rfl, fun _ _ => resting_of_setPhase hrun (hphase ▸ trivial)⟩
  | readAuthorizations authorizationId =>
    simp only [CreditOperations.step] at hstep
    split at hstep
    · cases hstep
    rename_i run hrun
    split_ifs at hstep with hphase
    have hkept : ∀ phase id other, s.runs id = some other → ¬ other.phase.InFlight →
        (s.setPhase authorizationId run phase).runs id = some other :=
      fun _ _ _ => resting_of_setPhase hrun (hphase ▸ trivial)
    split at hstep
    all_goals
      cases hstep
      exact ⟨rfl, hkept _⟩
  | otherGate =>
    simp only [CreditOperations.step] at hstep
    split_ifs at hstep
    cases hstep
    exact ⟨rfl, fun _ _ hrun _ => hrun⟩

/-- A request that opens late is loaded, and all actions of its package are authorized. -/
theorem openedLate_spec {s t : System} {id : Uuid} (hstep : CreditOperations.step s q = some t)
    (hid : id ∈ openedLate s t q) : ∃ run, t.runs id = some run ∧
      s.store.g4Status run.package = .satisfied ∧ run.phase = .loaded := by
  cases q with
  | openAuthorization authorizationId actionId actor rationaleVi =>
    simp only [openedLate] at hid
    split at hid
    · rename_i run hrun
      split_ifs at hid with hall
      · obtain rfl := List.mem_singleton.1 hid
        refine ⟨run, hrun, hall, ?_⟩
        simp only [CreditOperations.step] at hstep
        split at hstep
        · cases hstep
          rcases update_some_cases hrun with ⟨-, rfl⟩ | ⟨hne, -⟩
          · rfl
          · exact absurd rfl hne
        · cases hstep
      · cases hid
    · cases hid
  | schedule | draft | persist | recordAuthorization | auditAuthorization | readAuthorizations
  | satisfyG4 | otherGate => cases hid

/-! ## What every reachable state satisfies -/

/-- The keys of the inserts are those of the authorizations, each of which is there once; a request that was
opened with all actions authorized has not come to its insert or has been refused. -/
structure Known (d : Desk) : Prop extends Inv d.system where
  once : (d.system.store.authorizations.map (·.key)).Nodup
  keys : ∀ key, key ∈ d.inserts ↔ key ∈ d.system.store.authorizations.map (·.key)
  late : ∀ id ∈ d.late, ∃ run, d.system.runs id = some run ∧
    d.system.store.g4Status run.package = .satisfied ∧
      (run.phase = .loaded ∨ run.phase = .closed ∧ id ∈ d.refused)

theorem Initial.known (h : Initial d) : Known d where
  toInv := h.system.inv
  once := by rw [h.system.noAuthorization]; exact List.nodup_nil
  keys key := by rw [h.noInsert, h.system.noAuthorization]; rfl
  late id hid := by rw [h.noLate] at hid; cases hid

namespace Known

theorem key_mem (h : Known d) {id : Uuid} {run : AuthorizationRun} (hrun : d.system.runs id = some run)
    (hall : d.system.store.g4Status run.package = .satisfied) :
    run.key ∈ d.system.store.authorizations.map (·.key) := by
  obtain ⟨authorization, hmem, hpkg, haction⟩ :=
    mem_authorizedActionIds.1 (g4Status_satisfied_iff.1 hall run.actionId (h.loaded id run hrun).2)
  exact List.mem_map.2 ⟨authorization, hmem, Prod.ext hpkg haction⟩

/-- An insert that goes through adds a new key; the requests opened late are not the one it is of. -/
theorem recorded (h : Known d) {authorizationId : Uuid} {now : Timestamp} {run : AuthorizationRun}
    {store : CreditOpsStore} (hrun : d.system.runs authorizationId = some run)
    (hstore : d.system.store.recordActionAuthorization (run.row authorizationId now) = some store) :
    Known { d with
            system := { d.system.setPhase authorizationId run .recorded with store }
            inserts := run.key :: d.inserts } := by
  have hfree : run.key ∉ d.system.store.authorizations.map (·.key) := by
    intro htaken
    have hnone : d.system.store.recordActionAuthorization (run.row authorizationId now) = none :=
      recordActionAuthorization_eq_none.2 htaken
    rw [hnone] at hstore
    cases hstore
  obtain rfl := recordActionAuthorization_eq_some hstore
  refine ⟨h.toInv.record hrun, ?_, ?_, ?_⟩
  · rw [List.map_cons]
    exact List.nodup_cons.2 ⟨hfree, h.once⟩
  · intro key
    rw [List.map_cons, List.mem_cons, List.mem_cons, h.keys]
    rfl
  · intro id hid
    obtain ⟨other, hother, hall, hphase⟩ := h.late id hid
    have hne : id ≠ authorizationId := by
      rintro rfl
      rw [hrun, Option.some.injEq] at hother
      subst hother
      exact hfree (h.key_mem hrun hall)
    refine ⟨other, (Function.update_of_ne hne _ _).trans hother, ?_, hphase⟩
    rw [g4Status_satisfied_iff] at hall ⊢
    intro actionId haction
    obtain ⟨authorization, hmem, hrest⟩ := mem_authorizedActionIds.1 (hall actionId haction)
    exact mem_authorizedActionIds.2 ⟨authorization, List.mem_cons_of_mem _ hmem, hrest⟩

/-- An insert that is refused has the key of an authorization. -/
theorem refused (h : Known d) {authorizationId : Uuid} {now : Timestamp} {run : AuthorizationRun}
    (hrun : d.system.runs authorizationId = some run)
    (hstore : d.system.store.recordActionAuthorization (run.row authorizationId now) = none) :
    Known { d with
            system := d.system.setPhase authorizationId run .closed
            inserts := run.key :: d.inserts
            refused := authorizationId :: d.refused } := by
  have htaken : run.key ∈ d.system.store.authorizations.map (·.key) :=
    recordActionAuthorization_eq_none.1 hstore
  refine ⟨h.toInv.setPhase hrun, h.once, ?_, ?_⟩
  · intro key
    rw [List.mem_cons, h.keys]
    refine ⟨?_, Or.inr⟩
    rintro (rfl | hknown)
    · exact htaken
    · exact hknown
  · intro id hid
    obtain ⟨other, hother, hall, hphase⟩ := h.late id hid
    by_cases hsame : id = authorizationId
    · subst hsame
      rw [hrun, Option.some.injEq] at hother
      subst hother
      exact ⟨{ run with phase := .closed }, Function.update_self .., hall,
        Or.inr ⟨rfl, List.mem_cons_self⟩⟩
    · refine ⟨other, (Function.update_of_ne hsame _ _).trans hother, hall, hphase.imp_right ?_⟩
      rintro ⟨hclosed, hmem⟩
      exact ⟨hclosed, List.mem_cons_of_mem _ hmem⟩

/-- A request that is opened late is loaded. -/
theorem moved (h : Known d) {system : System} (hins : ∀ id now, q ≠ .recordAuthorization id now)
    (hstep : CreditOperations.step d.system q = some system) :
    Known { d with system, late := openedLate d.system system q ++ d.late } := by
  obtain ⟨hauths, hloaded⟩ := kept_of_moved hins hstep
  refine ⟨h.toInv.step hstep, ?_, ?_, ?_⟩
  · rw [hauths]
    exact h.once
  · intro key
    rw [hauths]
    exact h.keys key
  · intro id hid
    rcases List.mem_append.1 hid with hnew | hold
    · obtain ⟨run, hrun, hall, hphase⟩ := openedLate_spec hstep hnew
      exact ⟨run, hrun, g4Status_grows hstep hall, Or.inl hphase⟩
    · obtain ⟨run, hrun, hall, hphase⟩ := h.late id hold
      refine ⟨run, hloaded id run hrun ?_, g4Status_grows hstep hall, hphase⟩
      rcases hphase with hphase | ⟨hphase, -⟩
      all_goals
        rw [hphase]
        exact not_false

/-- **Every step keeps what is known.** -/
theorem step (h : Known d) (hstep : d.step q = some e) : Known e := by
  cases step_cases hstep with
  | recorded hrun _ hstore => exact h.recorded hrun hstore
  | refused hrun _ hstore => exact h.refused hrun hstore
  | moved hins hmoved => exact h.moved hins hmoved

theorem retryable_iff_unfailed (h : Known d) : d.Retryable ↔ d.refused = [] := by
  refine ⟨Retryable.unfailed, fun hunfailed => ⟨hunfailed, h.once, ?_⟩⟩
  intro id hid run hrun hclosed
  obtain ⟨_, hother, -, hphase⟩ := h.late id hid
  rw [hrun, Option.some.injEq] at hother
  subst hother
  rcases hphase with hloaded | ⟨-, hrefused⟩
  · rw [hclosed] at hloaded
    cases hloaded
  · rw [hunfailed] at hrefused
    cases hrefused

/-- **A step keeps the promise exactly when it is no second insert.** -/
theorem step_retryable_iff (h : Known d) (hretry : d.Retryable) (hstep : d.step q = some e) :
    e.Retryable ↔ d.FirstInsert q := by
  rw [(h.step hstep).retryable_iff_unfailed]
  cases step_cases hstep with
  | recorded hrun _ hstore =>
    refine iff_of_true hretry.unfailed ?_
    rintro _ hsame
    rw [Option.mem_def, hrun, Option.some.injEq] at hsame
    subst hsame
    rw [h.keys]
    intro htaken
    rw [recordActionAuthorization_eq_none.2 htaken] at hstore
    cases hstore
  | refused hrun _ hstore =>
    refine iff_of_false (List.cons_ne_nil _ _) ?_
    intro hfirst
    refine hfirst _ hrun ?_
    rw [h.keys]
    exact recordActionAuthorization_eq_none.1 hstore
  | moved hins =>
    refine iff_of_true hretry.unfailed ?_
    cases q with
    | recordAuthorization id now => exact absurd rfl (hins id now)
    | schedule | draft | persist | openAuthorization | auditAuthorization | readAuthorizations
    | satisfyG4 | otherGate => trivial

end Known

theorem Initial.retryable (h : Initial d) : d.Retryable :=
  h.known.retryable_iff_unfailed.2 h.noRefusal

end Desk

/-- **Authorizing can be retried exactly when nothing is inserted twice.** All along a run no request fails
because its action is authorized, no action has two authorizations, and a request that was opened with all
actions authorized has ended with the gate satisfied, if and only if every request that comes to its insert
is the first to do so for its action of its package. -/
theorem retries_act_iff {d e : Desk} {qs : List Request} (hinit : d.Initial)
    (hrun : run Desk.step d qs = some e) :
    AllAlong Desk.step Desk.Retryable d qs ↔ RunMeets Desk.step Desk.FirstInsert d qs :=
  allAlong_iff_runMeets (fun h _ hstep _ => Desk.Known.step h hstep) Desk.Known.step_retryable_iff
    hinit.known hinit.retryable hrun

/-! ## A crash behind the last authorization -/

section Histories

/-- No package and no request yet. -/
def sampleDesk : Desk where
  system := unpackagedCase
  inserts := []
  refused := []
  late := []

theorem sampleDesk_initial : sampleDesk.Initial where
  system := unpackagedCase_initial
  noInsert := rfl
  noRefusal := rfl
  noLate := rfl

theorem authorizedOnce_retryable : AllAlong Desk.step Desk.Retryable sampleDesk actionsAuthorized := by
  have hruns : (run Desk.step sampleDesk actionsAuthorized).isSome = true := by
    decide +kernel
  obtain ⟨t, hrun⟩ := Option.isSome_iff_exists.1 hruns
  exact (retries_act_iff sampleDesk_initial hrun).2 (by decide +kernel)

/-- The second request crashes behind its insert, and the officer asks again for the action. -/
def crashedThenRetried : List Request :=
  [.schedule 204 1, .draft 204 304 completeView [] [] (400 + ·), .persist 204 5] ++
    authorizing 501 400 ++ (authorizing 502 401).take 2 ++ (authorizing 503 401).take 2

/-- **The retry is refused.** Both actions are authorized, the request for one of them that was opened then
has failed, and the gate of the package is not satisfied. -/
theorem retry_refused :
    sampleDesk.Initial ∧ ∃ d, run Desk.step sampleDesk crashedThenRetried = some d ∧
      ¬ d.Retryable ∧ (503 ∈ d.refused ∧ 503 ∈ d.late) ∧
      ∃ row ∈ d.system.store.packages,
        (∀ id ∈ row.package.actionIds, id ∈ d.system.store.authorizedActionIds row.package.id) ∧
          ¬ d.system.tables.GateSatisfied row.package.caseVersion .g4OpsAuthorization := by
  refine ⟨sampleDesk_initial, ?_⟩
  have hruns : (run Desk.step sampleDesk crashedThenRetried).any (fun d =>
      (503 ∈ d.refused ∧ 503 ∈ d.late) ∧ ∃ row ∈ d.system.store.packages,
        (∀ id ∈ row.package.actionIds, id ∈ d.system.store.authorizedActionIds row.package.id) ∧
          ¬ d.system.tables.GateSatisfied row.package.caseVersion .g4OpsAuthorization) = true := by
    decide +kernel
  obtain ⟨d, hrun, hstate⟩ := (Option.any_eq_true _ _).1 hruns
  have hfailed := of_decide_eq_true hstate
  refine ⟨d, hrun, ?_, hfailed⟩
  intro hretry
  have hrefused := hfailed.1.1
  rw [hretry.unfailed] at hrefused
  cases hrefused

end Histories

end CreditOps.CreditOperations
