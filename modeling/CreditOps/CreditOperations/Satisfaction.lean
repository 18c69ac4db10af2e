import CreditOps.CreditOperations.Authorization

/-!
# The last authorization satisfies the gate

Every authorization request reads the authorizations back after its own insert has committed. So once all
actions of a package are authorized, the gate of its version is satisfied or some request is still between
its insert and its end, and will satisfy it (`Settles`): the request of the last authorization reads all of
them, whatever the others have seen. With no request in flight the gate is satisfied
(`operationsGate_settled`).
-/

set_option autoImplicit false

namespace CreditOps.CreditOperations

open Transition PartialMap Orchestration

/-- The request has inserted its authorization and has not come to its end. -/
def AuthorizationPhase.InFlight : AuthorizationPhase → Prop
  | .recorded | .audited | .derived => True
  | .loaded | .closed => False

/-- Some request about the package is in flight. -/
def PackageInFlight (s : System) (package : CreditOpsPackage) : Prop :=
  ∃ id, ∃ run, s.runs id = some run ∧ run.package = package ∧ run.phase.InFlight

/-- The gate of every package whose actions are all authorized is satisfied, or a request in flight will
satisfy it. -/
structure Settles (s : System) : Prop extends Inv s where
  settles : ∀ row ∈ s.store.packages, s.store.g4Status row.package = .satisfied →
    s.tables.GateSatisfied row.package.caseVersion .g4OpsAuthorization ∨
      PackageInFlight s row.package

variable {s t : System} {q : Request}

theorem Initial.settles (h : Initial s) : Settles s where
  toInv := h.inv
  settles row hmem := by rw [h.noPackage] at hmem; cases hmem

/-! ## Requests in flight -/

section Flight

variable {package : CreditOpsPackage} {authorizationId : Uuid} {run : AuthorizationRun}
  {phase : AuthorizationPhase}

theorem PackageInFlight.goesOn (h : PackageInFlight s package)
    (hrun : s.runs authorizationId = some run) (hphase : phase.InFlight) :
    PackageInFlight (s.setPhase authorizationId run phase) package := by
  obtain ⟨id, other, hother, hpkg, hflight⟩ := h
  by_cases hid : id = authorizationId
  · subst hid
    rw [hrun, Option.some.injEq] at hother
    subst hother
    exact ⟨id, { run with phase }, Function.update_self .., hpkg, hphase⟩
  · refine ⟨id, other, ?_, hpkg, hflight⟩
    exact (Function.update_of_ne hid _ _).trans hother

theorem PackageInFlight.of_other (h : PackageInFlight s package)
    (hrun : s.runs authorizationId = some run) (hnot : ¬ (run.package = package ∧ run.phase.InFlight)) :
    PackageInFlight (s.setPhase authorizationId run phase) package := by
  obtain ⟨id, hflight⟩ := h
  exact ⟨id, update_keeps hrun hnot hflight⟩

theorem packageInFlight_recorded : PackageInFlight (s.setPhase authorizationId run .recorded)
    run.package :=
  ⟨authorizationId, { run with phase := .recorded }, Function.update_self .., rfl, trivial⟩

end Flight

namespace Settles

variable {now : Timestamp}

/-- A package that is new has no authorization, so its actions are not all authorized. -/
theorem persist (h : Settles s) {taskId : Uuid} {package : CreditOpsPackage}
    (hpkg : s.checkpoints taskId = some package)
    (hfree : package.id ∉ s.store.packages.map (·.package.id)) :
    Settles { s with store := { s.store with packages := ⟨package, now⟩ :: s.store.packages } } := by
  refine ⟨h.toInv.persist hpkg hfree, ?_⟩
  intro row hmem hstat
  rcases List.mem_cons.1 hmem with rfl | hold
  · obtain ⟨actionId, haction⟩ := List.exists_mem_of_ne_nil _ (h.drafted taskId package hpkg)
    obtain ⟨authorization, hauth, hof, -⟩ :=
      mem_authorizedActionIds.1 (g4Status_satisfied_iff.1 hstat actionId haction)
    obtain ⟨owner, howner, hid, -⟩ := h.authorized authorization hauth
    have htaken : package.id ∈ s.store.packages.map (·.package.id) := by
      have hsame : owner.package.id = package.id := hid.trans hof
      rw [← hsame]
      exact List.mem_map_of_mem howner
    exact absurd htaken hfree
  · exact h.settles row hold hstat

variable {authorizationId : Uuid} {run : AuthorizationRun}

/-- **The last authorization.** A new authorization completes its own package at most, and puts that one in
flight. -/
theorem record (h : Settles s) (hrun : s.runs authorizationId = some run) :
    Settles { s.setPhase authorizationId run .recorded with
              store :=
                { s.store with
                  authorizations := run.row authorizationId now :: s.store.authorizations } } := by
  refine ⟨h.toInv.record hrun, ?_⟩
  intro row hmem hstat
  by_cases hpkg : run.package = row.package
  · right
    rw [← hpkg]
    exact packageInFlight_recorded
  · -- an authorization of another package changes nothing for this one
    have hother : run.package.id ≠ row.package.id := by
      intro hid
      obtain ⟨⟨_, hstored, hsame⟩, -⟩ := h.loaded authorizationId run hrun
      rw [← hsame] at hid hpkg
      exact hpkg (congrArg PackageRow.package (List.inj_on_of_nodup_map h.keyed hstored hmem hid))
    have hold : s.store.g4Status row.package = .satisfied := by
      rw [g4Status_satisfied_iff] at hstat ⊢
      intro id hid
      obtain ⟨authorization, hauth, hof, haction⟩ :=
        mem_authorizedActionIds.1 (hstat id hid)
      rcases List.mem_cons.1 hauth with rfl | hold
      · exact absurd hof hother
      · exact mem_authorizedActionIds.2 ⟨authorization, hold, hof, haction⟩
    rcases h.settles row hmem hold with hgate | hflight
    · exact Or.inl hgate
    · refine Or.inr (hflight.of_other hrun ?_)
      rintro ⟨hsame, -⟩
      exact hpkg hsame

theorem goesOn (h : Settles s) {phase : AuthorizationPhase} (hrun : s.runs authorizationId = some run)
    (hphase : phase.InFlight) :
    Settles (s.setPhase authorizationId run phase) := by
  refine ⟨h.toInv.setPhase hrun, ?_⟩
  intro row hmem hstat
  exact (h.settles row hmem hstat).imp_right fun hflight => hflight.goesOn hrun hphase

theorem leaves (h : Settles s) (hrun : s.runs authorizationId = some run)
    (hopened : s.store.g4Status run.package = .opened) :
    Settles (s.setPhase authorizationId run .closed) := by
  refine ⟨h.toInv.setPhase hrun, ?_⟩
  intro row hmem hstat
  refine (h.settles row hmem hstat).imp_right fun hflight => hflight.of_other hrun ?_
  rintro ⟨hsame, -⟩
  rw [hsame] at hopened
  cases hopened.symm.trans hstat

/-- A gate write satisfies the gate of its version and takes no other back. -/
theorem satisfies (h : Settles s) {actorId : Option Uuid} {dispositionRef : Option String}
    (hrun : s.runs authorizationId = some run) :
    Settles { s.setPhase authorizationId run .closed with
              tables := s.tables.ensureGate run.package.caseVersion .g4OpsAuthorization
                .satisfied now actorId dispositionRef } := by
  have hinv : Inv (s.setPhase authorizationId run .closed) := h.toInv.setPhase hrun
  refine ⟨⟨hinv.drafted, hinv.proposing, hinv.keyed, hinv.loaded, hinv.authorized⟩, ?_⟩
  intro row hmem hstat
  by_cases hpkg : run.package = row.package
  · left
    rw [← hpkg]
    exact CaseTables.gateSatisfied_ensureGate_self ..
  · rcases h.settles row hmem hstat with hgate | hflight
    · exact Or.inl (CaseTables.gateSatisfied_ensureGate_of hgate)
    · refine Or.inr (hflight.of_other hrun ?_)
      rintro ⟨hsame, -⟩
      exact hpkg hsame

/-- **Every step settles.** -/
theorem step (h : Settles s) (hstep : CreditOperations.step s q = some t) : Settles t := by
  have hinv := h.toInv.step hstep
  cases step_cases hstep with
  | scheduled | drafted => exact ⟨hinv, h.settles⟩
  | persisted hpkg hstore =>
    rcases persistPackage_cases hstore with rfl | ⟨hfree, rfl⟩
    · exact h
    · exact h.persist hpkg hfree
  | opened hfree =>
    refine ⟨hinv, fun row hmem hstat => (h.settles row hmem hstat).imp_right ?_⟩
    rintro ⟨id, run, hrun, hrest⟩
    exact ⟨id, run, update_of_free hfree hrun, hrest⟩
  | recorded hrun _ hstore =>
    obtain rfl := recordActionAuthorization_eq_some hstore
    exact h.record hrun
  | @audited authorizationId run audit hrun =>
    have hgoes : Settles (s.setPhase authorizationId run .audited) := h.goesOn hrun trivial
    exact ⟨hinv, hgoes.settles⟩
  | derived hrun => exact h.goesOn hrun trivial
  | left hrun hopened => exact h.leaves hrun hopened
  | satisfied hrun => exact h.satisfies hrun
  | otherSatisfied =>
    refine ⟨hinv, fun row hmem hstat => (h.settles row hmem hstat).imp_left ?_⟩
    exact fun hsat => CaseTables.gateSatisfied_ensureGate_of hsat

end Settles

/-- **No authorization is lost on the way to the gate.** In every state of every run, a stored package all
of whose actions are authorized and about which no request is in flight has its gate satisfied. -/
theorem operationsGate_settled {as : List Request} (hinit : Initial s)
    (hrun : run step s as = some t) {row : PackageRow} (hmem : row ∈ t.store.packages)
    (hall : ∀ id ∈ row.package.actionIds, id ∈ t.store.authorizedActionIds row.package.id)
    (hended : ¬ PackageInFlight t row.package) :
    t.tables.GateSatisfied row.package.caseVersion .g4OpsAuthorization := by
  have hsettles := run_invariant Settles.step hinit.settles hrun
  exact (hsettles.settles row hmem (g4Status_satisfied_iff.2 hall)).resolve_right hended

end CreditOps.CreditOperations
