import CreditOps.ContractPackages.Appends

/-!
# The version chain under concurrent requests

What a request commits is a whole plan or nothing: its package version with its redline or its evidence
and its audit event. Until it commits, the rows it has inserted are the ones of its plan so far, built on
a committed version (`StageSound`), and nothing of a failed request is stored. The unique constraint on
the version number lets a version be committed only while it is the next one, so the chain stays numbered
without a hole (`Sound.commit`), whatever the requests do and however they interleave
(`sound_of_run`).
-/

set_option autoImplicit false

namespace CreditOps.ContractPackages

open KeyedInserts Transition

/-! ## Plans -/

/-- The plans of the repository that write a package row. -/
inductive IsPlan (package : PackageRow) : Plan → Prop where
  | create : IsPlan package (createPlan package)
  | redline (redline : ContractRedline) (hcont : redline.changedContentVi = package.contentVi) :
      IsPlan package (redlinePlan redline package)
  | fence : IsPlan package (fencePlan package)
  | sign (evidence : SignatureEvidence) (hpkg : evidence.packageId = package.id) :
      IsPlan package (signPlan package evidence)

theorem IsPlan.packages {package : PackageRow} {plan : Plan} (h : IsPlan package plan) :
    plan.filterMap (fun entry => entry.1.package?) = [package] := by
  cases h <;> rfl

/-- The package is the first version or follows a known one. -/
def Follows (known : List PackageRow) (package : PackageRow) : Prop :=
  package.packageVersion = 1 ∨ ∃ base ∈ known, package.packageVersion = base.packageVersion + 1

/-- The hash of the row is the hash of its text. -/
def PackageRow.Hashed (package : PackageRow) : Prop :=
  package.contentHash = computeContentHash package.contentVi

/-- The hashes that come with a call are the hashes of its texts. -/
def ContractCall.Hashed : ContractCall → Prop
  | createPackage _ _ contentVi contentHash => contentHash = computeContentHash contentVi
  | addRedline _ changedContentVi changedContentHash =>
    changedContentHash = computeContentHash changedContentVi
  | markMaterialChange | recordSignatureEvidence _ _ => True

theorem ContractEndpoint.hashed_call (endpoint : ContractEndpoint) : endpoint.call.Hashed := by
  cases endpoint with
  | createContractPackage | addContractRedline => rfl
  | approveContractPackage | signContractPackage => trivial

/-! ## Soundness of a stage -/

variable {ι : Type}

/-- The rows a request has inserted, newest first. -/
def stagedRows (id : ι) (written : Plan) : List (WrittenRow ι) :=
  (written.map fun entry => (id, entry.1)).reverse

/-- The rows are all the rows of a plan, newest first. -/
def Whole (package : PackageRow) (rows : List ContractRow) : Prop :=
  ∃ plan, IsPlan package plan ∧ rows = (plan.map (·.1)).reverse

variable [DecidableEq ι]

/-- What is inserted and what is committed of a request at a stage. -/
def StageSound (s : Session ContractKey ι (WrittenRow ι)) (id : ι) : Stage → Prop
  | .begin lost => lost < maxAppendAttempts ∧ s.staged id = [] ∧ rowsBy s.rows id = []
  | .numbering lost base =>
    lost < maxAppendAttempts ∧ s.staged id = [] ∧ rowsBy s.rows id = [] ∧ base ∈ packagesOf s.rows
  | .inserting lost package pending =>
    lost < maxAppendAttempts ∧ rowsBy s.rows id = [] ∧ Follows (packagesOf s.rows) package ∧
      package.Hashed ∧
      ∃ written, IsPlan package (written ++ pending) ∧ s.staged id = stagedRows id written
  | .done lost package =>
    lost < maxAppendAttempts ∧ s.staged id = [] ∧
      (rowsBy s.rows id = [] ∨ Whole package (rowsBy s.rows id))
  | .failed lost => lost ≤ maxAppendAttempts ∧ s.staged id = [] ∧ rowsBy s.rows id = []

/-- What holds of a request, or of an id that has not asked yet. -/
def RequestSound (s : Session ContractKey ι (WrittenRow ι)) (id : ι) :
    Option (ContractRequest × Stage) → Prop
  | none => s.staged id = [] ∧ rowsBy s.rows id = []
  | some (request, stage) => request.call.Hashed ∧ StageSound s id stage

/-- The tables are sound: unique keys, a chain without a hole, and hashes of the texts. -/
structure TablesSound (s : Session ContractKey ι (WrittenRow ι)) : Prop where
  exclusive : Exclusive writtenKeys s
  numbered : AppendLog.Numbered PackageRow.packageVersion (packagesOf s.rows)
  hashed : ∀ package ∈ packagesOf s.rows, package.Hashed

/-- The world is sound: the tables are, and every request is. -/
structure AppendWorld.Sound (w : AppendWorld ι) : Prop where
  tables : TablesSound w.session
  requests : ∀ id, RequestSound w.session id (w.requests id)

/-! ## What a request leaves alone -/

/-- From one session to the next, the rows of a request are untouched and no package is gone. -/
structure Untouched (s t : Session ContractKey ι (WrittenRow ι)) (id : ι) : Prop where
  staged : t.staged id = s.staged id
  rows : rowsBy t.rows id = rowsBy s.rows id
  packages : packagesOf s.rows ⊆ packagesOf t.rows

variable {s t : Session ContractKey ι (WrittenRow ι)} {id other : ι} {stage : Stage}
  {package : PackageRow} {w w' : AppendWorld ι} {request : ContractRequest}

theorem Untouched.refl (s : Session ContractKey ι (WrittenRow ι)) (id : ι) : Untouched s s id :=
  ⟨rfl, rfl, List.Subset.refl _⟩

theorem Follows.mono {known known' : List PackageRow} (h : Follows known package)
    (hsub : known ⊆ known') : Follows known' package := by
  rcases h with hfirst | ⟨base, hbase, hnext⟩
  · exact Or.inl hfirst
  · exact Or.inr ⟨base, hsub hbase, hnext⟩

theorem StageSound.of_untouched (h : StageSound s id stage) (hsame : Untouched s t id) :
    StageSound t id stage := by
  cases stage with
  | begin | done | failed => rwa [StageSound, hsame.staged, hsame.rows]
  | numbering =>
    obtain ⟨hlost, hstaged, hrows, hbase⟩ := h
    rw [StageSound, hsame.staged, hsame.rows]
    exact ⟨hlost, hstaged, hrows, hsame.packages hbase⟩
  | inserting =>
    obtain ⟨hlost, hrows, hfollows, hhashed, hwritten⟩ := h
    rw [StageSound, hsame.staged, hsame.rows]
    exact ⟨hlost, hrows, hfollows.mono hsame.packages, hhashed, hwritten⟩

theorem RequestSound.of_untouched {progress : Option (ContractRequest × Stage)}
    (h : RequestSound s id progress) (hsame : Untouched s t id) : RequestSound t id progress := by
  cases progress with
  | none => rwa [RequestSound, hsame.staged, hsame.rows]
  | some => exact ⟨h.1, h.2.of_untouched hsame⟩

/-- **One request moves.** The tables stay sound, the other requests are untouched, and the one that has
moved is sound at its new stage. -/
theorem AppendWorld.Sound.move (h : w.Sound) (htabs : TablesSound w'.session)
    (hothers : ∀ other, other ≠ id → Untouched w.session w'.session other)
    (hreqs : w'.requests = Function.update w.requests id (some (request, stage)))
    (hcall : request.call.Hashed) (hstage : StageSound w'.session id stage) : w'.Sound := by
  refine ⟨htabs, fun other => ?_⟩
  rw [hreqs]
  by_cases hother : other = id
  · subst hother
    rw [Function.update_self]
    exact ⟨hcall, hstage⟩
  · rw [Function.update_of_ne hother]
    exact (h.requests other).of_untouched (hothers other hother)

/-! ## The three ways the tables change -/

section Tables

variable {row : ContractRow}

theorem untouched_insert (h : s.insert writtenKeys id (id, row) = .inserted t) (hother : other ≠ id) :
    Untouched s t other := by
  refine ⟨Session.insert_staged_of_ne h hother, ?_, ?_⟩
  · rw [Session.insert_rows h]
  · rw [Session.insert_rows h]
    exact List.Subset.refl _

theorem TablesSound.insert (h : TablesSound s)
    (hins : s.insert writtenKeys id (id, row) = .inserted t) : TablesSound t := by
  refine ⟨h.exclusive.insert hins, ?_, ?_⟩
  · rw [Session.insert_rows hins]
    exact h.numbered
  · rw [Session.insert_rows hins]
    exact h.hashed

theorem untouched_rollback (hother : other ≠ id) : Untouched s (s.rollback id) other :=
  ⟨Session.rollback_staged_of_ne hother, rfl, List.Subset.refl _⟩

theorem TablesSound.rollback (h : TablesSound s) (id : ι) : TablesSound (s.rollback id) :=
  ⟨h.exclusive.rollback id, h.numbered, h.hashed⟩

end Tables

/-! ## The rows of a commit -/

section Commit

variable {plan : Plan}

omit [DecidableEq ι] in
theorem packagesOf_stagedRows (h : IsPlan package plan) : packagesOf (stagedRows id plan) = [package] := by
  unfold packagesOf stagedRows
  rw [← List.map_reverse, List.filterMap_map, ← List.reverse_reverse (List.filterMap _ plan.reverse),
    ← List.filterMap_reverse, List.reverse_reverse]
  exact congrArg List.reverse h.packages

theorem rowsBy_stagedRows (id : ι) (plan : Plan) :
    rowsBy (stagedRows id plan) id = (plan.map (·.1)).reverse := by
  unfold rowsBy stagedRows
  rw [List.filter_eq_self.2, List.map_reverse, List.map_map]
  · rfl
  · intro row hrow
    obtain ⟨_, -, rfl⟩ := List.mem_map.1 (List.mem_reverse.1 hrow)
    exact decide_eq_true rfl

theorem rowsBy_stagedRows_of_ne (hother : other ≠ id) (plan : Plan) :
    rowsBy (stagedRows id plan) other = [] := by
  unfold rowsBy stagedRows
  rw [List.filter_eq_nil_iff.2, List.map_nil]
  intro row hrow
  obtain ⟨_, -, rfl⟩ := List.mem_map.1 (List.mem_reverse.1 hrow)
  simpa using Ne.symm hother

theorem rowsBy_append (rows rows' : List (WrittenRow ι)) (id : ι) :
    rowsBy (rows ++ rows') id = rowsBy rows id ++ rowsBy rows' id := by
  unfold rowsBy
  rw [List.filter_append, List.map_append]

omit [DecidableEq ι] in
/-- A staged package has a number that no committed package has. -/
theorem packageVersion_ne_of_staged (h : Exclusive writtenKeys s)
    (hstaged : package ∈ packagesOf (s.staged id)) {committed : PackageRow}
    (hcommitted : committed ∈ packagesOf s.rows) :
    committed.packageVersion ≠ package.packageVersion := by
  intro heq
  obtain ⟨⟨_, row⟩, hrow, hpkg⟩ := List.mem_filterMap.1 hstaged
  obtain ⟨⟨_, row'⟩, hrow', hpkg'⟩ := List.mem_filterMap.1 hcommitted
  cases row with
  | package =>
    cases row' with
    | package =>
      cases hpkg
      cases hpkg'
      have hapart := (List.pairwise_append.1 (h.view id)).2.2 _ hrow _ hrow'
      refine hapart (List.mem_singleton.2 rfl) ?_
      exact List.mem_singleton.2 (congrArg ContractKey.packageVersion heq.symm)
    | redline | evidence | audit => cases hpkg'
  | redline | evidence | audit => cases hpkg

/-- **A commit extends the chain by the next version.** -/
theorem TablesSound.commit (h : TablesSound s) (hplan : IsPlan package plan)
    (hstaged : s.staged id = stagedRows id plan) (hfollows : Follows (packagesOf s.rows) package)
    (hhashed : package.Hashed) : TablesSound (s.commit id) := by
  have hpkgs : packagesOf (s.commit id).rows = package :: packagesOf s.rows := by
    rw [Session.commit_rows, packagesOf, List.filterMap_append, hstaged]
    exact congrArg (· ++ packagesOf s.rows) (packagesOf_stagedRows hplan)
  have hmem : package ∈ packagesOf (s.staged id) := by
    rw [hstaged, packagesOf_stagedRows hplan]
    exact List.mem_singleton.2 rfl
  refine ⟨h.exclusive.commit id, ?_, ?_⟩
  · rw [hpkgs]
    refine ⟨h.numbered.eq_next ?_ hfollows, h.numbered⟩
    intro committed hcommitted
    exact packageVersion_ne_of_staged h.exclusive hmem hcommitted
  · rw [hpkgs]
    exact List.forall_mem_cons.2 ⟨hhashed, h.hashed⟩

theorem untouched_commit (hstaged : s.staged id = stagedRows id plan) (hother : other ≠ id) :
    Untouched s (s.commit id) other := by
  refine ⟨Session.commit_staged_of_ne hother, ?_, ?_⟩
  · rw [Session.commit_rows, rowsBy_append, hstaged, rowsBy_stagedRows_of_ne hother, List.nil_append]
  · rw [Session.commit_rows, packagesOf, packagesOf, List.filterMap_append]
    exact List.subset_append_right _ _

end Commit

/-! ## One step -/

section Step

variable {lost : Nat} {base : PackageRow} {newId rowId : Uuid} {action : AppendWorld.Action ι}

omit [DecidableEq ι] in
theorem mem_packagesOf_of_current {rows : List (WrittenRow ι)} (h : loadCurrentPackage rows = some base) :
    base ∈ packagesOf rows :=
  (AppendLog.mem_of_latest _ _ h).1

theorem stageSound_planned {plan : Plan} (hlost : lost < maxAppendAttempts) (hstaged : s.staged id = [])
    (hrows : rowsBy s.rows id = []) (hplan : IsPlan package plan)
    (hfollows : Follows (packagesOf s.rows) package) (hhashed : package.Hashed) :
    StageSound s id (.inserting lost package plan) :=
  ⟨hlost, hrows, hfollows, hhashed, [], hplan, hstaged⟩

theorem follows_next {known : List PackageRow} (hbase : base ∈ known) {contentVi contentHash : String}
    {state : ContractPackageState} {actorId : Uuid} :
    Follows known (base.next newId contentVi contentHash state actorId) :=
  Or.inr ⟨base, hbase, rfl⟩

/-- A request has a sound stage after it has read the current version. -/
theorem stageSound_afterRead (htabs : TablesSound s) (hcall : request.call.Hashed)
    (h : StageSound s id (.begin lost)) :
    StageSound s id
      (AppendWorld.afterRead request lost newId rowId (loadCurrentPackage (s.view id))) := by
  obtain ⟨hlost, hstaged, hrows⟩ := h
  have hview : s.view id = s.rows := by
    rw [Session.view, hstaged, List.nil_append]
  rw [hview]
  cases hcur : loadCurrentPackage s.rows with
  | none =>
    obtain ⟨_, call, _⟩ := request
    cases call with
    | createPackage =>
      exact stageSound_planned hlost hstaged hrows .create (Or.inl rfl) hcall
    | addRedline | markMaterialChange | recordSignatureEvidence => exact ⟨hlost.le, hstaged, hrows⟩
  | some base =>
    have hbase : base ∈ packagesOf s.rows := mem_packagesOf_of_current hcur
    have hhashed : base.Hashed := htabs.hashed base hbase
    obtain ⟨_, call, _⟩ := request
    cases call with
    | createPackage => exact ⟨hlost, hstaged, Or.inl hrows⟩
    | addRedline => exact ⟨hlost, hstaged, hrows, hbase⟩
    | markMaterialChange =>
      unfold AppendWorld.afterRead
      dsimp only
      split
      · exact ⟨hlost, hstaged, Or.inl hrows⟩
      · exact stageSound_planned hlost hstaged hrows .fence (follows_next hbase) hhashed
    | recordSignatureEvidence =>
      unfold AppendWorld.afterRead
      dsimp only
      split
      · exact ⟨hlost.le, hstaged, hrows⟩
      · exact ⟨hlost.le, hstaged, hrows⟩
      all_goals
        exact stageSound_planned hlost hstaged hrows (.sign _ rfl) (follows_next hbase) hhashed

theorem stageSound_afterNumber (hcall : request.call.Hashed) (h : StageSound s id (.numbering lost base))
    (redlineVersion : Nat) :
    StageSound s id (AppendWorld.afterNumber request lost newId rowId base redlineVersion) := by
  obtain ⟨hlost, hstaged, hrows, hbase⟩ := h
  obtain ⟨_, call, _⟩ := request
  cases call with
  | addRedline =>
    exact stageSound_planned hlost hstaged hrows (.redline _ rfl) (follows_next hbase) hcall
  | createPackage | markMaterialChange | recordSignatureEvidence => exact ⟨hlost.le, hstaged, hrows⟩

/-- **A lost race.** The request starts over or has failed, and nothing of it is stored. -/
theorem stageSound_afterConflict (hlost : lost < maxAppendAttempts) (hrows : rowsBy s.rows id = [])
    (onConflict : OnConflict) :
    StageSound (s.rollback id) id (AppendWorld.afterConflict lost onConflict) := by
  cases onConflict with
  | raise => exact ⟨hlost, Session.rollback_staged_self, hrows⟩
  | retryAppend =>
    unfold AppendWorld.afterConflict
    dsimp only
    split
    · rename_i hleft
      exact ⟨hleft, Session.rollback_staged_self, hrows⟩
    · exact ⟨hlost, Session.rollback_staged_self, hrows⟩

theorem AppendWorld.Sound.statement (h : w.Sound) (hstep : w.statement id newId rowId = some w') :
    w'.Sound := by
  unfold AppendWorld.statement at hstep
  have hsound := h.requests id
  split at hstep
  case h_1 request lost hat =>
    -- the current version is read
    cases hstep
    rw [hat] at hsound
    exact h.move h.tables (fun _ _ => Untouched.refl _ _) rfl hsound.1
      (stageSound_afterRead h.tables hsound.1 hsound.2)
  case h_2 request lost base hat =>
    -- the number of the redline is read
    cases hstep
    rw [hat] at hsound
    exact h.move h.tables (fun _ _ => Untouched.refl _ _) rfl hsound.1
      (stageSound_afterNumber hsound.1 hsound.2 _)
  case h_3 request lost package row onConflict pending hat =>
    rw [hat] at hsound
    obtain ⟨hcall, hlost, hrows, hfollows, hhashed, written, hplan, hstaged⟩ := hsound
    split at hstep
    · cases hstep
    · -- the insert has met a row of another request
      cases hstep
      exact h.move (h.tables.rollback id) (fun _ hother => untouched_rollback hother) rfl hcall
        (stageSound_afterConflict hlost hrows onConflict)
    · rename_i session hins
      cases hstep
      have hrows' : session.rows = w.session.rows := Session.insert_rows hins
      refine h.move (h.tables.insert hins) (fun _ hother => untouched_insert hins hother) rfl
        hcall ⟨hlost, ?_, ?_, hhashed, written ++ [(row, onConflict)], ?_, ?_⟩
      · rw [hrows']
        exact hrows
      · rw [hrows']
        exact hfollows
      · rw [List.append_assoc]
        exact hplan
      · rw [Session.insert_staged_self hins, hstaged, stagedRows, stagedRows, List.map_append,
          List.reverse_append]
        rfl
  case h_4 request lost package hat =>
    -- every row of the plan is in, and the transaction commits
    cases hstep
    rw [hat] at hsound
    obtain ⟨hcall, hlost, hrows, hfollows, hhashed, plan, hplan, hstaged⟩ := hsound
    rw [List.append_nil] at hplan
    refine h.move (h.tables.commit hplan hstaged hfollows hhashed)
      (fun _ hother => untouched_commit hstaged hother) rfl hcall
      ⟨hlost, Session.commit_staged_self, Or.inr ⟨plan, hplan, ?_⟩⟩
    rw [Session.commit_rows, rowsBy_append, hstaged, rowsBy_stagedRows, hrows, List.append_nil]
  case h_5 => cases hstep
  case h_6 => cases hstep
  case h_7 => cases hstep

theorem StageSound.rows_eq_nil (h : StageSound s id stage)
    (hopen : ∀ lost package, stage ≠ .done lost package) :
    rowsBy s.rows id = [] := by
  cases stage with
  | begin | failed => exact h.2.2
  | numbering => exact h.2.2.1
  | inserting => exact h.2.1
  | done lost package => exact absurd rfl (hopen lost package)

theorem StageSound.lost_le (h : StageSound s id stage) : stage.lost ≤ maxAppendAttempts := by
  cases stage with
  | begin | numbering | inserting | done => exact h.1.le
  | failed => exact h.1

theorem AppendWorld.Sound.step (h : w.Sound) (hstep : w.step action = some w') : w'.Sound := by
  cases action with
  | request id endpoint caseVersion actorId =>
    have hsound := h.requests id
    unfold AppendWorld.step at hstep
    dsimp only at hstep
    split at hstep
    · rename_i hat
      cases hstep
      rw [hat] at hsound
      exact h.move h.tables (fun _ _ => Untouched.refl _ _) rfl endpoint.hashed_call
        ⟨by decide, hsound.1, hsound.2⟩
    · cases hstep
  | statement => exact h.statement hstep
  | crash id =>
    have hsound := h.requests id
    unfold AppendWorld.step at hstep
    dsimp only at hstep
    split at hstep
    · cases hstep
    · cases hstep
    · cases hstep
    rename_i request stage hdone hfailed hat
    cases hstep
    rw [hat] at hsound
    exact h.move (h.tables.rollback id) (fun _ hother => untouched_rollback hother) rfl hsound.1
      ⟨hsound.2.lost_le, Session.rollback_staged_self, hsound.2.rows_eq_nil hdone⟩

theorem AppendWorld.sound_empty : (AppendWorld.empty : AppendWorld ι).Sound where
  tables := ⟨exclusive_empty, trivial, fun _ hmem => absurd hmem List.not_mem_nil⟩
  requests _ := ⟨rfl, rfl⟩

/-- **Every reachable world is sound.** -/
theorem AppendWorld.sound_of_run {actions : List (AppendWorld.Action ι)}
    (h : run AppendWorld.step AppendWorld.empty actions = some w) : w.Sound :=
  run_invariant (fun hsound hstep => hsound.step hstep) AppendWorld.sound_empty h

end Step

/-! ## Lost races -/

/-- How often a request has lost a race. -/
def AppendWorld.lostBy (w : AppendWorld ι) (id : ι) : Nat :=
  ((w.requests id).map (·.2.lost)).getD 0

/-- The step has made the request start over from the new current version, or fail. -/
def AppendWorld.StartedOver (w : AppendWorld ι) (id : ι) : Prop :=
  ∃ request lost, lost < maxAppendAttempts ∧ w.requests id = some (request, .begin lost) ∨
    w.requests id = some (request, .failed lost)

section LostRace

variable {newId rowId : Uuid} {action : AppendWorld.Action ι} {progress : ContractRequest × Stage}

omit [DecidableEq ι] in
theorem lostBy_eq (h : w.requests id = some progress) : w.lostBy id = progress.2.lost := by
  unfold AppendWorld.lostBy
  rw [h]
  rfl

theorem lostBy_put_of_ne (hother : other ≠ id) :
    (w.put id request stage).lostBy other = w.lostBy other := by
  have hsame : (w.put id request stage).requests other = w.requests other :=
    Function.update_of_ne hother ..
  rw [AppendWorld.lostBy, AppendWorld.lostBy, hsame]

theorem requests_put_self : (w.put id request stage).requests id = some (request, stage) :=
  Function.update_self ..

theorem lost_afterRead (lost : Nat) (current : Option PackageRow) :
    (AppendWorld.afterRead request lost newId rowId current).lost = lost := by
  obtain ⟨_, call, _⟩ := request
  cases current with
  | none => cases call <;> rfl
  | some =>
    cases call with
    | createPackage | addRedline => rfl
    | markMaterialChange | recordSignatureEvidence =>
      unfold AppendWorld.afterRead
      dsimp only
      split <;> rfl

theorem lost_afterNumber (lost : Nat) (base : PackageRow) (redlineVersion : Nat) :
    (AppendWorld.afterNumber request lost newId rowId base redlineVersion).lost = lost := by
  obtain ⟨_, call, _⟩ := request
  cases call <;> rfl

theorem startedOver_afterConflict {lost : Nat} {onConflict : OnConflict} :
    (w.abort id request (AppendWorld.afterConflict lost onConflict)).StartedOver id := by
  cases onConflict with
  | raise => exact ⟨request, lost + 1, Or.inr requests_put_self⟩
  | retryAppend =>
    by_cases hleft : lost + 1 < maxAppendAttempts
    · refine ⟨request, lost + 1, Or.inl ⟨hleft, ?_⟩⟩
      rw [AppendWorld.afterConflict, if_pos hleft]
      exact requests_put_self
    · refine ⟨request, lost + 1, Or.inr ?_⟩
      rw [AppendWorld.afterConflict, if_neg hleft]
      exact requests_put_self

/-- **A lost race.** Nothing is committed by the step that loses it, and what the request has inserted is
gone. -/
theorem lost_race (h : w.step action = some w') (hlost : w.lostBy id < w'.lostBy id) :
    w'.session.rows = w.session.rows ∧ w'.session.staged id = [] ∧ w'.StartedOver id := by
  have hself : ∀ {other : ι} {request : ContractRequest} {stage : Stage} {s},
      w' = { w.put other request stage with session := s } →
        other = id ∧ w.lostBy other < stage.lost := by
    rintro other request stage s rfl
    by_cases hother : id = other
    · subst hother
      refine ⟨rfl, hlost.trans_le (le_of_eq ?_)⟩
      exact lostBy_eq (requests_put_self : (w.put id request stage).requests id = _)
    · have hsame : ({ w.put other request stage with session := s } : AppendWorld ι).lostBy id =
          w.lostBy id := lostBy_put_of_ne hother
      rw [hsame] at hlost
      exact absurd hlost (lt_irrefl _)
  cases action with
  | request =>
    unfold AppendWorld.step at h
    dsimp only at h
    split at h
    · cases h
      exact absurd (hself rfl).2 (Nat.not_lt_zero _)
    · cases h
  | statement other newId rowId =>
    change w.statement other newId rowId = some w' at h
    unfold AppendWorld.statement at h
    split at h
    case h_1 request lost hat =>
      cases h
      have hless := (hself rfl).2
      rw [lost_afterRead, lostBy_eq hat] at hless
      exact absurd hless (lt_irrefl _)
    case h_2 request lost base hat =>
      cases h
      have hless := (hself rfl).2
      rw [lost_afterNumber, lostBy_eq hat] at hless
      exact absurd hless (lt_irrefl _)
    case h_3 request lost package row onConflict pending hat =>
      split at h
      · cases h
      · cases h
        obtain ⟨rfl, -⟩ := hself rfl
        exact ⟨rfl, Session.rollback_staged_self, startedOver_afterConflict⟩
      · cases h
        have hless := (hself rfl).2
        rw [lostBy_eq hat] at hless
        exact absurd hless (lt_irrefl _)
    case h_4 request lost package hat =>
      cases h
      have hless := (hself rfl).2
      rw [lostBy_eq hat] at hless
      exact absurd hless (lt_irrefl _)
    case h_5 => cases h
    case h_6 => cases h
    case h_7 => cases h
  | crash other =>
    unfold AppendWorld.step at h
    dsimp only at h
    split at h
    · cases h
    · cases h
    · cases h
    rename_i request stage _ _ hat
    cases h
    have hless := (hself rfl).2
    rw [lostBy_eq hat] at hless
    exact absurd hless (lt_irrefl _)

end LostRace

/-! ## The chain -/

/-- **The version chain.** However the requests interleave, the versions are numbered from one without a
hole or a repetition, and every hash is the hash of its text. A request that has lost races has lost at
most eight, nothing of a request is stored unless it is done, and then all the rows of one plan are. The
step that loses a race commits nothing and drops what the request had inserted. -/
theorem chain_of_run {actions : List (AppendWorld.Action ι)}
    (h : run AppendWorld.step AppendWorld.empty actions = some w) :
    (w.packages.map (·.packageVersion)).reverse = List.range' 1 w.packages.length ∧
      (∀ package ∈ w.packages, package.contentHash = computeContentHash package.contentVi) ∧
      (∀ id request stage, w.requests id = some (request, stage) →
        stage.lost ≤ maxAppendAttempts ∧
          (w.rowsOf id = [] ∨
            ∃ lost package, stage = .done lost package ∧ Whole package (w.rowsOf id))) ∧
      ∀ action w' id, w.step action = some w' → w.lostBy id < w'.lostBy id →
        w'.session.rows = w.session.rows ∧ w'.session.staged id = [] ∧ w'.rowsOf id = [] ∧
          w'.StartedOver id := by
  have hsound := AppendWorld.sound_of_run h
  refine ⟨hsound.tables.numbered.map_reverse, hsound.tables.hashed, ?_, ?_⟩
  · intro id request stage hat
    have hreq := hsound.requests id
    rw [hat] at hreq
    refine ⟨hreq.2.lost_le, ?_⟩
    cases stage with
    | done lost package =>
      rcases hreq.2.2.2 with hnone | hwhole
      · exact Or.inl hnone
      · exact Or.inr ⟨lost, package, rfl, hwhole⟩
    | begin | numbering | inserting | failed =>
      exact Or.inl (hreq.2.rows_eq_nil (by rintro _ _ ⟨⟩))
  · intro action w' id hstep hlost
    obtain ⟨hrows, hstaged, hover⟩ := lost_race hstep hlost
    refine ⟨hrows, hstaged, ?_, hover⟩
    have hreq := (hsound.step hstep).requests id
    obtain ⟨_, _, ⟨-, hat⟩ | hat⟩ := hover
    all_goals
      rw [hat] at hreq
      exact hreq.2.2.2

/-- An approval without terms. -/
def sampleDecision : CreditDecision where
  decisionId := 1
  decisionType := .approvedAsProposed
  rationaleVi := "đủ điều kiện"
  conditions := []
  terms := ⟨none, none, none, none⟩
  snapshotHash := "terms"

/-- The first draft, and two redlines that have read it; the second one commits first. -/
def overtakenRun : List (AppendWorld.Action Nat) :=
  [.request 0 (.createContractPackage sampleDecision) 1 7, .statement 0 100 0, .statement 0 0 0,
    .statement 0 0 0, .statement 0 0 0,
    .request 1 (.addContractRedline "sửa" "bản A") 1 8,
    .request 2 (.addContractRedline "sửa" "bản B") 1 9,
    .statement 1 0 0, .statement 2 0 0, .statement 2 102 202, .statement 2 0 0, .statement 2 0 0,
    .statement 2 0 0, .statement 2 0 0,
    -- the first redline takes the second number on the draft, and meets the new version
    .statement 1 101 201, .statement 1 0 0, .statement 1 0 0,
    -- it starts over from the new version
    .statement 1 0 0, .statement 1 103 203, .statement 1 0 0, .statement 1 0 0, .statement 1 0 0,
    .statement 1 0 0]

set_option maxRecDepth 20000 in
theorem overtakenRun_ends : (run AppendWorld.step AppendWorld.empty overtakenRun).any (fun w =>
    w.packages.map (·.packageVersion) = [3, 2, 1] ∧ w.lostBy 1 = 1 ∧
      (w.rowsOf 1).length = 3 ∧ (w.requests 1).isSome = true) = true := by
  decide +kernel

/-- **A lost race is not the end of a redline.** It has lost one race and has committed its redline, its
version and its audit event. -/
theorem redline_stored_after_lost_race : ¬ ∀ (actions : List (AppendWorld.Action Nat))
    (w : AppendWorld Nat), run AppendWorld.step AppendWorld.empty actions = some w →
      ∀ id, 0 < w.lostBy id → w.rowsOf id = [] := by
  intro hclaim
  obtain ⟨w, hrun, hends⟩ := (Option.any_eq_true _ _).1 overtakenRun_ends
  obtain ⟨-, hlost, hrows, -⟩ := of_decide_eq_true hends
  have hnone := hclaim overtakenRun w hrun 1 (by rw [hlost]; exact Nat.one_pos)
  rw [hnone] at hrows
  cases hrows

theorem chain_of_overtakenRun : ∃ w,
    run AppendWorld.step AppendWorld.empty overtakenRun = some w ∧
      (w.packages.map (·.packageVersion)).reverse = List.range' 1 w.packages.length ∧
      w.packages.length = 3 := by
  obtain ⟨w, hrun, hends⟩ := (Option.any_eq_true _ _).1 overtakenRun_ends
  obtain ⟨hvers, -⟩ := of_decide_eq_true hends
  refine ⟨w, hrun, (chain_of_run hrun).1, ?_⟩
  have hlen := congrArg List.length hvers
  rwa [List.length_map] at hlen

end CreditOps.ContractPackages
