import CreditOps.ContractPackages.Chain

/-!
# The redline history of a case version

A redline is numbered within the package version it changes, and it leaves a newer package version. So the
next redline is the first one of that newer version: every committed redline has the number one
(`RedlinesNumbered.of_run`). The package view lists the redlines of the whole case version by that number,
and the database returns rows with the same number in any order (`ListsRedlines`).

The history keeps its order exactly while it has at most one redline (`keepsHistory_iff`).
-/

set_option autoImplicit false

namespace CreditOps.ContractPackages

open KeyedInserts Transition

/-! ## The package view -/

/-- The evidence row, if it is one. -/
def ContractRow.evidence? : ContractRow → Option SignatureEvidence
  | evidence row => some row
  | package _ | redline _ | audit _ => none

/-- `ContractPackageView` -/
structure ContractPackageView where
  package : PackageRow
  redlines : List ContractRedline
  signatureEvidence : Option SignatureEvidence
deriving DecidableEq

variable {ι : Type}

/-- `_load_redlines_on`: the committed rows, `order by redline_version`. Rows with the same number stand in
any order. -/
structure ListsRedlines (rows : List (WrittenRow ι)) (listing : List ContractRedline) : Prop where
  perm : listing.Perm (redlinesOf rows)
  ordered : listing.Pairwise fun earlier later => earlier.redlineVersion ≤ later.redlineVersion

/-- `_load_evidence_on` -/
def loadEvidence (rows : List (WrittenRow ι)) (packageId : Uuid) : Option SignatureEvidence :=
  (rows.filterMap fun row => row.2.evidence?).find? (·.packageId = packageId)

/-- `load_package_view`: what it may return from these rows. -/
inductive LoadsPackageView (rows : List (WrittenRow ι)) : Option ContractPackageView → Prop
  | absent (hnone : loadCurrentPackage rows = none) : LoadsPackageView rows none
  | view (current : PackageRow) (redlines : List ContractRedline)
      (hcur : loadCurrentPackage rows = some current) (hredls : ListsRedlines rows redlines) :
      LoadsPackageView rows (some ⟨current, redlines, loadEvidence rows current.id⟩)

/-- **The history keeps its order.** Every view lists the committed redlines in the order they were
appended, with increasing numbers. -/
def KeepsHistory (rows : List (WrittenRow ι)) : Prop :=
  ∀ view, LoadsPackageView rows (some view) →
    view.redlines = (redlinesOf rows).reverse ∧
      view.redlines.Pairwise fun earlier later => earlier.redlineVersion < later.redlineVersion

/-! ## What is known of a redline -/

/-- The redline changes a known package version, and the package written with it is the next one. The
number is one, or the place of the next package is taken. -/
structure RedlineSound (known : List PackageRow) (redline : ContractRedline) (package : PackageRow) :
    Prop where
  base : ∃ base ∈ known, base.id = redline.packageId ∧
    package.packageVersion = base.packageVersion + 1
  number : redline.redlineVersion = 1 ∨ ∃ taken ∈ known, taken.packageVersion = package.packageVersion

/-- A committed redline has the number one, and the version after the one it changes is committed. -/
structure CommittedSound (known : List PackageRow) (redline : ContractRedline) : Prop where
  number : redline.redlineVersion = 1
  superseded : ∃ base ∈ known, base.id = redline.packageId ∧
    ∃ next ∈ known, next.packageVersion = base.packageVersion + 1

/-- The redline of an open transaction, inserted already or still to be inserted. -/
def openRedlines (s : Session ContractKey ι (WrittenRow ι)) (id : ι) : Stage → List ContractRedline
  | .inserting _ _ pending => redlinesOf (s.staged id) ++ pending.filterMap (·.1.redline?)
  | .begin _ | .numbering _ _ | .done _ _ | .failed _ => []

/-- What is known of a request that has read its redline number. -/
def PendingSound (s : Session ContractKey ι (WrittenRow ι)) (id : ι) : Stage → Prop
  | .inserting lost package pending =>
    ∀ redline ∈ openRedlines s id (.inserting lost package pending),
      RedlineSound (packagesOf s.rows) redline package
  | .begin _ | .numbering _ _ | .done _ _ | .failed _ => True

/-- **The invariant of the numbers**, of the committed redlines and of the open ones. -/
structure RedlinesNumbered (w : AppendWorld ι) : Prop where
  committed : ∀ redline ∈ redlinesOf w.session.rows, CommittedSound w.packages redline
  pending : ∀ id request stage, w.requests id = some (request, stage) → PendingSound w.session id stage

/-- The primary key of `contract_packages`. -/
def DistinctPackages (w : AppendWorld ι) : Prop :=
  (w.packages.map (·.id)).Nodup

variable {known known' : List PackageRow} {redline : ContractRedline} {package : PackageRow}
  {s t : Session ContractKey ι (WrittenRow ι)} {id other : ι} {request : ContractRequest} {stage : Stage}
  {w w' : AppendWorld ι}

theorem RedlineSound.mono (h : RedlineSound known redline package) (hsub : known ⊆ known') :
    RedlineSound known' redline package := by
  obtain ⟨⟨base, hbase, hid, hnext⟩, hnumber⟩ := h
  refine ⟨⟨base, hsub hbase, hid, hnext⟩, hnumber.imp_right ?_⟩
  rintro ⟨taken, htaken, hver⟩
  exact ⟨taken, hsub htaken, hver⟩

theorem CommittedSound.mono (h : CommittedSound known redline) (hsub : known ⊆ known') :
    CommittedSound known' redline := by
  obtain ⟨hnumber, base, hbase, hid, next, hnext, hver⟩ := h
  exact ⟨hnumber, base, hsub hbase, hid, next, hsub hnext, hver⟩

theorem PendingSound.mono (h : PendingSound s id stage) (hstaged : t.staged id = s.staged id)
    (hsub : packagesOf s.rows ⊆ packagesOf t.rows) : PendingSound t id stage := by
  cases stage with
  | inserting =>
    intro redline hredl
    rw [openRedlines, hstaged] at hredl
    exact (h redline hredl).mono hsub
  | begin | numbering | done | failed => trivial

variable [DecidableEq ι]

/-- **One request moves.** What the others have inserted is as before. -/
theorem RedlinesNumbered.move (h : RedlinesNumbered w)
    (hothers : ∀ other, other ≠ id → w'.session.staged other = w.session.staged other)
    (hsub : w.packages ⊆ w'.packages)
    (hreqs : w'.requests = Function.update w.requests id (some (request, stage)))
    (hcommitted : ∀ redline ∈ redlinesOf w'.session.rows, CommittedSound w'.packages redline)
    (hstage : PendingSound w'.session id stage) : RedlinesNumbered w' := by
  refine ⟨hcommitted, fun other request' stage' hat => ?_⟩
  rw [hreqs] at hat
  by_cases hother : other = id
  · subst hother
    rw [Function.update_self] at hat
    cases hat
    exact hstage
  · rw [Function.update_of_ne hother] at hat
    exact (h.pending other request' stage' hat).mono (hothers other hother) hsub

/-- A request moves and nothing is committed. -/
theorem RedlinesNumbered.stay (h : RedlinesNumbered w)
    (hothers : ∀ other, other ≠ id → w'.session.staged other = w.session.staged other)
    (hrows : w'.session.rows = w.session.rows)
    (hreqs : w'.requests = Function.update w.requests id (some (request, stage)))
    (hstage : PendingSound w'.session id stage) : RedlinesNumbered w' := by
  have hpkgs : w'.packages = w.packages := congrArg packagesOf hrows
  refine h.move hothers ?_ hreqs ?_ hstage
  · rw [hpkgs]
    exact List.Subset.refl _
  · intro redline hredl
    rw [hrows] at hredl
    rw [hpkgs]
    exact h.committed redline hredl

/-! ## The reads -/

variable {lost : Nat}

omit [DecidableEq ι] in
theorem pendingSound_of_no_redline {pending : Plan} (hstaged : s.staged id = [])
    (hnone : pending.filterMap (·.1.redline?) = []) :
    PendingSound s id (.inserting lost package pending) := by
  intro redline hredl
  rw [openRedlines, hstaged, hnone] at hredl
  cases hredl

variable {newId rowId : Uuid}

omit [DecidableEq ι] in
theorem pendingSound_afterRead (hstaged : s.staged id = []) (current : Option PackageRow) :
    PendingSound s id (AppendWorld.afterRead request lost newId rowId current) := by
  obtain ⟨_, call, _⟩ := request
  cases current with
  | none =>
    cases call with
    | createPackage => exact pendingSound_of_no_redline hstaged rfl
    | addRedline | markMaterialChange | recordSignatureEvidence => trivial
  | some =>
    cases call with
    | createPackage | addRedline => trivial
    | markMaterialChange =>
      unfold AppendWorld.afterRead
      dsimp only
      split
      · trivial
      · exact pendingSound_of_no_redline hstaged rfl
    | recordSignatureEvidence =>
      unfold AppendWorld.afterRead
      dsimp only
      split
      · trivial
      · trivial
      all_goals exact pendingSound_of_no_redline hstaged rfl

theorem foldr_max_pos {numbers : List Nat} (h : 0 < numbers.foldr max 0) : ∃ n, n ∈ numbers := by
  cases numbers with
  | nil => exact absurd h (Nat.lt_irrefl 0)
  | cons n => exact ⟨n, List.mem_cons_self⟩

omit [DecidableEq ι] in
theorem nextRedlineVersion_eq_one_or (rows : List (WrittenRow ι)) (packageId : Uuid) :
    nextRedlineVersion rows packageId = 1 ∨ ∃ redline ∈ redlinesOf rows, redline.packageId = packageId := by
  rcases Nat.eq_zero_or_pos
    ((((redlinesOf rows).filter (·.packageId = packageId)).map (·.redlineVersion)).foldr max 0) with
    hzero | hpos
  · exact .inl (congrArg (· + 1) hzero)
  · obtain ⟨_, hnumber⟩ := foldr_max_pos hpos
    obtain ⟨redline, hredl, -⟩ := List.mem_map.1 hnumber
    obtain ⟨hmem, hid⟩ := List.mem_filter.1 hredl
    exact .inr ⟨redline, hmem, of_decide_eq_true hid⟩

omit [DecidableEq ι] in
/-- **The number that a redline reads.** It is one unless another redline of the same package version has
been committed, and then the next package version has been committed too. -/
theorem pendingSound_afterNumber {base : PackageRow}
    (hcommitted : ∀ redline ∈ redlinesOf s.rows, CommittedSound (packagesOf s.rows) redline)
    (hdistinct : ((packagesOf s.rows).map (·.id)).Nodup) (hstaged : s.staged id = [])
    (hbase : base ∈ packagesOf s.rows) :
    PendingSound s id (AppendWorld.afterNumber request lost newId rowId base
      (nextRedlineVersion (s.view id) base.id)) := by
  obtain ⟨_, call, _⟩ := request
  cases call with
  | createPackage | markMaterialChange | recordSignatureEvidence => trivial
  | addRedline =>
    intro redline hredl
    have hview : s.view id = s.rows := by
      rw [Session.view, hstaged, List.nil_append]
    rw [openRedlines, hstaged, hview] at hredl
    obtain rfl := List.mem_singleton.1 hredl
    refine ⟨⟨base, hbase, rfl, rfl⟩, ?_⟩
    refine (nextRedlineVersion_eq_one_or s.rows base.id).imp_right ?_
    rintro ⟨earlier, hearlier, hid⟩
    obtain ⟨-, base', hbase', hid', next, hnext, hver⟩ := hcommitted earlier hearlier
    have hsame : base' = base := List.inj_on_of_nodup_map hdistinct hbase' hbase (hid'.trans hid)
    exact ⟨next, hnext, hver.trans (hsame ▸ rfl)⟩

/-! ## One step -/

theorem RedlinesNumbered.statement (h : RedlinesNumbered w) (hsound : w.Sound)
    (hdistinct : DistinctPackages w) (hstep : w.statement id newId rowId = some w') :
    RedlinesNumbered w' := by
  unfold AppendWorld.statement at hstep
  have hreq := hsound.requests id
  split at hstep
  case h_1 request lost hat =>
    cases hstep
    rw [hat] at hreq
    exact h.stay (fun _ _ => rfl) rfl rfl (pendingSound_afterRead hreq.2.2.1 _)
  case h_2 request lost base hat =>
    cases hstep
    rw [hat] at hreq
    obtain ⟨-, -, hstaged, -, hbase⟩ := hreq
    exact h.stay (fun _ _ => rfl) rfl rfl (pendingSound_afterNumber h.committed hdistinct hstaged hbase)
  case h_3 request lost package row onConflict pending hat =>
    split at hstep
    · cases hstep
    · cases hstep
      refine h.stay (fun _ hother => Session.rollback_staged_of_ne hother) rfl rfl ?_
      cases onConflict with
      | raise => trivial
      | retryAppend =>
        unfold AppendWorld.afterConflict
        dsimp only
        split <;> trivial
    · -- the row moves from the plan to the inserted ones
      rename_i session hins
      cases hstep
      have hrows := Session.insert_rows hins
      refine h.stay (fun _ hother => Session.insert_staged_of_ne hins hother) hrows rfl ?_
      intro redline hredl
      rw [openRedlines, Session.insert_staged_self hins] at hredl
      rw [hrows]
      refine h.pending id request _ hat redline ?_
      rw [openRedlines, List.mem_append]
      rcases List.mem_append.1 hredl with hmem | hmem
      · obtain ⟨written, hwritten, hredl'⟩ := List.mem_filterMap.1 hmem
        rcases List.mem_cons.1 hwritten with rfl | hold
        · exact .inr (List.mem_filterMap.2 ⟨_, List.mem_cons_self, hredl'⟩)
        · exact .inl (List.mem_filterMap.2 ⟨written, hold, hredl'⟩)
      · obtain ⟨entry, hentry, hredl'⟩ := List.mem_filterMap.1 hmem
        exact .inr (List.mem_filterMap.2 ⟨entry, List.mem_cons_of_mem _ hentry, hredl'⟩)
  case h_4 request lost package hat =>
    -- the package is committed with its redline, so its place was not taken
    cases hstep
    rw [hat] at hreq
    obtain ⟨-, -, -, -, -, _, hplan, hstaged⟩ := hreq
    rw [List.append_nil] at hplan
    have hopen := h.pending id request _ hat
    have hpkgs : packagesOf (w.session.commit id).rows = package :: w.packages := by
      rw [Session.commit_rows, packagesOf, List.filterMap_append, hstaged]
      exact congrArg (· ++ w.packages) (packagesOf_stagedRows hplan)
    have hsub : w.packages ⊆ packagesOf (w.session.commit id).rows := by
      rw [hpkgs]
      exact List.subset_cons_self _ _
    have hmem : package ∈ packagesOf (w.session.staged id) := by
      rw [hstaged, packagesOf_stagedRows hplan]
      exact List.mem_singleton.2 rfl
    refine h.move (fun _ hother => Session.commit_staged_of_ne hother) hsub rfl ?_ trivial
    intro redline hredl
    dsimp only at hredl
    rw [Session.commit_rows, redlinesOf, List.filterMap_append] at hredl
    rcases List.mem_append.1 hredl with hnew | hold
    · obtain ⟨⟨base, hbase, hid, hnext⟩, hnumber⟩ :=
        hopen redline (List.mem_append_left _ hnew)
      have hone : redline.redlineVersion = 1 := by
        refine hnumber.resolve_right ?_
        rintro ⟨_, htaken, hver⟩
        exact packageVersion_ne_of_staged hsound.tables.exclusive hmem htaken hver
      refine ⟨hone, base, hsub hbase, hid, package, ?_, hnext⟩
      change package ∈ packagesOf (w.session.commit id).rows
      rw [hpkgs]
      exact List.mem_cons_self
    · exact (h.committed redline hold).mono hsub
  case h_5 => cases hstep
  case h_6 => cases hstep
  case h_7 => cases hstep

variable {action : AppendWorld.Action ι}

/-- No package is ever gone. -/
theorem packages_suffix_of_step (hstep : w.step action = some w') :
    w.packages <:+ w'.packages := by
  cases action with
  | request =>
    unfold AppendWorld.step at hstep
    dsimp only at hstep
    split at hstep
    · cases hstep
      exact List.suffix_refl _
    · cases hstep
  | crash =>
    unfold AppendWorld.step at hstep
    dsimp only at hstep
    split at hstep
    · cases hstep
    · cases hstep
    · cases hstep
    cases hstep
    exact List.suffix_refl _
  | statement id newId rowId =>
    change w.statement id newId rowId = some w' at hstep
    unfold AppendWorld.statement at hstep
    split at hstep
    case h_1 | h_2 =>
      cases hstep
      exact List.suffix_refl _
    case h_3 =>
      split at hstep
      · cases hstep
      · cases hstep
        exact List.suffix_refl _
      · rename_i session hins
        cases hstep
        change packagesOf w.session.rows <:+ packagesOf session.rows
        rw [Session.insert_rows hins]
    case h_4 id request lost package hat =>
      cases hstep
      change packagesOf w.session.rows <:+ packagesOf (w.session.commit _).rows
      rw [Session.commit_rows, packagesOf, packagesOf, List.filterMap_append]
      exact List.suffix_append _ _
    case h_5 | h_6 | h_7 => cases hstep

theorem DistinctPackages.before_step (h : DistinctPackages w') (hstep : w.step action = some w') :
    DistinctPackages w :=
  List.Nodup.sublist ((packages_suffix_of_step hstep).sublist.map _) h

theorem RedlinesNumbered.step (h : RedlinesNumbered w) (hsound : w.Sound)
    (hdistinct : DistinctPackages w) (hstep : w.step action = some w') : RedlinesNumbered w' := by
  cases action with
  | request =>
    unfold AppendWorld.step at hstep
    dsimp only at hstep
    split at hstep
    · cases hstep
      exact h.stay (fun _ _ => rfl) rfl rfl trivial
    · cases hstep
  | statement => exact h.statement hsound hdistinct hstep
  | crash =>
    unfold AppendWorld.step at hstep
    dsimp only at hstep
    split at hstep
    · cases hstep
    · cases hstep
    · cases hstep
    cases hstep
    exact h.stay (fun _ hother => Session.rollback_staged_of_ne hother) rfl rfl trivial

/-! ## The history -/

/-- **Every committed redline has the number one**, and the version after the one it changes is committed. -/
theorem RedlinesNumbered.of_run {actions : List (AppendWorld.Action ι)}
    (hrun : run AppendWorld.step AppendWorld.empty actions = some w) (hdistinct : DistinctPackages w) :
    RedlinesNumbered w := by
  have hstep : ∀ {w : AppendWorld ι} {action : AppendWorld.Action ι} {w' : AppendWorld ι},
      w.Sound ∧ (DistinctPackages w → RedlinesNumbered w) → w.step action = some w' →
        w'.Sound ∧ (DistinctPackages w' → RedlinesNumbered w') := by
    rintro w _ _ ⟨hsound, hnumbered⟩ hstep
    refine ⟨hsound.step hstep, fun hdistinct => ?_⟩
    have hpre := hdistinct.before_step hstep
    exact (hnumbered hpre).step hsound hpre hstep
  have hinv : w.Sound ∧ (DistinctPackages w → RedlinesNumbered w) := by
    refine run_invariant hstep ?_ hrun
    · refine ⟨AppendWorld.sound_empty, fun _ => ⟨?_, ?_⟩⟩
      · intro redline hredl
        cases hredl
      · intro id request stage hat
        cases hat
  exact hinv.2 hdistinct

variable {rows : List (WrittenRow ι)}

omit [DecidableEq ι] in
theorem exists_loadCurrentPackage (h : package ∈ packagesOf rows) :
    ∃ current, loadCurrentPackage rows = some current := by
  unfold loadCurrentPackage AppendLog.latest
  rw [List.filter_true]
  cases hlast : ((packagesOf rows).insertionSort fun p q => p.packageVersion ≤ q.packageVersion).getLast?
    with
  | some current => exact ⟨current, rfl⟩
  | none =>
    have hnil := List.getLast?_eq_none_iff.1 hlast
    have hmem := (List.mem_insertionSort (fun p q : PackageRow => p.packageVersion ≤ q.packageVersion)).2 h
    rw [hnil] at hmem
    cases hmem

omit [DecidableEq ι] in
theorem listsRedlines_of_ties {listing : List ContractRedline} (hperm : listing.Perm (redlinesOf rows))
    (hone : ∀ redline ∈ redlinesOf rows, redline.redlineVersion = 1) :
    ListsRedlines rows listing := by
  have hone' : ∀ redline ∈ listing, redline.redlineVersion = 1 :=
    fun redline hredl => hone redline (hperm.subset hredl)
  refine ⟨hperm, List.Pairwise.imp_of_mem ?_ (List.pairwise_of_forall fun _ _ => trivial)⟩
  intro a b ha hb _
  rw [hone' a ha, hone' b hb]

omit [DecidableEq ι] in
/-- With at most one redline there is only one way to list them. -/
theorem keepsHistory_of_length_le (hfew : (redlinesOf rows).length ≤ 1) :
    KeepsHistory rows := by
  intro view hview
  cases hview with
  | view _ _ _ hlists =>
    dsimp only
    have hperm := hlists.perm
    match hredls : redlinesOf rows, hfew with
    | [], _ =>
      rw [hredls] at hperm
      rw [List.perm_nil.1 hperm]
      exact ⟨rfl, List.Pairwise.nil⟩
    | [redline], _ =>
      rw [hredls] at hperm
      rw [List.perm_singleton.1 hperm]
      exact ⟨rfl, List.pairwise_singleton _ _⟩

/-- **The redline history keeps its order exactly while it has at most one redline.** -/
theorem keepsHistory_iff {actions : List (AppendWorld.Action ι)}
    (hrun : run AppendWorld.step AppendWorld.empty actions = some w) (hdistinct : DistinctPackages w) :
    KeepsHistory w.session.rows ↔ (redlinesOf w.session.rows).length ≤ 1 := by
  have hnumbered := RedlinesNumbered.of_run hrun hdistinct
  have hone : ∀ redline ∈ redlinesOf w.session.rows, redline.redlineVersion = 1 :=
    fun redline hredl => (hnumbered.committed redline hredl).number
  refine ⟨?_, keepsHistory_of_length_le⟩
  intro hkeeps
  cases hnewest : redlinesOf w.session.rows with
  | nil => exact Nat.zero_le 1
  | cons newest =>
    rw [← hnewest]
    -- a committed redline belongs to a package, so there is a view, and it lists ties
    have hmem : newest ∈ redlinesOf w.session.rows := by
      rw [hnewest]
      exact List.mem_cons_self
    obtain ⟨_, hbase, -⟩ := (hnumbered.committed newest hmem).superseded
    obtain ⟨current, hcur⟩ := exists_loadCurrentPackage hbase
    have hlists := listsRedlines_of_ties (List.Perm.refl (redlinesOf w.session.rows)) hone
    obtain ⟨-, hincreasing⟩ := hkeeps _ (.view current _ hcur hlists)
    have hnodup : ((redlinesOf w.session.rows).map (·.redlineVersion)).Nodup :=
      List.pairwise_map.2 (hincreasing.imp Nat.ne_of_lt)
    have hsub : (redlinesOf w.session.rows).map (·.redlineVersion) ⊆ [1] := by
      intro number hnumber
      obtain ⟨redline, hredl, rfl⟩ := List.mem_map.1 hnumber
      exact List.mem_singleton.2 (hone redline hredl)
    have hlen := (hnodup.subperm hsub).length_le
    rwa [List.length_map] at hlen

/-- The first draft, and two redlines one after the other. -/
def twoRedlinesRun : List (AppendWorld.Action Nat) :=
  [.request 0 (.createContractPackage sampleDecision) 1 7, .statement 0 100 0, .statement 0 0 0,
    .statement 0 0 0, .statement 0 0 0,
    .request 1 (.addContractRedline "sửa" "bản A") 1 8, .statement 1 0 0, .statement 1 101 201,
    .statement 1 0 0, .statement 1 0 0, .statement 1 0 0, .statement 1 0 0,
    .request 2 (.addContractRedline "sửa" "bản B") 1 8, .statement 2 0 0, .statement 2 102 202,
    .statement 2 0 0, .statement 2 0 0, .statement 2 0 0, .statement 2 0 0]

set_option maxRecDepth 20000 in
theorem twoRedlinesRun_ends : (run AppendWorld.step AppendWorld.empty twoRedlinesRun).any (fun w =>
    w.packages.map (·.id) = [102, 101, 100] ∧
      (redlinesOf w.session.rows).map (fun r => (r.changedContentVi, r.redlineVersion)) =
        [("bản B", 1), ("bản A", 1)]) = true := by
  decide +kernel

theorem twoRedlinesRun_reaches : ∃ w, run AppendWorld.step AppendWorld.empty twoRedlinesRun = some w ∧
    DistinctPackages w ∧
      (redlinesOf w.session.rows).map (fun r => (r.changedContentVi, r.redlineVersion)) =
        [("bản B", 1), ("bản A", 1)] := by
  obtain ⟨w, hrun, hends⟩ := (Option.any_eq_true _ _).1 twoRedlinesRun_ends
  obtain ⟨hids, hredls⟩ := of_decide_eq_true hends
  refine ⟨w, hrun, ?_, hredls⟩
  unfold DistinctPackages
  rw [hids]
  decide

/-- **Two redlines may be returned in the wrong order.** Both have the number one. -/
theorem redlines_out_of_order : ¬ ∀ (actions : List (AppendWorld.Action Nat)) (w : AppendWorld Nat),
    run AppendWorld.step AppendWorld.empty actions = some w → DistinctPackages w →
      KeepsHistory w.session.rows := by
  intro hclaim
  obtain ⟨w, hrun, hdistinct, hredls⟩ := twoRedlinesRun_reaches
  have hnumbered := RedlinesNumbered.of_run hrun hdistinct
  have hone : ∀ redline ∈ redlinesOf w.session.rows, redline.redlineVersion = 1 :=
    fun redline hredl => (hnumbered.committed redline hredl).number
  obtain ⟨newest, _, hnewest, -⟩ := List.map_eq_cons_iff.1 hredls
  obtain ⟨_, hbase, -⟩ :=
    (hnumbered.committed newest (by rw [hnewest]; exact List.mem_cons_self)).superseded
  obtain ⟨current, hcur⟩ := exists_loadCurrentPackage hbase
  -- the newest first is one of the orders that the database may choose
  have hlists := listsRedlines_of_ties (List.Perm.refl (redlinesOf w.session.rows)) hone
  obtain ⟨horder, -⟩ := hclaim twoRedlinesRun w hrun hdistinct _ (.view current _ hcur hlists)
  dsimp only at horder
  have htexts := congrArg (List.map fun r : ContractRedline => (r.changedContentVi, r.redlineVersion)) horder
  rw [List.map_reverse, hredls] at htexts
  revert htexts
  decide

theorem keepsHistory_of_twoRedlinesRun : ∃ w,
    run AppendWorld.step AppendWorld.empty twoRedlinesRun = some w ∧ DistinctPackages w ∧
      ¬ KeepsHistory w.session.rows := by
  obtain ⟨w, hrun, hdistinct, hredls⟩ := twoRedlinesRun_reaches
  refine ⟨w, hrun, hdistinct, fun hkeeps => ?_⟩
  have hfew := (keepsHistory_iff hrun hdistinct).1 hkeeps
  have hlen := congrArg List.length hredls
  rw [List.length_map] at hlen
  rw [hlen] at hfew
  revert hfew
  decide

end CreditOps.ContractPackages
