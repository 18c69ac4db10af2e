import CreditOps.Cases.Registry
import CreditOps.Library.KeysetPages
import Mathlib.Data.Prod.Lex

/-!
# Walking the case listing

A client reads the cases of an officer page by page. The page query joins the active assignments without
merging them, so a case has a row for each role the officer holds on it, and has none without a financing
request of its version. The walk lists every assigned case once exactly when each of them has such a
request and the ones with several roles stand at the end of a page (`listsAssigned_iff`).
-/

set_option autoImplicit false

namespace CreditOps.Cases

open Orchestration

/-! ## The order of the listing -/

/-- The place of a case: by its creation time, then by its id. -/
abbrev ListingKey := Timestamp ×ₗ Uuid

def CaseRow.key (row : CaseRow) : ListingKey := toLex (row.createdAt, row.id)

def CaseRecord.key (found : CaseRecord) : ListingKey := toLex (found.createdAt, found.id)

namespace Registry

/-! ## Walks -/

/-- What the pages list, from a cursor until there is no next one. -/
inductive Walk (registry : Registry) (actorId : Uuid) (limit : Nat) : Option Uuid → List CaseRecord → Prop
  | last {cursor : Option Uuid} (h : (registry.listAssigned actorId cursor limit).2 = none) :
    Walk registry actorId limit cursor (registry.listAssigned actorId cursor limit).1
  | more {cursor : Option Uuid} {next : Uuid} {listed : List CaseRecord}
      (h : (registry.listAssigned actorId cursor limit).2 = some next)
      (hrest : Walk registry actorId limit (some next) listed) :
    Walk registry actorId limit cursor ((registry.listAssigned actorId cursor limit).1 ++ listed)

/-- How many active assignments the officer has on a case: one for each role. -/
def activeRoles (registry : Registry) (actorId caseId : Uuid) : Nat :=
  (registry.assignments.filter fun assignment =>
    assignment.caseId = caseId ∧ assignment.revokedAt = none ∧ assignment.officerId = actorId).length

/-- The cases assigned to the officer, newest first. -/
def assignedCases (registry : Registry) (actorId : Uuid) : List CaseRow :=
  (registry.cases.filter fun row => 0 < registry.activeRoles actorId row.id).insertionSort
    fun a b => b.key ≤ a.key

/-- A walk lists every assigned case once, newest first. -/
def ListsAssigned (registry : Registry) (actorId : Uuid) (limit : Nat) : Prop :=
  ∃ listed, Walk registry actorId limit none listed ∧
    listed.map (·.key) = (registry.assignedCases actorId).map (·.key)

/-! ## The keys of the rows -/

/-- The keys of the joined rows, newest first. -/
def rowKeys (registry : Registry) (actorId : Uuid) : List ListingKey :=
  ((registry.assignedRecords actorId).insertionSort newestFirst).map (·.key)

variable {registry : Registry} {actorId : Uuid} {limit : Nat} {cursor : Option Uuid}
  {position : Option ListingKey} {records : List CaseRecord}

theorem newestFirst_iff (a b : CaseRecord) : newestFirst a b ↔ b.key ≤ a.key := by
  rw [newestFirst, CaseRecord.key, CaseRecord.key, Prod.Lex.toLex_le_toLex]

theorem sorted_keys (records : List CaseRecord) :
    ((records.insertionSort newestFirst).map (·.key)).Pairwise (· ≥ ·) := by
  have : Std.Total newestFirst := ⟨fun a b => by
    rw [newestFirst_iff, newestFirst_iff]
    exact le_total _ _⟩
  have : IsTrans CaseRecord newestFirst := ⟨fun a b c hab hbc => by
    rw [newestFirst_iff] at hab hbc ⊢
    exact hbc.trans hab⟩
  exact List.pairwise_map.2 ((List.pairwise_insertionSort newestFirst records).imp
    fun h => (newestFirst_iff _ _).1 h)

/-- The keys in order are those of any arrangement of the rows. -/
theorem eq_of_sorted {keys keys' : List ListingKey} (hperm : keys.Perm keys')
    (hkeys : keys.Pairwise (· ≥ ·)) (hkeys' : keys'.Pairwise (· ≥ ·)) : keys = keys' :=
  hperm.eq_of_pairwise (fun _ _ _ _ hab hba => le_antisymm hba hab) hkeys hkeys'

theorem isAfter_iff (found : CaseRecord) :
    isAfter (position.map ofLex) found = true ↔ ∀ bound ∈ position, found.key < bound := by
  cases position with
  | none => exact iff_of_true rfl fun bound hbound => nomatch hbound
  | some bound =>
    simp only [Option.mem_def, Option.some.injEq, forall_eq']
    have hlt : found.key < bound ↔ found.createdAt < (ofLex bound).1 ∨
        (found.createdAt = (ofLex bound).1 ∧ found.id < (ofLex bound).2) := Prod.Lex.lt_iff
    exact decide_eq_true_iff.trans hlt.symm

/-- The rows of a page. -/
theorem keys_below :
    (((registry.assignedRecords actorId).filter (isAfter (position.map ofLex))).insertionSort
      newestFirst).map (·.key) =
        (registry.rowKeys actorId).filter fun key => ∀ bound ∈ position, key < bound := by
  refine eq_of_sorted ?_ (sorted_keys _) ((sorted_keys _).filter _)
  refine ((List.perm_insertionSort newestFirst _).map _).trans ?_
  refine List.Perm.trans ?_
    (((List.perm_insertionSort newestFirst (registry.assignedRecords actorId)).map _).filter _).symm
  rw [List.filter_map]
  refine List.Perm.of_eq (congrArg _ (List.filter_congr fun found _ => ?_))
  exact Bool.eq_iff_iff.2 ((isAfter_iff found).trans decide_eq_true_iff.symm)

/-- A page is one of the keys. -/
theorem listAssigned_keys (h : registry.cursorPosition actorId cursor = some (position.map ofLex)) :
    (registry.listAssigned actorId cursor limit).1.map (·.key) =
        (KeysetPages.page (registry.rowKeys actorId) limit position).1 ∧
      (registry.listAssigned actorId cursor limit).2 =
        (KeysetPages.page (registry.rowKeys actorId) limit position).2.map fun key => (ofLex key).2 := by
  simp only [listAssigned, h, KeysetPages.page, ← keys_below, ← List.map_take, List.length_map]
  refine ⟨trivial, ?_⟩
  split
  · rw [List.getLast?_map, Option.map_map]
    rfl
  · rfl

theorem mem_assignedRecords {found : CaseRecord} :
    found ∈ registry.assignedRecords actorId ↔ ∃ row ∈ registry.cases, ∃ assignment ∈ registry.assignments,
      (assignment.caseId = row.id ∧ assignment.revokedAt = none ∧ assignment.officerId = actorId) ∧
        ∃ request, registry.currentRequest row = some request ∧ record row assignment request = found := by
  simp only [assignedRecords, List.mem_flatMap, List.mem_filterMap, List.mem_filter, decide_eq_true_eq,
    Option.map_eq_some_iff, and_assoc]

theorem mem_assignedCases {row : CaseRow} :
    row ∈ registry.assignedCases actorId ↔
      row ∈ registry.cases ∧ 0 < registry.activeRoles actorId row.id := by
  rw [assignedCases, List.mem_insertionSort, List.mem_filter, decide_eq_true_eq]

/-- A key of a row comes from a case with a financing request. -/
theorem exists_row {key : ListingKey} (h : key ∈ registry.rowKeys actorId) :
    ∃ row ∈ registry.cases, ∃ request, registry.currentRequest row = some request ∧ row.key = key := by
  obtain ⟨_, hfound, rfl⟩ := List.mem_map.1 h
  obtain ⟨row, hrow, -, -, -, request, hreq, rfl⟩ :=
    mem_assignedRecords.1 ((List.mem_insertionSort _).1 hfound)
  exact ⟨row, hrow, request, hreq, rfl⟩

theorem pos_activeRoles (actorId : Uuid) : ∀ key ∈ (registry.assignedCases actorId).map (·.key),
    1 ≤ registry.activeRoles actorId (ofLex key).2 := by
  intro key hkey
  obtain ⟨_, hrow, rfl⟩ := List.mem_map.1 hkey
  exact (mem_assignedCases.1 hrow).2

/-- A row that yields nothing may be left out. -/
theorem flatMap_filter {α β : Type} {p : α → Bool} {f : α → List β} {l : List α}
    (h : ∀ a ∈ l, ¬ p a = true → f a = []) : (l.filter p).flatMap f = l.flatMap f := by
  induction l with
  | nil => rfl
  | cons a _ ih =>
    have hrest := ih fun b hb => h b (List.mem_cons_of_mem _ hb)
    by_cases ha : p a = true
    · rw [List.filter_cons_of_pos ha, List.flatMap_cons, List.flatMap_cons, hrest]
    · rw [List.filter_cons_of_neg ha, List.flatMap_cons, h a List.mem_cons_self ha, hrest, List.nil_append]

variable (hids : (registry.cases.map (·.id)).Nodup)
include hids

/-- The cursor of a listed row leads back to its place. -/
theorem cursorPosition_of_mem {key : ListingKey} (h : key ∈ registry.rowKeys actorId) :
    registry.cursorPosition actorId (some (ofLex key).2) = some (some (ofLex key)) := by
  obtain ⟨_, hfound, rfl⟩ := List.mem_map.1 h
  obtain ⟨row, hrow, assignment, hasgn, hactive, _, -, rfl⟩ :=
    mem_assignedRecords.1 ((List.mem_insertionSort _).1 hfound)
  have hfind : registry.cases.find? (fun other => other.id = row.id ∧
      registry.assignments.any fun assignment => assignment.caseId = other.id ∧
        assignment.revokedAt = none ∧ assignment.officerId = actorId) = some row := by
    cases hfind : registry.cases.find? _ with
    | none =>
      refine absurd (List.find?_eq_none.1 hfind row hrow) (not_not.2 (decide_eq_true ⟨rfl, ?_⟩))
      exact List.any_eq_true.2 ⟨assignment, hasgn, decide_eq_true hactive⟩
    | some =>
      have hother := List.find?_some hfind
      rw [List.inj_on_of_nodup_map hids (List.mem_of_find?_eq_some hfind) hrow (of_decide_eq_true hother).1]
  exact congrArg (Option.map _) hfind

/-- A walk lists the keys of a walk over the rows' keys. -/
theorem walk_keys {listed : List CaseRecord} (hwalk : Walk registry actorId limit cursor listed) :
    ∀ position, registry.cursorPosition actorId cursor = some (position.map ofLex) →
      KeysetPages.Walk (registry.rowKeys actorId) limit position (listed.map (·.key)) := by
  induction hwalk with
  | last h =>
    intro position hat
    obtain ⟨hrows, hnext⟩ := listAssigned_keys hat
    rw [h, eq_comm, Option.map_eq_none_iff] at hnext
    rw [hrows]
    exact .last hnext
  | more h _ ih =>
    intro position hat
    obtain ⟨hrows, hnext⟩ := listAssigned_keys hat
    rw [h, eq_comm, Option.map_eq_some_iff] at hnext
    obtain ⟨key, hkey, rfl⟩ := hnext
    rw [List.map_append, hrows]
    exact .more hkey (ih (some key) (cursorPosition_of_mem hids (KeysetPages.mem_of_next hkey)))

/-- And every walk over the rows' keys is one of the pages. -/
theorem exists_walk {keys : List ListingKey}
    (hwalk : KeysetPages.Walk (registry.rowKeys actorId) limit position keys) :
    ∀ cursor, registry.cursorPosition actorId cursor = some (position.map ofLex) →
      ∃ listed, Walk registry actorId limit cursor listed ∧ listed.map (·.key) = keys := by
  induction hwalk with
  | last h =>
    intro cursor hat
    obtain ⟨hrows, hnext⟩ := listAssigned_keys hat
    exact ⟨_, .last (by rw [hnext, h, Option.map_none]), hrows⟩
  | more h _ ih =>
    intro cursor hat
    obtain ⟨hrows, hnext⟩ := listAssigned_keys hat
    obtain ⟨_, hlisted, hkeys⟩ :=
      ih _ (cursorPosition_of_mem hids (KeysetPages.mem_of_next h))
    exact ⟨_, .more (by rw [hnext, h, Option.map_some]) hlisted, by rw [List.map_append, hrows, hkeys]⟩

/-! ## The assigned cases -/

/-- The places of the assigned cases descend. -/
theorem sorted_assignedCases :
    ((registry.assignedCases actorId).map (·.key)).Pairwise (· > ·) := by
  have : Std.Total fun a b : CaseRow => b.key ≤ a.key := ⟨fun a b => le_total _ _⟩
  have : IsTrans CaseRow fun a b => b.key ≤ a.key := ⟨fun a b c hab hbc => hbc.trans hab⟩
  have hsort := List.pairwise_insertionSort (fun a b : CaseRow => b.key ≤ a.key)
    (registry.cases.filter fun row => 0 < registry.activeRoles actorId row.id)
  have hnodup : ((registry.assignedCases actorId).map (·.id)).Nodup :=
    ((List.perm_insertionSort _ _).map _).nodup_iff.2 (hids.sublist (List.filter_sublist.map _))
  refine List.pairwise_map.2 (hsort.imp₂ ?_ (List.pairwise_map.1 hnodup))
  intro a b hle hne
  refine lt_of_le_of_ne hle fun heq => hne ?_
  exact (congrArg (fun key => (ofLex key).2) heq).symm

/-- With a financing request for each assigned case the rows are its places, one for each role. -/
theorem rowKeys_eq (hreqs : ∀ row ∈ registry.assignedCases actorId,
      (registry.currentRequest row).isSome) :
    registry.rowKeys actorId = KeysetPages.expand (fun key => registry.activeRoles actorId (ofLex key).2)
      ((registry.assignedCases actorId).map (·.key)) := by
  refine eq_of_sorted ?_ (sorted_keys _) (KeysetPages.sorted_expand (sorted_assignedCases hids))
  refine ((List.perm_insertionSort newestFirst _).map _).trans ?_
  rw [KeysetPages.expand, List.flatMap_map]
  have hcases : ((registry.assignedCases actorId).flatMap fun row =>
      List.replicate (registry.activeRoles actorId (ofLex row.key).2) row.key).Perm
      ((registry.cases.filter fun row => 0 < registry.activeRoles actorId row.id).flatMap fun row =>
        List.replicate (registry.activeRoles actorId row.id) row.key) :=
    (List.perm_insertionSort _ _).flatMap_right _
  refine List.Perm.trans (List.Perm.of_eq ?_) hcases.symm
  have hrows : ∀ row ∈ registry.cases, (((registry.assignments.filter fun assignment =>
      assignment.caseId = row.id ∧ assignment.revokedAt = none ∧ assignment.officerId = actorId).filterMap
        fun assignment => (registry.currentRequest row).map (record row assignment)).map (·.key)) =
      List.replicate (registry.activeRoles actorId row.id) row.key := by
    intro row hrow
    by_cases hassigned : 0 < registry.activeRoles actorId row.id
    · obtain ⟨_, hreq⟩ :=
        Option.isSome_iff_exists.1 (hreqs row (mem_assignedCases.2 ⟨hrow, hassigned⟩))
      rw [hreq]
      simp only [Option.map_some, List.filterMap_eq_map', List.map_map]
      exact List.map_eq_replicate_iff.2 fun _ _ => rfl
    · rw [activeRoles, not_lt, Nat.le_zero] at hassigned
      rw [activeRoles, hassigned, List.eq_nil_of_length_eq_zero hassigned]
      rfl
  rw [assignedRecords, List.map_flatMap, List.flatMap_congr hrows, flatMap_filter]
  intro row _ hnone
  rw [Nat.le_zero.1 (not_lt.1 (mt decide_eq_true hnone))]
  rfl

/-- **When the walk lists every assigned case once.** Each one has a financing request of its version, and
those with several active roles are the last ones of their pages. -/
theorem listsAssigned_iff (hlimit : 0 < limit) :
    registry.ListsAssigned actorId limit ↔
      (∀ row ∈ registry.assignedCases actorId, (registry.currentRequest row).isSome) ∧
        ∀ i row, (registry.assignedCases actorId)[i]? = some row →
          1 < registry.activeRoles actorId row.id → limit ∣ i + 1 := by
  constructor
  · rintro ⟨_, hwalk, hlisted⟩
    have hkeys := walk_keys hids hwalk none rfl
    have hreqs : ∀ row ∈ registry.assignedCases actorId, (registry.currentRequest row).isSome := by
      intro row hrow
      rw [hlisted] at hkeys
      obtain ⟨other, hother, _, hreq, hkey⟩ :=
        exists_row (KeysetPages.mem_of_walk hkeys (List.mem_map_of_mem hrow))
      have hid : other.id = row.id := congrArg (fun key => (ofLex key).2) hkey
      rw [← List.inj_on_of_nodup_map hids hother (mem_assignedCases.1 hrow).1 hid, hreq]
      rfl
    rw [hlisted, rowKeys_eq hids hreqs] at hkeys
    refine ⟨hreqs, fun i row hi => ?_⟩
    refine (KeysetPages.walk_iff (sorted_assignedCases hids) (pos_activeRoles _) hlimit).1 hkeys i row.key ?_
    rw [List.getElem?_map, hi, Option.map_some]
  · rintro ⟨hreqs, hends⟩
    have hwalk := (KeysetPages.walk_iff (sorted_assignedCases hids) (pos_activeRoles _) hlimit).2
      fun i key hi => by
        rw [List.getElem?_map, Option.map_eq_some_iff] at hi
        obtain ⟨row, hi, rfl⟩ := hi
        exact hends i row hi
    rw [← rowKeys_eq hids hreqs] at hwalk
    exact exists_walk hids hwalk none rfl

/-- A case on which one officer holds two roles. -/
def twoRoles : Registry where
  cases := [newCase 1 1 0]
  assignments := [⟨1, 2, "INTAKE_OFFICER", 1, none⟩, ⟨1, 2, "UNDERWRITER", 1, none⟩]
  financingRequests := [⟨10, 1, 1, 1, 5000, "Von luu dong", 1⟩]

omit hids in
/-- Page by page of one row the case is listed once. -/
theorem twoRoles_single_rows : twoRoles.ListsAssigned 2 1 :=
  (listsAssigned_iff (by decide) (by decide)).2 ⟨by decide +kernel, fun i _ _ _ => Nat.one_dvd (i + 1)⟩

omit hids in
/-- On a page of two rows it is listed twice. -/
theorem two_roles_listed_twice : ¬ ∀ (registry : Registry) (actorId : Uuid) (limit : Nat),
    (registry.cases.map (·.id)).Nodup → 0 < limit → registry.ListsAssigned actorId limit := by
  intro h
  obtain ⟨_, hwalk, hkeys⟩ := h twoRoles 2 2 (by decide) (by decide)
  have hpage : (twoRoles.listAssigned 2 none 2).1.length = 2 := by decide +kernel
  have hcases : (twoRoles.assignedCases 2).length = 1 := by decide +kernel
  have hlen := congrArg List.length hkeys
  rw [List.length_map, List.length_map, hcases] at hlen
  cases hwalk with
  | last => omega
  | more =>
    rw [List.length_append] at hlen
    omega

end Registry

end CreditOps.Cases
