import CreditOps.Library.RecursiveQuery
import CreditOps.Retrieval.Pipeline
import Mathlib.Data.Finset.Card

/-!
# The traversal of the evidence graph

The candidates of a retrieval are found by one query: a recursive union that carries the number of hops in
its rows, a limit on the distinct nodes it has reached, and the passages attached to the nodes that are
kept. A node reached again, over a cycle or a longer path, is a row of its own, and only the bound on the
hops ends the recursion. Every passage returned is attached to a node in reach, and within the limit none is
missed (`traverseEvidenceGraph_exact`).
-/

set_option autoImplicit false

namespace CreditOps.Retrieval

open RecursiveQuery

/-! ## The tables -/

/-- A node of the graph: its entity type and its id. -/
abbrev GraphNode := String × Uuid

/-- One row of `evidence_edges`. -/
structure EvidenceEdge where
  caseId : Uuid
  caseVersion : CaseVersion
  source : GraphNode
  target : GraphNode
  staleAt : Option Timestamp
deriving DecidableEq

/-- One row of `retrieval_passages`, with the columns the query reads. -/
structure PassageRow where
  id : Uuid
  caseId : Uuid
  caseVersion : CaseVersion
  documentVersionId : Uuid
  pageRegionId : Option Uuid
  staleAt : Option Timestamp
deriving DecidableEq

/-- One row of `confirmed_facts`, with the columns the query reads. -/
structure FactRow where
  id : Uuid
  caseId : Uuid
  caseVersion : CaseVersion
  pageRegionId : Uuid
deriving DecidableEq

/-- The three tables. -/
structure EvidenceGraph where
  edges : List EvidenceEdge
  passages : List PassageRow
  facts : List FactRow

/-- What `limit` keeps of a set of nodes in no stated order: some of them, as many as it allows. -/
structure NodeLimit where
  keep : Nat → Finset GraphNode → Finset GraphNode
  keep_subset : ∀ n nodes, keep n nodes ⊆ nodes
  card_keep : ∀ n nodes, (keep n nodes).card = min n nodes.card

theorem exists_nodeLimit : Nonempty NodeLimit := by
  have hkeep : ∀ (n : Nat) (nodes : Finset GraphNode), ∃ kept ⊆ nodes, kept.card = min n nodes.card :=
    fun n nodes => Finset.exists_subset_card_eq (min_le_right n nodes.card)
  choose keep hsub hcard using hkeep
  exact ⟨⟨keep, hsub, hcard⟩⟩

def SeedNodeKind.value : SeedNodeKind → String
  | .confirmedFact => "CONFIRMED_FACT"
  | .documentVersion => "DOCUMENT_VERSION"
  | .gap => "GAP"
  | .conflict => "CONFLICT"

/-! ## The query -/

namespace EvidenceGraph

variable (graph : EvidenceGraph) (caseId : Uuid) (caseVersion : CaseVersion) (maxHops maxNodes : Nat)

/-- The edge is in scope and not stale. -/
def live (edge : EvidenceEdge) : Bool :=
  edge.caseId = caseId ∧ edge.caseVersion = caseVersion ∧ edge.staleAt = none

/-- The rows of `reachable` that one row yields. -/
def nextRows (row : GraphNode × Nat) : Finset (GraphNode × Nat) :=
  if row.2 < maxHops then
    ((graph.edges.filter fun edge => live caseId caseVersion edge ∧ edge.source = row.1).map
      fun edge => (edge.target, row.2 + 1)).toFinset
  else ∅

/-- `seed_nodes`, at no hop. -/
def seedRows (seeds : List SeedNodeRef) : Finset (GraphNode × Nat) :=
  (seeds.map fun seed => ((seed.kind.value, seed.nodeId), 0)).toFinset

/-- `reachable`, after at most so many rounds. -/
def reachable (rounds : Nat) (seeds : List SeedNodeRef) : Option (Finset (GraphNode × Nat)) :=
  recursiveUnion (graph.nextRows caseId caseVersion maxHops) rounds (seedRows seeds) (seedRows seeds)

/-- The passage is attached to the node: by its document version, by its page region, or by the region of
a confirmed fact of its case version. -/
def attached (passage : PassageRow) (node : GraphNode) : Bool :=
  (node.1 = "DOCUMENT_VERSION" ∧ node.2 = passage.documentVersionId) ∨
    (node.1 = "PAGE_REGION" ∧ passage.pageRegionId = some node.2) ∨
      (node.1 = "CONFIRMED_FACT" ∧ graph.facts.any fun fact =>
        fact.id = node.2 ∧ fact.caseId = passage.caseId ∧ fact.caseVersion = passage.caseVersion ∧
          passage.pageRegionId = some fact.pageRegionId)

/-- The passage is in scope and not stale. -/
def current (passage : PassageRow) : Bool :=
  passage.caseId = caseId ∧ passage.caseVersion = caseVersion ∧ passage.staleAt = none

/-- The passages of the visited nodes, `order by passage.id`. -/
def passagesOf (visited : Finset GraphNode) : List CandidatePassage :=
  ((graph.passages.filter fun passage => current caseId caseVersion passage ∧
      ∃ node ∈ visited, graph.attached passage node = true).map fun passage =>
    (⟨passage.id, passage.documentVersionId, passage.pageRegionId⟩ : CandidatePassage)).dedup.insertionSort
      fun a b => a.passageId ≤ b.passageId

/-- `traverse_evidence_graph`; none when the recursion has not ended after so many rounds. -/
def traverseEvidenceGraph (limit : NodeLimit) (rounds : Nat) (seeds : List SeedNodeRef) :
    Option (List CandidatePassage) :=
  if seeds = [] then some []
  else
    (graph.reachable caseId caseVersion maxHops rounds seeds).map fun rows =>
      graph.passagesOf caseId caseVersion (limit.keep maxNodes (rows.image Prod.fst))

/-! ## Nodes in reach -/

/-- A path of so many live edges of the case version leads from a seed to the node. -/
inductive Reaches (seeds : List SeedNodeRef) : Nat → GraphNode → Prop
  | seed {seed : SeedNodeRef} (h : seed ∈ seeds) : Reaches seeds 0 (seed.kind.value, seed.nodeId)
  | hop {k : Nat} {edge : EvidenceEdge} (h : Reaches seeds k edge.source) (hedge : edge ∈ graph.edges)
      (hlive : live caseId caseVersion edge = true) : Reaches seeds (k + 1) edge.target

/-- The node is in reach: at most `maxHops` edges from a seed. -/
def InReach (seeds : List SeedNodeRef) (node : GraphNode) : Prop :=
  ∃ k ≤ maxHops, graph.Reaches caseId caseVersion seeds k node

/-- The passage has been asked for: current, and attached to a node in reach. -/
def Wanted (seeds : List SeedNodeRef) (passage : PassageRow) : Prop :=
  passage ∈ graph.passages ∧ current caseId caseVersion passage = true ∧
    ∃ node, graph.InReach caseId caseVersion maxHops seeds node ∧ graph.attached passage node = true

variable {graph caseId caseVersion maxHops maxNodes} {seeds : List SeedNodeRef} {rounds : Nat}
  {rows : Finset (GraphNode × Nat)} {limit : NodeLimit}

theorem mem_nextRows {row row' : GraphNode × Nat} :
    row' ∈ graph.nextRows caseId caseVersion maxHops row ↔ row.2 < maxHops ∧
      ∃ edge ∈ graph.edges, live caseId caseVersion edge = true ∧ edge.source = row.1 ∧
        row' = (edge.target, row.2 + 1) := by
  unfold nextRows
  split
  · rename_i hlt
    simp only [List.mem_toFinset, List.mem_map, List.mem_filter, decide_eq_true_eq, hlt, true_and]
    grind
  · rename_i hlt
    exact iff_of_false (Finset.notMem_empty _) fun h => hlt h.1

theorem mem_seedRows {row : GraphNode × Nat} :
    row ∈ seedRows seeds ↔ ∃ seed ∈ seeds, ((seed.kind.value, seed.nodeId), 0) = row := by
  rw [seedRows, List.mem_toFinset, List.mem_map]

/-- The recursion ends: its rows climb from hop to hop. -/
theorem reachable_isSome (hrounds : maxHops < rounds) :
    ∃ rows, graph.reachable caseId caseVersion maxHops rounds seeds = some rows := by
  refine recursiveUnion_isSome Prod.snd maxHops 0 ?_ ?_ (by omega)
  · intro row row' hrow'
    obtain ⟨hlt, _, -, -, -, rfl⟩ := mem_nextRows.1 hrow'
    exact ⟨Nat.lt_succ_self _, hlt⟩
  · intro row hrow
    obtain ⟨_, -, rfl⟩ := mem_seedRows.1 hrow
    exact ⟨le_refl 0, Nat.zero_le _⟩

/-- The rows are the nodes in reach, each with every number of hops it is reached in. -/
theorem mem_reachable_iff (h : graph.reachable caseId caseVersion maxHops rounds seeds = some rows)
    {node : GraphNode} {k : Nat} :
    (node, k) ∈ rows ↔ k ≤ maxHops ∧ graph.Reaches caseId caseVersion seeds k node := by
  constructor
  · refine of_mem_recursiveUnion (P := fun row => row.2 ≤ maxHops ∧
      graph.Reaches caseId caseVersion seeds row.2 row.1) ?_ ?_ (Finset.Subset.refl _) h (node, k)
    · rintro ⟨_, _⟩ ⟨-, hreaches⟩ _ hrow'
      obtain ⟨hlt, _, hedge, hlive, rfl, rfl⟩ := mem_nextRows.1 hrow'
      exact ⟨hlt, .hop hreaches hedge hlive⟩
    · intro row hrow
      obtain ⟨_, hseed, rfl⟩ := mem_seedRows.1 hrow
      exact ⟨Nat.zero_le _, .seed hseed⟩
  · obtain ⟨hfirst, hclosed⟩ :=
      recursiveUnion_closed (fun row hrow hnew => absurd hrow hnew) h
    rintro ⟨hle, hreaches⟩
    induction hreaches with
    | seed hseed => exact hfirst (mem_seedRows.2 ⟨_, hseed, rfl⟩)
    | hop _ hedge hlive ih =>
      exact hclosed _ (ih (by omega)) (mem_nextRows.2 ⟨hle, _, hedge, hlive, rfl, rfl⟩)

theorem mem_nodes_iff (h : graph.reachable caseId caseVersion maxHops rounds seeds = some rows)
    {node : GraphNode} :
    node ∈ rows.image Prod.fst ↔ graph.InReach caseId caseVersion maxHops seeds node := by
  rw [Finset.mem_image]
  constructor
  · rintro ⟨⟨_, k⟩, hrow, rfl⟩
    exact ⟨k, (mem_reachable_iff h).1 hrow⟩
  · rintro ⟨k, hk⟩
    exact ⟨(node, k), (mem_reachable_iff h).2 hk, rfl⟩

theorem mem_passagesOf {visited : Finset GraphNode} {found : CandidatePassage} :
    found ∈ graph.passagesOf caseId caseVersion visited ↔ ∃ passage ∈ graph.passages,
      current caseId caseVersion passage = true ∧ (∃ node ∈ visited, graph.attached passage node = true) ∧
        found = ⟨passage.id, passage.documentVersionId, passage.pageRegionId⟩ := by
  simp only [passagesOf, List.mem_insertionSort, List.mem_dedup, List.mem_map, List.mem_filter,
    decide_eq_true_eq]
  grind

/-- A limit that is not reached keeps everything. -/
theorem keep_eq {nodes : Finset GraphNode} (h : nodes.card ≤ maxNodes) :
    limit.keep maxNodes nodes = nodes := by
  refine Finset.eq_of_subset_of_card_le (limit.keep_subset maxNodes nodes) ?_
  rw [limit.card_keep, min_eq_right h]

/-- **The traversal is exact and in scope.** It ends; every passage it returns is wanted, and when at most
`maxNodes` nodes are in reach, every wanted passage is returned. -/
theorem traverseEvidenceGraph_exact (graph : EvidenceGraph) (caseId : Uuid) (caseVersion : CaseVersion)
    (seeds : List SeedNodeRef) (maxHops maxNodes : Nat) (limit : NodeLimit) :
    ∃ found, graph.traverseEvidenceGraph caseId caseVersion maxHops maxNodes limit (maxHops + 1) seeds =
        some found ∧
      (∀ candidate ∈ found, ∃ passage, graph.Wanted caseId caseVersion maxHops seeds passage ∧
        candidate = ⟨passage.id, passage.documentVersionId, passage.pageRegionId⟩) ∧
      (∀ nodes : Finset GraphNode,
        (∀ node, node ∈ nodes ↔ graph.InReach caseId caseVersion maxHops seeds node) →
        nodes.card ≤ maxNodes → ∀ passage, graph.Wanted caseId caseVersion maxHops seeds passage →
          ⟨passage.id, passage.documentVersionId, passage.pageRegionId⟩ ∈ found) := by
  obtain ⟨rows, hrows⟩ : ∃ rows, graph.reachable caseId caseVersion maxHops (maxHops + 1) seeds = some rows :=
    reachable_isSome (Nat.lt_succ_self maxHops)
  unfold traverseEvidenceGraph
  split
  · rename_i hnone
    refine ⟨[], rfl, fun _ hmem => absurd hmem List.not_mem_nil, ?_⟩
    rintro _ - - _ ⟨-, -, node, ⟨k, -, hreaches⟩, -⟩
    -- without a seed nothing is in reach
    have hempty : ∀ k node, ¬ graph.Reaches caseId caseVersion seeds k node := by
      intro k node h
      induction h with
      | seed hseed =>
        rw [hnone] at hseed
        cases hseed
      | hop _ _ _ ih => exact ih
    exact absurd hreaches (hempty k node)
  · rw [hrows]
    refine ⟨_, rfl, ?_, ?_⟩
    · intro candidate hmem
      obtain ⟨passage, hpassage, hcur, ⟨node, hnode, hattached⟩, heq⟩ := mem_passagesOf.1 hmem
      have hreach := (mem_nodes_iff hrows).1 (limit.keep_subset _ _ hnode)
      exact ⟨passage, ⟨hpassage, hcur, node, hreach, hattached⟩, heq⟩
    · rintro nodes hnodes hcard passage ⟨hpassage, hcur, node, hreach, hattached⟩
      have hall : rows.image Prod.fst = nodes := by
        ext other
        rw [mem_nodes_iff hrows, hnodes]
      refine mem_passagesOf.2 ⟨passage, hpassage, hcur, ⟨node, ?_, hattached⟩, rfl⟩
      rw [hall, keep_eq hcard]
      exact (hnodes node).2 hreach

end EvidenceGraph

end CreditOps.Retrieval
