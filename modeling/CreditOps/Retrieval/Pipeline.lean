import Mathlib.Data.List.Count
import CreditOps.Library.Results
import CreditOps.Retrieval.Packing
import CreditOps.Retrieval.Ranking

/-!
# The retrieval pipeline

A run walks the evidence graph from the seeds, ranks the passages it has reached by a lexical and maybe a
vector leg, merges the rankings, reads the sources back, and packs what is left within the budget. A ranked
passage whose source is gone, or is out of scope, is recorded, and so is one that does not fit.

Every ranked passage is in the result once (`execute_ids_perm`). A passage that was reached and that no leg
ranks is recorded nowhere, so nothing is discarded exactly when every reached passage is ranked
(`nothing_discarded_iff`).
-/

set_option autoImplicit false

namespace CreditOps.Retrieval

variable {σ ε : Type}

/-! ## Requests and the port -/

/-- `SeedNodeKind` -/
inductive SeedNodeKind where
  | confirmedFact
  | documentVersion
  | gap
  | conflict
deriving DecidableEq

/-- `SeedNodeRef` -/
structure SeedNodeRef where
  kind : SeedNodeKind
  nodeId : Uuid
deriving DecidableEq

/-- `MAX_HOPS_CEILING` -/
def maxHopsCeiling : Nat := 3

/-- `MAX_NODES_CEILING` -/
def maxNodesCeiling : Nat := 200

/-- `RetrievalRequest`, with the bounds of its fields. -/
structure RetrievalRequest where
  caseId : Uuid
  caseVersion : CaseVersion
  queryText : String
  seeds : List SeedNodeRef
  maxHops : Nat
  maxNodes : Nat
  budgetTokens : Nat
  caseVersion_pos : 1 ≤ caseVersion
  query_fits : 1 ≤ queryText.length ∧ queryText.length ≤ 8000
  maxHops_fits : 1 ≤ maxHops ∧ maxHops ≤ maxHopsCeiling
  maxNodes_fits : 1 ≤ maxNodes ∧ maxNodes ≤ maxNodesCeiling
  budget_pos : 1 ≤ budgetTokens

/-- `CandidatePassage` -/
structure CandidatePassage where
  passageId : Uuid
  documentVersionId : Uuid
  pageRegionId : Option Uuid
deriving DecidableEq

/-- `HydratedPassage` -/
structure HydratedPassage where
  passageId : Uuid
  caseId : Uuid
  caseVersion : CaseVersion
  documentVersionId : Uuid
  pageNumber : Option Int
  pageRegionId : Option Uuid
  passageText : String
  passageHash : String
deriving DecidableEq

/-- What the port answers during one run: a corpus, a search and whatever happens in between. -/
structure RetrievalPort (σ ε : Type) where
  traverseEvidenceGraph : Uuid → CaseVersion → List SeedNodeRef → Nat → Nat → List CandidatePassage
  lexicalSearch : Uuid → CaseVersion → String → List Uuid → Nat → SearchLeg σ
  vectorSearch : Uuid → CaseVersion → ε → List Uuid → Nat → SearchLeg σ
  hydratePassages : Uuid → CaseVersion → List Uuid → List HydratedPassage

/-- The gateway embeds the query, or its answer has no usable vector. -/
abbrev EmbeddingGateway (ε : Type) := String → Option ε

/-- `QueryEmbeddingError`, or a hit that does not pass its own bounds. -/
inductive RetrievalError where
  | queryEmbedding
  | validation
deriving DecidableEq

/-! ## Results -/

/-- `RetrievalResult` -/
structure RetrievalResult (σ : Type) where
  hits : List (RetrievalHit σ)
  packedContextVi : String
  tokenEstimate : Nat
  excluded : List ExcludedPassage

/-- `PersistableHit` -/
structure PersistableHit (σ : Type) where
  passageId : Uuid
  rank : Nat
  lexicalScore : Option σ
  vectorScore : Option σ
  passageHash : String
deriving DecidableEq

/-- `mode` -/
inductive RetrievalMode where
  | lexicalOnly
  | hybrid
deriving DecidableEq

/-- What `persist_query_and_hits` appends. -/
structure RetrievalTrace (σ : Type) where
  request : RetrievalRequest
  taskId : Option Uuid
  seedCount : Nat
  mode : RetrievalMode
  hits : List (PersistableHit σ)

/-- A run returns its result and leaves its trace. -/
structure RetrievalRun (σ : Type) where
  result : RetrievalResult σ
  trace : RetrievalTrace σ

/-! ## The run -/

/-- `DEFAULT_LEXICAL_LIMIT` -/
def defaultLexicalLimit : Nat := 50

/-- `DEFAULT_VECTOR_LIMIT` -/
def defaultVectorLimit : Nat := 50

/-- `RunRetrieval`: the port, the gateway if there is one, and the fan-out of each leg. -/
structure RunRetrieval (σ ε : Type) where
  port : RetrievalPort σ ε
  gateway : Option (EmbeddingGateway ε)
  lexicalLimit : Nat
  vectorLimit : Nat

namespace RunRetrieval

/-- The passages the walk has reached. -/
def candidateIds (self : RunRetrieval σ ε) (request : RetrievalRequest) : List Uuid :=
  (self.port.traverseEvidenceGraph request.caseId request.caseVersion request.seeds request.maxHops
    request.maxNodes).map (·.passageId)

/-- The lexical leg. -/
def lexicalLeg (self : RunRetrieval σ ε) (request : RetrievalRequest) : SearchLeg σ :=
  self.port.lexicalSearch request.caseId request.caseVersion request.queryText
    (self.candidateIds request) self.lexicalLimit

/-- The vector leg; without a gateway it is not searched. -/
def vectorLeg (self : RunRetrieval σ ε) (request : RetrievalRequest) :
    Except RetrievalError (SearchLeg σ) :=
  match self.gateway with
  | none => .ok .none
  | some embed =>
    match embed request.queryText with
    | none => .error .queryEmbedding
    | some embedding =>
      .ok (self.port.vectorSearch request.caseId request.caseVersion embedding
        (self.candidateIds request) self.vectorLimit)

/-- `_finish` -/
def finish (self : RunRetrieval σ ε) (request : RetrievalRequest) (taskId : Option Uuid)
    (hits : List (RetrievalHit σ)) (excluded : List ExcludedPassage) (packedContextVi : String)
    (tokenEstimate : Nat) : RetrievalRun σ where
  result := { hits, packedContextVi, tokenEstimate, excluded }
  trace :=
    { request
      taskId
      seedCount := request.seeds.length
      mode := if self.gateway.isNone then .lexicalOnly else .hybrid
      hits := hits.map fun hit =>
        { passageId := hit.passageId
          rank := hit.rank
          lexicalScore := hit.lexicalScore
          vectorScore := hit.vectorScore
          passageHash := hit.passageHash } }

end RunRetrieval

/-- `hydrated_by_id.get`; of two sources of one passage the later one stands. -/
def hydratedById (hydrated : List HydratedPassage) (passageId : Uuid) : Option HydratedPassage :=
  (hydrated.filter (·.passageId = passageId)).getLast?

/-- The validated hit of a hydrated passage. -/
def retrievalHit? (passage : HydratedPassage) (rank : Nat) (entry : MergedPassage σ) :
    Except RetrievalError (RetrievalHit σ) :=
  if h : 1 ≤ passage.passageText.length ∧ (∀ page ∈ passage.pageNumber, 1 ≤ page) ∧
      isSha256Hex passage.passageHash = true ∧ 1 ≤ rank then
    .ok
      { passageId := passage.passageId
        passageText := passage.passageText
        documentVersionId := passage.documentVersionId
        pageNumber := passage.pageNumber
        pageRegionId := passage.pageRegionId
        passageHash := passage.passageHash
        rank
        lexicalScore := entry.lexicalScore
        vectorScore := entry.vectorScore
        text_ne := h.1
        page_pos := h.2.1
        hash_hex := h.2.2.1
        rank_pos := h.2.2.2 }
  else .error .validation

/-- The loop over the merged ranking: the surviving hits, and the stale or foreign passages. -/
def admitEach (request : RetrievalRequest) (hydrated : List HydratedPassage) :
    Nat → List (MergedPassage σ) → Except RetrievalError (List (RetrievalHit σ) × List ExcludedPassage)
  | _, [] => .ok ([], [])
  | rank, entry :: entries =>
    match hydratedById hydrated entry.passageId with
    | none => do
      let (surviving, excluded) ← admitEach request hydrated rank entries
      return (surviving, ⟨entry.passageId, .stale⟩ :: excluded)
    | some passage =>
      if passage.caseId ≠ request.caseId ∨ passage.caseVersion ≠ request.caseVersion then do
        let (surviving, excluded) ← admitEach request hydrated rank entries
        return (surviving, ⟨entry.passageId, .unauthorizedScope⟩ :: excluded)
      else do
        let hit ← retrievalHit? passage (rank + 1) entry
        let (surviving, excluded) ← admitEach request hydrated (rank + 1) entries
        return (hit :: surviving, excluded)

namespace RunRetrieval

/-- `execute` -/
def execute (self : RunRetrieval σ ε) (request : RetrievalRequest) (taskId : Option Uuid) :
    Except RetrievalError (RetrievalRun σ) :=
  if self.candidateIds request = [] then .ok (self.finish request taskId [] [] "" 0)
  else do
    let vector ← self.vectorLeg request
    let merged := mergeRankings (self.lexicalLeg request) vector
    if merged = [] then .ok (self.finish request taskId [] [] "" 0)
    else do
      let hydrated := self.port.hydratePassages request.caseId request.caseVersion
        (merged.map (·.passageId))
      let (surviving, excluded) ← admitEach request hydrated 0 merged
      let packed := packContext surviving request.budgetTokens
      return self.finish request taskId packed.included (excluded ++ packed.excluded)
        packed.packedContextVi packed.tokenEstimate

end RunRetrieval

/-! ## The account of a run -/

/-- The passages of a result, delivered or recorded. -/
def RetrievalResult.ids (result : RetrievalResult σ) : List Uuid :=
  result.hits.map (·.passageId) ++ result.excluded.map (·.passageId)

variable {request : RetrievalRequest} {hydrated : List HydratedPassage} {rank : Nat}
  {entries : List (MergedPassage σ)} {surviving : List (RetrievalHit σ)}
  {excluded : List ExcludedPassage}

theorem passageId_of_hydratedById {passageId : Uuid} {passage : HydratedPassage}
    (h : hydratedById hydrated passageId = some passage) : passage.passageId = passageId :=
  of_decide_eq_true (List.mem_filter.1 (List.mem_of_getLast? h)).2

theorem passageId_of_retrievalHit? {passage : HydratedPassage} {entry : MergedPassage σ}
    {hit : RetrievalHit σ} (h : retrievalHit? passage rank entry = .ok hit) :
    hit.passageId = passage.passageId := by
  unfold retrievalHit? at h
  split at h
  · cases h
    rfl
  · cases h

/-- **The loop keeps the account.** Every entry survives or is recorded. -/
theorem admitEach_ids_perm (h : admitEach request hydrated rank entries = .ok (surviving, excluded)) :
    (surviving.map (·.passageId) ++ excluded.map (·.passageId)).Perm (entries.map (·.passageId)) := by
  induction entries generalizing rank surviving excluded with
  | nil =>
    cases h
    exact List.Perm.refl _
  | cons entry _ ih =>
    rw [List.map_cons]
    unfold admitEach at h
    cases hsource : hydratedById hydrated entry.passageId with
    | none =>
      rw [hsource] at h
      obtain ⟨⟨_, _⟩, hrest, hout⟩ := Results.bind_eq_ok.1 h
      cases hout
      exact List.perm_middle.trans ((ih hrest).cons _)
    | some =>
      rw [hsource] at h
      dsimp only at h
      split at h
      · obtain ⟨⟨_, _⟩, hrest, hout⟩ := Results.bind_eq_ok.1 h
        cases hout
        exact List.perm_middle.trans ((ih hrest).cons _)
      · obtain ⟨_, hhit, hnext⟩ := Results.bind_eq_ok.1 h
        obtain ⟨⟨_, _⟩, hrest, hout⟩ := Results.bind_eq_ok.1 hnext
        cases hout
        rw [List.map_cons, passageId_of_retrievalHit? hhit, passageId_of_hydratedById hsource]
        exact (ih hrest).cons _

theorem packContext_ids (surviving : List (RetrievalHit σ)) (budgetTokens : Nat) :
    (packContext surviving budgetTokens).included.map (·.passageId) ++
        (packContext surviving budgetTokens).excluded.map (·.passageId) =
      surviving.map (·.passageId) := by
  obtain ⟨rest, -, hsplit, hexcluded, -⟩ := packContext_eq surviving budgetTokens
  have hrest : (rest.map outOfBudget).map (·.passageId) = rest.map (·.passageId) := by
    rw [List.map_map]
    rfl
  rw [hexcluded, hrest, ← List.map_append, ← hsplit]

namespace RunRetrieval

variable {self : RunRetrieval σ ε} {taskId : Option Uuid} {run : RetrievalRun σ}

/-- A search leg of the run ranks the passage; without candidates no leg is searched. -/
def Ranked (self : RunRetrieval σ ε) (request : RetrievalRequest) (passageId : Uuid) : Prop :=
  self.candidateIds request ≠ [] ∧ (passageId ∈ (self.lexicalLeg request).ids ∨
    ∃ vector, self.vectorLeg request = .ok vector ∧ passageId ∈ vector.ids)

/-- The walk has reached the passage, or a leg ranks it. -/
def Considered (self : RunRetrieval σ ε) (request : RetrievalRequest) (passageId : Uuid) : Prop :=
  passageId ∈ self.candidateIds request ∨ self.Ranked request passageId

/-- **Nothing is discarded.** Every passage that was considered is in the result once: it is delivered, or
recorded with one reason. -/
def NothingDiscarded (self : RunRetrieval σ ε) (request : RetrievalRequest)
    (result : RetrievalResult σ) : Prop :=
  ∀ passageId, self.Considered request passageId → result.ids.count passageId = 1

/-- The merged ranking of the run is the union of its legs by best rank. -/
def MergesLegs (self : RunRetrieval σ ε) (request : RetrievalRequest) : Prop :=
  ∀ vector, self.vectorLeg request = .ok vector → MergedByBestRank (self.lexicalLeg request) vector

/-- **The result has every ranked passage once.** -/
theorem execute_ids_perm (h : self.execute request taskId = .ok run) :
    (self.candidateIds request = [] ∧ run.result.ids = []) ∨
      (self.candidateIds request ≠ [] ∧ ∃ vector, self.vectorLeg request = .ok vector ∧
        run.result.ids.Perm (mergedIds (self.lexicalLeg request) vector)) := by
  unfold execute at h
  by_cases hcands : self.candidateIds request = []
  · rw [if_pos hcands] at h
    cases h
    exact Or.inl ⟨hcands, rfl⟩
  · rw [if_neg hcands] at h
    obtain ⟨vector, hvector, hmerge⟩ := Results.bind_eq_ok.1 h
    refine Or.inr ⟨hcands, vector, hvector, ?_⟩
    dsimp only at hmerge
    by_cases hmerged : mergeRankings (self.lexicalLeg request) vector = []
    · rw [if_pos hmerged] at hmerge
      cases hmerge
      rw [mergedIds, hmerged]
      exact List.Perm.refl _
    · rw [if_neg hmerged] at hmerge
      obtain ⟨⟨surviving, excluded⟩, hadmitted, hout⟩ := Results.bind_eq_ok.1 hmerge
      cases hout
      refine List.Perm.trans ?_ (admitEach_ids_perm hadmitted)
      rw [← packContext_ids surviving request.budgetTokens]
      change List.Perm (_ ++ (excluded ++ _).map _) _
      rw [List.map_append, List.append_assoc]
      exact List.Perm.append_left _ List.perm_append_comm

/-- What is in the result is ranked, and the other way round, and nothing twice. -/
theorem count_ids (h : self.execute request taskId = .ok run) (passageId : Uuid) :
    (passageId ∈ run.result.ids ↔ self.Ranked request passageId) ∧
      run.result.ids.count passageId ≤ 1 := by
  rcases execute_ids_perm h with ⟨hnone, hids⟩ | ⟨hsome, vector, hvector, hperm⟩
  · rw [hids]
    refine ⟨iff_of_false List.not_mem_nil ?_, Nat.zero_le 1⟩
    rintro ⟨hsome, -⟩
    exact hsome hnone
  · have hmerged := mergeRankings_merged (self.lexicalLeg request) vector
    refine ⟨?_, List.nodup_iff_count_le_one.1 (hperm.nodup_iff.2 hmerged.nodup) passageId⟩
    rw [hperm.mem_iff, hmerged.mem_iff, Ranked]
    constructor
    · rintro (hlexical | hmem)
      · exact ⟨hsome, Or.inl hlexical⟩
      · exact ⟨hsome, Or.inr ⟨vector, hvector, hmem⟩⟩
    · rintro ⟨-, hlexical | ⟨_, hvector', hmem⟩⟩
      · exact Or.inl hlexical
      · rw [hvector] at hvector'
        cases hvector'
        exact Or.inr hmem

/-- **Nothing is discarded exactly when every passage the walk has reached is ranked by a leg.** -/
theorem nothing_discarded_iff (h : self.execute request taskId = .ok run) :
    (self.NothingDiscarded request run.result ∧ self.MergesLegs request) ↔
      ∀ passageId ∈ self.candidateIds request, self.Ranked request passageId := by
  constructor
  · rintro ⟨hnothing, -⟩ passageId hcand
    have honce := hnothing passageId (Or.inl hcand)
    refine (count_ids h passageId).1.1 (List.count_pos_iff.1 ?_)
    rw [honce]
    exact Nat.one_pos
  · intro hranked
    refine ⟨?_, fun vector _ => mergeRankings_merged _ vector⟩
    rintro passageId hconsidered
    have hrank : self.Ranked request passageId := hconsidered.elim (hranked passageId) id
    obtain ⟨hmem, hle⟩ := count_ids h passageId
    exact Nat.le_antisymm hle (List.count_pos_iff.2 (hmem.2 hrank))

/-! ## A passage that no leg ranks -/

/-- A request with one seed. -/
def sampleRequest : RetrievalRequest where
  caseId := 1
  caseVersion := 5
  queryText := "doanh thu thuan"
  seeds := [⟨.confirmedFact, 10⟩]
  maxHops := 2
  maxNodes := 50
  budgetTokens := 100
  caseVersion_pos := by decide
  query_fits := by decide
  maxHops_fits := by decide
  maxNodes_fits := by decide
  budget_pos := by decide

/-- The source of a passage of the sample case. -/
def sampleSource (passageId : Uuid) : HydratedPassage where
  passageId
  caseId := 1
  caseVersion := 5
  documentVersionId := 61
  pageNumber := some 1
  pageRegionId := some 62
  passageText := "Doanh thu thuan (mo phong)."
  passageHash := sha256Hex "Doanh thu thuan (mo phong)."

/-- Two passages are reached and the lexical leg ranks one of them; there is no gateway. -/
def unrankedRun : RunRetrieval Nat Unit where
  port :=
    { traverseEvidenceGraph := fun _ _ _ _ _ => [⟨10, 61, some 62⟩, ⟨11, 61, some 62⟩]
      lexicalSearch := fun _ _ _ _ _ => ⟨[⟨10, 9⟩], List.nodup_singleton 10⟩
      vectorSearch := fun _ _ _ _ _ => .none
      hydratePassages := fun _ _ ids => ids.map sampleSource }
  gateway := none
  lexicalLimit := defaultLexicalLimit
  vectorLimit := defaultVectorLimit

theorem unrankedRun_ends : ∃ run, unrankedRun.execute sampleRequest none = .ok run ∧
    run.result.ids = [10] := by
  have hends : (unrankedRun.execute sampleRequest none).toOption.any
      (fun run => run.result.ids = [10]) = true := by
    decide +kernel
  obtain ⟨run, hrun, hids⟩ := (Option.any_eq_true _ _).1 hends
  exact ⟨run, Results.toOption_eq_some.1 hrun, of_decide_eq_true hids⟩

/-- **A passage that was reached and not ranked is recorded nowhere.** -/
theorem unranked_passage_discarded : ¬ ∀ (self : RunRetrieval Nat Unit) (request : RetrievalRequest)
    (taskId : Option Uuid) (run : RetrievalRun Nat), self.execute request taskId = .ok run →
      self.NothingDiscarded request run.result ∧ self.MergesLegs request := by
  intro hclaim
  obtain ⟨run, hrun, hids⟩ := unrankedRun_ends
  obtain ⟨hnothing, -⟩ := hclaim unrankedRun sampleRequest none run hrun
  have honce := hnothing 11 (Or.inl (by decide))
  rw [hids] at honce
  revert honce
  decide

/-- The same corpus, and the lexical leg ranks both. -/
def rankedRun : RunRetrieval Nat Unit where
  port :=
    { traverseEvidenceGraph := fun _ _ _ _ _ => [⟨10, 61, some 62⟩, ⟨11, 61, some 62⟩]
      lexicalSearch := fun _ _ _ _ _ => ⟨[⟨11, 9⟩, ⟨10, 4⟩], by decide⟩
      vectorSearch := fun _ _ _ _ _ => .none
      hydratePassages := fun _ _ ids => ids.map sampleSource }
  gateway := none
  lexicalLimit := defaultLexicalLimit
  vectorLimit := defaultVectorLimit

theorem nothing_discarded_of_rankedRun : ∃ run, rankedRun.execute sampleRequest none = .ok run ∧
    rankedRun.NothingDiscarded sampleRequest run.result := by
  have hends : (rankedRun.execute sampleRequest none).toOption.isSome = true := by
    decide +kernel
  obtain ⟨run, hrun⟩ := Option.isSome_iff_exists.1 hends
  have hok := Results.toOption_eq_some.1 hrun
  refine ⟨run, hok, ((nothing_discarded_iff hok).2 ?_).1⟩
  intro passageId hcand
  refine ⟨by decide, Or.inl ?_⟩
  revert passageId
  decide

end RunRetrieval

end CreditOps.Retrieval
