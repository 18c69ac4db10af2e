import CreditOps.Domain.CanonicalHash

/-!
# The context hash

A context manifest is the snapshot of what one model call was authorised to see. Its hash is SHA-256 over the
canonical JSON of the manifest, without its identity and its timestamp, with the reference lists and the
exclusions sorted (`computeContextHash`).

The hash identifies the content (`computeContextHash_eq_iff`): two manifests have one hash exactly when they
are equal but for identity and timestamp, for the order of the reference lists and the exclusions, and for
the order the tool versions were put into their mapping (`SameContent`). The case roles keep their order.
-/

set_option autoImplicit false

namespace CreditOps.GoalContracts

open JsonText CanonicalOrder

/-! ## Manifests -/

/-- The closed set of reasons a manifest may cite for leaving a ref out. -/
inductive ExclusionReason where
  | stale
  | unauthorized
  | superseded
  | outsideBudget
deriving DecidableEq

/-- The text of a reason. -/
def ExclusionReason.value : ExclusionReason → String
  | .stale => "STALE"
  | .unauthorized => "UNAUTHORIZED"
  | .superseded => "SUPERSEDED"
  | .outsideBudget => "OUTSIDE_BUDGET"

theorem ExclusionReason.value_injective : Function.Injective ExclusionReason.value := by
  intro reason other h
  cases reason <;> cases other <;> first | rfl | (revert h; decide)

/-- One explicitly excluded ref. -/
@[ext]
structure ExclusionRecord where
  ref : Uuid128
  reason : ExclusionReason
deriving DecidableEq

/-- The identity and the case roles a manifest was built under. -/
structure AuthorizationSnapshot where
  actorOrServiceIdentity : String
  caseRoles : List String
  identity_nonempty : 1 ≤ actorOrServiceIdentity.length
deriving DecidableEq

/-- A layered budget; every bound is positive. -/
structure BudgetSpec where
  maxInputTokens : Nat
  maxOutputTokens : Nat
  maxToolCalls : Nat
  inputTokens_pos : 0 < maxInputTokens
  outputTokens_pos : 0 < maxOutputTokens
  toolCalls_pos : 0 < maxToolCalls
deriving DecidableEq

/-- The snapshot of what one model call was authorised to see. `toolVersions` is a mapping: its keys are
distinct. -/
structure ContextManifest where
  id : Uuid128
  caseId : Uuid128
  caseVersion : CaseVersion
  taskId : Option Uuid128
  goalContractId : Uuid128
  goalContractVersion : Nat
  agentRole : String
  profileVersion : String
  promptVersion : String
  schemaVersion : String
  modelVersion : Option String
  toolVersions : List (String × String)
  authorizationSnapshot : AuthorizationSnapshot
  authoritativeFactRefs : List Uuid128
  humanDecisionRefs : List Uuid128
  upstreamArtifactRefs : List Uuid128
  openGapRefs : List Uuid128
  openConflictRefs : List Uuid128
  openChallengeRefs : List Uuid128
  retrievalQueryRefs : List Uuid128
  toolResultRefs : List Uuid128
  explicitExclusions : List ExclusionRecord
  budgets : BudgetSpec
  createdAt : Timestamp
  caseVersion_pos : 1 ≤ caseVersion
  goalContractVersion_pos : 1 ≤ goalContractVersion
  agentRole_nonempty : 1 ≤ agentRole.length
  profileVersion_nonempty : 1 ≤ profileVersion.length
  promptVersion_nonempty : 1 ≤ promptVersion.length
  schemaVersion_nonempty : 1 ≤ schemaVersion.length
  toolVersions_nodup : (toolVersions.map (·.1)).Nodup

/-! ## The payload -/

/-- A text, or null. -/
def optionalText : Option String → JsonValue
  | none => .null
  | some text => .string text

/-- The dump of a mapping between texts. -/
def textMapping (mapping : List (String × String)) : JsonValue :=
  .object (mapping.map fun entry => (entry.1, .string entry.2))

/-- The dump of an authorization snapshot. -/
def AuthorizationSnapshot.dump (snapshot : AuthorizationSnapshot) : JsonValue :=
  .object
    [("actor_or_service_identity", .string snapshot.actorOrServiceIdentity),
      ("case_roles", .array (snapshot.caseRoles.map .string))]

/-- The dump of an exclusion. -/
def ExclusionRecord.dump (exclusion : ExclusionRecord) : JsonValue :=
  .object [("ref", .string exclusion.ref.text), ("reason", .string exclusion.reason.value)]

/-- The dump of a budget. -/
def BudgetSpec.dump (budgets : BudgetSpec) : JsonValue :=
  .object
    [("max_input_tokens", .int budgets.maxInputTokens),
      ("max_output_tokens", .int budgets.maxOutputTokens),
      ("max_tool_calls", .int budgets.maxToolCalls)]

/-- The texts of a reference list, sorted. -/
def sortedRefs (refs : List Uuid128) : List String :=
  (refs.map Uuid128.text).insertionSort (· ≤ ·)

/-- The pair the exclusions are sorted by. -/
def ExclusionRecord.sortKey (exclusion : ExclusionRecord) : List String :=
  [exclusion.ref.text, exclusion.reason.value]

/-- The exclusions by ref, then by reason. -/
def sortedExclusions (exclusions : List ExclusionRecord) : List ExclusionRecord :=
  sortBy ExclusionRecord.sortKey exclusions

/-- The entries of the payload: everything but `id` and `created_at`, with the reference lists and the
exclusions sorted. -/
def payloadEntries (manifest : ContextManifest) : List (String × JsonValue) :=
  [("case_id", .string manifest.caseId.text),
    ("case_version", .int manifest.caseVersion),
    ("task_id", optionalText (manifest.taskId.map Uuid128.text)),
    ("goal_contract_id", .string manifest.goalContractId.text),
    ("goal_contract_version", .int manifest.goalContractVersion),
    ("agent_role", .string manifest.agentRole),
    ("profile_version", .string manifest.profileVersion),
    ("prompt_version", .string manifest.promptVersion),
    ("schema_version", .string manifest.schemaVersion),
    ("model_version", optionalText manifest.modelVersion),
    ("tool_versions", textMapping manifest.toolVersions),
    ("authorization_snapshot", manifest.authorizationSnapshot.dump),
    ("authoritative_fact_refs", .array ((sortedRefs manifest.authoritativeFactRefs).map .string)),
    ("human_decision_refs", .array ((sortedRefs manifest.humanDecisionRefs).map .string)),
    ("upstream_artifact_refs", .array ((sortedRefs manifest.upstreamArtifactRefs).map .string)),
    ("open_gap_refs", .array ((sortedRefs manifest.openGapRefs).map .string)),
    ("open_conflict_refs", .array ((sortedRefs manifest.openConflictRefs).map .string)),
    ("open_challenge_refs", .array ((sortedRefs manifest.openChallengeRefs).map .string)),
    ("retrieval_query_refs", .array ((sortedRefs manifest.retrievalQueryRefs).map .string)),
    ("tool_result_refs", .array ((sortedRefs manifest.toolResultRefs).map .string)),
    ("explicit_exclusions",
      .array ((sortedExclusions manifest.explicitExclusions).map ExclusionRecord.dump)),
    ("budgets", manifest.budgets.dump)]

/-- The value that is hashed. -/
def contextPayload (manifest : ContextManifest) : JsonValue :=
  .object (payloadEntries manifest)

/-- `compute_context_hash` -/
def computeContextHash (manifest : ContextManifest) : String :=
  canonicalHash (contextPayload manifest)

/-! ## The parts of a payload -/

theorem writable_texts (texts : List String) : Writable everyInteger (.array (texts.map .string)) := by
  refine .array ?_
  intro item hitem
  obtain ⟨text, -, rfl⟩ := List.mem_map.1 hitem
  exact .string text

theorem writable_optionalText (text : Option String) : Writable everyInteger (optionalText text) := by
  cases text with
  | none => exact .null
  | some text => exact .string text

theorem writable_textMapping {mapping : List (String × String)} (h : (mapping.map (·.1)).Nodup) :
    Writable everyInteger (textMapping mapping) := by
  refine .object ?_ ?_
  · rwa [List.map_map]
  · intro entry hentry
    obtain ⟨old, -, rfl⟩ := List.mem_map.1 hentry
    exact .string old.2

theorem sortKeys_optionalText (text : Option String) : sortKeys (optionalText text) = optionalText text := by
  cases text <;> rfl

theorem optionalText_injective : Function.Injective optionalText := by
  intro text other h
  cases text with
  | none =>
    cases other with
    | none => rfl
    | some => cases h
  | some =>
    cases other with
    | none => cases h
    | some => exact congrArg some (JsonValue.string.inj h)

theorem sortKeys_string_injective : Function.Injective fun text => sortKeys (.string text) :=
  fun _ _ h => JsonValue.string.inj h

theorem sortKeys_texts_iff {texts others : List String} :
    sortKeys (.array (texts.map .string)) = sortKeys (.array (others.map .string)) ↔ texts = others :=
  sortKeys_array_map_iff sortKeys_string_injective

/-- **A mapping is dumped up to its order.** -/
theorem sortKeys_textMapping_iff {mapping other : List (String × String)} (h : (mapping.map (·.1)).Nodup) :
    sortKeys (textMapping mapping) = sortKeys (textMapping other) ↔ mapping.Perm other := by
  have hents : ∀ m : List (String × String),
      sortKeysEntries (m.map fun entry => (entry.1, JsonValue.string entry.2)) =
        m.map fun entry => (entry.1, JsonValue.string entry.2) := by
    intro m
    rw [sortKeysEntries_eq_map, List.map_map]
    rfl
  have hinj : Function.Injective fun entry : String × String =>
      (entry.1, JsonValue.string entry.2) := by
    rintro ⟨_, _⟩ ⟨_, _⟩ heq
    simpa only [Prod.mk.injEq, JsonValue.string.injEq] using heq
  constructor
  · intro heq
    have hperm := perm_of_sortBy_eq (JsonValue.object.inj heq)
    rw [hents, hents] at hperm
    exact (List.map_perm_map_iff hinj).1 hperm
  · intro hperm
    refine sortKeys_object_of_perm (hperm.map _) ?_
    rwa [List.map_map]

theorem AuthorizationSnapshot.dump_inj {snapshot other : AuthorizationSnapshot}
    (h : sortKeys snapshot.dump = sortKeys other.dump) : snapshot = other := by
  have hkeys : ["actor_or_service_identity", "case_roles"].Nodup := by decide
  rw [dump, dump] at h
  have hents := sortKeys_object_inj h rfl hkeys
  simp only [sortKeysEntries, List.cons.injEq, Prod.mk.injEq, true_and, and_true] at hents
  obtain ⟨hidentity, hroles⟩ := hents
  cases snapshot
  cases other
  cases sortKeys_string_injective hidentity
  cases sortKeys_texts_iff.1 hroles
  rfl

theorem BudgetSpec.dump_inj {budgets other : BudgetSpec} (h : sortKeys budgets.dump = sortKeys other.dump) :
    budgets = other := by
  have hkeys : ["max_input_tokens", "max_output_tokens", "max_tool_calls"].Nodup := by decide
  rw [dump, dump] at h
  have hents := sortKeys_object_inj h rfl hkeys
  simp only [sortKeysEntries, sortKeys, List.cons.injEq, Prod.mk.injEq, true_and, and_true,
    JsonValue.int.injEq, Int.natCast_inj] at hents
  obtain ⟨hinput, houtput, hcalls⟩ := hents
  cases budgets
  cases other
  cases hinput
  cases houtput
  cases hcalls
  rfl

theorem ExclusionRecord.dump_injective :
    Function.Injective fun exclusion : ExclusionRecord => sortKeys exclusion.dump := by
  intro exclusion other h
  have hkeys : ["ref", "reason"].Nodup := by decide
  have hdump : sortKeys exclusion.dump = sortKeys other.dump := h
  rw [dump, dump] at hdump
  have hents := sortKeys_object_inj hdump (by simp only [List.map_cons, List.map_nil]) hkeys
  simp only [sortKeysEntries, List.cons.injEq, Prod.mk.injEq, true_and, and_true] at hents
  obtain ⟨href, hreason⟩ := hents
  exact ExclusionRecord.ext (Uuid128.text_injective (sortKeys_string_injective href))
    (ExclusionReason.value_injective (sortKeys_string_injective hreason))

theorem ExclusionRecord.sortKey_injective : Function.Injective ExclusionRecord.sortKey := by
  intro exclusion other h
  simp only [sortKey, List.cons.injEq, and_true] at h
  exact ExclusionRecord.ext (Uuid128.text_injective h.1) (ExclusionReason.value_injective h.2)

/-- **A reference list is dumped up to its order.** -/
theorem sortKeys_sortedRefs_iff {refs others : List Uuid128} :
    sortKeys (.array ((sortedRefs refs).map .string)) = sortKeys (.array ((sortedRefs others).map .string)) ↔
      refs.Perm others :=
  sortKeys_texts_iff.trans (insertionSort_map_eq_iff Uuid128.text_injective)

/-- **So are the exclusions.** -/
theorem sortKeys_sortedExclusions_iff {exclusions others : List ExclusionRecord} :
    sortKeys (.array ((sortedExclusions exclusions).map ExclusionRecord.dump)) =
        sortKeys (.array ((sortedExclusions others).map ExclusionRecord.dump)) ↔
      exclusions.Perm others :=
  (sortKeys_array_map_iff ExclusionRecord.dump_injective).trans
    (sortBy_eq_iff ExclusionRecord.sortKey_injective)

/-! ## The content of a manifest -/

/-- The manifests are equal but for identity and timestamp, and for the order of their references, their
exclusions and their tool versions. -/
structure SameContent (manifest other : ContextManifest) : Prop where
  caseId : manifest.caseId = other.caseId
  caseVersion : manifest.caseVersion = other.caseVersion
  taskId : manifest.taskId = other.taskId
  goalContractId : manifest.goalContractId = other.goalContractId
  goalContractVersion : manifest.goalContractVersion = other.goalContractVersion
  agentRole : manifest.agentRole = other.agentRole
  profileVersion : manifest.profileVersion = other.profileVersion
  promptVersion : manifest.promptVersion = other.promptVersion
  schemaVersion : manifest.schemaVersion = other.schemaVersion
  modelVersion : manifest.modelVersion = other.modelVersion
  toolVersions : manifest.toolVersions.Perm other.toolVersions
  authorizationSnapshot : manifest.authorizationSnapshot = other.authorizationSnapshot
  authoritativeFactRefs : manifest.authoritativeFactRefs.Perm other.authoritativeFactRefs
  humanDecisionRefs : manifest.humanDecisionRefs.Perm other.humanDecisionRefs
  upstreamArtifactRefs : manifest.upstreamArtifactRefs.Perm other.upstreamArtifactRefs
  openGapRefs : manifest.openGapRefs.Perm other.openGapRefs
  openConflictRefs : manifest.openConflictRefs.Perm other.openConflictRefs
  openChallengeRefs : manifest.openChallengeRefs.Perm other.openChallengeRefs
  retrievalQueryRefs : manifest.retrievalQueryRefs.Perm other.retrievalQueryRefs
  toolResultRefs : manifest.toolResultRefs.Perm other.toolResultRefs
  explicitExclusions : manifest.explicitExclusions.Perm other.explicitExclusions
  budgets : manifest.budgets = other.budgets

/-- The keys of a payload. -/
def payloadKeys : List String :=
  ["case_id", "case_version", "task_id", "goal_contract_id", "goal_contract_version", "agent_role",
    "profile_version", "prompt_version", "schema_version", "model_version", "tool_versions",
    "authorization_snapshot", "authoritative_fact_refs", "human_decision_refs", "upstream_artifact_refs",
    "open_gap_refs", "open_conflict_refs", "open_challenge_refs", "retrieval_query_refs",
    "tool_result_refs", "explicit_exclusions", "budgets"]

theorem payloadKeys_nodup : payloadKeys.Nodup := by
  decide

theorem map_fst_payloadEntries (manifest : ContextManifest) :
    (payloadEntries manifest).map (·.1) = payloadKeys :=
  rfl

theorem nodup_payloadEntries (manifest : ContextManifest) :
    ((payloadEntries manifest).map (·.1)).Nodup := by
  rw [map_fst_payloadEntries]
  exact payloadKeys_nodup

theorem writable_contextPayload (manifest : ContextManifest) :
    Writable everyInteger (contextPayload manifest) := by
  refine .object (nodup_payloadEntries manifest) ?_
  have hexclusions : Writable everyInteger
      (.array ((sortedExclusions manifest.explicitExclusions).map ExclusionRecord.dump)) := by
    refine .array ?_
    intro item hitem
    obtain ⟨_, -, rfl⟩ := List.mem_map.1 hitem
    refine .object (by simp) ?_
    simp only [List.forall_mem_cons, List.not_mem_nil, IsEmpty.forall_iff, implies_true, and_true]
    exact ⟨.string _, .string _⟩
  have hauth : Writable everyInteger manifest.authorizationSnapshot.dump := by
    refine .object (by simp) ?_
    simp only [List.forall_mem_cons, List.not_mem_nil, IsEmpty.forall_iff, implies_true, and_true]
    exact ⟨.string _, writable_texts _⟩
  have hbudgets : Writable everyInteger manifest.budgets.dump := by
    refine .object (by simp) ?_
    simp only [List.forall_mem_cons, List.not_mem_nil, IsEmpty.forall_iff, implies_true, and_true]
    exact ⟨.int rfl, .int rfl, .int rfl⟩
  simp only [payloadEntries, List.forall_mem_cons, List.not_mem_nil, IsEmpty.forall_iff, implies_true,
    and_true]
  exact ⟨.string _, .int rfl, writable_optionalText _, .string _, .int rfl, .string _, .string _, .string _,
    .string _, writable_optionalText _, writable_textMapping manifest.toolVersions_nodup, hauth,
    writable_texts _, writable_texts _, writable_texts _, writable_texts _, writable_texts _,
    writable_texts _, writable_texts _, writable_texts _, hexclusions, hbudgets⟩

/-- **Payloads agree up to the order of their entries when the manifests have the same content.** -/
theorem sortKeys_contextPayload_iff {manifest other : ContextManifest} :
    sortKeys (contextPayload manifest) = sortKeys (contextPayload other) ↔ SameContent manifest other := by
  have htools : sortKeys (textMapping manifest.toolVersions) = sortKeys (textMapping other.toolVersions) ↔
      manifest.toolVersions.Perm other.toolVersions := sortKeys_textMapping_iff manifest.toolVersions_nodup
  constructor
  · intro h
    rw [contextPayload, contextPayload] at h
    have hents := sortKeys_object_inj h
      ((map_fst_payloadEntries manifest).trans (map_fst_payloadEntries other).symm)
      (nodup_payloadEntries manifest)
    simp only [payloadEntries, sortKeysEntries, List.cons.injEq, Prod.mk.injEq, true_and, and_true] at hents
    obtain ⟨hcase, hver, htask, hcontract, hcontractVersion, hrole, hprofile, hprompt, hschema, hmodel,
      htoolVersions, hauth, hfacts, hdecs, hartifacts, hgaps, hconflicts, hchals, hqueries,
      hress, hexclusions, hbudgets⟩ := hents
    rw [sortKeys_optionalText, sortKeys_optionalText] at htask hmodel
    exact
      { caseId := Uuid128.text_injective (JsonValue.string.inj hcase)
        caseVersion := Int.ofNat.inj (JsonValue.int.inj hver)
        taskId := Option.map_injective Uuid128.text_injective (optionalText_injective htask)
        goalContractId := Uuid128.text_injective (JsonValue.string.inj hcontract)
        goalContractVersion := Int.ofNat.inj (JsonValue.int.inj hcontractVersion)
        agentRole := JsonValue.string.inj hrole
        profileVersion := JsonValue.string.inj hprofile
        promptVersion := JsonValue.string.inj hprompt
        schemaVersion := JsonValue.string.inj hschema
        modelVersion := optionalText_injective hmodel
        toolVersions := htools.1 htoolVersions
        authorizationSnapshot := AuthorizationSnapshot.dump_inj hauth
        authoritativeFactRefs := sortKeys_sortedRefs_iff.1 hfacts
        humanDecisionRefs := sortKeys_sortedRefs_iff.1 hdecs
        upstreamArtifactRefs := sortKeys_sortedRefs_iff.1 hartifacts
        openGapRefs := sortKeys_sortedRefs_iff.1 hgaps
        openConflictRefs := sortKeys_sortedRefs_iff.1 hconflicts
        openChallengeRefs := sortKeys_sortedRefs_iff.1 hchals
        retrievalQueryRefs := sortKeys_sortedRefs_iff.1 hqueries
        toolResultRefs := sortKeys_sortedRefs_iff.1 hress
        explicitExclusions := sortKeys_sortedExclusions_iff.1 hexclusions
        budgets := BudgetSpec.dump_inj hbudgets }
  · intro h
    have hents : sortKeysEntries (payloadEntries manifest) = sortKeysEntries (payloadEntries other) := by
      simp only [payloadEntries, sortKeysEntries]
      rw [h.caseId, h.caseVersion, h.taskId, h.goalContractId, h.goalContractVersion, h.agentRole,
        h.profileVersion, h.promptVersion, h.schemaVersion, h.modelVersion, htools.2 h.toolVersions,
        h.authorizationSnapshot, sortKeys_sortedRefs_iff.2 h.authoritativeFactRefs,
        sortKeys_sortedRefs_iff.2 h.humanDecisionRefs, sortKeys_sortedRefs_iff.2 h.upstreamArtifactRefs,
        sortKeys_sortedRefs_iff.2 h.openGapRefs, sortKeys_sortedRefs_iff.2 h.openConflictRefs,
        sortKeys_sortedRefs_iff.2 h.openChallengeRefs, sortKeys_sortedRefs_iff.2 h.retrievalQueryRefs,
        sortKeys_sortedRefs_iff.2 h.toolResultRefs, sortKeys_sortedExclusions_iff.2 h.explicitExclusions,
        h.budgets]
    rw [contextPayload, contextPayload, sortKeys, sortKeys, hents]

/-- **The context hash identifies the content.** -/
theorem computeContextHash_eq_iff {manifest other : ContextManifest}
    (hsha : NoCollision (canonicalText (contextPayload manifest)) (canonicalText (contextPayload other))) :
    computeContextHash manifest = computeContextHash other ↔ SameContent manifest other :=
  (canonicalHash_eq_iff (writable_contextPayload manifest) (writable_contextPayload other) hsha).trans
    sortKeys_contextPayload_iff

/-! ## Two manifests of one content -/

theorem canonicalText_of_sameContent {manifest other : ContextManifest} (h : SameContent manifest other) :
    canonicalText (contextPayload manifest) = canonicalText (contextPayload other) :=
  (canonicalText_eq_iff (writable_contextPayload manifest) (writable_contextPayload other)).2
    (sortKeys_contextPayload_iff.2 h)

theorem role_nonempty : 1 ≤ "underwriting_maker".length := by
  decide

theorem version_nonempty : 1 ≤ "v1".length := by
  decide

theorem noTools_nodup : (([] : List (String × String)).map (·.1)).Nodup :=
  List.nodup_nil

/-- The manifest of a maker with two open gaps and two exclusions. -/
def makerManifest : ContextManifest where
  id := .ofNat 1
  caseId := .ofNat 2
  caseVersion := 1
  taskId := some (.ofNat 3)
  goalContractId := .ofNat 4
  goalContractVersion := 1
  agentRole := "underwriting_maker"
  profileVersion := "v1"
  promptVersion := "v1"
  schemaVersion := "v1"
  modelVersion := none
  toolVersions := []
  authorizationSnapshot := ⟨"underwriting_maker", ["underwriting_maker"], role_nonempty⟩
  authoritativeFactRefs := [.ofNat 5]
  humanDecisionRefs := []
  upstreamArtifactRefs := []
  openGapRefs := [.ofNat 6, .ofNat 7]
  openConflictRefs := []
  openChallengeRefs := []
  retrievalQueryRefs := []
  toolResultRefs := []
  explicitExclusions := [⟨.ofNat 8, .stale⟩, ⟨.ofNat 8, .outsideBudget⟩]
  budgets := ⟨1, 1, 1, Nat.one_pos, Nat.one_pos, Nat.one_pos⟩
  createdAt := 0
  caseVersion_pos := Nat.one_pos
  goalContractVersion_pos := Nat.one_pos
  agentRole_nonempty := role_nonempty
  profileVersion_nonempty := version_nonempty
  promptVersion_nonempty := version_nonempty
  schemaVersion_nonempty := version_nonempty
  toolVersions_nodup := noTools_nodup

/-- The same content in another row, read in another order. -/
def rereadManifest : ContextManifest :=
  { makerManifest with
    id := .ofNat 9
    openGapRefs := [.ofNat 7, .ofNat 6]
    explicitExclusions := [⟨.ofNat 8, .outsideBudget⟩, ⟨.ofNat 8, .stale⟩]
    createdAt := 1 }

theorem sameContent_rereadManifest : SameContent makerManifest rereadManifest where
  caseId := rfl
  caseVersion := rfl
  taskId := rfl
  goalContractId := rfl
  goalContractVersion := rfl
  agentRole := rfl
  profileVersion := rfl
  promptVersion := rfl
  schemaVersion := rfl
  modelVersion := rfl
  toolVersions := .refl _
  authorizationSnapshot := rfl
  authoritativeFactRefs := .refl _
  humanDecisionRefs := .refl _
  upstreamArtifactRefs := .refl _
  openGapRefs := .swap _ _ _
  openConflictRefs := .refl _
  openChallengeRefs := .refl _
  retrievalQueryRefs := .refl _
  toolResultRefs := .refl _
  explicitExclusions := .swap _ _ _
  budgets := rfl

theorem computeContextHash_rereadManifest :
    computeContextHash makerManifest = computeContextHash rereadManifest :=
  (computeContextHash_eq_iff fun _ => canonicalText_of_sameContent sameContent_rereadManifest).2
    sameContent_rereadManifest

end CreditOps.GoalContracts
