import Mathlib.Data.List.Chain
import Mathlib.Data.List.Nodup
import CreditOps.Orchestration.Readiness

/-!
# Cycles of a dependency graph

The engine refuses a template whose dependencies contain a cycle. The search is depth first with three
colours: a node is grey while its predecessors are searched, and the grey nodes are the stack. It meets a
grey node exactly when the stack and that node close a cycle.
-/

set_option autoImplicit false

namespace CreditOps.Orchestration

/-! ## The search -/

/-- A mapping of nodes to their predecessors, in insertion order. -/
structure DependencyEdges (V : Type) where
  entries : List (V × List V)
  keys_nodup : (entries.map (·.1)).Nodup

/-- The colours of the search. -/
inductive Color where
  | white
  | grey
  | black
deriving DecidableEq

/-- `color` and `stack`. A node without a colour counts as white. -/
structure SearchState (V : Type) where
  color : V → Color
  stack : List V

namespace SearchState

variable {V : Type} [DecidableEq V] {state : SearchState V} {node v : V}

/-- A node turns grey and goes on the stack. -/
def enter (state : SearchState V) (node : V) : SearchState V where
  color := Function.update state.color node .grey
  stack := state.stack ++ [node]

/-- The node on top turns black and leaves the stack. -/
def leave (state : SearchState V) (node : V) : SearchState V where
  color := Function.update state.color node .black
  stack := state.stack.dropLast

@[simp] theorem color_enter_self : (state.enter node).color node = .grey :=
  Function.update_self ..

theorem color_enter_of_ne (h : v ≠ node) : (state.enter node).color v = state.color v :=
  Function.update_of_ne h ..

@[simp] theorem stack_enter : (state.enter node).stack = state.stack ++ [node] :=
  rfl

@[simp] theorem color_leave_self : (state.leave node).color node = .black :=
  Function.update_self ..

theorem color_leave_of_ne (h : v ≠ node) : (state.leave node).color v = state.color v :=
  Function.update_of_ne h ..

@[simp] theorem stack_leave : (state.leave node).stack = state.stack.dropLast :=
  rfl

end SearchState

/-- What a visit ends with; `exhausted` is a recursion deeper than allowed. -/
inductive SearchOutcome (V : Type) where
  | finished (state : SearchState V)
  | found (cycle : List V)
  | exhausted

namespace DependencyEdges

variable {V : Type}

/-- The keys of the mapping. -/
def keys (edges : DependencyEdges V) : List V :=
  edges.entries.map (·.1)

/-- Every node that is mentioned. -/
def nodes (edges : DependencyEdges V) : List V :=
  edges.entries.flatMap fun entry => entry.1 :: entry.2

variable [DecidableEq V]

/-- `edges.get(node, ())` -/
def get (edges : DependencyEdges V) (node : V) : List V :=
  (edges.entries.lookup node).getD []

/-- The loop over the predecessors of the node on top of the stack. -/
def visitEach (visit : V → SearchState V → SearchOutcome V) :
    List V → SearchState V → SearchOutcome V
  | [], state => .finished state
  | predecessor :: predecessors, state =>
    match state.color predecessor with
    | .grey => .found (state.stack.drop (state.stack.idxOf predecessor) ++ [predecessor])
    | .white =>
      match visit predecessor state with
      | .finished state => visitEach visit predecessors state
      | .found cycle => .found cycle
      | .exhausted => .exhausted
    | .black => visitEach visit predecessors state

/-- `visit`, for a recursion of at most that depth. -/
def visit (edges : DependencyEdges V) : Nat → V → SearchState V → SearchOutcome V
  | 0, _, _ => .exhausted
  | depth + 1, node, state =>
    match visitEach (edges.visit depth) (edges.get node) (state.enter node) with
    | .finished left => .finished (left.leave node)
    | .found cycle => .found cycle
    | .exhausted => .exhausted

/-- The loop over the nodes of the mapping. -/
def searchFrom (edges : DependencyEdges V) (depth : Nat) : List V → SearchState V → SearchOutcome V
  | [], state => .finished state
  | node :: nodes, state =>
    if state.color node = .white then
      match edges.visit depth node state with
      | .finished state => edges.searchFrom depth nodes state
      | .found cycle => .found cycle
      | .exhausted => .exhausted
    else edges.searchFrom depth nodes state

/-- The search, for a recursion as deep as there are nodes. -/
def search (edges : DependencyEdges V) : SearchOutcome V :=
  edges.searchFrom edges.nodes.length edges.keys ⟨fun _ => .white, []⟩

/-- `detect_cycle` -/
def detectCycle (edges : DependencyEdges V) : Option (List V) :=
  match edges.search with
  | .found cycle => some cycle
  | .finished _ | .exhausted => none

/-! ## Cycles -/

/-- An edge leads from a node to one of its predecessors. -/
def Edge (edges : DependencyEdges V) (a b : V) : Prop :=
  b ∈ edges.get a

/-- Some node is its own indirect predecessor. -/
def Cyclic (edges : DependencyEdges V) : Prop :=
  ∃ v, Relation.TransGen edges.Edge v v

/-- **A real cycle**: each node is followed by one of its predecessors, and the last node is the first. -/
structure IsCycle (edges : DependencyEdges V) (cycle : List V) : Prop where
  edges : cycle.IsChain edges.Edge
  nontrivial : 2 ≤ cycle.length
  closes : cycle.head? = cycle.getLast?

variable {edges : DependencyEdges V}

theorem IsCycle.cyclic {cycle : List V} (h : edges.IsCycle cycle) : edges.Cyclic := by
  obtain ⟨hchain, hlen, hcloses⟩ := h
  match cycle, hlen with
  | first :: second :: rest, _ =>
    obtain ⟨hedge, htail⟩ := List.isChain_cons_cons.1 hchain
    have hlast : (second :: rest).getLast (List.cons_ne_nil _ _) = first := by
      rw [List.getLast?_cons_cons, List.getLast?_eq_getLast_of_ne_nil (List.cons_ne_nil _ _)] at hcloses
      exact (Option.some.inj hcloses).symm
    have hreach := List.relationReflTransGen_of_exists_isChain_cons rest htail hlast
    exact ⟨first, Relation.TransGen.head' hedge hreach⟩

variable {a b node : V}

/-- A node with an edge is a key, and its predecessors are nodes. -/
theorem exists_entry_of_edge (h : edges.Edge a b) : ∃ entry ∈ edges.entries,
    entry.1 = a ∧ b ∈ entry.2 := by
  unfold Edge get at h
  cases hlookup : edges.entries.lookup a with
  | none =>
    rw [hlookup] at h
    cases h
  | some predecessors =>
    rw [hlookup] at h
    obtain ⟨_, _, hents, -⟩ := List.lookup_eq_some_iff.1 hlookup
    refine ⟨(a, predecessors), ?_, rfl, h⟩
    rw [hents]
    exact List.mem_append_right _ List.mem_cons_self

theorem mem_nodes_of_edge (h : edges.Edge a b) : b ∈ edges.nodes := by
  obtain ⟨entry, hentry, -, hb⟩ := exists_entry_of_edge h
  exact List.mem_flatMap.2 ⟨entry, hentry, List.mem_cons_of_mem _ hb⟩

theorem mem_keys_of_edge (h : edges.Edge a b) : a ∈ edges.keys := by
  obtain ⟨_, hentry, rfl, -⟩ := exists_entry_of_edge h
  exact List.mem_map_of_mem hentry

omit [DecidableEq V] in
theorem mem_nodes_of_mem_keys (h : a ∈ edges.keys) : a ∈ edges.nodes := by
  obtain ⟨entry, hentry, rfl⟩ := List.mem_map.1 h
  exact List.mem_flatMap.2 ⟨entry, hentry, List.mem_cons_self⟩

/-! ## What the search keeps -/

/-- **The invariant.** The stack is a path of distinct nodes and the grey nodes are its nodes; the black nodes
are closed under edges and lie on no cycle. -/
structure SearchInvariant (edges : DependencyEdges V) (state : SearchState V) : Prop where
  grey_iff : ∀ v, state.color v = .grey ↔ v ∈ state.stack
  stack_nodup : state.stack.Nodup
  path : state.stack.IsChain edges.Edge
  black_closed : ∀ v p, state.color v = .black → edges.Edge v p → state.color p = .black
  black_acyclic : ∀ v, state.color v = .black → ¬ Relation.TransGen edges.Edge v v

/-- What a visit leaves: the same stack, and at least the same black nodes. -/
structure Grows (state left : SearchState V) : Prop where
  stack : left.stack = state.stack
  black : ∀ v, state.color v = .black → left.color v = .black

/-- The number of nodes that have not been reached. -/
def unreached (edges : DependencyEdges V) (state : SearchState V) : Nat :=
  edges.nodes.countP fun v => state.color v = .white

/-- What a sound visit ends with: the nodes it was for are black, or the graph has the cycle. -/
def Sound (edges : DependencyEdges V) (state : SearchState V) (visited : List V) :
    SearchOutcome V → Prop
  | .finished left => edges.SearchInvariant left ∧ Grows state left ∧ ∀ v ∈ visited, left.color v = .black
  | .found cycle => edges.IsCycle cycle
  | .exhausted => False

variable {state left : SearchState V}

omit [DecidableEq V] in
theorem Grows.refl (state : SearchState V) : Grows state state :=
  ⟨rfl, fun _ h => h⟩

omit [DecidableEq V] in
theorem Grows.trans {last : SearchState V} (h : Grows state left) (h' : Grows left last) :
    Grows state last :=
  ⟨h'.stack.trans h.stack, fun v hv => h'.black v (h.black v hv)⟩

/-- No node becomes white again. -/
theorem white_of_grows (hstate : edges.SearchInvariant state) (hleft : edges.SearchInvariant left)
    (h : Grows state left) {v : V} (hv : left.color v = .white) : state.color v = .white := by
  cases hcolor : state.color v with
  | white => rfl
  | grey =>
    have hgrey : left.color v = .grey := by
      rw [hleft.grey_iff, h.stack]
      exact (hstate.grey_iff v).1 hcolor
    rw [hgrey] at hv
    cases hv
  | black =>
    rw [h.black v hcolor] at hv
    cases hv

theorem unreached_le (hstate : edges.SearchInvariant state) (hleft : edges.SearchInvariant left)
    (h : Grows state left) : edges.unreached left ≤ edges.unreached state := by
  apply List.countP_mono_left
  intro v _ hv
  rw [decide_eq_true_eq] at hv ⊢
  exact white_of_grows hstate hleft h hv

/-- **A grey predecessor closes a cycle.** The stack from it on is a path to the node on top. -/
theorem isCycle_of_grey (hstate : edges.SearchInvariant state) {predecessor : V}
    (htop : state.stack.getLast? = some node) (hedge : edges.Edge node predecessor)
    (hgrey : state.color predecessor = .grey) :
    edges.IsCycle (state.stack.drop (state.stack.idxOf predecessor) ++ [predecessor]) := by
  have hmem : predecessor ∈ state.stack := (hstate.grey_iff predecessor).1 hgrey
  have hindex : state.stack.idxOf predecessor < state.stack.length := List.idxOf_lt_length_iff.2 hmem
  have hdrop : state.stack.drop (state.stack.idxOf predecessor) =
      predecessor :: state.stack.drop (state.stack.idxOf predecessor + 1) := by
    rw [List.drop_eq_getElem_cons hindex, List.getElem_idxOf hindex]
  have hlast : (state.stack.drop (state.stack.idxOf predecessor)).getLast? = some node := by
    rw [List.getLast?_drop, if_neg (by omega), htop]
  refine ⟨?_, ?_, ?_⟩
  · refine List.isChain_append.2 ⟨hstate.path.drop _, List.isChain_singleton _, ?_⟩
    intro a ha b hb
    rw [hlast] at ha
    obtain rfl := Option.mem_some_iff.1 ha
    obtain rfl := Option.mem_some_iff.1 hb
    exact hedge
  · rw [hdrop]
    simp only [List.cons_append, List.length_cons, List.length_append, List.length_nil]
    omega
  · rw [hdrop, List.getLast?_append, List.cons_append, List.head?_cons]
    rfl

/-! ## One visit -/

/-- Entering a white node below the top of the stack. -/
theorem SearchInvariant.enter (hstate : edges.SearchInvariant state) (hwhite : state.color node = .white)
    (hpath : ∀ top ∈ state.stack.getLast?, edges.Edge top node) :
    edges.SearchInvariant (state.enter node) := by
  have hfresh : node ∉ state.stack := by
    intro hmem
    rw [(hstate.grey_iff node).2 hmem] at hwhite
    cases hwhite
  have hblack : ∀ v, (state.enter node).color v = .black → v ≠ node ∧ state.color v = .black := by
    intro v hv
    have hne : v ≠ node := by
      rintro rfl
      rw [SearchState.color_enter_self] at hv
      cases hv
    rw [SearchState.color_enter_of_ne hne] at hv
    exact ⟨hne, hv⟩
  refine ⟨?_, ?_, ?_, ?_, ?_⟩
  · intro v
    rw [SearchState.stack_enter, List.mem_append, List.mem_singleton]
    by_cases hnode : v = node
    · rw [hnode]
      exact iff_of_true SearchState.color_enter_self (.inr rfl)
    · rw [SearchState.color_enter_of_ne hnode, hstate.grey_iff]
      exact (or_iff_left hnode).symm
  · rw [SearchState.stack_enter, ← List.concat_eq_append, List.nodup_concat]
    exact ⟨hfresh, hstate.stack_nodup⟩
  · refine List.isChain_append.2 ⟨hstate.path, List.isChain_singleton _, ?_⟩
    intro a ha b hb
    obtain rfl := Option.mem_some_iff.1 hb
    exact hpath a ha
  · intro v p hv hedge
    have hp := hstate.black_closed v p (hblack v hv).2 hedge
    have hne : p ≠ node := by
      rintro rfl
      rw [hwhite] at hp
      cases hp
    rwa [SearchState.color_enter_of_ne hne]
  · intro v hv
    exact hstate.black_acyclic v (hblack v hv).2

theorem SearchInvariant.black_of_reaches (hstate : edges.SearchInvariant state)
    (ha : state.color a = .black) (h : Relation.ReflTransGen edges.Edge a b) :
    state.color b = .black := by
  induction h with
  | refl => exact ha
  | tail _ hedge ih => exact hstate.black_closed _ _ ih hedge

/-- **Leaving a node** whose predecessors are all black: a cycle through it would have made it black. -/
theorem SearchInvariant.leave (hleft : edges.SearchInvariant left) {stack : List V}
    (hstack : left.stack = stack ++ [node]) (hdone : ∀ p, edges.Edge node p → left.color p = .black) :
    edges.SearchInvariant (left.leave node) := by
  have hgrey : left.color node = .grey := by
    rw [hleft.grey_iff, hstack]
    exact List.mem_append_right _ List.mem_cons_self
  have hdrop : (left.leave node).stack = stack := by
    rw [SearchState.stack_leave, hstack, List.dropLast_concat]
  have hnodup := hleft.stack_nodup
  rw [hstack, ← List.concat_eq_append, List.nodup_concat] at hnodup
  have hkept : ∀ v, left.color v = .black → (left.leave node).color v = .black := by
    intro v hv
    by_cases hnode : v = node
    · rw [hnode, SearchState.color_leave_self]
    · rwa [SearchState.color_leave_of_ne hnode]
  refine ⟨?_, ?_, ?_, ?_, ?_⟩
  · intro v
    rw [hdrop]
    by_cases hnode : v = node
    · rw [hnode, SearchState.color_leave_self]
      exact iff_of_false Color.noConfusion hnodup.1
    · rw [SearchState.color_leave_of_ne hnode, hleft.grey_iff, hstack, List.mem_append,
        List.mem_singleton]
      exact or_iff_left hnode
  · rw [hdrop]
    exact hnodup.2
  · exact hleft.path.dropLast
  · intro v p hv hedge
    apply hkept
    by_cases hnode : v = node
    · exact hdone p (hnode ▸ hedge)
    · rw [SearchState.color_leave_of_ne hnode] at hv
      exact hleft.black_closed v p hv hedge
  · intro v hv hcycle
    by_cases hnode : v = node
    · rw [hnode] at hcycle
      obtain ⟨p, hedge, hreach⟩ := Relation.TransGen.head'_iff.1 hcycle
      rw [hleft.black_of_reaches (hdone p hedge) hreach] at hgrey
      cases hgrey
    · rw [SearchState.color_leave_of_ne hnode] at hv
      exact hleft.black_acyclic v hv hcycle

/-- **The loop over the predecessors is sound when every visit it makes is.** -/
theorem sound_visitEach {visit : V → SearchState V → SearchOutcome V} {depth : Nat}
    (hvisit : ∀ p state, edges.SearchInvariant state → state.color p = .white → state.stack.getLast? = some node → edges.Edge node p → edges.unreached state ≤ depth → edges.Sound state [p] (visit p state))
    {predecessors : List V} (hedges : ∀ p ∈ predecessors, edges.Edge node p) :
    ∀ {state : SearchState V}, edges.SearchInvariant state → state.stack.getLast? = some node →
      edges.unreached state ≤ depth → edges.Sound state predecessors (visitEach visit predecessors state) := by
  induction predecessors with
  | nil =>
    intro state hstate _ _
    exact ⟨hstate, Grows.refl state, fun v hv => absurd hv List.not_mem_nil⟩
  | cons p predecessors ih =>
    intro state hstate htop hdepth
    have hrest := fun q hq => hedges q (List.mem_cons_of_mem p hq)
    have hedge := hedges p List.mem_cons_self
    unfold visitEach
    cases hcolor : state.color p with
    | grey => exact isCycle_of_grey hstate htop hedge hcolor
    | black =>
      have hsound := ih hrest hstate htop hdepth
      dsimp only
      revert hsound
      cases visitEach visit predecessors state with
      | finished =>
        rintro ⟨hleft, hgrows, hdone⟩
        exact ⟨hleft, hgrows, List.forall_mem_cons.2 ⟨hgrows.black p hcolor, hdone⟩⟩
      | found | exhausted => exact id
    | white =>
      have hfirst := hvisit p state hstate hcolor htop hedge hdepth
      dsimp only
      revert hfirst
      cases visit p state with
      | found | exhausted => exact id
      | finished middle =>
        rintro ⟨hmiddle, hgrows, hblack⟩
        have hsound := ih hrest hmiddle (hgrows.stack ▸ htop)
          ((unreached_le hstate hmiddle hgrows).trans hdepth)
        dsimp only
        revert hsound
        cases visitEach visit predecessors middle with
        | finished =>
          rintro ⟨hleft, hgrows', hdone⟩
          refine ⟨hleft, hgrows.trans hgrows', List.forall_mem_cons.2 ⟨?_, hdone⟩⟩
          exact hgrows'.black p (hblack p List.mem_cons_self)
        | found | exhausted => exact id

/-- Entering a node that is counted as unreached leaves one fewer. -/
theorem unreached_enter (hnode : node ∈ edges.nodes) (hwhite : state.color node = .white) :
    edges.unreached (state.enter node) < edges.unreached state := by
  have hmono : ∀ nodes : List V, nodes.countP (fun v => (state.enter node).color v = .white) ≤
      nodes.countP fun v => state.color v = .white := by
    intro nodes
    apply List.countP_mono_left
    intro v _ hv
    rw [decide_eq_true_eq] at hv ⊢
    by_cases hne : v = node
    · rwa [hne]
    · rwa [SearchState.color_enter_of_ne hne] at hv
  obtain ⟨before, after, hnodes⟩ := List.append_of_mem hnode
  have hpre := hmono before
  have hafter := hmono after
  have hreached : ¬ decide ((state.enter node).color node = .white) = true := by
    rw [SearchState.color_enter_self]
    decide
  have hcounted : decide (state.color node = .white) = true := decide_eq_true hwhite
  unfold unreached
  rw [hnodes, List.countP_append, List.countP_append, List.countP_cons, List.countP_cons, if_neg hreached,
    if_pos hcounted]
  omega

/-- **A visit is sound**, and never deeper than there are unreached nodes. -/
theorem sound_visit (depth : Nat) : ∀ {node : V} {state : SearchState V}, edges.SearchInvariant state →
    state.color node = .white → node ∈ edges.nodes →
    (∀ top ∈ state.stack.getLast?, edges.Edge top node) → edges.unreached state ≤ depth →
    edges.Sound state [node] (edges.visit depth node state) := by
  induction depth with
  | zero =>
    intro node state _ hwhite hnode _ hdepth
    have hpos : 0 < edges.unreached state := by
      rw [unreached, List.countP_pos_iff]
      exact ⟨node, hnode, decide_eq_true hwhite⟩
    omega
  | succ depth ih =>
    intro node state hstate hwhite hnode hpath hdepth
    have hentered := hstate.enter hwhite hpath
    have hfewer := unreached_enter hnode hwhite
    have hloop : edges.Sound (state.enter node) (edges.get node)
        (visitEach (edges.visit depth) (edges.get node) (state.enter node)) := sound_visitEach
      (fun p state hstate hwhite htop hedge hdepth => ih hstate hwhite (mem_nodes_of_edge hedge)
        (fun top hmem => by
          rw [htop] at hmem
          obtain rfl := Option.mem_some_iff.1 hmem
          exact hedge) hdepth)
      (fun p hp => hp) hentered (List.getLast?_concat ..) (by omega)
    unfold visit
    revert hloop
    cases visitEach (edges.visit depth) (edges.get node)
      (state.enter node) with
    | found cycle => exact id
    | exhausted => exact id
    | finished left =>
      rintro ⟨hleft, hgrows, hdone⟩
      have hstack : (left.leave node).stack = state.stack := by
        rw [SearchState.stack_leave, hgrows.stack, SearchState.stack_enter, List.dropLast_concat]
      refine ⟨hleft.leave hgrows.stack hdone, ⟨hstack, ?_⟩, ?_⟩
      · intro v hv
        have hne : v ≠ node := by
          rintro rfl
          rw [hwhite] at hv
          cases hv
        rw [SearchState.color_leave_of_ne hne]
        apply hgrows.black
        rwa [SearchState.color_enter_of_ne hne]
      · intro v hv
        rw [List.mem_singleton.1 hv]
        exact SearchState.color_leave_self

/-! ## The whole search -/

/-- **The loop over the nodes** leaves every one of them black, or returns a real cycle. -/
theorem sound_searchFrom {nodes : List V} (hnodes : ∀ v ∈ nodes, v ∈ edges.nodes) :
    ∀ {state : SearchState V}, edges.SearchInvariant state → state.stack = [] →
      edges.unreached state ≤ edges.nodes.length →
      edges.Sound state nodes (edges.searchFrom edges.nodes.length nodes state) := by
  induction nodes with
  | nil =>
    intro state hstate _ _
    exact ⟨hstate, Grows.refl state, fun v hv => absurd hv List.not_mem_nil⟩
  | cons node nodes ih =>
    intro state hstate hempty hdepth
    have hrest := fun v hv => hnodes v (List.mem_cons_of_mem node hv)
    unfold searchFrom
    by_cases hwhite : state.color node = .white
    · rw [if_pos hwhite]
      have hvisit := sound_visit edges.nodes.length hstate hwhite (hnodes node List.mem_cons_self)
        (fun top htop => by
          rw [hempty] at htop
          cases htop) hdepth
      revert hvisit
      cases edges.visit edges.nodes.length node state with
      | found | exhausted => exact id
      | finished middle =>
        rintro ⟨hmiddle, hgrows, hblack⟩
        have hsound := ih hrest hmiddle (hgrows.stack.trans hempty)
          ((unreached_le hstate hmiddle hgrows).trans hdepth)
        dsimp only
        revert hsound
        cases edges.searchFrom edges.nodes.length nodes middle with
        | found | exhausted => exact id
        | finished =>
          rintro ⟨hleft, hgrows', hdone⟩
          refine ⟨hleft, hgrows.trans hgrows', List.forall_mem_cons.2 ⟨?_, hdone⟩⟩
          exact hgrows'.black node (hblack node List.mem_cons_self)
    · -- with an empty stack no node is grey
      rw [if_neg hwhite]
      have hblack : state.color node = .black := by
        cases hcolor : state.color node with
        | white => exact absurd hcolor hwhite
        | grey =>
          have hmem := (hstate.grey_iff node).1 hcolor
          rw [hempty] at hmem
          cases hmem
        | black => rfl
      have hsound := ih hrest hstate hempty hdepth
      revert hsound
      cases edges.searchFrom edges.nodes.length nodes state with
      | found | exhausted => exact id
      | finished =>
        rintro ⟨hleft, hgrows, hdone⟩
        exact ⟨hleft, hgrows, List.forall_mem_cons.2 ⟨hgrows.black node hblack, hdone⟩⟩

theorem sound_search : edges.Sound ⟨fun _ => .white, []⟩ edges.keys edges.search := by
  apply sound_searchFrom (fun v hv => mem_nodes_of_mem_keys hv) _ rfl List.countP_le_length
  refine ⟨?_, List.nodup_nil, List.isChain_nil, ?_, ?_⟩
  · intro v
    exact iff_of_false Color.noConfusion List.not_mem_nil
  · intro v p hv
    cases hv
  · intro v hv
    cases hv

/-- **Cycle detection is exact.** The search ends within its depth, it returns a cycle exactly when the graph
has one, and what it returns is a real cycle. -/
theorem detectCycle_exact (edges : DependencyEdges V) :
    edges.search ≠ .exhausted ∧
    ((∃ cycle, edges.detectCycle = some cycle) ↔ edges.Cyclic) ∧
    ∀ cycle, edges.detectCycle = some cycle → edges.IsCycle cycle := by
  have hsound : edges.Sound ⟨fun _ => .white, []⟩ edges.keys edges.search := sound_search
  unfold detectCycle
  revert hsound
  cases edges.search with
  | exhausted => exact False.elim
  | found cycle =>
    intro hcycle
    refine ⟨fun h => (nomatch h), iff_of_true ⟨cycle, rfl⟩ hcycle.cyclic, ?_⟩
    intro cycle' h
    cases h
    exact hcycle
  | finished left =>
    rintro ⟨hleft, -, hdone⟩
    refine ⟨fun h => (nomatch h), iff_of_false (fun ⟨_, h⟩ => (nomatch h)) ?_, fun _ h => (nomatch h)⟩
    -- a node on a cycle has a predecessor, so it is a key, and the search has left it black
    rintro ⟨v, hcycle⟩
    obtain ⟨p, hedge, -⟩ := Relation.TransGen.head'_iff.1 hcycle
    exact hleft.black_acyclic v (hdone v (mem_keys_of_edge hedge)) hcycle

end DependencyEdges

/-- `DependencyTemplate.edges`; the types of a template are distinct. -/
def DependencyTemplate.edges (template : DependencyTemplate)
    (hdistinct : template.orderedTypes.Nodup) : DependencyEdges TaskType where
  entries := template.nodes.map fun node => (node.taskType, node.predecessors)
  keys_nodup := by
    rw [List.map_map]
    exact hdistinct

example : (DependencyTemplate.canonical.edges (by decide)).detectCycle = none := by decide

end CreditOps.Orchestration
