import QuadraA.Lib.Record
import QuadraA.Lib.Tarjan

/-!
# The graph of endorsements

`trust-computer.ts`: the graph with an edge for each endorsement, and the components of it that are
looked at for collusion.

* `EndorsementV2` — an endorsement as the computer reads it;
* `findSCCs_exact` — the components are found, each once, and their edges are counted.

An agent that a graph does not know is never looked at, as both ends of an edge are nodes.
-/

namespace QuadraA.Trust

open QuadraA.Lib

/-! ### Endorsements -/

/-- The domain of an endorsement, which may be missing in two ways. -/
inductive EndorsementDomain where
  | undefined
  | null
  | text (domain : String)
deriving DecidableEq

/-- **An endorsement as the computer reads it**; `sender` and `target` are the fields `from` and
`to`. -/
structure EndorsementV2 (K : Type) where
  sender : String
  target : String
  score : K
  domain : EndorsementDomain
  timestamp : K
  expires : Option K

variable {K : Type}

/-! ### The graph -/

structure GraphNode (K : Type) where
  did : String
  endorsements : List (EndorsementV2 K)

abbrev EndorsementGraph (K : Type) := Record String (GraphNode K)

def addNode (graph : EndorsementGraph K) (did : String) : EndorsementGraph K :=
  if (graph.get? did).isSome then graph else graph.set did { did := did, endorsements := [] }

def addEdge (graph : EndorsementGraph K) (e : EndorsementV2 K) : EndorsementGraph K :=
  match graph.get? e.sender with
  | none => graph
  | some node => graph.set e.sender { node with endorsements := node.endorsements ++ [e] }

def buildGraph (endorsements : List (EndorsementV2 K)) : EndorsementGraph K :=
  endorsements.foldl (fun graph e => addEdge (addNode (addNode graph e.sender) e.target) e) .empty

/-! ### Components -/

/-- A component with the endorsements that its agents have given. -/
structure SCC where
  nodes : List String
  internalEdges : ℕ
  externalEdges : ℕ
deriving DecidableEq

/-- The endorsements of a node. -/
def endorsementsOf (graph : EndorsementGraph K) (did : String) : List (EndorsementV2 K) :=
  ((graph.get? did).map GraphNode.endorsements).getD []

/-- The nodes that a visit goes to from a node. -/
def successors (graph : EndorsementGraph K) (did : String) : List String :=
  ((endorsementsOf graph did).map EndorsementV2.target).filter fun target =>
    (graph.get? target).isSome

/-- The endorsements of the nodes, counted by whether they are for one of them. -/
def countEdges (graph : EndorsementGraph K) (nodes : List String) : SCC where
  nodes := nodes
  internalEdges :=
    (nodes.flatMap (endorsementsOf graph)).countP fun e => decide (e.target ∈ nodes)
  externalEdges :=
    (nodes.flatMap (endorsementsOf graph)).countP fun e => decide (e.target ∉ nodes)

def findSCCs (graph : EndorsementGraph K) : List SCC :=
  let search := tarjan (successors graph) graph.values.length (graph.values.map GraphNode.did)
  (search.components.filter fun nodes => 1 < nodes.length).map (countEdges graph)

/-! ### Edges -/

section

variable {edges : List (String × String)} {roots : List String} {did target : String}

/-- Whom an agent has endorsed. -/
def endorsed (edges : List (String × String)) (did : String) : List String :=
  (edges.filter fun edge => edge.1 = did).map Prod.snd

/-- Both ends of all edges. -/
def agents (edges : List (String × String)) : List String :=
  edges.flatMap fun edge => [edge.1, edge.2]

theorem mem_agents : did ∈ agents edges ↔ ∃ edge ∈ edges, did = edge.1 ∨ did = edge.2 := by
  simp only [agents, List.mem_flatMap, List.mem_cons, List.not_mem_nil, or_false]

theorem mem_endorsed : target ∈ endorsed edges did ↔ (did, target) ∈ edges := by
  simp only [endorsed, List.mem_map, List.mem_filter, decide_eq_true_iff]
  constructor
  · rintro ⟨edge, ⟨hmem, rfl⟩, rfl⟩
    exact hmem
  · intro hmem
    exact ⟨(did, target), ⟨hmem, rfl⟩, rfl⟩

/-- Both ends of an edge are agents. -/
theorem mem_agents_of_endorsed (h : target ∈ endorsed edges did) :
    did ∈ agents edges ∧ target ∈ agents edges :=
  ⟨mem_agents.mpr ⟨_, mem_endorsed.mp h, Or.inl rfl⟩,
    mem_agents.mpr ⟨_, mem_endorsed.mp h, Or.inr rfl⟩⟩

theorem setOf_agents_append (edges : List (String × String)) (edge : String × String) :
    {did | did ∈ agents (edges ++ [edge])} =
      insert edge.2 (insert edge.1 {did | did ∈ agents edges}) := by
  ext did
  have hmem : did ∈ agents (edges ++ [edge]) ↔
      did ∈ agents edges ∨ did = edge.1 ∨ did = edge.2 := by
    rw [agents, List.flatMap_append, List.mem_append, List.flatMap_singleton, List.mem_pair]
    rfl
  rw [Set.mem_ofPred_eq, hmem, Set.mem_insert_iff, Set.mem_insert_iff, Set.mem_ofPred_eq]
  tauto

/-- **The search from all agents**, in any order, finds all components. -/
theorem components_of_agents (hroots : ∀ did, did ∈ roots ↔ did ∈ agents edges) :
    Components (endorsed edges) roots (tarjan (endorsed edges) roots.length roots).components :=
  tarjan_components (fun _ _ _ hw => (hroots _).mpr (mem_agents_of_endorsed hw).2) le_rfl

/-- The sets of the components of more than one agent. -/
theorem vertexSets_of_agents (hroots : ∀ did, did ∈ roots ↔ did ∈ agents edges) :
    vertexSets ((tarjan (endorsed edges) roots.length roots).components.filter
        fun nodes => 1 < nodes.length) =
      {C | IsComponent (endorsed edges) C ∧ C.Nontrivial} := by
  ext C
  refine (components_of_agents hroots).mem_vertexSets_filter (fun did hne => ?_) C
  obtain ⟨target, htarget⟩ := List.exists_mem_of_ne_nil _ hne
  exact (hroots did).mpr (mem_agents_of_endorsed htarget).1

end

/-! ### Graphs -/

section

variable {α : Type} {known : Set String} {out out' : String → α} {graph : Record String α}
  {did : String}

/-- **What a graph holds**: the nodes that are known, each with what goes out of it. -/
structure Describes (known : Set String) (out : String → α) (graph : Record String α) : Prop where
  isSome : ∀ did, (graph.get? did).isSome = true ↔ did ∈ known
  node : ∀ did node, graph.get? did = some node → node = out did

theorem Describes.get?_of_mem (h : Describes known out graph) (hdid : did ∈ known) :
    graph.get? did = some (out did) := by
  obtain ⟨node, hget⟩ := Option.isSome_iff_exists.mp ((h.isSome did).mpr hdid)
  rw [hget, h.node did node hget]

theorem Describes.get?_of_not_mem (h : Describes known out graph) (hdid : did ∉ known) :
    graph.get? did = none := by
  rw [← Option.not_isSome_iff_eq_none, h.isSome did]
  exact hdid

theorem Describes.mem_keys (h : Describes known out graph) : did ∈ graph.keys ↔ did ∈ known := by
  rw [← h.isSome did, Record.mem_keys_iff, Option.isSome_iff_exists]

/-- **A node that is written** is known. -/
theorem Describes.set (h : Describes known out graph) (hout : ∀ d, d ≠ did → out' d = out d) :
    Describes (insert did known) out' (graph.set did (out' did)) := by
  refine ⟨fun d => ?_, fun d node hnode => ?_⟩
  · rw [Record.get?_set, Set.mem_insert_iff]
    split_ifs with heq
    · exact ⟨fun _ => Or.inl heq.symm, fun _ => rfl⟩
    · rw [h.isSome d]
      exact ⟨Or.inr, fun hor => hor.resolve_left (Ne.symm heq)⟩
  · rw [Record.get?_set] at hnode
    split_ifs at hnode with heq
    · rw [← heq]
      exact (Option.some.inj hnode).symm
    · rw [hout d (Ne.symm heq)]
      exact h.node d node hnode

/-- **A node that is added** unless it is known. -/
theorem Describes.ensure (h : Describes known out graph) {a : α} (ha : did ∉ known → out did = a) :
    Describes (insert did known) out
      (if (graph.get? did).isSome then graph else graph.set did a) := by
  split_ifs with hsome
  · rw [Set.insert_eq_of_mem ((h.isSome did).mp hsome)]
    exact h
  · rw [← ha fun hdid => hsome ((h.isSome did).mpr hdid)]
    exact h.set fun _ _ => rfl

end

/-! ### The graph of a list -/

section

variable {es : List (EndorsementV2 K)} {e : EndorsementV2 K} {did : String}

/-- The edges of endorsements. -/
def edges (endorsements : List (EndorsementV2 K)) : List (String × String) :=
  endorsements.map fun e => (e.sender, e.target)

/-- The node of an agent. -/
def nodeOf (es : List (EndorsementV2 K)) (did : String) : GraphNode K where
  did := did
  endorsements := es.filter fun e => e.sender = did

theorem nodeOf_of_not_mem (h : did ∉ agents (edges es)) :
    nodeOf es did = { did := did, endorsements := [] } := by
  have hnil : es.filter (fun e => decide (e.sender = did)) = [] := by
    refine List.filter_eq_nil_iff.mpr fun e he hsender => h ?_
    exact mem_agents.mpr ⟨_, List.mem_map_of_mem he, Or.inl (of_decide_eq_true hsender).symm⟩
  rw [nodeOf, hnil]

theorem nodeOf_append (es : List (EndorsementV2 K)) (e : EndorsementV2 K) (did : String) :
    nodeOf (es ++ [e]) did =
      if e.sender = did then
        { nodeOf es did with endorsements := (nodeOf es did).endorsements ++ [e] }
      else nodeOf es did := by
  rw [nodeOf, List.filter_append, List.filter_singleton]
  split_ifs with heq
  · rw [decide_eq_true heq]
    rfl
  · rw [decide_eq_false heq, Bool.cond_false, List.append_nil]
    rfl

/-- **A node is added** for an agent, if all agents of the list are known. -/
theorem Describes.addNode {known : Set String} {graph : EndorsementGraph K}
    (h : Describes known (nodeOf es) graph) (hknown : ∀ did ∈ agents (edges es), did ∈ known) :
    Describes (insert did known) (nodeOf es) (addNode graph did) :=
  h.ensure fun hnew => nodeOf_of_not_mem fun hmem => hnew (hknown did hmem)

/-- **The graph of a list** knows the agents of it. -/
theorem describes_buildGraph (es : List (EndorsementV2 K)) :
    Describes {did | did ∈ agents (edges es)} (nodeOf es) (buildGraph es) := by
  induction es using List.reverseRecOn with
  | nil =>
    refine ⟨fun did => ?_, nofun⟩
    rw [buildGraph, List.foldl_nil, Record.get?_empty]
    exact ⟨nofun, nofun⟩
  | append_singleton es e ih =>
    have hadded : Describes (insert e.target (insert e.sender {did | did ∈ agents (edges es)}))
        (nodeOf es) (addNode (addNode (buildGraph es) e.sender) e.target) :=
      (ih.addNode fun _ hmem => hmem).addNode fun _ hmem => Or.inr hmem
    have hmem : e.sender ∈ insert e.target (insert e.sender {did | did ∈ agents (edges es)}) :=
      Or.inr (Or.inl rfl)
    have hset := @Describes.set _ _ _ (nodeOf (es ++ [e])) _ e.sender hadded fun d hne => by
      rw [nodeOf_append, if_neg (Ne.symm hne)]
    rw [Set.insert_eq_of_mem hmem, nodeOf_append, if_pos rfl] at hset
    rw [edges, List.map_append, List.map_singleton, setOf_agents_append, buildGraph,
      List.foldl_append]
    show Describes _ _ (addEdge (addNode (addNode (buildGraph es) e.sender) e.target) e)
    rw [addEdge, hadded.get?_of_mem hmem]
    exact hset

theorem endorsementsOf_buildGraph (es : List (EndorsementV2 K)) :
    endorsementsOf (buildGraph es) = fun did => es.filter fun e => e.sender = did := by
  funext did
  have h := describes_buildGraph es
  rw [endorsementsOf]
  by_cases hdid : did ∈ agents (edges es)
  · rw [h.get?_of_mem hdid]
    rfl
  · rw [h.get?_of_not_mem hdid]
    exact (congrArg GraphNode.endorsements (nodeOf_of_not_mem hdid)).symm

/-- **The edges of the graph** are those of the list. -/
theorem successors_buildGraph (es : List (EndorsementV2 K)) :
    successors (buildGraph es) = endorsed (edges es) := by
  funext did
  have hedges : endorsed (edges es) did =
      (es.filter fun e => e.sender = did).map EndorsementV2.target := by
    rw [endorsed, edges, List.filter_map, List.map_map]
    rfl
  rw [successors, endorsementsOf_buildGraph, hedges, List.filter_eq_self.mpr]
  intro target htarget
  rw [← hedges] at htarget
  exact ((describes_buildGraph es).isSome target).mpr (mem_agents_of_endorsed htarget).2

/-- The nodes of the graph. -/
theorem mem_nodes : did ∈ (buildGraph es).values.map GraphNode.did ↔ did ∈ agents (edges es) := by
  have h := describes_buildGraph es
  rw [List.mem_map]
  constructor
  · rintro ⟨node, hnode, rfl⟩
    obtain ⟨d, hget⟩ := (Record.mem_values_iff _ _).mp hnode
    have hdid : node.did = d := congrArg GraphNode.did (h.node d node hget)
    rw [hdid]
    exact (h.isSome d).mp (by rw [hget]; rfl)
  · intro hmem
    exact ⟨_, (Record.mem_values_iff _ _).mpr ⟨did, h.get?_of_mem hmem⟩, rfl⟩

/-! ### The components that are found -/

/-- **The endorsements of different agents** are those of the list that one of them gave. -/
theorem countP_flatMap_filter (es : List (EndorsementV2 K)) (p : EndorsementV2 K → Bool)
    {nodes : List String} (h : nodes.Nodup) :
    (nodes.flatMap fun did => es.filter fun e => e.sender = did).countP p =
      es.countP fun e => decide (e.sender ∈ nodes) && p e := by
  induction nodes with
  | nil => simp
  | cons did nodes ih =>
    rw [List.nodup_cons] at h
    rw [List.flatMap_cons, List.countP_append, ih h.2, List.countP_filter]
    clear ih
    induction es with
    | nil => rfl
    | cons e es ihes =>
      simp only [List.countP_cons, List.mem_cons] at ihes ⊢
      by_cases heq : e.sender = did
      · simp only [heq, h.1, decide_true, decide_false, Bool.false_and, Bool.true_and,
          Bool.and_true, true_or, Bool.false_eq_true, if_false]
        omega
      · simp only [heq, decide_false, Bool.and_false, false_or, Bool.false_eq_true, if_false]
        omega

/-- **The order of the endorsements** does not matter to the components. -/
theorem setOf_components_perm {es' : List (EndorsementV2 K)} (h : es'.Perm es) :
    {C | IsComponent (endorsed (edges es')) C ∧ C.Nontrivial} =
      {C | IsComponent (endorsed (edges es)) C ∧ C.Nontrivial} := by
  ext C
  refine and_congr_left' (isComponent_congr (fun did target => ?_) C)
  rw [mem_endorsed, mem_endorsed]
  exact (h.map _).mem_iff

/-- **The components of a list of endorsements**, each once, with their edges counted. -/
structure ExactSCCs (es : List (EndorsementV2 K)) (sccs : List SCC) : Prop where
  sets : vertexSets (sccs.map SCC.nodes) =
    {C | IsComponent (endorsed (edges es)) C ∧ C.Nontrivial}
  nodup : ∀ scc ∈ sccs, scc.nodes.Nodup
  disjoint : sccs.Pairwise fun scc scc' => scc.nodes.Disjoint scc'.nodes
  internalEdges : ∀ scc ∈ sccs, scc.internalEdges =
    es.countP fun e => e.sender ∈ scc.nodes ∧ e.target ∈ scc.nodes
  externalEdges : ∀ scc ∈ sccs, scc.externalEdges =
    es.countP fun e => e.sender ∈ scc.nodes ∧ e.target ∉ scc.nodes

theorem findSCCs_exact (es : List (EndorsementV2 K)) : ExactSCCs es (findSCCs (buildGraph es)) := by
  have hroots : ∀ did, did ∈ (buildGraph es).values.map GraphNode.did ↔ did ∈ agents (edges es) :=
    fun did => mem_nodes
  have hcomponents := components_of_agents hroots
  have hsets := vertexSets_of_agents hroots
  rw [List.length_map] at hcomponents hsets
  have hmem : ∀ scc ∈ findSCCs (buildGraph es), scc.nodes.Nodup ∧
      scc = countEdges (buildGraph es) scc.nodes := by
    intro scc hscc
    rw [findSCCs, successors_buildGraph] at hscc
    obtain ⟨nodes, hnodes, rfl⟩ := List.mem_map.mp hscc
    exact ⟨hcomponents.nodup_mem (List.mem_filter.mp hnodes).1, rfl⟩
  have hcount : ∀ nodes : List String, nodes.Nodup → ∀ p : EndorsementV2 K → Bool,
      (nodes.flatMap (endorsementsOf (buildGraph es))).countP p =
        es.countP fun e => decide (e.sender ∈ nodes) && p e := by
    intro nodes hnodes p
    rw [← countP_flatMap_filter es p hnodes, endorsementsOf_buildGraph]
  refine ⟨?_, fun scc hscc => (hmem scc hscc).1, ?_, fun scc hscc => ?_, fun scc hscc => ?_⟩
  · rw [findSCCs, successors_buildGraph, List.map_map]
    exact (List.map_id _).symm ▸ hsets
  · rw [findSCCs, successors_buildGraph, List.pairwise_map]
    exact (hcomponents.disjoint.filter _)
  · obtain ⟨hnodup, heq⟩ := hmem scc hscc
    rw [congrArg SCC.internalEdges heq]
    refine (hcount _ hnodup _).trans ?_
    simp only [Bool.decide_and]
  · obtain ⟨hnodup, heq⟩ := hmem scc hscc
    rw [congrArg SCC.externalEdges heq]
    refine (hcount _ hnodup _).trans ?_
    simp only [Bool.decide_and]

end

end QuadraA.Trust
