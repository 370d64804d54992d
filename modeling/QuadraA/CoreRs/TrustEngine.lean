import QuadraA.Lib.JsNumber
import QuadraA.Trust.EndorsementGraph

/-!
# Collusion clusters of the trust engine

`trust.rs`: the graph that the engine builds of endorsements, and the clusters it finds.

* `EndorsementV2`, `buildGraph`, `detectCollusion` — the engine's own; a hash map gives its keys in
  any order, so the keys are a parameter;
* `scc_detection_exact` — the trust computer finds the components of more than one agent, each once
  and whatever the order of the endorsements, and the engine finds the same ones.
-/

namespace QuadraA.CoreRs

open QuadraA.Lib QuadraA.Trust

structure EndorsementV2 where
  endorser : String
  endorsee : String
  domain : Option String
  endorsementType : String
  strength : JsNumber
  comment : Option String
  timestamp : ℕ
  expires : Option ℕ
  version : String
  signature : String

/-! ### The search -/

/-- The entries of both ends of an endorsement. -/
def addEndorsement (graph : Record String (List String)) (e : EndorsementV2) :
    Record String (List String) :=
  let graph := graph.set e.endorser ((graph.get? e.endorser).getD [] ++ [e.endorsee])
  if (graph.get? e.endorsee).isSome then graph else graph.set e.endorsee []

def buildGraph (endorsements : List EndorsementV2) : Record String (List String) :=
  endorsements.foldl addEndorsement .empty

def detectCollusion (keys : List String) (endorsements : List EndorsementV2) :
    List (List String) :=
  let graph := buildGraph endorsements
  let search := tarjan (fun node => (graph.get? node).getD []) keys.length keys
  search.components.filter fun component => 1 < component.length

/-- The edges of endorsements. -/
def edges (endorsements : List EndorsementV2) : List (String × String) :=
  endorsements.map fun e => (e.endorser, e.endorsee)

/-! ### The graph of a list -/

theorem endorsed_append (es : List (String × String)) (edge : String × String) (did : String) :
    endorsed (es ++ [edge]) did =
      if edge.1 = did then endorsed es did ++ [edge.2] else endorsed es did := by
  rw [endorsed, List.filter_append, List.map_append, List.filter_singleton]
  split_ifs with heq
  · rw [decide_eq_true heq]
    rfl
  · rw [decide_eq_false heq, Bool.cond_false, List.map_nil, List.append_nil]
    rfl

theorem endorsed_of_not_mem {es : List (String × String)} {did : String} (h : did ∉ agents es) :
    endorsed es did = [] :=
  List.eq_nil_iff_forall_not_mem.mpr fun _ htarget => h (mem_agents_of_endorsed htarget).1

/-- **The graph of a list** knows the agents of it. -/
theorem describes_buildGraph (es : List EndorsementV2) :
    Describes {did | did ∈ agents (edges es)} (endorsed (edges es)) (buildGraph es) := by
  induction es using List.reverseRecOn with
  | nil =>
    refine ⟨fun did => ?_, nofun⟩
    rw [buildGraph, List.foldl_nil, Record.get?_empty]
    exact ⟨nofun, nofun⟩
  | append_singleton es e ih =>
    have hedges : edges (es ++ [e]) = edges es ++ [(e.endorser, e.endorsee)] := List.map_append
    have hold : ((buildGraph es).get? e.endorser).getD [] = endorsed (edges es) e.endorser := by
      by_cases hmem : e.endorser ∈ agents (edges es)
      · rw [ih.get?_of_mem hmem, Option.getD_some]
      · rw [ih.get?_of_not_mem hmem, endorsed_of_not_mem hmem, Option.getD_none]
    have hset := @Describes.set _ _ _ (endorsed (edges (es ++ [e]))) _ e.endorser ih fun d hne => by
      rw [hedges, endorsed_append, if_neg (Ne.symm hne)]
    have hentry : endorsed (edges (es ++ [e])) e.endorser =
        endorsed (edges es) e.endorser ++ [e.endorsee] := by
      rw [hedges, endorsed_append, if_pos rfl]
    rw [hentry] at hset
    rw [buildGraph, List.foldl_append]
    show Describes _ _ (addEndorsement (buildGraph es) e)
    rw [addEndorsement, hold, hedges, setOf_agents_append, ← hedges]
    refine hset.ensure fun hnew => ?_
    -- an agent that is new with this endorsement has given none
    rw [hedges, endorsed_append, if_neg fun heq => hnew (Or.inl heq.symm)]
    exact endorsed_of_not_mem fun hmem => hnew (Or.inr hmem)

/-! ### The clusters -/

section

variable {es : List EndorsementV2} {keys : List String}

/-- What goes out of the nodes of the graph. -/
theorem neighbors_buildGraph (es : List EndorsementV2) :
    (fun node => ((buildGraph es).get? node).getD []) = endorsed (edges es) := by
  funext did
  have h := describes_buildGraph es
  by_cases hdid : did ∈ agents (edges es)
  · rw [h.get?_of_mem hdid, Option.getD_some]
  · rw [h.get?_of_not_mem hdid, endorsed_of_not_mem hdid, Option.getD_none]

theorem mem_keys (hkeys : keys.Perm (buildGraph es).keys) (did : String) :
    did ∈ keys ↔ did ∈ agents (edges es) :=
  hkeys.mem_iff.trans (describes_buildGraph es).mem_keys

/-- **The clusters of the engine** are the components of more than one agent. -/
theorem vertexSets_detectCollusion (hkeys : keys.Perm (buildGraph es).keys) :
    vertexSets (detectCollusion keys es) =
      {C | IsComponent (endorsed (edges es)) C ∧ C.Nontrivial} := by
  rw [detectCollusion, neighbors_buildGraph]
  exact vertexSets_of_agents (mem_keys hkeys)

theorem nodup_detectCollusion (hkeys : keys.Perm (buildGraph es).keys) :
    ∀ component ∈ detectCollusion keys es, component.Nodup := by
  intro component hmem
  rw [detectCollusion, neighbors_buildGraph] at hmem
  exact (components_of_agents (mem_keys hkeys)).nodup_mem (List.mem_filter.mp hmem).1

theorem disjoint_detectCollusion (hkeys : keys.Perm (buildGraph es).keys) :
    (detectCollusion keys es).Pairwise List.Disjoint := by
  rw [detectCollusion, neighbors_buildGraph]
  exact (components_of_agents (mem_keys hkeys)).disjoint.filter _

end

/-! ### Both searches -/

/-- **The components are found exactly**, by the trust computer in any order of the endorsements, and
by the engine in any order of the keys. -/
theorem scc_detection_exact {K : Type} (list : List (Trust.EndorsementV2 K)) :
    let sccs := findSCCs (Trust.buildGraph list)
    ExactSCCs list sccs ∧
      (∀ list' : List (Trust.EndorsementV2 K), list'.Perm list →
        vertexSets ((findSCCs (Trust.buildGraph list')).map SCC.nodes) =
          vertexSets (sccs.map SCC.nodes)) ∧
      ∀ (es : List EndorsementV2) (keys : List String), edges es = Trust.edges list →
        keys.Perm (buildGraph es).keys →
        vertexSets (detectCollusion keys es) = vertexSets (sccs.map SCC.nodes) ∧
          (detectCollusion keys es).Pairwise List.Disjoint := by
  have hexact := findSCCs_exact list
  refine ⟨hexact, fun list' hperm => ?_, fun es keys hedges hkeys => ⟨?_, ?_⟩⟩
  · rw [(findSCCs_exact list').sets, hexact.sets]
    exact setOf_components_perm hperm
  · rw [vertexSets_detectCollusion hkeys, hexact.sets, hedges]
  · exact disjoint_detectCollusion hkeys

/-- Two agents that endorse each other, and a third whom one of them endorses. -/
def sampleEdges : List (String × String) := [("a", "b"), ("b", "a"), ("b", "c")]

def sampleEndorsement (edge : String × String) : EndorsementV2 where
  endorser := edge.1
  endorsee := edge.2
  domain := none
  endorsementType := "general"
  strength := .finite 1
  comment := none
  timestamp := 0
  expires := none
  version := "2.0"
  signature := "sig"

theorem scc_detection_exact_sample :
    let list := sampleEdges.map fun edge =>
      ({ sender := edge.1, target := edge.2, score := 1, domain := .undefined, timestamp := 0,
         expires := none } : Trust.EndorsementV2 ℕ)
    vertexSets (detectCollusion ["c", "a", "b"] (sampleEdges.map sampleEndorsement)) =
        vertexSets ((findSCCs (Trust.buildGraph list)).map SCC.nodes) ∧
      findSCCs (Trust.buildGraph list) =
        [{ nodes := ["b", "a"], internalEdges := 2, externalEdges := 1 }] :=
  ⟨((scc_detection_exact _).2.2 _ _ rfl (by decide)).1, by decide⟩

end QuadraA.CoreRs
