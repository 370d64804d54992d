import Mathlib.Algebra.Field.Basic
import Mathlib.Data.Rat.Lemmas
import QuadraA.Trust.EndorsementGraph

/-!
# The penalty of a collusion cluster

`trust-computer.ts`: which components count as collusion, and the penalty of their agents.

* `SCC.isCollusion`, `detectCollusion`, `rebuildSccPenaltyCache`, `getCollusionPenalty` — the code;
* `Cluster.keptWhen` — when the agents of a cluster stay penalised after they have endorsed others.
-/

namespace QuadraA.Trust

open QuadraA.Lib

/-! ### The code -/

instance ten_atLeastTwo : Nat.AtLeastTwo 10 := ⟨by decide⟩

/-- `scc.nodes.length > 3` and `scc.externalEdges / (scc.internalEdges || 1) < 0.2`. -/
def SCC.isCollusion (scc : SCC) : Bool :=
  let internal : ℕ := if scc.internalEdges = 0 then 1 else scc.internalEdges
  decide (3 < scc.nodes.length) && decide ((scc.externalEdges : ℚ) / internal < 1 / 5)

section

variable {K : Type}

def detectCollusion (target : String) (endorsements : List (EndorsementV2 K)) : Bool :=
  (findSCCs (buildGraph endorsements)).any fun scc =>
    decide (target ∈ scc.nodes) && scc.isCollusion

variable [Field K]

/-- All agents of a collusion cluster get a penalty. -/
def penalise (cache : Record String K) (scc : SCC) : Record String K :=
  if scc.isCollusion then scc.nodes.foldl (fun cache did => cache.set did (1 / 10)) cache
  else cache

def rebuildSccPenaltyCache (endorsements : List (EndorsementV2 K)) : Record String K :=
  (findSCCs (buildGraph endorsements)).foldl penalise .empty

def getCollusionPenalty (cache : Record String K) (endorser : String) : K :=
  (cache.get? endorser).getD 1

end

/-! ### Penalised agents -/

/-- How many edges run within some nodes. -/
def edgesWithin (edges : List (String × String)) (nodes : List String) : ℕ :=
  edges.countP fun edge => edge.1 ∈ nodes ∧ edge.2 ∈ nodes

/-- How many edges lead out of some nodes. -/
def edgesOut (edges : List (String × String)) (nodes : List String) : ℕ :=
  edges.countP fun edge => edge.1 ∈ nodes ∧ edge.2 ∉ nodes

/-- **Some nodes are suspicious**: there are enough of them, and few edges lead out for those
within. -/
def Suspicious (minSize : ℕ) (threshold : ℚ) (edges : List (String × String))
    (nodes : List String) : Prop :=
  minSize ≤ nodes.length ∧
    (edgesOut edges nodes : ℚ) / (max (edgesWithin edges nodes) 1 : ℕ) < threshold

instance (minSize : ℕ) (threshold : ℚ) (edges : List (String × String)) (nodes : List String) :
    Decidable (Suspicious minSize threshold edges nodes) :=
  inferInstanceAs (Decidable (_ ∧ _))

/-- The nodes of a component of more than one agent. -/
structure Cluster (edges : List (String × String)) (nodes : List String) : Prop where
  isComponent : IsComponent (endorsed edges) {did | did ∈ nodes}
  nodup : nodes.Nodup
  one_lt : 1 < nodes.length

/-- **An agent is penalised** as one of a suspicious component. -/
def Penalised (minSize : ℕ) (threshold : ℚ) (edges : List (String × String)) (did : String) :
    Prop :=
  ∃ nodes, did ∈ nodes ∧ Cluster edges nodes ∧ Suspicious minSize threshold edges nodes

section

variable {minSize : ℕ} {threshold : ℚ} {edges edges' added : List (String × String)}
  {nodes nodes' : List String} {did : String}

theorem edgesWithin_perm (h : edges'.Perm edges) (hnodes : nodes'.Perm nodes) :
    edgesWithin edges' nodes' = edgesWithin edges nodes := by
  rw [edgesWithin, edgesWithin, h.countP_eq]
  simp only [hnodes.mem_iff]

theorem edgesOut_perm (h : edges'.Perm edges) (hnodes : nodes'.Perm nodes) :
    edgesOut edges' nodes' = edgesOut edges nodes := by
  rw [edgesOut, edgesOut, h.countP_eq]
  simp only [hnodes.mem_iff]

theorem suspicious_perm (h : edges'.Perm edges) (hnodes : nodes'.Perm nodes) :
    Suspicious minSize threshold edges' nodes' ↔ Suspicious minSize threshold edges nodes := by
  rw [Suspicious, Suspicious, edgesWithin_perm h hnodes, edgesOut_perm h hnodes, hnodes.length_eq]

/-- Clusters that share an agent have the same agents. -/
theorem Cluster.perm (h : Cluster edges nodes) (h' : Cluster edges nodes') (hdid : did ∈ nodes)
    (hdid' : did ∈ nodes') : nodes'.Perm nodes := by
  have hsets := h'.isComponent.unique h.isComponent hdid' hdid
  exact (List.perm_ext_iff_of_nodup h'.nodup h.nodup).mpr (Set.ext_iff.mp hsets)

/-- **The agents of a cluster** are penalised when it is suspicious. -/
theorem Cluster.penalised_iff (h : Cluster edges nodes) (hdid : did ∈ nodes) :
    Penalised minSize threshold edges did ↔ Suspicious minSize threshold edges nodes := by
  constructor
  · rintro ⟨nodes', hdid', h', hsuspicious⟩
    exact (suspicious_perm (List.Perm.refl edges) (h.perm h' hdid hdid')).mp hsuspicious
  · exact fun hsuspicious => ⟨nodes, hdid, h, hsuspicious⟩

theorem Cluster.of_perm (h : Cluster edges nodes) (hperm : edges.Perm edges') :
    Cluster edges' nodes := by
  refine ⟨(isComponent_congr (fun did target => ?_) _).mp h.isComponent, h.nodup, h.one_lt⟩
  rw [mem_endorsed, mem_endorsed, hperm.mem_iff]

/-- **The order of the edges** does not matter. -/
theorem penalised_perm (h : edges.Perm edges') :
    Penalised minSize threshold edges did ↔ Penalised minSize threshold edges' did := by
  refine exists_congr fun nodes => and_congr_right' (and_congr ⟨?_, ?_⟩ ?_)
  · exact fun hcluster => hcluster.of_perm h
  · exact fun hcluster => hcluster.of_perm h.symm
  · exact (suspicious_perm h.symm (List.Perm.refl nodes)).symm

/-- Edges out of some nodes, to what does not reach them. -/
def LeadsOut (edges : List (String × String)) (nodes : List String) (edge : String × String) :
    Prop :=
  edge.1 ∈ nodes ∧ edge.2 ∉ nodes ∧ ∀ did ∈ nodes, ¬Reaches (endorsed edges) edge.2 did

/-- **A cluster stays one** when its agents endorse others. -/
theorem Cluster.extended (h : Cluster edges nodes) (hadded : ∀ e ∈ added, LeadsOut edges nodes e) :
    Cluster (edges ++ added) nodes := by
  refine ⟨h.isComponent.extended (fun v w hw => ?_) fun v w hw => ?_, h.nodup, h.one_lt⟩
  · rw [mem_endorsed] at hw ⊢
    exact List.mem_append_left _ hw
  · rw [mem_endorsed, List.mem_append] at hw
    rcases hw with hold | hnew
    · exact Or.inl (mem_endorsed.mpr hold)
    · exact Or.inr (hadded _ hnew).2.2

/-- **What its edges come to** when its agents endorse others. -/
theorem edges_extended (hadded : ∀ e ∈ added, LeadsOut edges nodes e) :
    edgesWithin (edges ++ added) nodes = edgesWithin edges nodes ∧
      edgesOut (edges ++ added) nodes = edgesOut edges nodes + added.length := by
  constructor
  · rw [edgesWithin, List.countP_append, edgesWithin, Nat.add_eq_left, List.countP_eq_zero]
    intro edge hedge hmem
    exact (hadded edge hedge).2.1 (of_decide_eq_true hmem).2
  · rw [edgesOut, List.countP_append, edgesOut, Nat.add_left_cancel_iff, List.countP_eq_length]
    intro edge hedge
    exact decide_eq_true ⟨(hadded edge hedge).1, (hadded edge hedge).2.1⟩

/-- **When a cluster stays penalised** after its agents have endorsed others: the cluster that they
are in then is suspicious, and where nothing leads back, this is so when the new endorsements and
those that led out before are few for those within. -/
structure KeptWhen (minSize : ℕ) (threshold : ℚ) (edges added : List (String × String))
    (nodes : List String) (penalised : String → Prop) : Prop where
  cluster : ∀ nodes', Cluster (edges ++ added) nodes' → nodes ⊆ nodes' →
    ((∀ did ∈ nodes, penalised did) ↔ Suspicious minSize threshold (edges ++ added) nodes')
  counted : (∀ edge ∈ added, LeadsOut edges nodes edge) →
    ((∀ did ∈ nodes, penalised did) ↔
      ((edgesOut edges nodes + added.length : ℕ) : ℚ) / (max (edgesWithin edges nodes) 1 : ℕ) <
        threshold)

theorem Cluster.all_penalised_iff (h : Cluster edges nodes) (hsub : nodes' ⊆ nodes)
    (hne : nodes' ≠ []) :
    (∀ did ∈ nodes', Penalised minSize threshold edges did) ↔
      Suspicious minSize threshold edges nodes := by
  constructor
  · intro hall
    obtain ⟨did, hdid⟩ := List.exists_mem_of_ne_nil _ hne
    exact (h.penalised_iff (hsub hdid)).mp (hall did hdid)
  · exact fun hsuspicious did hdid => (h.penalised_iff (hsub hdid)).mpr hsuspicious

theorem Cluster.ne_nil (h : Cluster edges nodes) : nodes ≠ [] := by
  rintro rfl
  exact absurd h.one_lt (Nat.not_lt_zero 1)

/-- **A cluster of the size that is looked for** stays penalised exactly so. -/
theorem Cluster.keptWhen (h : Cluster edges nodes) (hsize : minSize ≤ nodes.length) :
    KeptWhen minSize threshold edges added nodes
      (Penalised minSize threshold (edges ++ added)) := by
  refine ⟨fun nodes' h' hsub => h'.all_penalised_iff hsub h.ne_nil, fun hadded => ?_⟩
  rw [(h.extended hadded).all_penalised_iff (List.Subset.refl _) h.ne_nil, Suspicious,
    (edges_extended hadded).1, (edges_extended hadded).2, and_iff_right hsize]

theorem cluster_of_mem {components : List (List String)}
    (hsets : vertexSets components = {C | IsComponent (endorsed edges) C ∧ C.Nontrivial})
    (hnodup : ∀ component ∈ components, component.Nodup) (hmem : nodes ∈ components) :
    Cluster edges nodes := by
  have hset : {did | did ∈ nodes} ∈ vertexSets components := ⟨nodes, hmem, rfl⟩
  rw [hsets] at hset
  exact ⟨hset.1, hnodup nodes hmem, (nontrivial_iff_one_lt (hnodup nodes hmem)).mp hset.2⟩

/-- **What a search finds** that finds all clusters. -/
theorem penalised_iff_exists {components : List (List String)}
    (hsets : vertexSets components = {C | IsComponent (endorsed edges) C ∧ C.Nontrivial})
    (hnodup : ∀ component ∈ components, component.Nodup) :
    Penalised minSize threshold edges did ↔
      ∃ component ∈ components, did ∈ component ∧ Suspicious minSize threshold edges component := by
  constructor
  · rintro ⟨nodes, hdid, hnodes, hsuspicious⟩
    have hset : {did | did ∈ nodes} ∈ vertexSets components := by
      rw [hsets]
      exact ⟨hnodes.isComponent, (nontrivial_iff_one_lt hnodes.nodup).mpr hnodes.one_lt⟩
    obtain ⟨component, hmem, heq⟩ := hset
    have hdid' : did ∈ component := (Set.ext_iff.mp heq did).mp hdid
    exact ⟨component, hmem, hdid', (suspicious_perm (List.Perm.refl edges)
      (hnodes.perm (cluster_of_mem hsets hnodup hmem) hdid hdid')).mpr hsuspicious⟩
  · rintro ⟨component, hmem, hdid, hsuspicious⟩
    exact ⟨component, hdid, cluster_of_mem hsets hnodup hmem, hsuspicious⟩

end

/-! ### The penalties of the computer -/

section

variable {K : Type} {es es' : List (EndorsementV2 K)} {scc : SCC} {did : String}

theorem nodup_findSCCs (es : List (EndorsementV2 K)) :
    ∀ nodes ∈ (findSCCs (buildGraph es)).map SCC.nodes, nodes.Nodup := by
  intro _ hmem
  obtain ⟨scc, hscc, rfl⟩ := List.mem_map.mp hmem
  exact (findSCCs_exact es).nodup scc hscc

theorem cluster_of_scc (h : scc ∈ findSCCs (buildGraph es)) : Cluster (edges es) scc.nodes :=
  cluster_of_mem (findSCCs_exact es).sets (nodup_findSCCs es) (List.mem_map_of_mem h)

theorem counts_of_scc (h : scc ∈ findSCCs (buildGraph es)) :
    scc.internalEdges = edgesWithin (edges es) scc.nodes ∧
      scc.externalEdges = edgesOut (edges es) scc.nodes := by
  have hexact := findSCCs_exact es
  rw [hexact.internalEdges scc h, hexact.externalEdges scc h, edgesWithin, edgesOut, edges,
    List.countP_map, List.countP_map]
  exact ⟨rfl, rfl⟩

/-- **A component counts as collusion** when it is suspicious. -/
theorem isCollusion_iff (h : scc ∈ findSCCs (buildGraph es)) :
    scc.isCollusion = true ↔ Suspicious 4 (1 / 5) (edges es) scc.nodes := by
  obtain ⟨hwithin, hout⟩ := counts_of_scc h
  have hmax : (if scc.internalEdges = 0 then 1 else scc.internalEdges) =
      max (edgesWithin (edges es) scc.nodes) 1 := by
    rw [← hwithin]
    split_ifs with hzero
    · rw [hzero]
      rfl
    · omega
  rw [SCC.isCollusion, Bool.and_eq_true, decide_eq_true_iff, decide_eq_true_iff, hmax, hout]
  rfl

/-- **The computer detects** the agents that are penalised. -/
theorem detectCollusion_iff :
    detectCollusion did es = true ↔ Penalised 4 (1 / 5) (edges es) did := by
  rw [detectCollusion, List.any_eq_true,
    penalised_iff_exists (findSCCs_exact es).sets (nodup_findSCCs es)]
  constructor
  · rintro ⟨scc, hscc, hand⟩
    rw [Bool.and_eq_true, decide_eq_true_iff, isCollusion_iff hscc] at hand
    exact ⟨scc.nodes, List.mem_map_of_mem hscc, hand⟩
  · rintro ⟨_, hmem, hand⟩
    obtain ⟨scc, hscc, rfl⟩ := List.mem_map.mp hmem
    refine ⟨scc, hscc, ?_⟩
    rw [Bool.and_eq_true, decide_eq_true_iff, isCollusion_iff hscc]
    exact hand

theorem detectCollusion_perm (h : es.Perm es') :
    detectCollusion did es = detectCollusion did es' := by
  rw [Bool.eq_iff_iff, detectCollusion_iff, detectCollusion_iff]
  exact penalised_perm (h.map _)

variable [Field K]

theorem get?_foldl_penalise (sccs : List SCC) (cache : Record String K) (did : String) :
    (sccs.foldl penalise cache).get? did =
      if sccs.any fun scc => decide (did ∈ scc.nodes) && scc.isCollusion then some (1 / 10)
      else cache.get? did := by
  have hnodes (nodes : List String) (cache : Record String K) :
      (nodes.foldl (fun cache did => cache.set did (1 / 10)) cache).get? did =
        if did ∈ nodes then some (1 / 10) else cache.get? did := by
    induction nodes generalizing cache with
    | nil => rfl
    | cons d nodes ih =>
      rw [List.foldl_cons, ih, Record.get?_set]
      by_cases hmem : did ∈ nodes
      · simp [hmem]
      · simp [hmem, eq_comm]
  induction sccs generalizing cache with
  | nil => rfl
  | cons scc sccs ih =>
    rw [List.foldl_cons, ih, penalise, List.any_cons]
    cases hcollusion : scc.isCollusion with
    | false => simp
    | true =>
      rw [if_pos rfl, hnodes]
      by_cases hmem : did ∈ scc.nodes
      · simp [hmem]
      · simp [hmem]

/-- **The penalty of an agent**, after the penalties were computed. -/
theorem getCollusionPenalty_rebuild (es : List (EndorsementV2 K)) (did : String) :
    getCollusionPenalty (rebuildSccPenaltyCache es) did =
      if detectCollusion did es then 1 / 10 else 1 := by
  rw [getCollusionPenalty, rebuildSccPenaltyCache, get?_foldl_penalise, detectCollusion]
  split_ifs
  · rfl
  · rfl

end

end QuadraA.Trust
