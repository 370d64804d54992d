import QuadraA.CoreRs.TrustEngine
import QuadraA.Trust.CollusionPenalty

/-!
# The penalty of a collusion cluster in the trust engine

`rebuild_collusion_penalty_cache` of `trust.rs`, with the penalties as `config.rs` keeps them.

* `penalty_kept_iff` — in both engines a cluster stays penalised when few endorsements lead out of
  it, among them those that its own agents have added;
* `penalty_bought_off` — one endorsement of an outsider ends the penalty of four agents.

Both count the endorsements that the agents of a cluster have given to others, where the comment on
`externalEdges` says those from outside.
-/

namespace QuadraA.CoreRs

open QuadraA.Lib QuadraA.Trust

/-! ### The code -/

structure CachedCollusionPenalty where
  penalty : ℚ
  computedAt : ℕ
  ttl : ℕ

structure CollusionConfig where
  collusionPenalties : Record String CachedCollusionPenalty
  collusionExternalRatioThreshold : ℚ
  collusionMinClusterSize : ℕ
  sccCacheTtlSeconds : ℕ

namespace CollusionConfig

def default : CollusionConfig where
  collusionPenalties := .empty
  collusionExternalRatioThreshold := 1 / 5
  collusionMinClusterSize := 4
  sccCacheTtlSeconds := 300

def cacheCollusionPenalty (config : CollusionConfig) (now : ℕ) (did : String) (penalty : ℚ) :
    CollusionConfig :=
  { config with
    collusionPenalties := config.collusionPenalties.set did
      { penalty := penalty, computedAt := now, ttl := config.sccCacheTtlSeconds } }

def getCachedCollusionPenalty (config : CollusionConfig) (now : ℕ) (did : String) : Option ℚ :=
  (config.collusionPenalties.get? did).bind fun cached =>
    if now - cached.computedAt < cached.ttl then some cached.penalty else none

/-- `cache_collusion_penalty` for all of some agents. -/
def cacheAll (config : CollusionConfig) (now : ℕ) (penalty : ℚ) (dids : List String) :
    CollusionConfig :=
  dids.foldl (fun config did => config.cacheCollusionPenalty now did penalty) config

/-- What is done for a component. -/
def penaliseComponent (now : ℕ) (endorsements : List EndorsementV2) (config : CollusionConfig)
    (component : List String) : CollusionConfig :=
  if component.length < config.collusionMinClusterSize then config
  else
    let internalEdges :=
      endorsements.countP fun e => e.endorser ∈ component ∧ e.endorsee ∈ component
    let externalEdges :=
      endorsements.countP fun e => e.endorser ∈ component ∧ e.endorsee ∉ component
    let ratio : ℚ := externalEdges / (max internalEdges 1 : ℕ)
    if ratio < config.collusionExternalRatioThreshold then config.cacheAll now (1 / 10) component
    else config

end CollusionConfig

def rebuildCollusionPenaltyCache (config : CollusionConfig) (now : ℕ) (keys : List String)
    (endorsements : List EndorsementV2) : CollusionConfig :=
  let config := { config with collusionPenalties := .empty }
  let config := config.cacheAll now 1 (agents (edges endorsements))
  (detectCollusion keys endorsements).foldl
    (CollusionConfig.penaliseComponent now endorsements) config

def getCollusionPenalty (config : CollusionConfig) (now : ℕ) (endorser : String) : ℚ :=
  (config.getCachedCollusionPenalty now endorser).getD 1

/-! ### The penalties of the engine -/

section

variable {config : CollusionConfig} {now later : ℕ} {keys component : List String}
  {es : List EndorsementV2} {did : String}

theorem cacheAll_eq (config : CollusionConfig) (now : ℕ) (penalty : ℚ) (dids : List String) :
    config.cacheAll now penalty dids =
      { config with
        collusionPenalties := dids.foldl
          (fun cache did => cache.set did ⟨penalty, now, config.sccCacheTtlSeconds⟩)
          config.collusionPenalties } := by
  induction dids generalizing config with
  | nil => rfl
  | cons did dids ih => exact ih _

@[simp] theorem minClusterSize_cacheAll (config : CollusionConfig) (now : ℕ) (penalty : ℚ)
    (dids : List String) :
    (config.cacheAll now penalty dids).collusionMinClusterSize =
      config.collusionMinClusterSize := by
  rw [cacheAll_eq]

@[simp] theorem externalRatioThreshold_cacheAll (config : CollusionConfig) (now : ℕ) (penalty : ℚ)
    (dids : List String) :
    (config.cacheAll now penalty dids).collusionExternalRatioThreshold =
      config.collusionExternalRatioThreshold := by
  rw [cacheAll_eq]

@[simp] theorem sccCacheTtlSeconds_cacheAll (config : CollusionConfig) (now : ℕ) (penalty : ℚ)
    (dids : List String) :
    (config.cacheAll now penalty dids).sccCacheTtlSeconds = config.sccCacheTtlSeconds := by
  rw [cacheAll_eq]

theorem get?_cacheAll (config : CollusionConfig) (now : ℕ) (penalty : ℚ) (dids : List String)
    (did : String) :
    (config.cacheAll now penalty dids).collusionPenalties.get? did =
      if did ∈ dids then some ⟨penalty, now, config.sccCacheTtlSeconds⟩
      else config.collusionPenalties.get? did := by
  rw [cacheAll_eq]
  show Record.get? (dids.foldl _ _) did = _
  generalize config.collusionPenalties = cache
  induction dids generalizing cache with
  | nil => rfl
  | cons d dids ih =>
    rw [List.foldl_cons, ih, Record.get?_set]
    by_cases hmem : did ∈ dids
    · simp [hmem]
    · simp [hmem, eq_comm]

/-- **A component** is penalised when it is suspicious. -/
theorem penaliseComponent_eq (config : CollusionConfig) (now : ℕ) (es : List EndorsementV2)
    (component : List String) :
    config.penaliseComponent now es component =
      if Suspicious config.collusionMinClusterSize config.collusionExternalRatioThreshold (edges es)
          component then config.cacheAll now (1 / 10) component
      else config := by
  have hwithin : (es.countP fun e => e.endorser ∈ component ∧ e.endorsee ∈ component) =
      edgesWithin (edges es) component := by
    rw [edgesWithin, edges, List.countP_map]
    rfl
  have hout : (es.countP fun e => e.endorser ∈ component ∧ e.endorsee ∉ component) =
      edgesOut (edges es) component := by
    rw [edgesOut, edges, List.countP_map]
    rfl
  rw [CollusionConfig.penaliseComponent, hwithin, hout]
  dsimp only
  by_cases hsize : component.length < config.collusionMinClusterSize
  · rw [if_pos hsize, if_neg fun hsuspicious => Nat.not_le.mpr hsize hsuspicious.1]
  · rw [if_neg hsize]
    exact if_congr (and_iff_right (Nat.not_lt.mp hsize)).symm rfl rfl

/-- **The agents of suspicious components** are those that get the penalty. -/
theorem get?_foldl_penaliseComponent (components : List (List String)) (config : CollusionConfig)
    (now : ℕ) (es : List EndorsementV2) (did : String) :
    let suspicious := components.any fun component => decide (did ∈ component ∧
      Suspicious config.collusionMinClusterSize config.collusionExternalRatioThreshold (edges es)
        component)
    (components.foldl (CollusionConfig.penaliseComponent now es) config).collusionPenalties.get? did
      = if suspicious then some ⟨1 / 10, now, config.sccCacheTtlSeconds⟩
        else config.collusionPenalties.get? did := by
  induction components generalizing config with
  | nil => rfl
  | cons component components ih =>
    dsimp only at ih ⊢
    rw [List.foldl_cons, ih, penaliseComponent_eq, List.any_cons]
    by_cases hsuspicious : Suspicious config.collusionMinClusterSize
        config.collusionExternalRatioThreshold (edges es) component
    · rw [if_pos hsuspicious, get?_cacheAll]
      by_cases hmem : did ∈ component
      · simp [hmem, hsuspicious]
      · simp [hmem]
    · rw [if_neg hsuspicious]
      simp [hsuspicious]

/-- **The penalty of an agent**, until the cache is stale. -/
theorem getCollusionPenalty_rebuild (hkeys : keys.Perm (buildGraph es).keys)
    (hfresh : later - now < config.sccCacheTtlSeconds) :
    getCollusionPenalty (rebuildCollusionPenaltyCache config now keys es) later did = 1 / 10 ↔
      Penalised config.collusionMinClusterSize config.collusionExternalRatioThreshold (edges es)
        did := by
  have hpenalised : Penalised config.collusionMinClusterSize config.collusionExternalRatioThreshold
      (edges es) did ↔
      ((detectCollusion keys es).any fun component => decide (did ∈ component ∧
        Suspicious config.collusionMinClusterSize config.collusionExternalRatioThreshold (edges es)
          component)) = true := by
    rw [penalised_iff_exists (vertexSets_detectCollusion hkeys) (nodup_detectCollusion hkeys),
      List.any_eq_true]
    simp only [decide_eq_true_iff]
  rw [hpenalised, getCollusionPenalty, CollusionConfig.getCachedCollusionPenalty,
    rebuildCollusionPenaltyCache, get?_foldl_penaliseComponent]
  simp only [minClusterSize_cacheAll, externalRatioThreshold_cacheAll, sccCacheTtlSeconds_cacheAll]
  generalize List.any _ _ = suspicious
  cases suspicious with
  | true => simp [hfresh]
  | false =>
    rw [get?_cacheAll]
    by_cases hmem : did ∈ agents (edges es)
    · simp [hmem, hfresh]
    · simp [hmem]

end

/-! ### Endorsements that a cluster gives -/

theorem keptWhen_congr {minSize : ℕ} {threshold : ℚ} {edges edges' added : List (String × String)}
    {nodes : List String} {penalised : String → Prop} (hcluster : Cluster edges nodes)
    (hsize : minSize ≤ nodes.length) (hperm : edges'.Perm (edges ++ added))
    (hpenalised : ∀ did, penalised did ↔ Penalised minSize threshold edges' did) :
    KeptWhen minSize threshold edges added nodes penalised := by
  have heq : penalised = Penalised minSize threshold (edges ++ added) :=
    funext fun did => propext ((hpenalised did).trans (penalised_perm hperm))
  rw [heq]
  exact hcluster.keptWhen hsize

/-- **A cluster that both engines penalise** stays penalised when few endorsements lead out of it,
with those that its agents have added. -/
theorem penalty_kept_iff {K : Type} [Field K] [CharZero K] :
    (∀ (list added list' : List (Trust.EndorsementV2 K)) (scc : SCC),
      scc ∈ findSCCs (Trust.buildGraph list) → scc.isCollusion = true →
      list'.Perm (list ++ added) →
      KeptWhen 4 (1 / 5) (Trust.edges list) (Trust.edges added) scc.nodes fun did =>
        Trust.getCollusionPenalty (rebuildSccPenaltyCache list') did = 1 / 10) ∧
    ∀ (config : CollusionConfig) (now later : ℕ) (es added es' : List EndorsementV2)
      (keys keys' component : List String),
      keys.Perm (buildGraph es).keys → keys'.Perm (buildGraph es').keys →
      later - now < config.sccCacheTtlSeconds → component ∈ detectCollusion keys es →
      (∀ did ∈ component,
        getCollusionPenalty (rebuildCollusionPenaltyCache config now keys es) later did = 1 / 10) →
      es'.Perm (es ++ added) →
      KeptWhen config.collusionMinClusterSize config.collusionExternalRatioThreshold (edges es)
        (edges added) component fun did =>
          getCollusionPenalty (rebuildCollusionPenaltyCache config now keys' es') later did
            = 1 / 10 := by
  constructor
  · intro list added list' scc hscc hcollusion hperm
    have hedges : (Trust.edges list').Perm (Trust.edges list ++ Trust.edges added) := by
      rw [Trust.edges, Trust.edges, Trust.edges, ← List.map_append]
      exact hperm.map _
    refine keptWhen_congr (cluster_of_scc hscc) ((isCollusion_iff hscc).mp hcollusion).1 hedges
      fun did => ?_
    rw [Trust.getCollusionPenalty_rebuild, ← detectCollusion_iff]
    split_ifs with hdetected
    · exact iff_of_true rfl hdetected
    · refine iff_of_false (fun heq => ?_) hdetected
      norm_num at heq
  · intro config now later es added es' keys keys' component hkeys hkeys' hfresh hmem hall hperm
    have hedges : (edges es').Perm (edges es ++ edges added) := by
      rw [edges, edges, edges, ← List.map_append]
      exact hperm.map _
    have hcluster := cluster_of_mem (vertexSets_detectCollusion hkeys)
      (nodup_detectCollusion hkeys) hmem
    have hsuspicious := (hcluster.all_penalised_iff (List.Subset.refl _) hcluster.ne_nil).mp
      fun did hdid => (getCollusionPenalty_rebuild hkeys hfresh).mp (hall did hdid)
    exact keptWhen_congr hcluster hsuspicious.1 hedges fun did =>
      getCollusionPenalty_rebuild hkeys' hfresh

/-! ### A cluster that buys itself off -/

/-- Four agents in a circle. -/
def circle : List (String × String) := [("a", "b"), ("b", "c"), ("c", "d"), ("d", "a")]

/-- One of them endorses another agent. -/
def boughtOff : List (String × String) := circle ++ [("a", "x")]

def sampleList (edges : List (String × String)) : List (Trust.EndorsementV2 ℚ) :=
  edges.map fun edge =>
    { sender := edge.1, target := edge.2, score := 1, domain := .undefined, timestamp := 0,
      expires := none }

def computerPenalty (edges : List (String × String)) (did : String) : ℚ :=
  Trust.getCollusionPenalty (rebuildSccPenaltyCache (sampleList edges)) did

def enginePenalty (edges : List (String × String)) (did : String) : ℚ :=
  let endorsements := edges.map sampleEndorsement
  getCollusionPenalty
    (rebuildCollusionPenaltyCache .default 0 (buildGraph endorsements).keys endorsements) 0 did

/-- **One endorsement of an outsider**, who endorses nobody, ends the penalty of all four. -/
theorem penalty_bought_off :
    (∀ did ∈ ["a", "b", "c", "d"],
      computerPenalty circle did = 1 / 10 ∧ enginePenalty circle did = 1 / 10) ∧
    ∀ did ∈ ["a", "b", "c", "d"],
      computerPenalty boughtOff did = 1 ∧ enginePenalty boughtOff did = 1 := by
  decide +kernel

theorem penalty_kept_iff_sample :
    KeptWhen 4 (1 / 5) circle [("a", "x")] ["d", "c", "b", "a"]
        (fun did => computerPenalty boughtOff did = 1 / 10) ∧
      KeptWhen 4 (1 / 5) circle [("a", "x")] ["d", "c", "b", "a"]
        fun did => enginePenalty boughtOff did = 1 / 10 :=
  ⟨(@penalty_kept_iff ℚ _ _).1 (sampleList circle) (sampleList [("a", "x")]) _
      { nodes := ["d", "c", "b", "a"], internalEdges := 4, externalEdges := 0 } (by decide)
      (by decide +kernel) (List.Perm.refl _),
    (@penalty_kept_iff ℚ _ _).2 .default 0 0 (circle.map sampleEndorsement)
      ([("a", "x")].map sampleEndorsement) _ _ _ _ (List.Perm.refl _) (List.Perm.refl _) (by decide)
      (by decide) (by decide +kernel) (List.Perm.refl _)⟩

end QuadraA.CoreRs
