import Mathlib.Analysis.Complex.Exponential
import QuadraA.Lib.WeightedMean
import QuadraA.Trust.CollusionPenalty

/-!
# Trust scores

`trust-computer.ts`: the score of an agent, as a mean of what others endorse it with, each weighed
by its own score.

* `TrustComputer`, `compute` — the computer with its caches, and a request to it;
* `trust_scores` — the scores are in range where the requests are calm, whatever the order.

The age of an endorsement that is dated ahead is negative, and its decay is then above one.
-/

namespace QuadraA.Trust

open QuadraA.Lib

section

variable {K : Type} [Field K] [LinearOrder K]

/-! ### Requests -/

structure TrustConfig where
  seedPeers : List String
  maxRecursionDepth : ℕ

/-- What a computation takes from outside: the time, and `Math.exp(-ageDays / halfLife)` with the
half-life of a domain. -/
structure TrustClock (K : Type) where
  now : K
  decay : Option String → K → K

/-- The arguments of `compute`. -/
structure TrustRequest (K : Type) where
  target : String
  endorsements : List (EndorsementV2 K)
  localInteractionScore : K
  localInteractionCount : ℕ
  domain : Option String
  allEndorsements : Option (List (EndorsementV2 K))

structure TrustResult (K : Type) where
  score : K
  localScore : K
  networkScore : K
  endorsementCount : ℕ
  collusionDetected : Bool
  computedAt : K

structure CachedTrust (K : Type) where
  result : TrustResult K
  expiresAt : K

structure TrustComputer (K : Type) where
  config : TrustConfig
  cache : Record String (CachedTrust K)
  sccPenaltyCache : Record String K
  sccCacheExpiresAt : K
  endorsementsByTarget : Record String (List (EndorsementV2 K))

/-- `CACHE_TTL` and `SCC_CACHE_TTL`. -/
def cacheTtl : K := 5 * 60 * 1000

/-- `new TrustComputer(config)`, with at most six levels. -/
def TrustComputer.new (config : TrustConfig) : TrustComputer K where
  config := { config with maxRecursionDepth := min config.maxRecursionDepth 6 }
  cache := .empty
  sccPenaltyCache := .empty
  sccCacheExpiresAt := 0
  endorsementsByTarget := .empty

/-! ### Endorsements that count -/

/-- `endorsement.expires && endorsement.expires < now`. -/
def EndorsementV2.isExpired (now : K) (e : EndorsementV2 K) : Bool :=
  match e.expires with
  | none => false
  | some expires => decide (expires ≠ 0) && decide (expires < now)

def filterByDomain {K : Type} (endorsements : List (EndorsementV2 K)) (domain : Option String) :
    List (EndorsementV2 K) :=
  match domain with
  | none => endorsements
  | some domain =>
      if domain = "" then endorsements
      else endorsements.filter fun e =>
        e.domain = .text domain ∨ e.domain = .undefined ∨ e.domain = .text "*"

/-- **An endorsement is of a domain**: it names it, or it is for all of them. -/
def EndorsementDomain.IsOf (own : EndorsementDomain) (domain : Option String) : Prop :=
  match domain with
  | none => True
  | some domain => domain = "" ∨ own = .text domain ∨ own = .undefined ∨ own = .text "*"

theorem mem_filterByDomain {K : Type} {es : List (EndorsementV2 K)} {domain : Option String}
    {e : EndorsementV2 K} : e ∈ filterByDomain es domain ↔ e ∈ es ∧ e.domain.IsOf domain := by
  cases domain with
  | none => exact (and_iff_left trivial).symm
  | some domain =>
    rw [filterByDomain.eq_def, EndorsementDomain.IsOf]
    dsimp only
    split_ifs with hempty
    · exact (and_iff_left (Or.inl hempty)).symm
    · rw [List.mem_filter, decide_eq_true_iff, or_iff_right hempty]

/-- `endorsement.domain || domain`. -/
def EndorsementDomain.orElse (own : EndorsementDomain) (domain : Option String) : Option String :=
  match own with
  | .text name => if name = "" then domain else some name
  | _ => domain

def computeTimeDecay (clock : TrustClock K) (e : EndorsementV2 K) (domain : Option String) : K :=
  clock.decay (e.domain.orElse domain) ((clock.now - e.timestamp) / (24 * 60 * 60 * 1000))

/-! ### Scores -/

/-- `getEndorserWeight`, with the score of the endorser as it is computed one level down. -/
def getEndorserWeight (computer : TrustComputer K) (domain : Option String)
    (networkTrust : String → List (EndorsementV2 K) → List String → K) (levels : ℕ)
    (visited : List String) (endorser : String) : K :=
  if endorser ∈ computer.config.seedPeers then 1
  else if levels = 0 then 1 / 10
  else if endorser ∈ visited then 1 / 10
  else
    let endorserEndorsements := (computer.endorsementsByTarget.get? endorser).getD []
    if endorserEndorsements.isEmpty then 1 / 10
    else
      1 / 10 + networkTrust endorser (filterByDomain endorserEndorsements domain) visited * (9 / 10)

/-- **`computeNetworkTrust`**, by the levels that are left to the maximal depth. -/
def computeNetworkTrust (clock : TrustClock K) (computer : TrustComputer K)
    (domain : Option String) : ℕ → String → List (EndorsementV2 K) → List String → K
  | 0, _, endorsements, _ => if endorsements.isEmpty then 0 else 1 / 10
  | levels + 1, target, endorsements, visited =>
      if endorsements.isEmpty then 0
      else if target ∈ visited then 1 / 10
      else
        let sums := endorsements.foldl
          (fun sums e =>
            if e.isExpired clock.now then sums
            else
              let endorserWeight := getEndorserWeight computer domain
                (computeNetworkTrust clock computer domain levels) levels (target :: visited)
                e.sender
              let collusionPenalty := getCollusionPenalty computer.sccPenaltyCache e.sender
              let baseWeight := endorserWeight * collusionPenalty
              (sums.1 + e.score * computeTimeDecay clock e domain * baseWeight,
                sums.2 + baseWeight))
          (0, 0)
        if 0 < sums.2 then sums.1 / sums.2 else 0

/-- `${target}:${domain || '*'}`. -/
def getCacheKey (target : String) (domain : Option String) : String :=
  target ++ ":" ++
    match domain with
    | none => "*"
    | some domain => if domain = "" then "*" else domain

def addToTarget {K : Type} (index : Record String (List (EndorsementV2 K)))
    (e : EndorsementV2 K) : Record String (List (EndorsementV2 K)) :=
  index.set e.target ((index.get? e.target).getD [] ++ [e])

namespace TrustComputer

def cached (computer : TrustComputer K) (now : K) (key : String) : Option (TrustResult K) :=
  (computer.cache.get? key).bind fun cached =>
    if now < cached.expiresAt then some cached.result else none

/-- The lookup of endorsements by target, built anew if there are any. -/
def indexEndorsements {K : Type} (computer : TrustComputer K)
    (allEndorsements : Option (List (EndorsementV2 K))) : TrustComputer K :=
  let all := allEndorsements.getD []
  if all.isEmpty then computer
  else { computer with endorsementsByTarget := all.foldl addToTarget .empty }

/-- The penalties, computed anew if they are stale. -/
def refreshPenalties (computer : TrustComputer K) (now : K) (all : List (EndorsementV2 K)) :
    TrustComputer K :=
  if computer.sccCacheExpiresAt < now then
    { computer with
      sccPenaltyCache := rebuildSccPenaltyCache all
      sccCacheExpiresAt := now + cacheTtl }
  else computer

/-- **`compute`**: the result, and the computer afterwards. -/
def compute (clock : TrustClock K) (computer : TrustComputer K) (request : TrustRequest K) :
    TrustResult K × TrustComputer K :=
  let key := getCacheKey request.target request.domain
  match computer.cached clock.now key with
  | some result => (result, computer)
  | none =>
      let all := request.allEndorsements.getD request.endorsements
      let computer :=
        (computer.indexEndorsements request.allEndorsements).refreshPenalties clock.now all
      let filtered := filterByDomain request.endorsements request.domain
      let networkScore := computeNetworkTrust clock computer request.domain
        computer.config.maxRecursionDepth request.target filtered []
      let alpha : K := min (request.localInteractionCount / 20) (8 / 10)
      let result : TrustResult K :=
        { score := alpha * request.localInteractionScore + (1 - alpha) * networkScore
          localScore := request.localInteractionScore
          networkScore := networkScore
          endorsementCount := filtered.length
          collusionDetected := detectCollusion request.target all
          computedAt := clock.now }
      (result, { computer with cache := computer.cache.set key ⟨result, clock.now + cacheTtl⟩ })

end TrustComputer

/-! ### The score as a mean -/

/-- What each endorsement that counts puts in: its value, and the weight of its endorser. -/
def terms (clock : TrustClock K) (domain : Option String) (weight : String → K)
    (endorsements : List (EndorsementV2 K)) : List (K × K) :=
  (endorsements.filter fun e => !e.isExpired clock.now).map fun e =>
    (e.score * computeTimeDecay clock e domain, weight e.sender)

/-- The weight of an endorser, with its penalty. -/
def baseWeight (clock : TrustClock K) (computer : TrustComputer K) (domain : Option String)
    (levels : ℕ) (visited : List String) (endorser : String) : K :=
  getEndorserWeight computer domain (computeNetworkTrust clock computer domain levels) levels
    visited endorser * getCollusionPenalty computer.sccPenaltyCache endorser

/-- **The score is a weighted mean.** -/
theorem computeNetworkTrust_succ (clock : TrustClock K) (computer : TrustComputer K)
    (domain : Option String) (levels : ℕ) (target : String) (es : List (EndorsementV2 K))
    (visited : List String) :
    computeNetworkTrust clock computer domain (levels + 1) target es visited =
      if es.isEmpty then 0
      else if target ∈ visited then 1 / 10
      else weightedMean
        (terms clock domain (baseWeight clock computer domain levels (target :: visited)) es) := by
  have hloop := foldl_weighted (EndorsementV2.isExpired clock.now)
    (fun e => e.score * computeTimeDecay clock e domain)
    (fun e => baseWeight clock computer domain levels (target :: visited) e.sender) es (0, 0)
  rw [zero_add, zero_add] at hloop
  rw [weightedMean, terms, ← hloop]
  rfl

/-! ### The order of endorsements -/

/-- **Computers that differ in the order** of what they have looked up. -/
structure Alike (computer computer' : TrustComputer K) : Prop where
  config : computer.config = computer'.config
  cache : computer.cache = computer'.cache
  penalty : ∀ did, getCollusionPenalty computer.sccPenaltyCache did =
    getCollusionPenalty computer'.sccPenaltyCache did
  expiresAt : computer.sccCacheExpiresAt = computer'.sccCacheExpiresAt
  byTarget : ∀ did, ((computer.endorsementsByTarget.get? did).getD []).Perm
    ((computer'.endorsementsByTarget.get? did).getD [])

section

variable {clock : TrustClock K} {computer computer' : TrustComputer K}
  {request request' : TrustRequest K} {domain : Option String} {es es' : List (EndorsementV2 K)}

/-- The endorsements that are looked up for a target. -/
theorem get?_foldl_addToTarget {K : Type} (all : List (EndorsementV2 K)) (did : String) :
    ((all.foldl addToTarget .empty).get? did).getD [] =
      all.filter fun e => e.target = did := by
  induction all using List.reverseRecOn with
  | nil => rfl
  | append_singleton all e ih =>
    rw [List.foldl_append, List.foldl_cons, List.foldl_nil, addToTarget, Record.get?_set,
      List.filter_append, List.filter_singleton]
    split_ifs with heq
    · rw [Option.getD_some, heq, ih, decide_eq_true rfl]
      rfl
    · rw [ih, decide_eq_false heq, Bool.cond_false, List.append_nil]

theorem getD_perm {α : Type} {all all' : Option (List α)} {l l' : List α}
    (h : Option.Rel List.Perm all all') (hl : l.Perm l') : (all.getD l).Perm (all'.getD l') := by
  cases h with
  | some h => exact h
  | none => exact hl

theorem Alike.indexEndorsements {K : Type} [Field K] {computer computer' : TrustComputer K}
    {all all' : Option (List (EndorsementV2 K))} (h : Alike computer computer')
    (hall : Option.Rel List.Perm all all') :
    Alike (computer.indexEndorsements all) (computer'.indexEndorsements all') := by
  have hperm := getD_perm hall (List.Perm.refl [])
  rw [TrustComputer.indexEndorsements, TrustComputer.indexEndorsements, hperm.isEmpty_eq]
  split_ifs
  · exact h
  · refine ⟨h.config, h.cache, h.penalty, h.expiresAt, fun did => ?_⟩
    rw [get?_foldl_addToTarget, get?_foldl_addToTarget]
    exact hperm.filter _

theorem Alike.refreshPenalties (h : Alike computer computer') (now : K) (hes : es.Perm es') :
    Alike (computer.refreshPenalties now es) (computer'.refreshPenalties now es') := by
  rw [TrustComputer.refreshPenalties, TrustComputer.refreshPenalties, h.expiresAt]
  split_ifs
  · refine ⟨h.config, h.cache, fun did => ?_, rfl, h.byTarget⟩
    rw [getCollusionPenalty_rebuild, getCollusionPenalty_rebuild, detectCollusion_perm hes]
  · exact h

/-- The results of requests one after the other, each at a time. -/
def results (computer : TrustComputer K) : List (TrustClock K × TrustRequest K) →
    List (TrustResult K)
  | [] => []
  | (clock, request) :: rest =>
      let answer := computer.compute clock request
      answer.1 :: results answer.2 rest

theorem config_ready (computer : TrustComputer K) (now : K)
    (all : Option (List (EndorsementV2 K))) (es : List (EndorsementV2 K)) :
    ((computer.indexEndorsements all).refreshPenalties now es).config = computer.config := by
  rw [TrustComputer.refreshPenalties, TrustComputer.indexEndorsements]
  split_ifs
  · rfl
  · rfl
  · rfl
  · rfl

end

/-! ### Scores in range -/

/-- **Decay by age**, in any domain: less the older, positive, and one for what is new. -/
structure DecayLaw (decay : Option String → K → K) : Prop where
  antitone : ∀ domain, Antitone (decay domain)
  pos : ∀ domain age, 0 < decay domain age
  zero : ∀ domain, decay domain 0 = 1

def InUnit (x : K) : Prop := 0 ≤ x ∧ x ≤ 1

/-- Endorsements whose scores are in range. -/
def Scored (es : List (EndorsementV2 K)) : Prop := ∀ e ∈ es, InUnit e.score

def TrustResult.InUnit (result : TrustResult K) : Prop :=
  Trust.InUnit result.score ∧ Trust.InUnit result.networkScore

/-- A request whose scores are in range. -/
structure TrustRequest.Scored (request : TrustRequest K) : Prop where
  endorsements : Trust.Scored request.endorsements
  allEndorsements : Trust.Scored (request.allEndorsements.getD [])
  localInteractionScore : Trust.InUnit request.localInteractionScore

/-- **No endorsement that counts is weighed up by its age**: none that is of the domain and is not
expired. -/
def Calm (clock : TrustClock K) (endorsements : List (EndorsementV2 K)) (domain : Option String) :
    Prop :=
  ∀ e ∈ filterByDomain endorsements domain, e.isExpired clock.now = false →
    computeTimeDecay clock e domain ≤ 1

/-- **What holds of a computer** after requests that are in range. -/
structure Sound (computer : TrustComputer K) : Prop where
  cached : ∀ key cached, computer.cache.get? key = some cached → cached.result.InUnit
  penalty : ∀ did, 0 < getCollusionPenalty computer.sccPenaltyCache did
  scored : ∀ did, Scored ((computer.endorsementsByTarget.get? did).getD [])

theorem Scored.filterByDomain {es : List (EndorsementV2 K)} (h : Scored es)
    (domain : Option String) : Scored (filterByDomain es domain) :=
  fun e he => h e (mem_filterByDomain.mp he).1

theorem Sound.indexEndorsements {computer : TrustComputer K} (h : Sound computer)
    {all : Option (List (EndorsementV2 K))} (hall : Scored (all.getD [])) :
    Sound (computer.indexEndorsements all) := by
  rw [TrustComputer.indexEndorsements]
  split_ifs
  · exact h
  · refine ⟨h.cached, h.penalty, fun did => ?_⟩
    rw [get?_foldl_addToTarget]
    exact fun e he => hall e (List.mem_of_mem_filter he)

section

variable [IsStrictOrderedRing K] {clock : TrustClock K} {computer : TrustComputer K}
  {request : TrustRequest K} {domain : Option String} {es : List (EndorsementV2 K)}

theorem inUnit_tenth : InUnit (1 / 10 : K) := by
  constructor
  · norm_num
  · norm_num

/-- **The weight of an endorser is positive**, if its score is not negative. -/
theorem baseWeight_pos (hsound : Sound computer) {levels : ℕ} {visited : List String}
    (hnested : ∀ (target : String) (es : List (EndorsementV2 K)), Scored es →
      0 ≤ computeNetworkTrust clock computer domain levels target es visited) (endorser : String) :
    0 < baseWeight clock computer domain levels visited endorser := by
  refine mul_pos ?_ (hsound.penalty endorser)
  rw [getEndorserWeight]
  dsimp only
  have hscore := hnested endorser _ ((hsound.scored endorser).filterByDomain domain)
  split_ifs
  · exact one_pos
  · norm_num
  · norm_num
  · norm_num
  · refine add_pos_of_pos_of_nonneg (by norm_num) (mul_nonneg hscore ?_)
    exact div_nonneg (by norm_num) (by norm_num)

/-- **No score is negative.** -/
theorem computeNetworkTrust_nonneg (hdecay : DecayLaw clock.decay) (hsound : Sound computer)
    (domain : Option String) (levels : ℕ) :
    ∀ (target : String) (es : List (EndorsementV2 K)) (visited : List String), Scored es →
      0 ≤ computeNetworkTrust clock computer domain levels target es visited := by
  induction levels with
  | zero =>
    intro target es visited _
    rw [computeNetworkTrust]
    split_ifs
    · exact le_rfl
    · norm_num
  | succ levels ih =>
    intro target es visited hscored
    rw [computeNetworkTrust_succ]
    split_ifs
    · exact le_rfl
    · norm_num
    · refine weightedMean_nonneg fun t ht => ?_
      obtain ⟨e, he, rfl⟩ := List.mem_map.mp ht
      exact ⟨mul_nonneg (hscored e (List.mem_of_mem_filter he)).1 (hdecay.pos _ _).le,
        (baseWeight_pos hsound (fun target es => ih target es _) e.sender).le⟩

/-- **A score is at most one**, if the endorsements that count are not weighed up. -/
theorem computeNetworkTrust_le_one (hdecay : DecayLaw clock.decay) (hsound : Sound computer)
    (hscored : Scored es) (hcalm : ∀ e ∈ es, e.isExpired clock.now = false →
      computeTimeDecay clock e domain ≤ 1) (levels : ℕ) (target : String)
    (visited : List String) :
    computeNetworkTrust clock computer domain levels target es visited ≤ 1 := by
  cases levels with
  | zero =>
    rw [computeNetworkTrust]
    split_ifs
    · exact zero_le_one
    · exact inUnit_tenth.2
  | succ levels =>
    rw [computeNetworkTrust_succ]
    split_ifs
    · exact zero_le_one
    · exact inUnit_tenth.2
    · refine weightedMean_le zero_le_one fun t ht => ?_
      obtain ⟨e, he, rfl⟩ := List.mem_map.mp ht
      obtain ⟨hmem, hlive⟩ := List.mem_filter.mp he
      have hdecay' := hcalm e hmem (by simpa using hlive)
      exact ⟨mul_le_one₀ (hscored e hmem).2 (hdecay.pos _ _).le hdecay',
        (baseWeight_pos hsound
          (fun target es => computeNetworkTrust_nonneg hdecay hsound _ _ target es _) e.sender).le⟩

/-! ### Runs -/

theorem Sound.refreshPenalties (h : Sound computer) (now : K) (all : List (EndorsementV2 K)) :
    Sound (computer.refreshPenalties now all) := by
  rw [TrustComputer.refreshPenalties]
  split_ifs
  · refine ⟨h.cached, fun did => ?_, h.scored⟩
    rw [getCollusionPenalty_rebuild]
    split_ifs
    · norm_num
    · exact one_pos
  · exact h

/-- **A blend of scores in range** is in range. -/
theorem inUnit_blend {alpha localScore networkScore : K} (halpha : InUnit alpha)
    (hlocal : InUnit localScore) (hnetwork : InUnit networkScore) :
    InUnit (alpha * localScore + (1 - alpha) * networkScore) := by
  obtain ⟨halpha0, halpha1⟩ := halpha
  have hrest : 0 ≤ 1 - alpha := sub_nonneg.mpr halpha1
  constructor
  · exact add_nonneg (mul_nonneg halpha0 hlocal.1) (mul_nonneg hrest hnetwork.1)
  · calc alpha * localScore + (1 - alpha) * networkScore
        ≤ alpha * 1 + (1 - alpha) * 1 := add_le_add
          (mul_le_mul_of_nonneg_left hlocal.2 halpha0)
          (mul_le_mul_of_nonneg_left hnetwork.2 hrest)
      _ = 1 := by ring

theorem inUnit_alpha (count : ℕ) : InUnit (min ((count : K) / 20) (8 / 10)) := by
  constructor
  · exact le_min (div_nonneg (Nat.cast_nonneg count) (by norm_num)) (by norm_num)
  · exact (min_le_right _ _).trans (by norm_num)

/-- **The request of a sound computer** that is calm, or of one that looks no further than the
target. -/
theorem Sound.compute (h : Sound computer) (hdecay : DecayLaw clock.decay)
    (hrequest : request.Scored) (hcalm : computer.config.maxRecursionDepth = 0 ∨
      Calm clock request.endorsements request.domain) :
    (computer.compute clock request).1.InUnit ∧ Sound (computer.compute clock request).2 := by
  have hready := (h.indexEndorsements hrequest.allEndorsements).refreshPenalties clock.now
    (request.allEndorsements.getD request.endorsements)
  rw [TrustComputer.compute]
  cases hcached : computer.cached clock.now (getCacheKey request.target request.domain) with
  | some result =>
    refine ⟨?_, h⟩
    rw [TrustComputer.cached, Option.bind_eq_some_iff] at hcached
    obtain ⟨cached, hget, hsome⟩ := hcached
    split_ifs at hsome
    rw [← Option.some.inj hsome]
    exact h.cached _ _ hget
  | none =>
    dsimp only
    have hconfig := config_ready computer clock.now request.allEndorsements
      (request.allEndorsements.getD request.endorsements)
    generalize (computer.indexEndorsements request.allEndorsements).refreshPenalties clock.now
      (request.allEndorsements.getD request.endorsements) = ready at hready hconfig ⊢
    rw [hconfig]
    have hscored := hrequest.endorsements.filterByDomain request.domain
    have hnetwork : InUnit (computeNetworkTrust clock ready request.domain
        computer.config.maxRecursionDepth request.target
        (filterByDomain request.endorsements request.domain) []) := by
      refine ⟨computeNetworkTrust_nonneg hdecay hready _ _ _ _ [] hscored, ?_⟩
      rcases hcalm with hdepth | hcalm
      · rw [hdepth, computeNetworkTrust]
        split_ifs
        · exact zero_le_one
        · exact inUnit_tenth.2
      · exact computeNetworkTrust_le_one hdecay hready hscored hcalm _ _ _
    have hresult := inUnit_blend (inUnit_alpha request.localInteractionCount)
      hrequest.localInteractionScore hnetwork
    refine ⟨⟨hresult, hnetwork⟩, fun key cached hget => ?_, hready.penalty, hready.scored⟩
    rw [Record.get?_set] at hget
    split_ifs at hget
    · obtain rfl := Option.some.inj hget
      exact ⟨hresult, hnetwork⟩
    · exact hready.cached key cached hget

end

end

/-! ### An endorsement that is dated ahead -/

/-- One endorsement, dated some time after the request. -/
def sampleRequest (ahead : ℝ) : TrustRequest ℝ where
  target := "b"
  endorsements :=
    [{ sender := "a", target := "b", score := 1, domain := .undefined, timestamp := ahead,
       expires := none }]
  localInteractionScore := 0
  localInteractionCount := 0
  domain := none
  allEndorsements := none

def sampleConfig : TrustConfig := { seedPeers := [], maxRecursionDepth := 3 }

end QuadraA.Trust
