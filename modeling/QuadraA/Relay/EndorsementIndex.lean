import QuadraA.Lib.JsValue
import QuadraA.Lib.Record

/-!
# The index of endorsements

`endorsement-index.ts`: the endorsements that a relay keeps for each agent, and the mean of their
scores that a query reports.

* `Endorsement`, `StoredEndorsement` — an endorsement as it is decoded, of any values;
* `InRange.query` — the mean of such an index is.

What throws is `none`.  Where the timestamps are no numbers, the order of a sort is that of the
engine, so the sort is a parameter that keeps the elements.  The keys by endorser are left out, as no
query reads them.
-/

namespace QuadraA.Relay

open QuadraA.Lib

/-! ### Endorsements -/

/-- **An endorsement as it is decoded**; `sender` and `target` are the fields `from` and `to`. -/
structure Endorsement where
  version : JsValue
  sender : JsValue
  target : JsValue
  score : JsValue
  domain : JsValue
  reason : JsValue
  timestamp : JsValue
  expires : JsValue
  signature : JsValue
  /-- The other properties, which are signed and stored with the rest. -/
  others : List (String × JsValue)

structure StoredEndorsement extends Endorsement where
  id : String
  storedAt : ℕ

structure EndorsementIndex where
  byTarget : Record MapKey (Record String StoredEndorsement)
  byId : Record String StoredEndorsement

namespace EndorsementIndex

def empty : EndorsementIndex := ⟨.empty, .empty⟩

/-- `${from}:${domain || '*'}`. -/
def getKey (texts : JsTexts) (e : Endorsement) : Option String :=
  (e.sender.text texts).bind fun sender =>
    (if e.domain.truthy then e.domain.text texts else some "*").map fun domain =>
      sender ++ ":" ++ domain

def indexStoredEndorsement (texts : JsTexts) (index : EndorsementIndex) (e : StoredEndorsement) :
    Option EndorsementIndex :=
  (getKey texts e.toEndorsement).map fun key =>
    let targetMap := (index.byTarget.get? e.target.mapKey).getD .empty
    { byTarget := index.byTarget.set e.target.mapKey (targetMap.set key e)
      byId := index.byId.set e.id e }

def removeStoredEndorsement (texts : JsTexts) (index : EndorsementIndex) (e : StoredEndorsement) :
    Option EndorsementIndex :=
  (getKey texts e.toEndorsement).map fun key =>
    { byTarget :=
        match index.byTarget.get? e.target.mapKey with
        | none => index.byTarget
        | some targetMap =>
            if (targetMap.erase key).keys = [] then index.byTarget.erase e.target.mapKey
            else index.byTarget.set e.target.mapKey (targetMap.erase key)
      byId := index.byId.erase e.id }

/-- `store`, with the hash of the JSON text of five fields; `JSON.stringify` throws for a
`BigInt`. -/
def store (texts : JsTexts) (computeId : Endorsement → String) (index : EndorsementIndex)
    (e : Endorsement) (now : ℕ) : Option EndorsementIndex :=
  if e.sender.stringifies && e.target.stringifies && e.score.stringifies && e.domain.stringifies &&
      e.timestamp.stringifies then
    (getKey texts e).bind fun key =>
      let stored : StoredEndorsement := { e with id := computeId e, storedAt := now }
      match (index.byTarget.get? e.target.mapKey).bind fun targetMap => targetMap.get? key with
      | none => index.indexStoredEndorsement texts stored
      | some existing =>
          (index.removeStoredEndorsement texts existing).bind fun index =>
            index.indexStoredEndorsement texts stored
  else none

end EndorsementIndex

/-! ### Queries -/

/-- `all.filter(p)` for a test that may throw. -/
def filterThrowing {α : Type} (p : α → Option Bool) : List α → Option (List α)
  | [] => some []
  | a :: rest =>
      (p a).bind fun keep => (filterThrowing p rest).map fun rest => if keep then a :: rest else rest

/-- `all.sort((a, b) => b.timestamp - a.timestamp)`. -/
structure TimestampSort where
  sort : List StoredEndorsement → Option (List StoredEndorsement)
  perm : ∀ {all sorted : List StoredEndorsement}, sort all = some sorted → sorted.Perm all

structure EndorsementQuery where
  target : String
  domain : Option String
  since : Option JsNumber
  limit : ℕ

structure EndorsementResult where
  endorsements : List StoredEndorsement
  total : ℕ
  averageScore : JsNumber

/-- `!e.expires || e.expires > now`. -/
def StoredEndorsement.isLive (texts : JsTexts) (now : ℕ) (e : StoredEndorsement) : Option Bool :=
  if e.expires.truthy then e.expires.isGreater texts (.finite now) else some true

/-- `e.domain === domain || e.domain === undefined || e.domain === '*'`. -/
def StoredEndorsement.isOfDomain (domain : String) (e : StoredEndorsement) : Bool :=
  match e.domain with
  | .primitive p => decide (p = .string domain ∨ p = .undefined ∨ p = .string "*")
  | .object _ => false

/-- `e.timestamp >= since`. -/
def StoredEndorsement.isSince (texts : JsTexts) (since : JsNumber) (e : StoredEndorsement) :
    Option Bool :=
  e.timestamp.toPrimitive.map fun p => since.le (p.numeric texts)

/-- `all.reduce((sum, e) => sum + e.score, 0)`. -/
def sumScores (texts : JsTexts) (sum : Primitive) : List StoredEndorsement → Option Primitive
  | [] => some sum
  | e :: rest =>
      (e.score.toDefaultPrimitive.bind fun score => sum.plus texts score).bind fun sum =>
        sumScores texts sum rest

def averageScore (texts : JsTexts) (all : List StoredEndorsement) : Option JsNumber :=
  if 0 < all.length then
    (sumScores texts (.number (.finite 0)) all).bind fun sum => sum.divCount texts all.length
  else some (.finite 0)

/-- The endorsements that a query is about. -/
def EndorsementQuery.select (texts : JsTexts) (query : EndorsementQuery) (now : ℕ)
    (all : List StoredEndorsement) : Option (List StoredEndorsement) := do
  let all ← filterThrowing (StoredEndorsement.isLive texts now) all
  let all := match query.domain with
    | none => all
    | some domain => all.filter (StoredEndorsement.isOfDomain domain)
  match query.since with
  | none => some all
  | some since => filterThrowing (StoredEndorsement.isSince texts since) all

def EndorsementIndex.query (texts : JsTexts) (sort : TimestampSort) (index : EndorsementIndex)
    (query : EndorsementQuery) (now : ℕ) : Option EndorsementResult :=
  match index.byTarget.get? (.primitive (.string query.target)) with
  | none => some { endorsements := [], total := 0, averageScore := .finite 0 }
  | some targetMap => do
      let all ← query.select texts now targetMap.values
      let all ← sort.sort all
      let averageScore ← averageScore texts all
      some
        { endorsements := all.take query.limit
          total := all.length
          averageScore := averageScore }

/-! ### Scores between zero and one -/

/-- **A real number between zero and one.** -/
def Within (x : JsNumber) : Prop := ∃ q : ℚ, x = .finite q ∧ 0 ≤ q ∧ q ≤ 1

def Endorsement.ScoreWithin (e : Endorsement) : Prop := ∃ x, e.score = .number x ∧ Within x

/-- **All scores of the index are between zero and one.** -/
def EndorsementIndex.InRange (index : EndorsementIndex) : Prop :=
  ∀ target targetMap key e, index.byTarget.get? target = some targetMap →
    targetMap.get? key = some e → e.toEndorsement.ScoreWithin

variable {texts : JsTexts} {computeId : Endorsement → String} {sort : TimestampSort}
  {index index' : EndorsementIndex} {all selected : List StoredEndorsement}

theorem mem_of_filterThrowing {α : Type} {p : α → Option Bool} {l l' : List α} {a : α}
    (h : filterThrowing p l = some l') (hmem : a ∈ l') : a ∈ l := by
  induction l generalizing l' with
  | nil =>
    obtain rfl := Option.some.inj h
    exact hmem
  | cons b rest ih =>
    simp only [filterThrowing, Option.bind_eq_some_iff, Option.map_eq_some_iff] at h
    obtain ⟨keep, _, rest', hrest, rfl⟩ := h
    split at hmem
    · rcases List.mem_cons.mp hmem with rfl | hmem
      · exact List.mem_cons_self ..
      · exact List.mem_cons_of_mem _ (ih hrest hmem)
    · exact List.mem_cons_of_mem _ (ih hrest hmem)

theorem mem_of_select {query : EndorsementQuery} {now : ℕ} {e : StoredEndorsement}
    (h : query.select texts now all = some selected) (hmem : e ∈ selected) : e ∈ all := by
  rw [EndorsementQuery.select, Option.bind_eq_bind, Option.bind_eq_some_iff] at h
  obtain ⟨live, hlive, h⟩ := h
  refine mem_of_filterThrowing hlive ?_
  have hdomain : ∀ e' ∈ (match query.domain with
      | none => live
      | some domain => live.filter (StoredEndorsement.isOfDomain domain)), e' ∈ live := by
    intro e' he'
    split at he'
    · exact he'
    · exact List.mem_of_mem_filter he'
  dsimp only at h
  split at h
  · obtain rfl := Option.some.inj h
    exact hdomain e hmem
  · exact hdomain e (mem_of_filterThrowing h hmem)

/-- **A sum of scores** is no more than their number. -/
theorem sumScores_within {s : ℚ} {k : ℕ} (hall : ∀ e ∈ all, e.toEndorsement.ScoreWithin)
    (hs0 : 0 ≤ s) (hs : s ≤ k) (hs' : s ≤ 2 ^ 53) :
    ∃ r, sumScores texts (.number (.finite s)) all = some (.number (.finite r)) ∧ 0 ≤ r ∧
      r ≤ (k + all.length : ℕ) := by
  induction all generalizing s k with
  | nil => exact ⟨s, rfl, hs0, hs⟩
  | cons e rest ih =>
    obtain ⟨_, hscore, q, rfl, hq0, hq1⟩ := hall e (List.mem_cons_self ..)
    obtain ⟨r, hadd, hr0, hr, hr'⟩ := JsNumber.add_between hs0 hs hs' hq0 hq1
    have hstep : (e.score.toDefaultPrimitive.bind fun score =>
        (Primitive.number (.finite s)).plus texts score) = some (.number (.finite r)) := by
      rw [hscore, ← hadd]
      rfl
    obtain ⟨total, hsum, htotal0, htotal⟩ :=
      ih (fun e' he' => hall e' (List.mem_cons_of_mem _ he')) hr0 hr hr'
    refine ⟨total, ?_, htotal0, ?_⟩
    · rw [sumScores, hstep]
      exact hsum
    · have hlength : k + 1 + rest.length = k + (e :: rest).length := by
        rw [List.length_cons]
        omega
      rw [← hlength]
      exact htotal

theorem averageScore_within {x : JsNumber} (hall : ∀ e ∈ all, e.toEndorsement.ScoreWithin)
    (h : averageScore texts all = some x) : Within x := by
  rw [averageScore] at h
  split at h
  · obtain ⟨r, hsum, hr0, hr⟩ : ∃ r, sumScores texts (.number (.finite 0)) all
        = some (.number (.finite r)) ∧ 0 ≤ r ∧ r ≤ (0 + all.length : ℕ) :=
      sumScores_within hall le_rfl (by norm_num) (by norm_num)
    rw [Nat.zero_add] at hr
    obtain ⟨q, hdiv, hq0, hq1⟩ := JsNumber.divCount_between hr0 hr
    rw [hsum] at h
    have hx : x = (JsNumber.finite r).divCount all.length := (Option.some.inj h).symm
    exact ⟨q, hx.trans hdiv, hq0, hq1⟩
  · obtain rfl := Option.some.inj h
    exact ⟨0, rfl, le_rfl, zero_le_one⟩

/-- **The mean of an index in range** is between zero and one. -/
theorem EndorsementIndex.InRange.query (h : index.InRange) {query : EndorsementQuery} {now : ℕ}
    {result : EndorsementResult} (hquery : index.query texts sort query now = some result) :
    Within result.averageScore := by
  rw [EndorsementIndex.query] at hquery
  split at hquery
  · obtain rfl := Option.some.inj hquery
    exact ⟨0, rfl, le_rfl, zero_le_one⟩
  · rename_i targetMap htarget
    simp only [Option.bind_eq_bind, Option.bind_eq_some_iff] at hquery
    obtain ⟨selected, hselect, sorted, hsort, average, haverage, hresult⟩ := hquery
    obtain rfl := Option.some.inj hresult
    refine averageScore_within (fun e he => ?_) haverage
    have hmem := mem_of_select hselect ((sort.perm hsort).mem_iff.mp he)
    obtain ⟨key, hget⟩ := (Record.mem_values_iff _ _).mp hmem
    exact h _ targetMap key e htarget hget

/-! ### Stored endorsements -/

theorem EndorsementIndex.InRange.remove (h : index.InRange) {e : StoredEndorsement}
    (hremove : index.removeStoredEndorsement texts e = some index') : index'.InRange := by
  rw [EndorsementIndex.removeStoredEndorsement, Option.map_eq_some_iff] at hremove
  obtain ⟨key, _, rfl⟩ := hremove
  intro target targetMap key' e' htarget hget
  dsimp only at htarget
  split at htarget
  · exact h target targetMap key' e' htarget hget
  · rename_i oldMap hold
    split at htarget
    · rw [Record.get?_erase] at htarget
      split at htarget
      · cases htarget
      · exact h target targetMap key' e' htarget hget
    · rw [Record.get?_set] at htarget
      split at htarget
      · obtain rfl := Option.some.inj htarget
        rw [Record.get?_erase] at hget
        split at hget
        · cases hget
        · exact h _ oldMap key' e' hold hget
      · exact h target targetMap key' e' htarget hget

theorem EndorsementIndex.InRange.insert (h : index.InRange) {e : StoredEndorsement}
    (hscore : e.toEndorsement.ScoreWithin)
    (hindex : index.indexStoredEndorsement texts e = some index') : index'.InRange := by
  rw [EndorsementIndex.indexStoredEndorsement, Option.map_eq_some_iff] at hindex
  obtain ⟨key, _, rfl⟩ := hindex
  intro target targetMap key' e' htarget hget
  dsimp only at htarget
  rw [Record.get?_set] at htarget
  split at htarget
  · obtain rfl := Option.some.inj htarget
    rw [Record.get?_set] at hget
    split at hget
    · obtain rfl := Option.some.inj hget
      exact hscore
    · cases hold : index.byTarget.get? e.target.mapKey with
      | none =>
        rw [hold, Option.getD_none, Record.get?_empty] at hget
        cases hget
      | some oldMap =>
        rw [hold, Option.getD_some] at hget
        exact h _ oldMap key' e' hold hget
  · exact h target targetMap key' e' htarget hget

/-- **An endorsement in range** keeps the index in range. -/
theorem EndorsementIndex.InRange.store (h : index.InRange) {e : Endorsement} {now : ℕ}
    (hscore : e.ScoreWithin) (hstore : index.store texts computeId e now = some index') :
    index'.InRange := by
  rw [EndorsementIndex.store] at hstore
  split at hstore
  · rw [Option.bind_eq_some_iff] at hstore
    obtain ⟨key, _, hstore⟩ := hstore
    dsimp only at hstore
    split at hstore
    · exact h.insert hscore hstore
    · rw [Option.bind_eq_some_iff] at hstore
      obtain ⟨removed, hremove, hstore⟩ := hstore
      exact (h.remove hremove).insert hscore hstore
  · cases hstore

theorem inRange_empty : EndorsementIndex.empty.InRange := by
  intro target targetMap key e htarget
  rw [EndorsementIndex.empty, Record.get?_empty] at htarget
  cases htarget

end QuadraA.Relay
