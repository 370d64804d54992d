import QuadraA.Lib.Base64
import QuadraA.Lib.JsText
import QuadraA.Lib.Json
import QuadraA.Lib.Paging
import QuadraA.Lib.Utf8
import QuadraA.Relay.Endorsements

/-!
# The pages of a trust query

`buildTrustQueryResponse` of `relay-agent-client-handlers.ts`: the endorsements of an agent, in
pages of fifty whose cursor is the offset of the next page.

* `TrustQueryMessage`, `TrustResultMessage`, `buildTrustQueryResponse`;
* `trust_walk_iff` — the walk is complete exactly when no more than ten thousand match.

An endorsement may run out between two answers; the walk is one of endorsements that do not.  What a
requester asks beyond its budget is answered elsewhere.
-/

namespace QuadraA.Relay

open QuadraA.Lib

/-! ### Answers -/

def TRUST_QUERY_PAGE_SIZE : ℕ := 50

/-- The most endorsements that an answer is cut from. -/
def TRUST_QUERY_MATCHES : ℕ := 10000

structure TrustQueryMessage where
  target : String
  domain : Option String
  since : Option JsNumber
  cursor : Option String

structure TrustResultMessage where
  target : String
  endorsements : List StoredEndorsement
  endorsementCount : ℕ
  averageScore : JsNumber
  nextCursor : Option String

/-- `Buffer.from(String(offset)).toString('base64url')`. -/
def offsetCursor (offset : ℤ) : String :=
  String.ofList (encodeBase64Url (encodeUtf8 (decimal offset)))

/-- `parseInt(Buffer.from(cursor, 'base64url').toString('utf8'), 10)`; `none` is `NaN`. -/
def cursorOffset (cursor : String) : Option ℤ :=
  parseDecimal (decodeUtf8 (decodeBase64 cursor.toList))

def TrustQueryMessage.offset (msg : TrustQueryMessage) : Option ℤ :=
  match msg.cursor with
  | none => some 0
  | some cursor => if cursor = "" then some 0 else cursorOffset cursor

def TrustQueryMessage.query (msg : TrustQueryMessage) : EndorsementQuery :=
  ⟨msg.target, msg.domain, msg.since, TRUST_QUERY_MATCHES⟩

/-- The endorsements from an offset on, and the cursor behind them; a slice at `NaN` is empty, and
`NaN` is less than nothing. -/
def offsetPage (endorsements : List StoredEndorsement) (total : ℕ) :
    Option ℤ → Page StoredEndorsement String
  | none => ⟨[], none⟩
  | some offset =>
      let nextOffset := offset + TRUST_QUERY_PAGE_SIZE
      ⟨jsSlice endorsements offset nextOffset,
        if nextOffset < total then some (offsetCursor nextOffset) else none⟩

/-- **The answer to a query.** -/
def buildTrustQueryResponse (texts : JsTexts) (sort : TimestampSort) (index : EndorsementIndex)
    (msg : TrustQueryMessage) (now : ℕ) : Option TrustResultMessage :=
  (index.query texts sort msg.query now).map fun result =>
    let page := offsetPage result.endorsements result.total msg.offset
    { target := msg.target
      endorsements := page.items
      endorsementCount := result.total
      averageScore := result.averageScore
      nextCursor := page.cursor }

def TrustResultMessage.page (answer : TrustResultMessage) : Page StoredEndorsement String :=
  ⟨answer.endorsements, answer.nextCursor⟩

/-! ### Complete walks -/

/-- The endorsement has the types that a query computes with. -/
structure StoredEndorsement.Typed (e : StoredEndorsement) : Prop where
  timestamp : ∃ x, e.timestamp = .number x ∧ x ≠ .nan
  score : ∃ x, e.score = .number x
  expires : e.expires.truthy = true → ∃ x, e.expires = .number x

/-- All endorsements of an agent. -/
def EndorsementIndex.ofTarget (index : EndorsementIndex) (target : String) :
    List StoredEndorsement :=
  match index.byTarget.get? (.primitive (.string target)) with
  | none => []
  | some targetMap => targetMap.values

/-- An endorsement that has not run out, of the domain and not older than is asked. -/
def EndorsementQuery.matches (texts : JsTexts) (query : EndorsementQuery) (now : ℕ)
    (e : StoredEndorsement) : Bool :=
  decide (e.isLive texts now = some true) &&
    (query.domain.all fun domain => e.isOfDomain domain) &&
    query.since.all fun since => decide (e.isSince texts since = some true)

/-- The timestamp of the first is not the earlier one. -/
def NotEarlier (e e' : StoredEndorsement) : Prop :=
  ∀ x x', e.timestamp = .number x → e'.timestamp = .number x' → x.lt x' = false

/-- **The engine sorts by timestamp**, the newest first, where all timestamps are numbers. -/
def SortsTimestamps (sort : TimestampSort) : Prop :=
  ∀ all, (∀ e ∈ all, e.Typed) → ∃ sorted, sort.sort all = some sorted ∧ sorted.Pairwise NotEarlier

/-- **A complete walk**: the answers to no cursor, to the cursor of the first, and so on, end, and
their pages make the endorsements that match, each once and the newest first; every answer counts
them. -/
def WalkComplete (answers : Option String → TrustResultMessage)
    (expected : List StoredEndorsement) : Prop :=
  ∃ pages, Walk (fun cursor => (answers cursor).page) none pages ∧
    (pages.flatMap Page.items).Perm expected ∧ (pages.flatMap Page.items).Pairwise NotEarlier ∧
    ∀ cursor, (answers cursor).endorsementCount = (pages.flatMap Page.items).length

variable {texts : JsTexts} {sort : TimestampSort} {index : EndorsementIndex}
  {query : EndorsementQuery} {all : List StoredEndorsement} {now : ℕ}

/-! ### Cursors -/

theorem cursorOffset_offsetCursor (offset : ℕ) :
    cursorOffset (offsetCursor offset) = some offset := by
  have hdecimal : decimal (offset : ℤ) = Nat.toDigits 10 offset := rfl
  rw [cursorOffset, offsetCursor, String.toList_ofList,
    decodeBase64_encodeBase64Url (encodeUtf8_lt _), decode_encode, hdecimal, parseDecimal_toDigits]

theorem offsetCursor_ne (offset : ℕ) : offsetCursor offset ≠ "" := by
  intro h
  have hlist : encodeBase64Url (encodeUtf8 (decimal offset)) = [] := by
    rw [offsetCursor] at h
    exact String.ofList_injective h
  exact Nat.toDigits_ne_nil (encodeUtf8_eq_nil (encodeBase64Url_eq_nil hlist))

/-- **The offset of a cursor** is the one it was made of. -/
theorem offset_of_cursor (msg : TrustQueryMessage) (offset : ℕ) :
    TrustQueryMessage.offset { msg with cursor := some (offsetCursor offset) } = some offset := by
  show (if offsetCursor offset = "" then _ else _) = _
  rw [if_neg (offsetCursor_ne offset), cursorOffset_offsetCursor]

/-! ### Queries that return -/

theorem filterThrowing_eq {α : Type} {p : α → Option Bool} {l : List α}
    (h : ∀ a ∈ l, (p a).isSome = true) :
    filterThrowing p l = some (l.filter fun a => decide (p a = some true)) := by
  induction l with
  | nil => rfl
  | cons a rest ih =>
    obtain ⟨keep, hkeep⟩ := Option.isSome_iff_exists.mp (h a List.mem_cons_self)
    rw [filterThrowing, hkeep, ih fun b hb => h b (List.mem_cons_of_mem _ hb), List.filter_cons,
      hkeep]
    cases keep <;> rfl

theorem StoredEndorsement.Typed.isLive {e : StoredEndorsement} (h : e.Typed) (texts : JsTexts)
    (now : ℕ) : (e.isLive texts now).isSome = true := by
  rw [StoredEndorsement.isLive]
  split_ifs with htruthy
  · obtain ⟨x, hx⟩ := h.expires htruthy
    rw [hx]
    rfl
  · rfl

theorem StoredEndorsement.Typed.isSince {e : StoredEndorsement} (h : e.Typed) (texts : JsTexts)
    (since : JsNumber) : (e.isSince texts since).isSome = true := by
  obtain ⟨x, hx, _⟩ := h.timestamp
  rw [StoredEndorsement.isSince, hx]
  rfl

theorem filter_isOfDomain (domain : Option String) (l : List StoredEndorsement) :
    (match domain with
      | none => l
      | some domain => l.filter (StoredEndorsement.isOfDomain domain))
      = l.filter fun e => domain.all fun domain => e.isOfDomain domain := by
  cases domain with
  | none => exact (List.filter_eq_self.mpr fun e _ => rfl).symm
  | some domain => rfl

theorem filter_isSince (since : Option JsNumber) {l : List StoredEndorsement}
    (hl : ∀ e ∈ l, e.Typed) :
    (match since with
      | none => some l
      | some since => filterThrowing (StoredEndorsement.isSince texts since) l)
      = some (l.filter fun e =>
          since.all fun since => decide (e.isSince texts since = some true)) := by
  cases since with
  | none => exact congrArg some (List.filter_eq_self.mpr fun e _ => rfl).symm
  | some since => exact filterThrowing_eq fun e he => (hl e he).isSince texts since

/-- **What a query is about**, where the types are right. -/
theorem select_eq (htyped : ∀ e ∈ all, e.Typed) :
    query.select texts now all = some (all.filter (query.matches texts now)) := by
  set live : StoredEndorsement → Bool := fun e => decide (e.isLive texts now = some true) with hlive
  have hfilter : filterThrowing (StoredEndorsement.isLive texts now) all = some (all.filter live) :=
    filterThrowing_eq fun e he => (htyped e he).isLive texts now
  obtain ⟨target, domain, since, limit⟩ := query
  have hdomain := filter_isOfDomain domain (all.filter live)
  rw [EndorsementQuery.select, hfilter]
  refine (filter_isSince since fun e he => ?_).trans ?_
  · have hmem := List.mem_of_mem_filter ((congrArg (e ∈ ·) hdomain).mp he)
    exact htyped e (List.mem_of_mem_filter hmem)
  · refine congrArg some ((congrArg (List.filter _) hdomain).trans ?_)
    rw [List.filter_filter, List.filter_filter]
    refine List.filter_congr fun e _ => ?_
    rw [Bool.and_comm, Bool.and_comm (since.all _)]
    exact (Bool.and_assoc ..).symm

/-- The sum of numbers is a number. -/
theorem sumScores_typed (htyped : ∀ e ∈ all, e.Typed) (x : JsNumber) :
    ∃ y, sumScores texts (.number x) all = some (.number y) := by
  induction all generalizing x with
  | nil => exact ⟨x, rfl⟩
  | cons e rest ih =>
    obtain ⟨score, hscore⟩ := (htyped e List.mem_cons_self).score
    obtain ⟨y, hy⟩ := ih (fun e' he' => htyped e' (List.mem_cons_of_mem _ he')) (x.add score)
    refine ⟨y, ?_⟩
    rw [sumScores, hscore, ← hy]
    rfl

theorem averageScore_typed (htyped : ∀ e ∈ all, e.Typed) :
    ∃ x, averageScore texts all = some x := by
  rw [averageScore]
  split
  · obtain ⟨y, hy⟩ := @sumScores_typed texts all htyped (.finite 0)
    rw [hy]
    exact ⟨_, rfl⟩
  · exact ⟨_, rfl⟩

/-- **What the queries of a walk return**: parts of one list, which is what matches in order. -/
theorem query_typed (hsort : SortsTimestamps sort)
    (htyped : ∀ e ∈ index.ofTarget query.target, e.Typed) :
    ∃ (sorted : List StoredEndorsement) (average : JsNumber),
      sorted.Perm ((index.ofTarget query.target).filter (query.matches texts now)) ∧
      sorted.Pairwise NotEarlier ∧
      ∀ now', (∀ e ∈ index.ofTarget query.target, e.isLive texts now' = e.isLive texts now) →
        index.query texts sort query now'
          = some ⟨sorted.take query.limit, sorted.length, average⟩ := by
  have hmatches : ∀ e ∈ (index.ofTarget query.target).filter (query.matches texts now), e.Typed :=
    fun e he => htyped e (List.mem_of_mem_filter he)
  obtain ⟨sorted, hsorted, hpairwise⟩ := hsort _ hmatches
  have hperm := sort.perm hsorted
  obtain ⟨average, haverage⟩ :=
    @averageScore_typed texts sorted fun e he => hmatches e (hperm.mem_iff.mp he)
  have hlive (now' : ℕ)
      (h : ∀ e ∈ index.ofTarget query.target, e.isLive texts now' = e.isLive texts now) :
      (index.ofTarget query.target).filter (query.matches texts now')
        = (index.ofTarget query.target).filter (query.matches texts now) :=
    List.filter_congr fun e he => by
      rw [EndorsementQuery.matches, EndorsementQuery.matches, h e he]
  cases htarget : index.byTarget.get? (.primitive (.string query.target)) with
  | none =>
    refine ⟨[], .finite 0, ?_, List.Pairwise.nil, fun now' _ => ?_⟩
    · rw [EndorsementIndex.ofTarget, htarget]
      exact List.Perm.nil
    · rw [EndorsementIndex.query, htarget, List.take_nil]
      rfl
  | some targetMap =>
    have hvalues : index.ofTarget query.target = targetMap.values := by
      rw [EndorsementIndex.ofTarget, htarget]
    refine ⟨sorted, average, hperm, hpairwise, fun now' h => ?_⟩
    have hselect : query.select texts now' targetMap.values
        = some ((index.ofTarget query.target).filter (query.matches texts now)) := by
      rw [← hlive now' h, ← hvalues]
      exact select_eq htyped
    rw [EndorsementIndex.query, htarget]
    simp only [Option.bind_eq_bind, hselect, hsorted, haverage, Option.bind_some]

/-! ### Walks -/

/-- **The answers of a walk**, each at its own time. -/
theorem exists_answers (hsort : SortsTimestamps sort) (msg : TrustQueryMessage)
    (time : Option String → ℕ) (htyped : ∀ e ∈ index.ofTarget msg.target, e.Typed)
    (hlive : ∀ cursor, ∀ e ∈ index.ofTarget msg.target,
      e.isLive texts (time cursor) = e.isLive texts now) :
    ∃ (answers : Option String → TrustResultMessage) (sorted : List StoredEndorsement),
      (∀ cursor, buildTrustQueryResponse texts sort index { msg with cursor := cursor }
        (time cursor) = some (answers cursor)) ∧
      (∀ cursor, (answers cursor).endorsementCount = sorted.length) ∧
      sorted.Perm ((index.ofTarget msg.target).filter (msg.query.matches texts now)) ∧
      sorted.Pairwise NotEarlier ∧
      OffsetPaged (fun cursor => (answers cursor).page) (fun offset => offsetCursor offset)
        (sorted.take TRUST_QUERY_MATCHES) sorted.length TRUST_QUERY_PAGE_SIZE := by
  obtain ⟨sorted, average, hperm, hpairwise, hquery⟩ :=
    @query_typed texts sort index msg.query now hsort htyped
  have hoffset (msg : TrustQueryMessage) (offset : ℕ) (h : msg.offset = some offset) :
      offsetPage (sorted.take TRUST_QUERY_MATCHES) sorted.length msg.offset
        = ⟨((sorted.take TRUST_QUERY_MATCHES).drop offset).take TRUST_QUERY_PAGE_SIZE,
          if offset + TRUST_QUERY_PAGE_SIZE < sorted.length then
            some (offsetCursor (offset + TRUST_QUERY_PAGE_SIZE : ℕ))
          else none⟩ := by
    rw [h]
    show Page.mk (jsSlice _ (offset : ℤ) ((offset + TRUST_QUERY_PAGE_SIZE : ℕ) : ℤ)) _ = _
    rw [jsSlice_nat]
    refine congrArg (Page.mk _) ?_
    show (if ((offset + TRUST_QUERY_PAGE_SIZE : ℕ) : ℤ) < _ then _ else _) = _
    split_ifs with hint hnat hnat
    · rfl
    · exact absurd (Nat.cast_lt.mp hint) hnat
    · exact absurd (Nat.cast_lt.mpr hnat) hint
    · rfl
  refine ⟨fun cursor =>
      let page := offsetPage (sorted.take TRUST_QUERY_MATCHES) sorted.length
        (TrustQueryMessage.offset { msg with cursor := cursor })
      ⟨msg.target, page.items, sorted.length, average, page.cursor⟩,
    sorted, fun cursor => ?_, fun cursor => rfl, hperm, hpairwise, ?_, fun offset => ?_⟩
  · rw [buildTrustQueryResponse]
    show Option.map _ (index.query texts sort msg.query (time cursor)) = _
    rw [hquery (time cursor) (hlive cursor)]
    rfl
  · exact (hoffset { msg with cursor := none } 0 rfl).trans (by rw [List.drop_zero, Nat.zero_add])
  · exact hoffset _ offset (offset_of_cursor msg offset)

/-- **A walk over the first ten thousand** is complete exactly when there are no more. -/
theorem complete_iff {answers : Option String → TrustResultMessage}
    {sorted expected : List StoredEndorsement}
    (hcount : ∀ cursor, (answers cursor).endorsementCount = sorted.length)
    (hperm : sorted.Perm expected) (hpairwise : sorted.Pairwise NotEarlier)
    (hpaged : OffsetPaged (fun cursor => (answers cursor).page) (fun offset => offsetCursor offset)
      (sorted.take TRUST_QUERY_MATCHES) sorted.length TRUST_QUERY_PAGE_SIZE) :
    WalkComplete answers expected ↔ expected.length ≤ 10000 := by
  obtain ⟨pages, hwalk, hpages⟩ := hpaged.walk (by decide) (List.length_take_le' ..)
  constructor
  · rintro ⟨pages', hwalk', hperm', _⟩
    rw [hwalk.unique hwalk'] at hpages
    rw [← hperm'.length_eq, hpages]
    exact List.length_take_le ..
  · intro hlength
    rw [← hperm.length_eq] at hlength
    rw [TRUST_QUERY_MATCHES, List.take_of_length_le hlength] at hpages
    refine ⟨pages, hwalk, ?_, ?_, fun cursor => ?_⟩
    · rw [hpages]
      exact hperm
    · rw [hpages]
      exact hpairwise
    · rw [hpages, hcount]

/-- **The walk is complete exactly when no more than ten thousand match**, for every index, target,
domain and time of the oldest one. -/
theorem trust_walk_iff (hsort : SortsTimestamps sort) (msg : TrustQueryMessage)
    (time : Option String → ℕ) (htyped : ∀ e ∈ index.ofTarget msg.target, e.Typed)
    (hlive : ∀ cursor, ∀ e ∈ index.ofTarget msg.target,
      e.isLive texts (time cursor) = e.isLive texts now) :
    ∃ answers : Option String → TrustResultMessage,
      (∀ cursor, buildTrustQueryResponse texts sort index { msg with cursor := cursor }
        (time cursor) = some (answers cursor)) ∧
      (WalkComplete answers
          ((index.ofTarget msg.target).filter (msg.query.matches texts now)) ↔
        ((index.ofTarget msg.target).filter (msg.query.matches texts now)).length ≤ 10000) := by
  obtain ⟨answers, sorted, hanswers, hcount, hperm, hpairwise, hpaged⟩ :=
    exists_answers hsort msg time htyped hlive
  exact ⟨answers, hanswers, complete_iff hcount hperm hpairwise hpaged⟩

/-! ### An engine that sorts -/

/-- A place in the order of numbers. -/
def rank : JsNumber → WithBot (WithTop ℚ)
  | .nan => ⊥
  | .infinity true => ⊥
  | .infinity false => ((⊤ : WithTop ℚ) : WithBot (WithTop ℚ))
  | .finite q => ((q : WithTop ℚ) : WithBot (WithTop ℚ))

theorem rank_lt {x y : JsNumber} (h : x.lt y = true) : rank x < rank y := by
  cases x with
  | nan => cases h
  | infinity left =>
    cases y with
    | nan => cases left <;> cases h
    | infinity right =>
      cases left with
      | false => cases h
      | true =>
        cases right with
        | true => cases h
        | false => exact WithBot.bot_lt_coe _
    | finite q =>
      cases left with
      | false => cases h
      | true => exact WithBot.bot_lt_coe _
  | finite p =>
    cases y with
    | nan => cases h
    | infinity right =>
      cases right with
      | true => cases h
      | false => exact WithBot.coe_lt_coe.mpr (WithTop.coe_lt_top p)
    | finite q =>
      exact WithBot.coe_lt_coe.mpr (WithTop.coe_lt_coe.mpr (of_decide_eq_true h))

/-- The timestamp, where it is a number. -/
def StoredEndorsement.time (e : StoredEndorsement) : JsNumber :=
  match e.timestamp with
  | .primitive (.number x) => x
  | _ => .nan

open Classical in
/-- A sort by timestamp. -/
noncomputable def newestFirst : TimestampSort where
  sort all := some (all.mergeSort fun e e' => decide (rank e'.time ≤ rank e.time))
  perm h := by
    rw [← Option.some.inj h]
    exact List.mergeSort_perm _ _

theorem newestFirst_sorts : SortsTimestamps newestFirst := by
  intro all htyped
  refine ⟨_, rfl, ?_⟩
  have hsorted := @List.pairwise_mergeSort StoredEndorsement
    (fun e e' => decide (rank e'.time ≤ rank e.time))
    (fun a b c hab hbc => by
      rw [decide_eq_true_eq] at hab hbc ⊢
      exact hbc.trans hab)
    (fun a b => by
      rw [Bool.or_eq_true, decide_eq_true_eq, decide_eq_true_eq]
      exact le_total _ _) all
  refine hsorted.imp fun {e e'} h x x' hx hx' => ?_
  have htime : e.time = x := by rw [StoredEndorsement.time, hx]; rfl
  have htime' : e'.time = x' := by rw [StoredEndorsement.time, hx']; rfl
  rw [decide_eq_true_eq, htime, htime'] at h
  cases hlt : x.lt x' with
  | false => rfl
  | true => exact absurd (rank_lt hlt) (not_lt.mpr h)

/-- A walk over one endorsement. -/
theorem trust_walk_sample :
    ∃ answers : Option String → TrustResultMessage,
      (∀ cursor, buildTrustQueryResponse sampleServices.texts newestFirst
        (sampleIndex (.finite (1 / 2))) ⟨"did:agent:zBob", none, none, cursor⟩ 3000
          = some (answers cursor)) ∧
      WalkComplete answers [storedSample (.finite (1 / 2))] := by
  obtain ⟨answers, hanswers, hcomplete⟩ := @trust_walk_iff sampleServices.texts newestFirst
    (sampleIndex (.finite (1 / 2))) 3000 newestFirst_sorts ⟨"did:agent:zBob", none, none, none⟩
    (fun _ => 3000) (fun e he => by
      rw [List.mem_singleton.mp (show e ∈ [storedSample (.finite (1 / 2))] from he)]
      exact ⟨⟨_, rfl, nofun⟩, ⟨_, rfl⟩, nofun⟩) (fun _ _ _ => rfl)
  exact ⟨answers, hanswers, hcomplete.mpr (show (1 : ℕ) ≤ 10000 by omega)⟩

/-! ### Ten thousand and one endorsements -/

def crowdKey (i : ℕ) : String := toString i ++ ":*"

def crowdEndorsement (i : ℕ) : StoredEndorsement :=
  { storedSample (.finite (1 / 2)) with sender := .string (toString i), id := toString i }

theorem crowdKey_injective : Function.Injective crowdKey := by
  intro i j h
  have hlist := congrArg String.toList h
  rw [crowdKey, crowdKey, String.toList_append, String.toList_append] at hlist
  have hdigits := List.append_cancel_right hlist
  have hparsed := congrArg (fun digits => Nat.ofDigitChars 10 digits 0) hdigits
  simpa using hparsed

/-- The endorsements of Bob by so many agents. -/
def crowdMap (count : ℕ) : Record String StoredEndorsement where
  entries := (List.range count).map fun i => (crowdKey i, crowdEndorsement i)
  nodupKeys := by
    rw [List.map_map]
    exact List.nodup_range.map crowdKey_injective

def crowdedIndex (count : ℕ) : EndorsementIndex where
  byTarget := Record.single (.primitive (.string "did:agent:zBob")) (crowdMap count)
  byId := .empty

theorem ofTarget_crowdedIndex (count : ℕ) :
    (crowdedIndex count).ofTarget "did:agent:zBob" = (List.range count).map crowdEndorsement := by
  show (crowdMap count).values = _
  rw [Record.values, crowdMap, List.map_map]
  rfl

/-- The answers about a crowd count it, and are complete up to ten thousand. -/
theorem crowd_answers (count : ℕ) :
    ∃ answers : Option String → TrustResultMessage,
      (∀ cursor, buildTrustQueryResponse sampleServices.texts newestFirst (crowdedIndex count)
        ⟨"did:agent:zBob", none, none, cursor⟩ 3000 = some (answers cursor)) ∧
      (∀ cursor, (answers cursor).endorsementCount = count) ∧
      (WalkComplete answers ((List.range count).map crowdEndorsement) ↔ count ≤ 10000) := by
  have htyped : ∀ e ∈ (crowdedIndex count).ofTarget "did:agent:zBob", e.Typed := by
    intro e he
    rw [ofTarget_crowdedIndex] at he
    obtain ⟨i, _, rfl⟩ := List.mem_map.mp he
    exact ⟨⟨_, rfl, nofun⟩, ⟨_, rfl⟩, nofun⟩
  obtain ⟨answers, sorted, hanswers, hcount, hperm, hpairwise, hpaged⟩ :=
    @exists_answers sampleServices.texts newestFirst (crowdedIndex count) 3000 newestFirst_sorts
      ⟨"did:agent:zBob", none, none, none⟩ (fun _ => 3000) htyped fun _ _ _ => rfl
  have hmatches : ((crowdedIndex count).ofTarget "did:agent:zBob").filter
      (EndorsementQuery.matches sampleServices.texts
        (TrustQueryMessage.query ⟨"did:agent:zBob", none, none, none⟩) 3000)
      = (List.range count).map crowdEndorsement := by
    rw [ofTarget_crowdedIndex]
    refine List.filter_eq_self.mpr fun e he => ?_
    obtain ⟨i, _, rfl⟩ := List.mem_map.mp he
    rfl
  rw [hmatches] at hperm
  have hlength : ((List.range count).map crowdEndorsement).length = count := by
    rw [List.length_map, List.length_range]
  refine ⟨answers, hanswers, fun cursor => ?_, ?_⟩
  · rw [hcount, hperm.length_eq, hlength]
  · rw [complete_iff hcount hperm hpairwise hpaged, hlength]

/-- **Ten thousand and one endorsements are counted, and one of them is on no page.** -/
theorem crowd_cut :
    ∃ answers : Option String → TrustResultMessage,
      (∀ cursor, buildTrustQueryResponse sampleServices.texts newestFirst (crowdedIndex 10001)
        ⟨"did:agent:zBob", none, none, cursor⟩ 3000 = some (answers cursor)) ∧
      (∀ cursor, (answers cursor).endorsementCount = 10001) ∧
      ¬WalkComplete answers ((List.range 10001).map crowdEndorsement) := by
  obtain ⟨answers, hanswers, hcount, hcomplete⟩ := crowd_answers 10001
  refine ⟨answers, hanswers, hcount, fun h => ?_⟩
  have hle := hcomplete.mp h
  omega

end QuadraA.Relay
