import Mathlib.Data.List.Infix
import QuadraA.Lib.TopRanked
import QuadraA.Messaging.ThreadIndex

/-!
# Listing and searching sessions

`listSessions` and `searchSessions` of `messaging/storage.ts`: a scan of the keys of the sessions,
in their order, then a sort by the last message and a cut.

* `sessions_complete_iff` — the results are the most recent of all exactly when what the scan missed
  is ranked behind as many as the limit;
* `session_beyond_range` — a session whose thread begins with a letter from `U+00FF` on.

Lower case depends on the tables of Unicode and is a parameter.
-/

namespace QuadraA.Messaging

open QuadraA.Lib

structure Session where
  peerDid : String
  threadId : String
  messageCount : ℕ
  lastMessageAt : ℕ
  startedAt : Option ℕ
  title : Option String
  archived : Bool
  archivedAt : Option ℕ
deriving DecidableEq

/-- **The sessions of a message store**, each under the key of its thread; those of `MessageDb`
leave out what is displayed. -/
structure SessionDb where
  messages : MessageDb
  sessions : Record String Session
  keyed : ∀ key session, sessions.get? key = some session → key = sessionKey session.threadId

/-- `compareSessionsByLastMessageAt`: the later one first. -/
def compareSessionsByLastMessageAt (collation : Collation) (left right : Session) : Ordering :=
  (compare right.lastMessageAt left.lastMessageAt).then
    (collation.localeCompare left.threadId right.threadId)

def sessionLe (collation : Collation) (left right : Session) : Bool :=
  (compareSessionsByLastMessageAt collation left right).isLE

/-- The values from `session:` to `session:\xff`, in the order of their keys. -/
def SessionDb.scan (db : SessionDb) : List Session :=
  (db.sessions.range "session:" ("session:" ++ String.singleton RANGE_END)).map Prod.snd

/-! ### Listing -/

/-- The filters of `listSessions`; an empty DID filters nothing. -/
def passesFilters (peerDid : Option String) (includeArchived : Bool) (value : Session) : Bool :=
  peerDid.all (fun did => decide (did = "") || decide (value.peerDid = did))
    && (includeArchived || !value.archived)

def SessionDb.listSessions (collation : Collation) (db : SessionDb) (peerDid : Option String)
    (limit : ℕ) (includeArchived : Bool) : List Session :=
  ((db.scan.filter (passesFilters peerDid includeArchived)).mergeSort (sessionLe collation)).take
    limit

/-! ### Searching -/

/-- A value that is truthy. -/
def JsonValue.truthy : JsonValue → Bool
  | .null => false
  | .bool value => value
  | .number value => decide (value ≠ 0)
  | .string value => decide (value ≠ "")
  | .array _ => true
  | .object _ => true

mutual

/-- `String(value)`. -/
def JsonValue.toText : JsonValue → String
  | .null => "null"
  | .bool value => if value then "true" else "false"
  | .number value => toString value
  | .string value => value
  | .array items => String.intercalate "," (JsonValue.itemTexts items)
  | .object _ => "[object Object]"

/-- The texts of items that are joined; `null` has none. -/
def JsonValue.itemTexts : List JsonValue → List String
  | [] => []
  | .null :: items => "" :: JsonValue.itemTexts items
  | item :: items => item.toText :: JsonValue.itemTexts items

end

/-- `text.includes(part)`. -/
def includes (text part : String) : Bool := decide (part.toList <:+: text.toList)

variable (toLowerCase : String → String)

/-- `payload?.text || payload?.message || ''` has the query. -/
def messageMatches (lowerQuery : String) (message : NormalizedMessage) : Bool :=
  let payload := message.envelope.payload
  match (payload.property "text").filter JsonValue.truthy
      <|> (payload.property "message").filter JsonValue.truthy with
  | some text => includes (toLowerCase text.toText) lowerQuery
  | none => false

def titleMatches (lowerQuery : String) (value : Session) : Bool :=
  value.title.any fun title => decide (title ≠ "") && includes (toLowerCase title) lowerQuery

def peerMatches (lowerQuery : String) (value : Session) : Bool :=
  decide (value.peerDid ≠ "") && includes (toLowerCase value.peerDid) lowerQuery

/-- A match among the first hundred messages that are listed of the thread. -/
def threadMatches (collation : Collation) (messages : MessageDb) (lowerQuery : String)
    (value : Session) : Bool :=
  (messages.queryMessagesByThread collation value.threadId 100 0).messages.any
    (messageMatches toLowerCase lowerQuery)

/-- **The loop**: a match of the title or the peer ends it at the limit, one in a message does
not. -/
def searchLoop (collation : Collation) (messages : MessageDb) (lowerQuery : String) (limit : ℕ) :
    List Session → List Session → List Session
  | results, [] => results
  | results, value :: rest =>
      if titleMatches toLowerCase lowerQuery value then
        if limit ≤ (results ++ [value]).length then results ++ [value]
        else searchLoop collation messages lowerQuery limit (results ++ [value]) rest
      else if peerMatches toLowerCase lowerQuery value then
        if limit ≤ (results ++ [value]).length then results ++ [value]
        else searchLoop collation messages lowerQuery limit (results ++ [value]) rest
      else if threadMatches toLowerCase collation messages lowerQuery value then
        -- both breaks leave the loop over the messages only
        searchLoop collation messages lowerQuery limit (results ++ [value]) rest
      else searchLoop collation messages lowerQuery limit results rest

def SessionDb.searchSessions (collation : Collation) (db : SessionDb) (query : String)
    (limit : ℕ) : List Session :=
  ((searchLoop toLowerCase collation db.messages (toLowerCase query) limit [] db.scan).mergeSort
    (sessionLe collation)).take limit

/-! ### What is asked for -/

/-- All sessions that are stored. -/
def SessionDb.stored (db : SessionDb) : List Session := db.sessions.values

/-- **A session that matches** in its title, its peer or some message of its thread. -/
def matchesQuery (messages : MessageDb) (lowerQuery : String) (value : Session) : Bool :=
  titleMatches toLowerCase lowerQuery value || peerMatches toLowerCase lowerQuery value
    || (messages.storedThread value.threadId).any (messageMatches toLowerCase lowerQuery)

/-! ### What the scan finds -/

/-- The key is in the range that is scanned. -/
def inScan (value : Session) : Bool :=
  decide ("session:" ≤ sessionKey value.threadId
    ∧ sessionKey value.threadId ≤ "session:" ++ String.singleton RANGE_END)

/-- A match that ends the loop at the limit. -/
def directMatches (lowerQuery : String) (value : Session) : Bool :=
  titleMatches toLowerCase lowerQuery value || peerMatches toLowerCase lowerQuery value

/-- A match that the loop sees. -/
def seenMatches (collation : Collation) (messages : MessageDb) (lowerQuery : String)
    (value : Session) : Bool :=
  directMatches toLowerCase lowerQuery value
    || threadMatches toLowerCase collation messages lowerQuery value

/-- **A session that the loop comes to**: no direct match with a smaller key is the last that the
limit leaves room for. -/
def reached (collation : Collation) (db : SessionDb) (lowerQuery : String) (limit : ℕ)
    (value : Session) : Bool :=
  db.stored.all fun earlier => !(inScan earlier && directMatches toLowerCase lowerQuery earlier
    && decide (sessionKey earlier.threadId < sessionKey value.threadId)
    && decide (limit ≤ db.stored.countP fun other => inScan other
      && seenMatches toLowerCase collation db.messages lowerQuery other
      && decide (sessionKey other.threadId ≤ sessionKey earlier.threadId)))

/-- **A session that is found.** -/
def found (collation : Collation) (db : SessionDb) (lowerQuery : String) (limit : ℕ)
    (value : Session) : Bool :=
  inScan value && seenMatches toLowerCase collation db.messages lowerQuery value
    && reached toLowerCase collation db lowerQuery limit value

/-- The order of the results: by rank, and by the key among those of one rank. -/
def sessionBefore (collation : Collation) (left right : Session) : Bool :=
  sessionLe collation left right &&
    (!sessionLe collation right left
      || decide (sessionKey left.threadId < sessionKey right.threadId))

/-! ### The scan -/

section Scan

variable {db : SessionDb} {value other : Session}

theorem SessionDb.mem_stored : value ∈ db.stored ↔
    db.sessions.get? (sessionKey value.threadId) = some value := by
  rw [stored, Record.mem_values_iff]
  constructor
  · rintro ⟨key, hget⟩
    rw [← db.keyed key value hget]
    exact hget
  · exact fun hget => ⟨_, hget⟩

theorem SessionDb.mem_scan : value ∈ db.scan ↔ value ∈ db.stored ∧ inScan value = true := by
  rw [scan, List.mem_map, mem_stored, inScan, decide_eq_true_eq]
  constructor
  · rintro ⟨⟨key, session⟩, hrange, rfl⟩
    obtain ⟨hget, hbetween⟩ := Record.mem_range.mp hrange
    obtain rfl := db.keyed key session hget
    exact ⟨hget, hbetween⟩
  · rintro ⟨hget, hbetween⟩
    exact ⟨(sessionKey value.threadId, value), Record.mem_range.mpr ⟨hget, hbetween⟩, rfl⟩

/-- The scan goes up the keys. -/
theorem SessionDb.pairwise_scan (db : SessionDb) :
    db.scan.Pairwise fun left right => sessionKey left.threadId < sessionKey right.threadId := by
  rw [scan, List.pairwise_map]
  have hpairwise := (Record.pairwise_range db.sessions "session:"
    ("session:" ++ String.singleton RANGE_END)).and
      (List.pairwise_map.mp (Record.nodup_keys_range db.sessions "session:"
        ("session:" ++ String.singleton RANGE_END)))
  refine hpairwise.imp_of_mem fun {e e'} he he' hkeys => ?_
  rw [← db.keyed e.1 e.2 (Record.mem_range.mp he).1,
    ← db.keyed e'.1 e'.2 (Record.mem_range.mp he').1]
  exact lt_of_le_of_ne hkeys.1 hkeys.2

theorem SessionDb.nodup_scan (db : SessionDb) : db.scan.Nodup :=
  db.pairwise_scan.imp fun hlt heq => absurd hlt (by rw [heq]; exact lt_irrefl _)

theorem SessionDb.nodup_stored (db : SessionDb) : db.stored.Nodup := by
  have hkeys := db.sessions.nodupKeys
  have hmap : db.sessions.entries.map Prod.fst
      = db.stored.map fun session => sessionKey session.threadId := by
    rw [stored, Record.values, List.map_map]
    refine List.map_congr_left fun e he => ?_
    exact db.keyed e.1 e.2 ((Record.get?_eq_some_iff _ _ _).mpr he)
  rw [hmap] at hkeys
  exact List.Nodup.of_map _ hkeys

theorem SessionDb.perm_scan (db : SessionDb) : db.scan.Perm (db.stored.filter inScan) :=
  (List.perm_ext_iff_of_nodup db.nodup_scan (db.nodup_stored.filter _)).mpr fun value => by
    rw [mem_scan, List.mem_filter]

end Scan

/-! ### The loop -/

section Loop

variable (collation : Collation) (messages : MessageDb) (lowerQuery : String) (limit : ℕ)

/-- How many results a session adds. -/
def resultCount (value : Session) : ℕ :=
  if seenMatches toLowerCase collation messages lowerQuery value then 1 else 0

/-- The sessions that the loop comes to, with so many results before them. -/
def visited : ℕ → List Session → List Session
  | _, [] => []
  | count, value :: rest =>
      let next := count + resultCount toLowerCase collation messages lowerQuery value
      if directMatches toLowerCase lowerQuery value && decide (limit ≤ next) then [value]
      else value :: visited next rest

/-- One session of the loop. -/
theorem searchLoop_cons (results rest : List Session) (value : Session) :
    searchLoop toLowerCase collation messages lowerQuery limit results (value :: rest)
      = if directMatches toLowerCase lowerQuery value then
          if limit ≤ results.length + 1 then results ++ [value]
          else searchLoop toLowerCase collation messages lowerQuery limit (results ++ [value]) rest
        else if seenMatches toLowerCase collation messages lowerQuery value then
          searchLoop toLowerCase collation messages lowerQuery limit (results ++ [value]) rest
        else searchLoop toLowerCase collation messages lowerQuery limit results rest := by
  rw [searchLoop, List.length_append, List.length_singleton, seenMatches, directMatches]
  cases titleMatches toLowerCase lowerQuery value <;>
    cases peerMatches toLowerCase lowerQuery value <;> rfl

/-- **The loop** adds the matches among the sessions that it comes to. -/
theorem searchLoop_eq (results rest : List Session) :
    searchLoop toLowerCase collation messages lowerQuery limit results rest = results
      ++ (visited toLowerCase collation messages lowerQuery limit results.length rest).filter
        (seenMatches toLowerCase collation messages lowerQuery) := by
  induction rest generalizing results with
  | nil => rw [searchLoop, visited, List.filter_nil, List.append_nil]
  | cons value rest ih =>
    have hlength : (results ++ [value]).length = results.length + 1 := by
      rw [List.length_append, List.length_singleton]
    rw [searchLoop_cons, visited, resultCount]
    cases hdirect : directMatches toLowerCase lowerQuery value with
    | true =>
      have hseen : seenMatches toLowerCase collation messages lowerQuery value = true := by
        rw [seenMatches, hdirect, Bool.true_or]
      rw [if_pos rfl, hseen, if_pos rfl, Bool.true_and]
      by_cases hlimit : limit ≤ results.length + 1
      · rw [if_pos hlimit, if_pos (decide_eq_true hlimit), List.filter_cons_of_pos hseen,
          List.filter_nil]
      · rw [if_neg hlimit, if_neg (by simpa using hlimit), ih, hlength,
          List.filter_cons_of_pos hseen, List.append_assoc, List.singleton_append]
    | false =>
      rw [if_neg Bool.false_ne_true, Bool.false_and, if_neg Bool.false_ne_true]
      cases hseen : seenMatches toLowerCase collation messages lowerQuery value with
      | true =>
        rw [if_pos rfl, if_pos rfl, ih, hlength, List.filter_cons_of_pos hseen, List.append_assoc,
          List.singleton_append]
      | false =>
        rw [if_neg Bool.false_ne_true, if_neg Bool.false_ne_true, Nat.add_zero, ih,
          List.filter_cons_of_neg (by rw [hseen]; exact Bool.false_ne_true)]

theorem visited_sublist (count : ℕ) (rest : List Session) :
    (visited toLowerCase collation messages lowerQuery limit count rest).Sublist rest := by
  induction rest generalizing count with
  | nil => exact List.Sublist.slnil
  | cons value rest ih =>
    rw [visited]
    split
    · exact (List.nil_sublist rest).cons_cons value
    · exact (ih _).cons_cons value

/-- **The loop comes to a session** unless one before it filled the limit. -/
theorem mem_visited_iff {rest : List Session} (count : ℕ)
    (hkeys : rest.Pairwise fun left right => sessionKey left.threadId < sessionKey right.threadId)
    {value : Session} :
    value ∈ visited toLowerCase collation messages lowerQuery limit count rest ↔
      value ∈ rest ∧ ∀ earlier ∈ rest, directMatches toLowerCase lowerQuery earlier = true →
        sessionKey earlier.threadId < sessionKey value.threadId →
        count + rest.countP (fun other =>
          seenMatches toLowerCase collation messages lowerQuery other
            && decide (sessionKey other.threadId ≤ sessionKey earlier.threadId)) < limit := by
  induction rest generalizing count with
  | nil => simp [visited]
  | cons first rest ih =>
    have hfirst {other : Session} (hother : other ∈ rest) :
        sessionKey first.threadId < sessionKey other.threadId :=
      List.rel_of_pairwise_cons hkeys hother
    -- up to the first key, there is the first session only
    have hnone : rest.countP (fun other =>
        seenMatches toLowerCase collation messages lowerQuery other
          && decide (sessionKey other.threadId ≤ sessionKey first.threadId)) = 0 := by
      refine List.countP_eq_zero.mpr fun other hother hcounted => ?_
      rw [Bool.and_eq_true, decide_eq_true_eq] at hcounted
      exact absurd hcounted.2 (not_le.mpr (hfirst hother))
    have hcount : (first :: rest).countP (fun other =>
        seenMatches toLowerCase collation messages lowerQuery other
          && decide (sessionKey other.threadId ≤ sessionKey first.threadId))
        = resultCount toLowerCase collation messages lowerQuery first := by
      rw [List.countP_cons, hnone, Nat.zero_add, decide_eq_true le_rfl, Bool.and_true]
      rfl
    -- up to a later key, the first session and those of the rest
    have hrest {earlier : Session} (hearlier : earlier ∈ rest) :
        (first :: rest).countP (fun other =>
          seenMatches toLowerCase collation messages lowerQuery other
            && decide (sessionKey other.threadId ≤ sessionKey earlier.threadId))
        = rest.countP (fun other => seenMatches toLowerCase collation messages lowerQuery other
          && decide (sessionKey other.threadId ≤ sessionKey earlier.threadId))
          + resultCount toLowerCase collation messages lowerQuery first := by
      rw [List.countP_cons, decide_eq_true (hfirst hearlier).le, Bool.and_true]
      rfl
    rw [visited]
    cases hstop : directMatches toLowerCase lowerQuery first
        && decide (limit ≤ count + resultCount toLowerCase collation messages lowerQuery first) with
    | true =>
      obtain ⟨hdirect, hlimit⟩ := Bool.and_eq_true_iff.mp hstop
      have hlimit := of_decide_eq_true hlimit
      rw [if_pos rfl, List.mem_singleton]
      constructor
      · rintro rfl
        refine ⟨List.mem_cons_self .., fun earlier hearlier _ hlt => ?_⟩
        rcases List.mem_cons.mp hearlier with rfl | hearlier
        · exact absurd hlt (lt_irrefl _)
        · exact absurd hlt (not_lt.mpr (hfirst hearlier).le)
      · rintro ⟨hmem, hbefore⟩
        rcases List.mem_cons.mp hmem with rfl | hmem
        · rfl
        · have hroom := hbefore first (List.mem_cons_self ..) hdirect (hfirst hmem)
          rw [hcount] at hroom
          omega
    | false =>
      rw [if_neg Bool.false_ne_true, List.mem_cons, List.mem_cons,
        ih _ (List.Pairwise.of_cons hkeys)]
      constructor
      · rintro (rfl | ⟨hmem, hbefore⟩)
        · refine ⟨Or.inl rfl, fun earlier hearlier _ hlt => ?_⟩
          rcases List.mem_cons.mp hearlier with rfl | hearlier
          · exact absurd hlt (lt_irrefl _)
          · exact absurd hlt (not_lt.mpr (hfirst hearlier).le)
        · refine ⟨Or.inr hmem, fun earlier hearlier hdirect hlt => ?_⟩
          rcases List.mem_cons.mp hearlier with rfl | hearlier
          · rw [hdirect, Bool.true_and, decide_eq_false_iff_not] at hstop
            rw [hcount]
            omega
          · have hroom := hbefore earlier hearlier hdirect hlt
            rw [hrest hearlier]
            omega
      · rintro ⟨rfl | hmem, hbefore⟩
        · exact Or.inl rfl
        · refine Or.inr ⟨hmem, fun earlier hearlier hdirect hlt => ?_⟩
          have hroom := hbefore earlier (List.mem_cons_of_mem _ hearlier) hdirect hlt
          rw [hrest hearlier] at hroom
          omega

end Loop

/-! ### The results -/

section Results

variable {collation : Collation} {db : SessionDb} {lowerQuery : String} {limit : ℕ}

theorem transCmp_compareSessions (collation : Collation) :
    Std.TransCmp (compareSessionsByLastMessageAt collation) := by
  have htime : Std.TransCmp fun left right : Session =>
      compare right.lastMessageAt left.lastMessageAt :=
    { eq_swap := fun {a b} =>
        @Std.OrientedCmp.eq_swap ℕ compare _ b.lastMessageAt a.lastMessageAt
      isLE_trans := fun hab hbc => @Std.TransCmp.isLE_trans ℕ compare _ _ _ _ hbc hab }
  have hthread : Std.TransCmp fun left right : Session =>
      collation.localeCompare left.threadId right.threadId :=
    transCmp_comap Session.threadId collation.lawful
  have hboth : Std.TransCmp (compareLex (fun left right : Session =>
      compare right.lastMessageAt left.lastMessageAt) fun left right : Session =>
        collation.localeCompare left.threadId right.threadId) := inferInstance
  exact hboth

theorem sessionLe_trans (collation : Collation) (a b c : Session)
    (hab : sessionLe collation a b = true) (hbc : sessionLe collation b c = true) :
    sessionLe collation a c = true :=
  (transCmp_compareSessions collation).isLE_trans hab hbc

theorem sessionLe_total (collation : Collation) (a b : Session) :
    (sessionLe collation a b || sessionLe collation b a) = true := by
  rw [sessionLe, sessionLe, (transCmp_compareSessions collation).eq_swap (a := a)]
  cases compareSessionsByLastMessageAt collation b a <;> rfl

theorem sessionBefore_asymm (a b : Session) (h : sessionBefore collation a b = true) :
    sessionBefore collation b a = false := by
  rw [sessionBefore, Bool.and_eq_true, Bool.or_eq_true, Bool.not_eq_true', decide_eq_true_eq] at h
  rw [sessionBefore, h.1]
  rcases h.2 with hnot | hlt
  · rw [hnot, Bool.false_and]
  · rw [decide_eq_false (not_lt.mpr hlt.le)]
    exact Bool.and_false _

/-- **The results** of a scan that are ranked. -/
theorem pairwise_ranked {scanned : List Session} (h : scanned.Sublist db.scan) :
    (scanned.mergeSort (sessionLe collation)).Pairwise fun a b =>
      sessionLe collation a b = true ∧ sessionBefore collation a b = true := by
  refine (pairwise_stable (sessionLe_trans collation) (sessionLe_total collation)
    (db.nodup_scan.sublist h) (db.pairwise_scan.sublist h)).imp fun {a b} ⟨hle, htie⟩ => ⟨hle, ?_⟩
  rw [sessionBefore, hle, Bool.true_and, Bool.or_eq_true, Bool.not_eq_true', decide_eq_true_eq]
  cases hback : sessionLe collation b a with
  | true => exact Or.inr (htie hback)
  | false => exact Or.inl rfl

/-- The first of some sessions are the first of all. -/
theorem topOf_scanned_iff {scanned : List Session} {among wanted : Session → Bool}
    (hsub : scanned.Sublist db.scan) (hperm : scanned.Perm (db.stored.filter among)) :
    TopOf (sessionLe collation) limit (db.stored.filter wanted)
        ((scanned.mergeSort (sessionLe collation)).take limit) ↔
      (∀ value ∈ db.stored, wanted value = true → among value = false →
        limit ≤ db.stored.countP fun other => among other && sessionLe collation other value) ∧
      ∀ value ∈ db.stored, among value = true → wanted value = false →
        limit ≤ db.stored.countP fun other =>
          among other && sessionBefore collation other value := by
  have hranked : (scanned.mergeSort (sessionLe collation)).Pairwise fun a b =>
      sessionLe collation a b = true ∧ sessionBefore collation a b = true :=
    pairwise_ranked hsub
  have hperm := (List.mergeSort_perm scanned (sessionLe collation)).trans hperm
  have hcount (p : Session → Bool) : (scanned.mergeSort (sessionLe collation)).countP p
      = db.stored.countP fun other => among other && p other := by
    rw [hperm.countP_eq, List.countP_filter]
    exact List.countP_congr fun other _ => by rw [Bool.and_comm]
  rw [topOf_take_iff (sessionLe_trans collation) (sessionLe_total collation)
    (hranked.imp fun h => h.1) (hperm.nodup_iff.mpr (db.nodup_stored.filter _))
    (db.nodup_stored.filter _), and_comm]
  refine and_congr (forall_congr' fun value => ?_) (forall_congr' fun value => ?_)
  · rw [hperm.mem_iff, List.mem_filter, List.mem_filter, hcount]
    constructor
    · intro h hstored hwanted hnot
      refine h ⟨hstored, hwanted⟩ fun hamong => ?_
      rw [hnot] at hamong
      exact Bool.false_ne_true hamong.2
    · intro h hwanted hnot
      refine h hwanted.1 hwanted.2 ?_
      rw [← Bool.not_eq_true]
      exact fun hamong => hnot ⟨hwanted.1, hamong⟩
  · constructor
    · intro h hstored hamong hnot
      have hmem : value ∈ scanned.mergeSort (sessionLe collation) :=
        hperm.mem_iff.mpr (List.mem_filter.mpr ⟨hstored, hamong⟩)
      rw [← hcount, ← not_mem_take_iff (hranked.imp fun h => h.2) sessionBefore_asymm hmem]
      refine h hmem fun hwanted => ?_
      rw [(List.mem_filter.mp hwanted).2] at hnot
      cases hnot
    · intro h hmem hnot
      obtain ⟨hstored, hamong⟩ := List.mem_filter.mp (hperm.mem_iff.mp hmem)
      rw [not_mem_take_iff (hranked.imp fun h => h.2) sessionBefore_asymm hmem, hcount]
      refine h hstored hamong ?_
      rw [← Bool.not_eq_true]
      exact fun hwanted => hnot (List.mem_filter.mpr ⟨hstored, hwanted⟩)

/-- **What the loop finds.** -/
theorem perm_searchLoop :
    (searchLoop toLowerCase collation db.messages lowerQuery limit [] db.scan).Perm
      (db.stored.filter (found toLowerCase collation db lowerQuery limit)) := by
  have hloop := searchLoop_eq toLowerCase collation db.messages lowerQuery limit [] db.scan
  rw [List.nil_append, List.length_nil] at hloop
  have hcount (p : Session → Bool) : db.scan.countP p
      = db.stored.countP fun other => inScan other && p other := by
    rw [db.perm_scan.countP_eq, List.countP_filter]
    exact List.countP_congr fun other _ => by rw [Bool.and_comm]
  rw [hloop]
  refine (List.perm_ext_iff_of_nodup ?_ (db.nodup_stored.filter _)).mpr fun value => ?_
  · exact (db.nodup_scan.sublist (visited_sublist ..)).filter _
  · rw [List.mem_filter, List.mem_filter,
      mem_visited_iff toLowerCase collation db.messages lowerQuery limit 0 db.pairwise_scan,
      SessionDb.mem_scan, found, Bool.and_eq_true, Bool.and_eq_true, reached, List.all_eq_true]
    have hstop (earlier : Session) : (!(inScan earlier
        && directMatches toLowerCase lowerQuery earlier
        && decide (sessionKey earlier.threadId < sessionKey value.threadId)
        && decide (limit ≤ db.stored.countP fun other => inScan other
          && seenMatches toLowerCase collation db.messages lowerQuery other
          && decide (sessionKey other.threadId ≤ sessionKey earlier.threadId)))) = true ↔
        (inScan earlier = true → directMatches toLowerCase lowerQuery earlier = true →
          sessionKey earlier.threadId < sessionKey value.threadId →
          0 + db.scan.countP (fun other =>
            seenMatches toLowerCase collation db.messages lowerQuery other
              && decide (sessionKey other.threadId ≤ sessionKey earlier.threadId)) < limit) := by
      rw [hcount, Nat.zero_add, Bool.not_eq_true', Bool.eq_false_iff, ne_eq, Bool.and_eq_true,
        Bool.and_eq_true, Bool.and_eq_true, decide_eq_true_eq, decide_eq_true_eq]
      simp only [Bool.and_assoc]
      constructor
      · intro h hin hdirect hlt
        exact not_le.mp fun hle => h ⟨⟨⟨hin, hdirect⟩, hlt⟩, hle⟩
      · rintro h ⟨⟨⟨hin, hdirect⟩, hlt⟩, hle⟩
        exact absurd hle (not_le.mpr (h hin hdirect hlt))
    constructor
    · rintro ⟨⟨⟨hstored, hscan⟩, hbefore⟩, hseen⟩
      refine ⟨hstored, ⟨hscan, hseen⟩, fun earlier hearlier => (hstop earlier).mpr ?_⟩
      exact fun hin => hbefore earlier (SessionDb.mem_scan.mpr ⟨hearlier, hin⟩)
    · rintro ⟨hstored, ⟨hscan, hseen⟩, hbefore⟩
      refine ⟨⟨⟨hstored, hscan⟩, fun earlier hearlier => ?_⟩, hseen⟩
      obtain ⟨hearlier, hin⟩ := SessionDb.mem_scan.mp hearlier
      exact (hstop earlier).mp (hbefore earlier hearlier) hin

/-- **The results are the most recent of all** exactly when what the scan misses is ranked behind as
many as the limit that it finds, and so is what it finds without a match. -/
theorem sessions_complete_iff (toLowerCase : String → String) (collation : Collation)
    (db : SessionDb) (peerDid : Option String) (includeArchived : Bool) (query : String)
    (limit : ℕ) :
    (TopOf (sessionLe collation) limit (db.stored.filter (passesFilters peerDid includeArchived))
        (db.listSessions collation peerDid limit includeArchived) ↔
      ∀ value ∈ db.stored, passesFilters peerDid includeArchived value = true →
        inScan value = false →
        limit ≤ db.stored.countP fun other => inScan other
          && passesFilters peerDid includeArchived other && sessionLe collation other value) ∧
    (TopOf (sessionLe collation) limit
        (db.stored.filter (matchesQuery toLowerCase db.messages (toLowerCase query)))
        (db.searchSessions toLowerCase collation query limit) ↔
      (∀ value ∈ db.stored, matchesQuery toLowerCase db.messages (toLowerCase query) value = true →
        found toLowerCase collation db (toLowerCase query) limit value = false →
        limit ≤ db.stored.countP fun other =>
          found toLowerCase collation db (toLowerCase query) limit other
            && sessionLe collation other value) ∧
      ∀ value ∈ db.stored, found toLowerCase collation db (toLowerCase query) limit value = true →
        matchesQuery toLowerCase db.messages (toLowerCase query) value = false →
        limit ≤ db.stored.countP fun other =>
          found toLowerCase collation db (toLowerCase query) limit other
            && sessionBefore collation other value) := by
  constructor
  · have hperm : (db.scan.filter (passesFilters peerDid includeArchived)).Perm
        (db.stored.filter fun value => inScan value && passesFilters peerDid includeArchived value)
        := by
      refine (db.perm_scan.filter _).trans (List.Perm.of_eq ?_)
      rw [List.filter_filter]
      exact List.filter_congr fun value _ => Bool.and_comm ..
    rw [SessionDb.listSessions, topOf_scanned_iff List.filter_sublist hperm]
    constructor
    · rintro ⟨h, -⟩ value hstored hpasses hout
      exact h value hstored hpasses (by rw [hout, Bool.false_and])
    · intro h
      refine ⟨fun value hstored hpasses hnot => ?_, fun value _ hamong hnot => ?_⟩
      · rw [hpasses, Bool.and_true] at hnot
        exact h value hstored hpasses hnot
      · rw [hnot, Bool.and_false] at hamong
        cases hamong
  · rw [SessionDb.searchSessions, topOf_scanned_iff ?_ (perm_searchLoop toLowerCase)]
    have hloop := searchLoop_eq toLowerCase collation db.messages (toLowerCase query) limit []
      db.scan
    rw [List.nil_append] at hloop
    rw [hloop]
    exact List.filter_sublist.trans (visited_sublist ..)

end Results

/-! ### A session beyond the range -/

def sampleSession : Session where
  peerDid := "did:agent:zA"
  threadId := "日"
  messageCount := 1
  lastMessageAt := 1
  startedAt := some 1
  title := some "日"
  archived := false
  archivedAt := none

def sampleSessionDb : SessionDb where
  messages := .empty
  sessions := .single (sessionKey "日") sampleSession
  keyed key session hget := by
    rw [Record.get?_single] at hget
    split at hget
    · rename_i hkey
      rw [← hkey, ← Option.some.inj hget]
      rfl
    · cases hget

/-- **A session of a thread in another script** is neither listed nor found. -/
theorem session_beyond_range :
    ¬TopOf (sessionLe codePointOrder) 50
        (sampleSessionDb.stored.filter (passesFilters none false))
        (sampleSessionDb.listSessions codePointOrder none 50 false) ∧
      ¬TopOf (sessionLe codePointOrder) 50
        (sampleSessionDb.stored.filter (matchesQuery id sampleSessionDb.messages "日"))
        (sampleSessionDb.searchSessions id codePointOrder "日" 50) := by
  have hscan : sampleSessionDb.scan = [] := by
    have hnone : sampleSessionDb.stored.filter inScan = [] := by decide +kernel
    exact (hnone ▸ sampleSessionDb.perm_scan).eq_nil
  have hempty (p : Session → Bool) (hp : sampleSessionDb.stored.filter p = [sampleSession]) :
      ¬TopOf (sessionLe codePointOrder) 50 (sampleSessionDb.stored.filter p) [] := by
    rintro ⟨ranked, hperm, -, hresult⟩
    rw [hp] at hperm
    rw [hperm.eq_singleton] at hresult
    cases hresult
  constructor
  · rw [SessionDb.listSessions, hscan, List.filter_nil, List.mergeSort_nil, List.take_nil]
    exact hempty _ (by decide +kernel)
  · rw [SessionDb.searchSessions, hscan, searchLoop, List.mergeSort_nil, List.take_nil]
    exact hempty _ (by decide +kernel)

end QuadraA.Messaging
