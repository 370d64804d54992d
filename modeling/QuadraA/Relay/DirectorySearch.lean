import QuadraA.Lib.Base64
import QuadraA.Lib.JsNumber
import QuadraA.Lib.JsText
import QuadraA.Lib.Paging
import QuadraA.Lib.Utf8

/-!
# The search of the directory

`searchDirectoryEntries` of `registry.ts` with what it reads of a card, and the entries that
`relay-agent-discovery.ts` has it search: those of the agents of the relay, and then those that other
relays have announced.

* `pages_partition` — the pages hold every entry that is found, once;
* `stale_entry_hides` — an agent that has moved to another relay.

Of an agent and its card the model has what is read here.  `localeCompare` and `toLowerCase` are any
functions.
-/

namespace QuadraA.Relay.Registry

open QuadraA.Lib

/-! ### Cards -/

structure Capability where
  id : String
  name : String
  description : String
deriving DecidableEq

structure AgentCard where
  name : String
  description : String
  capabilities : List Capability
deriving DecidableEq

/-- The functions of text that depend on the engine. -/
structure TextFunctions where
  toLowerCase : String → String
  localeCompare : String → String → Ordering

section

variable (text : TextFunctions)

/-- `/[\s,.\-_!?;:'"()[\]\x7b\x7d]/`. -/
def isSeparator (c : Char) : Bool :=
  jsWhitespace.contains c ||
    [',', '.', '-', '_', '!', '?', ';', ':', '\x27', '\x22', '(', ')', '[', ']', '\x7b',
      '\x7d'].contains c

/-- `/[\u3000-\u9fff\uac00-\ud7af\uf900-\ufaff]/`. -/
def isCjk (c : Char) : Bool :=
  decide (0x3000 ≤ c.toNat ∧ c.toNat ≤ 0x9fff) || decide (0xac00 ≤ c.toNat ∧ c.toNat ≤ 0xd7af) ||
    decide (0xf900 ≤ c.toNat ∧ c.toNat ≤ 0xfaff)

def pushCurrent (current : List Char) : List String :=
  if current = [] then [] else [text.toLowerCase (String.ofList current)]

/-- Each such character is a token, and what is between two of them. -/
def splitCjk (current : List Char) : List Char → List String
  | [] => pushCurrent text current
  | ch :: rest =>
      if isCjk ch then pushCurrent text current ++ String.ofList [ch] :: splitCjk [] rest
      else splitCjk (current ++ [ch]) rest

/-- `lower.length > 1`, in UTF-16. -/
def isLonger (lower : String) : Bool := decide (1 < (lower.toList.flatMap utf16Units).length)

def tokenizeChunk (chunk : List Char) : List String :=
  if chunk.any isCjk then splitCjk text [] chunk
  else
    let lower := text.toLowerCase (String.ofList chunk)
    if isLonger lower then [lower] else []

def tokenize (s : String) : List String :=
  ((splitParts isSeparator s.toList).flatMap (tokenizeChunk text)).filter fun t => t ≠ ""

def extractCapabilityIds (card : AgentCard) : List String :=
  (card.capabilities.map fun c => c.id).filter fun id => id ≠ ""

/-- The tokens of a card, as a set in the order of insertion. -/
def extractTokenKeys (card : AgentCard) : List String :=
  (tokenize text card.name ++ tokenize text card.description ++
    card.capabilities.flatMap fun c =>
      tokenize text c.name ++ tokenize text c.description).eraseDups

/-- `candidate === normalized || candidate.startsWith(normalized + '/')`. -/
def isBelow (candidate normalized : String) : Bool :=
  decide (candidate = normalized) || (normalized.toList ++ ['/']).isPrefixOf candidate.toList

def matchesCapabilityPrefix (card : AgentCard) (query : String) : Bool :=
  let normalized := text.toLowerCase query
  (extractCapabilityIds card).any fun capId => isBelow (text.toLowerCase capId) normalized

/-! ### Entries -/

structure DirectoryAgentEntry where
  did : String
  card : AgentCard
  online : Bool
  discoverable : Bool
  visibilityRealm : Option String
  lastSeen : Option ℕ
  homeRelay : Option String
deriving DecidableEq

structure DiscoveredAgent where
  did : String
  card : AgentCard
  online : Bool
  lastSeen : Option ℕ
  homeRelay : Option String
deriving DecidableEq

def DirectoryAgentEntry.discovered (entry : DirectoryAgentEntry) : DiscoveredAgent where
  did := entry.did
  card := entry.card
  online := entry.online
  lastSeen := entry.lastSeen
  homeRelay := entry.homeRelay

def entryTokenScore (entry : DirectoryAgentEntry) (queryTokens : List String) : ℕ :=
  let tokens := extractTokenKeys text entry.card
  queryTokens.countP fun token => tokens.contains token

/-- **What is searched for.**  `trustSummaries` has the mean of the scores of an agent, where there
is one. -/
structure DirectorySearch where
  query : String
  minTrust : Option JsNumber
  requesterRealm : String
  trustSummaries : Option (String → Option JsNumber)
  capability : Option String

structure SearchResult where
  agents : List DiscoveredAgent
  cursor : Option String
  total : ℕ

/-- The first entry of each DID. -/
def uniqueEntries (seenDids : List String) : List DirectoryAgentEntry → List DirectoryAgentEntry
  | [] => []
  | entry :: rest =>
      if entry.did ∈ seenDids then uniqueEntries seenDids rest
      else entry :: uniqueEntries (entry.did :: seenDids) rest

def DirectoryAgentEntry.isVisible (entry : DirectoryAgentEntry) (requesterRealm : String) : Bool :=
  if !entry.online || !entry.discoverable then false
  else
    match entry.visibilityRealm with
    | none => true
    | some realm => decide (realm = "") || decide (realm = requesterRealm)

def DirectorySearch.trimmed (search : DirectorySearch) : String :=
  String.ofList (trim search.query.toList)

/-- `capability?.trim().toLowerCase() ?? ''`. -/
def DirectorySearch.trimmedCapability (search : DirectorySearch) : String :=
  match search.capability with
  | none => ""
  | some capability => text.toLowerCase (String.ofList (trim capability.toList))

/-- `right.score - left.score || left.entry.did.localeCompare(right.entry.did)`, up to zero. -/
def scoreLe (left right : DirectoryAgentEntry × ℕ) : Bool :=
  decide (right.2 < left.2) ||
    decide (right.2 = left.2) && (text.localeCompare left.1.did right.1.did).isLE

/-- The entries that match, by their score where there is a query. -/
def DirectorySearch.order (search : DirectorySearch) (visibleEntries : List DirectoryAgentEntry) :
    List DirectoryAgentEntry :=
  let trimmedCapability := search.trimmedCapability text
  if trimmedCapability ≠ "" then
    visibleEntries.filter fun entry => matchesCapabilityPrefix text entry.card trimmedCapability
  else if search.trimmed = "" then visibleEntries
  else
    let queryTokens := tokenize text search.trimmed
    (((visibleEntries.map fun entry => (entry, entryTokenScore text entry queryTokens)).filter
      fun scored => decide (0 < scored.2)).mergeSort (scoreLe text)).map Prod.fst

/-- Whether the trust in an agent is enough. -/
def DirectorySearch.isTrusted (search : DirectorySearch) (did : String) : Bool :=
  match search.minTrust, search.trustSummaries with
  | some minTrust, some trustSummaries =>
      if (JsNumber.finite 0).lt minTrust then
        match trustSummaries did with
        | some averageScore => minTrust.le averageScore
        | none => false
      else true
  | _, _ => true

/-- The entries that are found, in their order. -/
def DirectorySearch.filteredEntries (search : DirectorySearch)
    (entries : List DirectoryAgentEntry) : List DirectoryAgentEntry :=
  let visibleEntries := (uniqueEntries [] entries).filter fun entry =>
    entry.isVisible search.requesterRealm
  (search.order text visibleEntries).filter fun entry => search.isTrusted entry.did

/-- `Buffer.from(did).toString('base64')`. -/
def cursorOf (did : String) : String := String.ofList (encodeBase64 (encodeUtf8 did.toList))

/-- `Buffer.from(cursor, 'base64').toString('utf8')`. -/
def didOfCursor (cursor : String) : String :=
  String.ofList (decodeUtf8 (decodeBase64 cursor.toList))

/-- Where a page begins. -/
def startIdx (filteredEntries : List DirectoryAgentEntry) : Option String → ℕ
  | none => 0
  | some cursor =>
      if cursor = "" then 0
      else
        let cursorDid := didOfCursor cursor
        let idx := filteredEntries.findIdx fun entry => decide (entry.did = cursorDid)
        if idx < filteredEntries.length then idx + 1 else 0

/-- **A page of the directory.**  A limit of zero is none, as it throws where there is an entry. -/
def searchDirectoryEntries (search : DirectorySearch) (entries : List DirectoryAgentEntry)
    (limit : ℕ) (cursor : Option String) : SearchResult :=
  let effectiveLimit := min limit 100
  let filteredEntries := search.filteredEntries text entries
  let filteredTotal := filteredEntries.length
  let startIdx := startIdx filteredEntries cursor
  let page := (filteredEntries.drop startIdx).take effectiveLimit
  { agents := page.map DirectoryAgentEntry.discovered
    cursor :=
      if startIdx + effectiveLimit < filteredTotal then
        page.getLast?.map fun entry => cursorOf entry.did
      else none
    total := filteredTotal }

/-- The page of a cursor. -/
def searchPage (search : DirectorySearch) (entries : List DirectoryAgentEntry) (limit : ℕ)
    (cursor : Option String) : Page DiscoveredAgent String :=
  let result := searchDirectoryEntries text search entries limit cursor
  ⟨result.agents, result.cursor⟩

/-! ### What is found -/

/-- An entry matches the capability, or else the query. -/
def DirectorySearch.selects (search : DirectorySearch) (entry : DirectoryAgentEntry) : Bool :=
  if search.trimmedCapability text ≠ "" then
    matchesCapabilityPrefix text entry.card (search.trimmedCapability text)
  else if search.trimmed = "" then true
  else decide (0 < entryTokenScore text entry (tokenize text search.trimmed))

/-- **An entry that is to be found.** -/
def DirectorySearch.qualifies (search : DirectorySearch) (entry : DirectoryAgentEntry) : Bool :=
  entry.isVisible search.requesterRealm && search.selects text entry && search.isTrusted entry.did

variable {text} {search : DirectorySearch} {entries : List DirectoryAgentEntry}
  {entry : DirectoryAgentEntry}

theorem mem_uniqueEntries {seenDids : List String} :
    entry ∈ uniqueEntries seenDids entries ↔ entry.did ∉ seenDids ∧
      entries.find? (fun other => decide (other.did = entry.did)) = some entry := by
  induction entries generalizing seenDids with
  | nil => simp [uniqueEntries]
  | cons first rest ih =>
    rw [uniqueEntries]
    by_cases hsame : first.did = entry.did
    · have hfind : (first :: rest).find? (fun other => decide (other.did = entry.did)) = some first :=
        List.find?_cons_of_pos (by simp [hsame])
      rw [hfind, hsame]
      split
      · rename_i hseen
        rw [ih]
        exact ⟨fun h => absurd hseen h.1, fun h => absurd hseen h.1⟩
      · rename_i hseen
        rw [List.mem_cons, ih]
        constructor
        · rintro (rfl | ⟨habsurd, -⟩)
          · exact ⟨hseen, rfl⟩
          · exact absurd List.mem_cons_self habsurd
        · rintro ⟨-, hfirst⟩
          exact Or.inl (Option.some.inj hfirst).symm
    · have hfind : (first :: rest).find? (fun other => decide (other.did = entry.did))
          = rest.find? fun other => decide (other.did = entry.did) :=
        List.find?_cons_of_neg (by simp [hsame])
      rw [hfind]
      split
      · exact ih
      · rw [List.mem_cons, ih, List.mem_cons]
        constructor
        · rintro (rfl | ⟨hseen, hfound⟩)
          · exact absurd rfl hsame
          · exact ⟨fun h => hseen (Or.inr h), hfound⟩
        · rintro ⟨hseen, hfound⟩
          refine Or.inr ⟨?_, hfound⟩
          rintro (habsurd | h)
          · exact hsame habsurd.symm
          · exact hseen h

/-- The first entries are of different DIDs. -/
theorem nodup_uniqueEntries (seenDids : List String) (entries : List DirectoryAgentEntry) :
    ((uniqueEntries seenDids entries).map fun entry => entry.did).Nodup := by
  induction entries generalizing seenDids with
  | nil => exact List.nodup_nil
  | cons first rest ih =>
    rw [uniqueEntries]
    split
    · exact ih seenDids
    · rw [List.map_cons, List.nodup_cons]
      refine ⟨fun hmem => ?_, ih _⟩
      obtain ⟨entry, hentry, hsame⟩ := List.mem_map.mp hmem
      exact (mem_uniqueEntries.mp hentry).1 (hsame ▸ List.mem_cons_self)

/-- Entries of different DIDs are all first. -/
theorem uniqueEntries_of_nodup {seenDids : List String}
    (hnodup : (entries.map fun entry => entry.did).Nodup)
    (hseen : ∀ entry ∈ entries, entry.did ∉ seenDids) : uniqueEntries seenDids entries = entries := by
  induction entries generalizing seenDids with
  | nil => rfl
  | cons first rest ih =>
    rw [List.map_cons, List.nodup_cons] at hnodup
    rw [uniqueEntries, if_neg (hseen first List.mem_cons_self), ih hnodup.2]
    intro entry hentry hmem
    rcases List.mem_cons.mp hmem with hsame | hmem
    · exact hnodup.1 (List.mem_map.mpr ⟨entry, hentry, hsame⟩)
    · exact hseen entry (List.mem_cons_of_mem _ hentry) hmem

/-- The order changes nothing but the order. -/
theorem order_perm (text : TextFunctions) (search : DirectorySearch)
    (entries : List DirectoryAgentEntry) :
    (search.order text entries).Perm (entries.filter (search.selects text)) := by
  rw [DirectorySearch.order]
  dsimp only
  split
  · rename_i hcapability
    refine List.Perm.of_eq (List.filter_congr fun entry _ => ?_)
    rw [DirectorySearch.selects, if_pos hcapability]
  · rename_i hcapability
    split
    · rename_i htrimmed
      refine List.Perm.of_eq (List.filter_eq_self.mpr fun entry _ => ?_).symm
      rw [DirectorySearch.selects, if_neg hcapability, if_pos htrimmed]
    · rename_i htrimmed
      refine ((List.mergeSort_perm _ _).map Prod.fst).trans (List.Perm.of_eq ?_)
      rw [List.filter_map, List.map_map]
      refine (List.map_id' _).trans (List.filter_congr fun entry _ => ?_)
      rw [DirectorySearch.selects, if_neg hcapability, if_neg htrimmed, Function.comp_apply]

/-- **The entries that are found** are the first ones of their DIDs that are to be. -/
theorem filteredEntries_perm (text : TextFunctions) (search : DirectorySearch)
    (entries : List DirectoryAgentEntry) :
    (search.filteredEntries text entries).Perm
      ((uniqueEntries [] entries).filter (search.qualifies text)) := by
  rw [DirectorySearch.filteredEntries]
  refine ((order_perm text search _).filter _).trans (List.Perm.of_eq ?_)
  rw [List.filter_filter, List.filter_filter]
  refine List.filter_congr fun entry _ => ?_
  rw [DirectorySearch.qualifies, Bool.and_assoc, Bool.and_comm, Bool.and_comm (search.selects _ _)]

theorem nodup_filteredEntries (text : TextFunctions) (search : DirectorySearch)
    (entries : List DirectoryAgentEntry) :
    ((search.filteredEntries text entries).map fun entry => entry.did).Nodup :=
  ((filteredEntries_perm text search entries).map _).nodup_iff.mpr
    ((nodup_uniqueEntries [] entries).sublist (List.filter_sublist.map _))

theorem mem_of_filteredEntries (h : entry ∈ search.filteredEntries text entries) :
    entry ∈ entries :=
  List.mem_of_find?_eq_some (mem_uniqueEntries.mp
    (List.mem_of_mem_filter ((filteredEntries_perm text search entries).mem_iff.mp h))).2

/-! ### Pages -/

theorem didOfCursor_cursorOf (did : String) : didOfCursor (cursorOf did) = did := by
  rw [didOfCursor, cursorOf, String.toList_ofList, decodeBase64_encodeBase64 (encodeUtf8_lt _),
    decode_encode, String.ofList_toList]

theorem cursorOf_ne {did : String} (h : did ≠ "") : cursorOf did ≠ "" := by
  intro hempty
  refine h (String.toList_eq_nil_iff.mp (encodeUtf8_eq_nil (encodeBase64_eq_nil ?_)))
  exact String.ofList_eq_empty_iff.mp hempty

/-- **A cursor stands behind its entry.** -/
theorem startIdx_cursorOf {found : List DirectoryAgentEntry} {i : ℕ} (hi : i < found.length)
    (hnodup : (found.map fun entry => entry.did).Nodup) (hdid : found[i].did ≠ "") :
    startIdx found (some (cursorOf found[i].did)) = i + 1 := by
  have hindex : found.findIdx (fun entry => decide (entry.did = found[i].did)) = i := by
    rw [List.findIdx_eq hi]
    refine ⟨decide_eq_true rfl, fun j hj => decide_eq_false fun hsame => ?_⟩
    have hlt : j < found.length := Nat.lt_trans hj hi
    have hj' : j < (found.map fun entry => entry.did).length := by simpa using hlt
    have hi' : i < (found.map fun entry => entry.did).length := by simpa using hi
    have hmap : (found.map fun entry => entry.did)[j] = (found.map fun entry => entry.did)[i] := by
      rw [List.getElem_map, List.getElem_map, hsame]
    exact absurd ((List.getElem_inj hnodup).mp hmap) (Nat.ne_of_lt hj)
  rw [startIdx, if_neg (cursorOf_ne hdid)]
  dsimp only
  rw [didOfCursor_cursorOf, hindex, if_pos hi]

/-- **The pages of a search** are those of what is found. -/
theorem paged_search (text : TextFunctions) (search : DirectorySearch) {limit : ℕ}
    (hlimit : 0 < limit) (hdids : ∀ entry ∈ entries, entry.did ≠ "") :
    Paged (searchPage text search entries limit)
      ((search.filteredEntries text entries).map DirectoryAgentEntry.discovered) (min limit 100)
      (startIdx (search.filteredEntries text entries)) where
  items cursor := by
    rw [searchPage, searchDirectoryEntries, ← List.map_drop, ← List.map_take]
  last cursor hlast := by
    rw [List.length_map] at hlast
    exact if_neg (Nat.not_lt.mpr hlast)
  next cursor hmore := by
    rw [List.length_map] at hmore
    have hlt : startIdx (search.filteredEntries text entries) cursor + min limit 100 - 1
        < (search.filteredEntries text entries).length := by omega
    have hlast : (((search.filteredEntries text entries).drop
          (startIdx (search.filteredEntries text entries) cursor)).take (min limit 100)).getLast?
        = some (search.filteredEntries text entries)[
            startIdx (search.filteredEntries text entries) cursor + min limit 100 - 1] := by
      rw [List.getLast?_eq_getElem?, List.length_take, List.length_drop, List.getElem?_take,
        if_pos (by omega), List.getElem?_drop, ← List.getElem?_eq_getElem hlt]
      congr 1
      omega
    refine ⟨cursorOf (search.filteredEntries text entries)[
      startIdx (search.filteredEntries text entries) cursor + min limit 100 - 1].did, ?_, ?_⟩
    · rw [searchPage, searchDirectoryEntries]
      dsimp only
      rw [if_pos hmore, hlast]
      rfl
    · rw [startIdx_cursorOf hlt (nodup_filteredEntries text search entries)
        (hdids _ (mem_of_filteredEntries (List.getElem_mem hlt)))]
      omega

/-- **Pages partition what is found**, for entries of different DIDs, none of them empty: the walk
ends, and its pages hold each entry that is to be found once, in an order that does not depend on the
limit. -/
theorem pages_partition (text : TextFunctions) (search : DirectorySearch) {limit : ℕ}
    (hlimit : 1 ≤ limit) (hnodup : (entries.map fun entry => entry.did).Nodup)
    (hdids : ∀ entry ∈ entries, entry.did ≠ "") :
    ∃ pages, Walk (searchPage text search entries limit) none pages ∧
      pages.flatMap Page.items
        = (search.filteredEntries text entries).map DirectoryAgentEntry.discovered ∧
      (search.filteredEntries text entries).Perm (entries.filter (search.qualifies text)) ∧
      (∀ page ∈ pages, page.items.length ≤ min limit 100) ∧
      ∀ cursor, (searchDirectoryEntries text search entries limit cursor).total
        = (entries.filter (search.qualifies text)).length := by
  have hperm := filteredEntries_perm text search entries
  rw [uniqueEntries_of_nodup hnodup fun _ _ => List.not_mem_nil] at hperm
  have hpaged := paged_search text search hlimit hdids
  obtain ⟨pages, hwalk, hitems⟩ := hpaged.walk (by omega) none
  refine ⟨pages, hwalk, hitems, hperm, fun page hpage => ?_, fun cursor => hperm.length_eq⟩
  obtain ⟨cursor, rfl⟩ := hwalk.exists_fetch page hpage
  rw [hpaged.items]
  exact List.length_take_le _ _

/-! ### Several entries of one agent -/

/-- The first entry of each DID is to be found if any is. -/
def DirectorySearch.FirstQualifies (search : DirectorySearch) (text : TextFunctions)
    (entries : List DirectoryAgentEntry) : Prop :=
  ∀ entry ∈ entries, search.qualifies text entry = true →
    ∀ first, entries.find? (fun other => decide (other.did = entry.did)) = some first →
      search.qualifies text first = true

/-- The DIDs that are found. -/
theorem mem_dids_filteredEntries {did : String} :
    did ∈ (search.filteredEntries text entries).map (fun entry => entry.did) ↔
      ∃ first, entries.find? (fun other => decide (other.did = did)) = some first ∧
        search.qualifies text first = true := by
  rw [List.mem_map]
  constructor
  · rintro ⟨entry, hentry, rfl⟩
    obtain ⟨hunique, hqualifies⟩ :=
      List.mem_filter.mp ((filteredEntries_perm text search entries).mem_iff.mp hentry)
    exact ⟨entry, (mem_uniqueEntries.mp hunique).2, hqualifies⟩
  · rintro ⟨first, hfirst, hqualifies⟩
    have hsame := List.find?_some hfirst
    obtain rfl := of_decide_eq_true hsame
    exact ⟨first, (filteredEntries_perm text search entries).mem_iff.mpr (List.mem_filter.mpr
      ⟨mem_uniqueEntries.mpr ⟨List.not_mem_nil, hfirst⟩, hqualifies⟩), rfl⟩

/-- **The search is complete** just when the first entry of each agent is to be found if any of its
entries is. -/
theorem search_complete_iff (text : TextFunctions) (search : DirectorySearch) {limit : ℕ}
    (hlimit : 1 ≤ limit) (hdids : ∀ entry ∈ entries, entry.did ≠ "") :
    ∃ pages, Walk (searchPage text search entries limit) none pages ∧
      ((∀ did, did ∈ (pages.flatMap Page.items).map (fun agent => agent.did) ↔
          ∃ entry ∈ entries, entry.did = did ∧ search.qualifies text entry = true) ↔
        search.FirstQualifies text entries) := by
  obtain ⟨pages, hwalk, hitems⟩ := (paged_search text search hlimit hdids).walk
    (by omega) none
  have hdid : ∀ did, did ∈ (pages.flatMap Page.items).map (fun agent => agent.did) ↔
      ∃ first, entries.find? (fun other => decide (other.did = did)) = some first ∧
        search.qualifies text first = true := by
    intro did
    rw [← mem_dids_filteredEntries, hitems]
    show did ∈ List.map _ (List.map _ _) ↔ _
    rw [List.map_map]
    rfl
  refine ⟨pages, hwalk, fun hcomplete entry hentry hqualifies first hfirst => ?_,
    fun hfirsts did => ?_⟩
  · obtain ⟨found, hfound, hkept⟩ :=
      (hdid entry.did).mp ((hcomplete entry.did).mpr ⟨entry, hentry, rfl, hqualifies⟩)
    rw [hfirst] at hfound
    obtain rfl := Option.some.inj hfound
    exact hkept
  · rw [hdid]
    constructor
    · rintro ⟨first, hfirst, hqualifies⟩
      have hsame := List.find?_some hfirst
      exact ⟨first, List.mem_of_find?_eq_some hfirst, of_decide_eq_true hsame, hqualifies⟩
    · rintro ⟨entry, hentry, rfl, hqualifies⟩
      obtain ⟨first, hfirst⟩ : ∃ first,
          entries.find? (fun other => decide (other.did = entry.did)) = some first :=
        Option.isSome_iff_exists.mp (List.find?_isSome.mpr ⟨entry, hentry, decide_eq_true rfl⟩)
      exact ⟨first, hfirst, hfirsts entry hentry hqualifies first hfirst⟩

end

/-! ### Two agents -/

/-- The entries of a DISCOVER: those of the relay before those of others. -/
def listDiscoveryDirectoryEntries (homeRelay : String)
    (localEntries remoteEntries : List DirectoryAgentEntry) : List DirectoryAgentEntry :=
  (localEntries.map fun entry => { entry with homeRelay := entry.homeRelay <|> some homeRelay }) ++
    remoteEntries

def plainText : TextFunctions where
  toLowerCase := id
  localeCompare := compare

/-- An agent that translates. -/
def translator (did : String) (online : Bool) : DirectoryAgentEntry where
  did := did
  card := ⟨"Translator", "Japanese to English", [⟨"translate/japanese", "", ""⟩]⟩
  online := online
  discoverable := true
  visibilityRealm := some "public"
  lastSeen := none
  homeRelay := none

/-- A search for those who translate. -/
def translators : DirectorySearch where
  query := ""
  minTrust := none
  requesterRealm := "public"
  trustSummaries := none
  capability := some "translate"

theorem pages_partition_sample :
    ∃ pages, Walk (searchPage plainText translators
        [translator "did:agent:alice" true, translator "did:agent:bob" true] 1) none pages ∧
      pages.flatMap Page.items = (translators.filteredEntries plainText
          [translator "did:agent:alice" true, translator "did:agent:bob" true]).map
        DirectoryAgentEntry.discovered ∧
      (translators.filteredEntries plainText
          [translator "did:agent:alice" true, translator "did:agent:bob" true]).Perm
        ([translator "did:agent:alice" true, translator "did:agent:bob" true].filter
          (translators.qualifies plainText)) ∧
      (∀ page ∈ pages, page.items.length ≤ min 1 100) ∧
      ∀ cursor, (searchDirectoryEntries plainText translators
          [translator "did:agent:alice" true, translator "did:agent:bob" true] 1 cursor).total
        = ([translator "did:agent:alice" true, translator "did:agent:bob" true].filter
          (translators.qualifies plainText)).length :=
  pages_partition plainText translators (Nat.le_refl 1) (by decide) (by decide)

theorem search_complete_iff_sample :
    ∃ pages, Walk (searchPage plainText translators [translator "did:agent:alice" true] 10) none
        pages ∧
      ((∀ did, did ∈ (pages.flatMap Page.items).map (fun agent => agent.did) ↔
          ∃ entry ∈ [translator "did:agent:alice" true], entry.did = did ∧
            translators.qualifies plainText entry = true) ↔
        translators.FirstQualifies plainText [translator "did:agent:alice" true]) :=
  search_complete_iff plainText translators (by decide) (by decide)

/-- The entries of an agent whose DID a relay has announced as the empty text, and of another. -/
def unnamedEntries : List DirectoryAgentEntry :=
  [translator "" true, translator "did:agent:bob" true]

/-- **A cursor that names the empty DID** is taken for none: the pages begin again and again. -/
theorem empty_did_repeats : (unnamedEntries.map fun entry => entry.did).Nodup ∧
    ¬∃ pages, Walk (searchPage plainText translators unnamedEntries 1) none pages := by
  have hfirst : searchPage plainText translators unnamedEntries 1 none
      = ⟨[(translator "" true).discovered], some ""⟩ := by
    decide +kernel
  have hagain : searchPage plainText translators unnamedEntries 1 (some "")
      = ⟨[(translator "" true).discovered], some ""⟩ := by
    decide +kernel
  have hnever : ∀ cursor pages,
      Walk (searchPage plainText translators unnamedEntries 1) cursor pages →
        cursor = some "" → False := by
    intro cursor pages hwalk
    induction hwalk with
    | last hlast =>
      rintro rfl
      rw [hagain] at hlast
      cases hlast
    | next hnext _ ih =>
      rintro rfl
      rw [hagain] at hnext
      exact ih (congrArg some (Option.some.inj hnext).symm)
  refine ⟨by decide, ?_⟩
  rintro ⟨pages, hwalk⟩
  cases hwalk with
  | last hlast =>
    rw [hfirst] at hlast
    cases hlast
  | next hnext hrest =>
    rw [hfirst] at hnext
    exact hnever _ _ hrest (congrArg some (Option.some.inj hnext).symm)

/-- Alice was connected here and is connected to another relay now. -/
def movedEntries : List DirectoryAgentEntry :=
  listDiscoveryDirectoryEntries "did:agent:relay" [translator "did:agent:alice" false]
    [{ translator "did:agent:alice" true with homeRelay := some "did:agent:other" }]

/-- **A stale entry hides the agent.**  The entry of the other relay is to be found, and no page has
the agent. -/
theorem stale_entry_hides :
    (∃ entry ∈ movedEntries, entry.did = "did:agent:alice" ∧
      translators.qualifies plainText entry = true) ∧
    Walk (searchPage plainText translators movedEntries 10) none [⟨[], none⟩] ∧
    ∀ pages, Walk (searchPage plainText translators movedEntries 10) none pages →
      "did:agent:alice" ∉ (pages.flatMap Page.items).map fun agent => agent.did := by
  have hpage : searchPage plainText translators movedEntries 10 none = ⟨[], none⟩ := by
    decide +kernel
  have hwalk : Walk (searchPage plainText translators movedEntries 10) none [⟨[], none⟩] := by
    rw [← hpage]
    exact .last (by rw [hpage])
  refine ⟨by decide +kernel, hwalk, fun pages hpages => ?_⟩
  rw [hpages.unique hwalk]
  exact List.not_mem_nil

end QuadraA.Relay.Registry
