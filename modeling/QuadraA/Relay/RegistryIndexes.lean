import QuadraA.Lib.InvertedIndex
import QuadraA.Lib.Record
import QuadraA.Lib.Trace
import QuadraA.Relay.DirectorySearch

/-!
# The indexes of the registry

`AgentRegistry` of `registry.ts` with its two indexes of the agents that have published a card: by the
prefixes of their capabilities, and by the tokens of the card.

* `indexes_mirror` — the indexes are those of the cards, in every run of calm steps;
* `republished_unindexed` — a new card of an agent that has published one.

The sockets of the agents are those of `Connections`, and are left out here, as are the hashes of the
cards, that nothing reads.
-/

namespace QuadraA.Relay.Registry

open QuadraA.Lib

/-! ### Capabilities -/

/-- `segments.slice(0, i).join('/')`, for each `i`. -/
def capabilityPrefixes (capId : String) : List String :=
  let segments := capId.toList.splitOn '/'
  (List.range segments.length).map fun i =>
    String.ofList (List.intercalate ['/'] (segments.take (i + 1)))

/-- Words joined by a separator, in two parts. -/
theorem intercalate_append {α : Type} {separator : List α} {l l' : List (List α)} (hl : l ≠ [])
    (hl' : l' ≠ []) : List.intercalate separator (l ++ l')
      = List.intercalate separator l ++ separator ++ List.intercalate separator l' := by
  induction l with
  | nil => exact absurd rfl hl
  | cons first rest ih =>
    cases rest with
    | nil =>
      rw [List.singleton_append, List.intercalate_cons_of_ne_nil hl', List.intercalate_singleton,
        List.append_assoc]
    | cons second rest =>
      have hne : second :: rest ++ l' ≠ [] := List.cons_ne_nil _ _
      rw [List.cons_append, List.intercalate_cons_of_ne_nil hne, ih (List.cons_ne_nil _ _),
        List.intercalate_cons_of_ne_nil (List.cons_ne_nil second rest)]
      simp only [List.append_assoc]

/-- **The prefixes of a capability** are what it is equal to or below. -/
theorem mem_capabilityPrefixes {capId p : String} :
    p ∈ capabilityPrefixes capId ↔ isBelow capId p = true := by
  have hjoin : List.intercalate ['/'] (capId.toList.splitOn '/') = capId.toList :=
    List.intercalate_splitOn '/'
  rw [capabilityPrefixes, List.mem_map, isBelow, Bool.or_eq_true, decide_eq_true_eq,
    List.isPrefixOf_iff_prefix]
  constructor
  · rintro ⟨i, -, rfl⟩
    rw [String.toList_ofList]
    by_cases hrest : (capId.toList.splitOn '/').drop (i + 1) = []
    · refine Or.inl ?_
      rw [List.take_of_length_le (List.drop_eq_nil_iff.mp hrest), hjoin, String.ofList_toList]
    · refine Or.inr ⟨List.intercalate ['/'] ((capId.toList.splitOn '/').drop (i + 1)), ?_⟩
      have hfirst : (capId.toList.splitOn '/').take (i + 1) ≠ [] := by
        rw [Ne, List.take_eq_nil_iff]
        exact fun h => h.elim nofun (List.splitOn_ne_nil _ _)
      rw [← intercalate_append hfirst hrest, List.take_append_drop, hjoin]
  · rintro (rfl | ⟨t, ht⟩)
    · have hpos := List.length_pos_iff.mpr (List.splitOn_ne_nil '/' capId.toList)
      refine ⟨(capId.toList.splitOn '/').length - 1, List.mem_range.mpr (by omega), ?_⟩
      rw [Nat.sub_add_cancel hpos, List.take_length, hjoin, String.ofList_toList]
    · have hsplit : capId.toList.splitOn '/' = p.toList.splitOn '/' ++ t.splitOn '/' := by
        rw [← ht, List.append_assoc, List.singleton_append, List.splitOn_append_cons_self]
      have hpos := List.length_pos_iff.mpr (List.splitOn_ne_nil '/' p.toList)
      refine ⟨(p.toList.splitOn '/').length - 1, List.mem_range.mpr ?_, ?_⟩
      · rw [hsplit, List.length_append]
        omega
      · rw [Nat.sub_add_cancel hpos, hsplit, List.take_left, List.intercalate_splitOn,
          String.ofList_toList]

/-! ### The registry -/

structure RegisteredAgent where
  did : String
  card : AgentCard
  capabilityKeys : List String
  connectedAt : ℕ
  lastSeen : ℕ
  online : Bool
  discoverable : Bool
  realm : String
  tokenJti : Option String
  tokenExp : Option ℕ
deriving DecidableEq

/-- **The registry.**  A key without a set is one with the empty set. -/
structure AgentRegistry where
  agents : Record String RegisteredAgent
  capPrefixIndex : String → Finset String
  tokenIndex : String → Finset String

namespace AgentRegistry

def GRACE_PERIOD_MS : ℕ := 3 * 60 * 1000

def empty : AgentRegistry := ⟨.empty, fun _ => ∅, fun _ => ∅⟩

variable (text : TextFunctions) (s : AgentRegistry)

/-- `capPrefixIndex.lookup`. -/
def lookup (capabilityId : String) : Finset String := s.capPrefixIndex capabilityId

/-- The keys of a card in the first index. -/
def capabilityKeys (card : AgentCard) : List String :=
  (extractCapabilityIds card).flatMap fun capId => capabilityPrefixes (text.toLowerCase capId)

def addToIndexes (did : String) (agent : RegisteredAgent) : AgentRegistry :=
  { s with
    capPrefixIndex := addKeys s.capPrefixIndex did (capabilityKeys text agent.card)
    tokenIndex := addKeys s.tokenIndex did agent.capabilityKeys }

def removeFromIndexes (did : String) (agent : RegisteredAgent) : AgentRegistry :=
  { s with
    capPrefixIndex := removeKeys s.capPrefixIndex did (capabilityKeys text agent.card)
    tokenIndex := removeKeys s.tokenIndex did agent.capabilityKeys }

def setAgent (did : String) (agent : RegisteredAgent) : AgentRegistry :=
  { s with agents := s.agents.set did agent }

/-- The agent is in the indexes no more, if it is discoverable. -/
def unindex (did : String) (agent : RegisteredAgent) : AgentRegistry :=
  if agent.discoverable then s.removeFromIndexes text did agent else s

def register (did : String) (card : AgentCard) (realm : String) (tokenJti : Option String)
    (tokenExp : Option ℕ) (now : ℕ) : AgentRegistry :=
  let existing := s.agents.get? did
  let s := match existing with
    | some existing => s.unindex text did existing
    | none => s
  s.setAgent did
    { did := did
      card := card
      capabilityKeys := extractTokenKeys text card
      connectedAt := (existing.map fun existing => existing.connectedAt).getD now
      lastSeen := now
      online := true
      discoverable := false
      realm := realm
      tokenJti := tokenJti
      tokenExp := tokenExp }

def publish (did : String) (card : Option AgentCard) : AgentRegistry :=
  match s.agents.get? did with
  | none => s
  | some agent =>
      let (s, agent) := match card with
        | none => (s, agent)
        | some card =>
            (s.unindex text did agent,
              { agent with card := card, capabilityKeys := extractTokenKeys text card })
      if !agent.discoverable then
        (s.setAgent did { agent with discoverable := true }).addToIndexes text did
          { agent with discoverable := true }
      else s.setAgent did agent

def unpublish (did : String) : AgentRegistry :=
  match s.agents.get? did with
  | none => s
  | some agent =>
      if agent.discoverable then
        (s.setAgent did { agent with discoverable := false }).removeFromIndexes text did agent
      else s

def unregister (did : String) : AgentRegistry :=
  match s.agents.get? did with
  | none => s
  | some agent =>
      let s := s.unindex text did agent
      { s with agents := s.agents.erase did }

def markOffline (did : String) (now : ℕ) : AgentRegistry :=
  match s.agents.get? did with
  | none => s
  | some agent => s.setAgent did { agent with online := false, lastSeen := now }

/-- The entries that the loop visits, each of which it deletes at most. -/
def cleanup (now : ℕ) : AgentRegistry :=
  s.agents.entries.foldl (fun s entry =>
    if !entry.2.online && decide (entry.2.lastSeen + GRACE_PERIOD_MS < now) then
      s.unregister text entry.1
    else s) s

end AgentRegistry

inductive RegistryEvent where
  | register (did : String) (card : AgentCard) (realm : String) (tokenJti : Option String)
      (tokenExp : Option ℕ) (now : ℕ)
  | publish (did : String) (card : Option AgentCard)
  | unpublish (did : String)
  | unregister (did : String)
  | markOffline (did : String) (now : ℕ)
  | cleanup (now : ℕ)
deriving DecidableEq

def AgentRegistry.step (text : TextFunctions) (s : AgentRegistry) : RegistryEvent → AgentRegistry
  | .register did card realm tokenJti tokenExp now =>
      s.register text did card realm tokenJti tokenExp now
  | .publish did card => s.publish text did card
  | .unpublish did => s.unpublish text did
  | .unregister did => s.unregister text did
  | .markOffline did now => s.markOffline did now
  | .cleanup now => s.cleanup text now

def RegistryStep (text : TextFunctions) (s : AgentRegistry) (event : RegistryEvent)
    (s' : AgentRegistry) : Prop :=
  s.step text event = s'

/-- **The condition of a step**: no new card that has a key is published for an agent that is
discoverable. -/
def AgentRegistry.Calm (text : TextFunctions) (s : AgentRegistry) : RegistryEvent → Prop
  | .publish did (some card) => ∀ agent, s.agents.get? did = some agent →
      agent.discoverable = true →
        AgentRegistry.capabilityKeys text card = [] ∧ extractTokenKeys text card = []
  | _ => True

def CalmRegistryStep (text : TextFunctions) (s : AgentRegistry) (event : RegistryEvent)
    (s' : AgentRegistry) : Prop :=
  RegistryStep text s event s' ∧ s.Calm text event

/-! ### The invariant -/

/-- The keys of an agent by its card, if it is discoverable. -/
def AgentRegistry.keysBy {α : Type} (s : AgentRegistry) (keys : AgentCard → List α) (did : String) :
    List α :=
  match s.agents.get? did with
  | none => []
  | some agent => if agent.discoverable then keys agent.card else []

/-- **Both indexes have each discoverable agent under its keys**, and the keys of an agent that are
kept are those of its card. -/
structure Mirrored (text : TextFunctions) (s : AgentRegistry) : Prop where
  capabilities : Mirrors s.capPrefixIndex (s.keysBy (AgentRegistry.capabilityKeys text))
  tokens : Mirrors s.tokenIndex (s.keysBy (extractTokenKeys text))
  keys : ∀ did agent, s.agents.get? did = some agent →
    agent.capabilityKeys = extractTokenKeys text agent.card

section

variable {text : TextFunctions} {s s' : AgentRegistry} {did : String} {agent : RegisteredAgent}

theorem mirrored_empty : Mirrored text .empty where
  capabilities k a := by
    rw [AgentRegistry.keysBy, AgentRegistry.empty, Record.get?_empty]
    simp
  tokens k a := by
    rw [AgentRegistry.keysBy, AgentRegistry.empty, Record.get?_empty]
    simp
  keys did agent h := by
    rw [AgentRegistry.empty, Record.get?_empty] at h
    cases h

/-- A new record of an agent changes its keys. -/
theorem keysBy_set {α : Type} (keys : AgentCard → List α) (did : String) (agent : RegisteredAgent) :
    (s.setAgent did agent).keysBy keys = Function.update (s.keysBy keys) did
      (if agent.discoverable then keys agent.card else []) := by
  funext other
  rw [AgentRegistry.keysBy, AgentRegistry.setAgent, Record.get?_set, Function.update_apply]
  by_cases hother : other = did
  · rw [if_pos hother, if_pos hother.symm]
  · rw [if_neg hother, if_neg fun hsame => hother hsame.symm]
    rfl

theorem keysBy_erase {α : Type} (keys : AgentCard → List α) (did : String) :
    AgentRegistry.keysBy { s with agents := s.agents.erase did } keys
      = Function.update (s.keysBy keys) did [] := by
  funext other
  rw [AgentRegistry.keysBy, Record.get?_erase, Function.update_apply]
  by_cases hother : other = did
  · rw [if_pos hother, if_pos hother.symm]
  · rw [if_neg hother, if_neg fun hsame => hother hsame.symm]
    rfl

/-- The keys of a registered agent. -/
theorem keysBy_of_some {α : Type} (keys : AgentCard → List α)
    (h : s.agents.get? did = some agent) :
    s.keysBy keys did = if agent.discoverable then keys agent.card else [] := by
  rw [AgentRegistry.keysBy, h]

/-- An agent that is not discoverable has no keys. -/
theorem keysBy_of_hidden {α : Type} (keys : AgentCard → List α)
    (h : s.agents.get? did = some agent) (hhidden : agent.discoverable = false) :
    s.keysBy keys did = [] := by
  rw [keysBy_of_some keys h, hhidden]
  rfl

theorem agents_unindex : (s.unindex text did agent).agents = s.agents := by
  rw [AgentRegistry.unindex]
  split <;> rfl

theorem agents_setAgent_unindex {agent' : RegisteredAgent} :
    ((s.unindex text did agent).setAgent did agent').agents = s.agents.set did agent' := by
  show (s.unindex text did agent).agents.set did agent' = _
  rw [agents_unindex]

theorem keysBy_unindex {α : Type} (keys : AgentCard → List α) :
    (s.unindex text did agent).keysBy keys = s.keysBy keys := by
  funext other
  rw [AgentRegistry.keysBy, AgentRegistry.keysBy, agents_unindex]

/-- **The indexes without an agent.** -/
theorem Mirrored.unindex (h : Mirrored text s) (hget : s.agents.get? did = some agent) :
    Mirrors (s.unindex text did agent).capPrefixIndex
        (Function.update (s.keysBy (AgentRegistry.capabilityKeys text)) did []) ∧
      Mirrors (s.unindex text did agent).tokenIndex
        (Function.update (s.keysBy (extractTokenKeys text)) did []) := by
  have hother {α : Type} {keys : String → List α} (b : String) (hb : b ≠ did) :
      Function.update keys did [] b = keys b := Function.update_of_ne hb ..
  rw [AgentRegistry.unindex]
  split
  · rename_i hdiscoverable
    have hcapabilities := keysBy_of_some (AgentRegistry.capabilityKeys text) hget
    have htokens := keysBy_of_some (extractTokenKeys text) hget
    rw [if_pos hdiscoverable] at hcapabilities htokens
    rw [AgentRegistry.removeFromIndexes, h.keys did agent hget]
    constructor
    · show Mirrors (removeKeys _ _ _) _
      rw [← hcapabilities]
      exact h.capabilities.removeKeys (Function.update_self ..) hother
    · show Mirrors (removeKeys _ _ _) _
      rw [← htokens]
      exact h.tokens.removeKeys (Function.update_self ..) hother
  · rename_i hhidden
    have hhidden := Bool.eq_false_iff.mpr hhidden
    constructor
    · rw [← keysBy_of_hidden (AgentRegistry.capabilityKeys text) hget hhidden,
        Function.update_eq_self]
      exact h.capabilities
    · rw [← keysBy_of_hidden (extractTokenKeys text) hget hhidden, Function.update_eq_self]
      exact h.tokens

/-- The keys that are kept, after a new record. -/
theorem Mirrored.keys_set (h : Mirrored text s)
    (hagent : agent.capabilityKeys = extractTokenKeys text agent.card) {other : String}
    {found : RegisteredAgent} (hget : (s.agents.set did agent).get? other = some found) :
    found.capabilityKeys = extractTokenKeys text found.card := by
  rw [Record.get?_set] at hget
  split at hget
  · rw [← Option.some.inj hget]
    exact hagent
  · exact h.keys other found hget

/-- **A new record**, with the indexes of its keys. -/
theorem Mirrored.set (h : Mirrored text s) (hagents : s'.agents = s.agents.set did agent)
    (hcapabilities : Mirrors s'.capPrefixIndex
      (Function.update (s.keysBy (AgentRegistry.capabilityKeys text)) did
        (if agent.discoverable then AgentRegistry.capabilityKeys text agent.card else [])))
    (htokens : Mirrors s'.tokenIndex
      (Function.update (s.keysBy (extractTokenKeys text)) did
        (if agent.discoverable then extractTokenKeys text agent.card else [])))
    (hagent : agent.capabilityKeys = extractTokenKeys text agent.card) : Mirrored text s' := by
  have hkeys {α : Type} (keys : AgentCard → List α) :
      s'.keysBy keys = (s.setAgent did agent).keysBy keys := by
    funext other
    rw [AgentRegistry.keysBy, AgentRegistry.keysBy, hagents]
    rfl
  refine ⟨?_, ?_, fun other found hget => ?_⟩
  · rw [hkeys, keysBy_set]
    exact hcapabilities
  · rw [hkeys, keysBy_set]
    exact htokens
  · rw [hagents] at hget
    exact h.keys_set hagent hget

/-- An agent that is not registered has no keys. -/
theorem update_keysBy_of_none {α : Type} (keys : AgentCard → List α)
    (h : s.agents.get? did = none) :
    Function.update (s.keysBy keys) did [] = s.keysBy keys := by
  have hnil : s.keysBy keys did = [] := by
    rw [AgentRegistry.keysBy, h]
  rw [← hnil, Function.update_eq_self]

/-! ### One operation -/

theorem Mirrored.register (h : Mirrored text s) (did : String) (card : AgentCard) (realm : String)
    (tokenJti : Option String) (tokenExp : Option ℕ) (now : ℕ) :
    Mirrored text (s.register text did card realm tokenJti tokenExp now) := by
  rw [AgentRegistry.register]
  cases hget : s.agents.get? did with
  | none =>
    refine h.set rfl ?_ ?_ rfl
    · show Mirrors s.capPrefixIndex _
      rw [if_neg Bool.false_ne_true, update_keysBy_of_none _ hget]
      exact h.capabilities
    · show Mirrors s.tokenIndex _
      rw [if_neg Bool.false_ne_true, update_keysBy_of_none _ hget]
      exact h.tokens
  | some existing =>
    dsimp only
    obtain ⟨hcapabilities, htokens⟩ := h.unindex hget
    refine h.set agents_setAgent_unindex ?_ ?_ ?_
    · rw [if_neg Bool.false_ne_true]
      exact hcapabilities
    · rw [if_neg Bool.false_ne_true]
      exact htokens
    · rfl

/-- **An agent that is not discoverable is published.** -/
theorem Mirrored.publishHidden (h : Mirrored text s) (hget : s.agents.get? did = some agent)
    (hhidden : agent.discoverable = false) (card : AgentCard) :
    Mirrored text
      ((s.setAgent did { agent with
          card := card
          capabilityKeys := extractTokenKeys text card
          discoverable := true }).addToIndexes text did
        { agent with
          card := card
          capabilityKeys := extractTokenKeys text card
          discoverable := true }) := by
  have hadded {α : Type} [DecidableEq α] {index : α → Finset String} {keys : AgentCard → List α}
      (hmirrors : Mirrors index (s.keysBy keys)) : Mirrors (addKeys index did (keys card))
        (Function.update (s.keysBy keys) did (keys card)) := by
    have hnew := @Mirrors.addKeys _ _ _ _ _ did (Function.update (s.keysBy keys) did (keys card)) _
      hmirrors (keysBy_of_hidden keys hget hhidden) fun b hb => Function.update_of_ne hb ..
    rw [Function.update_self] at hnew
    exact hnew
  refine h.set rfl ?_ ?_ rfl
  · rw [if_pos rfl]
    show Mirrors (addKeys s.capPrefixIndex did (AgentRegistry.capabilityKeys text card)) _
    exact hadded h.capabilities
  · rw [if_pos rfl]
    show Mirrors (addKeys s.tokenIndex did (extractTokenKeys text card)) _
    exact hadded h.tokens

/-- A record that is as discoverable as before, with the same card. -/
theorem Mirrored.same (h : Mirrored text s) (hget : s.agents.get? did = some agent)
    {agent' : RegisteredAgent} (hcard : agent'.card = agent.card)
    (hkeys : agent'.capabilityKeys = agent.capabilityKeys)
    (hdiscoverable : agent'.discoverable = agent.discoverable) :
    Mirrored text (s.setAgent did agent') := by
  refine h.set rfl ?_ ?_ ?_
  · rw [hcard, hdiscoverable, ← keysBy_of_some _ hget, Function.update_eq_self]
    exact h.capabilities
  · rw [hcard, hdiscoverable, ← keysBy_of_some _ hget, Function.update_eq_self]
    exact h.tokens
  · rw [hkeys, hcard]
    exact h.keys did agent hget

theorem Mirrored.publish (h : Mirrored text s) {card : Option AgentCard}
    (hcalm : s.Calm text (.publish did card)) : Mirrored text (s.publish text did card) := by
  rw [AgentRegistry.publish]
  cases hget : s.agents.get? did with
  | none => exact h
  | some agent =>
    dsimp only
    cases card with
    | none =>
      dsimp only
      by_cases hdiscoverable : agent.discoverable = true
      · rw [if_neg (by simp [hdiscoverable])]
        exact h.same hget rfl rfl rfl
      · have hhidden := Bool.eq_false_iff.mpr hdiscoverable
        have hpublished := h.publishHidden hget hhidden agent.card
        rw [← h.keys did agent hget] at hpublished
        rw [if_pos (by simp [hhidden])]
        exact hpublished
    | some card =>
      dsimp only
      by_cases hdiscoverable : agent.discoverable = true
      · -- the keys of the old card are taken out, and the new one has none
        obtain ⟨hnoCapability, hnoToken⟩ := hcalm agent hget hdiscoverable
        obtain ⟨hcapabilities, htokens⟩ := h.unindex hget
        rw [if_neg (by simp [hdiscoverable])]
        refine h.set agents_setAgent_unindex ?_ ?_ ?_
        · rw [if_pos hdiscoverable, hnoCapability]
          exact hcapabilities
        · rw [if_pos hdiscoverable, hnoToken]
          exact htokens
        · rfl
      · have hhidden := Bool.eq_false_iff.mpr hdiscoverable
        have hsame : s.unindex text did agent = s := if_neg hdiscoverable
        rw [if_pos (by simp [hhidden]), hsame]
        exact h.publishHidden hget hhidden card

theorem Mirrored.unpublish (h : Mirrored text s) (did : String) :
    Mirrored text (s.unpublish text did) := by
  rw [AgentRegistry.unpublish]
  cases hget : s.agents.get? did with
  | none => exact h
  | some agent =>
    dsimp only
    split
    · rename_i hdiscoverable
      obtain ⟨hcapabilities, htokens⟩ := h.unindex hget
      rw [AgentRegistry.unindex, if_pos hdiscoverable] at hcapabilities htokens
      refine h.set rfl ?_ ?_ (h.keys did agent hget)
      · rw [if_neg Bool.false_ne_true]
        exact hcapabilities
      · rw [if_neg Bool.false_ne_true]
        exact htokens
    · exact h

theorem Mirrored.unregister (h : Mirrored text s) (did : String) :
    Mirrored text (s.unregister text did) := by
  rw [AgentRegistry.unregister]
  cases hget : s.agents.get? did with
  | none => exact h
  | some agent =>
    dsimp only
    obtain ⟨hcapabilities, htokens⟩ := h.unindex hget
    refine ⟨?_, ?_, fun other found hfound => ?_⟩
    · rw [keysBy_erase, keysBy_unindex]
      exact hcapabilities
    · rw [keysBy_erase, keysBy_unindex]
      exact htokens
    · dsimp only at hfound
      rw [Record.get?_erase] at hfound
      split at hfound
      · cases hfound
      · rw [agents_unindex] at hfound
        exact h.keys other found hfound

theorem Mirrored.markOffline (h : Mirrored text s) (did : String) (now : ℕ) :
    Mirrored text (s.markOffline did now) := by
  rw [AgentRegistry.markOffline]
  cases hget : s.agents.get? did with
  | none => exact h
  | some agent => exact h.same hget rfl rfl rfl

theorem Mirrored.cleanup (h : Mirrored text s) (now : ℕ) : Mirrored text (s.cleanup text now) := by
  rw [AgentRegistry.cleanup]
  generalize s.agents.entries = entries
  induction entries generalizing s with
  | nil => exact h
  | cons entry entries ih =>
    rw [List.foldl_cons]
    refine ih ?_
    split
    · exact h.unregister entry.1
    · exact h

/-- **The step.** -/
theorem Mirrored.step {event : RegistryEvent} (h : Mirrored text s)
    (hstep : CalmRegistryStep text s event s') : Mirrored text s' := by
  obtain ⟨rfl, hcalm⟩ := hstep
  cases event with
  | register did card realm tokenJti tokenExp now =>
    exact h.register did card realm tokenJti tokenExp now
  | publish did card => exact h.publish hcalm
  | unpublish did => exact h.unpublish did
  | unregister did => exact h.unregister did
  | markOffline did now => exact h.markOffline did now
  | cleanup now => exact h.cleanup now

end

/-! ### Runs -/

/-- The agents that an index has under a key. -/
theorem Mirrors.mem_iff {α : Type} {index : α → Finset String} {keys : AgentCard → List α}
    {s : AgentRegistry} (h : Mirrors index (s.keysBy keys)) {k : α} {did : String} :
    did ∈ index k ↔ ∃ agent, s.agents.get? did = some agent ∧ agent.discoverable = true ∧
      k ∈ keys agent.card := by
  rw [h k did, AgentRegistry.keysBy]
  cases hget : s.agents.get? did with
  | none => simp
  | some agent =>
    dsimp only
    constructor
    · intro hmem
      split at hmem
      · rename_i hdiscoverable
        exact ⟨agent, rfl, hdiscoverable, hmem⟩
      · exact absurd hmem List.not_mem_nil
    · rintro ⟨found, hfound, hdiscoverable, hmem⟩
      obtain rfl := Option.some.inj hfound
      rw [if_pos hdiscoverable]
      exact hmem

/-- **The indexes mirror the cards.**  In every run of calm steps the agents under a prefix are the
discoverable ones with a capability that is the prefix or below it, and those under a token are the
discoverable ones whose card has it. -/
theorem indexes_mirror {text : TextFunctions} {s : AgentRegistry} {events : List RegistryEvent}
    (h : Trace (CalmRegistryStep text) .empty events s) :
    (∀ p did, did ∈ s.lookup p ↔ ∃ agent, s.agents.get? did = some agent ∧
      agent.discoverable = true ∧
      ∃ capId ∈ extractCapabilityIds agent.card, isBelow (text.toLowerCase capId) p = true) ∧
    ∀ token did, did ∈ s.tokenIndex token ↔ ∃ agent, s.agents.get? did = some agent ∧
      agent.discoverable = true ∧ token ∈ extractTokenKeys text agent.card := by
  have hmirrored : Mirrored text s :=
    h.invariant (fun _ s => Mirrored text s) mirrored_empty fun _ hmirrored hstep =>
      hmirrored.step hstep
  refine ⟨fun p did => ?_, fun token did => Mirrors.mem_iff hmirrored.tokens⟩
  rw [AgentRegistry.lookup, Mirrors.mem_iff hmirrored.capabilities]
  simp only [AgentRegistry.capabilityKeys, List.mem_flatMap, mem_capabilityPrefixes]

/-! ### A card that is published again -/

def translatorCard : AgentCard :=
  ⟨"Translator", "Japanese to English", [⟨"translate/japanese", "", ""⟩]⟩

/-- The card with another capability. -/
def extendedCard : AgentCard :=
  ⟨"Translator", "Japanese to English",
    [⟨"translate/japanese", "", ""⟩, ⟨"translate/korean", "", ""⟩]⟩

def registered : RegistryEvent :=
  .register "did:agent:alice" translatorCard "public" none none 0

def registeredRegistry : AgentRegistry := AgentRegistry.empty.step plainText registered

def publishedRegistry : AgentRegistry :=
  registeredRegistry.step plainText (.publish "did:agent:alice" none)

theorem indexes_mirror_sample :
    Trace (CalmRegistryStep plainText) .empty [registered, .publish "did:agent:alice" none]
        publishedRegistry ∧
      (∀ p did, did ∈ publishedRegistry.lookup p ↔
        ∃ agent, publishedRegistry.agents.get? did = some agent ∧ agent.discoverable = true ∧
          ∃ capId ∈ extractCapabilityIds agent.card,
            isBelow (plainText.toLowerCase capId) p = true) ∧
      ∀ token did, did ∈ publishedRegistry.tokenIndex token ↔
        ∃ agent, publishedRegistry.agents.get? did = some agent ∧ agent.discoverable = true ∧
          token ∈ extractTokenKeys plainText agent.card := by
  have htrace : Trace (CalmRegistryStep plainText) .empty
      [registered, .publish "did:agent:alice" none] publishedRegistry :=
    (Trace.single ⟨rfl, trivial⟩).snoc ⟨rfl, trivial⟩
  exact ⟨htrace, indexes_mirror htrace⟩

def republishedRegistry : AgentRegistry :=
  publishedRegistry.step plainText (.publish "did:agent:alice" (some extendedCard))

/-- **A card that is published again** takes the agent from the indexes: it is discoverable and
translates, and no prefix has it. -/
theorem republished_unindexed :
    Trace (RegistryStep plainText) .empty [registered, .publish "did:agent:alice" none,
        .publish "did:agent:alice" (some extendedCard)] republishedRegistry ∧
      (∃ agent, republishedRegistry.agents.get? "did:agent:alice" = some agent ∧
        agent.discoverable = true ∧ ∃ capId ∈ extractCapabilityIds agent.card,
          isBelow (plainText.toLowerCase capId) "translate" = true) ∧
      "did:agent:alice" ∉ republishedRegistry.lookup "translate" := by
  refine ⟨((Trace.single rfl).snoc rfl).snoc rfl, ?_, by decide +kernel⟩
  have hagent : (republishedRegistry.agents.get? "did:agent:alice").map (fun agent =>
      (agent.discoverable, agent.card)) = some (true, extendedCard) := by
    decide +kernel
  obtain ⟨agent, hget, hfields⟩ := Option.map_eq_some_iff.mp hagent
  obtain ⟨hdiscoverable, hcard⟩ := Prod.mk.inj hfields
  refine ⟨agent, hget, hdiscoverable, "translate/japanese", ?_, by decide +kernel⟩
  rw [hcard]
  decide +kernel

end QuadraA.Relay.Registry
