import Mathlib.Data.List.Induction
import QuadraA.Lib.KeyRange
import QuadraA.Lib.NumberText

/-!
# The history of interactions

`interaction-history.ts`: the interactions with each agent, one entry of a database each, and what
the trust score and the automatic block read of them.

* `stats_count_every_interaction` — the statistics are those of all interactions as long as these
  are kept apart: at different times, with no agent that goes on from another one with a colon,
  and, from the twenty-first on, at times whose texts are in their order;
* `same_millisecond_lost` — of two interactions in one millisecond, one is counted.

The fields of an interaction that no statistic reads are left out.
-/

namespace QuadraA.Trust

open QuadraA.Lib

structure Interaction where
  agentDid : String
  timestamp : JsFinite
  success : Bool
  responseTime : JsFinite

structure InteractionStats where
  totalInteractions : ℕ
  successRate : JsNumber
  recentSuccessRate : JsNumber
  avgResponseTime : JsNumber
  lastInteraction : ℚ

/-- The keys and values of the database. -/
abbrev InteractionDb := Record String Interaction

variable (choice : DigitChoice)

def interactionPrefix (agentDid : String) : String := "interaction:" ++ agentDid ++ ":"

/-- `interaction:${agentDid}:${timestamp}`. -/
def interactionKey (interaction : Interaction) : String :=
  interactionPrefix interaction.agentDid
    ++ String.ofList (numberToString choice interaction.timestamp)

def record (db : InteractionDb) (interaction : Interaction) : InteractionDb :=
  db.set (interactionKey choice interaction) interaction

/-- The entries from the prefix to the prefix with `\xff`, the last keys first. -/
def getHistory (db : InteractionDb) (agentDid : String) (limit : ℕ) : List Interaction :=
  let start := interactionPrefix agentDid
  ((db.range start (start ++ String.singleton 'ÿ')).reverse.take limit).map Prod.snd

/-- `successCount / history.length`. -/
def successRate (history : List Interaction) : JsNumber :=
  (JsNumber.finite (history.countP Interaction.success)).divCount history.length

def totalResponseTime (history : List Interaction) : JsNumber :=
  history.foldl (fun sum i => sum.add (.finite i.responseTime.value)) (.finite 0)

/-- Without a history, a new agent is taken to be good. -/
def getStats (db : InteractionDb) (agentDid : String) : InteractionStats :=
  match getHistory db agentDid 1000 with
  | [] =>
      { totalInteractions := 0
        successRate := .finite 0
        recentSuccessRate := .finite 1
        avgResponseTime := .finite 0
        lastInteraction := 0 }
  | newest :: older =>
      let history := newest :: older
      { totalInteractions := history.length
        successRate := successRate history
        recentSuccessRate := successRate (history.take 20)
        avgResponseTime := (totalResponseTime history).divCount history.length
        lastInteraction := newest.timestamp.value }

/-- **Any calls of `record`**, from an empty database. -/
def recordAll (interactions : List Interaction) : InteractionDb :=
  interactions.foldl (record choice) .empty

/-! ### What the statistics are about -/

/-- The interactions with an agent. -/
def ofAgent (agentDid : String) (interactions : List Interaction) : List Interaction :=
  interactions.filter fun i => i.agentDid = agentDid

/-- **The latest of all**: the first of them when they are sorted by time, those of one time in any
order. -/
def IsLatest (count : ℕ) (all latest : List Interaction) : Prop :=
  ∃ sorted : List Interaction, sorted.Perm all ∧
    sorted.Pairwise (fun i j => j.timestamp.value ≤ i.timestamp.value) ∧
    latest = sorted.take count

/-- **Every interaction is counted**: up to a thousand in the total, and the twenty latest in the
recent rate. -/
def CountsEvery (stats : InteractionStats) (all : List Interaction) : Prop :=
  stats.totalInteractions = min 1000 all.length ∧
    (all ≠ [] → ∃ latest, IsLatest 20 all latest ∧ stats.recentSuccessRate = successRate latest)

/-- **An agent that goes on from another one** with a colon, and with a letter below the end of the
range if there is one. -/
def Confused (agentDid other : String) : Prop :=
  ∃ rest, other.toList = agentDid.toList ++ ':' :: rest ∧ ∀ c ∈ rest.head?, c < 'ÿ'

/-- **Interactions that are kept apart**, as they are read of one agent. -/
structure KeptApart (agentDid : String) (interactions : List Interaction) : Prop where
  times : ((ofAgent agentDid interactions).map Interaction.timestamp).Nodup
  others : ∀ i ∈ interactions, ¬Confused agentDid i.agentDid
  order : 20 < (ofAgent agentDid interactions).length → ∀ i ∈ ofAgent agentDid interactions,
    ∀ j ∈ ofAgent agentDid interactions, i.timestamp.value < j.timestamp.value →
      String.ofList (numberToString choice i.timestamp)
        < String.ofList (numberToString choice j.timestamp)

/-! ### The keys -/

variable {agentDid : String} {interactions : List Interaction} {i j : Interaction}

theorem toList_interactionPrefix (agentDid : String) :
    (interactionPrefix agentDid).toList
      = "interaction:".toList ++ (agentDid.toList ++ [':']) := by
  rw [interactionPrefix, String.toList_append, String.toList_append, List.append_assoc]
  rfl

theorem toList_interactionKey (i : Interaction) :
    (interactionKey choice i).toList
      = (interactionPrefix i.agentDid).toList ++ numberToString choice i.timestamp := by
  rw [interactionKey, String.toList_append, String.toList_ofList]

theorem colon_not_mem_numberToString (x : JsFinite) : ':' ∉ numberToString choice x := by
  intro hmem
  have hchar := isNumberChar_numberToString choice x ':' hmem
  exact absurd hchar (by decide)

/-- The entries of an agent are in its range. -/
theorem inPrefixRange_interactionKey (i : Interaction) :
    InPrefixRange (interactionPrefix i.agentDid) 'ÿ' (interactionKey choice i) := by
  obtain ⟨c, rest, htext, hc⟩ := head_numberToString choice i.timestamp
  refine inPrefixRange_append (c := c) (t := rest) (by rw [String.toList_ofList, htext]) ?_
  rcases hc with rfl | hc
  · decide
  · rw [Char.isDigit, Bool.and_eq_true, decide_eq_true_eq, decide_eq_true_eq] at hc
    exact lt_of_le_of_lt (show c ≤ '9' from hc.2) (by decide)

/-- **Another agent with an entry in the range** goes on from the agent with a colon. -/
theorem confused_of_inPrefixRange (hne : i.agentDid ≠ agentDid)
    (h : InPrefixRange (interactionPrefix agentDid) 'ÿ' (interactionKey choice i)) :
    Confused agentDid i.agentDid := by
  -- what follows the prefix: nothing, a letter below the last one, or the last one alone
  obtain ⟨follow, hkey, hfollow⟩ : ∃ follow, (interactionKey choice i).toList
      = (interactionPrefix agentDid).toList ++ follow ∧
        (follow = ['ÿ'] ∨ ∀ c ∈ follow.head?, c < 'ÿ') := by
    rcases inPrefixRange_iff.mp h with hkey | ⟨c, t, hkey, hc | ⟨rfl, rfl⟩⟩
    · exact ⟨[], hkey.trans (List.append_nil _).symm, Or.inr fun c hc => by cases hc⟩
    · exact ⟨c :: t, hkey, Or.inr fun _ hd => Option.some.inj hd ▸ hc⟩
    · exact ⟨['ÿ'], hkey, Or.inl rfl⟩
  rw [toList_interactionKey, toList_interactionPrefix, toList_interactionPrefix, List.append_assoc,
    List.append_assoc, List.append_assoc, List.append_assoc, List.append_cancel_left_eq,
    List.singleton_append, List.singleton_append] at hkey
  have hcolon := colon_not_mem_numberToString choice i.timestamp
  rcases List.append_eq_append_iff.mp hkey with ⟨x, hdid, htext⟩ | ⟨x, hdid, hrest⟩
  · -- the agent would be the longer one, with a colon in the time
    exfalso
    cases x with
    | nil => exact hne (String.toList_inj.mp (by rw [hdid, List.append_nil]))
    | cons c y =>
      have htail : numberToString choice i.timestamp = y ++ ':' :: follow :=
        (List.cons.inj htext).2
      rw [htail] at hcolon
      exact hcolon (List.mem_append_right _ (List.mem_cons_self ..))
  · cases x with
    | nil => exact absurd (String.toList_inj.mp (by rw [hdid, List.append_nil])) hne
    | cons c y =>
      obtain rfl : ':' = c := (List.cons.inj hrest).1
      refine ⟨y, hdid, fun c hc => ?_⟩
      obtain ⟨y, rfl⟩ : ∃ tail, y = c :: tail := by
        cases y with
        | nil => cases hc
        | cons c' tail => exact ⟨tail, by rw [Option.some.inj hc]⟩
      obtain rfl := (List.cons.inj hrest).2
      rcases hfollow with hlast | hhead
      · -- the end of the range has nothing behind it
        have hnil := (List.cons.inj hlast).2
        exact absurd hnil (List.append_ne_nil_of_right_ne_nil _ (List.cons_ne_nil _ _))
      · exact hhead c rfl

theorem interactionKey_inj (hdid : i.agentDid = j.agentDid)
    (hkey : interactionKey choice i = interactionKey choice j) : i.timestamp = j.timestamp := by
  have htext := congrArg String.toList hkey
  rw [toList_interactionKey, toList_interactionKey, hdid, List.append_cancel_left_eq] at htext
  exact numberToString_injective choice htext

/-! ### What is kept -/

/-- **What a database keeps** of the interactions: each entry is one of them, and each of them has
an entry under its key. -/
structure Stored (interactions : List Interaction) (db : InteractionDb) : Prop where
  recorded : ∀ key i, db.get? key = some i → i ∈ interactions ∧ interactionKey choice i = key
  kept : ∀ i ∈ interactions, ∃ j, db.get? (interactionKey choice i) = some j

/-- **One call** of `record`. -/
theorem Stored.record {db : InteractionDb} (h : Stored choice interactions db) (i : Interaction) :
    Stored choice (interactions ++ [i]) (record choice db i) := by
  constructor
  · intro key j hget
    rw [Trust.record, Record.get?_set] at hget
    split at hget
    · rename_i hkey
      obtain rfl := Option.some.inj hget
      exact ⟨List.mem_append_right _ (List.mem_singleton_self _), hkey⟩
    · obtain ⟨hmem, hkey⟩ := h.recorded key j hget
      exact ⟨List.mem_append_left _ hmem, hkey⟩
  · intro j hj
    rw [Trust.record, Record.get?_set]
    split
    · exact ⟨i, rfl⟩
    · rename_i hkey
      rcases List.mem_append.mp hj with hj | hj
      · exact h.kept j hj
      · rw [List.mem_singleton.mp hj] at hkey
        exact absurd rfl hkey

/-- **Any calls** of `record`. -/
theorem stored_run (interactions : List Interaction) :
    Stored choice interactions (recordAll choice interactions) := by
  induction interactions using List.reverseRecOn with
  | nil => exact ⟨fun key i hget => (by cases hget), fun i hi => (by cases hi)⟩
  | append_singleton interactions i ih =>
    rw [recordAll, List.foldl_append]
    exact ih.record choice i

theorem mem_ofAgent : i ∈ ofAgent agentDid interactions ↔
    i ∈ interactions ∧ i.agentDid = agentDid := by
  rw [ofAgent, List.mem_filter, decide_eq_true_eq]

/-- **The entries in the range of an agent** are its interactions. -/
theorem KeptApart.perm_range (h : KeptApart choice agentDid interactions) :
    (((recordAll choice interactions).range (interactionPrefix agentDid)
      (interactionPrefix agentDid ++ String.singleton 'ÿ')).map Prod.snd).Perm
      (ofAgent agentDid interactions) := by
  have hstored := stored_run choice interactions
  have hdid {i : Interaction} (hi : i ∈ interactions)
      (hrange : InPrefixRange (interactionPrefix agentDid) 'ÿ' (interactionKey choice i)) :
      i.agentDid = agentDid := by
    by_contra hne
    exact h.others i hi (confused_of_inPrefixRange choice hne hrange)
  refine (List.perm_ext_iff_of_nodup ?_ (List.Nodup.of_map _ h.times)).mpr fun i => ?_
  · -- a value is under its own key only
    have hnodup := Record.nodup_keys_range (recordAll choice interactions)
      (interactionPrefix agentDid) (interactionPrefix agentDid ++ String.singleton 'ÿ')
    refine List.Nodup.of_map (interactionKey choice) ?_
    rw [List.map_map]
    refine (List.map_congr_left fun e he => ?_) ▸ hnodup
    exact (hstored.recorded e.1 e.2 (Record.mem_range.mp he).1).2.symm
  · rw [List.mem_map, mem_ofAgent]
    constructor
    · rintro ⟨⟨key, i⟩, hrange, rfl⟩
      obtain ⟨hget, hbetween⟩ := Record.mem_range.mp hrange
      obtain ⟨hmem, rfl⟩ := hstored.recorded key i hget
      exact ⟨hmem, hdid hmem hbetween⟩
    · rintro ⟨hmem, rfl⟩
      obtain ⟨j, hget⟩ := hstored.kept i hmem
      obtain ⟨hj, hkey⟩ := hstored.recorded _ j hget
      -- what is kept under the key has the same agent and the same time, so it is the interaction
      have hrange := inPrefixRange_interactionKey choice i
      have hsame : j = i := by
        have hagent := hdid hj (by rw [hkey]; exact hrange)
        exact List.inj_on_of_nodup_map h.times (mem_ofAgent.mpr ⟨hj, hagent⟩)
          (mem_ofAgent.mpr ⟨hmem, rfl⟩) (interactionKey_inj choice hagent hkey)
      rw [hsame] at hget
      exact ⟨(interactionKey choice i, i), Record.mem_range.mpr ⟨hget, hrange⟩, rfl⟩

/-! ### The statistics -/

theorem getHistory_eq (db : InteractionDb) (agentDid : String) (limit : ℕ) :
    getHistory db agentDid limit = ((db.range (interactionPrefix agentDid)
      (interactionPrefix agentDid ++ String.singleton 'ÿ')).map Prod.snd).reverse.take limit := by
  rw [getHistory, List.map_take, List.map_reverse]

/-- What the statistics are of a history. -/
theorem getStats_eq (db : InteractionDb) (agentDid : String) :
    (getStats db agentDid).totalInteractions = (getHistory db agentDid 1000).length ∧
      (getHistory db agentDid 1000 ≠ [] → (getStats db agentDid).recentSuccessRate
        = successRate ((getHistory db agentDid 1000).take 20)) := by
  rw [getStats]
  cases getHistory db agentDid 1000 with
  | nil => exact ⟨rfl, fun hne => absurd rfl hne⟩
  | cons newest older => exact ⟨rfl, fun _ => rfl⟩

theorem successRate_perm {left right : List Interaction} (h : left.Perm right) :
    successRate left = successRate right := by
  rw [successRate, successRate, h.countP_eq, h.length_eq]

/-- The keys of one agent are in the order of the texts of its times. -/
theorem interactionKey_lt (hdid : i.agentDid = j.agentDid)
    (h : String.ofList (numberToString choice i.timestamp)
      < String.ofList (numberToString choice j.timestamp)) :
    interactionKey choice i < interactionKey choice j := by
  rw [String.lt_iff_toList_lt, String.toList_ofList, String.toList_ofList] at h
  rw [String.lt_iff_toList_lt, toList_interactionKey, toList_interactionKey, hdid]
  exact List.append_left_lt h

/-- **The entries of an agent** are sorted by their times, when the texts of these are. -/
theorem KeptApart.pairwise_range (h : KeptApart choice agentDid interactions)
    (hmany : 20 < (ofAgent agentDid interactions).length) :
    (((recordAll choice interactions).range (interactionPrefix agentDid)
      (interactionPrefix agentDid ++ String.singleton 'ÿ')).map Prod.snd).Pairwise
      fun i j => i.timestamp.value ≤ j.timestamp.value := by
  have hstored := stored_run choice interactions
  rw [List.pairwise_map]
  refine List.Pairwise.imp_of_mem (fun {e e'} he he' hkeys => ?_) (Record.pairwise_range _ _ _)
  have hof {e : String × Interaction} (he : e ∈ (recordAll choice interactions).range
      (interactionPrefix agentDid) (interactionPrefix agentDid ++ String.singleton 'ÿ')) :
      e.2 ∈ ofAgent agentDid interactions :=
    (h.perm_range).mem_iff.mp (List.mem_map_of_mem he)
  have hkey {e : String × Interaction} (he : e ∈ (recordAll choice interactions).range
      (interactionPrefix agentDid) (interactionPrefix agentDid ++ String.singleton 'ÿ')) :
      interactionKey choice e.2 = e.1 :=
    (hstored.recorded e.1 e.2 (Record.mem_range.mp he).1).2
  by_contra hlt
  have hdid : e'.2.agentDid = e.2.agentDid :=
    (mem_ofAgent.mp (hof he')).2.trans (mem_ofAgent.mp (hof he)).2.symm
  have hkeys' := interactionKey_lt choice hdid
    (h.order hmany _ (hof he') _ (hof he) (not_le.mp hlt))
  rw [hkey he, hkey he'] at hkeys'
  exact absurd hkeys (not_le.mpr hkeys')

/-- **The statistics count every interaction** that is kept apart from the others. -/
theorem stats_count_every_interaction (choice : DigitChoice) (agentDid : String)
    (interactions : List Interaction) (h : KeptApart choice agentDid interactions) :
    CountsEvery (getStats (recordAll choice interactions) agentDid)
      (ofAgent agentDid interactions) := by
  obtain ⟨htotal, hrecent⟩ := getStats_eq (recordAll choice interactions) agentDid
  have hperm := h.perm_range
  have hhistory := getHistory_eq (recordAll choice interactions) agentDid 1000
  generalize hentries : ((recordAll choice interactions).range (interactionPrefix agentDid)
    (interactionPrefix agentDid ++ String.singleton 'ÿ')).map Prod.snd = entries at hperm hhistory
  constructor
  · rw [htotal, hhistory, List.length_take, List.length_reverse, hperm.length_eq]
  · intro hne
    have hreverse := (List.reverse_perm entries).trans hperm
    have hnonempty : getHistory (recordAll choice interactions) agentDid 1000 ≠ [] := by
      rw [hhistory, ne_eq, List.take_eq_nil_iff, not_or]
      refine ⟨by decide, fun hnil => hne ?_⟩
      rw [hnil] at hreverse
      exact hreverse.nil_eq.symm
    rw [hrecent hnonempty, hhistory, List.take_take, Nat.min_eq_left (by decide)]
    by_cases hmany : 20 < (ofAgent agentDid interactions).length
    · -- the last keys are the latest times
      refine ⟨_, ⟨entries.reverse, hreverse, ?_, rfl⟩, rfl⟩
      rw [List.pairwise_reverse, ← hentries]
      exact h.pairwise_range choice hmany
    · -- all of them are the latest
      have hle := not_lt.mp hmany
      refine ⟨_, ⟨(ofAgent agentDid interactions).mergeSort fun i j =>
        decide (j.timestamp.value ≤ i.timestamp.value), List.mergeSort_perm _ _, ?_, rfl⟩, ?_⟩
      · refine (List.pairwise_mergeSort (fun a b c hab hbc => ?_) (fun a b => ?_) _).imp
          fun hij => of_decide_eq_true hij
        · rw [decide_eq_true_eq] at hab hbc ⊢
          exact hbc.trans hab
        · rw [Bool.or_eq_true, decide_eq_true_eq, decide_eq_true_eq]
          exact le_total _ _
      · rw [List.take_of_length_le (by rw [hreverse.length_eq]; exact hle),
          List.take_of_length_le (by rw [List.length_mergeSort]; exact hle)]
        exact successRate_perm (hreverse.trans (List.mergeSort_perm _ _).symm)

/-! ### One millisecond -/

/-- A failure, and a success in the same millisecond. -/
def sampleFailure : Interaction where
  agentDid := "did:agent:zA"
  timestamp := ⟨1700000000000, by decide +kernel⟩
  success := false
  responseTime := ⟨0, by decide +kernel⟩

def sampleSuccess : Interaction := { sampleFailure with success := true }

/-- **Of two interactions in one millisecond**, one is counted. -/
theorem same_millisecond_lost :
    ¬CountsEvery (getStats (recordAll shortestDigits [sampleFailure, sampleSuccess])
        "did:agent:zA") (ofAgent "did:agent:zA" [sampleFailure, sampleSuccess]) := by
  rintro ⟨htotal, -⟩
  have hdb : recordAll shortestDigits [sampleFailure, sampleSuccess]
      = Record.empty.set (interactionKey shortestDigits sampleFailure) sampleSuccess :=
    Record.set_set _ _ _ _
  have hentry : (getHistory (Record.empty.set (interactionKey shortestDigits sampleFailure)
      sampleSuccess) "did:agent:zA" 1000).length ≤ 1 := by
    rw [getHistory_eq, List.length_take, List.length_reverse, List.length_map, Record.range,
      List.length_mergeSort]
    exact (Nat.min_le_right _ _).trans (List.length_filter_le _ _)
  have hall : (ofAgent "did:agent:zA" [sampleFailure, sampleSuccess]).length = 2 := by
    decide +kernel
  rw [(getStats_eq _ _).1, hdb, hall] at htotal
  omega

/-- An agent that is no longer than another one does not go on from it. -/
theorem not_confused {other : String} (h : other.toList.length ≤ agentDid.toList.length) :
    ¬Confused agentDid other := by
  rintro ⟨rest, hother, -⟩
  rw [hother, List.length_append, List.length_cons] at h
  omega

/-- Interactions at two times, and one with another agent. -/
theorem stats_count_sample :
    let later := { sampleSuccess with timestamp := ⟨1700000000001, by decide +kernel⟩ }
    let other := { sampleFailure with agentDid := "did:agent:zB" }
    CountsEvery (getStats (recordAll shortestDigits [sampleFailure, later, other]) "did:agent:zA")
      (ofAgent "did:agent:zA" [sampleFailure, later, other]) := by
  intro later other
  refine stats_count_every_interaction shortestDigits "did:agent:zA" _ ⟨?_, ?_, ?_⟩
  · refine List.Nodup.of_map JsFinite.value ?_
    decide +kernel
  · have hlength : ∀ i ∈ [sampleFailure, later, other],
        i.agentDid.toList.length ≤ "did:agent:zA".toList.length := by
      decide +kernel
    exact fun i hi => not_confused (hlength i hi)
  · intro hmany
    exact absurd hmany (by decide +kernel)

end QuadraA.Trust
