import QuadraA.Lib.Paging
import QuadraA.Messaging.ThreadRuns

/-!
# The order of messages and their pages

`timestamp.ts` and `queryMessages` of `storage.ts`: the messages of a direction that a filter takes,
newest first, in pages of a limit.

* `isStrictWeakOrder_compareMessages`, `compareMessages_eq_iff` — the order and its ties;
* `messages_in_pages` — the pages list every message once, newest first.
-/

namespace QuadraA.Messaging

open QuadraA.Lib

/-! ### The order -/

section

variable {α : Type} {cmp : α → α → Ordering}

/-- A lawful comparison is a strict weak order. -/
theorem isStrictWeakOrder_of_transCmp (h : Std.TransCmp cmp) :
    IsStrictWeakOrder α fun left right => cmp left right = .lt where
  irrefl left hlt := by
    have hself : cmp left left = .eq := Std.ReflCmp.compare_self
    rw [hself] at hlt
    cases hlt
  trans left middle right hleft hright := Std.TransCmp.lt_trans hleft hright
  incomp_trans left middle right hleft hright := by
    have heq {a b : α} (hnot : ¬cmp a b = .lt ∧ ¬cmp b a = .lt) : cmp a b = .eq := by
      obtain ⟨hab, hba⟩ := hnot
      rw [h.eq_swap] at hba
      cases hcmp : cmp a b with
      | lt => exact absurd hcmp hab
      | eq => rfl
      | gt => rw [hcmp] at hba; exact absurd rfl hba
    have hcmp := Std.TransCmp.eq_trans (heq hleft) (heq hright)
    rw [h.eq_swap (a := right), hcmp]
    exact ⟨nofun, nofun⟩

theorem compareBy_eq_iff {number : α → ℕ} {next : α → α → Ordering} {left right : α} :
    compareBy number next left right = .eq ↔
      number left = number right ∧ next left right = .eq := by
  rw [compareBy, Ordering.then_eq_eq, compare_eq_iff_eq]

end

/-- **The order of messages** is a strict weak order. -/
theorem isStrictWeakOrder_compareMessages (collation : Collation) :
    IsStrictWeakOrder NormalizedMessage fun left right =>
      compareMessagesBySortTimestamp collation left right = .lt :=
  isStrictWeakOrder_of_transCmp (transCmp_compareMessages collation)

/-- **Ties** have equal timestamps and equal ids. -/
theorem compareMessages_eq_iff {collation : Collation}
    (htotal : ∀ id id', collation.localeCompare id id' = .eq → id = id')
    {left right : NormalizedMessage} :
    compareMessagesBySortTimestamp collation left right = .eq ↔
      getMessageSortTimestamp left = getMessageSortTimestamp right ∧
        (getMessageLocalTimestamp left).getD 0 = (getMessageLocalTimestamp right).getD 0 ∧
        (getMessageEnvelopeTimestamp left).getD 0 = (getMessageEnvelopeTimestamp right).getD 0 ∧
        left.envelope.id = right.envelope.id := by
  rw [compareMessagesBySortTimestamp, compareBy_eq_iff, compareBy_eq_iff, compareBy_eq_iff]
  have hid : collation.localeCompare left.envelope.id right.envelope.id = .eq ↔
      left.envelope.id = right.envelope.id := by
    refine ⟨htotal _ _, fun heq => ?_⟩
    rw [heq]
    have := collation.lawful
    exact Std.ReflCmp.compare_self
  rw [hid]

/-! ### Queries -/

/-- `T | T[]`. -/
inductive OneOrMany (α : Type) where
  | one (value : α)
  | many (values : List α)

def OneOrMany.list {α : Type} : OneOrMany α → List α
  | .one value => [value]
  | .many values => values

/-- An empty text asks for nothing. -/
def OneOrMany.truthy : OneOrMany String → Bool
  | .one value => decide (value ≠ "")
  | .many _ => true

structure MessageFilter where
  fromDid : Option (OneOrMany String)
  toDid : Option (OneOrMany String)
  protocol : Option (OneOrMany String)
  minTrustScore : Option Float
  maxAge : Option ℤ
  type : Option MessageEnvelopeType
  replyTo : Option (OneOrMany String)
  unreadOnly : Bool
  status : Option (OneOrMany MessageStatus)
  threadId : Option String

/-- `{}`. -/
def MessageFilter.all : MessageFilter where
  fromDid := none
  toDid := none
  protocol := none
  minTrustScore := none
  maxAge := none
  type := none
  replyTo := none
  unreadOnly := false
  status := none
  threadId := none

/-- A text that is asked for is among those of the filter. -/
def asksFor (filter : Option (OneOrMany String)) (value : Option String) : Bool :=
  match filter.filter OneOrMany.truthy with
  | none => true
  | some values => value.any fun text => values.list.contains text

/-- `matchesFilter`, at the time `now`. -/
def matchesFilter (now : ℤ) (filter : MessageFilter) (msg : NormalizedMessage) : Bool :=
  asksFor filter.fromDid (some msg.envelope.sender) &&
  asksFor filter.toDid (some msg.envelope.receiver) &&
  asksFor filter.protocol (some msg.envelope.protocol) &&
  filter.type.all (fun type => decide (msg.envelope.type = type)) &&
  asksFor filter.replyTo (msg.envelope.replyTo.filter fun replyTo => decide (replyTo ≠ "")) &&
  !(filter.unreadOnly && msg.readAt.isSome) &&
  filter.status.all (fun status => decide (msg.status ∈ status.list)) &&
  filter.maxAge.all
    (fun maxAge => decide (maxAge = 0) || decide (now - getMessageSortTimestamp msg ≤ maxAge)) &&
  filter.minTrustScore.all (fun score => !decide (msg.trustScore.getD 0 < score)) &&
  filter.threadId.all
    (fun threadId => decide (threadId = "") || decide (msg.envelope.threadId = some threadId))

namespace MessageDb

/-- What a query collects, in the order of the keys. -/
def collectMessages (db : MessageDb) (direction : MessageDirection) (filter : MessageFilter)
    (now : ℤ) : List NormalizedMessage :=
  (db.messages.range (messagePrefix direction)
    (messagePrefix direction ++ String.singleton RANGE_END)).filterMap fun (_, value) =>
      (normalizeStoredMessage value).filter (matchesFilter now filter)

/-- **One page** of a direction, newest first. -/
def queryMessages (collation : Collation) (db : MessageDb) (direction : MessageDirection)
    (filter : MessageFilter) (now : ℤ) (limit offset : ℕ) : MessagePage :=
  let matches_ := (db.collectMessages direction filter now).mergeSort fun left right =>
    (compareMessagesBySortTimestamp collation right left).isLE
  let results := (matches_.drop offset).take limit
  { messages := results
    total := matches_.length
    hasMore := decide (offset + results.length < matches_.length) }

/-- **The messages that match**: all records under keys `msg:{direction}:…` that can be read and
that the filter takes. -/
def matchingMessages (db : MessageDb) (direction : MessageDirection) (filter : MessageFilter)
    (now : ℤ) : List NormalizedMessage :=
  db.messages.entries.filterMap fun (key, value) =>
    if (messagePrefix direction).toList.isPrefixOf key.toList then
      (normalizeStoredMessage value).filter (matchesFilter now filter)
    else none

end MessageDb

/-! ### Keys -/

/-- Every key says a direction, a timestamp and an id. -/
def HasMessageKeys (messages : Record String (StoredMessage JsonValue)) : Prop :=
  ∀ key value, messages.get? key = some value → ∃ direction timestamp id,
    key = storageKey direction (timestampSegment timestamp) id

variable {db : MessageDb} {messages : Record String (StoredMessage JsonValue)}

theorem HasMessageKeys.overwrite (h : HasMessageKeys messages) {key : String}
    {value : StoredMessage JsonValue} (hget : messages.get? key = some value)
    (value' : StoredMessage JsonValue) : HasMessageKeys (messages.set key value') := by
  intro key' value'' hget'
  rw [Record.get?_set] at hget'
  split at hget'
  · rename_i hkey
    exact hkey ▸ h key value hget
  · exact h key' value'' hget'

/-- **Every operation** keeps the keys. -/
theorem HasMessageKeys.apply (h : HasMessageKeys db.messages) (collation : Collation)
    (op : StorageOp) : HasMessageKeys (db.apply collation op).messages := by
  cases op with
  | put msg =>
    show HasMessageKeys (db.store collation msg).messages
    rcases store_cases collation db msg with ⟨_, hstore⟩ | ⟨message, key, existing, _, hfind,
      hstore⟩ | ⟨message, _, _, hstore⟩
    · rwa [hstore]
    · rw [hstore]
      obtain ⟨value, hget, -⟩ := of_find hfind
      exact h.overwrite hget _
    · rw [hstore, messages_insertMessage]
      intro key value hget
      rw [Record.get?_set] at hget
      split at hget
      · rename_i hkey
        exact ⟨_, _, _, hkey.symm⟩
      · exact h key value hget
  | delete id =>
    show HasMessageKeys (db.deleteMessage id).messages
    rw [MessageDb.deleteMessage]
    cases hfind : db.findStoredMessageRecord id with
    | none => exact h
    | some found =>
      obtain ⟨key, message⟩ := found
      have herase : HasMessageKeys (db.messages.erase key) := by
        intro key' value hget
        rw [Record.get?_erase] at hget
        split at hget
        · cases hget
        · exact h key' value hget
      dsimp only
      cases message.envelope.thread <;> exact herase
  | update id updates =>
    show HasMessageKeys (db.updateMessage id updates).messages
    rw [MessageDb.updateMessage]
    cases hfind : db.findStoredMessageRecord id with
    | none => exact h
    | some found =>
      obtain ⟨key, message⟩ := found
      obtain ⟨value, hget, -⟩ := of_find hfind
      exact h.overwrite hget _

/-- **A store that was used** has its messages under such keys. -/
theorem hasMessageKeys_run (collation : Collation) (ops : List StorageOp) :
    HasMessageKeys (MessageDb.empty.run collation ops).messages := by
  have hrun : ∀ db : MessageDb, HasMessageKeys db.messages →
      HasMessageKeys (db.run collation ops).messages := by
    induction ops with
    | nil => exact fun _ h => h
    | cons op ops ih => exact fun db h => ih _ (h.apply collation op)
  refine hrun _ fun key value hget => ?_
  rw [MessageDb.empty, Record.get?_empty] at hget
  cases hget

/-- The range of a direction is its keys. -/
theorem HasMessageKeys.inRange_iff (h : HasMessageKeys messages) {key : String}
    {value : StoredMessage JsonValue} (hget : messages.get? key = some value)
    (direction : MessageDirection) :
    (messagePrefix direction ≤ key ∧
        key ≤ messagePrefix direction ++ String.singleton RANGE_END) ↔
      (messagePrefix direction).toList.isPrefixOf key.toList = true := by
  obtain ⟨direction', timestamp, id, rfl⟩ := h key value hget
  have hrange : InPrefixRange (messagePrefix direction) RANGE_END
      (storageKey direction' (timestampSegment timestamp) id) ↔ direction = direction' :=
    inPrefixRange_storageKey
  refine hrange.trans ?_
  rw [List.isPrefixOf_iff_prefix, toList_storageKey]
  constructor
  · rintro rfl
    exact List.prefix_append _ _
  · rintro ⟨rest, hrest⟩
    cases direction <;> cases direction' <;>
      first | rfl | simp [messagePrefix, MessageDirection.text] at hrest

/-- **A query collects the messages that match.** -/
theorem collectMessages_perm (h : HasMessageKeys db.messages) (direction : MessageDirection)
    (filter : MessageFilter) (now : ℤ) :
    (db.collectMessages direction filter now).Perm (db.matchingMessages direction filter now) := by
  rw [MessageDb.collectMessages, MessageDb.matchingMessages, Record.range]
  refine ((List.mergeSort_perm _ _).filterMap _).trans (.of_eq ?_)
  rw [List.filterMap_filter]
  refine List.filterMap_congr fun e he => ?_
  have hiff := h.inRange_iff ((Record.get?_eq_some_iff _ _ _).mpr he) direction
  simp only [decide_eq_true_eq, hiff]

/-! ### Pages -/

/-- Newest first: no message is followed by one that is listed after it. -/
def NewestFirst (collation : Collation) (messages : List NormalizedMessage) : Prop :=
  messages.Pairwise fun left right =>
    compareMessagesBySortTimestamp collation left right ≠ .lt

/-- What a query pages through. -/
theorem newestFirst_mergeSort (collation : Collation) (messages : List NormalizedMessage) :
    NewestFirst collation (messages.mergeSort fun left right =>
      (compareMessagesBySortTimestamp collation right left).isLE) := by
  have hcmp := transCmp_compareMessages collation
  refine (List.pairwise_mergeSort (fun a b c hab hbc => ?_) (fun a b => ?_) messages).imp
    fun {left right} hle hlt => ?_
  · exact Std.TransCmp.isLE_trans hbc hab
  · rw [hcmp.eq_swap (a := b), Bool.or_eq_true]
    cases compareMessagesBySortTimestamp collation a b <;> simp
  · rw [hcmp.eq_swap, hlt] at hle
    cases hle

section

variable (collation : Collation) (direction : MessageDirection) (filter : MessageFilter) (now : ℤ)

/-- **The pages are one list**: every message that matches, newest first. -/
theorem pages_flatMap (h : HasMessageKeys db.messages) {limit count : ℕ}
    (hcount : (db.matchingMessages direction filter now).length ≤ count * limit) :
    ((List.range count).flatMap fun k =>
        (db.queryMessages collation direction filter now limit (k * limit)).messages).Perm
      (db.matchingMessages direction filter now) ∧
    NewestFirst collation ((List.range count).flatMap fun k =>
        (db.queryMessages collation direction filter now limit (k * limit)).messages) := by
  have hperm := collectMessages_perm h direction filter now
  have hsorted := List.mergeSort_perm (db.collectMessages direction filter now) fun left right =>
    (compareMessagesBySortTimestamp collation right left).isLE
  have hlist := flatMap_range_pages ((db.collectMessages direction filter now).mergeSort
    fun left right => (compareMessagesBySortTimestamp collation right left).isLE) limit count
  rw [List.take_of_length_le (by rw [(hsorted.trans hperm).length_eq]; exact hcount)] at hlist
  show ((List.range count).flatMap fun k => (List.drop (k * limit) _).take limit).Perm _ ∧
    NewestFirst collation ((List.range count).flatMap fun k => (List.drop (k * limit) _).take limit)
  rw [hlist]
  exact ⟨hsorted.trans hperm, newestFirst_mergeSort collation _⟩

/-- **There is more** exactly when a later page has a message. -/
theorem hasMore_iff {limit : ℕ} (hlimit : 1 ≤ limit) (k : ℕ) :
    (db.queryMessages collation direction filter now limit (k * limit)).hasMore = true ↔
      ∃ later, k < later ∧
        (db.queryMessages collation direction filter now limit (later * limit)).messages ≠ [] := by
  rw [MessageDb.queryMessages]
  simp only [MessageDb.queryMessages, decide_eq_true_eq]
  generalize (db.collectMessages direction filter now).mergeSort (fun left right =>
    (compareMessagesBySortTimestamp collation right left).isLE) = l
  have hpage (k : ℕ) : (l.drop (k * limit)).take limit ≠ [] ↔ k * limit < l.length := by
    rw [ne_eq, ← List.length_eq_zero_iff, List.length_take, List.length_drop]
    omega
  rw [List.length_take, List.length_drop]
  constructor
  · intro hmore
    refine ⟨k + 1, Nat.lt_succ_self k, (hpage _).mpr ?_⟩
    rw [Nat.succ_mul]
    omega
  · rintro ⟨later, hlater, hne⟩
    have hnext : (k + 1) * limit ≤ later * limit := Nat.mul_le_mul_right _ hlater
    have hlength := (hpage later).mp hne
    rw [Nat.succ_mul] at hnext
    omega

end

/-- **Message order and paging**, over every store whose messages have their keys. -/
theorem messages_in_pages (collation : Collation)
    (htotal : ∀ id id', collation.localeCompare id id' = .eq → id = id') :
    IsStrictWeakOrder NormalizedMessage (fun left right =>
        compareMessagesBySortTimestamp collation left right = .lt) ∧
      (∀ left right, compareMessagesBySortTimestamp collation left right = .eq ↔
        getMessageSortTimestamp left = getMessageSortTimestamp right ∧
          (getMessageLocalTimestamp left).getD 0 = (getMessageLocalTimestamp right).getD 0 ∧
          (getMessageEnvelopeTimestamp left).getD 0 = (getMessageEnvelopeTimestamp right).getD 0 ∧
          left.envelope.id = right.envelope.id) ∧
      ∀ db : MessageDb, HasMessageKeys db.messages → ∀ direction filter now limit, 1 ≤ limit →
        (∀ count, (db.matchingMessages direction filter now).length ≤ count * limit →
          ((List.range count).flatMap fun k =>
              (db.queryMessages collation direction filter now limit (k * limit)).messages).Perm
            (db.matchingMessages direction filter now) ∧
          NewestFirst collation ((List.range count).flatMap fun k =>
            (db.queryMessages collation direction filter now limit (k * limit)).messages)) ∧
        ∀ k, (db.queryMessages collation direction filter now limit (k * limit)).hasMore = true ↔
          ∃ later, k < later ∧
            (db.queryMessages collation direction filter now limit (later * limit)).messages
              ≠ [] :=
  ⟨isStrictWeakOrder_compareMessages collation, fun _ _ => compareMessages_eq_iff htotal,
    fun _ hkeys direction filter now _ hlimit =>
      ⟨fun _ hcount => pages_flatMap collation direction filter now hkeys hcount,
        hasMore_iff collation direction filter now hlimit⟩⟩

/-- The pages of a store with one message. -/
theorem messages_in_pages_sample :
    ((List.range 1).flatMap fun k =>
        ((MessageDb.empty.run codePointOrder
          [.put (inboundMessage (sampleEnvelope "m1" "did:agent:zAlice")).toStored]).queryMessages
            codePointOrder .inbound .all 1000 1 (k * 1)).messages).Perm
      [inboundMessage (sampleEnvelope "m1" "did:agent:zAlice")] := by
  have hdb : MessageDb.empty.run codePointOrder
      [.put (inboundMessage (sampleEnvelope "m1" "did:agent:zAlice")).toStored]
        = MessageDb.empty.insertMessage (inboundMessage (sampleEnvelope "m1" "did:agent:zAlice")) :=
    store_empty rfl
  have hmatching : (MessageDb.empty.insertMessage (inboundMessage
      (sampleEnvelope "m1" "did:agent:zAlice"))).matchingMessages .inbound .all 1000
        = [inboundMessage (sampleEnvelope "m1" "did:agent:zAlice")] := by
    rw [MessageDb.matchingMessages, messages_insertMessage]
    rfl
  have hkeys := hasMessageKeys_run codePointOrder
    [.put (inboundMessage (sampleEnvelope "m1" "did:agent:zAlice")).toStored]
  have hpages := ((messages_in_pages codePointOrder fun _ _ h => compare_eq_iff_eq.mp h).2.2 _ hkeys
    .inbound .all 1000 1 le_rfl).1 1
  rw [hdb, hmatching] at hpages
  rw [hdb]
  exact (hpages le_rfl).1

end QuadraA.Messaging
