import QuadraA.Lib.Record
import QuadraA.Lib.ReplaceFirst
import Mathlib.Data.List.Sort

/-!
# Stored messages

The message store of the daemon, `inbox.rs`: which deliveries a message has, and how later ones are
merged into them.

* `StoredMessage`, `E2EDeliveryMetadata` — a message with its deliveries;
* `MessageStore.store`, `upsertE2EDelivery`, `upsertE2ERetry`,
  `updateE2EDeliveryByTransportMessageId` — what the daemon does with the store.

The fields that only the display of a message reads are left out.
-/

namespace QuadraA.RuntimeRs

open QuadraA.Lib

/-! ### Messages -/

inductive MessageDirection where
  | inbound
  | outbound
deriving DecidableEq

inductive E2EDeliveryState where
  | pending
  | accepted
  | delivered
  | received
  | failed
deriving DecidableEq

structure E2EDeliveryMetadata where
  transport : String
  transportMessageId : Option String
  senderDeviceId : String
  receiverDeviceId : String
  sessionId : String
  state : E2EDeliveryState
  recordedAt : ℕ
  usedSkippedMessageKey : Option Bool
  error : Option String
deriving DecidableEq

structure E2ERetryMetadata where
  replayCount : ℕ
  lastRequestedAt : Option ℕ
  lastReplayedAt : Option ℕ
  lastReason : Option String
deriving DecidableEq

structure StoredMessageE2EMetadata where
  deliveries : List E2EDeliveryMetadata
  retry : Option E2ERetryMetadata
deriving DecidableEq

structure StoredMessage where
  id : String
  direction : MessageDirection
  e2e : Option StoredMessageE2EMetadata
deriving DecidableEq

def StoredMessage.deliveries (message : StoredMessage) : List E2EDeliveryMetadata :=
  (message.e2e.map (·.deliveries)).getD []

/-! ### Merging -/

def buildE2EDeliveryKey (delivery : E2EDeliveryMetadata) : String :=
  delivery.senderDeviceId ++ ":" ++ delivery.receiverDeviceId ++ ":" ++ delivery.sessionId

def deliveryStateRank : E2EDeliveryState → ℕ
  | .pending => 0
  | .accepted => 1
  | .delivered => 2
  | .received => 3
  | .failed => 4

def mergeDeliveryState (current incoming : E2EDeliveryState) : E2EDeliveryState :=
  match current, incoming with
  | .delivered, .failed | .received, .failed => current
  | _, _ => if deliveryStateRank current ≤ deliveryStateRank incoming then incoming else current

/-- What an incoming delivery makes of the record with its key. -/
def mergeE2EDelivery (current delivery : E2EDeliveryMetadata) : E2EDeliveryMetadata :=
  let state := mergeDeliveryState current.state delivery.state
  { current with
    transport := delivery.transport
    transportMessageId := delivery.transportMessageId <|> current.transportMessageId
    state := state
    recordedAt := delivery.recordedAt
    usedSkippedMessageKey := delivery.usedSkippedMessageKey <|> current.usedSkippedMessageKey
    error :=
      match delivery.error, state with
      | _, .delivered | _, .received => none
      | some error, _ => some error
      | none, _ => current.error }

/-- One round of the second loop of `merge_e2e_deliveries`. -/
def insertDelivery (merged : Record String E2EDeliveryMetadata) (delivery : E2EDeliveryMetadata) :
    Record String E2EDeliveryMetadata :=
  let key := buildE2EDeliveryKey delivery
  match merged.get? key with
  | some current => merged.set key (mergeE2EDelivery current delivery)
  | none => merged.set key delivery

/-- The records, in the order of their keys. -/
def mergeE2EDeliveries (existing incoming : List E2EDeliveryMetadata) :
    List E2EDeliveryMetadata :=
  let kept := existing.foldl (fun merged delivery =>
    merged.set (buildE2EDeliveryKey delivery) delivery) Record.empty
  (incoming.foldl insertDelivery kept).values.insertionSort
    fun left right => buildE2EDeliveryKey left ≤ buildE2EDeliveryKey right

def mergeE2ERetry : Option E2ERetryMetadata → Option E2ERetryMetadata → Option E2ERetryMetadata
  | none, none => none
  | some existing, none => some existing
  | none, some incoming => some incoming
  | some existing, some incoming => some {
      replayCount := max existing.replayCount incoming.replayCount
      lastRequestedAt := incoming.lastRequestedAt <|> existing.lastRequestedAt
      lastReplayedAt := incoming.lastReplayedAt <|> existing.lastReplayedAt
      lastReason := incoming.lastReason <|> existing.lastReason }

def mergeMessageE2E (existing : StoredMessage) :
    Option StoredMessageE2EMetadata → StoredMessage
  | none => existing
  | some incoming =>
      { existing with
        e2e := some {
          deliveries := mergeE2EDeliveries existing.deliveries incoming.deliveries
          retry := mergeE2ERetry (existing.e2e.bind (·.retry)) incoming.retry } }

/-! ### The store -/

structure MessageStore where
  messages : List StoredMessage
  maxMessages : ℕ
deriving DecidableEq

def StoredMessage.Is (message : StoredMessage) (id : String) (direction : MessageDirection) :
    Prop :=
  message.id = id ∧ message.direction = direction

instance (message : StoredMessage) (id : String) (direction : MessageDirection) :
    Decidable (message.Is id direction) :=
  inferInstanceAs (Decidable (_ ∧ _))

namespace MessageStore

/-- Change the first message with this identifier and direction. -/
def modify (store : MessageStore) (id : String) (direction : MessageDirection)
    (f : StoredMessage → StoredMessage) : MessageStore :=
  { store with
    messages := store.messages.replaceF fun message =>
      if message.Is id direction then some (f message) else none }

/-- What `store` drains when it appends a message. -/
def dropped (store : MessageStore) (message : StoredMessage) : List StoredMessage :=
  if store.messages.any (fun existing => existing.Is message.id message.direction) then []
  else
    (store.messages ++ [message]).take (store.messages.length + 1 - store.maxMessages)

def store (store : MessageStore) (message : StoredMessage) : MessageStore :=
  if store.messages.any (fun existing => existing.Is message.id message.direction) then
    store.modify message.id message.direction fun existing => mergeMessageE2E existing message.e2e
  else
    { store with
      messages :=
        (store.messages ++ [message]).drop (store.messages.length + 1 - store.maxMessages) }

def upsertE2EDelivery (store : MessageStore) (messageId : String) (direction : MessageDirection)
    (delivery : E2EDeliveryMetadata) : MessageStore :=
  store.modify messageId direction fun message => mergeMessageE2E message (some ⟨[delivery], none⟩)

def upsertE2ERetry (store : MessageStore) (messageId : String) (direction : MessageDirection)
    (retry : E2ERetryMetadata) : MessageStore :=
  store.modify messageId direction fun message => mergeMessageE2E message (some ⟨[], some retry⟩)

end MessageStore

/-- What a report makes of the delivery that it is about. -/
def E2EDeliveryMetadata.report (delivery : E2EDeliveryMetadata) (state : E2EDeliveryState)
    (recordedAt : ℕ) (error : Option String) : E2EDeliveryMetadata :=
  let merged := mergeDeliveryState delivery.state state
  { delivery with
    state := merged
    recordedAt := recordedAt
    error :=
      match error, merged with
      | _, .delivered | _, .received => none
      | some error, _ => some error
      | none, _ => delivery.error }

/-- The delivery, if it has the transport identifier, reported. -/
def E2EDeliveryMetadata.report? (delivery : E2EDeliveryMetadata) (transportMessageId : String)
    (state : E2EDeliveryState) (recordedAt : ℕ) (error : Option String) :
    Option E2EDeliveryMetadata :=
  if delivery.transportMessageId = some transportMessageId then
    some (delivery.report state recordedAt error)
  else none

/-- The delivery of a message with a transport identifier. -/
def StoredMessage.carrying? (message : StoredMessage) (transportMessageId : String) :
    Option E2EDeliveryMetadata :=
  message.deliveries.find? fun delivery => delivery.transportMessageId = some transportMessageId

/-- The message, if one of its deliveries has the transport identifier, with that delivery
reported. -/
def StoredMessage.report? (message : StoredMessage) (transportMessageId : String)
    (state : E2EDeliveryState) (recordedAt : ℕ) (error : Option String) : Option StoredMessage :=
  match message.e2e, message.carrying? transportMessageId with
  | some e2e, some _ =>
      some { message with
        e2e := some { e2e with
          deliveries := e2e.deliveries.replaceF fun delivery =>
            delivery.report? transportMessageId state recordedAt error } }
  | _, _ => none

/-- The first delivery with the transport identifier, and its message. -/
def MessageStore.carrying? (store : MessageStore) (transportMessageId : String) :
    Option (StoredMessage × E2EDeliveryMetadata) :=
  store.messages.findSome? fun message =>
    (message.carrying? transportMessageId).map fun delivery => (message, delivery)

def MessageStore.updateE2EDeliveryByTransportMessageId (store : MessageStore)
    (transportMessageId : String) (state : E2EDeliveryState) (recordedAt : ℕ)
    (error : Option String) : MessageStore :=
  { store with
    messages := store.messages.replaceF fun message =>
      message.report? transportMessageId state recordedAt error }

/-! ### Merged deliveries -/

section

variable {delivery current incoming : E2EDeliveryMetadata} {id : String}

/-- The delivery has been reported delivered under its transport identifier. -/
def E2EDeliveryMetadata.DeliveredAs (delivery : E2EDeliveryMetadata) (id : String) : Prop :=
  delivery.transportMessageId = some id ∧ delivery.state = .delivered

/-- A delivery that leaves a transport identifier in its record. -/
def E2EDeliveryMetadata.Leaves (incoming : E2EDeliveryMetadata) (id : String) : Prop :=
  (incoming.transportMessageId = none ∨ incoming.transportMessageId = some id) ∧
    incoming.state ≠ .received

theorem buildE2EDeliveryKey_mergeE2EDelivery (current delivery : E2EDeliveryMetadata) :
    buildE2EDeliveryKey (mergeE2EDelivery current delivery) = buildE2EDeliveryKey current :=
  rfl

theorem mergeDeliveryState_ne_received {current incoming : E2EDeliveryState}
    (hcurrent : current ≠ .received) (hincoming : incoming ≠ .received) :
    mergeDeliveryState current incoming ≠ .received := by
  cases current <;> cases incoming <;>
    first | exact absurd rfl hcurrent | exact absurd rfl hincoming | decide

/-- **A delivered record stays delivered.** -/
theorem mergeDeliveryState_delivered {incoming : E2EDeliveryState} (h : incoming ≠ .received) :
    mergeDeliveryState .delivered incoming = .delivered := by
  cases incoming <;> first | rfl | exact absurd rfl h

/-- A delivery that has not failed becomes delivered. -/
theorem mergeDeliveryState_of_delivered {current : E2EDeliveryState} (hfailed : current ≠ .failed)
    (hreceived : current ≠ .received) : mergeDeliveryState current .delivered = .delivered := by
  cases current <;> first | rfl | exact absurd rfl hfailed | exact absurd rfl hreceived

theorem E2EDeliveryMetadata.DeliveredAs.merge (h : current.DeliveredAs id)
    (hleaves : incoming.Leaves id) : (mergeE2EDelivery current incoming).DeliveredAs id := by
  refine ⟨?_, ?_⟩
  · show (incoming.transportMessageId <|> current.transportMessageId) = some id
    rcases hleaves.1 with hnone | hsome
    · rw [hnone, h.1]
      rfl
    · rw [hsome]
      rfl
  · show mergeDeliveryState current.state incoming.state = .delivered
    rw [h.2]
    exact mergeDeliveryState_delivered hleaves.2

/-- The records are filed under their keys, and none of them is of a received message. -/
def Filed (merged : Record String E2EDeliveryMetadata) : Prop :=
  ∀ key delivery, merged.get? key = some delivery →
    buildE2EDeliveryKey delivery = key ∧ delivery.state ≠ .received

variable {merged : Record String E2EDeliveryMetadata}

theorem Filed.set (h : Filed merged) (hreceived : delivery.state ≠ .received) :
    Filed (merged.set (buildE2EDeliveryKey delivery) delivery) := by
  intro key delivery' hget
  rw [Record.get?_set] at hget
  split at hget
  · rename_i hkey
    cases hget
    exact ⟨hkey, hreceived⟩
  · exact h key delivery' hget

theorem Filed.insertDelivery (h : Filed merged) (hreceived : delivery.state ≠ .received) :
    Filed (insertDelivery merged delivery) := by
  unfold RuntimeRs.insertDelivery
  dsimp only
  split
  · rename_i current hget
    obtain ⟨hkey, hcurrent⟩ := h _ _ hget
    have hset : Filed (merged.set (buildE2EDeliveryKey (mergeE2EDelivery current delivery))
        (mergeE2EDelivery current delivery)) :=
      h.set (mergeDeliveryState_ne_received hcurrent hreceived)
    rwa [buildE2EDeliveryKey_mergeE2EDelivery, hkey] at hset
  · exact h.set hreceived

/-- Incoming deliveries that leave the identifier keep its record delivered. -/
theorem deliveredAs_insertDelivery {key : String}
    (hget : merged.get? key = some current) (h : current.DeliveredAs id)
    (hleaves : buildE2EDeliveryKey incoming = key → incoming.Leaves id) :
    ∃ current', (insertDelivery merged incoming).get? key = some current' ∧
      current'.DeliveredAs id := by
  unfold insertDelivery
  dsimp only
  by_cases hkey : buildE2EDeliveryKey incoming = key
  · rw [hkey, hget]
    exact ⟨_, Record.get?_set_self .., h.merge (hleaves hkey)⟩
  · refine ⟨current, ?_, h⟩
    split
    · exact (Record.get?_set_ne _ _ hkey).trans hget
    · exact (Record.get?_set_ne _ _ hkey).trans hget

/-- The deliveries of an outbound message: none is of a received message, and once one of them has
a transport identifier, their keys are distinct. -/
structure Outgoing (deliveries : List E2EDeliveryMetadata) : Prop where
  unreceived : ∀ delivery ∈ deliveries, delivery.state ≠ .received
  keys : (deliveries.map buildE2EDeliveryKey).Nodup ∨
    ∀ delivery ∈ deliveries, delivery.transportMessageId = none

variable {existing deliveries : List E2EDeliveryMetadata}

theorem Filed.foldl_set (h : ∀ delivery ∈ existing, delivery.state ≠ .received)
    (hmerged : Filed merged) :
    Filed (existing.foldl (fun merged delivery =>
      merged.set (buildE2EDeliveryKey delivery) delivery) merged) := by
  induction existing generalizing merged with
  | nil => exact hmerged
  | cons delivery existing ih =>
    exact ih (fun other hother => h other (List.mem_cons_of_mem _ hother))
      (hmerged.set (h delivery List.mem_cons_self))

theorem Filed.foldl_insertDelivery (h : ∀ delivery ∈ deliveries, delivery.state ≠ .received)
    (hmerged : Filed merged) : Filed (deliveries.foldl RuntimeRs.insertDelivery merged) := by
  induction deliveries generalizing merged with
  | nil => exact hmerged
  | cons delivery deliveries ih =>
    exact ih (fun other hother => h other (List.mem_cons_of_mem _ hother))
      (hmerged.insertDelivery (h delivery List.mem_cons_self))

theorem deliveredAs_foldl_insertDelivery {key : String} (hget : merged.get? key = some current)
    (h : current.DeliveredAs id)
    (hleaves : ∀ incoming ∈ deliveries, buildE2EDeliveryKey incoming = key → incoming.Leaves id) :
    ∃ current', (deliveries.foldl insertDelivery merged).get? key = some current' ∧
      current'.DeliveredAs id := by
  induction deliveries generalizing merged current with
  | nil => exact ⟨current, hget, h⟩
  | cons delivery deliveries ih =>
    obtain ⟨current', hget', h'⟩ :=
      deliveredAs_insertDelivery hget h (hleaves delivery List.mem_cons_self)
    exact ih hget' h' fun other hother => hleaves other (List.mem_cons_of_mem _ hother)

/-- Records have distinct keys. -/
theorem Filed.nodup_values (h : Filed merged) : (merged.values.map buildE2EDeliveryKey).Nodup := by
  have hkeys : merged.values.map buildE2EDeliveryKey = merged.entries.map Prod.fst := by
    rw [Record.values, List.map_map]
    refine List.map_congr_left fun entry hentry => ?_
    exact (h entry.1 entry.2 ((Record.get?_eq_some_iff ..).mpr hentry)).1
  rw [hkeys]
  exact merged.nodupKeys

theorem mem_mergeE2EDeliveries :
    delivery ∈ mergeE2EDeliveries existing deliveries ↔
      ∃ key, (deliveries.foldl insertDelivery (existing.foldl (fun merged delivery =>
        merged.set (buildE2EDeliveryKey delivery) delivery) Record.empty)).get? key =
          some delivery :=
  (List.mem_insertionSort _).trans (Record.mem_values_iff _ _)

/-- **Merging** keeps the deliveries of an outbound message in order. -/
theorem Outgoing.merge (h : Outgoing existing)
    (hdeliveries : ∀ delivery ∈ deliveries, delivery.state ≠ .received) :
    Outgoing (mergeE2EDeliveries existing deliveries) := by
  have hfiled := Filed.foldl_insertDelivery hdeliveries
    (Filed.foldl_set h.unreceived (show Filed Record.empty from nofun))
  refine ⟨fun delivery hmem => ?_, Or.inl ?_⟩
  · obtain ⟨key, hget⟩ := mem_mergeE2EDeliveries.mp hmem
    exact (hfiled key delivery hget).2
  · exact ((List.perm_insertionSort _ _).map _).nodup_iff.mpr hfiled.nodup_values

/-- **Merging keeps what is delivered**, if no incoming delivery of its key has another transport
identifier. -/
theorem deliveredAs_mergeE2EDeliveries (hexisting : Outgoing existing) (hmem : current ∈ existing)
    (h : current.DeliveredAs id)
    (hleaves : ∀ incoming ∈ deliveries,
      buildE2EDeliveryKey incoming = buildE2EDeliveryKey current → incoming.Leaves id) :
    ∃ current' ∈ mergeE2EDeliveries existing deliveries, current'.DeliveredAs id := by
  have hnodup : (existing.map buildE2EDeliveryKey).Nodup := by
    rcases hexisting.keys with hnodup | hnone
    · exact hnodup
    · rw [E2EDeliveryMetadata.DeliveredAs, hnone current hmem] at h
      cases h.1
  have hget := Record.get?_foldl_set_of_mem buildE2EDeliveryKey
    (fun delivery : E2EDeliveryMetadata => delivery) hnodup Record.empty hmem
  obtain ⟨current', hget', h'⟩ := deliveredAs_foldl_insertDelivery hget h hleaves
  exact ⟨current', mem_mergeE2EDeliveries.mpr ⟨_, hget'⟩, h'⟩

end

/-! ### Messages that are delivered -/

section

variable {message : StoredMessage} {id : String}

def StoredMessage.DeliveredAs (message : StoredMessage) (id : String) : Prop :=
  ∃ delivery ∈ message.deliveries, delivery.DeliveredAs id

/-- Metadata whose deliveries leave a delivered record alone. -/
def StoredMessageE2EMetadata.Leaves (incoming : StoredMessageE2EMetadata)
    (message : StoredMessage) (id : String) : Prop :=
  ∀ delivery ∈ incoming.deliveries, ∀ current ∈ message.deliveries, current.DeliveredAs id →
    buildE2EDeliveryKey delivery = buildE2EDeliveryKey current → delivery.Leaves id

variable {incoming : Option StoredMessageE2EMetadata} {transportMessageId : String}
  {state : E2EDeliveryState} {recordedAt : ℕ} {error : Option String} {message' : StoredMessage}

theorem StoredMessage.DeliveredAs.merge (h : message.DeliveredAs id)
    (hout : Outgoing message.deliveries)
    (hleaves : ∀ e2e, incoming = some e2e → e2e.Leaves message id) :
    (mergeMessageE2E message incoming).DeliveredAs id := by
  cases incoming with
  | none => exact h
  | some e2e =>
    obtain ⟨current, hmem, hcurrent⟩ := h
    exact deliveredAs_mergeE2EDeliveries hout hmem hcurrent fun delivery hdelivery =>
      hleaves e2e rfl delivery hdelivery current hmem hcurrent

theorem Outgoing.mergeMessage (hout : Outgoing message.deliveries)
    (hunreceived : ∀ e2e, incoming = some e2e → ∀ delivery ∈ e2e.deliveries,
      delivery.state ≠ .received) : Outgoing (mergeMessageE2E message incoming).deliveries := by
  cases incoming with
  | none => exact hout
  | some e2e => exact hout.merge (hunreceived e2e rfl)

theorem StoredMessage.is_mergeMessageE2E {messageId : String} {direction : MessageDirection}
    (h : message.Is messageId direction) (incoming : Option StoredMessageE2EMetadata) :
    (mergeMessageE2E message incoming).Is messageId direction := by
  cases incoming with
  | none => exact h
  | some e2e => exact h

/-- A report of this or another identifier keeps what is delivered. -/
theorem StoredMessage.DeliveredAs.report (h : message.DeliveredAs id) (hstate : state ≠ .received)
    (hreport : message.report? transportMessageId state recordedAt error = some message') :
    message'.DeliveredAs id := by
  unfold report? at hreport
  split at hreport
  · rename_i e2e delivery he2e _
    cases hreport
    have hdeliveries : message.deliveries = e2e.deliveries := by rw [deliveries, he2e]; rfl
    rw [DeliveredAs, hdeliveries] at h
    refine exists_mem_replaceF h fun current _ current' hcurrent hdelivered => ?_
    unfold E2EDeliveryMetadata.report? at hcurrent
    split at hcurrent
    · cases hcurrent
      refine ⟨hdelivered.1, ?_⟩
      show mergeDeliveryState current.state state = .delivered
      rw [hdelivered.2]
      exact mergeDeliveryState_delivered hstate
    · cases hcurrent
  · cases hreport

theorem Outgoing.report (hout : Outgoing message.deliveries) (hstate : state ≠ .received)
    (hreport : message.report? transportMessageId state recordedAt error = some message') :
    Outgoing message'.deliveries := by
  unfold StoredMessage.report? at hreport
  split at hreport
  · rename_i e2e delivery he2e _
    cases hreport
    have hdeliveries : message.deliveries = e2e.deliveries := by
      rw [StoredMessage.deliveries, he2e]
      rfl
    rw [hdeliveries] at hout
    refine ⟨forall_mem_replaceF hout.unreceived fun current hmem current' hcurrent => ?_, ?_⟩
    · unfold E2EDeliveryMetadata.report? at hcurrent
      split at hcurrent
      · cases hcurrent
        exact mergeDeliveryState_ne_received (hout.unreceived current hmem) hstate
      · cases hcurrent
    · refine hout.keys.imp (fun hnodup => ?_) fun hnone =>
        forall_mem_replaceF hnone fun current hmem current' hcurrent => ?_
      · have hkeys : ∀ l : List E2EDeliveryMetadata,
            (l.replaceF fun delivery =>
              delivery.report? transportMessageId state recordedAt error).map
                buildE2EDeliveryKey = l.map buildE2EDeliveryKey := by
          intro l
          induction l with
          | nil => rfl
          | cons delivery l ih =>
            rw [List.replaceF_cons]
            split
            · rename_i hnone
              rw [List.map_cons, List.map_cons, ih]
            · rename_i hsome
              unfold E2EDeliveryMetadata.report? at hsome
              split at hsome
              · cases hsome
                rfl
              · cases hsome
        show ((e2e.deliveries.replaceF _).map buildE2EDeliveryKey).Nodup
        rw [hkeys]
        exact hnodup
      · unfold E2EDeliveryMetadata.report? at hcurrent
        split at hcurrent
        · cases hcurrent
          exact hnone current hmem
        · cases hcurrent
  · cases hreport

theorem StoredMessage.is_report
    (hreport : message.report? transportMessageId state recordedAt error = some message') :
    message'.id = message.id ∧ message'.direction = message.direction := by
  unfold report? at hreport
  split at hreport
  · cases hreport
    exact ⟨rfl, rfl⟩
  · cases hreport

end

/-! ### The store -/

namespace MessageStore

variable {store : MessageStore} {messageId id : String}

/-- A stored outbound message is delivered under a transport identifier. -/
def Delivered (store : MessageStore) (messageId id : String) : Prop :=
  ∃ message ∈ store.messages, message.Is messageId .outbound ∧ message.DeliveredAs id

def OutgoingMessages (store : MessageStore) : Prop :=
  ∀ message ∈ store.messages, message.direction = .outbound → Outgoing message.deliveries

variable {messageId' transportMessageId : String} {incoming : Option StoredMessageE2EMetadata}
  {message : StoredMessage} {state : E2EDeliveryState} {recordedAt : ℕ} {error : Option String}

/-- **Merging into a stored message** keeps what is delivered. -/
theorem Delivered.modify (h : store.Delivered messageId id) (hout : store.OutgoingMessages)
    {direction : MessageDirection}
    (hleaves : ∀ message ∈ store.messages, message.Is messageId' direction →
      message.direction = .outbound → ∀ e2e, incoming = some e2e → e2e.Leaves message id) :
    (store.modify messageId' direction fun message =>
      mergeMessageE2E message incoming).Delivered messageId id := by
  refine exists_mem_replaceF h fun message hmem message' hmessage hdelivered => ?_
  split at hmessage
  · rename_i his
    cases hmessage
    exact ⟨StoredMessage.is_mergeMessageE2E hdelivered.1 _,
      hdelivered.2.merge (hout message hmem hdelivered.1.2)
        (hleaves message hmem his hdelivered.1.2)⟩
  · cases hmessage

theorem OutgoingMessages.modify (hout : store.OutgoingMessages) {direction : MessageDirection}
    (hunreceived : direction = .outbound → ∀ e2e, incoming = some e2e →
      ∀ delivery ∈ e2e.deliveries, delivery.state ≠ .received) :
    (store.modify messageId' direction fun message =>
      mergeMessageE2E message incoming).OutgoingMessages := by
  refine forall_mem_replaceF hout fun message hmem message' hmessage houtbound => ?_
  split at hmessage
  · rename_i his
    cases hmessage
    have hdirection : message.direction = .outbound := by
      cases incoming with
      | none => exact houtbound
      | some e2e => exact houtbound
    exact (hout message hmem hdirection).mergeMessage (hunreceived (his.2.symm.trans hdirection))
  · cases hmessage

/-- **Storing a message** keeps what is delivered, up to the messages that it drains. -/
theorem Delivered.stored (h : store.Delivered messageId id) (hout : store.OutgoingMessages)
    (hleaves : ∀ existing ∈ store.messages, existing.Is message.id message.direction →
      existing.direction = .outbound →
      ∀ e2e, message.e2e = some e2e → e2e.Leaves existing id) :
    (store.store message).Delivered messageId id ∨
      ∃ old ∈ store.dropped message, old.Is messageId .outbound := by
  unfold MessageStore.store dropped
  split
  · exact Or.inl (h.modify hout hleaves)
  · obtain ⟨old, hmem, his, hdelivered⟩ := h
    have hall : old ∈ store.messages ++ [message] := List.mem_append_left _ hmem
    rw [← List.take_append_drop (store.messages.length + 1 - store.maxMessages)
      (store.messages ++ [message])] at hall
    rcases List.mem_append.mp hall with htaken | hkept
    · exact Or.inr ⟨old, htaken, his⟩
    · exact Or.inl ⟨old, hkept, his, hdelivered⟩

theorem OutgoingMessages.stored (hout : store.OutgoingMessages)
    (hmessage : message.direction = .outbound → Outgoing message.deliveries) :
    (store.store message).OutgoingMessages := by
  unfold MessageStore.store
  split
  · refine hout.modify fun houtbound e2e he2e => ?_
    have hdeliveries : message.deliveries = e2e.deliveries := by
      rw [StoredMessage.deliveries, he2e]
      rfl
    exact hdeliveries ▸ (hmessage houtbound).unreceived
  · intro old hmem houtbound
    rcases List.mem_append.mp (List.mem_of_mem_drop hmem) with hbefore | hnew
    · exact hout old hbefore houtbound
    · rw [List.mem_singleton.mp hnew] at houtbound ⊢
      exact hmessage houtbound

theorem Delivered.report (h : store.Delivered messageId id) (hstate : state ≠ .received) :
    (store.updateE2EDeliveryByTransportMessageId transportMessageId state recordedAt
      error).Delivered messageId id := by
  refine exists_mem_replaceF h fun message _ message' hreport hdelivered => ?_
  obtain ⟨hid, hdirection⟩ := StoredMessage.is_report hreport
  exact ⟨⟨hid.trans hdelivered.1.1, hdirection.trans hdelivered.1.2⟩,
    hdelivered.2.report hstate hreport⟩

theorem OutgoingMessages.report (hout : store.OutgoingMessages) (hstate : state ≠ .received) :
    (store.updateE2EDeliveryByTransportMessageId transportMessageId state recordedAt
      error).OutgoingMessages := by
  refine forall_mem_replaceF hout fun message hmem message' hreport houtbound => ?_
  obtain ⟨_, hdirection⟩ := StoredMessage.is_report hreport
  exact (hout message hmem (hdirection.symm.trans houtbound)).report hstate hreport

/-- **A report arrives.**  The delivery that the report finds becomes delivered. -/
theorem delivered_of_carrying {delivery : E2EDeliveryMetadata} (hout : store.OutgoingMessages)
    (hcarrying : store.carrying? id = some (message, delivery))
    (his : message.Is messageId .outbound) (hfailed : delivery.state ≠ .failed) (recordedAt : ℕ)
    (error : Option String) :
    (store.updateE2EDeliveryByTransportMessageId id .delivered recordedAt error).Delivered
      messageId id := by
  obtain ⟨l₁, found, l₂, hmessages, hfound, hbefore⟩ := List.findSome?_eq_some_iff.mp hcarrying
  obtain ⟨delivery', hfind, hpair⟩ := Option.map_eq_some_iff.mp hfound
  obtain ⟨rfl, rfl⟩ := Prod.mk.inj hpair
  obtain ⟨hcarries, m₁, m₂, hdeliveries, hfirst⟩ := List.find?_eq_some_iff_append.mp hfind
  have hmem : found ∈ store.messages := hmessages ▸ List.mem_append_right _ List.mem_cons_self
  have hmember : delivery' ∈ found.deliveries :=
    hdeliveries ▸ List.mem_append_right _ List.mem_cons_self
  have hreceived := (hout found hmem his.2).unreceived delivery' hmember
  have hcarries : delivery'.transportMessageId = some id := of_decide_eq_true hcarries
  cases he2e : found.e2e with
  | none =>
    rw [StoredMessage.deliveries, he2e] at hmember
    cases hmember
  | some e2e =>
    have hdeliveries' : e2e.deliveries = m₁ ++ delivery' :: m₂ := by
      rw [← hdeliveries, StoredMessage.deliveries, he2e]
      rfl
    have hreport : found.report? id .delivered recordedAt error = some { found with
        e2e := some { e2e with
          deliveries := m₁ ++ delivery'.report .delivered recordedAt error :: m₂ } } := by
      unfold StoredMessage.report?
      rw [he2e, hfind]
      dsimp only
      have hnone : ∀ other ∈ m₁, other.report? id .delivered recordedAt error = none := by
        intro other hother
        have hnot := hfirst other hother
        exact if_neg fun hsame => by rw [decide_eq_true hsame] at hnot; cases hnot
      have hsome : delivery'.report? id .delivered recordedAt error =
          some (delivery'.report .delivered recordedAt error) := if_pos hcarries
      rw [hdeliveries', replaceF_append_cons hnone hsome]
    refine ⟨{ found with e2e := some { e2e with
        deliveries := m₁ ++ delivery'.report .delivered recordedAt error :: m₂ } }, ?_, his,
      delivery'.report .delivered recordedAt error, ?_, hcarries,
      mergeDeliveryState_of_delivered hfailed hreceived⟩
    · have hnone : ∀ other ∈ l₁, other.report? id .delivered recordedAt error = none := by
        intro other hother
        have hnone := Option.map_eq_none_iff.mp (hbefore other hother)
        unfold StoredMessage.report?
        rw [hnone]
        cases other.e2e <;> rfl
      show _ ∈ store.messages.replaceF _
      rw [hmessages, replaceF_append_cons hnone hreport]
      exact List.mem_append_right _ List.mem_cons_self
    · exact List.mem_append_right _ List.mem_cons_self

end MessageStore

end QuadraA.RuntimeRs
