import QuadraA.Lib.BoundedLog
import QuadraA.Lib.KeyedList
import QuadraA.RuntimeRs.Inbox

/-!
# Reports in any order

What the store of `inbox.rs` makes of the updates of one delivery, in the order in which they come:
by a message that is stored, by a delivery that is upserted, or by a report of its transport
identifier.

* `delivery_order_iff` — the order does not matter where no failure comes before a success, and a
  success is not the only update, with an error of its own;
* `failed_then_delivered` — a failure that comes first stays.
-/

namespace QuadraA.RuntimeRs

open QuadraA.Lib

/-! ### Updates of a delivery -/

/-- The state of a delivery with its error: what an update brings, and what it changes. -/
structure Standing where
  state : E2EDeliveryState
  error : Option String
deriving DecidableEq

def E2EDeliveryMetadata.standing (delivery : E2EDeliveryMetadata) : Standing :=
  ⟨delivery.state, delivery.error⟩

/-- What an update makes of a delivery. -/
def Standing.merge (current incoming : Standing) : Standing :=
  let state := mergeDeliveryState current.state incoming.state
  { state := state
    error :=
      match incoming.error, state with
      | _, .delivered | _, .received => none
      | some error, _ => some error
      | none, _ => current.error }

/-- An update of a delivery that there may be. -/
def Standing.after (current : Option Standing) (incoming : Standing) : Option Standing :=
  some (match current with
    | some current => current.merge incoming
    | none => incoming)

/-! ### Calls -/

inductive DeliveryCall where
  | store (message : StoredMessage)
  | upsert (messageId : String) (direction : MessageDirection) (delivery : E2EDeliveryMetadata)
  | report (transportMessageId : String) (state : E2EDeliveryState) (recordedAt : ℕ)
      (error : Option String)

def StoredMessage.key (message : StoredMessage) : String × MessageDirection :=
  (message.id, message.direction)

namespace MessageStore

def new (maxMessages : ℕ) : MessageStore := { messages := [], maxMessages := max maxMessages 1 }

def call (store : MessageStore) : DeliveryCall → MessageStore
  | .store message => store.store message
  | .upsert messageId direction delivery => store.upsertE2EDelivery messageId direction delivery
  | .report transportMessageId state recordedAt error =>
      store.updateE2EDeliveryByTransportMessageId transportMessageId state recordedAt error

def run (maxMessages : ℕ) (calls : List DeliveryCall) : MessageStore :=
  calls.foldl call (new maxMessages)

def getMessage (store : MessageStore) (key : String × MessageDirection) : Option StoredMessage :=
  store.messages.find? fun message => message.key = key

/-- The delivery of a message under a key. -/
def deliveryAt (store : MessageStore) (key : String × MessageDirection) (deliveryKey : String) :
    Option E2EDeliveryMetadata :=
  (store.getMessage key).bind fun message =>
    message.deliveries.find? fun delivery => buildE2EDeliveryKey delivery = deliveryKey

/-- **The updates of one delivery** that a call makes. -/
def updatesOf (store : MessageStore) (key : String × MessageDirection) (deliveryKey : String) :
    DeliveryCall → List Standing
  | .store message =>
      if message.key = key then
        (message.deliveries.filter fun delivery =>
          buildE2EDeliveryKey delivery = deliveryKey).map (·.standing)
      else []
  | .upsert messageId direction delivery =>
      if (messageId, direction) = key ∧ (store.getMessage key).isSome ∧
          buildE2EDeliveryKey delivery = deliveryKey then [delivery.standing]
      else []
  | .report transportMessageId state _ error =>
      match store.carrying? transportMessageId with
      | some (message, delivery) =>
          if message.key = key ∧ buildE2EDeliveryKey delivery = deliveryKey then [⟨state, error⟩]
          else []
      | none => []

/-- A call drops the message, with its deliveries. -/
def Drops (store : MessageStore) (key : String × MessageDirection) : DeliveryCall → Prop
  | .store message => key ∈ (store.dropped message).map StoredMessage.key
  | _ => False

instance (store : MessageStore) (key : String × MessageDirection) (c : DeliveryCall) :
    Decidable (store.Drops key c) :=
  match c with
  | .store message => inferInstanceAs (Decidable (key ∈ (store.dropped message).map _))
  | .upsert _ _ _ => inferInstanceAs (Decidable False)
  | .report _ _ _ _ => inferInstanceAs (Decidable False)

/-- All updates of a delivery since its message was stored, after some earlier ones. -/
def historyFrom (key : String × MessageDirection) (deliveryKey : String) :
    MessageStore → List Standing → List DeliveryCall → List Standing
  | _, earlier, [] => earlier
  | store, earlier, c :: calls =>
      historyFrom key deliveryKey (store.call c)
        (if store.Drops key c then [] else earlier ++ store.updatesOf key deliveryKey c) calls

/-- **All updates of a delivery** since its message was stored. -/
def historyOf (maxMessages : ℕ) (calls : List DeliveryCall) (key : String × MessageDirection)
    (deliveryKey : String) : List Standing :=
  historyFrom key deliveryKey (new maxMessages) [] calls

/-! ### Nothing twice -/

/-- **No message is there twice**, and no delivery of a message. -/
structure Distinct (store : MessageStore) : Prop where
  messages : (store.messages.map StoredMessage.key).Nodup
  deliveries : ∀ message ∈ store.messages, (message.deliveries.map buildE2EDeliveryKey).Nodup

end MessageStore

/-- A message that is not stored yet has each of its deliveries once. -/
def DeliveryCall.IsDistinct (store : MessageStore) : DeliveryCall → Prop
  | .store message =>
      message.key ∈ store.messages.map StoredMessage.key ∨
        (message.deliveries.map buildE2EDeliveryKey).Nodup
  | _ => True

/-- **All calls of a run** store messages that have each delivery once. -/
def MessageStore.ListsOnce : MessageStore → List DeliveryCall → Prop
  | _, [] => True
  | store, c :: calls => c.IsDistinct store ∧ ListsOnce (store.call c) calls

section

variable {message message' : StoredMessage} {existing incoming : List E2EDeliveryMetadata}
  {merged : Record String E2EDeliveryMetadata} {deliveryKey : String}

theorem keyed_foldl_set (h : merged.Keyed buildE2EDeliveryKey)
    (existing : List E2EDeliveryMetadata) :
    (existing.foldl (fun merged delivery =>
      merged.set (buildE2EDeliveryKey delivery) delivery) merged).Keyed buildE2EDeliveryKey := by
  induction existing generalizing merged with
  | nil => exact h
  | cons delivery existing ih => exact ih (h.set delivery)

theorem keyed_insertDelivery (h : merged.Keyed buildE2EDeliveryKey)
    (delivery : E2EDeliveryMetadata) :
    (insertDelivery merged delivery).Keyed buildE2EDeliveryKey := by
  unfold insertDelivery
  dsimp only
  split
  · rename_i current hget
    have hset := h.set (mergeE2EDelivery current delivery)
    rwa [buildE2EDeliveryKey_mergeE2EDelivery, h _ _ hget] at hset
  · exact h.set delivery

theorem keyed_foldl_insertDelivery (h : merged.Keyed buildE2EDeliveryKey)
    (incoming : List E2EDeliveryMetadata) :
    (incoming.foldl insertDelivery merged).Keyed buildE2EDeliveryKey := by
  induction incoming generalizing merged with
  | nil => exact h
  | cons delivery incoming ih => exact ih (keyed_insertDelivery h delivery)

/-- The records from which the merged deliveries are made. -/
theorem keyed_merged (existing incoming : List E2EDeliveryMetadata) :
    (incoming.foldl insertDelivery (existing.foldl (fun merged delivery =>
      merged.set (buildE2EDeliveryKey delivery) delivery) Record.empty)).Keyed
        buildE2EDeliveryKey :=
  keyed_foldl_insertDelivery (keyed_foldl_set (Record.keyed_empty _) existing) incoming

theorem nodup_mergeE2EDeliveries (existing incoming : List E2EDeliveryMetadata) :
    ((mergeE2EDeliveries existing incoming).map buildE2EDeliveryKey).Nodup :=
  ((List.perm_insertionSort _ _).map _).nodup_iff.mpr (keyed_merged existing incoming).nodup_values

theorem get?_insertDelivery (merged : Record String E2EDeliveryMetadata)
    (delivery : E2EDeliveryMetadata) (deliveryKey : String) :
    ((insertDelivery merged delivery).get? deliveryKey).map (·.standing)
      = if buildE2EDeliveryKey delivery = deliveryKey then
          Standing.after ((merged.get? deliveryKey).map (·.standing)) delivery.standing
        else (merged.get? deliveryKey).map (·.standing) := by
  unfold insertDelivery
  dsimp only
  by_cases hkey : buildE2EDeliveryKey delivery = deliveryKey
  · rw [if_pos hkey, hkey]
    cases merged.get? deliveryKey with
    | none =>
      dsimp only
      rw [Record.get?_set_self]
      rfl
    | some current =>
      dsimp only
      rw [Record.get?_set_self]
      rfl
  · rw [if_neg hkey]
    split <;> rw [Record.get?_set_ne _ _ hkey]

/-- The incoming deliveries of a key are merged into its record, one after the other. -/
theorem get?_foldl_insertDelivery (merged : Record String E2EDeliveryMetadata)
    (incoming : List E2EDeliveryMetadata) (deliveryKey : String) :
    ((incoming.foldl insertDelivery merged).get? deliveryKey).map (·.standing)
      = ((incoming.filter fun delivery =>
          buildE2EDeliveryKey delivery = deliveryKey).map (·.standing)).foldl Standing.after
            ((merged.get? deliveryKey).map (·.standing)) := by
  induction incoming generalizing merged with
  | nil => rfl
  | cons delivery incoming ih =>
    rw [List.foldl_cons, ih, get?_insertDelivery]
    split
    · rename_i hkey
      rw [List.filter_cons_of_pos (by simpa using hkey)]
      rfl
    · rename_i hkey
      rw [List.filter_cons_of_neg (by simpa using hkey)]

theorem get?_foldl_set (hexisting : (existing.map buildE2EDeliveryKey).Nodup)
    (deliveryKey : String) :
    (existing.foldl (fun merged delivery =>
        merged.set (buildE2EDeliveryKey delivery) delivery) Record.empty).get? deliveryKey
      = existing.find? fun delivery => buildE2EDeliveryKey delivery = deliveryKey := by
  cases hfind : existing.find? fun delivery => buildE2EDeliveryKey delivery = deliveryKey with
  | none =>
    have hnot := find?_key_eq_none_iff.mp hfind
    exact Record.get?_foldl_set_of_ne buildE2EDeliveryKey (fun delivery => delivery) existing _
      fun delivery hmem hkey => hnot (List.mem_map.mpr ⟨delivery, hmem, hkey⟩)
  | some delivery =>
    obtain ⟨hmem, hkey⟩ := (find?_key_eq_some_iff hexisting).mp hfind
    rw [← hkey]
    exact Record.get?_foldl_set_of_mem buildE2EDeliveryKey
      (fun delivery : E2EDeliveryMetadata => delivery) hexisting Record.empty hmem

/-- **Merging deliveries** merges those of a key, one after the other. -/
theorem find?_mergeE2EDeliveries (hexisting : (existing.map buildE2EDeliveryKey).Nodup)
    (incoming : List E2EDeliveryMetadata) (deliveryKey : String) :
    ((mergeE2EDeliveries existing incoming).find? fun delivery =>
        buildE2EDeliveryKey delivery = deliveryKey).map (·.standing)
      = ((incoming.filter fun delivery =>
          buildE2EDeliveryKey delivery = deliveryKey).map (·.standing)).foldl Standing.after
            ((existing.find? fun delivery =>
              buildE2EDeliveryKey delivery = deliveryKey).map (·.standing)) := by
  rw [← get?_foldl_set hexisting, ← get?_foldl_insertDelivery,
    ← (keyed_merged existing incoming).find?_values]
  congr 1
  exact find?_key_perm (List.perm_insertionSort _ _) (nodup_mergeE2EDeliveries existing incoming) _

/-- Deliveries that are there once have only their own update. -/
theorem standing_find? (hexisting : (existing.map buildE2EDeliveryKey).Nodup) :
    (existing.find? fun delivery => buildE2EDeliveryKey delivery = deliveryKey).map (·.standing)
      = ((existing.filter fun delivery =>
          buildE2EDeliveryKey delivery = deliveryKey).map (·.standing)).foldl Standing.after
            none := by
  induction existing with
  | nil => rfl
  | cons delivery existing ih =>
    obtain ⟨hnew, hexisting⟩ := List.nodup_cons.mp hexisting
    by_cases hkey : buildE2EDeliveryKey delivery = deliveryKey
    · have hrest : existing.filter (fun other => buildE2EDeliveryKey other = deliveryKey) = [] := by
        rw [List.filter_eq_nil_iff]
        intro other hother hsame
        exact hnew (List.mem_map.mpr ⟨other, hother, (of_decide_eq_true hsame).trans hkey.symm⟩)
      rw [List.find?_cons_of_pos (by simpa using hkey),
        List.filter_cons_of_pos (by simpa using hkey), hrest]
      rfl
    · rw [List.find?_cons_of_neg (by simpa using hkey),
        List.filter_cons_of_neg (by simpa using hkey)]
      exact ih hexisting

/-- The delivery of a message under a key. -/
def StoredMessage.deliveryAt (message : StoredMessage) (deliveryKey : String) :
    Option E2EDeliveryMetadata :=
  message.deliveries.find? fun delivery => buildE2EDeliveryKey delivery = deliveryKey

theorem standing_mergeMessageE2E (hmessage : (message.deliveries.map buildE2EDeliveryKey).Nodup)
    (incoming : Option StoredMessageE2EMetadata) (deliveryKey : String) :
    ((mergeMessageE2E message incoming).deliveryAt deliveryKey).map (·.standing)
      = ((((incoming.map (·.deliveries)).getD []).filter fun delivery =>
          buildE2EDeliveryKey delivery = deliveryKey).map (·.standing)).foldl Standing.after
            ((message.deliveryAt deliveryKey).map (·.standing)) := by
  cases incoming with
  | none => rfl
  | some e2e => exact find?_mergeE2EDeliveries hmessage e2e.deliveries deliveryKey

theorem nodup_mergeMessageE2E (hmessage : (message.deliveries.map buildE2EDeliveryKey).Nodup)
    (incoming : Option StoredMessageE2EMetadata) :
    ((mergeMessageE2E message incoming).deliveries.map buildE2EDeliveryKey).Nodup := by
  cases incoming with
  | none => exact hmessage
  | some e2e => exact nodup_mergeE2EDeliveries _ _

variable {delivery : E2EDeliveryMetadata} {transportMessageId : String} {state : E2EDeliveryState}
  {recordedAt : ℕ} {error : Option String}

/-- What a report changes has the same key. -/
theorem buildE2EDeliveryKey_report? {delivery' : E2EDeliveryMetadata}
    (h : delivery.report? transportMessageId state recordedAt error = some delivery') :
    buildE2EDeliveryKey delivery' = buildE2EDeliveryKey delivery := by
  unfold E2EDeliveryMetadata.report? at h
  split at h
  · obtain rfl := Option.some.inj h
    rfl
  · cases h

theorem isSome_report? (delivery : E2EDeliveryMetadata) (transportMessageId : String)
    (state : E2EDeliveryState) (recordedAt : ℕ) (error : Option String) :
    (delivery.report? transportMessageId state recordedAt error).isSome
      = decide (delivery.transportMessageId = some transportMessageId) := by
  unfold E2EDeliveryMetadata.report?
  split
  · rename_i hid
    exact (decide_eq_true hid).symm
  · rename_i hid
    exact (decide_eq_false hid).symm

theorem isSome_messageReport? (message : StoredMessage) (transportMessageId : String)
    (state : E2EDeliveryState) (recordedAt : ℕ) (error : Option String) :
    (message.report? transportMessageId state recordedAt error).isSome
      = (message.carrying? transportMessageId).isSome := by
  unfold StoredMessage.report? StoredMessage.carrying? StoredMessage.deliveries
  cases message.e2e with
  | none => rfl
  | some e2e =>
    dsimp only [Option.map_some, Option.getD_some]
    cases e2e.deliveries.find? fun delivery => delivery.transportMessageId = some transportMessageId
      <;> rfl

/-- **A report updates the delivery** that carries the transport identifier. -/
theorem standing_messageReport? (hmessage : (message.deliveries.map buildE2EDeliveryKey).Nodup)
    (hreport : message.report? transportMessageId state recordedAt error = some message')
    (hcarrying : message.carrying? transportMessageId = some delivery) (deliveryKey : String) :
    (message'.deliveryAt deliveryKey).map (·.standing)
      = (if buildE2EDeliveryKey delivery = deliveryKey then [⟨state, error⟩] else []).foldl
          Standing.after ((message.deliveryAt deliveryKey).map (·.standing)) := by
  unfold StoredMessage.report? at hreport
  split at hreport
  · rename_i e2e _ he2e _
    have hdeliveries : message.deliveries = e2e.deliveries := by
      rw [StoredMessage.deliveries, he2e]
      rfl
    obtain rfl := Option.some.inj hreport
    rw [StoredMessage.carrying?, hdeliveries] at hcarrying
    have hcarries : delivery.transportMessageId = some transportMessageId := by
      simpa using List.find?_some hcarrying
    have hreported : delivery.report? transportMessageId state recordedAt error
        = some (delivery.report state recordedAt error) := if_pos hcarries
    rw [hdeliveries] at hmessage
    have hfind := find?_key_replaceF
      (f := fun delivery => delivery.report? transportMessageId state recordedAt error)
      (fun _ _ h => buildE2EDeliveryKey_report? h) hmessage deliveryKey
    simp only [isSome_report?] at hfind
    rw [hcarrying] at hfind
    dsimp only at hfind
    show ((e2e.deliveries.replaceF _).find? _).map _ = _
    rw [StoredMessage.deliveryAt, hdeliveries, hfind]
    split
    · rename_i hkey
      have hown : e2e.deliveries.find? (fun other => buildE2EDeliveryKey other = deliveryKey)
          = some delivery :=
        (find?_key_eq_some_iff hmessage).mpr ⟨List.mem_of_find?_eq_some hcarrying, hkey⟩
      rw [hreported, hown]
      rfl
    · rfl
  · cases hreport

theorem nodup_messageReport? (hmessage : (message.deliveries.map buildE2EDeliveryKey).Nodup)
    (hreport : message.report? transportMessageId state recordedAt error = some message') :
    (message'.deliveries.map buildE2EDeliveryKey).Nodup := by
  unfold StoredMessage.report? at hreport
  split at hreport
  · rename_i e2e _ he2e _
    have hdeliveries : message.deliveries = e2e.deliveries := by
      rw [StoredMessage.deliveries, he2e]
      rfl
    obtain rfl := Option.some.inj hreport
    show ((e2e.deliveries.replaceF _).map buildE2EDeliveryKey).Nodup
    rw [map_replaceF_of_same fun _ _ h => buildE2EDeliveryKey_report? h, ← hdeliveries]
    exact hmessage
  · cases hreport

end

/-! ### What a call does to a delivery -/

namespace MessageStore

variable {store : MessageStore} {key : String × MessageDirection} {deliveryKey : String}
  {message : StoredMessage}

variable {id transportMessageId : String} {c : DeliveryCall} {calls : List DeliveryCall}

theorem is_iff_key {direction : MessageDirection} :
    message.Is id direction ↔ message.key = (id, direction) :=
  Prod.mk.injEq .. ▸ Iff.rfl

theorem isStored_iff : (store.messages.any fun existing =>
      existing.Is message.id message.direction) = true ↔
    message.key ∈ store.messages.map StoredMessage.key := by
  rw [List.any_eq_true, List.mem_map]
  refine exists_congr fun existing => and_congr_right fun _ => ?_
  rw [decide_eq_true_iff]
  exact is_iff_key

theorem key_mergeMessageE2E (message : StoredMessage) (incoming : Option StoredMessageE2EMetadata) :
    (mergeMessageE2E message incoming).key = message.key := by
  cases incoming <;> rfl

/-- **Changing a message** changes the deliveries of that one. -/
theorem getMessage_modify (h : store.Distinct) {direction : MessageDirection}
    {f : StoredMessage → StoredMessage} (hf : ∀ message, (f message).key = message.key) :
    (store.modify id direction f).getMessage key =
      if (id, direction) = key then (store.getMessage key).map f else store.getMessage key := by
  have hreplace := find?_key_replaceF
    (f := fun message => if message.Is id direction then some (f message) else none)
    (fun message message' hmessage => by
      split at hmessage
      · rw [← Option.some.inj hmessage]
        exact hf message
      · cases hmessage) h.messages key
  have hisSome : (fun message : StoredMessage =>
        (if message.Is id direction then some (f message) else none).isSome)
      = fun message => decide (message.key = (id, direction)) := by
    funext message
    by_cases his : message.Is id direction
    · rw [if_pos his, decide_eq_true (is_iff_key.mp his)]
      rfl
    · rw [if_neg his, decide_eq_false fun hkey => his (is_iff_key.mpr hkey)]
      rfl
  rw [hisSome] at hreplace
  refine hreplace.trans ?_
  split
  · rename_i found hfound
    have hfoundKey : found.key = (id, direction) := by simpa using List.find?_some hfound
    rw [← hfoundKey]
    split
    · rename_i hkey
      have hget : store.getMessage key = some found :=
        (find?_key_eq_some_iff h.messages).mpr ⟨List.mem_of_find?_eq_some hfound, hkey⟩
      rw [if_pos (is_iff_key.mpr hfoundKey), hget]
      rfl
    · rfl
  · rename_i hnone
    split
    · rename_i hkey
      have hget : store.getMessage key = none := by rw [← hkey]; exact hnone
      show store.getMessage key = _
      rw [hget]
      rfl
    · rfl

theorem Distinct.modify (h : store.Distinct) {direction : MessageDirection}
    (incoming : Option StoredMessageE2EMetadata) :
    (store.modify id direction fun message => mergeMessageE2E message incoming).Distinct := by
  refine ⟨?_, ?_⟩
  · show ((store.messages.replaceF _).map StoredMessage.key).Nodup
    rw [map_replaceF_of_same fun message message' hmessage => ?_]
    · exact h.messages
    · split at hmessage
      · rw [← Option.some.inj hmessage]
        exact key_mergeMessageE2E message incoming
      · cases hmessage
  · refine forall_mem_replaceF h.deliveries fun message hmem message' hmessage => ?_
    split at hmessage
    · rw [← Option.some.inj hmessage]
      exact nodup_mergeMessageE2E (h.deliveries message hmem) incoming
    · cases hmessage

theorem Distinct.call (h : store.Distinct) (hc : c.IsDistinct store) : (store.call c).Distinct := by
  cases c with
  | store message =>
    show (store.store message).Distinct
    unfold MessageStore.store
    split
    · exact h.modify _
    · rename_i hstored
      have hnew : message.key ∉ store.messages.map StoredMessage.key := fun hmem =>
        hstored (isStored_iff.mpr hmem)
      refine ⟨?_, fun other hother => ?_⟩
      · refine (((List.drop_sublist _ _).map _).nodup ?_)
        rw [List.map_append]
        refine h.messages.append (List.nodup_singleton _) ?_
        rw [List.map_singleton, List.disjoint_singleton]
        exact hnew
      · rcases List.mem_append.mp (List.mem_of_mem_drop hother) with hold | hself
        · exact h.deliveries other hold
        · rw [List.mem_singleton.mp hself]
          exact hc.resolve_left hnew
  | upsert messageId direction delivery => exact h.modify _
  | report transportMessageId state recordedAt error =>
    refine ⟨?_, forall_mem_replaceF h.deliveries fun message hmem message' hreport =>
      nodup_messageReport? (h.deliveries message hmem) hreport⟩
    show ((store.messages.replaceF _).map StoredMessage.key).Nodup
    rw [map_replaceF_of_same fun message message' hreport => ?_]
    · exact h.messages
    · obtain ⟨hid, hdirection⟩ := StoredMessage.is_report hreport
      exact Prod.ext hid hdirection

theorem deliveryAt_eq (store : MessageStore) (key : String × MessageDirection)
    (deliveryKey : String) :
    store.deliveryAt key deliveryKey
      = (store.getMessage key).bind fun message => message.deliveryAt deliveryKey :=
  rfl

/-- **Merging into a message** updates its deliveries. -/
theorem standing_modify (h : store.Distinct) {direction : MessageDirection}
    (incoming : Option StoredMessageE2EMetadata) :
    ((store.modify id direction fun message =>
        mergeMessageE2E message incoming).deliveryAt key deliveryKey).map (·.standing)
      = (if (id, direction) = key ∧ (store.getMessage key).isSome then
          (((incoming.map (·.deliveries)).getD []).filter fun delivery =>
            buildE2EDeliveryKey delivery = deliveryKey).map (·.standing)
        else []).foldl Standing.after ((store.deliveryAt key deliveryKey).map (·.standing)) := by
  rw [deliveryAt_eq, getMessage_modify h fun message => key_mergeMessageE2E message incoming,
    deliveryAt_eq]
  by_cases hkey : (id, direction) = key
  · rw [if_pos hkey]
    cases hget : store.getMessage key with
    | none => rw [if_neg fun hboth => nomatch hboth.2]; rfl
    | some message =>
      rw [if_pos ⟨hkey, rfl⟩]
      exact standing_mergeMessageE2E
        (h.deliveries message (List.mem_of_find?_eq_some hget)) incoming deliveryKey
  · rw [if_neg hkey, if_neg fun hboth => hkey hboth.1]
    rfl

/-- What the message that carries a transport identifier is found by. -/
theorem carrying?_eq_some {delivery : E2EDeliveryMetadata}
    (h : store.carrying? transportMessageId = some (message, delivery)) :
    store.messages.find? (fun message => (message.carrying? transportMessageId).isSome)
        = some message ∧ message.carrying? transportMessageId = some delivery := by
  obtain ⟨before, found, rest, hmessages, hfound, hbefore⟩ := List.findSome?_eq_some_iff.mp h
  obtain ⟨delivery', hfind, hpair⟩ := Option.map_eq_some_iff.mp hfound
  obtain ⟨rfl, rfl⟩ := Prod.mk.inj hpair
  refine ⟨?_, hfind⟩
  rw [List.find?_eq_some_iff_append]
  refine ⟨by rw [hfind]; rfl, before, rest, hmessages, fun other hother => ?_⟩
  rw [Option.map_eq_none_iff.mp (hbefore other hother)]
  rfl

theorem carrying?_eq_none (h : store.carrying? transportMessageId = none) :
    store.messages.find? (fun message => (message.carrying? transportMessageId).isSome) = none := by
  rw [List.find?_eq_none]
  intro message hmem hcarrying
  have hnone := Option.map_eq_none_iff.mp (List.findSome?_eq_none_iff.mp h message hmem)
  rw [hnone] at hcarrying
  cases hcarrying

/-- **A call merges its updates into the delivery**, one after the other, unless it drops the
message. -/
theorem standing_call (h : store.Distinct) (hc : c.IsDistinct store) :
    ((store.call c).deliveryAt key deliveryKey).map (·.standing)
      = if store.Drops key c then none
        else (store.updatesOf key deliveryKey c).foldl Standing.after
          ((store.deliveryAt key deliveryKey).map (·.standing)) := by
  cases c with
  | store message =>
    show ((store.store message).deliveryAt key deliveryKey).map (·.standing)
      = if key ∈ (store.dropped message).map StoredMessage.key then none
        else (if message.key = key then (message.deliveries.filter fun delivery =>
          buildE2EDeliveryKey delivery = deliveryKey).map (·.standing) else []).foldl Standing.after
            ((store.deliveryAt key deliveryKey).map (·.standing))
    unfold MessageStore.store dropped
    split
    · -- the message is there already, so it is merged
      rename_i hstored
      rw [List.map_nil, if_neg List.not_mem_nil, standing_modify h]
      have hmem : message.key ∈ store.messages.map StoredMessage.key := isStored_iff.mp hstored
      congr 1
      by_cases hkey : message.key = key
      · have hsome : (store.getMessage key).isSome = true := by
          rw [← hkey, Option.isSome_iff_ne_none]
          exact fun hnone => find?_key_eq_none_iff.mp hnone hmem
        rw [if_pos hkey, if_pos ⟨hkey, hsome⟩]
        rfl
      · rw [if_neg hkey, if_neg fun hboth => hkey hboth.1]
    · -- it is new, and goes to the end
      rename_i hstored
      have hnew : message.key ∉ store.messages.map StoredMessage.key := fun hmem =>
        hstored (isStored_iff.mpr hmem)
      have hnodup : ((store.messages ++ [message]).map StoredMessage.key).Nodup := by
        rw [List.map_append]
        refine h.messages.append (List.nodup_singleton _) ?_
        rw [List.map_singleton, List.disjoint_singleton]
        exact hnew
      have hget : ({ store with
            messages := (store.messages ++ [message]).drop
              (store.messages.length + 1 - store.maxMessages) } : MessageStore).getMessage key
          = if key ∈ ((store.messages ++ [message]).take
              (store.messages.length + 1 - store.maxMessages)).map StoredMessage.key then none
            else (store.messages ++ [message]).find? fun message => message.key = key :=
        (find?_key_drop hnodup _ key).trans (by congr)
      rw [deliveryAt_eq, hget]
      split
      · rfl
      · rw [List.find?_append, deliveryAt_eq]
        by_cases hkey : message.key = key
        · have hnone : store.messages.find? (fun message => message.key = key) = none := by
            rw [← hkey]
            exact find?_key_eq_none_iff.mpr hnew
          have hself : [message].find? (fun message => message.key = key) = some message := by
            rw [List.find?_cons_of_pos (by simpa using hkey)]
          rw [if_pos hkey, hnone, Option.none_or, hself, getMessage, hnone]
          exact standing_find? (hc.resolve_left hnew)
        · have hself : [message].find? (fun message => message.key = key) = none := by
            rw [List.find?_cons_of_neg (by simpa using hkey)]
            rfl
          rw [if_neg hkey, hself, Option.or_none]
          rfl
  | upsert messageId direction delivery =>
    show ((store.modify messageId direction _).deliveryAt key deliveryKey).map _ = _
    rw [if_neg (show ¬store.Drops key (.upsert messageId direction delivery) from id),
      standing_modify h]
    congr 1
    show _ = if (messageId, direction) = key ∧ (store.getMessage key).isSome ∧
      buildE2EDeliveryKey delivery = deliveryKey then [delivery.standing] else []
    by_cases hkey : (messageId, direction) = key ∧ (store.getMessage key).isSome = true
    · rw [if_pos hkey]
      show ([delivery].filter _).map _ = _
      by_cases hdelivery : buildE2EDeliveryKey delivery = deliveryKey
      · rw [if_pos ⟨hkey.1, hkey.2, hdelivery⟩, List.filter_cons_of_pos (by simpa using hdelivery)]
        rfl
      · rw [if_neg fun hall => hdelivery hall.2.2,
          List.filter_cons_of_neg (by simpa using hdelivery)]
        rfl
    · rw [if_neg hkey, if_neg fun hall => hkey ⟨hall.1, hall.2.1⟩]
  | report transportMessageId state recordedAt error =>
    rw [if_neg (show ¬store.Drops key (.report transportMessageId state recordedAt error) from id)]
    have hreplace := find?_key_replaceF
      (f := fun message => message.report? transportMessageId state recordedAt error)
      (fun message message' hreport => Prod.ext (StoredMessage.is_report hreport).1
        (StoredMessage.is_report hreport).2) h.messages key
    simp only [isSome_messageReport?] at hreplace
    have hget : (store.call (.report transportMessageId state recordedAt error)).getMessage key
        = (store.messages.replaceF fun message =>
            message.report? transportMessageId state recordedAt error).find?
              fun message => message.key = key := rfl
    rw [deliveryAt_eq, hget, hreplace, deliveryAt_eq]
    unfold updatesOf
    dsimp only
    cases hcarrying : store.carrying? transportMessageId with
    | none =>
      rw [carrying?_eq_none hcarrying]
      rfl
    | some found =>
      obtain ⟨message, delivery⟩ := found
      obtain ⟨hfind, hdelivery⟩ := carrying?_eq_some hcarrying
      have hmem := List.mem_of_find?_eq_some hfind
      rw [hfind]
      dsimp only
      by_cases hkey : message.key = key
      · have hown : store.getMessage key = some message :=
          (find?_key_eq_some_iff h.messages).mpr ⟨hmem, hkey⟩
        have hsome := isSome_messageReport? message transportMessageId state recordedAt error
        rw [hdelivery] at hsome
        obtain ⟨message', hreport⟩ := Option.isSome_iff_exists.mp hsome
        rw [if_pos hkey, hreport, hown, Option.bind_some, Option.bind_some,
          standing_messageReport? (h.deliveries message hmem) hreport hdelivery]
        congr 1
        by_cases hdeliveryKey : buildE2EDeliveryKey delivery = deliveryKey
        · rw [if_pos hdeliveryKey, if_pos ⟨hkey, hdeliveryKey⟩]
        · rw [if_neg hdeliveryKey, if_neg fun hboth => hdeliveryKey hboth.2]
      · rw [if_neg hkey, if_neg fun hboth => hkey hboth.1]
        rfl

theorem Distinct.run (h : store.Distinct) (hcalls : store.ListsOnce calls) :
    (calls.foldl MessageStore.call store).Distinct := by
  induction calls generalizing store with
  | nil => exact h
  | cons c calls ih => exact ih (h.call hcalls.1) hcalls.2

/-- **A run merges all updates** of a delivery, one after the other. -/
theorem standing_historyFrom (h : store.Distinct) (hcalls : store.ListsOnce calls)
    {earlier : List Standing}
    (hearlier : (store.deliveryAt key deliveryKey).map (·.standing)
      = earlier.foldl Standing.after none) :
    ((calls.foldl call store).deliveryAt key deliveryKey).map (·.standing)
      = (historyFrom key deliveryKey store earlier calls).foldl Standing.after none := by
  induction calls generalizing store earlier with
  | nil => exact hearlier
  | cons c calls ih =>
    refine ih (h.call hcalls.1) hcalls.2 ?_
    rw [standing_call h hcalls.1]
    split
    · rfl
    · rw [List.foldl_append, hearlier]

theorem distinct_new (maxMessages : ℕ) : (new maxMessages).Distinct :=
  ⟨List.nodup_nil, fun _ hmem => nomatch hmem⟩

theorem standing_run {maxMessages : ℕ} (hcalls : (new maxMessages).ListsOnce calls)
    (key : String × MessageDirection) (deliveryKey : String) :
    ((run maxMessages calls).deliveryAt key deliveryKey).map (·.standing)
      = (historyOf maxMessages calls key deliveryKey).foldl Standing.after none :=
  standing_historyFrom (distinct_new maxMessages) hcalls rfl

end MessageStore

/-! ### The states that updates lead to -/

/-- The delivery succeeded. -/
def E2EDeliveryState.Settled (state : E2EDeliveryState) : Prop :=
  state = .delivered ∨ state = .received

instance (state : E2EDeliveryState) : Decidable state.Settled :=
  inferInstanceAs (Decidable (_ ∨ _))

/-- **A failure comes first**: there is a success, but only after a failure. -/
def FailsFirst (states : List E2EDeliveryState) : Prop :=
  (∃ state ∈ states, state.Settled) ∧ .failed ∈ states.takeWhile fun state => ¬state.Settled

instance (states : List E2EDeliveryState) : Decidable (FailsFirst states) :=
  inferInstanceAs (Decidable (_ ∧ _))

/-- A success is the only update, and brings an error. -/
def BareError (updates : List Standing) : Prop :=
  ∃ update, updates = [update] ∧ update.state.Settled ∧ update.error ≠ none

/-- The later of two states, where a success comes after a failure. -/
def E2EDeliveryState.join (left right : E2EDeliveryState) : E2EDeliveryState :=
  let rank : E2EDeliveryState → ℕ
    | .pending => 0
    | .accepted => 1
    | .failed => 2
    | .delivered => 3
    | .received => 4
  if rank left ≤ rank right then right else left

/-- **The state of a set of updates.** -/
def finalState (states : List E2EDeliveryState) : Option E2EDeliveryState :=
  states.foldl (fun current incoming => some (match current with
    | some current => current.join incoming
    | none => incoming)) none

section

variable {current incoming : E2EDeliveryState} {states states' : List E2EDeliveryState}

theorem join_comm (left right : E2EDeliveryState) : left.join right = right.join left := by
  cases left <;> cases right <;> rfl

theorem join_right_comm (state left right : E2EDeliveryState) :
    (state.join left).join right = (state.join right).join left := by
  cases state <;> cases left <;> cases right <;> rfl

/-- **Merging is the join**, unless a success comes after a failure. -/
theorem mergeDeliveryState_eq_join (h : current = .failed → ¬incoming.Settled) :
    mergeDeliveryState current incoming = current.join incoming := by
  cases current <;> cases incoming <;>
    first | rfl | exact absurd (.inl rfl) (h rfl) | exact absurd (.inr rfl) (h rfl)

theorem settled_join_iff :
    (current.join incoming).Settled ↔ current.Settled ∨ incoming.Settled := by
  cases current <;> cases incoming <;> decide

theorem mergeDeliveryState_failed (incoming : E2EDeliveryState) :
    mergeDeliveryState .failed incoming = .failed := by
  cases incoming <;> rfl

theorem failsFirst_cons (hcurrent : ¬current.Settled) :
    FailsFirst (current :: states) ↔
      (∃ state ∈ states, state.Settled) ∧ (current = .failed ∨ FailsFirst states) := by
  rw [FailsFirst, FailsFirst, List.takeWhile_cons_of_pos (by simpa using hcurrent), List.mem_cons,
    List.exists_mem_cons_iff, or_iff_right hcurrent, eq_comm]
  tauto

theorem not_failsFirst_cons (hcurrent : current.Settled) : ¬FailsFirst (current :: states) := by
  rintro ⟨_, hfailed⟩
  rw [List.takeWhile_cons_of_neg (by simpa using hcurrent)] at hfailed
  cases hfailed

theorem foldl_of_failed (states : List E2EDeliveryState) :
    states.foldl mergeDeliveryState .failed = .failed := by
  induction states with
  | nil => rfl
  | cons state states ih => rw [List.foldl_cons, mergeDeliveryState_failed, ih]

/-- Once succeeded, the delivery stays so. -/
theorem foldl_of_settled (hcurrent : current.Settled) (states : List E2EDeliveryState) :
    states.foldl mergeDeliveryState current = states.foldl E2EDeliveryState.join current := by
  induction states generalizing current with
  | nil => rfl
  | cons state states ih =>
    have hmerge : mergeDeliveryState current state = current.join state :=
      mergeDeliveryState_eq_join fun hfailed => absurd hcurrent (by rw [hfailed]; decide)
    rw [List.foldl_cons, List.foldl_cons, hmerge]
    exact ih (settled_join_iff.mpr (.inl hcurrent))

theorem settled_foldl_join_iff :
    (states.foldl E2EDeliveryState.join current).Settled ↔
      ∃ state ∈ current :: states, state.Settled := by
  induction states generalizing current with
  | nil => simp
  | cons state states ih =>
    rw [List.foldl_cons, ih, List.exists_mem_cons_iff, settled_join_iff, List.exists_mem_cons_iff,
      List.exists_mem_cons_iff, or_assoc]

theorem foldl_join_of_failed (h : ∀ state ∈ states, ¬state.Settled) :
    states.foldl E2EDeliveryState.join .failed = .failed := by
  induction states with
  | nil => rfl
  | cons state states ih =>
    have hjoin : E2EDeliveryState.failed.join state = .failed := by
      rw [← mergeDeliveryState_eq_join fun _ => h state List.mem_cons_self,
        mergeDeliveryState_failed]
    rw [List.foldl_cons, hjoin]
    exact ih fun later hlater => h later (List.mem_cons_of_mem _ hlater)

/-- Up to the first failure or success, the states are joined. -/
theorem failsFirst_join (hcurrent : ¬current.Settled) (hfailed : current ≠ .failed) :
    FailsFirst (current :: incoming :: states) ↔ FailsFirst (current.join incoming :: states) := by
  rw [failsFirst_cons hcurrent, or_iff_right hfailed]
  by_cases hincoming : incoming.Settled
  · have hnot : ¬FailsFirst (incoming :: states) := not_failsFirst_cons hincoming
    have hjoin : ¬FailsFirst (current.join incoming :: states) :=
      not_failsFirst_cons (settled_join_iff.mpr (.inr hincoming))
    exact iff_of_false (fun h => hnot h.2) hjoin
  · have hjoin : ¬(current.join incoming).Settled := fun h =>
      (settled_join_iff.mp h).elim hcurrent hincoming
    have hsame : current.join incoming = .failed ↔ incoming = .failed := by
      cases current <;> cases incoming <;> first | decide | exact absurd rfl hfailed | skip
      all_goals exact absurd (by decide) hcurrent
    rw [failsFirst_cons hincoming, failsFirst_cons hjoin, hsame, List.exists_mem_cons_iff,
      or_iff_right hincoming]
    exact ⟨fun h => h.2, fun h => ⟨h.1, h⟩⟩

/-- **Where a failure comes first, the delivery stays failed**; else its state is the join. -/
theorem foldl_mergeDeliveryState (current : E2EDeliveryState) (states : List E2EDeliveryState) :
    (FailsFirst (current :: states) → states.foldl mergeDeliveryState current = .failed) ∧
      (¬FailsFirst (current :: states) →
        states.foldl mergeDeliveryState current = states.foldl E2EDeliveryState.join current) := by
  induction states generalizing current with
  | nil =>
    refine ⟨fun h => ?_, fun _ => rfl⟩
    by_cases hcurrent : current.Settled
    · exact absurd h (not_failsFirst_cons hcurrent)
    · obtain ⟨⟨_, hmem, _⟩, _⟩ := (failsFirst_cons hcurrent).mp h
      cases hmem
  | cons state states ih =>
    by_cases hcurrent : current.Settled
    · exact ⟨fun h => absurd h (not_failsFirst_cons hcurrent),
        fun _ => foldl_of_settled hcurrent _⟩
    by_cases hfailed : current = .failed
    · rw [failsFirst_cons hcurrent, hfailed, foldl_of_failed]
      refine ⟨fun _ => rfl, fun h => (foldl_join_of_failed fun later hmem hlater => ?_).symm⟩
      exact h ⟨⟨later, hmem, hlater⟩, .inl rfl⟩
    · rw [failsFirst_join hcurrent hfailed, List.foldl_cons, List.foldl_cons,
        mergeDeliveryState_eq_join fun h => absurd h hfailed]
      exact ih _

theorem finalState_cons (state : E2EDeliveryState) (states : List E2EDeliveryState) :
    finalState (state :: states) = some (states.foldl E2EDeliveryState.join state) := by
  rw [finalState, List.foldl_cons]
  induction states generalizing state with
  | nil => rfl
  | cons next states ih => exact ih (state.join next)

/-- The state of a set of updates does not depend on their order. -/
theorem finalState_perm (h : states.Perm states') : finalState states = finalState states' := by
  refine h.foldl_eq' (fun left _ right _ current => ?_) none
  cases current with
  | none => exact congrArg some (join_comm left right)
  | some current => exact congrArg some (join_right_comm current left right)

variable {updates : List Standing}

theorem state_foldl_after (current : Standing) (updates : List Standing) :
    (updates.foldl Standing.after (some current)).map (·.state)
      = some ((updates.map (·.state)).foldl mergeDeliveryState current.state) := by
  induction updates generalizing current with
  | nil => rfl
  | cons update updates ih => exact ih (current.merge update)

theorem state_of_failsFirst (h : FailsFirst (updates.map (·.state))) :
    (updates.foldl Standing.after none).map (·.state) = some .failed := by
  cases updates with
  | nil =>
    obtain ⟨⟨_, hmem, _⟩, _⟩ := h
    cases hmem
  | cons update updates =>
    refine (state_foldl_after update updates).trans (congrArg some ?_)
    exact (foldl_mergeDeliveryState update.state _).1 h

theorem state_of_not_failsFirst (h : ¬FailsFirst (updates.map (·.state))) :
    (updates.foldl Standing.after none).map (·.state) = finalState (updates.map (·.state)) := by
  cases updates with
  | nil => rfl
  | cons update updates =>
    rw [List.map_cons, finalState_cons]
    refine (state_foldl_after update updates).trans (congrArg some ?_)
    exact (foldl_mergeDeliveryState update.state _).2 h

theorem settled_finalState {state : E2EDeliveryState} (h : finalState states = some state) :
    state.Settled ↔ ∃ other ∈ states, other.Settled := by
  cases states with
  | nil => cases h
  | cons first states =>
    rw [finalState_cons] at h
    rw [← Option.some.inj h]
    exact settled_foldl_join_iff

/-- **A merge that succeeds clears the error.** -/
theorem error_of_settled {final : Standing} (h : updates.foldl Standing.after none = some final)
    (hsettled : final.state.Settled) : final.error = none ↔ ¬BareError updates := by
  rcases List.eq_nil_or_concat' updates with rfl | ⟨earlier, update, rfl⟩
  · cases h
  rw [List.foldl_append] at h
  cases hearlier : earlier.foldl Standing.after none with
  | none =>
    obtain rfl : earlier = [] := by
      cases earlier with
      | nil => rfl
      | cons first earlier =>
        have hsome := state_foldl_after first earlier
        rw [show earlier.foldl Standing.after (some first) = none from hearlier] at hsome
        cases hsome
    obtain rfl := Option.some.inj h
    constructor
    · rintro herror ⟨other, hother, _, hbare⟩
      obtain rfl := (List.cons.inj hother).1
      exact hbare herror
    · exact fun hbare => Classical.byContradiction fun herror =>
        hbare ⟨update, rfl, hsettled, herror⟩
  | some current =>
    rw [hearlier] at h
    obtain rfl := Option.some.inj h
    refine iff_of_true ?_ ?_
    · show (match update.error, mergeDeliveryState current.state update.state with
        | _, .delivered | _, .received => none
        | some error, _ => some error
        | none, _ => current.error) = none
      rcases hsettled with hstate | hstate <;>
        rw [show mergeDeliveryState current.state update.state = _ from hstate]
    · rintro ⟨other, hother, _⟩
      have hlength := congrArg List.length hother
      rw [List.length_append, List.length_singleton, List.length_singleton] at hlength
      rw [List.length_eq_zero_iff.mp (by omega : earlier.length = 0)] at hearlier
      cases hearlier

theorem MessageStore.state_run {maxMessages : ℕ} {calls : List DeliveryCall}
    (hcalls : (MessageStore.new maxMessages).ListsOnce calls) (key : String × MessageDirection)
    (deliveryKey : String) :
    ((MessageStore.run maxMessages calls).deliveryAt key deliveryKey).map (·.state)
      = ((MessageStore.historyOf maxMessages calls key deliveryKey).foldl Standing.after
          none).map (·.state) := by
  rw [← standing_run hcalls, Option.map_map]
  rfl

/-- A failure that comes first is not what the updates lead to otherwise. -/
theorem failed_ne_finalState (h : ∃ state ∈ states, state.Settled) :
    some .failed ≠ finalState states := by
  intro hfailed
  have hsettled := (settled_finalState hfailed.symm).mpr h
  revert hsettled
  decide

end

/-- **The order of the updates of a delivery** does not matter where no failure comes before a
success: a message has a delivery exactly when there was an update of it, and has it once; a success
stays, without an error, unless a failure came first or it was the only update, with an error of its
own; and the same updates in another order lead to the same state exactly if a failure comes first
in both orders or in none. -/
theorem delivery_order_iff {maxMessages : ℕ} {calls : List DeliveryCall}
    (hcalls : (MessageStore.new maxMessages).ListsOnce calls) :
    (MessageStore.run maxMessages calls).Distinct ∧
      ∀ key deliveryKey,
        let delivery := (MessageStore.run maxMessages calls).deliveryAt key deliveryKey
        let updates := MessageStore.historyOf maxMessages calls key deliveryKey
        (delivery.isSome ↔ updates ≠ []) ∧
          ((∃ update ∈ updates, update.state.Settled) →
            ((∃ final, delivery = some final ∧ final.state.Settled ∧ final.error = none) ↔
              ¬FailsFirst (updates.map (·.state)) ∧ ¬BareError updates)) ∧
          ∀ maxMessages' calls', (MessageStore.new maxMessages').ListsOnce calls' →
            ∀ key' deliveryKey',
              let updates' := MessageStore.historyOf maxMessages' calls' key' deliveryKey'
              (updates'.map (·.state)).Perm (updates.map (·.state)) →
                (((MessageStore.run maxMessages' calls').deliveryAt key' deliveryKey').map (·.state)
                    = delivery.map (·.state) ↔
                  (FailsFirst (updates'.map (·.state)) ↔ FailsFirst (updates.map (·.state)))) := by
  refine ⟨(MessageStore.distinct_new maxMessages).run hcalls, fun key deliveryKey => ?_⟩
  have hstanding := MessageStore.standing_run hcalls key deliveryKey
  have hstate := MessageStore.state_run hcalls key deliveryKey
  dsimp only
  generalize (MessageStore.run maxMessages calls).deliveryAt key deliveryKey = delivery
    at hstanding hstate ⊢
  generalize MessageStore.historyOf maxMessages calls key deliveryKey = updates
    at hstanding hstate ⊢
  have hsome : delivery.isSome ↔ updates ≠ [] := by
    rw [← Option.isSome_map (f := (·.standing)), hstanding]
    cases updates with
    | nil => simp
    | cons update updates =>
      have hmap := congrArg Option.isSome (state_foldl_after update updates)
      rw [Option.isSome_map] at hmap
      exact iff_of_true hmap (List.cons_ne_nil _ _)
  refine ⟨hsome, fun hsettled => ⟨?_, ?_⟩, ?_⟩
  · rintro ⟨final, rfl, hfinal, herror⟩
    refine ⟨fun hfirst => ?_, (error_of_settled hstanding.symm hfinal).mp herror⟩
    rw [state_of_failsFirst hfirst] at hstate
    have hfailed : final.state = .failed := Option.some.inj hstate
    rw [hfailed] at hfinal
    revert hfinal
    decide
  · rintro ⟨hfirst, hbare⟩
    obtain ⟨update, hmem, hupdate⟩ := hsettled
    obtain ⟨final, rfl⟩ := Option.isSome_iff_exists.mp (hsome.mpr (List.ne_nil_of_mem hmem))
    rw [state_of_not_failsFirst hfirst] at hstate
    have hfinal : final.state.Settled :=
      (settled_finalState hstate.symm).mpr ⟨update.state, List.mem_map_of_mem hmem, hupdate⟩
    exact ⟨final, rfl, hfinal, (error_of_settled hstanding.symm hfinal).mpr hbare⟩
  · intro maxMessages' calls' hcalls' key' deliveryKey' hperm
    rw [MessageStore.state_run hcalls' key' deliveryKey', hstate]
    by_cases hfirst' : FailsFirst ((MessageStore.historyOf maxMessages' calls' key'
        deliveryKey').map (·.state)) <;> by_cases hfirst : FailsFirst (updates.map (·.state))
    · rw [state_of_failsFirst hfirst', state_of_failsFirst hfirst]
      exact iff_of_true rfl (iff_of_true hfirst' hfirst)
    · rw [state_of_failsFirst hfirst', state_of_not_failsFirst hfirst, ← finalState_perm hperm]
      exact iff_of_false (failed_ne_finalState hfirst'.1) fun h => hfirst (h.mp hfirst')
    · rw [state_of_not_failsFirst hfirst', state_of_failsFirst hfirst, finalState_perm hperm]
      exact iff_of_false (failed_ne_finalState hfirst.1).symm fun h => hfirst' (h.mpr hfirst)
    · rw [state_of_not_failsFirst hfirst', state_of_not_failsFirst hfirst]
      exact iff_of_true (finalState_perm hperm) (iff_of_false hfirst' hfirst)

/-! ### A message with one delivery -/

/-- A message of the daemon without deliveries. -/
def outgoing : StoredMessage := ⟨"msg", .outbound, none⟩

/-- What is recorded of sending a message. -/
def recordedDelivery (state : E2EDeliveryState) (error : Option String) : E2EDeliveryMetadata :=
  ⟨"session", some "envelope", "a", "b", "s", state, 1, none, error⟩

def recording (state : E2EDeliveryState) (error : Option String) : DeliveryCall :=
  .upsert "msg" .outbound (recordedDelivery state error)

theorem delivery_order_sample :
    let accepting :=
      [.store outgoing, recording .accepted none, .report "envelope" .delivered 2 none]
    let delivering := [.store outgoing, recording .delivered none, recording .accepted none]
    let key := ("msg", MessageDirection.outbound)
    ((MessageStore.run 8 delivering).deliveryAt key "a:b:s").map (·.state)
      = ((MessageStore.run 8 accepting).deliveryAt key "a:b:s").map (·.state) := by
  intro accepting delivering key
  have haccepting : (MessageStore.new 8).ListsOnce accepting :=
    ⟨.inr List.nodup_nil, trivial, trivial, trivial⟩
  have hdelivering : (MessageStore.new 8).ListsOnce delivering :=
    ⟨.inr List.nodup_nil, trivial, trivial, trivial⟩
  refine (((delivery_order_iff haccepting).2 key "a:b:s").2.2 8 delivering hdelivering key "a:b:s"
    ?_).mpr ?_ <;> decide +kernel

/-- **A failure that comes first stays**: a delivery that is reported as failed and is delivered
after that is failed, and the other way round it is delivered. -/
theorem failed_then_delivered :
    let failing := [.store outgoing, recording .failed (some "no route"), recording .delivered none]
    let delivering :=
      [.store outgoing, recording .delivered none, recording .failed (some "no route")]
    let key := ("msg", MessageDirection.outbound)
    (MessageStore.historyOf 8 failing key "a:b:s").Perm
        (MessageStore.historyOf 8 delivering key "a:b:s") ∧
      ((MessageStore.run 8 failing).deliveryAt key "a:b:s").map (·.standing)
        = some ⟨.failed, some "no route"⟩ ∧
      ((MessageStore.run 8 delivering).deliveryAt key "a:b:s").map (·.standing)
        = some ⟨.delivered, none⟩ := by
  refine ⟨?_, ?_, ?_⟩ <;> decide +kernel

end QuadraA.RuntimeRs
