import QuadraA.Lib.Trace
import QuadraA.Messaging.StoredOrigins

/-!
# Updates of one stored message that overlap

Each operation of `storage.ts` on a message reads the records of a direction from a snapshot, reads
those of the other direction from a later one, and then writes the whole record it has made.

* `calls_serial` — in a run of undisturbed calls the store is that of the calls one after another in
  the order of their ends, and the record has the effect of each;
* `readAt_lost` — a delivery that is recorded while the message is marked as read.

An iterator reads from the snapshot of its creation, which is when the operation is called.  A
`putMessage` that finds no record inserts one, which is no update and no call here.
-/

namespace QuadraA.Messaging

open QuadraA.Lib

/-! ### Operations -/

namespace MessageDb

/-- The record of the message with the deliveries of a call; no delivery is no write. -/
def upsertE2EDeliveries (collation : Collation) (db : MessageDb) (id : String)
    (deliveries : List E2EDeliveryMetadata) : MessageDb × Option NormalizedMessage :=
  if deliveries = [] then (db, db.getMessage id)
  else
    match db.findStoredMessageRecord id with
    | none => (db, none)
    | some (key, message) =>
        let merged := mergeStoredMessageE2EDeliveries collation message deliveries
        ({ db with messages := db.messages.set key (NormalizedMessage.toStored merged) },
          some merged)

/-- `{ deliveries: message.e2e?.deliveries ?? [], retry: mergeE2ERetryMetadata(…) }`. -/
def mergeRetry (message : NormalizedMessage) (retry : E2ERetryMetadata) : NormalizedMessage :=
  { message with
    e2e := some
      { deliveries := message.deliveries
        retry := mergeE2ERetryMetadata message.retry (some retry) } }

def upsertE2ERetry (db : MessageDb) (id : String) (retry : E2ERetryMetadata) :
    MessageDb × Option NormalizedMessage :=
  match db.findStoredMessageRecord id (some .outbound) with
  | none => (db, none)
  | some (key, message) =>
      let merged := mergeRetry message retry
      ({ db with messages := db.messages.set key merged.toStored }, some merged)

end MessageDb

/-- No property is overwritten. -/
def MessageUpdates.nothing : MessageUpdates :=
  ⟨none, none, none, none, none, none, none, none, none, none⟩

def markAsRead (now : ℤ) : MessageUpdates :=
  { MessageUpdates.nothing with readAt := some (some now) }

def retryMessage : MessageUpdates :=
  { MessageUpdates.nothing with status := some .pending, error := some none }

def markOutboundDelivered : MessageUpdates :=
  { MessageUpdates.nothing with status := some .delivered }

def markOutboundFailed (error : String) : MessageUpdates :=
  { MessageUpdates.nothing with status := some .failed, error := some (some error) }

/-- **A call** on a message; what is put has been normalized. -/
inductive StorageCall where
  | updateMessage (updates : MessageUpdates)
  | upsertE2EDeliveries (deliveries : List E2EDeliveryMetadata)
  | upsertE2ERetry (retry : E2ERetryMetadata)
  | putMessage (normalized : NormalizedMessage)

namespace StorageCall

/-- The direction that a call asks for. -/
def direction : StorageCall → Option MessageDirection
  | .upsertE2ERetry _ => some .outbound
  | _ => none

/-- What a call writes for the record it has found. -/
def merge (collation : Collation) (call : StorageCall) (message : NormalizedMessage) :
    Option (StoredMessage JsonValue) :=
  match call with
  | .updateMessage updates => some (updates.apply message.toStored)
  | .upsertE2EDeliveries deliveries =>
      if deliveries = [] then none
      else
        some (NormalizedMessage.toStored
          (mergeStoredMessageE2EDeliveries collation message deliveries))
  | .upsertE2ERetry retry => some (MessageDb.mergeRetry message retry).toStored
  | .putMessage normalized => some (mergeStoredMessages collation message normalized).toStored

/-- The write of a call, under the key it has found. -/
def write (collation : Collation) (call : StorageCall) (db : MessageDb)
    (found : Option (String × NormalizedMessage)) : MessageDb :=
  match found with
  | none => db
  | some (key, message) =>
      match call.merge collation message with
      | none => db
      | some value => { db with messages := db.messages.set key value }

/-- **A call on its own.** -/
def run (collation : Collation) (id : String) (db : MessageDb) (call : StorageCall) : MessageDb :=
  call.write collation db (db.findStoredMessageRecord id call.direction)

section

variable {collation : Collation} {db : MessageDb} {id : String}

theorem run_updateMessage (updates : MessageUpdates) :
    run collation id db (.updateMessage updates) = db.updateMessage id updates := by
  show write collation (.updateMessage updates) db (db.findStoredMessageRecord id none) = _
  rw [MessageDb.updateMessage]
  cases db.findStoredMessageRecord id none with
  | none => rfl
  | some found => rfl

end

end StorageCall

/-! ### Overlapping calls -/

/-- A call under way: its second scan is still to come, or its scans have found a record or none. -/
inductive Scan where
  | scanning
  | ended (found : Option (String × NormalizedMessage))

structure PendingCall where
  call : StorageCall
  scan : Scan

structure CallState where
  db : MessageDb
  pending : ℕ → Option PendingCall

def CallState.starting (db : MessageDb) : CallState := ⟨db, fun _ => none⟩

def CallState.setPending (s : CallState) (task : ℕ) (pending : Option PendingCall) : CallState :=
  { s with pending := Function.update s.pending task pending }

/-- The first scan: of the direction that is asked for, or of the inbound records. -/
def firstScan (db : MessageDb) (id : String) (direction : Option MessageDirection) : Scan :=
  match direction with
  | some direction => .ended (db.findDirection id direction)
  | none =>
      match db.findDirection id .inbound with
      | some found => .ended (some found)
      | none => .scanning

inductive CallEvent where
  | begun (task : ℕ) (call : StorageCall)
  | scanned (task : ℕ)
  | completed (task : ℕ) (call : StorageCall)

/-- **One step** of the calls on an id. -/
inductive CallStep (collation : Collation) (id : String) : CallState → CallEvent → CallState → Prop
  | begun {s : CallState} {task : ℕ} {call : StorageCall} :
      s.pending task = none →
      CallStep collation id s (.begun task call)
        (s.setPending task (some ⟨call, firstScan s.db id call.direction⟩))
  | scanned {s : CallState} {task : ℕ} {call : StorageCall} :
      s.pending task = some ⟨call, .scanning⟩ →
      CallStep collation id s (.scanned task)
        (s.setPending task (some ⟨call, .ended (s.db.findDirection id .outbound)⟩))
  | completed {s : CallState} {task : ℕ} {call : StorageCall}
      {found : Option (String × NormalizedMessage)} :
      s.pending task = some ⟨call, .ended found⟩ →
      -- a put that has found nothing inserts its message
      (∀ normalized, call = .putMessage normalized → found.isSome = true) →
      CallStep collation id s (.completed task call)
        { s.setPending task none with db := call.write collation s.db found }

/-- **A call ends undisturbed**: the store has what the scans of the call have found. -/
def Undisturbed (id : String) (s : CallState) : CallEvent → Prop
  | .completed task call =>
      ∀ found, s.pending task = some ⟨call, .ended found⟩ →
        s.db.findStoredMessageRecord id call.direction = found
  | _ => True

/-- The steps of which those that end a call are undisturbed. -/
def UndisturbedStep (collation : Collation) (id : String) (s : CallState) (event : CallEvent)
    (s' : CallState) : Prop :=
  CallStep collation id s event s' ∧ Undisturbed id s event

def CallEvent.completedCall : CallEvent → Option StorageCall
  | .completed _ call => some call
  | _ => none

/-- The calls that have ended, in the order of their ends. -/
def completedCalls (events : List CallEvent) : List StorageCall :=
  events.filterMap CallEvent.completedCall

variable {collation : Collation} {id : String} {s s' : CallState}

/-- An undisturbed step does what its call does on its own. -/
theorem db_of_step {event : CallEvent} (h : UndisturbedStep collation id s event s') :
    s'.db = match event.completedCall with
      | some call => call.run collation id s.db
      | none => s.db := by
  obtain ⟨hstep, hundisturbed⟩ := h
  cases hstep with
  | begun _ => rfl
  | scanned _ => rfl
  | completed hpending _ =>
    show StorageCall.write _ _ _ _ = StorageCall.run _ _ _ _
    rw [StorageCall.run, hundisturbed _ hpending]

/-- **Undisturbed calls are serial**, in the order of their ends. -/
theorem db_of_run {events : List CallEvent} (h : Trace (UndisturbedStep collation id) s events s') :
    s'.db = (completedCalls events).foldl (StorageCall.run collation id) s.db := by
  induction h with
  | nil => rfl
  | @snoc events t u event _ hlast ih =>
    rw [completedCalls, List.filterMap_append, List.foldl_append, ← completedCalls, ← ih,
      db_of_step hlast]
    cases hcall : event.completedCall with
    | none => simp [hcall]
    | some call => simp [hcall]

/-! ### The keys of merged deliveries -/

section

variable {collation : Collation}

/-- Every delivery is under its key. -/
def ByKey (record : Record String E2EDeliveryMetadata) : Prop :=
  ∀ key delivery, record.get? key = some delivery → buildE2EDeliveryKey delivery = key

/-- What a merge files under the key of a delivery. -/
def filedDelivery (record : Record String E2EDeliveryMetadata) (delivery : E2EDeliveryMetadata) :
    E2EDeliveryMetadata :=
  match record.get? (buildE2EDeliveryKey delivery) with
  | some previous => mergeE2EDelivery previous delivery
  | none => delivery

theorem key_filedDelivery (record : Record String E2EDeliveryMetadata)
    (delivery : E2EDeliveryMetadata) :
    buildE2EDeliveryKey (filedDelivery record delivery) = buildE2EDeliveryKey delivery := by
  rw [filedDelivery]
  cases record.get? (buildE2EDeliveryKey delivery) with
  | none => rfl
  | some previous => rfl

/-- A fold that files each delivery under its key, whatever it makes of it. -/
theorem byKey_foldl (value : Record String E2EDeliveryMetadata → E2EDeliveryMetadata →
      E2EDeliveryMetadata)
    (hvalue : ∀ record delivery,
      buildE2EDeliveryKey (value record delivery) = buildE2EDeliveryKey delivery)
    (deliveries : List E2EDeliveryMetadata) {record : Record String E2EDeliveryMetadata}
    (hrecord : ByKey record) :
    let filed := deliveries.foldl
      (fun record delivery => record.set (buildE2EDeliveryKey delivery) (value record delivery))
      record
    ByKey filed ∧ ∀ key, ((record.get? key).isSome = true ∨
      ∃ delivery ∈ deliveries, buildE2EDeliveryKey delivery = key) →
        (filed.get? key).isSome = true := by
  induction deliveries generalizing record with
  | nil =>
    refine ⟨hrecord, fun key h => ?_⟩
    rcases h with h | ⟨_, hmem, _⟩
    · exact h
    · cases hmem
  | cons first rest ih =>
    have hset : ByKey (record.set (buildE2EDeliveryKey first) (value record first)) := by
      intro key delivery hget
      rw [Record.get?_set] at hget
      split at hget
      · rename_i hkey
        obtain rfl := Option.some.inj hget
        exact (hvalue record first).trans hkey
      · exact hrecord key delivery hget
    obtain ⟨hby, hkeys⟩ := ih hset
    refine ⟨hby, fun key h => hkeys key ?_⟩
    rw [Record.get?_set]
    by_cases hkey : buildE2EDeliveryKey first = key
    · rw [if_pos hkey]
      exact Or.inl rfl
    · rw [if_neg hkey]
      rcases h with h | ⟨delivery, hmem, hdelivery⟩
      · exact Or.inl h
      · rcases List.mem_cons.mp hmem with hfirst | hmem
        · rw [hfirst] at hdelivery
          exact absurd hdelivery hkey
        · exact Or.inr ⟨delivery, hmem, hdelivery⟩

/-- What is filed in turn. -/
def fileDeliveries (record : Record String E2EDeliveryMetadata)
    (deliveries : List E2EDeliveryMetadata) : Record String E2EDeliveryMetadata :=
  deliveries.foldl
    (fun record delivery =>
      record.set (buildE2EDeliveryKey delivery) (filedDelivery record delivery)) record

variable {existing incoming : List E2EDeliveryMetadata} {delivery : E2EDeliveryMetadata}
  {before after message : NormalizedMessage} {id : String} {db : MessageDb}

/-- **A merge** is what is filed of both lists. -/
theorem mem_mergeE2EDeliveries :
    delivery ∈ mergeE2EDeliveries collation existing incoming ↔
      ∃ key, (fileDeliveries
        (existing.foldl (fun record delivery => record.set (buildE2EDeliveryKey delivery) delivery)
          Record.empty) incoming).get? key = some delivery := by
  have hsecond : (fun (record : Record String E2EDeliveryMetadata) delivery =>
      match record.get? (buildE2EDeliveryKey delivery) with
      | some previous => record.set (buildE2EDeliveryKey delivery)
          (mergeE2EDelivery previous delivery)
      | none => record.set (buildE2EDeliveryKey delivery) delivery)
      = fun record delivery => record.set (buildE2EDeliveryKey delivery)
          (filedDelivery record delivery) := by
    funext record delivery
    rw [filedDelivery]
    cases record.get? (buildE2EDeliveryKey delivery) with
    | none => rfl
    | some previous => rfl
  have hmerge : mergeE2EDeliveries collation existing incoming
      = List.mergeSort (Record.values (fileDeliveries
          (existing.foldl
            (fun record delivery => record.set (buildE2EDeliveryKey delivery) delivery)
            Record.empty) incoming))
          fun left right => (compareDeliveries collation left right).isLE :=
    congrArg (fun step => List.mergeSort (Record.values (incoming.foldl step _)) _) hsecond
  rw [hmerge, List.mem_mergeSort, Record.mem_values_iff]

/-- **A merge has the keys of both lists.** -/
theorem key_mem_mergeE2EDeliveries (h : delivery ∈ existing ∨ delivery ∈ incoming) :
    ∃ merged ∈ mergeE2EDeliveries collation existing incoming,
      buildE2EDeliveryKey merged = buildE2EDeliveryKey delivery := by
  have hempty : ByKey (Record.empty : Record String E2EDeliveryMetadata) := by
    intro key delivery hget
    rw [Record.get?_empty] at hget
    cases hget
  obtain ⟨hby, hkeys⟩ := byKey_foldl (fun _ delivery => delivery) (fun _ _ => rfl) existing hempty
  obtain ⟨hby', hkeys'⟩ := byKey_foldl filedDelivery key_filedDelivery incoming hby
  have hisSome := hkeys' (buildE2EDeliveryKey delivery) <| by
    rcases h with h | h
    · exact Or.inl (hkeys _ (Or.inr ⟨delivery, h, rfl⟩))
    · exact Or.inr ⟨delivery, h, rfl⟩
  obtain ⟨merged, hmerged⟩ := Option.isSome_iff_exists.mp hisSome
  exact ⟨merged, mem_mergeE2EDeliveries.mpr ⟨_, hmerged⟩, hby' _ _ hmerged⟩

/-! ### The effects of a call -/

/-- **A later record of a message** has what the earlier one had. -/
structure Extends (before after : NormalizedMessage) : Prop where
  deliveries : ∀ delivery ∈ before.deliveries, ∃ later ∈ after.deliveries,
    buildE2EDeliveryKey later = buildE2EDeliveryKey delivery
  retry : ∀ retry, before.retry = some retry →
    ∃ later, after.retry = some later ∧ retry.replayCount ≤ later.replayCount
  readAt : before.readAt.isSome = true → after.readAt.isSome = true

theorem Extends.refl (message : NormalizedMessage) : Extends message message :=
  ⟨fun delivery hmem => ⟨delivery, hmem, rfl⟩, fun retry hretry => ⟨retry, hretry, le_rfl⟩, id⟩

theorem Extends.trans {first second third : NormalizedMessage} (h : Extends first second)
    (h' : Extends second third) : Extends first third := by
  refine ⟨fun delivery hmem => ?_, fun retry hretry => ?_, fun hread => h'.readAt (h.readAt hread)⟩
  · obtain ⟨later, hlater, hkey⟩ := h.deliveries delivery hmem
    obtain ⟨last, hlast, hkey'⟩ := h'.deliveries later hlater
    exact ⟨last, hlast, hkey'.trans hkey⟩
  · obtain ⟨later, hlater, hle⟩ := h.retry retry hretry
    obtain ⟨last, hlast, hle'⟩ := h'.retry later hlater
    exact ⟨last, hlast, hle.trans hle'⟩

/-- **A record under a key has the effect of a call**: each delivery, the count of replays and
`readAt`.  A retry is for an outbound record. -/
def StorageCall.Absorbed (key : String) (message : NormalizedMessage) : StorageCall → Prop
  | .updateMessage updates => ∀ now, updates.readAt = some (some now) → message.readAt.isSome = true
  | .upsertE2EDeliveries deliveries => ∀ delivery ∈ deliveries, ∃ merged ∈ message.deliveries,
      buildE2EDeliveryKey merged = buildE2EDeliveryKey delivery
  | .upsertE2ERetry retry => InPrefixRange (messagePrefix .outbound) RANGE_END key →
      ∃ merged, message.retry = some merged ∧ retry.replayCount ≤ merged.replayCount
  | .putMessage normalized => Extends normalized message

/-- The calls of a queue: an update sets no envelope, direction or metadata, and clears no
`readAt`; what is put is the message. -/
def StorageCall.Plain (id : String) : StorageCall → Prop
  | .updateMessage updates => updates.envelope = none ∧ updates.direction = none ∧
      updates.e2e = none ∧ updates.readAt ≠ some none
  | .putMessage normalized => normalized.envelope.id = id ∧ normalized.envelope.isValid = true
  | _ => True

theorem Extends.absorbed (h : Extends before after) {key : String} {call : StorageCall}
    (habsorbed : call.Absorbed key before) : call.Absorbed key after := by
  cases call with
  | updateMessage updates => exact fun now hnow => h.readAt (habsorbed now hnow)
  | upsertE2EDeliveries deliveries =>
    intro delivery hmem
    obtain ⟨merged, hmerged, hkey⟩ := habsorbed delivery hmem
    obtain ⟨later, hlater, hkey'⟩ := h.deliveries merged hmerged
    exact ⟨later, hlater, hkey'.trans hkey⟩
  | upsertE2ERetry retry =>
    intro hrange
    obtain ⟨merged, hmerged, hle⟩ := habsorbed hrange
    obtain ⟨later, hlater, hle'⟩ := h.retry merged hmerged
    exact ⟨later, hlater, hle.trans hle'⟩
  | putMessage normalized => exact Extends.trans habsorbed h

theorem retry_mergeE2ERetryMetadata {existing incoming : Option E2ERetryMetadata}
    {retry : E2ERetryMetadata} (h : existing = some retry ∨ incoming = some retry) :
    ∃ merged, mergeE2ERetryMetadata existing incoming = some merged ∧
      retry.replayCount ≤ merged.replayCount := by
  cases existing with
  | none =>
    rcases h with h | h
    · cases h
    · exact ⟨retry, h, le_rfl⟩
  | some first =>
    cases incoming with
    | none =>
      rcases h with h | h
      · obtain rfl := Option.some.inj h
        exact ⟨first, rfl, le_rfl⟩
      · cases h
    | some second =>
      refine ⟨_, rfl, ?_⟩
      rcases h with h | h
      · obtain rfl := Option.some.inj h
        exact le_max_left _ _
      · obtain rfl := Option.some.inj h
        exact le_max_right _ _

/-- The status is no part of it. -/
theorem Extends.withStatus (h : Extends before after) (status : MessageStatus) :
    Extends before { after with status := status } :=
  ⟨h.deliveries, h.retry, h.readAt⟩

theorem extends_mergeDeliveries (collation : Collation) (message : NormalizedMessage)
    (deliveries : List E2EDeliveryMetadata) :
    Extends message (mergeStoredMessageE2EDeliveries collation message deliveries) ∧
      ∀ delivery ∈ deliveries,
        ∃ merged ∈ (mergeStoredMessageE2EDeliveries collation message deliveries).deliveries,
          buildE2EDeliveryKey merged = buildE2EDeliveryKey delivery := by
  rw [mergeStoredMessageE2EDeliveries]
  by_cases hempty : deliveries = []
  · rw [if_pos hempty, hempty]
    refine ⟨.refl message, fun delivery hmem => ?_⟩
    cases hmem
  · rw [if_neg hempty]
    exact ⟨⟨fun delivery hmem => key_mem_mergeE2EDeliveries (Or.inl hmem),
      fun retry hretry => ⟨retry, hretry, le_rfl⟩, id⟩,
      fun delivery hmem => key_mem_mergeE2EDeliveries (Or.inr hmem)⟩

/-- What a put makes of the parts of both copies that are kept. -/
theorem fields_mergeStoredMessages (collation : Collation)
    (existing incoming : NormalizedMessage) :
    (∀ delivery, delivery ∈ existing.deliveries ∨ delivery ∈ incoming.deliveries →
      ∃ merged ∈ (mergeStoredMessages collation existing incoming).deliveries,
        buildE2EDeliveryKey merged = buildE2EDeliveryKey delivery) ∧
      (mergeStoredMessages collation existing incoming).retry
        = mergeE2ERetryMetadata existing.retry incoming.retry ∧
      (mergeStoredMessages collation existing incoming).readAt
        = (existing.readAt <|> incoming.readAt) := by
  rw [mergeStoredMessages]
  generalize hmerged : StoredMessage.mk _ _ _ _ _ _ _ _ _ _ = merged
  have hdeliveries : merged.deliveries = existing.deliveries := by
    rw [← hmerged]
    rfl
  have hretry : merged.retry = existing.retry := by
    rw [← hmerged]
    rfl
  have hreadAt : merged.readAt = (existing.readAt <|> incoming.readAt) := by rw [← hmerged]
  have hkeys : ∀ delivery, delivery ∈ existing.deliveries ∨ delivery ∈ incoming.deliveries →
      ∃ filed ∈ (mergeStoredMessageE2EDeliveries collation merged incoming.deliveries).deliveries,
        buildE2EDeliveryKey filed = buildE2EDeliveryKey delivery := by
    obtain ⟨hextends, hincoming⟩ :=
      extends_mergeDeliveries collation merged incoming.deliveries
    intro delivery hmem
    rcases hmem with hmem | hmem
    · exact hextends.deliveries delivery (hdeliveries ▸ hmem)
    · exact hincoming delivery hmem
  have hfields : (mergeStoredMessageE2EDeliveries collation merged incoming.deliveries).retry
      = merged.retry ∧ (mergeStoredMessageE2EDeliveries collation merged incoming.deliveries).readAt
      = merged.readAt := by
    rw [mergeStoredMessageE2EDeliveries]
    split
    · exact ⟨rfl, rfl⟩
    · exact ⟨rfl, rfl⟩
  by_cases hnone : (existing.retry.isNone && incoming.retry.isNone) = true
  · rw [if_pos hnone]
    rw [Bool.and_eq_true, Option.isNone_iff_eq_none, Option.isNone_iff_eq_none] at hnone
    refine ⟨hkeys, ?_, hfields.2.trans hreadAt⟩
    rw [hfields.1, hretry, hnone.1, hnone.2]
    rfl
  · rw [if_neg hnone]
    exact ⟨hkeys, rfl, hfields.2.trans hreadAt⟩

/-- **A put extends both** the record and the message. -/
theorem extends_mergeStoredMessages (collation : Collation)
    (existing incoming : NormalizedMessage) :
    Extends existing (mergeStoredMessages collation existing incoming) ∧
      Extends incoming (mergeStoredMessages collation existing incoming) := by
  obtain ⟨hkeys, hretry, hreadAt⟩ := fields_mergeStoredMessages collation existing incoming
  refine ⟨⟨fun delivery hmem => hkeys delivery (Or.inl hmem), fun retry h => ?_, fun h => ?_⟩,
    ⟨fun delivery hmem => hkeys delivery (Or.inr hmem), fun retry h => ?_, fun h => ?_⟩⟩
  · rw [hretry]
    exact retry_mergeE2ERetryMetadata (Or.inl h)
  · rw [hreadAt]
    cases hread : existing.readAt with
    | none =>
      rw [hread] at h
      cases h
    | some now => rfl
  · rw [hretry]
    exact retry_mergeE2ERetryMetadata (Or.inr h)
  · rw [hreadAt]
    cases hread : existing.readAt with
    | none => exact h
    | some now => rfl

/-- **What a call writes** can be read, has the id, extends the record it was made of and has the
effect of the call. -/
theorem absorbed_of_merge (key : String) {call : StorageCall} {value : StoredMessage JsonValue}
    (hplain : call.Plain id) (hvalid : message.envelope.isValid = true)
    (hid : message.envelope.id = id) (h : call.merge collation message = some value) :
    ∃ after, normalizeStoredMessage value = some after ∧ after.envelope.id = id ∧
      Extends message after ∧ call.Absorbed key after := by
  cases call with
  | updateMessage updates =>
    obtain ⟨henvelope, _, he2e, hread⟩ := hplain
    obtain rfl := Option.some.inj h
    have hvalue : (updates.apply message.toStored).envelope = message.envelope.toJson := by
      rw [MessageUpdates.apply, henvelope]
      rfl
    have he2e' : updates.e2e.getD message.e2e = message.e2e := by rw [he2e, Option.getD_none]
    refine ⟨{ (updates.apply message.toStored).withEnvelope message.envelope with
        status := storedMessageStatus
          ((updates.apply message.toStored).withEnvelope message.envelope) }, ?_, hid, ?_, ?_⟩
    · rw [normalizeStoredMessage, hvalue, normalizeEnvelope_toJson hvalid, Option.map_some]
    · refine ⟨fun delivery hmem => ⟨delivery, ?_, rfl⟩, fun retry hretry => ⟨retry, ?_, le_rfl⟩,
        fun h => ?_⟩
      · show delivery ∈ ((updates.e2e.getD message.e2e).map fun e2e => e2e.deliveries).getD []
        rw [he2e']
        exact hmem
      · show (updates.e2e.getD message.e2e).bind (fun e2e => e2e.retry) = some retry
        rw [he2e']
        exact hretry
      · show (updates.readAt.getD message.readAt).isSome = true
        cases hupdate : updates.readAt with
        | none => exact h
        | some readAt =>
          cases readAt with
          | none => exact absurd hupdate hread
          | some now => rfl
    · intro now hnow
      show (updates.readAt.getD message.readAt).isSome = true
      rw [hnow]
      rfl
  | upsertE2EDeliveries deliveries =>
    rw [StorageCall.merge] at h
    split at h
    · cases h
    · obtain rfl := Option.some.inj h
      obtain ⟨hextends, hkeys⟩ := extends_mergeDeliveries collation message deliveries
      have hsame : (mergeStoredMessageE2EDeliveries collation message deliveries).envelope
          = message.envelope := by
        rw [mergeStoredMessageE2EDeliveries]
        split <;> rfl
      refine ⟨_, normalizeStoredMessage_toStored (hsame ▸ hvalid), ?_, hextends.withStatus _, hkeys⟩
      rw [hsame]
      exact hid
  | upsertE2ERetry retry =>
    obtain rfl := Option.some.inj h
    refine ⟨_, normalizeStoredMessage_toStored hvalid, hid, ?_, fun _ => ?_⟩
    · exact ⟨fun delivery hmem => ⟨delivery, hmem, rfl⟩,
        fun retry hretry => retry_mergeE2ERetryMetadata (Or.inl hretry), fun h => h⟩
    · exact retry_mergeE2ERetryMetadata (Or.inr rfl)
  | putMessage normalized =>
    obtain rfl := Option.some.inj h
    obtain ⟨hextends, hincoming⟩ := extends_mergeStoredMessages collation message normalized
    have hsame := (envelope_mergeStoredMessages collation message normalized).1
    refine ⟨_, normalizeStoredMessage_toStored (hsame ▸ hplain.2), ?_, hextends.withStatus _,
      hincoming.withStatus _⟩
    rw [hsame]
    exact hplain.1

/-! ### Calls one after another -/

/-- **The message of an id** stands under a key of a keyed store. -/
structure Holds (id key : String) (db : MessageDb) (message : NormalizedMessage) : Prop where
  keyed : Keyed db.messages
  stored : ∃ value, db.messages.get? key = some value ∧
    normalizeStoredMessage value = some message
  id : message.envelope.id = id

theorem Holds.find {key : String} (h : Holds id key db message) :
    db.findStoredMessageRecord id = some (key, message) := by
  obtain ⟨value, hget, hread⟩ := h.stored
  have hfind := h.keyed.find hget hread
  rw [h.id] at hfind
  exact hfind

/-- A search of a direction finds that message, or the key is of the other direction. -/
theorem Holds.findDirection {key : String} (h : Holds id key db message)
    (direction : MessageDirection) :
    db.findDirection id direction = some (key, message) ∨
      db.findDirection id direction = none ∧
        ¬InPrefixRange (messagePrefix direction) RANGE_END key := by
  obtain ⟨value, hget, hread⟩ := h.stored
  have hown := envelopeId_of_normalize hread
  rw [h.id] at hown
  cases hfind : db.findDirection id direction with
  | some found =>
    obtain ⟨key', message'⟩ := found
    obtain ⟨value', hget', hid', hread', _⟩ := of_findDirection hfind
    have hkeys := h.keyed.unique key key' value value' hget hget' (by rw [hown, hid'])
    subst hkeys
    obtain rfl := Option.some.inj (hget.symm.trans hget')
    obtain rfl := Option.some.inj (hread.symm.trans hread')
    exact Or.inl rfl
  | none =>
    refine Or.inr ⟨rfl, fun hrange => ?_⟩
    have hsome := findDirection_isSome hget hrange hread
    rw [h.id, hfind] at hsome
    cases hsome

/-- **One call on its own** leaves a record that extends the one before and has its effect. -/
theorem Holds.run {key : String} (h : Holds id key db message) {call : StorageCall}
    (hplain : call.Plain id) :
    ∃ after, Holds id key (call.run collation id db) after ∧ Extends message after ∧
      call.Absorbed key after := by
  obtain ⟨stored, hget, hread⟩ := h.stored
  have hvalid := isValid_of_normalizeEnvelope (of_normalizeStoredMessage hread).1
  have hown := envelopeId_of_normalize hread
  rw [h.id] at hown
  -- the search of the call finds the record, or its direction has none
  have hfound : db.findStoredMessageRecord id call.direction = some (key, message) ∨
      db.findStoredMessageRecord id call.direction = none ∧ call.Absorbed key message := by
    cases call with
    | updateMessage updates => exact Or.inl h.find
    | upsertE2EDeliveries deliveries => exact Or.inl h.find
    | putMessage normalized => exact Or.inl h.find
    | upsertE2ERetry retry =>
      rcases h.findDirection .outbound with hfind | ⟨hfind, hrange⟩
      · exact Or.inl hfind
      · exact Or.inr ⟨hfind, fun habsurd => absurd habsurd hrange⟩
  rcases hfound with hfind | ⟨hfind, habsorbed⟩
  · cases hmerge : call.merge collation message with
    | some value =>
      obtain ⟨after, hafter, hid, hextends, habsorbed⟩ :=
        absorbed_of_merge key hplain hvalid h.id hmerge
      have hdb : call.run collation id db
          = { db with messages := db.messages.set key value } := by
        rw [StorageCall.run, hfind]
        show (match call.merge collation message with
          | none => db
          | some value => { db with messages := db.messages.set key value }) = _
        rw [hmerge]
      rw [hdb]
      refine ⟨after, ⟨h.keyed.overwrite hget ?_ ⟨after, hafter⟩,
        ⟨value, Record.get?_set_self .., hafter⟩, hid⟩, hextends, habsorbed⟩
      rw [envelopeId_of_normalize hafter, hid, hown]
    | none =>
      -- no delivery is no write
      have hdb : call.run collation id db = db := by
        rw [StorageCall.run, hfind]
        show (match call.merge collation message with
          | none => db
          | some value => { db with messages := db.messages.set key value }) = _
        rw [hmerge]
      rw [hdb]
      refine ⟨message, h, .refl message, ?_⟩
      cases call with
      | upsertE2EDeliveries deliveries =>
        rw [StorageCall.merge] at hmerge
        split at hmerge
        · rename_i hempty
          rw [hempty]
          intro delivery hmem
          cases hmem
        · cases hmerge
      | updateMessage updates => cases hmerge
      | upsertE2ERetry retry => cases hmerge
      | putMessage normalized => cases hmerge
  · have hdb : call.run collation id db = db := by
      rw [StorageCall.run, hfind]
      rfl
    rw [hdb]
    exact ⟨message, h, .refl message, habsorbed⟩

/-- **Calls one after another** leave a record with the effect of each. -/
theorem Holds.foldl (collation : Collation) {key : String} {calls : List StorageCall}
    (hplain : ∀ call ∈ calls, call.Plain id) (h : Holds id key db message) :
    ∃ after, Holds id key (calls.foldl (StorageCall.run collation id) db) after ∧
      Extends message after ∧ ∀ call ∈ calls, call.Absorbed key after := by
  induction calls generalizing db message with
  | nil =>
    refine ⟨message, h, .refl message, fun call hmem => ?_⟩
    cases hmem
  | cons first rest ih =>
    obtain ⟨next, hnext, hextends, hfirst⟩ := h.run (hplain first (List.mem_cons_self ..))
    obtain ⟨after, hafter, hextends', hrest⟩ :=
      ih (fun call hmem => hplain call (List.mem_cons_of_mem _ hmem)) hnext
    refine ⟨after, hafter, hextends.trans hextends', fun call hmem => ?_⟩
    rcases List.mem_cons.mp hmem with hcall | hmem
    · rw [hcall]
      exact hextends'.absorbed hfirst
    · exact hrest call hmem

end

/-- **Undisturbed calls lose no update**: the store is that of the calls one after another, in the
order of their ends; and of the calls of a queue, the record has the effect of each. -/
theorem calls_serial (collation : Collation) (id : String) (db : MessageDb)
    (events : List CallEvent) (s : CallState)
    (h : Trace (UndisturbedStep collation id) (.starting db) events s) :
    s.db = (completedCalls events).foldl (StorageCall.run collation id) db ∧
      ∀ key message, Holds id key db message →
        (∀ call ∈ completedCalls events, call.Plain id) →
        ∃ after, Holds id key s.db after ∧ Extends message after ∧
          ∀ call ∈ completedCalls events, call.Absorbed key after := by
  have hdb := db_of_run h
  refine ⟨hdb, fun key message hholds hplain => ?_⟩
  rw [hdb]
  exact hholds.foldl collation hplain

/-! ### A message that is read -/

theorem readAt_of_normalize {value : StoredMessage JsonValue} {message : NormalizedMessage}
    (h : normalizeStoredMessage value = some message) : message.readAt = value.readAt := by
  rw [normalizeStoredMessage, Option.map_eq_some_iff] at h
  obtain ⟨envelope, _, rfl⟩ := h
  rfl

/-- A message from Alice that is not read yet. -/
def unreadMessage : NormalizedMessage := inboundMessage (sampleEnvelope "m1" "did:agent:zAlice")

def unreadKey : String := storageKey .inbound (timestampSegment 1000) "m1"

def unreadDb : MessageDb := MessageDb.empty.insertMessage unreadMessage

theorem messages_unreadDb : unreadDb.messages = Record.empty.set unreadKey unreadMessage.toStored :=
  messages_insertMessage MessageDb.empty unreadMessage

theorem holds_unreadDb : Holds "m1" unreadKey unreadDb unreadMessage := by
  have hread := normalize_inboundMessage
    (show (sampleEnvelope "m1" "did:agent:zAlice").isValid = true from rfl)
  refine ⟨?_, ⟨unreadMessage.toStored, ?_, hread⟩, rfl⟩
  · rw [messages_unreadDb]
    refine Keyed.empty.insert (fun key value hget => ?_) _ _ (envelopeId_toStored _) ⟨_, hread⟩
    rw [Record.get?_empty] at hget
    cases hget
  · rw [messages_unreadDb]
    exact Record.get?_set_self ..

/-- A copy of the message that has come through another device. -/
def sampleReceipt : E2EDeliveryMetadata where
  transport := "session"
  transportMessageId := some "t1"
  senderDeviceId := "device-a"
  receiverDeviceId := "device-b"
  sessionId := "s1"
  state := .received
  recordedAt := 5000
  usedSkippedMessageKey := none
  error := none

def readCall : StorageCall := .updateMessage (markAsRead 5000)

def receiptCall : StorageCall := .upsertE2EDeliveries [sampleReceipt]

/-- A call whose first scan finds the message ends with its write. -/
theorem step_completed (s : CallState) (task : ℕ) (call : StorageCall)
    (hpending : s.pending task = some ⟨call, .ended (some (unreadKey, unreadMessage))⟩) :
    CallStep codePointOrder "m1" s (.completed task call)
      { s.setPending task none with
        db := call.write codePointOrder s.db (some (unreadKey, unreadMessage)) } :=
  .completed hpending fun _ _ => rfl

theorem firstScan_unreadDb : firstScan unreadDb "m1" none
    = .ended (some (unreadKey, unreadMessage)) := by
  rw [firstScan]
  rcases holds_unreadDb.findDirection .inbound with hfind | ⟨_, hrange⟩
  · rw [hfind]
  · exact absurd (inPrefixRange_storageKey.mpr rfl) hrange

theorem step_begun (s : CallState) (task : ℕ) (call : StorageCall) (hdb : s.db = unreadDb)
    (hfree : s.pending task = none) (hdirection : call.direction = none) :
    CallStep codePointOrder "m1" s (.begun task call)
      (s.setPending task (some ⟨call, .ended (some (unreadKey, unreadMessage))⟩)) := by
  have hstep := @CallStep.begun codePointOrder "m1" s task call hfree
  rw [hdb, hdirection, firstScan_unreadDb] at hstep
  exact hstep

/-- Alone, the message is marked as read. -/
theorem calls_serial_sample :
    ∃ s, Trace (UndisturbedStep codePointOrder "m1") (.starting unreadDb)
        [.begun 0 readCall, .completed 0 readCall] s ∧
      s.db = unreadDb.updateMessage "m1" (markAsRead 5000) ∧
      ∃ after, Holds "m1" unreadKey s.db after ∧ after.readAt.isSome = true := by
  have hbegun : UndisturbedStep codePointOrder "m1" (.starting unreadDb) (.begun 0 readCall) _ :=
    ⟨step_begun _ _ _ rfl rfl rfl, trivial⟩
  have hcompleted := step_completed ((CallState.starting unreadDb).setPending 0
    (some ⟨readCall, .ended (some (unreadKey, unreadMessage))⟩)) 0 readCall rfl
  have hrun := (Trace.nil.snoc hbegun).snoc
    (show UndisturbedStep codePointOrder "m1" _ _ _ from ⟨hcompleted, fun found hfound => by
      have hsame : some (PendingCall.mk readCall (.ended (some (unreadKey, unreadMessage))))
          = some ⟨readCall, .ended found⟩ := hfound
      rw [← Scan.ended.inj (PendingCall.mk.inj (Option.some.inj hsame)).2]
      exact holds_unreadDb.find⟩)
  obtain ⟨hdb, heffects⟩ := calls_serial codePointOrder "m1" unreadDb _ _ hrun
  refine ⟨_, hrun, ?_, ?_⟩
  · rw [hdb]
    exact @StorageCall.run_updateMessage codePointOrder _ _ _
  · obtain ⟨after, hholds, _, habsorbed⟩ := heffects unreadKey unreadMessage holds_unreadDb
      fun call hmem => by
        obtain rfl := List.mem_singleton.mp hmem
        exact ⟨rfl, rfl, rfl, fun h => by cases h⟩
    exact ⟨after, hholds, habsorbed readCall (List.mem_singleton_self _) 5000 rfl⟩

/-- **A mark is lost**: the message is marked as read while a delivery is recorded, and the record
is not that of any order of the two calls. -/
theorem readAt_lost :
    ∃ s, Trace (CallStep codePointOrder "m1") (.starting unreadDb)
        [.begun 0 receiptCall, .begun 1 readCall, .completed 1 readCall,
          .completed 0 receiptCall] s ∧
      (∀ after, Holds "m1" unreadKey s.db after → after.readAt = none) ∧
      ∀ calls : List StorageCall, calls.Perm [readCall, receiptCall] →
        s.db ≠ calls.foldl (StorageCall.run codePointOrder "m1") unreadDb := by
  have hrun := (((Trace.nil.snoc
    (step_begun (.starting unreadDb) 0 receiptCall rfl rfl rfl)).snoc
    (step_begun _ 1 readCall rfl rfl rfl)).snoc
    (step_completed _ 1 readCall rfl)).snoc
    (step_completed _ 0 receiptCall rfl)
  have hread : ∀ after, Holds "m1" unreadKey (receiptCall.write codePointOrder
      (readCall.write codePointOrder unreadDb (some (unreadKey, unreadMessage)))
      (some (unreadKey, unreadMessage))) after → after.readAt = none := by
    intro after hholds
    obtain ⟨value, hget, hnormal⟩ := hholds.stored
    have hvalue := hget.symm.trans (Record.get?_set_self ..)
    rw [readAt_of_normalize hnormal, Option.some.inj hvalue]
    rfl
  refine ⟨_, hrun, hread, fun calls hperm hserial => ?_⟩
  have hplain : ∀ call ∈ calls, call.Plain "m1" := by
    intro call hmem
    rcases List.mem_cons.mp (hperm.mem_iff.mp hmem) with rfl | hmem
    · exact ⟨rfl, rfl, rfl, fun h => by cases h⟩
    · obtain rfl := List.mem_singleton.mp hmem
      exact trivial
  obtain ⟨after, hholds, _, habsorbed⟩ := holds_unreadDb.foldl codePointOrder hplain
  have hsome := habsorbed readCall (hperm.mem_iff.mpr (List.mem_cons_self ..)) 5000 rfl
  rw [← hserial] at hholds
  rw [hread after hholds] at hsome
  cases hsome

end QuadraA.Messaging
