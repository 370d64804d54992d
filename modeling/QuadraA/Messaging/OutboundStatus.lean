import QuadraA.Messaging.OverlappingUpdates

/-!
# The status of an outbound message

`messaging/queue.ts` and `status.ts`: the calls on an outbound message, and the status that is read
of it after them.

* `OutboundCall` — a message is enqueued, a delivery is recorded, the message is marked or retried;
* `status_follows_iff` — the status follows the attempts after every call of a sequence exactly when
  all calls are clean.

The status that an operation reads is what it writes back, so a failure that was read once stays.
-/

namespace QuadraA.Messaging

open QuadraA.Lib

/-! ### Calls -/

inductive OutboundCall where
  | enqueueOutbound (envelope : MessageEnvelope) (sentAt : ℤ)
      (e2eDeliveries : List E2EDeliveryMetadata)
  | appendE2EDelivery (delivery : E2EDeliveryMetadata)
  | markOutboundDelivered
  | markOutboundFailed (error : String)
  | retryMessage

/-- The message that `enqueueOutbound` puts. -/
def outboundMessage (envelope : MessageEnvelope) (sentAt : ℤ)
    (e2eDeliveries : List E2EDeliveryMetadata) : NormalizedMessage where
  envelope := envelope
  direction := .outbound
  status := .pending
  receivedAt := none
  sentAt := some sentAt
  readAt := none
  trustScore := none
  trustStatus := none
  error := none
  e2e := if e2eDeliveries = [] then none else some ⟨e2eDeliveries, none⟩

namespace OutboundCall

/-- A call on the message with an id. -/
def IsAbout (id : String) : OutboundCall → Prop
  | enqueueOutbound envelope _ _ => envelope.id = id
  | _ => True

/-- **What a call does to the store**; an envelope that is not valid throws before it does. -/
def apply (collation : Collation) (id : String) (db : MessageDb) : OutboundCall → MessageDb
  | enqueueOutbound envelope sentAt e2eDeliveries =>
      db.store collation (outboundMessage envelope sentAt e2eDeliveries).toStored
  | appendE2EDelivery delivery => (db.upsertE2EDeliveries collation id [delivery]).1
  | markOutboundDelivered => db.updateMessage id Messaging.markOutboundDelivered
  | markOutboundFailed error => db.updateMessage id (Messaging.markOutboundFailed error)
  | retryMessage => db.updateMessage id Messaging.retryMessage

end OutboundCall

/-! ### Attempts -/

inductive OutboundMark where
  | delivered
  | failed
deriving DecidableEq

/-- **The attempts to send a message**: the last mark since a retry, and the last delivery that was
recorded for each device of the receiver. -/
structure Attempts where
  mark : Option OutboundMark
  latest : String → Option E2EDeliveryState

namespace Attempts

def none : Attempts := ⟨Option.none, fun _ => Option.none⟩

def deliver (attempts : Attempts) (deliveries : List E2EDeliveryMetadata) : Attempts :=
  { attempts with
    latest := deliveries.foldl
      (fun latest delivery =>
        Function.update latest delivery.receiverDeviceId (some delivery.state))
      attempts.latest }

def record (attempts : Attempts) : OutboundCall → Attempts
  | .enqueueOutbound envelope _ e2eDeliveries =>
      if envelope.isValid then attempts.deliver e2eDeliveries else attempts
  | .appendE2EDelivery delivery => attempts.deliver [delivery]
  | .markOutboundDelivered => { attempts with mark := some .delivered }
  | .markOutboundFailed _ => { attempts with mark := some .failed }
  | .retryMessage => { attempts with mark := Option.none }

/-- The last attempt failed, as a whole or for a device. -/
def SomeFailed (attempts : Attempts) : Prop :=
  attempts.mark = some .failed ∨ ∃ device, attempts.latest device = some .failed

/-- The last mark was delivered, and so was what was recorded last for each device. -/
def AllDelivered (attempts : Attempts) : Prop :=
  attempts.mark = some .delivered ∧ ∀ device state, attempts.latest device = some state →
    state = .sent ∨ state = .received

theorem AllDelivered.not_failed {attempts : Attempts} (h : attempts.AllDelivered) :
    ¬attempts.SomeFailed := by
  rintro (hmark | ⟨device, hlatest⟩)
  · rw [h.1] at hmark
    cases hmark
  · rcases h.2 device _ hlatest with h | h <;> cases h

end Attempts

/-! ### Runs -/

/-- The store with the attempts that were made. -/
structure OutboundState where
  db : MessageDb
  attempts : Attempts

section

variable (collation : Collation) (id : String)

/-- A call; it is no attempt as long as the message is not there. -/
def OutboundState.step (s : OutboundState) (call : OutboundCall) : OutboundState where
  db := call.apply collation id s.db
  attempts :=
    if ((call.apply collation id s.db).getMessage id).isSome then s.attempts.record call
    else s.attempts

def OutboundState.run (s : OutboundState) (calls : List OutboundCall) : OutboundState :=
  calls.foldl (OutboundState.step collation id) s

/-- **The status follows the attempts**, after a call if there was one. -/
structure FollowsAttempts (s : OutboundState) (last : Option OutboundCall) : Prop where
  retried : ∀ message, s.db.getMessage id = some message → last = some .retryMessage →
    message.status = .pending
  delivered : ∀ message, s.db.getMessage id = some message → s.attempts.AllDelivered →
    message.status = .delivered
  failed : ∀ message, s.db.getMessage id = some message → message.status = .failed →
    s.attempts.SomeFailed

end

/-! ### Clean calls -/

/-- The deliveries that no later one of the list has the key of. -/
def lastByKey : List E2EDeliveryMetadata → List E2EDeliveryMetadata
  | [] => []
  | delivery :: rest =>
      if ∃ later ∈ rest, buildE2EDeliveryKey later = buildE2EDeliveryKey delivery then
        lastByKey rest
      else delivery :: lastByKey rest

def HasFailed (deliveries : List E2EDeliveryMetadata) : Prop :=
  ∃ delivery ∈ deliveries, delivery.state = .failed

/-- **Deliveries are recorded cleanly** on a message: when it reads as failed, or one of them has
failed, some attempt is failed after them. -/
def CleanDeliveries (attempts : Attempts) (message : NormalizedMessage)
    (deliveries : List E2EDeliveryMetadata) : Prop :=
  message.status = .failed ∨ HasFailed (lastByKey deliveries) →
    (attempts.deliver deliveries).SomeFailed

/-- **A clean call** on the message that is stored, if one is. -/
def OutboundCall.IsClean (attempts : Attempts) : Option NormalizedMessage → OutboundCall → Prop
  | none, enqueueOutbound envelope _ e2eDeliveries => envelope.isValid = true →
      HasFailed e2eDeliveries → (attempts.deliver e2eDeliveries).SomeFailed
  | none, _ => True
  | some message, enqueueOutbound envelope _ e2eDeliveries => envelope.isValid = true →
      CleanDeliveries attempts message e2eDeliveries
  | some message, appendE2EDelivery delivery => CleanDeliveries attempts message [delivery]
  | some message, markOutboundDelivered => HasFailed message.deliveries →
      ∃ device, attempts.latest device = some .failed
  | some _, markOutboundFailed _ => True
  | some message, retryMessage => ∀ delivery ∈ message.deliveries, delivery.state = .pending

section

variable (collation : Collation) (id : String)

/-- **A property of every call of a sequence**, with the state that the call finds. -/
def Throughout (P : OutboundState → OutboundCall → Prop) (s : OutboundState)
    (calls : List OutboundCall) : Prop :=
  ∀ earlier call later, calls = earlier ++ call :: later → P (s.run collation id earlier) call

def CleanCalls : OutboundState → List OutboundCall → Prop :=
  Throughout collation id fun s call => call.IsClean s.attempts (s.db.getMessage id)

def StatusFollows : OutboundState → List OutboundCall → Prop :=
  Throughout collation id fun s call =>
    FollowsAttempts id (s.step collation id call) (some call)

end

variable {collation : Collation} {id key : String} {db : MessageDb} {s : OutboundState}
  {call : OutboundCall} {calls : List OutboundCall} {message raw : NormalizedMessage}
  {deliveries existing incoming : List E2EDeliveryMetadata} {delivery : E2EDeliveryMetadata}

theorem throughout_cons {P : OutboundState → OutboundCall → Prop} :
    Throughout collation id P s (call :: calls) ↔
      P s call ∧ Throughout collation id P (s.step collation id call) calls := by
  constructor
  · intro h
    refine ⟨h [] call calls rfl, fun earlier call' later hsplit => ?_⟩
    exact h (call :: earlier) call' later (by rw [hsplit, List.cons_append])
  · rintro ⟨hfirst, hrest⟩ earlier call' later hsplit
    cases earlier with
    | nil =>
      obtain ⟨rfl, rfl⟩ := List.cons.inj hsplit
      exact hfirst
    | cons first earlier =>
      rw [List.cons_append, List.cons.injEq] at hsplit
      obtain ⟨rfl, hsplit⟩ := hsplit
      exact hrest earlier call' later hsplit

/-! ### Merged deliveries -/

/-- The state of a delivery that is merged is the later one. -/
theorem state_filedDelivery (record : Record String E2EDeliveryMetadata)
    (delivery : E2EDeliveryMetadata) : (filedDelivery record delivery).state = delivery.state := by
  rw [filedDelivery]
  cases record.get? (buildE2EDeliveryKey delivery) with
  | none => rfl
  | some previous => rfl

theorem mem_of_lastByKey (h : delivery ∈ lastByKey deliveries) : delivery ∈ deliveries := by
  induction deliveries with
  | nil => exact h
  | cons first rest ih =>
    rw [lastByKey] at h
    split at h
    · exact List.mem_cons_of_mem _ (ih h)
    · rcases List.mem_cons.mp h with rfl | h
      · exact List.mem_cons_self
      · exact List.mem_cons_of_mem _ (ih h)

/-- The deliveries that are last have keys of their own. -/
theorem lastByKey_unique {other : E2EDeliveryMetadata} (h : delivery ∈ lastByKey deliveries)
    (h' : other ∈ lastByKey deliveries)
    (hkey : buildE2EDeliveryKey delivery = buildE2EDeliveryKey other) : delivery = other := by
  induction deliveries with
  | nil => cases h
  | cons first rest ih =>
    rw [lastByKey] at h h'
    split at h
    · rename_i hlater
      rw [if_pos hlater] at h'
      exact ih h h'
    · rename_i hlast
      rw [if_neg hlast] at h'
      rcases List.mem_cons.mp h with hfirst | hrest
      · rcases List.mem_cons.mp h' with hfirst' | hrest'
        · exact hfirst.trans hfirst'.symm
        · exact absurd ⟨other, mem_of_lastByKey hrest', by rw [← hkey, hfirst]⟩ hlast
      · rcases List.mem_cons.mp h' with hfirst' | hrest'
        · exact absurd ⟨delivery, mem_of_lastByKey hrest, by rw [hkey, hfirst']⟩ hlast
        · exact ih hrest hrest'

/-- **Under a key is what was filed last**, or what was there. -/
theorem get?_fileDeliveries (record : Record String E2EDeliveryMetadata)
    (deliveries : List E2EDeliveryMetadata) (key : String) :
    (∃ delivery ∈ lastByKey deliveries, buildE2EDeliveryKey delivery = key ∧
      ∃ filed, (fileDeliveries record deliveries).get? key = some filed ∧
        filed.state = delivery.state) ∨
    (∀ delivery ∈ deliveries, buildE2EDeliveryKey delivery ≠ key) ∧
      (fileDeliveries record deliveries).get? key = record.get? key := by
  induction deliveries generalizing record with
  | nil => exact Or.inr ⟨nofun, rfl⟩
  | cons first rest ih =>
    rcases ih (record.set (buildE2EDeliveryKey first) (filedDelivery record first)) with
      ⟨delivery, hmem, hkey, hfiled⟩ | ⟨hnone, hget⟩
    · refine Or.inl ⟨delivery, ?_, hkey, hfiled⟩
      rw [lastByKey]
      split
      · exact hmem
      · exact List.mem_cons_of_mem _ hmem
    · by_cases hkey : buildE2EDeliveryKey first = key
      · refine Or.inl ⟨first, ?_, hkey, _, ?_, state_filedDelivery record first⟩
        · rw [lastByKey, if_neg]
          · exact List.mem_cons_self
          · rintro ⟨later, hlater, hsame⟩
            exact hnone later hlater (hsame.trans hkey)
        · show (fileDeliveries (record.set _ _) rest).get? key = _
          rw [hget, hkey, Record.get?_set_self]
      · refine Or.inr ⟨fun delivery hmem => ?_, ?_⟩
        · rcases List.mem_cons.mp hmem with rfl | hmem
          · exact hkey
          · exact hnone delivery hmem
        · show (fileDeliveries (record.set _ _) rest).get? key = _
          rw [hget, Record.get?_set_ne _ _ hkey]

/-- A list that is filed from nothing has no other deliveries. -/
theorem mem_of_foldl_set (existing : List E2EDeliveryMetadata)
    (h : (existing.foldl (fun record delivery => record.set (buildE2EDeliveryKey delivery) delivery)
      (Record.empty : Record String E2EDeliveryMetadata)).get? key = some delivery) :
    delivery ∈ existing := by
  induction existing using List.reverseRecOn with
  | nil =>
    rw [List.foldl_nil, Record.get?_empty] at h
    cases h
  | append_singleton rest last ih =>
    rw [List.foldl_append, List.foldl_cons, List.foldl_nil, Record.get?_set] at h
    split at h
    · rw [Option.some.inj h]
      exact List.mem_append_right _ (List.mem_singleton_self _)
    · exact List.mem_append_left _ (ih h)

/-- **A failed delivery that no later one replaces** is in the merge. -/
theorem hasFailed_of_lastByKey (h : HasFailed (lastByKey incoming)) :
    HasFailed (mergeE2EDeliveries collation existing incoming) := by
  obtain ⟨delivery, hmem, hfailed⟩ := h
  rcases get?_fileDeliveries
      (existing.foldl (fun record delivery => record.set (buildE2EDeliveryKey delivery) delivery)
        Record.empty) incoming (buildE2EDeliveryKey delivery) with
    ⟨delivery', hmem', hkey, filed, hget, hstate⟩ | ⟨hnone, _⟩
  · rw [lastByKey_unique hmem' hmem hkey] at hstate
    exact ⟨filed, mem_mergeE2EDeliveries.mpr ⟨_, hget⟩, hstate.trans hfailed⟩
  · exact absurd rfl (hnone delivery (mem_of_lastByKey hmem))

/-- **A merge with a failed delivery** has it of one of the lists. -/
theorem hasFailed_of_merge (h : HasFailed (mergeE2EDeliveries collation existing incoming)) :
    HasFailed existing ∨ HasFailed (lastByKey incoming) := by
  obtain ⟨delivery, hmem, hfailed⟩ := h
  obtain ⟨key, hget⟩ := mem_mergeE2EDeliveries.mp hmem
  rcases get?_fileDeliveries
      (existing.foldl (fun record delivery => record.set (buildE2EDeliveryKey delivery) delivery)
        Record.empty) incoming key with
    ⟨delivery', hmem', _, filed, hget', hstate⟩ | ⟨_, hget'⟩
  · obtain rfl := Option.some.inj (hget.symm.trans hget')
    exact Or.inr ⟨delivery', hmem', hstate.symm.trans hfailed⟩
  · exact Or.inl ⟨delivery, mem_of_foldl_set existing (hget'.symm.trans hget), hfailed⟩

/-! ### The status that is read -/

/-- The message as it is read after it was written. -/
def readAgain (raw : NormalizedMessage) : NormalizedMessage :=
  { raw with status := storedMessageStatus raw }

/-- What a call writes for the message that it reads. -/
def OutboundCall.next (collation : Collation) (message : NormalizedMessage) :
    OutboundCall → NormalizedMessage
  | enqueueOutbound envelope sentAt e2eDeliveries =>
      if envelope.isValid then
        mergeStoredMessages collation message
          (readAgain (outboundMessage envelope sentAt e2eDeliveries))
      else message
  | appendE2EDelivery delivery =>
      mergeStoredMessageE2EDeliveries collation message [delivery]
  | markOutboundDelivered => { message with status := .delivered }
  | markOutboundFailed error => { message with status := .failed, error := some error }
  | retryMessage => { message with status := .pending, error := none }

/-- A message that is written under its key is read there. -/
theorem getMessage_overwrite (h : Keyed db.messages)
    (hfind : db.findStoredMessageRecord id = some (key, message))
    (hvalid : raw.envelope.isValid = true) (hid : raw.envelope.id = id) :
    Keyed (db.messages.set key raw.toStored) ∧
      MessageDb.getMessage { db with messages := db.messages.set key raw.toStored } id
        = some (readAgain raw) := by
  obtain ⟨value, hget, hvalue, _⟩ := of_find hfind
  have hkeyed : Keyed (db.messages.set key raw.toStored) :=
    h.overwrite hget (by rw [envelopeId_toStored, hid, hvalue]) (readable_toStored hvalid)
  have hfound := @Keyed.find { db with messages := db.messages.set key raw.toStored } key
    raw.toStored (readAgain raw) hkeyed (Record.get?_set_self ..)
    (normalizeStoredMessage_toStored hvalid)
  have hown : (readAgain raw).envelope.id = id := hid
  rw [hown] at hfound
  refine ⟨hkeyed, ?_⟩
  rw [MessageDb.getMessage, hfound]
  rfl

/-- **Reading twice is reading once.** -/
theorem readAgain_readAgain (raw : NormalizedMessage) :
    readAgain (readAgain raw) = readAgain raw := by
  have hstatus : storedMessageStatus (readAgain raw) = storedMessageStatus raw := by
    have hdeliveries : (readAgain raw).deliveries = raw.deliveries := rfl
    have hdirection : (readAgain raw).direction = raw.direction := rfl
    have hreadAt : (readAgain raw).readAt = raw.readAt := rfl
    have hread : (readAgain raw).status = storedMessageStatus raw := rfl
    rw [storedMessageStatus, hdeliveries, hdirection, hreadAt, hread, storedMessageStatus]
    generalize (raw.deliveries.any fun delivery => delivery.state = .failed) = failed
    generalize (raw.deliveries.any fun delivery =>
      delivery.state = .sent || delivery.state = .received) = sent
    cases raw.status <;> cases raw.direction <;> cases raw.readAt <;> cases failed <;>
      cases sent <;> rfl
  show { raw with status := storedMessageStatus (readAgain raw) } = readAgain raw
  rw [hstatus]
  rfl

theorem readAgain_of_normalize {value : StoredMessage JsonValue}
    (h : normalizeStoredMessage value = some message) : readAgain message = message := by
  rw [normalizeStoredMessage, Option.map_eq_some_iff] at h
  obtain ⟨envelope, _, rfl⟩ := h
  exact readAgain_readAgain (value.withEnvelope envelope)

/-- What is read by its id, with the record of it. -/
theorem of_getMessage (h : db.getMessage id = some message) :
    ∃ key, db.findStoredMessageRecord id = some (key, message) ∧
      message.envelope.isValid = true ∧ message.envelope.id = id ∧ readAgain message = message := by
  rw [MessageDb.getMessage, Option.map_eq_some_iff] at h
  obtain ⟨⟨key, found⟩, hfind, hmessage⟩ := h
  obtain rfl : found = message := hmessage
  obtain ⟨value, _, hid, hread⟩ := of_find hfind
  have hown := envelopeId_of_normalize hread
  rw [hid] at hown
  exact ⟨key, hfind, isValid_of_normalize hread, (Option.some.inj hown).symm,
    readAgain_of_normalize hread⟩

variable {envelope : MessageEnvelope} {sentAt : ℤ} {attempts : Attempts}

theorem isValid_normalized (hvalid : envelope.isValid = true) :
    normalizeStoredMessage (outboundMessage envelope sentAt deliveries).toStored
      = some (readAgain (outboundMessage envelope sentAt deliveries)) :=
  normalizeStoredMessage_toStored hvalid

/-- An envelope that is not valid throws. -/
theorem not_normalized (hvalid : envelope.isValid ≠ true) :
    normalizeStoredMessage (outboundMessage envelope sentAt deliveries).toStored = none := by
  rw [normalizeStoredMessage]
  show Option.map _ (normalizeEnvelope envelope.toJson) = none
  rw [normalizeEnvelope_toJson_eq, if_neg hvalid]
  rfl

/-- **A call on a message that is stored** writes the next message. -/
theorem getMessage_apply (h : Keyed db.messages) (hmessage : db.getMessage id = some message)
    (habout : call.IsAbout id) (collation : Collation) :
    Keyed (call.apply collation id db).messages ∧
      (call.apply collation id db).getMessage id
        = some (readAgain (call.next collation message)) := by
  obtain ⟨key, hfind, hvalid, hid, hread⟩ := of_getMessage hmessage
  have hupdate {raw : NormalizedMessage} (updates : MessageUpdates)
      (hraw : updates.apply message.toStored = raw.toStored)
      (henvelope : raw.envelope = message.envelope) :
      Keyed (db.updateMessage id updates).messages ∧
        (db.updateMessage id updates).getMessage id = some (readAgain raw) := by
    rw [MessageDb.updateMessage, hfind]
    dsimp only
    rw [hraw]
    exact getMessage_overwrite h hfind (by rw [henvelope, hvalid]) (by rw [henvelope, hid])
  cases call with
  | enqueueOutbound envelope sentAt e2eDeliveries =>
    have hown : envelope.id = id := habout
    rw [OutboundCall.apply, OutboundCall.next, MessageDb.store, MessageDb.putMessage]
    split_ifs with henvelope
    · rw [isValid_normalized henvelope]
      dsimp only
      have hfound : db.findStoredMessageRecord
          (readAgain (outboundMessage envelope sentAt e2eDeliveries)).envelope.id
          = some (key, message) := by
        rw [← hfind, ← hown]
        rfl
      rw [hfound]
      have hmerged := (envelope_mergeStoredMessages collation message
        (readAgain (outboundMessage envelope sentAt e2eDeliveries))).1
      exact getMessage_overwrite h hfind (by rw [hmerged]; exact henvelope)
        (by rw [hmerged]; exact hown)
    · rw [not_normalized henvelope, hread]
      exact ⟨h, hmessage⟩
  | appendE2EDelivery delivery =>
    rw [OutboundCall.apply, MessageDb.upsertE2EDeliveries, if_neg (by simp), hfind]
    exact getMessage_overwrite h hfind hvalid hid
  | markOutboundDelivered => exact hupdate Messaging.markOutboundDelivered rfl rfl
  | markOutboundFailed error => exact hupdate (Messaging.markOutboundFailed error) rfl rfl
  | retryMessage => exact hupdate Messaging.retryMessage rfl rfl

/-- **The first call** stores the message, if it is enqueued with a valid envelope. -/
theorem getMessage_first (h : Keyed db.messages) (hmessage : db.getMessage id = none)
    (habout : call.IsAbout id) (collation : Collation) :
    Keyed (call.apply collation id db).messages ∧
      ((∃ envelope sentAt e2eDeliveries, call = .enqueueOutbound envelope sentAt e2eDeliveries ∧
          envelope.isValid = true ∧ (call.apply collation id db).getMessage id
            = some (readAgain (outboundMessage envelope sentAt e2eDeliveries))) ∨
        (∀ envelope sentAt e2eDeliveries, call = .enqueueOutbound envelope sentAt e2eDeliveries →
          envelope.isValid ≠ true) ∧ (call.apply collation id db).getMessage id = none) := by
  have hfind : db.findStoredMessageRecord id = none := Option.map_eq_none_iff.mp hmessage
  have hupdate (updates : MessageUpdates) : db.updateMessage id updates = db := by
    rw [MessageDb.updateMessage, hfind]
  cases call with
  | enqueueOutbound envelope sentAt e2eDeliveries =>
    have hown : envelope.id = id := habout
    by_cases hvalid : envelope.isValid = true
    · have hstored : OutboundCall.apply collation id db
          (.enqueueOutbound envelope sentAt e2eDeliveries)
          = db.insertMessage (readAgain (outboundMessage envelope sentAt e2eDeliveries)) := by
        rw [OutboundCall.apply, MessageDb.store, MessageDb.putMessage, isValid_normalized hvalid]
        dsimp only
        rw [show (readAgain (outboundMessage envelope sentAt e2eDeliveries)).envelope.id = id from
          hown, hfind]
      generalize hnew : readAgain (outboundMessage envelope sentAt e2eDeliveries) = new at hstored
      have hvalid' : new.envelope.isValid = true := by rw [← hnew]; exact hvalid
      have hid : new.envelope.id = id := by rw [← hnew]; exact hown
      have hkeyed := keyed_insertMessage h hvalid' (by rw [hid]; exact hfind)
      rw [← hstored] at hkeyed
      refine ⟨hkeyed, Or.inl ⟨_, _, _, rfl, hvalid, ?_⟩⟩
      have hagain : readAgain new = new := by rw [← hnew, readAgain_readAgain]
      have hfound := hkeyed.find
        (by rw [hstored, messages_insertMessage]; exact Record.get?_set_self ..)
        (normalizeStoredMessage_toStored hvalid')
      rw [MessageDb.getMessage, ← hid, hnew]
      exact (congrArg (Option.map Prod.snd) hfound).trans (congrArg some hagain)
    · have hstored : OutboundCall.apply collation id db
          (.enqueueOutbound envelope sentAt e2eDeliveries) = db := by
        rw [OutboundCall.apply, MessageDb.store, MessageDb.putMessage, not_normalized hvalid]
      rw [hstored]
      refine ⟨h, Or.inr ⟨fun envelope' _ _ heq => ?_, hmessage⟩⟩
      cases heq
      exact hvalid
  | appendE2EDelivery delivery =>
    rw [OutboundCall.apply, MessageDb.upsertE2EDeliveries, if_neg (by simp), hfind]
    exact ⟨h, Or.inr ⟨by rintro _ _ _ ⟨⟩, hmessage⟩⟩
  | markOutboundDelivered =>
    rw [OutboundCall.apply, hupdate]
    exact ⟨h, Or.inr ⟨by rintro _ _ _ ⟨⟩, hmessage⟩⟩
  | markOutboundFailed error =>
    rw [OutboundCall.apply, hupdate]
    exact ⟨h, Or.inr ⟨by rintro _ _ _ ⟨⟩, hmessage⟩⟩
  | retryMessage =>
    rw [OutboundCall.apply, hupdate]
    exact ⟨h, Or.inr ⟨by rintro _ _ _ ⟨⟩, hmessage⟩⟩

/-! ### One call -/

/-- **The status of a message goes with its attempts.** -/
structure Faithful (attempts : Attempts) (message : NormalizedMessage) : Prop where
  outbound : message.direction = .outbound
  unarchived : message.status ≠ .archived
  marked : attempts.mark = some .delivered → message.status = .delivered ∨ message.status = .failed
  failed : message.status = .failed → attempts.SomeFailed

theorem Faithful.delivered (h : Faithful attempts message) (hall : attempts.AllDelivered) :
    message.status = .delivered := by
  rcases h.marked hall.1 with hdelivered | hfailed
  · exact hdelivered
  · exact absurd (h.failed hfailed) hall.not_failed

theorem hasFailed_iff : (deliveries.any fun delivery => delivery.state = .failed) = true ↔
    HasFailed deliveries := by
  simp [HasFailed]

theorem status_failed_iff (hstatus : raw.status ≠ .archived) :
    (readAgain raw).status = .failed ↔ raw.status = .failed ∨ HasFailed raw.deliveries := by
  show storedMessageStatus raw = .failed ↔ _
  rw [storedMessageStatus, if_neg hstatus, ← hasFailed_iff]
  constructor
  · intro h
    split_ifs at h with hfailed
    exact hfailed
  · intro h
    rw [if_pos h]

/-- A message that reads as failed is not made so again. -/
theorem failed_of_hasFailed (hagain : readAgain message = message)
    (hstatus : message.status ≠ .archived) (h : HasFailed message.deliveries) :
    message.status = .failed := by
  rw [← hagain, status_failed_iff hstatus]
  exact Or.inr h

theorem status_unarchived (hstatus : raw.status ≠ .archived) :
    (readAgain raw).status ≠ .archived := by
  show storedMessageStatus raw ≠ .archived
  rw [storedMessageStatus, if_neg hstatus]
  split_ifs <;> exact nofun

theorem status_delivered (hstatus : raw.status = .delivered ∨ raw.status = .failed)
    (houtbound : raw.direction = .outbound) :
    (readAgain raw).status = .delivered ∨ (readAgain raw).status = .failed := by
  show storedMessageStatus raw = .delivered ∨ storedMessageStatus raw = .failed
  rw [storedMessageStatus]
  rcases hstatus with hstatus | hstatus
  · rw [if_neg (by rw [hstatus]; exact nofun)]
    split_ifs with hfailed hinbound hread hdelivered
    · exact Or.inr rfl
    · exact Or.inl rfl
    · rw [houtbound] at hinbound
      cases hinbound
    · exact Or.inl rfl
    · exact absurd (Or.inl hstatus) hdelivered
  · rw [if_neg (by rw [hstatus]; exact nofun), if_pos (Or.inl hstatus)]
    exact Or.inr rfl

/-- What is written of deliveries that are recorded. -/
structure Recorded (message : NormalizedMessage) (deliveries : List E2EDeliveryMetadata)
    (raw : NormalizedMessage) : Prop where
  direction : raw.direction = .outbound
  status : raw.status = message.status
  failed : HasFailed raw.deliveries →
    HasFailed message.deliveries ∨ HasFailed (lastByKey deliveries)
  kept : HasFailed (lastByKey deliveries) → HasFailed raw.deliveries

theorem Recorded.faithful_iff (h : Recorded message deliveries raw)
    (hfaithful : Faithful attempts message) (hagain : readAgain message = message) :
    ((readAgain raw).status = .failed → (attempts.deliver deliveries).SomeFailed) ↔
      CleanDeliveries attempts message deliveries := by
  have hstatus : raw.status ≠ .archived := by
    rw [h.status]
    exact hfaithful.unarchived
  rw [status_failed_iff hstatus, h.status, CleanDeliveries]
  constructor
  · rintro hfollows (hfailed | hfailed)
    · exact hfollows (Or.inl hfailed)
    · exact hfollows (Or.inr (h.kept hfailed))
  · rintro hclean (hfailed | hfailed)
    · exact hclean (Or.inl hfailed)
    · rcases h.failed hfailed with hbefore | hnew
      · exact hclean (Or.inl (failed_of_hasFailed hagain hfaithful.unarchived hbefore))
      · exact hclean (Or.inr hnew)

theorem Recorded.faithful (h : Recorded message deliveries raw)
    (hfaithful : Faithful attempts message) (hagain : readAgain message = message)
    (hclean : CleanDeliveries attempts message deliveries) :
    Faithful (attempts.deliver deliveries) (readAgain raw) := by
  refine ⟨h.direction, status_unarchived ?_, fun hmark => ?_,
    (h.faithful_iff hfaithful hagain).mpr hclean⟩
  · rw [h.status]
    exact hfaithful.unarchived
  · refine status_delivered ?_ h.direction
    rw [h.status]
    exact hfaithful.marked hmark

theorem recorded_append (houtbound : message.direction = .outbound) :
    Recorded message [delivery] (mergeStoredMessageE2EDeliveries collation message [delivery]) := by
  rw [mergeStoredMessageE2EDeliveries, if_neg (by simp)]
  exact ⟨houtbound, rfl, hasFailed_of_merge, hasFailed_of_lastByKey⟩

theorem deliveries_outboundMessage (envelope : MessageEnvelope) (sentAt : ℤ)
    (deliveries : List E2EDeliveryMetadata) :
    (outboundMessage envelope sentAt deliveries).deliveries = deliveries := by
  show (Option.map _ (if deliveries = [] then _ else _)).getD [] = _
  split_ifs with hempty
  · exact hempty.symm
  · rfl

/-- What a merge makes of the deliveries and the status. -/
theorem status_mergeStoredMessages (collation : Collation) (existing incoming : NormalizedMessage) :
    (mergeStoredMessages collation existing incoming).status = existing.status ∧
      (mergeStoredMessages collation existing incoming).deliveries
        = if incoming.deliveries = [] then existing.deliveries
          else mergeE2EDeliveries collation existing.deliveries incoming.deliveries := by
  rw [mergeStoredMessages, mergeStoredMessageE2EDeliveries]
  dsimp only
  split <;> split <;> exact ⟨rfl, rfl⟩

theorem recorded_enqueue :
    Recorded message deliveries (mergeStoredMessages collation message
      (readAgain (outboundMessage envelope sentAt deliveries))) := by
  obtain ⟨hstatus, hdeliveries⟩ := status_mergeStoredMessages collation message
    (readAgain (outboundMessage envelope sentAt deliveries))
  rw [show (readAgain (outboundMessage envelope sentAt deliveries)).deliveries = deliveries from
    deliveries_outboundMessage envelope sentAt deliveries] at hdeliveries
  refine ⟨(envelope_mergeStoredMessages collation message _).2, hstatus, ?_, ?_⟩
  all_goals
    rw [hdeliveries]
    split_ifs with hempty
  · exact Or.inl
  · exact hasFailed_of_merge
  · rintro ⟨delivery, hmem, _⟩
    rw [hempty] at hmem
    cases hmem
  · exact hasFailed_of_lastByKey

/-- **A message that is written as pending** is read so when all of its deliveries are. -/
theorem status_pending_iff (hstatus : raw.status = .pending)
    (houtbound : raw.direction = .outbound) :
    (readAgain raw).status = .pending ↔
      ∀ delivery ∈ raw.deliveries, delivery.state = .pending := by
  show storedMessageStatus raw = .pending ↔ _
  rw [storedMessageStatus, if_neg (by rw [hstatus]; exact nofun)]
  have hfailed : ¬(raw.status = .failed) := by
    rw [hstatus]
    exact nofun
  have hdelivered : ¬(raw.status = .delivered) := by
    rw [hstatus]
    exact nofun
  have hinbound : ¬(raw.direction = .inbound) := by
    rw [houtbound]
    exact nofun
  simp only [hfailed, hdelivered, hinbound, false_or, if_false]
  constructor
  · intro h delivery hmem
    split_ifs at h with hany hsent
    cases hstate : delivery.state with
    | pending => rfl
    | failed => exact absurd (hasFailed_iff.mpr ⟨delivery, hmem, hstate⟩) hany
    | sent => exact absurd (List.any_eq_true.mpr ⟨delivery, hmem, by rw [hstate]; rfl⟩) hsent
    | received => exact absurd (List.any_eq_true.mpr ⟨delivery, hmem, by rw [hstate]; rfl⟩) hsent
  · intro h
    rw [if_neg, if_neg]
    all_goals
      rw [List.any_eq_true]
      rintro ⟨delivery, hmem, hstate⟩
      rw [h delivery hmem] at hstate
      exact absurd hstate (by decide)

/-- **A clean call keeps the status with the attempts**, and what is retried is pending. -/
theorem Faithful.next (h : Faithful attempts message) (hagain : readAgain message = message)
    (hclean : call.IsClean attempts (some message)) (collation : Collation) :
    Faithful (attempts.record call) (readAgain (call.next collation message)) ∧
      (call = .retryMessage → (readAgain (call.next collation message)).status = .pending) := by
  cases call with
  | enqueueOutbound envelope sentAt e2eDeliveries =>
    refine ⟨?_, nofun⟩
    rw [OutboundCall.next, Attempts.record]
    split_ifs with hvalid
    · exact recorded_enqueue.faithful h hagain (hclean hvalid)
    · rw [hagain]
      exact h
  | appendE2EDelivery delivery =>
    exact ⟨(recorded_append h.outbound).faithful h hagain hclean, nofun⟩
  | markOutboundDelivered =>
    refine ⟨⟨h.outbound, status_unarchived nofun, fun _ => ?_, fun hfailed => ?_⟩, nofun⟩
    · exact status_delivered (Or.inl rfl) h.outbound
    · rcases (@status_failed_iff (OutboundCall.markOutboundDelivered.next collation message)
        nofun).mp hfailed with hstatus | hfailed
      · cases hstatus
      · exact Or.inr (hclean hfailed)
  | markOutboundFailed error =>
    refine ⟨⟨h.outbound, status_unarchived nofun, fun hmark => ?_, fun _ => Or.inl rfl⟩, nofun⟩
    cases hmark
  | retryMessage =>
    have hpending : (readAgain (OutboundCall.retryMessage.next collation message)).status
        = .pending :=
      (@status_pending_iff (OutboundCall.retryMessage.next collation message) rfl h.outbound).mpr
        hclean
    refine ⟨⟨h.outbound, status_unarchived nofun, fun hmark => ?_, fun hfailed => ?_⟩,
      fun _ => hpending⟩
    · cases hmark
    · exact absurd (hpending.symm.trans hfailed) nofun

/-- **A call that is not clean** is seen in the status. -/
theorem Faithful.clean (h : Faithful attempts message) (hagain : readAgain message = message)
    (collation : Collation)
    (hretried : call = .retryMessage → (readAgain (call.next collation message)).status = .pending)
    (hfailed : (readAgain (call.next collation message)).status = .failed →
      (attempts.record call).SomeFailed) : call.IsClean attempts (some message) := by
  cases call with
  | enqueueOutbound envelope sentAt e2eDeliveries =>
    intro hvalid
    rw [OutboundCall.next, Attempts.record, if_pos hvalid, if_pos hvalid] at hfailed
    exact (recorded_enqueue.faithful_iff h hagain).mp hfailed
  | appendE2EDelivery delivery =>
    exact ((recorded_append h.outbound).faithful_iff h hagain).mp hfailed
  | markOutboundDelivered =>
    intro hhas
    rcases hfailed ((@status_failed_iff (OutboundCall.markOutboundDelivered.next collation message)
      nofun).mpr (Or.inr hhas)) with hmark | hdevice
    · cases hmark
    · exact hdevice
  | markOutboundFailed error => trivial
  | retryMessage =>
    exact (@status_pending_iff (OutboundCall.retryMessage.next collation message) rfl h.outbound).mp
      (hretried rfl)

/-! ### Sequences of calls -/

/-- **What holds between the calls**: the message that is stored goes with its attempts. -/
structure Tracked (id : String) (s : OutboundState) : Prop where
  keyed : Keyed s.db.messages
  absent : s.db.getMessage id = none → s.attempts.mark = none
  faithful : ∀ message, s.db.getMessage id = some message → Faithful s.attempts message

/-- **The first message** goes with the deliveries it was enqueued with. -/
theorem faithful_first_iff (envelope : MessageEnvelope) (sentAt : ℤ)
    (hmark : attempts.mark = none) :
    Faithful (attempts.deliver deliveries)
        (readAgain (outboundMessage envelope sentAt deliveries)) ↔
      (HasFailed deliveries → (attempts.deliver deliveries).SomeFailed) := by
  have hstatus := @status_failed_iff (outboundMessage envelope sentAt deliveries) nofun
  rw [deliveries_outboundMessage] at hstatus
  constructor
  · intro h hfailed
    exact h.failed (hstatus.mpr (Or.inr hfailed))
  · intro h
    refine ⟨rfl, status_unarchived nofun, fun hmark' => ?_, fun hfailed => ?_⟩
    · rw [Attempts.deliver, hmark] at hmark'
      cases hmark'
    · rcases hstatus.mp hfailed with hpending | hfailed
      · cases hpending
      · exact h hfailed

/-- A call on a message that is stored, as an attempt. -/
theorem Tracked.step_present (h : Tracked id s) (hmessage : s.db.getMessage id = some message)
    (habout : call.IsAbout id) (collation : Collation) :
    Keyed (s.step collation id call).db.messages ∧
      (s.step collation id call).db.getMessage id
        = some (readAgain (call.next collation message)) ∧
      (s.step collation id call).attempts = s.attempts.record call := by
  obtain ⟨hkeyed, hnext⟩ := getMessage_apply h.keyed hmessage habout collation
  refine ⟨hkeyed, hnext, ?_⟩
  rw [OutboundState.step, hnext]
  rfl

/-- **Clean calls keep the message with its attempts.** -/
theorem Tracked.step (h : Tracked id s) (habout : call.IsAbout id)
    (hclean : call.IsClean s.attempts (s.db.getMessage id)) (collation : Collation) :
    Tracked id (s.step collation id call) ∧
      FollowsAttempts id (s.step collation id call) (some call) := by
  -- what is said of the message that is read is said of every one
  have hsome {attempts : Attempts} {db : MessageDb} {next : NormalizedMessage}
      (hkeyed : Keyed db.messages) (hnext : db.getMessage id = some next)
      (hfaithful : Faithful attempts next)
      (hretried : call = .retryMessage → next.status = .pending) :
      Tracked id ⟨db, attempts⟩ ∧ FollowsAttempts id ⟨db, attempts⟩ (some call) := by
    have heq : ∀ message, db.getMessage id = some message → message = next := fun message hget =>
      Option.some.inj (hget.symm.trans hnext)
    refine ⟨⟨hkeyed, fun hnone => ?_, fun message hget => ?_⟩, fun message hget hlast => ?_,
      fun message hget hall => ?_, fun message hget hfailed => ?_⟩
    · rw [hnext] at hnone
      cases hnone
    · rw [heq message hget]
      exact hfaithful
    · rw [heq message hget]
      exact hretried (Option.some.inj hlast)
    · rw [heq message hget]
      exact hfaithful.delivered hall
    · rw [heq message hget] at hfailed
      exact hfaithful.failed hfailed
  cases hmessage : s.db.getMessage id with
  | some message =>
    obtain ⟨_, _, _, _, hagain⟩ := of_getMessage hmessage
    obtain ⟨hkeyed, hnext, hattempts⟩ := h.step_present hmessage habout collation
    rw [hmessage] at hclean
    obtain ⟨hfaithful, hretried⟩ :=
      (h.faithful message hmessage).next hagain hclean collation
    rw [← hattempts] at hfaithful
    exact hsome hkeyed hnext hfaithful hretried
  | none =>
    obtain ⟨hkeyed, hfirst⟩ := getMessage_first h.keyed hmessage habout collation
    rcases hfirst with ⟨envelope, sentAt, e2eDeliveries, rfl, hvalid, hnext⟩ | ⟨_, hnext⟩
    · rw [hmessage] at hclean
      have hattempts : (s.step collation id
          (.enqueueOutbound envelope sentAt e2eDeliveries)).attempts
          = s.attempts.deliver e2eDeliveries := by
        rw [OutboundState.step, hnext]
        exact if_pos hvalid
      have hfaithful := (faithful_first_iff envelope sentAt (h.absent hmessage)).mpr
        (hclean hvalid)
      rw [← hattempts] at hfaithful
      exact hsome hkeyed hnext hfaithful nofun
    · have hattempts : (s.step collation id call).attempts = s.attempts := by
        rw [OutboundState.step, hnext]
        rfl
      have hstored : (s.step collation id call).db.getMessage id = none := hnext
      refine ⟨⟨hkeyed, fun _ => ?_, fun message hget => ?_⟩, fun message hget => ?_,
        fun message hget => ?_, fun message hget => ?_⟩
      · rw [hattempts]
        exact h.absent hmessage
      all_goals
        rw [hstored] at hget
        cases hget

theorem Tracked.clean (h : Tracked id s) (habout : call.IsAbout id)
    (hfollows : FollowsAttempts id (s.step collation id call) (some call)) :
    call.IsClean s.attempts (s.db.getMessage id) := by
  cases hmessage : s.db.getMessage id with
  | some message =>
    obtain ⟨_, _, _, _, hagain⟩ := of_getMessage hmessage
    obtain ⟨_, hnext, hattempts⟩ := h.step_present hmessage habout collation
    refine (h.faithful message hmessage).clean hagain collation
      (fun hlast => hfollows.retried _ hnext (congrArg some hlast)) fun hfailed => ?_
    rw [← hattempts]
    exact hfollows.failed _ hnext hfailed
  | none =>
    cases call with
    | enqueueOutbound envelope sentAt e2eDeliveries =>
      intro hvalid hfailed
      obtain ⟨_, hfirst⟩ := getMessage_first h.keyed hmessage habout collation
      rcases hfirst with ⟨_, _, _, heq, _, hnext⟩ | ⟨hinvalid, _⟩
      · cases heq
        have hread := hfollows.failed _ hnext <|
          (@status_failed_iff (outboundMessage envelope sentAt e2eDeliveries) nofun).mpr
            (Or.inr (by rw [deliveries_outboundMessage]; exact hfailed))
        rw [OutboundState.step, hnext] at hread
        have hrecord : s.attempts.record (.enqueueOutbound envelope sentAt e2eDeliveries)
            = s.attempts.deliver e2eDeliveries := if_pos hvalid
        rw [← hrecord]
        exact hread
      · exact absurd hvalid (hinvalid _ _ _ rfl)
    | _ => trivial

theorem Tracked.follows_iff (h : Tracked id s) (habout : ∀ call ∈ calls, call.IsAbout id) :
    StatusFollows collation id s calls ↔ CleanCalls collation id s calls := by
  induction calls generalizing s with
  | nil =>
    constructor <;> exact fun _ earlier call later hsplit => absurd hsplit (by simp)
  | cons call calls ih =>
    have hfirst := habout call List.mem_cons_self
    have hrest : ∀ call ∈ calls, call.IsAbout id := fun call hmem =>
      habout call (List.mem_cons_of_mem _ hmem)
    rw [StatusFollows, CleanCalls, throughout_cons, throughout_cons]
    constructor
    · rintro ⟨hfollows, hlater⟩
      have hclean := h.clean hfirst hfollows
      exact ⟨hclean, (ih (h.step hfirst hclean collation).1 hrest).mp hlater⟩
    · rintro ⟨hclean, hlater⟩
      obtain ⟨htracked, hfollows⟩ := h.step hfirst hclean collation
      exact ⟨hfollows, (ih htracked hrest).mpr hlater⟩

theorem tracked_starting (hdb : Keyed db.messages) (habsent : db.getMessage id = none) :
    Tracked id ⟨db, .none⟩ := by
  refine ⟨hdb, fun _ => rfl, fun message hget => ?_⟩
  rw [habsent] at hget
  cases hget

/-- **The status follows the attempts exactly when the calls are clean**, after every call of a
sequence on a message that was not there before. -/
theorem status_follows_iff (collation : Collation) (hdb : Keyed db.messages)
    (habsent : db.getMessage id = none) (habout : ∀ call ∈ calls, call.IsAbout id) :
    StatusFollows collation id ⟨db, .none⟩ calls ↔ CleanCalls collation id ⟨db, .none⟩ calls := by
  exact (tracked_starting hdb habsent).follows_iff habout

/-! ### A replay in a new session -/

def sampleDelivery (sessionId : String) (state : E2EDeliveryState) : E2EDeliveryMetadata where
  transport := "session"
  transportMessageId := none
  senderDeviceId := "device-a"
  receiverDeviceId := "device-b"
  sessionId := sessionId
  state := state
  recordedAt := 1000
  usedSkippedMessageKey := none
  error := none

def bobMessage : NormalizedMessage :=
  readAgain (outboundMessage (sampleEnvelope "m1" "did:agent:zAlice") 1000 [])

def bobDelivered (delivery : E2EDeliveryMetadata) : NormalizedMessage :=
  readAgain ((OutboundCall.appendE2EDelivery delivery).next codePointOrder bobMessage)

def enqueueBob : OutboundCall :=
  .enqueueOutbound (sampleEnvelope "m1" "did:agent:zAlice") 1000 []

/-- The store after the message was enqueued, and after a delivery was recorded. -/
theorem bob_stored :
    let db := enqueueBob.apply codePointOrder "m1" .empty
    Keyed db.messages ∧ db.getMessage "m1" = some bobMessage ∧
      ∀ delivery, Keyed ((OutboundCall.appendE2EDelivery delivery).apply codePointOrder "m1"
          db).messages ∧
        ((OutboundCall.appendE2EDelivery delivery).apply codePointOrder "m1" db).getMessage "m1"
          = some (bobDelivered delivery) := by
  have habsent : MessageDb.empty.getMessage "m1" = none := by
    rw [MessageDb.getMessage, find_empty]
    rfl
  obtain ⟨hkeyed, hfirst⟩ :=
    @getMessage_first "m1" _ enqueueBob Keyed.empty habsent rfl codePointOrder
  rcases hfirst with ⟨_, _, _, heq, _, hget⟩ | ⟨hinvalid, _⟩
  · cases heq
    exact ⟨hkeyed, hget, fun delivery =>
      @getMessage_apply "m1" _ (.appendE2EDelivery delivery) _ hkeyed hget trivial codePointOrder⟩
  · exact absurd rfl (hinvalid _ _ _ rfl)

theorem deliveries_bobDelivered (delivery : E2EDeliveryMetadata) :
    (bobDelivered delivery).deliveries = [delivery] := by
  show mergeE2EDeliveries codePointOrder [] [delivery] = [delivery]
  exact List.mergeSort_singleton _

/-- A message that is delivered at once. -/
theorem status_follows_sample :
    StatusFollows codePointOrder "m1" ⟨.empty, .none⟩
      [enqueueBob, .appendE2EDelivery (sampleDelivery "session-1" .sent),
        .markOutboundDelivered] := by
  have habsent : MessageDb.empty.getMessage "m1" = none := by
    rw [MessageDb.getMessage, find_empty]
    rfl
  obtain ⟨_, hget, hdelivered⟩ := bob_stored
  refine (status_follows_iff codePointOrder Keyed.empty habsent fun call hmem => ?_).mpr ?_
  · rcases List.mem_cons.mp hmem with rfl | hmem
    · rfl
    · rcases List.mem_cons.mp hmem with rfl | hmem
      · trivial
      · rw [List.mem_singleton.mp hmem]
        trivial
  · rw [CleanCalls, throughout_cons, throughout_cons, throughout_cons]
    refine ⟨?_, ?_, ?_, fun earlier call later hsplit => absurd hsplit (by simp)⟩
    · show enqueueBob.IsClean _ (MessageDb.empty.getMessage "m1")
      rw [habsent]
      rintro _ ⟨delivery, hmem, _⟩
      cases hmem
    · show OutboundCall.IsClean _
        ((enqueueBob.apply codePointOrder "m1" .empty).getMessage "m1") _
      rw [hget]
      rintro (hfailed | ⟨delivery, hmem, hfailed⟩)
      · exact absurd hfailed (by decide)
      · rw [List.mem_singleton.mp (mem_of_lastByKey hmem)] at hfailed
        cases hfailed
    · show OutboundCall.IsClean _ (((OutboundCall.appendE2EDelivery _).apply codePointOrder "m1"
        (enqueueBob.apply codePointOrder "m1" .empty)).getMessage "m1") _
      rw [(hdelivered _).2]
      rintro ⟨delivery, hmem, hfailed⟩
      rw [deliveries_bobDelivered, List.mem_singleton] at hmem
      rw [hmem] at hfailed
      cases hfailed

/-- **A message that is retried after a failed delivery reads as failed**, and so does one that is
sent again in a new session and marked as delivered. -/
theorem retried_reads_failed :
    (∃ message, (OutboundState.run codePointOrder "m1" ⟨.empty, .none⟩
        [enqueueBob, .appendE2EDelivery (sampleDelivery "session-1" .failed),
          .retryMessage]).db.getMessage "m1" = some message ∧ message.status = .failed) ∧
    (∃ message, (OutboundState.run codePointOrder "m1" ⟨.empty, .none⟩
        [enqueueBob, .appendE2EDelivery (sampleDelivery "session-1" .failed),
          .appendE2EDelivery (sampleDelivery "session-2" .sent),
          .markOutboundDelivered]).db.getMessage "m1" = some message ∧ message.status = .failed) ∧
    ¬StatusFollows codePointOrder "m1" ⟨.empty, .none⟩
      [enqueueBob, .appendE2EDelivery (sampleDelivery "session-1" .failed), .retryMessage] := by
  obtain ⟨_, _, hdelivered⟩ := bob_stored
  obtain ⟨hkeyed, hget⟩ := hdelivered (sampleDelivery "session-1" .failed)
  have hfailed : HasFailed (bobDelivered (sampleDelivery "session-1" .failed)).deliveries := by
    rw [deliveries_bobDelivered]
    exact ⟨_, List.mem_singleton_self _, rfl⟩
  obtain ⟨_, hretried⟩ :=
    @getMessage_apply "m1" _ .retryMessage _ hkeyed hget trivial codePointOrder
  have hstatus := (@status_failed_iff (OutboundCall.retryMessage.next codePointOrder
    (bobDelivered (sampleDelivery "session-1" .failed))) nofun).mpr (Or.inr hfailed)
  refine ⟨⟨_, hretried, hstatus⟩, ?_, fun hfollows => ?_⟩
  · obtain ⟨hkeyed', hget'⟩ := @getMessage_apply "m1" _
      (.appendE2EDelivery (sampleDelivery "session-2" .sent)) _ hkeyed hget trivial codePointOrder
    obtain ⟨_, hmarked⟩ := @getMessage_apply "m1" _ .markOutboundDelivered _ hkeyed' hget' trivial
      codePointOrder
    refine ⟨_, hmarked, (@status_failed_iff (OutboundCall.markOutboundDelivered.next codePointOrder
      _) nofun).mpr (Or.inr ⟨sampleDelivery "session-1" .failed, ?_, rfl⟩)⟩
    show _ ∈ mergeE2EDeliveries codePointOrder
      (bobDelivered (sampleDelivery "session-1" .failed)).deliveries _
    rw [deliveries_bobDelivered]
    exact mem_mergeE2EDeliveries.mpr ⟨"device-a:device-b:session-1", rfl⟩
  · have hpending := (hfollows [enqueueBob, .appendE2EDelivery (sampleDelivery "session-1" .failed)]
      .retryMessage [] rfl).retried _ hretried rfl
    rw [hstatus] at hpending
    cases hpending

end QuadraA.Messaging
