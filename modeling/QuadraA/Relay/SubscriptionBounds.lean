import QuadraA.Lib.SlidingWindow
import QuadraA.Relay.EventScope

/-!
# The bounds of subscriptions

`relay/src/subscription-manager.ts` over any calls: the index by DID, the number of subscriptions of
a DID, and the events that a subscription is sent.

* `ManagerCall`, `Dispatched.call` — a call of the manager, and all events that were sent so far;
* `subscription_bounds` — the bounds in every state reached.

The identifier of a subscription has a random part: what is assumed of it is that no two
subscriptions get the same one (`FreshIds`).
-/

namespace QuadraA.Relay

open QuadraA.Lib

variable {W A : Type}

/-! ### Calls -/

inductive ManagerCall (W A : Type) where
  /-- a subscription, with the identifier that is made for it -/
  | subscribe (did : String) (ws : W) (events : List AgentEvent) (realm id : String)
  | unsubscribe (id : String)
  | unsubscribeAll (did : String)
  | dispatch (isOpen : W → Bool) (event : AgentEvent) (did : String) (card : Option A)
      (realm : String) (now : ℕ)

def ManagerCall.newId? : ManagerCall W A → Option String
  | .subscribe _ _ _ _ id => some id
  | _ => none

def ManagerCall.time? : ManagerCall W A → Option ℕ
  | .dispatch _ _ _ _ _ now => some now
  | _ => none

/-- **No identifier is made twice.** -/
def FreshIds (calls : List (ManagerCall W A)) : Prop :=
  (calls.filterMap ManagerCall.newId?).Nodup

/-- **The clock does not go back.** -/
def InOrder (calls : List (ManagerCall W A)) : Prop :=
  (calls.filterMap ManagerCall.time?).Pairwise (· ≤ ·)

/-- An event that was sent, and when. -/
structure TimedEvent (W A : Type) where
  sent : SentEvent W A
  now : ℕ

/-- A manager, and all events that it has sent. -/
structure Dispatched (W A : Type) where
  manager : SubscriptionManager W
  events : List (TimedEvent W A)

namespace Dispatched

def initial : Dispatched W A :=
  { manager := { subscriptions := .empty, byDid := fun _ => ∅ }, events := [] }

def call (s : Dispatched W A) : ManagerCall W A → Dispatched W A
  | .subscribe did ws events realm id =>
      { s with manager := s.manager.subscribe did ws events realm id }
  | .unsubscribe id => { s with manager := s.manager.unsubscribe id }
  | .unsubscribeAll did => { s with manager := s.manager.unsubscribeAll did }
  | .dispatch isOpen event did card realm now =>
      let result := s.manager.dispatch isOpen event did card realm now
      { manager := result.1, events := s.events ++ result.2.map fun sent => ⟨sent, now⟩ }

def run (calls : List (ManagerCall W A)) : Dispatched W A := calls.foldl call initial

/-- The times at which a subscription was sent an event. -/
def timesOf (id : String) (events : List (TimedEvent W A)) : List ℕ :=
  (events.filter fun e => e.sent.message.subscriptionId = id).map TimedEvent.now

end Dispatched

open Dispatched

/-! ### The events of one dispatch -/

/-- The entry of a key gives its own elements, and no other entry gives one with that key. -/
theorem filter_filterMap_values {κ α β : Type} [DecidableEq κ] {r : Record κ α}
    {f : α → Option β} {key : β → κ}
    (hkey : ∀ k a, r.get? k = some a → ∀ b, f a = some b → key b = k) (k : κ) :
    (r.values.filterMap f).filter (fun b => key b = k) = ((r.get? k).bind f).toList := by
  have hentry : ∀ e ∈ r.entries, ∀ b, f e.2 = some b → key b = e.1 := fun e he =>
    hkey e.1 e.2 ((Record.get?_eq_some_iff r e.1 e.2).mpr he)
  have hnodup := r.nodupKeys
  show ((r.entries.map Prod.snd).filterMap f).filter _ = ((Record.lookup k r.entries).bind f).toList
  generalize r.entries = l at hentry hnodup
  induction l with
  | nil => rfl
  | cons e rest ih =>
    obtain ⟨k', a⟩ := e
    have hrest := ih (fun e he => hentry e (List.mem_cons_of_mem _ he))
      (List.nodup_cons.mp hnodup).2
    have hfirst : ((f a).toList.filter fun b => key b = k)
        = if k' = k then (f a).toList else [] := by
      cases hfa : f a with
      | none => split <;> rfl
      | some b =>
        have hb : key b = k' := hentry (k', a) List.mem_cons_self b hfa
        by_cases hk : k' = k <;> simp [hb, hk]
    have hcons : ((⟨k', a⟩ :: rest).map Prod.snd).filterMap f
        = (f a).toList ++ (rest.map Prod.snd).filterMap f := by
      rw [List.map_cons, List.filterMap_cons]
      cases f a <;> rfl
    rw [hcons, List.filter_append, hfirst, hrest, Record.lookup]
    by_cases hk : k' = k
    · have habsent : Record.lookup k rest = none := by
        have hnot := (List.nodup_cons.mp hnodup).1
        rw [← hk]
        cases hlookup : Record.lookup k' rest with
        | none => rfl
        | some other =>
          have hmem := (Record.lookup_eq_some_iff (List.nodup_cons.mp hnodup).2 k' other).mp hlookup
          exact absurd (List.mem_map_of_mem hmem) hnot
      rw [if_pos hk, if_pos hk, habsent]
      exact List.append_nil _
    · rw [if_neg hk, if_neg hk]
      exact List.nil_append _

variable {event : AgentEvent} {did realm : String} {now : ℕ}

theorem notification_eq_some {sub : EventSubscription W} {isOpen : W → Bool} {card : Option A}
    {sent : SentEvent W A} (h : sub.notification isOpen event did card realm now = some sent) :
    sub.receives isOpen event did realm now = true ∧ sent.message.subscriptionId = sub.id ∧
      sent.message.event = event ∧ sent.message.did = did ∧ sent.message.realm = realm := by
  rw [EventSubscription.notification] at h
  split at h
  · rename_i hreceives
    obtain rfl := Option.some.inj h
    exact ⟨hreceives, rfl, rfl, rfl, rfl⟩
  · cases h

theorem notification_of_receives {sub : EventSubscription W} {isOpen : W → Bool} (card : Option A) :
    (sub.notification isOpen event did card realm now).isSome
      = sub.receives isOpen event did realm now := by
  rw [EventSubscription.notification]
  split
  · rename_i hreceives
    exact hreceives.symm
  · rename_i hnot
    exact (Bool.not_eq_true _ ▸ hnot : sub.receives isOpen event did realm now = false).symm

/-! ### The invariant -/

/-- **What holds after any calls.** -/
structure Bounded (calls : List (ManagerCall W A)) (s : Dispatched W A) : Prop where
  filed : ∀ id sub, s.manager.subscriptions.get? id = some sub → sub.id = id
  describes : ∀ did id, id ∈ s.manager.byDid did ↔
    ∃ sub, s.manager.subscriptions.get? id = some sub ∧ sub.did = did
  few : ∀ did, (s.manager.byDid did).card ≤ MAX_SUBSCRIPTIONS_PER_DID
  asked : ∀ id sub, s.manager.subscriptions.get? id = some sub →
    .subscribe sub.did sub.ws sub.events sub.realm id ∈ calls
  proper : ∀ e ∈ s.events, ∃ did ws events realm,
    .subscribe did ws events realm e.sent.message.subscriptionId ∈ calls ∧
      e.sent.message.did ≠ did ∧ e.sent.message.event ∈ events ∧ e.sent.message.realm = realm
  limited : ∀ id, Limited RATE_LIMIT_WINDOW_MS RATE_LIMIT_MAX_EVENTS (timesOf id s.events)
  tracks : ∀ id sub now, s.manager.subscriptions.get? id = some sub →
    (∀ time ∈ calls.filterMap ManagerCall.time?, time ≤ now) →
      Tracks RATE_LIMIT_WINDOW_MS (timesOf id s.events) sub.eventTimestamps now

variable {calls : List (ManagerCall W A)} {s : Dispatched W A}

theorem bounded_initial : Bounded [] (initial : Dispatched W A) where
  filed _ _ hget := nomatch hget
  describes did id := by
    refine ⟨fun hmem => absurd hmem (Finset.notMem_empty id), ?_⟩
    rintro ⟨sub, hget, -⟩
    cases hget
  few _ := Nat.zero_le _
  asked _ _ hget := nomatch hget
  proper _ he := nomatch he
  limited _ := limited_nil _ _
  tracks _ _ _ hget := nomatch hget

/-- A call that sends nothing, and adds no subscription, keeps what is said of each of them. -/
theorem Bounded.of_fewer (h : Bounded calls s) (c : ManagerCall W A)
    {manager : SubscriptionManager W}
    (hsubs : ∀ id sub, manager.subscriptions.get? id = some sub →
      s.manager.subscriptions.get? id = some sub)
    (hdescribes : ∀ did id, id ∈ manager.byDid did ↔
      ∃ sub, manager.subscriptions.get? id = some sub ∧ sub.did = did)
    (hfew : ∀ did, manager.byDid did ⊆ s.manager.byDid did) :
    Bounded (calls ++ [c]) { s with manager := manager } where
  filed id sub hget := h.filed id sub (hsubs id sub hget)
  describes := hdescribes
  few did := (Finset.card_le_card (hfew did)).trans (h.few did)
  asked id sub hget := List.mem_append_left _ (h.asked id sub (hsubs id sub hget))
  proper e he := by
    obtain ⟨did, ws, events, realm, hmem, hproper⟩ := h.proper e he
    exact ⟨did, ws, events, realm, List.mem_append_left _ hmem, hproper⟩
  limited := h.limited
  tracks id sub now hget htimes := h.tracks id sub now (hsubs id sub hget) fun time htime =>
    htimes time (by rw [List.filterMap_append]; exact List.mem_append_left _ htime)

theorem Bounded.unsubscribe (h : Bounded calls s) (id : String) :
    Bounded (calls ++ [.unsubscribe id]) (s.call (.unsubscribe id)) := by
  unfold Dispatched.call SubscriptionManager.unsubscribe
  dsimp only
  split
  · exact h.of_fewer _ (fun _ _ hget => hget) h.describes fun _ => Finset.Subset.refl _
  · rename_i sub hsub
    refine h.of_fewer _ (fun id' sub' hget => ?_) (fun did id' => ?_) fun did => ?_
    · rw [Record.get?_erase] at hget
      split at hget
      · cases hget
      · exact hget
    · dsimp only
      rw [Record.get?_erase, Function.update_apply]
      by_cases hid : id = id'
      · rw [if_pos hid]
        have hnone : ¬∃ sub, (none : Option (EventSubscription W)) = some sub ∧ sub.did = did := by
          rintro ⟨_, ⟨⟩, _⟩
        refine ⟨fun hmem => absurd ?_ hnone, fun hsub => absurd hsub hnone⟩
        -- the identifier was under the DID of its subscription alone
        split at hmem
        · exact absurd hid.symm (Finset.mem_erase.mp hmem).1
        · rename_i hdid
          obtain ⟨sub', hget, hdid'⟩ := (h.describes did id').mp hmem
          rw [← hid, hsub] at hget
          obtain rfl := Option.some.inj hget
          exact absurd hdid'.symm hdid
      · rw [if_neg hid, ← h.describes did id']
        split
        · rename_i hdid
          rw [Finset.mem_erase, hdid]
          exact and_iff_right (Ne.symm hid)
        · exact Iff.rfl
    · show Function.update s.manager.byDid sub.did _ did ⊆ _
      rw [Function.update_apply]
      split
      · rename_i hdid
        rw [hdid]
        exact Finset.erase_subset _ _
      · exact Finset.Subset.refl _

theorem Bounded.unsubscribeAll (h : Bounded calls s) (did : String) :
    Bounded (calls ++ [.unsubscribeAll did]) (s.call (.unsubscribeAll did)) := by
  refine h.of_fewer _ (fun id sub hget => ?_) (fun did' id => ?_) fun did' => ?_
  · unfold SubscriptionManager.unsubscribeAll at hget
    rw [Record.get?_filterKeys] at hget
    split at hget
    · exact hget
    · cases hget
  · unfold SubscriptionManager.unsubscribeAll
    dsimp only
    rw [Record.get?_filterKeys, Function.update_apply]
    by_cases hid : id ∈ s.manager.byDid did
    · rw [if_neg (show ¬decide (id ∉ s.manager.byDid did) = true by simpa using hid)]
      have hnone : ¬∃ sub, (none : Option (EventSubscription W)) = some sub ∧ sub.did = did' := by
        rintro ⟨_, ⟨⟩, _⟩
      refine ⟨fun hmem => absurd ?_ hnone, fun hsub => absurd hsub hnone⟩
      split at hmem
      · exact absurd hmem (Finset.notMem_empty id)
      · rename_i hdid
        obtain ⟨sub, hget, hsub⟩ := (h.describes did id).mp hid
        obtain ⟨sub', hget', hsub'⟩ := (h.describes did' id).mp hmem
        obtain rfl := Option.some.inj (hget.symm.trans hget')
        exact absurd (hsub'.symm.trans hsub) hdid
    · rw [if_pos (show decide (id ∉ s.manager.byDid did) = true by simpa using hid),
        ← h.describes did' id]
      split
      · rename_i hdid
        rw [hdid]
        exact ⟨fun hmem => absurd hmem (Finset.notMem_empty id), fun hmem => absurd hmem hid⟩
      · exact Iff.rfl
  · show Function.update s.manager.byDid did ∅ did' ⊆ _
    rw [Function.update_apply]
    split
    · exact Finset.empty_subset _
    · exact Finset.Subset.refl _

/-- An identifier that was not made yet is of no subscription, and no event was sent under it. -/
theorem Bounded.absent (h : Bounded calls s) {id : String}
    (hfresh : id ∉ calls.filterMap ManagerCall.newId?) :
    s.manager.subscriptions.get? id = none ∧ timesOf id s.events = [] := by
  have hnot : ∀ did ws events realm,
      ManagerCall.subscribe did ws events realm id ∉ calls := fun did ws events realm hmem =>
    hfresh (List.mem_filterMap.mpr ⟨_, hmem, rfl⟩)
  refine ⟨?_, ?_⟩
  · cases hget : s.manager.subscriptions.get? id with
    | none => rfl
    | some sub => exact absurd (h.asked id sub hget) (hnot _ _ _ _)
  · rw [timesOf, List.map_eq_nil_iff, List.filter_eq_nil_iff]
    intro e he hid
    obtain ⟨did, ws, events, realm, hmem, -⟩ := h.proper e he
    rw [of_decide_eq_true hid] at hmem
    exact hnot _ _ _ _ hmem

theorem Bounded.subscribe (h : Bounded calls s) (did : String) (ws : W) (events : List AgentEvent)
    (realm id : String) (hfresh : id ∉ calls.filterMap ManagerCall.newId?) :
    Bounded (calls ++ [.subscribe did ws events realm id])
      (s.call (.subscribe did ws events realm id)) := by
  unfold Dispatched.call SubscriptionManager.subscribe
  dsimp only
  split
  · exact h.of_fewer _ (fun _ _ hget => hget) h.describes fun _ => Finset.Subset.refl _
  · rename_i hroom
    obtain ⟨habsent, hunsent⟩ := h.absent hfresh
    -- what is read under an identifier: the new subscription under its own
    have hget? : ∀ {id' : String} {sub : EventSubscription W},
        (s.manager.subscriptions.set id
          { id := id, did := did, ws := ws, events := events, realm := realm
            eventTimestamps := [] }).get? id' = some sub →
        (id' = id ∧ sub = { id := id, did := did, ws := ws, events := events, realm := realm
                            eventTimestamps := [] }) ∨
          s.manager.subscriptions.get? id' = some sub := by
      intro id' sub hget
      rw [Record.get?_set] at hget
      split at hget
      · rename_i hid
        exact Or.inl ⟨hid.symm, (Option.some.inj hget).symm⟩
      · exact Or.inr hget
    refine ⟨fun id' sub hget => ?_, fun did' id' => ?_, fun did' => ?_, fun id' sub hget => ?_,
      fun e he => ?_, h.limited, fun id' sub now hget htimes => ?_⟩
    · rcases hget? hget with ⟨hid, rfl⟩ | hold
      · exact hid.symm
      · exact h.filed id' sub hold
    · dsimp only
      rw [Record.get?_set, Function.update_apply]
      by_cases hid : id = id'
      · rw [if_pos hid]
        have hnot : ∀ did', id' ∉ s.manager.byDid did' := by
          intro did' hmem
          obtain ⟨sub, hget, -⟩ := (h.describes did' id').mp hmem
          rw [← hid, habsent] at hget
          cases hget
        split
        · rename_i hdid
          rw [Finset.mem_insert]
          exact ⟨fun _ => ⟨_, rfl, hdid.symm⟩, fun _ => Or.inl hid.symm⟩
        · rename_i hdid
          refine ⟨fun hmem => absurd hmem (hnot did'), ?_⟩
          rintro ⟨sub, hget, hsub⟩
          obtain rfl := Option.some.inj hget
          exact absurd hsub.symm hdid
      · rw [if_neg hid, ← h.describes did' id']
        split
        · rename_i hdid
          rw [Finset.mem_insert, hdid]
          exact or_iff_right (Ne.symm hid)
        · exact Iff.rfl
    · show (Function.update s.manager.byDid did _ did').card ≤ _
      rw [Function.update_apply]
      split
      · exact (Finset.card_insert_le _ _).trans (not_le.mp hroom)
      · exact h.few did'
    · rcases hget? hget with ⟨hid, rfl⟩ | hold
      · rw [hid]
        exact List.mem_append_right _ List.mem_cons_self
      · exact List.mem_append_left _ (h.asked id' sub hold)
    · obtain ⟨did', ws', events', realm', hmem, hproper⟩ := h.proper e he
      exact ⟨did', ws', events', realm', List.mem_append_left _ hmem, hproper⟩
    · rcases hget? hget with ⟨hid, -⟩ | hold
      · rw [hid]
        show Tracks _ (timesOf id s.events) _ _
        rw [hunsent]
        exact tracks_nil _ _ _
      · exact h.tracks id' sub now hold fun time htime =>
          htimes time (by rw [List.filterMap_append]; exact List.mem_append_left _ htime)

/-- **A dispatch sends a subscription its own event**, or none. -/
theorem timesOf_dispatch (h : Bounded calls s) (isOpen : W → Bool) (event : AgentEvent)
    (did : String) (card : Option A) (realm : String) (now : ℕ) (id : String) :
    timesOf id (s.call (.dispatch isOpen event did card realm now)).events
      = timesOf id s.events ++
        if (s.manager.subscriptions.get? id).any fun sub =>
          sub.receives isOpen event did realm now then [now] else [] := by
  have hown : (s.manager.subscriptions.values.filterMap fun sub =>
        sub.notification isOpen event did card realm now).filter
          (fun sent => sent.message.subscriptionId = id)
      = ((s.manager.subscriptions.get? id).bind fun sub =>
          sub.notification isOpen event did card realm now).toList :=
    filter_filterMap_values (fun id sub hget sent hsent =>
      (notification_eq_some hsent).2.1.trans (h.filed id sub hget)) id
  show timesOf id (s.events ++ _) = _
  rw [timesOf, List.filter_append, List.map_append, ← timesOf]
  congr 1
  rw [List.filter_map, List.map_map]
  show ((List.filter (fun sent => sent.message.subscriptionId = id)
    (s.manager.dispatch isOpen event did card realm now).2).map fun _ => now) = _
  unfold SubscriptionManager.dispatch
  dsimp only
  rw [hown]
  cases s.manager.subscriptions.get? id with
  | none => rfl
  | some sub =>
    have hsome : (sub.notification isOpen event did card realm now).isSome
        = sub.receives isOpen event did realm now := notification_of_receives card
    rw [Option.bind_some, Option.any_some, ← hsome]
    cases sub.notification isOpen event did card realm now <;> rfl

theorem window_pos : 0 < RATE_LIMIT_WINDOW_MS := by decide

theorem Bounded.dispatch (h : Bounded calls s) (isOpen : W → Bool) (event : AgentEvent)
    (did : String) (card : Option A) (realm : String) (now : ℕ)
    (hlatest : ∀ time ∈ calls.filterMap ManagerCall.time?, time ≤ now) :
    Bounded (calls ++ [.dispatch isOpen event did card realm now])
      (s.call (.dispatch isOpen event did card realm now)) := by
  have hget? : ∀ {id : String} {sub' : EventSubscription W},
      (s.call (.dispatch isOpen event did card realm now)).manager.subscriptions.get? id
          = some sub' →
        ∃ sub, s.manager.subscriptions.get? id = some sub ∧
          sub.counted event did realm now = sub' := by
    intro id sub' hget
    have hmap : (s.manager.subscriptions.map fun _ sub =>
        sub.counted event did realm now).get? id = some sub' := hget
    rw [Record.get?_map] at hmap
    exact Option.map_eq_some_iff.mp hmap
  have hsame : ∀ sub : EventSubscription W, (sub.counted event did realm now).id = sub.id ∧
      (sub.counted event did realm now).did = sub.did ∧
      (sub.counted event did realm now).ws = sub.ws ∧
      (sub.counted event did realm now).events = sub.events ∧
      (sub.counted event did realm now).realm = sub.realm := by
    intro sub
    unfold EventSubscription.counted
    split <;> exact ⟨rfl, rfl, rfl, rfl, rfl⟩
  refine ⟨fun id sub' hget => ?_, fun did' id => ?_, h.few, fun id sub' hget => ?_,
    fun e he => ?_, fun id => ?_, fun id sub' later hget htimes => ?_⟩
  · obtain ⟨sub, hsub, rfl⟩ := hget? hget
    rw [(hsame sub).1]
    exact h.filed id sub hsub
  · show id ∈ s.manager.byDid did' ↔ _
    rw [h.describes did' id]
    constructor
    · rintro ⟨sub, hsub, hdid⟩
      refine ⟨sub.counted event did realm now, ?_, (hsame sub).2.1.trans hdid⟩
      show (s.manager.subscriptions.map _).get? id = _
      rw [Record.get?_map, hsub]
      rfl
    · rintro ⟨sub', hget, hdid⟩
      obtain ⟨sub, hsub, rfl⟩ := hget? hget
      exact ⟨sub, hsub, (hsame sub).2.1.symm.trans hdid⟩
  · obtain ⟨sub, hsub, rfl⟩ := hget? hget
    obtain ⟨-, hdid, hws, hevents, hrealm⟩ := hsame sub
    rw [hdid, hws, hevents, hrealm]
    exact List.mem_append_left _ (h.asked id sub hsub)
  · rcases List.mem_append.mp he with hold | hnew
    · obtain ⟨did', ws', events', realm', hmem, hproper⟩ := h.proper e hold
      exact ⟨did', ws', events', realm', List.mem_append_left _ hmem, hproper⟩
    · obtain ⟨sent, hsent, rfl⟩ := List.mem_map.mp hnew
      obtain ⟨sub, hsub, hnotify⟩ := List.mem_filterMap.mp hsent
      obtain ⟨id, hget⟩ := (Record.mem_values_iff _ _).mp hsub
      obtain ⟨hreceives, hid, hevent, hdid, hrealm⟩ := notification_eq_some hnotify
      simp only [EventSubscription.receives, EventSubscription.isInterested, Bool.and_eq_true,
        decide_eq_true_eq] at hreceives
      obtain ⟨⟨⟨⟨hsubRealm, hasked⟩, hother⟩, -⟩, -⟩ := hreceives
      refine ⟨sub.did, sub.ws, sub.events, sub.realm, ?_, ?_, ?_, ?_⟩
      · rw [hid, h.filed id sub hget]
        exact List.mem_append_left _ (h.asked id sub hget)
      · rw [hdid]
        exact Ne.symm hother
      · rwa [hevent]
      · rw [hrealm, hsubRealm]
  · rw [timesOf_dispatch h]
    split
    · rename_i hsent
      obtain ⟨sub, hget, hreceives⟩ := (Option.any_eq_true _ _).mp hsent
      have htracks := (h.tracks id sub now hget hlatest).recent window_pos
      simp only [EventSubscription.receives, Bool.and_eq_true, Bool.not_eq_true',
        EventSubscription.isLimited, decide_eq_false_iff_not, not_le] at hreceives
      exact (h.limited id).send htracks hreceives.1.2
    · rw [List.append_nil]
      exact h.limited id
  · obtain ⟨sub, hsub, rfl⟩ := hget? hget
    have hnow : now ≤ later := htimes now (by
      rw [List.filterMap_append]
      exact List.mem_append_right _ List.mem_cons_self)
    have htracks := h.tracks id sub now hsub hlatest
    have hrecent : Tracks RATE_LIMIT_WINDOW_MS (timesOf id s.events)
        (sub.recentTimestamps now) now := htracks.recent window_pos
    rw [timesOf_dispatch h, hsub, Option.any_some]
    refine Tracks.later ?_ hnow
    unfold EventSubscription.receives EventSubscription.counted
    -- it was counted whenever it was sent, and not limited then
    cases hinterested : sub.isInterested event did realm with
    | false => simpa using htracks
    | true =>
      cases hlimited : sub.isLimited now with
      | true => simpa using hrecent
      | false =>
        cases isOpen sub.ws with
        | true => simpa using hrecent.send
        | false => simpa using hrecent.push

/-! ### Any calls -/

theorem bounded_run (hfresh : FreshIds calls) (horder : InOrder calls) :
    Bounded calls (run calls) := by
  induction calls using List.reverseRecOn with
  | nil => exact bounded_initial
  | append_singleton calls c ih =>
    unfold FreshIds at hfresh
    unfold InOrder at horder
    rw [List.filterMap_append, List.nodup_append] at hfresh
    rw [List.filterMap_append, List.pairwise_append] at horder
    have h := ih hfresh.1 horder.1
    rw [run, List.foldl_append, List.foldl_cons, List.foldl_nil, ← run]
    cases c with
    | subscribe did ws events realm id =>
      exact h.subscribe did ws events realm id fun hmem =>
        hfresh.2.2 id hmem id List.mem_cons_self rfl
    | unsubscribe id => exact h.unsubscribe id
    | unsubscribeAll did => exact h.unsubscribeAll did
    | dispatch isOpen event did card realm now =>
      exact h.dispatch isOpen event did card realm now fun time htime =>
        horder.2.2 time htime now List.mem_cons_self

/-- **The bounds of subscriptions**, after any calls: both maps have the same pairs, no DID has too
many, no subscription is sent too many events in a window, and each event is one that the
subscription asked for, of its realm, about another agent. -/
theorem subscription_bounds (calls : List (ManagerCall W A)) (hfresh : FreshIds calls)
    (horder : InOrder calls) :
    (∀ did id, id ∈ (run calls).manager.byDid did ↔
        ∃ sub, (run calls).manager.subscriptions.get? id = some sub ∧ sub.did = did) ∧
      (∀ did, ((run calls).manager.byDid did).card ≤ MAX_SUBSCRIPTIONS_PER_DID) ∧
      (∀ id start, ((run calls).events.countP fun e => e.sent.message.subscriptionId = id ∧
          start ≤ e.now ∧ e.now < start + RATE_LIMIT_WINDOW_MS) ≤ RATE_LIMIT_MAX_EVENTS) ∧
      ∀ e ∈ (run calls).events, ∃ did ws events realm,
        .subscribe did ws events realm e.sent.message.subscriptionId ∈ calls ∧
          e.sent.message.did ≠ did ∧ e.sent.message.event ∈ events ∧
          e.sent.message.realm = realm := by
  have h := bounded_run hfresh horder
  refine ⟨h.describes, h.few, fun id start => ?_, h.proper⟩
  have hcount : ((run calls).events.countP fun e => e.sent.message.subscriptionId = id ∧
        start ≤ e.now ∧ e.now < start + RATE_LIMIT_WINDOW_MS)
      = (timesOf id (run calls).events).countP
          fun t => start ≤ t ∧ t < start + RATE_LIMIT_WINDOW_MS := by
    rw [timesOf, List.countP_map, List.countP_filter]
    refine List.countP_congr fun e _ => ?_
    simp only [Function.comp_apply, Bool.and_eq_true, decide_eq_true_eq]
    exact and_comm
  rw [hcount]
  exact h.limited id start

/-- Two agents subscribe, and one of them is told about the other. -/
def sampleCalls : List (ManagerCall ℕ ℕ) :=
  [.subscribe "did:agent:a" 0 [.join, .leave] "public" "sub-a-1",
    .subscribe "did:agent:b" 1 [.join] "public" "sub-b-2",
    .dispatch (fun _ => true) .join "did:agent:b" none "public" 5,
    .unsubscribe "sub-b-2"]

theorem subscription_bounds_sample :
    (run sampleCalls).events.map (fun e => e.sent.message.subscriptionId) = ["sub-a-1"] ∧
      ((run sampleCalls).manager.byDid "did:agent:a").card ≤ MAX_SUBSCRIPTIONS_PER_DID ∧
      ((run sampleCalls).events.countP fun e => e.sent.message.subscriptionId = "sub-a-1" ∧
        0 ≤ e.now ∧ e.now < 0 + RATE_LIMIT_WINDOW_MS) ≤ RATE_LIMIT_MAX_EVENTS := by
  have hfresh : FreshIds sampleCalls := by
    show ["sub-a-1", "sub-b-2"].Nodup
    decide
  have horder : InOrder sampleCalls := List.pairwise_singleton _ _
  obtain ⟨-, hfew, hlimited, -⟩ := subscription_bounds sampleCalls hfresh horder
  exact ⟨by decide +kernel, hfew "did:agent:a", hlimited "sub-a-1" 0⟩

end QuadraA.Relay
