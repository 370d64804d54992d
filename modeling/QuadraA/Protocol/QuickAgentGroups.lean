import Mathlib.Algebra.Order.Field.Rat
import Mathlib.Data.List.Sort
import QuadraA.Lib.Record

/-!
# Quick agent groups

`quick-agent-groups.ts` and the checks of `group-invite.ts`: an agent joins a group with an invite,
and is a member until the invite expires or it leaves.

* `joined_until_expiry_iff` — a join holds until its invite expires exactly when the group has no
  membership of an earlier expiry;
* `join_of_other_invite` — such a membership.

A join awaits the check of its signature before it reads the memberships, so it is one step here,
taken when it resolves.  What the manager writes into cards and envelopes is left out.
-/

namespace QuadraA.Protocol

open QuadraA.Lib

/-! ### Invites -/

inductive QuickAgentGroupDiscoveryScope where
  | groupOnly
  | mixed
deriving DecidableEq

structure QuickAgentGroupInvite where
  groupId : String
  issuedBy : String
  createdAt : ℚ
  expiresAt : ℚ
  discoveryScope : QuickAgentGroupDiscoveryScope
  signature : String
deriving DecidableEq

/-- A character of `GROUP_ID_PATTERN`. -/
def isGroupIdChar (c : Char) : Bool :=
  c.isAlphanum || c = '_' || c = '.' || c = ':' || c = '-'

def validateQuickAgentGroupId (groupId : String) : Bool :=
  decide (3 ≤ groupId.length ∧ groupId.length ≤ 128) && groupId.toList.all isGroupIdChar

def validateQuickAgentGroupInvite (candidate : QuickAgentGroupInvite) : Bool :=
  validateQuickAgentGroupId candidate.groupId &&
    "did:agent:".toList.isPrefixOf candidate.issuedBy.toList &&
    decide (candidate.createdAt < candidate.expiresAt) &&
    decide (candidate.signature ≠ "")

def isQuickAgentGroupInviteExpired (invite : QuickAgentGroupInvite) (now : ℚ) : Bool :=
  decide (invite.expiresAt ≤ now)

/-- What comes of the `verifyFn` of a join, if it has one: it may throw. -/
abbrev Verification := Option (Except String Bool)

/-! ### Memberships -/

structure QuickAgentGroupMembership where
  groupId : String
  invite : QuickAgentGroupInvite
  joinedAt : ℚ
deriving DecidableEq

/-- The groups of a manager. -/
abbrev QuickAgentGroups := Record String QuickAgentGroupMembership

namespace QuickAgentGroups

def isExpired (groups : QuickAgentGroups) (now : ℚ) (groupId : String) : Bool :=
  (groups.get? groupId).any fun membership =>
    isQuickAgentGroupInviteExpired membership.invite now

/-- The groups that are left, and the identifiers of those that are removed. -/
def purgeExpiredGroups (groups : QuickAgentGroups) (now : ℚ) : QuickAgentGroups × List String :=
  (groups.filterKeys fun groupId => !groups.isExpired now groupId,
    groups.keys.filter (groups.isExpired now))

def ensureActiveMembership (groups : QuickAgentGroups) (groupId : String) (now : ℚ) :
    QuickAgentGroups × Except String QuickAgentGroupMembership :=
  let groups := (groups.purgeExpiredGroups now).1
  match groups.get? groupId with
  | none => (groups, .error ("Not a member of quick agent group: " ++ groupId))
  | some membership => (groups, .ok membership)

/-- **A join**, once its signature has been checked. -/
def joinGroup (groups : QuickAgentGroups) (invite : QuickAgentGroupInvite)
    (verification : Verification) (now : ℚ) :
    QuickAgentGroups × Except String QuickAgentGroupMembership :=
  if validateQuickAgentGroupInvite invite then
    match verification with
    | some (.error error) => (groups, .error error)
    | some (.ok false) =>
        (groups, .error "Quick agent group invite signature verification failed")
    | none | some (.ok true) =>
        if isQuickAgentGroupInviteExpired invite now then
          (groups, .error ("Quick agent group invite expired: " ++ invite.groupId))
        else
          match groups.get? invite.groupId with
          | some existing => (groups, .ok existing)
          | none =>
              let membership : QuickAgentGroupMembership :=
                { groupId := invite.groupId, invite := invite, joinedAt := now }
              (groups.set invite.groupId membership, .ok membership)
  else (groups, .error "Invalid quick agent group invite")

def leaveGroup (groups : QuickAgentGroups) (groupId : String) : QuickAgentGroups × Bool :=
  (groups.erase groupId, (groups.get? groupId).isSome)

def hasGroup (groups : QuickAgentGroups) (groupId : String) (now : ℚ) : QuickAgentGroups × Bool :=
  let groups := (groups.purgeExpiredGroups now).1
  (groups, (groups.get? groupId).isSome)

def listGroups (groups : QuickAgentGroups) (now : ℚ) :
    QuickAgentGroups × List QuickAgentGroupMembership :=
  let groups := (groups.purgeExpiredGroups now).1
  (groups, groups.values.mergeSort fun left right => decide (left.joinedAt ≤ right.joinedAt))

def acceptsEnvelope (groups : QuickAgentGroups) (groupId : Option String) (now : ℚ) :
    QuickAgentGroups × Bool :=
  let groups := (groups.purgeExpiredGroups now).1
  match groupId with
  | none | some "" => (groups, true)
  | some groupId => (groups, (groups.get? groupId).isSome)

end QuickAgentGroups

/-! ### Any calls -/

inductive GroupCall where
  | joinGroup (invite : QuickAgentGroupInvite) (verification : Verification)
  | leaveGroup (groupId : String)
  | hasGroup (groupId : String)
  | listGroups
  | purgeExpiredGroups
  | augmentCard
  | acceptsEnvelope (groupId : Option String)
  | decorateEnvelope (groupId : String)
  | buildDiscoveryCapability (groupId : String)
  | filterCardsForGroup (groupId : String)

structure TimedGroupCall where
  call : GroupCall
  now : ℚ

namespace QuickAgentGroups

/-- The groups after a call. -/
def call (groups : QuickAgentGroups) (c : TimedGroupCall) : QuickAgentGroups :=
  match c.call with
  | .joinGroup invite verification => (groups.joinGroup invite verification c.now).1
  | .leaveGroup groupId => (groups.leaveGroup groupId).1
  | .hasGroup groupId => (groups.hasGroup groupId c.now).1
  | .listGroups => (groups.listGroups c.now).1
  | .purgeExpiredGroups | .augmentCard => (groups.purgeExpiredGroups c.now).1
  | .acceptsEnvelope groupId => (groups.acceptsEnvelope groupId c.now).1
  | .decorateEnvelope groupId | .buildDiscoveryCapability groupId
  | .filterCardsForGroup groupId => (groups.ensureActiveMembership groupId c.now).1

def run (groups : QuickAgentGroups) (calls : List TimedGroupCall) : QuickAgentGroups :=
  calls.foldl call groups

variable {groups : QuickAgentGroups} {invite : QuickAgentGroupInvite} {groupId : String}
  {verification : Verification} {c : TimedGroupCall} {calls : List TimedGroupCall} {now : ℚ}

/-! ### What the calls do -/

theorem get?_purgeExpiredGroups (groups : QuickAgentGroups) (now : ℚ) (groupId : String) :
    (groups.purgeExpiredGroups now).1.get? groupId
      = (groups.get? groupId).filter fun membership =>
          !isQuickAgentGroupInviteExpired membership.invite now := by
  rw [purgeExpiredGroups, Record.get?_filterKeys, isExpired]
  cases groups.get? groupId with
  | none => rfl
  | some membership =>
    show (if !isQuickAgentGroupInviteExpired membership.invite now then some membership else none)
      = _
    rw [Option.filter_some]

theorem acceptsEnvelope_fst (groups : QuickAgentGroups) (envelope : Option String) (now : ℚ) :
    (groups.acceptsEnvelope envelope now).1 = (groups.purgeExpiredGroups now).1 := by
  unfold acceptsEnvelope
  dsimp only
  split <;> rfl

theorem ensureActiveMembership_fst (groups : QuickAgentGroups) (groupId : String) (now : ℚ) :
    (groups.ensureActiveMembership groupId now).1 = (groups.purgeExpiredGroups now).1 := by
  unfold ensureActiveMembership
  dsimp only
  split <;> rfl

/-- **What a call can do**: make a membership of a group that has none, leave a group, leave the
groups as they are, or remove the expired ones. -/
theorem call_cases (groups : QuickAgentGroups) (c : TimedGroupCall) :
    (∃ membership, groups.get? membership.groupId = none ∧
        groups.call c = groups.set membership.groupId membership) ∨
      (∃ groupId, c.call = .leaveGroup groupId ∧ groups.call c = groups.erase groupId) ∨
      groups.call c = groups ∨ groups.call c = (groups.purgeExpiredGroups c.now).1 := by
  unfold call
  cases c.call with
  | joinGroup invite verification =>
    dsimp only
    unfold joinGroup
    split
    · split
      · exact Or.inr (Or.inr (Or.inl rfl))
      · exact Or.inr (Or.inr (Or.inl rfl))
      all_goals
        split
        · exact Or.inr (Or.inr (Or.inl rfl))
        · split
          · exact Or.inr (Or.inr (Or.inl rfl))
          · rename_i hnone
            exact Or.inl ⟨{ groupId := invite.groupId, invite := invite, joinedAt := c.now },
              hnone, rfl⟩
    · exact Or.inr (Or.inr (Or.inl rfl))
  | leaveGroup groupId => exact Or.inr (Or.inl ⟨groupId, rfl, rfl⟩)
  | hasGroup groupId => exact Or.inr (Or.inr (Or.inr rfl))
  | listGroups => exact Or.inr (Or.inr (Or.inr rfl))
  | purgeExpiredGroups => exact Or.inr (Or.inr (Or.inr rfl))
  | augmentCard => exact Or.inr (Or.inr (Or.inr rfl))
  | acceptsEnvelope envelope =>
    exact Or.inr (Or.inr (Or.inr (acceptsEnvelope_fst groups envelope c.now)))
  | decorateEnvelope groupId =>
    exact Or.inr (Or.inr (Or.inr (ensureActiveMembership_fst groups groupId c.now)))
  | buildDiscoveryCapability groupId =>
    exact Or.inr (Or.inr (Or.inr (ensureActiveMembership_fst groups groupId c.now)))
  | filterCardsForGroup groupId =>
    exact Or.inr (Or.inr (Or.inr (ensureActiveMembership_fst groups groupId c.now)))

/-- A join that resolves had an invite that was not over, and gives the group a membership: the one
that it had, or its own. -/
theorem joinGroup_ok {membership : QuickAgentGroupMembership}
    (h : (groups.joinGroup invite verification now).2 = .ok membership) :
    validateQuickAgentGroupInvite invite = true ∧ now < invite.expiresAt ∧
      ((groups.get? invite.groupId = some membership ∧
          (groups.joinGroup invite verification now).1 = groups) ∨
        (groups.get? invite.groupId = none ∧ membership.invite = invite ∧
          (groups.joinGroup invite verification now).1
            = groups.set invite.groupId membership)) := by
  unfold joinGroup at h ⊢
  split at h
  · rename_i hvalid
    rw [if_pos hvalid]
    split at h
    · cases h
    · cases h
    all_goals
      split at h
      · cases h
      · rename_i hexpired
        rw [if_neg hexpired]
        have hnow : now < invite.expiresAt :=
          not_le.mp fun hle => hexpired (decide_eq_true hle)
        refine ⟨hvalid, hnow, ?_⟩
        split at h
        · rename_i existing hexisting
          obtain rfl := Except.ok.inj h
          dsimp only
          rw [hexisting]
          exact Or.inl ⟨rfl, rfl⟩
        · rename_i hnone
          obtain rfl := Except.ok.inj h
          dsimp only
          rw [hnone]
          exact Or.inr ⟨rfl, rfl, rfl⟩
  · cases h

/-! ### A membership that lasts -/

/-- **The group has a membership that lasts**, up to some time. -/
def Holds (groups : QuickAgentGroups) (groupId : String) (limit : ℚ) : Prop :=
  ∃ membership, groups.get? groupId = some membership ∧ limit ≤ membership.invite.expiresAt

variable {limit : ℚ}

theorem Holds.purgeExpiredGroups (h : Holds groups groupId limit) (hnow : now < limit) :
    Holds (groups.purgeExpiredGroups now).1 groupId limit := by
  obtain ⟨membership, hget, hlimit⟩ := h
  have hkept : isQuickAgentGroupInviteExpired membership.invite now = false :=
    decide_eq_false (not_le.mpr (hnow.trans_le hlimit))
  refine ⟨membership, ?_, hlimit⟩
  rw [get?_purgeExpiredGroups, hget, Option.filter_some, hkept]
  rfl

/-- One call keeps it, unless the group is left. -/
theorem Holds.call (h : Holds groups groupId limit) (hnow : c.now < limit)
    (hstay : c.call ≠ .leaveGroup groupId) : Holds (groups.call c) groupId limit := by
  rcases call_cases groups c with ⟨other, hnone, hset⟩ | ⟨left, hleave, herase⟩ | hsame | hpurge
  · obtain ⟨membership, hget, hlimit⟩ := h
    rw [hset]
    refine ⟨membership, ?_, hlimit⟩
    rw [Record.get?_set_ne, hget]
    rintro rfl
    rw [hnone] at hget
    cases hget
  · obtain ⟨membership, hget, hlimit⟩ := h
    rw [herase]
    refine ⟨membership, ?_, hlimit⟩
    rw [Record.get?_erase, if_neg, hget]
    rintro rfl
    exact hstay hleave
  · rw [hsame]
    exact h
  · rw [hpurge]
    exact h.purgeExpiredGroups hnow

/-- Any calls keep it. -/
theorem Holds.run (h : Holds groups groupId limit) (hnow : ∀ c ∈ calls, c.now < limit)
    (hstay : ∀ c ∈ calls, c.call ≠ .leaveGroup groupId) :
    Holds (groups.run calls) groupId limit := by
  induction calls generalizing groups with
  | nil => exact h
  | cons c calls ih =>
    exact ih (h.call (hnow c List.mem_cons_self) (hstay c List.mem_cons_self))
      (fun later hlater => hnow later (List.mem_cons_of_mem _ hlater))
      fun later hlater => hstay later (List.mem_cons_of_mem _ hlater)

/-- While it lasts, the group is there. -/
theorem Holds.hasGroup (h : Holds groups groupId limit) (hnow : now < limit) :
    (groups.hasGroup groupId now).2 = true := by
  obtain ⟨membership, hget, -⟩ := h.purgeExpiredGroups hnow
  show ((groups.purgeExpiredGroups now).1.get? groupId).isSome = true
  rw [hget]
  rfl

theorem acceptsEnvelope_of_hasGroup (h : (groups.hasGroup groupId now).2 = true) :
    (groups.acceptsEnvelope (some groupId) now).2 = true := by
  unfold acceptsEnvelope
  dsimp only
  split
  · rfl
  · rfl
  · rename_i heq
    obtain rfl := Option.some.inj heq
    exact h

theorem not_hasGroup_of_expired {membership : QuickAgentGroupMembership}
    (hget : groups.get? groupId = some membership) (hexpired : membership.invite.expiresAt ≤ now) :
    (groups.hasGroup groupId now).2 = false := by
  show ((groups.purgeExpiredGroups now).1.get? groupId).isSome = false
  have hkept : isQuickAgentGroupInviteExpired membership.invite now = true :=
    decide_eq_true hexpired
  rw [get?_purgeExpiredGroups, hget, Option.filter_some, hkept]
  rfl

end QuickAgentGroups

/-! ### A join until its expiry -/

/-- **A join takes effect until its invite expires**: at every time before, after any calls that do
not leave the group, the group is there and its envelopes are accepted. -/
def TakesEffect (groups : QuickAgentGroups) (invite : QuickAgentGroupInvite) (joined : ℚ) : Prop :=
  ∀ (calls : List TimedGroupCall) (now : ℚ), joined ≤ now → now < invite.expiresAt →
    (calls.Pairwise fun c later => c.now ≤ later.now) →
    (∀ c ∈ calls, joined ≤ c.now ∧ c.now ≤ now) →
    (∀ c ∈ calls, c.call ≠ .leaveGroup invite.groupId) →
      ((groups.run calls).hasGroup invite.groupId now).2 = true ∧
        ((groups.run calls).acceptsEnvelope (some invite.groupId) now).2 = true

/-- **A join holds until its invite expires** exactly when the group has no membership that expires
before it: after any calls, and also one that has expired and was not removed yet. -/
theorem joined_until_expiry_iff (history : List TimedGroupCall) (invite : QuickAgentGroupInvite)
    (verification : Verification) (joined : ℚ) (membership : QuickAgentGroupMembership)
    (hjoined : ((QuickAgentGroups.run .empty history).joinGroup invite verification joined).2
      = .ok membership) :
    TakesEffect ((QuickAgentGroups.run .empty history).joinGroup invite verification joined).1
        invite joined ↔
      ∀ existing, (QuickAgentGroups.run .empty history).get? invite.groupId = some existing →
        invite.expiresAt ≤ existing.invite.expiresAt := by
  generalize QuickAgentGroups.run .empty history = groups at hjoined ⊢
  obtain ⟨-, hbefore, hafter⟩ := QuickAgentGroups.joinGroup_ok hjoined
  constructor
  · intro heffect existing hexisting
    by_contra hearlier
    rcases hafter with ⟨-, hsame⟩ | ⟨hnone, -⟩
    · -- the membership of the group is over first
      have hnow : max joined existing.invite.expiresAt < invite.expiresAt :=
        max_lt hbefore (not_le.mp hearlier)
      obtain ⟨hhas, -⟩ := heffect [] _ (le_max_left _ _) hnow List.Pairwise.nil
        (List.forall_mem_nil _) (List.forall_mem_nil _)
      rw [hsame] at hhas
      have hnot := QuickAgentGroups.not_hasGroup_of_expired hexisting
        (le_max_right joined existing.invite.expiresAt)
      exact Bool.false_ne_true (hnot.symm.trans hhas)
    · rw [hnone] at hexisting
      cases hexisting
  · intro hexisting calls now _ hnow _ hcalls hstay
    have hholds : QuickAgentGroups.Holds (groups.joinGroup invite verification joined).1
        invite.groupId invite.expiresAt := by
      rcases hafter with ⟨hget, hsame⟩ | ⟨-, hinvite, hset⟩
      · rw [hsame]
        exact ⟨membership, hget, hexisting membership hget⟩
      · rw [hset]
        exact ⟨membership, Record.get?_set_self .., by rw [hinvite]⟩
    have hhas := (hholds.run (fun c hc => (hcalls c hc).2.trans_lt hnow) hstay).hasGroup hnow
    exact ⟨hhas, QuickAgentGroups.acceptsEnvelope_of_hasGroup hhas⟩

/-- An invite to a group, until some time. -/
def sampleInvite (expiresAt : ℚ) : QuickAgentGroupInvite where
  groupId := "grp_0"
  issuedBy := "did:agent:zA"
  createdAt := 0
  expiresAt := expiresAt
  discoveryScope := .groupOnly
  signature := "00"

/-- The groups after one join, with an invite until the time 100. -/
def sampleGroups : QuickAgentGroups := .run .empty [⟨.joinGroup (sampleInvite 100) none, 0⟩]

/-- An invite that is over before the membership takes effect. -/
theorem joined_until_expiry_sample :
    TakesEffect (sampleGroups.joinGroup (sampleInvite 80) none 20).1 (sampleInvite 80) 20 := by
  refine (joined_until_expiry_iff [⟨.joinGroup (sampleInvite 100) none, 0⟩] (sampleInvite 80) none
    20 ⟨"grp_0", sampleInvite 100, 0⟩ (by decide +kernel)).mpr ?_
  intro existing hexisting
  have hfirst : sampleGroups.get? (sampleInvite 80).groupId
      = some ⟨"grp_0", sampleInvite 100, 0⟩ := by decide +kernel
  obtain rfl := Option.some.inj (hfirst.symm.trans hexisting)
  decide +kernel

/-- **A join with an invite until 200** resolves, both at the time 50 and at the time 120: the first
time the group is lost at 100, and the second time it is lost at once. -/
theorem join_of_other_invite :
    (sampleGroups.joinGroup (sampleInvite 200) none 50).2 = .ok ⟨"grp_0", sampleInvite 100, 0⟩ ∧
      ¬TakesEffect (sampleGroups.joinGroup (sampleInvite 200) none 50).1 (sampleInvite 200) 50 ∧
      (sampleGroups.joinGroup (sampleInvite 200) none 120).2
        = .ok ⟨"grp_0", sampleInvite 100, 0⟩ ∧
      ¬TakesEffect (sampleGroups.joinGroup (sampleInvite 200) none 120).1
        (sampleInvite 200) 120 := by
  have hlost : ∀ now : ℚ, 100 ≤ now →
      (sampleGroups.hasGroup "grp_0" now).2 = false := by
    intro now hnow
    have hget : sampleGroups.get? "grp_0" = some ⟨"grp_0", sampleInvite 100, 0⟩ := by
      decide +kernel
    exact QuickAgentGroups.not_hasGroup_of_expired hget hnow
  refine ⟨by decide +kernel, fun heffect => ?_, by decide +kernel, fun heffect => ?_⟩
  · have hhas := (heffect [] 100 (by decide +kernel) (by decide +kernel) List.Pairwise.nil
      (List.forall_mem_nil _) (List.forall_mem_nil _)).1
    have hsame : (sampleGroups.joinGroup (sampleInvite 200) none 50).1 = sampleGroups := by
      decide +kernel
    rw [hsame] at hhas
    exact Bool.false_ne_true ((hlost 100 (le_refl _)).symm.trans hhas)
  · have hhas := (heffect [] 120 (le_refl _) (by decide +kernel) List.Pairwise.nil
      (List.forall_mem_nil _) (List.forall_mem_nil _)).1
    have hsame : (sampleGroups.joinGroup (sampleInvite 200) none 120).1 = sampleGroups := by
      decide +kernel
    rw [hsame] at hhas
    exact Bool.false_ne_true ((hlost 120 (by decide +kernel)).symm.trans hhas)

end QuadraA.Protocol
