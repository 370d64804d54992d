import Mathlib.Data.Nat.Init
import QuadraA.Lib.Updates

/-!
# Locks by promise chains

A lock for each key, kept as the promise that its last caller will resolve.  A call waits for the
promise that it finds under its key and leaves its own there; when it leaves its critical section it
takes its promise away again, if no later call has replaced it.  Calls are numbered in the order in
which they came.

* `LockChains`, `ChainStep`: the promises, and what a call does to them;
* `Chained.can_start`: a call whose predecessors have left is not blocked, however they have left.
-/

set_option linter.unusedSectionVars false

namespace QuadraA.Lib

universe u v

/-- Where a call stands, with what its section still has to do. -/
inductive ChainPhase (β : Type v) where
  | waiting (body : β)
  | inside (body : β)
  | left

/-- A call, with the call whose promise it waits for. -/
structure ChainCall (κ : Type u) (β : Type v) where
  key : κ
  previous : Option ℕ
  phase : ChainPhase β

structure LockChains (κ : Type u) (β : Type v) where
  chains : κ → Option ℕ
  calls : ℕ → Option (ChainCall κ β)
  count : ℕ

section

variable {κ : Type u} {β : Type v} [DecidableEq κ]

namespace LockChains

/-- No call has been made. -/
def idle : LockChains κ β := ⟨fun _ => none, fun _ => none, 0⟩

def call (s : LockChains κ β) (key : κ) (body : β) : LockChains κ β where
  chains := Function.update s.chains key (some s.count)
  calls := Function.update s.calls s.count (some ⟨key, s.chains key, .waiting body⟩)
  count := s.count + 1

def setPhase (s : LockChains κ β) (i : ℕ) (key : κ) (previous : Option ℕ)
    (phase : ChainPhase β) : LockChains κ β :=
  { s with calls := Function.update s.calls i (some ⟨key, previous, phase⟩) }

/-- The promise is taken away if it is still the last one of its key. -/
def release (s : LockChains κ β) (i : ℕ) (key : κ) : LockChains κ β :=
  { s with
    chains := if s.chains key = some i then Function.update s.chains key none else s.chains }

/-- The promise of a call is resolved. -/
def Left (s : LockChains κ β) (i : ℕ) : Prop :=
  ∃ key previous, s.calls i = some ⟨key, previous, .left⟩

end LockChains

/-- **What a call does** to the promises. -/
inductive ChainStep (s : LockChains κ β) : LockChains κ β → Prop
  | called {key : κ} {body : β} : ChainStep s (s.call key body)
  | started {i : ℕ} {key : κ} {previous : Option ℕ} {body body' : β} :
      s.calls i = some ⟨key, previous, .waiting body⟩ →
      (∀ j, previous = some j → s.Left j) →
      ChainStep s (s.setPhase i key previous (.inside body'))
  | moved {i : ℕ} {key : κ} {previous : Option ℕ} {body body' : β} :
      s.calls i = some ⟨key, previous, .inside body⟩ →
      ChainStep s (s.setPhase i key previous (.inside body'))
  | left {i : ℕ} {key : κ} {previous : Option ℕ} {body : β} :
      s.calls i = some ⟨key, previous, .inside body⟩ →
      ChainStep s ((s.setPhase i key previous .left).release i key)

/-- **The invariant of the promises.** -/
structure Chained (s : LockChains κ β) : Prop where
  fresh : ∀ i call, s.calls i = some call → i < s.count
  free : ∀ key, s.chains key = none → ∀ i call, s.calls i = some call → call.key = key → s.Left i
  last : ∀ key j, s.chains key = some j → (∃ call, s.calls j = some call ∧ call.key = key) ∧
    ∀ i call, s.calls i = some call → call.key = key → i ≤ j
  first : ∀ i call, s.calls i = some call → call.previous = none →
    ∀ j call', j < i → s.calls j = some call' → call'.key = call.key → s.Left j
  link : ∀ i call j, s.calls i = some call → call.previous = some j →
    j < i ∧ (∃ call', s.calls j = some call' ∧ call'.key = call.key) ∧
      ∀ k call', k < i → s.calls k = some call' → call'.key = call.key → k ≤ j
  turn : ∀ i call, s.calls i = some call → (∀ body, call.phase ≠ .waiting body) →
    ∀ j call', j < i → s.calls j = some call' → call'.key = call.key → s.Left j

variable {s s' : LockChains κ β} {i : ℕ} {key : κ} {previous : Option ℕ}
  {phase phase' : ChainPhase β} {body : β}

theorem Chained.idle : Chained (LockChains.idle : LockChains κ β) :=
  ⟨nofun, fun _ _ => nofun, nofun, nofun, nofun, nofun⟩

/-! ### Phases -/

theorem LockChains.calls_setPhase {j : ℕ} {call : ChainCall κ β}
    (h : (s.setPhase i key previous phase').calls j = some call) :
    j = i ∧ call = ⟨key, previous, phase'⟩ ∨ j ≠ i ∧ s.calls j = some call := by
  dsimp only [LockChains.setPhase] at h
  rcases update_apply_eq_iff.mp h with ⟨hj, h⟩ | ⟨hj, h⟩
  · exact Or.inl ⟨hj, (Option.some.inj h).symm⟩
  · exact Or.inr ⟨hj, h⟩

/-- A call stays what it was called with. -/
theorem LockChains.calls_of_setPhase {j : ℕ} {call : ChainCall κ β}
    (hi : s.calls i = some ⟨key, previous, phase⟩)
    (h : (s.setPhase i key previous phase').calls j = some call) :
    ∃ call', s.calls j = some call' ∧ call'.key = call.key ∧ call'.previous = call.previous := by
  rcases calls_setPhase h with ⟨rfl, rfl⟩ | ⟨_, hother⟩
  · exact ⟨_, hi, rfl, rfl⟩
  · exact ⟨call, hother, rfl, rfl⟩

/-- A call that has left stays away. -/
theorem LockChains.Left.setPhase {j : ℕ} (h : s.Left j)
    (hi : s.calls i = some ⟨key, previous, phase⟩) (hphase : phase ≠ .left) :
    (s.setPhase i key previous phase').Left j := by
  obtain ⟨key', previous', hj⟩ := h
  have hne : j ≠ i := by
    rintro rfl
    rw [hi] at hj
    cases hj
    exact hphase rfl
  exact ⟨key', previous', (Function.update_of_ne hne _ _).trans hj⟩

/-- **A change of phase** keeps the promises, if a call that goes on has its turn. -/
theorem Chained.setPhase (h : Chained s) (hi : s.calls i = some ⟨key, previous, phase⟩)
    (hphase : phase ≠ .left)
    (hturn : ∀ j call, j < i → s.calls j = some call → call.key = key → s.Left j) :
    Chained (s.setPhase i key previous phase') := by
  have hold {j : ℕ} {call : ChainCall κ β}
      (hj : (s.setPhase i key previous phase').calls j = some call) :=
    LockChains.calls_of_setPhase hi hj
  have hkey {j : ℕ} {key' : κ} (hj : ∃ call, s.calls j = some call ∧ call.key = key') :
      ∃ call, (s.setPhase i key previous phase').calls j = some call ∧ call.key = key' := by
    obtain ⟨call, hj, rfl⟩ := hj
    by_cases hji : j = i
    · subst hji
      rw [hi] at hj
      cases hj
      exact ⟨_, Function.update_self .., rfl⟩
    · exact ⟨call, (Function.update_of_ne hji _ _).trans hj, rfl⟩
  refine ⟨fun j call hj => ?_, fun key' hchain j call hj hsame => ?_, fun key' k hchain => ?_,
    fun j call hj hnone k call'' hlt hk hsame => ?_, fun j call k hj hsome => ?_,
    fun j call hj hgoes k call'' hlt hk hsame => ?_⟩
  · obtain ⟨call', hj', _⟩ := hold hj
    exact h.fresh j call' hj'
  · obtain ⟨call', hj', hkey', _⟩ := hold hj
    exact (h.free key' hchain j call' hj' (hkey'.trans hsame)).setPhase hi hphase
  · obtain ⟨hlast, hmax⟩ := h.last key' k hchain
    refine ⟨hkey hlast, fun j call hj hsame => ?_⟩
    obtain ⟨call', hj', hkey', _⟩ := hold hj
    exact hmax j call' hj' (hkey'.trans hsame)
  · obtain ⟨call', hj', hkey', hprevious⟩ := hold hj
    obtain ⟨call₀, hk', hkey₀, _⟩ := hold hk
    exact (h.first j call' hj' (hprevious.trans hnone) k call₀ hlt hk'
      (hkey₀.trans (hsame.trans hkey'.symm))).setPhase hi hphase
  · obtain ⟨call', hj', hkey', hprevious⟩ := hold hj
    obtain ⟨hlt, hlast, hmax⟩ := h.link j call' k hj' (hprevious.trans hsome)
    refine ⟨hlt, hkey (hkey' ▸ hlast), fun m call'' hltm hm hsame => ?_⟩
    obtain ⟨call₀, hm', hkey₀, _⟩ := hold hm
    exact hmax m call₀ hltm hm' (hkey₀.trans (hsame.trans hkey'.symm))
  · obtain ⟨call₀, hk', hkey₀, _⟩ := hold hk
    rcases LockChains.calls_setPhase hj with ⟨rfl, rfl⟩ | ⟨_, hother⟩
    · exact (hturn k call₀ hlt hk' (hkey₀.trans hsame)).setPhase hi hphase
    · exact (h.turn j call hother hgoes k call₀ hlt hk' (hkey₀.trans hsame)).setPhase hi hphase

/-- The last call of a key takes its promise away when every call of the key has left. -/
theorem Chained.release (h : Chained s)
    (hleft : s.chains key = some i → ∀ j call, s.calls j = some call → call.key = key →
      s.Left j) : Chained (s.release i key) := by
  refine ⟨h.fresh, fun key' hchain j call hj hsame => ?_, fun key' k hchain => ?_, h.first, h.link,
    h.turn⟩
  · dsimp only [LockChains.release] at hchain
    split at hchain
    · rename_i hlast
      by_cases hkey : key' = key
      · exact hleft hlast j call hj (hsame.trans hkey)
      · rw [Function.update_of_ne hkey] at hchain
        exact h.free key' hchain j call hj hsame
    · exact h.free key' hchain j call hj hsame
  · dsimp only [LockChains.release] at hchain
    split at hchain
    · rcases update_apply_eq_iff.mp hchain with ⟨_, hchain⟩ | ⟨_, hchain⟩
      · cases hchain
      · exact h.last key' k hchain
    · exact h.last key' k hchain

/-- A new call waits for the last one of its key. -/
theorem Chained.call (h : Chained s) (key : κ) (body : β) : Chained (s.call key body) := by
  have hold {j : ℕ} {call : ChainCall κ β} (hj : s.calls j = some call) :
      (s.call key body).calls j = some call :=
    (Function.update_of_ne (Nat.ne_of_lt (h.fresh j call hj)) _ _).trans hj
  have hcases {j : ℕ} {call : ChainCall κ β} (hj : (s.call key body).calls j = some call) :
      j = s.count ∧ call = ⟨key, s.chains key, .waiting body⟩ ∨
        j < s.count ∧ s.calls j = some call := by
    dsimp only [LockChains.call] at hj
    rcases update_apply_eq_iff.mp hj with ⟨hjc, hj⟩ | ⟨_, hj⟩
    · exact Or.inl ⟨hjc, (Option.some.inj hj).symm⟩
    · exact Or.inr ⟨h.fresh j call hj, hj⟩
  have hleft {j : ℕ} (hj : s.Left j) : (s.call key body).Left j := by
    obtain ⟨key', previous', hj⟩ := hj
    exact ⟨key', previous', hold hj⟩
  refine ⟨fun j call hj => ?_, fun key' hchain j call hj hsame => ?_, fun key' k hchain => ?_,
    fun j call hj hnone k call' hlt hk hsame => ?_, fun j call k hj hsome => ?_,
    fun j call hj hgoes k call' hlt hk hsame => ?_⟩
  · show j < s.count + 1
    rcases hcases hj with ⟨rfl, _⟩ | ⟨hlt, _⟩ <;> omega
  · dsimp only [LockChains.call] at hchain
    rcases update_apply_eq_iff.mp hchain with ⟨_, hchain⟩ | ⟨hkey, hchain⟩
    · cases hchain
    · rcases hcases hj with ⟨_, rfl⟩ | ⟨_, hj'⟩
      · exact absurd hsame.symm hkey
      · exact hleft (h.free key' hchain j call hj' hsame)
  · dsimp only [LockChains.call] at hchain
    rcases update_apply_eq_iff.mp hchain with ⟨rfl, hwritten⟩ | ⟨hkey, hchain⟩
    · obtain rfl := Option.some.inj hwritten
      refine ⟨⟨_, Function.update_self .., rfl⟩, fun j call hj _ => ?_⟩
      rcases hcases hj with ⟨rfl, _⟩ | ⟨hlt, _⟩ <;> omega
    · obtain ⟨⟨call, hk, hkey'⟩, hmax⟩ := h.last key' k hchain
      refine ⟨⟨call, hold hk, hkey'⟩, fun j call' hj hsame => ?_⟩
      rcases hcases hj with ⟨_, rfl⟩ | ⟨_, hj'⟩
      · exact absurd hsame.symm hkey
      · exact hmax j call' hj' hsame
  · rcases hcases hk with ⟨rfl, _⟩ | ⟨_, hk'⟩
    · rcases hcases hj with ⟨rfl, _⟩ | ⟨hltj, _⟩ <;> omega
    · rcases hcases hj with ⟨_, rfl⟩ | ⟨_, hj'⟩
      · exact hleft (h.free key hnone k call' hk' hsame)
      · exact hleft (h.first j call hj' hnone k call' hlt hk' hsame)
  · rcases hcases hj with ⟨rfl, rfl⟩ | ⟨_, hj'⟩
    · obtain ⟨⟨call', hk, hkey'⟩, hmax⟩ := h.last key k hsome
      refine ⟨h.fresh k call' hk, ⟨call', hold hk, hkey'⟩, fun m call'' hlt hm hsame => ?_⟩
      rcases hcases hm with ⟨rfl, _⟩ | ⟨_, hm'⟩
      · omega
      · exact hmax m call'' hm' hsame
    · obtain ⟨hltk, ⟨call', hk, hkey'⟩, hmax⟩ := h.link j call k hj' hsome
      refine ⟨hltk, ⟨call', hold hk, hkey'⟩, fun m call'' hltm hm hsame => ?_⟩
      rcases hcases hm with ⟨rfl, _⟩ | ⟨_, hm'⟩
      · have hltj := h.fresh j call hj'
        omega
      · exact hmax m call'' hltm hm' hsame
  · rcases hcases hj with ⟨_, rfl⟩ | ⟨hltj, hj'⟩
    · exact absurd rfl (hgoes body)
    · rcases hcases hk with ⟨rfl, _⟩ | ⟨_, hk'⟩
      · omega
      · exact hleft (h.turn j call hj' hgoes k call' hlt hk' hsame)

/-! ### Turns -/

/-- A call whose promise is resolved, or that found none, has no earlier call before it. -/
theorem Chained.turn_of_resolved (h : Chained s) (hi : s.calls i = some ⟨key, previous, phase⟩)
    (hresolved : ∀ j, previous = some j → s.Left j) :
    ∀ j call, j < i → s.calls j = some call → call.key = key → s.Left j := by
  intro j call hlt hj hsame
  cases previous with
  | none => exact h.first i _ hi rfl j call hlt hj hsame
  | some k =>
    obtain ⟨_, ⟨call', hk, hkey'⟩, hmax⟩ := h.link i _ k hi rfl
    have hleft := hresolved k rfl
    rcases Nat.lt_or_eq_of_le (hmax j call hlt hj hsame) with hjk | rfl
    · -- the call that was waited for has had its turn
      obtain ⟨key₀, previous₀, hk₀⟩ := hleft
      obtain rfl : call' = ⟨key₀, previous₀, .left⟩ := Option.some.inj (hk.symm.trans hk₀)
      exact h.turn k _ hk₀ nofun j call hjk hj (hsame.trans hkey'.symm)
    · exact hleft

/-- **Every step keeps the promises.** -/
theorem Chained.step (h : Chained s) (hstep : ChainStep s s') : Chained s' := by
  cases hstep with
  | called => exact h.call _ _
  | started hi hresolved => exact h.setPhase hi nofun (h.turn_of_resolved hi hresolved)
  | moved hi => exact h.setPhase hi nofun (h.turn _ _ hi nofun)
  | @left i key previous body hi =>
    have hturn := h.turn _ _ hi nofun
    refine (h.setPhase hi nofun hturn).release fun hchain j call hj hsame => ?_
    obtain ⟨call', hj', hkey', _⟩ := LockChains.calls_of_setPhase hi hj
    rcases Nat.lt_or_eq_of_le ((h.last key i hchain).2 j call' hj' (hkey'.trans hsame)) with
      hlt | rfl
    · exact (hturn j call' hlt hj' (hkey'.trans hsame)).setPhase hi nofun
    · exact ⟨key, previous, Function.update_self ..⟩

/-- **No call is blocked** by the calls of its key that have left, nor by those of other keys. -/
theorem Chained.can_start (h : Chained s) (hi : s.calls i = some ⟨key, previous, .waiting body⟩)
    (hleft : ∀ j call, j < i → s.calls j = some call → call.key = key → s.Left j) :
    ∀ j, previous = some j → s.Left j := by
  rintro j rfl
  obtain ⟨hlt, ⟨call, hj, hkey⟩, _⟩ := h.link i _ j hi rfl
  exact hleft j call hlt hj hkey

/-- Two calls of one key are not inside at once. -/
theorem Chained.exclusive (h : Chained s) {j : ℕ} {previous' : Option ℕ} {body' : β}
    (hi : s.calls i = some ⟨key, previous, .inside body⟩)
    (hj : s.calls j = some ⟨key, previous', .inside body'⟩) : i = j := by
  rcases Nat.lt_trichotomy i j with hlt | heq | hgt
  · obtain ⟨_, _, hleft⟩ := h.turn j _ hj nofun i _ hlt hi rfl
    rw [hi] at hleft
    cases hleft
  · exact heq
  · obtain ⟨_, _, hleft⟩ := h.turn i _ hi nofun j _ hgt hj rfl
    rw [hj] at hleft
    cases hleft

end

end QuadraA.Lib
