import QuadraA.Relay.Endorsements

/-!
# What a rejected endorsement leaves behind

`handleEndorse` counts a request and dates its target before it looks at the fields.

* `rejected_endorse_recorded` — no rejection keeps the tables, and for a day after it the target
  and domain are refused as endorsed already;
* `refused_after_rejection` — a valid endorsement that is refused so.

A counter never returns to what it was: it grows within its window, and a new window starts later.
-/

namespace QuadraA.Relay

open QuadraA.Lib

/-! ### Rejections -/

/-- The errors about what an endorsement says. -/
def EndorseError.isContent : EndorseError → Bool
  | rateLimit | duplicate => false
  | _ => true

/-- The events that end the verification of a task. -/
def EndorseEvent.ends (task : ℕ) : EndorseEvent → Prop
  | .refused ended => ended = task
  | .stored ended _ _ _ _ => ended = task
  | _ => False

/-- **A request that is rejected for what it says**: at once, or when its verification ends. -/
inductive ContentRejection (services : EndorseServices) (did : String) (now : ℕ) (e : Endorsement) :
    EndorseState → EndorseState → Prop
  | fields {s s' : EndorseState} {error : EndorseError} :
      error.isContent = true →
      beginEndorse services s did now (some e) = (s', .error (.refused error)) →
      ContentRejection services did now e s s'
  | signature {s begun waiting : EndorseState} {task : ℕ} {events : List EndorseEvent}
      {error : EndorseError} :
      s.pending task = none →
      beginEndorse services s did now (some e) = (begun, .ok e) →
      EndorseRun services (begun.setPending task (some ⟨did, now, e⟩)) events waiting →
      (∀ event ∈ events, ¬event.ends task) →
      checkSignature services e = .error (.refused error) →
      ContentRejection services did now e s (waiting.setPending task none)

/-- **The three tables are as before**, as far as they concern an endorser. -/
structure TablesKept (did : String) (s s' : EndorseState) : Prop where
  endorsements : s'.endorsements = s.endorsements
  endorseDedup : s'.endorseDedup = s.endorseDedup
  endorseCounter : s'.endorseCounters did = s.endorseCounters did

/-- **A later counter**: of a later window, or with more requests in the same one. -/
def Later : Option RateLimitCounter → RateLimitCounter → Prop
  | none, _ => True
  | some c, c' =>
      c.windowStart < c'.windowStart ∨ c.windowStart = c'.windowStart ∧ c.count < c'.count

/-- **What a request leaves behind**: a later counter, and the date of its target and domain. -/
structure Recorded (before : Option RateLimitCounter) (did key : String) (now : ℕ)
    (s : EndorseState) : Prop where
  counted : ∃ counter, s.endorseCounters did = some counter ∧ Later before counter
  dated : ∃ last, s.endorseDedup key = some last ∧ now ≤ last

section

variable {services : EndorseServices} {s s' : EndorseState} {event : EndorseEvent}
  {events : List EndorseEvent} {did key : String} {now later : ℕ} {e e' : Endorsement}
  {before : Option RateLimitCounter}

/-! ### Counters -/

theorem Later.ne {counter : RateLimitCounter} (h : Later before counter) :
    before ≠ some counter := by
  rintro rfl
  rcases h with h | ⟨_, h⟩
  · exact lt_irrefl _ h
  · exact lt_irrefl _ h

theorem Later.trans {c c' : RateLimitCounter} (h : Later before c) (h' : Later (some c) c') :
    Later before c' := by
  cases before with
  | none => exact trivial
  | some b =>
    simp only [Later] at h h' ⊢
    omega

/-- A request that is counted makes the counter of its endorser later, and no other. -/
theorem later_of_count (h : s.count did now = some s') :
    (∃ counter, s'.endorseCounters did = some counter ∧ Later (s.endorseCounters did) counter) ∧
      (∀ other ≠ did, s'.endorseCounters other = s.endorseCounters other) ∧
      s'.endorseDedup = s.endorseDedup := by
  rw [EndorseState.count] at h
  split at h
  · rename_i hnone
    obtain rfl := Option.some.inj h
    refine ⟨⟨_, Function.update_self .., ?_⟩, fun other hne => Function.update_of_ne hne .., rfl⟩
    rw [hnone]
    exact trivial
  · rename_i counter hcounter
    split at h
    · split at h
      · cases h
      · obtain rfl := Option.some.inj h
        refine ⟨⟨_, Function.update_self .., ?_⟩,
          fun other hne => Function.update_of_ne hne .., rfl⟩
        rw [hcounter]
        exact Or.inr ⟨rfl, Nat.lt_succ_self _⟩
    · rename_i hover
      obtain rfl := Option.some.inj h
      refine ⟨⟨_, Function.update_self .., ?_⟩, fun other hne => Function.update_of_ne hne .., rfl⟩
      rw [hcounter]
      refine Or.inl ?_
      show counter.windowStart < now
      have hday : 0 < dayMs := by decide
      omega

/-! ### One request -/

/-- **What is done at once**: nothing, or the request is counted and at most dated, with a date that
it would be refused for within a day. -/
theorem beginEndorse_cases (services : EndorseServices) (s : EndorseState) (did : String) (now : ℕ)
    (endorsement : Option Endorsement) :
    (beginEndorse services s did now endorsement).1 = s ∨
      ∃ counted, s.count did now = some counted ∧
        ((beginEndorse services s did now endorsement).1 = counted ∨
          ∃ key, counted.isDuplicate key now = false ∧
            (beginEndorse services s did now endorsement).1
              = { counted with
                  endorseDedup := Function.update counted.endorseDedup key (some now) }) := by
  rw [beginEndorse]
  split
  · exact Or.inl rfl
  · rename_i counted hcount
    refine Or.inr ⟨counted, hcount, ?_⟩
    split
    · exact Or.inl rfl
    · split
      · exact Or.inl rfl
      · rename_i key _
        split
        · exact Or.inl rfl
        · rename_i hdup
          exact Or.inr ⟨key, Bool.not_eq_true _ ▸ hdup, rfl⟩

/-- A request whose fields are checked was counted, and its target is dated. -/
theorem beginEndorse_checked {result : Except EndorseFailure Endorsement}
    (h : beginEndorse services s did now (some e) = (s', result))
    (hlimit : result ≠ .error (.refused .rateLimit)) (hthrown : result ≠ .error .thrown)
    (hdup : result ≠ .error (.refused .duplicate)) :
    ∃ counted key, s.count did now = some counted ∧ dedupKey services.texts did e = some key ∧
      s' = { counted with
        endorseDedup := Function.update counted.endorseDedup key (some now) } := by
  rw [beginEndorse] at h
  split at h
  · exact absurd (Prod.mk.inj h).2.symm hlimit
  · rename_i counted hcount
    dsimp only at h
    split at h
    · exact absurd (Prod.mk.inj h).2.symm hthrown
    · rename_i key hkey
      split at h
      · exact absurd (Prod.mk.inj h).2.symm hdup
      · exact ⟨counted, key, hcount, hkey, (Prod.mk.inj h).1.symm⟩

theorem recorded_of_begin {result : Except EndorseFailure Endorsement}
    (h : beginEndorse services s did now (some e) = (s', result))
    (hlimit : result ≠ .error (.refused .rateLimit)) (hthrown : result ≠ .error .thrown)
    (hdup : result ≠ .error (.refused .duplicate)) :
    ∃ key, dedupKey services.texts did e = some key ∧
      Recorded (s.endorseCounters did) did key now s' := by
  obtain ⟨counted, key, hcount, hkey, rfl⟩ := beginEndorse_checked h hlimit hthrown hdup
  exact ⟨key, hkey, (later_of_count hcount).1, now, Function.update_self .., le_rfl⟩

/-! ### Runs -/

theorem Recorded.count {other : String} (h : Recorded before did key now s)
    (hcount : s.count other later = some s') : Recorded before did key now s' := by
  obtain ⟨hself, hothers, hdedup⟩ := later_of_count hcount
  refine ⟨?_, hdedup ▸ h.dated⟩
  obtain ⟨counter, hcounter, hlater⟩ := h.counted
  by_cases hother : did = other
  · obtain ⟨next, hnext, hlater'⟩ := hself
    rw [← hother] at hnext hlater'
    rw [hcounter] at hlater'
    exact ⟨next, hnext, hlater.trans hlater'⟩
  · exact ⟨counter, (hothers did hother).trans hcounter, hlater⟩

/-- A date is replaced by a later one only. -/
theorem Recorded.date {key' : String} (h : Recorded before did key now s)
    (hdup : s.isDuplicate key' later = false) :
    Recorded before did key now
      { s with endorseDedup := Function.update s.endorseDedup key' (some later) } := by
  refine ⟨h.counted, ?_⟩
  obtain ⟨last, hlast, hle⟩ := h.dated
  by_cases hkey : key = key'
  · subst hkey
    refine ⟨later, Function.update_self .., ?_⟩
    rw [EndorseState.isDuplicate, hlast] at hdup
    rw [Bool.and_eq_false_iff, decide_eq_false_iff_not, decide_eq_false_iff_not] at hdup
    have hday : 0 < dayMs := by decide
    rcases hdup with hzero | hover <;> omega
  · exact ⟨last, (Function.update_of_ne hkey ..).trans hlast, hle⟩

theorem Recorded.begin (h : Recorded before did key now s) (services : EndorseServices)
    (other : String) (later : ℕ) (endorsement : Option Endorsement) :
    Recorded before did key now (beginEndorse services s other later endorsement).1 := by
  rcases beginEndorse_cases services s other later endorsement with hsame | ⟨counted, hcount, hrest⟩
  · rw [hsame]
    exact h
  · rcases hrest with hcounted | ⟨key', hdup, hdated⟩
    · rw [hcounted]
      exact h.count hcount
    · rw [hdated]
      exact (h.count hcount).date hdup

theorem Recorded.setPending (h : Recorded before did key now s) (task : ℕ)
    (pending : Option PendingEndorsement) :
    Recorded before did key now (s.setPending task pending) :=
  ⟨h.counted, h.dated⟩

/-- **One step** keeps what a request has left. -/
theorem Recorded.step (h : Recorded before did key now s)
    (hstep : EndorseStep services s event s') : Recorded before did key now s' := by
  cases hstep with
  | @refusedAtOnce _ _ other later endorsement failure hbegin =>
    have hnext := h.begin services other later endorsement
    rw [hbegin] at hnext
    exact hnext
  | @verifying begun task other later e' _ hbegin =>
    have hnext := h.begin services other later (some e')
    rw [hbegin] at hnext
    exact hnext.setPending _ _
  | refused _ _ => exact h.setPending _ _
  | notStored _ _ _ => exact h.setPending _ _
  | stored _ _ _ => exact ⟨h.counted, h.dated⟩
  | bootstrapped _ _ => exact ⟨h.counted, h.dated⟩

/-- **A run** keeps what a request has left. -/
theorem Recorded.run (h : Recorded before did key now s)
    (hrun : EndorseRun services s events s') : Recorded before did key now s' := by
  induction hrun with
  | nil => exact h
  | snoc _ hstep ih => exact ih.step hstep

/-- **A rejection leaves a record.** -/
theorem ContentRejection.recorded (h : ContentRejection services did now e s s') :
    ∃ key, dedupKey services.texts did e = some key ∧
      Recorded (s.endorseCounters did) did key now s' := by
  cases h with
  | fields hcontent hbegin =>
    refine recorded_of_begin hbegin ?_ (fun h => by cases h) ?_
    · intro herror
      cases herror
      cases hcontent
    · intro herror
      cases herror
      cases hcontent
  | signature _ hbegin hrun _ _ =>
    obtain ⟨key, hkey, hrecorded⟩ := recorded_of_begin hbegin (fun h => by cases h)
      (fun h => by cases h) (fun h => by cases h)
    exact ⟨key, hkey, ((hrecorded.setPending _ _).run hrun).setPending _ _⟩

/-- Within a day of the record, the target and domain are refused. -/
theorem Recorded.refuses (h : Recorded before did key now s) (hnow : 0 < now)
    (hday : later < now + dayMs) (hkey : dedupKey services.texts did e' = some key) :
    beginEndorse services s did later (some e') ≠ (s', .ok e') := by
  intro hbegin
  rw [beginEndorse] at hbegin
  split at hbegin
  · cases hbegin
  · rename_i counted hcount
    dsimp only at hbegin
    obtain ⟨last, hlast, hle⟩ := (h.count hcount).dated
    have hdup : counted.isDuplicate key later = true := by
      rw [EndorseState.isDuplicate, hlast]
      show (decide (last ≠ 0) && decide (later < last + dayMs)) = true
      rw [Bool.and_eq_true, decide_eq_true_eq, decide_eq_true_eq]
      omega
    rw [hkey] at hbegin
    dsimp only at hbegin
    rw [if_pos hdup] at hbegin
    cases hbegin

end

/-! ### Every rejection -/

/-- **No rejection keeps the tables**: the endorser is counted, and for a day no request of the same
target and domain gets as far as its signature. -/
theorem rejected_endorse_recorded (services : EndorseServices) (did : String) (now : ℕ)
    (e : Endorsement) (s s' : EndorseState) (h : ContentRejection services did now e s s') :
    ¬TablesKept did s s' ∧
      ∀ e' key later s'', dedupKey services.texts did e = some key →
        dedupKey services.texts did e' = some key → 0 < now → later < now + dayMs →
          beginEndorse services s' did later (some e') ≠ (s'', .ok e') := by
  obtain ⟨key, hkey, hrecorded⟩ := h.recorded
  constructor
  · intro hkept
    obtain ⟨counter, hcounter, hlater⟩ := hrecorded.counted
    exact hlater.ne (hkept.endorseCounter ▸ hcounter)
  · intro e' key' later s'' hkey' hsame hnow hday
    rw [hkey] at hkey'
    obtain rfl := Option.some.inj hkey'
    exact hrecorded.refuses hnow hday hsame

/-- A score of two is rejected at once. -/
theorem rejection_sample :
    ContentRejection sampleServices "did:agent:zAlice" 1000 (sampleEndorsement (.finite 2))
      (.starting .empty)
      (beginEndorse sampleServices (.starting .empty) "did:agent:zAlice" 1000
        (some (sampleEndorsement (.finite 2)))).1 :=
  @ContentRejection.fields _ _ _ _ _ _ .score rfl rfl

/-- The rejection of a score of two keeps no tables, and what follows it is refused. -/
theorem rejected_endorse_recorded_sample :
    ¬TablesKept "did:agent:zAlice" (.starting .empty)
        (beginEndorse sampleServices (.starting .empty) "did:agent:zAlice" 1000
          (some (sampleEndorsement (.finite 2)))).1 ∧
      ∀ s'', beginEndorse sampleServices
        (beginEndorse sampleServices (.starting .empty) "did:agent:zAlice" 1000
          (some (sampleEndorsement (.finite 2)))).1 "did:agent:zAlice" 2000
        (some (sampleEndorsement (.finite 1))) ≠ (s'', .ok (sampleEndorsement (.finite 1))) := by
  have h := rejected_endorse_recorded sampleServices "did:agent:zAlice" 1000
    (sampleEndorsement (.finite 2)) _ _ rejection_sample
  exact ⟨h.1, fun s'' => h.2 _ "did:agent:zAlice:did:agent:zBob:*" 2000 s'' rfl rfl (by decide)
    (by decide)⟩

/-- **A valid endorsement is refused** as endorsed already, because one with a score of two was
rejected before it; without that one it is stored. -/
theorem refused_after_rejection :
    ∃ rejected : EndorseState,
      ContentRejection sampleServices "did:agent:zAlice" 1000 (sampleEndorsement (.finite 2))
        (.starting .empty) rejected ∧
      ¬TablesKept "did:agent:zAlice" (.starting .empty) rejected ∧
      (beginEndorse sampleServices rejected "did:agent:zAlice" 1000
          (some (sampleEndorsement (.finite 1)))).2 = .error (.refused .duplicate) ∧
      ∃ s, EndorseRun sampleServices (.starting .empty)
        [.received 0 "did:agent:zAlice" 1000 (some (sampleEndorsement (.finite 1))),
          .stored 0 "did:agent:zAlice" 1000 (sampleEndorsement (.finite 1)) 2000] s := by
  refine ⟨_, rejection_sample, ?_, rfl, ?_⟩
  · intro hkept
    exact absurd hkept.endorseCounter (fun h => by cases h)
  · obtain ⟨s, hrun, _⟩ := @stored_run (.finite 1) rfl
    exact ⟨s, hrun⟩

end QuadraA.Relay
