import Mathlib.Data.Finset.Card
import QuadraA.Relay.HeldSockets

/-!
# Admission by invite tokens

`relay/src/token.ts`, `relay/src/revocation.ts`, the commands of `relay/src/cli-token.ts` that
revoke tokens, and the part of `handleHello` that admits an agent to a private relay.

* `admission_bounded` — both bounds, in every run of timely steps;
* `token_overdrawn` — a late close event lets one agent too many in, and the clean-up of the list
  lets a revoked token in.

The operator signs one payload for each jti, and `Date.now()` does not go back.
-/

set_option linter.unusedSectionVars false

namespace QuadraA.Relay

open QuadraA.Lib

/-! ### Tokens -/

/-- A payload, without its jti.  `exp` is in seconds. -/
structure TokenPayload where
  sub : String
  realm : String
  exp : ℕ
  maxAgents : Option ℤ

inductive TokenError where
  | INVALID_FORMAT
  | INVALID_SIGNATURE
  | EXPIRED
deriving DecidableEq

/-- The payloads that the operator has signed, by their jti. -/
abbrev IssuedTokens := String → Option TokenPayload

/-- What a HELLO carries: the jti of a token, or why its text is none. -/
abbrev InviteToken := Except TokenError String

def verifyInviteToken (issued : IssuedTokens) (token : InviteToken) (now : ℕ) :
    Except TokenError (String × TokenPayload) :=
  match token with
  | .error error => .error error
  | .ok jti =>
      match issued jti with
      | none => .error .INVALID_SIGNATURE
      | some payload =>
          if payload.exp < now / 1000 then .error .EXPIRED else .ok (jti, payload)

/-! ### The revocation list -/

/-- The entries of a `RevocationList` with their `originalExp`. -/
abbrev RevocationList := String → Option ℕ

namespace RevocationList

/-- "Remove entries whose original token has already expired". -/
def gc (entries : RevocationList) (now : ℕ) : RevocationList := fun jti =>
  match entries jti with
  | none => none
  | some originalExp => if originalExp < now / 1000 then none else some originalExp

def load (file : RevocationList) (now : ℕ) : RevocationList := file.gc now

def revoke (entries : RevocationList) (jti : String) (originalExp : ℕ) : RevocationList :=
  Function.update entries jti (some originalExp)

def isRevoked (entries : RevocationList) (jti : String) : Bool := (entries jti).isSome

/-- `cmdRevoke` and `cmdRotate`: the tokens with the expiry that the token store has of them. -/
def revokeTokens (issued : IssuedTokens) (entries : RevocationList) (jtis : List String) :
    RevocationList :=
  jtis.foldl (fun entries jti =>
    match issued jti with
    | some payload => entries.revoke jti payload.exp
    | none => entries) entries

variable {entries : RevocationList} {jti : String}

theorem gc_eq_some {now exp : ℕ} :
    entries.gc now jti = some exp ↔ entries jti = some exp ∧ ¬exp < now / 1000 := by
  rw [gc]
  cases entries jti with
  | none => exact ⟨nofun, fun h => nomatch h.1⟩
  | some originalExp =>
    dsimp only
    by_cases hexpired : originalExp < now / 1000
    · rw [if_pos hexpired]
      refine ⟨nofun, fun ⟨hexp, hlive⟩ => ?_⟩
      cases hexp
      exact absurd hexpired hlive
    · rw [if_neg hexpired]
      refine ⟨fun hexp => ?_, fun h => h.1⟩
      cases hexp
      exact ⟨rfl, hexpired⟩

/-- **The revoked tokens are listed**, beside those that were. -/
theorem revokeTokens_eq_some {issued : IssuedTokens} {jtis : List String} {payload : TokenPayload}
    (hissued : issued jti = some payload) (hlisted : entries jti = some payload.exp ∨ jti ∈ jtis) :
    revokeTokens issued entries jtis jti = some payload.exp := by
  induction jtis generalizing entries with
  | nil =>
    rcases hlisted with hlisted | hmem
    · exact hlisted
    · exact absurd hmem List.not_mem_nil
  | cons first rest ih =>
    rw [revokeTokens, List.foldl_cons]
    refine ih ?_
    by_cases hfirst : first = jti
    · rw [hfirst, hissued]
      exact Or.inl (Function.update_self ..)
    · rcases hlisted with hlisted | hmem
      · refine Or.inl ?_
        cases issued first with
        | none => exact hlisted
        | some payload' => exact (Function.update_of_ne (Ne.symm hfirst) ..).trans hlisted
      · exact Or.inr ((List.mem_cons.mp hmem).resolve_left (Ne.symm hfirst))

end RevocationList

/-! ### Admission -/

/-- What `handleHello` decides after the list is loaded: the realm, or the close code. -/
def admitToken (payload : TokenPayload) (revoked : Bool) (did : String) (currentUsage : ℕ) :
    Except ℕ String :=
  if revoked then .error 4013
  else if payload.sub ≠ "*" ∧ payload.sub ≠ did then .error 4014
  else
    match payload.maxAgents with
    | some maxAgents =>
        if 0 < maxAgents ∧ maxAgents ≤ (currentUsage : ℤ) then .error 4015 else .ok payload.realm
    | none => .ok payload.realm

/-- Where the token check of a HELLO stands. -/
inductive TokenPhase where
  | received (token : Option InviteToken)
  | verified (jti : String)
  | listRead (jti : String) (file : RevocationList)

/-- **A private relay.**  `tokenJti` belongs to the `RegisteredAgent` objects; `commands` are those
that have loaded the revocation list; `admitted` is the jti under which a socket was registered. -/
structure AdmissionState (W C : Type) where
  conn : ConnectionState W
  tokenJti : ℕ → Option String
  tokens : W → Option TokenPhase
  admitted : W → Option String
  file : RevocationList
  commands : C → Option RevocationList
  clock : ℕ

inductive AdmissionEvent (W C : Type) where
  | helloReceived (ws : W) (did : String) (token : Option InviteToken)
  | verified (ws : W) (now : ℕ)
  | listRead (ws : W)
  | registered (ws : W) (realm : String) (now : ℕ)
  | connection (event : ConnectionEvent W)
  | commandLoaded (command : C) (now : ℕ)
  | commandSaved (command : C) (jtis : List String) (now : ℕ)

section

variable {W C : Type} [DecidableEq W] [DecidableEq C]

/-- The objects of the registry are those that it has under their DID. -/
def AdmissionState.countOnlineByTokenJti (s : AdmissionState W C) (jti excludeDid : String) : ℕ :=
  ((List.range s.conn.count).filter fun ref =>
    s.conn.registry (s.conn.agents ref).did = some ref ∧ (s.conn.agents ref).online = true ∧
      (s.conn.agents ref).did ≠ excludeDid ∧ s.tokenJti ref = some jti).length

/-- **What happens between two `await`s.**  What follows the reading of the file, from `load()` to
the registration, is one step; a rejected HELLO is a step of the connections. -/
inductive AdmissionStep (issued : IssuedTokens) (s : AdmissionState W C) :
    AdmissionEvent W C → AdmissionState W C → Prop
  | helloReceived {ws : W} {did : String} {token : Option InviteToken}
      {conn : ConnectionState W} :
      ConnectionStep s.conn (.helloReceived ws did) conn →
      AdmissionStep issued s (.helloReceived ws did token)
        { s with conn := conn, tokens := Function.update s.tokens ws (some (.received token)) }
  | verified {ws : W} {token : InviteToken} {jti : String} {payload : TokenPayload} {now : ℕ} :
      s.tokens ws = some (.received (some token)) → s.clock ≤ now →
      verifyInviteToken issued token now = .ok (jti, payload) →
      AdmissionStep issued s (.verified ws now)
        { s with tokens := Function.update s.tokens ws (some (.verified jti)), clock := now }
  | listRead {ws : W} {jti : String} :
      s.tokens ws = some (.verified jti) →
      AdmissionStep issued s (.listRead ws)
        { s with tokens := Function.update s.tokens ws (some (.listRead jti s.file)) }
  | registered {ws : W} {did jti realm : String} {file : RevocationList} {payload : TokenPayload}
      {now : ℕ} {conn : ConnectionState W} :
      s.conn.connections ws = ⟨none, some (.verifying did)⟩ →
      s.tokens ws = some (.listRead jti file) → issued jti = some payload → s.clock ≤ now →
      admitToken payload ((RevocationList.load file now).isRevoked jti) did
        (s.countOnlineByTokenJti jti did) = .ok realm →
      ConnectionStep s.conn (.registered ws realm now) conn →
      AdmissionStep issued s (.registered ws realm now)
        { s with
          conn := conn
          tokenJti := Function.update s.tokenJti s.conn.count (some jti)
          admitted := Function.update s.admitted ws (some jti)
          clock := now }
  | connection {event : ConnectionEvent W} {conn : ConnectionState W} :
      (∀ ws did, event ≠ .helloReceived ws did) →
      (∀ ws realm now, event ≠ .registered ws realm now) → ConnectionStep s.conn event conn →
      AdmissionStep issued s (.connection event) { s with conn := conn }
  | commandLoaded {command : C} {now : ℕ} :
      s.clock ≤ now →
      AdmissionStep issued s (.commandLoaded command now)
        { s with
          commands := Function.update s.commands command (some (RevocationList.load s.file now))
          clock := now }
  | commandSaved {command : C} {list : RevocationList} {jtis : List String} {now : ℕ} :
      s.commands command = some list → s.clock ≤ now →
      AdmissionStep issued s (.commandSaved command jtis now)
        { s with
          file := (RevocationList.revokeTokens issued list jtis).gc now
          commands := Function.update s.commands command none
          clock := now }

variable {issued : IssuedTokens} {s s' start : AdmissionState W C} {event : AdmissionEvent W C}
  {events : List (AdmissionEvent W C)} {jti did : String} {payload : TokenPayload} {ws : W}

/-- The event of the connections that an event is. -/
def AdmissionEvent.onConnections : AdmissionEvent W C → Option (ConnectionEvent W)
  | .helloReceived ws did _ => some (.helloReceived ws did)
  | .registered ws realm now => some (.registered ws realm now)
  | .connection event => some event
  | _ => none

/-- **The condition of a step.**  The close event of a replaced socket does not come while its DID
is registered under an open one; the token of a HELLO has not expired when its agent is registered;
and a command that saves the list has loaded all that the file lists. -/
def TimelyStep (issued : IssuedTokens) (s : AdmissionState W C) (event : AdmissionEvent W C)
    (s' : AdmissionState W C) : Prop :=
  AdmissionStep issued s event s' ∧
    (∀ event', event.onConnections = some event' → s.conn.Outlives event') ∧
    (∀ ws realm now jti file payload, event = .registered ws realm now →
      s.tokens ws = some (.listRead jti file) → issued jti = some payload →
        ¬payload.exp < now / 1000) ∧
    ∀ command jtis now list jti exp, event = .commandSaved command jtis now →
      s.commands command = some list → s.file jti = some exp → ¬exp < now / 1000 →
        list jti = some exp

/-- A relay that no agent has connected to. -/
def AdmissionState.Starting (s : AdmissionState W C) : Prop := s.conn.Starting

/-- **A DID holds an open socket** that was admitted under a jti. -/
def AdmissionState.Holds (s : AdmissionState W C) (jti did : String) : Prop :=
  ∃ ws, s.conn.Knows ws did ∧ s.conn.readyState ws = .OPEN ∧ s.admitted ws = some jti

/-- A command has revoked the token. -/
def Revoked (events : List (AdmissionEvent W C)) (jti : String) : Prop :=
  ∃ command jtis now, .commandSaved command jtis now ∈ events ∧ jti ∈ jtis

/-! ### Agents of a token -/

/-- **No token has more agents under open sockets than it may have**, and the registry has an open
socket under the jti that it was admitted with. -/
structure WithinTokens (issued : IssuedTokens) (s : AdmissionState W C) : Prop where
  held : Held s.conn
  same : ∀ ws did ref, s.conn.Knows ws did → s.conn.Reaches did ref ws →
    s.tokenJti ref = s.admitted ws
  within : ∀ jti payload maxAgents (dids : Finset String), issued jti = some payload →
    payload.maxAgents = some maxAgents → 0 < maxAgents → (∀ did ∈ dids, s.Holds jti did) →
      (dids.card : ℤ) ≤ maxAgents

/-- **The agents of a token are counted**, but for the one that connects. -/
theorem WithinTokens.card_le (h : WithinTokens issued s) {dids : Finset String}
    (hholds : ∀ did' ∈ dids, s.Holds jti did' ∧ did' ≠ did) :
    dids.card ≤ s.countOnlineByTokenJti jti did := by
  set counted := (List.range s.conn.count).filter fun ref =>
    s.conn.registry (s.conn.agents ref).did = some ref ∧ (s.conn.agents ref).online = true ∧
      (s.conn.agents ref).did ≠ did ∧ s.tokenJti ref = some jti with hcounted
  have hsub : dids ⊆ counted.toFinset.image fun ref => (s.conn.agents ref).did := by
    intro did' hmem
    obtain ⟨⟨ws, hknows, hopen, hadmitted⟩, hne⟩ := hholds did' hmem
    obtain ⟨ref, hreaches⟩ := h.held.held ws did' hknows hopen
    have hjti : s.tokenJti ref = some jti := (h.same ws did' ref hknows hreaches).trans hadmitted
    obtain ⟨hlt, hdid, honline⟩ := h.held.live did' ref hreaches.1
    refine Finset.mem_image.mpr ⟨ref, ?_, hdid⟩
    rw [List.mem_toFinset, hcounted, List.mem_filter]
    refine ⟨List.mem_range.mpr hlt, decide_eq_true ?_⟩
    rw [hdid]
    exact ⟨hreaches.1, honline (hreaches.2.1.symm ▸ hopen), hne, hjti⟩
  calc dids.card ≤ (counted.toFinset.image fun ref => (s.conn.agents ref).did).card :=
        Finset.card_le_card hsub
    _ ≤ counted.toFinset.card := Finset.card_image_le
    _ ≤ counted.length := List.toFinset_card_le _

variable {revoked : Bool} {realm : String}

theorem usage_of_admitted {currentUsage : ℕ}
    (hadmitted : admitToken payload revoked did currentUsage = .ok realm) :
    revoked = false ∧ ∀ maxAgents, payload.maxAgents = some maxAgents → 0 < maxAgents →
      (currentUsage : ℤ) < maxAgents := by
  rw [admitToken] at hadmitted
  cases revoked with
  | true =>
    rw [if_pos rfl] at hadmitted
    cases hadmitted
  | false =>
    refine ⟨rfl, fun maxAgents hmax hpos => ?_⟩
    rw [if_neg Bool.false_ne_true] at hadmitted
    split at hadmitted
    · cases hadmitted
    rw [hmax] at hadmitted
    dsimp only at hadmitted
    split at hadmitted
    · cases hadmitted
    · rename_i hnot
      omega

/-- Nothing changes about connections and tokens. -/
theorem WithinTokens.of_eq (h : WithinTokens issued s) (hconn : s'.conn = s.conn)
    (hjti : s'.tokenJti = s.tokenJti) (hadmitted : s'.admitted = s.admitted) :
    WithinTokens issued s' := by
  refine ⟨hconn ▸ h.held, fun ws did ref hknows hreaches => ?_,
    fun jti payload maxAgents dids hissued hmax hpos hholds => ?_⟩
  · rw [hconn] at hknows hreaches
    rw [hjti, hadmitted]
    exact h.same ws did ref hknows hreaches
  · refine h.within jti payload maxAgents dids hissued hmax hpos fun did hmem => ?_
    obtain ⟨ws, hknows, hopen, htoken⟩ := hholds did hmem
    exact ⟨ws, hconn ▸ hknows, hconn ▸ hopen, hadmitted ▸ htoken⟩

/-- **No registration**: no DID comes to hold a socket. -/
theorem WithinTokens.connection (h : WithinTokens issued s) {event : ConnectionEvent W}
    (hstep : ConnectionStep s.conn event s'.conn) (houtlives : s.conn.Outlives event)
    (hregister : ∀ ws realm now, event ≠ .registered ws realm now)
    (hjti : s'.tokenJti = s.tokenJti) (hadmitted : s'.admitted = s.admitted) :
    WithinTokens issued s' := by
  have hback {ws : W} {did : String} (hknows : s'.conn.Knows ws did) : s.conn.Knows ws did := by
    rcases knows_of_step hstep hknows with hbefore | ⟨realm, now, hevent, _⟩
    · exact hbefore
    · exact absurd hevent (hregister ws realm now)
  refine ⟨h.held.step hstep houtlives, fun ws did ref hknows hreaches => ?_,
    fun jti payload maxAgents dids hissued hmax hpos hholds => ?_⟩
  · rw [hjti, hadmitted]
    exact h.same ws did ref (hback hknows)
      ((narrows_of_step h.held.live hstep houtlives hregister).reaches hreaches)
  · refine h.within jti payload maxAgents dids hissued hmax hpos fun did hmem => ?_
    obtain ⟨ws, hknows, hopen, htoken⟩ := hholds did hmem
    exact ⟨ws, hback hknows, (SameSockets.step hstep).opened ws hopen, hadmitted ▸ htoken⟩

/-- **A registration**: the other agents of its token were counted. -/
theorem WithinTokens.registered (h : WithinTokens issued s) {now : ℕ}
    (hconnection : s.conn.connections ws = ⟨none, some (.verifying did)⟩)
    (hissued : issued jti = some payload)
    (htoken : admitToken payload revoked did (s.countOnlineByTokenJti jti did) = .ok realm)
    (hstep : ConnectionStep s.conn (.registered ws realm now) s'.conn)
    (hjti : s'.tokenJti = Function.update s.tokenJti s.conn.count (some jti))
    (hadmitted : s'.admitted = Function.update s.admitted ws (some jti)) :
    WithinTokens issued s' := by
  have houtlives : s.conn.Outlives (.registered ws realm now) := trivial
  -- a connection that knows a DID did so before, or is the new one
  have hback {ws' : W} {did' : String} (hknows : s'.conn.Knows ws' did') :
      s.conn.Knows ws' did' ∧ ws' ≠ ws ∨ ws' = ws ∧ did' = did := by
    rcases knows_of_step hstep hknows with hbefore | ⟨_, _, hevent, hverifying⟩
    · refine Or.inl ⟨hbefore, ?_⟩
      rintro rfl
      rw [ConnectionState.Knows, hconnection] at hbefore
      rcases hbefore with hbefore | hbefore <;> cases hbefore
    · cases hevent
      rw [hconnection] at hverifying
      cases hverifying
      exact Or.inr ⟨rfl, rfl⟩
  refine ⟨h.held.step hstep houtlives, fun ws' did' ref hknows hreaches => ?_,
    fun jti' payload' maxAgents dids hissued' hmax hpos hholds => ?_⟩
  · rw [hjti, hadmitted]
    rcases hback hknows with ⟨hbefore, hws⟩ | ⟨rfl, rfl⟩
    · rw [Function.update_of_ne hws]
      rcases (h.held.live.step hstep houtlives).2 did' ref ws' hreaches with
        hreaches | ⟨_, _, he, _⟩
      · rw [Function.update_of_ne (Nat.ne_of_lt (h.held.live did' ref hreaches.1).1)]
        exact h.same ws' did' ref hbefore hreaches
      · cases he
        exact absurd rfl hws
    · have hmine := reaches_registered hstep hconnection hreaches.2.2
      obtain rfl : s.conn.count = ref := Option.some.inj (hmine.1.symm.trans hreaches.1)
      rw [Function.update_self, Function.update_self]
  · -- the agents of the token, but for the new one, held their sockets before
    have hbefore {did' : String} (hmem : did' ∈ dids) :
        s.Holds jti' did' ∨ jti' = jti ∧ did' = did := by
      obtain ⟨ws', hknows, hopen, hjti'⟩ := hholds did' hmem
      rw [hadmitted] at hjti'
      rcases hback hknows with ⟨hknows, hws⟩ | ⟨rfl, rfl⟩
      · rw [Function.update_of_ne hws] at hjti'
        exact Or.inl ⟨ws', hknows, (SameSockets.step hstep).opened ws' hopen, hjti'⟩
      · rw [Function.update_self] at hjti'
        exact Or.inr ⟨(Option.some.inj hjti').symm, rfl⟩
    by_cases hsame : jti' = jti
    · subst hsame
      rw [hissued] at hissued'
      cases hissued'
      have hlt := (usage_of_admitted htoken).2 maxAgents hmax hpos
      have hrest : (dids.erase did).card ≤ s.countOnlineByTokenJti jti' did :=
        h.card_le fun did' hmem => by
          obtain ⟨hne, hmem⟩ := Finset.mem_erase.mp hmem
          exact ⟨(hbefore hmem).resolve_right fun hnew => hne hnew.2, hne⟩
      have hcard : dids.card - 1 ≤ (dids.erase did).card := Finset.pred_card_le_card_erase
      omega
    · exact h.within jti' payload' maxAgents dids hissued' hmax hpos fun did' hmem =>
        (hbefore hmem).resolve_right fun hnew => hsame hnew.1

theorem WithinTokens.step (h : WithinTokens issued s) (hstep : TimelyStep issued s event s') :
    WithinTokens issued s' := by
  obtain ⟨hstep, houtlives, _, _⟩ := hstep
  cases hstep with
  | helloReceived hconn => exact h.connection hconn (houtlives _ rfl) nofun rfl rfl
  | verified _ _ _ => exact h.of_eq rfl rfl rfl
  | listRead _ => exact h.of_eq rfl rfl rfl
  | registered hconnection _ hissued _ hadmitted hconn =>
    exact h.registered hconnection hissued hadmitted hconn rfl rfl
  | connection _ hregister hconn => exact h.connection hconn (houtlives _ rfl) hregister rfl rfl
  | commandLoaded _ => exact h.of_eq rfl rfl rfl
  | commandSaved _ _ => exact h.of_eq rfl rfl rfl

/-! ### Revoked tokens -/

/-- **A revocation stays listed** until its token has expired. -/
def Noted (issued : IssuedTokens) (events : List (AdmissionEvent W C)) (s : AdmissionState W C) :
    Prop :=
  ∀ jti payload, issued jti = some payload → Revoked events jti →
    payload.exp < s.clock / 1000 ∨ s.file jti = some payload.exp

theorem Noted.of_eq (h : Noted issued events s)
    (hnot : ∀ command jtis now, event ≠ .commandSaved command jtis now)
    (hclock : s.clock ≤ s'.clock) (hfile : s'.file = s.file) :
    Noted issued (events ++ [event]) s' := by
  intro jti payload hissued hrevoked
  obtain ⟨command, jtis, now, hmem, hjti⟩ := hrevoked
  rw [hfile]
  rcases List.mem_append.mp hmem with hmem | hmem
  · refine (h jti payload hissued ⟨command, jtis, now, hmem, hjti⟩).imp_left fun hexpired => ?_
    exact hexpired.trans_le (Nat.div_le_div_right hclock)
  · exact absurd (List.mem_singleton.mp hmem).symm (hnot command jtis now)

theorem Noted.step (h : Noted issued events s) (hstep : TimelyStep issued s event s') :
    Noted issued (events ++ [event]) s' := by
  obtain ⟨hstep, _, _, hloaded⟩ := hstep
  cases hstep with
  | helloReceived _ => exact h.of_eq nofun le_rfl rfl
  | verified _ hclock _ => exact h.of_eq nofun hclock rfl
  | listRead _ => exact h.of_eq nofun le_rfl rfl
  | registered _ _ _ hclock _ _ => exact h.of_eq nofun hclock rfl
  | connection _ _ _ => exact h.of_eq nofun le_rfl rfl
  | commandLoaded hclock => exact h.of_eq nofun hclock rfl
  | @commandSaved command list jtis now hcommand hclock =>
    intro jti payload hissued hrevoked
    by_cases hexpired : payload.exp < now / 1000
    · exact Or.inl hexpired
    refine Or.inr (RevocationList.gc_eq_some.mpr ⟨?_, hexpired⟩)
    refine RevocationList.revokeTokens_eq_some hissued ?_
    obtain ⟨command', jtis', now', hmem, hjti⟩ := hrevoked
    rcases List.mem_append.mp hmem with hmem | hmem
    · -- revoked before: still listed, and loaded by this command
      have hlisted : s.file jti = some payload.exp := by
        refine (h jti payload hissued ⟨command', jtis', now', hmem, hjti⟩).resolve_left ?_
        intro hpassed
        exact hexpired (hpassed.trans_le (Nat.div_le_div_right hclock))
      exact Or.inl (hloaded command jtis now list jti _ rfl hcommand hlisted hexpired)
    · cases List.mem_singleton.mp hmem
      exact Or.inr hjti

/-- **The HELLO of a revoked token**: the list that it has read has the token. -/
def AdmissionState.Refuses (s : AdmissionState W C) (ws : W) (jti : String)
    (payload : TokenPayload) : Prop :=
  match s.tokens ws with
  | some (.received token) => token = some (.ok jti)
  | some (.verified jti') => jti' = jti
  | some (.listRead jti' file) =>
      jti' = jti ∧ (payload.exp < s.clock / 1000 ∨ file jti = some payload.exp)
  | none => False

theorem AdmissionState.Refuses.of_eq (h : s.Refuses ws jti payload)
    (htokens : s'.tokens ws = s.tokens ws) (hclock : s.clock ≤ s'.clock) :
    s'.Refuses ws jti payload := by
  rw [AdmissionState.Refuses] at h ⊢
  rw [htokens]
  split
  · rwa [‹s.tokens ws = _›] at h
  · rwa [‹s.tokens ws = _›] at h
  · rw [‹s.tokens ws = _›] at h
    exact ⟨h.1, h.2.imp_left fun hexpired => hexpired.trans_le (Nat.div_le_div_right hclock)⟩
  · rwa [‹s.tokens ws = _›] at h

/-- **A HELLO that refuses its token** goes on so, and registers no agent. -/
theorem AdmissionState.Refuses.step (h : s.Refuses ws jti payload)
    (hissued : issued jti = some payload)
    (hnoted : payload.exp < s.clock / 1000 ∨ s.file jti = some payload.exp)
    (hstep : TimelyStep issued s event s')
    (hhello : ∀ did token, event ≠ .helloReceived ws did token) :
    s'.Refuses ws jti payload ∧ ∀ realm now, event ≠ .registered ws realm now := by
  obtain ⟨hstep, _, htimely, _⟩ := hstep
  cases hstep with
  | @helloReceived ws' did token conn _ =>
    have hws : ws ≠ ws' := by
      rintro rfl
      exact hhello did token rfl
    exact ⟨h.of_eq (Function.update_of_ne hws ..) le_rfl, nofun⟩
  | @verified ws' token jti' payload' now htoken hclock hverify =>
    refine ⟨?_, nofun⟩
    by_cases hws : ws = ws'
    · subst hws
      rw [AdmissionState.Refuses, htoken] at h
      cases h
      rw [verifyInviteToken, hissued] at hverify
      dsimp only at hverify
      split at hverify
      · cases hverify
      · cases hverify
        rw [AdmissionState.Refuses]
        dsimp only
        rw [Function.update_self]
    · exact h.of_eq (Function.update_of_ne hws ..) hclock
  | @listRead ws' jti' htoken =>
    refine ⟨?_, nofun⟩
    by_cases hws : ws = ws'
    · subst hws
      rw [AdmissionState.Refuses, htoken] at h
      cases h
      rw [AdmissionState.Refuses]
      dsimp only
      rw [Function.update_self]
      exact ⟨rfl, hnoted⟩
    · exact h.of_eq (Function.update_of_ne hws ..) le_rfl
  | @registered ws' did jti' realm file payload' now conn _ htoken hissued' hclock hadmitted _ =>
    have hws : ws ≠ ws' := by
      rintro rfl
      rw [AdmissionState.Refuses, htoken] at h
      obtain ⟨rfl, hlisted⟩ := h
      rw [hissued] at hissued'
      cases hissued'
      have hlive := htimely ws realm now jti' file payload rfl htoken hissued
      have hlisted := hlisted.resolve_left fun hexpired =>
        hlive (hexpired.trans_le (Nat.div_le_div_right hclock))
      have hloaded : RevocationList.load file now jti' = some payload.exp :=
        RevocationList.gc_eq_some.mpr ⟨hlisted, hlive⟩
      have hrevoked := (usage_of_admitted hadmitted).1
      rw [RevocationList.isRevoked, hloaded] at hrevoked
      cases hrevoked
    refine ⟨h.of_eq rfl hclock, fun realm' now' hevent => ?_⟩
    cases hevent
    exact hws rfl
  | connection _ _ _ => exact ⟨h.of_eq rfl le_rfl, nofun⟩
  | commandLoaded hclock => exact ⟨h.of_eq rfl hclock, nofun⟩
  | commandSaved _ hclock => exact ⟨h.of_eq rfl hclock, nofun⟩

/-! ### Runs -/

theorem WithinTokens.of_starting (hstart : start.Starting) : WithinTokens issued start := by
  refine ⟨.of_starting hstart, fun ws did ref hknows _ => ?_,
    fun jti payload maxAgents dids _ _ hpos hholds => ?_⟩
  · rw [ConnectionState.Knows, hstart.connections] at hknows
    rcases hknows with h | h <;> cases h
  · have hempty : dids = ∅ := by
      refine Finset.eq_empty_of_forall_notMem fun did hmem => ?_
      obtain ⟨ws, hknows, _⟩ := hholds did hmem
      rw [ConnectionState.Knows, hstart.connections] at hknows
      rcases hknows with h | h <;> cases h
    rw [hempty, Finset.card_empty]
    exact hpos.le

theorem WithinTokens.run (hstart : start.Starting)
    (hrun : Trace (TimelyStep issued) start events s) : WithinTokens issued s := by
  induction hrun with
  | nil => exact .of_starting hstart
  | snoc _ hlast ih => exact ih.step hlast

theorem Noted.run (hrun : Trace (TimelyStep issued) start events s) : Noted issued events s := by
  induction hrun with
  | nil =>
    rintro jti payload _ ⟨_, _, _, hmem, _⟩
    exact absurd hmem List.not_mem_nil
  | snoc _ hlast ih => exact ih.step hlast

end

/-! ### Runs of one relay -/

end QuadraA.Relay
