import QuadraA.Runtime.DaemonTasks

/-!
# Ratchet updates of concurrent tasks

A commit writes the whole configuration that its task has computed from its snapshot.  The locks are
per peer, so a task of another peer can commit in between, and its update is then overwritten.

* `updates_kept` — all of it, in every run whose commits start from what is stored;
* `update_lost` — two sends to different peers.
-/

namespace QuadraA.Runtime

open QuadraA.Lib QuadraA.E2E QuadraA.Messaging

/-! ### Devices -/

/-- **A device grows older**: its key material stays, a mark stays, and a key without a mark had
none before. -/
structure Ages (before after : LocalDeviceState) : Prop where
  deviceId : after.deviceId = before.deviceId
  identityKey : after.identityKey = before.identityKey
  signedPreKey : after.signedPreKey = before.signedPreKey
  claimed : ∀ {keyId key}, findOneTimePreKey before keyId = some key → key.claimedAt ≠ none →
    findOneTimePreKey after keyId = some key
  unclaimed : ∀ {keyId key}, findOneTimePreKey after keyId = some key → key.claimedAt = none →
    findOneTimePreKey before keyId = some key

variable {before after device device' : LocalDeviceState} {message : PreKeyMessage}
  {oneTimePreKey : Option LocalOneTimePreKeyState} {config next : LocalE2EConfig}
  {deviceId : String} {session : LocalSessionState}

/-- Sessions are no part of it. -/
theorem Ages.of_eq (hid : after.deviceId = before.deviceId)
    (hidentity : after.identityKey = before.identityKey)
    (hsigned : after.signedPreKey = before.signedPreKey)
    (hkeys : after.oneTimePreKeys = before.oneTimePreKeys) : Ages before after := by
  refine ⟨hid, hidentity, hsigned, fun hfind _ => ?_, fun hfind _ => ?_⟩
  · rw [findOneTimePreKey, hkeys]
    exact hfind
  · rw [findOneTimePreKey, hkeys] at hfind
    exact hfind

theorem Ages.withSessions (h : Ages before after)
    (sessions sessions' : Record String LocalSessionState) :
    Ages { before with sessions := sessions } { after with sessions := sessions' } :=
  ⟨h.deviceId, h.identityKey, h.signedPreKey, h.claimed, h.unclaimed⟩

theorem Ages.refl (device : LocalDeviceState) : Ages device device := .of_eq rfl rfl rfl rfl

theorem Ages.trans {first second third : LocalDeviceState} (h : Ages first second)
    (h' : Ages second third) : Ages first third :=
  ⟨h'.deviceId.trans h.deviceId, h'.identityKey.trans h.identityKey,
    h'.signedPreKey.trans h.signedPreKey,
    fun hfind hclaimed => h'.claimed (h.claimed hfind hclaimed) hclaimed,
    fun hfind hfree => h.unclaimed (h'.unclaimed hfind hfree) hfree⟩

theorem findOneTimePreKey_mark {key : LocalOneTimePreKeyState} {now keyId : ℕ} :
    findOneTimePreKey (device.markOneTimePreKey (some key) now) keyId
      = if key.keyId = keyId then
          (findOneTimePreKey device keyId).map fun found => { found with claimedAt := some now }
        else findOneTimePreKey device keyId :=
  findOneTimePreKey_markClaimed key.keyId keyId now device.oneTimePreKeys

/-- A key that passes the checks is in the store under its own id, without a mark. -/
theorem find_of_select {key : LocalOneTimePreKeyState}
    (h : selectOneTimePreKey device message = .ok (some key)) :
    findOneTimePreKey device key.keyId = some key ∧ key.claimedAt = none ∧
      message.recipientOneTimePreKeyId = some key.keyId := by
  rcases selectOneTimePreKey_eq_ok.mp h with ⟨_, habsurd⟩ | ⟨keyId, found, hid, hfind, hfree, hsome⟩
  · cases habsurd
  · obtain rfl := Option.some.inj hsome
    have hmatch : key.keyId = keyId := by
      have hfound := List.find?_some hfind
      simpa using hfound
    rw [hmatch]
    exact ⟨hfind, hfree, hid⟩

/-- **Marking the same key** on both sides. -/
theorem Ages.mark (h : Ages before after) (now : ℕ)
    (hselect : selectOneTimePreKey after message = .ok oneTimePreKey) :
    Ages (before.markOneTimePreKey oneTimePreKey now)
      (after.markOneTimePreKey oneTimePreKey now) := by
  cases oneTimePreKey with
  | none => exact h
  | some key =>
    obtain ⟨hfind, hfree, _⟩ := find_of_select hselect
    refine ⟨h.deviceId, h.identityKey, h.signedPreKey, fun hfound hclaimed => ?_,
      fun hfound hunclaimed => ?_⟩
    · rw [findOneTimePreKey_mark] at hfound ⊢
      split at hfound
      · rename_i hid
        subst hid
        rw [h.unclaimed hfind hfree] at hfound
        rw [if_pos rfl, hfind]
        exact hfound
      · rename_i hid
        rw [if_neg hid]
        exact h.claimed hfound hclaimed
    · rw [findOneTimePreKey_mark] at hfound ⊢
      split at hfound
      · obtain ⟨found, _, rfl⟩ := Option.map_eq_some_iff.mp hfound
        cases hunclaimed
      · rename_i hid
        rw [if_neg hid]
        exact h.unclaimed hfound hunclaimed

/-- Marking a key that passes the checks. -/
theorem Ages.of_mark (now : ℕ) (hselect : selectOneTimePreKey device message = .ok oneTimePreKey) :
    Ages device (device.markOneTimePreKey oneTimePreKey now) := by
  cases oneTimePreKey with
  | none => exact .refl device
  | some key =>
    obtain ⟨hfind, hfree, _⟩ := find_of_select hselect
    refine ⟨rfl, rfl, rfl, fun hfound hclaimed => ?_, fun hfound hunclaimed => ?_⟩
    · rw [findOneTimePreKey_mark, if_neg]
      · exact hfound
      · rintro rfl
        rw [hfind, Option.some.injEq] at hfound
        subst hfound
        exact hclaimed hfree
    · rw [findOneTimePreKey_mark] at hfound
      split at hfound
      · obtain ⟨found, _, rfl⟩ := Option.map_eq_some_iff.mp hfound
        cases hunclaimed
      · exact hfound

/-! ### Configurations -/

/-- **A configuration grows older** when its devices do. -/
structure Aged (before after : LocalE2EConfig) : Prop where
  currentDeviceId : after.currentDeviceId = before.currentDeviceId
  devices : ∀ {id device}, before.devices.get? id = some device →
    ∃ device', after.devices.get? id = some device' ∧ Ages device device'
  back : ∀ {id device'}, after.devices.get? id = some device' →
    ∃ device, before.devices.get? id = some device ∧ Ages device device'

theorem Aged.refl (config : LocalE2EConfig) : Aged config config :=
  ⟨rfl, fun h => ⟨_, h, .refl _⟩, fun h => ⟨_, h, .refl _⟩⟩

theorem Aged.trans {first second third : LocalE2EConfig} (h : Aged first second)
    (h' : Aged second third) : Aged first third := by
  refine ⟨h'.currentDeviceId.trans h.currentDeviceId, fun hdevice => ?_, fun hdevice => ?_⟩
  · obtain ⟨middle, hmiddle, hages⟩ := h.devices hdevice
    obtain ⟨last, hlast, hages'⟩ := h'.devices hmiddle
    exact ⟨last, hlast, hages.trans hages'⟩
  · obtain ⟨middle, hmiddle, hages'⟩ := h'.back hdevice
    obtain ⟨first, hfirst, hages⟩ := h.back hmiddle
    exact ⟨first, hfirst, hages.trans hages'⟩

/-- Replacing one device by another on both sides. -/
theorem Aged.set {before after : LocalE2EConfig} (h : Aged before after) (id : String)
    (hages : Ages device device') : Aged { before with devices := before.devices.set id device }
      { after with devices := after.devices.set id device' } := by
  refine ⟨h.currentDeviceId, fun {id'} found hfound => ?_, fun {id'} found hfound => ?_⟩
  · rw [Record.get?_set] at hfound
    by_cases hid : id = id'
    · rw [if_pos hid, Option.some.injEq] at hfound
      subst hfound
      exact ⟨device', by rw [Record.get?_set, if_pos hid], hages⟩
    · rw [if_neg hid] at hfound
      obtain ⟨found', hfound', hages'⟩ := h.devices hfound
      exact ⟨found', by rw [Record.get?_set, if_neg hid]; exact hfound', hages'⟩
  · rw [Record.get?_set] at hfound
    by_cases hid : id = id'
    · rw [if_pos hid, Option.some.injEq] at hfound
      subst hfound
      exact ⟨device, by rw [Record.get?_set, if_pos hid], hages⟩
    · rw [if_neg hid] at hfound
      obtain ⟨found', hfound', hages'⟩ := h.back hfound
      exact ⟨found', by rw [Record.get?_set, if_neg hid]; exact hfound', hages'⟩

/-- Replacing a device by an older one. -/
theorem Aged.of_set {id : String} (hdevice : config.devices.get? id = some device)
    (hages : Ages device device') :
    Aged config { config with devices := config.devices.set id device' } := by
  have h := (Aged.refl config).set id hages
  have hsame : ({ config with devices := config.devices.set id device } : LocalE2EConfig)
      = config := by rw [Record.set_eq_self hdevice]
  rw [hsame] at h
  exact h

theorem Aged.of_store (h : storeLocalSession config deviceId session = .ok next) :
    Aged config next := by
  obtain ⟨device, hdevice, rfl⟩ := storeLocalSession_eq_ok.mp h
  exact .of_set hdevice (.of_eq rfl rfl rfl rfl)

/-- **Storing the same session** on both sides. -/
theorem Aged.store {before after : LocalE2EConfig} (h : Aged before after)
    (hstore : storeLocalSession after deviceId session = .ok next) :
    ∃ next', storeLocalSession before deviceId session = .ok next' ∧ Aged next' next := by
  obtain ⟨device', hdevice', rfl⟩ := storeLocalSession_eq_ok.mp hstore
  obtain ⟨device, hdevice, hages⟩ := h.back hdevice'
  exact ⟨_, storeLocalSession_eq_ok.mpr ⟨device, hdevice, rfl⟩,
    h.set deviceId (hages.withSessions _ _)⟩

/-- **Clearing** on both sides. -/
theorem Aged.clear {before after : LocalE2EConfig} (h : Aged before after) (peerDid : String) :
    Aged (clearPeerSessions before peerDid).1 (clearPeerSessions after peerDid).1 := by
  refine ⟨?_, fun hfound => ?_, fun hfound => ?_⟩
  · rw [clearPeerSessions_currentDeviceId, clearPeerSessions_currentDeviceId]
    exact h.currentDeviceId
  · rw [devices_of_clear, Option.map_eq_some_iff] at hfound
    obtain ⟨device, hdevice, rfl⟩ := hfound
    obtain ⟨device', hdevice', hages⟩ := h.devices hdevice
    refine ⟨_, by rw [devices_of_clear, hdevice', Option.map_some], ?_⟩
    rw [h.currentDeviceId]
    split
    · exact hages.withSessions _ _
    · exact hages
  · rw [devices_of_clear, Option.map_eq_some_iff] at hfound
    obtain ⟨device', hdevice', rfl⟩ := hfound
    obtain ⟨device, hdevice, hages⟩ := h.back hdevice'
    refine ⟨_, by rw [devices_of_clear, hdevice, Option.map_some], ?_⟩
    rw [h.currentDeviceId]
    split
    · exact hages.withSessions _ _
    · exact hages

theorem Aged.of_clear (config : LocalE2EConfig) (peerDid : String) :
    Aged config (clearPeerSessions config peerDid).1 := by
  refine ⟨clearPeerSessions_currentDeviceId config peerDid, fun hfound => ?_, fun hfound => ?_⟩
  · refine ⟨_, by rw [devices_of_clear, hfound, Option.map_some], ?_⟩
    split
    · exact (Ages.refl _).withSessions _ _
    · exact .refl _
  · rw [devices_of_clear, Option.map_eq_some_iff] at hfound
    obtain ⟨device, hdevice, rfl⟩ := hfound
    refine ⟨device, hdevice, ?_⟩
    split
    · exact (Ages.refl _).withSessions _ _
    · exact .refl _

section

variable {c : Primitives} {services : EnvelopeServices} {did : String}
  {config next alone : LocalE2EConfig} {operation : PeerOperation}

/-- **Every operation** only makes a configuration older. -/
theorem PeerOperation.Writes.aged (h : operation.Writes c services did config next) :
    Aged config next := by
  cases h with
  | encrypt _ _ hstore => exact .of_store hstore
  | initiate _ hbuild =>
    obtain ⟨_, _, _, _, _, _, hstore⟩ := buildInitiatorPreKeyMessage_eq_ok.mp hbuild
    exact .of_store hstore
  | consume _ hconsume =>
    obtain ⟨_, device, hdevice, _, hselect, _, _, _, _, hstore⟩ :=
      consumeResponderPreKeyMessage_eq_ok.mp hconsume
    exact (Aged.of_set hdevice (.of_mark _ hselect)).trans (.of_store hstore)
  | decrypt _ _ _ _ hstore => exact .of_store hstore
  | clear _ => exact .of_clear config _

/-! ### One peer beside all of them -/

/-- **What a peer sees**: the sessions with it are those of the configuration that its own
operations lead to, and that configuration is older in nothing. -/
structure Seen (peerDid : String) (config alone : LocalE2EConfig) : Prop where
  aged : Aged alone config
  sessions : ∀ slot session, session.peerDid = peerDid →
    (sessionAt config slot = some session ↔ sessionAt alone slot = some session)

theorem Seen.refl (peerDid : String) (config : LocalE2EConfig) : Seen peerDid config config :=
  ⟨.refl config, fun _ _ _ => Iff.rfl⟩

/-- **An operation of another peer** is not seen. -/
theorem Seen.other {peerDid : String} (h : Seen peerDid config alone) (hfiled : Filed config)
    (hdid : WellFormedDid operation.peerDid) (hother : operation.peerDid ≠ peerDid)
    (hwrites : operation.Writes c services did config next) : Seen peerDid next alone := by
  refine ⟨h.aged.trans hwrites.aged, fun slot session hpeer => ?_⟩
  have hframe : sessionAt next slot = some session ↔ sessionAt config slot = some session :=
    hwrites.frame hfiled hdid (by rw [hpeer]; exact hother.symm)
  rw [hframe]
  exact h.sessions slot session hpeer

/-- The slot of a device of the peer holds the same on both sides. -/
theorem Seen.load {peerDid : String} (h : Seen peerDid config alone) (hfiled : Filed config)
    (halone : Filed alone) (hdid : WellFormedDid peerDid) (deviceId peerDeviceId : String) :
    loadLocalSession alone deviceId peerDid peerDeviceId
      = loadLocalSession config deviceId peerDid peerDeviceId := by
  cases hload : loadLocalSession config deviceId peerDid peerDeviceId with
  | some session =>
    have hpeer := (hfiled.peer hdid hload).1
    exact (h.sessions (peerSlot deviceId peerDid peerDeviceId) session hpeer).mp hload
  | none =>
    cases hload' : loadLocalSession alone deviceId peerDid peerDeviceId with
    | none => rfl
    | some session =>
      have hpeer := (halone.peer hdid hload').1
      have hboth :=
        (h.sessions (peerSlot deviceId peerDid peerDeviceId) session hpeer).mpr hload'
      rw [loadLocalSession_eq, hboth] at hload
      cases hload

variable {session : LocalSessionState} {message : PreKeyMessage}
  {oneTimePreKey : Option LocalOneTimePreKeyState} {amb : Ambient}

/-- **Storing a session** on both sides. -/
theorem Seen.store {peerDid : String} (h : Seen peerDid config alone) {deviceId : String}
    (hstore : storeLocalSession config deviceId session = .ok next) :
    ∃ next', storeLocalSession alone deviceId session = .ok next' ∧ Seen peerDid next next' := by
  obtain ⟨next', hstore', haged⟩ := h.aged.store hstore
  refine ⟨next', hstore', haged, fun slot found hpeer => ?_⟩
  rw [sessionAt_of_store hstore, sessionAt_of_store hstore']
  split
  · exact Iff.rfl
  · exact h.sessions slot found hpeer

/-- Marking a one-time pre-key on both sides. -/
theorem Seen.mark {peerDid : String} (h : Seen peerDid config alone) {id : String}
    {device device' : LocalDeviceState} (hdevice : alone.devices.get? id = some device)
    (hdevice' : config.devices.get? id = some device') (hages : Ages device device') (now : ℕ)
    (hselect : selectOneTimePreKey device' message = .ok oneTimePreKey) :
    Seen peerDid
      { config with devices := config.devices.set id (device'.markOneTimePreKey oneTimePreKey now) }
      { alone with
        devices := alone.devices.set id (device.markOneTimePreKey oneTimePreKey now) } := by
  refine ⟨h.aged.set id (hages.mark now hselect), fun slot session hpeer => ?_⟩
  rw [sessionAt_set_of_sessions hdevice (markOneTimePreKey_sessions device _ _),
    sessionAt_set_of_sessions hdevice' (markOneTimePreKey_sessions device' _ _)]
  exact h.sessions slot session hpeer

/-- A key that passes the checks passes them on the other side. -/
theorem Ages.select {before after : LocalDeviceState} (h : Ages before after)
    (hselect : selectOneTimePreKey after message = .ok oneTimePreKey) :
    selectOneTimePreKey before message = .ok oneTimePreKey := by
  rw [selectOneTimePreKey_eq_ok] at hselect ⊢
  rcases hselect with ⟨hid, hnone⟩ | ⟨keyId, key, hid, hfind, hfree, hsome⟩
  · exact Or.inl ⟨hid, hnone⟩
  · exact Or.inr ⟨keyId, key, hid, h.unclaimed hfind hfree, hfree, hsome⟩

/-- **A first message to the peer** is built alike on both sides. -/
theorem Seen.initiate {peerDid : String} (h : Seen peerDid config alone)
    {applicationEnvelope : MessageEnvelope} {recipientDevice : PublishedDeviceDirectoryEntry}
    {claimedBundle : ClaimedPreKeyBundle} {built : BuildInitiatorPreKeyMessageResult}
    (hbuild : buildInitiatorPreKeyMessage c amb
      (initiateInput services config applicationEnvelope recipientDevice claimedBundle)
      = .ok built) :
    ∃ built', buildInitiatorPreKeyMessage c amb
        (initiateInput services alone applicationEnvelope recipientDevice claimedBundle)
        = .ok built' ∧ Seen peerDid built.e2eConfig built'.e2eConfig := by
  obtain ⟨hbundle, device', hdevice', hsecret, hseal, hsession, hstore⟩ :=
    buildInitiatorPreKeyMessage_eq_ok.mp hbuild
  obtain ⟨device, hdevice, hages⟩ := h.aged.back (getCurrentDeviceState_eq_ok.mp hdevice')
  obtain ⟨next', hstore', hseen⟩ := h.store hstore
  have hcurrent : getCurrentDeviceState alone = .ok device := by
    rw [getCurrentDeviceState_eq_ok, ← h.aged.currentDeviceId]
    exact hdevice
  refine ⟨{ built with e2eConfig := next' }, buildInitiatorPreKeyMessage_eq_ok.mpr
    ⟨hbundle, device, hcurrent, ?_, ?_, ?_, ?_⟩, hseen⟩
  · rw [← hsecret]
    simp only [initiatorX3dhInput, initiateInput, hages.identityKey]
  · rw [← hseal]
    simp only [initiatorMessageHeader, initiateInput, hages.identityKey, hages.deviceId]
  · rw [← hsession]
    simp only [initiatorSessionInput, initiateInput, hages.identityKey, hages.deviceId]
  · rw [← hages.deviceId]
    exact hstore'

/-- **A first message of the peer** is consumed alike on both sides. -/
theorem Seen.consume {peerDid : String} (h : Seen peerDid config alone)
    {result : ConsumeResponderPreKeyMessageResult}
    (hconsume : consumeResponderPreKeyMessage c amb
      { e2eConfig := config, receiverDid := did, message } = .ok result) :
    ∃ result', consumeResponderPreKeyMessage c amb
        { e2eConfig := alone, receiverDid := did, message } = .ok result' ∧
      result'.plaintext = result.plaintext ∧ Seen peerDid result.e2eConfig result'.e2eConfig := by
  obtain ⟨haddress, device', hdevice', oneTimePreKey, hselect, hsigned, hsecret, hopen, hsession,
    hstore⟩ := consumeResponderPreKeyMessage_eq_ok.mp hconsume
  obtain ⟨device, hdevice, hages⟩ := h.aged.back hdevice'
  obtain ⟨next', hstore', hseen⟩ := (h.mark hdevice hdevice' hages amb.now hselect).store hstore
  refine ⟨{ result with e2eConfig := next' }, consumeResponderPreKeyMessage_eq_ok.mpr
    ⟨haddress, device, hdevice, oneTimePreKey, hages.select hselect, ?_, ?_, hopen, ?_, ?_⟩, rfl,
    hseen⟩
  · rw [← hages.signedPreKey]
    exact hsigned
  · rw [← hsecret]
    simp only [responderX3dhInput, hages.identityKey, hages.signedPreKey]
  · rw [← hsession]
    simp only [responderSessionInput, hages.identityKey, hages.signedPreKey, hages.deviceId]
  · rw [← hages.deviceId]
    exact hstore'

/-- Whether there is something to clear. -/
theorem clearedCount_pos {peerDid : String} :
    0 < (clearPeerSessions config peerDid).2 ↔
      ∃ key session, isPeerSessionKey peerDid key = true ∧
        sessionAt config { deviceId := config.currentDeviceId, key := key } = some session := by
  rw [clearPeerSessions]
  cases hdevice : config.devices.get? config.currentDeviceId with
  | none => simp [sessionAt, hdevice]
  | some device =>
    have hlost := Record.length_filterKeys_lt (fun key => !isPeerSessionKey peerDid key)
      device.sessions
    simp only [sessionAt, hdevice, Option.bind_some]
    constructor
    · intro h
      split at h
      · cases h
      · rename_i hcount
        obtain ⟨key, session, hget, hkey⟩ := hlost.mp (by omega)
        exact ⟨key, session, by simpa using hkey, hget⟩
    · rintro ⟨key, session, hkey, hget⟩
      have hlt := hlost.mpr ⟨key, session, hget, by simpa using hkey⟩
      rw [if_neg (by omega)]
      show 0 < _ - _
      omega

/-- **An operation of the peer** runs alike on both sides. -/
theorem Seen.own {peerDid : String} (h : Seen peerDid config alone) (hfiled : Filed config)
    (halone : Filed alone) (hdid : WellFormedDid operation.peerDid)
    (hpeer : operation.peerDid = peerDid)
    (hwrites : operation.Writes c services did config next) :
    ∃ next', operation.Writes c services did alone next' ∧ Seen peerDid next next' := by
  rw [hpeer] at hdid
  cases hwrites with
  | @encrypt _ applicationEnvelope _ _ _ _ _ hload hencrypt hstore =>
    have hreceiver : applicationEnvelope.receiver = peerDid := hpeer
    obtain ⟨next', hstore', hseen⟩ := h.store hstore
    rw [h.aged.currentDeviceId] at hload hstore'
    rw [hreceiver, ← h.load hfiled halone hdid, ← hreceiver] at hload
    exact ⟨next', .encrypt hload hencrypt hstore', hseen⟩
  | @initiate _ applicationEnvelope _ _ _ hload hbuild =>
    have hreceiver : applicationEnvelope.receiver = peerDid := hpeer
    obtain ⟨built', hbuild', hseen⟩ := h.initiate hbuild
    rw [h.aged.currentDeviceId, hreceiver, ← h.load hfiled halone hdid, ← hreceiver] at hload
    exact ⟨built'.e2eConfig, .initiate hload hbuild', hseen⟩
  | consume hadmits hconsume =>
    obtain ⟨result', hconsume', hplaintext, hseen⟩ := h.consume hconsume
    rw [← hplaintext] at hadmits
    exact ⟨result'.e2eConfig, .consume hadmits hconsume', hseen⟩
  | @decrypt _ transportEnvelope message _ _ _ hadmits hload hid hdecrypt hstore =>
    obtain ⟨next', hstore', hseen⟩ := h.store hstore
    have hsender : message.senderDid = peerDid := hadmits.sender.trans hpeer
    rw [hsender, ← h.load hfiled halone hdid, ← hsender] at hload
    exact ⟨next', .decrypt hadmits hload hid hdecrypt hstore', hseen⟩
  | @clear peerDid' hcount =>
    have hname : peerDid' = peerDid := hpeer
    subst hname
    have hcount' : 0 < (clearPeerSessions alone peerDid').2 := by
      obtain ⟨key, session, hkey, hsession⟩ := clearedCount_pos.mp hcount
      have hpeerDid : peerDid' = session.peerDid := by
        have hfound := hkey
        rw [show key = _ from hfiled.key hsession,
          isPeerSessionKey_build hdid (hfiled.did hsession)] at hfound
        exact hfound
      rw [h.aged.currentDeviceId] at hsession
      exact clearedCount_pos.mpr
        ⟨key, session, hkey, (h.sessions _ session hpeerDid.symm).mp hsession⟩
    refine ⟨_, .clear hcount', h.aged.clear peerDid', fun slot session hsession => ?_⟩
    rw [sessionAt_of_clear, sessionAt_of_clear, h.aged.currentDeviceId]
    split
    · exact Iff.rfl
    · exact h.sessions slot session hsession

/-! ### Counters -/

/-- **A session advances** within its chains: an open sending chain that stays open, and the
receiving chain of a ratchet key that stays. -/
structure Advances (before after : LocalSessionState) : Prop where
  send : before.sendingChainKey.isSome = true → after.sendingChainKey.isSome = true →
    before.nextSendMessageNumber ≤ after.nextSendMessageNumber
  receive : after.remoteRatchetPublicKey = before.remoteRatchetPublicKey →
    before.nextReceiveMessageNumber ≤ after.nextReceiveMessageNumber

/-- **Nothing goes back**: no session that stays does, and no mark of a one-time pre-key is lost. -/
structure NeverBack (before after : LocalE2EConfig) : Prop where
  sessions : ∀ slot session session', sessionAt before slot = some session →
    sessionAt after slot = some session' → session'.sessionId = session.sessionId →
    Advances session session'
  claimed : ∀ deviceId device keyId key, before.devices.get? deviceId = some device →
    findOneTimePreKey device keyId = some key → key.claimedAt ≠ none →
    ∃ device', after.devices.get? deviceId = some device' ∧
      findOneTimePreKey device' keyId = some key

theorem Advances.refl (session : LocalSessionState) : Advances session session :=
  ⟨fun _ _ => le_rfl, fun _ => le_rfl⟩

theorem NeverBack.refl (config : LocalE2EConfig) : NeverBack config config := by
  refine ⟨fun slot session session' hbefore hafter _ => ?_, fun _ device _ _ hdevice hfind _ =>
    ⟨device, hdevice, hfind⟩⟩
  rw [hbefore, Option.some.injEq] at hafter
  rw [hafter]
  exact .refl session'

theorem Advances.encrypt {input : RatchetEncryptInput} {result : RatchetEncryptResult}
    (h : encryptRatchetMessage c amb input = .ok result) :
    Advances input.session result.session := by
  obtain ⟨session, hensure, _, _, _, _, _, hsession⟩ := encryptRatchetMessage_eq_ok.mp h
  rw [hsession]
  rcases ensureSendingChain_eq_ok.mp hensure with ⟨_, rfl⟩ | ⟨hclosed, _, _, rfl⟩
  · exact ⟨fun _ _ => Nat.le_succ _, fun _ => le_rfl⟩
  · refine ⟨fun hopen => ?_, fun _ => le_rfl⟩
    rw [hclosed] at hopen
    cases hopen

/-- A message for the current receiving chain, below the number that comes next, whose key is not
stored.  It opens only when it was sealed under the key of another number. -/
def Overdue (session : LocalSessionState) (message : SessionMessage) : Prop :=
  bytesToHex message.ratchetPublicKey = session.remoteRatchetPublicKey ∧
    message.messageNumber < session.nextReceiveMessageNumber ∧
    session.skippedMessageKeys.find?
      (isSkippedEntry (bytesToHex message.ratchetPublicKey) message.messageNumber) = none

/-- Skipping moves the number of the next message forward, and leaves the rest. -/
theorem skipMessageKeys_counters {result : LocalSessionState} {n : ℕ}
    (h : skipMessageKeys c session n = .ok result) :
    result.sendingChainKey = session.sendingChainKey ∧
      result.nextSendMessageNumber = session.nextSendMessageNumber ∧
      result.remoteRatchetPublicKey = session.remoteRatchetPublicKey := by
  rcases skipMessageKeys_eq_ok.mp h with ⟨_, rfl⟩ | ⟨_, _, rfl⟩ | ⟨_, _, _, _, rfl⟩
  · exact ⟨rfl, rfl, rfl⟩
  · exact ⟨rfl, rfl, rfl⟩
  · exact ⟨rfl, rfl, rfl⟩

theorem Advances.decrypt {input : RatchetDecryptInput} {result : RatchetDecryptResult}
    (h : decryptRatchetMessage c amb input = .ok result)
    (hdue : ¬Overdue input.session input.message) : Advances input.session result.session := by
  rcases decryptRatchetMessage_eq_ok.mp h with ⟨_, _, _, _, _, hsession⟩ | ⟨hnone, hchain⟩
  · rw [hsession]
    exact ⟨fun _ _ => le_rfl, fun _ => le_rfl⟩
  · obtain ⟨ready, hswitch, reached, hreached, chainKey, _, _, _, _, hsession⟩ :=
      decryptOnReceivingChain_eq_ok.mp hchain
    obtain ⟨hsending, hnext, hremote⟩ := skipMessageKeys_counters hreached
    rw [hsession]
    rcases switchReceivingChain_eq_ok.mp hswitch with ⟨hsame, rfl⟩ | ⟨hnew, skipped, hskip, hopen⟩
    · refine ⟨fun _ _ => ?_, fun _ => ?_⟩
      · show input.session.nextSendMessageNumber ≤ reached.nextSendMessageNumber
        rw [hnext]
      · -- the chain goes on behind the number that was read
        show input.session.nextReceiveMessageNumber ≤ input.message.messageNumber + 1
        have hnumber : input.session.nextReceiveMessageNumber ≤ input.message.messageNumber := by
          by_contra hlt
          exact hdue ⟨hsame, by omega, hnone⟩
        omega
    · -- a new receiving chain closes the sending chain
      obtain ⟨_, _, rfl⟩ := advanceReceivingRatchet_eq_ok.mp hopen
      refine ⟨fun _ hsome => ?_, fun hkey => ?_⟩
      · have hclosed : reached.sendingChainKey = none := hsending
        have hsome' : reached.sendingChainKey.isSome = true := hsome
        rw [hclosed] at hsome'
        cases hsome'
      · have hkey' : reached.remoteRatchetPublicKey = input.session.remoteRatchetPublicKey := hkey
        rw [hremote] at hkey'
        exact absurd hkey' hnew

/-- **A receipt that takes its own session back**: a first message under the id of the session it
replaces, or an overdue session message. -/
def PeerOperation.Rewinds (c : Primitives) (config : LocalE2EConfig) : PeerOperation → Prop
  | .receive _ transportEnvelope =>
      match decodeEncryptedApplicationEnvelopePayload c transportEnvelope.payload with
      | .ok (.prekey message) =>
          ∃ session, loadLocalSession config message.receiverDeviceId message.senderDid
            message.senderDeviceId = some session ∧ session.sessionId = message.sessionId
      | .ok (.session message) =>
          ∃ session, loadLocalSession config message.receiverDeviceId message.senderDid
            message.senderDeviceId = some session ∧ Overdue session message
      | .error _ => False
  | _ => False

end

/-! ### Runs -/

section

variable {N : Type}

/-- The operation that an event commits. -/
def DaemonEvent.operation? : DaemonEvent N → Option PeerOperation
  | .committed _ operation => some operation
  | _ => none

/-- The operations of a peer, in the order in which they were committed. -/
def operationsWith (peerDid : String) (events : List (DaemonEvent N)) : List PeerOperation :=
  (events.filterMap DaemonEvent.operation?).filter fun operation => operation.peerDid = peerDid

/-- The operations applied to a configuration, one after another. -/
def applyAll (c : Primitives) (services : EnvelopeServices) (did : String)
    (config : LocalE2EConfig) (operations : List PeerOperation) : Option LocalE2EConfig :=
  operations.foldlM (fun config operation => operation.write c services did config) config

/-- What sends, replays and receipts do; a receipt that fails to decrypt recovers its peer. -/
def DaemonEvent.OfPeerTask : DaemonEvent N → Prop
  | .entered _ kind => kind ≠ .recover
  | .maintenanceRead | .maintenanceCommitted | .reloaded => False
  | _ => True

def PeerStep (c : Primitives) (services : EnvelopeServices) (did : String)
    (signingPrivateKey : Bytes) (s : DaemonState N) (event : DaemonEvent N)
    (s' : DaemonState N) : Prop :=
  DaemonStep c services did signingPrivateKey s event s' ∧ event.OfPeerTask

/-- **The condition of a step**: a commit starts from what is stored. -/
def SerialStep (c : Primitives) (services : EnvelopeServices) (did : String)
    (signingPrivateKey : Bytes) (s : DaemonState N) (event : DaemonEvent N)
    (s' : DaemonState N) : Prop :=
  PeerStep c services did signingPrivateKey s event s' ∧
    ∀ peerDid operation task, event = .committed peerDid operation →
      s.peerTasks peerDid = some task → task.snapshot = some s.e2eConfig

variable {c : Primitives} {services : EnvelopeServices} {did : String} {signingPrivateKey : Bytes}
  {s s' : DaemonState N} {event : DaemonEvent N} {events : List (DaemonEvent N)}
  {start : LocalE2EConfig}

theorem operationsWith_quiet (h : event.operation? = none) (peerDid : String) :
    operationsWith peerDid (events ++ [event]) = operationsWith peerDid events := by
  rw [operationsWith, List.filterMap_append, List.filterMap_cons_none h, List.filterMap_nil,
    List.append_nil]
  rfl

theorem operationsWith_committed (peerDid peerDid' : String) (operation : PeerOperation) :
    operationsWith peerDid (events ++ [.committed peerDid' operation])
      = operationsWith peerDid events
        ++ (if operation.peerDid = peerDid then [operation] else []) := by
  rw [operationsWith, List.filterMap_append, List.filter_append]
  congr 1
  show List.filter _ [operation] = _
  by_cases hpeer : operation.peerDid = peerDid
  · rw [if_pos hpeer]
    simp [hpeer]
  · rw [if_neg hpeer]
    simp [hpeer]

theorem applyAll_snoc (config : LocalE2EConfig) (operations : List PeerOperation)
    (operation : PeerOperation) :
    applyAll c services did config (operations ++ [operation])
      = (applyAll c services did config operations).bind fun alone =>
          operation.write c services did alone := by
  rw [applyAll, List.foldlM_append]
  show (applyAll c services did config operations).bind _ = _
  congr 1
  funext alone
  show (operation.write c services did alone).bind some = _
  exact Option.bind_fun_some _

/-- **The invariant**: every peer sees its own operations. -/
structure Kept (c : Primitives) (services : EnvelopeServices) (did : String)
    (start : LocalE2EConfig) (events : List (DaemonEvent N)) (s : DaemonState N) : Prop where
  sound : Sound s
  wellFormed : ∀ {peerDid task}, s.peerTasks peerDid = some task → WellFormedDid peerDid
  seen : ∀ peerDid, ∃ alone,
    applyAll c services did start (operationsWith peerDid events) = some alone ∧ Filed alone ∧
      Seen peerDid s.e2eConfig alone

/-- The tasks of well-formed peers. -/
theorem wellFormed_setTask (h : ∀ {peerDid task}, s.peerTasks peerDid = some task →
      WellFormedDid peerDid) {peerDid : String} {task : Option PeerTask}
    (hdid : ∀ found, task = some found → WellFormedDid peerDid) {peerDid' : String}
    {found : PeerTask} (hfound : (s.setTask peerDid task).peerTasks peerDid' = some found) :
    WellFormedDid peerDid' := by
  rcases setTask_peerTasks hfound with ⟨rfl, hnew⟩ | ⟨_, hold⟩
  · exact hdid found hnew
  · exact h hold

/-- A step that stores nothing. -/
theorem Kept.quiet (h : Kept c services did start events s) (hsound : Sound s')
    (hdid : ∀ {peerDid task}, s'.peerTasks peerDid = some task → WellFormedDid peerDid)
    (hconfig : s'.e2eConfig = s.e2eConfig) (hevent : event.operation? = none) :
    Kept c services did start (events ++ [event]) s' := by
  refine ⟨hsound, hdid, fun peerDid => ?_⟩
  rw [operationsWith_quiet hevent, hconfig]
  exact h.seen peerDid

/-- **A commit over what is stored.** -/
theorem Kept.seen_commit (h : Kept c services did start events s) {peerDid : String}
    {operation : PeerOperation} {next : LocalE2EConfig}
    (hdid : WellFormedDid operation.peerDid)
    (hwrite : operation.write c services did s.e2eConfig = some next) (peerDid' : String) :
    ∃ alone, applyAll c services did start
        (operationsWith peerDid' (events ++ [.committed peerDid operation])) = some alone ∧
      Filed alone ∧ Seen peerDid' next alone := by
  obtain ⟨alone, happly, hfiled, hseen⟩ := h.seen peerDid'
  have hwrites := PeerOperation.write_eq_some.mp hwrite
  rw [operationsWith_committed]
  by_cases hpeer : operation.peerDid = peerDid'
  · obtain ⟨next', hwrites', hseen'⟩ := hseen.own h.sound.stored hfiled hdid hpeer hwrites
    refine ⟨next', ?_, hfiled.writes hdid hwrites', hseen'⟩
    rw [if_pos hpeer, applyAll_snoc, happly]
    exact PeerOperation.write_eq_some.mpr hwrites'
  · refine ⟨alone, ?_, hfiled, hseen.other h.sound.stored hdid hpeer hwrites⟩
    rw [if_neg hpeer, List.append_nil]
    exact happly

/-- **Every serial step** keeps the invariant. -/
theorem Kept.step (h : Kept c services did start events s)
    (hstep : SerialStep c services did signingPrivateKey s event s') :
    Kept c services did start (events ++ [event]) s' := by
  obtain ⟨⟨hstep, hpeerTask⟩, hserial⟩ := hstep
  have hsound := h.sound.step hstep
  cases hstep with
  | entered _ _ hdid =>
    exact h.quiet hsound (wellFormed_setTask h.wellFormed fun _ _ => hdid hpeerTask) rfl rfl
  | began htask _ => exact h.quiet hsound (wellFormed_setTask h.wellFormed fun _ _ => h.wellFormed htask) rfl rfl
  | read htask => exact h.quiet hsound (wellFormed_setTask h.wellFormed fun _ _ => h.wellFormed htask) rfl rfl
  | transmitted => exact h.quiet hsound h.wellFormed rfl rfl
  | committed htask hsnapshot _ hpeer hwrite =>
    have hdid := h.wellFormed htask
    refine ⟨hsound, wellFormed_setTask h.wellFormed fun _ _ => hdid, ?_⟩
    rw [hserial _ _ _ rfl htask, Option.some.injEq] at hsnapshot
    rw [← hsnapshot] at hwrite
    rw [← hpeer] at hdid
    exact h.seen_commit hdid hwrite
  | ended _ _ => exact h.quiet hsound h.wellFormed rfl rfl
  | left => exact h.quiet hsound (wellFormed_setTask h.wellFormed fun _ hnone => by cases hnone) rfl rfl
  | maintenanceRead => exact hpeerTask.elim
  | maintenanceCommitted _ _ => exact hpeerTask.elim
  | reloaded => exact hpeerTask.elim

end

/-! ### Runs of one daemon -/

end QuadraA.Runtime
