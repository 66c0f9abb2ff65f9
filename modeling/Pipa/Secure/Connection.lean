import Pipa.Secure.Server

/- `SecureCoreConnection` (`secure_core_connection.py`) over the JSON channel
   (`secure_json_channel.py`), on a server that other threads use as well.

   `accept_client_hello` calls the server twice, and each call takes the lock on
   its own: the first verifies the hello under the key that is trusted then, the
   second remembers the key that is trusted then. So the call is two steps here
   (`beginHello`, `finishHello`), between which any other call on the server may
   come. `json.loads` and what the Core answers are arguments; the Core's own
   state is left out. -/
namespace Pipa.Secure
open Pipa.Lib

/-! ## The JSON channel -/

inductive ChannelError where
  | payload | fieldSet | record (e : RecordError) | invalidJson
  | recursion -- a `RecursionError` of `json.loads`, which nobody catches

namespace SecureJsonChannel

def secureJsonAad : Bytes := literal "pipa/json/v2"

def frameFields : List PyStr :=
  [PyStr.ofString "ciphertext", PyStr.ofString "protocol_version", PyStr.ofString "sequence",
   PyStr.ofString "session_id"]

/-- `seal_message`. -/
def sealMessage (aead : Aead) (session : SecureSession) (payload : Object) :
    SecureSession × Except ChannelError Value :=
  match canonical payload with
  | none => (session, .error .payload)
  | some encoded =>
    if encoded.length > maxRecordBytes then (session, .error .payload)
    else
      let r := session.sealRecord aead encoded secureJsonAad
      (r.1, r.2.result.mapError .record)

/-- `open_message`; `loads` decodes UTF-8 and parses an object without duplicate fields. -/
def openMessage (aead : Aead) (loads : Bytes → Except ChannelError Object) (session : SecureSession)
    (frame : Value) : SecureSession × Except ChannelError Object :=
  match frame with
  | .dict fields =>
    if !hasFields fields frameFields then (session, .error .fieldSet)
    else match session.openRecord aead frame secureJsonAad with
      | (session', .error e) => (session', .error (.record e))
      | (session', .ok encoded) => (session', loads encoded)
  | _ => (session, .error .fieldSet)

/-- `[channel.seal_message(response) for response in responses]`. -/
def sealMessages (aead : Aead) : SecureSession → List Object → SecureSession × Except ChannelError (List Value)
  | session, [] => (session, .ok [])
  | session, response :: responses =>
    match sealMessage aead session response with
    | (session', .error e) => (session', .error e)
    | (session', .ok frame) =>
      let r := sealMessages aead session' responses
      (r.1, r.2.map (frame :: ·))

end SecureJsonChannel

/-! ## The connection -/

def maxSecureProtocolErrors : Nat := 3

inductive ConnectionError where
  | alreadyAuthenticated | notAuthenticated | noLongerPaired | sessionLimit
  | hello (e : AcceptError) | channel (e : ChannelError)

/-- `SecureCoreConnection`. `inProgress` are the locals of `accept_client_hello` between its two
calls of the server. -/
structure SecureCoreConnection where
  channel : Option SecureSession
  coreSessionId : Option PyStr
  deviceId : Option PyStr
  devicePublicKey : Option (Fixed 32)
  protocolErrors : Nat
  inProgress : Option (ServerHello × SecureSession)

namespace SecureCoreConnection

def new : SecureCoreConnection := ⟨none, none, none, none, 0, none⟩

def authenticated (c : SecureCoreConnection) : Bool := c.channel.isSome && c.coreSessionId.isSome

/-- `device_is_trusted`. -/
def deviceIsTrusted (c : SecureCoreConnection) (server : SecureSessionServer) : Bool :=
  match c.deviceId, c.devicePublicKey with
  | some deviceId, some publicKey => server.isTrustedDevice deviceId publicKey
  | _, _ => false

/-- `close`, without the Core's part. -/
def close (c : SecureCoreConnection) : SecureCoreConnection := { new with inProgress := c.inProgress }

/-- `accept_client_hello` up to and with the first call of the server. -/
def beginHello (crypto : Crypto) (c : SecureCoreConnection) (server : SecureSessionServer) (payload : Value)
    (now : ℚ) (ephemeralPrivateKey : Fixed 32) (nonce : Bytes) :
    (SecureCoreConnection × SecureSessionServer) × Except ConnectionError Unit :=
  if c.authenticated then ((c, server), .error .alreadyAuthenticated)
  else match server.acceptClientHello crypto payload now ephemeralPrivateKey nonce with
    | (server', .error e) => ((c, server'), .error (.hello e))
    | (server', .ok answer) => (({ c with inProgress := some answer }, server'), .ok ())

/-- The rest of `accept_client_hello`, from the second call of the server on. `coreSessionId` is
the session the Core creates, `none` for its `SessionLimitError`. -/
def finishHello (c : SecureCoreConnection) (server : SecureSessionServer) (coreSessionId : Option PyStr) :
    SecureCoreConnection × Except ConnectionError ServerHello :=
  match c.inProgress with
  | none => (c, .error .notAuthenticated)
  | some (serverHello, session) =>
    let c' := { c with inProgress := none }
    match server.trustedDevicePublicKey serverHello.clientId, coreSessionId with
    | none, _ => (c', .error .noLongerPaired)
    | some _, none => (c', .error .sessionLimit)
    | some clientPublicKey, some coreSessionId =>
      ({ c' with
          channel := some session
          coreSessionId := some coreSessionId
          deviceId := some serverHello.clientId
          devicePublicKey := some clientPublicKey }, .ok serverHello)

/-- `server_message("error", code="protocol_error")`. -/
def protocolErrorMessage : Object :=
  [(PyStr.ofString "protocol_version", .int 1), (PyStr.ofString "type", .str (PyStr.ofString "error")),
   (PyStr.ofString "code", .str (PyStr.ofString "protocol_error"))]

/-- `process_frame`. `route` is `parse_client_message` followed by `PipaCore.handle`, `none` for a
`ProtocolError`. -/
def processFrame (aead : Aead) (loads : Bytes → Except ChannelError Object)
    (route : Object → Option (List Object)) (c : SecureCoreConnection) (server : SecureSessionServer)
    (frame : Value) : SecureCoreConnection × Except ConnectionError (List Value) :=
  match c.channel, c.coreSessionId with
  | some channel, some _ =>
    if !c.deviceIsTrusted server then (c.close, .error .noLongerPaired)
    else match SecureJsonChannel.openMessage aead loads channel frame with
      | (channel', .error .recursion) => ({ c with channel := some channel' }, .error (.channel .recursion))
      | (_, .error e) => (c.close, .error (.channel e))
      | (channel', .ok payload) =>
        match route payload with
        | none =>
          let r := SecureJsonChannel.sealMessage aead channel' protocolErrorMessage
          let c' := { c with channel := some r.1, protocolErrors := c.protocolErrors + 1 }
          match r.2 with
          | .error e => (c', .error (.channel e))
          | .ok response =>
            (if c'.protocolErrors ≥ maxSecureProtocolErrors then c'.close else c', .ok [response])
        | some responses =>
          let r := SecureJsonChannel.sealMessages aead channel' responses
          ({ c with channel := some r.1, protocolErrors := 0 }, r.2.mapError .channel)
  | _, _ => (c, .error .notAuthenticated)

/-! ## Interleavings -/

/-- A connection and its server. `verifiedKey` is a history variable: the key the connection's
last hello was verified under. -/
structure Shared where
  server : SecureSessionServer
  connection : SecureCoreConnection
  verifiedKey : Option (Fixed 32)

/-- The key `accept_client_hello` of the server hands to `create_server_hello`. -/
def verificationKey (server : SecureSessionServer) (payload : Value) : Option (Fixed 32) :=
  match parseClientHello payload with
  | .error _ => none
  | .ok hello => server.trustedDevices.get? hello.clientId

inductive Op where
  | server (op : SecureSessionServer.Op) -- of another thread
  | beginHello (payload : Value) (now : ℚ) (ephemeralPrivateKey : Fixed 32) (nonce : Bytes)
  | finishHello (coreSessionId : Option PyStr)
  | processFrame (loads : Bytes → Except ChannelError Object) (route : Object → Option (List Object))
      (frame : Value)
  | close

/-- One step. The connection belongs to one thread, which does nothing else on it while a hello
is in progress. -/
def step (crypto : Crypto) (aead : Aead) (st : Shared) : Op → Shared
  | .server op => { st with server := (SecureSessionServer.call crypto st.server op).1 }
  | .beginHello payload now ephemeralPrivateKey nonce =>
    if st.connection.inProgress.isSome then st
    else
      let r := beginHello crypto st.connection st.server payload now ephemeralPrivateKey nonce
      { server := r.1.2
        connection := r.1.1
        verifiedKey :=
          if r.1.1.inProgress.isSome then verificationKey st.server payload else st.verifiedKey }
  | .finishHello coreSessionId =>
    { st with connection := (st.connection.finishHello st.server coreSessionId).1 }
  | .processFrame loads route frame =>
    if st.connection.inProgress.isSome then st
    else { st with connection := (st.connection.processFrame aead loads route st.server frame).1 }
  | .close =>
    if st.connection.inProgress.isSome then st
    else { st with connection := st.connection.close }

def machine (crypto : Crypto) (aead : Aead) (server : SecureSessionServer) : Machine Shared Op Unit where
  init := ⟨server, new, none⟩
  step st op := (step crypto aead st op, ())

/-- `device_is_trusted` of an authenticated connection speaks of the key its hello was verified
under. -/
def TrustSound (st : Shared) : Prop :=
  st.connection.authenticated = true → st.connection.deviceIsTrusted st.server = true →
    ∃ deviceId key, st.connection.deviceId = some deviceId ∧
      st.server.trustedDevices.get? deviceId = some key ∧ st.verifiedKey = some key

/-- The second call finds the key that the first one used, or none. -/
def SameKey (st : Shared) : Op → Prop
  | .finishHello _ => ∀ serverHello session key, st.connection.inProgress = some (serverHello, session) →
      st.server.trustedDevices.get? serverHello.clientId = some key → st.verifiedKey = some key
  | _ => True

section
variable {crypto : Crypto} {aead : Aead} {st : Shared}

/-- `process_frame` closes the connection or leaves all but its channel and error count. -/
theorem processFrame_cases (aead : Aead) (loads : Bytes → Except ChannelError Object)
    (route : Object → Option (List Object)) (c : SecureCoreConnection) (server : SecureSessionServer)
    (frame : Value) :
    (c.processFrame aead loads route server frame).1 = c ∨
    (c.processFrame aead loads route server frame).1 = c.close ∨
    ∃ channel errors, (c.processFrame aead loads route server frame).1 =
      { c with channel := some channel, protocolErrors := errors } := by
  unfold processFrame
  split
  · split
    · exact Or.inr (Or.inl rfl)
    split
    · exact Or.inr (Or.inr ⟨_, c.protocolErrors, rfl⟩)
    · exact Or.inr (Or.inl rfl)
    · split
      · simp only
        split
        · exact Or.inr (Or.inr ⟨_, _, rfl⟩)
        · split
          · exact Or.inr (Or.inl rfl)
          · exact Or.inr (Or.inr ⟨_, _, rfl⟩)
      · exact Or.inr (Or.inr ⟨_, _, rfl⟩)
  · exact Or.inl rfl

/-- The first half of a hello only notes what the server answered. -/
theorem beginHello_cases (crypto : Crypto) (c : SecureCoreConnection) (server : SecureSessionServer) (payload : Value) (now : ℚ)
    (ephemeralPrivateKey : Fixed 32) (nonce : Bytes) :
    (beginHello crypto c server payload now ephemeralPrivateKey nonce).1.1 = c ∨
    (c.authenticated = false ∧ ∃ answer,
      (beginHello crypto c server payload now ephemeralPrivateKey nonce).1.1 =
        { c with inProgress := some answer }) := by
  unfold beginHello
  split
  · exact Or.inl rfl
  · rename_i hnot
    split
    · exact Or.inl rfl
    · exact Or.inr ⟨Bool.eq_false_iff.mpr hnot, _, rfl⟩

/-- A remembered key belongs to an authenticated connection and is the one its hello was
verified under. -/
structure Consistent (st : Shared) : Prop where
  authenticated : ∀ key, st.connection.devicePublicKey = some key → st.connection.authenticated = true
  key : ∀ key, st.connection.devicePublicKey = some key → st.verifiedKey = some key

theorem Consistent.trustSound (h : Consistent st) : TrustSound st := by
  intro _ htrusted
  unfold deviceIsTrusted at htrusted
  split at htrusted
  · rename_i deviceId key hid hkey
    unfold SecureSessionServer.isTrustedDevice at htrusted
    split at htrusted
    · cases htrusted
    · rename_i current hcurrent
      have heq : current = key := Subtype.ext (by simpa using htrusted)
      exact ⟨deviceId, key, hid, heq ▸ hcurrent, h.key key hkey⟩
  · cases htrusted

/-- Closing forgets the key. -/
theorem Consistent.closed (st : Shared) : Consistent { st with connection := st.connection.close } where
  authenticated _ h := by cases h
  key _ h := by cases h

theorem Consistent.step (h : Consistent st) {op : Op} (hsame : SameKey st op) :
    Consistent (step crypto aead st op) := by
  cases op with
  | server op => exact ⟨h.authenticated, h.key⟩
  | beginHello payload now ephemeralPrivateKey nonce =>
    simp only [SecureCoreConnection.step]
    split
    · exact h
    rename_i hidle
    obtain hsame | ⟨hnot, answer, hanswer⟩ :=
      beginHello_cases crypto st.connection st.server payload now ephemeralPrivateKey nonce
    · rw [hsame]
      exact ⟨h.authenticated, fun key hkey => by rw [if_neg hidle]; exact h.key key hkey⟩
    · -- an unauthenticated connection remembers no key
      have hnone : ∀ key, st.connection.devicePublicKey ≠ some key := by
        intro key hkey
        rw [h.authenticated key hkey] at hnot
        cases hnot
      rw [hanswer]
      exact ⟨fun key hkey => absurd hkey (hnone key), fun key hkey => absurd hkey (hnone key)⟩
  | finishHello coreSessionId =>
    simp only [SecureCoreConnection.step, finishHello]
    split
    · exact h
    · rename_i serverHello session hprogress
      split
      · exact ⟨h.authenticated, h.key⟩
      · exact ⟨h.authenticated, h.key⟩
      · rename_i key sid hkey
        refine ⟨fun _ _ => rfl, fun key' hkey' => ?_⟩
        rw [← Option.some.inj hkey']
        exact hsame serverHello session key hprogress hkey
  | processFrame loads route frame =>
    simp only [SecureCoreConnection.step]
    split
    · exact h
    obtain hsame | hclosed | ⟨channel, errors, hkept⟩ :=
      processFrame_cases aead loads route st.connection st.server frame
    · rw [hsame]
      exact h
    · rw [hclosed]
      exact Consistent.closed st
    · rw [hkept]
      refine ⟨fun key hkey => ?_, h.key⟩
      have hauth := h.authenticated key hkey
      simp only [SecureCoreConnection.authenticated, Bool.and_eq_true] at hauth ⊢
      exact ⟨rfl, hauth.2⟩
  | close =>
    simp only [SecureCoreConnection.step]
    split
    · exact h
    · exact Consistent.closed st

theorem run_step {server : SecureSessionServer} (pre : List Op) (op : Op) :
    (machine crypto aead server).run (pre ++ [op]) =
      SecureCoreConnection.step crypto aead ((machine crypto aead server).run pre) op :=
  Machine.run_concat _ pre op

theorem run_consistent {server : SecureSessionServer} {ops : List Op}
    (hsame : (machine crypto aead server).Along SameKey ops) :
    Consistent ((machine crypto aead server).run ops) := by
  refine Machine.inv_along (P := SameKey) ?_ ?_ hsame
  · constructor
    · intro key hkey
      cases hkey
    · intro key hkey
      cases hkey
  · intro st op hst hop
    exact hst.step hop

theorem finishHello_ok {c : SecureCoreConnection} {server : SecureSessionServer} {serverHello : ServerHello}
    {session : SecureSession} {key : Fixed 32} (hprogress : c.inProgress = some (serverHello, session))
    (hkey : server.trustedDevices.get? serverHello.clientId = some key) (coreSessionId : PyStr) :
    (c.finishHello server (some coreSessionId)).1 =
      ⟨some session, some coreSessionId, some serverHello.clientId, some key, c.protocolErrors, none⟩ := by
  unfold finishHello
  rw [hprogress]
  simp only [SecureSessionServer.trustedDevicePublicKey, hkey]

/-- Right after a hello is finished the remembered key is the current one. -/
theorem sameKey_of_trustSound {serverHello : ServerHello} {session : SecureSession} {key : Fixed 32}
    {coreSessionId : PyStr} (hprogress : st.connection.inProgress = some (serverHello, session))
    (hkey : st.server.trustedDevices.get? serverHello.clientId = some key)
    (hsound : TrustSound (SecureCoreConnection.step crypto aead st (.finishHello (some coreSessionId)))) :
    st.verifiedKey = some key := by
  unfold TrustSound at hsound
  simp only [SecureCoreConnection.step, finishHello_ok hprogress hkey] at hsound
  have htrusted : st.server.isTrustedDevice serverHello.clientId key = true := by
    simp [SecureSessionServer.isTrustedDevice, hkey]
  obtain ⟨deviceId, key', hid, hcurrent, hverified⟩ := hsound rfl htrusted
  obtain rfl := Option.some.inj hid
  rw [hkey] at hcurrent
  rw [hcurrent]
  exact hverified

/-- The key noted for a hello in progress is the one its signature was verified under. -/
theorem beginHello_verified {c : SecureCoreConnection} {server : SecureSessionServer} {payload : Value}
    {now : ℚ} {ephemeralPrivateKey : Fixed 32} {nonce : Bytes}
    (h : (beginHello crypto c server payload now ephemeralPrivateKey nonce).2 = .ok ()) :
    ∃ hello key serverHello session, parseClientHello payload = .ok hello ∧
      hello.verifies crypto key = true ∧ verificationKey server payload = some key ∧
      serverHello.clientId = hello.clientId ∧
      (beginHello crypto c server payload now ephemeralPrivateKey nonce).1.1.inProgress =
        some (serverHello, session) := by
  unfold beginHello at h ⊢
  split at h
  · cases h
  · rename_i hnot
    obtain ⟨e, he⟩ | ⟨e, he⟩ | ⟨hello, key, answer, hparse, hkey, hanswer, -, hok⟩ :=
      SecureSessionServer.acceptClientHello_cases crypto server payload now ephemeralPrivateKey nonce
    · rw [he] at h
      cases h
    · rw [he] at h
      cases h
    · obtain ⟨hverifies, -, hfields, -⟩ := createServerHello_eq_some.mp hanswer
      rw [if_neg hnot, hok]
      refine ⟨hello, key, answer.1, answer.2, hparse, hverifies, ?_, (answerHello_fields hfields).clientId, rfl⟩
      simp only [verificationKey, hparse, hkey]

end

/-- In every run whose second calls find the key the first calls used, `device_is_trusted` speaks
of the key the hello was verified under; and a `finish` that authenticates keeps this exactly
when it finds that key. The last part says what the history variable stands for. -/
theorem trust_check_follows_key {crypto : Crypto} {aead : Aead} {server : SecureSessionServer}
    {ops : List Op} (hsame : (machine crypto aead server).Along SameKey ops) :
    (∀ pre post, ops = pre ++ post → TrustSound ((machine crypto aead server).run pre)) ∧
    (∀ serverHello session key coreSessionId,
      ((machine crypto aead server).run ops).connection.inProgress = some (serverHello, session) →
      ((machine crypto aead server).run ops).server.trustedDevices.get? serverHello.clientId = some key →
      (TrustSound ((machine crypto aead server).run (ops ++ [.finishHello (some coreSessionId)])) ↔
        SameKey ((machine crypto aead server).run ops) (.finishHello (some coreSessionId)))) ∧
    (∀ (c : SecureCoreConnection) (s : SecureSessionServer) payload now ephemeralPrivateKey nonce,
      (beginHello crypto c s payload now ephemeralPrivateKey nonce).2 = .ok () →
      ∃ hello key serverHello session, parseClientHello payload = .ok hello ∧
        hello.verifies crypto key = true ∧ verificationKey s payload = some key ∧
        serverHello.clientId = hello.clientId ∧
        (beginHello crypto c s payload now ephemeralPrivateKey nonce).1.1.inProgress =
          some (serverHello, session)) := by
  refine ⟨?_, ?_, fun c s payload now ephemeralPrivateKey nonce h => beginHello_verified h⟩
  · intro pre post hops
    exact (run_consistent (hops ▸ hsame).of_append).trustSound
  · intro serverHello session key coreSessionId hprogress hkey
    constructor
    · intro hsound serverHello' session' key' hprogress' hkey'
      rw [run_step] at hsound
      exact sameKey_of_trustSound hprogress' hkey' hsound
    · intro hfinish
      exact (run_consistent (hsame.concat hfinish)).trustSound

/-- The device's key before and after a rotation. -/
def rotatedDevices : Dict PyStr (Fixed 32) :=
  Dict.empty.set (PyStr.ofString "pipa-1") (.fill 32 8)

def pipaBegin : Op := .beginHello (.dict pipaHello.asDict) 0 pcEphemeral pcNonce

def pipaFinish : Op := .finishHello (some (PyStr.ofString "core-1"))

def pipaMachine : Machine Shared Op Unit := machine .checksum .checksum SecureSessionServer.pcServer

theorem trust_check_follows_key_pipa :
    TrustSound (pipaMachine.run [pipaBegin, pipaFinish]) := by
  have hbegin : pipaMachine.Along SameKey [pipaBegin] := Machine.Along.nil.concat trivial
  have hstate : (pipaMachine.run [pipaBegin]).connection.inProgress.map (·.1.clientId) =
        some (PyStr.ofString "pipa-1") ∧
      (pipaMachine.run [pipaBegin]).verifiedKey =
        (pipaMachine.run [pipaBegin]).server.trustedDevices.get? (PyStr.ofString "pipa-1") := by
    decide +kernel
  have hfinish : SameKey (pipaMachine.run [pipaBegin]) pipaFinish := by
    intro serverHello session key hprogress hkey
    obtain ⟨hclient, hverified⟩ := hstate
    rw [hprogress, Option.map_some, Option.some.injEq] at hclient
    rw [hverified, ← hclient]
    exact hkey
  exact (trust_check_follows_key (hbegin.concat hfinish)).1 _ [] (by simp)

/-- The key is rotated between the two calls: the connection goes on under the new key, which
is not the one its hello was verified under. -/
theorem trust_check_after_rotation :
    ¬ TrustSound (pipaMachine.run [pipaBegin, .server (.refresh rotatedDevices), pipaFinish]) := by
  have hstate :
      (pipaMachine.run [pipaBegin, .server (.refresh rotatedDevices), pipaFinish]).connection.authenticated =
        true ∧
      (pipaMachine.run [pipaBegin, .server (.refresh rotatedDevices),
        pipaFinish]).connection.deviceIsTrusted
        (pipaMachine.run [pipaBegin, .server (.refresh rotatedDevices), pipaFinish]).server = true ∧
      (pipaMachine.run [pipaBegin, .server (.refresh rotatedDevices), pipaFinish]).connection.deviceId.bind
          (pipaMachine.run [pipaBegin, .server (.refresh rotatedDevices),
            pipaFinish]).server.trustedDevices.get? ≠
        (pipaMachine.run [pipaBegin, .server (.refresh rotatedDevices), pipaFinish]).verifiedKey := by
    decide +kernel
  obtain ⟨hauth, htrusted, hdiffer⟩ := hstate
  intro hsound
  obtain ⟨deviceId, key, hid, hcurrent, hverified⟩ := hsound hauth htrusted
  rw [hid, Option.bind_some, hcurrent, hverified] at hdiffer
  exact hdiffer rfl

end SecureCoreConnection

end Pipa.Secure
