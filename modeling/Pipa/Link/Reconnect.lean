import Pipa.Core.Runs
import Pipa.Firmware.PipaProtocol
import Pipa.Lib.Machine
import Pipa.Link.Connection

/- The v1 device and its `AuthenticatedConnection` on a live serial link, and when
   a device that has no session gets a challenge.

   The connection keeps its `session_id` until it is closed. Nothing the device
   does closes it, a restart and the server timeout included; and every
   `challenge_request` puts its idle timeout off. So once a hello was accepted
   on the connection, a device that has lost the session is answered with
   `already_authenticated` for as long as it goes on asking.

   Two queues join the parties; each holds whole documents, and any of them may
   be lost. The Core's state and the verifier are shared with other connections,
   which may change them between any two steps. -/
namespace Pipa.Link
open Pipa.Lib Pipa.Core Pipa.Secure Pipa.Unlock
open Pipa.Firmware (Platform PipaProtocol Output Now JsonObject)
open Pipa.Serial (SerialGateway encodeLine maxLineBytes)

/-! ## The two ends -/

/-- A document of the device, and whether it was authenticated when it wrote it. -/
structure Sent where
  document : JsonObject
  authenticated : Bool

/-- What a device writes; comments are skipped by the gateway. -/
def sentBy (p : PipaProtocol) (outputs : List Output) : List Sent :=
  outputs.filterMap (fun output => match output with
    | .json document => some ⟨document, p.authenticated⟩
    | .log _ => none)

/-- `SerialGateway._send`: what is written for a payload, `none` where it raises. -/
def written (payload : Object) : Option Object :=
  (encodeLine payload).map (fun encoded =>
    if encoded.length > maxLineBytes then SerialGateway.errorMessage "response_too_large" else payload)

/-- The loop over `_send`: what is written, and whether an exception ended it. -/
def sendAll : List Object → List Object × Bool
  | [] => ([], false)
  | response :: responses =>
    match written response with
    | none => ([], true)
    | some payload => (payload :: (sendAll responses).1, (sendAll responses).2)

structure SerialLink where
  device : PipaProtocol
  toAgent : List Sent
  toDevice : List Object
  gateway : SerialGateway (AuthenticatedConnection × Agent)

namespace SerialLink
variable {ω : Type}

def connection (l : SerialLink) : AuthenticatedConnection := l.gateway.protocol.1

def agent (l : SerialLink) : Agent := l.gateway.protocol.2

/-- The device has made a step. -/
def acted (l : SerialLink) (r : PipaProtocol × List Output) : SerialLink :=
  { l with device := r.1, toAgent := l.toAgent ++ sentBy r.1 r.2 }

/-- `finally: protocol.close()`. -/
def closing (g : SerialGateway (AuthenticatedConnection × Agent)) (closed : Bool) :
    SerialGateway (AuthenticatedConnection × Agent) :=
  if closed then { g with closed := true, protocol := g.protocol.1.close g.protocol.2 } else g

/-- One line of the gateway's loop, and what it answers. -/
def serve (core : PipaCore ω) (verify : Fixed 32 → Fixed 64 → Bytes → Bool) (l : SerialLink) (call : Call ω) :
    SerialLink × List Object :=
  match l.toAgent with
  | [] => (l, [])
  | sent :: rest =>
    if l.gateway.closed then ({ l with toAgent := rest }, [])
    else
      let loaded := match toItems sent.document with
        | none => .error .protocolError
        | some payload => .ok payload
      let g := l.gateway.line (fun _ => loaded) (AuthenticatedConnection.process core verify call) []
      let responses := g.sent.drop l.gateway.sent.length
      ({ l with
          toAgent := rest
          toDevice := l.toDevice ++ (sendAll responses).1
          gateway := closing g (g.closed || (sendAll responses).2) }, responses)

/-- The condition of the gateway's loop. -/
def idle (l : SerialLink) (now : ℚ) : SerialLink :=
  { l with gateway := closing l.gateway (!l.gateway.closed && l.connection.idle now) }

inductive Step (ω : Type) where
  | device (a : PipaProtocol.Step) -- the device's timers and its user
  | restart (now : Now)
  | receive (now : Now) -- the device takes the first message
  | loseToAgent (i : Nat)
  | loseToDevice (i : Nat)
  | serve (call : Call ω)
  | idle (now : ℚ)
  | others (state : State) -- what other connections, and the pruning in their calls, leave of the Core
  | verifier (op : AuthorizationVerifier.Op) -- a call of another connection

def withAgent (l : SerialLink) (a : Agent) : SerialLink :=
  { l with gateway := { l.gateway with protocol := (l.connection, a) } }

section
variable (platform : Platform) (core : PipaCore ω) (verify : Fixed 32 → Fixed 64 → Bytes → Bool)

def step (l : SerialLink) : Step ω → SerialLink × List Object
  | .device a => (l.acted (l.device.ownStep platform a), [])
  | .restart now => (l.acted (PipaProtocol.begin platform.config now), [])
  | .receive now =>
    match l.toDevice with
    | [] => (l, [])
    | message :: rest =>
      ({ l with toDevice := rest }.acted (l.device.handleMessage platform now (ofItems message)), [])
  | .loseToAgent i => ({ l with toAgent := l.toAgent.eraseIdx i }, [])
  | .loseToDevice i => ({ l with toDevice := l.toDevice.eraseIdx i }, [])
  | .serve call => l.serve core verify call
  | .idle now => (l.idle now, [])
  | .others state => (l.withAgent { l.agent with state := state }, [])
  | .verifier op => (l.withAgent { l.agent with verifier := (l.agent.verifier.step verify op).1 }, [])

/-- A verifier with these devices; its constructor refuses an id that is no identifier. -/
structure Paired where
  devices : Dict PyStr (Fixed 32)
  valid : devices.entries.all (fun e => isUnlockIdentifier e.1) = true

/-- The device starts at `start`, and the gateway has opened its port at `opened`. -/
def machine (paired : Paired) (skew : Int) (state : State) (start : Now) (opened : ℚ) :
    Machine SerialLink (Step ω) (List Object) where
  init :=
    { device := (PipaProtocol.begin platform.config start).1
      toAgent := sentBy (PipaProtocol.begin platform.config start).1 (PipaProtocol.begin platform.config start).2
      toDevice := []
      gateway := { protocol := (.new opened, ⟨state, ⟨paired.devices, Dict.empty, Dict.empty, skew⟩⟩) } }
  step l a := l.step platform core verify a

end

/-! ## The verifier trusts identifiers only -/

/-- Whoever is trusted has been through `register_device`. -/
def Registered (v : AuthorizationVerifier) : Prop :=
  ∀ deviceId, v.trustedDevices.contains deviceId = true → isUnlockIdentifier deviceId = true

section
variable {v v' : AuthorizationVerifier} {verify : Fixed 32 → Fixed 64 → Bytes → Bool}

theorem Registered.of_eq (h : Registered v) (heq : v'.trustedDevices = v.trustedDevices) : Registered v' := by
  intro deviceId htrusted
  rw [heq] at htrusted
  exact h deviceId htrusted

theorem Registered.step (h : Registered v) (op : AuthorizationVerifier.Op) : Registered (v.step verify op).1 := by
  cases op with
  | register deviceId publicKey =>
    simp only [AuthorizationVerifier.step, AuthorizationVerifier.registerDevice]
    split
    · exact h
    · rename_i hvalid
      intro other htrusted
      rw [Bool.not_eq_true, Bool.not_eq_false'] at hvalid
      by_cases heq : other = deviceId
      · rw [heq]
        exact hvalid
      · simp only [Dict.contains, Dict.get?_set, if_neg heq] at htrusted
        exact h other htrusted
  | revoke deviceId =>
    intro other htrusted
    simp only [AuthorizationVerifier.step, AuthorizationVerifier.revokeDevice, Dict.contains, Dict.get?_erase]
      at htrusted
    split at htrusted
    · cases htrusted
    · exact h other htrusted
  | create deviceId now ttlSeconds operation idBytes nonce =>
    exact h.of_eq (AuthorizationVerifier.createChallenge_trusted v deviceId now ttlSeconds operation idBytes nonce)
  | verify response now => exact h.of_eq (AuthorizationVerifier.verifyResponse_trusted verify v response now)

end

/-- `process` does not change who is trusted. -/
theorem process_trusted (core : PipaCore ω) (verify : Fixed 32 → Fixed 64 → Bytes → Bool) (call : Call ω)
    (s : AuthenticatedConnection × Agent) (m : ClientMessage) :
    (AuthenticatedConnection.process core verify call s m).1.2.verifier.trustedDevices =
      s.2.verifier.trustedDevices := by
  unfold AuthenticatedConnection.process
  simp only
  split
  · -- a challenge is created, or the request refused
    unfold AuthenticatedConnection.challenge
    split
    · rfl
    split
    · rfl
    have htrusted := AuthorizationVerifier.createChallenge_trusted s.2.verifier
    simp only [AuthenticatedConnection.createChallenge]
    split
    · exact htrusted _ _ _ _ _ _
    · exact htrusted _ _ _ _ _ _
    · exact htrusted _ _ _ _ _ _
  · -- a hello is verified
    have hverified : ∀ challengeId deviceId signature, (AuthenticatedConnection.verifyResponse verify s.2
        call.unlockClock challengeId deviceId signature).1.trustedDevices = s.2.verifier.trustedDevices := by
      intro challengeId deviceId signature
      unfold AuthenticatedConnection.verifyResponse
      split
      · rfl
      · exact AuthorizationVerifier.verifyResponse_trusted verify _ _ _
    split
    rotate_left
    · -- the Core does not know the verifier
      split
      · rfl
      · rfl
    unfold AuthenticatedConnection.authenticate
    split
    · simp only
      split
      · exact hverified _ _ _
      · exact hverified _ _ _
      · exact hverified _ _ _
      · exact hverified _ _ _
    · rfl

section
variable {platform : Platform} {core : PipaCore ω} {verify : Fixed 32 → Fixed 64 → Bytes → Bool} {l : SerialLink}

theorem closing_verifier (g : SerialGateway (AuthenticatedConnection × Agent)) (closed : Bool) :
    (closing g closed).protocol.2.verifier = g.protocol.2.verifier := by
  unfold closing
  split
  · simp only [AuthenticatedConnection.close]
    split
    · rfl
    · rfl
  · rfl

/-- A line goes through `process`, or the protocol objects stay as they are. -/
theorem line_protocol {σ : Type} (loads : Bytes → Except Serial.Failure Object)
    (process : σ → ClientMessage → σ × Except Serial.Failure Serial.ConnectionResult) (g : SerialGateway σ)
    (raw : Bytes) :
    (g.line loads process raw).protocol = g.protocol ∨
      ∃ m, (g.line loads process raw).protocol = (process g.protocol m).1 := by
  have hfailed : ∀ (g : SerialGateway σ) e, (g.failed e).protocol = g.protocol := by
    intro g e
    cases e with
    | protocolError => rfl
    | other => rfl
  unfold SerialGateway.line
  split
  · exact Or.inl (hfailed g _)
  split
  · exact Or.inl (hfailed g _)
  · rename_i message _
    refine Or.inr ⟨message, ?_⟩
    simp only
    split
    · exact hfailed _ _
    · rfl

theorem step_registered (h : Registered l.agent.verifier) (a : Step ω) :
    Registered (l.step platform core verify a).1.agent.verifier := by
  cases a with
  | device _ => exact h
  | restart _ => exact h
  | receive now =>
    unfold step
    simp only
    split
    · exact h
    · exact h
  | loseToAgent _ => exact h
  | loseToDevice _ => exact h
  | serve call =>
    show Registered (l.serve core verify call).1.agent.verifier
    unfold serve
    split
    · exact h
    split
    · exact h
    simp only [agent]
    rw [closing_verifier]
    obtain hsame | ⟨m, hprocess⟩ := line_protocol _ (AuthenticatedConnection.process core verify call) l.gateway []
    · rw [hsame]
      exact h
    · rw [hprocess]
      exact h.of_eq (process_trusted core verify call l.gateway.protocol m)
  | idle now =>
    show Registered (closing l.gateway _).protocol.2.verifier
    rw [closing_verifier]
    exact h
  | others state => exact h
  | verifier op => exact h.step op

/-! ## A request that is taken up -/

/-- The gateway is about to take a `challenge_request` of a device without a session: at least a
second after the last one it answered, for a trusted device, and with room in the verifier. -/
structure Asks (l : SerialLink) (call : Call ω) (deviceId : PyStr) : Prop where
  live : l.gateway.closed = false
  request : ∃ document rest, l.toAgent = ⟨document, false⟩ :: rest ∧
    parse document = some (.challengeRequest deviceId)
  spaced : l.connection.rateLimited call.challenge = false
  trusted : l.agent.verifier.trustedDevices.contains deviceId = true
  room : l.agent.verifier.hasRoom call.unlockClock deviceId = true

theorem serve_responses {document : JsonObject} {b : Bool} {rest : List Sent} {m : ClientMessage}
    (hlive : l.gateway.closed = false) (hqueue : l.toAgent = ⟨document, b⟩ :: rest)
    (hparse : parse document = some m) {call : Call ω} {result : Serial.ConnectionResult}
    (hresult : (AuthenticatedConnection.process core verify call l.gateway.protocol m).2 = .ok result) :
    (l.serve core verify call).2 = result.responses := by
  obtain ⟨items, hitems, hmessage⟩ := Option.bind_eq_some_iff.mp hparse
  simp only [serve, hqueue, hlive, Bool.false_eq_true, if_false, hitems, SerialGateway.line, hmessage, hresult]
  exact List.drop_left

/-- While the connection has a session, every request is refused. -/
theorem challenge_refused (core : PipaCore ω) (verify : Fixed 32 → Fixed 64 → Bytes → Bool) (call : Call ω)
    (deviceId : PyStr) {sessionId : PyStr} {s : AuthenticatedConnection × Agent} (hsession : s.1.sessionId = some sessionId) :
    (AuthenticatedConnection.process core verify call s (.challengeRequest deviceId)).2 =
      .ok (AuthenticatedConnection.refusal .alreadyAuthenticated false) := by
  simp [AuthenticatedConnection.process, AuthenticatedConnection.challenge, hsession]

/-- Without one it is granted. -/
theorem challenge_granted (core : PipaCore ω) (verify : Fixed 32 → Fixed 64 → Bytes → Bool) {call : Call ω}
    {deviceId : PyStr} {s : AuthenticatedConnection × Agent} (hregistered : Registered s.2.verifier) (hsession : s.1.sessionId = none)
    (hspaced : s.1.rateLimited call.challenge = false)
    (htrusted : s.2.verifier.trustedDevices.contains deviceId = true)
    (hroom : s.2.verifier.hasRoom call.unlockClock deviceId = true) :
    ∃ challenge, challenge.deviceId = deviceId ∧
      (AuthenticatedConnection.process core verify call s (.challengeRequest deviceId)).2 =
        .ok ⟨[AuthenticatedConnection.challengeMessage challenge], false⟩ := by
  obtain ⟨challenge, hchallenge, hdevice⟩ :=
    AuthorizationVerifier.createChallenge_ok (hregistered deviceId htrusted) htrusted hroom
      (show isUnlockIdentifier AuthenticatedConnection.sessionOperation = true by decide)
      (show 1 ≤ defaultTtlSeconds by decide) (by decide) call.challengeId call.nonce
  refine ⟨challenge, hdevice, ?_⟩
  unfold AuthenticatedConnection.rateLimited at hspaced
  simp only [AuthenticatedConnection.process, AuthenticatedConnection.challenge, AuthenticatedConnection.rateLimited,
    hsession, hspaced, Option.isSome_none, Bool.false_eq_true, if_false, AuthenticatedConnection.createChallenge,
    hchallenge]

/-- The error is not a challenge. -/
theorem refusal_ne_challenge (challenge : Challenge) :
    [payload (.error .alreadyAuthenticated none)] ≠ [AuthenticatedConnection.challengeMessage challenge] := by
  intro h
  have hmessage := (List.cons.inj h).1
  simp [payload, serverMessage, AuthenticatedConnection.challengeMessage] at hmessage

theorem Asks.refused {call : Call ω} {deviceId sessionId : PyStr} (hasks : Asks l call deviceId)
    (hsession : l.connection.sessionId = some sessionId) :
    (l.serve core verify call).2 = [payload (.error .alreadyAuthenticated none)] := by
  obtain ⟨document, rest, hqueue, hparse⟩ := hasks.request
  exact serve_responses hasks.live hqueue hparse (challenge_refused core verify call deviceId hsession)

/-! ## Runs -/

/-- Every request in the run is answered with a challenge. -/
def RequestsAnswered (m : Machine SerialLink (Step ω) (List Object)) (steps : List (Step ω)) : Prop :=
  ∀ pre call post deviceId, steps = pre ++ .serve call :: post → Asks (m.run pre) call deviceId →
    ∃ challenge, challenge.deviceId = deviceId ∧
      m.out pre (.serve call) = [AuthenticatedConnection.challengeMessage challenge]

/-- The connection has no session when it takes up a request. -/
def NoSessionHeld (l : SerialLink) : Step ω → Prop
  | .serve call => ∀ deviceId, Asks l call deviceId → l.connection.sessionId = none
  | _ => True

theorem run_registered {paired : Paired} {skew : Int} {state : State} {start : Now} {opened : ℚ}
    (steps : List (Step ω)) :
    Registered ((machine platform core verify paired skew state start opened).run steps).agent.verifier := by
  induction steps using List.reverseRecOn with
  | nil =>
    intro deviceId htrusted
    obtain ⟨key, hkey⟩ := Option.isSome_iff_exists.mp htrusted
    exact List.all_eq_true.mp paired.valid (deviceId, key) (Dict.get?_eq_some.mp hkey)
  | append_singleton pre a ih =>
    rw [Machine.run_concat]
    exact step_registered ih a

end

/-- Over every joint run: a device without a session gets a challenge whenever it may ask for one,
exactly when the connection holds no session at any such request. -/
theorem requests_answered_iff (platform : Platform) (core : PipaCore ω)
    (verify : Fixed 32 → Fixed 64 → Bytes → Bool) (paired : Paired) (skew : Int) (state : State) (start : Now)
    (opened : ℚ) (steps : List (Step ω)) :
    RequestsAnswered (machine platform core verify paired skew state start opened) steps ↔
      (machine platform core verify paired skew state start opened).Along NoSessionHeld steps := by
  constructor
  · intro hanswered pre a post hsteps
    cases a with
    | serve call =>
      intro deviceId hasks
      obtain ⟨challenge, -, hout⟩ := hanswered pre call post deviceId hsteps hasks
      cases hsession : ((machine platform core verify paired skew state start opened).run pre).connection.sessionId with
      | none => rfl
      | some sessionId => exact absurd ((hasks.refused hsession).symm.trans hout) (refusal_ne_challenge challenge)
    | _ => trivial
  · intro hnone pre call post deviceId hsteps hasks
    obtain ⟨document, rest, hqueue, hparse⟩ := hasks.request
    obtain ⟨challenge, hdevice, hgranted⟩ :=
      challenge_granted core verify (run_registered pre) (hnone pre (.serve call) post hsteps deviceId hasks)
        hasks.spaced hasks.trusted hasks.room
    exact ⟨challenge, hdevice, serve_responses hasks.live hqueue hparse hgranted⟩

/-! ## A restart -/

/-- A device with its keys. -/
def board : Platform where
  config := ⟨literal "pipa-1", literal "0.1.0"⟩
  sign message := (encode (Crypto.checksum.sign pipaEphemeral message).val).bytes
  isDuplicateFreeJson _ := true
  deserializeJson _ := none

def boardPaired : Paired := ⟨AuthorizationVerifier.pipaDevices, by decide⟩

/-- A call of the connection at this second. -/
def callAt (seconds : Nat) : Call Unit where
  world := ()
  clock := ⟨1000 + seconds, 1000 + seconds, 1000 + seconds⟩
  unlockClock := 1000 + seconds
  activity := seconds
  challenge := seconds
  sessionId := .fill 16 7
  confirmationId := .fill 12 8
  challengeId := .fill 16 1
  nonce := .fill 32 2

def boardMachine : Machine SerialLink (Step Unit) (List Object) :=
  machine board lockCore Crypto.checksum.verify boardPaired 5 State.initial ⟨0, none⟩ 0

/-- The device authenticates itself, and is started again after a minute. -/
def restartRun : List (Step Unit) :=
  [.serve (callAt 1), .receive ⟨1000, none⟩, .serve (callAt 2), .receive ⟨2000, none⟩, .serve (callAt 3),
   .receive ⟨3000, none⟩, .restart ⟨0, none⟩]

/-- The state it asks in again, but for what is not looked at. -/
def refusedRequest (l : SerialLink) : Bool :=
  !l.gateway.closed && l.connection.sessionId.isSome && !l.connection.rateLimited (callAt 60).challenge &&
  l.agent.verifier.trustedDevices.contains (PyStr.ofString "pipa-1") &&
  l.agent.verifier.hasRoom (callAt 60).unlockClock (PyStr.ofString "pipa-1") &&
  match l.toAgent with
  | [⟨document, false⟩] =>
    match parse document with
    | some (.challengeRequest deviceId) => deviceId = PyStr.ofString "pipa-1"
    | _ => false
  | _ => false

theorem refusedRequest_asks {l : SerialLink} (h : refusedRequest l = true) :
    Asks l (callAt 60) (PyStr.ofString "pipa-1") ∧ ∃ sessionId, l.connection.sessionId = some sessionId := by
  simp only [refusedRequest, Bool.and_eq_true, Bool.not_eq_true'] at h
  obtain ⟨⟨⟨⟨⟨hlive, hsession⟩, hspaced⟩, htrusted⟩, hroom⟩, hrequest⟩ := h
  refine ⟨⟨hlive, ?_, hspaced, htrusted, hroom⟩, Option.isSome_iff_exists.mp hsession⟩
  split at hrequest
  · rename_i document hqueue
    split at hrequest
    · rename_i deviceId hparse
      rw [of_decide_eq_true hrequest] at hparse
      exact ⟨document, [], hqueue, hparse⟩
    · cases hrequest
  · cases hrequest

/-- A device that is started again on a live link is not let in. -/
theorem restarted_device_refused : ¬ RequestsAnswered boardMachine (restartRun ++ [.serve (callAt 60)]) := by
  have hstate : refusedRequest (boardMachine.run restartRun) = true := by decide +kernel
  obtain ⟨hasks, sessionId, hsession⟩ := refusedRequest_asks hstate
  intro hanswered
  obtain ⟨challenge, -, hout⟩ := hanswered restartRun (callAt 60) [] _ rfl hasks
  have hrefused : boardMachine.out restartRun (.serve (callAt 60)) = [payload (.error .alreadyAuthenticated none)] := by
    change (SerialLink.serve lockCore Crypto.checksum.verify (boardMachine.run restartRun) (callAt 60)).2 = _
    generalize boardMachine.run restartRun = l at hasks hsession
    exact hasks.refused hsession
  exact refusal_ne_challenge challenge (hrefused.symm.trans hout)

end SerialLink

end Pipa.Link
