import Mathlib.Data.Nat.Digits.Defs
import Pipa.Secure.Connection
import Pipa.Secure.Nonces
import Pipa.Serial.Gateway

/- What gateway v2 writes to its port: `SecureSerialGateway` over
   `SecureCoreConnection`, from the connection's opening on.

   `seal` counts a record when it encrypts it, and `_send` drops a line that is
   longer than `MAX_LINE_BYTES` afterwards, leaving the connection open. From then
   on the peer waits for a sequence number that never comes. So the numbers on the
   wire have no gap exactly as long as no answer of the Core is too long for a
   line, and how long that is follows from the answer alone (`frameLength`).

   The secure session that a connection holds starts its numbers anew, and after
   three malformed messages the same connection may start another one: `start`
   notes where in `written` the frames of the current session begin. -/
namespace Pipa.Serial
open Pipa.Lib Pipa.Secure

/-! ## The connection object -/

/-- What a message meets outside the gateway: the clock, random values, the Core's new session,
`json.loads` of the decrypted payload, and the Core's answer (`none` is a `ProtocolError`). -/
structure World where
  now : ℚ
  ephemeralPrivateKey : Fixed 32
  nonce : Bytes
  coreSessionId : Option PyStr
  loads : Bytes → Except ChannelError Object
  route : Object → Option (List Object)

/-- The connection object and the session server it was built with. -/
structure Agent where
  connection : SecureCoreConnection
  server : SecureSessionServer

namespace Agent

/-- `accept_client_hello`. -/
def acceptClientHello (crypto : Crypto) (w : World) (a : Agent) (payload : Object) : Agent × Option Object :=
  match a.connection.beginHello crypto a.server (.dict payload) w.now w.ephemeralPrivateKey w.nonce with
  | ((c, server), .error _) => (⟨c, server⟩, none)
  | ((c, server), .ok ()) =>
    match c.finishHello server w.coreSessionId with
    | (c', .error _) => (⟨c', server⟩, none)
    | (c', .ok serverHello) => (⟨c', server⟩, some serverHello.asDict)

/-- The fields of a frame. -/
def fields : Value → Object
  | .dict fields => fields
  | _ => []

/-- `process_frame`. -/
def processFrame (aead : Aead) (w : World) (a : Agent) (payload : Object) : Agent × Option (List Object) :=
  match a.connection.processFrame aead w.loads w.route a.server (.dict payload) with
  | (c, .error _) => ({ a with connection := c }, none)
  | (c, .ok frames) => ({ a with connection := c }, some (frames.map fields))

/-- The connection object as the gateway uses it. -/
def core (crypto : Crypto) (aead : Aead) (w : World) : SecureCore Agent where
  authenticated a := a.connection.authenticated
  acceptClientHello := acceptClientHello crypto w
  processFrame := processFrame aead w

end Agent

/-! ## Runs -/

/-- A gateway, and where the frames of its secure session begin in what it wrote. -/
structure FrameLog where
  gateway : SecureSerialGateway Agent
  start : Nat

namespace FrameLog

inductive Op where
  | receive (world : World) (strictJson : Bytes → Option Object) (raw : Bytes)
  | checkTrust (devices : Option (Dict PyStr (Fixed 32))) -- `none`: no provider
  | stop -- a timeout, the end of the agent, a failed write

/-- The revocation check before a read. -/
def checkTrust (a : Agent) (devices : Option (Dict PyStr (Fixed 32))) : Agent × Bool :=
  match devices with
  | none => (a, !a.connection.authenticated || a.connection.deviceIsTrusted a.server)
  | some devices =>
    let r := a.server.refreshTrustedDevices devices
    ({ a with server := r.1 }, r.2 && (!a.connection.authenticated || a.connection.deviceIsTrusted r.1))

def step (crypto : Crypto) (aead : Aead) (l : FrameLog) : Op → FrameLog
  | .receive world strictJson raw =>
    let g := (SecureSerialGateway.handler strictJson (Agent.core crypto aead world)).receive l.gateway raw
    { gateway := g
      start :=
        if !l.gateway.secureCore.connection.authenticated && g.secureCore.connection.authenticated then
          g.written.length
        else l.start }
  | .checkTrust devices =>
    if l.gateway.closed then l
    else
      let r := checkTrust l.gateway.secureCore devices
      { l with gateway := { l.gateway with secureCore := r.1, closed := !r.2 } }
  | .stop => { l with gateway := { l.gateway with closed := true } }

def machine (crypto : Crypto) (aead : Aead) (server : SecureSessionServer) : Machine FrameLog Op Unit where
  init := ⟨{ secureCore := ⟨SecureCoreConnection.new, server⟩ }, 0⟩
  step l op := (l.step crypto aead op, ())

/-- The encrypted frames of the current session on the wire. -/
def frames (l : FrameLog) : List Object := l.gateway.written.drop l.start

/-- `0, 1, 2, ...`, and none missing at the end. -/
def Gapless (l : FrameLog) : Prop :=
  l.gateway.closed = false →
    l.frames.map (fun f => f.get? (PyStr.ofString "sequence")) =
      (List.range l.frames.length).map (fun i => some (.int i)) ∧
    ∀ session, l.gateway.secureCore.connection.channel = some session → session.sendSequence = l.frames.length

/-- What the Core answers to the message in a line. -/
def responses (aead : Aead) (l : FrameLog) (world : World) (strictJson : Bytes → Option Object) (raw : Bytes) :
    List Object :=
  if isComment raw || raw.length > maxLineBytes then []
  else match strictJson raw, l.gateway.secureCore.connection.channel with
    | some payload, some session =>
      match (SecureJsonChannel.openMessage aead world.loads session (.dict payload)).2 with
      | .ok message => (world.route message).getD []
      | .error _ => []
    | _, _ => []

end FrameLog

/-- The length of the line that carries a payload of `payloadBytes` bytes. -/
def frameLength (sessionId : PyStr) (sequence payloadBytes : Nat) : Nat :=
  67 + (toString sequence).length + sessionId.length + ((payloadBytes + 16) * 4 + 2) / 3

/-- Every answer of the Core fits into a line, numbered as it will be. -/
def FrameLog.Fits (aead : Aead) (l : FrameLog) : FrameLog.Op → Prop
  | .receive world strictJson raw =>
    ∀ session, l.gateway.secureCore.connection.channel = some session →
      ∀ i response encoded, (l.responses aead world strictJson raw)[i]? = some response →
        canonical response = some encoded →
        frameLength session.sessionId (session.sendSequence + i) encoded.length ≤ maxLineBytes
  | _ => True

/-! ## The length of a line -/

theorem digits_length (n : Nat) : (PyStr.ofString (toString n)).bytes.length = (toString n).length := by
  rw [(digits_ascii n).bytes_eq, List.length_map, PyStr.ofString, List.length_map, String.length_toList]

/-- The line of a frame, and its length. -/
theorem encodeLine_sealedFrame {sessionId : PyStr} (hs : isIdentifier sessionId = true) (sequence payloadBytes : Nat)
    {ciphertext : Bytes} (hlength : ciphertext.length = payloadBytes + 16) :
    ∃ line, encodeLine (SecureSession.sealedFrame sessionId sequence ciphertext) = some line ∧
      line.length = frameLength sessionId sequence payloadBytes := by
  have hplain := isIdentifier_plain hs
  have hcipher : Plain (encode ciphertext) := encode_idCode ciphertext
  have htext : dumps false (.dict (SecureSession.sealedFrame sessionId sequence ciphertext)) =
      some (PyStr.ofString "\x7b\"protocol_version\":2,\"sequence\":" ++
        (PyStr.ofString (toString sequence) ++ (PyStr.ofString ",\"session_id\":\"" ++
        (sessionId ++ (PyStr.ofString "\",\"ciphertext\":\"" ++
        (encode ciphertext ++ PyStr.ofString "\"\x7d")))))) := by
    show some (PyStr.ofString "\x7b" ++ commaJoin [
      dumpPair (PyStr.ofString "protocol_version", PyStr.ofString "2"),
      dumpPair (PyStr.ofString "sequence", PyStr.ofString (toString sequence)),
      dumpPair (PyStr.ofString "session_id", dumpStr sessionId),
      dumpPair (PyStr.ofString "ciphertext", dumpStr (encode ciphertext))] ++ PyStr.ofString "\x7d") = _
    rw [hplain.dumpStr, hcipher.dumpStr]
    generalize PyStr.ofString (toString sequence) = digits
    simp (disch := decide) only [dumpPair_literal, commaJoin, List.append_assoc, ofString_join,
      String.reduceAppend, ← PyStr.ofString_append]
  unfold encodeLine
  rw [htext, Option.bind_some, PyStr.Ascii.encode]
  · refine ⟨_, rfl, ?_⟩
    have hsession : sessionId.bytes.length = sessionId.length := by
      rw [hplain.ascii.bytes_eq, List.length_map]
    have hbase64 : (encode ciphertext).bytes.length = ((payloadBytes + 16) * 4 + 2) / 3 := by
      rw [hcipher.ascii.bytes_eq, List.length_map, encode_length, hlength]
    simp only [PyStr.bytes_append, List.length_append, digits_length, hsession, hbase64, frameLength]
    have h1 : (PyStr.ofString "\x7b\"protocol_version\":2,\"sequence\":").bytes.length = 33 := by decide
    have h2 : (PyStr.ofString ",\"session_id\":\"").bytes.length = 15 := by decide
    have h3 : (PyStr.ofString "\",\"ciphertext\":\"").bytes.length = 16 := by decide
    have h4 : (PyStr.ofString "\"\x7d").bytes.length = 2 := by decide
    have h5 : (PyStr.ofString "\n").bytes.length = 1 := by decide
    omega
  · simp only [PyStr.ascii_append]
    exact ⟨⟨by decide, digits_ascii _, by decide, hplain.ascii, by decide, hcipher.ascii, by decide⟩, by decide⟩

/-! ## What is sealed -/

section
variable {aead : Aead} {session session' : SecureSession}

/-- The frame of one answer, under the number the session is at. -/
theorem sealMessage_ok (hlaw : aead.Lawful) {response : Object} {frame : Value}
    (h : SecureJsonChannel.sealMessage aead session response = (session', .ok frame)) :
    session' = { session with sendSequence := session.sendSequence + 1 } ∧ session.sendSequence ≤ maxSequence ∧
      ∃ encoded ciphertext, canonical response = some encoded ∧ ciphertext.length = encoded.length + 16 ∧
        frame = .dict (SecureSession.sealedFrame session.sessionId session.sendSequence ciphertext) := by
  unfold SecureJsonChannel.sealMessage at h
  split at h
  · cases h
  · rename_i encoded hencoded
    split at h
    · cases h
    · by_cases hseal : session.CanSeal encoded SecureJsonChannel.secureJsonAad
      · rw [SecureSession.sealRecord_ok aead session hseal] at h
        obtain ⟨hsession, hframe⟩ := Prod.mk.inj h
        exact ⟨hsession.symm, hseal.sequence, encoded, _, hencoded, hlaw.length _ _ _ _,
          (Except.ok.inj hframe).symm⟩
      · obtain ⟨e, hfails, -⟩ := SecureSession.sealRecord_fails aead session hseal
        rw [hfails] at h
        cases h

/-- The frames of a list of answers: numbered on from the session's count. -/
structure Sealed (session : SecureSession) (responses : List Object) (frames : List Value)
    (session' : SecureSession) : Prop where
  session' : session' = { session with sendSequence := session.sendSequence + responses.length }
  length : frames.length = responses.length
  frame : ∀ i frame, frames[i]? = some frame → session.sendSequence + i ≤ maxSequence ∧
    ∃ response encoded ciphertext, responses[i]? = some response ∧ canonical response = some encoded ∧
      ciphertext.length = encoded.length + 16 ∧
      frame = .dict (SecureSession.sealedFrame session.sessionId (session.sendSequence + i) ciphertext)

theorem sealMessages_ok (hlaw : aead.Lawful) {responses : List Object} {frames : List Value}
    (h : SecureJsonChannel.sealMessages aead session responses = (session', .ok frames)) :
    Sealed session responses frames session' := by
  induction responses generalizing session session' frames with
  | nil =>
    obtain ⟨rfl, hframes⟩ := Prod.mk.inj h
    obtain rfl := Except.ok.inj hframes
    exact ⟨rfl, rfl, by simp⟩
  | cons response responses ih =>
    simp only [SecureJsonChannel.sealMessages] at h
    split at h
    · cases h
    · rename_i next frame hfirst
      obtain ⟨rfl, hsequence, hframe⟩ := sealMessage_ok hlaw hfirst
      obtain ⟨hsession, hframes⟩ := Prod.mk.inj h
      cases hrest : SecureJsonChannel.sealMessages aead
          { session with sendSequence := session.sendSequence + 1 } responses with
      | mk last result =>
        rw [hrest] at hsession hframes
        cases result with
        | error e => cases hframes
        | ok later =>
          obtain rfl := Except.ok.inj hframes
          obtain ⟨hlast, hlength, hlater⟩ := ih hrest
          refine ⟨?_, by simp [hlength], ?_⟩
          · rw [← hsession, hlast]
            simp only [List.length_cons]
            congr 1
            omega
          · intro i f hf
            cases i with
            | zero =>
              obtain rfl := Option.some.inj hf
              obtain ⟨encoded, ciphertext, hencoded, hcipher, hdict⟩ := hframe
              exact ⟨hsequence, response, encoded, ciphertext, rfl, hencoded, hcipher, hdict⟩
            | succ i =>
              have hnumber : session.sendSequence + 1 + i = session.sendSequence + (i + 1) := by omega
              have hthis := hlater i f hf
              simp only [hnumber] at hthis
              exact hthis

/-- `open_message` only moves the receive counter. -/
theorem openMessage_keeps (aead : Aead) (loads : Bytes → Except ChannelError Object) (session : SecureSession)
    (frame : Value) :
    (SecureJsonChannel.openMessage aead loads session frame).1.sendSequence = session.sendSequence ∧
      (SecureJsonChannel.openMessage aead loads session frame).1.sessionId = session.sessionId := by
  unfold SecureJsonChannel.openMessage
  split
  · split
    · exact ⟨rfl, rfl⟩
    · rename_i fields _
      obtain ⟨e, he⟩ | ⟨payload, hpayload⟩ :=
        SecureSession.openRecord_cases aead session (.dict fields) SecureJsonChannel.secureJsonAad
      · rw [he]
        exact ⟨rfl, rfl⟩
      · rw [hpayload]
        exact ⟨rfl, rfl⟩
  · exact ⟨rfl, rfl⟩

/-- What `process_frame` gives back: the sealed answers of the Core, or the error for a message
that was none. -/
theorem Agent.processFrame_ok (hlaw : aead.Lawful) {w : World} {a a' : Agent} {payload : Object}
    {frames : List Object} (h : a.processFrame aead w payload = (a', some frames)) :
    ∃ session session₁ session' message responses values, a.connection.channel = some session ∧
      SecureJsonChannel.openMessage aead w.loads session (.dict payload) = (session₁, .ok message) ∧
      Sealed session₁ responses values session' ∧ frames = values.map fields ∧
      (w.route message = some responses ∧ a'.connection.channel = some session' ∨
        w.route message = none ∧ responses = [SecureCoreConnection.protocolErrorMessage]) ∧
      (a'.connection.channel = some session' ∧ a'.connection.coreSessionId = a.connection.coreSessionId ∨
        a'.connection.channel = none ∧ a'.connection.coreSessionId = none) := by
  unfold processFrame at h
  split at h
  · cases h
  · rename_i c values hframe
    obtain ⟨rfl, hvalues⟩ := Prod.mk.inj h
    obtain rfl := Option.some.inj hvalues
    unfold SecureCoreConnection.processFrame at hframe
    split at hframe
    · rename_i session coreSessionId hchannel hcore
      split at hframe
      · cases hframe
      split at hframe
      · cases hframe
      · cases hframe
      · rename_i session₁ message hopen
        split at hframe
        · rename_i hroute
          -- a malformed message: one answer, and perhaps the end of the session
          simp only at hframe
          split at hframe
          · cases hframe
          · rename_i response hresponse
            obtain ⟨hc, hvalues⟩ := Prod.mk.inj hframe
            obtain rfl := Except.ok.inj hvalues
            have hseal : SecureJsonChannel.sealMessages aead session₁ [SecureCoreConnection.protocolErrorMessage] =
                ((SecureJsonChannel.sealMessage aead session₁ SecureCoreConnection.protocolErrorMessage).1,
                  .ok [response]) := by
              simp only [SecureJsonChannel.sealMessages]
              generalize SecureJsonChannel.sealMessage aead session₁ SecureCoreConnection.protocolErrorMessage = r
                at hresponse
              obtain ⟨r₁, r₂⟩ := r
              subst hresponse
              rfl
            refine ⟨session, session₁, _, message, _, _, hchannel, hopen, sealMessages_ok hlaw hseal, rfl,
              Or.inr ⟨hroute, rfl⟩, ?_⟩
            rw [← hc]
            split
            · exact Or.inr ⟨rfl, rfl⟩
            · exact Or.inl ⟨rfl, rfl⟩
        · rename_i responses hroute
          obtain ⟨hc, hvalues⟩ := Prod.mk.inj hframe
          cases hseal : SecureJsonChannel.sealMessages aead session₁ responses with
          | mk session' result =>
            rw [hseal] at hc hvalues
            cases result with
            | error e => cases hvalues
            | ok sealed =>
              obtain rfl := Except.ok.inj hvalues
              have hafter : c.channel = some session' := by rw [← hc]
              refine ⟨session, session₁, session', message, responses, _, hchannel, hopen,
                sealMessages_ok hlaw hseal, rfl, Or.inl ⟨hroute, hafter⟩, Or.inl ⟨hafter, ?_⟩⟩
              rw [← hc]
    · cases hframe

/-- A message the Core has one answer to. -/
theorem Agent.processFrame_answers {w : World} {a : Agent} {payload message response : Object} {encoded : Bytes}
    (hchannel : a.connection.channel = some session) (hcore : a.connection.coreSessionId.isSome = true)
    (htrusted : a.connection.deviceIsTrusted a.server = true)
    (hmessage : SecureJsonChannel.openMessage aead w.loads session (.dict payload) = (session', .ok message))
    (hroute : w.route message = some [response]) (hencoded : canonical response = some encoded)
    (hseal : session'.CanSeal encoded SecureJsonChannel.secureJsonAad) :
    (a.processFrame aead w payload).2.isSome = true := by
  obtain ⟨coreSessionId, hcore⟩ := Option.isSome_iff_exists.mp hcore
  have hanswer : SecureJsonChannel.sealMessage aead session' response =
      ({ session' with sendSequence := session'.sendSequence + 1 }, .ok (.dict (SecureSession.sealedFrame
        session'.sessionId session'.sendSequence
          (session'.encryptionOf aead encoded SecureJsonChannel.secureJsonAad).ciphertext))) := by
    simp [SecureJsonChannel.sealMessage, hencoded, SecureSession.sealRecord_ok aead session' hseal,
      Nat.not_lt.mpr hseal.size, Except.mapError]
  simp only [processFrame, SecureCoreConnection.processFrame, hchannel, hcore, htrusted, Bool.not_true,
    Bool.false_eq_true, if_false, hmessage, hroute, SecureJsonChannel.sealMessages, hanswer]
  rfl

theorem fromSharedSecret_fresh {kdf : Kdf} {sessionId : PyStr} {secret hash : Bytes} {role : Role}
    (h : SecureSession.fromSharedSecret kdf sessionId secret hash role = some session) :
    session.sendSequence = 0 := by
  unfold SecureSession.fromSharedSecret at h
  split at h
  · split at h
    · cases h
    split at h
    · cases h
    split at h
    · cases h
    obtain rfl := Option.some.inj h
    cases role with
    | client => rfl
    | server => rfl
  · cases h

/-- The session in an answer to a hello. -/
theorem createServerHello_fresh {crypto : Crypto} {identity : SecureIdentity} {client : ClientHello}
    {server : ServerHello} {clientPublicKey ephemeralPrivateKey : Fixed 32} {nonce : Bytes}
    (h : createServerHello crypto identity client clientPublicKey ephemeralPrivateKey nonce = some (server, session)) :
    session.sendSequence = 0 := by
  obtain ⟨-, -, -, hash, -, hderive⟩ := createServerHello_eq_some.mp h
  obtain ⟨publicKey, secret, -, -, hsession⟩ := deriveSession_eq_some.mp hderive
  exact fromSharedSecret_fresh hsession

/-- An accepted hello opens a session that has sealed nothing. -/
theorem Agent.acceptClientHello_ok {crypto : Crypto} {w : World} {a a' : Agent} {payload hello : Object}
    (h : a.acceptClientHello crypto w payload = (a', some hello)) :
    ∃ session coreSessionId, a'.connection.channel = some session ∧ session.sendSequence = 0 ∧
      a'.connection.coreSessionId = some coreSessionId := by
  unfold acceptClientHello at h
  split at h
  · cases h
  · rename_i c server hbegin
    split at h
    · cases h
    · rename_i c' serverHello hfinish
      obtain ⟨rfl, -⟩ := Prod.mk.inj h
      have hprogress : ∀ answer session, c.inProgress = some (answer, session) → session.sendSequence = 0 := by
        intro answer session hanswer
        unfold SecureCoreConnection.beginHello at hbegin
        split at hbegin
        · cases hbegin
        · split at hbegin
          · cases hbegin
          · rename_i server' result haccept
            obtain ⟨hstate, -⟩ := Prod.mk.inj hbegin
            obtain ⟨rfl, rfl⟩ := Prod.mk.inj hstate
            obtain rfl := Option.some.inj hanswer
            obtain ⟨e, he⟩ | ⟨e, he⟩ | ⟨client, key, answer', -, -, hcreate, -, hok⟩ :=
              SecureSessionServer.acceptClientHello_cases crypto a.server (.dict payload) w.now
                w.ephemeralPrivateKey w.nonce
            · rw [he] at haccept
              cases haccept
            · rw [he] at haccept
              cases haccept
            · rw [hok] at haccept
              obtain rfl := Except.ok.inj (Prod.mk.inj haccept).2
              exact createServerHello_fresh hcreate
      unfold SecureCoreConnection.finishHello at hfinish
      split at hfinish
      · cases hfinish
      · rename_i answer session hinProgress
        simp only at hfinish
        split at hfinish
        · cases hfinish
        · cases hfinish
        · obtain ⟨rfl, -⟩ := Prod.mk.inj hfinish
          exact ⟨session, _, rfl, hprogress answer session hinProgress, rfl⟩

/-! ## What is written -/

theorem send_secureCore (g : SecureSerialGateway Agent) (payload : Object) :
    (g.send payload).secureCore = g.secureCore := by
  unfold SecureSerialGateway.send
  split
  · rfl
  split
  · rfl
  split
  · rfl
  · rfl

/-- `_send` writes the payload. -/
def fitsLine (payload : Object) : Bool := (encodeLine payload).any (fun line => line.length ≤ maxLineBytes)

/-- Of payloads that can be encoded, exactly those that fit are written. -/
theorem foldl_send {g : SecureSerialGateway Agent} (hopen : g.closed = false) {payloads : List Object}
    (hencoded : ∀ p ∈ payloads, (encodeLine p).isSome = true) :
    payloads.foldl SecureSerialGateway.send g = { g with written := g.written ++ payloads.filter fitsLine } := by
  induction payloads generalizing g with
  | nil => simp
  | cons p payloads ih =>
    have hlater : ∀ q ∈ payloads, (encodeLine q).isSome = true := fun q hq => hencoded q (List.mem_cons_of_mem p hq)
    obtain ⟨line, hline⟩ := Option.isSome_iff_exists.mp (hencoded p List.mem_cons_self)
    rw [List.foldl_cons]
    by_cases hlength : line.length ≤ maxLineBytes
    · have hsend : g.send p = { g with written := g.written ++ [p] } := by
        simp [SecureSerialGateway.send, hopen, hline, Nat.not_lt.mpr hlength]
      have hfits : fitsLine p = true := by simp [fitsLine, hline, hlength]
      have hrest := ih (g := { g with written := g.written ++ [p] }) hopen hlater
      rw [hsend, hrest, List.filter_cons_of_pos hfits]
      simp
    · have hsend : g.send p = g := by
        simp [SecureSerialGateway.send, hopen, hline, Nat.lt_of_not_le hlength]
      have hfits : ¬ fitsLine p = true := by simp [fitsLine, hline, hlength]
      rw [hsend, ih hopen hlater, List.filter_cons_of_neg hfits]

/-- A sealed answer is written exactly when its line is not too long. -/
theorem Sealed.fits {responses : List Object} {values : List Value} (h : Sealed session responses values session')
    {i : Nat} {value : Value} (hvalue : values[i]? = some value) :
    session.sendSequence + i ≤ maxSequence ∧ (encodeLine (Agent.fields value)).isSome = true ∧
      ∃ response encoded, responses[i]? = some response ∧ canonical response = some encoded ∧
        fitsLine (Agent.fields value) =
          decide (frameLength session.sessionId (session.sendSequence + i) encoded.length ≤ maxLineBytes) := by
  obtain ⟨hmax, response, encoded, ciphertext, hresponse, hencoded, hcipher, rfl⟩ := h.frame i value hvalue
  obtain ⟨line, hline, hlength⟩ := encodeLine_sealedFrame session.valid (session.sendSequence + i)
    encoded.length hcipher
  have hfields : encodeLine (Agent.fields (.dict (SecureSession.sealedFrame session.sessionId
      (session.sendSequence + i) ciphertext))) = some line := hline
  refine ⟨hmax, by rw [hfields]; rfl, response, encoded, hresponse, hencoded, ?_⟩
  rw [fitsLine, hfields, Option.any_some, hlength]

/-- The error for a malformed message always fits. -/
theorem protocolError_fits {sessionId : PyStr} (hs : isIdentifier sessionId = true) {n : Nat} (hn : n ≤ maxSequence)
    {encoded : Bytes} (hencoded : canonical SecureCoreConnection.protocolErrorMessage = some encoded) :
    frameLength sessionId n encoded.length ≤ maxLineBytes := by
  have hbytes : (canonical SecureCoreConnection.protocolErrorMessage).map List.length = some 61 := by decide +kernel
  rw [hencoded, Option.map_some, Option.some.injEq] at hbytes
  have hid : sessionId.length ≤ 128 := by
    simp only [isIdentifier, Bool.and_eq_true, decide_eq_true_eq] at hs
    exact hs.1.2
  have hdigits : (toString n).length ≤ 20 := by
    refine Nat.repr_length n 20 (by decide) (Nat.lt_of_le_of_lt hn ?_)
    decide
  rw [frameLength, hbytes]
  simp only [maxLineBytes]
  omega

namespace FrameLog

/-- The invariant of an open gateway. -/
structure Numbered (l : FrameLog) : Prop where
  paired : l.gateway.secureCore.connection.channel.isSome = l.gateway.secureCore.connection.coreSessionId.isSome
  start : l.start ≤ l.gateway.written.length
  sequence : l.frames.map (fun f => f.get? (PyStr.ofString "sequence")) =
    (List.range l.frames.length).map (fun i => some (.int i))
  all : ∀ session, l.gateway.secureCore.connection.channel = some session → session.sendSequence = l.frames.length

/-- Frames that go on from the session's count go on from what is on the wire. -/
theorem sealed_sequences {responses : List Object} {values : List Value}
    (hsealed : Sealed session responses values session') :
    (values.map Agent.fields).map (fun f => f.get? (PyStr.ofString "sequence")) =
      (List.range' session.sendSequence values.length).map (fun i => some (.int i)) := by
  refine List.ext_getElem (by simp) ?_
  intro i h₁ h₂
  have hi : i < values.length := by simpa using h₁
  obtain ⟨-, -, -, ciphertext, -, -, -, hvalue⟩ := hsealed.frame i values[i] (List.getElem?_eq_getElem hi)
  simp only [List.getElem_map, List.getElem_range', hvalue, Agent.fields, Nat.one_mul]
  rfl

theorem range_append (n k : Nat) : List.range n ++ List.range' n k = List.range (n + k) := by
  have h := List.range'_append_1 (s := 0) (m := n) (n := k)
  rwa [Nat.zero_add, ← List.range_eq_range', ← List.range_eq_range'] at h

/-- After a hello is accepted the frames are counted anew. -/
theorem Numbered.accepted {crypto : Crypto} {w : World} {g : SecureSerialGateway Agent} {payload hello : Object}
    {a' : Agent} (dispatched : List Object)
    (haccept : g.secureCore.acceptClientHello crypto w payload = (a', some hello)) :
    let g' := SecureSerialGateway.send { g with secureCore := a', dispatched := dispatched } hello
    g'.secureCore.connection.authenticated = true ∧ Numbered ⟨g', g'.written.length⟩ := by
  intro g'
  obtain ⟨session, coreSessionId, hchannel, hfresh, hcore⟩ := Agent.acceptClientHello_ok haccept
  have hkeeps : g'.secureCore = a' := send_secureCore _ hello
  have hframes : frames ⟨g', g'.written.length⟩ = [] := List.drop_length
  refine ⟨?_, ?_, Nat.le_refl _, ?_, ?_⟩
  · rw [hkeeps, SecureCoreConnection.authenticated, hchannel, hcore]
    rfl
  · simp only [hkeeps, hchannel, hcore, Option.isSome_some]
  · rw [hframes]
    rfl
  · intro session' hsession'
    simp only [hkeeps, hchannel, Option.some.injEq] at hsession'
    rw [hframes, ← hsession', hfresh]
    rfl

/-- A processed message: its frames that fit are written after those on the wire, and with them
all, if the Core's answers fit, the numbers go on. -/
theorem Numbered.processed (hlaw : aead.Lawful) {w : World} {l : FrameLog} (hl : Numbered l)
    {g : SecureSerialGateway Agent} (hopen : g.closed = false) (hwritten : g.written = l.gateway.written)
    {payload : Object} {answers : List Object}
    (hprocess : l.gateway.secureCore.processFrame aead w payload = (g.secureCore, some answers))
    {strictJson : Bytes → Option Object} {raw : Bytes} (hcomment : isComment raw = false)
    (hshort : ¬ raw.length > maxLineBytes) (hjson : strictJson raw = some payload) :
    let l' : FrameLog := ⟨answers.foldl SecureSerialGateway.send g, l.start⟩
    l'.gateway.closed = false ∧ (l.Fits aead (.receive w strictJson raw) → Numbered l') ∧
      (Gapless l' → l.Fits aead (.receive w strictJson raw)) := by
  intro l'
  obtain ⟨session, session₁, session', message, responses, values, hchannel, hmessage, hsealed, rfl, hroute,
    hafter⟩ := Agent.processFrame_ok hlaw hprocess
  have hkeeps := openMessage_keeps aead w.loads session (.dict payload)
  rw [hmessage] at hkeeps
  obtain ⟨hsequence, hid⟩ := hkeeps
  have hnow : session₁.sendSequence = l.frames.length := hsequence.trans (hl.all session hchannel)
  have hencoded : ∀ p ∈ values.map Agent.fields, (encodeLine p).isSome = true := by
    intro p hp
    obtain ⟨value, hvalue, rfl⟩ := List.mem_map.mp hp
    obtain ⟨i, hi⟩ := List.mem_iff_getElem?.mp hvalue
    exact (hsealed.fits hi).2.1
  have hstart : l.start ≤ g.written.length := by
    rw [hwritten]
    exact hl.start
  have hsent := foldl_send hopen hencoded
  have hframes : l'.frames = l.frames ++ (values.map Agent.fields).filter fitsLine := by
    show (List.foldl SecureSerialGateway.send g (values.map Agent.fields)).written.drop l.start = _
    rw [hsent]
    unfold frames
    rw [← hwritten]
    exact List.drop_append_of_le_length hstart
  have hcore : l'.gateway.secureCore = g.secureCore := by
    show (List.foldl SecureSerialGateway.send g (values.map Agent.fields)).secureCore = _
    rw [hsent]
  have hresponses : w.route message = some responses → l.responses aead w strictJson raw = responses := by
    intro hsome
    simp [FrameLog.responses, hcomment, hshort, hjson, hchannel, hmessage, hsome]
  refine ⟨?_, ?_, ?_⟩
  · show (List.foldl SecureSerialGateway.send g (values.map Agent.fields)).closed = false
    rw [hsent]
    exact hopen
  · intro hfits
    -- every frame fits into a line
    have hall : (values.map Agent.fields).filter fitsLine = values.map Agent.fields := by
      refine List.filter_eq_self.mpr ?_
      intro p hp
      obtain ⟨value, hvalue, rfl⟩ := List.mem_map.mp hp
      obtain ⟨i, hi⟩ := List.mem_iff_getElem?.mp hvalue
      obtain ⟨hmax, -, response, encoded, hresponse, hbytes, hfit⟩ := hsealed.fits hi
      rw [hfit, decide_eq_true_eq]
      obtain ⟨hsome, -⟩ | ⟨-, rfl⟩ := hroute
      · rw [hid, hsequence]
        exact hfits session hchannel i response encoded (by rw [hresponses hsome]; exact hresponse) hbytes
      · obtain rfl : response = SecureCoreConnection.protocolErrorMessage :=
          List.mem_singleton.mp (List.mem_of_getElem? hresponse)
        exact protocolError_fits session₁.valid hmax hbytes
    rw [hall] at hframes hsent
    refine ⟨?_, ?_, ?_, ?_⟩
    · rw [hcore]
      obtain ⟨hsome, hsame⟩ | ⟨hnone, hsame⟩ := hafter
      · rw [hsome, hsame, ← hl.paired, hchannel]
        rfl
      · rw [hnone, hsame]
        rfl
    · show l.start ≤ (List.foldl SecureSerialGateway.send g (values.map Agent.fields)).written.length
      rw [hsent, List.length_append]
      exact Nat.le_trans hstart (Nat.le_add_right _ _)
    · rw [hframes, List.map_append, hl.sequence, sealed_sequences hsealed, hnow, ← List.map_append, range_append,
        List.length_append, List.length_map]
    · intro s hs
      rw [hcore] at hs
      obtain ⟨hsome, -⟩ | ⟨hnone, -⟩ := hafter
      · rw [hsome, Option.some.injEq] at hs
        rw [hframes, ← hs, hsealed.session', List.length_append, List.length_map, hsealed.length, ← hnow]
      · rw [hnone] at hs
        cases hs
  · intro hgapless s hs i response encoded hresponse hbytes
    rw [hchannel, Option.some.injEq] at hs
    subst hs
    obtain ⟨hsome, hlater⟩ | ⟨hnone, -⟩ := hroute
    · -- as many frames on the wire as were sealed, so none was dropped
      have hclosed : l'.gateway.closed = false := by
        show (List.foldl SecureSerialGateway.send g (values.map Agent.fields)).closed = false
        rw [hsent]
        exact hopen
      have hcount := (hgapless hclosed).2 session' (by rw [hcore]; exact hlater)
      rw [hframes, hsealed.session', List.length_append, ← hnow, ← hsealed.length] at hcount
      have hfilter : ((values.map Agent.fields).filter fitsLine).length = (values.map Agent.fields).length := by
        rw [List.length_map]
        simp only at hcount
        omega
      have hall := List.length_filter_eq_length_iff.mp hfilter
      rw [hresponses hsome] at hresponse
      have hi : i < values.length := by
        rw [hsealed.length]
        exact (List.getElem?_eq_some_iff.mp hresponse).1
      obtain ⟨-, -, response', encoded', hresponse', hbytes', hfit⟩ :=
        hsealed.fits (List.getElem?_eq_getElem hi)
      rw [hresponse, Option.some.injEq] at hresponse'
      subst hresponse'
      rw [hbytes, Option.some.injEq] at hbytes'
      subst hbytes'
      have hthis := hall _ (List.mem_map_of_mem (List.getElem_mem hi))
      rw [hfit, decide_eq_true_eq, hid, hsequence] at hthis
      exact hthis
    · simp [FrameLog.responses, hcomment, hshort, hjson, hchannel, hmessage, hnone] at hresponse

/-- The step of a message that is processed. -/
theorem step_processed (crypto : Crypto) {l : FrameLog} (hopen : l.gateway.closed = false) {w : World}
    {strictJson : Bytes → Option Object} {raw : Bytes} (hcomment : isComment raw = false)
    (hshort : ¬ raw.length > maxLineBytes) {payload : Object} (hjson : strictJson raw = some payload)
    (hauth : l.gateway.secureCore.connection.authenticated = true) {a' : Agent} {answers : List Object}
    (hprocess : l.gateway.secureCore.processFrame aead w payload = (a', some answers)) :
    l.step crypto aead (.receive w strictJson raw) =
      ⟨answers.foldl SecureSerialGateway.send
        { l.gateway with secureCore := a', dispatched := l.gateway.dispatched ++ [payload] }, l.start⟩ := by
  simp [FrameLog.step, Handler.receive, SecureSerialGateway.handler, hopen, hcomment, hshort,
    SecureSerialGateway.line, hjson, SecureSerialGateway.dispatch, Agent.core, hauth, hprocess]

/-- An answer that is sealed and too long for a line leaves a gap. -/
theorem Numbered.gap (hlaw : aead.Lawful) (crypto : Crypto) {l : FrameLog} (hl : Numbered l)
    (hopen : l.gateway.closed = false) {w : World} {strictJson : Bytes → Option Object} {raw : Bytes}
    (hcomment : isComment raw = false) (hshort : ¬ raw.length > maxLineBytes) {payload message response : Object}
    (hjson : strictJson raw = some payload) (hauth : l.gateway.secureCore.connection.authenticated = true)
    (htrusted : l.gateway.secureCore.connection.deviceIsTrusted l.gateway.secureCore.server = true)
    (hchannel : l.gateway.secureCore.connection.channel = some session)
    (hmessage : SecureJsonChannel.openMessage aead w.loads session (.dict payload) = (session', .ok message))
    (hroute : w.route message = some [response]) {encoded : Bytes} (hencoded : canonical response = some encoded)
    (hseal : session'.CanSeal encoded SecureJsonChannel.secureJsonAad)
    (hlong : frameLength session.sessionId session.sendSequence encoded.length > maxLineBytes) :
    ¬ Gapless (l.step crypto aead (.receive w strictJson raw)) := by
  have hcore : l.gateway.secureCore.connection.coreSessionId.isSome = true := by
    rw [SecureCoreConnection.authenticated, Bool.and_eq_true] at hauth
    exact hauth.2
  have hsealed := Agent.processFrame_answers hchannel hcore htrusted hmessage hroute hencoded hseal
  cases hprocess : l.gateway.secureCore.processFrame aead w payload with
  | mk agent result =>
    rw [hprocess] at hsealed
    obtain ⟨answers, rfl⟩ := Option.isSome_iff_exists.mp hsealed
    rw [step_processed crypto hopen hcomment hshort hjson hauth hprocess]
    intro hgapless
    have hfits := (hl.processed hlaw
      (g := { l.gateway with secureCore := agent, dispatched := l.gateway.dispatched ++ [payload] })
      hopen rfl hprocess hcomment hshort hjson).2.2 hgapless
    have hanswer : (l.responses aead w strictJson raw)[0]? = some response := by
      simp [FrameLog.responses, hcomment, hshort, hjson, hchannel, hmessage, hroute]
    exact absurd (hfits session hchannel 0 response encoded hanswer hencoded) (Nat.not_le.mpr hlong)

/-- What holds of a gateway as long as it is open. -/
def Sound (l : FrameLog) : Prop := l.gateway.closed = false → Numbered l

theorem Sound.of_closed {l : FrameLog} (h : l.gateway.closed = true) : Sound l := by
  intro hopen
  rw [h] at hopen
  cases hopen

theorem Sound.dispatched (hlaw : aead.Lawful) {crypto : Crypto} {l : FrameLog} (hl : Numbered l)
    (hopen : l.gateway.closed = false) {w : World} {strictJson : Bytes → Option Object} {raw : Bytes}
    (hcomment : isComment raw = false) (hshort : ¬ raw.length > maxLineBytes) {payload : Object} (hjson : strictJson raw = some payload) (hfits : l.Fits aead (.receive w strictJson raw)) :
    let g := SecureSerialGateway.dispatch (Agent.core crypto aead w) l.gateway payload
    Sound ⟨g, if !l.gateway.secureCore.connection.authenticated && g.secureCore.connection.authenticated then
      g.written.length else l.start⟩ := by
  unfold SecureSerialGateway.dispatch
  by_cases hauth : l.gateway.secureCore.connection.authenticated = true
  · simp only [Agent.core, hauth, Bool.not_true, Bool.false_eq_true, if_false, Bool.false_and]
    cases hprocess : l.gateway.secureCore.processFrame aead w payload with
    | mk a' result =>
      cases result with
      | none => exact Sound.of_closed rfl
      | some answers =>
        intro _
        exact (Numbered.processed hlaw hl
          (g := { l.gateway with secureCore := a', dispatched := l.gateway.dispatched ++ [payload] })
          hopen rfl hprocess hcomment hshort hjson).2.1 hfits
  · have hnot : l.gateway.secureCore.connection.authenticated = false := Bool.eq_false_iff.mpr hauth
    simp only [Agent.core, hnot, Bool.not_false, if_true, Bool.true_and]
    split
    · exact Sound.of_closed rfl
    · cases haccept : l.gateway.secureCore.acceptClientHello crypto w payload with
      | mk a' result =>
        cases result with
        | none => exact Sound.of_closed rfl
        | some hello =>
          obtain ⟨hauthenticated, hnumbered⟩ := Numbered.accepted (g := l.gateway)
            (l.gateway.dispatched ++ [payload]) haccept
          intro _
          simp only [hauthenticated, if_true]
          exact hnumbered

theorem Sound.step (hlaw : aead.Lawful) (crypto : Crypto) {l : FrameLog} (hl : Sound l) {op : Op}
    (hfits : l.Fits aead op) : Sound (l.step crypto aead op) := by
  cases op with
  | receive w strictJson raw =>
    by_cases hskip : l.gateway.closed = true ∨ isComment raw = true
    · have hsame : (SecureSerialGateway.handler strictJson (Agent.core crypto aead w)).receive l.gateway raw =
          l.gateway := hskip.elim (fun hclosed => receive_closed hclosed raw) (receive_comment l.gateway)
      simp only [FrameLog.step, hsame, Bool.not_and_self, Bool.false_eq_true, if_false]
      exact hl
    obtain ⟨hclosed, hcomment⟩ := not_or.mp hskip
    have hopen := Bool.eq_false_iff.mpr hclosed
    by_cases hlong : raw.length > maxLineBytes
    · simp only [FrameLog.step, receive_tooLong (h := SecureSerialGateway.handler strictJson
        (Agent.core crypto aead w)) hopen (Bool.eq_false_iff.mpr hcomment) hlong]
      exact Sound.of_closed rfl
    have hline : (SecureSerialGateway.handler strictJson (Agent.core crypto aead w)).receive l.gateway raw =
        SecureSerialGateway.line strictJson (Agent.core crypto aead w) l.gateway raw := by
      simp [Handler.receive, SecureSerialGateway.handler, hopen, hcomment, hlong]
    simp only [FrameLog.step, hline]
    cases hjson : strictJson raw with
    | none =>
      simp only [SecureSerialGateway.line, hjson]
      exact Sound.of_closed rfl
    | some payload =>
      simp only [SecureSerialGateway.line, hjson]
      exact Sound.dispatched hlaw (hl hopen) hopen (Bool.eq_false_iff.mpr hcomment) hlong hjson hfits
  | checkTrust devices =>
    simp only [FrameLog.step]
    split
    · exact hl
    · rename_i hclosed
      intro _
      have hnumbered := hl (Bool.eq_false_iff.mpr hclosed)
      have hconnection : (checkTrust l.gateway.secureCore devices).1.connection =
          l.gateway.secureCore.connection := by
        cases devices with
        | none => rfl
        | some devices => rfl
      refine ⟨?_, hnumbered.start, hnumbered.sequence, ?_⟩
      · simp only [hconnection]
        exact hnumbered.paired
      · simp only [hconnection]
        exact hnumbered.all
  | stop => exact Sound.of_closed rfl

/-- A closed gateway stays closed. -/
theorem step_closed (crypto : Crypto) (aead : Aead) {l : FrameLog} (h : l.gateway.closed = true) (op : Op) :
    (l.step crypto aead op).gateway.closed = true := by
  cases op with
  | receive w strictJson raw =>
    have hsame : (SecureSerialGateway.handler strictJson (Agent.core crypto aead w)).receive l.gateway raw =
        l.gateway := receive_closed h raw
    simp only [FrameLog.step, hsame, h]
  | checkTrust devices => simp [FrameLog.step, h]
  | stop => rfl

/-- A step that leaves the gateway open and its numbers without a gap had only answers that fit. -/
theorem Numbered.fits_of_gapless (hlaw : aead.Lawful) {crypto : Crypto} {l : FrameLog} (hl : Numbered l)
    (hbefore : l.gateway.closed = false) {op : Op} (hopen : (l.step crypto aead op).gateway.closed = false)
    (hgapless : Gapless (l.step crypto aead op)) : l.Fits aead op := by
  cases op with
  | checkTrust devices => trivial
  | stop => trivial
  | receive w strictJson raw =>
    by_cases hskip : isComment raw = true ∨ raw.length > maxLineBytes
    · intro session _ i response encoded hresponse
      simp [FrameLog.responses, hskip] at hresponse
    obtain ⟨hcomment, hshort⟩ := not_or.mp hskip
    have hline : (SecureSerialGateway.handler strictJson (Agent.core crypto aead w)).receive l.gateway raw =
        SecureSerialGateway.line strictJson (Agent.core crypto aead w) l.gateway raw := by
      simp [Handler.receive, SecureSerialGateway.handler, hbefore, hcomment, hshort]
    simp only [FrameLog.step, hline] at hopen hgapless
    cases hjson : strictJson raw with
    | none =>
      simp only [SecureSerialGateway.line, hjson] at hopen
      cases hopen
    | some payload =>
      simp only [SecureSerialGateway.line, hjson, SecureSerialGateway.dispatch] at hopen hgapless
      by_cases hauth : l.gateway.secureCore.connection.authenticated = true
      · simp only [Agent.core, hauth, Bool.not_true, Bool.false_eq_true, if_false, Bool.false_and] at hopen hgapless
        cases hprocess : l.gateway.secureCore.processFrame aead w payload with
        | mk a' result =>
          rw [hprocess] at hopen hgapless
          cases result with
          | none => cases hopen
          | some answers =>
            exact (Numbered.processed hlaw hl
              (g := { l.gateway with secureCore := a', dispatched := l.gateway.dispatched ++ [payload] })
              hbefore rfl hprocess (Bool.eq_false_iff.mpr hcomment) hshort hjson).2.2 hgapless
      · -- no session, so nothing is sealed
        intro session hsession
        have hcore := hl.paired
        rw [SecureCoreConnection.authenticated, ← hcore, hsession] at hauth
        exact absurd rfl hauth

/-- The step has only answers that fit, unless the gateway closes at it. -/
def FitsWhileOpen (crypto : Crypto) (aead : Aead) (l : FrameLog) (op : Op) : Prop :=
  (l.step crypto aead op).gateway.closed = false → l.Fits aead op

theorem run_sound (hlaw : aead.Lawful) {crypto : Crypto} {server : SecureSessionServer} {ops : List Op}
    (hfits : (machine crypto aead server).Along (FitsWhileOpen crypto aead) ops) :
    Sound ((machine crypto aead server).run ops) := by
  refine Machine.inv_along (P := FitsWhileOpen crypto aead) ?_ ?_ hfits
  · intro _
    refine ⟨rfl, Nat.le_refl 0, rfl, ?_⟩
    intro session hsession
    cases hsession
  · intro l op hl hop hopen
    exact Sound.step hlaw crypto hl (hop hopen) hopen

theorem run_two (crypto : Crypto) (aead : Aead) (server : SecureSessionServer) (first second : Op) :
    (machine crypto aead server).run [first, second] =
      ((machine crypto aead server).run [first]).step crypto aead second := rfl

theorem Sound.gapless {l : FrameLog} (h : Sound l) : Gapless l := fun hopen => ⟨(h hopen).sequence, (h hopen).all⟩

end FrameLog

end

/-- Over every run: the frames on the wire carry `0, 1, 2, ...` and every sealed answer is among
them, at every point of the run where the connection is open, exactly when no answer of the Core
was too long for a line. -/
theorem frames_gapless_iff {aead : Aead} (hlaw : aead.Lawful) (crypto : Crypto) (server : SecureSessionServer)
    (ops : List FrameLog.Op) :
    (∀ pre post, ops = pre ++ post → ((FrameLog.machine crypto aead server).run pre).Gapless) ↔
      (FrameLog.machine crypto aead server).Along (FrameLog.FitsWhileOpen crypto aead) ops := by
  constructor
  · intro hgapless
    induction ops using List.reverseRecOn with
    | nil => exact Machine.Along.nil
    | append_singleton pre op ih =>
      have hpre := ih (fun p q hpq => hgapless p (q ++ [op]) (by rw [hpq, List.append_assoc]))
      refine hpre.concat ?_
      intro hopen
      have hbefore : ((FrameLog.machine crypto aead server).run pre).gateway.closed = false := by
        by_contra hclosed
        have hstill := FrameLog.step_closed crypto aead (Bool.not_eq_false _ |>.mp hclosed) op
        rw [hstill] at hopen
        cases hopen
      have hafter := hgapless (pre ++ [op]) [] (by simp)
      rw [Machine.run_concat] at hafter
      exact (FrameLog.run_sound hlaw hpre hbefore).fits_of_gapless hlaw hbefore hopen hafter
  · intro hfits pre post hops
    exact (FrameLog.run_sound hlaw (hops ▸ hfits).of_append).gapless

/-! ## A catalog that is too long -/

/-- The first line of the device: its hello. -/
def helloLine : Bytes := (encodeLine pipaHello.asDict).getD []

def catalogRequest : Object :=
  [(PyStr.ofString "protocol_version", .int 1), (PyStr.ofString "type", .str (PyStr.ofString "catalog_request"))]

/-- A frame as the device seals it. -/
def deviceFrame (message : Object) : Object :=
  match (SecureJsonChannel.sealMessage .checksum pipaSession message).2 with
  | .ok frame => Agent.fields frame
  | .error _ => []

def deviceLine (message : Object) : Bytes := (encodeLine (deviceFrame message)).getD []

/-- `json.loads` on the two lines of the device. -/
def deviceJson (message : Object) (raw : Bytes) : Option Object :=
  if raw = helloLine then some pipaHello.asDict
  else if raw = deviceLine message then some (deviceFrame message)
  else none

/-- The agent around them, with a Core that has one answer to the message. -/
def answering (message answer : Object) : World where
  now := 0
  ephemeralPrivateKey := pcEphemeral
  nonce := pcNonce
  coreSessionId := some (PyStr.ofString "core-1")
  loads encoded := if some encoded = canonical message then .ok message else .error .invalidJson
  route _ := some [answer]

/-- The hello, then one message and its answer. -/
def exchange (message answer : Object) : List FrameLog.Op :=
  [.receive (answering message answer) (deviceJson message) helloLine,
   .receive (answering message answer) (deviceJson message) (deviceLine message)]

/-- The descriptor of a command in the catalog, under one id or another. -/
def descriptor (id : PyStr) : Object :=
  [(PyStr.ofString "id", .str id),
   (PyStr.ofString "tool_name", .str (PyStr.ofString "system_status")),
   (PyStr.ofString "phrase", .str (PyStr.ofString "estado del ordenador")),
   (PyStr.ofString "description", .str (PyStr.ofString "Consulta un estado resumido del ordenador.")),
   (PyStr.ofString "safety", .str (PyStr.ofString "safe")),
   (PyStr.ofString "requires_confirmation", .bool false),
   (PyStr.ofString "parameters", .list [])]

/-- The Core's answer to a catalog request. -/
def catalogAnswer (ids : List PyStr) : Object :=
  [(PyStr.ofString "protocol_version", .int 1), (PyStr.ofString "type", .str (PyStr.ofString "catalog")),
   (PyStr.ofString "commands", .list (ids.map (fun id => .dict (descriptor id))))]

/-- The text of a descriptor, with its keys sorted. -/
def descriptorText (id : PyStr) : PyStr :=
  PyStr.ofString "\x7b\"description\":\"Consulta un estado resumido del ordenador.\",\"id\":\"" ++ (id ++
    PyStr.ofString ("\",\"parameters\":[],\"phrase\":\"estado del ordenador\",\"requires_confirmation\":false," ++
      "\"safety\":\"safe\",\"tool_name\":\"system_status\"\x7d"))

theorem dumps_descriptor {id : PyStr} (hid : Plain id) :
    dumps true (.dict (descriptor id)) = some (descriptorText id) := by
  show some (PyStr.ofString "\x7b" ++ commaJoin [
    dumpPair (PyStr.ofString "description",
      dumpStr (PyStr.ofString "Consulta un estado resumido del ordenador.")),
    dumpPair (PyStr.ofString "id", dumpStr id),
    dumpPair (PyStr.ofString "parameters", PyStr.ofString "[]"),
    dumpPair (PyStr.ofString "phrase", dumpStr (PyStr.ofString "estado del ordenador")),
    dumpPair (PyStr.ofString "requires_confirmation", PyStr.ofString "false"),
    dumpPair (PyStr.ofString "safety", dumpStr (PyStr.ofString "safe")),
    dumpPair (PyStr.ofString "tool_name", dumpStr (PyStr.ofString "system_status"))] ++ PyStr.ofString "\x7d") = _
  have hdescription : dumpStr (PyStr.ofString "Consulta un estado resumido del ordenador.") =
      PyStr.ofString "\"Consulta un estado resumido del ordenador.\"" := by decide +kernel
  have hphrase : dumpStr (PyStr.ofString "estado del ordenador") = PyStr.ofString "\"estado del ordenador\"" := by
    decide +kernel
  have hsafe : dumpStr (PyStr.ofString "safe") = PyStr.ofString "\"safe\"" := by decide +kernel
  have htool : dumpStr (PyStr.ofString "system_status") = PyStr.ofString "\"system_status\"" := by decide +kernel
  rw [hid.dumpStr, hdescription, hphrase, hsafe, htool, descriptorText]
  simp (disch := decide) only [dumpPair_literal, commaJoin, List.append_assoc, ofString_join,
    String.reduceAppend, ← PyStr.ofString_append]

/-- The commands of a catalog in a row. -/
theorem dumpsList_descriptors {ids : List PyStr} (hids : ∀ id ∈ ids, Plain id) :
    dumpsList true (ids.map (fun id => .dict (descriptor id))) = some (ids.map descriptorText) := by
  induction ids with
  | nil => rfl
  | cons id ids ih =>
    simp only [List.map_cons, dumpsList, dumps_descriptor (hids id List.mem_cons_self),
      ih (fun other hother => hids other (List.mem_cons_of_mem id hother))]
    rfl

theorem commaJoin_ascii {texts : List PyStr} (h : ∀ t ∈ texts, t.Ascii) : (commaJoin texts).Ascii := by
  fun_induction commaJoin texts with
  | case1 => intro c hc; cases hc
  | case2 t => exact h t List.mem_cons_self
  | case3 t ts hne ih =>
    simp only [PyStr.ascii_append]
    exact ⟨⟨h t List.mem_cons_self, by decide⟩, ih (fun u hu => h u (List.mem_cons_of_mem t hu))⟩

theorem commaJoin_length {texts : List PyStr} {low high : Nat} (h : ∀ t ∈ texts, low ≤ t.length ∧ t.length < high) :
    texts.length * low ≤ (commaJoin texts).length ∧ (commaJoin texts).length ≤ texts.length * high := by
  fun_induction commaJoin texts with
  | case1 => simp
  | case2 t =>
    have hfirst := h t List.mem_cons_self
    simp only [List.length_cons, List.length_nil]
    omega
  | case3 t ts hne ih =>
    have hlater := ih (fun u hu => h u (List.mem_cons_of_mem t hu))
    have hfirst := h t List.mem_cons_self
    have hcomma : (PyStr.ofString ",").length = 1 := by decide
    simp only [List.length_cons, List.length_append, Nat.succ_mul, hcomma]
    omega

theorem descriptorText_bounds {id : PyStr} (hid : Plain id) :
    (descriptorText id).Ascii ∧ (descriptorText id).length = 190 + id.length := by
  constructor
  · simp only [descriptorText, PyStr.ascii_append]
    exact ⟨by decide +kernel, hid.ascii, by decide +kernel⟩
  · simp only [descriptorText, List.length_append]
    have h₁ : (PyStr.ofString
      "\x7b\"description\":\"Consulta un estado resumido del ordenador.\",\"id\":\"").length = 66 := by decide +kernel
    have h₂ : (PyStr.ofString
      ("\",\"parameters\":[],\"phrase\":\"estado del ordenador\",\"requires_confirmation\":false," ++
        "\"safety\":\"safe\",\"tool_name\":\"system_status\"\x7d")).length = 124 := by decide +kernel
    omega

/-- The encoding of a catalog has about 190 bytes for each command. -/
theorem canonical_catalogAnswer {ids : List PyStr} (hids : ∀ id ∈ ids, Plain id ∧ id.length ≤ 10) :
    ∃ encoded, canonical (catalogAnswer ids) = some encoded ∧
      ids.length * 190 ≤ encoded.length ∧ encoded.length ≤ ids.length * 201 + 100 := by
  have htext : dumps true (.dict (catalogAnswer ids)) = some (PyStr.ofString "\x7b\"commands\":[" ++
      (commaJoin (ids.map descriptorText) ++ PyStr.ofString "],\"protocol_version\":1,\"type\":\"catalog\"\x7d")) := by
    have hlist := dumpsList_descriptors (fun id hid => (hids id hid).1)
    simp only [dumps, dumpsItems, catalogAnswer, hlist, Option.map_some, Option.bind_eq_bind, Option.bind_some]
    show some (PyStr.ofString "\x7b" ++ commaJoin [
      dumpPair (PyStr.ofString "commands",
        PyStr.ofString "[" ++ commaJoin (ids.map descriptorText) ++ PyStr.ofString "]"),
      dumpPair (PyStr.ofString "protocol_version", PyStr.ofString "1"),
      dumpPair (PyStr.ofString "type", PyStr.ofString "\"catalog\"")] ++ PyStr.ofString "\x7d") = _
    generalize commaJoin (ids.map descriptorText) = commands
    simp (disch := decide) only [dumpPair_literal, commaJoin, List.append_assoc, ofString_join,
      String.reduceAppend, ← PyStr.ofString_append]
  have hitems : ∀ t ∈ ids.map descriptorText, t.Ascii ∧ 190 ≤ t.length ∧ t.length < 201 := by
    intro t ht
    obtain ⟨id, hid, rfl⟩ := List.mem_map.mp ht
    obtain ⟨hplain, hlength⟩ := hids id hid
    obtain ⟨hascii, htotal⟩ := descriptorText_bounds hplain
    exact ⟨hascii, by omega, by omega⟩
  have hascii : (commaJoin (ids.map descriptorText)).Ascii := commaJoin_ascii (fun t ht => (hitems t ht).1)
  have hlength := commaJoin_length (fun t ht => (hitems t ht).2)
  rw [List.length_map] at hlength
  refine ⟨_, canonical_of_dumps htext ?_, ?_⟩
  · simp only [PyStr.ascii_append]
    exact ⟨by decide, hascii, by decide⟩
  · have h₁ : (PyStr.ofString "\x7b\"commands\":[").bytes.length = 13 := by decide
    have h₂ : (PyStr.ofString "],\"protocol_version\":1,\"type\":\"catalog\"\x7d").bytes.length = 40 := by decide
    simp only [PyStr.bytes_append, List.length_append, h₁, h₂, hascii.bytes_eq, List.length_map]
    omega

/-- 48 commands. -/
def longCatalog : Object := catalogAnswer ((List.range 48).map (fun n => PyStr.ofString (toString n)))

def pcMachine : Machine FrameLog FrameLog.Op Unit :=
  FrameLog.machine .checksum .checksum SecureSessionServer.pcServer

/-- The exchange up to its message. -/
def afterHello (message answer : Object) : FrameLog :=
  pcMachine.run [.receive (answering message answer) (deviceJson message) helloLine]

theorem exchange_run (message answer : Object) :
    pcMachine.run (exchange message answer) = (afterHello message answer).step .checksum .checksum
      (.receive (answering message answer) (deviceJson message) (deviceLine message)) := by
  unfold afterHello exchange pcMachine
  exact FrameLog.run_two _ _ _ _ _

/-- A hello has no answers of the Core. -/
theorem hello_fits (message answer : Object) :
    pcMachine.Along (FrameLog.FitsWhileOpen .checksum .checksum)
      [.receive (answering message answer) (deviceJson message) helloLine] := by
  refine Machine.Along.nil.concat ?_
  intro _ session hsession
  cases hsession

theorem frames_gapless_iff_hello :
    Aead.checksum.Lawful ∧ (afterHello catalogRequest longCatalog).Gapless :=
  ⟨Aead.checksum_lawful,
    (frames_gapless_iff Aead.checksum_lawful .checksum SecureSessionServer.pcServer _).mpr
      (hello_fits catalogRequest longCatalog) _ [] (List.append_nil _).symm⟩

/-- After the hello the device is authenticated, and its catalog request is opened. -/
def Ready (l : FrameLog) (loads : Bytes → Except ChannelError Object) : Bool :=
  !l.gateway.closed && l.gateway.secureCore.connection.authenticated &&
  l.gateway.secureCore.connection.deviceIsTrusted l.gateway.secureCore.server &&
  l.gateway.secureCore.connection.channel.any (fun s =>
    let r := SecureJsonChannel.openMessage .checksum loads s (.dict (deviceFrame catalogRequest))
    s.sendSequence = 0 && r.1.sendSequence = 0 && !r.1.closed && r.2.isOk)

/-- The catalog of 48 commands is sealed and not sent. -/
theorem catalog_frame_dropped : ¬ (pcMachine.run (exchange catalogRequest longCatalog)).Gapless := by
  have hready : Ready (afterHello catalogRequest longCatalog) (answering catalogRequest longCatalog).loads = true := by
    decide +kernel
  have hline : isComment (deviceLine catalogRequest) = false ∧
      ¬ (deviceLine catalogRequest).length > maxLineBytes ∧ deviceLine catalogRequest ≠ helloLine := by
    decide +kernel
  obtain ⟨hcomment, hshort, hother⟩ := hline
  have hjson : deviceJson catalogRequest (deviceLine catalogRequest) = some (deviceFrame catalogRequest) := by
    rw [deviceJson, if_neg hother, if_pos rfl]
  have hids : ∀ id ∈ (List.range 48).map (fun n => PyStr.ofString (toString n)), Plain id ∧ id.length ≤ 10 := by
    decide +kernel
  obtain ⟨encoded, hencoded, hlow, hhigh⟩ := canonical_catalogAnswer hids
  rw [List.length_map, List.length_range] at hlow hhigh
  have hsound := FrameLog.run_sound Aead.checksum_lawful (hello_fits catalogRequest longCatalog)
  rw [exchange_run]
  change (afterHello catalogRequest longCatalog).Sound at hsound
  generalize afterHello catalogRequest longCatalog = l at hready hsound ⊢
  simp only [Ready, Bool.and_eq_true, Bool.not_eq_true'] at hready
  obtain ⟨⟨⟨hopen, hauth⟩, htrusted⟩, hsession⟩ := hready
  obtain ⟨session, hchannel, hsession⟩ := (Option.any_eq_true _ _).mp hsession
  simp only [Bool.and_eq_true, Bool.not_eq_true', decide_eq_true_eq] at hsession
  obtain ⟨⟨⟨hzero, hzero'⟩, hlive⟩, hok⟩ := hsession
  cases hmessage : SecureJsonChannel.openMessage .checksum (answering catalogRequest longCatalog).loads session
      (.dict (deviceFrame catalogRequest)) with
  | mk session' result =>
    rw [hmessage] at hzero' hlive hok
    cases result with
    | error e => cases hok
    | ok message =>
      have hnext : session'.sendSequence = 0 := hzero'
      refine FrameLog.Numbered.gap Aead.checksum_lawful .checksum (hsound hopen) hopen hcomment hshort hjson hauth
        htrusted hchannel hmessage rfl hencoded ⟨hlive, ?_, by decide, by rw [hnext]; exact Nat.zero_le _⟩ ?_
      · simp only [maxRecordBytes]
        omega
      · -- 9120 bytes and their tag are more than 12000 characters
        simp only [frameLength, maxLineBytes]
        omega

end Pipa.Serial
