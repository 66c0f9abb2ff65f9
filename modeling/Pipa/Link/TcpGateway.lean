import Pipa.Core.Guarded
import Pipa.Link.TcpFrames
import Pipa.Link.Wire
import Pipa.Secure.Connection
import Pipa.Serial.Gateway

/- `SecureTcpGateway` (`secure_tcp_gateway.py`) with all its connections on the Core.

   Its tasks share one event loop, and a task keeps the loop until it awaits. An event
   is what runs between two awaits: a connection comes in, a handler has read a frame,
   a handler is over, or the watcher looks at the trusted devices. In between others may
   use the Core. What the Core was asked is kept as a list, with the connection that asked;
   the Core's state is the run of that list.

   `accept_client_hello` awaits nothing, so its two calls of the server are one event
   here, and the trusted devices cannot change between them. -/
namespace Pipa.Link.Tcp
open Pipa.Lib Pipa.Secure
open Pipa.Core (PipaCore State ClientMessage ServerMessage Clock parseClientMessage)
open Pipa.Serial (startsHandshake)

/-- `MAX_CONNECTIONS`. -/
def maxConnections : Nat := 4

abbrev Devices := Dict PyStr (Fixed 32)

/-- What the gateway is built with. `loads` is the parser of a decrypted message, and `watched` says
whether there is a `trusted_devices_provider`. -/
structure Settings (ω : Type) where
  core : PipaCore ω
  crypto : Crypto
  aead : Aead
  loads : Bytes → Except ChannelError Object
  connectionLimit : Nat
  limit_pos : 1 ≤ connectionLimit
  limit_le : connectionLimit ≤ maxConnections
  watched : Bool

/-- The readings of the clocks in an event, the state of the outside world, and what is drawn at random. -/
structure Draws (ω : Type) where
  world : ω
  clock : Clock
  monotonic : ℚ
  ephemeralPrivateKey : Fixed 32
  nonce : Bytes
  sessionId : PyStr
  confirmationId : PyStr

/-- A connection with its handler. `closing` says that its writer was closed by another task, and
`verifiedKey` is a history variable: the key that its last hello was verified under. -/
structure Client where
  secureCore : SecureCoreConnection
  verifiedKey : Option (Fixed 32)
  closing : Bool

/-- `_writers` and `_connections`, which always have the same keys. A writer is known by the number of
connections before it. -/
structure SecureTcpGateway (ω : Type) where
  sessionServer : SecureSessionServer
  clients : Dict Nat Client
  accepted : Nat
  asked : List (Option Nat × Core.Op ω)

inductive Event (ω : Type) where
  | connected
  /-- `current` is what the provider returns, if it is called: `none` where it raises. -/
  | frame (writer : Nat) (payload : Object) (current : Option Devices) (d : Draws ω)
  /-- The handler is over for another reason: the end of the stream, a time-out, a failed read or write. -/
  | ended (writer : Nat) (clock : Clock)
  | watch (current : Option Devices)
  | shutdown
  /-- Somebody else uses the Core. -/
  | other (op : Core.Op ω)

/-- What an event asks the Core, and the frames it writes. -/
structure Done (ω : Type) where
  asked : List (Option Nat × Core.Op ω)
  written : List (Nat × Value)

/-! ## One frame -/

section
variable {ω : Type} (s : Settings ω)

/-- The state of the Core. -/
def SecureTcpGateway.core (g : SecureTcpGateway ω) : State := (Core.machine s.core).run (g.asked.map Prod.snd)

/-- What the handler does with a frame. There is no answer where an exception ends it. -/
structure Turn (ω : Type) where
  secureCore : SecureCoreConnection
  sessionServer : SecureSessionServer
  verifiedKey : Option (Fixed 32)
  asked : List (Core.Op ω)
  answer : Option (List Value)

/-- `_refresh_trusted_devices`, and whether it succeeded. -/
def refreshTrustedDevices (server : SecureSessionServer) (current : Option Devices) : SecureSessionServer × Bool :=
  if !s.watched then (server, true)
  else match current with
    | none => (server, false)
    | some devices => server.refreshTrustedDevices devices

/-- `secure_core.accept_client_hello`, with the Core's part. -/
def acceptClientHello (st : State) (client : Client) (server : SecureSessionServer) (payload : Object)
    (d : Draws ω) : Turn ω :=
  let r := client.secureCore.beginHello s.crypto server (.dict payload) d.monotonic d.ephemeralPrivateKey d.nonce
  match r.2, r.1.1.inProgress with
  | .ok (), some (serverHello, _) =>
    let verifiedKey := SecureCoreConnection.verificationKey server (.dict payload)
    let create : Core.Op ω := .create serverHello.clientId none [] false d.sessionId d.clock
    let coreSessionId := match (create.apply s.core st).result with
      | .ok _ => some d.sessionId
      | .error _ => none
    let f := r.1.1.finishHello r.1.2 coreSessionId
    -- the Core is asked only for a device that is still paired
    let asked := if (r.1.2.trustedDevicePublicKey serverHello.clientId).isSome then [create] else []
    ⟨f.1, r.1.2, verifiedKey, asked, match f.2 with
      | .error _ => none
      | .ok hello => some [.dict hello.asDict]⟩
  | _, _ => ⟨r.1.1, r.1.2, client.verifiedKey, [], none⟩

/-- `secure_core.process_frame`, with the Core's part. -/
def processFrame (st : State) (client : Client) (server : SecureSessionServer) (frame : Object) (d : Draws ω) :
    Turn ω :=
  let c := client.secureCore
  let turn (c : SecureCoreConnection) (asked : List (Core.Op ω)) (answer : Option (List Value)) : Turn ω :=
    ⟨c, server, client.verifiedKey, asked, answer⟩
  match c.channel, c.coreSessionId with
  | some channel, some sid =>
    if !c.deviceIsTrusted server then turn c.close [.close sid d.clock] none
    else match SecureJsonChannel.openMessage s.aead s.loads channel (.dict frame) with
      | (channel', .error .recursion) => turn { c with channel := some channel' } [] none
      | (_, .error _) => turn c.close [.close sid d.clock] none
      | (channel', .ok decrypted) =>
        match parseClientMessage decrypted with
        | none =>
          let r := SecureJsonChannel.sealMessage s.aead channel' SecureCoreConnection.protocolErrorMessage
          let c' := { c with channel := some r.1, protocolErrors := c.protocolErrors + 1 }
          match r.2 with
          | .error _ => turn c' [] none
          | .ok response =>
            if c'.protocolErrors ≥ maxSecureProtocolErrors then
              turn c'.close [.close sid d.clock] (some [response])
            else turn c' [] (some [response])
        | some message =>
          let handle : Core.Op ω := .handle sid message d.world d.confirmationId d.clock
          match (handle.apply s.core st).result with
          | .error _ => turn { c with channel := some channel', protocolErrors := 0 } [handle] none
          | .ok responses =>
            let r := SecureJsonChannel.sealMessages s.aead channel' (responses.map payload)
            turn { c with channel := some r.1, protocolErrors := 0 } [handle] r.2.toOption
  | _, _ => turn c [] none

/-- The body of the loop in `_handle_client`, after `_read_frame`. -/
def respond (st : State) (client : Client) (server : SecureSessionServer) (payload : Object)
    (current : Option Devices) (d : Draws ω) : Turn ω :=
  let stop (server : SecureSessionServer) : Turn ω := ⟨client.secureCore, server, client.verifiedKey, [], none⟩
  if !client.secureCore.authenticated then
    if !startsHandshake payload then stop server
    else
      let r := refreshTrustedDevices s server current
      if !r.2 then stop r.1 else acceptClientHello s st client r.1 payload d
  else if s.watched && !client.secureCore.deviceIsTrusted server then stop server
  else processFrame s st client server payload d

/-! ## The gateway -/

/-- `close` of a connection, as far as the Core goes. -/
def closing (c : SecureCoreConnection) (clock : Clock) : List (Core.Op ω) :=
  match c.coreSessionId with
  | none => []
  | some sid => [.close sid clock]

namespace SecureTcpGateway

/-- The `finally` of `_handle_client`, after what was asked before. -/
def finish (g : SecureTcpGateway ω) (writer : Nat) (c : SecureCoreConnection) (asked : List (Core.Op ω))
    (clock : Clock) : SecureTcpGateway ω × Done ω :=
  let asked := (asked ++ closing c clock).map (fun op => (some writer, op))
  ({ g with clients := g.clients.erase writer, asked := g.asked ++ asked }, ⟨asked, []⟩)

def quiet (g : SecureTcpGateway ω) : SecureTcpGateway ω × Done ω := (g, ⟨[], []⟩)

/-- `writer.close()` for some of the connections. -/
def closeWriters (g : SecureTcpGateway ω) (p : Client → Bool) : SecureTcpGateway ω × Done ω :=
  quiet { g with
    clients := g.clients.mapValues (fun client => { client with closing := client.closing || p client }) }

/-- A frame that the handler of a connection has read. -/
def frame (g : SecureTcpGateway ω) (writer : Nat) (client : Client) (payload : Object)
    (current : Option Devices) (d : Draws ω) : SecureTcpGateway ω × Done ω :=
  let turn := respond s (g.core s) client g.sessionServer payload current d
  let g := { g with sessionServer := turn.sessionServer }
  match turn.answer with
  | none => g.finish writer turn.secureCore turn.asked d.clock
  | some frames =>
    let asked := turn.asked.map (fun op => (some writer, op))
    ({ g with
        clients := g.clients.set writer ⟨turn.secureCore, turn.verifiedKey, client.closing⟩
        asked := g.asked ++ asked },
      ⟨asked, frames.map (fun frame => (writer, frame))⟩)

def step (g : SecureTcpGateway ω) : Event ω → SecureTcpGateway ω × Done ω
  | .connected =>
    let clients :=
      if g.clients.size ≥ s.connectionLimit then g.clients
      else g.clients.set g.accepted ⟨SecureCoreConnection.new, none, false⟩
    quiet { g with clients := clients, accepted := g.accepted + 1 }
  | .frame writer payload current d =>
    match g.clients.get? writer with
    | none => g.quiet
    | some client => g.frame s writer client payload current d
  | .ended writer clock =>
    match g.clients.get? writer with
    | none => g.quiet
    | some client => g.finish writer client.secureCore [] clock
  | .watch current =>
    if !s.watched then g.quiet
    else
      let r := refreshTrustedDevices s g.sessionServer current
      let g := { g with sessionServer := r.1 }
      if !r.2 then g.closeWriters (fun _ => true)
      else g.closeWriters (fun client => client.secureCore.authenticated && !client.secureCore.deviceIsTrusted r.1)
  | .shutdown => g.closeWriters (fun _ => true)
  | .other op => ({ g with asked := g.asked ++ [(none, op)] }, ⟨[(none, op)], []⟩)

def machine (server : SecureSessionServer) : Machine (SecureTcpGateway ω) (Event ω) (Done ω) where
  init := ⟨server, Dict.empty, 0, []⟩
  step := step s

end SecureTcpGateway
end

/-! ## What a turn does -/

section
variable {ω : Type} {s : Settings ω}

/-- Between two events no hello is half done, a connection has a Core session just when it has a device, and
it remembers the key that the device's hello was verified under. -/
structure Client.Sound (client : Client) : Prop where
  idle : client.secureCore.inProgress = none
  whole : client.secureCore.coreSessionId.isSome = client.secureCore.authenticated
  paired : client.secureCore.deviceId.isSome = client.secureCore.authenticated
  key : client.secureCore.devicePublicKey = if client.secureCore.authenticated then client.verifiedKey else none

/-- The frame holds this message, under the keys of the connection. -/
def Carries (s : Settings ω) (client : Client) (frame : Object) (message : ClientMessage) : Prop :=
  ∃ channel later decrypted, client.secureCore.channel = some channel ∧
    SecureJsonChannel.openMessage s.aead s.loads channel (.dict frame) = (later, .ok decrypted) ∧
    parseClientMessage decrypted = some message

/-- The cases of a turn. -/
inductive Turn.Case (s : Settings ω) (st : State) (client : Client) (server : SecureSessionServer)
    (payload : Object) (d : Draws ω) (t : Turn ω) : Prop
  | stopped (asked : t.asked = []) (answer : t.answer = none)
      (session : t.secureCore.coreSessionId = client.secureCore.coreSessionId)
  | refused (device : PyStr) (before : client.secureCore.authenticated = false)
      (asked : t.asked = [.create device none [] false d.sessionId d.clock])
      (failed : ∀ messages, ((Core.Op.create device none [] false d.sessionId d.clock).apply s.core st).result ≠
        .ok messages)
      (answer : t.answer = none) (session : t.secureCore.coreSessionId = none)
  | opened (device : PyStr) (session : SecureSession) (key : Fixed 32) (errors : Nat)
      (before : client.secureCore.authenticated = false)
      (asked : t.asked = [.create device none [] false d.sessionId d.clock])
      (secureCore : t.secureCore = ⟨some session, some d.sessionId, some device, some key, errors, none⟩)
      (verified : t.verifiedKey = some key) (answer : t.answer.isSome = true)
  | unread (channel : SecureSession) (errors : Nat) (before : client.secureCore.authenticated = true)
      (asked : t.asked = [])
      (secureCore : t.secureCore = { client.secureCore with channel := some channel, protocolErrors := errors })
      (verified : t.verifiedKey = client.verifiedKey)
  | closed (sid : PyStr) (before : client.secureCore.coreSessionId = some sid)
      (asked : t.asked = [.close sid d.clock])
      (secureCore : t.secureCore = client.secureCore.close) (verified : t.verifiedKey = client.verifiedKey)
  | handled (sid : PyStr) (message : ClientMessage) (channel : SecureSession)
      (before : client.secureCore.coreSessionId = some sid)
      (authenticated : client.secureCore.authenticated = true)
      (trusted : client.secureCore.deviceIsTrusted server = true) (carries : Carries s client payload message)
      (asked : t.asked = [.handle sid message d.world d.confirmationId d.clock])
      (secureCore : t.secureCore = { client.secureCore with channel := some channel, protocolErrors := 0 })
      (verified : t.verifiedKey = client.verifiedKey)

theorem beginHello_trusted (crypto : Crypto) (c : SecureCoreConnection) (server : SecureSessionServer)
    (payload : Value) (now : ℚ) (ephemeralPrivateKey : Fixed 32) (nonce : Bytes) :
    (c.beginHello crypto server payload now ephemeralPrivateKey nonce).1.2.trustedDevices =
      server.trustedDevices := by
  unfold SecureCoreConnection.beginHello
  split
  · rfl
  · obtain ⟨e, he⟩ | ⟨e, he⟩ | ⟨hello, key, answer, -, -, -, -, hok⟩ :=
      SecureSessionServer.acceptClientHello_cases crypto server payload now ephemeralPrivateKey nonce
    · rw [he]
    · rw [he]
    · rw [hok]

theorem beginHello_session (crypto : Crypto) (c : SecureCoreConnection) (server : SecureSessionServer)
    (payload : Value) (now : ℚ) (ephemeralPrivateKey : Fixed 32) (nonce : Bytes) :
    (c.beginHello crypto server payload now ephemeralPrivateKey nonce).1.1.coreSessionId = c.coreSessionId := by
  obtain hsame | ⟨-, answer, hanswer⟩ :=
    SecureCoreConnection.beginHello_cases crypto c server payload now ephemeralPrivateKey nonce
  · rw [hsame]
  · rw [hanswer]

theorem finishHello_some {c : SecureCoreConnection} {server : SecureSessionServer} {serverHello : ServerHello}
    {session : SecureSession} {key : Fixed 32} (hprogress : c.inProgress = some (serverHello, session))
    (hkey : server.trustedDevices.get? serverHello.clientId = some key) (coreSessionId : PyStr) :
    (c.finishHello server (some coreSessionId)).1 =
        ⟨some session, some coreSessionId, some serverHello.clientId, some key, c.protocolErrors, none⟩ ∧
      (c.finishHello server (some coreSessionId)).2 = .ok serverHello := by
  refine ⟨SecureCoreConnection.finishHello_ok hprogress hkey coreSessionId, ?_⟩
  unfold SecureCoreConnection.finishHello
  rw [hprogress]
  simp only [SecureSessionServer.trustedDevicePublicKey, hkey]

theorem finishHello_none {c : SecureCoreConnection} {server : SecureSessionServer} {serverHello : ServerHello}
    {session : SecureSession} {key : Fixed 32} (hprogress : c.inProgress = some (serverHello, session))
    (hkey : server.trustedDevices.get? serverHello.clientId = some key) :
    ∃ e, c.finishHello server none = ({ c with inProgress := none }, .error e) := by
  unfold SecureCoreConnection.finishHello
  rw [hprogress]
  simp only [SecureSessionServer.trustedDevicePublicKey, hkey]
  exact ⟨_, rfl⟩

theorem acceptClientHello_case {st : State} {client : Client} {server server' : SecureSessionServer}
    {payload : Object} {d : Draws ω} (hsound : client.Sound) (hnot : client.secureCore.authenticated = false) :
    (acceptClientHello s st client server payload d).Case s st client server' payload d := by
  have hsession := beginHello_session s.crypto client.secureCore server (.dict payload) d.monotonic
    d.ephemeralPrivateKey d.nonce
  have htrusted := beginHello_trusted s.crypto client.secureCore server (.dict payload) d.monotonic
    d.ephemeralPrivateKey d.nonce
  have hnone : client.secureCore.coreSessionId = none := by
    rw [← Option.not_isSome_iff_eq_none, hsound.whole, hnot]
    exact Bool.false_ne_true
  unfold acceptClientHello
  dsimp only
  split
  · rename_i serverHello session hok hprogress
    obtain ⟨hello, key, answered, later, hparse, -, hkey, hid, hanswered⟩ :=
      SecureCoreConnection.beginHello_verified hok
    obtain ⟨rfl, rfl⟩ : serverHello = answered ∧ session = later := by
      rw [hprogress] at hanswered
      simpa using hanswered
    -- the key of the first call is still there in the second
    have hcurrent : (client.secureCore.beginHello s.crypto server (.dict payload) d.monotonic d.ephemeralPrivateKey
        d.nonce).1.2.trustedDevices.get? serverHello.clientId = some key := by
      rw [htrusted, hid]
      simpa only [SecureCoreConnection.verificationKey, hparse] using hkey
    simp only [SecureSessionServer.trustedDevicePublicKey, hcurrent, Option.isSome_some, if_true]
    split
    · obtain ⟨hfinish, hanswer⟩ := finishHello_some hprogress hcurrent d.sessionId
      refine .opened _ _ _ _ hnot rfl hfinish hkey ?_
      rw [hanswer]
      rfl
    · rename_i hfailed
      obtain ⟨e, hfinish⟩ := finishHello_none hprogress hcurrent
      refine .refused serverHello.clientId hnot rfl ?_ ?_ ?_
      · rw [hfailed]
        intro messages h
        cases h
      · rw [hfinish]
      · rw [hfinish]
        exact hsession.trans hnone
  · exact .stopped rfl rfl hsession

theorem processFrame_case {st : State} {client : Client} {server : SecureSessionServer} {payload : Object}
    {d : Draws ω} (hauth : client.secureCore.authenticated = true) :
    (processFrame s st client server payload d).Case s st client server payload d := by
  obtain ⟨hchannel, hsession⟩ := Bool.and_eq_true_iff.mp hauth
  obtain ⟨⟨_, _, deviceId, publicKey, errors, inProgress⟩, verifiedKey, closed⟩ := client
  obtain ⟨channel, rfl⟩ := Option.isSome_iff_exists.mp hchannel
  obtain ⟨sid, rfl⟩ := Option.isSome_iff_exists.mp hsession
  unfold processFrame
  dsimp only
  split
  · exact .closed sid rfl rfl rfl rfl
  rename_i htrusted
  rw [Bool.not_eq_true, Bool.not_eq_false'] at htrusted
  split
  · exact .stopped rfl rfl rfl
  · exact .closed sid rfl rfl rfl rfl
  rename_i channel' decrypted hopen
  split
  · split
    · exact .stopped rfl rfl rfl
    split
    · exact .closed sid rfl rfl rfl rfl
    · exact .unread _ _ hauth rfl rfl rfl
  · rename_i message hparse
    have hcarries : Carries s
        ⟨⟨some channel, some sid, deviceId, publicKey, errors, inProgress⟩, verifiedKey, closed⟩ payload message :=
      ⟨channel, channel', decrypted, rfl, hopen, hparse⟩
    split
    · exact .handled sid message _ rfl hauth htrusted hcarries rfl rfl rfl
    · exact .handled sid message _ rfl hauth htrusted hcarries rfl rfl rfl

theorem respond_case {st : State} {client : Client} {server : SecureSessionServer} {payload : Object}
    {current : Option Devices} {d : Draws ω} (hsound : client.Sound) :
    (respond s st client server payload current d).Case s st client server payload d := by
  unfold respond
  dsimp only
  split
  · rename_i hnot
    rw [Bool.not_eq_true'] at hnot
    split
    · exact .stopped rfl rfl rfl
    split
    · exact .stopped rfl rfl rfl
    · exact acceptClientHello_case hsound hnot
  · rename_i hauth
    rw [Bool.not_eq_true', Bool.not_eq_false] at hauth
    split
    · exact .stopped rfl rfl rfl
    · exact processFrame_case hauth

/-- A frame that was read, or not, changes the channel and the count of errors. -/
theorem Client.Sound.keeps {client : Client} (h : client.Sound) (hauth : client.secureCore.authenticated = true)
    (channel : SecureSession) (errors : Nat) (closed : Bool) :
    Client.Sound ⟨{ client.secureCore with channel := some channel, protocolErrors := errors }, client.verifiedKey,
      closed⟩ := by
  have hwhole := h.whole
  have hpaired := h.paired
  have hkey := h.key
  rw [hauth] at hwhole hpaired hkey
  refine ⟨h.idle, ?_, ?_, ?_⟩
  · simp [SecureCoreConnection.authenticated]
  · simp [SecureCoreConnection.authenticated, hwhole, hpaired]
  · simp [SecureCoreConnection.authenticated, hwhole, hkey]

/-- What a turn leaves to the connection that goes on. -/
theorem Turn.Case.sound {st : State} {client : Client} {server : SecureSessionServer} {payload : Object}
    {d : Draws ω} {t : Turn ω} (h : t.Case s st client server payload d) (hsound : client.Sound)
    (hanswer : t.answer.isSome = true) (closed : Bool) : Client.Sound ⟨t.secureCore, t.verifiedKey, closed⟩ := by
  obtain ⟨secureCore, server', verifiedKey, asked, answer⟩ := t
  cases h with
  | stopped _ hnone _ =>
    rw [hnone] at hanswer
    cases hanswer
  | refused _ _ _ _ hnone _ =>
    rw [hnone] at hanswer
    cases hanswer
  | opened device session key errors _ _ hcore hverified _ =>
    obtain rfl : secureCore = _ := hcore
    obtain rfl : verifiedKey = _ := hverified
    exact ⟨rfl, rfl, rfl, rfl⟩
  | unread channel errors hauth _ hcore hverified =>
    obtain rfl : secureCore = _ := hcore
    obtain rfl : verifiedKey = _ := hverified
    exact hsound.keeps hauth channel errors closed
  | closed sid _ _ hcore hverified =>
    obtain rfl : secureCore = _ := hcore
    exact ⟨hsound.idle, rfl, rfl, rfl⟩
  | handled sid message channel _ hauth _ _ _ hcore hverified =>
    obtain rfl : secureCore = _ := hcore
    obtain rfl : verifiedKey = _ := hverified
    exact hsound.keeps hauth channel 0 closed

/-- The session of a connection after its turn is the one it had, or the one just opened. -/
theorem Turn.Case.session {st : State} {client : Client} {server : SecureSessionServer} {payload : Object}
    {d : Draws ω} {t : Turn ω} (h : t.Case s st client server payload d) (hanswer : t.answer.isSome = true)
    {sid : PyStr} (hsid : t.secureCore.coreSessionId = some sid) :
    (client.secureCore.coreSessionId = some sid ∧ t.secureCore.deviceId = client.secureCore.deviceId) ∨
    ∃ device, t.secureCore.deviceId = some device ∧ t.asked = [.create device none [] false sid d.clock] := by
  cases h with
  | stopped _ hnone _ =>
    rw [hnone] at hanswer
    cases hanswer
  | refused _ _ _ _ hnone _ =>
    rw [hnone] at hanswer
    cases hanswer
  | opened device session key errors _ hasked hcore _ _ =>
    rw [hcore] at hsid
    obtain rfl : d.sessionId = sid := Option.some.inj hsid
    exact .inr ⟨device, by rw [hcore], hasked⟩
  | unread channel errors _ _ hcore _ =>
    rw [hcore] at hsid
    exact .inl ⟨hsid, by rw [hcore]⟩
  | closed _ _ _ hcore _ =>
    rw [hcore] at hsid
    cases hsid
  | handled _ _ channel _ _ _ _ _ hcore _ =>
    rw [hcore] at hsid
    exact .inl ⟨hsid, by rw [hcore]⟩

theorem Client.Sound.trustSound {client : Client} (h : client.Sound) (server : SecureSessionServer) :
    SecureCoreConnection.TrustSound ⟨server, client.secureCore, client.verifiedKey⟩ := by
  refine SecureCoreConnection.Consistent.trustSound ⟨?_, ?_⟩
  · intro key hkey
    by_contra hnot
    rw [h.key, if_neg hnot] at hkey
    cases hkey
  · intro key hkey
    rw [h.key] at hkey
    split at hkey
    · exact hkey
    · cases hkey

/-! ## What an event does -/

namespace SecureTcpGateway

/-- A connection that is left as it was, but for what other tasks may do to its writer. -/
def Stays (client later : Client) : Prop :=
  later.secureCore = client.secureCore ∧ later.verifiedKey = client.verifiedKey ∧
    (client.closing = true → later.closing = true)

variable {g : SecureTcpGateway ω}

/-- The cases of an event: the connections stay, one comes in, one goes, or one takes its turn and goes on. -/
inductive Move (s : Settings ω) (g : SecureTcpGateway ω) : Event ω → SecureTcpGateway ω × Done ω → Prop
  | stay (e : Event ω) (g' : SecureTcpGateway ω) (asked : List (Option Nat × Core.Op ω))
      (clients : ∀ writer, Option.Rel Stays (g.clients.get? writer) (g'.clients.get? writer))
      (size : g'.clients.size = g.clients.size) (accepted : g.accepted ≤ g'.accepted)
      (kept : g'.asked = g.asked ++ asked) (others : ∀ a ∈ asked, ∃ op, e = .other op ∧ a = (none, op)) :
      Move s g e (g', ⟨asked, []⟩)
  | join (room : g.clients.size < s.connectionLimit) :
      Move s g .connected
        ({ g with
            clients := g.clients.set g.accepted ⟨SecureCoreConnection.new, none, false⟩
            accepted := g.accepted + 1 }, ⟨[], []⟩)
  | leave (writer : Nat) (clock : Clock) (client : Client) (present : g.clients.get? writer = some client) :
      Move s g (.ended writer clock) (g.finish writer client.secureCore [] clock)
  | stop (writer : Nat) (payload : Object) (current : Option Devices) (d : Draws ω) (client : Client)
      (present : g.clients.get? writer = some client) (t : Turn ω)
      (turn : t = respond s (g.core s) client g.sessionServer payload current d) (answer : t.answer = none) :
      Move s g (.frame writer payload current d)
        ({ g with sessionServer := t.sessionServer }.finish writer t.secureCore t.asked d.clock)
  | serve (writer : Nat) (payload : Object) (current : Option Devices) (d : Draws ω) (client : Client)
      (present : g.clients.get? writer = some client) (t : Turn ω)
      (turn : t = respond s (g.core s) client g.sessionServer payload current d) (frames : List Value)
      (answer : t.answer = some frames) :
      Move s g (.frame writer payload current d)
        ({ g with
            sessionServer := t.sessionServer
            clients := g.clients.set writer ⟨t.secureCore, t.verifiedKey, client.closing⟩
            asked := g.asked ++ t.asked.map (fun op => (some writer, op)) },
          ⟨t.asked.map (fun op => (some writer, op)), frames.map (fun frame => (writer, frame))⟩)

theorem stays_refl (client : Option Client) : Option.Rel Stays client client := by
  cases client with
  | none => exact .none
  | some client => exact .some ⟨rfl, rfl, id⟩

theorem step_stay (e : Event ω) : Move s g e g.quiet :=
  .stay e g [] (fun _ => stays_refl _) rfl (Nat.le_refl _) (List.append_nil _).symm (List.forall_mem_nil _)

theorem closeWriters_stay (e : Event ω) (server : SecureSessionServer) (p : Client → Bool) :
    Move s g e (closeWriters { g with sessionServer := server } p) := by
  refine .stay e _ [] ?_ Dict.size_mapValues (Nat.le_refl _) (List.append_nil _).symm (List.forall_mem_nil _)
  intro writer
  simp only [Dict.get?_mapValues]
  cases g.clients.get? writer with
  | none => exact .none
  | some client => exact .some ⟨rfl, rfl, fun hclosing => by simp [hclosing]⟩

theorem step_move (e : Event ω) : Move s g e (g.step s e) := by
  cases e with
  | connected =>
    simp only [step]
    split
    · exact .stay _ _ [] (fun _ => stays_refl _) rfl (Nat.le_succ _) (List.append_nil _).symm
        (List.forall_mem_nil _)
    · rename_i hroom
      exact .join (Nat.lt_of_not_le hroom)
  | frame writer payload current d =>
    simp only [step]
    cases hclient : g.clients.get? writer with
    | none => exact step_stay _
    | some client =>
      simp only [frame]
      cases hanswer : (respond s (g.core s) client g.sessionServer payload current d).answer with
      | none => exact .stop writer payload current d client hclient _ rfl hanswer
      | some frames => exact .serve writer payload current d client hclient _ rfl frames hanswer
  | ended writer clock =>
    simp only [step]
    cases hclient : g.clients.get? writer with
    | none => exact step_stay _
    | some client => exact .leave writer clock client hclient
  | watch current =>
    simp only [step]
    split
    · exact step_stay _
    split
    · exact closeWriters_stay _ _ _
    · exact closeWriters_stay _ _ _
  | shutdown => exact closeWriters_stay _ g.sessionServer _
  | other op =>
    refine .stay _ _ [(none, op)] (fun _ => stays_refl _) rfl (Nat.le_refl _) rfl ?_
    exact List.forall_mem_singleton.mpr ⟨op, rfl, rfl⟩

/-! ## Runs -/

/-- What holds of the gateway after every run. -/
structure Kept (s : Settings ω) (g : SecureTcpGateway ω) : Prop where
  few : g.clients.size ≤ s.connectionLimit
  below : ∀ writer client, g.clients.get? writer = some client → writer < g.accepted
  sound : ∀ writer client, g.clients.get? writer = some client → client.Sound
  asker : ∀ writer op, (some writer, op) ∈ g.asked → writer < g.accepted
  opened : ∀ writer client sid, g.clients.get? writer = some client → client.secureCore.coreSessionId = some sid →
    ∃ device clock, client.secureCore.deviceId = some device ∧
      (some writer, .create device none [] false sid clock) ∈ g.asked

theorem Kept.start (s : Settings ω) (server : SecureSessionServer) : Kept s ⟨server, Dict.empty, 0, []⟩ where
  few := Nat.zero_le _
  below _ _ h := by simp at h
  sound _ _ h := by simp at h
  asker _ _ h := by cases h
  opened _ _ _ h := by simp at h

theorem mem_tagged {writer w : Nat} {op : Core.Op ω} {asked : List (Core.Op ω)} :
    (some w, op) ∈ asked.map (fun op => (some writer, op)) ↔ w = writer ∧ op ∈ asked := by
  rw [List.mem_map]
  constructor
  · rintro ⟨op, hop, heq⟩
    obtain ⟨hw, rfl⟩ := Prod.mk.inj heq
    exact ⟨(Option.some.inj hw).symm, hop⟩
  · rintro ⟨rfl, hop⟩
    exact ⟨op, hop, rfl⟩

/-- A connection that goes takes nothing with it but itself. -/
theorem Kept.finish (h : Kept s g) {writer : Nat} {client : Client}
    (hpresent : g.clients.get? writer = some client) (server : SecureSessionServer) (c : SecureCoreConnection)
    (asked : List (Core.Op ω)) (clock : Clock) :
    Kept s ({ g with sessionServer := server }.finish writer c asked clock).1 where
  few := Nat.le_trans (Dict.size_filter_le _) h.few
  below w later hw := h.below w later (Dict.get?_erase_some.mp hw).2
  sound w later hw := h.sound w later (Dict.get?_erase_some.mp hw).2
  asker w op hop := by
    obtain hop | hop := List.mem_append.mp hop
    · exact h.asker w op hop
    · obtain ⟨rfl, -⟩ := mem_tagged.mp hop
      exact h.below w client hpresent
  opened w later sid hw hsid := by
    obtain ⟨device, t, hdevice, hop⟩ := h.opened w later sid (Dict.get?_erase_some.mp hw).2 hsid
    exact ⟨device, t, hdevice, List.mem_append_left _ hop⟩

theorem Kept.step (h : Kept s g) (e : Event ω) : Kept s (g.step s e).1 := by
  generalize hstep : g.step s e = r
  have hmove := g.step_move (s := s) e
  rw [hstep] at hmove
  cases hmove with
  | stay _ g' asked hclients hsize haccepted hkept hothers =>
    have before {w : Nat} {client : Client} (hw : g'.clients.get? w = some client) :
        ∃ client₀, g.clients.get? w = some client₀ ∧ Stays client₀ client := by
      have hrel := hclients w
      rw [hw] at hrel
      cases hg : g.clients.get? w with
      | none =>
        rw [hg] at hrel
        cases hrel
      | some client₀ =>
        rw [hg] at hrel
        cases hrel with
        | some hstays => exact ⟨client₀, rfl, hstays⟩
    refine ⟨hsize ▸ h.few, ?_, ?_, ?_, ?_⟩
    · intro w client hw
      obtain ⟨client₀, hw₀, -⟩ := before hw
      exact Nat.lt_of_lt_of_le (h.below w client₀ hw₀) haccepted
    · intro w client hw
      obtain ⟨client₀, hw₀, hcore, hverified, -⟩ := before hw
      obtain ⟨secureCore, verifiedKey, closed⟩ := client
      obtain rfl : secureCore = _ := hcore
      obtain rfl : verifiedKey = _ := hverified
      have hsound := h.sound w client₀ hw₀
      exact ⟨hsound.idle, hsound.whole, hsound.paired, hsound.key⟩
    · intro w op hop
      rw [hkept] at hop
      obtain hop | hop := List.mem_append.mp hop
      · exact Nat.lt_of_lt_of_le (h.asker w op hop) haccepted
      · obtain ⟨other, -, heq⟩ := hothers _ hop
        cases heq
    · intro w client sid hw hsid
      obtain ⟨client₀, hw₀, hcore, -, -⟩ := before hw
      rw [hcore] at hsid ⊢
      obtain ⟨device, clock, hdevice, hop⟩ := h.opened w client₀ sid hw₀ hsid
      exact ⟨device, clock, hdevice, hkept ▸ List.mem_append_left _ hop⟩
  | join hroom =>
    refine ⟨Nat.le_trans (Dict.size_set_le _ _ _) hroom, ?_, ?_, ?_, ?_⟩
    · intro w client hw
      obtain ⟨rfl, -⟩ | ⟨-, hw⟩ := Dict.get?_set_some.mp hw
      · exact Nat.lt_succ_self _
      · exact Nat.lt_succ_of_lt (h.below w client hw)
    · intro w client hw
      obtain ⟨-, rfl⟩ | ⟨-, hw⟩ := Dict.get?_set_some.mp hw
      · exact ⟨rfl, rfl, rfl, rfl⟩
      · exact h.sound w client hw
    · intro w op hop
      exact Nat.lt_succ_of_lt (h.asker w op hop)
    · intro w client sid hw hsid
      obtain ⟨-, rfl⟩ | ⟨-, hw⟩ := Dict.get?_set_some.mp hw
      · cases hsid
      · exact h.opened w client sid hw hsid
  | leave writer clock client hpresent => exact h.finish hpresent g.sessionServer _ _ _
  | stop writer payload current d client hpresent t hturn hanswer => exact h.finish hpresent t.sessionServer _ _ _
  | serve writer payload current d client hpresent t hturn frames hanswer =>
    have hcase : t.Case s (g.core s) client g.sessionServer payload d :=
      hturn ▸ respond_case (h.sound writer client hpresent)
    have hsome : t.answer.isSome = true := Option.isSome_of_eq_some hanswer
    refine ⟨?_, ?_, ?_, ?_, ?_⟩
    · rw [Dict.size_set_mem hpresent]
      exact h.few
    · intro w later hw
      obtain ⟨rfl, -⟩ | ⟨-, hw⟩ := Dict.get?_set_some.mp hw
      · exact h.below w client hpresent
      · exact h.below w later hw
    · intro w later hw
      obtain ⟨-, rfl⟩ | ⟨-, hw⟩ := Dict.get?_set_some.mp hw
      · exact hcase.sound (h.sound writer client hpresent) hsome client.closing
      · exact h.sound w later hw
    · intro w op hop
      obtain hop | hop := List.mem_append.mp hop
      · exact h.asker w op hop
      · obtain ⟨rfl, -⟩ := mem_tagged.mp hop
        exact h.below w client hpresent
    · intro w later sid hw hsid
      obtain ⟨rfl, rfl⟩ | ⟨-, hw⟩ := Dict.get?_set_some.mp hw
      · obtain ⟨hbefore, hsame⟩ | ⟨device, hdevice, hasked⟩ := hcase.session hsome hsid
        · obtain ⟨device, clock, hdevice, hop⟩ := h.opened w client sid hpresent hbefore
          exact ⟨device, clock, hsame.trans hdevice, List.mem_append_left _ hop⟩
        · refine ⟨device, d.clock, hdevice, List.mem_append_right _ (mem_tagged.mpr ⟨rfl, ?_⟩)⟩
          rw [hasked]
          exact List.mem_singleton_self _
      · obtain ⟨device, clock, hdevice, hop⟩ := h.opened w later sid hw hsid
        exact ⟨device, clock, hdevice, List.mem_append_left _ hop⟩

theorem run_kept (s : Settings ω) (server : SecureSessionServer) (events : List (Event ω)) :
    Kept s ((machine s server).run events) := by
  induction events using List.reverseRecOn with
  | nil => exact .start s server
  | append_singleton pre e ih =>
    rw [Machine.run_concat]
    exact ih.step e

/-! ## Trust -/

/-- The event is a frame on this connection: its device's key is trusted now, is the one that the hello was
verified under, and the frame holds the message under the keys of the connection. -/
def Served (s : Settings ω) (g : SecureTcpGateway ω) (e : Event ω) (writer : Nat) (sid : PyStr)
    (message : ClientMessage) : Prop :=
  ∃ payload current d client device key, e = .frame writer payload current d ∧
    g.clients.get? writer = some client ∧ client.secureCore.coreSessionId = some sid ∧
    client.secureCore.deviceId = some device ∧ g.sessionServer.trustedDevices.get? device = some key ∧
    client.verifiedKey = some key ∧ Carries s client payload message

theorem not_closing {c : SecureCoreConnection} {clock : Clock} {op : Core.Op ω} (h : op ∈ closing c clock) :
    ∃ sid, op = .close sid clock ∧ c.coreSessionId = some sid := by
  unfold closing at h
  split at h
  · cases h
  · rename_i sid hsid
    exact ⟨sid, List.mem_singleton.mp h, hsid⟩

/-- What a turn hands to the Core came from a device that is trusted. -/
theorem case_served {client : Client} {payload : Object} {current : Option Devices} {d : Draws ω} {t : Turn ω}
    {writer : Nat} (h : t.Case s (g.core s) client g.sessionServer payload d) (hsound : client.Sound)
    (hpresent : g.clients.get? writer = some client) {op : Core.Op ω} (hop : op ∈ t.asked) {sid token : PyStr}
    {input : Core.Input} {world : ω} (hinput : op.input? = some (sid, input, world, token)) :
    ∃ message, op = .handle sid message world token op.clock ∧
      Served s g (.frame writer payload current d) writer sid message := by
  cases h with
  | stopped hasked _ _ =>
    rw [hasked] at hop
    cases hop
  | refused _ _ hasked _ _ _ =>
    rw [hasked] at hop
    obtain rfl := List.mem_singleton.mp hop
    cases hinput
  | opened _ _ _ _ _ hasked _ _ _ =>
    rw [hasked] at hop
    obtain rfl := List.mem_singleton.mp hop
    cases hinput
  | unread _ _ _ hasked _ _ =>
    rw [hasked] at hop
    cases hop
  | closed _ _ hasked _ _ =>
    rw [hasked] at hop
    obtain rfl := List.mem_singleton.mp hop
    cases hinput
  | handled _ message channel hbefore hauth htrusted hcarries hasked _ _ =>
    rw [hasked] at hop
    obtain rfl := List.mem_singleton.mp hop
    cases hinput
    obtain ⟨device, key, hdevice, hkey, hverified⟩ := hsound.trustSound g.sessionServer hauth htrusted
    exact ⟨message, rfl, payload, current, d, client, device, key, rfl, hpresent, hbefore, hdevice, hkey, hverified,
      hcarries⟩

theorem step_served (h : Kept s g) {e : Event ω} {writer : Nat} {op : Core.Op ω}
    (hop : (some writer, op) ∈ (g.step s e).2.asked) {sid token : PyStr} {input : Core.Input} {world : ω}
    (hinput : op.input? = some (sid, input, world, token)) :
    ∃ message, op = .handle sid message world token op.clock ∧ Served s g e writer sid message := by
  have notClosing {c : SecureCoreConnection} {clock : Clock} (hclosing : op ∈ closing c clock) : False := by
    obtain ⟨sid, rfl, -⟩ := not_closing hclosing
    cases hinput
  generalize hstep : g.step s e = r at hop
  have hmove := g.step_move (s := s) e
  rw [hstep] at hmove
  cases hmove with
  | stay _ g' asked _ _ _ _ hothers =>
    obtain ⟨other, -, heq⟩ := hothers _ hop
    cases heq
  | join _ => cases hop
  | leave w clock client hpresent =>
    obtain ⟨-, hclosing⟩ := mem_tagged.mp hop
    exact (notClosing hclosing).elim
  | stop w payload current d client hpresent t hturn hanswer =>
    have hsound := h.sound w client hpresent
    obtain ⟨rfl, hturned⟩ := mem_tagged.mp hop
    obtain hasked | hclosing := List.mem_append.mp hturned
    · exact case_served (hturn ▸ respond_case hsound) hsound hpresent hasked hinput
    · exact (notClosing hclosing).elim
  | serve w payload current d client hpresent t hturn frames hanswer =>
    have hsound := h.sound w client hpresent
    obtain ⟨rfl, hasked⟩ := mem_tagged.mp hop
    exact case_served (hturn ▸ respond_case hsound) hsound hpresent hasked hinput

/-! ## Revocation -/

/-- If the connection is still there, its writer was closed. -/
def Closing (g : SecureTcpGateway ω) (writer : Nat) : Prop :=
  ∀ client, g.clients.get? writer = some client → client.closing = true

/-- A writer that was closed stays closed, and no connection takes its place. -/
theorem step_closing (e : Event ω) : g.accepted ≤ (g.step s e).1.accepted ∧
    ∀ writer < g.accepted, g.Closing writer → (g.step s e).1.Closing writer := by
  generalize hstep : g.step s e = r
  have hmove := g.step_move (s := s) e
  rw [hstep] at hmove
  cases hmove with
  | stay _ g' asked hclients _ haccepted _ _ =>
    refine ⟨haccepted, fun writer _ hclosing client hclient => ?_⟩
    have hrel := hclients writer
    rw [hclient] at hrel
    cases hg : g.clients.get? writer with
    | none =>
      rw [hg] at hrel
      cases hrel
    | some client₀ =>
      rw [hg] at hrel
      cases hrel with
      | some hstays => exact hstays.2.2 (hclosing client₀ hg)
  | join hroom =>
    refine ⟨Nat.le_succ _, fun writer hbelow hclosing client hclient => ?_⟩
    obtain ⟨rfl, -⟩ | ⟨-, hclient⟩ := Dict.get?_set_some.mp hclient
    · exact absurd hbelow (Nat.lt_irrefl _)
    · exact hclosing client hclient
  | leave w clock client₀ hpresent =>
    refine ⟨Nat.le_refl _, fun writer _ hclosing client hclient => ?_⟩
    exact hclosing client (Dict.get?_erase_some.mp hclient).2
  | stop w payload current d client₀ hpresent t hturn hanswer =>
    refine ⟨Nat.le_refl _, fun writer _ hclosing client hclient => ?_⟩
    exact hclosing client (Dict.get?_erase_some.mp hclient).2
  | serve w payload current d client₀ hpresent t hturn frames hanswer =>
    refine ⟨Nat.le_refl _, fun writer _ hclosing client hclient => ?_⟩
    obtain ⟨rfl, rfl⟩ | ⟨-, hclient⟩ := Dict.get?_set_some.mp hclient
    · exact hclosing client₀ hpresent
    · exact hclosing client hclient

/-- What the watcher finds wrong with a connection: the devices could not be read, or its device is not among
them. -/
def Condemned (s : Settings ω) (g : SecureTcpGateway ω) (current : Option Devices) (client : Client) : Prop :=
  (refreshTrustedDevices s g.sessionServer current).2 = false ∨
  (client.secureCore.authenticated = true ∧
    client.secureCore.deviceIsTrusted (refreshTrustedDevices s g.sessionServer current).1 = false)

theorem watch_closes (hwatched : s.watched = true) {current : Option Devices} {writer : Nat} {client : Client}
    (hpresent : g.clients.get? writer = some client) (hcondemned : Condemned s g current client) :
    (g.step s (.watch current)).1.Closing writer := by
  intro later hlater
  simp only [step, hwatched, Bool.not_true, Bool.false_eq_true, if_false] at hlater
  split at hlater
  · simp only [closeWriters, quiet, Dict.get?_mapValues, hpresent, Option.map_some, Option.some.injEq] at hlater
    rw [← hlater]
    exact Bool.or_true _
  · rename_i hrefreshed
    simp only [closeWriters, quiet, Dict.get?_mapValues, hpresent, Option.map_some, Option.some.injEq] at hlater
    obtain hfailed | ⟨hauth, huntrusted⟩ := hcondemned
    · rw [hfailed] at hrefreshed
      exact absurd rfl hrefreshed
    · rw [← hlater]
      simp [hauth, huntrusted]

/-- In every run: no more connections than the limit; a device that counts as trusted holds the key that its hello
was verified under, so that the race between the two calls of a hello does not happen here; whatever the Core is
handed for a connection is a message that the connection's keys open, from a device whose key is trusted at that
moment; and a connection that the watcher condemns has its writer closed, as long as it is there. -/
theorem only_trusted_devices (s : Settings ω) (server : SecureSessionServer) (events : List (Event ω)) :
    ((machine s server).run events).clients.size ≤ s.connectionLimit ∧
    (∀ writer client, ((machine s server).run events).clients.get? writer = some client →
      SecureCoreConnection.TrustSound
        ⟨((machine s server).run events).sessionServer, client.secureCore, client.verifiedKey⟩) ∧
    (∀ pre e post writer sid message world token clock, events = pre ++ e :: post →
      (some writer, .handle sid message world token clock) ∈ ((machine s server).out pre e).asked →
      Served s ((machine s server).run pre) e writer sid message) ∧
    ∀ pre current post writer client, events = pre ++ .watch current :: post → s.watched = true →
      ((machine s server).run pre).clients.get? writer = some client →
      Condemned s ((machine s server).run pre) current client →
      ((machine s server).run events).Closing writer := by
  have hkept := run_kept s server events
  refine ⟨hkept.few, ?_, ?_, ?_⟩
  · intro writer client hclient
    exact (hkept.sound writer client hclient).trustSound _
  · rintro pre e post writer sid message world token clock - hop
    obtain ⟨message, heq, hserved⟩ := step_served (run_kept s server pre) hop rfl
    cases heq
    exact hserved
  · rintro pre current post writer client rfl hwatched hpresent hcondemned
    have hclosing := watch_closes hwatched hpresent hcondemned
    have hbelow := (run_kept s server pre).below writer client hpresent
    have hfirst := (step_closing (s := s) (g := (machine s server).run pre) (.watch current)).1
    rw [show pre ++ .watch current :: post = (pre ++ [.watch current]) ++ post by simp]
    have hlater := Machine.between (m := machine s server)
      (R := fun g g' => g.accepted ≤ g'.accepted ∧ ∀ writer < g.accepted, g.Closing writer → g'.Closing writer)
      (fun g => ⟨Nat.le_refl _, fun _ _ h => h⟩)
      (fun g₁ g₂ g₃ h₁ h₂ => ⟨Nat.le_trans h₁.1 h₂.1,
        fun w hw h => h₂.2 w (Nat.lt_of_lt_of_le hw h₁.1) (h₁.2 w hw h)⟩)
      (fun g e => step_closing e) (pre ++ [.watch current]) post
    refine hlater.2 writer ?_ ?_
    · rw [Machine.run_concat]
      exact Nat.lt_of_lt_of_le hbelow hfirst
    · rw [Machine.run_concat]
      exact hclosing

/-! ## A device that is no longer trusted -/

def pipaDraws : Draws Unit where
  world := ()
  clock := ⟨100, 100, 100⟩
  monotonic := 0
  ephemeralPrivateKey := pcEphemeral
  nonce := pcNonce
  sessionId := PyStr.ofString "core-1"
  confirmationId := PyStr.ofString "c"

def pipaSettings : Settings Unit where
  core := Core.lockCore
  crypto := .checksum
  aead := .checksum
  loads _ := .error .invalidJson
  connectionLimit := maxConnections
  limit_pos := by decide
  limit_le := Nat.le_refl _
  watched := true

/-- A device connects and is authenticated. -/
def pipaEvents : List (Event Unit) :=
  [.connected, .frame 0 pipaHello.asDict (some SecureSessionServer.pipaDevices) pipaDraws]

theorem only_trusted_devices_pipa :
    ((machine pipaSettings SecureSessionServer.pcServer).run
      (pipaEvents ++ [.watch (some Dict.empty)])).Closing 0 := by
  have hstate : (((machine pipaSettings SecureSessionServer.pcServer).run pipaEvents).clients.get? 0).any
      (fun client => client.secureCore.authenticated && !client.secureCore.deviceIsTrusted
        (refreshTrustedDevices pipaSettings ((machine pipaSettings SecureSessionServer.pcServer).run
          pipaEvents).sessionServer (some Dict.empty)).1) = true := by decide +kernel
  obtain ⟨client, hclient, hcondemned⟩ := (Option.any_eq_true _ _).mp hstate
  rw [Bool.and_eq_true, Bool.not_eq_true'] at hcondemned
  have hwatch := (only_trusted_devices pipaSettings SecureSessionServer.pcServer
    (pipaEvents ++ [.watch (some Dict.empty)])).2.2.2
  exact hwatch pipaEvents (some Dict.empty) [] 0 client rfl rfl hclient (.inr hcondemned)

end SecureTcpGateway

end

end Pipa.Link.Tcp
