import Pipa.Firmware.PipaSecureProtocol

/- The v2 device as a whole (`pipa_secure_protocol.cpp`): the protocol of
   `PipaSecureProtocol`, the handshake and the record layer it resets and restarts,
   and the transport it reads characters from and writes lines to.

   What a call gives to the transport is a list of lines, as bytes without their
   line ends. What a line is for, a comment, a ClientHello or a frame, does not
   show in its type. `millis()`, the random bytes and whether the buffers for a
   record can be had are arguments of each step. -/
namespace Pipa.Firmware
open Pipa.Lib Pipa.Secure Pipa.Core
open Pipa.Secure.Firmware (cString)

/-- The constants of the build, the identity of the device and what comes from libraries.
`isDuplicateFreeJson` and `deserializeJson` are read as in `Platform`. -/
structure SecurePlatform where
  config : Config
  serverId : Option Bytes
  serverPublicKey : Option CString
  identity : DeviceIdentity
  crypto : Crypto
  aead : Aead
  isDuplicateFreeJson : Bytes → Bool
  deserializeJson : Bytes → Option Json

/-- What one step takes from its surroundings. `allocates` says whether the buffers for a
record with these bytes can be had. -/
structure Moment where
  now : Now
  sessionBytes : Fixed 16
  keyBytes : Fixed 32
  nonce : Fixed 32
  allocates : Bytes → Bool

/-- `PipaSecureProtocol` with the objects it owns. -/
structure SecureDevice where
  protocol : PipaSecureProtocol := {}
  handshake : PipaSecureHandshake := .cleared
  session : PipaSecureSession := .cleared
  inboundLine : Bytes := []
  droppingOversizedLine : Bool := false

namespace SecureDevice
open PipaProtocol (kMaxInboundLine kMaxOutboundLine isAuthenticationError due kServerTimeoutMs)
open PipaSecureProtocol (kMaxPlaintext kHandshakeRetryMs)

def kMaxCiphertext : Nat := kMaxOutboundLine
def kJsonAad : Bytes := literal "pipa/json/v2"

variable (platform : SecurePlatform)

/-! ## Writing -/

/-- `log`. -/
def comment (text : String) : Bytes := literal "# " ++ literal text

/-- The frame of `sendEncrypted`. -/
def frame (ciphertext : Bytes) (sequence : UInt64) (sessionId : Bytes) : Bytes :=
  serialize (.object
    [(literal "ciphertext", .text (Secure.Firmware.encodeBase64Url ciphertext)),
     (literal "protocol_version", .integer 2),
     (literal "sequence", .integer sequence.toNat),
     (literal "session_id", .text sessionId)])

/-- `sendJson`. -/
def sendJson (document : Bytes) : List Bytes :=
  if document.length + 1 > kMaxOutboundLine then [comment "secure outgoing message discarded: too large"]
  else [document]

/-- `sendEncrypted` from the buffer on; what it checks before is in `PipaSecureProtocol`. -/
def sealDocument (d : SecureDevice) (m : Moment) (document : JsonObject) : SecureDevice × List Bytes :=
  let plaintext := serialize (.object document)
  if !m.allocates plaintext then (d, [comment "secure payload encryption failed: insufficient memory"])
  else
    let r := d.session.sealRecord platform.aead plaintext kJsonAad (some kMaxCiphertext)
    match r.2.result with
    | none => ({ d with session := r.1 }, [comment "secure payload encryption failed"])
    | some ciphertext =>
      ({ d with session := r.1 }, sendJson (frame ciphertext d.session.sendSequence r.1.sessionId))

/-- What the protocol gives to its channel, one after the other. -/
def deliver (d : SecureDevice) (m : Moment) : List Output → SecureDevice × List Bytes
  | [] => (d, [])
  | .log text :: outputs =>
    let r := deliver d m outputs
    (r.1, comment text :: r.2)
  | .json document :: outputs =>
    let first := d.sealDocument platform m document
    let r := deliver first.1 m outputs
    (r.1, first.2 ++ r.2)

/-- A call of the protocol that returns its new state and what it sends. -/
def call (d : SecureDevice) (m : Moment) (r : PipaSecureProtocol × List Output) : SecureDevice × List Bytes :=
  { d with protocol := r.1 }.deliver platform m r.2

/-! ## The handshake -/

/-- `resetHandshake`. -/
def resetHandshake (d : SecureDevice) : SecureDevice :=
  { d with protocol := d.protocol.resetHandshake, handshake := .cleared, session := .cleared }

/-- `last_handshake_ = now`. -/
def noteHandshake (d : SecureDevice) (m : Moment) : SecureDevice :=
  { d with protocol := { d.protocol with lastHandshake := m.now.millis } }

/-- `sendHandshake`. -/
def sendHandshake (d : SecureDevice) (m : Moment) : SecureDevice × List Bytes :=
  if !platform.identity.ready then (d, [comment "secure handshake could not start"])
  else
    match PipaSecureHandshake.beginClient platform.crypto platform.identity platform.config.deviceId none m.sessionBytes
        m.keyBytes m.nonce with
    | (handshake, false) => ({ d with handshake := handshake }, [comment "secure handshake could not start"])
    | (handshake, true) =>
      let hello := handshake.clientHelloJson platform.crypto platform.identity
      if hello.isEmpty || hello.length + 1 > kMaxOutboundLine then
        ({ d with handshake := handshake }, [comment "secure ClientHello could not be encoded"])
      else ({ d with handshake := handshake }.noteHandshake m, [hello])

/-- `begin`. -/
def begin (d : SecureDevice) (m : Moment) : SecureDevice × List Bytes := d.resetHandshake.sendHandshake platform m

/-! ## Base64 -/

/-- The loop of `decodeBase64Url`: output so far, accumulator and number of its bits. -/
def decodeLoop (capacity : Nat) : Bytes → Bytes → Nat → Nat → Option (Bytes × Nat × Nat)
  | [], output, accumulator, bits => some (output, accumulator, bits)
  | character :: rest, output, accumulator, bits =>
    match Base64Url.digit? character.toNat with
    | none => none
    | some digit =>
      let accumulator := accumulator * 64 + digit
      let bits := bits + 6
      if bits ≥ 8 then
        let bits := bits - 8
        if output.length ≥ capacity then none
        else decodeLoop capacity rest (output ++ [(accumulator / 2 ^ bits % 256).toUInt8]) (accumulator % 2 ^ bits) bits
      else decodeLoop capacity rest output accumulator bits

/-- `decodeBase64Url`, for at most `capacity` bytes. Its argument is a C string, so `strlen` is the number of its
bytes. -/
def decodeBase64Url (value : CString) (capacity : Nat) : Option Bytes :=
  let inputLength := value.bytes.length
  if inputLength = 0 ∨ inputLength % 4 = 1 then none
  else match decodeLoop capacity value.bytes [] 0 0 with
    | none => none
    | some (output, accumulator, bits) => if bits ≥ 6 ∨ (bits ≠ 0 ∧ accumulator ≠ 0) then none else some output

/-- `decodeServerKey`. -/
def decodeServerKey : Option (Fixed 32) :=
  match platform.serverPublicKey with
  | none => none
  | some text =>
    match decodeBase64Url text 32 with
    | none => none
    | some key => if h : key.length = 32 then some ⟨key, h⟩ else none

/-! ## Receiving -/

/-- A value as `acceptServerHello` sees it. -/
def variant : Json → Secure.Firmware.Variant
  | .text bytes => .text bytes
  | .integer n => .integer n
  | _ => .other

/-- The object as `acceptServerHello` sees it. -/
def helloObject (object : JsonObject) : Secure.Firmware.JsonObject :=
  object.foldl (fun fields e => fields.set e.1 (variant e.2)) Dict.empty

/-- `handleServerHello`. -/
def handleServerHello (d : SecureDevice) (m : Moment) (object : JsonObject) : SecureDevice × List Bytes :=
  if d.handshake.complete then (d, [])
  else match decodeServerKey platform with
    | none => (d, [comment "secure ServerHello rejected"])
    | some serverPublicKey =>
      match d.handshake.acceptServerHello platform.crypto d.session (helloObject object) serverPublicKey
          platform.serverId with
      | ((handshake, session), false) =>
        ({ d with handshake := handshake, session := session }, [comment "secure ServerHello rejected"])
      | ((handshake, session), true) =>
        { d with handshake := handshake, session := session }.call platform m
          (d.protocol.acceptedHello platform.config m.now)

def frameFields : List Bytes :=
  [literal "ciphertext", literal "protocol_version", literal "sequence", literal "session_id"]

/-- `frameHasExactFields`. -/
def frameHasExactFields (object : JsonObject) : Bool :=
  object.all (fun e => cString e.1 ∈ frameFields) && object.length = 4

/-- The header checks of `handleEncryptedFrame`; the ciphertext and its sequence number are returned. -/
def frameHeader? (session : PipaSecureSession) (object : JsonObject) : Option (Bytes × UInt64) :=
  match object.get "sequence", object.get "session_id", object.get "ciphertext" with
  | .integer sequence, .text sessionId, .text ciphertext =>
    if object.intOr0 "protocol_version" = 2 ∧ 0 ≤ sequence ∧ sequence < 2 ^ 64 ∧ cString sessionId = session.sessionId ∧
        cString ciphertext ≠ [] ∧ sequence = session.receiveSequence.toNat then
      some (cString ciphertext, session.receiveSequence)
    else none
  | _, _, _ => none

/-- `handleEncryptedFrame` up to `handleMessage`: the record layer afterwards and the document, or `none` where
the frame is rejected. -/
def openFrame (d : SecureDevice) (m : Moment) (object : JsonObject) : Option (PipaSecureSession × Json) :=
  if !frameHasExactFields object then none
  else match frameHeader? d.session object with
    | none => none
    | some (text, sequence) =>
      if !m.allocates text then none
      else match decodeBase64Url (.ofBytes text) kMaxCiphertext with
        | none => none
        | some ciphertext =>
          match d.session.openRecord platform.aead sequence ciphertext kJsonAad (some kMaxPlaintext) with
          | (_, none) => none
          | (session, some plaintext) =>
            if !platform.isDuplicateFreeJson plaintext then none
            else match platform.deserializeJson plaintext with
              | none => none
              | some document => some (session, document)

/-- `rejectEncryptedFrame`. -/
def rejectEncryptedFrame (d : SecureDevice) (m : Moment) : SecureDevice × List Bytes :=
  (d.resetHandshake.noteHandshake m, [comment "secure session reset"])

/-- Whether `handleMessage` takes the document for an authentication error. -/
def authenticationError (document : JsonObject) : Bool :=
  document.intOr0 "protocol_version" = 1 && document.textOr "type" "" = literal "error" &&
    isAuthenticationError (document.textOr "code" "unknown")

/-- `handleMessage`; an authentication error resets the handshake and the record layer too. -/
def handleMessage (d : SecureDevice) (m : Moment) (document : JsonObject) : SecureDevice × List Bytes :=
  (if authenticationError document then { d with handshake := .cleared, session := .cleared } else d).call platform m
    (d.protocol.handleMessage m.now document)

/-- `handleEncryptedFrame`. -/
def handleEncryptedFrame (d : SecureDevice) (m : Moment) (object : JsonObject) : SecureDevice × List Bytes :=
  match d.openFrame platform m object with
  | none => d.rejectEncryptedFrame m
  | some (session, document) =>
    { d with session := session, protocol := { d.protocol with lastServerMessage := m.now.millis } }.handleMessage platform m
      document.members

/-- `handleLine`. -/
def handleLine (d : SecureDevice) (m : Moment) (line : Bytes) : SecureDevice × List Bytes :=
  if !platform.isDuplicateFreeJson line then (d, [comment "secure incoming message discarded: duplicate or invalid JSON"])
  else match platform.deserializeJson line with
    | none => (d, [comment "secure incoming message discarded: invalid JSON"])
    | some (.object object) =>
      if !d.protocol.authenticated then d.handleServerHello platform m object else d.handleEncryptedFrame platform m object
    | some _ => (d, [comment "secure incoming message discarded: not an object"])

/-- One turn of the loop in `readTransport`. -/
def read (d : SecureDevice) (m : Moment) (character : UInt8) : SecureDevice × List Bytes :=
  if character = 0x0D then (d, [])
  else if character = 0x0A then
    let r := if !d.droppingOversizedLine && !d.inboundLine.isEmpty then d.handleLine platform m d.inboundLine else (d, [])
    ({ r.1 with inboundLine := [], droppingOversizedLine := false }, r.2)
  else if d.droppingOversizedLine then (d, [])
  else if d.inboundLine.length ≥ kMaxInboundLine then
    ({ d with inboundLine := [], droppingOversizedLine := true },
      [comment "secure incoming message discarded: too large"])
  else ({ d with inboundLine := d.inboundLine ++ [character] }, [])

/-! ## Timers -/

/-- The handshake timer of `poll`. -/
def retry (d : SecureDevice) (m : Moment) : SecureDevice × List Bytes :=
  if !d.protocol.authenticated && due m.now d.protocol.lastHandshake kHandshakeRetryMs then
    (d.noteHandshake m).sendHandshake platform m
  else (d, [])

/-- Whether the server has been silent for too long. -/
def timedOut (d : SecureDevice) (m : Moment) : Bool :=
  d.protocol.authenticated && due m.now d.protocol.lastServerMessage kServerTimeoutMs

/-- `poll` after `readTransport`. -/
def timers (d : SecureDevice) (m : Moment) : SecureDevice × List Bytes :=
  if d.timedOut m then
    let r := (d.resetHandshake.noteHandshake m).sendHandshake platform m
    (r.1, comment "secure server heartbeat timed out; restarting handshake" :: r.2)
  else
    let first := d.retry platform m
    let second := first.1.call platform m (first.1.protocol.heartbeat m.now)
    let third := second.1.call platform m (second.1.protocol.statusReport m.now)
    (third.1, first.2 ++ second.2 ++ third.2)

/-! ## Runs -/

inductive Step where
  | begin (m : Moment)
  | read (m : Moment) (character : UInt8)
  | timers (m : Moment)
  | sendGesture (m : Moment) (gesture : Option Bytes)
  | sendTextInput (m : Moment) (text source : Option Bytes)
  | sendConfirmation (m : Moment) (accepted : Bool)
  | setHardwareCapabilities (displayReady touchReady audioProbeReady : Bool)
  | setAudioState (state : AudioState)
  | setBatteryPercent (batteryPercent : Int)

def step (d : SecureDevice) : Step → SecureDevice × List Bytes
  | .begin m => d.begin platform m
  | .read m character => d.read platform m character
  | .timers m => d.timers platform m
  | .sendGesture m gesture => d.call platform m (d.protocol, d.protocol.sendGesture gesture)
  | .sendTextInput m text source => d.call platform m (d.protocol, d.protocol.sendTextInput text source)
  | .sendConfirmation m accepted => d.call platform m (d.protocol, d.protocol.sendConfirmation accepted)
  | .setHardwareCapabilities displayReady touchReady audioProbeReady =>
    ({ d with protocol := d.protocol.setHardwareCapabilities displayReady touchReady audioProbeReady }, [])
  | .setAudioState state => ({ d with protocol := d.protocol.setAudioState state }, [])
  | .setBatteryPercent batteryPercent => ({ d with protocol := d.protocol.setBatteryPercent batteryPercent }, [])

/-- A device from power-on; `poll` is a run of `read` steps and one `timers` step. -/
def machine : Machine SecureDevice Step (List Bytes) where
  init := {}
  step d a := d.step platform a

end SecureDevice

end Pipa.Firmware
