import Pipa.Core.Protocol
import Pipa.Firmware.Json
import Pipa.Lib.Machine

/- `PipaProtocol` (`pipa_protocol.cpp`), the v1 protocol on the device: a state
   machine driven by the characters that arrive, the timers of `poll` and the
   calls of the user interface.

   `poll` reads whatever has arrived, character by character, and then looks at
   its timers; so it is a run of `read` steps and one `timers` step (`pollSteps`).
   `millis()` is an argument: one reading for each step, modulo `2^32`. Signing,
   `isDuplicateFreeJson` and `deserializeJson` are parameters. What is written to
   the transport is the output of the step: a JSON line or a comment. -/
namespace Pipa.Firmware
open Pipa.Lib Pipa.Secure Pipa.Core
open Pipa.Secure.Firmware (cString)

/-! ## The screen -/

/-- `UiSnapshot`; `state` has only the values that `updateUi` lets through. -/
structure UiSnapshot where
  state : UiState := .idle
  caption : Bytes := []
  confirmationId : Bytes := []
  confirmationSummary : Bytes := []

namespace UiSnapshot

/-- The state of that name, `idle` for a name it does not know. -/
def stateNamed (name : Bytes) : UiState :=
  if name = literal "listening" then .listening
  else if name = literal "thinking" then .thinking
  else if name = literal "confirm" then .confirm
  else if name = literal "speaking" then .speaking
  else if name = literal "focus" then .focus
  else if name = literal "dashboard" then .dashboard
  else .idle

/-- The confirmation is taken off the screen. -/
def clearConfirmation (ui : UiSnapshot) : UiSnapshot := { ui with confirmationId := [], confirmationSummary := [] }

/-- `updateUi`. -/
def updateUi (ui : UiSnapshot) (object : JsonObject) : UiSnapshot :=
  let caption := object.textOr "caption" ""
  let ui' :=
    { ui with
      state := stateNamed (object.textOr "state" "idle")
      caption := if isSafeDisplayText caption 256 then caption.take 256 else [] }
  if ui'.state = .confirm then ui' else ui'.clearConfirmation

/-- The texts of a `confirm_request` that may be shown. -/
def confirmation? (object : JsonObject) : Option (Bytes × Bytes) :=
  let confirmationId := object.textOr "confirmation_id" ""
  let summary := object.textOr "summary" ""
  if isSafeDisplayText confirmationId 128 && isSafeDisplayText summary 256 then some (confirmationId, summary)
  else none

/-- A confirmation is put on the screen. -/
def showConfirmation (ui : UiSnapshot) (confirmation : Bytes × Bytes) : UiSnapshot :=
  { ui with state := .confirm, confirmationId := confirmation.1, confirmationSummary := confirmation.2 }

def failedCaption : Bytes := literal "La solicitud no ha podido completarse."

end UiSnapshot

/-! ## State -/

/-- The constants of the build. -/
structure Config where
  deviceId : Bytes
  firmwareVersion : Bytes

/-- What the protocol takes from outside. `sign` is `signBase64Url`, empty where it fails. -/
structure Platform where
  config : Config
  sign : Bytes → Bytes
  isDuplicateFreeJson : Bytes → Bool
  deserializeJson : Bytes → Option Json

structure PipaProtocol where
  ui : UiSnapshot := {}
  inboundLine : Bytes := []
  droppingOversizedLine : Bool := false
  awaitingReady : Bool := false
  authenticated : Bool := false
  displayReady : Bool := false
  touchReady : Bool := false
  audioProbeReady : Bool := false
  audioState : AudioState := .disabled
  batteryPercent : Int := -1
  lastChallengeRequest : UInt32 := 0
  lastHeartbeat : UInt32 := 0
  lastStatus : UInt32 := 0
  lastServerMessage : UInt32 := 0

/-- What is written to the transport. -/
inductive Output where
  | json (document : JsonObject)
  | log (text : String)

/-- The clock and the radio at a step. -/
structure Now where
  millis : UInt32
  rssi : Option Int := none

namespace PipaProtocol

def kMaxInboundLine : Nat := 12000
def kMaxOutboundLine : Nat := 12000
def kMaxTextInput : Nat := 4000
def kChallengeRetryMs : UInt32 := 5000
def kHeartbeatMs : UInt32 := 30000
def kStatusMs : UInt32 := 60000
def kServerTimeoutMs : UInt32 := 90000

/-! ## Messages -/

/-- `sendJson`. -/
def sendJson (document : JsonObject) : List Output :=
  if (serialize (.object document)).length + 1 > kMaxOutboundLine then
    [.log "outgoing message discarded: too large"]
  else [.json document]

/-- The members every message starts with. -/
def message (type : String) (fields : JsonObject) : JsonObject :=
  (literal "protocol_version", .integer 1) :: (literal "type", .text (literal type)) :: fields

def challengeRequest (config : Config) : JsonObject :=
  message "challenge_request" [(literal "device_id", .text config.deviceId)]

def sendChallengeRequest (config : Config) : List Output := sendJson (challengeRequest config)

/-- `String(millis(), HEX)`. -/
def hexText (n : Nat) : Bytes := literal (String.ofList (Nat.toDigits 16 n))

def sendHeartbeat (now : Now) : List Output :=
  sendJson (message "ping" [(literal "request_id", .text (hexText now.millis.toNat))])

/-- `pipaAudioStateName`. -/
def pipaAudioStateName : AudioState → String
  | .disabled => "disabled"
  | .probeOnly => "probe_only"
  | .codecReady => "codec_ready"
  | .listening => "listening"
  | .draining => "draining"
  | .error => "error"

def sendDeviceStatus (p : PipaProtocol) (now : Now) : List Output :=
  sendJson (message "device_status"
    ([(literal "audio_state", .text (literal (pipaAudioStateName p.audioState)))] ++
      (if p.batteryPercent ≥ 0 then [(literal "battery_percent", .integer p.batteryPercent)] else []) ++
      (match now.rssi with
        | some rssi => [(literal "wifi_rssi", .integer rssi)]
        | none => [])))

def capabilities (p : PipaProtocol) : List Json :=
  ([literal "usb_serial"] ++ (if p.touchReady then [literal "touch"] else []) ++
    (if p.displayReady then [literal "display"] else []) ++
    (if p.audioProbeReady then [literal "audio_probe"] else []) ++
    [literal "wol", literal "text_input", literal "device_status"]).map Json.text

/-- The members that are signed, in this order. -/
def signedMembers : List String :=
  ["audience", "challenge_id", "device_id", "expires_at", "issued_at", "nonce", "operation", "protocol_version"]

/-- The bytes `sendSignedHello` signs. -/
def signingBytes (challenge : JsonObject) : Bytes :=
  serialize (.object (signedMembers.map (fun key => (literal key, challenge.get key))))

def signedHello (config : Config) (p : PipaProtocol) (challenge : JsonObject) (signature : Bytes) : JsonObject :=
  message "hello"
    [(literal "device_id", .text config.deviceId), (literal "challenge_id", challenge.get "challenge_id"),
     (literal "signature", .text signature), (literal "firmware_version", .text config.firmwareVersion),
     (literal "capabilities", .array p.capabilities)]

/-- `sendSignedHello`. -/
def sendSignedHello (platform : Platform) (p : PipaProtocol) (challenge : JsonObject) : PipaProtocol × List Output :=
  let signature := platform.sign (signingBytes challenge)
  if signature.isEmpty then (p, [.log "challenge signing failed"])
  else ({ p with awaitingReady := true }, sendJson (signedHello platform.config p challenge signature))

/-- `validateChallenge`. -/
def validateChallenge (config : Config) (challenge : JsonObject) : Bool :=
  match challenge.int64? "issued_at", challenge.int64? "expires_at" with
  | some issuedAt, some expiresAt =>
    let challengeId := challenge.textOr "challenge_id" ""
    let nonce := challenge.textOr "nonce" ""
    challenge.intOr0 "protocol_version" = 1 && challenge.textOr "audience" "" = literal "pipa-trusted-unlock" &&
    challenge.textOr "device_id" "" = config.deviceId && challenge.textOr "operation" "" = literal "session" &&
    !challengeId.isEmpty && challengeId.length ≤ 128 && !nonce.isEmpty && nonce.length ≤ 128 &&
    0 < issuedAt && issuedAt < expiresAt && expiresAt - issuedAt ≤ 300
  | _, _ => false

/-! ## Receiving -/

/-- `clearSessionUi`. -/
def clearSessionUi (p : PipaProtocol) : PipaProtocol := { p with ui := {} }

/-- The error codes after which the device asks for a challenge again. -/
def isAuthenticationError (code : Bytes) : Bool :=
  [literal "authentication_failed", literal "authentication_required", literal "unknown_session"].contains code

def handleChallenge (platform : Platform) (p : PipaProtocol) (now : Now) (document : JsonObject) :
    PipaProtocol × List Output :=
  if p.authenticated || p.awaitingReady then (p, [.log "unexpected challenge discarded"])
  else match document.object? "challenge" with
    | none => (p, [.log "invalid challenge discarded"])
    | some challenge =>
      if !validateChallenge platform.config challenge then (p, [.log "invalid challenge discarded"])
      else sendSignedHello platform { p with lastServerMessage := now.millis } challenge

def handleReady (p : PipaProtocol) (now : Now) (document : JsonObject) : PipaProtocol × List Output :=
  let sessionId := document.textOr "session_id" ""
  if !p.awaitingReady || sessionId.isEmpty || sessionId.length > 128 then
    (p, [.log "unexpected ready message discarded"])
  else
    let p' :=
      { p with
        awaitingReady := false
        authenticated := true
        lastServerMessage := now.millis
        lastHeartbeat := now.millis
        lastStatus := now.millis
        ui := match document.object? "ui_state" with
          | some nestedUi => p.ui.updateUi nestedUi
          | none => p.ui }
    (p', p'.sendDeviceStatus now ++ [.log "authenticated session ready"])

def handleError (config : Config) (p : PipaProtocol) (now : Now) (document : JsonObject) : PipaProtocol × List Output :=
  let p := { p with lastServerMessage := now.millis }
  if isAuthenticationError (document.textOr "code" "unknown") then
    ({ p.clearSessionUi with
        authenticated := false
        awaitingReady := false
        lastChallengeRequest := now.millis },
      sendChallengeRequest config ++ [.log "server error received"])
  else
    ({ p with ui := { caption := UiSnapshot.failedCaption } }, [.log "server error received"])

/-- The messages an authenticated device only notes the time of. -/
def isAcknowledgement (type : Bytes) : Bool :=
  [literal "pong", literal "status_ack", literal "gesture_ack", literal "tts_aborted"].contains type

/-- The branches of `handleMessage` that need an authenticated device. -/
def handleSession (p : PipaProtocol) (now : Now) (type : Bytes) (document : JsonObject) : PipaProtocol × List Output :=
  if !p.authenticated then (p, [])
  else if type = literal "ui_state" then
    ({ p with lastServerMessage := now.millis, ui := p.ui.updateUi document }, [])
  else if type = literal "confirm_request" then
    if !p.ui.confirmationId.isEmpty then
      (p, [.log "confirmation request discarded: another confirmation is visible"])
    else match UiSnapshot.confirmation? document with
      | none => (p, [.log "invalid confirmation request discarded"])
      | some confirmation =>
        ({ p with lastServerMessage := now.millis, ui := p.ui.showConfirmation confirmation }, [])
  else if type = literal "tool_result" then
    ({ p with lastServerMessage := now.millis, ui := p.ui.clearConfirmation }, [])
  else ({ p with lastServerMessage := now.millis }, [])

/-- The types `handleSession` takes. -/
def isSessionMessage (type : Bytes) : Bool :=
  type = literal "ui_state" || type = literal "confirm_request" || type = literal "tool_result" ||
    isAcknowledgement type

/-- `handleMessage`. -/
def handleMessage (platform : Platform) (p : PipaProtocol) (now : Now) (document : JsonObject) :
    PipaProtocol × List Output :=
  let type := document.textOr "type" ""
  if document.intOr0 "protocol_version" ≠ 1 then (p, [.log "server protocol version rejected"])
  else if type = literal "challenge" then handleChallenge platform p now document
  else if type = literal "ready" then handleReady p now document
  else if type = literal "error" then handleError platform.config p now document
  else if isSessionMessage type then handleSession p now type document
  else (p, [.log "unknown server message discarded"])

/-- `handleLine`. -/
def handleLine (platform : Platform) (p : PipaProtocol) (now : Now) (line : Bytes) : PipaProtocol × List Output :=
  if !platform.isDuplicateFreeJson line then
    (p, [.log "incoming message discarded: duplicate or invalid JSON"])
  else match platform.deserializeJson line with
    | none => (p, [.log "incoming message discarded: invalid JSON"])
    | some document => handleMessage platform p now document.members

/-- One turn of the loop in `readTransport`. -/
def read (platform : Platform) (p : PipaProtocol) (now : Now) (character : UInt8) : PipaProtocol × List Output :=
  if character = 0x0D then (p, [])
  else if character = 0x0A then
    let r :=
      if !p.droppingOversizedLine && !p.inboundLine.isEmpty then handleLine platform p now p.inboundLine
      else (p, [])
    ({ r.1 with inboundLine := [], droppingOversizedLine := false }, r.2)
  else if p.droppingOversizedLine then (p, [])
  else if p.inboundLine.length ≥ kMaxInboundLine then
    ({ p with inboundLine := [], droppingOversizedLine := true }, [.log "incoming message discarded: too large"])
  else ({ p with inboundLine := p.inboundLine ++ [character] }, [])

/-! ## Timers -/

/-- `now - since >= interval` on `uint32_t`. -/
def due (now : Now) (since interval : UInt32) : Bool := interval ≤ now.millis - since

/-- The heartbeat timer of `poll`. -/
def heartbeat (p : PipaProtocol) (now : Now) : PipaProtocol × List Output :=
  if p.authenticated && due now p.lastHeartbeat kHeartbeatMs then
    ({ p with lastHeartbeat := now.millis }, sendHeartbeat now)
  else (p, [])

/-- The status timer. -/
def statusReport (p : PipaProtocol) (now : Now) : PipaProtocol × List Output :=
  if p.authenticated && due now p.lastStatus kStatusMs then
    ({ p with lastStatus := now.millis }, p.sendDeviceStatus now)
  else (p, [])

/-- Both, one after the other. -/
def beat (p : PipaProtocol) (now : Now) : PipaProtocol × List Output :=
  let first := p.heartbeat now
  let second := first.1.statusReport now
  (second.1, first.2 ++ second.2)

/-- `poll` after `readTransport`. -/
def timers (config : Config) (p : PipaProtocol) (now : Now) : PipaProtocol × List Output :=
  if p.authenticated && due now p.lastServerMessage kServerTimeoutMs then
    ({ p.clearSessionUi with
        authenticated := false
        awaitingReady := false
        lastChallengeRequest := now.millis },
      .log "server heartbeat timed out; authenticating again" :: sendChallengeRequest config)
  else if !p.authenticated && due now p.lastChallengeRequest kChallengeRetryMs then
    ({ p with lastChallengeRequest := now.millis }, sendChallengeRequest config)
  else p.beat now

/-! ## Calls of the user interface -/

/-- `sendGesture`; `none` is a null pointer. -/
def sendGesture (p : PipaProtocol) (gesture : Option Bytes) : List Output :=
  match gesture with
  | none => []
  | some gesture =>
    if !p.authenticated || !isSafeGesture gesture then []
    else sendJson (message "gesture" [(literal "gesture", .text gesture)])

/-- The `safe_source` of `sendTextInput`. -/
def safeSource : Option Bytes → Bytes
  | some source => if source.isEmpty then literal "unknown" else source
  | none => literal "unknown"

/-- `sendTextInput`. -/
def sendTextInput (p : PipaProtocol) (text source : Option Bytes) : List Output :=
  match text with
  | none => []
  | some text =>
    if !p.authenticated || !isSafeDisplayText text kMaxTextInput || !isSafeTextSource (safeSource source) then
      if p.authenticated && text.length > kMaxTextInput then [.log "outgoing text discarded: too large"] else []
    else sendJson (message "text_input" [(literal "text", .text text), (literal "source", .text (safeSource source))])

/-- `sendConfirmation`. -/
def sendConfirmation (p : PipaProtocol) (accepted : Bool) : List Output :=
  if !p.authenticated || p.ui.confirmationId.isEmpty || p.ui.confirmationSummary.isEmpty then []
  else sendJson (message "confirm"
    [(literal "confirmation_id", .text p.ui.confirmationId), (literal "accepted", .boolean accepted)])

def setHardwareCapabilities (p : PipaProtocol) (displayReady touchReady audioProbeReady : Bool) : PipaProtocol :=
  { p with displayReady := displayReady, touchReady := touchReady, audioProbeReady := audioProbeReady }

def setAudioState (p : PipaProtocol) (state : AudioState) : PipaProtocol := { p with audioState := state }

def setBatteryPercent (p : PipaProtocol) (batteryPercent : Int) : PipaProtocol :=
  { p with batteryPercent := if 0 ≤ batteryPercent ∧ batteryPercent ≤ 100 then batteryPercent else -1 }

/-! ## Runs -/

/-- The constructor and `begin`. -/
def begin (config : Config) (now : Now) : PipaProtocol × List Output :=
  ({ lastChallengeRequest := now.millis }, sendChallengeRequest config)

inductive Step where
  | read (now : Now) (character : UInt8)
  | timers (now : Now)
  | sendGesture (gesture : Option Bytes)
  | sendTextInput (text source : Option Bytes)
  | sendConfirmation (accepted : Bool)
  | setHardwareCapabilities (displayReady touchReady audioProbeReady : Bool)
  | setAudioState (state : AudioState)
  | setBatteryPercent (batteryPercent : Int)

def step (platform : Platform) (p : PipaProtocol) : Step → PipaProtocol × List Output
  | .read now character => p.read platform now character
  | .timers now => p.timers platform.config now
  | .sendGesture gesture => (p, p.sendGesture gesture)
  | .sendTextInput text source => (p, p.sendTextInput text source)
  | .sendConfirmation accepted => (p, p.sendConfirmation accepted)
  | .setHardwareCapabilities displayReady touchReady audioProbeReady =>
    (p.setHardwareCapabilities displayReady touchReady audioProbeReady, [])
  | .setAudioState state => (p.setAudioState state, [])
  | .setBatteryPercent batteryPercent => (p.setBatteryPercent batteryPercent, [])

/-- The steps the device makes by itself, where what it reads is a step of the line. -/
def ownStep (platform : Platform) (p : PipaProtocol) : Step → PipaProtocol × List Output
  | .read _ _ => (p, [])
  | a => p.step platform a

/-- `poll`, when these characters have arrived. -/
def pollSteps (now : Now) (characters : Bytes) : List Step := characters.map (Step.read now) ++ [.timers now]

/-- A device that has called `begin` at `start`. -/
def machine (platform : Platform) (start : Now) : Machine PipaProtocol Step (List Output) where
  init := (begin platform.config start).1
  step p a := p.step platform a

end PipaProtocol

end Pipa.Firmware
