import Pipa.Firmware.PipaProtocol

/- `PipaSecureProtocol` (`pipa_secure_protocol.cpp`), the v2 protocol on the device,
   inside its encrypted channel: the messages that `handleEncryptedFrame` has
   opened, the timers of `poll`, and the calls of the user interface.

   The handshake is in `Secure.DeviceHandshake` and the channel in
   `Secure.RecordLayer`. An output is a plaintext given to the channel or a
   comment; the ClientHello of a restarted handshake is no part of it. Sealing
   a plaintext that is short enough succeeds. -/
namespace Pipa.Firmware
open Pipa.Lib Pipa.Secure Pipa.Core

structure PipaSecureProtocol where
  ui : UiSnapshot := {}
  authenticated : Bool := false
  displayReady : Bool := false
  touchReady : Bool := false
  audioProbeReady : Bool := false
  audioState : AudioState := .disabled
  batteryPercent : Int := -1
  lastHandshake : UInt32 := 0
  lastHeartbeat : UInt32 := 0
  lastStatus : UInt32 := 0
  lastServerMessage : UInt32 := 0

namespace PipaSecureProtocol
open PipaProtocol (message hexText pipaAudioStateName isAuthenticationError due kHeartbeatMs kStatusMs
  kServerTimeoutMs safeSource kMaxTextInput)

def kMaxPlaintext : Nat := 6000
def kHandshakeRetryMs : UInt32 := 5000

/-! ## Messages -/

/-- `sendEncrypted`. -/
def sendEncrypted (p : PipaSecureProtocol) (document : JsonObject) : List Output :=
  if !p.authenticated then []
  else if (serialize (.object document)).length > kMaxPlaintext then [.log "secure payload discarded: too large"]
  else [.json document]

def sendHeartbeat (p : PipaSecureProtocol) (now : Now) : List Output :=
  p.sendEncrypted (message "ping" [(literal "request_id", .text (hexText now.millis.toNat))])

def sendDeviceStatus (p : PipaSecureProtocol) (now : Now) : List Output :=
  p.sendEncrypted (message "device_status"
    ([(literal "audio_state", .text (literal (pipaAudioStateName p.audioState)))] ++
      (if p.batteryPercent ≥ 0 then [(literal "battery_percent", .integer p.batteryPercent)] else []) ++
      (match now.rssi with
        | some rssi => [(literal "wifi_rssi", .integer rssi)]
        | none => [])))

def sendDeviceHello (config : Config) (p : PipaSecureProtocol) : List Output :=
  p.sendEncrypted (message "device_hello"
    [(literal "firmware_version", .text config.firmwareVersion),
     (literal "capabilities", .array (([literal "usb_serial"] ++ (if p.touchReady then [literal "touch"] else []) ++
       (if p.displayReady then [literal "display"] else []) ++
       (if p.audioProbeReady then [literal "audio_probe"] else []) ++
       [literal "wol", literal "text_input", literal "device_status"]).map Json.text))])

/-- `resetHandshake`. -/
def resetHandshake (p : PipaSecureProtocol) : PipaSecureProtocol := { p with authenticated := false, ui := {} }

/-- The end of `handleServerHello`, once the hello was accepted. -/
def acceptedHello (config : Config) (p : PipaSecureProtocol) (now : Now) : PipaSecureProtocol × List Output :=
  let p' :=
    { p with
      authenticated := true
      lastServerMessage := now.millis
      lastHeartbeat := now.millis
      lastStatus := now.millis }
  (p', p'.sendDeviceHello config ++ p'.sendDeviceStatus now ++ [.log "secure session ready"])

/-! ## Receiving -/

/-- The error branch of `handleMessage`. -/
def handleError (p : PipaSecureProtocol) (now : Now) (document : JsonObject) : PipaSecureProtocol × List Output :=
  if isAuthenticationError (document.textOr "code" "unknown") then
    ({ p.resetHandshake with lastHandshake := now.millis },
      [.log "secure authentication error; handshake restarted"])
  else
    ({ p with ui := { p.ui.clearConfirmation with state := .idle, caption := UiSnapshot.failedCaption } }, [])

/-- `handleMessage`. -/
def handleMessage (p : PipaSecureProtocol) (now : Now) (document : JsonObject) : PipaSecureProtocol × List Output :=
  let type := document.textOr "type" ""
  if document.intOr0 "protocol_version" ≠ 1 then (p, [])
  else if type = literal "ready" then
    match document.object? "ui_state" with
    | some nestedUi => ({ p with ui := p.ui.updateUi nestedUi }, [])
    | none => (p, [])
  else if type = literal "ui_state" then ({ p with ui := p.ui.updateUi document }, [])
  else if type = literal "confirm_request" then
    if !p.ui.confirmationId.isEmpty then (p, [])
    else match UiSnapshot.confirmation? document with
      | none => (p, [])
      | some confirmation => ({ p with ui := p.ui.showConfirmation confirmation }, [])
  else if type = literal "tool_result" then ({ p with ui := p.ui.clearConfirmation }, [])
  else if type = literal "error" then handleError p now document
  else (p, [])

/-- The message of a frame that opens. Without a session the line is taken for a ServerHello. -/
def receive (p : PipaSecureProtocol) (now : Now) (document : JsonObject) : PipaSecureProtocol × List Output :=
  if p.authenticated then { p with lastServerMessage := now.millis }.handleMessage now document
  else (p, [.log "secure ServerHello rejected"])

/-! ## Timers and the user interface -/

/-- The handshake timer of `poll`. -/
def retry (p : PipaSecureProtocol) (now : Now) : PipaSecureProtocol :=
  if !p.authenticated && due now p.lastHandshake kHandshakeRetryMs then { p with lastHandshake := now.millis } else p

/-- The heartbeat timer. -/
def heartbeat (p : PipaSecureProtocol) (now : Now) : PipaSecureProtocol × List Output :=
  if p.authenticated && due now p.lastHeartbeat kHeartbeatMs then
    ({ p with lastHeartbeat := now.millis }, p.sendHeartbeat now)
  else (p, [])

/-- The status timer. -/
def statusReport (p : PipaSecureProtocol) (now : Now) : PipaSecureProtocol × List Output :=
  if p.authenticated && due now p.lastStatus kStatusMs then
    ({ p with lastStatus := now.millis }, p.sendDeviceStatus now)
  else (p, [])

/-- `poll` after `readTransport`. -/
def timers (p : PipaSecureProtocol) (now : Now) : PipaSecureProtocol × List Output :=
  if p.authenticated && due now p.lastServerMessage kServerTimeoutMs then
    ({ p.resetHandshake with lastHandshake := now.millis },
      [.log "secure server heartbeat timed out; restarting handshake"])
  else
    let first := (p.retry now).heartbeat now
    let second := first.1.statusReport now
    (second.1, first.2 ++ second.2)

/-- `sendGesture`; `none` is a null pointer. -/
def sendGesture (p : PipaSecureProtocol) (gesture : Option Bytes) : List Output :=
  match gesture with
  | none => []
  | some gesture =>
    if !p.authenticated || !isSafeGesture gesture then []
    else p.sendEncrypted (message "gesture" [(literal "gesture", .text gesture)])

/-- `sendTextInput`. -/
def sendTextInput (p : PipaSecureProtocol) (text source : Option Bytes) : List Output :=
  match text with
  | none => []
  | some text =>
    if !p.authenticated || !isSafeDisplayText text kMaxTextInput || !isSafeTextSource (safeSource source) then []
    else p.sendEncrypted (message "text_input"
      [(literal "text", .text text), (literal "source", .text (safeSource source))])

/-- `sendConfirmation`. -/
def sendConfirmation (p : PipaSecureProtocol) (accepted : Bool) : List Output :=
  if !p.authenticated || p.ui.confirmationId.isEmpty || p.ui.confirmationSummary.isEmpty then []
  else p.sendEncrypted (message "confirm"
    [(literal "confirmation_id", .text p.ui.confirmationId), (literal "accepted", .boolean accepted)])

def setHardwareCapabilities (p : PipaSecureProtocol) (displayReady touchReady audioProbeReady : Bool) :
    PipaSecureProtocol :=
  { p with displayReady := displayReady, touchReady := touchReady, audioProbeReady := audioProbeReady }

def setAudioState (p : PipaSecureProtocol) (state : AudioState) : PipaSecureProtocol := { p with audioState := state }

def setBatteryPercent (p : PipaSecureProtocol) (batteryPercent : Int) : PipaSecureProtocol :=
  { p with batteryPercent := if 0 ≤ batteryPercent ∧ batteryPercent ≤ 100 then batteryPercent else -1 }

/-- The steps the device makes by itself: those of the v1 device. -/
def ownStep (p : PipaSecureProtocol) : PipaProtocol.Step → PipaSecureProtocol × List Output
  | .read _ _ => (p, [])
  | .timers now => p.timers now
  | .sendGesture gesture => (p, p.sendGesture gesture)
  | .sendTextInput text source => (p, p.sendTextInput text source)
  | .sendConfirmation accepted => (p, p.sendConfirmation accepted)
  | .setHardwareCapabilities displayReady touchReady audioProbeReady =>
    (p.setHardwareCapabilities displayReady touchReady audioProbeReady, [])
  | .setAudioState state => (p.setAudioState state, [])
  | .setBatteryPercent batteryPercent => (p.setBatteryPercent batteryPercent, [])

end PipaSecureProtocol

end Pipa.Firmware
