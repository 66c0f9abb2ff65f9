import Pipa.Core.Protocol

/- `parse_client_message` (`protocol.py`): from a JSON object to a
   `ClientMessage`. `none` is a `ProtocolError`; every caller answers it with the
   same error code, so its text is left out, and with it the interpreter's
   recursion limit, which only gives another `ProtocolError`. -/
namespace Pipa.Core
open Pipa.Lib

def maxTextLength : Nat := 4000
def maxToolNameLength : Nat := 80
def maxArgumentsBytes : Nat := 4096
def maxCapabilities : Nat := 16

/-- `_MESSAGE_FIELDS`. -/
def messageFields : List (PyStr × List PyStr) :=
  [("challenge_request", ["device_id"]),
   ("hello", ["device_id", "challenge_id", "signature", "firmware_version", "capabilities"]),
   ("device_hello", ["firmware_version", "capabilities"]),
   ("catalog_request", []),
   ("text_input", ["text", "source"]),
   ("wake", []),
   ("hold_start", []),
   ("hold_end", []),
   ("audio_end", []),
   ("abort", []),
   ("ping", ["request_id"]),
   ("device_status", ["audio_state", "battery_percent", "wifi_rssi"]),
   ("gesture", ["gesture"]),
   ("tool_call", ["name", "arguments", "call_id", "request_digest"]),
   ("confirm", ["confirmation_id", "accepted"])].map
    (fun e => (PyStr.ofString e.1, e.2.map PyStr.ofString))

/-- `_COMMON_FIELDS`. -/
def commonFields : List PyStr := [PyStr.ofString "protocol_version", PyStr.ofString "type"]

namespace Parse

/-- `payload.get(name)`. -/
def get (payload : Object) (name : String) : Value := (payload.get? (PyStr.ofString name)).getD .null

/-- The test `_string` and `_capabilities` make of a value: its text without outer blanks. -/
def clean (maximum : Nat) : Value → Option PyStr
  | .str s =>
    if s.strip.isEmpty || s.length > maximum || s.any (fun c => c.val < 0x20 || c.val == 0x7F) then none
    else some s.strip
  | _ => none

/-- `_string`. -/
def string (payload : Object) (name : String) (maximum : Nat) : Option PyStr := clean maximum (get payload name)

/-- `_optional_string`. -/
def optionalString (payload : Object) (name : String) (maximum : Nat) : Option (Option PyStr) :=
  match get payload name with
  | .null => some none
  | _ => (string payload name maximum).map some

/-- `_optional_request_digest`. -/
def optionalRequestDigest (payload : Object) : Option (Option PyStr) :=
  match get payload "request_digest" with
  | .null => some none
  | .str s => if s.length = 64 ∧ s.all (PyStr.ofString "0123456789abcdef").contains then some (some s) else none
  | _ => none

/-- `_capabilities`. -/
def capabilities (payload : Object) : Option (List PyStr) :=
  match (payload.get? (PyStr.ofString "capabilities")).getD (.list []) with
  | .list items =>
    if items.length > maxCapabilities then none
    else do
      let parsed ← items.mapM (clean 32)
      if parsed.Nodup then some parsed else none
  | _ => none

/-- The text source, `unknown` where the field is missing. -/
def textSource (payload : Object) : Option TextSource :=
  match (payload.get? (PyStr.ofString "source")).getD (.str (PyStr.ofString "unknown")) with
  | .str s =>
    if s = PyStr.ofString "voice" then some .voice
    else if s = PyStr.ofString "touch" then some .touch
    else if s = PyStr.ofString "mobile" then some .mobile
    else if s = PyStr.ofString "debug" then some .debug
    else if s = PyStr.ofString "unknown" then some .unknown
    else none
  | _ => none

def audioState : Value → Option (Option AudioState)
  | .null => some none
  | .str s =>
    if s = PyStr.ofString "disabled" then some (some .disabled)
    else if s = PyStr.ofString "probe_only" then some (some .probeOnly)
    else if s = PyStr.ofString "codec_ready" then some (some .codecReady)
    else if s = PyStr.ofString "listening" then some (some .listening)
    else if s = PyStr.ofString "draining" then some (some .draining)
    else if s = PyStr.ofString "error" then some (some .error)
    else none
  | _ => none

/-- An optional integer between two bounds. -/
def boundedInt (low high : Int) : Value → Option (Option Int)
  | .null => some none
  | .int n => if low ≤ n ∧ n ≤ high then some (some n) else none
  | _ => none

def gesture (s : PyStr) : Option Gesture :=
  if s = PyStr.ofString "tap" then some .tap
  else if s = PyStr.ofString "double_tap" then some .doubleTap
  else if s = PyStr.ofString "swipe_left" then some .swipeLeft
  else if s = PyStr.ofString "swipe_right" then some .swipeRight
  else none

/-- The `arguments` of a tool call, an empty object where the field is missing. -/
def arguments (payload : Object) : Option Object :=
  match (payload.get? (PyStr.ofString "arguments")).getD (.dict []) with
  | .dict arguments =>
    match (dumps false (.dict arguments)).bind PyStr.encode with
    | none => none
    | some encoded => if encoded.length > maxArgumentsBytes then none else some arguments
  | _ => none

def accepted : Value → Option Bool
  | .bool b => some b
  | _ => none

/-- The part of `parse_client_message` that reads the fields of a known type. -/
def body (type : PyStr) (payload : Object) : Option ClientMessage :=
  if type = PyStr.ofString "challenge_request" then do
    let deviceId ← string payload "device_id" 64
    some (.challengeRequest deviceId)
  else if type = PyStr.ofString "hello" then do
    let deviceId ← string payload "device_id" 64
    let challengeId ← string payload "challenge_id" 128
    let signature ← string payload "signature" 256
    let firmwareVersion ← optionalString payload "firmware_version" 32
    let capabilities ← capabilities payload
    some (.hello deviceId challengeId signature firmwareVersion capabilities)
  else if type = PyStr.ofString "device_hello" then do
    let firmwareVersion ← optionalString payload "firmware_version" 32
    let capabilities ← capabilities payload
    some (.deviceHello firmwareVersion capabilities)
  else if type = PyStr.ofString "text_input" then do
    let text ← string payload "text" maxTextLength
    let source ← textSource payload
    some (.textInput text source)
  else if type = PyStr.ofString "catalog_request" then some .catalogRequest
  else if type = PyStr.ofString "wake" then some .wake
  else if type = PyStr.ofString "hold_start" then some .holdStart
  else if type = PyStr.ofString "hold_end" then some .holdEnd
  else if type = PyStr.ofString "audio_end" then some .audioEnd
  else if type = PyStr.ofString "abort" then some .abort
  else if type = PyStr.ofString "ping" then do
    let requestId ← optionalString payload "request_id" 64
    some (.ping requestId)
  else if type = PyStr.ofString "device_status" then do
    let audioState ← audioState (get payload "audio_state")
    let batteryPercent ← boundedInt 0 100 (get payload "battery_percent")
    let wifiRssi ← boundedInt (-127) 0 (get payload "wifi_rssi")
    some (.deviceStatus audioState batteryPercent wifiRssi)
  else if type = PyStr.ofString "gesture" then do
    let name ← string payload "gesture" 32
    let gesture ← gesture name
    some (.gesture gesture)
  else if type = PyStr.ofString "tool_call" then do
    let name ← string payload "name" maxToolNameLength
    let arguments ← arguments payload
    let callId ← optionalString payload "call_id" 128
    let requestDigest ← optionalRequestDigest payload
    some (.toolCall name arguments callId requestDigest)
  else if type = PyStr.ofString "confirm" then do
    let confirmationId ← string payload "confirmation_id" 128
    let accepted ← accepted (get payload "accepted")
    some (.confirm confirmationId accepted)
  else none

end Parse

/-- `parse_client_message`. -/
def parseClientMessage (payload : Object) : Option ClientMessage :=
  match Parse.get payload "type" with
  | .str type =>
    match (messageFields.find? (fun e => e.1 = type)).map Prod.snd with
    | none => none
    | some allowedFields =>
      if !payload.keys.all (fun k => commonFields.contains k || allowedFields.contains k) then none
      else if !(Parse.get payload "protocol_version").equalsInt 1 then none
      else Parse.body type payload
  | _ => none

end Pipa.Core
