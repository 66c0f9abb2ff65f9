import Pipa.Core.ClientMessages
import Pipa.Core.PipaCore
import Pipa.Firmware.Json

/- The documents that device and agent exchange, on both sides of the line.

   A line holds one JSON document. What ArduinoJson writes, `json.loads` reads as
   a Python value (`Json.toValue`), and what `json.dumps` writes, ArduinoJson reads
   as a document (`Json.ofValue`). How lines are cut out of the stream is in
   `Serial.Gateway` and `PipaProtocol.read`. -/
namespace Pipa.Link
open Pipa.Lib Pipa.Core
open Pipa.Firmware (Json JsonObject decodeFirst)

/-! ## From the device -/

/-- `bytes.decode("utf-8")`, with as many turns as there are bytes. -/
def decodeLoop : Nat → Bytes → Option PyStr
  | _, [] => some []
  | 0, _ :: _ => none
  | turns + 1, bytes =>
    match decodeFirst bytes with
    | none => none
    | some (codePoint, rest) =>
      if h : codePoint < 0x110000 then (decodeLoop turns rest).map (⟨codePoint, h⟩ :: ·) else none

def decodeUtf8 (bytes : Bytes) : Option PyStr := decodeLoop bytes.length bytes

mutual

/-- What `json.loads` reads; `none` where the line is no UTF-8. -/
def toValue : Json → Option Value
  | .null => some .null
  | .boolean b => some (.bool b)
  | .integer n => some (.int n)
  | .number text => (decodeUtf8 text).map Value.float
  | .text bytes => (decodeUtf8 bytes).map Value.str
  | .array items => (toValues items).map Value.list
  | .object fields => (toItems fields).map Value.dict

def toValues : List Json → Option (List Value)
  | [] => some []
  | item :: items =>
    match toValue item, toValues items with
    | some v, some vs => some (v :: vs)
    | _, _ => none

def toItems : List (Bytes × Json) → Option (List (PyStr × Value))
  | [] => some []
  | (key, item) :: fields =>
    match decodeUtf8 key, toValue item, toItems fields with
    | some k, some v, some vs => some ((k, v) :: vs)
    | _, _, _ => none

end

/-- `parse_client_message(parse_json_object(raw))`; `none` is a `ProtocolError`. No document of the
device has a member twice. -/
def parse (document : JsonObject) : Option ClientMessage := (toItems document).bind parseClientMessage

/-! ## From the agent -/

mutual

/-- What `deserializeJson` reads. -/
def ofValue : Value → Json
  | .null => .null
  | .bool b => .boolean b
  | .int n => .integer n
  | .float repr => .number repr.bytes
  | .str s => .text s.bytes
  | .list items => .array (ofValues items)
  | .dict items => .object (ofItems items)

def ofValues : List Value → List Json
  | [] => []
  | v :: vs => ofValue v :: ofValues vs

def ofItems : List (PyStr × Value) → List (Bytes × Json)
  | [] => []
  | (k, v) :: vs => (k.bytes, ofValue v) :: ofItems vs

end

/-- The `code` of an error. -/
def codeName : ErrorCode → String
  | .unknownSession => "unknown_session"
  | .deviceHelloNotExpected => "device_hello_not_expected"
  | .deviceHelloRequired => "device_hello_required"
  | .confirmationRequired => "confirmation_required"
  | .voiceUnavailable => "voice_unavailable"
  | .requestBindingFailed => "request_binding_failed"
  | .confirmationFailed => "confirmation_failed"
  | .toolFailed => "tool_failed"
  | .unsupportedMessage => "unsupported_message"
  | .invalidTranscript => "invalid_transcript"
  | .unsupportedTextIntent => "unsupported_text_intent"
  | .catalogUnavailable => "catalog_unavailable"
  | .memoryFailed => "memory_failed"
  | .confirmationUnavailable => "confirmation_unavailable"
  | .protocolError => "protocol_error"
  | .alreadyAuthenticated => "already_authenticated"
  | .authenticationRequired => "authentication_required"
  | .authenticationFailed => "authentication_failed"
  | .rateLimited => "rate_limited"
  | .sessionLimit => "session_limit"

def stateName : UiState → String
  | .idle => "idle"
  | .listening => "listening"
  | .thinking => "thinking"
  | .confirm => "confirm"
  | .speaking => "speaking"
  | .focus => "focus"
  | .dashboard => "dashboard"

def gestureName : Gesture → String
  | .tap => "tap"
  | .doubleTap => "double_tap"
  | .swipeLeft => "swipe_left"
  | .swipeRight => "swipe_right"

def statusName : ToolStatus → String
  | .completed => "completed"
  | .rejected => "rejected"

/-- `server_message`. -/
def serverMessage (type : String) (fields : Object) : Object :=
  (PyStr.ofString "protocol_version", .int 1) :: (PyStr.ofString "type", .str (PyStr.ofString type)) :: fields

/-- A field that is always there, `None` included. -/
def textOrNull (text : Option PyStr) : Value := (text.map Value.str).getD .null

/-- A field that is there only with a value. -/
def optionalField (name : String) (text : Option PyStr) : Object :=
  (text.map (fun t => (PyStr.ofString name, Value.str t))).toList

/-- The envelope of a message of the Core. -/
def payload : ServerMessage → Object
  | .error code message =>
    serverMessage "error"
      ((PyStr.ofString "code", .str (PyStr.ofString (codeName code))) :: optionalField "message" message)
  | .catalog commands capabilities =>
    serverMessage "catalog"
      ((PyStr.ofString "commands", .list (commands.map Value.dict)) ::
        (capabilities.map (fun c => (PyStr.ofString "capabilities", Value.dict c))).toList)
  | .confirmRequest confirmationId toolName summary expiresAt callId requestDigest =>
    serverMessage "confirm_request"
      ([(PyStr.ofString "confirmation_id", .str confirmationId), (PyStr.ofString "tool_name", .str toolName),
        (PyStr.ofString "summary", .str summary), (PyStr.ofString "expires_at", .int expiresAt)] ++
        optionalField "call_id" callId ++ optionalField "request_digest" requestDigest)
  | .toolResult toolName status success callId =>
    serverMessage "tool_result"
      ([(PyStr.ofString "tool_name", .str toolName), (PyStr.ofString "status", .str (PyStr.ofString (statusName status))),
        (PyStr.ofString "success", .bool success)] ++ optionalField "call_id" callId)
  | .uiState state caption focusRemaining =>
    serverMessage "ui_state"
      [(PyStr.ofString "state", .str (PyStr.ofString (stateName state))), (PyStr.ofString "caption", textOrNull caption),
       (PyStr.ofString "focus_remaining", (focusRemaining.map Value.int).getD .null)]
  | .pong requestId => serverMessage "pong" [(PyStr.ofString "request_id", textOrNull requestId)]
  | .statusAck => serverMessage "status_ack" []
  | .deviceHelloAck => serverMessage "device_hello_ack" []
  | .gestureAck gesture =>
    serverMessage "gesture_ack" [(PyStr.ofString "gesture", .str (PyStr.ofString (gestureName gesture)))]
  | .ttsAborted => serverMessage "tts_aborted" []

end Pipa.Link
