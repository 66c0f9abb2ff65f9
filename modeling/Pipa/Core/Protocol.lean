import Pipa.Lib.Dict
import Pipa.Lib.Json

/- The wire messages of the device protocol v1 (`protocol.py`) and the session
   registry (`state.py`). A client message is what `parse_client_message` can
   produce; a server message carries the fields its `server_message` call sets.

   The clock is an argument everywhere: `int(time.time())` is read several times
   in one operation, and `Clock` names the readings. -/
namespace Pipa.Core
open Pipa.Lib

inductive TextSource where
  | voice | touch | mobile | debug | unknown
  deriving DecidableEq

inductive AudioState where
  | disabled | probeOnly | codecReady | listening | draining | error
  deriving DecidableEq

inductive Gesture where
  | tap | doubleTap | swipeLeft | swipeRight
  deriving DecidableEq

/-- `ClientMessage`, by its `type`, with the fields the parser fills in. -/
inductive ClientMessage where
  | challengeRequest (deviceId : PyStr)
  | hello (deviceId challengeId signature : PyStr) (firmwareVersion : Option PyStr)
      (capabilities : List PyStr)
  | deviceHello (firmwareVersion : Option PyStr) (capabilities : List PyStr)
  | catalogRequest
  | textInput (text : PyStr) (source : TextSource)
  | wake
  | holdStart
  | holdEnd
  | audioEnd
  | abort
  | ping (requestId : Option PyStr)
  | deviceStatus (audioState : Option AudioState) (batteryPercent wifiRssi : Option Int)
  | gesture (gesture : Gesture)
  | toolCall (name : PyStr) (arguments : Object) (callId requestDigest : Option PyStr)
  | confirm (confirmationId : PyStr) (accepted : Bool)

/-- The `type` field of a client message, echoed by the unsupported-message error. -/
def ClientMessage.type : ClientMessage → PyStr
  | .challengeRequest .. => PyStr.ofString "challenge_request"
  | .hello .. => PyStr.ofString "hello"
  | .deviceHello .. => PyStr.ofString "device_hello"
  | .catalogRequest => PyStr.ofString "catalog_request"
  | .textInput .. => PyStr.ofString "text_input"
  | .wake => PyStr.ofString "wake"
  | .holdStart => PyStr.ofString "hold_start"
  | .holdEnd => PyStr.ofString "hold_end"
  | .audioEnd => PyStr.ofString "audio_end"
  | .abort => PyStr.ofString "abort"
  | .ping .. => PyStr.ofString "ping"
  | .deviceStatus .. => PyStr.ofString "device_status"
  | .gesture .. => PyStr.ofString "gesture"
  | .toolCall .. => PyStr.ofString "tool_call"
  | .confirm .. => PyStr.ofString "confirm"

inductive UiState where
  | idle | listening | thinking | confirm | speaking | focus | dashboard
  deriving DecidableEq

inductive ErrorCode where
  | unknownSession | deviceHelloNotExpected | deviceHelloRequired | confirmationRequired
  | voiceUnavailable | requestBindingFailed | confirmationFailed | toolFailed
  | unsupportedMessage | invalidTranscript | unsupportedTextIntent | catalogUnavailable
  | memoryFailed | confirmationUnavailable | protocolError | alreadyAuthenticated
  | authenticationRequired | authenticationFailed | rateLimited | sessionLimit
  deriving DecidableEq

/-- The `status` of a tool result. -/
inductive ToolStatus where
  | completed | rejected
  deriving DecidableEq

inductive ServerMessage where
  | error (code : ErrorCode) (message : Option PyStr)
  | catalog (commands : List Object) (capabilities : Option Object)
  | confirmRequest (confirmationId toolName summary : PyStr) (expiresAt : Int)
      (callId requestDigest : Option PyStr)
  | toolResult (toolName : PyStr) (status : ToolStatus) (success : Bool) (callId : Option PyStr)
  | uiState (state : UiState) (caption : Option PyStr) (focusRemaining : Option Int)
  | pong (requestId : Option PyStr)
  | statusAck
  | deviceHelloAck
  | gestureAck (gesture : Gesture)
  | ttsAborted

/-- The exceptions the Core tells apart. `ConfirmationError` is a `ValueError`;
`other` is every further subclass of `Exception`. -/
inductive Exn where
  | confirmationError (text : PyStr)
  | valueError
  | keyError
  | osError
  | other

/-- Caught by `except (KeyError, ValueError, ConfirmationError)`. -/
def Exn.isRefusal : Exn → Bool
  | .confirmationError _ | .valueError | .keyError => true
  | _ => false

/-! ## Bounded text (`text_policy.py`) -/

/-- The code points no bounded text may hold. -/
def forbidden (c : CodePoint) : Bool :=
  c.val < 0x20 || (0x7F ≤ c.val && c.val ≤ 0x9F) || (0x200B ≤ c.val && c.val ≤ 0x200F) ||
  (0x202A ≤ c.val && c.val ≤ 0x202E) || (0x2060 ≤ c.val && c.val ≤ 0x2069) || c.val == 0xFEFF ||
  (0xE000 ≤ c.val && c.val ≤ 0xF8FF)

/-- `validate_bounded_text` without line feeds. A text that has no UTF-8 form
raises `UnicodeEncodeError`, which is a `ValueError` too. -/
def validateBoundedText (value : PyStr) (maximumBytes : Nat) : Except Exn PyStr :=
  if value.isBlank then .error .valueError
  else match value.encode with
    | none => .error .valueError
    | some encoded =>
      if maximumBytes = 0 ∨ encoded.length > maximumBytes then .error .valueError
      else if value.any forbidden then .error .valueError
      else .ok value

/-- What `validate_bounded_text` lets through. -/
structure BoundedText (value : PyStr) (maximumBytes : Nat) : Prop where
  shown : value.isBlank = false
  encodes : ∀ c ∈ value, c.isSurrogate = false
  positive : 0 < maximumBytes
  size : value.bytes.length ≤ maximumBytes
  allowed : ∀ c ∈ value, forbidden c = false

/-- It returns the text as it is. -/
theorem validateBoundedText_ok {value bounded : PyStr} {n : Nat} :
    validateBoundedText value n = .ok bounded ↔ bounded = value ∧ BoundedText value n := by
  constructor
  · intro h
    unfold validateBoundedText at h
    split at h
    · cases h
    rename_i hshown
    split at h
    · cases h
    rename_i encoded hencode
    obtain ⟨hencodes, rfl⟩ := PyStr.encode_eq_some.mp hencode
    split at h
    · cases h
    rename_i hsize
    split at h
    · cases h
    rename_i hallowed
    obtain rfl := Except.ok.inj h
    exact ⟨rfl, by simpa using hshown, hencodes, by omega, by omega, by simpa using hallowed⟩
  · rintro ⟨rfl, h⟩
    have hsize : ¬ (n = 0 ∨ bounded.bytes.length > n) := by
      have := h.positive
      have := h.size
      omega
    have hallowed : bounded.any forbidden = false := by simpa using h.allowed
    rw [validateBoundedText, h.shown, PyStr.encode_eq_some.mpr ⟨h.encodes, rfl⟩, hallowed]
    simp only [Bool.false_eq_true, if_false, if_neg hsize]

/-! ## Sessions (`state.py`) -/

def maxSessions : Nat := 32
def maxSessionsPerDevice : Nat := 2
def maxSessionIdleSeconds : Int := 15 * 60

/-- The readings of `int(time.time())` in one operation: by the pruning of the
registry, by `touch`, and by the confirmation store or the new session. -/
structure Clock where
  prune : Int
  touch : Int
  act : Int

structure DeviceSession where
  sessionId : PyStr
  deviceId : PyStr
  connectedAt : Int
  state : UiState := .idle
  caption : Option PyStr := none
  focusRemaining : Option Int := none
  firmwareVersion : Option PyStr := none
  capabilities : List PyStr := []
  capabilitiesInitialized : Bool := true
  lastSeenAt : Option Int := none
  audioState : Option AudioState := none
  batteryPercent : Option Int := none
  wifiRssi : Option Int := none

namespace DeviceSession

def touch (s : DeviceSession) (now : Int) : DeviceSession := { s with lastSeenAt := some now }

def setState (s : DeviceSession) (state : UiState) (caption : Option PyStr) : DeviceSession :=
  { s with state := state, caption := caption }

def uiMessage (s : DeviceSession) : ServerMessage := .uiState s.state s.caption s.focusRemaining

/-- Idle for `maxSessionIdleSeconds` at `now`. -/
def stale (s : DeviceSession) (now : Int) : Bool :=
  match s.lastSeenAt with
  | none => false
  | some seen => now - seen ≥ maxSessionIdleSeconds

end DeviceSession

abbrev SessionRegistry := Dict PyStr DeviceSession

namespace SessionRegistry

/-- `_prune`: the registry without the stale sessions, and their ids. -/
def prune (r : SessionRegistry) (now : Int) : SessionRegistry × List PyStr :=
  (r.filter (fun _ s => !s.stale now),
    (r.entries.filter (fun e => e.2.stale now)).map Prod.fst)

/-- `SessionRegistry.create`; `none` is `SessionLimitError`. The stale sessions are
dropped before either limit is looked at, and stay dropped when a limit is hit. -/
def create (r : SessionRegistry) (token deviceId : PyStr) (firmwareVersion : Option PyStr)
    (capabilities : List PyStr) (capabilitiesInitialized : Bool) (now : Int) :
    SessionRegistry × Option DeviceSession :=
  let session : DeviceSession :=
    { sessionId := token, deviceId := deviceId, connectedAt := now,
      firmwareVersion := firmwareVersion, capabilities := capabilities,
      capabilitiesInitialized := capabilitiesInitialized, lastSeenAt := some now }
  let r := (r.prune now).1
  if r.size ≥ maxSessions then (r, none)
  else if (r.values.filter (fun s => s.deviceId = deviceId)).length ≥ maxSessionsPerDevice then
    (r, none)
  else (r.set session.sessionId session, some session)

end SessionRegistry

end Pipa.Core
