import Mathlib.Algebra.Order.Ring.Rat
import Pipa.Link.Wire
import Pipa.Serial.Gateway
import Pipa.Unlock.Challenges

/- `AuthenticatedConnection` (`connection.py`) on the Core and the verifier it shares
   with other connections.

   A call takes the readings of the clocks and what is drawn at random as an
   argument (`Call`): the monotonic clock of the connection is in seconds, the
   wall clock of the Core and of the verifier in whole seconds. -/
namespace Pipa.Link
open Pipa.Lib Pipa.Core Pipa.Secure Pipa.Unlock
open Pipa.Serial (ConnectionResult Failure)

/-! ## What a call works on -/

/-- The Core's state and the verifier. -/
structure Agent where
  state : State
  verifier : AuthorizationVerifier

structure Call (ω : Type) where
  world : ω
  clock : Clock
  unlockClock : Int -- `int(time.time())` in the verifier
  activity : ℚ -- `self.clock()` in `process`
  challenge : ℚ -- `self.clock()` in `_challenge`
  sessionId : Fixed 16
  confirmationId : Fixed 12
  challengeId : Fixed 16
  nonce : Fixed 32

structure AuthenticatedConnection where
  sessionId : Option PyStr := none
  authFailures : Nat := 0
  lastChallengeAt : Option ℚ := none
  connectedAt : ℚ
  lastActivityAt : ℚ

namespace AuthenticatedConnection

def maxAuthFailures : Nat := 3
def minChallengeIntervalSeconds : ℚ := 1
def authenticationTimeoutSeconds : ℚ := 20
def sessionIdleSeconds : ℚ := 10 * 60

/-- The `operation` of a challenge for a session. -/
def sessionOperation : PyStr := PyStr.ofString "session"

/-- The constructor. -/
def new (now : ℚ) : AuthenticatedConnection := { connectedAt := now, lastActivityAt := now }

/-- `idle`. -/
def idle (c : AuthenticatedConnection) (now : ℚ) : Bool :=
  match c.sessionId with
  | none => now - c.connectedAt ≥ authenticationTimeoutSeconds
  | some _ => now - c.lastActivityAt ≥ sessionIdleSeconds

/-- `close`. -/
def close (c : AuthenticatedConnection) (a : Agent) : AuthenticatedConnection × Agent :=
  match c.sessionId with
  | none => (c, a)
  | some sessionId => ({ c with sessionId := none }, { a with state := (PipaCore.close a.state sessionId).state })

/-- One error and nothing else. -/
def refusal (code : ErrorCode) (close : Bool) : ConnectionResult := ⟨[payload (.error code none)], close⟩

/-- `_authentication_failure`. -/
def authenticationFailure (c : AuthenticatedConnection) : AuthenticatedConnection × ConnectionResult :=
  ({ c with authFailures := c.authFailures + 1 },
    refusal .authenticationFailed (decide (c.authFailures + 1 ≥ maxAuthFailures)))

/-- The time since the last challenge is too short. -/
def rateLimited (c : AuthenticatedConnection) (now : ℚ) : Bool :=
  c.lastChallengeAt.any (fun last => now - last < minChallengeIntervalSeconds)

def challengeMessage (challenge : Challenge) : Object :=
  serverMessage "challenge" [(PyStr.ofString "challenge", .dict challenge.asDict)]

def readyMessage (sessionId : PyStr) (ui : ServerMessage) : Object :=
  serverMessage "ready"
    [(PyStr.ofString "session_id", .str sessionId), (PyStr.ofString "ui_state", .dict (payload ui))]

/-- `core.create_challenge`. -/
def createChallenge (a : Agent) (now : Int) (challengeId : Fixed 16) (nonce : Fixed 32) (deviceId : PyStr) :
    AuthorizationVerifier × Except VerifierError Challenge :=
  a.verifier.createChallenge deviceId now defaultTtlSeconds sessionOperation challengeId nonce

section
variable {ω : Type}

/-- `_challenge`. A `KeyError` is caught by nobody here. -/
def challenge (call : Call ω) (c : AuthenticatedConnection) (a : Agent) (deviceId : PyStr) :
    (AuthenticatedConnection × Agent) × Except Failure ConnectionResult :=
  if c.sessionId.isSome then ((c, a), .ok (refusal .alreadyAuthenticated false))
  else if c.rateLimited call.challenge then ((c, a), .ok (refusal .rateLimited false))
  else
    let c := { c with lastChallengeAt := some call.challenge }
    let r := createChallenge a call.unlockClock call.challengeId call.nonce deviceId
    let a := { a with verifier := r.1 }
    match r.2 with
    | .ok challenge => ((c, a), .ok ⟨[challengeMessage challenge], false⟩)
    | .error .keyError => ((c, a), .error .other)
    | .error _ => ((c.authenticationFailure.1, a), .ok c.authenticationFailure.2)

/-- `SignedChallenge(...)`; `none` is its `ValueError`. -/
def signedChallenge (challengeId deviceId signature : PyStr) : Option SignedChallenge :=
  match decodeBase64url signature with
  | none => none
  | some bytes =>
    if h : (isUnlockIdentifier challengeId = true ∧ isUnlockIdentifier deviceId = true) ∧ bytes.length = 64 then
      some ⟨challengeId, deviceId, ⟨bytes, h.2⟩, h.1⟩
    else none

/-- The verifier's part of `core.authenticate`. -/
def verifyResponse (verify : Fixed 32 → Fixed 64 → Bytes → Bool) (a : Agent) (now : Int)
    (challengeId deviceId signature : PyStr) : AuthorizationVerifier × Except VerifierError VerifiedAuthorization :=
  match signedChallenge challengeId deviceId signature with
  | none => (a.verifier, .error .valueError)
  | some response => a.verifier.verifyResponse verify response now

/-- `_authenticate`. -/
def authenticate (verify : Fixed 32 → Fixed 64 → Bytes → Bool) (call : Call ω) (c : AuthenticatedConnection)
    (a : Agent) (m : ClientMessage) : (AuthenticatedConnection × Agent) × Except Failure ConnectionResult :=
  match m with
  | .hello deviceId challengeId signature firmwareVersion capabilities =>
    let r := verifyResponse verify a call.unlockClock challengeId deviceId signature
    let verified := match r.2 with
      | .ok authorization => Except.ok authorization.deviceId
      | .error .keyError => .error Exn.keyError
      | .error _ => .error Exn.valueError
    let sessionId := encode call.sessionId.val
    let o := PipaCore.authenticate a.state verified sessionId firmwareVersion capabilities call.clock
    let a := { state := o.state, verifier := r.1 }
    match verified, o.result with
    | .error .keyError, _ => ((c, a), .error .other)
    | .error _, _ => ((c.authenticationFailure.1, a), .ok c.authenticationFailure.2)
    | .ok _, .error _ => ((c, a), .ok (refusal .sessionLimit true))
    | .ok _, .ok _ =>
      (({ c with sessionId := some sessionId, authFailures := 0 }, a),
        .ok ⟨[readyMessage sessionId (.uiState .idle none none)], false⟩)
  | _ => ((c, a), .ok (refusal .authenticationRequired false))

/-- `process` of a message for the Core. -/
def handle (core : PipaCore ω) (call : Call ω) (a : Agent) (sessionId : PyStr) (m : ClientMessage) :
    Agent × Except Failure ConnectionResult :=
  let o := core.handle a.state call.world call.clock (encode call.confirmationId.val) sessionId m
  ({ a with state := o.state },
    match o.result with
    | .ok messages => .ok ⟨messages.map payload, false⟩
    | .error _ => .error .other)

/-- `process`. -/
def process (core : PipaCore ω) (verify : Fixed 32 → Fixed 64 → Bytes → Bool) (call : Call ω)
    (s : AuthenticatedConnection × Agent) (m : ClientMessage) :
    (AuthenticatedConnection × Agent) × Except Failure ConnectionResult :=
  let c := { s.1 with lastActivityAt := call.activity }
  match m with
  | .challengeRequest deviceId => c.challenge call s.2 deviceId
  | m =>
    match s.1.sessionId with
    | none => c.authenticate verify call s.2 m
    | some sessionId =>
      match m with
      | .hello .. => ((c, s.2), .ok (refusal .alreadyAuthenticated false))
      | m =>
        let r := handle core call s.2 sessionId m
        ((c, r.1), r.2)

end

end AuthenticatedConnection

end Pipa.Link
