import Pipa.Unlock.Challenges
import Pipa.Unlock.Ticket

/- `TrustedUnlockBroker` (`trusted_unlock_broker.py`): requests are bytes, answered
   from the verifier and the ticket issuer.

   `json.loads` is a parameter, and nothing is assumed of it. `enabled` is the
   constant `UNLOCK_ENABLED`, false in the source; a broker that has it set is what
   the guard protects. A command is read completely before the guard and before
   anything is changed, so `_dispatch` is `parseCommand` followed by `perform`. -/
namespace Pipa.Unlock
open Pipa.Lib Pipa.Secure

/-! ## Requests -/

def maxMessageBytes : Nat := 16 * 1024
def brokerVersion : PyStr := PyStr.ofString "0.1.0"
def brokerProtocolVersion : Int := 1

/-- `UNLOCK_ENABLED`. -/
def unlockEnabled : Bool := false

/-- `_REQUEST_ID_PATTERN`: `^[A-Za-z0-9_.:-]{1,64}$`. -/
def isRequestId (s : PyStr) : Bool :=
  1 ≤ s.length && s.length ≤ 64 && s.all (fun c => idCode c.val || c.val == 46 || c.val == 58)

/-- `DEVICE_ID_PATTERN`: `^[A-Za-z0-9][A-Za-z0-9._-]{0,63}$`. -/
def isDeviceId : PyStr → Bool
  | [] => false
  | c :: s => (idCode c.val && c.val ≠ 45 && c.val ≠ 95) && s.length ≤ 63 &&
      s.all (fun c => idCode c.val || c.val == 46)

/-- The exceptions `handle_request` turns into a response. -/
inductive BrokerError where
  | request
  | disabled
  | verifier (e : VerifierError)
  | ticket (e : TicketError)
  | other

/-- `_error_code`. -/
def BrokerError.code : BrokerError → String
  | .request => "invalid_request"
  | .disabled => "unlock_disabled"
  | .verifier .unknownDevice => "unknown_device"
  | .verifier .unknownChallenge => "unknown_challenge"
  | .verifier .mismatch => "challenge_mismatch"
  | .verifier .expired => "expired_challenge"
  | .verifier .invalidResponse => "invalid_response"
  | .verifier .replay => "replay_detected"
  | .verifier .limit => "authorization_failed"
  | .verifier .valueError => "internal_error"
  | .verifier .keyError => "internal_error"
  | .ticket .unknown => "unknown_ticket"
  | .ticket .expired => "expired_ticket"
  | .ticket .replay => "ticket_replay"
  | .ticket .operation => "ticket_operation_mismatch"
  | .ticket .valueError => "internal_error"
  | .ticket .keyError => "internal_error"
  | .other => "internal_error"

/-- The message that goes with it. -/
def BrokerError.message : BrokerError → String
  | .disabled => "Trusted Unlock está desactivado."
  | .verifier .valueError => "Solicitud no válida."
  | .verifier .keyError => "Solicitud no válida."
  | .ticket .valueError => "Solicitud no válida."
  | .ticket .keyError => "Solicitud no válida."
  | .verifier _ => "Autorización rechazada."
  | .ticket _ => "Autorización rechazada."
  | _ => "Solicitud no válida."

/-- A command that has been read. -/
inductive Command where
  | health
  | create (deviceId : PyStr) (ttlSeconds : Int)
  | submit (response : SignedChallenge)
  | consume (token : PyStr)

/-- `_require_identifier`. -/
def requireIdentifier : Option Value → Except BrokerError PyStr
  | some (.str s) => if isRequestId s then .ok s else .error .request
  | _ => .error .request

/-- `set(fields) - allowed` is empty. -/
def onlyFields (fields : Object) (allowed : List String) : Bool :=
  fields.keys.all (fun k => allowed.any (fun a => PyStr.ofString a = k))

/-- `SignedChallenge(**fields)`; `none` is its `TypeError` or `ValueError`. -/
def SignedChallenge.ofFields (fields : Object) : Option SignedChallenge :=
  if !onlyFields fields ["challenge_id", "device_id", "signature"] then none
  else match fields.get? (PyStr.ofString "challenge_id"), fields.get? (PyStr.ofString "device_id"),
      fields.get? (PyStr.ofString "signature") with
    | some (.str challengeId), some (.str deviceId), some (.str signature) =>
      if h : isUnlockIdentifier challengeId = true ∧ isUnlockIdentifier deviceId = true then
        match decodeBase64url signature with
        | none => none
        | some bytes => if hb : bytes.length = 64 then some ⟨challengeId, deviceId, ⟨bytes, hb⟩, h⟩ else none
      else none
    | _, _, _ => none

/-- `_dispatch` up to the guard. -/
def parseCommand (command : PyStr) (payload : Object) : Except BrokerError Command :=
  let is (name : String) : Bool := command = PyStr.ofString name
  let get (k : String) : Option Value := payload.get? (PyStr.ofString k)
  if is "health" then
    if !onlyFields payload [] then .error .request else .ok .health
  else if is "challenge.create" then
    if !onlyFields payload ["device_id", "ttl_seconds"] then .error .request
    else match requireIdentifier (get "device_id") with
      | .error e => .error e
      | .ok deviceId =>
        if !isDeviceId deviceId then .error .other
        else match ((get "ttl_seconds").getD (.int defaultTtlSeconds)).asInt? with
          | none => .error .request
          | some ttlSeconds => .ok (.create deviceId ttlSeconds)
  else if is "challenge.submit" then
    if !onlyFields payload ["response"] then .error .request
    else match get "response" with
      | some (.dict fields) =>
        match SignedChallenge.ofFields fields with
        | none => .error .request
        | some response => .ok (.submit response)
      | _ => .error .request
  else if is "ticket.consume" then
    if !onlyFields payload ["token"] then .error .request
    else match get "token" with
      | some (.str token) => if token.isEmpty then .error .request else .ok (.consume token)
      | _ => .error .request
  else .error .request

/-- `handle_request` up to `_dispatch`: the request id to answer under, and the command. -/
def parseRequest (request : Value) : Option PyStr × Except BrokerError Command :=
  match request with
  | .dict fields =>
    let get (k : String) : Option Value := Object.get? fields (PyStr.ofString k)
    let requestId := (requireIdentifier (get "request_id")).toOption
    if !onlyFields fields ["version", "request_id", "command", "payload"] then (requestId, .error .request)
    else if requestId.isNone then (requestId, .error .request)
    else if !((get "version").getD .null).equalsInt brokerProtocolVersion then (requestId, .error .request)
    else match requireIdentifier (get "command") with
      | .error e => (requestId, .error e)
      | .ok command =>
        match (get "payload").getD (.dict []) with
        | .dict payload => (requestId, parseCommand command payload)
        | _ => (requestId, .error .request)
  | _ => (none, .error .request)

/-! ## Responses -/

/-- What a command returns. A ticket is kept with the authorization it was issued for, and a
consumption with its ticket; `asDict` leaves them out. -/
inductive Result where
  | health (pendingChallenges pendingTickets : Nat)
  | challenge (c : Challenge)
  | ticket (authorization : VerifiedAuthorization) (t : IssuedTicket)
  | consumed (t : IssuedTicket)

def Result.asDict (enabled : Bool) : Result → Object
  | .health pendingChallenges pendingTickets =>
    [(PyStr.ofString "broker_version", .str brokerVersion),
     (PyStr.ofString "protocol_version", .int brokerProtocolVersion),
     (PyStr.ofString "unlock_enabled", .bool enabled),
     (PyStr.ofString "pending_challenges", .int pendingChallenges),
     (PyStr.ofString "pending_tickets", .int pendingTickets)]
  | .challenge c => [(PyStr.ofString "challenge", .dict c.asDict)]
  | .ticket _ t =>
    [(PyStr.ofString "ticket", .dict
      [(PyStr.ofString "token", .str t.token), (PyStr.ofString "device_id", .str t.deviceId),
       (PyStr.ofString "operation", .str t.operation), (PyStr.ofString "issued_at", .int t.issuedAt),
       (PyStr.ofString "expires_at", .int t.expiresAt)]),
     (PyStr.ofString "unlock_enabled", .bool enabled)]
  | .consumed t =>
    [(PyStr.ofString "consumed", .bool true), (PyStr.ofString "device_id", .str t.deviceId),
     (PyStr.ofString "operation", .str t.operation), (PyStr.ofString "unlock_enabled", .bool enabled)]

inductive Response where
  | ok (requestId : Option PyStr) (result : Result)
  | failed (requestId : Option PyStr) (code message : String)

def Response.asDict (enabled : Bool) : Response → Object
  | .ok requestId result =>
    [(PyStr.ofString "ok", .bool true), (PyStr.ofString "request_id", requestId.elim .null .str),
     (PyStr.ofString "result", .dict (result.asDict enabled))]
  | .failed requestId code message =>
    [(PyStr.ofString "ok", .bool false), (PyStr.ofString "request_id", requestId.elim .null .str),
     (PyStr.ofString "error", .dict
      [(PyStr.ofString "code", .str (PyStr.ofString code)),
       (PyStr.ofString "message", .str (PyStr.ofString message))])]

/-- The bytes that are written. -/
def Response.bytes (enabled : Bool) (r : Response) : Option Bytes :=
  (dumps false (.dict (r.asDict enabled))).bind PyStr.encode

/-! ## The broker -/

/-- What `json.loads` made of the bytes; `raised` is an exception `handle_bytes` does not catch. -/
inductive Loaded where
  | value (v : Value)
  | invalid
  | raised

/-- What one call reads and draws: the clock, once more for the ticket, and the random bytes. -/
structure Env where
  now : Int
  issueNow : Int
  idBytes : Fixed 16
  nonce : Fixed 32
  tokenBytes : Fixed 32

structure TrustedUnlockBroker where
  verifier : AuthorizationVerifier
  ticketIssuer : TicketIssuer

namespace TrustedUnlockBroker

section
variable (verify : Fixed 32 → Fixed 64 → Bytes → Bool) (enabled : Bool)

/-- `_dispatch` from the guard on. -/
def perform (b : TrustedUnlockBroker) (env : Env) : Command → TrustedUnlockBroker × Except BrokerError Result
  | .health => (b, .ok (.health b.verifier.pending.size b.ticketIssuer.tickets.size))
  | .create deviceId ttlSeconds =>
    if !enabled then (b, .error .disabled)
    else match b.verifier.createChallenge deviceId env.now ttlSeconds unlockOperation env.idBytes env.nonce with
      | (verifier, .error e) => ({ b with verifier := verifier }, .error (.verifier e))
      | (verifier, .ok c) => ({ b with verifier := verifier }, .ok (.challenge c))
  | .submit response =>
    if !enabled then (b, .error .disabled)
    else match b.verifier.verifyResponse verify response env.now with
      | (verifier, .error e) => ({ b with verifier := verifier }, .error (.verifier e))
      | (verifier, .ok authorization) =>
        match b.ticketIssuer.issue authorization env.issueNow ticketTtlSeconds env.tokenBytes with
        | (issuer, .error e) => (⟨verifier, issuer⟩, .error (.ticket e))
        | (issuer, .ok t) => (⟨verifier, issuer⟩, .ok (.ticket authorization t))
  | .consume token =>
    if !enabled then (b, .error .disabled)
    else match b.ticketIssuer.consume token unlockOperation env.now with
      | (issuer, .error e) => ({ b with ticketIssuer := issuer }, .error (.ticket e))
      | (issuer, .ok t) => ({ b with ticketIssuer := issuer }, .ok (.consumed t))

/-- `handle_request`. -/
def handleRequest (b : TrustedUnlockBroker) (env : Env) (request : Value) : TrustedUnlockBroker × Response :=
  match parseRequest request with
  | (requestId, .error e) => (b, .failed requestId e.code e.message)
  | (requestId, .ok command) =>
    match b.perform verify enabled env command with
    | (b, .error e) => (b, .failed requestId e.code e.message)
    | (b, .ok result) => (b, .ok requestId result)

/-- `handle_bytes`; no response where an exception escapes. -/
def handleBytes (loads : Bytes → Loaded) (b : TrustedUnlockBroker) (raw : Bytes) (env : Env) :
    TrustedUnlockBroker × Option Response :=
  if raw.length > maxMessageBytes then (b, some (.failed none "invalid_request" "message too large"))
  else match loads raw with
    | .invalid => (b, some (.failed none "invalid_request" "invalid JSON"))
    | .raised => (b, none)
    | .value request =>
      let r := b.handleRequest verify enabled env request
      (r.1, some r.2)

/-- A broker over a verifier that starts with these devices, given bytes. -/
def machine (loads : Bytes → Loaded) (devices : Dict PyStr (Fixed 32)) (skew : Int) :
    Machine TrustedUnlockBroker (Bytes × Env) (Option Response) where
  init := ⟨⟨devices, Dict.empty, Dict.empty, skew⟩, TicketIssuer.empty⟩
  step b call := b.handleBytes verify enabled loads call.1 call.2

end

/-! ## What one call does -/

/-- The command of a request, where it gets as far as the guard. -/
def commandOf (loads : Bytes → Loaded) (raw : Bytes) : Option Command :=
  if raw.length > maxMessageBytes then none
  else match loads raw with
    | .value request => (parseRequest request).2.toOption
    | _ => none

/-- What a response gives out. -/
def resultOf : Option Response → Option Result
  | some (.ok _ result) => some result
  | _ => none

section
variable (verify : Fixed 32 → Fixed 64 → Bytes → Bool) (enabled : Bool) (loads : Bytes → Loaded)

/-- A request that is not a command changes nothing and gives nothing out; a command is performed. -/
theorem handleBytes_eq (b : TrustedUnlockBroker) (raw : Bytes) (env : Env) :
    (b.handleBytes verify enabled loads raw env).1 =
        ((commandOf loads raw).elim b (fun c => (b.perform verify enabled env c).1)) ∧
      resultOf (b.handleBytes verify enabled loads raw env).2 =
        ((commandOf loads raw).bind (fun c => (b.perform verify enabled env c).2.toOption)) := by
  unfold handleBytes commandOf
  split
  · exact ⟨rfl, rfl⟩
  cases loads raw with
  | invalid => exact ⟨rfl, rfl⟩
  | raised => exact ⟨rfl, rfl⟩
  | value request =>
    simp only [handleRequest]
    obtain ⟨requestId, command⟩ := parseRequest request
    cases command with
    | error e => exact ⟨rfl, rfl⟩
    | ok command =>
      simp only [Except.toOption, Option.elim_some, Option.bind_some]
      cases hperform : (b.perform verify enabled env command).2 with
      | error e =>
        have heta : b.perform verify enabled env command = ((b.perform verify enabled env command).1, .error e) :=
          Prod.ext rfl hperform
        rw [heta]
        exact ⟨rfl, rfl⟩
      | ok result =>
        have heta : b.perform verify enabled env command = ((b.perform verify enabled env command).1, .ok result) :=
          Prod.ext rfl hperform
        rw [heta]
        exact ⟨rfl, rfl⟩

/-- While the guard is up, a command changes nothing and is answered by an error or by `health`. -/
theorem perform_disabled (b : TrustedUnlockBroker) (env : Env) (c : Command) :
    (b.perform verify false env c).1 = b ∧
      ∀ result, (b.perform verify false env c).2 = .ok result → ∃ m n, result = .health m n := by
  cases c with
  | health =>
    refine ⟨rfl, ?_⟩
    intro result h
    exact ⟨_, _, (Except.ok.inj h).symm⟩
  | create deviceId ttlSeconds => exact ⟨rfl, fun result h => by cases h⟩
  | submit response => exact ⟨rfl, fun result h => by cases h⟩
  | consume token => exact ⟨rfl, fun result h => by cases h⟩

theorem handleBytes_disabled (b : TrustedUnlockBroker) (raw : Bytes) (env : Env) :
    (b.handleBytes verify false loads raw env).1 = b ∧
      ∀ result, resultOf (b.handleBytes verify false loads raw env).2 = some result →
        ∃ m n, result = .health m n := by
  obtain ⟨hstate, hresult⟩ := handleBytes_eq verify false loads b raw env
  cases hcommand : commandOf loads raw with
  | none =>
    rw [hcommand] at hstate hresult
    refine ⟨hstate, ?_⟩
    intro result h
    rw [hresult] at h
    cases h
  | some c =>
    rw [hcommand] at hstate hresult
    obtain ⟨hsame, hhealth⟩ := perform_disabled verify b env c
    refine ⟨hstate.trans hsame, ?_⟩
    intro result h
    rw [hresult, Option.bind_some] at h
    cases hperform : (b.perform verify false env c).2 with
    | error e =>
      rw [hperform] at h
      cases h
    | ok r =>
      rw [hperform] at h
      obtain rfl := Option.some.inj h
      exact hhealth _ hperform

end

end TrustedUnlockBroker

end Pipa.Unlock
