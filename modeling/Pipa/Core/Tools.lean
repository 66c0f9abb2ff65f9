import Pipa.Core.Protocol

/- The confirmation store (`confirmations.py`), the tool catalog and router
   (`tools.py`) and the memory of facts (`memory.py`).

   Handlers, validators, preparers and summaries are supplied by the agent. They
   are fields of a `ToolDefinition` and take the state `w` of the outside world
   at the call, so that one tool may answer differently from call to call; they
   may return anything of their type or raise. `Event` records what the store and
   the router did: which confirmations were created or refused and which handlers
   were called, with their arguments. -/
namespace Pipa.Core
open Pipa.Lib

/-! ## Confirmations -/

def maxPendingConfirmations : Nat := 128
def maxPendingPerOwner : Nat := 4

/-- `is_valid_request_digest`: 64 lowercase hexadecimal digits. -/
def isValidRequestDigest (d : PyStr) : Bool :=
  d.length == 64 && d.all (fun c => (0x30 ≤ c.val && c.val ≤ 0x39) || (0x61 ≤ c.val && c.val ≤ 0x66))

structure PendingConfirmation where
  confirmationId : PyStr
  ownerId : Option PyStr
  toolName : PyStr
  arguments : Object
  summary : PyStr
  createdAt : Int
  expiresAt : Int
  callId : Option PyStr
  requestDigest : Option PyStr
  executionArguments : Option Object

/-- The arguments a confirmed execution uses: the snapshot when there is one,
otherwise the validated arguments. -/
def PendingConfirmation.captured (r : PendingConfirmation) : Object :=
  r.executionArguments.getD r.arguments

abbrev Pending := Dict PyStr PendingConfirmation

namespace Pending

/-- `_prune`: drop what has expired at `now`. -/
def prune (p : Pending) (now : Int) : Pending := p.filter (fun _ r => !(r.expiresAt ≤ now))

/-- The records `sid` owns. -/
def owned (p : Pending) (sid : PyStr) : List PendingConfirmation :=
  p.values.filter (fun r => r.ownerId = some sid)

def summaryError : Exn := .confirmationError (PyStr.ofString "confirmation summary must not be empty")
def callIdError : Exn := .confirmationError (PyStr.ofString "confirmation call_id is invalid")
def digestError : Exn := .confirmationError (PyStr.ofString "confirmation request_digest is invalid")
def storeLimitError : Exn := .confirmationError (PyStr.ofString "too many pending confirmations")
def ownerLimitError : Exn :=
  .confirmationError (PyStr.ofString "too many pending confirmations for this session")
def missingError : Exn := .confirmationError (PyStr.ofString "confirmation is missing or expired")
def ownerError : Exn := .confirmationError (PyStr.ofString "confirmation belongs to another session")

/-- `ConfirmationManager.create`. The store is pruned before its limits are
looked at, and stays pruned when one is hit. -/
def create (p : Pending) (ttl now : Int) (token toolName : PyStr) (arguments : Object)
    (summary : Value) (ownerId callId requestDigest : Option PyStr)
    (executionArguments : Option Object) : Pending × Except Exn PendingConfirmation :=
  match summary with
  | .str summary =>
    if summary.isBlank then (p, .error summaryError)
    else if callId.any (fun c => c.isBlank || c.length > 128) then (p, .error callIdError)
    else if requestDigest.any (fun d => !isValidRequestDigest d) then (p, .error digestError)
    else
      let record : PendingConfirmation :=
        { confirmationId := token, ownerId := ownerId, toolName := toolName, arguments := arguments,
          summary := summary.take 240, createdAt := now, expiresAt := now + ttl, callId := callId,
          requestDigest := requestDigest, executionArguments := executionArguments }
      let p := p.prune now
      if p.size ≥ maxPendingConfirmations then (p, .error storeLimitError)
      else if ownerId.any (fun sid => (p.owned sid).length ≥ maxPendingPerOwner) then
        (p, .error ownerLimitError)
      else (p.set record.confirmationId record, .ok record)
  | _ => (p, .error summaryError)

/-- `ConfirmationManager.consume`. -/
def consume (p : Pending) (now : Int) (confirmationId : PyStr) (ownerId : Option PyStr) :
    Except Exn (PendingConfirmation × Pending) :=
  match p.get? confirmationId with
  | none => .error missingError
  | some record =>
    if now ≥ record.expiresAt then .error missingError
    else if record.ownerId ≠ none ∧ record.ownerId ≠ ownerId then .error ownerError
    else .ok (record, p.erase confirmationId)

/-- `ConfirmationManager.cancel_for_owner`. -/
def cancelForOwner (p : Pending) (ownerId : PyStr) : Pending :=
  if ownerId = [] then p else p.filter (fun _ r => r.ownerId ≠ some ownerId)

end Pending

/-! ## Tools -/

inductive Safety where
  | safe
  | unsafeTool
  deriving DecidableEq

/-- `ToolDefinition`. Its `__post_init__` refuses an unsafe tool without a summary. -/
structure ToolDefinition (ω : Type) where
  name : PyStr
  handler : ω → Object → Except Exn Object
  safety : Safety
  confirmSummary : Option (ω → Object → Except Exn Value)
  argumentValidator : Option (ω → Object → Except Exn Unit)
  confirmationPreparer : Option (ω → Object → Except Exn Value)
  summarised : safety = .unsafeTool → confirmSummary.isSome = true

/-- `validate_arguments` on a mapping: the validator sees a copy and the copy is returned. -/
def ToolDefinition.validateArguments {ω : Type} (d : ToolDefinition ω) (w : ω) (arguments : Object) :
    Except Exn Object :=
  match d.argumentValidator with
  | none => .ok arguments
  | some validator =>
    match validator w arguments with
    | .error e => .error e
    | .ok () => .ok arguments

/-- The execution snapshot taken when a confirmation is requested. -/
def ToolDefinition.prepare {ω : Type} (d : ToolDefinition ω) (w : ω) (values : Object) :
    Except Exn (Option Object) :=
  match d.confirmationPreparer with
  | none => .ok none
  | some preparer =>
    match preparer w values with
    | .error e => .error e
    | .ok (.dict prepared) => .ok (some prepared)
    | .ok _ => .error (.confirmationError (PyStr.ofString "confirmation execution arguments are invalid"))

abbrev ToolCatalog (ω : Type) := Dict PyStr (ToolDefinition ω)

inductive Event where
  | created (record : PendingConfirmation)
  | refused (error : Exn)
  | called (tool : PyStr) (arguments : Object)

inductive Invocation where
  | needsConfirmation (confirmation : PendingConfirmation)
  | completed (result : Object)

/-- What a resolved confirmation amounts to. -/
inductive Resolution where
  | rejected (record : PendingConfirmation)
  | completed (record : PendingConfirmation) (result : Object)

/-- A call into the router: the store afterwards, what happened, and the result. -/
structure Routed (α : Type) where
  pending : Pending
  events : List Event
  result : Except Exn α

namespace ToolRouter
variable {ω : Type}

/-- `_execute`: call the handler. -/
def execute (d : ToolDefinition ω) (tool : PyStr) (w : ω) (values : Object) :
    Except Exn Object × List Event :=
  (d.handler w values, [.called tool values])

/-- The unsafe branch of `invoke` without a confirmation id: ask for one. -/
def requestConfirmation (d : ToolDefinition ω) (ttl now : Int) (token : PyStr) (w : ω) (p : Pending)
    (name : PyStr) (values : Object) (ownerId callId requestDigest : Option PyStr) :
    Routed Invocation :=
  match d.confirmSummary with
  | none => ⟨p, [], .error (.confirmationError
      (PyStr.ofString "unsafe tool is missing its confirmation summary"))⟩
  | some confirmSummary =>
    match d.prepare w values with
    | .error e => ⟨p, [], .error e⟩
    | .ok executionArguments =>
      match confirmSummary w values with
      | .error e => ⟨p, [], .error e⟩
      | .ok summary =>
        match p.create ttl now token name values summary ownerId callId requestDigest
            executionArguments with
        | (p, .error e) => ⟨p, [.refused e], .error e⟩
        | (p, .ok record) => ⟨p, [.created record], .ok (.needsConfirmation record)⟩

/-- The end of `invoke`: run the handler and wrap what it returned. -/
def complete (d : ToolDefinition ω) (w : ω) (p : Pending) (name : PyStr) (values : Object) :
    Routed Invocation :=
  match execute d name w values with
  | (.error e, events) => ⟨p, events, .error e⟩
  | (.ok result, events) => ⟨p, events, .ok (.completed result)⟩

/-- `ToolRouter.invoke`. -/
def invoke (catalog : ToolCatalog ω) (ttl now : Int) (token : PyStr) (w : ω) (p : Pending)
    (name : PyStr) (arguments : Object) (confirmationId ownerId callId requestDigest : Option PyStr) :
    Routed Invocation :=
  match catalog.get? name with
  | none => ⟨p, [], .error .keyError⟩
  | some d =>
    match d.validateArguments w arguments with
    | .error e => ⟨p, [], .error e⟩
    | .ok values =>
      match d.safety, confirmationId with
      | .unsafeTool, none =>
        requestConfirmation d ttl now token w p name values ownerId callId requestDigest
      | .unsafeTool, some cid =>
        match p.consume now cid ownerId with
        | .error e => ⟨p, [], .error e⟩
        | .ok (record, p) =>
          if record.toolName ≠ name then
            ⟨p, [], .error (.confirmationError
              (PyStr.ofString "confirmation does not match the requested tool"))⟩
          else complete d w p name record.captured
      | .safe, _ => complete d w p name values

/-- The arguments of a confirmed call: the snapshot, or the captured arguments
validated once more. -/
def executionValues (d : ToolDefinition ω) (w : ω) (record : PendingConfirmation) : Except Exn Object :=
  match record.executionArguments with
  | some snapshot => .ok snapshot
  | none => d.validateArguments w record.arguments

/-- `ToolRouter.resolve_confirmation`. -/
def resolveConfirmation (catalog : ToolCatalog ω) (now : Int) (w : ω) (p : Pending)
    (confirmationId : PyStr) (accepted : Bool) (ownerId : Option PyStr) : Routed Resolution :=
  match p.consume now confirmationId ownerId with
  | .error e => ⟨p, [], .error e⟩
  | .ok (record, p) =>
    if accepted then
      match catalog.get? record.toolName with
      | none => ⟨p, [], .error .keyError⟩
      | some d =>
        match executionValues d w record with
        | .error e => ⟨p, [], .error e⟩
        | .ok values =>
          match execute d record.toolName w values with
          | (.error e, events) => ⟨p, events, .error e⟩
          | (.ok result, events) => ⟨p, events, .ok (.completed record result)⟩
    else ⟨p, [], .ok (.rejected record)⟩

end ToolRouter

/-! ## Memory -/

def maxFactLength : Nat := 500
def maxFactsPerDevice : Nat := 100
def maxMemoryDevices : Nat := 256

abbrev MemoryStore := Dict PyStr (List PyStr)

namespace MemoryStore

/-- `MemoryStore.remember`; `none` is its `ValueError`. -/
def remember (m : MemoryStore) (deviceId fact : PyStr) : Option (MemoryStore × Object) :=
  if fact.isBlank ∨ fact.length > maxFactLength then none
  else if m.get? deviceId = none ∧ m.size ≥ maxMemoryDevices then none
  else
    let facts := (m.get? deviceId).getD []
    let facts := if fact.strip ∈ facts then facts else facts ++ [fact.strip]
    let facts := facts.drop (facts.length - maxFactsPerDevice)
    some (m.set deviceId facts,
      [(PyStr.ofString "success", .bool true), (PyStr.ofString "fact", .str fact.strip),
       (PyStr.ofString "count", .int facts.length)])

def recallMemory (m : MemoryStore) (deviceId : PyStr) : Object :=
  [(PyStr.ofString "success", .bool true),
   (PyStr.ofString "facts", .list (((m.get? deviceId).getD []).map .str))]

end MemoryStore

end Pipa.Core
