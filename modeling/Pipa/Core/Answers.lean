import Pipa.Core.Coupling

/- What the Core answers to a message of a registered session, with what the answer
   leaves the session in. Every branch of `handle` ends in one of the shapes of
   `Answer`; the device's screen depends on nothing else. -/
namespace Pipa.Core
open Pipa.Lib

variable {ω : Type}

/-- Messages that say nothing about the state of the session. -/
def ServerMessage.silent : ServerMessage → Bool
  | .pong _ | .statusAck | .deviceHelloAck | .gestureAck _ | .ttsAborted | .catalog .. => true
  | _ => false

/-- The messages a session in state `confirm` answers as usual, `abort` aside. -/
def ClientMessage.calm : ClientMessage → Bool
  | .ping _ | .deviceStatus .. | .confirm .. => true
  | _ => false

/-- The `confirm_request` of a record. -/
def confirmRequestOf (record : PendingConfirmation) : ServerMessage :=
  .confirmRequest record.confirmationId record.toolName
    (PyStr.ofString (deviceConfirmationSummary record.toolName)) record.expiresAt record.callId record.requestDigest

/-- The answer to `m` of session `sid`, which is `s` in `st`. -/
inductive Answer (token sid : PyStr) (st : State) (s : DeviceSession) (m : ClientMessage) (o : Outcome) : Prop where
  | raised (e : Exn) (result : o.result = .error e)
  | settled (s' : DeviceSession) (after : s'.state ≠ .confirm) (messages : List ServerMessage)
      (result : o.result = .ok (messages ++ [s'.uiMessage])) (sessions : o.state.sessions.get? sid = some s')
  | asked (s' : DeviceSession) (record : PendingConfirmation) (id : record.confirmationId = token)
      (after : s'.state = .confirm) (result : o.result = .ok [confirmRequestOf record, s'.uiMessage])
      (sessions : o.state.sessions.get? sid = some s') (events : o.events = [.created record])
  | silent (s' : DeviceSession) (same : s'.state = s.state) (message : ServerMessage) (quiet : message.silent = true)
      (result : o.result = .ok [message]) (sessions : o.state.sessions.get? sid = some s')
  | refused (s' : DeviceSession) (same : s'.state = s.state)
      (restless : s.capabilitiesInitialized = true → m.calm = false) (code : ErrorCode) (text : Option PyStr)
      (rest : List ServerMessage) (shape : rest = [] ∨ rest = [s'.uiMessage])
      (result : o.result = .ok (.error code text :: rest)) (sessions : o.state.sessions.get? sid = some s')

namespace PipaCore
variable {core : PipaCore ω} {w : ω} {now : Int} {token sid : PyStr} {st : State} {s : DeviceSession}
  {m : ClientMessage}

theorem answer_finish {st' : State} {s₀ : DeviceSession} {u : UiState} {c : Option PyStr} {ms : List ServerMessage}
    {es : List Event} (hu : u ≠ .confirm) : Answer token sid st s m (finish st' sid s₀ u c ms es) := by
  refine .settled (s₀.setState u c) hu ms rfl ?_
  rw [finish_sessions, Dict.get?_set, if_pos rfl]

theorem runTool_answer {tool : PyStr} {args : Object} {callId digest : Option PyStr} {st' : State} :
    Answer token sid st s m (core.runTool st' w now token sid s tool args callId digest) := by
  unfold runTool
  simp only
  split
  · simp only [runMemory, Bool.false_eq_true, if_false]
    split
    · exact answer_finish (by decide)
    · exact answer_finish (by decide)
  split
  · simp only [runMemory, if_true]
    exact answer_finish (by decide)
  split
  · exact answer_finish (by decide)
  · generalize hr : ToolRouter.invoke core.catalog core.ttlSeconds now token w st'.pending tool args none
      (some (s.setState .thinking none).sessionId) callId digest = r
    -- only a request for a confirmation leaves the session in `confirm`
    cases hres : r.result with
    | error e =>
      obtain ⟨c, t, heq⟩ := answerInvocation_error st' sid (s.setState .thinking none) tool callId hres
      rw [heq]
      exact answer_finish (by decide)
    | ok invocation =>
      cases invocation with
      | completed result =>
        simp only [answerInvocation, hres]
        exact answer_finish (by decide)
      | needsConfirmation record =>
        obtain ⟨hid, hevents⟩ : record.confirmationId = token ∧ r.events = [.created record] := by
          rcases invoke_cases hr with ⟨-, -, e, h⟩ | ⟨d, -, -, -, -, h⟩ | ⟨e, -, -, h⟩ |
            ⟨d, record', -, -, -, -, hid, -, -, -, -, -, hevents, h⟩
          · rw [hres] at h
            cases h
          · rcases h with ⟨e, h⟩ | ⟨result, h⟩
            · rw [hres] at h
              cases h
            · rw [hres] at h
              cases h
          · rw [hres] at h
            cases h
          · rw [hres] at h
            obtain rfl : record = record' := by
              injection h with h
              injection h
            exact ⟨hid, hevents⟩
        simp only [answerInvocation, hres]
        refine .asked ((s.setState .thinking none).setState .confirm none) record hid rfl rfl ?_ hevents
        rw [finish_sessions, Dict.get?_set, if_pos rfl]

theorem routeTranscript_answer {text : PyStr} {st' : State} :
    Answer token sid st s m (core.routeTranscript st' w now token sid s text) := by
  unfold routeTranscript
  split
  · exact answer_finish (by decide)
  split
  · exact .raised _ rfl
  · exact answer_finish (by decide)
  · exact runTool_answer

theorem handleToolCall_answer {name : PyStr} {args : Object} {callId digest : Option PyStr} {st' : State} :
    Answer token sid st s m (core.handleToolCall st' w now token sid s name args callId digest) := by
  unfold handleToolCall
  split
  · exact runTool_answer
  · exact answer_finish (by decide)

theorem handleConfirm_answer {st' : State} {cid : PyStr} {accepted : Bool} :
    Answer token sid st s m (core.handleConfirm st' w now sid s cid accepted) := by
  obtain ⟨p, caption, ms, heq, -⟩ := handleConfirm_shape core st' w now sid s cid accepted rfl
  rw [heq]
  exact answer_finish (by decide)

/-- The session as it was saved. -/
theorem save_get (s' : DeviceSession) : (st.save sid s').sessions.get? sid = some s' := by
  simp only [State.save, Dict.get?_set, if_true]

theorem handleReady_answer (late : isPreHello m = true → m = .abort) :
    Answer token sid st s m (core.handleReady st w now token sid s m) := by
  have refused (hm : m.calm = false) (text : Option PyStr) :
      Answer token sid st s m (reply (st.save sid s) [.error .unsupportedMessage text]) :=
    .refused s rfl (fun _ => hm) _ _ [] (Or.inl rfl) rfl (save_get s)
  cases m with
  | wake => exact answer_finish (by decide)
  | holdStart => exact answer_finish (by decide)
  | holdEnd => exact answer_finish (by decide)
  | audioEnd => exact answer_finish (by decide)
  | abort => exact answer_finish (by decide)
  | gesture g => exact .silent s rfl (.gestureAck g) rfl rfl (save_get s)
  | textInput text source => exact routeTranscript_answer
  | toolCall name args callId digest => exact handleToolCall_answer
  | confirm cid accepted => exact handleConfirm_answer
  | challengeRequest _ => exact refused rfl _
  | hello _ _ _ _ _ => exact refused rfl _
  | catalogRequest => exact refused rfl _
  | deviceHello _ _ => exact refused rfl _
  | ping _ => cases late rfl
  | deviceStatus _ _ _ => cases late rfl

/-- The catalog, or the error in its place. -/
theorem catalogResponse_cases (catalog : ToolCatalog ω) (commandCatalog : Option (ω → Except Exn (List Object)))
    (capabilityCatalog : Option (ω → Except Exn Value)) (w : ω) :
    (∃ commands capabilities, catalogResponse catalog commandCatalog capabilityCatalog w =
      [.catalog commands capabilities]) ∨
    catalogResponse catalog commandCatalog capabilityCatalog w = [.error .catalogUnavailable none] := by
  unfold catalogResponse
  simp only
  split
  · exact Or.inr rfl
  split
  · exact Or.inl ⟨_, _, rfl⟩
  split
  · exact Or.inr rfl
  split
  · exact Or.inr rfl
  · exact Or.inl ⟨_, _, rfl⟩

theorem handleGated_answer (late : isPreHello m = true → m = .abort) :
    Answer token sid st s m (core.handleGated st w now token sid s m) := by
  unfold handleGated
  split
  · rename_i hearly
    refine .refused s rfl ?_ _ _ [] (Or.inl rfl) rfl (save_get s)
    intro hready
    simp [hready] at hearly
  split
  · obtain ⟨commands, capabilities, heq⟩ | heq :=
      catalogResponse_cases core.catalog core.commandCatalog core.capabilityCatalog w
    · rw [heq]
      exact .silent s rfl _ rfl rfl (save_get s)
    · rw [heq]
      exact .refused s rfl (fun _ => rfl) _ _ [] (Or.inl rfl) rfl (save_get s)
  split
  · rename_i hgate
    refine .refused s rfl ?_ _ _ [s.uiMessage] (Or.inr rfl) rfl (save_get s)
    intro _
    simp only [Bool.and_eq_true, decide_eq_true_eq, Bool.not_eq_true'] at hgate
    cases m with
    | confirm _ _ => cases hgate.2
    | ping _ => cases hgate.2
    | deviceStatus _ _ _ => cases hgate.2
    | _ => rfl
  · exact handleReady_answer late

/-- Nothing but the answers above is given to a message of a registered session. -/
theorem handleSession_answer : Answer token sid st s m (core.handleSession st w now token sid s m) := by
  cases m with
  | ping requestId => exact .silent s rfl _ rfl rfl (save_get s)
  | deviceStatus a b c =>
    exact .silent { s with audioState := a, batteryPercent := b, wifiRssi := c } rfl _ rfl rfl (save_get _)
  | deviceHello v c =>
    simp only [handleSession]
    split
    · exact .refused s rfl (fun _ => rfl) _ _ [] (Or.inl rfl) rfl (save_get s)
    · exact .silent { s with firmwareVersion := v, capabilities := c, capabilitiesInitialized := true } rfl _ rfl rfl
        (save_get _)
  | _ =>
    show Answer token sid st s _ (core.handleGated st w now token sid s _)
    exact handleGated_answer (by simp [isPreHello])

/-- `handle`: the session has been pruned or never was, or it takes the message. -/
theorem handle_cases (core : PipaCore ω) (st : State) (w : ω) (clock : Clock) (token sid : PyStr) (m : ClientMessage) :
    ((pruneStaleSessions st clock.prune).sessions.get? sid = none ∧
      core.handle st w clock token sid m = reply (pruneStaleSessions st clock.prune) [unknownSession]) ∨
    ∃ s, (pruneStaleSessions st clock.prune).sessions.get? sid = some s ∧
      Effect core w clock.act token sid (pruneStaleSessions st clock.prune) (s.touch clock.touch) (.message m)
        (core.handle st w clock token sid m) ∧
      Answer token sid (pruneStaleSessions st clock.prune) (s.touch clock.touch) m
        (core.handle st w clock token sid m) := by
  unfold handle
  cases hs : (pruneStaleSessions st clock.prune).sessions.get? sid with
  | none =>
    simp only [hs]
    exact Or.inl ⟨trivial, trivial⟩
  | some s =>
    simp only [hs]
    exact Or.inr ⟨s, rfl, handleSession_effect, handleSession_answer⟩

end PipaCore

/-! ## What an effect says of the session's state -/

section
variable {core : PipaCore ω} {w : ω} {now : Int} {token sid : PyStr} {st : State} {s s' : DeviceSession} {input : Input}
  {o : Outcome}

/-- A session waits for a confirmation only once it is initialised. -/
theorem Effect.confirm_ready (he : Effect core w now token sid st s input o)
    (hready : s.state = .confirm → s.capabilitiesInitialized = true) (hs' : o.state.sessions.get? sid = some s')
    (hconfirm : s'.state = .confirm) : s'.capabilitiesInitialized = true := by
  have same {s₁ : DeviceSession} (sessions : o.state.sessions = st.sessions.set sid s₁) : s' = s₁ := by
    rw [sessions, Dict.get?_set, if_pos rfl] at hs'
    exact (Option.some.inj hs').symm
  cases he with
  | quiet s₁ frame state sessions pending events =>
    obtain rfl := same sessions
    exact frame.initialized (hready (state ▸ hconfirm))
  | requested s₁ record frame before ready after request sessions pending events =>
    obtain rfl := same sessions
    exact frame.initialized ready
  | worked s₁ frame before after sessions pending events => exact absurd (same sessions ▸ hconfirm) after
  | aborted s₁ frame after sent sessions pending events => exact absurd (same sessions ▸ hconfirm) after
  | resolved s₁ cid accepted record frame after sent found live owner sessions pending events =>
    exact absurd (same sessions ▸ hconfirm) after
  | unmatched s₁ cid accepted frame after sent sessions pending events =>
    exact absurd (same sessions ▸ hconfirm) after

/-- Only a request for a confirmation creates a record. -/
theorem Effect.of_created (he : Effect core w now token sid st s input o) {record : PendingConfirmation}
    (hevents : o.events = [.created record]) :
    ∃ s₁, s.state ≠ .confirm ∧ s₁.state = .confirm ∧ record.ownerId = some s.sessionId ∧
      o.state.sessions = st.sessions.set sid s₁ ∧ o.state.pending = (st.pending.prune now).set token record := by
  cases he with
  | requested s₁ record' frame before ready after request sessions pending events =>
    rw [hevents] at events
    obtain rfl : record = record' := by
      injection events with events
      injection events
    exact ⟨s₁, before, after, request.owner, sessions, pending⟩
  | worked s₁ frame before after sessions pending events =>
    obtain ⟨tool, args, d, hcalled, -⟩ | ⟨err, hrefused, -⟩ := events (.created record) (by rw [hevents]; exact List.mem_cons_self)
    · cases hcalled
    · cases hrefused
  | resolved s₁ cid accepted record' frame after sent found live owner sessions pending events =>
    obtain hnone | ⟨-, hcalled⟩ := events
    · rw [hevents] at hnone
      cases hnone
    · rw [hevents] at hcalled
      cases hcalled
  | quiet s₁ frame state sessions pending events => rw [hevents] at events; cases events
  | aborted s₁ frame after sent sessions pending events => rw [hevents] at events; cases events
  | unmatched s₁ cid accepted frame after sent sessions pending events => rw [hevents] at events; cases events

/-- An input that does not change the session's state adds no record. -/
theorem Effect.pending_of_same (he : Effect core w now token sid st s input o)
    (hs' : o.state.sessions.get? sid = some s') (hsame : s'.state = s.state) {k : PyStr} {r : PendingConfirmation}
    (hr : o.state.pending.get? k = some r) : st.pending.get? k = some r := by
  obtain hold | ⟨-, -, -, hevents⟩ := he.pending_cases hr
  · exact hold
  · obtain ⟨s₁, before, after, -, sessions, -⟩ := he.of_created hevents
    rw [sessions, Dict.get?_set, if_pos rfl] at hs'
    obtain rfl := Option.some.inj hs'
    exact absurd (hsame ▸ after) before

end

end Pipa.Core
