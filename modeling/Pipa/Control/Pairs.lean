import Pipa.Control.Spoken
import Pipa.Core.Answers
import Pipa.Intents.Total
import Pipa.Link.Wire

/- What a command is answered (`core.py`): two messages, the second of them the UI
   state of the session, which is `idle` or waits for a confirmation. Nothing that a
   handler, a validator, a preparer or a summary does changes that, nor a catalog that
   cannot be read. Both messages keep the contract of `server_message`
   (`protocol.py`), which refuses any other. -/
namespace Pipa.Control
open Pipa.Lib Pipa.Core Pipa.Intents Pipa.Link

variable {ω : Type}

/-! ## The contract of `server_message` -/

/-- `SERVER_MESSAGE_FIELDS` and `SERVER_MESSAGE_REQUIRED_FIELDS`. -/
def serverMessageFields : List (String × List String × List String) :=
  [("challenge", ["challenge"], ["challenge"]),
    ("error", ["code", "message"], ["code"]),
    ("ready", ["session_id", "ui_state"], ["session_id", "ui_state"]),
    ("catalog", ["commands", "capabilities"], ["commands"]),
    ("confirm_request", ["confirmation_id", "tool_name", "summary", "expires_at", "call_id", "request_digest"],
      ["confirmation_id", "tool_name", "summary", "expires_at"]),
    ("tool_result", ["tool_name", "status", "success", "call_id"], ["tool_name", "status", "success"]),
    ("ui_state", ["state", "caption", "focus_remaining"], ["state"]),
    ("pong", ["request_id"], []),
    ("status_ack", [], []),
    ("device_hello_ack", [], []),
    ("gesture_ack", ["gesture"], ["gesture"]),
    ("tts_aborted", [], [])]

/-- `server_message` with its checks. -/
def checkedMessage (type : String) (fields : Object) : Except Exn Object :=
  if (PyStr.ofString type).isBlank then .error .valueError
  else if fields.keys.any (· ∈ names ["type", "protocol_version"]) then .error .valueError
  else match serverMessageFields.find? (fun e => e.1 = type) with
    | none => .error .valueError
    | some (_, allowed, required) =>
      if fields.keys.any (· ∉ names allowed) then .error .valueError
      else if (names required).any (· ∉ fields.keys) then .error .valueError
      else .ok (serverMessage type fields)

/-- The type and the fields a message is built from. -/
def MeetsContract (message : ServerMessage) : Prop :=
  ∃ type fields, payload message = serverMessage type fields ∧ checkedMessage type fields = .ok (payload message)

theorem mem_names {k : String} {l : List String} : PyStr.ofString k ∈ names l ↔ k ∈ l := by
  simp only [names, List.mem_map, PyStr.ofString_inj, exists_eq_right]

/-- Only the names of the fields count. -/
theorem checkedMessage_ok {type : String} {fields : Object} {allowed required : List String} (keys : List String)
    (hkeys : fields.keys = names keys) (hblank : (PyStr.ofString type).isBlank = false)
    (hfind : serverMessageFields.find? (fun e => e.1 = type) = some (type, allowed, required))
    (hfit : (∀ k ∈ keys, k ∈ allowed ∧ k ∉ ["type", "protocol_version"]) ∧ ∀ k ∈ required, k ∈ keys) :
    checkedMessage type fields = .ok (serverMessage type fields) := by
  have hnone {l l' : List String} (h : ∀ k ∈ l, k ∉ l') : (names l).any (· ∈ names l') = false := by
    rw [names, List.any_map, List.any_eq_false]
    intro k hk
    rw [Function.comp_apply, decide_eq_true_eq]
    exact mem_names.not.mpr (h k hk)
  have hall {l l' : List String} (h : ∀ k ∈ l, k ∈ l') : (names l).any (· ∉ names l') = false := by
    rw [names, List.any_map, List.any_eq_false]
    intro k hk
    rw [Function.comp_apply, decide_eq_true_eq, not_not]
    exact mem_names.mpr (h k hk)
  unfold checkedMessage
  rw [hblank, hfind, hkeys, hnone (fun k hk => (hfit.1 k hk).2)]
  simp only [Bool.false_eq_true, if_false, hall (fun k hk => (hfit.1 k hk).1), hall hfit.2]

theorem keys_optional (name : String) (text : Option PyStr) :
    (optionalField name text).keys = names (if text.isSome then [name] else []) := by
  cases text <;> rfl

theorem keys_append (a b : Object) : Object.keys (a ++ b) = a.keys ++ b.keys := List.map_append

/-- Every message of the Core is one that `server_message` builds. -/
theorem meets_contract (message : ServerMessage) : MeetsContract message := by
  cases message with
  | error code text =>
    refine ⟨"error", _, rfl, checkedMessage_ok ("code" :: if text.isSome then ["message"] else []) ?_
      (by decide) rfl ?_⟩
    · exact congrArg (PyStr.ofString "code" :: ·) (keys_optional "message" text)
    · generalize text.isSome = b
      cases b <;> decide
  | catalog commands capabilities =>
    refine ⟨"catalog", _, rfl, checkedMessage_ok ("commands" :: if capabilities.isSome then ["capabilities"]
      else []) ?_ (by decide) rfl ?_⟩
    · cases capabilities <;> rfl
    · generalize capabilities.isSome = b
      cases b <;> decide
  | confirmRequest confirmationId toolName summary expiresAt callId requestDigest =>
    refine ⟨"confirm_request", _, rfl, checkedMessage_ok (["confirmation_id", "tool_name", "summary",
      "expires_at"] ++ (if callId.isSome then ["call_id"] else []) ++
        if requestDigest.isSome then ["request_digest"] else []) ?_ (by decide) rfl ?_⟩
    · rw [keys_append, keys_append, keys_optional, keys_optional]
      simp only [names, List.map_append]
      rfl
    · generalize callId.isSome = b
      generalize requestDigest.isSome = d
      cases b <;> cases d <;> decide
  | toolResult toolName status success callId =>
    refine ⟨"tool_result", _, rfl, checkedMessage_ok (["tool_name", "status", "success"] ++
      if callId.isSome then ["call_id"] else []) ?_ (by decide) rfl ?_⟩
    · rw [keys_append, keys_optional]
      simp only [names, List.map_append]
      rfl
    · generalize callId.isSome = b
      cases b <;> decide
  | uiState state caption focusRemaining =>
    exact ⟨"ui_state", _, rfl, checkedMessage_ok ["state", "caption", "focus_remaining"] rfl
      (by decide) rfl (by decide)⟩
  | pong requestId =>
    exact ⟨"pong", _, rfl, checkedMessage_ok ["request_id"] rfl (by decide) rfl (by decide)⟩
  | statusAck => exact ⟨"status_ack", _, rfl, checkedMessage_ok [] rfl (by decide) rfl (by decide)⟩
  | deviceHelloAck =>
    exact ⟨"device_hello_ack", _, rfl, checkedMessage_ok [] rfl (by decide) rfl (by decide)⟩
  | gestureAck gesture =>
    exact ⟨"gesture_ack", _, rfl, checkedMessage_ok ["gesture"] rfl (by decide) rfl (by decide)⟩
  | ttsAborted =>
    exact ⟨"tts_aborted", _, rfl, checkedMessage_ok [] rfl (by decide) rfl (by decide)⟩

/-! ## Validated catalogs -/

/-- What `validate_command_catalog` returns. -/
def ValidatedCatalog (commands : List Object) : Prop := ∃ raw, validateCommandCatalog raw = .ok commands

theorem validateParameter_readable {seen : List PyStr} {v : Value} {name : PyStr} {parameter : Object}
    (h : validateParameter seen v = .ok (name, parameter)) : ReadableParameter parameter := by
  unfold validateParameter at h
  split at h
  · split at h
    · cases h
    split at h
    · split at h
      · cases h
      split at h
      · cases h
      split at h
      · cases h
      rename_i options hoptions
      obtain ⟨-, rfl⟩ := Prod.mk.inj (Except.ok.inj h)
      refine ⟨rfl, ?_⟩
      cases options with
      | nil => exact ⟨[], rfl⟩
      | cons o os => exact ⟨(o :: os).map Value.str, rfl⟩
    · cases h
  · cases h

theorem validateParameterList_readable {seen : List PyStr} {vs parameters : List Value}
    (h : validateParameterList seen vs = .ok parameters) :
    ∀ parameter, Value.dict parameter ∈ parameters → ReadableParameter parameter := by
  induction vs generalizing seen parameters with
  | nil =>
    obtain rfl := Except.ok.inj h
    nofun
  | cons v vs ih =>
    unfold validateParameterList at h
    split at h
    · cases h
    rename_i name first hfirst
    split at h
    · cases h
    rename_i rest hrest
    obtain rfl := Except.ok.inj h
    intro parameter hmem
    obtain heq | hmem := List.mem_cons.mp hmem
    · obtain rfl := Value.dict.inj heq
      exact validateParameter_readable hfirst
    · exact ih hrest parameter hmem

theorem validateCommandList_readable {seen : List PyStr} {raw commands : List Object}
    (h : validateCommandList seen raw = .ok commands) : ∀ c ∈ commands, ReadableCommand c := by
  induction raw generalizing seen commands with
  | nil =>
    obtain rfl := Except.ok.inj h
    nofun
  | cons r raw ih =>
    unfold validateCommandList at h
    split at h
    · cases h
    rename_i id command hone
    split at h
    · cases h
    rename_i rest hrest
    obtain rfl := Except.ok.inj h
    intro c hc
    obtain rfl | hc := List.mem_cons.mp hc
    · obtain ⟨_, toolName, phrase, description, requiresConfirmation, parameters, labels, defaults, -, -, -, -, -, -, -,
        -, -, -, -, hparameters, -, -, -, rfl⟩ := validateCommand_ok hone
      refine ⟨⟨toolName.strip, get?_toolName ..⟩, ?_⟩
      intro parameters' hparameters' parameter hmem
      have hget : (normalized id toolName.strip phrase.strip description.strip (field r "safety") requiresConfirmation
          parameters defaults).get? (PyStr.ofString "parameters") = some (.list parameters) := by
        simp [normalized, Object.get?]
      rw [hget] at hparameters'
      obtain rfl := Value.list.inj hparameters'
      unfold validateParameters at hparameters
      split at hparameters
      · split at hparameters
        · cases hparameters
        · exact validateParameterList_readable hparameters parameter hmem
      · cases hparameters
    · exact ih hrest c hc

theorem ValidatedCatalog.readable {commands : List Object} (h : ValidatedCatalog commands) :
    ∀ c ∈ commands, ReadableCommand c := by
  obtain ⟨raw, hraw⟩ := h
  unfold validateCommandCatalog at hraw
  split at hraw
  · cases hraw
  · exact validateCommandList_readable hraw

/-! ## The intent of a text -/

/-- A catalog callable returns a validated catalog, or raises `OSError` or `ValueError`. -/
def CatalogOrError (core : PipaCore ω) (w : ω) : Prop :=
  ∀ commandCatalog, core.commandCatalog = some commandCatalog →
    (∃ commands, commandCatalog w = .ok commands ∧ ValidatedCatalog commands) ∨
      commandCatalog w = .error .osError ∨ commandCatalog w = .error .valueError ∨
      ∃ text, commandCatalog w = .error (.confirmationError text)

/-- The Core reads texts with the two parsers of `intents.py`. -/
structure Reads (core : PipaCore ω) (u : Unicode) : Prop where
  catalog : core.parseCatalogIntent = Intents.parseCatalogIntent u
  text : core.parseTextIntent = Intents.parseTextIntent u

section
variable {core : PipaCore ω} {u : Unicode} {w : ω} {now : Int} {token sid : PyStr} {st : State} {s : DeviceSession}

theorem intentOf_total (hu : u.Lawful) (hreads : Reads core u) (hcatalog : CatalogOrError core w) {bounded : PyStr}
    (hbounded : validateBoundedText bounded 4000 = .ok bounded) : ∃ i, core.intentOf w bounded = .ok i := by
  have htext : ∃ i, core.parseTextIntent bounded = .ok i := by
    rw [hreads.text]
    exact parseTextIntent_total hu hbounded
  obtain ⟨i, hi⟩ := htext
  have hread (commands : List Object) (hreadable : ∀ c ∈ commands, ReadableCommand c) :
      (∃ parsed, core.parseCatalogIntent bounded commands = .ok parsed) ∧
      (commands.map (fun c => c.get? (PyStr.ofString "tool_name"))).any (fun t => t.any (fun v => !v.hashable)) =
        false := by
    refine ⟨?_, ?_⟩
    · rw [hreads.catalog]
      exact parseCatalogIntent_total hbounded hreadable
    · rw [List.any_map, List.any_eq_false]
      intro c hc
      obtain ⟨toolName, htool⟩ := (hreadable c hc).toolName
      rw [Function.comp_apply, htool]
      exact Bool.false_ne_true
  unfold PipaCore.intentOf
  split
  · exact ⟨i, hi⟩
  rename_i commandCatalog hsome
  split
  · -- a callable that raises leaves an empty catalog
    rename_i e he
    obtain ⟨commands, hok, -⟩ | herr | herr | ⟨text, herr⟩ := hcatalog commandCatalog hsome
    · rw [hok] at he
      cases he
    · rw [herr] at he
      cases he
    · rw [herr] at he
      cases he
    · rw [herr] at he
      cases he
  rename_i commands hcommands
  have hreadable : ∀ c ∈ commands, ReadableCommand c := by
    obtain ⟨commands', hok, hvalid⟩ | herr | herr | ⟨text, herr⟩ := hcatalog commandCatalog hsome
    · rw [hok] at hcommands
      obtain rfl := Except.ok.inj hcommands
      exact hvalid.readable
    · rw [herr] at hcommands
      obtain rfl := Except.ok.inj hcommands
      intro c hc
      cases hc
    · rw [herr] at hcommands
      obtain rfl := Except.ok.inj hcommands
      intro c hc
      cases hc
    · rw [herr] at hcommands
      obtain rfl := Except.ok.inj hcommands
      intro c hc
      cases hc
  obtain ⟨⟨parsed, hparsed⟩, hhashable⟩ := hread commands hreadable
  simp only [hparsed]
  have hintent (intent : ParsedIntent) (named : Option Value → Bool) :
      ∃ i, (if core.commandCatalogAuthoritative then
        if (commands.map (fun c => c.get? (PyStr.ofString "tool_name"))).any (fun t => t.any (fun v => !v.hashable)) then
          Except.error Exn.other
        else if (commands.map (fun c => c.get? (PyStr.ofString "tool_name"))).any named then .ok (some intent)
        else .ok none
      else .ok (some intent)) = .ok i := by
    rw [hhashable]
    simp only [Bool.false_eq_true, if_false]
    split
    · split
      · exact ⟨_, rfl⟩
      · exact ⟨_, rfl⟩
    · exact ⟨_, rfl⟩
  cases parsed with
  | some intent => exact hintent intent _
  | none =>
    simp only [hi]
    cases i with
    | none => exact ⟨none, rfl⟩
    | some intent => exact hintent intent _

/-! ## Pairs -/

/-- Two messages, and the second is the UI state the session is left in. -/
def Pair (sid : PyStr) (o : Outcome) : Prop :=
  ∃ first s', o.result = .ok [first, s'.uiMessage] ∧ o.state.sessions.get? sid = some s' ∧
    (s'.state = .idle ∨ s'.state = .confirm)

theorem pair_finish {s₀ : DeviceSession} {state : UiState} {caption : Option PyStr} {message : ServerMessage}
    {events : List Event} (h : state = .idle ∨ state = .confirm) :
    Pair sid (PipaCore.finish st sid s₀ state caption [message] events) := by
  refine ⟨message, s₀.setState state caption, rfl, ?_, h⟩
  rw [PipaCore.finish_sessions, Dict.get?_set, if_pos rfl]

theorem answerInvocation_pair {tool : PyStr} {callId : Option PyStr} {r : Routed Invocation} :
    Pair sid (PipaCore.answerInvocation st sid s tool callId r) := by
  unfold PipaCore.answerInvocation
  split
  · split
    · exact pair_finish (Or.inl rfl)
    · exact pair_finish (Or.inl rfl)
  · exact pair_finish (Or.inr rfl)
  · exact pair_finish (Or.inl rfl)

theorem runMemory_pair {arguments : Object} {recalls : Bool} :
    Pair sid (core.runMemory st sid s arguments recalls) := by
  unfold PipaCore.runMemory
  split
  · exact pair_finish (Or.inl rfl)
  simp only
  split
  · exact pair_finish (Or.inl rfl)
  · exact pair_finish (Or.inl rfl)

theorem runTool_pair {tool : PyStr} {arguments : Object} {callId digest : Option PyStr} :
    Pair sid (core.runTool st w now token sid s tool arguments callId digest) := by
  unfold PipaCore.runTool
  simp only
  split
  · exact runMemory_pair
  split
  · exact runMemory_pair
  split
  · exact pair_finish (Or.inl rfl)
  · exact answerInvocation_pair

theorem routeTranscript_pair (hu : u.Lawful) (hreads : Reads core u) (hcatalog : CatalogOrError core w) {text : PyStr} :
    Pair sid (core.routeTranscript st w now token sid s text) := by
  unfold PipaCore.routeTranscript
  split
  · exact pair_finish (Or.inl rfl)
  rename_i bounded hbounded
  obtain rfl := PipaCore.validateBoundedText_eq hbounded
  obtain ⟨i, hi⟩ := intentOf_total hu hreads hcatalog hbounded
  rw [hi]
  cases i with
  | none => exact pair_finish (Or.inl rfl)
  | some intent => exact runTool_pair

theorem handleToolCall_pair {name : PyStr} {arguments : Object} {callId digest : Option PyStr} :
    Pair sid (core.handleToolCall st w now token sid s name arguments callId digest) := by
  unfold PipaCore.handleToolCall
  split
  · exact runTool_pair
  · exact pair_finish (Or.inl rfl)

theorem handleConfirm_pair {confirmationId : PyStr} {accepted : Bool} :
    Pair sid (core.handleConfirm st w now sid s confirmationId accepted) := by
  unfold PipaCore.handleConfirm
  simp only
  split
  · split
    · exact pair_finish (Or.inl rfl)
    · exact pair_finish (Or.inl rfl)
  · exact pair_finish (Or.inl rfl)
  · exact pair_finish (Or.inl rfl)

/-- `text_input`, `tool_call` and `confirm`. -/
def IsCommand : ClientMessage → Prop
  | .textInput .. | .toolCall .. | .confirm .. => True
  | _ => False

theorem handleSession_pair (hu : u.Lawful) (hreads : Reads core u) (hcatalog : CatalogOrError core w)
    (hready : s.capabilitiesInitialized = true) {m : ClientMessage} (hm : IsCommand m) :
    Pair sid (core.handleSession st w now token sid s m) := by
  have hgate (hconfirm : s.state = .confirm) :
      Pair sid (reply (st.save sid s) (PipaCore.confirmationRequired s)) :=
    ⟨_, s, rfl, PipaCore.save_get s, Or.inr hconfirm⟩
  cases m with
  | textInput text source =>
    simp only [PipaCore.handleSession, PipaCore.handleGated, hready]
    by_cases hconfirm : s.state = .confirm
    · simpa [hconfirm, PipaCore.passesConfirmGate] using hgate hconfirm
    · simpa [hconfirm, PipaCore.handleReady] using routeTranscript_pair hu hreads hcatalog
  | toolCall name arguments callId digest =>
    simp only [PipaCore.handleSession, PipaCore.handleGated, hready]
    by_cases hconfirm : s.state = .confirm
    · simpa [hconfirm, PipaCore.passesConfirmGate] using hgate hconfirm
    · simpa [hconfirm, PipaCore.handleReady] using handleToolCall_pair
  | confirm confirmationId accepted =>
    simpa [PipaCore.handleSession, PipaCore.handleGated, hready, PipaCore.passesConfirmGate, PipaCore.handleReady]
      using handleConfirm_pair
  | _ => cases hm

theorem get?_pruneStaleSessions {now : Int} (hs : st.sessions.get? sid = some s) (hlive : s.stale now = false) :
    (PipaCore.pruneStaleSessions st now).sessions.get? sid = some s := pruneStale_sessions.mpr ⟨hs, hlive⟩

/-- Every command of a session that is there, initialised and not expired is answered by a message and the
UI state the session is left in, which is `idle` or `confirm`; both keep the contract of `server_message`. -/
theorem command_answered_in_pair (hu : u.Lawful) (hreads : Reads core u) (hcatalog : CatalogOrError core w)
    {clock : Clock} {m : ClientMessage} (hs : st.sessions.get? sid = some s) (hlive : s.stale clock.prune = false)
    (hready : s.capabilitiesInitialized = true) (hm : IsCommand m) :
    ∃ first s', (core.handle st w clock token sid m).result = .ok [first, s'.uiMessage] ∧
      (core.handle st w clock token sid m).state.sessions.get? sid = some s' ∧
      (s'.state = .idle ∨ s'.state = .confirm) ∧ MeetsContract first ∧ MeetsContract s'.uiMessage := by
  have hpruned := get?_pruneStaleSessions hs hlive
  have hpair : Pair sid (core.handle st w clock token sid m) := by
    unfold PipaCore.handle
    simp only [hpruned]
    exact handleSession_pair (s := s.touch clock.touch) hu hreads hcatalog hready hm
  obtain ⟨first, s', hresult, hget, hstate⟩ := hpair
  exact ⟨first, s', hresult, hget, hstate, meets_contract first, meets_contract _⟩

end

theorem mediaAgent_catalog : CatalogOrError mediaAgent.core () := by
  intro commandCatalog hsome
  obtain rfl := Option.some.inj hsome
  obtain ⟨commands, hcommands⟩ := stopCatalog_readable
  obtain ⟨automatic, hvalid⟩ := catalog_ok stopConfig_load hcommands
  exact Or.inl ⟨commands, hcommands, _, hvalid⟩

theorem command_answered_in_pair_stop : ∃ first, ∃ s' : DeviceSession,
    (mediaAgent.core.handle touchState () ⟨0, 0, 0⟩ stopToken touchId (.textInput stopText .touch)).result =
      .ok [first, s'.uiMessage] ∧
    (mediaAgent.core.handle touchState () ⟨0, 0, 0⟩ stopToken touchId (.textInput stopText .touch)).state.sessions.get?
      touchId = some s' ∧
    (s'.state = .idle ∨ s'.state = .confirm) ∧ MeetsContract first ∧ MeetsContract s'.uiMessage :=
  command_answered_in_pair lawful_latin1 ⟨rfl, rfl⟩ mediaAgent_catalog touchState_get rfl rfl trivial

end Pipa.Control
