import Pipa.Core.Redaction
import Pipa.Core.Answers

/- What every message of the Core says and where it comes from. `Said` lists the messages that an
   input can be answered with: a fixed error, an acknowledgement, the echo of a `ping`, the catalog,
   the confirmation just asked for, or a tool result with the call it belongs to. `Reply` puts the
   session's UI state beside them. `Stored` is the history of a pending record: the operation that
   asked for it, read off at any later moment of a run. -/
namespace Pipa.Core
open Pipa.Lib

variable {ω : Type}

/-! ## What the router returned -/

namespace PipaCore
variable {core : PipaCore ω} {w : ω} {now ttl : Int} {token sid tool : PyStr} {args : Object} {p : Pending}
  {ownerId callId digest : Option PyStr} {catalog : ToolCatalog ω}

/-- A completed invocation is a safe handler's. -/
theorem invoke_completed {r : Routed Invocation} {result : Object}
    (h : ToolRouter.invoke catalog ttl now token w p tool args none ownerId callId digest = r)
    (hres : r.result = .ok (.completed result)) :
    ∃ d, catalog.get? tool = some d ∧ d.safety = .safe ∧ d.handler w args = .ok result := by
  obtain ⟨-, -, e, he⟩ | ⟨d, hd, hsafe, -, -, -⟩ | ⟨e, -, -, he⟩ | ⟨d, record, -, -, -, -, -, -, -, -, -, -, -, he⟩ :=
    invoke_cases h
  · rw [he] at hres; cases hres
  · refine ⟨d, hd, hsafe, ?_⟩
    subst h
    unfold ToolRouter.invoke at hres
    simp only [hd, hsafe] at hres
    split at hres
    · cases hres
    rename_i values hvalues
    obtain rfl := ToolDefinition.validateArguments_eq hvalues
    simp only [ToolRouter.complete, ToolRouter.execute] at hres
    cases hh : d.handler w values with
    | error e => rw [hh] at hres; cases hres
    | ok res =>
      rw [hh] at hres
      injection hres with hres
      injection hres with hres
      rw [hres]
  · rw [he] at hres; cases hres
  · rw [he] at hres; cases hres

/-- A record carries the `call_id` and the digest it was asked with. -/
theorem invoke_asked {r : Routed Invocation} {record : PendingConfirmation}
    (h : ToolRouter.invoke catalog ttl now token w p tool args none ownerId callId digest = r)
    (hres : r.result = .ok (.needsConfirmation record)) : record.callId = callId ∧ record.requestDigest = digest := by
  subst h
  unfold ToolRouter.invoke at hres
  split at hres
  · cases hres
  split at hres
  · cases hres
  split at hres
  · unfold ToolRouter.requestConfirmation at hres
    split at hres
    · cases hres
    split at hres
    · cases hres
    split at hres
    · cases hres
    split at hres
    · cases hres
    rename_i hcreate
    obtain ⟨e, he, -⟩ | ⟨r, hr, -, -, -, -, -, -, hcall, hdigest, -⟩ := Pending.create_cases hcreate
    · cases he
    · obtain rfl := Except.ok.inj hr
      injection hres with hres
      injection hres with hres
      subst hres
      exact ⟨hcall, hdigest⟩
  · rename_i hnone
    cases hnone
  · simp only [ToolRouter.complete] at hres
    split at hres
    · cases hres
    · injection hres with hres
      cases hres

/-- A confirmation that was resolved is the one in the store, with the owner's agreement. -/
theorem resolve_ok {cid : PyStr} {accepted : Bool} {r : Routed Resolution} {res : Resolution}
    (h : ToolRouter.resolveConfirmation catalog now w p cid accepted ownerId = r) (hres : r.result = .ok res) :
    ∃ record, p.get? cid = some record ∧ (record.ownerId = none ∨ record.ownerId = ownerId) ∧
      ((accepted = false ∧ res = .rejected record) ∨
       (accepted = true ∧ ∃ d result, catalog.get? record.toolName = some d ∧
        d.handler w record.captured = .ok result ∧ res = .completed record result)) := by
  subst h
  unfold ToolRouter.resolveConfirmation at hres
  split at hres
  · cases hres
  rename_i record p' hc
  obtain ⟨hget, -, howner, -⟩ := Pending.consume_ok hc
  refine ⟨record, hget, howner, ?_⟩
  split at hres
  · rename_i hacc
    refine Or.inr ⟨hacc, ?_⟩
    split at hres
    · cases hres
    rename_i d hd
    split at hres
    · cases hres
    rename_i values hvalues
    obtain rfl := ToolRouter.executionValues_eq hvalues
    simp only [ToolRouter.execute] at hres
    cases hh : d.handler w record.captured with
    | error e => rw [hh] at hres; cases hres
    | ok result =>
      rw [hh] at hres
      exact ⟨d, result, hd, hh, (Except.ok.inj hres).symm⟩
  · rename_i hacc
    exact Or.inl ⟨by simpa using hacc, (Except.ok.inj hres).symm⟩

end PipaCore

/-! ## Fixed texts -/

/-- The captions of `handle` that do not come from a result. -/
def fixedCaptions : List String :=
  ["No se pudo guardar la memoria.", "No he podido ejecutar esa acción.", "La herramienta ha fallado.",
   "Falta la pantalla táctil de confirmación.", "La transcripción no es válida.",
   "Todavía no conozco ese comando.", "La solicitud no es válida.",
   "La confirmación ha caducado o no es válida.", "Acción cancelada.", "La voz aún no está disponible."]

/-- The texts of its errors; an unsupported message names its type instead. -/
def errorTexts : List String :=
  ["Sesión desconocida.", "El dispositivo aún no está listo.",
   "Responde a la confirmación pendiente antes de continuar.", "La voz aún no está disponible.",
   "La solicitud no es válida.", "La confirmación ha caducado o no es válida.", "La herramienta ha fallado.",
   "No he podido ejecutar esa acción.", "La transcripción no es válida.",
   "Comando no reconocido; usa un tool_call o una frase compatible.", "No se pudo guardar la memoria.",
   "La acción requiere pantalla y toque disponibles.", "challenge_request", "hello", "device_hello",
   "catalog_request"]

/-- What a session's caption can be: blank, a fixed text, or that of a handler's result. -/
inductive Captioned (core : PipaCore ω) : Option PyStr → Prop where
  | blank : Captioned core none
  | fixed (t : String) (known : t ∈ fixedCaptions) : Captioned core (some (PyStr.ofString t))
  | result (tool : PyStr) (d : ToolDefinition ω) (w : ω) (arguments result : Object)
      (registered : core.catalog.get? tool = some d) (ran : d.handler w arguments = .ok result) :
      Captioned core (some (safeResultCaption tool result))

/-! ## What is answered -/

/-- The `call_id` of a tool call; a text has none. -/
def Input.callId : Input → Option PyStr
  | .message (.toolCall _ _ callId _) => callId
  | _ => none

def Input.requestDigest : Input → Option PyStr
  | .message (.toolCall _ _ _ requestDigest) => requestDigest
  | _ => none

def isMemoryTool (tool : PyStr) : Bool :=
  tool = PyStr.ofString "remember_fact" || tool = PyStr.ofString "recall_memory"

/-- A message that answers the input of session `s` in `st`; the events of the answer are `events`. -/
inductive Said (core : PipaCore ω) (w : ω) (now : Int) (token : PyStr) (st : State) (s : DeviceSession) (input : Input)
    (events : List Event) : ServerMessage → Prop where
  | error (code : ErrorCode) (text : Option PyStr)
      (known : ∀ t, text = some t → ∃ u ∈ errorTexts, t = PyStr.ofString u) :
      Said core w now token st s input events (.error code text)
  | noted (m : ServerMessage) (known : m = .statusAck ∨ m = .deviceHelloAck ∨ m = .ttsAborted ∨ ∃ g, m = .gestureAck g) :
      Said core w now token st s input events m
  | pong (requestId : Option PyStr) (sent : input = .message (.ping requestId)) :
      Said core w now token st s input events (.pong requestId)
  | listed (commands : List Object) (capabilities : Option Object) (sent : input = .message .catalogRequest)
      (given : catalogResponse core.catalog core.commandCatalog core.capabilityCatalog w =
        [.catalog commands capabilities]) :
      Said core w now token st s input events (.catalog commands capabilities)
  | asked (record : PendingConfirmation) (request : Requested core w now token s input record)
      (callId : record.callId = input.callId) (requestDigest : record.requestDigest = input.requestDigest)
      (created : events = [.created record]) :
      Said core w now token st s input events (confirmRequestOf record)
  | called (d : ToolDefinition ω) (tool : PyStr) (arguments result : Object)
      (asks : input.AsksFor core w tool arguments) (registered : core.catalog.get? tool = some d)
      (safe : d.safety = .safe) (ran : d.handler w arguments = .ok result) :
      Said core w now token st s input events (deviceToolResult tool .completed (some result) input.callId)
  | remembered (tool : PyStr) (arguments result : Object) (asks : input.AsksFor core w tool arguments)
      (memory : isMemoryTool tool = true)
      (stored : tool = PyStr.ofString "remember_fact" →
        (st.memory.remember s.deviceId (core.factOf arguments)).isSome) :
      Said core w now token st s input events (deviceToolResult tool .completed (some result) none)
  | resolved (cid : PyStr) (accepted : Bool) (record : PendingConfirmation) (status : ToolStatus)
      (result : Option Object) (sent : input = .message (.confirm cid accepted))
      (found : st.pending.get? cid = some record) :
      Said core w now token st s input events (deviceToolResult record.toolName status result record.callId)

/-- The caption and the focus timer of a session the Core has written. -/
structure Shown (core : PipaCore ω) (s s' : DeviceSession) : Prop where
  focus : s'.focusRemaining = s.focusRemaining
  caption : Captioned core s'.caption ∨ s'.caption = s.caption

/-- If a confirmation was created, `m` asks for it. -/
def Announced (events : List Event) (m : ServerMessage) : Prop :=
  ∀ record, events = [.created record] → m = confirmRequestOf record

/-- The messages of an outcome: one that says something, the UI state of the saved session, or both. -/
inductive Reply (core : PipaCore ω) (w : ω) (now : Int) (token sid : PyStr) (st : State) (s : DeviceSession)
    (input : Input) (o : Outcome) : Prop where
  | raised (e : Exn) (s' : DeviceSession) (show' : Shown core s s') (saved : o.state.sessions.get? sid = some s')
      (result : o.result = .error e) (quiet : o.events = [])
  | alone (m : ServerMessage) (said : Said core w now token st s input o.events m) (s' : DeviceSession)
      (show' : Shown core s s') (saved : o.state.sessions.get? sid = some s') (result : o.result = .ok [m])
      (quiet : o.events = [])
  | shown (s' : DeviceSession) (show' : Shown core s s') (saved : o.state.sessions.get? sid = some s')
      (result : o.result = .ok [s'.uiMessage]) (quiet : o.events = [])
  | both (m : ServerMessage) (said : Said core w now token st s input o.events m) (announced : Announced o.events m)
      (s' : DeviceSession) (show' : Shown core s s') (saved : o.state.sessions.get? sid = some s')
      (result : o.result = .ok [m, s'.uiMessage])

namespace PipaCore
variable {core : PipaCore ω} {w : ω} {now : Int} {token sid : PyStr} {st st' : State} {s s₀ : DeviceSession}
  {input : Input}

theorem mem_errorTexts {u : String} (h : u ∈ errorTexts) :
    ∀ t, some (PyStr.ofString u) = some t → ∃ u ∈ errorTexts, t = PyStr.ofString u := by
  rintro t ⟨⟩
  exact ⟨u, h, rfl⟩

theorem said_error {events : List Event} (code : ErrorCode) {u : String} (h : u ∈ errorTexts) :
    Said core w now token st s input events (errorMessage code u) := .error _ _ (mem_errorTexts h)

theorem shown_same : Shown core s s := ⟨rfl, Or.inr rfl⟩

theorem announced_nil {m : ServerMessage} : Announced [] m := by
  intro record h
  cases h

/-- Only an invocation that asks for a confirmation creates one. -/
theorem announced_invoke {r : Routed Invocation} {catalog : ToolCatalog ω} {ttl : Int} {p : Pending} {tool : PyStr}
    {args : Object} {ownerId callId digest : Option PyStr} {m : ServerMessage}
    (h : ToolRouter.invoke catalog ttl now token w p tool args none ownerId callId digest = r)
    (hres : ∀ record, r.result ≠ .ok (.needsConfirmation record)) : Announced r.events m := by
  intro record hev
  obtain ⟨-, he, -⟩ | ⟨d, -, -, -, he, -⟩ | ⟨e', -, he, -⟩ | ⟨d, record', -, -, -, -, -, -, -, -, -, -, -, he⟩ :=
    invoke_cases h
  · rw [he] at hev; cases hev
  · rw [he] at hev; cases hev
  · rw [he] at hev; cases hev
  · exact absurd he (hres record')

theorem announced_resolve {r : Routed Resolution} {catalog : ToolCatalog ω} {p : Pending} {cid : PyStr}
    {accepted : Bool} {ownerId : Option PyStr} {m : ServerMessage}
    (h : ToolRouter.resolveConfirmation catalog now w p cid accepted ownerId = r) : Announced r.events m := by
  intro record hev
  obtain ⟨-, he, -⟩ | ⟨record', -, -, -, -, he | ⟨-, he⟩⟩ := resolveConfirmation_cases h
  · rw [he] at hev; cases hev
  · rw [he] at hev; cases hev
  · rw [he] at hev; cases hev

/-- `finish` with one message. -/
theorem reply_finish {u : UiState} {c : Option PyStr} {m : ServerMessage} {es : List Event}
    (hfocus : s₀.focusRemaining = s.focusRemaining) (hc : Captioned core c)
    (said : Said core w now token st s input es m) (announced : Announced es m) :
    Reply core w now token sid st s input (finish st' sid s₀ u c [m] es) :=
  .both m said announced (s₀.setState u c) ⟨hfocus, Or.inl hc⟩ (by simp) rfl

/-- `finish` with the state only. -/
theorem reply_finish_nil {u : UiState} :
    Reply core w now token sid st s input (finish st' sid s u none [] []) :=
  .shown (s.setState u none) ⟨rfl, Or.inl .blank⟩ (by simp) rfl rfl

/-- An error that ends the input without an event. -/
theorem reply_failed {u : UiState} {code : ErrorCode} {caption text : String} (hc : caption ∈ fixedCaptions)
    (ht : text ∈ errorTexts) (hfocus : s₀.focusRemaining = s.focusRemaining) :
    Reply core w now token sid st s input
      (finish st' sid s₀ u (some (PyStr.ofString caption)) [errorMessage code text] []) :=
  reply_finish hfocus (.fixed caption hc) (said_error code ht) announced_nil

theorem captioned {t : String} (h : t ∈ fixedCaptions) : Captioned core (some (PyStr.ofString t)) := .fixed t h

theorem answerInvocation_reply {tool : PyStr} {args : Object} {callId digest : Option PyStr}
    (hid : s₀.sessionId = s.sessionId) (hfocus : s₀.focusRemaining = s.focusRemaining)
    (hcan : ∀ d, core.catalog.get? tool = some d → d.safety = .unsafeTool → canConfirm s = true)
    (asks : input.AsksFor core w tool args) (hcall : input.callId = callId) (hdigest : input.requestDigest = digest) :
    Reply core w now token sid st s input
      (answerInvocation st' sid s₀ tool callId
        (ToolRouter.invoke core.catalog core.ttlSeconds now token w st'.pending tool args none (some s₀.sessionId)
          callId digest)) := by
  generalize hr : ToolRouter.invoke core.catalog core.ttlSeconds now token w st'.pending tool args none
    (some s₀.sessionId) callId digest = r
  unfold answerInvocation
  simp only
  split
  · split
    · exact reply_finish hfocus (captioned (by simp [fixedCaptions])) (said_error _ (by simp [errorTexts]))
        (announced_invoke hr (by simp [*]))
    · exact reply_finish hfocus (captioned (by simp [fixedCaptions])) (said_error _ (by simp [errorTexts]))
        (announced_invoke hr (by simp [*]))
  · rename_i record hres
    obtain ⟨hc, hd'⟩ := invoke_asked hr hres
    obtain ⟨-, -, e, he⟩ | ⟨d, -, -, -, -, he⟩ | ⟨e, -, -, he⟩ |
      ⟨d, record', hd, hunsafe, hval, hprep, h1, h2, h3, h4, h5, hp, hev, he⟩ := invoke_cases hr
    · rw [he] at hres; cases hres
    · obtain ⟨e, he⟩ | ⟨res, he⟩ := he
      · rw [he] at hres; cases hres
      · rw [he] at hres
        injection hres with hres
        cases hres
    · rw [he] at hres; cases hres
    · obtain rfl : record' = record := by
        rw [he] at hres
        injection hres with hres
        injection hres
      refine reply_finish hfocus .blank (.asked record' ?_ (hc.trans hcall.symm) (hd'.trans hdigest.symm) hev) ?_
      refine ⟨h1, h2.trans (by rw [hid]), h5, hcan d hd hunsafe, ?_, d, ?_, hunsafe, ?_, ?_⟩
      · rw [h3, h4]; exact asks
      · rw [h3]; exact hd
      · rw [h4]; exact hval
      · rw [h4]; exact hprep
      · intro record hcreated
        rw [hev] at hcreated
        injection hcreated with hcreated
        injection hcreated with hcreated
        rw [← hcreated]
        rfl
  · rename_i result hres
    obtain ⟨d, hd, hsafe, hran⟩ := invoke_completed hr hres
    subst hcall
    exact reply_finish hfocus (.result tool d w args result hd hran) (.called d tool args result asks hd hsafe hran)
      (announced_invoke hr (by simp [hres]))

theorem runTool_reply {tool : PyStr} {args : Object} {callId digest : Option PyStr}
    (hmemory : st'.memory = st.memory)
    (asks : input.AsksFor core w tool args) (hcall : input.callId = callId) (hdigest : input.requestDigest = digest) :
    Reply core w now token sid st s input (core.runTool st' w now token sid s tool args callId digest) := by
  unfold runTool
  simp only
  split
  · rename_i hname
    subst hname
    simp only [runMemory, Bool.false_eq_true, if_false]
    split
    · exact reply_failed (by simp [fixedCaptions]) (by simp [errorTexts]) rfl
    · rename_i hstored
      refine reply_finish rfl .blank (.remembered _ args _ asks (by simp [isMemoryTool]) ?_) announced_nil
      intro _
      rw [hmemory] at hstored
      exact Option.isSome_of_eq_some hstored
  split
  · rename_i hnot hname
    subst hname
    simp only [runMemory, if_true]
    exact reply_finish rfl .blank (.remembered _ args _ asks (by simp [isMemoryTool]) (fun h => absurd h hnot)) announced_nil
  split
  · exact reply_failed (by simp [fixedCaptions]) (by simp [errorTexts]) rfl
  · rename_i hcaps
    refine answerInvocation_reply rfl rfl ?_ asks hcall hdigest
    intro d hd hunsafe
    have hcan : canConfirm (s.setState .thinking none) = true := by simpa [hd, hunsafe] using hcaps
    exact hcan

theorem routeTranscript_reply {text : PyStr} (hmemory : st'.memory = st.memory)
    (hsaved : st'.sessions.get? sid = some s)
    (asks : ∀ i, core.intentOf w text = .ok (some i) → input.AsksFor core w i.toolName i.arguments)
    (hcall : input.callId = none) (hdigest : input.requestDigest = none) :
    Reply core w now token sid st s input (core.routeTranscript st' w now token sid s text) := by
  unfold routeTranscript
  split
  · exact reply_failed (by simp [fixedCaptions]) (by simp [errorTexts]) rfl
  · rename_i bounded hb
    obtain rfl := validateBoundedText_eq hb
    split
    · exact .raised _ s shown_same hsaved rfl rfl
    · exact reply_failed (by simp [fixedCaptions]) (by simp [errorTexts]) rfl
    · rename_i i hi
      exact runTool_reply hmemory (asks i hi) hcall hdigest

theorem handleToolCall_reply {name : PyStr} {args : Object} {callId digest : Option PyStr}
    (hmemory : st'.memory = st.memory)
    (sent : input = .message (.toolCall name args callId digest)) :
    Reply core w now token sid st s input (core.handleToolCall st' w now token sid s name args callId digest) := by
  unfold handleToolCall
  subst sent
  split
  · exact runTool_reply hmemory ⟨rfl, rfl⟩ rfl rfl
  · exact reply_failed (by simp [fixedCaptions]) (by simp [errorTexts]) rfl

theorem handleConfirm_reply {cid : PyStr} {accepted : Bool} (hpending : st'.pending = st.pending)
    (sent : input = .message (.confirm cid accepted)) :
    Reply core w now token sid st s input (core.handleConfirm st' w now sid s cid accepted) := by
  unfold handleConfirm
  rw [hpending]
  generalize hr : ToolRouter.resolveConfirmation core.catalog now w st.pending cid accepted (some s.sessionId) = r
  simp only
  split
  · split
    · exact reply_finish rfl (captioned (by simp [fixedCaptions])) (said_error _ (by simp [errorTexts])) (announced_resolve hr)
    · exact reply_finish rfl (captioned (by simp [fixedCaptions])) (said_error _ (by simp [errorTexts])) (announced_resolve hr)
  · rename_i record hres
    obtain ⟨record', hget, -, ⟨-, heq⟩ | ⟨-, d, result, -, -, heq⟩⟩ := resolve_ok hr hres
    · injection heq with heq
      subst heq
      exact reply_finish rfl (captioned (by simp [fixedCaptions])) (.resolved cid accepted record _ _ sent hget)
        (announced_resolve hr)
    · cases heq
  · rename_i record result hres
    obtain ⟨record', hget, -, ⟨-, heq⟩ | ⟨-, d, result', hd, hran, heq⟩⟩ := resolve_ok hr hres
    · cases heq
    · injection heq with heq hresult
      subst heq hresult
      exact reply_finish rfl (.result _ d w _ result hd hran) (.resolved cid accepted record _ _ sent hget)
        (announced_resolve hr)

theorem handleReady_reply {m : ClientMessage} (late : isPreHello m = true → m = .abort) :
    Reply core w now token sid st s (.message m) (core.handleReady st w now token sid s m) := by
  have refused {t : String} (h : t ∈ errorTexts) :
      Reply core w now token sid st s (.message m)
        (reply (st.save sid s) [.error .unsupportedMessage (some (PyStr.ofString t))]) :=
    .alone _ (.error _ _ (mem_errorTexts h)) s shown_same (save_get s) rfl rfl
  cases m with
  | wake => exact reply_finish_nil
  | holdStart => exact reply_finish_nil
  | holdEnd => exact reply_failed (by simp [fixedCaptions]) (by simp [errorTexts]) rfl
  | audioEnd => exact reply_failed (by simp [fixedCaptions]) (by simp [errorTexts]) rfl
  | abort => exact reply_finish rfl .blank (.noted _ (by simp)) announced_nil
  | gesture g => exact .alone _ (.noted _ (by simp)) s shown_same (save_get s) rfl rfl
  | textInput text source =>
    exact routeTranscript_reply rfl (save_get _) (fun i hi => ⟨i, hi, rfl, rfl⟩) rfl rfl
  | toolCall name args callId digest => exact handleToolCall_reply rfl rfl
  | confirm cid accepted => exact handleConfirm_reply rfl rfl
  | challengeRequest _ => exact refused (by simp [errorTexts])
  | hello _ _ _ _ _ => exact refused (by simp [errorTexts])
  | catalogRequest => exact refused (by simp [errorTexts])
  | deviceHello _ _ => exact refused (by simp [errorTexts])
  | ping _ => cases late rfl
  | deviceStatus _ _ _ => cases late rfl

/-- Too early, or in the way of a pending confirmation. -/
theorem reply_early :
    Reply core w now token sid st s input
      (reply (st.save sid s) [errorMessage .deviceHelloRequired "El dispositivo aún no está listo."]) :=
  .alone _ (said_error _ (by simp [errorTexts])) s shown_same (save_get s) rfl rfl

theorem reply_blocked : Reply core w now token sid st s input (reply (st.save sid s) (confirmationRequired s)) :=
  .both _ (said_error _ (by simp [errorTexts])) announced_nil s shown_same (save_get s) rfl

theorem handleGated_reply {m : ClientMessage} (late : isPreHello m = true → m = .abort) :
    Reply core w now token sid st s (.message m) (core.handleGated st w now token sid s m) := by
  unfold handleGated
  split
  · exact reply_early
  split
  · obtain ⟨commands, capabilities, heq⟩ | heq :=
      catalogResponse_cases core.catalog core.commandCatalog core.capabilityCatalog w
    · rw [heq]
      exact .alone _ (.listed _ _ rfl heq) s shown_same (save_get s) rfl rfl
    · rw [heq]
      exact .alone _ (.error _ _ (by simp)) s shown_same (save_get s) rfl rfl
  split
  · exact reply_blocked
  · exact handleReady_reply late

/-- Nothing but the replies above is given to a message of a registered session. -/
theorem handleSession_reply {m : ClientMessage} :
    Reply core w now token sid st s (.message m) (core.handleSession st w now token sid s m) := by
  cases m with
  | ping requestId => exact .alone _ (.pong requestId rfl) s shown_same (save_get s) rfl rfl
  | deviceStatus a b c =>
    exact .alone _ (.noted _ (by simp)) { s with audioState := a, batteryPercent := b, wifiRssi := c }
      ⟨rfl, Or.inr rfl⟩ (save_get _) rfl rfl
  | deviceHello v c =>
    simp only [handleSession]
    split
    · exact .alone _ (.error _ _ (by simp)) s shown_same (save_get s) rfl rfl
    · exact .alone _ (.noted _ (by simp))
        { s with firmwareVersion := v, capabilities := c, capabilitiesInitialized := true }
        ⟨rfl, Or.inr rfl⟩ (save_get _) rfl rfl
  | _ => exact handleGated_reply (by simp [isPreHello])

/-- The same for a transcript. -/
theorem handleTranscript_reply {clock : Clock} {text : PyStr} (hs : st.sessions.get? sid = some s₀) :
    Reply core w clock.act token sid st (s₀.touch clock.touch) (.transcript text)
      (core.handleTranscript st w clock token sid text) := by
  simp only [handleTranscript, hs]
  split
  · exact reply_early
  split
  · exact reply_blocked
  · exact routeTranscript_reply rfl (save_get _) (fun i hi => ⟨i, hi, rfl, rfl⟩) rfl rfl

end PipaCore

/-! ## Runs -/

/-- The messages of an outcome; an exception gives none. -/
def Outcome.messages (o : Outcome) : List ServerMessage :=
  match o.result with
  | .ok messages => messages
  | .error _ => []

section
variable {core : PipaCore ω} {w : ω} {now : Int} {token sid : PyStr} {st : State} {s : DeviceSession} {input : Input}
  {o : Outcome} {m : ServerMessage}

/-- A message of a reply says something or is the session's UI state. -/
theorem Reply.mem (h : Reply core w now token sid st s input o) (hm : m ∈ o.messages) :
    Said core w now token st s input o.events m ∨
      ∃ s', Shown core s s' ∧ o.state.sessions.get? sid = some s' ∧ m = s'.uiMessage := by
  unfold Outcome.messages at hm
  cases h with
  | raised e s' show' saved result quiet =>
    rw [result] at hm
    cases hm
  | alone m' said s' show' saved result quiet =>
    rw [result, List.mem_singleton] at hm
    exact Or.inl (hm ▸ said)
  | shown s' show' saved result quiet =>
    rw [result, List.mem_singleton] at hm
    exact Or.inr ⟨s', show', saved, hm⟩
  | both m' said announced s' show' saved result =>
    rw [result] at hm
    obtain rfl | hm := List.mem_cons.mp hm
    · exact Or.inl said
    · exact Or.inr ⟨s', show', saved, List.mem_singleton.mp hm⟩

/-- After a reply the session is there, with a caption of its own or the one it had. -/
theorem Reply.shown_after (h : Reply core w now token sid st s input o) :
    ∃ s', Shown core s s' ∧ o.state.sessions.get? sid = some s' := by
  cases h with
  | raised e s' show' saved result quiet => exact ⟨s', show', saved⟩
  | alone m' said s' show' saved result quiet => exact ⟨s', show', saved⟩
  | shown s' show' saved result quiet => exact ⟨s', show', saved⟩
  | both m' said announced s' show' saved result => exact ⟨s', show', saved⟩

/-- A confirmation that was created has been asked for, under the `call_id` and the digest of the input. -/
theorem Reply.created (h : Reply core w now token sid st s input o) {record : PendingConfirmation}
    (hev : o.events = [.created record]) :
    record.callId = input.callId ∧ record.requestDigest = input.requestDigest ∧
      confirmRequestOf record ∈ o.messages := by
  cases h with
  | raised e s' show' saved result quiet => rw [quiet] at hev; cases hev
  | alone m' said s' show' saved result quiet => rw [quiet] at hev; cases hev
  | shown s' show' saved result quiet => rw [quiet] at hev; cases hev
  | both m' said announced s' show' saved result =>
    have hm : m' = confirmRequestOf record := announced record hev
    have hmem : confirmRequestOf record ∈ o.messages := by
      unfold Outcome.messages
      rw [result, hm]
      exact List.mem_cons_self
    cases said with
    | asked record' request callId requestDigest created =>
      rw [hev] at created
      injection created with created
      injection created with created
      subst created
      exact ⟨callId, requestDigest, hmem⟩
    | noted _ known =>
      rw [hm] at known
      obtain h | h | h | ⟨g, h⟩ := known <;> cases h
    | _ => cases hm

end

/-- The state an input finds: `handle` prunes the registry first. -/
def Op.base (st : State) : Op ω → State
  | .handle _ _ _ _ clock => PipaCore.pruneStaleSessions st clock.prune
  | _ => st

/-- The input of an operation is refused, or answered with what the state then is. -/
theorem Op.apply_reply (core : PipaCore ω) (st : State) {op : Op ω} {sid : PyStr} {input : Input} {w : ω}
    {token : PyStr} (given : op.input? = some (sid, input, w, token)) :
    ((op.apply core st).result = .ok [PipaCore.unknownSession] ∧ (op.apply core st).events = [] ∧
      (op.apply core st).state = op.base st) ∨
    ∃ s, (op.base st).sessions.get? sid = some s ∧
      Reply core w op.clock.act token sid (op.base st) (s.touch op.clock.touch) input (op.apply core st) := by
  cases op with
  | handle sid' m w' token' c =>
    simp only [Op.input?, Option.some.injEq, Prod.mk.injEq] at given
    obtain ⟨rfl, rfl, rfl, rfl⟩ := given
    cases hs : (PipaCore.pruneStaleSessions st c.prune).sessions.get? sid' with
    | none =>
      refine Or.inl ?_
      simp [Op.apply, PipaCore.handle, hs, reply, Op.base]
    | some s =>
      refine Or.inr ⟨s, hs, ?_⟩
      simp only [Op.apply, PipaCore.handle, Op.clock, hs]
      exact PipaCore.handleSession_reply
  | handleTranscript sid' text w' token' c =>
    simp only [Op.input?, Option.some.injEq, Prod.mk.injEq] at given
    obtain ⟨rfl, rfl, rfl, rfl⟩ := given
    cases hs : st.sessions.get? sid' with
    | none =>
      refine Or.inl ?_
      simp [Op.apply, PipaCore.handleTranscript, hs, reply, Op.base]
    | some s => exact Or.inr ⟨s, hs, PipaCore.handleTranscript_reply hs⟩
  | authenticate _ _ _ _ _ => cases given
  | create _ _ _ _ _ _ => cases given
  | close _ _ => cases given

theorem Op.token_of_input {op : Op ω} {sid : PyStr} {input : Input} {w : ω} {token : PyStr}
    (given : op.input? = some (sid, input, w, token)) :
    op.confirmationToken = some token := by
  cases op with
  | handle _ _ _ _ _ =>
    simp only [Op.input?, Option.some.injEq, Prod.mk.injEq] at given
    simp [Op.confirmationToken, given.2.2.2]
  | handleTranscript _ _ _ _ _ =>
    simp only [Op.input?, Option.some.injEq, Prod.mk.injEq] at given
    simp [Op.confirmationToken, given.2.2.2]
  | _ => cases given

theorem machine_out (core : PipaCore ω) (pre : List (Op ω)) (op : Op ω) :
    (machine core).out pre op = op.apply core ((machine core).run pre) := rfl

/-- The sessions of a state show captions of the Core's own making. -/
def Captions (core : PipaCore ω) (st : State) : Prop :=
  ∀ sid s, st.sessions.get? sid = some s → Captioned core s.caption ∧ s.focusRemaining = none

theorem Captions.pruned {core : PipaCore ω} {st base : State} {now : Int} (h : Captions core st)
    (hb : base = st ∨ base = PipaCore.pruneStaleSessions st now) : Captions core base :=
  fun sid s hs => h sid s (of_pruned_sessions hb hs)

/-- A new session shows nothing. -/
theorem created_blank {r : SessionRegistry} {token dev sid : PyStr} {fw : Option PyStr} {caps : List PyStr} {init : Bool}
    {now : Int} {s : DeviceSession} (hs : (r.create token dev fw caps init now).1.get? sid = some s) :
    r.get? sid = some s ∨ (s.caption = none ∧ s.focusRemaining = none) := by
  unfold SessionRegistry.create at hs
  simp only at hs
  split at hs
  · exact Or.inl (get?_prune_sessions.mp hs).1
  split at hs
  · exact Or.inl (get?_prune_sessions.mp hs).1
  · obtain ⟨-, rfl⟩ | ⟨-, hold⟩ := Dict.get?_set_some.mp hs
    · exact Or.inr ⟨rfl, rfl⟩
    · exact Or.inl (get?_prune_sessions.mp hold).1

theorem Captions.step {core : PipaCore ω} {st : State} (h : Captions core st) (op : Op ω) :
    Captions core (op.apply core st).state := by
  intro sid s hs
  cases Op.apply_turn core st op with
  | kept base pruned state events =>
    rw [state] at hs
    exact h.pruned pruned sid s hs
  | opened base pruned token dev fw caps init drawn sessions pending events =>
    rw [sessions] at hs
    obtain hold | ⟨hcaption, hfocus⟩ := created_blank hs
    · exact h.pruned pruned sid s hold
    · rw [hcaption]
      exact ⟨.blank, hfocus⟩
  | input base pruned sid' input w token given s₀ registered effect =>
    obtain ⟨s', -, hsessions⟩ := effect.session
    by_cases hsid : sid = sid'
    · subst hsid
      have hbase : op.base st = st ∨ op.base st = PipaCore.pruneStaleSessions st op.clock.prune := by
        cases op with
        | handle sid m w token clock => exact Or.inr rfl
        | _ => exact Or.inl rfl
      obtain ⟨-, -, hstate⟩ | ⟨s₁, hs₁, hreply⟩ := Op.apply_reply core st given
      · rw [hstate] at hs
        exact h.pruned hbase sid s hs
      · obtain ⟨hcaption, hfocus⟩ := h.pruned hbase sid s₁ hs₁
        obtain ⟨s₂, ⟨hsame, hshown⟩, hs₂⟩ := hreply.shown_after
        obtain rfl := Option.some.inj (hs.symm.trans hs₂)
        refine ⟨?_, hsame.trans hfocus⟩
        obtain hnew | hkept := hshown
        · exact hnew
        · exact hkept ▸ hcaption
    · rw [hsessions, Dict.get?_set, if_neg hsid] at hs
      exact h.pruned pruned sid s hs
  | closed sid' c given sessions pending events =>
    rw [sessions] at hs
    exact h sid s (Dict.get?_erase_some.mp hs).2

theorem captions (core : PipaCore ω) (ops : List (Op ω)) : Captions core ((machine core).run ops) := by
  have hall : (machine core).Along (fun _ _ => True) ops := fun _ _ _ _ => trivial
  refine Machine.inv_along ?_ (fun st op h _ => h.step op) hall
  intro sid s hs
  simp [machine, State.initial] at hs

/-- Operation `op`, taken after `pre`, asked for the confirmation `r` under the id `k`. -/
def Asked (core : PipaCore ω) (pre : List (Op ω)) (op : Op ω) (k : PyStr) (r : PendingConfirmation) : Prop :=
  ∃ sid input w s, op.input? = some (sid, input, w, k) ∧ Requested core w op.clock.act k s input r ∧
    r.callId = input.callId ∧ r.requestDigest = input.requestDigest ∧
    confirmRequestOf r ∈ ((machine core).out pre op).messages

section
variable {core : PipaCore ω} {st : State} {k : PyStr} {r : PendingConfirmation}

theorem foldl_cancel_le (ids : List PyStr) (st : State)
    (h : (ids.foldl State.cancelPending st).pending.get? k = some r) : st.pending.get? k = some r := by
  induction ids generalizing st with
  | nil => exact h
  | cons a ids ih => exact Pending.cancelForOwner_le (ih _ h)

theorem pruneStale_le {now : Int} (h : (PipaCore.pruneStaleSessions st now).pending.get? k = some r) :
    st.pending.get? k = some r := by
  have hkept := foldl_cancel_le _ _ h
  exact hkept

theorem Op.base_le {op : Op ω} (h : (op.base st).pending.get? k = some r) : st.pending.get? k = some r := by
  cases op with
  | handle _ _ _ _ clock => exact pruneStale_le h
  | _ => exact h

/-- An operation adds no record but the one it asks for. -/
theorem Op.apply_pending {pre : List (Op ω)} {op : Op ω}
    (h : (op.apply core ((machine core).run pre)).state.pending.get? k = some r) :
    ((machine core).run pre).pending.get? k = some r ∨ Asked core pre op k r := by
  have unpruned {base : State} {now : Int}
      (hb : base = (machine core).run pre ∨ base = PipaCore.pruneStaleSessions ((machine core).run pre) now)
      (hr : base.pending.get? k = some r) : ((machine core).run pre).pending.get? k = some r := by
    obtain rfl | rfl := hb
    · exact hr
    · exact pruneStale_le hr
  cases Op.apply_turn core ((machine core).run pre) op with
  | kept base pruned state events => exact Or.inl (unpruned pruned (state ▸ h))
  | opened base pruned token dev fw caps init drawn sessions pending events =>
    exact Or.inl (unpruned pruned (pending ▸ h))
  | input base pruned sid input w token given s registered effect =>
    obtain hold | ⟨rfl, -, request, hev⟩ := effect.pending_cases h
    · exact Or.inl (unpruned pruned hold)
    · obtain ⟨-, hquiet, -⟩ | ⟨s', -, hreply⟩ :=
        Op.apply_reply core ((machine core).run pre) given
      · rw [hquiet] at hev
        cases hev
      · obtain ⟨hcall, hdigest, hmem⟩ := hreply.created hev
        exact Or.inr ⟨sid, input, w, _, given, request, hcall, hdigest, hmem⟩
  | closed sid c given sessions pending events => exact Or.inl (Pending.cancelForOwner_le (pending ▸ h))

/-- Every pending record was asked for by an operation of the run. -/
theorem stored_asked (core : PipaCore ω) (ops : List (Op ω)) (h : ((machine core).run ops).pending.get? k = some r) :
    ∃ pre op post, ops = pre ++ op :: post ∧ Asked core pre op k r := by
  induction ops using List.reverseRecOn with
  | nil => simp [machine, State.initial] at h
  | append_singleton pre op ih =>
    rw [Machine.run_concat] at h
    obtain hold | hasked := Op.apply_pending h
    · obtain ⟨pre', op', post, rfl, hasked⟩ := ih hold
      exact ⟨pre', op', post ++ [op], by simp, hasked⟩
    · exact ⟨pre, op, [], rfl, hasked⟩

/-- Confirmation ids are drawn once: two operations of a run that drew the same are one. -/
theorem FreshConfirmations.unique {ops pre pre' post post' : List (Op ω)} {op op' : Op ω}
    (hfresh : FreshConfirmations ops) (h : ops = pre ++ op :: post) (h' : ops = pre' ++ op' :: post')
    (hk : op.confirmationToken = some k) (hk' : op'.confirmationToken = some k) : pre = pre' ∧ op = op' := by
  have drawn {a b : List (Op ω)} {x : Op ω} (hx : x.confirmationToken = some k) :
      k ∈ confirmationTokens (a ++ x :: b) := by
    rw [confirmationTokens, List.mem_filterMap]
    exact ⟨x, by simp, hx⟩
  have apart {a b c : List (Op ω)} {x y : Op ω} (hx : x.confirmationToken = some k) (hy : y.confirmationToken = some k)
      (hsplit : ops = (a ++ x :: b) ++ y :: c) : False := by
    rw [hsplit, FreshConfirmations, confirmationTokens, List.filterMap_append, List.filterMap_cons, hy,
      List.nodup_append] at hfresh
    exact hfresh.2.2 k (drawn hx) k List.mem_cons_self rfl
  obtain ⟨later, hpre, -⟩ | ⟨mid, hmid, hpre⟩ := append_eq_split (h.symm.trans h')
  · exact (apart hk' hk (by rw [h, hpre])).elim
  · cases mid with
    | nil =>
      obtain ⟨rfl, -⟩ := List.cons.inj hmid
      exact ⟨by simpa using hpre.symm, rfl⟩
    | cons x mid =>
      obtain ⟨rfl, -⟩ := List.cons.inj hmid
      exact (apart hk hk' (by rw [h', hpre])).elim

end

end Pipa.Core
