import Pipa.Core.Catalog

/- `PipaCore` (`core.py`): one function for each method, over an explicit state.

   What the Core is built from is `PipaCore ω`: the registered tools, the TTL of
   its confirmation manager, the catalog callables, and three functions of other
   modules that the results below do not depend on (`parse_catalog_intent`,
   `parse_text_intent` and `compute_request_digest`; `str` is Python's `str()`).
   The state is the session registry, the confirmation store and the memory.

   A method returns an `Outcome`: the state it leaves, its messages or the
   exception that escapes it, and the events of the store and the router. -/
namespace Pipa.Core
open Pipa.Lib

structure ParsedIntent where
  toolName : PyStr
  arguments : Object

structure PipaCore (ω : Type) where
  catalog : ToolCatalog ω
  ttlSeconds : Int
  ttl_pos : 1 ≤ ttlSeconds
  ttl_le : ttlSeconds ≤ 300
  commandCatalog : Option (ω → Except Exn (List Object))
  capabilityCatalog : Option (ω → Except Exn Value)
  commandCatalogAuthoritative : Bool
  parseCatalogIntent : PyStr → List Object → Except Exn (Option ParsedIntent)
  parseTextIntent : PyStr → Except Exn (Option ParsedIntent)
  computeRequestDigest : PyStr → Object → Except Exn PyStr
  str : Value → PyStr

structure State where
  sessions : SessionRegistry
  pending : Pending
  memory : MemoryStore

def State.initial : State := ⟨Dict.empty, Dict.empty, Dict.empty⟩

/-- Write back the session object registered under `sid`. -/
def State.save (st : State) (sid : PyStr) (s : DeviceSession) : State :=
  { st with sessions := st.sessions.set sid s }

def State.cancelPending (st : State) (ownerId : PyStr) : State :=
  { st with pending := st.pending.cancelForOwner ownerId }

structure Outcome where
  state : State
  result : Except Exn (List ServerMessage)
  events : List Event

/-- Plain answer: no event. -/
def reply (st : State) (messages : List ServerMessage) : Outcome := ⟨st, .ok messages, []⟩

def errorMessage (code : ErrorCode) (text : String) : ServerMessage :=
  .error code (some (PyStr.ofString text))

/-! ## What a device may see of a tool -/

/-- `_DEVICE_CONFIRMATION_SUMMARIES`. -/
def deviceConfirmationSummaries : List (String × String) :=
  [("open_app", "Abrir una aplicación configurada."),
   ("open_codex", "Abrir Codex."),
   ("web_search", "Buscar en Internet."),
   ("music_search", "Buscar en Apple Music."),
   ("music_open", "Abrir Apple Music."),
   ("league_open", "Abrir League of Legends."),
   ("discord_open_app", "Abrir Discord."),
   ("discord_open", "Abrir un canal de Discord."),
   ("discord_call_channel", "Preparar una llamada de Discord; el inicio será manual."),
   ("discord_contact", "Abrir un contacto de Discord."),
   ("discord_call", "Preparar una llamada de Discord; el inicio será manual."),
   ("whatsapp_compose", "Preparar o enviar un mensaje de WhatsApp según la configuración local."),
   ("whatsapp_contact", "Preparar o enviar un mensaje de WhatsApp según la configuración local."),
   ("whatsapp_contact_open", "Abrir un chat de WhatsApp."),
   ("whatsapp_phone_open", "Abrir un chat de WhatsApp."),
   ("whatsapp_open", "Abrir WhatsApp Web."),
   ("league_search", "Buscar una partida en League."),
   ("league_cancel", "Cancelar la búsqueda de League."),
   ("system_lock", "Bloquear el ordenador."),
   ("open_url", "Abrir una URL validada.")]

/-- A table of texts by tool name, with a default. -/
def textFor (table : List (String × String)) (default : String) (toolName : PyStr) : String :=
  ((table.find? (fun e => PyStr.ofString e.1 = toolName)).map Prod.snd).getD default

/-- `_device_confirmation_summary`. -/
def deviceConfirmationSummary (toolName : PyStr) : String :=
  textFor deviceConfirmationSummaries "Confirmar acción externa." toolName

/-- `_device_tool_result`. -/
def deviceToolResult (toolName : PyStr) (status : ToolStatus) (result : Option Object)
    (callId : Option PyStr) : ServerMessage :=
  let failed := result.any (fun r => (r.get? (PyStr.ofString "success")).any Value.isFalse)
  .toolResult toolName status (status == .completed && !failed) callId

/-- The fixed captions of `_safe_result_caption`. -/
def resultCaptions : List (String × String) :=
  [("system_status", "Estado del ordenador consultado."),
   ("integration_status", "Estado de integraciones consultado."),
   ("system_network", "Estado de red consultado."),
   ("web_search", "Búsqueda web abierta."),
   ("music_open", "Apple Music abierto."),
   ("music_search", "Búsqueda musical abierta; elige la pista."),
   ("whatsapp_open", "WhatsApp abierto."),
   ("whatsapp_compose", "Chat preparado; pulsa Enviar."),
   ("whatsapp_contact", "Chat preparado; pulsa Enviar."),
   ("whatsapp_contact_open", "Chat de WhatsApp abierto."),
   ("whatsapp_phone_open", "Chat de WhatsApp abierto."),
   ("discord_open_app", "Discord abierto."),
   ("discord_open", "Canal abierto; inicia la llamada."),
   ("discord_call_channel", "Canal de llamada abierto; pulsa Llamar."),
   ("discord_contact", "Canal abierto; inicia la llamada."),
   ("discord_call", "Canal de llamada abierto; pulsa Llamar."),
   ("league_open", "League of Legends abierto."),
   ("league_cancel", "Búsqueda de partida cancelada."),
   ("timer_create", "Temporizador creado."),
   ("timer_cancel", "Temporizador cancelado."),
   ("media_action", "Control multimedia enviado."),
   ("open_url", "URL abierta en el navegador."),
   ("open_app", "Aplicación abierta."),
   ("system_lock", "Ordenador bloqueado.")]

/-- An integer between 0 and 100, not a boolean. -/
def percentage? (v : Option Value) : Option Int :=
  match v.bind Value.asInt? with
  | some n => if 0 ≤ n ∧ n ≤ 100 then some n else none
  | none => none

/-- The captions that depend on the result, in the order `_safe_result_caption` tries
them; nothing is left to the table. -/
def resultCaption? (toolName : PyStr) (result : Object) : Option String :=
  let get (k : String) : Option Value := result.get? (PyStr.ofString k)
  let is (t : String) : Bool := toolName = PyStr.ofString t
  let isTrue (k : String) : Bool := (get k).any Value.isTrue
  let isFalse (k : String) : Bool := (get k).any Value.isFalse
  let truthy (k : String) : Bool := (get k).any Value.truthy
  if isFalse "success" then some "No se pudo completar la acción."
  else if (is "whatsapp_compose" || is "whatsapp_contact") && isTrue "sent" then
    some "Mensaje de WhatsApp enviado."
  else if is "system_power" then
    if isFalse "available" then some "Batería no disponible en este PC."
    else match percentage? (get "percent") with
      | some p =>
        some ("Batería: " ++ toString p ++ "%; " ++
          (if isTrue "plugged" then "conectado a corriente" else "sin corriente") ++ ".")
      | none => some "Estado de batería consultado."
  else if is "audio_volume" then
    (percentage? (get "volume")).map (fun v => "Volumen: " ++ toString v ++ "%.")
  else if is "audio_mute" || is "audio_unmute" then
    match get "muted" with
    | some (.bool muted) => some (if muted then "Audio silenciado." else "Audio activado.")
    | _ => none
  else if is "timer_list" then
    match get "timers" with
    | some (.list timers) => some ("Temporizadores registrados: " ++ toString timers.length ++ ".")
    | _ => none
  else if is "league_search_status" then
    if isFalse "supported" then some "El estado de búsqueda de League no está disponible."
    else if isTrue "match_found" then some "League ha encontrado una partida; acéptala manualmente."
    else if isTrue "searching" then some "League está buscando partida."
    else match get "state" with
      | some (.str s) =>
        if s = PyStr.ofString "unknown" then
          some "No se pudo confirmar el estado de búsqueda de League."
        else some "League no está buscando partida."
      | _ => some "League no está buscando partida."
  else if is "league_status" then
    match get "search" with
    | some (.dict search) =>
      let flag (k : String) : Option Value := Object.get? search (PyStr.ofString k)
      if (flag "match_found").any Value.isTrue then
        some "League ha encontrado una partida; acéptala manualmente."
      else if (flag "searching").any Value.isTrue then some "League está buscando partida."
      else if (flag "supported").any Value.isFalse then
        some "League listo; matchmaking no disponible."
      else some "Estado de League consultado."
    | _ => some "Estado de League consultado."
  else if is "league_search" then
    if truthy "already_searching" then some "Ya había una búsqueda activa."
    else if truthy "started" then some "Búsqueda de partida iniciada."
    else none
  else if is "league_wait" then
    if isTrue "found" then some "League ha encontrado una partida; acéptala manualmente."
    else if isTrue "timed_out" then
      some "No apareció una partida durante el tiempo indicado; la búsqueda sigue activa."
    else if isFalse "searching" then some "League ya no está buscando partida."
    else none
  else if is "league_cancel" && isTrue "already_not_searching" then
    some "League no estaba buscando partida."
  else none

/-- `_safe_result_caption`. -/
def safeResultCaption (toolName : PyStr) (result : Object) : PyStr :=
  PyStr.ofString ((resultCaption? toolName result).getD
    (textFor resultCaptions "Acción completada." toolName))

/-! ## The methods -/

namespace PipaCore
variable {ω : Type} (core : PipaCore ω)

/-- `CONFIRMATION_CAPABILITIES.issubset(session.capabilities)`. -/
def canConfirm (s : DeviceSession) : Bool :=
  PyStr.ofString "display" ∈ s.capabilities && PyStr.ofString "touch" ∈ s.capabilities

/-- `_prune_stale_sessions`. -/
def pruneStaleSessions (st : State) (now : Int) : State :=
  let (sessions, expired) := st.sessions.prune now
  expired.foldl State.cancelPending { st with sessions := sessions }

/-- `close`. -/
def close (st : State) (sid : PyStr) : Outcome :=
  let st := st.cancelPending sid
  reply { st with sessions := st.sessions.erase sid } []

/-- `sessions.create`, as `SecureCoreConnection` calls it. A `SessionLimitError` is
left to the caller. -/
def createSession (st : State) (token deviceId : PyStr) (firmwareVersion : Option PyStr)
    (capabilities : List PyStr) (capabilitiesInitialized : Bool) (now : Int) : Outcome :=
  match st.sessions.create token deviceId firmwareVersion capabilities capabilitiesInitialized now with
  | (sessions, some _) => reply { st with sessions := sessions } []
  | (sessions, none) => ⟨{ st with sessions := sessions }, .error .valueError, []⟩

/-- `authenticate`; `verified` is what the verifier made of the signed challenge. -/
def authenticate (st : State) (verified : Except Exn PyStr) (token : PyStr)
    (firmwareVersion : Option PyStr) (capabilities : List PyStr) (clock : Clock) : Outcome :=
  let st := pruneStaleSessions st clock.prune
  match verified with
  | .error e => ⟨st, .error e, []⟩
  | .ok deviceId => createSession st token deviceId firmwareVersion capabilities true clock.act

/-- Leave the session in `state` with `caption` and answer `messages` and the new UI state. -/
def finish (st : State) (sid : PyStr) (s : DeviceSession) (state : UiState) (caption : Option PyStr)
    (messages : List ServerMessage) (events : List Event) : Outcome :=
  let s := s.setState state caption
  ⟨st.save sid s, .ok (messages ++ [s.uiMessage]), events⟩

/-- `remember_fact` and `recall_memory`, which `_run_tool` answers itself. -/
def runMemory (st : State) (sid : PyStr) (s : DeviceSession) (arguments : Object) (recalls : Bool) :
    Outcome :=
  if recalls then
    finish st sid s .idle none
      [deviceToolResult (PyStr.ofString "recall_memory") .completed
        (some (st.memory.recallMemory s.deviceId)) none] []
  else
    let fact := match arguments.get? (PyStr.ofString "fact") with
      | none => []
      | some v => core.str v
    match st.memory.remember s.deviceId fact with
    | none =>
      finish st sid s .idle (some (PyStr.ofString "No se pudo guardar la memoria."))
        [errorMessage .memoryFailed "No se pudo guardar la memoria."] []
    | some (memory, result) =>
      finish { st with memory := memory } sid s .idle none
        [deviceToolResult (PyStr.ofString "remember_fact") .completed (some result) none] []

/-- What `_run_tool` answers once the router has returned. -/
def answerInvocation (st : State) (sid : PyStr) (s : DeviceSession) (toolName : PyStr)
    (callId : Option PyStr) (routed : Routed Invocation) : Outcome :=
  let st := { st with pending := routed.pending }
  match routed.result with
  | .error e =>
    if e.isRefusal then
      finish st sid s .idle (some (PyStr.ofString "No he podido ejecutar esa acción."))
        [errorMessage .toolFailed "No he podido ejecutar esa acción."] routed.events
    else
      finish st sid s .idle (some (PyStr.ofString "La herramienta ha fallado."))
        [errorMessage .toolFailed "La herramienta ha fallado."] routed.events
  | .ok (.needsConfirmation record) =>
    finish st sid s .confirm none
      [.confirmRequest record.confirmationId record.toolName
        (PyStr.ofString (deviceConfirmationSummary record.toolName)) record.expiresAt
        record.callId record.requestDigest] routed.events
  | .ok (.completed result) =>
    finish st sid s .idle (some (safeResultCaption toolName result))
      [deviceToolResult toolName .completed (some result) callId] routed.events

/-- `_run_tool`. -/
def runTool (st : State) (w : ω) (now : Int) (token sid : PyStr) (s : DeviceSession)
    (toolName : PyStr) (arguments : Object) (callId requestDigest : Option PyStr) : Outcome :=
  let s := s.setState .thinking none
  if toolName = PyStr.ofString "remember_fact" then core.runMemory st sid s arguments false
  else if toolName = PyStr.ofString "recall_memory" then core.runMemory st sid s arguments true
  else if (core.catalog.get? toolName).any (fun d => d.safety == .unsafeTool) && !canConfirm s then
    finish st sid s .idle (some (PyStr.ofString "Falta la pantalla táctil de confirmación."))
      [errorMessage .confirmationUnavailable "La acción requiere pantalla y toque disponibles."] []
  else
    answerInvocation st sid s toolName callId
      (ToolRouter.invoke core.catalog core.ttlSeconds now token w st.pending toolName arguments none
        (some s.sessionId) callId requestDigest)

/-- The intent of a bounded text, or the exception that escapes `_route_transcript`. -/
def intentOf (w : ω) (bounded : PyStr) : Except Exn (Option ParsedIntent) :=
  match core.commandCatalog with
  | none => core.parseTextIntent bounded
  | some commandCatalog =>
    match (match commandCatalog w with
      | .ok commands => Except.ok commands
      | .error .osError => .ok []
      | .error .valueError => .ok []
      | .error (.confirmationError _) => .ok []
      | .error e => .error e) with
    | .error e => .error e
    | .ok commands =>
      match core.parseCatalogIntent bounded commands with
      | .error e => .error e
      | .ok parsed =>
        match (match parsed with
          | some intent => Except.ok (some intent)
          | none => core.parseTextIntent bounded) with
        | .error e => .error e
        | .ok none => .ok none
        | .ok (some intent) =>
          if core.commandCatalogAuthoritative then
            let tools := commands.map (fun c => c.get? (PyStr.ofString "tool_name"))
            if tools.any (fun t => t.any (fun v => !v.hashable)) then .error .other
            else if tools.any (fun t => match t with
                | some (.str name) => name = intent.toolName
                | _ => false) then .ok (some intent)
            else .ok none
          else .ok (some intent)

/-- `_route_transcript`. -/
def routeTranscript (st : State) (w : ω) (now : Int) (token sid : PyStr) (s : DeviceSession)
    (transcript : PyStr) : Outcome :=
  match validateBoundedText transcript 4000 with
  | .error _ =>
    finish st sid s .idle (some (PyStr.ofString "La transcripción no es válida."))
      [errorMessage .invalidTranscript "La transcripción no es válida."] []
  | .ok bounded =>
    match core.intentOf w bounded with
    | .error e => ⟨st, .error e, []⟩
    | .ok none =>
      finish st sid s .idle (some (PyStr.ofString "Todavía no conozco ese comando."))
        [errorMessage .unsupportedTextIntent
          "Comando no reconocido; usa un tool_call o una frase compatible."] []
    | .ok (some intent) =>
      core.runTool st w now token sid s intent.toolName intent.arguments none none

/-- A supplied digest must be the digest of the call itself. -/
def digestMatches (name : PyStr) (arguments : Object) : Option PyStr → Bool
  | none => true
  | some supplied =>
    match core.computeRequestDigest name arguments with
    | .ok expected => expected = supplied
    | .error _ => false

/-- The `tool_call` branch of `handle`. -/
def handleToolCall (st : State) (w : ω) (now : Int) (token sid : PyStr) (s : DeviceSession)
    (name : PyStr) (arguments : Object) (callId requestDigest : Option PyStr) : Outcome :=
  if core.digestMatches name arguments requestDigest then
    core.runTool st w now token sid s name arguments callId requestDigest
  else
    finish st sid s .idle (some (PyStr.ofString "La solicitud no es válida."))
      [errorMessage .requestBindingFailed "La solicitud no es válida."] []

/-- The `confirm` branch of `handle`. Every failure cancels what the session has pending. -/
def handleConfirm (st : State) (w : ω) (now : Int) (sid : PyStr) (s : DeviceSession)
    (confirmationId : PyStr) (accepted : Bool) : Outcome :=
  let routed := ToolRouter.resolveConfirmation core.catalog now w st.pending confirmationId accepted
    (some s.sessionId)
  let st := { st with pending := routed.pending }
  match routed.result with
  | .error e =>
    let st := st.cancelPending s.sessionId
    if e.isRefusal then
      finish st sid s .idle (some (PyStr.ofString "La confirmación ha caducado o no es válida."))
        [errorMessage .confirmationFailed "La confirmación ha caducado o no es válida."] routed.events
    else
      finish st sid s .idle (some (PyStr.ofString "La herramienta ha fallado."))
        [errorMessage .toolFailed "La herramienta ha fallado."] routed.events
  | .ok (.rejected record) =>
    finish st sid s .idle (some (PyStr.ofString "Acción cancelada."))
      [deviceToolResult record.toolName .rejected none record.callId] routed.events
  | .ok (.completed record result) =>
    finish st sid s .idle (some (safeResultCaption record.toolName result))
      [deviceToolResult record.toolName .completed (some result) record.callId] routed.events

/-- The error every message but a few gets while a confirmation is pending. -/
def confirmationRequired (s : DeviceSession) : List ServerMessage :=
  [errorMessage .confirmationRequired "Responde a la confirmación pendiente antes de continuar.",
    s.uiMessage]

/-- `handle` from the `wake` branch on: the session is initialised and no gate applies. -/
def handleReady (st : State) (w : ω) (now : Int) (token sid : PyStr) (s : DeviceSession) :
    ClientMessage → Outcome
  | .wake | .holdStart => finish st sid s .listening none [] []
  | .holdEnd | .audioEnd =>
    finish st sid s .idle (some (PyStr.ofString "La voz aún no está disponible."))
      [errorMessage .voiceUnavailable "La voz aún no está disponible."] []
  | .abort => finish (st.cancelPending s.sessionId) sid s .idle none [.ttsAborted] []
  | .gesture g => reply (st.save sid s) [.gestureAck g]
  | .textInput text _ => core.routeTranscript (st.save sid s) w now token sid s text
  | .toolCall name arguments callId requestDigest =>
    core.handleToolCall (st.save sid s) w now token sid s name arguments callId requestDigest
  | .confirm confirmationId accepted =>
    core.handleConfirm (st.save sid s) w now sid s confirmationId accepted
  | m => reply (st.save sid s) [.error .unsupportedMessage (some m.type)]

/-- Whether `m` is answered in the state `confirm`. `ping` and `device_status` never
get as far as the gate. -/
def passesConfirmGate : ClientMessage → Bool
  | .ping _ | .deviceStatus .. | .abort | .confirm .. => true
  | _ => false

/-- `_PRE_HELLO_MESSAGE_TYPES`. -/
def isPreHello : ClientMessage → Bool
  | .ping _ | .deviceStatus .. | .deviceHello .. | .abort => true
  | _ => false

/-- `handle` from the hello gate to the confirmation gate. -/
def handleGated (st : State) (w : ω) (now : Int) (token sid : PyStr) (s : DeviceSession)
    (m : ClientMessage) : Outcome :=
  if !s.capabilitiesInitialized && !isPreHello m then
    reply (st.save sid s) [errorMessage .deviceHelloRequired "El dispositivo aún no está listo."]
  else
    match m with
    | .catalogRequest =>
      reply (st.save sid s) (catalogResponse core.catalog core.commandCatalog core.capabilityCatalog w)
    | m =>
      if s.state = .confirm && !passesConfirmGate m then reply (st.save sid s) (confirmationRequired s)
      else core.handleReady st w now token sid s m

/-- `handle` for a registered session. -/
def handleSession (st : State) (w : ω) (now : Int) (token sid : PyStr) (s : DeviceSession)
    (m : ClientMessage) : Outcome :=
  match m with
  | .ping requestId => reply (st.save sid s) [.pong requestId]
  | .deviceStatus audioState batteryPercent wifiRssi =>
    reply (st.save sid { s with
      audioState := audioState, batteryPercent := batteryPercent, wifiRssi := wifiRssi }) [.statusAck]
  | .deviceHello firmwareVersion capabilities =>
    if s.capabilitiesInitialized then
      reply (st.save sid s) [.error .deviceHelloNotExpected none]
    else
      reply (st.save sid { s with
        firmwareVersion := firmwareVersion, capabilities := capabilities,
        capabilitiesInitialized := true }) [.deviceHelloAck]
  | m => core.handleGated st w now token sid s m

def unknownSession : ServerMessage := errorMessage .unknownSession "Sesión desconocida."

/-- `handle`. -/
def handle (st : State) (w : ω) (clock : Clock) (token sid : PyStr) (m : ClientMessage) : Outcome :=
  let st := pruneStaleSessions st clock.prune
  match st.sessions.get? sid with
  | none => reply st [unknownSession]
  | some s => core.handleSession st w clock.act token sid (s.touch clock.touch) m

/-- `handle_transcript`. It does not prune the registry. -/
def handleTranscript (st : State) (w : ω) (clock : Clock) (token sid transcript : PyStr) : Outcome :=
  match st.sessions.get? sid with
  | none => reply st [unknownSession]
  | some s =>
    let s := s.touch clock.touch
    if !s.capabilitiesInitialized then
      reply (st.save sid s) [errorMessage .deviceHelloRequired "El dispositivo aún no está listo."]
    else if s.state = .confirm then reply (st.save sid s) (confirmationRequired s)
    else core.routeTranscript (st.save sid s) w clock.act token sid s transcript

end PipaCore
end Pipa.Core
