import Pipa.Control.Config
import Pipa.Core.Effects
import Pipa.Intents.Catalog

/- The built-in commands (`tools/integration_catalog.py`): the table, the
   validation of a catalog, and the catalog that the preferences of the control
   panel leave. `validate_bounded_text` raises a `ValueError`, and so does every
   refusal of the validators; a value that cannot be looked up in a set raises a
   `TypeError`. -/
namespace Pipa.Control
open Pipa.Lib Pipa.Core Pipa.Intents

/-! ## The table -/

/-- `_parameter`. -/
structure Parameter where
  name : String
  label : String
  kind : String
  maxLength : Nat
  options : List String

def Parameter.asValue (p : Parameter) : Value :=
  .dict ([(PyStr.ofString "name", .str (PyStr.ofString p.name)),
    (PyStr.ofString "label", .str (PyStr.ofString p.label)),
    (PyStr.ofString "kind", .str (PyStr.ofString p.kind)),
    (PyStr.ofString "max_length", .int p.maxLength)] ++
    if p.options.isEmpty then []
    else [(PyStr.ofString "options", .list (p.options.map (fun o => .str (PyStr.ofString o))))])

/-- An entry of `_COMMANDS`. One without parameters has no such key, and only an unsafe one
requires confirmation. -/
structure BuiltIn where
  id : String
  toolName : String
  phrase : String
  description : String
  safety : Safety
  parameters : List Parameter
  defaultArguments : List (String × String)

/-- The entry with a phrase and a description put in. -/
def BuiltIn.asObject (b : BuiltIn) (phrase description : PyStr) : Object :=
  [(PyStr.ofString "id", .str (PyStr.ofString b.id)),
    (PyStr.ofString "tool_name", .str (PyStr.ofString b.toolName)),
    (PyStr.ofString "phrase", .str phrase), (PyStr.ofString "description", .str description),
    (PyStr.ofString "safety", .str b.safety.wire),
    (PyStr.ofString "requires_confirmation", .bool (b.safety == .unsafeTool))] ++
  (if b.parameters.isEmpty then []
    else [(PyStr.ofString "parameters", .list (b.parameters.map Parameter.asValue))]) ++
  (if b.defaultArguments.isEmpty then []
    else [(PyStr.ofString "default_arguments", .dict (b.defaultArguments.map
      (fun a => (PyStr.ofString a.1, .str (PyStr.ofString a.2)))))])

def safeCommand (id toolName phrase description : String) (parameters : List Parameter) : BuiltIn :=
  ⟨id, toolName, phrase, description, .safe, parameters, []⟩

def unsafeCommand (id toolName phrase description : String) (parameters : List Parameter) : BuiltIn :=
  ⟨id, toolName, phrase, description, .unsafeTool, parameters, []⟩

/-- A command with the one argument `action`. -/
def mediaCommand (id action phrase description : String) : BuiltIn :=
  ⟨id, "media_action", phrase, description, .safe, [], [("action", action)]⟩

def contact : Parameter := ⟨"contact", "Contacto", "contact", 80, []⟩
def phone : Parameter := ⟨"phone", "Teléfono", "phone", 32, []⟩
def message : Parameter := ⟨"message", "Mensaje", "message", 3800, []⟩
def channelId : Parameter := ⟨"channel_id", "ID del canal", "channel_id", 20, []⟩
def guildId : Parameter := ⟨"guild_id", "ID del servidor", "guild_id", 20, []⟩

/-- `sorted(QUEUE_IDS)`. -/
def queueIds : List String := ["aram", "normal_draft", "ranked_flex", "ranked_solo", "swiftplay"]

/-- `_COMMANDS`. -/
def builtIns : List BuiltIn :=
  [safeCommand "system_status" "system_status" "estado del ordenador"
      "Consulta un estado resumido del ordenador." [],
    safeCommand "integration_status" "integration_status" "estado de integraciones"
      "Consulta qué integraciones están configuradas, sin ejecutar ninguna acción." [],
    unsafeCommand "web_search" "web_search" "busca en internet <consulta>"
      "Abre una búsqueda en el navegador." [⟨"query", "Consulta", "text", 200, []⟩],
    unsafeCommand "open_app" "open_app" "abre una aplicación configurada <nombre>"
      "Abre una aplicación previamente configurada en el PC." [⟨"app", "Aplicación", "app", 80, []⟩],
    unsafeCommand "open_codex" "open_codex" "abre Codex" "Abre Codex sin escribir ni enviar mensajes." [],
    unsafeCommand "music_open" "music_open" "abre Apple Music" "Abre Apple Music o su catálogo web." [],
    unsafeCommand "music_search" "music_search" "busca en Apple Music <artista o canción>"
      "Abre los resultados; la pista se elige y reproduce manualmente."
      [⟨"term", "Artista o canción", "text", 200, []⟩],
    unsafeCommand "whatsapp_compose" "whatsapp_compose" "prepara WhatsApp para <teléfono> y dile <mensaje>"
      "Abre el chat con el texto preparado; nunca pulsa Enviar." [phone, message],
    unsafeCommand "whatsapp_open" "whatsapp_open" "abre WhatsApp" "Abre WhatsApp Web sin enviar mensajes." [],
    unsafeCommand "whatsapp_contact" "whatsapp_contact" "prepara WhatsApp para <contacto> y dile <mensaje>"
      "Usa un alias local, abre el chat y deja el envío para la persona." [contact, message],
    unsafeCommand "whatsapp_contact_open" "whatsapp_contact_open" "abre WhatsApp para <contacto>"
      "Abre el chat de un alias local sin preparar ni enviar mensajes." [contact],
    unsafeCommand "whatsapp_phone_open" "whatsapp_phone_open" "abre WhatsApp para <teléfono>"
      "Abre un chat por teléfono sin preparar ni enviar mensajes." [phone],
    unsafeCommand "discord_open_app" "discord_open_app" "abre Discord" "Abre Discord sin iniciar llamadas." [],
    unsafeCommand "discord_open" "discord_open" "abre Discord canal <id>"
      "Abre un canal o DM; nunca inicia una llamada." [channelId],
    unsafeCommand "discord_server_channel" "discord_open" "abre Discord servidor <servidor> canal <canal>"
      "Abre un canal de servidor; nunca inicia una llamada." [guildId, channelId],
    unsafeCommand "discord_contact" "discord_contact" "abre el canal de <contacto> en Discord"
      "Usa un alias local, abre el canal y deja la llamada para la persona." [contact],
    unsafeCommand "discord_call_channel" "discord_call_channel" "llama a Discord canal <id>"
      "Abre el destino de llamada; pulsa Llamar manualmente." [channelId],
    unsafeCommand "discord_call_server_channel" "discord_call_channel"
      "llama a Discord servidor <servidor> canal <canal>"
      "Abre el destino de llamada; pulsa Llamar manualmente." [guildId, channelId],
    unsafeCommand "discord_call" "discord_call" "llama a <contacto> en Discord"
      "Abre el destino de llamada; la persona pulsa Llamar manualmente." [contact],
    unsafeCommand "league_open" "league_open" "abre League of Legends"
      "Abre el cliente de League sin iniciar una partida." [],
    unsafeCommand "league_search" "league_search" "busca una partida <cola>"
      "Inicia matchmaking en una cola allowlisted; abre League si aún no está listo."
      [⟨"queue", "Cola", "queue", 32, queueIds⟩],
    safeCommand "league_status" "league_status" "estado de League"
      "Consulta lobby y matchmaking sin iniciar ninguna acción." [],
    safeCommand "league_search_status" "league_search_status" "estado de búsqueda de League"
      "Consulta si busca partida o si hay una pendiente de aceptación manual." [],
    safeCommand "league_wait" "league_wait" "espera a que League encuentre una partida <segundos>"
      "Observa matchmaking durante un tiempo limitado; la aceptación sigue siendo manual."
      [⟨"seconds", "Segundos", "integer", 3, []⟩],
    unsafeCommand "league_cancel" "league_cancel" "cancela la búsqueda de League"
      "Cancela una búsqueda confirmada; no rechaza una partida ya encontrada." [],
    safeCommand "audio_volume" "audio_volume" "pon el volumen <0-100>" "Ajusta el volumen del ordenador."
      [⟨"percent", "Volumen (0-100)", "integer", 3, []⟩],
    safeCommand "system_power" "system_power" "estado de batería"
      "Consulta batería y alimentación del ordenador." [],
    safeCommand "system_network" "system_network" "estado de red"
      "Consulta el estado resumido de las interfaces de red." [],
    safeCommand "audio_mute" "audio_mute" "silencia el ordenador" "Silencia el audio del ordenador." [],
    safeCommand "audio_unmute" "audio_unmute" "activa el sonido" "Activa el audio del ordenador." [],
    safeCommand "media_action" "media_action" "control multimedia <acción>"
      "Envía una tecla multimedia allowlisted."
      [⟨"action", "Acción", "action", 16, ["play_pause", "next", "previous", "stop"]⟩],
    mediaCommand "media_play_pause" "play_pause" "reproduce la canción seleccionada"
      "Reproduce o pausa el reproductor multimedia activo; no elige una pista.",
    mediaCommand "media_next" "next" "siguiente canción"
      "Pasa a la siguiente pista del reproductor multimedia activo.",
    mediaCommand "media_previous" "previous" "canción anterior"
      "Vuelve a la pista anterior del reproductor multimedia activo.",
    mediaCommand "media_stop" "stop" "detén la música" "Detiene el reproductor multimedia activo.",
    safeCommand "timer_create" "timer_create" "crea un temporizador <segundos>"
      "Crea un temporizador local en memoria." [⟨"seconds", "Segundos", "integer", 6, []⟩],
    safeCommand "timer_list" "timer_list" "lista los temporizadores"
      "Consulta los temporizadores locales activos." [],
    safeCommand "timer_cancel" "timer_cancel" "cancela el temporizador <id>"
      "Cancela un temporizador local por su identificador." [⟨"timer_id", "ID del temporizador", "text", 32, []⟩],
    unsafeCommand "system_lock" "system_lock" "bloquea el ordenador"
      "Bloquea Windows y requiere confirmación." [],
    unsafeCommand "open_url" "open_url" "abre una URL validada <dirección>"
      "Abre una URL HTTP(S) validada en el navegador." [⟨"url", "Dirección", "url", 2048, []⟩]]

/-! ## Validation -/

def maxCommands : Nat := 64
def maxParameters : Nat := 8
def maxParameterOptions : Nat := 16
def maxCommandTextBytes : Nat := 256
def maxParameterTextBytes : Nat := 128

/-- `_safe_catalog_text`. -/
def safeCatalogText (maximumBytes : Nat) : Value → Except Exn PyStr
  | .str s => validateBoundedText s maximumBytes
  | _ => .error .valueError

/-- The safe texts of a list. -/
def safeTexts (maximumBytes : Nat) : List Value → Except Exn (List PyStr)
  | [] => .ok []
  | v :: vs =>
    match safeCatalogText maximumBytes v with
    | .error e => .error e
    | .ok s =>
      match safeTexts maximumBytes vs with
      | .error e => .error e
      | .ok rest => .ok (s :: rest)

def isStr : Value → Bool
  | .str _ => true
  | _ => false

/-- A field, `None` where there is none. -/
def field (o : Object) (name : String) : Value := (o.get? (PyStr.ofString name)).getD .null

/-- The options of one parameter. -/
def validateOptions (parameter : Object) : Except Exn (List PyStr) :=
  match (parameter.get? (PyStr.ofString "options")).getD (.list []) with
  | .list options =>
    if options.length > maxParameterOptions || !options.all isStr then .error .valueError
    else match safeTexts maxParameterTextBytes options with
      | .error e => .error e
      | .ok safe => if safe.Nodup then .ok safe else .error .valueError
  | _ => .error .valueError

/-- One turn of the loop of `_validate_parameters`. -/
def validateParameter (seen : List PyStr) (parameter : Value) : Except Exn (PyStr × Object) :=
  match parameter with
  | .dict parameter =>
    if Object.keys parameter |>.any (· ∉ catalogParameterFields) then .error .valueError
    else match field parameter "name", field parameter "kind", field parameter "max_length" with
      | .str name, .str kind, .int maxLength =>
        if !isCatalogParameterName name || name ∈ seen || kind ∉ catalogParameterKinds ||
            maxLength < 1 || 4096 < maxLength then .error .valueError
        else match safeCatalogText maxParameterTextBytes (field parameter "label") with
          | .error e => .error e
          | .ok label =>
            match validateOptions parameter with
            | .error e => .error e
            | .ok options => .ok (name,
                [(PyStr.ofString "name", .str name), (PyStr.ofString "label", .str label.strip),
                  (PyStr.ofString "kind", .str kind), (PyStr.ofString "max_length", .int maxLength)] ++
                if options.isEmpty then [] else [(PyStr.ofString "options", .list (options.map Value.str))])
      | _, _, _ => .error .valueError
  | _ => .error .valueError

def validateParameterList (seen : List PyStr) : List Value → Except Exn (List Value)
  | [] => .ok []
  | v :: vs =>
    match validateParameter seen v with
    | .error e => .error e
    | .ok (name, parameter) =>
      match validateParameterList (name :: seen) vs with
      | .error e => .error e
      | .ok rest => .ok (.dict parameter :: rest)

/-- `_validate_parameters`. -/
def validateParameters : Value → Except Exn (List Value)
  | .list items => if items.length > maxParameters then .error .valueError else validateParameterList [] items
  | _ => .error .valueError

/-- The loop of `_validate_default_arguments`. -/
def validateArguments (result : Object) : List (PyStr × Value) → Except Exn Object
  | [] => .ok result
  | (name, argument) :: items =>
    if !isCatalogParameterName name then .error .valueError
    else match safeCatalogText maxParameterTextBytes argument with
      | .error e => .error e
      | .ok text => validateArguments (result.set name (.str text.strip)) items

/-- `_validate_default_arguments`. -/
def validateDefaultArguments : Value → Except Exn Object
  | .dict items =>
    if items.isEmpty || items.length > maxParameters then .error .valueError else validateArguments [] items
  | _ => .error .valueError

/-- `_phrase_placeholders`. -/
def phrasePlaceholders (phrase : PyStr) : Except Exn (List PyStr) :=
  let labels := (placeholders phrase).map PyStr.strip
  if labels.any (fun l => l.isEmpty || l.bytes.length > 80) || !labels.Nodup then .error .valueError
  else .ok labels

/-- The `default_arguments` of a command, when it has them. -/
def defaultsOf (command : Object) (parameters : List Value) (labels : List PyStr) :
    Except Exn (List (PyStr × Value)) :=
  match command.get? (PyStr.ofString "default_arguments") with
  | none => .ok []
  | some v =>
    match validateDefaultArguments v with
    | .error e => .error e
    | .ok arguments =>
      if !parameters.isEmpty || !labels.isEmpty then .error .valueError
      else .ok [(PyStr.ofString "default_arguments", .dict arguments)]

/-- `if not condition: raise error`. -/
def require (condition : Bool) (error : Exn) : Except Exn Unit := if condition then .ok () else .error error

/-- A value that has to be a `bool`. -/
def boolean : Value → Except Exn Bool
  | .bool b => .ok b
  | _ => .error .valueError

/-- The descriptor that `validate_command_catalog` writes. -/
def normalized (id toolName phrase description : PyStr) (safety : Value) (requiresConfirmation : Bool)
    (parameters : List Value) (defaults : Object) : Object :=
  [(PyStr.ofString "id", .str id), (PyStr.ofString "tool_name", .str toolName),
    (PyStr.ofString "phrase", .str phrase), (PyStr.ofString "description", .str description),
    (PyStr.ofString "safety", safety), (PyStr.ofString "requires_confirmation", .bool requiresConfirmation),
    (PyStr.ofString "parameters", .list parameters)] ++ defaults

/-- One turn of the loop of `validate_command_catalog`. -/
def validateCommand (seen : List PyStr) (command : Object) : Except Exn (PyStr × Object) := do
  require (command.keys.all (· ∈ catalogFields)) .valueError
  let id ← safeCatalogText maxCommandTextBytes (field command "id")
  require (id.strip ∉ seen) .valueError
  let toolName ← safeCatalogText maxCommandTextBytes (field command "tool_name")
  let phrase ← safeCatalogText maxCommandTextBytes (field command "phrase")
  let description ← safeCatalogText maxCommandTextBytes (field command "description")
  require (field command "safety").hashable .other
  require (isText "safe" (field command "safety") || isText "unsafe" (field command "safety")) .valueError
  let requiresConfirmation ← boolean (field command "requires_confirmation")
  require (requiresConfirmation == isText "unsafe" (field command "safety")) .valueError
  let parameters ← validateParameters ((command.get? (PyStr.ofString "parameters")).getD (.list []))
  let labels ← phrasePlaceholders phrase.strip
  require (labels.length == parameters.length) .valueError
  let defaults ← defaultsOf command parameters labels
  return (id.strip, normalized id.strip toolName.strip phrase.strip description.strip (field command "safety")
    requiresConfirmation parameters defaults)

def validateCommandList (seen : List PyStr) : List Object → Except Exn (List Object)
  | [] => .ok []
  | command :: commands =>
    match validateCommand seen command with
    | .error e => .error e
    | .ok (id, normalized) =>
      match validateCommandList (id :: seen) commands with
      | .error e => .error e
      | .ok rest => .ok (normalized :: rest)

/-- `validate_command_catalog`. -/
def validateCommandCatalog (commands : List Object) : Except Exn (List Object) :=
  if commands.length > maxCommands then .error .valueError else validateCommandList [] commands

/-! ## The catalog -/

/-- `preference.get("enabled", True)`. -/
def BuiltIn.enabled (b : BuiltIn) (c : ControlConfig) : Bool :=
  match c.commands.get? (PyStr.ofString b.id) with
  | none => true
  | some preference => preference.enabled

/-- `preference.get("phrase", source["phrase"])`. -/
def BuiltIn.currentPhrase (b : BuiltIn) (c : ControlConfig) : PyStr :=
  ((c.commands.get? (PyStr.ofString b.id)).bind CommandPreference.phrase).getD (PyStr.ofString b.phrase)

def automaticDescription : String :=
  "Envía el mensaje con WhatsApp Cloud API después de la confirmación explícita."

/-- A command as the preferences leave it. -/
def BuiltIn.edited (b : BuiltIn) (c : ControlConfig) (automatic : Bool) : Object :=
  b.asObject (b.currentPhrase c) (PyStr.ofString
    (if automatic && (b.id == "whatsapp_compose" || b.id == "whatsapp_contact") then automaticDescription
      else b.description))

/-- What a `ControlError` is for the Core: a `ControlConfigError` is a `ValueError`. -/
def ControlError.exn : ControlError → Exn
  | .config _ | .value => .valueError
  | .raised => .other

/-- `get_command_catalog`, for what `load_control_config` and `whatsapp_automatic_send_active` gave. -/
def getCommandCatalog (config : Except ControlError ControlConfig) (automatic : Except ControlError Bool) :
    Except Exn (List Object) :=
  match config, automatic with
  | .error e, _ => .error e.exn
  | .ok _, .error e => .error e.exn
  | .ok c, .ok automatic =>
    validateCommandCatalog ((builtIns.filter (fun b => b.enabled c)).map (fun b => b.edited c automatic))

/-! ## What validation accepts -/

theorem safeCatalogText_ok {n : Nat} {v : Value} {s : PyStr} (h : safeCatalogText n v = .ok s) :
    v = .str s ∧ validateBoundedText s n = .ok s := by
  cases v with
  | str t =>
    have heq : s = t := PipaCore.validateBoundedText_eq h
    subst heq
    exact ⟨rfl, h⟩
  | _ => cases h

theorem bind_ok {α β : Type} {x : Except Exn α} {f : α → Except Exn β} {b : β}
    (h : (x >>= f) = .ok b) : ∃ a, x = .ok a ∧ f a = .ok b := by
  cases x with
  | error e => cases h
  | ok a => exact ⟨a, rfl, h⟩

theorem require_ok {condition : Bool} {error : Exn} {u : Unit} (h : require condition error = .ok u) :
    condition = true := by
  cases condition with
  | true => rfl
  | false => cases h

theorem boolean_ok {v : Value} {b : Bool} (h : boolean v = .ok b) : v = .bool b := by
  cases v with
  | bool b' =>
    obtain rfl := Except.ok.inj h
    rfl
  | _ => cases h

theorem validateCommand_ok {seen : List PyStr} {command command' : Object} {id' : PyStr}
    (h : Control.validateCommand seen command = .ok (id', command')) :
    ∃ id toolName phrase description requiresConfirmation parameters labels defaults,
      command.keys.all (· ∈ catalogFields) = true ∧
      safeCatalogText maxCommandTextBytes (field command "id") = .ok id ∧ id' = id.strip ∧ id' ∉ seen ∧
      safeCatalogText maxCommandTextBytes (field command "tool_name") = .ok toolName ∧
      safeCatalogText maxCommandTextBytes (field command "phrase") = .ok phrase ∧
      safeCatalogText maxCommandTextBytes (field command "description") = .ok description ∧
      (field command "safety").hashable = true ∧
      (isText "safe" (field command "safety") || isText "unsafe" (field command "safety")) = true ∧
      field command "requires_confirmation" = .bool requiresConfirmation ∧
      requiresConfirmation = isText "unsafe" (field command "safety") ∧
      validateParameters ((command.get? (PyStr.ofString "parameters")).getD (.list [])) = .ok parameters ∧
      phrasePlaceholders phrase.strip = .ok labels ∧ labels.length = parameters.length ∧
      defaultsOf command parameters labels = .ok defaults ∧
      command' = normalized id' toolName.strip phrase.strip description.strip (field command "safety")
        requiresConfirmation parameters defaults := by
  unfold Control.validateCommand at h
  obtain ⟨_, hkeys, h⟩ := bind_ok h
  obtain ⟨id, hid, h⟩ := bind_ok h
  obtain ⟨_, hseen, h⟩ := bind_ok h
  obtain ⟨toolName, htool, h⟩ := bind_ok h
  obtain ⟨phrase, hphrase, h⟩ := bind_ok h
  obtain ⟨description, hdescription, h⟩ := bind_ok h
  obtain ⟨_, hhashable, h⟩ := bind_ok h
  obtain ⟨_, hsafety, h⟩ := bind_ok h
  obtain ⟨requiresConfirmation, hrequires, h⟩ := bind_ok h
  obtain ⟨_, hconsistent, h⟩ := bind_ok h
  obtain ⟨parameters, hparameters, h⟩ := bind_ok h
  obtain ⟨labels, hlabels, h⟩ := bind_ok h
  obtain ⟨_, hlength, h⟩ := bind_ok h
  obtain ⟨defaults, hdefaults, h⟩ := bind_ok h
  obtain ⟨rfl, rfl⟩ := Prod.mk.inj (Except.ok.inj h)
  exact ⟨id, toolName, phrase, description, requiresConfirmation, parameters, labels, defaults,
    require_ok hkeys, hid, rfl, of_decide_eq_true (require_ok hseen), htool, hphrase, hdescription,
    require_ok hhashable, require_ok hsafety, boolean_ok hrequires, beq_iff_eq.mp (require_ok hconsistent),
    hparameters, hlabels, beq_iff_eq.mp (require_ok hlength), hdefaults, rfl⟩

end Pipa.Control
