import Pipa.Intents.Pattern

/- `parse_text_intent`: the built-in Spanish phrases. The function is a chain of
   tests, and so is `rules`: each entry is one `if` of the source, in its order,
   and the first that answers decides. -/
namespace Pipa.Intents
open Pipa.Lib Pipa.Core

/-- An `if` that is not taken answers nothing; a `return` answers an intent or `None`, and
`int` may raise. -/
abbrev Answer := Option (Except Exn (Option ParsedIntent))

def intent (tool : String) (arguments : List (String × Value)) : ParsedIntent :=
  ⟨PyStr.ofString tool, arguments.map (fun a => (PyStr.ofString a.1, a.2))⟩

def answer (i : ParsedIntent) : Answer := some (.ok (some i))

/-- `match.group(n)`, or the empty text where the group took no part. -/
def group (groups : Groups) (n : Nat) : PyStr := ((groups.getD (n - 1) none).getD [])

/-- The groups, stripped, as the arguments of these names. -/
def strippedGroups (tool : String) (names : List String) (_ : Unicode) (groups : Groups) : Answer :=
  answer (intent tool (names.zipIdx.map (fun n => (n.1, .str (group groups (n.2 + 1)).strip))))

/-- The groups as they are, as the arguments of these names and numbers. -/
def plainGroups (tool : String) (names : List (String × Nat)) (_ : Unicode) (groups : Groups) : Answer :=
  answer (intent tool (names.map (fun n => (n.1, .str (group groups n.2)))))

/-- What a rule reads: the collapsed text with `re.IGNORECASE`, or its folded form. -/
inductive Subject where
  | original
  | normalized

/-- `if normalized in {…}`, or an `if` on the first of the patterns that matches. -/
inductive Rule where
  | phrases (texts : List String) (answer : ParsedIntent)
  | patterns (subject : Subject) (patterns : List Pattern) (answer : Unicode → Groups → Answer)

def Rule.apply (u : Unicode) (original normalized : PyStr) : Rule → Answer
  | .phrases texts i => if texts.any (fun t => PyStr.ofString t = normalized) then answer i else none
  | .patterns .original ps answer =>
    match ps.findSome? (fun p => fullmatch u true p original) with
    | none => none
    | some groups => answer u groups
  | .patterns .normalized ps answer =>
    match ps.findSome? (fun p => fullmatch u false p normalized) with
    | none => none
    | some groups => answer u groups

/-! ## Music -/

/-- `_clean_music_term`. -/
def cleanMusicTerm (u : Unicode) (value : PyStr) : PyStr :=
  let term := value.strip
  let folded := u.casefold term
  match ["música de ", "musica de ", "de "].find? (fun p => (PyStr.ofString p).isPrefixOf folded) with
  | none => term
  | some p => PyStr.strip (term.drop p.length)

/-- `_music_intent`. -/
def musicIntent (u : Unicode) (value : PyStr) : ParsedIntent :=
  let term := cleanMusicTerm u value
  let folded := foldPhrase u term
  if ["", "musica", "apple music", "en musica", "en apple music"].any (fun t => PyStr.ofString t = folded) then
    intent "music_open" []
  else intent "music_search" [("term", .str term)]

def music (u : Unicode) (groups : Groups) : Answer := answer (musicIntent u (group groups 1))

def playPause : ParsedIntent := intent "media_action" [("action", .str (PyStr.ofString "play_pause"))]

/-- `term.casefold() in {"seleccionada", …}`. -/
def isSelection (u : Unicode) (term : PyStr) : Bool :=
  ["seleccionada", "seleccionado", "elegida", "elegido"].any (fun t => PyStr.ofString t = u.casefold term)

/-- The song that is selected, or a search for the named one. -/
def musicOrSelection (u : Unicode) (groups : Groups) : Answer :=
  let term := cleanMusicTerm u (group groups 1)
  if isSelection u term then answer playPause else answer (musicIntent u term)

/-! ## WhatsApp -/

/-- `_whatsapp_recipient_intent`. -/
def whatsappRecipientIntent (u : Unicode) (recipient message : PyStr) : ParsedIntent :=
  let recipient := recipient.strip
  if (fullmatch u false Pattern.phone recipient).isSome then
    intent "whatsapp_compose" [("phone", .str recipient), ("message", .str message.strip)]
  else intent "whatsapp_contact" [("contact", .str recipient), ("message", .str message.strip)]

def recipient (u : Unicode) (groups : Groups) : Answer :=
  answer (whatsappRecipientIntent u (group groups 1) (group groups 2))

/-! ## League -/

/-- `_LEAGUE_QUEUE_ALIASES`. -/
def leagueQueueAliases : List (String × String) :=
  [("", "normal_draft"), ("normal", "normal_draft"), ("normal draft", "normal_draft"),
    ("normal_draft", "normal_draft"), ("draft", "normal_draft"), ("clasificatoria", "ranked_solo"),
    ("clasificatoria solo", "ranked_solo"), ("clasificatoria flex", "ranked_flex"),
    ("ranked", "ranked_solo"), ("ranked solo", "ranked_solo"), ("ranked flex", "ranked_flex"),
    ("solo", "ranked_solo"), ("flex", "ranked_flex"), ("aram", "aram"), ("swiftplay", "swiftplay")]

section
open Pattern

/-- What follows the beginning of the text or white space where a queue names the game:
`(?:(?:en|dentro de|de)\s+(?:el\s+)?|(?:en el|dentro del|del)\s+)(?:lol|league(?: of legends)?)`. -/
def gamePattern : Pattern :=
  cat [either [cat [oneOf ["en", "dentro de", "de"], spaces, maybe (cat ["el", spaces])],
      cat [oneOf ["en el", "dentro del", "del"], spaces]],
    either ["lol", cat ["league", maybe " of legends"]]]

/-- The first substitution of `_league_queue_intent`: the game named at the end of the text. -/
def withoutGame (u : Unicode) (text : PyStr) : PyStr :=
  if (fullmatch u false (either [gamePattern, cat [spaces, gamePattern]]) text).isSome then []
  else match (List.range text.length).find? (fun i =>
      (fullmatch u false (cat [spaces, gamePattern]) (text.drop i)).isSome) with
    | none => text
    | some i => text.take i

/-- The second: `^(?:de|en)\s+`. -/
def withoutPreposition (u : Unicode) (text : PyStr) : PyStr :=
  match Regex.matchStart (Atom.holds u false) (cat [oneOf ["de", "en"], spaces]) text with
  | none => text
  | some m => m.rest

end

/-- `_league_queue_intent`. -/
def leagueQueueIntent (u : Unicode) (queueText : PyStr) : Option ParsedIntent :=
  let text := (withoutPreposition u (withoutGame u queueText.strip).strip).strip
  match leagueQueueAliases.find? (fun a => PyStr.ofString a.1 = text) with
  | none => none
  | some a => some (intent "league_search" [("queue", .str (PyStr.ofString a.2))])

def leagueSearch (u : Unicode) (groups : Groups) : Answer :=
  (leagueQueueIntent u (group groups 1)).bind answer

/-- `_league_wait_intent`. -/
def leagueWaitIntent (u : Unicode) (groups : Groups) : Answer :=
  if (group groups 1).isEmpty then answer (intent "league_wait" [("seconds", .int 120)])
  else match parseInt? u (group groups 1) with
    | none => some (.error .valueError)
    | some seconds =>
      if 1 ≤ seconds ∧ seconds ≤ 300 then answer (intent "league_wait" [("seconds", .int seconds)])
      else some (.ok none)

/-! ## Numbers -/

def audioVolume (u : Unicode) (groups : Groups) : Answer :=
  match parseInt? u (group groups 1) with
  | none => some (.error .valueError)
  | some percent => answer (intent "audio_volume" [("percent", .int percent)])

/-- A timer of so many units. -/
def timerCreate (unit : Int) (u : Unicode) (groups : Groups) : Answer :=
  match parseInt? u (group groups 1) with
  | none => some (.error .valueError)
  | some n => answer (intent "timer_create"
      [("seconds", .int (n * unit)), ("label", .str (PyStr.ofString "Pipα timer"))])

/-! ## The rules -/

section
open Pattern

/-- `\d{least,most}`. -/
def decimals (least : Nat) (most : Option Nat) : Pattern := .rep (.oneOf [.digit]) least most true

def enviar : Pattern := cat ["env", chars "ií", "a"]
def abrir : Pattern := oneOf ["abre", "abrir"]

/-- `(?:manda|env[ií]a|escribe)(?: un)? mensaje `. -/
def mandaMensaje : Pattern := cat [either ["manda", enviar, "escribe"], maybe " un", " mensaje "]

/-- `(?:por|en|de) whatsapp`, where the order of the words varies. -/
def porWhatsapp : Pattern := cat [oneOf ["por", "en", "de"], " whatsapp"]
def deWhatsapp : Pattern := cat [oneOf ["de", "por", "en"], " whatsapp"]

/-- `(?:para|a) `. -/
def para : Pattern := oneOf ["para ", "a "]

/-- `(?:y dile|dile|con el mensaje|diciendo|que diga) (.+)`. -/
def diciendo : Pattern :=
  cat [oneOf ["y dile", "dile", "con el mensaje", "diciendo", "que diga"], " ", captured most]

/-- `\s*:\s*(.+)`. -/
def dosPuntos : Pattern := cat [someSpaces, ":", someSpaces, captured most]

def porDiscord : Pattern := cat [oneOf ["por", "en", "de"], " discord"]

/-- `(?:(?:quiero|puedes) )?(?:llama(?:r)?|haz una llamada|…) `; `una` may be left out in the last two
of the `flexible` form. -/
def llamada (flexible : Bool) : Pattern :=
  let una := if flexible then maybe " una" else " una"
  cat [maybe (cat [oneOf ["quiero", "puedes"], " "]),
    either [cat ["llama", maybe "r"], "haz una llamada", cat ["inicia", maybe "r", una, " llamada"],
      cat ["empieza", maybe "r", una, " llamada"]], " "]

/-- `(?:al|a(?:l)? )?`, as the source has it. -/
def alCanal : Pattern := cat [maybe (either ["al", cat ["a", maybe "l", " "]]), maybe "canal "]

/-- `b(?:u|ú)sca(?:me)?`. -/
def busca : Pattern := cat ["b", oneOf ["u", "ú"], "sca", maybe "me"]

def internet : Pattern := oneOf ["internet", "la web", "web", "online", "google"]

/-- `(?:pon(?:me)?|reproduce|reproducir) `. -/
def pon : Pattern := cat [either [cat ["pon", maybe "me"], "reproduce", "reproducir"], " "]

/-- `m[uú]sica`. -/
def musica : Pattern := cat ["m", chars "uú", "sica"]

/-- `canci[oó]n|tema`. -/
def cancion : Pattern := either [cat ["canci", chars "oó", "n"], "tema"]

/-- `(?: en (?:apple music|m[uú]sica|musica))?`. -/
def enMusica : Pattern := maybe (cat [" en ", either ["apple music", musica, "musica"]])

/-- `(?:(?: de(?:l)?| en el) (?:league|lol))?`. -/
def deLeague : Pattern :=
  maybe (cat [either [cat [" de", maybe "l"], " en el"], " ", oneOf ["league", "lol"]])

/-- The phrases that name one action. -/
def fixedRules : List Rule :=
  [.phrases ["pausa", "pausa la musica", "pausa la cancion", "pausa la pista", "continua",
      "continua la musica", "continua la cancion", "continua la pista", "reanuda", "reanuda la musica",
      "reanuda la cancion", "reanuda la pista", "reproduce", "reproduce la cancion",
      "reproduce la cancion seleccionada", "reproduce la pista", "reproduce la pista seleccionada",
      "reproduce la seleccion", "reproduce la cancion elegida", "reproduce el tema seleccionado",
      "pon la cancion seleccionada", "pon la cancion elegida", "pon la cancion", "dale al play",
      "dale play"] playPause,
    .phrases ["para la musica", "para la cancion", "para la pista", "deten la musica", "deten la cancion",
      "deten la pista", "deten la reproduccion"]
      (intent "media_action" [("action", .str (PyStr.ofString "stop"))]),
    .phrases ["siguiente cancion", "siguiente"]
      (intent "media_action" [("action", .str (PyStr.ofString "next"))]),
    .phrases ["cancion anterior", "anterior"]
      (intent "media_action" [("action", .str (PyStr.ofString "previous"))]),
    .phrases ["estado del ordenador", "estado del pc", "estado del sistema"] (intent "system_status" []),
    .phrases ["estado de integraciones", "estado de las integraciones", "que integraciones hay",
      "qué integraciones hay", "integraciones disponibles"] (intent "integration_status" []),
    .phrases ["estado de bateria", "nivel de bateria", "estado de la bateria"] (intent "system_power" []),
    .phrases ["estado de red", "estado de la red", "estado de internet"] (intent "system_network" []),
    .phrases ["silencia el ordenador", "silencia el pc", "quita el sonido"] (intent "audio_mute" []),
    .phrases ["activa el sonido", "activa el audio", "quita el silencio"] (intent "audio_unmute" []),
    .phrases ["bloquea el pc", "bloquea el ordenador", "bloquear el pc"] (intent "system_lock" []),
    .phrases ["abre discord", "abrir discord"] (intent "discord_open_app" []),
    .phrases ["llama a discord", "llamar a discord"] (intent "discord_open_app" []),
    .phrases ["abre whatsapp", "abrir whatsapp", "abre whatsapp web", "abrir whatsapp web",
      "abre un whatsapp", "abrir un whatsapp"] (intent "whatsapp_open" []),
    .phrases ["abre apple music", "abrir apple music", "abre musica", "abrir musica"] (intent "music_open" []),
    .phrases ["abre league", "abrir league", "abre league of legends", "abrir league of legends",
      "abre lol", "abrir lol"] (intent "league_open" []),
    .phrases ["abre codex", "abrir codex"] (intent "open_codex" []),
    -- configured_app
    .patterns .original [cat [abrir, " ", maybe (oneOf ["la ", "una "]),
      either [cat ["aplicaci", chars "oó", "n"], "app"], maybe " configurada", " ", captured most]]
      (strippedGroups "open_app" ["app"])]

/-- The messages and chats of WhatsApp. -/
def whatsappRules : List Rule :=
  [ -- whatsapp_compose
    .patterns .original [cat [either ["prepara", "abre", "escribe en", "manda", enviar], maybe " un",
      " whatsapp ", para, captured phone, " ", diciendo]]
      (strippedGroups "whatsapp_compose" ["phone", "message"]),
    -- whatsapp_colon_direct
    .patterns .original [cat [either ["prepara", "abre", "escribe en", "manda", enviar], maybe " un",
      " whatsapp ", oneOf ["para", "a", "con"], " ",
      captured (.rep (.noneOf [.char ':']) 1 none false), dosPuntos]] recipient,
    -- whatsapp_colon_message
    .patterns .original [cat [mandaMensaje, para, captured least, " ", porWhatsapp, dosPuntos]] recipient,
    -- whatsapp_colon_service
    .patterns .original [cat [either ["prepara", "abre", cat ["escribe", maybe "le"], "manda", enviar], " ",
      para, captured least, " ", porWhatsapp, dosPuntos]] recipient,
    -- whatsapp_message_colon
    .patterns .original [cat [either ["prepara", "abre", "escribe", "manda", enviar], maybe " un",
      " mensaje ", deWhatsapp, " ", para, captured least, dosPuntos]] recipient,
    -- whatsapp_open_and_write_colon
    .patterns .original [cat [abrir, " ", maybe "el ", "whatsapp y ", oneOf ["escribe", "dile"], " ",
      oneOf ["a", "para"], " ", captured least, dosPuntos]] recipient,
    -- whatsapp_message
    .patterns .original [cat [mandaMensaje, para, captured phone, " ", porWhatsapp, " ", diciendo]]
      (strippedGroups "whatsapp_compose" ["phone", "message"]),
    -- whatsapp_message_prefix
    .patterns .original [cat [mandaMensaje, porWhatsapp, " ", para, captured phone, " ", diciendo]]
      (strippedGroups "whatsapp_compose" ["phone", "message"]),
    -- whatsapp_message_service_first_phone
    .patterns .original [cat [mandaMensaje, deWhatsapp, " ", para, captured phone, " ", diciendo]]
      (strippedGroups "whatsapp_compose" ["phone", "message"]),
    -- whatsapp_message_service_first_contact
    .patterns .original [cat [mandaMensaje, deWhatsapp, " ", para, captured least, " ", diciendo]]
      (strippedGroups "whatsapp_contact" ["contact", "message"]),
    -- whatsapp_contact_alternative
    .patterns .original [cat [either ["prepara", "abre", cat ["escribe", maybe "le"], "manda", enviar], " ",
      para, captured least, " ", porWhatsapp, " ", diciendo]]
      (strippedGroups "whatsapp_contact" ["contact", "message"]),
    -- whatsapp_contact_message
    .patterns .original [cat [mandaMensaje, para, captured least, " ", porWhatsapp, " ", diciendo]]
      (strippedGroups "whatsapp_contact" ["contact", "message"]),
    -- whatsapp_contact_message_prefix
    .patterns .original [cat [mandaMensaje, porWhatsapp, " ", para, captured least, " ", diciendo]]
      (strippedGroups "whatsapp_contact" ["contact", "message"]),
    -- whatsapp_contact
    .patterns .original [cat [either ["prepara", "abre", "escribe en", "manda", enviar], maybe " un",
      " whatsapp ", oneOf ["para", "a", "con"], " ", captured least, " ",
      oneOf ["y dile", "y escribe", "dile", "con el mensaje", "diciendo", "que diga"], " ", captured most]]
      (strippedGroups "whatsapp_contact" ["contact", "message"]),
    -- whatsapp_chat_open
    .patterns .original [cat [abrir, " ", maybe "el ", "chat de ", captured least, " ",
      oneOf ["en", "por"], " whatsapp"]] (strippedGroups "whatsapp_contact_open" ["contact"]),
    -- whatsapp_phone_open
    .patterns .original [cat [abrir, " ", maybe "el ", "whatsapp ", para, captured phone]]
      (strippedGroups "whatsapp_phone_open" ["phone"]),
    -- whatsapp_contact_open
    .patterns .original [cat [abrir, " ", maybe "el ", "whatsapp ", para, captured most]]
      (strippedGroups "whatsapp_contact_open" ["contact"])]

/-- The calls and channels of Discord. -/
def discordRules : List Rule :=
  [ -- discord_call_contact
    .patterns .original [cat [llamada false, oneOf ["a", "con"], " ", maybe "el ", captured least, " ",
      porDiscord]] (strippedGroups "discord_call" ["contact"]),
    -- discord_call_contact_prefix
    .patterns .original [cat [llamada false, porDiscord, " ", oneOf ["a", "al", "con"], " ", captured most]]
      (strippedGroups "discord_call" ["contact"]),
    -- discord_call_contact_service_first
    .patterns .original [cat [llamada false, "a discord ", oneOf ["a", "al", "con"], " ", captured most]]
      (strippedGroups "discord_call" ["contact"]),
    -- discord_call_contact_flexible
    .patterns .original [cat [llamada true, oneOf ["a", "con"], " ", maybe "el ", captured least, " ",
      porDiscord, maybe (cat [" ", oneOf ["ahora", "por favor"]])]]
      (strippedGroups "discord_call" ["contact"]),
    -- discord_call_server_channel_suffix
    .patterns .normalized [cat [either [cat ["llama", maybe "r"], "haz una llamada"], " ", alCanal,
      captured snowflake, " ", oneOf ["del", "de", "en el"], " ", oneOf ["servidor", "guild"], " ",
      captured snowflake, " ", porDiscord]]
      (plainGroups "discord_call_channel" [("guild_id", 2), ("channel_id", 1)]),
    -- discord_call_channel_suffix
    .patterns .normalized [cat [either [cat ["llama", maybe "r"], "haz una llamada"], " ", alCanal,
      captured snowflake, " ", porDiscord]] (plainGroups "discord_call_channel" [("channel_id", 1)]),
    -- discord_open_server_channel_suffix
    .patterns .normalized [cat [abrir, " ", maybe "el ", maybe "canal ", captured snowflake, " ",
      oneOf ["del", "de", "en el"], " ", oneOf ["servidor", "guild"], " ", captured snowflake, " ",
      porDiscord]] (plainGroups "discord_open" [("guild_id", 2), ("channel_id", 1)]),
    -- discord_open_channel_suffix
    .patterns .normalized [cat [abrir, " ", maybe "el ", maybe "canal ", captured snowflake, " ",
      porDiscord]] (plainGroups "discord_open" [("channel_id", 1)]),
    -- discord_channel_contact
    .patterns .original [cat [abrir, " ", maybe "el ", "canal de ", captured least, " ", porDiscord]]
      (strippedGroups "discord_contact" ["contact"]),
    -- discord_chat_contact
    .patterns .original [cat [abrir, " ", maybe "el ", "chat de ", captured least, " ", porDiscord]]
      (strippedGroups "discord_contact" ["contact"]),
    -- discord_contact_short
    .patterns .original [cat [abrir, " discord ", oneOf ["a", "al", "con", "para"], " ", captured most]]
      (strippedGroups "discord_contact" ["contact"]),
    -- discord_call_server_channel
    .patterns .normalized [cat ["llama", maybe "r", " ", maybe (oneOf ["a ", "al "]), maybe "canal ",
      "discord ", oneOf ["servidor", "guild"], " ", captured snowflake, " ", maybe "canal ",
      captured snowflake]] (plainGroups "discord_call_channel" [("guild_id", 1), ("channel_id", 2)]),
    -- discord_call_channel
    .patterns .normalized [cat ["llama", maybe "r", " ", maybe (oneOf ["a ", "al "]), maybe "canal ",
      "discord ", maybe "canal ", captured snowflake]]
      (plainGroups "discord_call_channel" [("channel_id", 1)]),
    -- discord_contact
    .patterns .original [cat ["abre ", maybe "el ", captured least, " ", porDiscord]]
      (strippedGroups "discord_contact" ["contact"]),
    -- discord_server_channel
    .patterns .normalized [cat [oneOf ["abre", "abrir", "llama a"], " ", maybe "el ", "discord ",
      oneOf ["servidor", "guild"], " ", captured snowflake, " ", maybe "canal ", captured snowflake]]
      (plainGroups "discord_open" [("guild_id", 1), ("channel_id", 2)]),
    -- discord_channel
    .patterns .normalized [cat [oneOf ["abre", "abrir", "llama a"], " ", maybe "el ", maybe "canal ",
      "discord ", maybe "canal ", captured snowflake]] (plainGroups "discord_open" [("channel_id", 1)])]

/-- The state of League, the timers, addresses and searches. -/
def systemRules : List Rule :=
  [.patterns .normalized [cat ["cancela", maybe (cat [" ", oneOf ["la", "el"]]), " ",
      oneOf ["busqueda", "cola", "matchmaking"], deLeague]] (plainGroups "league_cancel" []),
    .patterns .normalized [cat ["estado de la cola", deLeague]] (plainGroups "league_search_status" []),
    .phrases ["estado de busqueda de league", "estado de busqueda de lol", "estado de matchmaking de league"]
      (intent "league_search_status" []),
    .phrases ["estado de league", "estado de la partida", "estado de busqueda", "estado del matchmaking",
      "estado de matchmaking"] (intent "league_status" []),
    -- timer_list
    .patterns .normalized [cat [oneOf ["lista", "muestra", "ensena", "enseña"], " ", maybe "los ",
      "temporizadores", maybe " activos"]] (plainGroups "timer_list" []),
    .phrases ["temporizadores", "temporizadores activos"] (intent "timer_list" []),
    -- timer_cancel
    .patterns .original [cat [oneOf ["cancela", "elimina"], " ", maybe "el ", "temporizador ",
      captured (.rep (.oneOf [.range 'A' 'Z', .range 'a' 'z', .range '0' '9', .char '_', .char '-'])
        1 (some 32) true)]] (plainGroups "timer_cancel" [("timer_id", 1)]),
    -- open_url
    .patterns .original [cat [abrir, " ", maybe (oneOf ["la ", "una "]), oneOf ["url", "enlace"],
      maybe " validada", " ", captured url]] (plainGroups "open_url" [("url", 1)]),
    -- media_action
    .patterns .normalized [cat ["control multimedia ",
      captured (oneOf ["play_pause", "next", "previous", "stop"])]] (plainGroups "media_action" [("action", 1)]),
    -- search
    .patterns .original [cat [either [busca, "buscar", "consulta"], maybe (oneOf [" en", " por"]), " ",
      internet, " ", captured most]] (strippedGroups "web_search" ["query"]),
    -- search_suffix
    .patterns .original [cat [either [busca, "buscar", "consulta"], " ", captured most, " ",
      oneOf ["en", "por"], " ", internet]] (strippedGroups "web_search" ["query"]),
    -- search_subject
    .patterns .original [cat [either [busca, "buscar", "consulta"], " algo ", oneOf ["en", "por"], " ",
      internet, " ", maybe (cat [oneOf ["sobre", "acerca de", "de"], " "]), captured most]]
      (strippedGroups "web_search" ["query"])]

/-- Music by name. -/
def musicRules : List Rule :=
  [.phrases ["busca musica", "buscar musica", "busca la musica", "buscar la musica", "busca una cancion",
      "buscar una cancion", "busca la cancion", "buscar la cancion"] (intent "music_open" []),
    -- music_search
    .patterns .original [cat [either [busca, "buscar"], " ", maybe "en ",
      oneOf ["apple music", "música", "musica"], " ", captured most]] music,
    -- music_search_natural
    .patterns .original [cat [either [busca, "buscar"], " ", maybe "la ", musica, " ", maybe "de ",
      captured least, enMusica]] music,
    -- music_request
    .patterns .original [cat [pon, maybe (cat [maybe (cat [oneOf ["la", "el", "una", "un"], " "]), cancion,
      maybe " de "]), captured least, " ", maybe "en ", "apple music"]] music,
    -- music_request_natural
    .patterns .original [cat [pon, maybe "la ", musica, " ", maybe "de ", captured least, enMusica]] music,
    -- music_request_without_service: a selection falls through
    .patterns .original [cat [pon, maybe (cat [oneOf ["la", "el", "una", "un"], " "]), cancion,
      maybe " de ", captured most]] (fun u groups =>
        let term := cleanMusicTerm u (group groups 1)
        if isSelection u term then none else answer (musicIntent u term)),
    -- music_deictic
    .patterns .original [cat [pon, "la de ", captured least, enMusica]] musicOrSelection,
    -- music_listen
    .patterns .original [cat [oneOf ["quiero", "me gustaría", "me gustaria"], " escuchar ",
      maybe (oneOf ["la ", "una "]), maybe (cat [cancion, " de "]), captured least, enMusica]]
      musicOrSelection,
    -- song_search
    .patterns .original [cat [either [busca, "buscar"], " ", maybe (oneOf ["la ", "una "]),
      oneOf ["canción", "cancion", "tema"], " ", maybe "de ", captured least,
      maybe (cat [" en ", oneOf ["apple music", "música", "musica"]])]]
      (fun u groups => answer (musicIntent u (group groups 1).strip)),
    -- music_search_suffix
    .patterns .original [cat [either [busca, "buscar"], " ", captured least, " ", maybe "en ",
      either ["apple music", musica, "musica"]]] music]

/-- League queues, numbers, and the processes of the user. -/
def lastRules : List Rule :=
  [ -- league_wait
    .patterns .normalized [cat [either ["espera", "avisame", cat ["avisa", maybe "me"]], " ",
      oneOf ["a que", "cuando"], " ", maybe (cat [maybe "el ", oneOf ["league", "lol"], " "]),
      oneOf ["encuentre", "aparezca", "salga"], " ", maybe "una ", oneOf ["partida", "match"],
      maybe (cat [" durante ", captured (decimals 1 (some 3)), " segundo", maybe "s"])]] leagueWaitIntent,
    -- league_search
    .patterns .normalized
      [cat [maybe (cat ["quiero", maybe " que", " "]),
          either [cat ["busca", maybe "me"], "buscar", "encuentra", cat ["inicia", maybe "r"],
            cat ["empieza", maybe "r"], cat ["comienza", maybe "r"], "juega", "jugar"], " ",
          maybe "una ", either ["partida", cat ["busqueda", maybe " de partida"]],
          maybe (cat [" ", captured most])],
        cat [either ["ponme", "meteme", cat ["entra", maybe "r"]], " en cola", maybe " de",
          maybe (cat [" ", captured most])],
        cat [oneOf ["inicia", "empieza", "comienza"], " ", maybe "el ", "matchmaking",
          maybe (cat [" ", oneOf ["en", "de"]]), maybe (cat [" ", captured most])]] leagueSearch,
    -- volume
    .patterns .normalized [cat [oneOf ["pon", "ajusta"], " el volumen ", captured (decimals 1 (some 3))]]
      audioVolume,
    -- timer_seconds
    .patterns .normalized [cat [oneOf ["crea", "crear"], " ", maybe "un ", "temporizador ",
      captured (decimals 1 none)]] (timerCreate 1),
    -- timer
    .patterns .normalized [cat ["temporizador de ", captured (decimals 1 none), " minuto", maybe "s"]]
      (timerCreate 60),
    -- configured_process
    .patterns .original [cat [oneOf ["abre", "abrir", "inicia", "iniciar", "ejecuta", "ejecutar"], " ",
      maybe (cat [oneOf ["el", "la", "un", "una"], " "]),
      maybe (cat [either ["proceso", "programa", "app", cat ["aplicaci", chars "oó", "n"]], " "]),
      captured most]] (strippedGroups "open_app" ["app"])]

end

def rules : List Rule := fixedRules ++ whatsappRules ++ discordRules ++ systemRules ++ musicRules ++ lastRules

/-- `parse_text_intent`. -/
def parseTextIntent (u : Unicode) (text : PyStr) : Except Exn (Option ParsedIntent) :=
  let original := collapse text
  let normalized := foldPhrase u original
  if normalized.isEmpty then .ok none
  else (rules.findSome? (Rule.apply u original normalized)).getD (.ok none)

end Pipa.Intents
