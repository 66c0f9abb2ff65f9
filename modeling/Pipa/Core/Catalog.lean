import Pipa.Core.Tools

/- The command catalog a session may ask for (`core.py`, `_catalog_response` and
   the validators it calls). Whatever goes wrong in it ends as the one
   `catalog_unavailable` error, so the validators return `Option`. -/
namespace Pipa.Core
open Pipa.Lib

def maxCatalogCommands : Nat := 64
def maxCatalogFieldLength : Nat := 256
def maxCatalogParameters : Nat := 8
def maxCatalogParameterOptions : Nat := 16
def maxCatalogParameterTextLength : Nat := 128
def maxCapabilityGroups : Nat := 16
def maxCapabilityFields : Nat := 16
def maxCapabilityKeyLength : Nat := 64
def maxCapabilityTextLength : Nat := 128

def names (l : List String) : List PyStr := l.map PyStr.ofString

def catalogFields : List PyStr :=
  names ["id", "tool_name", "phrase", "description", "safety", "requires_confirmation", "parameters",
    "default_arguments"]

def catalogParameterFields : List PyStr := names ["name", "label", "kind", "max_length", "options"]

def catalogParameterKinds : List PyStr :=
  names ["text", "message", "phone", "integer", "queue", "action", "app", "contact", "channel_id",
    "guild_id", "url"]

def capabilityGroups : List PyStr :=
  names ["web_search", "apple_music", "whatsapp", "discord", "league", "codex"]

def capabilityBooleanFields : List PyStr :=
  names ["available", "app_configured", "launcher_resolved", "search", "playback", "media_control",
    "requires_manual_selection", "open_web", "open_contact", "contact_aliases_configured",
    "prepare_message", "send_message", "requires_manual_send", "open_app", "open_channel",
    "start_call", "requires_manual_call", "client_ready", "open_client", "matchmaking",
    "cancel_matchmaking", "accept_match", "requires_manual_accept", "writes_to_chat",
    "requires_confirmation"]

def capabilityStringFields : List PyStr := names ["execution"]
def capabilityListFields : List PyStr := names ["queues"]

def isAsciiLetter (c : CodePoint) : Bool :=
  (0x41 ≤ c.val && c.val ≤ 0x5A) || (0x61 ≤ c.val && c.val ≤ 0x7A)

def isAsciiDigit (c : CodePoint) : Bool := 0x30 ≤ c.val && c.val ≤ 0x39

/-- A character of `[A-Za-z0-9_-]`. -/
def isIdentifierChar (c : CodePoint) : Bool :=
  isAsciiLetter c || isAsciiDigit c || c.val == 0x5F || c.val == 0x2D

/-- `^[A-Za-z][A-Za-z0-9_-]{0,63}$`, matched in full. -/
def isCatalogParameterName : PyStr → Bool
  | [] => false
  | c :: rest => isAsciiLetter c && rest.all isIdentifierChar && rest.length ≤ 63

def isSafeCatalogText (value : PyStr) : Bool :=
  !value.any (fun c => c.val < 0x20 || (0x7F ≤ c.val && c.val ≤ 0x9F) ||
    (0x200B ≤ c.val && c.val ≤ 0x200F) || (0x202A ≤ c.val && c.val ≤ 0x202E) ||
    (0x2060 ≤ c.val && c.val ≤ 0x2069) || c.val == 0xFEFF)

/-- A safe, non-blank text of at most `maxCatalogParameterTextLength` characters. -/
def catalogText? : Value → Option PyStr
  | .str s =>
    if s.isBlank || s.length > maxCatalogParameterTextLength || !isSafeCatalogText s then none
    else some s
  | _ => none

/-- The `options` of one parameter, as they are written back. -/
def validateCatalogOptions : Option Value → Option (List PyStr)
  | none => some []
  | some (.list items) =>
    match items.mapM catalogText? with
    | none => none
    | some options =>
      if options.length > maxCatalogParameterOptions ∨ ¬ options.Nodup then none else some options
  | some _ => none

/-- One entry of `_validate_catalog_parameters`, given the names already seen. -/
def validateCatalogParameter (seen : List PyStr) (parameter : Object) : Option (PyStr × Object) := do
  if parameter.keys.any (fun k => k ∉ catalogParameterFields) then none
  let .str name ← parameter.get? (PyStr.ofString "name") | none
  if !isCatalogParameterName name || name ∈ seen then none
  let label ← (parameter.get? (PyStr.ofString "label")).bind catalogText?
  let .str kind ← parameter.get? (PyStr.ofString "kind") | none
  if kind ∉ catalogParameterKinds then none
  let maxLength ← (parameter.get? (PyStr.ofString "max_length")).bind Value.asInt?
  if maxLength < 1 ∨ 4096 < maxLength then none
  let options ← validateCatalogOptions (parameter.get? (PyStr.ofString "options"))
  let normalized : Object :=
    [(PyStr.ofString "name", .str name), (PyStr.ofString "label", .str label.strip),
     (PyStr.ofString "kind", .str kind), (PyStr.ofString "max_length", .int maxLength)]
  some (name, if options.isEmpty then normalized
    else normalized ++ [(PyStr.ofString "options", .list (options.map (fun o => .str o.strip)))])

def validateCatalogParameterList (seen : List PyStr) : List Value → Option (List Object)
  | [] => some []
  | .dict fields :: vs => do
    let (name, parameter) ← validateCatalogParameter seen fields
    let rest ← validateCatalogParameterList (name :: seen) vs
    some (parameter :: rest)
  | _ :: _ => none

/-- `_validate_catalog_parameters`. -/
def validateCatalogParameters : Value → Option (List Object)
  | .list items => if items.length > maxCatalogParameters then none else validateCatalogParameterList [] items
  | _ => none

/-- `_validate_catalog_default_arguments`. -/
def validateCatalogDefaultArguments : Value → Option Object
  | .dict items =>
    if items.isEmpty || items.length > maxCatalogParameters then none
    else items.mapM (fun e => do
      if !isCatalogParameterName e.1 then none
      let argument ← catalogText? e.2
      some (e.1, .str argument.strip))
  | _ => none

/-- Printable capability text: a string, not blank, bounded, without ASCII controls. -/
def capabilityText? : Value → Option PyStr
  | .str s =>
    if s.isBlank || s.length > maxCapabilityTextLength || s.any (fun c => c.val < 0x20 || c.val == 0x7F)
    then none else some s
  | _ => none

/-- The value of one capability field, by the kind its name has. -/
def validateCapabilityValue (fieldName : PyStr) (value : Value) : Option Value :=
  match value with
  | .bool b => if fieldName ∈ capabilityBooleanFields then some (.bool b) else none
  | .str s =>
    if fieldName ∈ capabilityStringFields then (capabilityText? (.str s)).map (fun s => .str s.strip)
    else none
  | .list items =>
    if fieldName ∈ capabilityListFields then
      if items.length > maxCapabilityFields then none
      else (items.mapM capabilityText?).map (fun ts => .list (ts.map (fun s => .str s.strip)))
    else none
  | _ => none

def validateCapabilityFields : List (PyStr × Value) → Object → Option Object
  | [], safeFields => some safeFields
  | (name, value) :: rest, safeFields =>
    if name.isBlank || name.length > maxCapabilityKeyLength ||
      name.strip ∉ capabilityBooleanFields ++ capabilityStringFields ++ capabilityListFields then none
    else match validateCapabilityValue name.strip value with
      | none => none
      | some v => validateCapabilityFields rest (safeFields.set name.strip v)

def validateCapabilityGroups : List (PyStr × Value) → Object → Option Object
  | [], validated => some validated
  | (name, value) :: rest, validated =>
    match value with
    | .dict fields =>
      if name.isBlank || name.length > maxCapabilityKeyLength || name.strip ∉ capabilityGroups ||
        fields.length > maxCapabilityFields then none
      else match validateCapabilityFields fields [] with
        | none => none
        | some safe => validateCapabilityGroups rest (validated.set name.strip (.dict safe))
    | _ => none

/-- `_validate_capability_catalog`. -/
def validateCapabilityCatalog : Value → Option Object
  | .dict groups =>
    if groups.length > maxCapabilityGroups then none else validateCapabilityGroups groups []
  | _ => none

/-- A text field of a command: a non-blank string of bounded length. -/
def commandText? (value : Object) (field : String) : Option PyStr :=
  match value.get? (PyStr.ofString field) with
  | some (.str s) => if s.isBlank || s.length > maxCatalogFieldLength then none else some s
  | _ => none

def Safety.wire : Safety → PyStr
  | .safe => PyStr.ofString "safe"
  | .unsafeTool => PyStr.ofString "unsafe"

/-- One command of the catalog, checked against the registered tool. -/
def validateCommand {ω : Type} (catalog : ToolCatalog ω) (seen : List PyStr) (value : Object) :
    Option (PyStr × Object) := do
  if value.keys.any (fun k => k ∉ catalogFields) then none
  let parameters ← match value.get? (PyStr.ofString "parameters") with
    | none => some none
    | some v => (validateCatalogParameters v).map some
  let defaultArguments ← match value.get? (PyStr.ofString "default_arguments") with
    | none => some none
    | some v => (validateCatalogDefaultArguments v).map some
  if defaultArguments.isSome && parameters.any (fun p => !p.isEmpty) then none
  let commandId ← commandText? value "id"
  let toolName ← commandText? value "tool_name"
  let phrase ← commandText? value "phrase"
  let description ← commandText? value "description"
  let .str safety ← value.get? (PyStr.ofString "safety") | none
  let .bool requiresConfirmation ← value.get? (PyStr.ofString "requires_confirmation") | none
  let definition ← catalog.get? toolName.strip
  if safety ≠ definition.safety.wire ∨ requiresConfirmation ≠ (definition.safety == .unsafeTool) then none
  if commandId.strip ∈ seen then none
  let command : Object :=
    [(PyStr.ofString "id", .str commandId.strip), (PyStr.ofString "tool_name", .str toolName.strip),
     (PyStr.ofString "phrase", .str phrase.strip),
     (PyStr.ofString "description", .str description.strip), (PyStr.ofString "safety", .str safety),
     (PyStr.ofString "requires_confirmation", .bool requiresConfirmation)]
  let command := match parameters with
    | none => command
    | some ps => command ++ [(PyStr.ofString "parameters", .list (ps.map .dict))]
  let command := match defaultArguments with
    | none => command
    | some ds => command ++ [(PyStr.ofString "default_arguments", .dict ds)]
  some (commandId.strip, command)

def validateCommands {ω : Type} (catalog : ToolCatalog ω) (seen : List PyStr) :
    List Object → Option (List Object)
  | [] => some []
  | value :: vs => do
    let (id, command) ← validateCommand catalog seen value
    let rest ← validateCommands catalog (id :: seen) vs
    some (command :: rest)

/-- `_catalog_response`. The two callables return data of any content or raise. -/
def catalogResponse {ω : Type} (catalog : ToolCatalog ω)
    (commandCatalog : Option (ω → Except Exn (List Object)))
    (capabilityCatalog : Option (ω → Except Exn Value)) (w : ω) : List ServerMessage :=
  let commands : Option (List Object) :=
    match commandCatalog with
    | none => some []
    | some values =>
      match values w with
      | .ok items =>
        if items.length > maxCatalogCommands then none else validateCommands catalog [] items
      | .error _ => none
  match commands with
  | none => [.error .catalogUnavailable none]
  | some commands =>
    match capabilityCatalog with
    | none => [.catalog commands none]
    | some capabilities =>
      match capabilities w with
      | .error _ => [.error .catalogUnavailable none]
      | .ok value =>
        match validateCapabilityCatalog value with
        | none => [.error .catalogUnavailable none]
        | some capabilities => [.catalog commands (some capabilities)]

end Pipa.Core
