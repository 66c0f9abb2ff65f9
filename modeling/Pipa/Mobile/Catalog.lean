import Pipa.Core.Catalog
import Pipa.Link.DestinationPolicy
import Pipa.Mobile.StrictJson

/- The command catalog on the phone (`PipaMobileViewModel.swift`, `PipaMobileCommandEditor.swift`,
   `PipaMobileTextPolicy`): what it makes of the commands and of the capability matrix that the
   Core sends, and how a filled-in command becomes the arguments of a tool.

   A value is what `JSONSerialization` returns. The names of its fields are lower-case ASCII, which
   no other `String` is equal to; other texts are equal where `Foundation.canonical` is. -/
namespace Pipa.Mobile
open Pipa.Lib
open Pipa.Core (names isAsciiLetter isIdentifierChar)

/-- What the phone's code rests on. -/
structure Platform where
  text : SwiftText
  foundation : Foundation
  /-- The integer that a number written as a fraction is equal to. -/
  integral : PyStr → Option Int
  /-- `text.replacingOccurrences(of:with:)`. -/
  replacingOccurrences : PyStr → PyStr → PyStr → PyStr
  /-- `Int(_: String)`. -/
  parseInt : PyStr → Option Int

/-! ## Casts -/

/-- `value as? String`. -/
def asString : Value → Option PyStr
  | .str s => some s
  | _ => none

/-- `value as? [String]`. -/
def asStrings : Value → Option (List PyStr)
  | .list items => items.mapM asString
  | _ => none

/-- `value as? [String: Any]`. -/
def asDictionary : Value → Option Object
  | .dict fields => some fields
  | _ => none

/-- `value as? [[String: Any]]`. -/
def asDictionaries : Value → Option (List Object)
  | .list items => items.mapM asDictionary
  | _ => none

variable (p : Platform)

/-- The integer that an `NSNumber` is equal to; the Boolean ones are 0 and 1. -/
def number : Value → Option Int
  | .bool b => some (if b then 1 else 0)
  | .int n => some n
  | .float r => p.integral r
  | _ => none

/-- `value as? Int`. -/
def asInt (v : Value) : Option Int := (number p v).filter (fun n => -2 ^ 63 ≤ n && n < 2 ^ 63)

/-- `value as? Bool`. -/
def asBool (v : Value) : Option Bool :=
  match number p v with
  | some 0 => some false
  | some 1 => some true
  | _ => none

/-- `a == b`. -/
def same (a b : PyStr) : Bool := p.foundation.canonical a == p.foundation.canonical b

/-- `Set(texts).count == texts.count`. -/
def areDistinct (texts : List PyStr) : Bool := decide (texts.map p.foundation.canonical).Nodup

/-! ## Texts -/

namespace PipaMobileTextPolicy

def containsProtocolControl (value : PyStr) : Bool := value.any (fun c => c.val < 0x20 || c.val == 0x7F)

/-- What neither a label nor a message may hold. -/
def isInvisible (c : CodePoint) : Bool :=
  (0x7F ≤ c.val && c.val ≤ 0x9F) || (0x200B ≤ c.val && c.val ≤ 0x200F) || (0x202A ≤ c.val && c.val ≤ 0x202E) ||
    (0x2060 ≤ c.val && c.val ≤ 0x2069) || c.val == 0xFEFF || (0xE000 ≤ c.val && c.val ≤ 0xF8FF)

def containsDisplayControl (value : PyStr) : Bool := value.any (fun c => c.val < 0x20 || isInvisible c)

def isSafeDisplayText (value : PyStr) (maxBytes : Nat) : Bool :=
  !value.isEmpty && value.bytes.length ≤ maxBytes && !containsDisplayControl value

/-- As `isSafeDisplayText`, but with line feeds. -/
def isSafeMessageText (value : PyStr) (maxBytes : Nat) : Bool :=
  !value.isEmpty && value.bytes.length ≤ maxBytes &&
    !value.any (fun c => (c.val < 0x20 && c.val != 0x0A) || isInvisible c)

end PipaMobileTextPolicy

open PipaMobileTextPolicy

/-- A letter, then letters, digits, `-` and `_`; `isValidName` and `isValidDefaultArgumentName`. -/
def isValidName (value : PyStr) : Bool :=
  match value with
  | [] => false
  | first :: rest => value.bytes.length ≤ 64 && isAsciiLetter first && rest.all isIdentifierChar

/-! ## Commands -/

structure PipaMobileCommandParameter where
  id : PyStr
  label : PyStr
  kind : PyStr
  maxLength : Int
  options : List PyStr

namespace PipaMobileCommandParameter

def structuredParameterKinds : List PyStr :=
  names ["text", "message", "phone", "integer", "queue", "action", "app", "contact", "channel_id", "guild_id", "url"]

def fields : List PyStr := names ["name", "label", "kind", "max_length", "options"]

/-- The `options` of a parameter. -/
def parseOptions : Option Value → Option (List PyStr)
  | none => some []
  | some rawOptions => do
    let parsedOptions ← asStrings rawOptions
    guard (parsedOptions.length ≤ 16)
    guard (areDistinct p parsedOptions)
    guard (parsedOptions.all (fun option => isSafeDisplayText option 128))
    return parsedOptions

/-- `init?(payload:)`. -/
def parse (payload : Object) : Option PipaMobileCommandParameter := do
  guard (payload.keys.all (fun k => k ∈ fields))
  let name ← (payload.get? (PyStr.ofString "name")).bind asString
  let label ← (payload.get? (PyStr.ofString "label")).bind asString
  let kind ← (payload.get? (PyStr.ofString "kind")).bind asString
  let maxLength ← (payload.get? (PyStr.ofString "max_length")).bind (asInt p)
  guard (isValidName name)
  guard (isSafeDisplayText label 128)
  guard (kind ∈ structuredParameterKinds)
  guard (1 ≤ maxLength ∧ maxLength ≤ 4096)
  let options ← parseOptions p (payload.get? (PyStr.ofString "options"))
  return { id := name, label, kind, maxLength, options }

end PipaMobileCommandParameter

structure PipaMobileCommand where
  id : PyStr
  toolName : PyStr
  phrase : PyStr
  description : PyStr
  safety : PyStr
  requiresConfirmation : Bool
  parameters : List PipaMobileCommandParameter
  supportsStructuredArguments : Bool
  defaultArguments : List (PyStr × PyStr)

namespace PipaMobileCommand

def openBracket : PyStr := PyStr.ofString "<"
def closeBracket : PyStr := PyStr.ofString ">"

/-- The loop of `catalogPlaceholders`, over the characters behind the cursor. -/
def placeholdersFrom (labels : List PyStr) : Nat → List PyStr → List PyStr
  | 0, _ => labels
  | turns + 1, phrase =>
    match phrase.dropWhile (· ≠ openBracket) with
    | [] => labels
    | _ :: afterOpen =>
      let label := p.text.trim (afterOpen.takeWhile (· ≠ closeBracket)).flatten
      match afterOpen.dropWhile (· ≠ closeBracket) with
      | [] => labels
      | _ :: cursor =>
        if !label.isEmpty && label.bytes.length ≤ 80 && !labels.any (same p label) then
          placeholdersFrom (labels ++ [label]) turns cursor
        else placeholdersFrom labels turns cursor

/-- `catalogPlaceholders(in:)`. -/
def catalogPlaceholders (phrase : PyStr) : List PyStr :=
  placeholdersFrom p [] ((p.text.characters phrase).length + 1) (p.text.characters phrase)

def fields : List PyStr :=
  names ["id", "tool_name", "phrase", "description", "safety", "requires_confirmation", "parameters",
    "default_arguments"]

/-- The `parameters` of a command, and whether it has typed arguments. -/
def parseParameters (phrase : PyStr) : Option Value → Option (List PipaMobileCommandParameter × Bool)
  | none => some ([], false)
  | some value => do
    let rawList ← asDictionaries value
    guard (rawList.length ≤ 8)
    let parsed ← rawList.mapM (PipaMobileCommandParameter.parse p)
    guard (areDistinct p (parsed.map (·.id)))
    guard (parsed.length = (catalogPlaceholders p phrase).length)
    return (parsed, true)

/-- One of the `default_arguments`. -/
def parseDefault (e : PyStr × Value) : Option (PyStr × PyStr) := do
  guard (isValidName e.1)
  let value ← asString e.2
  guard (isSafeDisplayText value 128)
  return (e.1, value)

/-- `init?(payload:)`. -/
def parse (payload : Object) : Option PipaMobileCommand := do
  guard (payload.keys.all (fun k => k ∈ fields))
  let id ← (payload.get? (PyStr.ofString "id")).bind asString
  let toolName ← (payload.get? (PyStr.ofString "tool_name")).bind asString
  let phrase ← (payload.get? (PyStr.ofString "phrase")).bind asString
  let description ← (payload.get? (PyStr.ofString "description")).bind asString
  let safety ← (payload.get? (PyStr.ofString "safety")).bind asString
  let requiresConfirmation ← (payload.get? (PyStr.ofString "requires_confirmation")).bind (asBool p)
  guard (isSafeDisplayText id 128)
  guard (isSafeDisplayText toolName 80)
  guard (isSafeDisplayText phrase 256)
  guard (isSafeDisplayText description 256)
  guard (requiresConfirmation = (safety == PyStr.ofString "unsafe"))
  guard (safety = PyStr.ofString "safe" ∨ safety = PyStr.ofString "unsafe")
  let (parameters, structured) ← parseParameters p phrase (payload.get? (PyStr.ofString "parameters"))
  let command : PipaMobileCommand :=
    { id, toolName, phrase, description, safety, requiresConfirmation, parameters,
      supportsStructuredArguments := structured, defaultArguments := [] }
  match payload.get? (PyStr.ofString "default_arguments") with
  | none => return command
  | some rawDefaults => do
    let defaults ← asDictionary rawDefaults
    guard (1 ≤ defaults.length ∧ defaults.length ≤ 8)
    let defaultArguments ← defaults.mapM parseDefault
    guard (parameters.isEmpty ∧ (catalogPlaceholders p phrase).isEmpty)
    return { command with supportsStructuredArguments := true, defaultArguments }

/-! ### The editor -/

variable (command : PipaMobileCommand) (values : List (PyStr × PyStr))

/-- `values[label]`. -/
def value? (label : PyStr) : Option PyStr := (values.find? (fun e => same p e.1 label)).map Prod.snd

/-- The check of a value that was typed in: a message may have line feeds. -/
def isSafeValue (kind : Option PyStr) (value : PyStr) (maxBytes : Nat) : Bool :=
  if kind = some (PyStr.ofString "message") then isSafeMessageText value maxBytes else isSafeDisplayText value maxBytes

/-- The parameter that a placeholder stands for. -/
def parameterAt (index : Nat) : Option PipaMobileCommandParameter :=
  if command.parameters.length = (catalogPlaceholders p command.phrase).length then command.parameters[index]?
  else none

/-- The loop of `rendered(with:)`. -/
def renderFrom : List (PyStr × Nat) → PyStr → Option PyStr
  | [], rendered => some rendered
  | (label, index) :: rest, rendered => do
    let rawValue ← value? p values label
    let value := p.text.trim rawValue
    let parameter := parameterAt p command index
    guard (isSafeValue (parameter.map (·.kind)) value ((parameter.map (·.maxLength.toNat)).getD 4096))
    renderFrom rest (p.replacingOccurrences rendered (openBracket ++ label ++ closeBracket) value)

/-- `rendered(with:)`. -/
def rendered : Option PyStr := do
  let text ← renderFrom p command values (catalogPlaceholders p command.phrase).zipIdx command.phrase
  guard (if command.parameters.any (fun q => q.kind == PyStr.ofString "message") then isSafeMessageText text 4000
    else isSafeDisplayText text 4000)
  return text

/-- `isValidStructuredValue`. -/
def isValidStructuredValue (value : PyStr) (parameter : PipaMobileCommandParameter) : Bool :=
  if parameter.kind = PyStr.ofString "phone" then
    (Link.PipaMobileDestinationPolicy.normalizePhone p.text value).isSome
  else if parameter.kind ∈ names ["channel_id", "guild_id"] then
    (Link.PipaMobileDestinationPolicy.normalizeSnowflake p.text value).isSome
  else true

/-- The argument that a parameter becomes. -/
def toolArgument (parameter : PipaMobileCommandParameter) (placeholder : PyStr) : Option (PyStr × Value) := do
  let rawValue ← value? p values placeholder
  let value := p.text.trim rawValue
  guard (isSafeValue (some parameter.kind) value parameter.maxLength.toNat)
  guard (isValidStructuredValue p value parameter)
  guard (parameter.options.isEmpty ∨ parameter.options.any (same p value))
  if parameter.kind = PyStr.ofString "integer" then return (parameter.id, .int (← p.parseInt value))
  else return (parameter.id, .str value)

/-- `toolArguments(with:)`. -/
def toolArguments : Option Object := do
  let placeholders := catalogPlaceholders p command.phrase
  guard (command.supportsStructuredArguments ∧ command.parameters.length = placeholders.length)
  if command.parameters.isEmpty then
    guard values.isEmpty
    return command.defaultArguments.map (fun e => (e.1, .str e.2))
  else (command.parameters.zip placeholders).mapM (fun e => toolArgument p values e.1 e.2)

end PipaMobileCommand

/-- `parseCatalogCommands`. -/
def parseCatalogCommands (rawCommands : List Object) : Option (List PipaMobileCommand) := do
  guard (rawCommands.length ≤ 64)
  let parsed ← rawCommands.mapM (PipaMobileCommand.parse p)
  guard (areDistinct p (parsed.map (·.id)))
  return parsed

end Pipa.Mobile
