import Mathlib.Data.List.SplitBy
import Pipa.Intents.Pattern

/- `parse_catalog_intent`: the phrases of a command catalog, which the user may
   have edited, read as patterns. A descriptor is any mapping; what it holds is
   checked as far as the source checks it, and a value that cannot be looked up in
   a set raises a `TypeError` (`other`). -/
namespace Pipa.Intents
open Pipa.Lib Pipa.Core

/-! ## Phrases -/

inductive Piece where
  | literal (text : PyStr)
  | placeholder (name : PyStr)

/-- The pieces of a phrase around the matches of `<[^<>]+>`: `text` is the literal read so
far and `open?` what was read of a placeholder. -/
def scanPhrase (text : PyStr) (open? : Option PyStr) : PyStr → List Piece
  | [] =>
    match open? with
    | none => [.literal text]
    | some name => [.literal (text ++ CodePoint.ofChar '<' :: name)]
  | c :: phrase =>
    match open? with
    | none =>
      if c = CodePoint.ofChar '<' then scanPhrase text (some []) phrase else scanPhrase (text ++ [c]) none phrase
    | some name =>
      if c = CodePoint.ofChar '<' then scanPhrase (text ++ CodePoint.ofChar '<' :: name) (some []) phrase
      else if c = CodePoint.ofChar '>' then
        if name.isEmpty then scanPhrase (text ++ [CodePoint.ofChar '<', CodePoint.ofChar '>']) none phrase
        else .literal text :: .placeholder name :: scanPhrase [] none phrase
      else scanPhrase text (some (name ++ [c])) phrase

def pieces (phrase : PyStr) : List Piece := scanPhrase [] none phrase

/-- The matches of `<([^<>]+)>`. -/
def placeholders (phrase : PyStr) : List PyStr :=
  (pieces phrase).filterMap (fun
    | .literal _ => none
    | .placeholder name => some name)

/-- `re.sub(r"<[^<>]+>", "", phrase)`. -/
def withoutPlaceholders (phrase : PyStr) : PyStr :=
  (pieces phrase).flatMap (fun
    | .literal text => text
    | .placeholder _ => [])

/-- `_catalog_literal_pattern`: a run of white space stands for any other. -/
def catalogLiteralPattern (value : PyStr) : Pattern :=
  .cat ((value.splitBy (fun a b => a.isSpace == b.isSpace)).map (fun part =>
    if part.all CodePoint.isSpace then Pattern.spaces else Regex.atoms (part.map Atom.char)))

def Piece.pattern : Piece → Pattern
  | .literal text => catalogLiteralPattern text
  | .placeholder _ => .captured Pattern.least

/-- The pattern of a phrase. -/
def phrasePattern (phrase : PyStr) : Pattern := .cat ((pieces phrase).map Piece.pattern)

/-! ## Values -/

/-- `isinstance(value, int)`, of a `bool` too. -/
def integer? : Value → Option Int
  | .int n => some n
  | .bool b => some (if b then 1 else 0)
  | _ => none

/-- `needle in haystack`. -/
def isInfix (needle : PyStr) : PyStr → Bool
  | [] => needle.isEmpty
  | c :: s => needle.isPrefixOf (c :: s) || isInfix needle s

/-- `value in options`, for options that are not empty. -/
def isOption (value : PyStr) : Value → Except Exn Bool
  | .list items => .ok (items.any (fun
      | .str item => item = value
      | _ => false))
  | .dict items => .ok (Object.keys items |>.any (· = value))
  | .str text => .ok (isInfix value text)
  | _ => .error .other

/-- `value == name` for a text. -/
def isText (name : String) : Value → Bool
  | .str s => s = PyStr.ofString name
  | _ => false

/-- The part of `_catalog_value` after the checks of length and options. -/
def catalogKindValue (u : Unicode) (kind : Value) (value : PyStr) : Except Exn (Option Value) :=
  if isText "integer" kind then .ok ((parseInt? u value).map Value.int)
  else if isText "phone" kind && (fullmatch u false Pattern.phone value).isNone then .ok none
  else if !kind.hashable then .error .other
  else if (isText "channel_id" kind || isText "guild_id" kind) &&
      (fullmatch u false Pattern.snowflake value).isNone then .ok none
  else if isText "url" kind && (fullmatch u true Pattern.url value).isNone then .ok none
  else .ok (some (.str value))

/-- `_catalog_value`. A text without a UTF-8 form raises `UnicodeEncodeError`, a `ValueError`. -/
def catalogValue (u : Unicode) (value : PyStr) (parameter : Object) : Except Exn (Option Value) :=
  let value := value.strip
  let kind := (parameter.get? (PyStr.ofString "kind")).getD .null
  let options := (parameter.get? (PyStr.ofString "options")).getD (.list [])
  if value.isEmpty then .ok none
  else match integer? ((parameter.get? (PyStr.ofString "max_length")).getD .null) with
    | none => .ok none
    | some maximum =>
      match value.encode with
      | none => .error .valueError
      | some encoded =>
        if (encoded.length : Int) > maximum then .ok none
        else if options.truthy then
          match isOption value options with
          | .error e => .error e
          | .ok false => .ok none
          | .ok true => catalogKindValue u kind value
        else catalogKindValue u kind value

/-! ## The parser -/

/-- `kind in {"phone", "integer", "channel_id", "guild_id", "url"}`. -/
def isTyped (kind : Value) : Except Exn Bool :=
  if !kind.hashable then .error .other
  else .ok (["phone", "integer", "channel_id", "guild_id", "url"].any (fun k => isText k kind))

/-- The loop over `zip(parameters, match.groups(), strict=True)`: the arguments and what they
add to the specificity. -/
def readArguments (u : Unicode) (arguments : Object) (specificity : Nat) :
    List Value → Groups → Except Exn (Option (Object × Nat))
  | [], [] => .ok (some (arguments, specificity))
  | .dict parameter :: parameters, raw :: groups =>
    match Object.get? parameter (PyStr.ofString "name") with
    | some (.str name) =>
      match catalogValue u (raw.getD []) parameter with
      | .error e => .error e
      | .ok none => .ok none
      | .ok (some value) =>
        match isTyped ((Object.get? parameter (PyStr.ofString "kind")).getD .null) with
        | .error e => .error e
        | .ok typed =>
          readArguments u (arguments.set name value) (specificity + if typed then 50 else 0) parameters groups
    | _ => .ok none
  | _ :: _, _ :: _ => .ok none
  | _, _ => .error .valueError

/-- The arguments once the defaults of the command are taken in. -/
def defaultedArguments (arguments : Object) : Value → Option Object
  | .null => some arguments
  | .dict defaults => if arguments.isEmpty then some defaults else none
  | _ => none

/-- One turn of the loop of `parse_catalog_intent`: the candidate a command makes. -/
def candidate (u : Unicode) (original : PyStr) (command : Object) : Except Exn (Option (Nat × ParsedIntent)) :=
  match command.get? (PyStr.ofString "phrase"), command.get? (PyStr.ofString "tool_name"),
      (command.get? (PyStr.ofString "parameters")).getD (.list []) with
  | some (.str phrase), some (.str toolName), .list parameters =>
    match fullmatch u true (phrasePattern phrase) original with
    | none => .ok none
    | some groups =>
      if (placeholders phrase).length ≠ parameters.length then .ok none
      else match readArguments u [] (withoutPlaceholders phrase).length parameters groups with
        | .error e => .error e
        | .ok none => .ok none
        | .ok (some (arguments, specificity)) =>
          match defaultedArguments arguments ((command.get? (PyStr.ofString "default_arguments")).getD .null) with
          | none => .ok none
          | some arguments => .ok (some (specificity, ⟨toolName, arguments⟩))
  | _, _, _ => .ok none

/-- The candidates, in the order of the catalog. -/
def candidates (u : Unicode) (original : PyStr) : List Object → Except Exn (List (Nat × ParsedIntent))
  | [] => .ok []
  | command :: commands =>
    match candidate u original command with
    | .error e => .error e
    | .ok found =>
      match candidates u original commands with
      | .error e => .error e
      | .ok rest => .ok (found.toList ++ rest)

/-- `max(candidates, key=lambda item: item[0])`: the first of the most specific. -/
def mostSpecific : List (Nat × ParsedIntent) → Option (Nat × ParsedIntent)
  | [] => none
  | best :: rest => some (rest.foldl (fun best item => if best.1 < item.1 then item else best) best)

/-- `parse_catalog_intent`. -/
def parseCatalogIntent (u : Unicode) (text : PyStr) (commands : List Object) :
    Except Exn (Option ParsedIntent) :=
  let original := collapse text
  if original.isEmpty then .ok none
  else match candidates u original commands with
    | .error e => .error e
    | .ok found => .ok ((mostSpecific found).map Prod.snd)

end Pipa.Intents
