import Pipa.Secure.DeviceHandshake

/- The JSON documents of the firmware, as ArduinoJson holds them, and the texts
   its display takes (`pipa_text_policy.h`). Strings keep every byte; the code
   reads them as C strings. `deserializeJson` is a parameter of what uses it. -/
namespace Pipa.Firmware
open Pipa.Lib Pipa.Secure
open Pipa.Secure.Firmware (cString)

/-! ## Documents -/

inductive Json where
  | null
  | boolean (b : Bool)
  | integer (n : Int)
  | number (text : Bytes) -- any other number
  | text (bytes : Bytes)
  | array (items : List Json)
  | object (fields : List (Bytes × Json))

abbrev JsonObject := List (Bytes × Json)

namespace JsonObject

/-- `object[key]`. -/
def get (object : JsonObject) (key : String) : Json :=
  ((object.find? (fun e => e.1 = literal key)).map Prod.snd).getD .null

/-- `object[key] | default` for texts. -/
def textOr (object : JsonObject) (key default : String) : Bytes :=
  match object.get key with
  | .text bytes => cString bytes
  | _ => literal default

/-- `object[key] | 0`, with a 32-bit `int`. -/
def intOr0 (object : JsonObject) (key : String) : Int :=
  match object.get key with
  | .integer n => if -2 ^ 31 ≤ n ∧ n < 2 ^ 31 then n else 0
  | _ => 0

/-- `object[key].as<int64_t>()` where `is<int64_t>()` holds. -/
def int64? (object : JsonObject) (key : String) : Option Int :=
  match object.get key with
  | .integer n => if -2 ^ 63 ≤ n ∧ n < 2 ^ 63 then some n else none
  | _ => none

/-- `object[key].as<JsonObject>()`; `none` is a null object. -/
def object? (object : JsonObject) (key : String) : Option JsonObject :=
  match object.get key with
  | .object fields => some fields
  | _ => none

end JsonObject

/-- The members of a document; one that is no object has none. -/
def Json.members : Json → JsonObject
  | .object fields => fields
  | _ => []

/-- The escape of one byte of a string. -/
def escapeByte (b : UInt8) : Bytes :=
  if b = 0x22 then literal "\\\""
  else if b = 0x5C then literal "\\\\"
  else if b = 0x08 then literal "\\b"
  else if b = 0x0C then literal "\\f"
  else if b = 0x0A then literal "\\n"
  else if b = 0x0D then literal "\\r"
  else if b = 0x09 then literal "\\t"
  else if b = 0 then literal "\\u0000"
  else [b]

def serializeText (bytes : Bytes) : Bytes := literal "\"" ++ bytes.flatMap escapeByte ++ literal "\""

def joinBytes : List Bytes → Bytes
  | [] => []
  | [t] => t
  | t :: ts => t ++ literal "," ++ joinBytes ts

mutual

/-- `serializeJson`. -/
def serialize : Json → Bytes
  | .null => literal "null"
  | .boolean true => literal "true"
  | .boolean false => literal "false"
  | .integer n => literal (toString n)
  | .number text => text
  | .text bytes => serializeText bytes
  | .array items => literal "[" ++ joinBytes (serializeItems items) ++ literal "]"
  | .object fields => literal "\x7b" ++ joinBytes (serializeFields fields) ++ literal "\x7d"

def serializeItems : List Json → List Bytes
  | [] => []
  | item :: items => serialize item :: serializeItems items

def serializeFields : List (Bytes × Json) → List Bytes
  | [] => []
  | (key, value) :: fields => (serializeText key ++ literal ":" ++ serialize value) :: serializeFields fields

end

/-! ## Texts for the display -/

/-- A UTF-8 continuation byte. -/
def continuation (b : UInt8) : Bool := 0x80 ≤ b && b ≤ 0xBF

/-- The first code point of a text and what follows it; `none` where the text is malformed. -/
def decodeFirst : Bytes → Option (Nat × Bytes)
  | [] => none
  | first :: rest =>
    if first ≤ 0x7F then some (first.toNat, rest)
    else if 0xC2 ≤ first ∧ first ≤ 0xDF then
      match rest with
      | second :: rest =>
        if continuation second then some (first.toNat % 32 * 64 + second.toNat % 64, rest) else none
      | _ => none
    else if 0xE0 ≤ first ∧ first ≤ 0xEF then
      match rest with
      | second :: third :: rest =>
        if continuation third &&
            (if first = 0xE0 then 0xA0 ≤ second && second ≤ 0xBF
             else if first = 0xED then 0x80 ≤ second && second ≤ 0x9F
             else continuation second) then
          some (first.toNat % 16 * 4096 + second.toNat % 64 * 64 + third.toNat % 64, rest)
        else none
      | _ => none
    else if 0xF0 ≤ first ∧ first ≤ 0xF4 then
      match rest with
      | second :: third :: fourth :: rest =>
        if continuation third && continuation fourth &&
            (if first = 0xF0 then 0x90 ≤ second && second ≤ 0xBF
             else if first = 0xF4 then 0x80 ≤ second && second ≤ 0x8F
             else continuation second) then
          some (first.toNat % 8 * 262144 + second.toNat % 64 * 4096 + third.toNat % 64 * 64 + fourth.toNat % 64,
            rest)
        else none
      | _ => none
    else none

/-- The code points the display refuses. -/
def refused (codePoint : Nat) : Bool :=
  codePoint < 0x20 || (0x7F ≤ codePoint && codePoint ≤ 0x9F) || (0x200B ≤ codePoint && codePoint ≤ 0x200F) ||
  (0x202A ≤ codePoint && codePoint ≤ 0x202E) || (0x2060 ≤ codePoint && codePoint ≤ 0x2069) || codePoint = 0xFEFF

/-- The loop of `isSafeDisplayText`, with as many turns as there are bytes. -/
def safeLoop : Nat → Bytes → Bool
  | _, [] => true
  | 0, _ :: _ => false
  | turns + 1, text =>
    match decodeFirst text with
    | none => false
    | some (codePoint, rest) => !refused codePoint && safeLoop turns rest

/-- `isSafeDisplayText` of a C string. -/
def isSafeDisplayText (text : Bytes) (maxBytes : Nat) : Bool :=
  !text.isEmpty && text.length ≤ maxBytes && safeLoop text.length text

/-- `isSafeTextSource`. -/
def isSafeTextSource (source : Bytes) : Bool :=
  [literal "voice", literal "touch", literal "mobile", literal "debug", literal "unknown"].contains source

/-- `isSafeGesture`. -/
def isSafeGesture (gesture : Bytes) : Bool :=
  [literal "tap", literal "double_tap", literal "swipe_left", literal "swipe_right"].contains gesture

end Pipa.Firmware
