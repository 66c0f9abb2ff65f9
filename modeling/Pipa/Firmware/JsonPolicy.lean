import Pipa.Lib.Scan

/- The scanner that refuses repeated keys before ArduinoJson parses
   (`pipa_json_policy.cpp`). Every function gets what is left of the buffer; a
   `Scan` says whether it returned `true`, with what is left then, or `false`.
   `parseValue` and the functions it calls in turn count turns, one for each call
   or round of a loop: three for each byte are enough. -/
namespace Pipa.Firmware.JsonPolicy
open Pipa.Lib Pipa.Lib.Scan

def kMaxNesting : Nat := 32

/-! ## The scanner -/

def isWhitespace (character : UInt8) : Bool :=
  character == 0x20 || character == 0x09 || character == 0x0A || character == 0x0D

def isDigit (character : UInt8) : Bool := 0x30 ≤ character && character ≤ 0x39

def hexValue (character : UInt8) : Option Nat :=
  if 0x30 ≤ character ∧ character ≤ 0x39 then some (character.toNat - 0x30)
  else if 0x61 ≤ character ∧ character ≤ 0x66 then some (character.toNat - 0x61 + 10)
  else if 0x41 ≤ character ∧ character ≤ 0x46 then some (character.toNat - 0x41 + 10)
  else none

/-- The bytes `appendCodepoint` appends. -/
def appendCodepoint (codepoint : Nat) : Bytes :=
  if codepoint ≤ 0x7F then [codepoint.toUInt8]
  else if codepoint ≤ 0x7FF then [(0xC0 + codepoint / 2 ^ 6).toUInt8, (0x80 + codepoint % 64).toUInt8]
  else if codepoint ≤ 0xFFFF then
    [(0xE0 + codepoint / 2 ^ 12).toUInt8, (0x80 + codepoint / 2 ^ 6 % 64).toUInt8, (0x80 + codepoint % 64).toUInt8]
  else
    [(0xF0 + codepoint / 2 ^ 18).toUInt8, (0x80 + codepoint / 2 ^ 12 % 64).toUInt8,
      (0x80 + codepoint / 2 ^ 6 % 64).toUInt8, (0x80 + codepoint % 64).toUInt8]

def skipWhitespace (rest : Bytes) : Scan Bytes := skipWhile isWhitespace rest

/-- The loop of `readUnicodeEscape`: digits still to read and the code unit so far. -/
def readHexDigits : Nat → Nat → Bytes → Scan (Nat × Bytes)
  | 0, codeUnit, rest => .accepted (codeUnit, rest)
  | digits + 1, codeUnit, rest => do
    let character ← read rest 0
    match hexValue character with
    | none => .refused
    | some digit => readHexDigits digits ((codeUnit * 16 + digit) % 2 ^ 16) (rest.drop 1)

def readUnicodeEscape (rest : Bytes) : Scan (Nat × Bytes) :=
  if rest.length < 4 then .refused else readHexDigits 4 0 rest

/-- The code point after `\u`, with the second half of a surrogate pair. -/
def readCodepoint (rest : Bytes) : Scan (Nat × Bytes) := do
  let (codeUnit, rest) ← readUnicodeEscape rest
  if 0xD800 ≤ codeUnit ∧ codeUnit ≤ 0xDBFF then
    if rest.length ≤ 1 then .refused
    else do
      let first ← read rest 0
      if first ≠ 0x5C then .refused
      else do
        let second ← read rest 1
        if second ≠ 0x75 then .refused
        else do
          let (low, rest) ← readUnicodeEscape (rest.drop 2)
          if low < 0xDC00 ∨ 0xDFFF < low then .refused
          else .accepted (0x10000 + (codeUnit - 0xD800) * 2 ^ 10 + (low - 0xDC00), rest)
  else if 0xDC00 ≤ codeUnit ∧ codeUnit ≤ 0xDFFF then .refused
  else .accepted (codeUnit, rest)

/-- The loop of `parseString`, with the output so far. -/
def parseCharacters : Nat → Bytes → Bytes → Scan (Bytes × Bytes)
  | 0, _, _ => .unfinished
  | turns + 1, output, rest =>
    if rest.length = 0 then .refused
    else do
      let character ← read rest 0
      let rest := rest.drop 1
      if character = 0x22 then .accepted (output, rest)
      else if character < 0x20 then .refused
      else if character ≠ 0x5C then parseCharacters turns (output ++ [character]) rest
      else if rest.length = 0 then .refused
      else do
        let escape ← read rest 0
        let rest := rest.drop 1
        if escape = 0x22 ∨ escape = 0x5C ∨ escape = 0x2F then parseCharacters turns (output ++ [escape]) rest
        else if escape = 0x62 then parseCharacters turns (output ++ [0x08]) rest
        else if escape = 0x66 then parseCharacters turns (output ++ [0x0C]) rest
        else if escape = 0x6E then parseCharacters turns (output ++ [0x0A]) rest
        else if escape = 0x72 then parseCharacters turns (output ++ [0x0D]) rest
        else if escape = 0x74 then parseCharacters turns (output ++ [0x09]) rest
        else if escape = 0x75 then do
          let (codepoint, rest) ← readCodepoint rest
          parseCharacters turns (output ++ appendCodepoint codepoint) rest
        else .refused

/-- `parseString`: the text and what is left. -/
def parseString (rest : Bytes) : Scan (Bytes × Bytes) := do
  let rest ← expect 0x22 rest
  parseCharacters (rest.length + 1) [] rest

def consumeLiteral : Bytes → Bytes → Scan Bytes
  | [], rest => .accepted rest
  | cursor :: literal, rest =>
    if rest.length = 0 then .refused
    else do
      let character ← read rest 0
      if character ≠ cursor then .refused else consumeLiteral literal (rest.drop 1)

/-- `if (position_ < length_ && json_[position_] == character) ++position_;` -/
def skipOne (p : UInt8 → Bool) (rest : Bytes) : Scan (Bool × Bytes) :=
  if rest.length = 0 then .accepted (false, rest)
  else do
    let character ← read rest 0
    if p character then .accepted (true, rest.drop 1) else .accepted (false, rest)

/-- The fraction of `parseNumber`, where there is one. -/
def skipFraction (rest : Bytes) : Scan Bytes := do
  let (point, rest) ← skipOne (· = 0x2E) rest
  if point then skipWhile isDigit rest else .accepted rest

/-- The exponent of `parseNumber`, where there is one. -/
def skipExponent (rest : Bytes) : Scan Bytes := do
  let (exponent, rest) ← skipOne (fun c => c = 0x65 ∨ c = 0x45) rest
  if exponent then do
    let (_, rest) ← skipOne (fun c => c = 0x2B ∨ c = 0x2D) rest
    skipWhile isDigit rest
  else .accepted rest

def parseNumber (start : Bytes) : Scan Bytes := do
  let (_, rest) ← skipOne (· = 0x2D) start
  let rest ← skipWhile isDigit rest
  let rest ← skipFraction rest
  let rest ← skipExponent rest
  if rest.length < start.length then .accepted rest else .refused

/-- How `parseObject` and `parseArray` start: after the opening bracket comes the closing one, or the loop. -/
def openOr (left right : UInt8) (loop : Bytes → Scan Bytes) (rest : Bytes) : Scan Bytes := do
  let rest ← expect left rest
  let rest ← skipWhitespace rest
  match ← consume right rest with
  | some rest => .accepted rest
  | none => loop rest

/-- How a round of their loops ends: the closing bracket, or a comma and the next round. -/
def closeOr (right : UInt8) (loop : Bytes → Scan Bytes) (rest : Bytes) : Scan Bytes := do
  let rest ← skipWhitespace rest
  match ← consume right rest with
  | some rest => .accepted rest
  | none => do
    let rest ← expect 0x2C rest
    let rest ← skipWhitespace rest
    loop rest

mutual

def parseValue : Nat → Nat → Bytes → Scan Bytes
  | 0, _, _ => .unfinished
  | turns + 1, depth, rest =>
    if depth > kMaxNesting then .refused
    else do
      let rest ← skipWhitespace rest
      if rest.length = 0 then .refused
      else do
        let character ← read rest 0
        if character = 0x7B then parseObject turns (depth + 1) rest
        else if character = 0x5B then parseArray turns (depth + 1) rest
        else if character = 0x22 then do
          let (_, rest) ← parseString rest
          .accepted rest
        else if character = 0x74 then consumeLiteral [0x74, 0x72, 0x75, 0x65] rest
        else if character = 0x66 then consumeLiteral [0x66, 0x61, 0x6C, 0x73, 0x65] rest
        else if character = 0x6E then consumeLiteral [0x6E, 0x75, 0x6C, 0x6C] rest
        else parseNumber rest

def parseObject : Nat → Nat → Bytes → Scan Bytes
  | 0, _, _ => .unfinished
  | turns + 1, depth, rest => openOr 0x7B 0x7D (fun rest => parseMembers turns depth [] rest) rest

/-- The loop of `parseObject`, with the keys so far. -/
def parseMembers : Nat → Nat → List Bytes → Bytes → Scan Bytes
  | 0, _, _, _ => .unfinished
  | turns + 1, depth, keys, rest => do
    let (key, rest) ← parseString rest
    if key ∈ keys then .refused
    else do
      let rest ← skipWhitespace rest
      let rest ← expect 0x3A rest
      let rest ← parseValue turns depth rest
      closeOr 0x7D (fun rest => parseMembers turns depth (keys ++ [key]) rest) rest

def parseArray : Nat → Nat → Bytes → Scan Bytes
  | 0, _, _ => .unfinished
  | turns + 1, depth, rest => openOr 0x5B 0x5D (fun rest => parseItems turns depth rest) rest

/-- The loop of `parseArray`. -/
def parseItems : Nat → Nat → Bytes → Scan Bytes
  | 0, _, _ => .unfinished
  | turns + 1, depth, rest => do
    let rest ← parseValue turns depth rest
    closeOr 0x5D (fun rest => parseItems turns depth rest) rest

end

/-- `duplicateFree`; `none` is a null pointer. -/
def duplicateFree (turns : Nat) (json : Option Bytes) : Scan Bool :=
  match json with
  | none => .refused
  | some json =>
    if json.length = 0 then .refused
    else do
      let rest ← skipWhitespace json
      let rest ← parseValue turns 0 rest
      let rest ← skipWhitespace rest
      .accepted (rest.length = 0)

/-- `isDuplicateFreeJson`. -/
def isDuplicateFreeJson (json : Option Bytes) : Bool :=
  duplicateFree (3 * (json.getD []).length + 1) json == .accepted true

/-! ## Within the buffer

Each function ends, reads only inside the buffer, and leaves no more than it got. -/

/-- What is left is shorter by at least `n` bytes. -/
abbrev Shorter {α : Type} (rest : Bytes) (n : Nat) (r : α × Bytes) : Prop := r.2.length + n ≤ rest.length

theorem readHexDigits_ends {digits : Nat} {rest : Bytes} (h : digits ≤ rest.length) (codeUnit : Nat) :
    (readHexDigits digits codeUnit rest).Ends (Shorter rest digits) := by
  induction digits generalizing rest codeUnit with
  | zero => exact Nat.le_refl _
  | succ digits ih =>
    apply (ends_read (by omega)).bind
    intro character _
    cases hexValue character with
    | none => trivial
    | some digit =>
      have hdrop : (rest.drop 1).length = rest.length - 1 := List.length_drop
      apply (ih (by omega) _).mono
      intro r hr
      show r.2.length + (digits + 1) ≤ rest.length
      have : r.2.length + digits ≤ (rest.drop 1).length := hr
      omega

theorem readUnicodeEscape_ends (rest : Bytes) : (readUnicodeEscape rest).Ends (Shorter rest 4) :=
  Ends.ite (fun _ => trivial) (fun _ => readHexDigits_ends (by omega) 0)

theorem readCodepoint_ends (rest : Bytes) : (readCodepoint rest).Ends (Shorter rest 4) := by
  apply (readUnicodeEscape_ends rest).bind
  rintro ⟨codeUnit, rest₁⟩ (h₁ : rest₁.length + 4 ≤ rest.length)
  apply Ends.ite
  · intro _
    refine Ends.ite (fun _ => trivial) (fun hleft => ?_)
    apply (ends_read (by omega)).bind
    intro first _
    refine Ends.ite (fun _ => trivial) (fun _ => ?_)
    apply (ends_read (by omega)).bind
    intro second _
    refine Ends.ite (fun _ => trivial) (fun _ => ?_)
    apply (readUnicodeEscape_ends (rest₁.drop 2)).bind
    rintro ⟨low, rest₂⟩ (h₂ : rest₂.length + 4 ≤ (rest₁.drop 2).length)
    refine Ends.ite (fun _ => trivial) (fun _ => ?_)
    show rest₂.length + 4 ≤ rest.length
    have : (rest₁.drop 2).length = rest₁.length - 2 := List.length_drop
    omega
  · exact fun _ => Ends.ite (fun _ => trivial) (fun _ => h₁)

theorem parseCharacters_ends {turns : Nat} {rest : Bytes} (h : rest.length < turns) (output : Bytes) :
    (parseCharacters turns output rest).Ends (Shorter rest 1) := by
  induction turns generalizing rest output with
  | zero => exact absurd h (Nat.not_lt_zero _)
  | succ turns ih =>
    rw [parseCharacters]
    refine Ends.ite (fun _ => trivial) (fun hne => ?_)
    have hdrop : (rest.drop 1).length = rest.length - 1 := List.length_drop
    have hdrop₂ : ((rest.drop 1).drop 1).length = (rest.drop 1).length - 1 := List.length_drop
    -- the loop goes on after one or more bytes
    have hnext {rest' : Bytes} (hrest' : rest'.length + 1 ≤ rest.length) (output : Bytes) :
        (parseCharacters turns output rest').Ends (Shorter rest 1) := by
      apply (ih (by omega) output).mono
      intro r hr
      show r.2.length + 1 ≤ rest.length
      have : r.2.length + 1 ≤ rest'.length := hr
      omega
    apply (ends_read (by omega)).bind
    intro character _
    refine Ends.ite (fun _ => ?_) (fun _ => Ends.ite (fun _ => trivial) (fun _ => Ends.ite (fun _ => ?_) (fun _ => ?_)))
    · show (rest.drop 1).length + 1 ≤ rest.length
      omega
    · exact hnext (by omega) _
    refine Ends.ite (fun _ => trivial) (fun hleft => ?_)
    apply (ends_read (by omega)).bind
    intro escape _
    have hlen : ((rest.drop 1).drop 1).length + 1 ≤ rest.length := by omega
    refine Ends.ite (fun _ => hnext hlen _) (fun _ => Ends.ite (fun _ => hnext hlen _) (fun _ => ?_))
    refine Ends.ite (fun _ => hnext hlen _) (fun _ => Ends.ite (fun _ => hnext hlen _) (fun _ => ?_))
    refine Ends.ite (fun _ => hnext hlen _) (fun _ => Ends.ite (fun _ => hnext hlen _) (fun _ => ?_))
    refine Ends.ite (fun _ => ?_) (fun _ => trivial)
    apply (readCodepoint_ends ((rest.drop 1).drop 1)).bind
    rintro ⟨codepoint, rest'⟩ (hr : rest'.length + 4 ≤ _)
    exact hnext (by omega) _

theorem parseString_ends (rest : Bytes) : (parseString rest).Ends (Shorter rest 2) := by
  apply (expect_ends 0x22 rest).bind
  intro rest' h
  apply (parseCharacters_ends (Nat.lt_succ_self _) []).mono
  intro r hr
  show r.2.length + 2 ≤ rest.length
  have : r.2.length + 1 ≤ rest'.length := hr
  omega

theorem consumeLiteral_ends (literal rest : Bytes) :
    (consumeLiteral literal rest).Ends (fun rest' => rest'.length + literal.length ≤ rest.length) := by
  induction literal generalizing rest with
  | nil => exact Nat.le_refl _
  | cons cursor literal ih =>
    rw [consumeLiteral]
    refine Ends.ite (fun _ => trivial) (fun _ => ?_)
    apply (ends_read (by omega)).bind
    intro character _
    refine Ends.ite (fun _ => trivial) (fun _ => ?_)
    apply (ih (rest.drop 1)).mono
    intro rest' hr
    have : (rest.drop 1).length = rest.length - 1 := List.length_drop
    show rest'.length + (literal.length + 1) ≤ rest.length
    omega

theorem skipOne_ends (p : UInt8 → Bool) (rest : Bytes) : (skipOne p rest).Ends (Shorter rest 0) := by
  refine Ends.ite (fun _ => Nat.le_refl _) (fun _ => ?_)
  apply (ends_read (by omega)).bind
  intro character _
  refine Ends.ite (fun _ => ?_) (fun _ => Nat.le_refl _)
  show (rest.drop 1).length + 0 ≤ rest.length
  have : (rest.drop 1).length = rest.length - 1 := List.length_drop
  omega

theorem skipFraction_ends (rest : Bytes) : (skipFraction rest).Ends (fun rest' => rest'.length ≤ rest.length) := by
  apply (skipOne_ends _ rest).bind
  rintro ⟨point, rest₁⟩ (h₁ : rest₁.length + 0 ≤ _)
  apply Ends.ite
  · intro _
    exact (skipWhile_ends isDigit rest₁).mono (fun _ hr => by omega)
  · exact fun _ => h₁

theorem skipExponent_ends (rest : Bytes) : (skipExponent rest).Ends (fun rest' => rest'.length ≤ rest.length) := by
  apply (skipOne_ends _ rest).bind
  rintro ⟨exponent, rest₁⟩ (h₁ : rest₁.length + 0 ≤ _)
  apply Ends.ite
  · intro _
    apply (skipOne_ends _ rest₁).bind
    rintro ⟨_, rest₂⟩ (h₂ : rest₂.length + 0 ≤ _)
    exact (skipWhile_ends isDigit rest₂).mono (fun _ hr => by omega)
  · exact fun _ => h₁

theorem parseNumber_ends (start : Bytes) : (parseNumber start).Ends (fun rest => rest.length < start.length) := by
  apply (skipOne_ends _ start).bind
  rintro ⟨_, rest₁⟩ (h₁ : rest₁.length + 0 ≤ _)
  apply (skipWhile_ends isDigit rest₁).bind
  intro rest₂ h₂
  apply (skipFraction_ends rest₂).bind
  intro rest₃ h₃
  apply (skipExponent_ends rest₃).bind
  intro rest₄ h₄
  exact Ends.ite (fun h => h) (fun _ => trivial)

/-- What is left after a bracket is shorter than before it when the loop leaves no more than it got. -/
theorem openOr_ends (left right : UInt8) {loop : Bytes → Scan Bytes} {rest : Bytes}
    (hloop : ∀ rest' : Bytes, rest'.length < rest.length → (loop rest').Ends (fun r => r.length < rest'.length)) :
    (openOr left right loop rest).Ends (fun rest' => rest'.length < rest.length) := by
  apply (expect_ends left rest).bind
  intro rest₁ h₁
  apply (skipWhile_ends isWhitespace rest₁).bind
  intro rest₂ h₂
  apply (consume_ends right rest₂).bind
  intro o ho
  cases o with
  | some rest' =>
    have := ho rest' rfl
    show rest'.length < rest.length
    omega
  | none => exact (hloop rest₂ (by omega)).mono (fun _ hr => by omega)

theorem closeOr_ends (right : UInt8) {loop : Bytes → Scan Bytes} {rest : Bytes}
    (hloop : ∀ rest' : Bytes, rest'.length < rest.length → (loop rest').Ends (fun r => r.length < rest'.length)) :
    (closeOr right loop rest).Ends (fun rest' => rest'.length < rest.length) := by
  apply (skipWhile_ends isWhitespace rest).bind
  intro rest₁ h₁
  apply (consume_ends right rest₁).bind
  intro o ho
  cases o with
  | some rest' =>
    have := ho rest' rfl
    show rest'.length < rest.length
    omega
  | none =>
    apply (expect_ends 0x2C rest₁).bind
    intro rest₂ h₂
    apply (skipWhile_ends isWhitespace rest₂).bind
    intro rest₃ h₃
    exact (hloop rest₃ (by omega)).mono (fun _ hr => by omega)

/-- With three turns for each byte the functions that call each other end. -/
theorem parse_ends (turns : Nat) :
    (∀ depth rest, 3 * rest.length + 1 ≤ turns →
      (parseValue turns depth rest).Ends (fun rest' => rest'.length < rest.length)) ∧
    (∀ depth rest, 0 < rest.length → 3 * rest.length ≤ turns →
      (parseObject turns depth rest).Ends (fun rest' => rest'.length < rest.length)) ∧
    (∀ depth keys rest, 3 * rest.length + 2 ≤ turns →
      (parseMembers turns depth keys rest).Ends (fun rest' => rest'.length < rest.length)) ∧
    (∀ depth rest, 0 < rest.length → 3 * rest.length ≤ turns →
      (parseArray turns depth rest).Ends (fun rest' => rest'.length < rest.length)) ∧
    (∀ depth rest, 3 * rest.length + 2 ≤ turns →
      (parseItems turns depth rest).Ends (fun rest' => rest'.length < rest.length)) := by
  induction turns with
  | zero =>
    refine ⟨?_, ?_, ?_, ?_, ?_⟩ <;> intros <;> omega
  | succ turns ih =>
    obtain ⟨hvalue, hobject, hmembers, harray, hitems⟩ := ih
    refine ⟨?_, ?_, ?_, ?_, ?_⟩
    · intro depth rest h
      rw [parseValue]
      refine Ends.ite (fun _ => trivial) (fun _ => ?_)
      apply (skipWhile_ends isWhitespace rest).bind
      intro rest₁ h₁
      refine Ends.ite (fun _ => trivial) (fun hne => ?_)
      apply (ends_read (by omega)).bind
      intro character _
      have hword (literal : Bytes) (hpos : 0 < literal.length) :
          (consumeLiteral literal rest₁).Ends (fun rest' => rest'.length < rest.length) :=
        (consumeLiteral_ends literal rest₁).mono (fun _ hr => by omega)
      apply Ends.ite
      · exact fun _ => (hobject _ rest₁ (by omega) (by omega)).mono (fun _ hr => by omega)
      refine fun _ => Ends.ite ?_ (fun _ => Ends.ite ?_ (fun _ => Ends.ite ?_ ?_))
      · exact fun _ => (harray _ rest₁ (by omega) (by omega)).mono (fun _ hr => by omega)
      · intro _
        apply (parseString_ends rest₁).bind
        rintro ⟨_, rest₂⟩ (h₂ : rest₂.length + 2 ≤ _)
        show rest₂.length < rest.length
        omega
      · exact fun _ => hword _ (by decide)
      refine fun _ => Ends.ite ?_ (fun _ => Ends.ite ?_ ?_)
      · exact fun _ => hword _ (by decide)
      · exact fun _ => hword _ (by decide)
      · exact fun _ => (parseNumber_ends rest₁).mono (fun _ hr => by omega)
    · intro depth rest hpos h
      rw [parseObject]
      exact openOr_ends _ _ (fun rest' hr => hmembers depth [] rest' (by omega))
    · intro depth keys rest h
      rw [parseMembers]
      apply (parseString_ends rest).bind
      rintro ⟨key, rest₁⟩ (h₁ : rest₁.length + 2 ≤ _)
      refine Ends.ite (fun _ => trivial) (fun _ => ?_)
      apply (skipWhile_ends isWhitespace rest₁).bind
      intro rest₂ h₂
      apply (expect_ends 0x3A rest₂).bind
      intro rest₃ h₃
      apply (hvalue depth rest₃ (by omega)).bind
      intro rest₄ h₄
      exact (closeOr_ends _ (fun rest' hr => hmembers depth _ rest' (by omega))).mono (fun _ hr => by omega)
    · intro depth rest hpos h
      rw [parseArray]
      exact openOr_ends _ _ (fun rest' hr => hitems depth rest' (by omega))
    · intro depth rest h
      rw [parseItems]
      apply (hvalue depth rest (by omega)).bind
      intro rest₁ h₁
      exact (closeOr_ends _ (fun rest' hr => hitems depth rest' (by omega))).mono (fun _ hr => by omega)

/-- The scan of any buffer ends, and reads only inside it. -/
theorem duplicateFree_ends {turns : Nat} (json : Option Bytes) (h : 3 * (json.getD []).length + 1 ≤ turns) :
    (duplicateFree turns json).Ends (fun _ => True) := by
  cases json with
  | none => trivial
  | some json =>
    have h : 3 * json.length + 1 ≤ turns := h
    refine Ends.ite (fun _ => trivial) (fun _ => ?_)
    apply (skipWhile_ends isWhitespace json).bind
    intro rest₁ h₁
    apply ((parse_ends turns).1 0 rest₁ (by omega)).bind
    intro rest₂ h₂
    apply (skipWhile_ends isWhitespace rest₂).bind
    intro rest₃ h₃
    trivial

end Pipa.Firmware.JsonPolicy
