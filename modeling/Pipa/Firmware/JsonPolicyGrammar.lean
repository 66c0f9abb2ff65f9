import Pipa.Lib.Base64Url
import Pipa.Lib.JsonGrammar
import Pipa.Firmware.JsonPolicy

/- What the scanner of `pipa_json_policy.cpp` says of the texts of RFC 8259: a text
   nested no deeper than it goes is accepted exactly when every object of its value
   has distinct member names. The scanner is followed along the derivation of the
   text; `Judges` carries the verdict from one part to the next. -/
namespace Pipa.Firmware.JsonPolicy
open Pipa.Lib Pipa.Lib.Scan Pipa.Lib.JsonGrammar

/-! ## Strings of the grammar -/

/-- The same digits as the grammar's. -/
theorem hexValue_eq (b : UInt8) : hexValue b = hexDigit? b := rfl

theorem readUnicodeEscape_text (h : Hex4) (rest : Bytes) :
    readUnicodeEscape (h.text ++ rest) = .accepted (h.value, rest) := by
  have h0 := (h.digit 0).isLt
  have h1 := (h.digit 1).isLt
  have h2 := (h.digit 2).isLt
  have hlen : ¬ (h.text ++ rest).length < 4 := by
    show ¬ (rest.length + 4 < 4)
    omega
  have hstep (digits codeUnit : Nat) (i : Fin 4) (tail : Bytes) :
      readHexDigits (digits + 1) codeUnit (h.spelt i :: tail) =
        readHexDigits digits ((codeUnit * 16 + (h.digit i).val) % 2 ^ 16) tail := by
    rw [readHexDigits, read_zero, accepted_bind, hexValue_eq, h.reads i]
    rfl
  unfold readUnicodeEscape
  rw [if_neg hlen]
  show readHexDigits 4 0 (h.spelt 0 :: h.spelt 1 :: h.spelt 2 :: h.spelt 3 :: rest) = _
  rw [hstep, hstep, hstep, hstep, readHexDigits]
  have h3 := (h.digit 3).isLt
  have hvalue : ((((0 * 16 + (h.digit 0).val) % 2 ^ 16 * 16 + (h.digit 1).val) % 2 ^ 16 * 16 + (h.digit 2).val) %
      2 ^ 16 * 16 + (h.digit 3).val) % 2 ^ 16 = h.value := by
    unfold Hex4.value
    omega
  rw [hvalue]

theorem readCodepoint_unit (h : Hex4) (scalar : h.value < 0xD800 ∨ 0xDFFF < h.value) (rest : Bytes) :
    readCodepoint (h.text ++ rest) = .accepted (h.value, rest) := by
  unfold readCodepoint
  rw [readUnicodeEscape_text, accepted_bind]
  show (if _ then _ else _) = _
  rw [if_neg (by omega), if_neg (by omega)]

theorem readCodepoint_pair {high low : Hex4} (isHigh : 0xD800 ≤ high.value ∧ high.value ≤ 0xDBFF)
    (isLow : 0xDC00 ≤ low.value ∧ low.value ≤ 0xDFFF) (rest : Bytes) :
    readCodepoint (high.text ++ 0x5C :: 0x75 :: (low.text ++ rest)) =
      .accepted (0x10000 + (high.value - 0xD800) * 0x400 + (low.value - 0xDC00), rest) := by
  unfold readCodepoint
  rw [readUnicodeEscape_text, accepted_bind]
  show (if _ then _ else _) = _
  rw [if_pos isHigh, if_neg (by simp), read_zero, accepted_bind, if_neg (by simp), read_one, accepted_bind,
    if_neg (by simp)]
  show (readUnicodeEscape (low.text ++ rest) >>= _) = _
  rw [readUnicodeEscape_text, accepted_bind]
  exact if_neg (by omega)

theorem appendCodepoint_eq (c : CodePoint) : appendCodepoint c.val = c.utf8 := by
  unfold appendCodepoint CodePoint.utf8
  by_cases h₁ : c.val < 0x80
  · rw [if_pos (by omega), if_pos h₁]
  rw [if_neg (by omega), if_neg h₁]
  by_cases h₂ : c.val < 0x800
  · exact (if_pos (by omega)).trans (if_pos h₂).symm
  rw [if_neg (by omega), if_neg h₂]
  by_cases h₃ : c.val < 0x10000
  · exact (if_pos (by omega)).trans (if_pos h₃).symm
  · exact (if_neg (by omega)).trans (if_neg h₃).symm

/-- A byte that `parseString` copies. -/
def isCopied (b : UInt8) : Bool := 0x20 ≤ b && b != 0x22 && b != 0x5C

theorem utf8_copied {c : CodePoint} (printable : 0x20 ≤ c.val) (unescaped : c.val ≠ 0x22 ∧ c.val ≠ 0x5C) :
    ∀ b ∈ c.utf8, isCopied b = true := by
  have hbyte {n : Nat} (hn : n < 256) (h : 0x20 ≤ n ∧ n ≠ 0x22 ∧ n ≠ 0x5C) : isCopied n.toUInt8 = true := by
    have hall : ∀ i : Fin 256, 0x20 ≤ i.val → i.val ≠ 0x22 → i.val ≠ 0x5C → isCopied i.val.toUInt8 = true := by
      decide +kernel
    exact hall ⟨n, hn⟩ h.1 h.2.1 h.2.2
  have hlt := c.lt
  unfold CodePoint.utf8
  split
  · simp only [List.forall_mem_cons]
    exact ⟨hbyte (by omega) ⟨printable, unescaped⟩, nofun⟩
  split
  · simp only [List.forall_mem_cons]
    exact ⟨hbyte (by omega) (by omega), hbyte (by omega) (by omega), nofun⟩
  split
  · simp only [List.forall_mem_cons]
    exact ⟨hbyte (by omega) (by omega), hbyte (by omega) (by omega), hbyte (by omega) (by omega), nofun⟩
  · simp only [List.forall_mem_cons]
    exact ⟨hbyte (by omega) (by omega), hbyte (by omega) (by omega), hbyte (by omega) (by omega),
      hbyte (by omega) (by omega), nofun⟩

/-! One round of the loop. -/

section
variable (turns : Nat) (output rest : Bytes)

theorem parseCharacters_quote : parseCharacters (turns + 1) output (0x22 :: rest) = .accepted (output, rest) := by
  rw [parseCharacters, if_neg (by simp), read_zero, accepted_bind]
  rfl

theorem parseCharacters_byte {b : UInt8} (h : isCopied b = true) :
    parseCharacters (turns + 1) output (b :: rest) = parseCharacters turns (output ++ [b]) rest := by
  have hb : (¬ b < 0x20 ∧ b ≠ 0x22) ∧ b ≠ 0x5C := by simpa [isCopied, UInt8.not_lt] using h
  rw [parseCharacters, if_neg (by simp), read_zero, accepted_bind]
  show (if _ then _ else _) = _
  rw [if_neg hb.1.2, if_neg hb.1.1, if_pos hb.2]
  rfl

theorem parseCharacters_escape (b : UInt8) :
    parseCharacters (turns + 1) output (0x5C :: b :: rest) =
      match shortEscape? b with
      | some c => parseCharacters turns (output ++ [c]) rest
      | none =>
        if b = 0x75 then do
          let (codepoint, rest) ← readCodepoint rest
          parseCharacters turns (output ++ appendCodepoint codepoint) rest
        else .refused := by
  rw [parseCharacters, if_neg (by simp), read_zero, accepted_bind]
  show (if _ then _ else _) = _
  rw [if_neg (by decide), if_neg (by decide), if_neg (by simp)]
  show (if rest.length + 1 = 0 then _ else (read (b :: rest) 0 >>= _)) = _
  rw [if_neg (by omega), read_zero, accepted_bind]
  show (if _ then parseCharacters turns (output ++ [b]) rest else _) = _
  unfold shortEscape?
  by_cases h₁ : b = 0x22 ∨ b = 0x5C ∨ b = 0x2F
  · rw [if_pos h₁, if_pos h₁]
  rw [if_neg h₁, if_neg h₁]
  by_cases h₂ : b = 0x62
  · rw [if_pos h₂, if_pos h₂]
    rfl
  rw [if_neg h₂, if_neg h₂]
  by_cases h₃ : b = 0x66
  · rw [if_pos h₃, if_pos h₃]
    rfl
  rw [if_neg h₃, if_neg h₃]
  by_cases h₄ : b = 0x6E
  · rw [if_pos h₄, if_pos h₄]
    rfl
  rw [if_neg h₄, if_neg h₄]
  by_cases h₅ : b = 0x72
  · rw [if_pos h₅, if_pos h₅]
    rfl
  rw [if_neg h₅, if_neg h₅]
  by_cases h₆ : b = 0x74
  · rw [if_pos h₆, if_pos h₆]
    rfl
  · rw [if_neg h₆, if_neg h₆]
    rfl

end

/-- The turns that are left are enough for what is left. -/
def Continues (turns : Nat) (output rest output' rest' : Bytes) : Prop :=
  ∃ turns', rest'.length < turns' ∧ parseCharacters turns output rest = parseCharacters turns' output' rest'

theorem parseCharacters_copied {copied : Bytes} (hcopied : ∀ b ∈ copied, isCopied b = true) {turns : Nat}
    (output : Bytes) {rest : Bytes} (h : (copied ++ rest).length < turns) :
    Continues turns output (copied ++ rest) (output ++ copied) rest := by
  induction copied generalizing turns output with
  | nil => exact ⟨turns, h, by rw [List.append_nil]; rfl⟩
  | cons b copied ih =>
    cases turns with
    | zero => exact absurd h (Nat.not_lt_zero _)
    | succ turns =>
      rw [List.forall_mem_cons] at hcopied
      obtain ⟨turns', hturns', hsame⟩ := ih hcopied.2 (output ++ [b]) (Nat.lt_of_succ_lt_succ h)
      refine ⟨turns', hturns', ?_⟩
      show parseCharacters (turns + 1) output (b :: (copied ++ rest)) = _
      rw [parseCharacters_byte turns output (copied ++ rest) hcopied.1, hsame, List.append_assoc]
      rfl

theorem short_not_u {b : UInt8} (h : b = 0x75) : shortEscape? b = none := by
  subst h
  rfl

/-- One character of the grammar. -/
theorem parseCharacters_piece (p : Piece) {turns : Nat} (output : Bytes) {rest : Bytes}
    (h : (p.text ++ rest).length < turns) :
    Continues turns output (p.text ++ rest) (output ++ p.char.utf8) rest := by
  cases p with
  | plain c scalar printable unescaped => exact parseCharacters_copied (utf8_copied printable unescaped) output h
  | short b c escape =>
    cases turns with
    | zero => exact absurd h (Nat.not_lt_zero _)
    | succ turns =>
      have hlen : rest.length + 2 < turns + 1 := h
      refine ⟨turns, by omega, ?_⟩
      have hutf8 : (Piece.short b c escape).char.utf8 = [c] := by
        have hascii := shortEscape?_ascii escape
        show (if c.toNat < 0x80 then [c.toNat.toUInt8] else _) = _
        rw [if_pos hascii, byte_eq rfl]
      show parseCharacters (turns + 1) output (0x5C :: b :: rest) = _
      rw [parseCharacters_escape, escape, hutf8]
  | unit u scalar =>
    cases turns with
    | zero => exact absurd h (Nat.not_lt_zero _)
    | succ turns =>
      have hlen : rest.length + 6 < turns + 1 := h
      refine ⟨turns, by omega, ?_⟩
      show parseCharacters (turns + 1) output (0x5C :: 0x75 :: (u.text ++ rest)) = _
      rw [parseCharacters_escape, short_not_u rfl]
      show (readCodepoint (u.text ++ rest) >>= _) = _
      rw [readCodepoint_unit u scalar, accepted_bind]
      exact congrArg (fun bytes => parseCharacters turns (output ++ bytes) rest)
        (appendCodepoint_eq (Piece.unit u scalar).char)
  | pair high low isHigh isLow =>
    cases turns with
    | zero => exact absurd h (Nat.not_lt_zero _)
    | succ turns =>
      have hlen : rest.length + 12 < turns + 1 := h
      refine ⟨turns, by omega, ?_⟩
      show parseCharacters (turns + 1) output (0x5C :: 0x75 :: (high.text ++ 0x5C :: 0x75 :: (low.text ++ rest))) = _
      rw [parseCharacters_escape, short_not_u rfl]
      show (readCodepoint (high.text ++ 0x5C :: 0x75 :: (low.text ++ rest)) >>= _) = _
      rw [readCodepoint_pair isHigh isLow, accepted_bind]
      exact congrArg (fun bytes => parseCharacters turns (output ++ bytes) rest)
        (appendCodepoint_eq (Piece.pair high low isHigh isLow).char)

theorem parseCharacters_pieces (s : Pieces) {turns : Nat} (output : Bytes) {rest : Bytes}
    (h : (s.text ++ 0x22 :: rest).length < turns) :
    parseCharacters turns output (s.text ++ 0x22 :: rest) = .accepted (output ++ s.chars.bytes, rest) := by
  induction s generalizing turns output with
  | nil =>
    cases turns with
    | zero => exact absurd h (Nat.not_lt_zero _)
    | succ turns =>
      show parseCharacters (turns + 1) output (0x22 :: rest) = .accepted (output ++ [], rest)
      rw [parseCharacters_quote, List.append_nil]
  | cons p s ih =>
    have htext : Pieces.text (p :: s) ++ 0x22 :: rest = p.text ++ (Pieces.text s ++ 0x22 :: rest) := by
      show (p.text ++ Pieces.text s) ++ _ = _
      rw [List.append_assoc]
    rw [htext] at h ⊢
    obtain ⟨turns', hturns', hsame⟩ := parseCharacters_piece p output h
    rw [hsame, ih _ hturns', List.append_assoc]
    rfl

/-- A string of the grammar is read for the characters it stands for. -/
theorem parseString_quoted (s : Pieces) (rest : Bytes) :
    parseString (quoted s ++ rest) = .accepted (s.chars.bytes, rest) := by
  have htext : quoted s ++ rest = 0x22 :: (s.text ++ 0x22 :: rest) := by
    show 0x22 :: ((s.text ++ [0x22]) ++ rest) = _
    rw [List.append_assoc]
    rfl
  unfold parseString
  rw [htext, expect_cons, accepted_bind]
  exact parseCharacters_pieces s [] (Nat.lt_succ_self _)

/-! ## Words, numbers and white space of the grammar -/

/-- What is left does not start with a byte of `p`. -/
def Stops (p : UInt8 → Bool) (rest : Bytes) : Prop := ∀ b ∈ rest.head?, p b = false

/-- What may stand after a value: the end, white space, or what closes or separates. -/
def isAfterValue (b : UInt8) : Bool := isWhitespace b || b == 0x2C || b == 0x5D || b == 0x7D

def AfterValue (rest : Bytes) : Prop := ∀ b ∈ rest.head?, isAfterValue b = true

theorem AfterValue.stops {rest : Bytes} (h : AfterValue rest) {p : UInt8 → Bool}
    (hp : ∀ b, isAfterValue b = true → p b = false) : Stops p rest :=
  fun b hb => hp b (h b hb)

theorem afterValue_spaces (w : Spaces) {rest : Bytes} (h : AfterValue rest) : AfterValue (w.val ++ rest) := by
  obtain ⟨w, hw⟩ := w
  cases w with
  | nil => exact h
  | cons b w =>
    intro c hc
    obtain rfl : b = c := Option.some.inj hc
    have hspace : isWhitespace b = true := hw b List.mem_cons_self
    simp [isAfterValue, hspace]

theorem Stops.dropWhile {p : UInt8 → Bool} {rest : Bytes} (h : Stops p rest) : rest.dropWhile p = rest := by
  cases rest with
  | nil => rfl
  | cons b rest => rw [List.dropWhile_cons, if_neg (by rw [h b rfl]; exact Bool.false_ne_true)]

theorem skipOne_stops {p : UInt8 → Bool} {rest : Bytes} (h : Stops p rest) :
    skipOne p rest = .accepted (false, rest) := by
  cases rest with
  | nil => rfl
  | cons b rest =>
    unfold skipOne
    rw [if_neg (by simp), read_zero, accepted_bind, if_neg (by rw [h b rfl]; exact Bool.false_ne_true)]

theorem skipOne_cons {p : UInt8 → Bool} {b : UInt8} (h : p b = true) (rest : Bytes) :
    skipOne p (b :: rest) = .accepted (true, rest) := by
  unfold skipOne
  rw [if_neg (by simp), read_zero, accepted_bind, if_pos h]
  rfl

theorem skipWhitespace_spaces (w : Spaces) {rest : Bytes} (h : Stops isWhitespace rest) :
    skipWhitespace (w.val ++ rest) = .accepted rest := skipWhile_append w.property h.dropWhile

theorem skipDigits (d : Bytes) (hd : ∀ b ∈ d, isDigitByte b = true) {rest : Bytes} (h : Stops isDigit rest) :
    skipWhile isDigit (d ++ rest) = .accepted rest := skipWhile_append hd h.dropWhile

theorem consumeLiteral_append (literal rest : Bytes) : consumeLiteral literal (literal ++ rest) = .accepted rest := by
  induction literal with
  | nil => rfl
  | cons c literal ih =>
    rw [List.cons_append, consumeLiteral, if_neg (by simp), read_zero, accepted_bind, if_neg (by simp)]
    exact ih

/-- The bytes of a token that decides nothing after a digit: none of them is a digit. -/
theorem afterValue_digit (b : UInt8) (h : isAfterValue b = true) :
    isDigit b = false ∧ b ≠ 0x2E ∧ b ≠ 0x65 ∧ b ≠ 0x45 := by
  have hb : b ∈ ([0x20, 0x09, 0x0A, 0x0D, 0x2C, 0x5D, 0x7D] : Bytes) := by
    simpa [isAfterValue, isWhitespace, or_assoc] using h
  have hall : ∀ b ∈ ([0x20, 0x09, 0x0A, 0x0D, 0x2C, 0x5D, 0x7D] : Bytes),
      isDigit b = false ∧ b ≠ 0x2E ∧ b ≠ 0x65 ∧ b ≠ 0x45 := List.forall_iff_forall_mem.mp (by decide)
  exact hall b hb

theorem digit_ne {b c : UInt8} (h : isDigitByte b = true) (hc : isDigitByte c = false) : b ≠ c := by
  rintro rfl
  rw [h] at hc
  cases hc

theorem stops_digits {d : Bytes} (hd : ∀ b ∈ d, isDigitByte b = true) (hne : d ≠ []) {p : UInt8 → Bool}
    (hp : ∀ b, isDigitByte b = true → p b = false) (rest : Bytes) : Stops p (d ++ rest) := by
  cases d with
  | nil => exact absurd rfl hne
  | cons c d =>
    intro b hb
    obtain rfl : c = b := Option.some.inj hb
    exact hp c (hd c List.mem_cons_self)

theorem skipExponent_text (exp : Option Exponent) {rest : Bytes} (h : AfterValue rest) :
    skipExponent (expText exp ++ rest) = .accepted rest := by
  have hdigits : Stops isDigit rest := h.stops (fun b hb => (afterValue_digit b hb).1)
  cases exp with
  | none =>
    have hstops : Stops (fun c => decide (c = 0x65 ∨ c = 0x45)) rest := by
      apply h.stops
      intro b hb
      obtain ⟨-, -, he, hE⟩ := afterValue_digit b hb
      simp [he, hE]
    show (skipOne _ rest >>= _) = _
    rw [skipOne_stops hstops, accepted_bind]
    rfl
  | some x =>
    have htext : expText (some x) ++ rest = x.e.val :: (signText x.sign ++ (x.digits.val ++ rest)) := by
      show (x.e.val :: (signText x.sign ++ x.digits.val)) ++ rest = _
      rw [List.cons_append, List.append_assoc]
    have hsign : ∃ signed, skipOne (fun c => decide (c = 0x2B ∨ c = 0x2D)) (signText x.sign ++ (x.digits.val ++ rest)) =
        .accepted (signed, x.digits.val ++ rest) := by
      cases x.sign with
      | none =>
        refine ⟨false, skipOne_stops (stops_digits x.digits.property.2 x.digits.property.1 ?_ rest)⟩
        intro b hb
        simp [digit_ne hb (by decide : isDigitByte 0x2B = false), digit_ne hb (by decide : isDigitByte 0x2D = false)]
      | some s => exact ⟨true, skipOne_cons (decide_eq_true s.property) _⟩
    obtain ⟨signed, hsign⟩ := hsign
    unfold skipExponent
    rw [htext, skipOne_cons (decide_eq_true x.e.property), accepted_bind]
    show (skipOne _ (signText x.sign ++ (x.digits.val ++ rest)) >>= _) = _
    rw [hsign, accepted_bind]
    exact skipDigits x.digits.val x.digits.property.2 hdigits

theorem stops_exp (exp : Option Exponent) {rest : Bytes} (h : AfterValue rest) :
    Stops isDigit (expText exp ++ rest) ∧ Stops (fun c => decide (c = 0x2E)) (expText exp ++ rest) := by
  cases exp with
  | none =>
    refine ⟨h.stops (fun b hb => (afterValue_digit b hb).1), h.stops (fun b hb => ?_)⟩
    exact decide_eq_false (afterValue_digit b hb).2.1
  | some x =>
    have he : ∀ b, b = 0x65 ∨ b = 0x45 → isDigit b = false ∧ decide (b = 0x2E) = false := by
      rintro b (rfl | rfl)
      · decide
      · decide
    constructor
    · intro b hb
      obtain rfl : x.e.val = b := Option.some.inj hb
      exact (he x.e.val x.e.property).1
    · intro b hb
      obtain rfl : x.e.val = b := Option.some.inj hb
      exact (he x.e.val x.e.property).2

theorem skipFraction_text (frac : Option Digits) {rest : Bytes} (hdigits : Stops isDigit rest)
    (hpoint : Stops (fun c => decide (c = 0x2E)) rest) : skipFraction (fracText frac ++ rest) = .accepted rest := by
  cases frac with
  | none =>
    show (skipOne _ rest >>= _) = _
    rw [skipOne_stops hpoint, accepted_bind]
    rfl
  | some d =>
    show (skipOne _ (0x2E :: (d.val ++ rest)) >>= _) = _
    rw [skipOne_cons (decide_eq_true rfl), accepted_bind]
    exact skipDigits d.val d.property.2 hdigits

theorem int_digits (d : IntDigits) : d.val ≠ [] ∧ ∀ b ∈ d.val, isDigitByte b = true := by
  obtain ⟨d, rfl | ⟨hne, -, hd⟩⟩ := d
  · exact ⟨nofun, List.forall_iff_forall_mem.mp (by decide)⟩
  · exact ⟨hne, hd⟩

theorem stops_frac (frac : Option Digits) {rest : Bytes} (h : Stops isDigit rest) :
    Stops isDigit (fracText frac ++ rest) := by
  cases frac with
  | none => exact h
  | some d =>
    intro b hb
    obtain rfl : 0x2E = b := Option.some.inj hb
    decide

/-- A number of the grammar is skipped, whatever it starts and ends with. -/
theorem parseNumber_text (n : Number) {rest : Bytes} (h : AfterValue rest) :
    parseNumber (n.text ++ rest) = .accepted rest := by
  obtain ⟨hne, hint⟩ := int_digits n.int
  obtain ⟨hexpDigits, hexpPoint⟩ := stops_exp n.exp h
  have htext : n.text ++ rest = (if n.minus then [0x2D] else []) ++
      (n.int.val ++ (fracText n.frac ++ (expText n.exp ++ rest))) := by
    unfold Number.text
    simp only [List.append_assoc]
  have hminus : ∃ minus, skipOne (fun c => decide (c = 0x2D)) (n.text ++ rest) =
      .accepted (minus, n.int.val ++ (fracText n.frac ++ (expText n.exp ++ rest))) := by
    rw [htext]
    cases n.minus with
    | true => exact ⟨true, skipOne_cons (decide_eq_true rfl) _⟩
    | false =>
      refine ⟨false, skipOne_stops (stops_digits hint hne ?_ _)⟩
      intro b hb
      exact decide_eq_false (digit_ne hb (by decide))
  obtain ⟨minus, hminus⟩ := hminus
  have hshorter : rest.length < (n.text ++ rest).length := by
    have := List.length_pos_of_ne_nil hne
    rw [htext]
    simp only [List.length_append]
    omega
  unfold parseNumber
  rw [hminus, accepted_bind]
  show (skipWhile isDigit (n.int.val ++ _) >>= _) = _
  rw [skipDigits n.int.val hint (stops_frac n.frac hexpDigits), accepted_bind,
    skipFraction_text n.frac hexpDigits hexpPoint, accepted_bind, skipExponent_text n.exp h, accepted_bind]
  exact if_pos hshorter

/-! ## Values of the grammar

`Judges x good rest`: the scan goes on at `rest` when `good` holds and is refused otherwise. -/

structure Judges (x : Scan Bytes) (good : Prop) (rest : Bytes) : Prop where
  accepts : good → x = .accepted rest
  refuses : ¬ good → x = .refused

theorem judges_accepted (rest : Bytes) : Judges (.accepted rest) True rest := ⟨fun _ => rfl, fun h => absurd trivial h⟩

theorem Judges.bind {x : Scan Bytes} {f : Bytes → Scan Bytes} {first second : Prop} {mid rest : Bytes}
    (hx : Judges x first mid) (hf : Judges (f mid) second rest) : Judges (x >>= f) (first ∧ second) rest where
  accepts h := by
    rw [hx.accepts h.1, accepted_bind]
    exact hf.accepts h.2
  refuses h := by
    by_cases hfirst : first
    · rw [hx.accepts hfirst, accepted_bind]
      exact hf.refuses (fun hsecond => h ⟨hfirst, hsecond⟩)
    · rw [hx.refuses hfirst]
      rfl

theorem Judges.congr {x : Scan Bytes} {good good' : Prop} {rest : Bytes} (h : Judges x good rest)
    (hgood : good ↔ good') : Judges x good' rest :=
  ⟨fun h' => h.accepts (hgood.mpr h'), fun h' => h.refuses (fun hg => h' (hgood.mp hg))⟩

/-- The branch `parseValue` takes on its first byte. -/
theorem parseValue_start {turns depth : Nat} (hdepth : depth ≤ kMaxNesting) (w : Spaces) {c : UInt8}
    (hc : isWhitespace c = false) (tail : Bytes) :
    parseValue (turns + 1) depth (w.val ++ c :: tail) =
      if c = 0x7B then parseObject turns (depth + 1) (c :: tail)
      else if c = 0x5B then parseArray turns (depth + 1) (c :: tail)
      else if c = 0x22 then do
        let (_, rest) ← parseString (c :: tail)
        .accepted rest
      else if c = 0x74 then consumeLiteral [0x74, 0x72, 0x75, 0x65] (c :: tail)
      else if c = 0x66 then consumeLiteral [0x66, 0x61, 0x6C, 0x73, 0x65] (c :: tail)
      else if c = 0x6E then consumeLiteral [0x6E, 0x75, 0x6C, 0x6C] (c :: tail)
      else parseNumber (c :: tail) := by
  have hstops : Stops isWhitespace (c :: tail) := by
    intro b hb
    obtain rfl : c = b := Option.some.inj hb
    exact hc
  rw [parseValue, if_neg (by omega), skipWhitespace_spaces w hstops, accepted_bind, if_neg (by simp), read_zero,
    accepted_bind]

/-- A number starts with a minus sign or a digit. -/
theorem number_head (n : Number) : ∃ c tail, n.text = c :: tail ∧ (c = 0x2D ∨ isDigitByte c = true) := by
  obtain ⟨hne, hint⟩ := int_digits n.int
  obtain ⟨c, d, hd⟩ := List.exists_cons_of_ne_nil hne
  unfold Number.text
  cases n.minus with
  | true => exact ⟨0x2D, _, rfl, .inl rfl⟩
  | false =>
    refine ⟨c, d ++ (fracText n.frac ++ expText n.exp), ?_, .inr (hint c (by rw [hd]; exact List.mem_cons_self))⟩
    show [] ++ (n.int.val ++ _) = _
    rw [hd]
    rfl

theorem numberByte_plain {c : UInt8} (h : c = 0x2D ∨ isDigitByte c = true) :
    isWhitespace c = false ∧ c ≠ 0x7B ∧ c ≠ 0x5B ∧ c ≠ 0x22 ∧ c ≠ 0x74 ∧ c ≠ 0x66 ∧ c ≠ 0x6E := by
  have hall : ∀ b ∈ ([0x20, 0x09, 0x0A, 0x0D, 0x7B, 0x5B, 0x22, 0x74, 0x66, 0x6E] : Bytes),
      b ≠ 0x2D ∧ isDigitByte b = false := List.forall_iff_forall_mem.mp (by decide)
  have hnot : c ∉ ([0x20, 0x09, 0x0A, 0x0D, 0x7B, 0x5B, 0x22, 0x74, 0x66, 0x6E] : Bytes) := by
    intro hc
    obtain ⟨hminus, hdigit⟩ := hall c hc
    obtain h | h := h
    · exact hminus h
    · rw [hdigit] at h
      cases h
  simp only [List.mem_cons, List.not_mem_nil, or_false, not_or] at hnot
  obtain ⟨hspace, htab, hline, hreturn, hopens⟩ := hnot
  refine ⟨?_, hopens⟩
  simp only [isWhitespace, Bool.or_eq_false_iff, beq_eq_false_iff_ne]
  exact ⟨⟨⟨hspace, htab⟩, hline⟩, hreturn⟩

/-- A value starts with a byte that is no white space, and does not close an array. -/
theorem tree_head (t : Tree) : ∃ c tail, t.text = c :: tail ∧ isWhitespace c = false ∧ c ≠ 0x5D := by
  cases t with
  | word w => cases w with
    | true => exact ⟨_, _, rfl, by decide, by decide⟩
    | false => exact ⟨_, _, rfl, by decide, by decide⟩
    | null => exact ⟨_, _, rfl, by decide, by decide⟩
  | number n =>
    obtain ⟨c, tail, htext, hc⟩ := number_head n
    refine ⟨c, tail, htext, (numberByte_plain hc).1, ?_⟩
    rintro rfl
    exact absurd hc (by decide)
  | string s => exact ⟨_, _, rfl, by decide, by decide⟩
  | emptyArray space => exact ⟨_, _, by rw [Tree.text], by decide, by decide⟩
  | array items => exact ⟨_, _, by rw [Tree.text], by decide, by decide⟩
  | emptyObject space => exact ⟨_, _, by rw [Tree.text], by decide, by decide⟩
  | object members => exact ⟨_, _, by rw [Tree.text], by decide, by decide⟩

theorem stops_tree (t : Tree) (rest : Bytes) : Stops isWhitespace (t.text ++ rest) := by
  obtain ⟨c, tail, htext, hc, -⟩ := tree_head t
  rw [htext]
  intro b hb
  obtain rfl : c = b := Option.some.inj hb
  exact hc

theorem parseValue_word {turns depth : Nat} (hdepth : depth ≤ kMaxNesting) (w : Spaces) (word : Word) (rest : Bytes) :
    parseValue (turns + 1) depth (w.val ++ (word.text ++ rest)) = .accepted rest := by
  cases word with
  | true =>
    show parseValue _ _ (w.val ++ 0x74 :: _) = _
    rw [parseValue_start hdepth w (by decide)]
    exact consumeLiteral_append [0x74, 0x72, 0x75, 0x65] rest
  | false =>
    show parseValue _ _ (w.val ++ 0x66 :: _) = _
    rw [parseValue_start hdepth w (by decide)]
    exact consumeLiteral_append [0x66, 0x61, 0x6C, 0x73, 0x65] rest
  | null =>
    show parseValue _ _ (w.val ++ 0x6E :: _) = _
    rw [parseValue_start hdepth w (by decide)]
    exact consumeLiteral_append [0x6E, 0x75, 0x6C, 0x6C] rest

theorem parseValue_number {turns depth : Nat} (hdepth : depth ≤ kMaxNesting) (w : Spaces) (n : Number) {rest : Bytes}
    (h : AfterValue rest) : parseValue (turns + 1) depth (w.val ++ (n.text ++ rest)) = .accepted rest := by
  obtain ⟨c, tail, htext, hc⟩ := number_head n
  obtain ⟨hspace, h₁, h₂, h₃, h₄, h₅, h₆⟩ := numberByte_plain hc
  have hsplit : n.text ++ rest = c :: (tail ++ rest) := by rw [htext, List.cons_append]
  rw [hsplit, parseValue_start hdepth w hspace, if_neg h₁, if_neg h₂, if_neg h₃, if_neg h₄, if_neg h₅, if_neg h₆,
    ← hsplit, parseNumber_text n h]

theorem parseValue_string {turns depth : Nat} (hdepth : depth ≤ kMaxNesting) (w : Spaces) (s : Pieces) (rest : Bytes) :
    parseValue (turns + 1) depth (w.val ++ (quoted s ++ rest)) = .accepted rest := by
  show parseValue _ _ (w.val ++ 0x22 :: _) = _
  rw [parseValue_start hdepth w (by decide)]
  show (parseString (quoted s ++ rest) >>= _) = _
  rw [parseString_quoted]
  rfl

/-- Items without the white space before the first. -/
def itemsBody : Items → Bytes
  | .one _ value after => value.text ++ after.val
  | .more _ value after rest => value.text ++ (after.val ++ 0x2C :: rest.text)

/-- Members without the white space before the first. -/
def membersBody : Members → Bytes
  | .one _ name afterName beforeValue value after =>
    quoted name ++ (afterName.val ++ 0x3A :: (beforeValue.val ++ (value.text ++ after.val)))
  | .more _ name afterName beforeValue value after rest =>
    quoted name ++ (afterName.val ++ 0x3A :: (beforeValue.val ++ (value.text ++ (after.val ++ 0x2C :: rest.text))))

theorem items_text (i : Items) : ∃ before : Spaces, i.text = before.val ++ itemsBody i := by
  cases i with
  | one before value after => exact ⟨before, by rw [Items.text]; rfl⟩
  | more before value after rest => exact ⟨before, by rw [Items.text]; rfl⟩

theorem members_text (m : Members) : ∃ before : Spaces, m.text = before.val ++ membersBody m := by
  cases m with
  | one before name afterName beforeValue value after => exact ⟨before, by rw [Members.text]; rfl⟩
  | more before name afterName beforeValue value after rest => exact ⟨before, by rw [Members.text]; rfl⟩

/-- The body of an array starts with its first value, that of an object with a name. -/
theorem itemsBody_head (i : Items) (rest : Bytes) :
    ∃ c tail, itemsBody i ++ rest = c :: tail ∧ isWhitespace c = false ∧ c ≠ 0x5D := by
  cases i with
  | one before value after =>
    obtain ⟨c, tail, htext, hc⟩ := tree_head value
    exact ⟨c, _, by rw [itemsBody, htext]; rfl, hc⟩
  | more before value after others =>
    obtain ⟨c, tail, htext, hc⟩ := tree_head value
    exact ⟨c, _, by rw [itemsBody, htext]; rfl, hc⟩

theorem membersBody_head (m : Members) (rest : Bytes) : ∃ tail, membersBody m ++ rest = 0x22 :: tail := by
  cases m with
  | one before name afterName beforeValue value after => exact ⟨_, rfl⟩
  | more before name afterName beforeValue value after others => exact ⟨_, rfl⟩

theorem stops_cons {c : UInt8} (h : isWhitespace c = false) (rest : Bytes) : Stops isWhitespace (c :: rest) := by
  intro b hb
  obtain rfl : c = b := Option.some.inj hb
  exact h

/-- After the opening bracket comes a body that does not start with the closing one. -/
theorem openOr_body (left right : UInt8) (loop : Bytes → Scan Bytes) (before : Spaces) {c : UInt8} {tail : Bytes}
    (hspace : isWhitespace c = false) (hc : c ≠ right) :
    openOr left right loop (left :: (before.val ++ c :: tail)) = loop (c :: tail) := by
  unfold openOr
  rw [expect_cons, accepted_bind, skipWhitespace_spaces before (stops_cons hspace tail), accepted_bind, consume_cons,
    if_neg hc, accepted_bind]

/-- Or the closing bracket comes at once. -/
theorem openOr_empty (left : UInt8) {right : UInt8} (hright : isWhitespace right = false) (loop : Bytes → Scan Bytes)
    (space : Spaces) (rest : Bytes) : openOr left right loop (left :: (space.val ++ right :: rest)) = .accepted rest := by
  unfold openOr
  rw [expect_cons, accepted_bind, skipWhitespace_spaces space (stops_cons hright rest), accepted_bind, consume_cons,
    if_pos rfl, accepted_bind]

/-- After the last round the bracket is closed. -/
theorem closeOr_end {right : UInt8} (hright : isWhitespace right = false) (loop : Bytes → Scan Bytes) (after : Spaces)
    (rest : Bytes) : closeOr right loop (after.val ++ right :: rest) = .accepted rest := by
  unfold closeOr
  rw [skipWhitespace_spaces after (stops_cons hright rest), accepted_bind, consume_cons, if_pos rfl, accepted_bind]

/-- After a comma comes the next round. -/
theorem closeOr_next {right : UInt8} (hright : right ≠ 0x2C) (loop : Bytes → Scan Bytes) (after before : Spaces)
    {c : UInt8} {tail : Bytes} (hspace : isWhitespace c = false) :
    closeOr right loop (after.val ++ 0x2C :: (before.val ++ c :: tail)) = loop (c :: tail) := by
  unfold closeOr
  rw [skipWhitespace_spaces after (stops_cons (by decide) _), accepted_bind, consume_cons, if_neg hright.symm,
    accepted_bind]
  show (expect 0x2C (0x2C :: _) >>= _) = _
  rw [expect_cons, accepted_bind, skipWhitespace_spaces before (stops_cons hspace tail), accepted_bind]

/-- The loops of arrays and of objects, entered or continued at a body. -/
theorem parseArray_body (turns depth : Nat) (i : Items) (rest : Bytes) :
    parseArray (turns + 1) depth (0x5B :: (i.text ++ 0x5D :: rest)) =
      parseItems turns depth (itemsBody i ++ 0x5D :: rest) := by
  obtain ⟨before, htext⟩ := items_text i
  obtain ⟨c, tail, hbody, hspace, hclose⟩ := itemsBody_head i (0x5D :: rest)
  rw [parseArray, htext, List.append_assoc, hbody, openOr_body _ _ _ before hspace hclose]

theorem parseObject_body (turns depth : Nat) (m : Members) (rest : Bytes) :
    parseObject (turns + 1) depth (0x7B :: (m.text ++ 0x7D :: rest)) =
      parseMembers turns depth [] (membersBody m ++ 0x7D :: rest) := by
  obtain ⟨before, htext⟩ := members_text m
  obtain ⟨tail, hbody⟩ := membersBody_head m (0x7D :: rest)
  rw [parseObject, htext, List.append_assoc, hbody, openOr_body _ _ _ before (by decide) (by decide)]

theorem closeOr_items (turns depth : Nat) (after : Spaces) (i : Items) (rest : Bytes) :
    closeOr 0x5D (fun rest => parseItems turns depth rest) (after.val ++ 0x2C :: (i.text ++ rest)) =
      parseItems turns depth (itemsBody i ++ rest) := by
  obtain ⟨before, htext⟩ := items_text i
  obtain ⟨c, tail, hbody, hspace, -⟩ := itemsBody_head i rest
  rw [htext, List.append_assoc, hbody, closeOr_next (by decide) _ after before hspace]

theorem closeOr_members (turns depth : Nat) (keys : List Bytes) (after : Spaces) (m : Members) (rest : Bytes) :
    closeOr 0x7D (fun rest => parseMembers turns depth keys rest) (after.val ++ 0x2C :: (m.text ++ rest)) =
      parseMembers turns depth keys (membersBody m ++ rest) := by
  obtain ⟨before, htext⟩ := members_text m
  obtain ⟨tail, hbody⟩ := membersBody_head m rest
  rw [htext, List.append_assoc, hbody, closeOr_next (by decide) _ after before (by decide)]

/-- Names are the same text exactly when their UTF-8 is. -/
theorem chars_bytes_inj {s t : Pieces} (h : s.chars.bytes = t.chars.bytes) : s.chars = t.chars :=
  PyStr.encode_inj s.encode_chars (h ▸ t.encode_chars)

/-- One member up to its value: the name is compared with the keys so far. -/
theorem parseMembers_name (turns depth : Nat) (keys : List Bytes) (name : Pieces) (afterName : Spaces) (rest : Bytes) :
    parseMembers (turns + 1) depth keys (quoted name ++ (afterName.val ++ 0x3A :: rest)) =
      if name.chars.bytes ∈ keys then .refused
      else parseValue turns depth rest >>=
        closeOr 0x7D (fun rest => parseMembers turns depth (keys ++ [name.chars.bytes]) rest) := by
  rw [parseMembers, parseString_quoted, accepted_bind]
  show (if _ then _ else _) = _
  split
  · rfl
  · rw [skipWhitespace_spaces afterName (stops_cons (by decide) _), accepted_bind, expect_cons, accepted_bind]

/-- The names still to come are new when this one is and they differ from it. -/
theorem names_fresh {name : Pieces} {names : List PyStr} {keys : List Bytes}
    (hnames : ∀ n ∈ names, ∃ s : Pieces, n = s.chars) (hnew : name.chars.bytes ∉ keys) :
    (names.Nodup ∧ ∀ n ∈ names, n.bytes ∉ keys ++ [name.chars.bytes]) ↔
      (name.chars :: names).Nodup ∧ ∀ n ∈ name.chars :: names, n.bytes ∉ keys := by
  rw [List.nodup_cons, List.forall_mem_cons]
  constructor
  · rintro ⟨hnodup, hfresh⟩
    refine ⟨⟨?_, hnodup⟩, hnew, ?_⟩
    · intro hmem
      exact hfresh _ hmem (List.mem_append_right keys List.mem_cons_self)
    · intro n hn hkeys
      exact hfresh n hn (List.mem_append_left _ hkeys)
  · rintro ⟨⟨hdiffers, hnodup⟩, -, hfresh⟩
    refine ⟨hnodup, ?_⟩
    intro n hn hmem
    obtain hmem | hmem := List.mem_append.mp hmem
    · exact hfresh n hn hmem
    · obtain ⟨s, rfl⟩ := hnames n hn
      rw [← chars_bytes_inj (List.mem_singleton.mp hmem)] at hdiffers
      exact hdiffers hn

theorem names_spelt (m : Members) : ∀ n ∈ m.names, ∃ s : Pieces, n = s.chars := by
  cases m with
  | one before name afterName beforeValue value after =>
    intro n hn
    rw [Members.names] at hn
    exact ⟨name, List.mem_singleton.mp hn⟩
  | more before name afterName beforeValue value after rest =>
    intro n hn
    rw [Members.names] at hn
    obtain rfl | hn := List.mem_cons.mp hn
    · exact ⟨name, rfl⟩
    · exact names_spelt rest n hn

theorem afterValue_cons {b : UInt8} (h : isAfterValue b = true) (rest : Bytes) : AfterValue (b :: rest) := by
  intro c hc
  obtain rfl : b = c := Option.some.inj hc
  exact h

def noSpace : Spaces := ⟨[], nofun⟩

mutual

/-- The scanner judges a value of the grammar by its names, at every depth. -/
theorem parseValue_judges (t : Tree) {turns depth : Nat} (w : Spaces) {rest : Bytes}
    (hturns : 3 * (w.val ++ (t.text ++ rest)).length + 1 ≤ turns) (hdepth : depth + t.depth ≤ kMaxNesting)
    (hafter : AfterValue rest) :
    Judges (parseValue turns depth (w.val ++ (t.text ++ rest))) t.DuplicateFree rest := by
  obtain ⟨turns, rfl⟩ : ∃ n, turns = n + 1 := ⟨turns - 1, by omega⟩
  simp only [List.length_append] at hturns
  cases t with
  | word word =>
    rw [Tree.text, parseValue_word (by omega) w word rest, Tree.DuplicateFree]
    · exact judges_accepted rest
    all_goals nofun
  | number n =>
    rw [Tree.text, parseValue_number (by omega) w n hafter, Tree.DuplicateFree]
    · exact judges_accepted rest
    all_goals nofun
  | string s =>
    rw [Tree.text, parseValue_string (by omega) w s rest, Tree.DuplicateFree]
    · exact judges_accepted rest
    all_goals nofun
  | emptyArray space =>
    rw [Tree.depth] at hdepth
    rw [Tree.text] at hturns ⊢
    simp only [List.length_cons, List.length_append, List.length_nil] at hturns
    obtain ⟨turns, rfl⟩ : ∃ n, turns = n + 1 := ⟨turns - 1, by omega⟩
    show Judges (parseValue _ _ (w.val ++ 0x5B :: ((space.val ++ [0x5D]) ++ rest))) _ rest
    rw [parseValue_start (by omega) w (by decide), if_neg (by decide), if_pos rfl, List.append_assoc,
      List.singleton_append, parseArray, openOr_empty _ (by decide), Tree.DuplicateFree]
    · exact judges_accepted rest
    all_goals nofun
  | array items =>
    rw [Tree.depth] at hdepth
    rw [Tree.text] at hturns ⊢
    obtain ⟨before, htext⟩ := items_text items
    simp only [List.length_cons, List.length_append, List.length_nil, htext] at hturns
    obtain ⟨turns, rfl⟩ : ∃ n, turns = n + 1 := ⟨turns - 1, by omega⟩
    show Judges (parseValue _ _ (w.val ++ 0x5B :: ((items.text ++ [0x5D]) ++ rest))) _ rest
    rw [parseValue_start (by omega) w (by decide), if_neg (by decide), if_pos rfl, List.append_assoc,
      List.singleton_append, parseArray_body, Tree.DuplicateFree]
    exact parseItems_judges items (by simp only [List.length_append, List.length_cons]; omega) (by omega)
  | emptyObject space =>
    rw [Tree.depth] at hdepth
    rw [Tree.text] at hturns ⊢
    simp only [List.length_cons, List.length_append, List.length_nil] at hturns
    obtain ⟨turns, rfl⟩ : ∃ n, turns = n + 1 := ⟨turns - 1, by omega⟩
    show Judges (parseValue _ _ (w.val ++ 0x7B :: ((space.val ++ [0x7D]) ++ rest))) _ rest
    rw [parseValue_start (by omega) w (by decide), if_pos rfl, List.append_assoc, List.singleton_append, parseObject,
      openOr_empty _ (by decide), Tree.DuplicateFree]
    · exact judges_accepted rest
    all_goals nofun
  | object members =>
    rw [Tree.depth] at hdepth
    rw [Tree.text] at hturns ⊢
    obtain ⟨before, htext⟩ := members_text members
    simp only [List.length_cons, List.length_append, List.length_nil, htext] at hturns
    obtain ⟨turns, rfl⟩ : ∃ n, turns = n + 1 := ⟨turns - 1, by omega⟩
    show Judges (parseValue _ _ (w.val ++ 0x7B :: ((members.text ++ [0x7D]) ++ rest))) _ rest
    rw [parseValue_start (by omega) w (by decide), if_pos rfl, List.append_assoc, List.singleton_append,
      parseObject_body, Tree.DuplicateFree]
    apply (parseMembers_judges members [] (by simp only [List.length_append, List.length_cons]; omega)
      (by omega)).congr
    simp

theorem parseItems_judges (i : Items) {turns depth : Nat} {rest : Bytes}
    (hturns : 3 * (itemsBody i ++ 0x5D :: rest).length + 2 ≤ turns) (hdepth : depth + i.depth ≤ kMaxNesting) :
    Judges (parseItems turns depth (itemsBody i ++ 0x5D :: rest)) i.DuplicateFree rest := by
  obtain ⟨turns, rfl⟩ : ∃ n, turns = n + 1 := ⟨turns - 1, by omega⟩
  cases i with
  | one before value after =>
    rw [Items.depth] at hdepth
    simp only [itemsBody, List.append_assoc] at hturns ⊢
    have hvalue : Judges (parseValue turns depth (value.text ++ (after.val ++ 0x5D :: rest))) value.DuplicateFree
        (after.val ++ 0x5D :: rest) :=
      parseValue_judges value noSpace (Nat.le_of_succ_le_succ hturns) hdepth
        (afterValue_spaces after (afterValue_cons (by decide) rest))
    have hend : closeOr 0x5D (fun rest => parseItems turns depth rest) (after.val ++ 0x5D :: rest) = .accepted rest :=
      closeOr_end (by decide) _ after rest
    rw [parseItems, Items.DuplicateFree]
    exact (hvalue.bind (hend ▸ judges_accepted rest)).congr (and_iff_left trivial)
  | more before value after others =>
    rw [Items.depth] at hdepth
    obtain ⟨space, htext⟩ := items_text others
    simp only [itemsBody, List.append_assoc, List.cons_append] at hturns ⊢
    have hvalue : Judges (parseValue turns depth (value.text ++ (after.val ++ 0x2C :: (others.text ++ 0x5D :: rest))))
        value.DuplicateFree (after.val ++ 0x2C :: (others.text ++ 0x5D :: rest)) :=
      parseValue_judges value noSpace (Nat.le_of_succ_le_succ hturns) (by omega)
        (afterValue_spaces after (afterValue_cons (by decide) _))
    simp only [htext, List.length_append, List.length_cons] at hturns
    have hothers : Judges (parseItems turns depth (itemsBody others ++ 0x5D :: rest)) others.DuplicateFree rest :=
      parseItems_judges others (by simp only [List.length_append, List.length_cons]; omega) (by omega)
    rw [parseItems, Items.DuplicateFree]
    apply hvalue.bind
    rw [closeOr_items]
    exact hothers

theorem parseMembers_judges (m : Members) {turns depth : Nat} (keys : List Bytes) {rest : Bytes}
    (hturns : 3 * (membersBody m ++ 0x7D :: rest).length + 2 ≤ turns) (hdepth : depth + m.depth ≤ kMaxNesting) :
    Judges (parseMembers turns depth keys (membersBody m ++ 0x7D :: rest))
      ((m.names.Nodup ∧ ∀ n ∈ m.names, n.bytes ∉ keys) ∧ m.DuplicateFree) rest := by
  obtain ⟨turns, rfl⟩ : ∃ n, turns = n + 1 := ⟨turns - 1, by omega⟩
  cases m with
  | one before name afterName beforeValue value after =>
    rw [Members.depth] at hdepth
    simp only [membersBody, List.append_assoc, List.cons_append, List.length_append, List.length_cons] at hturns ⊢
    rw [parseMembers_name, Members.DuplicateFree, Members.names]
    by_cases hkey : name.chars.bytes ∈ keys
    · rw [if_pos hkey]
      exact ⟨fun h => absurd hkey (h.1.2 name.chars List.mem_cons_self), fun _ => rfl⟩
    · have hvalue : Judges (parseValue turns depth (beforeValue.val ++ (value.text ++ (after.val ++ 0x7D :: rest))))
          value.DuplicateFree (after.val ++ 0x7D :: rest) :=
        parseValue_judges value beforeValue (by simp only [List.length_append, List.length_cons]; omega) hdepth
          (afterValue_spaces after (afterValue_cons (by decide) rest))
      have hend : closeOr 0x7D (fun rest => parseMembers turns depth (keys ++ [name.chars.bytes]) rest)
          (after.val ++ 0x7D :: rest) = .accepted rest := closeOr_end (by decide) _ after rest
      rw [if_neg hkey]
      apply (hvalue.bind (hend ▸ judges_accepted rest)).congr
      simp [hkey]
  | more before name afterName beforeValue value after others =>
    rw [Members.depth] at hdepth
    obtain ⟨space, htext⟩ := members_text others
    simp only [membersBody, List.append_assoc, List.cons_append] at hturns ⊢
    rw [parseMembers_name, Members.DuplicateFree, Members.names]
    by_cases hkey : name.chars.bytes ∈ keys
    · rw [if_pos hkey]
      exact ⟨fun h => absurd hkey (h.1.2 name.chars List.mem_cons_self), fun _ => rfl⟩
    · simp only [htext, List.length_append, List.length_cons] at hturns
      have hvalue : Judges (parseValue turns depth
            (beforeValue.val ++ (value.text ++ (after.val ++ 0x2C :: (others.text ++ 0x7D :: rest)))))
          value.DuplicateFree (after.val ++ 0x2C :: (others.text ++ 0x7D :: rest)) :=
        parseValue_judges value beforeValue (by simp only [htext, List.length_append, List.length_cons]; omega)
          (by omega) (afterValue_spaces after (afterValue_cons (by decide) _))
      have hothers : Judges
          (parseMembers turns depth (keys ++ [name.chars.bytes]) (membersBody others ++ 0x7D :: rest))
          ((others.names.Nodup ∧ ∀ n ∈ others.names, n.bytes ∉ keys ++ [name.chars.bytes]) ∧ others.DuplicateFree)
          rest :=
        parseMembers_judges others _ (by simp only [List.length_append, List.length_cons]; omega) (by omega)
      rw [if_neg hkey]
      apply (hvalue.bind (by rw [closeOr_members]; exact hothers)).congr
      rw [← names_fresh (names_spelt others) hkey]
      exact and_left_comm
end

/-! ## The scanner -/

/-- A text of the grammar nested no deeper than the scanner goes: `true` exactly when in every object the
names are distinct. -/
theorem duplicateFree_iff (t : Text) (hdepth : t.value.depth ≤ kMaxNesting) {turns : Nat}
    (hturns : 3 * t.bytes.length + 1 ≤ turns) :
    duplicateFree turns (some t.bytes) = .accepted true ↔ t.value.DuplicateFree := by
  obtain ⟨before, value, after⟩ := t
  have hend : AfterValue after.val := by
    have hnothing : AfterValue (after.val ++ []) := afterValue_spaces after nofun
    rwa [List.append_nil] at hnothing
  have hne : ¬ (before.val ++ (value.text ++ after.val)).length = 0 := by
    obtain ⟨c, tail, htext, -⟩ := tree_head value
    simp only [htext, List.length_append, List.length_cons]
    omega
  simp only [Text.bytes] at hturns ⊢
  have hvalue : Judges (parseValue turns 0 (value.text ++ after.val)) value.DuplicateFree after.val :=
    parseValue_judges value noSpace
      (by simp only [List.length_append, noSpace, List.length_nil] at hturns ⊢; omega) (by simpa using hdepth) hend
  have hlast : skipWhitespace after.val = .accepted [] := by
    have hnothing : skipWhitespace (after.val ++ []) = .accepted [] := skipWhitespace_spaces after nofun
    rwa [List.append_nil] at hnothing
  unfold duplicateFree
  show (if _ then _ else _) = _ ↔ _
  rw [if_neg hne, skipWhitespace_spaces before (stops_tree value after.val), accepted_bind]
  constructor
  · intro h
    by_contra hbad
    rw [hvalue.refuses hbad] at h
    cases h
  · intro hgood
    rw [hvalue.accepts hgood, accepted_bind, hlast]
    rfl

/-- `isDuplicateFreeJson` is exact on the texts of RFC 8259 without unpaired surrogates that are nested at most
32 levels deep, and on any buffer it ends, however many turns it gets beyond those that are enough, without a
read outside the buffer. -/
theorem isDuplicateFreeJson_exact :
    (∀ t : Text, t.value.depth ≤ kMaxNesting → (isDuplicateFreeJson (some t.bytes) = true ↔ t.value.DuplicateFree)) ∧
    ∀ (json : Option Bytes) (turns : Nat), 3 * (json.getD []).length + 1 ≤ turns →
      duplicateFree turns json ≠ .outside ∧ duplicateFree turns json ≠ .unfinished := by
  constructor
  · intro t hdepth
    have hiff := duplicateFree_iff t hdepth (Nat.le_refl _)
    unfold isDuplicateFreeJson
    rw [beq_iff_eq]
    exact hiff
  · intro json turns hturns
    have hends := duplicateFree_ends json hturns
    cases hresult : duplicateFree turns json with
    | outside =>
      rw [hresult] at hends
      exact hends.elim
    | unfinished =>
      rw [hresult] at hends
      exact hends.elim
    | refused => exact ⟨nofun, nofun⟩
    | accepted b => exact ⟨nofun, nofun⟩

end Pipa.Firmware.JsonPolicy
