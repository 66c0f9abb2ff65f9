import Pipa.Lib.Utf8

/- The texts of RFC 8259 as trees: each tree is one derivation, and `text` spells
   it out in UTF-8. Member names are kept both as they are spelt and as the
   characters they stand for. A surrogate escape stands only in a pair. -/
namespace Pipa.Lib.JsonGrammar

/-! ## Tokens -/

def isSpaceByte (b : UInt8) : Bool := b == 0x20 || b == 0x09 || b == 0x0A || b == 0x0D
def isDigitByte (b : UInt8) : Bool := 0x30 ≤ b && b ≤ 0x39

/-- `ws`. -/
abbrev Spaces := {w : Bytes // ∀ b ∈ w, isSpaceByte b = true}

/-- `1*DIGIT`. -/
abbrev Digits := {d : Bytes // d ≠ [] ∧ ∀ b ∈ d, isDigitByte b = true}

/-- `int`: `0`, or digits that do not start with it. -/
abbrev IntDigits := {d : Bytes // d = [0x30] ∨ (d ≠ [] ∧ d.head? ≠ some 0x30 ∧ ∀ b ∈ d, isDigitByte b = true)}

/-- `exp`. -/
structure Exponent where
  e : {b : UInt8 // b = 0x65 ∨ b = 0x45}
  sign : Option {b : UInt8 // b = 0x2B ∨ b = 0x2D}
  digits : Digits

/-- `number`. -/
structure Number where
  minus : Bool
  int : IntDigits
  frac : Option Digits
  exp : Option Exponent

def signText (sign : Option {b : UInt8 // b = 0x2B ∨ b = 0x2D}) : Bytes := (sign.map Subtype.val).toList

def Exponent.text (x : Exponent) : Bytes := x.e.val :: (signText x.sign ++ x.digits.val)

def fracText : Option Digits → Bytes
  | none => []
  | some d => 0x2E :: d.val

def expText : Option Exponent → Bytes
  | none => []
  | some x => x.text

def Number.text (n : Number) : Bytes :=
  (if n.minus then [0x2D] else []) ++ (n.int.val ++ (fracText n.frac ++ expText n.exp))

/-! ## Strings -/

/-- The value of a hexadecimal digit, in either case. -/
def hexDigit? (b : UInt8) : Option Nat :=
  if 0x30 ≤ b ∧ b ≤ 0x39 then some (b.toNat - 0x30)
  else if 0x61 ≤ b ∧ b ≤ 0x66 then some (b.toNat - 0x61 + 10)
  else if 0x41 ≤ b ∧ b ≤ 0x46 then some (b.toNat - 0x41 + 10)
  else none

/-- `4HEXDIG`, with the value of each digit. -/
structure Hex4 where
  spelt : Fin 4 → UInt8
  digit : Fin 4 → Fin 16
  reads : ∀ i, hexDigit? (spelt i) = some (digit i).val

def Hex4.text (h : Hex4) : Bytes := [h.spelt 0, h.spelt 1, h.spelt 2, h.spelt 3]

def Hex4.value (h : Hex4) : Nat :=
  (((h.digit 0).val * 16 + (h.digit 1).val) * 16 + (h.digit 2).val) * 16 + (h.digit 3).val

theorem Hex4.value_lt (h : Hex4) : h.value < 0x10000 := by
  have := (h.digit 0).isLt
  have := (h.digit 1).isLt
  have := (h.digit 2).isLt
  have := (h.digit 3).isLt
  unfold value
  omega

/-- The character of a two-character escape, by the one after the backslash. -/
def shortEscape? (b : UInt8) : Option UInt8 :=
  if b = 0x22 ∨ b = 0x5C ∨ b = 0x2F then some b
  else if b = 0x62 then some 0x08
  else if b = 0x66 then some 0x0C
  else if b = 0x6E then some 0x0A
  else if b = 0x72 then some 0x0D
  else if b = 0x74 then some 0x09
  else none

/-- `char`, with the character it stands for. -/
inductive Piece where
  /-- `unescaped` -/
  | plain (c : CodePoint) (scalar : c.isSurrogate = false) (printable : 0x20 ≤ c.val)
      (unescaped : c.val ≠ 0x22 ∧ c.val ≠ 0x5C)
  | short (b c : UInt8) (escape : shortEscape? b = some c)
  | unit (h : Hex4) (scalar : h.value < 0xD800 ∨ 0xDFFF < h.value)
  | pair (high low : Hex4) (isHigh : 0xD800 ≤ high.value ∧ high.value ≤ 0xDBFF)
      (isLow : 0xDC00 ≤ low.value ∧ low.value ≤ 0xDFFF)

def Piece.text : Piece → Bytes
  | .plain c _ _ _ => c.utf8
  | .short b _ _ => [0x5C, b]
  | .unit h _ => 0x5C :: 0x75 :: h.text
  | .pair high low _ _ => 0x5C :: 0x75 :: (high.text ++ 0x5C :: 0x75 :: low.text)

/-- The number of the character. -/
def Piece.code : Piece → Nat
  | .plain c _ _ _ => c.val
  | .short _ c _ => c.toNat
  | .unit h _ => h.value
  | .pair high low _ _ => 0x10000 + (high.value - 0xD800) * 0x400 + (low.value - 0xDC00)

theorem shortEscape?_ascii {b c : UInt8} (h : shortEscape? b = some c) : c.toNat < 0x80 := by
  unfold shortEscape? at h
  split at h
  · rename_i hb
    obtain rfl := Option.some.inj h
    obtain rfl | rfl | rfl := hb
    · decide
    · decide
    · decide
  · have hc : c ∈ ([0x08, 0x0C, 0x0A, 0x0D, 0x09] : Bytes) := by grind
    have hall : ∀ c ∈ ([0x08, 0x0C, 0x0A, 0x0D, 0x09] : Bytes), c.toNat < 0x80 := by simp
    exact hall c hc

theorem Piece.code_scalar (p : Piece) : p.code < 0x110000 ∧ (p.code < 0xD800 ∨ 0xDFFF < p.code) := by
  cases p with
  | plain c scalar printable unescaped =>
    refine ⟨c.lt, ?_⟩
    have hrange : ¬ (0xD800 ≤ c.val ∧ c.val ≤ 0xDFFF) := by simpa [CodePoint.isSurrogate] using scalar
    show c.val < 0xD800 ∨ 0xDFFF < c.val
    omega
  | short b c escape =>
    have hascii := shortEscape?_ascii escape
    refine ⟨?_, .inl ?_⟩
    · show c.toNat < 0x110000
      omega
    · show c.toNat < 0xD800
      omega
  | unit h scalar =>
    have hlt := h.value_lt
    exact ⟨by show h.value < 0x110000; omega, scalar⟩
  | pair high low isHigh isLow =>
    refine ⟨?_, .inr ?_⟩
    · show 0x10000 + (high.value - 0xD800) * 0x400 + (low.value - 0xDC00) < 0x110000
      omega
    · show 0xDFFF < 0x10000 + (high.value - 0xD800) * 0x400 + (low.value - 0xDC00)
      omega

def Piece.char (p : Piece) : CodePoint := ⟨p.code, p.code_scalar.1⟩

theorem Piece.char_scalar (p : Piece) : p.char.isSurrogate = false := by
  have h := p.code_scalar.2
  have hval : p.char.val = p.code := rfl
  rw [CodePoint.isSurrogate, hval, Bool.and_eq_false_iff, decide_eq_false_iff_not, decide_eq_false_iff_not]
  omega

abbrev Pieces := List Piece

def Pieces.text (s : Pieces) : Bytes := s.flatMap Piece.text

/-- The characters a string stands for. -/
def Pieces.chars (s : Pieces) : PyStr := s.map Piece.char

theorem Pieces.encode_chars (s : Pieces) : s.chars.encode = some s.chars.bytes := by
  refine PyStr.encode_eq_some.mpr ⟨?_, rfl⟩
  intro c hc
  obtain ⟨p, -, rfl⟩ := List.mem_map.mp hc
  exact p.char_scalar

/-- `string`. -/
def quoted (s : Pieces) : Bytes := 0x22 :: (s.text ++ [0x22])

/-! ## Values -/

inductive Word where
  | true
  | false
  | null

def Word.text : Word → Bytes
  | .true => [0x74, 0x72, 0x75, 0x65]
  | .false => [0x66, 0x61, 0x6C, 0x73, 0x65]
  | .null => [0x6E, 0x75, 0x6C, 0x6C]

mutual

/-- `value`, without the white space around it. -/
inductive Tree where
  | word (w : Word)
  | number (n : Number)
  | string (s : Pieces)
  | emptyArray (space : Spaces)
  | array (items : Items)
  | emptyObject (space : Spaces)
  | object (members : Members)

/-- Values separated by commas, with the white space before and after each. -/
inductive Items where
  | one (before : Spaces) (value : Tree) (after : Spaces)
  | more (before : Spaces) (value : Tree) (after : Spaces) (rest : Items)

/-- Members separated by commas, with the white space before and after each part. -/
inductive Members where
  | one (before : Spaces) (name : Pieces) (afterName beforeValue : Spaces) (value : Tree) (after : Spaces)
  | more (before : Spaces) (name : Pieces) (afterName beforeValue : Spaces) (value : Tree) (after : Spaces)
      (rest : Members)

end

mutual

def Tree.text : Tree → Bytes
  | .word w => w.text
  | .number n => n.text
  | .string s => quoted s
  | .emptyArray space => 0x5B :: (space.val ++ [0x5D])
  | .array items => 0x5B :: (items.text ++ [0x5D])
  | .emptyObject space => 0x7B :: (space.val ++ [0x7D])
  | .object members => 0x7B :: (members.text ++ [0x7D])

def Items.text : Items → Bytes
  | .one before value after => before.val ++ (value.text ++ after.val)
  | .more before value after rest => before.val ++ (value.text ++ (after.val ++ 0x2C :: rest.text))

def Members.text : Members → Bytes
  | .one before name afterName beforeValue value after =>
    before.val ++ (quoted name ++ (afterName.val ++ 0x3A :: (beforeValue.val ++ (value.text ++ after.val))))
  | .more before name afterName beforeValue value after rest =>
    before.val ++ (quoted name ++ (afterName.val ++ 0x3A :: (beforeValue.val ++ (value.text ++
      (after.val ++ 0x2C :: rest.text)))))

end

mutual

/-- Levels of nesting. -/
def Tree.depth : Tree → Nat
  | .array items => items.depth + 1
  | .object members => members.depth + 1
  | .emptyArray _ => 1
  | .emptyObject _ => 1
  | _ => 0

def Items.depth : Items → Nat
  | .one _ value _ => value.depth
  | .more _ value _ rest => max value.depth rest.depth

def Members.depth : Members → Nat
  | .one _ _ _ _ value _ => value.depth
  | .more _ _ _ _ value _ rest => max value.depth rest.depth

end

/-- The member names, as the characters they stand for. -/
def Members.names : Members → List PyStr
  | .one _ name _ _ _ _ => [name.chars]
  | .more _ name _ _ _ _ rest => name.chars :: rest.names

mutual

/-- In every object of the value the member names are pairwise distinct. -/
def Tree.DuplicateFree : Tree → Prop
  | .array items => items.DuplicateFree
  | .object members => members.names.Nodup ∧ members.DuplicateFree
  | _ => True

def Items.DuplicateFree : Items → Prop
  | .one _ value _ => value.DuplicateFree
  | .more _ value _ rest => value.DuplicateFree ∧ rest.DuplicateFree

def Members.DuplicateFree : Members → Prop
  | .one _ _ _ _ value _ => value.DuplicateFree
  | .more _ _ _ _ value _ rest => value.DuplicateFree ∧ rest.DuplicateFree

end

mutual

/-- In every object of the value no two member names are spelt alike, under some spelling of names. -/
def Tree.NamesDiffer (spelling : PyStr → PyStr) : Tree → Prop
  | .array items => items.NamesDiffer spelling
  | .object members => (members.names.map spelling).Nodup ∧ members.NamesDiffer spelling
  | _ => True

def Items.NamesDiffer (spelling : PyStr → PyStr) : Items → Prop
  | .one _ value _ => value.NamesDiffer spelling
  | .more _ value _ rest => value.NamesDiffer spelling ∧ rest.NamesDiffer spelling

def Members.NamesDiffer (spelling : PyStr → PyStr) : Members → Prop
  | .one _ _ _ _ value _ => value.NamesDiffer spelling
  | .more _ _ _ _ value _ rest => value.NamesDiffer spelling ∧ rest.NamesDiffer spelling

end

/-! ## Names that differ under a spelling -/

mutual

theorem Tree.NamesDiffer.duplicateFree {spelling : PyStr → PyStr} {t : Tree} (h : t.NamesDiffer spelling) :
    t.DuplicateFree := by
  cases t with
  | array items =>
    rw [Tree.NamesDiffer] at h
    rw [Tree.DuplicateFree]
    exact Items.NamesDiffer.duplicateFree h
  | object members =>
    rw [Tree.NamesDiffer] at h
    rw [Tree.DuplicateFree]
    exact ⟨List.Nodup.of_map spelling h.1, Members.NamesDiffer.duplicateFree h.2⟩
  | _ => trivial

theorem Items.NamesDiffer.duplicateFree {spelling : PyStr → PyStr} {i : Items} (h : i.NamesDiffer spelling) :
    i.DuplicateFree := by
  cases i with
  | one before value after =>
    rw [Items.NamesDiffer] at h
    rw [Items.DuplicateFree]
    exact Tree.NamesDiffer.duplicateFree h
  | more before value after rest =>
    rw [Items.NamesDiffer] at h
    rw [Items.DuplicateFree]
    exact ⟨Tree.NamesDiffer.duplicateFree h.1, Items.NamesDiffer.duplicateFree h.2⟩

theorem Members.NamesDiffer.duplicateFree {spelling : PyStr → PyStr} {m : Members} (h : m.NamesDiffer spelling) :
    m.DuplicateFree := by
  cases m with
  | one before name afterName beforeValue value after =>
    rw [Members.NamesDiffer] at h
    rw [Members.DuplicateFree]
    exact Tree.NamesDiffer.duplicateFree h
  | more before name afterName beforeValue value after rest =>
    rw [Members.NamesDiffer] at h
    rw [Members.DuplicateFree]
    exact ⟨Tree.NamesDiffer.duplicateFree h.1, Members.NamesDiffer.duplicateFree h.2⟩

end

/-- `JSON-text`. -/
structure Text where
  before : Spaces
  value : Tree
  after : Spaces

def Text.bytes (t : Text) : Bytes := t.before.val ++ (t.value.text ++ t.after.val)

end Pipa.Lib.JsonGrammar
