import Pipa.Core.PipaCore
import Pipa.Lib.Regex

/- What `intents.py` uses of Python to read a text: the Unicode data behind
   `str.lower`, `unicodedata` and the `re` module, patterns over it, and the
   reading of integers. -/
namespace Pipa.Intents
open Pipa.Lib Pipa.Core

/-! ## Unicode -/

/-- The Unicode data of the interpreter, which comes with its version. -/
structure Unicode where
  /-- `str.lower`. -/
  lower : PyStr → PyStr
  /-- `str.casefold`. -/
  casefold : PyStr → PyStr
  /-- `unicodedata.normalize("NFKD", _)`. -/
  nfkd : PyStr → PyStr
  /-- `unicodedata.combining` is not zero. -/
  combining : CodePoint → Bool
  /-- The value of a decimal digit, `\d`. -/
  decimal : CodePoint → Option Nat
  /-- Two characters that `re.IGNORECASE` takes for the same. -/
  sameLetter : CodePoint → CodePoint → Bool

namespace Unicode

def point (n : Nat) : CodePoint := CodePoint.ofChar (Char.ofNat n)

/-- The lower case of a code point below U+0100. -/
def lowerLatin (c : CodePoint) : CodePoint :=
  if (0x41 ≤ c.val ∧ c.val ≤ 0x5A) ∨ (0xC0 ≤ c.val ∧ c.val ≤ 0xDE ∧ c.val ≠ 0xD7) then point (c.val + 0x20)
  else c

/-- The code points from U+00A0 to U+00FF that have a compatibility decomposition. -/
def decompositions : List (Nat × List Nat) :=
  [(0xA0, [0x20]), (0xA8, [0x20, 0x308]), (0xAA, [0x61]), (0xAF, [0x20, 0x304]), (0xB2, [0x32]),
    (0xB3, [0x33]), (0xB4, [0x20, 0x301]), (0xB5, [0x3BC]), (0xB8, [0x20, 0x327]), (0xB9, [0x31]),
    (0xBA, [0x6F]), (0xBC, [0x31, 0x2044, 0x34]), (0xBD, [0x31, 0x2044, 0x32]), (0xBE, [0x33, 0x2044, 0x34]),
    (0xC0, [0x41, 0x300]), (0xC1, [0x41, 0x301]), (0xC2, [0x41, 0x302]), (0xC3, [0x41, 0x303]),
    (0xC4, [0x41, 0x308]), (0xC5, [0x41, 0x30A]), (0xC7, [0x43, 0x327]), (0xC8, [0x45, 0x300]),
    (0xC9, [0x45, 0x301]), (0xCA, [0x45, 0x302]), (0xCB, [0x45, 0x308]), (0xCC, [0x49, 0x300]),
    (0xCD, [0x49, 0x301]), (0xCE, [0x49, 0x302]), (0xCF, [0x49, 0x308]), (0xD1, [0x4E, 0x303]),
    (0xD2, [0x4F, 0x300]), (0xD3, [0x4F, 0x301]), (0xD4, [0x4F, 0x302]), (0xD5, [0x4F, 0x303]),
    (0xD6, [0x4F, 0x308]), (0xD9, [0x55, 0x300]), (0xDA, [0x55, 0x301]), (0xDB, [0x55, 0x302]),
    (0xDC, [0x55, 0x308]), (0xDD, [0x59, 0x301]), (0xE0, [0x61, 0x300]), (0xE1, [0x61, 0x301]),
    (0xE2, [0x61, 0x302]), (0xE3, [0x61, 0x303]), (0xE4, [0x61, 0x308]), (0xE5, [0x61, 0x30A]),
    (0xE7, [0x63, 0x327]), (0xE8, [0x65, 0x300]), (0xE9, [0x65, 0x301]), (0xEA, [0x65, 0x302]),
    (0xEB, [0x65, 0x308]), (0xEC, [0x69, 0x300]), (0xED, [0x69, 0x301]), (0xEE, [0x69, 0x302]),
    (0xEF, [0x69, 0x308]), (0xF1, [0x6E, 0x303]), (0xF2, [0x6F, 0x300]), (0xF3, [0x6F, 0x301]),
    (0xF4, [0x6F, 0x302]), (0xF5, [0x6F, 0x303]), (0xF6, [0x6F, 0x308]), (0xF9, [0x75, 0x300]),
    (0xFA, [0x75, 0x301]), (0xFB, [0x75, 0x302]), (0xFC, [0x75, 0x308]), (0xFD, [0x79, 0x301]),
    (0xFF, [0x79, 0x308])]

/-- The data for texts of code points below U+0100. -/
def latin1 : Unicode where
  lower := List.map lowerLatin
  casefold := List.flatMap (fun c =>
    if c.val = 0xDF then [point 0x73, point 0x73] else if c.val = 0xB5 then [point 0x3BC] else [lowerLatin c])
  nfkd := List.flatMap (fun c =>
    match decompositions.find? (fun d => d.1 = c.val) with
    | none => [c]
    | some d => d.2.map point)
  combining c := 0x300 ≤ c.val && c.val ≤ 0x36F
  decimal c := if 0x30 ≤ c.val ∧ c.val ≤ 0x39 then some (c.val - 0x30) else none
  sameLetter a c := lowerLatin a = lowerLatin c

theorem lowerLatin_cases (c : CodePoint) : lowerLatin c = c ∨
    ∃ n < 0xDF, lowerLatin c = point (n + 0x20) ∧ c.val = n ∧
      ((0x41 ≤ n ∧ n ≤ 0x5A) ∨ (0xC0 ≤ n ∧ n ≤ 0xDE ∧ n ≠ 0xD7)) := by
  unfold lowerLatin
  split
  · rename_i hupper
    exact Or.inr ⟨c.val, by omega, rfl, rfl, hupper⟩
  · exact Or.inl rfl

theorem point_isSpace : ∀ n < 0xDF, ((0x41 ≤ n ∧ n ≤ 0x5A) ∨ (0xC0 ≤ n ∧ n ≤ 0xDE ∧ n ≠ 0xD7)) →
    (point (n + 0x20)).isSpace = false := by
  decide +kernel

theorem isSpace_lowerLatin (c : CodePoint) : (lowerLatin c).isSpace = c.isSpace := by
  obtain hsame | ⟨n, hn, hlower, hc, hupper⟩ := lowerLatin_cases c
  · rw [hsame]
  · rw [hlower, point_isSpace n hn hupper]
    symm
    simp only [CodePoint.isSpace, Bool.or_eq_false_iff, Bool.and_eq_false_imp, decide_eq_true_eq,
      decide_eq_false_iff_not, beq_eq_false_iff_ne]
    omega

end Unicode

/-- `" ".join(text.strip().split())`. -/
def collapse (text : PyStr) : PyStr :=
  [CodePoint.ofChar ' '].intercalate
    ((text.strip.splitOnP CodePoint.isSpace).filter (fun word => !word.isEmpty))

/-- `_fold_phrase`. -/
def foldPhrase (u : Unicode) (value : PyStr) : PyStr :=
  (u.nfkd (u.lower value)).filter (fun c => !u.combining c)

/-- The interpreter refuses to convert longer numerals. -/
def maxStrDigits : Nat := 4300

/-- The digits of a numeral; an underscore may stand between two of them. -/
def digits? (u : Unicode) (afterDigit : Bool) : PyStr → Option (List Nat)
  | [] => if afterDigit then some [] else none
  | c :: s =>
    if c = CodePoint.ofChar '_' then if afterDigit then digits? u false s else none
    else match u.decimal c with
      | none => none
      | some d => (digits? u true s).map (d :: ·)

/-- `int(value)` without a sign. -/
def parseNat? (u : Unicode) (value : PyStr) : Option Nat :=
  match digits? u false value with
  | none => none
  | some digits => if digits.length > maxStrDigits then none else some (digits.foldl (fun n d => 10 * n + d) 0)

/-- `int(value)`, `none` for its `ValueError`. -/
def parseInt? (u : Unicode) (value : PyStr) : Option Int :=
  match value.strip with
  | [] => none
  | c :: s =>
    if c = CodePoint.ofChar '-' then (parseNat? u s).map (fun n => -(n : Int))
    else if c = CodePoint.ofChar '+' then (parseNat? u s).map Int.ofNat
    else (parseNat? u (c :: s)).map Int.ofNat

/-! ## Patterns -/

/-- A member of a character set. -/
inductive Item where
  | char (c : Char)
  | range (first last : Char)
  | digit
  | space

/-- What stands for one character in a pattern: itself, `.`, `\s`, `\S`, `[…]` or `[^…]`. -/
inductive Atom where
  | char (c : CodePoint)
  | any
  | space
  | nonSpace
  | oneOf (items : List Item)
  | noneOf (items : List Item)

section
variable (u : Unicode) (ignoreCase : Bool)

def sameChar (a c : CodePoint) : Bool := if ignoreCase then u.sameLetter a c else a = c

def Item.holds : Item → CodePoint → Bool
  | .char a, c => sameChar u ignoreCase (CodePoint.ofChar a) c
  | .range first last, c =>
    (List.range' first.toNat (last.toNat + 1 - first.toNat)).any
      (fun n => sameChar u ignoreCase (CodePoint.ofChar (Char.ofNat n)) c)
  | .digit, c => (u.decimal c).isSome
  | .space, c => c.isSpace

def Atom.holds : Atom → CodePoint → Bool
  | .char a, c => sameChar u ignoreCase a c
  | .any, c => c ≠ CodePoint.ofChar '\n'
  | .space, c => c.isSpace
  | .nonSpace, c => !c.isSpace
  | .oneOf items, c => items.any (fun i => i.holds u ignoreCase c)
  | .noneOf items, c => !items.any (fun i => i.holds u ignoreCase c)

end

abbrev Pattern := Regex Atom

abbrev Groups := List (Option PyStr)

/-- `re.fullmatch(pattern, subject)`, with `re.IGNORECASE` or without. -/
def fullmatch (u : Unicode) (ignoreCase : Bool) (pattern : Pattern) (subject : PyStr) : Option Groups :=
  Regex.fullmatch (Atom.holds u ignoreCase) pattern subject

namespace Pattern
open Regex

def text (s : String) : Pattern := atoms ((PyStr.ofString s).map Atom.char)

instance : Coe String Pattern := ⟨text⟩

/-- One pattern after the other. -/
def cat (ps : List Pattern) : Pattern := ps.foldr seq empty

/-- `(?:p)?`. -/
def maybe (p : Pattern) : Pattern := opt p

/-- `(p)`. -/
def captured (p : Pattern) : Pattern := group p

/-- `(?:p|q|…)`. -/
def either (ps : List Pattern) : Pattern := alts ps

/-- `(?:a|b|…)` of plain texts. -/
def oneOf (texts : List String) : Pattern := alts (texts.map text)

/-- `[…]` of plain characters. -/
def chars (s : String) : Pattern := atom (.oneOf (s.toList.map Item.char))

/-- `.+`. -/
def most : Pattern := rep .any 1 none true

/-- `.+?`. -/
def least : Pattern := rep .any 1 none false

/-- `\s+`. -/
def spaces : Pattern := rep .space 1 none true

/-- `\s*`. -/
def someSpaces : Pattern := rep .space 0 none true

/-- `[+\d][\d\s().-]{6,24}`. -/
def phone : Pattern :=
  cat [atom (.oneOf [.char '+', .digit]),
    rep (.oneOf [.digit, .space, .char '(', .char ')', .char '.', .char '-']) 6 (some 24) true]

/-- `[0-9]{17,20}`. -/
def snowflake : Pattern := rep (.oneOf [.range '0' '9']) 17 (some 20) true

/-- `https?://\S+`. -/
def url : Pattern := cat ["http", maybe "s", "://", rep .nonSpace 1 none true]

end Pattern
end Pipa.Intents
