import Mathlib.Data.List.Basic
import Mathlib.Data.List.DropRight
import Mathlib.Data.UInt

/- Python text and bytes. A `str` is a sequence of code points, lone
   surrogates included, so encoding it as UTF-8 can fail; a Lean `String` is
   the special case without surrogates, and literals are lifted from it. -/
namespace Pipa.Lib

/-- One Unicode code point, surrogates included (`ord(c)` is `c.val`). -/
@[ext] structure CodePoint where
  val : Nat
  lt : val < 0x110000
  deriving DecidableEq

def CodePoint.ofChar (c : Char) : CodePoint :=
  ⟨c.toNat, by
    rcases c.valid with h | h
    · exact Nat.lt_trans h (by decide)
    · exact h.2⟩

theorem CodePoint.ofChar_inj {a b : Char} : CodePoint.ofChar a = CodePoint.ofChar b ↔ a = b := by
  constructor
  · intro h
    have : a.toNat = b.toNat := congrArg CodePoint.val h
    exact Char.toNat_inj.mp this
  · rintro rfl; rfl

abbrev PyStr := List CodePoint

abbrev Bytes := List UInt8

/-! Texts and bytes are compared everywhere: the instances are named, so that no
    definition carries a copy of their proof. -/

instance PyStr.lawfulBEq : LawfulBEq PyStr := inferInstance

instance Bytes.lawfulBEq : LawfulBEq Bytes := inferInstance

def PyStr.ofString (s : String) : PyStr := s.toList.map CodePoint.ofChar

instance : Coe String PyStr := ⟨PyStr.ofString⟩

@[simp] theorem PyStr.ofString_inj {a b : String} : PyStr.ofString a = PyStr.ofString b ↔ a = b := by
  unfold PyStr.ofString
  constructor
  · intro h
    exact String.toList_inj.mp (List.map_injective_iff.mpr (fun _ _ => CodePoint.ofChar_inj.mp) h)
  · rintro rfl; rfl

theorem PyStr.ofString_append (a b : String) :
    PyStr.ofString (a ++ b) = PyStr.ofString a ++ PyStr.ofString b := by
  simp [PyStr.ofString]

/-- The characters `str.strip()` removes. -/
def CodePoint.isSpace (c : CodePoint) : Bool :=
  (0x09 ≤ c.val && c.val ≤ 0x0D) || (0x1C ≤ c.val && c.val ≤ 0x20) || c.val == 0x85 ||
  c.val == 0xA0 || c.val == 0x1680 || (0x2000 ≤ c.val && c.val ≤ 0x200A) || c.val == 0x2028 ||
  c.val == 0x2029 || c.val == 0x202F || c.val == 0x205F || c.val == 0x3000

def PyStr.strip (s : PyStr) : PyStr :=
  ((s.dropWhile CodePoint.isSpace).reverse.dropWhile CodePoint.isSpace).reverse

theorem PyStr.strip_infix (s : PyStr) : s.strip <:+: s :=
  (List.rdropWhile_prefix CodePoint.isSpace (s.dropWhile CodePoint.isSpace)).isInfix.trans
    (List.dropWhile_suffix CodePoint.isSpace).isInfix

/-! ### Trimming -/

/-- What is trimmed starts with nothing to be dropped. -/
theorem dropWhile_trim {α : Type} (p : α → Bool) (s : List α) :
    ((s.dropWhile p).rdropWhile p).dropWhile p = (s.dropWhile p).rdropWhile p := by
  rw [List.dropWhile_eq_self_iff]
  intro hpos
  -- the first character is that of what `dropWhile` left
  have hstart : (s.dropWhile p).rdropWhile p <+: s.dropWhile p := List.rdropWhile_prefix p (s.dropWhile p)
  have hself := List.dropWhile_eq_self_iff.mp (List.dropWhile_idempotent p s)
  rw [hstart.getElem hpos]
  exact hself (Nat.lt_of_lt_of_le hpos hstart.length_le)

@[simp] theorem PyStr.strip_strip (s : PyStr) : s.strip.strip = s.strip := by
  have hleft : s.strip.dropWhile CodePoint.isSpace = s.strip := dropWhile_trim CodePoint.isSpace s
  show (s.strip.dropWhile CodePoint.isSpace).rdropWhile CodePoint.isSpace = s.strip
  rw [hleft]
  exact List.rdropWhile_idempotent CodePoint.isSpace _

theorem mem_dropWhile {α : Type} {p : α → Bool} {s : List α} {c : α} (hc : c ∈ s) (h : p c = false) :
    c ∈ s.dropWhile p := by
  rw [← List.takeWhile_append_dropWhile (p := p) (l := s), List.mem_append] at hc
  obtain hc | hc := hc
  · rw [List.mem_takeWhile_imp hc] at h
    cases h
  · exact hc

/-- Where nothing is to be dropped, both ends stay. -/
theorem trim_eq_self {α : Type} {p : α → Bool} {s : List α} (h : ∀ c ∈ s, p c = false) :
    (s.dropWhile p).rdropWhile p = s := by
  have hleft : s.dropWhile p = s := by
    rw [List.dropWhile_eq_self_iff]
    intro hpos
    rw [h _ (List.getElem_mem hpos)]
    exact Bool.false_ne_true
  rw [hleft, List.rdropWhile_eq_self_iff]
  intro hne
  rw [h _ (List.getLast_mem hne)]
  exact Bool.false_ne_true

/-- What is no space is not stripped. -/
theorem mem_strip {s : PyStr} {c : CodePoint} (hc : c ∈ s) (h : c.isSpace = false) : c ∈ s.strip := by
  unfold PyStr.strip
  rw [List.mem_reverse]
  apply mem_dropWhile _ h
  rw [List.mem_reverse]
  exact mem_dropWhile hc h

theorem strip_solid {s : PyStr} (h : ∀ c ∈ s, c.isSpace = false) : s.strip = s := trim_eq_self h

/-- Printable ASCII has one space. -/
theorem CodePoint.not_isSpace {c : CodePoint} (h : 0x21 ≤ c.val ∧ c.val < 0x7F) : c.isSpace = false := by
  simp only [isSpace, Bool.or_eq_false_iff, Bool.and_eq_false_imp, decide_eq_true_eq, decide_eq_false_iff_not,
    beq_eq_false_iff_ne]
  omega

/-- What stands between the words, or in one. -/
theorem mem_intercalate {α : Type} {x c : α} {words : List (List α)} (h : c ∈ List.intercalate [x] words) :
    (∃ w ∈ words, c ∈ w) ∨ c = x := by
  induction words with
  | nil => cases h
  | cons word words ih =>
    cases words with
    | nil => exact Or.inl ⟨word, List.mem_cons_self, by simpa using h⟩
    | cons next words =>
      rw [List.intercalate_cons_cons, List.mem_append, List.mem_append, List.mem_singleton] at h
      obtain (h | h) | h := h
      · exact Or.inl ⟨word, List.mem_cons_self, h⟩
      · exact Or.inr h
      · exact (ih h).imp_left fun ⟨w, hw, hc⟩ => ⟨w, List.mem_cons_of_mem word hw, hc⟩

/-- `not s.strip()`. -/
def PyStr.isBlank (s : PyStr) : Bool := s.strip.isEmpty

def CodePoint.isSurrogate (c : CodePoint) : Bool := 0xD800 ≤ c.val && c.val ≤ 0xDFFF

def CodePoint.utf8 (c : CodePoint) : Bytes :=
  if c.val < 0x80 then [c.val.toUInt8]
  else if c.val < 0x800 then [(0xC0 + c.val / 64).toUInt8, (0x80 + c.val % 64).toUInt8]
  else if c.val < 0x10000 then
    [(0xE0 + c.val / 4096).toUInt8, (0x80 + c.val / 64 % 64).toUInt8, (0x80 + c.val % 64).toUInt8]
  else
    [(0xF0 + c.val / 262144).toUInt8, (0x80 + c.val / 4096 % 64).toUInt8,
     (0x80 + c.val / 64 % 64).toUInt8, (0x80 + c.val % 64).toUInt8]

theorem CodePoint.utf8_ne_nil (c : CodePoint) : c.utf8 ≠ [] := by
  unfold CodePoint.utf8
  split
  · exact List.cons_ne_nil _ _
  split
  · exact List.cons_ne_nil _ _
  split
  · exact List.cons_ne_nil _ _
  · exact List.cons_ne_nil _ _

/-- `s.encode("utf-8")`; `none` is `UnicodeEncodeError`. -/
def PyStr.encode (s : PyStr) : Option Bytes :=
  if s.any CodePoint.isSurrogate then none else some (s.flatMap CodePoint.utf8)

/-- The bytes of a text without surrogates: of a C string literal, say. -/
def PyStr.bytes (s : PyStr) : Bytes := s.flatMap CodePoint.utf8

theorem PyStr.encode_eq_some {s : PyStr} {b : Bytes} :
    s.encode = some b ↔ (∀ c ∈ s, c.isSurrogate = false) ∧ s.bytes = b := by
  have hany : s.any CodePoint.isSurrogate = false ↔ ∀ c ∈ s, c.isSurrogate = false := by simp
  rw [PyStr.encode, ← hany]
  cases s.any CodePoint.isSurrogate with
  | true => simp
  | false => simp [PyStr.bytes]

def PyStr.Ascii (s : PyStr) : Prop := ∀ c ∈ s, c.val < 0x80

instance (s : PyStr) : Decidable s.Ascii := inferInstanceAs (Decidable (∀ c ∈ s, c.val < 0x80))

@[simp] theorem PyStr.bytes_append (s t : PyStr) : (s ++ t).bytes = s.bytes ++ t.bytes :=
  List.flatMap_append

theorem PyStr.ascii_append {s t : PyStr} : PyStr.Ascii (s ++ t) ↔ s.Ascii ∧ t.Ascii :=
  List.forall_mem_append

theorem PyStr.Ascii.encode {s : PyStr} (h : s.Ascii) : s.encode = some s.bytes := by
  refine PyStr.encode_eq_some.mpr ⟨?_, rfl⟩
  intro c hc
  have := h c hc
  simp only [CodePoint.isSurrogate, Bool.and_eq_false_iff, decide_eq_false_iff_not]
  omega

theorem PyStr.Ascii.bytes_eq {s : PyStr} (h : s.Ascii) : s.bytes = s.map (fun c => c.val.toUInt8) := by
  induction s with
  | nil => rfl
  | cons c s ih =>
    have hc : c.utf8 = [c.val.toUInt8] := if_pos (h c List.mem_cons_self)
    have hs : PyStr.bytes s = s.map (fun c => c.val.toUInt8) :=
      ih (fun d hd => h d (List.mem_cons_of_mem c hd))
    show c.utf8 ++ PyStr.bytes s = _
    rw [hc, hs]; rfl

/-- Only an ASCII character starts with an ASCII byte. -/
theorem CodePoint.utf8_head (c : CodePoint) (h : 0x80 ≤ c.val) :
    ∃ b rest, c.utf8 = b :: rest ∧ 0x80 ≤ b.toNat := by
  have hlt := c.lt
  unfold CodePoint.utf8
  rw [if_neg (by omega)]
  split
  · exact ⟨_, _, rfl, by simp only [Nat.toUInt8, UInt8.toNat_ofNat']; omega⟩
  split
  · exact ⟨_, _, rfl, by simp only [Nat.toUInt8, UInt8.toNat_ofNat']; omega⟩
  · exact ⟨_, _, rfl, by simp only [Nat.toUInt8, UInt8.toNat_ofNat']; omega⟩

theorem PyStr.ascii_of_bytes {s : PyStr} (h : ∀ b ∈ s.bytes, b.toNat < 0x80) : s.Ascii := by
  intro c hc
  by_contra hbig
  obtain ⟨b, rest, hutf, hb⟩ := c.utf8_head (by omega)
  have hmem : b ∈ s.bytes := List.mem_flatMap.mpr ⟨c, hc, by rw [hutf]; exact List.mem_cons_self⟩
  have := h b hmem
  omega

/-! Bytes of a known length, and big-endian numbers. -/

/-- Exactly `n` bytes. -/
abbrev Fixed (n : Nat) := {b : Bytes // b.length = n}

/-- One byte `n` times. -/
def Fixed.fill (n : Nat) (b : UInt8) : Fixed n := ⟨List.replicate n b, List.length_replicate⟩

theorem Fixed.ne_nil {n : Nat} (hn : 0 < n) (b : Fixed n) : b.val ≠ [] := by
  intro h
  have hlength := b.property
  rw [h, List.length_nil] at hlength
  omega

/-- The `w`-byte big-endian representation (`int.to_bytes(w, "big")`). -/
def beBytes : Nat → Nat → Bytes
  | 0, _ => []
  | w + 1, n => beBytes w (n / 256) ++ [(n % 256).toUInt8]

@[simp] theorem beBytes_length (w n : Nat) : (beBytes w n).length = w := by
  induction w generalizing n with
  | zero => rfl
  | succ w ih => simp [beBytes, ih]

theorem byte_eq {n : Nat} {b : UInt8} (h : n = b.toNat) : n.toUInt8 = b := by
  rw [h]
  exact UInt8.ofNat_toNat

theorem byte_toNat {n : Nat} (h : n < 256) : n.toUInt8.toNat = n := by
  simp only [Nat.toUInt8, UInt8.toNat_ofNat']
  omega

theorem toUInt8_inj {a b : Nat} (ha : a < 256) (hb : b < 256) (h : a.toUInt8 = b.toUInt8) : a = b := by
  have := congrArg UInt8.toNat h
  simpa [Nat.mod_eq_of_lt ha, Nat.mod_eq_of_lt hb] using this

/-- Texts of ASCII characters are told apart by their bytes. -/
theorem PyStr.Ascii.bytes_inj {s t : PyStr} (hs : s.Ascii) (ht : t.Ascii) (h : s.bytes = t.bytes) :
    s = t := by
  rw [hs.bytes_eq, ht.bytes_eq] at h
  induction s generalizing t with
  | nil => exact (List.map_eq_nil_iff.mp h.symm).symm
  | cons c s ih =>
    cases t with
    | nil => simp at h
    | cons d t =>
      rw [List.map_cons, List.map_cons, List.cons.injEq] at h
      have hc := hs c List.mem_cons_self
      have hd := ht d List.mem_cons_self
      have hcd : c = d := CodePoint.ext (toUInt8_inj (by omega) (by omega) h.1)
      rw [hcd, ih (fun a ha => hs a (List.mem_cons_of_mem c ha))
        (fun a ha => ht a (List.mem_cons_of_mem d ha)) h.2]

/-- Numbers that fit in `w` bytes have distinct representations. -/
theorem beBytes_inj {w a b : Nat} (ha : a < 256 ^ w) (hb : b < 256 ^ w)
    (h : beBytes w a = beBytes w b) : a = b := by
  induction w generalizing a b with
  | zero => simp at ha hb; omega
  | succ w ih =>
    simp only [beBytes] at h
    obtain ⟨h1, h2⟩ := List.append_inj' h rfl
    rw [Nat.pow_succ] at ha hb
    have hq : a / 256 = b / 256 :=
      ih (Nat.div_lt_of_lt_mul (by omega)) (Nat.div_lt_of_lt_mul (by omega)) h1
    have hr : a % 256 = b % 256 :=
      toUInt8_inj (Nat.mod_lt _ (by decide)) (Nat.mod_lt _ (by decide)) (List.singleton_inj.mp h2)
    omega

end Pipa.Lib
