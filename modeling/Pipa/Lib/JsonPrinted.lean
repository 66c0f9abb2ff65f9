import Mathlib.Data.Fin.VecNotation
import Mathlib.Tactic.FinCases
import Pipa.Lib.JsonGrammar
import Pipa.Lib.JsonLine

/- What `json.dumps` writes is a text of RFC 8259. The derivation follows the value:
   a character is one piece of a string, a `dict` an object of its keys in their order.

   A reader that compares names differently, or stops at some depth, therefore sees
   in the text what stands in the value. -/
namespace Pipa.Lib
open JsonText

/-- In no `dict` of the value are two keys spelt alike, under some spelling of names. -/
inductive Value.NamesDiffer (spelling : PyStr → PyStr) : Value → Prop
  | null : NamesDiffer spelling .null
  | bool (b : Bool) : NamesDiffer spelling (.bool b)
  | int (n : Int) : NamesDiffer spelling (.int n)
  | float (r : PyStr) : NamesDiffer spelling (.float r)
  | str (s : PyStr) : NamesDiffer spelling (.str s)
  | list (items : List Value) (inside : ∀ v ∈ items, NamesDiffer spelling v) : NamesDiffer spelling (.list items)
  | dict (items : List (PyStr × Value)) (names : ((Object.keys items).map spelling).Nodup)
      (inside : ∀ e ∈ items, NamesDiffer spelling e.2) : NamesDiffer spelling (.dict items)

namespace JsonGrammar

/-! ## Numbers -/

theorem utf8_ascii {c : CodePoint} (h : c.val < 0x80) : c.utf8 = [c.val.toUInt8] := by
  rw [CodePoint.utf8, if_pos h]

theorem digit_ascii {c : CodePoint} (h : isDigitChar c = true) : c.val < 0x80 := by
  simp only [isDigitChar, Bool.and_eq_true, decide_eq_true_eq] at h
  omega

theorem digit_byte {c : CodePoint} (h : isDigitChar c = true) : isDigitByte c.val.toUInt8 = true := by
  simp only [isDigitChar, Bool.and_eq_true, decide_eq_true_eq] at h
  have hbyte : c.val.toUInt8.toNat = c.val := by
    rw [Nat.toUInt8, UInt8.toNat_ofNat']
    omega
  simp only [isDigitByte, Bool.and_eq_true, decide_eq_true_eq, UInt8.le_iff_toNat_le, hbyte]
  exact h

theorem digits_bytes {s : PyStr} (h : ∀ c ∈ s, isDigitChar c = true) : ∀ b ∈ s.bytes, isDigitByte b = true := by
  intro b hb
  obtain ⟨c, hc, hbyte⟩ := List.mem_flatMap.mp hb
  rw [utf8_ascii (digit_ascii (h c hc)), List.mem_singleton] at hbyte
  rw [hbyte]
  exact digit_byte (h c hc)

theorem bytes_ne_nil {s : PyStr} (h : ∀ c ∈ s, isDigitChar c = true) (hs : s ≠ []) : s.bytes ≠ [] := by
  cases s with
  | nil => exact absurd rfl hs
  | cons c s =>
    have hbytes : PyStr.bytes (c :: s) = c.utf8 ++ PyStr.bytes s := rfl
    rw [hbytes, utf8_ascii (digit_ascii (h c List.mem_cons_self))]
    exact List.cons_ne_nil _ _

/-- The digits that a scan takes. -/
def takenDigits (s : PyStr) (hs : s.takeWhile isDigitChar ≠ []) : Digits :=
  ⟨PyStr.bytes (s.takeWhile isDigitChar), bytes_ne_nil (fun _ hc => List.mem_takeWhile_imp hc) hs,
    digits_bytes fun _ hc => List.mem_takeWhile_imp hc⟩

theorem scanMinus_spelt (s : PyStr) :
    ∃ minus : Bool, (if minus then [0x2D] else []) = PyStr.bytes (scanMinus s).1 := by
  cases s with
  | nil => exact ⟨false, rfl⟩
  | cons c s =>
    rw [scanMinus]
    split
    · rename_i hminus
      obtain rfl : c = ⟨0x2D, by decide⟩ := CodePoint.ext hminus
      exact ⟨true, rfl⟩
    · exact ⟨false, rfl⟩

theorem scanWhole_spelt {s whole later : PyStr} (h : scanWhole s = some (whole, later)) :
    ∃ int : IntDigits, int.val = whole.bytes := by
  cases s with
  | nil => cases h
  | cons c s =>
    rw [scanWhole] at h
    split at h
    · rename_i hzero
      cases h
      obtain rfl : c = ⟨0x30, by decide⟩ := CodePoint.ext hzero
      exact ⟨⟨[0x30], .inl rfl⟩, rfl⟩
    split at h
    · rename_i hzero hdigit
      cases h
      have hall : ∀ d ∈ c :: s.takeWhile isDigitChar, isDigitChar d = true :=
        List.forall_mem_cons.mpr ⟨hdigit, fun _ hd => List.mem_takeWhile_imp hd⟩
      refine ⟨⟨_, .inr ⟨bytes_ne_nil hall (List.cons_ne_nil _ _), ?_, digits_bytes hall⟩⟩, rfl⟩
      -- the first digit is not a zero
      have hbytes : PyStr.bytes (c :: s.takeWhile isDigitChar) =
          c.utf8 ++ PyStr.bytes (s.takeWhile isDigitChar) := rfl
      rw [hbytes, utf8_ascii (digit_ascii hdigit), List.singleton_append, List.head?_cons]
      intro hfirst
      have hval := congrArg UInt8.toNat (Option.some.inj hfirst)
      have hlt := digit_ascii hdigit
      rw [Nat.toUInt8, UInt8.toNat_ofNat', Nat.mod_eq_of_lt (by omega)] at hval
      exact hzero hval
    · cases h

theorem scanFraction_spelt (s : PyStr) :
    ∃ frac : Option Digits, fracText frac = PyStr.bytes (scanFraction s).1 := by
  cases s with
  | nil => exact ⟨none, rfl⟩
  | cons c s =>
    rw [scanFraction]
    split
    · rename_i hpoint
      obtain ⟨hval, hdigits⟩ := hpoint
      obtain rfl : c = ⟨0x2E, by decide⟩ := CodePoint.ext hval
      exact ⟨some (takenDigits s hdigits), rfl⟩
    · exact ⟨none, rfl⟩

theorem scanSign_spelt (s : PyStr) :
    ∃ sign : Option {b : UInt8 // b = 0x2B ∨ b = 0x2D}, signText sign = PyStr.bytes (scanSign s).1 := by
  cases s with
  | nil => exact ⟨none, rfl⟩
  | cons c s =>
    rw [scanSign]
    split
    · rename_i hsign
      obtain hval | hval := hsign
      · obtain rfl : c = ⟨0x2D, by decide⟩ := CodePoint.ext hval
        exact ⟨some ⟨0x2D, .inr rfl⟩, rfl⟩
      · obtain rfl : c = ⟨0x2B, by decide⟩ := CodePoint.ext hval
        exact ⟨some ⟨0x2B, .inl rfl⟩, rfl⟩
    · exact ⟨none, rfl⟩

theorem scanExponent_spelt (s : PyStr) :
    ∃ exp : Option Exponent, expText exp = PyStr.bytes (scanExponent s).1 := by
  cases s with
  | nil => exact ⟨none, rfl⟩
  | cons c s =>
    rw [scanExponent]
    split
    · rename_i hexp
      obtain ⟨hval, hdigits⟩ := hexp
      obtain ⟨sign, hsign⟩ := scanSign_spelt s
      have htext (e : {b : UInt8 // b = 0x65 ∨ b = 0x45}) (hbyte : c.utf8 = [e.val]) :
          expText (some ⟨e, sign, takenDigits _ hdigits⟩) =
            PyStr.bytes (c :: (scanSign s).1 ++ (scanSign s).2.takeWhile isDigitChar) := by
        rw [PyStr.bytes_append]
        have hcons : PyStr.bytes (c :: (scanSign s).1) = c.utf8 ++ PyStr.bytes (scanSign s).1 := rfl
        rw [hcons, hbyte, ← hsign]
        rfl
      obtain hval | hval := hval
      · exact ⟨_, htext ⟨0x65, .inl rfl⟩ (by obtain rfl : c = ⟨0x65, by decide⟩ := CodePoint.ext hval; rfl)⟩
      · exact ⟨_, htext ⟨0x45, .inr rfl⟩ (by obtain rfl : c = ⟨0x45, by decide⟩ := CodePoint.ext hval; rfl)⟩
    · exact ⟨none, rfl⟩

/-- What a scan takes for a number is one. -/
theorem scanParts_spelt {s whole part later : PyStr} (h : scanParts s = some (whole, part, later)) :
    ∃ n : Number, n.text = (whole ++ part).bytes := by
  unfold scanParts at h
  split at h
  · cases h
  · rename_i digits rest hwhole
    obtain ⟨rfl, rfl, rfl⟩ : _ ∧ _ ∧ _ := by simpa using h
    obtain ⟨minus, hminus⟩ := scanMinus_spelt s
    obtain ⟨int, hint⟩ := scanWhole_spelt hwhole
    obtain ⟨frac, hfrac⟩ := scanFraction_spelt rest
    obtain ⟨exp, hexp⟩ := scanExponent_spelt (scanFraction rest).2
    refine ⟨⟨minus, int, frac, exp⟩, ?_⟩
    simp only [Number.text, hminus, hint, hfrac, hexp, PyStr.bytes_append, List.append_assoc]

/-! ## Strings -/

theorem hexDigit_byte :
    ∀ n < 16, hexDigit? (hexDigit n).val.toUInt8 = some n ∧ (hexDigit n).val < 0x80 := by decide

/-- The escape of a control character that has no short one. -/
def controlUnit (c : CodePoint) (h : c.val < 0x20) : Hex4 where
  spelt := ![0x30, 0x30, (hexDigit (c.val / 16)).val.toUInt8, (hexDigit (c.val % 16)).val.toUInt8]
  digit := ![0, 0, ⟨c.val / 16, by omega⟩, ⟨c.val % 16, by omega⟩]
  reads i := by
    fin_cases i
    · rfl
    · rfl
    · exact (hexDigit_byte _ (by omega)).1
    · exact (hexDigit_byte _ (by omega)).1

theorem controlUnit_value (c : CodePoint) (h : c.val < 0x20) : (controlUnit c h).value = c.val := by
  show ((0 * 16 + 0) * 16 + c.val / 16) * 16 + c.val % 16 = c.val
  omega

/-- A character stands in a string as one piece, escaped or as it is. -/
theorem escapeChar_spelt {c : CodePoint} (hscalar : c.isSurrogate = false) :
    ∃ p : Piece, p.text = PyStr.bytes (escapeChar c) ∧ p.char = c := by
  unfold escapeChar
  split
  · rename_i hval
    exact ⟨.short 0x22 0x22 rfl, rfl, CodePoint.ext hval.symm⟩
  split
  · rename_i hval
    exact ⟨.short 0x5C 0x5C rfl, rfl, CodePoint.ext hval.symm⟩
  split
  · rename_i hval
    exact ⟨.short 0x62 0x08 rfl, rfl, CodePoint.ext hval.symm⟩
  split
  · rename_i hval
    exact ⟨.short 0x66 0x0C rfl, rfl, CodePoint.ext hval.symm⟩
  split
  · rename_i hval
    exact ⟨.short 0x6E 0x0A rfl, rfl, CodePoint.ext hval.symm⟩
  split
  · rename_i hval
    exact ⟨.short 0x72 0x0D rfl, rfl, CodePoint.ext hval.symm⟩
  split
  · rename_i hval
    exact ⟨.short 0x74 0x09 rfl, rfl, CodePoint.ext hval.symm⟩
  split
  · rename_i hcontrol
    have hvalue := controlUnit_value c hcontrol
    refine ⟨.unit (controlUnit c hcontrol) (by omega), ?_, CodePoint.ext hvalue⟩
    have hhigh := utf8_ascii (hexDigit_byte (c.val / 16) (by omega)).2
    have hlow := utf8_ascii (hexDigit_byte (c.val % 16) (by omega)).2
    have htail : PyStr.bytes [hexDigit (c.val / 16), hexDigit (c.val % 16)] =
        (hexDigit (c.val / 16)).utf8 ++ ((hexDigit (c.val % 16)).utf8 ++ []) := rfl
    rw [PyStr.bytes_append, htail, hhigh, hlow]
    rfl
  · rename_i hquote hback _ _ _ _ _ hprintable
    have htext : PyStr.bytes [c] = c.utf8 := List.append_nil _
    exact ⟨.plain c hscalar (by omega) ⟨hquote, hback⟩, htext.symm, rfl⟩

theorem dumpStr_spelt {s : PyStr} (hclean : s.Clean) :
    ∃ p : Pieces, quoted p = (dumpStr s).bytes ∧ p.chars = s := by
  obtain ⟨p, htext, hchars⟩ : ∃ p : Pieces, p.text = PyStr.bytes (s.flatMap escapeChar) ∧ p.chars = s := by
    induction s with
    | nil => exact ⟨[], rfl, rfl⟩
    | cons c s ih =>
      obtain ⟨hc, hclean⟩ := List.forall_mem_cons.mp hclean
      obtain ⟨p, hp, hchar⟩ := escapeChar_spelt hc
      obtain ⟨ps, hps, hchars⟩ := ih hclean
      refine ⟨p :: ps, ?_, ?_⟩
      · rw [List.flatMap_cons, PyStr.bytes_append, ← hp, ← hps]
        rfl
      · show p.char :: Pieces.chars ps = c :: s
        rw [hchar, hchars]
  refine ⟨p, ?_, hchars⟩
  have hmark : (PyStr.ofString "\"").bytes = [0x22] := by decide
  rw [dumpStr, PyStr.bytes_append, PyStr.bytes_append, hmark, ← htext]
  rfl

/-! ## Values -/

def noBlank : Spaces := ⟨[], List.forall_mem_nil _⟩

/-- A tree for a value and the text that it is written as. -/
structure Derives (d : Nat) (v : Value) (written : PyStr) (t : Tree) : Prop where
  text : t.text = written.bytes
  depth : t.depth ≤ d
  names : ∀ spelling, v.NamesDiffer spelling → t.NamesDiffer spelling

theorem commaJoin_cons {t u : PyStr} {ts : List PyStr} :
    PyStr.bytes (commaJoin (t :: u :: ts)) = t.bytes ++ 0x2C :: PyStr.bytes (commaJoin (u :: ts)) := by
  have hcomma : (PyStr.ofString ",").bytes = [0x2C] := by decide
  rw [commaJoin, PyStr.bytes_append, PyStr.bytes_append, hcomma, List.append_assoc, List.singleton_append]
  exact List.cons_ne_nil u ts

theorem items_spelt {d : Nat} {write : Value → PyStr} {v : Value} {vs : List Value}
    (h : ∀ w ∈ v :: vs, ∃ t, Derives d w (write w) t) :
    ∃ i : Items, i.text = PyStr.bytes (commaJoin ((v :: vs).map write)) ∧ i.depth ≤ d ∧
      ∀ spelling, (∀ w ∈ v :: vs, w.NamesDiffer spelling) → i.NamesDiffer spelling := by
  induction vs generalizing v with
  | nil =>
    obtain ⟨t, ht⟩ := h v List.mem_cons_self
    refine ⟨.one noBlank t noBlank, ?_, ?_, ?_⟩
    · show t.text ++ [] = (write v).bytes
      rw [List.append_nil, ht.text]
    · rw [Items.depth]
      exact ht.depth
    · intro spelling hnames
      rw [Items.NamesDiffer]
      exact ht.names spelling (hnames v List.mem_cons_self)
  | cons w vs ih =>
    obtain ⟨t, ht⟩ := h v List.mem_cons_self
    obtain ⟨i, htext, hdepth, hlater⟩ := ih (fun u hu => h u (List.mem_cons_of_mem v hu))
    refine ⟨.more noBlank t noBlank i, ?_, ?_, ?_⟩
    · rw [List.map_cons] at htext
      rw [List.map_cons, List.map_cons, commaJoin_cons, ← ht.text, ← htext]
      rfl
    · rw [Items.depth]
      exact Nat.max_le.mpr ⟨ht.depth, hdepth⟩
    · intro spelling hnames
      rw [Items.NamesDiffer]
      exact ⟨ht.names spelling (hnames v List.mem_cons_self),
        hlater spelling (fun u hu => hnames u (List.mem_cons_of_mem v hu))⟩

theorem members_spelt {d : Nat} {write : Value → PyStr} {e : PyStr × Value} {es : List (PyStr × Value)}
    (hclean : ∀ a ∈ e :: es, a.1.Clean) (h : ∀ a ∈ e :: es, ∃ t, Derives d a.2 (write a.2) t) :
    ∃ m : Members, m.text = PyStr.bytes (commaJoin ((e :: es).map fun a => dumpPair (a.1, write a.2))) ∧
      m.depth ≤ d ∧ m.names = (e :: es).map Prod.fst ∧
      ∀ spelling, (∀ a ∈ e :: es, a.2.NamesDiffer spelling) → m.NamesDiffer spelling := by
  have hcolon : (PyStr.ofString ":").bytes = [0x3A] := by decide
  have pair {name : Pieces} {t : Tree} {a : PyStr × Value} (hname : quoted name = (dumpStr a.1).bytes)
      (ht : t.text = (write a.2).bytes) :
      PyStr.bytes (dumpPair (a.1, write a.2)) = quoted name ++ 0x3A :: t.text := by
    rw [dumpPair, PyStr.bytes_append, PyStr.bytes_append, hcolon, hname, ht, List.append_assoc,
      List.singleton_append]
  induction es generalizing e with
  | nil =>
    obtain ⟨t, ht⟩ := h e List.mem_cons_self
    obtain ⟨name, hname, hchars⟩ := dumpStr_spelt (hclean e List.mem_cons_self)
    refine ⟨.one noBlank name noBlank noBlank t noBlank, ?_, ?_, ?_, ?_⟩
    · show quoted name ++ 0x3A :: (t.text ++ []) = PyStr.bytes (dumpPair (e.1, write e.2))
      rw [pair hname ht.text, List.append_nil]
    · rw [Members.depth]
      exact ht.depth
    · rw [Members.names, hchars]
      rfl
    · intro spelling hnames
      rw [Members.NamesDiffer]
      exact ht.names spelling (hnames e List.mem_cons_self)
  | cons a es ih =>
    obtain ⟨t, ht⟩ := h e List.mem_cons_self
    obtain ⟨name, hname, hchars⟩ := dumpStr_spelt (hclean e List.mem_cons_self)
    obtain ⟨m, htext, hdepth, hkeys, hlater⟩ := ih (fun u hu => hclean u (List.mem_cons_of_mem e hu))
      (fun u hu => h u (List.mem_cons_of_mem e hu))
    refine ⟨.more noBlank name noBlank noBlank t noBlank m, ?_, ?_, ?_, ?_⟩
    · rw [List.map_cons] at htext
      rw [List.map_cons, List.map_cons, commaJoin_cons, pair hname ht.text, ← htext, List.append_assoc,
        List.cons_append]
      rfl
    · rw [Members.depth]
      exact Nat.max_le.mpr ⟨ht.depth, hdepth⟩
    · rw [Members.names, hchars, hkeys]
      rfl
    · intro spelling hnames
      rw [Members.NamesDiffer]
      exact ⟨ht.names spelling (hnames e List.mem_cons_self),
        hlater spelling (fun u hu => hnames u (List.mem_cons_of_mem e hu))⟩

theorem clean_commaJoin {ts : List PyStr} (h : (commaJoin ts).Clean) : ∀ t ∈ ts, t.Clean := by
  induction ts with
  | nil => exact List.forall_mem_nil _
  | cons t ts ih =>
    cases ts with
    | nil => exact List.forall_mem_singleton.mpr h
    | cons u ts =>
      rw [commaJoin, PyStr.clean_append, PyStr.clean_append] at h
      · exact List.forall_mem_cons.mpr ⟨h.1.1, ih h.2⟩
      · exact List.cons_ne_nil u ts

theorem word_derives {d : Nat} {v : Value} {written : PyStr} {w : Word} (h : w.text = written.bytes) :
    Derives d v written (.word w) where
  text := h
  depth := Nat.zero_le d
  names _ _ := by simp [Tree.NamesDiffer]

theorem number_derives {d : Nat} {v : Value} {written : PyStr} {n : Number} (h : n.text = written.bytes) :
    Derives d v written (.number n) where
  text := h
  depth := Nat.zero_le d
  names _ _ := by simp [Tree.NamesDiffer]

theorem string_derives {d : Nat} {v : Value} {written : PyStr} {p : Pieces} (h : quoted p = written.bytes) :
    Derives d v written (.string p) where
  text := h
  depth := Nat.zero_le d
  names _ _ := by simp [Tree.NamesDiffer]

theorem writePairs_compact (level : Nat) (es : List (PyStr × Value)) : Layout.compact.writePairs level es =
    es.map (fun e => dumpPair (e.1, Layout.compact.write level e.2)) := by
  rw [writePairs_eq]
  apply List.map_congr_left
  intro e he
  simp [dumpPair, Layout.compact]

/-- What is written without an indent has a derivation that follows the value. -/
theorem write_spelt {py : Interpreter} {d : Nat} {v : Value} (h : Readable py d v) {level : Nat}
    (hclean : (Layout.compact.write level v).Clean) : ∃ t, Derives d v (Layout.compact.write level v) t := by
  induction v using Value.induct generalizing d level with
  | null => exact ⟨.word .null, word_derives (by rw [Layout.write]; decide)⟩
  | bool b =>
    cases b with
    | true => exact ⟨.word .true, word_derives (by rw [Layout.write]; decide)⟩
    | false => exact ⟨.word .false, word_derives (by rw [Layout.write]; decide)⟩
  | int n =>
    obtain ⟨number, htext⟩ := scanParts_spelt (scanParts_dumpInt n)
    rw [List.append_nil] at htext
    exact ⟨.number number, number_derives htext⟩
  | float r =>
    cases h with
    | float _ _ text _ =>
      obtain ⟨whole, part, hscan, -, rfl⟩ := text
      obtain ⟨number, htext⟩ := scanParts_spelt hscan
      exact ⟨.number number, number_derives htext⟩
  | str s =>
    obtain ⟨p, htext, -⟩ := dumpStr_spelt ((PyStr.clean_dumpStr s).mp hclean)
    exact ⟨.string p, string_derives htext⟩
  | list items ih =>
    cases h with
    | list d _ inside =>
      have hopen : (PyStr.ofString "[").bytes = [0x5B] := by decide
      have hclose : (PyStr.ofString "]").bytes = [0x5D] := by decide
      rw [Layout.write, writeItems_eq, enclose_compact] at hclean ⊢
      have hparts := clean_commaJoin (PyStr.clean_append.mp (PyStr.clean_append.mp hclean).1).2
      cases items with
      | nil =>
        refine ⟨.emptyArray noBlank, ?_, Nat.le_add_left 1 d, fun _ _ => by simp [Tree.NamesDiffer]⟩
        rw [PyStr.bytes_append, PyStr.bytes_append, hopen, hclose]
        rfl
      | cons v vs =>
        obtain ⟨i, htext, hdepth, hnames⟩ := items_spelt fun w hw =>
          ih w hw (inside w hw) (hparts _ (List.mem_map_of_mem hw))
        refine ⟨.array i, ?_, ?_, ?_⟩
        · rw [PyStr.bytes_append, PyStr.bytes_append, hopen, hclose, ← htext]
          rfl
        · rw [Tree.depth]
          exact Nat.succ_le_succ hdepth
        · intro spelling hdiffer
          rw [Tree.NamesDiffer]
          cases hdiffer with
          | list _ hinside => exact hnames spelling hinside
  | dict items ih =>
    cases h with
    | dict d _ keys inside =>
      have hopen : (PyStr.ofString "\x7b").bytes = [0x7B] := by decide
      have hclose : (PyStr.ofString "\x7d").bytes = [0x7D] := by decide
      rw [Layout.write, writePairs_compact, enclose_compact] at hclean ⊢
      have hparts := clean_commaJoin (PyStr.clean_append.mp (PyStr.clean_append.mp hclean).1).2
      cases items with
      | nil =>
        refine ⟨.emptyObject noBlank, ?_, Nat.le_add_left 1 d, fun _ _ => by simp [Tree.NamesDiffer]⟩
        rw [PyStr.bytes_append, PyStr.bytes_append, hopen, hclose]
        rfl
      | cons e es =>
        have hpairs : ∀ a ∈ e :: es, a.1.Clean ∧ (Layout.compact.write (level + 1) a.2).Clean := by
          intro a ha
          have hpair := hparts _ (List.mem_map_of_mem ha)
          rw [dumpPair, PyStr.clean_append, PyStr.clean_append] at hpair
          exact ⟨(PyStr.clean_dumpStr a.1).mp hpair.1.1, hpair.2⟩
        obtain ⟨m, htext, hdepth, hkeys, hnames⟩ := members_spelt (fun a ha => (hpairs a ha).1)
          fun a ha => ih a ha (inside a ha) (hpairs a ha).2
        refine ⟨.object m, ?_, ?_, ?_⟩
        · rw [PyStr.bytes_append, PyStr.bytes_append, hopen, hclose, ← htext]
          rfl
        · rw [Tree.depth]
          exact Nat.succ_le_succ hdepth
        · intro spelling hdiffer
          rw [Tree.NamesDiffer, hkeys]
          cases hdiffer with
          | dict _ hdistinct hinside => exact ⟨hdistinct, hnames spelling hinside⟩

end JsonGrammar
end Pipa.Lib
