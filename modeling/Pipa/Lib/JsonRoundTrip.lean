import Pipa.Lib.JsonText

/- `json.loads` reads back what `json.dumps` writes.

   The two forms of `json.dumps`, compact and indented, differ in the blanks they
   put between the same tokens; `Layout` is what they differ in and `write` the
   printer with a layout. `scanOnce_write` reads such a text from the front of
   another one, by induction on the value; the two printers are instances. -/
namespace Pipa.Lib

/-- Induction on a value, with the hypothesis for everything directly inside it. -/
theorem Value.induct {P : Value → Prop} (null : P .null) (bool : ∀ b, P (.bool b)) (int : ∀ n, P (.int n))
    (float : ∀ r, P (.float r)) (str : ∀ s, P (.str s)) (list : ∀ items, (∀ v ∈ items, P v) → P (.list items))
    (dict : ∀ items : List (PyStr × Value), (∀ e ∈ items, P e.2) → P (.dict items)) (v : Value) : P v := by
  have hsize : ∀ n, ∀ v : Value, sizeOf v < n → P v := by
    intro n
    induction n with
    | zero =>
      intro v hv
      exact absurd hv (Nat.not_lt_zero _)
    | succ n ih =>
      intro v hv
      cases v with
      | null => exact null
      | bool b => exact bool b
      | int m => exact int m
      | float r => exact float r
      | str s => exact str s
      | list items =>
        apply list
        intro w hw
        apply ih
        have hlt := List.sizeOf_lt_of_mem hw
        simp only [Value.list.sizeOf_spec] at hv
        omega
      | dict items =>
        apply dict
        intro e he
        apply ih
        have hlt := List.sizeOf_lt_of_mem he
        have hpair : sizeOf e = 1 + sizeOf e.1 + sizeOf e.2 := by
          obtain ⟨k, w⟩ := e
          rfl
        simp only [Value.dict.sizeOf_spec] at hv
        omega
  exact hsize (sizeOf v + 1) v (Nat.lt_succ_self _)

/-! ## Layouts -/

/-- The blanks between the tokens of a document: after an opening bracket and between items, by the
level they stand at, and after a colon. -/
structure Layout where
  gap : Nat → PyStr
  afterColon : PyStr
  gap_blank : ∀ level, (gap level).all JsonText.isBlankChar = true
  colon_blank : afterColon.all JsonText.isBlankChar = true

/-- `separators=(",", ":")`. -/
def Layout.compact : Layout := ⟨fun _ => [], [], fun _ => rfl, rfl⟩

/-- `indent=2`. -/
def Layout.indented : Layout where
  gap := newLine
  afterColon := PyStr.ofString " "
  gap_blank level := by
    simp only [newLine, List.all_append, Bool.and_eq_true, List.all_replicate]
    exact ⟨by decide, by simp; exact Or.inr (by decide)⟩
  colon_blank := by decide

namespace Layout

/-- Items with the comma and the gap between them. -/
def join (L : Layout) (level : Nat) : List PyStr → PyStr
  | [] => []
  | [t] => t
  | t :: u :: ts => t ++ PyStr.ofString "," ++ L.gap level ++ join L level (u :: ts)

/-- A list or an object. -/
def enclose (L : Layout) (level : Nat) (left right : String) (items : List PyStr) : PyStr :=
  if items.isEmpty then PyStr.ofString left ++ PyStr.ofString right
  else PyStr.ofString left ++ L.gap (level + 1) ++ L.join (level + 1) items ++ L.gap level ++ PyStr.ofString right

mutual

/-- A value at a level. -/
def write (L : Layout) (level : Nat) : Value → PyStr
  | .null => PyStr.ofString "null"
  | .bool true => PyStr.ofString "true"
  | .bool false => PyStr.ofString "false"
  | .int n => dumpInt n
  | .float r => r
  | .str s => dumpStr s
  | .list items => L.enclose level "[" "]" (writeItems L (level + 1) items)
  | .dict items => L.enclose level "\x7b" "\x7d" (writePairs L (level + 1) items)

def writeItems (L : Layout) (level : Nat) : List Value → List PyStr
  | [] => []
  | v :: vs => write L level v :: writeItems L level vs

def writePairs (L : Layout) (level : Nat) : List (PyStr × Value) → List PyStr
  | [] => []
  | (k, v) :: kvs =>
    (dumpStr k ++ PyStr.ofString ":" ++ L.afterColon ++ write L level v) :: writePairs L level kvs

end

end Layout

namespace JsonText

/-! ## Characters -/

/-- What may follow a number: nothing that could be part of it. -/
def Stops (rest : PyStr) : Prop :=
  ∀ c ∈ rest.head?, isDigitChar c = false ∧ c.val ≠ 0x2E ∧ c.val ≠ 0x65 ∧ c.val ≠ 0x45 ∧ c.val ≠ 0x2B ∧ c.val ≠ 0x2D

theorem skipBlank_blank {s t : PyStr} (hs : s.all isBlankChar = true) : skipBlank (s ++ t) = skipBlank t := by
  induction s with
  | nil => rfl
  | cons c s ih =>
    simp only [List.all_cons, Bool.and_eq_true] at hs
    show (c :: (s ++ t)).dropWhile isBlankChar = _
    rw [List.dropWhile_cons, if_pos hs.1]
    exact ih hs.2

theorem skipBlank_cons {c : CodePoint} {s : PyStr} (hc : isBlankChar c = false) : skipBlank (c :: s) = c :: s := by
  simp [skipBlank, hc]

theorem takeWhile_stops {p : CodePoint → Bool} {s rest : PyStr} (h : ∀ c ∈ rest.head?, p c = false) :
    (s ++ rest).takeWhile p = s.takeWhile p ∧ (s ++ rest).dropWhile p = s.dropWhile p ++ rest := by
  induction s with
  | nil =>
    cases rest with
    | nil => exact ⟨rfl, rfl⟩
    | cons c rest => simp [h c rfl]
  | cons c s ih =>
    simp only [List.cons_append, List.takeWhile_cons, List.dropWhile_cons]
    split
    · exact ⟨by rw [ih.1], ih.2⟩
    · exact ⟨rfl, rfl⟩

/-! ## Strings -/

/-- The scanner takes the escape of a character for the character. -/
theorem scanString_escape (c : CodePoint) (turns : Nat) (s : PyStr) :
    scanString (turns + 1) (escapeChar c ++ s) = (scanString turns s).map (fun r => (c :: r.1, r.2)) := by
  have simple (a b : CodePoint) (ha : a.val = 0x5C) (hb : scanEscape (b :: s) = some (c, s)) :
      scanString (turns + 1) (a :: b :: s) = (scanString turns s).map (fun r => (c :: r.1, r.2)) := by
    simp only [scanString, ha, hb]
    rfl
  have point (n : Nat) (hn : n < 0x110000) (hc : c.val = n) : codePoint n = c := by
    subst hc
    simp only [codePoint, hn, dif_pos]
  unfold escapeChar
  split
  · rename_i h
    refine simple ⟨0x5C, by decide⟩ ⟨0x22, by decide⟩ rfl ?_
    rw [show c = ⟨0x22, by decide⟩ from CodePoint.ext h]
    rfl
  split
  · rename_i h
    refine simple ⟨0x5C, by decide⟩ ⟨0x5C, by decide⟩ rfl ?_
    rw [show c = ⟨0x5C, by decide⟩ from CodePoint.ext h]
    rfl
  split
  · rename_i h
    refine simple ⟨0x5C, by decide⟩ ⟨0x62, by decide⟩ rfl ?_
    rw [← point 0x08 (by decide) h]
    rfl
  split
  · rename_i h
    refine simple ⟨0x5C, by decide⟩ ⟨0x66, by decide⟩ rfl ?_
    rw [← point 0x0C (by decide) h]
    rfl
  split
  · rename_i h
    refine simple ⟨0x5C, by decide⟩ ⟨0x6E, by decide⟩ rfl ?_
    rw [← point 0x0A (by decide) h]
    rfl
  split
  · rename_i h
    refine simple ⟨0x5C, by decide⟩ ⟨0x72, by decide⟩ rfl ?_
    rw [← point 0x0D (by decide) h]
    rfl
  split
  · rename_i h
    refine simple ⟨0x5C, by decide⟩ ⟨0x74, by decide⟩ rfl ?_
    rw [← point 0x09 (by decide) h]
    rfl
  split
  · -- any other control character: `\u00` and two digits
    rename_i hcontrol
    have hex (d : Nat) (hd : d < 16) : hexValue (hexDigit d) = some d := by
      have hall : ∀ d < 16, hexValue (hexDigit d) = some d := by decide
      exact hall d hd
    have hscan : scanHex ([⟨0x30, by decide⟩, ⟨0x30, by decide⟩, hexDigit (c.val / 16), hexDigit (c.val % 16)] ++ s) =
        some (c.val, s) := by
      simp only [List.cons_append, List.nil_append, scanHex, hex (c.val / 16) (by omega), hex (c.val % 16) (by omega)]
      have hn : c.val / 16 * 16 + c.val % 16 = c.val := by omega
      show some (0 * 4096 + 0 * 256 + c.val / 16 * 16 + c.val % 16, s) = some (c.val, s)
      simp only [Nat.zero_mul, Nat.zero_add, hn]
    have hunicode : scanUnicode ([⟨0x30, by decide⟩, ⟨0x30, by decide⟩, hexDigit (c.val / 16), hexDigit (c.val % 16)] ++ s) =
        some (c, s) := by
      simp only [scanUnicode, hscan]
      rw [if_neg (by omega), point c.val c.lt rfl]
    show scanString (turns + 1) (⟨0x5C, by decide⟩ :: ⟨0x75, by decide⟩ ::
      ([⟨0x30, by decide⟩, ⟨0x30, by decide⟩, hexDigit (c.val / 16), hexDigit (c.val % 16)] ++ s)) = _
    have hescape : scanEscape (⟨0x75, by decide⟩ ::
        ([⟨0x30, by decide⟩, ⟨0x30, by decide⟩, hexDigit (c.val / 16), hexDigit (c.val % 16)] ++ s)) = some (c, s) :=
      hunicode
    rw [scanString]
    simp only [hescape]
    rfl
  · rename_i h1 h2 h3 h4 h5 h6 h7 hcontrol
    show scanString (turns + 1) (c :: s) = _
    rw [scanString, if_neg h1, if_neg hcontrol, if_neg h2]

theorem scanString_dumped (s rest : PyStr) {turns : Nat} (hturns : s.length < turns) :
    scanString turns (s.flatMap escapeChar ++ PyStr.ofString "\"" ++ rest) = some (s, rest) := by
  induction s generalizing turns with
  | nil =>
    cases turns with
    | zero => exact absurd hturns (Nat.not_lt_zero _)
    | succ turns => rfl
  | cons c s ih =>
    cases turns with
    | zero => exact absurd hturns (Nat.not_lt_zero _)
    | succ turns =>
      rw [List.flatMap_cons, List.append_assoc, List.append_assoc, scanString_escape, ← List.append_assoc,
        ih (Nat.lt_of_succ_lt_succ hturns)]
      rfl

theorem escapeChar_length (c : CodePoint) : 1 ≤ (escapeChar c).length := by
  unfold escapeChar
  repeat' split
  all_goals first | decide | simp

theorem length_le_escaped (s : PyStr) : s.length ≤ (s.flatMap escapeChar).length := by
  induction s with
  | nil => exact Nat.le_refl 0
  | cons c s ih =>
    have hc := escapeChar_length c
    simp only [List.flatMap_cons, List.length_append, List.length_cons]
    omega

/-! ## Numbers -/

theorem scanMinus_append (s : PyStr) {rest : PyStr} (h : Stops rest) :
    scanMinus (s ++ rest) = ((scanMinus s).1, (scanMinus s).2 ++ rest) := by
  cases s with
  | nil =>
    cases rest with
    | nil => rfl
    | cons c rest => exact if_neg (h c rfl).2.2.2.2.2
  | cons c s =>
    simp only [List.cons_append, scanMinus]
    split
    · rfl
    · rfl

theorem scanWhole_append {s w l rest : PyStr} (h : Stops rest) (hs : scanWhole s = some (w, l)) :
    scanWhole (s ++ rest) = some (w, l ++ rest) := by
  cases s with
  | nil => cases hs
  | cons c s =>
    obtain ⟨htake, hdrop⟩ := takeWhile_stops (s := s) (fun c hc => (h c hc).1)
    simp only [scanWhole] at hs
    simp only [List.cons_append, scanWhole]
    split at hs
    · rename_i hzero
      obtain ⟨rfl, rfl⟩ := Prod.mk.inj (Option.some.inj hs)
      exact if_pos hzero
    · rename_i hzero
      split at hs
      · rename_i hdigit
        obtain ⟨rfl, rfl⟩ := Prod.mk.inj (Option.some.inj hs)
        rw [if_neg hzero, if_pos hdigit, htake, hdrop]
      · cases hs

theorem scanFraction_append (s : PyStr) {rest : PyStr} (h : Stops rest) :
    scanFraction (s ++ rest) = ((scanFraction s).1, (scanFraction s).2 ++ rest) := by
  cases s with
  | nil =>
    cases rest with
    | nil => rfl
    | cons c rest => exact if_neg (fun hdot => (h c rfl).2.1 hdot.1)
  | cons c s =>
    obtain ⟨htake, hdrop⟩ := takeWhile_stops (s := s) (fun c hc => (h c hc).1)
    simp only [List.cons_append, scanFraction, htake, hdrop]
    split
    · rfl
    · rfl

theorem scanSign_append (s : PyStr) {rest : PyStr} (h : Stops rest) :
    scanSign (s ++ rest) = ((scanSign s).1, (scanSign s).2 ++ rest) := by
  cases s with
  | nil =>
    cases rest with
    | nil => rfl
    | cons c rest =>
      obtain ⟨-, -, -, -, hplus, hminus⟩ := h c rfl
      exact if_neg (not_or.mpr ⟨hminus, hplus⟩)
  | cons c s =>
    simp only [List.cons_append, scanSign]
    split
    · rfl
    · rfl

theorem scanExponent_append (s : PyStr) {rest : PyStr} (h : Stops rest) :
    scanExponent (s ++ rest) = ((scanExponent s).1, (scanExponent s).2 ++ rest) := by
  cases s with
  | nil =>
    cases rest with
    | nil => rfl
    | cons c rest =>
      obtain ⟨-, -, hlower, hupper, -, -⟩ := h c rfl
      exact if_neg (fun hexp => hexp.1.elim hlower hupper)
  | cons c s =>
    obtain ⟨htake, hdrop⟩ := takeWhile_stops (s := (scanSign s).2) (fun c hc => (h c hc).1)
    simp only [List.cons_append, scanExponent, scanSign_append s h, htake, hdrop]
    split
    · rfl
    · rfl

/-- A number that stands alone is read from the front of a text it stops in. -/
theorem scanParts_append {s whole part later rest : PyStr} (h : Stops rest)
    (hs : scanParts s = some (whole, part, later)) : scanParts (s ++ rest) = some (whole, part, later ++ rest) := by
  simp only [scanParts, scanMinus_append s h]
  unfold scanParts at hs
  split at hs
  · cases hs
  · rename_i w l hw
    rw [scanWhole_append h hw]
    simp only [Option.some.injEq, Prod.mk.injEq] at hs
    obtain ⟨rfl, rfl, rfl⟩ := hs
    simp only [scanFraction_append l h, scanExponent_append _ h]

/-- The characters of a natural number, in decimal. -/
def natText (n : Nat) : PyStr := (Nat.toDigits 10 n).map CodePoint.ofChar

theorem ofString_natText (n : Nat) : PyStr.ofString (toString n) = natText n := by
  show (n.repr).toList.map CodePoint.ofChar = _
  rw [Nat.toList_repr]
  rfl

theorem dumpInt_eq (n : Int) :
    dumpInt n = if n < 0 then ⟨0x2D, by decide⟩ :: natText n.natAbs else natText n.natAbs := by
  cases n with
  | ofNat n =>
    have hpos : ¬ Int.ofNat n < 0 := Int.not_lt.mpr (Int.natCast_nonneg n)
    rw [if_neg hpos]
    exact ofString_natText n
  | negSucc n =>
    rw [if_pos (Int.negSucc_lt_zero n)]
    have htext : toString (Int.negSucc n) = "-" ++ toString (n + 1) := rfl
    show PyStr.ofString (toString (Int.negSucc n)) = _
    rw [htext, PyStr.ofString_append, ofString_natText]
    rfl

theorem natText_digits (n : Nat) : ∀ c ∈ natText n, isDigitChar c = true := by
  intro c hc
  obtain ⟨d, hd, rfl⟩ := List.mem_map.mp hc
  have hdigit := Nat.isDigit_of_mem_toDigits (by decide) (by decide) hd
  simp only [Char.isDigit, Bool.and_eq_true, decide_eq_true_eq] at hdigit
  simp only [isDigitChar, CodePoint.ofChar, Bool.and_eq_true]
  exact ⟨decide_eq_true (UInt32.le_iff_toNat_le.mp hdigit.1), decide_eq_true (UInt32.le_iff_toNat_le.mp hdigit.2)⟩

theorem digitsValue_natText (n : Nat) : digitsValue (natText n) = n := by
  have hdigits (ds : List Char) (m : Nat) :
      (ds.map CodePoint.ofChar).foldl (fun n c => n * 10 + (c.val - 0x30)) m = Nat.ofDigitChars 10 ds m := by
    induction ds generalizing m with
    | nil => rfl
    | cons d ds ih =>
      rw [List.map_cons, List.foldl_cons, ih, Nat.ofDigitChars_cons]
      congr 1
      show m * 10 + (d.toNat - 0x30) = 10 * m + (d.toNat - '0'.toNat)
      rw [Nat.mul_comm]
      rfl
  rw [digitsValue, natText, hdigits, Nat.ofDigitChars_ten_toDigits]

/-- A number above zero starts with no zero. -/
theorem natText_cons (n : Nat) : ∃ c s, natText n = c :: s ∧ isDigitChar c = true ∧ (c.val = 0x30 → s = []) := by
  induction n using Nat.strongRecOn with
  | _ n ih =>
    by_cases hn : n < 10
    · refine ⟨CodePoint.ofChar n.digitChar, [], ?_, ?_, fun _ => rfl⟩
      · rw [natText, Nat.toDigits_of_lt_base hn]
        rfl
      · apply natText_digits n
        rw [natText, Nat.toDigits_of_lt_base hn]
        exact List.mem_cons_self
    · obtain ⟨c, s, htext, hdigit, hzero⟩ := ih (n / 10) (by omega)
      refine ⟨c, s ++ [CodePoint.ofChar (n % 10).digitChar], ?_, hdigit, ?_⟩
      · rw [natText, Nat.toDigits_of_base_le (by decide) (by omega), List.map_append]
        exact congrArg (· ++ _) htext
      · intro hc
        -- then the leading digits are a zero
        obtain rfl := hzero hc
        have hvalue := digitsValue_natText (n / 10)
        rw [htext] at hvalue
        simp only [digitsValue, List.foldl_cons, List.foldl_nil, hc] at hvalue
        omega

theorem scanParts_dumpInt (n : Int) : scanParts (dumpInt n) = some (dumpInt n, [], []) := by
  obtain ⟨c, s, htext, hdigit, hzero⟩ := natText_cons n.natAbs
  have hall : ∀ d ∈ s, isDigitChar d = true := by
    intro d hd
    apply natText_digits n.natAbs
    rw [htext]
    exact List.mem_cons_of_mem c hd
  have hwhole : scanWhole (natText n.natAbs) = some (natText n.natAbs, []) := by
    rw [htext]
    by_cases hc : c.val = 0x30
    · rw [hzero hc]
      exact if_pos hc
    · simp only [scanWhole]
      rw [if_neg hc, if_pos hdigit, List.takeWhile_eq_self_iff.mpr hall, List.dropWhile_eq_nil_iff.mpr hall]
  have hminus : c.val ≠ 0x2D := by
    simp only [isDigitChar, Bool.and_eq_true, decide_eq_true_eq] at hdigit
    omega
  rw [dumpInt_eq]
  split
  · have hfirst : scanMinus (⟨0x2D, by decide⟩ :: natText n.natAbs) = ([⟨0x2D, by decide⟩], natText n.natAbs) := rfl
    simp only [scanParts, hfirst, hwhole]
    rfl
  · have hfirst : scanMinus (natText n.natAbs) = ([], natText n.natAbs) := by
      rw [htext]
      exact if_neg hminus
    simp only [scanParts, hfirst, hwhole]
    rfl

theorem intValue_dumpInt (n : Int) : intValue (dumpInt n) = n := by
  rw [dumpInt_eq]
  split
  · rename_i hneg
    show -(digitsValue (natText n.natAbs) : Int) = n
    rw [digitsValue_natText]
    omega
  · rename_i hpos
    obtain ⟨c, s, htext, hdigit, -⟩ := natText_cons n.natAbs
    have hminus : c.val ≠ 0x2D := by
      simp only [isDigitChar, Bool.and_eq_true, decide_eq_true_eq] at hdigit
      omega
    have hvalue := digitsValue_natText n.natAbs
    rw [htext] at hvalue ⊢
    simp only [intValue, if_neg hminus, hvalue]
    omega

/-! ## Values -/

/-- A number with a fraction or an exponent, and nothing else. -/
def IsFloatText (r : PyStr) : Prop :=
  ∃ whole part, scanParts r = some (whole, part, []) ∧ part ≠ [] ∧ whole ++ part = r

/-- The values that this interpreter writes and reads, up to a depth. Fields have distinct names,
as the keys of a `dict` have. -/
inductive Readable (py : Interpreter) : Nat → Value → Prop
  | null (d : Nat) : Readable py d .null
  | bool (d : Nat) (b : Bool) : Readable py d (.bool b)
  | int (d : Nat) (n : Int) (short : ((dumpInt n).filter isDigitChar).length ≤ py.maxDigits) : Readable py d (.int n)
  | float (d : Nat) (r : PyStr) (text : IsFloatText r) (same : py.float r = r) : Readable py d (.float r)
  | str (d : Nat) (s : PyStr) : Readable py d (.str s)
  | list (d : Nat) (items : List Value) (inside : ∀ v ∈ items, Readable py d v) : Readable py (d + 1) (.list items)
  | dict (d : Nat) (items : List (PyStr × Value)) (keys : (Object.keys items).Nodup)
      (inside : ∀ e ∈ items, Readable py d e.2) : Readable py (d + 1) (.dict items)

/-- A number starts with a digit, or with a minus and a digit. -/
theorem scanParts_head {s whole part later : PyStr} (h : scanParts s = some (whole, part, later)) :
    (∃ c t, s = c :: t ∧ isDigitChar c = true) ∨
    ∃ m c t, s = m :: c :: t ∧ m.val = 0x2D ∧ isDigitChar c = true := by
  have digit {s w l : PyStr} (hw : scanWhole s = some (w, l)) : ∃ c t, s = c :: t ∧ isDigitChar c = true := by
    cases s with
    | nil => cases hw
    | cons c t =>
      refine ⟨c, t, rfl, ?_⟩
      simp only [scanWhole] at hw
      split at hw
      · rename_i hc
        simp [isDigitChar, hc]
      · split at hw
        · assumption
        · cases hw
  unfold scanParts at h
  split at h
  · cases h
  · rename_i w l hw
    obtain ⟨c, t, heq, hc⟩ := digit hw
    cases s with
    | nil => cases heq
    | cons m s =>
      simp only [scanMinus] at heq
      split at heq
      · rename_i hm
        exact Or.inr ⟨m, c, t, congrArg (m :: ·) heq, hm, hc⟩
      · exact Or.inl ⟨c, t, heq, hc⟩

section
variable (py : Interpreter) {ε : Type} (hook : List (PyStr × Value) → Except ε Value)

theorem scanOnce_eq (d : Nat) : ∃ nested, scanOnce py hook d = scanWith py hook nested := by
  cases d with
  | zero => exact ⟨none, rfl⟩
  | succ d => exact ⟨some (scanOnce py hook d), rfl⟩

/-- What starts with a digit or a minus and a digit is scanned as a number. -/
theorem scanWith_number {nested : Option (PyStr → Scan ε Value)} {s whole part later : PyStr}
    (h : scanParts s = some (whole, part, later)) : scanWith py hook nested s = scanNumber py s := by
  have none_of {s : PyStr} (hs : ∀ e ∈ constants, ¬ e.1 <+: s) :
      constants.find? (fun e => e.1.isPrefixOf s) = none := by
    rw [List.find?_eq_none]
    intro e he hpart
    exact hs e he (List.isPrefixOf_iff_prefix.mp hpart)
  obtain ⟨c, t, rfl, hc⟩ | ⟨m, c, t, rfl, hm, hc⟩ := scanParts_head h
  · have hdigit : 0x30 ≤ c.val ∧ c.val ≤ 0x39 := by
      simpa only [isDigitChar, Bool.and_eq_true, decide_eq_true_eq] using hc
    have hnone : constants.find? (fun e => e.1.isPrefixOf (c :: t)) = none := by
      apply none_of
      intro e he hpart
      have hfirst : ∀ e ∈ constants, e.1.head?.any (fun c => !isDigitChar c) = true := by decide
      have hhead := hfirst e he
      cases hname : e.1 with
      | nil => simp [hname] at hhead
      | cons a name =>
        rw [hname] at hhead hpart
        obtain rfl := (List.cons_prefix_cons.mp hpart).1
        simp [hc] at hhead
    simp only [scanWith]
    rw [if_neg (by omega), if_neg (by omega), if_neg (by omega), hnone]
  · have hnone : constants.find? (fun e => e.1.isPrefixOf (m :: c :: t)) = none := by
      apply none_of
      intro e he hpart
      have hsecond : ∀ e ∈ constants, e.1.head?.any (fun c => c.val ≠ 0x2D) = true ∨
          e.1.tail.head?.any (fun c => !isDigitChar c) = true := by decide
      cases hname : e.1 with
      | nil => simpa [hname] using hsecond e he
      | cons a name =>
        rw [hname] at hpart
        obtain ⟨rfl, hrest⟩ := List.cons_prefix_cons.mp hpart
        cases name with
        | nil => simpa [hname, hm] using hsecond e he
        | cons b name =>
          obtain rfl := (List.cons_prefix_cons.mp hrest).1
          simpa [hname, hm, hc] using hsecond e he
    simp only [scanWith]
    rw [if_neg (by omega), if_neg (by omega), if_neg (by omega), hnone]

variable (L : Layout)

/-- A character that a value may be written with first: neither blank nor the end of a list. -/
structure Opens (c : CodePoint) : Prop where
  solid : isBlankChar c = false
  inside : c.val ≠ 0x5D
  ascii : c.val < 0x80

instance (c : CodePoint) : Decidable (Opens c) :=
  decidable_of_iff (isBlankChar c = false ∧ c.val ≠ 0x5D ∧ c.val < 0x80)
    ⟨fun h => ⟨h.1, h.2.1, h.2.2⟩, fun h => ⟨h.solid, h.inside, h.ascii⟩⟩

theorem write_head {d : Nat} {v : Value} (h : Readable py d v) (level : Nat) :
    ∃ c t, L.write level v = c :: t ∧ Opens c := by
  have number {s whole part : PyStr} (hs : scanParts s = some (whole, part, [])) :
      ∃ c t, s = c :: t ∧ Opens c := by
    obtain ⟨c, t, rfl, hc⟩ | ⟨m, c, t, rfl, hm, -⟩ := scanParts_head hs
    · simp only [isDigitChar, Bool.and_eq_true, decide_eq_true_eq] at hc
      refine ⟨c, t, rfl, ?_, by omega, by omega⟩
      simp only [isBlankChar, Bool.or_eq_false_iff, beq_eq_false_iff_ne]
      omega
    · refine ⟨m, c :: t, rfl, ?_, by omega, by omega⟩
      simp only [isBlankChar, Bool.or_eq_false_iff, beq_eq_false_iff_ne]
      omega
  have enclosed (left right : String) (items : List PyStr) {a : CodePoint} (hleft : PyStr.ofString left = [a])
      (ha : Opens a) :
      ∃ c t, L.enclose level left right items = c :: t ∧ Opens c := by
    unfold Layout.enclose
    rw [hleft]
    split
    · exact ⟨a, _, rfl, ha⟩
    · exact ⟨a, _, rfl, ha⟩
  cases h with
  | null => exact ⟨_, _, rfl, by decide⟩
  | bool _ b =>
    cases b with
    | true => exact ⟨_, _, rfl, by decide⟩
    | false => exact ⟨_, _, rfl, by decide⟩
  | int _ n _ => exact number (scanParts_dumpInt n)
  | float _ r text _ =>
    obtain ⟨whole, part, hparts, -, -⟩ := text
    exact number hparts
  | str _ s => exact ⟨_, _, rfl, by decide⟩
  | list _ items _ => exact enclosed "[" "]" _ (a := ⟨0x5B, by decide⟩) rfl (by decide)
  | dict _ items _ _ => exact enclosed "\x7b" "\x7d" _ (a := ⟨0x7B, by decide⟩) rfl (by decide)

/-- After an item comes a comma or, after blanks, a closing bracket: no part of a number. -/
theorem stops_blank {s : PyStr} (hs : s.all isBlankChar = true) (c : CodePoint) (t : PyStr)
    (hc : c.val = 0x2C ∨ c.val = 0x5D ∨ c.val = 0x7D) : Stops (s ++ c :: t) := by
  intro a ha
  have hval : a.val = 0x20 ∨ a.val = 0x09 ∨ a.val = 0x0A ∨ a.val = 0x0D ∨ a.val = 0x2C ∨ a.val = 0x5D ∨ a.val = 0x7D := by
    cases s with
    | nil =>
      obtain rfl := Option.some.inj ha
      omega
    | cons b s =>
      obtain rfl := Option.some.inj ha
      simp only [List.all_cons, Bool.and_eq_true, isBlankChar, Bool.or_eq_true, beq_iff_eq] at hs
      omega
  simp only [isDigitChar, Bool.and_eq_false_iff, decide_eq_false_iff_not]
  omega

theorem length_le_join (level : Nat) {ts : List PyStr} (hts : ∀ t ∈ ts, t ≠ []) : ts.length ≤ (L.join level ts).length := by
  induction ts with
  | nil => exact Nat.le_refl 0
  | cons t ts ih =>
    have ht : 1 ≤ t.length := List.length_pos_iff.mpr (hts t List.mem_cons_self)
    have hlater := ih (fun u hu => hts u (List.mem_cons_of_mem t hu))
    cases ts with
    | nil => exact ht
    | cons u ts =>
      simp only [Layout.join, List.length_append, List.length_cons] at hlater ⊢
      omega

theorem join_head (level : Nat) (c : CodePoint) (t : PyStr) (ts : List PyStr) :
    ∃ t', L.join level ((c :: t) :: ts) = c :: t' := by
  cases ts with
  | nil => exact ⟨t, rfl⟩
  | cons u ts =>
    refine ⟨t ++ (PyStr.ofString "," ++ (L.gap level ++ L.join level (u :: ts))), ?_⟩
    simp only [Layout.join, List.append_assoc, List.cons_append]

/-- A scanner reads a value from the front of any text that a number stops in. -/
def Reads (scan : PyStr → Scan ε Value) (v : Value) : Prop :=
  ∀ level rest, Stops rest → scan (L.write level v ++ rest) = .ok (v, rest)

variable {L}

theorem scanItems_write {scan : PyStr → Scan ε Value} {level : Nat} {v : Value} {vs : List Value} {g rest : PyStr}
    (hreads : ∀ w ∈ v :: vs, Reads L scan w)
    (hheads : ∀ w ∈ v :: vs, ∀ level, ∃ c t, L.write level w = c :: t ∧ Opens c)
    (hg : g.all isBlankChar = true) {turns : Nat} (hturns : vs.length < turns) :
    scanItems scan turns (L.join level (L.writeItems level (v :: vs)) ++ (g ++ ⟨0x5D, by decide⟩ :: rest)) =
      .ok (v :: vs, rest) := by
  induction vs generalizing v turns with
  | nil =>
    cases turns with
    | zero => exact absurd hturns (Nat.not_lt_zero _)
    | succ turns =>
      have hread := hreads v List.mem_cons_self level _ (stops_blank hg ⟨0x5D, by decide⟩ rest (Or.inr (Or.inl rfl)))
      simp only [Layout.writeItems, Layout.join, scanItems, hread]
      rw [skipBlank_blank hg, skipBlank_cons (by decide)]
      rfl
  | cons w vs ih =>
    cases turns with
    | zero => exact absurd hturns (Nat.not_lt_zero _)
    | succ turns =>
      have hlater := ih (fun u hu => hreads u (List.mem_cons_of_mem v hu)) (fun u hu => hheads u (List.mem_cons_of_mem v hu))
        (Nat.lt_of_succ_lt_succ hturns)
      generalize htail : L.join level (L.writeItems level (w :: vs)) = later at hlater
      have hhead : ∃ c t, later = c :: t ∧ isBlankChar c = false := by
        obtain ⟨c, t, hc, hblank, -⟩ := hheads w (List.mem_cons_of_mem v List.mem_cons_self) level
        obtain ⟨t', hjoin⟩ := join_head L level c t (L.writeItems level vs)
        refine ⟨c, t', ?_, hblank⟩
        rw [← htail, Layout.writeItems, hc, hjoin]
      have htext : L.join level (L.writeItems level (v :: w :: vs)) ++ (g ++ ⟨0x5D, by decide⟩ :: rest) =
          L.write level v ++ ([] ++ ⟨0x2C, by decide⟩ :: (L.gap level ++ (later ++ (g ++ ⟨0x5D, by decide⟩ :: rest)))) := by
        rw [← htail]
        simp only [Layout.writeItems, Layout.join, List.append_assoc, List.nil_append]
        rfl
      have hread := hreads v List.mem_cons_self level _ (stops_blank (s := []) rfl ⟨0x2C, by decide⟩
        (L.gap level ++ (later ++ (g ++ ⟨0x5D, by decide⟩ :: rest))) (Or.inl rfl))
      obtain ⟨c, t, rfl, hblank⟩ := hhead
      rw [htext]
      simp only [scanItems, hread]
      rw [List.nil_append, skipBlank_cons (by decide)]
      simp only
      rw [if_neg (by decide), if_pos trivial, skipBlank_blank (L.gap_blank level), List.cons_append, skipBlank_cons hblank,
        ← List.cons_append, hlater]

theorem scanKey_write (k : PyStr) {c : CodePoint} {t : PyStr} (hc : isBlankChar c = false) :
    scanKey (ε := ε) (dumpStr k ++ (PyStr.ofString ":" ++ (L.afterColon ++ (c :: t)))) = .ok (k, c :: t) := by
  have hquote : dumpStr k ++ (PyStr.ofString ":" ++ (L.afterColon ++ (c :: t))) =
      ⟨0x22, by decide⟩ :: (k.flatMap escapeChar ++ PyStr.ofString "\"" ++ (⟨0x3A, by decide⟩ :: (L.afterColon ++ (c :: t)))) := by
    simp only [dumpStr, List.append_assoc]
    rfl
  have hlength := length_le_escaped k
  rw [hquote]
  simp only [scanKey]
  rw [if_neg (by decide), scanString_dumped k _ (by simp only [List.length_append]; omega)]
  simp only
  rw [skipBlank_cons (by decide)]
  simp only [if_true]
  rw [skipBlank_blank L.colon_blank, skipBlank_cons hc]

theorem scanPairs_write {scan : PyStr → Scan ε Value} {level : Nat} {e : PyStr × Value} {es : List (PyStr × Value)}
    {g rest : PyStr} (hreads : ∀ p ∈ e :: es, Reads L scan p.2)
    (hheads : ∀ p ∈ e :: es, ∀ level, ∃ c t, L.write level p.2 = c :: t ∧ Opens c)
    (hg : g.all isBlankChar = true) {turns : Nat} (hturns : es.length < turns) :
    scanPairs scan turns (L.join level (L.writePairs level (e :: es)) ++ (g ++ ⟨0x7D, by decide⟩ :: rest)) =
      .ok (e :: es, rest) := by
  induction es generalizing e turns with
  | nil =>
    obtain ⟨k, v⟩ := e
    cases turns with
    | zero => exact absurd hturns (Nat.not_lt_zero _)
    | succ turns =>
      have hread := hreads (k, v) List.mem_cons_self level _ (stops_blank hg ⟨0x7D, by decide⟩ rest (Or.inr (Or.inr rfl)))
      obtain ⟨c, t, hc, hblank, -⟩ := hheads (k, v) List.mem_cons_self level
      simp only [hc, List.cons_append] at hread
      simp only [Layout.writePairs, Layout.join, List.append_assoc, hc, List.cons_append, scanPairs,
        scanKey_write k hblank, hread]
      rw [skipBlank_blank hg, skipBlank_cons (by decide)]
      rfl
  | cons f es ih =>
    obtain ⟨k, v⟩ := e
    cases turns with
    | zero => exact absurd hturns (Nat.not_lt_zero _)
    | succ turns =>
      have hlater := ih (fun u hu => hreads u (List.mem_cons_of_mem (k, v) hu))
        (fun u hu => hheads u (List.mem_cons_of_mem (k, v) hu)) (Nat.lt_of_succ_lt_succ hturns)
      generalize htail : L.join level (L.writePairs level (f :: es)) = later at hlater
      have hhead : ∃ c t, later = c :: t ∧ isBlankChar c = false := by
        obtain ⟨c, t, hc⟩ : ∃ c t, dumpStr f.1 ++ PyStr.ofString ":" ++ L.afterColon ++ L.write level f.2 = c :: t ∧
            isBlankChar c = false := ⟨⟨0x22, by decide⟩, _, rfl, by decide⟩
        obtain ⟨t', hjoin⟩ := join_head L level c t (L.writePairs level es)
        refine ⟨c, t', ?_, hc.2⟩
        rw [← htail, Layout.writePairs, hc.1, hjoin]
      obtain ⟨c, t, rfl, hblank⟩ := hhead
      have htext : L.join level (L.writePairs level ((k, v) :: f :: es)) ++ (g ++ ⟨0x7D, by decide⟩ :: rest) =
          dumpStr k ++ (PyStr.ofString ":" ++ (L.afterColon ++ (L.write level v ++
            ([] ++ ⟨0x2C, by decide⟩ :: (L.gap level ++ (c :: t ++ (g ++ ⟨0x7D, by decide⟩ :: rest))))))) := by
        rw [← htail]
        simp only [Layout.writePairs, Layout.join, List.append_assoc, List.nil_append]
        rfl
      have hread := hreads (k, v) List.mem_cons_self level _ (stops_blank (s := []) rfl ⟨0x2C, by decide⟩
        (L.gap level ++ (c :: t ++ (g ++ ⟨0x7D, by decide⟩ :: rest))) (Or.inl rfl))
      obtain ⟨a, w, ha, hvalue, -⟩ := hheads (k, v) List.mem_cons_self level
      rw [htext]
      simp only [ha, List.cons_append] at hread ⊢
      simp only [scanPairs, scanKey_write k hvalue, hread]
      rw [List.nil_append, skipBlank_cons (by decide)]
      simp only
      rw [if_neg (by decide), if_pos trivial, skipBlank_blank (L.gap_blank level), skipBlank_cons hblank,
        ← List.cons_append, hlater]

theorem writeItems_eq (level : Nat) (vs : List Value) : L.writeItems level vs = vs.map (L.write level) := by
  induction vs with
  | nil => rfl
  | cons v vs ih => rw [Layout.writeItems, List.map_cons, ih]

theorem writePairs_eq (level : Nat) (es : List (PyStr × Value)) : L.writePairs level es =
    es.map (fun e => dumpStr e.1 ++ PyStr.ofString ":" ++ L.afterColon ++ L.write level e.2) := by
  induction es with
  | nil => rfl
  | cons e es ih => rw [Layout.writePairs, List.map_cons, ih]

/-- An enclosed text after its opening bracket. -/
theorem enclose_cons (level : Nat) (left right : String) {l r : CodePoint} (hl : PyStr.ofString left = [l])
    (hr : PyStr.ofString right = [r]) (t : PyStr) (ts : List PyStr) (rest : PyStr) :
    L.enclose level left right (t :: ts) ++ rest =
      l :: (L.gap (level + 1) ++ (L.join (level + 1) (t :: ts) ++ (L.gap level ++ r :: rest))) := by
  simp only [Layout.enclose, List.isEmpty_cons, Bool.false_eq_true, if_false, hl, hr, List.append_assoc,
    List.cons_append, List.nil_append]

variable {py hook}

/-- What is written is scanned. -/
theorem scanOnce_write (hhook : ∀ pairs, (Object.keys pairs).Nodup → hook pairs = .ok (.dict pairs)) {v : Value} {d : Nat}
    (h : Readable py d v) : Reads L (scanOnce py hook d) v := by
  have number {d : Nat} {s whole part rest : PyStr} (hs : scanParts s = some (whole, part, [])) (hrest : Stops rest) :
      scanOnce py hook d (s ++ rest) = scanNumber py (s ++ rest) ∧ scanParts (s ++ rest) = some (whole, part, rest) := by
    have hparts := scanParts_append hrest hs
    obtain ⟨nested, hnested⟩ := scanOnce_eq py hook d
    exact ⟨by rw [hnested, scanWith_number py hook hparts], hparts⟩
  induction v using Value.induct generalizing d with
  | null =>
    intro level rest _
    obtain ⟨nested, hnested⟩ := scanOnce_eq py hook d
    rw [hnested]
    rfl
  | bool b =>
    intro level rest _
    obtain ⟨nested, hnested⟩ := scanOnce_eq py hook d
    rw [hnested]
    cases b with
    | true => rfl
    | false => rfl
  | int n =>
    intro level rest hrest
    obtain ⟨hscan, hparts⟩ := number (d := d) (scanParts_dumpInt n) hrest
    cases h with
    | int _ _ short =>
      show scanOnce py hook d (dumpInt n ++ rest) = _
      rw [hscan, scanNumber, hparts]
      simp only [ne_eq, not_true_eq_false, if_false]
      rw [if_neg (Nat.not_lt.mpr short), intValue_dumpInt]
  | float r =>
    intro level rest hrest
    cases h with
    | float _ _ text same =>
      obtain ⟨whole, part, htext, hpart, rfl⟩ := text
      obtain ⟨hscan, hparts⟩ := number (d := d) htext hrest
      show scanOnce py hook d (whole ++ part ++ rest) = _
      rw [hscan, scanNumber, hparts]
      simp only [if_pos hpart, same]
  | str s =>
    intro level rest _
    obtain ⟨nested, hnested⟩ := scanOnce_eq py hook d
    have htext : L.write level (.str s) ++ rest =
        ⟨0x22, by decide⟩ :: (s.flatMap escapeChar ++ PyStr.ofString "\"" ++ rest) := by
      simp only [Layout.write, dumpStr, List.append_assoc]
      rfl
    have hlength := length_le_escaped s
    rw [hnested, htext]
    simp only [scanWith]
    rw [if_pos trivial, scanString_dumped s rest (by simp only [List.length_append]; omega)]
  | list items ih =>
    intro level rest _
    cases h with
    | list d _ inside =>
      cases items with
      | nil => rfl
      | cons v vs =>
        have hheads : ∀ w ∈ v :: vs, ∀ level, ∃ c t, L.write level w = c :: t ∧ Opens c :=
          fun w hw level => write_head py L (inside w hw) level
        have hscan (turns : Nat) (hturns : vs.length < turns) : scanItems (scanOnce py hook d) turns
            (L.join (level + 1) (L.writeItems (level + 1) (v :: vs)) ++ (L.gap level ++ ⟨0x5D, by decide⟩ :: rest)) =
              .ok (v :: vs, rest) :=
          scanItems_write (fun w hw => ih w hw (inside w hw)) hheads (L.gap_blank level) hturns
        have hlength : (v :: vs).length ≤ (L.join (level + 1) (L.writeItems (level + 1) (v :: vs))).length := by
          rw [writeItems_eq, ← List.length_map (L.write (level + 1))]
          apply length_le_join
          intro t ht
          obtain ⟨w, hw, rfl⟩ := List.mem_map.mp ht
          obtain ⟨c, t, hc, -⟩ := hheads w hw (level + 1)
          rw [hc]
          exact List.cons_ne_nil c t
        obtain ⟨c, t, hc, hblank, hclose⟩ := hheads v List.mem_cons_self (level + 1)
        obtain ⟨t', hjoin⟩ := join_head L (level + 1) c t (L.writeItems (level + 1) vs)
        have htext : L.join (level + 1) (L.writeItems (level + 1) (v :: vs)) = c :: t' := by
          rw [Layout.writeItems, hc, hjoin]
        show scanWith py hook (some (scanOnce py hook d)) (L.enclose level "[" "]" _ ++ rest) = _
        rw [Layout.writeItems, enclose_cons level "[" "]" (l := ⟨0x5B, by decide⟩) (r := ⟨0x5D, by decide⟩) rfl rfl,
          ← Layout.writeItems]
        rw [htext] at hscan hlength ⊢
        simp only [scanWith]
        rw [if_neg (by decide), if_neg (by decide), if_pos trivial]
        show scanList (scanOnce py hook d) _ = _
        simp only [scanList]
        rw [skipBlank_blank (L.gap_blank _), List.cons_append, skipBlank_cons hblank]
        simp only
        rw [if_neg hclose, ← List.cons_append, hscan _ (by simp only [List.length_cons, List.length_append] at hlength ⊢; omega)]
  | dict items ih =>
    intro level rest _
    cases h with
    | dict d _ keys inside =>
      have hdone := hhook items keys
      cases items with
      | nil =>
        show applyHook hook [] rest = _
        rw [applyHook, hdone]
      | cons e es =>
        have hheads : ∀ p ∈ e :: es, ∀ level, ∃ c t, L.write level p.2 = c :: t ∧ Opens c :=
          fun p hp level => write_head py L (inside p hp) level
        have hscan (turns : Nat) (hturns : es.length < turns) : scanPairs (scanOnce py hook d) turns
            (L.join (level + 1) (L.writePairs (level + 1) (e :: es)) ++ (L.gap level ++ ⟨0x7D, by decide⟩ :: rest)) =
              .ok (e :: es, rest) :=
          scanPairs_write (fun p hp => ih p hp (inside p hp)) hheads (L.gap_blank level) hturns
        have hlength : (e :: es).length ≤ (L.join (level + 1) (L.writePairs (level + 1) (e :: es))).length := by
          rw [writePairs_eq, ← List.length_map
            (fun e => dumpStr e.1 ++ PyStr.ofString ":" ++ L.afterColon ++ L.write (level + 1) e.2)]
          apply length_le_join
          intro t ht
          obtain ⟨p, -, rfl⟩ := List.mem_map.mp ht
          exact List.cons_ne_nil _ _
        obtain ⟨t, htext⟩ : ∃ t, L.join (level + 1) (L.writePairs (level + 1) (e :: es)) = ⟨0x22, by decide⟩ :: t :=
          join_head L (level + 1) ⟨0x22, by decide⟩ _ (L.writePairs (level + 1) es)
        show scanWith py hook (some (scanOnce py hook d)) (L.enclose level "\x7b" "\x7d" _ ++ rest) = _
        rw [Layout.writePairs, enclose_cons level "\x7b" "\x7d" (l := ⟨0x7B, by decide⟩) (r := ⟨0x7D, by decide⟩) rfl rfl,
          ← Layout.writePairs]
        rw [htext] at hscan hlength ⊢
        simp only [scanWith]
        rw [if_neg (by decide), if_pos trivial]
        show scanObject hook (scanOnce py hook d) _ = _
        simp only [scanObject]
        rw [skipBlank_blank (L.gap_blank _), List.cons_append, skipBlank_cons (by decide)]
        simp only
        rw [if_neg (by decide), ← List.cons_append,
          hscan _ (by simp only [List.length_cons, List.length_append] at hlength ⊢; omega)]
        simp only [applyHook, hdone]

/-- A written document is loaded, also with blanks after it. -/
theorem loads_write (hhook : ∀ pairs, (Object.keys pairs).Nodup → hook pairs = .ok (.dict pairs)) {v : Value}
    (h : Readable py py.maxDepth v) (level : Nat) {g : PyStr} (hg : g.all isBlankChar = true) :
    loads py hook (L.write level v ++ g) = .ok v := by
  have hstops : Stops g := by
    cases g with
    | nil =>
      intro c hc
      cases hc
    | cons b g =>
      intro c hc
      obtain rfl := Option.some.inj hc
      simp only [List.all_cons, Bool.and_eq_true, isBlankChar, Bool.or_eq_true, beq_iff_eq] at hg
      simp only [isDigitChar, Bool.and_eq_false_iff, decide_eq_false_iff_not]
      omega
  have hscan := scanOnce_write (L := L) hhook h level g hstops
  have hend : skipBlank g = [] := List.dropWhile_eq_nil_iff.mpr (List.all_eq_true.mp hg)
  obtain ⟨c, t, hc, hblank, -, hascii⟩ := write_head py L h level
  have hmark : c.val ≠ 0xFEFF := by omega
  rw [hc, List.cons_append] at hscan ⊢
  unfold loads
  rw [if_neg (by simpa using hmark), skipBlank_cons hblank, hscan]
  simp only [hend, if_true]

end

/-! ## The printers -/

theorem lineJoin_eq (level : Nat) (ts : List PyStr) : lineJoin level ts = Layout.indented.join level ts := by
  induction ts with
  | nil => rfl
  | cons t ts ih =>
    cases ts with
    | nil => rfl
    | cons u ts =>
      simp only [lineJoin, Layout.join, ih]
      rfl

theorem commaJoin_eq (level : Nat) (ts : List PyStr) : commaJoin ts = Layout.compact.join level ts := by
  induction ts with
  | nil => rfl
  | cons t ts ih =>
    cases ts with
    | nil => rfl
    | cons u ts =>
      simp only [commaJoin, Layout.join, ih]
      simp [Layout.compact]

theorem dumpLines_eq (level : Nat) (left right : String) (ts : List PyStr) :
    dumpLines level left right ts = Layout.indented.enclose level left right ts := by
  unfold dumpLines Layout.enclose
  split
  · rfl
  · rw [lineJoin_eq]
    rfl

theorem dumpsIndentList_eq (level : Nat) (vs : List Value) : dumpsIndentList level vs = vs.map (dumpsIndent level) := by
  induction vs with
  | nil => rfl
  | cons v vs ih => rw [dumpsIndentList, List.map_cons, ih]

theorem dumpsIndentItems_eq (level : Nat) (es : List (PyStr × Value)) : dumpsIndentItems level es =
    es.map (fun e => dumpStr e.1 ++ PyStr.ofString ": " ++ dumpsIndent level e.2) := by
  induction es with
  | nil => rfl
  | cons e es ih => rw [dumpsIndentItems, List.map_cons, ih]

/-- `json.dumps(v, indent=2)`. -/
theorem dumpsIndent_eq {py : Interpreter} {d : Nat} {v : Value} (h : Readable py d v) (level : Nat) :
    dumpsIndent level v = Layout.indented.write level v := by
  induction v using Value.induct generalizing d level with
  | null => rfl
  | bool b =>
    cases b with
    | true => rfl
    | false => rfl
  | int n => rfl
  | float r =>
    cases h with
    | float _ _ text same =>
      obtain ⟨whole, part, hparts, -, -⟩ := text
      have hspecial (s : String) (hs : scanParts (PyStr.ofString s) = none) : r ≠ PyStr.ofString s := by
        intro heq
        rw [heq, hs] at hparts
        cases hparts
      show dumpAnyFloat r = r
      unfold dumpAnyFloat
      rw [if_neg (hspecial "nan" rfl), if_neg (hspecial "inf" rfl), if_neg (hspecial "-inf" rfl)]
  | str s => rfl
  | list items ih =>
    cases h with
    | list d _ inside =>
      simp only [dumpsIndent, Layout.write, dumpLines_eq, dumpsIndentList_eq, writeItems_eq]
      congr 1
      exact List.map_congr_left (fun v hv => ih v hv (inside v hv) (level + 1))
  | dict items ih =>
    cases h with
    | dict d _ keys inside =>
      simp only [dumpsIndent, Layout.write, dumpLines_eq, dumpsIndentItems_eq, writePairs_eq]
      congr 1
      apply List.map_congr_left
      intro e he
      rw [ih e he (inside e he) (level + 1)]
      simp only [List.append_assoc]
      rfl

theorem dumpsList_eq (sortKeys : Bool) (vs : List Value) : dumpsList sortKeys vs = vs.mapM (dumps sortKeys) := by
  induction vs with
  | nil => rfl
  | cons v vs ih =>
    rw [dumpsList, List.mapM_cons, ih]
    rfl

theorem dumpsItems_eq (sortKeys : Bool) (es : List (PyStr × Value)) :
    dumpsItems sortKeys es = es.mapM (fun e => (dumps sortKeys e.2).map (fun t => (e.1, t))) := by
  induction es with
  | nil => rfl
  | cons e es ih =>
    rw [dumpsItems, List.mapM_cons, ih]
    cases dumps sortKeys e.2 with
    | none => rfl
    | some t => rfl

/-- A list is mapped where each of its items is. -/
theorem mapM_eq_some {α β : Type} {f : α → Option β} {g : α → β} {l : List α}
    (h : ∀ a ∈ l, (f a).isSome = true → f a = some (g a)) :
    l.mapM f = some (l.map g) ∨ (l.mapM f = none ∧ ∃ a ∈ l, f a = none) := by
  induction l with
  | nil => exact Or.inl rfl
  | cons a l ih =>
    rw [List.mapM_cons]
    cases ha : f a with
    | none => exact Or.inr ⟨rfl, a, List.mem_cons_self, ha⟩
    | some b =>
      have hb := h a List.mem_cons_self (by rw [ha]; rfl)
      obtain rfl : b = g a := Option.some.inj (ha.symm.trans hb)
      obtain hl | ⟨hl, c, hc, hnone⟩ := ih (fun c hc => h c (List.mem_cons_of_mem a hc))
      · rw [hl]
        exact Or.inl rfl
      · rw [hl]
        exact Or.inr ⟨rfl, c, List.mem_cons_of_mem a hc, hnone⟩

theorem enclose_compact (level : Nat) (left right : String) (ts : List PyStr) :
    Layout.compact.enclose level left right ts = PyStr.ofString left ++ commaJoin ts ++ PyStr.ofString right := by
  unfold Layout.enclose
  split
  · rename_i hempty
    rw [List.isEmpty_iff.mp hempty]
    simp [commaJoin]
  · rw [← commaJoin_eq]
    simp [Layout.compact]

/-- `json.dumps(v)`, compact and with the keys in their order. -/
theorem dumps_eq {v : Value} (h : (dumps false v).isSome = true) (level : Nat) :
    dumps false v = some (Layout.compact.write level v) := by
  induction v using Value.induct generalizing level with
  | null => rfl
  | bool b =>
    cases b with
    | true => rfl
    | false => rfl
  | int n => rfl
  | float r =>
    simp only [dumps, dumpFloat] at h ⊢
    split at h
    · cases h
    · rename_i hfinite
      rw [if_neg hfinite]
      rfl
  | str s => rfl
  | list items ih =>
    obtain hitems | ⟨hnone, -⟩ := mapM_eq_some (fun v hv hs => ih v hv hs (level + 1))
    · rw [dumps, dumpsList_eq, hitems, Layout.write, writeItems_eq, enclose_compact]
      rfl
    · rw [dumps, dumpsList_eq, hnone] at h
      cases h
  | dict items ih =>
    have hpairs : ∀ e ∈ items, ((dumps false e.2).map (fun t => (e.1, t))).isSome = true →
        (dumps false e.2).map (fun t => (e.1, t)) = some (e.1, Layout.compact.write (level + 1) e.2) := by
      intro e he hs
      rw [Option.isSome_map] at hs
      rw [ih e he hs (level + 1)]
      rfl
    obtain hitems | ⟨hnone, -⟩ := mapM_eq_some hpairs
    · rw [dumps, dumpsItems_eq, hitems, Layout.write, writePairs_eq, enclose_compact]
      simp only [Option.map_some, sortPairs, Bool.false_eq_true, if_false, List.map_map]
      congr 3
      apply congrArg commaJoin
      apply List.map_congr_left
      intro e he
      simp [dumpPair, Layout.compact]
    · rw [dumps, dumpsItems_eq, hnone] at h
      cases h

end JsonText
end Pipa.Lib
