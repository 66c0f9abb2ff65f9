import Pipa.Lib.Json

/- `json.loads` on text: the scanner of CPython, with its `object_pairs_hook`.

   It fails in four ways, and callers tell them apart: the text is no JSON
   document, an integer has more digits than the interpreter converts, lists and
   objects are nested deeper than it recurses, or the hook raises. The hook sees
   an object as soon as its closing brace is read, so nested objects come first
   and a repeated field is reported before a later fault of the text.

   What `json.dumps` writes is read back, compact or indented; that is
   `loads_layout`. A float is `float(text).__repr__()`, which the interpreter
   supplies. -/
namespace Pipa.Lib
namespace JsonText

/-- What depends on the interpreter: `sys.get_int_max_str_digits()`, which cannot be set below 640,
how many lists and objects the scanner may be inside of, a few at least, and the `repr` of the float a
number denotes. -/
structure Interpreter where
  maxDigits : Nat
  maxDepth : Nat
  float : PyStr → PyStr
  digits_le : 640 ≤ maxDigits
  depth_le : 16 ≤ maxDepth

/-- The limits CPython starts with. -/
def Interpreter.default : Interpreter := ⟨4300, 1000, id, by decide, by decide⟩

/-- How `json.loads` fails: with a `JSONDecodeError`, with the plain `ValueError` of an integer
that is too long, with a `RecursionError`, or with what the hook raises. -/
inductive LoadError (ε : Type) where
  | malformed
  | digits
  | recursion
  | hook (e : ε)

/-- What is read of a text, and what follows it. -/
abbrev Scan (ε α : Type) := Except (LoadError ε) (α × PyStr)

def isBlankChar (c : CodePoint) : Bool := c.val == 0x20 || c.val == 0x09 || c.val == 0x0A || c.val == 0x0D

def skipBlank (s : PyStr) : PyStr := s.dropWhile isBlankChar

/-! ## Strings -/

def hexValue (c : CodePoint) : Option Nat :=
  if 0x30 ≤ c.val ∧ c.val ≤ 0x39 then some (c.val - 0x30)
  else if 0x61 ≤ c.val ∧ c.val ≤ 0x66 then some (c.val - 0x57)
  else if 0x41 ≤ c.val ∧ c.val ≤ 0x46 then some (c.val - 0x37)
  else none

/-- Four hexadecimal digits. -/
def scanHex : PyStr → Option (Nat × PyStr)
  | a :: b :: c :: d :: s => do
    let a ← hexValue a
    let b ← hexValue b
    let c ← hexValue c
    let d ← hexValue d
    some (a * 4096 + b * 256 + c * 16 + d, s)
  | _ => none

/-- The code point with the number `n`, which is small enough where this is used. -/
def codePoint (n : Nat) : CodePoint := if h : n < 0x110000 then ⟨n, h⟩ else ⟨0xFFFD, by decide⟩

/-- After `\u`. A high surrogate followed by the escape of a low one makes one character; any
other surrogate stays as it is. -/
def scanUnicode (s : PyStr) : Option (CodePoint × PyStr) :=
  match scanHex s with
  | none => none
  | some (n, s) =>
    if 0xD800 ≤ n ∧ n ≤ 0xDBFF then
      match s with
      | b :: u :: later =>
        if b.val = 0x5C ∧ u.val = 0x75 then
          match scanHex later with
          | none => none
          | some (m, later) =>
            if 0xDC00 ≤ m ∧ m ≤ 0xDFFF then
              some (codePoint (0x10000 + (n - 0xD800) * 0x400 + (m - 0xDC00)), later)
            else some (codePoint n, s)
        else some (codePoint n, s)
      | _ => some (codePoint n, s)
    else some (codePoint n, s)

/-- After a backslash. -/
def scanEscape : PyStr → Option (CodePoint × PyStr)
  | [] => none
  | c :: s =>
    if c.val = 0x22 ∨ c.val = 0x5C ∨ c.val = 0x2F then some (c, s)
    else if c.val = 0x62 then some (codePoint 0x08, s)
    else if c.val = 0x66 then some (codePoint 0x0C, s)
    else if c.val = 0x6E then some (codePoint 0x0A, s)
    else if c.val = 0x72 then some (codePoint 0x0D, s)
    else if c.val = 0x74 then some (codePoint 0x09, s)
    else if c.val = 0x75 then scanUnicode s
    else none

/-- The characters of a string up to its closing quote, in at most so many turns. Control
characters must be escaped. -/
def scanString : Nat → PyStr → Option (PyStr × PyStr)
  | 0, _ => none
  | _ + 1, [] => none
  | turns + 1, c :: s =>
    if c.val = 0x22 then some ([], s)
    else if c.val < 0x20 then none
    else if c.val = 0x5C then
      match scanEscape s with
      | none => none
      | some (d, s) => (scanString turns s).map (fun r => (d :: r.1, r.2))
    else (scanString turns s).map (fun r => (c :: r.1, r.2))

/-! ## Numbers -/

def isDigitChar (c : CodePoint) : Bool := 0x30 ≤ c.val && c.val ≤ 0x39

/-- `0|[1-9][0-9]*`. -/
def scanWhole : PyStr → Option (PyStr × PyStr)
  | [] => none
  | c :: s =>
    if c.val = 0x30 then some ([c], s)
    else if isDigitChar c then some (c :: s.takeWhile isDigitChar, s.dropWhile isDigitChar)
    else none

/-- `(\.[0-9]+)?`. -/
def scanFraction : PyStr → PyStr × PyStr
  | [] => ([], [])
  | c :: s =>
    if c.val = 0x2E ∧ s.takeWhile isDigitChar ≠ [] then
      (c :: s.takeWhile isDigitChar, s.dropWhile isDigitChar)
    else ([], c :: s)

/-- `[-+]?`. -/
def scanSign : PyStr → PyStr × PyStr
  | [] => ([], [])
  | c :: s => if c.val = 0x2D ∨ c.val = 0x2B then ([c], s) else ([], c :: s)

/-- `([eE][-+]?[0-9]+)?`. -/
def scanExponent : PyStr → PyStr × PyStr
  | [] => ([], [])
  | c :: s =>
    if (c.val = 0x65 ∨ c.val = 0x45) ∧ (scanSign s).2.takeWhile isDigitChar ≠ [] then
      (c :: (scanSign s).1 ++ (scanSign s).2.takeWhile isDigitChar, (scanSign s).2.dropWhile isDigitChar)
    else ([], c :: s)

/-- `-?`. -/
def scanMinus : PyStr → PyStr × PyStr
  | [] => ([], [])
  | c :: s => if c.val = 0x2D then ([c], s) else ([], c :: s)

/-- The parts of a number: sign and whole part, fraction and exponent, and what follows. -/
def scanParts (s : PyStr) : Option (PyStr × PyStr × PyStr) :=
  match scanWhole (scanMinus s).2 with
  | none => none
  | some (whole, later) =>
    some ((scanMinus s).1 ++ whole, (scanFraction later).1 ++ (scanExponent (scanFraction later).2).1,
      (scanExponent (scanFraction later).2).2)

def digitsValue (s : PyStr) : Nat := s.foldl (fun n c => n * 10 + (c.val - 0x30)) 0

/-- `int(s)`, of a sign and digits. -/
def intValue (s : PyStr) : Int :=
  match s with
  | [] => 0
  | c :: t => if c.val = 0x2D then -(digitsValue t : Int) else digitsValue (c :: t)

section
variable (py : Interpreter) {ε : Type}

/-- A number, or a plain `ValueError`: an integer with too many digits. -/
def scanNumber (s : PyStr) : Scan ε Value :=
  match scanParts s with
  | none => .error .malformed
  | some (whole, part, later) =>
    if part ≠ [] then .ok (.float (py.float (whole ++ part)), later)
    else if (whole.filter isDigitChar).length > py.maxDigits then .error .digits
    else .ok (.int (intValue whole), later)

/-! ## Values -/

/-- The constants, `NaN` and the infinities included. -/
def constants : List (PyStr × Value) :=
  [(PyStr.ofString "null", .null), (PyStr.ofString "true", .bool true), (PyStr.ofString "false", .bool false),
   (PyStr.ofString "NaN", .float (PyStr.ofString "nan")),
   (PyStr.ofString "Infinity", .float (PyStr.ofString "inf")),
   (PyStr.ofString "-Infinity", .float (PyStr.ofString "-inf"))]

/-- The items of a list up to its closing bracket. -/
def scanItems (scan : PyStr → Scan ε Value) : Nat → PyStr → Scan ε (List Value)
  | 0, _ => .error .malformed
  | turns + 1, s =>
    match scan s with
    | .error e => .error e
    | .ok (v, later) =>
      match skipBlank later with
      | [] => .error .malformed
      | c :: later =>
        if c.val = 0x5D then .ok ([v], later)
        else if c.val = 0x2C then
          match scanItems scan turns (skipBlank later) with
          | .error e => .error e
          | .ok (vs, later) => .ok (v :: vs, later)
        else .error .malformed

/-- The name of a field and the colon after it. -/
def scanKey : PyStr → Scan ε PyStr
  | [] => .error .malformed
  | c :: s =>
    if c.val ≠ 0x22 then .error .malformed
    else match scanString (s.length + 1) s with
      | none => .error .malformed
      | some (key, later) =>
        match skipBlank later with
        | [] => .error .malformed
        | c :: later => if c.val = 0x3A then .ok (key, skipBlank later) else .error .malformed

/-- The fields of an object up to its closing brace. -/
def scanPairs (scan : PyStr → Scan ε Value) : Nat → PyStr → Scan ε (List (PyStr × Value))
  | 0, _ => .error .malformed
  | turns + 1, s =>
    match scanKey s with
    | .error e => .error e
    | .ok (key, later) =>
      match scan later with
      | .error e => .error e
      | .ok (v, later) =>
        match skipBlank later with
        | [] => .error .malformed
        | c :: later =>
          if c.val = 0x7D then .ok ([(key, v)], later)
          else if c.val = 0x2C then
            match scanPairs scan turns (skipBlank later) with
            | .error e => .error e
            | .ok (pairs, later) => .ok ((key, v) :: pairs, later)
          else .error .malformed

/-- A list, after its opening bracket. -/
def scanList (scan : PyStr → Scan ε Value) (s : PyStr) : Scan ε Value :=
  match skipBlank s with
  | [] => .error .malformed
  | c :: later =>
    if c.val = 0x5D then .ok (.list [], later)
    else match scanItems scan (later.length + 1) (c :: later) with
      | .error e => .error e
      | .ok (items, later) => .ok (.list items, later)

variable (hook : List (PyStr × Value) → Except ε Value)

/-- What the hook makes of the pairs. -/
def applyHook (pairs : List (PyStr × Value)) (later : PyStr) : Scan ε Value :=
  match hook pairs with
  | .error e => .error (.hook e)
  | .ok v => .ok (v, later)

/-- An object, after its opening brace. -/
def scanObject (scan : PyStr → Scan ε Value) (s : PyStr) : Scan ε Value :=
  match skipBlank s with
  | [] => .error .malformed
  | c :: later =>
    if c.val = 0x7D then applyHook hook [] later
    else match scanPairs scan (later.length + 1) (c :: later) with
      | .error e => .error e
      | .ok (pairs, later) => applyHook hook pairs later

/-- One value, given how values inside it are scanned: not at all where that would be too deep. -/
def scanWith (nested : Option (PyStr → Scan ε Value)) (s : PyStr) : Scan ε Value :=
  match s with
  | [] => .error .malformed
  | c :: t =>
    if c.val = 0x22 then
      match scanString (t.length + 1) t with
      | none => .error .malformed
      | some (text, later) => .ok (.str text, later)
    else if c.val = 0x7B then nested.elim (.error .recursion) (fun scan => scanObject hook scan t)
    else if c.val = 0x5B then nested.elim (.error .recursion) (fun scan => scanList scan t)
    else match constants.find? (fun e => e.1.isPrefixOf s) with
      | some (word, v) => .ok (v, s.drop word.length)
      | none => scanNumber py s

/-- `scan_once`, inside of fewer than so many lists and objects. -/
def scanOnce : Nat → PyStr → Scan ε Value
  | 0 => scanWith py hook none
  | depth + 1 => scanWith py hook (some (scanOnce depth))

/-- `json.loads(text, object_pairs_hook=hook)`. -/
def loads (text : PyStr) : Except (LoadError ε) Value :=
  if text.head?.any (·.val == 0xFEFF) then .error .malformed
  else match scanOnce py hook py.maxDepth (skipBlank text) with
    | .error e => .error e
    | .ok (v, later) => if skipBlank later = [] then .ok v else .error .malformed

end

/-! ## Hooks -/

/-- The pairs as they stand in the text. -/
def keepPairs (pairs : List (PyStr × Value)) : Except Empty Value := .ok (.dict pairs)

/-- The loop of a hook that raises `e` for a field it has seen before. -/
def collectFields {ε : Type} (e : ε) (result : Object) : List (PyStr × Value) → Except ε Object
  | [] => .ok result
  | (key, v) :: pairs => if key ∈ result.keys then .error e else collectFields e (result ++ [(key, v)]) pairs

/-- `_reject_duplicate_fields`, raising `e`. -/
def rejectDuplicateFields {ε : Type} (e : ε) (pairs : List (PyStr × Value)) : Except ε Value :=
  (collectFields e [] pairs).map .dict

theorem collectFields_eq {ε : Type} (e : ε) {result : Object} (hresult : result.keys.Nodup)
    (pairs : List (PyStr × Value)) : collectFields e result pairs =
      if (Object.keys (result ++ pairs)).Nodup then .ok (result ++ pairs) else .error e := by
  induction pairs generalizing result with
  | nil => rw [List.append_nil, if_pos hresult, collectFields]
  | cons p pairs ih =>
    obtain ⟨key, v⟩ := p
    simp only [collectFields]
    split
    · rename_i hseen
      rw [if_neg]
      intro hnodup
      rw [Object.keys, List.map_append] at hnodup
      exact (List.nodup_append.mp hnodup).2.2 key hseen key (by simp) rfl
    · rename_i hnew
      have hkeys : Object.keys (result ++ [(key, v)]) = Object.keys result ++ [key] := by simp [Object.keys]
      have hlater : (Object.keys (result ++ [(key, v)])).Nodup := by
        rw [hkeys]
        exact List.nodup_append.mpr ⟨hresult, List.nodup_singleton key, fun a ha b hb hab =>
          hnew (by rw [List.mem_singleton.mp hb] at hab; exact hab ▸ ha)⟩
      rw [ih hlater, List.append_assoc]
      rfl

theorem rejectDuplicateFields_eq {ε : Type} (e : ε) (pairs : List (PyStr × Value)) :
    rejectDuplicateFields e pairs = if (Object.keys pairs).Nodup then .ok (.dict pairs) else .error e := by
  rw [rejectDuplicateFields, collectFields_eq e (by simp [Object.keys]), List.nil_append]
  split
  · rfl
  · rfl

/-! ## What a strict hook accepts -/

/-- No object names a field twice, at any level. -/
inductive Distinct : Value → Prop
  | null : Distinct .null
  | bool (b : Bool) : Distinct (.bool b)
  | int (n : Int) : Distinct (.int n)
  | float (r : PyStr) : Distinct (.float r)
  | str (s : PyStr) : Distinct (.str s)
  | list (items : List Value) (inside : ∀ v ∈ items, Distinct v) : Distinct (.list items)
  | dict (items : List (PyStr × Value)) (keys : (Object.keys items).Nodup) (inside : ∀ e ∈ items, Distinct e.2) :
      Distinct (.dict items)

section
variable (py : Interpreter) {ε ε' : Type} (e : ε)

/-- A value that is scanned strictly is the value of the text, and its fields are distinct. -/
def Strict (scan : PyStr → Scan ε Value) (plain : PyStr → Scan ε' Value) : Prop :=
  ∀ s v later, scan s = .ok (v, later) → plain s = .ok (v, later) ∧ Distinct v

variable {py e} {scan : PyStr → Scan ε Value} {plain : PyStr → Scan ε' Value}

theorem scanItems_strict (h : Strict scan plain) {turns : Nat} {s later : PyStr} {vs : List Value}
    (hs : scanItems scan turns s = .ok (vs, later)) :
    scanItems plain turns s = .ok (vs, later) ∧ ∀ v ∈ vs, Distinct v := by
  induction turns generalizing s vs later with
  | zero => cases hs
  | succ turns ih =>
    rw [scanItems] at hs ⊢
    cases hscan : scan s with
    | error e =>
      rw [hscan] at hs
      cases hs
    | ok r =>
      obtain ⟨v, t⟩ := r
      obtain ⟨hplain, hdistinct⟩ := h s v t hscan
      simp only [hscan, hplain] at hs ⊢
      cases hnext : skipBlank t with
      | nil =>
        simp only [hnext] at hs
        cases hs
      | cons c t =>
        simp only [hnext] at hs ⊢
        split at hs
        · rename_i hclose
          obtain ⟨rfl, rfl⟩ := Prod.mk.inj (Except.ok.inj hs)
          exact ⟨if_pos hclose, List.forall_mem_singleton.mpr hdistinct⟩
        split at hs
        · rename_i hclose hcomma
          rw [if_neg hclose, if_pos hcomma]
          cases hrest : scanItems scan turns (skipBlank t) with
          | error e =>
            rw [hrest] at hs
            cases hs
          | ok r =>
            obtain ⟨ws, t⟩ := r
            obtain ⟨hplain', hdistinct'⟩ := ih hrest
            simp only [hrest, Except.ok.injEq, Prod.mk.injEq] at hs
            obtain ⟨rfl, rfl⟩ := hs
            rw [hplain']
            exact ⟨rfl, List.forall_mem_cons.mpr ⟨hdistinct, hdistinct'⟩⟩
        · cases hs

theorem scanKey_strict {s later key : PyStr} (hs : scanKey (ε := ε) s = .ok (key, later)) :
    scanKey (ε := ε') s = .ok (key, later) := by
  unfold scanKey at hs ⊢
  cases s with
  | nil => cases hs
  | cons c s =>
    simp only at hs ⊢
    split at hs
    · cases hs
    · rename_i hquote
      rw [if_neg hquote]
      cases hname : scanString (s.length + 1) s with
      | none =>
        simp only [hname] at hs
        cases hs
      | some r =>
        simp only [hname] at hs ⊢
        cases hnext : skipBlank r.2 with
        | nil =>
          simp only [hnext] at hs
          cases hs
        | cons c t =>
          simp only [hnext] at hs ⊢
          split at hs
          · rename_i hcolon
            rw [if_pos hcolon]
            obtain ⟨rfl, rfl⟩ := Prod.mk.inj (Except.ok.inj hs)
            rfl
          · cases hs

theorem scanPairs_strict (h : Strict scan plain) {turns : Nat} {s later : PyStr} {pairs : List (PyStr × Value)}
    (hs : scanPairs scan turns s = .ok (pairs, later)) :
    scanPairs plain turns s = .ok (pairs, later) ∧ ∀ p ∈ pairs, Distinct p.2 := by
  induction turns generalizing s pairs later with
  | zero => cases hs
  | succ turns ih =>
    rw [scanPairs] at hs ⊢
    cases hkey : scanKey (ε := ε) s with
    | error e =>
      rw [hkey] at hs
      cases hs
    | ok r =>
      obtain ⟨key, t⟩ := r
      rw [scanKey_strict hkey]
      simp only [hkey] at hs ⊢
      cases hscan : scan t with
      | error e =>
        rw [hscan] at hs
        cases hs
      | ok r =>
        obtain ⟨v, t⟩ := r
        obtain ⟨hplain, hdistinct⟩ := h _ v t hscan
        simp only [hscan, hplain] at hs ⊢
        cases hnext : skipBlank t with
        | nil =>
          simp only [hnext] at hs
          cases hs
        | cons c t =>
          simp only [hnext] at hs ⊢
          split at hs
          · rename_i hclose
            obtain ⟨rfl, rfl⟩ := Prod.mk.inj (Except.ok.inj hs)
            exact ⟨if_pos hclose, List.forall_mem_singleton.mpr hdistinct⟩
          split at hs
          · rename_i hclose hcomma
            rw [if_neg hclose, if_pos hcomma]
            cases hrest : scanPairs scan turns (skipBlank t) with
            | error e =>
              rw [hrest] at hs
              cases hs
            | ok r =>
              obtain ⟨ws, t⟩ := r
              obtain ⟨hplain', hdistinct'⟩ := ih hrest
              simp only [hrest, Except.ok.injEq, Prod.mk.injEq] at hs
              obtain ⟨rfl, rfl⟩ := hs
              rw [hplain']
              exact ⟨rfl, List.forall_mem_cons.mpr ⟨hdistinct, hdistinct'⟩⟩
          · cases hs

end

section
variable (py : Interpreter) {ε : Type} (e : ε)

theorem scanList_strict {scan : PyStr → Scan ε Value} {plain : PyStr → Scan Empty Value} (h : Strict scan plain) :
    Strict (scanList scan) (scanList plain) := by
  intro s v later hs
  unfold scanList at hs ⊢
  cases hnext : skipBlank s with
  | nil =>
    simp only [hnext] at hs
    cases hs
  | cons c t =>
    simp only [hnext] at hs ⊢
    split at hs
    · rename_i hclose
      obtain ⟨rfl, rfl⟩ := Prod.mk.inj (Except.ok.inj hs)
      exact ⟨if_pos hclose, .list [] nofun⟩
    · rename_i hclose
      rw [if_neg hclose]
      cases hitems : scanItems scan (t.length + 1) (c :: t) with
      | error e =>
        rw [hitems] at hs
        cases hs
      | ok r =>
        obtain ⟨vs, t⟩ := r
        obtain ⟨hplain, hdistinct⟩ := scanItems_strict h hitems
        simp only [hitems, Except.ok.injEq, Prod.mk.injEq] at hs
        obtain ⟨rfl, rfl⟩ := hs
        rw [hplain]
        exact ⟨rfl, .list vs hdistinct⟩

theorem applyHook_strict {pairs : List (PyStr × Value)} {s later : PyStr} {v : Value}
    (hs : applyHook (rejectDuplicateFields e) pairs s = .ok (v, later)) (hpairs : ∀ p ∈ pairs, Distinct p.2) :
    applyHook keepPairs pairs s = .ok (v, later) ∧ Distinct v := by
  unfold applyHook at hs
  rw [rejectDuplicateFields_eq] at hs
  split at hs
  · cases hs
  · rename_i hhook
    split at hhook
    · rename_i hkeys
      obtain rfl := Except.ok.inj hhook
      obtain ⟨rfl, rfl⟩ := Prod.mk.inj (Except.ok.inj hs)
      exact ⟨rfl, .dict pairs hkeys hpairs⟩
    · cases hhook

theorem scanObject_strict {scan : PyStr → Scan ε Value} {plain : PyStr → Scan Empty Value} (h : Strict scan plain) :
    Strict (scanObject (rejectDuplicateFields e) scan) (scanObject keepPairs plain) := by
  intro s v later hs
  unfold scanObject at hs ⊢
  cases hnext : skipBlank s with
  | nil =>
    simp only [hnext] at hs
    cases hs
  | cons c t =>
    simp only [hnext] at hs ⊢
    split at hs
    · rename_i hclose
      rw [if_pos hclose]
      exact applyHook_strict e hs nofun
    · rename_i hclose
      rw [if_neg hclose]
      cases hpairs : scanPairs scan (t.length + 1) (c :: t) with
      | error e =>
        rw [hpairs] at hs
        cases hs
      | ok r =>
        obtain ⟨pairs, t⟩ := r
        obtain ⟨hplain, hdistinct⟩ := scanPairs_strict h hpairs
        simp only [hpairs] at hs
        rw [hplain]
        exact applyHook_strict e hs hdistinct

theorem scanNumber_strict {s later : PyStr} {v : Value} (hs : scanNumber (ε := ε) py s = .ok (v, later)) :
    scanNumber (ε := Empty) py s = .ok (v, later) ∧ Distinct v := by
  unfold scanNumber at hs ⊢
  cases hparts : scanParts s with
  | none =>
    simp only [hparts] at hs
    cases hs
  | some r =>
    obtain ⟨whole, part, t⟩ := r
    simp only [hparts] at hs ⊢
    split at hs
    · rename_i hpart
      obtain ⟨rfl, rfl⟩ := Prod.mk.inj (Except.ok.inj hs)
      exact ⟨if_pos hpart, .float _⟩
    split at hs
    · cases hs
    · rename_i hpart hshort
      obtain ⟨rfl, rfl⟩ := Prod.mk.inj (Except.ok.inj hs)
      exact ⟨by rw [if_neg hpart, if_neg hshort], .int _⟩

theorem scanWith_strict {nested : Option (PyStr → Scan ε Value)} {plain : Option (PyStr → Scan Empty Value)}
    (hnone : nested = none → plain = none) (h : ∀ scan ∈ nested, ∃ p, plain = some p ∧ Strict scan p) :
    Strict (scanWith py (rejectDuplicateFields e) nested) (scanWith py keepPairs plain) := by
  intro s v later hs
  have inner {f : (PyStr → Scan ε Value) → PyStr → Scan ε Value} {g : (PyStr → Scan Empty Value) → PyStr → Scan Empty Value}
      (hfg : ∀ scan p, Strict scan p → Strict (f scan) (g p)) {t : PyStr}
      (ht : nested.elim (.error .recursion) (fun scan => f scan t) = .ok (v, later)) :
      plain.elim (.error .recursion) (fun scan => g scan t) = .ok (v, later) ∧ Distinct v := by
    cases nested with
    | none => cases ht
    | some scan =>
      obtain ⟨p, rfl, hstrict⟩ := h scan rfl
      exact hfg scan p hstrict t v later ht
  cases s with
  | nil => cases hs
  | cons c t =>
    simp only [scanWith] at hs ⊢
    split at hs
    · rename_i hquote
      rw [if_pos hquote]
      cases htext : scanString (t.length + 1) t with
      | none =>
        simp only [htext] at hs
        cases hs
      | some r =>
        simp only [htext] at hs ⊢
        obtain ⟨rfl, rfl⟩ := Prod.mk.inj (Except.ok.inj hs)
        exact ⟨rfl, .str _⟩
    split at hs
    · rename_i hquote hbrace
      rw [if_neg hquote, if_pos hbrace]
      exact inner (fun scan p hstrict => scanObject_strict e hstrict) hs
    split at hs
    · rename_i hquote hbrace hbracket
      rw [if_neg hquote, if_neg hbrace, if_pos hbracket]
      exact inner (fun scan p hstrict => scanList_strict hstrict) hs
    · rename_i hquote hbrace hbracket
      rw [if_neg hquote, if_neg hbrace, if_neg hbracket]
      cases hword : constants.find? (fun e => e.1.isPrefixOf (c :: t)) with
      | none =>
        simp only [hword] at hs
        exact scanNumber_strict py hs
      | some w =>
        simp only [hword] at hs ⊢
        obtain ⟨rfl, rfl⟩ := Prod.mk.inj (Except.ok.inj hs)
        refine ⟨rfl, ?_⟩
        have hmem := List.mem_of_find?_eq_some hword
        simp only [constants, List.mem_cons, List.not_mem_nil, or_false] at hmem
        rcases hmem with rfl | rfl | rfl | rfl | rfl | rfl
        · exact .null
        · exact .bool _
        · exact .bool _
        · exact .float _
        · exact .float _
        · exact .float _

theorem scanOnce_strict (depth : Nat) :
    Strict (scanOnce py (rejectDuplicateFields e) depth) (scanOnce py keepPairs depth) := by
  induction depth with
  | zero => exact scanWith_strict py e (fun _ => rfl) nofun
  | succ depth ih =>
    show Strict (scanWith py (rejectDuplicateFields e) (some (scanOnce py (rejectDuplicateFields e) depth)))
      (scanWith py keepPairs (some (scanOnce py keepPairs depth)))
    refine scanWith_strict py e nofun ?_
    rintro scan ⟨⟩
    exact ⟨_, rfl, ih⟩

/-- What is loaded strictly is what stands in the text, and no object of the text names a field twice. -/
theorem loads_strict {text : PyStr} {v : Value} (h : loads py (rejectDuplicateFields e) text = .ok v) :
    loads py keepPairs text = .ok v ∧ Distinct v := by
  unfold loads at h ⊢
  split at h
  · cases h
  · rename_i hmark
    rw [if_neg hmark]
    cases hscan : scanOnce py (rejectDuplicateFields e) py.maxDepth (skipBlank text) with
    | error e =>
      simp only [hscan] at h
      cases h
    | ok r =>
      obtain ⟨w, later⟩ := r
      obtain ⟨hplain, hdistinct⟩ := scanOnce_strict py e _ _ _ _ hscan
      simp only [hscan, hplain] at h ⊢
      split at h
      · rename_i hend
        obtain rfl := Except.ok.inj h
        exact ⟨if_pos hend, hdistinct⟩
      · cases h

end

end JsonText
end Pipa.Lib
