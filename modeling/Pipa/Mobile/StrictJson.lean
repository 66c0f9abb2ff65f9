import Pipa.Firmware.JsonPolicyGrammar
import Pipa.Lib.Json

/- The scan of the phone for repeated names (`PipaStrictJSONParser`): a walk over the bytes of a
   document that `JSONSerialization` has parsed, with the names of every object that is open. It
   takes a string for a name where a colon follows.

   On the texts of RFC 8259 it is exact up to what Swift takes for one `String`: two
   spellings of a name that are canonically equivalent. The scanner of the firmware
   (`pipa_json_policy.cpp`) compares the bytes, so what the phone accepts it accepts too. -/
namespace Pipa.Mobile
open Pipa.Lib Pipa.Lib.JsonGrammar

/-- `JSONSerialization.jsonObject(with:)` of Foundation, and `String` equality. -/
structure Foundation where
  /-- It returns this `[String: Any]`. -/
  dictionary : Bytes → Option Object
  /-- With `.fragmentsAllowed` it returns a `String`. -/
  fragment : Bytes → Option PyStr
  /-- One spelling for the strings that are equal. -/
  canonical : PyStr → PyStr

/-- A string of RFC 8259 is read as the characters it stands for. -/
def Foundation.ReadsStrings (f : Foundation) : Prop := ∀ s : Pieces, f.fragment (quoted s) = some s.chars

namespace PipaStrictJSONParser

def skipWhitespace (bytes : Bytes) : Bytes := bytes.dropWhile isSpaceByte

/-- The loop of `parseString`: the token behind its opening quote, and what follows it. -/
def closingQuote : Bool → Bytes → Option (Bytes × Bytes)
  | _, [] => none
  | escaped, b :: rest =>
    if b = 0x22 ∧ escaped = false then some ([b], rest)
    else (closingQuote (b = 0x5C ∧ escaped = false) rest).map (fun r => (b :: r.1, r.2))

variable (f : Foundation)

/-- `parseString`, behind the opening quote. -/
def parseString (bytes : Bytes) : Option (PyStr × Bytes) :=
  match closingQuote false bytes with
  | none => none
  | some (token, rest) => (f.fragment (0x22 :: token)).map (fun value => (value, rest))

/-- The loop of `parseRootObject`, in at most so many turns. The objects that are open stand with the innermost
first. -/
def scan : Nat → List (List PyStr) → Bytes → Option Bool
  | 0, _, _ => none
  | turns + 1, objectKeys, bytes =>
    match skipWhitespace bytes with
    | [] => some objectKeys.isEmpty
    | b :: rest =>
      if b = 0x22 then
        match parseString f rest with
        | none => some false
        | some (key, rest) =>
          match skipWhitespace rest with
          | [] => scan turns objectKeys []
          | c :: later =>
            if c = 0x3A then
              match objectKeys with
              | [] => some false
              | keys :: outer =>
                if f.canonical key ∈ keys then some false
                else scan turns ((f.canonical key :: keys) :: outer) later
            else scan turns objectKeys (c :: later)
      else if b = 0x7B then scan turns ([] :: objectKeys) rest
      else if b = 0x7D then
        match objectKeys with
        | [] => some false
        | _ :: outer => scan turns outer rest
      else scan turns objectKeys rest

/-- `parseRootObject`. -/
def parseRootObject (data : Bytes) : Bool :=
  (f.dictionary data).isSome && scan f (data.length + 1) [] data == some true

end PipaStrictJSONParser

/-- `isStrictJSONObject`. -/
def isStrictJSONObject (f : Foundation) (data : Bytes) : Bool := PipaStrictJSONParser.parseRootObject f data

namespace PipaStrictJSONParser

variable {f : Foundation}

theorem skipWhitespace_length (bytes : Bytes) : (skipWhitespace bytes).length ≤ bytes.length :=
  (List.dropWhile_sublist _).length_le

theorem closingQuote_length {escaped : Bool} {bytes token rest : Bytes}
    (h : closingQuote escaped bytes = some (token, rest)) : rest.length < bytes.length := by
  induction bytes generalizing escaped token with
  | nil => cases h
  | cons b bytes ih =>
    rw [closingQuote] at h
    split at h
    · obtain ⟨-, rfl⟩ := Prod.mk.inj (Option.some.inj h)
      exact Nat.lt_succ_self _
    · obtain ⟨r, hr, heq⟩ := Option.map_eq_some_iff.mp h
      obtain ⟨-, rfl⟩ := Prod.mk.inj heq
      exact Nat.lt_succ_of_lt (ih hr)

theorem parseString_length {bytes rest : Bytes} {value : PyStr} (h : parseString f bytes = some (value, rest)) :
    rest.length < bytes.length := by
  unfold parseString at h
  split at h
  · cases h
  · rename_i token later htoken
    obtain ⟨v, -, heq⟩ := Option.map_eq_some_iff.mp h
    obtain ⟨-, rfl⟩ := Prod.mk.inj heq
    exact closingQuote_length htoken

/-- With a turn for each byte and one more, the loop ends and the number of turns does not matter. -/
theorem scan_turns {n m : Nat} {objectKeys : List (List PyStr)} {bytes : Bytes} (hn : bytes.length < n)
    (hm : bytes.length < m) :
    scan f n objectKeys bytes = scan f m objectKeys bytes ∧ (scan f n objectKeys bytes).isSome = true := by
  induction n generalizing m objectKeys bytes with
  | zero => omega
  | succ n ih =>
    obtain ⟨m, rfl⟩ : ∃ k, m = k + 1 := ⟨m - 1, by omega⟩
    have hskip := skipWhitespace_length bytes
    rw [scan, scan]
    cases hbytes : skipWhitespace bytes with
    | nil => exact ⟨rfl, rfl⟩
    | cons b rest =>
      rw [hbytes, List.length_cons] at hskip
      have later (keys : List (List PyStr)) {left : Bytes} (hleft : left.length ≤ rest.length) :
          scan f n keys left = scan f m keys left ∧ (scan f n keys left).isSome = true := ih (by omega) (by omega)
      simp only
      split
      · cases hstring : parseString f rest with
        | none => exact ⟨rfl, rfl⟩
        | some r =>
          obtain ⟨key, left⟩ := r
          have hlength := parseString_length hstring
          have hspace := skipWhitespace_length left
          simp only
          cases hleft : skipWhitespace left with
          | nil => exact later objectKeys (Nat.zero_le _)
          | cons c left =>
            rw [hleft, List.length_cons] at hspace
            simp only
            split
            · cases objectKeys with
              | nil => exact ⟨rfl, rfl⟩
              | cons keys outer =>
                simp only
                split
                · exact ⟨rfl, rfl⟩
                · exact later _ (by omega)
            · exact later _ (by rw [List.length_cons]; omega)
      split
      · exact later _ (Nat.le_refl _)
      split
      · cases objectKeys with
        | nil => exact ⟨rfl, rfl⟩
        | cons keys outer => exact later _ (Nat.le_refl _)
      · exact later _ (Nat.le_refl _)

/-! ## One token after the other -/

/-- The scan with enough turns. -/
def scanned (f : Foundation) (objectKeys : List (List PyStr)) (bytes : Bytes) : Option Bool :=
  scan f (bytes.length + 1) objectKeys bytes

theorem scan_eq {turns : Nat} {objectKeys : List (List PyStr)} {bytes : Bytes} (h : bytes.length < turns) :
    scan f turns objectKeys bytes = scanned f objectKeys bytes := (scan_turns h (Nat.lt_succ_self _)).1

theorem scanned_nil (objectKeys : List (List PyStr)) : scanned f objectKeys [] = some objectKeys.isEmpty := rfl

/-- A byte that is no quote and no brace changes nothing. -/
theorem scanned_other {b : UInt8} (hquote : b ≠ 0x22) (hopen : b ≠ 0x7B) (hclose : b ≠ 0x7D)
    (objectKeys : List (List PyStr)) (rest : Bytes) :
    scanned f objectKeys (b :: rest) = scanned f objectKeys rest := by
  cases hb : isSpaceByte b with
  | true =>
    have hskip : skipWhitespace (b :: rest) = skipWhitespace rest := List.dropWhile_cons_of_pos hb
    have hmore : rest.length < (b :: rest).length + 1 := Nat.lt_succ_of_lt (Nat.lt_succ_self _)
    rw [← scan_eq hmore, scanned, scan, scan, hskip]
  | false =>
    have hskip : skipWhitespace (b :: rest) = b :: rest :=
      List.dropWhile_cons_of_neg (by rw [hb]; exact Bool.false_ne_true)
    rw [scanned, scan, hskip]
    simp only [if_neg hquote, if_neg hopen, if_neg hclose]
    exact scan_eq (Nat.lt_succ_self _)

theorem scanned_append {w : Bytes} (hw : ∀ b ∈ w, b ≠ 0x22 ∧ b ≠ 0x7B ∧ b ≠ 0x7D) (objectKeys : List (List PyStr))
    (rest : Bytes) : scanned f objectKeys (w ++ rest) = scanned f objectKeys rest := by
  induction w with
  | nil => rfl
  | cons b w ih =>
    obtain ⟨⟨hquote, hopen, hclose⟩, hw⟩ := List.forall_mem_cons.mp hw
    exact (scanned_other hquote hopen hclose objectKeys _).trans (ih hw)

theorem scanned_space (w : Spaces) (objectKeys : List (List PyStr)) (rest : Bytes) :
    scanned f objectKeys (w.val ++ rest) = scanned f objectKeys rest := by
  apply scanned_append
  intro b hb
  have hspace := w.property b hb
  refine ⟨?_, ?_, ?_⟩
  · rintro rfl
    cases hspace
  · rintro rfl
    cases hspace
  · rintro rfl
    cases hspace

theorem scanned_open (objectKeys : List (List PyStr)) (rest : Bytes) :
    scanned f objectKeys (0x7B :: rest) = scanned f ([] :: objectKeys) rest := by
  have hskip : skipWhitespace (0x7B :: rest) = 0x7B :: rest := rfl
  rw [scanned, scan, hskip]
  exact scan_eq (Nat.lt_succ_self _)

theorem scanned_close (keys : List PyStr) (outer : List (List PyStr)) (rest : Bytes) :
    scanned f (keys :: outer) (0x7D :: rest) = scanned f outer rest := by
  have hskip : skipWhitespace (0x7D :: rest) = 0x7D :: rest := rfl
  rw [scanned, scan, hskip]
  exact scan_eq (Nat.lt_succ_self _)

/-! ## Strings -/

/-- The bytes of a string read from the inside: a token of it may not close it. -/
theorem closingQuote_plain {w : Bytes} (hw : ∀ b ∈ w, b ≠ 0x22 ∧ b ≠ 0x5C) (rest : Bytes) :
    closingQuote false (w ++ rest) = (closingQuote false rest).map (fun r => (w ++ r.1, r.2)) := by
  induction w with
  | nil => simp
  | cons b w ih =>
    obtain ⟨⟨hquote, hback⟩, hw⟩ := List.forall_mem_cons.mp hw
    rw [List.cons_append, closingQuote, if_neg (fun h => hquote h.1)]
    simp only [hback, false_and, decide_false]
    rw [ih hw, Option.map_map]
    rfl

theorem closingQuote_escape (b : UInt8) (rest : Bytes) :
    closingQuote false (0x5C :: b :: rest) = (closingQuote false rest).map (fun r => (0x5C :: b :: r.1, r.2)) := by
  rw [closingQuote, if_neg (fun h => absurd h.1 (by decide)), closingQuote,
    if_neg (fun h => by simp at h)]
  simp [Option.map_map, Function.comp_def]

theorem hex4_plain (h : Hex4) : ∀ b ∈ h.text, b ≠ 0x22 ∧ b ≠ 0x5C := by
  have hdigit (i : Fin 4) : h.spelt i ≠ 0x22 ∧ h.spelt i ≠ 0x5C := by
    have hreads := h.reads i
    refine ⟨?_, ?_⟩
    · intro heq
      rw [heq] at hreads
      cases hreads
    · intro heq
      rw [heq] at hreads
      cases hreads
  simp only [Hex4.text, List.forall_mem_cons]
  exact ⟨hdigit 0, hdigit 1, hdigit 2, hdigit 3, List.forall_mem_nil _⟩

theorem closingQuote_piece (p : Piece) (rest : Bytes) :
    closingQuote false (p.text ++ rest) = (closingQuote false rest).map (fun r => (p.text ++ r.1, r.2)) := by
  cases p with
  | plain c scalar printable unescaped =>
    apply closingQuote_plain
    intro b hb
    have hcopied := Firmware.JsonPolicy.utf8_copied printable unescaped b hb
    simp only [Firmware.JsonPolicy.isCopied, Bool.and_eq_true, bne_iff_ne] at hcopied
    exact ⟨hcopied.1.2, hcopied.2⟩
  | short b c escape => exact closingQuote_escape b rest
  | unit h scalar =>
    refine (closingQuote_escape 0x75 (h.text ++ rest)).trans ?_
    rw [closingQuote_plain (hex4_plain h), Option.map_map]
    rfl
  | pair high low isHigh isLow =>
    have htext : Piece.text (.pair high low isHigh isLow) ++ rest =
        0x5C :: 0x75 :: (high.text ++ (0x5C :: 0x75 :: (low.text ++ rest))) := by
      simp [Piece.text]
    rw [htext, closingQuote_escape, closingQuote_plain (hex4_plain high), closingQuote_escape,
      closingQuote_plain (hex4_plain low), Option.map_map, Option.map_map, Option.map_map]
    simp only [Piece.text, Function.comp_def, List.cons_append, List.append_assoc]

theorem closingQuote_pieces (s : Pieces) (rest : Bytes) :
    closingQuote false (s.text ++ 0x22 :: rest) = some (s.text ++ [0x22], rest) := by
  induction s with
  | nil => rfl
  | cons p s ih =>
    have htext : Pieces.text (p :: s) = p.text ++ Pieces.text s := rfl
    rw [htext, List.append_assoc, closingQuote_piece, ih, Option.map_some, List.append_assoc]

theorem parseString_quoted (hf : f.ReadsStrings) (s : Pieces) (rest : Bytes) :
    parseString f (s.text ++ 0x22 :: rest) = some (s.chars, rest) := by
  have hstring : f.fragment (0x22 :: (s.text ++ [0x22])) = some s.chars := hf s
  rw [parseString, closingQuote_pieces]
  simp only [hstring, Option.map_some]

/-- What follows is not a colon, with white space before it or without. -/
def NoColon (rest : Bytes) : Prop := ∀ b ∈ (skipWhitespace rest).head?, b ≠ 0x3A

theorem noColon_space (w : Spaces) {rest : Bytes} (h : NoColon rest) : NoColon (w.val ++ rest) := by
  have hskip : skipWhitespace (w.val ++ rest) = skipWhitespace rest := List.dropWhile_append_of_pos w.property
  rw [NoColon, hskip]
  exact h

theorem noColon_cons {b : UInt8} (hspace : isSpaceByte b = false) (hcolon : b ≠ 0x3A) (rest : Bytes) :
    NoColon (b :: rest) := by
  have hskip : skipWhitespace (b :: rest) = b :: rest :=
    List.dropWhile_cons_of_neg (by rw [hspace]; exact Bool.false_ne_true)
  rw [NoColon, hskip]
  intro c hc
  obtain rfl : b = c := Option.some.inj hc
  exact hcolon

theorem noColon_nil : NoColon [] := by
  intro b hb
  cases hb

/-- A string that is no name is passed over. -/
theorem scanned_string (hf : f.ReadsStrings) (s : Pieces) {rest : Bytes} (hrest : NoColon rest)
    (objectKeys : List (List PyStr)) : scanned f objectKeys (quoted s ++ rest) = scanned f objectKeys rest := by
  have htext : quoted s ++ rest = 0x22 :: (s.text ++ 0x22 :: rest) := by simp [quoted]
  have hskip : skipWhitespace (0x22 :: (s.text ++ 0x22 :: rest)) = 0x22 :: (s.text ++ 0x22 :: rest) := rfl
  have hspace := skipWhitespace_length rest
  have hagain : scanned f objectKeys (skipWhitespace rest) = scanned f objectKeys rest := by
    have hsplit : rest = rest.takeWhile isSpaceByte ++ skipWhitespace rest := List.takeWhile_append_dropWhile.symm
    conv_rhs => rw [hsplit]
    exact (scanned_space ⟨_, fun b hb => List.mem_takeWhile_imp hb⟩ objectKeys _).symm
  rw [htext, scanned, scan, hskip]
  simp only [if_true, parseString_quoted hf]
  cases hleft : skipWhitespace rest with
  | nil =>
    rw [← hagain, hleft]
    exact scan_eq (by simp)
  | cons c later =>
    have hcolon : c ≠ 0x3A := hrest c (by rw [hleft]; rfl)
    simp only [if_neg hcolon]
    rw [← hagain, hleft]
    apply scan_eq
    rw [hleft, List.length_cons] at hspace
    simp only [List.length_cons, List.length_append]
    omega

/-- A name is compared with the names of its object so far. -/
theorem scanned_name (hf : f.ReadsStrings) (name : Pieces) (afterName : Spaces) (keys : List PyStr)
    (outer : List (List PyStr)) (rest : Bytes) :
    scanned f (keys :: outer) (quoted name ++ (afterName.val ++ 0x3A :: rest)) =
      if f.canonical name.chars ∈ keys then some false
      else scanned f ((f.canonical name.chars :: keys) :: outer) rest := by
  have htext : quoted name ++ (afterName.val ++ 0x3A :: rest) =
      0x22 :: (name.text ++ 0x22 :: (afterName.val ++ 0x3A :: rest)) := by simp [quoted]
  have hskip : skipWhitespace (0x22 :: (name.text ++ 0x22 :: (afterName.val ++ 0x3A :: rest))) =
      0x22 :: (name.text ++ 0x22 :: (afterName.val ++ 0x3A :: rest)) := rfl
  have hcolon : skipWhitespace (afterName.val ++ 0x3A :: rest) = 0x3A :: rest :=
    List.dropWhile_append_of_pos afterName.property
  rw [htext, scanned, scan, hskip]
  simp only [if_true, parseString_quoted hf, hcolon]
  split
  · rfl
  · apply scan_eq
    simp only [List.length_append, List.length_cons]
    omega

/-! ## Values -/

/-- The scan stops with `false` or goes on with `rest`, by whether `good` holds. -/
structure Judged (f : Foundation) (objectKeys : List (List PyStr)) (bytes : Bytes) (good : Prop)
    (objectKeys' : List (List PyStr)) (rest : Bytes) : Prop where
  passes : good → scanned f objectKeys bytes = scanned f objectKeys' rest
  stops : ¬ good → scanned f objectKeys bytes = some false

section
variable {keys₁ keys₂ keys₃ : List (List PyStr)} {bytes mid rest : Bytes} {good good' : Prop}

theorem judged_true (h : scanned f keys₁ bytes = scanned f keys₂ rest) : Judged f keys₁ bytes True keys₂ rest :=
  ⟨fun _ => h, fun h => absurd trivial h⟩

theorem Judged.and (h : Judged f keys₁ bytes good keys₂ mid) (h' : Judged f keys₂ mid good' keys₃ rest) :
    Judged f keys₁ bytes (good ∧ good') keys₃ rest where
  passes hgood := (h.passes hgood.1).trans (h'.passes hgood.2)
  stops hbad := by
    by_cases hgood : good
    · exact (h.passes hgood).trans (h'.stops (fun hgood' => hbad ⟨hgood, hgood'⟩))
    · exact h.stops hgood

theorem Judged.congr (h : Judged f keys₁ bytes good keys₂ rest) (hiff : good ↔ good') :
    Judged f keys₁ bytes good' keys₂ rest :=
  ⟨fun hgood => h.passes (hiff.mpr hgood), fun hbad => h.stops (mt hiff.mp hbad)⟩

/-- Bytes that the scan passes over stand before or behind. -/
theorem Judged.before (h : Judged f keys₂ mid good keys₃ rest)
    (hbytes : scanned f keys₁ bytes = scanned f keys₂ mid) : Judged f keys₁ bytes good keys₃ rest :=
  ⟨fun hgood => hbytes.trans (h.passes hgood), fun hbad => hbytes.trans (h.stops hbad)⟩

theorem Judged.behind (h : Judged f keys₁ bytes good keys₂ mid)
    (hmid : scanned f keys₂ mid = scanned f keys₃ rest) : Judged f keys₁ bytes good keys₃ rest :=
  ⟨fun hgood => (h.passes hgood).trans hmid, h.stops⟩

end

theorem word_plain (w : Word) : ∀ b ∈ w.text, b ≠ 0x22 ∧ b ≠ 0x7B ∧ b ≠ 0x7D := by
  cases w with
  | true => simp [Word.text]
  | false => simp [Word.text]
  | null => simp [Word.text]

theorem digit_plain {b : UInt8} (h : isDigitByte b = true) : b ≠ 0x22 ∧ b ≠ 0x7B ∧ b ≠ 0x7D := by
  refine ⟨?_, ?_, ?_⟩
  · rintro rfl
    cases h
  · rintro rfl
    cases h
  · rintro rfl
    cases h

theorem number_plain (n : Number) : ∀ b ∈ n.text, b ≠ 0x22 ∧ b ≠ 0x7B ∧ b ≠ 0x7D := by
  obtain ⟨minus, int, frac, exp⟩ := n
  have hdigits {d : Bytes} (hd : ∀ b ∈ d, isDigitByte b = true) : ∀ b ∈ d, b ≠ 0x22 ∧ b ≠ 0x7B ∧ b ≠ 0x7D :=
    fun b hb => digit_plain (hd b hb)
  have hminus : ∀ b ∈ (if minus then [0x2D] else [] : Bytes), b ≠ 0x22 ∧ b ≠ 0x7B ∧ b ≠ 0x7D := by
    cases minus with
    | true => simp
    | false => simp
  have hfrac : ∀ b ∈ fracText frac, b ≠ 0x22 ∧ b ≠ 0x7B ∧ b ≠ 0x7D := by
    cases frac with
    | none => exact List.forall_mem_nil _
    | some d => exact List.forall_mem_cons.mpr ⟨by decide, hdigits d.property.2⟩
  have hexp : ∀ b ∈ expText exp, b ≠ 0x22 ∧ b ≠ 0x7B ∧ b ≠ 0x7D := by
    cases exp with
    | none => exact List.forall_mem_nil _
    | some x =>
      obtain ⟨⟨e, he⟩, sign, digits⟩ := x
      refine List.forall_mem_cons.mpr ⟨?_, List.forall_mem_append.mpr ⟨?_, hdigits digits.property.2⟩⟩
      · show e ≠ 0x22 ∧ e ≠ 0x7B ∧ e ≠ 0x7D
        obtain rfl | rfl := he
        · decide
        · decide
      · cases sign with
        | none => exact List.forall_mem_nil _
        | some b =>
          obtain ⟨b, hb⟩ := b
          refine List.forall_mem_singleton.mpr ?_
          show b ≠ 0x22 ∧ b ≠ 0x7B ∧ b ≠ 0x7D
          obtain rfl | rfl := hb
          · decide
          · decide
  simp only [Number.text, List.forall_mem_append]
  exact ⟨hminus, hdigits (Firmware.JsonPolicy.int_digits int).2, hfrac, hexp⟩

mutual

/-- A value is judged by the names in it, at every depth, and leaves the objects around it as they were. -/
theorem scan_tree (hf : f.ReadsStrings) (t : Tree) (objectKeys : List (List PyStr)) {rest : Bytes}
    (hrest : NoColon rest) : Judged f objectKeys (t.text ++ rest) (t.NamesDiffer f.canonical) objectKeys rest := by
  cases t with
  | word w =>
    rw [Tree.NamesDiffer]
    · exact judged_true (scanned_append (word_plain w) objectKeys rest)
    all_goals nofun
  | number n =>
    rw [Tree.NamesDiffer]
    · exact judged_true (scanned_append (number_plain n) objectKeys rest)
    all_goals nofun
  | string s =>
    rw [Tree.NamesDiffer]
    -- no colon comes behind a value, so the scan does not take it for a name
    · exact judged_true (scanned_string hf s hrest objectKeys)
    all_goals nofun
  | emptyArray space =>
    rw [Tree.NamesDiffer]
    · apply judged_true
      rw [Tree.text, List.cons_append, scanned_other (by decide) (by decide) (by decide), List.append_assoc,
        scanned_space, List.singleton_append, scanned_other (by decide) (by decide) (by decide)]
    all_goals nofun
  | array items =>
    rw [Tree.NamesDiffer, Tree.text, List.cons_append, List.append_assoc, List.singleton_append]
    have hitems := scan_items hf items objectKeys (noColon_cons (b := 0x5D) (by decide) (by decide) rest)
    refine (hitems.before (scanned_other (by decide) (by decide) (by decide) _ _)).behind ?_
    exact scanned_other (by decide) (by decide) (by decide) _ _
  | emptyObject space =>
    rw [Tree.NamesDiffer]
    · apply judged_true
      rw [Tree.text, List.cons_append, scanned_open, List.append_assoc, scanned_space, List.singleton_append,
        scanned_close]
    all_goals nofun
  | object members =>
    rw [Tree.NamesDiffer, Tree.text, List.cons_append, List.append_assoc, List.singleton_append]
    have hmembers := scan_members hf members [] objectKeys rest
    refine (hmembers.before (scanned_open _ _)).congr ?_
    simp

theorem scan_items (hf : f.ReadsStrings) (i : Items) (objectKeys : List (List PyStr)) {rest : Bytes}
    (hrest : NoColon rest) : Judged f objectKeys (i.text ++ rest) (i.NamesDiffer f.canonical) objectKeys rest := by
  cases i with
  | one before value after =>
    simp only [Items.text, Items.NamesDiffer, List.append_assoc]
    have hvalue := scan_tree hf value objectKeys (noColon_space after hrest)
    exact (hvalue.before (scanned_space before _ _)).behind (scanned_space after _ _)
  | more before value after others =>
    simp only [Items.text, Items.NamesDiffer, List.append_assoc, List.cons_append]
    have hcomma : NoColon (0x2C :: (others.text ++ rest)) := noColon_cons (by decide) (by decide) _
    have hvalue := scan_tree hf value objectKeys (noColon_space after hcomma)
    refine ((hvalue.before (scanned_space before _ _)).behind (scanned_space after _ _)).and ?_
    exact (scan_items hf others objectKeys hrest).before (scanned_other (by decide) (by decide) (by decide) _ _)

/-- The members of an object up to its closing brace, after those with the names `keys`. -/
theorem scan_members (hf : f.ReadsStrings) (m : Members) (keys : List PyStr) (outer : List (List PyStr))
    (rest : Bytes) :
    Judged f (keys :: outer) (m.text ++ 0x7D :: rest)
      (((m.names.map f.canonical).Nodup ∧ ∀ n ∈ m.names, f.canonical n ∉ keys) ∧ m.NamesDiffer f.canonical)
      outer rest := by
  cases m with
  | one before name afterName beforeValue value after =>
    simp only [Members.text, Members.NamesDiffer, Members.names, List.append_assoc, List.cons_append]
    have hname := (scanned_space before (keys :: outer) _).trans (scanned_name hf name afterName keys outer
      (beforeValue.val ++ (value.text ++ (after.val ++ 0x7D :: rest))))
    -- a name that the object has had stops the scan, whatever follows
    by_cases hkey : f.canonical name.chars ∈ keys
    · rw [if_pos hkey] at hname
      exact ⟨fun hgood => absurd hkey (hgood.1.2 _ List.mem_cons_self), fun _ => hname⟩
    · rw [if_neg hkey] at hname
      have hclose : NoColon (0x7D :: rest) := noColon_cons (by decide) (by decide) rest
      have hvalue := scan_tree hf value ((f.canonical name.chars :: keys) :: outer) (noColon_space after hclose)
      have hlast : scanned f ((f.canonical name.chars :: keys) :: outer) (after.val ++ 0x7D :: rest) =
          scanned f outer rest := (scanned_space after _ _).trans (scanned_close _ outer rest)
      refine ((hvalue.before (hname.trans (scanned_space beforeValue _ _))).behind hlast).congr ?_
      simp [hkey]
  | more before name afterName beforeValue value after others =>
    simp only [Members.text, Members.NamesDiffer, Members.names, List.append_assoc, List.cons_append]
    have hname := (scanned_space before (keys :: outer) _).trans (scanned_name hf name afterName keys outer
      (beforeValue.val ++ (value.text ++ (after.val ++ 0x2C :: (others.text ++ 0x7D :: rest)))))
    by_cases hkey : f.canonical name.chars ∈ keys
    · rw [if_pos hkey] at hname
      exact ⟨fun hgood => absurd hkey (hgood.1.2 _ List.mem_cons_self), fun _ => hname⟩
    · rw [if_neg hkey] at hname
      have hcomma : NoColon (0x2C :: (others.text ++ 0x7D :: rest)) := noColon_cons (by decide) (by decide) _
      have hvalue := scan_tree hf value ((f.canonical name.chars :: keys) :: outer) (noColon_space after hcomma)
      have hnext : scanned f ((f.canonical name.chars :: keys) :: outer)
            (after.val ++ 0x2C :: (others.text ++ 0x7D :: rest)) =
          scanned f ((f.canonical name.chars :: keys) :: outer) (others.text ++ 0x7D :: rest) :=
        (scanned_space after _ _).trans (scanned_other (by decide) (by decide) (by decide) _ _)
      have hothers := scan_members hf others (f.canonical name.chars :: keys) outer rest
      refine (((hvalue.before (hname.trans (scanned_space beforeValue _ _))).behind hnext).and hothers).congr ?_
      -- the name is new, and differs from those that follow
      rw [List.map_cons, List.nodup_cons, List.forall_mem_cons]
      simp only [List.mem_cons, not_or, List.mem_map, not_exists, not_and]
      constructor
      · rintro ⟨hgood, ⟨hnodup, hnew⟩, hlater⟩
        exact ⟨⟨⟨fun n hn heq => (hnew n hn).1 heq, hnodup⟩, hkey, fun n hn => (hnew n hn).2⟩, hgood, hlater⟩
      · rintro ⟨⟨⟨hdiffers, hnodup⟩, -, hnew⟩, hgood, hlater⟩
        exact ⟨hgood, ⟨hnodup, fun n hn => ⟨hdiffers n hn, hnew n hn⟩⟩, hlater⟩

end

theorem parseRootObject_text (hf : f.ReadsStrings) (t : Text) :
    parseRootObject f t.bytes = true ↔ (f.dictionary t.bytes).isSome = true ∧ t.value.NamesDiffer f.canonical := by
  obtain ⟨before, value, after⟩ := t
  have hend : NoColon after.val := by
    have hspace := noColon_space after noColon_nil
    rwa [List.append_nil] at hspace
  have hlast : scanned f [] after.val = some true := by
    have hspace := scanned_space (f := f) after [] []
    rwa [List.append_nil, scanned_nil] at hspace
  have hvalue := (scan_tree hf value [] hend).before (scanned_space before [] (value.text ++ after.val))
  simp only [parseRootObject, Bool.and_eq_true, beq_iff_eq, Text.bytes]
  rw [scan_eq (Nat.lt_succ_self _)]
  refine and_congr_right fun _ => ?_
  constructor
  · intro h
    by_contra hbad
    rw [hvalue.stops hbad] at h
    cases h
  · intro hgood
    rw [hvalue.passes hgood, hlast]

end PipaStrictJSONParser

/-! ## Beside the firmware -/

/-- On the texts of RFC 8259 the phone's check is exact, up to what Swift takes for one name; what it accepts, the
firmware's scanner accepts where it goes deep enough; and on any bytes the scan ends. -/
theorem isStrictJSONObject_exact (f : Foundation) (hf : f.ReadsStrings) :
    (∀ t : Text, isStrictJSONObject f t.bytes = true ↔
      (f.dictionary t.bytes).isSome = true ∧ t.value.NamesDiffer f.canonical) ∧
    (∀ t : Text, t.value.depth ≤ Firmware.JsonPolicy.kMaxNesting → isStrictJSONObject f t.bytes = true →
      Firmware.JsonPolicy.isDuplicateFreeJson (some t.bytes) = true) ∧
    ∀ (data : Bytes) (objectKeys : List (List PyStr)) (turns : Nat), data.length < turns →
      (PipaStrictJSONParser.scan f turns objectKeys data).isSome = true := by
  refine ⟨PipaStrictJSONParser.parseRootObject_text hf, ?_, ?_⟩
  · intro t hdepth hstrict
    have hnames := ((PipaStrictJSONParser.parseRootObject_text hf t).mp hstrict).2
    exact (Firmware.JsonPolicy.isDuplicateFreeJson_exact.1 t hdepth).mpr hnames.duplicateFree
  · intro data objectKeys turns hturns
    exact (PipaStrictJSONParser.scan_turns hturns hturns).2

/-- One document, strings read as the firmware does, and taken for equal where they are. -/
def plainFoundation : Foundation where
  dictionary data :=
    if data = (PyStr.ofString "\x7b\"a\":\x7b\x7d\x7d").bytes then some [(PyStr.ofString "a", .dict [])] else none
  fragment token :=
    match Firmware.JsonPolicy.parseString token with
    | .accepted (value, []) => Pipa.Lib.decodeUtf8 value
    | _ => none
  canonical := id

theorem plainFoundation_reads : plainFoundation.ReadsStrings := by
  intro s
  have hstring := Firmware.JsonPolicy.parseString_quoted s []
  rw [List.append_nil] at hstring
  simp only [plainFoundation, hstring]
  exact Pipa.Lib.decodeUtf8_encode s.encode_chars

open Firmware.JsonPolicy (noSpace) in
/-- The document `{"a":{}}`, of one object in another. -/
def nestedText : Text :=
  ⟨noSpace, .object (.one noSpace [.plain (CodePoint.ofChar 'a') (by decide) (by decide) (by decide)] noSpace
    noSpace (.emptyObject noSpace) noSpace), noSpace⟩

theorem isStrictJSONObject_nested : isStrictJSONObject plainFoundation nestedText.bytes = true := by
  apply ((isStrictJSONObject_exact plainFoundation plainFoundation_reads).1 nestedText).mpr
  refine ⟨rfl, ?_⟩
  simp only [nestedText, Tree.NamesDiffer, Members.NamesDiffer, and_true]
  exact List.nodup_singleton _

end Pipa.Mobile
