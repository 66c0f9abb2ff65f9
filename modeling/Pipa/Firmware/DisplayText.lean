import Pipa.Firmware.TextPolicy

/- The text of a confirmation on the round display (`pipa_display_text.cpp`). The reads of
   `normalizeSummary` are checked against the text alone, so that not even its NUL may be
   read by the loop. Whatever the bytes are, what comes out is printable, in upper case and
   without spaces around it; where they are UTF-8, each code point gives one character. -/
namespace Pipa.Firmware
open Pipa.Lib Pipa.Lib.Scan

namespace DisplayText

def kMaxSummaryBytes : Nat := 96
def kMaxLineCharacters : Nat := 23

/-! ## `normalizeSummary` -/

/-- `for (size_t index = 1; index < expected; ++index)`, over the indices that are left. -/
def continues (bytes : Bytes) : List Nat → Scan Bool
  | [] => .accepted true
  | index :: rest => do
    let byte ← read bytes index
    if byte &&& 0xC0 ≠ 0x80 then .accepted false else continues bytes rest

/-- The `switch` over the byte behind 0xC3. -/
def accent (byte : UInt8) : UInt8 :=
  match byte.toNat with
  | 0x81 => 0x41
  | 0x89 => 0x45
  | 0x8D => 0x49
  | 0x93 => 0x4F
  | 0x9A => 0x55
  | 0x91 => 0x4E
  | 0x9C => 0x55
  | 0xA1 => 0x41
  | 0xA9 => 0x45
  | 0xAD => 0x49
  | 0xB3 => 0x4F
  | 0xBA => 0x55
  | 0xB1 => 0x4E
  | 0xBC => 0x55
  | _ => 0x3F

/-- The length of an encoding by its first byte. -/
def expectedBytes (lead : UInt8) : Nat :=
  if 0xC2 ≤ lead.toNat ∧ lead.toNat ≤ 0xDF then 2
  else if 0xE0 ≤ lead.toNat ∧ lead.toNat ≤ 0xEF then 3
  else if 0xF0 ≤ lead.toNat ∧ lead.toNat ≤ 0xF4 then 4
  else 1

/-- `mappedUtf8`: the character, and how many bytes are consumed. -/
def mappedUtf8 (bytes : Bytes) (remaining : Nat) : Scan (UInt8 × Nat) :=
  if remaining = 0 then .accepted (0x3F, 1)
  else do
    let lead ← read bytes 0
    let expected := expectedBytes lead
    if expected = 1 ∨ remaining < expected then .accepted (0x3F, 1)
    else do
      let whole ← continues bytes (List.range' 1 (expected - 1))
      if !whole then .accepted (0x3F, 1)
      else do
        let second ← read bytes 1
        -- overlong encodings, surrogates and what is past the last code point
        if (lead.toNat = 0xE0 ∧ second.toNat < 0xA0) ∨ (lead.toNat = 0xED ∧ 0xA0 ≤ second.toNat) ∨
            (lead.toNat = 0xF0 ∧ second.toNat < 0x90) ∨ (lead.toNat = 0xF4 ∧ 0x90 ≤ second.toNat) then
          .accepted (0x3F, 1)
        else if expected ≠ 2 ∨ lead.toNat ≠ 0xC3 then .accepted (0x3F, expected)
        else .accepted (accent second, expected)

/-- `appendBounded`. -/
def appendBounded (result : Bytes) (character : UInt8) : Bytes :=
  if result.length < kMaxSummaryBytes then result ++ [character] else result

/-- `std::toupper`, in the C locale. -/
def toupper (value : UInt8) : UInt8 := if 0x61 ≤ value.toNat ∧ value.toNat ≤ 0x7A then value - 0x20 else value

/-- The character for a byte below 0x80. -/
def asciiGlyph (value : UInt8) : UInt8 :=
  if value.toNat = 0x0D ∨ value.toNat = 0x0A then 0x20
  else if 0x20 ≤ value.toNat ∧ value.toNat ≤ 0x7E then toupper value
  else 0x3F

/-- The loop over `index`: `left` is `input_length - index`, and `bytes` starts at `index`. -/
def normalizeLoop : Nat → Nat → Bytes → Bytes → Scan Bytes
  | 0, _, _, _ => .unfinished
  | turns + 1, left, bytes, result =>
    if left = 0 ∨ kMaxSummaryBytes ≤ result.length then .accepted result
    else do
      let value ← read bytes 0
      if value.toNat < 0x80 then
        normalizeLoop turns (left - 1) (bytes.drop 1) (appendBounded result (asciiGlyph value))
      else do
        let (mapped, consumed) ← mappedUtf8 bytes left
        normalizeLoop turns (left - consumed) (bytes.drop consumed) (appendBounded result mapped)

def isBlank (character : UInt8) : Bool := character = 0x20

/-- What is left between the first and the last character that is not a space. -/
def trimmed (result : Bytes) : Bytes := (result.dropWhile isBlank).rdropWhile isBlank

/-- `normalizeSummary`; the loop is given the text without its NUL. -/
def normalizeSummary (text : Option CString) : Scan Bytes :=
  match text with
  | none => .accepted []
  | some text => do
    let inputLength ← strlen (text.bytes ++ [0])
    let result ← normalizeLoop (inputLength + 1) inputLength text.bytes []
    .accepted (trimmed result)

/-! ## `splitSummary` -/

/-- `summary.rfind(' ', position)`. -/
def rfindSpace (summary : Bytes) (position : Nat) : Option Nat :=
  (List.range (min (position + 1) summary.length)).reverse.find? (fun index => summary[index]? = some 0x20)

/-- `resize`, where a line is too long. -/
def resized (line : Bytes) : Bytes :=
  if kMaxLineCharacters < line.length then line.take kMaxLineCharacters else line

/-- `splitSummary`: `first` and `second` afterwards. -/
def splitSummary (text : Option CString) : Bytes × Bytes :=
  match text with
  | none => ([], [])
  | some text =>
    let summary := text.bytes
    if summary.length ≤ kMaxLineCharacters then (summary, [])
    else
      let split :=
        match rfindSpace summary kMaxLineCharacters with
        | none => kMaxLineCharacters
        | some split => if split = 0 then kMaxLineCharacters else split
      let second := (summary.drop split).dropWhile isBlank
      (summary.take split, resized second)

/-! ## Characters that are shown -/

/-- Printable ASCII, but no small letter. -/
def isShown (character : UInt8) : Bool :=
  0x20 ≤ character.toNat && character.toNat ≤ 0x7E && !(0x61 ≤ character.toNat && character.toNat ≤ 0x7A)

theorem isShown_iff {character : UInt8} : isShown character = true ↔
    0x20 ≤ character.toNat ∧ character.toNat ≤ 0x7E ∧ ¬ (0x61 ≤ character.toNat ∧ character.toNat ≤ 0x7A) := by
  simp only [isShown, Bool.and_eq_true, Bool.not_eq_true', Bool.and_eq_false_iff, decide_eq_true_eq,
    decide_eq_false_iff_not]
  omega

theorem accent_shown (byte : UInt8) : isShown (accent byte) = true := by
  unfold accent
  split
  all_goals rfl

theorem asciiGlyph_shown (value : UInt8) : isShown (asciiGlyph value) = true := by
  unfold asciiGlyph
  split
  · rfl
  split
  · rename_i hprintable
    unfold toupper
    split
    · rename_i hsmall
      have hvalue : (value - 0x20).toNat = value.toNat - 0x20 := UInt8.toNat_sub_of_le _ _ (by
        rw [UInt8.le_iff_toNat_le]; exact hprintable.1)
      rw [isShown_iff, hvalue]
      omega
    · rename_i hother
      exact isShown_iff.mpr ⟨hprintable.1, hprintable.2, hother⟩
  · rfl

/-- What is shown stands for itself. -/
theorem asciiGlyph_of_shown {value : UInt8} (h : isShown value = true) : asciiGlyph value = value := by
  obtain ⟨hlow, hhigh, hsmall⟩ := isShown_iff.mp h
  rw [asciiGlyph, if_neg (by omega), if_pos ⟨hlow, hhigh⟩, toupper, if_neg hsmall]

/-! ## Every byte string -/

theorem read_get {bytes : Bytes} {index : Nat} (h : index < bytes.length) :
    read bytes index = .accepted (bytes.getD index 0) := by
  unfold Scan.read
  rw [List.getD_eq_getElem?_getD, List.getElem?_eq_getElem h]
  rfl

theorem continues_eq {bytes : Bytes} {indices : List Nat} (h : ∀ index ∈ indices, index < bytes.length) :
    continues bytes indices =
      .accepted (indices.all (fun index => bytes.getD index 0 &&& 0xC0 = 0x80)) := by
  induction indices with
  | nil => rfl
  | cons index rest ih =>
    rw [continues, read_get (h index List.mem_cons_self), accepted_bind, List.all_cons]
    split
    · rename_i hother
      rw [decide_eq_false hother, Bool.false_and]
    · rename_i hsame
      rw [ih (fun i hi => h i (List.mem_cons_of_mem index hi)), decide_eq_true (not_not.mp hsame), Bool.true_and]

theorem expectedBytes_pos (lead : UInt8) : 1 ≤ expectedBytes lead := by
  unfold expectedBytes
  split
  · decide
  split
  · decide
  split
  · decide
  · decide

/-- A character that is shown comes from at least one byte, and from no more than there are. -/
theorem mappedUtf8_ends {bytes : Bytes} (hne : bytes ≠ []) :
    ∃ character consumed, mappedUtf8 bytes bytes.length = .accepted (character, consumed) ∧
      isShown character = true ∧ 1 ≤ consumed ∧ consumed ≤ bytes.length := by
  have hpos := List.length_pos_of_ne_nil hne
  have hone : ∃ character consumed, (Scan.accepted ((0x3F : UInt8), 1)) = .accepted (character, consumed) ∧
      isShown character = true ∧ 1 ≤ consumed ∧ consumed ≤ bytes.length := ⟨0x3F, 1, rfl, rfl, Nat.le_refl 1, hpos⟩
  rw [mappedUtf8, if_neg (by omega), read_get hpos, accepted_bind]
  simp only
  split
  · exact hone
  · rename_i hlength
    obtain ⟨hexpected, hlength⟩ := not_or.mp hlength
    have hfrom : ∀ index ∈ List.range' 1 (expectedBytes (bytes.getD 0 0) - 1), index < bytes.length := by
      intro index hindex
      rw [List.mem_range'_1] at hindex
      omega
    have hwidth := expectedBytes_pos (bytes.getD 0 0)
    rw [continues_eq hfrom, accepted_bind]
    split
    · exact hone
    · rw [read_get (by omega), accepted_bind]
      split
      · exact hone
      · split
        · exact ⟨_, _, rfl, rfl, hwidth, Nat.not_lt.mp hlength⟩
        · exact ⟨_, _, rfl, accent_shown _, hwidth, Nat.not_lt.mp hlength⟩

theorem appendBounded_shown {result : Bytes} {character : UInt8} (hresult : ∀ c ∈ result, isShown c = true)
    (h : isShown character = true) : ∀ c ∈ appendBounded result character, isShown c = true := by
  unfold appendBounded
  split
  · intro c hc
    rw [List.mem_append, List.mem_singleton] at hc
    obtain hc | rfl := hc
    · exact hresult c hc
    · exact h
  · exact hresult

theorem appendBounded_length {result : Bytes} (character : UInt8) (h : result.length ≤ kMaxSummaryBytes) :
    (appendBounded result character).length ≤ kMaxSummaryBytes := by
  unfold appendBounded
  split
  · rw [List.length_append, List.length_singleton]
    omega
  · exact h

/-- The loop ends within the text, with characters that are shown. -/
theorem normalizeLoop_ends {turns : Nat} {bytes result : Bytes} (hturns : bytes.length < turns)
    (hlength : result.length ≤ kMaxSummaryBytes) (hresult : ∀ c ∈ result, isShown c = true) :
    ∃ final, normalizeLoop turns bytes.length bytes result = .accepted final ∧
      final.length ≤ kMaxSummaryBytes ∧ ∀ c ∈ final, isShown c = true := by
  induction turns generalizing bytes result with
  | zero => exact absurd hturns (Nat.not_lt_zero _)
  | succ turns ih =>
    rw [normalizeLoop]
    split
    · exact ⟨result, rfl, hlength, hresult⟩
    · rename_i hmore
      obtain ⟨hleft, -⟩ := not_or.mp hmore
      have hne : bytes ≠ [] := fun h => hleft (List.length_eq_zero_iff.mpr h)
      have hpos := List.length_pos_of_ne_nil hne
      have hnext {character : UInt8} {consumed : Nat} (hshown : isShown character = true)
          (hconsumed : 1 ≤ consumed) :
          ∃ final, normalizeLoop turns (bytes.length - consumed) (bytes.drop consumed)
              (appendBounded result character) = .accepted final ∧
            final.length ≤ kMaxSummaryBytes ∧ ∀ c ∈ final, isShown c = true := by
        rw [← List.length_drop]
        exact ih (by rw [List.length_drop]; omega) (appendBounded_length character hlength)
          (appendBounded_shown hresult hshown)
      rw [read_get hpos, accepted_bind]
      split
      · exact hnext (asciiGlyph_shown _) (Nat.le_refl 1)
      · obtain ⟨character, consumed, hmapped, hshown, hconsumed, -⟩ := mappedUtf8_ends hne
        rw [hmapped]
        exact hnext hshown hconsumed

/-! ## UTF-8 -/

/-- The letters that have a glyph of their own. -/
def accents : List (Char × Char) :=
  [('Á', 'A'), ('É', 'E'), ('Í', 'I'), ('Ó', 'O'), ('Ú', 'U'), ('Ñ', 'N'), ('Ü', 'U'),
    ('á', 'A'), ('é', 'E'), ('í', 'I'), ('ó', 'O'), ('ú', 'U'), ('ñ', 'N'), ('ü', 'U')]

/-- The one character for a code point. -/
def glyph (c : CodePoint) : UInt8 :=
  if c.val < 0x80 then asciiGlyph c.val.toUInt8
  else
    match accents.find? (fun letter => letter.1.toNat = c.val) with
    | some letter => letter.2.toNat.toUInt8
    | none => 0x3F

theorem accents_range : ∀ letter ∈ accents, 0xC0 ≤ letter.1.toNat ∧ letter.1.toNat < 0x100 := by decide

theorem accent_eq : ∀ n < 64, accent (0x80 + n).toUInt8 =
    match accents.find? (fun letter => letter.1.toNat = 0xC0 + n) with
    | some letter => letter.2.toNat.toUInt8
    | none => 0x3F := by decide

theorem tail_byte : ∀ n < 64, (0x80 + n).toUInt8 &&& 0xC0 = 0x80 := by decide

theorem glyph_accent {c : CodePoint} (h : 0xC0 ≤ c.val ∧ c.val < 0x100) :
    glyph c = accent (0x80 + c.val % 64).toUInt8 := by
  have hval : 0xC0 + c.val % 64 = c.val := by omega
  rw [glyph, if_neg (by omega), accent_eq _ (Nat.mod_lt _ (by decide)), hval]

theorem glyph_unknown {c : CodePoint} (h : 0x80 ≤ c.val) (hother : c.val < 0xC0 ∨ 0x100 ≤ c.val) :
    glyph c = 0x3F := by
  have hnone : accents.find? (fun letter => letter.1.toNat = c.val) = none := by
    rw [List.find?_eq_none]
    intro letter hletter
    have hrange := accents_range letter hletter
    rw [decide_eq_true_eq]
    omega
  rw [glyph, if_neg (by omega), hnone]

/-- A whole encoding is consumed. -/
theorem mappedUtf8_whole {lead second : UInt8} (tail : Bytes) {rest : Bytes}
    (hexpected : expectedBytes lead = tail.length + 2) (htail : ∀ byte ∈ second :: tail, byte &&& 0xC0 = 0x80)
    (hrange : ¬ ((lead.toNat = 0xE0 ∧ second.toNat < 0xA0) ∨ (lead.toNat = 0xED ∧ 0xA0 ≤ second.toNat) ∨
      (lead.toNat = 0xF0 ∧ second.toNat < 0x90) ∨ (lead.toNat = 0xF4 ∧ 0x90 ≤ second.toNat))) :
    mappedUtf8 (lead :: second :: (tail ++ rest)) (lead :: second :: (tail ++ rest)).length =
      .accepted (if tail ≠ [] ∨ lead.toNat ≠ 0xC3 then 0x3F else accent second, tail.length + 2) := by
  have hlength : (lead :: second :: (tail ++ rest)).length = tail.length + rest.length + 2 := by
    rw [List.length_cons, List.length_cons, List.length_append]
  have hfrom : ∀ index ∈ List.range' 1 (tail.length + 2 - 1),
      index < (lead :: second :: (tail ++ rest)).length := by
    intro index hindex
    rw [List.mem_range'_1] at hindex
    omega
  have hwhole : (List.range' 1 (tail.length + 2 - 1)).all
      (fun index => (lead :: second :: (tail ++ rest)).getD index 0 &&& 0xC0 = 0x80) = true := by
    rw [List.all_eq_true]
    intro index hindex
    rw [List.mem_range'_1] at hindex
    obtain ⟨i, rfl⟩ : ∃ i, index = i + 1 := ⟨index - 1, by omega⟩
    have hin : i < (second :: tail).length := by
      rw [List.length_cons]
      omega
    have hget : (lead :: second :: (tail ++ rest)).getD (i + 1) 0 = (second :: tail)[i] := by
      rw [List.getD_cons_succ, ← List.cons_append, List.getD_eq_getElem?_getD, List.getElem?_append_left hin,
        List.getElem?_eq_getElem hin]
      rfl
    rw [decide_eq_true_eq, hget]
    exact htail _ (List.getElem_mem hin)
  have hshort : tail.length + 2 ≠ 2 ↔ tail ≠ [] := by
    rw [Ne, Nat.add_eq_right, List.length_eq_zero_iff]
  rw [mappedUtf8, if_neg (by omega), read_zero, accepted_bind]
  simp only [hexpected]
  rw [if_neg (by omega), continues_eq hfrom, accepted_bind, hwhole, Bool.not_true, if_neg Bool.false_ne_true,
    read_one, accepted_bind, if_neg hrange]
  simp only [hshort]
  split
  · rfl
  · rfl

/-- A code point beyond ASCII is one character, whatever follows it. -/
theorem mappedUtf8_utf8 {c : CodePoint} (hc : c.isSurrogate = false) (hwide : 0x80 ≤ c.val) (rest : Bytes) :
    mappedUtf8 (c.utf8 ++ rest) (c.utf8 ++ rest).length = .accepted (glyph c, c.utf8.length) := by
  obtain ⟨n, hlt⟩ := c
  simp only at hwide
  have htail (m : Nat) : (0x80 + m % 64).toUInt8 &&& 0xC0 = 0x80 := tail_byte _ (Nat.mod_lt _ (by decide))
  by_cases htwo : n < 0x800
  · have hlead : (0xC0 + n / 64).toUInt8.toNat = 0xC0 + n / 64 := byte_toNat (by omega)
    rw [utf8_two hlt ⟨hwide, htwo⟩]
    refine (mappedUtf8_whole [] ?_ ?_ ?_).trans ?_
    · rw [expectedBytes, hlead, if_pos (by omega)]
      rfl
    · simp only [List.mem_singleton, forall_eq]
      exact htail n
    · rw [hlead]
      omega
    · rw [hlead]
      split
      · rename_i hother
        rw [glyph_unknown hwide (by simp only [ne_eq, not_true, false_or] at hother ⊢; omega)]
        rfl
      · rename_i hlatin
        rw [glyph_accent (by simp only [ne_eq, not_true, false_or] at hlatin ⊢; omega)]
        rfl
  have hscalar : n < 0xD800 ∨ 0xDFFF < n := by
    simp only [CodePoint.isSurrogate, Bool.and_eq_false_iff, decide_eq_false_iff_not] at hc
    omega
  have hunknown : glyph ⟨n, hlt⟩ = 0x3F := glyph_unknown hwide (Or.inr (by simp only; omega))
  by_cases hthree : n < 0x10000
  · have hlead : (0xE0 + n / 4096).toUInt8.toNat = 0xE0 + n / 4096 := byte_toNat (by omega)
    have hsecond : (0x80 + n / 64 % 64).toUInt8.toNat = 0x80 + n / 64 % 64 := byte_toNat (by omega)
    rw [utf8_three hlt ⟨Nat.not_lt.mp htwo, hthree⟩, hunknown]
    refine (mappedUtf8_whole [(0x80 + n % 64).toUInt8] ?_ ?_ ?_).trans ?_
    · rw [expectedBytes, hlead, if_neg (by omega), if_pos (by omega)]
      rfl
    · simp only [List.forall_mem_cons]
      exact ⟨htail _, htail _, List.forall_mem_nil _⟩
    · rw [hlead, hsecond]
      omega
    · rw [if_pos (Or.inl (List.cons_ne_nil _ _))]
      rfl
  · have hlead : (0xF0 + n / 262144).toUInt8.toNat = 0xF0 + n / 262144 := byte_toNat (by omega)
    have hsecond : (0x80 + n / 4096 % 64).toUInt8.toNat = 0x80 + n / 4096 % 64 := byte_toNat (by omega)
    rw [utf8_four hlt (Nat.not_lt.mp hthree), hunknown]
    refine (mappedUtf8_whole [(0x80 + n / 64 % 64).toUInt8, (0x80 + n % 64).toUInt8] ?_ ?_ ?_).trans ?_
    · rw [expectedBytes, hlead, if_neg (by omega), if_neg (by omega), if_pos (by omega)]
      rfl
    · simp only [List.forall_mem_cons]
      exact ⟨htail _, htail _, htail _, List.forall_mem_nil _⟩
    · rw [hlead, hsecond]
      omega
    · rw [if_pos (Or.inl (List.cons_ne_nil _ _))]
      rfl

/-- Each code point gives one character, up to as many as fit. -/
theorem normalizeLoop_utf8 {s : PyStr} (hs : s.any CodePoint.isSurrogate = false) {turns : Nat} {result : Bytes}
    (hturns : (PyStr.bytes s).length < turns) (hlength : result.length ≤ kMaxSummaryBytes) :
    normalizeLoop turns (PyStr.bytes s).length (PyStr.bytes s) result =
      .accepted (result ++ (s.map glyph).take (kMaxSummaryBytes - result.length)) := by
  induction s generalizing turns result with
  | nil =>
    obtain ⟨turns, rfl⟩ := Nat.exists_eq_add_of_lt hturns
    rw [List.map_nil, List.take_nil, List.append_nil]
    exact if_pos (Or.inl rfl)
  | cons c s ih =>
    obtain ⟨hc, hs⟩ : c.isSurrogate = false ∧ s.any CodePoint.isSurrogate = false := by
      simpa only [List.any_cons, Bool.or_eq_false_iff] using hs
    obtain ⟨turns, rfl⟩ : ∃ n, turns = n + 1 := ⟨turns - 1, by omega⟩
    have hbytes : PyStr.bytes (c :: s) = c.utf8 ++ PyStr.bytes s := rfl
    have hpos := List.length_pos_of_ne_nil c.utf8_ne_nil
    rw [hbytes, List.length_append] at hturns ⊢
    rw [normalizeLoop]
    split
    · rename_i hend
      have hfull : kMaxSummaryBytes - result.length = 0 := by omega
      rw [hfull, List.take_zero, List.append_nil]
    · rename_i hmore
      have hroom : result.length < kMaxSummaryBytes := by omega
      have hone : result ++ (List.map glyph (c :: s)).take (kMaxSummaryBytes - result.length) =
          (result ++ [glyph c]) ++ (s.map glyph).take (kMaxSummaryBytes - (result ++ [glyph c]).length) := by
        have hleft : kMaxSummaryBytes - result.length = kMaxSummaryBytes - (result ++ [glyph c]).length + 1 := by
          rw [List.length_append, List.length_singleton]
          omega
        rw [hleft, List.map_cons, List.take_succ_cons, List.append_assoc, List.singleton_append]
      have hnext := ih hs (show (PyStr.bytes s).length < turns by omega)
        (show (result ++ [glyph c]).length ≤ kMaxSummaryBytes by
          rw [List.length_append, List.length_singleton]; exact hroom)
      have happend : appendBounded result (glyph c) = result ++ [glyph c] := if_pos hroom
      rw [hone, ← hnext]
      by_cases hascii : c.val < 0x80
      · have hutf8 : c.utf8 = [c.val.toUInt8] := if_pos hascii
        have hglyph : glyph c = asciiGlyph c.val.toUInt8 := if_pos hascii
        have hvalue : c.val.toUInt8.toNat = c.val := byte_toNat (by omega)
        rw [hutf8, List.singleton_append, read_zero, accepted_bind, hvalue, if_pos hascii, ← hglyph, happend,
          List.drop_one, List.tail_cons, List.length_singleton, Nat.add_sub_cancel_left]
      · obtain ⟨first, tail, hutf8, hfirst⟩ := c.utf8_head (Nat.not_lt.mp hascii)
        have hread : read (c.utf8 ++ PyStr.bytes s) 0 = .accepted first := by rw [hutf8]; rfl
        rw [hread, accepted_bind, if_neg (Nat.not_lt.mpr hfirst), ← List.length_append,
          mappedUtf8_utf8 hc (Nat.not_lt.mp hascii), accepted_bind]
        simp only
        rw [happend, List.drop_left, List.length_append, Nat.add_sub_cancel_left]

/-! ## Normalised texts -/

/-- What the display is given. -/
structure Normalized (text : Bytes) : Prop where
  length_le : text.length ≤ kMaxSummaryBytes
  shown : ∀ character ∈ text, isShown character = true
  first : text.head? ≠ some 0x20
  last : text.getLast? ≠ some 0x20

theorem trimmed_part (result : Bytes) : trimmed result <:+: result :=
  (List.rdropWhile_prefix _ _).isInfix.trans (List.dropWhile_suffix _).isInfix

theorem trimmed_normalized {result : Bytes} (hlength : result.length ≤ kMaxSummaryBytes)
    (hshown : ∀ character ∈ result, isShown character = true) : Normalized (trimmed result) where
  length_le := (trimmed_part result).length_le.trans hlength
  shown character h := hshown character ((trimmed_part result).sublist.mem h)
  first h := by
    have hself : (trimmed result).dropWhile isBlank = trimmed result := dropWhile_trim isBlank result
    obtain ⟨rest, hrest⟩ := List.head?_eq_some_iff.mp h
    rw [hrest, List.dropWhile_eq_self_iff] at hself
    exact hself (Nat.succ_pos _) rfl
  last h := by
    have hself : (trimmed result).rdropWhile isBlank = trimmed result := List.rdropWhile_idempotent isBlank _
    obtain ⟨rest, hrest⟩ := List.getLast?_eq_some_iff.mp h
    rw [hrest, List.rdropWhile_eq_self_iff] at hself
    refine hself (List.concat_ne_nil _ _) ?_
    rw [List.getLast_concat]
    rfl

theorem Normalized.trimmed_eq {text : Bytes} (h : Normalized text) : trimmed text = text := by
  have hfirst : text.dropWhile isBlank = text := by
    rw [List.dropWhile_eq_self_iff]
    intro hpos hblank
    exact h.first (by rw [List.head?_eq_getElem?, List.getElem?_eq_getElem hpos, of_decide_eq_true hblank])
  rw [trimmed, hfirst, List.rdropWhile_eq_self_iff]
  intro hne hblank
  exact h.last (by rw [List.getLast?_eq_some_getLast hne, of_decide_eq_true hblank])

theorem Normalized.no_nul {text : Bytes} (h : Normalized text) : 0 ∉ text := by
  intro hnul
  exact absurd (h.shown 0 hnul) (by decide)

/-- The text as code points: each byte is one. -/
def points (text : Bytes) : PyStr := text.map (fun byte => ⟨byte.toNat, Nat.lt_trans byte.toNat_lt (by decide)⟩)

theorem points_bytes {text : Bytes} (h : ∀ byte ∈ text, byte.toNat < 0x80) : (points text).bytes = text := by
  have hascii : (points text).Ascii := by
    intro c hc
    obtain ⟨byte, hbyte, rfl⟩ := List.mem_map.mp hc
    exact h byte hbyte
  rw [hascii.bytes_eq, points, List.map_map]
  calc text.map _ = text.map id := List.map_congr_left fun byte _ => byte_eq rfl
    _ = text := List.map_id text

/-- A normalised text is normalised to itself. -/
theorem Normalized.fixed {text : CString} (h : Normalized text.bytes) :
    normalizeSummary (some text) = .accepted text.bytes := by
  have hascii : ∀ byte ∈ text.bytes, byte.toNat < 0x80 := fun byte hbyte => by
    obtain ⟨-, hhigh, -⟩ := isShown_iff.mp (h.shown byte hbyte)
    omega
  have hscalars : (points text.bytes).any CodePoint.isSurrogate = false := by
    rw [points, List.any_map, List.any_eq_false]
    intro byte hbyte
    have hsmall := hascii byte hbyte
    simp only [Function.comp_apply, CodePoint.isSurrogate, Bool.and_eq_true, decide_eq_true_eq]
    omega
  have hglyphs : (points text.bytes).map glyph = text.bytes := by
    rw [points, List.map_map]
    calc text.bytes.map _ = text.bytes.map id := List.map_congr_left fun byte hbyte => by
          show glyph ⟨byte.toNat, _⟩ = byte
          rw [glyph, if_pos (hascii byte hbyte), byte_eq rfl, asciiGlyph_of_shown (h.shown byte hbyte)]
      _ = text.bytes := List.map_id _
  have hloop := normalizeLoop_utf8 hscalars (Nat.lt_succ_self _) (show ([] : Bytes).length ≤ _ from Nat.zero_le _)
  rw [points_bytes hascii, hglyphs, List.nil_append, List.length_nil, Nat.sub_zero,
    List.take_of_length_le h.length_le] at hloop
  rw [normalizeSummary, strlen_terminated text.terminated, accepted_bind, hloop, accepted_bind, h.trimmed_eq]

/-! ## The lines -/

theorem rfindSpace_le {summary : Bytes} {position index : Nat} (h : rfindSpace summary position = some index) :
    index ≤ position := by
  have hmem := List.mem_of_find?_eq_some h
  rw [List.mem_reverse, List.mem_range] at hmem
  omega

theorem blanks_eq (text : Bytes) : ∃ count, text.takeWhile isBlank = List.replicate count 0x20 := by
  refine ⟨(text.takeWhile isBlank).length, List.eq_replicate_iff.mpr ⟨rfl, ?_⟩⟩
  intro character h
  have hblank : isBlank character = true := List.mem_takeWhile_imp h
  exact of_decide_eq_true hblank

theorem resized_spec (line : Bytes) : (resized line).length ≤ kMaxLineCharacters ∧
    ∃ rest, resized line ++ rest = line ∧ (rest ≠ [] → (resized line).length = kMaxLineCharacters) := by
  unfold resized
  split
  · rename_i hlong
    have hlength : (line.take kMaxLineCharacters).length = kMaxLineCharacters :=
      List.length_take_of_le (Nat.le_of_lt hlong)
    exact ⟨Nat.le_of_eq hlength, line.drop kMaxLineCharacters, List.take_append_drop _ _, fun _ => hlength⟩
  · rename_i hfits
    exact ⟨Nat.not_lt.mp hfits, [], List.append_nil line, fun hne => absurd rfl hne⟩

/-- Two lines that fit; between them stand spaces, and what is behind the second does not fit into it. -/
theorem splitSummary_lines (text : CString) {first second : Bytes}
    (h : splitSummary (some text) = (first, second)) :
    first.length ≤ kMaxLineCharacters ∧ second.length ≤ kMaxLineCharacters ∧
      (∃ count rest, first ++ List.replicate count 0x20 ++ second ++ rest = text.bytes ∧
        (rest ≠ [] → second.length = kMaxLineCharacters)) ∧
      (text.bytes.length ≤ kMaxLineCharacters → first = text.bytes ∧ second = []) := by
  simp only [splitSummary] at h
  split at h
  · rename_i hfits
    obtain ⟨rfl, rfl⟩ := Prod.mk.inj h
    exact ⟨hfits, Nat.zero_le _, ⟨0, [], by simp, fun hne => absurd rfl hne⟩, fun _ => ⟨rfl, rfl⟩⟩
  · rename_i hlong
    obtain ⟨rfl, rfl⟩ := Prod.mk.inj h
    generalize hsplit : (match rfindSpace text.bytes kMaxLineCharacters with
      | none => kMaxLineCharacters
      | some split => if split = 0 then kMaxLineCharacters else split) = split
    have hle : split ≤ kMaxLineCharacters := by
      rw [← hsplit]
      split
      · exact Nat.le_refl _
      · rename_i index hindex
        split
        · exact Nat.le_refl _
        · exact rfindSpace_le hindex
    obtain ⟨count, hcount⟩ := blanks_eq (text.bytes.drop split)
    obtain ⟨hsecond, rest, hrest, hfull⟩ := resized_spec ((text.bytes.drop split).dropWhile isBlank)
    refine ⟨(List.length_take_le _ _).trans hle, hsecond, ⟨count, rest, ?_, hfull⟩, fun hfits => ?_⟩
    · rw [List.append_assoc, hrest, ← hcount, List.append_assoc, List.takeWhile_append_dropWhile,
        List.take_append_drop]
    · exact absurd hfits hlong

/-- For every C string the loop ends without a read past the text, and what it returns is normalised, the same
when it is normalised again, and for UTF-8 one character for each code point before it is cut and trimmed. For
every text, so also for what is returned, both lines fit, and with some spaces between them they are a prefix of
the text, which is shown whole where it fits into one line. -/
theorem summary_exact (text : CString) :
    (∃ result : CString, normalizeSummary (some text) = .accepted result.bytes ∧ Normalized result.bytes ∧
      (∀ s : PyStr, s.encode = some text.bytes →
        result.bytes = trimmed ((s.map glyph).take kMaxSummaryBytes)) ∧
      normalizeSummary (some result) = .accepted result.bytes) ∧
    ∀ first second, splitSummary (some text) = (first, second) →
      first.length ≤ kMaxLineCharacters ∧ second.length ≤ kMaxLineCharacters ∧
        (∃ count, first ++ List.replicate count 0x20 ++ second <+: text.bytes) ∧
        (text.bytes.length ≤ kMaxLineCharacters → first = text.bytes ∧ second = []) := by
  refine ⟨?_, ?_⟩
  · obtain ⟨final, hloop, hlength, hshown⟩ := normalizeLoop_ends (Nat.lt_succ_self text.bytes.length)
      (show ([] : Bytes).length ≤ _ from Nat.zero_le _) (List.forall_mem_nil _)
    have hnormal := trimmed_normalized hlength hshown
    have hsummary : normalizeSummary (some text) = .accepted (trimmed final) := by
      rw [normalizeSummary, strlen_terminated text.terminated, accepted_bind, hloop, accepted_bind]
    refine ⟨⟨trimmed final, hnormal.no_nul⟩, hsummary, hnormal, ?_, Normalized.fixed hnormal⟩
    intro s hs
    obtain ⟨hscalars, hbytes⟩ := Option.ite_none_left_eq_some.mp hs
    rw [Bool.not_eq_true] at hscalars
    replace hbytes : PyStr.bytes s = text.bytes := Option.some.inj hbytes
    have hutf8 := normalizeLoop_utf8 hscalars (Nat.lt_succ_self _)
      (show ([] : Bytes).length ≤ _ from Nat.zero_le _)
    rw [hbytes, hloop, List.nil_append, List.length_nil, Nat.sub_zero] at hutf8
    exact congrArg trimmed (Scan.accepted.inj hutf8)
  · intro first second h
    obtain ⟨hfirst, hsecond, ⟨count, rest, htext, -⟩, hwhole⟩ := splitSummary_lines text h
    exact ⟨hfirst, hsecond, ⟨count, rest, htext⟩, hwhole⟩

end DisplayText
end Pipa.Firmware
