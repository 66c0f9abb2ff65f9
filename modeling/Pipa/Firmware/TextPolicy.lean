import Pipa.Lib.Scan
import Pipa.Lib.Utf8
import Pipa.Firmware.Json

/- `isSafeDisplayText` (`pipa_text_policy.h`) byte by byte. Its reads are checked
   against a buffer that ends with the terminating NUL; what it accepts is
   well-formed UTF-8, in which every code point has one spelling, without the code
   points the display refuses. -/
namespace Pipa.Firmware
open Pipa.Lib Pipa.Lib.Scan

/-! ## The code with its reads

`left` is `length - index`; `rest` starts at `index` and ends with the NUL. -/

/-- `strlen`. -/
def strlen : Bytes → Scan Nat
  | [] => .outside
  | c :: rest => do
    let character ← read (c :: rest) 0
    if character = 0 then .accepted 0
    else do
      let n ← strlen rest
      .accepted (n + 1)

/-- The code point at `index` and its width. -/
def readCodePoint (left : Nat) (rest : Bytes) : Scan (Nat × Nat) := do
  let first ← read rest 0
  if first ≤ 0x7F then .accepted (first.toNat, 1)
  else if 0xC2 ≤ first ∧ first ≤ 0xDF then
    if left ≤ 1 then .refused
    else do
      let second ← read rest 1
      if !continuation second then .refused
      else .accepted (first.toNat % 32 * 64 + second.toNat % 64, 2)
  else if 0xE0 ≤ first ∧ first ≤ 0xEF then
    if left ≤ 2 then .refused
    else do
      let second ← read rest 1
      let third ← read rest 2
      if !continuation third ||
          (if first = 0xE0 then second < 0xA0 || 0xBF < second
           else if first = 0xED then second < 0x80 || 0x9F < second
           else !continuation second) then .refused
      else .accepted (first.toNat % 16 * 4096 + second.toNat % 64 * 64 + third.toNat % 64, 3)
  else if 0xF0 ≤ first ∧ first ≤ 0xF4 then
    if left ≤ 3 then .refused
    else do
      let second ← read rest 1
      let third ← read rest 2
      let fourth ← read rest 3
      if !continuation third || !continuation fourth ||
          (if first = 0xF0 then second < 0x90 || 0xBF < second
           else if first = 0xF4 then second < 0x80 || 0x8F < second
           else !continuation second) then .refused
      else
        .accepted (first.toNat % 8 * 262144 + second.toNat % 64 * 4096 + third.toNat % 64 * 64 + fourth.toNat % 64, 4)
  else .refused

/-- The loop over `index`. -/
def readDisplayText : Nat → Nat → Bytes → Scan Unit
  | 0, _, _ => .unfinished
  | turns + 1, left, rest =>
    if left = 0 then .accepted ()
    else do
      let (codePoint, width) ← readCodePoint left rest
      if refused codePoint then .refused else readDisplayText turns (left - width) (rest.drop width)

/-- `isSafeDisplayText` of what a pointer points to, up to the NUL. -/
def readsSafeDisplayText (text : Option Bytes) (maxBytes : Nat) : Scan Unit :=
  match text with
  | none => .refused
  | some buffer => do
    let length ← strlen buffer
    if length = 0 ∨ maxBytes < length then .refused else readDisplayText (length + 1) length buffer

/-! ## Well-formed UTF-8 -/

theorem continuation_iff {b : UInt8} : continuation b = true ↔ 0x80 ≤ b.toNat ∧ b.toNat ≤ 0xBF := by
  unfold continuation
  rw [Bool.and_eq_true, decide_eq_true_eq, decide_eq_true_eq, UInt8.le_iff_toNat_le, UInt8.le_iff_toNat_le]
  exact Iff.rfl

/-- A code point with its encoding in hand. -/
theorem spelt {n : Nat} {text rest : Bytes} (hlt : n < 0x110000) (hscalar : n < 0xD800 ∨ 0xDFFF < n)
    (htext : text = (⟨n, hlt⟩ : CodePoint).utf8 ++ rest) :
    ∃ c : CodePoint, c.isSurrogate = false ∧ c.val = n ∧ text = c.utf8 ++ rest := by
  refine ⟨⟨n, hlt⟩, ?_, rfl, htext⟩
  simp only [CodePoint.isSurrogate, Bool.and_eq_false_iff, decide_eq_false_iff_not]
  omega

theorem utf8_one {n : Nat} (hlt : n < 0x110000) (h : n < 0x80) : (⟨n, hlt⟩ : CodePoint).utf8 = [n.toUInt8] :=
  if_pos h

theorem utf8_two {n : Nat} (hlt : n < 0x110000) (h : 0x80 ≤ n ∧ n < 0x800) :
    (⟨n, hlt⟩ : CodePoint).utf8 = [(0xC0 + n / 64).toUInt8, (0x80 + n % 64).toUInt8] :=
  (if_neg (Nat.not_lt.mpr h.1)).trans (if_pos h.2)

theorem utf8_three {n : Nat} (hlt : n < 0x110000) (h : 0x800 ≤ n ∧ n < 0x10000) :
    (⟨n, hlt⟩ : CodePoint).utf8 =
      [(0xE0 + n / 4096).toUInt8, (0x80 + n / 64 % 64).toUInt8, (0x80 + n % 64).toUInt8] := by
  have h₁ : ¬ n < 0x80 := by omega
  exact (if_neg h₁).trans ((if_neg (Nat.not_lt.mpr h.1)).trans (if_pos h.2))

theorem utf8_four {n : Nat} (hlt : n < 0x110000) (h : 0x10000 ≤ n) :
    (⟨n, hlt⟩ : CodePoint).utf8 =
      [(0xF0 + n / 262144).toUInt8, (0x80 + n / 4096 % 64).toUInt8, (0x80 + n / 64 % 64).toUInt8,
        (0x80 + n % 64).toUInt8] := by
  have h₁ : ¬ n < 0x80 := by omega
  have h₂ : ¬ n < 0x800 := by omega
  exact (if_neg h₁).trans ((if_neg h₂).trans (if_neg (Nat.not_lt.mpr h)))

/-- The second byte, by the first: `edge` is where its range is cut below, `top` where it is cut above. -/
theorem second_iff {first second edge top low high : UInt8} :
    (if first = edge then low ≤ second && second ≤ 0xBF
      else if first = top then 0x80 ≤ second && second ≤ high
      else continuation second) = true ↔
      (first.toNat = edge.toNat → low.toNat ≤ second.toNat ∧ second.toNat ≤ 0xBF) ∧
        (first.toNat ≠ edge.toNat → first.toNat = top.toNat → 0x80 ≤ second.toNat ∧ second.toNat ≤ high.toNat) ∧
        (first.toNat ≠ edge.toNat → first.toNat ≠ top.toNat → 0x80 ≤ second.toNat ∧ second.toNat ≤ 0xBF) := by
  by_cases hedge : first = edge
  · rw [if_pos hedge, Bool.and_eq_true, decide_eq_true_eq, decide_eq_true_eq, UInt8.le_iff_toNat_le,
      UInt8.le_iff_toNat_le]
    have hsame : first.toNat = edge.toNat := congrArg UInt8.toNat hedge
    exact ⟨fun h => ⟨fun _ => h, fun hne => absurd hsame hne, fun hne => absurd hsame hne⟩, fun h => h.1 hsame⟩
  · have hne : first.toNat ≠ edge.toNat := fun h => hedge (UInt8.toNat_inj.mp h)
    rw [if_neg hedge]
    by_cases htop : first = top
    · rw [if_pos htop, Bool.and_eq_true, decide_eq_true_eq, decide_eq_true_eq, UInt8.le_iff_toNat_le,
        UInt8.le_iff_toNat_le]
      have hsame : first.toNat = top.toNat := congrArg UInt8.toNat htop
      exact ⟨fun h => ⟨fun he => absurd he hne, fun _ _ => h, fun _ ht => absurd hsame ht⟩, fun h => h.2.1 hne hsame⟩
    · have htne : first.toNat ≠ top.toNat := fun h => htop (UInt8.toNat_inj.mp h)
      rw [if_neg htop, continuation_iff]
      exact ⟨fun h => ⟨fun he => absurd he hne, fun _ ht => absurd ht htne, fun _ _ => h⟩, fun h => h.2.2 hne htne⟩

/-- What is decoded was spelt in the one way its code point has. -/
theorem decodeFirst_sound {text rest : Bytes} {n : Nat} (h : decodeFirst text = some (n, rest)) :
    ∃ c : CodePoint, c.isSurrogate = false ∧ c.val = n ∧ text = c.utf8 ++ rest := by
  cases text with
  | nil => cases h
  | cons first tail =>
    simp only [decodeFirst] at h
    split at h
    · rename_i h₁
      have h₁ : first.toNat ≤ 0x7F := UInt8.le_iff_toNat_le.mp h₁
      obtain ⟨rfl, rfl⟩ := Prod.mk.inj (Option.some.inj h)
      apply spelt (by omega) (by omega)
      rw [utf8_one _ (by omega), byte_eq rfl]
      rfl
    split at h
    · rename_i h₂
      have hlow : 0xC2 ≤ first.toNat := UInt8.le_iff_toNat_le.mp h₂.1
      have hhigh : first.toNat ≤ 0xDF := UInt8.le_iff_toNat_le.mp h₂.2
      cases tail with
      | nil => cases h
      | cons second tail =>
        simp only at h
        split at h
        · rename_i hsecond
          obtain ⟨hs, hs'⟩ := continuation_iff.mp hsecond
          obtain ⟨rfl, rfl⟩ := Prod.mk.inj (Option.some.inj h)
          apply spelt (by omega) (by omega)
          rw [utf8_two _ (by omega)]
          simp only [List.cons_append, List.nil_append, List.cons.injEq, and_true]
          exact ⟨(byte_eq (by omega)).symm, (byte_eq (by omega)).symm⟩
        · cases h
    split at h
    · rename_i h₃
      have hlow : 0xE0 ≤ first.toNat := UInt8.le_iff_toNat_le.mp h₃.1
      have hhigh : first.toNat ≤ 0xEF := UInt8.le_iff_toNat_le.mp h₃.2
      obtain _ | ⟨second, _ | ⟨third, tail⟩⟩ := tail
      · cases h
      · cases h
      · obtain ⟨hbytes, h⟩ := Option.ite_none_right_eq_some.mp h
        rw [Bool.and_eq_true] at hbytes
        obtain ⟨ht, ht'⟩ := continuation_iff.mp hbytes.1
        obtain ⟨hedge, htop, hother⟩ := second_iff.mp hbytes.2
        simp only [show (0xE0 : UInt8).toNat = 0xE0 from rfl, show (0xED : UInt8).toNat = 0xED from rfl,
          show (0xA0 : UInt8).toNat = 0xA0 from rfl, show (0x9F : UInt8).toNat = 0x9F from rfl] at hedge htop hother
        obtain ⟨rfl, rfl⟩ := Prod.mk.inj (Option.some.inj h)
        apply spelt (by omega) (by omega)
        rw [utf8_three _ (by omega)]
        simp only [List.cons_append, List.nil_append, List.cons.injEq, and_true]
        exact ⟨(byte_eq (by omega)).symm, (byte_eq (by omega)).symm, (byte_eq (by omega)).symm⟩
    split at h
    · rename_i h₄
      have hlow : 0xF0 ≤ first.toNat := UInt8.le_iff_toNat_le.mp h₄.1
      have hhigh : first.toNat ≤ 0xF4 := UInt8.le_iff_toNat_le.mp h₄.2
      obtain _ | ⟨second, _ | ⟨third, _ | ⟨fourth, tail⟩⟩⟩ := tail
      · cases h
      · cases h
      · cases h
      · obtain ⟨hbytes, h⟩ := Option.ite_none_right_eq_some.mp h
        rw [Bool.and_eq_true, Bool.and_eq_true] at hbytes
        obtain ⟨ht, ht'⟩ := continuation_iff.mp hbytes.1.1
        obtain ⟨hf, hf'⟩ := continuation_iff.mp hbytes.1.2
        obtain ⟨hedge, htop, hother⟩ := second_iff.mp hbytes.2
        simp only [show (0xF0 : UInt8).toNat = 0xF0 from rfl, show (0xF4 : UInt8).toNat = 0xF4 from rfl,
          show (0x90 : UInt8).toNat = 0x90 from rfl, show (0x8F : UInt8).toNat = 0x8F from rfl] at hedge htop hother
        obtain ⟨rfl, rfl⟩ := Prod.mk.inj (Option.some.inj h)
        apply spelt (by omega) (by omega)
        rw [utf8_four _ (by omega)]
        simp only [List.cons_append, List.nil_append, List.cons.injEq, and_true]
        exact ⟨(byte_eq (by omega)).symm, (byte_eq (by omega)).symm, (byte_eq (by omega)).symm,
          (byte_eq (by omega)).symm⟩
    · cases h

theorem not_le_byte {b edge : UInt8} (h : edge.toNat < b.toNat) : ¬ b ≤ edge :=
  fun hle => Nat.not_le.mpr h (UInt8.le_iff_toNat_le.mp hle)

theorem within_bytes {low b high : UInt8} (h : low.toNat ≤ b.toNat ∧ b.toNat ≤ high.toNat) : low ≤ b ∧ b ≤ high :=
  ⟨UInt8.le_iff_toNat_le.mpr h.1, UInt8.le_iff_toNat_le.mpr h.2⟩

theorem not_within {low b high : UInt8} (h : high.toNat < b.toNat) : ¬ (low ≤ b ∧ b ≤ high) :=
  fun hin => not_le_byte h hin.2

/-- Every code point but a surrogate is decoded from its encoding. -/
theorem decodeFirst_utf8 (c : CodePoint) (h : c.isSurrogate = false) (rest : Bytes) :
    decodeFirst (c.utf8 ++ rest) = some (c.val, rest) := by
  obtain ⟨n, hlt⟩ := c
  have hscalar : ¬ (0xD800 ≤ n ∧ n ≤ 0xDFFF) := by simpa [CodePoint.isSurrogate] using h
  have htail (m : Nat) (hm : m < 64) :
      continuation (0x80 + m).toUInt8 = true ∧ (0x80 + m).toUInt8.toNat = 0x80 + m := by
    rw [continuation_iff, byte_toNat (by omega)]
    omega
  show decodeFirst ((⟨n, hlt⟩ : CodePoint).utf8 ++ rest) = some (n, rest)
  by_cases h₁ : n < 0x80
  · have hfirst : n.toUInt8.toNat = n := byte_toNat (by omega)
    have hle : n.toUInt8 ≤ 0x7F := by
      rw [UInt8.le_iff_toNat_le, hfirst]
      show n ≤ 0x7F
      omega
    rw [utf8_one hlt h₁]
    show (if n.toUInt8 ≤ 0x7F then some (n.toUInt8.toNat, rest) else _) = _
    rw [if_pos hle, hfirst]
  by_cases h₂ : n < 0x800
  · rw [utf8_two hlt (by omega)]
    have hfirst : (0xC0 + n / 64).toUInt8.toNat = 0xC0 + n / 64 := byte_toNat (by omega)
    obtain ⟨hsecond, hsecond'⟩ := htail (n % 64) (by omega)
    generalize (0xC0 + n / 64).toUInt8 = first at hfirst ⊢
    generalize (0x80 + n % 64).toUInt8 = second at hsecond hsecond' ⊢
    show decodeFirst (first :: second :: rest) = _
    have hlow : ¬ first ≤ 0x7F := not_le_byte (show 0x7F < first.toNat by omega)
    have hin : 0xC2 ≤ first ∧ first ≤ 0xDF :=
      within_bytes (show 0xC2 ≤ first.toNat ∧ first.toNat ≤ 0xDF by omega)
    have hn : first.toNat % 32 * 64 + second.toNat % 64 = n := by omega
    simp only [decodeFirst, if_neg hlow, if_pos hin, hsecond, if_true, hn]
  by_cases h₃ : n < 0x10000
  · rw [utf8_three hlt (by omega)]
    have hfirst : (0xE0 + n / 4096).toUInt8.toNat = 0xE0 + n / 4096 := byte_toNat (by omega)
    obtain ⟨hsecond, hsecond'⟩ := htail (n / 64 % 64) (by omega)
    obtain ⟨hthird, hthird'⟩ := htail (n % 64) (by omega)
    generalize (0xE0 + n / 4096).toUInt8 = first at hfirst ⊢
    generalize (0x80 + n / 64 % 64).toUInt8 = second at hsecond hsecond' ⊢
    generalize (0x80 + n % 64).toUInt8 = third at hthird hthird' ⊢
    show decodeFirst (first :: second :: third :: rest) = _
    have hlow : ¬ first ≤ 0x7F := not_le_byte (show 0x7F < first.toNat by omega)
    have hout : ¬ (0xC2 ≤ first ∧ first ≤ 0xDF) := not_within (show 0xDF < first.toNat by omega)
    have hin : 0xE0 ≤ first ∧ first ≤ 0xEF :=
      within_bytes (show 0xE0 ≤ first.toNat ∧ first.toNat ≤ 0xEF by omega)
    have hrange : (if first = 0xE0 then 0xA0 ≤ second && second ≤ 0xBF
        else if first = 0xED then 0x80 ≤ second && second ≤ 0x9F else continuation second) = true := by
      apply second_iff.mpr
      show (first.toNat = 0xE0 → 0xA0 ≤ second.toNat ∧ _) ∧
        (first.toNat ≠ 0xE0 → first.toNat = 0xED → _ ∧ second.toNat ≤ 0x9F) ∧ (first.toNat ≠ 0xE0 → first.toNat ≠ 0xED → _)
      omega
    have hn : first.toNat % 16 * 4096 + second.toNat % 64 * 64 + third.toNat % 64 = n := by omega
    simp only [decodeFirst, if_neg hlow, if_neg hout, if_pos hin]
    rw [hthird, Bool.true_and, if_pos hrange, hn]
  · rw [utf8_four hlt (by omega)]
    have hfirst : (0xF0 + n / 262144).toUInt8.toNat = 0xF0 + n / 262144 := byte_toNat (by omega)
    obtain ⟨hsecond, hsecond'⟩ := htail (n / 4096 % 64) (by omega)
    obtain ⟨hthird, hthird'⟩ := htail (n / 64 % 64) (by omega)
    obtain ⟨hfourth, hfourth'⟩ := htail (n % 64) (by omega)
    generalize (0xF0 + n / 262144).toUInt8 = first at hfirst ⊢
    generalize (0x80 + n / 4096 % 64).toUInt8 = second at hsecond hsecond' ⊢
    generalize (0x80 + n / 64 % 64).toUInt8 = third at hthird hthird' ⊢
    generalize (0x80 + n % 64).toUInt8 = fourth at hfourth hfourth' ⊢
    show decodeFirst (first :: second :: third :: fourth :: rest) = _
    have hlow : ¬ first ≤ 0x7F := not_le_byte (show 0x7F < first.toNat by omega)
    have hout : ¬ (0xC2 ≤ first ∧ first ≤ 0xDF) := not_within (show 0xDF < first.toNat by omega)
    have hout' : ¬ (0xE0 ≤ first ∧ first ≤ 0xEF) := not_within (show 0xEF < first.toNat by omega)
    have hin : 0xF0 ≤ first ∧ first ≤ 0xF4 :=
      within_bytes (show 0xF0 ≤ first.toNat ∧ first.toNat ≤ 0xF4 by omega)
    have hrange : (if first = 0xF0 then 0x90 ≤ second && second ≤ 0xBF
        else if first = 0xF4 then 0x80 ≤ second && second ≤ 0x8F else continuation second) = true := by
      apply second_iff.mpr
      show (first.toNat = 0xF0 → 0x90 ≤ second.toNat ∧ _) ∧
        (first.toNat ≠ 0xF0 → first.toNat = 0xF4 → _ ∧ second.toNat ≤ 0x8F) ∧ (first.toNat ≠ 0xF0 → first.toNat ≠ 0xF4 → _)
      omega
    have hn : first.toNat % 8 * 262144 + second.toNat % 64 * 4096 + third.toNat % 64 * 64 + fourth.toNat % 64 = n := by
      omega
    simp only [decodeFirst, if_neg hlow, if_neg hout, if_neg hout', if_pos hin]
    rw [hthird, hfourth, Bool.true_and, Bool.true_and, if_pos hrange, hn]

theorem encode_cons {c : CodePoint} {s : PyStr} {text : Bytes} :
    PyStr.encode (c :: s) = some text ↔
      c.isSurrogate = false ∧ ∃ rest, s.encode = some rest ∧ text = c.utf8 ++ rest := by
  unfold PyStr.encode
  rw [List.any_cons, List.flatMap_cons]
  cases hc : c.isSurrogate with
  | true => simp
  | false =>
    cases hs : s.any CodePoint.isSurrogate with
    | true => simp
    | false => simp [eq_comm]

theorem safeLoop_cons (turns : Nat) (b : UInt8) (tail : Bytes) :
    safeLoop (turns + 1) (b :: tail) = match decodeFirst (b :: tail) with
      | none => false
      | some (codePoint, rest) => !refused codePoint && safeLoop turns rest := rfl

/-- The loop accepts the encodings of code points that are shown. -/
theorem safeLoop_iff {turns : Nat} {text : Bytes} (h : text.length ≤ turns) :
    safeLoop turns text = true ↔ ∃ s : PyStr, s.encode = some text ∧ ∀ c ∈ s, refused c.val = false := by
  induction turns generalizing text with
  | zero =>
    obtain rfl := List.length_eq_zero_iff.mp (Nat.le_zero.mp h)
    exact ⟨fun _ => ⟨[], rfl, List.forall_mem_nil _⟩, fun _ => rfl⟩
  | succ turns ih =>
    cases text with
    | nil => exact ⟨fun _ => ⟨[], rfl, List.forall_mem_nil _⟩, fun _ => rfl⟩
    | cons b tail =>
      have hshorter {c : CodePoint} {rest : Bytes} (htext : b :: tail = c.utf8 ++ rest) : rest.length ≤ turns := by
        have hpos := List.length_pos_of_ne_nil c.utf8_ne_nil
        rw [htext, List.length_append] at h
        omega
      rw [safeLoop_cons]
      constructor
      · intro hsafe
        split at hsafe
        · cases hsafe
        · rename_i n rest hfirst
          obtain ⟨c, hc, rfl, htext⟩ := decodeFirst_sound hfirst
          obtain ⟨hshown, hrest⟩ : refused c.val = false ∧ safeLoop turns rest = true := by simpa using hsafe
          obtain ⟨s, hs, hall⟩ := (ih (hshorter htext)).mp hrest
          exact ⟨c :: s, encode_cons.mpr ⟨hc, rest, hs, htext⟩, List.forall_mem_cons.mpr ⟨hshown, hall⟩⟩
      · rintro ⟨s, hs, hall⟩
        cases s with
        | nil => cases hs
        | cons c s =>
          obtain ⟨hc, rest, hrest, htext⟩ := encode_cons.mp hs
          obtain ⟨hshown, hall⟩ := List.forall_mem_cons.mp hall
          have hsafe := (ih (hshorter htext)).mpr ⟨s, hrest, hall⟩
          rw [htext, decodeFirst_utf8 c hc rest]
          show (!refused c.val && safeLoop turns rest) = true
          rw [hshown, hsafe]
          rfl

/-! ## The reads -/

theorem strlen_terminated {text : Bytes} (h : 0 ∉ text) : strlen (text ++ [0]) = .accepted text.length := by
  induction text with
  | nil => rfl
  | cons b text ih =>
    rw [List.mem_cons, not_or] at h
    rw [List.cons_append, strlen, read_zero, accepted_bind, if_neg (fun hb => h.1 hb.symm), ih h.2]
    rfl

/-- The code tests that the second byte is out of its range. -/
theorem second_refused (first second edge top low high : UInt8) :
    (if first = edge then second < low || 0xBF < second
      else if first = top then second < 0x80 || high < second
      else !continuation second) =
      !(if first = edge then low ≤ second && second ≤ 0xBF
        else if first = top then 0x80 ≤ second && second ≤ high
        else continuation second) := by
  have hrange (low high : UInt8) : (decide (second < low) || decide (high < second)) =
      !(decide (low ≤ second) && decide (second ≤ high)) := by
    rw [Bool.not_and, ← decide_not, ← decide_not]
    simp only [UInt8.not_le]
  rw [hrange, hrange]
  split
  · rfl
  · split
    · rfl
    · rfl

theorem ite_not {α : Type} (b : Bool) (x y : α) : (if (!b) = true then x else y) = if b = true then y else x := by
  cases b with
  | true => rfl
  | false => rfl

/-- A code point is read as it is decoded, with no read beyond the NUL. -/
theorem readCodePoint_eq {text : Bytes} (hne : text ≠ []) :
    readCodePoint text.length (text ++ [0]) =
      match decodeFirst text with
      | none => .refused
      | some (codePoint, rest) => .accepted (codePoint, text.length - rest.length) := by
  obtain ⟨first, tail, rfl⟩ := List.exists_cons_of_ne_nil hne
  rw [List.cons_append, readCodePoint, read_zero, accepted_bind]
  simp only [decodeFirst]
  by_cases h₁ : first ≤ 0x7F
  · rw [if_pos h₁, if_pos h₁]
    show _ = Scan.accepted (first.toNat, tail.length + 1 - tail.length)
    rw [Nat.add_sub_cancel_left]
  rw [if_neg h₁, if_neg h₁]
  by_cases h₂ : 0xC2 ≤ first ∧ first ≤ 0xDF
  · rw [if_pos h₂, if_pos h₂]
    cases tail with
    | nil => rfl
    | cons second tail =>
      rw [if_neg (by simp)]
      show (if (!continuation second) = true then _ else _) = _
      rw [ite_not]
      dsimp only
      split
      · show Scan.accepted (_, 2) = Scan.accepted (_, tail.length + 2 - tail.length)
        rw [Nat.add_sub_cancel_left]
      · rfl
  rw [if_neg h₂, if_neg h₂]
  by_cases h₃ : 0xE0 ≤ first ∧ first ≤ 0xEF
  · rw [if_pos h₃, if_pos h₃]
    obtain _ | ⟨second, _ | ⟨third, tail⟩⟩ := tail
    · rfl
    · rfl
    · rw [if_neg (by simp)]
      show (if (!continuation third || _) = true then _ else _) = _
      rw [second_refused, ← Bool.not_and, ite_not]
      dsimp only
      generalize hrange : (if first = 0xE0 then decide (0xA0 ≤ second) && decide (second ≤ 0xBF)
        else if first = 0xED then decide (0x80 ≤ second) && decide (second ≤ 0x9F) else continuation second) = inRange
      split
      · show Scan.accepted (_, 3) = Scan.accepted (_, tail.length + 3 - tail.length)
        rw [Nat.add_sub_cancel_left]
      · rfl
  rw [if_neg h₃, if_neg h₃]
  by_cases h₄ : 0xF0 ≤ first ∧ first ≤ 0xF4
  · rw [if_pos h₄, if_pos h₄]
    obtain _ | ⟨second, _ | ⟨third, _ | ⟨fourth, tail⟩⟩⟩ := tail
    · rfl
    · rfl
    · rfl
    · rw [if_neg (by simp)]
      show (if (!continuation third || !continuation fourth || _) = true then _ else _) = _
      rw [second_refused, ← Bool.not_and, ← Bool.not_and, ite_not]
      dsimp only
      generalize hrange : (if first = 0xF0 then decide (0x90 ≤ second) && decide (second ≤ 0xBF)
        else if first = 0xF4 then decide (0x80 ≤ second) && decide (second ≤ 0x8F) else continuation second) = inRange
      split
      · show Scan.accepted (_, 4) = Scan.accepted (_, tail.length + 4 - tail.length)
        rw [Nat.add_sub_cancel_left]
      · rfl
  · rw [if_neg h₄, if_neg h₄]

/-- The loop reads what `safeLoop` decodes, and stops at the NUL. -/
theorem readDisplayText_eq {turns loops : Nat} {text : Bytes} (h : text.length < turns) (hloops : text.length ≤ loops) :
    readDisplayText turns text.length (text ++ [0]) =
      if safeLoop loops text = true then .accepted () else .refused := by
  induction turns generalizing text loops with
  | zero => exact absurd h (Nat.not_lt_zero _)
  | succ turns ih =>
    cases text with
    | nil =>
      cases loops with
      | zero => rfl
      | succ loops => rfl
    | cons b tail =>
      cases loops with
      | zero => cases hloops
      | succ loops =>
        rw [readDisplayText, if_neg (by simp), readCodePoint_eq (List.cons_ne_nil b tail)]
        show _ = if (match decodeFirst (b :: tail) with
          | none => false
          | some (codePoint, rest) => !refused codePoint && safeLoop loops rest) = true then _ else _
        cases hfirst : decodeFirst (b :: tail) with
        | none => rfl
        | some r =>
          obtain ⟨n, rest⟩ := r
          obtain ⟨c, -, rfl, htext⟩ := decodeFirst_sound hfirst
          have hlength : (b :: tail).length = c.utf8.length + rest.length := by rw [htext, List.length_append]
          have hpos := List.length_pos_of_ne_nil c.utf8_ne_nil
          have hwidth : (b :: tail).length - rest.length = c.utf8.length := by omega
          have hleft : (b :: tail).length - c.utf8.length = rest.length := by omega
          have hdrop : (b :: tail ++ [0]).drop c.utf8.length = rest ++ [0] := by
            rw [htext, List.append_assoc, List.drop_left]
          show (if refused c.val = true then Scan.refused else readDisplayText turns
            ((b :: tail).length - ((b :: tail).length - rest.length))
            ((b :: tail ++ [0]).drop ((b :: tail).length - rest.length))) =
              if (!refused c.val && safeLoop loops rest) = true then _ else _
          rw [hwidth, hleft, hdrop, ih (by omega) (by omega : rest.length ≤ loops)]
          cases refused c.val with
          | true => rfl
          | false => rfl

/-- For every C string and every bound: the check ends without a read past the NUL, and returns `true` exactly for
1 to `maxBytes` bytes of well-formed UTF-8 without a code point that the display refuses. -/
theorem isSafeDisplayText_exact (text : Bytes) (hterminated : 0 ∉ text) (maxBytes : Nat) :
    readsSafeDisplayText (some (text ++ [0])) maxBytes =
        (if isSafeDisplayText text maxBytes = true then .accepted () else .refused) ∧
      (isSafeDisplayText text maxBytes = true ↔
        1 ≤ text.length ∧ text.length ≤ maxBytes ∧
          ∃ s : PyStr, s.encode = some text ∧ ∀ c ∈ s, refused c.val = false) := by
  have hsafe : isSafeDisplayText text maxBytes = true ↔
      1 ≤ text.length ∧ text.length ≤ maxBytes ∧ safeLoop text.length text = true := by
    unfold isSafeDisplayText
    cases text with
    | nil => simp
    | cons b text => simp
  constructor
  · show (strlen (text ++ [0]) >>= fun length => _) = _
    rw [strlen_terminated hterminated, accepted_bind]
    by_cases hbounds : text.length = 0 ∨ maxBytes < text.length
    · rw [if_pos hbounds, if_neg]
      rw [hsafe]
      omega
    · rw [if_neg hbounds, readDisplayText_eq (Nat.lt_succ_self _) (Nat.le_refl _)]
      have hboth : isSafeDisplayText text maxBytes = true ↔ safeLoop text.length text = true := by
        rw [hsafe]
        exact ⟨fun h => h.2.2, fun h => ⟨by omega, by omega, h⟩⟩
      simp only [hboth]
  · rw [hsafe, safeLoop_iff (Nat.le_refl _)]

theorem isSafeDisplayText_exact_accent :
    readsSafeDisplayText (some ([0xC3, 0xA1] ++ [0])) 2 = .accepted () ∧ isSafeDisplayText [0xC3, 0xA1] 2 = true := by
  obtain ⟨hreads, hiff⟩ := isSafeDisplayText_exact [0xC3, 0xA1] (by decide) 2
  have hsafe : isSafeDisplayText [0xC3, 0xA1] 2 = true :=
    hiff.mpr ⟨by decide, by decide, [⟨0xE1, by decide⟩], by decide, by decide⟩
  rw [if_pos hsafe] at hreads
  exact ⟨hreads, hsafe⟩

end Pipa.Firmware
