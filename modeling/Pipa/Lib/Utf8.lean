import Pipa.Lib.Text

/- `bytes.decode("utf-8")`: the strict decoder. It takes back exactly what
   `str.encode("utf-8")` writes, so a text is determined by its bytes. -/
namespace Pipa.Lib

def isContinuation (b : UInt8) : Bool := 0x80 ≤ b.toNat && b.toNat < 0xC0

/-- The code point `n`, unless there is none or it is a surrogate. -/
def CodePoint.scalar? (n : Nat) : Option CodePoint :=
  if h : n < 0x110000 then
    if CodePoint.isSurrogate ⟨n, h⟩ then none else some ⟨n, h⟩
  else none

/-- The first code point and what follows it. An overlong form, a surrogate and a number beyond
the last code point are malformed. -/
def decodeScalar : Bytes → Option (CodePoint × Bytes)
  | [] => none
  | a :: s =>
    if a.toNat < 0x80 then (CodePoint.scalar? a.toNat).map (·, s)
    else if a.toNat < 0xC2 then none
    else if a.toNat < 0xE0 then
      match s with
      | b :: s =>
        if isContinuation b then (CodePoint.scalar? (a.toNat % 32 * 64 + b.toNat % 64)).map (·, s) else none
      | _ => none
    else if a.toNat < 0xF0 then
      match s with
      | b :: c :: s =>
        let n := a.toNat % 16 * 4096 + b.toNat % 64 * 64 + c.toNat % 64
        if isContinuation b && isContinuation c && 0x800 ≤ n then (CodePoint.scalar? n).map (·, s) else none
      | _ => none
    else if a.toNat < 0xF5 then
      match s with
      | b :: c :: d :: s =>
        let n := a.toNat % 8 * 262144 + b.toNat % 64 * 4096 + c.toNat % 64 * 64 + d.toNat % 64
        if isContinuation b && isContinuation c && isContinuation d && 0x10000 ≤ n then
          (CodePoint.scalar? n).map (·, s)
        else none
      | _ => none
    else none

/-- With as many turns as there are bytes, or more. -/
def decodeTurns : Nat → Bytes → Option PyStr
  | _, [] => some []
  | 0, _ :: _ => none
  | turns + 1, a :: s =>
    match decodeScalar (a :: s) with
    | none => none
    | some (c, s) => (decodeTurns turns s).map (c :: ·)

/-- `bytes.decode("utf-8")`; `none` is `UnicodeDecodeError`. -/
def decodeUtf8 (s : Bytes) : Option PyStr := decodeTurns s.length s

/-! ## What is encoded is decoded -/

theorem CodePoint.scalar?_val (c : CodePoint) (h : c.isSurrogate = false) : CodePoint.scalar? c.val = some c := by
  obtain ⟨n, hn⟩ := c
  simp [scalar?, hn, h]

theorem decodeScalar_utf8 (c : CodePoint) (h : c.isSurrogate = false) (rest : Bytes) :
    decodeScalar (c.utf8 ++ rest) = some (c, rest) := by
  have hlt := c.lt
  have hscalar := c.scalar?_val h
  have byte (n : Nat) (hn : n < 256) : n.toUInt8.toNat = n := byte_toNat hn
  have tail (n : Nat) (hn : n < 64) : isContinuation (0x80 + n).toUInt8 = true ∧ (0x80 + n) % 64 = n := by
    refine ⟨?_, by omega⟩
    simp only [isContinuation, byte (0x80 + n) (by omega), Bool.and_eq_true, decide_eq_true_eq]
    omega
  unfold CodePoint.utf8
  split
  · rename_i h1
    simp only [List.cons_append, List.nil_append, decodeScalar, byte c.val (by omega), if_pos h1, hscalar,
      Option.map_some]
  split
  · rename_i h1 h2
    obtain ⟨hb, hb'⟩ := tail (c.val % 64) (by omega)
    have hn : (0xC0 + c.val / 64) % 32 * 64 + c.val % 64 = c.val := by omega
    simp only [List.cons_append, List.nil_append, decodeScalar, hb, if_true]
    rw [byte (0xC0 + c.val / 64) (by omega), byte (0x80 + c.val % 64) (by omega), hb', hn, if_neg (by omega),
      if_neg (by omega), if_pos (by omega), hscalar]
    rfl
  split
  · rename_i h1 h2 h3
    obtain ⟨hb, hb'⟩ := tail (c.val / 64 % 64) (by omega)
    obtain ⟨hc, hc'⟩ := tail (c.val % 64) (by omega)
    have hn : (0xE0 + c.val / 4096) % 16 * 4096 + c.val / 64 % 64 * 64 + c.val % 64 = c.val := by omega
    simp only [List.cons_append, List.nil_append, decodeScalar, hb, hc]
    rw [byte (0xE0 + c.val / 4096) (by omega), byte (0x80 + c.val / 64 % 64) (by omega),
      byte (0x80 + c.val % 64) (by omega), hb', hc', hn, if_neg (by omega), if_neg (by omega), if_neg (by omega),
      if_pos (by omega), hscalar, if_pos]
    · rfl
    · simp only [Bool.and_self, Bool.true_and, decide_eq_true_eq]
      omega
  · rename_i h1 h2 h3
    obtain ⟨hb, hb'⟩ := tail (c.val / 4096 % 64) (by omega)
    obtain ⟨hc, hc'⟩ := tail (c.val / 64 % 64) (by omega)
    obtain ⟨hd, hd'⟩ := tail (c.val % 64) (by omega)
    have hn : (0xF0 + c.val / 262144) % 8 * 262144 + c.val / 4096 % 64 * 4096 + c.val / 64 % 64 * 64 +
        c.val % 64 = c.val := by omega
    simp only [List.cons_append, List.nil_append, decodeScalar, hb, hc, hd]
    rw [byte (0xF0 + c.val / 262144) (by omega), byte (0x80 + c.val / 4096 % 64) (by omega),
      byte (0x80 + c.val / 64 % 64) (by omega), byte (0x80 + c.val % 64) (by omega), hb', hc', hd', hn,
      if_neg (by omega), if_neg (by omega), if_neg (by omega), if_neg (by omega), if_pos (by omega), hscalar, if_pos]
    · rfl
    · simp only [Bool.and_self, Bool.true_and, decide_eq_true_eq]
      omega

theorem decodeTurns_bytes {s : PyStr} (h : s.any CodePoint.isSurrogate = false) {turns : Nat}
    (hturns : s.bytes.length ≤ turns) : decodeTurns turns s.bytes = some s := by
  induction s generalizing turns with
  | nil =>
    cases turns with
    | zero => rfl
    | succ turns => rfl
  | cons c s ih =>
    obtain ⟨hc, hs⟩ : c.isSurrogate = false ∧ s.any CodePoint.isSurrogate = false := by
      simpa only [List.any_cons, Bool.or_eq_false_iff] using h
    have hbytes : PyStr.bytes (c :: s) = c.utf8 ++ PyStr.bytes s := rfl
    obtain ⟨b, t, hutf8⟩ := List.exists_cons_of_ne_nil c.utf8_ne_nil
    rw [hbytes] at hturns ⊢
    cases turns with
    | zero => simp [hutf8] at hturns
    | succ turns =>
      have hlater : (PyStr.bytes s).length ≤ turns := by
        simp only [hutf8, List.cons_append, List.length_cons, List.length_append] at hturns
        omega
      have hfirst : decodeScalar (b :: (t ++ PyStr.bytes s)) = some (c, PyStr.bytes s) := by
        have hscalar := decodeScalar_utf8 c hc (PyStr.bytes s)
        rwa [hutf8] at hscalar
      show decodeTurns (turns + 1) (c.utf8 ++ PyStr.bytes s) = some (c :: s)
      rw [hutf8, List.cons_append, decodeTurns]
      simp only [hfirst, ih hs hlater, Option.map_some]

/-- A text that has a UTF-8 form is read back from it. -/
theorem decodeUtf8_encode {s : PyStr} {b : Bytes} (h : s.encode = some b) : decodeUtf8 b = some s := by
  obtain ⟨hclean, rfl⟩ := PyStr.encode_eq_some.mp h
  exact decodeTurns_bytes (by simpa using hclean) (Nat.le_refl _)

/-- Different texts have different UTF-8 forms. -/
theorem PyStr.encode_inj {s t : PyStr} {b : Bytes} (hs : s.encode = some b) (ht : t.encode = some b) : s = t := by
  have heq := decodeUtf8_encode hs
  rw [decodeUtf8_encode ht] at heq
  exact (Option.some.inj heq).symm

end Pipa.Lib
