import Pipa.Lib.Text

/- Unpadded base64url: three bytes become four symbols, a rest of one or two
   bytes becomes two or three. `unsextets` reads any symbols back and drops the
   bits that do not fill a byte, as lenient decoders do, so a canonical decoder
   is one that encodes its result again and compares. -/
namespace Pipa.Lib.Base64Url

def alphabet : List Char :=
  "ABCDEFGHIJKLMNOPQRSTUVWXYZabcdefghijklmnopqrstuvwxyz0123456789-_".toList

def symbol (n : Nat) : Char := alphabet.getD n 'A'

/-- The value of the symbol with character code `c`. -/
def digit? (c : Nat) : Option Nat :=
  if 65 ≤ c ∧ c ≤ 90 then some (c - 65)
  else if 97 ≤ c ∧ c ≤ 122 then some (c - 97 + 26)
  else if 48 ≤ c ∧ c ≤ 57 then some (c - 48 + 52)
  else if c = 45 then some 62
  else if c = 95 then some 63
  else none

def sextets : Bytes → List Nat
  | a :: b :: c :: rest =>
    a.toNat / 4 :: (a.toNat % 4 * 16 + b.toNat / 16) :: (b.toNat % 16 * 4 + c.toNat / 64) ::
      c.toNat % 64 :: sextets rest
  | [a, b] => [a.toNat / 4, a.toNat % 4 * 16 + b.toNat / 16, b.toNat % 16 * 4]
  | [a] => [a.toNat / 4, a.toNat % 4 * 16]
  | [] => []

/-- A single symbol at the end has no byte to give. -/
def unsextets : List Nat → Option Bytes
  | p :: q :: r :: s :: rest =>
    (unsextets rest).map fun bytes =>
      (p * 4 + q / 16).toUInt8 :: (q % 16 * 16 + r / 4).toUInt8 :: (r % 4 * 64 + s).toUInt8 :: bytes
  | [p, q, r] => some [(p * 4 + q / 16).toUInt8, (q % 16 * 16 + r / 4).toUInt8]
  | [p, q] => some [(p * 4 + q / 16).toUInt8]
  | [_] => none
  | [] => some []

def encodeText (bytes : Bytes) : List Char := (sextets bytes).map symbol

/-- Decode from character codes; `none` for a foreign character or a stray symbol. -/
def decodeCodes (codes : List Nat) : Option Bytes := (codes.mapM digit?).bind unsextets

theorem digit?_symbol {n : Nat} (h : n < 64) : digit? (symbol n).toNat = some n := by
  have all : ∀ i : Fin 64, digit? (symbol i.val).toNat = some i.val := by decide +kernel
  exact all ⟨n, h⟩

theorem unsextets_sextets (bytes : Bytes) : unsextets (sextets bytes) = some bytes := by
  fun_induction sextets bytes with
  | case1 a b c rest ih =>
    have := a.toNat_lt; have := b.toNat_lt; have := c.toNat_lt
    simp only [unsextets, ih, Option.map_some, Option.some.injEq, List.cons.injEq, and_true]
    refine ⟨byte_eq ?_, byte_eq ?_, byte_eq ?_⟩ <;> omega
  | case2 a b =>
    have := a.toNat_lt; have := b.toNat_lt
    simp only [unsextets, Option.some.injEq, List.cons.injEq, and_true]
    refine ⟨byte_eq ?_, byte_eq ?_⟩ <;> omega
  | case3 a =>
    have := a.toNat_lt
    simp only [unsextets, Option.some.injEq, List.cons.injEq, and_true]
    exact byte_eq (by omega)
  | case4 => rfl

theorem sextets_lt (bytes : Bytes) : ∀ n ∈ sextets bytes, n < 64 := by
  fun_induction sextets bytes with
  | case1 a b c rest ih =>
    have := a.toNat_lt; have := b.toNat_lt; have := c.toNat_lt
    simp only [List.forall_mem_cons]
    refine ⟨?_, ?_, ?_, ?_, ih⟩ <;> omega
  | case2 a b =>
    have := a.toNat_lt; have := b.toNat_lt
    simp only [List.forall_mem_cons]
    refine ⟨?_, ?_, ?_, by simp⟩ <;> omega
  | case3 a =>
    have := a.toNat_lt
    simp only [List.forall_mem_cons]
    refine ⟨?_, ?_, by simp⟩ <;> omega
  | case4 => simp

theorem decodeCodes_encodeText (bytes : Bytes) :
    decodeCodes ((encodeText bytes).map Char.toNat) = some bytes := by
  have hdigits : ∀ l : List Nat, (∀ n ∈ l, n < 64) →
      ((l.map symbol).map Char.toNat).mapM digit? = some l := by
    intro l hl
    induction l with
    | nil => rfl
    | cons n l ih =>
      rw [List.forall_mem_cons] at hl
      simp only [List.map_cons, List.mapM_cons, digit?_symbol hl.1, ih hl.2]
      rfl
  unfold decodeCodes encodeText
  rw [hdigits _ (sextets_lt bytes)]
  exact unsextets_sextets bytes

theorem encodeText_inj {a b : Bytes} (h : encodeText a = encodeText b) : a = b := by
  have := decodeCodes_encodeText a
  rw [h, decodeCodes_encodeText b] at this
  exact (Option.some.inj this).symm

theorem encodeText_length (bytes : Bytes) : (encodeText bytes).length = (bytes.length * 4 + 2) / 3 := by
  unfold encodeText
  rw [List.length_map]
  fun_induction sextets bytes with
  | case1 a b c rest ih => simp only [List.length_cons, ih]; omega
  | case2 a b => simp
  | case3 a => simp
  | case4 => rfl

theorem symbol_mem {bytes : Bytes} {c : Char} (h : c ∈ encodeText bytes) : c ∈ alphabet := by
  obtain ⟨n, hn, rfl⟩ := List.mem_map.mp h
  have hlt := sextets_lt bytes n hn
  have all : ∀ i : Fin 64, symbol i.val ∈ alphabet := by decide +kernel
  exact all ⟨n, hlt⟩

end Pipa.Lib.Base64Url
