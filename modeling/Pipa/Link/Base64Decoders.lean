import Pipa.Lib.Utf8
import Pipa.Firmware.SecureDevice

/- The four base64url decoders side by side: `_decode` of `secure_session.py`,
   `PipaSecureHandshake::decodeBase64Url` for a known length,
   `PipaSecureProtocol::decodeBase64Url` for a capacity, and
   `PipaMobileCodec.decodeBase64URL`. Each accepts exactly the canonical unpadded
   encodings of the admissible byte strings. The firmware is handed C strings, so
   what it takes for a text has no NUL.

   The two firmware decoders are the same bit accumulator: four symbols take it
   back to where it was, three bytes later, so what it returns is read off group
   by group. Python and Swift decode padded base64 with their libraries and
   encode the result again. -/
namespace Pipa.Link
open Pipa.Lib Pipa.Lib.Base64Url
open Pipa.Secure (encode decodeText)
open Pipa.Secure.Firmware (alphabetByte encodeBase64Url encodeBase64Url_eq)

/-! ## Symbols -/

theorem digit?_some {c n : Nat} (h : digit? c = some n) : n < 64 ∧ c = (symbol n).toNat := by
  have hcode : n < 64 ∧ c < 128 := by
    unfold digit? at h
    grind
  have hall : ∀ c : Fin 128, ∀ n : Fin 64, digit? c.val = some n.val → c.val = (symbol n.val).toNat := by
    decide +kernel
  exact ⟨hcode.1, hall ⟨c, hcode.2⟩ ⟨n, hcode.1⟩ h⟩

theorem symbol_toNat_lt (n : Nat) : (symbol n).toNat < 128 := by
  have hall : ∀ c ∈ alphabet, c.toNat < 128 := List.forall_iff_forall_mem.mp (by decide)
  unfold symbol
  rw [List.getD_eq_getElem?_getD]
  cases hget : alphabet[n]? with
  | none => exact Nat.lt_of_lt_of_le (by decide : 'A'.toNat < 66) (by decide)
  | some c => exact hall c (List.mem_of_getElem? hget)

theorem alphabetByte_toNat (n : Nat) : (alphabetByte n).toNat = (symbol n).toNat := by
  have := symbol_toNat_lt n
  exact byte_toNat (by omega)

theorem digit?_alphabetByte {n : Nat} (h : n < 64) : digit? (alphabetByte n).toNat = some n := by
  rw [alphabetByte_toNat, digit?_symbol h]

theorem alphabetByte_of_digit {b : UInt8} {n : Nat} (h : digit? b.toNat = some n) :
    n < 64 ∧ b = alphabetByte n := by
  obtain ⟨hn, hb⟩ := digit?_some h
  refine ⟨hn, UInt8.toNat_inj.mp ?_⟩
  rw [hb, alphabetByte_toNat]

/-- The bytes of an encoding are the symbols of its sextets. -/
theorem encode_bytes (b : Bytes) : (encode b).bytes = (sextets b).map alphabetByte := by
  have hplain : Secure.Plain (encode b) := Secure.encode_idCode b
  rw [hplain.ascii.bytes_eq]
  unfold encode encodeText
  rw [List.map_map, List.map_map]
  rfl

/-! ## The accumulator

`settled` is the check both firmware decoders end with, in the form of
`PipaSecureProtocol`: less than a symbol left over, and no bit of it set. -/

section
open Pipa.Firmware.SecureDevice (decodeLoop)

/-- One symbol. -/
theorem decodeLoop_symbol {capacity n : Nat} (h : n < 64) (rest output : Bytes) (accumulator bits : Nat) :
    decodeLoop capacity (alphabetByte n :: rest) output accumulator bits =
      if bits ≥ 2 then
        if output.length ≥ capacity then none
        else decodeLoop capacity rest (output ++ [((accumulator * 64 + n) / 2 ^ (bits - 2) % 256).toUInt8])
          ((accumulator * 64 + n) % 2 ^ (bits - 2)) (bits - 2)
      else decodeLoop capacity rest output (accumulator * 64 + n) (bits + 6) := by
  rw [decodeLoop, digit?_alphabetByte h]
  have hbits : bits + 6 ≥ 8 ↔ bits ≥ 2 := by omega
  have hleft : bits + 6 - 8 = bits - 2 := by omega
  simp only [hbits, hleft]

/-- Symbols that were accepted are those of sextets. -/
theorem decodeLoop_symbols {capacity : Nat} {value output : Bytes} {accumulator bits : Nat} {r : Bytes × Nat × Nat}
    (h : decodeLoop capacity value output accumulator bits = some r) :
    ∃ digits : List Nat, (∀ d ∈ digits, d < 64) ∧ value = digits.map alphabetByte := by
  induction value generalizing output accumulator bits with
  | nil => exact ⟨[], nofun, rfl⟩
  | cons character rest ih =>
    cases hdigit : digit? character.toNat with
    | none =>
      rw [decodeLoop, hdigit] at h
      cases h
    | some digit =>
      obtain ⟨hlt, rfl⟩ := alphabetByte_of_digit hdigit
      rw [decodeLoop_symbol hlt] at h
      have hrest : ∃ digits : List Nat, (∀ d ∈ digits, d < 64) ∧ rest = digits.map alphabetByte := by
        split at h
        · split at h
          · cases h
          · exact ih h
        · exact ih h
      obtain ⟨digits, hdigits, rfl⟩ := hrest
      exact ⟨digit :: digits, List.forall_mem_cons.mpr ⟨hlt, hdigits⟩, rfl⟩

/-- What the checks after the loop leave of its result. -/
def settled : Option (Bytes × Nat × Nat) → Option Bytes
  | none => none
  | some (output, accumulator, bits) => if bits ≥ 6 ∨ (bits ≠ 0 ∧ accumulator ≠ 0) then none else some output

/-- Four symbols are three bytes, and nothing is left over. -/
theorem decodeLoop_four {capacity p q r s : Nat} (hp : p < 64) (hq : q < 64) (hr : r < 64) (hs : s < 64)
    (rest output : Bytes) :
    decodeLoop capacity (alphabetByte p :: alphabetByte q :: alphabetByte r :: alphabetByte s :: rest) output 0 0 =
      if output.length + 3 ≤ capacity then
        decodeLoop capacity rest (output ++ [(p * 4 + q / 16).toUInt8, (q % 16 * 16 + r / 4).toUInt8,
          (r % 4 * 64 + s).toUInt8]) 0 0
      else none := by
  rw [decodeLoop_symbol hp, if_neg (by omega), decodeLoop_symbol hq, if_pos (by omega)]
  by_cases h1 : output.length ≥ capacity
  · rw [if_pos h1, if_neg (by omega)]
  rw [if_neg h1, decodeLoop_symbol hr, if_pos (by omega)]
  by_cases h2 : output.length + 1 ≥ capacity
  · rw [if_pos (by simpa using h2), if_neg (by omega)]
  rw [if_neg (by simpa using h2), decodeLoop_symbol hs, if_pos (by omega)]
  by_cases h3 : output.length + 2 ≥ capacity
  · rw [if_pos (by simpa using h3), if_neg (by omega)]
  rw [if_neg (by simpa using h3), if_pos (by omega)]
  have hfirst : ((0 * 64 + p) * 64 + q) / 2 ^ (0 + 6 - 2) % 256 = p * 4 + q / 16 := by omega
  have hsecond : (((0 * 64 + p) * 64 + q) % 2 ^ (0 + 6 - 2) * 64 + r) / 2 ^ (0 + 6 - 2 - 2) % 256 =
      q % 16 * 16 + r / 4 := by omega
  have hthird : ((((0 * 64 + p) * 64 + q) % 2 ^ (0 + 6 - 2) * 64 + r) % 2 ^ (0 + 6 - 2 - 2) * 64 + s) /
      2 ^ (0 + 6 - 2 - 2 - 2) % 256 = r % 4 * 64 + s := by omega
  have hrest : ((((0 * 64 + p) * 64 + q) % 2 ^ (0 + 6 - 2) * 64 + r) % 2 ^ (0 + 6 - 2 - 2) * 64 + s) %
      2 ^ (0 + 6 - 2 - 2 - 2) = 0 := by omega
  rw [hfirst, hsecond, hthird, hrest]
  simp only [List.append_assoc, List.cons_append, List.nil_append]

/-- The bytes of four sextets. -/
theorem sextets_four {p q r s : Nat} (hp : p < 64) (hq : q < 64) (hr : r < 64) (hs : s < 64) (rest : Bytes) :
    sextets ((p * 4 + q / 16).toUInt8 :: (q % 16 * 16 + r / 4).toUInt8 :: (r % 4 * 64 + s).toUInt8 :: rest) =
      p :: q :: r :: s :: sextets rest := by
  rw [sextets]
  simp only [Nat.toUInt8, UInt8.toNat_ofNat', List.cons.injEq, and_true]
  refine ⟨?_, ?_, ?_, ?_⟩ <;> omega

/-- Three symbols are two bytes when the last two bits are clear. -/
theorem settled_three {capacity p q r : Nat} (hp : p < 64) (hq : q < 64) (hr : r < 64) (output : Bytes) :
    settled (decodeLoop capacity [alphabetByte p, alphabetByte q, alphabetByte r] output 0 0) =
      if output.length + 2 ≤ capacity ∧ r % 4 = 0 then
        some (output ++ [(p * 4 + q / 16).toUInt8, (q % 16 * 16 + r / 4).toUInt8])
      else none := by
  rw [decodeLoop_symbol hp, if_neg (by omega), decodeLoop_symbol hq, if_pos (by omega)]
  by_cases h1 : output.length ≥ capacity
  · rw [if_pos h1, if_neg (by omega)]
    rfl
  rw [if_neg h1, decodeLoop_symbol hr, if_pos (by omega)]
  by_cases h2 : output.length + 1 ≥ capacity
  · rw [if_pos (by simpa using h2), if_neg (by omega)]
    rfl
  have hfirst : ((0 * 64 + p) * 64 + q) / 2 ^ (0 + 6 - 2) % 256 = p * 4 + q / 16 := by omega
  have hsecond : (((0 * 64 + p) * 64 + q) % 2 ^ (0 + 6 - 2) * 64 + r) / 2 ^ (0 + 6 - 2 - 2) % 256 =
      q % 16 * 16 + r / 4 := by omega
  have hleft : (((0 * 64 + p) * 64 + q) % 2 ^ (0 + 6 - 2) * 64 + r) % 2 ^ (0 + 6 - 2 - 2) = r % 4 := by omega
  rw [if_neg (by simpa using h2), hfirst, hsecond, hleft, decodeLoop, settled]
  by_cases hclear : r % 4 = 0
  · rw [if_neg (by omega), if_pos (by omega), List.append_assoc]
    rfl
  · rw [if_pos (by omega), if_neg (by omega)]

/-- Two symbols are one byte when the last four bits are clear. -/
theorem settled_two {capacity p q : Nat} (hp : p < 64) (hq : q < 64) (output : Bytes) :
    settled (decodeLoop capacity [alphabetByte p, alphabetByte q] output 0 0) =
      if output.length + 1 ≤ capacity ∧ q % 16 = 0 then some (output ++ [(p * 4 + q / 16).toUInt8]) else none := by
  rw [decodeLoop_symbol hp, if_neg (by omega), decodeLoop_symbol hq, if_pos (by omega)]
  by_cases h1 : output.length ≥ capacity
  · rw [if_pos h1, if_neg (by omega)]
    rfl
  have hfirst : ((0 * 64 + p) * 64 + q) / 2 ^ (0 + 6 - 2) % 256 = p * 4 + q / 16 := by omega
  have hleft : ((0 * 64 + p) * 64 + q) % 2 ^ (0 + 6 - 2) = q % 16 := by omega
  rw [if_neg h1, hfirst, hleft, decodeLoop, settled]
  by_cases hclear : q % 16 = 0
  · rw [if_neg (by omega), if_pos (by omega)]
  · rw [if_pos (by omega), if_neg (by omega)]

theorem settled_one {capacity p : Nat} (hp : p < 64) (output : Bytes) :
    settled (decodeLoop capacity [alphabetByte p] output 0 0) = none := by
  rw [decodeLoop_symbol hp, if_neg (by omega), decodeLoop, settled, if_pos (by omega)]

/-- The loop with its checks: sextets are accepted when they are those of bytes for
which there is room, and these bytes are what it adds to the output. -/
theorem settled_sextets {capacity : Nat} {digits : List Nat} (hdigits : ∀ d ∈ digits, d < 64) {output : Bytes}
    (hroom : output.length ≤ capacity) {o : Bytes} :
    settled (decodeLoop capacity (digits.map alphabetByte) output 0 0) = some o ↔
      ∃ b, o = output ++ b ∧ digits = sextets b ∧ output.length + b.length ≤ capacity := by
  fun_induction unsextets digits generalizing output with
  | case1 p q r s rest ih =>
    simp only [List.forall_mem_cons] at hdigits
    obtain ⟨hp, hq, hr, hs, hrest⟩ := hdigits
    simp only [List.map_cons]
    rw [decodeLoop_four hp hq hr hs]
    constructor
    · intro h
      split at h
      · rename_i hfits
        obtain ⟨b, rfl, rfl, hlen⟩ := (ih hrest (by simpa using hfits)).mp h
        refine ⟨_ :: _ :: _ :: b, by simp only [List.append_assoc, List.cons_append, List.nil_append],
          (sextets_four hp hq hr hs b).symm, ?_⟩
        simp only [List.length_append, List.length_cons, List.length_nil] at hlen ⊢
        omega
      · cases h
    · rintro ⟨b, rfl, hb, hlen⟩
      have hback : unsextets (p :: q :: r :: s :: rest) = some b := by rw [hb, unsextets_sextets]
      obtain ⟨b', hb', rfl⟩ := Option.map_eq_some_iff.mp hback
      rw [sextets_four hp hq hr hs] at hb
      simp only [List.cons.injEq, true_and] at hb
      simp only [List.length_cons] at hlen
      rw [if_pos (by omega)]
      apply (ih hrest (by simp; omega)).mpr
      refine ⟨b', by simp only [List.append_assoc, List.cons_append, List.nil_append], hb, ?_⟩
      simp only [List.length_append, List.length_cons, List.length_nil]
      omega
  | case2 p q r =>
    simp only [List.forall_mem_cons] at hdigits
    obtain ⟨hp, hq, hr, -⟩ := hdigits
    simp only [List.map_cons, List.map_nil]
    rw [settled_three hp hq hr]
    constructor
    · intro h
      split at h
      · rename_i hfits
        refine ⟨_, (Option.some.inj h).symm, ?_, hfits.1⟩
        simp only [sextets, Nat.toUInt8, UInt8.toNat_ofNat', List.cons.injEq, and_true]
        refine ⟨?_, ?_, ?_⟩ <;> omega
      · cases h
    · rintro ⟨b, rfl, hb, hlen⟩
      have hback : unsextets [p, q, r] = some b := by rw [hb, unsextets_sextets]
      obtain rfl := Option.some.inj hback
      simp only [sextets, Nat.toUInt8, UInt8.toNat_ofNat', List.cons.injEq, and_true] at hb
      exact if_pos ⟨hlen, by omega⟩
  | case3 p q =>
    simp only [List.forall_mem_cons] at hdigits
    obtain ⟨hp, hq, -⟩ := hdigits
    simp only [List.map_cons, List.map_nil]
    rw [settled_two hp hq]
    constructor
    · intro h
      split at h
      · rename_i hfits
        refine ⟨_, (Option.some.inj h).symm, ?_, hfits.1⟩
        simp only [sextets, Nat.toUInt8, UInt8.toNat_ofNat', List.cons.injEq, and_true]
        refine ⟨?_, ?_⟩ <;> omega
      · cases h
    · rintro ⟨b, rfl, hb, hlen⟩
      have hback : unsextets [p, q] = some b := by rw [hb, unsextets_sextets]
      obtain rfl := Option.some.inj hback
      simp only [sextets, Nat.toUInt8, UInt8.toNat_ofNat', List.cons.injEq, and_true] at hb
      exact if_pos ⟨hlen, by omega⟩
  | case4 p =>
    simp only [List.forall_mem_cons] at hdigits
    simp only [List.map_cons, List.map_nil]
    rw [settled_one hdigits.1]
    constructor
    · intro h
      cases h
    · rintro ⟨b, -, hb, -⟩
      have hback : unsextets [p] = some b := by rw [hb, unsextets_sextets]
      cases hback
  | case5 =>
    constructor
    · intro h
      have hsame : output = o := by simpa [decodeLoop, settled] using h
      exact ⟨[], by rw [List.append_nil, hsame], rfl, hroom⟩
    · rintro ⟨b, rfl, hb, -⟩
      have hback : unsextets [] = some b := by rw [hb, unsextets_sextets]
      obtain rfl := Option.some.inj hback
      rw [List.append_nil]
      rfl

end

/-! ## The firmware decoders -/

/-- The length of an encoding passes the checks made before the loop. -/
theorem encode_bytes_length (b : Bytes) : (encode b).bytes.length = (b.length * 4 + 2) / 3 := by
  rw [(Secure.Plain.ascii (Secure.encode_idCode b)).bytes_eq, List.length_map, Secure.encode_length]

/-- No symbol is a NUL. -/
theorem encodeBase64Url_terminated (b : Bytes) : 0 ∉ encodeBase64Url b := by
  have hall : ∀ i : Fin 64, alphabetByte i.val ≠ 0 := by decide +kernel
  rw [encodeBase64Url_eq, encode_bytes]
  intro h
  obtain ⟨d, hd, hzero⟩ := List.mem_map.mp h
  exact hall ⟨d, sextets_lt b d hd⟩ hzero

/-- `c_str()` of an encoding. -/
def encodedCString (b : Bytes) : CString := ⟨encodeBase64Url b, encodeBase64Url_terminated b⟩

/-- `PipaSecureProtocol::decodeBase64Url` accepts the encodings of what fits its capacity. -/
theorem protocol_decodes_iff {value : CString} {capacity : Nat} {b : Bytes} :
    Firmware.SecureDevice.decodeBase64Url value capacity = some b ↔
      b ≠ [] ∧ b.length ≤ capacity ∧ value.bytes = (encode b).bytes := by
  have hsettled : Firmware.SecureDevice.decodeBase64Url value capacity =
      if value.bytes.length = 0 ∨ value.bytes.length % 4 = 1 then none
      else settled (Firmware.SecureDevice.decodeLoop capacity value.bytes [] 0 0) := by
    unfold Firmware.SecureDevice.decodeBase64Url
    dsimp only
    split
    · rfl
    · cases Firmware.SecureDevice.decodeLoop capacity value.bytes [] 0 0 with
      | none => rfl
      | some r => rfl
  rw [hsettled]
  generalize value.bytes = value
  constructor
  · intro h
    split at h
    · cases h
    · rename_i hlength
      have hloop : ∃ r, Firmware.SecureDevice.decodeLoop capacity value [] 0 0 = some r := by
        cases hr : Firmware.SecureDevice.decodeLoop capacity value [] 0 0 with
        | none =>
          rw [hr] at h
          cases h
        | some r => exact ⟨r, rfl⟩
      obtain ⟨r, hr⟩ := hloop
      obtain ⟨digits, hdigits, rfl⟩ := decodeLoop_symbols hr
      obtain ⟨b', hb', rfl, hlen⟩ := (settled_sextets hdigits (Nat.zero_le capacity)).mp h
      obtain rfl : b = b' := hb'
      refine ⟨?_, by simpa using hlen, (encode_bytes b).symm⟩
      rintro rfl
      exact hlength (.inl rfl)
  · rintro ⟨hne, hlen, rfl⟩
    have hpos := List.length_pos_of_ne_nil hne
    rw [encode_bytes_length, if_neg (by omega), encode_bytes]
    exact (settled_sextets (sextets_lt b) (Nat.zero_le capacity)).mpr ⟨b, rfl, rfl, by simpa using hlen⟩

/-- The loop of `PipaSecureHandshake` is the same one. -/
theorem handshake_decodeLoop (length : Nat) (value output : Bytes) (accumulator bits : Nat) :
    Secure.Firmware.decodeLoop length value output accumulator bits =
      (Firmware.SecureDevice.decodeLoop length value output accumulator bits).map (fun r => (r.1, r.2.2)) := by
  induction value generalizing output accumulator bits with
  | nil => rfl
  | cons character rest ih =>
    rw [Secure.Firmware.decodeLoop, Firmware.SecureDevice.decodeLoop]
    cases digit? character.toNat with
    | none => rfl
    | some digit =>
      simp only [ih]
      split
      · split
        · rfl
        · rfl
      · rfl

/-- `PipaSecureHandshake::decodeBase64Url` accepts the encodings of the length it expects. -/
theorem handshake_decodes_iff {value : CString} {n : Nat} {b : Fixed n} :
    Secure.Firmware.decodeBase64Url value n = some b ↔ b.val ≠ [] ∧ value.bytes = (encode b.val).bytes := by
  constructor
  · intro h
    have hvalue := Secure.Firmware.decodeBase64Url_eq_some h
    refine ⟨?_, hvalue⟩
    intro hempty
    -- the encoding of nothing is the empty text, which is refused before the loop
    have hlength : value.bytes.length = 0 := by
      rw [hvalue, hempty]
      rfl
    unfold Secure.Firmware.decodeBase64Url at h
    dsimp only at h
    rw [if_pos (.inl hlength)] at h
    cases h
  · rintro ⟨hne, hvalue⟩
    have hlen := b.property
    have hpos := List.length_pos_of_ne_nil hne
    have hsettled : settled (Firmware.SecureDevice.decodeLoop n ((sextets b.val).map alphabetByte) [] 0 0) =
        some b.val :=
      (settled_sextets (sextets_lt b.val) (Nat.zero_le n)).mpr ⟨b.val, rfl, rfl, by simp [hlen]⟩
    unfold Secure.Firmware.decodeBase64Url
    dsimp only
    rw [hvalue, encode_bytes_length, if_neg (by omega), handshake_decodeLoop]
    rw [← encode_bytes] at hsettled
    cases hloop : Firmware.SecureDevice.decodeLoop n (encode b.val).bytes [] 0 0 with
    | none =>
      rw [hloop] at hsettled
      cases hsettled
    | some r =>
      obtain ⟨output, accumulator, bits⟩ := r
      rw [hloop, settled] at hsettled
      split at hsettled
      · cases hsettled
      · rename_i hleft
        obtain rfl : output = b.val := Option.some.inj hsettled
        have hbits : bits < 6 := by omega
        simp only [Option.map_some, hlen, dif_pos, hbits, encodeBase64Url_eq, and_self, if_pos]

/-! ## The Swift decoder

Swift strings are sequences of scalars here; where their other structure could show,
the decoder has already refused all but letters, digits, `-` and `_`. -/

namespace PipaMobileCodec

def minus : CodePoint := CodePoint.ofChar '-'
def plus : CodePoint := CodePoint.ofChar '+'
def underscore : CodePoint := CodePoint.ofChar '_'
def slash : CodePoint := CodePoint.ofChar '/'
def equalsSign : CodePoint := CodePoint.ofChar '='

/-- `replacingOccurrences(of:with:)` of one character by another. -/
def replacing (old new : CodePoint) (s : PyStr) : PyStr := s.map (fun c => if c = old then new else c)

/-- Symbol `n` of the standard alphabet. -/
def standardSymbol (n : Nat) : CodePoint :=
  if n = 62 then plus else if n = 63 then slash else CodePoint.ofChar (symbol n)

/-- `base64EncodedString()`: the standard alphabet, padded to a multiple of four. -/
def base64EncodedString (data : Bytes) : PyStr :=
  let symbols := (sextets data).map standardSymbol
  symbols ++ List.replicate ((4 - symbols.length % 4) % 4) equalsSign

/-- `encodeBase64URL`. -/
def encodeBase64URL (data : Bytes) : PyStr :=
  (replacing slash underscore (replacing plus minus (base64EncodedString data))).filter (· ≠ equalsSign)

/-- The bytes `decodeBase64URL` lets through. -/
def isBase64URLByte (b : UInt8) : Bool :=
  (0x41 ≤ b.toNat && b.toNat ≤ 0x5A) || (0x61 ≤ b.toNat && b.toNat ≤ 0x7A) || (0x30 ≤ b.toNat && b.toNat ≤ 0x39) ||
    b.toNat == 0x2D || b.toNat == 0x5F

/-- `decodeBase64URL`; `base64Encoded` is `Data(base64Encoded:)`. -/
def decodeBase64URL (base64Encoded : PyStr → Option Bytes) (value : PyStr) (expectedCount : Option Nat) :
    Option Bytes :=
  if value.isEmpty || !value.bytes.all isBase64URLByte || value.bytes.length % 4 == 1 then none
  else
    let standard := replacing underscore slash (replacing minus plus value)
    let padded := standard ++ List.replicate ((4 - standard.bytes.length % 4) % 4) equalsSign
    match base64Encoded padded with
    | none => none
    | some data =>
      if encodeBase64URL data ≠ value then none
      else if expectedCount.any (fun n => data.length ≠ n) then none
      else some data

/-- Back and forth between the alphabets, symbol by symbol. -/
theorem symbol_exchange {n : Nat} (h : n < 64) :
    standardSymbol n ≠ equalsSign ∧
      (let c := if standardSymbol n = plus then minus else standardSymbol n
       (if c = slash then underscore else c) = CodePoint.ofChar (symbol n)) ∧
      (let c := if CodePoint.ofChar (symbol n) = minus then plus else CodePoint.ofChar (symbol n)
       (if c = underscore then slash else c) = standardSymbol n) := by
  have hall : ∀ i : Fin 64, standardSymbol i.val ≠ equalsSign ∧
      (let c := if standardSymbol i.val = plus then minus else standardSymbol i.val
       (if c = slash then underscore else c) = CodePoint.ofChar (symbol i.val)) ∧
      (let c := if CodePoint.ofChar (symbol i.val) = minus then plus else CodePoint.ofChar (symbol i.val)
       (if c = underscore then slash else c) = standardSymbol i.val) := by decide +kernel
  exact hall ⟨n, h⟩

theorem encodeBase64URL_eq (data : Bytes) : encodeBase64URL data = encode data := by
  have hsymbols : (replacing slash underscore (replacing plus minus ((sextets data).map standardSymbol))) =
      encode data := by
    unfold replacing encode encodeText
    rw [List.map_map, List.map_map, List.map_map]
    apply List.map_congr_left
    intro n hn
    exact (symbol_exchange (sextets_lt data n hn)).2.1
  have hpadding (k : Nat) : replacing slash underscore (replacing plus minus (List.replicate k equalsSign)) =
      List.replicate k equalsSign := by
    unfold replacing
    rw [List.map_replicate, List.map_replicate]
    rfl
  have hkeep : (encode data).filter (· ≠ equalsSign) = encode data := by
    apply List.filter_eq_self.mpr
    intro c hc
    have hcode := Secure.encode_idCode data c hc
    apply decide_eq_true
    rintro rfl
    exact absurd hcode (by decide)
  have hdrop (k : Nat) : (List.replicate k equalsSign).filter (· ≠ equalsSign) = [] := by
    rw [List.filter_replicate, if_neg (by simp)]
  have happend (s t : PyStr) : replacing slash underscore (replacing plus minus (s ++ t)) =
      replacing slash underscore (replacing plus minus s) ++ replacing slash underscore (replacing plus minus t) := by
    unfold replacing
    rw [List.map_append, List.map_append]
  unfold encodeBase64URL base64EncodedString
  rw [happend, hsymbols, hpadding, List.filter_append, hkeep, hdrop, List.append_nil]

/-- What is decoded of an encoding is its padded standard form. -/
theorem padded_encode (data : Bytes) :
    let standard := replacing underscore slash (replacing minus plus (encode data))
    standard ++ List.replicate ((4 - standard.bytes.length % 4) % 4) equalsSign = base64EncodedString data := by
  have hstandard : replacing underscore slash (replacing minus plus (encode data)) =
      (sextets data).map standardSymbol := by
    unfold replacing encode encodeText
    rw [List.map_map, List.map_map, List.map_map]
    apply List.map_congr_left
    intro n hn
    exact (symbol_exchange (sextets_lt data n hn)).2.2
  have hascii : PyStr.Ascii ((sextets data).map standardSymbol) := by
    have hall : ∀ i : Fin 64, (standardSymbol i.val).val < 0x80 := by decide
    intro c hc
    obtain ⟨n, hn, rfl⟩ := List.mem_map.mp hc
    exact hall ⟨n, sextets_lt data n hn⟩
  intro standard
  show standard ++ _ = _
  have hlength : standard.bytes.length = ((sextets data).map standardSymbol).length := by
    show (replacing underscore slash (replacing minus plus (encode data))).bytes.length = _
    rw [hstandard, hascii.bytes_eq, List.length_map]
  rw [hlength]
  show replacing underscore slash (replacing minus plus (encode data)) ++ _ = _
  rw [hstandard]
  rfl

end PipaMobileCodec

/-! ## One encoding -/

/-- The lengths an optional expected length admits. -/
def Expected (n : Option Nat) (b : Bytes) : Prop := ∀ m, n = some m → b.length = m

/-- A decoder that accepts exactly what its encoder writes for non-empty admissible bytes. -/
structure Canonical {σ : Type} (spell : Bytes → σ) (decode : σ → Option Bytes) (admissible : Bytes → Prop) : Prop where
  accepts_iff : ∀ s b, decode s = some b ↔ b ≠ [] ∧ admissible b ∧ s = spell b

section
variable {σ : Type} {spell : Bytes → σ} {decode : σ → Option Bytes} {admissible : Bytes → Prop}

theorem Canonical.round_trip (h : Canonical spell decode admissible) {b : Bytes} (hne : b ≠ []) (hb : admissible b) :
    decode (spell b) = some b :=
  (h.accepts_iff _ b).mpr ⟨hne, hb, rfl⟩

theorem Canonical.inj (h : Canonical spell decode admissible) {s t : σ} {b : Bytes} (hs : decode s = some b)
    (ht : decode t = some b) : s = t :=
  ((h.accepts_iff s b).mp hs).2.2.trans ((h.accepts_iff t b).mp ht).2.2.symm

end

theorem python_canonical (n : Option Nat) : Canonical encode (fun s => decodeText s n) (Expected n) where
  accepts_iff s b := by
    constructor
    · intro h
      obtain ⟨hs, hn⟩ := Secure.decodeText_eq_some h
      refine ⟨?_, hn, hs⟩
      rintro rfl
      rw [hs] at h
      cases h
    · rintro ⟨hne, hn, rfl⟩
      exact Secure.decodeText_encode hne hn

theorem eq_encodedCString {v : CString} {b : Bytes} : v = encodedCString b ↔ v.bytes = (encode b).bytes := by
  rw [CString.ext_iff, ← encodeBase64Url_eq]
  rfl

theorem handshake_canonical (n : Nat) :
    Canonical encodedCString (fun v => (Secure.Firmware.decodeBase64Url v n).map Subtype.val)
      (fun b => b.length = n) where
  accepts_iff v b := by
    rw [Option.map_eq_some_iff, eq_encodedCString]
    constructor
    · rintro ⟨f, hf, rfl⟩
      obtain ⟨hne, hv⟩ := handshake_decodes_iff.mp hf
      exact ⟨hne, f.property, hv⟩
    · rintro ⟨hne, hlen, hv⟩
      exact ⟨⟨b, hlen⟩, handshake_decodes_iff.mpr ⟨hne, hv⟩, rfl⟩

theorem protocol_canonical (capacity : Nat) :
    Canonical encodedCString (fun v => Firmware.SecureDevice.decodeBase64Url v capacity)
      (fun b => b.length ≤ capacity) where
  accepts_iff v b := by
    rw [eq_encodedCString]
    exact protocol_decodes_iff

/-- The key of the server is read for its exact length. -/
theorem serverKey_iff (platform : Firmware.SecurePlatform) (key : Fixed 32) :
    Firmware.SecureDevice.decodeServerKey platform = some key ↔
      platform.serverPublicKey = some (encodedCString key.val) := by
  have hne : key.val ≠ [] := by
    intro hempty
    have := key.property
    rw [hempty] at this
    cases this
  have hkey : Firmware.SecureDevice.decodeBase64Url (encodedCString key.val) 32 = some key.val :=
    (protocol_canonical 32).round_trip hne key.property.le
  unfold Firmware.SecureDevice.decodeServerKey
  constructor
  · intro h
    split at h
    · cases h
    · rename_i text htext
      split at h
      · cases h
      · rename_i bytes hbytes
        split at h
        · obtain rfl := Option.some.inj h
          rw [htext, ((protocol_canonical 32).accepts_iff text bytes).mp hbytes |>.2.2]
        · cases h
  · intro h
    rw [h]
    simp only [hkey]
    exact dif_pos key.property

open PipaMobileCodec in
theorem swift_canonical {base64Encoded : PyStr → Option Bytes}
    (hstandard : ∀ data, base64Encoded (base64EncodedString data) = some data) (n : Option Nat) :
    Canonical encodeBase64URL (fun s => decodeBase64URL base64Encoded s n) (Expected n) where
  accepts_iff s b := by
    constructor
    · intro h
      simp only [decodeBase64URL] at h
      split at h
      · cases h
      · rename_i hguard
        split at h
        · cases h
        · rename_i data hdata
          split at h
          · cases h
          · rename_i hsame
            split at h
            · cases h
            · rename_i hcount
              obtain rfl := Option.some.inj h
              refine ⟨?_, ?_, (not_not.mp hsame).symm⟩
              · rintro rfl
                have hempty : s = [] := (not_not.mp hsame).symm.trans (by rfl)
                rw [hempty] at hguard
                exact hguard rfl
              · rintro m rfl
                simpa using hcount
    · rintro ⟨hne, hn, rfl⟩
      rw [encodeBase64URL_eq]
      have hplain : Secure.Plain (encode b) := Secure.encode_idCode b
      have hlength := encode_bytes_length b
      have hpos := List.length_pos_of_ne_nil hne
      have hempty : (encode b).isEmpty = false := by
        rw [List.isEmpty_eq_false_iff]
        intro hnil
        rw [hnil] at hlength
        have : (0 : Nat) = (b.length * 4 + 2) / 3 := hlength
        omega
      have hbytes : (encode b).bytes.all isBase64URLByte = true := by
        rw [encode_bytes, List.all_map, List.all_eq_true]
        intro d hd
        have hall : ∀ i : Fin 64, isBase64URLByte (alphabetByte i.val) = true := by decide +kernel
        exact hall ⟨d, sextets_lt b d hd⟩
      have hresidue : ((encode b).bytes.length % 4 == 1) = false := by
        rw [hlength, beq_eq_false_iff_ne]
        omega
      have hcount : ¬ (n.any (fun m => b.length ≠ m)) = true := by
        cases n with
        | none => exact Bool.false_ne_true
        | some m => simpa using hn m rfl
      simp only [decodeBase64URL, hempty, hbytes, hresidue, padded_encode, hstandard, encodeBase64URL_eq, ne_eq,
        not_true, if_false, if_neg hcount, Bool.not_true, Bool.or_self, Bool.false_eq_true]

/-- Every decoder accepts exactly the canonical encodings of non-empty byte strings of an
admissible length, so each inverts its encoder, none gives two strings the same bytes, and on
one text, as characters or as a C string in UTF-8, they agree. -/
theorem base64url_canonical {base64Encoded : PyStr → Option Bytes}
    (hstandard : ∀ data, base64Encoded (PipaMobileCodec.base64EncodedString data) = some data) :
    (∀ n, Canonical encode (fun s => decodeText s n) (Expected n)) ∧
    (∀ n, Canonical encodedCString (fun v => (Secure.Firmware.decodeBase64Url v n).map Subtype.val)
      (fun b => b.length = n)) ∧
    (∀ capacity, Canonical encodedCString (fun v => Firmware.SecureDevice.decodeBase64Url v capacity)
      (fun b => b.length ≤ capacity)) ∧
    (∀ n, Canonical PipaMobileCodec.encodeBase64URL (fun s => PipaMobileCodec.decodeBase64URL base64Encoded s n)
      (Expected n)) ∧
    (∀ platform key, Firmware.SecureDevice.decodeServerKey platform = some key ↔
      platform.serverPublicKey = some (encodedCString key.val)) ∧
    ∀ (s : PyStr) (v : CString), s.encode = some v.bytes → ∀ b n, b.length = n →
      (decodeText s (some n) = some b ↔ (Secure.Firmware.decodeBase64Url v n).map Subtype.val = some b) ∧
      (decodeText s none = some b ↔ decodeText s (some n) = some b) ∧
      (∀ capacity, n ≤ capacity →
        (decodeText s none = some b ↔ Firmware.SecureDevice.decodeBase64Url v capacity = some b)) ∧
      (∀ m, decodeText s m = some b ↔ PipaMobileCodec.decodeBase64URL base64Encoded s m = some b) := by
  refine ⟨python_canonical, handshake_canonical, protocol_canonical, swift_canonical hstandard, serverKey_iff, ?_⟩
  rintro s v hv b n rfl
  have hbytes : v.bytes = (encode b).bytes ↔ s = encode b := by
    constructor
    · intro hsame
      have hencode : (encode b).encode = some (encode b).bytes :=
        (Secure.Plain.ascii (Secure.encode_idCode b)).encode
      rw [hsame] at hv
      exact PyStr.encode_inj hv hencode
    · rintro rfl
      rw [(Secure.Plain.ascii (Secure.encode_idCode b)).encode] at hv
      exact (Option.some.inj hv).symm
  have hexpected : Expected (some b.length) b := fun _ hm => Option.some.inj hm
  refine ⟨?_, ?_, ?_, ?_⟩
  · rw [(python_canonical _).accepts_iff, (handshake_canonical _).accepts_iff, eq_encodedCString, hbytes]
    simp [hexpected]
  · rw [(python_canonical _).accepts_iff, (python_canonical _).accepts_iff]
    simp [Expected]
  · intro capacity hfits
    rw [(python_canonical _).accepts_iff, (protocol_canonical _).accepts_iff, eq_encodedCString, hbytes]
    simp [hfits, Expected]
  · intro m
    rw [(python_canonical _).accepts_iff, (swift_canonical hstandard _).accepts_iff,
      PipaMobileCodec.encodeBase64URL_eq]

namespace PipaMobileCodec

/-- Strict decoding of the standard alphabet: whole groups, at most two `=` at the end. -/
def standardDecode (s : PyStr) : Option Bytes :=
  let symbols := s.rdropWhile (· = equalsSign)
  if s.length % 4 ≠ 0 ∨ s.length - symbols.length > 2 ∨ symbols.any (fun c => c = minus ∨ c = underscore) then none
  else decodeCodes ((replacing slash underscore (replacing plus minus symbols)).map CodePoint.val)

theorem standardDecode_encoded (data : Bytes) : standardDecode (base64EncodedString data) = some data := by
  have hlength : ((sextets data).map standardSymbol).length = (data.length * 4 + 2) / 3 := by
    have := encodeText_length data
    unfold encodeText at this
    rwa [List.length_map] at this ⊢
  have hsymbols : (base64EncodedString data).rdropWhile (· = equalsSign) = (sextets data).map standardSymbol := by
    unfold base64EncodedString
    rw [List.rdropWhile, List.reverse_append, List.reverse_replicate]
    have hpadding (k : Nat) (t : PyStr) :
        (List.replicate k equalsSign ++ t).dropWhile (· = equalsSign) = t.dropWhile (· = equalsSign) := by
      rw [List.dropWhile_append, List.dropWhile_replicate]
      simp
    rw [hpadding]
    apply List.rdropWhile_eq_self_iff.mpr
    intro hne
    obtain ⟨n, hn, hlast⟩ := List.mem_map.mp (List.getLast_mem hne)
    rw [← hlast, decide_eq_true_eq]
    exact (symbol_exchange (sextets_lt data n hn)).1
  have hforeign : ((sextets data).map standardSymbol).any (fun c => c = minus ∨ c = underscore) = false := by
    have hall : ∀ i : Fin 64, standardSymbol i.val ≠ minus ∧ standardSymbol i.val ≠ underscore := by decide +kernel
    rw [List.any_eq_false]
    intro c hc
    obtain ⟨n, hn, rfl⟩ := List.mem_map.mp hc
    simpa using hall ⟨n, sextets_lt data n hn⟩
  have hback : replacing slash underscore (replacing plus minus ((sextets data).map standardSymbol)) = encode data := by
    unfold replacing encode encodeText
    rw [List.map_map, List.map_map, List.map_map]
    apply List.map_congr_left
    intro n hn
    exact (symbol_exchange (sextets_lt data n hn)).2.1
  have htotal : (base64EncodedString data).length =
      ((sextets data).map standardSymbol).length + (4 - ((sextets data).map standardSymbol).length % 4) % 4 := by
    unfold base64EncodedString
    rw [List.length_append, List.length_replicate]
  have hcodes : (encode data).map CodePoint.val = (encodeText data).map Char.toNat := by
    unfold encode
    rw [List.map_map]
    rfl
  unfold standardDecode
  simp only [hsymbols, hforeign, hback, hcodes, decodeCodes_encodeText, htotal, hlength]
  apply if_neg
  generalize hk : (data.length * 4 + 2) / 3 = k
  have hresidue : k % 4 ≠ 1 := by omega
  simp only [Bool.false_eq_true, or_false]
  omega

end PipaMobileCodec

theorem base64url_canonical_standard :
    Firmware.SecureDevice.decodeBase64Url (encodedCString [0xFB, 0xFF]) 32 = some [0xFB, 0xFF] ∧
    PipaMobileCodec.decodeBase64URL PipaMobileCodec.standardDecode (encode [0xFB, 0xFF]) none = some [0xFB, 0xFF] := by
  obtain ⟨-, -, hprotocol, hswift, -, -⟩ := base64url_canonical PipaMobileCodec.standardDecode_encoded
  refine ⟨(hprotocol 32).round_trip (by decide) (by decide), ?_⟩
  rw [← PipaMobileCodec.encodeBase64URL_eq]
  exact (hswift none).round_trip (by decide) nofun

end Pipa.Link
