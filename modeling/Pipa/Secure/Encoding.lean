import Pipa.Lib.Json
import Pipa.Lib.Base64Url

/- How protocol v2 writes its fields down, on both sides: identifiers over
   `[A-Za-z0-9_-]`, canonical unpadded base64url, and canonical JSON
   (`secure_session.py`; `pipa_secure_handshake.cpp`, `pipa_secure_session.cpp`).

   Python text is a `PyStr`; an Arduino `String` and a C string are the bytes
   they hold, without the terminating NUL. -/
namespace Pipa.Secure
open Pipa.Lib

def secureProtocolVersion : Int := 2

/-! ## Identifiers -/

/-- `[A-Za-z0-9_-]`, by character code. -/
def idCode (c : Nat) : Bool :=
  (97 ≤ c && c ≤ 122) || (65 ≤ c && c ≤ 90) || (48 ≤ c && c ≤ 57) || c == 45 || c == 95

/-- The pattern of `_session_id` and `_identity_id`: `^[A-Za-z0-9_-]{1,128}$`. -/
def isIdentifier (s : PyStr) : Bool :=
  1 ≤ s.length && s.length ≤ 128 && s.all (fun c => idCode c.val)

/-- `validIdentifier` and `validSessionId` of the firmware, on a C string. -/
def validIdentifier (s : Bytes) : Bool :=
  !s.isEmpty && s.length ≤ 128 && s.all (fun c => idCode c.toNat)

/-! ## base64url -/

/-- `_encode`. -/
def encode (value : Bytes) : PyStr := (Base64Url.encodeText value).map CodePoint.ofChar

/-- `_decode` of a text; `none` is its `HandshakeError`. -/
def decodeText (value : PyStr) (expectedLength : Option Nat) : Option Bytes :=
  if value = [] then none
  else match Base64Url.decodeCodes (value.map CodePoint.val) with
    | none => none
    | some decoded =>
      if encode decoded ≠ value then none
      else if expectedLength.any (fun n => decoded.length ≠ n) then none
      else some decoded

/-- `_decode`. -/
def decode (value : Value) (expectedLength : Option Nat) : Option Bytes :=
  match value with
  | .str s => decodeText s expectedLength
  | _ => none

theorem decodeText_eq_some {value : PyStr} {n : Option Nat} {b : Bytes} (h : decodeText value n = some b) :
    value = encode b ∧ ∀ m, n = some m → b.length = m := by
  unfold decodeText at h
  split at h
  · cases h
  split at h
  · cases h
  split at h
  · cases h
  split at h
  · cases h
  · rename_i henc hlen
    obtain rfl := Option.some.inj h
    refine ⟨(not_not.mp henc).symm, ?_⟩
    rintro m rfl
    simpa using hlen

theorem encode_inj {a b : Bytes} (h : encode a = encode b) : a = b :=
  Base64Url.encodeText_inj (List.map_injective_iff.mpr (fun _ _ => CodePoint.ofChar_inj.mp) h)

theorem encode_length (b : Bytes) : (encode b).length = (b.length * 4 + 2) / 3 := by
  rw [encode, List.length_map, Base64Url.encodeText_length]

/-- What was encoded is decoded again, unless it is empty. -/
theorem decodeText_encode {b : Bytes} (hne : b ≠ []) {n : Option Nat} (hn : ∀ m, n = some m → b.length = m) :
    decodeText (encode b) n = some b := by
  have hempty : encode b ≠ [] := by
    intro h
    have hlen := encode_length b
    rw [h, List.length_nil] at hlen
    have : b.length = 0 := by omega
    exact hne (List.length_eq_zero_iff.mp this)
  have hcodes : (encode b).map CodePoint.val = (Base64Url.encodeText b).map Char.toNat := by
    unfold encode
    rw [List.map_map]
    rfl
  have hany : ¬ n.any (fun m => b.length ≠ m) = true := by
    cases n with
    | none => exact Bool.false_ne_true
    | some m => simpa using hn m rfl
  simp only [decodeText, if_neg hempty, hcodes, Base64Url.decodeCodes_encodeText, ne_eq, not_true,
    if_false, if_neg hany]

theorem encode_idCode (b : Bytes) : ∀ c ∈ encode b, idCode c.val = true := by
  intro c hc
  obtain ⟨ch, hch, rfl⟩ := List.mem_map.mp hc
  have all : Base64Url.alphabet.all (fun ch => idCode ch.toNat) = true := by decide
  exact List.all_eq_true.mp all ch (Base64Url.symbol_mem hch)

/-! ## Plain text -/

/-- Characters that stand for themselves in JSON and in UTF-8: all that the validators let
through. -/
def Plain (s : PyStr) : Prop := ∀ c ∈ s, idCode c.val = true

instance (s : PyStr) : Decidable (Plain s) :=
  inferInstanceAs (Decidable (∀ c ∈ s, idCode c.val = true))

theorem isIdentifier_plain {s : PyStr} (h : isIdentifier s = true) : Plain s := by
  simp only [isIdentifier, Bool.and_eq_true, List.all_eq_true] at h
  exact h.2

theorem decodeText_plain {s : PyStr} {n : Option Nat} (h : (decodeText s n).isSome = true) : Plain s := by
  obtain ⟨b, hb⟩ := Option.isSome_iff_exists.mp h
  rw [(decodeText_eq_some hb).1]
  exact encode_idCode b

theorem idCode_bounds {c : Nat} (h : idCode c = true) : 0x23 ≤ c ∧ c < 0x80 ∧ c ≠ 0x5C := by
  simp only [idCode, Bool.or_eq_true, Bool.and_eq_true, decide_eq_true_eq, beq_iff_eq] at h
  omega

theorem Plain.ascii {s : PyStr} (h : Plain s) : s.Ascii := fun c hc => (idCode_bounds (h c hc)).2.1

/-- `json.dumps` only adds the quotes. -/
theorem Plain.dumpStr {s : PyStr} (h : Plain s) :
    dumpStr s = PyStr.ofString "\"" ++ (s ++ PyStr.ofString "\"") := by
  have hesc : s.flatMap escapeChar = s := by
    induction s with
    | nil => rfl
    | cons c s ih =>
      have hb := idCode_bounds (h c List.mem_cons_self)
      have hc : escapeChar c = [c] := by
        unfold escapeChar
        simp only [show c.val ≠ 0x22 by omega, show c.val ≠ 0x5C by omega, show c.val ≠ 0x08 by omega,
          show c.val ≠ 0x0C by omega, show c.val ≠ 0x0A by omega, show c.val ≠ 0x0D by omega,
          show c.val ≠ 0x09 by omega, show ¬ c.val < 0x20 by omega, if_false]
      rw [List.flatMap_cons, hc, ih (fun d hd => h d (List.mem_cons_of_mem c hd))]
      rfl
  rw [Lib.dumpStr, hesc, List.append_assoc]

/-- No quote among the bytes, so a quote ends the field. -/
theorem Plain.no_quote {s : PyStr} (h : Plain s) : (0x22 : UInt8) ∉ s.bytes := by
  rw [h.ascii.bytes_eq]
  intro hmem
  obtain ⟨c, hc, hq⟩ := List.mem_map.mp hmem
  have hb := idCode_bounds (h c hc)
  have : c.val = 0x22 := toUInt8_inj (by omega) (by decide) hq
  omega

/-- No NUL either, so a C string is read to its end. -/
theorem Plain.no_nul {s : PyStr} (h : Plain s) : (0 : UInt8) ∉ s.bytes := by
  rw [h.ascii.bytes_eq]
  intro hmem
  obtain ⟨c, hc, hq⟩ := List.mem_map.mp hmem
  have hb := idCode_bounds (h c hc)
  have : c.val = 0 := toUInt8_inj (by omega) (by decide) hq
  omega

/-- The firmware's identifiers are the bytes of Python's. -/
theorem validIdentifier_iff {b : Bytes} :
    validIdentifier b = true ↔ ∃ s, isIdentifier s = true ∧ b = s.bytes := by
  constructor
  · intro h
    simp only [validIdentifier, Bool.and_eq_true, List.all_eq_true, decide_eq_true_eq] at h
    let s : PyStr := b.map (fun c => ⟨c.toNat, by have := c.toNat_lt; omega⟩)
    have hplain : Plain s := by
      intro c hc
      obtain ⟨u, hu, rfl⟩ := List.mem_map.mp hc
      exact h.2 u hu
    refine ⟨s, ?_, ?_⟩
    · have hlen : s.length = b.length := List.length_map _
      have hpos : 1 ≤ b.length := by
        cases b with
        | nil => simp at h
        | cons _ _ => simp
      simp only [isIdentifier, Bool.and_eq_true, List.all_eq_true, decide_eq_true_eq, hlen]
      exact ⟨⟨hpos, h.1.2⟩, hplain⟩
    · rw [hplain.ascii.bytes_eq, List.map_map]
      exact (List.map_id'' (fun c => UInt8.ofNat_toNat) b).symm
  · rintro ⟨s, hs, rfl⟩
    have hplain := isIdentifier_plain hs
    simp only [isIdentifier, Bool.and_eq_true, List.all_eq_true, decide_eq_true_eq] at hs
    rw [hplain.ascii.bytes_eq]
    simp only [validIdentifier, Bool.and_eq_true, List.all_eq_true, decide_eq_true_eq, List.length_map]
    refine ⟨⟨?_, hs.1.2⟩, ?_⟩
    · cases s with
      | nil => simp at hs
      | cons _ _ => simp
    · intro u hu
      obtain ⟨c, hc, rfl⟩ := List.mem_map.mp hu
      have := (idCode_bounds (hplain c hc)).2.1
      have hval : (c.val.toUInt8).toNat = c.val := by simp; omega
      rw [hval]; exact hplain c hc

/-- Both validators let the same texts through. -/
theorem validIdentifier_bytes (s : PyStr) : validIdentifier s.bytes = isIdentifier s := by
  rw [Bool.eq_iff_iff]
  constructor
  · intro h
    obtain ⟨t, ht, hbytes⟩ := validIdentifier_iff.mp h
    have htp := (isIdentifier_plain ht).ascii
    have hs : s.Ascii := by
      refine PyStr.ascii_of_bytes fun b hb => ?_
      rw [hbytes, htp.bytes_eq] at hb
      obtain ⟨c, hc, rfl⟩ := List.mem_map.mp hb
      have := htp c hc
      rw [byte_toNat (by omega)]
      exact this
    rw [hs.bytes_inj htp hbytes]; exact ht
  · intro h
    exact validIdentifier_iff.mpr ⟨s, h, rfl⟩

/-! ## Canonical JSON -/

/-- A text literal of the firmware. -/
def literal (s : String) : Bytes := (PyStr.ofString s).bytes

/-- `_canonical`; `none` is its error. -/
def canonical (value : Object) : Option Bytes := (dumps true (.dict value)).bind PyStr.encode

end Pipa.Secure
