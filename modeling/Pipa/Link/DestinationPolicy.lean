import Pipa.Lib.SwiftText
import Pipa.Tools.Contacts

/- `PipaMobileDestinationPolicy`, and the rules of the computer it repeats.

   The phone looks at the scalars first, and at the characters of what is left; so a
   destination that passes is printable ASCII, where both are the same. -/
namespace Pipa.Link
open Pipa.Lib
open Tools.Contacts (isDigit isPhone validateSnowflake)

/-! ## The policy of the phone -/

namespace PipaMobileDestinationPolicy
variable (t : SwiftText)

def whatsappPhoneCharacters : PyStr := PyStr.ofString "0123456789+ ()-."

/-- A character of `" ().-"`. -/
def isFormatting (c : PyStr) : Bool := c ∈ (PyStr.ofString " ().-").map (fun c => [c])

def isDigitByte (b : UInt8) : Bool := 0x30 ≤ b.toNat && b.toNat ≤ 0x39

def zero : PyStr := [CodePoint.ofChar '0']
def plus : PyStr := [CodePoint.ofChar '+']

/-- `normalizePhone`. -/
def normalizePhone (value : PyStr) : Option PyStr :=
  let trimmed := t.trim value
  if trimmed.isEmpty || !trimmed.all (fun c => c ∈ whatsappPhoneCharacters) then none
  else
    let withoutFormatting := t.filter (fun c => !isFormatting c) trimmed
    let digits :=
      if t.first withoutFormatting = some plus then t.dropFirst withoutFormatting else withoutFormatting
    if (7 ≤ digits.bytes.length && digits.bytes.length ≤ 15) && t.first digits ≠ some zero &&
        digits.bytes.all isDigitByte then some digits
    else none

/-- `normalizeSnowflake`. -/
def normalizeSnowflake (value : PyStr) : Option PyStr :=
  let trimmed := t.trim value
  if (17 ≤ trimmed.bytes.length && trimmed.bytes.length ≤ 20) && t.first trimmed ≠ some zero &&
      trimmed.bytes.all isDigitByte then some trimmed
  else none

end PipaMobileDestinationPolicy

open PipaMobileDestinationPolicy

/-! ## Digits -/

variable {t : SwiftText} {s : PyStr}

theorem isDigit_printable {c : CodePoint} (h : isDigit c = true) : c.isPrintable = true := by
  simp only [isDigit, CodePoint.isPrintable, Bool.and_eq_true, decide_eq_true_eq] at h ⊢
  omega

/-- The bytes are digits where the code points are, and there are as many. -/
theorem bytes_digits (s : PyStr) : s.bytes.all isDigitByte = s.all isDigit := by
  rw [Bool.eq_iff_iff, List.all_eq_true, List.all_eq_true]
  have hdigit {s : PyStr} (hascii : s.Ascii) {c : CodePoint} (hc : c ∈ s) :
      isDigitByte c.val.toUInt8 = isDigit c := by
    have hlt := hascii c hc
    have hval : c.val.toUInt8.toNat = c.val := byte_toNat (by omega)
    rw [isDigitByte, isDigit, hval]
  constructor
  · intro h
    have hascii : s.Ascii := PyStr.ascii_of_bytes fun b hb => by
      have hb := h b hb
      simp only [isDigitByte, Bool.and_eq_true, decide_eq_true_eq] at hb
      omega
    intro c hc
    rw [← hdigit hascii hc]
    exact h _ (by rw [hascii.bytes_eq]; exact List.mem_map_of_mem hc)
  · intro h
    have hascii : s.Ascii := fun c hc => by
      have hc := h c hc
      simp only [isDigit, Bool.and_eq_true, decide_eq_true_eq] at hc
      omega
    intro b hb
    rw [hascii.bytes_eq] at hb
    obtain ⟨c, hc, rfl⟩ := List.mem_map.mp hb
    rw [hdigit hascii hc]
    exact h c hc

theorem digits_length (h : s.all isDigit = true) : s.bytes.length = s.length := by
  have hascii : s.Ascii := fun c hc => by
    have hc := List.all_eq_true.mp h c hc
    simp only [isDigit, Bool.and_eq_true, decide_eq_true_eq] at hc
    omega
  rw [hascii.bytes_eq, List.length_map]

/-- The check of the phone on what are to be digits, in terms of code points. -/
theorem checked_digits (least most : Nat) (s : PyStr) :
    ((least ≤ s.bytes.length && s.bytes.length ≤ most) && t.first s ≠ some zero && s.bytes.all isDigitByte) =
      ((least ≤ s.length && s.length ≤ most) && s.head? ≠ some (CodePoint.ofChar '0') && s.all isDigit) := by
  rw [bytes_digits]
  cases hall : s.all isDigit with
  | false => rw [Bool.and_false, Bool.and_false]
  | true =>
    have hprintable : ∀ c ∈ s, c.isPrintable = true :=
      fun c hc => isDigit_printable (List.all_eq_true.mp hall c hc)
    rw [digits_length hall, t.first_printable hprintable, zero]
    cases s with
    | nil => rfl
    | cons c s => simp

theorem isPhone_eq (s : PyStr) : isPhone s =
    ((7 ≤ s.length && s.length ≤ 15) && s.head? ≠ some (CodePoint.ofChar '0') && s.all isDigit) := by
  cases s with
  | nil => rfl
  | cons c s =>
    have hzero : c.val = 0x30 ↔ c = CodePoint.ofChar '0' := ⟨fun h => CodePoint.ext h, fun h => by rw [h]; rfl⟩
    rw [Bool.eq_iff_iff]
    simp only [isPhone, Bool.and_eq_true, decide_eq_true_eq, List.length_cons, List.head?_cons, List.all_cons,
      Option.some.injEq, ne_eq, hzero]
    constructor
    · rintro ⟨⟨⟨⟨hc, hne⟩, hleast⟩, hmost⟩, hall⟩
      exact ⟨⟨⟨by omega, by omega⟩, hne⟩, hc, hall⟩
    · rintro ⟨⟨⟨hleast, hmost⟩, hne⟩, hc, hall⟩
      exact ⟨⟨⟨⟨hc, hne⟩, by omega⟩, by omega⟩, hall⟩

/-! ## Phones -/

def phoneFormatting (c : CodePoint) : Bool := c.val ∈ [0x20, 0x28, 0x29, 0x2E, 0x2D]

theorem mem_ofString {text : String} {c : CodePoint} :
    c ∈ PyStr.ofString text ↔ c.val ∈ text.toList.map Char.toNat := by
  rw [PyStr.ofString, List.mem_map, List.mem_map]
  constructor
  · rintro ⟨a, ha, rfl⟩
    exact ⟨a, ha, rfl⟩
  · rintro ⟨a, ha, hval⟩
    exact ⟨a, ha, CodePoint.ext hval⟩

theorem isFormatting_eq (c : CodePoint) : isFormatting [c] = phoneFormatting c := by
  rw [Bool.eq_iff_iff, isFormatting, phoneFormatting, decide_eq_true_eq, decide_eq_true_eq, List.mem_map]
  have hvals : " ().-".toList.map Char.toNat = [0x20, 0x28, 0x29, 0x2E, 0x2D] := rfl
  rw [← hvals, ← mem_ofString]
  exact ⟨fun ⟨_, hd, heq⟩ => (List.cons.inj heq).1 ▸ hd, fun h => ⟨c, h, rfl⟩⟩

/-- A code point of a phone number: a digit, a plus or formatting. -/
theorem phoneCharacter_iff (c : CodePoint) :
    c ∈ whatsappPhoneCharacters ↔ isDigit c = true ∨ c = CodePoint.ofChar '+' ∨ phoneFormatting c = true := by
  have hplus : c = CodePoint.ofChar '+' ↔ c.val = 0x2B := ⟨fun h => by rw [h]; rfl, fun h => CodePoint.ext h⟩
  have hvals : "0123456789+ ()-.".toList.map Char.toNat =
      [0x30, 0x31, 0x32, 0x33, 0x34, 0x35, 0x36, 0x37, 0x38, 0x39, 0x2B, 0x20, 0x28, 0x29, 0x2D, 0x2E] := rfl
  rw [whatsappPhoneCharacters, mem_ofString, hvals, hplus]
  simp only [isDigit, phoneFormatting, Bool.and_eq_true, decide_eq_true_eq, List.mem_cons, List.not_mem_nil,
    or_false]
  omega

theorem phoneCharacter_printable {c : CodePoint} (h : c ∈ whatsappPhoneCharacters) : c.isPrintable = true := by
  have hall : ∀ c ∈ whatsappPhoneCharacters, c.isPrintable = true := by decide
  exact hall c h

/-- What is left of a number without its formatting and its plus. -/
def phoneDigits (s : PyStr) : PyStr :=
  let normalized := s.filter (fun c => !phoneFormatting c)
  if normalized.head?.any (·.val == 0x2B) then normalized.drop 1 else normalized

/-- The computer refuses what has any other character. -/
theorem phoneDigits_other {s : PyStr} (h : ¬ ∀ c ∈ s, c ∈ whatsappPhoneCharacters) :
    isPhone (phoneDigits s) = false := by
  simp only [not_forall] at h
  obtain ⟨c, hc, hother⟩ := h
  rw [phoneCharacter_iff, not_or, not_or] at hother
  obtain ⟨hdigit, hplus, hformatting⟩ := hother
  have hkept : c ∈ s.filter (fun c => !phoneFormatting c) := List.mem_filter.mpr ⟨hc, by simpa using hformatting⟩
  have hmem : c ∈ phoneDigits s := by
    unfold phoneDigits
    simp only
    cases hfilter : s.filter (fun c => !phoneFormatting c) with
    | nil =>
      rw [hfilter] at hkept
      cases hkept
    | cons a rest =>
      rw [hfilter] at hkept
      split
      · rename_i ha
        have ha : a = CodePoint.ofChar '+' := CodePoint.ext (show a.val = 0x2B by simpa using ha)
        obtain rfl | hrest := List.mem_cons.mp hkept
        · exact absurd ha hplus
        · exact hrest
      · exact hkept
  rw [isPhone_eq, List.all_eq_false.mpr ⟨c, hmem, hdigit⟩, Bool.and_false]

theorem normalizePhone_eq (hswift : t.trim s = s) (hpython : s.strip = s) :
    PipaMobileDestinationPolicy.normalizePhone t s = Tools.Contacts.normalizePhone s := by
  have hcomputer : Tools.Contacts.normalizePhone s =
      if isPhone (phoneDigits s) then some (phoneDigits s) else none := by
    rw [Tools.Contacts.normalizePhone, hpython]
    rfl
  rw [hcomputer, PipaMobileDestinationPolicy.normalizePhone, hswift]
  simp only
  by_cases hall : ∀ c ∈ s, c ∈ whatsappPhoneCharacters
  · have hprintable : ∀ c ∈ s, c.isPrintable = true := fun c hc => phoneCharacter_printable (hall c hc)
    have hfilter : t.filter (fun c => !isFormatting c) s = s.filter (fun c => !phoneFormatting c) := by
      rw [t.filter_printable hprintable]
      exact List.filter_congr fun c _ => by rw [isFormatting_eq]
    have hleft : ∀ c ∈ s.filter (fun c => !phoneFormatting c), c.isPrintable = true :=
      fun c hc => hprintable c (List.mem_of_mem_filter hc)
    have hdigits : (if t.first (s.filter (fun c => !phoneFormatting c)) = some plus then
        t.dropFirst (s.filter (fun c => !phoneFormatting c)) else s.filter (fun c => !phoneFormatting c)) =
        phoneDigits s := by
      rw [t.first_printable hleft, t.dropFirst_printable hleft, phoneDigits]
      refine if_congr ?_ rfl rfl
      cases s.filter (fun c => !phoneFormatting c) with
      | nil => exact iff_of_false (fun h => by cases h) (fun h => by cases h)
      | cons c rest =>
        have hplus : c = CodePoint.ofChar '+' ↔ c.val = 0x2B :=
          ⟨fun h => by rw [h]; rfl, fun h => CodePoint.ext h⟩
        simp [plus, hplus]
    rw [hfilter, hdigits, checked_digits, ← isPhone_eq]
    cases s with
    | nil => rfl
    | cons c s =>
      rw [if_neg]
      simpa using hall
  · rw [if_pos, phoneDigits_other hall]
    · rfl
    · simpa using Or.inr hall

/-- A number that passes has nothing to take away. -/
theorem phone_plain (h : isPhone s = true) : phoneDigits s = s ∧ s.strip = s ∧ t.trim s = s := by
  rw [isPhone_eq, Bool.and_eq_true, List.all_eq_true] at h
  obtain ⟨-, hdigits⟩ := h
  have hval {c : CodePoint} (hc : c ∈ s) : 0x30 ≤ c.val ∧ c.val ≤ 0x39 := by
    simpa [isDigit] using hdigits c hc
  have hspace : ∀ c ∈ s, c.isSpace = false := by
    intro c hc
    have hval := hval hc
    exact CodePoint.not_isSpace (by omega)
  refine ⟨?_, strip_solid hspace, t.trim_solid fun c hc => ?_⟩
  · have hfilter : s.filter (fun c => !phoneFormatting c) = s := by
      refine List.filter_eq_self.mpr fun c hc => ?_
      have hval := hval hc
      simp only [phoneFormatting, List.mem_cons, List.not_mem_nil, or_false, Bool.not_eq_true',
        decide_eq_false_iff_not]
      omega
    rw [phoneDigits, hfilter]
    refine if_neg fun hplus => ?_
    cases s with
    | nil => cases hplus
    | cons c s =>
      have hval := hval (c := c) List.mem_cons_self
      have hplus : c.val = 0x2B := by simpa using hplus
      omega
  · refine t.graphic c (isDigit_printable (hdigits c hc)) ?_
    have hval := hval hc
    omega

/-- A normalised number stays as it is. -/
theorem normalizePhone_phone (h : isPhone s = true) : Tools.Contacts.normalizePhone s = some s ∧
    PipaMobileDestinationPolicy.normalizePhone t s = some s := by
  obtain ⟨hplain, hstrip, htrim⟩ := phone_plain (t := t) h
  have hcomputer : Tools.Contacts.normalizePhone s =
      if isPhone (phoneDigits s) then some (phoneDigits s) else none := by
    rw [Tools.Contacts.normalizePhone, hstrip]
    rfl
  rw [hplain, if_pos h] at hcomputer
  exact ⟨hcomputer, (normalizePhone_eq htrim hstrip).trans hcomputer⟩

/-- What both give is a phone number. -/
theorem normalized_phone {value phone : PyStr} (h : Tools.Contacts.normalizePhone value = some phone ∨
    PipaMobileDestinationPolicy.normalizePhone t value = some phone) : isPhone phone = true := by
  obtain h | h := h
  · have h : (if isPhone (phoneDigits value.strip) then some (phoneDigits value.strip) else none) = some phone := h
    split at h
    · rename_i hphone
      rwa [← Option.some.inj h]
    · cases h
  · unfold PipaMobileDestinationPolicy.normalizePhone at h
    simp only at h
    split at h
    · cases h
    generalize (if t.first _ = some plus then _ else _ : PyStr) = digits at h
    split at h
    · rename_i hchecked
      rw [checked_digits, ← isPhone_eq] at hchecked
      rwa [← Option.some.inj h]
    · cases h

/-! ## Snowflakes -/

theorem normalizeSnowflake_eq (hswift : t.trim s = s) (hpython : s.strip = s) :
    normalizeSnowflake t s = validateSnowflake s := by
  rw [normalizeSnowflake, validateSnowflake, hswift, hpython, checked_digits]
  have hzero : s.head?.any (·.val == 0x30) = true ↔ s.head? = some (CodePoint.ofChar '0') := by
    cases s with
    | nil => exact ⟨nofun, nofun⟩
    | cons c s =>
      have hval : c = CodePoint.ofChar '0' ↔ c.val = 0x30 := ⟨fun h => by rw [h]; rfl, fun h => CodePoint.ext h⟩
      simp [hval]
  by_cases hhead : s.head? = some (CodePoint.ofChar '0')
  · rw [if_neg (by simp [hhead]), if_pos (by rw [hzero.mpr hhead, Bool.or_true])]
  · have hany : s.head?.any (·.val == 0x30) = false := Bool.eq_false_iff.mpr fun h => hhead (hzero.mp h)
    rw [hany, Bool.or_false, decide_eq_true hhead, Bool.and_true]
    cases hchecked : (17 ≤ s.length && s.length ≤ 20) && s.all isDigit <;> simp

/-! ## Agreement -/

/-- Without white space around it, the phone and the computer take the same destinations for the same; and a
normalised phone is its own normal form. -/
theorem destinations_agree (t : SwiftText) :
    (∀ s : PyStr, t.trim s = s → s.strip = s →
      PipaMobileDestinationPolicy.normalizePhone t s = Tools.Contacts.normalizePhone s ∧
      normalizeSnowflake t s = validateSnowflake s) ∧
    ∀ value phone, Tools.Contacts.normalizePhone value = some phone ∨
        PipaMobileDestinationPolicy.normalizePhone t value = some phone →
      Tools.Contacts.normalizePhone phone = some phone ∧
      PipaMobileDestinationPolicy.normalizePhone t phone = some phone := by
  refine ⟨?_, ?_⟩
  · exact fun s hswift hpython => ⟨normalizePhone_eq hswift hpython, normalizeSnowflake_eq hswift hpython⟩
  · exact fun value phone h => normalizePhone_phone (normalized_phone h)

theorem destinations_agree_madrid :
    PipaMobileDestinationPolicy.normalizePhone scalarText "+34 (600) 11-22.33" =
      Tools.Contacts.normalizePhone "+34 (600) 11-22.33" ∧
    PipaMobileDestinationPolicy.normalizePhone scalarText "34600112233" = some "34600112233" := by
  obtain ⟨hagree, hnormal⟩ := destinations_agree scalarText
  refine ⟨(hagree _ rfl rfl).1, (hnormal "+34 (600) 11-22.33" _ (Or.inl rfl)).2⟩

end Pipa.Link
