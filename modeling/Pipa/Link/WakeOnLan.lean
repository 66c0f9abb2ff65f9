import Pipa.Firmware.WakeOnLan
import Pipa.Lib.SwiftText

/- Wake-on-LAN packets of the phone (`PipaMobileWakeOnLan.swift`), beside those of the
   firmware. The phone reads scalars, the firmware bytes; a text that either accepts is ASCII,
   where the scalars are the bytes, and up to there both run the same loop. -/
namespace Pipa.Link
open Pipa.Lib

namespace PipaMobileWakeOnLan

def packetSize : Nat := 102

/-! ## The address -/

/-- `hexValue`. -/
def hexValue (scalar : Nat) : Option UInt8 :=
  if 0x30 ≤ scalar ∧ scalar ≤ 0x39 then some (scalar - 0x30).toUInt8
  else if 0x41 ≤ scalar ∧ scalar ≤ 0x46 then some (scalar - 0x41 + 10).toUInt8
  else if 0x61 ≤ scalar ∧ scalar ≤ 0x66 then some (scalar - 0x61 + 10).toUInt8
  else none

/-- The loop over the indices that are left, with the bytes so far. -/
def readLoop (scalars : List Nat) (separator : Nat) : List Nat → Bytes → Option Bytes
  | [], bytes => some bytes
  | index :: rest, bytes =>
    let offset := index * 3
    if index < 5 ∧ scalars.getD (offset + 2) 0 ≠ separator then none
    else
      match hexValue (scalars.getD offset 0), hexValue (scalars.getD (offset + 1) 0) with
      | some high, some low => readLoop scalars separator rest (bytes ++ [high <<< 4 ||| low])
      | _, _ => none

/-- The bytes that `normalizeMAC` reads from the scalars. -/
def readScalars (scalars : List Nat) : Option Bytes :=
  if scalars.length ≠ 17 then none
  else
    let separator := scalars.getD 2 0
    if separator ≠ 0x3A ∧ separator ≠ 0x2D then none
    else
      match readLoop scalars separator (List.range 6) [] with
      | none => none
      | some bytes =>
        if !bytes.all (fun byte => byte = 0) && !bytes.all (fun byte => byte = 0xFF) &&
            (bytes.getD 0 0) &&& 0x01 = 0 then some bytes
        else none

/-- A digit of `%X`. -/
def upperDigit (n : Nat) : CodePoint := CodePoint.ofChar ("0123456789ABCDEF".toList.getD n '0')

/-- `String(format: "%02X", byte)`. -/
def format02X (byte : UInt8) : PyStr := [upperDigit (byte.toNat / 16), upperDigit (byte.toNat % 16)]

def colon : CodePoint := CodePoint.ofChar ':'

/-- The text that an address is normalised to. -/
def canonical (bytes : Bytes) : PyStr := [colon].intercalate (bytes.map format02X)

variable (t : SwiftText)

/-- `normalizeMAC`. -/
def normalizeMAC (value : PyStr) : Option PyStr := (readScalars ((t.trim value).map CodePoint.val)).map canonical

/-! ## The packet -/

/-- The digits of a number in base 16. -/
def digits16 : PyStr → Nat → Option Nat
  | [], n => some n
  | c :: rest, n =>
    match hexValue c.val with
    | none => none
    | some digit => digits16 rest (n * 16 + digit.toNat)

/-- `UInt8(text, radix: 16)`. -/
def uint8 (s : PyStr) : Option UInt8 :=
  let unsigned (digits : PyStr) (most : Nat) : Option UInt8 :=
    if digits.isEmpty then none
    else match digits16 digits 0 with
      | none => none
      | some n => if n ≤ most then some n.toUInt8 else none
  match s with
  | [] => none
  | c :: rest =>
    if c = CodePoint.ofChar '-' then unsigned rest 0
    else if c = CodePoint.ofChar '+' then unsigned rest 255
    else unsigned s 255

/-- `magicPacket`. -/
def magicPacket (mac : PyStr) : Option Bytes :=
  match normalizeMAC t mac with
  | none => none
  | some normalized =>
    let parts := (t.split [colon] normalized).filter (fun part => !part.isEmpty)
    let bytes := parts.filterMap uint8
    if parts.length ≠ 6 ∨ bytes.length ≠ 6 then none
    else
      let packet := (List.range 16).foldl (fun packet _ => packet ++ bytes) (List.replicate 6 0xFF)
      if packet.length = packetSize then some packet else none

end PipaMobileWakeOnLan

/-! ## One loop -/

open Firmware Firmware.WakeOnLan PipaMobileWakeOnLan

/-- A digit of the firmware is a digit of the phone. -/
theorem hexValue_eq (b : UInt8) : WakeOnLan.hexValue b =
    match PipaMobileWakeOnLan.hexValue b.toNat with
    | some digit => (digit.toNat : Int)
    | none => -1 := by
  unfold WakeOnLan.hexValue PipaMobileWakeOnLan.hexValue
  have hbyte (n : Nat) (hn : n < 256) : n.toUInt8.toNat = n := by
    simp only [Nat.toUInt8, UInt8.toNat_ofNat']
    omega
  by_cases hdigit : 0x30 ≤ b.toNat ∧ b.toNat ≤ 0x39
  · rw [if_pos hdigit, if_pos hdigit]
    simp only
    rw [hbyte _ (by omega)]
    omega
  by_cases hlower : 0x61 ≤ b.toNat ∧ b.toNat ≤ 0x66
  · rw [if_neg hdigit, if_pos hlower, if_neg hdigit, if_neg (by omega), if_pos hlower]
    simp only
    rw [hbyte _ (by omega)]
    omega
  by_cases hupper : 0x41 ≤ b.toNat ∧ b.toNat ≤ 0x46
  · rw [if_neg hdigit, if_neg hlower, if_pos hupper, if_neg hdigit, if_pos hupper]
    simp only
    rw [hbyte _ (by omega)]
    omega
  · rw [if_neg hdigit, if_neg hlower, if_neg hupper, if_neg hdigit, if_neg hupper, if_neg hlower]

theorem halves_eq (high low : UInt8) : ((high.toNat <<< 4) ||| low.toNat).toUInt8 = high <<< 4 ||| low := by
  apply UInt8.toNat_inj.mp
  rw [UInt8.toNat_or, UInt8.toNat_shiftLeft, Nat.toUInt8, UInt8.toNat_ofNat', Nat.or_mod_two_pow,
    Nat.mod_eq_of_lt low.toNat_lt]
  rfl

theorem at_toNat (text : Bytes) (index : Nat) : (at_ text index).toNat = (text.map UInt8.toNat).getD index 0 := by
  rw [at_, List.getD_eq_getElem?_getD, List.getD_eq_getElem?_getD, List.getElem?_map]
  cases text[index]? with
  | none => rfl
  | some b => rfl

/-- With as many bytes read as indices are gone, the array holds these and zeros. -/
theorem parseLoop_iff {text : Bytes} {separator : UInt8} {bytes mac : Bytes} {left : Nat}
    (h : bytes.length + left = 6) :
    parseLoop text separator (List.range' bytes.length left) (bytes ++ List.replicate left 0) = (true, mac) ↔
      readLoop (text.map UInt8.toNat) separator.toNat (List.range' bytes.length left) bytes = some mac := by
  induction left generalizing bytes with
  | zero =>
    rw [List.range'_zero, List.replicate_zero, List.append_nil, parseLoop, readLoop]
    simp only [Prod.mk.injEq, true_and, Option.some.injEq]
  | succ left ih =>
    have hset (b : UInt8) : (bytes ++ List.replicate (left + 1) 0).set bytes.length b =
        (bytes ++ [b]) ++ List.replicate left 0 := by
      rw [List.set_append_right _ _ (Nat.le_refl _), Nat.sub_self, List.replicate_succ, List.set_cons_zero,
        List.append_assoc, List.singleton_append]
    have hlength (b : UInt8) : (bytes ++ [b]).length = bytes.length + 1 := by
      rw [List.length_append, List.length_singleton]
    have hnext (b : UInt8) := ih (show (bytes ++ [b]).length + left = 6 by rw [hlength]; omega)
    simp only [hlength] at hnext
    have hseparator : (bytes.length ≠ 5 ∧ at_ text (bytes.length * 3 + 2) ≠ separator) ↔
        (bytes.length < 5 ∧ (text.map UInt8.toNat).getD (bytes.length * 3 + 2) 0 ≠ separator.toNat) := by
      rw [← at_toNat, Ne, Ne, Ne, UInt8.toNat_inj]
      refine and_congr_left fun _ => ?_
      omega
    rw [List.range'_succ, parseLoop, readLoop]
    simp only [hseparator, ← at_toNat]
    split
    · exact ⟨nofun, nofun⟩
    · rw [hexValue_eq, hexValue_eq]
      cases PipaMobileWakeOnLan.hexValue (at_ text (bytes.length * 3)).toNat with
      | none => exact ⟨nofun, nofun⟩
      | some high =>
        cases PipaMobileWakeOnLan.hexValue (at_ text (bytes.length * 3 + 1)).toNat with
        | none =>
          rw [if_pos (Or.inr (by decide))]
          exact ⟨nofun, nofun⟩
        | some low =>
          simp only
          rw [if_neg (by omega), hset, Int.toNat_natCast, Int.toNat_natCast, halves_eq]
          exact hnext _

/-- The firmware parses bytes as the phone reads scalars. -/
theorem parseMac_iff {text : CString} {mac : Bytes} :
    parseMac (some text) (List.replicate 6 0) = (true, mac) ↔
      readScalars (text.bytes.map UInt8.toNat) = some mac := by
  have hseparator : (at_ text.bytes 2 ≠ 0x3A ∧ at_ text.bytes 2 ≠ 0x2D) ↔
      ((at_ text.bytes 2).toNat ≠ 0x3A ∧ (at_ text.bytes 2).toNat ≠ 0x2D) := by
    rw [Ne, Ne, ← UInt8.toNat_inj, ← UInt8.toNat_inj]
    rfl
  simp only [parseMac, readScalars, List.length_map, ← at_toNat, hseparator]
  split
  · exact ⟨nofun, nofun⟩
  split
  · exact ⟨nofun, nofun⟩
  have hloop (read : Bytes) :
      parseLoop text.bytes (at_ text.bytes 2) (List.range 6) (List.replicate 6 0) = (true, read) ↔
        readLoop (text.bytes.map UInt8.toNat) (at_ text.bytes 2).toNat (List.range 6) [] = some read := by
    rw [List.range_eq_range']
    exact parseLoop_iff (show ([] : Bytes).length + 6 = 6 from rfl)
  cases hread : readLoop (text.bytes.map UInt8.toNat) (at_ text.bytes 2).toNat (List.range 6) [] with
  | none =>
    cases hparse : parseLoop text.bytes (at_ text.bytes 2) (List.range 6) (List.replicate 6 0) with
    | mk complete bytes =>
      cases complete with
      | false => exact ⟨nofun, nofun⟩
      | true => exact absurd ((hloop bytes).mp hparse) (by rw [hread]; exact nofun)
  | some bytes =>
    rw [(hloop bytes).mpr hread]
    simp only [Prod.mk.injEq, Option.ite_none_right_eq_some, Option.some.injEq]

/-! ## What is accepted -/

theorem hexValue_ascii {c : Nat} {digit : UInt8} (h : PipaMobileWakeOnLan.hexValue c = some digit) : c < 0x80 := by
  unfold PipaMobileWakeOnLan.hexValue at h
  by_contra hbig
  rw [if_neg (by omega), if_neg (by omega), if_neg (by omega)] at h
  cases h

/-- Each index that is read stands at two digits and, but for the last, before the separator. -/
theorem readLoop_some {scalars : List Nat} {separator : Nat} {indices : List Nat} {bytes mac : Bytes}
    (h : readLoop scalars separator indices bytes = some mac) :
    mac.length = bytes.length + indices.length ∧
      ∀ index ∈ indices, (index < 5 → scalars.getD (index * 3 + 2) 0 = separator) ∧
        scalars.getD (index * 3) 0 < 0x80 ∧ scalars.getD (index * 3 + 1) 0 < 0x80 := by
  induction indices generalizing bytes with
  | nil =>
    obtain rfl := Option.some.inj h
    exact ⟨rfl, nofun⟩
  | cons index rest ih =>
    rw [readLoop] at h
    obtain ⟨hseparator, h⟩ := Option.ite_none_left_eq_some.mp h
    split at h
    · rename_i high low hhigh hlow
      obtain ⟨hlength, hrest⟩ := ih h
      refine ⟨?_, List.forall_mem_cons.mpr ⟨⟨?_, hexValue_ascii hhigh, hexValue_ascii hlow⟩, hrest⟩⟩
      · rw [hlength, List.length_append, List.length_singleton, List.length_cons, Nat.add_assoc, Nat.add_comm 1]
      · intro hindex
        by_contra hne
        exact hseparator ⟨hindex, hne⟩
    · cases h

/-- Six bytes are read, from ASCII. -/
theorem readScalars_some {scalars : List Nat} {mac : Bytes} (h : readScalars scalars = some mac) :
    mac.length = 6 ∧ ∀ c ∈ scalars, c < 0x80 := by
  rw [readScalars] at h
  obtain ⟨hlength, h⟩ := Option.ite_none_left_eq_some.mp h
  obtain ⟨hseparator, h⟩ := Option.ite_none_left_eq_some.mp h
  split at h
  · cases h
  · rename_i bytes hloop
    obtain ⟨-, rfl⟩ := Option.ite_none_right_eq_some.mp h |>.imp_right Option.some.inj
    obtain ⟨hsix, hread⟩ := readLoop_some hloop
    refine ⟨hsix, fun c hc => ?_⟩
    obtain ⟨i, hi, rfl⟩ := List.getElem_of_mem hc
    -- the place of the character in its group of three
    obtain ⟨hend, hhigh, hlow⟩ := hread (i / 3) (List.mem_range.mpr (by omega))
    have hget : scalars[i] = scalars.getD i 0 := by
      rw [List.getD_eq_getElem?_getD, List.getElem?_eq_getElem hi, Option.getD_some]
    rw [hget]
    obtain hplace | hplace | hplace : i / 3 * 3 = i ∨ i / 3 * 3 + 1 = i ∨ i / 3 * 3 + 2 = i := by omega
    · rw [hplace] at hhigh
      exact hhigh
    · rw [hplace] at hlow
      exact hlow
    · rw [hplace] at hend
      rw [hend (by omega)]
      omega

/-! ## The packet of the phone -/

theorem upperDigit_spec : ∀ n < 16, PipaMobileWakeOnLan.hexValue (upperDigit n).val = some n.toUInt8 ∧
    (upperDigit n).isPrintable = true ∧ upperDigit n ≠ colon ∧ upperDigit n ≠ CodePoint.ofChar '-' ∧
    upperDigit n ≠ CodePoint.ofChar '+' := by decide

theorem uint8_format02X (b : UInt8) : uint8 (format02X b) = some b := by
  have hb := b.toNat_lt
  obtain ⟨hhigh, -, -, hminus, hplus⟩ := upperDigit_spec (b.toNat / 16) (by omega)
  obtain ⟨hlow, -⟩ := upperDigit_spec (b.toNat % 16) (by omega)
  have hdigits : digits16 (format02X b) 0 = some b.toNat := by
    simp only [format02X, digits16, hhigh, hlow, byte_toNat (show b.toNat / 16 < 256 by omega),
      byte_toNat (show b.toNat % 16 < 256 by omega), Option.some.injEq]
    omega
  rw [format02X] at hdigits ⊢
  simp only [uint8, if_neg hminus, if_neg hplus, List.isEmpty_cons, Bool.false_eq_true, if_false, hdigits]
  rw [if_pos (by omega), byte_eq rfl]

theorem format02X_printable {b : UInt8} {c : CodePoint} (h : c ∈ format02X b) :
    c.isPrintable = true ∧ c ≠ colon := by
  have hb := b.toNat_lt
  obtain ⟨-, hhigh, hhigh', -⟩ := upperDigit_spec (b.toNat / 16) (by omega)
  obtain ⟨-, hlow, hlow', -⟩ := upperDigit_spec (b.toNat % 16) (by omega)
  rw [format02X, List.mem_cons, List.mem_singleton] at h
  obtain rfl | rfl := h
  · exact ⟨hhigh, hhigh'⟩
  · exact ⟨hlow, hlow'⟩

variable {t : SwiftText} {s : PyStr} {mac : Bytes}

/-- The parts of the normalised address are those that it was joined from. -/
theorem split_canonical (h : mac.length = 6) :
    (t.split [colon] (canonical mac)).filter (fun part => !part.isEmpty) = mac.map format02X := by
  have hprintable : ∀ c ∈ canonical mac, c.isPrintable = true := by
    intro c hc
    obtain ⟨part, hpart, hc⟩ | rfl := mem_intercalate hc
    · obtain ⟨b, -, rfl⟩ := List.mem_map.mp hpart
      exact (format02X_printable hc).1
    · decide
  have hparts : (canonical mac).splitOn colon = mac.map format02X := by
    refine List.splitOn_intercalate colon ?_ ?_
    · intro part hpart hcolon
      obtain ⟨b, -, rfl⟩ := List.mem_map.mp hpart
      exact (format02X_printable hcolon).2 rfl
    · rw [Ne, List.map_eq_nil_iff]
      rintro rfl
      cases h
  rw [SwiftText.split_printable hprintable, hparts, List.filter_eq_self]
  intro part hpart
  obtain ⟨b, -, rfl⟩ := List.mem_map.mp hpart
  rfl

theorem repeats_append (bytes packet : Bytes) (n : Nat) :
    (List.range n).foldl (fun packet _ => packet ++ bytes) packet =
      packet ++ (List.replicate n bytes).flatten := by
  induction n with
  | zero => rw [List.replicate_zero, List.flatten_nil, List.append_nil]; rfl
  | succ n ih =>
    rw [List.range_succ, List.foldl_append, ih, List.foldl_cons, List.foldl_nil, List.replicate_succ',
      List.flatten_append, List.flatten_cons, List.flatten_nil, List.append_nil, List.append_assoc]

/-- The packet of an address that is normalised. -/
theorem magicPacket_eq (h : mac.length = 6) (hnormal : normalizeMAC t s = some (canonical mac)) :
    magicPacket t s = some (magic mac) := by
  have hbytes : (mac.map format02X).filterMap uint8 = mac := by
    rw [List.filterMap_map]
    calc mac.filterMap (uint8 ∘ format02X) = mac.filterMap some := by
          congr 1
          funext b
          exact uint8_format02X b
      _ = mac := List.filterMap_some
  simp only [magicPacket, hnormal, split_canonical h, hbytes, List.length_map, h, ne_eq, not_true, or_self,
    if_false, repeats_append]
  exact if_pos (magic_length h)

/-! ## The two -/

/-- Both readers read the same bytes from a text that the firmware can be given. -/
theorem read_agrees {text : CString} (hsame : text.bytes = s.bytes) :
    readScalars (text.bytes.map UInt8.toNat) = readScalars (s.map CodePoint.val) := by
  have hascii (h : s.Ascii) : text.bytes.map UInt8.toNat = s.map CodePoint.val := by
    rw [hsame, h.bytes_eq, List.map_map]
    refine List.map_congr_left fun c hc => ?_
    exact byte_toNat (Nat.lt_trans (h c hc) (by decide))
  cases hbytes : readScalars (text.bytes.map UInt8.toNat) with
  | some mac =>
    rw [← hascii, hbytes]
    refine PyStr.ascii_of_bytes fun b hb => ?_
    rw [← hsame] at hb
    exact (readScalars_some hbytes).2 _ (List.mem_map_of_mem hb)
  | none =>
    cases hscalars : readScalars (s.map CodePoint.val) with
    | none => rfl
    | some mac =>
      have h : s.Ascii := fun c hc => (readScalars_some hscalars).2 _ (List.mem_map_of_mem hc)
      rw [← hascii h, hbytes] at hscalars
      cases hscalars

/-- For every text without white space around it, as Swift and as C hold it: the firmware and the phone read
the same six bytes or both refuse; from what they accept both build the 102 bytes of six 0xFF and sixteen times
the address, the firmware over the start of its buffer alone; and whatever the firmware refuses leaves the
buffer as it was. -/
theorem wakeOnLan_agrees (t : SwiftText) (s : PyStr) (text : CString) (htrim : t.trim s = s)
    (hsame : text.bytes = s.bytes) :
    (∀ mac, parseMac (some text) (List.replicate 6 0) = (true, mac) ↔
        readScalars ((t.trim s).map CodePoint.val) = some mac) ∧
      (∀ mac, parseMac (some text) (List.replicate 6 0) = (true, mac) →
        mac.length = 6 ∧ normalizeMAC t s = some (canonical mac) ∧ magicPacket t s = some (magic mac) ∧
          (magic mac).length = 102 ∧ magic mac = List.replicate 6 0xFF ++ (List.replicate 16 mac).flatten ∧
          ∀ memory packetCapacity, 102 ≤ packetCapacity → packetCapacity ≤ memory.length →
            buildWakeOnLanPacket (some text) (some memory) packetCapacity =
              (true, some (magic mac ++ memory.drop 102))) ∧
      ((parseMac (some text) (List.replicate 6 0)).1 = false →
        normalizeMAC t s = none ∧ magicPacket t s = none ∧
          ∀ packet packetCapacity, buildWakeOnLanPacket (some text) packet packetCapacity = (false, packet)) ∧
      ∀ macText packet packetCapacity, (buildWakeOnLanPacket macText packet packetCapacity).1 = false →
        (buildWakeOnLanPacket macText packet packetCapacity).2 = packet := by
  have hread (mac : Bytes) : parseMac (some text) (List.replicate 6 0) = (true, mac) ↔
      readScalars ((t.trim s).map CodePoint.val) = some mac := by
    rw [parseMac_iff, read_agrees hsame, htrim]
  refine ⟨hread, ?_, ?_, fun macText packet packetCapacity => build_refused⟩
  · intro mac hparse
    have hscalars := (hread mac).mp hparse
    obtain ⟨hlength, -⟩ := readScalars_some hscalars
    have hnormal : normalizeMAC t s = some (canonical mac) := by rw [normalizeMAC, hscalars, Option.map_some]
    refine ⟨hlength, hnormal, magicPacket_eq hlength hnormal, magic_length hlength, rfl, ?_⟩
    intro memory packetCapacity hcapacity _
    have hroom : ¬ packetCapacity < kWakeOnLanPacketSize := Nat.not_lt.mpr hcapacity
    rw [buildWakeOnLanPacket, if_neg hroom, hparse]
    simp only [writePacket_eq hlength]
    rfl
  · intro hrefused
    have hnone : readScalars ((t.trim s).map CodePoint.val) = none := by
      rw [Option.eq_none_iff_forall_ne_some]
      intro mac hmac
      rw [(hread mac).mpr hmac] at hrefused
      cases hrefused
    have hnormal : normalizeMAC t s = none := by rw [normalizeMAC, hnone, Option.map_none]
    refine ⟨hnormal, by rw [magicPacket, hnormal], ?_⟩
    intro packet packetCapacity
    cases packet with
    | none => rfl
    | some memory =>
      rw [buildWakeOnLanPacket]
      split
      · rfl
      · split
        · rfl
        · rename_i hparse
          rw [hparse] at hrefused
          cases hrefused

theorem wakeOnLan_agrees_lan :
    magicPacket scalarText (PyStr.ofString "02-00-00-00-00-0a") = some (magic [2, 0, 0, 0, 0, 10]) ∧
      buildWakeOnLanPacket (some ⟨(PyStr.ofString "02-00-00-00-00-0a").bytes, by decide⟩)
        (some (List.replicate 104 7)) 102 = (true, some (magic [2, 0, 0, 0, 0, 10] ++ [7, 7])) := by
  obtain ⟨hread, haccepted, -, -⟩ := wakeOnLan_agrees scalarText (PyStr.ofString "02-00-00-00-00-0a")
    ⟨(PyStr.ofString "02-00-00-00-00-0a").bytes, by decide⟩ (by decide) rfl
  obtain ⟨-, -, hpacket, -, -, hbuild⟩ := haccepted [2, 0, 0, 0, 0, 10] ((hread _).mpr (by decide))
  exact ⟨hpacket, hbuild (List.replicate 104 7) 102 (Nat.le_refl _) (by decide)⟩

end Pipa.Link
