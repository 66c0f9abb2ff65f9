import Pipa.Lib.Scan

/- The packet builder of the firmware (`wake_on_lan_packet.cpp`), with what is in memory
   after each return. The address is parsed into an array of its own, so the buffer of the
   caller is written only once all of it is known to be good. -/
namespace Pipa.Firmware
open Pipa.Lib

namespace WakeOnLan

def kWakeOnLanPacketSize : Nat := 102

/-! ## The parser -/

/-- `hexValue`. -/
def hexValue (character : UInt8) : Int :=
  if 0x30 ≤ character.toNat ∧ character.toNat ≤ 0x39 then character.toNat - 0x30
  else if 0x61 ≤ character.toNat ∧ character.toNat ≤ 0x66 then character.toNat - 0x61 + 10
  else if 0x41 ≤ character.toNat ∧ character.toNat ≤ 0x46 then character.toNat - 0x41 + 10
  else -1

/-- `text[index]`; behind the text stands its NUL. -/
def at_ (text : Bytes) (index : Nat) : UInt8 := text.getD index 0

/-- The loop of `parseMac` over the indices that are left: whether it came to the end, and `mac`. -/
def parseLoop (text : Bytes) (separator : UInt8) : List Nat → Bytes → Bool × Bytes
  | [], mac => (true, mac)
  | index :: rest, mac =>
    let offset := index * 3
    if index ≠ 5 ∧ at_ text (offset + 2) ≠ separator then (false, mac)
    else
      let high := hexValue (at_ text offset)
      let low := hexValue (at_ text (offset + 1))
      if high < 0 ∨ low < 0 then (false, mac)
      else parseLoop text separator rest (mac.set index ((high.toNat <<< 4) ||| low.toNat).toUInt8)

/-- `parseMac`: what it returns, and `mac` afterwards. -/
def parseMac (text : Option CString) (mac : Bytes) : Bool × Bytes :=
  match text with
  | none => (false, mac)
  | some text =>
    if text.bytes.length ≠ 17 then (false, mac)
    else
      let separator := at_ text.bytes 2
      if separator ≠ 0x3A ∧ separator ≠ 0x2D then (false, mac)
      else
        match parseLoop text.bytes separator (List.range 6) mac with
        | (false, mac) => (false, mac)
        | (true, mac) =>
          let allZero := mac.all (fun byte => byte = 0)
          let allBroadcast := mac.all (fun byte => byte = 0xFF)
          (!allZero && !allBroadcast && (mac.getD 0 0) &&& 0x01 = 0, mac)

/-! ## The packet -/

/-- `memcpy(memory + offset, bytes, …)`. -/
def writeAt (memory : Bytes) (offset : Nat) (bytes : Bytes) : Bytes :=
  memory.take offset ++ bytes ++ memory.drop (offset + bytes.length)

/-- The packet of an address, written into memory. -/
def writePacket (memory mac : Bytes) : Bytes :=
  let cleared := writeAt memory 0 (List.replicate kWakeOnLanPacketSize 0)
  let headed := (List.range 6).foldl (fun packet index => packet.set index 0xFF) cleared
  (List.range 16).foldl (fun packet repeated => writeAt packet (6 + repeated * 6) mac) headed

/-- `buildWakeOnLanPacket`: what it returns, and the memory of the caller afterwards. -/
def buildWakeOnLanPacket (macText : Option CString) (packet : Option Bytes) (packetCapacity : Nat) :
    Bool × Option Bytes :=
  match packet with
  | none => (false, none)
  | some memory =>
    if packetCapacity < kWakeOnLanPacketSize then (false, some memory)
    else
      match parseMac macText (List.replicate 6 0) with
      | (false, _) => (false, some memory)
      | (true, mac) => (true, some (writePacket memory mac))

/-! ## What is written -/

/-- Six bytes of 0xFF, and the address sixteen times. -/
def magic (mac : Bytes) : Bytes := List.replicate 6 0xFF ++ (List.replicate 16 mac).flatten

theorem repeated_length {mac : Bytes} (h : mac.length = 6) (n : Nat) :
    (List.replicate 6 (0xFF : UInt8) ++ (List.replicate n mac).flatten).length = 6 + n * 6 := by
  rw [List.length_append, List.length_flatten, List.length_replicate, List.map_replicate, List.sum_replicate_nat,
    h]

theorem magic_length {mac : Bytes} (h : mac.length = 6) : (magic mac).length = kWakeOnLanPacketSize :=
  repeated_length h 16

/-- Bytes in the place of as many others. -/
theorem writeAt_append {front old rest bytes : Bytes} (h : old.length = bytes.length) :
    writeAt (front ++ (old ++ rest)) front.length bytes = front ++ (bytes ++ rest) := by
  have hdrop : (front ++ (old ++ rest)).drop (front.length + bytes.length) = rest := by
    rw [← h, ← List.length_append, ← List.append_assoc, List.drop_left]
  rw [writeAt, hdrop, List.take_left, List.append_assoc]

theorem header_eq (rest : Bytes) :
    (List.range 6).foldl (fun packet index => packet.set index 0xFF) (List.replicate 102 0 ++ rest) =
      List.replicate 6 0xFF ++ (List.replicate 96 0 ++ rest) := rfl

/-- After so many repetitions, so many addresses and zeros are in the packet. -/
theorem repeats_eq {mac : Bytes} (hmac : mac.length = 6) (rest : Bytes) {n : Nat} (hn : n ≤ 16) :
    (List.range n).foldl (fun packet repeated => writeAt packet (6 + repeated * 6) mac)
        (List.replicate 6 0xFF ++ (List.replicate 96 0 ++ rest)) =
      (List.replicate 6 0xFF ++ (List.replicate n mac).flatten) ++ (List.replicate (96 - n * 6) 0 ++ rest) := by
  induction n with
  | zero => rw [List.replicate_zero, List.flatten_nil, List.append_nil]; rfl
  | succ n ih =>
    rw [List.range_succ, List.foldl_append, ih (Nat.le_of_succ_le hn), List.foldl_cons, List.foldl_nil]
    have hnext : (List.replicate (n + 1) mac).flatten = (List.replicate n mac).flatten ++ mac := by
      rw [List.replicate_succ', List.flatten_append, List.flatten_cons, List.flatten_nil, List.append_nil]
    have hzeros : List.replicate (96 - n * 6) (0 : UInt8) ++ rest =
        List.replicate 6 0 ++ (List.replicate (96 - (n + 1) * 6) 0 ++ rest) := by
      rw [← List.append_assoc, List.replicate_append_replicate]
      congr 2
      omega
    rw [hzeros, ← repeated_length hmac n, writeAt_append (by rw [List.length_replicate, hmac]), hnext]
    simp only [List.append_assoc]

/-- The packet stands at the start of the memory, and what is behind it stays. -/
theorem writePacket_eq {memory mac : Bytes} (hmac : mac.length = 6) :
    writePacket memory mac = magic mac ++ memory.drop kWakeOnLanPacketSize := by
  have hcleared : writeAt memory 0 (List.replicate kWakeOnLanPacketSize 0) =
      List.replicate 102 0 ++ memory.drop kWakeOnLanPacketSize := by
    rw [writeAt, List.take_zero, List.nil_append, List.length_replicate, Nat.zero_add]
    rfl
  rw [writePacket, hcleared, header_eq, repeats_eq hmac _ (Nat.le_refl 16)]
  rfl

/-- Where the builder refuses, the memory of the caller is as it was. -/
theorem build_refused {macText : Option CString} {packet : Option Bytes} {packetCapacity : Nat}
    (h : (buildWakeOnLanPacket macText packet packetCapacity).1 = false) :
    (buildWakeOnLanPacket macText packet packetCapacity).2 = packet := by
  cases packet with
  | none => rfl
  | some memory =>
    simp only [buildWakeOnLanPacket] at h ⊢
    split
    · rfl
    · rename_i hroom
      rw [if_neg hroom] at h
      split
      · rfl
      · rename_i mac hparse
        rw [hparse] at h
        cases h

end WakeOnLan
end Pipa.Firmware
