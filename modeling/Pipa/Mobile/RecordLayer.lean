import Pipa.Link.Base64Decoders
import Pipa.Mobile.Capabilities
import Pipa.Mobile.Reader
import Pipa.Secure.Nonces

/- The record layer of the phone (`PipaSecureRecordLayer`), next to the `SecureSession` of Python with the same
   keys.

   The phone reads a frame more freely than Python does (a number written as a fraction, a session id that Swift
   takes for equal) and is stricter otherwise: what it refuses closes it. What it does not refuse, a Python session
   opens that is handed the frame as it is to be written (`openRaw_cases`). -/
namespace Pipa.Mobile
open Pipa.Lib
open Pipa.Secure (Aead Encryption Kdf Role SecureSession canonical isIdentifier literal)
open Pipa.Core (names)

/-- The platform, with what the protocol uses of `Foundation`. -/
structure Codec extends Platform where
  /-- `Data(base64Encoded:)`. -/
  base64Encoded : PyStr → Option Bytes
  /-- `PipaMobileCodec.canonicalJSON`. -/
  canonicalJSON : Object → Option Bytes

namespace PipaSecureRecordLayer

/-- The header of a record. -/
def header (sessionID : PyStr) (sequence : Nat) : Object :=
  [(PyStr.ofString "protocol_version", .int 2), (PyStr.ofString "sequence", .int sequence),
   (PyStr.ofString "session_id", .str sessionID)]

end PipaSecureRecordLayer

/-- What `Foundation` documents: base64 is decoded again, and the fields of a header are written in their order,
without spaces. -/
structure Codec.Lawful (c : Codec) : Prop where
  base64 : ∀ data, c.base64Encoded (Link.PipaMobileCodec.base64EncodedString data) = some data
  header : ∀ sessionID sequence, isIdentifier sessionID = true → sequence < 2 ^ 64 →
    c.canonicalJSON (PipaSecureRecordLayer.header sessionID sequence) =
      canonical (PipaSecureRecordLayer.header sessionID sequence)

/-! ## The record layer -/

structure PipaSecureRecordLayer where
  sessionID : PyStr
  sendKey : Fixed 32
  receiveKey : Fixed 32
  sendNoncePrefix : Fixed 4
  receiveNoncePrefix : Fixed 4
  sendSequence : Nat
  receiveSequence : Nat
  closed : Bool

namespace PipaSecureRecordLayer

def maxRecordBytes : Nat := 64 * 1024
def maxAdditionalDataBytes : Nat := 1024

/-- `UInt64.max`. -/
def lastSequence : Nat := 2 ^ 64 - 1

def recordFields : List PyStr := names ["ciphertext", "protocol_version", "sequence", "session_id"]

/-- The additional data of a record that carries JSON. -/
def jsonData : Bytes := literal "pipa/json/v2"

/- Where the keys and the nonce prefixes stand in the derived material. -/
theorem clientKey_le : 0 + 32 ≤ 72 := by decide

theorem serverKey_le : 32 + 32 ≤ 72 := by decide

theorem clientPrefix_le : 64 + 4 ≤ 72 := by decide

theorem serverPrefix_le : 68 + 4 ≤ 72 := by decide

/-- `init(sessionID:sharedSecretData:transcriptHash:role:)`. -/
def new (kdf : Kdf) (sessionID : PyStr) (sharedSecretData transcriptHash : Bytes) (role : Role) :
    Option PipaSecureRecordLayer :=
  if sharedSecretData.length ≠ 32 ∨ sharedSecretData.all (· = 0) = true ∨ transcriptHash.length ≠ 32 then none
  else
    let material := kdf sharedSecretData transcriptHash (literal "pipa/secure-session/v2" ++ transcriptHash)
    let clientKey := Secure.slice material 0 32 clientKey_le
    let serverKey := Secure.slice material 32 32 serverKey_le
    let clientPrefix := Secure.slice material 64 4 clientPrefix_le
    let serverPrefix := Secure.slice material 68 4 serverPrefix_le
    match role with
    | .client => some ⟨sessionID, clientKey, serverKey, clientPrefix, serverPrefix, 0, 0, false⟩
    | .server => some ⟨sessionID, serverKey, clientKey, serverPrefix, clientPrefix, 0, 0, false⟩

/-- `close`. -/
def close (layer : PipaSecureRecordLayer) : PipaSecureRecordLayer := { layer with closed := true }

variable (aead : Aead) (c : Codec)

/-- What a call that seals gives back, and the encryption it made. -/
structure Output where
  encryption : Option Encryption
  result : Except PipaMobileError Object

def failed (layer : PipaSecureRecordLayer) (e : PipaMobileError) : PipaSecureRecordLayer × Output :=
  (layer, ⟨none, .error e⟩)

/-- `sealRaw`. -/
def sealRaw (layer : PipaSecureRecordLayer) (payload additionalData : Bytes) : PipaSecureRecordLayer × Output :=
  if layer.closed then layer.failed .sessionClosed
  else if ¬ layer.sendSequence < lastSequence then layer.failed .sessionClosed
  else if ¬ (payload.length ≤ maxRecordBytes ∧ additionalData.length ≤ maxAdditionalDataBytes) then
    layer.failed .payloadTooLarge
  else
    match c.canonicalJSON (header layer.sessionID layer.sendSequence) with
    | none => layer.failed .invalidMessage
    | some json =>
      let nonce := layer.sendNoncePrefix.val ++ beBytes 8 layer.sendSequence
      let aad := json ++ additionalData
      let sealedData := aead.encrypt layer.sendKey.val nonce payload aad
      ({ layer with sendSequence := layer.sendSequence + 1 },
       ⟨some ⟨layer.sendKey.val, nonce, payload, aad, sealedData⟩,
        .ok (header layer.sessionID layer.sendSequence ++
          [(PyStr.ofString "ciphertext", .str (Link.PipaMobileCodec.encodeBase64URL sealedData))])⟩)

/-- `seal`. -/
def sealObject (layer : PipaSecureRecordLayer) (payload : Object) : PipaSecureRecordLayer × Output :=
  match c.canonicalJSON payload with
  | none => layer.failed .invalidMessage
  | some plaintext => layer.sealRaw aead c plaintext jsonData

/-- `frame["sequence"]`, as a `UInt64` or else as an `Int`. -/
def sequenceOf (frame : Object) : Option Nat :=
  ((frame.get? (PyStr.ofString "sequence")).bind (number c.toPlatform)).bind
    (fun n => if 0 ≤ n ∧ n < 2 ^ 64 then some n.toNat else none)

/-- `Set(frame.keys) == recordFields`. -/
def hasRecordFields (frame : Object) : Bool :=
  frame.keys.all (fun k => k ∈ recordFields) && recordFields.all (fun k => k ∈ frame.keys)

/-- The checks of `openRaw` up to the ciphertext, which is returned. -/
def readFrame (layer : PipaSecureRecordLayer) (frame : Object) : Except PipaMobileError Bytes :=
  match sequenceOf c frame with
  | none => .error .invalidRecord
  | some sequence =>
    if ¬ (hasRecordFields frame = true ∧
        (frame.get? (PyStr.ofString "protocol_version")).bind (asInt c.toPlatform) = some 2 ∧
        ((frame.get? (PyStr.ofString "session_id")).bind asString).any (same c.toPlatform · layer.sessionID) = true ∧
        sequence = layer.receiveSequence ∧ sequence < lastSequence) then .error .invalidRecord
    else
      match (frame.get? (PyStr.ofString "ciphertext")).bind asString with
      | none => .error .invalidRecord
      | some ciphertextText =>
        match Link.PipaMobileCodec.decodeBase64URL c.base64Encoded ciphertextText none with
        | none => .error .invalidBase64
        | some ciphertext =>
          if 16 ≤ ciphertext.length ∧ ciphertext.length ≤ maxRecordBytes + 16 then .ok ciphertext
          else .error .invalidRecord

/-- `openRaw`. -/
def openRaw (layer : PipaSecureRecordLayer) (frame : Object) (additionalData : Bytes) :
    PipaSecureRecordLayer × Except PipaMobileError Bytes :=
  if layer.closed then (layer, .error .sessionClosed)
  else if additionalData.length > maxAdditionalDataBytes then (layer.close, .error .payloadTooLarge)
  else
    match layer.readFrame c frame with
    | .error e => (layer.close, .error e)
    | .ok ciphertext =>
      match c.canonicalJSON (header layer.sessionID layer.receiveSequence) with
      | none => (layer.close, .error .invalidMessage)
      | some json =>
        match aead.decrypt layer.receiveKey.val (layer.receiveNoncePrefix.val ++ beBytes 8 layer.receiveSequence)
            ciphertext (json ++ additionalData) with
        | none => (layer.close, .error .invalidRecord)
        | some plaintext =>
          if plaintext.length ≤ maxRecordBytes then
            ({ layer with receiveSequence := layer.receiveSequence + 1 }, .ok plaintext)
          else (layer.close, .error .invalidRecord)

/-- What `open` makes of the plaintext. -/
def readPlaintext (plaintext : Bytes) : Option Object :=
  if isStrictJSONObject c.foundation plaintext then c.foundation.dictionary plaintext else none

/-- `open`. -/
def openObject (layer : PipaSecureRecordLayer) (frame : Object) :
    PipaSecureRecordLayer × Except PipaMobileError Object :=
  match layer.openRaw aead c frame jsonData with
  | (layer, .error e) => (layer, .error e)
  | (layer, .ok plaintext) =>
    match readPlaintext c plaintext with
    | none => (layer.close, .error .invalidRecord)
    | some object => (layer, .ok object)

/-- `openBinary`. -/
def openBinary (layer : PipaSecureRecordLayer) (frame : Object) (additionalData : Bytes) :
    PipaSecureRecordLayer × Except PipaMobileError Bytes :=
  if hasRecordFields frame then layer.openRaw aead c frame additionalData
  else (layer.close, .error .invalidRecord)

end PipaSecureRecordLayer

/-! ## Next to a Python session -/

namespace PipaSecureRecordLayer
variable {aead : Aead} {c : Codec} {layer : PipaSecureRecordLayer} {s : SecureSession}

/-- The same session, as long as it is open. -/
structure Stands (layer : PipaSecureRecordLayer) (s : SecureSession) : Prop where
  sessionID : s.sessionId = layer.sessionID
  sendKey : s.sendKey = layer.sendKey
  receiveKey : s.receiveKey = layer.receiveKey
  sendNoncePrefix : s.sendNoncePrefix = layer.sendNoncePrefix
  receiveNoncePrefix : s.receiveNoncePrefix = layer.receiveNoncePrefix
  closed : s.closed = layer.closed
  send : layer.closed = false → s.sendSequence = layer.sendSequence
  receive : layer.closed = false → s.receiveSequence = layer.receiveSequence

theorem new_stands {kdf : Kdf} {sessionID : PyStr} {secret hash : Bytes} {role : Role}
    (hlayer : new kdf sessionID secret hash role = some layer)
    (hsession : SecureSession.fromSharedSecret kdf sessionID secret hash role = some s) : Stands layer s := by
  unfold new at hlayer
  unfold SecureSession.fromSharedSecret at hsession
  split at hlayer
  · cases hlayer
  split at hsession
  · split at hsession
    · cases hsession
    split at hsession
    · cases hsession
    split at hsession
    · cases hsession
    · obtain rfl := Option.some.inj hsession
      cases role <;>
        (obtain rfl := Option.some.inj hlayer
         exact ⟨rfl, rfl, rfl, rfl, rfl, rfl, fun _ => rfl, fun _ => rfl⟩)
  · cases hsession

theorem Stands.close (h : Stands layer s) : Stands layer.close s.close :=
  ⟨h.sessionID, h.sendKey, h.receiveKey, h.sendNoncePrefix, h.receiveNoncePrefix, rfl, (by intro hopen; cases hopen),
    (by intro hopen; cases hopen)⟩

/-- The header that is authenticated is the one that Python writes. -/
theorem header_eq (hc : c.Lawful) (h : Stands layer s) {n : Nat} (hn : n ≤ lastSequence) :
    c.canonicalJSON (header layer.sessionID n) = some (Secure.headerOf s.sessionId n) := by
  have hlt : n < 2 ^ 64 := by
    have : lastSequence < 2 ^ 64 := by decide
    omega
  rw [← h.sessionID, hc.header s.sessionId n s.valid hlt]
  exact Secure.canonical_header s.valid hn

/-- What the session decrypts is what the phone does. -/
theorem Stands.decryption_eq (h : Stands layer s) (hopen : layer.closed = false) (aead : Aead)
    (ciphertext additionalData : Bytes) :
    s.decryption aead ciphertext additionalData =
      aead.decrypt layer.receiveKey.val (layer.receiveNoncePrefix.val ++ beBytes 8 layer.receiveSequence) ciphertext
        (Secure.headerOf s.sessionId layer.receiveSequence ++ additionalData) := by
  simp only [SecureSession.decryption, Secure.nonceOf, h.receiveKey, h.receiveNoncePrefix, h.receive hopen]

/-- Sealing fails, or it is what Python does. -/
theorem sealRaw_cases (aead : Aead) (hc : c.Lawful) (h : Stands layer s) (payload additionalData : Bytes) :
    (∃ e, layer.sealRaw aead c payload additionalData = (layer, ⟨none, .error e⟩)) ∨
    (layer.closed = false ∧ s.CanSeal payload additionalData ∧
      layer.sealRaw aead c payload additionalData =
        ({ layer with sendSequence := layer.sendSequence + 1 },
         ⟨some (s.encryptionOf aead payload additionalData), .ok (SecureSession.sealedFrame s.sessionId s.sendSequence
            (s.encryptionOf aead payload additionalData).ciphertext)⟩)) := by
  unfold sealRaw
  split
  · exact .inl ⟨_, rfl⟩
  rename_i hopen
  rw [Bool.not_eq_true] at hopen
  split
  · exact .inl ⟨_, rfl⟩
  rename_i hsequence
  rw [not_not] at hsequence
  split
  · exact .inl ⟨_, rfl⟩
  rename_i hsize
  rw [not_not] at hsize
  right
  have hsend := h.send hopen
  refine ⟨hopen, ⟨h.closed.trans hopen, hsize.1, hsize.2, ?_⟩, ?_⟩
  · rw [hsend]
    exact Nat.le_of_lt hsequence
  · rw [header_eq hc h (Nat.le_of_lt hsequence)]
    simp only [SecureSession.encryptionOf, SecureSession.sealedFrame, Link.PipaMobileCodec.encodeBase64URL_eq,
      h.sendKey, h.sendNoncePrefix, hsend, h.sessionID, Secure.nonceOf]
    rfl

theorem readFrame_ok {frame : Object} {ciphertext : Bytes} (h : layer.readFrame c frame = .ok ciphertext) :
    layer.receiveSequence < lastSequence ∧ 16 ≤ ciphertext.length ∧ ciphertext.length ≤ maxRecordBytes + 16 := by
  unfold readFrame at h
  split at h
  · cases h
  split at h
  · cases h
  rename_i hchecks
  rw [not_not] at hchecks
  obtain ⟨-, -, -, rfl, hlast⟩ := hchecks
  split at h
  · cases h
  split at h
  · cases h
  split at h
  · rename_i hlength
    obtain rfl := Except.ok.inj h
    exact ⟨hlast, hlength⟩
  · cases h

/-- The frame of this number with this ciphertext, as Python writes it. -/
def nextFrame (s : SecureSession) (ciphertext : Bytes) : Object :=
  SecureSession.sealedFrame s.sessionId s.receiveSequence ciphertext

theorem checkFrame_nextFrame {ciphertext : Bytes} (hsequence : s.receiveSequence ≤ Secure.maxSequence)
    (hlength : 16 ≤ ciphertext.length) : s.checkFrame (.dict (nextFrame s ciphertext)) = .ok ciphertext := by
  have hne : ciphertext ≠ [] := by
    rintro rfl
    exact absurd hlength (by decide)
  rw [nextFrame, SecureSession.checkFrame_sealedFrame s hsequence, if_neg (not_not.mpr rfl), if_neg hne]

/-- Opening fails and closes, or it is what Python does with the frame as it is to be written. -/
theorem openRaw_cases (hlaw : aead.Lawful) (hc : c.Lawful) (h : Stands layer s) (frame : Object)
    (additionalData : Bytes) :
    (∃ e, layer.openRaw aead c frame additionalData = (layer.close, .error e)) ∨
    (∃ ciphertext plaintext, layer.closed = false ∧ layer.readFrame c frame = .ok ciphertext ∧
      s.checkFrame (.dict (nextFrame s ciphertext)) = .ok ciphertext ∧
      s.decryption aead ciphertext additionalData = some plaintext ∧
      s.openRecord aead (.dict (nextFrame s ciphertext)) additionalData =
        ({ s with receiveSequence := s.receiveSequence + 1 }, .ok plaintext) ∧
      layer.openRaw aead c frame additionalData =
        ({ layer with receiveSequence := layer.receiveSequence + 1 }, .ok plaintext)) := by
  unfold openRaw
  split
  -- a closed layer is its own closing
  · rename_i hclosed
    refine .inl ⟨.sessionClosed, ?_⟩
    obtain ⟨_, _, _, _, _, _, _, closed⟩ := layer
    obtain rfl : closed = true := hclosed
    rfl
  rename_i hopen
  rw [Bool.not_eq_true] at hopen
  split
  · exact .inl ⟨_, rfl⟩
  rename_i hdata
  split
  · exact .inl ⟨_, rfl⟩
  rename_i ciphertext hread
  obtain ⟨hlast, hshort, hlong⟩ := readFrame_ok hread
  rw [header_eq hc h (Nat.le_of_lt hlast)]
  have hreceive := h.receive hopen
  simp only
  split
  · exact .inl ⟨_, rfl⟩
  rename_i plaintext hplaintext
  -- the phone looks at the length of the plaintext too, and closes over it; the session has done so by now
  split
  · rw [← h.decryption_eq hopen] at hplaintext
    have hsequence : s.receiveSequence ≤ Secure.maxSequence := by
      rw [hreceive]
      exact Nat.le_of_lt hlast
    have hcheck := checkFrame_nextFrame hsequence hshort
    refine .inr ⟨ciphertext, plaintext, hopen, hread, hcheck, hplaintext, ?_, rfl⟩
    refine SecureSession.openRecord_accepted (h.closed.trans hopen) hcheck ?_
    exact SecureSession.decryptRecord_ok hlaw hsequence hlong (Nat.le_of_not_lt hdata) hplaintext
  · exact .inl ⟨_, rfl⟩

/-- The fields of a frame as Python writes it. -/
theorem nextFrame_get (ciphertext : Bytes) :
    (nextFrame s ciphertext).get? (PyStr.ofString "protocol_version") = some (.int 2) ∧
    (nextFrame s ciphertext).get? (PyStr.ofString "sequence") = some (.int s.receiveSequence) ∧
    (nextFrame s ciphertext).get? (PyStr.ofString "session_id") = some (.str s.sessionId) ∧
    (nextFrame s ciphertext).get? (PyStr.ofString "ciphertext") = some (.str (Secure.encode ciphertext)) :=
  ⟨rfl, rfl, rfl, rfl⟩

theorem nextFrame_fields (ciphertext : Bytes) : hasRecordFields (nextFrame s ciphertext) = true := by
  have hkeys : (nextFrame s ciphertext).keys = names ["protocol_version", "sequence", "session_id", "ciphertext"] := rfl
  have hall : names ["protocol_version", "sequence", "session_id", "ciphertext"] ⊆ recordFields ∧
      recordFields ⊆ names ["protocol_version", "sequence", "session_id", "ciphertext"] := by decide
  rw [hasRecordFields, hkeys, Bool.and_eq_true, List.all_eq_true, List.all_eq_true]
  exact ⟨fun k hk => decide_eq_true (hall.1 hk), fun k hk => decide_eq_true (hall.2 hk)⟩

theorem same_self (p : Platform) (text : PyStr) : same p text text = true := by
  rw [same, beq_self_eq_true]

theorem sequenceOf_int {frame : Object} {n : Nat} (hget : frame.get? (PyStr.ofString "sequence") = some (.int n))
    (hn : n < lastSequence) : sequenceOf c frame = some n := by
  have hmax : lastSequence < 2 ^ 64 := by decide
  have hfits : 0 ≤ (n : Int) ∧ (n : Int) < 2 ^ 64 := ⟨Int.natCast_nonneg n, by exact_mod_cast hn.trans hmax⟩
  rw [sequenceOf, hget, Option.bind_some, number, Option.bind_some, if_pos hfits, Int.toNat_natCast]

theorem asInt_two : asInt c.toPlatform (.int 2) = some 2 := by
  simp only [asInt, number]
  decide

theorem readFrame_of {frame : Object} {sequence : Nat} {text : PyStr} {ciphertext : Bytes}
    (hsequence : sequenceOf c frame = some sequence)
    (hchecks : hasRecordFields frame = true ∧
      (frame.get? (PyStr.ofString "protocol_version")).bind (asInt c.toPlatform) = some 2 ∧
      ((frame.get? (PyStr.ofString "session_id")).bind asString).any (same c.toPlatform · layer.sessionID) = true ∧
      sequence = layer.receiveSequence ∧ sequence < lastSequence)
    (htext : (frame.get? (PyStr.ofString "ciphertext")).bind asString = some text)
    (hdecode : Link.PipaMobileCodec.decodeBase64URL c.base64Encoded text none = some ciphertext)
    (hshort : 16 ≤ ciphertext.length) (hlong : ciphertext.length ≤ maxRecordBytes + 16) :
    layer.readFrame c frame = .ok ciphertext := by
  unfold readFrame
  rw [hsequence]
  dsimp only
  rw [if_neg (not_not.mpr hchecks), htext]
  dsimp only
  rw [hdecode]
  exact if_pos ⟨hshort, hlong⟩

/-- A frame as Python writes it is read. -/
theorem readFrame_nextFrame (hc : c.Lawful) (h : Stands layer s) (hopen : layer.closed = false)
    (hlast : layer.receiveSequence < lastSequence) {ciphertext : Bytes} (hshort : 16 ≤ ciphertext.length)
    (hlong : ciphertext.length ≤ maxRecordBytes + 16) :
    layer.readFrame c (nextFrame s ciphertext) = .ok ciphertext := by
  obtain ⟨hversion, hsequence, hsession, htext⟩ := nextFrame_get (s := s) ciphertext
  have hreceive := h.receive hopen
  have hnumber : sequenceOf c (nextFrame s ciphertext) = some layer.receiveSequence :=
    sequenceOf_int (by rw [hsequence, hreceive]) hlast
  have htwo : asInt c.toPlatform (.int 2) = some 2 := asInt_two
  have hne : ciphertext ≠ [] := by
    rintro rfl
    exact absurd hshort (by decide)
  have hdecode : Link.PipaMobileCodec.decodeBase64URL c.base64Encoded (Secure.encode ciphertext) none =
      some ciphertext := by
    rw [← Link.PipaMobileCodec.encodeBase64URL_eq]
    exact (Link.swift_canonical hc.base64 none).round_trip hne (by intro m hm; cases hm)
  have hchecks : hasRecordFields (nextFrame s ciphertext) = true ∧
      ((nextFrame s ciphertext).get? (PyStr.ofString "protocol_version")).bind (asInt c.toPlatform) = some 2 ∧
      (((nextFrame s ciphertext).get? (PyStr.ofString "session_id")).bind asString).any
        (same c.toPlatform · layer.sessionID) = true ∧
      layer.receiveSequence = layer.receiveSequence ∧ layer.receiveSequence < lastSequence := by
    refine ⟨nextFrame_fields ciphertext, ?_, ?_, rfl, hlast⟩
    · rw [hversion, Option.bind_some, htwo]
    · rw [hsession, Option.bind_some, asString, Option.any_some, h.sessionID, same_self]
  exact readFrame_of hnumber hchecks (by rw [htext, Option.bind_some, asString]) hdecode hshort hlong

/-- The next record of the other side is opened. -/
theorem openRaw_next (hlaw : aead.Lawful) (hc : c.Lawful) (h : Stands layer s) (hopen : layer.closed = false)
    (hlast : layer.receiveSequence < lastSequence) {ciphertext additionalData plaintext : Bytes}
    (hsize : plaintext.length ≤ maxRecordBytes) (hdata : additionalData.length ≤ maxAdditionalDataBytes)
    (hplaintext : s.decryption aead ciphertext additionalData = some plaintext) :
    layer.openRaw aead c (nextFrame s ciphertext) additionalData =
      ({ layer with receiveSequence := layer.receiveSequence + 1 }, .ok plaintext) := by
  have hlength := hlaw.decrypt_length _ _ _ _ _ hplaintext
  have hread : layer.readFrame c (nextFrame s ciphertext) = .ok ciphertext :=
    readFrame_nextFrame hc h hopen hlast (by omega) (by omega)
  have hdecryption : aead.decrypt layer.receiveKey.val
      (layer.receiveNoncePrefix.val ++ beBytes 8 layer.receiveSequence) ciphertext
      (Secure.headerOf s.sessionId layer.receiveSequence ++ additionalData) = some plaintext := by
    rw [← h.decryption_eq hopen, hplaintext]
  unfold openRaw
  rw [if_neg (by rw [hopen]; exact Bool.false_ne_true), if_neg (Nat.not_lt.mpr hdata), hread,
    header_eq hc h (Nat.le_of_lt hlast)]
  dsimp only
  rw [hdecryption]
  exact if_pos hsize

/-! ## A closed session -/

theorem openRaw_closed (h : layer.closed = true) (frame : Object) (additionalData : Bytes) :
    layer.openRaw aead c frame additionalData = (layer, .error .sessionClosed) := by
  rw [openRaw, if_pos h]

theorem sealRaw_closed (h : layer.closed = true) (payload additionalData : Bytes) :
    layer.sealRaw aead c payload additionalData = layer.failed .sessionClosed := by
  rw [sealRaw, if_pos h]

theorem close_of_closed (h : layer.closed = true) : layer.close = layer := by
  cases layer
  cases h
  rfl

theorem openBinary_closed (h : layer.closed = true) (frame : Object) (additionalData : Bytes) :
    ∃ err, layer.openBinary aead c frame additionalData = (layer, .error err) := by
  rw [openBinary, openRaw_closed h, close_of_closed h]
  split <;> exact ⟨_, rfl⟩

end PipaSecureRecordLayer

end Pipa.Mobile
