import Pipa.Lib.Machine
import Pipa.Secure.Canonical

/- The record layer of protocol v2: `SecureSession` (`secure_session.py`) and
   `PipaSecureSession` (`pipa_secure_session.cpp`), which derive directional
   keys from a shared secret and seal and open numbered records.

   ChaCha20-Poly1305 and HKDF-SHA256 come from libraries and are parameters. The
   firmware's cipher object takes the key and nonce sizes used here, so its
   `setKey` and `setIV` do not fail. Every call reports the encryption it made, if
   any, next to its result. -/
namespace Pipa.Secure
open Pipa.Lib

/-! ## Primitives -/

/-- ChaCha20-Poly1305: ciphertext and tag as one byte string. -/
structure Aead where
  encrypt (key nonce plaintext associatedData : Bytes) : Bytes
  decrypt (key nonce ciphertext associatedData : Bytes) : Option Bytes

/-- What the libraries document of it: the tag has 16 bytes and what was encrypted is
decrypted again. -/
structure Aead.Lawful (aead : Aead) : Prop where
  length : ∀ k n p ad, (aead.encrypt k n p ad).length = p.length + 16
  decrypt_encrypt : ∀ k n p ad, aead.decrypt k n (aead.encrypt k n p ad) ad = some p
  decrypt_length : ∀ k n c ad p, aead.decrypt k n c ad = some p → c.length = p.length + 16

/-- HKDF-SHA256 for 72 bytes: secret, salt, info. -/
abbrev Kdf := Bytes → Bytes → Bytes → Fixed 72

/-- The tag of `Aead.checksum`. -/
def checksumTag (key nonce plaintext associatedData : Bytes) : Bytes :=
  [key.sum, nonce.sum, plaintext.sum, associatedData.sum] ++ List.replicate 12 0

/-- A stand-in for concrete runs: the plaintext followed by a tag of byte sums. -/
def Aead.checksum : Aead where
  encrypt k n p ad := p ++ checksumTag k n p ad
  decrypt k n c ad :=
    let p := c.take (c.length - 16)
    if c = p ++ checksumTag k n p ad then some p else none

theorem Aead.checksum_lawful : Aead.checksum.Lawful where
  length k n p ad := by simp [checksum, checksumTag]
  decrypt_encrypt k n p ad := by
    have htake : (p ++ checksumTag k n p ad).take ((p ++ checksumTag k n p ad).length - 16) = p := by
      simp [checksumTag]
    simp only [checksum, htake, if_true]
  decrypt_length k n c ad p h := by
    simp only [checksum] at h
    split at h
    · rename_i hc
      obtain rfl := Option.some.inj h
      have hlength := congrArg List.length hc
      simpa [checksumTag] using hlength
    · cases h

/-- A stand-in for concrete runs: 72 different bytes, shifted by the byte sums. -/
def Kdf.checksum : Kdf := fun secret salt info =>
  ⟨(List.range 72).map (fun i => i.toUInt8 + secret.sum + salt.sum + info.sum), by simp⟩

inductive Role where
  | client | server
  deriving DecidableEq

/-- The two directions' keys and nonce prefixes. -/
structure Material where
  clientKey : Fixed 32
  serverKey : Fixed 32
  clientPrefix : Fixed 4
  serverPrefix : Fixed 4

/-- `length` bytes from `offset` on. -/
def slice {n : Nat} (b : Fixed n) (offset length : Nat) (h : offset + length ≤ n) : Fixed length :=
  ⟨(b.val.drop offset).take length, by
    rw [List.length_take, List.length_drop, b.property]; omega⟩

def hkdfInfo : Bytes := literal "pipa/secure-session/v2"

def deriveMaterial (kdf : Kdf) (sharedSecret transcriptHash : Bytes) : Material :=
  let derived := kdf sharedSecret transcriptHash (hkdfInfo ++ transcriptHash)
  { clientKey := slice derived 0 32 (by decide)
    serverKey := slice derived 32 32 (by decide)
    clientPrefix := slice derived 64 4 (by decide)
    serverPrefix := slice derived 68 4 (by decide) }

/-- One use of the cipher. -/
structure Encryption where
  key : Bytes
  nonce : Bytes
  plaintext : Bytes
  associatedData : Bytes
  ciphertext : Bytes

def maxRecordBytes : Nat := 64 * 1024
def maxSequence : Nat := 2 ^ 64 - 1

/-! ## Python -/

/-- The `RecordError`s, `ReplayError` and `ClosedSessionError` of a session; `overflow` is the
`OverflowError` of `int.to_bytes`, and `header` the error of `_canonical`. -/
inductive RecordError where
  | closed | payload | additionalData | exhausted | header | overflow
  | notObject | foreign | sequence | replay | ciphertext | tooLarge | authentication | plaintext
  deriving DecidableEq

/-- `SecureSession`. -/
structure SecureSession where
  sessionId : PyStr
  sendKey : Fixed 32
  receiveKey : Fixed 32
  sendNoncePrefix : Fixed 4
  receiveNoncePrefix : Fixed 4
  sendSequence : Nat
  receiveSequence : Nat
  closed : Bool
  valid : isIdentifier sessionId = true

namespace SecureSession

/-- `secure_session_from_shared_secret`; `none` is its `HandshakeError`. -/
def fromSharedSecret (kdf : Kdf) (sessionId : PyStr) (sharedSecret transcriptHash : Bytes) (role : Role) :
    Option SecureSession :=
  if h : isIdentifier sessionId = true then
    if sharedSecret.length ≠ 32 then none
    else if transcriptHash.length ≠ 32 then none
    else if sharedSecret.all (· = 0) then none
    else
      let m := deriveMaterial kdf sharedSecret transcriptHash
      some (match role with
        | .client => ⟨sessionId, m.clientKey, m.serverKey, m.clientPrefix, m.serverPrefix, 0, 0, false, h⟩
        | .server => ⟨sessionId, m.serverKey, m.clientKey, m.serverPrefix, m.clientPrefix, 0, 0, false, h⟩)
  else none

/-- `_nonce`; `none` is the `OverflowError` of `to_bytes(8, "big")`. -/
def nonce (noncePrefix : Fixed 4) (sequence : Nat) : Option Bytes :=
  if sequence < 2 ^ 64 then some (noncePrefix.val ++ beBytes 8 sequence) else none

def sealedFrame (sessionId : PyStr) (sequence : Nat) (ciphertext : Bytes) : Object :=
  recordHeader sessionId sequence ++ [(PyStr.ofString "ciphertext", .str (encode ciphertext))]

/-- What a call gives back, and the encryption it made. -/
structure Output where
  encryption : Option Encryption
  result : Except RecordError Value

variable (aead : Aead)

def failed (s : SecureSession) (e : RecordError) : SecureSession × Output := (s, ⟨none, .error e⟩)

/-- `seal`. -/
def sealRecord (s : SecureSession) (payload additionalData : Bytes) : SecureSession × Output :=
  if s.closed then s.failed .closed
  else if payload.length > maxRecordBytes then s.failed .payload
  else if additionalData.length > 1024 then s.failed .additionalData
  else if s.sendSequence > maxSequence then s.failed .exhausted
  else
    match nonce s.sendNoncePrefix s.sendSequence, canonical (recordHeader s.sessionId s.sendSequence) with
    | none, _ => s.failed .overflow
    | _, none => s.failed .header
    | some n, some header =>
      let ciphertext := aead.encrypt s.sendKey.val n payload (header ++ additionalData)
      ({ s with sendSequence := s.sendSequence + 1 },
       ⟨some ⟨s.sendKey.val, n, payload, header ++ additionalData, ciphertext⟩,
        .ok (.dict (sealedFrame s.sessionId s.sendSequence ciphertext))⟩)

/-- `open` from the point where the sequence number is the expected one. -/
def decryptRecord (s : SecureSession) (ciphertext additionalData : Bytes) : Except RecordError Bytes :=
  if ciphertext.length > maxRecordBytes + 16 then .error .tooLarge
  else if additionalData.length > 1024 then .error .additionalData
  else
    match nonce s.receiveNoncePrefix s.receiveSequence,
        canonical (recordHeader s.sessionId s.receiveSequence) with
    | none, _ => .error .overflow
    | _, none => .error .header
    | some n, some header =>
      match aead.decrypt s.receiveKey.val n ciphertext (header ++ additionalData) with
      | none => .error .authentication
      | some payload =>
        if payload.length > maxRecordBytes then .error .plaintext else .ok payload

/-- The checks of `open` up to the ciphertext, which is returned. -/
def checkFrame (s : SecureSession) (frame : Value) : Except RecordError Bytes :=
  match frame with
  | .dict fields =>
    let get (k : String) : Value := (Object.get? fields (PyStr.ofString k)).getD .null
    if !(get "protocol_version").equalsInt secureProtocolVersion then .error .foreign
    else match get "session_id" with
      | .str sessionId =>
        if sessionId ≠ s.sessionId then .error .foreign
        else match get "sequence" with
          | .int sequence =>
            if ¬ (0 ≤ sequence ∧ sequence ≤ maxSequence) then .error .sequence
            else if sequence ≠ s.receiveSequence then .error .replay
            else match decode (get "ciphertext") none with
              | none => .error .ciphertext
              | some ciphertext => .ok ciphertext
          | _ => .error .sequence
      | _ => .error .foreign
  | _ => .error .notObject

/-- `open`. -/
def openRecord (s : SecureSession) (frame : Value) (additionalData : Bytes) :
    SecureSession × Except RecordError Bytes :=
  if s.closed then (s, .error .closed)
  else match s.checkFrame frame with
    | .error e => (s, .error e)
    | .ok ciphertext =>
      match s.decryptRecord aead ciphertext additionalData with
      | .error e => (s, .error e)
      | .ok payload => ({ s with receiveSequence := s.receiveSequence + 1 }, .ok payload)

/-- `close`. -/
def close (s : SecureSession) : SecureSession := { s with closed := true }

end SecureSession

/-! ## Firmware -/

/-- `PipaSecureSession`. -/
structure PipaSecureSession where
  sessionId : Bytes
  sendKey : Fixed 32
  receiveKey : Fixed 32
  sendNoncePrefix : Fixed 4
  receiveNoncePrefix : Fixed 4
  sendSequence : UInt64
  receiveSequence : UInt64
  ready : Bool

namespace PipaSecureSession

def zeros (n : Nat) : Fixed n := ⟨List.replicate n 0, List.length_replicate⟩

/-- The state after construction or `clear`. -/
def cleared : PipaSecureSession := ⟨[], zeros 32, zeros 32, zeros 4, zeros 4, 0, 0, false⟩

/-- `kMaxSequence`, `UINT64_MAX`. -/
def kMaxSequence : UInt64 := UInt64.ofNat maxSequence

/-- `buildNonce`: the prefix, then the sequence number with its low byte last. -/
def buildNonce (noncePrefix : Fixed 4) (sequence : UInt64) : Bytes :=
  noncePrefix.val ++ (List.range 8).reverse.map (fun index => (sequence >>> UInt64.ofNat (index * 8)).toUInt8)

/-- `beginFromSharedSecret`: the session and whether it is ready. Whatever was there before
is cleared first. -/
def beginFromSharedSecret (kdf : Kdf) (sessionId : Bytes) (sharedSecret transcriptHash : Fixed 32)
    (clientRole : Bool) : PipaSecureSession × Bool :=
  if !validIdentifier sessionId then (cleared, false)
  else if sharedSecret.val.all (· = 0) then (cleared, false)
  else
    let m := deriveMaterial kdf sharedSecret.val transcriptHash.val
    ({ sessionId := sessionId
       sendKey := if clientRole then m.clientKey else m.serverKey
       receiveKey := if clientRole then m.serverKey else m.clientKey
       sendNoncePrefix := if clientRole then m.clientPrefix else m.serverPrefix
       receiveNoncePrefix := if clientRole then m.serverPrefix else m.clientPrefix
       sendSequence := 0, receiveSequence := 0, ready := true }, true)

/-- What `seal` leaves in the output buffer, and the encryption it made. -/
structure Output where
  encryption : Option Encryption
  result : Option Bytes

variable (aead : Aead)

/-- `seal`. `capacity` is that of the output buffer, `none` for a null one. -/
def sealRecord (s : PipaSecureSession) (plaintext additionalData : Bytes) (capacity : Option Nat) :
    PipaSecureSession × Output :=
  if !s.ready || plaintext.length > maxRecordBytes || additionalData.length > 1024 ||
      !capacity.any (fun n => plaintext.length + 16 ≤ n) || s.sendSequence == kMaxSequence then
    (s, ⟨none, none⟩)
  else
    let nonce := buildNonce s.sendNoncePrefix s.sendSequence
    let associatedData := Firmware.headerFor s.sessionId s.sendSequence ++ additionalData
    let output := aead.encrypt s.sendKey.val nonce plaintext associatedData
    ({ s with sendSequence := s.sendSequence + 1 },
     ⟨some ⟨s.sendKey.val, nonce, plaintext, associatedData, output⟩, some output⟩)

/-- `open`. -/
def openRecord (s : PipaSecureSession) (sequence : UInt64) (ciphertextAndTag additionalData : Bytes)
    (capacity : Option Nat) : PipaSecureSession × Option Bytes :=
  if !s.ready || ciphertextAndTag.length < 16 || ciphertextAndTag.length > maxRecordBytes + 16 ||
      additionalData.length > 1024 || !capacity.any (fun n => ciphertextAndTag.length - 16 ≤ n) ||
      sequence != s.receiveSequence || sequence == kMaxSequence then
    (s, none)
  else
    match aead.decrypt s.receiveKey.val (buildNonce s.receiveNoncePrefix sequence) ciphertextAndTag
        (Firmware.headerFor s.sessionId sequence ++ additionalData) with
    | none => (s, none)
    | some plaintext => ({ s with receiveSequence := s.receiveSequence + 1 }, some plaintext)

end PipaSecureSession

end Pipa.Secure
