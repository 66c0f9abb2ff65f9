import Pipa.Lib.Dict
import Pipa.Lib.Scan
import Pipa.Secure.Signed

/- `PipaSecureHandshake` (`pipa_secure_handshake.cpp`), the client side of the
   handshake on the device.

   A JSON object is what ArduinoJson holds after parsing, duplicate keys having been
   refused before (`isDuplicateFreeJson`). Its strings keep every byte; the code
   reads them as C strings, so up to the first NUL (`cString`). The curve and the
   signatures are those of `Crypto`. -/
namespace Pipa.Secure
open Pipa.Lib

namespace Firmware

/-! ## JSON values and C strings -/

/-- The values `acceptServerHello` tells apart. -/
inductive Variant where
  | text (bytes : Bytes)
  | integer (n : Int)
  | other
  deriving DecidableEq

abbrev JsonObject := Dict Bytes Variant

/-- The bytes a C string reader sees. -/
def cString (b : Bytes) : Bytes := (CString.ofBytes b).bytes

/-- `value.is<const char*>()` and its C string. -/
def Variant.cString? : Variant → Option Bytes
  | .text b => some (cString b)
  | _ => none

/-- `value.is<int>()`, with a 32-bit `int`. -/
def Variant.int? : Variant → Option Int
  | .integer n => if -2 ^ 31 ≤ n ∧ n < 2 ^ 31 then some n else none
  | _ => none

def serverHelloFields : List Bytes :=
  [literal "client_ephemeral_public_key", literal "client_id", literal "client_nonce",
   literal "protocol_version", literal "server_ephemeral_public_key", literal "server_id",
   literal "server_nonce", literal "session_id", literal "signature"]

/-- `hasExactServerHelloFields`. -/
def hasExactServerHelloFields (object : JsonObject) : Bool :=
  object.entries.all (fun e => cString e.1 ∈ serverHelloFields) && object.size = 9

/-! ## base64url -/

/-- Symbol `index` of `kBase64UrlAlphabet`. -/
def alphabetByte (index : Nat) : UInt8 := (Base64Url.symbol index).toNat.toUInt8

/-- `encodeBase64Url`: blocks of 24 bits, the last one filled up with zeros. -/
def encodeBase64Url : Bytes → Bytes
  | a :: b :: c :: rest =>
    let block := a.toNat * 2 ^ 16 + b.toNat * 2 ^ 8 + c.toNat
    alphabetByte (block / 2 ^ 18 % 64) :: alphabetByte (block / 2 ^ 12 % 64) ::
      alphabetByte (block / 2 ^ 6 % 64) :: alphabetByte (block % 64) :: encodeBase64Url rest
  | [a, b] =>
    let block := a.toNat * 2 ^ 16 + b.toNat * 2 ^ 8
    [alphabetByte (block / 2 ^ 18 % 64), alphabetByte (block / 2 ^ 12 % 64), alphabetByte (block / 2 ^ 6 % 64)]
  | [a] =>
    let block := a.toNat * 2 ^ 16
    [alphabetByte (block / 2 ^ 18 % 64), alphabetByte (block / 2 ^ 12 % 64)]
  | [] => []

/-- The loop of `decodeBase64Url`: output so far, accumulator and number of its bits. -/
def decodeLoop (outputLength : Nat) : Bytes → Bytes → Nat → Nat → Option (Bytes × Nat)
  | [], output, _, bits => some (output, bits)
  | character :: rest, output, accumulator, bits =>
    match Base64Url.digit? character.toNat with
    | none => none
    | some digit =>
      let accumulator := accumulator * 64 + digit
      let bits := bits + 6
      if bits ≥ 8 then
        let bits := bits - 8
        if output.length ≥ outputLength then none
        else decodeLoop outputLength rest (output ++ [(accumulator / 2 ^ bits % 256).toUInt8])
          (accumulator % 2 ^ bits) bits
      else decodeLoop outputLength rest output accumulator bits

/-- `decodeBase64Url`, for a known output length. Its argument is a C string, so `strlen` is the number of its
bytes. -/
def decodeBase64Url (value : CString) (outputLength : Nat) : Option (Fixed outputLength) :=
  let inputLength := value.bytes.length
  if inputLength = 0 ∨ inputLength ≠ (outputLength * 8 + 5) / 6 ∨ inputLength % 4 = 1 then none
  else match decodeLoop outputLength value.bytes [] 0 0 with
    | none => none
    | some (output, bits) =>
      if h : output.length = outputLength then
        if bits < 6 ∧ encodeBase64Url output = value.bytes then some ⟨output, h⟩ else none
      else none

theorem encodeBase64Url_eq (b : Bytes) : encodeBase64Url b = (encode b).bytes := by
  have hplain : Plain (encode b) := encode_idCode b
  rw [hplain.ascii.bytes_eq]
  unfold encode Base64Url.encodeText
  rw [List.map_map, List.map_map]
  show _ = (Base64Url.sextets b).map alphabetByte
  fun_induction encodeBase64Url b with
  | case1 a b c rest block ih =>
    have := a.toNat_lt; have := b.toNat_lt; have := c.toNat_lt
    simp only [Base64Url.sextets, List.map_cons, List.cons.injEq]
    refine ⟨congrArg alphabetByte ?_, congrArg alphabetByte ?_, congrArg alphabetByte ?_,
      congrArg alphabetByte ?_, ih (encode_idCode rest)⟩ <;> omega
  | case2 a b block =>
    have := a.toNat_lt; have := b.toNat_lt
    simp only [Base64Url.sextets, List.map_cons, List.map_nil, List.cons.injEq, and_true]
    refine ⟨congrArg alphabetByte ?_, congrArg alphabetByte ?_, congrArg alphabetByte ?_⟩ <;> omega
  | case3 a block =>
    have := a.toNat_lt
    simp only [Base64Url.sextets, List.map_cons, List.map_nil, List.cons.injEq, and_true]
    refine ⟨congrArg alphabetByte ?_, congrArg alphabetByte ?_⟩ <;> omega
  | case4 => rfl

theorem decodeBase64Url_eq_some {value : CString} {n : Nat} {b : Fixed n} (h : decodeBase64Url value n = some b) :
    value.bytes = (encode b.val).bytes := by
  unfold decodeBase64Url at h
  dsimp only at h
  split at h
  · cases h
  split at h
  · cases h
  split at h
  · split at h
    · rename_i hcheck
      obtain rfl := Option.some.inj h
      rw [← hcheck.2, encodeBase64Url_eq]
    · cases h
  · cases h

end Firmware

/-! ## The handshake -/

/-- `PipaSecureHandshake`; its strings are those of `c_str()`. -/
structure PipaSecureHandshake where
  sessionId : Bytes
  clientId : Bytes
  clientEphemeralPublicKey : Bytes
  clientNonce : Bytes
  clientEphemeralPrivateKey : Fixed 32
  started : Bool
  complete : Bool

/-- `DeviceIdentity`: the Ed25519 key, once it is ready. -/
structure DeviceIdentity where
  privateKey : Fixed 32
  ready : Bool

def DeviceIdentity.publicKey (crypto : Crypto) (identity : DeviceIdentity) : Fixed 32 :=
  crypto.ed25519PublicKey identity.privateKey

namespace PipaSecureHandshake
open Pipa.Secure.Firmware

/-- The state after construction or `clear`. -/
def cleared : PipaSecureHandshake := ⟨[], [], [], [], PipaSecureSession.zeros 32, false, false⟩

/-- The bits of a private key that X25519 fixes. -/
def clamp (key : Fixed 32) : Fixed 32 :=
  ⟨(key.val.modifyHead (· &&& 0xF8)).modify 31 (fun b => (b &&& 0x7F) ||| 0x40), by
    rw [List.length_modify, List.length_modifyHead, key.property]⟩

/-- `beginClient`; what `esp_fill_random` writes is given. -/
def beginClient (crypto : Crypto) (identity : DeviceIdentity) (clientId : Bytes) (sessionId : Option Bytes)
    (sessionBytes : Fixed 16) (keyBytes nonce : Fixed 32) : PipaSecureHandshake × Bool :=
  if !identity.ready || !validIdentifier clientId then (cleared, false)
  else if sessionId.any (fun id => !validIdentifier id) then (cleared, false)
  else
    let privateKey := clamp keyBytes
    ({ sessionId := sessionId.getD (encodeBase64Url sessionBytes.val)
       clientId := clientId
       clientEphemeralPublicKey := encodeBase64Url (crypto.x25519PublicKey privateKey).val
       clientNonce := encodeBase64Url nonce.val
       clientEphemeralPrivateKey := privateKey
       started := true
       complete := false }, true)

/-- `signBase64Url` over `clientSignedJson`. -/
def signature (crypto : Crypto) (identity : DeviceIdentity) (h : PipaSecureHandshake) : Fixed 64 :=
  crypto.sign identity.privateKey
    (clientSignedJson h.sessionId h.clientId h.clientEphemeralPublicKey h.clientNonce)

/-- `clientHelloJson`, empty where there is nothing to send. -/
def clientHelloJson (crypto : Crypto) (identity : DeviceIdentity) (h : PipaSecureHandshake) : Bytes :=
  if !h.started || !identity.ready then []
  else
    let unsigned := clientUnsignedJson h.sessionId h.clientId h.clientEphemeralPublicKey h.clientNonce
    unsigned.take (unsigned.length - 1) ++ literal ",\"signature\":\"" ++
      encodeBase64Url (h.signature crypto identity).val ++ literal "\"\x7d"

/-- The strings of a ServerHello, as C strings. -/
structure ServerTexts where
  sessionId : Bytes
  clientId : Bytes
  clientEphemeralPublicKey : Bytes
  clientNonce : Bytes
  serverId : Bytes
  serverEphemeralPublicKey : Bytes
  serverNonce : Bytes
  signature : Bytes

/-- A string of the object, as it is read. -/
def textOf (object : JsonObject) (key : String) : Option Bytes :=
  (object.get? (literal key)).bind Variant.cString?

/-- The eight strings, where all of them are strings. -/
def readTexts (object : JsonObject) : Option ServerTexts :=
  match textOf object "session_id", textOf object "client_id", textOf object "client_ephemeral_public_key",
      textOf object "client_nonce", textOf object "server_id", textOf object "server_ephemeral_public_key",
      textOf object "server_nonce", textOf object "signature" with
  | some sessionId, some clientId, some clientEphemeralPublicKey, some clientNonce, some serverId,
      some serverEphemeralPublicKey, some serverNonce, some signature =>
    some ⟨sessionId, clientId, clientEphemeralPublicKey, clientNonce, serverId, serverEphemeralPublicKey,
      serverNonce, signature⟩
  | _, _, _, _, _, _, _, _ => none

/-- The comparisons with the pending hello and the pinned server id. -/
def boundTo (h : PipaSecureHandshake) (t : ServerTexts) (expectedServerId : Option Bytes) : Bool :=
  validIdentifier t.sessionId && validIdentifier t.serverId &&
    expectedServerId.all (fun id => validIdentifier id && t.serverId = id) &&
    t.sessionId = h.sessionId && t.clientId = h.clientId &&
    t.clientEphemeralPublicKey = h.clientEphemeralPublicKey && t.clientNonce = h.clientNonce &&
    t.serverEphemeralPublicKey ≠ [] && t.serverNonce ≠ [] && t.signature ≠ []

/-- The fields `acceptServerHello` goes on with. -/
structure ServerFieldsRead where
  serverId : Bytes
  serverEphemeralPublicKey : Bytes
  serverNonce : Bytes
  serverKey : Fixed 32
  signature : Fixed 64

/-- `acceptServerHello` up to the signature. -/
def readServerHello (h : PipaSecureHandshake) (object : JsonObject) (expectedServerId : Option Bytes) :
    Option ServerFieldsRead :=
  if !h.started || h.complete || !hasExactServerHelloFields object then none
  else if (object.get? (literal "protocol_version")).bind Variant.int? ≠ some 2 then none
  else match readTexts object with
    | none => none
    | some t =>
      if !h.boundTo t expectedServerId then none
      else match decodeBase64Url (.ofBytes t.serverEphemeralPublicKey) 32, decodeBase64Url (.ofBytes t.serverNonce) 32,
          decodeBase64Url (.ofBytes t.signature) 64 with
        | some serverKey, some _, some signature =>
          some ⟨t.serverId, t.serverEphemeralPublicKey, t.serverNonce, serverKey, signature⟩
        | _, _, _ => none

/-- The bytes whose signature is checked. -/
def signedTranscript (h : PipaSecureHandshake) (r : ServerFieldsRead) : Bytes :=
  serverSignedJson h.sessionId h.clientId h.clientEphemeralPublicKey h.clientNonce r.serverId
    r.serverEphemeralPublicKey r.serverNonce

/-- The bytes that are hashed. -/
def transcript (h : PipaSecureHandshake) (r : ServerFieldsRead) : Bytes :=
  transcriptJson h.sessionId h.clientId h.clientEphemeralPublicKey h.clientNonce r.serverId
    r.serverEphemeralPublicKey r.serverNonce

/-- `acceptServerHello`: the handshake, the record layer and whether it succeeded. -/
def acceptServerHello (crypto : Crypto) (h : PipaSecureHandshake) (session : PipaSecureSession)
    (object : JsonObject) (serverPublicKey : Fixed 32) (expectedServerId : Option Bytes) :
    (PipaSecureHandshake × PipaSecureSession) × Bool :=
  match h.readServerHello object expectedServerId with
  | none => ((h, session), false)
  | some r =>
    if !crypto.verify serverPublicKey r.signature (h.signedTranscript r) then ((h, session), false)
    else match crypto.exchange h.clientEphemeralPrivateKey r.serverKey with
      | none => ((h, session), false)
      | some sharedSecret =>
        match PipaSecureSession.beginFromSharedSecret crypto.hkdf h.sessionId sharedSecret
            (crypto.sha256 (h.transcript r)) true with
        | (session', false) => ((h, session'), false)
        | (session', true) =>
          (({ h with clientEphemeralPrivateKey := PipaSecureSession.zeros 32, complete := true }, session'),
            true)

/-! ## What was read -/

/-- What `acceptServerHello` has checked before the signature. -/
structure Read (h : PipaSecureHandshake) (object : JsonObject) (expectedServerId : Option Bytes)
    (r : ServerFieldsRead) : Prop where
  started : h.started = true
  pending : h.complete = false
  fields : hasExactServerHelloFields object = true
  version : (object.get? (literal "protocol_version")).bind Variant.int? = some 2
  sessionId : textOf object "session_id" = some h.sessionId
  clientId : textOf object "client_id" = some h.clientId
  clientKey : textOf object "client_ephemeral_public_key" = some h.clientEphemeralPublicKey
  clientNonce : textOf object "client_nonce" = some h.clientNonce
  serverId : textOf object "server_id" = some r.serverId
  serverKey : textOf object "server_ephemeral_public_key" = some r.serverEphemeralPublicKey
  serverNonce : textOf object "server_nonce" = some r.serverNonce
  signature : textOf object "signature" = some (encode r.signature.val).bytes
  serverIdValid : validIdentifier r.serverId = true
  expected : ∀ id, expectedServerId = some id → r.serverId = id
  serverKeyValid : r.serverEphemeralPublicKey = (encode r.serverKey.val).bytes
  serverNonceValid : ∃ nonce : Fixed 32, r.serverNonce = (encode nonce.val).bytes

theorem readTexts_eq_some {object : JsonObject} {t : ServerTexts} (h : readTexts object = some t) :
    textOf object "session_id" = some t.sessionId ∧ textOf object "client_id" = some t.clientId ∧
    textOf object "client_ephemeral_public_key" = some t.clientEphemeralPublicKey ∧
    textOf object "client_nonce" = some t.clientNonce ∧ textOf object "server_id" = some t.serverId ∧
    textOf object "server_ephemeral_public_key" = some t.serverEphemeralPublicKey ∧
    textOf object "server_nonce" = some t.serverNonce ∧ textOf object "signature" = some t.signature := by
  unfold readTexts at h
  split at h
  · rename_i h1 h2 h3 h4 h5 h6 h7 h8
    obtain rfl := Option.some.inj h
    exact ⟨h1, h2, h3, h4, h5, h6, h7, h8⟩
  · cases h

/-- What was read has no NUL, so it is read again as it is. -/
theorem textOf_again {object : JsonObject} {key : String} {text : Bytes} (h : textOf object key = some text) :
    (CString.ofBytes text).bytes = text := by
  obtain ⟨v, -, hv⟩ := Option.bind_eq_some_iff.mp h
  cases v with
  | text b =>
    obtain rfl := Option.some.inj hv
    exact congrArg CString.bytes (CString.ofBytes_self _)
  | integer n => cases hv
  | other => cases hv

theorem readServerHello_read {h : PipaSecureHandshake} {object : JsonObject} {expectedServerId : Option Bytes}
    {r : ServerFieldsRead} (hr : h.readServerHello object expectedServerId = some r) :
    Read h object expectedServerId r := by
  unfold readServerHello at hr
  split at hr
  · cases hr
  rename_i hstate
  split at hr
  · cases hr
  rename_i hversion
  split at hr
  · cases hr
  rename_i t ht
  split at hr
  · cases hr
  rename_i hbound
  split at hr
  · rename_i serverKey nonce signature hkey hnonce hsig
    obtain rfl := Option.some.inj hr
    obtain ⟨h1, h2, h3, h4, h5, h6, h7, h8⟩ := readTexts_eq_some ht
    simp only [Bool.or_eq_true, Bool.not_eq_true', not_or, Bool.not_eq_false, Bool.not_eq_true] at hstate
    simp only [boundTo, Bool.not_eq_true', Bool.not_eq_false, Bool.and_eq_true, decide_eq_true_eq] at hbound
    obtain ⟨⟨⟨⟨⟨⟨⟨⟨⟨-, hid⟩, hexpected⟩, hs⟩, hc⟩, hk⟩, hn⟩, -⟩, -⟩, -⟩ := hbound
    have hkey' := (textOf_again h6).symm.trans (decodeBase64Url_eq_some hkey)
    have hnonce' := (textOf_again h7).symm.trans (decodeBase64Url_eq_some hnonce)
    have hsig' := (textOf_again h8).symm.trans (decodeBase64Url_eq_some hsig)
    refine ⟨hstate.1.1, hstate.1.2, hstate.2, not_not.mp hversion, hs ▸ h1, hc ▸ h2, hk ▸ h3, hn ▸ h4, h5,
      h6, h7, ?_, hid, ?_, hkey', nonce, hnonce'⟩
    · rw [h8, hsig']
    · rintro id rfl
      simp only [Option.all_some, Bool.and_eq_true, decide_eq_true_eq] at hexpected
      exact hexpected.2
  · cases hr

theorem acceptServerHello_true {crypto : Crypto} {h : PipaSecureHandshake} {session : PipaSecureSession}
    {object : JsonObject} {serverPublicKey : Fixed 32} {expectedServerId : Option Bytes}
    (haccept : (h.acceptServerHello crypto session object serverPublicKey expectedServerId).2 = true) :
    ∃ r secret, h.readServerHello object expectedServerId = some r ∧
      crypto.verify serverPublicKey r.signature (h.signedTranscript r) = true ∧
      crypto.exchange h.clientEphemeralPrivateKey r.serverKey = some secret ∧
      (PipaSecureSession.beginFromSharedSecret crypto.hkdf h.sessionId secret
        (crypto.sha256 (h.transcript r)) true).2 = true ∧
      (h.acceptServerHello crypto session object serverPublicKey expectedServerId).1.2 =
        (PipaSecureSession.beginFromSharedSecret crypto.hkdf h.sessionId secret
          (crypto.sha256 (h.transcript r)) true).1 := by
  unfold acceptServerHello at haccept ⊢
  split at haccept
  · cases haccept
  rename_i r hread
  split at haccept
  · cases haccept
  rename_i hverify
  split at haccept
  · cases haccept
  rename_i secret hsecret
  split at haccept
  · cases haccept
  · rename_i session' hbegin
    refine ⟨r, secret, hread, by simpa using hverify, hsecret, by rw [hbegin], ?_⟩
    simp only [hverify, hbegin, Bool.false_eq_true, if_false]

/-! ## What was begun -/

/-- The fields of a handshake that was begun, as texts. -/
structure Begun (crypto : Crypto) (h : PipaSecureHandshake) (f : ClientFields) : Prop where
  plain : f.AllPlain
  session : isIdentifier f.sessionId = true
  sessionId : h.sessionId = f.sessionId.bytes
  clientId : h.clientId = f.clientId.bytes
  clientKey : h.clientEphemeralPublicKey = f.clientKey.bytes
  clientNonce : h.clientNonce = f.clientNonce.bytes
  own : h.complete = false → f.clientKey = encode (crypto.x25519PublicKey h.clientEphemeralPrivateKey).val

theorem isIdentifier_encode (b : Fixed 16) : isIdentifier (encode b.val) = true := by
  simp only [isIdentifier, encode_length, b.property, Bool.and_eq_true, decide_eq_true_eq, List.all_eq_true]
  exact ⟨by decide, encode_idCode b.val⟩

theorem beginClient_begun {crypto : Crypto} {identity : DeviceIdentity} {clientId : Bytes}
    {sessionId : Option Bytes} {sessionBytes : Fixed 16} {keyBytes nonce : Fixed 32}
    (h : (beginClient crypto identity clientId sessionId sessionBytes keyBytes nonce).2 = true) :
    ∃ f, Begun crypto (beginClient crypto identity clientId sessionId sessionBytes keyBytes nonce).1 f := by
  unfold beginClient at h ⊢
  split at h
  · cases h
  rename_i hready
  split at h
  · cases h
  rename_i hsession
  rw [if_neg hready, if_neg hsession]
  simp only [Bool.or_eq_true, Bool.not_eq_true', not_or, Bool.not_eq_false] at hready
  obtain ⟨client, hclient, hclientId⟩ := validIdentifier_iff.mp hready.2
  have hid : ∃ s, isIdentifier s = true ∧ sessionId.getD (encodeBase64Url sessionBytes.val) = s.bytes := by
    cases sessionId with
    | none => exact ⟨encode sessionBytes.val, isIdentifier_encode sessionBytes, encodeBase64Url_eq _⟩
    | some id =>
      simp only [Option.any_some, Bool.not_eq_true', Bool.not_eq_false] at hsession
      exact validIdentifier_iff.mp hsession
  obtain ⟨s, hs, hsid⟩ := hid
  exact ⟨⟨s, client, encode (crypto.x25519PublicKey (clamp keyBytes)).val, encode nonce.val⟩,
    ⟨isIdentifier_plain hs, isIdentifier_plain hclient, encode_idCode _, encode_idCode _⟩, hs, hsid,
    hclientId, encodeBase64Url_eq _, encodeBase64Url_eq _, fun _ => rfl⟩

end PipaSecureHandshake

end Pipa.Secure
