import Pipa.Mobile.Channel
import Pipa.Mobile.ViewModel
import Pipa.Mobile.Written
import Pipa.Secure.Agreement
import Pipa.Secure.Server

/- The handshake of the phone (`PipaMobileHandshake`) with the server of `secure_session.py`.

   The phone signs and hashes what `JSONSerialization` writes, the server what `json.dumps` writes; and it compares
   texts as Swift does, which takes different spellings for equal. What the server signed gives the spelling of
   every field all the same (`signedTranscript_eq`): so what the phone completes is an answer of the server to its
   own hello, and both ends derive one session. -/
namespace Pipa.Mobile
open Pipa.Lib
open Pipa.Secure (Crypto Role SecureSession SecureIdentity ClientHello ServerHello ClientFields ServerFields Version
  Plain literal isIdentifier)
open Pipa.Core (names)

/-! ## Identities and hellos -/

/-- `PipaMobileIdentity`. -/
structure PipaMobileIdentity where
  identityID : PyStr
  privateKey : Fixed 32
  valid : isValidIdentifier identityID = true

structure PipaClientHelloContext where
  hello : Object
  identity : PipaMobileIdentity
  ephemeralPrivateKey : Fixed 32

namespace PipaMobileHandshake
open Link.PipaMobileCodec (encodeBase64URL decodeBase64URL)

def text (o : Object) (key : String) : Option PyStr := (o.get? (PyStr.ofString key)).bind asString

section
variable (crypto : Crypto) (c : Codec)

/-- `makeClientHello`, with what is drawn at random. -/
def makeClientHello (identity : PipaMobileIdentity) (sessionID : Option PyStr) (randomData : Fixed 16)
    (ephemeralPrivateKey : Fixed 32) (clientNonce : Bytes) : Except PipaMobileError PipaClientHelloContext :=
  let resolvedSessionID := sessionID.getD (encodeBase64URL randomData.val)
  if !isValidIdentifier resolvedSessionID then .error .invalidHandshake
  else if clientNonce.length ≠ 32 then .error .invalidHandshake
  else
    let unsigned : Object :=
      [(PyStr.ofString "client_ephemeral_public_key",
          .str (encodeBase64URL (crypto.x25519PublicKey ephemeralPrivateKey).val)),
       (PyStr.ofString "client_id", .str identity.identityID),
       (PyStr.ofString "client_nonce", .str (encodeBase64URL clientNonce)),
       (PyStr.ofString "protocol_version", .int 2),
       (PyStr.ofString "session_id", .str resolvedSessionID)]
    match c.canonicalJSON (unsigned ++ [(PyStr.ofString "role", .str (PyStr.ofString "client"))]) with
    | none => .error .invalidMessage
    | some data =>
      let signature := crypto.sign identity.privateKey data
      .ok ⟨unsigned ++ [(PyStr.ofString "signature", .str (encodeBase64URL signature.val))], identity,
        ephemeralPrivateKey⟩

/-- `try? decodeBase64URL`, of so many bytes. -/
def decodeFixed (value : PyStr) (n : Nat) : Option (Fixed n) :=
  (decodeBase64URL c.base64Encoded value (some n)).bind
    (fun data => if h : data.length = n then some ⟨data, h⟩ else none)

def expectedFields : List PyStr :=
  names ["client_ephemeral_public_key", "client_id", "client_nonce", "protocol_version", "server_ephemeral_public_key",
    "server_id", "server_nonce", "session_id", "signature"]

/-- What `complete` reads of the server's hello. -/
structure ReadHello where
  sessionID : PyStr
  serverEphemeralData : Fixed 32
  signature : Fixed 64

/-- The checks of `complete` before the signature. -/
def readServerHello (context : PipaClientHelloContext) (serverHello : Object) (expectedServerID : PyStr) :
    Option ReadHello := do
  guard (serverHello.keys.all (fun k => k ∈ expectedFields) ∧ expectedFields.all (fun k => k ∈ serverHello.keys))
  guard ((serverHello.get? (PyStr.ofString "protocol_version")).bind (asInt c.toPlatform) = some 2)
  let sessionID ← text serverHello "session_id"
  let clientID ← text serverHello "client_id"
  let clientEphemeral ← text serverHello "client_ephemeral_public_key"
  let clientNonce ← text serverHello "client_nonce"
  let serverID ← text serverHello "server_id"
  let serverEphemeral ← text serverHello "server_ephemeral_public_key"
  let serverNonce ← text serverHello "server_nonce"
  let signatureText ← text serverHello "signature"
  guard ((text context.hello "session_id").any (same c.toPlatform sessionID) ∧
    same c.toPlatform clientID context.identity.identityID ∧
    (text context.hello "client_ephemeral_public_key").any (same c.toPlatform clientEphemeral) ∧
    (text context.hello "client_nonce").any (same c.toPlatform clientNonce) ∧
    same c.toPlatform serverID expectedServerID ∧ isValidIdentifier serverID)
  let serverEphemeralData ← decodeFixed c serverEphemeral 32
  let _ ← decodeFixed c serverNonce 32
  let signature ← decodeFixed c signatureText 64
  some ⟨sessionID, serverEphemeralData, signature⟩

/-- `transcript`. -/
def transcriptOf (serverHello : Object) : Object := serverHello.filter (fun e => e.1 ≠ PyStr.ofString "signature")

def signedTranscript (serverHello : Object) : Object :=
  transcriptOf serverHello ++ [(PyStr.ofString "role", .str (PyStr.ofString "server"))]

/-- `complete`; the key has the 32 bytes that it asks for. -/
def complete (context : PipaClientHelloContext) (serverHello : Object) (serverPublicKeyData : Fixed 32)
    (expectedServerID : PyStr) : Except PipaMobileError PipaSecureRecordLayer :=
  match readServerHello c context serverHello expectedServerID with
  | none => .error .invalidHandshake
  | some r =>
    match c.canonicalJSON (signedTranscript serverHello) with
    | none => .error .invalidMessage
    | some signedTranscriptData =>
      if !crypto.verify serverPublicKeyData r.signature signedTranscriptData then .error .invalidHandshake
      else
        match c.canonicalJSON (transcriptOf serverHello) with
        | none => .error .invalidMessage
        | some transcriptData =>
          match crypto.exchange context.ephemeralPrivateKey r.serverEphemeralData with
          | none => .error .invalidHandshake
          | some sharedSecret =>
            match PipaSecureRecordLayer.new crypto.hkdf r.sessionID sharedSecret.val (crypto.sha256 transcriptData).val
                .client with
            | none => .error .invalidHandshake
            | some layer => .ok layer

end

end PipaMobileHandshake

/-! ## Texts of hellos -/

/-- The members of the transcript, where the version is written so. -/
def transcriptMembers (f : ServerFields) (version : Bytes) : List (String × Bytes) :=
  [("client_ephemeral_public_key", quotedText f.clientKey), ("client_id", quotedText f.clientId),
   ("client_nonce", quotedText f.clientNonce), ("protocol_version", version),
   ("server_ephemeral_public_key", quotedText f.serverKey), ("server_id", quotedText f.serverId),
   ("server_nonce", quotedText f.serverNonce), ("session_id", quotedText f.sessionId)]

/-- The members of what a server signs. -/
def signedMembers (f : ServerFields) (version : Bytes) : List (String × Bytes) :=
  [("client_ephemeral_public_key", quotedText f.clientKey), ("client_id", quotedText f.clientId),
   ("client_nonce", quotedText f.clientNonce), ("protocol_version", version),
   ("role", literal "\"server\""),
   ("server_ephemeral_public_key", quotedText f.serverKey), ("server_id", quotedText f.serverId),
   ("server_nonce", quotedText f.serverNonce), ("session_id", quotedText f.sessionId)]

/-- The members of what a client signs. -/
def clientMembers (f : ClientFields) (version : Bytes) : List (String × Bytes) :=
  [("client_ephemeral_public_key", quotedText f.clientKey), ("client_id", quotedText f.clientId),
   ("client_nonce", quotedText f.clientNonce), ("protocol_version", version),
   ("role", literal "\"client\""), ("session_id", quotedText f.sessionId)]

theorem signedText_members (f : ServerFields) (v : Version) :
    f.signedText v = objectText (signedMembers f (literal v.text)) := by
  -- the version is not a literal to be joined with its neighbours
  rw [ServerFields.signedText]
  generalize literal v.text = version
  simp only [signedMembers, objectText, laterMembers, List.append_assoc, quotedText, Secure.literal_join,
    String.reduceAppend, ← literal_append]

theorem clientText_members (f : ClientFields) (v : Version) :
    f.signedText v = objectText (clientMembers f (literal v.text)) := by
  rw [ClientFields.signedText]
  generalize literal v.text = version
  simp only [clientMembers, objectText, laterMembers, List.append_assoc, quotedText, Secure.literal_join,
    String.reduceAppend, ← literal_append]

/-- The transcript as Python writes it. -/
theorem transcript_text {f : ServerFields} (hf : f.AllPlain) {v : Value} {t : String}
    (hv : dumps true v = some (PyStr.ofString t)) (ht : (PyStr.ofString t).Ascii) :
    Secure.canonical (Secure.serverTranscript f.sessionId f.clientId f.serverId f.clientKey f.clientNonce f.serverKey
      f.serverNonce v) = some (objectText (transcriptMembers f (literal t))) := by
  have htext : dumps true (.dict (Secure.serverTranscript f.sessionId f.clientId f.serverId f.clientKey f.clientNonce
      f.serverKey f.serverNonce v)) =
      some (PyStr.ofString "\x7b\"client_ephemeral_public_key\":\"" ++ (f.clientKey ++
        (PyStr.ofString "\",\"client_id\":\"" ++ (f.clientId ++ (PyStr.ofString "\",\"client_nonce\":\"" ++
        (f.clientNonce ++ (PyStr.ofString "\",\"protocol_version\":" ++ (PyStr.ofString t ++
        (PyStr.ofString ",\"server_ephemeral_public_key\":\"" ++
        (f.serverKey ++ (PyStr.ofString "\",\"server_id\":\"" ++ (f.serverId ++
        (PyStr.ofString "\",\"server_nonce\":\"" ++ (f.serverNonce ++
        (PyStr.ofString "\",\"session_id\":\"" ++ (f.sessionId ++ PyStr.ofString "\"\x7d")))))))))))))))) := by
    simp only [dumps, dumpsItems, Secure.serverTranscript, hv, Option.bind_eq_bind, Option.bind_some]
    -- the pairs as `sort_keys` orders them
    show some (PyStr.ofString "\x7b" ++ commaJoin [
      dumpPair (PyStr.ofString "client_ephemeral_public_key", dumpStr f.clientKey),
      dumpPair (PyStr.ofString "client_id", dumpStr f.clientId),
      dumpPair (PyStr.ofString "client_nonce", dumpStr f.clientNonce),
      dumpPair (PyStr.ofString "protocol_version", PyStr.ofString t),
      dumpPair (PyStr.ofString "server_ephemeral_public_key", dumpStr f.serverKey),
      dumpPair (PyStr.ofString "server_id", dumpStr f.serverId),
      dumpPair (PyStr.ofString "server_nonce", dumpStr f.serverNonce),
      dumpPair (PyStr.ofString "session_id", dumpStr f.sessionId)] ++ PyStr.ofString "\x7d") = _
    rw [hf.client.sessionId.dumpStr, hf.client.clientId.dumpStr, hf.client.clientKey.dumpStr,
      hf.client.clientNonce.dumpStr, hf.serverId.dumpStr, hf.serverKey.dumpStr, hf.serverNonce.dumpStr]
    generalize PyStr.ofString t = version
    simp (disch := decide) only [Secure.dumpPair_literal, commaJoin, List.append_assoc, Secure.ofString_join,
      String.reduceAppend, ← PyStr.ofString_append]
  rw [Secure.canonical_of_dumps htext]
  · have hliteral : ∀ text : String, (PyStr.ofString text).bytes = literal text := fun _ => rfl
    simp only [PyStr.bytes_append, hliteral]
    generalize literal t = version
    simp only [transcriptMembers, objectText, laterMembers, List.append_assoc, quotedText, Secure.literal_join,
      String.reduceAppend, ← literal_append]
  · simp only [PyStr.ascii_append]
    exact ⟨by decide, hf.client.clientKey.ascii, by decide, hf.client.clientId.ascii, by decide,
      hf.client.clientNonce.ascii, by decide, ht, by decide, hf.serverKey.ascii, by decide, hf.serverId.ascii,
      by decide, hf.serverNonce.ascii, by decide, hf.client.sessionId.ascii, by decide⟩

/-! ## What the phone writes -/

theorem isValidIdentifier_eq (s : PyStr) : isValidIdentifier s = isIdentifier s := by
  have hchar : ∀ ch : CodePoint, Core.isIdentifierChar ch = Secure.idCode ch.val := by
    intro ch
    rw [Bool.eq_iff_iff]
    simp only [Core.isIdentifierChar, Core.isAsciiLetter, Core.isAsciiDigit, Secure.idCode, Bool.or_eq_true,
      Bool.and_eq_true, decide_eq_true_eq, beq_iff_eq]
    omega
  have hempty : s.isEmpty = false ↔ 1 ≤ s.length := by cases s <;> simp
  rw [Bool.eq_iff_iff]
  simp only [isValidIdentifier, isIdentifier, Bool.and_eq_true, Bool.not_eq_true', decide_eq_true_eq, List.all_eq_true,
    hchar, hempty]
  refine and_congr_left ?_
  intro hall
  rw [(Plain.ascii hall).bytes_eq, List.length_map]

/-! ## The client hello -/

section
variable {crypto : Crypto} {c : Codec} {json : Value → Option Bytes} {identity : PipaMobileIdentity}
  {context : PipaClientHelloContext} {ephemeralPrivateKey : Fixed 32}

/-- The hello of the phone, as Python reads it. -/
structure Opens (crypto : Crypto) (identity : PipaMobileIdentity) (ephemeralPrivateKey : Fixed 32)
    (context : PipaClientHelloContext) (client : ClientHello) : Prop where
  hello : context.hello = client.asDict
  owner : context.identity = identity
  ephemeral : context.ephemeralPrivateKey = ephemeralPrivateKey
  clientId : client.clientId = identity.identityID
  clientKey : client.clientEphemeralPublicKey = Secure.encode (crypto.x25519PublicKey ephemeralPrivateKey).val
  protocolVersion : client.protocolVersion = .int 2
  signature : ∃ data, client.signatureData = some data ∧
    client.signature = Secure.encode (crypto.sign identity.privateKey data).val

theorem makeClientHello_opens (hw : c.Writes json) {sessionID : Option PyStr} {randomData : Fixed 16}
    {clientNonce : Bytes} (h : PipaMobileHandshake.makeClientHello crypto c identity sessionID randomData
      ephemeralPrivateKey clientNonce = .ok context) :
    ∃ client, Opens crypto identity ephemeralPrivateKey context client := by
  unfold PipaMobileHandshake.makeClientHello at h
  simp only [Link.PipaMobileCodec.encodeBase64URL_eq] at h
  split at h
  · cases h
  rename_i hsession
  split at h
  · cases h
  rename_i hnonce
  rw [not_not] at hnonce
  split at h
  · cases h
  rename_i data hdata
  obtain rfl := Except.ok.inj h
  have hsession : isIdentifier (sessionID.getD (Secure.encode randomData.val)) = true := by
    rw [← isValidIdentifier_eq]
    simpa using hsession
  have hclient : isIdentifier identity.identityID = true := by
    rw [← isValidIdentifier_eq]
    exact identity.valid
  have hdecodes {n : Nat} (hn : 0 < n) (b : Fixed n) : (Secure.decodeText (Secure.encode b.val) (some n)).isSome := by
    rw [Secure.decodeText_fixed hn b]
    rfl
  have hvalid : Secure.validateHandshakeFields (.int 2) (sessionID.getD (Secure.encode randomData.val))
      identity.identityID (Secure.encode (crypto.x25519PublicKey ephemeralPrivateKey).val)
      (Secure.encode clientNonce) = true := by
    simp only [Secure.validateHandshakeFields, Bool.and_eq_true]
    exact ⟨⟨⟨⟨rfl, hsession⟩, hclient⟩, hdecodes (by decide) _⟩, hdecodes (by decide) ⟨_, hnonce⟩⟩
  -- the hello that Python reads of what the phone has made
  let client : ClientHello :=
    ⟨sessionID.getD (Secure.encode randomData.val), identity.identityID,
      Secure.encode (crypto.x25519PublicKey ephemeralPrivateKey).val, Secure.encode clientNonce,
      Secure.encode (crypto.sign identity.privateKey data).val, .int 2, hvalid, hdecodes (by decide) _⟩
  refine ⟨client, rfl, rfl, rfl, rfl, rfl, rfl, data, ?_, rfl⟩
  have hp := client.plain
  have hphone : c.canonicalJSON (client.unsignedDict ++
      [(PyStr.ofString "role", .str (PyStr.ofString "client"))]) =
        some (objectText (clientMembers client.fields (literal "2"))) := by
    refine hw.eq ?_ ?_ ?_ ?_ ?_
    · show List.Nodup (names ["client_ephemeral_public_key", "client_id", "client_nonce", "protocol_version",
        "session_id", "role"])
      decide
    · show (names ["client_ephemeral_public_key", "client_id", "client_nonce", "protocol_version", "role",
        "session_id"]).Pairwise Before
      decide
    · show ∀ name ∈ ["client_ephemeral_public_key", "client_id", "client_nonce", "protocol_version", "role",
        "session_id"], _
      decide
    · intro k
      have hperm : (names ["client_ephemeral_public_key", "client_id", "client_nonce", "protocol_version", "session_id",
        "role"]).Perm (names ["client_ephemeral_public_key", "client_id", "client_nonce", "protocol_version", "role",
        "session_id"]) := by decide
      exact hperm.mem_iff
    · simp only [clientMembers, List.forall_mem_cons]
      exact ⟨hw.plain _ hp.clientKey, hw.plain _ hp.clientId, hw.plain _ hp.clientNonce, hw.two,
        hw.plain _ (by decide), hw.plain _ hp.sessionId, List.forall_mem_nil _⟩
  rw [client.signatureData_eq (v := .int) rfl, clientText_members]
  exact hphone.symm.trans hdata

end

/-! ## The server's hello -/

section
variable {crypto : Crypto} {c : Codec} {json : Value → Option Bytes} {context : PipaClientHelloContext}
  {serverHello : Object} {expectedServerID : PyStr} {r : PipaMobileHandshake.ReadHello}

/-- What the phone has checked of a hello it goes on with. -/
structure Reads (c : Codec) (context : PipaClientHelloContext) (serverHello : Object) (expectedServerID : PyStr)
    (r : PipaMobileHandshake.ReadHello) (f : ServerFields) : Prop where
  keys : ∀ k, k ∈ serverHello.keys ↔ k ∈ PipaMobileHandshake.expectedFields
  version : ∃ v, serverHello.get? (PyStr.ofString "protocol_version") = some v ∧ number c.toPlatform v = some 2
  sessionID : PipaMobileHandshake.text serverHello "session_id" = some f.sessionId ∧ r.sessionID = f.sessionId
  clientID : PipaMobileHandshake.text serverHello "client_id" = some f.clientId
  clientKey : PipaMobileHandshake.text serverHello "client_ephemeral_public_key" = some f.clientKey
  clientNonce : PipaMobileHandshake.text serverHello "client_nonce" = some f.clientNonce
  serverID : PipaMobileHandshake.text serverHello "server_id" = some f.serverId
  serverKey : PipaMobileHandshake.text serverHello "server_ephemeral_public_key" = some f.serverKey ∧
    PipaMobileHandshake.decodeFixed c f.serverKey 32 = some r.serverEphemeralData
  serverNonce : PipaMobileHandshake.text serverHello "server_nonce" = some f.serverNonce
  ownSession : (PipaMobileHandshake.text context.hello "session_id").any (same c.toPlatform f.sessionId) = true
  own : same c.toPlatform f.clientId context.identity.identityID = true
  ownKey : (PipaMobileHandshake.text context.hello "client_ephemeral_public_key").any
    (same c.toPlatform f.clientKey) = true
  ownNonce : (PipaMobileHandshake.text context.hello "client_nonce").any (same c.toPlatform f.clientNonce) = true
  expected : same c.toPlatform f.serverId expectedServerID = true

theorem asInt_number {p : Platform} {v : Value} {n : Int} (h : asInt p v = some n) : number p v = some n :=
  (Option.filter_eq_some_iff.mp h).1

theorem readServerHello_reads
    (h : PipaMobileHandshake.readServerHello c context serverHello expectedServerID = some r) :
    ∃ f, Reads c context serverHello expectedServerID r f := by
  simp only [PipaMobileHandshake.readServerHello, Option.bind_eq_bind, Option.bind_eq_some_iff,
    Option.guard_eq_some'] at h
  obtain ⟨-, ⟨hfields, hall⟩, -, ⟨v, hv, htwo⟩, sessionID, hsession, clientID, hclient, clientKey, hkey, clientNonce,
    hnonce, serverID, hserver, serverKey, hserverKey, serverNonce, hserverNonce, signatureText, hsignature,
    -, ⟨hown, hownID, hownKey, hownNonce, hexpected, -⟩, data, hdata, nonce, hdecoded, signature, hbytes, hr⟩ := h
  obtain rfl := Option.some.inj hr
  let f : ServerFields :=
    { sessionId := sessionID, clientId := clientID, clientKey := clientKey, clientNonce := clientNonce,
      serverId := serverID, serverKey := serverKey, serverNonce := serverNonce }
  refine ⟨f, ?_, ⟨v, hv, asInt_number htwo⟩, ⟨hsession, rfl⟩, hclient, hkey, hnonce, hserver, ⟨hserverKey, hdata⟩,
    hserverNonce, hown, hownID, hownKey, hownNonce, hexpected⟩
  intro k
  rw [List.all_eq_true] at hfields hall
  exact ⟨fun hk => of_decide_eq_true (hfields k hk), fun hk => of_decide_eq_true (hall k hk)⟩

theorem complete_ok {serverPublicKeyData : Fixed 32} {layer : PipaSecureRecordLayer}
    (h : PipaMobileHandshake.complete crypto c context serverHello serverPublicKeyData expectedServerID = .ok layer) :
    ∃ r signedTranscriptData transcriptData sharedSecret,
      PipaMobileHandshake.readServerHello c context serverHello expectedServerID = some r ∧
      c.canonicalJSON (PipaMobileHandshake.signedTranscript serverHello) = some signedTranscriptData ∧
      crypto.verify serverPublicKeyData r.signature signedTranscriptData = true ∧
      c.canonicalJSON (PipaMobileHandshake.transcriptOf serverHello) = some transcriptData ∧
      crypto.exchange context.ephemeralPrivateKey r.serverEphemeralData = some sharedSecret ∧
      PipaSecureRecordLayer.new crypto.hkdf r.sessionID sharedSecret.val (crypto.sha256 transcriptData).val .client =
        some layer := by
  unfold PipaMobileHandshake.complete at h
  split at h
  · cases h
  rename_i r hr
  split at h
  · cases h
  rename_i signedTranscriptData hsigned
  split at h
  · cases h
  rename_i hverify
  split at h
  · cases h
  rename_i transcriptData htranscript
  split at h
  · cases h
  rename_i sharedSecret hsecret
  split at h
  · cases h
  rename_i layer' hlayer
  obtain rfl := Except.ok.inj h
  exact ⟨r, signedTranscriptData, transcriptData, sharedSecret, hr, hsigned, by simpa using hverify, htranscript,
    hsecret, hlayer⟩

end

/-! ## The transcript -/

theorem get?_append_other {o : Object} {k k' : PyStr} {v : Value} (hk : k ≠ k') :
    Object.get? (o ++ [(k', v)]) k = o.get? k := by
  have hlast : List.find? (fun e : PyStr × Value => decide (e.1 = k)) [(k', v)] = none := by
    rw [List.find?_cons_of_neg (by simpa using hk.symm), List.find?_nil]
  rw [Object.get?, List.find?_append, hlast, Option.or_none, Object.get?]

theorem get?_filter_other {o : Object} {k k' : PyStr} (hk : k ≠ k') :
    Object.get? (o.filter (fun e => e.1 ≠ k')) k = o.get? k := by
  rw [Object.get?, List.find?_filter, Object.get?]
  congr 2
  funext e
  by_cases he : e.1 = k
  · simp [he, hk]
  · simp [he]

theorem get?_append_last {o : Object} {k : PyStr} {v : Value} (hk : k ∉ o.keys) :
    Object.get? (o ++ [(k, v)]) k = some v := by
  have hnone : List.find? (fun e : PyStr × Value => decide (e.1 = k)) o = none := by
    rw [List.find?_eq_none]
    intro e he hdecide
    exact hk (of_decide_eq_true hdecide ▸ List.mem_map_of_mem he)
  rw [Object.get?, List.find?_append, hnone, Option.none_or]
  simp

def transcriptFields : List String :=
  ["client_ephemeral_public_key", "client_id", "client_nonce", "protocol_version", "server_ephemeral_public_key",
    "server_id", "server_nonce", "session_id"]

def signedFields : List String :=
  ["client_ephemeral_public_key", "client_id", "client_nonce", "protocol_version", "role",
    "server_ephemeral_public_key", "server_id", "server_nonce", "session_id"]

section
variable {serverHello : Object} (hnodup : serverHello.keys.Nodup)
  (hkeys : ∀ k, k ∈ serverHello.keys ↔ k ∈ PipaMobileHandshake.expectedFields)

theorem transcriptOf_keys (serverHello : Object) : (PipaMobileHandshake.transcriptOf serverHello).keys =
    serverHello.keys.filter (fun k => k ≠ PyStr.ofString "signature") := by
  rw [PipaMobileHandshake.transcriptOf, Object.keys, Object.keys, List.filter_map]
  rfl

theorem transcriptOf_nodup {serverHello : Object} (hnodup : serverHello.keys.Nodup) :
    (PipaMobileHandshake.transcriptOf serverHello).keys.Nodup := by
  rw [transcriptOf_keys]
  exact hnodup.filter _

include hkeys

theorem mem_transcriptOf (k : PyStr) :
    k ∈ (PipaMobileHandshake.transcriptOf serverHello).keys ↔ k ∈ names transcriptFields := by
  have hfields : PipaMobileHandshake.expectedFields.filter (fun k => k ≠ PyStr.ofString "signature") =
      names transcriptFields := by decide
  rw [transcriptOf_keys, List.mem_filter, hkeys, ← hfields, List.mem_filter]

theorem mem_signedTranscript (k : PyStr) :
    k ∈ (PipaMobileHandshake.signedTranscript serverHello).keys ↔ k ∈ names signedFields := by
  have hperm : (names transcriptFields ++ [PyStr.ofString "role"]).Perm (names signedFields) := by decide
  have happend : (PipaMobileHandshake.signedTranscript serverHello).keys =
      (PipaMobileHandshake.transcriptOf serverHello).keys ++ [PyStr.ofString "role"] := List.map_append
  rw [happend, List.mem_append, mem_transcriptOf hkeys, ← List.mem_append, hperm.mem_iff]

include hnodup

theorem signedTranscript_nodup : (PipaMobileHandshake.signedTranscript serverHello).keys.Nodup := by
  have happend : (PipaMobileHandshake.signedTranscript serverHello).keys =
      (PipaMobileHandshake.transcriptOf serverHello).keys ++ [PyStr.ofString "role"] := List.map_append
  rw [happend, List.nodup_append]
  refine ⟨transcriptOf_nodup hnodup, List.nodup_singleton _, ?_⟩
  intro k hk k' hk' heq
  rw [mem_transcriptOf hkeys, heq, List.mem_singleton.mp hk'] at hk
  exact absurd hk (by decide)

end

section
variable {c : Codec} {json : Value → Option Bytes} {context : PipaClientHelloContext} {serverHello : Object}
  {expectedServerID : PyStr} {r : PipaMobileHandshake.ReadHello} {f : ServerFields}

theorem get?_transcriptOf {name : String} (hname : PyStr.ofString name ≠ PyStr.ofString "signature") :
    (PipaMobileHandshake.transcriptOf serverHello).get? (PyStr.ofString name) =
      serverHello.get? (PyStr.ofString name) := get?_filter_other hname

theorem get?_signedTranscript {name : String} (hname : PyStr.ofString name ≠ PyStr.ofString "signature")
    (hrole : PyStr.ofString name ≠ PyStr.ofString "role") :
    (PipaMobileHandshake.signedTranscript serverHello).get? (PyStr.ofString name) =
      serverHello.get? (PyStr.ofString name) := by
  rw [PipaMobileHandshake.signedTranscript, get?_append_other hrole, get?_transcriptOf hname]

/-- What the server signed tells every field that the phone has read, and how each is written. -/
theorem signedTranscript_eq (hw : c.Writes json) (hread : c.foundation.ReadsStrings)
    (hnodup : serverHello.keys.Nodup) (h : Reads c context serverHello expectedServerID r f) {g : ServerFields}
    (hg : g.AllPlain) {v : Version} {data : Bytes}
    (hdata : c.canonicalJSON (PipaMobileHandshake.signedTranscript serverHello) = some data)
    (hsigned : data = g.signedText v) :
    f = g ∧ c.canonicalJSON (PipaMobileHandshake.transcriptOf serverHello) =
      some (objectText (transcriptMembers g (literal v.text))) := by
  rw [hw.object _ signedFields (signedTranscript_nodup hnodup h.keys) (by decide) (by decide)
    (mem_signedTranscript h.keys)] at hdata
  obtain ⟨texts, htexts, htext⟩ := Option.map_eq_some_iff.mp hdata
  obtain ⟨hnames, hall⟩ := memberTexts_eq_some.mp htexts
  rw [hsigned, signedText_members] at htext
  have hsame : ∀ name, PyStr.ofString name ≠ PyStr.ofString "signature" → PyStr.ofString name ≠ PyStr.ofString "role" →
      (PipaMobileHandshake.signedTranscript serverHello).get? (PyStr.ofString name) =
        serverHello.get? (PyStr.ofString name) := fun _ hname hrole => get?_signedTranscript hname hrole
  have hread' : ∀ {name s}, PyStr.ofString name ≠ PyStr.ofString "signature" →
      PyStr.ofString name ≠ PyStr.ofString "role" → PipaMobileHandshake.text serverHello name = some s →
      ((PipaMobileHandshake.signedTranscript serverHello).get? (PyStr.ofString name)).bind asString = some s := by
    intro name s hname hrole hs
    rw [hsame name hname hrole]
    exact hs
  have hkey := hread' (by decide) (by decide) h.clientKey
  have hid := hread' (by decide) (by decide) h.clientID
  have hnonce := hread' (by decide) (by decide) h.clientNonce
  have hserverKey := hread' (by decide) (by decide) h.serverKey.1
  have hserverID := hread' (by decide) (by decide) h.serverID
  have hserverNonce := hread' (by decide) (by decide) h.serverNonce
  have hsession := hread' (by decide) (by decide) h.sessionID.1
  -- whatever a member of the hello holds, its text ends where that of the signed member does
  have hcuts : List.Forall₂ Cuts texts (signedMembers g (literal v.text)) := by
    refine cuts_of_names hnames ?_
    simp only [signedMembers, List.forall_mem_cons]
    refine ⟨fun e he => hw.string_cuts hkey hg.client.clientKey (hall e he),
      fun e he => hw.string_cuts hid hg.client.clientId (hall e he),
      fun e he => hw.string_cuts hnonce hg.client.clientNonce (hall e he), ?_, ?_,
      fun e he => hw.string_cuts hserverKey hg.serverKey (hall e he),
      fun e he => hw.string_cuts hserverID hg.serverId (hall e he),
      fun e he => hw.string_cuts hserverNonce hg.serverNonce (hall e he),
      fun e he => hw.string_cuts hsession hg.client.sessionId (hall e he), List.forall_mem_nil _⟩
    -- the version may be any number that Swift takes for 2: none is written with a comma
    · intro e he hname
      obtain ⟨version, hversion, htwo⟩ := h.version
      have hjson := hall e he
      rw [hname, hsame _ (by decide) (by decide), hversion, Option.bind_some] at hjson
      exact ⟨hname, .inr ⟨hw.number version 2 _ htwo hjson, by cases v <;> decide⟩⟩
    · intro e he hname
      have hrole : literal "\"server\"" = quotedText (PyStr.ofString "server") := by decide
      have hlast : (PipaMobileHandshake.signedTranscript serverHello).get? (PyStr.ofString "role") =
          some (.str (PyStr.ofString "server")) := by
        refine get?_append_last ?_
        rw [mem_transcriptOf h.keys]
        decide
      rw [hrole]
      exact hw.string_cuts (by rw [hlast]; rfl) (by decide) (hall e he) hname
  -- so member by member the two are written alike, and strings that are written alike are equal
  obtain rfl := objectText_inj hcuts htext
  simp only [signedMembers, List.forall_mem_cons] at hall
  obtain ⟨hkey', hid', hnonce', hversion', -, hserverKey', hserverID', hserverNonce', hsession', -⟩ := hall
  refine ⟨ServerFields.ext (hw.string_eq hread hsession hg.client.sessionId hsession')
    (hw.string_eq hread hid hg.client.clientId hid') (hw.string_eq hread hkey hg.client.clientKey hkey')
    (hw.string_eq hread hnonce hg.client.clientNonce hnonce') (hw.string_eq hread hserverID hg.serverId hserverID')
    (hw.string_eq hread hserverKey hg.serverKey hserverKey')
    (hw.string_eq hread hserverNonce hg.serverNonce hserverNonce'), ?_⟩
  refine hw.eq (transcriptOf_nodup hnodup)
    (by show (names transcriptFields).Pairwise Before; decide) (by show ∀ name ∈ transcriptFields, _; decide)
    (mem_transcriptOf h.keys) ?_
  have hmoved : ∀ {name text}, PyStr.ofString name ≠ PyStr.ofString "signature" →
      PyStr.ofString name ≠ PyStr.ofString "role" →
      ((PipaMobileHandshake.signedTranscript serverHello).get? (PyStr.ofString name)).bind json = some text →
      ((PipaMobileHandshake.transcriptOf serverHello).get? (PyStr.ofString name)).bind json = some text := by
    intro name text hname hrole htext
    rw [get?_transcriptOf hname, ← hsame name hname hrole]
    exact htext
  simp only [transcriptMembers, List.forall_mem_cons]
  exact ⟨hmoved (by decide) (by decide) hkey', hmoved (by decide) (by decide) hid',
    hmoved (by decide) (by decide) hnonce', hmoved (by decide) (by decide) hversion',
    hmoved (by decide) (by decide) hserverKey', hmoved (by decide) (by decide) hserverID',
    hmoved (by decide) (by decide) hserverNonce', hmoved (by decide) (by decide) hsession', List.forall_mem_nil _⟩

end

/-! ## An answer of the server -/

/-- What Ed25519 is for: the owner's signature verifies. -/
def Signs (crypto : Crypto) : Prop := ∀ privateKey message,
  crypto.verify (crypto.ed25519PublicKey privateKey) (crypto.sign privateKey message) message = true

section
variable {c : Codec} {json : Value → Option Bytes}

theorem decodeFixed_encode
    (hbase64 : ∀ data, c.base64Encoded (Link.PipaMobileCodec.base64EncodedString data) = some data) {n : Nat}
    (hn : 0 < n) (b : Fixed n) : PipaMobileHandshake.decodeFixed c (Secure.encode b.val) n = some b := by
  have hdecode : Link.PipaMobileCodec.decodeBase64URL c.base64Encoded (Secure.encode b.val) (some n) = some b.val := by
    rw [← Link.PipaMobileCodec.encodeBase64URL_eq]
    refine (Link.swift_canonical hbase64 (some n)).round_trip (Fixed.ne_nil hn b) ?_
    intro m hm
    rw [b.property]
    exact Option.some.inj hm
  rw [PipaMobileHandshake.decodeFixed, hdecode, Option.bind_some, dif_pos b.property]

theorem decodeFixed_eq (hbase64 : ∀ data, c.base64Encoded (Link.PipaMobileCodec.base64EncodedString data) = some data)
    {n : Nat} {value : PyStr} {b : Fixed n} (h : PipaMobileHandshake.decodeFixed c value n = some b) :
    value = Secure.encode b.val := by
  obtain ⟨data, hdata, hfixed⟩ := Option.bind_eq_some_iff.mp h
  split at hfixed
  · obtain rfl := Option.some.inj hfixed
    rw [← Link.PipaMobileCodec.encodeBase64URL_eq]
    exact ((Link.swift_canonical hbase64 (some n)).accepts_iff _ _ |>.mp hdata).2.2
  · cases hfixed

variable (answer : ServerHello)

theorem asDict_nodup : answer.asDict.keys.Nodup := by
  show (names ["client_ephemeral_public_key", "client_id", "client_nonce", "protocol_version",
    "server_ephemeral_public_key", "server_id", "server_nonce", "session_id", "signature"]).Nodup
  decide

theorem asDict_keys (k : PyStr) : k ∈ answer.asDict.keys ↔ k ∈ PipaMobileHandshake.expectedFields := Iff.rfl

/-- The fields of an answer, as the phone finds them. -/
theorem asDict_texts :
    PipaMobileHandshake.text answer.asDict "session_id" = some answer.sessionId ∧
    PipaMobileHandshake.text answer.asDict "client_id" = some answer.clientId ∧
    PipaMobileHandshake.text answer.asDict "client_ephemeral_public_key" = some answer.clientEphemeralPublicKey ∧
    PipaMobileHandshake.text answer.asDict "client_nonce" = some answer.clientNonce ∧
    PipaMobileHandshake.text answer.asDict "server_id" = some answer.serverId ∧
    PipaMobileHandshake.text answer.asDict "server_ephemeral_public_key" = some answer.serverEphemeralPublicKey ∧
    PipaMobileHandshake.text answer.asDict "server_nonce" = some answer.serverNonce ∧
    PipaMobileHandshake.text answer.asDict "signature" = some answer.signature ∧
    answer.asDict.get? (PyStr.ofString "protocol_version") = some answer.protocolVersion :=
  ⟨rfl, rfl, rfl, rfl, rfl, rfl, rfl, rfl, rfl⟩

variable {answer}

/-- The phone writes an answer as Python does. -/
theorem answer_written (hw : c.Writes json) (hversion : answer.protocolVersion = .int 2) :
    c.canonicalJSON (PipaMobileHandshake.signedTranscript answer.asDict) =
        some (objectText (signedMembers answer.fields (literal "2"))) ∧
      c.canonicalJSON (PipaMobileHandshake.transcriptOf answer.asDict) =
        some (objectText (transcriptMembers answer.fields (literal "2"))) := by
  obtain ⟨hsession, hid, hkey, hnonce, hserverID, hserverKey, hserverNonce, -, hprotocol⟩ := asDict_texts answer
  have hp := answer.plain
  have hmoved : ∀ {name text}, PyStr.ofString name ≠ PyStr.ofString "signature" →
      (answer.asDict.get? (PyStr.ofString name)).bind json = some text →
      ((PipaMobileHandshake.transcriptOf answer.asDict).get? (PyStr.ofString name)).bind json = some text := by
    intro name text hname htext
    rwa [get?_transcriptOf hname]
  have hsigned : ∀ {name text}, PyStr.ofString name ≠ PyStr.ofString "signature" →
      PyStr.ofString name ≠ PyStr.ofString "role" →
      (answer.asDict.get? (PyStr.ofString name)).bind json = some text →
      ((PipaMobileHandshake.signedTranscript answer.asDict).get? (PyStr.ofString name)).bind json = some text := by
    intro name text hname hrole htext
    rwa [get?_signedTranscript hname hrole]
  have htwo : (answer.asDict.get? (PyStr.ofString "protocol_version")).bind json = some (literal "2") := by
    rw [hprotocol, hversion, Option.bind_some, hw.two]
  have hrole : ((PipaMobileHandshake.signedTranscript answer.asDict).get? (PyStr.ofString "role")).bind json =
      some (literal "\"server\"") := by
    rw [PipaMobileHandshake.signedTranscript, get?_append_last, Option.bind_some]
    · exact hw.plain _ (by decide)
    · rw [mem_transcriptOf (asDict_keys answer)]
      decide
  have hkey' := hw.plain_text hkey hp.client.clientKey
  have hid' := hw.plain_text hid hp.client.clientId
  have hnonce' := hw.plain_text hnonce hp.client.clientNonce
  have hserverKey' := hw.plain_text hserverKey hp.serverKey
  have hserverID' := hw.plain_text hserverID hp.serverId
  have hserverNonce' := hw.plain_text hserverNonce hp.serverNonce
  have hsession' := hw.plain_text hsession hp.client.sessionId
  constructor
  · refine hw.eq (signedTranscript_nodup (asDict_nodup answer) (asDict_keys answer))
      (by show (names signedFields).Pairwise Before; decide) (by show ∀ name ∈ signedFields, _; decide)
      (mem_signedTranscript (asDict_keys answer)) ?_
    simp only [signedMembers, List.forall_mem_cons]
    exact ⟨hsigned (by decide) (by decide) hkey', hsigned (by decide) (by decide) hid',
      hsigned (by decide) (by decide) hnonce', hsigned (by decide) (by decide) htwo, hrole,
      hsigned (by decide) (by decide) hserverKey', hsigned (by decide) (by decide) hserverID',
      hsigned (by decide) (by decide) hserverNonce', hsigned (by decide) (by decide) hsession', List.forall_mem_nil _⟩
  · refine hw.eq (transcriptOf_nodup (asDict_nodup answer))
      (by show (names transcriptFields).Pairwise Before; decide) (by show ∀ name ∈ transcriptFields, _; decide)
      (mem_transcriptOf (asDict_keys answer)) ?_
    simp only [transcriptMembers, List.forall_mem_cons]
    exact ⟨hmoved (by decide) hkey', hmoved (by decide) hid', hmoved (by decide) hnonce', hmoved (by decide) htwo,
      hmoved (by decide) hserverKey', hmoved (by decide) hserverID', hmoved (by decide) hserverNonce',
      hmoved (by decide) hsession', List.forall_mem_nil _⟩

end

/-! ## Both ends -/

/-- The layer of the phone and the session of the server come from one secret and one transcript. -/
def Derived (crypto : Crypto) (layer : PipaSecureRecordLayer) (session : SecureSession) : Prop :=
  ∃ sessionID secret hash, PipaSecureRecordLayer.new crypto.hkdf sessionID secret hash .client = some layer ∧
    SecureSession.fromSharedSecret crypto.hkdf sessionID secret hash .server = some session

/-- Such ends deliver to each other, where the two directions do not share both their key and their nonce prefix. -/
theorem Derived.delivers {crypto : Crypto} {c : Codec} {layer : PipaSecureRecordLayer} {session : SecureSession}
    (h : Derived crypto layer session) (hc : c.Lawful) {aead : Secure.Aead} (hlaw : aead.Lawful)
    (hsep : ¬ (layer.sendKey = session.sendKey ∧ layer.sendNoncePrefix = session.sendNoncePrefix)) :
    Delivers aead c layer session := by
  intro ops hideal
  obtain ⟨sessionID, secret, hash, hlayer, hsession⟩ := h
  obtain ⟨client, l, -, -, hrefines, hlinked⟩ := channel_linked hlaw hc hlayer hsession hsep hideal
  exact hrefines.delivered hlinked

/-- The server has signed this in one of these calls. -/
def Signed (crypto : Crypto) (server : SecureIdentity) (calls : List Secure.Agreement.ServerCall) (message : Bytes) :
    Prop :=
  ∃ call ∈ calls, ∃ answer, call.client.verifies crypto call.clientPublicKey = true ∧ call.nonce.length = 32 ∧
    Secure.answerHello crypto server call.client call.ephemeralPrivateKey call.nonce = some answer ∧
    answer.signatureData = some message

theorem new_of_session {kdf : Secure.Kdf} {sessionID : PyStr} {secret hash : Bytes} {session : SecureSession}
    (h : SecureSession.fromSharedSecret kdf sessionID secret hash .server = some session) :
    ∃ layer, PipaSecureRecordLayer.new kdf sessionID secret hash .client = some layer := by
  unfold SecureSession.fromSharedSecret at h
  split_ifs at h with hid hsecret hhash hzero
  rw [not_not] at hsecret hhash
  rw [PipaSecureRecordLayer.new, if_neg]
  · exact ⟨_, rfl⟩
  · rintro (hne | hall | hne)
    · exact hne hsecret
    · exact hzero hall
    · exact hne hhash

theorem session_of_new {kdf : Secure.Kdf} {sessionID : PyStr} (hid : isIdentifier sessionID = true)
    {secret hash : Bytes} {layer : PipaSecureRecordLayer}
    (h : PipaSecureRecordLayer.new kdf sessionID secret hash .client = some layer) :
    ∃ session, SecureSession.fromSharedSecret kdf sessionID secret hash .client = some session := by
  unfold PipaSecureRecordLayer.new at h
  split at h
  · cases h
  rename_i hmaterial
  simp only [not_or, not_not] at hmaterial
  obtain ⟨hsecret, hzero, hhash⟩ := hmaterial
  rw [SecureSession.fromSharedSecret, dif_pos hid, if_neg (not_not.mpr hsecret), if_neg (not_not.mpr hhash),
    if_neg hzero]
  exact ⟨_, rfl⟩

section
variable {crypto : Crypto} {c : Codec} {json : Value → Option Bytes} {identity : PipaMobileIdentity}
  {context : PipaClientHelloContext} {ephemeralPrivateKey : Fixed 32} {client : ClientHello} {server : SecureIdentity}

/-- The texts of the phone's own hello. -/
theorem Opens.texts (h : Opens crypto identity ephemeralPrivateKey context client) :
    PipaMobileHandshake.text context.hello "session_id" = some client.sessionId ∧
    PipaMobileHandshake.text context.hello "client_ephemeral_public_key" = some client.clientEphemeralPublicKey ∧
    PipaMobileHandshake.text context.hello "client_nonce" = some client.clientNonce := by
  rw [h.hello]
  exact ⟨rfl, rfl, rfl⟩

theorem Opens.verifies (h : Opens crypto identity ephemeralPrivateKey context client) (hsigns : Signs crypto) :
    client.verifies crypto (crypto.ed25519PublicKey identity.privateKey) = true := by
  obtain ⟨data, hdata, hsignature⟩ := h.signature
  rw [ClientHello.verifies, hsignature, Secure.decodeFixed_encode (by decide), hdata]
  exact hsigns _ _

/-- The phone completes with the server's answer to its hello. -/
theorem Opens.completes (h : Opens crypto identity ephemeralPrivateKey context client) (hx : crypto.Commutes)
    (hsigns : Signs crypto) (hw : c.Writes json)
    (hbase64 : ∀ data, c.base64Encoded (Link.PipaMobileCodec.base64EncodedString data) = some data)
    {clientPublicKey serverEphemeral : Fixed 32} {nonce : Bytes} {answer : ServerHello} {session : SecureSession}
    (hserver : Secure.createServerHello crypto server client clientPublicKey serverEphemeral nonce =
      some (answer, session)) :
    ∃ layer, PipaMobileHandshake.complete crypto c context answer.asDict (server.publicKey crypto) server.identityId =
      .ok layer ∧ Derived crypto layer session := by
  obtain ⟨-, hnonce, hanswer, hash, hhash, hderive⟩ := Secure.createServerHello_eq_some.mp hserver
  have hfields := Secure.answerHello_fields hanswer
  have hversion : answer.protocolVersion = .int 2 := hfields.protocolVersion.trans h.protocolVersion
  obtain ⟨data, hdata, hsignature⟩ := hfields.signed
  have hsigned := answer.signatureData_eq (v := .int) hversion
  rw [signedText_members] at hsigned
  obtain ⟨hwritten, htranscript⟩ := answer_written hw hversion
  have hpython : Secure.canonical answer.transcriptDict =
      some (objectText (transcriptMembers answer.fields (literal "2"))) := by
    rw [ServerHello.transcriptDict, hversion]
    exact transcript_text answer.plain (v := .int 2) (t := "2") rfl (by decide)
  obtain ⟨publicKey, secret, hkey, hsecret, hsession⟩ := Secure.deriveSession_eq_some.mp hderive
  obtain ⟨layer, hlayer⟩ := new_of_session hsession
  refine ⟨layer, ?_, answer.sessionId, secret.val, hash.val, hlayer, hsession⟩
  have hread : PipaMobileHandshake.readServerHello c context answer.asDict server.identityId =
      some ⟨answer.sessionId, crypto.x25519PublicKey serverEphemeral, crypto.sign server.privateKey data⟩ := by
    obtain ⟨tsession, tid, tkey, tnonce, tserverID, tserverKey, tserverNonce, tsignature, tversion⟩ :=
      asDict_texts answer
    obtain ⟨osession, okey, ononce⟩ := h.texts
    have hself : ∀ {a b : PyStr}, a = b → same c.toPlatform a b = true := by
      rintro a b rfl
      exact PipaSecureRecordLayer.same_self c.toPlatform a
    have hvalid : isValidIdentifier answer.serverId = true := by
      rw [isValidIdentifier_eq]
      exact answer.server
    simp only [PipaMobileHandshake.readServerHello, Option.bind_eq_bind, Option.bind_eq_some_iff,
      Option.guard_eq_some']
    refine ⟨(), ⟨?_, ?_⟩, (), ⟨_, tversion, ?_⟩, _, tsession, _, tid, _, tkey, _, tnonce, _, tserverID, _, tserverKey,
      _, tserverNonce, _, tsignature, (), ⟨?_, ?_, ?_, ?_, ?_, hvalid⟩, _, ?_, ⟨nonce, hnonce⟩, ?_, _, ?_, rfl⟩
    · show PipaMobileHandshake.expectedFields.all (fun k => k ∈ PipaMobileHandshake.expectedFields) = true
      decide
    · show PipaMobileHandshake.expectedFields.all (fun k => k ∈ PipaMobileHandshake.expectedFields) = true
      decide
    · rw [hversion, PipaSecureRecordLayer.asInt_two]
    · rw [osession]
      exact hself hfields.sessionId
    · rw [h.owner]
      exact hself (hfields.clientId.trans h.clientId)
    · rw [okey]
      exact hself hfields.clientEphemeralPublicKey
    · rw [ononce]
      exact hself hfields.clientNonce
    · exact hself hfields.serverId
    · rw [hfields.serverEphemeralPublicKey]
      exact decodeFixed_encode hbase64 (by decide) _
    · rw [hfields.serverNonce]
      exact decodeFixed_encode hbase64 (by decide) ⟨nonce, hnonce⟩
    · rw [hsignature]
      exact decodeFixed_encode hbase64 (by decide) _
  have hdata' : data = objectText (signedMembers answer.fields (literal "2")) :=
    Option.some.inj (hdata.symm.trans hsigned)
  have hverify : crypto.verify (server.publicKey crypto) (crypto.sign server.privateKey data)
      (objectText (signedMembers answer.fields (literal "2"))) = true := by
    rw [← hdata']
    exact hsigns _ _
  have hhash' : hash = crypto.sha256 (objectText (transcriptMembers answer.fields (literal "2"))) := by
    rw [Secure.transcriptHash, hpython, Option.map_some] at hhash
    exact (Option.some.inj hhash).symm
  have hexchange : crypto.exchange context.ephemeralPrivateKey (crypto.x25519PublicKey serverEphemeral) =
      some secret := by
    rw [h.clientKey, Secure.decodeFixed_encode (by decide), Option.some.injEq] at hkey
    rw [h.ephemeral, hx, hkey, hsecret]
  rw [hhash'] at hlayer
  simp only [PipaMobileHandshake.complete, hread, hwritten, hverify, htranscript, hexchange, hlayer, Bool.not_true,
    Bool.false_eq_true, if_false]

/-- What the phone completes with is an answer of the server to a hello of its fields. -/
theorem Opens.answered (h : Opens crypto identity ephemeralPrivateKey context client) (hx : crypto.Commutes)
    (hw : c.Writes json)
    (hbase64 : ∀ data, c.base64Encoded (Link.PipaMobileCodec.base64EncodedString data) = some data)
    (hread : c.foundation.ReadsStrings) (hascii : c.foundation.TellsAscii)
    {calls : List Secure.Agreement.ServerCall} {serverHello : Object} (hnodup : serverHello.keys.Nodup)
    {expectedServerID : PyStr} {layer : PipaSecureRecordLayer}
    (hgenuine : ∀ r data, PipaMobileHandshake.readServerHello c context serverHello expectedServerID = some r →
      c.canonicalJSON (PipaMobileHandshake.signedTranscript serverHello) = some data →
      crypto.verify (server.publicKey crypto) r.signature data = true → Signed crypto server calls data)
    (hcomplete : PipaMobileHandshake.complete crypto c context serverHello (server.publicKey crypto) expectedServerID =
      .ok layer) :
    ∃ call ∈ calls, ∃ answer session,
      Secure.createServerHello crypto server call.client call.clientPublicKey call.ephemeralPrivateKey call.nonce =
        some (answer, session) ∧
      call.client.fields = client.fields ∧ same c.toPlatform server.identityId expectedServerID = true ∧
      Derived crypto layer session := by
  obtain ⟨r, data, transcriptData, secret, hr, hsigned, hverify, htranscript, hexchange, hlayer⟩ :=
    complete_ok hcomplete
  obtain ⟨call, hcall, answer, hverifies, hnonce, hanswer, hmessage⟩ := hgenuine r data hr hsigned hverify
  obtain ⟨f, hreads⟩ := readServerHello_reads hr
  obtain ⟨v, hv⟩ := answer.version
  rw [answer.signatureData_eq hv] at hmessage
  obtain ⟨rfl, htext⟩ := signedTranscript_eq hw hread hnodup hreads answer.plain hsigned
    (Option.some.inj hmessage).symm
  have hfields := Secure.answerHello_fields hanswer
  have hp := answer.plain
  have hclient := client.plain
  obtain ⟨osession, okey, ononce⟩ := h.texts
  -- the phone's own fields, in its own spelling
  have hspelt : ∀ {a b : PyStr}, Plain a → Plain b → same c.toPlatform a b = true → a = b := by
    intro a b ha hb hsame
    exact hascii a b ha.ascii hb.ascii (beq_iff_eq.mp hsame)
  have hsession : answer.sessionId = client.sessionId := by
    have hown := hreads.ownSession
    rw [osession] at hown
    exact hspelt hp.client.sessionId hclient.sessionId hown
  have hid : answer.clientId = client.clientId := by
    have hown := hreads.own
    rw [h.owner, ← h.clientId] at hown
    exact hspelt hp.client.clientId hclient.clientId hown
  have hkey : answer.clientEphemeralPublicKey = client.clientEphemeralPublicKey := by
    have hown := hreads.ownKey
    rw [okey] at hown
    exact hspelt hp.client.clientKey hclient.clientKey hown
  have hnonce' : answer.clientNonce = client.clientNonce := by
    have hown := hreads.ownNonce
    rw [ononce] at hown
    exact hspelt hp.client.clientNonce hclient.clientNonce hown
  -- both hash what the server wrote
  have hpython : Secure.canonical answer.transcriptDict =
      some (objectText (transcriptMembers answer.fields (literal v.text))) := by
    rw [ServerHello.transcriptDict, hv]
    exact transcript_text answer.plain v.dumps_value (by cases v <;> decide)
  have hhash : Secure.transcriptHash crypto answer = some (crypto.sha256 transcriptData) := by
    rw [Secure.transcriptHash, hpython, ← htext, htranscript, Option.map_some]
  have hserverKey : r.serverEphemeralData = crypto.x25519PublicKey call.ephemeralPrivateKey := by
    have hdecoded := decodeFixed_eq hbase64 hreads.serverKey.2
    exact Subtype.ext (Secure.encode_inj (hdecoded.symm.trans hfields.serverEphemeralPublicKey))
  rw [hserverKey, h.ephemeral] at hexchange
  rw [hreads.sessionID.2] at hlayer
  have hidentifier : isIdentifier answer.sessionId = true := by
    have hvalid := answer.valid
    simp only [Secure.validateHandshakeFields, Bool.and_eq_true] at hvalid
    exact hvalid.1.1.1.2
  obtain ⟨pythonClient, hpythonClient⟩ := session_of_new hidentifier hlayer
  obtain ⟨session, hcreate, hserverSession⟩ := Secure.server_derives hx hverifies hnonce hanswer
    (hkey.trans h.clientKey) hhash hexchange hpythonClient
  refine ⟨call, hcall, answer, session, hcreate, ?_, ?_, answer.sessionId, secret.val,
    (crypto.sha256 transcriptData).val, hlayer, hserverSession⟩
  · rw [Secure.Agreement.ServerHello.toClientFields_eq hfields]
    exact ClientFields.ext hsession hid hkey hnonce'
  · rw [← hfields.serverId]
    exact hreads.expected

end

/-- The handshake of the phone with the server: the server takes the phone's hello for the phone's, and the phone
completes with the server's answer to it. Whatever hello the phone completes with, where the server's signatures are
its own, the server has answered a hello with the phone's fields, is the server that was expected, and has the other
end of the phone's record layer: what either end opens is then what the other sealed. -/
theorem phone_handshake {crypto : Crypto} (hx : crypto.Commutes) (hsigns : Signs crypto) {c : Codec}
    {json : Value → Option Bytes} (hw : c.Writes json)
    (hbase64 : ∀ data, c.base64Encoded (Link.PipaMobileCodec.base64EncodedString data) = some data)
    (hread : c.foundation.ReadsStrings) (hascii : c.foundation.TellsAscii) {identity : PipaMobileIdentity}
    {sessionID : Option PyStr} {randomData : Fixed 16} {ephemeralPrivateKey : Fixed 32} {clientNonce : Bytes}
    {context : PipaClientHelloContext}
    (hmake : PipaMobileHandshake.makeClientHello crypto c identity sessionID randomData ephemeralPrivateKey
      clientNonce = .ok context) (server : SecureIdentity) :
    ∃ client : ClientHello, context.hello = client.asDict ∧
      client.verifies crypto (crypto.ed25519PublicKey identity.privateKey) = true ∧
      (∀ clientPublicKey serverEphemeral nonce answer session,
        Secure.createServerHello crypto server client clientPublicKey serverEphemeral nonce = some (answer, session) →
        ∃ layer, PipaMobileHandshake.complete crypto c context answer.asDict (server.publicKey crypto)
          server.identityId = .ok layer ∧ Derived crypto layer session) ∧
      (∀ calls serverHello expectedServerID layer, (Object.keys serverHello).Nodup →
        (∀ r data, PipaMobileHandshake.readServerHello c context serverHello expectedServerID = some r →
          c.canonicalJSON (PipaMobileHandshake.signedTranscript serverHello) = some data →
          crypto.verify (server.publicKey crypto) r.signature data = true → Signed crypto server calls data) →
        PipaMobileHandshake.complete crypto c context serverHello (server.publicKey crypto) expectedServerID =
          .ok layer →
        ∃ call ∈ calls, ∃ answer session,
          Secure.createServerHello crypto server call.client call.clientPublicKey call.ephemeralPrivateKey call.nonce =
            some (answer, session) ∧
          call.client.fields = client.fields ∧ same c.toPlatform server.identityId expectedServerID = true ∧
          Derived crypto layer session ∧
          ∀ aead : Secure.Aead, aead.Lawful →
            ¬ (layer.sendKey = session.sendKey ∧ layer.sendNoncePrefix = session.sendNoncePrefix) →
            Delivers aead c layer session) := by
  obtain ⟨client, hopens⟩ := makeClientHello_opens hw hmake
  refine ⟨client, hopens.hello, hopens.verifies hsigns, ?_, ?_⟩
  · intro clientPublicKey serverEphemeral nonce answer session hserver
    exact hopens.completes hx hsigns hw hbase64 hserver
  · intro calls serverHello expectedServerID layer hnodup hgenuine hcomplete
    obtain ⟨call, hcall, answer, session, hcreate, hfields, hexpected, hderived⟩ :=
      hopens.answered hx hw hbase64 hread hascii hnodup hgenuine hcomplete
    exact ⟨call, hcall, answer, session, hcreate, hfields, hexpected, hderived,
      fun aead hlaw hsep => hderived.delivers (hw.lawful hbase64) hlaw hsep⟩

/-! ## A phone and a server -/

def phoneIdentity : PipaMobileIdentity := ⟨PyStr.ofString "iphone", .fill 32 9, by decide⟩

/-- A hello of the phone, for the session "s1". -/
def phoneHello : Except PipaMobileError PipaClientHelloContext :=
  PipaMobileHandshake.makeClientHello .checksum sortingCodec phoneIdentity (some (PyStr.ofString "s1")) (.fill 16 0)
    Secure.pipaEphemeral Secure.pcNonce

theorem phoneHello_made : phoneHello.toOption.isSome = true := by decide +kernel

def phoneContext : PipaClientHelloContext := phoneHello.toOption.get phoneHello_made

/-- The phone's hello, as the server reads it. -/
def phoneClient : ClientHello := (ClientHello.ofFields phoneContext.hello).get (by decide +kernel)

theorem phoneClient_eq {client : ClientHello} (h : phoneContext.hello = client.asDict) : client = phoneClient := by
  have hread : ClientHello.ofFields phoneContext.hello = some client := by
    rw [h]
    exact client.ofFields_asDict
  simp only [phoneClient, hread, Option.get_some]

/-- The server's answer to it, and its session. -/
def phoneAnswer : ServerHello × SecureSession :=
  (Secure.createServerHello .checksum Secure.pcIdentity phoneClient
    (Crypto.checksum.ed25519PublicKey phoneIdentity.privateKey) Secure.pcEphemeral Secure.pcNonce).get
      (by decide +kernel)

theorem phoneAnswer_eq :
    Secure.createServerHello .checksum Secure.pcIdentity phoneClient
      (Crypto.checksum.ed25519PublicKey phoneIdentity.privateKey) Secure.pcEphemeral Secure.pcNonce =
        some (phoneAnswer.1, phoneAnswer.2) := by
  rw [Prod.mk.eta, phoneAnswer, Option.some_get]

theorem checksum_signs : Signs .checksum := by
  intro privateKey message
  exact decide_eq_true rfl

/-- The server takes the hello for the phone's, and the phone completes with its answer. -/
theorem phone_handshake_pc :
    phoneContext.hello = phoneClient.asDict ∧
      phoneClient.verifies .checksum (Crypto.checksum.ed25519PublicKey phoneIdentity.privateKey) = true ∧
      ∃ layer, PipaMobileHandshake.complete .checksum sortingCodec phoneContext phoneAnswer.1.asDict
        (Secure.pcIdentity.publicKey .checksum) Secure.pcIdentity.identityId = .ok layer ∧
        Derived .checksum layer phoneAnswer.2 := by
  have hmake : phoneHello = .ok phoneContext := by
    rw [phoneContext]
    generalize phoneHello_made = hmade
    revert hmade
    cases phoneHello with
    | error e =>
      intro hmade
      cases hmade
    | ok context => exact fun _ => rfl
  obtain ⟨client, hhello, hverifies, hcompletes, -⟩ := phone_handshake Crypto.checksum_commutes checksum_signs
    sortingCodec_writes Link.PipaMobileCodec.standardDecode_encoded plainFoundation_reads (fun _ _ _ _ h => h) hmake
    Secure.pcIdentity
  -- only one hello has the dictionary that the phone sends
  have hclient := phoneClient_eq hhello
  rw [hclient] at hhello hverifies hcompletes
  exact ⟨hhello, hverifies, hcompletes _ _ _ _ _ phoneAnswer_eq⟩

end Pipa.Mobile
