import Pipa.Secure.Session

/- The v2 handshake of `secure_session.py`: the hellos are created, checked and
   answered, and both sides derive a `SecureSession` from the key exchange.

   Ed25519, X25519, SHA-256 and HKDF come from a library and are parameters
   (`Crypto`). What is generated at random (ephemeral keys, nonces, session ids)
   is an argument. `none` stands for the `HandshakeError` a function raises. -/
namespace Pipa.Secure
open Pipa.Lib

/-! ## Primitives and identities -/

/-- The library functions a handshake calls; keys and signatures are raw bytes. -/
structure Crypto where
  ed25519PublicKey (privateKey : Fixed 32) : Fixed 32
  sign (privateKey : Fixed 32) (message : Bytes) : Fixed 64
  verify (publicKey : Fixed 32) (signature : Fixed 64) (message : Bytes) : Bool
  x25519PublicKey (privateKey : Fixed 32) : Fixed 32
  exchange (privateKey publicKey : Fixed 32) : Option (Fixed 32)
  sha256 (message : Bytes) : Fixed 32
  hkdf : Kdf

/-- What X25519 is for: both sides compute the same secret. -/
def Crypto.Commutes (crypto : Crypto) : Prop :=
  ∀ a b, crypto.exchange a (crypto.x25519PublicKey b) = crypto.exchange b (crypto.x25519PublicKey a)

/-- A stand-in for concrete runs: signatures and digests are byte sums, the exchange adds the
two keys byte by byte. -/
def Crypto.checksum : Crypto where
  ed25519PublicKey privateKey := privateKey
  sign privateKey message :=
    ⟨[privateKey.val.sum, message.sum] ++ List.replicate 62 0, by simp⟩
  verify publicKey signature message :=
    signature.val = [publicKey.val.sum, message.sum] ++ List.replicate 62 0
  x25519PublicKey privateKey := privateKey
  exchange privateKey publicKey :=
    some ⟨List.zipWith (· + ·) privateKey.val publicKey.val, by
      rw [List.length_zipWith, privateKey.property, publicKey.property, Nat.min_self]⟩
  sha256 message := ⟨List.replicate 32 message.sum, by simp⟩
  hkdf := Kdf.checksum

theorem Crypto.checksum_commutes : Crypto.checksum.Commutes := by
  intro a b
  simp only [checksum, Option.some.injEq, Subtype.mk.injEq]
  exact List.zipWith_comm_of_comm (fun x y => UInt8.add_comm x y)

/-- `SecureIdentity`. -/
structure SecureIdentity where
  identityId : PyStr
  privateKey : Fixed 32
  valid : isIdentifier identityId = true

def SecureIdentity.publicKey (crypto : Crypto) (identity : SecureIdentity) : Fixed 32 :=
  crypto.ed25519PublicKey identity.privateKey

/-- `_decode` with an expected length. -/
def decodeFixed (value : PyStr) (n : Nat) : Option (Fixed n) :=
  match h : decodeText value (some n) with
  | none => none
  | some b => some ⟨b, (decodeText_eq_some h).2 n rfl⟩

theorem decodeFixed_eq_some {value : PyStr} {n : Nat} {b : Fixed n} (h : decodeFixed value n = some b) :
    value = encode b.val := by
  unfold decodeFixed at h
  split at h
  · cases h
  · rename_i c hc
    obtain rfl := Option.some.inj h
    exact (decodeText_eq_some hc).1

theorem decodeText_fixed {n : Nat} (hn : 0 < n) (b : Fixed n) : decodeText (encode b.val) (some n) = some b.val := by
  refine decodeText_encode (Fixed.ne_nil hn b) ?_
  intro m hm
  rw [b.property]
  exact Option.some.inj hm

theorem decodeFixed_encode {n : Nat} (hn : 0 < n) (b : Fixed n) : decodeFixed (encode b.val) n = some b := by
  have htext := decodeText_fixed hn b
  unfold decodeFixed
  split
  · rename_i hnone
    rw [htext] at hnone
    cases hnone
  · rename_i c hc
    rw [htext] at hc
    exact congrArg some (Subtype.ext (Option.some.inj hc).symm)

/-! ## Hellos -/

/-- The constructor of `ClientHello` with its `__post_init__`. -/
def ClientHello.new (sessionId clientId clientEphemeralPublicKey clientNonce signature : PyStr)
    (protocolVersion : Value) : Option ClientHello :=
  if h : validateHandshakeFields protocolVersion sessionId clientId clientEphemeralPublicKey clientNonce = true ∧
      (decodeText signature (some 64)).isSome = true then
    some ⟨sessionId, clientId, clientEphemeralPublicKey, clientNonce, signature, protocolVersion, h.1, h.2⟩
  else none

/-- The constructor of `ServerHello` with its `__post_init__`. -/
def ServerHello.new (sessionId clientId serverId clientEphemeralPublicKey clientNonce
    serverEphemeralPublicKey serverNonce signature : PyStr) (protocolVersion : Value) : Option ServerHello :=
  if h : validateHandshakeFields protocolVersion sessionId clientId clientEphemeralPublicKey clientNonce = true ∧
      isIdentifier serverId = true ∧ (decodeText serverEphemeralPublicKey (some 32)).isSome = true ∧
      (decodeText serverNonce (some 32)).isSome = true ∧ (decodeText signature (some 64)).isSome = true then
    some ⟨sessionId, clientId, serverId, clientEphemeralPublicKey, clientNonce, serverEphemeralPublicKey,
      serverNonce, signature, protocolVersion, h.1, h.2.1, h.2.2.1, h.2.2.2.1, h.2.2.2.2⟩
  else none

/-- The placeholder signature of `create_client_hello`, `"A" * 86`. -/
def unsignedSignature : PyStr := List.replicate 86 (CodePoint.ofChar 'A')

/-- `session_id or _encode(secrets.token_bytes(16))`. -/
def chosenSessionId (sessionId : Option PyStr) (generated : Fixed 16) : PyStr :=
  match sessionId with
  | some (c :: cs) => c :: cs
  | _ => encode generated.val

/-- `create_client_hello`. -/
def createClientHello (crypto : Crypto) (identity : SecureIdentity) (sessionId : Option PyStr)
    (generated : Fixed 16) (ephemeralPrivateKey : Fixed 32) (nonce : Bytes) : Option ClientHello :=
  if nonce.length ≠ 32 then none
  else do
    let unsigned ← ClientHello.new (chosenSessionId sessionId generated) identity.identityId
      (encode (crypto.x25519PublicKey ephemeralPrivateKey).val) (encode nonce) unsignedSignature
      (.int secureProtocolVersion)
    let data ← canonical (withRole "client" unsigned.unsignedDict)
    ClientHello.new unsigned.sessionId unsigned.clientId unsigned.clientEphemeralPublicKey
      unsigned.clientNonce (encode (crypto.sign identity.privateKey data).val) unsigned.protocolVersion

/-- `ClientHello.as_dict`. -/
def ClientHello.asDict (hello : ClientHello) : Object :=
  hello.unsignedDict ++ [(PyStr.ofString "signature", .str hello.signature)]

/-- `ServerHello.as_dict`. -/
def ServerHello.asDict (hello : ServerHello) : Object :=
  hello.transcriptDict ++ [(PyStr.ofString "signature", .str hello.signature)]

/-- `_transcript_hash`. -/
def transcriptHash (crypto : Crypto) (hello : ServerHello) : Option (Fixed 32) :=
  (canonical hello.transcriptDict).map crypto.sha256

/-! ## Key exchange -/

/-- `_derive_session`; `peerPublicKey` is the ephemeral key of the other side. -/
def deriveSession (crypto : Crypto) (role : Role) (sessionId peerPublicKey : PyStr)
    (ownPrivateKey transcriptHash : Fixed 32) : Option SecureSession := do
  let publicKey ← decodeFixed peerPublicKey 32
  let sharedSecret ← crypto.exchange ownPrivateKey publicKey
  if sharedSecret.val.all (· = 0) then none
  else SecureSession.fromSharedSecret crypto.hkdf sessionId sharedSecret.val transcriptHash.val role

/-- The dictionary `create_server_hello` signs, without the role. -/
def helloWithoutSignature (client : ClientHello) (serverId serverEphemeralPublicKey serverNonce : PyStr) :
    Object :=
  client.unsignedDict ++
    [(PyStr.ofString "server_ephemeral_public_key", .str serverEphemeralPublicKey),
     (PyStr.ofString "server_id", .str serverId),
     (PyStr.ofString "server_nonce", .str serverNonce)]

/-- The check of the client's signature in `create_server_hello`. -/
def ClientHello.verifies (crypto : Crypto) (hello : ClientHello) (clientPublicKey : Fixed 32) : Bool :=
  match decodeFixed hello.signature 64, hello.signatureData with
  | some signature, some data => crypto.verify clientPublicKey signature data
  | _, _ => false

/-- The hello `create_server_hello` answers with. -/
def answerHello (crypto : Crypto) (identity : SecureIdentity) (client : ClientHello)
    (ephemeralPrivateKey : Fixed 32) (nonce : Bytes) : Option ServerHello := do
  let serverKey := encode (crypto.x25519PublicKey ephemeralPrivateKey).val
  let data ← canonical (withRole "server"
    (helloWithoutSignature client identity.identityId serverKey (encode nonce)))
  ServerHello.new client.sessionId client.clientId identity.identityId client.clientEphemeralPublicKey
    client.clientNonce serverKey (encode nonce) (encode (crypto.sign identity.privateKey data).val)
    client.protocolVersion

/-- `create_server_hello`. -/
def createServerHello (crypto : Crypto) (identity : SecureIdentity) (client : ClientHello)
    (clientPublicKey ephemeralPrivateKey : Fixed 32) (nonce : Bytes) :
    Option (ServerHello × SecureSession) :=
  if !client.verifies crypto clientPublicKey then none
  else if nonce.length ≠ 32 then none
  else do
    let server ← answerHello crypto identity client ephemeralPrivateKey nonce
    let hash ← transcriptHash crypto server
    let session ← deriveSession crypto .server server.sessionId client.clientEphemeralPublicKey
      ephemeralPrivateKey hash
    some (server, session)

/-- The check of the server's signature in `complete_client_handshake`. -/
def ServerHello.verifies (crypto : Crypto) (hello : ServerHello) (serverPublicKey : Fixed 32) : Bool :=
  match decodeFixed hello.signature 64, hello.signatureData with
  | some signature, some data => crypto.verify serverPublicKey signature data
  | _, _ => false

/-- `complete_client_handshake`. -/
def completeClientHandshake (crypto : Crypto) (identity : SecureIdentity) (client : ClientHello)
    (ephemeralPrivateKey : Fixed 32) (server : ServerHello) (serverPublicKey : Fixed 32)
    (expectedServerId : Option PyStr) : Option SecureSession :=
  if client.clientId ≠ identity.identityId then none
  else if expectedServerId.any (fun id => !isIdentifier id || server.serverId ≠ id) then none
  else if server.sessionId ≠ client.sessionId ∨ server.clientId ≠ client.clientId then none
  else if server.clientEphemeralPublicKey ≠ client.clientEphemeralPublicKey ∨
      server.clientNonce ≠ client.clientNonce then none
  else if encode (crypto.x25519PublicKey ephemeralPrivateKey).val ≠ client.clientEphemeralPublicKey then none
  else if !server.verifies crypto serverPublicKey then none
  else do
    let hash ← transcriptHash crypto server
    deriveSession crypto .client server.sessionId server.serverEphemeralPublicKey ephemeralPrivateKey hash

/-! ## What the functions do -/

section
variable {crypto : Crypto} {identity : SecureIdentity} {client : ClientHello} {server : ServerHello}
  {session : SecureSession} {clientPublicKey serverPublicKey ephemeralPrivateKey : Fixed 32} {nonce : Bytes}

theorem createServerHello_eq_some :
    createServerHello crypto identity client clientPublicKey ephemeralPrivateKey nonce =
        some (server, session) ↔
      client.verifies crypto clientPublicKey = true ∧ nonce.length = 32 ∧
      answerHello crypto identity client ephemeralPrivateKey nonce = some server ∧
      ∃ hash, transcriptHash crypto server = some hash ∧
        deriveSession crypto .server server.sessionId client.clientEphemeralPublicKey ephemeralPrivateKey
          hash = some session := by
  unfold createServerHello
  by_cases hverifies : client.verifies crypto clientPublicKey = true
  · by_cases hnonce : nonce.length = 32
    · simp only [hverifies, hnonce, Bool.not_true, Bool.false_eq_true, if_false, ne_eq, not_true, true_and,
        Option.bind_eq_bind, Option.bind_eq_some_iff, Option.some.injEq, Prod.mk.injEq]
      constructor
      · rintro ⟨server', hserver, hash, hhash, session', hsession, rfl, rfl⟩
        exact ⟨hserver, hash, hhash, hsession⟩
      · rintro ⟨hserver, hash, hhash, hsession⟩
        exact ⟨server, hserver, hash, hhash, session, hsession, rfl, rfl⟩
    · simp [hverifies, hnonce]
  · simp [hverifies]

/-- The fields of an answer: those of the client's hello and the server's own. -/
structure Answers (crypto : Crypto) (identity : SecureIdentity) (client : ClientHello)
    (ephemeralPrivateKey : Fixed 32) (nonce : Bytes) (server : ServerHello) : Prop where
  sessionId : server.sessionId = client.sessionId
  clientId : server.clientId = client.clientId
  serverId : server.serverId = identity.identityId
  clientEphemeralPublicKey : server.clientEphemeralPublicKey = client.clientEphemeralPublicKey
  clientNonce : server.clientNonce = client.clientNonce
  serverEphemeralPublicKey :
    server.serverEphemeralPublicKey = encode (crypto.x25519PublicKey ephemeralPrivateKey).val
  serverNonce : server.serverNonce = encode nonce
  protocolVersion : server.protocolVersion = client.protocolVersion
  signature : ∃ data, canonical (withRole "server" (helloWithoutSignature client identity.identityId
      (encode (crypto.x25519PublicKey ephemeralPrivateKey).val) (encode nonce))) = some data ∧
    server.signature = encode (crypto.sign identity.privateKey data).val

theorem answerHello_fields (h : answerHello crypto identity client ephemeralPrivateKey nonce = some server) :
    Answers crypto identity client ephemeralPrivateKey nonce server := by
  simp only [answerHello, Option.bind_eq_bind, Option.bind_eq_some_iff] at h
  obtain ⟨data, hdata, h⟩ := h
  unfold ServerHello.new at h
  split at h
  · obtain rfl := Option.some.inj h
    exact ⟨rfl, rfl, rfl, rfl, rfl, rfl, rfl, rfl, data, hdata, rfl⟩
  · cases h

theorem deriveSession_eq_some {role : Role} {sessionId peerPublicKey : PyStr} {ownPrivateKey hash : Fixed 32} :
    deriveSession crypto role sessionId peerPublicKey ownPrivateKey hash = some session ↔
      ∃ publicKey sharedSecret, decodeFixed peerPublicKey 32 = some publicKey ∧
        crypto.exchange ownPrivateKey publicKey = some sharedSecret ∧
        SecureSession.fromSharedSecret crypto.hkdf sessionId sharedSecret.val hash.val role = some session := by
  simp only [deriveSession, Option.bind_eq_bind, Option.bind_eq_some_iff]
  constructor
  · rintro ⟨publicKey, hkey, sharedSecret, hsecret, h⟩
    split at h
    · cases h
    · exact ⟨publicKey, sharedSecret, hkey, hsecret, h⟩
  · rintro ⟨publicKey, sharedSecret, hkey, hsecret, h⟩
    refine ⟨publicKey, hkey, sharedSecret, hsecret, ?_⟩
    rw [if_neg]
    · exact h
    · intro hzero
      unfold SecureSession.fromSharedSecret at h
      simp [hzero] at h

/-- What a completed handshake has checked. -/
structure Completed (crypto : Crypto) (identity : SecureIdentity) (client : ClientHello)
    (ephemeralPrivateKey : Fixed 32) (server : ServerHello) (serverPublicKey : Fixed 32)
    (expectedServerId : Option PyStr) (session : SecureSession) : Prop where
  identity : client.clientId = identity.identityId
  expected : ∀ id, expectedServerId = some id → server.serverId = id
  sessionId : server.sessionId = client.sessionId
  clientId : server.clientId = client.clientId
  clientEphemeralPublicKey : server.clientEphemeralPublicKey = client.clientEphemeralPublicKey
  clientNonce : server.clientNonce = client.clientNonce
  ownKey : client.clientEphemeralPublicKey = encode (crypto.x25519PublicKey ephemeralPrivateKey).val
  verifies : server.verifies crypto serverPublicKey = true
  derived : ∃ hash, transcriptHash crypto server = some hash ∧
    deriveSession crypto .client server.sessionId server.serverEphemeralPublicKey ephemeralPrivateKey hash =
      some session

theorem completeClientHandshake_eq_some {expectedServerId : Option PyStr}
    (h : completeClientHandshake crypto identity client ephemeralPrivateKey server serverPublicKey
      expectedServerId = some session) :
    Completed crypto identity client ephemeralPrivateKey server serverPublicKey expectedServerId session := by
  unfold completeClientHandshake at h
  split at h
  · cases h
  split at h
  · cases h
  split at h
  · cases h
  split at h
  · cases h
  split at h
  · cases h
  split at h
  · cases h
  · rename_i hid hexpected hbound htranscript hkey hverifies
    simp only [not_or, not_not] at hbound htranscript
    simp only [Option.bind_eq_bind, Option.bind_eq_some_iff] at h
    refine ⟨not_not.mp hid, ?_, hbound.1, hbound.2, htranscript.1, htranscript.2, (not_not.mp hkey).symm,
      by simpa using hverifies, h⟩
    rintro id rfl
    simp only [Option.any_some, Bool.or_eq_true, decide_eq_true_eq, not_or, not_not] at hexpected
    exact hexpected.2

/-- The secret and the transcript hash the client's session comes from. -/
theorem Completed.material {expectedServerId : Option PyStr} {serverIdentity : SecureIdentity}
    {client' : ClientHello} {serverEphemeral : Fixed 32}
    (h : Completed crypto identity client ephemeralPrivateKey server serverPublicKey expectedServerId session)
    (hanswer : Answers crypto serverIdentity client' serverEphemeral nonce server) :
    ∃ secret hash : Fixed 32, transcriptHash crypto server = some hash ∧
      crypto.exchange ephemeralPrivateKey (crypto.x25519PublicKey serverEphemeral) = some secret ∧
      SecureSession.fromSharedSecret crypto.hkdf server.sessionId secret.val hash.val .client =
        some session := by
  obtain ⟨hash, hhash, hderived⟩ := h.derived
  obtain ⟨publicKey, secret, hkey, hsecret, hsession⟩ := deriveSession_eq_some.mp hderived
  rw [hanswer.serverEphemeralPublicKey, decodeFixed_encode (by decide)] at hkey
  obtain rfl := Option.some.inj hkey
  exact ⟨secret, hash, hhash, hsecret, hsession⟩

theorem fromSharedSecret_server {kdf : Kdf} {sessionId : PyStr} {secret hash : Bytes}
    (h : SecureSession.fromSharedSecret kdf sessionId secret hash .client = some session) :
    ∃ serverSession, SecureSession.fromSharedSecret kdf sessionId secret hash .server = some serverSession := by
  unfold SecureSession.fromSharedSecret at h ⊢
  split at h
  · rename_i hid
    rw [dif_pos hid]
    split at h
    · cases h
    rename_i hsecret
    rw [if_neg hsecret]
    split at h
    · cases h
    rename_i hhash
    rw [if_neg hhash]
    split at h
    · cases h
    · rename_i hzero
      rw [if_neg hzero]
      exact ⟨_, rfl⟩
  · cases h

/-- When a client derives a session from an answer, the server that gave it has derived its own
from the same secret and hash. -/
theorem server_derives (hx : crypto.Commutes) {serverIdentity : SecureIdentity} {serverEphemeral secret hash : Fixed 32}
    (hverifies : client.verifies crypto clientPublicKey = true) (hnonce : nonce.length = 32)
    (hanswer : answerHello crypto serverIdentity client serverEphemeral nonce = some server)
    (hown : server.clientEphemeralPublicKey = encode (crypto.x25519PublicKey ephemeralPrivateKey).val)
    (hhash : transcriptHash crypto server = some hash)
    (hsecret : crypto.exchange ephemeralPrivateKey (crypto.x25519PublicKey serverEphemeral) = some secret)
    (hsession : SecureSession.fromSharedSecret crypto.hkdf server.sessionId secret.val hash.val .client =
      some session) :
    ∃ serverSession,
      createServerHello crypto serverIdentity client clientPublicKey serverEphemeral nonce =
        some (server, serverSession) ∧
      SecureSession.fromSharedSecret crypto.hkdf server.sessionId secret.val hash.val .server =
        some serverSession := by
  obtain ⟨serverSession, hserver⟩ := fromSharedSecret_server hsession
  refine ⟨serverSession, ?_, hserver⟩
  refine createServerHello_eq_some.mpr ⟨hverifies, hnonce, hanswer, hash, hhash, ?_⟩
  refine deriveSession_eq_some.mpr ⟨crypto.x25519PublicKey ephemeralPrivateKey, secret, ?_, ?_, hserver⟩
  · rw [← (answerHello_fields hanswer).clientEphemeralPublicKey, hown]
    exact decodeFixed_encode (by decide) _
  · rw [hx, hsecret]

/-- Both sides of a handshake derive their session from one secret and one transcript hash. -/
theorem handshake_sessions (hx : crypto.Commutes) {serverIdentity : SecureIdentity} {serverSession : SecureSession}
    {serverEphemeral : Fixed 32} {expectedServerId : Option PyStr}
    (hserver : createServerHello crypto serverIdentity client clientPublicKey serverEphemeral nonce =
      some (server, serverSession))
    (hclient : completeClientHandshake crypto identity client ephemeralPrivateKey server serverPublicKey
      expectedServerId = some session) :
    ∃ secret hash : Fixed 32,
      SecureSession.fromSharedSecret crypto.hkdf server.sessionId secret.val hash.val .server =
        some serverSession ∧
      SecureSession.fromSharedSecret crypto.hkdf server.sessionId secret.val hash.val .client =
        some session := by
  obtain ⟨hverifies, hnonce, hanswer, -⟩ := createServerHello_eq_some.mp hserver
  have hcompleted := completeClientHandshake_eq_some hclient
  obtain ⟨secret, hash, hhash, hsecret, hsession⟩ := hcompleted.material (answerHello_fields hanswer)
  have hown := hcompleted.clientEphemeralPublicKey.trans hcompleted.ownKey
  obtain ⟨serverSession', hcreate, hs⟩ :=
    server_derives hx hverifies hnonce hanswer hown hhash hsecret hsession
  rw [hserver] at hcreate
  obtain rfl := (Prod.mk.inj (Option.some.inj hcreate)).2
  exact ⟨secret, hash, hs, hsession⟩

end

/-! ## A server and a device -/

def pcIdentity : SecureIdentity := ⟨PyStr.ofString "pc", .fill 32 7, by decide⟩

def pipaIdentity : SecureIdentity := ⟨PyStr.ofString "pipa-1", .fill 32 9, by decide⟩

def pipaEphemeral : Fixed 32 := .fill 32 3

def pcEphemeral : Fixed 32 := .fill 32 5

def pcNonce : Bytes := List.replicate 32 6

/-- A hello of the device, for the session "s1". -/
def pipaHello : ClientHello :=
  (createClientHello .checksum pipaIdentity (some (PyStr.ofString "s1")) (.fill 16 0)
    pipaEphemeral (List.replicate 32 4)).get (by decide +kernel)

/-- The server's answer to it, and its session. -/
def pcAnswer : ServerHello × SecureSession :=
  (createServerHello .checksum pcIdentity pipaHello (pipaIdentity.publicKey .checksum) pcEphemeral
    pcNonce).get (by decide +kernel)

theorem pcAnswer_eq :
    createServerHello .checksum pcIdentity pipaHello (pipaIdentity.publicKey .checksum) pcEphemeral pcNonce =
      some (pcAnswer.1, pcAnswer.2) := by
  rw [Prod.mk.eta, pcAnswer, Option.some_get]

/-- The device's session. -/
def pipaSession : SecureSession :=
  (completeClientHandshake .checksum pipaIdentity pipaHello pipaEphemeral pcAnswer.1
    (pcIdentity.publicKey .checksum) (some (PyStr.ofString "pc"))).get (by decide +kernel)

theorem pipaSession_eq :
    completeClientHandshake .checksum pipaIdentity pipaHello pipaEphemeral pcAnswer.1
      (pcIdentity.publicKey .checksum) (some (PyStr.ofString "pc")) = some pipaSession := by
  rw [pipaSession, Option.some_get]

end Pipa.Secure
