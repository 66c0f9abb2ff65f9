import Mathlib.Data.List.TakeWhile
import Pipa.Secure.DeviceHandshake
import Pipa.Secure.Parity
import Pipa.Secure.RecordLayer

/- Agreement of the two sides of a handshake, in any run in which the attacker
   chooses every message: hellos are created by the Python client and by the
   device, answered by the server, and answers are accepted by either.

   The run keeps every signature the three identities made. Signatures are ideal in
   the sense of `Ideal`: what verifies under one of their keys is in that list.
   Since the signed bytes give the role, all fields and the version (`Signed`), a
   verified hello is the one that was sent. -/
namespace Pipa.Secure.Agreement
open Pipa.Lib Pipa.Secure.Firmware

/-! ## Runs -/

/-- The identities whose private keys the attacker does not have. -/
structure Parties where
  crypto : Crypto
  client : SecureIdentity
  server : SecureIdentity
  device : DeviceIdentity

namespace Parties
variable (P : Parties)

def clientKey : Fixed 32 := P.client.publicKey P.crypto
def serverKey : Fixed 32 := P.server.publicKey P.crypto
def deviceKey : Fixed 32 := P.device.publicKey P.crypto

def honest (key : Fixed 32) : Prop := key = P.clientKey ∨ key = P.serverKey ∨ key = P.deviceKey

end Parties

/-- One signature. -/
structure Signing where
  publicKey : Fixed 32
  message : Bytes
  signature : Fixed 64
  deriving DecidableEq

/-- A call of `create_server_hello`. -/
structure ServerCall where
  client : ClientHello
  clientPublicKey : Fixed 32
  ephemeralPrivateKey : Fixed 32
  nonce : Bytes

/-- A hello the device sent. -/
structure DeviceHello where
  sessionId : Bytes
  clientId : Bytes
  clientEphemeralPublicKey : Bytes
  clientNonce : Bytes
  signature : Fixed 64

def DeviceHello.signedJson (d : DeviceHello) : Bytes :=
  clientSignedJson d.sessionId d.clientId d.clientEphemeralPublicKey d.clientNonce

/-- What has happened, and the device's state. -/
structure World where
  signings : List Signing
  hellos : List (ClientHello × Fixed 32)
  serverCalls : List ServerCall
  deviceHellos : List DeviceHello
  handshake : PipaSecureHandshake
  session : PipaSecureSession

inductive Op where
  | createClientHello (sessionId : Option PyStr) (generated : Fixed 16) (ephemeralPrivateKey : Fixed 32)
      (nonce : Bytes)
  | createServerHello (call : ServerCall)
  | completeClientHandshake (client : ClientHello) (ephemeralPrivateKey : Fixed 32) (server : ServerHello)
      (expectedServerId : Option PyStr)
  | beginClient (clientId : Bytes) (sessionId : Option Bytes) (sessionBytes : Fixed 16)
      (keyBytes nonce : Fixed 32)
  | clientHelloJson
  | acceptServerHello (object : JsonObject) (expectedServerId : Option Bytes)

inductive Out where
  | created (hello : Option ClientHello)
  | answered (result : Option (ServerHello × SecureSession))
  | completed (session : Option SecureSession)
  | begun (ok : Bool)
  | json (text : Bytes)
  | accepted (ok : Bool)

section
variable (P : Parties)

/-- The signature of a hello, as a record. -/
def signingsOf (key : Fixed 32) (data : Option Bytes) (signature : PyStr) : List Signing :=
  match data, decodeFixed signature 64 with
  | some data, some signature => [⟨key, data, signature⟩]
  | _, _ => []

def ServerCall.result (call : ServerCall) : Option (ServerHello × SecureSession) :=
  Secure.createServerHello P.crypto P.server call.client call.clientPublicKey call.ephemeralPrivateKey
    call.nonce

/-- The signature a call of `create_server_hello` makes: it signs before it derives the session. -/
def ServerCall.signings (call : ServerCall) : List Signing :=
  if !call.client.verifies P.crypto call.clientPublicKey then []
  else if call.nonce.length ≠ 32 then []
  else match answerHello P.crypto P.server call.client call.ephemeralPrivateKey call.nonce with
    | none => []
    | some hello => signingsOf P.serverKey hello.signatureData hello.signature

/-- The hello the device's `clientHelloJson` sends. -/
def deviceHello (h : PipaSecureHandshake) : DeviceHello :=
  ⟨h.sessionId, h.clientId, h.clientEphemeralPublicKey, h.clientNonce, h.signature P.crypto P.device⟩

def step (w : World) : Op → World × Out
  | .createClientHello sessionId generated ephemeralPrivateKey nonce =>
    match Secure.createClientHello P.crypto P.client sessionId generated ephemeralPrivateKey nonce with
    | none => (w, .created none)
    | some hello =>
      ({ w with
          hellos := w.hellos ++ [(hello, ephemeralPrivateKey)]
          signings := w.signings ++ signingsOf P.clientKey hello.signatureData hello.signature },
        .created (some hello))
  | .createServerHello call =>
    ({ w with
        serverCalls := w.serverCalls ++ [call]
        signings := w.signings ++ call.signings P }, .answered (call.result P))
  | .completeClientHandshake client ephemeralPrivateKey server expectedServerId =>
    (w, .completed (Secure.completeClientHandshake P.crypto P.client client ephemeralPrivateKey server
      P.serverKey expectedServerId))
  | .beginClient clientId sessionId sessionBytes keyBytes nonce =>
    let r := PipaSecureHandshake.beginClient P.crypto P.device clientId sessionId sessionBytes keyBytes nonce
    ({ w with handshake := r.1 }, .begun r.2)
  | .clientHelloJson =>
    let text := w.handshake.clientHelloJson P.crypto P.device
    if !w.handshake.started || !P.device.ready then (w, .json text)
    else
      let d := deviceHello P w.handshake
      ({ w with
          deviceHellos := w.deviceHellos ++ [d]
          signings := w.signings ++ [⟨P.deviceKey, d.signedJson, d.signature⟩] }, .json text)
  | .acceptServerHello object expectedServerId =>
    let r := w.handshake.acceptServerHello P.crypto w.session object P.serverKey expectedServerId
    ({ w with handshake := r.1.1, session := r.1.2 }, .accepted r.2)

def machine : Machine World Op Out where
  init := ⟨[], [], [], [], .cleared, .cleared⟩
  step := step P

/-- A signature that verifies under an honest key was made by its owner. -/
def Genuine (w : World) (key : Fixed 32) (signature : Fixed 64) (message : Bytes) : Prop :=
  P.honest key → P.crypto.verify key signature message = true → ⟨key, message, signature⟩ ∈ w.signings

/-- The ideal signatures: every verification of the run is of a genuine signature. -/
def Ideal (w : World) : Op → Prop
  | .createServerHello call => ∀ signature data, decodeFixed call.client.signature 64 = some signature →
      call.client.signatureData = some data → Genuine P w call.clientPublicKey signature data
  | .completeClientHandshake _ _ server _ => ∀ signature data,
      decodeFixed server.signature 64 = some signature → server.signatureData = some data →
      Genuine P w P.serverKey signature data
  | .acceptServerHello object expectedServerId => ∀ r,
      w.handshake.readServerHello object expectedServerId = some r →
      Genuine P w P.serverKey r.signature (w.handshake.signedTranscript r)
  | _ => True

/-! ## Where signatures come from -/

/-- The hello the server signs in a call, once it has verified the client's. -/
structure ServerCall.Signs (call : ServerCall) (hello : ServerHello) : Prop where
  verifies : call.client.verifies P.crypto call.clientPublicKey = true
  nonce : call.nonce.length = 32
  answer : answerHello P.crypto P.server call.client call.ephemeralPrivateKey call.nonce = some hello

/-- A signature of one of the three identities, and the call that made it. -/
inductive Origin (w : World) (s : Signing) : Prop where
  | client (hello : ClientHello) (ephemeralPrivateKey : Fixed 32)
      (mem : (hello, ephemeralPrivateKey) ∈ w.hellos) (key : s.publicKey = P.clientKey)
      (message : hello.signatureData = some s.message) (signature : hello.signature = encode s.signature.val)
  | device (d : DeviceHello) (mem : d ∈ w.deviceHellos) (key : s.publicKey = P.deviceKey)
      (message : s.message = d.signedJson) (signature : s.signature = d.signature)
  | server (call : ServerCall) (mem : call ∈ w.serverCalls) (hello : ServerHello) (signs : call.Signs P hello)
      (message : hello.signatureData = some s.message) (signature : hello.signature = encode s.signature.val)

/-- The device's strings are the bytes of these fields. -/
structure DeviceHello.Has (d : DeviceHello) (f : ClientFields) : Prop where
  sessionId : d.sessionId = f.sessionId.bytes
  clientId : d.clientId = f.clientId.bytes
  clientKey : d.clientEphemeralPublicKey = f.clientKey.bytes
  clientNonce : d.clientNonce = f.clientNonce.bytes

/-- Every signature has its origin, and the device only ever has valid fields. -/
structure Accounted (w : World) : Prop where
  signings : ∀ s ∈ w.signings, Origin P w s
  deviceHellos : ∀ d ∈ w.deviceHellos, ∃ f : ClientFields, f.AllPlain ∧ d.Has f
  handshake : w.handshake.started = true → ∃ f, PipaSecureHandshake.Begun P.crypto w.handshake f

variable {P} {w w' : World}

theorem Origin.mono {s : Signing} (h : Origin P w s) (hhellos : w.hellos ⊆ w'.hellos)
    (hdevice : w.deviceHellos ⊆ w'.deviceHellos) (hcalls : w.serverCalls ⊆ w'.serverCalls) :
    Origin P w' s := by
  cases h with
  | client hello eph mem key message signature =>
    exact .client hello eph (hhellos mem) key message signature
  | device d mem key message signature => exact .device d (hdevice mem) key message signature
  | server call mem hello signs message signature =>
    exact .server call (hcalls mem) hello signs message signature

theorem DeviceHello.Has.signedJson_eq {d : DeviceHello} {f : ClientFields} (h : d.Has f) (hf : f.AllPlain) :
    d.signedJson = f.signedText .int := by
  rw [← hf.signedJson_eq, DeviceHello.signedJson, h.sessionId, h.clientId, h.clientKey, h.clientNonce]
  rfl

theorem mem_signingsOf {key : Fixed 32} {data : Option Bytes} {signature : PyStr} {s : Signing}
    (h : s ∈ signingsOf key data signature) :
    s.publicKey = key ∧ data = some s.message ∧ signature = encode s.signature.val := by
  unfold signingsOf at h
  split at h
  · rename_i data decoded hdecoded
    obtain rfl := List.mem_singleton.mp h
    exact ⟨rfl, rfl, decodeFixed_eq_some hdecoded⟩
  · cases h

theorem ServerCall.mem_signings {call : ServerCall} {s : Signing} (h : s ∈ call.signings P) :
    ∃ hello, call.Signs P hello ∧ hello.signatureData = some s.message ∧
      hello.signature = encode s.signature.val := by
  unfold ServerCall.signings at h
  split at h
  · cases h
  rename_i hverifies
  split at h
  · cases h
  rename_i hnonce
  split at h
  · cases h
  · rename_i hello hanswer
    obtain ⟨-, hmessage, hsignature⟩ := mem_signingsOf h
    exact ⟨hello, ⟨by simpa using hverifies, not_not.mp hnonce, hanswer⟩, hmessage, hsignature⟩

theorem Accounted.init : Accounted P (machine P).init where
  signings s hs := by cases hs
  deviceHellos d hd := by cases hd
  handshake h := by cases h

/-- Accepting or refusing an answer leaves the fields of the handshake as they were. -/
theorem acceptServerHello_begun {crypto : Crypto} {h : PipaSecureHandshake} {session : PipaSecureSession}
    {object : JsonObject} {serverPublicKey : Fixed 32} {expectedServerId : Option Bytes} {f : ClientFields}
    (hf : h.Begun crypto f) :
    (h.acceptServerHello crypto session object serverPublicKey expectedServerId).1.1.Begun crypto f := by
  unfold PipaSecureHandshake.acceptServerHello
  split
  · exact hf
  split
  · exact hf
  split
  · exact hf
  split
  · exact hf
  · exact ⟨hf.plain, hf.session, hf.sessionId, hf.clientId, hf.clientKey, hf.clientNonce, fun h => by cases h⟩

theorem acceptServerHello_started {crypto : Crypto} {h : PipaSecureHandshake} {session : PipaSecureSession}
    {object : JsonObject} {serverPublicKey : Fixed 32} {expectedServerId : Option Bytes} :
    (h.acceptServerHello crypto session object serverPublicKey expectedServerId).1.1.started = h.started := by
  unfold PipaSecureHandshake.acceptServerHello
  split
  · rfl
  split
  · rfl
  split
  · rfl
  split <;> rfl

theorem Accounted.step (h : Accounted P w) (op : Op) : Accounted P (step P w op).1 := by
  cases op with
  | createClientHello sessionId generated ephemeralPrivateKey nonce =>
    simp only [Agreement.step]
    split
    · exact h
    · rename_i hello hcreate
      refine ⟨?_, h.deviceHellos, h.handshake⟩
      intro s hs
      obtain hs | hs := List.mem_append.mp hs
      · exact (h.signings s hs).mono (List.subset_append_left _ _) (List.Subset.refl _) (List.Subset.refl _)
      · obtain ⟨hkey, hmessage, hsignature⟩ := mem_signingsOf hs
        exact .client hello ephemeralPrivateKey (List.mem_append_right _ (List.mem_singleton_self _)) hkey
          hmessage hsignature
  | createServerHello call =>
    refine ⟨?_, h.deviceHellos, h.handshake⟩
    intro s hs
    obtain hs | hs := List.mem_append.mp hs
    · exact (h.signings s hs).mono (List.Subset.refl _) (List.Subset.refl _) (List.subset_append_left _ _)
    · obtain ⟨hello, hsigns, hmessage, hsignature⟩ := ServerCall.mem_signings hs
      exact .server call (List.mem_append_right _ (List.mem_singleton_self _)) hello hsigns hmessage hsignature
  | completeClientHandshake client ephemeralPrivateKey server expectedServerId => exact h
  | beginClient clientId sessionId sessionBytes keyBytes nonce =>
    refine ⟨fun s hs => (h.signings s hs).mono (List.Subset.refl _) (List.Subset.refl _) (List.Subset.refl _),
      h.deviceHellos, ?_⟩
    intro hstarted
    refine PipaSecureHandshake.beginClient_begun ?_
    -- a failed `beginClient` leaves the cleared handshake, which is not started
    simp only [Agreement.step, PipaSecureHandshake.beginClient] at hstarted ⊢
    split at hstarted
    · cases hstarted
    split at hstarted
    · cases hstarted
    · rename_i h1 h2
      rw [if_neg h1, if_neg h2]
  | clientHelloJson =>
    simp only [Agreement.step]
    split
    · exact h
    · rename_i hready
      simp only [Bool.or_eq_true, Bool.not_eq_true', not_or, Bool.not_eq_false] at hready
      obtain ⟨f, hf⟩ := h.handshake hready.1
      refine ⟨?_, ?_, h.handshake⟩
      · intro s hs
        obtain hs | hs := List.mem_append.mp hs
        · exact (h.signings s hs).mono (List.Subset.refl _) (List.subset_append_left _ _) (List.Subset.refl _)
        · obtain rfl := List.mem_singleton.mp hs
          exact .device _ (List.mem_append_right _ (List.mem_singleton_self _)) rfl rfl rfl
      · intro d hd
        obtain hd | hd := List.mem_append.mp hd
        · exact h.deviceHellos d hd
        · obtain rfl := List.mem_singleton.mp hd
          exact ⟨f, hf.plain, hf.sessionId, hf.clientId, hf.clientKey, hf.clientNonce⟩
  | acceptServerHello object expectedServerId =>
    refine ⟨fun s hs => (h.signings s hs).mono (List.Subset.refl _) (List.Subset.refl _) (List.Subset.refl _),
      h.deviceHellos, ?_⟩
    intro hstarted
    obtain ⟨f, hf⟩ := h.handshake (acceptServerHello_started.symm.trans hstarted)
    exact ⟨f, acceptServerHello_begun hf⟩

theorem run_accounted (ops : List Op) : Accounted P ((machine P).run ops) := by
  have hany : (machine P).Along (fun _ _ => True) ops := fun _ _ _ _ => trivial
  exact Machine.inv_along Accounted.init (fun _ op h _ => h.step op) hany

/-! ## What a verified signature says -/

variable {key : Fixed 32} {signature : Fixed 64} {v : Version}

/-- What a server signs was signed in one of its calls. -/
theorem Accounted.server_signed (h : Accounted P w) {f : ServerFields} (hf : f.AllPlain)
    (hmem : ⟨key, f.signedText v, signature⟩ ∈ w.signings) :
    ∃ call ∈ w.serverCalls, ∃ hello, call.Signs P hello ∧ hello.fields = f ∧
      hello.protocolVersion = v.value ∧ hello.signature = encode signature.val := by
  cases h.signings _ hmem with
  | client hello eph mem hkey message sig =>
    obtain ⟨u, hu⟩ := hello.version
    rw [hello.signatureData_eq hu] at message
    exact absurd (Option.some.inj message) (signedText_ne hello.plain hf)
  | device d mem hkey message sig =>
    obtain ⟨g, hg, hhas⟩ := h.deviceHellos d mem
    have hjson : f.signedText v = g.signedText .int := message.trans (hhas.signedJson_eq hg)
    exact absurd hjson.symm (signedText_ne hg hf)
  | server call mem hello signs message sig =>
    obtain ⟨u, hu⟩ := hello.version
    rw [hello.signatureData_eq hu] at message
    obtain ⟨hfields, hversion⟩ := ServerFields.signedText_inj hello.plain hf (Option.some.inj message)
    exact ⟨call, mem, hello, signs, hfields, hversion ▸ hu, sig⟩

/-- What a client signs is a hello of the Python client or of the device. -/
theorem Accounted.client_signed (h : Accounted P w) {f : ClientFields} (hf : f.AllPlain)
    (hmem : ⟨key, f.signedText v, signature⟩ ∈ w.signings) :
    (key = P.clientKey ∧ ∃ hello eph, (hello, eph) ∈ w.hellos ∧ hello.fields = f ∧
      hello.protocolVersion = v.value ∧ hello.signature = encode signature.val) ∨
    (key = P.deviceKey ∧ ∃ d ∈ w.deviceHellos, d.Has f ∧ v = .int ∧ d.signature = signature) := by
  cases h.signings _ hmem with
  | client hello eph mem hkey message sig =>
    obtain ⟨u, hu⟩ := hello.version
    rw [hello.signatureData_eq hu] at message
    obtain ⟨hfields, hversion⟩ := ClientFields.signedText_inj hello.plain hf (Option.some.inj message)
    exact Or.inl ⟨hkey, hello, eph, mem, hfields, hversion ▸ hu, sig⟩
  | device d mem hkey message sig =>
    obtain ⟨g, hg, hhas⟩ := h.deviceHellos d mem
    have hjson : f.signedText v = g.signedText .int := message.trans (hhas.signedJson_eq hg)
    obtain ⟨rfl, hversion⟩ := ClientFields.signedText_inj hf hg hjson
    exact Or.inr ⟨hkey, d, mem, hhas, hversion, sig.symm⟩
  | server call mem hello signs message sig =>
    obtain ⟨u, hu⟩ := hello.version
    rw [hello.signatureData_eq hu] at message
    exact absurd (Option.some.inj message).symm (signedText_ne hf hello.plain)

/-! ## Agreement -/

variable (P w)

/-- The server answered a hello of these fields with `server`, and its session and `session` are
the two ends derived from one secret and one transcript. -/
structure Agrees (fields : ClientFields) (server : ServerHello) (secret : Fixed 32) (transcript : Bytes)
    (session : SecureSession) : Prop where
  hashed : canonical server.transcriptDict = some transcript
  derived : SecureSession.fromSharedSecret P.crypto.hkdf server.sessionId secret.val
    (P.crypto.sha256 transcript).val .client = some session
  answered : ∃ call ∈ w.serverCalls, call.client.fields = fields ∧
    ∃ serverSession, call.result P = some (server, serverSession) ∧
      SecureSession.fromSharedSecret P.crypto.hkdf server.sessionId secret.val
        (P.crypto.sha256 transcript).val .server = some serverSession ∧
      Mirrored (pairOf session serverSession)

/-- The hello, signature included, is one that was sent by the owner of the key. -/
def Sent (key : Fixed 32) (hello : ClientHello) : Prop :=
  (key = P.clientKey ∧ ∃ eph, (hello, eph) ∈ w.hellos) ∨
  (key = P.deviceKey ∧ ∃ d ∈ w.deviceHellos, d.Has hello.fields ∧
    hello.protocolVersion = .int secureProtocolVersion ∧ hello.signature = encode d.signature.val)

variable {P w}

theorem ServerHello.toClientFields_eq {server : ServerHello} {client : ClientHello} {crypto : Crypto}
    {identity : SecureIdentity} {eph : Fixed 32} {nonce : Bytes}
    (h : Answers crypto identity client eph nonce server) : client.fields = server.fields.toClientFields := by
  simp only [ClientHello.fields, ServerHello.fields, h.sessionId, h.clientId, h.clientEphemeralPublicKey,
    h.clientNonce]

/-- From a call that signed `server`, and the client's half of the key exchange. -/
theorem ServerCall.Signs.agrees (hx : P.crypto.Commutes) {call : ServerCall} {server : ServerHello}
    (hsigns : call.Signs P server) (hmem : call ∈ w.serverCalls) {eph secret : Fixed 32}
    {transcript : Bytes} {session : SecureSession}
    (hown : server.clientEphemeralPublicKey = encode (P.crypto.x25519PublicKey eph).val)
    (htranscript : canonical server.transcriptDict = some transcript)
    (hsecret : P.crypto.exchange eph (P.crypto.x25519PublicKey call.ephemeralPrivateKey) = some secret)
    (hsession : SecureSession.fromSharedSecret P.crypto.hkdf server.sessionId secret.val
      (P.crypto.sha256 transcript).val .client = some session) :
    Agrees P w server.fields.toClientFields server secret transcript session := by
  have hhash : transcriptHash P.crypto server = some (P.crypto.sha256 transcript) := by
    rw [transcriptHash, htranscript, Option.map_some]
  obtain ⟨serverSession, hresult, hserver⟩ :=
    server_derives hx hsigns.verifies hsigns.nonce hsigns.answer hown hhash hsecret hsession
  have hfields := ServerHello.toClientFields_eq (answerHello_fields hsigns.answer)
  exact ⟨htranscript, hsession, call, hmem, hfields, serverSession, hresult, hserver,
    pairOf_mirrored hserver hsession⟩

/-- A completed handshake of the Python client. -/
theorem Accounted.completed (hx : P.crypto.Commutes) (h : Accounted P w) {client : ClientHello}
    {eph : Fixed 32} {server : ServerHello} {expectedServerId : Option PyStr} {session : SecureSession}
    (hideal : Ideal P w (.completeClientHandshake client eph server expectedServerId))
    (hcomplete : Secure.completeClientHandshake P.crypto P.client client eph server P.serverKey
      expectedServerId = some session) :
    ∃ secret transcript, Agrees P w client.fields server secret transcript session := by
  have hc := completeClientHandshake_eq_some hcomplete
  have hverifies := hc.verifies
  unfold ServerHello.verifies at hverifies
  split at hverifies
  · rename_i signature data hsig hdata
    have hmem := hideal signature data hsig hdata (Or.inr (Or.inl rfl)) hverifies
    obtain ⟨v, hv⟩ := server.version
    rw [server.signatureData_eq hv] at hdata
    obtain rfl := Option.some.inj hdata
    obtain ⟨call, hcall, hello, hsigns, hfields, hversion, hsignature⟩ := h.server_signed server.plain hmem
    -- the hello it signed is this one
    have heq : hello = server := by
      refine ServerHello.eq_of_signed ?_ (hsignature.trans (decodeFixed_eq_some hsig).symm)
      rw [hello.signatureData_eq hversion, server.signatureData_eq hv, hfields]
    subst heq
    obtain ⟨secret, hash, hhash, hsecret, hsession⟩ := hc.material (answerHello_fields hsigns.answer)
    obtain ⟨transcript, htranscript, rfl⟩ := Option.map_eq_some_iff.mp hhash
    have hclient : client.fields = hello.fields.toClientFields := by
      simp only [ClientHello.fields, ServerHello.fields, hc.sessionId, hc.clientId,
        hc.clientEphemeralPublicKey, hc.clientNonce]
    refine ⟨secret, transcript, ?_⟩
    rw [hclient]
    exact hsigns.agrees hx hcall (hc.clientEphemeralPublicKey.trans hc.ownKey) htranscript hsecret hsession
  · cases hverifies

/-- A hello the server answers. -/
theorem Accounted.answered (h : Accounted P w) {call : ServerCall}
    (hideal : Ideal P w (.createServerHello call)) (hhonest : P.honest call.clientPublicKey)
    {r : ServerHello × SecureSession} (hresult : call.result P = some r) :
    Sent P w call.clientPublicKey call.client := by
  have hverifies := (createServerHello_eq_some.mp hresult).1
  unfold ClientHello.verifies at hverifies
  split at hverifies
  · rename_i signature data hsig hdata
    have hmem := hideal signature data hsig hdata hhonest hverifies
    obtain ⟨v, hv⟩ := call.client.version
    have hsigned := call.client.signatureData_eq hv
    rw [hsigned] at hdata
    obtain rfl := Option.some.inj hdata
    have hencoded := decodeFixed_eq_some hsig
    obtain ⟨hkey, hello, eph, hhello, hfields, hversion, hsignature⟩ | ⟨hkey, d, hd, hhas, hint, hsignature⟩ :=
      h.client_signed call.client.plain hmem
    · have heq : hello = call.client := by
        refine ClientHello.eq_of_signed ?_ (hsignature.trans hencoded.symm)
        rw [hello.signatureData_eq hversion, hsigned, hfields]
      exact Or.inl ⟨hkey, eph, heq ▸ hhello⟩
    · subst hint
      exact Or.inr ⟨hkey, d, hd, hhas, hv, by rw [hencoded, hsignature]⟩
  · cases hverifies

/-! ## The device -/

/-- A Python value, as the firmware's parser holds it. -/
def Variant.ofValue : Value → Variant
  | .str s => .text s.bytes
  | .int n => .integer n
  | _ => .other

/-- The object has the fields of the hello, each with its value, and no others. -/
structure Carries (object : JsonObject) (hello : ServerHello) : Prop where
  values : ∀ e ∈ hello.asDict, object.get? e.1.bytes = some (Variant.ofValue e.2)
  size : object.size = 9

/-- No string among the nine fields holds a NUL. -/
def NulFree (object : JsonObject) : Prop :=
  ∀ key ∈ serverHelloFields, ∀ b, object.get? key = some (.text b) → 0 ∉ b

theorem cString_eq {b : Bytes} (h : 0 ∉ b) : cString b = b := CString.ofBytes_bytes h

/-- A string without NUL is read as it is. -/
theorem NulFree.get?_eq {object : JsonObject} (h : NulFree object) {key : String} {t : Bytes} {s : PyStr}
    (hkey : literal key ∈ serverHelloFields) (ht : PipaSecureHandshake.textOf object key = some t)
    (hs : t = s.bytes) : object.get? (literal key) = some (Variant.ofValue (.str s)) := by
  obtain ⟨value, hvalue, htext⟩ := Option.bind_eq_some_iff.mp ht
  cases value with
  | text b =>
    obtain rfl := Option.some.inj htext
    rw [hvalue, Variant.ofValue, ← hs, cString_eq (h _ hkey b hvalue)]
  | integer n => cases htext
  | other => cases htext

theorem Carries.nulFree {object : JsonObject} {hello : ServerHello} (h : Carries object hello) :
    NulFree object := by
  intro key hkey b hb
  have hp := hello.plain
  have hsig : Plain hello.signature := decodeText_plain hello.signed
  obtain ⟨v, hv⟩ := hello.version
  have hvalues := h.values
  simp only [ServerHello.asDict, ServerHello.transcriptDict, serverTranscript, List.cons_append,
    List.nil_append, List.forall_mem_cons, hv] at hvalues
  obtain ⟨h1, h2, h3, h4, h5, h6, h7, h8, h9, -⟩ := hvalues
  -- the two readings of each field agree, and what a hello holds is plain
  have htext : ∀ {k : Bytes} {s : PyStr}, object.get? k = some (Variant.ofValue (.str s)) → Plain s →
      key = k → 0 ∉ b := by
    intro k s hk hs hkey
    subst hkey
    rw [hb] at hk
    obtain rfl := Variant.text.inj (Option.some.inj hk)
    exact hs.no_nul
  simp only [serverHelloFields, List.mem_cons, List.not_mem_nil, or_false] at hkey
  obtain hk | hk | hk | hk | hk | hk | hk | hk | hk := hkey
  · exact htext h1 hp.client.clientKey hk
  · exact htext h2 hp.client.clientId hk
  · exact htext h3 hp.client.clientNonce hk
  · subst hk
    cases v <;> exact Variant.noConfusion (Option.some.inj (hb.symm.trans h4))
  · exact htext h5 hp.serverKey hk
  · exact htext h6 hp.serverId hk
  · exact htext h7 hp.serverNonce hk
  · exact htext h8 hp.client.sessionId hk
  · exact htext h9 hsig hk

/-- An object the device reads carries a hello of the same texts, unless a NUL hides a part of it. -/
theorem carries_of_read {h : PipaSecureHandshake} {object : JsonObject} {expectedServerId : Option Bytes}
    {r : PipaSecureHandshake.ServerFieldsRead} (hread : h.Read object expectedServerId r) {f : ClientFields}
    (hf : h.Begun P.crypto f) {hello : ServerHello} (hfields : hello.fields.toClientFields = f)
    (hid : r.serverId = hello.serverId.bytes) (hkey : r.serverEphemeralPublicKey = hello.serverEphemeralPublicKey.bytes)
    (hnonce : r.serverNonce = hello.serverNonce.bytes) (hversion : hello.protocolVersion = .int 2)
    (hsig : hello.signature = encode r.signature.val) (hfree : NulFree object) : Carries object hello := by
  subst hfields
  have hsize : object.size = 9 := by
    have := hread.fields
    simp only [hasExactServerHelloFields, Bool.and_eq_true, decide_eq_true_eq] at this
    exact this.2
  have hinteger : object.get? (literal "protocol_version") = some (.integer 2) := by
    obtain ⟨value, hvalue, hint⟩ := Option.bind_eq_some_iff.mp hread.version
    cases value with
    | text b => cases hint
    | integer n =>
      simp only [Variant.int?] at hint
      split at hint
      · rw [hvalue, Option.some.inj hint]
      · cases hint
    | other => cases hint
  refine ⟨?_, hsize⟩
  simp only [ServerHello.asDict, ServerHello.transcriptDict, serverTranscript, List.cons_append,
    List.nil_append, List.forall_mem_cons, hversion]
  refine ⟨?_, ?_, ?_, hinteger, ?_, ?_, ?_, ?_, ?_, fun _ h => by cases h⟩
  · exact hfree.get?_eq (by decide) hread.clientKey hf.clientKey
  · exact hfree.get?_eq (by decide) hread.clientId hf.clientId
  · exact hfree.get?_eq (by decide) hread.clientNonce hf.clientNonce
  · exact hfree.get?_eq (by decide) hread.serverKey hkey
  · exact hfree.get?_eq (by decide) hread.serverId hid
  · exact hfree.get?_eq (by decide) hread.serverNonce hnonce
  · exact hfree.get?_eq (by decide) hread.sessionId hf.sessionId
  · exact hfree.get?_eq (by decide) hread.signature (by rw [hsig])

variable (P w)

/-- What the device has agreed on when it accepts an object: as the Python client, and the session
it installs is the firmware's form of that client's. -/
structure DeviceAgrees (object : JsonObject) (expectedServerId : Option Bytes) (server : ServerHello) : Prop where
  version : server.protocolVersion = .int secureProtocolVersion
  agrees : ∃ secret transcript session, (deviceHello P w.handshake).Has server.fields.toClientFields ∧
    Agrees P w server.fields.toClientFields server secret transcript session ∧
    let installed := (w.handshake.acceptServerHello P.crypto w.session object P.serverKey expectedServerId).1.2
    installed = (PipaSecureSession.beginFromSharedSecret P.crypto.hkdf w.handshake.sessionId secret
      (P.crypto.sha256 transcript) true).1 ∧ Paired session installed

variable {P w}

/-- An object the device accepts. -/
theorem Accounted.accepted (hx : P.crypto.Commutes) (h : Accounted P w) {object : JsonObject}
    {expectedServerId : Option Bytes} (hideal : Ideal P w (.acceptServerHello object expectedServerId))
    (haccept : (w.handshake.acceptServerHello P.crypto w.session object P.serverKey expectedServerId).2 = true) :
    ∃ server, DeviceAgrees P w object expectedServerId server ∧ (NulFree object → Carries object server) := by
  obtain ⟨r, secret, hread, hverify, hsecret, hbegin, hinstalled⟩ :=
    PipaSecureHandshake.acceptServerHello_true haccept
  have hmem := hideal r hread (Or.inr (Or.inl rfl)) hverify
  have hr := PipaSecureHandshake.readServerHello_read hread
  obtain ⟨f, hf⟩ := h.handshake hr.started
  obtain ⟨serverId, hserverId, hid⟩ := validIdentifier_iff.mp hr.serverIdValid
  obtain ⟨nonce, hnonce⟩ := hr.serverNonceValid
  -- the fields the device has read, as texts
  let fields : ServerFields :=
    { f with serverId := serverId, serverKey := encode r.serverKey.val, serverNonce := encode nonce.val }
  have hplain : fields.AllPlain :=
    ⟨hf.plain, isIdentifier_plain hserverId, encode_idCode _, encode_idCode _⟩
  have hsigned : w.handshake.signedTranscript r = fields.signedText .int := by
    rw [← hplain.signedJson_eq, PipaSecureHandshake.signedTranscript, hf.sessionId, hf.clientId, hf.clientKey,
      hf.clientNonce, hid, hr.serverKeyValid, hnonce]
    rfl
  rw [hsigned] at hmem
  obtain ⟨call, hcall, server, hsigns, hfields, hversion, hsignature⟩ := h.server_signed hplain hmem
  have hclient : server.fields.toClientFields = f := congrArg ServerFields.toClientFields hfields
  have hkey : server.serverEphemeralPublicKey = encode r.serverKey.val := congrArg ServerFields.serverKey hfields
  have hsession : server.sessionId = f.sessionId := congrArg (fun g => g.sessionId) hfields
  have htranscript : canonical server.transcriptDict = some (w.handshake.transcript r) := by
    have hdict : server.transcriptDict = fields.transcriptObject := by
      rw [← hfields, ServerHello.transcriptDict, hversion]
      rfl
    rw [hdict, PipaSecureHandshake.transcript, hf.sessionId, hf.clientId, hf.clientKey, hf.clientNonce, hid,
      hr.serverKeyValid, hnonce]
    exact transcript_canonical hplain.client.sessionId hplain.client.clientId hplain.client.clientKey
      hplain.client.clientNonce hplain.serverId hplain.serverKey hplain.serverNonce
  have hown : server.clientEphemeralPublicKey =
      encode (P.crypto.x25519PublicKey w.handshake.clientEphemeralPrivateKey).val := by
    rw [← hf.own hr.pending, ← hclient]
    rfl
  -- the server's key is that of the call, so the secret is that of the exchange
  have hserverKey : r.serverKey = P.crypto.x25519PublicKey call.ephemeralPrivateKey := by
    have hanswer := (answerHello_fields hsigns.answer).serverEphemeralPublicKey
    exact Subtype.ext (encode_inj (hkey.symm.trans hanswer))
  rw [hserverKey] at hsecret
  obtain ⟨-, hfail⟩ | ⟨session, hsome, -, -, -, hpaired⟩ :=
    installation_paired P.crypto.hkdf f.sessionId secret (P.crypto.sha256 (w.handshake.transcript r)) .client
  · rw [hf.sessionId] at hbegin
    exact absurd (hfail.symm.trans hbegin) (by decide)
  · refine ⟨server, ⟨hversion, secret, w.handshake.transcript r, session, ?_, ?_, hinstalled, ?_⟩, ?_⟩
    · rw [hclient]
      exact ⟨hf.sessionId, hf.clientId, hf.clientKey, hf.clientNonce⟩
    · exact hsigns.agrees hx hcall hown htranscript hsecret (hsession ▸ hsome)
    · rw [hinstalled, hf.sessionId]
      exact hpaired
    · refine carries_of_read hr hf hclient ?_ ?_ ?_ hversion hsignature
      · rw [hid, ← show server.serverId = serverId from congrArg ServerFields.serverId hfields]
      · rw [hkey, hr.serverKeyValid]
      · rw [hnonce, ← show server.serverNonce = encode nonce.val from congrArg ServerFields.serverNonce hfields]

/-! ## Runs -/

variable (P w)

/-- What a step that succeeds has established. -/
def Agreed : Op → Prop
  | .completeClientHandshake client ephemeralPrivateKey server expectedServerId => ∀ session,
      Secure.completeClientHandshake P.crypto P.client client ephemeralPrivateKey server P.serverKey
        expectedServerId = some session →
      ∃ secret transcript, Agrees P w client.fields server secret transcript session
  | .createServerHello call => ∀ r, call.result P = some r → P.honest call.clientPublicKey →
      Sent P w call.clientPublicKey call.client
  | .acceptServerHello object expectedServerId =>
      (w.handshake.acceptServerHello P.crypto w.session object P.serverKey expectedServerId).2 = true →
      ∃ server, DeviceAgrees P w object expectedServerId server ∧ Carries object server
  | _ => True

/-- No string the device is given holds a NUL. -/
def Op.NulFree : Op → Prop
  | .acceptServerHello object _ => Agreement.NulFree object
  | _ => True

variable {P w}

theorem Accounted.agreed (hx : P.crypto.Commutes) (h : Accounted P w) {op : Op} (hideal : Ideal P w op)
    (hfree : op.NulFree) : Agreed P w op := by
  cases op with
  | createClientHello sessionId generated ephemeralPrivateKey nonce => trivial
  | createServerHello call =>
    intro r hresult hhonest
    exact h.answered hideal hhonest hresult
  | completeClientHandshake client ephemeralPrivateKey server expectedServerId =>
    intro session hcomplete
    exact h.completed hx hideal hcomplete
  | beginClient clientId sessionId sessionBytes keyBytes nonce => trivial
  | clientHelloJson => trivial
  | acceptServerHello object expectedServerId =>
    intro haccept
    obtain ⟨server, hagrees, hcarries⟩ := h.accepted hx hideal haccept
    exact ⟨server, hagrees, hcarries hfree⟩

/-- Agreement in every run in which signatures are ideal. A completed handshake of the Python
client is the server's answer to a hello of the same fields, with mirrored sessions; an answered
hello is one its owner sent; and the device has the same guarantee for every object without NULs.
An object with a NUL that it accepts is not what the server sent. -/
theorem handshake_agreement (hx : P.crypto.Commutes) {ops : List Op}
    (hideal : (machine P).Along (Ideal P) ops) :
    ((machine P).Along (fun _ op => op.NulFree) ops → (machine P).Along (Agreed P) ops) ∧
    (∀ pre object expectedServerId post, ops = pre ++ .acceptServerHello object expectedServerId :: post →
      (((machine P).run pre).handshake.acceptServerHello P.crypto ((machine P).run pre).session object
        P.serverKey expectedServerId).2 = true →
      (Agreed P ((machine P).run pre) (.acceptServerHello object expectedServerId) ↔ NulFree object)) := by
  constructor
  · intro hfree pre op post hops
    exact (run_accounted pre).agreed hx (hideal pre op post hops) (hfree pre op post hops)
  · intro pre object expectedServerId post hops haccept
    constructor
    · intro hagreed
      obtain ⟨server, -, hcarries⟩ := hagreed haccept
      exact hcarries.nulFree
    · intro hfree
      exact (run_accounted pre).agreed hx (hideal pre _ post hops) hfree

end

/-! ## A run -/

/-- The server, its Python client and a device. -/
def pipaParties : Parties := ⟨.checksum, pipaIdentity, pcIdentity, ⟨.fill 32 8, true⟩⟩

/-- The device begins a session and sends its hello. -/
def deviceStart : List Op :=
  [.beginClient (literal "pipa-2") (some (literal "s2")) (.fill 16 0) (.fill 32 24)
    (.fill 32 11), .clientHelloJson]

/-- The hello, as Python reads it. -/
def deviceClientHello : ClientHello :=
  (ClientHello.new (PyStr.ofString "s2") (PyStr.ofString "pipa-2")
    (encode (PipaSecureHandshake.clamp (.fill 32 24)).val) (encode (List.replicate 32 11))
    (encode ((deviceHello pipaParties ((machine pipaParties).run deviceStart).handshake).signature).val)
    (.int 2)).get (by decide +kernel)

def deviceCall : ServerCall := ⟨deviceClientHello, pipaParties.deviceKey, pcEphemeral, pcNonce⟩

def deviceAnswer : ServerHello := ((deviceCall.result pipaParties).get (by decide +kernel)).1

/-- The answer as an object, with a text for the server's id. -/
def answerObject (serverId : Bytes) : JsonObject where
  entries := deviceAnswer.asDict.map (fun e =>
    (e.1.bytes, if e.1 = PyStr.ofString "server_id" then .text serverId else Variant.ofValue e.2))
  nodup := by
    rw [List.map_map]
    show (deviceAnswer.asDict.map (fun e => e.1.bytes)).Nodup
    simp only [ServerHello.asDict, ServerHello.transcriptDict, serverTranscript, List.cons_append,
      List.nil_append, List.map_cons, List.map_nil]
    decide

/-- The device's handshake, with the server's id as an attacker passes it on. -/
def deviceRun (serverId : Bytes) : List Op :=
  deviceStart ++ [.createServerHello deviceCall] ++
    [.acceptServerHello (answerObject serverId) (some (literal "pc"))]

theorem signingsOf_mem {key : Fixed 32} {data : Option Bytes} {d : Bytes} {text : PyStr} {signature : Fixed 64}
    (hdata : data = some d) (hsig : decodeFixed text 64 = some signature) :
    ⟨key, d, signature⟩ ∈ signingsOf key data text := by
  unfold signingsOf
  simp only [hdata, hsig, List.mem_singleton]

theorem ideal_createServerHello {P : Parties} {w : World} {call : ServerCall}
    (h : ∀ s ∈ signingsOf call.clientPublicKey call.client.signatureData call.client.signature, s ∈ w.signings) :
    Ideal P w (.createServerHello call) := by
  intro signature data hsig hdata _ _
  exact h _ (signingsOf_mem hdata hsig)

theorem ideal_completeClientHandshake {P : Parties} {w : World} {client : ClientHello} {eph : Fixed 32}
    {server : ServerHello} {expectedServerId : Option PyStr}
    (h : ∀ s ∈ signingsOf P.serverKey server.signatureData server.signature, s ∈ w.signings) :
    Ideal P w (.completeClientHandshake client eph server expectedServerId) := by
  intro signature data hsig hdata _ _
  exact h _ (signingsOf_mem hdata hsig)

theorem ideal_acceptServerHello {P : Parties} {w : World} {object : JsonObject} {expectedServerId : Option Bytes}
    (h : (w.handshake.readServerHello object expectedServerId).all (fun r =>
      ⟨P.serverKey, w.handshake.signedTranscript r, r.signature⟩ ∈ w.signings) = true) :
    Ideal P w (.acceptServerHello object expectedServerId) := by
  intro r hr _ _
  rw [hr, Option.all_some, decide_eq_true_eq] at h
  exact h

/-- The device accepts "pc" followed by a NUL and more for the server's id "pc". -/
theorem device_accepts_nul :
    (machine pipaParties).Along (Ideal pipaParties) (deviceRun (literal "pc" ++ [0, 0x78])) ∧
    ¬ (machine pipaParties).Along (Agreed pipaParties) (deviceRun (literal "pc" ++ [0, 0x78])) := by
  constructor
  · refine Machine.Along.concat (Machine.Along.concat ?_ ?_) ?_
    · exact (Machine.Along.nil.concat trivial).concat trivial
    · exact ideal_createServerHello (by decide +kernel)
    · exact ideal_acceptServerHello (by decide +kernel)
  · intro hagreed
    have hlast : Agreed pipaParties ((machine pipaParties).run (deviceStart ++ [.createServerHello deviceCall]))
        (.acceptServerHello (answerObject (literal "pc" ++ [0, 0x78])) (some (literal "pc"))) :=
      hagreed _ _ [] rfl
    obtain ⟨server, -, hcarries⟩ := hlast (by decide +kernel)
    exact hcarries.nulFree (literal "server_id") (by decide) (literal "pc" ++ [0, 0x78]) (by decide +kernel)
      (by decide)

/-- The Python client's handshake, then the device's, both undisturbed. -/
def honestRun : List Op :=
  [.createClientHello (some (PyStr.ofString "s1")) (.fill 16 0) pipaEphemeral (List.replicate 32 4),
   .createServerHello ⟨pipaHello, pipaParties.clientKey, pcEphemeral, pcNonce⟩,
   .completeClientHandshake pipaHello pipaEphemeral pcAnswer.1 (some (PyStr.ofString "pc"))] ++
  deviceRun (literal "pc")

theorem handshake_agreement_honestRun :
    (machine pipaParties).Along (Agreed pipaParties) honestRun ∧
    (Secure.completeClientHandshake pipaParties.crypto pipaParties.client pipaHello pipaEphemeral pcAnswer.1
      pipaParties.serverKey (some (PyStr.ofString "pc"))).isSome = true ∧
    ((machine pipaParties).run honestRun).session.ready = true := by
  have hideal : (machine pipaParties).Along (Ideal pipaParties) honestRun := by
    refine Machine.Along.concat (Machine.Along.concat (Machine.Along.concat (Machine.Along.concat
      (Machine.Along.concat (Machine.Along.concat (Machine.Along.concat .nil trivial) ?_) ?_) trivial)
      trivial) ?_) ?_
    · exact ideal_createServerHello (by decide +kernel)
    · exact ideal_completeClientHandshake (by decide +kernel)
    · exact ideal_createServerHello (by decide +kernel)
    · exact ideal_acceptServerHello (by decide +kernel)
  have hfree : (machine pipaParties).Along (fun _ op => op.NulFree) honestRun := by
    intro pre op post hops
    have hmem : op ∈ honestRun := by simp [hops]
    have hcarries : Carries (answerObject (literal "pc")) deviceAnswer := ⟨by decide +kernel, by decide +kernel⟩
    simp only [honestRun, deviceRun, deviceStart, List.cons_append, List.nil_append, List.mem_cons,
      List.not_mem_nil, or_false] at hmem
    obtain rfl | rfl | rfl | rfl | rfl | rfl | rfl := hmem
    · trivial
    · trivial
    · trivial
    · trivial
    · trivial
    · trivial
    · exact hcarries.nulFree
  exact ⟨(handshake_agreement Crypto.checksum_commutes hideal).1 hfree, by decide +kernel, by decide +kernel⟩

end Pipa.Secure.Agreement
