import Pipa.Secure.Handshake

/- What a hello's signature covers: every field, the protocol version as it was
   written (`2` or `2.0`, which Python takes for equal) and the role. So hellos with
   the same signed bytes differ in their signature at most. -/
namespace Pipa.Secure
open Pipa.Lib

/-! ## Signed bytes -/

/-- The two ways an accepted version can be written. -/
inductive Version where
  | int | float
  deriving DecidableEq

def Version.text : Version → String
  | .int => "2"
  | .float => "2.0"

def Version.value : Version → Value
  | .int => .int 2
  | .float => .float (PyStr.ofString "2.0")

theorem Version.dumps_value (v : Version) : dumps true v.value = some (PyStr.ofString v.text) := by
  cases v <;> rfl

theorem Version.of_equalsInt {value : Value} (h : value.equalsInt secureProtocolVersion = true) :
    ∃ v : Version, value = v.value := by
  cases value with
  | int n =>
    simp only [Value.equalsInt, decide_eq_true_eq] at h
    exact ⟨.int, by rw [h]; rfl⟩
  | float r =>
    simp only [Value.equalsInt, decide_eq_true_eq] at h
    exact ⟨.float, by rw [h]; rfl⟩
  | bool b => cases b <;> simp [Value.equalsInt, secureProtocolVersion] at h
  | null => cases h
  | str s => cases h
  | list xs => cases h
  | dict kvs => cases h

/-- What follows the version: up to the comma, literals of its own. -/
theorem version_inj {v v' : Version} {q q' : Bytes} (hq : q.head? = some 0x2C) (hq' : q'.head? = some 0x2C)
    (h : literal v.text ++ q = literal v'.text ++ q') : v = v' ∧ q = q' := by
  have hcomma : ∀ v : Version, (0x2C : UInt8) ∉ literal v.text := by
    intro v
    cases v <;> decide
  obtain ⟨htext, hrest⟩ := field_inj hq hq' (hcomma v) (hcomma v') h
  refine ⟨?_, hrest⟩
  have hne : literal Version.int.text ≠ literal Version.float.text := by decide
  cases v <;> cases v'
  · rfl
  · exact absurd htext hne
  · exact absurd htext.symm hne
  · rfl

/-- The bytes a client signs, by fields and version. -/
def ClientFields.signedText (f : ClientFields) (v : Version) : Bytes :=
  literal "\x7b\"client_ephemeral_public_key\":\"" ++ (f.clientKey.bytes ++
    (literal "\",\"client_id\":\"" ++ (f.clientId.bytes ++ (literal "\",\"client_nonce\":\"" ++
    (f.clientNonce.bytes ++ (literal "\",\"protocol_version\":" ++ (literal v.text ++
    (literal ",\"role\":\"client\",\"session_id\":\"" ++
    (f.sessionId.bytes ++ literal "\"\x7d")))))))))

/-- The bytes a server signs. -/
def ServerFields.signedText (f : ServerFields) (v : Version) : Bytes :=
  literal "\x7b\"client_ephemeral_public_key\":\"" ++ (f.clientKey.bytes ++
    (literal "\",\"client_id\":\"" ++ (f.clientId.bytes ++ (literal "\",\"client_nonce\":\"" ++
    (f.clientNonce.bytes ++ (literal "\",\"protocol_version\":" ++ (literal v.text ++
    (literal ",\"role\":\"server\",\"server_ephemeral_public_key\":\"" ++
    (f.serverKey.bytes ++ (literal "\",\"server_id\":\"" ++ (f.serverId.bytes ++
    (literal "\",\"server_nonce\":\"" ++ (f.serverNonce.bytes ++
    (literal "\",\"session_id\":\"" ++ (f.sessionId.bytes ++ literal "\"\x7d")))))))))))))))

section
variable {f g : ClientFields} {s t : ServerFields} {v w : Version}

theorem ClientFields.signedText_inj (hf : f.AllPlain) (hg : g.AllPlain)
    (h : f.signedText v = g.signedText w) : f = g ∧ v = w := by
  obtain ⟨hkey, h⟩ := quoted_inj hf.clientKey hg.clientKey rfl (List.append_cancel_left h)
  obtain ⟨hid, h⟩ := quoted_inj hf.clientId hg.clientId rfl h
  obtain ⟨hnonce, h⟩ := quoted_inj hf.clientNonce hg.clientNonce rfl h
  obtain ⟨hversion, h⟩ := version_inj rfl rfl h
  have h := List.append_cancel_right (List.append_cancel_left h)
  exact ⟨ClientFields.ext (hf.sessionId.ascii.bytes_inj hg.sessionId.ascii h) hid hkey hnonce, hversion⟩

theorem ServerFields.signedText_inj (hs : s.AllPlain) (ht : t.AllPlain)
    (h : s.signedText v = t.signedText w) : s = t ∧ v = w := by
  obtain ⟨hkey, h⟩ := quoted_inj hs.client.clientKey ht.client.clientKey rfl (List.append_cancel_left h)
  obtain ⟨hid, h⟩ := quoted_inj hs.client.clientId ht.client.clientId rfl h
  obtain ⟨hnonce, h⟩ := quoted_inj hs.client.clientNonce ht.client.clientNonce rfl h
  obtain ⟨hversion, h⟩ := version_inj rfl rfl h
  obtain ⟨hskey, hsid, hsnonce, hsession⟩ := ServerFields.tail_inj hs ht rfl rfl rfl (List.append_cancel_left h)
  exact ⟨ServerFields.ext hsession hid hkey hnonce hsid hskey hsnonce, hversion⟩

/-- No signed bytes serve both roles. -/
theorem signedText_ne (hf : f.AllPlain) (hs : s.AllPlain) : f.signedText v ≠ s.signedText w := by
  intro h
  obtain ⟨-, h⟩ := quoted_inj hf.clientKey hs.client.clientKey rfl (List.append_cancel_left h)
  obtain ⟨-, h⟩ := quoted_inj hf.clientId hs.client.clientId rfl h
  obtain ⟨-, h⟩ := quoted_inj hf.clientNonce hs.client.clientNonce rfl h
  obtain ⟨-, h⟩ := version_inj rfl rfl h
  exact ne_of_take_ne 15 (by decide) (by decide) (by decide) h

end

/-! ## Hellos -/

def ClientHello.fields (h : ClientHello) : ClientFields :=
  ⟨h.sessionId, h.clientId, h.clientEphemeralPublicKey, h.clientNonce⟩

def ServerHello.fields (h : ServerHello) : ServerFields :=
  { sessionId := h.sessionId, clientId := h.clientId, clientKey := h.clientEphemeralPublicKey,
    clientNonce := h.clientNonce, serverId := h.serverId, serverKey := h.serverEphemeralPublicKey,
    serverNonce := h.serverNonce }

theorem ClientHello.plain (h : ClientHello) : h.fields.AllPlain := by
  have hv := h.valid
  simp only [validateHandshakeFields, Bool.and_eq_true] at hv
  exact ⟨isIdentifier_plain hv.1.1.1.2, isIdentifier_plain hv.1.1.2, decodeText_plain hv.1.2,
    decodeText_plain hv.2⟩

theorem ServerHello.plain (h : ServerHello) : h.fields.AllPlain := by
  have hv := h.valid
  simp only [validateHandshakeFields, Bool.and_eq_true] at hv
  exact ⟨⟨isIdentifier_plain hv.1.1.1.2, isIdentifier_plain hv.1.1.2, decodeText_plain hv.1.2,
    decodeText_plain hv.2⟩, isIdentifier_plain h.server, decodeText_plain h.serverKey,
    decodeText_plain h.serverNonceValid⟩

theorem ClientHello.version (h : ClientHello) : ∃ v : Version, h.protocolVersion = v.value := by
  have hv := h.valid
  simp only [validateHandshakeFields, Bool.and_eq_true] at hv
  exact Version.of_equalsInt hv.1.1.1.1

theorem ServerHello.version (h : ServerHello) : ∃ v : Version, h.protocolVersion = v.value := by
  have hv := h.valid
  simp only [validateHandshakeFields, Bool.and_eq_true] at hv
  exact Version.of_equalsInt hv.1.1.1.1

theorem ClientHello.signatureData_eq (h : ClientHello) {v : Version} (hv : h.protocolVersion = v.value) :
    h.signatureData = some (h.fields.signedText v) := by
  have hp := h.plain
  unfold ClientHello.signatureData ClientHello.unsignedDict
  rw [hv]
  exact clientSigned_text hp.sessionId hp.clientId hp.clientKey hp.clientNonce v.dumps_value
    (by cases v <;> decide)

theorem ServerHello.signatureData_eq (h : ServerHello) {v : Version} (hv : h.protocolVersion = v.value) :
    h.signatureData = some (h.fields.signedText v) := by
  have hp := h.plain
  unfold ServerHello.signatureData ServerHello.transcriptDict
  rw [hv]
  exact serverSigned_text hp.client.sessionId hp.client.clientId hp.client.clientKey hp.client.clientNonce
    hp.serverId hp.serverKey hp.serverNonce v.dumps_value (by cases v <;> decide)

/-- Client hellos with the same signed bytes and the same signature are the same. -/
theorem ClientHello.eq_of_signed {g h : ClientHello} (hdata : g.signatureData = h.signatureData)
    (hsig : g.signature = h.signature) : g = h := by
  obtain ⟨v, hv⟩ := g.version
  obtain ⟨w, hw⟩ := h.version
  rw [g.signatureData_eq hv, h.signatureData_eq hw] at hdata
  obtain ⟨hfields, hversion⟩ := ClientFields.signedText_inj g.plain h.plain (Option.some.inj hdata)
  have hprotocol : g.protocolVersion = h.protocolVersion := by rw [hv, hw, hversion]
  cases g
  cases h
  simp only [ClientHello.fields, ClientFields.mk.injEq] at hfields hsig hprotocol
  obtain ⟨rfl, rfl, rfl, rfl⟩ := hfields
  subst hsig hprotocol
  rfl

/-- Server hellos likewise. -/
theorem ServerHello.eq_of_signed {g h : ServerHello} (hdata : g.signatureData = h.signatureData)
    (hsig : g.signature = h.signature) : g = h := by
  obtain ⟨v, hv⟩ := g.version
  obtain ⟨w, hw⟩ := h.version
  rw [g.signatureData_eq hv, h.signatureData_eq hw] at hdata
  obtain ⟨hfields, hversion⟩ := ServerFields.signedText_inj g.plain h.plain (Option.some.inj hdata)
  have hprotocol : g.protocolVersion = h.protocolVersion := by rw [hv, hw, hversion]
  cases g
  cases h
  simp only [ServerHello.fields, ServerFields.mk.injEq, ClientFields.mk.injEq] at hfields hsig hprotocol
  obtain ⟨⟨rfl, rfl, rfl, rfl⟩, rfl, rfl, rfl⟩ := hfields
  subst hsig hprotocol
  rfl

/-! ## Signatures that are made -/

/-- The order in which the dictionary was put together does not matter. -/
theorem helloWithoutSignature_canonical (client : ClientHello) (serverId serverKey serverNonce : PyStr) :
    canonical (withRole "server" (helloWithoutSignature client serverId serverKey serverNonce)) =
      canonical (withRole "server" (serverTranscript client.sessionId client.clientId serverId
        client.clientEphemeralPublicKey client.clientNonce serverKey serverNonce client.protocolVersion)) := by
  obtain ⟨v, hv⟩ := client.version
  simp only [canonical, dumps, dumpsItems, withRole, helloWithoutSignature, ClientHello.unsignedDict,
    clientUnsigned, serverTranscript, List.cons_append, List.nil_append, hv, v.dumps_value,
    Option.bind_eq_bind, Option.bind_some]
  rfl

/-- An answer is signed by the server's key. -/
theorem Answers.signed {crypto : Crypto} {identity : SecureIdentity} {client : ClientHello}
    {ephemeralPrivateKey : Fixed 32} {nonce : Bytes} {server : ServerHello}
    (h : Answers crypto identity client ephemeralPrivateKey nonce server) :
    ∃ data, server.signatureData = some data ∧
      server.signature = encode (crypto.sign identity.privateKey data).val := by
  obtain ⟨data, hdata, hsig⟩ := h.signature
  refine ⟨data, ?_, hsig⟩
  rw [helloWithoutSignature_canonical] at hdata
  rw [← hdata]
  unfold ServerHello.signatureData ServerHello.transcriptDict
  rw [h.sessionId, h.clientId, h.serverId, h.clientEphemeralPublicKey, h.clientNonce,
    h.serverEphemeralPublicKey, h.serverNonce, h.protocolVersion]

/-! ## The firmware's strings -/

theorem ClientFields.AllPlain.signedJson_eq {f : ClientFields} (h : f.AllPlain) :
    f.signedJson = f.signedText .int := by
  have hcanonical := clientSigned_canonical h.sessionId h.clientId h.clientKey h.clientNonce
  have htext := clientSigned_text h.sessionId h.clientId h.clientKey h.clientNonce Version.int.dumps_value
    (by decide)
  exact Option.some.inj (hcanonical.symm.trans htext)

theorem ServerFields.AllPlain.signedJson_eq {f : ServerFields} (h : f.AllPlain) :
    f.signedJson = f.signedText .int := by
  have hcanonical := serverSigned_canonical h.client.sessionId h.client.clientId h.client.clientKey
    h.client.clientNonce h.serverId h.serverKey h.serverNonce
  have htext := serverSigned_text h.client.sessionId h.client.clientId h.client.clientKey h.client.clientNonce
    h.serverId h.serverKey h.serverNonce Version.int.dumps_value (by decide)
  exact Option.some.inj (hcanonical.symm.trans htext)

end Pipa.Secure
