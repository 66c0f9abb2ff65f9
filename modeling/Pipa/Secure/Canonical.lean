import Pipa.Secure.Hello

/- The firmware's hand-built JSON is Python's canonical JSON.

   Equality is shown on text (`dumps` of the dictionary, keys sorted, is the
   concatenation the firmware writes) and then carried to bytes, since every
   admitted field is ASCII. Injectivity and the separation of roles are read
   off the bytes: no field holds a quote, so a field ends where the next literal
   begins (`field_inj`). -/
namespace Pipa.Secure
open Pipa.Lib

/-! ## Text and bytes -/

/-- `_canonical` of a dictionary whose text is known and ASCII. -/
theorem canonical_of_dumps {o : Object} {t : PyStr} (h : dumps true (.dict o) = some t) (ht : t.Ascii) :
    canonical o = some t.bytes := by
  unfold canonical
  rw [h]
  exact ht.encode

theorem digits_ascii (n : Nat) : (PyStr.ofString (toString n)).Ascii := by
  intro c hc
  obtain ⟨ch, hch, rfl⟩ := List.mem_map.mp hc
  rw [Nat.toString_eq_repr, Nat.toList_repr] at hch
  have hdigit := Nat.isDigit_of_mem_toDigits (by decide) (by decide) hch
  simp only [Char.isDigit, Bool.and_eq_true, decide_eq_true_eq] at hdigit
  have h9 : ch.toNat ≤ '9'.toNat := hdigit.2
  show ch.toNat < 0x80
  exact Nat.lt_of_le_of_lt h9 (by decide)

/-- A pair with a literal key. -/
theorem dumpPair_literal {k : String} (hk : Plain (PyStr.ofString k)) (v : PyStr) :
    dumpPair (PyStr.ofString k, v) = PyStr.ofString ("\"" ++ k ++ "\":") ++ v := by
  rw [dumpPair, hk.dumpStr]
  simp only [PyStr.ofString_append, List.append_assoc]
  rfl

/-- Literals that follow each other are one literal. -/
theorem ofString_join (a b : String) (t : PyStr) :
    PyStr.ofString a ++ (PyStr.ofString b ++ t) = PyStr.ofString (a ++ b) ++ t := by
  rw [PyStr.ofString_append, List.append_assoc]

theorem literal_join (a b : String) (t : Bytes) : literal a ++ (literal b ++ t) = literal (a ++ b) ++ t := by
  simp only [literal, PyStr.ofString_append, PyStr.bytes_append, List.append_assoc]

/-! ## Equality -/

section
variable {sessionId clientId serverId clientKey clientNonce serverKey serverNonce streamId : PyStr}

/-- What is signed, where the version is written as the text `t`. -/
theorem clientSigned_text (hs : Plain sessionId) (hc : Plain clientId) (hk : Plain clientKey)
    (hn : Plain clientNonce) {v : Value} {t : String} (hv : dumps true v = some (PyStr.ofString t))
    (ht : (PyStr.ofString t).Ascii) :
    canonical (withRole "client" (clientUnsigned sessionId clientId clientKey clientNonce v)) =
      some (literal "\x7b\"client_ephemeral_public_key\":\"" ++ (clientKey.bytes ++
        (literal "\",\"client_id\":\"" ++ (clientId.bytes ++ (literal "\",\"client_nonce\":\"" ++
        (clientNonce.bytes ++ (literal "\",\"protocol_version\":" ++ (literal t ++
        (literal ",\"role\":\"client\",\"session_id\":\"" ++
        (sessionId.bytes ++ literal "\"\x7d")))))))))) := by
  have htext : dumps true (.dict (withRole "client"
      (clientUnsigned sessionId clientId clientKey clientNonce v))) =
      some (PyStr.ofString "\x7b\"client_ephemeral_public_key\":\"" ++ (clientKey ++
        (PyStr.ofString "\",\"client_id\":\"" ++ (clientId ++ (PyStr.ofString "\",\"client_nonce\":\"" ++
        (clientNonce ++ (PyStr.ofString "\",\"protocol_version\":" ++ (PyStr.ofString t ++
        (PyStr.ofString ",\"role\":\"client\",\"session_id\":\"" ++
        (sessionId ++ PyStr.ofString "\"\x7d")))))))))) := by
    simp only [dumps, dumpsItems, withRole, clientUnsigned, hv, Option.bind_eq_bind, Option.bind_some]
    -- the pairs as `sort_keys` orders them
    show some (PyStr.ofString "\x7b" ++ commaJoin [
      dumpPair (PyStr.ofString "client_ephemeral_public_key", dumpStr clientKey),
      dumpPair (PyStr.ofString "client_id", dumpStr clientId),
      dumpPair (PyStr.ofString "client_nonce", dumpStr clientNonce),
      dumpPair (PyStr.ofString "protocol_version", PyStr.ofString t),
      dumpPair (PyStr.ofString "role", PyStr.ofString "\"client\""),
      dumpPair (PyStr.ofString "session_id", dumpStr sessionId)] ++ PyStr.ofString "\x7d") = _
    rw [hs.dumpStr, hc.dumpStr, hk.dumpStr, hn.dumpStr]
    -- the version is not a literal to be joined with its neighbours
    generalize PyStr.ofString t = version
    simp (disch := decide) only [dumpPair_literal, commaJoin, List.append_assoc, ofString_join,
      String.reduceAppend, ← PyStr.ofString_append]
  rw [canonical_of_dumps htext]
  · simp only [PyStr.bytes_append, literal]
  · simp only [PyStr.ascii_append]
    exact ⟨by decide, hk.ascii, by decide, hc.ascii, by decide, hn.ascii, by decide, ht, by decide,
      hs.ascii, by decide⟩

theorem clientSigned_canonical (hs : Plain sessionId) (hc : Plain clientId) (hk : Plain clientKey)
    (hn : Plain clientNonce) :
    canonical (withRole "client" (clientUnsigned sessionId clientId clientKey clientNonce (.int 2))) =
      some (Firmware.clientSignedJson sessionId.bytes clientId.bytes clientKey.bytes clientNonce.bytes) := by
  rw [clientSigned_text hs hc hk hn (t := "2") rfl (by decide)]
  simp only [Firmware.clientSignedJson, literal_join, String.reduceAppend, List.append_assoc]

theorem transcript_canonical (hs : Plain sessionId) (hc : Plain clientId) (hk : Plain clientKey)
    (hn : Plain clientNonce) (hi : Plain serverId) (hsk : Plain serverKey) (hsn : Plain serverNonce) :
    canonical (serverTranscript sessionId clientId serverId clientKey clientNonce serverKey serverNonce
        (.int 2)) =
      some (Firmware.transcriptJson sessionId.bytes clientId.bytes clientKey.bytes clientNonce.bytes
        serverId.bytes serverKey.bytes serverNonce.bytes) := by
  have htext : dumps true (.dict (serverTranscript sessionId clientId serverId clientKey clientNonce
      serverKey serverNonce (.int 2))) =
      some (PyStr.ofString "\x7b\"client_ephemeral_public_key\":\"" ++ (clientKey ++
        (PyStr.ofString "\",\"client_id\":\"" ++ (clientId ++ (PyStr.ofString "\",\"client_nonce\":\"" ++
        (clientNonce ++ (PyStr.ofString "\",\"protocol_version\":2,\"server_ephemeral_public_key\":\"" ++
        (serverKey ++ (PyStr.ofString "\",\"server_id\":\"" ++ (serverId ++
        (PyStr.ofString "\",\"server_nonce\":\"" ++ (serverNonce ++
        (PyStr.ofString "\",\"session_id\":\"" ++ (sessionId ++ PyStr.ofString "\"\x7d")))))))))))))) := by
    show some (PyStr.ofString "\x7b" ++ commaJoin [
      dumpPair (PyStr.ofString "client_ephemeral_public_key", dumpStr clientKey),
      dumpPair (PyStr.ofString "client_id", dumpStr clientId),
      dumpPair (PyStr.ofString "client_nonce", dumpStr clientNonce),
      dumpPair (PyStr.ofString "protocol_version", PyStr.ofString "2"),
      dumpPair (PyStr.ofString "server_ephemeral_public_key", dumpStr serverKey),
      dumpPair (PyStr.ofString "server_id", dumpStr serverId),
      dumpPair (PyStr.ofString "server_nonce", dumpStr serverNonce),
      dumpPair (PyStr.ofString "session_id", dumpStr sessionId)] ++ PyStr.ofString "\x7d") = _
    rw [hs.dumpStr, hc.dumpStr, hk.dumpStr, hn.dumpStr, hi.dumpStr, hsk.dumpStr, hsn.dumpStr]
    simp (disch := decide) only [dumpPair_literal, commaJoin, List.append_assoc, ofString_join,
      String.reduceAppend, ← PyStr.ofString_append]
  rw [canonical_of_dumps htext]
  · simp only [PyStr.bytes_append, Firmware.transcriptJson, literal, List.append_assoc]
  · simp only [PyStr.ascii_append]
    exact ⟨by decide, hk.ascii, by decide, hc.ascii, by decide, hn.ascii, by decide, hsk.ascii, by decide,
      hi.ascii, by decide, hsn.ascii, by decide, hs.ascii, by decide⟩

theorem serverSigned_text (hs : Plain sessionId) (hc : Plain clientId) (hk : Plain clientKey)
    (hn : Plain clientNonce) (hi : Plain serverId) (hsk : Plain serverKey) (hsn : Plain serverNonce)
    {v : Value} {t : String} (hv : dumps true v = some (PyStr.ofString t)) (ht : (PyStr.ofString t).Ascii) :
    canonical (withRole "server" (serverTranscript sessionId clientId serverId clientKey clientNonce
        serverKey serverNonce v)) =
      some (literal "\x7b\"client_ephemeral_public_key\":\"" ++ (clientKey.bytes ++
        (literal "\",\"client_id\":\"" ++ (clientId.bytes ++ (literal "\",\"client_nonce\":\"" ++
        (clientNonce.bytes ++ (literal "\",\"protocol_version\":" ++ (literal t ++
        (literal ",\"role\":\"server\",\"server_ephemeral_public_key\":\"" ++
        (serverKey.bytes ++ (literal "\",\"server_id\":\"" ++ (serverId.bytes ++
        (literal "\",\"server_nonce\":\"" ++ (serverNonce.bytes ++
        (literal "\",\"session_id\":\"" ++ (sessionId.bytes ++ literal "\"\x7d")))))))))))))))) := by
  have htext : dumps true (.dict (withRole "server" (serverTranscript sessionId clientId serverId
      clientKey clientNonce serverKey serverNonce v))) =
      some (PyStr.ofString "\x7b\"client_ephemeral_public_key\":\"" ++ (clientKey ++
        (PyStr.ofString "\",\"client_id\":\"" ++ (clientId ++ (PyStr.ofString "\",\"client_nonce\":\"" ++
        (clientNonce ++ (PyStr.ofString "\",\"protocol_version\":" ++ (PyStr.ofString t ++
        (PyStr.ofString ",\"role\":\"server\",\"server_ephemeral_public_key\":\"" ++
        (serverKey ++ (PyStr.ofString "\",\"server_id\":\"" ++ (serverId ++
        (PyStr.ofString "\",\"server_nonce\":\"" ++ (serverNonce ++
        (PyStr.ofString "\",\"session_id\":\"" ++ (sessionId ++ PyStr.ofString "\"\x7d")))))))))))))))) := by
    simp only [dumps, dumpsItems, withRole, serverTranscript, hv, Option.bind_eq_bind, Option.bind_some]
    show some (PyStr.ofString "\x7b" ++ commaJoin [
      dumpPair (PyStr.ofString "client_ephemeral_public_key", dumpStr clientKey),
      dumpPair (PyStr.ofString "client_id", dumpStr clientId),
      dumpPair (PyStr.ofString "client_nonce", dumpStr clientNonce),
      dumpPair (PyStr.ofString "protocol_version", PyStr.ofString t),
      dumpPair (PyStr.ofString "role", PyStr.ofString "\"server\""),
      dumpPair (PyStr.ofString "server_ephemeral_public_key", dumpStr serverKey),
      dumpPair (PyStr.ofString "server_id", dumpStr serverId),
      dumpPair (PyStr.ofString "server_nonce", dumpStr serverNonce),
      dumpPair (PyStr.ofString "session_id", dumpStr sessionId)] ++ PyStr.ofString "\x7d") = _
    rw [hs.dumpStr, hc.dumpStr, hk.dumpStr, hn.dumpStr, hi.dumpStr, hsk.dumpStr, hsn.dumpStr]
    generalize PyStr.ofString t = version
    simp (disch := decide) only [dumpPair_literal, commaJoin, List.append_assoc, ofString_join,
      String.reduceAppend, ← PyStr.ofString_append]
  rw [canonical_of_dumps htext]
  · simp only [PyStr.bytes_append, literal]
  · simp only [PyStr.ascii_append]
    exact ⟨by decide, hk.ascii, by decide, hc.ascii, by decide, hn.ascii, by decide, ht, by decide, hsk.ascii,
      by decide, hi.ascii, by decide, hsn.ascii, by decide, hs.ascii, by decide⟩

theorem serverSigned_canonical (hs : Plain sessionId) (hc : Plain clientId) (hk : Plain clientKey)
    (hn : Plain clientNonce) (hi : Plain serverId) (hsk : Plain serverKey) (hsn : Plain serverNonce) :
    canonical (withRole "server" (serverTranscript sessionId clientId serverId clientKey clientNonce
        serverKey serverNonce (.int 2))) =
      some (Firmware.serverSignedJson sessionId.bytes clientId.bytes clientKey.bytes clientNonce.bytes
        serverId.bytes serverKey.bytes serverNonce.bytes) := by
  rw [serverSigned_text hs hc hk hn hi hsk hsn (t := "2") rfl (by decide)]
  simp only [Firmware.serverSignedJson, literal_join, String.reduceAppend, List.append_assoc]

theorem recordHeader_canonical (hs : Plain sessionId) (sequence : UInt64) :
    canonical (recordHeader sessionId sequence.toNat) =
      some (Firmware.headerFor sessionId.bytes sequence) := by
  have htext : dumps true (.dict (recordHeader sessionId sequence.toNat)) =
      some (PyStr.ofString "\x7b\"protocol_version\":2,\"sequence\":" ++
        (PyStr.ofString (toString sequence.toNat) ++ (PyStr.ofString ",\"session_id\":\"" ++
        (sessionId ++ PyStr.ofString "\"\x7d")))) := by
    show some (PyStr.ofString "\x7b" ++ commaJoin [
      dumpPair (PyStr.ofString "protocol_version", PyStr.ofString "2"),
      dumpPair (PyStr.ofString "sequence", PyStr.ofString (toString sequence.toNat)),
      dumpPair (PyStr.ofString "session_id", dumpStr sessionId)] ++ PyStr.ofString "\x7d") = _
    rw [hs.dumpStr]
    generalize PyStr.ofString (toString sequence.toNat) = digits
    simp (disch := decide) only [dumpPair_literal, commaJoin, List.append_assoc, ofString_join,
      String.reduceAppend, ← PyStr.ofString_append]
  rw [canonical_of_dumps htext]
  · simp only [PyStr.bytes_append, Firmware.headerFor, literal, List.append_assoc]
  · simp only [PyStr.ascii_append]
    exact ⟨by decide, digits_ascii _, by decide, hs.ascii, by decide⟩

theorem audioMetadata_canonical (hs : Plain streamId) (chunkIndex : UInt16) (final : Bool) :
    canonical (audioMetadata streamId chunkIndex.toNat final) =
      some (Firmware.audioJson streamId.bytes chunkIndex final) := by
  have htext : dumps true (.dict (audioMetadata streamId chunkIndex.toNat final)) =
      some (PyStr.ofString
          "\x7b\"audio_protocol_version\":2,\"bits_per_sample\":16,\"channels\":1,\"chunk_index\":" ++
        (PyStr.ofString (toString chunkIndex.toNat) ++ (PyStr.ofString ",\"final\":" ++
        (PyStr.ofString (if final then "true" else "false") ++
        (PyStr.ofString ",\"sample_rate\":16000,\"stream_id\":\"" ++
        (streamId ++ PyStr.ofString "\"\x7d")))))) := by
    have hitems : dumps true (.dict (audioMetadata streamId chunkIndex.toNat final)) =
        some (PyStr.ofString "\x7b" ++ commaJoin [
          dumpPair (PyStr.ofString "audio_protocol_version", PyStr.ofString "2"),
          dumpPair (PyStr.ofString "bits_per_sample", PyStr.ofString "16"),
          dumpPair (PyStr.ofString "channels", PyStr.ofString "1"),
          dumpPair (PyStr.ofString "chunk_index", PyStr.ofString (toString chunkIndex.toNat)),
          dumpPair (PyStr.ofString "final", PyStr.ofString (if final then "true" else "false")),
          dumpPair (PyStr.ofString "sample_rate", PyStr.ofString "16000"),
          dumpPair (PyStr.ofString "stream_id", dumpStr streamId)] ++ PyStr.ofString "\x7d") := by
      cases final <;> rfl
    rw [hitems, hs.dumpStr]
    generalize PyStr.ofString (toString chunkIndex.toNat) = digits
    generalize PyStr.ofString (if final then "true" else "false") = flag
    simp (disch := decide) only [dumpPair_literal, commaJoin, List.append_assoc, ofString_join,
      String.reduceAppend, ← PyStr.ofString_append]
  rw [canonical_of_dumps htext]
  · simp only [PyStr.bytes_append, Firmware.audioJson, literal, List.append_assoc]
  · have hfinal : (PyStr.ofString (if final then "true" else "false")).Ascii := by
      cases final <;> decide
    simp only [PyStr.ascii_append]
    exact ⟨by decide, digits_ascii _, by decide, hfinal, by decide, hs.ascii, by decide⟩

end

/-! ## Injectivity -/

/-- A field without the byte `d` ends where the text that starts with `d` begins. -/
theorem field_inj {a a' q q' : Bytes} {d : UInt8} (hq : q.head? = some d) (hq' : q'.head? = some d)
    (ha : d ∉ a) (ha' : d ∉ a') (h : a ++ q = a' ++ q') : a = a' ∧ q = q' := by
  induction a generalizing a' with
  | nil =>
    cases a' with
    | nil => exact ⟨rfl, h⟩
    | cons x a' =>
      rw [List.nil_append, List.cons_append] at h
      rw [h, List.head?_cons] at hq
      exact absurd (Option.some.inj hq ▸ List.mem_cons_self) ha'
  | cons x a ih =>
    cases a' with
    | nil =>
      rw [List.nil_append, List.cons_append] at h
      rw [← h, List.head?_cons] at hq'
      exact absurd (Option.some.inj hq' ▸ List.mem_cons_self) ha
    | cons y a' =>
      rw [List.cons_append, List.cons_append, List.cons.injEq] at h
      obtain ⟨hrest, hqq⟩ := ih (fun hm => ha (List.mem_cons_of_mem x hm))
        (fun hm => ha' (List.mem_cons_of_mem y hm)) h.2
      exact ⟨by rw [h.1, hrest], hqq⟩

/-- The usual case: a field without quotes, closed by a literal that starts with one. -/
theorem quoted_inj {s s' : PyStr} {l : Bytes} {r r' : Bytes} (hs : Plain s) (hs' : Plain s')
    (hl : l.head? = some 0x22) (h : s.bytes ++ (l ++ r) = s'.bytes ++ (l ++ r')) : s = s' ∧ r = r' := by
  have hhead (r : Bytes) : (l ++ r).head? = some 0x22 := by
    rw [List.head?_append, hl]; rfl
  obtain ⟨hfield, hrest⟩ := field_inj (hhead r) (hhead r') hs.no_quote hs'.no_quote h
  exact ⟨hs.ascii.bytes_inj hs'.ascii hfield, List.append_cancel_left hrest⟩

theorem digits_bytes {n : Nat} {b : UInt8} (hb : b ∈ literal (toString n)) : 0x30 ≤ b.toNat ∧ b.toNat ≤ 0x39 := by
  unfold literal at hb
  rw [(digits_ascii n).bytes_eq] at hb
  obtain ⟨c, hc, rfl⟩ := List.mem_map.mp hb
  obtain ⟨ch, hch, rfl⟩ := List.mem_map.mp hc
  rw [Nat.toString_eq_repr, Nat.toList_repr] at hch
  have hdigit := Nat.isDigit_of_mem_toDigits (by decide) (by decide) hch
  simp only [Char.isDigit, Bool.and_eq_true, decide_eq_true_eq] at hdigit
  have h0 : 0x30 ≤ (CodePoint.ofChar ch).val := hdigit.1
  have h9 : (CodePoint.ofChar ch).val ≤ 0x39 := hdigit.2
  rw [byte_toNat (by omega)]
  exact ⟨h0, h9⟩

theorem digits_no_comma (n : Nat) : (0x2C : UInt8) ∉ literal (toString n) := by
  intro h
  exact absurd (digits_bytes h).1 (by decide)

theorem digits_inj {m n : Nat} (h : literal (toString m) = literal (toString n)) : m = n := by
  have htext := PyStr.ofString_inj.mp ((digits_ascii m).bytes_inj (digits_ascii n) h)
  rw [Nat.toString_eq_repr, Nat.toString_eq_repr] at htext
  have hdigits := congrArg String.toList htext
  rw [Nat.toList_repr, Nat.toList_repr] at hdigits
  have := congrArg (fun ds => Nat.ofDigitChars 10 ds 0) hdigits
  simpa only [Nat.ofDigitChars_ten_toDigits] using this

/-! ## The tuples of fields -/

/-- The fields a client signs. -/
@[ext] structure ClientFields where
  sessionId : PyStr
  clientId : PyStr
  clientKey : PyStr
  clientNonce : PyStr

/-- The fields a server signs and both sides hash. -/
@[ext] structure ServerFields extends ClientFields where
  serverId : PyStr
  serverKey : PyStr
  serverNonce : PyStr

namespace ClientFields

/-- Let through by `_validate_handshake_fields`. -/
def Admitted (f : ClientFields) : Prop :=
  validateHandshakeFields (.int 2) f.sessionId f.clientId f.clientKey f.clientNonce = true

def signedData (f : ClientFields) : Option Bytes :=
  canonical (withRole "client" (clientUnsigned f.sessionId f.clientId f.clientKey f.clientNonce (.int 2)))

def signedJson (f : ClientFields) : Bytes :=
  Firmware.clientSignedJson f.sessionId.bytes f.clientId.bytes f.clientKey.bytes f.clientNonce.bytes

/-- No field has to be escaped. -/
structure AllPlain (f : ClientFields) : Prop where
  sessionId : Plain f.sessionId
  clientId : Plain f.clientId
  clientKey : Plain f.clientKey
  clientNonce : Plain f.clientNonce

theorem Admitted.plain {f : ClientFields} (h : f.Admitted) : f.AllPlain := by
  simp only [Admitted, validateHandshakeFields, Bool.and_eq_true] at h
  obtain ⟨⟨⟨⟨-, hs⟩, hc⟩, hk⟩, hn⟩ := h
  exact ⟨isIdentifier_plain hs, isIdentifier_plain hc, decodeText_plain hk, decodeText_plain hn⟩

theorem Admitted.signedData_eq {f : ClientFields} (h : f.Admitted) : f.signedData = some f.signedJson :=
  clientSigned_canonical h.plain.sessionId h.plain.clientId h.plain.clientKey h.plain.clientNonce

theorem signedJson_inj {f g : ClientFields} (hf : f.AllPlain) (hg : g.AllPlain)
    (h : f.signedJson = g.signedJson) : f = g := by
  simp only [signedJson, Firmware.clientSignedJson, List.append_assoc] at h
  obtain ⟨hkey, h⟩ := quoted_inj hf.clientKey hg.clientKey rfl (List.append_cancel_left h)
  obtain ⟨hid, h⟩ := quoted_inj hf.clientId hg.clientId rfl h
  obtain ⟨hnonce, h⟩ := quoted_inj hf.clientNonce hg.clientNonce rfl h
  have hsession := hf.sessionId.ascii.bytes_inj hg.sessionId.ascii (List.append_cancel_right h)
  exact ClientFields.ext hsession hid hkey hnonce

end ClientFields

namespace ServerFields

/-- Let through by the checks of `ServerHello`. -/
def Admitted (f : ServerFields) : Prop :=
  f.toClientFields.Admitted ∧ isIdentifier f.serverId = true ∧
    (decodeText f.serverKey (some 32)).isSome = true ∧ (decodeText f.serverNonce (some 32)).isSome = true

def transcriptObject (f : ServerFields) : Object :=
  serverTranscript f.sessionId f.clientId f.serverId f.clientKey f.clientNonce f.serverKey f.serverNonce (.int 2)

def transcriptData (f : ServerFields) : Option Bytes := canonical f.transcriptObject

def signedData (f : ServerFields) : Option Bytes := canonical (withRole "server" f.transcriptObject)

def transcriptJson (f : ServerFields) : Bytes :=
  Firmware.transcriptJson f.sessionId.bytes f.clientId.bytes f.clientKey.bytes f.clientNonce.bytes
    f.serverId.bytes f.serverKey.bytes f.serverNonce.bytes

def signedJson (f : ServerFields) : Bytes :=
  Firmware.serverSignedJson f.sessionId.bytes f.clientId.bytes f.clientKey.bytes f.clientNonce.bytes
    f.serverId.bytes f.serverKey.bytes f.serverNonce.bytes

structure AllPlain (f : ServerFields) : Prop where
  client : f.toClientFields.AllPlain
  serverId : Plain f.serverId
  serverKey : Plain f.serverKey
  serverNonce : Plain f.serverNonce

theorem Admitted.plain {f : ServerFields} (h : f.Admitted) : f.AllPlain :=
  ⟨h.1.plain, isIdentifier_plain h.2.1, decodeText_plain h.2.2.1, decodeText_plain h.2.2.2⟩

theorem Admitted.transcriptData_eq {f : ServerFields} (h : f.Admitted) :
    f.transcriptData = some f.transcriptJson := by
  have hp := h.plain
  exact transcript_canonical hp.client.sessionId hp.client.clientId hp.client.clientKey
    hp.client.clientNonce hp.serverId hp.serverKey hp.serverNonce

theorem Admitted.signedData_eq {f : ServerFields} (h : f.Admitted) : f.signedData = some f.signedJson := by
  have hp := h.plain
  exact serverSigned_canonical hp.client.sessionId hp.client.clientId hp.client.clientKey
    hp.client.clientNonce hp.serverId hp.serverKey hp.serverNonce

/-- The end of both strings, from the server's key on. -/
theorem tail_inj {f g : ServerFields} (hf : f.AllPlain) (hg : g.AllPlain) {a b c l : Bytes}
    (ha : a.head? = some 0x22) (hb : b.head? = some 0x22) (hc : c.head? = some 0x22)
    (h : f.serverKey.bytes ++ (a ++ (f.serverId.bytes ++ (b ++ (f.serverNonce.bytes ++ (c ++
        (f.sessionId.bytes ++ l)))))) =
      g.serverKey.bytes ++ (a ++ (g.serverId.bytes ++ (b ++ (g.serverNonce.bytes ++ (c ++
        (g.sessionId.bytes ++ l))))))) :
    f.serverKey = g.serverKey ∧ f.serverId = g.serverId ∧ f.serverNonce = g.serverNonce ∧
      f.sessionId = g.sessionId := by
  obtain ⟨hkey, h⟩ := quoted_inj hf.serverKey hg.serverKey ha h
  obtain ⟨hid, h⟩ := quoted_inj hf.serverId hg.serverId hb h
  obtain ⟨hnonce, h⟩ := quoted_inj hf.serverNonce hg.serverNonce hc h
  exact ⟨hkey, hid, hnonce,
    hf.client.sessionId.ascii.bytes_inj hg.client.sessionId.ascii (List.append_cancel_right h)⟩

theorem transcriptJson_inj {f g : ServerFields} (hf : f.AllPlain) (hg : g.AllPlain)
    (h : f.transcriptJson = g.transcriptJson) : f = g := by
  simp only [transcriptJson, Firmware.transcriptJson, List.append_assoc] at h
  obtain ⟨hkey, h⟩ := quoted_inj hf.client.clientKey hg.client.clientKey rfl (List.append_cancel_left h)
  obtain ⟨hid, h⟩ := quoted_inj hf.client.clientId hg.client.clientId rfl h
  obtain ⟨hnonce, h⟩ := quoted_inj hf.client.clientNonce hg.client.clientNonce rfl h
  obtain ⟨hskey, hsid, hsnonce, hsession⟩ := tail_inj hf hg rfl rfl rfl h
  exact ServerFields.ext hsession hid hkey hnonce hsid hskey hsnonce

theorem signedJson_inj {f g : ServerFields} (hf : f.AllPlain) (hg : g.AllPlain)
    (h : f.signedJson = g.signedJson) : f = g := by
  simp only [signedJson, Firmware.serverSignedJson, List.append_assoc] at h
  obtain ⟨hkey, h⟩ := quoted_inj hf.client.clientKey hg.client.clientKey rfl (List.append_cancel_left h)
  obtain ⟨hid, h⟩ := quoted_inj hf.client.clientId hg.client.clientId rfl h
  obtain ⟨hnonce, h⟩ := quoted_inj hf.client.clientNonce hg.client.clientNonce rfl h
  obtain ⟨hskey, hsid, hsnonce, hsession⟩ := tail_inj hf hg rfl rfl rfl h
  exact ServerFields.ext hsession hid hkey hnonce hsid hskey hsnonce

end ServerFields

theorem headerFor_inj {s s' : PyStr} {n n' : UInt64} (hs : Plain s) (hs' : Plain s')
    (h : Firmware.headerFor s.bytes n = Firmware.headerFor s'.bytes n') : s = s' ∧ n = n' := by
  simp only [Firmware.headerFor, List.append_assoc] at h
  obtain ⟨hn, h⟩ := field_inj rfl rfl (digits_no_comma _) (digits_no_comma _) (List.append_cancel_left h)
  obtain ⟨hsid, -⟩ := quoted_inj hs hs' rfl (List.append_cancel_left h)
  exact ⟨hsid, UInt64.toNat_inj.mp (digits_inj hn)⟩

theorem audioJson_inj {s s' : PyStr} {i i' : UInt16} {f f' : Bool} (hs : Plain s) (hs' : Plain s')
    (h : Firmware.audioJson s.bytes i f = Firmware.audioJson s'.bytes i' f') : s = s' ∧ i = i' ∧ f = f' := by
  simp only [Firmware.audioJson, List.append_assoc] at h
  obtain ⟨hi, h⟩ := field_inj rfl rfl (digits_no_comma _) (digits_no_comma _) (List.append_cancel_left h)
  have hflag : ∀ b : Bool, (0x2C : UInt8) ∉ literal (if b then "true" else "false") := by decide
  obtain ⟨hf, h⟩ := field_inj rfl rfl (hflag f) (hflag f') (List.append_cancel_left h)
  obtain ⟨hsid, -⟩ := quoted_inj hs hs' rfl (List.append_cancel_left h)
  refine ⟨hsid, UInt16.toNat_inj.mp (digits_inj hi), ?_⟩
  have flags : ∀ a b : Bool, literal (if a then "true" else "false") =
      literal (if b then "true" else "false") → a = b := by decide
  exact flags f f' hf

/-! ## Roles -/

theorem ne_of_take_ne {a b x y : Bytes} (n : Nat) (ha : n ≤ a.length) (hb : n ≤ b.length)
    (h : a.take n ≠ b.take n) : a ++ x ≠ b ++ y := by
  intro heq
  have := congrArg (List.take n) heq
  rw [List.take_append_of_le_length ha, List.take_append_of_le_length hb] at this
  exact h this

section
variable {f : ClientFields} {g : ServerFields}

/-- After the three client fields the strings go on with different literals. -/
theorem client_ne_of_literal (hf : f.AllPlain) (hg : g.AllPlain) {l l' r r' a b c : Bytes}
    (hl : l.head? = some 0x22) (hl' : l'.head? = some 0x22) (hb : b.head? = some 0x22)
    (hc : c.head? = some 0x22) (h : l ++ r ≠ l' ++ r') :
    a ++ (f.clientKey.bytes ++ (b ++ (f.clientId.bytes ++ (c ++ (f.clientNonce.bytes ++ (l ++ r)))))) ≠
    a ++ (g.clientKey.bytes ++ (b ++ (g.clientId.bytes ++ (c ++ (g.clientNonce.bytes ++ (l' ++ r')))))) := by
  intro heq
  obtain ⟨-, heq⟩ := quoted_inj hf.clientKey hg.client.clientKey hb (List.append_cancel_left heq)
  obtain ⟨-, heq⟩ := quoted_inj hf.clientId hg.client.clientId hc heq
  have hhead (l r : Bytes) (hl : l.head? = some 0x22) : (l ++ r).head? = some 0x22 := by
    rw [List.head?_append, hl]; rfl
  exact h (field_inj (hhead l r hl) (hhead l' r' hl') hf.clientNonce.no_quote
    hg.client.clientNonce.no_quote heq).2

theorem client_ne_server (hf : f.AllPlain) (hg : g.AllPlain) : f.signedJson ≠ g.signedJson := by
  simp only [ClientFields.signedJson, ServerFields.signedJson, Firmware.clientSignedJson,
    Firmware.serverSignedJson, List.append_assoc]
  exact client_ne_of_literal hf hg rfl rfl rfl rfl (ne_of_take_ne 32 (by decide) (by decide) (by decide))

theorem client_ne_transcript (hf : f.AllPlain) (hg : g.AllPlain) : f.signedJson ≠ g.transcriptJson := by
  simp only [ClientFields.signedJson, ServerFields.transcriptJson, Firmware.clientSignedJson,
    Firmware.transcriptJson, List.append_assoc]
  exact client_ne_of_literal hf hg rfl rfl rfl rfl (ne_of_take_ne 32 (by decide) (by decide) (by decide))

end

/-! ## Audio -/

/-- What `_validate_metadata` returns, and that it was there. -/
theorem validateMetadata_eq_some {m v : Object} (h : validateMetadata m = some v) :
    ∃ streamId, ∃ chunkIndex : Nat, ∃ final, v = audioMetadata streamId chunkIndex final ∧
      isStreamId streamId = true ∧ chunkIndex < maxAudioChunks ∧
      (chunkIndex = maxAudioChunks - 1 → final = true) ∧
      m.get? (PyStr.ofString "stream_id") = some (.str streamId) ∧
      m.get? (PyStr.ofString "chunk_index") = some (.int chunkIndex) ∧
      m.get? (PyStr.ofString "final") = some (.bool final) ∧
      ∀ e ∈ formatFields, ((m.get? e.1).getD .null).equalsInt e.2 = true := by
  unfold validateMetadata at h
  simp only at h
  split at h
  · cases h
  split at h
  · cases h
  rename_i hversion
  split at h
  · rename_i streamId chunkIndex final hid hindex hfinal
    split at h
    · cases h
    split at h
    · cases h
    split at h
    · cases h
    split at h
    · cases h
    · rename_i hstream hrange hlast hformat
      refine ⟨streamId, chunkIndex.toNat, final, (Option.some.inj h).symm, by simpa using hstream, ?_, ?_,
        Object.get?_of_getD hid Value.noConfusion, ?_, Object.get?_of_getD hfinal Value.noConfusion, ?_⟩
      · simp only [Bool.not_eq_true', Bool.and_eq_false_iff, decide_eq_false_iff_not, not_or, not_not] at hrange
        omega
      · intro heq
        simp only [Bool.not_eq_true', Bool.and_eq_false_iff, decide_eq_false_iff_not, not_or, not_not] at hrange
        have hidx : chunkIndex = maxAudioChunks - 1 := by
          simp only [maxAudioChunks] at heq hrange ⊢
          omega
        simpa [hidx] using hlast
      · have hnonneg : 0 ≤ chunkIndex := by
          simp only [Bool.not_eq_true', Bool.and_eq_false_iff, decide_eq_false_iff_not, not_or, not_not] at hrange
          exact hrange.1
        rw [Int.toNat_of_nonneg hnonneg]
        exact Object.get?_of_getD hindex Value.noConfusion
      · simp only [Bool.not_eq_true', Bool.and_eq_false_iff, Bool.not_eq_false, not_or] at hversion hformat
        simpa [formatFields] using ⟨hversion, hformat.1.1, hformat.1.2, hformat.2⟩
  · cases h

theorem isStreamId_plain {s : PyStr} (h : isStreamId s = true) : Plain s := by
  simp only [isStreamId, Bool.and_eq_true, List.all_eq_true] at h
  exact h.2

theorem validStreamId_bytes {s : PyStr} (h : isStreamId s = true) :
    Firmware.validStreamId s.bytes = true ∧ s.bytes.length ≤ 64 := by
  have hplain := isStreamId_plain h
  have hid : isIdentifier s = true := by
    simp only [isStreamId, isIdentifier, Bool.and_eq_true, decide_eq_true_eq] at h ⊢
    exact ⟨⟨h.1.1, by omega⟩, h.2⟩
  have hlen : s.bytes.length = s.length := by rw [hplain.ascii.bytes_eq, List.length_map]
  have hvalid := validIdentifier_iff.mpr ⟨s, hid, rfl⟩
  simp only [validIdentifier, Firmware.validStreamId, Bool.and_eq_true, decide_eq_true_eq, hlen] at hvalid ⊢
  simp only [isStreamId, Bool.and_eq_true, decide_eq_true_eq] at h
  exact ⟨⟨⟨hvalid.1.1, h.1.2⟩, hvalid.2⟩, h.1.2⟩

/-- The additional data is far below the firmware's limit. -/
theorem audioJson_length {streamId : Bytes} (hs : streamId.length ≤ 64) {i : UInt16}
    (hi : i.toNat < maxAudioChunks) (final : Bool) :
    (literal "pipa/audio/v2" ++ 0 :: Firmware.audioJson streamId i final).length ≤ 256 := by
  have digits : ∀ n < 64, (literal (toString n)).length ≤ 2 := by decide
  have hdigits := digits i.toNat hi
  have flag : ∀ b : Bool, (literal (if b then "true" else "false")).length ≤ 5 := by decide
  have hflag := flag final
  have h1 : (literal "pipa/audio/v2").length = 13 := by decide
  have h2 : (literal
    "\x7b\"audio_protocol_version\":2,\"bits_per_sample\":16,\"channels\":1,\"chunk_index\":").length
      = 76 := by decide
  have h3 : (literal ",\"final\":").length = 9 := by decide
  have h4 : (literal ",\"sample_rate\":16000,\"stream_id\":\"").length = 34 := by decide
  have h5 : (literal "\"\x7d").length = 2 := by decide
  simp only [Firmware.audioJson, List.length_append, List.length_cons, h1, h2, h3, h4, h5]
  omega

theorem additionalData_eq {streamId : PyStr} (hs : isStreamId streamId = true) (i : UInt16) (final : Bool) :
    additionalData (audioMetadata streamId i.toNat final) =
      some (literal "pipa/audio/v2" ++ 0 :: Firmware.audioJson streamId.bytes i final) := by
  unfold additionalData
  rw [audioMetadata_canonical (isStreamId_plain hs), Option.map_some]

theorem buildAdditionalData_eq {streamId : PyStr} (hs : isStreamId streamId = true) {i : UInt16}
    (hi : i.toNat < maxAudioChunks) {final : Bool} (hlast : i.toNat = maxAudioChunks - 1 → final = true)
    {capacity : Nat} (hcap : 256 ≤ capacity) :
    Firmware.buildAdditionalData streamId.bytes i final capacity =
      some (literal "pipa/audio/v2" ++ 0 :: Firmware.audioJson streamId.bytes i final) := by
  obtain ⟨hvalid, hlen⟩ := validStreamId_bytes hs
  have hsize := audioJson_length hlen hi final
  have hrange : ¬ (!Firmware.validStreamId streamId.bytes || decide (i.toNat ≥ maxAudioChunks)) = true := by
    simp only [hvalid, Bool.not_true, Bool.false_or, decide_eq_true_eq]
    omega
  have hfinal : ¬ (decide (i.toNat = maxAudioChunks - 1) && !final) = true := by
    simpa using hlast
  unfold Firmware.buildAdditionalData
  rw [if_neg hrange, if_neg hfinal]
  refine if_neg ?_
  have hmax : Firmware.maxAdditionalDataBytes = 1024 := rfl
  simp only [Bool.or_eq_true, decide_eq_true_eq, not_or]
  omega

/-! ## The whole encoding -/

/-- The firmware writes what Python's canonical JSON is, for every admitted hello, header and
piece of audio metadata; the encoding is injective, and what a client signs is neither what a
server signs nor a transcript. -/
theorem handBuilt_json_canonical :
    (∀ f : ClientFields, f.Admitted → f.signedData = some f.signedJson) ∧
    (∀ f : ServerFields, f.Admitted →
      f.signedData = some f.signedJson ∧ f.transcriptData = some f.transcriptJson) ∧
    (∀ sessionId (sequence : UInt64), isIdentifier sessionId = true →
      canonical (recordHeader sessionId sequence.toNat) =
        some (Firmware.headerFor sessionId.bytes sequence)) ∧
    (∀ metadata valid, validateMetadata metadata = some valid →
      ∃ streamId, ∃ chunkIndex : UInt16, ∃ final,
        valid = audioMetadata streamId chunkIndex.toNat final ∧ chunkIndex.toNat < maxAudioChunks ∧
        ∀ capacity, 256 ≤ capacity → ∃ data, additionalData valid = some data ∧
          Firmware.buildAdditionalData streamId.bytes chunkIndex final capacity = some data) ∧
    (∀ f g : ClientFields, f.Admitted → g.Admitted → f.signedData = g.signedData → f = g) ∧
    (∀ f g : ServerFields, f.Admitted → g.Admitted → f.signedData = g.signedData → f = g) ∧
    (∀ f g : ServerFields, f.Admitted → g.Admitted → f.transcriptData = g.transcriptData → f = g) ∧
    (∀ s s' (n n' : UInt64), isIdentifier s = true → isIdentifier s' = true →
      canonical (recordHeader s n.toNat) = canonical (recordHeader s' n'.toNat) → s = s' ∧ n = n') ∧
    (∀ s s' (i i' : UInt16) f f', isStreamId s = true → isStreamId s' = true →
      additionalData (audioMetadata s i.toNat f) = additionalData (audioMetadata s' i'.toNat f') →
      s = s' ∧ i = i' ∧ f = f') ∧
    (∀ (f : ClientFields) (g : ServerFields), f.Admitted → g.Admitted →
      f.signedData ≠ g.signedData ∧ f.signedData ≠ g.transcriptData) := by
  refine ⟨fun f hf => hf.signedData_eq, fun f hf => ⟨hf.signedData_eq, hf.transcriptData_eq⟩,
    fun s n hs => recordHeader_canonical (isIdentifier_plain hs) n, ?_, ?_, ?_, ?_, ?_, ?_, ?_⟩
  · intro metadata valid hvalid
    obtain ⟨streamId, i, final, rfl, hs, hi, hlast, -⟩ := validateMetadata_eq_some hvalid
    have hi16 : (UInt16.ofNat i).toNat = i := by
      simp only [maxAudioChunks] at hi
      simp only [UInt16.toNat_ofNat']
      omega
    rw [← hi16] at hi hlast ⊢
    exact ⟨streamId, UInt16.ofNat i, final, rfl, hi, fun capacity hcap =>
      ⟨_, additionalData_eq hs _ final, buildAdditionalData_eq hs hi hlast hcap⟩⟩
  · intro f g hf hg h
    rw [hf.signedData_eq, hg.signedData_eq] at h
    exact ClientFields.signedJson_inj hf.plain hg.plain (Option.some.inj h)
  · intro f g hf hg h
    rw [hf.signedData_eq, hg.signedData_eq] at h
    exact ServerFields.signedJson_inj hf.plain hg.plain (Option.some.inj h)
  · intro f g hf hg h
    rw [hf.transcriptData_eq, hg.transcriptData_eq] at h
    exact ServerFields.transcriptJson_inj hf.plain hg.plain (Option.some.inj h)
  · intro s s' n n' hs hs' h
    rw [recordHeader_canonical (isIdentifier_plain hs), recordHeader_canonical (isIdentifier_plain hs')] at h
    exact headerFor_inj (isIdentifier_plain hs) (isIdentifier_plain hs') (Option.some.inj h)
  · intro s s' i i' f f' hs hs' h
    rw [additionalData_eq hs, additionalData_eq hs'] at h
    exact audioJson_inj (isStreamId_plain hs) (isStreamId_plain hs')
      (List.cons.inj (List.append_cancel_left (Option.some.inj h))).2
  · intro f g hf hg
    rw [hf.signedData_eq, hg.signedData_eq, hg.transcriptData_eq]
    exact ⟨fun h => client_ne_server hf.plain hg.plain (Option.some.inj h),
      fun h => client_ne_transcript hf.plain hg.plain (Option.some.inj h)⟩

end Pipa.Secure
