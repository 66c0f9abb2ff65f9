import Pipa.Firmware.SecureDevice

/- The v2 device fails closed (`pipa_secure_protocol.cpp`, `pipa_secure_handshake.cpp`).

   `Effect` says what one step can do to the authentication state, which is spread over the
   protocol, the handshake and the record layer: nothing, close all of it, start a
   handshake, or accept a ServerHello. The invariant `Secured` follows from it, and with
   it what a session rests on and what the device writes. -/
namespace Pipa.Firmware
open Pipa.Lib Pipa.Secure Pipa.Core

/-! ## Lines -/

/-- One line: no line feed inside. -/
def OneLine (b : Bytes) : Prop := (0x0A : UInt8) ∉ b

instance (b : Bytes) : Decidable (OneLine b) := inferInstanceAs (Decidable (¬ _ ∈ b))

theorem OneLine.append {a b : Bytes} (ha : OneLine a) (hb : OneLine b) : OneLine (a ++ b) := by
  intro h
  rcases List.mem_append.mp h with h | h
  · exact ha h
  · exact hb h

theorem oneLine_plain {s : PyStr} (h : Plain s) : OneLine s.bytes := by
  unfold OneLine
  rw [h.ascii.bytes_eq]
  intro hmem
  obtain ⟨c, hc, hq⟩ := List.mem_map.mp hmem
  have hb := idCode_bounds (h c hc)
  have : c.val = 0x0A := toUInt8_inj (by omega) (by decide) hq
  omega

theorem oneLine_escapeByte (b : UInt8) : OneLine (escapeByte b) := by
  have hall : ∀ n : Fin 256, OneLine (escapeByte (UInt8.ofNat n.val)) := by decide +kernel
  have hb := hall ⟨b.toNat, b.toNat_lt⟩
  simpa only [UInt8.ofNat_toNat] using hb

theorem oneLine_serializeText (b : Bytes) : OneLine (serializeText b) := by
  have hflat : OneLine (b.flatMap escapeByte) := by
    intro h
    obtain ⟨x, -, hx⟩ := List.mem_flatMap.mp h
    exact oneLine_escapeByte x hx
  exact (OneLine.append (by decide) hflat).append (by decide)

theorem oneLine_digits (n : Nat) : OneLine (literal (toString n)) := by
  intro h
  exact absurd (digits_bytes h).1 (by decide)

namespace SecureDevice
open PipaProtocol (kMaxOutboundLine isAuthenticationError)

variable {platform : SecurePlatform}

/-- A ClientHello, by the way it starts. -/
def isClientHello (line : Bytes) : Bool := (literal "\x7b\"client_ephemeral_public_key\":").isPrefixOf line

/-- The ClientHello written last. -/
def lastHello (lines : List Bytes) : Option Bytes := (lines.filter isClientHello).getLast?

theorem frame_oneLine (ciphertext : Bytes) (sequence : UInt64) (sessionId : Bytes) :
    OneLine (frame ciphertext sequence sessionId) := by
  have hnumber : OneLine (literal (toString ((sequence.toNat : Nat) : Int))) := oneLine_digits sequence.toNat
  have hversion : OneLine (literal (toString (2 : Int))) := by decide
  simp only [frame, serialize, serializeFields, joinBytes]
  have hkey (k : String) : OneLine (serializeText (literal k)) := oneLine_serializeText _
  have hcolon : OneLine (literal ":") := by decide
  have hcomma : OneLine (literal ",") := by decide
  refine OneLine.append (OneLine.append (by decide) ?_) (by decide)
  exact ((((hkey _).append hcolon).append (oneLine_serializeText _)).append hcomma).append
    (((((hkey _).append hcolon).append hversion).append hcomma).append
      (((((hkey _).append hcolon).append hnumber).append hcomma).append
        (((hkey _).append hcolon).append (oneLine_serializeText _))))

theorem frame_not_hello (ciphertext : Bytes) (sequence : UInt64) (sessionId : Bytes) :
    isClientHello (frame ciphertext sequence sessionId) = false := by
  have hkey : serializeText (literal "ciphertext") = literal "\"ci" ++ literal "phertext\"" := by decide
  have hstart : ∃ rest, frame ciphertext sequence sessionId = literal "\x7b\"ci" ++ rest := by
    simp only [frame, serialize, serializeFields, joinBytes, hkey, List.append_assoc]
    rw [literal_join]
    exact ⟨_, rfl⟩
  obtain ⟨rest, hrest⟩ := hstart
  rw [hrest]
  rfl

theorem comment_not_hello (text : String) : isClientHello (comment text) = false := rfl

/-! ## The hello -/

/-- A handshake that was begun with the identity of the device. -/
def Started (platform : SecurePlatform) (h : PipaSecureHandshake) : Prop :=
  ∃ sessionBytes keyBytes nonce, PipaSecureHandshake.beginClient platform.crypto platform.identity platform.config.deviceId
    none sessionBytes keyBytes nonce = (h, true)

/-- The ClientHello of a handshake. -/
def hello (platform : SecurePlatform) (h : PipaSecureHandshake) : Bytes :=
  h.clientHelloJson platform.crypto platform.identity

/-- A field of a hello: short, and without a line feed. -/
def Field (b : Bytes) : Prop := b.length ≤ 128 ∧ OneLine b

theorem field_encode {n : Nat} (b : Fixed n) (hn : n ≤ 64) : Field (Secure.Firmware.encodeBase64Url b.val) := by
  have hplain : Plain (encode b.val) := encode_idCode b.val
  rw [Secure.Firmware.encodeBase64Url_eq]
  refine ⟨?_, oneLine_plain hplain⟩
  rw [hplain.ascii.bytes_eq, List.length_map, encode_length, b.property]
  omega

theorem field_identifier {b : Bytes} (h : validIdentifier b = true) : Field b := by
  obtain ⟨s, hs, rfl⟩ := validIdentifier_iff.mp h
  refine ⟨?_, oneLine_plain (isIdentifier_plain hs)⟩
  simp only [validIdentifier, Bool.and_eq_true, decide_eq_true_eq] at h
  exact h.1.2

/-- What `beginClient` leaves. -/
theorem Started.facts {h : PipaSecureHandshake} (hstart : Started platform h) :
    platform.identity.ready = true ∧ h.started = true ∧ h.complete = false ∧
      h.clientEphemeralPublicKey =
        Secure.Firmware.encodeBase64Url (platform.crypto.x25519PublicKey h.clientEphemeralPrivateKey).val ∧
      Field h.sessionId ∧ Field h.clientId ∧ Field h.clientEphemeralPublicKey ∧ Field h.clientNonce := by
  obtain ⟨sessionBytes, keyBytes, nonce, hbegin⟩ := hstart
  unfold PipaSecureHandshake.beginClient at hbegin
  split at hbegin
  · cases hbegin
  rename_i hready
  simp only [Option.any_none, Bool.false_eq_true, if_false] at hbegin
  obtain rfl := congrArg Prod.fst hbegin
  simp only [Bool.or_eq_true, Bool.not_eq_true', not_or, Bool.not_eq_false] at hready
  exact ⟨hready.1, rfl, rfl, rfl, field_encode sessionBytes (by omega), field_identifier hready.2,
    field_encode _ (by omega), field_encode nonce (by omega)⟩

/-- Without its closing brace. -/
theorem take_close (b : Bytes) : (b ++ literal "\"\x7d").take ((b ++ literal "\"\x7d").length - 1) = b ++ literal "\"" := by
  have hend : literal "\"\x7d" = literal "\"" ++ literal "\x7d" := by decide
  have hlast : (literal "\x7d").length = 1 := by decide
  rw [hend, ← List.append_assoc]
  generalize b ++ literal "\"" = u
  rw [List.length_append, hlast, Nat.add_sub_cancel, List.take_left]

/-- The hello, piece by piece. -/
theorem hello_eq {h : PipaSecureHandshake} (hready : platform.identity.ready = true) (hstarted : h.started = true) :
    hello platform h = literal "\x7b\"client_ephemeral_public_key\":\"" ++ (h.clientEphemeralPublicKey ++
      (literal "\",\"client_id\":\"" ++ (h.clientId ++ (literal "\",\"client_nonce\":\"" ++ (h.clientNonce ++
      (literal "\",\"protocol_version\":2,\"session_id\":\"" ++ (h.sessionId ++ (literal "\"" ++
      (literal ",\"signature\":\"" ++ (Secure.Firmware.encodeBase64Url (h.signature platform.crypto platform.identity).val ++
      literal "\"\x7d")))))))))) := by
  simp only [hello, PipaSecureHandshake.clientHelloJson, hready, hstarted, Bool.not_true, Bool.or_self, Bool.false_eq_true,
    if_false, Secure.Firmware.clientUnsignedJson]
  rw [take_close]
  simp only [List.append_assoc]

theorem hello_line {h : PipaSecureHandshake} (hstart : Started platform h) :
    isClientHello (hello platform h) = true ∧ OneLine (hello platform h) ∧
      (hello platform h).length + 1 ≤ kMaxOutboundLine := by
  obtain ⟨hready, hstarted, -, -, ⟨hs, hs'⟩, ⟨hc, hc'⟩, ⟨hk, hk'⟩, ⟨hn, hn'⟩⟩ := hstart.facts
  obtain ⟨hg, hg'⟩ := field_encode (h.signature platform.crypto platform.identity) (by omega)
  rw [hello_eq hready hstarted]
  refine ⟨rfl, ?_, ?_⟩
  · have hpieces : OneLine (literal "\x7b\"client_ephemeral_public_key\":\"") ∧ OneLine (literal "\",\"client_id\":\"") ∧
        OneLine (literal "\",\"client_nonce\":\"") ∧ OneLine (literal "\",\"protocol_version\":2,\"session_id\":\"") ∧
        OneLine (literal "\"") ∧ OneLine (literal ",\"signature\":\"") ∧ OneLine (literal "\"\x7d") := by decide
    obtain ⟨h1, h2, h3, h4, h5, h6, h7⟩ := hpieces
    exact h1.append (hk'.append (h2.append (hc'.append (h3.append (hn'.append (h4.append (hs'.append (h5.append (h6.append
      (hg'.append h7))))))))))
  · have hlengths : (literal "\x7b\"client_ephemeral_public_key\":\"").length ≤ 40 ∧
        (literal "\",\"client_id\":\"").length ≤ 40 ∧ (literal "\",\"client_nonce\":\"").length ≤ 40 ∧
        (literal "\",\"protocol_version\":2,\"session_id\":\"").length ≤ 40 ∧ (literal "\"").length ≤ 40 ∧
        (literal ",\"signature\":\"").length ≤ 40 ∧ (literal "\"\x7d").length ≤ 40 := by decide
    simp only [List.length_append, kMaxOutboundLine]
    omega

/-! ## Keys -/

/-- The keys of a session that a ServerHello was accepted for: the hello verifies under the pinned key for what
`h` sent, and the secret is the one of `h`'s own ephemeral key. -/
structure Keyed (platform : SecurePlatform) (h : PipaSecureHandshake) (session : PipaSecureSession) : Prop where
  accepted : ∃ serverPublicKey r privateKey secret derived,
    decodeServerKey platform = some serverPublicKey ∧
    platform.crypto.verify serverPublicKey r.signature (h.signedTranscript r) = true ∧
    h.clientEphemeralPublicKey = Secure.Firmware.encodeBase64Url (platform.crypto.x25519PublicKey privateKey).val ∧
    platform.crypto.exchange privateKey r.serverKey = some secret ∧
    (PipaSecureSession.beginFromSharedSecret platform.crypto.hkdf h.sessionId secret
      (platform.crypto.sha256 (h.transcript r)) true).1 = derived ∧
    session = { derived with sendSequence := session.sendSequence, receiveSequence := session.receiveSequence }

/-- The same keys, whatever was sent or received under them. -/
def SameKeys (s s' : PipaSecureSession) : Prop :=
  s' = { s with sendSequence := s'.sendSequence, receiveSequence := s'.receiveSequence }

theorem SameKeys.refl (s : PipaSecureSession) : SameKeys s s := rfl

theorem SameKeys.symm {s s' : PipaSecureSession} (h : SameKeys s s') : SameKeys s' s := by
  unfold SameKeys at h ⊢
  rw [h]

theorem SameKeys.trans {s s' s'' : PipaSecureSession} (h : SameKeys s s') (h' : SameKeys s' s'') : SameKeys s s'' := by
  unfold SameKeys at h h' ⊢
  rw [h', h]

theorem SameKeys.ready {s s' : PipaSecureSession} (h : SameKeys s s') : s'.ready = s.ready := by
  unfold SameKeys at h
  rw [h]

theorem Keyed.same {h : PipaSecureHandshake} {s s' : PipaSecureSession} (hkeyed : Keyed platform h s) (hsame : SameKeys s s') :
    Keyed platform h s' := by
  obtain ⟨serverPublicKey, r, privateKey, secret, derived, hkey, hverify, hown, hsecret, hbegin, hderived⟩ := hkeyed.accepted
  refine ⟨serverPublicKey, r, privateKey, secret, derived, hkey, hverify, hown, hsecret, hbegin, ?_⟩
  unfold SameKeys at hsame
  rw [hderived] at hsame
  exact hsame

theorem sealRecord_same (platform : SecurePlatform) (s : PipaSecureSession) (plaintext data : Bytes) (capacity : Option Nat) :
    SameKeys s (s.sealRecord platform.aead plaintext data capacity).1 := by
  unfold PipaSecureSession.sealRecord
  split <;> rfl

theorem sealRecord_ready {s : PipaSecureSession} {plaintext data ciphertext : Bytes} {capacity : Option Nat}
    (h : (s.sealRecord platform.aead plaintext data capacity).2.result = some ciphertext) : s.ready = true := by
  unfold PipaSecureSession.sealRecord at h
  split at h
  · cases h
  · rename_i hclosed
    simp only [Bool.or_eq_true, Bool.not_eq_true', not_or, Bool.not_eq_false] at hclosed
    exact hclosed.1.1.1.1

theorem openRecord_same (platform : SecurePlatform) (s : PipaSecureSession) (sequence : UInt64) (ciphertext data : Bytes) (capacity : Option Nat) :
    SameKeys s (s.openRecord platform.aead sequence ciphertext data capacity).1 := by
  unfold PipaSecureSession.openRecord
  split
  · rfl
  split <;> rfl

/-! ## What is written -/

/-- A comment. -/
def IsComment (line : Bytes) : Prop := ∃ text, line = comment text

/-- A frame that `seal` produced in a session with these keys. -/
def IsSealed (platform : SecurePlatform) (session : PipaSecureSession) (line : Bytes) : Prop :=
  ∃ s plaintext ciphertext, SameKeys session s ∧ s.ready = true ∧
    (s.sealRecord platform.aead plaintext kJsonAad (some kMaxCiphertext)).2.result = some ciphertext ∧
    line = frame ciphertext s.sendSequence s.sessionId

/-- A line the device writes in a session. -/
def Harmless (platform : SecurePlatform) (session : PipaSecureSession) (line : Bytes) : Prop :=
  OneLine line ∧ isClientHello line = false ∧ (IsComment line ∨ IsSealed platform session line)

/-- The comments of a list of outputs are single lines. -/
def Plainly (outputs : List Output) : Prop := ∀ text, Output.log text ∈ outputs → OneLine (comment text)

theorem IsSealed.same {s s' : PipaSecureSession} {line : Bytes} (hsame : SameKeys s' s) (h : IsSealed platform s line) :
    IsSealed platform s' line := by
  obtain ⟨t, plaintext, ciphertext, hkeys, hready, hresult, hline⟩ := h
  exact ⟨t, plaintext, ciphertext, hsame.trans hkeys, hready, hresult, hline⟩

theorem Harmless.same {s s' : PipaSecureSession} {line : Bytes} (hsame : SameKeys s' s) (h : Harmless platform s line) :
    Harmless platform s' line :=
  ⟨h.1, h.2.1, h.2.2.imp id (IsSealed.same hsame)⟩

theorem harmless_comment {session : PipaSecureSession} {text : String} (h : OneLine (comment text)) :
    Harmless platform session (comment text) :=
  ⟨h, comment_not_hello text, Or.inl ⟨text, rfl⟩⟩

/-- Only the record layer of `d` moved, under the same keys. -/
structure Delivered (platform : SecurePlatform) (d : SecureDevice) (r : SecureDevice × List Bytes) : Prop where
  protocol : r.1.protocol = d.protocol
  handshake : r.1.handshake = d.handshake
  keys : SameKeys d.session r.1.session
  written : ∀ line ∈ r.2, Harmless platform d.session line

theorem sealDocument_delivered (platform : SecurePlatform) (d : SecureDevice) (m : Moment) (document : JsonObject) :
    Delivered platform d (d.sealDocument platform m document) := by
  have hone (text : String) (h : OneLine (comment text)) : ∀ line ∈ [comment text], Harmless platform d.session line := by
    intro line hline
    obtain rfl := List.mem_singleton.mp hline
    exact harmless_comment h
  unfold sealDocument
  dsimp only
  split
  · exact ⟨rfl, rfl, SameKeys.refl _, hone _ (by decide)⟩
  have hkeys := sealRecord_same platform d.session (serialize (.object document)) kJsonAad (some kMaxCiphertext)
  split
  · exact ⟨rfl, rfl, hkeys, hone _ (by decide)⟩
  · rename_i ciphertext hresult
    refine ⟨rfl, rfl, hkeys, ?_⟩
    unfold sendJson
    split
    · exact hone _ (by decide)
    · intro line hline
      obtain rfl := List.mem_singleton.mp hline
      refine ⟨frame_oneLine _ _ _, frame_not_hello _ _ _, Or.inr ⟨d.session, _, ciphertext, SameKeys.refl _, ?_, hresult, ?_⟩⟩
      · exact sealRecord_ready hresult
      · unfold SameKeys at hkeys
        rw [hkeys]

theorem Delivered.refl (d : SecureDevice) : Delivered platform d (d, []) :=
  ⟨rfl, rfl, SameKeys.refl _, fun _ h => absurd h List.not_mem_nil⟩

theorem deliver_delivered (platform : SecurePlatform) (d : SecureDevice) (m : Moment) {outputs : List Output} (h : Plainly outputs) :
    Delivered platform d (d.deliver platform m outputs) := by
  induction outputs generalizing d with
  | nil => exact Delivered.refl d
  | cons output outputs ih =>
    have hrest : Plainly outputs := fun text htext => h text (List.mem_cons_of_mem _ htext)
    cases output with
    | log text =>
      obtain ⟨hprotocol, hhandshake, hkeys, hwritten⟩ := ih d hrest
      refine ⟨hprotocol, hhandshake, hkeys, ?_⟩
      intro line hline
      rcases List.mem_cons.mp hline with rfl | hline
      · exact harmless_comment (h text List.mem_cons_self)
      · exact hwritten line hline
    | json document =>
      obtain ⟨hprotocol, hhandshake, hkeys, hwritten⟩ := sealDocument_delivered platform d m document
      obtain ⟨hprotocol', hhandshake', hkeys', hwritten'⟩ := ih (d.sealDocument platform m document).1 hrest
      refine ⟨hprotocol'.trans hprotocol, hhandshake'.trans hhandshake, hkeys.trans hkeys', ?_⟩
      intro line hline
      rcases List.mem_append.mp hline with hline | hline
      · exact hwritten line hline
      · exact (hwritten' line hline).same hkeys

/-! ## What a step can do -/

/-- What a step does to the authentication state. -/
inductive Effect (platform : SecurePlatform) (d d' : SecureDevice) (lines : List Bytes) : Prop
  | kept (authenticated : d'.protocol.authenticated = d.protocol.authenticated) (handshake : d'.handshake = d.handshake)
      (keys : SameKeys d.session d'.session) (written : ∀ line ∈ lines, Harmless platform d.session line)
  | closed (authenticated : d'.protocol.authenticated = false) (session : d'.session.ready = false)
      (handshake : d'.handshake = .cleared ∨ d'.handshake = d.handshake)
      (written : ∀ line ∈ lines, Harmless platform d'.session line)
  | began (authenticated : d'.protocol.authenticated = false) (session : d'.session.ready = false)
      (handshake : Started platform d'.handshake) (comments : List Bytes)
      (written : ∀ line ∈ comments, Harmless platform d'.session line) (lines : lines = comments ++ [hello platform d'.handshake])
  | accepted (before : d.protocol.authenticated = false) (authenticated : d'.protocol.authenticated = true)
      (started : d.handshake.started = true) (pending : d.handshake.complete = false)
      (handshake : d'.handshake = { d.handshake with
        clientEphemeralPrivateKey := PipaSecureSession.zeros 32, complete := true })
      (session : d'.session.ready = true)
      (keyed : d.handshake.clientEphemeralPublicKey = Secure.Firmware.encodeBase64Url
        (platform.crypto.x25519PublicKey d.handshake.clientEphemeralPrivateKey).val → Keyed platform d'.handshake d'.session)
      (written : ∀ line ∈ lines, Harmless platform d'.session line)

/-! ### The protocol -/

theorem sendEncrypted_plainly (p : PipaSecureProtocol) (document : JsonObject) : Plainly (p.sendEncrypted document) := by
  intro text h
  unfold PipaSecureProtocol.sendEncrypted at h
  split at h
  · exact absurd h List.not_mem_nil
  split at h
  · obtain rfl := Output.log.inj (List.mem_singleton.mp h)
    decide
  · cases List.mem_singleton.mp h

theorem plainly_append {a b : List Output} (ha : Plainly a) (hb : Plainly b) : Plainly (a ++ b) := by
  intro text h
  rcases List.mem_append.mp h with h | h
  · exact ha text h
  · exact hb text h

theorem plainly_nil : Plainly [] := fun _ h => absurd h List.not_mem_nil

theorem call_delivered (platform : SecurePlatform) (d : SecureDevice) (m : Moment) {r : PipaSecureProtocol × List Output} (hplain : Plainly r.2) :
    Delivered platform { d with protocol := r.1 } (d.call platform m r) :=
  deliver_delivered platform { d with protocol := r.1 } m hplain

/-- A call of the protocol that leaves it as authenticated as it was. -/
theorem call_effect (d : SecureDevice) (m : Moment) {r : PipaSecureProtocol × List Output} (hplain : Plainly r.2)
    (hsame : r.1.authenticated = d.protocol.authenticated) :
    Effect platform d (d.call platform m r).1 (d.call platform m r).2 := by
  obtain ⟨hprotocol, hhandshake, hkeys, hwritten⟩ := call_delivered platform d m hplain
  exact .kept ((congrArg PipaSecureProtocol.authenticated hprotocol).trans hsame) hhandshake hkeys hwritten

/-! ### The handshake -/

theorem one_comment {session : PipaSecureSession} {text : String} (h : OneLine (comment text)) :
    ∀ line ∈ [comment text], Harmless platform session line := by
  intro line hline
  obtain rfl := List.mem_singleton.mp hline
  exact harmless_comment h

/-- What `sendHandshake` does without a session. -/
theorem sendHandshake_effect (platform : SecurePlatform) (d : SecureDevice) (m : Moment) (hauth : d.protocol.authenticated = false)
    (hready : d.session.ready = false) :
    Effect platform d (d.sendHandshake platform m).1 (d.sendHandshake platform m).2 := by
  unfold sendHandshake
  split
  · exact .closed hauth hready (Or.inr rfl) (one_comment (by decide))
  cases hbegin : PipaSecureHandshake.beginClient platform.crypto platform.identity platform.config.deviceId none m.sessionBytes
      m.keyBytes m.nonce with
  | mk handshake ok =>
    cases ok with
    | false =>
      have hcleared : handshake = .cleared := by
        unfold PipaSecureHandshake.beginClient at hbegin
        split at hbegin
        · exact (congrArg Prod.fst hbegin).symm
        split at hbegin
        · exact (congrArg Prod.fst hbegin).symm
        · cases hbegin
      exact .closed hauth hready (Or.inl hcleared) (one_comment (by decide))
    | true =>
      have hstart : Started platform handshake := ⟨m.sessionBytes, m.keyBytes, m.nonce, hbegin⟩
      obtain ⟨hstarts, -, hlength⟩ := hello_line hstart
      have hne : (hello platform handshake).isEmpty = false := by
        cases hhello : hello platform handshake with
        | nil =>
          rw [hhello] at hstarts
          cases hstarts
        | cons b bs => rfl
      have hfits : ((hello platform handshake).isEmpty || (hello platform handshake).length + 1 > kMaxOutboundLine) = false := by
        rw [hne, Bool.false_or, decide_eq_false_iff_not]
        omega
      unfold hello at hfits
      simp only [hfits, Bool.false_eq_true, if_false]
      exact .began hauth hready hstart [] (fun _ h => absurd h List.not_mem_nil) rfl

/-- What a step does once everything was closed it does together with the closing. -/
theorem Effect.after_closing {d₀ d d' : SecureDevice} {lines : List Bytes} (comments : List Bytes) (h : Effect platform d₀ d' lines)
    (hauth : d₀.protocol.authenticated = false) (hready : d₀.session.ready = false) (hcleared : d₀.handshake = .cleared)
    (hcomments : ∀ session, ∀ line ∈ comments, Harmless platform session line) :
    Effect platform d d' (comments ++ lines) := by
  have hall (session : PipaSecureSession) {lines : List Bytes} (hlines : ∀ line ∈ lines, Harmless platform session line) :
      ∀ line ∈ comments ++ lines, Harmless platform session line := by
    intro line hline
    rcases List.mem_append.mp hline with hline | hline
    · exact hcomments session line hline
    · exact hlines line hline
  cases h with
  | kept hauthenticated hhandshake hkeys hwritten =>
    refine .closed (hauthenticated.trans hauth) (hkeys.ready.trans hready) (Or.inl (hhandshake.trans hcleared)) (hall _ ?_)
    intro line hline
    obtain ⟨hone, hnot, hcomment | ⟨s, plaintext, ciphertext, hsame, hs, hrest⟩⟩ := hwritten line hline
    · exact ⟨hone, hnot, Or.inl hcomment⟩
    · rw [hsame.ready, hready] at hs
      cases hs
  | closed hauthenticated hsession hhandshake hwritten =>
    refine .closed hauthenticated hsession (Or.inl ?_) (hall _ hwritten)
    rcases hhandshake with hhandshake | hhandshake
    · exact hhandshake
    · exact hhandshake.trans hcleared
  | began hauthenticated hsession hhandshake comments' hwritten hlines =>
    refine .began hauthenticated hsession hhandshake (comments ++ comments') (hall _ hwritten) ?_
    rw [hlines, List.append_assoc]
  | accepted hbefore hauthenticated hstarted =>
    rw [hcleared] at hstarted
    cases hstarted

/-- `beginFromSharedSecret` reports whether the session is ready. -/
theorem beginFromSharedSecret_ready (kdf : Kdf) (sessionId : Bytes) (secret hash : Fixed 32) (clientRole : Bool) :
    (PipaSecureSession.beginFromSharedSecret kdf sessionId secret hash clientRole).1.ready =
      (PipaSecureSession.beginFromSharedSecret kdf sessionId secret hash clientRole).2 := by
  unfold PipaSecureSession.beginFromSharedSecret
  split
  · rfl
  split <;> rfl

/-- What `acceptServerHello` can return, without a session before. -/
theorem acceptServerHello_cases (h : PipaSecureHandshake) {session : PipaSecureSession} (crypto : Crypto)
    (object : Secure.Firmware.JsonObject) (serverPublicKey : Fixed 32) (expectedServerId : Option Bytes)
    (hready : session.ready = false) :
    (∃ session', session'.ready = false ∧
      h.acceptServerHello crypto session object serverPublicKey expectedServerId = ((h, session'), false)) ∨
    ∃ r secret derived, h.started = true ∧ h.complete = false ∧ crypto.verify serverPublicKey r.signature (h.signedTranscript r) = true ∧
      crypto.exchange h.clientEphemeralPrivateKey r.serverKey = some secret ∧
      (PipaSecureSession.beginFromSharedSecret crypto.hkdf h.sessionId secret (crypto.sha256 (h.transcript r)) true).1 = derived ∧
      derived.ready = true ∧
      h.acceptServerHello crypto session object serverPublicKey expectedServerId =
        (({ h with clientEphemeralPrivateKey := PipaSecureSession.zeros 32, complete := true }, derived), true) := by
  unfold PipaSecureHandshake.acceptServerHello
  split
  · exact Or.inl ⟨session, hready, rfl⟩
  rename_i r hread
  split
  · exact Or.inl ⟨session, hready, rfl⟩
  rename_i hverify
  split
  · exact Or.inl ⟨session, hready, rfl⟩
  rename_i secret hsecret
  have hreports := beginFromSharedSecret_ready crypto.hkdf h.sessionId secret (crypto.sha256 (h.transcript r)) true
  split
  · rename_i session' hbegin
    rw [hbegin] at hreports
    exact Or.inl ⟨session', hreports, rfl⟩
  · rename_i session' hbegin
    have hr := PipaSecureHandshake.readServerHello_read hread
    rw [hbegin] at hreports
    exact Or.inr ⟨r, secret, session', hr.started, hr.pending, by simpa using hverify, hsecret, by rw [hbegin], hreports, rfl⟩

/-- What a line does that is taken for a ServerHello. -/
theorem handleServerHello_effect (d : SecureDevice) (m : Moment) (object : JsonObject)
    (hauth : d.protocol.authenticated = false) (hready : d.session.ready = false) :
    Effect platform d (d.handleServerHello platform m object).1 (d.handleServerHello platform m object).2 := by
  unfold handleServerHello
  split
  · exact .kept rfl rfl (SameKeys.refl _) (fun _ h => absurd h List.not_mem_nil)
  split
  · exact .kept rfl rfl (SameKeys.refl _) (one_comment (by decide))
  rename_i serverPublicKey hkey
  obtain ⟨session', hsession', heq⟩ | ⟨r, secret, derived, hstarted, hpending, hverify, hsecret, hbegin, hderived, heq⟩ :=
    acceptServerHello_cases d.handshake platform.crypto (helloObject object) serverPublicKey platform.serverId hready
  · rw [heq]
    exact .closed hauth hsession' (Or.inr rfl) (one_comment (by decide))
  · simp only [heq]
    have hplain : Plainly (d.protocol.acceptedHello platform.config m.now).2 := by
      refine plainly_append (plainly_append (sendEncrypted_plainly _ _) (sendEncrypted_plainly _ _)) ?_
      intro text htext
      obtain rfl := Output.log.inj (List.mem_singleton.mp htext)
      decide
    have hcalled := call_delivered platform { d with
        handshake := { d.handshake with clientEphemeralPrivateKey := PipaSecureSession.zeros 32, complete := true }
        session := derived } m hplain
    generalize call platform { d with
        handshake := { d.handshake with clientEphemeralPrivateKey := PipaSecureSession.zeros 32, complete := true }
        session := derived } m (d.protocol.acceptedHello platform.config m.now) = result at hcalled ⊢
    obtain ⟨hprotocol, hhandshake, hkeys, hwritten⟩ := hcalled
    have hauthenticated : result.1.protocol.authenticated = true := by rw [hprotocol]; rfl
    refine .accepted hauth hauthenticated hstarted hpending hhandshake
      (hkeys.ready.trans hderived) ?_ ?_
    · intro hown
      have hkeyed : Keyed platform d.handshake derived :=
        ⟨serverPublicKey, r, d.handshake.clientEphemeralPrivateKey, secret, derived, hkey, hverify, hown, hsecret,
          hbegin, rfl⟩
      have hsame := hkeyed.same hkeys
      rw [hhandshake]
      exact ⟨hsame.accepted⟩
    · intro line hline
      exact (hwritten line hline).same hkeys.symm

/-! ### Messages and frames -/

/-- What the protocol makes of a message: an authentication error closes it, nothing else does. -/
theorem handleMessage_cases (p : PipaSecureProtocol) (now : Now) (document : JsonObject) :
    Plainly (p.handleMessage now document).2 ∧
      if authenticationError document then
        (p.handleMessage now document).1.authenticated = false ∧ (p.handleMessage now document).1.ui = {}
      else (p.handleMessage now document).1.authenticated = p.authenticated := by
  have hlog : Plainly [.log "secure authentication error; handshake restarted"] := by
    intro text htext
    obtain rfl := Output.log.inj (List.mem_singleton.mp htext)
    decide
  unfold PipaSecureProtocol.handleMessage authenticationError
  dsimp only
  split
  · rename_i hversion
    simp only [hversion, decide_false, Bool.false_and, Bool.false_eq_true, if_false]
    exact ⟨plainly_nil, trivial⟩
  rename_i hversion
  split
  · rename_i htype
    have hother : literal "ready" ≠ literal "error" := by decide
    simp only [htype, hother, decide_false, Bool.and_false, Bool.false_and, Bool.false_eq_true, if_false]
    split
    · exact ⟨plainly_nil, rfl⟩
    · exact ⟨plainly_nil, rfl⟩
  split
  · rename_i htype
    have hother : literal "ui_state" ≠ literal "error" := by decide
    simp only [htype, hother, decide_false, Bool.and_false, Bool.false_and, Bool.false_eq_true, if_false]
    exact ⟨plainly_nil, trivial⟩
  split
  · rename_i htype
    have hother : literal "confirm_request" ≠ literal "error" := by decide
    simp only [htype, hother, decide_false, Bool.and_false, Bool.false_and, Bool.false_eq_true, if_false]
    split
    · exact ⟨plainly_nil, rfl⟩
    split
    · exact ⟨plainly_nil, rfl⟩
    · exact ⟨plainly_nil, rfl⟩
  split
  · rename_i htype
    have hother : literal "tool_result" ≠ literal "error" := by decide
    simp only [htype, hother, decide_false, Bool.and_false, Bool.false_and, Bool.false_eq_true, if_false]
    exact ⟨plainly_nil, trivial⟩
  split
  · rename_i htype
    simp only [htype, not_not.mp hversion, decide_true, Bool.true_and]
    unfold PipaSecureProtocol.handleError
    split
    · exact ⟨hlog, rfl, rfl⟩
    · exact ⟨plainly_nil, rfl⟩
  · rename_i htype
    simp only [htype, decide_false, Bool.and_false, Bool.false_and, Bool.false_eq_true, if_false]
    exact ⟨plainly_nil, trivial⟩

theorem handleMessage_error {p : PipaSecureProtocol} {now : Now} {document : JsonObject}
    (herror : authenticationError document = true) :
    p.handleMessage now document = ({ p.resetHandshake with lastHandshake := now.millis },
      [.log "secure authentication error; handshake restarted"]) := by
  simp only [authenticationError, Bool.and_eq_true, decide_eq_true_eq] at herror
  obtain ⟨⟨hversion, htype⟩, hcode⟩ := herror
  have hready : literal "error" ≠ literal "ready" := by decide
  have hstate : literal "error" ≠ literal "ui_state" := by decide
  have hrequest : literal "error" ≠ literal "confirm_request" := by decide
  have hresult : literal "error" ≠ literal "tool_result" := by decide
  simp only [PipaSecureProtocol.handleMessage, hversion, htype, hready, hstate, hrequest, hresult, ne_eq, not_true_eq_false,
    if_false, if_true, PipaSecureProtocol.handleError, hcode]

theorem handleMessage_effect (d : SecureDevice) (m : Moment) (document : JsonObject) :
    Effect platform d (d.handleMessage platform m document).1 (d.handleMessage platform m document).2 := by
  obtain ⟨hplain, hcases⟩ := handleMessage_cases d.protocol m.now document
  unfold handleMessage
  split
  · rename_i herror
    rw [if_pos herror] at hcases
    obtain ⟨hprotocol, hhandshake, hkeys, hwritten⟩ :=
      call_delivered platform { d with handshake := .cleared, session := .cleared } m hplain
    have hauthenticated := (congrArg PipaSecureProtocol.authenticated hprotocol).trans hcases.1
    refine .closed hauthenticated hkeys.ready (Or.inl hhandshake) ?_
    intro line hline
    exact (hwritten line hline).same hkeys.symm
  · rename_i herror
    rw [if_neg herror] at hcases
    exact call_effect d m hplain hcases

/-- A step taken after the record layer moved on under the same keys. -/
theorem Effect.of_kept {d d₁ d' : SecureDevice} {lines : List Bytes} (h : Effect platform d₁ d' lines)
    (hauth : d₁.protocol.authenticated = d.protocol.authenticated) (hhandshake : d₁.handshake = d.handshake)
    (hkeys : SameKeys d.session d₁.session) : Effect platform d d' lines := by
  cases h with
  | kept hauthenticated hsame hmore hwritten =>
    refine .kept (hauthenticated.trans hauth) (hsame.trans hhandshake) (hkeys.trans hmore) ?_
    intro line hline
    exact (hwritten line hline).same hkeys
  | closed hauthenticated hsession hclosed hwritten =>
    rw [hhandshake] at hclosed
    exact .closed hauthenticated hsession hclosed hwritten
  | began hauthenticated hsession hstart comments hwritten hlines =>
    exact .began hauthenticated hsession hstart comments hwritten hlines
  | accepted hbefore hauthenticated hstarted hpending hnew hsession hkeyed hwritten =>
    rw [hhandshake] at hstarted hpending hnew hkeyed
    exact .accepted (hauth.symm.trans hbefore) hauthenticated hstarted hpending hnew hsession hkeyed hwritten

/-- The record layer after a frame was opened. -/
theorem openFrame_same {d : SecureDevice} {m : Moment} {object : JsonObject} {session : PipaSecureSession} {document : Json}
    (h : d.openFrame platform m object = some (session, document)) : SameKeys d.session session := by
  unfold openFrame at h
  split at h
  · cases h
  cases hheader : frameHeader? d.session object with
  | none =>
    rw [hheader] at h
    cases h
  | some header =>
    obtain ⟨text, sequence⟩ := header
    simp only [hheader] at h
    split at h
    · cases h
    split at h
    · cases h
    rename_i ciphertext _
    have hkeys := openRecord_same platform d.session sequence ciphertext kJsonAad (some PipaSecureProtocol.kMaxPlaintext)
    split at h
    · cases h
    rename_i hopen
    rw [hopen] at hkeys
    split at h
    · cases h
    split at h
    · cases h
    · cases h
      exact hkeys

theorem handleEncryptedFrame_effect (d : SecureDevice) (m : Moment) (object : JsonObject) :
    Effect platform d (d.handleEncryptedFrame platform m object).1 (d.handleEncryptedFrame platform m object).2 := by
  unfold handleEncryptedFrame
  split
  · exact .closed rfl rfl (Or.inl rfl) (one_comment (by decide))
  · rename_i session document hopen
    exact (handleMessage_effect _ m document.members).of_kept rfl rfl (openFrame_same hopen)

theorem handleLine_effect (d : SecureDevice) (m : Moment) (line : Bytes)
    (hready : d.protocol.authenticated = false → d.session.ready = false) :
    Effect platform d (d.handleLine platform m line).1 (d.handleLine platform m line).2 := by
  unfold handleLine
  split
  · exact .kept rfl rfl (SameKeys.refl _) (one_comment (by decide))
  split
  · exact .kept rfl rfl (SameKeys.refl _) (one_comment (by decide))
  · split
    · rename_i hauth
      have hauth : d.protocol.authenticated = false := by simpa using hauth
      exact handleServerHello_effect d m _ hauth (hready hauth)
    · exact handleEncryptedFrame_effect d m _
  · exact .kept rfl rfl (SameKeys.refl _) (one_comment (by decide))

theorem read_effect (d : SecureDevice) (m : Moment) (character : UInt8)
    (hready : d.protocol.authenticated = false → d.session.ready = false) :
    Effect platform d (d.read platform m character).1 (d.read platform m character).2 := by
  have hnothing : Effect platform d d [] := .kept rfl rfl (SameKeys.refl _) (fun _ h => absurd h List.not_mem_nil)
  have hrest {d' : SecureDevice} {lines : List Bytes} (h : Effect platform d d' lines) (inbound : Bytes) (dropping : Bool) :
      Effect platform d { d' with inboundLine := inbound, droppingOversizedLine := dropping } lines := by
    cases h with
    | kept h1 h2 h3 h4 => exact .kept h1 h2 h3 h4
    | closed h1 h2 h3 h4 => exact .closed h1 h2 h3 h4
    | began h1 h2 h3 comments h4 h5 => exact .began h1 h2 h3 comments h4 h5
    | accepted h1 h2 h3 h4 h5 h6 h7 h8 => exact .accepted h1 h2 h3 h4 h5 h6 h7 h8
  unfold read
  split
  · exact hnothing
  split
  · split
    · exact hrest (handleLine_effect d m d.inboundLine hready) _ _
    · exact hrest hnothing _ _
  split
  · exact hnothing
  split
  · exact hrest (.kept rfl rfl (SameKeys.refl _) (one_comment (by decide))) _ _
  · exact hrest hnothing _ _

/-! ### Timers -/

theorem sendHandshake_authenticated (platform : SecurePlatform) (d : SecureDevice) (m : Moment) :
    (d.sendHandshake platform m).1.protocol.authenticated = d.protocol.authenticated := by
  unfold sendHandshake
  split
  · rfl
  split
  · rfl
  · dsimp only
    split <;> rfl

theorem retry_effect (platform : SecurePlatform) (d : SecureDevice) (m : Moment) (hready : d.protocol.authenticated = false → d.session.ready = false) :
    Effect platform d (d.retry platform m).1 (d.retry platform m).2 := by
  unfold retry
  split
  · rename_i hdue
    simp only [Bool.and_eq_true, Bool.not_eq_true'] at hdue
    have hstart := sendHandshake_effect platform (d.noteHandshake m) m hdue.1 (hready hdue.1)
    exact hstart.of_kept rfl rfl (SameKeys.refl _)
  · exact .kept rfl rfl (SameKeys.refl _) (fun _ h => absurd h List.not_mem_nil)

theorem heartbeat_cases (p : PipaSecureProtocol) (now : Now) :
    Plainly (p.heartbeat now).2 ∧ (p.heartbeat now).1.authenticated = p.authenticated ∧
      (p.authenticated = false → p.heartbeat now = (p, [])) := by
  unfold PipaSecureProtocol.heartbeat
  split
  · rename_i hdue
    refine ⟨sendEncrypted_plainly _ _, rfl, ?_⟩
    intro hauth
    rw [hauth] at hdue
    cases hdue
  · exact ⟨plainly_nil, rfl, fun _ => rfl⟩

theorem statusReport_cases (p : PipaSecureProtocol) (now : Now) :
    Plainly (p.statusReport now).2 ∧ (p.statusReport now).1.authenticated = p.authenticated ∧
      (p.authenticated = false → p.statusReport now = (p, [])) := by
  unfold PipaSecureProtocol.statusReport
  split
  · rename_i hdue
    refine ⟨sendEncrypted_plainly _ _, rfl, ?_⟩
    intro hauth
    rw [hauth] at hdue
    cases hdue
  · exact ⟨plainly_nil, rfl, fun _ => rfl⟩

/-- Two reports of an authenticated device. -/
theorem Delivered.both {d d₁ d₂ : SecureDevice} {l₁ l₂ : List Bytes} {p₁ p₂ : PipaSecureProtocol}
    (h₁ : Delivered platform { d with protocol := p₁ } (d₁, l₁)) (h₂ : Delivered platform { d₁ with protocol := p₂ } (d₂, l₂))
    (hauth : p₂.authenticated = d.protocol.authenticated) : Effect platform d d₂ (l₁ ++ l₂) := by
  refine .kept ((congrArg PipaSecureProtocol.authenticated h₂.protocol).trans hauth) (h₂.handshake.trans h₁.handshake)
    (h₁.keys.trans h₂.keys) ?_
  intro line hline
  rcases List.mem_append.mp hline with hline | hline
  · exact h₁.written line hline
  · exact (h₂.written line hline).same h₁.keys

theorem timers_effect (d : SecureDevice) (m : Moment) (hready : d.protocol.authenticated = false → d.session.ready = false) :
    Effect platform d (d.timers platform m).1 (d.timers platform m).2 := by
  unfold timers
  split
  · have hstart := sendHandshake_effect platform (d.resetHandshake.noteHandshake m) m rfl rfl
    refine hstart.after_closing [_] rfl rfl rfl ?_
    intro session
    exact one_comment (by decide)
  cases hauth : d.protocol.authenticated with
  | true =>
    have hretry : d.retry platform m = (d, []) := by
      unfold retry
      simp only [hauth, Bool.not_true, Bool.false_and, Bool.false_eq_true, if_false]
    obtain ⟨hplain, hsame, -⟩ := heartbeat_cases d.protocol m.now
    have hfirst := call_delivered platform d m hplain
    obtain ⟨hplain', hsame', -⟩ := statusReport_cases (d.call platform m (d.protocol.heartbeat m.now)).1.protocol m.now
    have hsecond := call_delivered platform (d.call platform m (d.protocol.heartbeat m.now)).1 m hplain'
    have hbefore := congrArg PipaSecureProtocol.authenticated hfirst.protocol
    simp only [hretry, List.nil_append]
    exact hfirst.both hsecond (hsame'.trans (hbefore.trans hsame))
  | false =>
    have hretry := retry_effect platform d m hready
    have hafter : (d.retry platform m).1.protocol.authenticated = false := by
      unfold retry
      split
      · exact (sendHandshake_authenticated platform (d.noteHandshake m) m).trans hauth
      · exact hauth
    have hbeat := (heartbeat_cases (d.retry platform m).1.protocol m.now).2.2 hafter
    have hstatus := (statusReport_cases (d.retry platform m).1.protocol m.now).2.2 hafter
    have hcall : (d.retry platform m).1.call platform m ((d.retry platform m).1.protocol, []) = ((d.retry platform m).1, []) :=
      rfl
    simp only [hbeat, hcall, hstatus, List.append_nil]
    exact hretry

theorem step_effect (d : SecureDevice) (a : Step) (hready : d.protocol.authenticated = false → d.session.ready = false) :
    Effect platform d (d.step platform a).1 (d.step platform a).2 := by
  have hnothing (p : PipaSecureProtocol) (h : p.authenticated = d.protocol.authenticated) :
      Effect platform d { d with protocol := p } [] := .kept h rfl (SameKeys.refl _) (fun _ h => absurd h List.not_mem_nil)
  cases a with
  | begin m =>
    have hstart := sendHandshake_effect platform d.resetHandshake m rfl rfl
    exact hstart.after_closing [] rfl rfl rfl (fun _ _ h => absurd h List.not_mem_nil)
  | read m character => exact read_effect d m character hready
  | timers m => exact timers_effect d m hready
  | sendGesture m gesture =>
    refine call_effect d m ?_ rfl
    unfold PipaSecureProtocol.sendGesture
    split
    · exact plainly_nil
    split
    · exact plainly_nil
    · exact sendEncrypted_plainly _ _
  | sendTextInput m text source =>
    refine call_effect d m ?_ rfl
    unfold PipaSecureProtocol.sendTextInput
    split
    · exact plainly_nil
    split
    · exact plainly_nil
    · exact sendEncrypted_plainly _ _
  | sendConfirmation m accepted =>
    refine call_effect d m ?_ rfl
    unfold PipaSecureProtocol.sendConfirmation
    split
    · exact plainly_nil
    · exact sendEncrypted_plainly _ _
  | setHardwareCapabilities displayReady touchReady audioProbeReady => exact hnothing _ rfl
  | setAudioState state => exact hnothing _ rfl
  | setBatteryPercent batteryPercent => exact hnothing _ rfl

/-! ## Runs -/

/-- What every line written so far is. -/
def Written (platform : SecurePlatform) (line : Bytes) : Prop :=
  OneLine line ∧ (IsComment line ∨ (∃ h, Started platform h ∧ line = hello platform h) ∨
    ∃ h session, Keyed platform h session ∧ IsSealed platform session line)

/-- What holds of a device that has written these lines. -/
structure Secured (platform : SecurePlatform) (lines : List Bytes) (d : SecureDevice) : Prop where
  complete : d.protocol.authenticated = true → d.handshake.complete = true
  ready : d.session.ready = d.protocol.authenticated
  started : d.handshake.complete = true → d.handshake.started = true
  sent : d.handshake.started = true → lastHello lines = some (hello platform d.handshake)
  own : d.handshake.started = true → d.handshake.complete = false → d.handshake.clientEphemeralPublicKey =
    Secure.Firmware.encodeBase64Url (platform.crypto.x25519PublicKey d.handshake.clientEphemeralPrivateKey).val
  keyed : d.protocol.authenticated = true → Keyed platform d.handshake d.session
  written : ∀ line ∈ lines, Written platform line

theorem lastHello_append {lines more : List Bytes} (h : ∀ line ∈ more, isClientHello line = false) :
    lastHello (lines ++ more) = lastHello lines := by
  have hnone : more.filter isClientHello = [] := by
    rw [List.filter_eq_nil_iff]
    intro line hline
    rw [h line hline]
    exact Bool.false_ne_true
  rw [lastHello, List.filter_append, hnone, List.append_nil, lastHello]

theorem lastHello_concat {lines : List Bytes} {line : Bytes} (h : isClientHello line = true) :
    lastHello (lines ++ [line]) = some line := by
  rw [lastHello, List.filter_append, List.filter_cons_of_pos h, List.filter_nil, List.getLast?_concat]

/-- A frame needs a session. -/
theorem written_harmless {session : PipaSecureSession} (hkeyed : session.ready = true → ∃ h, Keyed platform h session) {line : Bytes}
    (h : Harmless platform session line) : Written platform line := by
  obtain ⟨hone, -, hcomment | hsealed⟩ := h
  · exact ⟨hone, Or.inl hcomment⟩
  · have hready : session.ready = true := by
      obtain ⟨s, plaintext, ciphertext, hkeys, hready, -⟩ := hsealed
      rwa [← hkeys.ready]
    obtain ⟨handshake, hhandshake⟩ := hkeyed hready
    exact ⟨hone, Or.inr (Or.inr ⟨handshake, session, hhandshake, hsealed⟩)⟩

theorem Secured.init (platform : SecurePlatform) : Secured platform [] {} where
  complete h := by cases h
  ready := rfl
  started h := by cases h
  sent h := by cases h
  own h := by cases h
  keyed h := by cases h
  written line h := absurd h List.not_mem_nil

/-- One step keeps it. -/
theorem Secured.step {lines more : List Bytes} {d d' : SecureDevice} (h : Secured platform lines d)
    (heffect : Effect platform d d' more) : Secured platform (lines ++ more) d' := by
  have hlines {session : PipaSecureSession} (hkeyed : session.ready = true → ∃ h, Keyed platform h session)
      (hmore : ∀ line ∈ more, Harmless platform session line) : ∀ line ∈ lines ++ more, Written platform line := by
    intro line hline
    rcases List.mem_append.mp hline with hline | hline
    · exact h.written line hline
    · exact written_harmless hkeyed (hmore line hline)
  cases heffect with
  | kept hauth hhandshake hkeys hmore =>
    have hkept : lastHello (lines ++ more) = lastHello lines := lastHello_append (fun line hline => (hmore line hline).2.1)
    refine ⟨?_, ?_, ?_, ?_, ?_, ?_, hlines (fun hready => ⟨_, h.keyed (h.ready.symm.trans hready)⟩) hmore⟩
    · rw [hauth, hhandshake]
      exact h.complete
    · rw [hkeys.ready, hauth]
      exact h.ready
    · rw [hhandshake]
      exact h.started
    · rw [hhandshake, hkept]
      exact h.sent
    · rw [hhandshake]
      exact h.own
    · rw [hauth, hhandshake]
      intro hauth
      exact (h.keyed hauth).same hkeys
  | closed hauth hsession hhandshake hmore =>
    have hkept : lastHello (lines ++ more) = lastHello lines := lastHello_append (fun line hline => (hmore line hline).2.1)
    have hunauth : d'.protocol.authenticated ≠ true := by rw [hauth]; exact Bool.false_ne_true
    have hunready : d'.session.ready ≠ true := by rw [hsession]; exact Bool.false_ne_true
    refine ⟨fun hyes => absurd hyes hunauth, hsession.trans hauth.symm, ?_, ?_, ?_, fun hyes => absurd hyes hunauth,
      hlines (fun hyes => absurd hyes hunready) hmore⟩
    · rcases hhandshake with hhandshake | hhandshake <;> rw [hhandshake]
      · nofun
      · exact h.started
    · rcases hhandshake with hhandshake | hhandshake <;> rw [hhandshake]
      · nofun
      · rw [hkept]
        exact h.sent
    · rcases hhandshake with hhandshake | hhandshake <;> rw [hhandshake]
      · nofun
      · exact h.own
  | began hauth hsession hstart comments hmore hwritten =>
    have hunauth : d'.protocol.authenticated ≠ true := by rw [hauth]; exact Bool.false_ne_true
    have hunready : d'.session.ready ≠ true := by rw [hsession]; exact Bool.false_ne_true
    obtain ⟨hhello, hone, -⟩ := hello_line hstart
    obtain ⟨-, hstarted, hpending, hown, -⟩ := hstart.facts
    subst hwritten
    refine ⟨fun hyes => absurd hyes hunauth, hsession.trans hauth.symm, ?_, ?_, fun _ _ => hown, fun hyes => absurd hyes hunauth,
      ?_⟩
    · intro _
      exact hstarted
    · intro _
      rw [← List.append_assoc]
      exact lastHello_concat hhello
    · intro line hline
      rcases List.mem_append.mp hline with hline | hline
      · exact h.written line hline
      rcases List.mem_append.mp hline with hline | hline
      · exact written_harmless (fun hyes => absurd hyes hunready) (hmore line hline)
      · obtain rfl := List.mem_singleton.mp hline
        exact ⟨hone, Or.inr (Or.inl ⟨_, hstart, rfl⟩)⟩
  | accepted hbefore hauth hstarted hpending hhandshake hsession hkeyed hmore =>
    have hkept : lastHello (lines ++ more) = lastHello lines := lastHello_append (fun line hline => (hmore line hline).2.1)
    have hnow := hkeyed (h.own hstarted hpending)
    refine ⟨?_, hsession.trans hauth.symm, ?_, ?_, ?_, fun _ => hnow, hlines (fun _ => ⟨_, hnow⟩) hmore⟩
    · intro _
      rw [hhandshake]
    · intro _
      rw [hhandshake]
      exact hstarted
    · intro _
      rw [hkept, h.sent hstarted, hhandshake]
      rfl
    · rw [hhandshake]
      nofun

/-- After every run. -/
theorem Secured.run (platform : SecurePlatform) (ops : List Step) :
    Secured platform ((machine platform).outs ops).flatten ((machine platform).run ops) := by
  induction ops using List.reverseRecOn with
  | nil => exact Secured.init platform
  | append_singleton pre a ih =>
    rw [Machine.run_concat, Machine.outs_concat, List.flatten_append, List.flatten_cons, List.flatten_nil, List.append_nil]
    exact ih.step (step_effect _ a (fun hauth => ih.ready.trans hauth))

/-! ## Failing closed -/

/-- Unauthenticated, without keys, and nothing on the screen. -/
structure Closed (d : SecureDevice) : Prop where
  unauthenticated : d.protocol.authenticated = false
  session : d.session = .cleared
  screen : d.protocol.ui.state = .idle
  confirmation : d.protocol.ui.confirmationId = []

/-- A line that has just been completed and holds a frame, as far as the outer JSON goes. -/
def Arrives (platform : SecurePlatform) (d : SecureDevice) (object : JsonObject) : Prop :=
  d.protocol.authenticated = true ∧ d.droppingOversizedLine = false ∧ d.inboundLine ≠ [] ∧
    platform.isDuplicateFreeJson d.inboundLine = true ∧ platform.deserializeJson d.inboundLine = some (.object object)

/-- The steps that have to close the session. -/
inductive Fails (platform : SecurePlatform) (d : SecureDevice) : Step → Prop
  | rejected (m : Moment) (object : JsonObject) (arrives : Arrives platform d object)
      (refused : d.openFrame platform m object = none) : Fails platform d (.read m 0x0A)
  | silent (m : Moment) (timeout : d.timedOut m = true) : Fails platform d (.timers m)
  | unauthorized (m : Moment) (object : JsonObject) (arrives : Arrives platform d object) (session : PipaSecureSession)
      (document : Json) (opened : d.openFrame platform m object = some (session, document))
      (error : authenticationError document.members = true) : Fails platform d (.read m 0x0A)

theorem sendHandshake_closed {d : SecureDevice} {m : Moment} (h : Closed d) : Closed (d.sendHandshake platform m).1 := by
  obtain ⟨h1, h2, h3, h4⟩ := h
  unfold sendHandshake
  split
  · exact ⟨h1, h2, h3, h4⟩
  split
  · exact ⟨h1, h2, h3, h4⟩
  · dsimp only
    split <;> exact ⟨h1, h2, h3, h4⟩

/-- The line that arrives is taken for a frame. -/
theorem read_arrives {d : SecureDevice} {object : JsonObject} (m : Moment) (h : Arrives platform d object) :
    (d.read platform m 0x0A).1 =
      { (d.handleEncryptedFrame platform m object).1 with inboundLine := [], droppingOversizedLine := false } := by
  obtain ⟨hauth, hdropping, hne, hfree, hparsed⟩ := h
  have hline : d.inboundLine.isEmpty = false := by simpa using hne
  have hcr : (0x0A : UInt8) ≠ 0x0D := by decide
  simp only [read, hcr, if_false, if_true, hdropping, hline, Bool.not_false, Bool.and_self, handleLine, hfree, hparsed, hauth,
    Bool.not_true, Bool.false_eq_true]

theorem fails_closed_step {d : SecureDevice} {a : Step} (h : Fails platform d a) : Closed (d.step platform a).1 := by
  cases h with
  | rejected m object harrives hrefused =>
    have hread := read_arrives m harrives
    simp only [handleEncryptedFrame, hrefused] at hread
    simp only [step, hread]
    exact ⟨rfl, rfl, rfl, rfl⟩
  | silent m htimeout =>
    simp only [step, timers, htimeout, if_true]
    exact sendHandshake_closed ⟨rfl, rfl, rfl, rfl⟩
  | unauthorized m object harrives session document hopen herror =>
    have hread := read_arrives m harrives
    simp only [handleEncryptedFrame, hopen, handleMessage, herror, if_true, handleMessage_error herror] at hread
    simp only [step, hread]
    exact ⟨rfl, rfl, rfl, rfl⟩

/-- The device fails closed: whoever is authenticated has a complete handshake and a session with keys from a
ServerHello for the ClientHello written last; a step that has to close the session leaves nothing of it; and every
line ever written is a comment, a ClientHello or a frame sealed in such a session. -/
theorem fails_closed (platform : SecurePlatform) (ops : List Step) :
    let d := (machine platform).run ops
    let lines := ((machine platform).outs ops).flatten
    (d.protocol.authenticated = true → d.handshake.complete = true ∧ d.session.ready = true) ∧
    (d.session.ready = true → lastHello lines = some (hello platform d.handshake) ∧ Keyed platform d.handshake d.session) ∧
    (∀ a, Fails platform d a → Closed (d.step platform a).1) ∧
    ∀ line ∈ lines, Written platform line := by
  intro d lines
  have hsecured : Secured platform lines d := Secured.run platform ops
  refine ⟨?_, ?_, fun a ha => fails_closed_step ha, hsecured.written⟩
  · intro hauth
    exact ⟨hsecured.complete hauth, hsecured.ready.trans hauth⟩
  · intro hready
    have hauth : d.protocol.authenticated = true := hsecured.ready.symm.trans hready
    exact ⟨hsecured.sent (hsecured.started (hsecured.complete hauth)), hsecured.keyed hauth⟩

end SecureDevice

end Pipa.Firmware
