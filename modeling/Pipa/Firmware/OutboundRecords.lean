import Pipa.Firmware.FailsClosed
import Pipa.Firmware.JsonPolicy
import Pipa.Link.TcpFrames

/- Records the device sends. `sendJson` drops a line that is too long after `seal`
   has counted it, so `kMaxPlaintext` and `kMaxOutboundLine` have to agree: sixteen
   bytes of tag, four thirds for base64, and the header with the longest session
   id and number leave a third of the line free.

   That the session id is a short one is an invariant of the device: only
   `beginFromSharedSecret` sets it, and checks it. The last theorem puts both ends
   of the link together. -/
namespace Pipa.Firmware
open Pipa.Lib Pipa.Secure Pipa.Core
open PipaProtocol (kMaxOutboundLine)
open PipaSecureProtocol (kMaxPlaintext)

namespace SecureDevice

/-! ## The length of a frame -/

theorem serializeText_plain {s : PyStr} (h : Plain s) : (serializeText s.bytes).length = s.length + 2 := by
  have hescape : ∀ b ∈ s.bytes, escapeByte b = [b] := by
    intro b hb
    rw [h.ascii.bytes_eq] at hb
    obtain ⟨c, hc, rfl⟩ := List.mem_map.mp hb
    have hbounds := idCode_bounds (h c hc)
    have hne (n : Nat) (hn : n < 256) (hcn : c.val ≠ n) : c.val.toUInt8 ≠ n.toUInt8 := fun heq =>
      hcn (toUInt8_inj (by omega) hn heq)
    have hquote : c.val.toUInt8 ≠ 0x22 := hne 0x22 (by decide) (by omega)
    have hslash : c.val.toUInt8 ≠ 0x5C := hne 0x5C (by decide) (by omega)
    have hback : c.val.toUInt8 ≠ 0x08 := hne 0x08 (by decide) (by omega)
    have hfeed : c.val.toUInt8 ≠ 0x0C := hne 0x0C (by decide) (by omega)
    have hline : c.val.toUInt8 ≠ 0x0A := hne 0x0A (by decide) (by omega)
    have hreturn : c.val.toUInt8 ≠ 0x0D := hne 0x0D (by decide) (by omega)
    have htab : c.val.toUInt8 ≠ 0x09 := hne 0x09 (by decide) (by omega)
    have hnul : c.val.toUInt8 ≠ 0 := hne 0 (by decide) (by omega)
    simp only [escapeByte, hquote, hslash, hback, hfeed, hline, hreturn, htab, hnul, if_false]
  have hflat : s.bytes.flatMap escapeByte = s.bytes := by
    rw [List.flatMap_congr hescape, List.flatMap_singleton']
  have hlength : s.bytes.length = s.length := by rw [h.ascii.bytes_eq, List.length_map]
  have hquote : (literal "\"").length = 1 := by decide
  rw [serializeText, hflat, List.length_append, List.length_append, hlength, hquote]
  omega

/-- The longest frame. -/
theorem frame_length_le {sessionId ciphertext : Bytes} (hs : validIdentifier sessionId = true)
    (hlength : ciphertext.length ≤ kMaxPlaintext + 16) (sequence : UInt64) :
    (frame ciphertext sequence sessionId).length + 1 ≤ kMaxOutboundLine := by
  obtain ⟨s, hvalid, rfl⟩ := validIdentifier_iff.mp hs
  have hplain := isIdentifier_plain hvalid
  have hid : s.length ≤ 128 := by
    simp only [isIdentifier, Bool.and_eq_true, decide_eq_true_eq] at hvalid
    exact hvalid.1.2
  have hcipher : Plain (encode ciphertext) := encode_idCode ciphertext
  have hdigits : (literal (toString (sequence.toNat : Int))).length ≤ 20 := by
    show (PyStr.ofString (toString sequence.toNat)).bytes.length ≤ 20
    rw [Serial.digits_length]
    exact Nat.repr_length _ 20 (by decide) (Nat.lt_of_lt_of_le sequence.toNat_lt (by decide))
  have hkeys : (serializeText (literal "ciphertext")).length = 12 ∧
      (serializeText (literal "protocol_version")).length = 18 ∧ (serializeText (literal "sequence")).length = 10 ∧
      (serializeText (literal "session_id")).length = 12 ∧ (literal (toString (2 : Int))).length = 1 ∧
      (literal "\x7b").length = 1 ∧ (literal "\x7d").length = 1 ∧ (literal ":").length = 1 ∧
      (literal ",").length = 1 := by decide
  obtain ⟨h1, h2, h3, h4, h5, h6, h7, h8, h9⟩ := hkeys
  have hplaintext : kMaxPlaintext = 6000 := rfl
  have hline : kMaxOutboundLine = 12000 := rfl
  simp only [frame, serialize, serializeFields, joinBytes, List.length_append, Secure.Firmware.encodeBase64Url_eq,
    serializeText_plain hcipher, serializeText_plain hplain, encode_length]
  omega

/-! ## What is never written -/

/-- The comment of `sendJson` for a line that is too long. -/
def tooLarge : Bytes := comment "secure outgoing message discarded: too large"

/-- A session that can seal has an id that the handshake accepts. -/
def Named (session : PipaSecureSession) : Prop := session.ready = true → validIdentifier session.sessionId = true

/-- What the protocol gives to its channel is short enough, and says nothing of lines that are too long. -/
def Bounded (outputs : List Output) : Prop :=
  ∀ output ∈ outputs, match output with
    | .json document => (serialize (.object document)).length ≤ kMaxPlaintext
    | .log text => comment text ≠ tooLarge

variable {platform : SecurePlatform}

theorem frame_ne (ciphertext : Bytes) (sequence : UInt64) (sessionId : Bytes) :
    frame ciphertext sequence sessionId ≠ tooLarge := by
  intro heq
  have hfirst : (frame ciphertext sequence sessionId).head? = some 0x7B := rfl
  rw [heq] at hfirst
  cases hfirst

theorem Named.cleared : Named .cleared := nofun

theorem Named.same {s s' : PipaSecureSession} (h : Named s) (hsame : SameKeys s s') : Named s' := by
  intro hready
  unfold SameKeys at hsame
  rw [hsame] at hready ⊢
  exact h hready

theorem beginFromSharedSecret_named (kdf : Kdf) (sessionId : Bytes) (secret hash : Fixed 32) (clientRole : Bool) :
    Named (PipaSecureSession.beginFromSharedSecret kdf sessionId secret hash clientRole).1 := by
  unfold PipaSecureSession.beginFromSharedSecret
  split
  · exact Named.cleared
  rename_i hvalid
  split
  · exact Named.cleared
  · exact fun _ => by simpa using hvalid

theorem acceptServerHello_named (h : PipaSecureHandshake) (session : PipaSecureSession) (crypto : Crypto)
    (object : Secure.Firmware.JsonObject) (serverPublicKey : Fixed 32) (expectedServerId : Option Bytes)
    (hnamed : Named session) :
    Named (h.acceptServerHello crypto session object serverPublicKey expectedServerId).1.2 := by
  unfold PipaSecureHandshake.acceptServerHello
  split
  · exact hnamed
  rename_i r hread
  split
  · exact hnamed
  split
  · exact hnamed
  rename_i secret hsecret
  have hbegun := beginFromSharedSecret_named crypto.hkdf h.sessionId secret (crypto.sha256 (h.transcript r)) true
  split
  · rename_i session' hbegin
    rw [hbegin] at hbegun
    exact hbegun
  · rename_i session' hbegin
    rw [hbegin] at hbegun
    exact hbegun

/-- What `sendEncrypted` does with a document that is short enough: the session is left alone, or the record is
counted and written. -/
theorem sealDocument_cases (hlaw : platform.aead.Lawful) {d : SecureDevice} (hnamed : Named d.session) (m : Moment)
    {document : JsonObject} (hlength : (serialize (.object document)).length ≤ kMaxPlaintext) :
    ((d.sealDocument platform m document).1 = d ∧
      ∃ text, (d.sealDocument platform m document).2 = [comment text] ∧ comment text ≠ tooLarge) ∨
    ∃ ciphertext, (d.sealDocument platform m document).2 = [frame ciphertext d.session.sendSequence d.session.sessionId] ∧
      (frame ciphertext d.session.sendSequence d.session.sessionId).length + 1 ≤ kMaxOutboundLine ∧
      (d.sealDocument platform m document).1 =
        { d with session := { d.session with sendSequence := d.session.sendSequence + 1 } } := by
  unfold sealDocument
  dsimp only
  split
  · exact Or.inl ⟨rfl, _, rfl, by decide⟩
  by_cases hcan : d.session.CanSeal (serialize (.object document)) kJsonAad (some kMaxCiphertext)
  · rw [PipaSecureSession.sealRecord_ok hcan]
    have hcipher := hlaw.length d.session.sendKey.val (nonceOf d.session.sendNoncePrefix d.session.sendSequence.toNat)
      (serialize (.object document)) (Secure.Firmware.headerFor d.session.sessionId d.session.sendSequence ++ kJsonAad)
    have hfits : (frame (d.session.encryptionOf platform.aead (serialize (.object document)) kJsonAad).ciphertext
        d.session.sendSequence d.session.sessionId).length + 1 ≤ kMaxOutboundLine :=
      frame_length_le (hnamed hcan.ready) (hcipher.trans_le (by omega)) d.session.sendSequence
    refine Or.inr ⟨_, ?_, hfits, rfl⟩
    exact if_neg (Nat.not_lt.mpr hfits)
  · rw [PipaSecureSession.sealRecord_fails hcan]
    exact Or.inl ⟨rfl, _, rfl, by decide⟩

/-! ## What a step writes -/

/-- A step from a named session to a named session that does not write the comment. -/
def Fits (d : SecureDevice) (r : SecureDevice × List Bytes) : Prop :=
  Named d.session → Named r.1.session ∧ tooLarge ∉ r.2

theorem Fits.comment {d d' : SecureDevice} {text : String} (hsession : Named d.session → Named d'.session)
    (htext : comment text ≠ tooLarge) : Fits d (d', [comment text]) :=
  fun h => ⟨hsession h, fun hmem => htext (List.mem_singleton.mp hmem).symm⟩

theorem Fits.nothing {d d' : SecureDevice} (hsession : Named d.session → Named d'.session) : Fits d (d', []) :=
  fun h => ⟨hsession h, List.not_mem_nil⟩

theorem deliver_fits (hlaw : platform.aead.Lawful) (d : SecureDevice) (m : Moment) {outputs : List Output}
    (hbounded : Bounded outputs) : Fits d (d.deliver platform m outputs) := by
  intro hnamed
  induction outputs generalizing d with
  | nil => exact ⟨hnamed, List.not_mem_nil⟩
  | cons output outputs ih =>
    obtain ⟨hfirst, hrest⟩ := List.forall_mem_cons.mp hbounded
    cases output with
    | log text =>
      obtain ⟨hsession, hlines⟩ := ih d hrest hnamed
      refine ⟨hsession, ?_⟩
      intro hmem
      obtain heq | hmem := List.mem_cons.mp hmem
      · exact hfirst heq.symm
      · exact hlines hmem
    | json document =>
      obtain ⟨hsame, text, hlines, htext⟩ | ⟨ciphertext, hlines, -, hcounted⟩ := sealDocument_cases hlaw hnamed m hfirst
      · obtain ⟨hsession, hlater⟩ := ih d hrest hnamed
        rw [deliver, hsame, hlines]
        refine ⟨hsession, ?_⟩
        intro hmem
        obtain heq | hmem := List.mem_cons.mp hmem
        · exact htext heq.symm
        · exact hlater hmem
      · obtain ⟨hsession, hlater⟩ := ih (d.sealDocument platform m document).1 hrest (by rw [hcounted]; exact hnamed)
        rw [deliver, hlines]
        refine ⟨hsession, ?_⟩
        intro hmem
        obtain heq | hmem := List.mem_cons.mp hmem
        · exact frame_ne _ _ _ heq.symm
        · exact hlater hmem

/-- A call of the protocol. -/
theorem call_fits (hlaw : platform.aead.Lawful) (d : SecureDevice) (m : Moment) {r : PipaSecureProtocol × List Output}
    (hbounded : Bounded r.2) : Fits d (d.call platform m r) :=
  deliver_fits hlaw { d with protocol := r.1 } m hbounded

/-! ### The protocol -/

theorem bounded_nil : Bounded [] := fun _ h => absurd h List.not_mem_nil

theorem bounded_log {text : String} (h : comment text ≠ tooLarge) : Bounded [.log text] := by
  intro output houtput
  obtain rfl := List.mem_singleton.mp houtput
  exact h

theorem bounded_append {a b : List Output} (ha : Bounded a) (hb : Bounded b) : Bounded (a ++ b) :=
  List.forall_mem_append.mpr ⟨ha, hb⟩

theorem sendEncrypted_bounded (p : PipaSecureProtocol) (document : JsonObject) : Bounded (p.sendEncrypted document) := by
  unfold PipaSecureProtocol.sendEncrypted
  split
  · exact bounded_nil
  split
  · exact bounded_log (by decide)
  · rename_i hlength
    intro output houtput
    obtain rfl := List.mem_singleton.mp houtput
    exact Nat.not_lt.mp hlength

theorem handleMessage_bounded (p : PipaSecureProtocol) (now : Now) (document : JsonObject) :
    Bounded (p.handleMessage now document).2 := by
  unfold PipaSecureProtocol.handleMessage
  dsimp only
  split
  · exact bounded_nil
  split
  · split
    · exact bounded_nil
    · exact bounded_nil
  split
  · exact bounded_nil
  split
  · split
    · exact bounded_nil
    split
    · exact bounded_nil
    · exact bounded_nil
  split
  · exact bounded_nil
  split
  · unfold PipaSecureProtocol.handleError
    split
    · exact bounded_log (by decide)
    · exact bounded_nil
  · exact bounded_nil

theorem heartbeat_bounded (p : PipaSecureProtocol) (now : Now) : Bounded (p.heartbeat now).2 := by
  unfold PipaSecureProtocol.heartbeat
  split
  · exact sendEncrypted_bounded _ _
  · exact bounded_nil

theorem statusReport_bounded (p : PipaSecureProtocol) (now : Now) : Bounded (p.statusReport now).2 := by
  unfold PipaSecureProtocol.statusReport
  split
  · exact sendEncrypted_bounded _ _
  · exact bounded_nil

/-! ### The device -/

theorem sendHandshake_fits (d : SecureDevice) (m : Moment) : Fits d (d.sendHandshake platform m) := by
  unfold sendHandshake
  split
  · exact Fits.comment id (by decide)
  split
  · exact Fits.comment id (by decide)
  · rename_i handshake hbegin
    have hstart : Started platform handshake := ⟨m.sessionBytes, m.keyBytes, m.nonce, hbegin⟩
    dsimp only
    split
    · exact Fits.comment id (by decide)
    · refine fun h => ⟨h, fun hmem => ?_⟩
      have hhello := (hello_line hstart).1
      rw [hello, ← List.mem_singleton.mp hmem] at hhello
      cases hhello

theorem handleServerHello_fits (hlaw : platform.aead.Lawful) (d : SecureDevice) (m : Moment) (object : JsonObject) :
    Fits d (d.handleServerHello platform m object) := by
  unfold handleServerHello
  split
  · exact Fits.nothing id
  split
  · exact Fits.comment id (by decide)
  rename_i serverPublicKey hkey
  have hsession := acceptServerHello_named d.handshake d.session platform.crypto (helloObject object)
    serverPublicKey platform.serverId
  split
  · rename_i handshake session haccept
    rw [haccept] at hsession
    exact Fits.comment hsession (by decide)
  · rename_i handshake session haccept
    rw [haccept] at hsession
    have hbounded : Bounded (d.protocol.acceptedHello platform.config m.now).2 :=
      bounded_append (bounded_append (sendEncrypted_bounded _ _) (sendEncrypted_bounded _ _))
        (bounded_log (by decide))
    exact fun h => call_fits hlaw _ m hbounded (hsession h)

theorem handleMessage_fits (hlaw : platform.aead.Lawful) (d : SecureDevice) (m : Moment) (document : JsonObject) :
    Fits d (d.handleMessage platform m document) := by
  unfold handleMessage
  intro hnamed
  refine call_fits hlaw _ m (handleMessage_bounded _ _ _) ?_
  split
  · exact Named.cleared
  · exact hnamed

theorem handleLine_fits (hlaw : platform.aead.Lawful) (d : SecureDevice) (m : Moment) (line : Bytes) :
    Fits d (d.handleLine platform m line) := by
  unfold handleLine
  split
  · exact Fits.comment id (by decide)
  split
  · exact Fits.comment id (by decide)
  · split
    · exact handleServerHello_fits hlaw d m _
    · unfold handleEncryptedFrame
      split
      · exact Fits.comment (fun _ => Named.cleared) (by decide)
      · rename_i session document hopen
        exact fun h => handleMessage_fits hlaw _ m document.members (h.same (openFrame_same hopen))
  · exact Fits.comment id (by decide)

theorem read_fits (hlaw : platform.aead.Lawful) (d : SecureDevice) (m : Moment) (character : UInt8) :
    Fits d (d.read platform m character) := by
  unfold read
  split
  · exact Fits.nothing id
  split
  · split
    · exact handleLine_fits hlaw d m d.inboundLine
    · exact Fits.nothing id
  split
  · exact Fits.nothing id
  split
  · exact Fits.comment id (by decide)
  · exact Fits.nothing id

/-- Two steps, one after the other. -/
theorem Fits.both {d d₁ d₂ : SecureDevice} {first second : List Bytes} (h₁ : Fits d (d₁, first)) (h₂ : Fits d₁ (d₂, second)) :
    Fits d (d₂, first ++ second) := by
  intro hnamed
  obtain ⟨hsession, hfirst⟩ := h₁ hnamed
  obtain ⟨hsession', hsecond⟩ := h₂ hsession
  refine ⟨hsession', fun hmem => ?_⟩
  obtain hmem | hmem := List.mem_append.mp hmem
  · exact hfirst hmem
  · exact hsecond hmem

theorem timers_fits (hlaw : platform.aead.Lawful) (d : SecureDevice) (m : Moment) : Fits d (d.timers platform m) := by
  unfold timers
  split
  · have hreset : Fits d (d.resetHandshake.noteHandshake m,
        [SecureDevice.comment "secure server heartbeat timed out; restarting handshake"]) :=
      Fits.comment (fun _ => Named.cleared) (by decide)
    exact hreset.both (sendHandshake_fits _ m)
  · have hretry : Fits d (d.retry platform m) := by
      unfold retry
      split
      · exact sendHandshake_fits (d.noteHandshake m) m
      · exact Fits.nothing id
    exact (hretry.both (call_fits hlaw _ m (heartbeat_bounded _ _))).both (call_fits hlaw _ m (statusReport_bounded _ _))

theorem step_fits (hlaw : platform.aead.Lawful) (d : SecureDevice) (a : Step) : Fits d (d.step platform a) := by
  cases a with
  | begin m => exact fun _ => sendHandshake_fits d.resetHandshake m Named.cleared
  | read m character => exact read_fits hlaw d m character
  | timers m => exact timers_fits hlaw d m
  | sendGesture m gesture =>
    refine call_fits hlaw d m ?_
    unfold PipaSecureProtocol.sendGesture
    split
    · exact bounded_nil
    split
    · exact bounded_nil
    · exact sendEncrypted_bounded _ _
  | sendTextInput m text source =>
    refine call_fits hlaw d m ?_
    unfold PipaSecureProtocol.sendTextInput
    split
    · exact bounded_nil
    split
    · exact bounded_nil
    · exact sendEncrypted_bounded _ _
  | sendConfirmation m accepted =>
    refine call_fits hlaw d m ?_
    unfold PipaSecureProtocol.sendConfirmation
    split
    · exact bounded_nil
    · exact sendEncrypted_bounded _ _
  | setHardwareCapabilities displayReady touchReady audioProbeReady => exact Fits.nothing id
  | setAudioState state => exact Fits.nothing id
  | setBatteryPercent batteryPercent => exact Fits.nothing id

/-- After every run. -/
theorem run_fits (hlaw : platform.aead.Lawful) (ops : List Step) :
    Named ((machine platform).run ops).session ∧ tooLarge ∉ ((machine platform).outs ops).flatten := by
  induction ops using List.reverseRecOn with
  | nil => exact ⟨Named.cleared, List.not_mem_nil⟩
  | append_singleton pre a ih =>
    obtain ⟨hsession, hlines⟩ := step_fits hlaw ((machine platform).run pre) a ih.1
    rw [Machine.run_concat, Machine.outs_concat, List.flatten_append, List.flatten_cons, List.flatten_nil, List.append_nil]
    refine ⟨hsession, fun hmem => ?_⟩
    obtain hmem | hmem := List.mem_append.mp hmem
    · exact ih.2 hmem
    · exact hlines hmem

end SecureDevice

/-! ## Both ends -/

/-- Sealed records fit their transport. What `SecureSession.seal` returns can be written as a frame; a device that has
counted a record writes it, in every run; and frames are read as they were written, however the stream is cut into
chunks. -/
theorem sealed_records_fit (py : JsonText.Interpreter) (platform : SecurePlatform) (hlaw : platform.aead.Lawful) :
    (∀ (session : SecureSession) (payload data : Bytes),
      (session.CanSeal payload data → ∃ frame, (session.sealRecord platform.aead payload data).2.result = .ok frame) ∧
      ∀ frame, (session.sealRecord platform.aead payload data).2.result = .ok frame →
        ∃ fields line, frame = .dict fields ∧ Link.Tcp.encodeFrame py fields = .ok line ∧
          line.length ≤ Link.Tcp.maxFrameBytes) ∧
    (∀ ops : List SecureDevice.Step,
      let d := ((SecureDevice.machine platform).run ops)
      SecureDevice.tooLarge ∉ ((SecureDevice.machine platform).outs ops).flatten ∧
      ∀ (m : Moment) (document : JsonObject), (serialize (.object document)).length ≤ kMaxPlaintext →
        let r := d.sealDocument platform m document
        (r.1 = d ∧ ∃ text, r.2 = [SecureDevice.comment text] ∧ SecureDevice.comment text ≠ SecureDevice.tooLarge) ∨
        ∃ ciphertext, r.2 = [SecureDevice.frame ciphertext d.session.sendSequence d.session.sessionId] ∧
          (SecureDevice.frame ciphertext d.session.sendSequence d.session.sessionId).length + 1 ≤ kMaxOutboundLine ∧
          r.1 = { d with session := { d.session with sendSequence := d.session.sendSequence + 1 } }) ∧
    ∀ (frames : List Object) (lines chunks : List Bytes) (n : Nat),
      (∀ f ∈ frames, JsonText.Held py (.dict f)) →
      List.Forall₂ (fun f line => Link.Tcp.encodeFrame py f = .ok line) frames lines →
      chunks.flatten = lines.flatten →
      Link.Tcp.readFrames py (frames.length + n) ⟨[], chunks.map some⟩ =
        frames.map (fun f => .ok (some f)) ++ List.replicate n (.ok none) := by
  refine ⟨?_, ?_, ?_⟩
  · intro session payload data
    refine ⟨fun hcan => ⟨_, by rw [SecureSession.sealRecord_ok platform.aead session hcan]⟩, ?_⟩
    intro frame hframe
    obtain ⟨fields, line, hfields, hline⟩ := Link.Tcp.encodeFrame_sealed py hlaw hframe
    exact ⟨fields, line, hfields, hline, (Link.Tcp.encodeFrame_ok hline).2.1⟩
  · intro ops
    obtain ⟨hnamed, hlines⟩ := SecureDevice.run_fits hlaw ops
    exact ⟨hlines, fun m document hlength => SecureDevice.sealDocument_cases hlaw hnamed m hlength⟩
  · intro frames lines chunks n hheld hlines hchunks
    refine Link.Tcp.readFrames_brings hheld hlines n ?_
    rw [← hchunks]
    exact StreamReader.Brings.chunks chunks

/-- A device that knows no server. -/
def lonePlatform : SecurePlatform where
  config := ⟨literal "pipa-1", literal "1.0.0"⟩
  serverId := none
  serverPublicKey := none
  identity := ⟨PipaSecureSession.zeros 32, true⟩
  crypto := .checksum
  aead := .checksum
  isDuplicateFreeJson line := JsonPolicy.isDuplicateFreeJson (some line)
  deserializeJson _ := none

theorem sealed_records_fit_two_frames :
    Link.Tcp.readFrames .default 3 ⟨[], [literal "\x7b\"a\":", literal "1\x7d\n\x7b", literal "\x7d\n"].map some⟩ =
      [.ok (some [(PyStr.ofString "a", .int 1)]), .ok (some []), .ok none] := by
  refine (sealed_records_fit .default lonePlatform Aead.checksum_lawful).2.2 [[(PyStr.ofString "a", .int 1)], []]
    [literal "\x7b\"a\":1\x7d\n", literal "\x7b\x7d\n"] _ 1 ?_ (.cons rfl (.cons rfl .nil)) (by decide)
  intro f hf
  simp only [List.mem_cons, List.not_mem_nil, or_false] at hf
  obtain rfl | rfl := hf
  · exact .dict _ (List.nodup_singleton _) (by simpa using JsonText.Held.int 1)
  · exact .dict _ List.nodup_nil (fun e he => absurd he List.not_mem_nil)

end Pipa.Firmware
