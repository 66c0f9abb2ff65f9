import Pipa.Lib.Scan
import Pipa.Secure.Audio
import Pipa.Secure.Parity

/- The firmware's audio endpoints (`pipa_secure_audio.cpp`) next to those of
   `secure_audio.py`. `Endpoints` is one pair of a sender and a receiver on their
   session; `Corresponds` relates the two sides, and every call keeps it and gives
   the same on both (`Corresponds.step`).

   The `size_t` of the stream bytes never passes the limit of a stream plus one
   chunk and is a number. A C string is the list of its bytes before the NUL. -/
namespace Pipa.Secure
open Pipa.Lib

/-! ## The firmware -/

/-- `PipaSecureAudioFrame`. -/
structure PipaSecureAudioFrame where
  sequence : UInt64
  audioProtocolVersion : UInt8
  bitsPerSample : UInt8
  channels : UInt8
  chunkIndex : UInt16
  final : Bool
  sampleRate : UInt32
  streamId : Bytes
  ciphertext : Bytes

structure PipaSecureAudioSender where
  streamId : Bytes
  nextChunk : UInt16
  streamBytes : Nat
  valid : Bool
  finished : Bool

namespace PipaSecureAudioSender

/-- The constructor: an invalid stream id is not copied. -/
def start (streamId : Bytes) : PipaSecureAudioSender :=
  if Firmware.validStreamId streamId then ⟨streamId, 0, 0, true, false⟩ else ⟨[], 0, 0, false, false⟩

/-- What a call gives back, and the encryption it made. -/
structure Sealed where
  encryption : Option Encryption
  result : Option PipaSecureAudioFrame

/-- `sealChunk`. -/
def sealChunk (aead : Aead) (s : PipaSecureSession) (a : PipaSecureAudioSender) (samples : Bytes) (final : Bool) :
    PipaSecureSession × PipaSecureAudioSender × Sealed :=
  if !a.valid || a.finished || !s.ready || !validSamples samples || a.nextChunk.toNat ≥ maxAudioChunks ||
      a.streamBytes + samples.length > maxAudioStreamBytes ||
      (a.nextChunk.toNat = maxAudioChunks - 1 && !final) then
    (s, a, ⟨none, none⟩)
  else match Firmware.buildAdditionalData a.streamId a.nextChunk final Firmware.maxAdditionalDataBytes with
    | none => (s, a, ⟨none, none⟩)
    | some data =>
      match s.sealRecord aead samples data (some (maxAudioChunkBytes + 16)) with
      | (s', ⟨encryption, none⟩) => (s', a, ⟨encryption, none⟩)
      | (s', ⟨encryption, some ciphertext⟩) =>
        (s', { a with
                nextChunk := a.nextChunk + 1
                streamBytes := a.streamBytes + samples.length
                finished := final },
         ⟨encryption, some
           { sequence := s.sendSequence
             audioProtocolVersion := 2
             bitsPerSample := 16
             channels := 1
             chunkIndex := a.nextChunk
             final := final
             sampleRate := 16000
             streamId := a.streamId
             ciphertext := ciphertext }⟩)

/-- `cancel`. -/
def cancel (a : PipaSecureAudioSender) : PipaSecureAudioSender :=
  { a with nextChunk := 0, streamBytes := 0, finished := true }

end PipaSecureAudioSender

structure PipaSecureAudioReceiver where
  streamId : Bytes
  nextChunk : UInt16
  streamBytes : Nat
  hasStream : Bool
  finished : Bool

namespace PipaSecureAudioReceiver

/-- A new receiver, and what `cancel` leaves. -/
def start : PipaSecureAudioReceiver := ⟨[], 0, 0, false, false⟩

/-- `openChunk`, into a buffer of `outputCapacity` bytes; `none` for a null one. -/
def openChunk (aead : Aead) (s : PipaSecureSession) (a : PipaSecureAudioReceiver) (frame : PipaSecureAudioFrame)
    (outputCapacity : Option Nat) : PipaSecureSession × PipaSecureAudioReceiver × Option Bytes :=
  if outputCapacity.isNone || !s.ready || a.finished || frame.audioProtocolVersion != 2 ||
      frame.bitsPerSample != 16 || frame.channels != 1 || frame.sampleRate != 16000 ||
      frame.chunkIndex.toNat ≥ maxAudioChunks || frame.sequence != s.receiveSequence ||
      frame.ciphertext.length < 16 || frame.ciphertext.length > maxAudioChunkBytes + 16 ||
      !Firmware.validStreamId frame.streamId || (!a.hasStream && frame.chunkIndex != 0) ||
      (a.hasStream && frame.streamId != a.streamId) || frame.chunkIndex != a.nextChunk then
    (.cleared, start, none)
  else if outputCapacity.any (fun n => frame.ciphertext.length - 16 > n) then (.cleared, start, none)
  else match Firmware.buildAdditionalData frame.streamId frame.chunkIndex frame.final
      Firmware.maxAdditionalDataBytes with
    | none => (.cleared, start, none)
    | some data =>
      match s.openRecord aead frame.sequence frame.ciphertext data outputCapacity with
      | (_, none) => (.cleared, start, none)
      | (s', some output) =>
        if !validSamples output || a.streamBytes + output.length > maxAudioStreamBytes then
          (.cleared, start, none)
        else
          (s', ⟨frame.streamId, a.nextChunk + 1, a.streamBytes + output.length, true, frame.final⟩, some output)

/-- `cancel`. -/
def cancel (_ : PipaSecureAudioReceiver) : PipaSecureAudioReceiver := start

/-- `close`. -/
def close (_ : PipaSecureSession) (_ : PipaSecureAudioReceiver) : PipaSecureSession × PipaSecureAudioReceiver :=
  (.cleared, start)

end PipaSecureAudioReceiver

/-! ## Frames -/

/-- The frame as the other side has it: a dictionary, with the stream id as a text. -/
def PipaSecureAudioFrame.asObject (x : PipaSecureAudioFrame) (sessionId streamId : PyStr) : Object :=
  SecureSession.sealedFrame sessionId x.sequence.toNat x.ciphertext ++
    [(PyStr.ofString "audio_protocol_version", .int x.audioProtocolVersion.toNat),
     (PyStr.ofString "bits_per_sample", .int x.bitsPerSample.toNat),
     (PyStr.ofString "channels", .int x.channels.toNat),
     (PyStr.ofString "chunk_index", .int x.chunkIndex.toNat),
     (PyStr.ofString "final", .bool x.final),
     (PyStr.ofString "sample_rate", .int x.sampleRate.toNat),
     (PyStr.ofString "stream_id", .str streamId)]

/-- Both sides admit the same stream ids. -/
theorem validStreamId_iff (s : PyStr) : Firmware.validStreamId s.bytes = isStreamId s := by
  cases hs : isStreamId s with
  | true => exact (validStreamId_bytes hs).1
  | false =>
    apply Bool.eq_false_iff.mpr
    intro hvalid
    simp only [Firmware.validStreamId, Bool.and_eq_true, decide_eq_true_eq] at hvalid
    obtain ⟨⟨hne, hlength⟩, hall⟩ := hvalid
    have hmax : Firmware.maxStreamIdLength = 64 := rfl
    have hid : isIdentifier s = true := by
      rw [← validIdentifier_bytes]
      simp only [validIdentifier, Bool.and_eq_true, decide_eq_true_eq]
      exact ⟨⟨hne, by omega⟩, hall⟩
    have hlen : s.bytes.length = s.length := by rw [(isIdentifier_plain hid).ascii.bytes_eq, List.length_map]
    simp only [isIdentifier, Bool.and_eq_true, decide_eq_true_eq] at hid
    have hstream : isStreamId s = true := by
      simp only [isStreamId, Bool.and_eq_true, decide_eq_true_eq]
      exact ⟨⟨hid.1.1, by omega⟩, hid.2⟩
    rw [hs] at hstream
    cases hstream

/-! ## Corresponding states -/

structure SenderPaired (a : SecureAudioSender) (b : PipaSecureAudioSender) : Prop where
  valid : b.valid = true
  streamId : b.streamId = a.streamId.bytes
  next : b.nextChunk.toNat = a.nextChunk
  bytes : b.streamBytes = a.streamBytes
  finished : b.finished = a.finished
  room : a.nextChunk ≤ maxAudioChunks

structure ReceiverPaired (a : SecureAudioReceiver) (b : PipaSecureAudioReceiver) : Prop where
  hasStream : b.hasStream = a.streamId.isSome
  streamId : ∀ t, a.streamId = some t → b.streamId = t.bytes ∧ isStreamId t = true
  next : b.nextChunk.toNat = a.nextChunk
  bytes : b.streamBytes = a.streamBytes
  finished : b.finished = a.finished
  first : a.streamId = none ↔ a.nextChunk = 0
  room : a.nextChunk ≤ maxAudioChunks

/-- Open with the same keys and counters, or closed and cleared. -/
def SessionsMatch (p : SecureSession) (f : PipaSecureSession) : Prop :=
  Paired p f ∨ (p.closed = true ∧ f.ready = false)

theorem SenderPaired.start {streamId : PyStr} (h : isStreamId streamId = true) :
    SenderPaired (.start streamId h) (.start streamId.bytes) := by
  rw [PipaSecureAudioSender.start, validStreamId_iff, h]
  exact ⟨rfl, rfl, rfl, rfl, rfl, Nat.zero_le _⟩

theorem ReceiverPaired.start : ReceiverPaired .start .start :=
  ⟨rfl, nofun, rfl, rfl, rfl, ⟨fun _ => rfl, fun _ => rfl⟩, Nat.zero_le _⟩

theorem SessionsMatch.closed (p : SecureSession) : SessionsMatch p.close .cleared := Or.inr ⟨rfl, rfl⟩

/-- The index after one more chunk. -/
theorem toNat_nextChunk {n : UInt16} {m : Nat} (hn : n.toNat = m) (hm : m < maxAudioChunks) : (n + 1).toNat = m + 1 := by
  have hmax : maxAudioChunks = 64 := rfl
  rw [UInt16.toNat_add, hn]
  simp only [UInt16.toNat_ofNat, Nat.reducePow, Nat.reduceMod]
  omega

/-! ## Senders -/

section
variable {aead : Aead} {p : SecureSession} {f : PipaSecureSession}

namespace SecureAudioSender

/-- Any other chunk is refused. -/
theorem prepare_fails {a : SecureAudioSender} {samples : Bytes} {final : Bool} (h : ¬ a.CanSend samples final) :
    ∃ e, a.prepare samples final = .error e := by
  unfold prepare
  split
  · exact ⟨_, rfl⟩
  split
  · exact ⟨_, rfl⟩
  split
  · exact ⟨_, rfl⟩
  split
  · exact ⟨_, rfl⟩
  split
  · exact ⟨_, rfl⟩
  · rename_i hunfinished hroom hvalid hsize hlast
    refine absurd ⟨by simpa using hunfinished, by omega, by simpa using hvalid, by omega, ?_⟩ h
    intro heq
    simpa [heq] using hlast

end SecureAudioSender

/-- The guard of the firmware's `sealChunk` is that of `seal_chunk`. -/
theorem SenderPaired.canSend {a : SecureAudioSender} {b : PipaSecureAudioSender} (h : SenderPaired a b)
    {samples : Bytes} {final : Bool} :
    (!b.valid || b.finished || !f.ready || !validSamples samples || decide (b.nextChunk.toNat ≥ maxAudioChunks) ||
      decide (b.streamBytes + samples.length > maxAudioStreamBytes) ||
      (decide (b.nextChunk.toNat = maxAudioChunks - 1) && !final)) = true ↔
    ¬ (f.ready = true ∧ a.CanSend samples final) := by
  rw [h.valid, h.finished, h.next, h.bytes, ← not_iff_not, not_not, Bool.not_eq_true]
  simp only [Bool.or_eq_false_iff, Bool.not_eq_false', Bool.and_eq_false_iff, decide_eq_false_iff_not]
  constructor
  · rintro ⟨⟨⟨⟨⟨⟨-, hunfinished⟩, hready⟩, hvalid⟩, hroom⟩, hsize⟩, hlast⟩
    refine ⟨hready, hunfinished, by omega, hvalid, by omega, ?_⟩
    intro heq
    exact hlast.resolve_left (fun hne => hne heq)
  · rintro ⟨hready, hunfinished, hroom, hvalid, hsize, hlast⟩
    refine ⟨⟨⟨⟨⟨⟨trivial, hunfinished⟩, hready⟩, hvalid⟩, by omega⟩, by omega⟩, ?_⟩
    by_cases heq : a.nextChunk = maxAudioChunks - 1
    · exact Or.inr (hlast heq)
    · exact Or.inl heq

/-- The same encryption is made on both sides. -/
theorem Paired.encryptionOf_eq (h : Paired p f) (payload additionalData : Bytes) :
    f.encryptionOf aead payload additionalData = p.encryptionOf aead payload additionalData := by
  simp only [PipaSecureSession.encryptionOf, SecureSession.encryptionOf, h.headerFor h.send, h.sendKey,
    h.sendNoncePrefix, h.send]

/-- The same encryption, and the same frame. -/
def SealedAgree (sessionId streamId : PyStr) (python : Sealed) (firmware : PipaSecureAudioSender.Sealed) : Prop :=
  python.encryption = firmware.encryption ∧
  match firmware.result with
  | none => ∃ e, python.result = .error e
  | some x => x.streamId = streamId.bytes ∧ python.result = .ok (x.asObject sessionId streamId)

/-- A call that fails on both sides leaves both as they were. -/
theorem SenderPaired.sealChunk_fails (aead : Aead) {a : SecureAudioSender} {b : PipaSecureAudioSender} {samples : Bytes}
    {final : Bool} (hp : SessionsMatch p f) (h : SenderPaired a b)
    (hnot : ¬ (p.closed = false ∧ a.CanSend samples final)) :
    (∃ e, a.sealChunk aead p samples final = (p, a, ⟨none, .error e⟩)) ∧
      b.sealChunk aead f samples final = (f, b, ⟨none, none⟩) := by
  have hready : f.ready = !p.closed := by
    obtain hpair | ⟨hclosed, hready⟩ := hp
    · rw [hpair.live, hpair.ready]
      rfl
    · rw [hclosed, hready]
      rfl
  constructor
  · unfold SecureAudioSender.sealChunk
    by_cases hcan : a.CanSend samples final
    · have hclosed : p.closed = true := by
        cases hc : p.closed with
        | false => exact absurd ⟨hc, hcan⟩ hnot
        | true => rfl
      have hfails : ¬ p.CanSeal samples (chunkData a.streamId a.nextChunk final) := by
        intro hseal
        rw [hseal.live] at hclosed
        cases hclosed
      obtain ⟨e, he, -⟩ := SecureSession.sealRecord_fails aead p hfails
      rw [SecureAudioSender.prepare_eq hcan]
      simp only [hcan.place.additionalData_eq, he]
      exact ⟨_, rfl⟩
    · obtain ⟨e, he⟩ := SecureAudioSender.prepare_fails hcan
      rw [he]
      exact ⟨e, rfl⟩
  · unfold PipaSecureAudioSender.sealChunk
    refine if_pos (h.canSend.mpr ?_)
    rw [hready]
    rintro ⟨hlive, hcan⟩
    exact hnot ⟨by simpa using hlive, hcan⟩

theorem SenderPaired.sealStep (aead : Aead) {a : SecureAudioSender} {b : PipaSecureAudioSender} (hp : SessionsMatch p f)
    (h : SenderPaired a b) (samples : Bytes) (final : Bool) (hlt : p.sendSequence < maxSequence) :
    SealedAgree p.sessionId a.streamId (a.sealChunk aead p samples final).2.2 (b.sealChunk aead f samples final).2.2 ∧
      SessionsMatch (a.sealChunk aead p samples final).1 (b.sealChunk aead f samples final).1 ∧
      SenderPaired (a.sealChunk aead p samples final).2.1 (b.sealChunk aead f samples final).2.1 := by
  by_cases hcan : p.closed = false ∧ a.CanSend samples final
  · obtain ⟨hlive, hcan⟩ := hcan
    have hpair : Paired p f := by
      obtain hpair | ⟨hclosed, -⟩ := hp
      · exact hpair
      · rw [hlive] at hclosed
        cases hclosed
    have hplace := hcan.place
    have hindex : b.nextChunk.toNat = a.nextChunk := h.next
    have hindex' : UInt16.ofNat a.nextChunk = b.nextChunk := by rw [← hindex, UInt16.ofNat_toNat]
    have hbuild : Firmware.buildAdditionalData b.streamId b.nextChunk final Firmware.maxAdditionalDataBytes =
        some (chunkData a.streamId a.nextChunk final) := by
      rw [h.streamId, chunkData, hindex']
      exact buildAdditionalData_eq hplace.stream (by rw [hindex]; exact hplace.index)
        (by rw [hindex]; exact hplace.last) (by decide)
    have hsize := (validSamples_iff.mp hcan.valid).2.1
    have hseal : f.CanSeal samples (chunkData a.streamId a.nextChunk final) (some (maxAudioChunkBytes + 16)) := by
      refine ⟨hpair.ready, Nat.le_trans hsize (by decide), Nat.le_trans hplace.length_le (by decide), ?_,
        ne_kMaxSequence hpair.send hlt⟩
      simp only [Option.any_some, decide_eq_true_eq]
      omega
    rw [SecureAudioSender.sealChunk_ok aead hcan hlive (by omega)]
    unfold PipaSecureAudioSender.sealChunk
    rw [if_neg (fun hguard => h.canSend.mp hguard ⟨hpair.ready, hcan⟩)]
    simp only [hbuild, PipaSecureSession.sealRecord_ok hseal, hpair.encryptionOf_eq]
    refine ⟨⟨rfl, h.streamId, ?_⟩, Or.inl ?_, ?_⟩
    · simp only [PipaSecureAudioFrame.asObject, hpair.send, hindex]
      rfl
    · exact ⟨hpair.live, hpair.ready, hpair.sessionId, hpair.sendKey, hpair.receiveKey, hpair.sendNoncePrefix,
        hpair.receiveNoncePrefix, toNat_succ hpair.send hlt, hpair.receive⟩
    · refine ⟨h.valid, h.streamId, toNat_nextChunk hindex hplace.index, ?_, rfl, hplace.index⟩
      simp only [SecureAudioSender.sent, h.bytes]
  · obtain ⟨⟨e, hpython⟩, hfirmware⟩ := h.sealChunk_fails aead hp hcan
    rw [hpython, hfirmware]
    exact ⟨⟨rfl, e, rfl⟩, hp, h⟩

/-! ## Receivers -/

/-- What both sides ask of a frame before they decrypt it. -/
structure Fits (a : SecureAudioReceiver) (x : PipaSecureAudioFrame) (streamId : PyStr) : Prop where
  version : x.audioProtocolVersion = 2
  bits : x.bitsPerSample = 16
  channels : x.channels = 1
  rate : x.sampleRate = 16000
  place : Place streamId a.nextChunk x.final
  unfinished : a.finished = false
  stream : a.streamId = (if a.nextChunk = 0 then none else some streamId)
  order : x.chunkIndex.toNat = a.nextChunk

theorem Fits.asObject_eq {a : SecureAudioReceiver} {x : PipaSecureAudioFrame} {streamId : PyStr} (h : Fits a x streamId)
    (sessionId : PyStr) : x.asObject sessionId streamId =
      chunkFrame sessionId x.sequence.toNat x.ciphertext streamId a.nextChunk x.final := by
  unfold PipaSecureAudioFrame.asObject
  rw [h.version, h.bits, h.channels, h.rate, h.order]
  rfl

namespace SecureAudioReceiver

/-- A frame that is let through belongs to the stream. -/
theorem expect_stream {a : SecureAudioReceiver} {frame metadata : Object} {streamId : PyStr} {final : Bool}
    (h : a.expect frame = .ok (metadata, streamId, final)) : ∀ t, a.streamId = some t → t = streamId := by
  unfold expect at h
  split at h
  · cases h
  split at h
  · cases h
  simp only at h
  split at h
  · split at h
    · cases h
    split at h
    · cases h
    split at h
    · cases h
    rename_i hsame
    split at h
    · cases h
    · obtain ⟨-, hid⟩ := Prod.mk.inj (Except.ok.inj h)
      obtain ⟨rfl, -⟩ := Prod.mk.inj hid
      intro t ht
      simpa [ht] using hsame
  · cases h

variable {a : SecureAudioReceiver} {x : PipaSecureAudioFrame} {streamId : PyStr}

theorem expect_fits (h : Fits a x streamId) (sessionId : PyStr) : a.expect (x.asObject sessionId streamId) =
    .ok (audioMetadata streamId a.nextChunk x.final, streamId, x.final) := by
  rw [h.asObject_eq]
  exact expect_chunkFrame h.place h.unfinished h.stream _ _ _

theorem fits_of_expect {sessionId streamId' : PyStr} {metadata : Object} {final : Bool}
    (hfirst : a.streamId = none ↔ a.nextChunk = 0)
    (h : a.expect (x.asObject sessionId streamId) = .ok (metadata, streamId', final)) : Fits a x streamId := by
  obtain ⟨-, -, hplace, hunfinished, hid, hindex, hfinal, hformat⟩ := expect_ok h
  have hstream := expect_stream h
  obtain rfl : streamId = streamId' := Value.str.inj (Option.some.inj hid)
  obtain rfl : x.final = final := Value.bool.inj (Option.some.inj hfinal)
  have horder : (x.chunkIndex.toNat : Int) = a.nextChunk := Value.int.inj (Option.some.inj hindex)
  have hequals : ∀ (e : PyStr × Int) (n : Nat), e ∈ formatFields →
      (x.asObject sessionId streamId).get? e.1 = some (.int n) → (n : Int) = e.2 := by
    intro e n he hget
    have := hformat e he
    rw [hget] at this
    simpa [Value.equalsInt] using this
  have hversion := hequals (PyStr.ofString "audio_protocol_version", audioProtocolVersion) _ (by decide) rfl
  have hbits := hequals (PyStr.ofString "bits_per_sample", audioBitsPerSample) _ (by decide) rfl
  have hchannels := hequals (PyStr.ofString "channels", audioChannels) _ (by decide) rfl
  have hrate := hequals (PyStr.ofString "sample_rate", audioSampleRate) _ (by decide) rfl
  simp only [audioProtocolVersion, audioBitsPerSample, audioChannels, audioSampleRate] at hversion hbits hchannels hrate
  refine ⟨UInt8.toNat_inj.mp ?_, UInt8.toNat_inj.mp ?_, UInt8.toNat_inj.mp ?_, UInt32.toNat_inj.mp ?_, hplace,
    hunfinished, ?_, by omega⟩
  · exact Int.ofNat.inj hversion
  · exact Int.ofNat.inj hbits
  · exact Int.ofNat.inj hchannels
  · exact Int.ofNat.inj hrate
  · split
    · rename_i h0
      exact hfirst.mpr h0
    · rename_i h0
      cases ha : a.streamId with
      | none => exact absurd (hfirst.mp ha) h0
      | some t => rw [hstream t ha]

/-- A frame that does not fit is refused. -/
theorem openChunk_unfit (aead : Aead) (s : SecureSession) (hfirst : a.streamId = none ↔ a.nextChunk = 0)
    (h : ¬ Fits a x streamId) (sessionId : PyStr) :
    ∃ e, openChunk aead s a (x.asObject sessionId streamId) = (s.close, .start, .error e) := by
  unfold openChunk
  cases hexpect : a.expect (x.asObject sessionId streamId) with
  | error e => exact ⟨e, rfl⟩
  | ok expected => exact absurd (fits_of_expect hfirst hexpect) h

/-- A record that does not open is refused. -/
theorem openChunk_unopened (aead : Aead) (s : SecureSession) (h : Fits a x streamId) (sessionId : PyStr)
    {e : RecordError} (hopen : (s.openRecord aead (.dict (SecureSession.sealedFrame sessionId x.sequence.toNat x.ciphertext))
      (chunkData streamId a.nextChunk x.final)).2 = .error e) :
    ∃ e, openChunk aead s a (x.asObject sessionId streamId) = (s.close, .start, .error e) := by
  unfold openChunk
  rw [expect_fits h]
  simp only [h.place.additionalData_eq, h.asObject_eq]
  obtain ⟨e', herror⟩ | ⟨payload, hok⟩ := SecureSession.openRecord_cases aead s
    (.dict (SecureSession.sealedFrame sessionId x.sequence.toNat x.ciphertext)) (chunkData streamId a.nextChunk x.final)
  · have hne := SecureSession.openRecord_no_overflow aead s
      (.dict (SecureSession.sealedFrame sessionId x.sequence.toNat x.ciphertext))
      (chunkData streamId a.nextChunk x.final)
    have hsame : s.openRecord aead (.dict (chunkFrame sessionId x.sequence.toNat x.ciphertext streamId a.nextChunk
        x.final)) (chunkData streamId a.nextChunk x.final) = (s, .error e') := herror
    rw [herror] at hne
    simp only [hsame]
    cases e' <;> first | exact absurd rfl hne | exact ⟨_, rfl⟩
  · rw [hok] at hopen
    cases hopen

/-- A record that opens gives the chunk, if its size is valid. -/
theorem openChunk_opened (aead : Aead) (s : SecureSession) (h : Fits a x streamId) (sessionId : PyStr)
    {s' : SecureSession} {payload : Bytes}
    (hopen : s.openRecord aead (.dict (SecureSession.sealedFrame sessionId x.sequence.toNat x.ciphertext))
      (chunkData streamId a.nextChunk x.final) = (s', .ok payload)) :
    (validSamples payload = true ∧ a.streamBytes + payload.length ≤ maxAudioStreamBytes ∧
      openChunk aead s a (x.asObject sessionId streamId) =
        (s', ⟨some streamId, a.nextChunk + 1, a.streamBytes + payload.length, x.final⟩, .ok payload)) ∨
    (¬ (validSamples payload = true ∧ a.streamBytes + payload.length ≤ maxAudioStreamBytes) ∧
      ∃ e, openChunk aead s a (x.asObject sessionId streamId) = (s'.close, .start, .error e)) := by
  have hsame : s.openRecord aead (.dict (chunkFrame sessionId x.sequence.toNat x.ciphertext streamId a.nextChunk
      x.final)) (chunkData streamId a.nextChunk x.final) = (s', .ok payload) := hopen
  unfold openChunk
  rw [expect_fits h]
  simp only [h.place.additionalData_eq, h.asObject_eq, hsame]
  cases hvalid : validSamples payload with
  | false => exact Or.inr ⟨fun hand => absurd hand.1 Bool.false_ne_true, _, rfl⟩
  | true =>
    by_cases hsize : a.streamBytes + payload.length > maxAudioStreamBytes
    · refine Or.inr ⟨fun hand => absurd hand.2 (Nat.not_le.mpr hsize), .tooLarge, ?_⟩
      rw [if_neg (by simp), if_pos hsize]
    · refine Or.inl ⟨rfl, Nat.not_lt.mp hsize, ?_⟩
      rw [if_neg (by simp), if_neg hsize]

end SecureAudioReceiver

/-- What the firmware asks besides: the record is the next one, and its size is one of a chunk. -/
structure Takes (f : PipaSecureSession) (a : SecureAudioReceiver) (x : PipaSecureAudioFrame) (streamId : PyStr) :
    Prop where
  ready : f.ready = true
  fits : Fits a x streamId
  sequence : x.sequence = f.receiveSequence
  short : 16 ≤ x.ciphertext.length
  long : x.ciphertext.length ≤ maxAudioChunkBytes + 16

section
variable {a : SecureAudioReceiver} {b : PipaSecureAudioReceiver} {x : PipaSecureAudioFrame} {streamId : PyStr}

theorem buildAdditionalData_some {id data : Bytes} {i : UInt16} {final : Bool} {capacity : Nat}
    (h : Firmware.buildAdditionalData id i final capacity = some data) : i.toNat = maxAudioChunks - 1 → final = true := by
  intro heq
  unfold Firmware.buildAdditionalData at h
  split at h
  · cases h
  split at h
  · cases h
  · rename_i hlast
    simpa [heq] using hlast

theorem ReceiverPaired.openChunk_refused (aead : Aead) (h : ReceiverPaired a b)
    (hid : x.streamId = streamId.bytes) (capacity : Nat)
    (hnot : ¬ Takes f a x streamId) : b.openChunk aead f x (some capacity) = (.cleared, .start, none) := by
  unfold PipaSecureAudioReceiver.openChunk
  split
  · rfl
  rename_i hguard
  split
  · rfl
  split
  · rfl
  rename_i data hdata
  refine absurd ?_ hnot
  simp only [Option.isNone_some, Bool.false_or, Bool.or_eq_true, Bool.not_eq_true', decide_eq_true_eq, bne_iff_ne,
    Bool.and_eq_true, not_or, not_not, Bool.not_eq_false, hid, validStreamId_iff] at hguard
  obtain ⟨⟨⟨⟨⟨⟨⟨⟨⟨⟨⟨⟨⟨hready, hunfinished⟩, hversion⟩, hbits⟩, hchannels⟩, hrate⟩, hindex⟩, hsequence⟩, hshort⟩, hlong⟩,
    hstream⟩, hstart⟩, hsame⟩, horder⟩ := hguard
  have hnext : x.chunkIndex.toNat = a.nextChunk := by rw [horder, h.next]
  refine ⟨hready, ⟨hversion, hbits, hchannels, hrate, ⟨hstream, by omega, ?_⟩, ?_, ?_, hnext⟩, hsequence, by omega,
    by omega⟩
  · intro heq
    exact buildAdditionalData_some hdata (hnext.trans heq)
  · rw [← h.finished]
    simpa using hunfinished
  · rw [h.hasStream] at hstart hsame
    cases ha : a.streamId with
    | none => rw [if_pos (h.first.mp ha)]
    | some t =>
      have hne : a.nextChunk ≠ 0 := by
        intro h0
        rw [h.first.mpr h0] at ha
        cases ha
      rw [if_neg hne]
      obtain ⟨hb, ht⟩ := h.streamId t ha
      have hbytes : streamId.bytes = t.bytes := by simpa [ha, hb] using hsame
      rw [(isStreamId_plain hstream).ascii.bytes_inj (isStreamId_plain ht).ascii hbytes]

theorem ReceiverPaired.openChunk_taken (aead : Aead) (h : ReceiverPaired a b) (hid : x.streamId = streamId.bytes) {capacity : Nat}
    (hcapacity : maxAudioChunkBytes ≤ capacity) (htakes : Takes f a x streamId) :
    b.openChunk aead f x (some capacity) =
      match f.openRecord aead x.sequence x.ciphertext (chunkData streamId a.nextChunk x.final) (some capacity) with
      | (_, none) => (.cleared, .start, none)
      | (f', some output) =>
        if !validSamples output || decide (a.streamBytes + output.length > maxAudioStreamBytes) then
          (.cleared, .start, none)
        else (f', ⟨x.streamId, b.nextChunk + 1, a.streamBytes + output.length, true, x.final⟩, some output) := by
  obtain ⟨hready, hfits, hsequence, hshort, hlong⟩ := htakes
  have hplace := hfits.place
  have horder : x.chunkIndex = b.nextChunk := UInt16.toNat_inj.mp (hfits.order.trans h.next.symm)
  have hzero : a.nextChunk = 0 → x.chunkIndex = 0 := fun h0 => UInt16.toNat_inj.mp (hfits.order.trans h0)
  have hguard : ¬ ((some capacity).isNone || !f.ready || b.finished || x.audioProtocolVersion != 2 ||
      x.bitsPerSample != 16 || x.channels != 1 || x.sampleRate != 16000 ||
      decide (x.chunkIndex.toNat ≥ maxAudioChunks) || x.sequence != f.receiveSequence ||
      decide (x.ciphertext.length < 16) || decide (x.ciphertext.length > maxAudioChunkBytes + 16) ||
      !Firmware.validStreamId x.streamId || (!b.hasStream && x.chunkIndex != 0) ||
      (b.hasStream && x.streamId != b.streamId) || x.chunkIndex != b.nextChunk) = true := by
    simp only [Option.isNone_some, Bool.false_or, Bool.or_eq_true, Bool.not_eq_true', decide_eq_true_eq, bne_iff_ne,
      Bool.and_eq_true, not_or, not_not, Bool.not_eq_false, hid, validStreamId_iff, hfits.order, h.finished, not_and]
    have hstream := hfits.stream
    refine ⟨⟨⟨⟨⟨⟨⟨⟨⟨⟨⟨⟨⟨hready, by simp [hfits.unfinished]⟩, hfits.version⟩, hfits.bits⟩, hfits.channels⟩, hfits.rate⟩,
      Nat.not_le.mpr hplace.index⟩, hsequence⟩, Nat.not_lt.mpr hshort⟩, Nat.not_lt.mpr hlong⟩, hplace.stream⟩, ?_⟩, ?_⟩,
      horder⟩
    · intro hnone
      apply hzero
      rw [h.hasStream] at hnone
      exact h.first.mp (Option.isSome_eq_false_iff.mp hnone |> Option.isNone_iff_eq_none.mp)
    · intro hsome
      rw [h.hasStream] at hsome
      obtain ⟨t, ht⟩ := Option.isSome_iff_exists.mp hsome
      have hne : a.nextChunk ≠ 0 := by
        intro h0
        rw [h.first.mpr h0] at ht
        cases ht
      rw [ht, if_neg hne] at hstream
      rw [(h.streamId t ht).1, Option.some.inj hstream]
  have hfit : ¬ ((some capacity).any (fun n => x.ciphertext.length - 16 > n)) = true := by
    simp only [Option.any_some, decide_eq_true_eq]
    omega
  have hindex' : UInt16.ofNat a.nextChunk = x.chunkIndex := by rw [← hfits.order, UInt16.ofNat_toNat]
  have hbuild : Firmware.buildAdditionalData x.streamId x.chunkIndex x.final Firmware.maxAdditionalDataBytes =
      some (chunkData streamId a.nextChunk x.final) := by
    rw [hid, chunkData, hindex']
    exact buildAdditionalData_eq hplace.stream (by rw [hfits.order]; exact hplace.index)
      (by rw [hfits.order]; exact hplace.last) (by decide)
  unfold PipaSecureAudioReceiver.openChunk
  rw [if_neg hguard, if_neg hfit, hbuild, h.bytes]

/-- The output buffer does not matter once it is large enough. -/
theorem PipaSecureSession.openRecord_capacity {sequence : UInt64} {ciphertext additionalData : Bytes} {m n : Nat}
    (hm : ciphertext.length - 16 ≤ m) (hn : ciphertext.length - 16 ≤ n) :
    f.openRecord aead sequence ciphertext additionalData (some m) =
      f.openRecord aead sequence ciphertext additionalData (some n) := by
  unfold PipaSecureSession.openRecord
  simp only [Option.any_some, decide_eq_true hm, decide_eq_true hn]

theorem PipaSecureSession.openRecord_length (hlaw : aead.Lawful) {sequence : UInt64}
    {ciphertext additionalData output : Bytes} {capacity : Option Nat}
    (h : (f.openRecord aead sequence ciphertext additionalData capacity).2 = some output) :
    sequence = f.receiveSequence ∧ ciphertext.length = output.length + 16 := by
  unfold PipaSecureSession.openRecord at h
  split at h
  · cases h
  rename_i hguard
  split at h
  · cases h
  rename_i hdecrypt
  obtain rfl := Option.some.inj h
  simp only [Bool.or_eq_true, bne_iff_ne, not_or, not_not] at hguard
  exact ⟨hguard.1.2, hlaw.decrypt_length _ _ _ _ _ hdecrypt⟩

theorem ReceiverPaired.openStep (hlaw : aead.Lawful) (hp : SessionsMatch p f) (h : ReceiverPaired a b)
    (hid : x.streamId = streamId.bytes) {capacity : Nat} (hcapacity : maxAudioChunkBytes ≤ capacity)
    (hlt : p.receiveSequence < maxSequence) :
    (a.openChunk aead p (x.asObject p.sessionId streamId)).2.2.toOption = (b.openChunk aead f x (some capacity)).2.2 ∧
      SessionsMatch (a.openChunk aead p (x.asObject p.sessionId streamId)).1 (b.openChunk aead f x (some capacity)).1 ∧
      ReceiverPaired (a.openChunk aead p (x.asObject p.sessionId streamId)).2.1
        (b.openChunk aead f x (some capacity)).2.1 := by
  -- what both sides do when they refuse
  have hrefused {r : SecureSession × SecureAudioReceiver × Except AudioError Bytes}
      {t : PipaSecureSession × PipaSecureAudioReceiver × Option Bytes} {s' : SecureSession} {e : AudioError}
      (hr : r = (s'.close, .start, .error e)) (ht : t = (.cleared, .start, none)) :
      r.2.2.toOption = t.2.2 ∧ SessionsMatch r.1 t.1 ∧ ReceiverPaired r.2.1 t.2.1 := by
    rw [hr, ht]
    exact ⟨rfl, SessionsMatch.closed s', ReceiverPaired.start⟩
  by_cases hfits : Fits a x streamId
  · obtain hpair | ⟨hclosed, hready⟩ := hp
    · have hdata : (chunkData streamId a.nextChunk x.final).length ≤ 1024 :=
        Nat.le_trans hfits.place.length_le (by decide)
      obtain ⟨hagree, hpair'⟩ := hpair.openStep hlaw x.sequence x.ciphertext hdata hlt
      simp only [jointStep, JointOut.Agrees] at hagree hpair'
      by_cases htakes : Takes f a x streamId
      · have hlong := htakes.long
        have hrecord : f.openRecord aead x.sequence x.ciphertext (chunkData streamId a.nextChunk x.final)
            (some capacity) = f.openRecord aead x.sequence x.ciphertext (chunkData streamId a.nextChunk x.final)
              (some (maxRecordBytes + 16)) :=
          PipaSecureSession.openRecord_capacity (by omega) (by simp only [maxAudioChunkBytes, maxRecordBytes] at *; omega)
        have hfirmware := h.openChunk_taken aead hid hcapacity htakes
        rw [hrecord] at hfirmware
        cases hopen : p.openRecord aead (.dict (SecureSession.sealedFrame p.sessionId x.sequence.toNat x.ciphertext))
            (chunkData streamId a.nextChunk x.final) with
        | mk p' result =>
          cases hopen' : f.openRecord aead x.sequence x.ciphertext (chunkData streamId a.nextChunk x.final)
              (some (maxRecordBytes + 16)) with
          | mk f' output =>
            rw [hopen, hopen'] at hagree hpair'
            rw [hopen'] at hfirmware
            cases result with
            | error e =>
              obtain rfl : none = output := hagree
              obtain ⟨e', hpython⟩ := SecureAudioReceiver.openChunk_unopened aead p hfits p.sessionId
                (by rw [hopen])
              exact hrefused hpython hfirmware
            | ok payload =>
              obtain rfl : some payload = output := hagree
              obtain ⟨hvalid, hsize, hpython⟩ | ⟨hinvalid, e, hpython⟩ :=
                SecureAudioReceiver.openChunk_opened aead p hfits p.sessionId hopen
              · simp only [hvalid, Bool.not_true, Bool.false_or, decide_eq_true_eq, if_neg (Nat.not_lt.mpr hsize)]
                  at hfirmware
                rw [hpython, hfirmware]
                refine ⟨rfl, Or.inl hpair', rfl, ?_, toNat_nextChunk h.next hfits.place.index, rfl, rfl, ?_,
                  hfits.place.index⟩
                · intro t ht
                  obtain rfl := Option.some.inj ht
                  exact ⟨hid, hfits.place.stream⟩
                · simp
              · refine hrefused hpython (hfirmware.trans (if_pos ?_))
                cases hvalid : validSamples payload with
                | false => rfl
                | true =>
                  simp only [Bool.not_true, Bool.false_or, decide_eq_true_eq]
                  by_contra hsize
                  exact hinvalid ⟨hvalid, Nat.not_lt.mp hsize⟩
      · have hfirmware := h.openChunk_refused aead hid capacity htakes
        cases hopen : p.openRecord aead (.dict (SecureSession.sealedFrame p.sessionId x.sequence.toNat x.ciphertext))
            (chunkData streamId a.nextChunk x.final) with
        | mk p' result =>
          cases result with
          | error e =>
            obtain ⟨e', hpython⟩ := SecureAudioReceiver.openChunk_unopened aead p hfits p.sessionId
              (by rw [hopen])
            exact hrefused hpython hfirmware
          | ok payload =>
            -- the record opens, but is longer than a chunk
            rw [hopen] at hagree
            obtain ⟨hsequence, hlength⟩ := PipaSecureSession.openRecord_length hlaw hagree.symm
            obtain ⟨hvalid, -, -⟩ | ⟨-, e, hpython⟩ :=
              SecureAudioReceiver.openChunk_opened aead p hfits p.sessionId hopen
            · have hsmall := (validSamples_iff.mp hvalid).2.1
              exact absurd ⟨hpair.ready, hfits, hsequence, by omega, by omega⟩ htakes
            · exact hrefused hpython hfirmware
    · have hnot : ¬ Takes f a x streamId := by
        intro htakes
        rw [htakes.ready] at hready
        cases hready
      have hopen : (p.openRecord aead (.dict (SecureSession.sealedFrame p.sessionId x.sequence.toNat x.ciphertext))
          (chunkData streamId a.nextChunk x.final)).2 = .error .closed := by
        unfold SecureSession.openRecord
        rw [if_pos hclosed]
      obtain ⟨e, hpython⟩ := SecureAudioReceiver.openChunk_unopened aead p hfits p.sessionId hopen
      exact hrefused hpython (h.openChunk_refused aead hid _ hnot)
  · obtain ⟨e, hpython⟩ := SecureAudioReceiver.openChunk_unfit aead p h.first hfits p.sessionId
    exact hrefused hpython (h.openChunk_refused aead hid _ (fun htakes => hfits htakes.fits))

end

end

/-! ## Side by side -/

/-- A sender and a receiver of `secure_audio.py` on their session. -/
structure PythonAudio where
  session : SecureSession
  sender : SecureAudioSender
  receiver : SecureAudioReceiver

/-- The same of the firmware. -/
structure FirmwareAudio where
  session : PipaSecureSession
  sender : PipaSecureAudioSender
  receiver : PipaSecureAudioReceiver

/-- A call made on both sides. A frame comes with its stream id as a text and with the size of the
firmware's output buffer. -/
inductive AudioCall where
  | sealChunk (samples : Bytes) (final : Bool)
  | cancelSender
  | openChunk (frame : PipaSecureAudioFrame) (streamId : PyStr) (outputCapacity : Nat)
  | cancelReceiver
  | closeReceiver

/-- The text is the stream id of the frame, and the buffer takes a chunk. -/
def AudioCall.Admitted : AudioCall → Prop
  | .openChunk frame streamId outputCapacity =>
    frame.streamId = streamId.bytes ∧ maxAudioChunkBytes ≤ outputCapacity
  | _ => True

inductive AudioOut where
  | sealedBoth (python : Sealed) (firmware : PipaSecureAudioSender.Sealed)
  | openedBoth (python : Except AudioError Bytes) (firmware : Option Bytes)
  | done

def AudioOut.Agrees (sessionId streamId : PyStr) : AudioOut → Prop
  | .sealedBoth python firmware => SealedAgree sessionId streamId python firmware
  | .openedBoth python firmware => python.toOption = firmware
  | .done => True

/-- One call on both sides. -/
def audioStep (aead : Aead) (st : PythonAudio × FirmwareAudio) : AudioCall → (PythonAudio × FirmwareAudio) × AudioOut
  | .sealChunk samples final =>
    let p := st.1.sender.sealChunk aead st.1.session samples final
    let f := st.2.sender.sealChunk aead st.2.session samples final
    (({ st.1 with session := p.1, sender := p.2.1 }, { st.2 with session := f.1, sender := f.2.1 }),
      .sealedBoth p.2.2 f.2.2)
  | .cancelSender =>
    (({ st.1 with sender := st.1.sender.cancel }, { st.2 with sender := st.2.sender.cancel }), .done)
  | .openChunk frame streamId outputCapacity =>
    let p := st.1.receiver.openChunk aead st.1.session (frame.asObject st.1.session.sessionId streamId)
    let f := st.2.receiver.openChunk aead st.2.session frame (some outputCapacity)
    (({ st.1 with session := p.1, receiver := p.2.1 }, { st.2 with session := f.1, receiver := f.2.1 }),
      .openedBoth p.2.2 f.2.2)
  | .cancelReceiver =>
    (({ st.1 with receiver := st.1.receiver.cancel }, { st.2 with receiver := st.2.receiver.cancel }), .done)
  | .closeReceiver =>
    let p := SecureAudioReceiver.close st.1.session st.1.receiver
    let f := PipaSecureAudioReceiver.close st.2.session st.2.receiver
    (({ st.1 with session := p.1, receiver := p.2 }, { st.2 with session := f.1, receiver := f.2 }), .done)

/-- Two endpoints of a new stream. -/
def audioMachine (aead : Aead) (p : SecureSession) (f : PipaSecureSession) (streamId : PyStr)
    (hs : isStreamId streamId = true) : Machine (PythonAudio × FirmwareAudio) AudioCall AudioOut where
  init := (⟨p, .start streamId hs, .start⟩, ⟨f, .start streamId.bytes, .start⟩)
  step := audioStep aead

/-- The counters are not at their last value. -/
def CountersBelow (st : PythonAudio × FirmwareAudio) (_ : AudioCall) : Prop :=
  st.1.session.sendSequence < maxSequence ∧ st.1.session.receiveSequence < maxSequence

instance (st : PythonAudio × FirmwareAudio) (c : AudioCall) : Decidable (CountersBelow st c) :=
  inferInstanceAs (Decidable (_ ∧ _))

/-- The two sides are in the same state: stream id, next index, bytes, finished, session. -/
structure Corresponds (sessionId streamId : PyStr) (st : PythonAudio × FirmwareAudio) : Prop where
  sessionId : st.1.session.sessionId = sessionId
  streamId : st.1.sender.streamId = streamId
  session : SessionsMatch st.1.session st.2.session
  sender : SenderPaired st.1.sender st.2.sender
  receiver : ReceiverPaired st.1.receiver st.2.receiver

theorem SenderPaired.cancel {a : SecureAudioSender} {b : PipaSecureAudioSender} (h : SenderPaired a b) :
    SenderPaired a.cancel b.cancel :=
  ⟨h.valid, h.streamId, rfl, rfl, rfl, Nat.zero_le _⟩

/-- No call changes the names. -/
theorem audioStep_names (aead : Aead) (st : PythonAudio × FirmwareAudio) (c : AudioCall) :
    (audioStep aead st c).1.1.session.sessionId = st.1.session.sessionId ∧
      (audioStep aead st c).1.1.sender.streamId = st.1.sender.streamId := by
  cases c with
  | sealChunk samples final =>
    have hsession (data : Bytes) : (st.1.session.sealRecord aead samples data).1.sessionId = st.1.session.sessionId := by
      by_cases h : st.1.session.CanSeal samples data
      · rw [SecureSession.sealRecord_ok aead st.1.session h]
      · obtain ⟨e, he, -⟩ := SecureSession.sealRecord_fails aead st.1.session h
        rw [he]
    simp only [audioStep]
    unfold SecureAudioSender.sealChunk
    split
    · exact ⟨rfl, rfl⟩
    split
    · exact ⟨rfl, rfl⟩
    rename_i data hdata
    have hsame := hsession data
    split
    · rename_i heq
      rw [heq] at hsame
      exact ⟨hsame, rfl⟩
    · rename_i heq
      rw [heq] at hsame
      exact ⟨hsame, rfl⟩
    · rename_i heq
      rw [heq] at hsame
      exact ⟨hsame, rfl⟩
  | openChunk frame streamId outputCapacity =>
    simp only [audioStep]
    refine ⟨?_, trivial⟩
    exact SecureAudioReceiver.openChunk_sessionId aead _ _ _
  | cancelSender | cancelReceiver | closeReceiver => exact ⟨rfl, rfl⟩

/-- A call gives the same on both sides and leaves them in the same state. -/
theorem Corresponds.step {aead : Aead} (hlaw : aead.Lawful) {sessionId streamId : PyStr}
    {st : PythonAudio × FirmwareAudio} (h : Corresponds sessionId streamId st) {c : AudioCall} (hc : c.Admitted)
    (hlt : CountersBelow st c) :
    (audioStep aead st c).2.Agrees sessionId streamId ∧ Corresponds sessionId streamId (audioStep aead st c).1 := by
  obtain ⟨hsession, hsender⟩ := audioStep_names aead st c
  rw [h.sessionId] at hsession
  rw [h.streamId] at hsender
  cases c with
  | sealChunk samples final =>
    obtain ⟨hagree, hmatch, hpaired⟩ := h.sender.sealStep aead h.session samples final hlt.1
    rw [h.sessionId, h.streamId] at hagree
    exact ⟨hagree, hsession, hsender, hmatch, hpaired, h.receiver⟩
  | openChunk frame streamId outputCapacity =>
    obtain ⟨hagree, hmatch, hpaired⟩ := h.receiver.openStep hlaw h.session hc.1 hc.2 hlt.2
    exact ⟨hagree, hsession, hsender, hmatch, h.sender, hpaired⟩
  | cancelSender => exact ⟨trivial, hsession, hsender, h.session, h.sender.cancel, h.receiver⟩
  | cancelReceiver => exact ⟨trivial, hsession, hsender, h.session, h.sender, ReceiverPaired.start⟩
  | closeReceiver =>
    exact ⟨trivial, hsession, hsender, SessionsMatch.closed _, h.sender, ReceiverPaired.start⟩

section
variable {aead : Aead} {p : SecureSession} {f : PipaSecureSession} {streamId : PyStr} {hs : isStreamId streamId = true}

theorem audio_run_corresponds (hlaw : aead.Lawful) (h : SessionsMatch p f) {calls : List AudioCall}
    (hcalls : ∀ c ∈ calls, c.Admitted) (hlimit : (audioMachine aead p f streamId hs).Along CountersBelow calls) :
    Corresponds p.sessionId streamId ((audioMachine aead p f streamId hs).run calls) := by
  induction calls using List.reverseRecOn with
  | nil => exact ⟨rfl, rfl, h, SenderPaired.start hs, ReceiverPaired.start⟩
  | append_singleton pre c ih =>
    obtain ⟨hpre, hc⟩ := hlimit.of_concat
    rw [Machine.run_concat]
    exact ((ih (fun d hd => hcalls d (by simp [hd])) hpre).step hlaw (hcalls c (by simp)) hc).2

end

/-- The Python and the firmware audio endpoints, run on the same calls over equal sessions: every call
gives the same on both sides, and after every call both are in the same state. The two sides admit the
same stream ids to begin with, where the C string of the firmware has the bytes of the text. -/
theorem audio_endpoints_agree {aead : Aead} (hlaw : aead.Lawful) {p : SecureSession} {f : PipaSecureSession}
    (h : SessionsMatch p f) :
    (∀ (streamId : PyStr) (text : CString), text.bytes = streamId.bytes →
      (PipaSecureAudioSender.start text.bytes).valid = isStreamId streamId) ∧
    ∀ streamId hs calls, (∀ c ∈ calls, c.Admitted) →
      (audioMachine aead p f streamId hs).Along CountersBelow calls →
      (∀ pre c post, calls = pre ++ c :: post →
        ((audioMachine aead p f streamId hs).out pre c).Agrees p.sessionId streamId) ∧
      Corresponds p.sessionId streamId ((audioMachine aead p f streamId hs).run calls) := by
  refine ⟨?_, ?_⟩
  · intro streamId text hsame
    unfold PipaSecureAudioSender.start
    rw [hsame, validStreamId_iff]
    cases isStreamId streamId <;> rfl
  · intro streamId hs calls hadmitted hlimit
    refine ⟨?_, audio_run_corresponds hlaw h hadmitted hlimit⟩
    intro pre c post hcalls
    have hpre := audio_run_corresponds hlaw h (fun d hd => hadmitted d (by simp [hcalls, hd]))
      (hcalls ▸ hlimit).of_append
    exact (hpre.step hlaw (hadmitted c (by simp [hcalls])) (hlimit pre c post hcalls)).1

/-- A chunk is sealed, the stream is cancelled, and the receiver is given a frame that is not of it. -/
theorem audio_endpoints_agree_vector :
    Corresponds vectorId (PyStr.ofString "mic-1")
      ((audioMachine .checksum vectorPython vectorFirmware (PyStr.ofString "mic-1") pipaStreamId).run
        [.sealChunk [1, 2] false, .cancelSender,
         .openChunk ⟨0, 2, 16, 1, 0, true, 16000, (PyStr.ofString "mic-2").bytes, [9]⟩ (PyStr.ofString "mic-2") 4096]) := by
  have hid : vectorPython.sessionId = vectorId := SecureSession.fromSharedSecret_sessionId vectorPython_eq
  have hadmitted : ∀ c ∈ [AudioCall.sealChunk [1, 2] false, .cancelSender,
      .openChunk ⟨0, 2, 16, 1, 0, true, 16000, (PyStr.ofString "mic-2").bytes, [9]⟩ (PyStr.ofString "mic-2") 4096],
      c.Admitted := by
    simp [AudioCall.Admitted, maxAudioChunkBytes]
  rw [← hid]
  refine ((audio_endpoints_agree Aead.checksum_lawful (Or.inl vector_paired.1)).2 (PyStr.ofString "mic-1") pipaStreamId
    _ hadmitted ?_).2
  exact ((Machine.Along.nil.concat (by decide +kernel)).concat (by decide +kernel)).concat (by decide +kernel)

end Pipa.Secure
