import Pipa.Secure.RecordLayer

/- Encrypted audio chunks over a session (`secure_audio.py`): `SecureAudioSender`
   and `SecureAudioReceiver`. A chunk is one record of the session, with its place
   in the stream as additional data; the same fields go out in the clear next to it.

   A sender and a receiver share their session object with its other users, so the
   session is an argument and a result of every call. The types of samples and final
   marker, which both sides check at run time, are types here. -/
namespace Pipa.Secure
open Pipa.Lib

/-! ## The source -/

def audioBytesPerSample : Nat := 2
def maxAudioChunkBytes : Nat := 4096
def maxAudioStreamBytes : Nat := maxAudioChunkBytes * maxAudioChunks

def recordFields : List PyStr :=
  [PyStr.ofString "ciphertext", PyStr.ofString "protocol_version", PyStr.ofString "sequence",
   PyStr.ofString "session_id"]

/-- The `AudioFrameError`s; `record` is a `RecordError` of the session. -/
inductive AudioError where
  | finished | tooManyChunks | chunkSize | tooLarge | unfinished | metadata | json
  | fields | start | streamChanged | order
  | record (e : RecordError)

/-- `_validate_samples` and `_validate_decrypted_samples`. -/
def validSamples (samples : Bytes) : Bool :=
  0 < samples.length && samples.length ≤ maxAudioChunkBytes && samples.length % audioBytesPerSample = 0

theorem validSamples_iff {samples : Bytes} : validSamples samples = true ↔
    0 < samples.length ∧ samples.length ≤ maxAudioChunkBytes ∧ samples.length % audioBytesPerSample = 0 := by
  simp only [validSamples, Bool.and_eq_true, decide_eq_true_eq, and_assoc]

/-- `stream_duration_ms`. -/
def durationMs (streamBytes : Nat) : Nat := streamBytes * 1000 / (16000 * 1 * audioBytesPerSample)

structure SecureAudioSender where
  streamId : PyStr
  nextChunk : Nat
  streamBytes : Nat
  finished : Bool
  valid : isStreamId streamId = true

/-- What a call gives back, and the encryption it made. -/
structure Sealed where
  encryption : Option Encryption
  result : Except AudioError Object

namespace SecureAudioSender

/-- A sender of a new stream. -/
def start (streamId : PyStr) (h : isStreamId streamId = true) : SecureAudioSender := ⟨streamId, 0, 0, false, h⟩

/-- The checks of `seal_chunk`, and the metadata they end with. -/
def prepare (a : SecureAudioSender) (samples : Bytes) (final : Bool) : Except AudioError Object :=
  if a.finished then .error .finished
  else if a.nextChunk ≥ maxAudioChunks then .error .tooManyChunks
  else if !validSamples samples then .error .chunkSize
  else if a.streamBytes + samples.length > maxAudioStreamBytes then .error .tooLarge
  else if a.nextChunk = maxAudioChunks - 1 && !final then .error .unfinished
  else match validateMetadata (audioMetadata a.streamId a.nextChunk final) with
    | none => .error .metadata
    | some metadata => .ok metadata

/-- `seal_chunk`. -/
def sealChunk (aead : Aead) (s : SecureSession) (a : SecureAudioSender) (samples : Bytes) (final : Bool) :
    SecureSession × SecureAudioSender × Sealed :=
  match a.prepare samples final with
  | .error e => (s, a, ⟨none, .error e⟩)
  | .ok metadata =>
    match additionalData metadata with
    | none => (s, a, ⟨none, .error .json⟩)
    | some data =>
      match s.sealRecord aead samples data with
      | (s, ⟨encryption, .ok (.dict frame)⟩) =>
        (s, { a with
                nextChunk := a.nextChunk + 1
                streamBytes := a.streamBytes + samples.length
                finished := final },
         ⟨encryption, .ok (Object.update frame metadata)⟩)
      | (s, ⟨encryption, .ok _⟩) => (s, a, ⟨encryption, .error .fields⟩) -- `seal` returns a dictionary
      | (s, ⟨encryption, .error e⟩) => (s, a, ⟨encryption, .error (.record e)⟩)

/-- `cancel`. -/
def cancel (a : SecureAudioSender) : SecureAudioSender := { a with nextChunk := 0, streamBytes := 0, finished := true }

end SecureAudioSender

structure SecureAudioReceiver where
  streamId : Option PyStr
  nextChunk : Nat
  streamBytes : Nat
  finished : Bool
  deriving DecidableEq

namespace SecureAudioReceiver

/-- A new receiver, and what `_discard_state` leaves. -/
def start : SecureAudioReceiver := ⟨none, 0, 0, false⟩

def complete (a : SecureAudioReceiver) : Bool := a.finished

def streamDurationMs (a : SecureAudioReceiver) : Nat := durationMs a.streamBytes

/-- `{key: frame[key] for key in _AUDIO_FIELDS}`. -/
def audioPart (frame : Object) : Object := audioFields.map (fun k => (k, (frame.get? k).getD .null))

/-- The checks of `open_chunk` before the session is asked; they end with the metadata, of which
stream id and final marker are used again. -/
def expect (a : SecureAudioReceiver) (frame : Object) : Except AudioError (Object × PyStr × Bool) :=
  if !hasFields frame (recordFields ++ audioFields) then .error .fields
  else match validateMetadata (audioPart frame) with
    | none => .error .metadata
    | some metadata =>
      let get (k : String) : Value := (metadata.get? (PyStr.ofString k)).getD .null
      match get "stream_id", get "chunk_index", get "final" with
      | .str streamId, .int chunkIndex, .bool final =>
        if a.finished then .error .finished
        else if a.streamId.isNone && chunkIndex ≠ 0 then .error .start
        else if a.streamId.any (· ≠ streamId) then .error .streamChanged
        else if chunkIndex ≠ a.nextChunk then .error .order
        else .ok (metadata, streamId, final)
      | _, _, _ => .error .metadata

/-- `open_chunk`. Every error it can raise is caught, except for one that `session.open` does not
raise (`openRecord_no_overflow`). -/
def openChunk (aead : Aead) (s : SecureSession) (a : SecureAudioReceiver) (frame : Object) :
    SecureSession × SecureAudioReceiver × Except AudioError Bytes :=
  match a.expect frame with
  | .error e => (s.close, start, .error e)
  | .ok (metadata, streamId, final) =>
    match additionalData metadata with
    | none => (s.close, start, .error .json)
    | some data =>
      match s.openRecord aead (.dict frame) data with
      | (s, .error .overflow) => (s, { a with streamId := some streamId }, .error (.record .overflow))
      | (s, .error e) => (s.close, start, .error (.record e))
      | (s, .ok plaintext) =>
        if !validSamples plaintext then (s.close, start, .error .chunkSize)
        else if a.streamBytes + plaintext.length > maxAudioStreamBytes then (s.close, start, .error .tooLarge)
        else
          (s, ⟨some streamId, a.nextChunk + 1, a.streamBytes + plaintext.length, final⟩, .ok plaintext)

/-- `cancel`. -/
def cancel (_ : SecureAudioReceiver) : SecureAudioReceiver := start

/-- `close`: the session is closed with the stream. -/
def close (s : SecureSession) (_ : SecureAudioReceiver) : SecureSession × SecureAudioReceiver := (s.close, start)

end SecureAudioReceiver

/-! ## Additional data -/

/-- The additional data of a chunk. -/
def chunkData (streamId : PyStr) (chunkIndex : Nat) (final : Bool) : Bytes :=
  literal "pipa/audio/v2" ++ 0 :: Firmware.audioJson streamId.bytes (UInt16.ofNat chunkIndex) final

/-- A place in a stream that `_validate_metadata` lets through. -/
structure Place (streamId : PyStr) (chunkIndex : Nat) (final : Bool) : Prop where
  stream : isStreamId streamId = true
  index : chunkIndex < maxAudioChunks
  last : chunkIndex = maxAudioChunks - 1 → final = true

namespace Place
variable {streamId : PyStr} {chunkIndex : Nat} {final : Bool}

theorem toNat_ofNat (h : Place streamId chunkIndex final) : (UInt16.ofNat chunkIndex).toNat = chunkIndex := by
  have := h.index
  simp only [maxAudioChunks] at this
  rw [UInt16.toNat_ofNat']
  omega

theorem additionalData_eq (h : Place streamId chunkIndex final) :
    additionalData (audioMetadata streamId chunkIndex final) = some (chunkData streamId chunkIndex final) := by
  have heq := Secure.additionalData_eq h.stream (UInt16.ofNat chunkIndex) final
  rwa [h.toNat_ofNat] at heq

theorem length_le (h : Place streamId chunkIndex final) : (chunkData streamId chunkIndex final).length ≤ 256 :=
  audioJson_length (validStreamId_bytes h.stream).2 (by rw [h.toNat_ofNat]; exact h.index) final

/-- The additional data tells the place. -/
theorem chunkData_inj (h : Place streamId chunkIndex final) {streamId' : PyStr} {chunkIndex' : Nat} {final' : Bool}
    (h' : Place streamId' chunkIndex' final')
    (heq : chunkData streamId chunkIndex final = chunkData streamId' chunkIndex' final') :
    streamId = streamId' ∧ chunkIndex = chunkIndex' ∧ final = final' := by
  obtain ⟨hid, hindex, hfinal⟩ := audioJson_inj (isStreamId_plain h.stream) (isStreamId_plain h'.stream)
    (List.cons.inj (List.append_cancel_left heq)).2
  refine ⟨hid, ?_, hfinal⟩
  rw [← h.toNat_ofNat, ← h'.toNat_ofNat, hindex]

/-- The metadata passes its own check. -/
theorem validateMetadata_eq (h : Place streamId chunkIndex final) :
    validateMetadata (audioMetadata streamId chunkIndex final) = some (audioMetadata streamId chunkIndex final) := by
  have hmax : (maxAudioChunks : Int) = 64 := rfl
  have hindex : chunkIndex < 64 := h.index
  have hlast : chunkIndex = 63 → final = true := h.last
  have heq : validateMetadata (audioMetadata streamId chunkIndex final) =
      if !isStreamId streamId then none
      else if !(0 ≤ (chunkIndex : Int) && (chunkIndex : Int) < maxAudioChunks) then none
      else if (chunkIndex : Int) = maxAudioChunks - 1 && !final then none
      else some (audioMetadata streamId (chunkIndex : Int).toNat final) := rfl
  have hrange : (!(0 ≤ (chunkIndex : Int) && (chunkIndex : Int) < maxAudioChunks)) = false := by
    rw [hmax]
    simp only [Int.natCast_nonneg, decide_true, Bool.true_and, Bool.not_eq_false', decide_eq_true_eq]
    omega
  have hfinal : (decide ((chunkIndex : Int) = maxAudioChunks - 1) && !final) = false := by
    rw [hmax]
    cases final with
    | true => simp
    | false =>
      have hne : (chunkIndex : Int) ≠ 64 - 1 := by
        intro hcast
        exact absurd (hlast (by omega)) Bool.false_ne_true
      simp only [hne, decide_false, Bool.false_and]
  simp only [heq, h.stream, hrange, hfinal, Bool.not_true, Bool.false_eq_true, if_false, Int.toNat_natCast]

end Place

/-! ## What one call does -/

/-- The frame of a chunk: its record, and its place in the clear. -/
def chunkFrame (sessionId : PyStr) (sequence : Nat) (ciphertext : Bytes) (streamId : PyStr) (chunkIndex : Nat)
    (final : Bool) : Object :=
  SecureSession.sealedFrame sessionId sequence ciphertext ++ audioMetadata streamId chunkIndex final

namespace SecureAudioSender

/-- A chunk that the checks of `seal_chunk` let through. -/
structure CanSend (a : SecureAudioSender) (samples : Bytes) (final : Bool) : Prop where
  unfinished : a.finished = false
  room : a.nextChunk < maxAudioChunks
  valid : validSamples samples = true
  size : a.streamBytes + samples.length ≤ maxAudioStreamBytes
  last : a.nextChunk = maxAudioChunks - 1 → final = true

theorem CanSend.place {a : SecureAudioSender} {samples : Bytes} {final : Bool} (h : a.CanSend samples final) :
    Place a.streamId a.nextChunk final :=
  ⟨a.valid, h.room, h.last⟩

theorem prepare_eq {a : SecureAudioSender} {samples : Bytes} {final : Bool} (h : a.CanSend samples final) :
    a.prepare samples final = .ok (audioMetadata a.streamId a.nextChunk final) := by
  have hlast : (decide (a.nextChunk = maxAudioChunks - 1) && !final) = false := by
    cases final with
    | true => simp
    | false =>
      have hne : a.nextChunk ≠ maxAudioChunks - 1 := fun heq => absurd (h.last heq) Bool.false_ne_true
      simp only [hne, decide_false, Bool.false_and]
  unfold prepare
  rw [h.unfinished, h.valid, hlast, h.place.validateMetadata_eq]
  have hroom := h.room
  have hsize := h.size
  simp only [Bool.false_eq_true, if_false, Bool.not_true, if_neg (Nat.not_le.mpr hroom), if_neg (Nat.not_lt.mpr hsize)]

/-- The metadata fields are new to the frame. -/
theorem update_eq (sessionId : PyStr) (sequence : Nat) (ciphertext : Bytes) (streamId : PyStr) (chunkIndex : Nat)
    (final : Bool) :
    Object.update (SecureSession.sealedFrame sessionId sequence ciphertext)
        (audioMetadata streamId chunkIndex final) =
      chunkFrame sessionId sequence ciphertext streamId chunkIndex final := by
  have hkeys : (Object.keys (SecureSession.sealedFrame sessionId sequence ciphertext) ++
      Object.keys (audioMetadata streamId chunkIndex final)).Nodup :=
    show (([PyStr.ofString "protocol_version", PyStr.ofString "sequence", PyStr.ofString "session_id",
      PyStr.ofString "ciphertext"] : List PyStr) ++ audioFields).Nodup by decide +kernel
  exact Object.update_new hkeys

/-- The sender after a chunk. -/
def sent (a : SecureAudioSender) (samples : Bytes) (final : Bool) : SecureAudioSender :=
  { a with nextChunk := a.nextChunk + 1, streamBytes := a.streamBytes + samples.length, finished := final }

theorem sealChunk_ok (aead : Aead) {s : SecureSession} {a : SecureAudioSender} {samples : Bytes} {final : Bool}
    (h : a.CanSend samples final) (hlive : s.closed = false) (hroom : s.sendSequence ≤ maxSequence) :
    let encryption := s.encryptionOf aead samples (chunkData a.streamId a.nextChunk final)
    sealChunk aead s a samples final = ({ s with sendSequence := s.sendSequence + 1 }, a.sent samples final,
      ⟨some encryption,
       .ok (chunkFrame s.sessionId s.sendSequence encryption.ciphertext a.streamId a.nextChunk final)⟩) := by
  intro encryption
  have hcan : s.CanSeal samples (chunkData a.streamId a.nextChunk final) := by
    refine ⟨hlive, ?_, Nat.le_trans h.place.length_le (by decide), hroom⟩
    exact Nat.le_trans (validSamples_iff.mp h.valid).2.1 (by decide)
  unfold sealChunk
  rw [prepare_eq h]
  simp only [h.place.additionalData_eq, SecureSession.sealRecord_ok aead s hcan, update_eq]
  rfl

/-- A failing call leaves the stream as it was. -/
theorem sealChunk_error {aead : Aead} {s : SecureSession} {a : SecureAudioSender} {samples : Bytes} {final : Bool}
    {e : AudioError} (h : (sealChunk aead s a samples final).2.2.result = .error e) :
    (sealChunk aead s a samples final).2.1 = a := by
  revert h
  unfold sealChunk
  split
  · exact fun _ => rfl
  split
  · exact fun _ => rfl
  split
  · intro h
    cases h
  · exact fun _ => rfl
  · exact fun _ => rfl

end SecureAudioSender

section
variable (sessionId : PyStr) (sequence : Nat) (ciphertext : Bytes) (streamId : PyStr) (chunkIndex : Nat) (final : Bool)

theorem hasFields_chunkFrame :
    hasFields (chunkFrame sessionId sequence ciphertext streamId chunkIndex final) (recordFields ++ audioFields) =
      true := by
  have hkeys : (chunkFrame sessionId sequence ciphertext streamId chunkIndex final).keys =
    [PyStr.ofString "protocol_version", PyStr.ofString "sequence", PyStr.ofString "session_id",
      PyStr.ofString "ciphertext"] ++ audioFields := rfl
  rw [hasFields, hkeys]
  decide +kernel

theorem audioPart_chunkFrame :
    SecureAudioReceiver.audioPart (chunkFrame sessionId sequence ciphertext streamId chunkIndex final) =
      audioMetadata streamId chunkIndex final := rfl

/-- The session sees the record only. -/
theorem checkFrame_chunkFrame (s : SecureSession) :
    s.checkFrame (.dict (chunkFrame sessionId sequence ciphertext streamId chunkIndex final)) =
      s.checkFrame (.dict (SecureSession.sealedFrame sessionId sequence ciphertext)) := rfl

end

namespace SecureAudioReceiver

theorem audioPart_get? (frame : Object) {k : PyStr} (hk : k ∈ audioFields) :
    (audioPart frame).get? k = some ((frame.get? k).getD .null) := by
  simp only [audioFields, List.mem_cons, List.not_mem_nil, or_false] at hk
  obtain rfl | rfl | rfl | rfl | rfl | rfl | rfl := hk <;> rfl

/-- A frame that is let through: where it says it stands, and the record it is. -/
structure Accepted (aead : Aead) (s : SecureSession) (a : SecureAudioReceiver) (frame : Object) (streamId : PyStr)
    (final : Bool) (payload : Bytes) : Prop where
  fields : hasFields frame (recordFields ++ audioFields) = true
  place : Place streamId a.nextChunk final
  unfinished : a.finished = false
  streamIdField : frame.get? (PyStr.ofString "stream_id") = some (.str streamId)
  indexField : frame.get? (PyStr.ofString "chunk_index") = some (.int a.nextChunk)
  finalField : frame.get? (PyStr.ofString "final") = some (.bool final)
  format : ∀ e ∈ formatFields, ((frame.get? e.1).getD .null).equalsInt e.2 = true
  record : s.openRecord aead (.dict frame) (chunkData streamId a.nextChunk final) =
    ({ s with receiveSequence := s.receiveSequence + 1 }, .ok payload)

theorem formatFields_audio : ∀ e ∈ formatFields, e.1 ∈ audioFields := by decide +kernel

/-- What the checks before the session let through. -/
theorem expect_ok {a : SecureAudioReceiver} {frame metadata : Object} {streamId : PyStr} {final : Bool}
    (h : a.expect frame = .ok (metadata, streamId, final)) :
    hasFields frame (recordFields ++ audioFields) = true ∧ metadata = audioMetadata streamId a.nextChunk final ∧
      Place streamId a.nextChunk final ∧ a.finished = false ∧
      frame.get? (PyStr.ofString "stream_id") = some (.str streamId) ∧
      frame.get? (PyStr.ofString "chunk_index") = some (.int a.nextChunk) ∧
      frame.get? (PyStr.ofString "final") = some (.bool final) ∧
      ∀ e ∈ formatFields, ((frame.get? e.1).getD .null).equalsInt e.2 = true := by
  unfold expect at h
  split at h
  · cases h
  rename_i hfields
  split at h
  · cases h
  rename_i metadata' hvalid
  obtain ⟨sid, index, fin, rfl, hsid, hindex, hlast, hidField, hindexField, hfinalField, hformat⟩ :=
    validateMetadata_eq_some hvalid
  have hget : ((audioMetadata sid index fin).get? (PyStr.ofString "stream_id")).getD .null = .str sid ∧
      ((audioMetadata sid index fin).get? (PyStr.ofString "chunk_index")).getD .null = .int index ∧
      ((audioMetadata sid index fin).get? (PyStr.ofString "final")).getD .null = .bool fin := ⟨rfl, rfl, rfl⟩
  simp only [hget] at h
  split at h
  · cases h
  rename_i hunfinished
  split at h
  · cases h
  split at h
  · cases h
  split at h
  · cases h
  rename_i horder
  obtain ⟨rfl, rfl, rfl⟩ : audioMetadata sid index fin = metadata ∧ sid = streamId ∧ fin = final := by
    simpa using h
  obtain rfl : index = a.nextChunk := by omega
  rw [audioPart_get? frame (by decide +kernel)] at hidField hindexField hfinalField
  refine ⟨by simpa using hfields, rfl, ⟨hsid, hindex, hlast⟩, by simpa using hunfinished,
    Object.get?_of_getD (Option.some.inj hidField) Value.noConfusion,
    Object.get?_of_getD (Option.some.inj hindexField) Value.noConfusion,
    Object.get?_of_getD (Option.some.inj hfinalField) Value.noConfusion, ?_⟩
  intro e he
  have hequals := hformat e he
  rwa [audioPart_get? frame (formatFields_audio e he)] at hequals

/-- A frame is refused, which closes the session and forgets the stream, or it is the next chunk. -/
theorem openChunk_cases (aead : Aead) (s : SecureSession) (a : SecureAudioReceiver) (frame : Object) :
    (∃ s' e, openChunk aead s a frame = (s', start, .error e) ∧ s'.closed = true) ∨
    (∃ streamId final payload, openChunk aead s a frame =
        ({ s with receiveSequence := s.receiveSequence + 1 },
         ⟨some streamId, a.nextChunk + 1, a.streamBytes + payload.length, final⟩, .ok payload) ∧
      Accepted aead s a frame streamId final payload) := by
  unfold openChunk
  cases hexpect : a.expect frame with
  | error e => exact Or.inl ⟨_, e, rfl, rfl⟩
  | ok expected =>
    obtain ⟨metadata, streamId, final⟩ := expected
    obtain ⟨hfields, rfl, hplace, hunfinished, hid, hindex, hfinal, hformat⟩ := expect_ok hexpect
    simp only [hplace.additionalData_eq]
    obtain ⟨e, hfail⟩ | ⟨payload, hok⟩ :=
      SecureSession.openRecord_cases aead s (.dict frame) (chunkData streamId a.nextChunk final)
    · have hne := SecureSession.openRecord_no_overflow aead s (.dict frame) (chunkData streamId a.nextChunk final)
      rw [hfail] at hne ⊢
      cases e <;> first | exact absurd rfl hne | exact Or.inl ⟨_, _, rfl, rfl⟩
    · simp only [hok]
      split
      · exact Or.inl ⟨_, _, rfl, rfl⟩
      split
      · exact Or.inl ⟨_, _, rfl, rfl⟩
      · exact Or.inr ⟨streamId, final, payload, rfl, hfields, hplace, hunfinished, hid, hindex, hfinal, hformat, hok⟩

theorem openChunk_sessionId (aead : Aead) (s : SecureSession) (a : SecureAudioReceiver) (frame : Object) :
    (openChunk aead s a frame).1.sessionId = s.sessionId := by
  have hrecord (data : Bytes) : (s.openRecord aead (.dict frame) data).1.sessionId = s.sessionId := by
    obtain ⟨e, he⟩ | ⟨payload, hok⟩ := SecureSession.openRecord_cases aead s (.dict frame) data
    · rw [he]
    · rw [hok]
  unfold openChunk
  split
  · rfl
  split
  · rfl
  rename_i data hdata
  have hsame := hrecord data
  split
  · rename_i heq
    rw [heq] at hsame
    exact hsame
  · rename_i heq
    rw [heq] at hsame
    exact hsame
  · rename_i heq
    rw [heq] at hsame
    split
    · exact hsame
    split
    · exact hsame
    · exact hsame

/-- The checks before the session, on the next chunk. -/
theorem expect_chunkFrame {a : SecureAudioReceiver} {streamId : PyStr} {final : Bool}
    (hplace : Place streamId a.nextChunk final) (hunfinished : a.finished = false)
    (hstream : a.streamId = (if a.nextChunk = 0 then none else some streamId)) (sessionId : PyStr) (sequence : Nat)
    (ciphertext : Bytes) :
    a.expect (chunkFrame sessionId sequence ciphertext streamId a.nextChunk final) =
      .ok (audioMetadata streamId a.nextChunk final, streamId, final) := by
  have hget : ((audioMetadata streamId a.nextChunk final).get? (PyStr.ofString "stream_id")).getD .null =
        .str streamId ∧
      ((audioMetadata streamId a.nextChunk final).get? (PyStr.ofString "chunk_index")).getD .null =
        .int a.nextChunk ∧
      ((audioMetadata streamId a.nextChunk final).get? (PyStr.ofString "final")).getD .null = .bool final :=
    ⟨rfl, rfl, rfl⟩
  have hstart : ¬ (a.streamId.isNone && decide ((a.nextChunk : Int) ≠ 0)) = true := by
    rw [hstream]
    by_cases h0 : a.nextChunk = 0 <;> simp [h0]
  have hsame : ¬ a.streamId.any (· ≠ streamId) = true := by
    rw [hstream]
    by_cases h0 : a.nextChunk = 0 <;> simp [h0]
  unfold expect
  rw [hasFields_chunkFrame, audioPart_chunkFrame, hplace.validateMetadata_eq]
  simp only [hget, hunfinished, Bool.not_true, Bool.false_eq_true, if_false, if_neg hstart, if_neg hsame, ne_eq,
    not_true]

/-- The next chunk is returned. -/
theorem openChunk_next {aead : Aead} (hlaw : aead.Lawful) {send s : SecureSession}
    (hkey : send.sendKey = s.receiveKey) (hstart : send.sendNoncePrefix = s.receiveNoncePrefix)
    (hid : send.sessionId = s.sessionId) (hlive : s.closed = false) (hnumber : s.receiveSequence ≤ maxSequence)
    {a : SecureAudioReceiver} {streamId : PyStr} {samples : Bytes} {final : Bool}
    (hplace : Place streamId a.nextChunk final) (hunfinished : a.finished = false)
    (hstream : a.streamId = (if a.nextChunk = 0 then none else some streamId)) (hvalid : validSamples samples = true)
    (hsize : a.streamBytes + samples.length ≤ maxAudioStreamBytes) :
    openChunk aead s a (chunkFrame send.sessionId s.receiveSequence
        (SecureSession.encryptionOf aead { send with sendSequence := s.receiveSequence } samples
          (chunkData streamId a.nextChunk final)).ciphertext streamId a.nextChunk final) =
      ({ s with receiveSequence := s.receiveSequence + 1 },
       ⟨some streamId, a.nextChunk + 1, a.streamBytes + samples.length, final⟩, .ok samples) := by
  have hopen := openRecord_facing hlaw hkey hstart hid hlive hnumber
    (Nat.le_trans (validSamples_iff.mp hvalid).2.1 (by decide)) (Nat.le_trans hplace.length_le (by decide))
    ((checkFrame_chunkFrame send.sessionId s.receiveSequence _ streamId a.nextChunk final s).trans
      (checkFrame_facing hlaw hid hnumber samples (chunkData streamId a.nextChunk final)))
  unfold openChunk
  rw [expect_chunkFrame hplace hunfinished hstream]
  simp only [hplace.additionalData_eq, hopen, hvalid, Bool.not_true, Bool.false_eq_true, if_false,
    if_neg (Nat.not_lt.mpr hsize)]

end SecureAudioReceiver

/-! ## Streams -/

structure Chunk where
  samples : Bytes
  final : Bool

/-- 1 to 64 valid chunks, of which exactly the last is final. -/
structure IsStream (chunks : List Chunk) : Prop where
  nonempty : 0 < chunks.length
  length : chunks.length ≤ maxAudioChunks
  valid : ∀ c ∈ chunks, validSamples c.samples = true
  final : ∀ i c, chunks[i]? = some c → (c.final = true ↔ i + 1 = chunks.length)

def byteCount (chunks : List Chunk) : Nat := (chunks.map (fun c => c.samples.length)).sum

theorem byteCount_concat (chunks : List Chunk) (c : Chunk) :
    byteCount (chunks ++ [c]) = byteCount chunks + c.samples.length := by
  simp [byteCount]

theorem byteCount_le {chunks : List Chunk} (h : ∀ c ∈ chunks, validSamples c.samples = true) :
    byteCount chunks ≤ chunks.length * maxAudioChunkBytes := by
  induction chunks using List.reverseRecOn with
  | nil => exact Nat.zero_le _
  | append_singleton pre c ih =>
    have hpre := ih (fun c' hc' => h c' (List.mem_append_left _ hc'))
    have hc := (validSamples_iff.mp (h c (by simp))).2.1
    rw [byteCount_concat, List.length_append, List.length_singleton, Nat.succ_mul]
    omega

/-- What a chunk of a stream meets, after those before it. The stream-size limit is out of reach. -/
structure IsNext (chunks pre : List Chunk) (c : Chunk) : Prop where
  index : pre.length < chunks.length
  room : pre.length < maxAudioChunks
  valid : validSamples c.samples = true
  size : byteCount pre + c.samples.length ≤ maxAudioStreamBytes
  last : pre.length = maxAudioChunks - 1 → c.final = true
  final : decide ((pre ++ [c]).length = chunks.length) = c.final

theorem IsStream.next {chunks pre post : List Chunk} {c : Chunk} (h : IsStream chunks)
    (hchunks : chunks = pre ++ c :: post) : IsNext chunks pre c := by
  have hlength : chunks.length = pre.length + 1 + post.length := by
    rw [hchunks]
    simp
    omega
  have hmax := h.length
  have hvalid := h.valid
  have hget : chunks[pre.length]? = some c := by rw [hchunks]; simp
  have hfinal : decide ((pre ++ [c]).length = chunks.length) = c.final := by
    rw [Bool.eq_iff_iff, decide_eq_true_iff, List.length_append]
    exact (h.final _ c hget).symm
  refine ⟨by omega, by omega, hvalid c (by simp [hchunks]), ?_, ?_, hfinal⟩
  · rw [← byteCount_concat]
    have hle : byteCount (pre ++ [c]) ≤ (pre ++ [c]).length * maxAudioChunkBytes := by
      refine byteCount_le ?_
      intro c' hc'
      refine hvalid c' ?_
      rw [hchunks, List.append_cons]
      exact List.mem_append_left post hc'
    have hcount : (pre ++ [c]).length ≤ maxAudioChunks := by
      rw [List.length_append, List.length_singleton]
      omega
    rw [maxAudioStreamBytes, Nat.mul_comm]
    exact hle.trans (Nat.mul_le_mul_right _ hcount)
  · intro hlast
    rw [← hfinal, decide_eq_true_iff, List.length_append, List.length_singleton]
    omega

section
variable (aead : Aead)

/-- A sender on its session, given chunk after chunk. -/
def senderMachine (s : SecureSession) (a : SecureAudioSender) :
    Machine (SecureSession × SecureAudioSender) Chunk Sealed where
  init := (s, a)
  step st c :=
    let r := SecureAudioSender.sealChunk aead st.1 st.2 c.samples c.final
    ((r.1, r.2.1), r.2.2)

/-- A receiver on its session, given frame after frame. -/
def receiverMachine (s : SecureSession) (a : SecureAudioReceiver) :
    Machine (SecureSession × SecureAudioReceiver) Object (Except AudioError Bytes) where
  init := (s, a)
  step st frame :=
    let r := SecureAudioReceiver.openChunk aead st.1 st.2 frame
    ((r.1, r.2.1), r.2.2)

/-- The encryption made for chunk `i` of a stream that starts on session `s`. -/
def chunkEncryption (s : SecureSession) (streamId : PyStr) (i : Nat) (c : Chunk) : Encryption :=
  SecureSession.encryptionOf aead { s with sendSequence := s.sendSequence + i } c.samples
    (chunkData streamId i c.final)

/-- The frame it goes out in. -/
def streamFrame (s : SecureSession) (streamId : PyStr) (i : Nat) (c : Chunk) : Object :=
  chunkFrame s.sessionId (s.sendSequence + i) (chunkEncryption aead s streamId i c).ciphertext streamId i c.final

end

section
variable {aead : Aead} {chunks : List Chunk} {streamId : PyStr} {send receive : SecureSession}

/-- The sender seals chunk after chunk. -/
theorem sender_run (aead : Aead) (h : IsStream chunks) (hlive : send.closed = false)
    (hroom : send.sendSequence + chunks.length ≤ maxSequence + 1) (hs : isStreamId streamId = true)
    {pre post : List Chunk} (hpre : chunks = pre ++ post) :
    let m := senderMachine aead send (.start streamId hs)
    m.run pre = ({ send with sendSequence := send.sendSequence + pre.length },
        ⟨streamId, pre.length, byteCount pre, decide (pre.length = chunks.length), hs⟩) ∧
      m.outs pre = pre.mapIdx (fun i c =>
        ⟨some (chunkEncryption aead send streamId i c), .ok (streamFrame aead send streamId i c)⟩) := by
  intro m
  induction pre using List.reverseRecOn generalizing post with
  | nil =>
    have hne : ¬ (0 = chunks.length) := by
      have := h.nonempty
      omega
    simp only [List.length_nil, hne, decide_false]
    exact ⟨rfl, rfl⟩
  | append_singleton pre c ih =>
    have hsplit : chunks = pre ++ c :: post := by rw [hpre, List.append_assoc]; rfl
    obtain ⟨hrun, houts⟩ := ih hsplit
    have hnext := h.next hsplit
    have hindex := hnext.index
    have hcan : SecureAudioSender.CanSend
        ⟨streamId, pre.length, byteCount pre, decide (pre.length = chunks.length), hs⟩ c.samples c.final :=
      ⟨decide_eq_false (by omega), hnext.room, hnext.valid, hnext.size, hnext.last⟩
    have hseal := SecureAudioSender.sealChunk_ok aead
      (s := { send with sendSequence := send.sendSequence + pre.length }) hcan hlive (by simp only; omega)
    refine ⟨?_, ?_⟩
    · rw [Machine.run_concat, hrun, hnext.final, byteCount_concat, List.length_append]
      simp only [m, senderMachine, hseal]
      rfl
    · rw [Machine.outs_concat, Machine.out, hrun, houts, List.mapIdx_concat]
      simp only [m, senderMachine, hseal]
      rfl

/-- The receiver returns chunk after chunk. -/
theorem receiver_run (hlaw : aead.Lawful) (h : IsStream chunks) (hkey : send.sendKey = receive.receiveKey)
    (hstart : send.sendNoncePrefix = receive.receiveNoncePrefix) (hid : send.sessionId = receive.sessionId)
    (hlive : receive.closed = false) (hsync : receive.receiveSequence = send.sendSequence)
    (hroom : send.sendSequence + chunks.length ≤ maxSequence + 1) (hs : isStreamId streamId = true)
    {pre post : List Chunk} (hpre : chunks = pre ++ post) :
    let m := receiverMachine aead receive .start
    let frames := pre.mapIdx (streamFrame aead send streamId)
    m.run frames = ({ receive with receiveSequence := receive.receiveSequence + pre.length },
        ⟨if pre.length = 0 then none else some streamId, pre.length, byteCount pre,
          decide (pre.length = chunks.length)⟩) ∧
      m.outs frames = pre.map (fun c => .ok c.samples) := by
  intro m frames
  induction pre using List.reverseRecOn generalizing post with
  | nil =>
    have hne : ¬ (0 = chunks.length) := by
      have := h.nonempty
      omega
    simp only [List.length_nil, hne, decide_false]
    exact ⟨rfl, rfl⟩
  | append_singleton pre c ih =>
    have hsplit : chunks = pre ++ c :: post := by rw [hpre, List.append_assoc]; rfl
    obtain ⟨hrun, houts⟩ := ih hsplit
    have hnext := h.next hsplit
    have hindex := hnext.index
    have hopen := SecureAudioReceiver.openChunk_next hlaw
      (s := { receive with receiveSequence := receive.receiveSequence + pre.length })
      (a := ⟨if pre.length = 0 then none else some streamId, pre.length, byteCount pre,
        decide (pre.length = chunks.length)⟩)
      hkey hstart hid hlive (by simp only; omega) ⟨hs, hnext.room, hnext.last⟩ (decide_eq_false (by omega)) rfl
      hnext.valid hnext.size
    simp only [hsync] at hopen
    simp only [frames, List.mapIdx_concat] at hrun houts ⊢
    refine ⟨?_, ?_⟩
    · rw [Machine.run_concat, hrun, hnext.final, byteCount_concat, List.length_append]
      simp only [m, receiverMachine, streamFrame, chunkEncryption, hsync, hopen]
      rfl
    · rw [Machine.outs_concat, Machine.out, hrun, houts, List.map_append]
      simp only [m, receiverMachine, streamFrame, chunkEncryption, hsync, hopen]
      rfl

/-! ## Other frames -/

/-- `frame == honest`, as Python compares them: the numbers that do not change may be of another type. -/
structure Agrees (frame honest : Object) : Prop where
  fields : hasFields frame (recordFields ++ audioFields) = true
  same : ∀ k ∈ ["stream_id", "chunk_index", "final", "sequence", "session_id", "ciphertext"],
    frame.get? (PyStr.ofString k) = honest.get? (PyStr.ofString k)
  format : ∀ e ∈ (PyStr.ofString "protocol_version", secureProtocolVersion) :: formatFields,
    ((frame.get? e.1).getD .null).equalsInt e.2 = true

/-- A record of a run is found at its number. -/
theorem Tracked.sent_of_encryption {base : SecureSession} {e : Endpoint} (h : Tracked aead base e) {x : Sent}
    (hx : x ∈ e.sent) {n : Nat} (hn : n ≤ maxSequence) (hnonce : x.encryption.nonce = nonceOf base.sendNoncePrefix n) :
    e.sent[n]? = some x := by
  obtain ⟨i, hi⟩ := List.mem_iff_getElem?.mp hx
  have hrec := h.records i x hi
  rw [hrec.encryption] at hnonce
  obtain rfl : i = n := nonceOf_inj hrec.number hn hnonce
  exact hi

/-- In a run in which the peer sealed chunk `k` of a stream as the next record, what the receiver
accepts at that point is its frame. -/
theorem accepted_agrees (hlaw : aead.Lawful) {base : Role → SecureSession} (hm : Mirrored base)
    (hsep : Separated base) {l : Link} (h : Linked aead base l) {r : Role} {n : Nat}
    (hnumber : (l r).session.receiveSequence = n) {a : SecureAudioReceiver} {frame : Object} {streamId' : PyStr}
    {final' : Bool} {payload : Bytes}
    (haccepted : SecureAudioReceiver.Accepted aead (l r).session a frame streamId' final' payload)
    (hunforged : ∀ data, Unforged aead l (.openCall r (.dict frame) data)) {c : Chunk}
    (hplace : Place streamId a.nextChunk c.final) {x : Sent} (hx : x ∈ (l r.peer).sent)
    (hencryption : x.encryption = SecureSession.encryptionOf aead { base r.peer with sendSequence := n } c.samples
      (chunkData streamId a.nextChunk c.final)) :
    Agrees frame (chunkFrame (base r.peer).sessionId n x.encryption.ciphertext streamId a.nextChunk c.final) := by
  obtain ⟨y, hy, -, hdata, hcheck⟩ := h.opens_sent hlaw hm hsep (hunforged _) haccepted.record
  obtain ⟨hle, fields, hfields, hversion, hsession, hsequence, hciphertext⟩ := SecureSession.checkFrame_ok hcheck
  obtain rfl := Value.dict.inj hfields
  rw [hnumber] at hle hsequence
  rw [← (h.tracked r).receive_eq, hnumber] at hy
  have hsent := (h.tracked r.peer).sent_of_encryption hx hle (by rw [hencryption]; rfl)
  obtain rfl : y = x := Option.some.inj (hy.symm.trans hsent)
  -- the additional data is that of the record, and tells the place
  have hrecord : y.additionalData = chunkData streamId a.nextChunk c.final := by
    have hassociated := congrArg Encryption.associatedData ((h.tracked r.peer).records n y hy).encryption
    rw [hencryption] at hassociated
    exact (List.append_cancel_left hassociated).symm
  obtain ⟨rfl, -, rfl⟩ := haccepted.place.chunkData_inj hplace (hdata.symm.trans hrecord)
  have hid : (base r.peer).sessionId = (l r).session.sessionId := by rw [(h.tracked r).session, hm.sessionId r]
  refine ⟨haccepted.fields, ?_, ?_⟩
  · intro k hk
    simp only [List.mem_cons, List.not_mem_nil, or_false] at hk
    obtain rfl | rfl | rfl | rfl | rfl | rfl := hk
    · rw [haccepted.streamIdField]; rfl
    · rw [haccepted.indexField]; rfl
    · rw [haccepted.finalField]; rfl
    · rw [hsequence]; rfl
    · rw [hsession, ← hid]; rfl
    · rw [hciphertext]; rfl
  · intro e he
    obtain rfl | he := List.mem_cons.mp he
    · exact hversion
    · exact haccepted.format e he

end

/-- The stream of a sender reaches the receiver at the other end of an ideal record layer, whatever
was sealed and opened on the two sessions before: every chunk is sealed and, frame by frame, returned
as it was; the receiver is complete after the last. At any point, a frame that is not the next one
makes it refuse, close the session and forget the stream. A call of the sender that fails leaves its
stream as it was. -/
theorem audio_stream_delivery {aead : Aead} (hlaw : aead.Lawful) {base : Role → SecureSession}
    (hm : Mirrored base) (hsep : Separated base) (r : Role) {ops : List LinkOp}
    (hideal : (linkMachine aead base).Along (Unforged aead) ops) {streamId : PyStr}
    (hs : isStreamId streamId = true) {chunks : List Chunk} (hchunks : IsStream chunks) {l : Link}
    (hl : l = (linkMachine aead base).run ops) (hreceive : (l r).session.closed = false)
    (hsend : (l r.peer).session.closed = false)
    (hsync : (l r).session.receiveSequence = (l r.peer).session.sendSequence)
    (hroom : (l r.peer).session.sendSequence + chunks.length ≤ maxSequence + 1) :
    let sealedChunks := (senderMachine aead (l r.peer).session (.start streamId hs)).outs chunks
    let receiver := receiverMachine aead (l r).session .start
    (∃ frames : List Object, sealedChunks.map Sealed.result = frames.map .ok ∧ frames.length = chunks.length ∧
      ∀ k ≤ chunks.length,
        receiver.outs (frames.take k) = (chunks.take k).map (fun c => .ok c.samples) ∧
        (receiver.run (frames.take k)).2.complete = decide (k = chunks.length) ∧
        (receiver.run (frames.take k)).2.streamBytes = byteCount (chunks.take k) ∧
        (receiver.run (frames.take k)).2.streamDurationMs = byteCount (chunks.take k) * 1000 / 32000 ∧
        ∀ ops' frame, (linkMachine aead base).Along (Unforged aead) ops' →
          ((linkMachine aead base).run ops' r).session = (receiver.run (frames.take k)).1 →
          (∀ o ∈ sealedChunks, ∀ e, o.encryption = some e →
            ∃ x ∈ ((linkMachine aead base).run ops' r.peer).sent, x.encryption = e) →
          (∀ data, Unforged aead ((linkMachine aead base).run ops') (.openCall r (.dict frame) data)) →
          (∀ honest, frames[k]? = some honest → ¬ Agrees frame honest) →
          ∃ s e, SecureAudioReceiver.openChunk aead (receiver.run (frames.take k)).1
            (receiver.run (frames.take k)).2 frame = (s, .start, .error e) ∧ s.closed = true) ∧
    (∀ s a samples final e, (SecureAudioSender.sealChunk aead s a samples final).2.2.result = .error e →
      (SecureAudioSender.sealChunk aead s a samples final).2.1 = a) := by
  intro sealedChunks receiver
  refine ⟨?_, fun s a samples final e => SecureAudioSender.sealChunk_error⟩
  have hlinked : Linked aead base l := hl ▸ run_linked hlaw hm hsep hideal
  have hsession := (hlinked.tracked r).session
  have hpeer := (hlinked.tracked r.peer).session
  have hkey : (l r.peer).session.sendKey = (l r).session.receiveKey := by rw [hpeer, hsession, hm.key r]
  have hstart : (l r.peer).session.sendNoncePrefix = (l r).session.receiveNoncePrefix := by
    rw [hpeer, hsession, hm.noncePrefix r]
  have hid : (l r.peer).session.sessionId = (l r).session.sessionId := by rw [hpeer, hsession, hm.sessionId r]
  have hsealed : sealedChunks = _ := (sender_run aead hchunks hsend hroom hs (List.append_nil chunks).symm).2
  refine ⟨chunks.mapIdx (streamFrame aead (l r.peer).session streamId), ?_, List.length_mapIdx, ?_⟩
  · rw [hsealed]
    refine List.ext_getElem? ?_
    intro i
    simp only [List.getElem?_map, List.getElem?_mapIdx, Option.map_map]
    rfl
  intro k hk
  have htake : (chunks.mapIdx (streamFrame aead (l r.peer).session streamId)).take k =
      (chunks.take k).mapIdx (streamFrame aead (l r.peer).session streamId) := by
    refine List.ext_getElem? ?_
    intro i
    simp only [List.getElem?_mapIdx, List.getElem?_take]
    split <;> rfl
  have hlength : (chunks.take k).length = k := by rw [List.length_take]; omega
  obtain ⟨hrun, houts⟩ := receiver_run hlaw hchunks hkey hstart hid hreceive hsync hroom hs
    (List.take_append_drop k chunks).symm
  rw [hlength] at hrun
  simp only [receiver, htake]
  refine ⟨houts, by rw [hrun]; rfl, by rw [hrun], by rw [hrun]; rfl, ?_⟩
  intro ops' frame hideal' hsame hpresent hunforged hother
  rw [hrun] at hsame ⊢
  obtain hrefused | ⟨streamId', final', payload, -, haccepted⟩ := SecureAudioReceiver.openChunk_cases aead
    { (l r).session with receiveSequence := (l r).session.receiveSequence + k }
    ⟨if k = 0 then none else some streamId, k, byteCount (chunks.take k), decide (k = chunks.length)⟩ frame
  · exact hrefused
  · -- an accepted frame would be the next one
    have hlt : k < chunks.length := by
      have := of_decide_eq_false haccepted.unfinished
      omega
    have hsplit : chunks = chunks.take k ++ chunks[k] :: chunks.drop (k + 1) := by
      rw [← List.drop_eq_getElem_cons hlt, List.take_append_drop]
    have hnext := hchunks.next hsplit
    have hk' : chunks[k]? = some chunks[k] := List.getElem?_eq_getElem hlt
    generalize chunks[k] = c at hsplit hnext hk'
    have hplace : Place streamId k c.final := ⟨hs, hlength ▸ hnext.room, hlength ▸ hnext.last⟩
    obtain ⟨x, hx, hencryption⟩ : ∃ x ∈ ((linkMachine aead base).run ops' r.peer).sent,
        x.encryption = chunkEncryption aead (l r.peer).session streamId k c := by
      have hmem : (⟨some (chunkEncryption aead (l r.peer).session streamId k c),
          .ok (streamFrame aead (l r.peer).session streamId k c)⟩ : Sealed) ∈ sealedChunks := by
        refine List.mem_of_getElem? (i := k) ?_
        rw [hsealed, List.getElem?_mapIdx, hk']
        rfl
      exact hpresent _ hmem _ rfl
    replace haccepted : SecureAudioReceiver.Accepted aead ((linkMachine aead base).run ops' r).session
        ⟨if k = 0 then none else some streamId, k, byteCount (chunks.take k), decide (k = chunks.length)⟩ frame
        streamId' final' payload := by
      rw [hsame]
      exact haccepted
    have hagrees := accepted_agrees hlaw hm hsep (run_linked hlaw hm hsep hideal') (r := r)
      (n := (l r.peer).session.sendSequence + k) (by rw [hsame, ← hsync]) haccepted hunforged hplace hx
      (by rw [hencryption, chunkEncryption, hpeer]; rfl)
    refine absurd ?_ (hother (streamFrame aead (l r.peer).session streamId k c) ?_)
    · rw [hencryption, hpeer] at hagrees
      rw [streamFrame, hpeer]
      exact hagrees
    · rw [List.getElem?_mapIdx, hk']
      rfl

/-- Two chunks of the microphone. -/
def pipaChunks : List Chunk := [⟨[1, 2], false⟩, ⟨[3, 4, 5, 6], true⟩]

theorem pipaStreamId : isStreamId (PyStr.ofString "mic-1") = true := by decide

theorem pipaChunks_stream : IsStream pipaChunks := by
  refine ⟨by decide, by decide, by decide, ?_⟩
  intro i c hc
  match i with
  | 0 =>
    obtain rfl : (⟨[1, 2], false⟩ : Chunk) = c := Option.some.inj hc
    decide
  | 1 =>
    obtain rfl : (⟨[3, 4, 5, 6], true⟩ : Chunk) = c := Option.some.inj hc
    decide
  | i + 2 => cases hc

theorem audio_stream_delivery_pipaChunks :
    ∃ frames : List Object,
      (receiverMachine .checksum (pipaLink.run [] .server).session .start).outs (frames.take 2) =
        [.ok [1, 2], .ok [3, 4, 5, 6]] := by
  obtain ⟨secret, hash, hserver, hclient⟩ :=
    handshake_sessions Crypto.checksum_commutes pcAnswer_eq pipaSession_eq
  have hsep : Separated (pairOf pipaSession pcAnswer.2) := by
    unfold Separated
    decide +kernel
  obtain ⟨⟨frames, -, -, hall⟩, -⟩ := audio_stream_delivery Aead.checksum_lawful (pairOf_mirrored hserver hclient)
    hsep .server Machine.Along.nil pipaStreamId pipaChunks_stream rfl
    (by decide +kernel) (by decide +kernel) (by decide +kernel) (by decide +kernel)
  exact ⟨frames, (hall 2 (by decide)).1⟩

end Pipa.Secure
