import Pipa.Lib.JsonLine
import Pipa.Lib.StreamReader
import Pipa.Serial.SecureFrames

/- Frames on the TCP link (`secure_tcp_gateway.py`): `_encode_frame` writes a
   JSON object and a line feed, `_read_frame` waits for a line and parses it.

   The gateway and the mobile client open their streams with a limit of
   `MAX_FRAME_BYTES + 1`, and neither sends more than `MAX_FRAME_BYTES`, so no line
   overruns the reader. A frame of `SecureSession.seal` has room to spare:
   `frameLength` bounds it by the longest payload, session id and number. -/
namespace Pipa.Link.Tcp
open Pipa.Lib Pipa.Lib.JsonText Pipa.Secure
open Pipa.Serial (encodeLine frameLength encodeLine_sealedFrame)

/-- `MAX_FRAME_BYTES`. -/
def maxFrameBytes : Nat := 96 * 1024

def newline : UInt8 := 0x0A

/-- `SecureTcpTransportError`. -/
inductive SecureTcpTransportError where
  | response | responseTooLarge | incomplete | unread | tooLarge | malformed

def SecureTcpTransportError.message : SecureTcpTransportError → String
  | .response => "secure TCP response is not valid JSON"
  | .responseTooLarge => "secure TCP response is too large"
  | .incomplete => "secure TCP frame is incomplete"
  | .unread => "secure TCP frame could not be read"
  | .tooLarge => "secure TCP frame is too large or incomplete"
  | .malformed => "secure TCP frame is not valid JSON"

variable (py : Interpreter)

/-! ## Writing -/

/-- `_encode_frame`. -/
def encodeFrame (payload : Object) : Except SecureTcpTransportError Bytes :=
  if !dumpable py py.maxDepth (.dict payload) then .error .response
  else match (dumps false (.dict payload)).bind PyStr.encode with
    | none => .error .response
    | some text =>
      let encoded := text ++ [newline]
      if encoded.length > maxFrameBytes then .error .responseTooLarge else .ok encoded

/-! ## Reading -/

/-- What `_strict_json` raises: a `ValueError` of some kind, or the `RecursionError` of `json.loads`. -/
inductive JsonFailure where
  | value | recursion

/-- `_strict_json`. -/
def strictJson (raw : Bytes) : Except JsonFailure Object :=
  match Pipa.Lib.decodeUtf8 raw with
  | none => .error .value
  | some text =>
    match loads py (rejectDuplicateFields ()) text with
    | .ok (.dict value) => .ok value
    | .ok _ => .error .value
    | .error .recursion => .error .recursion
    | .error _ => .error .value

/-- What leaves `_read_frame` as an exception. -/
inductive ReadFailure where
  | transport (e : SecureTcpTransportError)
  | recursion

/-- `_read_frame`. -/
def readFrame (reader : StreamReader UInt8) : StreamReader UInt8 × Except ReadFailure (Option Object) :=
  let (later, outcome) := reader.readuntil newline (maxFrameBytes + 1)
  (later, match outcome with
    | .incomplete rest => if rest.isEmpty then .ok none else .error (.transport .incomplete)
    | .overrun => .error (.transport .unread)
    | .timeout => .error (.transport .unread)
    | .data raw =>
      if raw.isEmpty then .ok none
      else if raw.length > maxFrameBytes || raw.getLast? != some newline then .error (.transport .tooLarge)
      else match strictJson py raw.dropLast with
        | .ok value => .ok (some value)
        | .error .value => .error (.transport .malformed)
        | .error .recursion => .error .recursion)

/-- So many calls of `_read_frame`, one after the other. -/
def readFrames : Nat → StreamReader UInt8 → List (Except ReadFailure (Option Object))
  | 0, _ => []
  | n + 1, reader =>
    let r := readFrame py reader
    r.2 :: readFrames n r.1

/-! ## What is written is read -/

variable {py}

/-- What `_encode_frame` writes. -/
theorem encodeFrame_ok {payload : Object} {line : Bytes} (h : encodeFrame py payload = .ok line) :
    dumpable py py.maxDepth (.dict payload) = true ∧ line.length ≤ maxFrameBytes ∧
      ∃ text b, dumps false (.dict payload) = some text ∧ text.encode = some b ∧ line = b ++ [newline] := by
  unfold encodeFrame at h
  split at h
  · cases h
  rename_i hdumpable
  split at h
  · cases h
  rename_i b hb
  dsimp only at h
  split at h
  · cases h
  rename_i hlength
  obtain rfl := Except.ok.inj h
  obtain ⟨text, htext, hencode⟩ := Option.bind_eq_some_iff.mp hb
  exact ⟨by simpa using hdumpable, by omega, text, b, htext, hencode, rfl⟩

theorem keeps_pairs (pairs : List (PyStr × Value)) (h : (Object.keys pairs).Nodup) :
    rejectDuplicateFields () pairs = .ok (.dict pairs) := by
  rw [rejectDuplicateFields_eq, if_pos h]

/-- A frame is one line, and `_strict_json` reads it back. -/
theorem encodeFrame_read {payload : Object} {line : Bytes} (hheld : Held py (.dict payload))
    (h : encodeFrame py payload = .ok line) : IsLine newline line ∧ strictJson py line.dropLast = .ok payload := by
  obtain ⟨hdumpable, -, text, b, htext, hencode, rfl⟩ := encodeFrame_ok h
  have hsome : (dumps false (.dict payload)).isSome = true := by rw [htext]; rfl
  have hreadable := hheld.readable hdumpable hsome
  obtain rfl : text = Layout.compact.write 0 (.dict payload) := by
    rw [dumps_eq hsome 0] at htext
    exact (Option.some.inj htext).symm
  obtain ⟨-, hbytes⟩ := PyStr.encode_eq_some.mp hencode
  refine ⟨⟨b, ?_, rfl⟩, ?_⟩
  · rw [← hbytes]
    exact (Layout.printed_write hreadable 0).oneLine
  · have hloads := loads_write (L := Layout.compact) keeps_pairs hreadable 0 (g := []) rfl
    rw [List.append_nil] at hloads
    rw [List.dropLast_concat, strictJson, Pipa.Lib.decodeUtf8_encode hencode]
    simp only [hloads]

/-- The next frame is read whole. -/
theorem readFrame_encoded {reader : StreamReader UInt8} {payload : Object} {line stream : Bytes}
    (hheld : Held py (.dict payload)) (h : encodeFrame py payload = .ok line) (hbrings : reader.Brings (line ++ stream)) :
    ∃ later, readFrame py reader = (later, .ok (some payload)) ∧ later.Brings stream := by
  obtain ⟨hline, hread⟩ := encodeFrame_read hheld h
  obtain ⟨-, hlength, -, b, -, -, hlast⟩ := encodeFrame_ok h
  obtain ⟨later, hlater, hstream⟩ := StreamReader.readuntil_line (maxFrameBytes + 1) hline (by omega) hbrings
  refine ⟨later, ?_, hstream⟩
  have hnonempty : line.isEmpty = false := by rw [hlast]; simp
  have hend : line.getLast? = some newline := by rw [hlast, List.getLast?_concat]
  have hshort : ¬ line.length > maxFrameBytes := by omega
  simp only [readFrame, hlater, hnonempty, hend, hread, hshort, decide_false, bne_self_eq_false, Bool.or_false,
    Bool.false_eq_true, if_false]

theorem readFrame_end (py : Interpreter) {reader : StreamReader UInt8} (hbrings : reader.Brings []) :
    ∃ later, readFrame py reader = (later, .ok none) ∧ later.Brings [] := by
  obtain ⟨later, hlater, hstream⟩ := StreamReader.readuntil_end newline (maxFrameBytes + 1) hbrings
  refine ⟨later, ?_, hstream⟩
  simp only [readFrame, hlater, List.isEmpty_nil, if_true]

/-- Frames are read as they were written, and then the end of the stream. -/
theorem readFrames_brings {frames : List Object} {lines : List Bytes} (hheld : ∀ f ∈ frames, Held py (.dict f))
    (hlines : List.Forall₂ (fun f line => encodeFrame py f = .ok line) frames lines) (n : Nat)
    {reader : StreamReader UInt8} (hbrings : reader.Brings lines.flatten) :
    readFrames py (frames.length + n) reader = frames.map (fun f => .ok (some f)) ++ List.replicate n (.ok none) := by
  induction hlines generalizing reader with
  | nil =>
    rw [List.length_nil, Nat.zero_add, List.map_nil, List.nil_append]
    rw [List.flatten_nil] at hbrings
    induction n generalizing reader with
    | zero => rfl
    | succ n ih =>
      obtain ⟨later, hread, hlater⟩ := readFrame_end py hbrings
      rw [readFrames, hread, List.replicate_succ]
      exact congrArg _ (ih hlater)
  | cons hline hlines ih =>
    rw [List.flatten_cons] at hbrings
    obtain ⟨later, hread, hlater⟩ := readFrame_encoded (hheld _ List.mem_cons_self) hline hbrings
    rw [List.length_cons, Nat.succ_add, readFrames, hread, List.map_cons, List.cons_append]
    exact congrArg _ (ih (fun f hf => hheld f (List.mem_cons_of_mem _ hf)) hlater)

/-! ## Sealed records -/

/-- The longest record. -/
theorem frameLength_le {sessionId : PyStr} (hs : isIdentifier sessionId = true) {sequence payloadBytes : Nat}
    (hsequence : sequence ≤ maxSequence) (hpayload : payloadBytes ≤ maxRecordBytes) :
    frameLength sessionId sequence payloadBytes ≤ 87618 := by
  have hid : sessionId.length ≤ 128 := by
    simp only [isIdentifier, Bool.and_eq_true, decide_eq_true_eq] at hs
    exact hs.1.2
  have hdigits : (toString sequence).length ≤ 20 := by
    refine Nat.repr_length sequence 20 (by decide) (Nat.lt_of_le_of_lt hsequence ?_)
    decide
  have hrecord : maxRecordBytes = 65536 := rfl
  rw [frameLength]
  omega

theorem sealedFrame_dumpable (sessionId : PyStr) {sequence : Nat} (hsequence : sequence ≤ maxSequence)
    (ciphertext : Bytes) : dumpable py py.maxDepth (.dict (SecureSession.sealedFrame sessionId sequence ciphertext)) =
      true := by
  have hdigits : (dumpInt (sequence : Int)).length ≤ 20 := by
    have hlength : (dumpInt (sequence : Int)).length = (toString sequence).length := by
      show (PyStr.ofString (toString sequence)).length = _
      rw [PyStr.ofString, List.length_map, String.length_toList]
    rw [hlength]
    refine Nat.repr_length sequence 20 (by decide) (Nat.lt_of_le_of_lt hsequence ?_)
    decide
  have hfilter := List.length_filter_le isDigitChar (dumpInt (sequence : Int))
  have hversion : ((dumpInt secureProtocolVersion).filter isDigitChar).length = 1 := by decide
  have hlimit := py.digits_le
  have hdepth := py.depth_le
  obtain ⟨d, hd⟩ : ∃ d, py.maxDepth = d + 1 := ⟨py.maxDepth - 1, by omega⟩
  rw [hd, dumpable, dumpableFields_iff]
  simp only [SecureSession.sealedFrame, recordHeader, List.cons_append, List.nil_append, List.forall_mem_cons,
    List.not_mem_nil, false_imp_iff, implies_true, and_true, dumpable, decide_eq_true_eq]
  omega

/-- A line of the serial link that is short enough is a frame. -/
theorem encodeFrame_line {payload : Object} {line : Bytes} (hdumpable : dumpable py py.maxDepth (.dict payload) = true)
    (hline : encodeLine payload = some line) (hlength : line.length ≤ maxFrameBytes) :
    encodeFrame py payload = .ok line := by
  obtain ⟨text, htext, hencode⟩ := Option.bind_eq_some_iff.mp hline
  have hclean : PyStr.Clean (text ++ PyStr.ofString "\n") := PyStr.encode_isSome.mp (by rw [hencode]; rfl)
  have htextclean := (PyStr.clean_append.mp hclean).1
  rw [hclean.encode, PyStr.bytes_append, Option.some.injEq] at hencode
  have hend : (PyStr.ofString "\n").bytes = [newline] := by decide
  rw [hend] at hencode
  rw [encodeFrame, hdumpable, htext, Option.bind_some, htextclean.encode]
  simp only [Bool.not_true, Bool.false_eq_true, if_false, hencode]
  rw [if_neg (by omega)]

/-- What `seal` returns can always be written. -/
theorem encodeFrame_sealed (py : Interpreter) {aead : Aead} (hlaw : aead.Lawful) {session : SecureSession}
    {payload data : Bytes} {frame : Value} (h : (session.sealRecord aead payload data).2.result = .ok frame) :
    ∃ fields line, frame = .dict fields ∧ encodeFrame py fields = .ok line := by
  by_cases hcan : session.CanSeal payload data
  · rw [SecureSession.sealRecord_ok aead session hcan] at h
    obtain rfl := Except.ok.inj h
    have hcipher : (session.encryptionOf aead payload data).ciphertext.length = payload.length + 16 :=
      hlaw.length _ _ _ _
    obtain ⟨line, hline, hlength⟩ := encodeLine_sealedFrame session.valid session.sendSequence payload.length hcipher
    have hbound := frameLength_le session.valid hcan.sequence hcan.size
    have hmax : maxFrameBytes = 98304 := rfl
    exact ⟨_, line, rfl, encodeFrame_line (sealedFrame_dumpable _ hcan.sequence _) hline (by omega)⟩
  · obtain ⟨e, he, -⟩ := SecureSession.sealRecord_fails aead session hcan
    rw [he] at h
    cases h

end Pipa.Link.Tcp
