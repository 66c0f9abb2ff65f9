import Pipa.Lib.JsonPrinted
import Pipa.Link.TcpFrames
import Pipa.Mobile.StrictJson

/- How the phone reads its stream (`PipaMobileTCPClient.receiveJSONObject`). What has arrived and not been
   read stands in `receiveBuffer`; a call asks the connection for more, but never for more than fits into
   `maxFrameBytes`, until a line feed is there.

   The network may cut the stream anywhere, and it makes no difference: the calls return the lines in their
   order. No line that the gateway writes is too long for the buffer. -/
namespace Pipa.Mobile
open Pipa.Lib

/-- `PipaMobileError`. -/
inductive PipaMobileError where
  | invalidIdentity | invalidMessage | invalidBase64 | invalidHandshake | invalidRecord | replay | sessionClosed
  | payloadTooLarge | invalidAudioFrame | transportUnavailable | requestInProgress
  deriving DecidableEq

/-- `PipaSecureRecordLayer.maxFrameBytes`. -/
def maxFrameBytes : Nat := 96 * 1024

def newline : UInt8 := 0x0A

/-! ## The connection -/

/-- An `NWConnection` as far as `receive` goes: what it will make available, piece by piece. Where no piece
stands it fails, or the timeout comes first. The last piece may already be marked as complete. -/
structure Connection where
  arriving : List (Option Bytes)
  marksLast : Bool

/-- `receiveChunk`: at most so many bytes of the next piece, and whether nothing more will come. -/
def Connection.receiveChunk (c : Connection) (maximumLength : Nat) : Connection × Option (Bytes × Bool) :=
  match c.arriving with
  | [] => (c, some ([], true))
  | none :: later => (⟨later, c.marksLast⟩, none)
  | some chunk :: later =>
    if chunk.length ≤ maximumLength then (⟨later, c.marksLast⟩, some (chunk, later.isEmpty && c.marksLast))
    else (⟨some (chunk.drop maximumLength) :: later, c.marksLast⟩, some (chunk.take maximumLength, false))

/-! ## Reading -/

/-- `receiveBuffer` and the connection it is filled from. -/
structure Receiver where
  receiveBuffer : Bytes
  connection : Connection

/-- How a call ends; `ended` is its `nil`. -/
inductive Received where
  | object (fields : Object)
  | ended
  | failed (e : PipaMobileError)

variable (f : Foundation)

/-- What a line is read as. -/
def readLine (line : Bytes) : Received :=
  if line.isEmpty || line.length > maxFrameBytes then .failed .invalidMessage
  else if !isStrictJSONObject f line then .failed .invalidMessage
  else match f.dictionary line with
    | none => .failed .invalidMessage
    | some fields => .object fields

/-- `receiveJSONObject`, in at most so many turns of its loop. -/
def receiveJSONObject : Nat → Receiver → Receiver × Option Received
  | 0, r => (r, none)
  | turns + 1, r =>
    if newline ∈ r.receiveBuffer then
      let line := r.receiveBuffer.takeWhile (· ≠ newline)
      ({ r with receiveBuffer := r.receiveBuffer.drop (line.length + 1) }, some (readLine f line))
    else if r.receiveBuffer.length ≥ maxFrameBytes then (r, some (.failed .payloadTooLarge))
    else
      match r.connection.receiveChunk (maxFrameBytes - r.receiveBuffer.length) with
      | (c, none) => (⟨r.receiveBuffer, c⟩, some (.failed .transportUnavailable))
      | (c, some (chunk, isComplete)) =>
        if chunk.isEmpty && !isComplete then (⟨r.receiveBuffer, c⟩, some (.failed .transportUnavailable))
        else if isComplete && newline ∉ r.receiveBuffer ++ chunk then
          (⟨r.receiveBuffer ++ chunk, c⟩, some .ended)
        else receiveJSONObject turns ⟨r.receiveBuffer ++ chunk, c⟩

/-- So many calls, one after the other. -/
def receiveObjects (turns : Nat) : Nat → Receiver → List (Option Received)
  | 0, _ => []
  | n + 1, r => (receiveJSONObject f turns r).2 :: receiveObjects turns n (receiveJSONObject f turns r).1

/-! ## The buffer -/

theorem receiveChunk_length {c c' : Connection} {maximumLength : Nat} {chunk : Bytes} {isComplete : Bool}
    (h : c.receiveChunk maximumLength = (c', some (chunk, isComplete))) : chunk.length ≤ maximumLength := by
  unfold Connection.receiveChunk at h
  split at h
  · obtain ⟨-, hchunk⟩ := Prod.mk.inj h
    obtain ⟨rfl, -⟩ := Prod.mk.inj (Option.some.inj hchunk)
    exact Nat.zero_le _
  · cases h
  · split at h
    · rename_i hfits
      obtain ⟨-, hchunk⟩ := Prod.mk.inj h
      obtain ⟨rfl, -⟩ := Prod.mk.inj (Option.some.inj hchunk)
      exact hfits
    · obtain ⟨-, hchunk⟩ := Prod.mk.inj h
      obtain ⟨rfl, -⟩ := Prod.mk.inj (Option.some.inj hchunk)
      exact List.length_take_le _ _

variable {f}

/-- Whatever arrives, the buffer never holds more than a frame. -/
theorem receiveJSONObject_bounded {turns : Nat} {r : Receiver} (h : r.receiveBuffer.length ≤ maxFrameBytes) :
    (receiveJSONObject f turns r).1.receiveBuffer.length ≤ maxFrameBytes := by
  induction turns generalizing r with
  | zero => exact h
  | succ turns ih =>
    rw [receiveJSONObject]
    split
    · simp only [List.length_drop]
      omega
    split
    · exact h
    · rename_i hroom
      split
      · exact h
      · rename_i c chunk isComplete hchunk
        have hlength := receiveChunk_length hchunk
        have hfits : (r.receiveBuffer ++ chunk).length ≤ maxFrameBytes := by
          rw [List.length_append]
          omega
        split
        · exact h
        split
        · exact hfits
        · exact ih hfits

/-! ## Lines -/

/-- What is still to be read is this stream, and it arrives in time. -/
def Receiver.Brings (r : Receiver) (stream : Bytes) : Prop :=
  ∃ chunks : List Bytes, r.connection.arriving = chunks.map some ∧ (∀ chunk ∈ chunks, chunk ≠ []) ∧
    r.receiveBuffer ++ chunks.flatten = stream

/-- As long as no line feed has arrived and there is room, a turn takes more of the stream. -/
theorem receiveJSONObject_more (turns : Nat) {r : Receiver} {stream : Bytes} (hopen : newline ∉ r.receiveBuffer)
    (hroom : r.receiveBuffer.length < maxFrameBytes) (hbrings : r.Brings stream) (hstream : newline ∈ stream) :
    ∃ r', receiveJSONObject f (turns + 1) r = receiveJSONObject f turns r' ∧ r'.Brings stream ∧
      r.receiveBuffer.length < r'.receiveBuffer.length := by
  obtain ⟨buffer, arriving, marksLast⟩ := r
  obtain ⟨chunks, rfl, hfilled, rfl⟩ := hbrings
  simp only at hopen hroom hstream ⊢
  have hflatten : newline ∈ chunks.flatten := (List.mem_append.mp hstream).resolve_left hopen
  rw [receiveJSONObject, if_neg hopen, if_neg (Nat.not_le.mpr hroom)]
  cases chunks with
  | nil => cases hflatten
  | cons chunk chunks =>
    obtain ⟨hchunk, hfilled⟩ := List.forall_mem_cons.mp hfilled
    have hpos := List.length_pos_of_ne_nil hchunk
    simp only [List.map_cons, Connection.receiveChunk]
    by_cases hfits : chunk.length ≤ maxFrameBytes - buffer.length
    · rw [if_pos hfits]
      refine ⟨⟨buffer ++ chunk, ⟨chunks.map some, marksLast⟩⟩, ?_, ⟨chunks, rfl, hfilled, ?_⟩, ?_⟩
      · simp only
        rw [if_neg (by simp [hchunk]), if_neg]
        -- the last piece holds the line feed
        intro h
        simp only [Bool.and_eq_true, List.isEmpty_iff, List.map_eq_nil_iff, decide_eq_true_eq] at h
        obtain ⟨⟨rfl, -⟩, hnone⟩ := h
        rw [List.flatten_cons, List.flatten_nil, List.append_nil] at hflatten
        exact hnone (List.mem_append_right buffer hflatten)
      · rw [List.flatten_cons, List.append_assoc]
      · rw [List.length_append]
        omega
    · rw [if_neg hfits]
      have htaken : (chunk.take (maxFrameBytes - buffer.length)).length = maxFrameBytes - buffer.length :=
        List.length_take_of_le (by omega)
      have hleft : chunk.drop (maxFrameBytes - buffer.length) ≠ [] := by
        rw [Ne, List.drop_eq_nil_iff]
        omega
      refine ⟨⟨buffer ++ chunk.take (maxFrameBytes - buffer.length),
        ⟨some (chunk.drop (maxFrameBytes - buffer.length)) :: chunks.map some, marksLast⟩⟩, ?_,
        ⟨chunk.drop (maxFrameBytes - buffer.length) :: chunks, rfl,
          List.forall_mem_cons.mpr ⟨hleft, hfilled⟩, ?_⟩, ?_⟩
      · simp only
        rw [if_neg, if_neg (by simp)]
        rw [Bool.and_eq_true, List.isEmpty_iff]
        rintro ⟨hnone, -⟩
        rw [hnone, List.length_nil] at htaken
        omega
      · rw [List.flatten_cons, List.append_assoc, ← List.append_assoc (chunk.take _), List.take_append_drop,
          List.flatten_cons]
      · rw [List.length_append, htaken]
        omega

/-- A line is read whole, in whatever pieces it comes. -/
theorem receiveJSONObject_line {turns : Nat} {r : Receiver} {body stream : Bytes} (hbody : newline ∉ body)
    (hlength : body.length < maxFrameBytes) (hbrings : r.Brings (body ++ newline :: stream))
    (hturns : (body ++ newline :: stream).length < turns + r.receiveBuffer.length) :
    ∃ r', receiveJSONObject f turns r = (r', some (readLine f body)) ∧ r'.Brings stream := by
  induction turns generalizing r with
  | zero =>
    obtain ⟨chunks, -, -, hstream⟩ := hbrings
    rw [← hstream, List.length_append] at hturns
    omega
  | succ turns ih =>
    by_cases hopen : newline ∈ r.receiveBuffer
    · obtain ⟨chunks, harriving, hfilled, hstream⟩ := hbrings
      obtain ⟨rest, hrest, hlater⟩ :
          ∃ rest, r.receiveBuffer = body ++ newline :: rest ∧ rest ++ chunks.flatten = stream := by
        obtain ⟨rest, hrest, -⟩ | ⟨rest, hrest, hlater⟩ := List.append_eq_append_iff.mp hstream
        · exact absurd (hrest ▸ List.mem_append_left rest hopen) hbody
        · cases rest with
          | nil =>
            rw [hrest, List.append_nil] at hopen
            exact absurd hopen hbody
          | cons b rest =>
            obtain ⟨rfl, htail⟩ := List.cons.inj hlater
            exact ⟨rest, hrest, htail.symm⟩
      have hline : r.receiveBuffer.takeWhile (· ≠ newline) = body := by
        have hall : ∀ b ∈ body, decide (b ≠ newline) = true := by
          intro b hb
          rw [decide_eq_true_eq]
          rintro rfl
          exact hbody hb
        rw [hrest, List.takeWhile_append_of_pos hall, List.takeWhile_cons_of_neg (by simp), List.append_nil]
      refine ⟨{ r with receiveBuffer := rest }, ?_, chunks, harriving, hfilled, hlater⟩
      rw [receiveJSONObject, if_pos hopen]
      simp only [hline]
      rw [hrest]
      simp
    · have hroom : r.receiveBuffer.length < maxFrameBytes := by
        obtain ⟨chunks, -, -, hstream⟩ := hbrings
        obtain ⟨rest, hrest, -⟩ | ⟨rest, hrest, hlater⟩ := List.append_eq_append_iff.mp hstream
        · rw [hrest, List.length_append] at hlength
          omega
        · cases rest with
          | nil =>
            rw [hrest, List.append_nil]
            exact hlength
          | cons b rest =>
            obtain ⟨rfl, -⟩ := List.cons.inj hlater
            exact absurd (hrest ▸ List.mem_append_right body List.mem_cons_self) hopen
      obtain ⟨r', hmore, hbrings', hgrown⟩ := receiveJSONObject_more (f := f) turns hopen hroom hbrings
        (List.mem_append_right body List.mem_cons_self)
      obtain ⟨r'', hread, hlater⟩ := ih hbrings' (by omega)
      exact ⟨r'', hmore.trans hread, hlater⟩

/-- Nothing is left. -/
theorem receiveJSONObject_end (turns : Nat) {r : Receiver} (hbrings : r.Brings []) :
    ∃ r', receiveJSONObject f (turns + 1) r = (r', some .ended) ∧ r'.Brings [] := by
  obtain ⟨buffer, arriving, marksLast⟩ := r
  obtain ⟨chunks, rfl, hfilled, hstream⟩ := hbrings
  obtain ⟨rfl, hflatten⟩ := List.append_eq_nil_iff.mp hstream
  cases chunks with
  | cons chunk chunks =>
    rw [List.flatten_cons, List.append_eq_nil_iff] at hflatten
    exact absurd hflatten.1 (hfilled chunk List.mem_cons_self)
  | nil =>
    refine ⟨⟨[], ⟨[], marksLast⟩⟩, ?_, [], rfl, List.forall_mem_nil _, rfl⟩
    have hroom : ¬ ([] : Bytes).length ≥ maxFrameBytes := by decide
    rw [receiveJSONObject, if_neg List.not_mem_nil, if_neg hroom]
    rfl

/-! ## Frames of the gateway -/

variable {py : JsonText.Interpreter}

/-- A line of the gateway is a text of RFC 8259, and the phone takes it for the object it was written from. -/
theorem readLine_frame (hf : f.ReadsStrings) {frame : Object} {line : Bytes}
    (hheld : JsonText.Held py (.dict frame)) (hline : Link.Tcp.encodeFrame py frame = .ok line)
    (hdictionary : f.dictionary line.dropLast = some frame) (hnames : (Value.dict frame).NamesDiffer f.canonical) :
    readLine f line.dropLast = .object frame := by
  obtain ⟨hdumpable, hlength, text, b, htext, hencode, rfl⟩ := Link.Tcp.encodeFrame_ok hline
  have hsome : (dumps false (.dict frame)).isSome = true := by rw [htext]; rfl
  obtain rfl : text = Layout.compact.write 0 (.dict frame) := by
    rw [JsonText.dumps_eq hsome 0] at htext
    exact (Option.some.inj htext).symm
  have hclean := PyStr.encode_isSome.mp (Option.isSome_of_eq_some hencode)
  obtain ⟨t, ht⟩ := JsonGrammar.write_spelt (hheld.readable hdumpable hsome) hclean
  have hbytes : b = (JsonGrammar.Text.mk JsonGrammar.noBlank t JsonGrammar.noBlank).bytes := by
    rw [hclean.encode, Option.some.injEq, ← ht.text] at hencode
    rw [← hencode]
    exact (List.append_nil _).symm
  have hempty : b.isEmpty = false := by
    have hopen : (PyStr.ofString "\x7b").bytes = [0x7B] := by decide
    rw [hclean.encode, Option.some.injEq, Layout.write, JsonText.enclose_compact, PyStr.bytes_append,
      PyStr.bytes_append, hopen] at hencode
    rw [← hencode]
    rfl
  rw [List.dropLast_concat] at hdictionary ⊢
  have hstrict := ((isStrictJSONObject_exact f hf).1 ⟨JsonGrammar.noBlank, t, JsonGrammar.noBlank⟩).mpr
    ⟨hbytes ▸ Option.isSome_of_eq_some hdictionary, ht.names f.canonical hnames⟩
  rw [← hbytes] at hstrict
  have hshort : ¬ b.length > maxFrameBytes := by
    have hmax : Link.Tcp.maxFrameBytes = maxFrameBytes := rfl
    rw [List.length_append, List.length_singleton] at hlength
    omega
  simp [readLine, hempty, hshort, hstrict, hdictionary]

/-- The calls read the lines of a stream, and then its end. -/
theorem receiveObjects_lines {turns : Nat} {bodies : List Bytes} (n : Nat) {r : Receiver}
    (hbodies : ∀ body ∈ bodies, newline ∉ body ∧ body.length < maxFrameBytes)
    (hbrings : r.Brings (bodies.map (· ++ [newline])).flatten)
    (hturns : (bodies.map (· ++ [newline])).flatten.length < turns) :
    receiveObjects f turns (bodies.length + n) r =
      bodies.map (fun body => some (readLine f body)) ++ List.replicate n (some .ended) := by
  induction bodies generalizing r with
  | nil =>
    rw [List.length_nil, Nat.zero_add, List.map_nil, List.nil_append]
    obtain ⟨turns, rfl⟩ : ∃ k, turns = k + 1 := ⟨turns - 1, by omega⟩
    rw [List.map_nil, List.flatten_nil] at hbrings
    induction n generalizing r with
    | zero => rfl
    | succ n ih =>
      obtain ⟨r', hend, hbrings'⟩ := receiveJSONObject_end (f := f) turns hbrings
      rw [receiveObjects, hend, List.replicate_succ]
      exact congrArg _ (ih hbrings')
  | cons body bodies ih =>
    obtain ⟨⟨hbody, hlength⟩, hbodies⟩ := List.forall_mem_cons.mp hbodies
    rw [List.map_cons, List.flatten_cons, List.append_assoc, List.singleton_append] at hbrings hturns
    have hroom : (body ++ newline :: (bodies.map (· ++ [newline])).flatten).length <
        turns + r.receiveBuffer.length :=
      Nat.lt_add_right _ hturns
    obtain ⟨r', hread, hlater⟩ := receiveJSONObject_line (f := f) hbody hlength hbrings hroom
    rw [List.length_cons, Nat.succ_add, receiveObjects, hread, List.map_cons, List.cons_append]
    refine congrArg _ (ih hbodies hlater ?_)
    rw [List.length_append, List.length_cons] at hturns
    omega

/-- However the network cuts the stream of the gateway, the calls return the objects whose frames it wrote, in
their order, and then the end. Whatever else may arrive, what is held back never exceeds a frame. -/
theorem receiveJSONObject_frames (f : Foundation) (hf : f.ReadsStrings) (py : JsonText.Interpreter) :
    (∀ (frames : List Object) (lines chunks : List Bytes) (marksLast : Bool) (turns n : Nat),
      (∀ frame ∈ frames, JsonText.Held py (.dict frame) ∧ (Value.dict frame).NamesDiffer f.canonical) →
      List.Forall₂ (fun frame line => Link.Tcp.encodeFrame py frame = .ok line ∧
        f.dictionary line.dropLast = some frame) frames lines →
      chunks.flatten = lines.flatten → (∀ chunk ∈ chunks, chunk ≠ []) → lines.flatten.length < turns →
      receiveObjects f turns (frames.length + n) ⟨[], ⟨chunks.map some, marksLast⟩⟩ =
        frames.map (fun frame => some (.object frame)) ++ List.replicate n (some .ended)) ∧
    ∀ (turns calls : Nat) (c : Connection),
      ((fun r => (receiveJSONObject f turns r).1)^[calls] ⟨[], c⟩).receiveBuffer.length ≤ maxFrameBytes := by
  constructor
  · intro frames lines chunks marksLast turns n hframes hlines hchunks hfilled hturns
    -- a line is its frame and the line feed
    obtain ⟨hbodies, hread⟩ : (∀ line ∈ lines, line = line.dropLast ++ [newline] ∧ newline ∉ line.dropLast ∧
          line.dropLast.length < maxFrameBytes) ∧
        lines.map (fun line => some (readLine f line.dropLast)) =
          frames.map (fun frame => some (.object frame)) := by
      clear hchunks hturns
      induction hlines with
      | nil => exact ⟨List.forall_mem_nil _, rfl⟩
      | @cons frame line frames lines hline hlines ih =>
        obtain ⟨⟨hheld, hnames⟩, hframes⟩ := List.forall_mem_cons.mp hframes
        obtain ⟨hbodies, hread⟩ := ih hframes
        obtain ⟨⟨body, hbody, rfl⟩, -⟩ := Link.Tcp.encodeFrame_read hheld hline.1
        obtain ⟨-, hlength, -⟩ := Link.Tcp.encodeFrame_ok hline.1
        rw [List.map_cons, List.map_cons, readLine_frame hf hheld hline.1 hline.2 hnames, hread]
        refine ⟨List.forall_mem_cons.mpr ⟨?_, hbodies⟩, rfl⟩
        rw [List.dropLast_concat]
        refine ⟨rfl, hbody, ?_⟩
        rw [List.length_append, List.length_singleton] at hlength
        exact hlength
    have hstream : ((lines.map List.dropLast).map (· ++ [newline])).flatten = lines.flatten := by
      rw [List.map_map]
      refine congrArg List.flatten ?_
      refine (List.map_congr_left fun line hline => ?_).trans (List.map_id lines)
      exact (hbodies line hline).1.symm
    have hall : ∀ body ∈ lines.map List.dropLast, newline ∉ body ∧ body.length < maxFrameBytes := by
      intro body hbody
      obtain ⟨line, hline, rfl⟩ := List.mem_map.mp hbody
      exact (hbodies line hline).2
    have hcount : frames.length = (lines.map List.dropLast).length := by
      rw [List.length_map, hlines.length_eq]
    rw [hcount, receiveObjects_lines n hall ⟨chunks, rfl, hfilled, ?_⟩ (by rwa [hstream]), List.map_map, ← hread]
    · rfl
    · rw [hstream, ← hchunks]
      rfl
  · intro turns calls c
    induction calls with
    | zero => exact Nat.zero_le _
    | succ calls ih =>
      rw [Function.iterate_succ_apply']
      exact receiveJSONObject_bounded ih

theorem receiveJSONObject_two_pieces :
    receiveObjects plainFoundation 99 2 ⟨[], ⟨[(PyStr.ofString "\x7b\"a\":").bytes,
        (PyStr.ofString "\x7b\x7d\x7d\n").bytes].map some, true⟩⟩ =
      [some (.object [(PyStr.ofString "a", .dict [])]), some .ended] := by
  have hheld : JsonText.Held .default (.dict []) := .dict _ List.nodup_nil (List.forall_mem_nil _)
  have hdiffer : (Value.dict []).NamesDiffer id := .dict _ List.nodup_nil (List.forall_mem_nil _)
  refine (receiveJSONObject_frames plainFoundation plainFoundation_reads .default).1
    [[(PyStr.ofString "a", .dict [])]] [(PyStr.ofString "\x7b\"a\":\x7b\x7d\x7d\n").bytes]
    [(PyStr.ofString "\x7b\"a\":").bytes, (PyStr.ofString "\x7b\x7d\x7d\n").bytes] true 99 1 ?_
    (.cons ⟨rfl, rfl⟩ .nil) (by decide) (by decide) (by decide)
  refine List.forall_mem_singleton.mpr ⟨?_, ?_⟩
  · exact .dict _ (List.nodup_singleton _) (List.forall_mem_singleton.mpr hheld)
  · exact .dict _ (List.nodup_singleton _) (List.forall_mem_singleton.mpr hdiffer)

end Pipa.Mobile
