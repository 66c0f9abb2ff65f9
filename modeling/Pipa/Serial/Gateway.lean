import Pipa.Core.ClientMessages
import Pipa.Lib.Lines
import Pipa.Lib.Machine

/- `_serve_connection` of the two serial gateways (`pipa_serial_gateway.py`,
   `secure_serial_gateway.py`), and when what they dispatch does not depend on how
   the port cuts the stream into reads.

   Both loops treat every result of `read_until` as one message, and drop what
   waits in the port behind one that is too long. A read ends early when its
   timeout expires, so a line can come in pieces, and each piece is then taken
   for a message.

   `json.loads` and the connection object behind the gateway are parameters; the
   idle, stop and trust checks before a read end a run, and a run may end
   anywhere. A gateway that has left its loop ignores what is still sent. -/
namespace Pipa.Serial
open Pipa.Lib Pipa.Core

def newline : UInt8 := 0x0A
def hash : UInt8 := 0x23

/-- `MAX_LINE_BYTES`. -/
def maxLineBytes : Nat := 12000

/-- `raw.startswith(b"#")`. -/
def isComment (raw : Bytes) : Bool := raw.head? = some hash

/-! ## The loop -/

/-- What the two gateways put into the loop. -/
structure Handler (σ : Type) where
  closed : σ → Bool
  tooLong : σ → σ
  line : σ → Bytes → σ

/-- What one turn of the loop does with a non-empty read. -/
def Handler.receive {σ : Type} (h : Handler σ) (s : σ) (raw : Bytes) : σ :=
  if h.closed s || isComment raw then s
  else if raw.length > maxLineBytes then h.tooLong s
  else h.line s raw

/-- How the port answers one `read_until`: what has arrived before its timeout expires, and what
waits in the port after it. -/
structure Arrival where
  available : Nat
  waiting : Nat

/-- A gateway at its port. `taken` is a history variable: what was read or dropped so far. -/
structure Link (σ : Type) where
  gateway : σ
  stream : Bytes
  taken : Bytes

namespace Link
variable {σ : Type}

/-- `connection.read_until(b"\n", MAX_LINE_BYTES + 1)`. -/
def read (l : Link σ) (a : Arrival) : Bytes := readUntil newline (maxLineBytes + 1) (l.stream.take a.available)

/-- What `connection.reset_input_buffer()` drops, where it is called. -/
def dropped (h : Handler σ) (l : Link σ) (a : Arrival) : Bytes :=
  if !h.closed l.gateway && !isComment (l.read a) && (l.read a).length > maxLineBytes then
    (l.stream.drop (l.read a).length).take a.waiting
  else []

/-- One turn of the loop. -/
def turn (h : Handler σ) (l : Link σ) (a : Arrival) : Link σ :=
  let gone := l.read a ++ l.dropped h a
  { gateway := if (l.read a).isEmpty then l.gateway else h.receive l.gateway (l.read a)
    stream := l.stream.drop gone.length
    taken := l.taken ++ gone }

def machine (h : Handler σ) (s : σ) (stream : Bytes) : Machine (Link σ) Arrival Unit where
  init := ⟨s, stream, []⟩
  step l a := (l.turn h a, ())

end Link

/-- The same lines, each delivered whole whatever its length. -/
def deliver {σ : Type} (h : Handler σ) (s : σ) (stream : Bytes) : σ :=
  (splitLines newline stream).1.foldl h.receive s

/-! ## Gateway v1 -/

/-- The exceptions of `json.loads` and of the connection that the loop tells apart. -/
inductive Failure where
  | protocolError | other

/-- `ConnectionResult`. -/
structure ConnectionResult where
  responses : List Object
  close : Bool

/-- The locals of `SerialGateway._serve_connection`; `dispatched` and `sent` are what was given to
`protocol.process` and to `_send`. -/
structure SerialGateway (σ : Type) where
  protocol : σ
  protocolErrors : Nat := 0
  closed : Bool := false
  dispatched : List ClientMessage := []
  sent : List Object := []

namespace SerialGateway
variable {σ : Type} (loads : Bytes → Except Failure Object)
  (process : σ → ClientMessage → σ × Except Failure ConnectionResult)

def maxProtocolErrors : Nat := 5

/-- `server_message("error", code=...)`. -/
def errorMessage (code : String) : Object :=
  [(PyStr.ofString "protocol_version", .int 1), (PyStr.ofString "type", .str (PyStr.ofString "error")),
   (PyStr.ofString "code", .str (PyStr.ofString code))]

def tooLong (g : SerialGateway σ) : SerialGateway σ :=
  { g with
    sent := g.sent ++ [errorMessage "message_too_large"]
    protocolErrors := g.protocolErrors + 1
    closed := g.protocolErrors + 1 ≥ maxProtocolErrors }

/-- The `except` clauses of the loop. -/
def failed (g : SerialGateway σ) : Failure → SerialGateway σ
  | .protocolError =>
    { g with
      protocolErrors := g.protocolErrors + 1
      sent := g.sent ++ [errorMessage "protocol_error"]
      closed := g.protocolErrors + 1 ≥ maxProtocolErrors }
  | .other => { g with sent := g.sent ++ [errorMessage "internal_error"], closed := true }

def line (g : SerialGateway σ) (raw : Bytes) : SerialGateway σ :=
  match loads raw with
  | .error e => g.failed e
  | .ok payload =>
    match parseClientMessage payload with
    | none => g.failed .protocolError
    | some message =>
      let r := process g.protocol message
      let g' := { g with protocol := r.1, dispatched := g.dispatched ++ [message] }
      match r.2 with
      | .error e => g'.failed e
      | .ok result =>
        { g' with protocolErrors := 0, sent := g'.sent ++ result.responses, closed := result.close }

def handler : Handler (SerialGateway σ) where
  closed := SerialGateway.closed
  tooLong := tooLong
  line := line loads process

end SerialGateway

/-! ## Gateway v2 -/

/-- The connection object of gateway v2; a failure is any exception. -/
structure SecureCore (σ : Type) where
  authenticated : σ → Bool
  acceptClientHello : σ → Object → σ × Option Object
  processFrame : σ → Object → σ × Option (List Object)

/-- `_CLIENT_HELLO_FIELDS`. -/
def clientHelloFields : List PyStr :=
  ["client_ephemeral_public_key", "client_id", "client_nonce", "protocol_version", "session_id",
   "signature"].map PyStr.ofString

/-- `set(payload) == _CLIENT_HELLO_FIELDS and payload.get("protocol_version") == 2`. -/
def startsHandshake (payload : Object) : Bool :=
  payload.keys.all clientHelloFields.contains && clientHelloFields.all payload.keys.contains &&
    ((payload.get? (PyStr.ofString "protocol_version")).getD .null).equalsInt 2

/-- The bytes `_send` makes of a payload: `none` where it raises. -/
def encodeLine (payload : Object) : Option Bytes :=
  (dumps false (.dict payload)).bind (fun text => (text ++ PyStr.ofString "\n").encode)

/-- The locals of `SecureSerialGateway._serve_connection`; `dispatched` is what was given to the
connection object and `written` what reached the port. -/
structure SecureSerialGateway (σ : Type) where
  secureCore : σ
  closed : Bool := false
  dispatched : List Object := []
  written : List Object := []

namespace SecureSerialGateway
variable {σ : Type} (loads : Bytes → Option Object) (core : SecureCore σ)

/-- `_send`: a payload that is too long is logged and not written. -/
def send (g : SecureSerialGateway σ) (payload : Object) : SecureSerialGateway σ :=
  if g.closed then g
  else match encodeLine payload with
    | none => { g with closed := true }
    | some encoded => if encoded.length > maxLineBytes then g else { g with written := g.written ++ [payload] }

def tooLong (g : SecureSerialGateway σ) : SecureSerialGateway σ := { g with closed := true }

/-- One parsed message. -/
def dispatch (g : SecureSerialGateway σ) (payload : Object) : SecureSerialGateway σ :=
  if !core.authenticated g.secureCore then
    if !startsHandshake payload then { g with closed := true }
    else
      let r := core.acceptClientHello g.secureCore payload
      let g' := { g with secureCore := r.1, dispatched := g.dispatched ++ [payload] }
      match r.2 with
      | none => { g' with closed := true }
      | some serverHello => g'.send serverHello
  else
    let r := core.processFrame g.secureCore payload
    let g' := { g with secureCore := r.1, dispatched := g.dispatched ++ [payload] }
    match r.2 with
    | none => { g' with closed := true }
    | some responses => responses.foldl send g'

def line (g : SecureSerialGateway σ) (raw : Bytes) : SecureSerialGateway σ :=
  match loads raw with
  | none => { g with closed := true }
  | some payload => dispatch core g payload

def handler : Handler (SecureSerialGateway σ) where
  closed := SecureSerialGateway.closed
  tooLong := tooLong
  line := line loads core

end SecureSerialGateway

/-! ## Reads that keep to the lines -/

section
variable {σ : Type} {h : Handler σ}

/-- The line that has begun and not ended in what was taken. -/
def Link.pending (l : Link σ) : Bytes := (splitLines newline l.taken).2

/-- A line with nothing but comments behind it. -/
def WholeLine (bytes : Bytes) : Prop :=
  (splitLines newline bytes).2 = [] ∧ ∀ line ∈ (splitLines newline bytes).1.tail, isComment line = true

/-- The turn of an open gateway keeps to the lines: its read is empty, a piece of a comment that
looks like one, or a whole line; or it is the start of a line that is too long, and the gateway
closes there or drops exactly the rest. -/
def Link.Framed (h : Handler σ) (l : Link σ) (a : Arrival) : Prop :=
  h.closed l.gateway = true ∨ l.read a = [] ∨
  (isComment (l.read a) = true ∧ (l.pending = [] ∨ isComment l.pending = true)) ∨
  (l.pending = [] ∧ (l.read a).length ≤ maxLineBytes ∧ (l.read a).getLast? = some newline) ∨
  (l.pending = [] ∧ (l.read a).length > maxLineBytes ∧
    (h.closed (h.tooLong l.gateway) = true ∨ WholeLine (l.read a ++ l.dropped h a)))

theorem receive_closed {s : σ} (hs : h.closed s = true) (raw : Bytes) : h.receive s raw = s := by
  simp [Handler.receive, hs]

theorem receive_comment (s : σ) {raw : Bytes} (hraw : isComment raw = true) : h.receive s raw = s := by
  simp [Handler.receive, hraw]

theorem receive_tooLong {s : σ} (hs : h.closed s = false) {raw : Bytes} (hraw : isComment raw = false)
    (hlong : raw.length > maxLineBytes) : h.receive s raw = h.tooLong s := by
  simp [Handler.receive, hs, hraw, hlong]

theorem foldl_receive_closed {s : σ} (hs : h.closed s = true) (lines : List Bytes) :
    lines.foldl h.receive s = s := by
  induction lines with
  | nil => rfl
  | cons line lines ih => rw [List.foldl_cons, receive_closed hs, ih]

theorem foldl_receive_comments (s : σ) {lines : List Bytes} (hlines : ∀ line ∈ lines, isComment line = true) :
    lines.foldl h.receive s = s := by
  induction lines with
  | nil => rfl
  | cons line lines ih =>
    rw [List.foldl_cons, receive_comment s (hlines line List.mem_cons_self)]
    exact ih (fun m hm => hlines m (List.mem_cons_of_mem line hm))

theorem deliver_append (s : σ) (xs ys : Bytes) :
    deliver h s (xs ++ ys) =
      (splitLines newline ((splitLines newline xs).2 ++ ys)).1.foldl h.receive (deliver h s xs) := by
  simp only [deliver]
  rw [splitLines_append, List.foldl_append]

theorem isComment_append {xs : Bytes} (hxs : xs ≠ []) (ys : Bytes) : isComment (xs ++ ys) = isComment xs := by
  cases xs with
  | nil => exact absurd rfl hxs
  | cons b xs => rfl

theorem Link.read_cases (l : Link σ) (a : Arrival) : newline ∉ l.read a ∨ IsLine newline (l.read a) :=
  readUntil_cases newline _ _

/-- How a gateway stands to one that got the lines whole: they are equal, or it has closed at a
line that the other has not seen the end of. -/
inductive Follows (h : Handler σ) (reference : σ) (pending : Bytes) : σ → Prop
  | same (hpending : h.closed reference = true ∨ pending = [] ∨ isComment pending = true) :
      Follows h reference pending reference
  | ahead (hopen : h.closed reference = false) (hclosed : h.closed (h.tooLong reference) = true)
      (hpending : isComment pending = false) (hlong : pending.length > maxLineBytes) :
      Follows h reference pending (h.tooLong reference)

/-- What more bytes do to the gateway that gets the lines whole. -/
def Link.Kept (h : Handler σ) (s : σ) (l : Link σ) : Prop := Follows h (deliver h s l.taken) l.pending l.gateway

/-- A closed gateway follows whatever comes. -/
theorem Follows.closed {s g : σ} {taken : Bytes} (hkept : Follows h (deliver h s taken) (splitLines newline taken).2 g)
    (hg : h.closed g = true) {raw : Bytes} (hraw : newline ∉ raw ∨ IsLine newline raw) :
    Follows h (deliver h s (taken ++ raw)) (splitLines newline (taken ++ raw)).2 g := by
  cases hkept with
  | same hpending =>
    have hsame : deliver h s (taken ++ raw) = deliver h s taken := by
      rw [deliver_append, foldl_receive_closed hg]
    rw [← hsame] at hg ⊢
    exact .same (Or.inl hg)
  | ahead hopen hclosed hpending hlong =>
    have hne : (splitLines newline taken).2 ≠ [] := by
      intro h0
      rw [h0] at hlong
      exact absurd hlong (by decide)
    have hcomment := isComment_append hne raw
    have hlength : ((splitLines newline taken).2 ++ raw).length > maxLineBytes := by
      rw [List.length_append]
      omega
    have hold := (splitLines_spec newline taken).2.1
    obtain hopen' | hline := hraw
    · -- the line goes on
      have hsplit : splitLines newline ((splitLines newline taken).2 ++ raw) =
          ([], (splitLines newline taken).2 ++ raw) := splitLines_unfinished (by simp [hold, hopen'])
      have hsame : deliver h s (taken ++ raw) = deliver h s taken := by rw [deliver_append, hsplit]; rfl
      rw [hsame, splitLines_append, hsplit]
      exact .ahead hopen hclosed (hcomment.trans hpending) hlength
    · -- the line ends, and the other gateway closes at it as well
      have hwhole : IsLine newline ((splitLines newline taken).2 ++ raw) := by
        obtain ⟨body, hbody, rfl⟩ := hline
        exact ⟨(splitLines newline taken).2 ++ body, by simp [hold, hbody], by rw [List.append_assoc]⟩
      have hsplit := splitLines_line_append hwhole []
      rw [List.append_nil] at hsplit
      have hend : deliver h s (taken ++ raw) = h.tooLong (deliver h s taken) := by
        rw [deliver_append, hsplit]
        exact receive_tooLong hopen (hcomment.trans hpending) hlength
      rw [← hend] at hclosed ⊢
      exact .same (Or.inl hclosed)

/-- A piece of a comment leaves the gateway where it was. -/
theorem Follows.comment {s : σ} {taken raw : Bytes}
    (hpending : (splitLines newline taken).2 = [] ∨ isComment (splitLines newline taken).2 = true)
    (hcomment : isComment raw = true) (hraw : newline ∉ raw ∨ IsLine newline raw) :
    Follows h (deliver h s (taken ++ raw)) (splitLines newline (taken ++ raw)).2 (deliver h s taken) := by
  have hold := (splitLines_spec newline taken).2.1
  have hboth : isComment ((splitLines newline taken).2 ++ raw) = true := by
    by_cases hnil : (splitLines newline taken).2 = []
    · rw [hnil]
      exact hcomment
    · rw [isComment_append hnil]
      exact hpending.resolve_left hnil
  obtain hopen | ⟨body, hbody, rfl⟩ := hraw
  · have hunfinished : newline ∉ (splitLines newline taken).2 ++ raw := by simp [hold, hopen]
    have hsplit := splitLines_unfinished hunfinished
    have hsame : deliver h s (taken ++ raw) = deliver h s taken := by rw [deliver_append, hsplit]; rfl
    rw [hsame, splitLines_append, hsplit]
    exact .same (Or.inr (Or.inr hboth))
  · have hwhole : IsLine newline ((splitLines newline taken).2 ++ (body ++ [newline])) :=
      ⟨(splitLines newline taken).2 ++ body, by simp [hold, hbody], by rw [List.append_assoc]⟩
    have hsplit := splitLines_line_append hwhole []
    rw [List.append_nil] at hsplit
    have hsame : deliver h s (taken ++ (body ++ [newline])) = deliver h s taken := by
      rw [deliver_append, hsplit]
      exact receive_comment _ hboth
    rw [hsame, splitLines_append, hsplit]
    exact .same (Or.inr (Or.inl rfl))

/-- A whole line takes both gateways the same step. -/
theorem Follows.line {s : σ} {taken raw : Bytes} (hpending : (splitLines newline taken).2 = [])
    (hraw : IsLine newline raw) :
    Follows h (deliver h s (taken ++ raw)) (splitLines newline (taken ++ raw)).2
      (h.receive (deliver h s taken) raw) := by
  have hsplit := splitLines_line_append hraw []
  rw [List.append_nil] at hsplit
  have hstep : deliver h s (taken ++ raw) = h.receive (deliver h s taken) raw := by
    rw [deliver_append, hpending, List.nil_append, hsplit]
    rfl
  rw [← hstep, splitLines_append, hpending, List.nil_append, hsplit]
  exact .same (Or.inr (Or.inl rfl))

/-- At the start of a line that is too long the gateway closes, or drops exactly the rest. -/
theorem Follows.tooLong {s : σ} {taken raw dropped : Bytes} (hopen : h.closed (deliver h s taken) = false)
    (hpending : (splitLines newline taken).2 = []) (hraw : newline ∉ raw ∨ IsLine newline raw)
    (hcomment : isComment raw = false) (hlong : raw.length > maxLineBytes)
    (hend : h.closed (h.tooLong (deliver h s taken)) = true ∨ WholeLine (raw ++ dropped)) :
    Follows h (deliver h s (taken ++ (raw ++ dropped))) (splitLines newline (taken ++ (raw ++ dropped))).2
      (h.tooLong (deliver h s taken)) := by
  have hne : raw ≠ [] := by
    rintro rfl
    exact absurd hlong (by decide)
  have hdeliver := deliver_append (h := h) s taken (raw ++ dropped)
  rw [hpending, List.nil_append] at hdeliver
  obtain hgoes | ⟨rest, lines, hlines⟩ := splitLines_begun hraw dropped
  · -- no end of the line yet
    rw [splitLines_unfinished hgoes] at hdeliver
    obtain hclosed | hwhole := hend
    · rw [hdeliver, splitLines_append, hpending, List.nil_append, splitLines_unfinished hgoes]
      refine .ahead hopen hclosed ((isComment_append hne _).trans hcomment) ?_
      rw [List.length_append]
      omega
    · rw [WholeLine, splitLines_unfinished hgoes] at hwhole
      exact absurd hwhole.1 (by simp [hne])
  · rw [hlines, List.foldl_cons, receive_tooLong hopen ((isComment_append hne _).trans hcomment)
      (by rw [List.length_append]; omega)] at hdeliver
    obtain hclosed | ⟨hrest, hcomments⟩ := hend
    · rw [foldl_receive_closed hclosed] at hdeliver
      rw [← hdeliver] at hclosed ⊢
      exact .same (Or.inl hclosed)
    · rw [hlines, List.tail_cons] at hcomments
      rw [foldl_receive_comments _ hcomments] at hdeliver
      rw [hdeliver, splitLines_append, hpending, List.nil_append, hrest]
      exact .same (Or.inr (Or.inl rfl))

theorem Link.dropped_eq_nil {l : Link σ} {a : Arrival}
    (hnone : h.closed l.gateway = true ∨ isComment (l.read a) = true ∨ (l.read a).length ≤ maxLineBytes) :
    l.dropped h a = [] := by
  unfold dropped
  rw [if_neg]
  obtain hclosed | hcomment | hshort := hnone
  · simp [hclosed]
  · simp [hcomment]
  · simp [Nat.not_lt.mpr hshort]

theorem Link.Kept.turn {s : σ} {l : Link σ} (hkept : l.Kept h s) {a : Arrival} (hframed : l.Framed h a) :
    (l.turn h a).Kept h s := by
  have hraw := l.read_cases a
  by_cases hnil : l.read a = []
  · have hdropped : l.dropped h a = [] := Link.dropped_eq_nil (by simp [hnil])
    simpa [Kept, Link.turn, Link.pending, hnil, hdropped] using hkept
  by_cases hclosed : h.closed l.gateway = true
  · have hdropped : l.dropped h a = [] := Link.dropped_eq_nil (Or.inl hclosed)
    have hgateway : (l.turn h a).gateway = l.gateway := by
      simp [Link.turn, hnil, receive_closed hclosed]
    unfold Kept Link.pending
    rw [hgateway]
    simp only [Link.turn, hdropped, List.append_nil]
    exact Follows.closed hkept hclosed hraw
  -- an open gateway is where the other one is
  have hgateway : l.gateway = deliver h s l.taken ∧ (l.pending = [] ∨ isComment l.pending = true) := by
    unfold Kept at hkept
    generalize l.gateway = g at hkept hclosed
    cases hkept with
    | same hpending => exact ⟨rfl, hpending.resolve_left hclosed⟩
    | ahead _ hahead => exact absurd hahead hclosed
  obtain ⟨hgateway, hpending⟩ := hgateway
  have hopen : h.closed (deliver h s l.taken) = false := by
    rw [← hgateway]
    exact Bool.eq_false_iff.mpr hclosed
  have hturn : (l.turn h a).gateway = h.receive (deliver h s l.taken) (l.read a) := by
    simp [Link.turn, hnil, ← hgateway]
  unfold Kept Link.pending
  rw [hturn]
  by_cases hcomment : isComment (l.read a) = true
  · rw [receive_comment _ hcomment]
    simp only [Link.turn, Link.dropped_eq_nil (Or.inr (Or.inl hcomment)), List.append_nil]
    exact Follows.comment hpending hcomment hraw
  obtain hframed | hframed | hframed | ⟨hnone, hshort, hend⟩ | ⟨hnone, hlong, hend⟩ := hframed
  · exact absurd hframed hclosed
  · exact absurd hframed hnil
  · exact absurd hframed.1 hcomment
  · simp only [Link.turn, Link.dropped_eq_nil (Or.inr (Or.inr hshort)), List.append_nil]
    have hline : IsLine newline (l.read a) :=
      hraw.resolve_left (fun hnot => hnot (List.mem_of_getLast? hend))
    exact Follows.line hnone hline
  · rw [receive_tooLong hopen (Bool.eq_false_iff.mpr hcomment) hlong]
    rw [hgateway] at hend
    exact Follows.tooLong hopen hnone hraw (Bool.eq_false_iff.mpr hcomment) hlong hend

theorem Link.read_append_drop (l : Link σ) (a : Arrival) :
    l.read a ++ l.stream.drop (l.read a).length = l.stream := by
  have hread : l.read a <+: l.stream := by
    have htake := readUntil_eq_take newline (maxLineBytes + 1) (l.stream.take a.available)
    unfold read
    rw [htake]
    exact (List.take_prefix _ _).trans (List.take_prefix _ _)
  exact List.prefix_iff_eq_append.mp hread

/-- A turn takes its bytes from the front of the stream. -/
theorem Link.turn_stream (h : Handler σ) (l : Link σ) (a : Arrival) :
    l.read a ++ l.dropped h a ++ (l.turn h a).stream = l.stream := by
  have hstream : (l.turn h a).stream = (l.stream.drop (l.read a).length).drop (l.dropped h a).length := by
    rw [List.drop_drop, ← List.length_append]
    rfl
  have hdropped : l.dropped h a ++ (l.turn h a).stream = l.stream.drop (l.read a).length := by
    rw [hstream]
    unfold dropped
    split
    · exact List.prefix_iff_eq_append.mp (List.take_prefix _ _)
    · rfl
  rw [List.append_assoc, hdropped, l.read_append_drop a]

/-- What was taken and what is left make up the stream. -/
theorem Link.run_taken (h : Handler σ) (s : σ) (stream : Bytes) (arrivals : List Arrival) :
    ((machine h s stream).run arrivals).taken ++ ((machine h s stream).run arrivals).stream = stream := by
  induction arrivals using List.reverseRecOn with
  | nil => rfl
  | append_singleton pre a ih =>
    rw [Machine.run_concat]
    generalize (machine h s stream).run pre = l at ih ⊢
    have hturn := l.turn_stream h a
    show l.taken ++ (l.read a ++ l.dropped h a) ++ (l.turn h a).stream = stream
    rw [List.append_assoc, hturn, ih]

theorem run_kept {s : σ} {stream : Bytes} {arrivals : List Arrival}
    (hframed : (Link.machine h s stream).Along (Link.Framed h) arrivals) :
    ((Link.machine h s stream).run arrivals).Kept h s :=
  Machine.inv_along (P := Link.Framed h) (.same (Or.inr (Or.inl rfl))) (fun _ _ hkept hf => hkept.turn hf) hframed

/-- What was dispatched is what would have been dispatched if the lines of the stream, as far as
it was taken, had been delivered whole. -/
def SameAsWhole {μ : Type} (h : Handler σ) (dispatched : σ → List μ) (s : σ) (stream : Bytes)
    (arrivals : List Arrival) : Prop :=
  ((Link.machine h s stream).run arrivals).taken ++ ((Link.machine h s stream).run arrivals).stream = stream ∧
  dispatched ((Link.machine h s stream).run arrivals).gateway =
    dispatched (deliver h s ((Link.machine h s stream).run arrivals).taken)

theorem run_sameAsWhole {μ : Type} {dispatched : σ → List μ}
    (htooLong : ∀ s, dispatched (h.tooLong s) = dispatched s) {s : σ} {stream : Bytes} {arrivals : List Arrival}
    (hframed : (Link.machine h s stream).Along (Link.Framed h) arrivals) :
    SameAsWhole h dispatched s stream arrivals := by
  refine ⟨Link.run_taken h s stream arrivals, ?_⟩
  have hkept := run_kept hframed
  unfold Link.Kept at hkept
  generalize ((Link.machine h s stream).run arrivals).gateway = g at hkept ⊢
  cases hkept with
  | same _ => rfl
  | ahead _ _ _ _ => exact htooLong _

end

/-! ## The two gateways -/

/-- Both gateways, whatever parses their messages and answers them, over every run whose turns
keep to the lines. -/
theorem dispatched_by_lines {σ τ : Type} (loads : Bytes → Except Failure Object)
    (process : σ → ClientMessage → σ × Except Failure ConnectionResult) (protocol : σ)
    (strictJson : Bytes → Option Object) (core : SecureCore τ) (secureCore : τ)
    (stream : Bytes) (arrivals : List Arrival) :
    ((Link.machine (SerialGateway.handler loads process) {protocol := protocol} stream).Along
        (Link.Framed (SerialGateway.handler loads process)) arrivals →
      SameAsWhole (SerialGateway.handler loads process) SerialGateway.dispatched {protocol := protocol} stream
        arrivals) ∧
    ((Link.machine (SecureSerialGateway.handler strictJson core) {secureCore := secureCore} stream).Along
        (Link.Framed (SecureSerialGateway.handler strictJson core)) arrivals →
      SameAsWhole (SecureSerialGateway.handler strictJson core) SecureSerialGateway.dispatched
        {secureCore := secureCore} stream arrivals) := by
  constructor
  · intro hframed
    exact run_sameAsWhole (fun _ => rfl) hframed
  · intro hframed
    exact run_sameAsWhole (fun _ => rfl) hframed

/-- A ping as the firmware writes it. -/
def pingLine : Bytes := (PyStr.ofString "\x7b\"protocol_version\":1,\"type\":\"ping\"\x7d\n").bytes

def pingObject : Object :=
  [(PyStr.ofString "protocol_version", .int 1), (PyStr.ofString "type", .str (PyStr.ofString "ping"))]

/-- `json.loads` on the ping and on pieces of it, which are no JSON. -/
def pingLoads (raw : Bytes) : Except Failure Object :=
  if raw = pingLine then .ok pingObject else .error .protocolError

/-- A connection that is not authenticated yet answers a ping with an error. -/
def pingProcess (_ : Unit) (_ : ClientMessage) : Unit × Except Failure ConnectionResult :=
  ((), .ok ⟨[SerialGateway.errorMessage "authentication_required"], false⟩)

def pingHandler : Handler (SerialGateway Unit) := SerialGateway.handler pingLoads pingProcess

/-- A ClientHello that no key signed. -/
def unsignedHello : Object :=
  clientHelloFields.map (fun field =>
    (field, if field = PyStr.ofString "protocol_version" then .int 2 else .str (PyStr.ofString "A")))

def unsignedLine : Bytes := (encodeLine unsignedHello).getD []

def unsignedLoads (raw : Bytes) : Option Object := if raw = unsignedLine then some unsignedHello else none

/-- A connection that refuses it. -/
def refusingCore : SecureCore Unit := ⟨fun _ => false, fun _ _ => ((), none), fun _ _ => ((), none)⟩

def refusingHandler : Handler (SecureSerialGateway Unit) := SecureSerialGateway.handler unsignedLoads refusingCore

/-- Two reads that return a line each. -/
def wholeReads : List Arrival := [⟨64, 0⟩, ⟨64, 0⟩]

theorem dispatched_by_lines_twoPings :
    SameAsWhole pingHandler SerialGateway.dispatched { protocol := () } (pingLine ++ pingLine) wholeReads ∧
    ((Link.machine pingHandler { protocol := () } (pingLine ++ pingLine)).run wholeReads).gateway.dispatched.length
      = 2 ∧
    SameAsWhole refusingHandler SecureSerialGateway.dispatched { secureCore := () } unsignedLine [⟨200, 0⟩] := by
  have hboth := dispatched_by_lines pingLoads pingProcess () unsignedLoads refusingCore ()
  refine ⟨(hboth _ _).1 ?_, by decide, (hboth _ _).2 ?_⟩
  · -- neither read leaves anything of a line behind
    have hfirst : (Link.machine pingHandler { protocol := () } (pingLine ++ pingLine)).Along
        (Link.Framed pingHandler) [⟨64, 0⟩] :=
      Machine.Along.nil.concat (Or.inr (Or.inr (Or.inr (Or.inl (by decide)))))
    exact hfirst.concat (Or.inr (Or.inr (Or.inr (Or.inl (by decide)))))
  · exact Machine.Along.nil.concat (Or.inr (Or.inr (Or.inr (Or.inl (by decide +kernel)))))

/-- The read times out ten bytes into the line: what is one message comes as two pieces, and
neither is dispatched. Gateway v2 closes at the first piece. -/
theorem line_lost_in_two_reads :
    ¬ SameAsWhole pingHandler SerialGateway.dispatched { protocol := () } pingLine [⟨10, 0⟩, ⟨64, 0⟩] ∧
    ¬ SameAsWhole refusingHandler SecureSerialGateway.dispatched { secureCore := () } unsignedLine
      [⟨10, 0⟩, ⟨200, 0⟩] := by
  have hserial : ((Link.machine pingHandler { protocol := () } pingLine).run
        [⟨10, 0⟩, ⟨64, 0⟩]).gateway.dispatched.length = 0 ∧
      (deliver pingHandler { protocol := () } ((Link.machine pingHandler { protocol := () } pingLine).run
        [⟨10, 0⟩, ⟨64, 0⟩]).taken).dispatched.length = 1 := by decide
  have hsecure : ((Link.machine refusingHandler { secureCore := () } unsignedLine).run
        [⟨10, 0⟩, ⟨200, 0⟩]).gateway.dispatched.length = 0 ∧
      (deliver refusingHandler { secureCore := () } ((Link.machine refusingHandler { secureCore := () }
        unsignedLine).run [⟨10, 0⟩, ⟨200, 0⟩]).taken).dispatched.length = 1 := by decide +kernel
  constructor
  · intro hsame
    have hlength := congrArg List.length hsame.2
    rw [hserial.1, hserial.2] at hlength
    cases hlength
  · intro hsame
    have hlength := congrArg List.length hsame.2
    rw [hsecure.1, hsecure.2] at hlength
    cases hlength

end Pipa.Serial
