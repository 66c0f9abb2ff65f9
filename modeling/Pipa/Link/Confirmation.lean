import Pipa.Core.Coupling
import Pipa.Lib.Machine
import Pipa.Link.Screen
import Pipa.Secure.Handshake

/- Whether the device shows the confirmation its Core session waits for.

   One authenticated device and its session are joined by two queues of whole
   messages. A message of the device is parsed and given to the Core; one that is
   no valid message is answered with `protocol_error`, and too many of these, or
   an exception, end the conversation and close the session.

   The device takes every error for the end of what it shows. The Core answers
   `confirmation_required` to a gesture or a text that arrives while it waits for
   a confirmation, and follows it with the unchanged `ui_state`. So when such a
   message was in flight as the confirmation was asked for, the device is left
   on the `confirm` screen without an id, and can never answer. -/
namespace Pipa.Link
open Pipa.Lib Pipa.Core Pipa.Secure
open Pipa.Secure.Firmware (cString)
open Pipa.Firmware (Platform PipaProtocol PipaSecureProtocol Output Now JsonObject UiSnapshot isSafeDisplayText
  safeLoop decodeFirst refused)

/-! ## The conversation -/

structure Conversation (δ : Type) where
  device : δ
  toCore : List JsonObject
  toDevice : List ServerMessage
  state : State
  protocolErrors : Nat := 0
  closed : Bool := false

/-- What the transports do differently: how many invalid messages they take, and which messages
they answer themselves. -/
structure Transport where
  maxProtocolErrors : Nat
  answers : ClientMessage → Option ErrorCode
  calm : ∀ m : ClientMessage, m.calm = true → answers m = none

/-- `SerialGateway` with an authenticated `AuthenticatedConnection`. -/
def Transport.v1 : Transport where
  maxProtocolErrors := 5
  answers
    | .challengeRequest _ | .hello .. => some .alreadyAuthenticated
    | _ => none
  calm m hm := by
    cases m with
    | challengeRequest _ => cases hm
    | hello _ _ _ _ _ => cases hm
    | _ => rfl

/-- `SecureSerialGateway` with an authenticated `SecureCoreConnection`. -/
def Transport.v2 : Transport where
  maxProtocolErrors := 3
  answers _ := none
  calm _ _ := rfl

/-- What a call of the Core reads and draws. -/
structure Reading (ω : Type) where
  world : ω
  clock : Clock
  confirmationId : Fixed 12

namespace Conversation
variable {δ ω : Type}

inductive Step (ω : Type) where
  | device (a : PipaProtocol.Step)
  | receive (now : Now)
  | serve (reading : Reading ω)

/-- The documents among the outputs. -/
def documents (outputs : List Output) : List JsonObject :=
  outputs.filterMap (fun output => match output with
    | .json document => some document
    | .log _ => none)

/-- The end of the conversation: `close`. -/
def close (c : Conversation δ) (sid : PyStr) : Conversation δ :=
  { c with closed := true, state := (PipaCore.close c.state sid).state }

/-- A `ProtocolError`. -/
def invalid (transport : Transport) (c : Conversation δ) (sid : PyStr) : Conversation δ :=
  let c := { c with
    toDevice := c.toDevice ++ [.error .protocolError none]
    protocolErrors := c.protocolErrors + 1 }
  if c.protocolErrors ≥ transport.maxProtocolErrors then c.close sid else c

/-- A message goes to the Core. -/
def handle (core : PipaCore ω) (c : Conversation δ) (sid : PyStr) (reading : Reading ω) (m : ClientMessage) :
    Conversation δ :=
  let o := core.handle c.state reading.world reading.clock (encode reading.confirmationId.val) sid m
  let c := { c with state := o.state, protocolErrors := 0 }
  match o.result with
  | .ok messages => { c with toDevice := c.toDevice ++ messages }
  | .error _ => c.close sid

/-- The agent takes a message of the device. -/
def serve (core : PipaCore ω) (transport : Transport) (c : Conversation δ) (sid : PyStr) (reading : Reading ω) :
    Conversation δ :=
  match c.toCore with
  | [] => c
  | document :: rest =>
    let c := { c with toCore := rest }
    if c.closed then c
    else match parse document with
      | none => c.invalid transport sid
      | some m =>
        match transport.answers m with
        | some code => { c with toDevice := c.toDevice ++ [.error code none], protocolErrors := 0 }
        | none => handle core c sid reading m

/-- The device has made a step. -/
def acted (c : Conversation δ) (r : δ × List Output) : Conversation δ :=
  { c with device := r.1, toCore := c.toCore ++ documents r.2 }

def step (D : Device δ) (core : PipaCore ω) (transport : Transport) (sid : PyStr) (c : Conversation δ) :
    Step ω → Conversation δ
  | .device a => c.acted (D.act c.device a)
  | .receive now =>
    match c.toDevice with
    | [] => c
    | m :: rest => { c with toDevice := rest }.acted (D.receive c.device now (document m))
  | .serve reading => c.serve core transport sid reading

/-- How a conversation begins: an authenticated device that shows no confirmation, with what it
has sent so far, and the session the Core has created for it. -/
structure Start (D : Device δ) where
  device : δ
  authenticated : D.authenticated device = true
  clear : D.screen device = .empty
  sent : List JsonObject
  sessionId : Fixed 16
  deviceId : PyStr
  firmwareVersion : Option PyStr
  capabilities : List PyStr
  capabilitiesInitialized : Bool
  clock : Clock

namespace Start
variable {D : Device δ}

def sid (start : Start D) : PyStr := encode start.sessionId.val

/-- The Core's part of the beginning. -/
def ops (ω : Type) (start : Start D) : List (Op ω) :=
  [.create start.deviceId start.firmwareVersion start.capabilities start.capabilitiesInitialized start.sid start.clock]

end Start

def machine (D : Device δ) (core : PipaCore ω) (transport : Transport) (start : Start D) :
    Machine (Conversation δ) (Step ω) Unit where
  init :=
    { device := start.device
      toCore := start.sent
      toDevice := []
      state := (Core.machine core).run (start.ops ω) }
  step c a := (c.step D core transport start.sid a, ())

/-! ## Agreement -/

/-- With nothing in flight, an authenticated device shows the confirmation its session waits for. -/
def Agreed (D : Device δ) (sid : PyStr) (c : Conversation δ) : Prop :=
  c.toCore = [] → c.toDevice = [] → D.authenticated c.device = true →
  ∀ s k r now, c.state.sessions.get? sid = some s → s.state = .confirm → c.state.pending.get? k = some r →
    r.ownerId = some sid → now < r.expiresAt →
    (D.ui c.device).confirmationSummary ≠ [] ∧ (D.ui c.device).confirmationId = r.confirmationId.bytes

/-- While a confirmation is pending, the Core takes no other message of the device than `ping`,
`device_status` and `confirm`. -/
def Undisturbed (D : Device δ) (sid : PyStr) (c : Conversation δ) : Step ω → Prop
  | .serve _ => c.closed = false → D.authenticated c.device = true →
      ∀ document rest s k r, c.toCore = document :: rest → c.state.sessions.get? sid = some s → s.state = .confirm →
        c.state.pending.get? k = some r → r.ownerId = some sid → (parse document).any ClientMessage.calm = true
  | _ => True

end Conversation

/-! ## What the Core asks can be displayed -/

/-- Printable ASCII is safe. -/
theorem safeLoop_printable {bytes : Bytes} (h : ∀ b ∈ bytes, 0x20 ≤ b.toNat ∧ b.toNat < 0x7F) {turns : Nat}
    (hturns : bytes.length ≤ turns) : safeLoop turns bytes = true := by
  induction bytes generalizing turns with
  | nil => simp [safeLoop]
  | cons b bytes ih =>
    cases turns with
    | zero => simp at hturns
    | succ turns =>
      have hb := h b List.mem_cons_self
      have hfirst : decodeFirst (b :: bytes) = some (b.toNat, bytes) := by
        have hle : b ≤ 0x7F := UInt8.le_iff_toNat_le.mpr (by change b.toNat ≤ 127; omega)
        simp only [decodeFirst, if_pos hle]
      have hshown : refused b.toNat = false := by
        simp only [refused, Bool.or_eq_false_iff, Bool.and_eq_false_iff, decide_eq_false_iff_not]
        omega
      rw [safeLoop.eq_def]
      simp only [hfirst, hshown, Bool.not_false, Bool.true_and]
      exact ih (fun c hc => h c (List.mem_cons_of_mem b hc)) (by simpa using hturns)

/-- A confirmation id is shown as it is. -/
theorem confirmationId_safe (b : Fixed 12) :
    cString (encode b.val).bytes = (encode b.val).bytes ∧ isSafeDisplayText (encode b.val).bytes 128 = true := by
  have hplain : Secure.Plain (encode b.val) := encode_idCode b.val
  have hlength : (encode b.val).bytes.length = 16 := by
    rw [hplain.ascii.bytes_eq, List.length_map, encode_length, b.property]
  refine ⟨?_, ?_⟩
  · refine List.takeWhile_eq_self_iff.mpr ?_
    intro c hc
    rw [decide_eq_true_eq]
    rintro rfl
    exact hplain.no_nul hc
  · have hprintable : ∀ c ∈ (encode b.val).bytes, 0x20 ≤ c.toNat ∧ c.toNat < 0x7F := by
      rw [hplain.ascii.bytes_eq]
      intro c hc
      obtain ⟨x, hx, rfl⟩ := List.mem_map.mp hc
      have hcode := hplain x hx
      simp only [idCode, Bool.or_eq_true, Bool.and_eq_true, decide_eq_true_eq, beq_iff_eq] at hcode
      have hsmall : x.val.toUInt8.toNat = x.val := byte_toNat (by omega)
      rw [hsmall]
      omega
    simp only [isSafeDisplayText, hlength, safeLoop_printable hprintable (Nat.le_of_eq hlength), Bool.and_eq_true,
      Bool.not_eq_true', List.isEmpty_eq_false_iff, decide_eq_true_eq, and_true]
    refine ⟨?_, by decide⟩
    intro hempty
    rw [hempty] at hlength
    cases hlength

/-- Every summary fits the screen. -/
theorem summary_safe (tool : PyStr) :
    isSafeDisplayText (cString (PyStr.ofString (deviceConfirmationSummary tool)).bytes) 256 = true := by
  have hall : ∀ text ∈ "Confirmar acción externa." :: deviceConfirmationSummaries.map Prod.snd,
      isSafeDisplayText (cString (PyStr.ofString text).bytes) 256 = true := by decide +kernel
  refine hall _ ?_
  unfold deviceConfirmationSummary textFor
  cases hfound : deviceConfirmationSummaries.find? (fun e => PyStr.ofString e.1 = tool) with
  | none => exact List.mem_cons_self
  | some e => exact List.mem_cons_of_mem _ (List.mem_map_of_mem (List.mem_of_find?_eq_some hfound))

/-- The request of a new record, on an empty screen. -/
theorem ask_shown {record : PendingConfirmation} (b : Fixed 12) (hid : record.confirmationId = encode b.val) :
    (Screen.empty.after (confirmRequestOf record)).id = record.confirmationId.bytes ∧
      (Screen.empty.after (confirmRequestOf record)).summary ≠ [] := by
  obtain ⟨hplain, hsafe⟩ := confirmationId_safe b
  have hsummary := summary_safe record.toolName
  have hask : Screen.empty.after (confirmRequestOf record) =
      ⟨record.confirmationId.bytes, cString (PyStr.ofString (deviceConfirmationSummary record.toolName)).bytes⟩ := by
    simp only [confirmRequestOf, Screen.after, Screen.ask, Screen.empty, hid, hplain, hsafe, hsummary, List.isEmpty_nil,
      Bool.and_true, if_true]
  rw [hask]
  refine ⟨rfl, ?_⟩
  intro hempty
  simp only at hempty
  rw [hempty] at hsummary
  cases hsummary

/-! ## The invariant -/

namespace Conversation
variable {δ ω : Type} {D : Device δ} {core : PipaCore ω} {transport : Transport} {sid : PyStr} {c : Conversation δ}

/-- What the device will show once everything in flight has arrived. -/
def settledScreen (D : Device δ) (c : Conversation δ) : Screen := c.toDevice.foldl Screen.after (D.screen c.device)

/-- The screen fits the session: empty unless it waits for a confirmation, and then showing it. -/
structure Fits (sid : PyStr) (st : State) (screen : Screen) (s : DeviceSession) : Prop where
  calm : s.state ≠ .confirm → screen = .empty
  waiting : s.state = .confirm → ∀ k r, st.pending.get? k = some r → r.ownerId = some sid →
    r.confirmationId = k ∧ screen.id = k.bytes ∧ screen.summary ≠ []

structure Following (D : Device δ) (sid : PyStr) (c : Conversation δ) : Prop where
  coupled : Coupled [sid] c.state
  ready : ∀ s, c.state.sessions.get? sid = some s → s.state = .confirm → s.capabilitiesInitialized = true
  shown : D.authenticated c.device = true → ∀ s, c.state.sessions.get? sid = some s → Fits sid c.state (c.settledScreen D) s

/-- Without its session nothing is left to follow. -/
theorem Following.gone (hcoupled : Coupled [sid] c.state) (hgone : c.state.sessions.get? sid = none) :
    Following D sid c where
  coupled := hcoupled
  ready s hs _ := by
    rw [hgone] at hs
    cases hs
  shown _ s hs := by
    rw [hgone] at hs
    cases hs

theorem close_coupled (core : PipaCore ω) {st : State} (h : Coupled [sid] st) :
    Coupled [sid] (PipaCore.close st sid).state := by
  have hstep := h.step (Op.apply_turn core st (.close sid ⟨0, 0, 0⟩)) (fun t ht => by cases ht)
  simpa [Op.sessionToken, Op.apply] using hstep

theorem Following.close (core : PipaCore ω) (h : Coupled [sid] c.state) : Following D sid (c.close sid) := by
  refine .gone (close_coupled core h) ?_
  simp [Conversation.close, PipaCore.close, reply, Dict.get?_erase]

/-! ## The device's steps -/

theorem Following.act (hD : D.Lawful) (h : Following D sid c) (a : PipaProtocol.Step) :
    Following D sid (c.acted (D.act c.device a)) where
  coupled := h.coupled
  ready := h.ready
  shown hauth s hs := by
    obtain ⟨hbefore, hscreen⟩ := hD.act c.device a hauth
    have hsame : (c.acted (D.act c.device a)).settledScreen D = c.settledScreen D := by
      simp only [settledScreen, acted, hscreen]
    rw [hsame]
    exact h.shown hbefore s hs

theorem Following.receive (hD : D.Lawful) (h : Following D sid c) {m : ServerMessage} {rest : List ServerMessage}
    (hqueue : c.toDevice = m :: rest) (now : Now) :
    Following D sid ({ c with toDevice := rest }.acted (D.receive c.device now (document m))) where
  coupled := h.coupled
  ready := h.ready
  shown hauth s hs := by
    obtain ⟨hbefore, hscreen⟩ := hD.receive c.device now m hauth
    have hsame : ({ c with toDevice := rest }.acted (D.receive c.device now (document m))).settledScreen D = c.settledScreen D := by
      simp only [settledScreen, acted, hscreen, hqueue, List.foldl_cons]
    rw [hsame]
    exact h.shown hbefore s hs

/-! ## The agent's steps -/

/-- An answer that clears the screen while the session stays as it is. -/
theorem Following.cleared (h : Following D sid c) {c' : Conversation δ} (hstate : c'.state = c.state)
    (hdevice : c'.device = c.device) (hscreen : c'.settledScreen D = .empty)
    (hnone : D.authenticated c.device = true → ∀ s k r, c.state.sessions.get? sid = some s → s.state = .confirm →
      c.state.pending.get? k = some r → r.ownerId ≠ some sid) : Following D sid c' where
  coupled := hstate ▸ h.coupled
  ready := hstate ▸ h.ready
  shown hauth s hs := by
    rw [hdevice] at hauth
    rw [hstate] at hs ⊢
    exact ⟨fun _ => hscreen, fun hconfirm k r hr howner => absurd howner (hnone hauth s k r hs hconfirm hr)⟩

/-- An error clears the screen, whatever comes with it. -/
theorem foldl_error (screen : Screen) (queue : List ServerMessage) (code : ErrorCode) (text : Option PyStr)
    {rest : List ServerMessage} (hrest : rest = [] ∨ ∃ s : DeviceSession, rest = [s.uiMessage]) :
    (queue ++ .error code text :: rest).foldl Screen.after screen = .empty := by
  rw [List.foldl_append, List.foldl_cons]
  obtain rfl | ⟨s, rfl⟩ := hrest
  · rfl
  · simp only [List.foldl_cons, List.foldl_nil, DeviceSession.uiMessage]
    cases s.state with
    | _ => rfl

/-- So does the state of a session that waits for nothing. -/
theorem foldl_settled (screen : Screen) (messages : List ServerMessage) {s : DeviceSession} (hs : s.state ≠ .confirm) :
    (messages ++ [s.uiMessage]).foldl Screen.after screen = .empty := by
  simp only [List.foldl_append, List.foldl_cons, List.foldl_nil, DeviceSession.uiMessage]
  cases hstate : s.state with
  | confirm => exact absurd hstate hs
  | _ => rfl

theorem after_silent (screen : Screen) {m : ServerMessage} (hm : m.silent = true) : screen.after m = screen := by
  cases m with
  | error _ _ => cases hm
  | confirmRequest _ _ _ _ _ _ => cases hm
  | toolResult _ _ _ _ => cases hm
  | uiState _ _ _ => cases hm
  | _ => rfl

/-- What the Core answers keeps the screen in step with the session. -/
theorem fits_after {base : State} {w : ω} {now : Int} {b : Fixed 12} {s s' : DeviceSession} {m : ClientMessage}
    {o : Outcome} {screen : Screen} {messages : List ServerMessage} (hcoupled : Coupled [sid] base)
    (hbase : ∃ s₀, base.sessions.get? sid = some s₀ ∧ s₀.state = s.state)
    (he : Effect core w now (encode b.val) sid base s (.message m) o) (ha : Answer (encode b.val) sid base s m o)
    (hready : s.state = .confirm → s.capabilitiesInitialized = true) (hfits : Fits sid base screen s)
    (hcalm : s.state = .confirm → ∀ k r, base.pending.get? k = some r → r.ownerId = some sid → m.calm = true)
    (hok : o.result = .ok messages) (hs' : o.state.sessions.get? sid = some s') :
    Fits sid o.state (messages.foldl Screen.after screen) s' := by
  have named {s₁ : DeviceSession} (sessions : o.state.sessions.get? sid = some s₁) : s' = s₁ :=
    Option.some.inj (hs'.symm.trans sessions)
  have answered {ms : List ServerMessage} (result : o.result = .ok ms) : messages = ms :=
    Except.ok.inj (hok.symm.trans result)
  cases ha with
  | raised e result =>
    rw [hok] at result
    cases result
  | settled s₁ after ms result sessions =>
    obtain rfl := named sessions
    rw [answered result, foldl_settled screen ms after]
    exact ⟨fun _ => rfl, fun hconfirm => absurd hconfirm after⟩
  | asked s₁ record recordId after result sessions events =>
    obtain rfl := named sessions
    obtain ⟨s₂, before, -, howner, -, hpending⟩ := he.of_created events
    have hempty := hfits.calm before
    have hui : ∀ x : Screen, x.after s'.uiMessage = x := by
      intro x
      simp only [DeviceSession.uiMessage, after, Screen.after]
    rw [answered result]
    simp only [List.foldl_cons, List.foldl_nil, hui, hempty]
    refine ⟨fun hcalm => absurd after hcalm, ?_⟩
    intro _ k r hr hrowner
    -- the new record is the only one of the session
    rw [hpending] at hr
    obtain ⟨rfl, rfl⟩ | ⟨-, hr⟩ := Dict.get?_set_some.mp hr
    · rw [← recordId]
      exact ⟨rfl, ask_shown b recordId⟩
    · obtain ⟨s₀, hs₀, hstate⟩ := hbase
      exact absurd hrowner (hcoupled.no_record hs₀ (hstate ▸ before) (Pending.get?_prune.mp hr).1)
  | silent s₁ same message quiet result sessions =>
    obtain rfl := named sessions
    rw [answered result]
    simp only [List.foldl_cons, List.foldl_nil, after_silent screen quiet]
    refine ⟨fun hne => hfits.calm (same ▸ hne), ?_⟩
    intro hconfirm k r hr howner
    exact hfits.waiting (same ▸ hconfirm) k r (he.pending_of_same hs' same hr) howner
  | refused s₁ same restless code text rest shape result sessions =>
    obtain rfl := named sessions
    have hempty := foldl_error screen [] code text (shape.imp_right (fun h => ⟨s', h⟩))
    rw [List.nil_append] at hempty
    rw [answered result, hempty]
    refine ⟨fun _ => rfl, ?_⟩
    intro hconfirm k r hr howner
    -- such a message is not taken up now
    have hstate : s.state = .confirm := same ▸ hconfirm
    have hm := hcalm hstate k r (he.pending_of_same hs' same hr) howner
    rw [restless (hready hstate)] at hm
    cases hm

theorem Following.handle (h : Following D sid c) (reading : Reading ω) (m : ClientMessage)
    (hcalm : D.authenticated c.device = true → ∀ s k r, c.state.sessions.get? sid = some s → s.state = .confirm →
      c.state.pending.get? k = some r → r.ownerId = some sid → m.calm = true) :
    Following D sid (Conversation.handle core c sid reading m) := by
  have hturn := Op.apply_turn core c.state
    (.handle sid m reading.world (encode reading.confirmationId.val) reading.clock)
  have hcoupled : Coupled [sid] (core.handle c.state reading.world reading.clock (encode reading.confirmationId.val) sid
      m).state := by
    have hstep := h.coupled.step hturn (fun t ht => by cases ht)
    simpa [Op.sessionToken, Op.apply] using hstep
  have hpruned : Coupled [sid] (PipaCore.pruneStaleSessions c.state reading.clock.prune) :=
    h.coupled.pruned (Or.inr rfl)
  unfold Conversation.handle
  obtain ⟨hs, heq⟩ | ⟨s₀, hs, he, ha⟩ := PipaCore.handle_cases core c.state reading.world reading.clock
    (encode reading.confirmationId.val) sid m
  · -- the session was pruned
    rw [heq] at hcoupled ⊢
    exact .gone hcoupled hs
  · generalize core.handle c.state reading.world reading.clock (encode reading.confirmationId.val) sid m = o at *
    have hbefore : c.state.sessions.get? sid = some s₀ := of_pruned_sessions (Or.inr rfl) hs
    cases hresult : o.result with
    | error e =>
      simp only [hresult]
      exact .close core hcoupled
    | ok messages =>
      simp only [hresult]
      refine ⟨hcoupled, ?_, ?_⟩
      · intro s' hs' hconfirm
        exact he.confirm_ready (h.ready s₀ hbefore) hs' hconfirm
      · intro hauth s' hs'
        have hfits := h.shown hauth s₀ hbefore
        have hbase : Fits sid (PipaCore.pruneStaleSessions c.state reading.clock.prune) (c.settledScreen D)
            (s₀.touch reading.clock.touch) :=
          ⟨hfits.calm, fun hconfirm k r hr => hfits.waiting hconfirm k r (h.coupled.of_pruned_pending (Or.inr rfl) hr)⟩
        have hstate : s₀.state = (s₀.touch reading.clock.touch).state := rfl
        have hafter := fits_after hpruned ⟨s₀, hs, hstate⟩ he ha (h.ready s₀ hbefore) hbase
          (fun hconfirm k r hr howner => hcalm hauth s₀ k r hbefore hconfirm
            (h.coupled.of_pruned_pending (Or.inr rfl) hr) howner) hresult hs'
        simpa only [settledScreen, List.foldl_append] using hafter

/-- The agent takes a message. -/
theorem Following.serve (h : Following D sid c) {reading : Reading ω}
    (hcalm : Undisturbed D sid c (.serve reading)) : Following D sid (c.serve core transport sid reading) := by
  unfold Conversation.serve
  split
  · exact h
  rename_i document rest hqueue
  have hpopped : Following D sid { c with toCore := rest } := ⟨h.coupled, h.ready, h.shown⟩
  simp only
  split
  · exact hpopped
  rename_i hopen
  rw [Bool.not_eq_true] at hopen
  have hcalm := fun hauth s k r => hcalm hopen hauth document rest s k r hqueue
  cases hparse : parse document with
  | none =>
    rw [hparse] at hcalm
    simp only [invalid]
    split
    · exact .close core h.coupled
    · refine hpopped.cleared rfl rfl (foldl_error _ _ _ _ (Or.inl rfl)) ?_
      intro hauth s k r hs hconfirm hr howner
      cases hcalm hauth s k r hs hconfirm hr howner
  | some m =>
    rw [hparse] at hcalm
    simp only
    cases hanswers : transport.answers m with
    | some code =>
      refine hpopped.cleared rfl rfl (foldl_error _ _ _ _ (Or.inl rfl)) ?_
      intro hauth s k r hs hconfirm hr howner
      have hnone := transport.calm m (hcalm hauth s k r hs hconfirm hr howner)
      rw [hanswers] at hnone
      cases hnone
    | none => exact hpopped.handle reading m hcalm

theorem Following.step (hD : D.Lawful) (h : Following D sid c) {a : Step ω} (hcalm : Undisturbed D sid c a) :
    Following D sid (c.step D core transport sid a) := by
  cases a with
  | device a => exact h.act hD a
  | receive now =>
    unfold Conversation.step
    simp only
    split
    · exact h
    · rename_i m rest hqueue
      exact h.receive hD hqueue now
  | serve reading => exact h.serve hcalm

theorem Following.agreed (h : Following D sid c) : Agreed D sid c := by
  intro _ htoDevice hauth s k r now hs hconfirm hr howner _
  obtain ⟨hid, hshown, hsummary⟩ := (h.shown hauth s hs).waiting hconfirm k r hr howner
  simp only [settledScreen, htoDevice, List.foldl_nil] at hshown hsummary
  refine ⟨hsummary, ?_⟩
  rw [hid]
  exact hshown

/-! ## Runs -/

theorem Following.init (start : Start D) : Following D start.sid (machine D core transport start).init := by
  have hne : start.sid ≠ [] := by
    rw [← List.length_pos_iff, Start.sid, encode_length, start.sessionId.property]
    decide
  have hfresh : FreshSessions (start.ops ω) := by
    refine ⟨List.nodup_singleton _, ?_⟩
    intro t ht
    rw [List.mem_singleton.mp ht]
    exact hne
  have hidle : ∀ s, (machine D core transport start).init.state.sessions.get? start.sid = some s → s.state = .idle := by
    intro s hs
    change ((Core.machine core).run (start.ops ω)).sessions.get? start.sid = some s at hs
    obtain ⟨hsessions, -⟩ := createSession_shape State.initial start.sid start.deviceId start.firmwareVersion
      start.capabilities start.capabilitiesInitialized start.clock.act
    change (PipaCore.createSession State.initial start.sid start.deviceId start.firmwareVersion start.capabilities
      start.capabilitiesInitialized start.clock.act).state.sessions.get? start.sid = some s at hs
    rw [hsessions] at hs
    obtain hr | ⟨s₁, hr, -, hidle, -⟩ := create_sessions (State.initial.sessions.create start.sid start.deviceId
      start.firmwareVersion start.capabilities start.capabilitiesInitialized start.clock.act).eta.symm
    · rw [hr] at hs
      cases (get?_prune_sessions.mp hs).1
    · rw [hr, Dict.get?_set, if_pos rfl] at hs
      obtain rfl := Option.some.inj hs
      exact hidle
  refine ⟨run_coupled core hfresh, ?_, ?_⟩
  · intro s hs hconfirm
    rw [hidle s hs] at hconfirm
    cases hconfirm
  · intro _ s hs
    refine ⟨fun _ => start.clear, ?_⟩
    intro hconfirm
    rw [hidle s hs] at hconfirm
    cases hconfirm

/-- In every run that is not disturbed, in every state. -/
theorem run_agreed (hD : D.Lawful) {start : Start D} {steps : List (Step ω)}
    (h : (machine D core transport start).Along (Undisturbed D start.sid) steps) :
    Agreed D start.sid ((machine D core transport start).run steps) := by
  have hfollowing : Following D start.sid ((machine D core transport start).run steps) :=
    Machine.inv_along (Following.init start) (fun c a hc ha => hc.step hD ha) h
  exact hfollowing.agreed

/-- Device and Core agree on the pending confirmation, with either version of the protocol: in every
state of a run in which the Core takes up, while a confirmation is pending, nothing of the device
but `ping`, `device_status` and `confirm`. -/
theorem confirmation_agreed (core : PipaCore ω) (platform : Platform) :
    (∀ (start : Start (Device.v1 platform)) (steps : List (Step ω)),
      (machine (Device.v1 platform) core .v1 start).Along (Undisturbed (Device.v1 platform) start.sid) steps →
      ∀ pre post, steps = pre ++ post →
        Agreed (Device.v1 platform) start.sid ((machine (Device.v1 platform) core .v1 start).run pre)) ∧
    (∀ (start : Start Device.v2) (steps : List (Step ω)),
      (machine Device.v2 core .v2 start).Along (Undisturbed Device.v2 start.sid) steps →
      ∀ pre post, steps = pre ++ post → Agreed Device.v2 start.sid ((machine Device.v2 core .v2 start).run pre)) := by
  refine ⟨?_, ?_⟩
  · intro start steps h pre post hsteps
    rw [hsteps] at h
    exact run_agreed (Device.v1_lawful platform) h.of_append
  · intro start steps h pre post hsteps
    rw [hsteps] at h
    exact run_agreed Device.v2_lawful h.of_append

/-! ## A gesture in flight -/

def board : Platform where
  config := ⟨literal "pipa-1", literal "0.1.0"⟩
  sign _ := []
  isDuplicateFreeJson _ := true
  deserializeJson _ := none

/-- The session of a device with a touch screen. -/
def boardStart {D : Device δ} (device : δ) (authenticated : D.authenticated device = true)
    (clear : D.screen device = .empty) : Start D where
  device := device
  authenticated := authenticated
  clear := clear
  sent := []
  sessionId := .fill 16 7
  deviceId := PyStr.ofString "pipa-1"
  firmwareVersion := none
  capabilities := [PyStr.ofString "display", PyStr.ofString "touch"]
  capabilitiesInitialized := true
  clock := ⟨100, 100, 100⟩

def startV1 : Start (Device.v1 board) := boardStart { authenticated := true } rfl rfl

def startV2 : Start Device.v2 := boardStart { authenticated := true } rfl rfl

def reading : Reading Unit := ⟨(), ⟨110, 110, 110⟩, .fill 12 8⟩

/-- The user asks for the lock. -/
def askLock : Step Unit :=
  .device (.sendTextInput (some (literal "bloquea el ordenador")) (some (literal "touch")))

def lockTalk : List (Step Unit) := [askLock, .serve reading, .receive ⟨1000, none⟩, .receive ⟨1000, none⟩]

/-- The same with a gesture behind the text. -/
def hastyTalk : List (Step Unit) :=
  [askLock, .device (.sendGesture (some (literal "tap"))), .serve reading, .serve reading, .receive ⟨1000, none⟩,
   .receive ⟨1000, none⟩, .receive ⟨1000, none⟩, .receive ⟨1000, none⟩]

/-- Nothing is in flight, the session waits for a confirmation, and the screen has these texts. -/
def waitsWith (D : Device δ) (sid : PyStr) (id summary : Bytes) (c : Conversation δ) : Bool :=
  c.toCore.isEmpty && c.toDevice.isEmpty && D.authenticated c.device &&
  decide ((c.state.sessions.get? sid).map DeviceSession.state = some .confirm) &&
  decide ((c.state.pending.get? (encode (List.replicate 12 8))).map (fun r => (r.ownerId, r.expiresAt)) =
    some (some sid, 170)) &&
  decide (D.screen c.device = ⟨id, summary⟩)

/-- Agreement in such a state is about the texts on the screen. -/
theorem Agreed.waitsWith {id summary : Bytes} (h : Agreed D sid c) (hwaits : waitsWith D sid id summary c = true) :
    summary ≠ [] := by
  simp only [Conversation.waitsWith, Bool.and_eq_true, decide_eq_true_eq, List.isEmpty_iff] at hwaits
  obtain ⟨⟨⟨⟨⟨htoCore, htoDevice⟩, hauth⟩, hsession⟩, hpending⟩, hscreen⟩ := hwaits
  obtain ⟨s, hs, hstate⟩ := Option.map_eq_some_iff.mp hsession
  obtain ⟨r, hr, howner⟩ := Option.map_eq_some_iff.mp hpending
  obtain ⟨howner, hexpires⟩ := Prod.mk.inj howner
  have hsummary := (h htoCore htoDevice hauth s _ r 110 hs hstate hr howner (by rw [hexpires]; decide)).1
  have htext : (D.ui c.device).confirmationSummary = summary := congrArg Screen.summary hscreen
  rw [htext] at hsummary
  exact hsummary

/-- The confirmation of the lock is shown. -/
theorem confirmation_agreed_lockTalk :
    waitsWith (Device.v1 board) startV1.sid (encode (List.replicate 12 8)).bytes (literal "Bloquear el ordenador.")
      ((machine (Device.v1 board) lockCore .v1 startV1).run lockTalk) = true ∧
    Agreed (Device.v1 board) startV1.sid ((machine (Device.v1 board) lockCore .v1 startV1).run lockTalk) := by
  refine ⟨by decide +kernel, (confirmation_agreed lockCore board).1 startV1 lockTalk ?_ lockTalk [] rfl⟩
  have hempty : ((machine (Device.v1 board) lockCore .v1 startV1).run [askLock]).state.pending.entries = [] := by
    decide +kernel
  have hserve : Undisturbed (Device.v1 board) startV1.sid
      ((machine (Device.v1 board) lockCore .v1 startV1).run [askLock]) (.serve reading) := by
    generalize (machine (Device.v1 board) lockCore .v1 startV1).run [askLock] = c at hempty
    intro _ _ document rest s k r _ _ _ hr
    have hmem := Dict.get?_eq_some.mp hr
    rw [hempty] at hmem
    cases hmem
  have hfirst : (machine (Device.v1 board) lockCore .v1 startV1).Along (Undisturbed (Device.v1 board) startV1.sid)
      ([] ++ [askLock]) := Machine.Along.nil.concat trivial
  have hreceive : ∀ (c : Conversation PipaProtocol) (now : Now),
      Undisturbed (Device.v1 board) startV1.sid c (.receive now : Step Unit) := fun _ _ => trivial
  exact ((hfirst.concat hserve).concat (hreceive _ ⟨1000, none⟩)).concat (hreceive _ ⟨1000, none⟩)

/-- A gesture that was in flight takes the confirmation off the screen, with either version. -/
theorem gesture_hides_confirmation :
    ¬ Agreed (Device.v1 board) startV1.sid ((machine (Device.v1 board) lockCore .v1 startV1).run hastyTalk) ∧
    ¬ Agreed Device.v2 startV2.sid ((machine Device.v2 lockCore .v2 startV2).run hastyTalk) := by
  have hv1 : waitsWith (Device.v1 board) startV1.sid [] []
      ((machine (Device.v1 board) lockCore .v1 startV1).run hastyTalk) = true := by decide +kernel
  have hv2 : waitsWith Device.v2 startV2.sid [] [] ((machine Device.v2 lockCore .v2 startV2).run hastyTalk) = true := by
    decide +kernel
  exact ⟨fun h => h.waitsWith hv1 rfl, fun h => h.waitsWith hv2 rfl⟩

end Conversation

end Pipa.Link
