import Pipa.Secure.AudioTranscriber

/- From a transcript to the Core (`secure_audio.py`): `SecureAudioCommandBridge`
   finalizes a transcriber, hands its transcript to a dispatcher, and closes. The
   reference to the transcriber is dropped on closing, `held`; the transcriber and
   the gate under it go on to exist.

   What is dispatched was returned for a final frame of the capture that is open, as
   long as no capture is opened while the consumer still holds the finished stream of
   an earlier one. The other guarantees hold without that. -/
namespace Pipa.Secure
open Pipa.Lib Pipa.Core

/-! ## The source -/

structure SecureAudioCommandBridge where
  transcriber : SecureAudioTranscriber
  held : Bool
  hasDispatch : Bool
  dispatched : Bool

/-- What a call returns. -/
inductive BridgeAnswer where
  | done
  | consumed (final : Bool)
  | finalized (summary : AudioStreamSummary)

/-- What a call gives out: what the dispatcher was called with, and what is returned. -/
structure BridgeOut where
  dispatched : Option PyStr
  result : Except CaptureError BridgeAnswer

namespace SecureAudioCommandBridge

def start (transcriber : SecureAudioTranscriber) : SecureAudioCommandBridge := ⟨transcriber, true, true, false⟩

/-- `closed`. -/
def closed (b : SecureAudioCommandBridge) : Bool := !b.held || b.transcriber.closed

/-- `close`. -/
def close (b : SecureAudioCommandBridge) : SecureAudioCommandBridge :=
  { b with
    transcriber := if b.held then b.transcriber.close.1 else b.transcriber
    held := false
    hasDispatch := false }

/-- `_require_transcriber`: a bridge that is closed is closed for good. -/
def requireTranscriber (b : SecureAudioCommandBridge) : Except SecureAudioCommandBridge SecureAudioTranscriber :=
  if b.closed then .error b.close else .ok b.transcriber

/-- `begin_capture`. -/
def beginCapture (b : SecureAudioCommandBridge) (displayReady consented secureTransportReady : Bool) :
    SecureAudioCommandBridge × BridgeOut :=
  match b.requireTranscriber with
  | .error b => (b, ⟨none, .error .bridgeClosed⟩)
  | .ok t =>
    let r := t.beginCapture displayReady consented secureTransportReady
    ({ b with transcriber := r.1 }, ⟨none, r.2.map (fun _ => .done)⟩)

/-- `consume_frame`. -/
def consumeFrame (aead : Aead) (b : SecureAudioCommandBridge) (frame : Value) (answer : Except Raised Value) :
    SecureAudioCommandBridge × BridgeOut :=
  match b.requireTranscriber with
  | .error b => (b, ⟨none, .error .bridgeClosed⟩)
  | .ok t =>
    let r := t.consumeFrame aead frame answer
    ({ b with transcriber := r.1 }, ⟨none, r.2.2.map .consumed⟩)

/-- `finalize`; `dispatches` is false for a dispatcher that raises. -/
def finalize (b : SecureAudioCommandBridge) (dispatches : Bool) : SecureAudioCommandBridge × BridgeOut :=
  if b.dispatched then (b, ⟨none, .error .alreadyDispatched⟩)
  else match b.requireTranscriber with
    | .error b => (b, ⟨none, .error .bridgeClosed⟩)
    | .ok t =>
      match t.finalize with
      | (t, _, .error e) => ({ b with transcriber := t }.close, ⟨none, .error e⟩)
      | (t, _, .ok summary) =>
        let b := { b with transcriber := t }
        match t.transcript, b.hasDispatch with
        | some transcript, true =>
          if !dispatches then (b.close, ⟨some transcript, .error .dispatchFailed⟩)
          else ({ b with dispatched := true }.close, ⟨some transcript, .ok (.finalized summary)⟩)
        | _, _ => (b.close, ⟨none, .error .dispatchUnavailable⟩)

/-- `cancel`. -/
def cancel (b : SecureAudioCommandBridge) (resets : Bool) : SecureAudioCommandBridge × BridgeOut :=
  if !b.held then (b, ⟨none, .ok .done⟩)
  else match b.transcriber.cancel resets with
    | (t, _, .error e) => ({ b with transcriber := t }, ⟨none, .error e⟩)
    | (t, _, .ok ()) => ({ b with transcriber := t, dispatched := false }, ⟨none, .ok .done⟩)

end SecureAudioCommandBridge

/-! ## Runs -/

/-- A call of the bridge, with what provider, reset and dispatcher do, or of the gate. -/
inductive BridgeCall where
  | beginCapture (displayReady consented secureTransportReady : Bool)
  | consumeFrame (frame : Value) (answer : Except Raised Value)
  | finalize (dispatches : Bool)
  | cancel (resets : Bool)
  | close
  | gate (call : GateCall)

def bridgeStep (aead : Aead) (b : SecureAudioCommandBridge) : BridgeCall → SecureAudioCommandBridge × BridgeOut
  | .beginCapture displayReady consented secureTransportReady =>
    b.beginCapture displayReady consented secureTransportReady
  | .consumeFrame frame answer => b.consumeFrame aead frame answer
  | .finalize dispatches => b.finalize dispatches
  | .cancel resets => b.cancel resets
  | .close => (b.close, ⟨none, .ok .done⟩)
  | .gate call =>
    ({ b with transcriber := (transcriberStep aead b.transcriber (.gate call)).1 }, ⟨none, .ok .done⟩)

/-- A new bridge of a new transcriber, over any receiver and a new gate. -/
def bridgeMachine (aead : Aead) (session : SecureSession) (receiver : SecureAudioReceiver) (hasReset : Bool) :
    Machine SecureAudioCommandBridge BridgeCall BridgeOut where
  init := .start (.start (.start session receiver .disabled) hasReset)
  step := bridgeStep aead

def BridgeCall.Opens : BridgeCall → Prop
  | .beginCapture d n s | .gate (.beginListening d n s) => d = true ∧ n = true ∧ s = true
  | _ => False

instance (call : BridgeCall) : Decidable call.Opens :=
  match call with
  | .beginCapture .. | .gate (.beginListening ..) => inferInstanceAs (Decidable (_ ∧ _))
  | .gate (.markCodecReady _) | .gate .beginDraining | .gate .finishDraining | .gate .fail => isFalse nofun
  | .consumeFrame .. | .finalize _ | .cancel _ | .close => isFalse nofun

/-- The consumer under the bridge. -/
def SecureAudioCommandBridge.consumer (b : SecureAudioCommandBridge) : SecureAudioConsumer := b.transcriber.consumer

/-- No capture is opened over a finished stream. -/
def FreshCapture (b : SecureAudioCommandBridge) (call : BridgeCall) : Prop :=
  call.Opens → b.consumer.gate = .codecReady → b.consumer.finished = false

instance (b : SecureAudioCommandBridge) (call : BridgeCall) : Decidable (FreshCapture b call) :=
  inferInstanceAs (Decidable (_ → _))

section
variable (aead : Aead) (m : Machine SecureAudioCommandBridge BridgeCall BridgeOut)

/-- The gate listens after the call. -/
def Listens (pre : List BridgeCall) (call : BridgeCall) : Prop := (m.run (pre ++ [call])).consumer.gate = .listening

/-- The call opened a capture, with all three consents. -/
def OpenedWithConsent (pre : List BridgeCall) (call : BridgeCall) : Prop :=
  (m.run pre).consumer.gate ≠ .listening ∧ Listens m pre call ∧
    (call = .beginCapture true true true ∨ call = .gate (.beginListening true true true))

/-- The capture was opened with all three consents, and is open. -/
def CaptureOpen : List BridgeCall → Prop := Machine.Since (OpenedWithConsent m) (Listens m)

/-- A frame flagged final was authenticated and consumed, and the provider answered it with a text that
validates to `t`. -/
def FinalConsumed (t : PyStr) (pre : List BridgeCall) (call : BridgeCall) : Prop :=
  ∃ frame text streamId samples, call = .consumeFrame (.dict frame) (.ok (.str text)) ∧
    SecureAudioReceiver.Accepted aead (m.run pre).consumer.session (m.run pre).consumer.receiver frame streamId true
      samples ∧
    (m.out pre call).result = .ok (.consumed true) ∧ validateBoundedText text 4000 = .ok text ∧ t = text.strip

/-- Such a frame was consumed in the capture that is open. -/
def FinalInOpenCapture (t : PyStr) : List BridgeCall → Prop :=
  Machine.Since (fun p a => FinalConsumed aead m t p a ∧ CaptureOpen m p ∧ Listens m p a) (Listens m)

end

/-! ## What a call does to the transcriber -/

/-- The call of the transcriber that a call of the bridge comes down to. -/
def BridgeCall.inner : BridgeCall → TranscriberCall
  | .beginCapture d n s => .beginCapture d n s
  | .consumeFrame frame answer => .consumeFrame frame answer
  | .finalize _ => .finalize
  | .cancel resets => .cancel resets
  | .close => .close
  | .gate call => .gate call

theorem BridgeCall.inner_opens {call : BridgeCall} : call.inner.Opens ↔ call.Opens := by
  cases call with
  | gate call => cases call <;> exact Iff.rfl
  | _ => exact Iff.rfl

/-- That call, closing, both in turn, or nothing. -/
inductive Inner (aead : Aead) (t : SecureAudioTranscriber) (call : BridgeCall) : SecureAudioTranscriber → Prop
  | same : Inner aead t call t
  | one : Inner aead t call (transcriberStep aead t call.inner).1
  | closing : Inner aead t call (transcriberStep aead t .close).1
  | both (h : ¬ call.Opens) (hconsume : ∀ frame answer, call ≠ .consumeFrame frame answer) :
      Inner aead t call (transcriberStep aead (transcriberStep aead t call.inner).1 .close).1

namespace SecureAudioCommandBridge
variable {aead : Aead} {b : SecureAudioCommandBridge}

theorem requireTranscriber_cases (b : SecureAudioCommandBridge) :
    (b.closed = true ∧ b.requireTranscriber = .error b.close) ∨
      (b.closed = false ∧ b.requireTranscriber = .ok b.transcriber) := by
  unfold requireTranscriber
  cases h : b.closed with
  | true => exact Or.inl ⟨rfl, rfl⟩
  | false => exact Or.inr ⟨rfl, rfl⟩

theorem close_inner (aead : Aead) (b : SecureAudioCommandBridge) (call : BridgeCall) :
    Inner aead b.transcriber call b.close.transcriber := by
  unfold close
  split
  · exact .closing
  · exact .same

/-- A bridge lets go of a closed transcriber only. -/
theorem close_shut (b : SecureAudioCommandBridge) : b.held = false ∨ b.close.transcriber.closed = true := by
  cases hheld : b.held with
  | false => exact Or.inl rfl
  | true =>
    right
    simp only [close, hheld, if_true]
    unfold SecureAudioTranscriber.close SecureAudioTranscriber.closed
    split
    · rename_i hshut
      rw [hshut]
      rfl
    · rfl

@[simp] theorem close_closed (b : SecureAudioCommandBridge) : b.close.closed = true := rfl

end SecureAudioCommandBridge

/-- What a call of the bridge does to its state. -/
structure BridgeStep (aead : Aead) (b : SecureAudioCommandBridge) (call : BridgeCall)
    (r : SecureAudioCommandBridge × BridgeOut) : Prop where
  inner : Inner aead b.transcriber call r.1.transcriber
  held : r.1.held = true → b.held = true
  shut : r.1.held = false → b.held = false ∨ r.1.transcriber.closed = true
  dispatched : (b.dispatched = true → b.held = false) → r.1.dispatched = true → r.1.held = false
  /-- Refused and final calls close the bridge. -/
  rejected : (∃ frame answer, call = .consumeFrame frame answer) ∨ (∃ dispatches, call = .finalize dispatches) →
    b.dispatched = false → (∃ e, r.2.result = .error e) → r.1.closed = true
  consumed : ∀ frame answer, call = .consumeFrame frame answer → b.closed = false →
    r.1.transcriber.closed = false → r.2.result = .ok (.consumed r.1.consumer.finished)
  /-- The dispatcher is called by a call that finalizes, with the transcript. -/
  dispatch : ∀ t, r.2.dispatched = some t → (∃ dispatches, call = .finalize dispatches) ∧ b.held = true ∧
    r.1.held = false ∧ b.consumer.Drainable ∧ b.transcriber.storedTranscript = some t

theorem bridgeStep_step (aead : Aead) (b : SecureAudioCommandBridge) (call : BridgeCall) :
    BridgeStep aead b call (bridgeStep aead b call) := by
  cases call with
  | beginCapture d n s =>
    simp only [bridgeStep, SecureAudioCommandBridge.beginCapture]
    obtain ⟨-, hrequire⟩ | ⟨-, hrequire⟩ := b.requireTranscriber_cases
    · rw [hrequire]
      exact ⟨b.close_inner aead _, nofun, fun _ => b.close_shut, fun _ _ => rfl, nofun, nofun, nofun⟩
    · rw [hrequire]
      exact ⟨.one, id, Or.inl, id, nofun, nofun, nofun⟩
  | consumeFrame frame answer =>
    simp only [bridgeStep, SecureAudioCommandBridge.consumeFrame]
    obtain ⟨hclosed, hrequire⟩ | ⟨hopen, hrequire⟩ := b.requireTranscriber_cases
    · rw [hrequire]
      refine ⟨b.close_inner aead _, nofun, fun _ => b.close_shut, fun _ _ => rfl, fun _ _ _ => b.close_closed, ?_, nofun⟩
      intro _ _ _ hopen
      cases hclosed.symm.trans hopen
    · rw [hrequire]
      have hheld : b.held = true := by
        simp only [SecureAudioCommandBridge.closed, Bool.or_eq_false_iff, Bool.not_eq_false'] at hopen
        exact hopen.1
      refine ⟨.one, id, Or.inl, id, ?_, ?_, nofun⟩
      · rintro - - ⟨e, he⟩
        obtain ⟨e', -, hclosed⟩ | hok := consumeFrame_result aead b.transcriber frame answer
        · exact Bool.or_eq_true_iff.mpr (Or.inr hclosed)
        · simp only [hok, Except.map] at he
          cases he
      · intro _ _ _ _ hstill
        obtain ⟨e', -, hclosed⟩ | hok := consumeFrame_result aead b.transcriber frame answer
        · cases hclosed.symm.trans hstill
        · simp only [hok, Except.map]
          rfl
  | finalize dispatches =>
    simp only [bridgeStep, SecureAudioCommandBridge.finalize]
    split
    · rename_i hdispatched
      refine ⟨.same, id, Or.inl, id, ?_, nofun, nofun⟩
      intro _ hfresh
      cases hdispatched.symm.trans hfresh
    obtain ⟨-, hrequire⟩ | ⟨hopen, hrequire⟩ := b.requireTranscriber_cases
    · rw [hrequire]
      exact ⟨b.close_inner aead _, nofun, fun _ => b.close_shut, fun _ _ => rfl, fun _ _ _ => b.close_closed, nofun, nofun⟩
    simp only [hrequire]
    have hheld : b.held = true := by
      simp only [SecureAudioCommandBridge.closed, Bool.or_eq_false_iff, Bool.not_eq_false'] at hopen
      exact hopen.1
    have hboth (b' : SecureAudioCommandBridge) (h : b'.held = true) (ht : b'.transcriber = b.transcriber.finalize.1) :
        Inner aead b.transcriber (.finalize dispatches) b'.close.transcriber := by
      unfold SecureAudioCommandBridge.close
      rw [h, ht]
      exact .both (by simp [BridgeCall.Opens]) nofun
    have hshut (b' : SecureAudioCommandBridge) (h : b'.held = true) : b'.close.transcriber.closed = true :=
      b'.close_shut.resolve_left (by rw [h]; exact Bool.noConfusion)
    cases hfinal : b.transcriber.finalize with
    | mk t rest =>
      obtain ⟨provided, result⟩ := rest
      rw [hfinal] at hboth
      cases result with
      | error e => exact ⟨hboth _ hheld rfl, nofun, fun _ => Or.inr (hshut _ hheld), fun _ _ => rfl, fun _ _ _ => rfl, nofun, nofun⟩
      | ok summary =>
        simp only
        -- the transcript that can be seen now is the one that was stored
        have hstored : ∀ transcript, t.transcript = some transcript →
            b.consumer.Drainable ∧ b.transcriber.storedTranscript = some transcript := by
          intro transcript htranscript
          unfold SecureAudioTranscriber.finalize at hfinal
          obtain ⟨summary', hdrain, hok⟩ | ⟨c, e, -, -, -, -, hfail⟩ := b.transcriber.consumer.finalize_cases
          · rw [hok] at hfinal
            simp only at hfinal
            split at hfinal
            · cases hfinal
            · obtain ⟨rfl, -⟩ := Prod.mk.inj hfinal
              exact ⟨hdrain, htranscript⟩
          · rw [hfail] at hfinal
            cases hfinal
        split
        · rename_i transcript htranscript hhas
          split
          · refine ⟨hboth _ hheld rfl, nofun, fun _ => Or.inr (hshut _ hheld), fun _ _ => rfl, fun _ _ _ => rfl, nofun, ?_⟩
            intro t' ht'
            obtain rfl := Option.some.inj ht'
            exact ⟨⟨dispatches, rfl⟩, hheld, rfl, hstored _ htranscript⟩
          · refine ⟨hboth _ hheld rfl, nofun, fun _ => Or.inr (hshut _ hheld), fun _ _ => rfl, fun _ _ _ => rfl, nofun, ?_⟩
            intro t' ht'
            obtain rfl := Option.some.inj ht'
            exact ⟨⟨dispatches, rfl⟩, hheld, rfl, hstored _ htranscript⟩
        · exact ⟨hboth _ hheld rfl, nofun, fun _ => Or.inr (hshut _ hheld), fun _ _ => rfl, fun _ _ _ => rfl, nofun, nofun⟩
  | cancel resets =>
    simp only [bridgeStep, SecureAudioCommandBridge.cancel]
    split
    · exact ⟨.same, id, Or.inl, id, nofun, nofun, nofun⟩
    have hone : Inner aead b.transcriber (.cancel resets) (b.transcriber.cancel resets).1 := .one
    split
    · rename_i hcancel
      rw [hcancel] at hone
      exact ⟨hone, id, Or.inl, id, nofun, nofun, nofun⟩
    · rename_i hcancel
      rw [hcancel] at hone
      exact ⟨hone, id, Or.inl, nofun, nofun, nofun, nofun⟩
  | close => exact ⟨b.close_inner aead _, nofun, fun _ => b.close_shut, fun _ _ => rfl, nofun, nofun, nofun⟩
  | gate call => exact ⟨.one, id, Or.inl, id, nofun, nofun, nofun⟩

/-! ## Runs -/

section
variable {aead : Aead} {hasReset : Bool} {t t' : SecureAudioTranscriber} {call : BridgeCall}

theorem Inner.wired (h : Inner aead t call t') (hwired : Wired hasReset t) : Wired hasReset t' := by
  cases h with
  | same => exact hwired
  | one => exact hwired.step _
  | closing => exact hwired.step _
  | both _ _ => exact (hwired.step _).step _

theorem Inner.closed (h : Inner aead t call t') (hwired : Wired hasReset t) (hclosed : t.closed = true) :
    t'.closed = true := by
  have hstep {t : SecureAudioTranscriber} (hwired : Wired hasReset t) (hclosed : t.closed = true)
      (call : TranscriberCall) : (transcriberStep aead t call).1.closed = true :=
    (transcriberStep_moves aead (fun hshut => (hwired.shut hshut).1) call).closed hclosed
  cases h with
  | same => exact hclosed
  | one => exact hstep hwired hclosed _
  | closing => exact hstep hwired hclosed _
  | both _ _ => exact hstep (hwired.step _) (hstep hwired hclosed _) _

theorem Inner.listening (h : Inner aead t call t') (hwired : Wired hasReset t) (hlistens : t'.consumer.gate = .listening) :
    t.consumer.gate = .listening ∨ (t.consumer.gate = .codecReady ∧ call.Opens) := by
  have hstep {t : SecureAudioTranscriber} (hwired : Wired hasReset t) (call : TranscriberCall)
      (hlistens : (transcriberStep aead t call).1.consumer.gate = .listening) :
      t.consumer.gate = .listening ∨ (t.consumer.gate = .codecReady ∧ call.Opens) :=
    (transcriberStep_moves aead (fun hshut => (hwired.shut hshut).1) call).listening hlistens
  cases h with
  | same => exact Or.inl hlistens
  | one =>
    rw [← BridgeCall.inner_opens]
    exact hstep hwired _ hlistens
  | closing => exact Or.inl ((hstep hwired _ hlistens).resolve_right nofun)
  | both hopens _ =>
    have hinner := (hstep (hwired.step _) _ hlistens).resolve_right nofun
    rw [← BridgeCall.inner_opens] at hopens
    exact Or.inl ((hstep hwired _ hinner).resolve_right (fun hopen => hopens hopen.2))

/-- The stream that an open consumer holds finished was finished before, or by a final chunk just now. -/
theorem Inner.finished (h : Inner aead t call t') (hwired : Wired hasReset t) (hlive : t'.consumer.closed = false)
    (hfinished : t'.consumer.finished = true) :
    (t.consumer.closed = false ∧ t.consumer.finished = true ∧ t'.storedTranscript = t.storedTranscript) ∨
    ∃ frame answer session receiver samples l, call = .consumeFrame frame answer ∧ t.closed = false ∧
      t.consumer.finished = false ∧ t.consumer.gate = .listening ∧
      t.consumer.receiver.openFrame aead t.consumer.session frame = (session, receiver, .ok samples) ∧
      receiver.complete = true ∧
      consumeChunk t.hasProvider answer ⟨t.storedTranscript, none⟩ samples true = (l, .ok ()) ∧
      t'.storedTranscript = l.transcript := by
  have hmoves {t : SecureAudioTranscriber} (hwired : Wired hasReset t) (call : TranscriberCall) :
      Moves aead t call (transcriberStep aead t call) :=
    transcriberStep_moves aead (fun hshut => (hwired.shut hshut).1) call
  cases h with
  | same => exact Or.inl ⟨hlive, hfinished, rfl⟩
  | one =>
    refine ((hmoves hwired _).finished hlive hfinished).imp_right ?_
    rintro ⟨frame, answer, session, receiver, samples, l, hcall, hrest⟩
    refine ⟨frame, answer, session, receiver, samples, l, ?_, hrest⟩
    cases call <;> cases hcall
    rfl
  | closing =>
    refine ((hmoves hwired _).finished hlive hfinished).imp_right ?_
    rintro ⟨frame, answer, -, -, -, -, hcall, -⟩
    cases hcall
  | both _ hconsume =>
    obtain ⟨hlive', hfinished', hsame⟩ | ⟨frame, answer, -, -, -, -, hcall, -⟩ :=
      (hmoves (hwired.step call.inner) .close).finished hlive hfinished
    · obtain ⟨hbefore, hfinished'', hsame'⟩ | ⟨frame, answer, -, -, -, -, hcall, -⟩ :=
        (hmoves hwired call.inner).finished hlive' hfinished'
      · exact Or.inl ⟨hbefore, hfinished'', hsame.trans hsame'⟩
      · cases call <;> cases hcall
        exact absurd rfl (hconsume frame answer)
    · cases hcall

end

section
variable {aead : Aead} {session : SecureSession} {receiver : SecureAudioReceiver} {hasReset : Bool}
variable {pre : List BridgeCall} {call : BridgeCall}

/-- What the history says of a bridge. -/
structure Heard (aead : Aead) (m : Machine SecureAudioCommandBridge BridgeCall BridgeOut) (hasReset : Bool)
    (pre : List BridgeCall) (b : SecureAudioCommandBridge) : Prop where
  wired : Wired hasReset b.transcriber
  shut : b.held = false → b.transcriber.closed = true
  dispatched : b.dispatched = true → b.held = false
  /-- The dispatcher was called by a bridge that let its transcriber go. -/
  once : ((m.outs pre).filterMap BridgeOut.dispatched).length ≤ 1
  none : b.held = true → (m.outs pre).filterMap BridgeOut.dispatched = []

/-- What the history says of a capture. -/
structure Captured (aead : Aead) (m : Machine SecureAudioCommandBridge BridgeCall BridgeOut)
    (pre : List BridgeCall) (b : SecureAudioCommandBridge) : Prop where
  opened : b.consumer.gate = .listening → CaptureOpen m pre
  final : b.consumer.closed = false → b.consumer.finished = true → b.consumer.gate = .listening →
    ∀ t, b.transcriber.storedTranscript = some t → FinalInOpenCapture aead m t pre

theorem Heard.step (h : Heard aead (bridgeMachine aead session receiver hasReset) hasReset pre
      ((bridgeMachine aead session receiver hasReset).run pre)) (call : BridgeCall) :
    Heard aead (bridgeMachine aead session receiver hasReset) hasReset (pre ++ [call])
      ((bridgeMachine aead session receiver hasReset).run (pre ++ [call])) := by
  have hstep := bridgeStep_step aead ((bridgeMachine aead session receiver hasReset).run pre) call
  rw [Machine.run_concat]
  refine ⟨hstep.inner.wired h.wired, ?_, hstep.dispatched h.dispatched, ?_, ?_⟩
  · intro hlet
    obtain hbefore | hclosed := hstep.shut hlet
    · exact hstep.inner.closed h.wired (h.shut hbefore)
    · exact hclosed
  · rw [Machine.outs_concat, List.filterMap_append, List.length_append]
    cases hout : ((bridgeMachine aead session receiver hasReset).out pre call).dispatched with
    | none => simpa [hout] using h.once
    | some t =>
      obtain ⟨-, hheld, -⟩ := hstep.dispatch t hout
      rw [h.none hheld]
      simp [hout]
  · intro hheld
    rw [Machine.outs_concat, List.filterMap_append, h.none (hstep.held hheld)]
    cases hout : ((bridgeMachine aead session receiver hasReset).out pre call).dispatched with
    | none => simp [hout]
    | some t =>
      obtain ⟨-, -, hlet, -⟩ := hstep.dispatch t hout
      cases hlet.symm.trans hheld

theorem run_heard (calls : List BridgeCall) : Heard aead (bridgeMachine aead session receiver hasReset) hasReset calls
    ((bridgeMachine aead session receiver hasReset).run calls) := by
  induction calls using List.reverseRecOn with
  | nil => exact ⟨Wired.start _ _ (fun _ => rfl), nofun, nofun, Nat.zero_le _, fun _ => rfl⟩
  | append_singleton pre call ih => exact ih.step call

/-- The final frame that the consumer took is authenticated, and its text is what was stored. -/
theorem FinalConsumed.of_taken {frame : Value} {answer : Except Raised Value} {session' : SecureSession}
    {receiver' : SecureAudioReceiver} {samples : Bytes} {l : Listener} {t : PyStr}
    (hwired : Wired hasReset ((bridgeMachine aead session receiver hasReset).run pre).transcriber)
    (hlive : ((bridgeMachine aead session receiver hasReset).run pre).transcriber.closed = false)
    (hunfinished : ((bridgeMachine aead session receiver hasReset).run pre).consumer.finished = false)
    (hopen : ((bridgeMachine aead session receiver hasReset).run pre).consumer.receiver.openFrame aead
      ((bridgeMachine aead session receiver hasReset).run pre).consumer.session frame =
        (session', receiver', .ok samples))
    (hcomplete : receiver'.complete = true)
    (hchunk : consumeChunk ((bridgeMachine aead session receiver hasReset).run pre).transcriber.hasProvider answer
      ⟨((bridgeMachine aead session receiver hasReset).run pre).transcriber.storedTranscript, none⟩ samples true =
        (l, .ok ()))
    (hstored : l.transcript = some t)
    (hout : ((bridgeMachine aead session receiver hasReset).out pre (.consumeFrame frame answer)).result =
      .ok (.consumed true)) :
    FinalConsumed aead (bridgeMachine aead session receiver hasReset) t pre (.consumeFrame frame answer) := by
  obtain ⟨hhas, hnone⟩ := hwired.chunk hlive hunfinished
  rw [hhas, hnone] at hchunk
  cases frame with
  | dict frame =>
    obtain ⟨s', e, hfail, -⟩ | ⟨streamId, final, payload, hok, haccepted⟩ :=
      SecureAudioReceiver.openChunk_cases aead ((bridgeMachine aead session receiver hasReset).run pre).consumer.session
        ((bridgeMachine aead session receiver hasReset).run pre).consumer.receiver frame
    · cases hfail.symm.trans hopen
    obtain ⟨-, hrest⟩ := Prod.mk.inj (hok.symm.trans hopen)
    obtain ⟨rfl, -⟩ := Prod.mk.inj hrest
    obtain rfl : final = true := hcomplete
    unfold consumeChunk at hchunk
    cases answer with
    | error raised => cases hchunk
    | ok result =>
      cases result with
      | str text =>
        cases hbounded : validateBoundedText text 4000 with
        | error e =>
          simp only [hbounded] at hchunk
          cases hchunk
        | ok bounded =>
          obtain rfl := PipaCore.validateBoundedText_eq hbounded
          simp only [hbounded] at hchunk
          obtain ⟨rfl, -⟩ := Prod.mk.inj hchunk
          exact ⟨frame, _, streamId, payload, rfl, haccepted, hout, hbounded, (Option.some.inj hstored).symm⟩
      | null =>
        obtain ⟨rfl, -⟩ := Prod.mk.inj hchunk
        cases hstored
      | _ => cases hchunk
  | _ => cases hopen

theorem Captured.step (hheard : Heard aead (bridgeMachine aead session receiver hasReset) hasReset pre
      ((bridgeMachine aead session receiver hasReset).run pre))
    (h : Captured aead (bridgeMachine aead session receiver hasReset) pre
      ((bridgeMachine aead session receiver hasReset).run pre))
    (hfresh : FreshCapture ((bridgeMachine aead session receiver hasReset).run pre) call) :
    Captured aead (bridgeMachine aead session receiver hasReset) (pre ++ [call])
      ((bridgeMachine aead session receiver hasReset).run (pre ++ [call])) := by
  have hstep := bridgeStep_step aead ((bridgeMachine aead session receiver hasReset).run pre) call
  have hlistens : ((bridgeMachine aead session receiver hasReset).run (pre ++ [call])).consumer.gate = .listening →
      ((bridgeMachine aead session receiver hasReset).run pre).consumer.gate = .listening ∨
        (((bridgeMachine aead session receiver hasReset).run pre).consumer.gate = .codecReady ∧ call.Opens) := by
    rw [Machine.run_concat]
    exact hstep.inner.listening hheard.wired
  refine ⟨?_, ?_⟩
  · intro hlistening
    obtain hbefore | ⟨hready, hopens⟩ := hlistens hlistening
    · exact (h.opened hbefore).keep hlistening
    · refine Machine.Since.now ⟨by rw [hready]; decide, hlistening, ?_⟩
      cases call with
      | beginCapture d n s =>
        obtain ⟨rfl, rfl, rfl⟩ := hopens
        exact Or.inl rfl
      | gate call =>
        cases call with
        | beginListening d n s =>
          obtain ⟨rfl, rfl, rfl⟩ := hopens
          exact Or.inr rfl
        | _ => cases hopens
      | _ => cases hopens
  · intro hlive hfinished hlistening t hstored
    have hrun := Machine.run_concat (bridgeMachine aead session receiver hasReset) pre call
    have hinner := hstep.inner.finished hheard.wired (by rw [← hlive, hrun]; rfl) (by rw [← hfinished, hrun]; rfl)
    obtain ⟨hlive', hfinished', hsame⟩ |
      ⟨frame, answer, session', receiver', samples, l, rfl, hopen, hunfinished, hbefore, hframe, hcomplete, hchunk, hsame⟩ := hinner
    · obtain hbefore | ⟨hready, hopens⟩ := hlistens hlistening
      · refine (h.final hlive' hfinished' hbefore t ?_).keep hlistening
        rw [← hsame, ← hstored, hrun]
        rfl
      · cases (hfresh hopens hready).symm.trans hfinished'
    · refine Machine.Since.now ⟨?_, h.opened hbefore, hlistening⟩
      refine FinalConsumed.of_taken hheard.wired hopen hunfinished hframe hcomplete hchunk ?_ ?_
      · rw [← hsame, ← hstored, hrun]
        rfl
      · have hheld : ((bridgeMachine aead session receiver hasReset).run pre).held = true := by
          cases hheld : ((bridgeMachine aead session receiver hasReset).run pre).held with
          | true => rfl
          | false => cases (hheard.shut hheld).symm.trans hopen
        have hclosed : ((bridgeMachine aead session receiver hasReset).run pre).closed = false := by
          rw [SecureAudioCommandBridge.closed, hheld, hopen]
          rfl
        have hwired := (hheard.step (.consumeFrame frame answer)).wired
        have hstill : ((bridgeMachine aead session receiver hasReset).run
            (pre ++ [.consumeFrame frame answer])).transcriber.closed = false := by
          refine Bool.or_eq_false_iff.mpr ⟨?_, hlive⟩
          cases hprovider : ((bridgeMachine aead session receiver hasReset).run
            (pre ++ [.consumeFrame frame answer])).transcriber.providerClosed with
          | false => rfl
          | true => cases (hwired.shut hprovider).1.symm.trans hlive
        rw [hrun] at hstill hfinished
        have hresult := hstep.consumed frame answer rfl hclosed hstill
        rw [show (bridgeStep aead ((bridgeMachine aead session receiver hasReset).run pre)
          (.consumeFrame frame answer)).1.consumer.finished = true from hfinished] at hresult
        exact hresult

theorem run_captured {calls : List BridgeCall}
    (h : (bridgeMachine aead session receiver hasReset).Along FreshCapture calls) :
    Captured aead (bridgeMachine aead session receiver hasReset) calls
      ((bridgeMachine aead session receiver hasReset).run calls) := by
  induction calls using List.reverseRecOn with
  | nil => exact ⟨nofun, nofun⟩
  | append_singleton pre call ih =>
    obtain ⟨hpre, hcall⟩ := h.of_concat
    exact (ih hpre).step (run_heard pre) hcall

/-- A bridge that is closed stays closed. -/
theorem closed_run_bridge (h : ((bridgeMachine aead session receiver hasReset).run pre).closed = true)
    (post : List BridgeCall) : ((bridgeMachine aead session receiver hasReset).run (pre ++ post)).closed = true := by
  induction post using List.reverseRecOn with
  | nil => rwa [List.append_nil]
  | append_singleton post call ih =>
    have hstep := bridgeStep_step aead ((bridgeMachine aead session receiver hasReset).run (pre ++ post)) call
    have hheard : Heard aead (bridgeMachine aead session receiver hasReset) hasReset (pre ++ post) _ := run_heard _
    rw [← List.append_assoc, Machine.run_concat]
    obtain hlet | hclosed := Bool.or_eq_true_iff.mp ih
    · refine Bool.or_eq_true_iff.mpr (Or.inr (hstep.inner.closed hheard.wired (hheard.shut ?_)))
      simpa using hlet
    · exact Bool.or_eq_true_iff.mpr (Or.inr (hstep.inner.closed hheard.wired hclosed))

/-- A call that ends the bridge: it dispatches, or it is a frame or a finalization and fails. -/
def Ends (m : Machine SecureAudioCommandBridge BridgeCall BridgeOut) (pre : List BridgeCall) (call : BridgeCall) : Prop :=
  (m.out pre call).dispatched.isSome = true ∨
    (((∃ frame answer, call = .consumeFrame frame answer) ∨ ∃ dispatches, call = .finalize dispatches) ∧
      ∃ e, (m.out pre call).result = .error e)

/-- The dispatcher is called once at most, by a finalization, with the transcript of a final frame of a capture
that was opened with all consents and is still open, in every run in which no capture is opened over a finished
stream. After that, after a finalization that fails and after a frame that is refused the bridge is closed for good. -/
theorem dispatches_final_transcript {calls : List BridgeCall}
    (h : (bridgeMachine aead session receiver hasReset).Along FreshCapture calls) :
    (((bridgeMachine aead session receiver hasReset).outs calls).filterMap BridgeOut.dispatched).length ≤ 1 ∧
    (∀ pre call post t, calls = pre ++ call :: post →
      ((bridgeMachine aead session receiver hasReset).out pre call).dispatched = some t →
      (∃ dispatches, call = .finalize dispatches) ∧
        ((bridgeMachine aead session receiver hasReset).run pre).consumer.gate = .listening ∧
        CaptureOpen (bridgeMachine aead session receiver hasReset) pre ∧
        FinalInOpenCapture aead (bridgeMachine aead session receiver hasReset) t pre) ∧
    ∀ pre call post, calls = pre ++ call :: post → Ends (bridgeMachine aead session receiver hasReset) pre call →
      ((bridgeMachine aead session receiver hasReset).run calls).closed = true := by
  refine ⟨(run_heard calls).once, ?_, ?_⟩
  · rintro pre call post t rfl hdispatched
    have hcaptured := run_captured h.of_append
    obtain ⟨hfinalize, -, -, hdrain, hstored⟩ :=
      (bridgeStep_step aead ((bridgeMachine aead session receiver hasReset).run pre) call).dispatch t hdispatched
    exact ⟨hfinalize, hdrain.listening, hcaptured.opened hdrain.listening,
      hcaptured.final hdrain.live hdrain.finished hdrain.listening t hstored⟩
  · rintro pre call post rfl hends
    have hstep := bridgeStep_step aead ((bridgeMachine aead session receiver hasReset).run pre) call
    have hheard : Heard aead (bridgeMachine aead session receiver hasReset) hasReset pre _ := run_heard pre
    have hclosed : ((bridgeMachine aead session receiver hasReset).run (pre ++ [call])).closed = true := by
      rw [Machine.run_concat]
      obtain hdispatched | ⟨hcall, herror⟩ := hends
      · obtain ⟨t, ht⟩ := Option.isSome_iff_exists.mp hdispatched
        obtain ⟨-, -, hlet, -⟩ := hstep.dispatch t ht
        exact Bool.or_eq_true_iff.mpr (Or.inl (congrArg not hlet))
      · cases hbefore : ((bridgeMachine aead session receiver hasReset).run pre).dispatched with
        | false => exact hstep.rejected hcall hbefore herror
        | true =>
          have hlet := hheard.dispatched hbefore
          exact Bool.or_eq_true_iff.mpr (Or.inr (hstep.inner.closed hheard.wired (hheard.shut hlet)))
    have hrest := closed_run_bridge hclosed post
    rwa [List.append_assoc] at hrest

end

def vectorBridge : Machine SecureAudioCommandBridge BridgeCall BridgeOut :=
  bridgeMachine .checksum vectorServer .start true

/-- A capture with a final frame, over a codec that was just made ready. -/
def spokenCapture : List BridgeCall :=
  [.gate (.markCodecReady true), .beginCapture true true true,
    .consumeFrame (vectorFrame 0 [1, 2] true) (.ok (.str (PyStr.ofString "hola")))]

/-- The gate is drained without a finalization, and a new capture is opened. -/
def reopenedCapture : List BridgeCall :=
  spokenCapture ++ [.gate .beginDraining] ++ [.gate .finishDraining] ++ [.beginCapture true true true]

/-- The transcript of the first capture is dispatched in the second, which got no frame. -/
theorem dispatches_earlier_transcript :
    (vectorBridge.out reopenedCapture (.finalize true)).dispatched = some (PyStr.ofString "hola") ∧
      ¬ FinalInOpenCapture .checksum vectorBridge (PyStr.ofString "hola") reopenedCapture := by
  refine ⟨by decide +kernel, ?_⟩
  intro hfinal
  obtain ⟨⟨_, _, _, _, hcall, -⟩, -⟩ | ⟨hbefore, -⟩ := hfinal.last
  · cases hcall
  obtain ⟨⟨_, _, _, _, hcall, -⟩, -⟩ | ⟨-, hlistens⟩ := hbefore.last
  · cases hcall
  · have hready : (vectorBridge.run (spokenCapture ++ [.gate .beginDraining] ++ [.gate .finishDraining])).consumer.gate =
        .codecReady := by decide +kernel
    cases hready.symm.trans hlistens

theorem dispatches_final_transcript_vector :
    (vectorBridge.out spokenCapture (.finalize true)).dispatched = some (PyStr.ofString "hola") ∧
      FinalInOpenCapture .checksum vectorBridge (PyStr.ofString "hola") spokenCapture := by
  have hdispatched : (vectorBridge.out spokenCapture (.finalize true)).dispatched = some (PyStr.ofString "hola") := by
    decide +kernel
  have hfresh : vectorBridge.Along FreshCapture (spokenCapture ++ [.finalize true]) :=
    (((Machine.Along.nil.concat (by decide)).concat (by decide)).concat (by decide)).concat
      (by decide)
  exact ⟨hdispatched, ((dispatches_final_transcript hfresh).2.1 spokenCapture (.finalize true) [] _ rfl hdispatched).2.2.2⟩

end Pipa.Secure
