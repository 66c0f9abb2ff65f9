import Pipa.Secure.Parity
import Pipa.Secure.Audio

/- Capture of audio (`secure_audio.py`): `AudioCaptureGate`, the permission to
   capture, and `SecureAudioConsumer`, which delivers the chunks of one stream to a
   callback. The gate, the receiver and the session are objects of their own; the
   consumer that refers to them holds their state here. The gate may also be
   operated from outside, and is an input of its own in a run.

   A final frame allows one finalization, as long as no capture is opened while the
   consumer still holds the finished stream of the last one. -/
namespace Pipa.Secure
open Pipa.Lib

/-! ## The gate -/

inductive AudioCaptureState where
  | disabled | codecReady | listening | draining | error
  deriving DecidableEq

namespace AudioCaptureState

/-- `can_capture`. -/
def canCapture (g : AudioCaptureState) : Bool := g = .listening

/-- `mark_codec_ready`. -/
def markCodecReady (g : AudioCaptureState) (codecInitialized : Bool) : AudioCaptureState × Bool :=
  if g ≠ .disabled ∧ g ≠ .error then (g, false)
  else if !codecInitialized then (.error, false)
  else (.codecReady, true)

/-- `begin_listening`. -/
def beginListening (g : AudioCaptureState) (displayReady consented secureTransportReady : Bool) :
    AudioCaptureState × Bool :=
  if g ≠ .codecReady || !displayReady || !consented || !secureTransportReady then (g, false)
  else (.listening, true)

/-- `begin_draining`. -/
def beginDraining (g : AudioCaptureState) : AudioCaptureState × Bool :=
  if g ≠ .listening then (g, false) else (.draining, true)

/-- `finish_draining`. -/
def finishDraining (g : AudioCaptureState) : AudioCaptureState × Bool :=
  if g ≠ .draining then (g, false) else (.codecReady, true)

/-- `begin_draining() and finish_draining()`. -/
def drain (g : AudioCaptureState) : AudioCaptureState × Bool :=
  match g.beginDraining with
  | (g, false) => (g, false)
  | (g, true) => g.finishDraining

end AudioCaptureState

/-- A call of the gate from outside. -/
inductive GateCall where
  | markCodecReady (codecInitialized : Bool)
  | beginListening (displayReady consented secureTransportReady : Bool)
  | beginDraining
  | finishDraining
  | fail

def GateCall.apply (g : AudioCaptureState) : GateCall → AudioCaptureState
  | .markCodecReady codecInitialized => (g.markCodecReady codecInitialized).1
  | .beginListening displayReady consented secureTransportReady =>
    (g.beginListening displayReady consented secureTransportReady).1
  | .beginDraining => g.beginDraining.1
  | .finishDraining => g.finishDraining.1
  | .fail => .error

/-! ## The consumer -/

/-- The `AudioFrameError`s of the layers over the receiver, whose own are `frame`. -/
inductive CaptureError where
  | policyNotReady | consumerClosed | finished | policyNotActive | noCallback | consumerFailed | ended | cannotDrain
  | transcriberClosed | noTranscript | resetFailed | moreThanOne | unavailable | partialTranscript | invalidTranscript
  | alreadyDispatched | finalizationFailed | dispatchUnavailable | dispatchFailed | bridgeClosed
  | frame (e : AudioError)

/-- What a callback raised: an `AudioFrameError`, or any other exception. -/
inductive Raised where
  | audioFrameError (e : CaptureError)
  | other

structure AudioStreamSummary where
  streamBytes : Nat
  streamDurationMs : Nat

structure SecureAudioConsumer where
  session : SecureSession
  receiver : SecureAudioReceiver
  gate : AudioCaptureState
  hasCallback : Bool
  closed : Bool
  finished : Bool

/-- `open_chunk` on any object; what is not a mapping has no field set. -/
def SecureAudioReceiver.openFrame (aead : Aead) (s : SecureSession) (a : SecureAudioReceiver) :
    Value → SecureSession × SecureAudioReceiver × Except AudioError Bytes
  | .dict frame => openChunk aead s a frame
  | _ => (s.close, start, .error .fields)

namespace SecureAudioConsumer

/-- A new consumer of a receiver and a gate. -/
def start (session : SecureSession) (receiver : SecureAudioReceiver) (gate : AudioCaptureState) :
    SecureAudioConsumer :=
  ⟨session, receiver, gate, true, false, false⟩

/-- `close`. -/
def close (c : SecureAudioConsumer) : SecureAudioConsumer :=
  if c.closed then c
  else
    { session := c.session.close
      receiver := .start
      gate := .error
      hasCallback := false
      closed := true
      finished := false }

/-- `begin_capture`. -/
def beginCapture (c : SecureAudioConsumer) (displayReady consented secureTransportReady : Bool) :
    SecureAudioConsumer × Except CaptureError Unit :=
  if c.closed then (c, .error .policyNotReady)
  else match c.gate.beginListening displayReady consented secureTransportReady with
    | (g, false) => ({ c with gate := g }, .error .policyNotReady)
    | (g, true) => ({ c with gate := g }, .ok ())

/-- `consume_frame`. The callback works on a state `τ` of its owner. It keeps no export of the view that it is handed,
so that `view.release()` does not raise. -/
def consumeFrame {τ : Type} (aead : Aead) (callback : τ → Bytes → Bool → τ × Except Raised Unit) (t : τ)
    (c : SecureAudioConsumer) (frame : Value) : SecureAudioConsumer × τ × Except CaptureError Bool :=
  if c.closed then (c, t, .error .consumerClosed)
  else if c.finished then (c.close, t, .error .finished)
  else if !c.gate.canCapture then (c.close, t, .error .policyNotActive)
  else match c.receiver.openFrame aead c.session frame with
    | (session, receiver, .error e) =>
      ({ c with
          session := session
          receiver := receiver
          gate := .error
          closed := true
          hasCallback := false }, t, .error (.frame e))
    | (session, receiver, .ok samples) =>
      let c := { c with session := session, receiver := receiver }
      if !c.hasCallback then (c.close, t, .error .noCallback)
      else match callback t samples receiver.complete with
        | (t, .error (.audioFrameError e)) => (c.close, t, .error e)
        | (t, .error .other) => (c.close, t, .error .consumerFailed)
        | (t, .ok ()) => ({ c with finished := receiver.complete }, t, .ok receiver.complete)

/-- `finalize`. -/
def finalize (c : SecureAudioConsumer) : SecureAudioConsumer × Except CaptureError AudioStreamSummary :=
  if c.closed || !c.finished || !c.receiver.complete then (c.close, .error .ended)
  else match c.gate.drain with
    | (g, false) => ({ c with gate := g }.close, .error .cannotDrain)
    | (g, true) => ({ c with gate := g }, .ok ⟨c.receiver.streamBytes, c.receiver.streamDurationMs⟩)

/-- `cancel`. -/
def cancel (c : SecureAudioConsumer) : SecureAudioConsumer :=
  if c.closed then c
  else
    { c with
      receiver := c.receiver.cancel
      gate :=
        if c.gate = .listening then
          match c.gate.drain with
          | (_, false) => .error
          | (g, true) => g
        else c.gate
      finished := false }

end SecureAudioConsumer

/-! ## What the calls do -/

namespace AudioCaptureState

theorem drain_eq (g : AudioCaptureState) : g.drain = if g = .listening then (.codecReady, true) else (g, false) := by
  cases g <;> rfl

theorem beginListening_cases (g : AudioCaptureState) (d c s : Bool) :
    (g = .codecReady ∧ d = true ∧ c = true ∧ s = true ∧ g.beginListening d c s = (.listening, true)) ∨
      g.beginListening d c s = (g, false) := by
  unfold beginListening
  split
  · exact Or.inr rfl
  · rename_i h
    simp only [Bool.or_eq_true, decide_eq_true_eq, Bool.not_eq_true', not_or, not_not, Bool.not_eq_false] at h
    obtain ⟨⟨⟨hg, hd⟩, hc⟩, hs⟩ := h
    exact Or.inl ⟨hg, hd, hc, hs, rfl⟩

end AudioCaptureState

/-- From outside the gate starts to listen in one way only. -/
theorem GateCall.apply_listening {g : AudioCaptureState} {call : GateCall} (h : call.apply g = .listening) :
    g = .listening ∨ (g = .codecReady ∧ call = .beginListening true true true) := by
  cases call with
  | markCodecReady codecInitialized =>
    left
    simp only [apply, AudioCaptureState.markCodecReady] at h
    split at h
    · exact h
    · split at h
      · cases h
      · cases h
  | beginListening d c s =>
    simp only [apply] at h
    obtain ⟨hg, rfl, rfl, rfl, -⟩ | hsame := g.beginListening_cases d c s
    · exact Or.inr ⟨hg, rfl⟩
    · rw [hsame] at h
      exact Or.inl h
  | beginDraining =>
    simp only [apply, AudioCaptureState.beginDraining] at h
    split at h
    · exact Or.inl h
    · cases h
  | finishDraining =>
    simp only [apply, AudioCaptureState.finishDraining] at h
    split at h
    · exact Or.inl h
    · cases h
  | fail => cases h

namespace SecureAudioConsumer

@[simp] theorem close_closed (c : SecureAudioConsumer) : c.close.closed = true := by
  unfold close
  split
  · assumption
  · rfl

theorem close_of_closed {c : SecureAudioConsumer} (h : c.closed = true) : c.close = c := if_pos h

/-- A consumer that was open is closed with the gate and the session. -/
theorem close_of_open {c : SecureAudioConsumer} (h : c.closed = false) :
    c.close = ⟨c.session.close, .start, .error, false, true, false⟩ := by
  unfold close
  rw [if_neg (by rw [h]; exact Bool.false_ne_true)]

/-- What `consume_frame` can do. -/
inductive Consumes {τ : Type} (aead : Aead) (callback : τ → Bytes → Bool → τ × Except Raised Unit) (t : τ)
    (c : SecureAudioConsumer) (frame : Value) : SecureAudioConsumer × τ × Except CaptureError Bool → Prop
  | closed (h : c.closed = true) : Consumes aead callback t c frame (c, t, .error .consumerClosed)
  /-- The callback is not called. -/
  | refused (c' : SecureAudioConsumer) (e : CaptureError) (h : c.closed = false)
      (hreason : c.finished = true ∨ c.gate ≠ .listening ∨
        (∃ e, (c.receiver.openFrame aead c.session frame).2.2 = .error e) ∨ c.hasCallback = false)
      (hclosed : c'.closed = true) (hfinished : c'.finished = false) (hgate : c'.gate = .error) :
      Consumes aead callback t c frame (c', t, .error e)
  | failed (c' : SecureAudioConsumer) (session : SecureSession) (receiver : SecureAudioReceiver) (samples : Bytes)
      (t' : τ) (e : CaptureError) (raised : Raised) (h : c.closed = false) (hunfinished : c.finished = false)
      (hlistening : c.gate = .listening)
      (hopen : c.receiver.openFrame aead c.session frame = (session, receiver, .ok samples))
      (hcallback : callback t samples receiver.complete = (t', .error raised))
      (hclosed : c'.closed = true) (hfinished : c'.finished = false) (hgate : c'.gate = .error) :
      Consumes aead callback t c frame (c', t', .error e)
  | taken (session : SecureSession) (receiver : SecureAudioReceiver) (samples : Bytes) (t' : τ) (h : c.closed = false)
      (hunfinished : c.finished = false) (hlistening : c.gate = .listening)
      (hopen : c.receiver.openFrame aead c.session frame = (session, receiver, .ok samples))
      (hcallback : callback t samples receiver.complete = (t', .ok ())) :
      Consumes aead callback t c frame
        ({ c with session := session, receiver := receiver, finished := receiver.complete }, t', .ok receiver.complete)

theorem consumeFrame_cases {τ : Type} (aead : Aead) (callback : τ → Bytes → Bool → τ × Except Raised Unit) (t : τ)
    (c : SecureAudioConsumer) (frame : Value) :
    Consumes aead callback t c frame (c.consumeFrame aead callback t frame) := by
  unfold consumeFrame
  split
  · rename_i h
    exact .closed h
  rename_i h
  have hopen : c.closed = false := Bool.eq_false_iff.mpr h
  split
  · rename_i hfinished
    rw [close_of_open hopen]
    exact .refused _ _ hopen (Or.inl hfinished) rfl rfl rfl
  rename_i hfinished
  have hunfinished : c.finished = false := Bool.eq_false_iff.mpr hfinished
  split
  · rename_i hgate
    rw [close_of_open hopen]
    refine .refused _ _ hopen (Or.inr (Or.inl ?_)) rfl rfl rfl
    simpa [AudioCaptureState.canCapture] using hgate
  rename_i hgate
  have hlistening : c.gate = .listening := by simpa [AudioCaptureState.canCapture] using hgate
  split
  · rename_i hframe
    exact .refused _ _ hopen (Or.inr (Or.inr (Or.inl ⟨_, by rw [hframe]⟩))) rfl hunfinished rfl
  rename_i session receiver samples hframe
  simp only
  split
  · rename_i hcallback
    rw [close_of_open (by exact hopen)]
    exact .refused _ _ hopen (Or.inr (Or.inr (Or.inr (by simpa using hcallback)))) rfl rfl rfl
  split
  · rename_i hcallback
    rw [close_of_open (by exact hopen)]
    exact .failed _ session receiver samples _ _ _ hopen hunfinished hlistening hframe hcallback rfl rfl rfl
  · rename_i hcallback
    rw [close_of_open (by exact hopen)]
    exact .failed _ session receiver samples _ _ _ hopen hunfinished hlistening hframe hcallback rfl rfl rfl
  · rename_i hcallback
    exact .taken session receiver samples _ hopen hunfinished hlistening hframe hcallback

/-- All of the stream was consumed, and the capture is still open. -/
structure Drainable (c : SecureAudioConsumer) : Prop where
  live : c.closed = false
  finished : c.finished = true
  complete : c.receiver.complete = true
  listening : c.gate = .listening

/-- A finalization succeeds with a finished stream and a gate that listens, and stops the capture. -/
theorem finalize_cases (c : SecureAudioConsumer) :
    (∃ summary, c.Drainable ∧ c.finalize = ({ c with gate := .codecReady }, .ok summary)) ∨
    (∃ c' e, ¬ c.Drainable ∧ c'.closed = true ∧ (c.closed = false → c'.gate = .error ∧ c'.finished = false) ∧
      (c.closed = true → c' = c) ∧ c.finalize = (c', .error e)) := by
  unfold finalize
  split
  · rename_i hguard
    right
    refine ⟨c.close, .ended, ?_, close_closed c, ?_, close_of_closed, rfl⟩
    · rintro ⟨hlive, hfinished, hcomplete, -⟩
      rw [hlive, hfinished, hcomplete] at hguard
      cases hguard
    · intro hopen
      rw [close_of_open hopen]
      exact ⟨rfl, rfl⟩
  rename_i hguard
  simp only [Bool.or_eq_true, Bool.not_eq_true', not_or, Bool.not_eq_true, Bool.not_eq_false] at hguard
  obtain ⟨⟨hopen, hfinished⟩, hcomplete⟩ := hguard
  rw [AudioCaptureState.drain_eq]
  by_cases hg : c.gate = .listening
  · rw [if_pos hg]
    exact Or.inl ⟨_, ⟨hopen, hfinished, hcomplete, hg⟩, rfl⟩
  · rw [if_neg hg]
    refine Or.inr ⟨_, .cannotDrain, fun hdrain => hg hdrain.listening, close_closed _, ?_, ?_, rfl⟩
    · intro _
      rw [close_of_open (by exact hopen)]
      exact ⟨rfl, rfl⟩
    · intro hclosed
      rw [hopen] at hclosed
      cases hclosed

/-- A capture is opened with the three consents, over a gate that is ready. -/
theorem beginCapture_cases (c : SecureAudioConsumer) (d n s : Bool) :
    (c.closed = false ∧ c.gate = .codecReady ∧ d = true ∧ n = true ∧ s = true ∧
      c.beginCapture d n s = ({ c with gate := .listening }, .ok ())) ∨
    c.beginCapture d n s = (c, .error .policyNotReady) := by
  unfold beginCapture
  split
  · exact Or.inr rfl
  rename_i hopen
  obtain ⟨hg, hd, hn, hs, hbegin⟩ | hsame := c.gate.beginListening_cases d n s
  · rw [hbegin]
    exact Or.inl ⟨Bool.eq_false_iff.mpr hopen, hg, hd, hn, hs, rfl⟩
  · rw [hsame]
    exact Or.inr rfl

theorem cancel_eq (c : SecureAudioConsumer) : c.cancel = if c.closed then c else
    { c with
      receiver := .start
      gate := if c.gate = .listening then .codecReady else c.gate
      finished := false } := by
  unfold cancel
  rw [AudioCaptureState.drain_eq]
  split
  · rfl
  · split <;> rfl

end SecureAudioConsumer

/-! ## Runs -/

/-- A call of the consumer, with what its callback does if it comes to that, or of its gate. -/
inductive ConsumerCall where
  | beginCapture (displayReady consented secureTransportReady : Bool)
  | consumeFrame (frame : Value) (callback : Except Raised Unit)
  | finalize
  | cancel
  | close
  | gate (call : GateCall)

inductive ConsumerOut where
  | began (result : Except CaptureError Unit)
  | consumed (result : Except CaptureError Bool)
  | finalized (result : Except CaptureError AudioStreamSummary)
  | done

def consumerStep (aead : Aead) (c : SecureAudioConsumer) : ConsumerCall → SecureAudioConsumer × ConsumerOut
  | .beginCapture displayReady consented secureTransportReady =>
    let r := c.beginCapture displayReady consented secureTransportReady
    (r.1, .began r.2)
  | .consumeFrame frame callback =>
    let r := c.consumeFrame aead (fun t _ _ => (t, callback)) () frame
    (r.1, .consumed r.2.2)
  | .finalize =>
    let r := c.finalize
    (r.1, .finalized r.2)
  | .cancel => (c.cancel, .done)
  | .close => (c.close, .done)
  | .gate call => ({ c with gate := call.apply c.gate }, .done)

/-- A new consumer of any receiver and gate. -/
def consumerMachine (aead : Aead) (session : SecureSession) (receiver : SecureAudioReceiver)
    (gate : AudioCaptureState) : Machine SecureAudioConsumer ConsumerCall ConsumerOut where
  init := .start session receiver gate
  step := consumerStep aead

/-- A final frame was consumed. -/
def ConsumerOut.isFinal : ConsumerOut → Bool
  | .consumed (.ok final) => final
  | _ => false

/-- A finalization succeeded. -/
def ConsumerOut.isFinalized : ConsumerOut → Bool
  | .finalized (.ok _) => true
  | _ => false

/-- A capture began. -/
def ConsumerOut.isBegun : ConsumerOut → Bool
  | .began (.ok _) => true
  | _ => false

/-- A call that opens a capture. -/
def ConsumerCall.Opens : ConsumerCall → Prop
  | .beginCapture d n s | .gate (.beginListening d n s) => d = true ∧ n = true ∧ s = true
  | _ => False

/-- No capture is opened over a finished stream. -/
def NotOverFinished (c : SecureAudioConsumer) (call : ConsumerCall) : Prop :=
  call.Opens → c.gate = .codecReady → c.finished = false

instance (call : ConsumerCall) : Decidable call.Opens :=
  match call with
  | .beginCapture .. | .gate (.beginListening ..) => inferInstanceAs (Decidable (_ ∧ _))
  | .gate (.markCodecReady _) | .gate .beginDraining | .gate .finishDraining | .gate .fail => isFalse nofun
  | .consumeFrame .. | .finalize | .cancel | .close => isFalse nofun

instance (c : SecureAudioConsumer) (call : ConsumerCall) : Decidable (NotOverFinished c call) :=
  inferInstanceAs (Decidable (_ → _))

/-- What was counted up to now: a finished stream stands for a final frame since the last capture began,
and while the gate listens that frame is not yet finalized. -/
structure Counted (finals finalizations : Nat) (sinceBegun : Prop) (c : SecureAudioConsumer) : Prop where
  le : finalizations ≤ finals
  since : c.finished = true → sinceBegun
  lt : c.finished = true → c.gate = .listening → finalizations < finals

section
variable {aead : Aead} {session : SecureSession} {receiver : SecureAudioReceiver} {gate : AudioCaptureState}
variable {finals finalizations : Nat} {since : Prop} {c : SecureAudioConsumer}

theorem Counted.unfinished (h : finalizations ≤ finals) {c : SecureAudioConsumer} (hc : c.finished = false)
    (since : Prop) : Counted finals finalizations since c := by
  refine ⟨h, ?_, ?_⟩
  · intro hfinished
    rw [hc] at hfinished
    cases hfinished
  · intro hfinished
    rw [hc] at hfinished
    cases hfinished

/-- The counters after a call. -/
theorem Counted.step (aead : Aead) (h : Counted finals finalizations since c) {call : ConsumerCall}
    (hcall : NotOverFinished c call) :
    Counted (finals + (consumerStep aead c call).2.isFinal.toNat)
      (finalizations + (consumerStep aead c call).2.isFinalized.toNat)
      ((consumerStep aead c call).2.isFinal = true ∨ (since ∧ (consumerStep aead c call).2.isBegun = false))
      (consumerStep aead c call).1 := by
  have hle := h.le
  cases call with
  | beginCapture d n s =>
    simp only [consumerStep]
    obtain ⟨-, hg, hd, hn, hs, hbegin⟩ | hsame := c.beginCapture_cases d n s
    · rw [hbegin]
      exact Counted.unfinished (c := { c with gate := .listening }) hle (hcall ⟨hd, hn, hs⟩ hg) _
    · rw [hsame]
      exact ⟨hle, fun hf => Or.inr ⟨h.since hf, rfl⟩, h.lt⟩
  | consumeFrame frame callback =>
    have hcases := c.consumeFrame_cases aead (fun t _ _ => (t, callback)) () frame
    simp only [consumerStep]
    generalize c.consumeFrame aead (fun t _ _ => (t, callback)) () frame = r at hcases ⊢
    cases hcases with
    | closed _ => exact ⟨hle, fun hf => Or.inr ⟨h.since hf, rfl⟩, h.lt⟩
    | refused c' e _ _ _ hfinished _ => exact Counted.unfinished hle hfinished _
    | failed c' _ _ _ _ e _ _ _ _ _ _ _ hfinished _ => exact Counted.unfinished hle hfinished _
    | taken session receiver samples _ hopen hunfinished hlistening _ _ =>
      cases hcomplete : receiver.complete with
      | false => exact Counted.unfinished hle rfl _
      | true => exact ⟨by simp only [ConsumerOut.isFinal, ConsumerOut.isFinalized, Bool.toNat_true, Bool.toNat_false]; omega,
          fun _ => Or.inl rfl,
          fun _ _ => by simp only [ConsumerOut.isFinal, ConsumerOut.isFinalized, Bool.toNat_true, Bool.toNat_false]; omega⟩
  | finalize =>
    simp only [consumerStep]
    obtain ⟨summary, hdrain, hfinal⟩ | ⟨c', e, -, hclosed, hclose, hsame, hfail⟩ := c.finalize_cases
    · rw [hfinal]
      have hlt := h.lt hdrain.finished hdrain.listening
      refine ⟨?_, fun hf => Or.inr ⟨h.since hf, rfl⟩, fun _ hlistening => by cases hlistening⟩
      simp only [ConsumerOut.isFinal, ConsumerOut.isFinalized, Bool.toNat_true, Bool.toNat_false]
      omega
    · rw [hfail]
      cases hc : c.closed with
      | false => exact Counted.unfinished hle (hclose hc).2 _
      | true =>
        rw [hsame hc]
        exact ⟨hle, fun hf => Or.inr ⟨h.since hf, rfl⟩, h.lt⟩
  | cancel =>
    simp only [consumerStep, SecureAudioConsumer.cancel_eq]
    split
    · exact ⟨hle, fun hf => Or.inr ⟨h.since hf, rfl⟩, h.lt⟩
    · exact Counted.unfinished hle rfl _
  | close =>
    simp only [consumerStep]
    cases hc : c.closed with
    | false =>
      rw [SecureAudioConsumer.close_of_open hc]
      exact Counted.unfinished hle rfl _
    | true =>
      rw [SecureAudioConsumer.close_of_closed hc]
      exact ⟨hle, fun hf => Or.inr ⟨h.since hf, rfl⟩, h.lt⟩
  | gate call =>
    simp only [consumerStep]
    refine ⟨hle, fun hf => Or.inr ⟨h.since hf, rfl⟩, ?_⟩
    intro hfinished hlistening
    obtain hg | ⟨hg, rfl⟩ := GateCall.apply_listening hlistening
    · exact h.lt hfinished hg
    · have hunfinished := hcall ⟨rfl, rfl, rfl⟩ hg
      rw [hfinished] at hunfinished
      cases hunfinished

/-- A final frame was consumed, and no capture began since. -/
def FinalSinceBegun (m : Machine SecureAudioConsumer ConsumerCall ConsumerOut) (pre : List ConsumerCall) : Prop :=
  Machine.Since (fun p call => (m.out p call).isFinal = true) (fun p call => (m.out p call).isBegun = false) pre

theorem run_counted_consumer {calls : List ConsumerCall}
    (h : (consumerMachine aead session receiver gate).Along NotOverFinished calls) :
    Counted (((consumerMachine aead session receiver gate).outs calls).countP ConsumerOut.isFinal)
      (((consumerMachine aead session receiver gate).outs calls).countP ConsumerOut.isFinalized)
      (FinalSinceBegun (consumerMachine aead session receiver gate) calls)
      ((consumerMachine aead session receiver gate).run calls) := by
  induction calls using List.reverseRecOn with
  | nil => exact Counted.unfinished (Nat.le_refl _) rfl _
  | append_singleton pre call ih =>
    obtain ⟨hpre, hcall⟩ := h.of_concat
    obtain ⟨hle, hsince, hlt⟩ := (ih hpre).step aead hcall
    have hcount (p : ConsumerOut → Bool) :
        ((consumerMachine aead session receiver gate).outs (pre ++ [call])).countP p =
          ((consumerMachine aead session receiver gate).outs pre).countP p +
            (p ((consumerMachine aead session receiver gate).out pre call)).toNat := by
      rw [Machine.outs_concat, List.countP_append, List.countP_singleton]
      cases p ((consumerMachine aead session receiver gate).out pre call) <;> rfl
    rw [hcount, hcount, Machine.run_concat]
    refine ⟨hle, ?_, hlt⟩
    intro hfinished
    obtain hfinal | ⟨hkept, hbegun⟩ := hsince hfinished
    · exact Machine.Since.now hfinal
    · exact hkept.keep hbegun

/-- Finalizations never outnumber the final frames consumed, and each follows a final frame of the capture
that began last, in every run in which no capture is opened over a finished stream. -/
theorem one_final_one_finalization {calls : List ConsumerCall}
    (h : (consumerMachine aead session receiver gate).Along NotOverFinished calls) :
    (∀ pre post, calls = pre ++ post →
      ((consumerMachine aead session receiver gate).outs pre).countP ConsumerOut.isFinalized ≤
        ((consumerMachine aead session receiver gate).outs pre).countP ConsumerOut.isFinal) ∧
    ∀ pre call post, calls = pre ++ call :: post →
      ((consumerMachine aead session receiver gate).out pre call).isFinalized = true →
      FinalSinceBegun (consumerMachine aead session receiver gate) pre := by
  refine ⟨?_, ?_⟩
  · rintro pre post rfl
    exact (run_counted_consumer h.of_append).le
  · rintro pre call post rfl hfinalized
    have hcounted := run_counted_consumer h.of_append
    cases call with
    | finalize =>
      obtain ⟨summary, hdrain, -⟩ | ⟨c', e, -, -, -, -, hfail⟩ :=
        ((consumerMachine aead session receiver gate).run pre).finalize_cases
      · exact hcounted.since hdrain.finished
      · have hout : ((consumerMachine aead session receiver gate).out pre .finalize) = .finalized (.error e) := by
          show ConsumerOut.finalized _ = _
          rw [hfail]
        rw [hout] at hfinalized
        cases hfinalized
    | _ => cases hfinalized

end

/-- The other end of `vectorPython`. -/
def vectorServer : SecureSession :=
  (SecureSession.fromSharedSecret Kdf.checksum vectorId vectorSecret.val vectorHash.val .server).get (by decide)

/-- Chunk `i` of a stream that starts on `vectorPython`. -/
def vectorFrame (i : Nat) (samples : Bytes) (final : Bool) : Value :=
  .dict (streamFrame .checksum vectorPython (PyStr.ofString "mic-1") i ⟨samples, final⟩)

def vectorConsumer : Machine SecureAudioConsumer ConsumerCall ConsumerOut :=
  consumerMachine .checksum vectorServer .start .codecReady

/-- A capture with its final frame. -/
def oneCapture : List ConsumerCall :=
  [.beginCapture true true true, .consumeFrame (vectorFrame 0 [1, 2] true) (.ok ()), .finalize]

/-- After it, a capture that gets no frame at all. -/
def twoCaptures : List ConsumerCall := oneCapture ++ [.beginCapture true true true, .finalize]

/-- The finished stream of the first capture is finalized a second time in the second. -/
theorem one_final_two_finalizations :
    ¬ ((vectorConsumer.outs twoCaptures).countP ConsumerOut.isFinalized ≤
      (vectorConsumer.outs twoCaptures).countP ConsumerOut.isFinal) := by
  decide +kernel

theorem one_final_one_finalization_vector :
    (vectorConsumer.outs oneCapture).countP ConsumerOut.isFinalized ≤
      (vectorConsumer.outs oneCapture).countP ConsumerOut.isFinal := by
  have hfresh : vectorConsumer.Along NotOverFinished
      [.beginCapture true true true, .consumeFrame (vectorFrame 0 [1, 2] true) (.ok ()), .finalize] :=
    ((Machine.Along.nil.concat (by decide)).concat (by decide)).concat (by decide)
  exact (one_final_one_finalization hfresh).1 _ [] (List.append_nil _).symm

end Pipa.Secure
