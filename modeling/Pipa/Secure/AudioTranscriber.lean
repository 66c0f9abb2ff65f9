import Pipa.Core.Effects
import Pipa.Secure.AudioConsumer

/- From audio to a transcript (`secure_audio.py`): `SecureAudioTranscriber` gives the
   chunks of a consumer to a provider that is injected, and keeps the transcript it
   returns for the final one. What the provider returns or raises is an input; what it
   was given, and each call of `reset_provider`, is an output.

   The provider is reset when the transcriber is cancelled or closed. A consumer that
   closes itself under the transcriber does not reset it. -/
namespace Pipa.Secure
open Pipa.Lib Pipa.Core

/-! ## The source -/

/-- What a chunk is given to: the transcript so far, and what the provider was given. -/
structure Listener where
  transcript : Option PyStr
  given : Option (Bytes × Bool)

/-- `_consume_chunk`, with the provider's answer on this chunk. -/
def consumeChunk (hasProvider : Bool) (answer : Except Raised Value) (t : Listener) (samples : Bytes) (final : Bool) :
    Listener × Except Raised Unit :=
  if t.transcript.isSome then (t, .error (.audioFrameError .moreThanOne))
  else if !hasProvider then (t, .error (.audioFrameError .unavailable))
  else
    let t := { t with given := some (samples, final) }
    match answer with
    | .error raised => (t, .error raised)
    | .ok .null => (t, .ok ())
    | .ok result =>
      if !final then (t, .error (.audioFrameError .partialTranscript))
      else match result with
        | .str text =>
          match validateBoundedText text 4000 with
          | .error _ => (t, .error (.audioFrameError .invalidTranscript))
          | .ok text => ({ t with transcript := some text.strip }, .ok ())
        | _ => (t, .error (.audioFrameError .invalidTranscript))

structure SecureAudioTranscriber where
  consumer : SecureAudioConsumer
  storedTranscript : Option PyStr
  hasProvider : Bool
  hasReset : Bool
  providerClosed : Bool
  finalized : Bool

/-- What a call did to the provider. -/
structure Provided where
  given : Option (Bytes × Bool)
  resets : Nat

namespace SecureAudioTranscriber

/-- A new transcriber, with a `reset_provider` or without. -/
def start (consumer : SecureAudioConsumer) (hasReset : Bool) : SecureAudioTranscriber :=
  ⟨consumer, none, true, hasReset, false, false⟩

/-- `transcript`. -/
def transcript (t : SecureAudioTranscriber) : Option PyStr := if t.finalized then t.storedTranscript else none

/-- `closed`. -/
def closed (t : SecureAudioTranscriber) : Bool := t.providerClosed || t.consumer.closed

/-- `begin_capture`. -/
def beginCapture (t : SecureAudioTranscriber) (displayReady consented secureTransportReady : Bool) :
    SecureAudioTranscriber × Except CaptureError Unit :=
  let r := t.consumer.beginCapture displayReady consented secureTransportReady
  ({ t with consumer := r.1 }, r.2)

/-- `consume_frame`. -/
def consumeFrame (aead : Aead) (t : SecureAudioTranscriber) (frame : Value) (answer : Except Raised Value) :
    SecureAudioTranscriber × Provided × Except CaptureError Bool :=
  if t.closed then (t, ⟨none, 0⟩, .error .transcriberClosed)
  else
    let r := t.consumer.consumeFrame aead (consumeChunk t.hasProvider answer) ⟨t.storedTranscript, none⟩ frame
    ({ t with consumer := r.1, storedTranscript := r.2.1.transcript }, ⟨r.2.1.given, 0⟩, r.2.2)

/-- `close`. What `reset_provider` raises is swallowed. -/
def close (t : SecureAudioTranscriber) : SecureAudioTranscriber × Provided :=
  if t.providerClosed then (t, ⟨none, 0⟩)
  else
    ({ consumer := t.consumer.close
       storedTranscript := none
       hasProvider := false
       hasReset := false
       providerClosed := true
       finalized := false }, ⟨none, t.hasReset.toNat⟩)

/-- `finalize`. -/
def finalize (t : SecureAudioTranscriber) :
    SecureAudioTranscriber × Provided × Except CaptureError AudioStreamSummary :=
  match t.consumer.finalize with
  | (c, .error e) => ({ t with consumer := c }, ⟨none, 0⟩, .error e)
  | (c, .ok summary) =>
    let t := { t with consumer := c }
    if t.storedTranscript.isNone then
      let r := t.close
      (r.1, r.2, .error .noTranscript)
    else ({ t with finalized := true }, ⟨none, 0⟩, .ok summary)

/-- `cancel`. The reset may fail, which closes the transcriber and resets the provider once more. -/
def cancel (t : SecureAudioTranscriber) (resets : Bool) : SecureAudioTranscriber × Provided × Except CaptureError Unit :=
  if t.closed then (t, ⟨none, 0⟩, .ok ())
  else
    let t := { t with consumer := t.consumer.cancel }
    if t.hasReset && !resets then
      let r := t.close
      (r.1, ⟨none, r.2.resets + 1⟩, .error .resetFailed)
    else ({ t with storedTranscript := none, finalized := false }, ⟨none, t.hasReset.toNat⟩, .ok ())

end SecureAudioTranscriber

/-! ## Runs -/

/-- A call of the transcriber, with what the provider and its reset do, or of the gate. -/
inductive TranscriberCall where
  | beginCapture (displayReady consented secureTransportReady : Bool)
  | consumeFrame (frame : Value) (answer : Except Raised Value)
  | finalize
  | cancel (resets : Bool)
  | close
  | gate (call : GateCall)

def transcriberStep (aead : Aead) (t : SecureAudioTranscriber) : TranscriberCall → SecureAudioTranscriber × Provided
  | .beginCapture displayReady consented secureTransportReady =>
    ((t.beginCapture displayReady consented secureTransportReady).1, ⟨none, 0⟩)
  | .consumeFrame frame answer =>
    let r := t.consumeFrame aead frame answer
    (r.1, r.2.1)
  | .finalize =>
    let r := t.finalize
    (r.1, r.2.1)
  | .cancel resets =>
    let r := t.cancel resets
    (r.1, r.2.1)
  | .close => t.close
  | .gate call => ({ t with consumer := { t.consumer with gate := call.apply t.consumer.gate } }, ⟨none, 0⟩)

/-- A new transcriber of a new consumer, over any receiver and gate. -/
def transcriberMachine (aead : Aead) (session : SecureSession) (receiver : SecureAudioReceiver)
    (gate : AudioCaptureState) (hasReset : Bool) : Machine SecureAudioTranscriber TranscriberCall Provided where
  init := .start (.start session receiver gate) hasReset
  step := transcriberStep aead

/-! ## What a call does to the provider -/

/-- An answer that the transcriber accepts for a chunk. -/
def Acceptable (final : Bool) : Except Raised Value → Prop
  | .ok .null => True
  | .ok (.str text) => final = true ∧ validateBoundedText text 4000 = .ok text
  | _ => False

/-- The provider is given the chunk, and its answer decides. -/
theorem consumeChunk_given (answer : Except Raised Value) (samples : Bytes) (final : Bool) :
    (consumeChunk true answer ⟨none, none⟩ samples final).1.given = some (samples, final) ∧
      ((consumeChunk true answer ⟨none, none⟩ samples final).2 = .ok () ↔ Acceptable final answer) := by
  unfold consumeChunk
  simp only [Option.isSome_none, Bool.not_true, Bool.false_eq_true, if_false]
  cases answer with
  | error raised => exact ⟨rfl, by simp [Acceptable]⟩
  | ok result =>
    cases result with
    | null => exact ⟨rfl, by simp [Acceptable]⟩
    | str text =>
      cases final with
      | false => exact ⟨rfl, by simp [Acceptable]⟩
      | true =>
        cases hbounded : validateBoundedText text 4000 with
        | error e => exact ⟨by simp [hbounded], by simp [Acceptable, hbounded]⟩
        | ok bounded =>
          obtain rfl := PipaCore.validateBoundedText_eq hbounded
          exact ⟨by simp [hbounded], by simp [Acceptable, hbounded]⟩
    | _ => cases final <;> exact ⟨rfl, by simp [Acceptable]⟩

/-- A refused answer leaves no transcript, and one is kept for a final chunk only. -/
theorem consumeChunk_transcript {answer : Except Raised Value} {samples : Bytes} {final : Bool} {t' : Listener}
    {result : Except Raised Unit} (h : consumeChunk true answer ⟨none, none⟩ samples final = (t', result)) :
    (result ≠ .ok () → t'.transcript = none) ∧ (t'.transcript.isSome = true → final = true) := by
  have hacceptable := (consumeChunk_given answer samples final).2
  rw [h] at hacceptable
  unfold consumeChunk at h
  simp only [Option.isSome_none, Bool.not_true, Bool.false_eq_true, if_false] at h
  split at h
  · obtain ⟨rfl, rfl⟩ := Prod.mk.inj h
    exact ⟨fun _ => rfl, nofun⟩
  · obtain ⟨rfl, rfl⟩ := Prod.mk.inj h
    exact ⟨fun _ => rfl, nofun⟩
  split at h
  · obtain ⟨rfl, rfl⟩ := Prod.mk.inj h
    exact ⟨fun _ => rfl, nofun⟩
  rename_i hfinal
  split at h
  · split at h
    · obtain ⟨rfl, rfl⟩ := Prod.mk.inj h
      exact ⟨fun _ => rfl, nofun⟩
    · obtain ⟨rfl, rfl⟩ := Prod.mk.inj h
      exact ⟨fun hne => absurd rfl hne, fun _ => by simpa using hfinal⟩
  · obtain ⟨rfl, rfl⟩ := Prod.mk.inj h
    exact ⟨fun _ => rfl, nofun⟩

/-! ## Audio that is held -/

section
variable (m : Machine SecureAudioTranscriber TranscriberCall Provided)

/-- The provider was given audio. -/
def Given (pre : List TranscriberCall) (call : TranscriberCall) : Prop := (m.out pre call).given.isSome = true

/-- `reset_provider` was called. -/
def Resets (pre : List TranscriberCall) (call : TranscriberCall) : Prop := 0 < (m.out pre call).resets

instance (pre : List TranscriberCall) (call : TranscriberCall) : Decidable (Given m pre call) :=
  inferInstanceAs (Decidable (_ = true))

instance (pre : List TranscriberCall) (call : TranscriberCall) : Decidable (Resets m pre call) :=
  inferInstanceAs (Decidable (0 < _))

/-- The provider has received some audio. -/
def HasAudio (calls : List TranscriberCall) : Prop :=
  ∃ pre call post, calls = pre ++ call :: post ∧ Given m pre call

/-- `reset_provider` was called after the last audio. -/
def ResetSince : List TranscriberCall → Prop := Machine.Since (Resets m) (fun p call => ¬ Given m p call)

/-- Audio was given, and `reset_provider` was not called after it. -/
def HoldsAudio : List TranscriberCall → Prop := Machine.Since (Given m) (fun p call => ¬ Resets m p call)

/-- No audio or transcript outlives a closed transcriber. -/
def Forgotten (hasReset : Bool) (calls : List TranscriberCall) : Prop :=
  (m.run calls).closed = true → HasAudio m calls →
    (hasReset = true → ResetSince m calls) ∧ (m.run calls).transcript = none

end

/-- The consumer would give this frame to the provider. -/
structure Delivers (aead : Aead) (c : SecureAudioConsumer) (frame : Value) (final : Bool) : Prop where
  unfinished : c.finished = false
  listening : c.gate = .listening
  opened : ∃ session receiver samples, c.receiver.openFrame aead c.session frame = (session, receiver, .ok samples) ∧
    receiver.complete = final

/-- There is something to forget: a transcript that can be seen, or audio in a provider that can be reset. -/
def Exposed (m : Machine SecureAudioTranscriber TranscriberCall Provided) (pre : List TranscriberCall) : Prop :=
  (m.run pre).transcript ≠ none ∨ ((m.run pre).hasReset = true ∧ HoldsAudio m pre)

/-- The call does not fail inside the consumer of an open transcriber while there is something to forget. -/
def Kept (aead : Aead) (m : Machine SecureAudioTranscriber TranscriberCall Provided) (pre : List TranscriberCall) :
    TranscriberCall → Prop
  | .consumeFrame frame answer => (m.run pre).closed = false →
      (Exposed m pre → ∃ final, Delivers aead (m.run pre).consumer frame final) ∧
      (∀ final, Delivers aead (m.run pre).consumer frame final → (m.run pre).hasReset = true → Acceptable final answer)
  | .finalize => (m.run pre).closed = false → Exposed m pre → (m.run pre).consumer.Drainable
  | _ => True

/-- A call that opens a capture. -/
def TranscriberCall.Opens : TranscriberCall → Prop
  | .beginCapture d n s | .gate (.beginListening d n s) => d = true ∧ n = true ∧ s = true
  | _ => False

/-- What a call can do. -/
inductive Moves (aead : Aead) (t : SecureAudioTranscriber) : TranscriberCall → SecureAudioTranscriber × Provided → Prop
  /-- At most the gate moves. -/
  | still (call : TranscriberCall) (g : AudioCaptureState)
      (hg : g = .listening → t.consumer.gate = .listening ∨ (t.consumer.gate = .codecReady ∧ call.Opens))
      (h : t.closed = true ∨ ((∀ frame answer, call ≠ .consumeFrame frame answer) ∧ call ≠ .finalize)) :
      Moves aead t call ({ t with consumer := { t.consumer with gate := g } }, ⟨none, 0⟩)
  | refused (frame : Value) (answer : Except Raised Value) (c : SecureAudioConsumer) (h : t.closed = false)
      (hreason : t.consumer.finished = true ∨ t.consumer.gate ≠ .listening ∨
        (∃ e, (t.consumer.receiver.openFrame aead t.consumer.session frame).2.2 = .error e) ∨
        t.consumer.hasCallback = false)
      (hclosed : c.closed = true) (hgate : c.gate = .error) :
      Moves aead t (.consumeFrame frame answer) ({ t with consumer := c }, ⟨none, 0⟩)
  | failed (frame : Value) (answer : Except Raised Value) (c : SecureAudioConsumer) (session : SecureSession)
      (receiver : SecureAudioReceiver) (samples : Bytes) (l : Listener) (raised : Raised) (h : t.closed = false)
      (hunfinished : t.consumer.finished = false) (hlistening : t.consumer.gate = .listening)
      (hopen : t.consumer.receiver.openFrame aead t.consumer.session frame = (session, receiver, .ok samples))
      (hchunk : consumeChunk t.hasProvider answer ⟨t.storedTranscript, none⟩ samples receiver.complete =
        (l, .error raised))
      (hclosed : c.closed = true) (hgate : c.gate = .error) :
      Moves aead t (.consumeFrame frame answer)
        ({ t with consumer := c, storedTranscript := l.transcript }, ⟨l.given, 0⟩)
  | taken (frame : Value) (answer : Except Raised Value) (session : SecureSession)
      (receiver : SecureAudioReceiver) (samples : Bytes) (l : Listener) (h : t.closed = false)
      (hunfinished : t.consumer.finished = false) (hlistening : t.consumer.gate = .listening)
      (hopen : t.consumer.receiver.openFrame aead t.consumer.session frame = (session, receiver, .ok samples))
      (hchunk : consumeChunk t.hasProvider answer ⟨t.storedTranscript, none⟩ samples receiver.complete = (l, .ok ())) :
      Moves aead t (.consumeFrame frame answer)
        ({ t with
            consumer := { t.consumer with session := session, receiver := receiver, finished := receiver.complete }
            storedTranscript := l.transcript }, ⟨l.given, 0⟩)
  | ended (c : SecureAudioConsumer) (h : t.closed = false) (hnot : ¬ t.consumer.Drainable) (hclosed : c.closed = true)
      (hgate : c.gate = .error) : Moves aead t .finalize ({ t with consumer := c }, ⟨none, 0⟩)
  | summed (h : t.closed = false) (hdrain : t.consumer.Drainable) (hstored : t.storedTranscript.isSome = true) :
      Moves aead t .finalize
        ({ t with consumer := { t.consumer with gate := .codecReady }, finalized := true }, ⟨none, 0⟩)
  | cancelled (resets : Bool) (h : t.closed = false) :
      Moves aead t (.cancel resets)
        ({ t with consumer := t.consumer.cancel, storedTranscript := none, finalized := false },
          ⟨none, t.hasReset.toNat⟩)
  /-- The transcriber itself closes. -/
  | shut (call : TranscriberCall) (c : SecureAudioConsumer) (n : Nat) (h : t.providerClosed = false)
      (hcall : ∀ frame answer, call ≠ .consumeFrame frame answer)
      (hdrain : call = .finalize → t.closed = false → t.consumer.Drainable) (hclosed : c.closed = true)
      (hgate : c.gate = .listening → t.consumer.gate = .listening) (hn : t.hasReset = true → 0 < n) : Moves aead t call (⟨c, none, false, false, true, false⟩, ⟨none, n⟩)

theorem closed_false {t : SecureAudioTranscriber} (h : t.closed = false) :
    t.providerClosed = false ∧ t.consumer.closed = false := Bool.or_eq_false_iff.mp h

/-- Closing does not make the gate listen. -/
theorem close_listening {c : SecureAudioConsumer} (h : c.close.gate = .listening) : c.gate = .listening := by
  cases hc : c.closed with
  | true => rwa [SecureAudioConsumer.close_of_closed hc] at h
  | false =>
    rw [SecureAudioConsumer.close_of_open hc] at h
    cases h

theorem cancel_listening {c : SecureAudioConsumer} (h : c.cancel.gate = .listening) : c.gate = .listening := by
  rw [SecureAudioConsumer.cancel_eq] at h
  split at h
  · exact h
  · simp only at h
    split at h
    · cases h
    · exact h

theorem transcriberStep_moves (aead : Aead) {t : SecureAudioTranscriber}
    (hshut : t.providerClosed = true → t.consumer.closed = true) (call : TranscriberCall) :
    Moves aead t call (transcriberStep aead t call) := by
  cases call with
  | beginCapture d n s =>
    simp only [transcriberStep, SecureAudioTranscriber.beginCapture]
    obtain ⟨-, hg, hd, hn, hs, hbegin⟩ | hsame := t.consumer.beginCapture_cases d n s
    · rw [hbegin]
      exact .still _ .listening (fun _ => Or.inr ⟨hg, hd, hn, hs⟩) (Or.inr ⟨nofun, nofun⟩)
    · rw [hsame]
      exact .still _ t.consumer.gate Or.inl (Or.inr ⟨nofun, nofun⟩)
  | consumeFrame frame answer =>
    simp only [transcriberStep, SecureAudioTranscriber.consumeFrame]
    cases hclosed : t.closed with
    | true => exact .still _ t.consumer.gate Or.inl (Or.inl hclosed)
    | false =>
      have hcases := t.consumer.consumeFrame_cases aead (consumeChunk t.hasProvider answer)
        ⟨t.storedTranscript, none⟩ frame
      simp only [Bool.false_eq_true, if_false]
      generalize t.consumer.consumeFrame aead (consumeChunk t.hasProvider answer) ⟨t.storedTranscript, none⟩ frame = r
        at hcases ⊢
      cases hcases with
      | closed h =>
        rw [(closed_false hclosed).2] at h
        cases h
      | refused c e h hreason hclosed' hfinished hgate =>
        exact .refused frame answer c hclosed hreason hclosed' hgate
      | failed c session receiver samples l e raised h hunfinished hlistening hopen hcallback hclosed' hfinished hgate =>
        exact .failed frame answer c session receiver samples l raised hclosed hunfinished hlistening hopen hcallback
          hclosed' hgate
      | taken session receiver samples l h hunfinished hlistening hopen hcallback =>
        exact .taken frame answer session receiver samples l hclosed hunfinished hlistening hopen hcallback
  | finalize =>
    simp only [transcriberStep, SecureAudioTranscriber.finalize]
    obtain ⟨summary, hdrain, hfinal⟩ | ⟨c, e, hnot, hclosed, hclose, hsame, hfail⟩ := t.consumer.finalize_cases
    · have hopen : t.providerClosed = false := by
        cases hprovider : t.providerClosed with
        | false => rfl
        | true =>
          have hlive := hdrain.live
          rw [hshut hprovider] at hlive
          cases hlive
      rw [hfinal]
      simp only
      split
      · simp only [SecureAudioTranscriber.close, hopen, Bool.false_eq_true, if_false]
        refine .shut _ _ _ hopen nofun (fun _ _ => hdrain) (SecureAudioConsumer.close_closed _) ?_ ?_
        · intro hlistening
          cases close_listening hlistening
        · intro hreset
          rw [hreset]
          decide
      · rename_i hsome
        refine .summed (Bool.or_eq_false_iff.mpr ⟨hopen, hdrain.live⟩) hdrain ?_
        cases hstored : t.storedTranscript with
        | none =>
          rw [hstored] at hsome
          exact absurd rfl hsome
        | some text => rfl
    · rw [hfail]
      cases ht : t.closed with
      | false => exact .ended c ht hnot hclosed (hclose (closed_false ht).2).1
      | true =>
        have hconsumer : t.consumer.closed = true := (Bool.or_eq_true_iff.mp ht).elim hshut id
        rw [hsame hconsumer]
        exact .still _ t.consumer.gate Or.inl (Or.inl ht)
  | cancel resets =>
    simp only [transcriberStep, SecureAudioTranscriber.cancel]
    cases hclosed : t.closed with
    | true => exact .still _ t.consumer.gate Or.inl (Or.inl hclosed)
    | false =>
      simp only [Bool.false_eq_true, if_false]
      split
      · simp only [SecureAudioTranscriber.close, (closed_false hclosed).1, Bool.false_eq_true, if_false]
        exact .shut _ _ _ (closed_false hclosed).1 nofun nofun (SecureAudioConsumer.close_closed _)
          (fun hlistening => cancel_listening (close_listening hlistening)) (fun _ => Nat.succ_pos _)
      · exact .cancelled resets hclosed
  | close =>
    simp only [transcriberStep, SecureAudioTranscriber.close]
    split
    · rename_i hshut
      exact .still _ t.consumer.gate Or.inl (Or.inl (by rw [SecureAudioTranscriber.closed, hshut]; rfl))
    · rename_i hopen
      refine .shut _ _ _ (Bool.eq_false_iff.mpr hopen) nofun nofun (SecureAudioConsumer.close_closed _)
        close_listening ?_
      intro hreset
      rw [hreset]
      decide
  | gate call =>
    refine .still _ (call.apply t.consumer.gate) ?_ (Or.inr ⟨nofun, nofun⟩)
    intro hlistening
    refine (GateCall.apply_listening hlistening).imp_right ?_
    rintro ⟨hg, rfl⟩
    exact ⟨hg, rfl, rfl, rfl⟩

/-- How the parts of a transcriber hang together. -/
structure Wired (hasReset : Bool) (t : SecureAudioTranscriber) : Prop where
  live : t.providerClosed = false → t.hasReset = hasReset ∧ t.hasProvider = true
  shut : t.providerClosed = true → t.consumer.closed = true ∧ t.storedTranscript = none
  callback : t.consumer.closed = false → t.consumer.hasCallback = true
  waiting : t.consumer.closed = false → t.consumer.finished = false → t.storedTranscript = none

theorem Wired.start (c : SecureAudioConsumer) (hasReset : Bool) (h : c.closed = false → c.hasCallback = true) :
    Wired hasReset (.start c hasReset) :=
  ⟨fun _ => ⟨rfl, rfl⟩, nofun, h, fun _ _ => rfl⟩

/-- A chunk comes to a provider that is there and has returned nothing. -/
theorem Wired.chunk {hasReset : Bool} {t : SecureAudioTranscriber} (h : Wired hasReset t) (hopen : t.closed = false)
    (hunfinished : t.consumer.finished = false) : t.hasProvider = true ∧ t.storedTranscript = none := by
  obtain ⟨hprovider, hlive⟩ := closed_false hopen
  exact ⟨(h.live hprovider).2, h.waiting hlive hunfinished⟩

theorem Moves.wired {aead : Aead} {hasReset : Bool} {t : SecureAudioTranscriber} (h : Wired hasReset t)
    {call : TranscriberCall} {r : SecureAudioTranscriber × Provided} (hmoves : Moves aead t call r) :
    Wired hasReset r.1 := by
  cases hmoves with
  | still _ g _ _ => exact ⟨h.live, h.shut, h.callback, h.waiting⟩
  | refused frame answer c hopen _ hclosed _ =>
    refine ⟨h.live, fun hshut => ⟨hclosed, (h.shut hshut).2⟩, ?_, ?_⟩
    · exact fun hlive => absurd (hclosed.symm.trans hlive) (by decide)
    · exact fun hlive => absurd (hclosed.symm.trans hlive) (by decide)
  | failed frame answer c session receiver samples l raised hopen _ _ _ _ hclosed _ =>
    have hprovider := (closed_false hopen).1
    refine ⟨h.live, fun hshut => absurd (hprovider.symm.trans hshut) (by decide), ?_, ?_⟩
    · exact fun hlive => absurd (hclosed.symm.trans hlive) (by decide)
    · exact fun hlive => absurd (hclosed.symm.trans hlive) (by decide)
  | taken frame answer session receiver samples l hopen hunfinished _ _ hchunk =>
    have hprovider := (closed_false hopen).1
    obtain ⟨hhas, hnone⟩ := h.chunk hopen hunfinished
    rw [hhas, hnone] at hchunk
    refine ⟨h.live, fun hshut => absurd (hprovider.symm.trans hshut) (by decide), h.callback, ?_⟩
    intro _ hunfinished'
    cases hl : l.transcript with
    | none => rfl
    | some text =>
      have hcomplete := (consumeChunk_transcript hchunk).2 (by rw [hl]; rfl)
      exact absurd (hcomplete.symm.trans hunfinished') (by decide)
  | ended c hopen _ hclosed _ =>
    have hprovider := (closed_false hopen).1
    refine ⟨h.live, fun hshut => absurd (hprovider.symm.trans hshut) (by decide), ?_, ?_⟩
    · exact fun hlive => absurd (hclosed.symm.trans hlive) (by decide)
    · exact fun hlive => absurd (hclosed.symm.trans hlive) (by decide)
  | summed hopen _ _ => exact ⟨h.live, h.shut, h.callback, h.waiting⟩
  | cancelled resets hopen =>
    obtain ⟨hprovider, hlive⟩ := closed_false hopen
    have hcallback : t.consumer.cancel.hasCallback = t.consumer.hasCallback := by
      rw [SecureAudioConsumer.cancel_eq, hlive]
      rfl
    refine ⟨h.live, fun hshut => absurd (hprovider.symm.trans hshut) (by decide), ?_, fun _ _ => rfl⟩
    exact fun _ => hcallback.trans (h.callback hlive)
  | shut _ c n hprovider _ _ hclosed _ _ =>
    refine ⟨nofun, fun _ => ⟨hclosed, rfl⟩, ?_, fun _ _ => rfl⟩
    exact fun hlive => absurd (hclosed.symm.trans hlive) (by decide)

/-- A step keeps the parts together. -/
theorem Wired.step {aead : Aead} {hasReset : Bool} {t : SecureAudioTranscriber} (h : Wired hasReset t)
    (call : TranscriberCall) : Wired hasReset (transcriberStep aead t call).1 :=
  (transcriberStep_moves aead (fun hshut => (h.shut hshut).1) call).wired h

/-- The gate starts to listen only when a capture is opened. -/
theorem Moves.listening {aead : Aead} {t : SecureAudioTranscriber} {call : TranscriberCall}
    {r : SecureAudioTranscriber × Provided} (hmoves : Moves aead t call r) (h : r.1.consumer.gate = .listening) :
    t.consumer.gate = .listening ∨ (t.consumer.gate = .codecReady ∧ call.Opens) := by
  cases hmoves with
  | still _ g hg _ => exact hg h
  | refused _ _ c _ _ _ hgate | failed _ _ c _ _ _ _ _ _ _ _ _ _ _ hgate | ended c _ _ _ hgate =>
    cases hgate.symm.trans h
  | taken _ _ _ _ _ _ _ _ hlistening => exact Or.inl hlistening
  | summed => cases h
  | cancelled => exact Or.inl (cancel_listening h)
  | shut _ c _ _ _ _ _ hgate _ => exact Or.inl (hgate h)

theorem Moves.closed {aead : Aead} {t : SecureAudioTranscriber} {call : TranscriberCall}
    {r : SecureAudioTranscriber × Provided} (hmoves : Moves aead t call r) (h : t.closed = true) :
    r.1.closed = true := by
  cases hmoves with
  | still => exact h
  | shut => rfl
  | refused _ _ _ hopen | failed _ _ _ _ _ _ _ _ hopen | taken _ _ _ _ _ _ hopen | ended _ hopen | summed hopen
  | cancelled _ hopen =>
    cases hopen.symm.trans h

/-- An open consumer holds a finished stream from before, or from a final chunk whose answer was accepted. -/
theorem Moves.finished {aead : Aead} {t : SecureAudioTranscriber} {call : TranscriberCall}
    {r : SecureAudioTranscriber × Provided} (hmoves : Moves aead t call r) (hlive : r.1.consumer.closed = false)
    (h : r.1.consumer.finished = true) :
    (t.consumer.closed = false ∧ t.consumer.finished = true ∧ r.1.storedTranscript = t.storedTranscript) ∨
    ∃ frame answer session receiver samples l, call = .consumeFrame frame answer ∧ t.closed = false ∧
      t.consumer.finished = false ∧ t.consumer.gate = .listening ∧
      t.consumer.receiver.openFrame aead t.consumer.session frame = (session, receiver, .ok samples) ∧
      receiver.complete = true ∧
      consumeChunk t.hasProvider answer ⟨t.storedTranscript, none⟩ samples true = (l, .ok ()) ∧
      r.1.storedTranscript = l.transcript := by
  cases hmoves with
  | still => exact Or.inl ⟨hlive, h, rfl⟩
  | refused _ _ _ _ _ hclosed | failed _ _ _ _ _ _ _ _ _ _ _ _ _ hclosed | ended _ _ _ hclosed
  | shut _ _ _ _ _ _ hclosed =>
    cases hclosed.symm.trans hlive
  | taken frame answer session receiver samples l hopen hunfinished hlistening hframe hchunk =>
    have hcomplete : receiver.complete = true := h
    rw [hcomplete] at hchunk
    exact Or.inr ⟨frame, answer, session, receiver, samples, l, rfl, hopen, hunfinished, hlistening, hframe, hcomplete,
      hchunk, rfl⟩
  | summed hopen hdrain _ => exact Or.inl ⟨hdrain.live, hdrain.finished, rfl⟩
  | cancelled _ hopen =>
    simp only [SecureAudioConsumer.cancel_eq, (closed_false hopen).2] at h
    cases h

/-- A frame is refused for good; what it returns is whether the stream is finished. -/
theorem consumeFrame_result (aead : Aead) (t : SecureAudioTranscriber) (frame : Value) (answer : Except Raised Value) :
    (∃ e, (t.consumeFrame aead frame answer).2.2 = .error e ∧ (t.consumeFrame aead frame answer).1.closed = true) ∨
      (t.consumeFrame aead frame answer).2.2 = .ok (t.consumeFrame aead frame answer).1.consumer.finished := by
  unfold SecureAudioTranscriber.consumeFrame
  cases hclosed : t.closed with
  | true => exact Or.inl ⟨_, rfl, hclosed⟩
  | false =>
    have hcases := t.consumer.consumeFrame_cases aead (consumeChunk t.hasProvider answer) ⟨t.storedTranscript, none⟩
      frame
    simp only [Bool.false_eq_true, if_false]
    generalize t.consumer.consumeFrame aead (consumeChunk t.hasProvider answer) ⟨t.storedTranscript, none⟩ frame = r
      at hcases ⊢
    cases hcases with
    | closed h => cases (closed_false hclosed).2.symm.trans h
    | refused c e _ _ hshut _ _ => exact Or.inl ⟨e, rfl, Bool.or_eq_true_iff.mpr (Or.inr hshut)⟩
    | failed c _ _ _ _ e _ _ _ _ _ _ hshut _ _ => exact Or.inl ⟨e, rfl, Bool.or_eq_true_iff.mpr (Or.inr hshut)⟩
    | taken => exact Or.inr rfl

/-! ## Histories -/

section
variable {aead : Aead} {session : SecureSession} {receiver : SecureAudioReceiver} {gate : AudioCaptureState}
variable {hasReset : Bool} {pre : List TranscriberCall} {call : TranscriberCall}

section
variable {m : Machine SecureAudioTranscriber TranscriberCall Provided}

theorem HasAudio.concat (h : HasAudio m pre) (call : TranscriberCall) : HasAudio m (pre ++ [call]) := by
  obtain ⟨p, a, q, rfl, ha⟩ := h
  exact ⟨p, a, q ++ [call], by simp, ha⟩

/-- Audio that was given is held, or a reset came after it. -/
theorem HasAudio.held_or_reset (h : HasAudio m pre) : HoldsAudio m pre ∨ ResetSince m pre := by
  induction pre using List.reverseRecOn with
  | nil =>
    obtain ⟨p, a, q, hpre, -⟩ := h
    simp at hpre
  | append_singleton pre call ih =>
    by_cases hgiven : Given m pre call
    · exact Or.inl (Machine.Since.now hgiven)
    by_cases hresets : Resets m pre call
    · exact Or.inr (Machine.Since.now hresets)
    have hbefore : HasAudio m pre := by
      obtain ⟨p, a, q, hpre, ha⟩ := h
      obtain ⟨later, rfl, -⟩ | ⟨mid, hmid, rfl⟩ := append_eq_split hpre
      · exact ⟨p, a, later, rfl, ha⟩
      · cases mid with
        | nil =>
          obtain ⟨rfl, -⟩ := List.cons.inj hmid
          rw [List.append_nil] at ha
          exact absurd ha hgiven
        | cons c mid => simp at hmid
    exact (ih hbefore).imp (fun hheld => hheld.keep hresets) (fun hreset => hreset.keep hgiven)

theorem HoldsAudio.hasAudio (h : HoldsAudio m pre) : HasAudio m pre := by
  obtain ⟨p, a, q, hpre, ha, -⟩ := h
  exact ⟨p, a, q, hpre, ha⟩

/-- A call that gives nothing and does not reset changes nothing. -/
theorem holdsAudio_idle (hgiven : ¬ Given m pre call) (hresets : ¬ Resets m pre call) :
    HoldsAudio m (pre ++ [call]) ↔ HoldsAudio m pre := by
  constructor
  · intro h
    obtain hlast | ⟨hbefore, -⟩ := h.last
    · exact absurd hlast hgiven
    · exact hbefore
  · exact fun h => h.keep hresets

theorem not_holdsAudio_reset (hgiven : ¬ Given m pre call) (hresets : Resets m pre call) :
    ¬ HoldsAudio m (pre ++ [call]) := by
  intro h
  obtain hlast | ⟨-, hkept⟩ := h.last
  · exact hgiven hlast
  · exact hkept hresets

/-- A reset came after all audio only if none is held. -/
theorem ResetSince.not_held (hboth : ∀ p a, ¬ (Given m p a ∧ Resets m p a)) (h : ResetSince m pre) :
    ¬ HoldsAudio m pre := by
  induction pre using List.reverseRecOn with
  | nil => exact Machine.Since.not_nil
  | append_singleton pre call ih =>
    intro hheld
    obtain hresets | ⟨hreset, hgiven⟩ := h.last
    · obtain hlast | ⟨-, hkept⟩ := hheld.last
      · exact hboth pre call ⟨hlast, hresets⟩
      · exact hkept hresets
    · obtain hlast | ⟨hbefore, -⟩ := hheld.last
      · exact hgiven hlast
      · exact ih hreset hbefore

end

/-- What the history says of a transcriber. -/
structure Tidy (m : Machine SecureAudioTranscriber TranscriberCall Provided) (hasReset : Bool)
    (pre : List TranscriberCall) (t : SecureAudioTranscriber) : Prop where
  wired : Wired hasReset t
  forgot : t.providerClosed = true → hasReset = true → ¬ HoldsAudio m pre
  stored : t.storedTranscript.isSome = true → HasAudio m pre

/-- Nothing was left behind by a consumer that closed itself. -/
def Clean (m : Machine SecureAudioTranscriber TranscriberCall Provided) (pre : List TranscriberCall)
    (t : SecureAudioTranscriber) : Prop :=
  t.providerClosed = false → t.consumer.closed = true →
    t.transcript = none ∧ (t.hasReset = true → ¬ HoldsAudio m pre)

/-- A step of the run is one of the moves. -/
theorem run_moves (h : Wired hasReset ((transcriberMachine aead session receiver gate hasReset).run pre))
    (call : TranscriberCall) :
    ∃ r, Moves aead ((transcriberMachine aead session receiver gate hasReset).run pre) call r ∧
      (transcriberMachine aead session receiver gate hasReset).run (pre ++ [call]) = r.1 ∧
      (Given (transcriberMachine aead session receiver gate hasReset) pre call ↔ r.2.given.isSome = true) ∧
      (Resets (transcriberMachine aead session receiver gate hasReset) pre call ↔ 0 < r.2.resets) :=
  ⟨_, transcriberStep_moves aead (fun hshut => (h.shut hshut).1) call, Machine.run_concat _ pre call, Iff.rfl, Iff.rfl⟩

theorem Tidy.step (h : Tidy (transcriberMachine aead session receiver gate hasReset) hasReset pre
      ((transcriberMachine aead session receiver gate hasReset).run pre)) (call : TranscriberCall) :
    Tidy (transcriberMachine aead session receiver gate hasReset) hasReset (pre ++ [call])
      ((transcriberMachine aead session receiver gate hasReset).run (pre ++ [call])) := by
  obtain ⟨r, hmoves, hrun, hgiven, hresets⟩ := run_moves h.wired call
  rw [hrun]
  refine ⟨hmoves.wired h.wired, ?_, ?_⟩
  · generalize transcriberMachine aead session receiver gate hasReset = m at h hmoves hgiven hresets ⊢
    cases hmoves with
    | still _ g _ _ =>
      rw [holdsAudio_idle (fun hg => Bool.false_ne_true (hgiven.mp hg)) (fun hr => Nat.lt_irrefl 0 (hresets.mp hr))]
      exact h.forgot
    | shut _ c n hprovider _ _ _ _ hn =>
      intro _ hreset
      refine not_holdsAudio_reset (fun hg => Bool.false_ne_true (hgiven.mp hg)) (hresets.mpr ?_)
      exact hn ((h.wired.live hprovider).1.trans hreset)
    | refused frame answer c hopen | failed frame answer c _ _ _ _ _ hopen | taken frame answer _ _ _ _ hopen
    | ended c hopen | summed hopen | cancelled resets hopen =>
      exact fun hshut => absurd ((closed_false hopen).1.symm.trans hshut) (by decide)
  · intro hs
    generalize transcriberMachine aead session receiver gate hasReset = m at h hmoves hgiven hresets ⊢
    cases hmoves with
    | still | refused | ended | summed => exact (h.stored hs).concat _
    | cancelled | shut => cases hs
    | failed frame answer c session' receiver' samples l raised hopen hunfinished _ _ hchunk _ _ =>
      obtain ⟨hhas, hnone⟩ := h.wired.chunk hopen hunfinished
      rw [hhas, hnone] at hchunk
      rw [(consumeChunk_transcript hchunk).1 nofun] at hs
      cases hs
    | taken frame answer session' receiver' samples l hopen hunfinished _ _ hchunk =>
      obtain ⟨hhas, hnone⟩ := h.wired.chunk hopen hunfinished
      rw [hhas, hnone] at hchunk
      have hsome := (consumeChunk_given answer samples receiver'.complete).1
      rw [hchunk] at hsome
      refine ⟨pre, _, [], rfl, hgiven.mpr ?_⟩
      show l.given.isSome = true
      rw [hsome]
      rfl

theorem run_tidy (calls : List TranscriberCall) : Tidy (transcriberMachine aead session receiver gate hasReset) hasReset
    calls ((transcriberMachine aead session receiver gate hasReset).run calls) := by
  induction calls using List.reverseRecOn with
  | nil => exact ⟨Wired.start _ _ (fun _ => rfl), nofun, nofun⟩
  | append_singleton pre call ih => exact ih.step call

/-- Whether a call leaves something behind is told by its input. -/
theorem Tidy.clean_iff (h : Tidy (transcriberMachine aead session receiver gate hasReset) hasReset pre
      ((transcriberMachine aead session receiver gate hasReset).run pre))
    (hclean : Clean (transcriberMachine aead session receiver gate hasReset) pre
      ((transcriberMachine aead session receiver gate hasReset).run pre)) (call : TranscriberCall) :
    Clean (transcriberMachine aead session receiver gate hasReset) (pre ++ [call])
        ((transcriberMachine aead session receiver gate hasReset).run (pre ++ [call])) ↔
      Kept aead (transcriberMachine aead session receiver gate hasReset) pre call := by
  obtain ⟨r, hmoves, hrun, hgiven, hresets⟩ := run_moves h.wired call
  rw [hrun]
  generalize transcriberMachine aead session receiver gate hasReset = m at h hclean hmoves hgiven hresets ⊢
  have hidle (hg : r.2.given = none) (hr : r.2.resets = 0) : HoldsAudio m (pre ++ [call]) ↔ HoldsAudio m pre := by
    refine holdsAudio_idle ?_ ?_
    · rw [hgiven, hg]
      exact Bool.false_ne_true
    · rw [hresets, hr]
      exact Nat.lt_irrefl 0
  -- the consumer closes itself and nothing else happens
  have hleft {c : SecureAudioConsumer} (hopen : (m.run pre).closed = false) (hclosed : c.closed = true)
      (hsame : HoldsAudio m (pre ++ [call]) ↔ HoldsAudio m pre) :
      Clean m (pre ++ [call]) { m.run pre with consumer := c } ↔ ¬ Exposed m pre := by
    unfold Clean Exposed
    rw [hsame, not_or, not_not, not_and]
    exact ⟨fun hc => hc (closed_false hopen).1 hclosed, fun hnot _ _ => hnot⟩
  cases hmoves with
  | still _ g _ hreason =>
    have hkept : Kept aead m pre call := by
      obtain hclosed | ⟨hconsume, hfinalize⟩ := hreason
      · cases call with
        | consumeFrame frame answer => exact fun hopen => absurd (hclosed.symm.trans hopen) (by decide)
        | finalize => exact fun hopen => absurd (hclosed.symm.trans hopen) (by decide)
        | _ => trivial
      · cases call with
        | consumeFrame frame answer => exact absurd rfl (hconsume frame answer)
        | finalize => exact absurd rfl hfinalize
        | _ => trivial
    refine iff_of_true ?_ hkept
    intro hprovider hclosed
    obtain ⟨hnone, hheld⟩ := hclean hprovider hclosed
    refine ⟨hnone, ?_⟩
    rw [hidle rfl rfl]
    exact hheld
  | refused frame answer c hopen hreason hclosed _ =>
    have hnot : ∀ final, ¬ Delivers aead (m.run pre).consumer frame final := by
      rintro final ⟨hunfinished, hlistening, session', receiver', samples, hframe, -⟩
      obtain hfinished | hgate | ⟨e, he⟩ | hcallback := hreason
      · exact absurd (hunfinished.symm.trans hfinished) (by decide)
      · exact hgate hlistening
      · rw [hframe] at he
        cases he
      · exact absurd (hcallback.symm.trans (h.wired.callback (closed_false hopen).2)) (by decide)
    rw [hleft hopen hclosed (hidle rfl rfl)]
    constructor
    · exact fun hexposed _ => ⟨fun he => absurd he hexposed, fun final hd => absurd hd (hnot final)⟩
    · intro hkept hexposed
      obtain ⟨final, hd⟩ := (hkept hopen).1 hexposed
      exact hnot final hd
  | failed frame answer c session' receiver' samples l raised hopen hunfinished hlistening hframe hchunk hclosed _ =>
    obtain ⟨hprovider, hlive⟩ := closed_false hopen
    obtain ⟨hhas, hnone'⟩ := h.wired.chunk hopen hunfinished
    rw [hhas, hnone'] at hchunk
    have hnone := (consumeChunk_transcript hchunk).1 nofun
    obtain ⟨hsome, hacceptable⟩ :=
      consumeChunk_given answer samples receiver'.complete
    rw [hchunk] at hsome hacceptable
    have hd : Delivers aead (m.run pre).consumer frame receiver'.complete :=
      ⟨hunfinished, hlistening, session', receiver', samples, hframe, rfl⟩
    have hheld : HoldsAudio m (pre ++ [.consumeFrame frame answer]) := by
      refine Machine.Since.now (hgiven.mpr ?_)
      show l.given.isSome = true
      rw [hsome]
      rfl
    constructor
    · intro hc _
      refine ⟨fun _ => ⟨_, hd⟩, ?_⟩
      intro final _ hreset
      exact absurd hheld ((hc hprovider hclosed).2 hreset)
    · intro hkept _ _
      refine ⟨?_, ?_⟩
      · simp only [SecureAudioTranscriber.transcript, hnone, ite_self]
      · intro hreset
        cases hacceptable.mpr ((hkept hopen).2 _ hd hreset)
  | taken frame answer session' receiver' samples l hopen hunfinished hlistening hframe hchunk =>
    obtain ⟨hprovider, hlive⟩ := closed_false hopen
    obtain ⟨hhas, hnone'⟩ := h.wired.chunk hopen hunfinished
    rw [hhas, hnone'] at hchunk
    have hacceptable := (consumeChunk_given answer samples receiver'.complete).2
    rw [hchunk] at hacceptable
    refine iff_of_true (fun _ hclosed => absurd (hlive.symm.trans hclosed) (by decide)) (fun _ => ⟨fun _ => ?_, ?_⟩)
    · exact ⟨_, hunfinished, hlistening, session', receiver', samples, hframe, rfl⟩
    · rintro final ⟨-, -, session'', receiver'', samples', hframe', rfl⟩ -
      rw [hframe] at hframe'
      obtain ⟨-, hrest⟩ := Prod.mk.inj hframe'
      obtain ⟨rfl, -⟩ := Prod.mk.inj hrest
      exact hacceptable.mp rfl
  | ended c hopen hnot hclosed _ =>
    rw [hleft hopen hclosed (hidle rfl rfl)]
    exact ⟨fun hexposed _ he => absurd he hexposed, fun hkept he => hnot (hkept hopen he)⟩
  | summed hopen hdrain _ =>
    exact iff_of_true (fun _ hclosed => absurd ((closed_false hopen).2.symm.trans hclosed) (by decide))
      (fun _ _ => hdrain)
  | cancelled resets hopen =>
    have hlive := (closed_false hopen).2
    have hcancel : (m.run pre).consumer.cancel.closed = false := by
      rw [SecureAudioConsumer.cancel_eq, hlive]
      rfl
    exact iff_of_true (fun _ hclosed => absurd (hcancel.symm.trans hclosed) (by decide)) trivial
  | shut _ c n hprovider hcall hdrain _ _ _ =>
    refine iff_of_true nofun ?_
    cases call with
    | consumeFrame frame answer => exact absurd rfl (hcall frame answer)
    | finalize => exact fun hopen _ => hdrain rfl hopen
    | _ => trivial

/-- The claim about a closed transcriber, read off its state. -/
theorem Tidy.forgotten_iff (hboth : ∀ p a, ¬ (Given (transcriberMachine aead session receiver gate hasReset) p a ∧
      Resets (transcriberMachine aead session receiver gate hasReset) p a))
    (h : Tidy (transcriberMachine aead session receiver gate hasReset) hasReset pre
      ((transcriberMachine aead session receiver gate hasReset).run pre)) :
    Forgotten (transcriberMachine aead session receiver gate hasReset) hasReset pre ↔
      Clean (transcriberMachine aead session receiver gate hasReset) pre
        ((transcriberMachine aead session receiver gate hasReset).run pre) := by
  generalize transcriberMachine aead session receiver gate hasReset = m at hboth h ⊢
  constructor
  · intro hforgotten hprovider hclosed
    have hshut : (m.run pre).closed = true := Bool.or_eq_true_iff.mpr (Or.inr hclosed)
    refine ⟨?_, ?_⟩
    · by_contra hsome
      refine hsome (hforgotten hshut (h.stored ?_)).2
      unfold SecureAudioTranscriber.transcript at hsome
      split at hsome
      · exact Option.isSome_iff_ne_none.mpr hsome
      · exact absurd rfl hsome
    · intro hreset hheld
      exact ((hforgotten hshut hheld.hasAudio).1 ((h.wired.live hprovider).1.symm.trans hreset)).not_held hboth hheld
  · intro hclean hclosed haudio
    cases hprovider : (m.run pre).providerClosed with
    | true =>
      refine ⟨fun hreset => haudio.held_or_reset.resolve_left (h.forgot hprovider hreset), ?_⟩
      simp only [SecureAudioTranscriber.transcript, (h.wired.shut hprovider).2, ite_self]
    | false =>
      have hconsumer : (m.run pre).consumer.closed = true := by
        rw [SecureAudioTranscriber.closed, hprovider] at hclosed
        exact hclosed
      obtain ⟨hnone, hheld⟩ := hclean hprovider hconsumer
      refine ⟨fun hreset => haudio.held_or_reset.resolve_left (hheld ?_), hnone⟩
      exact (h.wired.live hprovider).1.trans hreset

theorem given_not_resets {p : List TranscriberCall} {a : TranscriberCall} :
    ¬ (Given (transcriberMachine aead session receiver gate hasReset) p a ∧
      Resets (transcriberMachine aead session receiver gate hasReset) p a) := by
  rintro ⟨hg, hr⟩
  obtain ⟨r, hmoves, -, hgiven, hresets⟩ := run_moves (run_tidy p).wired a
  rw [hgiven] at hg
  rw [hresets] at hr
  cases hmoves <;> first | cases hg | exact absurd hr (Nat.lt_irrefl 0)

/-- No audio or transcript outlives a closed transcriber at any point of a run just when no call of the run
fails inside the consumer of an open transcriber while there is something to forget. -/
theorem nothing_outlives_capture_iff (calls : List TranscriberCall) :
    (∀ pre post, calls = pre ++ post → Forgotten (transcriberMachine aead session receiver gate hasReset) hasReset pre) ↔
    ∀ pre call post, calls = pre ++ call :: post →
      Kept aead (transcriberMachine aead session receiver gate hasReset) pre call := by
  have hstate (p : List TranscriberCall) :
      Forgotten (transcriberMachine aead session receiver gate hasReset) hasReset p ↔
        Clean (transcriberMachine aead session receiver gate hasReset) p
          ((transcriberMachine aead session receiver gate hasReset).run p) :=
    (run_tidy p).forgotten_iff (fun _ _ => given_not_resets)
  constructor
  · rintro hforgotten pre call post rfl
    refine ((run_tidy pre).clean_iff ((hstate pre).mp (hforgotten pre (call :: post) rfl)) call).mp ?_
    exact (hstate _).mp (hforgotten (pre ++ [call]) post (by simp))
  · intro hkept pre
    induction pre using List.reverseRecOn with
    | nil =>
      rintro post rfl
      exact (hstate []).mpr (fun _ hclosed => by cases hclosed)
    | append_singleton pre call ih =>
      intro post hcalls
      rw [List.append_assoc] at hcalls
      have hbefore := (hstate pre).mp (ih (call :: post) hcalls)
      exact (hstate _).mpr (((run_tidy pre).clean_iff hbefore call).mpr (hkept pre call post hcalls))

end

def vectorTranscriber : Machine SecureAudioTranscriber TranscriberCall Provided :=
  transcriberMachine .checksum vectorServer .start .codecReady true

/-- A capture that is given a chunk, and then something that is not a frame. -/
def brokenCapture : List TranscriberCall :=
  [.beginCapture true true true, .consumeFrame (vectorFrame 0 [1, 2] false) (.ok .null)] ++
    [.consumeFrame .null (.ok .null)]

/-- The transcriber is closed, and its provider still holds the chunk. -/
theorem audio_outlives_capture : ¬ Forgotten vectorTranscriber true brokenCapture := by
  obtain ⟨hgiven, hresets, hclosed⟩ :
      Given vectorTranscriber [.beginCapture true true true]
        (.consumeFrame (vectorFrame 0 [1, 2] false) (.ok .null)) ∧
      ¬ Resets vectorTranscriber
        [.beginCapture true true true, .consumeFrame (vectorFrame 0 [1, 2] false) (.ok .null)]
        (.consumeFrame .null (.ok .null)) ∧
      (vectorTranscriber.run brokenCapture).closed = true := by decide +kernel
  have hheld : HoldsAudio vectorTranscriber brokenCapture := (Machine.Since.now hgiven).keep hresets
  intro hforgotten
  exact ((hforgotten hclosed hheld.hasAudio).1 rfl).not_held (fun _ _ => given_not_resets) hheld

end Pipa.Secure
