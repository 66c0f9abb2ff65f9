import Pipa.Firmware.PipaProtocol

/- When the v1 device answers a challenge it has asked for.

   A challenge is discarded while `awaiting_ready_` is set, that is, between a
   signed hello and the `ready` that answers it. The flag is reset by `ready`, by
   the server timeout and by three error codes. The retry timer of `poll` asks for
   a new challenge without resetting it: when the hello or its answer is lost, the
   device goes on asking every five seconds and discards every challenge it gets. -/
namespace Pipa.Firmware
open Pipa.Lib Pipa.Secure Pipa.Core

namespace PipaProtocol

/-- The output is a challenge request. -/
def isChallengeRequest : Output → Bool
  | .json document => document.textOr "type" "" = literal "challenge_request"
  | .log _ => false

/-- A challenge that passes the checks is answered with a signed hello, if signing succeeds. A hello that does not fit
the outbound line is not sent: `sendJson` only logs that it is too long. -/
def AnswersChallenges (platform : Platform) (p : PipaProtocol) : Prop :=
  ∀ (now : Now) (document challenge : JsonObject), document.intOr0 "protocol_version" = 1 →
    document.textOr "type" "" = literal "challenge" → document.object? "challenge" = some challenge →
    validateChallenge platform.config challenge = true → platform.sign (signingBytes challenge) ≠ [] →
    p.handleMessage platform now document =
      ({ p with lastServerMessage := now.millis, awaitingReady := true },
        sendJson (signedHello platform.config p challenge (platform.sign (signingBytes challenge))))

/-- At a point where the device has just asked for a challenge. -/
def FreshChallengeAnswered (platform : Platform) (p : PipaProtocol) : Prop :=
  p.authenticated = false → p.awaitingReady = false ∧ AnswersChallenges platform p

/-- The request for a challenge is short enough to be sent. -/
def requestFits (config : Config) : Bool :=
  (serialize (.object (challengeRequest config))).length + 1 ≤ kMaxOutboundLine

/-- The retry timer does not fire while a signed hello is unanswered. -/
def NoRetryWhileWaiting (config : Config) (p : PipaProtocol) : Step → Prop
  | .timers now => requestFits config = true → p.authenticated = false →
      due now p.lastChallengeRequest kChallengeRetryMs = true → p.awaitingReady = false
  | _ => True

section
variable {platform : Platform} {p : PipaProtocol}

theorem answersChallenges (hauth : p.authenticated = false) (hwaiting : p.awaitingReady = false) :
    AnswersChallenges platform p := by
  intro now document challenge hversion htype hchallenge hvalid hsigned
  have hsign : (platform.sign (signingBytes challenge)).isEmpty = false := by
    rw [List.isEmpty_eq_false_iff]
    exact hsigned
  simp only [handleMessage, hversion, htype, ne_eq, not_true, if_false, if_true, handleChallenge, hauth, hwaiting,
    Bool.or_false, Bool.false_eq_true, hchallenge, hvalid, Bool.not_true, sendSignedHello, hsign]
  rfl

/-! ## Which steps ask for a challenge -/

/-- The type of a message, as a reader sees it. -/
theorem message_type (type : String) (fields : JsonObject) :
    (message type fields).textOr "type" "" = Secure.Firmware.cString (literal type) := rfl

theorem any_sendJson (document : JsonObject) :
    (sendJson document).any isChallengeRequest =
      (decide ((serialize (.object document)).length + 1 ≤ kMaxOutboundLine) &&
        decide (document.textOr "type" "" = literal "challenge_request")) := by
  unfold sendJson
  split
  · rename_i hlong
    simp [isChallengeRequest, Nat.not_le.mpr hlong]
  · rename_i hshort
    simp [isChallengeRequest, Nat.not_lt.mp hshort]

/-- No other message of the device is one. -/
theorem any_sendJson_message {type : String} (htype : Secure.Firmware.cString (literal type) ≠ literal "challenge_request")
    (fields : JsonObject) : (sendJson (message type fields)).any isChallengeRequest = false := by
  rw [any_sendJson, message_type, decide_eq_false htype, Bool.and_false]

theorem any_sendChallengeRequest (config : Config) :
    (sendChallengeRequest config).any isChallengeRequest = requestFits config := by
  have htype : Secure.Firmware.cString (literal "challenge_request") = literal "challenge_request" := by decide
  have hthis : (challengeRequest config).textOr "type" "" = literal "challenge_request" := htype
  rw [sendChallengeRequest, any_sendJson, decide_eq_true hthis, Bool.and_true]
  rfl

theorem any_sendDeviceStatus (p : PipaProtocol) (now : Now) :
    (p.sendDeviceStatus now).any isChallengeRequest = false := any_sendJson_message (by decide) _

/-- A line asks for a challenge only where it resets the flag. -/
theorem handleMessage_asks {now : Now} {document : JsonObject}
    (h : (p.handleMessage platform now document).2.any isChallengeRequest = true) :
    (p.handleMessage platform now document).1.awaitingReady = false := by
  unfold handleMessage at h ⊢
  simp only at h ⊢
  split at h
  · cases h
  rename_i hversion
  rw [if_neg hversion]
  split at h
  · -- a challenge is answered with a hello, or not at all
    unfold handleChallenge at h
    split at h
    · cases h
    split at h
    · cases h
    split at h
    · cases h
    simp only [sendSignedHello] at h
    split at h
    · cases h
    · rw [signedHello, any_sendJson_message (by decide)] at h
      cases h
  rename_i hchallenge
  rw [if_neg hchallenge]
  split at h
  · unfold handleReady at h
    simp only at h
    split at h
    · cases h
    · rw [List.any_append, any_sendDeviceStatus] at h
      cases h
  rename_i hready
  rw [if_neg hready]
  split at h
  · rename_i herror
    rw [if_pos herror]
    unfold handleError at h ⊢
    simp only at h ⊢
    split at h
    · rename_i hcode
      rw [if_pos hcode]
    · cases h
  rename_i herror
  rw [if_neg herror]
  split at h
  · -- what an authenticated device takes is not answered
    unfold handleSession at h
    split at h
    · cases h
    split at h
    · cases h
    split at h
    · split at h
      · cases h
      split at h
      · cases h
      · cases h
    split at h
    · cases h
    · cases h
  · cases h

theorem handleLine_asks {now : Now} {line : Bytes}
    (h : (p.handleLine platform now line).2.any isChallengeRequest = true) :
    (p.handleLine platform now line).1.awaitingReady = false := by
  unfold handleLine at h ⊢
  split at h
  · cases h
  · rename_i hjson
    rw [if_neg hjson]
    cases hdocument : platform.deserializeJson line with
    | none =>
      rw [hdocument] at h
      cases h
    | some document =>
      rw [hdocument] at h
      exact handleMessage_asks h

theorem read_asks {now : Now} {character : UInt8}
    (h : (p.read platform now character).2.any isChallengeRequest = true) :
    (p.read platform now character).1.awaitingReady = false := by
  unfold read at h ⊢
  split at h
  · cases h
  rename_i hreturn
  rw [if_neg hreturn]
  split at h
  · rename_i hnewline
    rw [if_pos hnewline]
    simp only at h ⊢
    split at h
    · rename_i hline
      rw [if_pos hline]
      exact handleLine_asks h
    · cases h
  · split at h
    · cases h
    split at h
    · cases h
    · cases h

theorem any_sendHeartbeat (now : Now) : (sendHeartbeat now).any isChallengeRequest = false :=
  any_sendJson_message (by decide) _

theorem beat_asks (p : PipaProtocol) (now : Now) : (p.beat now).2.any isChallengeRequest = false := by
  have hfirst : (p.heartbeat now).2.any isChallengeRequest = false := by
    unfold heartbeat
    split
    · dsimp only
      exact any_sendHeartbeat now
    · rfl
  have hsecond : ∀ q : PipaProtocol, (q.statusReport now).2.any isChallengeRequest = false := by
    intro q
    unfold statusReport
    split
    · dsimp only
      exact any_sendDeviceStatus q now
    · rfl
  simp only [beat, List.any_append, hfirst, hsecond, Bool.or_false]

/-- A step that asks for a challenge resets the flag, or is the retry. -/
theorem step_asks {a : Step} (h : (p.step platform a).2.any isChallengeRequest = true) :
    (p.step platform a).1.awaitingReady = false ∨
      ∃ now, a = .timers now ∧ requestFits platform.config = true ∧ p.authenticated = false ∧
        due now p.lastChallengeRequest kChallengeRetryMs = true ∧
        (p.step platform a).1 = { p with lastChallengeRequest := now.millis } := by
  cases a with
  | read now character => exact Or.inl (read_asks h)
  | timers now =>
    simp only [step, timers] at h ⊢
    split at h
    · rename_i htimeout
      rw [if_pos htimeout]
      exact Or.inl rfl
    · rename_i htimeout
      rw [if_neg htimeout]
      split at h
      · rename_i hretry
        rw [if_pos hretry]
        rw [any_sendChallengeRequest] at h
        simp only [Bool.and_eq_true, Bool.not_eq_true'] at hretry
        exact Or.inr ⟨now, rfl, h, hretry.1, hretry.2, rfl⟩
      · rw [beat_asks] at h
        cases h
  | sendGesture gesture =>
    cases gesture with
    | none => cases h
    | some gesture =>
      simp only [step, sendGesture] at h
      split at h
      · cases h
      · rw [any_sendJson_message (by decide)] at h
        cases h
  | sendTextInput text source =>
    cases text with
    | none => cases h
    | some text =>
      simp only [step, sendTextInput] at h
      split at h
      · split at h
        · cases h
        · cases h
      · rw [any_sendJson_message (by decide)] at h
        cases h
  | sendConfirmation accepted =>
    simp only [step, sendConfirmation] at h
    split at h
    · cases h
    · rw [any_sendJson_message (by decide)] at h
      cases h
  | setHardwareCapabilities _ _ _ => cases h
  | setAudioState _ => cases h
  | setBatteryPercent _ => cases h

end

/-- Every request for a challenge in the run is made in a state that answers it. -/
def ChallengesAnswered (platform : Platform) (start : Now) (steps : List Step) : Prop :=
  FreshChallengeAnswered platform ((machine platform start).run []) ∧
  ∀ pre a post, steps = pre ++ a :: post → ((machine platform start).out pre a).any isChallengeRequest = true →
    FreshChallengeAnswered platform ((machine platform start).run (pre ++ [a]))

/-- Over every run of the device: each challenge it asks for would be answered, exactly when the
retry timer never fires while a signed hello is unanswered. -/
theorem challenges_answered_iff (platform : Platform) (start : Now) (steps : List Step) :
    ChallengesAnswered platform start steps ↔
      (machine platform start).Along (NoRetryWhileWaiting platform.config) steps := by
  constructor
  · intro h pre a post hsteps
    cases a with
    | timers now =>
      intro hfits hauth hdue
      -- the retry is taken, and leaves the flag as it is
      have hretry : ((machine platform start).run pre).step platform (.timers now) =
          ({ (machine platform start).run pre with lastChallengeRequest := now.millis },
            sendChallengeRequest platform.config) := by
        simp [step, timers, hauth, hdue]
      have hasks : ((machine platform start).out pre (.timers now)).any isChallengeRequest = true := by
        show (((machine platform start).run pre).step platform (.timers now)).2.any isChallengeRequest = true
        rw [hretry]
        dsimp only
        rw [any_sendChallengeRequest, hfits]
      have hfresh := h.2 pre (.timers now) post hsteps hasks
      rw [Machine.run_concat] at hfresh
      change FreshChallengeAnswered platform (((machine platform start).run pre).step platform (.timers now)).1
        at hfresh
      rw [hretry] at hfresh
      exact (hfresh hauth).1
    | _ => trivial
  · intro hno
    refine ⟨fun hauth => ⟨rfl, answersChallenges hauth rfl⟩, ?_⟩
    intro pre a post hsteps hasks
    rw [Machine.run_concat]
    change FreshChallengeAnswered platform (((machine platform start).run pre).step platform a).1
    intro hauth
    have hwaiting : (((machine platform start).run pre).step platform a).1.awaitingReady = false := by
      obtain hreset | ⟨now, rfl, hfits, hauth, hdue, hstep⟩ := step_asks hasks
      · exact hreset
      · rw [hstep]
        exact hno pre (.timers now) post hsteps hfits hauth hdue
    exact ⟨hwaiting, answersChallenges hauth hwaiting⟩

/-! ## A lost `ready` -/

/-- A challenge of the agent for the device. -/
def boardChallenge : JsonObject :=
  [(literal "challenge_id", .text (literal "c1")), (literal "device_id", .text (literal "waveshare-01")),
   (literal "nonce", .text (literal "n1")), (literal "issued_at", .integer 1000),
   (literal "expires_at", .integer 1030), (literal "operation", .text (literal "session")),
   (literal "audience", .text (literal "pipa-trusted-unlock")), (literal "protocol_version", .integer 1)]

def challengeDocument : Json := .object (message "challenge" [(literal "challenge", .object boardChallenge)])

/-- A device whose parser knows this line. -/
def board : Platform where
  config := ⟨literal "waveshare-01", literal "0.1.0"⟩
  sign _ := literal "c2lnbmF0dXJl"
  isDuplicateFreeJson _ := true
  deserializeJson line := if line = serialize challengeDocument then some challengeDocument else none

/-- The challenge arrives after a second and is answered; the `ready` never comes, and after five
seconds `poll` asks again. -/
def lostReady : List Step := pollSteps ⟨1000, none⟩ (serialize challengeDocument ++ [0x0A])

theorem retry_discards_challenges :
    ¬ ChallengesAnswered board ⟨0, none⟩ (lostReady ++ [.timers ⟨5000, none⟩]) := by
  have hstate : ((machine board ⟨0, none⟩).out lostReady (.timers ⟨5000, none⟩)).any isChallengeRequest = true ∧
      ((machine board ⟨0, none⟩).run (lostReady ++ [.timers ⟨5000, none⟩])).authenticated = false ∧
      ((machine board ⟨0, none⟩).run (lostReady ++ [.timers ⟨5000, none⟩])).awaitingReady = true := by
    decide +kernel
  intro h
  have hfresh := h.2 lostReady (.timers ⟨5000, none⟩) [] rfl hstate.1 hstate.2.1
  rw [hstate.2.2] at hfresh
  cases hfresh.1

end PipaProtocol

end Pipa.Firmware
