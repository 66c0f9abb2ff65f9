import Pipa.Core.Answers
import Pipa.Firmware.PipaSecureProtocol
import Pipa.Link.Wire

/- What the two devices make of the messages of the Core, as far as the confirmation
   on the screen goes. `Screen` is what a device shows of a confirmation and
   `Screen.after` what a message leaves of it; `Device` is what the v1 and the
   v2 device have in common, and `Device.Lawful` says that they do no more. -/
namespace Pipa.Link
open Pipa.Lib Pipa.Core Pipa.Secure
open Pipa.Secure.Firmware (cString)
open Pipa.Firmware (Platform PipaProtocol PipaSecureProtocol Output Now JsonObject UiSnapshot isSafeDisplayText)

/-! ## The confirmation on the screen -/

/-- `confirmation_id` and `confirmation_summary`. -/
structure Screen where
  id : Bytes
  summary : Bytes
  deriving DecidableEq

namespace Screen

def empty : Screen := ⟨[], []⟩

def of (ui : UiSnapshot) : Screen := ⟨ui.confirmationId, ui.confirmationSummary⟩

/-- A confirmation is shown where none is and its texts can be displayed. -/
def ask (screen : Screen) (id summary : Bytes) : Screen :=
  if screen.id.isEmpty && isSafeDisplayText id 128 && isSafeDisplayText summary 256 then ⟨id, summary⟩ else screen

/-- What a message leaves on the screen of an authenticated device. -/
def after (screen : Screen) : ServerMessage → Screen
  | .error _ _ => empty
  | .uiState .confirm _ _ => screen
  | .uiState _ _ _ => empty
  | .confirmRequest id _ summary _ _ _ => screen.ask (cString id.bytes) (cString summary.bytes)
  | .toolResult _ _ _ _ => empty
  | _ => screen

theorem of_updateUi (ui : UiSnapshot) (object : JsonObject) :
    of (ui.updateUi object) =
      if UiSnapshot.stateNamed (object.textOr "state" "idle") = .confirm then of ui else empty := by
  unfold UiSnapshot.updateUi
  simp only
  split
  · rfl
  · rfl

theorem of_confirmation {object : JsonObject} (ui : UiSnapshot) (hempty : ui.confirmationId.isEmpty = true) :
    (of (((UiSnapshot.confirmation? object).map ui.showConfirmation).getD ui)) =
      (of ui).ask (object.textOr "confirmation_id" "") (object.textOr "summary" "") := by
  unfold UiSnapshot.confirmation? ask
  simp only [of, hempty, Bool.true_and]
  split
  · rfl
  · rfl

end Screen

/-! ## Messages as the device reads them -/

/-- A message of the Core, as `deserializeJson` reads it. -/
def document (m : ServerMessage) : JsonObject := ofItems (payload m)

theorem document_version (m : ServerMessage) : (document m).intOr0 "protocol_version" = 1 := by
  cases m with
  | _ => rfl

/-- The `type` of a message of the Core. -/
def typeName : ServerMessage → String
  | .error _ _ => "error"
  | .catalog _ _ => "catalog"
  | .confirmRequest _ _ _ _ _ _ => "confirm_request"
  | .toolResult _ _ _ _ => "tool_result"
  | .uiState _ _ _ => "ui_state"
  | .pong _ => "pong"
  | .statusAck => "status_ack"
  | .deviceHelloAck => "device_hello_ack"
  | .gestureAck _ => "gesture_ack"
  | .ttsAborted => "tts_aborted"

theorem document_type (m : ServerMessage) : (document m).textOr "type" "" = literal (typeName m) := by
  have hread : (document m).textOr "type" "" = cString (literal (typeName m)) := by
    cases m with
    | _ => rfl
  have hplain : ∀ name ∈ ["error", "catalog", "confirm_request", "tool_result", "ui_state", "pong", "status_ack",
      "device_hello_ack", "gesture_ack", "tts_aborted"], cString (literal name) = literal name := by decide
  rw [hread]
  exact hplain _ (by cases m with | _ => simp [typeName])

theorem uiState_state (state : UiState) (caption : Option PyStr) (focusRemaining : Option Int) :
    UiSnapshot.stateNamed ((document (.uiState state caption focusRemaining)).textOr "state" "idle") = state := by
  have hread : (document (.uiState state caption focusRemaining)).textOr "state" "idle" =
      cString (literal (stateName state)) := rfl
  rw [hread]
  cases state with
  | _ => decide

/-! ## The devices -/

/-- A device, as far as its screen goes: what it does by itself and what it does with a document. -/
structure Device (δ : Type) where
  ui : δ → UiSnapshot
  authenticated : δ → Bool
  act : δ → PipaProtocol.Step → δ × List Output
  receive : δ → Now → JsonObject → δ × List Output

namespace Device
variable {δ : Type}

def screen (D : Device δ) (d : δ) : Screen := .of (D.ui d)

/-- A device that stays authenticated keeps its screen, but for what the messages of the Core do
to it. -/
structure Lawful (D : Device δ) : Prop where
  act : ∀ d a, D.authenticated (D.act d a).1 = true →
    D.authenticated d = true ∧ D.screen (D.act d a).1 = D.screen d
  receive : ∀ d now m, D.authenticated (D.receive d now (document m)).1 = true →
    D.authenticated d = true ∧ D.screen (D.receive d now (document m)).1 = (D.screen d).after m

/-- The v1 device. -/
def v1 (platform : Platform) : Device PipaProtocol where
  ui := PipaProtocol.ui
  authenticated := PipaProtocol.authenticated
  act p a := p.ownStep platform a
  receive p now document := p.handleMessage platform now document

/-- The v2 device. -/
def v2 : Device PipaSecureProtocol where
  ui := PipaSecureProtocol.ui
  authenticated := PipaSecureProtocol.authenticated
  act p a := p.ownStep a
  receive p now document := p.receive now document

/-! ## The v1 device keeps to it -/

/-- An error takes the session from the device, or clears its screen. -/
theorem v1_error (platform : Platform) (p : PipaProtocol) (now : Now) (code : ErrorCode) (text : Option PyStr)
    (h : (p.handleError platform.config now (document (.error code text))).1.authenticated = true) :
    p.authenticated = true ∧ Screen.of (p.handleError platform.config now (document (.error code text))).1.ui = .empty := by
  unfold PipaProtocol.handleError at h ⊢
  simp only at h ⊢
  split at h
  · cases h
  · rename_i hcode
    rw [if_neg hcode]
    exact ⟨h, rfl⟩

/-- No other message touches the authentication. -/
theorem v1_session_authenticated (p : PipaProtocol) (now : Now) (type : Bytes) (object : JsonObject) :
    (p.handleSession now type object).1.authenticated = p.authenticated := by
  unfold PipaProtocol.handleSession
  split
  · rfl
  split
  · rfl
  split
  · split
    · rfl
    split
    · rfl
    · rfl
  split
  · rfl
  · rfl

theorem v1_confirm (p : PipaProtocol) (now : Now) (object : JsonObject) (hauth : p.authenticated = true) :
    Screen.of (p.handleSession now (literal "confirm_request") object).1.ui =
      (Screen.of p.ui).ask (object.textOr "confirmation_id" "") (object.textOr "summary" "") := by
  unfold PipaProtocol.handleSession
  rw [if_neg (by simp [hauth]), if_neg (by decide), if_pos rfl]
  split
  · rename_i hshown
    rw [Bool.not_eq_true'] at hshown
    simp [Screen.of, Screen.ask, hshown]
  · rename_i hempty
    rw [Bool.not_eq_true', Bool.not_eq_false] at hempty
    rw [← Screen.of_confirmation p.ui hempty]
    split
    · rename_i hnone
      rw [hnone]
      rfl
    · rename_i confirmation hsome
      rw [hsome]
      rfl

theorem beat_same (p : PipaProtocol) (now : Now) :
    (p.beat now).1.ui = p.ui ∧ (p.beat now).1.authenticated = p.authenticated := by
  have hfirst : (p.heartbeat now).1.ui = p.ui ∧ (p.heartbeat now).1.authenticated = p.authenticated := by
    unfold PipaProtocol.heartbeat
    split
    · exact ⟨rfl, rfl⟩
    · exact ⟨rfl, rfl⟩
  have hsecond : ∀ q : PipaProtocol, (q.statusReport now).1.ui = q.ui ∧
      (q.statusReport now).1.authenticated = q.authenticated := by
    intro q
    unfold PipaProtocol.statusReport
    split
    · exact ⟨rfl, rfl⟩
    · exact ⟨rfl, rfl⟩
  exact ⟨(hsecond _).1.trans hfirst.1, (hsecond _).2.trans hfirst.2⟩

/-- How `handleMessage` tells the messages apart. -/
theorem v1_dispatch (platform : Platform) (p : PipaProtocol) (now : Now) (m : ServerMessage) :
    p.handleMessage platform now (document m) =
      match m with
      | .error _ _ => p.handleError platform.config now (document m)
      | .catalog _ _ | .deviceHelloAck => (p, [.log "unknown server message discarded"])
      | m => p.handleSession now (literal (typeName m)) (document m) := by
  unfold PipaProtocol.handleMessage
  simp only [document_version, document_type, ne_eq, not_true, if_false]
  cases m with
  | _ => simp +decide [typeName]

/-- What an authenticated device makes of a message of its session. -/
theorem v1_session_screen (p : PipaProtocol) (now : Now) (m : ServerMessage) (hauth : p.authenticated = true)
    (herror : typeName m ≠ "error") :
    Screen.of (p.handleSession now (literal (typeName m)) (document m)).1.ui = (Screen.of p.ui).after m := by
  cases m with
  | error _ _ => exact absurd rfl herror
  | confirmRequest id tool summary expiresAt callId requestDigest => exact v1_confirm p now _ hauth
  | uiState state caption focusRemaining =>
    simp only [PipaProtocol.handleSession, typeName, hauth, Bool.not_true, Bool.false_eq_true, if_false, if_true,
      Screen.of_updateUi, uiState_state]
    cases state with
    | _ => rfl
  | toolResult _ _ _ _ => simp +decide [PipaProtocol.handleSession, hauth, typeName, Screen.after, Screen.of, Screen.empty,
      UiSnapshot.clearConfirmation]
  | _ => simp +decide [PipaProtocol.handleSession, hauth, typeName, Screen.after]

theorem v1_lawful (platform : Platform) : (v1 platform).Lawful where
  act := by
    intro p a h
    cases a with
    | timers now =>
      simp only [v1, screen, PipaProtocol.ownStep, PipaProtocol.step, PipaProtocol.timers] at h ⊢
      split at h
      · cases h
      rename_i htimeout
      rw [if_neg htimeout]
      split at h
      · rename_i hretry
        rw [if_pos hretry]
        exact ⟨h, rfl⟩
      · rename_i hretry
        rw [if_neg hretry]
        rw [(beat_same p now).2] at h
        rw [(beat_same p now).1]
        exact ⟨h, rfl⟩
    | _ => exact ⟨h, rfl⟩
  receive := by
    intro p now m h
    change (p.handleMessage platform now (document m)).1.authenticated = true at h
    show p.authenticated = true ∧ Screen.of (p.handleMessage platform now (document m)).1.ui = (Screen.of p.ui).after m
    rw [v1_dispatch] at h ⊢
    split at h
    · exact v1_error platform p now _ _ h
    · exact ⟨h, rfl⟩
    · exact ⟨h, rfl⟩
    · rename_i herror _ _
      rw [v1_session_authenticated] at h
      refine ⟨h, v1_session_screen p now m h ?_⟩
      intro htype
      cases m with
      | error code text => exact herror code text rfl
      | _ => simp [typeName] at htype

/-! ## So does the v2 device -/

theorem v2_error (p : PipaSecureProtocol) (now : Now) (code : ErrorCode) (text : Option PyStr)
    (h : (p.handleError now (document (.error code text))).1.authenticated = true) :
    Screen.of (p.handleError now (document (.error code text))).1.ui = .empty := by
  unfold PipaSecureProtocol.handleError at h ⊢
  split at h
  · cases h
  · rename_i hcode
    rw [if_neg hcode]
    rfl

theorem v2_confirm (p : PipaSecureProtocol) (object : JsonObject) :
    Screen.of (if !p.ui.confirmationId.isEmpty then (p, ([] : List Output))
      else match UiSnapshot.confirmation? object with
        | none => (p, [])
        | some confirmation => ({ p with ui := p.ui.showConfirmation confirmation }, [])).1.ui =
      (Screen.of p.ui).ask (object.textOr "confirmation_id" "") (object.textOr "summary" "") := by
  split
  · rename_i hshown
    rw [Bool.not_eq_true'] at hshown
    simp [Screen.of, Screen.ask, hshown]
  · rename_i hempty
    rw [Bool.not_eq_true', Bool.not_eq_false] at hempty
    rw [← Screen.of_confirmation p.ui hempty]
    split
    · rename_i hnone
      rw [hnone]
      rfl
    · rename_i confirmation hsome
      rw [hsome]
      rfl

theorem v2_message (p : PipaSecureProtocol) (now : Now) (m : ServerMessage)
    (h : (p.handleMessage now (document m)).1.authenticated = true) :
    Screen.of (p.handleMessage now (document m)).1.ui = (Screen.of p.ui).after m := by
  unfold PipaSecureProtocol.handleMessage at h ⊢
  simp only [document_version, document_type, ne_eq, not_true, if_false] at h ⊢
  cases m with
  | error code text =>
    simp +decide only [typeName, if_true, if_false] at h ⊢
    exact v2_error p now code text h
  | uiState state caption focusRemaining =>
    simp +decide only [typeName, if_true, if_false, Screen.of_updateUi, uiState_state]
    cases state with
    | _ => rfl
  | confirmRequest id tool summary expiresAt callId requestDigest =>
    simp +decide only [typeName, if_true, if_false]
    exact v2_confirm p (document (.confirmRequest id tool summary expiresAt callId requestDigest))
  | toolResult tool status success callId =>
    simp +decide only [typeName, if_true, if_false]
    rfl
  | _ =>
    simp +decide only [typeName, if_false]
    rfl

theorem v2_timers (p : PipaSecureProtocol) (now : Now) (h : (p.timers now).1.authenticated = true) :
    p.authenticated = true ∧ (p.timers now).1.ui = p.ui := by
  unfold PipaSecureProtocol.timers at h ⊢
  split at h
  · cases h
  rename_i htimeout
  rw [if_neg htimeout]
  have hretry : (p.retry now).ui = p.ui ∧ (p.retry now).authenticated = p.authenticated := by
    unfold PipaSecureProtocol.retry
    split
    · exact ⟨rfl, rfl⟩
    · exact ⟨rfl, rfl⟩
  have hfirst : ∀ q : PipaSecureProtocol, (q.heartbeat now).1.ui = q.ui ∧
      (q.heartbeat now).1.authenticated = q.authenticated := by
    intro q
    unfold PipaSecureProtocol.heartbeat
    split
    · exact ⟨rfl, rfl⟩
    · exact ⟨rfl, rfl⟩
  have hsecond : ∀ q : PipaSecureProtocol, (q.statusReport now).1.ui = q.ui ∧
      (q.statusReport now).1.authenticated = q.authenticated := by
    intro q
    unfold PipaSecureProtocol.statusReport
    split
    · exact ⟨rfl, rfl⟩
    · exact ⟨rfl, rfl⟩
  simp only [(hsecond _).2, (hfirst _).2, hretry.2] at h
  simp only [(hsecond _).1, (hfirst _).1, hretry.1]
  exact ⟨h, trivial⟩

theorem v2_lawful : v2.Lawful where
  act := by
    intro p a h
    cases a with
    | timers now =>
      obtain ⟨hauth, hui⟩ := v2_timers p now h
      exact ⟨hauth, congrArg Screen.of hui⟩
    | _ => exact ⟨h, rfl⟩
  receive := by
    intro p now m h
    change (p.receive now (document m)).1.authenticated = true at h
    show p.authenticated = true ∧ Screen.of (p.receive now (document m)).1.ui = (Screen.of p.ui).after m
    unfold PipaSecureProtocol.receive at h ⊢
    split at h
    · rename_i hauth
      rw [if_pos hauth]
      exact ⟨hauth, v2_message _ now m h⟩
    · rename_i hauth
      exact absurd h hauth

end Device

end Pipa.Link
