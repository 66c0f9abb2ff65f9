import Pipa.Core.Answers

/- Voice and text (`core.py`): `handle_transcript` repeats the checks of `handle` for a
   `text_input`, except that it does not prune the registry first. The two do the
   same as long as no session has been idle for too long; otherwise they differ in
   what is registered afterwards, whoever the expired session belongs to. -/
namespace Pipa.Core
open Pipa.Lib

variable {ω : Type}

/-- The same messages, or the same exception, and the same state of the Core. -/
def Outcome.Agree (o o' : Outcome) : Prop := o.result = o'.result ∧ o.state = o'.state

/-- No registered session has been idle for `maxSessionIdleSeconds`. -/
def NoneStale (st : State) (now : Int) : Prop :=
  ∀ sid s, st.sessions.get? sid = some s → s.stale now = false

namespace PipaCore
variable {core : PipaCore ω} {st : State} {w : ω} {clock : Clock} {token sid : PyStr} {text : PyStr} {source : TextSource}

theorem pruneStaleSessions_eq {now : Int} (h : NoneStale st now) : pruneStaleSessions st now = st := by
  have hentry : ∀ e ∈ st.sessions.entries, e.2.stale now = false :=
    fun e he => h e.1 e.2 (Dict.get?_eq_some.mpr he)
  have hkept : st.sessions.filter (fun _ s => !s.stale now) = st.sessions := by
    apply Dict.ext_entries
    refine List.filter_eq_self.mpr ?_
    intro e he
    exact congrArg not (hentry e he)
  have hids : st.sessions.entries.filter (fun e => e.2.stale now) = [] := by
    rw [List.filter_eq_nil_iff]
    intro e he
    rw [hentry e he]
    exact Bool.false_ne_true
  simp only [pruneStaleSessions, SessionRegistry.prune, hkept, hids, List.map_nil, List.foldl_nil]

/-- With nothing to prune the two are one. -/
theorem handle_textInput (h : NoneStale st clock.prune) :
    core.handle st w clock token sid (.textInput text source) = core.handleTranscript st w clock token sid text := by
  unfold handle handleTranscript
  rw [pruneStaleSessions_eq h]
  cases hs : st.sessions.get? sid with
  | none => simp only [hs]
  | some s =>
    simp only [hs, handleSession, handleGated, handleReady, isPreHello, passesConfirmGate, Bool.not_false, Bool.and_true,
      decide_eq_true_eq]

/-- A session that is not the one of the call is registered afterwards as it was before. -/
theorem handleTranscript_sessions (core : PipaCore ω) (w : ω) (clock : Clock) (token sid text : PyStr) {k : PyStr}
    (hk : (st.sessions.get? k).isSome = true) :
    ((core.handleTranscript st w clock token sid text).state.sessions.get? k).isSome = true := by
  cases hs : st.sessions.get? sid with
  | none =>
    unfold handleTranscript
    simp only [hs]
    exact hk
  | some s =>
    have heffect : Effect core w clock.act token sid st (s.touch clock.touch) (.transcript text)
        (core.handleTranscript st w clock token sid text) := handleTranscript_effect hs
    obtain ⟨s', -, hset⟩ := heffect.session
    rw [hset, Dict.get?_set]
    split
    · rfl
    · exact hk

/-- `handle` leaves no session registered that was not after pruning. -/
theorem handle_sessions (core : PipaCore ω) (w : ω) (clock : Clock) (token sid : PyStr) (m : ClientMessage) {k : PyStr}
    (hk : (pruneStaleSessions st clock.prune).sessions.get? k = none) :
    (core.handle st w clock token sid m).state.sessions.get? k = none := by
  obtain ⟨-, heq⟩ | ⟨s, hs, heffect, -⟩ := handle_cases core st w clock token sid m
  · rw [heq]
    exact hk
  · obtain ⟨s', -, hset⟩ := heffect.session
    rw [hset, Dict.get?_set]
    split
    · rename_i heq
      rw [heq, hs] at hk
      cases hk
    · exact hk

/-- A transcript is answered as the text message with that text, and leaves the same state, just when there is
no session to prune. -/
theorem handleTranscript_agrees_iff :
    (core.handleTranscript st w clock token sid text).Agree (core.handle st w clock token sid (.textInput text source)) ↔
      NoneStale st clock.prune := by
  constructor
  · rintro ⟨-, hstate⟩ k s hs
    by_contra hstale
    have hpruned : (pruneStaleSessions st clock.prune).sessions.get? k = none := by
      cases hget : (pruneStaleSessions st clock.prune).sessions.get? k with
      | none => rfl
      | some s' =>
        obtain ⟨hs', hlive⟩ := pruneStale_sessions.mp hget
        obtain rfl := Option.some.inj (hs.symm.trans hs')
        exact absurd hlive hstale
    have hgone := handle_sessions core w clock token sid (.textInput text source) hpruned
    have hkept := handleTranscript_sessions core w clock token sid text (by rw [hs]; rfl)
    rw [hstate, hgone] at hkept
    cases hkept
  · intro h
    rw [handle_textInput h]
    exact ⟨rfl, rfl⟩

end PipaCore

/-- A session that was last seen at 0. -/
def idleSession : DeviceSession where
  sessionId := PyStr.ofString "s"
  deviceId := PyStr.ofString "pipa"
  connectedAt := 0
  lastSeenAt := some 0

/-- Only that session is registered. -/
def idleState : State :=
  ⟨Dict.empty.set (PyStr.ofString "s") idleSession, Dict.empty, Dict.empty⟩

/-- Fifteen minutes later a transcript of its is still routed. -/
theorem expired_session_transcribed :
    ¬ (lockCore.handleTranscript idleState () ⟨900, 900, 900⟩ [] (PyStr.ofString "s") (PyStr.ofString "hola")).Agree
      (lockCore.handle idleState () ⟨900, 900, 900⟩ [] (PyStr.ofString "s") (.textInput (PyStr.ofString "hola") .voice)) := by
  rintro ⟨hresult, -⟩
  have hlengths : (Except.toOption (lockCore.handleTranscript idleState () ⟨900, 900, 900⟩ [] (PyStr.ofString "s")
        (PyStr.ofString "hola")).result).map List.length = some 2 ∧
      (Except.toOption (lockCore.handle idleState () ⟨900, 900, 900⟩ [] (PyStr.ofString "s")
        (.textInput (PyStr.ofString "hola") .voice)).result).map List.length = some 1 := by decide
  rw [hresult, hlengths.2] at hlengths
  cases hlengths.1

end Pipa.Core
