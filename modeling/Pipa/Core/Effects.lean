import Pipa.Core.PipaCore

/- What one input of a registered session can do, said once. `Effect` lists the
   ways in which handling a message (or a transcript) may change the registry
   and the confirmation store and which events it may raise: it leaves both
   alone (`quiet`), it works without asking for anything (`worked`), it asks for
   one confirmation (`requested`), it aborts, or it answers a confirmation that
   is there (`resolved`) or is not (`unmatched`). `handleSession_effect` and
   `handleTranscript_effect` show that nothing else happens; every invariant of
   the Core is derived from these cases. -/
namespace Pipa.Core
open Pipa.Lib

/-! ## The confirmation store -/

namespace Pending
variable {p p' : Pending} {r : PendingConfirmation} {k : PyStr}

theorem get?_prune {now : Int} :
    (p.prune now).get? k = some r ↔ p.get? k = some r ∧ now < r.expiresAt := by
  simp [prune, Dict.get?_filter_some]

theorem get?_cancelForOwner {sid : PyStr} (hsid : sid ≠ []) :
    (p.cancelForOwner sid).get? k = some r ↔ p.get? k = some r ∧ r.ownerId ≠ some sid := by
  simp [cancelForOwner, hsid, Dict.get?_filter_some]

theorem cancelForOwner_le {sid : PyStr} (h : (p.cancelForOwner sid).get? k = some r) :
    p.get? k = some r := by
  unfold cancelForOwner at h
  split at h
  · exact h
  · exact (Dict.get?_filter_some.mp h).1

/-- A record erased is gone, also if what its owner has left is cancelled then. -/
theorem get?_none_of_erase {sid : PyStr} (h : p' = p.erase k ∨ p' = cancelForOwner (p.erase k) sid) :
    p'.get? k = none := by
  cases hr : p'.get? k with
  | none => rfl
  | some r =>
    have herase : (p.erase k).get? k = some r := by
      rcases h with rfl | rfl
      · exact hr
      · exact cancelForOwner_le hr
    exact absurd rfl (Dict.get?_erase_some.mp herase).1

/-- A refusal of `create` leaves the store as it was or pruned; the per-owner limit is
the reason only when the owner holds that many live records. -/
def Refusal (p : Pending) (now : Int) (ownerId : Option PyStr) (p' : Pending) (e : Exn) : Prop :=
  (p' = p ∨ p' = p.prune now) ∧
  (e = ownerLimitError → ∃ sid, ownerId = some sid ∧
    maxPendingPerOwner ≤ ((p.prune now).owned sid).length)

theorem create_cases {ttl now : Int} {token tool : PyStr} {args : Object} {summary : Value}
    {ownerId callId digest : Option PyStr} {snapshot : Option Object} {res : Except Exn PendingConfirmation}
    (h : p.create ttl now token tool args summary ownerId callId digest snapshot = (p', res)) :
    (∃ e, res = .error e ∧ Refusal p now ownerId p' e) ∨
    (∃ r, res = .ok r ∧ r.confirmationId = token ∧ r.ownerId = ownerId ∧ r.toolName = tool ∧
      r.arguments = args ∧ r.executionArguments = snapshot ∧ r.expiresAt = now + ttl ∧
      r.callId = callId ∧ r.requestDigest = digest ∧ p' = (p.prune now).set token r) := by
  have early {e : Exn} (he : e ≠ ownerLimitError) (hp : (p, Except.error e) = (p', res)) :
      ∃ e, res = .error e ∧ Refusal p now ownerId p' e := by
    simp only [Prod.mk.injEq] at hp
    exact ⟨e, hp.2.symm, Or.inl hp.1.symm, fun h => absurd h he⟩
  unfold create at h
  split at h
  · split at h
    · exact Or.inl (early (by simp [summaryError, ownerLimitError]) h)
    split at h
    · exact Or.inl (early (by simp [callIdError, ownerLimitError]) h)
    split at h
    · exact Or.inl (early (by simp [digestError, ownerLimitError]) h)
    simp only at h
    split at h
    · simp only [Prod.mk.injEq] at h
      exact Or.inl ⟨_, h.2.symm, Or.inr h.1.symm, by simp [storeLimitError, ownerLimitError]⟩
    split at h
    · rename_i howned
      simp only [Prod.mk.injEq] at h
      refine Or.inl ⟨_, h.2.symm, Or.inr h.1.symm, fun _ => ?_⟩
      cases ownerId with
      | none => simp at howned
      | some sid => exact ⟨sid, rfl, by simpa using howned⟩
    · simp only [Prod.mk.injEq] at h
      exact Or.inr ⟨_, h.2.symm, rfl, rfl, rfl, rfl, rfl, rfl, rfl, rfl, h.1.symm⟩
  · exact Or.inl (early (by simp [summaryError, ownerLimitError]) h)

theorem consume_ok {now : Int} {cid : PyStr} {sid : Option PyStr}
    (h : p.consume now cid sid = .ok (r, p')) :
    p.get? cid = some r ∧ now < r.expiresAt ∧ (r.ownerId = none ∨ r.ownerId = sid) ∧
      p' = p.erase cid := by
  unfold consume at h
  split at h
  · cases h
  · rename_i r' hr'
    split at h
    · cases h
    split at h
    · cases h
    · rename_i hexp howner
      simp only [Except.ok.injEq, Prod.mk.injEq] at h
      obtain ⟨rfl, rfl⟩ := h
      refine ⟨hr', by omega, ?_, rfl⟩
      by_cases hn : r'.ownerId = none
      · exact Or.inl hn
      · exact Or.inr (Classical.byContradiction fun hne => howner ⟨hn, hne⟩)

end Pending

/-! ## Tools -/

theorem ToolDefinition.validateArguments_eq {ω : Type} {d : ToolDefinition ω} {w : ω} {args values : Object}
    (h : d.validateArguments w args = .ok values) : values = args := by
  unfold ToolDefinition.validateArguments at h
  split at h
  · exact (Except.ok.inj h).symm
  · split at h
    · cases h
    · exact (Except.ok.inj h).symm

/-- A confirmed call gets what was captured when the confirmation was created. -/
theorem ToolRouter.executionValues_eq {ω : Type} {d : ToolDefinition ω} {w : ω} {r : PendingConfirmation}
    {values : Object} (h : ToolRouter.executionValues d w r = .ok values) : values = r.captured := by
  unfold ToolRouter.executionValues at h
  unfold PendingConfirmation.captured
  split at h
  · rename_i snapshot hs
    rw [hs]; exact (Except.ok.inj h).symm
  · rename_i hs
    rw [hs]; exact ToolDefinition.validateArguments_eq h

/-! ## Effects -/

/-- What a session hands to the Core. -/
inductive Input where
  | message (m : ClientMessage)
  | transcript (text : PyStr)

section
variable {ω : Type} (core : PipaCore ω) (w : ω)

/-- The input is a tool call, or a text the Core understands as one. -/
def Input.AsksFor : Input → PyStr → Object → Prop
  | .message (.toolCall name args _ _), tool, values => tool = name ∧ values = args
  | .message (.textInput text _), tool, values =>
    ∃ i, core.intentOf w text = .ok (some i) ∧ tool = i.toolName ∧ values = i.arguments
  | .transcript text, tool, values =>
    ∃ i, core.intentOf w text = .ok (some i) ∧ tool = i.toolName ∧ values = i.arguments
  | _, _, _ => False

/-- `record` is the confirmation the input asks for: of an unsafe tool, by a session
that can confirm, with the validated arguments and the preparer's snapshot. -/
structure Requested (now : Int) (token : PyStr) (s : DeviceSession) (input : Input)
    (record : PendingConfirmation) : Prop where
  id : record.confirmationId = token
  owner : record.ownerId = some s.sessionId
  expires : record.expiresAt = now + core.ttlSeconds
  confirmable : PipaCore.canConfirm s = true
  asked : input.AsksFor core w record.toolName record.arguments
  tool : ∃ d, core.catalog.get? record.toolName = some d ∧ d.safety = .unsafeTool ∧
    d.validateArguments w record.arguments = .ok record.arguments ∧
    d.prepare w record.arguments = .ok record.executionArguments

/-- What no input changes of a session. -/
structure Frame (s s' : DeviceSession) : Prop where
  id : s'.sessionId = s.sessionId
  seen : s'.lastSeenAt = s.lastSeenAt
  initialized : s.capabilitiesInitialized = true → s'.capabilitiesInitialized = true

theorem Frame.setState (s : DeviceSession) (u : UiState) (c : Option PyStr) :
    Frame s (s.setState u c) := ⟨rfl, rfl, fun h => h⟩

/-- An event of work that asks for nothing: a safe handler was called, or the store
refused a confirmation. -/
def HarmlessEvent (now : Int) (st : State) (s : DeviceSession) (e : Event) : Prop :=
  (∃ tool args d, e = .called tool args ∧ core.catalog.get? tool = some d ∧ d.safety = .safe) ∨
  (∃ err, e = .refused err ∧ (err = Pending.ownerLimitError →
    maxPendingPerOwner ≤ ((st.pending.prune now).owned s.sessionId).length))

/-- The effect of an input on the state `st`, in which session `sid` is `s`. -/
inductive Effect (now : Int) (token sid : PyStr) (st : State) (s : DeviceSession) (input : Input)
    (o : Outcome) : Prop where
  | quiet (s' : DeviceSession) (frame : Frame s s') (same : s'.state = s.state)
      (sessions : o.state.sessions = st.sessions.set sid s') (pending : o.state.pending = st.pending)
      (events : o.events = [])
  | worked (s' : DeviceSession) (frame : Frame s s') (before : s.state ≠ .confirm)
      (after : s'.state ≠ .confirm) (sessions : o.state.sessions = st.sessions.set sid s')
      (pending : o.state.pending = st.pending ∨ o.state.pending = st.pending.prune now)
      (events : ∀ e ∈ o.events, HarmlessEvent core now st s e)
  | requested (s' : DeviceSession) (record : PendingConfirmation) (frame : Frame s s')
      (before : s.state ≠ .confirm) (ready : s.capabilitiesInitialized = true)
      (after : s'.state = .confirm)
      (request : Requested core w now token s input record)
      (sessions : o.state.sessions = st.sessions.set sid s')
      (pending : o.state.pending = (st.pending.prune now).set token record)
      (events : o.events = [.created record])
  | aborted (s' : DeviceSession) (frame : Frame s s') (after : s'.state ≠ .confirm)
      (sent : input = .message .abort) (sessions : o.state.sessions = st.sessions.set sid s')
      (pending : o.state.pending = st.pending.cancelForOwner s.sessionId) (events : o.events = [])
  | resolved (s' : DeviceSession) (cid : PyStr) (accepted : Bool) (record : PendingConfirmation)
      (frame : Frame s s') (after : s'.state ≠ .confirm)
      (sent : input = .message (.confirm cid accepted))
      (found : st.pending.get? cid = some record) (live : now < record.expiresAt)
      (owner : record.ownerId = none ∨ record.ownerId = some s.sessionId)
      (sessions : o.state.sessions = st.sessions.set sid s')
      (pending : o.state.pending = st.pending.erase cid ∨
        o.state.pending = Pending.cancelForOwner (st.pending.erase cid) s.sessionId)
      (events : o.events = [] ∨ (accepted = true ∧ o.events = [.called record.toolName record.captured]))
  | unmatched (s' : DeviceSession) (cid : PyStr) (accepted : Bool) (frame : Frame s s')
      (after : s'.state ≠ .confirm) (sent : input = .message (.confirm cid accepted))
      (sessions : o.state.sessions = st.sessions.set sid s')
      (pending : o.state.pending = st.pending.cancelForOwner s.sessionId) (events : o.events = [])

namespace PipaCore
variable {core w} {now : Int} {token sid : PyStr} {st : State} {s : DeviceSession} {input : Input}

@[simp] theorem finish_sessions {u : UiState} {c : Option PyStr} {ms : List ServerMessage}
    {es : List Event} :
    (finish st sid s u c ms es).state.sessions = st.sessions.set sid (s.setState u c) := rfl

@[simp] theorem finish_pending {u : UiState} {c : Option PyStr} {ms : List ServerMessage}
    {es : List Event} : (finish st sid s u c ms es).state.pending = st.pending := rfl

@[simp] theorem finish_events {u : UiState} {c : Option PyStr} {ms : List ServerMessage}
    {es : List Event} : (finish st sid s u c ms es).events = es := rfl

/-- A settled answer that raised no event. -/
theorem effect_finish {s₀ : DeviceSession} {u : UiState} {c : Option PyStr} {ms : List ServerMessage}
    (frame : Frame s s₀) (before : s.state ≠ .confirm) (hu : u ≠ .confirm) :
    Effect core w now token sid st s input (finish st sid s₀ u c ms []) := by
  refine .worked (s₀.setState u c) ⟨?_, ?_, ?_⟩ before hu rfl (Or.inl rfl) (by simp)
  · exact frame.id
  · exact frame.seen
  · exact frame.initialized

/-- What `invoke` returns to `_run_tool`, which never passes a confirmation id. -/
theorem invoke_cases {ttl : Int} {catalog : ToolCatalog ω} {p : Pending} {tool : PyStr} {args : Object}
    {ownerId callId digest : Option PyStr} {r : Routed Invocation}
    (h : ToolRouter.invoke catalog ttl now token w p tool args none ownerId callId digest = r) :
    (r.pending = p ∧ r.events = [] ∧ ∃ e, r.result = .error e) ∨
    (∃ d, catalog.get? tool = some d ∧ d.safety = .safe ∧ r.pending = p ∧
      r.events = [.called tool args] ∧
      ((∃ e, r.result = .error e) ∨ ∃ res, r.result = .ok (.completed res))) ∨
    (∃ e, Pending.Refusal p now ownerId r.pending e ∧ r.events = [.refused e] ∧ r.result = .error e) ∨
    (∃ d record, catalog.get? tool = some d ∧ d.safety = .unsafeTool ∧
      d.validateArguments w args = .ok args ∧ d.prepare w args = .ok record.executionArguments ∧
      record.confirmationId = token ∧ record.ownerId = ownerId ∧ record.toolName = tool ∧
      record.arguments = args ∧ record.expiresAt = now + ttl ∧
      r.pending = (p.prune now).set token record ∧ r.events = [.created record] ∧
      r.result = .ok (.needsConfirmation record)) := by
  unfold ToolRouter.invoke at h
  split at h
  · subst h; exact Or.inl ⟨rfl, rfl, _, rfl⟩
  rename_i d hd
  split at h
  · subst h; exact Or.inl ⟨rfl, rfl, _, rfl⟩
  rename_i values hvalues
  obtain rfl := ToolDefinition.validateArguments_eq hvalues
  split at h
  · rename_i hsafe _
    unfold ToolRouter.requestConfirmation at h
    split at h
    · subst h; exact Or.inl ⟨rfl, rfl, _, rfl⟩
    split at h
    · subst h; exact Or.inl ⟨rfl, rfl, _, rfl⟩
    rename_i snapshot hsnapshot
    split at h
    · subst h; exact Or.inl ⟨rfl, rfl, _, rfl⟩
    split at h
    · rename_i p' e hcreate
      rcases Pending.create_cases hcreate with ⟨e', he, hr⟩ | ⟨r', hr', _⟩
      · obtain rfl := Except.error.inj he
        subst h; exact Or.inr (Or.inr (Or.inl ⟨e, hr, rfl, rfl⟩))
      · cases hr'
    · rename_i p' record hcreate
      rcases Pending.create_cases hcreate with ⟨e', he, _⟩ | ⟨r', hr', h1, h2, h3, h4, h5, h6, -, -, h7⟩
      · cases he
      · obtain rfl := Except.ok.inj hr'
        subst h
        exact Or.inr (Or.inr (Or.inr ⟨d, record, hd, hsafe, hvalues, h5 ▸ hsnapshot, h1, h2, h3, h4, h6, h7,
          rfl, rfl⟩))
  · rename_i hc; cases hc
  · rename_i hsafe
    refine Or.inr (Or.inl ⟨d, hd, hsafe, ?_⟩)
    simp only [ToolRouter.complete, ToolRouter.execute] at h
    cases hh : d.handler w values with
    | error e => rw [hh] at h; subst h; exact ⟨rfl, rfl, Or.inl ⟨e, rfl⟩⟩
    | ok res => rw [hh] at h; subst h; exact ⟨rfl, rfl, Or.inr ⟨res, rfl⟩⟩

/-- A failed invocation ends idle, whatever the exception. -/
theorem answerInvocation_error (st : State) (sid : PyStr) (s : DeviceSession) (tool : PyStr)
    (callId : Option PyStr) {r : Routed Invocation} {e : Exn} (h : r.result = .error e) :
    ∃ caption text, answerInvocation st sid s tool callId r =
      finish { st with pending := r.pending } sid s .idle (some caption)
        [errorMessage .toolFailed text] r.events := by
  unfold answerInvocation
  rw [h]
  by_cases he : e.isRefusal = true
  · exact ⟨_, _, if_pos he⟩
  · exact ⟨_, _, if_neg he⟩

theorem runTool_effect {tool : PyStr} {args : Object} {callId digest : Option PyStr}
    (before : s.state ≠ .confirm) (ready : s.capabilitiesInitialized = true)
    (asks : input.AsksFor core w tool args) :
    Effect core w now token sid st s input
      (core.runTool st w now token sid s tool args callId digest) := by
  have thinking := Frame.setState s .thinking none
  unfold runTool
  simp only
  split
  · simp only [runMemory, Bool.false_eq_true, if_false]
    split
    · exact effect_finish thinking before (by decide)
    · exact .worked _ (Frame.setState s .idle none) before (by simp [DeviceSession.setState]) rfl
        (Or.inl rfl) (by simp)
  split
  · simp only [runMemory, if_true]
    exact effect_finish thinking before (by decide)
  split
  · exact effect_finish thinking before (by decide)
  · rename_i hcaps
    generalize hr : ToolRouter.invoke core.catalog core.ttlSeconds now token w st.pending tool args none
      (some (s.setState .thinking none).sessionId) callId digest = r
    rcases invoke_cases hr with ⟨hp, he, e, hres⟩ | ⟨d, hd, hsafe, hp, he, hres⟩ |
      ⟨e, hrefusal, he, hres⟩ | ⟨d, record, hd, hsafe, hval, hprep, h1, h2, h3, h4, h5, hp, he, hres⟩
    · obtain ⟨c, t, heq⟩ := answerInvocation_error st sid _ tool callId hres
      rw [heq, he]
      exact .worked _ (Frame.setState s .idle _) before (by simp [DeviceSession.setState]) rfl
        (Or.inl hp) (by simp)
    · have harmless : ∀ e ∈ r.events, HarmlessEvent core now st s e := by
        intro e hmem
        rw [he, List.mem_singleton] at hmem
        exact Or.inl ⟨tool, args, d, hmem, hd, hsafe⟩
      rcases hres with ⟨e, hres⟩ | ⟨res, hres⟩
      · obtain ⟨c, t, heq⟩ := answerInvocation_error st sid _ tool callId hres
        rw [heq]
        exact .worked _ (Frame.setState s .idle _) before (by simp [DeviceSession.setState]) rfl
          (Or.inl hp) harmless
      · simp only [answerInvocation, hres]
        exact .worked _ (Frame.setState s .idle _) before (by simp [DeviceSession.setState]) rfl
          (Or.inl hp) harmless
    · obtain ⟨c, t, heq⟩ := answerInvocation_error st sid _ tool callId hres
      rw [heq]
      refine .worked _ (Frame.setState s .idle _) before (by simp [DeviceSession.setState]) rfl
        hrefusal.1 ?_
      intro e' hmem
      rw [finish_events, he, List.mem_singleton] at hmem
      refine Or.inr ⟨e, hmem, fun hlimit => ?_⟩
      obtain ⟨sid', hsid, hlen⟩ := hrefusal.2 hlimit
      rw [← Option.some.inj hsid] at hlen
      exact hlen
    · simp only [answerInvocation, hres]
      have hcan : canConfirm (s.setState .thinking none) = true := by
        simpa [hd, hsafe] using hcaps
      refine .requested _ record (Frame.setState s .confirm none) before ready
        (by simp [DeviceSession.setState]) ⟨h1, h2, h5, hcan, ?_, d, ?_, hsafe, ?_, ?_⟩ rfl hp he
      · rw [h3, h4]; exact asks
      · rw [h3]; exact hd
      · rw [h4]; exact hval
      · rw [h4]; exact hprep

/-- The session is written back before its input is looked at; writing it back again
makes no difference. -/
theorem Effect.of_save {o : Outcome}
    (h : Effect core w now token sid (st.save sid s) s input o) :
    Effect core w now token sid st s input o := by
  have hset (s' : DeviceSession) : (st.save sid s).sessions.set sid s' = st.sessions.set sid s' :=
    Dict.set_set
  cases h with
  | quiet s' frame same sessions pending events =>
    exact .quiet s' frame same (hset s' ▸ sessions) pending events
  | worked s' frame before after sessions pending events =>
    exact .worked s' frame before after (hset s' ▸ sessions) pending events
  | requested s' record frame before ready after request sessions pending events =>
    exact .requested s' record frame before ready after request (hset s' ▸ sessions) pending events
  | aborted s' frame after sent sessions pending events =>
    exact .aborted s' frame after sent (hset s' ▸ sessions) pending events
  | resolved s' cid accepted record frame after sent found live owner sessions pending events =>
    exact .resolved s' cid accepted record frame after sent found live owner (hset s' ▸ sessions) pending
      events
  | unmatched s' cid accepted frame after sent sessions pending events =>
    exact .unmatched s' cid accepted frame after sent (hset s' ▸ sessions) pending events

theorem validateBoundedText_eq {value bounded : PyStr} {n : Nat}
    (h : validateBoundedText value n = .ok bounded) : bounded = value :=
  (validateBoundedText_ok.mp h).1

theorem routeTranscript_effect {text : PyStr} (before : s.state ≠ .confirm)
    (ready : s.capabilitiesInitialized = true)
    (asks : ∀ i, core.intentOf w text = .ok (some i) → input.AsksFor core w i.toolName i.arguments) :
    Effect core w now token sid st s input
      (core.routeTranscript (st.save sid s) w now token sid s text) := by
  apply Effect.of_save
  have same : Frame s s := ⟨rfl, rfl, fun h => h⟩
  unfold routeTranscript
  split
  · exact effect_finish same before (by decide)
  · rename_i bounded hb
    obtain rfl := validateBoundedText_eq hb
    split
    · exact .quiet s same rfl Dict.set_set.symm rfl rfl
    · exact effect_finish same before (by decide)
    · rename_i i hi
      exact runTool_effect before ready (asks i hi)

theorem handleToolCall_effect {name : PyStr} {args : Object} {callId digest : Option PyStr}
    (before : s.state ≠ .confirm) (ready : s.capabilitiesInitialized = true)
    (asks : input.AsksFor core w name args) :
    Effect core w now token sid st s input
      (core.handleToolCall (st.save sid s) w now token sid s name args callId digest) := by
  apply Effect.of_save
  have same : Frame s s := ⟨rfl, rfl, fun h => h⟩
  unfold handleToolCall
  split
  · exact runTool_effect before ready asks
  · exact effect_finish same before (by decide)

/-- What `resolve_confirmation` returns: nothing to consume, or a record consumed and
its handler called at most once, with the captured arguments. -/
theorem resolveConfirmation_cases {catalog : ToolCatalog ω} {p : Pending} {cid : PyStr} {accepted : Bool}
    {ownerId : Option PyStr} {r : Routed Resolution}
    (h : ToolRouter.resolveConfirmation catalog now w p cid accepted ownerId = r) :
    (r.pending = p ∧ r.events = [] ∧ ∃ e, r.result = .error e) ∨
    (∃ record, p.get? cid = some record ∧ now < record.expiresAt ∧
      (record.ownerId = none ∨ record.ownerId = ownerId) ∧ r.pending = p.erase cid ∧
      (r.events = [] ∨ (accepted = true ∧ r.events = [.called record.toolName record.captured]))) := by
  unfold ToolRouter.resolveConfirmation at h
  split at h
  · subst h; exact Or.inl ⟨rfl, rfl, _, rfl⟩
  rename_i record p' hc
  obtain ⟨hget, hlive, howner, rfl⟩ := Pending.consume_ok hc
  refine Or.inr ⟨record, hget, hlive, howner, ?_⟩
  split at h
  · rename_i hacc
    split at h
    · subst h; exact ⟨rfl, Or.inl rfl⟩
    split at h
    · subst h; exact ⟨rfl, Or.inl rfl⟩
    rename_i d _ _ values hvalues
    obtain rfl := ToolRouter.executionValues_eq hvalues
    simp only [ToolRouter.execute] at h
    cases hh : d.handler w record.captured with
    | error e => rw [hh] at h; subst h; exact ⟨rfl, Or.inr ⟨hacc, rfl⟩⟩
    | ok res => rw [hh] at h; subst h; exact ⟨rfl, Or.inr ⟨hacc, rfl⟩⟩
  · subst h; exact ⟨rfl, Or.inl rfl⟩

/-- Whatever the answer to a `confirm`, the session ends idle, with the router's events;
a failure cancels what it still has pending. -/
theorem handleConfirm_shape (core : PipaCore ω) (st : State) (w : ω) (now : Int) (sid : PyStr)
    (s : DeviceSession) (cid : PyStr) (accepted : Bool) {r : Routed Resolution}
    (hr : ToolRouter.resolveConfirmation core.catalog now w st.pending cid accepted
      (some s.sessionId) = r) :
    ∃ p caption ms, core.handleConfirm st w now sid s cid accepted =
        finish { st with pending := p } sid s .idle caption [ms] r.events ∧
      (p = r.pending ∨ p = Pending.cancelForOwner r.pending s.sessionId) ∧
      ((∃ e, r.result = .error e) → p = Pending.cancelForOwner r.pending s.sessionId) := by
  unfold handleConfirm
  rw [hr]
  simp only
  split
  · split
    · exact ⟨_, _, _, rfl, Or.inr rfl, fun _ => rfl⟩
    · exact ⟨_, _, _, rfl, Or.inr rfl, fun _ => rfl⟩
  · rename_i hres
    exact ⟨_, _, _, rfl, Or.inl rfl, by rw [hres]; rintro ⟨e, he⟩; cases he⟩
  · rename_i hres
    exact ⟨_, _, _, rfl, Or.inl rfl, by rw [hres]; rintro ⟨e, he⟩; cases he⟩

theorem handleConfirm_effect {cid : PyStr} {accepted : Bool}
    (sent : input = .message (.confirm cid accepted)) :
    Effect core w now token sid st s input
      (core.handleConfirm (st.save sid s) w now sid s cid accepted) := by
  apply Effect.of_save
  generalize hr : ToolRouter.resolveConfirmation core.catalog now w (st.save sid s).pending cid accepted
    (some s.sessionId) = r
  obtain ⟨p, caption, ms, heq, hp, hfail⟩ := handleConfirm_shape core (st.save sid s) w now sid s cid
    accepted hr
  rw [heq]
  have frame := Frame.setState s .idle caption
  have after : (s.setState .idle caption).state ≠ .confirm := by simp [DeviceSession.setState]
  rcases resolveConfirmation_cases hr with ⟨hrp, hre, hres⟩ | ⟨record, hget, hlive, howner, hrp, hre⟩
  · refine .unmatched _ cid accepted frame after sent rfl ?_ hre
    simp only [finish_pending]
    rw [hfail hres, hrp]
  · refine .resolved _ cid accepted record frame after sent hget hlive howner rfl ?_ hre
    simp only [finish_pending]
    rwa [hrp] at hp

theorem handleReady_effect {m : ClientMessage}
    (ready : s.capabilitiesInitialized = true ∨ m = .abort)
    (gate : s.state ≠ .confirm ∨ passesConfirmGate m = true) :
    Effect core w now token sid st s (.message m) (core.handleReady st w now token sid s m) := by
  have same : Frame s s := ⟨rfl, rfl, fun h => h⟩
  have quiet (m' : ServerMessage) :
      Effect core w now token sid st s (.message m) (reply (st.save sid s) [m']) :=
    .quiet s same rfl rfl rfl rfl
  have before (h : passesConfirmGate m = false) : s.state ≠ .confirm :=
    gate.resolve_right (by rw [h]; decide)
  have initialized (h : m ≠ .abort) : s.capabilitiesInitialized = true := ready.resolve_right h
  cases m with
  | wake => exact effect_finish same (before rfl) (by decide)
  | holdStart => exact effect_finish same (before rfl) (by decide)
  | holdEnd => exact effect_finish same (before rfl) (by decide)
  | audioEnd => exact effect_finish same (before rfl) (by decide)
  | abort =>
    exact .aborted _ (Frame.setState s .idle none) (by simp [DeviceSession.setState]) rfl rfl rfl rfl
  | textInput text source =>
    exact routeTranscript_effect (before rfl) (initialized (by simp)) (fun i hi => ⟨i, hi, rfl, rfl⟩)
  | toolCall name args callId digest =>
    exact handleToolCall_effect (before rfl) (initialized (by simp)) ⟨rfl, rfl⟩
  | confirm cid accepted => exact handleConfirm_effect rfl
  | _ => exact quiet _

theorem handleGated_effect {m : ClientMessage} (late : isPreHello m = true → m = .abort) :
    Effect core w now token sid st s (.message m) (core.handleGated st w now token sid s m) := by
  have quiet (ms : List ServerMessage) :
      Effect core w now token sid st s (.message m) (reply (st.save sid s) ms) :=
    .quiet s ⟨rfl, rfl, fun h => h⟩ rfl rfl rfl rfl
  unfold handleGated
  split
  · exact quiet _
  · rename_i hready
    split
    · exact quiet _
    · split
      · exact quiet _
      · rename_i hgate
        apply handleReady_effect
        · cases hi : s.capabilitiesInitialized with
          | true => exact Or.inl rfl
          | false => exact Or.inr (late (by simpa [hi] using hready))
        · by_cases hs : s.state = .confirm
          · exact Or.inr (by simpa [hs] using hgate)
          · exact Or.inl hs

/-- Nothing but the effects above comes of a message of a registered session. -/
theorem handleSession_effect {m : ClientMessage} :
    Effect core w now token sid st s (.message m) (core.handleSession st w now token sid s m) := by
  cases m with
  | ping requestId => exact .quiet s ⟨rfl, rfl, fun h => h⟩ rfl rfl rfl rfl
  | deviceStatus a b c =>
    exact .quiet { s with audioState := a, batteryPercent := b, wifiRssi := c }
      ⟨rfl, rfl, fun h => h⟩ rfl rfl rfl rfl
  | deviceHello v c =>
    simp only [handleSession]
    split
    · exact .quiet s ⟨rfl, rfl, fun h => h⟩ rfl rfl rfl rfl
    · exact .quiet { s with firmwareVersion := v, capabilities := c, capabilitiesInitialized := true }
        ⟨rfl, rfl, fun _ => rfl⟩ rfl rfl rfl rfl
  | _ => exact handleGated_effect (by simp [isPreHello])

/-- The same for a transcript. -/
theorem handleTranscript_effect {clock : Clock} {text : PyStr} {s₀ : DeviceSession}
    (hs : st.sessions.get? sid = some s₀) :
    Effect core w clock.act token sid st (s₀.touch clock.touch) (.transcript text)
      (core.handleTranscript st w clock token sid text) := by
  simp only [handleTranscript, hs]
  split
  · exact .quiet _ ⟨rfl, rfl, fun h => h⟩ rfl rfl rfl rfl
  · rename_i hready
    split
    · exact .quiet _ ⟨rfl, rfl, fun h => h⟩ rfl rfl rfl rfl
    · rename_i hstate
      exact routeTranscript_effect hstate (by simpa using hready) (fun i hi => ⟨i, hi, rfl, rfl⟩)

end PipaCore

end

end Pipa.Core
