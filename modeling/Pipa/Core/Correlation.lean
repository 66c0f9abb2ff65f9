import Pipa.Core.Replies

/- The `call_id` of a tool call in what answers it, at once or after the confirmation it asked for.
   A result of the router carries it, and so does the record of a confirmation and whatever resolves
   it. The two memory tools never reach the router: `_run_tool` answers them itself and passes no
   `call_id` on (`DropsCallId`). -/
namespace Pipa.Core
open Pipa.Lib

variable {ω : Type} {core : PipaCore ω}

/-- The inputs that may lead to a tool: a tool call or a text. -/
def Input.isRequest : Input → Bool
  | .message (.toolCall ..) | .message (.textInput ..) | .transcript _ => true
  | _ => false

/-- The messages that answer `op`, taken after `pre` in the run `ops`: those it returned, and those a
later `confirm` of a confirmation it asked for returned. -/
inductive Answers (core : PipaCore ω) (ops pre : List (Op ω)) (op : Op ω) (m : ServerMessage) : Prop where
  | now (told : m ∈ ((machine core).out pre op).messages)
  | later (mid post : List (Op ω)) (sid cid : PyStr) (accepted : Bool) (w : ω) (token : PyStr) (clock : Clock)
      (whole : ops = (pre ++ op :: mid) ++ .handle sid (.confirm cid accepted) w token clock :: post)
      (toolName summary : PyStr) (expiresAt : Int) (callId requestDigest : Option PyStr)
      (asked : .confirmRequest cid toolName summary expiresAt callId requestDigest ∈
        ((machine core).out pre op).messages)
      (told : m ∈ ((machine core).out (pre ++ op :: mid) (.handle sid (.confirm cid accepted) w token clock)).messages)

/-- A confirmation request and a tool result carry `callId`. -/
def Correlated (callId : Option PyStr) : ServerMessage → Prop
  | .confirmRequest _ _ _ _ c _ | .toolResult _ _ _ c => c = callId
  | _ => True

/-- `remember` takes the fact: it is not blank, not too long, and there is room for the device. -/
def Storable (memory : MemoryStore) (deviceId fact : PyStr) : Prop :=
  fact.isBlank = false ∧ fact.length ≤ maxFactLength ∧
    (memory.get? deviceId ≠ none ∨ memory.size < maxMemoryDevices)

/-- The operation calls a memory tool under a `call_id`, in a session that may call one, and the
tool has something to answer. -/
def DropsCallId (core : PipaCore ω) (st : State) : Op ω → Prop
  | .handle sid (.toolCall name arguments (some _) requestDigest) _ _ clock =>
    isMemoryTool name = true ∧ core.digestMatches name arguments requestDigest = true ∧
    ∃ s, st.sessions.get? sid = some s ∧ s.stale clock.prune = false ∧ s.capabilitiesInitialized = true ∧
      s.state ≠ .confirm ∧
      (name = PyStr.ofString "remember_fact" → Storable st.memory s.deviceId (core.factOf arguments))
  | _ => False

theorem remember_isSome {memory : MemoryStore} {deviceId fact : PyStr} :
    (memory.remember deviceId fact).isSome = true ↔ Storable memory deviceId fact := by
  unfold MemoryStore.remember Storable
  by_cases hblank : fact.isBlank = true
  · simp [hblank]
  by_cases hlen : fact.length > maxFactLength
  · simp [hlen]
  by_cases hroom : memory.get? deviceId = none ∧ memory.size ≥ maxMemoryDevices
  · simp [hblank, hlen, hroom]
  · have hblank' : fact.isBlank = false := by simpa using hblank
    have hroom' : memory.get? deviceId ≠ none ∨ memory.size < maxMemoryDevices := by
      by_cases hdev : memory.get? deviceId = none
      · exact Or.inr (by simpa [hdev] using hroom)
      · exact Or.inl hdev
    simp [hblank', hlen, hroom, hroom', Nat.le_of_not_lt hlen]

@[simp] theorem pruneStale_memory {st : State} {now : Int} :
    (PipaCore.pruneStaleSessions st now).memory = st.memory := by
  have hfold (ids : List PyStr) (st : State) : (ids.foldl State.cancelPending st).memory = st.memory := by
    induction ids generalizing st with
    | nil => rfl
    | cons a ids ih => exact ih _
  simp only [PipaCore.pruneStaleSessions, hfold]

/-! ## The memory tools -/

section
variable {st : State} {w : ω} {now : Int} {token sid : PyStr} {s : DeviceSession} {name : PyStr} {arguments : Object}
  {callId requestDigest : Option PyStr}

/-- An initialised session without a pending confirmation gets its call to `_run_tool`, if the digest is right. -/
theorem handleSession_toolCall (ready : s.capabilitiesInitialized = true) (calm : s.state ≠ .confirm)
    (hdigest : core.digestMatches name arguments requestDigest = true) :
    core.handleSession st w now token sid s (.toolCall name arguments callId requestDigest) =
      core.runTool (st.save sid s) w now token sid s name arguments callId requestDigest := by
  simp [PipaCore.handleSession, PipaCore.handleGated, PipaCore.isPreHello, PipaCore.passesConfirmGate,
    PipaCore.handleReady, PipaCore.handleToolCall, ready, calm, hdigest]

/-- The messages of a call that was refused: an error, and the state the session is in. -/
def ServerMessage.isRefusal : ServerMessage → Bool
  | .error .. | .uiState .. => true
  | _ => false

/-- Otherwise it gets an error. -/
theorem handleSession_toolCall_refused
    (h : ¬ (s.capabilitiesInitialized = true ∧ s.state ≠ .confirm ∧
      core.digestMatches name arguments requestDigest = true)) {m : ServerMessage}
    (hm : m ∈ (core.handleSession st w now token sid s (.toolCall name arguments callId requestDigest)).messages) :
    m.isRefusal = true := by
  by_cases ready : s.capabilitiesInitialized = true
  · by_cases calm : s.state = .confirm
    · simp [PipaCore.handleSession, PipaCore.handleGated, PipaCore.isPreHello, PipaCore.passesConfirmGate, ready, calm,
        reply, PipaCore.confirmationRequired, Outcome.messages] at hm
      obtain rfl | rfl := hm <;> rfl
    · have hdigest : core.digestMatches name arguments requestDigest = false := by
        simpa [ready, calm] using h
      simp [PipaCore.handleSession, PipaCore.handleGated, PipaCore.isPreHello, PipaCore.passesConfirmGate, ready, calm,
        PipaCore.handleReady, PipaCore.handleToolCall, hdigest, PipaCore.finish, Outcome.messages] at hm
      obtain rfl | rfl := hm <;> rfl
  · simp [PipaCore.handleSession, PipaCore.handleGated, PipaCore.isPreHello, ready, reply, Outcome.messages] at hm
    rw [hm]
    rfl

/-- A memory tool that has something to answer answers without a `call_id`. -/
theorem runTool_memory {st' : State} (hmem : isMemoryTool name = true)
    (hstored : name = PyStr.ofString "remember_fact" → Storable st'.memory s.deviceId (core.factOf arguments)) :
    ∃ success, .toolResult name .completed success none ∈
      (core.runTool st' w now token sid s name arguments callId requestDigest).messages := by
  unfold PipaCore.runTool
  simp only
  split
  · rename_i hname
    obtain ⟨⟨memory, result⟩, hsome⟩ := Option.isSome_iff_exists.mp (remember_isSome.mpr (hstored hname))
    rw [PipaCore.runMemory_fact]
    simp only [DeviceSession.setState, hsome, PipaCore.finish, Outcome.messages, deviceToolResult, hname]
    exact ⟨_, List.mem_cons_self⟩
  · rename_i hname
    have hrecall : name = PyStr.ofString "recall_memory" := by simpa [isMemoryTool, hname] using hmem
    rw [if_pos hrecall]
    simp only [PipaCore.runMemory, if_true, PipaCore.finish, Outcome.messages, deviceToolResult, hrecall]
    exact ⟨_, List.mem_cons_self⟩

end

/-! ## Answers -/

section
variable {st : State} {w : ω} {clock : Clock} {token sid name : PyStr} {arguments : Object}
  {callId requestDigest : Option PyStr} {m : ServerMessage}

/-- `handle` of a registered session. -/
theorem handle_registered {s : DeviceSession} {m : ClientMessage}
    (hs : (PipaCore.pruneStaleSessions st clock.prune).sessions.get? sid = some s) :
    core.handle st w clock token sid m =
      core.handleSession (PipaCore.pruneStaleSessions st clock.prune) w clock.act token sid (s.touch clock.touch) m := by
  simp only [PipaCore.handle, hs]

/-- A memory tool that answers a tool call under a `call_id` drops it. -/
theorem handle_drops {c : PyStr}
    (h : DropsCallId core st (.handle sid (.toolCall name arguments (some c) requestDigest) w token clock)) :
    ∃ success, .toolResult name .completed success none ∈
      (core.handle st w clock token sid (.toolCall name arguments (some c) requestDigest)).messages := by
  obtain ⟨hmem, hdigest, s, hs, hlive, ready, calm, hstored⟩ := h
  have hready : (s.touch clock.touch).capabilitiesInitialized = true := ready
  have hcalm : (s.touch clock.touch).state ≠ .confirm := calm
  rw [handle_registered (pruneStale_sessions.mpr ⟨hs, hlive⟩), handleSession_toolCall hready hcalm hdigest]
  refine runTool_memory hmem ?_
  simpa only [State.save, pruneStale_memory, DeviceSession.touch] using hstored

/-- A tool call that is answered with more than an error and the state got as far as `_run_tool`. -/
theorem handle_ran {s : DeviceSession} (hs : (PipaCore.pruneStaleSessions st clock.prune).sessions.get? sid = some s)
    (hm : m ∈ (core.handle st w clock token sid (.toolCall name arguments callId requestDigest)).messages)
    (hanswer : m.isRefusal = false) :
    s.capabilitiesInitialized = true ∧ s.state ≠ .confirm ∧ core.digestMatches name arguments requestDigest = true := by
  rw [handle_registered hs] at hm
  by_cases hran : (s.touch clock.touch).capabilitiesInitialized = true ∧ (s.touch clock.touch).state ≠ .confirm ∧
      core.digestMatches name arguments requestDigest = true
  · exact hran
  · rw [handleSession_toolCall_refused hran hm] at hanswer
    cases hanswer

end

section
variable {op : Op ω} {st : State} {sid token : PyStr} {input : Input} {w : ω} {m : ServerMessage}

/-- An operation's message is one of the unknown-session error, what its input is answered with, or a UI state. -/
theorem Op.mem_messages (given : op.input? = some (sid, input, w, token)) (hm : m ∈ (op.apply core st).messages) :
    (∃ code text, m = .error code text) ∨ (∃ s : DeviceSession, m = s.uiMessage) ∨
    ∃ s, (op.base st).sessions.get? sid = some s ∧
      Said core w op.clock.act token (op.base st) (s.touch op.clock.touch) input (op.apply core st).events m := by
  obtain ⟨hunknown, -⟩ | ⟨s, hs, hreply⟩ := Op.apply_reply core st given
  · rw [Outcome.messages, hunknown, List.mem_singleton] at hm
    exact Or.inl ⟨_, _, hm⟩
  · obtain hsaid | ⟨s', -, -, h⟩ := hreply.mem hm
    · exact Or.inr (Or.inr ⟨s, hs, hsaid⟩)
    · exact Or.inr (Or.inl ⟨s', h⟩)

/-- A result without the `call_id` of its call is a memory tool's. -/
theorem drops_of_remembered (given : op.input? = some (sid, input, w, token)) {tool : PyStr} {arguments : Object}
    {status : ToolStatus} {success : Bool} {c : Option PyStr} {s : DeviceSession}
    (hs : (op.base st).sessions.get? sid = some s) (asks : input.AsksFor core w tool arguments)
    (hmem : isMemoryTool tool = true)
    (hstored : tool = PyStr.ofString "remember_fact" →
      ((op.base st).memory.remember s.deviceId (core.factOf arguments)).isSome)
    (hm : .toolResult tool status success c ∈ (op.apply core st).messages) (hcall : input.callId ≠ none) :
    DropsCallId core st op := by
  cases op with
  | handle sid' m' w' token' clock =>
    simp only [Op.input?, Option.some.injEq, Prod.mk.injEq] at given
    obtain ⟨rfl, rfl, rfl, rfl⟩ := given
    cases m' with
    | toolCall name args callId requestDigest =>
      obtain ⟨rfl, rfl⟩ := asks
      cases callId with
      | none => exact absurd rfl hcall
      | some c =>
        obtain ⟨ready, calm, hdigest⟩ := handle_ran hs hm rfl
        obtain ⟨hs₀, hlive⟩ := pruneStale_sessions.mp hs
        refine ⟨hmem, hdigest, s, hs₀, hlive, ready, calm, fun hname => ?_⟩
        have hsome := remember_isSome.mp (hstored hname)
        simpa only [Op.base, pruneStale_memory] using hsome
    | _ => exact absurd rfl hcall
  | handleTranscript sid' text w' token' clock =>
    simp only [Op.input?, Option.some.injEq, Prod.mk.injEq] at given
    obtain ⟨rfl, rfl, rfl, rfl⟩ := given
    exact absurd rfl hcall
  | _ => cases given

/-- The answer given at once carries the `call_id`, memory tools aside. -/
theorem correlated_now (given : op.input? = some (sid, input, w, token)) (hrequest : input.isRequest = true)
    (hkeeps : ¬ DropsCallId core st op) (hm : m ∈ (op.apply core st).messages) : Correlated input.callId m := by
  obtain ⟨code, text, rfl⟩ | ⟨s', rfl⟩ | ⟨s, hs, hsaid⟩ := Op.mem_messages given hm
  · trivial
  · trivial
  cases hsaid with
  | error code text known => trivial
  | noted _ known => obtain rfl | rfl | rfl | ⟨g, rfl⟩ := known <;> trivial
  | pong requestId sent => trivial
  | listed commands capabilities sent given => trivial
  | asked record request callId requestDigest created => exact callId
  | called d tool arguments result asks registered safe ran => rfl
  | resolved cid accepted record status result sent found =>
    subst sent
    cases hrequest
  | remembered tool arguments result asks memory stored =>
    by_contra hne
    exact hkeeps (drops_of_remembered given hs asks memory stored hm (fun h => hne h.symm))

/-- A confirmation is asked for under the id its operation drew. -/
theorem asked_token (given : op.input? = some (sid, input, w, token)) {cid toolName summary : PyStr} {expiresAt : Int}
    {callId requestDigest : Option PyStr}
    (hm : .confirmRequest cid toolName summary expiresAt callId requestDigest ∈ (op.apply core st).messages) :
    cid = token := by
  generalize hmsg : ServerMessage.confirmRequest cid toolName summary expiresAt callId requestDigest = m' at hm
  obtain ⟨code, text, rfl⟩ | ⟨s', rfl⟩ | ⟨s, hs, hsaid⟩ := Op.mem_messages given hm
  · cases hmsg
  · cases hmsg
  cases hsaid with
  | asked record request callId requestDigest created =>
    injection hmsg with hcid
    rw [hcid, request.id]
  | noted _ known =>
    subst hmsg
    obtain h | h | h | ⟨g, h⟩ := known <;> cases h
  | _ => cases hmsg

end

/-- The answer to a later `confirm` carries the `call_id` of the record, which is that of the call. -/
theorem correlated_later {pre mid : List (Op ω)} {op : Op ω} {sid token : PyStr} {input : Input} {w : ω}
    {m : ServerMessage} (hfresh : FreshConfirmations (pre ++ op :: mid))
    (given : op.input? = some (sid, input, w, token)) {sid' : PyStr} {accepted : Bool} {w' : ω} {token' : PyStr}
    {clock : Clock}
    (hm : m ∈ ((Op.handle sid' (.confirm token accepted) w' token' clock).apply core
      ((machine core).run (pre ++ op :: mid))).messages) :
    Correlated input.callId m := by
  obtain ⟨code, text, rfl⟩ | ⟨s', rfl⟩ | ⟨s, hs, hsaid⟩ := Op.mem_messages rfl hm
  · trivial
  · trivial
  cases hsaid with
  | error code text known => trivial
  | noted _ known => obtain rfl | rfl | rfl | ⟨g, rfl⟩ := known <;> trivial
  | pong requestId sent => trivial
  | listed commands capabilities sent given => trivial
  | asked record request callId requestDigest created => exact request.asked.elim
  | called d tool arguments result asks registered safe ran => exact asks.elim
  | remembered tool arguments result asks memory stored => exact asks.elim
  | resolved cid accepted' record status result sent found =>
    injection sent with sent
    injection sent with hcid
    subst hcid
    obtain ⟨pre', op', post', hsplit, sid'', input', w'', s'', given', -, hcall, -, -⟩ :=
      stored_asked core _ (Op.base_le found)
    obtain ⟨-, rfl⟩ := hfresh.unique rfl hsplit (Op.token_of_input given) (Op.token_of_input given')
    rw [given] at given'
    obtain ⟨-, rfl, -, -⟩ : sid = sid'' ∧ input = input' ∧ w = w'' ∧ token = token := by
      simpa using given'
    exact hcall

/-- For every run and every request in it: what answers the request, at once or after the later
`confirm`, carries its `call_id` (and none if it has none), unless a memory tool answers it. -/
theorem call_id_correlated (core : PipaCore ω) (ops pre post : List (Op ω)) (op : Op ω) (sid token : PyStr)
    (input : Input) (w : ω) (hfresh : FreshConfirmations ops) (hops : ops = pre ++ op :: post)
    (given : op.input? = some (sid, input, w, token)) (hrequest : input.isRequest = true) :
    (∀ m, Answers core ops pre op m → Correlated input.callId m) ↔ ¬ DropsCallId core ((machine core).run pre) op := by
  constructor
  · intro hall hdrops
    cases op with
    | handle sid' m w' token' clock =>
      cases m with
      | toolCall name arguments callId requestDigest =>
        cases callId with
        | none => exact hdrops
        | some c =>
          obtain ⟨success, htold⟩ := handle_drops hdrops
          simp only [Op.input?, Option.some.injEq, Prod.mk.injEq] at given
          obtain ⟨-, rfl, -, -⟩ := given
          cases hall _ (.now htold)
      | _ => exact hdrops
    | _ => exact hdrops
  · intro hkeeps m hanswer
    cases hanswer with
    | now told => exact correlated_now given hrequest hkeeps told
    | later mid post sid' cid accepted w' token' clock whole toolName summary expiresAt callId requestDigest asked told =>
      obtain rfl := asked_token given asked
      rw [whole] at hfresh
      exact correlated_later hfresh.of_append given told

/-! ## A call of a tool that asks, and one of the memory -/

/-- A phone calls `tool` under a `call_id`. -/
def callOp (tool : String) : Op Unit :=
  .handle (PyStr.ofString "s") (.toolCall (PyStr.ofString tool) [] (some (PyStr.ofString "request-42")) none) ()
    (PyStr.ofString "c") ⟨110, 110, 110⟩

def phoneOp : Op Unit :=
  .create (PyStr.ofString "phone") none [PyStr.ofString "display", PyStr.ofString "touch"] true (PyStr.ofString "s")
    ⟨100, 100, 100⟩

def confirmOp : Op Unit :=
  .handle (PyStr.ofString "s") (.confirm (PyStr.ofString "c") true) () (PyStr.ofString "d") ⟨120, 120, 120⟩

/-- The lock is asked for and confirmed under its `call_id`. -/
theorem call_id_correlated_lock :
    FreshConfirmations [phoneOp, callOp "system_lock", confirmOp] ∧
      ∀ m, Answers lockCore [phoneOp, callOp "system_lock", confirmOp] [phoneOp] (callOp "system_lock") m →
        Correlated (some (PyStr.ofString "request-42")) m := by
  have hfresh : FreshConfirmations [phoneOp, callOp "system_lock", confirmOp] := by unfold FreshConfirmations; decide
  refine ⟨hfresh, ?_⟩
  refine (call_id_correlated lockCore _ [phoneOp] [confirmOp] (callOp "system_lock") _ _ _ _ hfresh rfl rfl rfl).mpr ?_
  rintro ⟨hmem, -⟩
  revert hmem
  decide

/-- What is recalled comes without it. -/
theorem recall_without_call_id :
    ¬ ∀ m, Answers lockCore [phoneOp, callOp "recall_memory"] [phoneOp] (callOp "recall_memory") m →
      Correlated (some (PyStr.ofString "request-42")) m := by
  intro hall
  have hdrops : DropsCallId lockCore ((machine lockCore).run [phoneOp]) (callOp "recall_memory") :=
    ⟨by decide, rfl, _, rfl, rfl, rfl, nofun, fun h => absurd h (by decide)⟩
  obtain ⟨success, htold⟩ := handle_drops hdrops
  cases hall _ (.now htold)

end Pipa.Core
