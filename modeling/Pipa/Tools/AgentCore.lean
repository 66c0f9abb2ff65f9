import Pipa.Core.Correlation
import Pipa.Tools.IntentTools

/- The Core over the tools of the agent: the intents of a text fit the tools, and a tool
   call with an internal name in its arguments is refused before its tool does anything.
   The two memory tools are not in the catalog, and have no validator. -/
namespace Pipa.Tools
open Pipa.Lib Pipa.Core Pipa.Intents

variable {ω : Type} {core : PipaCore ω} {web : Web} {adapters : String → Adapter ω}

/-- `PipaCore` over the tools of the agent. -/
def agentCore (core : PipaCore ω) (web : Web) (adapters : String → Adapter ω) : PipaCore ω :=
  { core with catalog := buildAgentCatalog web adapters }

/-! ## Internal names -/

section
variable {st : State} {w : ω} {now : Int} {token sid name : PyStr} {s : DeviceSession} {arguments : Object}
  {callId requestDigest : Option PyStr}

/-- Whether the table has the tool as unsafe, whatever the tool does. -/
def isUnsafe (web : Web) (name : PyStr) : Bool :=
  (agentTools web).any (fun tool => PyStr.ofString tool.name = name ∧ tool.safety = .unsafeTool)

theorem catalog_unsafe :
    ((buildAgentCatalog web adapters).get? name).any (fun d => d.safety == .unsafeTool) = isUnsafe web name := by
  rw [Bool.eq_iff_iff, isUnsafe, List.any_eq_true, Option.any_eq_true]
  constructor
  · rintro ⟨d, hd, hsafety⟩
    obtain ⟨tool, htool, heq⟩ := List.mem_map.mp (Dict.get?_eq_some.mp hd)
    obtain ⟨hname, rfl⟩ := Prod.mk.inj heq
    exact ⟨tool, htool, decide_eq_true ⟨hname, eq_of_beq hsafety⟩⟩
  · rintro ⟨tool, htool, h⟩
    obtain ⟨hname, hsafety⟩ := of_decide_eq_true h
    refine ⟨tool.definition (adapters tool.name), Dict.get?_eq_some.mpr ?_, beq_iff_eq.mpr hsafety⟩
    rw [← hname]
    exact List.mem_map_of_mem htool

/-- A call with an internal name gets an error from `_run_tool`, and nothing has happened. -/
theorem runTool_internal (hname : isMemoryTool name = false)
    (hinternal : ∃ key ∈ arguments.keys, isInternal key = true) :
    (agentCore core web adapters).runTool st w now token sid s name arguments callId requestDigest =
      if isUnsafe web name && !PipaCore.canConfirm (s.setState .thinking none) then
        PipaCore.finish st sid (s.setState .thinking none) .idle
          (some (PyStr.ofString "Falta la pantalla táctil de confirmación."))
          [errorMessage .confirmationUnavailable "La acción requiere pantalla y toque disponibles."] []
      else PipaCore.finish st sid (s.setState .thinking none) .idle
        (some (PyStr.ofString "No he podido ejecutar esa acción."))
        [errorMessage .toolFailed "No he podido ejecutar esa acción."] [] := by
  simp only [isMemoryTool, Bool.or_eq_false_iff, decide_eq_false_iff_not] at hname
  obtain ⟨hfact, hrecall⟩ := hname
  have hinvoke (sessionId : PyStr) : ∃ e : Exn, e.isRefusal = true ∧
      ToolRouter.invoke (buildAgentCatalog web adapters) core.ttlSeconds now token w st.pending name arguments none
        (some sessionId) callId requestDigest = ⟨st.pending, [], .error e⟩ := invoke_internal hinternal
  obtain ⟨e, hrefusal, hinvoke⟩ := hinvoke (s.setState .thinking none).sessionId
  simp only [PipaCore.runTool, if_neg hfact, if_neg hrecall, agentCore, catalog_unsafe, hinvoke,
    PipaCore.answerInvocation, hrefusal, if_true]

/-- The outcome is an error, without an event. -/
def Refused (o : Outcome) : Prop :=
  (∃ code text rest, o.result = .ok (.error code text :: rest)) ∧ o.events = []

theorem finish_refused {state : UiState} {caption : Option PyStr} {code : ErrorCode} {text : String} :
    Refused (PipaCore.finish st sid s state caption [errorMessage code text] []) :=
  ⟨⟨code, _, _, rfl⟩, rfl⟩

/-- A call with an internal name is refused, in the same way whatever the tools do. -/
theorem handle_internal {clock : Clock} (hname : isMemoryTool name = false)
    (hinternal : ∃ key ∈ arguments.keys, isInternal key = true) (others : String → Adapter ω) :
    Refused ((agentCore core web adapters).handle st w clock token sid
        (.toolCall name arguments callId requestDigest)) ∧
      (agentCore core web adapters).handle st w clock token sid (.toolCall name arguments callId requestDigest) =
        (agentCore core web others).handle st w clock token sid
          (.toolCall name arguments callId requestDigest) := by
  cases hs : (PipaCore.pruneStaleSessions st clock.prune).sessions.get? sid with
  | none =>
    simp only [PipaCore.handle, hs, and_true]
    exact ⟨⟨_, _, _, rfl⟩, rfl⟩
  | some s =>
    rw [handle_registered hs, handle_registered hs]
    simp only [PipaCore.handleSession, PipaCore.handleGated]
    split
    · exact ⟨⟨⟨_, _, _, rfl⟩, rfl⟩, rfl⟩
    split
    · exact ⟨⟨⟨_, _, _, rfl⟩, rfl⟩, rfl⟩
    simp only [PipaCore.handleReady, PipaCore.handleToolCall]
    have hdigest : (agentCore core web adapters).digestMatches name arguments requestDigest =
        (agentCore core web others).digestMatches name arguments requestDigest := rfl
    rw [hdigest]
    split
    · rw [runTool_internal hname hinternal, runTool_internal hname hinternal]
      refine ⟨?_, rfl⟩
      split
      · exact finish_refused
      · exact finish_refused
    · exact ⟨finish_refused, rfl⟩

end

/-! ## Intents and tools -/

/-- What is left to the validator of a tool. -/
def LeftToCheck (text : PyStr) (r : Rejection) : Prop :=
  (r.ground? = some .length ∨ r.ground? = some .range ∨ r.ground? = some .destination) ∨
    r.ground? = some .characters ∧ ∃ c ∈ text, refusedCharacter c = true

/-- An intent of a text is for a tool of the catalog and has the arguments the tool asks for, so that its validator
rejects it only for a length, a range or a destination, or for a character of the text, of which a bounded text has
none; and a tool call with an internal name is refused before its tool does anything. -/
theorem intents_fit_tools (u : Unicode) (hu : u.Spaced) (ω : Type) (core : PipaCore ω) (web : Web)
    (adapters : String → Adapter ω) :
    (∀ text i, parseTextIntent u text = .ok (some i) → ∃ tool ∈ agentTools web,
      (buildAgentCatalog web adapters).get? i.toolName = some (tool.definition (adapters tool.name)) ∧
      tool.validator.Fits text i.arguments ∧
      ∀ r, tool.validator.validate i.arguments = .error r → LeftToCheck text r) ∧
    (∀ text maximum, validateBoundedText text maximum = .ok text → ∀ c ∈ text, refusedCharacter c = false) ∧
    ∀ st w clock token sid name arguments callId requestDigest, isMemoryTool name = false →
      (∃ key ∈ Object.keys arguments, isInternal key = true) →
      Refused ((agentCore core web adapters).handle st w clock token sid
        (.toolCall name arguments callId requestDigest)) ∧
      ∀ others, (agentCore core web adapters).handle st w clock token sid
          (.toolCall name arguments callId requestDigest) =
        (agentCore core web others).handle st w clock token sid
          (.toolCall name arguments callId requestDigest) := by
  refine ⟨?_, fun text maximum h => refusedCharacter_bounded h, ?_⟩
  · intro text i hi
    have hintent : IntentFits web text i := parseTextIntent_fits hu hi
    obtain ⟨tool, htool, hname, hfits⟩ := hintent
    refine ⟨tool, htool, ?_, hfits, fun r hr => hfits.rejected hr⟩
    rw [← hname]
    exact Dict.get?_eq_some.mpr (List.mem_map_of_mem htool)
  · intro st w clock token sid name arguments callId requestDigest hname hinternal
    exact ⟨(handle_internal hname hinternal adapters).1, fun others => (handle_internal hname hinternal others).2⟩

/-! ## Latin-1 -/

theorem spaced_latin1 : Unicode.latin1.Spaced where
  sameLetter a c h := by
    have hlower : Unicode.lowerLatin a = Unicode.lowerLatin c := of_decide_eq_true h
    rw [← Unicode.isSpace_lowerLatin c, ← hlower, Unicode.isSpace_lowerLatin]
  digit c h := (lawful_latin1.plain c h).1
  empty := rfl

/-- Latin-1 texts, and a browser that takes every address. -/
def latinWeb : Web where
  tables := ⟨Unicode.latin1, fun _ => .other, some⟩
  python := ⟨Unicode.latin1, .default, fun _ => 0⟩
  urlencode name value := some (PyStr.ofString name ++ CodePoint.ofChar '=' :: value)

/-- Tools that do nothing. -/
def idleAdapter (_ : String) : Adapter Unit := ⟨fun _ _ => .ok [], fun _ _ => .ok (.str []), none⟩

/-- The name of an application with a delete character at its end. -/
def appText : PyStr := PyStr.ofString "Abre app  a" ++ [Unicode.point 0x7F]

def appIntent : ParsedIntent :=
  intent "open_app" [("app", .str [CodePoint.ofChar 'a', Unicode.point 0x7F])]

theorem appText_parsed : parseTextIntent Unicode.latin1 appText = .ok (some appIntent) := by rfl

/-- A call with an internal name. -/
def internalCall (name : String) : ClientMessage :=
  .toolCall (PyStr.ofString name) [(PyStr.ofString "_automatic_send", .bool true)] none none

theorem intents_fit_tools_app :
    (∃ tool ∈ agentTools latinWeb,
      (buildAgentCatalog latinWeb idleAdapter).get? (PyStr.ofString "open_app") =
        some (tool.definition (idleAdapter tool.name)) ∧
      tool.validator.Fits appText appIntent.arguments) ∧
    Refused ((agentCore lockCore latinWeb idleAdapter).handle State.initial () ⟨100, 100, 100⟩
      (PyStr.ofString "c") (PyStr.ofString "s") (internalCall "open_app")) := by
  obtain ⟨hparsed, -, hcalls⟩ := intents_fit_tools Unicode.latin1 spaced_latin1 Unit lockCore latinWeb idleAdapter
  refine ⟨?_, ?_⟩
  · obtain ⟨tool, htool, hget, hfits, -⟩ := hparsed _ _ appText_parsed
    exact ⟨tool, htool, hget, hfits⟩
  · refine (hcalls _ _ _ _ _ _ _ _ _ rfl ?_).1
    exact ⟨PyStr.ofString "_automatic_send", List.mem_cons_self, rfl⟩

/-- The validator refuses that name for its character; and `recall_memory` answers a call with an internal name. -/
theorem delete_character_rejected :
    (¬ ∀ text i, parseTextIntent Unicode.latin1 text = .ok (some i) →
      ∀ tool ∈ agentTools latinWeb, PyStr.ofString tool.name = i.toolName →
      ∀ r, tool.validator.validate i.arguments = .error r →
        r.ground? = some .length ∨ r.ground? = some .range ∨ r.ground? = some .destination) ∧
    ¬ ∀ st name, Refused ((agentCore lockCore latinWeb idleAdapter).handle st () ⟨110, 110, 110⟩
      (PyStr.ofString "c") (PyStr.ofString "s") (internalCall name)) := by
  refine ⟨?_, ?_⟩
  · intro hparsed
    have happ : (⟨"open_app", .unsafeTool, .schema openAppArguments⟩ : AgentTool) ∈ agentTools latinWeb := by
      simp [agentTools]
    obtain h | h | h := hparsed _ _ appText_parsed _ happ rfl (.text "app" .forbidden) rfl
    · cases h
    · cases h
    · cases h
  · intro hcalls
    obtain ⟨⟨code, text, rest, h⟩, -⟩ :=
      hcalls ((machine (agentCore lockCore latinWeb idleAdapter)).run [phoneOp]) "recall_memory"
    cases h

end Pipa.Tools
