import Pipa.Control.BuiltIns
import Pipa.Intents.Phrases

/- What can be said to the agent (`main.py`, `_build_pipa_core`): a Core whose
   command catalog is authoritative. A text is first looked up in the catalog of the
   enabled commands, then read by the built-in phrases, and the tool it names has to
   be the tool of an enabled command. -/
namespace Pipa.Control
open Pipa.Lib Pipa.Core Pipa.Intents

/-- What the agent is built from; `ω` is the state of the machine around it. -/
structure Agent (ω : Type) where
  unicode : Unicode
  tools : ToolCatalog ω
  ttlSeconds : Int
  ttl_pos : 1 ≤ ttlSeconds
  ttl_le : ttlSeconds ≤ 300
  file : ω → Option File
  fault : ω → ReadFault
  automaticSend : ω → Except ControlError Bool
  capabilities : ω → Except Exn Value
  computeRequestDigest : PyStr → Object → Except Exn PyStr
  str : Value → PyStr

variable {ω : Type}

/-- `get_command_catalog`. -/
def Agent.catalog (a : Agent ω) (w : ω) : Except Exn (List Object) :=
  getCommandCatalog (loadControlConfig (a.file w) (a.fault w)) (a.automaticSend w)

/-- `_build_pipa_core`. -/
def Agent.core (a : Agent ω) : PipaCore ω where
  catalog := a.tools
  ttlSeconds := a.ttlSeconds
  ttl_pos := a.ttl_pos
  ttl_le := a.ttl_le
  commandCatalog := some a.catalog
  capabilityCatalog := some a.capabilities
  commandCatalogAuthoritative := true
  parseCatalogIntent := Intents.parseCatalogIntent a.unicode
  parseTextIntent := Intents.parseTextIntent a.unicode
  computeRequestDigest := a.computeRequestDigest
  str := a.str

/-- The same tool and the same arguments; the order of a dictionary does not count. -/
def Same (i j : ParsedIntent) : Prop := i.toolName = j.toolName ∧ i.arguments.Perm j.arguments

/-- The intent is executed, or a confirmation is asked for it. -/
def Runs (i : ParsedIntent) (o : Outcome) : Prop :=
  (∃ arguments, Event.called i.toolName arguments ∈ o.events ∧ arguments.Perm i.arguments) ∨
  (∃ record, Event.created record ∈ o.events ∧ record.toolName = i.toolName ∧ record.arguments.Perm i.arguments)

/-- The router has the tool and takes the arguments: they pass its validator, and where it asks for
a confirmation, its preparer and its summary do not fail. -/
def Takes (catalog : ToolCatalog ω) (w : ω) (i : ParsedIntent) : Prop :=
  ∃ d, catalog.get? i.toolName = some d ∧ d.validateArguments w i.arguments = .ok i.arguments ∧
    (d.safety = .unsafeTool → (∃ snapshot, d.prepare w i.arguments = .ok snapshot) ∧
      ∃ confirmSummary summary, d.confirmSummary = some confirmSummary ∧
        confirmSummary w i.arguments = .ok (.str summary) ∧ summary.isBlank = false)

/-! ## The catalog -/

theorem field_toolName (b : BuiltIn) (phrase description : PyStr) :
    field (b.asObject phrase description) "tool_name" = .str (PyStr.ofString b.toolName) := by
  simp [field, BuiltIn.asObject, Object.get?]

theorem get?_toolName (id toolName phrase description : PyStr) (safety : Value) (requiresConfirmation : Bool)
    (parameters : List Value) (defaults : Object) :
    (normalized id toolName phrase description safety requiresConfirmation parameters defaults).get?
      (PyStr.ofString "tool_name") = some (.str toolName) := by
  simp [normalized, Object.get?]

theorem get?_phrase (id toolName phrase description : PyStr) (safety : Value) (requiresConfirmation : Bool)
    (parameters : List Value) (defaults : Object) :
    (normalized id toolName phrase description safety requiresConfirmation parameters defaults).get?
      (PyStr.ofString "phrase") = some (.str phrase) := by
  simp [normalized, Object.get?]

/-- The tool of a descriptor, without the space around it. -/
def toolOf (command : Object) : Value :=
  match field command "tool_name" with
  | .str toolName => .str toolName.strip
  | v => v

/-- Every descriptor keeps its tool. -/
theorem validateCommandList_tools {seen : List PyStr} {commands result : List Object}
    (h : validateCommandList seen commands = .ok result) :
    result.map (fun c => c.get? (PyStr.ofString "tool_name")) = commands.map (fun c => some (toolOf c)) := by
  induction commands generalizing seen result with
  | nil =>
    obtain rfl := Except.ok.inj h
    rfl
  | cons command commands ih =>
    unfold validateCommandList at h
    split at h
    · cases h
    rename_i id command' hone
    split at h
    · cases h
    rename_i rest hrest
    obtain rfl := Except.ok.inj h
    obtain ⟨-, toolName, -, -, -, -, -, -, -, -, -, -, htool, -, -, -, -, -, -, -, -, -, -, rfl⟩ :=
      validateCommand_ok hone
    have hfield := (safeCatalogText_ok htool).1
    rw [List.map_cons, List.map_cons, ih hrest, get?_toolName, toolOf, hfield]

theorem toolName_strip : ∀ b ∈ builtIns, (PyStr.ofString b.toolName).strip = PyStr.ofString b.toolName := by
  decide

/-- The tools of a catalog are those of the enabled commands. -/
theorem catalog_tools {config : ControlConfig} {automatic : Bool} {commands : List Object}
    (h : validateCommandCatalog ((builtIns.filter (fun b => b.enabled config)).map
      (fun b => b.edited config automatic)) = .ok commands) :
    commands.map (fun c => c.get? (PyStr.ofString "tool_name")) =
      (builtIns.filter (fun b => b.enabled config)).map (fun b => some (.str (PyStr.ofString b.toolName))) := by
  unfold validateCommandCatalog at h
  split at h
  · cases h
  rw [validateCommandList_tools h, List.map_map]
  apply List.map_congr_left
  intro b hb
  show some (toolOf (b.edited config automatic)) = _
  rw [toolOf, BuiltIn.edited, field_toolName]
  simp only [toolName_strip b (List.mem_of_mem_filter hb)]

theorem catalog_ok {a : Agent ω} {w : ω} {config : ControlConfig} {commands : List Object}
    (hload : loadControlConfig (a.file w) (a.fault w) = .ok config) (h : a.catalog w = .ok commands) :
    ∃ automatic, validateCommandCatalog ((builtIns.filter (fun b => b.enabled config)).map
      (fun b => b.edited config automatic)) = .ok commands := by
  unfold Agent.catalog getCommandCatalog at h
  rw [hload] at h
  split at h
  · cases h
  · cases h
  · rename_i config' automatic hconfig hautomatic
    obtain rfl := Except.ok.inj hconfig
    exact ⟨automatic, h⟩

/-- A text that no enabled command's phrase matches is read by the built-in phrases, and the tool
has to be the tool of an enabled command. -/
theorem intentOf_iff {a : Agent ω} {w : ω} {config : ControlConfig} {text : PyStr} {j : ParsedIntent}
    (hload : loadControlConfig (a.file w) (a.fault w) = .ok config)
    (hnone : ∀ commands, a.catalog w = .ok commands →
      Intents.parseCatalogIntent a.unicode text commands = .ok none) :
    a.core.intentOf w text = .ok (some j) ↔
      Intents.parseTextIntent a.unicode text = .ok (some j) ∧ (∃ commands, a.catalog w = .ok commands) ∧
        ∃ b ∈ builtIns, b.enabled config = true ∧ PyStr.ofString b.toolName = j.toolName := by
  have htext : a.core.parseTextIntent text = Intents.parseTextIntent a.unicode text := rfl
  have hcommands : a.core.commandCatalog = some a.catalog := rfl
  have hempty : a.core.parseCatalogIntent text [] = .ok none := by
    show (if (collapse text).isEmpty then _ else _) = _
    exact ite_self _
  have hauthoritative : a.core.commandCatalogAuthoritative = true := rfl
  rw [← htext]
  unfold PipaCore.intentOf
  cases hcatalog : a.catalog w with
  | error e =>
    -- nothing is enabled when the catalog cannot be read
    cases a.core.parseTextIntent text with
    | error e' => cases e <;> simp [hcommands, hcatalog, hempty]
    | ok parsed =>
      cases parsed with
      | none => cases e <;> simp [hcommands, hcatalog, hempty]
      | some intent => cases e <;> simp [hcommands, hcatalog, hempty, hauthoritative]
  | ok commands =>
    have hparse : a.core.parseCatalogIntent text commands = .ok none := hnone commands hcatalog
    obtain ⟨automatic, hvalid⟩ := catalog_ok hload hcatalog
    have htools := catalog_tools hvalid
    simp only [hcommands, hcatalog, hparse, htools]
    cases hparse : a.core.parseTextIntent text with
    | error e => simp
    | ok parsed =>
      cases parsed with
      | none => simp
      | some intent =>
        simp [hauthoritative, Value.hashable]
        constructor
        · intro h
          split at h
          · rename_i hshared
            obtain rfl := Option.some.inj (Except.ok.inj h)
            exact ⟨rfl, hshared⟩
          · cases h
        · rintro ⟨rfl, hshared⟩
          rw [if_pos hshared]

/-! ## What a text runs -/

section
variable {core : PipaCore ω} {st : State} {w : ω} {now : Int} {token sid : PyStr} {s : DeviceSession}

theorem answerInvocation_events {tool : PyStr} {callId : Option PyStr} {r : Routed Invocation} :
    (PipaCore.answerInvocation st sid s tool callId r).events = r.events := by
  unfold PipaCore.answerInvocation
  split
  · split
    · rfl
    · rfl
  · rfl
  · rfl

/-- The events of a call, refusals of the store aside, are of a tool that takes the arguments. -/
theorem invoke_event {catalog : ToolCatalog ω} {ttl : Int} {p : Pending} {tool : PyStr} {arguments : Object}
    {owner callId digest : Option PyStr} {e : Event} (hrefused : ∀ err, e ≠ .refused err)
    (h : e ∈ (ToolRouter.invoke catalog ttl now token w p tool arguments none owner callId digest).events) :
    Takes catalog w ⟨tool, arguments⟩ ∧
      (e = .called tool arguments ∨
        ∃ record, e = .created record ∧ record.toolName = tool ∧ record.arguments = arguments) := by
  unfold ToolRouter.invoke at h
  split at h
  · cases h
  rename_i d hd
  split at h
  · cases h
  rename_i values hvalues
  obtain rfl := ToolDefinition.validateArguments_eq hvalues
  split at h
  · unfold ToolRouter.requestConfirmation at h
    split at h
    · cases h
    rename_i confirmSummary hsummary
    split at h
    · cases h
    rename_i snapshot hprepare
    split at h
    · cases h
    rename_i summary hsummarised
    split at h
    · exact absurd (List.mem_singleton.mp h) (hrefused _)
    · rename_i p' record hcreate
      obtain ⟨text, rfl, hblank⟩ : ∃ text, summary = .str text ∧ text.isBlank = false := by
        unfold Pending.create at hcreate
        split at hcreate
        · rename_i text
          refine ⟨text, rfl, ?_⟩
          split at hcreate
          · cases hcreate
          · rename_i hblank
            exact Bool.eq_false_iff.mpr hblank
        · cases hcreate
      refine ⟨⟨d, hd, hvalues, fun _ => ⟨⟨snapshot, hprepare⟩, confirmSummary, text, hsummary, hsummarised,
        hblank⟩⟩, Or.inr ⟨record, List.mem_singleton.mp h, ?_⟩⟩
      obtain ⟨err, he, -⟩ | ⟨r, hr, -, -, htool, harguments, -⟩ := Pending.create_cases hcreate
      · cases he
      · obtain rfl := Except.ok.inj hr
        exact ⟨htool, harguments⟩
  · rename_i hnone
    cases hnone
  · rename_i hsafe
    have hevents : e = .called tool values := by
      unfold ToolRouter.complete ToolRouter.execute at h
      split at h
      · rename_i hhandler
        obtain ⟨-, rfl⟩ := Prod.mk.inj hhandler
        exact List.mem_singleton.mp h
      · rename_i hhandler
        obtain ⟨-, rfl⟩ := Prod.mk.inj hhandler
        exact List.mem_singleton.mp h
    exact ⟨⟨d, hd, hvalues, fun hunsafe => by rw [hsafe] at hunsafe; cases hunsafe⟩, Or.inl hevents⟩

/-- A tool that runs or asks takes its arguments. -/
theorem runTool_runs {i : ParsedIntent} {tool : PyStr} {arguments : Object} {callId digest : Option PyStr}
    (h : Runs i (core.runTool st w now token sid s tool arguments callId digest)) :
    Same ⟨tool, arguments⟩ i ∧ Takes core.catalog w ⟨tool, arguments⟩ := by
  obtain ⟨e, he, hrefused, hsame⟩ : ∃ e,
      e ∈ (core.runTool st w now token sid s tool arguments callId digest).events ∧ (∀ err, e ≠ .refused err) ∧
      ((∃ args, e = .called i.toolName args ∧ args.Perm i.arguments) ∨
        ∃ r, e = .created r ∧ r.toolName = i.toolName ∧ r.arguments.Perm i.arguments) := by
    obtain ⟨args, hmem, hperm⟩ | ⟨r, hmem, htool, hperm⟩ := h
    · exact ⟨_, hmem, fun err => nofun, Or.inl ⟨args, rfl, hperm⟩⟩
    · exact ⟨_, hmem, fun err => nofun, Or.inr ⟨r, rfl, htool, hperm⟩⟩
  unfold PipaCore.runTool at he
  simp only at he
  split at he
  · simp only [PipaCore.runMemory, Bool.false_eq_true, if_false] at he
    split at he
    · cases he
    · cases he
  split at he
  · cases he
  split at he
  · cases he
  · rw [answerInvocation_events] at he
    obtain ⟨htakes, hevent⟩ := invoke_event hrefused he
    refine ⟨?_, htakes⟩
    obtain rfl | ⟨record, rfl, rfl, rfl⟩ := hevent
    · obtain ⟨args, heq, hperm⟩ | ⟨r, heq, -⟩ := hsame
      · obtain ⟨rfl, rfl⟩ := Event.called.inj heq
        exact ⟨rfl, hperm⟩
      · cases heq
    · obtain ⟨args, heq, -⟩ | ⟨r, heq, htool, hperm⟩ := hsame
      · cases heq
      · obtain rfl := Event.created.inj heq
        exact ⟨htool, hperm⟩

/-- What a text runs is the intent that is read from it. -/
theorem routeTranscript_runs {i : ParsedIntent} {text : PyStr}
    (h : Runs i (core.routeTranscript st w now token sid s text)) :
    validateBoundedText text 4000 = .ok text ∧
      ∃ j, core.intentOf w text = .ok (some j) ∧ Same j i ∧ Takes core.catalog w j := by
  unfold PipaCore.routeTranscript at h
  split at h
  · simp [Runs] at h
  rename_i bounded hbounded
  obtain rfl := PipaCore.validateBoundedText_eq hbounded
  refine ⟨hbounded, ?_⟩
  split at h
  · simp [Runs] at h
  · simp [Runs] at h
  · rename_i j hintent
    exact ⟨j, hintent, runTool_runs h⟩

theorem not_runs_reply {i : ParsedIntent} {messages : List ServerMessage} : ¬ Runs i (reply st messages) := by
  simp [Runs, reply]

theorem handle_runs {i : ParsedIntent} {clock : Clock} {text : PyStr} {source : TextSource}
    (h : Runs i (core.handle st w clock token sid (.textInput text source))) :
    ∃ st' s, Runs i (core.routeTranscript st' w clock.act token sid s text) := by
  unfold PipaCore.handle at h
  simp only at h
  split at h
  · exact absurd h not_runs_reply
  unfold PipaCore.handleSession PipaCore.handleGated at h
  simp only at h
  split at h
  · exact absurd h not_runs_reply
  split at h
  · exact absurd h not_runs_reply
  · exact ⟨_, _, h⟩

theorem handleTranscript_runs {i : ParsedIntent} {clock : Clock} {text : PyStr}
    (h : Runs i (core.handleTranscript st w clock token sid text)) :
    ∃ st' s, Runs i (core.routeTranscript st' w clock.act token sid s text) := by
  unfold PipaCore.handleTranscript at h
  simp only at h
  split at h
  · exact absurd h not_runs_reply
  split at h
  · exact absurd h not_runs_reply
  split at h
  · exact absurd h not_runs_reply
  · exact ⟨_, _, h⟩

/-- An empty store takes any request. -/
theorem create_empty (ttl now : Int) (token tool : PyStr) (arguments : Object) (owner : Option PyStr)
    (snapshot : Option Object) {summary : PyStr} (hblank : summary.isBlank = false) :
    ∃ p record, Pending.create Dict.empty ttl now token tool arguments (.str summary) owner none none snapshot =
      (p, .ok record) ∧ record.toolName = tool ∧ record.arguments = arguments := by
  unfold Pending.create
  simp only [hblank, Bool.false_eq_true, if_false, Option.any_none]
  have hprune : (Pending.prune Dict.empty now) = Dict.empty := rfl
  rw [hprune, if_neg (by decide), if_neg (by cases owner <;> simp [Pending.owned, Dict.empty, Dict.values,
    maxPendingPerOwner])]
  exact ⟨_, _, rfl, rfl, rfl⟩

def touchId : PyStr := PyStr.ofString "touch-1"

/-- A session of a device with a touch screen. -/
def touchSession : DeviceSession where
  sessionId := touchId
  deviceId := PyStr.ofString "pipa-1"
  connectedAt := 0
  capabilities := [PyStr.ofString "display", PyStr.ofString "touch"]

/-- The session of `touchSession` alone. -/
def touchState : State := ⟨Dict.empty.set touchId touchSession, Dict.empty, Dict.empty⟩

theorem touchState_get : touchState.sessions.get? touchId = some touchSession := Dict.get?_set.trans (if_pos rfl)

/-- A session that can confirm runs what it asks for, if the tool takes it. -/
theorem handleTranscript_takes {text : PyStr} {j : ParsedIntent} (hbounded : validateBoundedText text 4000 = .ok text)
    (hintent : core.intentOf w text = .ok (some j)) (hremember : j.toolName ≠ PyStr.ofString "remember_fact")
    (hrecall : j.toolName ≠ PyStr.ofString "recall_memory") (htakes : Takes core.catalog w j) (token : PyStr) :
    Runs j (core.handleTranscript touchState w ⟨0, 0, 0⟩ token touchId text) := by
  obtain ⟨d, hd, hvalid, hasks⟩ := htakes
  unfold PipaCore.handleTranscript
  simp only [touchState_get]
  rw [if_neg (by decide), if_neg (by decide)]
  unfold PipaCore.routeTranscript
  simp only [hbounded, hintent]
  unfold PipaCore.runTool
  simp only [if_neg hremember, if_neg hrecall, hd]
  have hconfirm : PipaCore.canConfirm ((touchSession.touch 0).setState .thinking none) = true := by decide
  rw [if_neg (by simp [hconfirm])]
  unfold Runs
  rw [answerInvocation_events]
  unfold ToolRouter.invoke
  simp only [hd, hvalid]
  cases hsafety : d.safety with
  | safe =>
    refine Or.inl ⟨j.arguments, ?_, .refl _⟩
    simp only [ToolRouter.complete, ToolRouter.execute]
    cases d.handler w j.arguments with
    | error e => exact List.mem_singleton_self _
    | ok result => exact List.mem_singleton_self _
  | unsafeTool =>
    obtain ⟨⟨snapshot, hprepare⟩, confirmSummary, summary, hsummary, hsummarised, hblank⟩ := hasks hsafety
    obtain ⟨p, record, hcreate, htool, harguments⟩ :=
      create_empty core.ttlSeconds 0 token j.toolName j.arguments (some touchId) snapshot hblank
    refine Or.inr ⟨record, ?_, htool, harguments ▸ .refl _⟩
    have hsaved : (touchState.save touchId (touchSession.touch 0)).pending = Dict.empty := rfl
    have howner : ((touchSession.touch 0).setState .thinking none).sessionId = touchId := rfl
    simp only [ToolRouter.requestConfirmation, hsummary, hprepare, hsummarised, hsaved, howner, hcreate]
    exact List.mem_singleton_self _

end

/-! ## A media command

`media_stop` is disabled and "detén la música" is said. The other media commands keep the
tool enabled, and the built-in phrases know the text. -/

theorem candidate_unmatched {u : Unicode} {original phrase : PyStr} {command : Object}
    (hphrase : command.get? (PyStr.ofString "phrase") = some (.str phrase))
    (hnone : fullmatch u true (phrasePattern phrase) original = none) :
    candidate u original command = .ok none := by
  unfold candidate
  rw [hphrase]
  split
  · rename_i phrase' toolName parameters heq htool hparameters
    obtain rfl := Value.str.inj (Option.some.inj heq)
    rw [hnone]
  · rfl

theorem candidates_unmatched {u : Unicode} {original : PyStr} {commands : List Object}
    (h : ∀ c ∈ commands, candidate u original c = .ok none) : candidates u original commands = .ok [] := by
  induction commands with
  | nil => rfl
  | cons c commands ih =>
    rw [candidates, h c List.mem_cons_self, ih (fun d hd => h d (List.mem_cons_of_mem _ hd))]
    rfl

def mediaStop : BuiltIn :=
  mediaCommand "media_stop" "stop" "detén la música" "Detiene el reproductor multimedia activo."

def stopConfig : ControlConfig :=
  ⟨Dict.empty.set (PyStr.ofString "media_stop") ⟨false, none⟩, defaultConfig.whatsapp⟩

def stopText : PyStr := PyStr.ofString "detén la música"

def stopIntent : ParsedIntent :=
  ⟨PyStr.ofString "media_action", [(PyStr.ofString "action", .str (PyStr.ofString "stop"))]⟩

/-- The tool of the media commands. -/
def mediaTool : ToolDefinition Unit where
  name := PyStr.ofString "media_action"
  handler _ arguments := .ok arguments
  safety := .safe
  confirmSummary := none
  argumentValidator := some (fun _ arguments =>
    if isText "stop" (field arguments "action") then .ok () else .error .valueError)
  confirmationPreparer := none
  summarised := nofun

def mediaAgent : Agent Unit where
  unicode := Unicode.latin1
  tools := Dict.empty.set (PyStr.ofString "media_action") mediaTool
  ttlSeconds := 30
  ttl_pos := by decide
  ttl_le := by decide
  file _ := some ⟨256, .value stopConfig.asValue⟩
  fault _ := .none
  automaticSend _ := .ok false
  capabilities _ := .ok .null
  computeRequestDigest _ _ := .ok []
  str _ := []

/-- Another command with the tool. -/
def mediaNext : BuiltIn :=
  mediaCommand "media_next" "next" "siguiente canción" "Pasa a la siguiente pista del reproductor multimedia activo."

theorem mediaStop_mem : mediaStop ∈ builtIns := by
  simp [builtIns, mediaStop]

theorem mediaNext_mem : mediaNext ∈ builtIns := by
  simp [builtIns, mediaNext]

theorem stopConfig_valid : stopConfig.Valid := by
  refine ⟨?_, by decide, Or.inl rfl, Or.inl rfl, by decide⟩
  intro id p hp
  rw [stopConfig, Dict.get?_set] at hp
  split at hp
  · rename_i hid
    obtain rfl := Option.some.inj hp
    refine ⟨?_, ?_⟩
    · rw [hid]
      decide
    · intro phrase hphrase
      cases hphrase
  · cases hp

theorem stopConfig_load : loadControlConfig (mediaAgent.file ()) (mediaAgent.fault ()) = .ok stopConfig :=
  Holds.load ⟨256, by decide, rfl⟩ stopConfig_valid

/-- The preferences keep every phrase. -/
theorem stopConfig_phrase (b : BuiltIn) : b.currentPhrase stopConfig = PyStr.ofString b.phrase := by
  unfold BuiltIn.currentPhrase stopConfig
  rw [Dict.get?_set]
  split <;> rfl

theorem stopConfig_fits : ∀ b ∈ builtIns, b.enabled stopConfig = true → b.Fits (b.currentPhrase stopConfig) := by
  intro b hb _
  rw [stopConfig_phrase]
  exact builtIns_fit b hb

theorem mediaStop_disabled : mediaStop.enabled stopConfig = false := by decide

theorem mediaNext_enabled : mediaNext.enabled stopConfig = true := by decide

/-- A phrase that `stopText` does not match. -/
def unmatched (phrase : PyStr) : Bool := (fullmatch Unicode.latin1 true (phrasePattern phrase) stopText).isNone

theorem unmatched_ofList {l : List Char} (h : unmatched (l.map CodePoint.ofChar) = true) :
    unmatched (PyStr.ofString (String.ofList l)) = true := by
  rw [PyStr.ofString, String.toList_ofList]
  exact h

theorem builtIns_unmatched : ∀ b ∈ builtIns, b.id = "media_stop" ∨ unmatched (PyStr.ofString b.phrase) = true := by
  simp only [builtIns, List.forall_mem_cons, safeCommand, unsafeCommand, mediaCommand]
  repeat' apply And.intro
  all_goals first
    | exact Or.inr (unmatched_ofList (by decide))
    | exact Or.inl trivial
    | exact List.forall_mem_nil _

theorem stopText_unmatched {commands : List Object} (h : mediaAgent.catalog () = .ok commands) :
    Intents.parseCatalogIntent Unicode.latin1 stopText commands = .ok none := by
  obtain ⟨automatic, hvalid⟩ := catalog_ok stopConfig_load h
  rw [validateCommandCatalog_enabled automatic stopConfig_fits] at hvalid
  obtain rfl := Except.ok.inj hvalid
  have hnone : candidates Unicode.latin1 (collapse stopText) ((builtIns.filter (fun b => b.enabled stopConfig)).map
      (fun b => b.descriptor (b.currentPhrase stopConfig).strip
        (PyStr.ofString (b.currentDescription automatic)))) = .ok [] := by
    apply candidates_unmatched
    intro c hc
    obtain ⟨b, hb, rfl⟩ := List.mem_map.mp hc
    obtain ⟨hmem, henabled⟩ := List.mem_filter.mp hb
    have hid : b.id ≠ "media_stop" := by
      intro hid
      have hdisabled : b.enabled stopConfig = false := by
        rw [BuiltIn.enabled, hid]
        decide
      rw [hdisabled] at henabled
      cases henabled
    rw [stopConfig_phrase, (tidy_bounded (BuiltIn.checked hmem).texts.1).2]
    exact candidate_unmatched (get?_phrase ..)
      (Option.isNone_iff_eq_none.mp ((builtIns_unmatched b hmem).resolve_left hid))
  unfold Intents.parseCatalogIntent
  simp only [hnone]
  exact ite_self _

theorem stopCatalog_readable : ∃ commands, mediaAgent.catalog () = .ok commands := by
  have hcatalog : mediaAgent.catalog () = validateCommandCatalog
      ((builtIns.filter (fun b => b.enabled stopConfig)).map (fun b => b.edited stopConfig false)) := by
    unfold Agent.catalog getCommandCatalog
    rw [stopConfig_load]
    rfl
  exact ⟨_, hcatalog.trans (validateCommandCatalog_enabled false stopConfig_fits)⟩

/-- What was read is `stopIntent`. -/
def isStopIntent : Except Exn (Option ParsedIntent) → Bool
  | .ok (some ⟨toolName, [(key, .str action)]⟩) =>
    toolName = PyStr.ofString "media_action" && key = PyStr.ofString "action" && action = PyStr.ofString "stop"
  | _ => false

theorem isStopIntent_eq {r : Except Exn (Option ParsedIntent)} (h : isStopIntent r = true) :
    r = .ok (some stopIntent) := by
  unfold isStopIntent at h
  split at h
  · simp only [Bool.and_eq_true, decide_eq_true_eq] at h
    obtain ⟨⟨rfl, rfl⟩, rfl⟩ := h
    rfl
  · cases h

theorem stopText_phrase :
    Intents.parseCatalogIntent Unicode.latin1 stopText [mediaStop.edited stopConfig false] = .ok (some stopIntent) :=
  isStopIntent_eq (by decide)

theorem stopText_builtIn : Intents.parseTextIntent Unicode.latin1 stopText = .ok (some stopIntent) :=
  isStopIntent_eq (by decide)

theorem stopText_bounded : validateBoundedText stopText 4000 = .ok stopText := (tidy_bounded (by decide)).1

theorem mediaAgent_takes : Takes mediaAgent.tools () stopIntent := by
  have haction : isText "stop" (field stopIntent.arguments "action") = true := by decide
  refine ⟨mediaTool, Dict.get?_set.trans (if_pos rfl), ?_, nofun⟩
  simp only [ToolDefinition.validateArguments, mediaTool, haction, if_true]

theorem stopText_read : mediaAgent.core.intentOf () stopText = .ok (some stopIntent) :=
  (intentOf_iff stopConfig_load (fun _ h => stopText_unmatched h)).mpr
    ⟨stopText_builtIn, stopCatalog_readable, mediaNext, mediaNext_mem, mediaNext_enabled, rfl⟩

/-! ## Disabled commands -/

theorem Runs.congr {i j : ParsedIntent} {o : Outcome} (hsame : Same j i) (h : Runs j o) : Runs i o := by
  obtain ⟨arguments, hmem, hperm⟩ | ⟨record, hmem, htool, hperm⟩ := h
  · exact Or.inl ⟨arguments, hsame.1 ▸ hmem, hperm.trans hsame.2⟩
  · exact Or.inr ⟨record, hmem, htool.trans hsame.1, hperm.trans hsame.2⟩

theorem candidate_tool {u : Unicode} {original : PyStr} {command : Object} {n : Nat} {i : ParsedIntent}
    (h : candidate u original command = .ok (some (n, i))) :
    command.get? (PyStr.ofString "tool_name") = some (.str i.toolName) := by
  unfold candidate at h
  split at h
  · rename_i phrase toolName parameters hphrase htool hparameters
    split at h
    · cases h
    split at h
    · cases h
    split at h
    · cases h
    · cases h
    split at h
    · cases h
    · obtain ⟨-, rfl⟩ := Prod.mk.inj (Option.some.inj (Except.ok.inj h))
      exact htool
  · cases h

/-- An intent read from one descriptor is for its tool. -/
theorem parseCatalogIntent_tool {u : Unicode} {text : PyStr} {command : Object} {i : ParsedIntent}
    (h : Intents.parseCatalogIntent u text [command] = .ok (some i)) :
    command.get? (PyStr.ofString "tool_name") = some (.str i.toolName) := by
  unfold Intents.parseCatalogIntent at h
  simp only at h
  split at h
  · cases h
  simp only [candidates] at h
  cases hone : candidate u (collapse text) command with
  | error e =>
    rw [hone] at h
    cases h
  | ok found =>
    rw [hone] at h
    cases found with
    | none => cases h
    | some best =>
      obtain rfl := Option.some.inj (Except.ok.inj h)
      exact candidate_tool hone

/-- No command has the tool of one that the Core answers itself. -/
theorem toolName_ne : ∀ b ∈ builtIns, b.toolName ≠ "remember_fact" ∧ b.toolName ≠ "recall_memory" := by
  decide

/-- A disabled command whose phrase a text matches, while it matches no enabled one's, is dead unless the
built-in phrases read the same command from the text and another command with its tool is enabled. -/
theorem disabled_dead_iff (a : Agent ω) {w : ω} {config : ControlConfig}
    (hload : loadControlConfig (a.file w) (a.fault w) = .ok config) {b : BuiltIn} (hb : b ∈ builtIns)
    (hdisabled : b.enabled config = false) {text : PyStr} {automatic : Bool} {i : ParsedIntent}
    (hspoken : Intents.parseCatalogIntent a.unicode text [b.edited config automatic] = .ok (some i))
    (hnone : ∀ commands, a.catalog w = .ok commands →
      Intents.parseCatalogIntent a.unicode text commands = .ok none) :
    (∀ st clock token sid,
      (∀ source, ¬ Runs i (a.core.handle st w clock token sid (.textInput text source))) ∧
      ¬ Runs i (a.core.handleTranscript st w clock token sid text)) ↔
    ¬ (validateBoundedText text 4000 = .ok text ∧ (∃ commands, a.catalog w = .ok commands) ∧
      (∃ other ∈ builtIns, other ≠ b ∧ other.enabled config = true ∧ other.toolName = b.toolName) ∧
      ∃ j, Intents.parseTextIntent a.unicode text = .ok (some j) ∧ Same j i ∧ Takes a.tools w j) := by
  have htool : PyStr.ofString b.toolName = i.toolName := by
    have h := parseCatalogIntent_tool hspoken
    simp [BuiltIn.edited, BuiltIn.asObject, Object.get?] at h
    exact h
  constructor
  · rintro hdead ⟨hbounded, hcatalog, ⟨other, hother, -, henabled, hshared⟩, j, hparse, hsame, htakes⟩
    have htoolj : PyStr.ofString b.toolName = j.toolName := htool.trans hsame.1.symm
    have hintent := (intentOf_iff hload hnone).mpr ⟨hparse, hcatalog, other, hother, henabled, hshared ▸ htoolj⟩
    obtain ⟨hremember, hrecall⟩ := toolName_ne b hb
    refine (hdead _ _ _ _).2 (Runs.congr hsame (handleTranscript_takes hbounded hintent ?_ ?_ htakes []))
    · rw [← htoolj]
      exact fun h => hremember (PyStr.ofString_inj.mp h)
    · rw [← htoolj]
      exact fun h => hrecall (PyStr.ofString_inj.mp h)
  · intro hnot st clock token sid
    have hroute {st' : State} {s : DeviceSession} :
        ¬ Runs i (a.core.routeTranscript st' w clock.act token sid s text) := by
      intro h
      obtain ⟨hbounded, j, hintent, hsame, htakes⟩ := routeTranscript_runs h
      obtain ⟨hparse, hcatalog, other, hother, henabled, hshared⟩ := (intentOf_iff hload hnone).mp hintent
      refine hnot ⟨hbounded, hcatalog, ⟨other, hother, ?_, henabled, ?_⟩, j, hparse, hsame, htakes⟩
      · rintro rfl
        rw [hdisabled] at henabled
        cases henabled
      · exact PyStr.ofString_inj.mp (hshared.trans (hsame.1.trans htool.symm))
    refine ⟨fun source h => ?_, fun h => ?_⟩
    · obtain ⟨st', s, h⟩ := handle_runs h
      exact hroute h
    · obtain ⟨st', s, h⟩ := handleTranscript_runs h
      exact hroute h

def stopToken : PyStr := PyStr.ofString "confirmation-1"

/-- Said to the agent, the phrase of the disabled `media_stop` stops the music. -/
theorem disabled_stop_runs :
    stopConfig.Valid ∧ loadControlConfig (mediaAgent.file ()) (mediaAgent.fault ()) = .ok stopConfig ∧
    mediaStop ∈ builtIns ∧ mediaStop.enabled stopConfig = false ∧
    Intents.parseCatalogIntent Unicode.latin1 stopText [mediaStop.edited stopConfig false] = .ok (some stopIntent) ∧
    (∃ commands, mediaAgent.catalog () = .ok commands ∧
      Intents.parseCatalogIntent Unicode.latin1 stopText commands = .ok none) ∧
    Runs stopIntent (mediaAgent.core.handleTranscript touchState () ⟨0, 0, 0⟩ stopToken touchId stopText) := by
  obtain ⟨commands, hcommands⟩ := stopCatalog_readable
  refine ⟨stopConfig_valid, stopConfig_load, mediaStop_mem, mediaStop_disabled, stopText_phrase,
    ⟨commands, hcommands, stopText_unmatched hcommands⟩, ?_⟩
  exact handleTranscript_takes stopText_bounded stopText_read (by decide) (by decide) mediaAgent_takes stopToken

theorem disabled_stop_not_dead :
    ¬ (∀ st clock token sid,
      (∀ source, ¬ Runs stopIntent (mediaAgent.core.handle st () clock token sid (.textInput stopText source))) ∧
      ¬ Runs stopIntent (mediaAgent.core.handleTranscript st () clock token sid stopText)) := by
  intro hdead
  refine (disabled_dead_iff mediaAgent stopConfig_load mediaStop_mem mediaStop_disabled stopText_phrase
    (fun commands h => stopText_unmatched h)).mp hdead ⟨stopText_bounded, stopCatalog_readable, ?_, ?_⟩
  · exact ⟨mediaNext, mediaNext_mem, fun h => absurd (congrArg BuiltIn.id h) (by decide), mediaNext_enabled, rfl⟩
  · exact ⟨stopIntent, stopText_builtIn, ⟨rfl, .refl _⟩, mediaAgent_takes⟩

end Pipa.Control
