import Pipa.Core.Runs

/- What the results of tools and the arguments of tool calls can change of what a device
   is sent (`core.py`): two runs side by side. `Twin` pairs two operations that are the
   same up to the state of the outside world and the arguments of a tool call, in
   states in which every callable the operation reaches goes alike, that is succeeds
   in both or is refused in both or fails in both; for handlers the two results
   also have the same `coarseFacts`.

   `State.redacted` is what the two states then have in common: the registry, and the
   pending confirmations without their arguments, summaries and snapshots. Every
   method keeps it (`apply_twin`), so the induction over the runs is the one of
   `Machine.Twins`. -/
namespace Pipa.Core
open Pipa.Lib

/-! ## The coarse facts -/

/-- The flags of a League search. -/
structure SearchFacts where
  unsupported : Bool
  matchFound : Bool
  searching : Bool
  notSearching : Bool
  unknownState : Bool

/-- Everything a caption may depend on. -/
structure CoarseFacts where
  failed : Bool
  sent : Bool
  unavailable : Bool
  percent : Option Int
  plugged : Bool
  volume : Option Int
  muted : Option Bool
  timers : Option Nat
  league : SearchFacts
  leagueSearch : Option SearchFacts
  started : Bool
  alreadySearching : Bool
  found : Bool
  timedOut : Bool
  alreadyNotSearching : Bool

/-- `isinstance(v, bool)`, and the value then. -/
def asBool? : Option Value → Option Bool
  | some (.bool b) => some b
  | _ => none

/-- The length of a list. -/
def listLength? : Option Value → Option Nat
  | some (.list items) => some items.length
  | _ => none

/-- `v == "unknown"`. -/
def isUnknown : Option Value → Bool
  | some (.str s) => s = PyStr.ofString "unknown"
  | _ => false

def searchFacts (r : Object) : SearchFacts where
  unsupported := (r.get? (PyStr.ofString "supported")).any Value.isFalse
  matchFound := (r.get? (PyStr.ofString "match_found")).any Value.isTrue
  searching := (r.get? (PyStr.ofString "searching")).any Value.isTrue
  notSearching := (r.get? (PyStr.ofString "searching")).any Value.isFalse
  unknownState := isUnknown (r.get? (PyStr.ofString "state"))

/-- The nested result of `league_status`. -/
def nestedFacts : Option Value → Option SearchFacts
  | some (.dict search) => some (searchFacts search)
  | _ => none

def coarseFacts (r : Object) : CoarseFacts where
  failed := (r.get? (PyStr.ofString "success")).any Value.isFalse
  sent := (r.get? (PyStr.ofString "sent")).any Value.isTrue
  unavailable := (r.get? (PyStr.ofString "available")).any Value.isFalse
  percent := percentage? (r.get? (PyStr.ofString "percent"))
  plugged := (r.get? (PyStr.ofString "plugged")).any Value.isTrue
  volume := percentage? (r.get? (PyStr.ofString "volume"))
  muted := asBool? (r.get? (PyStr.ofString "muted"))
  timers := listLength? (r.get? (PyStr.ofString "timers"))
  league := searchFacts r
  leagueSearch := nestedFacts (r.get? (PyStr.ofString "search"))
  started := (r.get? (PyStr.ofString "started")).any Value.truthy
  alreadySearching := (r.get? (PyStr.ofString "already_searching")).any Value.truthy
  found := (r.get? (PyStr.ofString "found")).any Value.isTrue
  timedOut := (r.get? (PyStr.ofString "timed_out")).any Value.isTrue
  alreadyNotSearching := (r.get? (PyStr.ofString "already_not_searching")).any Value.isTrue

/-- The same coarse facts. -/
def SameFacts (r r' : Object) : Prop := coarseFacts r = coarseFacts r'

theorem mutedCaption_eq (v : Option Value) (f : Bool → String) :
    (match v with
      | some (.bool muted) => some (f muted)
      | _ => none) = (asBool? v).map f := by
  cases v with
  | none => rfl
  | some v => cases v <;> rfl

theorem timersCaption_eq (v : Option Value) (f : Nat → String) :
    (match v with
      | some (.list timers) => some (f timers.length)
      | _ => none) = (listLength? v).map f := by
  cases v with
  | none => rfl
  | some v => cases v <;> rfl

theorem unknownCaption_eq (v : Option Value) (x y : Option String) :
    (match v with
      | some (.str s) => if s = PyStr.ofString "unknown" then x else y
      | _ => y) = if isUnknown v then x else y := by
  cases v with
  | none => rfl
  | some v =>
    cases v with
    | str s => simp only [isUnknown, decide_eq_true_eq]
    | _ => rfl

theorem nestedCaption_eq (v : Option Value) (x y z u : Option String) :
    (match v with
      | some (.dict search) =>
        if (Object.get? search (PyStr.ofString "match_found")).any Value.isTrue then x
        else if (Object.get? search (PyStr.ofString "searching")).any Value.isTrue then y
        else if (Object.get? search (PyStr.ofString "supported")).any Value.isFalse then z
        else u
      | _ => u) =
    match nestedFacts v with
      | some f => if f.matchFound then x else if f.searching then y else if f.unsupported then z else u
      | none => u := by
  cases v with
  | none => rfl
  | some v => cases v <;> rfl

/-- A caption depends on the tool and the coarse facts only. -/
theorem resultCaption?_congr (tool : PyStr) {r r' : Object} (h : SameFacts r r') :
    resultCaption? tool r = resultCaption? tool r' := by
  simp only [SameFacts, coarseFacts, searchFacts, CoarseFacts.mk.injEq, SearchFacts.mk.injEq] at h
  obtain ⟨hsuccess, hsent, havailable, hpercent, hplugged, hvolume, hmuted, htimers,
    ⟨hsupported, hfound, hsearching, hnot, hstate⟩, hnested, hstarted, halready, hwait, htimed, hcancel⟩ := h
  unfold resultCaption?
  simp only [hsuccess, hsent, havailable, hpercent, hplugged, hvolume, hsupported, hfound, hsearching, hnot, hstarted,
    halready, hwait, htimed, hcancel]
  -- what is left of the results stands in the four branches that look into a value
  refine if_congr Iff.rfl rfl (if_congr Iff.rfl rfl (if_congr Iff.rfl rfl (if_congr Iff.rfl rfl
    (if_congr Iff.rfl ?_ (if_congr Iff.rfl ?_ (if_congr Iff.rfl ?_ (if_congr Iff.rfl ?_ rfl)))))))
  · exact (mutedCaption_eq _ _).trans ((congrArg (Option.map _) hmuted).trans (mutedCaption_eq _ _).symm)
  · exact (timersCaption_eq _ (fun n => "Temporizadores registrados: " ++ toString n ++ ".")).trans
      ((congrArg (Option.map _) htimers).trans (timersCaption_eq _ _).symm)
  · refine if_congr Iff.rfl rfl (if_congr Iff.rfl rfl (if_congr Iff.rfl rfl ?_))
    refine (unknownCaption_eq _ _ _).trans (Eq.trans ?_ (unknownCaption_eq _ _ _).symm)
    rw [hstate]
  · refine (nestedCaption_eq _ _ _ _ _).trans (Eq.trans ?_ (nestedCaption_eq _ _ _ _ _).symm)
    rw [hnested]

theorem safeResultCaption_congr (tool : PyStr) {r r' : Object} (h : SameFacts r r') :
    safeResultCaption tool r = safeResultCaption tool r' := by
  unfold safeResultCaption
  rw [resultCaption?_congr tool h]

theorem deviceToolResult_congr (tool : PyStr) (status : ToolStatus) (callId : Option PyStr) {r r' : Object}
    (h : SameFacts r r') :
    deviceToolResult tool status (some r) callId = deviceToolResult tool status (some r') callId := by
  have hfailed : (r.get? (PyStr.ofString "success")).any Value.isFalse =
      (r'.get? (PyStr.ofString "success")).any Value.isFalse := congrArg CoarseFacts.failed h
  simp only [deviceToolResult, Option.any_some, hfailed]

/-! ## Calls that go alike -/

/-- Both succeed, with values in `R`, or both are refused, or both fail otherwise. -/
def GoAlike {α : Type} (R : α → α → Prop) : Except Exn α → Except Exn α → Prop
  | .ok x, .ok x' => R x x'
  | .error e, .error e' => e.isRefusal = e'.isRefusal
  | _, _ => False

theorem GoAlike.cases {α : Type} {R : α → α → Prop} {x x' : Except Exn α} (h : GoAlike R x x') :
    (∃ a a', x = .ok a ∧ x' = .ok a' ∧ R a a') ∨
    (∃ e e', x = .error e ∧ x' = .error e' ∧ e.isRefusal = e'.isRefusal) := by
  match x, x', h with
  | .ok a, .ok a', h => exact Or.inl ⟨a, a', rfl, rfl, h⟩
  | .error e, .error e', h => exact Or.inr ⟨e, e', rfl, rfl, h⟩

/-- A summary the store takes. -/
def usableSummary : Value → Bool
  | .str s => !s.isBlank
  | _ => false

variable {ω : Type}

/-- A tool called in two worlds with two arguments: its callables go alike, in the order `invoke` reaches them. -/
def ToolDefinition.InvokeAlike (d : ToolDefinition ω) (w w' : ω) (arguments arguments' : Object) : Prop :=
  GoAlike (fun values values' =>
      match d.safety with
      | .safe => GoAlike SameFacts (d.handler w values) (d.handler w' values')
      | .unsafeTool =>
        GoAlike (fun _ _ => ∀ summary, d.confirmSummary = some summary →
            GoAlike (fun x x' => usableSummary x = usableSummary x') (summary w values) (summary w' values'))
          (d.prepare w values) (d.prepare w' values'))
    (d.validateArguments w arguments) (d.validateArguments w' arguments')

/-- The same for a confirmed tool. -/
def ToolDefinition.ConfirmAlike (d : ToolDefinition ω) (w w' : ω) (record record' : PendingConfirmation) : Prop :=
  GoAlike (fun values values' => GoAlike SameFacts (d.handler w values) (d.handler w' values'))
    (ToolRouter.executionValues d w record) (ToolRouter.executionValues d w' record')

namespace PipaCore
variable (core : PipaCore ω)

/-- The catalogs the Core reads from the outside world. -/
def SameCatalogs (w w' : ω) : Prop :=
  (∀ commandCatalog, core.commandCatalog = some commandCatalog → commandCatalog w = commandCatalog w') ∧
  ∀ capabilityCatalog, core.capabilityCatalog = some capabilityCatalog → capabilityCatalog w = capabilityCatalog w'

/-- What `remember_fact` is asked to remember. -/
def factOf (arguments : Object) : PyStr :=
  match arguments.get? (PyStr.ofString "fact") with
  | none => []
  | some v => core.str v

/-- A call of `_run_tool` for `deviceId`: the memory, or the callables of the tool, go alike. -/
def RunAlike (st st' : State) (deviceId : PyStr) (w w' : ω) (toolName : PyStr) (arguments arguments' : Object) : Prop :=
  (toolName = PyStr.ofString "remember_fact" →
    (st.memory.remember deviceId (core.factOf arguments)).isSome =
      (st'.memory.remember deviceId (core.factOf arguments')).isSome) ∧
  ∀ d, core.catalog.get? toolName = some d → d.InvokeAlike w w' arguments arguments'

/-- The same for the call a text amounts to. -/
def TextAlike (st st' : State) (sid : PyStr) (w w' : ω) (text : PyStr) : Prop :=
  ∀ s bounded intent, st.sessions.get? sid = some s → validateBoundedText text 4000 = .ok bounded →
    core.intentOf w bounded = .ok (some intent) →
    core.RunAlike st st' s.deviceId w w' intent.toolName intent.arguments intent.arguments

/-- The same for the call a confirmation releases. -/
def ReleaseAlike (st st' : State) (w w' : ω) (confirmationId : PyStr) : Prop :=
  ∀ record record' d, st.pending.get? confirmationId = some record → st'.pending.get? confirmationId = some record' →
    core.catalog.get? record.toolName = some d → d.ConfirmAlike w w' record record'

/-- The calls a message other than `tool_call` leads to go alike. -/
def MessageAlike (st st' : State) (sid : PyStr) (w w' : ω) : ClientMessage → Prop
  | .textInput text _ => core.TextAlike st st' sid w w' text
  | .confirm confirmationId accepted => accepted = true → core.ReleaseAlike st st' w w' confirmationId
  | .toolCall .. => False
  | _ => True

/-- Two operations, taken in `st` and `st'`, that are the same but for the outside world and for the arguments
of a tool call with the digest that comes with them, which are related by `B`. -/
inductive Twin (B : PyStr → Object → Option PyStr → Object → Option PyStr → Prop) (st st' : State) : Op ω → Op ω → Prop
  | authenticate (verified : Except Exn PyStr) (firmwareVersion : Option PyStr) (capabilities : List PyStr) (token : PyStr)
      (clock : Clock) :
      Twin B st st' (.authenticate verified firmwareVersion capabilities token clock)
        (.authenticate verified firmwareVersion capabilities token clock)
  | create (deviceId : PyStr) (firmwareVersion : Option PyStr) (capabilities : List PyStr) (initialized : Bool)
      (token : PyStr) (clock : Clock) :
      Twin B st st' (.create deviceId firmwareVersion capabilities initialized token clock)
        (.create deviceId firmwareVersion capabilities initialized token clock)
  | close (sid : PyStr) (clock : Clock) : Twin B st st' (.close sid clock) (.close sid clock)
  | message (sid : PyStr) (m : ClientMessage) (w w' : ω) (token : PyStr) (clock : Clock) (catalogs : core.SameCatalogs w w')
      (calls : core.MessageAlike (pruneStaleSessions st clock.prune) (pruneStaleSessions st' clock.prune) sid w w' m) :
      Twin B st st' (.handle sid m w token clock) (.handle sid m w' token clock)
  | toolCall (sid name : PyStr) (arguments arguments' : Object) (callId digest digest' : Option PyStr) (w w' : ω)
      (token : PyStr) (clock : Clock) (bound : B name arguments digest arguments' digest')
      (calls : ∀ s, (pruneStaleSessions st clock.prune).sessions.get? sid = some s →
        core.RunAlike (pruneStaleSessions st clock.prune) (pruneStaleSessions st' clock.prune) s.deviceId w w' name
          arguments arguments') :
      Twin B st st' (.handle sid (.toolCall name arguments callId digest) w token clock)
        (.handle sid (.toolCall name arguments' callId digest') w' token clock)
  | transcript (sid text : PyStr) (w w' : ω) (token : PyStr) (clock : Clock) (catalogs : core.SameCatalogs w w')
      (calls : core.TextAlike st st' sid w w' text) :
      Twin B st st' (.handleTranscript sid text w token clock) (.handleTranscript sid text w' token clock)

end PipaCore

/-! ## What the two states have in common -/

section Redacted
variable (f : Option PyStr → Option PyStr)

/-- Without what depends on the arguments; of the digest `f` is left. -/
def PendingConfirmation.redacted (r : PendingConfirmation) : PendingConfirmation :=
  { r with arguments := [], summary := [], executionArguments := none, requestDigest := f r.requestDigest }

def ServerMessage.redacted : ServerMessage → ServerMessage
  | .confirmRequest confirmationId toolName summary expiresAt callId requestDigest =>
    .confirmRequest confirmationId toolName summary expiresAt callId (f requestDigest)
  | m => m

/-- What two such records have in common. -/
theorem PendingConfirmation.redacted_eq {r r' : PendingConfirmation} (h : r.redacted f = r'.redacted f) :
    r.confirmationId = r'.confirmationId ∧ r.ownerId = r'.ownerId ∧ r.toolName = r'.toolName ∧
      r.expiresAt = r'.expiresAt ∧ r.callId = r'.callId ∧ f r.requestDigest = f r'.requestDigest := by
  simp only [PendingConfirmation.redacted, PendingConfirmation.mk.injEq] at h
  obtain ⟨hid, howner, htool, -, -, -, hexpires, hcall, hdigest, -⟩ := h
  exact ⟨hid, howner, htool, hexpires, hcall, hdigest⟩

/-- The messages of an outcome, or the exception that escapes. -/
def Outcome.redacted (o : Outcome) : Except Exn (List ServerMessage) :=
  match o.result with
  | .ok messages => .ok (messages.map (ServerMessage.redacted f))
  | .error e => .error e

/-- The same sessions, and the same pending confirmations but for what depends on the arguments. -/
structure Common (st st' : State) : Prop where
  sessions : st.sessions = st'.sessions
  pending : st.pending.mapValues (PendingConfirmation.redacted f) = st'.pending.mapValues (PendingConfirmation.redacted f)

/-- The two outcomes show a device the same and leave states that have the same in common. -/
structure Outcome.Twin (o o' : Outcome) : Prop where
  state : Common f o.state o'.state
  shown : o.redacted f = o'.redacted f

end Redacted

namespace Pending
variable {f : Option PyStr → Option PyStr} {p p' : Pending}

theorem prune_redacted {now : Int} :
    (p.prune now).mapValues (PendingConfirmation.redacted f) =
      prune (p.mapValues (PendingConfirmation.redacted f)) now := by
  unfold prune
  rw [Dict.filter_mapValues]
  rfl

theorem cancelForOwner_redacted {sid : PyStr} :
    (p.cancelForOwner sid).mapValues (PendingConfirmation.redacted f) =
      cancelForOwner (p.mapValues (PendingConfirmation.redacted f)) sid := by
  unfold cancelForOwner
  split
  · rfl
  · rw [Dict.filter_mapValues]
    rfl

theorem owned_redacted {sid : PyStr} :
    (owned (p.mapValues (PendingConfirmation.redacted f)) sid).length = (p.owned sid).length := by
  unfold owned
  rw [Dict.values_mapValues, List.filter_map, List.length_map]
  rfl

theorem usable_iff {v : Value} : usableSummary v = true ↔ ∃ t, v = .str t ∧ t.isBlank = false := by
  cases v <;> simp [usableSummary]

/-- Two requests for a confirmation of one tool. -/
theorem create_twin (hp : p.mapValues (PendingConfirmation.redacted f) = p'.mapValues (PendingConfirmation.redacted f))
    (ttl now : Int) (token toolName : PyStr) (arguments arguments' : Object) {summary summary' : Value}
    (hsummary : usableSummary summary = usableSummary summary') (ownerId callId : Option PyStr)
    {digest digest' : Option PyStr} (hdigest : f digest = f digest')
    (hvalid : digest.any (fun d => !isValidRequestDigest d) = digest'.any (fun d => !isValidRequestDigest d))
    (snapshot snapshot' : Option Object) :
    let c := p.create ttl now token toolName arguments summary ownerId callId digest snapshot
    let c' := p'.create ttl now token toolName arguments' summary' ownerId callId digest' snapshot'
    c.1.mapValues (PendingConfirmation.redacted f) = c'.1.mapValues (PendingConfirmation.redacted f) ∧
      GoAlike (fun r r' => r.redacted f = r'.redacted f) c.2 c'.2 := by
  have hrefuse : ∀ v : Value, usableSummary v = false → ∀ (q : Pending) (a : Object) (d : Option PyStr) (x : Option Object),
      q.create ttl now token toolName a v ownerId callId d x = (q, .error summaryError) := by
    intro v hv q a d x
    cases v with
    | str s => simp only [usableSummary, Bool.not_eq_false'] at hv; simp only [create, hv, if_true]
    | _ => rfl
  intro c c'
  cases hu : usableSummary summary with
  | false =>
    have hc : c = (p, .error summaryError) := hrefuse _ hu ..
    have hc' : c' = (p', .error summaryError) := hrefuse _ (hsummary ▸ hu) ..
    rw [hc, hc']
    exact ⟨hp, rfl⟩
  | true =>
    obtain ⟨t, rfl, ht⟩ := usable_iff.mp hu
    obtain ⟨t', rfl, ht'⟩ := usable_iff.mp (hsummary ▸ hu)
    have hprune : (p.prune now).mapValues (PendingConfirmation.redacted f) =
        (p'.prune now).mapValues (PendingConfirmation.redacted f) := by rw [prune_redacted, prune_redacted, hp]
    have hsize : (p.prune now).size = (p'.prune now).size := by
      rw [← Dict.size_mapValues (g := PendingConfirmation.redacted f), hprune, Dict.size_mapValues]
    have howned (sid : PyStr) : ((p.prune now).owned sid).length = ((p'.prune now).owned sid).length := by
      rw [← owned_redacted (f := f), hprune, owned_redacted]
    simp only [c, c', create, ht, ht', hvalid, hsize, howned, Bool.false_eq_true, if_false]
    split
    · exact ⟨hp, rfl⟩
    split
    · exact ⟨hp, rfl⟩
    split
    · exact ⟨hprune, rfl⟩
    split
    · exact ⟨hprune, rfl⟩
    refine ⟨?_, ?_⟩
    · simp only [← Dict.set_mapValues, hprune, PendingConfirmation.redacted, hdigest]
    · simp only [GoAlike, PendingConfirmation.redacted, hdigest]

end Pending

namespace ToolRouter
variable {f : Option PyStr → Option PyStr}

/-- The two calls leave the same in the store, up to `f`, and go alike. -/
structure Twin {α : Type} (f : Option PyStr → Option PyStr) (R : α → α → Prop) (x x' : Routed α) : Prop where
  pending : x.pending.mapValues (PendingConfirmation.redacted f) = x'.pending.mapValues (PendingConfirmation.redacted f)
  result : GoAlike R x.result x'.result

/-- The same invocation, but for what depends on the arguments and on the result. -/
def SameInvocation (f : Option PyStr → Option PyStr) : Invocation → Invocation → Prop
  | .needsConfirmation r, .needsConfirmation r' => r.redacted f = r'.redacted f
  | .completed result, .completed result' => SameFacts result result'
  | _, _ => False

def SameResolution (f : Option PyStr → Option PyStr) : Resolution → Resolution → Prop
  | .rejected r, .rejected r' => r.redacted f = r'.redacted f
  | .completed r result, .completed r' result' => r.redacted f = r'.redacted f ∧ SameFacts result result'
  | _, _ => False

variable {ω : Type} {catalog : ToolCatalog ω} {w w' : ω} {p p' : Pending}

theorem invoke_twin (hp : p.mapValues (PendingConfirmation.redacted f) = p'.mapValues (PendingConfirmation.redacted f))
    (ttl now : Int) (token name : PyStr) {arguments arguments' : Object}
    (halike : ∀ d, catalog.get? name = some d → d.InvokeAlike w w' arguments arguments') (ownerId callId : Option PyStr)
    {digest digest' : Option PyStr} (hdigest : f digest = f digest')
    (hvalid : digest.any (fun d => !isValidRequestDigest d) = digest'.any (fun d => !isValidRequestDigest d)) :
    Twin f (SameInvocation f) (invoke catalog ttl now token w p name arguments none ownerId callId digest)
      (invoke catalog ttl now token w' p' name arguments' none ownerId callId digest') := by
  unfold invoke
  cases hd : catalog.get? name with
  | none => exact ⟨hp, rfl⟩
  | some d =>
    have hcalls := halike d hd
    unfold ToolDefinition.InvokeAlike at hcalls
    obtain ⟨v, v', hv, hv', hnext⟩ | ⟨e, e', he, he', hsame⟩ := hcalls.cases
    · simp only [hv, hv']
      cases hsafety : d.safety with
      | safe =>
        simp only [hsafety] at hnext
        simp only [complete, execute]
        obtain ⟨r, r', hr, hr', hfacts⟩ | ⟨e, e', he, he', hsame⟩ := hnext.cases
        · rw [hr, hr']
          exact ⟨hp, hfacts⟩
        · rw [he, he']
          exact ⟨hp, hsame⟩
      | unsafeTool =>
        simp only [hsafety] at hnext
        simp only [requestConfirmation]
        cases hsummary : d.confirmSummary with
        | none => exact ⟨hp, rfl⟩
        | some summary =>
          obtain ⟨x, x', hx, hx', hsummaries⟩ | ⟨e, e', he, he', hsame⟩ := hnext.cases
          · simp only [hx, hx']
            obtain ⟨y, y', hy, hy', husable⟩ | ⟨e, e', he, he', hsame⟩ := (hsummaries summary hsummary).cases
            · simp only [hy, hy']
              obtain ⟨hstore, hrecords⟩ := Pending.create_twin hp ttl now token name v v' husable ownerId callId hdigest
                hvalid x x'
              generalize p.create ttl now token name v y ownerId callId digest x = c at hstore hrecords ⊢
              generalize p'.create ttl now token name v' y' ownerId callId digest' x' = c' at hstore hrecords ⊢
              obtain ⟨q, res⟩ := c
              obtain ⟨q', res'⟩ := c'
              obtain ⟨r, r', rfl, rfl, hr⟩ | ⟨e, e', rfl, rfl, hsame⟩ := hrecords.cases
              · exact ⟨hstore, hr⟩
              · exact ⟨hstore, hsame⟩
            · simp only [he, he']
              exact ⟨hp, hsame⟩
          · simp only [he, he']
            exact ⟨hp, hsame⟩
    · simp only [he, he']
      exact ⟨hp, hsame⟩

/-- A confirmation is found in both stores or in neither. -/
theorem consume_twin (hp : p.mapValues (PendingConfirmation.redacted f) = p'.mapValues (PendingConfirmation.redacted f))
    (now : Int) (cid : PyStr) (ownerId : Option PyStr) :
    (∃ e, p.consume now cid ownerId = .error e ∧ p'.consume now cid ownerId = .error e) ∨
    (∃ r r', p.get? cid = some r ∧ p'.get? cid = some r' ∧ r.redacted f = r'.redacted f ∧
      p.consume now cid ownerId = .ok (r, p.erase cid) ∧ p'.consume now cid ownerId = .ok (r', p'.erase cid)) := by
  have hget : (p.get? cid).map (PendingConfirmation.redacted f) = (p'.get? cid).map (PendingConfirmation.redacted f) := by
    rw [← Dict.get?_mapValues, hp, Dict.get?_mapValues]
  unfold Pending.consume
  cases hr : p.get? cid with
  | none =>
    have hr' : p'.get? cid = none := by
      rw [hr] at hget
      exact Option.map_eq_none_iff.mp hget.symm
    simp only [hr']
    exact Or.inl ⟨_, rfl, rfl⟩
  | some r =>
    rw [hr] at hget
    obtain ⟨r', hr', hsame⟩ := Option.map_eq_some_iff.mp hget.symm
    obtain ⟨-, howner, -, hexpires, -⟩ := PendingConfirmation.redacted_eq f hsame.symm
    simp only [hr', hexpires, howner]
    split
    · exact Or.inl ⟨_, rfl, rfl⟩
    split
    · exact Or.inl ⟨_, rfl, rfl⟩
    · exact Or.inr ⟨r, r', rfl, rfl, hsame.symm, rfl, rfl⟩

theorem resolve_twin (hp : p.mapValues (PendingConfirmation.redacted f) = p'.mapValues (PendingConfirmation.redacted f))
    (now : Int) (cid : PyStr) (accepted : Bool) (ownerId : Option PyStr)
    (halike : accepted = true → ∀ r r' d, p.get? cid = some r → p'.get? cid = some r' →
      catalog.get? r.toolName = some d → d.ConfirmAlike w w' r r') :
    Twin f (SameResolution f) (resolveConfirmation catalog now w p cid accepted ownerId)
      (resolveConfirmation catalog now w' p' cid accepted ownerId) := by
  unfold resolveConfirmation
  obtain ⟨e, he, he'⟩ | ⟨r, r', hr, hr', hsame, hc, hc'⟩ := consume_twin hp now cid ownerId
  · simp only [he, he']
    exact ⟨hp, rfl⟩
  have herase : (p.erase cid).mapValues (PendingConfirmation.redacted f) =
      (p'.erase cid).mapValues (PendingConfirmation.redacted f) := by
    rw [← Dict.erase_mapValues, hp, Dict.erase_mapValues]
  obtain ⟨-, -, htool, -⟩ := PendingConfirmation.redacted_eq f hsame
  simp only [hc, hc', ← htool]
  split
  · rename_i haccepted
    cases hd : catalog.get? r.toolName with
    | none => exact ⟨herase, rfl⟩
    | some d =>
      obtain ⟨v, v', hv, hv', hhandled⟩ | ⟨e, e', he, he', hfail⟩ := (halike haccepted r r' d hr hr' hd).cases
      · simp only [hv, hv', execute]
        obtain ⟨x, x', hx, hx', hfacts⟩ | ⟨e, e', he, he', hfail⟩ := hhandled.cases
        · rw [hx, hx']
          exact ⟨herase, hsame, hfacts⟩
        · rw [he, he']
          exact ⟨herase, hfail⟩
      · simp only [he, he']
        exact ⟨herase, hfail⟩
  · exact ⟨herase, hsame⟩

end ToolRouter

/-! ## The methods, side by side -/

namespace PipaCore
variable {ω : Type} {f : Option PyStr → Option PyStr} {core : PipaCore ω} {st st' : State} {w w' : ω} {sid : PyStr}
  {s : DeviceSession}

theorem common_save (h : Common f st st') (sid : PyStr) (s : DeviceSession) :
    Common f (st.save sid s) (st'.save sid s) := by
  refine ⟨?_, h.pending⟩
  simp only [State.save, h.sessions]

theorem common_cancel (h : Common f st st') (ownerId : PyStr) :
    Common f (st.cancelPending ownerId) (st'.cancelPending ownerId) := by
  refine ⟨h.sessions, ?_⟩
  simp only [State.cancelPending, Pending.cancelForOwner_redacted, h.pending]

theorem common_prune (h : Common f st st') (now : Int) :
    Common f (pruneStaleSessions st now) (pruneStaleSessions st' now) := by
  simp only [pruneStaleSessions, h.sessions]
  have hstart : Common f { st with sessions := (SessionRegistry.prune st'.sessions now).1 }
      { st' with sessions := (SessionRegistry.prune st'.sessions now).1 } := ⟨rfl, h.pending⟩
  generalize (SessionRegistry.prune st'.sessions now).2 = ids
  generalize { st with sessions := (SessionRegistry.prune st'.sessions now).1 } = a at hstart ⊢
  generalize { st' with sessions := (SessionRegistry.prune st'.sessions now).1 } = a' at hstart ⊢
  induction ids generalizing a a' with
  | nil => exact hstart
  | cons sid ids ih =>
    rw [List.foldl_cons, List.foldl_cons]
    exact ih _ _ (common_cancel hstart sid)

theorem reply_twin (h : Common f st st') {messages messages' : List ServerMessage}
    (hm : messages.map (ServerMessage.redacted f) = messages'.map (ServerMessage.redacted f)) :
    (reply st messages).Twin f (reply st' messages') :=
  ⟨h, congrArg Except.ok hm⟩

theorem finish_twin (h : Common f st st') {state : UiState} {caption : Option PyStr} {messages messages' : List ServerMessage}
    (hm : messages.map (ServerMessage.redacted f) = messages'.map (ServerMessage.redacted f)) (events events' : List Event) :
    (finish st sid s state caption messages events).Twin f (finish st' sid s state caption messages' events') := by
  refine ⟨common_save h _ _, ?_⟩
  simp only [Outcome.redacted, finish, List.map_append, hm]

/-- `remember` reports success. -/
theorem remember_notFailed {m m' : MemoryStore} {dev fact : PyStr} {result : Object} (h : m.remember dev fact = some (m', result)) :
    (result.get? (PyStr.ofString "success")).any Value.isFalse = false := by
  unfold MemoryStore.remember at h
  split at h
  · cases h
  split at h
  · cases h
  cases h
  rfl

/-- `remember_fact`, with the fact named. -/
theorem runMemory_fact (st : State) (sid : PyStr) (s : DeviceSession) (arguments : Object) :
    core.runMemory st sid s arguments false =
      match st.memory.remember s.deviceId (core.factOf arguments) with
      | none =>
        finish st sid s .idle (some (PyStr.ofString "No se pudo guardar la memoria."))
          [errorMessage .memoryFailed "No se pudo guardar la memoria."] []
      | some (memory, result) =>
        finish { st with memory := memory } sid s .idle none
          [deviceToolResult (PyStr.ofString "remember_fact") .completed (some result) none] [] := rfl

theorem runMemory_twin (h : Common f st st') {arguments arguments' : Object} {recalls : Bool}
    (hmemory : recalls = false → (st.memory.remember s.deviceId (core.factOf arguments)).isSome =
      (st'.memory.remember s.deviceId (core.factOf arguments')).isSome) :
    (core.runMemory st sid s arguments recalls).Twin f (core.runMemory st' sid s arguments' recalls) := by
  cases recalls with
  | true => exact finish_twin h rfl _ _
  | false =>
    have hsome := hmemory rfl
    rw [runMemory_fact, runMemory_fact]
    cases hm : st.memory.remember s.deviceId (core.factOf arguments) with
    | none =>
      rw [hm] at hsome
      have hm' : st'.memory.remember s.deviceId (core.factOf arguments') = none :=
        Option.not_isSome_iff_eq_none.mp (by rw [← hsome]; exact Bool.false_ne_true)
      rw [hm']
      exact finish_twin h rfl _ _
    | some kept =>
      rw [hm] at hsome
      obtain ⟨kept', hm'⟩ := Option.isSome_iff_exists.mp hsome.symm
      rw [hm']
      obtain ⟨memory, result⟩ := kept
      obtain ⟨memory', result'⟩ := kept'
      have hstate : Common f { st with memory := memory } { st' with memory := memory' } := ⟨h.sessions, h.pending⟩
      refine finish_twin hstate ?_ _ _
      simp only [deviceToolResult, Option.any_some, remember_notFailed hm, remember_notFailed hm']

theorem answerInvocation_twin (h : Common f st st') {toolName : PyStr} {callId : Option PyStr}
    {routed routed' : Routed Invocation} (hrouted : ToolRouter.Twin f (ToolRouter.SameInvocation f) routed routed') :
    (answerInvocation st sid s toolName callId routed).Twin f (answerInvocation st' sid s toolName callId routed') := by
  have hstate : Common f { st with pending := routed.pending } { st' with pending := routed'.pending } :=
    ⟨h.sessions, hrouted.pending⟩
  unfold answerInvocation
  obtain ⟨i, i', hi, hi', hsame⟩ | ⟨e, e', he, he', hsame⟩ := hrouted.result.cases
  · simp only [hi, hi']
    cases i with
    | needsConfirmation r =>
      cases i' with
      | completed result' => exact absurd hsame id
      | needsConfirmation r' =>
        obtain ⟨hid, -, htool, hexpires, hcall, hdigest⟩ := PendingConfirmation.redacted_eq f hsame
        refine finish_twin hstate ?_ _ _
        simp only [List.map_cons, List.map_nil, ServerMessage.redacted, hid, htool, hexpires, hcall, hdigest]
    | completed result =>
      cases i' with
      | needsConfirmation r' => exact absurd hsame id
      | completed result' =>
        simp only [safeResultCaption_congr toolName hsame, deviceToolResult_congr toolName .completed callId hsame]
        exact finish_twin hstate rfl _ _
  · simp only [he, he', hsame]
    split
    · exact finish_twin hstate rfl _ _
    · exact finish_twin hstate rfl _ _

theorem runTool_twin (h : Common f st st') (now : Int) (token : PyStr) {name : PyStr} {arguments arguments' : Object}
    {callId digest digest' : Option PyStr} (halike : core.RunAlike st st' s.deviceId w w' name arguments arguments')
    (hdigest : f digest = f digest')
    (hvalid : digest.any (fun d => !isValidRequestDigest d) = digest'.any (fun d => !isValidRequestDigest d)) :
    (core.runTool st w now token sid s name arguments callId digest).Twin f
      (core.runTool st' w' now token sid s name arguments' callId digest') := by
  unfold runTool
  split
  · rename_i hname
    exact runMemory_twin h (fun _ => halike.1 hname)
  split
  · exact runMemory_twin h (fun hrecalls => absurd hrecalls (by decide))
  dsimp only
  split
  · exact finish_twin h rfl _ _
  · exact answerInvocation_twin h (ToolRouter.invoke_twin h.pending _ now token name halike.2 _ callId hdigest hvalid)

theorem intentOf_congr (hcatalogs : core.SameCatalogs w w') (bounded : PyStr) :
    core.intentOf w bounded = core.intentOf w' bounded := by
  unfold intentOf
  cases hc : core.commandCatalog with
  | none => rfl
  | some commandCatalog => simp only [hcatalogs.1 commandCatalog hc]

theorem routeTranscript_twin (h : Common f st st') (hcatalogs : core.SameCatalogs w w') (now : Int) (token : PyStr)
    {text : PyStr}
    (halike : ∀ bounded intent, validateBoundedText text 4000 = .ok bounded → core.intentOf w bounded = .ok (some intent) →
      core.RunAlike st st' s.deviceId w w' intent.toolName intent.arguments intent.arguments) :
    (core.routeTranscript st w now token sid s text).Twin f (core.routeTranscript st' w' now token sid s text) := by
  unfold routeTranscript
  cases hbounded : validateBoundedText text 4000 with
  | error e => exact finish_twin h rfl _ _
  | ok bounded =>
    simp only [← intentOf_congr hcatalogs bounded]
    cases hintent : core.intentOf w bounded with
    | error e => exact ⟨h, rfl⟩
    | ok intent =>
      cases intent with
      | none => exact finish_twin h rfl _ _
      | some intent => exact runTool_twin h now token (halike bounded intent hbounded hintent) rfl rfl

/-- The digests that come with the two calls agree with their arguments in both or in neither, and have the form
of a digest in both or in neither. -/
def DigestsAlike (core : PipaCore ω) (name : PyStr) (arguments : Object) (digest : Option PyStr) (arguments' : Object)
    (digest' : Option PyStr) : Prop :=
  core.digestMatches name arguments digest = core.digestMatches name arguments' digest' ∧
    digest.any (fun d => !isValidRequestDigest d) = digest'.any (fun d => !isValidRequestDigest d)

theorem handleToolCall_twin (h : Common f st st') (now : Int) (token : PyStr) {name : PyStr} {arguments arguments' : Object}
    {callId digest digest' : Option PyStr} (halike : core.RunAlike st st' s.deviceId w w' name arguments arguments')
    (hdigest : f digest = f digest') (hdigests : core.DigestsAlike name arguments digest arguments' digest') :
    (core.handleToolCall st w now token sid s name arguments callId digest).Twin f
      (core.handleToolCall st' w' now token sid s name arguments' callId digest') := by
  unfold handleToolCall
  rw [hdigests.1]
  split
  · exact runTool_twin h now token halike hdigest hdigests.2
  · exact finish_twin h rfl _ _

theorem handleConfirm_twin (h : Common f st st') (now : Int) {cid : PyStr} {accepted : Bool}
    (halike : accepted = true → core.ReleaseAlike st st' w w' cid) :
    (core.handleConfirm st w now sid s cid accepted).Twin f (core.handleConfirm st' w' now sid s cid accepted) := by
  have hrouted : ToolRouter.Twin f (ToolRouter.SameResolution f)
      (ToolRouter.resolveConfirmation core.catalog now w st.pending cid accepted (some s.sessionId))
      (ToolRouter.resolveConfirmation core.catalog now w' st'.pending cid accepted (some s.sessionId)) :=
    ToolRouter.resolve_twin h.pending now cid accepted (some s.sessionId) halike
  unfold handleConfirm
  generalize ToolRouter.resolveConfirmation core.catalog now w st.pending cid accepted (some s.sessionId) = x at hrouted ⊢
  generalize ToolRouter.resolveConfirmation core.catalog now w' st'.pending cid accepted (some s.sessionId) = x' at hrouted ⊢
  have hstate : Common f { st with pending := x.pending } { st' with pending := x'.pending } := ⟨h.sessions, hrouted.pending⟩
  obtain ⟨i, i', hi, hi', hsame⟩ | ⟨e, e', he, he', hsame⟩ := hrouted.result.cases
  · simp only [hi, hi']
    cases i with
    | rejected r =>
      cases i' with
      | completed r' result' => exact absurd hsame id
      | rejected r' =>
        obtain ⟨-, -, htool, -, hcall, -⟩ := PendingConfirmation.redacted_eq f hsame
        simp only [htool, hcall]
        exact finish_twin hstate rfl _ _
    | completed r result =>
      cases i' with
      | rejected r' => exact absurd hsame id
      | completed r' result' =>
        obtain ⟨hrecord, hfacts⟩ := hsame
        obtain ⟨-, -, htool, -, hcall, -⟩ := PendingConfirmation.redacted_eq f hrecord
        simp only [htool, hcall, safeResultCaption_congr r'.toolName hfacts,
          deviceToolResult_congr r'.toolName .completed r'.callId hfacts]
        exact finish_twin hstate rfl _ _
  · simp only [he, he', hsame]
    split
    · exact finish_twin (common_cancel hstate s.sessionId) rfl _ _
    · exact finish_twin (common_cancel hstate s.sessionId) rfl _ _

theorem catalogResponse_congr (hcatalogs : core.SameCatalogs w w') :
    catalogResponse core.catalog core.commandCatalog core.capabilityCatalog w =
      catalogResponse core.catalog core.commandCatalog core.capabilityCatalog w' := by
  obtain ⟨hcommands, hcapabilities⟩ := hcatalogs
  unfold catalogResponse
  cases hc : core.commandCatalog with
  | none =>
    cases hk : core.capabilityCatalog with
    | none => rfl
    | some capabilities => simp only [hcapabilities capabilities hk]
  | some commands =>
    cases hk : core.capabilityCatalog with
    | none => simp only [hcommands commands hc]
    | some capabilities => simp only [hcommands commands hc, hcapabilities capabilities hk]

theorem handleReady_twin (h : Common f st st') (now : Int) (token : PyStr) {m : ClientMessage}
    (hs : ∃ s₀, st.sessions.get? sid = some s₀ ∧ s₀.deviceId = s.deviceId) (hcatalogs : core.SameCatalogs w w')
    (halike : core.MessageAlike st st' sid w w' m) :
    (core.handleReady st w now token sid s m).Twin f (core.handleReady st' w' now token sid s m) := by
  have hsave := common_save h sid s
  cases m with
  | textInput text source =>
    obtain ⟨s₀, hs₀, hdev⟩ := hs
    refine routeTranscript_twin hsave hcatalogs now token ?_
    intro bounded intent hbounded hintent
    rw [← hdev]
    exact halike s₀ bounded intent hs₀ hbounded hintent
  | toolCall name arguments callId digest => exact absurd halike id
  | confirm cid accepted => exact handleConfirm_twin hsave now halike
  | abort => exact finish_twin (common_cancel h s.sessionId) rfl _ _
  | wake => exact finish_twin h rfl _ _
  | holdStart => exact finish_twin h rfl _ _
  | holdEnd => exact finish_twin h rfl _ _
  | audioEnd => exact finish_twin h rfl _ _
  | gesture g => exact reply_twin hsave rfl
  | _ => exact reply_twin hsave rfl

/-- Messages other than a tool call, for a registered session. -/
theorem handleSession_twin (h : Common f st st') (now : Int) (token : PyStr) {m : ClientMessage}
    (hs : ∃ s₀, st.sessions.get? sid = some s₀ ∧ s₀.deviceId = s.deviceId) (hcatalogs : core.SameCatalogs w w')
    (halike : core.MessageAlike st st' sid w w' m) :
    (core.handleSession st w now token sid s m).Twin f (core.handleSession st' w' now token sid s m) := by
  have hsave := common_save h sid s
  have hgated : (core.handleGated st w now token sid s m).Twin f (core.handleGated st' w' now token sid s m) := by
    unfold handleGated
    split
    · exact reply_twin hsave rfl
    split
    · rw [catalogResponse_congr hcatalogs]
      exact reply_twin hsave rfl
    split
    · exact reply_twin hsave rfl
    · exact handleReady_twin h now token hs hcatalogs halike
  unfold handleSession
  split
  · exact reply_twin hsave rfl
  · exact reply_twin (common_save h _ _) rfl
  · split
    · exact reply_twin hsave rfl
    · exact reply_twin (common_save h _ _) rfl
  · exact hgated

/-- A tool call for a registered session. -/
theorem handleSession_toolCall_twin (h : Common f st st') (now : Int) (token : PyStr) {name : PyStr}
    {arguments arguments' : Object} {callId digest digest' : Option PyStr}
    (halike : core.RunAlike st st' s.deviceId w w' name arguments arguments') (hdigest : f digest = f digest')
    (hdigests : core.DigestsAlike name arguments digest arguments' digest') :
    (core.handleSession st w now token sid s (.toolCall name arguments callId digest)).Twin f
      (core.handleSession st' w' now token sid s (.toolCall name arguments' callId digest')) := by
  have hsave := common_save h sid s
  simp only [handleSession, handleGated, handleReady, isPreHello, passesConfirmGate, Bool.not_false, Bool.and_true]
  by_cases hnew : (!s.capabilitiesInitialized) = true
  · simp only [hnew, if_true]
    exact reply_twin hsave rfl
  by_cases hconfirm : s.state = .confirm
  · simp only [hnew, hconfirm, decide_true, if_true]
    exact reply_twin hsave rfl
  · simp only [hnew, hconfirm, decide_false, Bool.false_eq_true, if_false]
    exact handleToolCall_twin hsave now token halike hdigest hdigests

theorem createSession_twin (h : Common f st st') (token deviceId : PyStr) (firmwareVersion : Option PyStr)
    (capabilities : List PyStr) (initialized : Bool) (now : Int) :
    (createSession st token deviceId firmwareVersion capabilities initialized now).Twin f
      (createSession st' token deviceId firmwareVersion capabilities initialized now) := by
  unfold createSession
  rw [h.sessions]
  split
  · exact ⟨⟨rfl, h.pending⟩, rfl⟩
  · exact ⟨⟨rfl, h.pending⟩, rfl⟩

/-- Two operations that are twins show the device the same. -/
theorem apply_twin {B : PyStr → Object → Option PyStr → Object → Option PyStr → Prop}
    (hB : ∀ name arguments digest arguments' digest', B name arguments digest arguments' digest' →
      f digest = f digest' ∧ core.DigestsAlike name arguments digest arguments' digest')
    (h : Common f st st') {op op' : Op ω} (htwin : core.Twin B st st' op op') :
    (op.apply core st).Twin f (op'.apply core st') := by
  cases htwin with
  | authenticate verified fw caps token clock =>
    have hpruned := common_prune h clock.prune
    cases verified with
    | error e => exact ⟨hpruned, rfl⟩
    | ok dev => exact createSession_twin hpruned token dev fw caps true clock.act
  | create dev fw caps initialized token clock => exact createSession_twin h token dev fw caps initialized clock.act
  | close sid clock =>
    refine ⟨⟨?_, (common_cancel h sid).pending⟩, rfl⟩
    simp only [Op.apply, PipaCore.close, reply, State.cancelPending, h.sessions]
  | message sid m w w' token clock hcatalogs halike =>
    have hpruned := common_prune h clock.prune
    simp only [Op.apply, handle, ← hpruned.sessions]
    cases hs : (pruneStaleSessions st clock.prune).sessions.get? sid with
    | none => exact reply_twin hpruned rfl
    | some s => exact handleSession_twin hpruned clock.act token ⟨s, hs, rfl⟩ hcatalogs halike
  | toolCall sid name a a' callId d d' w w' token clock hbound halike =>
    have hpruned := common_prune h clock.prune
    obtain ⟨hdigest, hdigests⟩ := hB _ _ _ _ _ hbound
    simp only [Op.apply, handle, ← hpruned.sessions]
    cases hs : (pruneStaleSessions st clock.prune).sessions.get? sid with
    | none => exact reply_twin hpruned rfl
    | some s => exact handleSession_toolCall_twin hpruned clock.act token (halike s hs) hdigest hdigests
  | transcript sid text w w' token clock hcatalogs halike =>
    simp only [Op.apply, handleTranscript, ← h.sessions]
    cases hs : st.sessions.get? sid with
    | none => exact reply_twin h rfl
    | some s =>
      have hsave := common_save h sid (s.touch clock.touch)
      dsimp only
      split
      · exact reply_twin hsave rfl
      split
      · exact reply_twin hsave rfl
      · refine routeTranscript_twin hsave hcatalogs clock.act token ?_
        intro bounded intent hbounded hintent
        exact halike s bounded intent hs hbounded hintent

theorem redacted_id : Outcome.redacted id = Outcome.result := by
  have hmessage : ServerMessage.redacted id = id := by
    funext m
    cases m <;> rfl
  funext o
  unfold Outcome.redacted
  cases o.result with
  | ok messages => simp only [hmessage, List.map_id]
  | error e => rfl

/-- Two runs of twins show the devices the same throughout. -/
theorem run_twin {B : PyStr → Object → Option PyStr → Object → Option PyStr → Prop}
    (hB : ∀ name arguments digest arguments' digest', B name arguments digest arguments' digest' →
      f digest = f digest' ∧ core.DigestsAlike name arguments digest arguments' digest')
    {ops ops' : List (Op ω)} (h : (machine core).Twins (core.Twin B) ops ops') :
    ((machine core).outs ops).map (Outcome.redacted f) = ((machine core).outs ops').map (Outcome.redacted f) := by
  have hstart : Common f (machine core).init (machine core).init := ⟨rfl, rfl⟩
  refine (h.outs (Outcome.redacted f) hstart ?_).2
  intro st st' op op' hcommon htwin
  obtain ⟨hstate, hshown⟩ := apply_twin hB hcommon htwin
  exact ⟨hstate, hshown⟩

/-- The same call. -/
def SameCall (_ : PyStr) (arguments : Object) (digest : Option PyStr) (arguments' : Object) (digest' : Option PyStr) : Prop :=
  arguments = arguments' ∧ digest = digest'

/-- What the handlers return reaches no device but for its coarse facts. What the arguments of tool calls are
does not reach one either, but for the digest of the call, when the digests that come with the calls are alike. -/
theorem messages_redacted (core : PipaCore ω) :
    (∀ ops ops', (machine core).Twins (core.Twin SameCall) ops ops' →
      ((machine core).outs ops).map Outcome.result = ((machine core).outs ops').map Outcome.result) ∧
    ∀ ops ops', (machine core).Twins (core.Twin core.DigestsAlike) ops ops' →
      ((machine core).outs ops).map (Outcome.redacted fun _ => none) =
        ((machine core).outs ops').map (Outcome.redacted fun _ => none) := by
  constructor
  · intro ops ops' h
    have hshown := run_twin (f := id) (fun _ _ _ _ _ hcall => ⟨hcall.2, by rw [hcall.1, hcall.2]; exact ⟨rfl, rfl⟩⟩) h
    rwa [redacted_id] at hshown
  · intro ops ops' h
    exact run_twin (fun _ _ _ _ _ hdigests => ⟨rfl, hdigests⟩) h

end PipaCore

/-! ## Two searches -/

/-- A search; the handler returns the address of the page `w` it opened. -/
def searchTool : ToolDefinition PyStr where
  name := PyStr.ofString "web_search"
  handler w _ := .ok [(PyStr.ofString "success", .bool true), (PyStr.ofString "url", .str w)]
  safety := .unsafeTool
  confirmSummary := some (fun _ _ => .ok (.str (PyStr.ofString "Buscar en Internet")))
  argumentValidator := none
  confirmationPreparer := none
  summarised _ := rfl

/-- The digests of the calls for `gatos` and for `perros`. -/
def searchDigest (query : String) : PyStr :=
  PyStr.ofString (if query = "gatos" then "68bcbe36d4a615c1936563656beedfd8777491bcbad598dec1469f668f5022ab"
    else "6528de82ebdf0d8a814ebef1468819c6f6f257636734445a32ad070f285ee5dc")

def searchArguments (query : String) : Object := [(PyStr.ofString "query", .str (PyStr.ofString query))]

def searchCore : PipaCore PyStr where
  catalog := Dict.empty.set (PyStr.ofString "web_search") searchTool
  ttlSeconds := 60
  ttl_pos := lockCore.ttl_pos
  ttl_le := lockCore.ttl_le
  commandCatalog := none
  capabilityCatalog := none
  commandCatalogAuthoritative := false
  parseCatalogIntent _ _ := .ok none
  parseTextIntent _ := .ok none
  computeRequestDigest _ arguments :=
    match arguments.get? (PyStr.ofString "query") with
    | some (.str q) => .ok (searchDigest (if q = PyStr.ofString "gatos" then "gatos" else "perros"))
    | _ => .error .valueError
  str _ := []

def ServerMessage.isError : ServerMessage → Bool
  | .error .. => true
  | _ => false

/-- A phone searches for `query`, with the digest of the search for `bound`, and confirms it. -/
def searchRun (query bound : String) (page : PyStr) : List (Op PyStr) :=
  [.create (PyStr.ofString "phone") none [PyStr.ofString "display", PyStr.ofString "touch"] true (PyStr.ofString "s")
     ⟨100, 100, 100⟩,
   .handle (PyStr.ofString "s") (.toolCall (PyStr.ofString "web_search") (searchArguments query) none (some (searchDigest bound)))
     page (PyStr.ofString "c") ⟨110, 110, 110⟩,
   .handle (PyStr.ofString "s") (.confirm (PyStr.ofString "c") true) page (PyStr.ofString "d") ⟨120, 120, 120⟩]

theorem searchCore_tool {name : PyStr} {d : ToolDefinition PyStr} (h : searchCore.catalog.get? name = some d) : d = searchTool := by
  simp only [searchCore, Dict.get?_set, Dict.get?_empty] at h
  split at h
  · exact (Option.some.inj h).symm
  · cases h

/-- Two searches are twins, whatever they are for and whatever page they end on. -/
theorem searchRun_twins {B : PyStr → Object → Option PyStr → Object → Option PyStr → Prop} (query query' bound bound' : String)
    (page page' : PyStr)
    (hB : B (PyStr.ofString "web_search") (searchArguments query) (some (searchDigest bound)) (searchArguments query')
      (some (searchDigest bound'))) :
    (machine searchCore).Twins (searchCore.Twin B) (searchRun query bound page) (searchRun query' bound' page') := by
  have hcatalogs : searchCore.SameCatalogs page page' := ⟨nofun, nofun⟩
  have hfacts : SameFacts [(PyStr.ofString "success", .bool true), (PyStr.ofString "url", .str page)]
      [(PyStr.ofString "success", .bool true), (PyStr.ofString "url", .str page')] := rfl
  refine .concat (.concat (.concat .nil (.create ..)) (.toolCall _ _ _ _ _ _ _ _ _ _ _ hB ?_)) (.message _ _ _ _ _ _ hcatalogs ?_)
  · intro _ record record' d _ _ hd
    obtain rfl := searchCore_tool hd
    unfold ToolDefinition.ConfirmAlike ToolRouter.executionValues
    cases record.executionArguments <;> cases record'.executionArguments <;> exact hfacts
  · intro s _
    refine ⟨fun hname => absurd hname (by decide), ?_⟩
    intro d hd
    obtain rfl := searchCore_tool hd
    rintro summary ⟨⟩
    rfl

/-- Neither the page nor, with its own digest, the query shows. -/
theorem messages_redacted_search :
    ((machine searchCore).outs (searchRun "gatos" "gatos" (PyStr.ofString "https://a.test/"))).map Outcome.result =
        ((machine searchCore).outs (searchRun "gatos" "gatos" (PyStr.ofString "https://b.test/"))).map Outcome.result ∧
      ((machine searchCore).outs (searchRun "gatos" "gatos" (PyStr.ofString "https://a.test/"))).map
          (Outcome.redacted fun _ => none) =
        ((machine searchCore).outs (searchRun "perros" "perros" (PyStr.ofString "https://b.test/"))).map
          (Outcome.redacted fun _ => none) :=
  ⟨(PipaCore.messages_redacted searchCore).1 _ _ (searchRun_twins _ _ _ _ _ _ ⟨rfl, rfl⟩),
   (PipaCore.messages_redacted searchCore).2 _ _ (searchRun_twins _ _ _ _ _ _ (by constructor <;> decide))⟩

/-- With one digest for both searches, the query it does not belong to shows. -/
theorem query_shows_without_digest :
    (machine searchCore).Twins (searchCore.Twin fun _ _ digest _ digest' => digest = digest') (searchRun "gatos" "gatos" [])
        (searchRun "perros" "gatos" []) ∧
      ((machine searchCore).outs (searchRun "gatos" "gatos" [])).map (Outcome.redacted fun _ => none) ≠
        ((machine searchCore).outs (searchRun "perros" "gatos" [])).map (Outcome.redacted fun _ => none) := by
  refine ⟨searchRun_twins _ _ _ _ _ _ rfl, ?_⟩
  intro h
  have hcount := congrArg (List.map (fun r => r.toOption.map (List.countP ServerMessage.isError))) h
  revert hcount
  decide

end Pipa.Core
