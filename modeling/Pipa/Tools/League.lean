import Pipa.Intents.Pattern
import Pipa.Lib.Dialogue
import Pipa.Lib.JsonText
import Pipa.Lib.Utf8

/- The adapter for the League client (`league.py`): a conversation with a local
   server that may answer anything, or nothing. What a call has sent, with what was
   answered, is its transcript. Credentials and headers are the same in every
   request and are left out; so is `wait_for_match`, which only reads. -/
namespace Pipa.Tools
open Pipa.Lib
open Pipa.Intents (Unicode parseInt?)

/-! ## Requests and answers -/

/-- What the adapter takes from the interpreter. `truncate` is `int(x)` of the finite float that is written so. -/
structure Python where
  unicode : Unicode
  json : JsonText.Interpreter
  truncate : PyStr → Int

inductive Method where
  | get | post | delete
  deriving DecidableEq

structure Request where
  method : Method
  path : String
  body : Option Object := none

/-- What comes of a request: an `OSError`, another exception of `http.client`, or a response. -/
inductive Answer where
  | unreachable
  | broken
  | response (status : Nat) (body : Bytes)

/-- The exceptions the adapter tells apart. -/
inductive LeagueExn where
  | leagueClientError
  | valueError
  | other

abbrev Conversation (β : Type) := Dialogue Request Answer LeagueExn β

/-- A request with its answer. -/
abbrev Exchange := Request × Answer

def lobbyPath : String := "/lol-lobby/v2/lobby"
def searchPath : String := "/lol-lobby/v2/lobby/matchmaking/search"

/-- `_ALLOWED_ENDPOINTS`. -/
def allowedEndpoints : List (Method × String) :=
  [(.get, lobbyPath), (.get, searchPath), (.post, lobbyPath), (.post, searchPath), (.delete, searchPath)]

/-- A `dict` of pairs: a later value replaces an earlier one. -/
def pythonDict (pairs : List (PyStr × Value)) : Except Empty Value := .ok (.dict (Object.update [] pairs))

namespace LeagueClientApi
variable (py : Python)

/-- What `_request` makes of an answer; `null` is `None`. -/
def readAnswer (acceptedStatuses : List Nat) : Answer → Except LeagueExn Value
  | .unreachable => .error .leagueClientError
  | .broken => .error .other
  | .response status body =>
    let raw := body.take (64 * 1024)
    if status ∈ acceptedStatuses then .ok .null
    else if status < 200 ∨ 300 ≤ status then .error .leagueClientError
    else if raw = [] then .ok .null
    else match decodeUtf8 raw with
      | none => .error .leagueClientError
      | some text =>
        match JsonText.loads py.json pythonDict text with
        | .ok v => .ok v
        | .error .malformed => .error .leagueClientError
        | .error _ => .error .other

/-- `_request`. -/
def request (method : Method) (path : String) (body : Option Object) (acceptedStatuses : List Nat) :
    Conversation Value :=
  if (method, path) ∉ allowedEndpoints then .raise .leagueClientError
  else .ask ⟨method, path, body⟩ (fun answer => .ofExcept (readAnswer py acceptedStatuses answer))

/-! ## Queues -/

/-- `QUEUE_IDS`. -/
def queueIds : List (String × Int) :=
  [("normal_draft", 400), ("ranked_solo", 420), ("ranked_flex", 440), ("aram", 450), ("swiftplay", 490)]

/-- `QUEUE_ALIASES`. -/
def queueAliases : List (String × String) :=
  [("normal", "normal_draft"), ("normal draft", "normal_draft"), ("draft", "normal_draft"),
   ("clasificatoria", "ranked_solo"), ("clasificatoria solo", "ranked_solo"), ("solo", "ranked_solo"),
   ("flex", "ranked_flex"), ("ranked", "ranked_solo")]

/-- `resolve_queue_id`; `none` is its `ValueError`. -/
def resolveQueueId (queue : PyStr) : Option Int :=
  let normalized := py.unicode.lower queue.strip
  let name := ((queueAliases.find? (fun e => PyStr.ofString e.1 = normalized)).map
    (fun e => PyStr.ofString e.2)).getD normalized
  (queueIds.find? (fun e => PyStr.ofString e.1 = name)).map Prod.snd

/-- The name of a queue. -/
def queueName (queueId : Int) : Option String := (queueIds.find? (fun e => e.2 = queueId)).map Prod.fst

/-- How `int(value)` fails. -/
inductive IntError where
  | typeError | valueError | overflowError

/-- `int(value)`. -/
def toInt : Value → Except IntError Int
  | .int n => .ok n
  | .bool b => .ok (if b then 1 else 0)
  | .float repr =>
    if repr = PyStr.ofString "nan" then .error .valueError
    else if repr = PyStr.ofString "inf" ∨ repr = PyStr.ofString "-inf" then .error .overflowError
    else .ok (py.truncate repr)
  | .str s =>
    match parseInt? py.unicode s with
    | some n => .ok n
    | none => .error .valueError
  | _ => .error .typeError

/-- The `queueId` of a lobby, `null` where it has none. -/
def lobbyQueue (lobby : Object) : Value :=
  match lobby.get? (PyStr.ofString "gameConfig") with
  | some (.dict gameConfig) => (Object.get? gameConfig (PyStr.ofString "queueId")).getD .null
  | _ => (lobby.get? (PyStr.ofString "queueId")).getD .null

/-! ## Reading -/

inductive MatchState where
  | unknown | searching | matchFound | notSearching
  deriving DecidableEq

/-- What `search_status` returns; there is no state where matchmaking is not supported. -/
structure SearchStatus where
  supported : Bool
  searching : Bool
  matchFound : Bool
  state : Option MatchState

def searchingStates : List String := ["searching", "inprogress", "in_progress"]

def matchFoundStates : List String :=
  ["found", "match_found", "matchfound", "ready", "ready-check", "ready_check", "readycheck"]

def notSearchingStates : List String := ["none", "idle", "not_searching", "notsearching", "cancelled", "canceled"]

/-- The state of that name. -/
def stateNamed (normalized : PyStr) : MatchState :=
  if normalized ∈ searchingStates.map PyStr.ofString then .searching
  else if normalized ∈ matchFoundStates.map PyStr.ofString then .matchFound
  else if normalized ∈ notSearchingStates.map PyStr.ofString then .notSearching
  else .unknown

/-- The state of a `dict`: of `searchState`, or of `state` where there is none. -/
def matchState (details : Object) : MatchState :=
  match (details.get? (PyStr.ofString "searchState")).getD
      ((details.get? (PyStr.ofString "state")).getD (.str (PyStr.ofString "unknown"))) with
  | .str rawState => stateNamed (py.unicode.casefold rawState.strip)
  | _ => .unknown

def SearchStatus.unsupported : SearchStatus := ⟨false, false, false, none⟩

/-- `search_status` from the details on. -/
def statusOf : Value → SearchStatus
  | .dict details =>
    let state := matchState py details
    { supported := true
      searching := state = .searching || (Object.get? details (PyStr.ofString "searching")).any Value.isTrue
      matchFound := state = .matchFound
      state := some state }
  | _ => ⟨true, false, false, some .unknown⟩

/-- `search_status`. -/
def searchStatus : Conversation SearchStatus := do
  match ← (request py .get searchPath none []).attempt with
  | .ok details => pure (statusOf py details)
  | .error .leagueClientError => pure .unsupported
  | .error e => .raise e

/-- `_safe_lobby`; `none` is the `OverflowError` that escapes it. -/
def safeLobby : Value → Option Object
  | .null => some [("present", .bool false), ("queue_id", .null), ("queue", .null)]
  | .dict lobby =>
    let found (queueId : Option Int) : Object :=
      [("present", .bool true), ("queue_id", (queueId.map Value.int).getD .null),
       ("queue", ((queueId.bind queueName).map (fun name => Value.str (PyStr.ofString name))).getD .null)]
    match lobbyQueue lobby with
    | .null => some (found none)
    | rawQueue =>
      match toInt py rawQueue with
      | .ok queueId => some (found (some queueId))
      | .error .overflowError => none
      | .error _ => some (found none)
  | _ => some [("present", .bool true), ("queue_id", .null), ("queue", .null)]

/-- `status`, as the lobby and the search it returns. -/
def status : Conversation (Object × SearchStatus) := do
  let lobby ← request py .get lobbyPath none [404]
  let search ← searchStatus py
  match safeLobby py lobby with
  | some safe => pure (safe, search)
  | none => .raise .other

/-! ## Acting -/

/-- `start_search` with the lobby it has read: it is made where there is none, and has to be of this queue else. -/
def enterLobby (queueId : Int) : Value → Conversation Unit
  | .null => do
    let _ ← request py .post lobbyPath (some [("queueId", .int queueId)]) []
    pure ()
  | .dict current =>
    match lobbyQueue current with
    | .null => .raise .leagueClientError
    | currentQueue =>
      match toInt py currentQueue with
      | .ok currentQueueId => if currentQueueId ≠ queueId then .raise .leagueClientError else pure ()
      | .error .overflowError => .raise .other
      | .error _ => .raise .leagueClientError
  | _ => .raise .leagueClientError

/-- The queue of a report. -/
def queueFields (queueId : Int) : Object :=
  [("queue", ((queueName queueId).map (fun name => Value.str (PyStr.ofString name))).getD .null),
   ("queue_id", .int queueId)]

/-- `start_search` from the lobby on. -/
def enterQueue (queueId : Int) : Conversation Object := do
  let _ ← request py .post searchPath (some []) []
  let verification ← searchStatus py
  if verification.supported = false || verification.searching = false then .raise .leagueClientError
  else pure (("started", .bool true) :: queueFields queueId)

/-- `start_search`. -/
def startSearch (queue : PyStr) : Conversation Object :=
  match resolveQueueId py queue with
  | none => .raise .valueError
  | some queueId => do
    let current ← request py .get lobbyPath none [404]
    let search ← searchStatus py
    if search.supported = false then .raise .leagueClientError
    else if search.matchFound then .raise .leagueClientError
    else if search.state = some .unknown then .raise .leagueClientError
    else if search.searching then
      pure (("started", .bool false) :: ("already_searching", .bool true) :: queueFields queueId)
    else do
      enterLobby py queueId current
      enterQueue py queueId

/-- `cancel_search` where there is a search. -/
def leaveQueue : Conversation Object := do
  let _ ← request py .delete searchPath none [404]
  let verification ← searchStatus py
  if verification.supported = false || verification.state ≠ some .notSearching || verification.searching ||
      verification.matchFound then .raise .leagueClientError
  else pure [("cancelled", .bool true)]

/-- `cancel_search`. -/
def cancelSearch : Conversation Object := do
  let before ← searchStatus py
  if before.supported = false then .raise .leagueClientError
  else if before.matchFound then .raise .leagueClientError
  else if before.state = some .unknown then .raise .leagueClientError
  else if before.searching = false then pure [("cancelled", .bool false), ("already_not_searching", .bool true)]
  else leaveQueue py

/-! ## What an answer says -/

/-- What `search_status` makes of an answer. -/
def readSearch (answer : Answer) : Except LeagueExn SearchStatus :=
  match readAnswer py [] answer with
  | .ok details => .ok (statusOf py details)
  | .error .leagueClientError => .ok .unsupported
  | .error e => .error e

/-- There is no lobby: a 404, or a success without a document. -/
def NoLobby (answer : Answer) : Prop := readAnswer py [404] answer = .ok .null

/-- There is a lobby of this queue. -/
def LobbyOf (queueId : Int) (answer : Answer) : Prop :=
  ∃ lobby, readAnswer py [404] answer = .ok (.dict lobby) ∧ lobbyQueue lobby ≠ .null ∧
    toInt py (lobbyQueue lobby) = .ok queueId

/-- A state that is known, and no search. -/
def NotSearching (answer : Answer) : Prop :=
  ∃ s, readSearch py answer = .ok s ∧ s.supported = true ∧ s.state = some .notSearching ∧ s.searching = false

/-- A search. -/
def Searching (answer : Answer) : Prop :=
  ∃ s, readSearch py answer = .ok s ∧ s.supported = true ∧ s.searching = true

/-- A search in a state that is known, and no match. -/
def Cancellable (answer : Answer) : Prop :=
  ∃ s, readSearch py answer = .ok s ∧ s.supported = true ∧ s.searching = true ∧ s.state ≠ some .unknown ∧
    s.matchFound = false

def getLobby : Request := ⟨.get, lobbyPath, none⟩
def getSearch : Request := ⟨.get, searchPath, none⟩
def postLobby (queueId : Int) : Request := ⟨.post, lobbyPath, some [("queueId", .int queueId)]⟩
def postSearch : Request := ⟨.post, searchPath, some []⟩
def deleteSearch : Request := ⟨.delete, searchPath, none⟩

/-! ## Conversations -/

section
variable {py : Python} {t : List Exchange}

/-- An allowed request is one exchange. -/
theorem request_runs {method : Method} {path : String} {body : Option Object} {acceptedStatuses : List Nat}
    (h : (method, path) ∈ allowedEndpoints) {r : Except LeagueExn Value} :
    (request py method path body acceptedStatuses).Runs t r ↔
      ∃ answer, t = [(⟨method, path, body⟩, answer)] ∧ r = readAnswer py acceptedStatuses answer := by
  unfold request
  rw [if_neg (not_not_intro h)]
  constructor
  · rintro ⟨answer, later, rfl, hlater⟩
    obtain ⟨rfl, rfl⟩ := Dialogue.runs_ofExcept.mp hlater
    exact ⟨answer, rfl, rfl⟩
  · rintro ⟨answer, rfl, rfl⟩
    exact ⟨answer, [], rfl, Dialogue.runs_ofExcept.mpr ⟨rfl, rfl⟩⟩

theorem searchStatus_runs {r : Except LeagueExn SearchStatus} (h : (searchStatus py).Runs t r) :
    ∃ answer, t = [(getSearch, answer)] ∧ r = readSearch py answer := by
  have hallowed : (Method.get, searchPath) ∈ allowedEndpoints := by decide
  unfold searchStatus at h
  obtain ⟨before, result, after, rfl, hbefore, hafter⟩ | ⟨e, herror, -⟩ := Dialogue.runs_bind.mp h
  · obtain ⟨r', hrequest, hresult⟩ := Dialogue.runs_attempt.mp hbefore
    obtain rfl := Except.ok.inj hresult
    obtain ⟨answer, rfl, hread⟩ := (request_runs hallowed).mp hrequest
    refine ⟨answer, ?_⟩
    unfold readSearch
    rw [← hread]
    split at hafter
    · obtain ⟨rfl, rfl⟩ := hafter
      exact ⟨rfl, rfl⟩
    · obtain ⟨rfl, rfl⟩ := hafter
      exact ⟨rfl, rfl⟩
    · obtain ⟨rfl, rfl⟩ := hafter
      exact ⟨rfl, rfl⟩
  · obtain ⟨r', -, hr⟩ := Dialogue.runs_attempt.mp herror
    cases hr

/-- A status without a search, a match and an unknown state is that of a state that is known for it. -/
theorem readSearch_idle {answer : Answer} {s : SearchStatus} (h : readSearch py answer = .ok s)
    (hsupported : s.supported = true) (hmatch : s.matchFound = false) (hknown : s.state ≠ some .unknown)
    (hidle : s.searching = false) : s.state = some .notSearching := by
  unfold readSearch at h
  split at h
  · rename_i details _
    obtain rfl := Except.ok.inj h
    cases details with
    | dict details =>
      show some (matchState py details) = _
      simp only [statusOf, Bool.or_eq_false_iff, decide_eq_false_iff_not] at hmatch hidle
      cases hstate : matchState py details with
      | unknown => exact absurd (congrArg some hstate) hknown
      | searching => exact absurd hstate hidle.1
      | matchFound => exact absurd hstate hmatch
      | notSearching => rfl
    | _ => exact absurd rfl hknown
  · obtain rfl := Except.ok.inj h
    cases hsupported
  · cases h

/-- A request, and what is done with what it reads. -/
theorem request_then {β : Type} {method : Method} {path : String} {body : Option Object} {acceptedStatuses : List Nat}
    (h : (method, path) ∈ allowedEndpoints) {next : Value → Conversation β} {r : Except LeagueExn β}
    (hrun : (request py method path body acceptedStatuses >>= next).Runs t r) :
    ∃ answer later, t = (⟨method, path, body⟩, answer) :: later ∧
      ((∃ v, readAnswer py acceptedStatuses answer = .ok v ∧ (next v).Runs later r) ∨
        (later = [] ∧ ∃ e, r = .error e)) := by
  obtain ⟨before, v, later, rfl, hbefore, hafter⟩ | ⟨e, herror, rfl⟩ := Dialogue.runs_bind.mp hrun
  · obtain ⟨answer, rfl, hread⟩ := (request_runs h).mp hbefore
    exact ⟨answer, later, rfl, Or.inl ⟨v, hread.symm, hafter⟩⟩
  · obtain ⟨answer, rfl, -⟩ := (request_runs h).mp herror
    exact ⟨answer, [], rfl, Or.inr ⟨rfl, e, rfl⟩⟩

theorem searchStatus_then {β : Type} {next : SearchStatus → Conversation β} {r : Except LeagueExn β}
    (hrun : (searchStatus py >>= next).Runs t r) :
    ∃ answer later, t = (getSearch, answer) :: later ∧
      ((∃ s, readSearch py answer = .ok s ∧ (next s).Runs later r) ∨ (later = [] ∧ ∃ e, r = .error e)) := by
  obtain ⟨before, s, later, rfl, hbefore, hafter⟩ | ⟨e, herror, rfl⟩ := Dialogue.runs_bind.mp hrun
  · obtain ⟨answer, rfl, hread⟩ := searchStatus_runs hbefore
    exact ⟨answer, later, rfl, Or.inl ⟨s, hread.symm, hafter⟩⟩
  · obtain ⟨answer, rfl, -⟩ := searchStatus_runs herror
    exact ⟨answer, [], rfl, Or.inr ⟨rfl, e, rfl⟩⟩

/-! ## Starting -/

/-- The lobby is made, or it was of the queue, or nothing more is sent. -/
theorem enterLobby_runs {queueId : Int} {current : Value} {r : Except LeagueExn Unit}
    (h : (enterLobby py queueId current).Runs t r) :
    (current = .null ∧ ∃ answer, t = [(postLobby queueId, answer)]) ∨
      (t = [] ∧ ((∃ e, r = .error e) ∨ ∃ lobby, current = .dict lobby ∧ lobbyQueue lobby ≠ .null ∧
        toInt py (lobbyQueue lobby) = .ok queueId)) := by
  unfold enterLobby at h
  split at h
  · obtain ⟨answer, later, rfl, ⟨v, -, hlater⟩ | ⟨rfl, -⟩⟩ := request_then (by decide) h
    · obtain ⟨rfl, -⟩ := hlater
      exact Or.inl ⟨rfl, answer, rfl⟩
    · exact Or.inl ⟨rfl, answer, rfl⟩
  · rename_i lobby
    split at h
    · obtain ⟨rfl, rfl⟩ := h
      exact Or.inr ⟨rfl, Or.inl ⟨_, rfl⟩⟩
    · rename_i hqueue
      split at h
      · rename_i currentQueueId hid
        split at h
        · obtain ⟨rfl, rfl⟩ := h
          exact Or.inr ⟨rfl, Or.inl ⟨_, rfl⟩⟩
        · rename_i hsame
          obtain ⟨rfl, -⟩ := h
          rw [not_not] at hsame
          subst hsame
          exact Or.inr ⟨rfl, Or.inr ⟨lobby, rfl, hqueue, hid⟩⟩
      · obtain ⟨rfl, rfl⟩ := h
        exact Or.inr ⟨rfl, Or.inl ⟨_, rfl⟩⟩
      · obtain ⟨rfl, rfl⟩ := h
        exact Or.inr ⟨rfl, Or.inl ⟨_, rfl⟩⟩
  · obtain ⟨rfl, rfl⟩ := h
    exact Or.inr ⟨rfl, Or.inl ⟨_, rfl⟩⟩

/-- The search is asked for once, and reported where the read that follows shows it. -/
theorem enterQueue_runs {queueId : Int} {r : Except LeagueExn Object} (h : (enterQueue py queueId).Runs t r) :
    ∃ answer, (t = [(postSearch, answer)] ∧ ∃ e, r = .error e) ∨
      ∃ verification, t = [(postSearch, answer), (getSearch, verification)] ∧
        ∀ report, r = .ok report → Searching py verification := by
  obtain ⟨answer, later, rfl, ⟨v, -, hlater⟩ | ⟨rfl, herror⟩⟩ := request_then (by decide) h
  · obtain ⟨verification, rest, rfl, ⟨s, hread, hrest⟩ | ⟨rfl, e, rfl⟩⟩ := searchStatus_then hlater
    · split at hrest
      · obtain ⟨rfl, rfl⟩ := hrest
        exact ⟨answer, Or.inr ⟨verification, rfl, by simp⟩⟩
      · rename_i hshown
        obtain ⟨rfl, -⟩ := hrest
        simp only [Bool.or_eq_true, decide_eq_true_eq, not_or, Bool.not_eq_false] at hshown
        exact ⟨answer, Or.inr ⟨verification, rfl, fun _ _ => ⟨s, hread, hshown⟩⟩⟩
    · exact ⟨answer, Or.inr ⟨verification, rfl, by simp⟩⟩
  · exact ⟨answer, Or.inl ⟨rfl, herror⟩⟩

/-- A start only reads, or acts after both reads have allowed it. -/
theorem startSearch_runs {queue : PyStr} {r : Except LeagueExn Object} (h : (startSearch py queue).Runs t r) :
    ((∀ e ∈ t, e.1.method = .get) ∧
        ∀ report, r = .ok report → report.get? (PyStr.ofString "started") ≠ some (.bool true)) ∨
      ∃ queueId lobby search made acts, resolveQueueId py queue = some queueId ∧
        t = (getLobby, lobby) :: (getSearch, search) :: (made ++ acts) ∧ NotSearching py search ∧
        ((NoLobby py lobby ∧ ∃ answer, made = [(postLobby queueId, answer)]) ∨
          (made = [] ∧ LobbyOf py queueId lobby)) ∧
        ((acts = [] ∧ ∃ e, r = .error e) ∨ (enterQueue py queueId).Runs acts r) := by
  unfold startSearch at h
  split at h
  · obtain ⟨rfl, rfl⟩ := h
    exact Or.inl ⟨by simp, by simp⟩
  rename_i queueId hqueue
  obtain ⟨lobby, later, rfl, ⟨current, hlobby, hlater⟩ | ⟨rfl, e, rfl⟩⟩ := request_then (by decide) h
  swap
  · exact Or.inl ⟨by simp, by simp⟩
  obtain ⟨search, rest, rfl, ⟨s, hsearch, hrest⟩ | ⟨rfl, e, rfl⟩⟩ := searchStatus_then hlater
  swap
  · exact Or.inl ⟨by simp [getSearch], by simp⟩
  split at hrest
  · obtain ⟨rfl, rfl⟩ := hrest
    exact Or.inl ⟨by simp [getSearch], by simp⟩
  rename_i hsupported
  split at hrest
  · obtain ⟨rfl, rfl⟩ := hrest
    exact Or.inl ⟨by simp [getSearch], by simp⟩
  rename_i hmatch
  split at hrest
  · obtain ⟨rfl, rfl⟩ := hrest
    exact Or.inl ⟨by simp [getSearch], by simp⟩
  rename_i hknown
  split at hrest
  · obtain ⟨rfl, rfl⟩ := hrest
    refine Or.inl ⟨by simp [getSearch], ?_⟩
    rintro report hreport
    obtain rfl := Except.ok.inj hreport
    simp [Object.get?]
  rename_i hidle
  have hnot : NotSearching py search := by
    rw [Bool.not_eq_false] at hsupported
    rw [Bool.not_eq_true] at hmatch hidle
    exact ⟨s, hsearch, hsupported, readSearch_idle hsearch hsupported hmatch hknown hidle, hidle⟩
  obtain ⟨made, _, acts, rfl, hmade, hacts⟩ | ⟨e, herror, rfl⟩ := Dialogue.runs_bind.mp hrest
  · obtain ⟨rfl, answer, rfl⟩ | ⟨rfl, ⟨e, he⟩ | ⟨current, rfl, hlobbyQueue, hid⟩⟩ := enterLobby_runs hmade
    · exact Or.inr ⟨queueId, lobby, search, _, acts, hqueue, rfl, hnot, Or.inl ⟨hlobby, answer, rfl⟩, Or.inr hacts⟩
    · cases he
    · exact Or.inr ⟨queueId, lobby, search, [], acts, hqueue, rfl, hnot,
        Or.inr ⟨rfl, current, hlobby, hlobbyQueue, hid⟩, Or.inr hacts⟩
  · obtain ⟨rfl, answer, rfl⟩ | ⟨rfl, -⟩ := enterLobby_runs herror
    · refine Or.inr ⟨queueId, lobby, search, _, [], hqueue, rfl, hnot, Or.inl ⟨hlobby, answer, rfl⟩, ?_⟩
      exact Or.inl ⟨rfl, e, rfl⟩
    · exact Or.inl ⟨by simp [getSearch], by simp⟩

/-! ## Cancelling -/

/-- A cancellation only reads, or the read before its one `DELETE` has allowed it and the read after it is
reported. -/
theorem cancelSearch_runs {r : Except LeagueExn Object} (h : (cancelSearch py).Runs t r) :
    ((∀ e ∈ t, e.1.method = .get) ∧
        ∀ report, r = .ok report → report.get? (PyStr.ofString "cancelled") ≠ some (.bool true)) ∨
      ∃ search answer, Cancellable py search ∧
        ((t = [(getSearch, search), (deleteSearch, answer)] ∧ ∃ e, r = .error e) ∨
          ∃ verification, t = [(getSearch, search), (deleteSearch, answer), (getSearch, verification)] ∧
            ∀ report, r = .ok report → NotSearching py verification) := by
  obtain ⟨search, later, rfl, ⟨s, hsearch, hlater⟩ | ⟨rfl, e, rfl⟩⟩ := searchStatus_then h
  swap
  · exact Or.inl ⟨by simp [getSearch], by simp⟩
  split at hlater
  · obtain ⟨rfl, rfl⟩ := hlater
    exact Or.inl ⟨by simp [getSearch], by simp⟩
  rename_i hsupported
  split at hlater
  · obtain ⟨rfl, rfl⟩ := hlater
    exact Or.inl ⟨by simp [getSearch], by simp⟩
  rename_i hmatch
  split at hlater
  · obtain ⟨rfl, rfl⟩ := hlater
    exact Or.inl ⟨by simp [getSearch], by simp⟩
  rename_i hknown
  split at hlater
  · obtain ⟨rfl, rfl⟩ := hlater
    refine Or.inl ⟨by simp [getSearch], ?_⟩
    rintro report hreport
    obtain rfl := Except.ok.inj hreport
    simp [Object.get?]
  rename_i hsearching
  have hcancellable : Cancellable py search := by
    rw [Bool.not_eq_false] at hsupported hsearching
    rw [Bool.not_eq_true] at hmatch
    exact ⟨s, hsearch, hsupported, hsearching, hknown, hmatch⟩
  obtain ⟨answer, rest, rfl, ⟨v, -, hrest⟩ | ⟨rfl, herror⟩⟩ := request_then (by decide) hlater
  · obtain ⟨verification, last, rfl, ⟨s', hverified, hlast⟩ | ⟨rfl, e, rfl⟩⟩ := searchStatus_then hrest
    · refine Or.inr ⟨search, answer, hcancellable, Or.inr ?_⟩
      split at hlast
      · obtain ⟨rfl, rfl⟩ := hlast
        exact ⟨verification, rfl, by simp⟩
      · rename_i hshown
        obtain ⟨rfl, -⟩ := hlast
        simp only [Bool.or_eq_true, decide_eq_true_eq, not_or, Bool.not_eq_false, Bool.not_eq_true, ne_eq,
          not_not] at hshown
        exact ⟨verification, rfl, fun _ _ => ⟨s', hverified, hshown.1.1.1, hshown.1.1.2, hshown.1.2⟩⟩
    · exact Or.inr ⟨search, answer, hcancellable, Or.inr ⟨verification, rfl, by simp⟩⟩
  · exact Or.inr ⟨search, answer, hcancellable, Or.inl ⟨rfl, herror⟩⟩

/-! ## Endpoints -/

/-- The endpoint of a request is one of the five. -/
def Request.Allowed (q : Request) : Prop := (q.method, q.path) ∈ allowedEndpoints

theorem request_allowed (method : Method) (path : String) (body : Option Object) (acceptedStatuses : List Nat) :
    (request py method path body acceptedStatuses).Asks Request.Allowed := by
  by_cases h : (method, path) ∈ allowedEndpoints
  · intro t r hrun e he
    obtain ⟨answer, rfl, -⟩ := (request_runs h).mp hrun
    obtain rfl := List.mem_singleton.mp he
    exact h
  · unfold request
    rw [if_pos h]
    exact .raise

theorem searchStatus_allowed : (searchStatus py).Asks Request.Allowed := by
  refine .bind (request_allowed _ _ _ _).attempt (fun r => ?_)
  split
  · exact .pure
  · exact .pure
  · exact .raise

theorem status_allowed : (status py).Asks Request.Allowed := by
  refine .bind (request_allowed _ _ _ _) (fun lobby => .bind searchStatus_allowed (fun search => ?_))
  split
  · exact .pure
  · exact .raise

theorem enterLobby_allowed (queueId : Int) (current : Value) :
    (enterLobby py queueId current).Asks Request.Allowed := by
  unfold enterLobby
  split
  · exact .bind (request_allowed _ _ _ _) (fun _ => .pure)
  · split
    · exact .raise
    · split
      · exact .ite .raise .pure
      · exact .raise
      · exact .raise
  · exact .raise

theorem startSearch_allowed (queue : PyStr) : (startSearch py queue).Asks Request.Allowed := by
  unfold startSearch
  split
  · exact .raise
  refine .bind (request_allowed _ _ _ _) (fun current => .bind searchStatus_allowed (fun search => ?_))
  refine .ite .raise (.ite .raise (.ite .raise (.ite .pure (.bind (enterLobby_allowed _ _) (fun _ => ?_)))))
  refine .bind (request_allowed _ _ _ _) (fun _ => .bind searchStatus_allowed (fun verification => ?_))
  exact .ite .raise .pure

theorem cancelSearch_allowed : (cancelSearch py).Asks Request.Allowed := by
  refine .bind searchStatus_allowed (fun before => .ite .raise (.ite .raise (.ite .raise (.ite .pure ?_))))
  refine .bind (request_allowed _ _ _ _) (fun _ => .bind searchStatus_allowed (fun verification => ?_))
  exact .ite .raise .pure

end

/-! ## Whatever the client answers -/

/-- The requests of a transcript to an endpoint. -/
def sentTo (method : Method) (path : String) (t : List Exchange) : List Exchange :=
  t.filter (fun e => e.1.method = method && e.1.path = path)

/-- How a start may go. -/
structure StartSafe (queue : PyStr) (t : List Exchange) (r : Except LeagueExn Object) : Prop where
  lobbyOnce : (sentTo .post lobbyPath t).length ≤ 1
  searchOnce : (sentTo .post searchPath t).length ≤ 1
  keepsSearch : ∀ e ∈ t, e.1.method ≠ .delete
  /-- Whatever is posted comes after both reads, of which the second shows no search. -/
  posts : (∃ e ∈ t, e.1.method = .post) → ∃ queueId lobby search acts, resolveQueueId py queue = some queueId ∧
    t = (getLobby, lobby) :: (getSearch, search) :: acts ∧ NotSearching py search ∧
    (sentTo .post lobbyPath acts ≠ [] → NoLobby py lobby) ∧
    (sentTo .post searchPath acts ≠ [] → NoLobby py lobby ∨ LobbyOf py queueId lobby)
  started : ∀ report, r = .ok report → report.get? (PyStr.ofString "started") = some (.bool true) →
    ∃ before answer verification, t = before ++ [(postSearch, answer), (getSearch, verification)] ∧
      Searching py verification

/-- How a cancellation may go. -/
structure CancelSafe (t : List Exchange) (r : Except LeagueExn Object) : Prop where
  deleteOnce : (sentTo .delete searchPath t).length ≤ 1
  posts : ∀ e ∈ t, e.1.method ≠ .post
  deletes : (∃ e ∈ t, e.1.method = .delete) → ∃ search acts, t = (getSearch, search) :: acts ∧ Cancellable py search
  cancelled : ∀ report, r = .ok report → report.get? (PyStr.ofString "cancelled") = some (.bool true) →
    ∃ before answer verification, t = before ++ [(deleteSearch, answer), (getSearch, verification)] ∧
      NotSearching py verification

variable {py}

theorem reads_only {t : List Exchange} (h : ∀ e ∈ t, e.1.method = .get) {method : Method} (hmethod : method ≠ .get) :
    (∀ e ∈ t, e.1.method ≠ method) ∧ ∀ path, sentTo method path t = [] := by
  have hnone : ∀ e ∈ t, e.1.method ≠ method := fun e he hm => hmethod (hm.symm.trans (h e he))
  refine ⟨hnone, fun path => ?_⟩
  rw [sentTo, List.filter_eq_nil_iff]
  intro e he
  simp [hnone e he]

/-- What a start does after both reads: it makes the lobby where there is none, and asks for the search once. -/
theorem start_acts {queueId : Int} {made acts : List Exchange} {r : Except LeagueExn Object}
    (hmade : (∃ answer, made = [(postLobby queueId, answer)]) ∨ made = [])
    (hacts : (acts = [] ∧ ∃ e, r = .error e) ∨ (enterQueue py queueId).Runs acts r) :
    (sentTo .post lobbyPath (made ++ acts)).length ≤ 1 ∧ (sentTo .post searchPath (made ++ acts)).length ≤ 1 ∧
      (∀ e ∈ made ++ acts, e.1.method ≠ .delete) ∧ (sentTo .post lobbyPath (made ++ acts) ≠ [] → made ≠ []) ∧
      ∀ report, r = .ok report → ∃ answer verification,
        acts = [(postSearch, answer), (getSearch, verification)] ∧ Searching py verification := by
  have hpaths : lobbyPath ≠ searchPath := by decide
  obtain ⟨rfl, e, rfl⟩ | hrun := hacts
  · obtain ⟨answer, rfl⟩ | rfl := hmade
    · simp [sentTo, postLobby, hpaths]
    · simp [sentTo]
  · obtain ⟨asked, ⟨rfl, e, rfl⟩ | ⟨verification, rfl, hshown⟩⟩ := enterQueue_runs hrun
    · obtain ⟨answer, rfl⟩ | rfl := hmade
      · simp [sentTo, postLobby, postSearch, hpaths, hpaths.symm]
      · simp [sentTo, postSearch, hpaths.symm]
    · have hreport : ∀ report, r = .ok report → ∃ answer verification',
          [(postSearch, asked), (getSearch, verification)] = [(postSearch, answer), (getSearch, verification')] ∧
            Searching py verification' := fun report hr => ⟨asked, verification, rfl, hshown report hr⟩
      obtain ⟨answer, rfl⟩ | rfl := hmade
      · refine ⟨?_, ?_, ?_, ?_, hreport⟩ <;> simp [sentTo, postLobby, postSearch, getSearch, hpaths, hpaths.symm]
      · refine ⟨?_, ?_, ?_, ?_, hreport⟩ <;> simp [sentTo, postSearch, getSearch, hpaths.symm]

theorem start_safe {queue : PyStr} {t : List Exchange} {r : Except LeagueExn Object}
    (h : (startSearch py queue).Runs t r) : StartSafe py queue t r := by
  obtain ⟨hreads, hreport⟩ | ⟨queueId, lobby, search, made, acts, hqueue, rfl, hnot, hmade, hacts⟩ := startSearch_runs h
  · obtain ⟨hposts, hsent⟩ := reads_only hreads (show Method.post ≠ .get by decide)
    refine ⟨?_, ?_, (reads_only hreads (by decide)).1, ?_, fun report hr hs => absurd hs (hreport report hr)⟩
    · rw [hsent]
      exact Nat.zero_le 1
    · rw [hsent]
      exact Nat.zero_le 1
    · rintro ⟨e, he, hm⟩
      exact absurd hm (hposts e he)
  · have hshape : (∃ answer, made = [(postLobby queueId, answer)]) ∨ made = [] := hmade.imp And.right And.left
    obtain ⟨hlobbies, hsearches, hkeeps, hmakes, hstarted⟩ := start_acts hshape hacts
    have hsent (path : String) : sentTo .post path ((getLobby, lobby) :: (getSearch, search) :: (made ++ acts)) =
        sentTo .post path (made ++ acts) := by
      simp [sentTo, getLobby, getSearch]
    refine ⟨by rwa [hsent], by rwa [hsent], ?_, ?_, ?_⟩
    · intro e he
      obtain rfl | rfl | he := by simpa using he
      · simp [getLobby]
      · simp [getSearch]
      · exact hkeeps e (by simpa using he)
    · intro _
      refine ⟨queueId, lobby, search, made ++ acts, hqueue, rfl, hnot, ?_, ?_⟩
      · intro hposted
        obtain ⟨hnone, -⟩ | ⟨rfl, -⟩ := hmade
        · exact hnone
        · exact absurd rfl (hmakes hposted)
      · intro _
        exact hmade.imp And.left And.right
    · intro report hr _
      obtain ⟨answer, verification, rfl, hshown⟩ := hstarted report hr
      exact ⟨(getLobby, lobby) :: (getSearch, search) :: made, answer, verification, rfl, hshown⟩

theorem cancel_safe {t : List Exchange} {r : Except LeagueExn Object} (h : (cancelSearch py).Runs t r) :
    CancelSafe py t r := by
  obtain ⟨hreads, hreport⟩ | ⟨search, answer, hcancellable, hshape⟩ := cancelSearch_runs h
  · obtain ⟨hdeletes, hsent⟩ := reads_only hreads (show Method.delete ≠ .get by decide)
    refine ⟨?_, (reads_only hreads (by decide)).1, ?_, fun report hr hs => absurd hs (hreport report hr)⟩
    · rw [hsent]
      exact Nat.zero_le 1
    · rintro ⟨e, he, hm⟩
      exact absurd hm (hdeletes e he)
  · obtain ⟨rfl, e, rfl⟩ | ⟨verification, rfl, hshown⟩ := hshape
    · refine ⟨?_, ?_, fun _ => ⟨search, _, rfl, hcancellable⟩, by simp⟩
      · simp [sentTo, getSearch, deleteSearch]
      · simp [getSearch, deleteSearch]
    · refine ⟨?_, ?_, fun _ => ⟨search, _, rfl, hcancellable⟩, ?_⟩
      · simp [sentTo, getSearch, deleteSearch]
      · simp [getSearch, deleteSearch]
      · intro report hr _
        exact ⟨[(getSearch, search)], answer, verification, rfl, hshown report hr⟩

/-- For every sequence of answers: a start posts at most once to each endpoint and only behind reads that allow it,
a cancellation deletes at most once and only behind one, what they report was read afterwards, and no call leaves
the five endpoints. -/
theorem matchmaking_known_states (py : Python) (answers : Nat → Answer) :
    (∀ queue, StartSafe py queue ((startSearch py queue).talk answers).1 ((startSearch py queue).talk answers).2) ∧
      CancelSafe py ((cancelSearch py).talk answers).1 ((cancelSearch py).talk answers).2 ∧
      (∀ queue, ∀ e ∈ ((startSearch py queue).talk answers).1, Request.Allowed e.1) ∧
      (∀ e ∈ ((cancelSearch py).talk answers).1, Request.Allowed e.1) ∧
      (∀ e ∈ ((searchStatus py).talk answers).1, Request.Allowed e.1) ∧
      (∀ e ∈ ((status py).talk answers).1, Request.Allowed e.1) ∧
      ∀ method path body acceptedStatuses, ∀ e ∈ ((request py method path body acceptedStatuses).talk answers).1,
        Request.Allowed e.1 := by
  refine ⟨fun queue => start_safe (Dialogue.runs_talk _ _), cancel_safe (Dialogue.runs_talk _ _), ?_, ?_, ?_, ?_, ?_⟩
  · intro queue
    exact startSearch_allowed queue _ _ (Dialogue.runs_talk _ _)
  · exact cancelSearch_allowed _ _ (Dialogue.runs_talk _ _)
  · exact searchStatus_allowed _ _ (Dialogue.runs_talk _ _)
  · exact status_allowed _ _ (Dialogue.runs_talk _ _)
  · intro method path body acceptedStatuses
    exact request_allowed method path body acceptedStatuses _ _ (Dialogue.runs_talk _ _)

end LeagueClientApi

end Pipa.Tools
