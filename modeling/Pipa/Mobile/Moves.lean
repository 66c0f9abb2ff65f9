import Pipa.Mobile.ViewModel

/- What an event can do to the session that the screen shows.

   Of the screen little matters for this: what it asks to be confirmed, what it has asked of which client, and
   the number of the session. `Move` says what an event can do to that; the rest follows from it. -/
namespace Pipa.Mobile
open Pipa.Lib

/-- What the screen holds of its session. -/
structure Session where
  pending : Option PipaMobileConfirmation
  digest : Option PyStr
  busy : Bool
  client : Option Nat
  requestTask : Option Nat
  generation : Nat

def PipaMobileViewModel.session (m : PipaMobileViewModel) : Session :=
  ⟨m.pendingConfirmation, m.pendingLocalRequestDigest, m.requestInProgress, m.client, m.requestTask,
    m.sessionGeneration⟩

/-! ## What does not touch the session -/

namespace PipaMobileViewModel
variable (p : Phone) (m : PipaMobileViewModel)

@[simp] theorem session_fail (message : String) : (m.fail message).session = m.session := rfl
@[simp] theorem session_status (message : String) : (m.status message).session = m.session := rfl
@[simp] theorem session_clearMessages : m.clearMessages.session = m.session := rfl

@[simp] theorem session_saveSettings (saved : Bool) : (m.saveSettings saved).session = m.session := by
  cases saved <;> rfl

@[simp] theorem session_clearLocalPreview : m.clearLocalPreview.session = { m.session with digest := none } := rfl

@[simp] theorem session_clearCommandDraft :
    m.clearCommandDraft.session = { m.session with pending := none, digest := none } := rfl

theorem session_mark : (m.markServerFingerprintVerified p).session = m.session := by
  unfold markServerFingerprintVerified
  split <;> rfl

theorem session_prepareIdentity (identity : Option Identity) (saved : Bool) :
    (m.prepareIdentity identity saved).session = m.session := by
  unfold prepareIdentity
  split
  · rw [session_saveSettings]
    rfl
  · rfl

theorem session_updateVoiceDraft (text : PyStr) : (m.updateVoiceDraft p text).session = m.session := by
  unfold updateVoiceDraft
  dsimp only
  split <;> rfl

/-! ## Answers -/

/-- An answer leaves the session, forgets what was to be pinned, or asks for a confirmation. -/
theorem session_applyResponse {response : Object} {m' : PipaMobileViewModel}
    (h : m.applyResponse p response = some m') :
    m'.session = m.session ∨ m'.session = { m.session with digest := none } ∨
      ∃ q, m.confirmationOf p response = some q ∧
        m'.session = { m.session with pending := some q, digest := none } := by
  unfold applyResponse at h
  split at h
  · cases h
  split at h
  · obtain ⟨q, hq, rfl⟩ := Option.map_eq_some_iff.mp h
    exact .inr (.inr ⟨q, hq, rfl⟩)
  split at h
  · split at h
    · obtain rfl := Option.some.inj h
      exact .inr (.inl rfl)
    · cases h
  split at h
  · split at h
    · obtain rfl := Option.some.inj h
      exact .inl rfl
    · cases h
  split at h
  · split at h
    · obtain rfl := Option.some.inj h
      exact .inr (.inl rfl)
    · cases h
  · cases h

theorem text?_of_get {response : Object} {field : String} {maxBytes : Nat} {s text : PyStr}
    (hget : response.get? (PyStr.ofString field) = some (.str s)) (h : text? response field maxBytes = some text) :
    text = s := by
  simp only [text?, hget, Option.bind_some, asString, Option.bind_eq_bind, guard_bind_some, Option.pure_def] at h
  exact (Option.some.inj h.2).symm

/-- The `ui_state` that follows leaves it. -/
theorem session_followUp {answer : Answer} {m' : PipaMobileViewModel}
    (h : m.applyResponse p answer.followUp = some m') : m'.session = m.session := by
  unfold applyResponse at h
  split at h
  · cases h
  rename_i type htype
  obtain rfl := text?_of_get answer.isUIState htype
  rw [if_neg (by simp), if_neg (by simp), if_pos rfl] at h
  split at h
  · obtain rfl := Option.some.inj h
    rfl
  · cases h

/-- What `apply` leaves of the session, valid or not. -/
theorem session_apply (answer : Answer) :
    (m.apply p [answer.first, answer.followUp]).1.session = m.session ∨
      (m.apply p [answer.first, answer.followUp]).1.session = { m.session with digest := none } ∨
      ∃ q, m.confirmationOf p answer.first = some q ∧
        (m.apply p [answer.first, answer.followUp]).1.session =
          { m.session with pending := some q, digest := none } := by
  rw [apply]
  cases hfirst : m.applyResponse p answer.first with
  | none => exact .inl rfl
  | some m' =>
    have hsecond : (m'.apply p [answer.followUp]).1.session = m'.session := by
      rw [apply]
      cases hfollowUp : m'.applyResponse p answer.followUp with
      | none => rfl
      | some m'' => exact session_followUp p m' hfollowUp
    simp only [hsecond]
    exact session_applyResponse p m hfirst

end PipaMobileViewModel

/-- A job before anything of it is done. -/
def Job.unbegun : Job → Job
  | .connect client host port _ => .connect client host port .queued
  | .request client generation message r _ => .request client generation message r false
  | .disconnect client => .disconnect client

namespace MainActor

/-! ## What an event can do -/

/-- The same tasks with the same jobs, some of them cancelled, `operationTask` and `requestTask` among them. -/
structure Cancels (a : MainActor) (tasks : Dict Nat Task) : Prop where
  job : ∀ t task', tasks.get? t = some task' → ∃ task, a.tasks.get? t = some task ∧ task'.job = task.job ∧
    (task'.cancelled = false → task.cancelled = false ∧ a.model.operationTask ≠ some t ∧ a.model.requestTask ≠ some t)

/-- What an event asks for, and what it pins for the confirmation of it. -/
inductive Asks (p : Phone) (a : MainActor) : Event → Request → Option PyStr → Prop
  | text (text : PyStr) : Asks p a .sendTextCommand (.sendText text) a.model.pendingLocalRequestDigest
  | tool (command : PipaMobileCommand) (values : List (PyStr × PyStr)) (arguments : Object) (digest : PyStr)
      (harguments : command.toolArguments p.toPlatform values = some arguments)
      (hdigest : p.digest command.toolName arguments = some digest) :
      Asks p a (.sendStructuredCommand command values) (.callTool command.toolName arguments) (some digest)
  | confirm (q : PipaMobileConfirmation) (accepted : Bool) (now : Int)
      (hpending : a.model.pendingConfirmation = some q) (hvalid : q.isExpired now = false) :
      Asks p a (.resolveConfirmation accepted now) (.confirm q.confirmationID accepted) none

/-- The task of a request that the screen still waits for. -/
structure Live (a : MainActor) (t : Nat) (client : Nat) (request : Request) (sent : Bool) : Prop where
  task : ∃ message, a.tasks.get? t = some ⟨.request client a.model.sessionGeneration message request sent, false⟩

/-- The session that an answer leaves. -/
def Answered (p : Phone) (a : MainActor) (outcome : Outcome) (s : Session) : Prop :=
  (s.pending = none ∨ s.pending = a.model.pendingConfirmation ∨
    ∃ answer q, outcome = .answer answer ∧ a.model.confirmationOf p answer.first = some q ∧ s.pending = some q) ∧
  (s.client = a.model.client ∨ s.client = none ∧ s.pending = none) ∧ s.generation = a.model.sessionGeneration

/-- A job goes on: it stays the same job, and a request is sent. -/
structure Steps (e : Event) (t : Nat) (job job' : Job) : Prop where
  same : job'.unbegun = job.unbegun
  request : ∀ client generation message request sent, job' = .request client generation message request sent →
    e = .start t ∧ job = .request client generation message request false ∧ sent = true

/-- What an event can do. -/
inductive Move (p : Phone) (a : MainActor) : Event → MainActor → Prop
  | quiet (e : Event) (m : PipaMobileViewModel) (h : m.session = a.model.session) : Move p a e { a with model := m }
  | unpinned (e : Event) (m : PipaMobileViewModel) (hfree : a.model.requestInProgress = false)
      (h : m.session = { a.model.session with digest := none }) : Move p a e { a with model := m }
  | dropped (deleted : Bool) (m : PipaMobileViewModel) (happ : a.model.isConnected = false)
      (h : m.session = { a.model.session with pending := none, digest := none }) :
      Move p a (.forgetConnectionSettings deleted) { a with model := m }
  | left (e : Event) (m : PipaMobileViewModel) (tasks : Dict Nat Task)
      (htasks : Cancels a tasks)
      (h : m.session = ⟨none, none, false, none, none, a.model.sessionGeneration + 1⟩) :
      Move p a e
        { a with
          model := m
          tasks := tasks.set a.created ⟨.disconnect a.model.client, false⟩
          created := a.created + 1 }
  | opened (identity : PipaMobileViewModel.Identity) (saved : Bool) (m : PipaMobileViewModel)
      (host : PyStr) (port : Nat) (hverified : a.model.serverFingerprintVerified p = true)
      (hclient : a.model.client = none)
      (h : m.session = { a.model.session with client := some a.clients.length }) :
      Move p a (.connect (some identity) saved)
        { a with
          model := m
          clients := a.clients ++ [⟨a.model.serverPublicKey, a.model.serverID, identity⟩]
          tasks := a.tasks.set a.created ⟨.connect a.clients.length host port .queued, false⟩
          created := a.created + 1 }
  | asked (e : Event) (request : Request) (digest : Option PyStr) (m : PipaMobileViewModel) (client : Nat)
      (message : String) (hask : Asks p a e request digest) (hclient : a.model.client = some client)
      (hfree : a.model.requestInProgress = false)
      (h : m.session = ⟨none, digest, true, some client, some a.created, a.model.sessionGeneration⟩) :
      Move p a e
        { a with
          model := m
          tasks := a.tasks.set a.created ⟨.request client a.model.sessionGeneration message request false, false⟩
          created := a.created + 1 }
  | stepped (e : Event) (t : Nat) (task : Task) (job : Job) (htask : a.tasks.get? t = some task)
      (hjob : Steps e t task.job job) : Move p a e { a with tasks := a.tasks.set t { task with job } }
  | finished (e : Event) (t : Nat) (m : PipaMobileViewModel) (h : m.session = a.model.session) :
      Move p a e { a with model := m, tasks := a.tasks.erase t }
  | drifted (t : Nat) (client : Nat) (host : PyStr) (port : Nat) (m : PipaMobileViewModel)
      (htask : a.tasks.get? t = some ⟨.connect client host port .failing, false⟩)
      (h : m.session = { a.model.session with client := none }) :
      Move p a (.resume t .done) { a with model := m, tasks := a.tasks.erase t }
  | ended (t client : Nat) (request : Request) (outcome : Outcome) (m : PipaMobileViewModel)
      (hlive : Live a t client request true) (h : Answered p a outcome m.session) :
      Move p a (.resume t outcome) { a with model := m, tasks := a.tasks.erase t }
  | closed (t client : Nat) (request : Request) (outcome : Outcome) (m : PipaMobileViewModel)
      (hlive : Live a t client request true) (h : Answered p a outcome m.session) :
      Move p a (.resume t outcome)
        { a with
          model := m
          tasks := (a.tasks.erase t).set a.created ⟨.disconnect (some client), false⟩
          created := a.created + 1 }

variable {p : Phone} {a : MainActor}

theorem cancel_eq (task : Option Nat) : ∃ tasks, a.cancel task = { a with tasks } ∧
    ∀ t task', tasks.get? t = some task' → ∃ old, a.tasks.get? t = some old ∧ task'.job = old.job ∧
      (task'.cancelled = false → old.cancelled = false ∧ task ≠ some t) := by
  have keep (hne : ∀ t, (a.tasks.get? t).isSome = true → task ≠ some t) :
      ∀ t task', a.tasks.get? t = some task' → ∃ old, a.tasks.get? t = some old ∧ task'.job = old.job ∧
        (task'.cancelled = false → old.cancelled = false ∧ task ≠ some t) :=
    fun t task' ht => ⟨task', ht, rfl, fun hlive => ⟨hlive, hne t (Option.isSome_of_eq_some ht)⟩⟩
  cases task with
  | none => exact ⟨a.tasks, rfl, keep fun t _ h => by cases h⟩
  | some n =>
    cases hn : a.tasks.get? n with
    | none =>
      refine ⟨a.tasks, by simp only [cancel, hn], keep fun t ht h => ?_⟩
      obtain rfl := Option.some.inj h
      rw [hn] at ht
      cases ht
    | some old =>
      refine ⟨a.tasks.set n { old with cancelled := true }, by simp only [cancel, hn], ?_⟩
      intro t task' ht
      obtain ⟨rfl, rfl⟩ | ⟨hne, ht⟩ := Dict.get?_set_some.mp ht
      · exact ⟨old, hn, rfl, fun h => by cases h⟩
      · exact ⟨task', ht, rfl, fun hlive => ⟨hlive, fun h => hne (Option.some.inj h).symm⟩⟩

/-- `disconnect` leaves the session. -/
theorem disconnect_left : ∃ m tasks, a.disconnect =
      { a with
        model := m
        tasks := tasks.set a.created ⟨.disconnect a.model.client, false⟩
        created := a.created + 1 } ∧ Cancels a tasks ∧
      m.session = ⟨none, none, false, none, none, a.model.sessionGeneration + 1⟩ := by
  obtain ⟨tasks₁, hcancel₁, hold₁⟩ := cancel_eq (a := a) a.model.operationTask
  obtain ⟨tasks, hcancel, hold⟩ := cancel_eq (a := a.cancel a.model.operationTask) a.model.requestTask
  rw [hcancel₁] at hcancel hold
  refine ⟨a.disconnect.model, tasks, ?_, ⟨?_⟩, rfl⟩
  · unfold disconnect
    rw [hcancel₁, hcancel]
    rfl
  · intro t task' ht
    obtain ⟨old, hold', hjob, hlive⟩ := hold t task' ht
    obtain ⟨older, holder, hjob', hlive'⟩ := hold₁ t old hold'
    exact ⟨older, holder, hjob.trans hjob', fun h => ⟨(hlive' (hlive h).1).1, (hlive' (hlive h).1).2, (hlive h).2⟩⟩

/-- A free screen asks. -/
theorem startRequest_asked (message : String) (request : Request) {client : Nat} {m : PipaMobileViewModel}
    (hclient : m.client = some client) (hbusy : m.requestInProgress = false) (hpending : m.pendingConfirmation = none) :
    ∃ m', startRequest { a with model := m } message request =
      { a with
        model := m'
        tasks := a.tasks.set a.created ⟨.request client m.sessionGeneration message request false, false⟩
        created := a.created + 1 } ∧
      m'.session = ⟨none, m.pendingLocalRequestDigest, true, some client, some a.created, m.sessionGeneration⟩ := by
  have hstart : startRequest { a with model := m } message request =
      { a with
        model := { m.clearMessages with requestInProgress := true, requestTask := some a.created }
        tasks := a.tasks.set a.created ⟨.request client m.sessionGeneration message request false, false⟩
        created := a.created + 1 } := by
    simp only [startRequest, hclient, hbusy, hpending, Option.isSome_none, Bool.or_false, Bool.false_eq_true, if_false,
      spawn]
  refine ⟨_, hstart, ?_⟩
  simp only [PipaMobileViewModel.session, PipaMobileViewModel.clearMessages, hpending, hclient]

theorem isFree_iff : a.isFree = true ↔ a.model.requestInProgress = false ∧ a.model.pendingConfirmation = none ∧
    ∃ client, a.model.client = some client := by
  simp only [isFree, Bool.and_eq_true, Bool.not_eq_true', Option.isNone_iff_eq_none, Option.isSome_iff_exists,
    and_assoc]

theorem sendTextCommand_move : Move p a .sendTextCommand (a.sendTextCommand p) := by
  unfold sendTextCommand
  dsimp only
  split
  · exact .quiet _ _ rfl
  · rename_i hfree
    simp only [Bool.or_eq_true, Bool.not_eq_true', not_or, Bool.not_eq_false] at hfree
    obtain ⟨hbusy, hpending, client, hclient⟩ := isFree_iff.mp hfree.2
    obtain ⟨m, hstart, hm⟩ := startRequest_asked (a := a) "No se pudo enviar el comando."
      (.sendText (p.text.trim a.model.textCommand))
      (m := { a.model with
        textCommand := []
        pendingLocalPreview := PipaMobileViewModel.safeLocalPreview (p.text.trim a.model.textCommand)
        pendingLocalPreviewToolName := none }) hclient hbusy hpending
    rw [hstart]
    exact .asked _ _ _ m client _ (.text _) hclient hbusy hm

theorem sendStructuredCommand_move (command : PipaMobileCommand) (values : List (PyStr × PyStr)) :
    Move p a (.sendStructuredCommand command values) (a.sendStructuredCommand p command values) := by
  unfold sendStructuredCommand
  split
  · exact .quiet _ _ rfl
  rename_i arguments harguments
  split
  · exact .quiet _ _ rfl
  rename_i hfree
  simp only [Bool.not_eq_true', Bool.not_eq_false] at hfree
  obtain ⟨hbusy, hpending, client, hclient⟩ := isFree_iff.mp hfree
  split
  · exact .unpinned _ _ hbusy rfl
  · rename_i digest hdigest
    obtain ⟨m, hstart, hm⟩ := startRequest_asked (a := a) "No se pudo enviar la acción estructurada."
      (.callTool command.toolName arguments)
      (m := { a.model with
        textCommand := []
        pendingLocalPreview := command.rendered p.toPlatform values
        pendingLocalPreviewToolName := some command.toolName
        pendingLocalRequestDigest := some digest }) hclient hbusy hpending
    rw [hstart]
    exact .asked _ _ _ m client _ (.tool command values arguments digest harguments hdigest) hclient hbusy hm

theorem resolveConfirmation_move (accepted : Bool) (now : Int) :
    Move p a (.resolveConfirmation accepted now) (a.resolveConfirmation accepted now) := by
  unfold resolveConfirmation
  split
  · exact .quiet _ _ rfl
  rename_i q hpending
  split
  · exact .quiet _ _ rfl
  rename_i hfree
  simp only [Bool.or_eq_true, not_or, Bool.not_eq_true, Option.isNone_eq_false_iff, Option.isSome_iff_exists] at hfree
  obtain ⟨hbusy, client, hclient⟩ := hfree
  split
  · obtain ⟨m, tasks, hleft, htasks, hm⟩ := disconnect_left (a := a)
    rw [hleft]
    exact .left _ _ tasks htasks (by simpa using hm)
  · rename_i hvalid
    obtain ⟨m, hstart, hm⟩ := startRequest_asked (a := a) "No se pudo resolver la confirmación."
      (.confirm q.confirmationID accepted)
      (m := { a.model with pendingConfirmation := none }.clearLocalPreview) hclient hbusy rfl
    rw [hstart]
    exact .asked _ _ _ m client _ (.confirm q accepted now hpending (by simpa using hvalid)) hclient hbusy hm

theorem forgetConnectionSettings_move (deleted : Bool) :
    Move p a (.forgetConnectionSettings deleted) (a.forgetConnectionSettings deleted) := by
  unfold forgetConnectionSettings
  dsimp only
  by_cases hconnected : a.model.isConnected = true
  · obtain ⟨m, tasks, hleft, htasks, hm⟩ := disconnect_left (a := a)
    rw [if_pos hconnected, hleft]
    split
    · exact .left _ _ tasks htasks (by exact hm)
    · exact .left _ _ tasks htasks (by simpa using hm)
  · rw [if_neg hconnected]
    split
    · exact .dropped deleted _ (by simpa using hconnected) rfl
    · exact .dropped deleted _ (by simpa using hconnected) rfl

theorem connect_move (identity : Option PipaMobileViewModel.Identity) (saved : Bool) :
    Move p a (.connect identity saved) (a.connect p identity saved) := by
  unfold connect
  split
  · exact .quiet _ _ rfl
  rename_i hopen
  simp only [Bool.or_eq_true, not_or, Bool.not_eq_true, Option.isSome_eq_false_iff, Option.isNone_iff_eq_none] at hopen
  split
  · exact .quiet _ _ rfl
  rename_i hverified
  rw [Bool.not_eq_true', Bool.not_eq_false] at hverified
  split
  · rename_i port key hport hkey
    split
    · exact .quiet _ _ rfl
    dsimp only
    split
    · exact .quiet _ _ (by cases saved <;> rfl)
    · rename_i publicKey fingerprint
      split
      · exact .quiet _ _ (by cases saved <;> rfl)
      · cases saved <;> exact .opened (publicKey, fingerprint) _ _ _ port hverified hopen.1 rfl
  · exact .quiet _ _ rfl

theorem start_move (t : Nat) : Move p a (.start t) (a.start t).1 := by
  unfold start
  split
  · rename_i task htask
    split
    · rename_i client host port hjob
      exact .stepped _ t task _ htask ⟨by rw [hjob]; rfl, by intro _ _ _ _ _ h; cases h⟩
    · rename_i client generation message request hjob
      refine .stepped _ t task _ htask ⟨by rw [hjob]; rfl, ?_⟩
      intro client' generation' message' request' sent' h
      cases h
      exact ⟨rfl, hjob, rfl⟩
    · exact .finished _ t _ rfl
    · exact .finished _ t _ rfl
    · exact .quiet _ _ rfl
  · exact .quiet _ _ rfl

/-- The task of `connect` goes on without the session, unless what it tried fails. -/
theorem resumeConnect_move {t client port : Nat} {task : Task} {host : PyStr} {connectStep : ConnectStep}
    (htask : a.tasks.get? t = some task) (hjob : task.job = .connect client host port connectStep)
    (outcome : Outcome) :
    Move p a (.resume t outcome) (a.resumeConnect p t task client host port connectStep outcome).1 := by
  have waits (next : ConnectStep) : Move p a (.resume t outcome) (a.setJob t task (.connect client host port next)) :=
    .stepped _ t task _ htask ⟨by rw [hjob]; rfl, by intro _ _ _ _ _ h; cases h⟩
  unfold resumeConnect
  dsimp only
  split
  · split <;> exact waits _
  · exact waits _
  · split
    · exact waits _
    · split
      · exact .finished _ t _ rfl
      · exact waits _
  · exact waits _
  · exact .finished _ t _ rfl
  · split
    · exact .finished _ t _ rfl
    · rename_i hcancelled
      refine .drifted t client host port _ ?_ rfl
      rw [Bool.not_eq_true] at hcancelled
      rw [htask]
      exact congrArg₂ (fun j c => some (Task.mk j c)) hjob hcancelled
  · exact .quiet _ _ rfl

/-- After a failure the client is left, or there was none. -/
theorem closeAfterOperationFailure_cases (client : Nat) (message : String) :
    (a.model.client = none ∧ a.closeAfterOperationFailure client message = a) ∨
    (∃ m, a.closeAfterOperationFailure client message =
        { a with
          model := m
          tasks := a.tasks.set a.created ⟨.disconnect (some client), false⟩
          created := a.created + 1 } ∧
      m.session = { a.model.session with pending := none, digest := none, busy := false, client := none }) := by
  unfold closeAfterOperationFailure PipaMobileViewModel.closeAfterOperationFailure
  cases hclient : a.model.client with
  | none => exact .inl ⟨rfl, rfl⟩
  | some c => exact .inr ⟨_, rfl, rfl⟩

theorem apply_answered {answer : Answer} {m : PipaMobileViewModel} {valid : Bool}
    (h : a.model.apply p [answer.first, answer.followUp] = (m, valid)) : Answered p a (.answer answer) m.session := by
  have hsession := a.model.session_apply p answer
  rw [h] at hsession
  obtain hm | hm | ⟨q, hq, hm⟩ := hsession
  · rw [hm]
    exact ⟨.inr (.inl rfl), .inl rfl, rfl⟩
  · rw [hm]
    exact ⟨.inr (.inl rfl), .inl rfl, rfl⟩
  · rw [hm]
    exact ⟨.inr (.inr ⟨answer, q, rfl, hq, rfl⟩), .inl rfl, rfl⟩

/-- The answer to a live request is applied, or the session is left with the client; any other request ends alone. -/
theorem resumeRequest_move {t client generation : Nat} {message : String} {request : Request} {task : Task}
    (htask : a.tasks.get? t = some task) (hjob : task.job = .request client generation message request true)
    (outcome : Outcome) :
    Move p a (.resume t outcome) (a.resumeRequest p t task client generation message outcome) := by
  have live (h : ¬ (task.cancelled || a.model.sessionGeneration != generation) = true) :
      Live a t client request true := by
    simp only [Bool.or_eq_true, not_or, Bool.not_eq_true, bne_eq_false_iff_eq] at h
    obtain ⟨hcancelled, rfl⟩ := h
    exact ⟨message, htask.trans (congrArg₂ (fun j c => some (Task.mk j c)) hjob hcancelled)⟩
  unfold resumeRequest
  dsimp only
  split
  · -- an answer
    rename_i answer
    split
    · exact .finished _ t _ rfl
    rename_i hlive
    split
    · rename_i m happly
      have hm := apply_answered happly
      exact .ended t client request _ _ (live hlive) hm
    · rename_i m happly
      have hm := apply_answered happly
      obtain ⟨-, hsame⟩ | ⟨m', hclosed, hm'⟩ := closeAfterOperationFailure_cases
        (a := { a.finish t with model := m }) client "La respuesta del agente no es válida."
      · rw [hsame]
        exact .ended t client request _ _ (live hlive) hm
      · rw [hclosed]
        refine .closed t client request _ m' (live hlive) ?_
        rw [hm']
        exact ⟨.inl rfl, .inr ⟨rfl, rfl⟩, hm.2.2⟩
  · -- nothing came
    split
    · exact .finished _ t _ rfl
    rename_i hlive
    obtain ⟨-, hsame⟩ | ⟨m, hclosed, hm⟩ := closeAfterOperationFailure_cases (a := a.finish t) client message
    · rw [hsame]
      exact .ended t client request _ _ (live hlive) ⟨.inr (.inl rfl), .inl rfl, rfl⟩
    · rw [hclosed]
      refine .closed t client request _ _ (live hlive) ?_
      have hpending : m.pendingConfirmation = none := congrArg Session.pending hm
      have hclient : m.client = none := congrArg Session.client hm
      exact ⟨.inl hpending, .inr ⟨hclient, hpending⟩, congrArg Session.generation hm⟩
  · exact .quiet _ _ rfl

theorem resume_move (t : Nat) (outcome : Outcome) : Move p a (.resume t outcome) (a.resume p t outcome).1 := by
  unfold resume
  split
  · rename_i task htask
    split
    · rename_i client host port connectStep hjob
      exact resumeConnect_move htask hjob outcome
    · rename_i client generation message request hjob
      exact resumeRequest_move htask hjob outcome
    · exact .quiet _ _ rfl
  · exact .quiet _ _ rfl

/-- Every event does one of these. -/
theorem step_move (a : MainActor) (e : Event) : Move p a e (a.step p e).1 := by
  cases e with
  | edit field text => cases field <;> exact .quiet _ _ rfl
  | markServerFingerprintVerified => exact .quiet _ _ (a.model.session_mark p)
  | invalidateServerFingerprintVerification => exact .quiet _ _ rfl
  | prepareIdentity identity saved => exact .quiet _ _ (a.model.session_prepareIdentity identity saved)
  | useCommandText text => exact .quiet _ _ rfl
  | updateVoiceDraft text => exact .quiet _ _ (a.model.session_updateVoiceDraft p text)
  | forgetConnectionSettings deleted => exact forgetConnectionSettings_move deleted
  | connect identity saved => exact connect_move identity saved
  | disconnect =>
    obtain ⟨m, tasks, hleft, htasks, hm⟩ := disconnect_left (a := a)
    rw [step, hleft]
    exact .left _ _ tasks htasks hm
  | sendTextCommand => exact sendTextCommand_move
  | sendStructuredCommand command values => exact sendStructuredCommand_move command values
  | resolveConfirmation accepted now => exact resolveConfirmation_move accepted now
  | start t => exact start_move t
  | resume t outcome => exact resume_move t outcome

/-! ## What an event does to requests -/

/-- This request began now. -/
structure Began (p : Phone) (a : MainActor) (e : Event) (t client : Nat) (request : Request) (a' : MainActor) :
    Prop where
  number : t = a.created ∧ a'.created = t + 1
  asked : a.model.client = some client
  free : a.model.requestInProgress = false
  asks : ∃ digest, Asks p a e request digest ∧
    a'.model.session = ⟨none, digest, true, some client, some t, a.model.sessionGeneration⟩

variable {a' : MainActor} {e : Event} {t client generation : Nat} {message : String} {request : Request}
  {sent cancelled : Bool}

/-- A request was there before, or began now. -/
theorem Move.of_request (h : Move p a e a')
    (ht : a'.tasks.get? t = some ⟨.request client generation message request sent, cancelled⟩) :
    (∃ sent' cancelled', a.tasks.get? t = some ⟨.request client generation message request sent', cancelled'⟩ ∧
      (sent' = sent ∨ e = .start t ∧ sent' = false ∧ sent = true) ∧ (cancelled = false → cancelled' = false)) ∨
    (Began p a e t client request a' ∧ sent = false ∧ cancelled = false ∧ generation = a.model.sessionGeneration) := by
  have before {tasks : Dict Nat Task} (hcancels : Cancels a tasks)
      (ht : tasks.get? t = some ⟨.request client generation message request sent, cancelled⟩) :
      ∃ sent' cancelled', a.tasks.get? t = some ⟨.request client generation message request sent', cancelled'⟩ ∧
        (sent' = sent ∨ e = .start t ∧ sent' = false ∧ sent = true) ∧ (cancelled = false → cancelled' = false) := by
    obtain ⟨⟨job, cancelled'⟩, hold, hjob, hlive⟩ := hcancels.job t _ ht
    obtain rfl : Job.request client generation message request sent = job := hjob
    exact ⟨sent, cancelled', hold, .inl rfl, fun h => (hlive h).1⟩
  have same (ht : a.tasks.get? t = some ⟨.request client generation message request sent, cancelled⟩) :
      ∃ sent' cancelled', a.tasks.get? t = some ⟨.request client generation message request sent', cancelled'⟩ ∧
        (sent' = sent ∨ e = .start t ∧ sent' = false ∧ sent = true) ∧ (cancelled = false → cancelled' = false) :=
    ⟨sent, cancelled, ht, .inl rfl, id⟩
  cases h with
  | quiet => exact .inl (same ht)
  | unpinned => exact .inl (same ht)
  | dropped => exact .inl (same ht)
  | left _ m tasks hcancels =>
    obtain ⟨-, hnew⟩ | ⟨-, hold⟩ := Dict.get?_set_some.mp ht
    · cases hnew
    · exact .inl (before hcancels hold)
  | opened =>
    obtain ⟨-, hnew⟩ | ⟨-, hold⟩ := Dict.get?_set_some.mp ht
    · cases hnew
    · exact .inl (same hold)
  | asked _ request' digest m client' message' hask hclient hfree hm =>
    obtain ⟨rfl, hnew⟩ | ⟨-, hold⟩ := Dict.get?_set_some.mp ht
    · cases hnew
      exact .inr ⟨⟨⟨rfl, rfl⟩, hclient, hfree, digest, hask, hm⟩, rfl, rfl, rfl⟩
    · exact .inl (same hold)
  | stepped _ t' task job htask hjob =>
    obtain ⟨rfl, hnew⟩ | ⟨-, hold⟩ := Dict.get?_set_some.mp ht
    · obtain ⟨job', cancelled'⟩ := task
      obtain ⟨rfl, rfl⟩ := Task.mk.inj hnew
      obtain ⟨hstart, hfalse, hsent⟩ := hjob.request _ _ _ _ _ rfl
      exact .inl ⟨false, cancelled, htask.trans (congrArg (fun job => some (Task.mk job cancelled)) hfalse),
        .inr ⟨hstart, rfl, hsent⟩, id⟩
    · exact .inl (same hold)
  | finished => exact .inl (same (Dict.get?_erase_some.mp ht).2)
  | drifted => exact .inl (same (Dict.get?_erase_some.mp ht).2)
  | ended => exact .inl (same (Dict.get?_erase_some.mp ht).2)
  | closed =>
    obtain ⟨-, hnew⟩ | ⟨-, hold⟩ := Dict.get?_set_some.mp ht
    · cases hnew
    · exact .inl (same (Dict.get?_erase_some.mp hold).2)

/-- A task was there before, with the same job, or it is new. -/
theorem Move.of_task (h : Move p a e a') {task' : Task} (ht : a'.tasks.get? t = some task') :
    (∃ task, a.tasks.get? t = some task ∧ task'.job.unbegun = task.job.unbegun ∧
      (task'.cancelled = false → task.cancelled = false)) ∨ (t = a.created ∧ a'.created = t + 1) := by
  have same (ht : a.tasks.get? t = some task') : ∃ task, a.tasks.get? t = some task ∧
      task'.job.unbegun = task.job.unbegun ∧ (task'.cancelled = false → task.cancelled = false) :=
    ⟨task', ht, rfl, id⟩
  cases h with
  | quiet => exact .inl (same ht)
  | unpinned => exact .inl (same ht)
  | dropped => exact .inl (same ht)
  | left _ m tasks hcancels =>
    obtain ⟨hnew, -⟩ | ⟨-, ht⟩ := Dict.get?_set_some.mp ht
    · exact .inr ⟨hnew, hnew ▸ rfl⟩
    · obtain ⟨task, hold, hjob, hlive⟩ := hcancels.job t _ ht
      exact .inl ⟨task, hold, congrArg Job.unbegun hjob, fun h => (hlive h).1⟩
  | opened =>
    obtain ⟨hnew, -⟩ | ⟨-, ht⟩ := Dict.get?_set_some.mp ht
    · exact .inr ⟨hnew, hnew ▸ rfl⟩
    · exact .inl (same ht)
  | asked =>
    obtain ⟨hnew, -⟩ | ⟨-, ht⟩ := Dict.get?_set_some.mp ht
    · exact .inr ⟨hnew, hnew ▸ rfl⟩
    · exact .inl (same ht)
  | stepped _ t' task job htask hjob =>
    obtain ⟨rfl, rfl⟩ | ⟨-, hold⟩ := Dict.get?_set_some.mp ht
    · exact .inl ⟨task, htask, hjob.same, id⟩
    · exact .inl (same hold)
  | finished => exact .inl (same (Dict.get?_erase_some.mp ht).2)
  | drifted => exact .inl (same (Dict.get?_erase_some.mp ht).2)
  | ended => exact .inl (same (Dict.get?_erase_some.mp ht).2)
  | closed =>
    obtain ⟨hnew, -⟩ | ⟨-, ht⟩ := Dict.get?_set_some.mp ht
    · exact .inr ⟨hnew, hnew ▸ rfl⟩
    · exact .inl (same (Dict.get?_erase_some.mp ht).2)

theorem Move.generation_le (h : Move p a e a') : a.model.sessionGeneration ≤ a'.model.sessionGeneration := by
  have same {m : PipaMobileViewModel} {s : Session} (hm : m.session = s)
      (hs : s.generation = a.model.sessionGeneration) :
      a.model.sessionGeneration ≤ m.sessionGeneration :=
    le_of_eq (hs.symm.trans (congrArg Session.generation hm).symm)
  cases h with
  | quiet _ m hm => exact same hm rfl
  | unpinned _ m _ hm => exact same hm rfl
  | dropped _ m _ hm => exact same hm rfl
  | left _ m tasks _ hm => exact (Nat.le_succ _).trans (le_of_eq (congrArg Session.generation hm).symm)
  | opened _ _ m _ _ _ _ hm => exact same hm rfl
  | asked _ _ _ m _ _ _ _ _ hm => exact same hm rfl
  | stepped => exact le_rfl
  | finished _ _ m hm => exact same hm rfl
  | drifted _ _ _ _ m _ hm => exact same hm rfl
  | ended _ _ _ _ m _ hm => exact le_of_eq hm.2.2.symm
  | closed _ _ _ _ m _ hm => exact le_of_eq hm.2.2.symm

theorem Move.created_le (h : Move p a e a') : a.created ≤ a'.created := by
  cases h <;> first | exact le_rfl | exact Nat.le_succ _

/-! ## What every event keeps -/

/-- Tasks are numbered as they are made, none is of a later session, and the screen waits for what is live. -/
structure Kept (a : MainActor) : Prop where
  born : ∀ t task, a.tasks.get? t = some task → t < a.created
  generation : ∀ t client generation message request sent cancelled,
    a.tasks.get? t = some ⟨.request client generation message request sent, cancelled⟩ →
      generation ≤ a.model.sessionGeneration
  live : ∀ t client request sent, Live a t client request sent →
    a.model.pendingConfirmation = none ∧ a.model.requestInProgress = true ∧ a.model.requestTask = some t

/-- What comes between a request and its answer: the draft is forgotten, or the attempt to connect fails, while the
screen waits for an answer or for the user. -/
def Disturbs (a : MainActor) (e : Event) : Prop :=
  (a.model.requestInProgress = true ∨ a.model.pendingConfirmation.isSome = true) ∧
    ((∃ deleted, e = .forgetConnectionSettings deleted ∧ a.model.isConnected = false) ∨
      ∃ t client host port, e = .resume t .done ∧
        a.tasks.get? t = some ⟨.connect client host port .failing, false⟩)

/-- A live request was live before and the screen still waits for it, or it began now. -/
theorem Move.of_live (hkept : Kept a) (h : Move p a e a') (hlive : Live a' t client request sent) :
    (∃ sent', Live a t client request sent' ∧ a'.model.pendingConfirmation = none ∧
      a'.model.requestInProgress = true ∧ a'.model.requestTask = some t ∧
      (a'.model.pendingLocalRequestDigest = a.model.pendingLocalRequestDigest ∨
        a'.model.pendingLocalRequestDigest = none ∧ Disturbs a e) ∧
      (a'.model.client = a.model.client ∨ a.model.client = none ∨ Disturbs a e)) ∨
    (Began p a e t client request a' ∧ sent = false) := by
  obtain ⟨message, ht⟩ := hlive
  obtain ⟨sent', cancelled, hold, hsent, hcancelled⟩ | ⟨hbegan, hsent, -⟩ := h.of_request ht
  swap
  · exact .inr ⟨hbegan, hsent⟩
  obtain rfl := hcancelled rfl
  left
  -- the session is the same one
  have hgeneration : a'.model.sessionGeneration = a.model.sessionGeneration :=
    le_antisymm (hkept.generation _ _ _ _ _ _ _ hold) h.generation_le
  rw [hgeneration] at hold
  have hbefore : Live a t client request sent' := ⟨message, hold⟩
  obtain ⟨hpending, hbusy, htask⟩ := hkept.live _ _ _ _ hbefore
  refine ⟨sent', hbefore, ?_⟩
  have keeps {m : PipaMobileViewModel} (hm : m.session = a.model.session) :
      m.pendingConfirmation = none ∧ m.requestInProgress = true ∧ m.requestTask = some t ∧
      (m.pendingLocalRequestDigest = a.model.pendingLocalRequestDigest ∨
        m.pendingLocalRequestDigest = none ∧ Disturbs a e) ∧
      (m.client = a.model.client ∨ a.model.client = none ∨ Disturbs a e) :=
    ⟨(congrArg Session.pending hm).trans hpending, (congrArg Session.busy hm).trans hbusy,
      (congrArg Session.requestTask hm).trans htask, .inl (congrArg Session.digest hm),
      .inl (congrArg Session.client hm)⟩
  have unique {t' client' : Nat} {request' : Request} (hlive' : Live a t' client' request' true)
      (hgone : t ≠ t') : False := by
    obtain ⟨-, -, htask'⟩ := hkept.live _ _ _ _ hlive'
    exact hgone (Option.some.inj (htask.symm.trans htask'))
  cases h with
  | quiet _ m hm => exact keeps hm
  | unpinned _ m hfree hm => rw [hbusy] at hfree; cases hfree
  | dropped deleted m hdisconnected hm =>
    exact ⟨congrArg Session.pending hm, (congrArg Session.busy hm).trans hbusy,
      (congrArg Session.requestTask hm).trans htask,
      .inr ⟨congrArg Session.digest hm, .inl hbusy, .inl ⟨deleted, rfl, hdisconnected⟩⟩,
      .inl (congrArg Session.client hm)⟩
  | left _ m tasks _ hm =>
    have hnext : m.sessionGeneration = a.model.sessionGeneration + 1 := congrArg Session.generation hm
    exact absurd (hnext.symm.trans hgeneration) (Nat.succ_ne_self _)
  | opened _ _ m _ _ _ hclosed hm =>
    exact ⟨(congrArg Session.pending hm).trans hpending, (congrArg Session.busy hm).trans hbusy,
      (congrArg Session.requestTask hm).trans htask, .inl (congrArg Session.digest hm), .inr (.inl hclosed)⟩
  | asked _ _ _ _ _ _ _ _ hfree _ => rw [hbusy] at hfree; cases hfree
  | stepped => exact keeps rfl
  | finished _ _ m hm => exact keeps hm
  | drifted t' client' host port m hfailing hm =>
    exact ⟨(congrArg Session.pending hm).trans hpending, (congrArg Session.busy hm).trans hbusy,
      (congrArg Session.requestTask hm).trans htask, .inl (congrArg Session.digest hm),
      .inr (.inr ⟨.inl hbusy, .inr ⟨t', client', host, port, rfl, hfailing⟩⟩)⟩
  | ended t' _ _ _ _ hlive' _ => exact (unique hlive' (Dict.get?_erase_some.mp ht).1).elim
  | closed t' _ _ _ _ hlive' _ =>
    obtain ⟨-, hnew⟩ | ⟨-, hold'⟩ := Dict.get?_set_some.mp ht
    · cases hnew
    · exact (unique hlive' (Dict.get?_erase_some.mp hold').1).elim

theorem Kept.step (hkept : Kept a) (h : Move p a e a') : Kept a' := by
  constructor
  · intro t task ht
    obtain ⟨task', hold, -⟩ | ⟨-, hnext⟩ := h.of_task ht
    · exact (hkept.born t task' hold).trans_le h.created_le
    · exact hnext ▸ Nat.lt_succ_self t
  · intro t client generation message request sent cancelled ht
    obtain ⟨sent', cancelled', hold, -, -⟩ | ⟨-, -, -, rfl⟩ := h.of_request ht
    · exact (hkept.generation _ _ _ _ _ _ _ hold).trans h.generation_le
    · exact h.generation_le
  · intro t client request sent hlive
    obtain ⟨sent', -, hpending, hbusy, htask, -⟩ | ⟨hbegan, -⟩ := h.of_live hkept hlive
    · exact ⟨hpending, hbusy, htask⟩
    · obtain ⟨digest, -, hm⟩ := hbegan.asks
      exact ⟨congrArg Session.pending hm, congrArg Session.busy hm, congrArg Session.requestTask hm⟩

/-- What is pending was pending before, or is asked by the answer that came now to a live request. -/
theorem Move.of_pending (hkept : Kept a) (h : Move p a e a') {q : PipaMobileConfirmation}
    (hq : a'.model.pendingConfirmation = some q) :
    (a.model.pendingConfirmation = some q ∧
      (a'.model.client = a.model.client ∨ a.model.client = none ∨ Disturbs a e)) ∨
    (∃ t client request answer, e = .resume t (.answer answer) ∧ Live a t client request true ∧
      a.model.confirmationOf p answer.first = some q ∧ a'.model.client = a.model.client) := by
  have same {m : PipaMobileViewModel} (hm : m.session = a.model.session) (hq : m.pendingConfirmation = some q) :
      a.model.pendingConfirmation = some q ∧ (m.client = a.model.client ∨ a.model.client = none ∨ Disturbs a e) :=
    ⟨(congrArg Session.pending hm).symm.trans hq, .inl (congrArg Session.client hm)⟩
  have none {m : PipaMobileViewModel} (hm : m.pendingConfirmation = none) (hq : m.pendingConfirmation = some q) :
      False := by
    rw [hm] at hq
    cases hq
  have answered {t client : Nat} {request : Request} {outcome : Outcome} {m : PipaMobileViewModel}
      (hlive : Live a t client request true) (hanswered : Answered p a outcome m.session)
      (hq : m.pendingConfirmation = some q) :
      (a.model.pendingConfirmation = some q ∧ (m.client = a.model.client ∨ a.model.client = Option.none ∨
        Disturbs a (.resume t outcome))) ∨
      (∃ t' client request answer, Event.resume t outcome = .resume t' (.answer answer) ∧
        Live a t' client request true ∧ a.model.confirmationOf p answer.first = some q ∧
        m.client = a.model.client) := by
    obtain ⟨hpending, hclient, -⟩ := hanswered
    obtain hm | hm | ⟨answer, q', rfl, hq', hm⟩ := hpending
    · exact (none hm hq).elim
    · exact (none (hm.trans (hkept.live _ _ _ _ hlive).1) hq).elim
    · obtain rfl : q' = q := Option.some.inj (hm.symm.trans hq)
      obtain hclient | ⟨-, hgone⟩ := hclient
      · exact .inr ⟨t, client, request, answer, rfl, hlive, hq', hclient⟩
      · exact (none hgone hq).elim
  cases h with
  | quiet _ m hm => exact .inl (same hm hq)
  | unpinned _ m hfree hm =>
    exact .inl ⟨(congrArg Session.pending hm).symm.trans hq, .inl (congrArg Session.client hm)⟩
  | dropped _ m _ hm => exact (none (congrArg Session.pending hm) hq).elim
  | left _ m _ _ hm => exact (none (congrArg Session.pending hm) hq).elim
  | opened _ _ m _ _ _ hclosed hm => exact .inl ⟨(congrArg Session.pending hm).symm.trans hq, .inr (.inl hclosed)⟩
  | asked _ _ _ m _ _ _ _ _ hm => exact (none (congrArg Session.pending hm) hq).elim
  | stepped => exact .inl ⟨hq, .inl rfl⟩
  | finished _ _ m hm => exact .inl (same hm hq)
  | drifted t client host port m hfailing hm =>
    have hpending : a.model.pendingConfirmation = some q := (congrArg Session.pending hm).symm.trans hq
    exact .inl ⟨hpending, .inr (.inr ⟨.inr (Option.isSome_of_eq_some hpending),
      .inr ⟨t, client, host, port, rfl, hfailing⟩⟩)⟩
  | ended t client request outcome m hlive hanswered => exact answered hlive hanswered hq
  | closed t client request outcome m hlive hanswered => exact answered hlive hanswered hq

/-- Only a task sends something, as it starts or goes on. -/
theorem call_of_task {call : Nat × ClientCall} (h : call ∈ (a.step p e).2) :
    (∃ t, e = .start t ∧ call ∈ (a.start t).2) ∨
      ∃ t outcome, e = .resume t outcome ∧ call ∈ (a.resume p t outcome).2 := by
  cases e with
  | start t => exact .inl ⟨t, rfl, h⟩
  | resume t outcome => exact .inr ⟨t, outcome, rfl, h⟩
  | edit => cases h
  | markServerFingerprintVerified => cases h
  | invalidateServerFingerprintVerification => cases h
  | prepareIdentity => cases h
  | useCommandText => cases h
  | updateVoiceDraft => cases h
  | forgetConnectionSettings => cases h
  | connect => cases h
  | disconnect => cases h
  | sendTextCommand => cases h
  | sendStructuredCommand => cases h
  | resolveConfirmation => cases h

theorem run_move (settings : Option PipaMobileSettings) (ops : List Event) (e : Event) :
    Move p ((screen p settings).run ops) e ((screen p settings).run (ops ++ [e])) := by
  rw [Machine.run_concat]
  exact step_move _ e

theorem run_kept (p : Phone) (settings : Option PipaMobileSettings) (ops : List Event) :
    Kept ((screen p settings).run ops) := by
  induction ops using List.reverseRecOn with
  | nil =>
    have hnone (t : Nat) (task : Task) : ((screen p settings).run []).tasks.get? t ≠ some task := by
      intro h
      cases h
    refine ⟨?_, ?_, ?_⟩
    · intro t task ht
      exact absurd ht (hnone t task)
    · intro t _ _ _ _ _ _ ht
      exact absurd ht (hnone t _)
    · intro t _ _ _ hlive
      obtain ⟨_, ht⟩ := hlive
      exact absurd ht (hnone t _)
  | append_singleton pre e ih => exact ih.step (run_move settings pre e)

end MainActor

end Pipa.Mobile
