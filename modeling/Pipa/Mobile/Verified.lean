import Pipa.Mobile.Approvals

/- Whom the phone talks to. Nothing is sent but to a client that was made with the key and the name of a server
   which the user had compared and marked as verified. -/
namespace Pipa.Mobile
open Pipa.Lib

/-- The fingerprint and the name that the user marked. -/
def PipaMobileViewModel.verified (m : PipaMobileViewModel) : Option PyStr × Option PyStr :=
  (m.verifiedServerFingerprint, m.verifiedServerID)

namespace PipaMobileViewModel
variable (p : Phone) (m : PipaMobileViewModel)

theorem verified_saveSettings (saved : Bool) : (m.saveSettings saved).verified = m.verified := by
  cases saved <;> rfl

theorem verified_applyResponse {response : Object} {m' : PipaMobileViewModel}
    (h : m.applyResponse p response = some m') : m'.verified = m.verified := by
  unfold applyResponse at h
  split at h
  · cases h
  split at h
  · obtain ⟨q, -, rfl⟩ := Option.map_eq_some_iff.mp h
    rfl
  all_goals
    repeat' split at h
    all_goals
      cases h
      try rfl

theorem verified_apply (responses : List Object) : (m.apply p responses).1.verified = m.verified := by
  induction responses generalizing m with
  | nil => rfl
  | cons response responses ih =>
    rw [apply]
    cases hresponse : m.applyResponse p response with
    | none => rfl
    | some m' => exact (ih m').trans (verified_applyResponse p m hresponse)

end PipaMobileViewModel

/-- The client that a job is for. -/
def Job.client : Job → Option Nat
  | .connect client _ _ _ => some client
  | .request client _ _ _ _ => some client
  | .disconnect client => client

theorem Job.client_unbegun (job : Job) : job.unbegun.client = job.client := by
  cases job <;> rfl

namespace MainActor
open PipaMobileViewModel
variable {p : Phone} {a : MainActor} {e : Event}

/-! ## What is verified -/

/-- The user marks the server that is on the screen. -/
def Marks (p : Phone) (fingerprint serverID : PyStr) (a : MainActor) (e : Event) : Prop :=
  e = .markServerFingerprintVerified ∧ a.model.serverFingerprint p = some fingerprint ∧ a.model.serverID = serverID

/-- Nothing is marked, and no mark is taken back. -/
def Leaves (p : Phone) (a : MainActor) (e : Event) : Prop :=
  (e = .markServerFingerprintVerified → a.model.serverFingerprint p = none) ∧
    e ≠ .invalidateServerFingerprintVerification ∧ e ≠ .forgetConnectionSettings true

theorem verified_startRequest (message : String) (request : Request) :
    (a.startRequest message request).model.verified = a.model.verified := by
  unfold startRequest
  split
  · rfl
  · split <;> rfl

theorem verified_closeAfterOperationFailure (client : Nat) (message : String) :
    (a.closeAfterOperationFailure client message).model.verified = a.model.verified := by
  unfold closeAfterOperationFailure PipaMobileViewModel.closeAfterOperationFailure
  cases hclient : a.model.client <;> rfl

theorem verified_sendTextCommand : (a.sendTextCommand p).model.verified = a.model.verified := by
  unfold sendTextCommand
  dsimp only
  split
  · rfl
  · exact verified_startRequest _ _

theorem verified_sendStructuredCommand (command : PipaMobileCommand) (values : List (PyStr × PyStr)) :
    (a.sendStructuredCommand p command values).model.verified = a.model.verified := by
  unfold sendStructuredCommand
  split
  · rfl
  split
  · rfl
  split
  · rfl
  · exact verified_startRequest _ _

theorem verified_resolveConfirmation (accepted : Bool) (now : Int) :
    (a.resolveConfirmation accepted now).model.verified = a.model.verified := by
  unfold resolveConfirmation
  split
  · rfl
  split
  · rfl
  split
  · rfl
  · exact verified_startRequest _ _

theorem verified_connect (identity : Option Identity) (saved : Bool) :
    (a.connect p identity saved).model.verified = a.model.verified := by
  unfold connect
  split
  · rfl
  split
  · rfl
  split
  · split
    · rfl
    dsimp only
    split
    · cases saved <;> rfl
    · split <;> cases saved <;> rfl
  · rfl

theorem verified_start (t : Nat) : (a.start t).1.model.verified = a.model.verified := by
  unfold start
  split
  · split <;> rfl
  · rfl

theorem verified_resume (t : Nat) (outcome : Outcome) : (a.resume p t outcome).1.model.verified = a.model.verified := by
  unfold resume
  split
  · split
    · unfold resumeConnect
      dsimp only
      split
      · split <;> rfl
      · rfl
      · split
        · rfl
        · split <;> rfl
      · rfl
      · rfl
      · split <;> rfl
      · rfl
    · rename_i task _ client generation message request _
      unfold resumeRequest
      dsimp only
      split
      · rename_i answer
        have happly := verified_apply p a.model [answer.first, answer.followUp]
        split
        · rfl
        split
        · rename_i m hm
          rw [hm] at happly
          exact happly
        · rename_i m hm
          rw [hm] at happly
          exact (verified_closeAfterOperationFailure _ _).trans happly
      · split
        · rfl
        · exact verified_closeAfterOperationFailure (a := a.finish t) client message
      · rfl
    · rfl
  · rfl

/-- What is marked was marked now, or stays as it was. -/
theorem step_verified {fingerprint serverID : PyStr}
    (h : (a.step p e).1.model.verified = (some fingerprint, some serverID)) :
    Marks p fingerprint serverID a e ∨ (a.model.verified = (some fingerprint, some serverID) ∧ Leaves p a e) := by
  have same (hsame : (a.step p e).1.model.verified = a.model.verified) (hother : Leaves p a e) :
      a.model.verified = (some fingerprint, some serverID) ∧ Leaves p a e :=
    ⟨hsame.symm.trans h, hother⟩
  have other {e : Event} (hmark : e ≠ .markServerFingerprintVerified)
      (hinvalidate : e ≠ .invalidateServerFingerprintVerification) (hforget : e ≠ .forgetConnectionSettings true) :
      Leaves p a e :=
    ⟨fun h => absurd h hmark, hinvalidate, hforget⟩
  cases e with
  | markServerFingerprintVerified =>
    simp only [step, markServerFingerprintVerified] at h
    split at h
    · rename_i hnone
      exact .inr ⟨h, fun _ => hnone, (by intro h; cases h), (by intro h; cases h)⟩
    · rename_i current hcurrent
      obtain ⟨hf, hid⟩ := Prod.mk.inj h
      exact .inl ⟨rfl, hcurrent.trans hf, Option.some.inj hid⟩
  | invalidateServerFingerprintVerification => cases h
  | forgetConnectionSettings deleted =>
    cases deleted with
    | true =>
      have hnone : (a.forgetConnectionSettings true).model.verified = (none, none) := rfl
      cases hnone.symm.trans h
    | false =>
      refine .inr (same ?_ (other (by simp) (by simp) (by simp)))
      have hfail : (a.forgetConnectionSettings false).model.verified =
          (if a.model.isConnected then a.disconnect
            else { a with model := a.model.clearCommandDraft }).model.verified := rfl
      refine hfail.trans ?_
      split <;> rfl
  | edit field text => exact .inr (same (by cases field <;> rfl) (other (by simp) (by simp) (by simp)))
  | prepareIdentity identity saved =>
    refine .inr (same ?_ (other (by simp) (by simp) (by simp)))
    simp only [step, prepareIdentity]
    split
    · exact verified_saveSettings _ saved
    · rfl
  | useCommandText text => exact .inr (same rfl (other (by simp) (by simp) (by simp)))
  | updateVoiceDraft text =>
    refine .inr (same ?_ (other (by simp) (by simp) (by simp)))
    simp only [step, updateVoiceDraft]
    split <;> rfl
  | connect identity saved => exact .inr (same (verified_connect identity saved) (other (by simp) (by simp) (by simp)))
  | disconnect => exact .inr (same rfl (other (by simp) (by simp) (by simp)))
  | sendTextCommand => exact .inr (same verified_sendTextCommand (other (by simp) (by simp) (by simp)))
  | sendStructuredCommand command values =>
    exact .inr (same (verified_sendStructuredCommand command values) (other (by simp) (by simp) (by simp)))
  | resolveConfirmation accepted now =>
    exact .inr (same (verified_resolveConfirmation accepted now) (other (by simp) (by simp) (by simp)))
  | start t => exact .inr (same (verified_start t) (other (by simp) (by simp) (by simp)))
  | resume t outcome => exact .inr (same (verified_resume t outcome) (other (by simp) (by simp) (by simp)))

/-! ## Clients -/

/-- A client is made as the user connects to what is verified. -/
theorem Move.clients {a' : MainActor} (h : Move p a e a') : a'.clients = a.clients ∨
    ∃ identity saved, e = .connect (some identity) saved ∧ a.model.serverFingerprintVerified p = true ∧
      a'.clients = a.clients ++ [⟨a.model.serverPublicKey, a.model.serverID, identity⟩] := by
  cases h with
  | opened identity saved m host port hverified => exact .inr ⟨identity, saved, rfl, hverified, rfl⟩
  | quiet => exact .inl rfl
  | unpinned => exact .inl rfl
  | dropped => exact .inl rfl
  | left => exact .inl rfl
  | asked => exact .inl rfl
  | stepped => exact .inl rfl
  | finished => exact .inl rfl
  | drifted => exact .inl rfl
  | ended => exact .inl rfl
  | closed => exact .inl rfl

/-- Whatever client the screen or a task has was made. -/
structure Known (a : MainActor) : Prop where
  current : ∀ client, a.model.client = some client → client < a.clients.length
  task : ∀ t task client, a.tasks.get? t = some task → task.job.client = some client → client < a.clients.length

theorem Known.step {a' : MainActor} (h : Known a) (hmove : Move p a e a') : Known a' := by
  have added {tasks : Dict Nat Task} {job : Job} {n : Nat}
      (hold : ∀ t task client, tasks.get? t = some task → task.job.client = some client → client < n)
      (hnew : ∀ client, job.client = some client → client < n) :
      ∀ t task client, (tasks.set a.created ⟨job, false⟩).get? t = some task → task.job.client = some client →
        client < n := by
    intro t task client ht hclient
    obtain ⟨-, rfl⟩ | ⟨-, ht⟩ := Dict.get?_set_some.mp ht
    · exact hnew client hclient
    · exact hold t task client ht hclient
  have erased (t' : Nat) : ∀ t task client, (a.tasks.erase t').get? t = some task → task.job.client = some client →
      client < a.clients.length :=
    fun t task client ht => h.task t task client (Dict.get?_erase_some.mp ht).2
  have bound {m : PipaMobileViewModel} (hm : m.client = a.model.client) {client : Nat}
      (hclient : m.client = some client) :
      client < a.clients.length :=
    h.current client (hm.symm.trans hclient)
  cases hmove with
  | quiet _ m hm => exact ⟨fun _ => bound (congrArg Session.client hm), h.task⟩
  | unpinned _ m _ hm => exact ⟨fun _ => bound (congrArg Session.client hm), h.task⟩
  | dropped _ m _ hm => exact ⟨fun _ => bound (congrArg Session.client hm), h.task⟩
  | left _ m tasks hcancels hm =>
    refine ⟨fun client hclient => ?_, added ?_ fun client hclient => h.current client hclient⟩
    · have hnone : m.client = none := congrArg Session.client hm
      cases hnone.symm.trans hclient
    · intro t task client ht hclient
      obtain ⟨task', hold, hjob, -⟩ := hcancels.job t task ht
      exact h.task t task' client hold (hjob ▸ hclient)
  | opened identity _ m _ _ _ _ hm =>
    have hlength : a.clients.length <
        (a.clients ++ [Pinned.mk a.model.serverPublicKey a.model.serverID identity]).length := by
      simp
    refine ⟨fun client hclient => ?_, added ?_ fun client hclient => ?_⟩
    · obtain rfl := Option.some.inj ((congrArg Session.client hm).symm.trans hclient)
      exact hlength
    · intro t task client ht hclient
      exact (h.task t task client ht hclient).trans hlength
    · obtain rfl := Option.some.inj hclient
      exact hlength
  | asked _ _ _ m client _ _ hclient _ hm =>
    refine ⟨fun client' hclient' => ?_, added h.task fun client' hclient' => ?_⟩
    · obtain rfl := Option.some.inj ((congrArg Session.client hm).symm.trans hclient')
      exact h.current _ hclient
    · obtain rfl := Option.some.inj hclient'
      exact h.current _ hclient
  | stepped _ t task job htask hjob =>
    refine ⟨h.current, fun t' task' client ht hclient => ?_⟩
    obtain ⟨-, rfl⟩ | ⟨-, ht⟩ := Dict.get?_set_some.mp ht
    · rw [← Job.client_unbegun, hjob.same, Job.client_unbegun] at hclient
      exact h.task t task client htask hclient
    · exact h.task t' task' client ht hclient
  | finished _ t m hm => exact ⟨fun _ => bound (congrArg Session.client hm), erased t⟩
  | drifted t _ _ _ m _ hm =>
    refine ⟨fun client hclient => ?_, erased t⟩
    have hnone : m.client = none := congrArg Session.client hm
    cases hnone.symm.trans hclient
  | ended t _ _ _ m _ hm =>
    refine ⟨fun client hclient => ?_, erased t⟩
    obtain hsame | ⟨hnone, -⟩ := hm.2.1
    · exact bound hsame hclient
    · cases hnone.symm.trans hclient
  | closed t client _ _ m hlive hm =>
    obtain ⟨message, ht⟩ := hlive
    refine ⟨fun client' hclient => ?_, added (erased t) fun client' hclient => ?_⟩
    · obtain hsame | ⟨hnone, -⟩ := hm.2.1
      · exact bound hsame hclient
      · cases hnone.symm.trans hclient
    · obtain rfl := Option.some.inj hclient
      exact h.task t _ client ht rfl

/-- What is sent is sent to the client of a task. -/
theorem call_task {client : Nat} {call : ClientCall} (h : (client, call) ∈ (a.step p e).2) :
    ∃ t task, a.tasks.get? t = some task ∧ task.job.client = some client := by
  obtain ⟨t, -, h⟩ | ⟨t, outcome, -, h⟩ := call_of_task h
  · unfold start at h
    split at h
    · rename_i task htask
      refine ⟨t, task, htask, ?_⟩
      split at h
      · rename_i hjob
        obtain ⟨rfl, -⟩ := Prod.mk.inj (List.mem_singleton.mp h)
        rw [hjob]
        rfl
      · rename_i hjob
        obtain ⟨rfl, -⟩ := Prod.mk.inj (List.mem_singleton.mp h)
        rw [hjob]
        rfl
      · rename_i hjob
        obtain ⟨rfl, -⟩ := Prod.mk.inj (List.mem_singleton.mp h)
        rw [hjob]
        rfl
      · cases h
      · cases h
    · cases h
  · unfold resume at h
    split at h
    · rename_i task htask
      refine ⟨t, task, htask, ?_⟩
      split at h
      · rename_i hjob
        rw [hjob]
        obtain h | h := resumeConnect_calls h
        · exact congrArg some (Prod.mk.inj h).1.symm
        · exact congrArg some (Prod.mk.inj h).1.symm
      · cases h
      · cases h
    · cases h

theorem verified_of_current {m : PipaMobileViewModel} (h : m.serverFingerprintVerified p = true) :
    ∃ key fingerprint serverID, p.decodePublicKey m.serverPublicKey = some key ∧
      m.verified = (some fingerprint, some serverID) ∧
      same p.toPlatform fingerprint (p.publicKeyDigest key) = true ∧ same p.toPlatform serverID m.serverID = true := by
  unfold serverFingerprintVerified at h
  split at h
  · rename_i current fingerprint serverID hcurrent hfingerprint hserverID
    obtain ⟨key, hkey, rfl⟩ := Option.map_eq_some_iff.mp hcurrent
    obtain ⟨hsame, hsameID⟩ := Bool.and_eq_true_iff.mp h
    exact ⟨key, fingerprint, serverID, hkey, Prod.ext hfingerprint hserverID, hsame, hsameID⟩
  · cases h

/-! ## Runs -/

/-- The client of this number was made with the key and the name of a server that was verified then: since the user
marked that fingerprint and that name, nothing was marked and no mark was taken back. -/
def Verified (p : Phone) (settings : Option PipaMobileSettings) (client : Nat) (pinned : Pinned) (ops : List Event) :
    Prop :=
  ∃ pre identity saved post key fingerprint serverID, ops = pre ++ .connect (some identity) saved :: post ∧
    client = ((screen p settings).run pre).clients.length ∧
    pinned =
      ⟨((screen p settings).run pre).model.serverPublicKey, ((screen p settings).run pre).model.serverID, identity⟩ ∧
    p.decodePublicKey pinned.serverPublicKey = some key ∧ same p.toPlatform fingerprint (p.publicKeyDigest key) = true ∧
    same p.toPlatform serverID pinned.serverID = true ∧
    Machine.Since (fun pre e => Marks p fingerprint serverID ((screen p settings).run pre) e)
      (fun pre e => Leaves p ((screen p settings).run pre) e) pre

variable {settings : Option PipaMobileSettings} {ops : List Event}

theorem Verified.later {client : Nat} {pinned : Pinned} (h : Verified p settings client pinned ops) (e : Event) :
    Verified p settings client pinned (ops ++ [e]) := by
  obtain ⟨pre, identity, saved, post, key, fingerprint, serverID, rfl, h⟩ := h
  exact ⟨pre, identity, saved, post ++ [e], key, fingerprint, serverID, by rw [List.append_assoc, List.cons_append], h⟩

/-- What is marked was marked, and has stood since. -/
theorem run_marked {fingerprint serverID : PyStr}
    (h : ((screen p settings).run ops).model.verified = (some fingerprint, some serverID)) :
    Machine.Since (fun pre e => Marks p fingerprint serverID ((screen p settings).run pre) e)
      (fun pre e => Leaves p ((screen p settings).run pre) e) ops := by
  induction ops using List.reverseRecOn with
  | nil => cases h
  | append_singleton pre e ih =>
    rw [Machine.run_concat] at h
    obtain hmarks | ⟨hbefore, hleaves⟩ := step_verified h
    · exact .now hmarks
    · exact (ih hbefore).keep hleaves

theorem run_verified (p : Phone) (settings : Option PipaMobileSettings) (ops : List Event) :
    Known ((screen p settings).run ops) ∧ ∀ client pinned,
      ((screen p settings).run ops).clients[client]? = some pinned → Verified p settings client pinned ops := by
  induction ops using List.reverseRecOn with
  | nil =>
    refine ⟨⟨?_, ?_⟩, ?_⟩
    · intro client hclient
      cases hclient
    · intro t task client ht
      cases ht
    · intro client pinned hpinned
      cases hpinned
  | append_singleton pre e ih =>
    obtain ⟨hknown, hverified⟩ := ih
    have hmove := run_move (p := p) settings pre e
    refine ⟨hknown.step hmove, ?_⟩
    intro client pinned hpinned
    obtain hsame | ⟨identity, saved, rfl, hcurrent, hadded⟩ := hmove.clients
    · rw [hsame] at hpinned
      exact (hverified client pinned hpinned).later e
    · rw [hadded] at hpinned
      by_cases hold : client < ((screen p settings).run pre).clients.length
      · rw [List.getElem?_append_left hold] at hpinned
        exact (hverified client pinned hpinned).later _
      · rw [List.getElem?_append_right (Nat.le_of_not_lt hold), List.getElem?_singleton] at hpinned
        split at hpinned
        · rename_i hlast
          obtain rfl := Option.some.inj hpinned
          obtain ⟨key, fingerprint, serverID, hkey, hmarked, hfingerprint, hserverID⟩ := verified_of_current hcurrent
          exact ⟨pre, identity, saved, [], key, fingerprint, serverID, rfl, by omega, rfl, hkey, hfingerprint,
            hserverID, run_marked hmarked⟩
        · cases hpinned

/-- In every run, whatever is sent is sent to a client that was made with the key and the name of a server, which the
user had compared and marked, with the same fingerprint and the same name, and not taken back before. -/
theorem only_verified_servers (p : Phone) (settings : Option PipaMobileSettings) (pre : List Event) (e : Event)
    (client : Nat) (call : ClientCall) (h : (client, call) ∈ (screen p settings).out pre e) :
    ∃ pinned, ((screen p settings).run pre).clients[client]? = some pinned ∧ Verified p settings client pinned pre := by
  obtain ⟨hknown, hverified⟩ := run_verified p settings pre
  obtain ⟨t, task, ht, hclient⟩ := call_task h
  have hlt := hknown.task t task client ht hclient
  exact ⟨_, List.getElem?_eq_getElem hlt, hverified client _ (List.getElem?_eq_getElem hlt)⟩

theorem only_verified_servers_lock : ∃ pinned, Verified plainPhone none 0 pinned lockEvents := by
  obtain ⟨pinned, -, hverified⟩ := only_verified_servers plainPhone none lockEvents (.start 2) 0 _
    (mem_of_accepts accepts_lock)
  exact ⟨pinned, hverified⟩

end MainActor
end Pipa.Mobile
