import Pipa.Mobile.Moves

/- The sessions of the phone apart from each other. What a task of a session that was left brings back, however
   late and in whatever session the screen is then, changes nothing there. -/
namespace Pipa.Mobile.MainActor
open Pipa.Lib

variable {p : Phone} {a : MainActor} {t : Nat}

/-! ## Tasks of before -/

/-- A request that was cancelled, or of another session, only ends. -/
theorem resume_stale {client generation : Nat} {message : String} {request : Request} {sent cancelled : Bool}
    (ht : a.tasks.get? t = some ⟨.request client generation message request sent, cancelled⟩)
    (hstale : generation ≠ a.model.sessionGeneration) (outcome : Outcome) :
    a.resume p t outcome = (a, []) ∨ a.resume p t outcome = (a.finish t, []) := by
  cases sent with
  | false =>
    simp only [resume, ht]
    exact .inl trivial
  | true =>
    have hother : (cancelled || a.model.sessionGeneration != generation) = true := by
      rw [Bool.or_eq_true, bne_iff_ne]
      exact .inr hstale.symm
    simp only [resume, ht, resumeRequest, hother, if_true]
    cases outcome with
    | answer _ => exact .inr rfl
    | thrown => exact .inr rfl
    | done => exact .inl rfl
    | catalog _ _ => exact .inl rfl

/-- An attempt to connect that was cancelled only disconnects its client, and ends. -/
theorem resume_cancelled {client port : Nat} {host : PyStr} {connectStep : ConnectStep}
    (ht : a.tasks.get? t = some ⟨.connect client host port connectStep, true⟩) (outcome : Outcome) :
    ((a.resume p t outcome).1.model = a.model ∨
      (a.resume p t outcome).1.model = { a.model with connectInProgress := false }) ∧
    ∀ call ∈ (a.resume p t outcome).2, call = (client, .disconnect) := by
  simp only [resume, ht, resumeConnect, if_true]
  have disconnects : ∀ call ∈ [(client, ClientCall.disconnect)], call = (client, .disconnect) :=
    fun call hcall => List.mem_singleton.mp hcall
  split
  · exact ⟨.inl rfl, disconnects⟩
  · exact ⟨.inl rfl, disconnects⟩
  · exact ⟨.inl rfl, disconnects⟩
  · exact ⟨.inl rfl, disconnects⟩
  · exact ⟨.inr rfl, List.forall_mem_nil _⟩
  · exact ⟨.inr rfl, List.forall_mem_nil _⟩
  · exact ⟨.inl rfl, List.forall_mem_nil _⟩

variable {settings : Option PipaMobileSettings} {pre : List Event}

theorem created_le (post : List Event) :
    ((screen p settings).run pre).created ≤ ((screen p settings).run (pre ++ post)).created :=
  Machine.between (R := fun s s' => s.created ≤ s'.created) (fun _ => le_rfl) (fun _ _ _ => Nat.le_trans)
    (fun s e => (step_move s e).created_le) pre post

theorem generation_le (post : List Event) :
    ((screen p settings).run pre).model.sessionGeneration ≤
      ((screen p settings).run (pre ++ post)).model.sessionGeneration :=
  Machine.between (R := fun s s' => s.model.sessionGeneration ≤ s'.model.sessionGeneration) (fun _ => le_rfl)
    (fun _ _ _ => Nat.le_trans) (fun s e => (step_move s e).generation_le) pre post

/-- The number of a task is not given to another one. -/
theorem same_task (hborn : t < ((screen p settings).run pre).created) (post : List Event) {task' : Task}
    (ht : ((screen p settings).run (pre ++ post)).tasks.get? t = some task') :
    ∃ task, ((screen p settings).run pre).tasks.get? t = some task ∧ task'.job.unbegun = task.job.unbegun ∧
      (task'.cancelled = false → task.cancelled = false) := by
  induction post using List.reverseRecOn generalizing task' with
  | nil =>
    rw [List.append_nil] at ht
    exact ⟨task', ht, rfl, id⟩
  | append_singleton post e ih =>
    rw [← List.append_assoc] at ht
    obtain ⟨task'', hold, hjob, hlive⟩ | ⟨hnew, -⟩ := (run_move settings (pre ++ post) e).of_task ht
    · obtain ⟨task, htask, hjob', hlive'⟩ := ih hold
      exact ⟨task, htask, hjob.trans hjob', fun h => hlive' (hlive h)⟩
    · exact absurd (hborn.trans_le (created_le post)) (by rw [hnew]; exact Nat.lt_irrefl _)

/-- What `disconnect` leaves behind is cancelled, or not of the session that comes. -/
theorem disconnect_behind {task : Task} (hborn : t < a.created) (ht : a.disconnect.tasks.get? t = some task)
    (hlive : task.cancelled = false) : a.model.operationTask ≠ some t ∧ a.model.requestTask ≠ some t := by
  obtain ⟨m, tasks, hleft, hcancels, -⟩ := disconnect_left (a := a)
  rw [hleft] at ht
  obtain ⟨rfl, -⟩ | ⟨-, ht⟩ := Dict.get?_set_some.mp ht
  · exact absurd hborn (Nat.lt_irrefl _)
  · obtain ⟨task', -, -, hkeeps⟩ := hcancels.job t task ht
    exact (hkeeps hlive).2

theorem disconnect_generation : a.disconnect.model.sessionGeneration = a.model.sessionGeneration + 1 := rfl

theorem run_disconnect : (screen p settings).run (pre ++ [.disconnect]) = ((screen p settings).run pre).disconnect :=
  Machine.run_concat _ _ _

/-- A request of the session before only ends. -/
theorem request_behind {client generation : Nat} {message : String} {request : Request} {sent cancelled : Bool}
    (ht : ((screen p settings).run pre).tasks.get? t =
      some ⟨.request client generation message request sent, cancelled⟩) (post : List Event) (outcome : Outcome) :
    ((screen p settings).run (pre ++ .disconnect :: post)).resume p t outcome =
        ((screen p settings).run (pre ++ .disconnect :: post), []) ∨
      ((screen p settings).run (pre ++ .disconnect :: post)).resume p t outcome =
        (((screen p settings).run (pre ++ .disconnect :: post)).finish t, []) := by
  have hkept := run_kept p settings pre
  have hgeneration : generation < ((screen p settings).run (pre ++ .disconnect :: post)).model.sessionGeneration := by
    have hleft : generation < ((screen p settings).run (pre ++ [.disconnect])).model.sessionGeneration := by
      rw [run_disconnect, disconnect_generation]
      exact Nat.lt_succ_of_le (hkept.generation _ _ _ _ _ _ _ ht)
    rw [List.append_cons]
    exact hleft.trans_le (generation_le post)
  cases hnow : ((screen p settings).run (pre ++ .disconnect :: post)).tasks.get? t with
  | none => exact .inl (by simp only [resume, hnow])
  | some task =>
    obtain ⟨task', hold, hjob, -⟩ := same_task (hkept.born t _ ht) (.disconnect :: post) hnow
    obtain rfl := Option.some.inj (ht.symm.trans hold)
    obtain ⟨job, cancelled'⟩ := task
    cases job with
    | request =>
      cases hjob
      exact resume_stale hnow (Nat.ne_of_lt hgeneration) outcome
    | connect => cases hjob
    | disconnect => cases hjob

/-- The attempt to connect of the session before disconnects its client. -/
theorem connect_behind {client port : Nat} {host : PyStr} {connectStep : ConnectStep} {cancelled : Bool}
    (ht : ((screen p settings).run pre).tasks.get? t = some ⟨.connect client host port connectStep, cancelled⟩)
    (hoperation : ((screen p settings).run pre).model.operationTask = some t) (post : List Event) :
    ((screen p settings).run (pre ++ .disconnect :: post)).tasks.get? t = none ∨
      ∃ connectStep', ((screen p settings).run (pre ++ .disconnect :: post)).tasks.get? t =
        some ⟨.connect client host port connectStep', true⟩ := by
  have hborn := (run_kept p settings pre).born t _ ht
  cases hnow : ((screen p settings).run (pre ++ .disconnect :: post)).tasks.get? t with
  | none => exact .inl rfl
  | some task =>
    right
    obtain ⟨task', hold, hjob, -⟩ := same_task hborn (.disconnect :: post) hnow
    obtain rfl := Option.some.inj (ht.symm.trans hold)
    -- it was cancelled as the session was left
    rw [List.append_cons] at hnow
    obtain ⟨task', hleft, -, hlive⟩ := same_task (hborn.trans_le (created_le [.disconnect])) post hnow
    rw [run_disconnect] at hleft
    have hcancelled : task'.cancelled = true := by
      by_contra hnot
      exact (disconnect_behind hborn hleft (Bool.not_eq_true _ ▸ hnot)).1 hoperation
    have htask : task.cancelled = true := by
      by_contra hnot
      have := hlive (Bool.not_eq_true _ ▸ hnot)
      rw [hcancelled] at this
      cases this
    obtain ⟨job, cancelled'⟩ := task
    obtain rfl : cancelled' = true := htask
    cases job with
    | connect client' host' port' connectStep' =>
      cases hjob
      exact ⟨connectStep', rfl⟩
    | request => cases hjob
    | disconnect => cases hjob

/-- In every run, the screen waits for at most one answer, with nothing on it to be confirmed. And whatever tasks
there are as the user leaves a session, in any later state, whatever session the screen is in then: if the task of a
request goes on, with an answer or a failure, then the screen is as before and nothing is sent; if the task of the
attempt to connect goes on, then only its end is noted, and its own client is disconnected. -/
theorem sessions_apart (p : Phone) (settings : Option PipaMobileSettings) (pre post : List Event) :
    (∀ t client request sent, Live ((screen p settings).run pre) t client request sent →
      ((screen p settings).run pre).model.pendingConfirmation = none ∧
      ((screen p settings).run pre).model.requestInProgress = true ∧
      ((screen p settings).run pre).model.requestTask = some t) ∧
    (∀ t client generation message request sent cancelled outcome,
      ((screen p settings).run pre).tasks.get? t =
        some ⟨.request client generation message request sent, cancelled⟩ →
      ((screen p settings).run (pre ++ .disconnect :: post ++ [.resume t outcome])).model =
        ((screen p settings).run (pre ++ .disconnect :: post)).model ∧
      (screen p settings).out (pre ++ .disconnect :: post) (.resume t outcome) = []) ∧
    ∀ t client host port connectStep cancelled outcome,
      ((screen p settings).run pre).tasks.get? t = some ⟨.connect client host port connectStep, cancelled⟩ →
      ((screen p settings).run pre).model.operationTask = some t →
      (((screen p settings).run (pre ++ .disconnect :: post ++ [.resume t outcome])).model =
          ((screen p settings).run (pre ++ .disconnect :: post)).model ∨
        ((screen p settings).run (pre ++ .disconnect :: post ++ [.resume t outcome])).model =
          { ((screen p settings).run (pre ++ .disconnect :: post)).model with connectInProgress := false }) ∧
      ∀ call ∈ (screen p settings).out (pre ++ .disconnect :: post) (.resume t outcome),
        call = (client, .disconnect) := by
  refine ⟨(run_kept p settings pre).live, ?_, ?_⟩
  · intro t client generation message request sent cancelled outcome ht
    rw [Machine.run_concat, Machine.out]
    have hends := request_behind ht post outcome
    generalize (screen p settings).run (pre ++ .disconnect :: post) = a at hends
    obtain h | h := hends
    · exact ⟨congrArg (·.1.model) h, congrArg Prod.snd h⟩
    · exact ⟨congrArg (·.1.model) h, congrArg Prod.snd h⟩
  · intro t client host port connectStep cancelled outcome ht hoperation
    rw [Machine.run_concat, Machine.out]
    have hnow := connect_behind ht hoperation post
    generalize (screen p settings).run (pre ++ .disconnect :: post) = a at hnow
    obtain hnone | ⟨connectStep', hnow⟩ := hnow
    · have hsame : a.resume p t outcome = (a, []) := by simp only [resume, hnone]
      refine ⟨.inl (congrArg (·.1.model) hsame), ?_⟩
      intro call hcall
      change call ∈ (a.resume p t outcome).2 at hcall
      rw [hsame] at hcall
      cases hcall
    · exact resume_cancelled hnow outcome

end Pipa.Mobile.MainActor
