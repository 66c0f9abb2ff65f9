import Pipa.Mobile.Moves

/- What the user of the phone approves. A confirmation is sent to the Core only for what stood on the screen, and
   that stood there because the Core answered so to the request before. -/
namespace Pipa.Mobile
open Pipa.Lib

/-- A confirmation is worded as the phone words it, and is the one of the request that was pinned. -/
theorem PipaMobileViewModel.confirmationOf_some {p : Phone} {m : PipaMobileViewModel} {response : Object}
    {q : PipaMobileConfirmation} (h : m.confirmationOf p response = some q) :
    isSafeConfirmationSummary p.toPlatform q.toolName q.summary = true ∧
      q.localRequestDigest = m.pendingLocalRequestDigest ∧
      (q.localRequestDigest = none ∨ sameOptional p q.serverRequestDigest q.localRequestDigest = true) := by
  simp only [confirmationOf, Option.bind_eq_bind, Option.bind_eq_some_iff, Option.guard_eq_some', exists_const,
    Option.pure_def] at h
  obtain ⟨confirmationID, -, toolName, -, summary, -, expiresAt, -, -, hsummary, -, serverRequestDigest, -, hdigest,
    h⟩ := h
  obtain rfl := Option.some.inj h
  refine ⟨hsummary, rfl, ?_⟩
  simpa only [Option.isNone_iff_eq_none] using hdigest

namespace MainActor
variable {p : Phone} {a : MainActor} {e : Event}

/-! ## What is sent -/

theorem resumeConnect_calls {t client port : Nat} {task : Task} {host : PyStr} {connectStep : ConnectStep}
    {outcome : Outcome} {call : Nat × ClientCall}
    (h : call ∈ (a.resumeConnect p t task client host port connectStep outcome).2) :
    call = (client, .requestCatalogDetails) ∨ call = (client, .disconnect) := by
  unfold resumeConnect at h
  dsimp only at h
  split at h
  · split at h
    · exact .inr (List.mem_singleton.mp h)
    · exact .inl (List.mem_singleton.mp h)
  · exact .inr (List.mem_singleton.mp h)
  · split at h
    · exact .inr (List.mem_singleton.mp h)
    · split at h
      · cases h
      · exact .inr (List.mem_singleton.mp h)
  · exact .inr (List.mem_singleton.mp h)
  · cases h
  · split at h <;> cases h
  · cases h

/-- Only the task of a request sends one, as it starts. -/
theorem request_started {client : Nat} {request : Request} (h : (client, .request request) ∈ (a.step p e).2) :
    ∃ t generation message cancelled, e = .start t ∧
      a.tasks.get? t = some ⟨.request client generation message request false, cancelled⟩ := by
  obtain ⟨t, rfl, hcall⟩ | ⟨t, outcome, rfl, hcall⟩ := call_of_task h
  · unfold start at hcall
    split at hcall
    · rename_i task htask
      obtain ⟨job, cancelled⟩ := task
      cases job with
      | connect client' host port connectStep =>
        cases connectStep <;> simp at hcall
      | request client' generation message request' sent =>
        cases sent with
        | true => cases hcall
        | false =>
          obtain ⟨rfl, hrequest⟩ := Prod.mk.inj (List.mem_singleton.mp hcall)
          cases hrequest
          exact ⟨t, generation, message, cancelled, rfl, htask⟩
      | disconnect client' =>
        cases client' <;> simp at hcall
    · cases hcall
  · unfold resume at hcall
    split at hcall
    · split at hcall
      · obtain hcall | hcall := resumeConnect_calls hcall <;> cases hcall
      · cases hcall
      · cases hcall
    · cases hcall

theorem start_request {t client generation : Nat} {message : String} {request : Request} {cancelled : Bool}
    (ht : a.tasks.get? t = some ⟨.request client generation message request false, cancelled⟩) :
    (client, .request request) ∈ (a.step p (.start t)).2 := by
  simp only [step, start, ht, List.mem_singleton]

/-! ## Runs -/

section Runs
variable (p : Phone) (settings : Option PipaMobileSettings)

/-- Nobody forgets the draft and no attempt to connect fails while the screen waits for an answer or for the user. -/
def Undisturbed (ops : List Event) : Prop := (screen p settings).Along (fun a e => ¬ Disturbs a e) ops

/-- A live request to this client is answered now, and the answer asks for the confirmation `q`. -/
def Arrives (client : Nat) (request : Request) (q : PipaMobileConfirmation) (ops : List Event) (e : Event) : Prop :=
  ∃ t answer, e = .resume t (.answer answer) ∧ Live ((screen p settings).run ops) t client request true ∧
    ((screen p settings).run ops).model.confirmationOf p answer.first = some q

/-- `q` is on the screen since the answer to this request asked for it. -/
def Shown (client : Nat) (request : Request) (q : PipaMobileConfirmation) (ops : List Event) : Prop :=
  Machine.Since (Arrives p settings client request q)
    (fun pre e => ((screen p settings).run (pre ++ [e])).model.pendingConfirmation = some q) ops

/-- This was sent to the client. -/
def Sent (client : Nat) (request : Request) (ops : List Event) : Prop :=
  ∃ pre e post, ops = pre ++ e :: post ∧ (client, .request request) ∈ (screen p settings).out pre e

/-- What was asked is a tool with these arguments, and this is its digest. -/
def Pins (request : Request) (digest : Option PyStr) : Prop :=
  ∀ name arguments, request = .callTool name arguments → ∃ d, digest = some d ∧ p.digest name arguments = some d

/-- Where `q` comes from: a request that this client was sent. Where the request is a tool with arguments, `q` is
for the same tool with the same arguments as far as the digests tell, or nothing was pinned for it. -/
structure Origin (client : Nat) (request : Request) (q : PipaMobileConfirmation) (ops : List Event) : Prop where
  shown : Shown p settings client request q ops
  sent : Sent p settings client request ops
  summary : PipaMobileViewModel.isSafeConfirmationSummary p.toPlatform q.toolName q.summary = true
  digest : q.localRequestDigest = none ∨
    PipaMobileViewModel.sameOptional p q.serverRequestDigest q.localRequestDigest = true ∧
      Pins p request q.localRequestDigest
  pinned : Undisturbed p settings ops → Pins p request q.localRequestDigest

/-- The user resolved what was on the screen, and that made the task, which tells this client so. -/
def Approved (t client : Nat) (cid : PyStr) (accepted : Bool) (ops : List Event) : Prop :=
  ∃ pre now post q asker request generation message, ops = pre ++ .resolveConfirmation accepted now :: post ∧
    t = ((screen p settings).run pre).created ∧ ((screen p settings).run pre).tasks.get? t = none ∧
    ((screen p settings).run (pre ++ [.resolveConfirmation accepted now])).tasks.get? t =
      some ⟨.request client generation message (.confirm cid accepted) false, false⟩ ∧
    ((screen p settings).run pre).model.client = some client ∧
    ((screen p settings).run pre).model.pendingConfirmation = some q ∧ q.confirmationID = cid ∧
    q.isExpired now = false ∧ Origin p settings asker request q pre ∧ (Undisturbed p settings pre → asker = client)

variable {p settings} {ops : List Event}

theorem Sent.later {client : Nat} {request : Request} (h : Sent p settings client request ops) (e : Event) :
    Sent p settings client request (ops ++ [e]) := by
  obtain ⟨pre, e', post, rfl, hcall⟩ := h
  exact ⟨pre, e', post ++ [e], by rw [List.append_assoc, List.cons_append], hcall⟩

theorem Approved.later {t client : Nat} {cid : PyStr} {accepted : Bool}
    (h : Approved p settings t client cid accepted ops) (e : Event) :
    Approved p settings t client cid accepted (ops ++ [e]) := by
  obtain ⟨pre, now, post, q, asker, request, generation, message, rfl, h⟩ := h
  exact ⟨pre, now, post ++ [e], q, asker, request, generation, message,
    by rw [List.append_assoc, List.cons_append], h⟩

theorem Undisturbed.before {e : Event} (h : Undisturbed p settings (ops ++ [e])) :
    Undisturbed p settings ops ∧ ¬ Disturbs ((screen p settings).run ops) e :=
  Machine.Along.of_concat h

/-- What holds of every run: where everything that waits comes from. -/
structure Accounted (p : Phone) (settings : Option PipaMobileSettings) (ops : List Event) : Prop where
  live : ∀ t client request sent, Live ((screen p settings).run ops) t client request sent →
    (((screen p settings).run ops).model.pendingLocalRequestDigest = none ∨
      Pins p request ((screen p settings).run ops).model.pendingLocalRequestDigest) ∧
    (Undisturbed p settings ops → ((screen p settings).run ops).model.client = some client ∧
      Pins p request ((screen p settings).run ops).model.pendingLocalRequestDigest)
  sent : ∀ t client generation message request cancelled, ((screen p settings).run ops).tasks.get? t =
    some ⟨.request client generation message request true, cancelled⟩ → Sent p settings client request ops
  approved : ∀ t client generation message cid accepted sent cancelled, ((screen p settings).run ops).tasks.get? t =
    some ⟨.request client generation message (.confirm cid accepted) sent, cancelled⟩ →
      Approved p settings t client cid accepted ops
  pending : ∀ q, ((screen p settings).run ops).model.pendingConfirmation = some q →
    ∃ client request, Origin p settings client request q ops ∧
      (Undisturbed p settings ops → ((screen p settings).run ops).model.client = some client)

theorem Accounted.step (h : Accounted p settings ops) (e : Event) : Accounted p settings (ops ++ [e]) := by
  have hkept := run_kept p settings ops
  have hmove := run_move (p := p) settings ops e
  refine ⟨?_, ?_, ?_, ?_⟩
  · -- live requests
    intro t client request sent hlive
    obtain ⟨sent', hbefore, -, -, -, hdigest, hclient⟩ | ⟨hbegan, -⟩ := hmove.of_live hkept hlive
    · obtain ⟨hpinned, hundisturbed⟩ := h.live t client request sent' hbefore
      refine ⟨?_, fun hrest => ?_⟩
      · obtain hdigest | ⟨hnone, -⟩ := hdigest
        · rw [hdigest]
          exact hpinned
        · exact .inl hnone
      · obtain ⟨hrest, hquiet⟩ := hrest.before
        obtain ⟨hcurrent, hpins⟩ := hundisturbed hrest
        obtain hdigest | ⟨-, hdisturbs⟩ := hdigest
        · obtain hsame | hnone | hdisturbs := hclient
          · rw [hsame, hdigest]
            exact ⟨hcurrent, hpins⟩
          · rw [hnone] at hcurrent
            cases hcurrent
          · exact absurd hdisturbs hquiet
        · exact absurd hdisturbs hquiet
    · obtain ⟨digest, hasks, hm⟩ := hbegan.asks
      have hdigest : ((screen p settings).run (ops ++ [e])).model.pendingLocalRequestDigest = digest :=
        congrArg Session.digest hm
      have hpins : Pins p request digest := by
        intro name arguments hrequest
        subst hrequest
        cases hasks with
        | tool command values arguments d _ hd => exact ⟨d, rfl, hd⟩
      rw [hdigest]
      exact ⟨.inr hpins, fun _ => ⟨congrArg Session.client hm, hpins⟩⟩
  · -- what was sent
    intro t client generation message request cancelled ht
    obtain ⟨sent', cancelled', hold, hsent, -⟩ | ⟨-, hsent, -⟩ := hmove.of_request ht
    · obtain rfl | ⟨rfl, rfl, -⟩ := hsent
      · exact (h.sent t client generation message request cancelled' hold).later e
      · exact ⟨ops, _, [], rfl, start_request (p := p) hold⟩
    · cases hsent
  · -- confirmations
    intro t client generation message cid accepted sent cancelled ht
    obtain ⟨sent', cancelled', hold, -, -⟩ | ⟨hbegan, rfl, rfl, -⟩ := hmove.of_request ht
    · exact (h.approved t client generation message cid accepted sent' cancelled' hold).later e
    · -- tasks are numbered as they are made, so the next number is free
      have hfresh : ((screen p settings).run ops).tasks.get? t = none := by
        rw [Option.eq_none_iff_forall_ne_some]
        intro task hold
        exact absurd (hkept.born t task hold) (by rw [hbegan.number.1]; exact Nat.lt_irrefl _)
      obtain ⟨digest, hasks, -⟩ := hbegan.asks
      cases hasks with
      | confirm q _ now hpending hvalid =>
        obtain ⟨asker, request, horigin, hasker⟩ := h.pending q hpending
        refine ⟨ops, now, [], q, asker, request, generation, message, rfl, hbegan.number.1, hfresh, ht, hbegan.asked,
          hpending, rfl, hvalid, horigin, fun hrest => ?_⟩
        exact Option.some.inj ((hasker hrest).symm.trans hbegan.asked)
  · -- what is on the screen
    intro q hq
    obtain ⟨hpending, hclient⟩ | ⟨t, client, request, answer, rfl, hlive, hconfirmation, hclient⟩ :=
      hmove.of_pending hkept hq
    · obtain ⟨client, request, ⟨hshown, hsent, hsummary, hdigest, hpinned⟩, hasker⟩ := h.pending q hpending
      refine ⟨client, request, ⟨hshown.keep hq, hsent.later e, hsummary, hdigest, fun hrest => hpinned hrest.before.1⟩,
        fun hrest => ?_⟩
      obtain ⟨hrest, hquiet⟩ := hrest.before
      obtain hsame | hnone | hdisturbs := hclient
      · rw [hsame]
        exact hasker hrest
      · have hcurrent := hasker hrest
        rw [hnone] at hcurrent
        cases hcurrent
      · exact absurd hdisturbs hquiet
    · obtain ⟨hsummary, hlocal, hsame⟩ := PipaMobileViewModel.confirmationOf_some hconfirmation
      obtain ⟨hpinned, hundisturbed⟩ := h.live t client request true hlive
      obtain ⟨message, ht⟩ := hlive
      refine ⟨client, request, ⟨.now ⟨t, answer, rfl, ⟨message, ht⟩, hconfirmation⟩,
        (h.sent _ _ _ _ _ _ ht).later _, hsummary, ?_, fun hrest => ?_⟩, fun hrest => ?_⟩
      · obtain hnone | hsame := hsame
        · exact .inl hnone
        · obtain hnone | hpins := hpinned
          · exact .inl (hlocal.trans hnone)
          · exact .inr ⟨hsame, hlocal ▸ hpins⟩
      · exact hlocal ▸ (hundisturbed hrest.before.1).2
      · rw [hclient]
        exact (hundisturbed hrest.before.1).1

theorem accounted (p : Phone) (settings : Option PipaMobileSettings) (ops : List Event) : Accounted p settings ops := by
  induction ops using List.reverseRecOn with
  | nil =>
    have hnone (t : Nat) (task : Task) : ((screen p settings).run []).tasks.get? t ≠ some task := by
      intro h
      cases h
    refine ⟨?_, ?_, ?_, ?_⟩
    · intro t _ _ _ hlive
      obtain ⟨_, ht⟩ := hlive
      exact absurd ht (hnone t _)
    · intro t _ _ _ _ _ ht
      exact absurd ht (hnone t _)
    · intro t _ _ _ _ _ _ _ ht
      exact absurd ht (hnone t _)
    · intro q hq
      cases hq
  | append_singleton pre e ih => exact ih.step e

/-- The request of this task was sent, or there is none any more. -/
structure Spent (a : MainActor) (t : Nat) : Prop where
  born : t < a.created
  sent : ∀ client generation message request sent cancelled,
    a.tasks.get? t = some ⟨.request client generation message request sent, cancelled⟩ → sent = true

theorem Spent.step {a' : MainActor} {t : Nat} (h : Spent a t) (hmove : Move p a e a') : Spent a' t := by
  refine ⟨h.born.trans_le hmove.created_le, ?_⟩
  intro client generation message request sent cancelled ht
  obtain ⟨sent', cancelled', hold, hsent, -⟩ | ⟨hbegan, -, -⟩ := hmove.of_request ht
  · obtain rfl | ⟨-, -, hsent⟩ := hsent
    · exact h.sent _ _ _ _ _ _ hold
    · exact hsent
  · exact absurd h.born (by rw [hbegan.number.1]; exact Nat.lt_irrefl _)

/-- A task starts one request. -/
theorem start_once {t client : Nat} {request : Request}
    (h : (client, .request request) ∈ (screen p settings).out ops (.start t)) (post : List Event) :
    Spent ((screen p settings).run (ops ++ .start t :: post)) t := by
  induction post using List.reverseRecOn with
  | nil =>
    obtain ⟨t', generation, message, cancelled, ht, htask⟩ := request_started h
    cases ht
    have hborn := (run_kept p settings ops).born t _ htask
    refine ⟨hborn.trans_le (run_move settings ops (.start t)).created_le, ?_⟩
    rw [Machine.run_concat]
    intro client' generation' message' request' sent' cancelled' ht
    have hstart : (((screen p settings).run ops).step p (.start t)).1.tasks.get? t =
        some ⟨.request client generation message request true, cancelled⟩ := by
      simp only [step, start, htask, setJob, Dict.get?_set, if_true]
    cases hstart.symm.trans ht
    rfl
  | append_singleton post e ih =>
    rw [← List.cons_append, ← List.append_assoc, Machine.run_concat]
    exact ih.step (step_move _ e)

end Runs

/-- In every run, a confirmation is sent to a client only by a task that the user made by resolving, in time, what
stood on the screen then, and with the answer that the user gave; each such task sends it once. What stood there was
worded by the phone, and came as the answer to a request that a client was sent; where that request was a tool with
arguments, the digest of just these is the one that the Core gave, if one was pinned. And where nothing disturbs the
screen one is pinned, and it is the same client. -/
theorem approvals (p : Phone) (settings : Option PipaMobileSettings) (pre : List Event) (e : Event) (client : Nat)
    (cid : PyStr) (accepted : Bool) (h : (client, .request (.confirm cid accepted)) ∈ (screen p settings).out pre e) :
    ∃ t, e = .start t ∧ Approved p settings t client cid accepted pre ∧
      ∀ post client' request,
        (client', .request request) ∉ (screen p settings).out (pre ++ .start t :: post) (.start t) := by
  obtain ⟨t, generation, message, cancelled, rfl, ht⟩ := request_started h
  refine ⟨t, rfl, (accounted p settings pre).approved t client generation message cid accepted false cancelled ht, ?_⟩
  intro post client' request hagain
  obtain ⟨t', generation', message', cancelled', heq, htask⟩ := request_started hagain
  cases heq
  cases (start_once h post).sent _ _ _ _ _ _ htask

/-! ## A lock that the user approves -/

/-- A phone that knows one port and one key. -/
def plainPhone : Phone where
  toPlatform := { plainPlatform with
    parseInt text := if text = PyStr.ofString "18765" then some 18765 else none }
  base64Encoded text :=
    if text = PyStr.ofString "AAAAAAAAAAAAAAAAAAAAAAAAAAAAAAAAAAAAAAAAAAA=" then some (List.replicate 32 0) else none
  publicKeyDigest _ := PyStr.ofString
    "66:68:7A:AD:F8:62:BD:77:6C:8F:C1:8B:8E:9F:8E:20:08:97:14:85:6E:E2:33:B3:90:2A:59:1D:0D:5F:29:25"
  digest _ _ := none

/-- The Core asks for a confirmation of the lock. -/
def lockAnswer : Answer where
  first := [(PyStr.ofString "type", .str (PyStr.ofString "confirm_request")),
    (PyStr.ofString "confirmation_id", .str (PyStr.ofString "c")),
    (PyStr.ofString "tool_name", .str (PyStr.ofString "system_lock")),
    (PyStr.ofString "summary", .str (PyStr.ofString "Bloquear el ordenador.")),
    (PyStr.ofString "expires_at", .int 60)]
  followUp := [(PyStr.ofString "type", .str (PyStr.ofString "ui_state")),
    (PyStr.ofString "state", .str (PyStr.ofString "confirm"))]
  isUIState := rfl

/-- The user verifies the server, connects, asks for the lock and accepts it. -/
def lockEvents : List Event :=
  [.edit .host (PyStr.ofString "192.168.1.20"),
    .edit .serverPublicKey (PyStr.ofString "AAAAAAAAAAAAAAAAAAAAAAAAAAAAAAAAAAAAAAAAAAA"),
    .markServerFingerprintVerified, .connect (some (PyStr.ofString "key", PyStr.ofString "fingerprint")) true, .start 0, .resume 0 .done,
    .resume 0 (.catalog [] []), .edit .textCommand (PyStr.ofString "bloquea el ordenador"), .sendTextCommand, .start 1,
    .resume 1 (.answer lockAnswer), .resolveConfirmation true 30]

/-- A client is told that the lock is accepted. -/
def accepts (calls : List (Nat × ClientCall)) : Bool :=
  match calls with
  | [(0, .request (.confirm cid true))] => cid == PyStr.ofString "c"
  | _ => false

theorem accepts_lock : accepts ((screen plainPhone none).out lockEvents (.start 2)) = true := by decide +kernel

theorem mem_of_accepts {calls : List (Nat × ClientCall)} (h : accepts calls = true) :
    (0, .request (.confirm (PyStr.ofString "c") true)) ∈ calls := by
  unfold accepts at h
  split at h
  · rename_i cid
    rw [beq_iff_eq] at h
    subst h
    exact List.mem_singleton_self _
  · cases h

theorem approvals_lock : Approved plainPhone none 2 0 (PyStr.ofString "c") true lockEvents := by
  obtain ⟨t, ht, happroved, -⟩ := approvals plainPhone none lockEvents (.start 2) 0 (PyStr.ofString "c") true
    (mem_of_accepts accepts_lock)
  obtain rfl : 2 = t := Event.start.inj ht
  exact happroved

end MainActor

end Pipa.Mobile
