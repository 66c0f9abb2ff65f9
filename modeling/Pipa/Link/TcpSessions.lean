import Pipa.Link.TcpGateway

/- The Core sessions of the TCP gateway. Each belongs to the connection that it was opened for,
   and to no other; it is gone from the Core when the connection is gone or has closed it.

   With what the Core does itself, a tool that needs a confirmation runs for a connection only if
   the request and its confirmation came as frames of that one connection, each at a moment when the
   device's key was trusted. -/
namespace Pipa.Link.Tcp.SecureTcpGateway
open Pipa.Lib Pipa.Secure
open Pipa.Core (State FreshSessions sessionTokens ClientMessage PendingConfirmation)

variable {ω : Type} {s : Settings ω} {g : SecureTcpGateway ω}

/-! ## What was asked -/

theorem step_asked (e : Event ω) : (g.step s e).1.asked = g.asked ++ (g.step s e).2.asked := by
  generalize hstep : g.step s e = r
  have hmove := g.step_move (s := s) e
  rw [hstep] at hmove
  cases hmove with
  | stay _ g' asked _ _ _ hkept _ => exact hkept
  | join _ => exact (List.append_nil _).symm
  | leave _ _ _ _ => rfl
  | stop _ _ _ _ _ _ _ _ _ => rfl
  | serve _ _ _ _ _ _ _ _ _ _ => rfl

/-- Every question was asked by one event of the run. -/
theorem asked_split {server : SecureSessionServer} {events : List (Event ω)} {p q : List (Option Nat × Core.Op ω)}
    {a : Option Nat × Core.Op ω} (h : ((machine s server).run events).asked = p ++ a :: q) :
    ∃ pre e post before after, events = pre ++ e :: post ∧
      ((machine s server).out pre e).asked = before ++ a :: after ∧
      p = ((machine s server).run pre).asked ++ before := by
  induction events using List.reverseRecOn generalizing q with
  | nil =>
    rw [Machine.run_nil] at h
    cases p with
    | nil => cases h
    | cons b p => cases h
  | append_singleton pre e ih =>
    have hasked : ((machine s server).run (pre ++ [e])).asked =
        ((machine s server).run pre).asked ++ ((machine s server).out pre e).asked := by
      rw [Machine.run_concat]
      exact step_asked e
    rw [hasked] at h
    obtain ⟨later, hbefore, -⟩ | ⟨mid, hmid, rfl⟩ := append_eq_split h
    · obtain ⟨pre', e', post, before, after, rfl, hout, hp⟩ := ih hbefore
      exact ⟨pre', e', post ++ [e], before, after, by simp, hout, hp⟩
    · exact ⟨pre, e, [], mid, q, rfl, hmid, rfl⟩

theorem core_step (e : Event ω) : (g.step s e).1.core s =
    (Core.machine s.core).run (g.asked.map Prod.snd ++ (g.step s e).2.asked.map Prod.snd) := by
  rw [core, step_asked, List.map_append]

/-! ## Sessions of the Core -/

section
variable {core : Core.PipaCore ω} {pre ops : List (Core.Op ω)} {sid : PyStr} {session : Core.DeviceSession}

/-- A session whose id was not drawn meanwhile was there before. -/
theorem registered_before_run (hnew : sid ∉ sessionTokens ops)
    (h : ((Core.machine core).run (pre ++ ops)).sessions.get? sid = some session) :
    ∃ earlier, ((Core.machine core).run pre).sessions.get? sid = some earlier := by
  induction ops using List.reverseRecOn generalizing session with
  | nil => exact ⟨session, by rwa [List.append_nil] at h⟩
  | append_singleton ops op ih =>
    rw [Core.sessionTokens_concat, List.mem_append, not_or] at hnew
    rw [← List.append_assoc, Machine.run_concat] at h
    have hother : op.sessionToken ≠ some sid := by
      intro heq
      rw [heq] at hnew
      exact hnew.2 (List.mem_singleton_self _)
    obtain ⟨earlier, hearlier, -⟩ := (op.apply_turn core _).registered_before hother h
    exact ih hnew.1 hearlier

theorem closed_gone (pre : List (Core.Op ω)) (sid : PyStr) (clock : Core.Clock) :
    ((Core.machine core).run (pre ++ [.close sid clock])).sessions.get? sid = none := by
  rw [Machine.run_concat, Option.eq_none_iff_forall_ne_some]
  intro session h
  exact (Dict.get?_erase_some.mp h).1 rfl

/-- A session that was not created leaves at most sessions that were there. -/
theorem failed_create {st : State} {device token : PyStr} {clock : Core.Clock}
    (hfailed : ∀ messages, ((Core.Op.create device none [] false token clock).apply core st).result ≠ .ok messages)
    (h : ((Core.Op.create device none [] false token clock).apply core st).state.sessions.get? sid =
      some session) :
    st.sessions.get? sid = some session := by
  simp only [Core.Op.apply, Core.PipaCore.createSession, Core.SessionRegistry.create] at hfailed h
  split at h
  · rename_i hcreated
    rw [hcreated] at hfailed
    exact absurd rfl (hfailed [])
  · rename_i hcreated
    split at hcreated
    · obtain ⟨rfl, -⟩ := Prod.mk.inj hcreated
      exact (Core.get?_prune_sessions.mp h).1
    split at hcreated
    · obtain ⟨rfl, -⟩ := Prod.mk.inj hcreated
      exact (Core.get?_prune_sessions.mp h).1
    · cases (Prod.mk.inj hcreated).2

end

/-! ## Whose session it is -/

/-- A connection that ends closes its session last. -/
theorem case_leaves {client : Client} {payload : Object} {d : Draws ω} {t : Turn ω} {sid : PyStr}
    (h : t.Case s (g.core s) client g.sessionServer payload d) (hsound : client.Sound)
    (hsid : client.secureCore.coreSessionId = some sid) :
    ∃ front, t.asked ++ closing t.secureCore d.clock = front ++ [.close sid d.clock] := by
  have hauth : client.secureCore.authenticated = true := by
    rw [← hsound.whole, hsid]
    rfl
  have closes {c : SecureCoreConnection} (hc : c.coreSessionId = some sid) :
      closing c d.clock = ([.close sid d.clock] : List (Core.Op ω)) := by
    rw [closing, hc]
  cases h with
  | stopped hasked _ hsession => exact ⟨t.asked, by rw [closes (hsession.trans hsid)]⟩
  | refused _ hbefore _ _ _ _ =>
    rw [hauth] at hbefore
    cases hbefore
  | opened _ _ _ _ hbefore _ _ _ _ =>
    rw [hauth] at hbefore
    cases hbefore
  | unread _ _ _ _ hcore _ => exact ⟨t.asked, by rw [closes (by rw [hcore]; exact hsid)]⟩
  | closed sid' hbefore hasked hcore _ =>
    obtain rfl : sid' = sid := Option.some.inj (hbefore.symm.trans hsid)
    exact ⟨[], by rw [hasked, hcore]; rfl⟩
  | handled _ _ _ _ _ _ _ _ hcore _ => exact ⟨t.asked, by rw [closes (by rw [hcore]; exact hsid)]⟩

/-- A connection that goes on keeps its session, or has closed it. -/
theorem case_keeps {client : Client} {payload : Object} {d : Draws ω} {t : Turn ω} {sid : PyStr}
    (h : t.Case s (g.core s) client g.sessionServer payload d) (hsound : client.Sound)
    (hsid : client.secureCore.coreSessionId = some sid) (hanswer : t.answer.isSome = true) :
    t.secureCore.coreSessionId = some sid ∨ t.asked = [.close sid d.clock] := by
  have hauth : client.secureCore.authenticated = true := by
    rw [← hsound.whole, hsid]
    rfl
  cases h with
  | stopped _ hnone _ =>
    rw [hnone] at hanswer
    cases hanswer
  | refused _ hbefore _ _ _ _ =>
    rw [hauth] at hbefore
    cases hbefore
  | opened _ _ _ _ hbefore _ _ _ _ =>
    rw [hauth] at hbefore
    cases hbefore
  | unread _ _ _ _ hcore _ => exact .inl (by rw [hcore]; exact hsid)
  | closed sid' hbefore hasked _ _ =>
    obtain rfl : sid' = sid := Option.some.inj (hbefore.symm.trans hsid)
    exact .inr hasked
  | handled _ _ _ _ _ _ _ _ hcore _ => exact .inl (by rw [hcore]; exact hsid)

/-- The session that a turn draws an id for is the connection's from then on, or was not created. -/
theorem case_draws {client : Client} {payload : Object} {d : Draws ω} {t : Turn ω} {op : Core.Op ω} {sid : PyStr}
    (h : t.Case s (g.core s) client g.sessionServer payload d) (hop : op ∈ t.asked)
    (htoken : op.sessionToken = some sid) :
    t.asked = [op] ∧ ((t.secureCore.coreSessionId = some sid ∧ t.answer.isSome = true) ∨
      (closing t.secureCore d.clock = ([] : List (Core.Op ω)) ∧ t.answer = none ∧
        ∀ session, (op.apply s.core (g.core s)).state.sessions.get? sid = some session →
          (g.core s).sessions.get? sid = some session)) := by
  cases h with
  | stopped hasked _ _ =>
    rw [hasked] at hop
    cases hop
  | refused _ _ hasked hfailed hnone hsession =>
    rw [hasked] at hop
    obtain rfl := List.mem_singleton.mp hop
    refine ⟨hasked, .inr ⟨?_, hnone, fun session h => failed_create hfailed h⟩⟩
    rw [closing, hsession]
  | opened _ _ _ _ _ hasked hcore _ hanswer =>
    rw [hasked] at hop
    obtain rfl := List.mem_singleton.mp hop
    obtain rfl : d.sessionId = sid := Option.some.inj htoken
    exact ⟨hasked, .inl ⟨by rw [hcore], hanswer⟩⟩
  | unread _ _ _ hasked _ _ =>
    rw [hasked] at hop
    cases hop
  | closed _ _ hasked _ _ =>
    rw [hasked] at hop
    obtain rfl := List.mem_singleton.mp hop
    cases htoken
  | handled _ _ _ _ _ _ _ hasked _ _ =>
    rw [hasked] at hop
    obtain rfl := List.mem_singleton.mp hop
    cases htoken

/-- A session that was opened for a connection is registered only as long as it is that connection's. -/
def Owned (s : Settings ω) (g : SecureTcpGateway ω) : Prop :=
  ∀ writer op sid session, (some writer, op) ∈ g.asked → op.sessionToken = some sid →
    (g.core s).sessions.get? sid = some session →
    ∃ client, g.clients.get? writer = some client ∧ client.secureCore.coreSessionId = some sid

theorem new_token {asked later : List (Option Nat × Core.Op ω)}
    (hfresh : FreshSessions ((asked ++ later).map Prod.snd)) {a : Option Nat × Core.Op ω} (ha : a ∈ asked)
    {sid : PyStr} (htoken : a.2.sessionToken = some sid) : sid ∉ sessionTokens (later.map Prod.snd) := by
  have hnodup := hfresh.nodup
  rw [List.map_append, sessionTokens, List.filterMap_append] at hnodup
  intro hagain
  refine List.disjoint_of_nodup_append hnodup ?_ hagain
  exact List.mem_filterMap.mpr ⟨a.2, List.mem_map_of_mem ha, htoken⟩

/-- Through an event a connection keeps its session, or the last thing that is asked of the Core closes it. -/
theorem client_keeps (hkept : Kept s g) {writer : Nat} {client : Client} {sid : PyStr} (e : Event ω)
    (hclient : g.clients.get? writer = some client) (hsid : client.secureCore.coreSessionId = some sid) :
    (∃ later, (g.step s e).1.clients.get? writer = some later ∧ later.secureCore.coreSessionId = some sid) ∨
    ∃ front clock, (g.step s e).2.asked.map Prod.snd = front ++ [.close sid clock] := by
  have hsound := hkept.sound writer client hclient
  generalize hstep : g.step s e = r
  have hmove := g.step_move (s := s) e
  rw [hstep] at hmove
  cases hmove with
  | stay _ g' asked hclients _ _ _ _ =>
    have hrel := hclients writer
    rw [hclient] at hrel
    cases hlater : g'.clients.get? writer with
    | none =>
      rw [hlater] at hrel
      cases hrel
    | some later =>
      rw [hlater] at hrel
      cases hrel with
      | some hstays => exact .inl ⟨later, rfl, hstays.1 ▸ hsid⟩
  | join _ =>
    have hne : writer ≠ g.accepted := Nat.ne_of_lt (hkept.below writer client hclient)
    exact .inl ⟨client, Dict.get?_set_some.mpr (.inr ⟨hne, hclient⟩), hsid⟩
  | leave w clock client₀ hpresent =>
    by_cases hw : writer = w
    · subst hw
      obtain rfl := Option.some.inj (hclient.symm.trans hpresent)
      refine .inr ⟨[], clock, ?_⟩
      simp [finish, closing, hsid]
    · exact .inl ⟨client, Dict.get?_erase_some.mpr ⟨hw, hclient⟩, hsid⟩
  | stop w payload current d client₀ hpresent t hturn hanswer =>
    by_cases hw : writer = w
    · subst hw
      obtain rfl := Option.some.inj (hclient.symm.trans hpresent)
      obtain ⟨front, hfront⟩ := case_leaves (hturn ▸ respond_case hsound) hsound hsid
      refine .inr ⟨front, d.clock, ?_⟩
      simp only [finish, List.map_map, Function.comp_def, List.map_id', hfront]
    · exact .inl ⟨client, Dict.get?_erase_some.mpr ⟨hw, hclient⟩, hsid⟩
  | serve w payload current d client₀ hpresent t hturn frames hanswer =>
    by_cases hw : writer = w
    · subst hw
      obtain rfl := Option.some.inj (hclient.symm.trans hpresent)
      have hcase : t.Case s (g.core s) client g.sessionServer payload d := hturn ▸ respond_case hsound
      obtain hsame | hclosed := case_keeps hcase hsound hsid (Option.isSome_of_eq_some hanswer)
      · exact .inl ⟨_, Dict.get?_set_some.mpr (.inl ⟨rfl, rfl⟩), hsame⟩
      · refine .inr ⟨[], d.clock, ?_⟩
        simp only [List.map_map, Function.comp_def, List.map_id', hclosed, List.nil_append]
    · exact .inl ⟨client, Dict.get?_set_some.mpr (.inr ⟨hw, hclient⟩), hsid⟩

/-- A session id that an event draws for a connection is the connection's from then on, or the Core refused it. -/
theorem draws_owned (hkept : Kept s g) {e : Event ω} {writer : Nat} {op : Core.Op ω} {sid : PyStr}
    (hop : (some writer, op) ∈ (g.step s e).2.asked) (htoken : op.sessionToken = some sid) :
    (∃ client, (g.step s e).1.clients.get? writer = some client ∧ client.secureCore.coreSessionId = some sid) ∨
    ∀ session, ((g.step s e).1.core s).sessions.get? sid = some session →
      (g.core s).sessions.get? sid = some session := by
  have noToken {c : SecureCoreConnection} {clock : Core.Clock} (hclosing : op ∈ closing c clock) : False := by
    obtain ⟨sid', rfl, -⟩ := not_closing hclosing
    cases htoken
  rw [core_step]
  generalize hstep : g.step s e = r at hop
  have hmove := g.step_move (s := s) e
  rw [hstep] at hmove
  cases hmove with
  | stay _ g' asked _ _ _ _ hothers =>
    obtain ⟨other, -, heq⟩ := hothers _ hop
    cases heq
  | join _ => cases hop
  | leave w clock client hpresent =>
    obtain ⟨-, hclosing⟩ := mem_tagged.mp hop
    exact (noToken hclosing).elim
  | stop w payload current d client hpresent t hturn hanswer =>
    have hcase : t.Case s (g.core s) client g.sessionServer payload d :=
      hturn ▸ respond_case (hkept.sound w client hpresent)
    obtain ⟨-, hasked⟩ := mem_tagged.mp hop
    obtain hasked | hclosing := List.mem_append.mp hasked
    · obtain ⟨hone, ⟨-, hsome⟩ | ⟨hnone, -, hfailed⟩⟩ := case_draws hcase hasked htoken
      · rw [hanswer] at hsome
        cases hsome
      · refine .inr fun session hregistered => hfailed session ?_
        simp only [finish, List.map_map, Function.comp_def, List.map_id', hone, hnone, List.append_nil,
          Machine.run_concat] at hregistered
        exact hregistered
    · exact (noToken hclosing).elim
  | serve w payload current d client hpresent t hturn frames hanswer =>
    have hcase : t.Case s (g.core s) client g.sessionServer payload d :=
      hturn ▸ respond_case (hkept.sound w client hpresent)
    obtain ⟨rfl, hasked⟩ := mem_tagged.mp hop
    obtain ⟨-, ⟨hsid, -⟩ | ⟨-, hnone, -⟩⟩ := case_draws hcase hasked htoken
    · exact .inl ⟨_, Dict.get?_set_some.mpr (.inl ⟨rfl, rfl⟩), hsid⟩
    · rw [hanswer] at hnone
      cases hnone

theorem Owned.step (hkept : Kept s g) (h : Owned s g) {e : Event ω}
    (hfresh : FreshSessions ((g.step s e).1.asked.map Prod.snd)) : Owned s (g.step s e).1 := by
  intro writer op sid session hop htoken hregistered
  have hasked := step_asked (s := s) (g := g) e
  rw [hasked] at hop hfresh
  obtain hop | hop := List.mem_append.mp hop
  · -- a session of before
    rw [core_step] at hregistered
    obtain ⟨earlier, hearlier⟩ := registered_before_run (new_token hfresh hop htoken) hregistered
    obtain ⟨client, hclient, hsid⟩ := h writer op sid earlier hop htoken hearlier
    obtain hkeeps | ⟨front, clock, hlast⟩ := client_keeps hkept e hclient hsid
    · exact hkeeps
    · rw [hlast, ← List.append_assoc, closed_gone] at hregistered
      cases hregistered
  · -- a session of now
    obtain howned | hfailed := draws_owned hkept hop htoken
    · exact howned
    · have hbefore : FreshSessions (g.asked.map Prod.snd) := by
        rw [List.map_append] at hfresh
        exact hfresh.of_append
      obtain ⟨hdrawn, -⟩ := (Core.run_coupled s.core hbefore).issued sid session (hfailed session hregistered)
      obtain ⟨op₀, hop₀, htoken₀⟩ := List.mem_filterMap.mp hdrawn
      obtain ⟨a, ha, rfl⟩ := List.mem_map.mp hop₀
      refine absurd (List.mem_filterMap.mpr ⟨op, ?_, htoken⟩) (new_token hfresh ha htoken₀)
      exact List.mem_map_of_mem hop

theorem run_owned (s : Settings ω) (server : SecureSessionServer) {events : List (Event ω)}
    (hfresh : FreshSessions (((machine s server).run events).asked.map Prod.snd)) :
    Owned s ((machine s server).run events) := by
  induction events using List.reverseRecOn with
  | nil =>
    intro writer op sid session hop
    cases hop
  | append_singleton pre e ih =>
    rw [Machine.run_concat] at hfresh ⊢
    refine Owned.step (run_kept s server pre) (ih ?_) hfresh
    have hasked := step_asked (s := s) (g := (machine s server).run pre) e
    change FreshSessions ((SecureTcpGateway.step s ((machine s server).run pre) e).1.asked.map Prod.snd) at hfresh
    rw [hasked, List.map_append] at hfresh
    exact hfresh.of_append

/-- Only one question draws a given id. -/
theorem drawn_once {asked : List (Option Nat × Core.Op ω)} (hfresh : FreshSessions (asked.map Prod.snd))
    {a b : Option Nat × Core.Op ω} (ha : a ∈ asked) (hb : b ∈ asked) {sid : PyStr}
    (hdrawn : a.2.sessionToken = some sid) (hagain : b.2.sessionToken = some sid) : a = b := by
  have token {c : Option Nat × Core.Op ω} {l : List (Option Nat × Core.Op ω)} (hc : c ∈ l)
      (htoken : c.2.sessionToken = some sid) : sid ∈ sessionTokens (l.map Prod.snd) :=
    List.mem_filterMap.mpr ⟨c.2, List.mem_map_of_mem hc, htoken⟩
  obtain ⟨p, q, rfl⟩ := List.append_of_mem ha
  obtain hb | hb := List.mem_append.mp hb
  · exact absurd (token List.mem_cons_self hdrawn) (new_token hfresh hb hagain)
  obtain rfl | hb := List.mem_cons.mp hb
  · rfl
  · rw [← List.singleton_append, ← List.append_assoc] at hfresh
    have hmem : a ∈ p ++ [a] := List.mem_append_right p (List.mem_singleton_self a)
    exact absurd (token hb hagain) (new_token hfresh hmem hdrawn)

/-- In every run in which the Core never draws a session id twice: no two connections have one session; each
session of a connection was opened for it, under the name of its device; and a session that was opened for a
connection is gone from the Core as soon as the connection is gone, or has closed it. -/
theorem sessions_owned (s : Settings ω) (server : SecureSessionServer) (events : List (Event ω))
    (hfresh : FreshSessions (((machine s server).run events).asked.map Prod.snd)) :
    (∀ writer client writer' client' sid,
      ((machine s server).run events).clients.get? writer = some client →
      ((machine s server).run events).clients.get? writer' = some client' →
      client.secureCore.coreSessionId = some sid → client'.secureCore.coreSessionId = some sid →
      writer = writer') ∧
    (∀ writer client sid, ((machine s server).run events).clients.get? writer = some client →
      client.secureCore.coreSessionId = some sid → ∃ device clock, client.secureCore.deviceId = some device ∧
        (some writer, .create device none [] false sid clock) ∈ ((machine s server).run events).asked) ∧
    ∀ writer op sid session, (some writer, op) ∈ ((machine s server).run events).asked →
      op.sessionToken = some sid → (((machine s server).run events).core s).sessions.get? sid = some session →
      ∃ client, ((machine s server).run events).clients.get? writer = some client ∧
        client.secureCore.coreSessionId = some sid := by
  have hopened := (run_kept s server events).opened
  refine ⟨?_, hopened, run_owned s server hfresh⟩
  intro writer client writer' client' sid hclient hclient' hsid hsid'
  obtain ⟨device, clock, -, hop⟩ := hopened writer client sid hclient hsid
  obtain ⟨device', clock', -, hop'⟩ := hopened writer' client' sid hclient' hsid'
  exact Option.some.inj (Prod.mk.inj (drawn_once hfresh hop hop' rfl rfl)).1

/-! ## Confirmations -/

/-- What others do not touch: the sessions that were opened for a connection. -/
def Apart (asked : List (Option Nat × Core.Op ω)) : Prop :=
  ∀ writer op sid, (some writer, op) ∈ asked → op.sessionToken = some sid → ∀ op' input w token,
    (none, op') ∈ asked → op'.input? ≠ some (sid, input, w, token)

/-- After this history of the Core an event of the run asked it this message, read from a frame of this connection;
see `Served`. -/
def ServedAfter (s : Settings ω) (server : SecureSessionServer) (events : List (Event ω))
    (p : List (Option Nat × Core.Op ω)) (writer : Nat) (sid : PyStr) (message : ClientMessage) : Prop :=
  ∃ pre e post, events = pre ++ e :: post ∧ p = ((machine s server).run pre).asked ∧
    Served s ((machine s server).run pre) e writer sid message

/-- A turn asks at most one thing, before the connection closes. -/
theorem case_asks {client : Client} {payload : Object} {d : Draws ω} {t : Turn ω}
    (h : t.Case s (g.core s) client g.sessionServer payload d) : t.asked.length ≤ 1 := by
  cases h with
  | stopped hasked _ _ => simp [hasked]
  | refused _ _ hasked _ _ _ => simp [hasked]
  | opened _ _ _ _ _ hasked _ _ _ => simp [hasked]
  | unread _ _ _ hasked _ _ => simp [hasked]
  | closed _ _ hasked _ _ => simp [hasked]
  | handled _ _ _ _ _ _ _ hasked _ _ => simp [hasked]

theorem first_of_closing {writer : Nat} {asked : List (Core.Op ω)} (hone : asked.length ≤ 1)
    {c : SecureCoreConnection} {clock : Core.Clock} {op : Core.Op ω} (hop : op ∉ closing c clock)
    {before after : List (Option Nat × Core.Op ω)}
    (h : (asked ++ closing c clock).map (fun op => (some writer, op)) = before ++ (some writer, op) :: after) :
    before = [] := by
  have notLast {l m : List (Option Nat × Core.Op ω)}
      (hl : (closing c clock).map (fun op => (some writer, op)) = l ++ (some writer, op) :: m) : False := by
    have hmem : (some writer, op) ∈ (closing c clock).map (fun op => (some writer, op)) := by
      rw [hl]
      exact List.mem_append_right l List.mem_cons_self
    exact hop (mem_tagged.mp hmem).2
  cases before with
  | nil => rfl
  | cons b before =>
    cases asked with
    | nil => exact (notLast h).elim
    | cons a asked =>
      obtain rfl : asked = [] := List.length_eq_zero_iff.mp (by simpa using hone)
      exact (notLast (List.cons.inj h).2).elim

/-- A message is the first thing that its event asks. -/
theorem handle_first (h : Kept s g) {e : Event ω} {writer : Nat} {sid token : PyStr} {message : ClientMessage}
    {world : ω} {clock : Core.Clock} {before after : List (Option Nat × Core.Op ω)}
    (hout : (g.step s e).2.asked = before ++ (some writer, .handle sid message world token clock) :: after) :
    before = [] := by
  have hmem : (some writer, .handle sid message world token clock) ∈ (g.step s e).2.asked := by
    rw [hout]
    exact List.mem_append_right before List.mem_cons_self
  have notClosing {c : SecureCoreConnection} {clock' : Core.Clock} :
      .handle sid message world token clock ∉ (closing c clock' : List (Core.Op ω)) := by
    intro hclosing
    obtain ⟨sid', heq, -⟩ := not_closing hclosing
    cases heq
  generalize hstep : g.step s e = r at hout hmem
  have hmove := g.step_move (s := s) e
  rw [hstep] at hmove
  cases hmove with
  | stay _ g' asked _ _ _ _ hothers =>
    obtain ⟨other, -, heq⟩ := hothers _ hmem
    cases heq
  | join _ => cases hmem
  | leave w clock client hpresent =>
    obtain ⟨rfl, -⟩ := mem_tagged.mp hmem
    have hnone : ([] : List (Core.Op ω)).length ≤ 1 := Nat.zero_le 1
    exact first_of_closing hnone notClosing hout
  | stop w payload current d client hpresent t hturn hanswer =>
    obtain ⟨rfl, -⟩ := mem_tagged.mp hmem
    exact first_of_closing (case_asks (hturn ▸ respond_case (h.sound writer client hpresent))) notClosing hout
  | serve w payload current d client hpresent t hturn frames hanswer =>
    have hone := case_asks (hturn ▸ respond_case (h.sound w client hpresent) :
      t.Case s (g.core s) client g.sessionServer payload d)
    have hlength := congrArg List.length hout
    simp only [List.length_map, List.length_append, List.length_cons] at hlength
    exact List.length_eq_zero_iff.mp (by omega)

/-- What was asked for a connection, and hands something to a session, is a message that was served. -/
theorem asked_served {server : SecureSessionServer} {events : List (Event ω)} {p q : List (Option Nat × Core.Op ω)}
    {writer : Nat} {op : Core.Op ω} (hasked : ((machine s server).run events).asked = p ++ (some writer, op) :: q)
    {sid token : PyStr} {input : Core.Input} {world : ω} (hinput : op.input? = some (sid, input, world, token)) :
    ∃ message, op = .handle sid message world token op.clock ∧
      ServedAfter s server events p writer sid message ∧
      ∃ device clock, (some writer, .create device none [] false sid clock) ∈ p := by
  obtain ⟨pre, e, post, before, after, hevents, hout, hp⟩ := asked_split hasked
  have hkept := run_kept s server pre
  have hmem : (some writer, op) ∈ ((machine s server).out pre e).asked := by
    rw [hout]
    exact List.mem_append_right before List.mem_cons_self
  obtain ⟨message, hop, hserved⟩ := step_served hkept hmem hinput
  rw [hop] at hout
  obtain rfl := handle_first hkept hout
  rw [List.append_nil] at hp
  refine ⟨message, hop, ⟨pre, e, post, hevents, hp, hserved⟩, ?_⟩
  obtain ⟨payload, current, d, client, device, key, -, hclient, hsid, -⟩ := hserved
  obtain ⟨device, clock, -, hcreate⟩ := hkept.opened writer client sid hclient hsid
  exact ⟨device, clock, hp ▸ hcreate⟩

/-- If others leave the sessions of the connections alone, a handler of an unsafe tool runs for a connection only
when this same connection asked for it before and confirms it now, both times with a message from a device whose
key was trusted then; and it runs with what was captured when it was asked for. -/
theorem confirmed_on_one_connection (s : Settings ω) (server : SecureSessionServer) (events : List (Event ω))
    (hfresh : FreshSessions (((machine s server).run events).asked.map Prod.snd))
    (hapart : Apart ((machine s server).run events).asked) (p q : List (Option Nat × Core.Op ω)) (writer : Nat)
    (op : Core.Op ω) (tool : PyStr) (args : Object)
    (hasked : ((machine s server).run events).asked = p ++ (some writer, op) :: q)
    (hcalled : Core.Event.called tool args ∈ ((Core.machine s.core).out (p.map Prod.snd) op).events)
    (hkind : Core.UnsafeTool s.core tool) :
    ∃ sid cid message record p₁ op₁ mid, ServedAfter s server events p writer sid (.confirm cid true) ∧
      p = p₁ ++ (some writer, op₁) :: mid ∧ ServedAfter s server events p₁ writer sid message ∧
      ((Core.machine s.core).out (p₁.map Prod.snd) op₁).events = [.created record] ∧
      record.confirmationId = cid ∧ record.toolName = tool ∧ record.captured = args := by
  have hbefore : FreshSessions (p.map Prod.snd) := by
    rw [hasked, List.map_append] at hfresh
    exact hfresh.of_append
  obtain ⟨cid, sid, world, token, clock, record, rfl, rfl, rfl, -, hprovenance, -⟩ :=
    Core.guarded_of_called s.core hbefore hcalled hkind
  obtain ⟨message, hop, hserved, device, t, hcreate⟩ := asked_served hasked rfl
  cases hop
  obtain ⟨ops₁, op₁, ops, input, world₁, session, hsplit, hinput, -, hrequest, hcreated, -⟩ := hprovenance
  obtain ⟨p₁, rest, rfl, rfl, hrest⟩ := List.map_eq_append_iff.mp hsplit
  obtain ⟨⟨asker, op₁⟩, mid, rfl, rfl, rfl⟩ := List.map_eq_cons_iff.mp hrest
  have hasked₁ : ((machine s server).run events).asked =
      p₁ ++ (asker, op₁) :: (mid ++ (some writer, .handle sid (.confirm cid true) world token clock) :: q) := by
    rw [hasked, List.append_assoc, List.cons_append]
  have hdrawn : (some writer, .create device none [] false sid t) ∈ ((machine s server).run events).asked := by
    rw [hasked]
    exact List.mem_append_left _ hcreate
  cases asker with
  | none =>
    -- nobody else uses this session
    refine absurd hinput (hapart writer _ sid hdrawn rfl op₁ input world₁ cid ?_)
    rw [hasked₁]
    exact List.mem_append_right p₁ List.mem_cons_self
  | some asker =>
    obtain ⟨message, -, hserved₁, device₁, t₁, hcreate₁⟩ := asked_served hasked₁ hinput
    have hdrawn₁ : (some asker, .create device₁ none [] false sid t₁) ∈ ((machine s server).run events).asked := by
      rw [hasked₁]
      exact List.mem_append_left _ hcreate₁
    -- its id was drawn once
    obtain ⟨hsame, -⟩ := Prod.mk.inj (drawn_once hfresh hdrawn hdrawn₁ rfl rfl)
    obtain rfl := Option.some.inj hsame
    exact ⟨sid, cid, message, record, p₁, op₁, mid, hserved, rfl, hserved₁, hcreated, hrequest.id, rfl, rfl⟩

/-! ## A lock from a phone -/

def message (type : String) (fields : Object) : Object :=
  (PyStr.ofString "protocol_version", .int 1) :: (PyStr.ofString "type", .str (PyStr.ofString type)) :: fields

/-- The device says hello to the Core, asks for the lock and accepts it. -/
def lockMessages : List Object :=
  [message "device_hello"
     [(PyStr.ofString "capabilities", .list [.str (PyStr.ofString "display"), .str (PyStr.ofString "touch")])],
   message "text_input"
     [(PyStr.ofString "text", .str (PyStr.ofString "bloquea el ordenador")),
      (PyStr.ofString "source", .str (PyStr.ofString "touch"))],
   message "confirm"
     [(PyStr.ofString "confirmation_id", .str (PyStr.ofString "c")), (PyStr.ofString "accepted", .bool true)]]

/-- A parser that knows these messages. -/
def lockLoads (bytes : Bytes) : Except ChannelError Object :=
  match lockMessages.find? (fun o => canonical o == some bytes) with
  | none => .error .invalidJson
  | some o => .ok o

def lockSettings : Settings Unit := { pipaSettings with loads := lockLoads }

/-- The frames that the device seals. -/
def lockFrames : List Object :=
  ((SecureJsonChannel.sealMessages .checksum pipaSession lockMessages).2.toOption.getD []).filterMap fun v =>
    match v with
    | .dict fields => some fields
    | _ => none

def lockEvents : List (Event Unit) :=
  pipaEvents ++ lockFrames.map (fun fields => .frame 0 fields none pipaDraws)

def lockGateway : SecureTcpGateway Unit := (machine lockSettings SecureSessionServer.pcServer).run lockEvents

/-- The call of `system_lock` by the last thing that was asked. -/
def locks (asked : List (Option Nat × Core.Op Unit)) : Bool :=
  match asked.drop 3 with
  | (some 0, op) :: _ =>
    ((Core.machine Core.lockCore).out ((asked.take 3).map Prod.snd) op).events.any fun e =>
      match e with
      | .called tool args => tool == PyStr.ofString "system_lock" && args.isEmpty
      | _ => false
  | _ => false

/-- What the run comes to. -/
def lockOutcome (g : SecureTcpGateway Unit) : Bool :=
  let tokens := sessionTokens (g.asked.map Prod.snd)
  tokens == [PyStr.ofString "core-1"] && locks g.asked && g.asked.all (fun a => a.1.isSome) &&
    g.asked.any fun a => a.1 == some 0 && a.2.sessionToken == some (PyStr.ofString "core-1") &&
      (((g.core lockSettings).sessions.get? (PyStr.ofString "core-1")).isSome)

theorem lockOutcome_holds : lockOutcome lockGateway = true := by decide +kernel

theorem lock_fresh : FreshSessions (lockGateway.asked.map Prod.snd) := by
  have houtcome := lockOutcome_holds
  simp only [lockOutcome, Bool.and_eq_true, beq_iff_eq] at houtcome
  have htokens := houtcome.1.1.1
  exact ⟨by rw [htokens]; exact List.nodup_singleton _, by rw [htokens]; decide⟩

theorem sessions_owned_lock : (lockGateway.clients.get? 0).isSome = true := by
  have houtcome := lockOutcome_holds
  simp only [lockOutcome, Bool.and_eq_true] at houtcome
  obtain ⟨⟨asker, op⟩, hop, hfound⟩ := List.any_eq_true.mp houtcome.2
  simp only [Bool.and_eq_true, beq_iff_eq] at hfound
  obtain ⟨⟨rfl, htoken⟩, hsession⟩ := hfound
  obtain ⟨session, hsession⟩ := Option.isSome_iff_exists.mp hsession
  obtain ⟨client, hclient, -⟩ := (sessions_owned lockSettings SecureSessionServer.pcServer lockEvents
    lock_fresh).2.2 0 op _ session hop htoken hsession
  exact Option.isSome_of_eq_some hclient

theorem locks_called {asked : List (Option Nat × Core.Op Unit)} (h : locks asked = true) :
    ∃ op q, asked = asked.take 3 ++ (some 0, op) :: q ∧ Core.Event.called (PyStr.ofString "system_lock") [] ∈
      ((Core.machine Core.lockCore).out ((asked.take 3).map Prod.snd) op).events := by
  unfold locks at h
  split at h
  · rename_i op q hdrop
    obtain ⟨e, he, hcalled⟩ := List.any_eq_true.mp h
    refine ⟨op, q, by rw [← hdrop, List.take_append_drop], ?_⟩
    split at hcalled
    · rename_i tool args
      rw [Bool.and_eq_true, beq_iff_eq, List.isEmpty_iff] at hcalled
      obtain ⟨rfl, rfl⟩ := hcalled
      exact he
    · cases hcalled
  · cases h

theorem confirmed_on_one_connection_lock :
    ∃ sid cid message p₁, ServedAfter lockSettings SecureSessionServer.pcServer lockEvents
        (lockGateway.asked.take 3) 0 sid (.confirm cid true) ∧
      ServedAfter lockSettings SecureSessionServer.pcServer lockEvents p₁ 0 sid message := by
  have houtcome := lockOutcome_holds
  simp only [lockOutcome, Bool.and_eq_true] at houtcome
  obtain ⟨⟨⟨-, hlocks⟩, hown⟩, -⟩ := houtcome
  have hapart : Apart lockGateway.asked := by
    intro writer op sid _ _ op' input w token hother
    cases List.all_eq_true.mp hown _ hother
  obtain ⟨op, q, hasked, hcalled⟩ := locks_called hlocks
  obtain ⟨sid, cid, message, record, p₁, op₁, mid, hserved, -, hserved₁, -⟩ :=
    confirmed_on_one_connection lockSettings SecureSessionServer.pcServer lockEvents lock_fresh hapart
      (lockGateway.asked.take 3) q 0 op _ [] hasked hcalled ⟨Core.lockTool, rfl, rfl⟩
  exact ⟨sid, cid, message, p₁, hserved, hserved₁⟩

end Pipa.Link.Tcp.SecureTcpGateway
