import Pipa.Core.Coupling

/- Guarded execution: the handler of an unsafe tool runs only to answer the
   `confirm` of the session that asked for it.

   `Provenance` is the history of a pending record whose owner is registered: the
   operation that created it, and that it was there, with its owner, ever since.
   Every operation keeps it (`Provenance.step`), so it can be read off at the
   moment the record is consumed. No reading of the clock is compared with
   another one here: an expired record is refused by `consume` itself. -/
namespace Pipa.Core
open Pipa.Lib

variable {ω : Type}

def UnsafeTool (core : PipaCore ω) (tool : PyStr) : Prop :=
  ∃ d, core.catalog.get? tool = some d ∧ d.safety = .unsafeTool

/-- The operation is an abort, a confirm or a close of session `sid`. -/
def Op.Settles (sid : PyStr) : Op ω → Prop
  | .handle i m _ _ _ => i = sid ∧ (m = .abort ∨ ∃ cid accepted, m = .confirm cid accepted)
  | .close i _ => i = sid
  | _ => False

/-- The record is in the store and its owner in the registry. -/
def Alive (st : State) (k : PyStr) (r : PendingConfirmation) (sid : PyStr) : Prop :=
  st.pending.get? k = some r ∧
  ∃ s, st.sessions.get? sid = some s ∧ s.capabilitiesInitialized = true

/-- In the run `pre` the session `sid` asked for the confirmation `r` under the id `k`, and
nothing cancelled it since. -/
def Provenance (core : PipaCore ω) (pre : List (Op ω)) (k : PyStr) (r : PendingConfirmation)
    (sid : PyStr) : Prop :=
  ∃ pre₁ op₁ mid input w s,
    pre = pre₁ ++ op₁ :: mid ∧ op₁.input? = some (sid, input, w, k) ∧
    ((machine core).run pre₁).sessions.get? sid = some s ∧
    Requested core w op₁.clock.act k (s.touch op₁.clock.touch) input r ∧
    ((machine core).out pre₁ op₁).events = [.created r] ∧
    (∀ done rest, mid = done ++ rest → Alive ((machine core).run (pre₁ ++ op₁ :: done)) k r sid) ∧
    ∀ op ∈ mid, ¬ op.Settles sid

section
variable {core : PipaCore ω} {pre : List (Op ω)} {op : Op ω} {k sid : PyStr} {r : PendingConfirmation}

theorem Provenance.alive (h : Provenance core pre k r sid) : Alive ((machine core).run pre) k r sid := by
  obtain ⟨pre₁, op₁, mid, input, w, s, rfl, -, -, -, -, halive, -⟩ := h
  exact halive mid [] (by simp)

/-- One more operation that leaves the record alive. -/
theorem Provenance.extend (h : Provenance core pre k r sid)
    (halive : Alive ((machine core).run (pre ++ [op])) k r sid) (hop : ¬ op.Settles sid) :
    Provenance core (pre ++ [op]) k r sid := by
  obtain ⟨pre₁, op₁, mid, input, w, s, rfl, hin, hs, hreq, hev, hmid, hops⟩ := h
  refine ⟨pre₁, op₁, mid ++ [op], input, w, s, by simp, hin, hs, hreq, hev, ?_, ?_⟩
  · intro done rest hsplit
    rcases List.eq_nil_or_concat rest with rfl | ⟨rest', last, rfl⟩
    · rw [List.append_nil] at hsplit
      subst hsplit
      simpa using halive
    · rw [List.concat_eq_append, ← List.append_assoc] at hsplit
      exact hmid done rest' (List.append_inj_left' hsplit rfl)
  · intro a ha
    rcases List.mem_append.mp ha with ha | ha
    · exact hops a ha
    · rw [List.mem_singleton.mp ha]; exact hop

end

/-! ## What settles a session -/

section
variable (core : PipaCore ω) (st : State) (w : ω) (now : Int) (token sid : PyStr) {s : DeviceSession}

theorem handleSession_abort (s : DeviceSession) :
    ∃ s', ((core.handleSession st w now token sid s .abort).state.sessions.get? sid) = some s' ∧
      s'.state = .idle := by
  have hgate : core.handleSession st w now token sid s .abort =
      PipaCore.finish (st.cancelPending s.sessionId) sid s .idle none [.ttsAborted] [] := by
    simp [PipaCore.handleSession, PipaCore.handleGated, PipaCore.isPreHello, PipaCore.passesConfirmGate,
      PipaCore.handleReady]
  rw [hgate]
  exact ⟨s.setState .idle none, by simp, rfl⟩

theorem handleSession_confirm (ready : s.capabilitiesInitialized = true) (cid : PyStr) (accepted : Bool) :
    ∃ s', ((core.handleSession st w now token sid s (.confirm cid accepted)).state.sessions.get? sid)
        = some s' ∧ s'.state = .idle := by
  have hgate : core.handleSession st w now token sid s (.confirm cid accepted) =
      core.handleConfirm (st.save sid s) w now sid s cid accepted := by
    simp [PipaCore.handleSession, PipaCore.handleGated, ready, PipaCore.passesConfirmGate,
      PipaCore.handleReady]
  obtain ⟨p, caption, ms, heq, -, -⟩ := PipaCore.handleConfirm_shape core (st.save sid s) w now sid s
    cid accepted rfl
  rw [hgate, heq]
  exact ⟨s.setState .idle caption, by simp, rfl⟩

end

/-- After an abort, a confirm or a close of an initialised session it has no record left. -/
theorem Op.Settles.not_alive {core : PipaCore ω} {st : State} {op : Op ω} {sid k : PyStr}
    {r : PendingConfirmation} {s : DeviceSession} {drawn : List PyStr} (h : op.Settles sid)
    (hs : st.sessions.get? sid = some s) (ready : s.capabilitiesInitialized = true)
    (hc : Coupled drawn (op.apply core st).state) (howner : r.ownerId = some sid) :
    ¬ Alive (op.apply core st).state k r sid := by
  rintro ⟨hr, s', hs', -⟩
  cases op with
  | handle i m w token c =>
    obtain ⟨rfl, hm⟩ := h
    simp only [Op.apply, PipaCore.handle] at hr hs' hc
    cases hbase : (PipaCore.pruneStaleSessions st c.prune).sessions.get? i with
    | none =>
      simp only [hbase, reply] at hs'
      cases hs'
    | some s₁ =>
      simp only [hbase] at hr hs' hc
      obtain rfl := Option.some.inj (hs.symm.trans (pruneStale_sessions.mp hbase).1)
      have hidle : s'.state = .idle := by
        rcases hm with rfl | ⟨cid, accepted, rfl⟩
        · obtain ⟨s₂, hs₂, hidle⟩ := handleSession_abort core (PipaCore.pruneStaleSessions st c.prune) w
            c.act token i (s.touch c.touch)
          rw [hs'] at hs₂
          exact Option.some.inj hs₂ ▸ hidle
        · obtain ⟨s₂, hs₂, hidle⟩ := handleSession_confirm core (PipaCore.pruneStaleSessions st c.prune)
            w c.act token i (show (s.touch c.touch).capabilitiesInitialized = true from ready) cid accepted
          rw [hs'] at hs₂
          exact Option.some.inj hs₂ ▸ hidle
      exact hc.no_record hs' (by rw [hidle]; decide) hr howner
  | close i c =>
    obtain rfl : i = sid := h
    simp only [Op.apply, PipaCore.close, reply] at hs'
    exact (Dict.get?_erase_some.mp hs').1 rfl
  | authenticate _ _ _ _ _ => exact h
  | create _ _ _ _ _ _ => exact h
  | handleTranscript _ _ _ _ _ => exact h

/-! ## Histories -/

/-- The session was registered before, unless the operation opened it. -/
theorem Turn.registered_before {core : PipaCore ω} {st : State} {op : Op ω} {o : Outcome}
    (turn : Turn core st op o) {sid : PyStr} {s' : DeviceSession} (hnew : op.sessionToken ≠ some sid)
    (hs' : o.state.sessions.get? sid = some s') :
    ∃ s, st.sessions.get? sid = some s ∧
      (s.capabilitiesInitialized = true → s'.capabilitiesInitialized = true) := by
  cases turn with
  | kept base pruned state events => exact ⟨s', of_pruned_sessions pruned (state ▸ hs'), fun h => h⟩
  | opened base pruned token dev fw caps init hdrawn sessions pending events =>
    have hne : sid ≠ token := fun he => hnew (he ▸ hdrawn)
    rcases create_sessions (base.sessions.create token dev fw caps init op.clock.act).eta.symm with
      hr | ⟨s₁, hr, -, -, -⟩
    · rw [sessions, hr] at hs'
      exact ⟨s', of_pruned_sessions pruned (get?_prune_sessions.mp hs').1, fun h => h⟩
    · rw [sessions, hr] at hs'
      rcases Dict.get?_set_some.mp hs' with ⟨he, _⟩ | ⟨_, hs'⟩
      · exact absurd he hne
      · exact ⟨s', of_pruned_sessions pruned (get?_prune_sessions.mp hs').1, fun h => h⟩
  | input base pruned i input w token given s registered effect =>
    obtain ⟨s₁, frame, sessions⟩ := effect.session
    rw [sessions] at hs'
    rcases Dict.get?_set_some.mp hs' with ⟨rfl, rfl⟩ | ⟨_, hs'⟩
    · exact ⟨s, of_pruned_sessions pruned registered, frame.initialized⟩
    · exact ⟨s', of_pruned_sessions pruned hs', fun h => h⟩
  | closed i c given sessions pending events =>
    rw [sessions] at hs'
    exact ⟨s', (Dict.get?_erase_some.mp hs').2, fun h => h⟩

/-- A record was there before, unless the operation is the input that asked for it. -/
theorem Turn.pending_before {core : PipaCore ω} {st : State} {op : Op ω} {o : Outcome}
    {drawn : List PyStr} (hc : Coupled drawn st) (turn : Turn core st op o) {k : PyStr}
    {r : PendingConfirmation} (hr : o.state.pending.get? k = some r) :
    st.pending.get? k = some r ∨
    ∃ sid input w s, op.input? = some (sid, input, w, k) ∧ st.sessions.get? sid = some s ∧
      s.sessionId = sid ∧ (∃ s', o.state.sessions.get? sid = some s' ∧ s'.capabilitiesInitialized = true) ∧
      Requested core w op.clock.act k (s.touch op.clock.touch) input r ∧ o.events = [.created r] := by
  cases turn with
  | kept base pruned state events => exact Or.inl (hc.of_pruned_pending pruned (state ▸ hr))
  | opened base pruned token dev fw caps init hdrawn sessions pending events =>
    exact Or.inl (hc.of_pruned_pending pruned (pending ▸ hr))
  | input base pruned sid input w token given s registered effect =>
    rcases effect.pending_cases hr with hr | ⟨rfl, ready, request, hev⟩
    · exact Or.inl (hc.of_pruned_pending pruned hr)
    · obtain ⟨s', frame, sessions⟩ := effect.session
      have hs := of_pruned_sessions pruned registered
      refine Or.inr ⟨sid, input, w, s, given, hs, hc.key sid s hs, ⟨s', ?_, frame.initialized ready⟩,
        request, hev⟩
      rw [sessions, Dict.get?_set, if_pos rfl]
  | closed sid c given sessions pending events => exact Or.inl (Pending.cancelForOwner_le (pending ▸ hr))

/-- Every operation keeps the histories of the records whose owner is registered. -/
theorem Provenance.step {core : PipaCore ω} {pre : List (Op ω)} {op : Op ω}
    (hfresh : FreshSessions (pre ++ [op]))
    (ih : ∀ k r sid s, ((machine core).run pre).pending.get? k = some r → r.ownerId = some sid →
      ((machine core).run pre).sessions.get? sid = some s → Provenance core pre k r sid)
    {k sid : PyStr} {r : PendingConfirmation} {s' : DeviceSession}
    (hr : ((machine core).run (pre ++ [op])).pending.get? k = some r) (howner : r.ownerId = some sid)
    (hs' : ((machine core).run (pre ++ [op])).sessions.get? sid = some s') :
    Provenance core (pre ++ [op]) k r sid := by
  have hc := run_coupled core hfresh.of_append
  have hc' := run_coupled core hfresh
  rw [Machine.run_concat] at hr hs' hc'
  have turn := op.apply_turn core ((machine core).run pre)
  rcases turn.pending_before hc hr with hold | ⟨i, input, w, s, given, hs, hkey, ⟨s₁, hs₁, hinit⟩, request, hev⟩
  · -- an old record: its owner was registered too, since a new session owns nothing
    have hnew : op.sessionToken ≠ some sid := by
      intro htok
      obtain ⟨i, hi, ho⟩ := hc.owner k r hold
      rw [Option.some.inj (ho.symm.trans howner)] at hi
      exact (hfresh.of_concat.2 sid htok).1 hi
    obtain ⟨s, hs, hkeep⟩ := turn.registered_before hnew hs'
    have hprov := ih k r sid s hold howner hs
    obtain ⟨-, s₀, hs₀, hready⟩ := hprov.alive
    obtain rfl := Option.some.inj (hs.symm.trans hs₀)
    have halive : Alive (op.apply core ((machine core).run pre)).state k r sid :=
      ⟨hr, s', hs', hkeep hready⟩
    refine hprov.extend ?_ (fun hset => hset.not_alive hs hready hc' howner halive)
    rw [Machine.run_concat]
    exact halive
  · -- the record this operation asks for
    have hsid : i = sid := by
      have ho := request.owner
      rw [howner] at ho
      exact hkey.symm.trans (Option.some.inj ho).symm
    subst hsid
    refine ⟨pre, op, [], input, w, s, rfl, given, hs, request, hev, ?_, by simp⟩
    intro done rest hnil
    obtain ⟨rfl, rfl⟩ := List.append_eq_nil_iff.mp hnil.symm
    rw [Machine.run_concat]
    exact ⟨hr, s₁, hs₁, hinit⟩

theorem run_provenance (core : PipaCore ω) {ops : List (Op ω)} (hfresh : FreshSessions ops) :
    ∀ k r sid s, ((machine core).run ops).pending.get? k = some r → r.ownerId = some sid →
      ((machine core).run ops).sessions.get? sid = some s → Provenance core ops k r sid := by
  induction ops using List.reverseRecOn with
  | nil => intro k r sid s hr; simp [machine, State.initial] at hr
  | append_singleton pre op ih =>
    exact fun k r sid s hr ho hs => Provenance.step hfresh (ih hfresh.of_append) hr ho hs

/-! ## Execution -/

/-- The call of `tool` with `args` by `op` after `pre` answers, in time and with what was
captured, a confirmation of the session that asked for it, and uses it up. -/
def Guarded (core : PipaCore ω) (pre : List (Op ω)) (op : Op ω) (tool : PyStr) (args : Object)
    (cid : PyStr) : Prop :=
  ∃ sid w token clock r, op = .handle sid (.confirm cid true) w token clock ∧
    tool = r.toolName ∧ args = r.captured ∧ clock.act < r.expiresAt ∧ Provenance core pre cid r sid ∧
    ((machine core).out pre op).events = [.called tool args] ∧
    ((machine core).run (pre ++ [op])).pending.get? cid = none

theorem guarded_of_called (core : PipaCore ω) {pre : List (Op ω)} {op : Op ω} (hfresh : FreshSessions pre)
    {tool : PyStr} {args : Object} (hcall : Event.called tool args ∈ ((machine core).out pre op).events)
    (htool : UnsafeTool core tool) : ∃ cid, Guarded core pre op tool args cid := by
  have hc := run_coupled core hfresh
  obtain ⟨d, hd, hsafety⟩ := htool
  have none_of {es : List Event} (he : es = []) (hcall : Event.called tool args ∈ es) : False := by
    rw [he] at hcall; cases hcall
  change Event.called tool args ∈ (op.apply core ((machine core).run pre)).events at hcall
  cases op.apply_turn core ((machine core).run pre) with
  | kept base pruned state events => exact (none_of events hcall).elim
  | opened base pruned token dev fw caps init hdrawn sessions pending events =>
    exact (none_of events hcall).elim
  | closed sid c given sessions pending events => exact (none_of events hcall).elim
  | input base pruned sid input w token given s registered effect =>
    cases effect with
    | quiet s' frame same sessions pending events => exact (none_of events hcall).elim
    | aborted s' frame after sent sessions pending events => exact (none_of events hcall).elim
    | unmatched s' cid accepted frame after sent sessions pending events =>
      exact (none_of events hcall).elim
    | requested s' record frame before ready after request sessions pending events =>
      rw [events, List.mem_singleton] at hcall
      cases hcall
    | worked s' frame before after sessions pending events =>
      -- only safe handlers are called without a confirmation
      rcases events _ hcall with ⟨tool', args', d', he, hd', hsafe⟩ | ⟨e, he, _⟩
      · obtain ⟨rfl, -⟩ := Event.called.inj he
        obtain rfl := Option.some.inj (hd.symm.trans hd')
        rw [hsafety] at hsafe; cases hsafe
      · cases he
    | resolved s' cid accepted record frame after sent found live owner sessions pending events =>
      rcases events with he | ⟨rfl, he⟩
      · exact (none_of he hcall).elim
      rw [he, List.mem_singleton] at hcall
      obtain ⟨rfl, rfl⟩ := Event.called.inj hcall
      have hs := of_pruned_sessions pruned registered
      have hr := hc.of_pruned_pending pruned found
      have howner : record.ownerId = some sid := by
        rcases owner with hnone | howner
        · obtain ⟨i, _, hi⟩ := hc.owner cid record hr
          rw [hnone] at hi; cases hi
        · exact howner.trans (congrArg some (hc.key sid s hs))
      obtain ⟨t, c, rfl⟩ : ∃ t c, op = .handle sid (.confirm cid true) w t c := by
        subst sent
        cases op with
        | handle i m w' t c =>
          simp only [Op.input?, Option.some.injEq, Prod.mk.injEq, Input.message.injEq] at given
          obtain ⟨rfl, rfl, rfl, rfl⟩ := given
          exact ⟨_, c, rfl⟩
        | handleTranscript i text w' t c => simp [Op.input?] at given
        | authenticate _ _ _ _ _ => cases given
        | create _ _ _ _ _ _ => cases given
        | close _ _ => cases given
      refine ⟨cid, sid, w, t, c, record, rfl, rfl, rfl, live,
        run_provenance core hfresh cid record sid s hr howner hs, he, ?_⟩
      rw [Machine.run_concat]
      exact Pending.get?_none_of_erase pending

theorem Op.confirmationToken_of_input {op : Op ω} {sid k : PyStr} {input : Input} {w : ω}
    (h : op.input? = some (sid, input, w, k)) : op.confirmationToken = some k := by
  cases op <;> simp_all [Op.input?, Op.confirmationToken]

/-- The id of a record was drawn in the run. -/
theorem Provenance.drawn {core : PipaCore ω} {pre : List (Op ω)} {k sid : PyStr}
    {r : PendingConfirmation} (h : Provenance core pre k r sid) : k ∈ confirmationTokens pre := by
  obtain ⟨pre₁, op₁, mid, input, w, s, rfl, hin, -⟩ := h
  exact List.mem_filterMap.mpr ⟨op₁, by simp, Op.confirmationToken_of_input hin⟩

/-- An id that was drawn and is out of the store does not come back. -/
theorem gone_stays (core : PipaCore ω) {pre mid : List (Op ω)} {k : PyStr}
    (hs : FreshSessions (pre ++ mid)) (hc : FreshConfirmations (pre ++ mid))
    (hk : k ∈ confirmationTokens pre) (hgone : ((machine core).run pre).pending.get? k = none) :
    ((machine core).run (pre ++ mid)).pending.get? k = none := by
  induction mid using List.reverseRecOn with
  | nil => rwa [List.append_nil]
  | append_singleton mid op ih =>
    rw [← List.append_assoc] at hs hc ⊢
    obtain ⟨hc', hnew⟩ := hc.of_concat
    have hprev := ih hs.of_append hc'
    rw [Machine.run_concat]
    cases hr : (((machine core).step ((machine core).run (pre ++ mid)) op).1).pending.get? k with
    | none => rfl
    | some r =>
      rcases (op.apply_turn core _).pending_before (run_coupled core hs.of_append) hr with
        hold | ⟨sid, input, w, s, given, -⟩
      · rw [hprev] at hold; cases hold
      · refine absurd ?_ (hnew k (Op.confirmationToken_of_input given))
        simp only [confirmationTokens, List.filterMap_append, List.mem_append]
        exact Or.inl hk

/-- The handler of an unsafe tool is called only for an accepted confirmation of the session
that asked for it, still pending and in time, with the captured arguments; and no
confirmation is used twice. -/
theorem guarded_execution (core : PipaCore ω) {ops : List (Op ω)} (hs : FreshSessions ops)
    (hc : FreshConfirmations ops) :
    (∀ pre op post tool args, ops = pre ++ op :: post →
      Event.called tool args ∈ ((machine core).out pre op).events → UnsafeTool core tool →
      ∃ cid, Guarded core pre op tool args cid) ∧
    (∀ pre op mid op' post tool args cid tool' args' cid', ops = pre ++ op :: (mid ++ op' :: post) →
      Guarded core pre op tool args cid → Guarded core (pre ++ op :: mid) op' tool' args' cid' →
      cid ≠ cid') := by
  refine ⟨?_, ?_⟩
  · rintro pre op post tool args rfl hcall htool
    exact guarded_of_called core hs.of_append hcall htool
  · rintro pre op mid op' post tool args cid tool' args' cid' rfl h h' rfl
    obtain ⟨sid, w, token, clock, r, -, -, -, -, hprov, -, hspent⟩ := h
    obtain ⟨sid', w', token', clock', r', -, -, -, -, hprov', -, -⟩ := h'
    have hsplit : pre ++ op :: (mid ++ op' :: post) = (pre ++ [op]) ++ mid ++ (op' :: post) := by simp
    rw [hsplit] at hs hc
    have hdrawn : cid ∈ confirmationTokens (pre ++ [op]) := by
      simp only [confirmationTokens, List.filterMap_append, List.mem_append]
      exact Or.inl hprov.drawn
    have hgone := gone_stays core hs.of_append hc.of_append hdrawn hspent
    have hpresent := hprov'.alive.1
    rw [List.append_assoc, List.singleton_append, hpresent] at hgone
    cases hgone

/-- The touch that accepts the lock asked for in `lockRun`. -/
def lockAccept : Op Unit :=
  .handle (PyStr.ofString "s") (.confirm (PyStr.ofString "c") true) () (PyStr.ofString "d") ⟨120, 120, 120⟩

theorem guarded_execution_lockAccept :
    ((machine lockCore).out lockRun lockAccept).events = [.called (PyStr.ofString "system_lock") []] ∧
    ∃ cid, Guarded lockCore lockRun lockAccept (PyStr.ofString "system_lock") [] cid := by
  have hcall : ((machine lockCore).out lockRun lockAccept).events =
      [.called (PyStr.ofString "system_lock") []] := rfl
  have hs : FreshSessions (lockRun ++ [lockAccept]) := ⟨by decide, by decide⟩
  have hc : FreshConfirmations (lockRun ++ [lockAccept]) := by unfold FreshConfirmations; decide
  refine ⟨hcall, (guarded_execution lockCore hs hc).1 lockRun lockAccept [] _ _ rfl ?_ ⟨lockTool, rfl, rfl⟩⟩
  rw [hcall]
  exact List.mem_singleton_self _

end Pipa.Core
