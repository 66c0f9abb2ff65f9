import Pipa.Core.Runs

/- The coupling of a session's state with the confirmation store. `Coupled` is
   the invariant that needs no clock: a record belongs to a session in state
   `confirm`, and to at most one record per session. `Timed` adds what relates
   the store to the clock: `SessionRegistry.create` drops stale sessions without
   cancelling what they own, and this is harmless because a record lives at most
   300 s after its owner was last seen while a session is dropped only after
   900 s. -/
namespace Pipa.Core
open Pipa.Lib

variable {ω : Type}

/-! ## The coupling -/

/-- `drawn` are the session ids drawn so far. -/
structure Coupled (drawn : List PyStr) (st : State) : Prop where
  key : ∀ sid s, st.sessions.get? sid = some s → s.sessionId = sid
  issued : ∀ sid s, st.sessions.get? sid = some s → sid ∈ drawn ∧ sid ≠ []
  owner : ∀ k r, st.pending.get? k = some r → ∃ sid ∈ drawn, r.ownerId = some sid
  calm : ∀ sid s k r, st.sessions.get? sid = some s → st.pending.get? k = some r →
    r.ownerId = some sid → s.state = .confirm
  single : ∀ sid s k r k' r', st.sessions.get? sid = some s → st.pending.get? k = some r →
    st.pending.get? k' = some r' → r.ownerId = some sid → r'.ownerId = some sid → k = k'

section
variable {drawn : List PyStr} {st st' : State}

theorem Coupled.initial : Coupled [] State.initial := by
  refine ⟨?_, ?_, ?_, ?_, ?_⟩ <;> simp [State.initial]

/-- Losing sessions and records keeps the coupling. -/
theorem Coupled.mono (h : Coupled drawn st)
    (hs : ∀ sid s, st'.sessions.get? sid = some s → st.sessions.get? sid = some s)
    (hp : ∀ k r, st'.pending.get? k = some r → st.pending.get? k = some r) : Coupled drawn st' where
  key sid s h' := h.key sid s (hs sid s h')
  issued sid s h' := h.issued sid s (hs sid s h')
  owner k r h' := h.owner k r (hp k r h')
  calm sid s k r h1 h2 := h.calm sid s k r (hs sid s h1) (hp k r h2)
  single sid s k r k' r' h1 h2 h3 := h.single sid s k r k' r' (hs sid s h1) (hp k r h2) (hp k' r' h3)

theorem Coupled.widen {extra : List PyStr} (h : Coupled drawn st) : Coupled (drawn ++ extra) st where
  key := h.key
  issued sid s h' := ⟨List.mem_append_left _ (h.issued sid s h').1, (h.issued sid s h').2⟩
  owner k r h' := by
    obtain ⟨sid, hsid, ho⟩ := h.owner k r h'
    exact ⟨sid, List.mem_append_left _ hsid, ho⟩
  calm := h.calm
  single := h.single

theorem Coupled.no_record (h : Coupled drawn st) {sid : PyStr} {s : DeviceSession}
    (hs : st.sessions.get? sid = some s) (hc : s.state ≠ .confirm) {k : PyStr}
    {r : PendingConfirmation} (hr : st.pending.get? k = some r) : r.ownerId ≠ some sid :=
  fun ho => hc (h.calm sid s k r hs hr ho)

/-- Replacing a registered session keeps the coupling when records only disappear and,
unless it is in `confirm`, none is left to it. -/
theorem Coupled.replace (h : Coupled drawn st) {sid : PyStr} {s₀ s' : DeviceSession}
    (hs₀ : st.sessions.get? sid = some s₀) (hid : s'.sessionId = sid)
    (hsess : st'.sessions = st.sessions.set sid s')
    (hp : ∀ k r, st'.pending.get? k = some r → st.pending.get? k = some r)
    (hcalm : s'.state ≠ .confirm → ∀ k r, st'.pending.get? k = some r → r.ownerId ≠ some sid) :
    Coupled drawn st' := by
  have cases_of {i : PyStr} {s : DeviceSession} (hi : st'.sessions.get? i = some s) :
      (i = sid ∧ s = s') ∨ (i ≠ sid ∧ st.sessions.get? i = some s) := by
    rw [hsess] at hi
    exact Dict.get?_set_some.mp hi
  refine ⟨?_, ?_, ?_, ?_, ?_⟩
  · intro i s hi
    rcases cases_of hi with ⟨rfl, rfl⟩ | ⟨_, hi⟩
    · exact hid
    · exact h.key i s hi
  · intro i s hi
    rcases cases_of hi with ⟨rfl, rfl⟩ | ⟨_, hi⟩
    · exact h.issued _ _ hs₀
    · exact h.issued i s hi
  · exact fun k r hr => h.owner k r (hp k r hr)
  · intro i s k r hi hr ho
    rcases cases_of hi with ⟨rfl, rfl⟩ | ⟨_, hi⟩
    · by_cases hc : s.state = .confirm
      · exact hc
      · exact absurd ho (hcalm hc k r hr)
    · exact h.calm i s k r hi (hp k r hr) ho
  · intro i s k r k' r' hi hr hr' ho ho'
    rcases cases_of hi with ⟨rfl, rfl⟩ | ⟨_, hi⟩
    · exact h.single _ s₀ k r k' r' hs₀ (hp k r hr) (hp k' r' hr') ho ho'
    · exact h.single i s k r k' r' hi (hp k r hr) (hp k' r' hr') ho ho'

/-- A session that owns nothing may enter `confirm` with one new record. -/
theorem Coupled.request (h : Coupled drawn st) {sid token : PyStr} {s₀ s' : DeviceSession}
    {record : PendingConfirmation} {now : Int} (hs₀ : st.sessions.get? sid = some s₀)
    (hc : s₀.state ≠ .confirm) (hid : s'.sessionId = sid) (hstate : s'.state = .confirm)
    (howner : record.ownerId = some sid) (hsess : st'.sessions = st.sessions.set sid s')
    (hpend : st'.pending = (st.pending.prune now).set token record) : Coupled drawn st' := by
  have session {i : PyStr} {s : DeviceSession} (hi : st'.sessions.get? i = some s) :
      (i = sid ∧ s = s') ∨ (i ≠ sid ∧ st.sessions.get? i = some s) := by
    rw [hsess] at hi
    exact Dict.get?_set_some.mp hi
  have kept {k : PyStr} {r : PendingConfirmation} (hk : st'.pending.get? k = some r) :
      (k = token ∧ r = record) ∨ (k ≠ token ∧ st.pending.get? k = some r) := by
    rw [hpend] at hk
    exact (Dict.get?_set_some.mp hk).imp_right (fun h => ⟨h.1, (Pending.get?_prune.mp h.2).1⟩)
  refine ⟨?_, ?_, ?_, ?_, ?_⟩
  · intro i s hi
    rcases session hi with ⟨rfl, rfl⟩ | ⟨_, hi⟩
    · exact hid
    · exact h.key i s hi
  · intro i s hi
    rcases session hi with ⟨rfl, rfl⟩ | ⟨_, hi⟩
    · exact h.issued _ _ hs₀
    · exact h.issued i s hi
  · intro k r hr
    rcases kept hr with ⟨_, rfl⟩ | ⟨_, hr⟩
    · exact ⟨sid, (h.issued sid s₀ hs₀).1, howner⟩
    · exact h.owner k r hr
  · intro i s k r hi hr ho
    rcases session hi with ⟨_, rfl⟩ | ⟨hne, hi⟩
    · exact hstate
    · rcases kept hr with ⟨_, rfl⟩ | ⟨_, hr⟩
      · exact absurd (Option.some.inj (ho.symm.trans howner)) hne
      · exact h.calm i s k r hi hr ho
  · intro i s k r k' r' hi hr hr' ho ho'
    rcases session hi with ⟨rfl, _⟩ | ⟨hne, hi⟩
    · rcases kept hr with ⟨hk, _⟩ | ⟨_, hr⟩
      · rcases kept hr' with ⟨hk', _⟩ | ⟨_, hr'⟩
        · rw [hk, hk']
        · exact absurd ho' (h.no_record hs₀ hc hr')
      · exact absurd ho (h.no_record hs₀ hc hr)
    · rcases kept hr with ⟨_, rfl⟩ | ⟨_, hr⟩
      · exact absurd (Option.some.inj (ho.symm.trans howner)) hne
      · rcases kept hr' with ⟨_, rfl⟩ | ⟨_, hr'⟩
        · exact absurd (Option.some.inj (ho'.symm.trans howner)) hne
        · exact h.single i s k r k' r' hi hr hr' ho ho'

/-- An input of a registered session keeps the coupling. -/
theorem Coupled.effect (h : Coupled drawn st) {core : PipaCore ω} {w : ω} {now seen : Int}
    {token sid : PyStr} {s₀ : DeviceSession} {input : Input} {o : Outcome}
    (hs₀ : st.sessions.get? sid = some s₀)
    (he : Effect core w now token sid st (s₀.touch seen) input o) : Coupled drawn o.state := by
  have hkey : (s₀.touch seen).sessionId = sid := h.key sid s₀ hs₀
  have hne : sid ≠ [] := (h.issued sid s₀ hs₀).2
  cases he with
  | quiet s' frame same sessions pending events =>
    refine h.replace hs₀ (frame.id.trans hkey) sessions (fun k r hr => pending ▸ hr) ?_
    intro hc k r hr
    exact h.no_record hs₀ (fun hc₀ => hc (same.trans hc₀)) (pending ▸ hr)
  | worked s' frame before after sessions pending events =>
    have hp : ∀ k r, o.state.pending.get? k = some r → st.pending.get? k = some r := by
      intro k r hr
      rcases pending with hp | hp
      · exact hp ▸ hr
      · exact (Pending.get?_prune.mp (hp ▸ hr)).1
    exact h.replace hs₀ (frame.id.trans hkey) sessions hp
      (fun _ k r hr => h.no_record hs₀ before (hp k r hr))
  | requested s' record frame before ready after request sessions pending events =>
    exact h.request hs₀ before (frame.id.trans hkey) after (request.owner.trans (by rw [hkey]))
      sessions pending
  | aborted s' frame after sent sessions pending events =>
    rw [hkey] at pending
    refine h.replace hs₀ (frame.id.trans hkey) sessions
      (fun k r hr => Pending.cancelForOwner_le (pending ▸ hr)) ?_
    exact fun _ k r hr => ((Pending.get?_cancelForOwner hne).mp (pending ▸ hr)).2
  | resolved s' cid accepted record frame after sent found live owner sessions pending events =>
    rw [hkey] at pending owner
    have hp : ∀ k r, o.state.pending.get? k = some r → (st.pending.erase cid).get? k = some r := by
      intro k r hr
      rcases pending with hp | hp
      · exact hp ▸ hr
      · exact Pending.cancelForOwner_le (hp ▸ hr)
    have howner : record.ownerId = some sid := by
      rcases owner with hnone | howner
      · obtain ⟨i, _, hi⟩ := h.owner cid record found
        rw [hnone] at hi; cases hi
      · exact howner
    refine h.replace hs₀ (frame.id.trans hkey) sessions
      (fun k r hr => (Dict.get?_erase_some.mp (hp k r hr)).2) ?_
    -- the record answered was the only one of the session
    intro _ k r hr ho
    obtain ⟨hk, hr⟩ := Dict.get?_erase_some.mp (hp k r hr)
    exact hk (h.single sid s₀ k r cid record hs₀ hr found ho howner)
  | unmatched s' cid accepted frame after sent sessions pending events =>
    rw [hkey] at pending
    refine h.replace hs₀ (frame.id.trans hkey) sessions
      (fun k r hr => Pending.cancelForOwner_le (pending ▸ hr)) ?_
    exact fun _ k r hr => ((Pending.get?_cancelForOwner hne).mp (pending ▸ hr)).2

theorem Coupled.of_pruned_pending (h : Coupled drawn st) {base : State} {now : Int}
    (hb : base = st ∨ base = PipaCore.pruneStaleSessions st now) {k : PyStr} {r : PendingConfirmation}
    (hr : base.pending.get? k = some r) : st.pending.get? k = some r := by
  rcases hb with rfl | rfl
  · exact hr
  · exact ((pruneStale_pending (fun sid s hs => (h.issued sid s hs).2)).mp hr).1

/-- Pruning the registry keeps the coupling. -/
theorem Coupled.pruned (h : Coupled drawn st) {base : State} {now : Int}
    (hb : base = st ∨ base = PipaCore.pruneStaleSessions st now) : Coupled drawn base :=
  h.mono (fun _ _ hs => of_pruned_sessions hb hs) (fun _ _ hr => h.of_pruned_pending hb hr)

/-- A new session owns nothing. -/
theorem Coupled.opened (h : Coupled drawn st) {token : PyStr} (hnew : token ∉ drawn ∧ token ≠ [])
    {now : Int} {s' : DeviceSession} (hid : s'.sessionId = token)
    (hsess : st'.sessions = (st.sessions.prune now).1.set token s') (hpend : st'.pending = st.pending) :
    Coupled (drawn ++ [token]) st' := by
  have session {i : PyStr} {s : DeviceSession} (hi : st'.sessions.get? i = some s) :
      (i = token ∧ s = s') ∨ (i ≠ token ∧ st.sessions.get? i = some s) := by
    rw [hsess] at hi
    exact (Dict.get?_set_some.mp hi).imp_right (fun h => ⟨h.1, (get?_prune_sessions.mp h.2).1⟩)
  have foreign {k : PyStr} {r : PendingConfirmation} (hr : st'.pending.get? k = some r) :
      r.ownerId ≠ some token := by
    rw [hpend] at hr
    obtain ⟨sid, hsid, ho⟩ := h.owner k r hr
    rw [ho]
    rintro ⟨⟩
    exact hnew.1 hsid
  have hw : Coupled (drawn ++ [token]) st := h.widen
  refine ⟨?_, ?_, ?_, ?_, ?_⟩
  · intro i s hi
    rcases session hi with ⟨rfl, rfl⟩ | ⟨_, hi⟩
    · exact hid
    · exact h.key i s hi
  · intro i s hi
    rcases session hi with ⟨rfl, rfl⟩ | ⟨_, hi⟩
    · exact ⟨by simp, hnew.2⟩
    · exact hw.issued i s hi
  · exact fun k r hr => hw.owner k r (hpend ▸ hr)
  · intro i s k r hi hr ho
    rcases session hi with ⟨rfl, _⟩ | ⟨_, hi⟩
    · exact absurd ho (foreign hr)
    · exact h.calm i s k r hi (hpend ▸ hr) ho
  · intro i s k r k' r' hi hr hr' ho ho'
    rcases session hi with ⟨rfl, _⟩ | ⟨_, hi⟩
    · exact absurd ho (foreign hr)
    · exact h.single i s k r k' r' hi (hpend ▸ hr) (hpend ▸ hr') ho ho'

/-- Every operation keeps the coupling. -/
theorem Coupled.step (h : Coupled drawn st) {core : PipaCore ω} {op : Op ω} {o : Outcome}
    (turn : Turn core st op o) (hnew : ∀ t, op.sessionToken = some t → t ∉ drawn ∧ t ≠ []) :
    Coupled (drawn ++ op.sessionToken.toList) o.state := by
  cases turn with
  | kept base pruned state events =>
    rw [state]
    exact (h.pruned pruned).widen
  | opened base pruned token dev fw caps init hdrawn sessions pending events =>
    rw [hdrawn]
    rcases create_sessions (base.sessions.create token dev fw caps init op.clock.act).eta.symm with
      hr | ⟨s', hr, hid, -, -⟩
    · refine ((h.pruned pruned).mono (fun sid s hs => ?_) (fun k r hr => pending ▸ hr)).widen
      rw [sessions, hr] at hs
      exact (get?_prune_sessions.mp hs).1
    · exact (h.pruned pruned).opened (hnew token hdrawn) hid (sessions.trans hr) pending
  | input base pruned sid input w token given s registered effect =>
    exact ((h.pruned pruned).effect registered effect).widen
  | closed sid c given sessions pending events =>
    refine (h.mono (fun i s hs => ?_) (fun k r hr => ?_)).widen
    · rw [sessions] at hs
      exact (Dict.get?_erase_some.mp hs).2
    · exact Pending.cancelForOwner_le (pending ▸ hr)

end

theorem run_coupled (core : PipaCore ω) {ops : List (Op ω)} (hfresh : FreshSessions ops) :
    Coupled (sessionTokens ops) ((machine core).run ops) := by
  induction ops using List.reverseRecOn with
  | nil => exact Coupled.initial
  | append_singleton pre op ih =>
    obtain ⟨hpre, hnew⟩ := hfresh.of_concat
    rw [Machine.run_concat, sessionTokens_concat]
    exact (ih hpre).step (op.apply_turn core _) hnew

/-! ## The clock -/

/-- At time `now`: a registered session was seen, its records end at most 300 s after
that, and what is left of a session that is gone has expired. -/
structure Timed (now : Int) (st : State) : Prop where
  seen : ∀ sid s, st.sessions.get? sid = some s → ∃ t, s.lastSeenAt = some t ∧ t ≤ now
  lives : ∀ sid s t k r, st.sessions.get? sid = some s → s.lastSeenAt = some t →
    st.pending.get? k = some r → r.ownerId = some sid → r.expiresAt ≤ t + 300
  orphan : ∀ sid k r, st.sessions.get? sid = none → st.pending.get? k = some r →
    r.ownerId = some sid → r.expiresAt ≤ now

section
variable {now now' : Int} {drawn : List PyStr} {st st' : State}

theorem Timed.initial : Timed now State.initial := by
  refine ⟨?_, ?_, ?_⟩ <;> simp [State.initial]

theorem Timed.later (h : Timed now st) (hle : now ≤ now') : Timed now' st where
  seen sid s hs := by
    obtain ⟨t, ht, htn⟩ := h.seen sid s hs
    exact ⟨t, ht, htn.trans hle⟩
  lives := h.lives
  orphan sid k r hs hr ho := (h.orphan sid k r hs hr ho).trans hle

/-- A session dropped for being stale was last seen so long ago that what it owns has
expired, whether or not it is cancelled too. -/
theorem Timed.drop (h : Timed now st)
    (hs : ∀ sid s, st'.sessions.get? sid = some s ↔ st.sessions.get? sid = some s ∧ s.stale now = false)
    (hp : ∀ k r, st'.pending.get? k = some r → st.pending.get? k = some r) : Timed now st' where
  seen sid s h' := h.seen sid s ((hs sid s).mp h').1
  lives sid s t k r h' ht hr := h.lives sid s t k r ((hs sid s).mp h').1 ht (hp k r hr)
  orphan sid k r h' hr ho := by
    cases hold : st.sessions.get? sid with
    | none => exact h.orphan sid k r hold (hp k r hr) ho
    | some s =>
      obtain ⟨t, ht, -⟩ := h.seen sid s hold
      have hlives := h.lives sid s t k r hold ht (hp k r hr) ho
      have hstale : s.stale now = true := by
        cases hst : s.stale now with
        | true => rfl
        | false => rw [(hs sid s).mpr ⟨hold, hst⟩] at h'; cases h'
      have hidle : now - t ≥ 15 * 60 := by simpa [DeviceSession.stale, ht, maxSessionIdleSeconds] using hstale
      omega

theorem Timed.pruned (h : Timed now st) (hc : Coupled drawn st) {base : State}
    (hb : base = st ∨ base = PipaCore.pruneStaleSessions st now) : Timed now base := by
  rcases hb with rfl | rfl
  · exact h
  · exact h.drop (fun sid s => pruneStale_sessions) (fun k r hr => hc.of_pruned_pending (Or.inr rfl) hr)

theorem Timed.owned_le (h : Timed now st) {sid k : PyStr} {s : DeviceSession} {r : PendingConfirmation}
    (hs : st.sessions.get? sid = some s) (hr : st.pending.get? k = some r) (ho : r.ownerId = some sid) :
    r.expiresAt ≤ now + 300 := by
  obtain ⟨t, ht, htn⟩ := h.seen sid s hs
  have hlives := h.lives sid s t k r hs ht hr ho
  omega

/-- The session just seen may keep its records or get one with a TTL within bounds. -/
theorem Timed.touched (h : Timed now st) {sid : PyStr} {s' : DeviceSession}
    (hold : ∀ k r, st.pending.get? k = some r → r.ownerId = some sid → r.expiresAt ≤ now + 300)
    (hseen : s'.lastSeenAt = some now)
    (hsess : st'.sessions = st.sessions.set sid s')
    (hp : ∀ k r, st'.pending.get? k = some r →
      st.pending.get? k = some r ∨ (r.ownerId = some sid ∧ r.expiresAt ≤ now + 300)) :
    Timed now st' := by
  have session {i : PyStr} {s : DeviceSession} (hi : st'.sessions.get? i = some s) :
      (i = sid ∧ s = s') ∨ (i ≠ sid ∧ st.sessions.get? i = some s) := by
    rw [hsess] at hi
    exact Dict.get?_set_some.mp hi
  refine ⟨?_, ?_, ?_⟩
  · intro i s hi
    rcases session hi with ⟨_, rfl⟩ | ⟨_, hi⟩
    · exact ⟨now, hseen, le_refl _⟩
    · exact h.seen i s hi
  · intro i s t k r hi ht hr ho
    rcases session hi with ⟨rfl, rfl⟩ | ⟨hne, hi⟩
    · obtain rfl := Option.some.inj (hseen.symm.trans ht)
      rcases hp k r hr with hr | ⟨_, hexp⟩
      · exact hold k r hr ho
      · exact hexp
    · rcases hp k r hr with hr | ⟨howner, _⟩
      · exact h.lives i s t k r hi ht hr ho
      · exact absurd (Option.some.inj (ho.symm.trans howner)) hne
  · intro i k r hi hr ho
    rw [hsess, Dict.get?_set] at hi
    split at hi
    · cases hi
    · rename_i hne
      rcases hp k r hr with hr | ⟨howner, _⟩
      · exact h.orphan i k r hi hr ho
      · exact absurd (Option.some.inj (ho.symm.trans howner)) hne

/-- The records after an input were there before, or it is the one just asked for. -/
theorem Effect.pending_cases {core : PipaCore ω} {w : ω} {token sid : PyStr} {s : DeviceSession}
    {input : Input} {o : Outcome} (he : Effect core w now token sid st s input o) {k : PyStr}
    {r : PendingConfirmation} (hr : o.state.pending.get? k = some r) :
    st.pending.get? k = some r ∨
    (k = token ∧ s.capabilitiesInitialized = true ∧ Requested core w now token s input r ∧
      o.events = [.created r]) := by
  cases he with
  | quiet s' frame same sessions pending events => exact Or.inl (pending ▸ hr)
  | worked s' frame before after sessions pending events =>
    rcases pending with hp | hp
    · exact Or.inl (hp ▸ hr)
    · exact Or.inl (Pending.get?_prune.mp (hp ▸ hr)).1
  | requested s' record frame before ready after request sessions pending events =>
    rw [pending] at hr
    rcases Dict.get?_set_some.mp hr with ⟨hk, rfl⟩ | ⟨_, hr⟩
    · exact Or.inr ⟨hk, ready, request, events⟩
    · exact Or.inl (Pending.get?_prune.mp hr).1
  | aborted s' frame after sent sessions pending events =>
    exact Or.inl (Pending.cancelForOwner_le (pending ▸ hr))
  | resolved s' cid accepted record frame after sent found live owner sessions pending events =>
    have : (st.pending.erase cid).get? k = some r := by
      rcases pending with hp | hp
      · exact hp ▸ hr
      · exact Pending.cancelForOwner_le (hp ▸ hr)
    exact Or.inl (Dict.get?_erase_some.mp this).2
  | unmatched s' cid accepted frame after sent sessions pending events =>
    exact Or.inl (Pending.cancelForOwner_le (pending ▸ hr))

/-- An input replaces its session by one with the same id and time. -/
theorem Effect.session {core : PipaCore ω} {w : ω} {token sid : PyStr} {s : DeviceSession}
    {input : Input} {o : Outcome} (he : Effect core w now token sid st s input o) :
    ∃ s', Frame s s' ∧ o.state.sessions = st.sessions.set sid s' := by
  cases he with
  | quiet s' frame same sessions pending events => exact ⟨s', frame, sessions⟩
  | worked s' frame before after sessions pending events => exact ⟨s', frame, sessions⟩
  | requested s' record frame before ready after request sessions pending events =>
    exact ⟨s', frame, sessions⟩
  | aborted s' frame after sent sessions pending events => exact ⟨s', frame, sessions⟩
  | resolved s' cid accepted record frame after sent found live owner sessions pending events =>
    exact ⟨s', frame, sessions⟩
  | unmatched s' cid accepted frame after sent sessions pending events => exact ⟨s', frame, sessions⟩

/-- An operation that reads the time `now` throughout keeps the clock relations. -/
theorem Timed.step (h : Timed now st) (hc : Coupled drawn st) {core : PipaCore ω} {op : Op ω}
    {o : Outcome} (turn : Turn core st op o) (hclock : op.clock = ⟨now, now, now⟩)
    (hnew : ∀ t, op.sessionToken = some t → t ∉ drawn ∧ t ≠ []) : Timed now o.state := by
  cases turn with
  | kept base pruned state events =>
    rw [hclock] at pruned
    rw [state]
    exact h.pruned hc pruned
  | opened base pruned token dev fw caps init hdrawn sessions pending events =>
    rw [hclock] at pruned sessions
    have hbase := hc.pruned pruned
    rcases create_sessions (base.sessions.create token dev fw caps init now).eta.symm with
      hr | ⟨s', hr, -, -, hseen⟩
    · refine (h.pruned hc pruned).drop (fun sid s => ?_) (fun k r hr => pending ▸ hr)
      rw [sessions, hr, get?_prune_sessions]
    · have hdrop : Timed now { base with sessions := (base.sessions.prune now).1 } :=
        (h.pruned hc pruned).drop (fun sid s => get?_prune_sessions) (fun k r hr => hr)
      refine hdrop.touched (fun k r hr ho => ?_) hseen (sessions.trans hr) (fun k r hr => Or.inl (pending ▸ hr))
      obtain ⟨sid, hsid, hsome⟩ := hbase.owner k r hr
      rw [Option.some.inj (hsome.symm.trans ho)] at hsid
      exact absurd hsid (hnew token hdrawn).1
  | input base pruned sid input w token given s registered effect =>
    rw [hclock] at pruned effect
    obtain ⟨s', frame, sessions⟩ := effect.session
    have hbase := h.pruned hc pruned
    refine hbase.touched (fun k r hr ho => hbase.owned_le registered hr ho) frame.seen sessions
      (fun k r hr => ?_)
    rcases effect.pending_cases hr with hr | ⟨_, _, request, _⟩
    · exact Or.inl hr
    · refine Or.inr ⟨request.owner.trans ?_, ?_⟩
      · exact congrArg some ((hc.pruned pruned).key sid s registered)
      · rw [request.expires]
        exact Int.add_le_add_left core.ttl_le now
  | closed sid c given sessions pending events =>
    refine ⟨?_, ?_, ?_⟩
    · intro i s hs
      rw [sessions] at hs
      exact h.seen i s (Dict.get?_erase_some.mp hs).2
    · intro i s t k r hs ht hr
      rw [sessions] at hs
      rw [pending] at hr
      exact h.lives i s t k r (Dict.get?_erase_some.mp hs).2 ht (Pending.cancelForOwner_le hr)
    · intro i k r hi hr ho
      rw [pending] at hr
      cases hs : st.sessions.get? i with
      | none => exact h.orphan i k r hs (Pending.cancelForOwner_le hr) ho
      | some s =>
        -- the session that just closed: its records were cancelled
        obtain rfl : i = sid := by
          by_contra hne
          rw [sessions, Dict.get?_erase_some.mpr ⟨hne, hs⟩] at hi
          cases hi
        exact absurd ho ((Pending.get?_cancelForOwner (hc.issued i s hs).2).mp hr).2

end

/-! ## Over whole runs -/

/-- Every operation reads one value of the clock, and the clock does not go back. -/
structure SteadyClock (ops : List (Op ω)) : Prop where
  once : ∀ op ∈ ops, ∃ t, op.clock = ⟨t, t, t⟩
  sorted : ops.Pairwise (fun a b => a.clock.act ≤ b.clock.act)

theorem run_timed (core : PipaCore ω) {ops : List (Op ω)} (hfresh : FreshSessions ops)
    (hclock : SteadyClock ops) {now : Int} (hnow : ∀ op ∈ ops, op.clock.act ≤ now) :
    Timed now ((machine core).run ops) := by
  induction ops using List.reverseRecOn generalizing now with
  | nil => exact Timed.initial
  | append_singleton pre op ih =>
    obtain ⟨hpre, hnew⟩ := hfresh.of_concat
    have hsorted := List.pairwise_append.mp hclock.sorted
    obtain ⟨t, ht⟩ := hclock.once op (by simp)
    have hact : op.clock.act = t := by rw [ht]
    have hbefore : Timed t ((machine core).run pre) := by
      refine ih hpre ⟨fun a ha => hclock.once a (by simp [ha]), hsorted.1⟩ (fun a ha => ?_)
      exact hact ▸ hsorted.2.2 a ha op (by simp)
    rw [Machine.run_concat]
    exact (hbefore.step (run_coupled core hpre) (op.apply_turn core _) ht hnew).later
      (hact ▸ hnow op (by simp))

theorem Coupled.owned_eq_nil {drawn : List PyStr} {st : State} (h : Coupled drawn st) {sid : PyStr}
    {s : DeviceSession} (hs : st.sessions.get? sid = some s) (hc : s.state ≠ .confirm) :
    st.pending.owned sid = [] := by
  simp only [Pending.owned, List.filter_eq_nil_iff, decide_eq_true_eq]
  intro r hr
  obtain ⟨k, hk⟩ := Dict.mem_values.mp hr
  exact h.no_record hs hc hk

theorem Coupled.owned_le_one {drawn : List PyStr} {st : State} (h : Coupled drawn st) {sid : PyStr}
    {s : DeviceSession} (hs : st.sessions.get? sid = some s) : (st.pending.owned sid).length ≤ 1 := by
  refine Dict.length_filter_values_le_one (fun k r k' r' hr hr' ho ho' => ?_)
  exact h.single sid s k r k' r' hs hr hr' (of_decide_eq_true ho) (of_decide_eq_true ho')

/-- A session that asks for a confirmation owns none: its limit is never the reason for a refusal. -/
theorem Coupled.no_owner_limit {drawn : List PyStr} {st : State} (h : Coupled drawn st)
    {core : PipaCore ω} {op : Op ω} {o : Outcome} (turn : Turn core st op o) :
    Event.refused Pending.ownerLimitError ∉ o.events := by
  cases turn with
  | kept base pruned state events => simp [events]
  | opened base pruned token dev fw caps init hdrawn sessions pending events => simp [events]
  | closed sid c given sessions pending events => simp [events]
  | input base pruned sid input w token given s registered effect =>
    have hbase := h.pruned pruned
    cases effect with
    | worked s' frame before after sessions pending events =>
      intro hmem
      rcases events _ hmem with ⟨_, _, _, he, _⟩ | ⟨e, he, hlimit⟩
      · cases he
      · have hlen := hlimit (Event.refused.inj he).symm
        have hkey : (s.touch op.clock.touch).sessionId = sid := hbase.key sid s registered
        have hnone : (base.pending.prune op.clock.act).owned sid = [] := by
          simp only [Pending.owned, List.filter_eq_nil_iff, decide_eq_true_eq]
          intro r hr
          obtain ⟨k, hk⟩ := Dict.mem_values.mp hr
          exact hbase.no_record registered before (Pending.get?_prune.mp hk).1
        rw [hkey, hnone] at hlen
        simp [maxPendingPerOwner] at hlen
    | quiet s' frame same sessions pending events => simp [events]
    | requested s' record frame before ready after request sessions pending events => simp [events]
    | aborted s' frame after sent sessions pending events => simp [events]
    | resolved s' cid accepted record frame after sent found live owner sessions pending events =>
      rcases events with he | ⟨_, he⟩ <;> simp [he]
    | unmatched s' cid accepted frame after sent sessions pending events => simp [events]

/-- In every state the Core reaches: a session outside `confirm` owns no record, one in
`confirm` owns at most one, a record without its session has expired, and no session ever
hits its limit of pending confirmations. -/
theorem confirmation_coupling (core : PipaCore ω) {ops : List (Op ω)} (hfresh : FreshSessions ops)
    (hclock : SteadyClock ops) :
    (∀ sid s, ((machine core).run ops).sessions.get? sid = some s →
      (s.state ≠ .confirm → ((machine core).run ops).pending.owned s.sessionId = []) ∧
      (s.state = .confirm → (((machine core).run ops).pending.owned s.sessionId).length ≤ 1)) ∧
    (∀ k r, ((machine core).run ops).pending.get? k = some r → ∃ sid, r.ownerId = some sid ∧
      (((machine core).run ops).sessions.get? sid = none →
        ∀ now, (∀ op ∈ ops, op.clock.act ≤ now) → r.expiresAt ≤ now)) ∧
    (∀ pre op post, ops = pre ++ op :: post →
      Event.refused Pending.ownerLimitError ∉ ((machine core).out pre op).events) := by
  have h := run_coupled core hfresh
  refine ⟨?_, ?_, ?_⟩
  · intro sid s hs
    rw [h.key sid s hs]
    exact ⟨h.owned_eq_nil hs, fun _ => h.owned_le_one hs⟩
  · intro k r hr
    obtain ⟨sid, _, ho⟩ := h.owner k r hr
    exact ⟨sid, ho, fun hs now hnow => (run_timed core hfresh hclock hnow).orphan sid k r hs hr ho⟩
  · rintro pre op post rfl
    have hpre : FreshSessions pre := hfresh.of_append
    exact (run_coupled core hpre).no_owner_limit (op.apply_turn core _)

theorem lockRun_fresh : FreshSessions lockRun := ⟨by decide, by decide⟩

theorem lockRun_steady : SteadyClock lockRun := by
  refine ⟨?_, by decide⟩
  intro op hop
  simp only [lockRun, List.mem_cons, List.not_mem_nil, or_false] at hop
  rcases hop with rfl | rfl
  · exact ⟨100, rfl⟩
  · exact ⟨110, rfl⟩

theorem confirmation_coupling_lockRun :
    (((machine lockCore).run lockRun).sessions.get? (PyStr.ofString "s")).map DeviceSession.state =
      some .confirm ∧
    ∀ s, ((machine lockCore).run lockRun).sessions.get? (PyStr.ofString "s") = some s →
      s.state = .confirm → (((machine lockCore).run lockRun).pending.owned s.sessionId).length ≤ 1 := by
  refine ⟨by decide, fun s hs => ?_⟩
  exact ((confirmation_coupling lockCore lockRun_fresh lockRun_steady).1 (PyStr.ofString "s") s hs).2

end Pipa.Core
