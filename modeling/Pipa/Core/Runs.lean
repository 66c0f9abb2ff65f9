import Pipa.Lib.Machine
import Pipa.Core.Effects

/- Runs of the Core: lists of operations, each with its own clock readings,
   random token and state of the outside world. `Turn` says what an operation
   does to the registry and to the confirmation store, with `Effect` for the
   inputs of a registered session. -/
namespace Pipa.Core
open Pipa.Lib

/-! ## Operations and runs -/

/-- An operation on the Core. `token` is the random id it would use: of the session it
creates, or of the confirmation it asks for. -/
inductive Op (ω : Type) where
  | authenticate (verified : Except Exn PyStr) (firmwareVersion : Option PyStr)
      (capabilities : List PyStr) (token : PyStr) (clock : Clock)
  | create (deviceId : PyStr) (firmwareVersion : Option PyStr) (capabilities : List PyStr)
      (capabilitiesInitialized : Bool) (token : PyStr) (clock : Clock)
  | handle (sid : PyStr) (m : ClientMessage) (w : ω) (token : PyStr) (clock : Clock)
  | handleTranscript (sid text : PyStr) (w : ω) (token : PyStr) (clock : Clock)
  | close (sid : PyStr) (clock : Clock)

namespace Op
variable {ω : Type}

def clock : Op ω → Clock
  | .authenticate _ _ _ _ c | .create _ _ _ _ _ c | .handle _ _ _ _ c | .handleTranscript _ _ _ _ c
  | .close _ c => c

/-- The session id the operation draws. -/
def sessionToken : Op ω → Option PyStr
  | .authenticate _ _ _ t _ | .create _ _ _ _ t _ => some t
  | _ => none

/-- The confirmation id the operation draws. -/
def confirmationToken : Op ω → Option PyStr
  | .handle _ _ _ t _ | .handleTranscript _ _ _ t _ => some t
  | _ => none

/-- The session and its input, for the operations that hand one to the Core, with the
state of the world and the token. -/
def input? : Op ω → Option (PyStr × Input × ω × PyStr)
  | .handle sid m w t _ => some (sid, .message m, w, t)
  | .handleTranscript sid text w t _ => some (sid, .transcript text, w, t)
  | _ => none

def apply (core : PipaCore ω) (st : State) : Op ω → Outcome
  | .authenticate verified fw caps token c => PipaCore.authenticate st verified token fw caps c
  | .create deviceId fw caps init token c => PipaCore.createSession st token deviceId fw caps init c.act
  | .handle sid m w token c => core.handle st w c token sid m
  | .handleTranscript sid text w token c => core.handleTranscript st w c token sid text
  | .close sid _ => PipaCore.close st sid

end Op

variable {ω : Type}

/-- The Core as a machine: its inputs are operations, its outputs their outcomes. -/
def machine (core : PipaCore ω) : Machine State (Op ω) Outcome where
  init := State.initial
  step st op := ((op.apply core st).state, op.apply core st)

def sessionTokens (ops : List (Op ω)) : List PyStr := ops.filterMap Op.sessionToken

def confirmationTokens (ops : List (Op ω)) : List PyStr := ops.filterMap Op.confirmationToken

/-- `secrets.token_urlsafe` never returns the same session id twice, nor an empty one. -/
structure FreshSessions (ops : List (Op ω)) : Prop where
  nodup : (sessionTokens ops).Nodup
  nonempty : ∀ t ∈ sessionTokens ops, t ≠ []

/-- `secrets.token_urlsafe` never returns the same confirmation id twice. -/
def FreshConfirmations (ops : List (Op ω)) : Prop := (confirmationTokens ops).Nodup

theorem sessionTokens_concat (pre : List (Op ω)) (op : Op ω) :
    sessionTokens (pre ++ [op]) = sessionTokens pre ++ op.sessionToken.toList := by
  cases h : op.sessionToken <;> simp [sessionTokens, h]

theorem confirmationTokens_concat (pre : List (Op ω)) (op : Op ω) :
    confirmationTokens (pre ++ [op]) = confirmationTokens pre ++ op.confirmationToken.toList := by
  cases h : op.confirmationToken <;> simp [confirmationTokens, h]

theorem FreshSessions.of_concat {pre : List (Op ω)} {op : Op ω} (h : FreshSessions (pre ++ [op])) :
    FreshSessions pre ∧ ∀ t, op.sessionToken = some t → t ∉ sessionTokens pre ∧ t ≠ [] := by
  obtain ⟨hnodup, hne⟩ := h
  rw [sessionTokens_concat] at hnodup hne
  rw [List.nodup_append] at hnodup
  refine ⟨⟨hnodup.1, fun t ht => hne t (List.mem_append_left _ ht)⟩, fun t ht => ?_⟩
  have hmem : t ∈ op.sessionToken.toList := by rw [ht]; exact List.mem_singleton_self t
  exact ⟨fun hpre => hnodup.2.2 t hpre t hmem rfl, hne t (List.mem_append_right _ hmem)⟩

theorem FreshSessions.of_append {pre post : List (Op ω)} (h : FreshSessions (pre ++ post)) :
    FreshSessions pre := by
  obtain ⟨hnodup, hne⟩ := h
  simp only [sessionTokens, List.filterMap_append] at hnodup hne
  exact ⟨hnodup.of_append_left, fun t ht => hne t (List.mem_append_left _ ht)⟩

theorem FreshConfirmations.of_concat {pre : List (Op ω)} {op : Op ω}
    (h : FreshConfirmations (pre ++ [op])) :
    FreshConfirmations pre ∧ ∀ t, op.confirmationToken = some t → t ∉ confirmationTokens pre := by
  unfold FreshConfirmations at h
  rw [confirmationTokens_concat, List.nodup_append] at h
  refine ⟨h.1, fun t ht hpre => h.2.2 t hpre t ?_ rfl⟩
  rw [ht]; exact List.mem_singleton_self t

theorem FreshConfirmations.of_append {pre post : List (Op ω)} (h : FreshConfirmations (pre ++ post)) :
    FreshConfirmations pre := by
  simp only [FreshConfirmations, confirmationTokens, List.filterMap_append] at h
  exact h.of_append_left

/-! ## Pruning -/

theorem mem_prune_ids {r : SessionRegistry} {now : Int} {sid : PyStr} :
    sid ∈ (SessionRegistry.prune r now).2 ↔ ∃ s, r.get? sid = some s ∧ s.stale now = true := by
  simp [SessionRegistry.prune, Dict.get?_eq_some]

theorem get?_prune_sessions {r : SessionRegistry} {now : Int} {sid : PyStr} {s : DeviceSession} :
    (SessionRegistry.prune r now).1.get? sid = some s ↔ r.get? sid = some s ∧ s.stale now = false := by
  simp [SessionRegistry.prune, Dict.get?_filter_some]

theorem foldl_cancel_sessions (ids : List PyStr) (st : State) :
    (ids.foldl State.cancelPending st).sessions = st.sessions := by
  induction ids generalizing st with
  | nil => rfl
  | cons a ids ih => rw [List.foldl_cons, ih]; rfl

theorem foldl_cancel_pending (ids : List PyStr) (hids : ∀ i ∈ ids, i ≠ []) (st : State) {k : PyStr}
    {r : PendingConfirmation} :
    (ids.foldl State.cancelPending st).pending.get? k = some r ↔
      st.pending.get? k = some r ∧ ∀ i ∈ ids, r.ownerId ≠ some i := by
  induction ids generalizing st with
  | nil => simp
  | cons a ids ih =>
    rw [List.foldl_cons, ih (fun i hi => hids i (List.mem_cons_of_mem a hi)) (st.cancelPending a)]
    simp only [State.cancelPending, Pending.get?_cancelForOwner (hids a List.mem_cons_self),
      List.forall_mem_cons, and_assoc]

section
variable {st : State} {now : Int}

theorem pruneStale_sessions {sid : PyStr} {s : DeviceSession} :
    (PipaCore.pruneStaleSessions st now).sessions.get? sid = some s ↔
      st.sessions.get? sid = some s ∧ s.stale now = false := by
  simp only [PipaCore.pruneStaleSessions, foldl_cancel_sessions, get?_prune_sessions]

theorem of_pruned_sessions {base : State} (hb : base = st ∨ base = PipaCore.pruneStaleSessions st now)
    {sid : PyStr} {s : DeviceSession} (hs : base.sessions.get? sid = some s) :
    st.sessions.get? sid = some s := by
  rcases hb with rfl | rfl
  · exact hs
  · exact (pruneStale_sessions.mp hs).1

/-- The sessions pruned take their confirmations with them. -/
theorem pruneStale_pending (hne : ∀ sid s, st.sessions.get? sid = some s → sid ≠ []) {k : PyStr}
    {r : PendingConfirmation} :
    (PipaCore.pruneStaleSessions st now).pending.get? k = some r ↔
      st.pending.get? k = some r ∧
      ∀ sid s, st.sessions.get? sid = some s → s.stale now = true → r.ownerId ≠ some sid := by
  have hids : ∀ i ∈ (SessionRegistry.prune st.sessions now).2, i ≠ [] := by
    intro i hi
    obtain ⟨s, hs, _⟩ := mem_prune_ids.mp hi
    exact hne i s hs
  simp only [PipaCore.pruneStaleSessions, foldl_cancel_pending _ hids]
  constructor
  · rintro ⟨h, hown⟩
    exact ⟨h, fun sid s hs hst => hown sid (mem_prune_ids.mpr ⟨s, hs, hst⟩)⟩
  · rintro ⟨h, hown⟩
    refine ⟨h, fun i hi => ?_⟩
    obtain ⟨s, hs, hst⟩ := mem_prune_ids.mp hi
    exact hown i s hs hst

end

/-- `SessionRegistry.create`: the stale sessions go, and at most one new session comes. -/
theorem create_sessions {r r' : SessionRegistry} {token dev : PyStr} {fw : Option PyStr}
    {caps : List PyStr} {init : Bool} {now : Int} {res : Option DeviceSession}
    (h : r.create token dev fw caps init now = (r', res)) :
    r' = (r.prune now).1 ∨
    ∃ s : DeviceSession, r' = (r.prune now).1.set token s ∧ s.sessionId = token ∧ s.state = .idle ∧
      s.lastSeenAt = some now := by
  unfold SessionRegistry.create at h
  simp only at h
  split at h
  · exact Or.inl (Prod.mk.inj h).1.symm
  split at h
  · exact Or.inl (Prod.mk.inj h).1.symm
  · exact Or.inr ⟨_, (Prod.mk.inj h).1.symm, rfl, rfl, rfl⟩

/-! ## What an operation does -/

/-- The cases of an operation on `st`. All but `close` may first prune the registry:
`base` is the state with or without that. -/
inductive Turn (core : PipaCore ω) (st : State) (op : Op ω) (o : Outcome) : Prop where
  | kept (base : State) (pruned : base = st ∨ base = PipaCore.pruneStaleSessions st op.clock.prune)
      (state : o.state = base) (events : o.events = [])
  | opened (base : State) (pruned : base = st ∨ base = PipaCore.pruneStaleSessions st op.clock.prune)
      (token dev : PyStr) (fw : Option PyStr) (caps : List PyStr) (init : Bool)
      (drawn : op.sessionToken = some token)
      (sessions : o.state.sessions = (base.sessions.create token dev fw caps init op.clock.act).1)
      (pending : o.state.pending = base.pending) (events : o.events = [])
  | input (base : State) (pruned : base = st ∨ base = PipaCore.pruneStaleSessions st op.clock.prune)
      (sid : PyStr) (input : Input) (w : ω) (token : PyStr) (given : op.input? = some (sid, input, w, token))
      (s : DeviceSession) (registered : base.sessions.get? sid = some s)
      (effect : Effect core w op.clock.act token sid base (s.touch op.clock.touch) input o)
  | closed (sid : PyStr) (c : Clock) (given : op = .close sid c)
      (sessions : o.state.sessions = st.sessions.erase sid)
      (pending : o.state.pending = st.pending.cancelForOwner sid) (events : o.events = [])

theorem createSession_shape (st : State) (token dev : PyStr) (fw : Option PyStr) (caps : List PyStr)
    (init : Bool) (now : Int) :
    let o := PipaCore.createSession st token dev fw caps init now
    o.state.sessions = (st.sessions.create token dev fw caps init now).1 ∧
      o.state.pending = st.pending ∧ o.events = [] := by
  simp only [PipaCore.createSession]
  split <;> rename_i h <;> rw [h] <;> exact ⟨rfl, rfl, rfl⟩

theorem Op.apply_turn (core : PipaCore ω) (st : State) (op : Op ω) :
    Turn core st op (op.apply core st) := by
  cases op with
  | authenticate verified fw caps token c =>
    cases verified with
    | error e => exact .kept _ (Or.inr rfl) rfl rfl
    | ok dev =>
      obtain ⟨h1, h2, h3⟩ := createSession_shape (PipaCore.pruneStaleSessions st c.prune) token dev fw
        caps true c.act
      exact .opened _ (Or.inr rfl) token dev fw caps true rfl h1 h2 h3
  | create dev fw caps init token c =>
    obtain ⟨h1, h2, h3⟩ := createSession_shape st token dev fw caps init c.act
    exact .opened _ (Or.inl rfl) token dev fw caps init rfl h1 h2 h3
  | handle sid m w token c =>
    cases hs : (PipaCore.pruneStaleSessions st c.prune).sessions.get? sid with
    | none =>
      refine .kept _ (Or.inr rfl) ?_ ?_ <;> simp [Op.apply, PipaCore.handle, hs, reply, Op.clock]
    | some s =>
      refine .input _ (Or.inr rfl) sid (.message m) w token rfl s hs ?_
      simp only [Op.apply, PipaCore.handle, hs]
      exact PipaCore.handleSession_effect
  | handleTranscript sid text w token c =>
    cases hs : st.sessions.get? sid with
    | none => refine .kept _ (Or.inl rfl) ?_ ?_ <;> simp [Op.apply, PipaCore.handleTranscript, hs, reply]
    | some s =>
      exact .input _ (Or.inl rfl) sid (.transcript text) w token rfl s hs
        (PipaCore.handleTranscript_effect hs)
  | close sid c => exact .closed sid c rfl rfl rfl rfl

/-! ## A small Core -/

/-- `system_lock`, as the agent registers it; the handler succeeds. -/
def lockTool : ToolDefinition Unit where
  name := PyStr.ofString "system_lock"
  handler _ _ := .ok [(PyStr.ofString "success", .bool true)]
  safety := .unsafeTool
  confirmSummary := some (fun _ _ => .ok (.str (PyStr.ofString "Bloquear el ordenador")))
  argumentValidator := some (fun _ arguments => if arguments.isEmpty then .ok () else .error .valueError)
  confirmationPreparer := none
  summarised _ := rfl

/-- A Core that knows one tool and one phrase for it. -/
def lockCore : PipaCore Unit where
  catalog := Dict.empty.set (PyStr.ofString "system_lock") lockTool
  ttlSeconds := 60
  ttl_pos := by decide
  ttl_le := by decide
  commandCatalog := none
  capabilityCatalog := none
  commandCatalogAuthoritative := false
  parseCatalogIntent _ _ := .ok none
  parseTextIntent text :=
    .ok (if text = PyStr.ofString "bloquea el ordenador" then some ⟨PyStr.ofString "system_lock", []⟩ else none)
  computeRequestDigest _ _ := .error .other
  str _ := []

/-- A device with a touch screen connects and asks for the lock. -/
def lockRun : List (Op Unit) :=
  [.create (PyStr.ofString "pipa") none [PyStr.ofString "display", PyStr.ofString "touch"] true
     (PyStr.ofString "s") ⟨100, 100, 100⟩,
   .handle (PyStr.ofString "s") (.textInput (PyStr.ofString "bloquea el ordenador") .touch) ()
     (PyStr.ofString "c") ⟨110, 110, 110⟩]

end Pipa.Core
