import Mathlib.Algebra.Order.Ring.Rat
import Mathlib.Data.Finset.Dedup
import Mathlib.Data.Finset.Order
import Mathlib.Tactic.Linarith
import Pipa.Lib.ReplayCache
import Pipa.Secure.Handshake

/- `SecureSessionServer` (`secure_session_server.py`): the server endpoint of the
   v2 handshake, with the trusted devices and the cache of session ids that were
   used already.

   The clock of `time.monotonic` is a rational number of seconds and an argument of
   the call that reads it. The result of a run is the list of the hellos it
   accepted; the cache is what `ReplayCache` tracks of that list. -/
namespace Pipa.Secure
open Pipa.Lib

def maxClientHelloBytes : Nat := 4096
def maxUsedSessionIds : Nat := 4096
def sessionIdReplayTtlSeconds : ℚ := 30 * 60

def clientHelloFields : List PyStr :=
  [PyStr.ofString "client_ephemeral_public_key", PyStr.ofString "client_id",
   PyStr.ofString "client_nonce", PyStr.ofString "protocol_version", PyStr.ofString "session_id",
   PyStr.ofString "signature"]

/-- The `HandshakeError`s of `accept_client_hello`; `handshake` are those of `create_server_hello`. -/
inductive AcceptError where
  | notObject | notJson | tooLarge | fieldSet | malformed | notPaired | consumed | handshake
  deriving DecidableEq

/-- `ClientHello(**dict(payload))`. -/
def ClientHello.ofFields (fields : Object) : Option ClientHello :=
  let get (k : String) : Value := (fields.get? (PyStr.ofString k)).getD .null
  match get "session_id", get "client_id", get "client_ephemeral_public_key", get "client_nonce",
      get "signature" with
  | .str sessionId, .str clientId, .str clientEphemeralPublicKey, .str clientNonce, .str signature =>
    ClientHello.new sessionId clientId clientEphemeralPublicKey clientNonce signature (get "protocol_version")
  | _, _, _, _, _ => none

/-- A hello reads its own dictionary back. -/
theorem ClientHello.ofFields_asDict (hello : ClientHello) : ClientHello.ofFields hello.asDict = some hello :=
  dif_pos ⟨hello.valid, hello.signed⟩

/-- `accept_client_hello` up to the lock. -/
def parseClientHello (payload : Value) : Except AcceptError ClientHello :=
  match payload with
  | .dict fields =>
    match (dumps false payload).bind PyStr.encode with
    | none => .error .notJson
    | some encoded =>
      if encoded.length > maxClientHelloBytes then .error .tooLarge
      else if !hasFields fields clientHelloFields then .error .fieldSet
      else match ClientHello.ofFields fields with
        | none => .error .malformed
        | some hello => .ok hello
  | _ => .error .notObject

structure SecureSessionServer where
  identity : SecureIdentity
  trustedDevices : Dict PyStr (Fixed 32)
  usedSessionIds : Dict PyStr ℚ

namespace SecureSessionServer

/-- `_copy_trusted_devices`: the ids must not be empty. -/
def copyTrustedDevices (devices : Dict PyStr (Fixed 32)) : Option (Dict PyStr (Fixed 32)) :=
  if devices.entries.any (fun e => e.1.isEmpty) then none else some devices

/-- The constructor with its `__post_init__`. -/
def new (identity : SecureIdentity) (devices : Dict PyStr (Fixed 32)) : Option SecureSessionServer :=
  (copyTrustedDevices devices).map (fun copied => ⟨identity, copied, Dict.empty⟩)

/-- `refresh_trusted_devices`, and whether it succeeded. -/
def refreshTrustedDevices (s : SecureSessionServer) (devices : Dict PyStr (Fixed 32)) :
    SecureSessionServer × Bool :=
  match copyTrustedDevices devices with
  | none => (s, false)
  | some copied => ({ s with trustedDevices := copied }, true)

/-- `is_trusted_device`. -/
def isTrustedDevice (s : SecureSessionServer) (deviceId : PyStr) (publicKey : Fixed 32) : Bool :=
  match s.trustedDevices.get? deviceId with
  | none => false
  | some current => current.val = publicKey.val

/-- `trusted_device_public_key`. -/
def trustedDevicePublicKey (s : SecureSessionServer) (deviceId : PyStr) : Option (Fixed 32) :=
  s.trustedDevices.get? deviceId

/-- The ids left by the pruning loop. -/
def unexpired (s : SecureSessionServer) (now : ℚ) : Dict PyStr ℚ :=
  s.usedSessionIds.prune (now - sessionIdReplayTtlSeconds)

/-- The part of `accept_client_hello` under the lock. -/
def consume (crypto : Crypto) (s : SecureSessionServer) (hello : ClientHello) (now : ℚ)
    (ephemeralPrivateKey : Fixed 32) (nonce : Bytes) :
    SecureSessionServer × Except AcceptError (ServerHello × SecureSession) :=
  match s.trustedDevices.get? hello.clientId with
  | none => (s, .error .notPaired)
  | some clientPublicKey =>
    let s' := { s with usedSessionIds := s.unexpired now }
    if s'.usedSessionIds.contains hello.sessionId then (s', .error .consumed)
    else match createServerHello crypto s.identity hello clientPublicKey ephemeralPrivateKey nonce with
      | none => (s', .error .handshake)
      | some answer =>
        ({ s with usedSessionIds := Dict.enter (s.unexpired now) maxUsedSessionIds hello.sessionId now },
          .ok answer)

/-- `accept_client_hello`; what it draws at random is given. -/
def acceptClientHello (crypto : Crypto) (s : SecureSessionServer) (payload : Value) (now : ℚ)
    (ephemeralPrivateKey : Fixed 32) (nonce : Bytes) :
    SecureSessionServer × Except AcceptError (ServerHello × SecureSession) :=
  match parseClientHello payload with
  | .error e => (s, .error e)
  | .ok hello => s.consume crypto hello now ephemeralPrivateKey nonce

/-! ## One call -/

section
variable {crypto : Crypto} {s : SecureSessionServer} {payload : Value} {now : ℚ}
  {ephemeralPrivateKey : Fixed 32} {nonce : Bytes}

/-- A hello is refused, at most with expired ids dropped, or answered, with its id recorded. -/
theorem acceptClientHello_cases (crypto : Crypto) (s : SecureSessionServer) (payload : Value) (now : ℚ)
    (ephemeralPrivateKey : Fixed 32) (nonce : Bytes) :
    (∃ e, s.acceptClientHello crypto payload now ephemeralPrivateKey nonce = (s, .error e)) ∨
    (∃ e, s.acceptClientHello crypto payload now ephemeralPrivateKey nonce =
      ({ s with usedSessionIds := s.unexpired now }, .error e)) ∨
    (∃ hello key answer, parseClientHello payload = .ok hello ∧
      s.trustedDevices.get? hello.clientId = some key ∧
      createServerHello crypto s.identity hello key ephemeralPrivateKey nonce = some answer ∧
      (s.unexpired now).get? hello.sessionId = none ∧
      s.acceptClientHello crypto payload now ephemeralPrivateKey nonce =
        ({ s with usedSessionIds := Dict.enter (s.unexpired now) maxUsedSessionIds hello.sessionId now },
          .ok answer)) := by
  unfold acceptClientHello
  split
  · exact Or.inl ⟨_, rfl⟩
  · rename_i hello hparse
    unfold consume
    split
    · exact Or.inl ⟨_, rfl⟩
    · rename_i key hkey
      simp only
      split
      · exact Or.inr (Or.inl ⟨_, rfl⟩)
      · rename_i habsent
        split
        · exact Or.inr (Or.inl ⟨_, rfl⟩)
        · rename_i answer hanswer
          have hnone : (s.unexpired now).get? hello.sessionId = none := by
            simpa [Dict.contains] using habsent
          exact Or.inr (Or.inr ⟨hello, key, answer, hparse, hkey, hanswer, hnone, rfl⟩)

end

/-! ## Runs -/

inductive Op where
  | accept (payload : Value) (now : ℚ) (ephemeralPrivateKey : Fixed 32) (nonce : Bytes)
  | refresh (devices : Dict PyStr (Fixed 32))

inductive Reply where
  | answered (now : ℚ) (result : Except AcceptError (ServerHello × SecureSession))
  | refreshed (ok : Bool)

def call (crypto : Crypto) (s : SecureSessionServer) : Op → SecureSessionServer × Reply
  | .accept payload now ephemeralPrivateKey nonce =>
    let r := s.acceptClientHello crypto payload now ephemeralPrivateKey nonce
    (r.1, .answered now r.2)
  | .refresh devices =>
    let r := s.refreshTrustedDevices devices
    (r.1, .refreshed r.2)

def machine (crypto : Crypto) (s₀ : SecureSessionServer) : Machine SecureSessionServer Op Reply where
  init := s₀
  step := call crypto

/-- The time read by a call. -/
def Op.now? : Op → Option ℚ
  | .accept _ now _ _ => some now
  | .refresh _ => none

def SteadyClock (ops : List Op) : Prop := (ops.filterMap Op.now?).Pairwise (· ≤ ·)

/-- Every time read before is at most the time the last call reads. -/
theorem steady_last {pre : List Op} {op : Op} (h : SteadyClock (pre ++ [op])) {now : ℚ}
    (hnow : op.now? = some now) : ∀ n ∈ pre.filterMap Op.now?, n ≤ now := by
  unfold SteadyClock at h
  rw [List.filterMap_append] at h
  intro n hn
  exact (List.pairwise_append.mp h).2.2 n hn now (by simp [hnow])

/-- The session id a reply accepts, and when. -/
def Reply.accepted : Reply → Option (PyStr × ℚ)
  | .answered now (.ok answer) => some (answer.1.sessionId, now)
  | _ => none

/-- The session ids a run accepted, in order. -/
def acceptances (crypto : Crypto) (s₀ : SecureSessionServer) (ops : List Op) : List (PyStr × ℚ) :=
  ((machine crypto s₀).outs ops).filterMap Reply.accepted

section
variable {crypto : Crypto} {s₀ : SecureSessionServer}

theorem run_call (pre : List Op) (op : Op) :
    (machine crypto s₀).run (pre ++ [op]) = (call crypto ((machine crypto s₀).run pre) op).1 :=
  Machine.run_concat _ pre op

theorem acceptances_concat (pre : List Op) (op : Op) :
    acceptances crypto s₀ (pre ++ [op]) =
      acceptances crypto s₀ pre ++ (call crypto ((machine crypto s₀).run pre) op).2.accepted.toList := by
  unfold acceptances
  rw [Machine.outs_concat, List.filterMap_append]
  rfl

/-- What a call does to the cache and whether it accepts. -/
theorem call_cases (crypto : Crypto) (s : SecureSessionServer) (op : Op) :
    ((call crypto s op).2.accepted = none ∧
      ((call crypto s op).1.usedSessionIds = s.usedSessionIds ∨
        ∃ now, op.now? = some now ∧ (call crypto s op).1.usedSessionIds = s.unexpired now)) ∨
    (∃ now sid, op.now? = some now ∧ (call crypto s op).2.accepted = some (sid, now) ∧
      (s.unexpired now).get? sid = none ∧
      (call crypto s op).1.usedSessionIds = Dict.enter (s.unexpired now) maxUsedSessionIds sid now) := by
  cases op with
  | refresh devices =>
    refine Or.inl ⟨rfl, Or.inl ?_⟩
    simp only [call, refreshTrustedDevices]
    split <;> rfl
  | accept payload now ephemeralPrivateKey nonce =>
    simp only [call]
    obtain ⟨e, he⟩ | ⟨e, he⟩ | ⟨hello, key, answer, -, -, hanswer, habsent, hok⟩ :=
      acceptClientHello_cases crypto s payload now ephemeralPrivateKey nonce
    · rw [he]
      exact Or.inl ⟨rfl, Or.inl rfl⟩
    · rw [he]
      exact Or.inl ⟨rfl, Or.inr ⟨now, rfl, rfl⟩⟩
    · rw [hok]
      refine Or.inr ⟨now, hello.sessionId, rfl, ?_, habsent, rfl⟩
      obtain ⟨-, -, hfields, -⟩ := createServerHello_eq_some.mp hanswer
      rw [← (answerHello_fields hfields).sessionId]
      rfl

theorem acceptances_times (ops : List Op) :
    ((acceptances crypto s₀ ops).map Prod.snd).Sublist (ops.filterMap Op.now?) := by
  induction ops using List.reverseRecOn with
  | nil => simp [acceptances]
  | append_singleton pre op ih =>
    rw [acceptances_concat, List.map_append, List.filterMap_append]
    refine ih.append ?_
    obtain ⟨hnone, -⟩ | ⟨now, sid, hnow, hsome, -, -⟩ := call_cases crypto ((machine crypto s₀).run pre) op
    · simp [hnone]
    · simp [hsome, hnow]

/-- What the cache has of the run, at any time `c` that is not before the last call. -/
theorem run_tracks (h0 : s₀.usedSessionIds = Dict.empty) {ops : List Op} (hclock : SteadyClock ops) {c : ℚ}
    (hc : ∀ n ∈ ops.filterMap Op.now?, n ≤ c) :
    ∃ gone, Tracks maxUsedSessionIds (acceptances crypto s₀ ops) (c - sessionIdReplayTtlSeconds)
      ((machine crypto s₀).run ops).usedSessionIds gone := by
  induction ops using List.reverseRecOn generalizing c with
  | nil =>
    show ∃ gone, Tracks _ [] _ s₀.usedSessionIds gone
    rw [h0]
    exact ⟨[], Tracks.empty _ _⟩
  | append_singleton pre op ih =>
    rw [List.filterMap_append] at hc
    have hpre : SteadyClock pre := by
      unfold SteadyClock at hclock ⊢
      rw [List.filterMap_append] at hclock
      exact (List.pairwise_append.mp hclock).1
    rw [acceptances_concat, run_call]
    obtain ⟨hnone, hsame | ⟨now, hnow, hpruned⟩⟩ | ⟨now, sid, hnow, hsome, habsent, henter⟩ :=
      call_cases crypto ((machine crypto s₀).run pre) op
    · obtain ⟨gone, h⟩ := ih hpre (fun n hn => hc n (by simp [hn]))
      rw [hnone, hsame, Option.toList_none, List.append_nil]
      exact ⟨gone, h⟩
    · obtain ⟨gone, h⟩ := ih hpre (steady_last hclock hnow)
      obtain ⟨gone', h'⟩ := h.prune
      have hle : now ≤ c := hc now (by simp [hnow])
      rw [hnone, hpruned, Option.toList_none, List.append_nil]
      exact ⟨gone', h'.later (by linarith)⟩
    · obtain ⟨gone, h⟩ := ih hpre (steady_last hclock hnow)
      obtain ⟨gone', h'⟩ := h.prune
      obtain ⟨gone'', h''⟩ := h'.enter (by decide) habsent
      have hle : now ≤ c := hc now (by simp [hnow])
      rw [hsome, henter, Option.toList_some]
      exact ⟨gone'', h''.later (by linarith)⟩

/-- An id accepted again is expired, or enough others came in between. -/
theorem accepted_again (h0 : s₀.usedSessionIds = Dict.empty) {ops : List Op} (hclock : SteadyClock ops)
    {pre mid post : List (PyStr × ℚ)} {sid : PyStr} {t t' : ℚ}
    (h : acceptances crypto s₀ ops = (pre ++ (sid, t) :: mid) ++ (sid, t') :: post) :
    t + sessionIdReplayTtlSeconds ≤ t' ∨ maxUsedSessionIds ≤ (others sid mid).length := by
  induction ops using List.reverseRecOn generalizing post with
  | nil => simp [acceptances] at h
  | append_singleton ops op ih =>
    have hpre : SteadyClock ops := by
      unfold SteadyClock at hclock ⊢
      rw [List.filterMap_append] at hclock
      exact (List.pairwise_append.mp hclock).1
    rw [acceptances_concat] at h
    obtain ⟨later, hearlier, -⟩ | ⟨before, hlast, hsplit⟩ := append_eq_split h
    · exact ih hpre hearlier
    · obtain ⟨hnone, -⟩ | ⟨now, sid', hnow, hsome, habsent, -⟩ :=
        call_cases crypto ((machine crypto s₀).run ops) op
      · rw [hnone] at hlast
        simp at hlast
      · rw [hsome, Option.toList_some] at hlast
        cases before with
        | cons x before => simp at hlast
        | nil =>
          simp only [List.nil_append, List.cons.injEq, Prod.mk.injEq] at hlast
          obtain ⟨⟨rfl, rfl⟩, -⟩ := hlast
          obtain ⟨gone, htracks⟩ := run_tracks h0 hpre (steady_last hclock hnow)
          obtain ⟨gone', hpruned⟩ := htracks.prune
          rw [List.append_nil] at hsplit
          rcases hpruned.absent habsent hsplit.symm with hold | hmany
          · exact Or.inl (by linarith)
          · exact Or.inr hmany

/-- A refused hello at most drops expired ids. -/
theorem refused_keeps {s : SecureSessionServer} {payload : Value} {now : ℚ} {ephemeralPrivateKey : Fixed 32}
    {nonce : Bytes} {e : AcceptError}
    (h : (s.acceptClientHello crypto payload now ephemeralPrivateKey nonce).2 = .error e) :
    ∃ kept removed, (s.acceptClientHello crypto payload now ephemeralPrivateKey nonce).1 =
        { s with usedSessionIds := kept } ∧
      s.usedSessionIds.entries = removed ++ kept.entries ∧
      ∀ x ∈ removed, x.2 + sessionIdReplayTtlSeconds ≤ now := by
  obtain ⟨e', he⟩ | ⟨e', he⟩ | ⟨hello, key, answer, -, -, -, -, hok⟩ :=
    acceptClientHello_cases crypto s payload now ephemeralPrivateKey nonce
  · exact ⟨s.usedSessionIds, [], by rw [he], rfl, by simp⟩
  · obtain ⟨removed, hsplit, hold⟩ := s.usedSessionIds.prune_split (now - sessionIdReplayTtlSeconds)
    refine ⟨s.unexpired now, removed, by rw [he], hsplit, fun x hx => ?_⟩
    have := hold x hx
    linarith
  · rw [hok] at h
    cases h

end

/-- The replay cache over any run of calls: an id is accepted again only once it has expired or
4096 other ids were accepted after it; the cache is the last part of what was accepted, in
order; a refused hello at most drops expired ids. -/
theorem replay_cache_safe {crypto : Crypto} {identity : SecureIdentity} {devices : Dict PyStr (Fixed 32)}
    {s₀ : SecureSessionServer} (hnew : new identity devices = some s₀) {ops : List Op}
    (hclock : SteadyClock ops) :
    (∀ pre mid post sid t t',
      acceptances crypto s₀ ops = (pre ++ (sid, t) :: mid) ++ (sid, t') :: post →
        t + sessionIdReplayTtlSeconds ≤ t' ∨ maxUsedSessionIds ≤ (others sid mid).length) ∧
    ((machine crypto s₀).run ops).usedSessionIds.entries <:+ acceptances crypto s₀ ops ∧
    ((machine crypto s₀).run ops).usedSessionIds.entries.Pairwise (fun a b => a.2 ≤ b.2) ∧
    ((machine crypto s₀).run ops).usedSessionIds.size ≤ maxUsedSessionIds ∧
    (∀ payload now ephemeralPrivateKey nonce e,
      (((machine crypto s₀).run ops).acceptClientHello crypto payload now ephemeralPrivateKey nonce).2 =
        .error e →
      ∃ kept removed,
        (((machine crypto s₀).run ops).acceptClientHello crypto payload now ephemeralPrivateKey nonce).1 =
          { (machine crypto s₀).run ops with usedSessionIds := kept } ∧
        ((machine crypto s₀).run ops).usedSessionIds.entries = removed ++ kept.entries ∧
        ∀ x ∈ removed, x.2 + sessionIdReplayTtlSeconds ≤ now) := by
  have h0 : s₀.usedSessionIds = Dict.empty := by
    obtain ⟨copied, -, rfl⟩ := Option.map_eq_some_iff.mp hnew
    rfl
  obtain ⟨c, hc⟩ := (ops.filterMap Op.now?).toFinset.exists_le
  obtain ⟨gone, htracks⟩ : ∃ gone, Tracks maxUsedSessionIds (acceptances crypto s₀ ops) _ _ gone :=
    run_tracks h0 hclock (fun n hn => hc n (List.mem_toFinset.mpr hn))
  have hsuffix : ((machine crypto s₀).run ops).usedSessionIds.entries <:+ acceptances crypto s₀ ops :=
    ⟨gone, htracks.split.symm⟩
  refine ⟨?_, hsuffix, ?_, htracks.size, ?_⟩
  · intro pre mid post sid t t' h
    exact accepted_again h0 hclock h
  · have htimes : ((acceptances crypto s₀ ops).map Prod.snd).Pairwise (· ≤ ·) :=
      hclock.sublist (acceptances_times ops)
    exact (List.pairwise_map.mp htimes).sublist hsuffix.sublist
  · intro payload now ephemeralPrivateKey nonce e he
    exact refused_keeps he

def pipaDevices : Dict PyStr (Fixed 32) :=
  Dict.empty.set (PyStr.ofString "pipa-1") (pipaIdentity.publicKey .checksum)

def pcServer : SecureSessionServer := ⟨pcIdentity, pipaDevices, Dict.empty⟩

/-- One hello, delivered at three times. -/
def replayRun : List Op :=
  [.accept (.dict pipaHello.asDict) 0 pcEphemeral pcNonce,
   .accept (.dict pipaHello.asDict) 10 pcEphemeral pcNonce,
   .accept (.dict pipaHello.asDict) 1800 pcEphemeral pcNonce]

theorem replay_cache_safe_replayRun :
    acceptances .checksum pcServer replayRun = [(PyStr.ofString "s1", 0), (PyStr.ofString "s1", 1800)] ∧
    ((0 : ℚ) + sessionIdReplayTtlSeconds ≤ 1800 ∨
      maxUsedSessionIds ≤ (others (PyStr.ofString "s1") ([] : List (PyStr × ℚ))).length) := by
  have hrun : acceptances .checksum pcServer replayRun =
      [(PyStr.ofString "s1", 0), (PyStr.ofString "s1", 1800)] := by
    decide +kernel
  have hclock : SteadyClock replayRun := by
    show List.Pairwise (· ≤ ·) [(0 : ℚ), 10, 1800]
    norm_num
  have hnew : new pcIdentity pipaDevices = some pcServer := rfl
  exact ⟨hrun, (replay_cache_safe hnew hclock).1 [] [] [] _ _ _ hrun⟩

end SecureSessionServer

end Pipa.Secure
