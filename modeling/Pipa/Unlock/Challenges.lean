import Pipa.Secure.Handshake
import Pipa.Unlock.Protocol

/- Runs of the verifier. What has been issued and verified is read off the outputs
   of a run; `Authorized` ties it to the two maps: a pending challenge was issued
   and not verified, a consumed id was verified. That is what makes a challenge
   good for one verification even after its id has left the consumed map, since
   nothing but `create_challenge` puts a challenge into the pending map. -/
namespace Pipa.Unlock
open Pipa.Lib Pipa.Secure

namespace AuthorizationVerifier

/-! ## Runs -/

inductive Op where
  | register (deviceId : PyStr) (publicKey : Fixed 32)
  | revoke (deviceId : PyStr)
  | create (deviceId : PyStr) (now ttlSeconds : Int) (operation : PyStr) (idBytes : Fixed 16) (nonce : Fixed 32)
  | verify (response : SignedChallenge) (now : Int)

inductive Out where
  | registered (result : Except VerifierError Unit)
  | revoked
  | created (result : Except VerifierError Challenge)
  | verified (result : Except VerifierError VerifiedAuthorization)

section
variable (verify : Fixed 32 → Fixed 64 → Bytes → Bool)

def step (v : AuthorizationVerifier) : Op → AuthorizationVerifier × Out
  | .register deviceId publicKey =>
    let r := v.registerDevice deviceId publicKey
    (r.1, .registered r.2)
  | .revoke deviceId => (v.revokeDevice deviceId, .revoked)
  | .create deviceId now ttlSeconds operation idBytes nonce =>
    let r := v.createChallenge deviceId now ttlSeconds operation idBytes nonce
    (r.1, .created r.2)
  | .verify response now =>
    let r := v.verifyResponse verify response now
    (r.1, .verified r.2)

/-- A verifier that starts with these devices. -/
def machine (devices : Dict PyStr (Fixed 32)) (skew : Int) : Machine AuthorizationVerifier Op Out where
  init := ⟨devices, Dict.empty, Dict.empty, skew⟩
  step := step verify

end

/-- The random bytes a call draws for a challenge id. -/
def Op.drawn : Op → Option (Fixed 16)
  | .create _ _ _ _ idBytes _ => some idBytes
  | _ => none

def Out.issued : Out → Option Challenge
  | .created (.ok c) => some c
  | _ => none

def Out.authorization : Out → Option VerifiedAuthorization
  | .verified (.ok a) => some a
  | _ => none

/-- The ids drawn in a run. -/
def drawnIds (ops : List Op) : List (Fixed 16) := ops.filterMap Op.drawn

/-- The challenges that were issued. -/
def issued (outs : List Out) : List Challenge := outs.filterMap Out.issued

/-- The ids of the challenges that were verified. -/
def verifiedIds (outs : List Out) : List PyStr :=
  (outs.filterMap Out.authorization).map VerifiedAuthorization.challengeId

theorem issued_concat (outs : List Out) (o : Out) : issued (outs ++ [o]) = issued outs ++ o.issued.toList := by
  unfold issued
  rw [List.filterMap_append]
  cases h : o.issued <;> simp [h]

theorem verifiedIds_concat (outs : List Out) (o : Out) :
    verifiedIds (outs ++ [o]) = verifiedIds outs ++ (o.authorization.map (·.challengeId)).toList := by
  unfold verifiedIds
  rw [List.filterMap_append, List.map_append]
  cases h : o.authorization <;> simp [h]

/-! ## The invariant -/

section
variable {verify : Fixed 32 → Fixed 64 → Bytes → Bool} {devices : Dict PyStr (Fixed 32)} {skew : Int}

/-- The challenge id of the drawn bytes. -/
def idText (b : Fixed 16) : PyStr := encode b.val

theorem idText_inj {a b : Fixed 16} (h : idText a = idText b) : a = b := Subtype.ext (encode_inj h)

/-- What a history of inputs and outputs has to do with the verifier it leaves. -/
structure Authorized (ids : List (Fixed 16)) (outs : List Out) (v : AuthorizationVerifier) : Prop where
  oneUse : OneUse Challenge.challengeId (ids.map idText) (issued outs) (verifiedIds outs) v.pending v.consumed
  pendingLimit : v.pending.size ≤ maxPendingChallenges
  deviceLimit : ∀ deviceId, v.pendingFor deviceId ≤ maxPendingPerDevice
  consumedLimit : v.consumed.size ≤ maxConsumedChallenges

namespace Authorized
variable {ids : List (Fixed 16)} {outs : List Out} {v v' : AuthorizationVerifier} {o : Out} {now : Int}

theorem keys (h : Authorized ids outs v) : ∀ id c, v.pending.get? id = some c → c.challengeId = id :=
  h.oneUse.keys

/-- An output that issues and verifies nothing, with entries dropped at most. -/
theorem pruned (h : Authorized ids outs v) (hp : Pruned v v' now) (hissued : o.issued = none)
    (hauth : o.authorization = none) (more : List (Fixed 16)) :
    Authorized (ids ++ more) (outs ++ [o]) v' := by
  have hsize := hp.size_le
  refine ⟨?_, Nat.le_trans hsize.1 h.pendingLimit, ?_, Nat.le_trans hsize.2.1 h.consumedLimit⟩
  · rw [issued_concat, verifiedIds_concat, hissued, hauth, List.map_append]
    simp only [Option.map_none, Option.toList_none, List.append_nil]
    exact h.oneUse.drop hp.pending_sub hp.consumed_sub _
  · exact fun deviceId => Nat.le_trans (hsize.2.2 deviceId) (h.deviceLimit deviceId)

/-- Only the trusted devices changed. -/
theorem trusted (h : Authorized ids outs v) (devices' : Dict PyStr (Fixed 32)) (hissued : o.issued = none)
    (hauth : o.authorization = none) :
    Authorized (ids ++ []) (outs ++ [o]) { v with trustedDevices := devices' } := by
  have hp := h.pruned (Pruned.refl v 0) hissued hauth []
  exact ⟨hp.oneUse, hp.pendingLimit, hp.deviceLimit, hp.consumedLimit⟩

/-- A challenge is issued under a fresh id. -/
theorem created (h : Authorized ids outs v) (hp : Pruned v v' now) {c : Challenge} {b : Fixed 16}
    (hid : c.challengeId = idText b) (hb : b ∉ ids) (hsize : v'.pending.size < maxPendingChallenges)
    (hdevice : v'.pendingFor c.deviceId < maxPendingPerDevice) :
    Authorized (ids ++ [b]) (outs ++ [.created (.ok c)])
      { v' with pending := v'.pending.set c.challengeId c } := by
  have hfresh : c.challengeId ∉ ids.map idText := by
    rw [hid]
    intro hmem
    obtain ⟨b', hb', heq⟩ := List.mem_map.mp hmem
    exact hb (idText_inj heq ▸ hb')
  have hnone : v'.pending.get? c.challengeId = none := hp.pending_sub.none (h.oneUse.fresh hfresh).1
  refine ⟨?_, ?_, ?_, Nat.le_trans hp.size_le.2.1 h.consumedLimit⟩
  · have hissue := h.oneUse.issue hp.pending_sub hp.consumed_sub hfresh
    rw [issued_concat, verifiedIds_concat, List.map_append, List.map_singleton, ← hid]
    simpa only [Out.issued, Out.authorization, Option.map_none, Option.toList_none, Option.toList_some,
      List.append_nil] using hissue
  · show (v'.pending.set c.challengeId c).size ≤ maxPendingChallenges
    rw [Dict.size_set_new hnone]
    omega
  · intro deviceId
    have hle := Nat.le_trans (hp.size_le.2.2 deviceId) (h.deviceLimit deviceId)
    simp only [pendingFor, Dict.values, Dict.entries_set_new hnone, List.map_append, List.filter_append,
      List.length_append, List.map_cons, List.map_nil] at hdevice hle ⊢
    by_cases heq : c.deviceId = deviceId
    · subst heq
      simp only [List.filter_singleton, decide_true, cond_true, List.length_singleton]
      exact hdevice
    · simp only [List.filter_singleton, heq, decide_false, cond_false, List.length_nil]
      exact hle

/-- A pending challenge is verified: it leaves the pending map and its id is recorded. -/
theorem consume (h : Authorized ids outs v) (hp : Pruned v v' now) {c : Challenge} {id : PyStr}
    (hc : v.pending.get? id = some c) (hunused : v.consumed.get? id = none) {a : VerifiedAuthorization}
    (ha : a.challengeId = id) :
    Authorized (ids ++ []) (outs ++ [.verified (.ok a)])
      { v' with
          pending := v'.pending.erase id
          consumed := v'.consumed.enter maxConsumedChallenges id c.expiresAt } := by
  have herased : (v'.pending.erase id).Sub v'.pending := Dict.sub_filter _ _
  refine ⟨?_, ?_, ?_, ?_⟩
  · rw [issued_concat, verifiedIds_concat, List.append_nil]
    simp only [Out.issued, Out.authorization, Option.map_some, Option.toList_none, Option.toList_some,
      List.append_nil, ha]
    refine h.oneUse.spend (herased.trans hp.pending_sub) hc (by rw [Dict.get?_erase, if_pos rfl]) ?_
    intro k t ht
    refine (Dict.enter_keys ht).imp_right (fun hk => ⟨t, hp.consumed_sub k t hk⟩)
  · exact Nat.le_trans (Dict.size_filter_le _) (Nat.le_trans hp.size_le.1 h.pendingLimit)
  · intro deviceId
    refine Nat.le_trans ?_ (Nat.le_trans (hp.size_le.2.2 deviceId) (h.deviceLimit deviceId))
    exact ((List.filter_sublist.map Prod.snd).filter _).length_le
  · exact Dict.size_enter_le (by decide) (Nat.le_trans hp.size_le.2.1 h.consumedLimit)
      (hp.consumed_sub.none hunused) _

end Authorized

theorem drawnIds_concat (ops : List Op) (op : Op) : drawnIds (ops ++ [op]) = drawnIds ops ++ op.drawn.toList := by
  unfold drawnIds
  rw [List.filterMap_append]
  cases h : op.drawn <;> simp [h]

theorem Authorized.step {ids : List (Fixed 16)} {outs : List Out} {v : AuthorizationVerifier}
    (h : Authorized ids outs v) (op : Op) (hfresh : (ids ++ op.drawn.toList).Nodup) :
    Authorized (ids ++ op.drawn.toList) (outs ++ [(v.step verify op).2]) (v.step verify op).1 := by
  cases op with
  | register deviceId publicKey =>
    simp only [AuthorizationVerifier.step, registerDevice]
    split
    · exact h.pruned (Pruned.refl v 0) rfl rfl []
    · exact h.trusted _ rfl rfl
  | revoke deviceId => exact h.trusted _ rfl rfl
  | create deviceId now ttlSeconds operation idBytes nonce =>
    obtain ⟨v', e, heq, hp, -⟩ | ⟨v', c, heq, hp, hid, hdevice, -, -, hsize, hcount⟩ :=
      createChallenge_cases v deviceId now ttlSeconds operation idBytes nonce
    · simp only [AuthorizationVerifier.step, heq]
      exact h.pruned hp rfl rfl [idBytes]
    · simp only [AuthorizationVerifier.step, heq]
      have hnot : idBytes ∉ ids := by
        intro hmem
        exact (List.nodup_append.mp hfresh).2.2 idBytes hmem idBytes (by simp [Op.drawn]) rfl
      exact h.created hp hid hnot hsize (hdevice ▸ hcount)
  | verify response now =>
    obtain ⟨v', e, heq, hp, -⟩ | ⟨v', c, a, heq, hp, hverified⟩ :=
      verifyResponse_cases verify v response now h.keys
    · simp only [AuthorizationVerifier.step, heq]
      exact h.pruned hp rfl rfl []
    · simp only [AuthorizationVerifier.step, heq]
      refine h.consume hp hverified.pending hverified.unused ?_
      rw [hverified.result]
      exact h.keys _ c hverified.pending

theorem run_authorized {ops : List Op} (hfresh : (drawnIds ops).Nodup) :
    Authorized (drawnIds ops) ((machine verify devices skew).outs ops) ((machine verify devices skew).run ops) := by
  induction ops using List.reverseRecOn with
  | nil => exact ⟨OneUse.empty, Nat.zero_le _, fun _ => Nat.zero_le _, Nat.zero_le _⟩
  | append_singleton pre op ih =>
    rw [drawnIds_concat] at hfresh ⊢
    rw [Machine.run_concat, Machine.outs_concat]
    exact (ih (List.nodup_append.mp hfresh).1).step op hfresh

/-- A call never fails on a deletion. -/
theorem Authorized.no_keyError {ids : List (Fixed 16)} {outs : List Out} {v : AuthorizationVerifier}
    (h : Authorized ids outs v) (op : Op) :
    (v.step verify op).2 ≠ .created (.error .keyError) ∧ (v.step verify op).2 ≠ .verified (.error .keyError) := by
  cases op with
  | register deviceId publicKey => exact ⟨Out.noConfusion, Out.noConfusion⟩
  | revoke deviceId => exact ⟨Out.noConfusion, Out.noConfusion⟩
  | create deviceId now ttlSeconds operation idBytes nonce =>
    refine ⟨?_, Out.noConfusion⟩
    obtain ⟨v', e, heq, -, hne⟩ | ⟨v', c, heq, -⟩ :=
      createChallenge_cases v deviceId now ttlSeconds operation idBytes nonce
    · simp only [AuthorizationVerifier.step, heq]
      intro hout
      exact hne (Except.error.inj (Out.created.inj hout))
    · simp only [AuthorizationVerifier.step, heq]
      intro hout
      cases Out.created.inj hout
  | verify response now =>
    refine ⟨Out.noConfusion, ?_⟩
    obtain ⟨v', e, heq, -, hne⟩ | ⟨v', c, a, heq, -⟩ := verifyResponse_cases verify v response now h.keys
    · simp only [AuthorizationVerifier.step, heq]
      intro hout
      exact hne (Except.error.inj (Out.verified.inj hout))
    · simp only [AuthorizationVerifier.step, heq]
      intro hout
      cases Out.verified.inj hout

/-- Challenge authorization, over every run whose challenge ids are drawn fresh: a challenge is
verified at most once, and only as it was issued, before it expires and under the key trusted then;
the two maps are disjoint and bounded; no deletion fails; and a failed verification drops expired
entries at most. -/
theorem challenge_authorization (verify : Fixed 32 → Fixed 64 → Bytes → Bool) (devices : Dict PyStr (Fixed 32))
    (skew : Int) {ops : List Op} (hfresh : (drawnIds ops).Nodup) :
    let m := machine verify devices skew
    (verifiedIds (m.outs ops)).Nodup ∧
    (∀ pre response now post a, ops = pre ++ .verify response now :: post →
      m.out pre (.verify response now) = .verified (.ok a) →
      ∃ c ∈ issued (m.outs pre), c.challengeId = response.challengeId ∧ c.deviceId = response.deviceId ∧
        a = ⟨c.challengeId, c.deviceId, c.operation, now, c.expiresAt⟩ ∧ now < c.expiresAt ∧
        ∃ key message, (m.run pre).trustedDevices.get? c.deviceId = some key ∧
          c.signingBytes = some message ∧ verify key response.signature message = true) ∧
    (∀ id, (m.run ops).pending.get? id = none ∨ (m.run ops).consumed.get? id = none) ∧
    (m.run ops).pending.size ≤ maxPendingChallenges ∧
    (∀ deviceId, (m.run ops).pendingFor deviceId ≤ maxPendingPerDevice) ∧
    (m.run ops).consumed.size ≤ maxConsumedChallenges ∧
    (∀ pre op post, ops = pre ++ op :: post →
      m.out pre op ≠ .created (.error .keyError) ∧ m.out pre op ≠ .verified (.error .keyError)) ∧
    (∀ pre response now post e, ops = pre ++ .verify response now :: post →
      m.out pre (.verify response now) = .verified (.error e) →
      Pruned (m.run pre) (m.run (pre ++ [.verify response now])) now) := by
  intro m
  have hpre : ∀ pre op post, ops = pre ++ op :: post → Authorized (drawnIds pre) (m.outs pre) (m.run pre) := by
    intro pre op post hops
    refine run_authorized ?_
    rw [hops, drawnIds, List.filterMap_append] at hfresh
    exact (List.nodup_append.mp hfresh).1
  have h : Authorized (drawnIds ops) (m.outs ops) (m.run ops) := run_authorized hfresh
  refine ⟨h.oneUse.once, ?_, h.oneUse.disjoint, h.pendingLimit, h.deviceLimit, h.consumedLimit, ?_, ?_⟩
  · intro pre response now post a hops hout
    have hauth := hpre pre _ post hops
    obtain ⟨v', e, heq, -⟩ | ⟨v', c, a', heq, -, hverified⟩ :=
      verifyResponse_cases verify (m.run pre) response now hauth.keys
    · simp only [Machine.out, m, machine, step] at hout heq
      rw [heq] at hout
      cases Out.verified.inj hout
    · simp only [Machine.out, m, machine, step] at hout heq
      rw [heq] at hout
      obtain rfl := Except.ok.inj (Out.verified.inj hout)
      exact ⟨c, hauth.oneUse.wasIssued _ c hverified.pending, hauth.keys _ c hverified.pending, hverified.device.symm,
        hverified.result, hverified.live, hverified.signed⟩
  · intro pre op post hops
    exact (hpre pre op post hops).no_keyError op
  · intro pre response now post e hops hout
    obtain ⟨v', e', heq, hp, -⟩ | ⟨v', c, a, heq, -⟩ :=
      verifyResponse_cases verify (m.run pre) response now (hpre pre _ post hops).keys
    · rw [Machine.run_concat]
      simp only [m, machine, step] at heq ⊢
      rw [heq]
      exact hp
    · simp only [Machine.out, m, machine, step] at hout heq
      rw [heq] at hout
      cases Out.verified.inj hout

end

/-- The keys of one device. -/
def pipaDevices : Dict PyStr (Fixed 32) := Dict.empty.set (PyStr.ofString "pipa-1") pipaEphemeral

def pipaChallenge : Challenge :=
  (Challenge.new (encode (List.replicate 16 1)) (PyStr.ofString "pipa-1") (encode (List.replicate 32 2)) 100 130
    unlockOperation).get (by decide)

/-- The device's answer to it. -/
def pipaResponse : SignedChallenge where
  challengeId := encode (List.replicate 16 1)
  deviceId := PyStr.ofString "pipa-1"
  signature := Crypto.checksum.sign pipaEphemeral (pipaChallenge.signingBytes.getD [])
  valid := by decide

/-- A challenge that is answered twice. -/
def pipaOps : List Op :=
  [.create (PyStr.ofString "pipa-1") 100 30 unlockOperation (.fill 16 1) (.fill 32 2),
   .verify pipaResponse 110, .verify pipaResponse 111]

theorem challenge_authorization_pipaOps :
    verifiedIds ((machine Crypto.checksum.verify pipaDevices 5).outs pipaOps) = [encode (List.replicate 16 1)] ∧
    (verifiedIds ((machine Crypto.checksum.verify pipaDevices 5).outs pipaOps)).Nodup :=
  ⟨by decide +kernel, (challenge_authorization Crypto.checksum.verify pipaDevices 5 (by decide)).1⟩

end AuthorizationVerifier

end Pipa.Unlock
