import Pipa.Lib.OneUse
import Pipa.Secure.Session

/- `AuthorizationVerifier` (`trusted_unlock_protocol.py`): one-time challenges for
   paired devices.

   The clock is an argument of every call (`int(now)`), and so is what is drawn at
   random. A `del` of a key that is not there is an error of its own (`keyError`),
   which no run reaches. Ed25519 verification is the parameter `verify`. -/
namespace Pipa.Unlock
open Pipa.Lib Pipa.Secure

/-! ## Challenges and responses -/

def protocolVersion : Int := 1
def audience : PyStr := PyStr.ofString "pipa-trusted-unlock"
def unlockOperation : PyStr := PyStr.ofString "unlock"
def defaultTtlSeconds : Int := 30
def maxTtlSeconds : Int := 60
def defaultClockSkewSeconds : Int := 5
def nonceBytes : Nat := 32
def maxPendingChallenges : Nat := 256
def maxPendingPerDevice : Nat := 8
def maxConsumedChallenges : Nat := 4096

/-- `_IDENTIFIER_PATTERN`: `^[A-Za-z0-9_.:-]{1,128}$`. -/
def isUnlockIdentifier (s : PyStr) : Bool :=
  1 ≤ s.length && s.length ≤ 128 && s.all (fun c => idCode c.val || c.val == 46 || c.val == 58)

/-- `_decode_base64url`: at most two padding characters are taken off, the rest is read leniently. -/
def decodeBase64url (value : PyStr) : Option Bytes :=
  let core := value.takeWhile (fun c => idCode c.val)
  let padding := value.dropWhile (fun c => idCode c.val)
  if core.isEmpty || padding.length > 2 || padding.any (fun c => c.val ≠ 61) then none
  else Base64Url.decodeCodes (core.map CodePoint.val)

/-- What `Challenge.__post_init__` checks. -/
def checkChallenge (challengeId deviceId nonce : PyStr) (issuedAt expiresAt : Int) (operation aud : PyStr)
    (version : Int) : Bool :=
  isUnlockIdentifier challengeId && isUnlockIdentifier deviceId && isUnlockIdentifier operation &&
    isUnlockIdentifier aud && version = protocolVersion && issuedAt < expiresAt &&
    (decodeBase64url nonce).any (fun b => b.length = nonceBytes)

structure Challenge where
  challengeId : PyStr
  deviceId : PyStr
  nonce : PyStr
  issuedAt : Int
  expiresAt : Int
  operation : PyStr
  audience : PyStr
  protocolVersion : Int
  valid : checkChallenge challengeId deviceId nonce issuedAt expiresAt operation audience protocolVersion = true

/-- The constructor of `Challenge`, with its defaults; `none` is its `ValueError`. -/
def Challenge.new (challengeId deviceId nonce : PyStr) (issuedAt expiresAt : Int) (operation : PyStr) :
    Option Challenge :=
  if h : checkChallenge challengeId deviceId nonce issuedAt expiresAt operation Unlock.audience
      Unlock.protocolVersion = true then
    some ⟨challengeId, deviceId, nonce, issuedAt, expiresAt, operation, Unlock.audience,
      Unlock.protocolVersion, h⟩
  else none

def Challenge.asDict (c : Challenge) : Object :=
  [(PyStr.ofString "audience", .str c.audience), (PyStr.ofString "challenge_id", .str c.challengeId),
   (PyStr.ofString "device_id", .str c.deviceId), (PyStr.ofString "expires_at", .int c.expiresAt),
   (PyStr.ofString "issued_at", .int c.issuedAt), (PyStr.ofString "nonce", .str c.nonce),
   (PyStr.ofString "operation", .str c.operation), (PyStr.ofString "protocol_version", .int c.protocolVersion)]

/-- `Challenge.signing_bytes`. -/
def Challenge.signingBytes (c : Challenge) : Option Bytes := canonical c.asDict

/-- `SignedChallenge`, with the bytes its signature text decodes to. -/
structure SignedChallenge where
  challengeId : PyStr
  deviceId : PyStr
  signature : Fixed 64
  valid : isUnlockIdentifier challengeId = true ∧ isUnlockIdentifier deviceId = true

structure VerifiedAuthorization where
  challengeId : PyStr
  deviceId : PyStr
  operation : PyStr
  verifiedAt : Int
  expiresAt : Int
  deriving DecidableEq

/-- The `TrustedUnlockError`s, the `ValueError` of a bad argument and the `KeyError` of a `del`. -/
inductive VerifierError where
  | unknownDevice | unknownChallenge | mismatch | expired | invalidResponse | replay | limit
  | valueError | keyError
  deriving DecidableEq

/-! ## The verifier -/

structure AuthorizationVerifier where
  trustedDevices : Dict PyStr (Fixed 32)
  pending : Dict PyStr Challenge
  consumed : Dict PyStr Int
  clockSkewSeconds : Int

namespace AuthorizationVerifier

/-- `register_device`. -/
def registerDevice (v : AuthorizationVerifier) (deviceId : PyStr) (publicKey : Fixed 32) :
    AuthorizationVerifier × Except VerifierError Unit :=
  if !isUnlockIdentifier deviceId then (v, .error .valueError)
  else ({ v with trustedDevices := v.trustedDevices.set deviceId publicKey }, .ok ())

/-- `revoke_device`. -/
def revokeDevice (v : AuthorizationVerifier) (deviceId : PyStr) : AuthorizationVerifier :=
  { v with trustedDevices := v.trustedDevices.erase deviceId }

/-- `_prune`; `none` is the `KeyError` of a deletion. -/
def prune (v : AuthorizationVerifier) (now : Int) : Option AuthorizationVerifier := do
  let expiredPending := (v.pending.entries.filter (fun e => e.2.expiresAt ≤ now)).map Prod.fst
  let pending ← v.pending.delAll expiredPending
  let expiredConsumed := (v.consumed.entries.filter (fun e => e.2 ≤ now)).map Prod.fst
  let consumed ← v.consumed.delAll expiredConsumed
  some { v with pending := pending, consumed := consumed }

/-- The challenges pending for one device. -/
def pendingFor (v : AuthorizationVerifier) (deviceId : PyStr) : Nat :=
  (v.pending.values.filter (fun c => c.deviceId = deviceId)).length

/-- `create_challenge`; `idBytes` and `nonce` are drawn at random. -/
def createChallenge (v : AuthorizationVerifier) (deviceId : PyStr) (now ttlSeconds : Int) (operation : PyStr)
    (idBytes : Fixed 16) (nonce : Fixed 32) : AuthorizationVerifier × Except VerifierError Challenge :=
  if !isUnlockIdentifier deviceId || !isUnlockIdentifier operation then (v, .error .valueError)
  else if ttlSeconds < 1 || ttlSeconds > maxTtlSeconds then (v, .error .valueError)
  else match Challenge.new (encode idBytes.val) deviceId (encode nonce.val) now (now + ttlSeconds) operation with
    | none => (v, .error .valueError)
    | some challenge =>
      match v.prune now with
      | none => (v, .error .keyError)
      | some v =>
        if !v.trustedDevices.contains deviceId then (v, .error .unknownDevice)
        else if v.pending.size ≥ maxPendingChallenges || v.pendingFor deviceId ≥ maxPendingPerDevice then
          (v, .error .limit)
        else ({ v with pending := v.pending.set challenge.challengeId challenge }, .ok challenge)

/-- `public_key.verify` of a response; a failure to encode the challenge is caught as well. -/
def verifies (verify : Fixed 32 → Fixed 64 → Bytes → Bool) (publicKey : Fixed 32) (response : SignedChallenge)
    (challenge : Challenge) : Bool :=
  challenge.signingBytes.any (fun message => verify publicKey response.signature message)

/-- The end of `verify_response`, once the signature has been found valid. -/
def consume (v : AuthorizationVerifier) (challenge : Challenge) (verifiedAt : Int) :
    AuthorizationVerifier × Except VerifierError VerifiedAuthorization :=
  match v.pending.del challenge.challengeId with
  | none => (v, .error .keyError)
  | some pending =>
    ({ v with
        pending := pending
        consumed := v.consumed.enter maxConsumedChallenges challenge.challengeId challenge.expiresAt },
      .ok ⟨challenge.challengeId, challenge.deviceId, challenge.operation, verifiedAt, challenge.expiresAt⟩)

/-- `verify_response`. -/
def verifyResponse (verify : Fixed 32 → Fixed 64 → Bytes → Bool) (v : AuthorizationVerifier)
    (response : SignedChallenge) (verifiedAt : Int) :
    AuthorizationVerifier × Except VerifierError VerifiedAuthorization :=
  if v.consumed.contains response.challengeId then (v, .error .replay)
  else match v.pending.get? response.challengeId with
    | none =>
      match v.prune verifiedAt with
      | none => (v, .error .keyError)
      | some v => (v, .error .unknownChallenge)
    | some challenge =>
      if verifiedAt ≥ challenge.expiresAt then
        match (v.pending.del challenge.challengeId).bind
            (fun pending => prune { v with pending := pending } verifiedAt) with
        | none => (v, .error .keyError)
        | some v => (v, .error .expired)
      else match v.prune verifiedAt with
        | none => (v, .error .keyError)
        | some v =>
          if response.deviceId ≠ challenge.deviceId then (v, .error .mismatch)
          else if verifiedAt < challenge.issuedAt - v.clockSkewSeconds then (v, .error .expired)
          else match v.trustedDevices.get? challenge.deviceId with
            | none => (v, .error .unknownDevice)
            | some publicKey =>
              if verifies verify publicKey response challenge then v.consume challenge verifiedAt
              else (v, .error .invalidResponse)

/-! ## What one call does -/

section
variable {v v' : AuthorizationVerifier} {now : Int}

/-- No deletion of `_prune` fails; the unexpired entries stay. -/
theorem prune_eq (v : AuthorizationVerifier) (now : Int) :
    v.prune now = some { v with
      pending := v.pending.filter (fun _ c => !decide (c.expiresAt ≤ now))
      consumed := v.consumed.filter (fun _ expiresAt => !decide (expiresAt ≤ now)) } := by
  simp only [prune, Dict.delAll_filter (fun _ c => decide (Challenge.expiresAt c ≤ now)),
    Dict.delAll_filter (fun _ (expiresAt : Int) => decide (expiresAt ≤ now)), Option.bind_eq_bind,
    Option.bind_some]

/-- `v'` is `v` without some entries that are expired at `now`. -/
structure Pruned (v v' : AuthorizationVerifier) (now : Int) : Prop where
  trusted : v'.trustedDevices = v.trustedDevices
  skew : v'.clockSkewSeconds = v.clockSkewSeconds
  pending : ∃ p : PyStr → Challenge → Bool, v'.pending = v.pending.filter p
  pendingKept : ∀ id c, v.pending.get? id = some c → now < c.expiresAt → v'.pending.get? id = some c
  consumed : ∃ p : PyStr → Int → Bool, v'.consumed = v.consumed.filter p
  consumedKept : ∀ id e, v.consumed.get? id = some e → now < e → v'.consumed.get? id = some e

theorem Pruned.refl (v : AuthorizationVerifier) (now : Int) : Pruned v v now where
  trusted := rfl
  skew := rfl
  pending := ⟨fun _ _ => true, Dict.ext_entries (by simp [Dict.filter])⟩
  pendingKept _ _ h _ := h
  consumed := ⟨fun _ _ => true, Dict.ext_entries (by simp [Dict.filter])⟩
  consumedKept _ _ h _ := h

theorem Pruned.of_prune (v : AuthorizationVerifier) (now : Int) :
    ∃ v', v.prune now = some v' ∧ Pruned v v' now := by
  refine ⟨_, prune_eq v now, rfl, rfl, ⟨fun _ c => !decide (c.expiresAt ≤ now), rfl⟩, ?_,
    ⟨fun _ e => !decide (e ≤ now), rfl⟩, ?_⟩
  · intro id c hc hlt
    exact Dict.get?_filter_some.mpr ⟨hc, by simpa using hlt⟩
  · intro id e he hlt
    exact Dict.get?_filter_some.mpr ⟨he, by simpa using hlt⟩

/-- The same after one expired challenge has been deleted by itself. -/
theorem Pruned.of_erase {id : PyStr} {c : Challenge} (hc : v.pending.get? id = some c) (hexpired : c.expiresAt ≤ now)
    (h : Pruned { v with pending := v.pending.erase id } v' now) : Pruned v v' now where
  trusted := h.trusted
  skew := h.skew
  pending := by
    obtain ⟨p, hp⟩ := h.pending
    refine ⟨fun k x => decide (k ≠ id) && p k x, hp.trans (Dict.ext_entries ?_)⟩
    simp only [Dict.filter, Dict.erase, List.filter_filter]
    exact List.filter_congr (fun e _ => Bool.and_comm _ _)
  pendingKept := by
    intro k x hx hlt
    refine h.pendingKept k x ?_ hlt
    have hne : k ≠ id := by
      rintro rfl
      rw [hc] at hx
      obtain rfl := Option.some.inj hx
      omega
    exact Dict.get?_erase_some.mpr ⟨hne, hx⟩
  consumed := h.consumed
  consumedKept := h.consumedKept

theorem Pruned.pending_sub (h : Pruned v v' now) : v'.pending.Sub v.pending := by
  obtain ⟨p, hp⟩ := h.pending
  rw [hp]
  exact Dict.sub_filter _ p

theorem Pruned.consumed_sub (h : Pruned v v' now) : v'.consumed.Sub v.consumed := by
  obtain ⟨p, hp⟩ := h.consumed
  rw [hp]
  exact Dict.sub_filter _ p

theorem Pruned.size_le (h : Pruned v v' now) :
    v'.pending.size ≤ v.pending.size ∧ v'.consumed.size ≤ v.consumed.size ∧
      ∀ deviceId, v'.pendingFor deviceId ≤ v.pendingFor deviceId := by
  obtain ⟨p, hp⟩ := h.pending
  obtain ⟨q, hq⟩ := h.consumed
  refine ⟨?_, ?_, ?_⟩
  · rw [hp]
    exact Dict.size_filter_le p
  · rw [hq]
    exact Dict.size_filter_le q
  · intro deviceId
    rw [pendingFor, pendingFor, hp]
    exact ((List.filter_sublist.map Prod.snd).filter _).length_le

/-- `create_challenge`: it fails, at most with expired entries dropped, or adds one challenge. -/
theorem createChallenge_cases (v : AuthorizationVerifier) (deviceId : PyStr) (now ttlSeconds : Int)
    (operation : PyStr) (idBytes : Fixed 16) (nonce : Fixed 32) :
    (∃ v' e, v.createChallenge deviceId now ttlSeconds operation idBytes nonce = (v', .error e) ∧
      Pruned v v' now ∧ e ≠ .keyError) ∨
    (∃ v' c, v.createChallenge deviceId now ttlSeconds operation idBytes nonce =
        ({ v' with pending := v'.pending.set c.challengeId c }, .ok c) ∧
      Pruned v v' now ∧ c.challengeId = encode idBytes.val ∧ c.deviceId = deviceId ∧
      c.expiresAt = now + ttlSeconds ∧ c.operation = operation ∧
      v'.pending.size < maxPendingChallenges ∧ v'.pendingFor deviceId < maxPendingPerDevice) := by
  unfold createChallenge
  split
  · exact Or.inl ⟨v, _, rfl, .refl v now, by decide⟩
  split
  · exact Or.inl ⟨v, _, rfl, .refl v now, by decide⟩
  split
  · exact Or.inl ⟨v, _, rfl, .refl v now, by decide⟩
  rename_i challenge hnew
  obtain ⟨v', hprune, hpruned⟩ := Pruned.of_prune v now
  simp only [hprune]
  split
  · exact Or.inl ⟨v', _, rfl, hpruned, by decide⟩
  split
  · exact Or.inl ⟨v', _, rfl, hpruned, by decide⟩
  rename_i hlimit
  simp only [Bool.or_eq_true, decide_eq_true_eq, not_or, Nat.not_le, ge_iff_le] at hlimit
  unfold Challenge.new at hnew
  split at hnew
  · obtain rfl := Option.some.inj hnew
    exact Or.inr ⟨v', _, rfl, hpruned, rfl, rfl, rfl, rfl, hlimit.1, hlimit.2⟩
  · cases hnew

/-- What was encoded has a base64url form for the verifier, too. -/
theorem decodeBase64url_encode {b : Bytes} (hne : b ≠ []) : decodeBase64url (encode b) = some b := by
  have hall : (encode b).takeWhile (fun c => idCode c.val) = encode b :=
    List.takeWhile_eq_self_iff.mpr (encode_idCode b)
  have hrest : (encode b).dropWhile (fun c => idCode c.val) = [] :=
    List.dropWhile_eq_nil_iff.mpr (encode_idCode b)
  have hcodes : (encode b).map CodePoint.val = (Base64Url.encodeText b).map Char.toNat := by
    unfold encode
    rw [List.map_map]
    rfl
  have hempty : (encode b).isEmpty = false := by
    rw [List.isEmpty_eq_false_iff, ← List.length_pos_iff, encode_length]
    have := List.length_pos_iff.mpr hne
    omega
  simp only [decodeBase64url, hall, hrest, hempty, hcodes, Base64Url.decodeCodes_encodeText, List.length_nil,
    List.any_nil, Bool.false_or, Bool.or_false, decide_eq_true_eq, Nat.not_lt_zero, if_false]

theorem isUnlockIdentifier_encode {n : Nat} (hpos : 0 < n) (hle : n ≤ 96) (b : Fixed n) :
    isUnlockIdentifier (encode b.val) = true := by
  have hlength := encode_length b.val
  rw [b.property] at hlength
  simp only [isUnlockIdentifier, Bool.and_eq_true, decide_eq_true_eq, List.all_eq_true, Bool.or_eq_true]
  exact ⟨⟨by omega, by omega⟩, fun c hc => Or.inl (Or.inl (encode_idCode b.val c hc))⟩

/-- The verifier has room for another challenge of the device, once it has pruned. -/
def hasRoom (v : AuthorizationVerifier) (now : Int) (deviceId : PyStr) : Bool :=
  (v.prune now).any (fun v => v.pending.size < maxPendingChallenges && v.pendingFor deviceId < maxPendingPerDevice)

/-- A trusted device gets its challenge while there is room. -/
theorem createChallenge_ok {deviceId : PyStr} (hdevice : isUnlockIdentifier deviceId = true)
    (htrusted : v.trustedDevices.contains deviceId = true) (hroom : v.hasRoom now deviceId = true) {operation : PyStr}
    (hoperation : isUnlockIdentifier operation = true) {ttlSeconds : Int} (hpos : 1 ≤ ttlSeconds)
    (hle : ttlSeconds ≤ maxTtlSeconds) (idBytes : Fixed 16) (nonce : Fixed 32) :
    ∃ c, (v.createChallenge deviceId now ttlSeconds operation idBytes nonce).2 = .ok c ∧ c.deviceId = deviceId := by
  have hcheck : checkChallenge (encode idBytes.val) deviceId (encode nonce.val) now (now + ttlSeconds) operation
      Unlock.audience Unlock.protocolVersion = true := by
    have hnonce : nonce.val ≠ [] := by
      intro h0
      have := nonce.property
      rw [h0] at this
      cases this
    simp only [checkChallenge, isUnlockIdentifier_encode (by decide) (by decide) idBytes, hdevice, hoperation,
      show isUnlockIdentifier Unlock.audience = true by decide, Bool.and_eq_true, decide_eq_true_eq, true_and,
      decodeBase64url_encode hnonce, Option.any_some]
    exact ⟨by omega, nonce.property⟩
  obtain ⟨v', hprune, hpruned⟩ := Pruned.of_prune v now
  simp only [hasRoom, hprune, Option.any_some, Bool.and_eq_true, decide_eq_true_eq] at hroom
  have hlimit : (decide (v'.pending.size ≥ maxPendingChallenges) ||
      decide (v'.pendingFor deviceId ≥ maxPendingPerDevice)) = false := by
    simp only [Bool.or_eq_false_iff, decide_eq_false_iff_not, ge_iff_le, Nat.not_le]
    exact hroom
  have httl : (decide (ttlSeconds < 1) || decide (ttlSeconds > maxTtlSeconds)) = false := by
    simp only [Bool.or_eq_false_iff, decide_eq_false_iff_not, gt_iff_lt, Int.not_lt]
    exact ⟨hpos, hle⟩
  rw [← hpruned.trusted] at htrusted
  unfold createChallenge Challenge.new
  simp only [hdevice, hoperation, Bool.not_true, Bool.or_false, Bool.false_eq_true, if_false, httl, hcheck, dite_true,
    hprune, htrusted, hlimit]
  exact ⟨_, rfl, rfl⟩

theorem createChallenge_trusted (v : AuthorizationVerifier) (deviceId : PyStr) (now ttlSeconds : Int)
    (operation : PyStr) (idBytes : Fixed 16) (nonce : Fixed 32) :
    (v.createChallenge deviceId now ttlSeconds operation idBytes nonce).1.trustedDevices = v.trustedDevices := by
  obtain ⟨v', e, heq, hp, -⟩ | ⟨v', c, heq, hp, -⟩ :=
    createChallenge_cases v deviceId now ttlSeconds operation idBytes nonce
  · rw [heq]
    exact hp.trusted
  · rw [heq]
    exact hp.trusted

/-- What a verified response has gone through. -/
structure Verified (verify : Fixed 32 → Fixed 64 → Bytes → Bool) (v : AuthorizationVerifier)
    (response : SignedChallenge) (now : Int) (c : Challenge) (a : VerifiedAuthorization) : Prop where
  unused : v.consumed.get? response.challengeId = none
  pending : v.pending.get? response.challengeId = some c
  device : response.deviceId = c.deviceId
  live : now < c.expiresAt
  signed : ∃ key message, v.trustedDevices.get? c.deviceId = some key ∧ c.signingBytes = some message ∧
    verify key response.signature message = true
  result : a = ⟨c.challengeId, c.deviceId, c.operation, now, c.expiresAt⟩

/-- `verify_response` where every pending challenge is stored under its own id: it fails, at most
with expired entries dropped, or moves one challenge to the consumed ids. -/
theorem verifyResponse_cases (verify : Fixed 32 → Fixed 64 → Bytes → Bool) (v : AuthorizationVerifier)
    (response : SignedChallenge) (now : Int)
    (hkeys : ∀ id c, v.pending.get? id = some c → c.challengeId = id) :
    (∃ v' e, v.verifyResponse verify response now = (v', .error e) ∧ Pruned v v' now ∧ e ≠ .keyError) ∨
    (∃ v' c a, v.verifyResponse verify response now =
        ({ v' with
            pending := v'.pending.erase response.challengeId
            consumed := v'.consumed.enter maxConsumedChallenges response.challengeId c.expiresAt }, .ok a) ∧
      Pruned v v' now ∧ Verified verify v response now c a) := by
  unfold verifyResponse
  split
  · exact Or.inl ⟨v, _, rfl, .refl v now, by decide⟩
  rename_i hconsumed
  split
  · obtain ⟨v', hprune, hpruned⟩ := Pruned.of_prune v now
    simp only [hprune]
    exact Or.inl ⟨v', _, rfl, hpruned, by decide⟩
  rename_i c hc
  have hid := hkeys _ c hc
  split
  · -- the challenge itself has expired
    rename_i hexpired
    rw [hid, Dict.del_eq hc, Option.bind_some]
    obtain ⟨v', hprune, hpruned⟩ := Pruned.of_prune { v with pending := v.pending.erase response.challengeId } now
    simp only [hprune]
    exact Or.inl ⟨v', _, rfl, hpruned.of_erase hc hexpired, by decide⟩
  rename_i hlive
  obtain ⟨v', hprune, hpruned⟩ := Pruned.of_prune v now
  simp only [hprune]
  split
  · exact Or.inl ⟨v', _, rfl, hpruned, by decide⟩
  rename_i hdevice
  split
  · exact Or.inl ⟨v', _, rfl, hpruned, by decide⟩
  split
  · exact Or.inl ⟨v', _, rfl, hpruned, by decide⟩
  rename_i key hkey
  split
  · rename_i hverifies
    have hkept := hpruned.pendingKept _ c hc (by omega)
    right
    refine ⟨v', c, ⟨c.challengeId, c.deviceId, c.operation, now, c.expiresAt⟩, ?_, hpruned, ?_⟩
    · unfold consume
      simp only [hid, Dict.del_eq hkept]
    · obtain ⟨message, hmessage, hsigned⟩ := (Option.any_eq_true _ _).mp hverifies
      rw [hpruned.trusted] at hkey
      refine ⟨?_, hc, not_not.mp hdevice, by omega, ⟨key, message, hkey, hmessage, hsigned⟩, rfl⟩
      simpa [Dict.contains] using hconsumed
  · exact Or.inl ⟨v', _, rfl, hpruned, by decide⟩

/-- Verifying a response does not change who is trusted. -/
theorem verifyResponse_trusted (verify : Fixed 32 → Fixed 64 → Bytes → Bool) (v : AuthorizationVerifier)
    (response : SignedChallenge) (now : Int) :
    (v.verifyResponse verify response now).1.trustedDevices = v.trustedDevices := by
  unfold verifyResponse
  simp only [prune_eq]
  split
  · rfl
  split
  · rfl
  split
  · split
    · rfl
    · rename_i hbind
      obtain ⟨pending, -, hv⟩ := Option.bind_eq_some_iff.mp hbind
      obtain rfl := Option.some.inj hv
      rfl
  split
  · rfl
  split
  · rfl
  split
  · rfl
  split
  · unfold consume
    split
    · rfl
    · rfl
  · rfl

end

end AuthorizationVerifier

end Pipa.Unlock
