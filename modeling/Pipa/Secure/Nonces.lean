import Pipa.Secure.Session

/- No nonce is used twice. In both implementations the counter is the number of
   encryptions made so far, the nonce of an encryption is the counter it was made
   at, and the guard stops before the counter leaves eight bytes. -/
namespace Pipa.Secure
open Pipa.Lib

/-- The nonce that belongs to a sequence number. -/
def nonceOf (noncePrefix : Fixed 4) (sequence : Nat) : Bytes := noncePrefix.val ++ beBytes 8 sequence

theorem nonceOf_inj {p : Fixed 4} {m n : Nat} (hm : m ≤ maxSequence) (hn : n ≤ maxSequence)
    (h : nonceOf p m = nonceOf p n) : m = n := by
  have hmax : maxSequence < 256 ^ 8 := by decide
  exact beBytes_inj (by omega) (by omega) (List.append_cancel_left h)

theorem nonce_eq {p : Fixed 4} {n : Nat} (h : n ≤ maxSequence) :
    SecureSession.nonce p n = some (nonceOf p n) := by
  have hmax : maxSequence < 2 ^ 64 := by decide
  exact if_pos (by omega)

/-- The firmware's byte loop writes the same eight bytes. -/
theorem buildNonce_eq (p : Fixed 4) (n : UInt64) : PipaSecureSession.buildNonce p n = nonceOf p n.toNat := by
  have hbyte (i : Nat) (hi : i < 8) :
      (n >>> UInt64.ofNat (i * 8)).toUInt8 = (n.toNat / 2 ^ (i * 8) % 256).toUInt8 := by
    apply UInt8.toNat_inj.mp
    have hsmall : i * 8 % 2 ^ 64 % 64 = i * 8 := by omega
    simp only [UInt64.toNat_toUInt8, UInt64.toNat_shiftRight, UInt64.toNat_ofNat', hsmall,
      Nat.shiftRight_eq_div_pow, Nat.toUInt8, UInt8.toNat_ofNat']
    omega
  unfold PipaSecureSession.buildNonce nonceOf
  congr 1
  show [7, 6, 5, 4, 3, 2, 1, 0].map _ = _
  simp only [List.map_cons, List.map_nil, hbyte _ (by decide : 7 < 8), hbyte _ (by decide : 6 < 8),
    hbyte _ (by decide : 5 < 8), hbyte _ (by decide : 4 < 8), hbyte _ (by decide : 3 < 8),
    hbyte _ (by decide : 2 < 8), hbyte _ (by decide : 1 < 8), hbyte _ (by decide : 0 < 8)]
  simp only [beBytes, Nat.div_div_eq_div_mul, List.nil_append, List.cons_append]
  simp only [Nat.reduceMul, Nat.reducePow, Nat.div_one]

/-- The header bytes of both sides. -/
def headerOf (sessionId : PyStr) (sequence : Nat) : Bytes :=
  Firmware.headerFor sessionId.bytes (UInt64.ofNat sequence)

theorem canonical_header {sessionId : PyStr} (hs : isIdentifier sessionId = true) {n : Nat}
    (hn : n ≤ maxSequence) : canonical (recordHeader sessionId n) = some (headerOf sessionId n) := by
  have hmax : maxSequence < 2 ^ 64 := by decide
  have hto : (UInt64.ofNat n).toNat = n := by
    rw [UInt64.toNat_ofNat']; omega
  have := recordHeader_canonical (isIdentifier_plain hs) (UInt64.ofNat n)
  rwa [hto] at this

/-! ## What a call does -/

namespace SecureSession
variable (aead : Aead) (s : SecureSession)

/-- The encryption a successful `seal` makes. -/
def encryptionOf (payload additionalData : Bytes) : Encryption :=
  let associatedData := headerOf s.sessionId s.sendSequence ++ additionalData
  let nonce := nonceOf s.sendNoncePrefix s.sendSequence
  ⟨s.sendKey.val, nonce, payload, associatedData,
    aead.encrypt s.sendKey.val nonce payload associatedData⟩

/-- `seal` succeeds. -/
structure CanSeal (payload additionalData : Bytes) : Prop where
  live : s.closed = false
  size : payload.length ≤ maxRecordBytes
  dataSize : additionalData.length ≤ 1024
  sequence : s.sendSequence ≤ maxSequence

theorem sealRecord_ok {payload additionalData : Bytes} (h : s.CanSeal payload additionalData) :
    s.sealRecord aead payload additionalData =
      ({ s with sendSequence := s.sendSequence + 1 },
       ⟨some (s.encryptionOf aead payload additionalData),
        .ok (.dict (sealedFrame s.sessionId s.sendSequence
          (s.encryptionOf aead payload additionalData).ciphertext))⟩) := by
  obtain ⟨h1, h2, h3, h4⟩ := h
  unfold sealRecord
  rw [if_neg (by rw [h1]; exact Bool.false_ne_true), if_neg (by omega), if_neg (by omega),
    if_neg (by omega), nonce_eq h4, canonical_header s.valid h4]
  rfl

/-- A `seal` that does not succeed neither encrypts nor changes the session. -/
theorem sealRecord_fails {payload additionalData : Bytes} (h : ¬ s.CanSeal payload additionalData) :
    ∃ e, s.sealRecord aead payload additionalData = (s, ⟨none, .error e⟩) ∧
      e ∈ [RecordError.closed, .payload, .additionalData, .exhausted] := by
  unfold sealRecord
  split
  · exact ⟨.closed, rfl, by simp⟩
  split
  · exact ⟨.payload, rfl, by simp⟩
  split
  · exact ⟨.additionalData, rfl, by simp⟩
  split
  · exact ⟨.exhausted, rfl, by simp⟩
  · rename_i h1 h2 h3 h4
    exact absurd ⟨Bool.eq_false_iff.mpr h1, by omega, by omega, by omega⟩ h

/-- `open` leaves everything but the receive counter, which only a success moves. -/
theorem openRecord_cases (frame : Value) (additionalData : Bytes) :
    (∃ e, s.openRecord aead frame additionalData = (s, .error e)) ∨
    (∃ payload, s.openRecord aead frame additionalData =
      ({ s with receiveSequence := s.receiveSequence + 1 }, .ok payload)) := by
  unfold openRecord
  split
  · exact Or.inl ⟨_, rfl⟩
  split
  · exact Or.inl ⟨_, rfl⟩
  split
  · exact Or.inl ⟨_, rfl⟩
  · exact Or.inr ⟨_, rfl⟩

/-- What the checks of `open` let through. -/
theorem checkFrame_ok {s : SecureSession} {frame : Value} {ciphertext : Bytes} (h : s.checkFrame frame = .ok ciphertext) :
    s.receiveSequence ≤ maxSequence ∧
    ∃ fields : Object, frame = .dict fields ∧
      ((fields.get? (PyStr.ofString "protocol_version")).getD .null).equalsInt secureProtocolVersion = true ∧
      fields.get? (PyStr.ofString "session_id") = some (.str s.sessionId) ∧
      fields.get? (PyStr.ofString "sequence") = some (.int s.receiveSequence) ∧
      fields.get? (PyStr.ofString "ciphertext") = some (.str (encode ciphertext)) := by
  unfold checkFrame at h
  split at h
  · rename_i fields
    simp only at h
    split at h
    · cases h
    split at h
    · split at h
      · cases h
      split at h
      · split at h
        · cases h
        split at h
        · cases h
        split at h
        · cases h
        · rename_i hversion _ _ hid hsession _ _ hnumber hrange hseq _ c hc
          obtain rfl := Except.ok.inj h
          rw [not_not] at hsession hseq
          subst hsession
          subst hseq
          refine ⟨by omega, fields, rfl, by simpa using hversion, Object.get?_of_getD hid Value.noConfusion,
            Object.get?_of_getD hnumber Value.noConfusion, ?_⟩
          cases hget : Object.get? fields (PyStr.ofString "ciphertext") with
          | none => rw [hget] at hc; cases hc
          | some v =>
            rw [hget] at hc
            cases v with
            | str text =>
              rw [(decodeText_eq_some hc).1]
            | _ => cases hc
      · cases h
    · cases h
  · cases h

/-- The checks of `open` do not fail with the errors of the steps after them. -/
theorem checkFrame_error {s : SecureSession} {frame : Value} {e : RecordError} (h : s.checkFrame frame = .error e) :
    e ∈ [RecordError.notObject, .foreign, .sequence, .replay, .ciphertext] := by
  unfold checkFrame at h
  split at h
  · simp only at h
    split at h
    · obtain rfl := Except.error.inj h; decide
    split at h
    · split at h
      · obtain rfl := Except.error.inj h; decide
      split at h
      · split at h
        · obtain rfl := Except.error.inj h; decide
        split at h
        · obtain rfl := Except.error.inj h; decide
        split at h
        · obtain rfl := Except.error.inj h; decide
        · cases h
      · obtain rfl := Except.error.inj h; decide
    · obtain rfl := Except.error.inj h; decide
  · obtain rfl := Except.error.inj h; decide

/-- The decryption `open` attempts. -/
def decryption (s : SecureSession) (ciphertext additionalData : Bytes) : Option Bytes :=
  aead.decrypt s.receiveKey.val (nonceOf s.receiveNoncePrefix s.receiveSequence) ciphertext
    (headerOf s.sessionId s.receiveSequence ++ additionalData)

/-- Decryption at a sequence number that fits. -/
theorem decryptRecord_eq {s : SecureSession} (h : s.receiveSequence ≤ maxSequence)
    (ciphertext additionalData : Bytes) :
    s.decryptRecord aead ciphertext additionalData =
      if ciphertext.length > maxRecordBytes + 16 then .error .tooLarge
      else if additionalData.length > 1024 then .error .additionalData
      else match s.decryption aead ciphertext additionalData with
        | none => .error .authentication
        | some payload =>
          if payload.length > maxRecordBytes then .error .plaintext else .ok payload := by
  unfold decryptRecord
  rw [nonce_eq h, canonical_header s.valid h]
  rfl

/-- When decryption succeeds, so does the rest of `open`. -/
theorem decryptRecord_ok {s : SecureSession} {aead : Aead} (hlaw : aead.Lawful)
    (h : s.receiveSequence ≤ maxSequence) {ciphertext additionalData payload : Bytes}
    (hlen : ciphertext.length ≤ maxRecordBytes + 16) (ha : additionalData.length ≤ 1024)
    (hd : s.decryption aead ciphertext additionalData = some payload) :
    s.decryptRecord aead ciphertext additionalData = .ok payload := by
  have hsize := hlaw.decrypt_length _ _ _ _ _ hd
  rw [decryptRecord_eq aead h, if_neg (by omega), if_neg (by omega), hd]
  exact if_neg (by omega)

/-- What a successful `open` has seen. -/
theorem decryptRecord_inv {s : SecureSession} {aead : Aead} (h : s.receiveSequence ≤ maxSequence)
    {ciphertext additionalData payload : Bytes}
    (hok : s.decryptRecord aead ciphertext additionalData = .ok payload) :
    ciphertext.length ≤ maxRecordBytes + 16 ∧ additionalData.length ≤ 1024 ∧
      s.decryption aead ciphertext additionalData = some payload := by
  rw [decryptRecord_eq aead h] at hok
  split at hok
  · cases hok
  split at hok
  · cases hok
  split at hok
  · cases hok
  · rename_i h1 h2 _ payload' hd
    split at hok
    · cases hok
    · exact ⟨by omega, by omega, Except.ok.inj hok ▸ hd⟩

theorem openRecord_rejected {s : SecureSession} {aead : Aead} {frame : Value} {additionalData : Bytes}
    (h : ∀ ciphertext payload, s.checkFrame frame = .ok ciphertext →
      s.decryptRecord aead ciphertext additionalData ≠ .ok payload) :
    ∃ e, s.openRecord aead frame additionalData = (s, .error e) := by
  unfold openRecord
  split
  · exact ⟨_, rfl⟩
  split
  · exact ⟨_, rfl⟩
  · rename_i ciphertext hcheck
    split
    · exact ⟨_, rfl⟩
    · rename_i payload hok
      exact absurd hok (h ciphertext payload hcheck)

theorem openRecord_accepted {s : SecureSession} {aead : Aead} {frame : Value}
    {additionalData ciphertext payload : Bytes} (hlive : s.closed = false)
    (hcheck : s.checkFrame frame = .ok ciphertext)
    (hok : s.decryptRecord aead ciphertext additionalData = .ok payload) :
    s.openRecord aead frame additionalData =
      ({ s with receiveSequence := s.receiveSequence + 1 }, .ok payload) := by
  unfold openRecord
  rw [if_neg (by rw [hlive]; exact Bool.false_ne_true), hcheck]
  simp only [hok]

/-- The checks of `open` on a frame as `seal` writes them. -/
theorem checkFrame_sealedFrame {n : Nat} (hn : n ≤ maxSequence) (ciphertext : Bytes) :
    s.checkFrame (.dict (sealedFrame s.sessionId n ciphertext)) =
      if n ≠ s.receiveSequence then .error .replay
      else if ciphertext = [] then .error .ciphertext
      else .ok ciphertext := by
  have hfields : s.checkFrame (.dict (sealedFrame s.sessionId n ciphertext)) =
      if s.sessionId ≠ s.sessionId then .error .foreign
      else if ¬ (0 ≤ (n : Int) ∧ (n : Int) ≤ maxSequence) then .error .sequence
      else if (n : Int) ≠ s.receiveSequence then .error .replay
      else match decodeText (encode ciphertext) none with
        | none => .error .ciphertext
        | some ciphertext => .ok ciphertext := rfl
  rw [hfields, if_neg (not_not.mpr rfl), if_neg (by omega)]
  by_cases hseq : n = s.receiveSequence
  · rw [if_neg (by omega), if_neg (by omega)]
    by_cases hne : ciphertext = []
    · subst hne; rfl
    · rw [decodeText_encode hne (by simp), if_neg hne]
  · rw [if_pos (by omega), if_pos hseq]

/-- The calls on a session. -/
inductive Call where
  | sealCall (payload additionalData : Bytes)
  | openCall (frame : Value) (additionalData : Bytes)
  | closeCall

/-- The encryption a call made and the error it raised, if any. -/
structure Trace where
  encryption : Option Encryption
  error : Option RecordError

def errorOf {α : Type} : Except RecordError α → Option RecordError
  | .error e => some e
  | .ok _ => none

def call (s : SecureSession) : Call → SecureSession × Trace
  | .sealCall payload additionalData =>
    let (s, output) := s.sealRecord aead payload additionalData
    (s, ⟨output.encryption, errorOf output.result⟩)
  | .openCall frame additionalData =>
    let (s, result) := s.openRecord aead frame additionalData
    (s, ⟨none, errorOf result⟩)
  | .closeCall => (s.close, ⟨none, none⟩)

/-- The session as a machine, from the state `s` on. -/
def machine (s : SecureSession) : Machine SecureSession Call Trace where
  init := s
  step := call aead

end SecureSession

/-! ## Used nonces -/

/-- The encryptions `es` are all under `key`, and the `i`-th uses the nonce of `i`. -/
structure Used (key : Fixed 32) (noncePrefix : Fixed 4) (es : List Encryption) : Prop where
  keys : ∀ e ∈ es, e.key = key.val
  nonces : es.map Encryption.nonce = (List.range es.length).map (nonceOf noncePrefix)
  bound : es.length ≤ maxSequence + 1

namespace Used
variable {key : Fixed 32} {p : Fixed 4} {es : List Encryption}

theorem nil : Used key p [] := ⟨by simp, rfl, by simp⟩

theorem concat (h : Used key p es) {e : Encryption} (hk : e.key = key.val)
    (hn : e.nonce = nonceOf p es.length) (hlt : es.length ≤ maxSequence) : Used key p (es ++ [e]) where
  keys := by
    intro e' he'
    rcases List.mem_append.mp he' with he' | he'
    · exact h.keys e' he'
    · rw [List.mem_singleton.mp he', hk]
  nonces := by
    rw [List.map_append, h.nonces, List.length_append, List.length_singleton, List.range_succ,
      List.map_append, List.map_singleton, List.map_singleton, hn]
  bound := by
    rw [List.length_append, List.length_singleton]; omega

theorem nodup (h : Used key p es) : (es.map Encryption.nonce).Nodup := by
  rw [h.nonces]
  have hb := h.bound
  refine List.Nodup.map_on ?_ List.nodup_range
  intro m hm n hn heq
  rw [List.mem_range] at hm hn
  exact nonceOf_inj (by omega) (by omega) heq

theorem mem (h : Used key p es) {e : Encryption} (he : e ∈ es) :
    e.key = key.val ∧ ∃ i ≤ maxSequence, e.nonce = p.val ++ beBytes 8 i := by
  refine ⟨h.keys e he, ?_⟩
  have hmem : e.nonce ∈ es.map Encryption.nonce := List.mem_map_of_mem he
  rw [h.nonces] at hmem
  obtain ⟨i, hi, heq⟩ := List.mem_map.mp hmem
  have hb := h.bound
  rw [List.mem_range] at hi
  exact ⟨i, by omega, heq.symm⟩

end Used

/-! ## Python -/

namespace SecureSession
variable {aead : Aead} {s₀ : SecureSession}

/-- The encryptions of a run, in order. -/
def encryptions (aead : Aead) (s₀ : SecureSession) (calls : List Call) : List Encryption :=
  ((machine aead s₀).outs calls).filterMap Trace.encryption

/-- The counter counts the encryptions. -/
structure Counted (s₀ s : SecureSession) (es : List Encryption) : Prop where
  key : s.sendKey = s₀.sendKey
  noncePrefix : s.sendNoncePrefix = s₀.sendNoncePrefix
  sequence : s.sendSequence = es.length
  used : Used s₀.sendKey s₀.sendNoncePrefix es

theorem Counted.step {s : SecureSession} {es : List Encryption} (h : Counted s₀ s es) (c : Call) :
    Counted s₀ (call aead s c).1 (es ++ (call aead s c).2.encryption.toList) := by
  obtain ⟨hk, hp, hseq, hused⟩ := h
  cases c with
  | sealCall payload additionalData =>
    by_cases hcan : s.CanSeal payload additionalData
    · simp only [call, sealRecord_ok aead s hcan, Option.toList_some]
      refine ⟨hk, hp, by simp [hseq], hused.concat ?_ ?_ ?_⟩
      · exact congrArg Subtype.val hk
      · simp only [encryptionOf, hp, hseq]
      · exact hseq ▸ hcan.sequence
    · obtain ⟨e, he, -⟩ := sealRecord_fails aead s hcan
      simp only [call, he, Option.toList_none, List.append_nil]
      exact ⟨hk, hp, hseq, hused⟩
  | openCall frame additionalData =>
    rcases openRecord_cases aead s frame additionalData with ⟨e, he⟩ | ⟨payload, he⟩
    · simp only [call, he, Option.toList_none, List.append_nil]
      exact ⟨hk, hp, hseq, hused⟩
    · simp only [call, he, Option.toList_none, List.append_nil]
      exact ⟨hk, hp, hseq, hused⟩
  | closeCall =>
    simp only [call, Option.toList_none, List.append_nil]
    exact ⟨hk, hp, hseq, hused⟩

theorem encryptions_concat (pre : List Call) (c : Call) :
    encryptions aead s₀ (pre ++ [c]) =
      encryptions aead s₀ pre ++ (call aead ((machine aead s₀).run pre) c).2.encryption.toList := by
  unfold encryptions
  rw [Machine.outs_concat, List.filterMap_append]
  congr 1

theorem run_counted (aead : Aead) (h0 : s₀.sendSequence = 0) (calls : List Call) :
    Counted s₀ ((machine aead s₀).run calls) (encryptions aead s₀ calls) := by
  induction calls using List.reverseRecOn with
  | nil => exact ⟨rfl, rfl, h0, Used.nil⟩
  | append_singleton pre c ih =>
    rw [Machine.run_concat, encryptions_concat]
    exact ih.step c

theorem encryptions_append (aead : Aead) (s₀ : SecureSession) (pre post : List Call) :
    (encryptions aead s₀ pre).length ≤ (encryptions aead s₀ (pre ++ post)).length := by
  obtain ⟨later, hlater⟩ := (machine aead s₀).outs_append pre post
  simp only [encryptions, hlater, List.filterMap_append, List.length_append]
  omega

theorem openRecord_no_overflow (aead : Aead) (s : SecureSession) (frame : Value) (additionalData : Bytes) :
    (s.openRecord aead frame additionalData).2 ≠ .error .overflow := by
  have hopen : ∀ e, (s.openRecord aead frame additionalData).2 = .error e → e ≠ .overflow := by
    intro e he
    unfold openRecord at he
    split at he
    · obtain rfl := Except.error.inj he; decide
    split at he
    · rename_i e' hcheck
      obtain rfl := Except.error.inj he
      have hmem := checkFrame_error hcheck
      rintro rfl
      exact absurd hmem (by decide)
    · rename_i ciphertext hcheck
      split at he
      · rename_i e' hdecrypt
        obtain rfl := Except.error.inj he
        rw [decryptRecord_eq aead (checkFrame_ok hcheck).1] at hdecrypt
        repeat' split at hdecrypt
        all_goals first | (obtain rfl := Except.error.inj hdecrypt; decide) | cases hdecrypt
      · cases he
  exact fun h => hopen _ h rfl

/-- No call converts a number that does not fit in eight bytes. -/
theorem call_no_overflow (s : SecureSession) (c : Call) : (call aead s c).2.error ≠ some .overflow := by
  cases c with
  | sealCall payload additionalData =>
    by_cases hcan : s.CanSeal payload additionalData
    · simp [call, sealRecord_ok aead s hcan, errorOf]
    · obtain ⟨e, he, hmem⟩ := sealRecord_fails aead s hcan
      simp only [call, he, errorOf, ne_eq, Option.some.injEq]
      rintro rfl
      exact absurd hmem (by decide)
  | openCall frame additionalData =>
    have hopen := openRecord_no_overflow aead s frame additionalData
    simp only [call]
    cases hr : (s.openRecord aead frame additionalData).2 with
    | error e =>
      rw [hr] at hopen
      simpa [errorOf] using hopen
    | ok payload => simp [errorOf]
  | closeCall => simp [call]

theorem outs_no_overflow (calls : List Call) :
    ∀ t ∈ (machine aead s₀).outs calls, t.error ≠ some .overflow := by
  induction calls using List.reverseRecOn with
  | nil => simp
  | append_singleton pre c ih =>
    intro t ht
    rw [Machine.outs_concat, List.mem_append, List.mem_singleton] at ht
    rcases ht with ht | rfl
    · exact ih t ht
    · exact call_no_overflow _ c

end SecureSession

/-! ## Firmware -/

namespace PipaSecureSession
variable (aead : Aead)

/-- The calls between two key installations. -/
inductive Call where
  | sealCall (plaintext additionalData : Bytes) (capacity : Option Nat)
  | openCall (sequence : UInt64) (ciphertextAndTag additionalData : Bytes) (capacity : Option Nat)
  | clearCall

def call (s : PipaSecureSession) : Call → PipaSecureSession × Option Encryption
  | .sealCall plaintext additionalData capacity =>
    let (s, output) := s.sealRecord aead plaintext additionalData capacity
    (s, output.encryption)
  | .openCall sequence ciphertextAndTag additionalData capacity =>
    ((s.openRecord aead sequence ciphertextAndTag additionalData capacity).1, none)
  | .clearCall => (cleared, none)

def machine (s : PipaSecureSession) : Machine PipaSecureSession Call (Option Encryption) where
  init := s
  step := call aead

def encryptions (s₀ : PipaSecureSession) (calls : List Call) : List Encryption :=
  ((machine aead s₀).outs calls).filterMap id

/-- `seal` succeeds. -/
structure CanSeal (s : PipaSecureSession) (plaintext additionalData : Bytes) (capacity : Option Nat) :
    Prop where
  ready : s.ready = true
  size : plaintext.length ≤ maxRecordBytes
  dataSize : additionalData.length ≤ 1024
  room : capacity.any (fun n => plaintext.length + 16 ≤ n) = true
  sequence : s.sendSequence ≠ kMaxSequence

def encryptionOf (s : PipaSecureSession) (plaintext additionalData : Bytes) : Encryption :=
  let associatedData := Firmware.headerFor s.sessionId s.sendSequence ++ additionalData
  let nonce := nonceOf s.sendNoncePrefix s.sendSequence.toNat
  ⟨s.sendKey.val, nonce, plaintext, associatedData,
    aead.encrypt s.sendKey.val nonce plaintext associatedData⟩

variable {aead} {s s₀ : PipaSecureSession} {plaintext additionalData : Bytes} {capacity : Option Nat}

theorem sealRecord_ok (h : s.CanSeal plaintext additionalData capacity) :
    s.sealRecord aead plaintext additionalData capacity =
      ({ s with sendSequence := s.sendSequence + 1 },
       ⟨some (s.encryptionOf aead plaintext additionalData),
        some (s.encryptionOf aead plaintext additionalData).ciphertext⟩) := by
  obtain ⟨h1, h2, h3, h4, h5⟩ := h
  unfold sealRecord
  rw [if_neg, buildNonce_eq]
  · rfl
  · simp only [h1, h4, Bool.not_true, Bool.false_or, Bool.or_false, Bool.or_eq_true, decide_eq_true_eq,
      beq_iff_eq, not_or]
    exact ⟨⟨by omega, by omega⟩, h5⟩

/-- A `seal` that does not succeed neither encrypts nor changes the session. -/
theorem sealRecord_fails (h : ¬ s.CanSeal plaintext additionalData capacity) :
    s.sealRecord aead plaintext additionalData capacity = (s, ⟨none, none⟩) := by
  unfold sealRecord
  refine if_pos (Classical.byContradiction fun hneg => h ?_)
  simp only [Bool.or_eq_true, Bool.not_eq_true', decide_eq_true_eq, beq_iff_eq, not_or,
    Bool.not_eq_false] at hneg
  obtain ⟨⟨⟨⟨h1, h2⟩, h3⟩, h4⟩, h5⟩ := hneg
  exact ⟨h1, by omega, by omega, h4, h5⟩

/-- `open` leaves everything but the receive counter. -/
theorem openRecord_keeps (aead : Aead) (s : PipaSecureSession) (sequence : UInt64)
    (ciphertextAndTag additionalData : Bytes) (capacity : Option Nat) :
    let s' := (s.openRecord aead sequence ciphertextAndTag additionalData capacity).1
    s'.ready = s.ready ∧ s'.sendKey = s.sendKey ∧ s'.sendNoncePrefix = s.sendNoncePrefix ∧
      s'.sendSequence = s.sendSequence := by
  simp only [openRecord]
  split
  · exact ⟨rfl, rfl, rfl, rfl⟩
  split
  · exact ⟨rfl, rfl, rfl, rfl⟩
  · exact ⟨rfl, rfl, rfl, rfl⟩

/-- While the session is ready its counter counts the encryptions; a session that was
cleared stays so. -/
structure Counted (s₀ s : PipaSecureSession) (es : List Encryption) : Prop where
  used : Used s₀.sendKey s₀.sendNoncePrefix es
  below : es.length ≤ maxSequence
  current : s.ready = true → s.sendKey = s₀.sendKey ∧ s.sendNoncePrefix = s₀.sendNoncePrefix ∧
    s.sendSequence.toNat = es.length

theorem Counted.step {es : List Encryption} (h : Counted s₀ s es) (c : Call) :
    Counted s₀ (call aead s c).1 (es ++ (call aead s c).2.toList) := by
  cases c with
  | sealCall plaintext additionalData capacity =>
    by_cases hcan : s.CanSeal plaintext additionalData capacity
    · obtain ⟨hk, hp, hseq⟩ := h.current hcan.ready
      have hlt : es.length < maxSequence := by
        have hne : s.sendSequence.toNat ≠ maxSequence := fun heq =>
          hcan.sequence (UInt64.toNat_inj.mp (heq.trans (by decide)))
        have := h.below
        omega
      simp only [call, sealRecord_ok hcan, Option.toList_some]
      refine ⟨h.used.concat ?_ ?_ (Nat.le_of_lt hlt), ?_, fun _ => ⟨hk, hp, ?_⟩⟩
      · exact congrArg Subtype.val hk
      · simp only [encryptionOf, hp, hseq]
      · rw [List.length_append, List.length_singleton]; omega
      · -- the guard keeps the increment below the wrap
        have hmax : maxSequence < 2 ^ 64 := by decide
        rw [List.length_append, List.length_singleton, UInt64.toNat_add, hseq]
        simp only [UInt64.toNat_ofNat, Nat.reducePow, Nat.reduceMod]
        omega
    · simp only [call, sealRecord_fails hcan, Option.toList_none, List.append_nil]
      exact h
  | openCall sequence ciphertextAndTag additionalData capacity =>
    obtain ⟨h1, h2, h3, h4⟩ := openRecord_keeps aead s sequence ciphertextAndTag additionalData capacity
    simp only [call, Option.toList_none, List.append_nil]
    refine ⟨h.used, h.below, fun hready => ?_⟩
    rw [h2, h3, h4]
    exact h.current (h1 ▸ hready)
  | clearCall =>
    simp only [call, Option.toList_none, List.append_nil]
    exact ⟨h.used, h.below, fun hready => by cases hready⟩

theorem run_counted (aead : Aead) (h0 : s₀.sendSequence = 0) (calls : List Call) :
    Counted s₀ ((machine aead s₀).run calls) (encryptions aead s₀ calls) := by
  induction calls using List.reverseRecOn with
  | nil => exact ⟨Used.nil, by simp [encryptions], fun _ => ⟨rfl, rfl, by simp [h0, machine, encryptions]⟩⟩
  | append_singleton pre c ih =>
    have hes : encryptions aead s₀ (pre ++ [c]) =
        encryptions aead s₀ pre ++ (call aead ((machine aead s₀).run pre) c).2.toList := by
      unfold encryptions
      rw [Machine.outs_concat, List.filterMap_append]
      congr 1
    rw [Machine.run_concat, hes]
    exact ih.step c

theorem run_not_ready {pre : List Call} (h : ((machine aead s₀).run pre).ready = false) (post : List Call) :
    ((machine aead s₀).run (pre ++ post)).ready = false := by
  induction post using List.reverseRecOn with
  | nil => rwa [List.append_nil]
  | append_singleton post c ih =>
    rw [← List.append_assoc, Machine.run_concat]
    cases c with
    | sealCall plaintext additionalData capacity =>
      have hcan : ¬ ((machine aead s₀).run (pre ++ post)).CanSeal plaintext additionalData capacity := by
        intro hcan
        have := hcan.ready
        rw [ih] at this
        cases this
      simp only [machine, call] at hcan ⊢
      rw [sealRecord_fails hcan]
      exact ih
    | openCall sequence ciphertextAndTag additionalData capacity =>
      exact (openRecord_keeps aead _ sequence ciphertextAndTag additionalData capacity).1.trans ih
    | clearCall => rfl

theorem encryptions_append (aead : Aead) (s₀ : PipaSecureSession) (pre post : List Call) :
    (encryptions aead s₀ pre).length ≤ (encryptions aead s₀ (pre ++ post)).length := by
  obtain ⟨later, hlater⟩ := (machine aead s₀).outs_append pre post
  simp only [encryptions, hlater, List.filterMap_append, List.length_append]
  omega

end PipaSecureSession

/-! ## Both sides -/

/-- From the installation of its keys on, neither implementation encrypts twice with one
nonce: every nonce is the prefix and the eight bytes of a counter that neither wraps nor
overflows, and once the counter is at its limit every later `seal` fails without encrypting. -/
theorem nonces_never_reused (aead : Aead) :
    (∀ (s₀ : SecureSession) (calls : List SecureSession.Call), s₀.sendSequence = 0 →
      ((SecureSession.encryptions aead s₀ calls).map Encryption.nonce).Nodup ∧
      (∀ e ∈ SecureSession.encryptions aead s₀ calls, e.key = s₀.sendKey.val ∧
        ∃ i ≤ maxSequence, e.nonce = s₀.sendNoncePrefix.val ++ beBytes 8 i) ∧
      ((SecureSession.machine aead s₀).run calls).sendSequence =
        (SecureSession.encryptions aead s₀ calls).length ∧
      (∀ t ∈ (SecureSession.machine aead s₀).outs calls, t.error ≠ some .overflow) ∧
      (maxSequence < ((SecureSession.machine aead s₀).run calls).sendSequence →
        ∀ later payload additionalData, ∃ e,
          ((SecureSession.machine aead s₀).run (calls ++ later)).sealRecord aead payload additionalData =
            ((SecureSession.machine aead s₀).run (calls ++ later), ⟨none, .error e⟩))) ∧
    (∀ (s₀ : PipaSecureSession) (calls : List PipaSecureSession.Call), s₀.sendSequence = 0 →
      ((PipaSecureSession.encryptions aead s₀ calls).map Encryption.nonce).Nodup ∧
      (∀ e ∈ PipaSecureSession.encryptions aead s₀ calls, e.key = s₀.sendKey.val ∧
        ∃ i ≤ maxSequence, e.nonce = s₀.sendNoncePrefix.val ++ beBytes 8 i) ∧
      (((PipaSecureSession.machine aead s₀).run calls).ready = true →
        ((PipaSecureSession.machine aead s₀).run calls).sendSequence.toNat =
          (PipaSecureSession.encryptions aead s₀ calls).length) ∧
      (((PipaSecureSession.machine aead s₀).run calls).sendSequence = PipaSecureSession.kMaxSequence →
        ∀ later plaintext additionalData capacity,
          ((PipaSecureSession.machine aead s₀).run (calls ++ later)).sealRecord aead plaintext
            additionalData capacity =
            ((PipaSecureSession.machine aead s₀).run (calls ++ later), ⟨none, none⟩))) := by
  refine ⟨?_, ?_⟩
  · intro s₀ calls h0
    have h := SecureSession.run_counted aead h0 calls
    refine ⟨h.used.nodup, fun e he => h.used.mem he, h.sequence, ?_, ?_⟩
    · intro t ht
      exact SecureSession.outs_no_overflow calls t ht
    · intro hlimit later payload additionalData
      have hlater := SecureSession.run_counted aead h0 (calls ++ later)
      have hgrow := SecureSession.encryptions_append aead s₀ calls later
      have hcan : ¬ ((SecureSession.machine aead s₀).run (calls ++ later)).CanSeal payload additionalData := by
        intro hcan
        have hseq := hcan.sequence
        rw [hlater.sequence] at hseq
        rw [h.sequence] at hlimit
        omega
      obtain ⟨e, he, -⟩ := SecureSession.sealRecord_fails aead _ hcan
      exact ⟨e, he⟩
  · intro s₀ calls h0
    have h := PipaSecureSession.run_counted aead h0 calls
    refine ⟨h.used.nodup, fun e he => h.used.mem he, fun hready => (h.current hready).2.2, ?_⟩
    intro hlimit later plaintext additionalData capacity
    refine PipaSecureSession.sealRecord_fails fun hcan => ?_
    have hready : ((PipaSecureSession.machine aead s₀).run calls).ready = true := by
      by_contra hnot
      have hgone := PipaSecureSession.run_not_ready (Bool.eq_false_iff.mpr hnot) later
      rw [hcan.ready] at hgone
      cases hgone
    have hlater := PipaSecureSession.run_counted aead h0 (calls ++ later)
    have hgrow := PipaSecureSession.encryptions_append aead s₀ calls later
    have hcount := (h.current hready).2.2
    have hcountLater := (hlater.current hcan.ready).2.2
    have hbelow := hlater.below
    have hkmax : PipaSecureSession.kMaxSequence.toNat = maxSequence := by decide
    rw [hlimit, hkmax] at hcount
    exact hcan.sequence (UInt64.toNat_inj.mp (by omega))

end Pipa.Secure
