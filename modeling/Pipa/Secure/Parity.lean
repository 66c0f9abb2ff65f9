import Pipa.Secure.Nonces

/- The Python and the firmware record layer, run side by side on the same calls.

   `Paired` relates the two sessions; below the last sequence number every call
   keeps it and gives the same result on both sides (`Paired.step`). At 2^64 - 1
   the two guards differ: Python's `sequence > MAX_SEQUENCE` still lets that record
   through, the firmware's `== kMaxSequence` does not, since its counter would
   wrap. -/
namespace Pipa.Secure
open Pipa.Lib

/-! ## The two sessions -/

structure Paired (p : SecureSession) (f : PipaSecureSession) : Prop where
  live : p.closed = false
  ready : f.ready = true
  sessionId : f.sessionId = p.sessionId.bytes
  sendKey : f.sendKey = p.sendKey
  receiveKey : f.receiveKey = p.receiveKey
  sendNoncePrefix : f.sendNoncePrefix = p.sendNoncePrefix
  receiveNoncePrefix : f.receiveNoncePrefix = p.receiveNoncePrefix
  send : f.sendSequence.toNat = p.sendSequence
  receive : f.receiveSequence.toNat = p.receiveSequence

/-- Key installation: both sides accept the same material and start out paired. -/
theorem installation_paired (kdf : Kdf) (sessionId : PyStr) (sharedSecret transcriptHash : Fixed 32)
    (role : Role) :
    (SecureSession.fromSharedSecret kdf sessionId sharedSecret.val transcriptHash.val role = none ∧
      (PipaSecureSession.beginFromSharedSecret kdf sessionId.bytes sharedSecret transcriptHash
        (role = .client)).2 = false) ∨
    ∃ p, SecureSession.fromSharedSecret kdf sessionId sharedSecret.val transcriptHash.val role = some p ∧
      p.sendSequence = 0 ∧ p.receiveSequence = 0 ∧
      (PipaSecureSession.beginFromSharedSecret kdf sessionId.bytes sharedSecret transcriptHash
        (role = .client)).2 = true ∧
      Paired p (PipaSecureSession.beginFromSharedSecret kdf sessionId.bytes sharedSecret transcriptHash
        (role = .client)).1 := by
  unfold SecureSession.fromSharedSecret PipaSecureSession.beginFromSharedSecret
  rw [validIdentifier_bytes]
  by_cases hid : isIdentifier sessionId = true
  · by_cases hzero : sharedSecret.val.all (· = 0) = true
    · left
      simp [hid, hzero, sharedSecret.property, transcriptHash.property]
    · right
      rw [dif_pos hid, if_neg (not_not.mpr sharedSecret.property), if_neg (not_not.mpr transcriptHash.property),
        if_neg hzero, if_neg (by rw [hid]; decide), if_neg hzero]
      refine ⟨_, rfl, ?_, ?_, rfl, ?_⟩
      · cases role <;> rfl
      · cases role <;> rfl
      · cases role <;> exact ⟨rfl, rfl, rfl, rfl, rfl, rfl, rfl, rfl, rfl⟩
  · left
    simp [hid]

/-! ## Calls -/

/-- A call made on both sides; a record is opened by its sequence number, ciphertext and
additional data. -/
inductive JointCall where
  | sealCall (payload additionalData : Bytes)
  | openCall (sequence : UInt64) (ciphertext additionalData : Bytes)

/-- Sizes of which both sides speak. -/
def JointCall.Bounded : JointCall → Prop
  | .sealCall payload additionalData => payload.length ≤ maxRecordBytes ∧ additionalData.length ≤ 1024
  | .openCall _ _ additionalData => additionalData.length ≤ 1024

/-- What the two sides gave back. -/
inductive JointOut where
  | sealedBoth (python : SecureSession.Output) (firmware : PipaSecureSession.Output)
  | openedBoth (python : Except RecordError Bytes) (firmware : Option Bytes)

/-- The same encryption (key, nonce, header and data, ciphertext) and the same record, or the
same payload. -/
def JointOut.Agrees (sessionId : PyStr) (sequence : Nat) : JointOut → Prop
  | .sealedBoth python firmware =>
    python.encryption = firmware.encryption ∧
    match firmware.result with
    | none => ∃ e, python.result = .error e
    | some ciphertext =>
      python.result = .ok (.dict (SecureSession.sealedFrame sessionId sequence ciphertext))
  | .openedBoth python firmware => python.toOption = firmware

/-- One call on both sides; the firmware's buffers are as large as any record. -/
def jointStep (aead : Aead) (st : SecureSession × PipaSecureSession) :
    JointCall → (SecureSession × PipaSecureSession) × JointOut
  | .sealCall payload additionalData =>
    let p := st.1.sealRecord aead payload additionalData
    let f := st.2.sealRecord aead payload additionalData (some (maxRecordBytes + 16))
    ((p.1, f.1), .sealedBoth p.2 f.2)
  | .openCall sequence ciphertext additionalData =>
    let frame := Value.dict (SecureSession.sealedFrame st.1.sessionId sequence.toNat ciphertext)
    let p := st.1.openRecord aead frame additionalData
    let f := st.2.openRecord aead sequence ciphertext additionalData (some (maxRecordBytes + 16))
    ((p.1, f.1), .openedBoth p.2 f.2)

def jointMachine (aead : Aead) (p : SecureSession) (f : PipaSecureSession) :
    Machine (SecureSession × PipaSecureSession) JointCall JointOut where
  init := (p, f)
  step := jointStep aead

/-- The counter the call uses is not at its last value. -/
def BelowLimit (st : SecureSession × PipaSecureSession) : JointCall → Prop
  | .sealCall _ _ => st.1.sendSequence < maxSequence
  | .openCall _ _ _ => st.1.receiveSequence < maxSequence

instance (st : SecureSession × PipaSecureSession) (c : JointCall) : Decidable (BelowLimit st c) :=
  match c with
  | .sealCall _ _ => inferInstanceAs (Decidable (st.1.sendSequence < maxSequence))
  | .openCall _ _ _ => inferInstanceAs (Decidable (st.1.receiveSequence < maxSequence))

section
variable {aead : Aead} {p : SecureSession} {f : PipaSecureSession}

theorem Paired.headerFor (h : Paired p f) {n : UInt64} {m : Nat} (hn : n.toNat = m) :
    Firmware.headerFor f.sessionId n = headerOf p.sessionId m := by
  unfold headerOf
  rw [h.sessionId, ← hn, UInt64.ofNat_toNat]

/-- The counter after one more record. -/
theorem toNat_succ {n : UInt64} {m : Nat} (hn : n.toNat = m) (hm : m < maxSequence) :
    (n + 1).toNat = m + 1 := by
  have hmax : maxSequence < 2 ^ 64 := by decide
  rw [UInt64.toNat_add, hn]
  simp only [UInt64.toNat_ofNat, Nat.reducePow, Nat.reduceMod]
  omega

theorem ne_kMaxSequence {n : UInt64} {m : Nat} (hn : n.toNat = m) (hm : m < maxSequence) :
    n ≠ PipaSecureSession.kMaxSequence := by
  rintro rfl
  have : PipaSecureSession.kMaxSequence.toNat = maxSequence := by decide
  omega

theorem Paired.sealStep (h : Paired p f) {payload additionalData : Bytes}
    (hp : payload.length ≤ maxRecordBytes) (ha : additionalData.length ≤ 1024)
    (hlt : p.sendSequence < maxSequence) :
    JointOut.Agrees p.sessionId p.sendSequence
      (jointStep aead (p, f) (.sealCall payload additionalData)).2 ∧
    Paired (jointStep aead (p, f) (.sealCall payload additionalData)).1.1
      (jointStep aead (p, f) (.sealCall payload additionalData)).1.2 := by
  have hpy : p.CanSeal payload additionalData := ⟨h.live, hp, ha, by omega⟩
  have hfw : f.CanSeal payload additionalData (some (maxRecordBytes + 16)) :=
    ⟨h.ready, hp, ha, by simp only [Option.any_some, decide_eq_true_eq]; omega,
      ne_kMaxSequence h.send hlt⟩
  have henc : f.encryptionOf aead payload additionalData = p.encryptionOf aead payload additionalData := by
    simp only [PipaSecureSession.encryptionOf, SecureSession.encryptionOf, h.headerFor h.send, h.sendKey,
      h.sendNoncePrefix, h.send]
  simp only [jointStep, SecureSession.sealRecord_ok aead p hpy, PipaSecureSession.sealRecord_ok hfw, henc]
  refine ⟨⟨rfl, rfl⟩, ?_⟩
  exact ⟨h.live, h.ready, h.sessionId, h.sendKey, h.receiveKey, h.sendNoncePrefix, h.receiveNoncePrefix,
    toNat_succ h.send hlt, h.receive⟩

theorem toNat_le_maxSequence (n : UInt64) : n.toNat ≤ maxSequence := by
  have := n.toNat_lt
  simp only [maxSequence]; omega

/-- The firmware's guards hold for the record both sides may take. -/
theorem Paired.firmware_open (h : Paired p f) {sequence : UInt64} {ciphertext additionalData : Bytes}
    (ha : additionalData.length ≤ 1024) (hlt : p.receiveSequence < maxSequence)
    (hseq : sequence.toNat = p.receiveSequence) (hlong : ciphertext.length ≤ maxRecordBytes + 16)
    (hshort : 16 ≤ ciphertext.length) :
    f.openRecord aead sequence ciphertext additionalData (some (maxRecordBytes + 16)) =
      match p.decryption aead ciphertext additionalData with
      | none => (f, none)
      | some payload => ({ f with receiveSequence := f.receiveSequence + 1 }, some payload) := by
  have hcur : sequence = f.receiveSequence := UInt64.toNat_inj.mp (hseq.trans h.receive.symm)
  have hguard : ¬ (!f.ready || decide (ciphertext.length < 16) ||
      decide (ciphertext.length > maxRecordBytes + 16) || decide (additionalData.length > 1024) ||
      !(some (maxRecordBytes + 16)).any (fun n => ciphertext.length - 16 ≤ n) ||
      sequence != f.receiveSequence || sequence == PipaSecureSession.kMaxSequence) = true := by
    simp only [h.ready, Bool.not_true, Bool.false_or, Option.any_some, Bool.or_eq_true, decide_eq_true_eq,
      Bool.not_eq_true', decide_eq_false_iff_not, bne_iff_ne, beq_iff_eq, not_or, not_not]
    exact ⟨⟨⟨⟨⟨by omega, by omega⟩, by omega⟩, by omega⟩, hcur⟩, ne_kMaxSequence hseq hlt⟩
  unfold PipaSecureSession.openRecord
  rw [if_neg hguard, buildNonce_eq, h.headerFor hseq, h.receiveKey, h.receiveNoncePrefix, hseq]
  rfl

/-- Any other record is refused by the firmware. -/
theorem PipaSecureSession.openRecord_refused {sequence : UInt64} {ciphertext additionalData : Bytes}
    {capacity : Option Nat} (h : sequence ≠ f.receiveSequence ∨ ciphertext.length < 16 ∨
      ciphertext.length > maxRecordBytes + 16) :
    f.openRecord aead sequence ciphertext additionalData capacity = (f, none) := by
  unfold PipaSecureSession.openRecord
  refine if_pos ?_
  simp only [Bool.or_eq_true, decide_eq_true_eq, bne_iff_ne]
  rcases h with h | h | h
  · exact Or.inl (Or.inr h)
  · exact Or.inl (Or.inl (Or.inl (Or.inl (Or.inl (Or.inr h)))))
  · exact Or.inl (Or.inl (Or.inl (Or.inl (Or.inr h))))

theorem Paired.openStep (hlaw : aead.Lawful) (h : Paired p f) (sequence : UInt64)
    (ciphertext : Bytes) {additionalData : Bytes} (ha : additionalData.length ≤ 1024)
    (hlt : p.receiveSequence < maxSequence) :
    JointOut.Agrees p.sessionId p.sendSequence
      (jointStep aead (p, f) (.openCall sequence ciphertext additionalData)).2 ∧
    Paired (jointStep aead (p, f) (.openCall sequence ciphertext additionalData)).1.1
      (jointStep aead (p, f) (.openCall sequence ciphertext additionalData)).1.2 := by
  have hcheck := SecureSession.checkFrame_sealedFrame p (toNat_le_maxSequence sequence) ciphertext
  have hle : p.receiveSequence ≤ maxSequence := by omega
  simp only [jointStep]
  by_cases hfits : sequence.toNat = p.receiveSequence ∧ ciphertext.length ≤ maxRecordBytes + 16 ∧
      16 ≤ ciphertext.length
  · obtain ⟨hseq, hlong, hshort⟩ := hfits
    have hne : ciphertext ≠ [] := by
      rintro rfl
      simp at hshort
    rw [if_neg (not_not.mpr hseq), if_neg hne] at hcheck
    rw [h.firmware_open ha hlt hseq hlong hshort]
    cases hd : p.decryption aead ciphertext additionalData with
    | none =>
      have hreject : ∀ c payload,
          p.checkFrame (.dict (SecureSession.sealedFrame p.sessionId sequence.toNat ciphertext)) = .ok c →
          p.decryptRecord aead c additionalData ≠ .ok payload := by
        intro c payload hc hok
        rw [hcheck] at hc
        obtain rfl := Except.ok.inj hc
        rw [(SecureSession.decryptRecord_inv hle hok).2.2] at hd
        cases hd
      obtain ⟨e, he⟩ := SecureSession.openRecord_rejected hreject
      rw [he]
      exact ⟨rfl, h⟩
    | some payload =>
      rw [SecureSession.openRecord_accepted h.live hcheck (SecureSession.decryptRecord_ok hlaw hle hlong ha hd)]
      exact ⟨rfl, h.live, h.ready, h.sessionId, h.sendKey, h.receiveKey, h.sendNoncePrefix,
        h.receiveNoncePrefix, h.send, toNat_succ h.receive hlt⟩
  · -- neither side takes the record, each for its own reason
    have hfirmware : f.openRecord aead sequence ciphertext additionalData (some (maxRecordBytes + 16)) =
        (f, none) := by
      apply PipaSecureSession.openRecord_refused
      by_cases hseq : sequence = f.receiveSequence
      · have : sequence.toNat = p.receiveSequence := by rw [hseq, h.receive]
        omega
      · exact Or.inl hseq
    have hreject : ∀ c payload,
        p.checkFrame (.dict (SecureSession.sealedFrame p.sessionId sequence.toNat ciphertext)) = .ok c →
        p.decryptRecord aead c additionalData ≠ .ok payload := by
      intro c payload hc hok
      rw [hcheck] at hc
      split at hc
      · cases hc
      split at hc
      · cases hc
      · rename_i hseq _
        obtain rfl := Except.ok.inj hc
        obtain ⟨hlong, -, hd⟩ := SecureSession.decryptRecord_inv hle hok
        have hsize := hlaw.decrypt_length _ _ _ _ _ hd
        exact hfits ⟨not_not.mp hseq, hlong, by omega⟩
    obtain ⟨e, he⟩ := SecureSession.openRecord_rejected hreject
    rw [he, hfirmware]
    exact ⟨rfl, h⟩

/-- Below the limit a call gives the same on both sides and keeps them paired. -/
theorem Paired.step (hlaw : aead.Lawful) (h : Paired p f) {c : JointCall} (hb : c.Bounded)
    (hlt : BelowLimit (p, f) c) :
    JointOut.Agrees p.sessionId p.sendSequence (jointStep aead (p, f) c).2 ∧
    Paired (jointStep aead (p, f) c).1.1 (jointStep aead (p, f) c).1.2 := by
  cases c with
  | sealCall payload additionalData => exact h.sealStep hb.1 hb.2 hlt
  | openCall sequence ciphertext additionalData => exact h.openStep hlaw sequence ciphertext hb hlt

/-- At the limit Python still seals and the firmware does not. -/
theorem Paired.seal_at_limit (h : Paired p f) {payload additionalData : Bytes}
    (hb : (JointCall.sealCall payload additionalData).Bounded) (hlimit : p.sendSequence = maxSequence)
    {sessionId : PyStr} {n : Nat} :
    ¬ JointOut.Agrees sessionId n (jointStep aead (p, f) (.sealCall payload additionalData)).2 := by
  have hpy : p.CanSeal payload additionalData := ⟨h.live, hb.1, hb.2, by omega⟩
  have hfw : ¬ f.CanSeal payload additionalData (some (maxRecordBytes + 16)) := by
    intro hcan
    exact hcan.sequence (UInt64.toNat_inj.mp ((h.send.trans hlimit).trans (by decide)))
  simp only [jointStep, SecureSession.sealRecord_ok aead p hpy, PipaSecureSession.sealRecord_fails hfw]
  rintro ⟨henc, -⟩
  cases henc

theorem toOption_eq_none {ε α : Type} {x : Except ε α} : x.toOption = none ↔ ∃ e, x = .error e := by
  cases x <;> simp [Except.toOption]

/-- At the limit the firmware opens nothing. -/
theorem Paired.open_at_limit (h : Paired p f) {sequence : UInt64} {ciphertext additionalData : Bytes}
    (hlimit : p.receiveSequence = maxSequence) :
    f.openRecord aead sequence ciphertext additionalData (some (maxRecordBytes + 16)) = (f, none) := by
  by_cases hseq : sequence = f.receiveSequence
  · unfold PipaSecureSession.openRecord
    refine if_pos ?_
    have hkmax : sequence = PipaSecureSession.kMaxSequence := by
      rw [hseq]
      exact UInt64.toNat_inj.mp ((h.receive.trans hlimit).trans (by decide))
    simp only [Bool.or_eq_true, beq_iff_eq]
    exact Or.inr hkmax
  · exact PipaSecureSession.openRecord_refused (Or.inl hseq)

end

theorem SecureSession.fromSharedSecret_sessionId {kdf : Kdf} {sessionId : PyStr} {sharedSecret transcriptHash : Bytes}
    {role : Role} {p : SecureSession}
    (h : SecureSession.fromSharedSecret kdf sessionId sharedSecret transcriptHash role = some p) :
    p.sessionId = sessionId := by
  unfold SecureSession.fromSharedSecret at h
  split at h
  · split at h
    · cases h
    split at h
    · cases h
    split at h
    · cases h
    · obtain rfl := Option.some.inj h
      cases role <;> rfl
  · cases h

/-! ## Runs -/

section
variable {aead : Aead} {p : SecureSession} {f : PipaSecureSession}

theorem run_paired (hlaw : aead.Lawful) (h : Paired p f) {calls : List JointCall}
    (hb : ∀ c ∈ calls, c.Bounded) (hlimit : (jointMachine aead p f).Along BelowLimit calls) :
    Paired ((jointMachine aead p f).run calls).1 ((jointMachine aead p f).run calls).2 := by
  induction calls using List.reverseRecOn with
  | nil => exact h
  | append_singleton pre c ih =>
    obtain ⟨hpre, hc⟩ := hlimit.of_concat
    rw [Machine.run_concat]
    exact ((ih (fun d hd => hb d (by simp [hd])) hpre).step hlaw (hb c (by simp)) hc).2

theorem Paired.le_limit (h : Paired p f) :
    p.sendSequence ≤ maxSequence ∧ p.receiveSequence ≤ maxSequence :=
  ⟨h.send ▸ toNat_le_maxSequence _, h.receive ▸ toNat_le_maxSequence _⟩

theorem jointStep_sessionId (aead : Aead) (st : SecureSession × PipaSecureSession) (c : JointCall) :
    (jointStep aead st c).1.1.sessionId = st.1.sessionId := by
  cases c with
  | sealCall payload additionalData =>
    simp only [jointStep]
    by_cases h : st.1.CanSeal payload additionalData
    · rw [SecureSession.sealRecord_ok aead st.1 h]
    · obtain ⟨e, he, -⟩ := SecureSession.sealRecord_fails aead st.1 h
      rw [he]
  | openCall sequence ciphertext additionalData =>
    simp only [jointStep]
    obtain ⟨e, he⟩ | ⟨payload, hok⟩ := SecureSession.openRecord_cases aead st.1
      (.dict (SecureSession.sealedFrame st.1.sessionId sequence.toNat ciphertext)) additionalData
    · rw [he]
    · rw [hok]

theorem run_sessionId (aead : Aead) (p : SecureSession) (f : PipaSecureSession) (calls : List JointCall) :
    ((jointMachine aead p f).run calls).1.sessionId = p.sessionId := by
  induction calls using List.reverseRecOn with
  | nil => rfl
  | append_singleton pre c ih =>
    rw [Machine.run_concat]
    exact (jointStep_sessionId aead _ c).trans ih

/-- Every call of a run below the limit gives the same on both sides. -/
theorem calls_agree (hlaw : aead.Lawful) (h : Paired p f) {calls : List JointCall}
    (hb : ∀ c ∈ calls, c.Bounded) (hlimit : (jointMachine aead p f).Along BelowLimit calls)
    {pre post : List JointCall} {c : JointCall} (hcalls : calls = pre ++ c :: post) :
    JointOut.Agrees p.sessionId ((jointMachine aead p f).run pre).1.sendSequence
      ((jointMachine aead p f).out pre c) := by
  have hpre : (jointMachine aead p f).Along BelowLimit pre := (hcalls ▸ hlimit).of_append
  have hpaired := run_paired hlaw h (fun d hd => hb d (by simp [hcalls, hd])) hpre
  have hagree := (hpaired.step hlaw (hb c (by simp [hcalls])) (hlimit pre c post hcalls)).1
  rw [run_sessionId] at hagree
  exact hagree

end

/-- After a run that took the send counter to its last value, the next `seal` differs. -/
theorem seal_differs {aead : Aead} {p : SecureSession} {f : PipaSecureSession} (hlaw : aead.Lawful)
    (h : Paired p f) {calls : List JointCall} (hb : ∀ c ∈ calls, c.Bounded)
    (hlimit : (jointMachine aead p f).Along BelowLimit calls)
    (hcount : ((jointMachine aead p f).run calls).1.sendSequence = maxSequence)
    {payload additionalData : Bytes} (hbound : (JointCall.sealCall payload additionalData).Bounded)
    (sessionId : PyStr) (n : Nat) :
    ¬ JointOut.Agrees sessionId n
      ((jointMachine aead p f).out calls (.sealCall payload additionalData)) :=
  (run_paired hlaw h hb hlimit).seal_at_limit hbound hcount

/-- A run of empty records reaches every value of the send counter. -/
theorem replicate_sealCall {aead : Aead} {p : SecureSession} {f : PipaSecureSession} (hlaw : aead.Lawful)
    (h : Paired p f) (h0 : p.sendSequence = 0) {n : Nat} (hn : n ≤ maxSequence) :
    (jointMachine aead p f).Along BelowLimit (List.replicate n (.sealCall [] [])) ∧
    ((jointMachine aead p f).run (List.replicate n (.sealCall [] []))).1.sendSequence = n := by
  induction n with
  | zero => exact ⟨Machine.Along.nil, h0⟩
  | succ n ih =>
    obtain ⟨halong, hcount⟩ := ih (by omega)
    have hlt : BelowLimit ((jointMachine aead p f).run (List.replicate n (.sealCall [] []))) (.sealCall [] []) := by
      show _ < maxSequence
      omega
    have hpair := run_paired hlaw h (by simp [JointCall.Bounded]) halong
    have hcan : ((jointMachine aead p f).run (List.replicate n (.sealCall [] []))).1.CanSeal [] [] :=
      ⟨hpair.live, by simp, by simp, by omega⟩
    rw [List.replicate_succ', Machine.run_concat]
    refine ⟨halong.concat hlt, ?_⟩
    simp only [jointMachine, jointStep] at hcan hcount ⊢
    rw [SecureSession.sealRecord_ok aead _ hcan]
    simp only [hcount]

/-! ## The limit -/

/-- The two record layers run from the same material: in a run whose calls all find their
counter below 2^64 - 1, every call has the same effect on both sides. After such a run, a
`seal` at the limit differs, and so does an `open` that Python accepts there. -/
theorem record_layers_agree {aead : Aead} (hlaw : aead.Lawful) (kdf : Kdf) {sessionId : PyStr}
    {sharedSecret transcriptHash : Fixed 32} {role : Role} {p : SecureSession} {f : PipaSecureSession}
    (hp : SecureSession.fromSharedSecret kdf sessionId sharedSecret.val transcriptHash.val role = some p)
    (hf : (PipaSecureSession.beginFromSharedSecret kdf sessionId.bytes sharedSecret transcriptHash
      (role = .client)).1 = f) {calls : List JointCall} (hb : ∀ c ∈ calls, c.Bounded)
    (hlimit : (jointMachine aead p f).Along BelowLimit calls) :
    (∀ pre c post, calls = pre ++ c :: post →
      JointOut.Agrees sessionId ((jointMachine aead p f).run pre).1.sendSequence
        ((jointMachine aead p f).out pre c)) ∧
    (∀ payload additionalData, (JointCall.sealCall payload additionalData).Bounded →
      (JointOut.Agrees sessionId ((jointMachine aead p f).run calls).1.sendSequence
        ((jointMachine aead p f).out calls (.sealCall payload additionalData)) ↔
      BelowLimit ((jointMachine aead p f).run calls) (.sealCall payload additionalData))) ∧
    (∀ sequence ciphertext additionalData,
      (JointCall.openCall sequence ciphertext additionalData).Bounded →
      ((jointMachine aead p f).run calls).1.receiveSequence = maxSequence →
      (JointOut.Agrees sessionId ((jointMachine aead p f).run calls).1.sendSequence
        ((jointMachine aead p f).out calls (.openCall sequence ciphertext additionalData)) ↔
      ∃ e, (((jointMachine aead p f).run calls).1.openRecord aead (.dict (SecureSession.sealedFrame
        ((jointMachine aead p f).run calls).1.sessionId sequence.toNat ciphertext)) additionalData).2 =
          .error e)) := by
  have hpaired : Paired p f ∧ p.sessionId = sessionId := by
    obtain ⟨hnone, -⟩ | ⟨q, hq, -, -, -, hpair⟩ :=
      installation_paired kdf sessionId sharedSecret transcriptHash role
    · rw [hp] at hnone
      cases hnone
    · rw [hp] at hq
      obtain rfl := Option.some.inj hq
      rw [hf] at hpair
      exact ⟨hpair, SecureSession.fromSharedSecret_sessionId hp⟩
  obtain ⟨hpair, rfl⟩ := hpaired
  have hend := run_paired hlaw hpair hb hlimit
  refine ⟨?_, ?_, ?_⟩
  · intro pre c post hcalls
    exact calls_agree hlaw hpair hb hlimit hcalls
  · intro payload additionalData hbound
    constructor
    · intro hagree
      by_contra hnot
      have hle := hend.le_limit.1
      have hcount : ((jointMachine aead p f).run calls).1.sendSequence = maxSequence := by
        simp only [BelowLimit] at hnot
        omega
      exact seal_differs hlaw hpair hb hlimit hcount hbound _ _ hagree
    · intro hlt
      have hagree := (hend.step hlaw hbound hlt).1
      rw [run_sessionId] at hagree
      exact hagree
  · intro sequence ciphertext additionalData _ hreceive
    have hnone : ((jointMachine aead p f).run calls).2.openRecord aead sequence ciphertext additionalData
        (some (maxRecordBytes + 16)) = (((jointMachine aead p f).run calls).2, none) :=
      hend.open_at_limit hreceive
    rw [← toOption_eq_none]
    show Except.toOption _ = Prod.snd _ ↔ _
    rw [hnone]

def vectorId : PyStr := PyStr.ofString "vector-session"
def vectorSecret : Fixed 32 := .fill 32 1
def vectorHash : Fixed 32 := .fill 32 2

/-- The two client sessions of one concrete handshake. -/
def vectorPython : SecureSession :=
  (SecureSession.fromSharedSecret Kdf.checksum vectorId vectorSecret.val vectorHash.val .client).get
    (by decide)

def vectorFirmware : PipaSecureSession :=
  (PipaSecureSession.beginFromSharedSecret Kdf.checksum vectorId.bytes vectorSecret vectorHash true).1

theorem vectorPython_eq :
    SecureSession.fromSharedSecret Kdf.checksum vectorId vectorSecret.val vectorHash.val .client =
      some vectorPython :=
  (Option.some_get _).symm

theorem vector_paired : Paired vectorPython vectorFirmware ∧ vectorPython.sendSequence = 0 := by
  obtain ⟨hnone, -⟩ | ⟨p, hp, hsend, -, -, hpair⟩ :=
    installation_paired Kdf.checksum vectorId vectorSecret vectorHash .client
  · rw [vectorPython_eq] at hnone
    cases hnone
  · rw [vectorPython_eq] at hp
    obtain rfl := Option.some.inj hp
    exact ⟨hpair, hsend⟩

theorem record_layers_agree_vector :
    JointOut.Agrees vectorId
      ((jointMachine .checksum vectorPython vectorFirmware).run [.sealCall [1, 2, 3] [9]]).1.sendSequence
      ((jointMachine .checksum vectorPython vectorFirmware).out [.sealCall [1, 2, 3] [9]]
        (.openCall 0 [4] [])) := by
  have hbounded : ∀ c ∈ [JointCall.sealCall [1, 2, 3] [9], .openCall 0 [4] []], c.Bounded := by
    simp [JointCall.Bounded, maxRecordBytes]
  have hfirst : BelowLimit (vectorPython, vectorFirmware) (.sealCall [1, 2, 3] [9]) := by decide
  have hagree := (record_layers_agree Aead.checksum_lawful Kdf.checksum vectorPython_eq rfl hbounded
    ((Machine.Along.nil.concat hfirst).concat (by decide))).1
  exact hagree [.sealCall [1, 2, 3] [9]] (.openCall 0 [4] []) [] rfl

/-- After 2^64 - 1 empty records the next one is sealed by Python and refused by the firmware. -/
theorem record_layers_differ_at_limit :
    (∀ c ∈ List.replicate maxSequence (JointCall.sealCall [] []), c.Bounded) ∧
    (JointCall.sealCall [] []).Bounded ∧
    ¬ JointOut.Agrees vectorId
      ((jointMachine .checksum vectorPython vectorFirmware).run
        (List.replicate maxSequence (.sealCall [] []))).1.sendSequence
      ((jointMachine .checksum vectorPython vectorFirmware).out
        (List.replicate maxSequence (.sealCall [] [])) (.sealCall [] [])) := by
  have hbounded : ∀ n, ∀ c ∈ List.replicate n (JointCall.sealCall [] []), c.Bounded := by
    simp [JointCall.Bounded]
  obtain ⟨halong, hcount⟩ :=
    replicate_sealCall Aead.checksum_lawful vector_paired.1 vector_paired.2 (le_refl maxSequence)
  have hnext : (JointCall.sealCall [] []).Bounded := by simp [JointCall.Bounded]
  exact ⟨hbounded maxSequence, hnext,
    seal_differs Aead.checksum_lawful vector_paired.1 (hbounded maxSequence) halong hcount hnext _ _⟩

end Pipa.Secure
