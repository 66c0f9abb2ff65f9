import Pipa.Secure.Handshake
import Pipa.Secure.Nonces

/- The record layer over a network the attacker owns: two sessions of one
   handshake, every frame given to `open` chosen freely.

   The cipher is ideal in the sense of `Unforged`: what decrypts was encrypted, with
   that key, nonce and associated data, by one of the two. The nonce says which
   record it was and the direction's key and prefix whose, so what one side returns
   is, record by record, what the other side sealed (`Linked`). -/
namespace Pipa.Secure
open Pipa.Lib

/-! ## Sessions of one handshake -/

def Role.peer : Role → Role
  | .client => .server
  | .server => .client

/-- What one side sends with, the other receives with. -/
structure Mirrored (base : Role → SecureSession) : Prop where
  live : ∀ r, (base r).closed = false
  send : ∀ r, (base r).sendSequence = 0
  receive : ∀ r, (base r).receiveSequence = 0
  sessionId : ∀ r, (base r.peer).sessionId = (base r).sessionId
  key : ∀ r, (base r.peer).sendKey = (base r).receiveKey
  noncePrefix : ∀ r, (base r.peer).sendNoncePrefix = (base r).receiveNoncePrefix

/-- The two directions do not share both their key and their nonce prefix. -/
def Separated (base : Role → SecureSession) : Prop :=
  ¬ ((base .client).sendKey = (base .server).sendKey ∧
    (base .client).sendNoncePrefix = (base .server).sendNoncePrefix)

theorem Separated.own {base : Role → SecureSession} (h : Separated base) (hm : Mirrored base) (r : Role) :
    ¬ ((base r).sendKey = (base r).receiveKey ∧ (base r).sendNoncePrefix = (base r).receiveNoncePrefix) := by
  intro ⟨hkey, hstart⟩
  rw [← hm.key r] at hkey
  rw [← hm.noncePrefix r] at hstart
  cases r with
  | client => exact h ⟨hkey, hstart⟩
  | server => exact h ⟨hkey.symm, hstart.symm⟩

/-! ## The network -/

/-- A record that was sealed, the frame it went out in and the encryption made for it. -/
structure Sent where
  payload : Bytes
  additionalData : Bytes
  frame : Value
  encryption : Encryption

/-- A session, what it sealed and what its `open` returned. -/
structure Endpoint where
  session : SecureSession
  sent : List Sent
  returned : List (Bytes × Bytes)

/-- The payloads and additional data that were sealed. -/
def Endpoint.sealedRecords (e : Endpoint) : List (Bytes × Bytes) :=
  e.sent.map (fun x => (x.payload, x.additionalData))

namespace Endpoint
variable (aead : Aead)

def sealRecord (e : Endpoint) (payload additionalData : Bytes) : Endpoint :=
  let r := e.session.sealRecord aead payload additionalData
  match r.2.encryption, r.2.result with
  | some encryption, .ok frame =>
    { e with session := r.1, sent := e.sent ++ [⟨payload, additionalData, frame, encryption⟩] }
  | _, _ => { e with session := r.1 }

def openRecord (e : Endpoint) (frame : Value) (additionalData : Bytes) : Endpoint :=
  match e.session.openRecord aead frame additionalData with
  | (session, .ok payload) =>
    { e with session := session, returned := e.returned ++ [(payload, additionalData)] }
  | (session, .error _) => { e with session := session }

end Endpoint

abbrev Link := Role → Endpoint

inductive LinkOp where
  | sealCall (r : Role) (payload additionalData : Bytes)
  | openCall (r : Role) (frame : Value) (additionalData : Bytes) -- any frame the attacker likes
  | close (r : Role)

def linkStep (aead : Aead) (l : Link) : LinkOp → Link
  | .sealCall r payload additionalData => Function.update l r ((l r).sealRecord aead payload additionalData)
  | .openCall r frame additionalData => Function.update l r ((l r).openRecord aead frame additionalData)
  | .close r => Function.update l r { l r with session := (l r).session.close }

def linkMachine (aead : Aead) (base : Role → SecureSession) : Machine Link LinkOp Unit where
  init := fun r => ⟨base r, [], []⟩
  step l op := (linkStep aead l op, ())

/-- The ideal cipher: a ciphertext that decrypts was encrypted by one of the two sides, under the
key, nonce and associated data it is decrypted with. -/
def Unforged (aead : Aead) (l : Link) : LinkOp → Prop
  | .openCall r frame additionalData => ∀ ciphertext payload,
      (l r).session.checkFrame frame = .ok ciphertext →
      (l r).session.decryption aead ciphertext additionalData = some payload →
      ∃ r', ∃ x ∈ (l r').sent, x.encryption.key = (l r).session.receiveKey.val ∧
        x.encryption.nonce = nonceOf (l r).session.receiveNoncePrefix (l r).session.receiveSequence ∧
        x.encryption.associatedData =
          headerOf (l r).session.sessionId (l r).session.receiveSequence ++ additionalData ∧
        x.encryption.ciphertext = ciphertext
  | _ => True

/-! ## Single endpoints -/

/-- Record number `i` of a session. -/
structure IsRecord (aead : Aead) (base : SecureSession) (i : Nat) (x : Sent) : Prop where
  number : i ≤ maxSequence
  size : x.payload.length ≤ maxRecordBytes
  dataSize : x.additionalData.length ≤ 1024
  encryption : x.encryption =
    SecureSession.encryptionOf aead { base with sendSequence := i } x.payload x.additionalData
  frame : x.frame = .dict (SecureSession.sealedFrame base.sessionId i x.encryption.ciphertext)

/-- An endpoint is its first session with the counters moved on, and has sealed record after
record. -/
structure Tracked (aead : Aead) (base : SecureSession) (e : Endpoint) : Prop where
  session : e.session = { base with
    sendSequence := e.sent.length, receiveSequence := e.returned.length, closed := e.session.closed }
  records : ∀ i x, e.sent[i]? = some x → IsRecord aead base i x

namespace Tracked
variable {aead : Aead} {base : SecureSession} {e : Endpoint}

theorem start (aead : Aead) (hs : base.sendSequence = 0) (hr : base.receiveSequence = 0) :
    Tracked aead base ⟨base, [], []⟩ where
  session := by
    cases base
    simp only at hs hr
    subst hs hr
    rfl
  records := by simp

theorem send_eq (h : Tracked aead base e) : e.session.sendSequence = e.sent.length := by rw [h.session]

theorem receive_eq (h : Tracked aead base e) : e.session.receiveSequence = e.returned.length := by
  rw [h.session]

theorem sealRecord (h : Tracked aead base e) (payload additionalData : Bytes) :
    Tracked aead base (e.sealRecord aead payload additionalData) := by
  unfold Endpoint.sealRecord
  by_cases hcan : e.session.CanSeal payload additionalData
  · rw [SecureSession.sealRecord_ok aead _ hcan]
    have hnumber := hcan.sequence
    rw [h.send_eq] at hnumber
    refine ⟨?_, ?_⟩
    · rw [h.session]
      simp
    · intro i x hx
      rcases Nat.lt_trichotomy i e.sent.length with hlt | rfl | hgt
      · rw [List.getElem?_append_left hlt] at hx
        exact h.records i x hx
      · simp only [List.getElem?_append_right (Nat.le_refl _), Nat.sub_self, List.getElem?_cons_zero,
          Option.some.injEq] at hx
        subst hx
        refine ⟨hnumber, hcan.size, hcan.dataSize, ?_, ?_⟩
        · rw [h.session]
          rfl
        · rw [h.session]
      · rw [List.getElem?_eq_none (by simp; omega)] at hx
        cases hx
  · obtain ⟨err, herr, -⟩ := SecureSession.sealRecord_fails aead _ hcan
    rw [herr]
    exact ⟨h.session, h.records⟩

theorem openRecord (h : Tracked aead base e) (frame : Value) (additionalData : Bytes) :
    Tracked aead base (e.openRecord aead frame additionalData) := by
  unfold Endpoint.openRecord
  obtain ⟨err, herr⟩ | ⟨payload, hok⟩ := SecureSession.openRecord_cases aead e.session frame additionalData
  · rw [herr]
    exact ⟨h.session, h.records⟩
  · rw [hok]
    refine ⟨?_, h.records⟩
    rw [h.session]
    simp

theorem close (h : Tracked aead base e) : Tracked aead base { e with session := e.session.close } where
  session := by
    rw [h.session]
    rfl
  records := h.records

end Tracked

/-! ## The link -/

theorem openRecord_inv {aead : Aead} {s s' : SecureSession} {frame : Value} {additionalData payload : Bytes}
    (h : s.openRecord aead frame additionalData = (s', .ok payload)) :
    ∃ ciphertext, s.checkFrame frame = .ok ciphertext ∧
      s.decryption aead ciphertext additionalData = some payload := by
  unfold SecureSession.openRecord at h
  split at h
  · cases h
  split at h
  · cases h
  · rename_i ciphertext hcheck
    split at h
    · cases h
    · rename_i payload' hok
      obtain rfl := Except.ok.inj (Prod.mk.inj h).2
      have hle := (SecureSession.checkFrame_ok hcheck).1
      exact ⟨ciphertext, hcheck, (SecureSession.decryptRecord_inv hle hok).2.2⟩

theorem nonceOf_eq {p q : Fixed 4} {m n : Nat} (hm : m ≤ maxSequence) (hn : n ≤ maxSequence)
    (h : nonceOf p m = nonceOf q n) : p = q ∧ m = n := by
  have hstart := (List.append_inj h (by rw [p.property, q.property])).1
  obtain rfl := Subtype.ext hstart
  exact ⟨rfl, nonceOf_inj hm hn h⟩

/-- An element that continues a prefix makes a longer one. -/
theorem concat_prefix {α : Type} {l m : List α} {x : α} (h : l <+: m) (hx : m[l.length]? = some x) :
    l ++ [x] <+: m := by
  obtain ⟨rest, rfl⟩ := h
  rw [List.getElem?_append_right (Nat.le_refl _), Nat.sub_self] at hx
  cases rest with
  | nil => simp at hx
  | cons y rest =>
    obtain rfl := Option.some.inj hx
    exact ⟨rest, by simp⟩

/-- Both endpoints are on track, and each has returned the first of what the other sealed. -/
structure Linked (aead : Aead) (base : Role → SecureSession) (l : Link) : Prop where
  tracked : ∀ r, Tracked aead (base r) (l r)
  returned : ∀ r, (l r).returned <+: (l r.peer).sealedRecords

section
variable {aead : Aead} {base : Role → SecureSession} {l : Link}

/-- What `open` accepts is the peer's next record. -/
theorem Linked.opens_sent (hlaw : aead.Lawful) (hm : Mirrored base) (hsep : Separated base)
    (h : Linked aead base l) {r : Role} {frame : Value} {additionalData payload : Bytes}
    {s' : SecureSession} (hunforged : Unforged aead l (.openCall r frame additionalData))
    (hok : (l r).session.openRecord aead frame additionalData = (s', .ok payload)) :
    ∃ x, (l r.peer).sent[(l r).returned.length]? = some x ∧ x.payload = payload ∧
      x.additionalData = additionalData ∧ (l r).session.checkFrame frame = .ok x.encryption.ciphertext := by
  obtain ⟨ciphertext, hcheck, hdec⟩ := openRecord_inv hok
  have hle := (SecureSession.checkFrame_ok hcheck).1
  obtain ⟨r', x, hx, hkey, hnonce, had, hct⟩ := hunforged ciphertext payload hcheck hdec
  obtain ⟨i, hi⟩ := List.mem_iff_getElem?.mp hx
  have hrec := (h.tracked r').records i x hi
  have hsession := (h.tracked r).session
  -- the nonce tells the record's number and its direction
  have hsame : (base r').sendNoncePrefix = (base r).receiveNoncePrefix ∧ i = (l r).returned.length := by
    rw [hrec.encryption, hsession] at hnonce
    rw [(h.tracked r).receive_eq] at hle
    exact nonceOf_eq hrec.number hle hnonce
  obtain ⟨hstart, rfl⟩ := hsame
  have hkeys : (base r').sendKey = (base r).receiveKey := by
    rw [hrec.encryption, hsession] at hkey
    exact Subtype.ext hkey
  have hpeer : r' = r.peer := by
    have hne : r' ≠ r := by
      rintro rfl
      exact hsep.own hm r' ⟨hkeys, hstart⟩
    cases r <;> cases r' <;> first | rfl | exact absurd rfl hne
  subst hpeer
  have hdata : x.additionalData = additionalData := by
    rw [hrec.encryption, hsession] at had
    simp only [SecureSession.encryptionOf, hm.sessionId r] at had
    exact List.append_cancel_left had
  have hpayload : x.payload = payload := by
    have hplain := hlaw.decrypt_encrypt x.encryption.key x.encryption.nonce x.payload
      x.encryption.associatedData
    have henc : x.encryption.ciphertext = aead.encrypt x.encryption.key x.encryption.nonce x.payload
        x.encryption.associatedData := by
      rw [hrec.encryption]
      rfl
    rw [← henc, hkey, hnonce, had, hct] at hplain
    rw [SecureSession.decryption] at hdec
    exact Option.some.inj (hplain.symm.trans hdec)
  exact ⟨x, hi, hpayload, hdata, hct ▸ hcheck⟩

theorem Linked.opens_next (hlaw : aead.Lawful) (hm : Mirrored base) (hsep : Separated base)
    (h : Linked aead base l) {r : Role} {frame : Value} {additionalData payload : Bytes}
    {s' : SecureSession} (hunforged : Unforged aead l (.openCall r frame additionalData))
    (hok : (l r).session.openRecord aead frame additionalData = (s', .ok payload)) :
    (l r.peer).sealedRecords[(l r).returned.length]? = some (payload, additionalData) := by
  obtain ⟨x, hx, rfl, rfl, -⟩ := h.opens_sent hlaw hm hsep hunforged hok
  rw [Endpoint.sealedRecords, List.getElem?_map, hx, Option.map_some]

theorem sealRecord_keeps (aead : Aead) (e : Endpoint) (payload additionalData : Bytes) :
    (e.sealRecord aead payload additionalData).returned = e.returned ∧
      e.sealedRecords <+: (e.sealRecord aead payload additionalData).sealedRecords := by
  simp only [Endpoint.sealRecord]
  split
  · refine ⟨rfl, ?_⟩
    simp only [Endpoint.sealedRecords, List.map_append]
    exact List.prefix_append _ _
  · exact ⟨rfl, List.prefix_refl _⟩

theorem openRecord_sent (e : Endpoint) (frame : Value) (additionalData : Bytes) :
    (e.openRecord aead frame additionalData).sent = e.sent := by
  unfold Endpoint.openRecord
  split <;> rfl

/-- Replacing one endpoint, given what it has returned and sealed then. -/
theorem Linked.update (h : Linked aead base l) (r : Role) {e : Endpoint} (htracked : Tracked aead (base r) e)
    (hreturned : e.returned <+: (l r.peer).sealedRecords)
    (hsealed : (l r).sealedRecords <+: e.sealedRecords) : Linked aead base (Function.update l r e) := by
  have hpeer : ∀ r : Role, r.peer ≠ r := by
    intro r
    cases r <;> decide
  refine ⟨?_, ?_⟩
  · intro r'
    by_cases hr : r' = r
    · subst hr
      rwa [Function.update_self]
    · rw [Function.update_of_ne hr]
      exact h.tracked r'
  · intro r'
    by_cases hr : r' = r
    · subst hr
      rw [Function.update_self, Function.update_of_ne (hpeer r')]
      exact hreturned
    · have hr' : r'.peer = r := by
        cases r <;> cases r' <;> first | rfl | exact absurd rfl hr
      rw [Function.update_of_ne hr, hr', Function.update_self]
      exact (hr' ▸ h.returned r').trans hsealed

theorem Linked.open_step (h : Linked aead base l) {r : Role} {frame : Value} {additionalData : Bytes}
    (hnext : ∀ s' payload, (l r).session.openRecord aead frame additionalData = (s', .ok payload) →
      (l r.peer).sealedRecords[(l r).returned.length]? = some (payload, additionalData)) :
    Linked aead base (linkStep aead l (.openCall r frame additionalData)) := by
  refine h.update r ((h.tracked r).openRecord frame additionalData) ?_ ?_
  · unfold Endpoint.openRecord
    split
    · rename_i s' payload hok
      exact concat_prefix (h.returned r) (hnext s' payload hok)
    · exact h.returned r
  · simp [Endpoint.sealedRecords, openRecord_sent]

theorem Linked.step (hlaw : aead.Lawful) (hm : Mirrored base) (hsep : Separated base)
    (h : Linked aead base l) {op : LinkOp} (hunforged : Unforged aead l op) :
    Linked aead base (linkStep aead l op) := by
  cases op with
  | sealCall r payload additionalData =>
    obtain ⟨hreturned, hsealed⟩ := sealRecord_keeps aead (l r) payload additionalData
    refine h.update r ((h.tracked r).sealRecord payload additionalData) ?_ hsealed
    rw [hreturned]
    exact h.returned r
  | openCall r frame additionalData =>
    refine h.open_step ?_
    intro s' payload hok
    exact h.opens_next hlaw hm hsep hunforged hok
  | close r => exact h.update r (h.tracked r).close (h.returned r) (List.prefix_refl _)

theorem run_linked (hlaw : aead.Lawful) (hm : Mirrored base) (hsep : Separated base) {ops : List LinkOp}
    (hideal : (linkMachine aead base).Along (Unforged aead) ops) :
    Linked aead base ((linkMachine aead base).run ops) := by
  refine Machine.inv_along ?_ ?_ hideal
  · exact ⟨fun r => Tracked.start aead (hm.send r) (hm.receive r), fun r => List.prefix_refl _⟩
  · intro l op hl hop
    exact hl.step hlaw hm hsep hop

/-! ## Honest delivery -/

/-- What one session encrypts under a number, the one facing it returns when it is there. -/
theorem openRecord_facing (hlaw : aead.Lawful) {send s : SecureSession} (hkey : send.sendKey = s.receiveKey)
    (hstart : send.sendNoncePrefix = s.receiveNoncePrefix) (hid : send.sessionId = s.sessionId)
    (hlive : s.closed = false) (hnumber : s.receiveSequence ≤ maxSequence) {payload additionalData : Bytes}
    (hsize : payload.length ≤ maxRecordBytes) (hdata : additionalData.length ≤ 1024) {frame : Value}
    (hcheck : s.checkFrame frame = .ok (SecureSession.encryptionOf aead
      { send with sendSequence := s.receiveSequence } payload additionalData).ciphertext) :
    s.openRecord aead frame additionalData =
      ({ s with receiveSequence := s.receiveSequence + 1 }, .ok payload) := by
  have hdec : s.decryption aead (SecureSession.encryptionOf aead
      { send with sendSequence := s.receiveSequence } payload additionalData).ciphertext additionalData =
        some payload := by
    rw [SecureSession.decryption, ← hkey, ← hstart, ← hid]
    exact hlaw.decrypt_encrypt _ _ _ _
  have hlength := hlaw.decrypt_length _ _ _ _ _ hdec
  exact SecureSession.openRecord_accepted hlive hcheck
    (SecureSession.decryptRecord_ok hlaw hnumber (by omega) hdata hdec)

/-- The checks of `open` on the frame of the next number. -/
theorem checkFrame_facing (hlaw : aead.Lawful) {send s : SecureSession} (hid : send.sessionId = s.sessionId)
    (hnumber : s.receiveSequence ≤ maxSequence) (payload additionalData : Bytes) :
    let ciphertext := (SecureSession.encryptionOf aead
      { send with sendSequence := s.receiveSequence } payload additionalData).ciphertext
    s.checkFrame (.dict (SecureSession.sealedFrame send.sessionId s.receiveSequence ciphertext)) =
      .ok ciphertext := by
  intro ciphertext
  have hne : ciphertext ≠ [] := by
    intro hnil
    have hlength : ciphertext.length = payload.length + 16 := hlaw.length _ _ _ _
    rw [hnil, List.length_nil] at hlength
    omega
  rw [hid, SecureSession.checkFrame_sealedFrame _ hnumber, if_neg (not_not.mpr rfl), if_neg hne]

/-- The peer's next frame is accepted by an open session. -/
theorem Linked.accepts_next (hlaw : aead.Lawful) (hm : Mirrored base) (h : Linked aead base l) {r : Role}
    {x : Sent} (hopen : (l r).session.closed = false)
    (hx : (l r.peer).sent[(l r).session.receiveSequence]? = some x) :
    (l r).session.openRecord aead x.frame x.additionalData =
      ({ (l r).session with receiveSequence := (l r).session.receiveSequence + 1 }, .ok x.payload) := by
  have hrec := (h.tracked r.peer).records _ x hx
  have hsession := (h.tracked r).session
  have hid : (base r.peer).sessionId = (l r).session.sessionId := by rw [hsession, hm.sessionId r]
  refine openRecord_facing hlaw ?_ ?_ hid hopen hrec.number hrec.size hrec.dataSize ?_
  · rw [hsession, hm.key r]
  · rw [hsession, hm.noncePrefix r]
  · rw [hrec.frame, hrec.encryption]
    exact checkFrame_facing hlaw hid hrec.number _ _

/-- The frames of `xs`, handed to side `r` in order. -/
def deliveries (r : Role) (xs : List Sent) : List LinkOp :=
  xs.map (fun x => .openCall r x.frame x.additionalData)

/-- Handing over what is outstanding returns it all. -/
theorem Linked.deliver (hlaw : aead.Lawful) (hm : Mirrored base) {r : Role} {pending : List Sent}
    (h : Linked aead base l) (hopen : (l r).session.closed = false)
    (hpending : (l r.peer).sent.drop (l r).returned.length = pending) :
    ((deliveries r pending).foldl (linkStep aead) l r).returned = (l r.peer).sealedRecords := by
  induction pending generalizing l with
  | nil =>
    have hlen := List.drop_eq_nil_iff.mp hpending
    refine (h.returned r).eq_of_length_le ?_
    rwa [Endpoint.sealedRecords, List.length_map]
  | cons x pending ih =>
    have hx : (l r.peer).sent[(l r).returned.length]? = some x := by
      rw [← List.head?_drop, hpending, List.head?_cons]
    have hnext := h.accepts_next hlaw hm hopen (by rwa [(h.tracked r).receive_eq])
    have hstep : linkStep aead l (.openCall r x.frame x.additionalData) =
        Function.update l r ⟨{ (l r).session with receiveSequence := (l r).session.receiveSequence + 1 },
          (l r).sent, (l r).returned ++ [(x.payload, x.additionalData)]⟩ := by
      simp only [linkStep, Endpoint.openRecord, hnext]
    have hlinked : Linked aead base (linkStep aead l (.openCall r x.frame x.additionalData)) := by
      refine h.open_step ?_
      intro s' payload hok
      rw [hnext] at hok
      obtain rfl := Except.ok.inj (Prod.mk.inj hok).2
      rw [Endpoint.sealedRecords, List.getElem?_map, hx, Option.map_some]
    have hself : linkStep aead l (.openCall r x.frame x.additionalData) r =
        ⟨{ (l r).session with receiveSequence := (l r).session.receiveSequence + 1 },
          (l r).sent, (l r).returned ++ [(x.payload, x.additionalData)]⟩ := by
      rw [hstep, Function.update_self]
    have hpeer : linkStep aead l (.openCall r x.frame x.additionalData) r.peer = l r.peer := by
      rw [hstep, Function.update_of_ne (by cases r <;> decide)]
    rw [deliveries, List.map_cons, List.foldl_cons, ← hpeer]
    refine ih hlinked (by rw [hself]; exact hopen) ?_
    rw [hself, hpeer, List.length_append, List.length_singleton, ← List.drop_drop, hpending]
    rfl

theorem run_append (ops ops' : List LinkOp) :
    (linkMachine aead base).run (ops ++ ops') =
      ops'.foldl (linkStep aead) ((linkMachine aead base).run ops) := by
  simp only [Machine.run, linkMachine, List.foldl_append]

end

/-- The sessions of a handshake, by role. -/
def pairOf (client server : SecureSession) : Role → SecureSession
  | .client => client
  | .server => server

theorem pairOf_mirrored {kdf : Kdf} {sessionId : PyStr} {secret hash : Bytes} {client server : SecureSession}
    (hserver : SecureSession.fromSharedSecret kdf sessionId secret hash .server = some server)
    (hclient : SecureSession.fromSharedSecret kdf sessionId secret hash .client = some client) :
    Mirrored (pairOf client server) := by
  unfold SecureSession.fromSharedSecret at hserver hclient
  split at hserver
  · rename_i hid
    rw [dif_pos hid] at hclient
    split at hserver
    · cases hserver
    rename_i hsecret
    rw [if_neg hsecret] at hclient
    split at hserver
    · cases hserver
    rename_i hhash
    rw [if_neg hhash] at hclient
    split at hserver
    · cases hserver
    · rename_i hzero
      rw [if_neg hzero] at hclient
      obtain rfl := Option.some.inj hserver
      obtain rfl := Option.some.inj hclient
      constructor <;> intro r <;> cases r <;> rfl
  · cases hserver

/-- The record layer between the two sessions of a handshake, under an attacker who hands any
frame to either side: what one side returns is the first part of what the other sealed; a
refused frame changes nothing; the next honest frame is accepted by an open session; and
handing over what is outstanding returns it all. -/
theorem record_layer_delivers_prefix {aead : Aead} (hlaw : aead.Lawful) {crypto : Crypto}
    (hx : crypto.Commutes) {clientIdentity serverIdentity : SecureIdentity} {clientHello : ClientHello}
    {serverHello : ServerHello} {clientKey clientEphemeral serverKey serverEphemeral : Fixed 32}
    {serverNonce : Bytes} {expectedServerId : Option PyStr} {client server : SecureSession}
    (hserver : createServerHello crypto serverIdentity clientHello clientKey serverEphemeral serverNonce =
      some (serverHello, server))
    (hclient : completeClientHandshake crypto clientIdentity clientHello clientEphemeral serverHello serverKey
      expectedServerId = some client)
    (hsep : Separated (pairOf client server)) {ops : List LinkOp}
    (hideal : (linkMachine aead (pairOf client server)).Along (Unforged aead) ops) :
    let l := (linkMachine aead (pairOf client server)).run ops
    (∀ r, (l r).returned <+: (l r.peer).sealedRecords) ∧
    (∀ r frame additionalData e, ((l r).session.openRecord aead frame additionalData).2 = .error e →
      ((l r).session.openRecord aead frame additionalData).1 = (l r).session) ∧
    (∀ r x, (l r).session.closed = false →
      (l r.peer).sent[(l r).session.receiveSequence]? = some x →
      (l r).session.openRecord aead x.frame x.additionalData =
        ({ (l r).session with receiveSequence := (l r).session.receiveSequence + 1 }, .ok x.payload)) ∧
    (∀ r, (l r).session.closed = false →
      ((linkMachine aead (pairOf client server)).run
        (ops ++ deliveries r ((l r.peer).sent.drop (l r).returned.length)) r).returned =
          (l r.peer).sealedRecords) := by
  intro l
  obtain ⟨secret, hash, hs, hc⟩ := handshake_sessions hx hserver hclient
  have hm : Mirrored (pairOf client server) := pairOf_mirrored hs hc
  have hlinked : Linked aead (pairOf client server) l := run_linked hlaw hm hsep hideal
  refine ⟨hlinked.returned, ?_, ?_, ?_⟩
  · intro r frame additionalData e he
    obtain ⟨e', hfail⟩ | ⟨payload, hok⟩ :=
      SecureSession.openRecord_cases aead (l r).session frame additionalData
    · rw [hfail]
    · rw [hok] at he
      cases he
  · intro r x hopen hnext
    exact hlinked.accepts_next hlaw hm hopen hnext
  · intro r hopen
    rw [run_append]
    exact hlinked.deliver hlaw hm hopen rfl

/-- One record of the device, and a frame that is none. -/
def pipaLinkOps : List LinkOp := [.sealCall .client [1, 2, 3] [9], .openCall .server .null []]

def pipaLink : Machine Link LinkOp Unit := linkMachine .checksum (pairOf pipaSession pcAnswer.2)

theorem record_layer_delivers_prefix_pipa :
    (pipaLink.run (pipaLinkOps ++ deliveries .server ((pipaLink.run pipaLinkOps .client).sent.drop
      (pipaLink.run pipaLinkOps .server).returned.length)) .server).returned = [([1, 2, 3], [9])] := by
  have hsep : Separated (pairOf pipaSession pcAnswer.2) := by
    unfold Separated
    decide +kernel
  have hideal : pipaLink.Along (Unforged .checksum) pipaLinkOps := by
    refine (Machine.Along.nil.concat trivial).concat ?_
    intro ciphertext payload hcheck
    cases hcheck
  have hall := ( record_layer_delivers_prefix Aead.checksum_lawful Crypto.checksum_commutes pcAnswer_eq
    pipaSession_eq hsep hideal).2.2.2 .server (by decide +kernel)
  refine hall.trans ?_
  decide +kernel

end Pipa.Secure
