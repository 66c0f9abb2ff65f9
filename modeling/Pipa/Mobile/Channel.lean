import Pipa.Mobile.RecordLayer
import Pipa.Secure.RecordLayer

/- The record layer of the phone and the `SecureSession` of the server, over a network the attacker owns.

   Every step of the two is answered by steps of two Python sessions (`answered_step`): an opened frame by opening
   the frame as it is to be written, a refused one by closing. So what is known of two Python sessions (`Linked`)
   holds of the phone and the server. -/
namespace Pipa.Mobile
open Pipa.Lib
open Pipa.Secure (Aead Encryption Kdf Role SecureSession Sent Endpoint LinkOp)

/-! ## The phone and the server -/

/-- The record layer of the phone, what it sealed and what it opened. -/
structure PhoneEnd where
  layer : PipaSecureRecordLayer
  sent : List Sent
  returned : List (Bytes × Bytes)

namespace PhoneEnd
variable (aead : Aead) (c : Codec)

/-- The payloads and additional data that were sealed. -/
def sealedRecords (phone : PhoneEnd) : List (Bytes × Bytes) := phone.sent.map (fun x => (x.payload, x.additionalData))

/-- After a call that seals: what it sealed is kept. -/
def sealed (phone : PhoneEnd) (payload additionalData : Bytes)
    (r : PipaSecureRecordLayer × PipaSecureRecordLayer.Output) : PhoneEnd :=
  match r.2.encryption, r.2.result with
  | some encryption, .ok frame =>
    { phone with layer := r.1, sent := phone.sent ++ [⟨payload, additionalData, .dict frame, encryption⟩] }
  | _, _ => { phone with layer := r.1 }

def sealRaw (phone : PhoneEnd) (payload additionalData : Bytes) : PhoneEnd :=
  phone.sealed payload additionalData (phone.layer.sealRaw aead c payload additionalData)

/-- Of an object, the JSON text that is sealed is kept. -/
def sealObject (phone : PhoneEnd) (payload : Object) : PhoneEnd :=
  phone.sealed ((c.canonicalJSON payload).getD []) PipaSecureRecordLayer.jsonData
    (phone.layer.sealObject aead c payload)

def openBinary (phone : PhoneEnd) (frame : Object) (additionalData : Bytes) : PhoneEnd :=
  match phone.layer.openBinary aead c frame additionalData with
  | (layer, .ok payload) => { phone with layer := layer, returned := phone.returned ++ [(payload, additionalData)] }
  | (layer, .error _) => { phone with layer := layer }

/-- Of an object, the JSON text it was read from is kept. -/
def openObject (phone : PhoneEnd) (frame : Object) : PhoneEnd :=
  match phone.layer.openObject aead c frame, (phone.layer.openRaw aead c frame PipaSecureRecordLayer.jsonData).2 with
  | (layer, .ok _), .ok plaintext =>
    { phone with layer := layer, returned := phone.returned ++ [(plaintext, PipaSecureRecordLayer.jsonData)] }
  | (layer, _), _ => { phone with layer := layer }

/-- Sealing an object is sealing its JSON text, where it has one. -/
theorem sealObject_cases (phone : PhoneEnd) (payload : Object) :
    phone.sealObject aead c payload = phone ∨
      ∃ plaintext, phone.sealObject aead c payload = phone.sealRaw aead c plaintext PipaSecureRecordLayer.jsonData := by
  unfold sealObject PipaSecureRecordLayer.sealObject
  cases hjson : c.canonicalJSON payload with
  | none => exact .inl rfl
  | some plaintext => exact .inr ⟨plaintext, rfl⟩

end PhoneEnd

structure Ends where
  phone : PhoneEnd
  server : Endpoint

inductive ChannelOp where
  | sealObject (payload : Object)
  | sealBinary (payload additionalData : Bytes)
  | openObject (frame : Object) -- any frame the attacker likes
  | openBinary (frame : Object) (additionalData : Bytes)
  | close
  | serverSeal (payload additionalData : Bytes)
  | serverOpen (frame : Value) (additionalData : Bytes)
  | serverClose

section
variable (aead : Aead) (c : Codec)

def channelStep (e : Ends) : ChannelOp → Ends
  | .sealObject payload => { e with phone := e.phone.sealObject aead c payload }
  | .sealBinary payload additionalData => { e with phone := e.phone.sealRaw aead c payload additionalData }
  | .openObject frame => { e with phone := e.phone.openObject aead c frame }
  | .openBinary frame additionalData => { e with phone := e.phone.openBinary aead c frame additionalData }
  | .close => { e with phone := { e.phone with layer := e.phone.layer.close } }
  | .serverSeal payload additionalData => { e with server := e.server.sealRecord aead payload additionalData }
  | .serverOpen frame additionalData => { e with server := e.server.openRecord aead frame additionalData }
  | .serverClose => { e with server := { e.server with session := e.server.session.close } }

def channel (layer : PipaSecureRecordLayer) (server : SecureSession) : Machine Ends ChannelOp Unit where
  init := ⟨⟨layer, [], []⟩, ⟨server, [], []⟩⟩
  step e op := (channelStep aead c e op, ())

/-- One of the two encrypted this, with this key, nonce and associated data. -/
def Ends.Encrypted (e : Ends) (key nonce associatedData ciphertext : Bytes) : Prop :=
  ∃ x, (x ∈ e.phone.sent ∨ x ∈ e.server.sent) ∧ x.encryption.key = key ∧ x.encryption.nonce = nonce ∧
    x.encryption.associatedData = associatedData ∧ x.encryption.ciphertext = ciphertext

/-- What the phone decrypts of this frame was encrypted by one of the two. -/
def IdealFor (e : Ends) (frame : Object) (additionalData : Bytes) : Prop :=
  ∀ ciphertext json payload, e.phone.layer.readFrame c frame = .ok ciphertext →
    c.canonicalJSON (PipaSecureRecordLayer.header e.phone.layer.sessionID e.phone.layer.receiveSequence) = some json →
    aead.decrypt e.phone.layer.receiveKey.val
      (e.phone.layer.receiveNoncePrefix.val ++ beBytes 8 e.phone.layer.receiveSequence) ciphertext
      (json ++ additionalData) = some payload →
    e.Encrypted e.phone.layer.receiveKey.val
      (e.phone.layer.receiveNoncePrefix.val ++ beBytes 8 e.phone.layer.receiveSequence) (json ++ additionalData)
      ciphertext

/-- The ideal cipher. -/
def Ideal (e : Ends) : ChannelOp → Prop
  | .openObject frame => IdealFor aead c e frame PipaSecureRecordLayer.jsonData
  | .openBinary frame additionalData => IdealFor aead c e frame additionalData
  | .serverOpen frame additionalData => ∀ ciphertext payload, e.server.session.checkFrame frame = .ok ciphertext →
      e.server.session.decryption aead ciphertext additionalData = some payload →
      e.Encrypted e.server.session.receiveKey.val
        (Secure.nonceOf e.server.session.receiveNoncePrefix e.server.session.receiveSequence)
        (Secure.headerOf e.server.session.sessionId e.server.session.receiveSequence ++ additionalData) ciphertext
  | _ => True

end

/-! ## What the phone does, a Python session does -/

/-- The ends and a link of two Python sessions. -/
structure Refines (e : Ends) (l : Secure.Link) : Prop where
  stands : e.phone.layer.Stands (l .client).session
  sent : (l .client).sent = e.phone.sent
  returned : (l .client).returned = e.phone.returned
  server : l .server = e.server

section
variable {aead : Aead} {c : Codec} {base : Role → SecureSession} {e : Ends} {ops : List LinkOp}

/-- The link can go on, so that it stands to `e` again. -/
def Answered (aead : Aead) (base : Role → SecureSession) (ops : List LinkOp) (e : Ends) : Prop :=
  ∃ more, (Secure.linkMachine aead base).Along (Secure.Unforged aead) (ops ++ more) ∧
    Refines e ((Secure.linkMachine aead base).run (ops ++ more))

theorem Answered.none (halong : (Secure.linkMachine aead base).Along (Secure.Unforged aead) ops)
    (h : Refines e ((Secure.linkMachine aead base).run ops)) : Answered aead base ops e :=
  ⟨[], by rwa [List.append_nil], by rwa [List.append_nil]⟩

theorem Answered.one (halong : (Secure.linkMachine aead base).Along (Secure.Unforged aead) ops) (op : LinkOp)
    (hunforged : Secure.Unforged aead ((Secure.linkMachine aead base).run ops) op)
    (h : Refines e (Secure.linkStep aead ((Secure.linkMachine aead base).run ops) op)) : Answered aead base ops e :=
  ⟨[op], halong.concat hunforged, by rwa [Machine.run_concat]⟩

/-- The link after a step of its client. -/
theorem Refines.client {l : Secure.Link} (h : Refines e l) {client : Endpoint} {phone : PhoneEnd}
    (hstands : phone.layer.Stands client.session) (hsent : client.sent = phone.sent)
    (hreturned : client.returned = phone.returned) :
    Refines { e with phone := phone } (Function.update l .client client) := by
  refine ⟨?_, ?_, ?_, ?_⟩
  · rwa [Function.update_self]
  · rwa [Function.update_self]
  · rwa [Function.update_self]
  · rw [Function.update_of_ne (by decide)]
    exact h.server

/-- The link after a step of its server. -/
theorem Refines.ofServer {l : Secure.Link} (h : Refines e l) (server : Endpoint) :
    Refines { e with server := server } (Function.update l .server server) := by
  have hclient : Function.update l Role.server server Role.client = l .client := Function.update_of_ne (by decide) _ _
  refine ⟨?_, ?_, ?_, Function.update_self _ _ _⟩
  · rw [hclient]
    exact h.stands
  · rw [hclient]
    exact h.sent
  · rw [hclient]
    exact h.returned

variable (halong : (Secure.linkMachine aead base).Along (Secure.Unforged aead) ops)
  (h : Refines e ((Secure.linkMachine aead base).run ops))

include halong h

theorem answered_seal (hc : c.Lawful) (payload additionalData : Bytes) :
    Answered aead base ops { e with phone := e.phone.sealRaw aead c payload additionalData } := by
  unfold PhoneEnd.sealRaw PhoneEnd.sealed
  obtain ⟨err, hfail⟩ | ⟨hopen, hcan, hok⟩ :=
    PipaSecureRecordLayer.sealRaw_cases aead hc h.stands payload additionalData
  · rw [hfail]
    exact .none halong h
  · rw [hok]
    refine .one halong (.sealCall .client payload additionalData) trivial ?_
    simp only [Secure.linkStep, Endpoint.sealRecord, SecureSession.sealRecord_ok aead _ hcan]
    refine h.client ?_ ?_ h.returned
    · have hstands := h.stands
      refine ⟨hstands.sessionID, hstands.sendKey, hstands.receiveKey, hstands.sendNoncePrefix,
        hstands.receiveNoncePrefix, hstands.closed, fun _ => ?_, hstands.receive⟩
      exact congrArg (· + 1) (hstands.send hopen)
    · simp only [h.sent]

/-- Whatever the phone does when it closes, is answered by closing. -/
theorem answered_closed {layer : PipaSecureRecordLayer}
    (hstands : layer.Stands ((Secure.linkMachine aead base).run ops Role.client).session.close) :
    Answered aead base ops { e with phone := { e.phone with layer := layer } } := by
  refine .one halong (.close .client) trivial ?_
  exact h.client hstands h.sent h.returned

/-- The phone refuses a frame and is closed, or it opens it as the link does. -/
theorem answered_openRaw (hlaw : aead.Lawful) (hc : c.Lawful) {frame : Object} {additionalData : Bytes}
    (hideal : IdealFor aead c e frame additionalData) :
    (∃ err, e.phone.layer.openRaw aead c frame additionalData = (e.phone.layer.close, .error err)) ∨
    (∃ plaintext, e.phone.layer.openRaw aead c frame additionalData =
        ({ e.phone.layer with receiveSequence := e.phone.layer.receiveSequence + 1 }, .ok plaintext) ∧
      Answered aead base ops { e with phone :=
        { e.phone with
          layer := { e.phone.layer with receiveSequence := e.phone.layer.receiveSequence + 1 }
          returned := e.phone.returned ++ [(plaintext, additionalData)] } }) := by
  have hstands := h.stands
  obtain hfail | ⟨ciphertext, plaintext, hopen, hread, hcheck, hdecryption, hrecord, hraw⟩ :=
    PipaSecureRecordLayer.openRaw_cases hlaw hc hstands frame additionalData
  · exact .inl hfail
  refine .inr ⟨plaintext, hraw, ?_⟩
  have hreceive := hstands.receive hopen
  have hlast := (PipaSecureRecordLayer.readFrame_ok hread).1
  refine .one halong (.openCall .client (.dict (PipaSecureRecordLayer.nextFrame
    ((Secure.linkMachine aead base).run ops Role.client).session ciphertext)) additionalData) ?_ ?_
  -- the frame as it is to be written is forged no more than the one that came
  · intro ciphertext' payload hcheck' hdecryption'
    rw [hcheck] at hcheck'
    obtain rfl := Except.ok.inj hcheck'
    have hpayload : aead.decrypt e.phone.layer.receiveKey.val
        (e.phone.layer.receiveNoncePrefix.val ++ beBytes 8 e.phone.layer.receiveSequence) ciphertext
        (Secure.headerOf ((Secure.linkMachine aead base).run ops Role.client).session.sessionId
          e.phone.layer.receiveSequence ++ additionalData) = some payload := by
      rw [← hstands.decryption_eq hopen, hdecryption']
    obtain ⟨x, hx, hkey, hnonce, hdata, hciphertext⟩ := hideal ciphertext _ payload hread
      (PipaSecureRecordLayer.header_eq hc hstands (Nat.le_of_lt hlast)) hpayload
    have hmem : ∃ r', x ∈ ((Secure.linkMachine aead base).run ops r').sent := by
      rcases hx with hx | hx
      · exact ⟨.client, by rwa [h.sent]⟩
      · exact ⟨.server, by rwa [h.server]⟩
    obtain ⟨r', hr'⟩ := hmem
    refine ⟨r', x, hr', ?_, ?_, ?_, hciphertext⟩
    · rw [hkey, hstands.receiveKey]
    · rw [hnonce, hstands.receiveNoncePrefix, hreceive, Secure.nonceOf]
    · rw [hdata, hreceive]
  · simp only [Secure.linkStep, Endpoint.openRecord, hrecord]
    refine h.client ?_ h.sent ?_
    · refine ⟨hstands.sessionID, hstands.sendKey, hstands.receiveKey, hstands.sendNoncePrefix,
        hstands.receiveNoncePrefix, hstands.closed, hstands.send, fun _ => ?_⟩
      exact congrArg (· + 1) hreceive
    · simp only [h.returned]

theorem answered_openBinary (hlaw : aead.Lawful) (hc : c.Lawful) {frame : Object} {additionalData : Bytes}
    (hideal : IdealFor aead c e frame additionalData) :
    Answered aead base ops { e with phone := e.phone.openBinary aead c frame additionalData } := by
  have hclosed := answered_closed halong h h.stands.close
  unfold PhoneEnd.openBinary PipaSecureRecordLayer.openBinary
  split_ifs
  · obtain ⟨err, hfail⟩ | ⟨plaintext, hraw, hanswered⟩ := answered_openRaw halong h hlaw hc hideal
    · rw [hfail]
      exact hclosed
    · rw [hraw]
      exact hanswered
  · exact hclosed

theorem answered_openObject (hlaw : aead.Lawful) (hc : c.Lawful) {frame : Object}
    (hideal : IdealFor aead c e frame PipaSecureRecordLayer.jsonData) :
    Answered aead base ops { e with phone := e.phone.openObject aead c frame } := by
  have hclosed := answered_closed halong h h.stands.close
  unfold PhoneEnd.openObject PipaSecureRecordLayer.openObject
  obtain ⟨err, hfail⟩ | ⟨plaintext, hraw, hanswered⟩ := answered_openRaw halong h hlaw hc hideal
  · rw [hfail]
    exact hclosed
  · rw [hraw]
    cases hjson : PipaSecureRecordLayer.readPlaintext c plaintext with
    -- a record without an object closes the phone, though its number has gone up
    | none =>
      simp only [hjson]
      refine answered_closed halong h ?_
      have hstands := h.stands.close
      exact ⟨hstands.sessionID, hstands.sendKey, hstands.receiveKey, hstands.sendNoncePrefix,
        hstands.receiveNoncePrefix, rfl, hstands.send, (by intro hopen; cases hopen)⟩
    | some object =>
      simp only [hjson]
      exact hanswered

theorem answered_serverOpen {frame : Value} {additionalData : Bytes}
    (hideal : Ideal aead c e (.serverOpen frame additionalData)) :
    Answered aead base ops { e with server := e.server.openRecord aead frame additionalData } := by
  refine .one halong (.openCall .server frame additionalData) ?_ ?_
  · intro ciphertext payload hcheck hdecryption
    rw [h.server] at hcheck hdecryption
    obtain ⟨x, hx, hfields⟩ := hideal ciphertext payload hcheck hdecryption
    rw [h.server]
    rcases hx with hx | hx
    · exact ⟨.client, x, by rwa [h.sent], hfields⟩
    · exact ⟨.server, x, by rwa [h.server], hfields⟩
  · rw [Secure.linkStep, h.server]
    exact h.ofServer _

theorem answered_step (hlaw : aead.Lawful) (hc : c.Lawful) {op : ChannelOp} (hideal : Ideal aead c e op) :
    Answered aead base ops (channelStep aead c e op) := by
  cases op with
  | sealObject payload =>
    rw [channelStep]
    obtain hsame | ⟨plaintext, hseal⟩ := e.phone.sealObject_cases aead c payload
    · rw [hsame]
      exact .none halong h
    · rw [hseal]
      exact answered_seal halong h hc plaintext _
  | sealBinary payload additionalData => exact answered_seal halong h hc payload additionalData
  | openObject frame => exact answered_openObject halong h hlaw hc hideal
  | openBinary frame additionalData => exact answered_openBinary halong h hlaw hc hideal
  | close => exact answered_closed halong h h.stands.close
  | serverSeal payload additionalData =>
    refine .one halong (.sealCall .server payload additionalData) trivial ?_
    rw [Secure.linkStep, h.server]
    exact h.ofServer _
  | serverOpen frame additionalData => exact answered_serverOpen halong h hideal
  | serverClose =>
    refine .one halong (.close .server) trivial ?_
    rw [Secure.linkStep, h.server]
    exact h.ofServer _

end

/-! ## The channel -/

/-- Both ends of a handshake. -/
theorem client_of_server {kdf : Kdf} {sessionID : PyStr} {secret hash : Bytes} {server : SecureSession}
    (h : SecureSession.fromSharedSecret kdf sessionID secret hash .server = some server) :
    ∃ client, SecureSession.fromSharedSecret kdf sessionID secret hash .client = some client := by
  unfold SecureSession.fromSharedSecret at h ⊢
  split_ifs at h ⊢
  exact ⟨_, rfl⟩

/-- The key and the nonce of an encryption. -/
def use (x : Sent) : Bytes × Bytes := (x.encryption.key, x.encryption.nonce)

theorem use_of_record {aead : Aead} {s : SecureSession} {i : Nat} {x : Sent} (h : Secure.IsRecord aead s i x) :
    use x = (s.sendKey.val, Secure.nonceOf s.sendNoncePrefix i) := by
  rw [use, h.encryption]
  rfl

/-- An endpoint uses no nonce twice. -/
theorem uses_nodup {aead : Aead} {s : SecureSession} {e : Endpoint} (h : Secure.Tracked aead s e) :
    (e.sent.map use).Nodup := by
  rw [List.nodup_iff_getElem?_ne_getElem?]
  intro i j hij hj heq
  rw [List.length_map] at hj
  have hi := hij.trans hj
  rw [List.getElem?_map, List.getElem?_map, List.getElem?_eq_getElem hi, List.getElem?_eq_getElem hj,
    Option.map_some, Option.map_some, Option.some.injEq] at heq
  have hx := h.records i _ (List.getElem?_eq_getElem hi)
  have hy := h.records j _ (List.getElem?_eq_getElem hj)
  rw [use_of_record hx, use_of_record hy, Prod.mk.injEq] at heq
  exact absurd (Secure.nonceOf_inj hx.number hy.number heq.2) (Nat.ne_of_lt hij)

/-- The two directions have no key and nonce in common. -/
theorem uses_disjoint {aead : Aead} {s t : SecureSession} {e e' : Endpoint} (h : Secure.Tracked aead s e)
    (h' : Secure.Tracked aead t e') (hsep : ¬ (s.sendKey = t.sendKey ∧ s.sendNoncePrefix = t.sendNoncePrefix)) :
    (e.sent.map use).Disjoint (e'.sent.map use) := by
  intro u hu hu'
  obtain ⟨x, hx, rfl⟩ := List.mem_map.mp hu
  obtain ⟨y, hy, heq⟩ := List.mem_map.mp hu'
  obtain ⟨i, hi⟩ := List.mem_iff_getElem?.mp hx
  obtain ⟨j, hj⟩ := List.mem_iff_getElem?.mp hy
  have hrec := h.records i x hi
  have hrec' := h'.records j y hj
  rw [use_of_record hrec, use_of_record hrec', Prod.mk.injEq] at heq
  exact hsep ⟨Subtype.ext heq.1.symm, (Secure.nonceOf_eq hrec.number hrec'.number heq.2.symm).1⟩

/-- A phone that is closed stays as it is. -/
theorem channelStep_closed {aead : Aead} {c : Codec} {e : Ends} (h : e.phone.layer.closed = true) (op : ChannelOp) :
    (channelStep aead c e op).phone = e.phone := by
  have hseal : ∀ payload additionalData, e.phone.sealRaw aead c payload additionalData = e.phone := by
    intro payload additionalData
    rw [PhoneEnd.sealRaw, PipaSecureRecordLayer.sealRaw_closed h]
    rfl
  cases op with
  | sealObject payload =>
    obtain hsame | ⟨plaintext, hraw⟩ := e.phone.sealObject_cases aead c payload
    · exact hsame
    · exact hraw.trans (hseal plaintext _)
  | sealBinary payload additionalData => exact hseal payload additionalData
  | openObject frame =>
    simp only [channelStep, PhoneEnd.openObject, PipaSecureRecordLayer.openObject,
      PipaSecureRecordLayer.openRaw_closed h]
  | openBinary frame additionalData =>
    obtain ⟨err, hfail⟩ : ∃ err, e.phone.layer.openBinary aead c frame additionalData = (e.phone.layer, .error err) :=
      PipaSecureRecordLayer.openBinary_closed h frame additionalData
    simp only [channelStep, PhoneEnd.openBinary, hfail]
  | close => simp only [channelStep, PipaSecureRecordLayer.close_of_closed h]
  | serverSeal payload additionalData => rfl
  | serverOpen frame additionalData => rfl
  | serverClose => rfl

/-- The phone is as it was once it is closed. -/
theorem run_closed {aead : Aead} {c : Codec} {layer : PipaSecureRecordLayer} {server : SecureSession}
    (ops more : List ChannelOp) (h : ((channel aead c layer server).run ops).phone.layer.closed = true) :
    ((channel aead c layer server).run (ops ++ more)).phone = ((channel aead c layer server).run ops).phone := by
  refine Machine.between (R := fun (s t : Ends) => s.phone.layer.closed = true → t.phone = s.phone) ?_ ?_ ?_ ops more h
  · intro s hs
    rfl
  · intro s t u hst htu hs
    have ht := hst hs
    rw [← ht]
    exact htu (by rwa [ht])
  · intro s op hs
    exact channelStep_closed hs op

theorem openBinary_error {aead : Aead} {c : Codec} (hlaw : aead.Lawful) (hc : c.Lawful) {layer : PipaSecureRecordLayer}
    {s : SecureSession} (hstands : layer.Stands s) {frame : Object} {additionalData : Bytes} {err : PipaMobileError}
    (h : (layer.openBinary aead c frame additionalData).2 = .error err) :
    (layer.openBinary aead c frame additionalData).1.closed = true := by
  unfold PipaSecureRecordLayer.openBinary at h ⊢
  split_ifs at h ⊢
  · obtain ⟨err', hfail⟩ | ⟨ciphertext, plaintext, -, -, -, -, -, hraw⟩ :=
      PipaSecureRecordLayer.openRaw_cases hlaw hc hstands frame additionalData
    · rw [hfail]
      rfl
    · rw [hraw] at h
      cases h
  · rfl

theorem openObject_error {aead : Aead} {c : Codec} (hlaw : aead.Lawful) (hc : c.Lawful) {layer : PipaSecureRecordLayer}
    {s : SecureSession} (hstands : layer.Stands s) {frame : Object} {err : PipaMobileError}
    (h : (layer.openObject aead c frame).2 = .error err) : (layer.openObject aead c frame).1.closed = true := by
  unfold PipaSecureRecordLayer.openObject at h ⊢
  obtain ⟨err', hfail⟩ | ⟨ciphertext, plaintext, -, -, -, -, -, hraw⟩ :=
    PipaSecureRecordLayer.openRaw_cases hlaw hc hstands frame PipaSecureRecordLayer.jsonData
  · rw [hfail]
    rfl
  · rw [hraw] at h ⊢
    cases hjson : PipaSecureRecordLayer.readPlaintext c plaintext with
    | none =>
      simp only [hjson]
      rfl
    | some object =>
      simp only [hjson] at h
      cases h

section
variable {aead : Aead} {c : Codec} {client server : SecureSession} {layer : PipaSecureRecordLayer}

theorem run_answered (hlaw : aead.Lawful) (hc : c.Lawful) (hstands : layer.Stands client) {ops : List ChannelOp}
    (hideal : (channel aead c layer server).Along (Ideal aead c) ops) :
    ∃ ops', (Secure.linkMachine aead (Secure.pairOf client server)).Along (Secure.Unforged aead) ops' ∧
      Refines ((channel aead c layer server).run ops)
        ((Secure.linkMachine aead (Secure.pairOf client server)).run ops') := by
  refine Machine.simulated ?_ ?_ hideal
  · exact ⟨hstands, rfl, rfl, rfl⟩
  · intro e op ops' hrefines halong hop
    exact answered_step halong hrefines hlaw hc hop

/-- The next frame of the server is opened by a phone that is open. -/
theorem phone_accepts (hlaw : aead.Lawful) (hc : c.Lawful) (hm : Secure.Mirrored (Secure.pairOf client server))
    {e : Ends} {l : Secure.Link} (hrefines : Refines e l) (hlinked : Secure.Linked aead (Secure.pairOf client server) l)
    (hopen : e.phone.layer.closed = false) (hlast : e.phone.layer.receiveSequence < PipaSecureRecordLayer.lastSequence)
    {x : Sent} (hx : e.server.sent[e.phone.layer.receiveSequence]? = some x) :
    ∃ frame, x.frame = .dict frame ∧ e.phone.layer.openBinary aead c frame x.additionalData =
      ({ e.phone.layer with receiveSequence := e.phone.layer.receiveSequence + 1 }, .ok x.payload) := by
  have hstands := hrefines.stands
  have hreceive := hstands.receive hopen
  have hrec : Secure.IsRecord aead server e.phone.layer.receiveSequence x := by
    rw [← hrefines.server] at hx
    exact (hlinked.tracked .server).records _ x hx
  have hsession := (hlinked.tracked .client).session
  have hid : server.sessionId = (l .client).session.sessionId := by
    rw [hsession]
    exact hm.sessionId .client
  have hkey : server.sendKey = (l .client).session.receiveKey := by
    rw [hsession]
    exact hm.key .client
  have hstart : server.sendNoncePrefix = (l .client).session.receiveNoncePrefix := by
    rw [hsession]
    exact hm.noncePrefix .client
  have hframe : x.frame = .dict (PipaSecureRecordLayer.nextFrame (l .client).session x.encryption.ciphertext) := by
    rw [hrec.frame, PipaSecureRecordLayer.nextFrame, hid, hreceive]
  refine ⟨_, hframe, ?_⟩
  rw [PipaSecureRecordLayer.openBinary, if_pos (PipaSecureRecordLayer.nextFrame_fields _)]
  refine PipaSecureRecordLayer.openRaw_next hlaw hc hstands hopen hlast hrec.size hrec.dataSize ?_
  rw [SecureSession.decryption, hrec.encryption, ← hkey, ← hstart, ← hid, hreceive]
  exact hlaw.decrypt_encrypt _ _ _ _

/-- What the two ends of one handshake have done, a link of two Python sessions has. -/
theorem channel_linked (hlaw : aead.Lawful) (hc : c.Lawful) {kdf : Kdf} {sessionID : PyStr} {secret hash : Bytes}
    (hphone : PipaSecureRecordLayer.new kdf sessionID secret hash .client = some layer)
    (hserver : SecureSession.fromSharedSecret kdf sessionID secret hash .server = some server)
    (hsep : ¬ (layer.sendKey = server.sendKey ∧ layer.sendNoncePrefix = server.sendNoncePrefix)) {ops : List ChannelOp}
    (hideal : (channel aead c layer server).Along (Ideal aead c) ops) :
    ∃ client l, Secure.Mirrored (Secure.pairOf client server) ∧ Secure.Separated (Secure.pairOf client server) ∧
      Refines ((channel aead c layer server).run ops) l ∧ Secure.Linked aead (Secure.pairOf client server) l := by
  obtain ⟨client, hclient⟩ := client_of_server hserver
  have hm : Secure.Mirrored (Secure.pairOf client server) := Secure.pairOf_mirrored hserver hclient
  have hstands := PipaSecureRecordLayer.new_stands hphone hclient
  have hsep' : ¬ (client.sendKey = server.sendKey ∧ client.sendNoncePrefix = server.sendNoncePrefix) := by
    rwa [hstands.sendKey, hstands.sendNoncePrefix]
  obtain ⟨ops', halong, hrefines⟩ := run_answered hlaw hc hstands hideal
  exact ⟨client, _, hm, hsep', hrefines, Secure.run_linked hlaw hm hsep' halong⟩

/-- What each side opened is the first part of what the other sealed. -/
theorem Refines.delivered {e : Ends} {l : Secure.Link} (h : Refines e l)
    (hlinked : Secure.Linked aead (Secure.pairOf client server) l) :
    e.phone.returned <+: e.server.sealedRecords ∧ e.server.returned <+: e.phone.sealedRecords := by
  have hphone := hlinked.returned .client
  have hserver := hlinked.returned .server
  have hsealed : (l .client).sealedRecords = e.phone.sealedRecords := by
    rw [Endpoint.sealedRecords, h.sent, PhoneEnd.sealedRecords]
  rw [h.returned, Role.peer, h.server] at hphone
  rw [h.server, Role.peer, hsealed] at hserver
  exact ⟨hphone, hserver⟩

/-- Whatever frames an attacker hands over, each side opens the first part of what the other sealed. -/
def Delivers (aead : Aead) (c : Codec) (layer : PipaSecureRecordLayer) (server : SecureSession) : Prop :=
  ∀ ops, (channel aead c layer server).Along (Ideal aead c) ops →
    ((channel aead c layer server).run ops).phone.returned <+:
      ((channel aead c layer server).run ops).server.sealedRecords ∧
    ((channel aead c layer server).run ops).server.returned <+:
      ((channel aead c layer server).run ops).phone.sealedRecords

end

/-- The phone and the server of one handshake, whose directions do not share both their key and their nonce prefix,
under an attacker who hands any frame to either side: what one side opened is the first part of what the other sealed;
no key is used with a nonce twice, in either direction; a frame that the phone refuses closes it, for good; and each
side accepts the next frame of the other. -/
theorem phone_channel {aead : Aead} (hlaw : aead.Lawful) {c : Codec} (hc : c.Lawful) {kdf : Kdf} {sessionID : PyStr}
    {secret hash : Bytes} {layer : PipaSecureRecordLayer} {server : SecureSession}
    (hphone : PipaSecureRecordLayer.new kdf sessionID secret hash .client = some layer)
    (hserver : SecureSession.fromSharedSecret kdf sessionID secret hash .server = some server)
    (hsep : ¬ (layer.sendKey = server.sendKey ∧ layer.sendNoncePrefix = server.sendNoncePrefix)) {ops : List ChannelOp}
    (hideal : (channel aead c layer server).Along (Ideal aead c) ops) :
    let e := (channel aead c layer server).run ops
    (e.phone.returned <+: e.server.sealedRecords ∧ e.server.returned <+: e.phone.sealedRecords) ∧
    ((e.phone.sent ++ e.server.sent).map use).Nodup ∧
    (∀ frame additionalData err, (e.phone.layer.openBinary aead c frame additionalData).2 = .error err →
      (e.phone.layer.openBinary aead c frame additionalData).1.closed = true) ∧
    (∀ frame err, (e.phone.layer.openObject aead c frame).2 = .error err →
      (e.phone.layer.openObject aead c frame).1.closed = true) ∧
    (e.phone.layer.closed = true → ∀ more, ((channel aead c layer server).run (ops ++ more)).phone = e.phone) ∧
    (∀ x, e.server.session.closed = false → e.phone.sent[e.server.session.receiveSequence]? = some x →
      e.server.session.openRecord aead x.frame x.additionalData =
        ({ e.server.session with receiveSequence := e.server.session.receiveSequence + 1 }, .ok x.payload)) ∧
    (∀ x, e.phone.layer.closed = false → e.phone.layer.receiveSequence < PipaSecureRecordLayer.lastSequence →
      e.server.sent[e.phone.layer.receiveSequence]? = some x →
      ∃ frame, x.frame = .dict frame ∧ e.phone.layer.openBinary aead c frame x.additionalData =
        ({ e.phone.layer with receiveSequence := e.phone.layer.receiveSequence + 1 }, .ok x.payload)) := by
  intro e
  obtain ⟨client, l, hm, hsep', hrefines, hlinked⟩ := channel_linked hlaw hc hphone hserver hsep hideal
  refine ⟨hrefines.delivered hlinked, ?_, ?_, ?_, ?_, ?_, ?_⟩
  · have hdisjoint := uses_disjoint (hlinked.tracked .client) (hlinked.tracked .server) hsep'
    have hnodup := uses_nodup (hlinked.tracked .client)
    have hnodup' := uses_nodup (hlinked.tracked .server)
    rw [hrefines.sent] at hdisjoint hnodup
    rw [hrefines.server] at hdisjoint hnodup'
    rw [List.map_append]
    exact hnodup.append hnodup' hdisjoint
  · intro frame additionalData err herr
    exact openBinary_error hlaw hc hrefines.stands herr
  · intro frame err herr
    exact openObject_error hlaw hc hrefines.stands herr
  · intro hclosed more
    exact run_closed ops more hclosed
  · intro x hopen hx
    rw [← hrefines.server] at hopen hx ⊢
    rw [← hrefines.sent] at hx
    exact hlinked.accepts_next hlaw hm hopen hx
  · intro x hopen hlast hx
    exact phone_accepts hlaw hc hm hrefines hlinked hopen hlast hx

/-- A codec that writes as Python does. -/
def plainCodec : Codec :=
  { plainPlatform with base64Encoded := Link.PipaMobileCodec.standardDecode, canonicalJSON := Secure.canonical }

theorem plainCodec_lawful : plainCodec.Lawful := ⟨Link.PipaMobileCodec.standardDecode_encoded, fun _ _ _ _ => rfl⟩

def plainSecret : Bytes := List.replicate 32 7

def phoneSession : PyStr := PyStr.ofString "session-1"

def plainLayer : PipaSecureRecordLayer :=
  (PipaSecureRecordLayer.new .checksum phoneSession plainSecret plainSecret .client).get (by decide +kernel)

def plainServer : SecureSession :=
  (SecureSession.fromSharedSecret .checksum phoneSession plainSecret plainSecret .server).get (by decide +kernel)

def plainEncryption : Encryption := plainServer.encryptionOf .checksum [1, 2, 3] [9]

/-- One record of the server. -/
def plainFrame : Object := SecureSession.sealedFrame plainServer.sessionId 0 plainEncryption.ciphertext

/-- The record is opened once; handed over again, it closes the phone. -/
def replayOps : List ChannelOp := [.serverSeal [1, 2, 3] [9], .openBinary plainFrame [9], .openBinary plainFrame [9]]

def plainChannel : Machine Ends ChannelOp Unit := channel .checksum plainCodec plainLayer plainServer

theorem plainChannel_ideal : plainChannel.Along (Ideal .checksum plainCodec) replayOps := by
  have hseal : plainChannel.Along (Ideal .checksum plainCodec) [ChannelOp.serverSeal [1, 2, 3] [9]] :=
    Machine.Along.nil.concat trivial
  refine (hseal.concat ?_).concat ?_
  -- the record as it came, and then once more
  · intro ciphertext json payload hread hjson hpayload
    have hsealed : (plainChannel.run [.serverSeal [1, 2, 3] [9]]).server.sent =
        [⟨[1, 2, 3], [9], .dict plainFrame, plainEncryption⟩] := by rfl
    have hciphertext : plainLayer.readFrame plainCodec plainFrame = .ok plainEncryption.ciphertext := by decide +kernel
    obtain rfl : plainEncryption.ciphertext = ciphertext := Except.ok.inj (hciphertext.symm.trans hread)
    have hheader : Secure.canonical (PipaSecureRecordLayer.header phoneSession 0) =
        some (Secure.headerOf phoneSession 0) := Secure.canonical_header (by decide +kernel) (by decide)
    obtain rfl : Secure.headerOf phoneSession 0 = json := Option.some.inj (hheader.symm.trans hjson)
    refine ⟨_, .inr (by rw [hsealed]; exact List.mem_singleton_self _), ?_, ?_, ?_, rfl⟩
    · decide +kernel
    · decide +kernel
    · decide +kernel
  · intro ciphertext json payload hread
    have hreplay : ((plainChannel.run [.serverSeal [1, 2, 3] [9], .openBinary plainFrame [9]]).phone.layer.readFrame
        plainCodec plainFrame) = .error .invalidRecord := by decide +kernel
    cases hreplay.symm.trans hread

theorem phone_channel_replay :
    (plainChannel.run replayOps).phone.returned = [([1, 2, 3], [9])] ∧
    (plainChannel.run replayOps).phone.returned <+: (plainChannel.run replayOps).server.sealedRecords ∧
    ∀ more, (plainChannel.run (replayOps ++ more)).phone = (plainChannel.run replayOps).phone := by
  have hphone : PipaSecureRecordLayer.new .checksum phoneSession plainSecret plainSecret .client = some plainLayer :=
    (Option.some_get _).symm
  have hserver : SecureSession.fromSharedSecret .checksum phoneSession plainSecret plainSecret .server =
      some plainServer := (Option.some_get _).symm
  have hsep : ¬ (plainLayer.sendKey = plainServer.sendKey ∧
      plainLayer.sendNoncePrefix = plainServer.sendNoncePrefix) := by
    rintro ⟨-, hstart⟩
    exact absurd hstart (by decide +kernel)
  obtain ⟨⟨hreturned, -⟩, -, -, -, hfinal, -, -⟩ :=
    phone_channel Aead.checksum_lawful plainCodec_lawful hphone hserver hsep plainChannel_ideal
  have hclosed : (plainChannel.run replayOps).phone.layer.closed = true := by decide +kernel
  unfold plainChannel at hclosed
  exact ⟨by decide +kernel, hreturned, hfinal hclosed⟩

end Pipa.Mobile
