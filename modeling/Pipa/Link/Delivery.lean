import Pipa.Lib.JsonSize
import Pipa.Core.Grammar
import Pipa.Core.WireJson
import Pipa.Link.Captions
import Pipa.Link.Wire
import Pipa.Secure.Connection
import Pipa.Serial.Gateway

/- Whether what the Core answers can be sent. Both transports write a message with `json.dumps` and
   encode it as UTF-8, and a record of the secure channel has a limit on top. A text with a lone
   surrogate has no UTF-8 form, and two texts of the client come back in answers without having been
   encoded: the `request_id` of a `ping` and the `call_id` of a `tool_call`, the latter perhaps only
   with the answer to a confirmation. Everything else is short and plain, the catalog apart. -/
namespace Pipa.Link
open Pipa.Lib Pipa.Core
open Pipa.Secure (Aead SecureSession canonical maxRecordBytes)
open Pipa.Secure.SecureJsonChannel (sealMessage secureJsonAad)

/-! ## Sending -/

/-- The session still seals: it is open, and has a number left. -/
def Seals (aead : Aead) (session : SecureSession) : Prop :=
  ∃ frame, (sealMessage aead session []).2 = .ok frame

/-- Neither transport raises: `_send` writes a line, and `seal_message` a record on any session that still seals.
A message of the Core holds no float, so `allow_nan` makes no difference. -/
structure Deliverable (m : ServerMessage) : Prop where
  line : (Serial.encodeLine (payload m)).isSome = true
  record : ∀ (aead : Aead) (session : SecureSession), Seals aead session →
    ∃ frame, (sealMessage aead session (payload m)).2 = .ok frame

/-- A session that seals one record within the limit seals any. -/
theorem sealRecord_any {aead : Aead} {session : SecureSession} {a b aad : Bytes} {frame : Value}
    (h : (session.sealRecord aead a aad).2.result = .ok frame) (hb : b.length ≤ maxRecordBytes) :
    ∃ frame', (session.sealRecord aead b aad).2.result = .ok frame' := by
  unfold SecureSession.sealRecord at h ⊢
  split at h
  · cases h
  rename_i hopen
  split at h
  · cases h
  split at h
  · cases h
  rename_i haad
  split at h
  · cases h
  rename_i hnumber
  rw [if_neg hopen, if_neg (by omega), if_neg haad, if_neg hnumber]
  split at h
  · cases h
  · cases h
  · exact ⟨_, rfl⟩

/-- A message that is written within the limit of a record can be sent. -/
theorem deliverable_of {m : ServerMessage} (hclean : (Value.dict (payload m)).Clean) {encoded : Bytes}
    (hcanonical : canonical (payload m) = some encoded) (hlen : encoded.length ≤ maxRecordBytes) : Deliverable m := by
  refine ⟨?_, fun aead session h => ?_⟩
  · obtain ⟨t, ht, hwritten, -⟩ := hclean.written false
    have hline : (t ++ PyStr.ofString "\n").Clean := PyStr.clean_append.mpr ⟨hwritten, PyStr.clean_ofString _⟩
    rw [Serial.encodeLine, ht, Option.bind_some]
    exact PyStr.encode_isSome.mpr hline
  · obtain ⟨frame, hframe⟩ := h
    have hempty : canonical [] = some (PyStr.ofString "\x7b\x7d").bytes := rfl
    have hshort : ¬ (PyStr.ofString "\x7b\x7d").bytes.length > maxRecordBytes := by decide
    simp only [sealMessage, hempty, if_neg hshort] at hframe
    have hsealed : ∃ v, (session.sealRecord aead (PyStr.ofString "\x7b\x7d").bytes secureJsonAad).2.result = .ok v := by
      cases hresult : (session.sealRecord aead (PyStr.ofString "\x7b\x7d").bytes secureJsonAad).2.result with
      | error e =>
        rw [hresult] at hframe
        cases hframe
      | ok v => exact ⟨v, rfl⟩
    obtain ⟨v, hv⟩ := hsealed
    obtain ⟨frame', hframe'⟩ := sealRecord_any hv hlen
    refine ⟨frame', ?_⟩
    simp only [sealMessage, hcanonical, if_neg (Nat.not_lt.mpr hlen), hframe']
    rfl

/-! ## Short messages -/

/-- A text that can be encoded, of at most 128 characters. -/
def Brief (s : PyStr) : Prop := s.Clean ∧ s.length ≤ 128

def BriefOption (text : Option PyStr) : Prop := ∀ s, text = some s → Brief s

theorem briefOption_none : BriefOption none := by
  intro s hs
  cases hs

/-- A member under a short name. -/
def Slim (e : PyStr × Value) : Prop := Brief e.1 ∧ e.2.Clean ∧ e.2.size ≤ 800

/-- An object of few members, each short. -/
structure Slight (o : Object) : Prop where
  few : o.length ≤ 8
  members : ∀ e ∈ o, Slim e

theorem Slight.clean {o : Object} (h : Slight o) : (Value.dict o).Clean :=
  .dict o (fun e he => (h.members e he).1.1) (fun e he => (h.members e he).2.1)

theorem Slight.size {o : Object} (h : Slight o) : (Value.dict o).size ≤ 12578 := by
  have hsum (l : Object) (hl : ∀ e ∈ l, e ∈ o) : Value.sizeMembers l ≤ 1572 * l.length := by
    induction l with
    | nil => exact Nat.le_refl 0
    | cons e l ih =>
      have hlater := ih (fun e' he' => hl e' (List.mem_cons_of_mem e he'))
      obtain ⟨⟨-, hname⟩, -, hvalue⟩ := h.members e (hl e List.mem_cons_self)
      rw [Value.sizeMembers, List.length_cons]
      omega
  have hall := hsum o (fun e he => he)
  have hfew := h.few
  show Value.sizeMembers o + 2 ≤ _
  omega

theorem Slight.deliverable {m : ServerMessage} (h : Slight (payload m)) : Deliverable m := by
  obtain ⟨encoded, hencoded, hlen⟩ := h.clean.encoded true
  have hsize := h.size
  refine deliverable_of h.clean hencoded ?_
  show encoded.length ≤ 64 * 1024
  omega

/-! ### Their members -/

theorem brief_literal {l : List Char} (h : Nat.ble l.length 128 = true) : Brief (PyStr.ofString (String.ofList l)) := by
  refine ⟨PyStr.clean_ofString _, ?_⟩
  rw [PyStr.ofString, List.length_map, String.toList_ofList]
  exact Nat.le_of_ble_eq_true h

theorem Plain.brief {s : String} (h : Plain 100 s) : Brief (PyStr.ofString s) := by
  have hshort := h.short
  refine ⟨PyStr.clean_ofString _, ?_⟩
  rw [PyStr.ofString, List.length_map, String.length_toList]
  omega

theorem Brief.value {s : PyStr} (h : Brief s) : (Value.str s).Clean ∧ (Value.str s).size ≤ 800 := by
  obtain ⟨hclean, hlen⟩ := h
  refine ⟨.str s hclean, ?_⟩
  show 6 * s.length + 2 ≤ 800
  omega

theorem BriefOption.value {text : Option PyStr} (h : BriefOption text) :
    (textOrNull text).Clean ∧ (textOrNull text).size ≤ 800 := by
  cases text with
  | none => exact ⟨.null, by decide⟩
  | some s => exact (h s rfl).value

/-- A number of at most 20 digits. -/
theorem number_value {n : Int} (h : n.natAbs < 10 ^ 20) : (Value.int n).Clean ∧ (Value.int n).size ≤ 800 := by
  have hshort := (plain_int (by decide) h).short
  refine ⟨.int n, ?_⟩
  show (dumpInt n).length ≤ 800
  rw [dumpInt, PyStr.ofString, List.length_map, String.length_toList]
  omega

/-! ### Messages -/

theorem slim_cons {l : List Char} (hname : Nat.ble l.length 128 = true) {v : Value} (hv : v.Clean ∧ v.size ≤ 800)
    {o : Object} (ho : ∀ e ∈ o, Slim e) : ∀ e ∈ (PyStr.ofString (String.ofList l), v) :: o, Slim e :=
  List.forall_mem_cons.mpr ⟨⟨brief_literal hname, hv⟩, ho⟩

theorem slim_nil : ∀ e ∈ ([] : Object), Slim e := List.forall_mem_nil _

theorem slim_append {o o' : Object} (ho : ∀ e ∈ o, Slim e) (ho' : ∀ e ∈ o', Slim e) : ∀ e ∈ o ++ o', Slim e :=
  List.forall_mem_append.mpr ⟨ho, ho'⟩

theorem slim_optional {l : List Char} (hname : Nat.ble l.length 128 = true) {text : Option PyStr}
    (h : BriefOption text) : ∀ e ∈ optionalField (String.ofList l) text, Slim e := by
  cases text with
  | none => exact slim_nil
  | some s => exact slim_cons hname (h s rfl).value slim_nil

theorem optionalField_length (name : String) (text : Option PyStr) : (optionalField name text).length ≤ 1 := by
  cases text with
  | none => exact Nat.zero_le 1
  | some s => exact Nat.le_refl 1

theorem serverMessage_slight {l : List Char} (htype : Nat.ble l.length 128 = true) {fields : Object}
    (hfew : fields.length ≤ 6) (h : ∀ e ∈ fields, Slim e) : Slight (serverMessage (String.ofList l) fields) := by
  refine ⟨?_, slim_cons (by decide) (number_value (by decide)) (slim_cons (by decide) (brief_literal htype).value h)⟩
  show fields.length + 2 ≤ 8
  omega

/-- What a message may carry: brief texts, and a number of at most 20 digits. The catalog stands apart. -/
def Carries : ServerMessage → Prop
  | .error _ message => BriefOption message
  | .catalog _ _ => False
  | .confirmRequest confirmationId toolName summary expiresAt callId requestDigest =>
    Brief confirmationId ∧ Brief toolName ∧ Brief summary ∧ expiresAt.natAbs < 10 ^ 20 ∧ BriefOption callId ∧
      BriefOption requestDigest
  | .toolResult toolName _ _ callId => Brief toolName ∧ BriefOption callId
  | .uiState _ caption focusRemaining => BriefOption caption ∧ focusRemaining = none
  | .pong requestId => BriefOption requestId
  | _ => True

theorem codeName_brief (code : ErrorCode) : Brief (PyStr.ofString (codeName code)) := by
  cases code <;> exact brief_literal (by decide)

theorem stateName_brief (state : UiState) : Brief (PyStr.ofString (stateName state)) := by
  cases state <;> exact brief_literal (by decide)

theorem statusName_brief (status : ToolStatus) : Brief (PyStr.ofString (statusName status)) := by
  cases status <;> exact brief_literal (by decide)

theorem gestureName_brief (g : Gesture) : Brief (PyStr.ofString (gestureName g)) := by
  cases g <;> exact brief_literal (by decide)

theorem Carries.deliverable {m : ServerMessage} (h : Carries m) : Deliverable m := by
  apply Slight.deliverable
  cases m with
  | error code message =>
    apply serverMessage_slight (by decide)
    · have hone := optionalField_length "message" message
      show (optionalField "message" message).length + 1 ≤ 6
      omega
    · exact slim_cons (by decide) (codeName_brief code).value (slim_optional (by decide) h)
  | catalog commands capabilities => exact h.elim
  | confirmRequest confirmationId toolName summary expiresAt callId requestDigest =>
    obtain ⟨hid, htool, hsummary, hexpires, hcall, hdigest⟩ := h
    apply serverMessage_slight (by decide)
    · have hone := optionalField_length "call_id" callId
      have htwo := optionalField_length "request_digest" requestDigest
      rw [List.length_append, List.length_append]
      show 4 + (optionalField "call_id" callId).length + (optionalField "request_digest" requestDigest).length ≤ 6
      omega
    · refine slim_append (slim_append ?_ (slim_optional (by decide) hcall)) (slim_optional (by decide) hdigest)
      exact slim_cons (by decide) hid.value (slim_cons (by decide) htool.value
        (slim_cons (by decide) hsummary.value (slim_cons (by decide) (number_value hexpires) slim_nil)))
  | toolResult toolName status success callId =>
    obtain ⟨htool, hcall⟩ := h
    apply serverMessage_slight (by decide)
    · have hone := optionalField_length "call_id" callId
      rw [List.length_append]
      show 3 + (optionalField "call_id" callId).length ≤ 6
      omega
    · refine slim_append ?_ (slim_optional (by decide) hcall)
      have hsuccess : (Value.bool success).Clean ∧ (Value.bool success).size ≤ 800 :=
        ⟨.bool success, (by decide : 5 ≤ 800)⟩
      exact slim_cons (by decide) htool.value (slim_cons (by decide) (statusName_brief status).value
        (slim_cons (by decide) hsuccess slim_nil))
  | uiState state caption focusRemaining =>
    obtain ⟨hcaption, rfl⟩ := h
    apply serverMessage_slight (by decide) (Nat.le_of_ble_eq_true rfl)
    exact slim_cons (by decide) (stateName_brief state).value (slim_cons (by decide) hcaption.value
      (slim_cons (by decide) ⟨.null, by decide⟩ slim_nil))
  | pong requestId =>
    apply serverMessage_slight (by decide) (Nat.le_of_ble_eq_true rfl)
    exact slim_cons (by decide) (BriefOption.value h) slim_nil
  | gestureAck g =>
    apply serverMessage_slight (by decide) (Nat.le_of_ble_eq_true rfl)
    exact slim_cons (by decide) (gestureName_brief g).value slim_nil
  | statusAck => exact serverMessage_slight (by decide) (by decide) slim_nil
  | deviceHelloAck => exact serverMessage_slight (by decide) (by decide) slim_nil
  | ttsAborted => exact serverMessage_slight (by decide) (by decide) slim_nil

/-! ## The conditions -/

variable {ω : Type}

/-- The tools are registered under brief names, and no handler returns a list longer than lists are. -/
structure Furnished (core : PipaCore ω) : Prop where
  names : ∀ tool d, core.catalog.get? tool = some d → Brief tool
  lists : ShortLists core

/-- `secrets.token_urlsafe` returns a brief text, and the clock reads a number of 64 bits. -/
structure Ordinary (op : Op ω) : Prop where
  token : ∀ t, op.confirmationToken = some t → Brief t
  clock : op.clock.act.natAbs < 2 ^ 63

/-- A message of the wire that both parsers accept. -/
def Received (m : ClientMessage) : Prop :=
  ∃ (py : JsonText.Interpreter) (decode : Bytes → Option PyStr) (raw : WireInput) (fields : Object),
    parseJsonObject py decode raw = .ok fields ∧ parseClientMessage fields = some m

/-- The texts that come back in answers hold no lone surrogate. -/
def EchoesClean : ClientMessage → Prop
  | .ping (some requestId) => requestId.Clean
  | .toolCall _ _ (some callId) _ => callId.Clean
  | _ => True

/-- What the two callables list can be encoded, and fits a record. -/
def CatalogFits (core : PipaCore ω) (w : ω) : Prop :=
  ∀ commands capabilities,
    catalogResponse core.catalog core.commandCatalog core.capabilityCatalog w = [.catalog commands capabilities] →
    (∀ c ∈ commands, (Value.dict c).Clean) ∧ (∀ c, capabilities = some c → (Value.dict c).Clean) ∧
    ∀ encoded, canonical (payload (.catalog commands capabilities)) = some encoded → encoded.length ≤ maxRecordBytes

/-- The messages given to the Core were received; what they have echoed is clean, and a catalog that is asked for fits. -/
def Meets (core : PipaCore ω) : Op ω → Prop
  | .handle _ m w _ _ => Received m ∧ EchoesClean m ∧ (m = .catalogRequest → CatalogFits core w)
  | _ => True

/-! ## Answers -/

theorem brief_digest {d : PyStr} (h : FieldKind.digest.Fits (.str d)) : Brief d := by
  obtain ⟨s, hs, hlen, hchars⟩ := h
  obtain rfl := Value.str.inj hs
  refine ⟨fun c hc => PyStr.clean_ofString _ c (hchars c hc), by omega⟩

section
variable {core : PipaCore ω} {op : Op ω} {sid : PyStr} {input : Input} {w : ω} {token : PyStr}

/-- The `call_id` and the digest of an accepted input are brief. -/
theorem Meets.brief (h : Meets core op) (given : op.input? = some (sid, input, w, token)) :
    BriefOption input.callId ∧ BriefOption input.requestDigest := by
  cases op with
  | handle sid' m w' token' clock =>
    obtain ⟨⟨py, decode, raw, fields, -, hparse⟩, hclean, -⟩ := h
    have hnormal := parse_normal hparse
    simp only [Op.input?, Option.some.injEq, Prod.mk.injEq] at given
    obtain ⟨-, rfl, -, -⟩ := given
    cases m with
    | toolCall name arguments callId requestDigest =>
      obtain ⟨-, -, hcall, hdigest⟩ := hnormal
      refine ⟨?_, fun d hd => brief_digest (hdigest d hd)⟩
      intro s hs
      obtain rfl : callId = some s := hs
      exact ⟨hclean, (hcall s rfl).1.2.1⟩
    | _ => exact ⟨briefOption_none, briefOption_none⟩
  | handleTranscript sid' text w' token' clock =>
    simp only [Op.input?, Option.some.injEq, Prod.mk.injEq] at given
    obtain ⟨-, rfl, -, -⟩ := given
    exact ⟨briefOption_none, briefOption_none⟩
  | authenticate _ _ _ _ _ => cases given
  | create _ _ _ _ _ _ => cases given
  | close _ _ => cases given

/-- Only the inputs of sessions are answered with messages. -/
theorem Op.silent {st : State} (given : op.input? = none) : (op.apply core st).messages = [] := by
  have created (st : State) (token dev : PyStr) (fw : Option PyStr) (caps : List PyStr) (init : Bool) (now : Int) :
      (PipaCore.createSession st token dev fw caps init now).messages = [] := by
    unfold PipaCore.createSession
    split
    · rfl
    · rfl
  cases op with
  | authenticate verified fw caps token clock =>
    cases verified with
    | error e => rfl
    | ok dev => exact created _ token dev fw caps true clock.act
  | create dev fw caps init token clock => exact created st token dev fw caps init clock.act
  | close sid clock => rfl
  | handle _ _ _ _ _ => cases given
  | handleTranscript _ _ _ _ _ => cases given

theorem Op.of_message {m : ClientMessage} (given : op.input? = some (sid, .message m, w, token)) :
    ∃ clock, op = .handle sid m w token clock := by
  cases op with
  | handle sid' m' w' token' clock =>
    simp only [Op.input?, Option.some.injEq, Prod.mk.injEq, Input.message.injEq] at given
    obtain ⟨rfl, rfl, rfl, rfl⟩ := given
    exact ⟨clock, rfl⟩
  | handleTranscript _ _ _ _ _ => simp [Op.input?] at given
  | authenticate _ _ _ _ _ => cases given
  | create _ _ _ _ _ _ => cases given
  | close _ _ => cases given

/-- A catalog that fits can be sent. -/
theorem CatalogFits.deliverable {commands : List Object} {capabilities : Option Object} (h : CatalogFits core w)
    (hlisted : catalogResponse core.catalog core.commandCatalog core.capabilityCatalog w =
      [.catalog commands capabilities]) : Deliverable (.catalog commands capabilities) := by
  obtain ⟨hcommands, hcapabilities, hlen⟩ := h commands capabilities hlisted
  have hlist : (Value.list (commands.map Value.dict)).Clean := by
    refine .list _ (fun v hv => ?_)
    obtain ⟨c, hc, rfl⟩ := List.mem_map.mp hv
    exact hcommands c hc
  have hclean : (Value.dict (payload (.catalog commands capabilities))).Clean := by
    have hkeys : ∀ e ∈ payload (.catalog commands capabilities), e.1.Clean ∧ e.2.Clean := by
      cases capabilities with
      | none =>
        simp only [payload, serverMessage, Option.map_none, Option.toList_none, List.forall_mem_cons, List.not_mem_nil,
          false_implies, implies_true, and_true, PyStr.clean_ofString, true_and]
        exact ⟨.int 1, .str _ (PyStr.clean_ofString _), hlist⟩
      | some c =>
        simp only [payload, serverMessage, Option.map_some, Option.toList_some, List.forall_mem_cons, List.not_mem_nil,
          false_implies, implies_true, and_true, PyStr.clean_ofString, true_and]
        exact ⟨.int 1, .str _ (PyStr.clean_ofString _), hlist, hcapabilities c rfl⟩
    exact .dict _ (fun e he => (hkeys e he).1) (fun e he => (hkeys e he).2)
  obtain ⟨encoded, hencoded, -⟩ := hclean.encoded true
  exact deliverable_of hclean hencoded (hlen encoded hencoded)

/-- What is said to an input can be sent. -/
theorem said_deliverable {pre : List (Op ω)} {s : DeviceSession} {events : List Event} {m : ServerMessage}
    (hcore : Furnished core) (hpre : ∀ op ∈ pre, Meets core op) (hop : Ordinary op) (hmeets : Meets core op)
    (given : op.input? = some (sid, input, w, token))
    (said : Said core w op.clock.act token (op.base ((machine core).run pre)) s input events m) : Deliverable m := by
  obtain ⟨hcall, hdigest⟩ := hmeets.brief given
  have htool {tool : PyStr} {d : ToolDefinition ω} (hd : core.catalog.get? tool = some d) : Brief tool :=
    hcore.names tool d hd
  cases said with
  | error code text known =>
    refine Carries.deliverable (fun t ht => ?_)
    obtain ⟨u, hu, rfl⟩ := known t ht
    exact (errorTexts_plain u hu).brief
  | noted m known =>
    obtain rfl | rfl | rfl | ⟨g, rfl⟩ := known <;> exact Carries.deliverable trivial
  | pong requestId sent =>
    subst sent
    obtain ⟨clock, rfl⟩ := Op.of_message given
    obtain ⟨⟨py, decode, raw, fields, -, hparse⟩, hclean, -⟩ := hmeets
    refine Carries.deliverable (fun t ht => ?_)
    subst ht
    have hbound : t.length ≤ 64 := (parse_normal hparse t rfl).1.2.1
    exact ⟨hclean, by omega⟩
  | listed commands capabilities sent hlisted =>
    subst sent
    obtain ⟨clock, rfl⟩ := Op.of_message given
    exact (hmeets.2.2 rfl).deliverable hlisted
  | asked record request callId requestDigest created =>
    obtain ⟨hid, -, hexpires, -, -, d, hd, -⟩ := request
    refine Carries.deliverable
      ⟨?_, htool hd, (deviceConfirmationSummary_plain _).brief, ?_, callId ▸ hcall, requestDigest ▸ hdigest⟩
    · rw [hid]
      exact hop.token token (Op.token_of_input given)
    · have hclock := hop.clock
      have hlow := core.ttl_pos
      have hhigh := core.ttl_le
      rw [hexpires]
      omega
  | called d tool arguments result asks registered safe ran =>
    exact Carries.deliverable ⟨htool registered, hcall⟩
  | remembered tool arguments result asks memory stored =>
    refine Carries.deliverable ⟨?_, nofun⟩
    simp only [isMemoryTool, Bool.or_eq_true, decide_eq_true_eq] at memory
    obtain rfl | rfl := memory
    · exact brief_literal (by decide)
    · exact brief_literal (by decide)
  | resolved cid accepted record status result sent found =>
    obtain ⟨pre', op', post, hsplit, sid', input', w', s', given', request, hcall', -⟩ :=
      stored_asked core pre (Op.base_le found)
    obtain ⟨-, -, -, -, -, d, hd, -⟩ := request
    refine Carries.deliverable ⟨htool hd, ?_⟩
    rw [hcall']
    exact ((hpre op' (by rw [hsplit]; simp)).brief given').1

end

/-- Every message of a run can be sent, if the messages it was given were received, what they have echoed
holds no lone surrogate, and the catalogs that were asked for fit. -/
theorem accepted_messages_deliverable {core : PipaCore ω} (hcore : Furnished core) {ops pre post : List (Op ω)}
    (hops : ∀ op ∈ ops, Ordinary op) (hmeets : ∀ op ∈ ops, Meets core op) {op : Op ω} (hsplit : ops = pre ++ op :: post)
    {m : ServerMessage} (hm : m ∈ ((machine core).out pre op).messages) : Deliverable m := by
  have hmem : op ∈ ops := by rw [hsplit]; simp
  cases hgiven : op.input? with
  | none =>
    rw [machine_out, Op.silent hgiven] at hm
    cases hm
  | some given =>
    obtain ⟨sid, input, w, token⟩ := given
    obtain ⟨hunknown, -, -⟩ | ⟨s, -, hreply⟩ := Op.apply_reply core ((machine core).run pre) hgiven
    · rw [machine_out, Outcome.messages, hunknown, List.mem_singleton] at hm
      subst hm
      refine Carries.deliverable (fun t ht => ?_)
      obtain rfl := Option.some.inj ht
      exact (errorTexts_plain "Sesión desconocida." (by simp [errorTexts])).brief
    · obtain said | ⟨s', -, hs', rfl⟩ := hreply.mem hm
      · exact said_deliverable hcore (fun op' hop' => hmeets op' (by rw [hsplit]; simp [hop'])) (hops op hmem)
          (hmeets op hmem) hgiven said
      · have hafter : ((machine core).run (pre ++ [op])).sessions.get? sid = some s' := by
          rw [Machine.run_concat]
          exact hs'
        obtain ⟨hcaption, hfocus⟩ := captions core (pre ++ [op]) sid s' hafter
        refine Carries.deliverable ⟨?_, hfocus⟩
        intro t ht
        obtain ⟨u, rfl, hplain⟩ := captioned_plain hcaption hcore.lists t ht
        exact hplain.brief

/-! ### A ping -/

/-- Whether a text is read as a `ping` with this id. -/
def readsPing (raw requestId : PyStr) : Bool :=
  match parseJsonObject .default (fun _ => none) (.text raw) with
  | .ok fields =>
    match parseClientMessage fields with
    | some (.ping (some t)) => t = requestId
    | _ => false
  | .error _ => false

theorem readsPing_received {raw requestId : PyStr} (h : readsPing raw requestId = true) :
    Received (.ping (some requestId)) := by
  unfold readsPing at h
  split at h
  · rename_i fields hfields
    split at h
    · rename_i t ht
      obtain rfl : t = requestId := by simpa using h
      exact ⟨_, _, _, fields, hfields, ht⟩
    · cases h
  · cases h

/-- A device connects, -/
def connected : Op Unit :=
  .create (PyStr.ofString "pipa") none [] true (PyStr.ofString "s") ⟨100, 100, 100⟩

/-- and sends a `ping`. -/
def pinged (requestId : PyStr) : Op Unit :=
  .handle (PyStr.ofString "s") (.ping (some requestId)) () (PyStr.ofString "c") ⟨110, 110, 110⟩

theorem pinged_messages (requestId : PyStr) :
    ((machine lockCore).out [connected] (pinged requestId)).messages = [.pong (some requestId)] := rfl

theorem lockCore_furnished : Furnished lockCore := by
  have htool {tool : PyStr} {d : ToolDefinition Unit} (h : lockCore.catalog.get? tool = some d) :
      tool = PyStr.ofString "system_lock" ∧ d = lockTool := by
    obtain ⟨rfl, rfl⟩ | ⟨-, h⟩ := Dict.get?_set_some.mp h
    · exact ⟨rfl, rfl⟩
    · simp at h
  refine ⟨fun tool d h => ?_, fun tool d w arguments result items h hran htimers => ?_⟩
  · rw [(htool h).1]
    exact brief_literal (by decide)
  · rw [(htool h).2] at hran
    obtain rfl := Except.ok.inj hran
    simp [Object.get?, PyStr.ofString_inj] at htimers

/-- The text of a `ping`, with the id as it is escaped. -/
def pingText (requestId : String) : PyStr :=
  PyStr.ofString "\x7b\"type\":\"ping\",\"protocol_version\":1,\"request_id\":\"" ++ PyStr.ofString requestId ++
    PyStr.ofString "\"\x7d"

theorem accepted_messages_deliverable_ping : Deliverable (.pong (some (PyStr.ofString "a"))) := by
  have hread : readsPing (pingText "a") (PyStr.ofString "a") = true := by decide +kernel
  have hsplit : [connected, pinged (PyStr.ofString "a")] = [connected] ++ pinged (PyStr.ofString "a") :: [] := rfl
  have hall : ∀ op ∈ [connected, pinged (PyStr.ofString "a")], Ordinary op ∧ Meets lockCore op := by
    simp only [List.forall_mem_cons, List.not_mem_nil, false_implies, implies_true, and_true]
    refine ⟨⟨⟨nofun, by decide⟩, trivial⟩, ⟨⟨?_, by decide⟩, readsPing_received hread, PyStr.clean_ofString _, nofun⟩⟩
    rintro t ⟨⟩
    exact brief_literal (by decide)
  exact accepted_messages_deliverable lockCore_furnished (fun op hop => (hall op hop).1) (fun op hop => (hall op hop).2)
    hsplit (by rw [pinged_messages]; exact List.mem_singleton_self _)

def loneSurrogate : PyStr := [⟨0xD800, by decide⟩]

/-- A `ping` whose id is the escape of a lone surrogate is accepted, and its answer cannot be sent. -/
theorem lone_surrogate_undeliverable :
    Received (.ping (some loneSurrogate)) ∧
      ∃ m ∈ ((machine lockCore).out [connected] (pinged loneSurrogate)).messages, ¬ Deliverable m := by
  have hread : readsPing (pingText "\\ud800") loneSurrogate = true := by decide +kernel
  refine ⟨readsPing_received hread, _, by rw [pinged_messages]; exact List.mem_singleton_self _, ?_⟩
  rintro ⟨hline, -⟩
  have hnone : (Serial.encodeLine (payload (.pong (some loneSurrogate)))).isSome = false := by decide +kernel
  rw [hnone] at hline
  cases hline

end Pipa.Link
