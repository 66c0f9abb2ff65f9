import Pipa.Lib.JsonEncode
import Pipa.Lib.JsonOrder
import Pipa.Core.Correlation

/- The request digest (`request_binding.py`) and what it binds. The canonical text of a call is its
   sorted document: it does not depend on the order of keys and determines the call up to that order.
   The digest of a `tool_call` is compared with the digest of the call before anything else happens,
   and the record of the confirmation keeps the call and the digest together. SHA-256 is a parameter;
   that no two of the texts hashed collide is an assumption about those texts. -/
namespace Pipa.Core
open Pipa.Lib

/-! ## Canonical calls -/

/-- What `json.dumps` writes without hitting a limit: lists and objects nested no deeper than `d`, and
integers with no more digits than are converted. -/
def writable (py : JsonText.Interpreter) : Nat → Value → Bool
  | _, .int n => decide (((dumpInt n).filter JsonText.isDigitChar).length ≤ py.maxDigits)
  | 0, .list _ | 0, .dict _ => false
  | d + 1, .list items => items.all (writable py d)
  | d + 1, .dict items => items.all (fun e => writable py d e.2)
  | _, _ => true

/-- The object `canonical_tool_call` writes. -/
def callValue (name : PyStr) (arguments : Object) : Value :=
  .dict [(PyStr.ofString "arguments", .dict arguments), (PyStr.ofString "name", .str name)]

/-- `canonical_tool_call`; `none` is its `ValueError`, the `UnicodeEncodeError` of `encode` included. -/
def canonicalToolCall (py : JsonText.Interpreter) (name : PyStr) (arguments : Object) : Option Bytes :=
  if writable py py.maxDepth (callValue name arguments) then
    (dumps true (callValue name arguments)).bind PyStr.encode
  else none

/-- `compute_request_digest`; `sha256` is `hashlib.sha256(...).hexdigest()`. -/
def computeRequestDigest (py : JsonText.Interpreter) (sha256 : Bytes → PyStr) (name : PyStr) (arguments : Object) :
    Except Exn PyStr :=
  match canonicalToolCall py name arguments with
  | none => .error .valueError
  | some text => .ok (sha256 text)

section
variable {py : JsonText.Interpreter} {name name' : PyStr} {arguments arguments' : Object} {text : Bytes}

/-- The limits do not look at the order of keys. -/
theorem writable_reordered {v w : Value} (h : Reordered v w) (d : Nat) : writable py d v = writable py d w := by
  induction h generalizing d with
  | refl v => rfl
  | trans _ _ ihleft ihright => exact (ihleft d).trans (ihright d)
  | keys perm =>
    cases d with
    | zero => rfl
    | succ d =>
      rw [Bool.eq_iff_iff]
      simp only [writable, List.all_eq_true, perm.mem_iff]
  | item pre post _ ih =>
    cases d with
    | zero => rfl
    | succ d => simp only [writable, List.all_append, List.all_cons, ih d]
  | member pre post k _ ih =>
    cases d with
    | zero => rfl
    | succ d => simp only [writable, List.all_append, List.all_cons, ih d]

theorem callValue_reordered (h : Reordered (.dict arguments) (.dict arguments')) :
    Reordered (callValue name arguments) (callValue name arguments') :=
  .member [] [(PyStr.ofString "name", .str name)] (PyStr.ofString "arguments") h

theorem represented_callValue (h : Represented (.dict arguments)) : Represented (callValue name arguments) := by
  refine .dict _ (by simp [Object.keys]) ?_
  intro e he
  obtain rfl | rfl : e = (PyStr.ofString "arguments", .dict arguments) ∨ e = (PyStr.ofString "name", .str name) := by
    simpa using he
  · exact h
  · exact .str name

/-- The order of keys does not change the canonical text. -/
theorem canonicalToolCall_reordered (hv : Represented (.dict arguments))
    (h : Reordered (.dict arguments) (.dict arguments')) :
    canonicalToolCall py name arguments = canonicalToolCall py name arguments' := by
  have hcall : Reordered (callValue name arguments) (callValue name arguments') := callValue_reordered h
  unfold canonicalToolCall
  rw [writable_reordered hcall, dumps_reordered hcall (represented_callValue hv)]

theorem sortKeys_callValue : (callValue name arguments).sortKeys =
    .dict [(PyStr.ofString "arguments", (Value.dict arguments).sortKeys), (PyStr.ofString "name", .str name)] := by
  have hle : keyLe (PyStr.ofString "arguments", (Value.dict arguments).sortKeys) (PyStr.ofString "name", Value.str name) := by
    show PyStr.le (PyStr.ofString "arguments") (PyStr.ofString "name") = true
    decide
  rw [callValue, Value.sortKeys, Value.sortMembers_eq]
  simp only [List.map_cons, List.map_nil, List.insertionSort_cons, List.insertionSort_nil, List.orderedInsert_nil]
  rw [List.orderedInsert_cons_of_le]
  · rfl
  · exact hle

/-- The canonical text determines the name, and the arguments up to the order of keys. -/
theorem canonicalToolCall_inj (hv : Represented (.dict arguments)) (hw : Represented (.dict arguments'))
    (h : canonicalToolCall py name arguments = some text) (h' : canonicalToolCall py name' arguments' = some text) :
    name = name' ∧ Reordered (.dict arguments) (.dict arguments') := by
  have written {n : PyStr} {a : Object} (ha : canonicalToolCall py n a = some text) :
      ∃ t, dumps true (callValue n a) = some t ∧ t.encode = some text := by
    unfold canonicalToolCall at ha
    split at ha
    · exact Option.bind_eq_some_iff.mp ha
    · cases ha
  obtain ⟨t, ht, hencode⟩ := written h
  obtain ⟨t', ht', hencode'⟩ := written h'
  obtain rfl : t = t' := PyStr.encode_inj hencode hencode'
  have hsame := dumps_sorted_inj (represented_callValue hv) (represented_callValue hw) ht ht'
  rw [sortKeys_callValue, sortKeys_callValue] at hsame
  simp only [Value.dict.injEq, List.cons.injEq, Prod.mk.injEq, true_and, and_true, Value.str.injEq] at hsame
  exact ⟨hsame.2, reordered_of_sorted hsame.1⟩

/-- Calls whose canonical texts do not collide and that have one digest are one call. -/
theorem digest_inj {sha256 : Bytes → PyStr} {seen : Set Bytes} (hsha : Set.InjOn sha256 seen) {d : PyStr}
    (hv : Represented (.dict arguments)) (hw : Represented (.dict arguments'))
    (hseen : ∀ text, canonicalToolCall py name arguments = some text → text ∈ seen)
    (hseen' : ∀ text, canonicalToolCall py name' arguments' = some text → text ∈ seen)
    (h : computeRequestDigest py sha256 name arguments = .ok d)
    (h' : computeRequestDigest py sha256 name' arguments' = .ok d) :
    name = name' ∧ Reordered (.dict arguments) (.dict arguments') := by
  unfold computeRequestDigest at h h'
  split at h
  · cases h
  rename_i text htext
  split at h'
  · cases h'
  rename_i text' htext'
  have hhash : sha256 text = sha256 text' := by
    rw [Except.ok.inj h, Except.ok.inj h']
  obtain rfl := hsha (hseen _ htext) (hseen' _ htext') hhash
  exact canonicalToolCall_inj hv hw htext htext'

end

/-! ## From the call to the record -/

section
variable {ω : Type} {core : PipaCore ω}

/-- A confirmation asked for by a tool call with a digest is for that call, and carries the digest. -/
theorem handle_asked_digest {st : State} {w : ω} {clock : Clock} {token sid name cid toolName summary d : PyStr}
    {arguments : Object} {callId c g : Option PyStr} {expiresAt : Int}
    (hm : .confirmRequest cid toolName summary expiresAt c g ∈
      (core.handle st w clock token sid (.toolCall name arguments callId (some d))).messages) :
    cid = token ∧ toolName = name ∧ g = some d ∧ core.computeRequestDigest name arguments = .ok d := by
  let op : Op ω := .handle sid (.toolCall name arguments callId (some d)) w token clock
  have hop : ServerMessage.confirmRequest cid toolName summary expiresAt c g ∈ (op.apply core st).messages := hm
  have given : op.input? = some (sid, .message (.toolCall name arguments callId (some d)), w, token) := rfl
  have hcid : cid = token := asked_token given hop
  generalize hmsg : ServerMessage.confirmRequest cid toolName summary expiresAt c g = m at hop hm
  obtain ⟨code, text, rfl⟩ | ⟨s', rfl⟩ | ⟨s, hs, hsaid⟩ := Op.mem_messages given hop
  · cases hmsg
  · cases hmsg
  have hran := (handle_ran hs hm (by rw [← hmsg]; rfl)).2.2
  cases hsaid with
  | asked record request _ requestDigest _ =>
    obtain ⟨htool, -⟩ := request.asked
    injection hmsg with _ htoolName _ _ _ hg
    refine ⟨hcid, htoolName.trans htool, hg.trans requestDigest, ?_⟩
    unfold PipaCore.digestMatches at hran
    simp only at hran
    split at hran
    · rename_i expected hexpected
      rw [hexpected, of_decide_eq_true hran]
    · cases hran
  | noted _ known =>
    subst hmsg
    obtain h | h | h | ⟨g, h⟩ := known <;> cases h
  | _ => cases hmsg

/-- What is stored under the id of a confirmation is the call that asked for it. -/
theorem stored_of_asked {pre mid : List (Op ω)} {w : ω} {clock : Clock} {token sid name : PyStr} {arguments : Object}
    {callId digest : Option PyStr} {r : PendingConfirmation}
    (hfresh : FreshConfirmations (pre ++ .handle sid (.toolCall name arguments callId digest) w token clock :: mid))
    (hr : ((machine core).run
      (pre ++ .handle sid (.toolCall name arguments callId digest) w token clock :: mid)).pending.get? token = some r) :
    r.toolName = name ∧ r.arguments = arguments ∧ r.requestDigest = digest := by
  obtain ⟨pre', op', post', hsplit, sid', input', w', s', given', request, -, hdigest, -⟩ := stored_asked core _ hr
  obtain ⟨-, rfl⟩ := hfresh.unique rfl hsplit rfl (Op.token_of_input given')
  simp only [Op.input?, Option.some.injEq, Prod.mk.injEq] at given'
  obtain ⟨-, rfl, -, -⟩ := given'
  exact ⟨request.asked.1, request.asked.2, hdigest⟩

end

/-- The canonical text is one for each call up to the order of keys. In every run, a confirmation that a
`tool_call` with the digest `d` leads to carries `d`; whatever is stored under its id from then on is
the tool and the arguments of that call, whose digest is `d`; and every call with the digest `d` is
that call, if no two of the texts in `seen` collide. -/
theorem request_digest_binds (ω : Type) (core : PipaCore ω) (py : JsonText.Interpreter) (sha256 : Bytes → PyStr)
    (hcore : core.computeRequestDigest = computeRequestDigest py sha256) (seen : Set Bytes)
    (hsha : Set.InjOn sha256 seen) :
    (∀ name arguments arguments', Represented (.dict arguments) → Reordered (.dict arguments) (.dict arguments') →
      canonicalToolCall py name arguments = canonicalToolCall py name arguments') ∧
    (∀ name name' arguments arguments' text, Represented (.dict arguments) → Represented (.dict arguments') →
      canonicalToolCall py name arguments = some text → canonicalToolCall py name' arguments' = some text →
      name = name' ∧ Reordered (.dict arguments) (.dict arguments')) ∧
    ∀ ops pre post sid name arguments callId d w token clock, FreshConfirmations ops →
      ops = pre ++ .handle sid (.toolCall name arguments callId (some d)) w token clock :: post →
      ∀ cid toolName summary expiresAt c g,
        .confirmRequest cid toolName summary expiresAt c g ∈
          ((machine core).out pre (.handle sid (.toolCall name arguments callId (some d)) w token clock)).messages →
        toolName = name ∧ g = some d ∧ core.computeRequestDigest name arguments = .ok d ∧
        (∀ mid rest r, post = mid ++ rest →
          ((machine core).run
            (pre ++ .handle sid (.toolCall name arguments callId (some d)) w token clock :: mid)).pending.get? cid = some r →
          r.toolName = name ∧ r.arguments = arguments ∧ r.requestDigest = some d ∧
            core.computeRequestDigest r.toolName r.arguments = .ok d) ∧
        ∀ name' arguments', Represented (.dict arguments) → Represented (.dict arguments') →
          (∀ text, canonicalToolCall py name arguments = some text → text ∈ seen) →
          (∀ text, canonicalToolCall py name' arguments' = some text → text ∈ seen) →
          core.computeRequestDigest name' arguments' = .ok d →
          name = name' ∧ Reordered (.dict arguments) (.dict arguments') := by
  refine ⟨fun name arguments arguments' hv h => canonicalToolCall_reordered hv h,
    fun name name' arguments arguments' text hv hw h h' => canonicalToolCall_inj hv hw h h', ?_⟩
  intro ops pre post sid name arguments callId d w token clock hfresh hops cid toolName summary expiresAt c g hm
  obtain ⟨rfl, htool, hg, hdigest⟩ := handle_asked_digest hm
  refine ⟨htool, hg, hdigest, ?_, ?_⟩
  · intro mid rest r hpost hr
    rw [hops, hpost, ← List.cons_append, ← List.append_assoc] at hfresh
    obtain ⟨hname, hargs, hrd⟩ := stored_of_asked hfresh.of_append hr
    exact ⟨hname, hargs, hrd, by rw [hname, hargs, hdigest]⟩
  · intro name' arguments' hv hw hseen hseen' h'
    rw [hcore] at hdigest h'
    exact digest_inj hsha hv hw hseen hseen' hdigest h'

/-! ## The lock, bound -/

def lockText : String := "\x7b\"arguments\":\x7b\x7d,\"name\":\"system_lock\"\x7d"

def lockDigest : PyStr := PyStr.ofString "567ddce1ad3ec0912f5cb3090b30a50f79ea4a2f3b44f1f707bc9bede0209d03"

/-- SHA-256 on the text of one call. -/
def lockSha (text : Bytes) : PyStr := if (PyStr.ofString lockText).encode = some text then lockDigest else []

def boundCore : PipaCore Unit :=
  { lockCore with computeRequestDigest := computeRequestDigest .default lockSha }

/-- A phone calls for the lock, with its digest. -/
def boundOp : Op Unit :=
  .handle (PyStr.ofString "s") (.toolCall (PyStr.ofString "system_lock") [] none (some lockDigest)) ()
    (PyStr.ofString "c") ⟨110, 110, 110⟩

/-- The confirmation stored is for the lock. -/
theorem request_digest_binds_lock :
    ∃ r, ((machine boundCore).run [phoneOp, boundOp]).pending.get? (PyStr.ofString "c") = some r ∧
      r.toolName = PyStr.ofString "system_lock" ∧ r.requestDigest = some lockDigest := by
  have hseen : Set.InjOn lockSha {text | (PyStr.ofString lockText).encode = some text} := by
    intro a ha b hb _
    exact Option.some.inj (ha.symm.trans hb)
  have hfresh : FreshConfirmations [phoneOp, boundOp] := by unfold FreshConfirmations; decide
  have hsome : (((machine boundCore).run [phoneOp, boundOp]).pending.get? (PyStr.ofString "c")).isSome = true := by
    decide
  obtain ⟨r, hr⟩ := Option.isSome_iff_exists.mp hsome
  obtain ⟨-, -, hrun⟩ := request_digest_binds Unit boundCore .default lockSha rfl _ hseen
  obtain ⟨-, -, -, hstored, -⟩ := hrun [phoneOp, boundOp] [phoneOp] [] _ _ _ _ _ _ _ _ hfresh rfl (PyStr.ofString "c") _ _ _ _ _
    (List.mem_cons_self)
  obtain ⟨hname, -, hdigest, -⟩ := hstored [] [] r rfl hr
  exact ⟨r, hr, hname, hdigest⟩

end Pipa.Core
