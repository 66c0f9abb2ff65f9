import Pipa.Lib.JsonEncode
import Pipa.Core.WireJson
import Pipa.Unlock.Broker

/- The bytes of a request to the broker (`TrustedUnlockBroker.handle_bytes`), read
   with `json.loads`, and of its response. With the guard up, which is what the
   source ships, a response holds nothing but the request's own id and fixed text,
   so it can always be written; the one exception that escapes is the
   `RecursionError` of lists and objects nested too deep.

   `wire_json_failures` puts this beside `parse_json_object`: the two readers of
   bytes that nobody has authenticated yet. -/
namespace Pipa.Unlock
open Pipa.Lib Pipa.Core Pipa.Secure JsonText

/-- `json.loads(raw.decode("utf-8"), object_pairs_hook=_reject_duplicate_fields)`, with the exceptions
`handle_bytes` catches as `invalid`. -/
def readRequest (py : Interpreter) (raw : Bytes) : Loaded :=
  match decodeUtf8 raw with
  | none => .invalid
  | some text =>
    match loads py (rejectDuplicateFields ()) text with
    | .ok v => .value v
    | .error .recursion => .raised
    | .error _ => .invalid

/-- The text of the request is nested deeper than `json.loads` recurses. -/
def NestedTooDeep (py : Interpreter) (raw : Bytes) : Prop :=
  ∃ text, decodeUtf8 raw = some text ∧ loads py (rejectDuplicateFields ()) text = .error .recursion

theorem readRequest_raised {py : Interpreter} {raw : Bytes} :
    readRequest py raw = .raised ↔ NestedTooDeep py raw := by
  unfold readRequest NestedTooDeep
  cases htext : decodeUtf8 raw with
  | none => exact iff_of_false nofun (by simp)
  | some text =>
    simp only [Option.some.injEq, exists_eq_left']
    cases hloads : loads py (rejectDuplicateFields ()) text with
    | ok v => exact iff_of_false nofun nofun
    | error e =>
      cases e with
      | recursion => exact iff_of_true rfl rfl
      | malformed => exact iff_of_false nofun nofun
      | digits => exact iff_of_false nofun nofun
      | hook _ => exact iff_of_false nofun nofun

/-! ## Responses -/

theorem isRequestId_clean {s : PyStr} (h : isRequestId s = true) : s.Clean := by
  intro c hc
  simp only [isRequestId, Bool.and_eq_true, List.all_eq_true] at h
  have hcode := h.2 c hc
  simp only [idCode, Bool.or_eq_true, Bool.and_eq_true, decide_eq_true_eq, beq_iff_eq] at hcode
  simp only [CodePoint.isSurrogate, Bool.and_eq_false_iff, decide_eq_false_iff_not]
  omega

/-- The id a request is answered under. -/
theorem parseRequest_id (request : Value) : ∀ id ∈ (parseRequest request).1, isRequestId id = true := by
  have identifier (v : Option Value) : ∀ id ∈ (requireIdentifier v).toOption, isRequestId id = true := by
    intro id hid
    unfold requireIdentifier at hid
    split at hid
    · split at hid
      · rename_i hs
        obtain rfl := Option.some.inj hid
        exact hs
      · cases hid
    · cases hid
  cases request with
  | dict fields =>
    intro id hid
    apply identifier (Object.get? fields (PyStr.ofString "request_id"))
    unfold parseRequest at hid
    simp only at hid
    split at hid
    · exact hid
    split at hid
    · exact hid
    split at hid
    · exact hid
    split at hid
    · exact hid
    split at hid
    · exact hid
    · exact hid
  | _ => exact nofun

/-- A response that says no more than this can be written. -/
inductive Response.Plain : Response → Prop
  | health (requestId : Option PyStr) (clean : ∀ id ∈ requestId, id.Clean) (m n : Nat) :
      Plain (.ok requestId (.health m n))
  | failed (requestId : Option PyStr) (clean : ∀ id ∈ requestId, id.Clean) (code message : String) :
      Plain (.failed requestId code message)

theorem Response.Plain.bytes {r : Response} (h : r.Plain) : ∃ b, r.bytes unlockEnabled = some b := by
  have id {requestId : Option PyStr} (hid : ∀ id ∈ requestId, id.Clean) : (requestId.elim .null Value.str).Clean := by
    cases requestId with
    | none => exact .null
    | some s => exact .str s (hid s rfl)
  refine ⟨_, Value.Clean.encode ?_⟩
  cases h with
  | health requestId clean m n =>
    refine .dict _ (by simp [asDict, PyStr.clean_ofString]) ?_
    have hresult : (Value.dict ((Result.health m n).asDict unlockEnabled)).Clean :=
      .dict _ (by simp [Result.asDict, PyStr.clean_ofString])
        (by simp [Result.asDict, Value.Clean.int, Value.Clean.bool, Value.Clean.str _ (PyStr.clean_ofString "0.1.0"),
          brokerVersion])
    simp [asDict, id clean, hresult, Value.Clean.bool]
  | failed requestId clean code message =>
    refine .dict _ (by simp [asDict, PyStr.clean_ofString]) ?_
    have herror : (Value.dict [(PyStr.ofString "code", .str (PyStr.ofString code)),
        (PyStr.ofString "message", .str (PyStr.ofString message))]).Clean :=
      .dict _ (by simp [PyStr.clean_ofString])
        (by simp [Value.Clean.str _ (PyStr.clean_ofString code), Value.Clean.str _ (PyStr.clean_ofString message)])
    simp [asDict, id clean, herror, Value.Clean.bool]

namespace TrustedUnlockBroker
variable (py : Interpreter) (verify : Fixed 32 → Fixed 64 → Bytes → Bool)

/-- While the guard is up, every response is plain. -/
theorem handleRequest_plain (b : TrustedUnlockBroker) (env : Env) (request : Value) :
    (b.handleRequest verify unlockEnabled env request).2.Plain := by
  have hid : ∀ id ∈ (parseRequest request).1, id.Clean := fun id h => isRequestId_clean (parseRequest_id request id h)
  unfold handleRequest
  generalize parseRequest request = parsed at hid
  obtain ⟨requestId, command⟩ := parsed
  cases command with
  | error e => exact .failed requestId hid _ _
  | ok command =>
    obtain ⟨-, hhealth⟩ := perform_disabled verify b env command
    simp only
    cases hperform : b.perform verify unlockEnabled env command with
    | mk b' result =>
      cases result with
      | error e => exact .failed requestId hid _ _
      | ok result =>
        obtain ⟨m, n, rfl⟩ := hhealth result (congrArg Prod.snd hperform)
        exact .health requestId hid m n

/-- `handle_bytes` answers, with a response that is written, unless the request is nested too deep. -/
theorem handleBytes_answers (b : TrustedUnlockBroker) {raw : Bytes} (hsize : raw.length ≤ maxMessageBytes) (env : Env) :
    (∃ response bytes, (b.handleBytes verify unlockEnabled (readRequest py) raw env).2 = some response ∧
      response.bytes unlockEnabled = some bytes) ↔ ¬ NestedTooDeep py raw := by
  rw [← readRequest_raised]
  unfold handleBytes
  rw [if_neg (Nat.not_lt.mpr hsize)]
  cases hread : readRequest py raw with
  | raised => exact iff_of_false (by simp) (by simp)
  | invalid =>
    obtain ⟨bytes, hbytes⟩ := (Response.Plain.failed none nofun "invalid_request" "invalid JSON").bytes
    exact iff_of_true ⟨_, bytes, rfl, hbytes⟩ nofun
  | value request =>
    obtain ⟨bytes, hbytes⟩ := (handleRequest_plain verify b env request).bytes
    exact iff_of_true ⟨_, bytes, rfl, hbytes⟩ nofun

end TrustedUnlockBroker

/-- The two readers of the wire: `parse_json_object` raises nothing but a `ProtocolError`, and returns what stands
in the text with no field repeated, unless `json.loads` overruns; the broker answers every request that is not nested
too deep. -/
theorem wire_json_failures (py : Interpreter) (decode : Bytes → Option PyStr)
    (verify : Fixed 32 → Fixed 64 → Bytes → Bool) :
    (∀ raw, ParsedStrictly py decode raw ↔ ¬ Overruns py decode raw) ∧
    ∀ (b : TrustedUnlockBroker) (env : Env) (raw : Bytes), raw.length ≤ maxMessageBytes →
      ((∃ response bytes, (b.handleBytes verify unlockEnabled (readRequest py) raw env).2 = some response ∧
        response.bytes unlockEnabled = some bytes) ↔ ¬ NestedTooDeep py raw) :=
  ⟨parseJsonObject_cases py decode, fun b env _ hsize => b.handleBytes_answers py verify hsize env⟩

/-- An integer of 4301 digits makes `parse_json_object` raise a plain `ValueError`, and a request of 1001 opening
brackets gets no response from the broker. -/
theorem wire_json_overruns :
    (¬ ∀ raw, ParsedStrictly Interpreter.default decodeUtf8 raw) ∧
    ¬ ∀ raw : Bytes, raw.length ≤ maxMessageBytes → ∀ verify (b : TrustedUnlockBroker) (env : Env),
      ∃ response, (b.handleBytes verify unlockEnabled (readRequest Interpreter.default) raw env).2 = some response := by
  refine ⟨?_, ?_⟩
  · intro h
    have hloads (s : PyStr) : wireLoads Interpreter.default decodeUtf8 (.text s) =
        loads Interpreter.default (rejectDuplicateFields duplicateFieldsText) s := rfl
    have hlong := loads_long Interpreter.default (rejectDuplicateFields duplicateFieldsText) (Nat.lt_succ_self 4300)
    exact (parseJsonObject_cases _ _ _).mp (h _) (Or.inl ((hloads _).trans hlong))
  · intro h
    have hascii : PyStr.Ascii (List.replicate 1001 (CodePoint.ofChar '[')) := by
      intro c hc
      rw [List.eq_of_mem_replicate hc]
      decide
    have hlength : (PyStr.bytes (List.replicate 1001 (CodePoint.ofChar '['))).length = 1001 := by
      rw [hascii.bytes_eq, List.length_map, List.length_replicate]
    have hdeep : NestedTooDeep Interpreter.default (PyStr.bytes (List.replicate 1001 (CodePoint.ofChar '['))) :=
      ⟨_, decodeUtf8_encode hascii.encode, loads_deep _ _ (Nat.lt_succ_self 1000)⟩
    have hsize : (PyStr.bytes (List.replicate 1001 (CodePoint.ofChar '['))).length ≤ maxMessageBytes := by
      simp only [hlength, maxMessageBytes]
      omega
    let env : Env := ⟨0, 0, .fill 16 0, .fill 32 0, .fill 32 0⟩
    let b : TrustedUnlockBroker := ⟨⟨Dict.empty, Dict.empty, Dict.empty, 0⟩, TicketIssuer.empty⟩
    obtain ⟨response, hresponse⟩ := h _ hsize (fun _ _ _ => false) b env
    unfold TrustedUnlockBroker.handleBytes at hresponse
    rw [if_neg (Nat.not_lt.mpr hsize), readRequest_raised.mpr hdeep] at hresponse
    cases hresponse

end Pipa.Unlock
