import Pipa.Lib.JsonRoundTrip

/- `parse_json_object` (`protocol.py`): one JSON object of the wire.

   `json.loads` takes text, or bytes that it first decodes with an encoding it
   guesses; how they are decoded is a parameter. The two exceptions that the
   `except` clause leaves out are those of an integer that is too long and of
   lists and objects nested too deep. -/
namespace Pipa.Core
open Pipa.Lib JsonText

/-- What `json.loads` is given. -/
inductive WireInput where
  | text (s : PyStr)
  | bytes (b : Bytes)

inductive WireError where
  | protocolError (text : PyStr)
  | valueError
  | recursionError

def duplicateFieldsText : PyStr := PyStr.ofString "JSON object contains duplicate fields"
def invalidJsonText : PyStr := PyStr.ofString "message is not valid JSON"
def notObjectText : PyStr := PyStr.ofString "message must be a JSON object"

section
variable (py : Interpreter) (decode : Bytes → Option PyStr)

/-- The text of the input; `none` is `UnicodeDecodeError`. -/
def WireInput.text? : WireInput → Option PyStr
  | .text s => some s
  | .bytes b => decode b

/-- `json.loads` with the hook that raises a `ProtocolError`. -/
def wireLoads (raw : WireInput) : Except (LoadError PyStr) Value :=
  match raw.text? decode with
  | none => .error .malformed
  | some text => loads py (rejectDuplicateFields duplicateFieldsText) text

/-- `parse_json_object`. -/
def parseJsonObject (raw : WireInput) : Except WireError Object :=
  match wireLoads py decode raw with
  | .error (.hook text) => .error (.protocolError text)
  | .error .malformed => .error (.protocolError invalidJsonText)
  | .error .digits => .error .valueError
  | .error .recursion => .error .recursionError
  | .ok (.dict fields) => .ok fields
  | .ok _ => .error (.protocolError notObjectText)

/-- A `ProtocolError`, or an object as it stands in the text, without a repeated field at any level. -/
def ParsedStrictly (raw : WireInput) : Prop :=
  (∃ text, parseJsonObject py decode raw = .error (.protocolError text)) ∨
  ∃ fields text, parseJsonObject py decode raw = .ok fields ∧ raw.text? decode = some text ∧
    loads py keepPairs text = .ok (.dict fields) ∧ Distinct (.dict fields)

/-- `json.loads` stops at an integer that is too long, or at a nesting that is too deep. -/
def Overruns (raw : WireInput) : Prop :=
  wireLoads py decode raw = .error .digits ∨ wireLoads py decode raw = .error .recursion

/-- Only where `json.loads` overruns does anything but a `ProtocolError` escape. -/
theorem parseJsonObject_cases (raw : WireInput) : ParsedStrictly py decode raw ↔ ¬ Overruns py decode raw := by
  unfold ParsedStrictly Overruns parseJsonObject
  cases hloads : wireLoads py decode raw with
  | error e =>
    cases e with
    | hook text => exact iff_of_true (Or.inl ⟨text, rfl⟩) (by simp)
    | malformed => exact iff_of_true (Or.inl ⟨_, rfl⟩) (by simp)
    | digits => exact iff_of_false (by simp) (by simp)
    | recursion => exact iff_of_false (by simp) (by simp)
  | ok v =>
    refine iff_of_true ?_ (by simp)
    cases v with
    | dict fields =>
      right
      unfold wireLoads at hloads
      cases htext : raw.text? decode with
      | none =>
        rw [htext] at hloads
        cases hloads
      | some text =>
        simp only [htext] at hloads
        obtain ⟨hplain, hdistinct⟩ := loads_strict py duplicateFieldsText hloads
        exact ⟨fields, text, rfl, rfl, hplain, hdistinct⟩
    | _ => exact Or.inl ⟨_, rfl⟩

end

/-! ## Texts that overrun -/

section
variable (py : Interpreter) {ε : Type} (hook : List (PyStr × Value) → Except ε Value)

/-- More digits than the interpreter converts. -/
theorem loads_long {n : Nat} (h : py.maxDigits < n) :
    loads py hook (List.replicate n (CodePoint.ofChar '1')) = .error .digits := by
  obtain ⟨m, rfl⟩ : ∃ m, n = m + 1 := ⟨n - 1, by omega⟩
  have hall : ∀ c ∈ List.replicate m (CodePoint.ofChar '1'), isDigitChar c = true := by
    intro c hc
    rw [List.eq_of_mem_replicate hc]
    rfl
  have hparts : scanParts (List.replicate (m + 1) (CodePoint.ofChar '1')) =
      some (List.replicate (m + 1) (CodePoint.ofChar '1'), [], []) := by
    have hminus : scanMinus (List.replicate (m + 1) (CodePoint.ofChar '1')) =
        ([], List.replicate (m + 1) (CodePoint.ofChar '1')) := rfl
    have hwhole : scanWhole (List.replicate (m + 1) (CodePoint.ofChar '1')) =
        some (List.replicate (m + 1) (CodePoint.ofChar '1'), []) := by
      show (some (_ :: List.takeWhile isDigitChar _, List.dropWhile isDigitChar _) : Option (PyStr × PyStr)) = _
      rw [List.takeWhile_eq_self_iff.mpr hall, List.dropWhile_eq_nil_iff.mpr hall]
      rfl
    simp only [scanParts, hminus, hwhole]
    rfl
  obtain ⟨nested, hnested⟩ := scanOnce_eq py hook py.maxDepth
  have hdigits : ((List.replicate (m + 1) (CodePoint.ofChar '1')).filter isDigitChar).length = m + 1 := by
    rw [List.filter_eq_self.mpr, List.length_replicate]
    intro c hc
    rw [List.eq_of_mem_replicate hc]
    rfl
  have hscan : scanOnce py hook py.maxDepth (List.replicate (m + 1) (CodePoint.ofChar '1')) = .error .digits := by
    rw [hnested, scanWith_number py hook hparts, scanNumber, hparts]
    simp only [ne_eq, not_true_eq_false, if_false]
    rw [hdigits, if_pos h]
  have hskip : skipBlank (List.replicate (m + 1) (CodePoint.ofChar '1')) =
      List.replicate (m + 1) (CodePoint.ofChar '1') := skipBlank_cons rfl
  unfold loads
  rw [if_neg (by simp [List.replicate_succ, CodePoint.ofChar]), hskip, hscan]

theorem scanOnce_deep (depth : Nat) (s : PyStr) :
    scanOnce py hook depth (List.replicate (depth + 1) (CodePoint.ofChar '[') ++ s) = .error .recursion := by
  induction depth with
  | zero => rfl
  | succ depth ih =>
    show scanList (scanOnce py hook depth) (List.replicate (depth + 1) (CodePoint.ofChar '[') ++ s) = _
    have hskip : skipBlank (List.replicate (depth + 1) (CodePoint.ofChar '[') ++ s) =
        CodePoint.ofChar '[' :: (List.replicate depth (CodePoint.ofChar '[') ++ s) := skipBlank_cons rfl
    simp only [scanList, hskip]
    rw [if_neg (by decide), scanItems]
    have hinner : scanOnce py hook depth (CodePoint.ofChar '[' :: (List.replicate depth (CodePoint.ofChar '[') ++ s)) =
        .error .recursion := ih
    simp only [hinner]

/-- More lists inside each other than the interpreter recurses into. -/
theorem loads_deep {n : Nat} (h : py.maxDepth < n) :
    loads py hook (List.replicate n (CodePoint.ofChar '[')) = .error .recursion := by
  obtain ⟨m, rfl⟩ : ∃ m, n = py.maxDepth + 1 + m := ⟨n - (py.maxDepth + 1), by omega⟩
  rw [List.replicate_add]
  have hskip : skipBlank (List.replicate (py.maxDepth + 1) (CodePoint.ofChar '[') ++
      List.replicate m (CodePoint.ofChar '[')) = List.replicate (py.maxDepth + 1) (CodePoint.ofChar '[') ++
        List.replicate m (CodePoint.ofChar '[') := skipBlank_cons rfl
  unfold loads
  rw [if_neg (by simp [List.replicate_succ, CodePoint.ofChar]), hskip, scanOnce_deep]

end

end Pipa.Core
