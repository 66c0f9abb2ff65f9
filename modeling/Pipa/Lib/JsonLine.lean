import Pipa.Lib.JsonEncode

/- Documents sent one a line. `json.dumps` without an indent writes no control
   character, so the line feed behind a document is the only one, and what it
   writes within its own limits `json.loads` reads back: a value that Python can
   hold names no field of a `dict` twice, and prints a float as `repr` does. -/
namespace Pipa.Lib

/-! ## No control characters -/

/-- No character below the space. -/
def PyStr.Printed (s : PyStr) : Prop := ∀ c ∈ s, 0x20 ≤ c.val

instance (s : PyStr) : Decidable s.Printed := inferInstanceAs (Decidable (∀ c ∈ s, 0x20 ≤ c.val))

namespace PyStr

theorem printed_nil : Printed [] := fun _ h => absurd h List.not_mem_nil

theorem printed_append {s t : PyStr} : Printed (s ++ t) ↔ s.Printed ∧ t.Printed := List.forall_mem_append

theorem printed_cons {c : CodePoint} {s : PyStr} : Printed (c :: s) ↔ 0x20 ≤ c.val ∧ s.Printed := List.forall_mem_cons

theorem printed_digits {s : PyStr} (h : ∀ c ∈ s, JsonText.isDigitChar c = true) : s.Printed := by
  intro c hc
  have hdigit := h c hc
  simp only [JsonText.isDigitChar, Bool.and_eq_true, decide_eq_true_eq] at hdigit
  omega

theorem printed_takeWhile (s : PyStr) : Printed (s.takeWhile JsonText.isDigitChar) :=
  printed_digits fun _ hc => List.mem_takeWhile_imp hc

/-- A text without control characters is on one line. -/
theorem Printed.oneLine {s : PyStr} (h : s.Printed) : (0x0A : UInt8) ∉ s.bytes := by
  have byte {n : Nat} (hn : n % 256 ≠ 10) : (0x0A : UInt8) ≠ n.toUInt8 := by
    intro heq
    have hten := congrArg UInt8.toNat heq
    simp only [Nat.toUInt8, UInt8.toNat_ofNat'] at hten
    exact hn hten.symm
  intro hmem
  obtain ⟨c, hc, hbyte⟩ := List.mem_flatMap.mp hmem
  have hlow := h c hc
  have hlt := c.lt
  have hnone : (0x0A : UInt8) ∉ c.utf8 := by
    unfold CodePoint.utf8
    -- the bytes of a longer form are all above the ASCII range
    split
    · rw [List.mem_singleton]
      exact byte (by omega)
    split
    · simp only [List.mem_cons, List.not_mem_nil, or_false, not_or]
      exact ⟨byte (by omega), byte (by omega)⟩
    split
    · simp only [List.mem_cons, List.not_mem_nil, or_false, not_or]
      exact ⟨byte (by omega), byte (by omega), byte (by omega)⟩
    · simp only [List.mem_cons, List.not_mem_nil, or_false, not_or]
      exact ⟨byte (by omega), byte (by omega), byte (by omega), byte (by omega)⟩
  exact hnone hbyte

theorem printed_escape (c : CodePoint) : Printed (escapeChar c) := by
  unfold escapeChar
  split
  · decide
  split
  · decide
  split
  · decide
  split
  · decide
  split
  · decide
  split
  · decide
  split
  · decide
  split
  · rename_i hcontrol
    have hdigit : ∀ d < 16, 0x20 ≤ (hexDigit d).val := by decide
    rw [printed_append, printed_cons, printed_cons]
    exact ⟨by decide, hdigit _ (by omega), hdigit _ (by omega), printed_nil⟩
  · rename_i hplain
    exact printed_cons.mpr ⟨by omega, printed_nil⟩

theorem printed_dumpStr (s : PyStr) : (dumpStr s).Printed := by
  rw [dumpStr, printed_append, printed_append]
  refine ⟨⟨by decide, ?_⟩, by decide⟩
  intro c hc
  obtain ⟨d, -, hd⟩ := List.mem_flatMap.mp hc
  exact printed_escape d c hd

theorem printed_dumpInt (n : Int) : (dumpInt n).Printed := by
  rw [JsonText.dumpInt_eq]
  split
  · exact printed_cons.mpr ⟨(by decide : (0x20 : Nat) ≤ 0x2D), printed_digits (JsonText.natText_digits _)⟩
  · exact printed_digits (JsonText.natText_digits _)

end PyStr

namespace JsonText

theorem scanMinus_printed (s : PyStr) : (scanMinus s).1.Printed := by
  cases s with
  | nil => exact PyStr.printed_nil
  | cons c s =>
    simp only [scanMinus]
    split
    · exact PyStr.printed_cons.mpr ⟨by omega, PyStr.printed_nil⟩
    · exact PyStr.printed_nil

theorem scanSign_printed (s : PyStr) : (scanSign s).1.Printed := by
  cases s with
  | nil => exact PyStr.printed_nil
  | cons c s =>
    simp only [scanSign]
    split
    · exact PyStr.printed_cons.mpr ⟨by omega, PyStr.printed_nil⟩
    · exact PyStr.printed_nil

theorem scanWhole_printed {s whole later : PyStr} (h : scanWhole s = some (whole, later)) : whole.Printed := by
  cases s with
  | nil => cases h
  | cons c s =>
    simp only [scanWhole] at h
    split at h
    · cases h
      exact PyStr.printed_cons.mpr ⟨by omega, PyStr.printed_nil⟩
    split at h
    · rename_i hdigit
      cases h
      simp only [isDigitChar, Bool.and_eq_true, decide_eq_true_eq] at hdigit
      exact PyStr.printed_cons.mpr ⟨by omega, PyStr.printed_takeWhile s⟩
    · cases h

theorem scanFraction_printed (s : PyStr) : (scanFraction s).1.Printed := by
  cases s with
  | nil => exact PyStr.printed_nil
  | cons c s =>
    simp only [scanFraction]
    split
    · exact PyStr.printed_cons.mpr ⟨by omega, PyStr.printed_takeWhile s⟩
    · exact PyStr.printed_nil

theorem scanExponent_printed (s : PyStr) : (scanExponent s).1.Printed := by
  cases s with
  | nil => exact PyStr.printed_nil
  | cons c s =>
    simp only [scanExponent]
    split
    · exact PyStr.printed_append.mpr
        ⟨PyStr.printed_cons.mpr ⟨by omega, scanSign_printed s⟩, PyStr.printed_takeWhile _⟩
    · exact PyStr.printed_nil

/-- A float is digits, signs, a point and the letter of its exponent. -/
theorem IsFloatText.printed {r : PyStr} (h : IsFloatText r) : r.Printed := by
  obtain ⟨whole, part, hscan, -, rfl⟩ := h
  unfold scanParts at hscan
  split at hscan
  · cases hscan
  · rename_i digits later hwhole
    simp only [Option.some.injEq, Prod.mk.injEq] at hscan
    obtain ⟨hfirst, hsecond, -⟩ := hscan
    rw [PyStr.printed_append, ← hfirst, ← hsecond, PyStr.printed_append, PyStr.printed_append]
    exact ⟨⟨scanMinus_printed _, scanWhole_printed hwhole⟩, scanFraction_printed _, scanExponent_printed _⟩

end JsonText

namespace Layout

theorem printed_commaJoin {ts : List PyStr} (h : ∀ t ∈ ts, t.Printed) : (commaJoin ts).Printed := by
  induction ts with
  | nil => exact PyStr.printed_nil
  | cons t ts ih =>
    have hlater := ih (fun u hu => h u (List.mem_cons_of_mem t hu))
    cases ts with
    | nil => exact h t List.mem_cons_self
    | cons u ts =>
      rw [commaJoin, PyStr.printed_append, PyStr.printed_append]
      · exact ⟨⟨h t List.mem_cons_self, by decide⟩, hlater⟩
      · exact List.cons_ne_nil u ts

/-- A document without an indent is on one line. -/
theorem printed_write {py : JsonText.Interpreter} {d : Nat} {v : Value} (h : JsonText.Readable py d v) (level : Nat) :
    (Layout.compact.write level v).Printed := by
  induction v using Value.induct generalizing d level with
  | null => exact (by decide : (PyStr.ofString "null").Printed)
  | bool b =>
    cases b with
    | true => exact (by decide : (PyStr.ofString "true").Printed)
    | false => exact (by decide : (PyStr.ofString "false").Printed)
  | int n => exact PyStr.printed_dumpInt n
  | float r =>
    cases h with
    | float _ _ text _ => exact text.printed
  | str s => exact PyStr.printed_dumpStr s
  | list items ih =>
    cases h with
    | list d _ inside =>
      rw [write, JsonText.writeItems_eq, JsonText.enclose_compact, PyStr.printed_append, PyStr.printed_append]
      refine ⟨⟨by decide, printed_commaJoin ?_⟩, by decide⟩
      intro t ht
      obtain ⟨v, hv, rfl⟩ := List.mem_map.mp ht
      exact ih v hv (inside v hv) (level + 1)
  | dict items ih =>
    cases h with
    | dict d _ keys inside =>
      rw [write, JsonText.writePairs_eq, JsonText.enclose_compact, PyStr.printed_append, PyStr.printed_append]
      refine ⟨⟨by decide, printed_commaJoin ?_⟩, by decide⟩
      intro t ht
      obtain ⟨e, he, rfl⟩ := List.mem_map.mp ht
      rw [PyStr.printed_append, PyStr.printed_append, PyStr.printed_append]
      exact ⟨⟨⟨PyStr.printed_dumpStr e.1, by decide⟩, PyStr.printed_nil⟩, ih e he (inside e he) (level + 1)⟩

end Layout

/-! ## What is written is read -/

namespace JsonText

mutual

/-- Whether `json.dumps` gets through a value: it raises for lists and dictionaries that are nested too
deep, and for an integer that is too long. -/
def dumpable (py : Interpreter) : Nat → Value → Bool
  | _, .int n => ((dumpInt n).filter isDigitChar).length ≤ py.maxDigits
  | 0, .list _ => false
  | d + 1, .list items => dumpableItems py d items
  | 0, .dict _ => false
  | d + 1, .dict items => dumpableFields py d items
  | _, _ => true

def dumpableItems (py : Interpreter) (d : Nat) : List Value → Bool
  | [] => true
  | v :: vs => dumpable py d v && dumpableItems py d vs

def dumpableFields (py : Interpreter) (d : Nat) : List (PyStr × Value) → Bool
  | [] => true
  | e :: es => dumpable py d e.2 && dumpableFields py d es

end

theorem dumpableItems_iff (py : Interpreter) (d : Nat) (vs : List Value) :
    dumpableItems py d vs = true ↔ ∀ v ∈ vs, dumpable py d v = true := by
  induction vs with
  | nil => simp [dumpableItems]
  | cons v vs ih => rw [dumpableItems, Bool.and_eq_true, ih, List.forall_mem_cons]

theorem dumpableFields_iff (py : Interpreter) (d : Nat) (es : List (PyStr × Value)) :
    dumpableFields py d es = true ↔ ∀ e ∈ es, dumpable py d e.2 = true := by
  induction es with
  | nil => simp [dumpableFields]
  | cons e es ih => rw [dumpableFields, Bool.and_eq_true, ih, List.forall_mem_cons]

/-- The values that Python can hold: a `dict` has every key once, and a finite float is written as its
`repr`, which denotes it. -/
inductive Held (py : Interpreter) : Value → Prop
  | null : Held py .null
  | bool (b : Bool) : Held py (.bool b)
  | int (n : Int) : Held py (.int n)
  | float (r : PyStr) (text : (dumpFloat r).isSome = true → IsFloatText r ∧ py.float r = r) : Held py (.float r)
  | str (s : PyStr) : Held py (.str s)
  | list (items : List Value) (inside : ∀ v ∈ items, Held py v) : Held py (.list items)
  | dict (items : List (PyStr × Value)) (keys : (Object.keys items).Nodup) (inside : ∀ e ∈ items, Held py e.2) :
      Held py (.dict items)

theorem isSome_of_mapM {α β : Type} {f : α → Option β} {l : List α} (h : (l.mapM f).isSome = true) :
    ∀ a ∈ l, (f a).isSome = true := by
  induction l with
  | nil =>
    intro a ha
    cases ha
  | cons a l ih =>
    rw [List.mapM_cons] at h
    cases hf : f a with
    | none =>
      rw [hf] at h
      cases h
    | some b =>
      cases hl : l.mapM f with
      | none =>
        rw [hf, hl] at h
        cases h
      | some bs => exact List.forall_mem_cons.mpr ⟨by rw [hf]; rfl, ih (by rw [hl]; rfl)⟩

/-- What is written within the interpreter's limits it can read. -/
theorem Held.readable {py : Interpreter} {v : Value} (h : Held py v) {d : Nat} (hdumpable : dumpable py d v = true)
    (hwritten : (dumps false v).isSome = true) : Readable py d v := by
  induction v using Value.induct generalizing d with
  | null => exact .null d
  | bool b => exact .bool d b
  | int n => exact .int d n (by simpa [dumpable] using hdumpable)
  | float r =>
    cases h with
    | float _ text =>
      obtain ⟨htext, hsame⟩ := text hwritten
      exact .float d r htext hsame
  | str s => exact .str d s
  | list items ih =>
    cases h with
    | list _ inside =>
      cases d with
      | zero => cases hdumpable
      | succ d =>
        rw [dumpable, dumpableItems_iff] at hdumpable
        rw [dumps, dumpsList_eq, Option.isSome_map] at hwritten
        refine .list d items fun v hv => ih v hv (inside v hv) (hdumpable v hv) ?_
        exact isSome_of_mapM hwritten v hv
  | dict items ih =>
    cases h with
    | dict _ keys inside =>
      cases d with
      | zero => cases hdumpable
      | succ d =>
        rw [dumpable, dumpableFields_iff] at hdumpable
        rw [dumps, dumpsItems_eq, Option.isSome_map] at hwritten
        refine .dict d items keys fun e he => ih e he (inside e he) (hdumpable e he) ?_
        have hfield := isSome_of_mapM hwritten e he
        rwa [Option.isSome_map] at hfield

end JsonText
end Pipa.Lib
