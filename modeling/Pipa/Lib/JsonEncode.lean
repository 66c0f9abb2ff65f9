import Pipa.Lib.JsonRoundTrip
import Pipa.Lib.Utf8

/- Documents that can be sent: `json.dumps` writes them with `allow_nan=False`, and
   what it writes has a UTF-8 form. They are those in which no string and no name
   of a field holds a lone surrogate and every number is finite; escaping adds no
   surrogate and hides none. -/
namespace Pipa.Lib

/-- No lone surrogate. -/
def PyStr.Clean (s : PyStr) : Prop := ∀ c ∈ s, c.isSurrogate = false

instance (s : PyStr) : Decidable s.Clean := inferInstanceAs (Decidable (∀ c ∈ s, c.isSurrogate = false))

namespace PyStr

theorem clean_append {s t : PyStr} : Clean (s ++ t) ↔ s.Clean ∧ t.Clean := List.forall_mem_append

theorem clean_ofString (s : String) : (ofString s).Clean := by
  intro c hc
  obtain ⟨d, -, rfl⟩ := List.mem_map.mp hc
  have hvalid : d.toNat < 0xD800 ∨ (0xDFFF < d.toNat ∧ d.toNat < 0x110000) := d.valid
  have hval : (CodePoint.ofChar d).val = d.toNat := rfl
  simp only [CodePoint.isSurrogate, hval, Bool.and_eq_false_iff, decide_eq_false_iff_not]
  omega

theorem Clean.encode {s : PyStr} (h : s.Clean) : s.encode = some s.bytes := encode_eq_some.mpr ⟨h, rfl⟩

theorem encode_isSome {s : PyStr} : s.encode.isSome = true ↔ s.Clean := by
  rw [Option.isSome_iff_exists]
  constructor
  · rintro ⟨b, hb⟩
    exact (encode_eq_some.mp hb).1
  · intro h
    exact ⟨s.bytes, h.encode⟩

theorem clean_escape (c : CodePoint) : Clean (escapeChar c) ↔ c.isSurrogate = false := by
  have low (h : c.val < 0x80) : c.isSurrogate = false := by
    simp only [CodePoint.isSurrogate, Bool.and_eq_false_iff, decide_eq_false_iff_not]
    omega
  have fixed (s : String) (h : c.val < 0x80) : Clean (ofString s) ↔ c.isSurrogate = false :=
    iff_of_true (clean_ofString s) (low h)
  unfold escapeChar
  split
  · exact fixed _ (by omega)
  split
  · exact fixed _ (by omega)
  split
  · exact fixed _ (by omega)
  split
  · exact fixed _ (by omega)
  split
  · exact fixed _ (by omega)
  split
  · exact fixed _ (by omega)
  split
  · exact fixed _ (by omega)
  split
  · rename_i hcontrol
    refine iff_of_true (clean_append.mpr ⟨clean_ofString _, ?_⟩) (low (by omega))
    have hdigit : ∀ d < 16, (hexDigit d).isSurrogate = false := by decide
    intro a ha
    obtain rfl | ha := List.mem_cons.mp ha
    · exact hdigit _ (by omega)
    · obtain rfl := List.mem_singleton.mp ha
      exact hdigit _ (by omega)
  · exact List.forall_mem_singleton

theorem clean_dumpStr (s : PyStr) : (dumpStr s).Clean ↔ s.Clean := by
  have hescaped : Clean (s.flatMap escapeChar) ↔ s.Clean := by
    induction s with
    | nil => exact Iff.rfl
    | cons c s ih =>
      rw [List.flatMap_cons, clean_append, ih, clean_escape]
      simp only [Clean, List.forall_mem_cons]
  rw [dumpStr, clean_append, clean_append, hescaped]
  exact ⟨fun h => h.1.2, fun h => ⟨⟨clean_ofString _, h⟩, clean_ofString _⟩⟩

end PyStr

/-- A value that is written, and whose texts can be encoded. -/
inductive Value.Clean : Value → Prop
  | null : Clean .null
  | bool (b : Bool) : Clean (.bool b)
  | int (n : Int) : Clean (.int n)
  | float (r : PyStr) (text : r.Clean) (finite : (dumpFloat r).isSome = true) : Clean (.float r)
  | str (s : PyStr) (text : s.Clean) : Clean (.str s)
  | list (items : List Value) (inside : ∀ v ∈ items, Clean v) : Clean (.list items)
  | dict (items : List (PyStr × Value)) (names : ∀ e ∈ items, e.1.Clean) (inside : ∀ e ∈ items, Clean e.2) :
      Clean (.dict items)

namespace Layout
variable (L : Layout)

theorem clean_gap {s : PyStr} (h : s.all JsonText.isBlankChar = true) : s.Clean := by
  intro c hc
  have hblank := List.all_eq_true.mp h c hc
  simp only [JsonText.isBlankChar, Bool.or_eq_true, beq_iff_eq] at hblank
  simp only [CodePoint.isSurrogate, Bool.and_eq_false_iff, decide_eq_false_iff_not]
  omega

theorem clean_join (level : Nat) {ts : List PyStr} (h : ∀ t ∈ ts, t.Clean) : (L.join level ts).Clean := by
  induction ts with
  | nil =>
    intro c hc
    cases hc
  | cons t ts ih =>
    have hlater := ih (fun u hu => h u (List.mem_cons_of_mem t hu))
    cases ts with
    | nil => exact h t List.mem_cons_self
    | cons u ts =>
      rw [join, PyStr.clean_append, PyStr.clean_append, PyStr.clean_append]
      exact ⟨⟨⟨h t List.mem_cons_self, PyStr.clean_ofString _⟩, clean_gap (L.gap_blank level)⟩, hlater⟩

theorem clean_enclose (level : Nat) (left right : String) {ts : List PyStr} (h : ∀ t ∈ ts, t.Clean) :
    (L.enclose level left right ts).Clean := by
  unfold enclose
  split
  · rw [PyStr.clean_append]
    exact ⟨PyStr.clean_ofString _, PyStr.clean_ofString _⟩
  · rw [PyStr.clean_append, PyStr.clean_append, PyStr.clean_append, PyStr.clean_append]
    exact ⟨⟨⟨⟨PyStr.clean_ofString _, clean_gap (L.gap_blank _)⟩, L.clean_join _ h⟩, clean_gap (L.gap_blank _)⟩,
      PyStr.clean_ofString _⟩

/-- A value whose texts can be encoded is written as one that can. -/
theorem clean_write {v : Value} (h : v.Clean) (level : Nat) : (L.write level v).Clean := by
  induction v using Value.induct generalizing level with
  | null => exact PyStr.clean_ofString _
  | bool b =>
    cases b with
    | true => exact PyStr.clean_ofString _
    | false => exact PyStr.clean_ofString _
  | int n => exact PyStr.clean_ofString _
  | float r =>
    cases h with
    | float _ text _ => exact text
  | str s =>
    cases h with
    | str _ text => exact (PyStr.clean_dumpStr s).mpr text
  | list items ih =>
    cases h with
    | list _ inside =>
      rw [write, JsonText.writeItems_eq]
      apply L.clean_enclose
      intro t ht
      obtain ⟨v, hv, rfl⟩ := List.mem_map.mp ht
      exact ih v hv (inside v hv) (level + 1)
  | dict items ih =>
    cases h with
    | dict _ names inside =>
      rw [write, JsonText.writePairs_eq]
      apply L.clean_enclose
      intro t ht
      obtain ⟨e, he, rfl⟩ := List.mem_map.mp ht
      rw [PyStr.clean_append, PyStr.clean_append, PyStr.clean_append]
      exact ⟨⟨⟨(PyStr.clean_dumpStr e.1).mpr (names e he), PyStr.clean_ofString _⟩, clean_gap L.colon_blank⟩,
        ih e he (inside e he) (level + 1)⟩

end Layout

/-- A value that can be sent is written. -/
theorem Value.Clean.dumps {v : Value} (h : v.Clean) (level : Nat) :
    dumps false v = some (Layout.compact.write level v) := by
  refine JsonText.dumps_eq ?_ level
  induction v using Value.induct with
  | null => rfl
  | bool b =>
    cases b with
    | true => rfl
    | false => rfl
  | int n => rfl
  | float r =>
    cases h with
    | float _ _ finite => exact finite
  | str s => rfl
  | list items ih =>
    cases h with
    | list _ inside =>
      obtain hitems | ⟨-, v, hv, hnone⟩ := JsonText.mapM_eq_some (fun v _ hs => JsonText.dumps_eq hs 0)
      · rw [Lib.dumps, JsonText.dumpsList_eq, hitems]
        rfl
      · have hsome := ih v hv (inside v hv)
        rw [hnone] at hsome
        cases hsome
  | dict items ih =>
    cases h with
    | dict _ names inside =>
      have hpairs : ∀ e ∈ items, (Lib.dumps false e.2).map (fun t => (e.1, t)) =
          some (e.1, (Lib.dumps false e.2).getD []) := by
        intro e he
        obtain ⟨t, ht⟩ := Option.isSome_iff_exists.mp (ih e he (inside e he))
        rw [ht]
        rfl
      obtain hitems | ⟨-, e, he, hnone⟩ := JsonText.mapM_eq_some (fun e he _ => hpairs e he)
      · rw [Lib.dumps, JsonText.dumpsItems_eq, hitems]
        rfl
      · rw [hpairs e he] at hnone
        cases hnone

/-- Its text has a UTF-8 form. -/
theorem Value.Clean.encode {v : Value} (h : v.Clean) :
    (Lib.dumps false v).bind PyStr.encode = some (Layout.compact.write 0 v).bytes := by
  rw [h.dumps 0, Option.bind_some, (Layout.compact.clean_write h 0).encode]

end Pipa.Lib
