import Pipa.Lib.JsonEncode

/- How long a document becomes. `Value.size` bounds the characters `json.dumps` writes, with the keys
   sorted or not: a character takes six at most when it is escaped, and four bytes in UTF-8. Only the
   texts inside count, so a bound on them is a bound on what is sent. -/
namespace Pipa.Lib

mutual

/-- At most as many characters are written. -/
def Value.size : Value → Nat
  | .null => 4
  | .bool _ => 5
  | .int n => (dumpInt n).length
  | .float r => r.length
  | .str s => 6 * s.length + 2
  | .list items => Value.sizeItems items + 2
  | .dict members => Value.sizeMembers members + 2

def Value.sizeItems : List Value → Nat
  | [] => 0
  | v :: vs => (v.size + 1) + Value.sizeItems vs

def Value.sizeMembers : List (PyStr × Value) → Nat
  | [] => 0
  | e :: es => (6 * e.1.length + 4 + e.2.size) + Value.sizeMembers es

end

theorem Value.sizeItems_eq (vs : List Value) : Value.sizeItems vs = (vs.map (fun v => v.size + 1)).sum := by
  induction vs with
  | nil => rfl
  | cons v vs ih => rw [Value.sizeItems, ih, List.map_cons, List.sum_cons]

theorem Value.sizeMembers_eq (es : List (PyStr × Value)) :
    Value.sizeMembers es = (es.map (fun e => 6 * e.1.length + 4 + e.2.size)).sum := by
  induction es with
  | nil => rfl
  | cons e es ih => rw [Value.sizeMembers, ih, List.map_cons, List.sum_cons]

/-! ## Texts -/

theorem CodePoint.utf8_length_le (c : CodePoint) : c.utf8.length ≤ 4 := by
  unfold CodePoint.utf8
  repeat' split
  all_goals simp

theorem PyStr.bytes_length_le (s : PyStr) : s.bytes.length ≤ 4 * s.length := by
  induction s with
  | nil => exact Nat.le_refl 0
  | cons c s ih =>
    have hcons : (PyStr.bytes (c :: s)).length = c.utf8.length + (PyStr.bytes s).length := List.length_append
    have hc := c.utf8_length_le
    have hlen : (c :: s : PyStr).length = s.length + 1 := rfl
    rw [hcons, hlen]
    omega

theorem escapeChar_length_le (c : CodePoint) : (escapeChar c).length ≤ 6 := by
  unfold escapeChar
  repeat' split
  all_goals first | decide | simp [PyStr.ofString]

theorem dumpStr_length_le (s : PyStr) : (dumpStr s).length ≤ 6 * s.length + 2 := by
  have hescaped : (s.flatMap escapeChar).length ≤ 6 * s.length := by
    induction s with
    | nil => exact Nat.le_refl 0
    | cons c s ih =>
      have hc := escapeChar_length_le c
      rw [List.flatMap_cons, List.length_append, List.length_cons]
      omega
  have hquote : (PyStr.ofString "\"").length = 1 := rfl
  rw [dumpStr, List.length_append, List.length_append, hquote]
  omega

/-! ## Lists of texts -/

theorem clean_commaJoin {ts : List PyStr} (h : ∀ t ∈ ts, t.Clean) : (commaJoin ts).Clean := by
  induction ts with
  | nil =>
    intro c hc
    cases hc
  | cons t ts ih =>
    have hlater := ih (fun u hu => h u (List.mem_cons_of_mem t hu))
    cases ts with
    | nil => exact h t List.mem_cons_self
    | cons u ts =>
      rw [commaJoin, PyStr.clean_append, PyStr.clean_append]
      · exact ⟨⟨h t List.mem_cons_self, PyStr.clean_ofString _⟩, hlater⟩
      · exact List.cons_ne_nil u ts

theorem commaJoin_length_le (ts : List PyStr) : (commaJoin ts).length ≤ (ts.map (fun t => t.length + 1)).sum := by
  induction ts with
  | nil => exact Nat.le_refl 0
  | cons t ts ih =>
    rw [List.map_cons, List.sum_cons]
    cases ts with
    | nil =>
      show t.length ≤ _
      omega
    | cons u ts =>
      have hcomma : (PyStr.ofString ",").length = 1 := rfl
      rw [commaJoin, List.length_append, List.length_append, hcomma]
      · omega
      · exact List.cons_ne_nil u ts

/-- What holds of every item holds of the list that is read. -/
theorem mapM_forall₂ {α β : Type} {f : α → Option β} {R : α → β → Prop} {l : List α}
    (h : ∀ a ∈ l, ∃ b, f a = some b ∧ R a b) : ∃ bs, l.mapM f = some bs ∧ List.Forall₂ R l bs := by
  induction l with
  | nil => exact ⟨[], rfl, .nil⟩
  | cons a l ih =>
    obtain ⟨b, hb, hab⟩ := h a List.mem_cons_self
    obtain ⟨bs, hbs, hrest⟩ := ih (fun a' ha' => h a' (List.mem_cons_of_mem a ha'))
    refine ⟨b :: bs, ?_, .cons hab hrest⟩
    rw [List.mapM_cons, hb, hbs]
    rfl

theorem Forall₂.mem_right {α β : Type} {R : α → β → Prop} {l : List α} {bs : List β} (h : List.Forall₂ R l bs) :
    ∀ b ∈ bs, ∃ a ∈ l, R a b := by
  induction h with
  | nil => nofun
  | cons hab _ ih =>
    intro b hb
    obtain rfl | hb := List.mem_cons.mp hb
    · exact ⟨_, List.mem_cons_self, hab⟩
    · obtain ⟨a, ha, hR⟩ := ih b hb
      exact ⟨a, List.mem_cons_of_mem _ ha, hR⟩

theorem Forall₂.sum_le {α β : Type} {R : α → β → Prop} {f : β → Nat} {g : α → Nat} {l : List α} {bs : List β}
    (h : List.Forall₂ R l bs) (hle : ∀ a b, R a b → f b ≤ g a) : (bs.map f).sum ≤ (l.map g).sum := by
  induction h with
  | nil => exact Nat.le_refl 0
  | cons hab _ ih =>
    have hhead := hle _ _ hab
    rw [List.map_cons, List.map_cons, List.sum_cons, List.sum_cons]
    omega

theorem sortPairs_perm (sortKeys : Bool) (ps : List (PyStr × PyStr)) : (sortPairs sortKeys ps).Perm ps := by
  unfold sortPairs
  split
  · exact List.perm_insertionSort _ ps
  · exact List.Perm.refl ps

/-! ## Documents -/

/-- A text of at most `n` characters that has a UTF-8 form. -/
def Written (t : PyStr) (n : Nat) : Prop := t.Clean ∧ t.length ≤ n

theorem written_pair {k t : PyStr} {n : Nat} (hk : k.Clean) (h : Written t n) :
    Written (dumpPair (k, t)) (6 * k.length + 3 + n) := by
  obtain ⟨hclean, hlen⟩ := h
  have hkey := dumpStr_length_le k
  have hcolon : (PyStr.ofString ":").length = 1 := rfl
  refine ⟨?_, ?_⟩
  · rw [dumpPair, PyStr.clean_append, PyStr.clean_append]
    exact ⟨⟨(PyStr.clean_dumpStr k).mpr hk, PyStr.clean_ofString _⟩, hclean⟩
  · rw [dumpPair, List.length_append, List.length_append, hcolon]
    show (dumpStr k).length + 1 + t.length ≤ _
    omega

/-- Brackets around a list of texts. -/
theorem written_bracketed {left right : String} (hleft : (PyStr.ofString left).length = 1)
    (hright : (PyStr.ofString right).length = 1) {ts : List PyStr} {n : Nat} (hclean : ∀ t ∈ ts, t.Clean)
    (hlen : (ts.map (fun t => t.length + 1)).sum ≤ n) :
    Written (PyStr.ofString left ++ commaJoin ts ++ PyStr.ofString right) (n + 2) := by
  refine ⟨?_, ?_⟩
  · rw [PyStr.clean_append, PyStr.clean_append]
    exact ⟨⟨PyStr.clean_ofString _, clean_commaJoin hclean⟩, PyStr.clean_ofString _⟩
  · have hjoin := commaJoin_length_le ts
    rw [List.length_append, List.length_append, hleft, hright]
    omega

/-- A value whose texts can be encoded is written, within its size. -/
theorem Value.Clean.written {v : Value} (h : v.Clean) (sortKeys : Bool) :
    ∃ t, Lib.dumps sortKeys v = some t ∧ Written t v.size := by
  induction v using Value.induct with
  | null => exact ⟨_, rfl, PyStr.clean_ofString _, Nat.le_refl _⟩
  | bool b =>
    cases b with
    | true => exact ⟨_, rfl, PyStr.clean_ofString _, by decide⟩
    | false => exact ⟨_, rfl, PyStr.clean_ofString _, by decide⟩
  | int n => exact ⟨_, rfl, PyStr.clean_ofString _, Nat.le_refl _⟩
  | float r =>
    cases h with
    | float _ text finite =>
      obtain ⟨t, ht⟩ := Option.isSome_iff_exists.mp finite
      have hsame : t = r := by
        unfold dumpFloat at ht
        split at ht
        · cases ht
        · exact (Option.some.inj ht).symm
      subst hsame
      exact ⟨t, ht, text, Nat.le_refl _⟩
  | str s =>
    cases h with
    | str _ text => exact ⟨_, rfl, (PyStr.clean_dumpStr s).mpr text, dumpStr_length_le s⟩
  | list items ih =>
    cases h with
    | list _ inside =>
      obtain ⟨ts, hts, hall⟩ := mapM_forall₂ (fun v hv => ih v hv (inside v hv))
      refine ⟨_, by rw [Lib.dumps, JsonText.dumpsList_eq, hts]; rfl, ?_⟩
      apply written_bracketed rfl rfl
      · intro t ht
        obtain ⟨v, -, hclean, -⟩ := Forall₂.mem_right hall t ht
        exact hclean
      · rw [Value.sizeItems_eq]
        apply Forall₂.sum_le hall
        rintro v t ⟨-, hlen⟩
        omega
  | dict members ih =>
    cases h with
    | dict _ names inside =>
      have hmembers : ∀ e ∈ members, ∃ p, (Lib.dumps sortKeys e.2).map (fun t => (e.1, t)) = some p ∧
          Written (dumpPair p) (6 * e.1.length + 3 + e.2.size) := by
        intro e he
        obtain ⟨t, ht, hwritten⟩ := ih e he (inside e he)
        exact ⟨(e.1, t), by rw [ht]; rfl, written_pair (names e he) hwritten⟩
      obtain ⟨ps, hps, hall⟩ := mapM_forall₂ hmembers
      have hperm := sortPairs_perm sortKeys ps
      refine ⟨_, by rw [Lib.dumps, JsonText.dumpsItems_eq, hps]; rfl, ?_⟩
      apply written_bracketed rfl rfl
      · intro t ht
        obtain ⟨p, hp, rfl⟩ := List.mem_map.mp ht
        obtain ⟨e, -, hclean, -⟩ := Forall₂.mem_right hall p (hperm.mem_iff.mp hp)
        exact hclean
      · rw [Value.sizeMembers_eq, List.map_map, (hperm.map _).sum_nat]
        apply Forall₂.sum_le hall
        rintro e p ⟨-, hlen⟩
        show (dumpPair p).length + 1 ≤ _
        omega

/-- Its bytes are at most four for each character. -/
theorem Value.Clean.encoded {v : Value} (h : v.Clean) (sortKeys : Bool) :
    ∃ encoded, (Lib.dumps sortKeys v).bind PyStr.encode = some encoded ∧ encoded.length ≤ 4 * v.size := by
  obtain ⟨t, ht, hclean, hlen⟩ := h.written sortKeys
  refine ⟨t.bytes, by rw [ht, Option.bind_some, hclean.encode], ?_⟩
  have hbytes := t.bytes_length_le
  omega

end Pipa.Lib
