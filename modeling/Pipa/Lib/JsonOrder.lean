import Pipa.Lib.JsonRoundTrip

/- `json.dumps(..., sort_keys=True)` and the order of keys. `Reordered` is equality of values up to
   the order of keys at every level; `sortKeys` picks one value of each class, the one whose keys
   are in code-point order, and the sorted document is the plain document of that value. So it
   depends on the class only (`dumps_reordered`), and since `json.loads` reads it back it
   determines the class (`dumps_sorted_inj`). -/
namespace Pipa.Lib

/-! ## Values up to the order of keys -/

/-- The same value, with the keys of objects in another order, at any level. -/
inductive Reordered : Value → Value → Prop
  | refl (v : Value) : Reordered v v
  | trans {u v w : Value} (left : Reordered u v) (right : Reordered v w) : Reordered u w
  | keys {items items' : List (PyStr × Value)} (perm : items.Perm items') : Reordered (.dict items) (.dict items')
  | item (pre post : List Value) {v w : Value} (inside : Reordered v w) :
      Reordered (.list (pre ++ v :: post)) (.list (pre ++ w :: post))
  | member (pre post : List (PyStr × Value)) (k : PyStr) {v w : Value} (inside : Reordered v w) :
      Reordered (.dict (pre ++ (k, v) :: post)) (.dict (pre ++ (k, w) :: post))

theorem Reordered.symm {v w : Value} (h : Reordered v w) : Reordered w v := by
  induction h with
  | refl v => exact .refl v
  | trans _ _ ihleft ihright => exact .trans ihright ihleft
  | keys perm => exact .keys perm.symm
  | item pre post _ ih => exact .item pre post ih
  | member pre post k _ ih => exact .member pre post k ih

/-- Reordering inside each item. -/
theorem Reordered.items {f : Value → Value} {vs : List Value} (h : ∀ v ∈ vs, Reordered v (f v)) (pre : List Value) :
    Reordered (.list (pre ++ vs)) (.list (pre ++ vs.map f)) := by
  induction vs generalizing pre with
  | nil => exact .refl _
  | cons v vs ih =>
    have hrest := ih (fun u hu => h u (List.mem_cons_of_mem v hu)) (pre ++ [f v])
    simp only [List.append_assoc, List.singleton_append] at hrest
    exact .trans (.item pre vs (h v List.mem_cons_self)) hrest

theorem Reordered.members {f : Value → Value} {es : List (PyStr × Value)} (h : ∀ e ∈ es, Reordered e.2 (f e.2))
    (pre : List (PyStr × Value)) :
    Reordered (.dict (pre ++ es)) (.dict (pre ++ es.map (fun e => (e.1, f e.2)))) := by
  induction es generalizing pre with
  | nil => exact .refl _
  | cons e es ih =>
    have hrest := ih (fun u hu => h u (List.mem_cons_of_mem e hu)) (pre ++ [(e.1, f e.2)])
    simp only [List.append_assoc, List.singleton_append] at hrest
    exact .trans (.member pre es e.1 (h e List.mem_cons_self)) hrest

/-! ## The order of keys -/

theorem PyStr.le_total (s t : PyStr) : PyStr.le s t = true ∨ PyStr.le t s = true := by
  induction s generalizing t with
  | nil => exact Or.inl rfl
  | cons a s ih =>
    cases t with
    | nil => exact Or.inr rfl
    | cons b t =>
      simp only [PyStr.le]
      obtain hlt | heq | hgt := Nat.lt_trichotomy a.val b.val
      · exact Or.inl (if_pos hlt)
      · simp only [heq, Nat.lt_irrefl, if_false]
        exact ih t
      · exact Or.inr (if_pos hgt)

theorem PyStr.le_antisymm {s t : PyStr} (h : PyStr.le s t = true) (h' : PyStr.le t s = true) : s = t := by
  induction s generalizing t with
  | nil =>
    cases t with
    | nil => rfl
    | cons b t => cases h'
  | cons a s ih =>
    cases t with
    | nil => cases h
    | cons b t =>
      simp only [PyStr.le] at h h'
      obtain hlt | heq | hgt := Nat.lt_trichotomy a.val b.val
      · rw [if_neg (by omega), if_pos hlt] at h'
        cases h'
      · simp only [heq, Nat.lt_irrefl, if_false] at h h'
        rw [CodePoint.ext heq, ih h h']
      · rw [if_neg (by omega), if_pos hgt] at h
        cases h

theorem PyStr.le_trans {s t u : PyStr} (h : PyStr.le s t = true) (h' : PyStr.le t u = true) : PyStr.le s u = true := by
  induction s generalizing t u with
  | nil => rfl
  | cons a s ih =>
    cases t with
    | nil => cases h
    | cons b t =>
      cases u with
      | nil => cases h'
      | cons c u =>
        simp only [PyStr.le] at h h' ⊢
        split at h
        · split at h'
          · rw [if_pos (by omega)]
          · split at h'
            · cases h'
            · rw [if_pos (by omega)]
        · split at h
          · cases h
          · split at h'
            · rw [if_pos (by omega)]
            · split at h'
              · cases h'
              · rw [if_neg (by omega), if_neg (by omega)]
                exact ih h h'

/-- Pairs by their keys. -/
def keyLe {α : Type} (a b : PyStr × α) : Prop := PyStr.le a.1 b.1 = true

instance {α : Type} : DecidableRel (keyLe (α := α)) := fun a b => inferInstanceAs (Decidable (PyStr.le a.1 b.1 = true))

instance {α : Type} : Std.Total (keyLe (α := α)) := ⟨fun a b => PyStr.le_total a.1 b.1⟩

instance {α : Type} : IsTrans (PyStr × α) keyLe := ⟨fun _ _ _ h h' => PyStr.le_trans h h'⟩

/-- Two orders of the same pairs, with distinct keys, are sorted into one. -/
theorem sorted_eq_of_perm {α : Type} {es es' : List (PyStr × α)} (h : es.Perm es') (hkeys : (es.map Prod.fst).Nodup) :
    es.insertionSort keyLe = es'.insertionSort keyLe := by
  refine List.Perm.eq_of_pairwise ?_ (List.pairwise_insertionSort keyLe es) (List.pairwise_insertionSort keyLe es')
    ((es.perm_insertionSort keyLe).trans (h.trans (es'.perm_insertionSort keyLe).symm))
  intro a b ha hb hab hba
  have hmem : b ∈ es := h.mem_iff.mpr ((List.mem_insertionSort keyLe).mp hb)
  exact List.inj_on_of_nodup_map hkeys ((List.mem_insertionSort keyLe).mp ha) hmem (PyStr.le_antisymm hab hba)

/-! ## Sorting the keys at every level -/

mutual

def Value.sortKeys : Value → Value
  | .list items => .list (Value.sortItems items)
  | .dict items => .dict ((Value.sortMembers items).insertionSort keyLe)
  | v => v

def Value.sortItems : List Value → List Value
  | [] => []
  | v :: vs => v.sortKeys :: Value.sortItems vs

def Value.sortMembers : List (PyStr × Value) → List (PyStr × Value)
  | [] => []
  | (k, v) :: es => (k, v.sortKeys) :: Value.sortMembers es

end

theorem Value.sortItems_eq (vs : List Value) : Value.sortItems vs = vs.map Value.sortKeys := by
  induction vs with
  | nil => rfl
  | cons v vs ih => rw [Value.sortItems, ih, List.map_cons]

theorem Value.sortMembers_eq (es : List (PyStr × Value)) :
    Value.sortMembers es = es.map (fun e => (e.1, e.2.sortKeys)) := by
  induction es with
  | nil => rfl
  | cons e es ih => rw [Value.sortMembers, ih, List.map_cons]

/-- Sorting the keys is one reordering. -/
theorem reordered_sortKeys (v : Value) : Reordered v v.sortKeys := by
  induction v using Value.induct with
  | list items ih =>
    rw [Value.sortKeys, Value.sortItems_eq]
    exact .items ih []
  | dict items ih =>
    rw [Value.sortKeys, Value.sortMembers_eq]
    exact .trans (.members ih []) (.keys (List.perm_insertionSort keyLe _).symm)
  | _ => exact .refl _

/-- A value as Python holds it: floats by their `repr`, and no key twice. -/
inductive Represented : Value → Prop
  | null : Represented .null
  | bool (b : Bool) : Represented (.bool b)
  | int (n : Int) : Represented (.int n)
  | float (r : PyStr) (text : JsonText.IsFloatText r ∨ dumpFloat r = none) : Represented (.float r)
  | str (s : PyStr) : Represented (.str s)
  | list (items : List Value) (inside : ∀ v ∈ items, Represented v) : Represented (.list items)
  | dict (items : List (PyStr × Value)) (keys : (Object.keys items).Nodup) (inside : ∀ e ∈ items, Represented e.2) :
      Represented (.dict items)

/-- What is reordered is represented too, and sorts to the same value. -/
theorem Reordered.sortKeys_eq {v w : Value} (h : Reordered v w) (hv : Represented v) :
    Represented w ∧ v.sortKeys = w.sortKeys := by
  induction h with
  | refl v => exact ⟨hv, rfl⟩
  | trans _ _ ihleft ihright =>
    obtain ⟨hmid, hleft⟩ := ihleft hv
    obtain ⟨hlast, hright⟩ := ihright hmid
    exact ⟨hlast, hleft.trans hright⟩
  | keys perm =>
    cases hv with
    | dict items keys inside =>
      refine ⟨.dict _ ((perm.map Prod.fst).nodup keys) (fun e he => inside e (perm.mem_iff.mpr he)), ?_⟩
      rw [Value.sortKeys, Value.sortKeys, Value.sortMembers_eq, Value.sortMembers_eq]
      refine congrArg Value.dict (sorted_eq_of_perm (perm.map _) ?_)
      rw [List.map_map]
      exact keys
  | item pre post _ ih =>
    cases hv with
    | list items inside =>
      obtain ⟨hw, heq⟩ := ih (inside _ (by simp))
      refine ⟨.list _ ?_, ?_⟩
      · intro u hu
        obtain hpre | rfl | hpost : u ∈ pre ∨ u = _ ∨ u ∈ post := by simpa using hu
        · exact inside u (by simp [hpre])
        · exact hw
        · exact inside u (by simp [hpost])
      · simp only [Value.sortKeys, Value.sortItems_eq, List.map_append, List.map_cons, heq]
  | member pre post k _ ih =>
    cases hv with
    | dict items keys inside =>
      obtain ⟨hw, heq⟩ := ih (inside (k, _) (by simp))
      refine ⟨.dict _ ?_ ?_, ?_⟩
      · simpa [Object.keys] using keys
      · intro e he
        obtain hpre | rfl | hpost : e ∈ pre ∨ e = (k, _) ∨ e ∈ post := by simpa using he
        · exact inside e (by simp [hpre])
        · exact hw
        · exact inside e (by simp [hpost])
      · simp only [Value.sortKeys, Value.sortMembers_eq, List.map_append, List.map_cons, heq]

/-! ## The sorted document -/

theorem mapM_congr {α β : Type} {f f' : α → Option β} {l : List α} (h : ∀ a ∈ l, f a = f' a) : l.mapM f = l.mapM f' := by
  induction l with
  | nil => rfl
  | cons a l ih =>
    rw [List.mapM_cons, List.mapM_cons, h a List.mem_cons_self, ih (fun b hb => h b (List.mem_cons_of_mem a hb))]

theorem mapM_none {α β : Type} {f : α → Option β} {l : List α} {a : α} (ha : a ∈ l) (h : f a = none) : l.mapM f = none := by
  induction l with
  | nil => cases ha
  | cons b l ih =>
    rw [List.mapM_cons]
    obtain rfl | ha := List.mem_cons.mp ha
    · rw [h]
      rfl
    · rw [ih ha]
      cases f b <;> rfl

/-- Members are dumped and sorted, or sorted and dumped. -/
theorem mapM_sorted (es : List (PyStr × Value)) (f : Value → Option PyStr) :
    (es.insertionSort keyLe).mapM (fun e => (f e.2).map (fun t => (e.1, t))) =
      (es.mapM (fun e => (f e.2).map (fun t => (e.1, t)))).map (sortPairs true) := by
  have htext (l : List (PyStr × Value)) : ∀ e ∈ l, ((f e.2).map (fun t => (e.1, t))).isSome = true →
      (f e.2).map (fun t => (e.1, t)) = some (e.1, (f e.2).getD []) := by
    intro e _ hsome
    obtain ⟨t, ht⟩ := Option.isSome_iff_exists.mp (Option.isSome_map.symm.trans hsome)
    rw [ht]
    rfl
  obtain hall | ⟨hnone, e, he, hfail⟩ := JsonText.mapM_eq_some (htext es)
  · obtain hsorted | ⟨-, e, he, hfail⟩ := JsonText.mapM_eq_some (htext (es.insertionSort keyLe))
    · rw [hall, hsorted, Option.map_some, sortPairs, if_pos rfl]
      exact congrArg some
        (List.map_insertionSort keyLe _ (fun e : PyStr × Value => (e.1, (f e.2).getD [])) es (fun a _ b _ => Iff.rfl))
    · rw [mapM_none ((List.mem_insertionSort keyLe).mp he) hfail] at hall
      cases hall
  · rw [hnone, mapM_none ((List.mem_insertionSort keyLe).mpr he) hfail]
    rfl

/-- `sort_keys=True` writes the value whose keys are sorted. -/
theorem dumps_sorted (v : Value) : dumps true v = dumps false v.sortKeys := by
  induction v using Value.induct with
  | list items ih =>
    rw [Value.sortKeys, Value.sortItems_eq, dumps, dumps, JsonText.dumpsList_eq, JsonText.dumpsList_eq, List.mapM_map]
    exact congrArg (Option.map _) (mapM_congr ih)
  | dict items ih =>
    have hsorted : (Value.sortMembers items).insertionSort keyLe =
        (items.insertionSort keyLe).map (fun e => (e.1, e.2.sortKeys)) := by
      rw [Value.sortMembers_eq]
      exact (List.map_insertionSort keyLe keyLe (fun e : PyStr × Value => (e.1, e.2.sortKeys)) items
        (fun a _ b _ => Iff.rfl)).symm
    have hinside : ∀ e ∈ items.insertionSort keyLe, (dumps false e.2.sortKeys).map (fun t => (e.1, t)) =
        (dumps true e.2).map (fun t => (e.1, t)) := by
      intro e he
      rw [ih e ((List.mem_insertionSort keyLe).mp he)]
    rw [Value.sortKeys, hsorted, dumps, dumps, JsonText.dumpsItems_eq, JsonText.dumpsItems_eq, List.mapM_map]
    have hmembers := (mapM_congr hinside).trans (mapM_sorted items (dumps true))
    show _ = Option.map _ ((items.insertionSort keyLe).mapM
      (fun e => (dumps false e.2.sortKeys).map (fun t => (e.1, t))))
    rw [hmembers, Option.map_map]
    rfl
  | bool b => cases b <;> rfl
  | _ => rfl

/-! ## One document for each class -/

/-- The order of keys does not show. -/
theorem dumps_reordered {v w : Value} (h : Reordered v w) (hv : Represented v) : dumps true v = dumps true w := by
  rw [dumps_sorted, dumps_sorted, (h.sortKeys_eq hv).2]

/-- What holds of each item from some bound on holds of all of them from some bound on. -/
theorem exists_bound {α : Type} {P : Nat → α → Prop} (hmono : ∀ n m a, n ≤ m → P n a → P m a) {l : List α}
    (h : ∀ a ∈ l, ∃ n, P n a) : ∃ n, ∀ a ∈ l, P n a := by
  induction l with
  | nil => exact ⟨0, nofun⟩
  | cons a l ih =>
    obtain ⟨n, hn⟩ := h a List.mem_cons_self
    obtain ⟨m, hm⟩ := ih (fun b hb => h b (List.mem_cons_of_mem a hb))
    refine ⟨max n m, fun b hb => ?_⟩
    obtain rfl | hb := List.mem_cons.mp hb
    · exact hmono n _ b (Nat.le_max_left n m) hn
    · exact hmono m _ b (Nat.le_max_right n m) (hm b hb)

/-- Read back by every interpreter whose limits are at least `n`. -/
def ReadableFrom (n : Nat) (v : Value) : Prop :=
  ∀ py : JsonText.Interpreter, n ≤ py.maxDigits → (∀ r, py.float r = r) → ∀ d, n ≤ d → JsonText.Readable py d v

theorem ReadableFrom.mono (n m : Nat) (v : Value) (h : n ≤ m) (hv : ReadableFrom n v) : ReadableFrom m v :=
  fun py hpy hfloat d hd => hv py (Nat.le_trans h hpy) hfloat d (Nat.le_trans h hd)

theorem dumps_list_some {sortKeys : Bool} {vs : List Value} (h : (dumps sortKeys (.list vs)).isSome = true) :
    ∀ v ∈ vs, (dumps sortKeys v).isSome = true := by
  intro v hv
  by_contra hnone
  rw [dumps, JsonText.dumpsList_eq, mapM_none hv (by simpa using hnone)] at h
  cases h

theorem dumps_dict_some {sortKeys : Bool} {es : List (PyStr × Value)} (h : (dumps sortKeys (.dict es)).isSome = true) :
    ∀ e ∈ es, (dumps sortKeys e.2).isSome = true := by
  intro e he
  by_contra hnone
  have hfail : (dumps sortKeys e.2).map (fun t => (e.1, t)) = none := by simpa using hnone
  rw [dumps, JsonText.dumpsItems_eq, mapM_none he hfail] at h
  cases h

/-- A value with a document is read back, with limits large enough. -/
theorem Represented.readable {v : Value} (hv : Represented v) (h : (dumps true v).isSome = true) :
    ∃ n, ReadableFrom n v := by
  induction v using Value.induct with
  | null => exact ⟨0, fun py _ _ d _ => .null d⟩
  | bool b => exact ⟨0, fun py _ _ d _ => .bool d b⟩
  | int n => exact ⟨_, fun py hpy _ d _ => .int d n hpy⟩
  | float r =>
    cases hv with
    | float _ text =>
      obtain text | hnone := text
      · exact ⟨0, fun py _ hfloat d _ => .float d r text (hfloat r)⟩
      · rw [dumps, hnone] at h
        cases h
  | str s => exact ⟨0, fun py _ _ d _ => .str d s⟩
  | list items ih =>
    cases hv with
    | list _ inside =>
      obtain ⟨n, hn⟩ := exists_bound ReadableFrom.mono (fun v hmem => ih v hmem (inside v hmem) (dumps_list_some h v hmem))
      refine ⟨n + 1, fun py hpy hfloat d hd => ?_⟩
      obtain ⟨d, rfl⟩ : ∃ d', d = d' + 1 := ⟨d - 1, by omega⟩
      exact .list d items (fun v hmem => hn v hmem py (by omega) hfloat d (by omega))
  | dict items ih =>
    cases hv with
    | dict _ keys inside =>
      obtain ⟨n, hn⟩ := exists_bound (P := fun n (e : PyStr × Value) => ReadableFrom n e.2)
        (fun n m e => ReadableFrom.mono n m e.2) (fun e hmem => ih e hmem (inside e hmem) (dumps_dict_some h e hmem))
      refine ⟨n + 1, fun py hpy hfloat d hd => ?_⟩
      obtain ⟨d, rfl⟩ : ∃ d', d = d' + 1 := ⟨d - 1, by omega⟩
      exact .dict d items keys (fun e hmem => hn e hmem py (by omega) hfloat d (by omega))

/-- Values that sort to the same are the same up to the order of keys. -/
theorem reordered_of_sorted {v w : Value} (h : v.sortKeys = w.sortKeys) : Reordered v w :=
  .trans (reordered_sortKeys v) (h ▸ (reordered_sortKeys w).symm)

/-- The document determines the sorted value. -/
theorem dumps_sorted_inj {v w : Value} {t : PyStr} (hv : Represented v) (hw : Represented w)
    (hdv : dumps true v = some t) (hdw : dumps true w = some t) : v.sortKeys = w.sortKeys := by
  obtain ⟨hv', hvv⟩ := (reordered_sortKeys v).sortKeys_eq hv
  obtain ⟨hw', hww⟩ := (reordered_sortKeys w).sortKeys_eq hw
  have hsv : dumps true v.sortKeys = some t := (dumps_reordered (reordered_sortKeys v) hv).symm.trans hdv
  have hsw : dumps true w.sortKeys = some t := (dumps_reordered (reordered_sortKeys w) hw).symm.trans hdw
  obtain ⟨n, hn⟩ := hv'.readable (Option.isSome_of_eq_some hsv)
  obtain ⟨m, hm⟩ := hw'.readable (Option.isSome_of_eq_some hsw)
  let py : JsonText.Interpreter :=
    ⟨n + m + 640, n + m + 16, id, Nat.le_add_left _ _, Nat.le_add_left _ _⟩
  have hread {u : Value} (hu : JsonText.Readable py py.maxDepth u) (ht : dumps false u = some t) :
      JsonText.loads py JsonText.keepPairs t = .ok u := by
    have htext := JsonText.dumps_eq (Option.isSome_of_eq_some ht) 0
    rw [ht] at htext
    have hload : JsonText.loads py JsonText.keepPairs (Layout.compact.write 0 u ++ []) = .ok u :=
      JsonText.loads_write (fun _ _ => rfl) hu 0 rfl
    rw [List.append_nil, ← Option.some.inj htext] at hload
    exact hload
  have hvload := hread (hn py (by show n ≤ n + m + 640; omega) (fun _ => rfl) _ (by show n ≤ n + m + 16; omega))
    ((dumps_sorted v).symm.trans hdv)
  have hwload := hread (hm py (by show m ≤ n + m + 640; omega) (fun _ => rfl) _ (by show m ≤ n + m + 16; omega))
    ((dumps_sorted w).symm.trans hdw)
  exact Except.ok.inj (hvload.symm.trans hwload)

end Pipa.Lib
