import Mathlib.Data.List.Nodup

/- Insertion-ordered dictionaries, as Python's `dict` and `OrderedDict` keep
   them: assigning to a present key keeps its place, a new key goes to the end,
   deletion closes the gap. The key list is free of repetitions by
   construction, so a lookup is membership (`get?_eq_some`) and every lemma
   below is a statement about members. -/
namespace Pipa.Lib

structure Dict (K V : Type) where
  entries : List (K × V)
  nodup : (entries.map Prod.fst).Nodup

namespace Dict
variable {K V : Type}

def empty : Dict K V := ⟨[], List.nodup_nil⟩

def size (d : Dict K V) : Nat := d.entries.length

def values (d : Dict K V) : List V := d.entries.map Prod.snd

/-- Keep the entries that satisfy `p`: what remains after `del` of the others. -/
def filter (d : Dict K V) (p : K → V → Bool) : Dict K V where
  entries := d.entries.filter (fun e => p e.1 e.2)
  nodup := d.nodup.sublist (List.filter_sublist.map _)

/-- `popitem(last=False)`: drop the oldest entry. -/
def popFirst (d : Dict K V) : Dict K V where
  entries := d.entries.tail
  nodup := d.nodup.sublist ((List.tail_sublist _).map _)

theorem eq_of_mem {d : Dict K V} {k : K} {v v' : V} (h : (k, v) ∈ d.entries)
    (h' : (k, v') ∈ d.entries) : v = v' := by
  have := List.inj_on_of_nodup_map d.nodup h h' rfl
  simpa using this

theorem mem_filter {d : Dict K V} {k : K} {v : V} {p : K → V → Bool} :
    (k, v) ∈ (d.filter p).entries ↔ (k, v) ∈ d.entries ∧ p k v = true := by
  simp [filter]

variable [DecidableEq K]

def get? (d : Dict K V) (k : K) : Option V :=
  (d.entries.find? (fun e => e.1 = k)).map Prod.snd

def contains (d : Dict K V) (k : K) : Bool := (d.get? k).isSome

def erase (d : Dict K V) (k : K) : Dict K V := d.filter (fun k' _ => k' ≠ k)

/-- `d[k] = v`. -/
def set (d : Dict K V) (k : K) (v : V) : Dict K V where
  entries :=
    if k ∈ d.entries.map Prod.fst then d.entries.map (fun e => if e.1 = k then (k, v) else e)
    else d.entries ++ [(k, v)]
  nodup := by
    split
    · rename_i h
      have : (d.entries.map (fun e => if e.1 = k then (k, v) else e)).map Prod.fst =
          d.entries.map Prod.fst := by
        rw [List.map_map]
        apply List.map_congr_left
        intro e _
        by_cases he : e.1 = k <;> simp [he]
      rw [this]; exact d.nodup
    · rename_i h
      rw [List.map_append, List.nodup_append]
      refine ⟨d.nodup, by simp, ?_⟩
      intro a ha b hb
      simp only [List.map_cons, List.map_nil, List.mem_singleton] at hb
      rintro rfl
      exact h (hb ▸ ha)

variable {d : Dict K V} {k k' : K} {v v' : V}

theorem get?_eq_some : d.get? k = some v ↔ (k, v) ∈ d.entries := by
  unfold get?
  constructor
  · intro h
    obtain ⟨e, he, rfl⟩ := Option.map_eq_some_iff.mp h
    have hk := List.find?_some he
    simp only [decide_eq_true_eq] at hk
    rw [← hk]; exact List.mem_of_find?_eq_some he
  · intro h
    cases hf : d.entries.find? (fun e => e.1 = k) with
    | none =>
      have := List.find?_eq_none.mp hf (k, v) h
      simp at this
    | some e =>
      have hk := List.find?_some hf
      simp only [decide_eq_true_eq] at hk
      obtain ⟨a, b⟩ := e
      simp only at hk
      subst hk
      rw [Option.map_some, eq_of_mem (List.mem_of_find?_eq_some hf) h]

theorem get?_eq_none : d.get? k = none ↔ ∀ v, (k, v) ∉ d.entries := by
  constructor
  · intro h v hv
    rw [get?_eq_some.mpr hv] at h
    cases h
  · intro h
    cases hg : d.get? k with
    | none => rfl
    | some v => exact absurd (get?_eq_some.mp hg) (h v)

theorem mem_keys : k ∈ d.entries.map Prod.fst ↔ (d.get? k).isSome = true := by
  rw [Option.isSome_iff_exists]
  simp only [get?_eq_some, List.mem_map, Prod.exists, exists_and_right, exists_eq_right]

@[simp] theorem get?_empty : (empty : Dict K V).get? k = none := rfl

theorem get?_filter_some {p : K → V → Bool} :
    (d.filter p).get? k = some v ↔ d.get? k = some v ∧ p k v = true := by
  rw [get?_eq_some, mem_filter, get?_eq_some]

theorem mem_erase : (k', v) ∈ (d.erase k).entries ↔ (k', v) ∈ d.entries ∧ k' ≠ k := by
  simp [erase, mem_filter]

@[simp] theorem get?_erase : (d.erase k).get? k' = if k' = k then none else d.get? k' := by
  split
  · rename_i h
    rw [get?_eq_none]
    intro v hv
    exact (mem_erase.mp hv).2 h
  · rename_i h
    cases hg : d.get? k' with
    | none =>
      rw [get?_eq_none] at hg ⊢
      exact fun v hv => hg v (mem_erase.mp hv).1
    | some v =>
      rw [get?_eq_some] at hg ⊢
      exact mem_erase.mpr ⟨hg, h⟩

theorem mem_set :
    (k', v') ∈ (d.set k v).entries ↔ (k' = k ∧ v' = v) ∨ (k' ≠ k ∧ (k', v') ∈ d.entries) := by
  unfold set
  split
  · rename_i h
    simp only [List.mem_map]
    constructor
    · rintro ⟨e, he, heq⟩
      by_cases hk : e.1 = k
      · rw [if_pos hk] at heq
        simp only [Prod.mk.injEq] at heq
        exact Or.inl ⟨heq.1.symm, heq.2.symm⟩
      · rw [if_neg hk] at heq
        rw [heq] at hk he
        exact Or.inr ⟨hk, he⟩
    · rintro (⟨rfl, rfl⟩ | ⟨hk, he⟩)
      · obtain ⟨e, he, hek⟩ := List.mem_map.mp h
        exact ⟨e, he, by rw [if_pos hek]⟩
      · exact ⟨(k', v'), he, by rw [if_neg hk]⟩
  · rename_i h
    simp only [List.mem_append, List.mem_singleton, Prod.mk.injEq]
    constructor
    · rintro (he | he)
      · refine Or.inr ⟨?_, he⟩
        rintro rfl
        exact h (List.mem_map.mpr ⟨_, he, rfl⟩)
      · exact Or.inl he
    · rintro (he | ⟨_, he⟩)
      · exact Or.inr he
      · exact Or.inl he

@[simp] theorem get?_set : (d.set k v).get? k' = if k' = k then some v else d.get? k' := by
  split
  · rename_i h
    rw [get?_eq_some]
    exact mem_set.mpr (Or.inl ⟨h, rfl⟩)
  · rename_i h
    cases hg : d.get? k' with
    | none =>
      rw [get?_eq_none] at hg ⊢
      intro v' hv
      rcases mem_set.mp hv with ⟨hk, _⟩ | ⟨_, hv⟩
      · exact h hk
      · exact hg v' hv
    | some v' =>
      rw [get?_eq_some] at hg ⊢
      exact mem_set.mpr (Or.inr ⟨h, hg⟩)

theorem get?_erase_some : (d.erase k).get? k' = some v ↔ k' ≠ k ∧ d.get? k' = some v := by
  rw [get?_eq_some, mem_erase, get?_eq_some, and_comm]

theorem get?_set_some :
    (d.set k v).get? k' = some v' ↔ (k' = k ∧ v' = v) ∨ (k' ≠ k ∧ d.get? k' = some v') := by
  rw [get?_eq_some, mem_set, get?_eq_some]

/-- Assigning twice is assigning the second value. -/
@[simp] theorem set_set : (d.set k v).set k v' = d.set k v' := by
  have hk : k ∈ (d.set k v).entries.map Prod.fst := by
    rw [mem_keys, get?_set, if_pos rfl]; rfl
  have hent : ((d.set k v).set k v').entries =
      (d.set k v).entries.map (fun e => if e.1 = k then (k, v') else e) := if_pos hk
  have hright : (d.set k v).entries.map (fun e => if e.1 = k then (k, v') else e) =
      (d.set k v').entries := by
    simp only [set]
    split
    · rw [List.map_map]
      apply List.map_congr_left
      intro e _
      by_cases he : e.1 = k <;> simp [he]
    · rename_i hnot
      rw [List.map_append]
      congr 1
      · rw [List.map_congr_left, List.map_id]
        intro e he
        have : e.1 ≠ k := fun h => hnot (h ▸ List.mem_map.mpr ⟨e, he, rfl⟩)
        simp [this]
      · simp
  cases h1 : (d.set k v).set k v' with
  | mk e1 n1 =>
    cases h2 : d.set k v' with
    | mk e2 n2 =>
      have : e1 = e2 := by
        rw [h1, hright, h2] at hent
        exact hent
      subst this
      rfl

theorem mem_values : v ∈ d.values ↔ ∃ k, d.get? k = some v := by
  simp only [values, List.mem_map, Prod.exists, exists_eq_right, get?_eq_some]

/-- A property that holds of one key at most singles out one value at most. -/
theorem length_filter_values_le_one {p : V → Bool}
    (h : ∀ k v k' v', d.get? k = some v → d.get? k' = some v' → p v = true → p v' = true → k = k') :
    (d.values.filter p).length ≤ 1 := by
  have hlen : (d.values.filter p).length = ((d.entries.filter (fun e => p e.2)).map Prod.fst).length := by
    rw [values, List.filter_map, List.length_map, List.length_map]; rfl
  have hnodup := (d.filter (fun _ v => p v)).nodup
  have hkeys : ∀ k ∈ (d.entries.filter (fun e => p e.2)).map Prod.fst,
      ∀ k' ∈ (d.entries.filter (fun e => p e.2)).map Prod.fst, k = k' := by
    simp only [List.mem_map, List.mem_filter, Prod.exists, exists_and_right, exists_eq_right]
    rintro k ⟨v, hv, hpv⟩ k' ⟨v', hv', hpv'⟩
    exact h k v k' v' (get?_eq_some.mpr hv) (get?_eq_some.mpr hv') hpv hpv'
  rw [hlen]
  change ((d.entries.filter (fun e => p e.2)).map Prod.fst).Nodup at hnodup
  generalize (d.entries.filter (fun e => p e.2)).map Prod.fst = keys at hnodup hkeys
  match keys with
  | [] => simp
  | [_] => simp
  | a :: b :: _ =>
    have hab : a = b := hkeys a (by simp) b (by simp)
    simp [hab] at hnodup

/-- A new key goes to the end. -/
theorem entries_set_new (h : d.get? k = none) : (d.set k v).entries = d.entries ++ [(k, v)] := by
  have : k ∉ d.entries.map Prod.fst := by
    rw [mem_keys, h]; simp
  simp only [set, if_neg this]

/-! ## Deletion that can fail -/

/-- `del d[k]`; `none` is its `KeyError`. -/
def del (d : Dict K V) (k : K) : Option (Dict K V) := if d.contains k then some (d.erase k) else none

/-- `for k in keys: del d[k]`. -/
def delAll (d : Dict K V) : List K → Option (Dict K V)
  | [] => some d
  | k :: keys => (d.del k).bind (fun d => d.delAll keys)

omit [DecidableEq K] in
@[ext] theorem ext_entries {d d' : Dict K V} (h : d.entries = d'.entries) : d = d' := by
  cases d
  cases d'
  subst h
  rfl

theorem del_eq (h : d.get? k = some v) : d.del k = some (d.erase k) := by
  rw [del, if_pos (by rw [contains, h]; rfl)]

theorem delAll_eq {keys : List K} (hkeys : ∀ k ∈ keys, (d.get? k).isSome = true) (hnodup : keys.Nodup) :
    d.delAll keys = some (d.filter (fun k _ => k ∉ keys)) := by
  induction keys generalizing d with
  | nil =>
    rw [delAll]
    refine congrArg some (ext_entries ?_)
    simp [filter]
  | cons k keys ih =>
    obtain ⟨v, hv⟩ := Option.isSome_iff_exists.mp (hkeys k (List.mem_cons_self ..))
    obtain ⟨hnot, hnodup⟩ := List.nodup_cons.mp hnodup
    rw [delAll, del_eq hv, Option.bind_some, ih ?_ hnodup]
    · refine congrArg some (ext_entries ?_)
      simp only [filter, erase, List.filter_filter, List.mem_cons, not_or, Bool.decide_and]
      refine List.filter_congr (fun e _ => ?_)
      rw [Bool.and_comm]
    · intro k' hk'
      have hne : k' ≠ k := by
        rintro rfl
        exact hnot hk'
      rw [get?_erase, if_neg hne]
      exact hkeys k' (List.mem_cons_of_mem k hk')

/-- Collecting the keys of the entries that satisfy `p` and deleting them keeps the others. -/
theorem delAll_filter (p : K → V → Bool) :
    d.delAll ((d.entries.filter (fun e => p e.1 e.2)).map Prod.fst) = some (d.filter (fun k v => !p k v)) := by
  have hnodup : ((d.entries.filter (fun e => p e.1 e.2)).map Prod.fst).Nodup := (d.filter p).nodup
  rw [delAll_eq ?_ hnodup]
  · refine congrArg some (ext_entries ?_)
    refine List.filter_congr (fun e he => ?_)
    have hiff : e.1 ∈ (d.entries.filter (fun e => p e.1 e.2)).map Prod.fst ↔ p e.1 e.2 = true := by
      constructor
      · intro hmem
        obtain ⟨e', he', hkey⟩ := List.mem_map.mp hmem
        obtain ⟨he', hp⟩ := List.mem_filter.mp he'
        have : e' = e := List.inj_on_of_nodup_map d.nodup he' he hkey
        rwa [← this]
      · intro hp
        exact List.mem_map.mpr ⟨e, List.mem_filter.mpr ⟨he, hp⟩, rfl⟩
    cases hp : p e.1 e.2 <;> simp [hiff, hp]
  · intro k hk
    obtain ⟨e, he, rfl⟩ := List.mem_map.mp hk
    exact mem_keys.mp (List.mem_map.mpr ⟨e, (List.mem_filter.mp he).1, rfl⟩)

omit [DecidableEq K] in
theorem size_filter_le (p : K → V → Bool) : (d.filter p).size ≤ d.size := List.length_filter_le _ _

theorem size_set_new (h : d.get? k = none) : (d.set k v).size = d.size + 1 := by
  rw [size, entries_set_new h, List.length_append, List.length_singleton, size]

theorem size_set_le (d : Dict K V) (k : K) (v : V) : (d.set k v).size ≤ d.size + 1 := by
  unfold size set
  simp only
  split <;> simp

/-- An entry and the others. -/
theorem entries_perm (h : d.get? k = some v) : d.entries.Perm ((k, v) :: (d.erase k).entries) := by
  refine (List.perm_ext_iff_of_nodup d.nodup.of_map ?_).mpr fun e => ?_
  · refine List.nodup_cons.mpr ⟨?_, (d.erase k).nodup.of_map⟩
    exact fun hmem => (mem_erase.mp hmem).2 rfl
  · obtain ⟨k', v'⟩ := e
    rw [List.mem_cons, mem_erase, Prod.mk.injEq]
    constructor
    · intro he
      by_cases hk : k' = k
      · subst hk
        exact Or.inl ⟨rfl, eq_of_mem he (get?_eq_some.mp h)⟩
      · exact Or.inr ⟨he, hk⟩
    · rintro (⟨rfl, rfl⟩ | ⟨he, -⟩)
      · exact get?_eq_some.mp h
      · exact he

@[simp] theorem erase_set : (d.set k v).erase k = d.erase k := by
  refine ext_entries ?_
  show (d.set k v).entries.filter (fun e => e.1 ≠ k) = d.entries.filter (fun e => e.1 ≠ k)
  unfold set
  simp only
  split
  · rw [List.filter_map]
    have hfilter : d.entries.filter ((fun e => decide (e.1 ≠ k)) ∘ fun e => if e.1 = k then (k, v) else e) =
        d.entries.filter (fun e => e.1 ≠ k) := by
      refine List.filter_congr fun e _ => ?_
      by_cases he : e.1 = k <;> simp [he]
    rw [hfilter]
    refine (List.map_congr_left fun e he => ?_).trans (List.map_id _)
    rw [if_neg (of_decide_eq_true (List.mem_filter.mp he).2)]
    rfl
  · rw [List.filter_append, List.filter_cons_of_neg (by simp), List.filter_nil, List.append_nil]

theorem set_perm (d : Dict K V) (k : K) (v : V) : (d.set k v).entries.Perm ((k, v) :: (d.erase k).entries) := by
  have h := entries_perm (d := d.set k v) (k := k) (v := v) (by simp)
  rwa [erase_set] at h

theorem size_erase (h : d.get? k = some v) : (d.erase k).size + 1 = d.size := (entries_perm h).length_eq.symm

theorem size_set_mem (h : d.get? k = some v') : (d.set k v).size = d.size :=
  (set_perm d k v).length_eq.trans (size_erase h)

/-- What `del` of the keys has left. -/
theorem size_delAll {keys : List K} {d' : Dict K V} (h : d.delAll keys = some d') :
    d'.size + keys.length = d.size := by
  induction keys generalizing d with
  | nil =>
    obtain rfl : d = d' := Option.some.inj h
    rfl
  | cons k keys ih =>
    obtain ⟨erased, hdel, hrest⟩ := Option.bind_eq_some_iff.mp h
    unfold del at hdel
    split at hdel
    · rename_i hcontains
      obtain rfl := Option.some.inj hdel
      obtain ⟨v, hv⟩ := Option.isSome_iff_exists.mp hcontains
      have hsize := ih hrest
      have herase := size_erase hv
      rw [List.length_cons]
      omega
    · cases hdel

/-! ### Counting values -/

theorem countP_values_set (p : V → Bool) :
    (d.set k v).values.countP p = (d.erase k).values.countP p + if p v then 1 else 0 := by
  rw [values, ((set_perm d k v).map Prod.snd).countP_eq p, List.map_cons, List.countP_cons]
  rfl

omit [DecidableEq K] in
theorem countP_values_filter_le (p : V → Bool) (q : K → V → Bool) :
    (d.filter q).values.countP p ≤ d.values.countP p :=
  (List.filter_sublist.map Prod.snd).countP_le

theorem countP_values_erase_le (p : V → Bool) : (d.erase k).values.countP p ≤ d.values.countP p :=
  countP_values_filter_le p _

theorem get?_popFirst (h : d.popFirst.get? k = some v) : d.get? k = some v := by
  rw [get?_eq_some] at h ⊢
  exact List.mem_of_mem_tail h

/-! ## Other values -/

section MapValues
variable {W : Type} {g : V → W}

omit [DecidableEq K]

/-- The same keys, each with the image of its value. -/
def mapValues (g : V → W) (d : Dict K V) : Dict K W where
  entries := d.entries.map (fun e => (e.1, g e.2))
  nodup := by
    rw [List.map_map]
    exact d.nodup

@[simp] theorem size_mapValues : (d.mapValues g).size = d.size := List.length_map _

theorem values_mapValues : (d.mapValues g).values = d.values.map g := by
  simp only [values, mapValues, List.map_map, Function.comp_def]

theorem filter_mapValues {p : K → W → Bool} :
    (d.mapValues g).filter p = (d.filter (fun k v => p k (g v))).mapValues g := by
  apply ext_entries
  simp only [filter, mapValues, List.filter_map, Function.comp_def]

variable [DecidableEq K]

theorem erase_mapValues : (d.mapValues g).erase k = (d.erase k).mapValues g := filter_mapValues

@[simp] theorem get?_mapValues : (d.mapValues g).get? k = (d.get? k).map g := by
  simp only [get?, mapValues, List.find?_map, Function.comp_def, Option.map_map]

theorem set_mapValues : (d.mapValues g).set k (g v) = (d.set k v).mapValues g := by
  apply ext_entries
  simp only [set, mapValues, List.map_map, Function.comp_def]
  split
  · simp only [List.map_map, Function.comp_def]
    apply List.map_congr_left
    intro e _
    by_cases he : e.1 = k <;> simp [he]
  · simp only [List.map_append, List.map_cons, List.map_nil]

end MapValues

end Dict
end Pipa.Lib
