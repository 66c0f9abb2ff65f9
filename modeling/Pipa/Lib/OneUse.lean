import Pipa.Lib.ReplayCache

/- One-use handles. A dictionary `live` holds the handles that can still be spent,
   a bounded dictionary `used` remembers some of those that were. Entries may leave
   either at any time (expiry, eviction), so `used` alone does not keep a handle
   from being spent again: what does is that a handle leaves `live` when it is
   spent and only a freshly drawn key ever enters it. `OneUse` is that argument,
   over the history of what was issued and spent. -/
namespace Pipa.Lib

variable {K V T : Type} [DecidableEq K] {keyOf : V → K}

/-- What the history (keys drawn, handles issued, keys spent) has to do with the two dictionaries. -/
structure OneUse (keyOf : V → K) (drawn : List K) (issued : List V) (spent : List K) (live : Dict K V)
    (used : Dict K T) : Prop where
  keys : ∀ k v, live.get? k = some v → keyOf v = k
  wasIssued : ∀ k v, live.get? k = some v → v ∈ issued
  unspent : ∀ k v, live.get? k = some v → k ∉ spent
  wasSpent : ∀ k t, used.get? k = some t → k ∈ spent
  wasDrawn : ∀ v ∈ issued, keyOf v ∈ drawn
  spentIssued : ∀ k ∈ spent, ∃ v ∈ issued, keyOf v = k
  distinct : (issued.map keyOf).Nodup
  once : spent.Nodup

/-- `d'` has no entry that `d` does not have. -/
def Dict.Sub (d' d : Dict K V) : Prop := ∀ k v, d'.get? k = some v → d.get? k = some v

theorem Dict.Sub.refl (d : Dict K V) : d.Sub d := fun _ _ h => h

theorem Dict.Sub.trans {a b c : Dict K V} (h : a.Sub b) (h' : b.Sub c) : a.Sub c :=
  fun k v hk => h' k v (h k v hk)

theorem Dict.Sub.none {a b : Dict K V} (h : a.Sub b) {k : K} (hk : b.get? k = none) : a.get? k = none := by
  cases hget : a.get? k with
  | none => rfl
  | some v =>
    rw [h k v hget] at hk
    cases hk

theorem Dict.sub_filter (d : Dict K V) (p : K → V → Bool) : (d.filter p).Sub d :=
  fun _ _ h => (Dict.get?_filter_some.mp h).1

theorem Dict.sub_popFirst (d : Dict K V) : d.popFirst.Sub d := fun _ _ h => Dict.get?_popFirst h

namespace OneUse
variable {drawn : List K} {issued : List V} {spent : List K} {live live' : Dict K V} {used used' : Dict K T}

theorem empty : OneUse keyOf [] [] [] (Dict.empty : Dict K V) (Dict.empty : Dict K T) where
  keys _ _ h := by cases h
  wasIssued _ _ h := by cases h
  unspent _ _ h := by cases h
  wasSpent _ _ h := by cases h
  wasDrawn _ h := by cases h
  spentIssued _ h := by cases h
  distinct := List.nodup_nil
  once := List.nodup_nil

/-- Entries leave, and keys are drawn that are not used. -/
theorem drop (h : OneUse keyOf drawn issued spent live used) (hlive : live'.Sub live) (hused : used'.Sub used)
    (more : List K) : OneUse keyOf (drawn ++ more) issued spent live' used' where
  keys k v hv := h.keys k v (hlive k v hv)
  wasIssued k v hv := h.wasIssued k v (hlive k v hv)
  unspent k v hv := h.unspent k v (hlive k v hv)
  wasSpent k t ht := h.wasSpent k t (hused k t ht)
  wasDrawn v hv := List.mem_append_left more (h.wasDrawn v hv)
  spentIssued := h.spentIssued
  distinct := h.distinct
  once := h.once

/-- A key that was never drawn is not live, was not issued and not spent. -/
theorem fresh (h : OneUse keyOf drawn issued spent live used) {k : K} (hk : k ∉ drawn) :
    live.get? k = none ∧ k ∉ issued.map keyOf ∧ k ∉ spent := by
  have hissued : k ∉ issued.map keyOf := by
    intro hmem
    obtain ⟨v, hv, rfl⟩ := List.mem_map.mp hmem
    exact hk (h.wasDrawn v hv)
  refine ⟨?_, hissued, ?_⟩
  · cases hget : live.get? k with
    | none => rfl
    | some v => exact absurd (List.mem_map.mpr ⟨v, h.wasIssued k v hget, h.keys k v hget⟩) hissued
  · intro hmem
    obtain ⟨v, hv, hkey⟩ := h.spentIssued k hmem
    exact hissued (List.mem_map.mpr ⟨v, hv, hkey⟩)

/-- A handle is issued under a fresh key. -/
theorem issue (h : OneUse keyOf drawn issued spent live used) (hlive : live'.Sub live) (hused : used'.Sub used)
    {v : V} (hfresh : keyOf v ∉ drawn) :
    OneUse keyOf (drawn ++ [keyOf v]) (issued ++ [v]) spent (live'.set (keyOf v) v) used' := by
  obtain ⟨-, hissued, hspent⟩ := h.fresh hfresh
  refine ⟨?_, ?_, ?_, ?_, ?_, ?_, ?_, h.once⟩
  · intro k x hx
    obtain ⟨rfl, rfl⟩ | ⟨-, hx⟩ := Dict.get?_set_some.mp hx
    · rfl
    · exact h.keys k x (hlive k x hx)
  · intro k x hx
    rw [List.mem_append, List.mem_singleton]
    obtain ⟨-, rfl⟩ | ⟨-, hx⟩ := Dict.get?_set_some.mp hx
    · exact Or.inr rfl
    · exact Or.inl (h.wasIssued k x (hlive k x hx))
  · intro k x hx
    obtain ⟨rfl, -⟩ | ⟨-, hx⟩ := Dict.get?_set_some.mp hx
    · exact hspent
    · exact h.unspent k x (hlive k x hx)
  · exact fun k t ht => h.wasSpent k t (hused k t ht)
  · intro x hx
    rw [List.mem_append, List.mem_singleton] at hx ⊢
    obtain hx | rfl := hx
    · exact Or.inl (h.wasDrawn x hx)
    · exact Or.inr rfl
  · intro k hk
    obtain ⟨x, hx, hkey⟩ := h.spentIssued k hk
    exact ⟨x, List.mem_append_left _ hx, hkey⟩
  · rw [List.map_append, List.map_singleton, List.nodup_append]
    refine ⟨h.distinct, List.nodup_singleton _, ?_⟩
    intro a ha b hb heq
    rw [List.mem_singleton.mp hb] at heq
    exact hissued (heq ▸ ha)

/-- A live handle is spent: it leaves `live`, and `used` gains its key at most. -/
theorem spend (h : OneUse keyOf drawn issued spent live used) (hlive : live'.Sub live) {k : K} {v : V}
    (hk : live.get? k = some v) (hgone : live'.get? k = none)
    (hused : ∀ k' t, used'.get? k' = some t → k' = k ∨ ∃ t', used.get? k' = some t') :
    OneUse keyOf drawn issued (spent ++ [k]) live' used' := by
  refine ⟨?_, ?_, ?_, ?_, h.wasDrawn, ?_, h.distinct, ?_⟩
  · exact fun k' x hx => h.keys k' x (hlive k' x hx)
  · exact fun k' x hx => h.wasIssued k' x (hlive k' x hx)
  · intro k' x hx
    rw [List.mem_append, List.mem_singleton, not_or]
    refine ⟨h.unspent k' x (hlive k' x hx), ?_⟩
    rintro rfl
    rw [hgone] at hx
    cases hx
  · intro k' t ht
    rw [List.mem_append, List.mem_singleton]
    obtain rfl | ⟨t', ht'⟩ := hused k' t ht
    · exact Or.inr rfl
    · exact Or.inl (h.wasSpent k' t' ht')
  · intro k' hk'
    rw [List.mem_append, List.mem_singleton] at hk'
    obtain hk' | rfl := hk'
    · exact h.spentIssued k' hk'
    · exact ⟨v, h.wasIssued _ v hk, h.keys _ v hk⟩
  · refine List.nodup_append.mpr ⟨h.once, List.nodup_singleton k, ?_⟩
    intro a ha b hb heq
    rw [List.mem_singleton.mp hb] at heq
    exact h.unspent k v hk (heq ▸ ha)

/-- No key is both live and remembered as used. -/
theorem disjoint (h : OneUse keyOf drawn issued spent live used) (k : K) :
    live.get? k = none ∨ used.get? k = none := by
  cases hlive : live.get? k with
  | none => exact Or.inl rfl
  | some v =>
    right
    cases hused : used.get? k with
    | none => rfl
    | some t => exact absurd (h.wasSpent k t hused) (h.unspent k v hlive)

end OneUse

/-! ## Remembering a spent key -/

theorem Dict.enter_keys {d : Dict K T} {cap : Nat} {k k' : K} {t t' : T}
    (h : (d.enter cap k t).get? k' = some t') : k' = k ∨ d.get? k' = some t' := by
  unfold Dict.enter at h
  obtain ⟨rfl, -⟩ | ⟨-, h⟩ := Dict.get?_set_some.mp h
  · exact Or.inl rfl
  · split at h
    · exact Or.inr (Dict.get?_popFirst h)
    · exact Or.inr h

theorem Dict.size_enter_le {d : Dict K T} {cap : Nat} (hcap : 0 < cap) (hsize : d.size ≤ cap) {k : K}
    (hk : d.get? k = none) (t : T) : (d.enter cap k t).size ≤ cap := by
  unfold Dict.enter
  split
  · rw [Dict.size_set_new ((Dict.sub_popFirst d).none hk)]
    simp only [Dict.size, Dict.popFirst, List.length_tail] at hsize ⊢
    omega
  · rw [Dict.size_set_new hk]
    omega

end Pipa.Lib
