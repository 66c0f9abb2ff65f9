import Mathlib.Order.Lattice
import Pipa.Lib.Dict
import Pipa.Lib.Machine

/- A replay cache: an insertion-ordered dictionary from keys to the time they were
   admitted at, pruned from the front and bounded by evicting the oldest entry.

   `Tracks cap history cutoff d` says what the cache `d` has kept of everything
   that was ever admitted: the last part of it, and whatever is gone was at or
   before `cutoff`, or has at least `cap` other keys admitted after it. -/
namespace Pipa.Lib

namespace Dict
variable {K T : Type} [LinearOrder T]

/-- Drop entries from the front as long as they are not newer than `cutoff`. -/
def prune (d : Dict K T) (cutoff : T) : Dict K T where
  entries := d.entries.dropWhile (fun e => e.2 ≤ cutoff)
  nodup := d.nodup.sublist ((List.dropWhile_sublist _).map _)

/-- Record a key, evicting the oldest one where the cache is full. -/
def enter [DecidableEq K] (d : Dict K T) (cap : Nat) (k : K) (now : T) : Dict K T :=
  (if d.size ≥ cap then d.popFirst else d).set k now

theorem prune_split (d : Dict K T) (cutoff : T) :
    ∃ removed, d.entries = removed ++ (d.prune cutoff).entries ∧ ∀ e ∈ removed, e.2 ≤ cutoff := by
  refine ⟨d.entries.takeWhile (fun e => e.2 ≤ cutoff), List.takeWhile_append_dropWhile.symm, ?_⟩
  intro e he
  have := List.all_eq_true.mp List.all_takeWhile e he
  simpa using this

end Dict

section
variable {K T : Type} [DecidableEq K] [LinearOrder T]

/-- The entries of `l` with another key. -/
def others (k : K) (l : List (K × T)) : List (K × T) := l.filter (fun e => e.1 ≠ k)

structure Tracks (cap : Nat) (history : List (K × T)) (cutoff : T) (d : Dict K T)
    (gone : List (K × T)) : Prop where
  split : history = gone ++ d.entries
  size : d.size ≤ cap
  reason : ∀ pre x post, gone = pre ++ x :: post →
    x.2 ≤ cutoff ∨ cap ≤ (others x.1 (post ++ d.entries)).length

namespace Tracks
variable {cap : Nat} {history gone : List (K × T)} {cutoff cutoff' now : T} {d : Dict K T} {k : K}

theorem empty (cap : Nat) (cutoff : T) : Tracks cap [] cutoff (Dict.empty : Dict K T) [] where
  split := rfl
  size := Nat.zero_le cap
  reason := by
    intro pre x post h
    simp at h

theorem later (h : Tracks cap history cutoff d gone) (hc : cutoff ≤ cutoff') :
    Tracks cap history cutoff' d gone where
  split := h.split
  size := h.size
  reason := by
    intro pre x post hx
    exact (h.reason pre x post hx).imp_left (fun hle => le_trans hle hc)

theorem prune (h : Tracks cap history cutoff d gone) :
    ∃ gone', Tracks cap history cutoff (d.prune cutoff) gone' := by
  obtain ⟨removed, hsplit, hold⟩ := d.prune_split cutoff
  have hlen := congrArg List.length hsplit
  rw [List.length_append] at hlen
  refine ⟨gone ++ removed, ?_, ?_, ?_⟩
  · rw [h.split, hsplit, List.append_assoc]
  · have := h.size
    simp only [Dict.size] at this ⊢
    omega
  · intro pre x post hx
    -- the entry went earlier, or it is one of those removed now
    obtain ⟨later, hgone, rfl⟩ | ⟨mid, hmid, -⟩ := append_eq_split hx
    · have := h.reason pre x later hgone
      rwa [hsplit, ← List.append_assoc] at this
    · exact Or.inl (hold x (by rw [hmid]; simp))

/-- Whatever was admitted and is not in the cache went for a reason. -/
theorem absent (h : Tracks cap history cutoff d gone) (hk : d.get? k = none) {pre post : List (K × T)}
    {t : T} (hx : history = pre ++ (k, t) :: post) : t ≤ cutoff ∨ cap ≤ (others k post).length := by
  rw [h.split] at hx
  obtain ⟨later, hgone, rfl⟩ | ⟨mid, hmid, -⟩ := append_eq_split hx
  · exact h.reason pre (k, t) later hgone
  · exact absurd (by rw [hmid]; simp) (Dict.get?_eq_none.mp hk t)

end Tracks

omit [LinearOrder T] in
/-- What `enter` does to the entries: at most the first one is lost, and only from a full
cache. -/
theorem Dict.enter_split {cap : Nat} {d : Dict K T} {k : K} (hcap : 0 < cap) (hsize : d.size ≤ cap)
    (hk : d.get? k = none) (now : T) :
    ∃ lost kept, d.entries = lost ++ kept ∧ (d.enter cap k now).entries = kept ++ [(k, now)] ∧
      kept.length < cap ∧ ∀ x ∈ lost, lost = [x] ∧ kept.length + 1 = cap := by
  unfold Dict.enter
  by_cases hfull : d.size ≥ cap
  · rw [if_pos hfull]
    cases hents : d.entries with
    | nil =>
      simp only [Dict.size, hents, List.length_nil] at hfull
      omega
    | cons x rest =>
      have hnone : d.popFirst.get? k = none := by
        rw [Dict.get?_eq_none] at hk ⊢
        intro v hv
        rw [hents] at hk
        exact hk v (List.mem_cons_of_mem x (by simpa [Dict.popFirst, hents] using hv))
      have hlen : rest.length + 1 = cap := by
        simp only [Dict.size, hents, List.length_cons] at hsize hfull
        omega
      refine ⟨[x], rest, rfl, ?_, by omega, ?_⟩
      · rw [Dict.entries_set_new hnone]
        simp [Dict.popFirst, hents]
      · intro y hy
        rw [List.mem_singleton.mp hy]
        exact ⟨rfl, hlen⟩
  · rw [if_neg hfull, Dict.entries_set_new hk]
    refine ⟨[], d.entries, rfl, rfl, by simpa [Dict.size] using hfull, ?_⟩
    simp

namespace Tracks
variable {cap : Nat} {history gone : List (K × T)} {cutoff now : T} {d : Dict K T} {k : K}

/-- Admitting a key that is not there. -/
theorem enter (hcap : 0 < cap) (h : Tracks cap history cutoff d gone) (hk : d.get? k = none) :
    ∃ gone', Tracks cap (history ++ [(k, now)]) cutoff (d.enter cap k now) gone' := by
  obtain ⟨lost, kept, hents, hnew, hlen, hlost⟩ := Dict.enter_split hcap h.size hk now
  refine ⟨gone ++ lost, ?_, ?_, ?_⟩
  · rw [hnew, h.split, hents]
    simp
  · simp only [Dict.size, hnew, List.length_append, List.length_singleton]
    omega
  · intro pre x post hx
    obtain ⟨later, hgone, rfl⟩ | ⟨mid, hmid, -⟩ := append_eq_split hx
    · refine (h.reason pre x later hgone).imp_right (fun hcount => Nat.le_trans hcount ?_)
      rw [hnew, hents]
      simp only [others, List.filter_append, List.length_append]
      omega
    · -- `x` goes now: all that stays, and the new key, differ from it
      right
      obtain ⟨hone, hcount⟩ := hlost x (by rw [hmid]; simp)
      have hpost : post = [] := by
        rw [hone] at hmid
        cases mid with
        | nil => simpa [eq_comm] using hmid
        | cons z mid => simp at hmid
      have hall : others x.1 (kept ++ [(k, now)]) = kept ++ [(k, now)] := by
        refine List.filter_eq_self.mpr ?_
        intro e he
        rw [hone] at hents
        have hnodup := d.nodup
        rw [hents, List.map_append, List.map_singleton, List.singleton_append, List.nodup_cons] at hnodup
        rcases List.mem_append.mp he with he | he
        · have hne : e.1 ≠ x.1 := fun heq => hnodup.1 (heq ▸ List.mem_map_of_mem he)
          simpa using hne
        · have hne : k ≠ x.1 := by
            rintro rfl
            exact Dict.get?_eq_none.mp hk x.2 (by rw [hents]; simp)
          rw [List.mem_singleton.mp he]
          simpa using hne
      rw [hpost, List.nil_append, hnew, hall, List.length_append, List.length_singleton]
      omega

end Tracks
end
end Pipa.Lib
