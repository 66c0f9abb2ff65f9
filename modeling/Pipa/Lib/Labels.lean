import Mathlib.Data.List.Perm.Basic
import Mathlib.Data.List.Pairwise

/- Items with labels, no label on two of them.

   A loop that takes items one after the other, and refuses one with a label it has
   seen, accepts exactly the lists of this kind (`Reserves.accepts_iff`), whatever
   state it keeps the labels in. The kind does not depend on the order of the
   items, and a search by label finds the one item that has it. -/
namespace Pipa.Lib

variable {α κ σ ε : Type} (labels : α → List κ)

/-- No label is on two items. -/
def Apart (xs : List α) : Prop := xs.Pairwise (fun a b => List.Disjoint (labels a) (labels b))

variable {labels} {xs ys : List α}

theorem Apart.perm (h : Apart labels xs) (hperm : xs.Perm ys) : Apart labels ys :=
  (hperm.pairwise_iff fun hab => List.disjoint_symm hab).mp h

theorem Apart.sublist (h : Apart labels ys) (hsub : xs.Sublist ys) : Apart labels xs :=
  List.Pairwise.sublist hsub h

/-- A label belongs to one item. -/
theorem Apart.eq_of_label (h : Apart labels xs) {a b : α} (ha : a ∈ xs) (hb : b ∈ xs) {k : κ}
    (hka : k ∈ labels a) (hkb : k ∈ labels b) : a = b := by
  have : Std.Symm (fun a b => List.Disjoint (labels a) (labels b)) := ⟨fun _ _ hab => List.disjoint_symm hab⟩
  by_contra hne
  exact List.Pairwise.forall h ha hb hne hka hkb

/-- A search that goes by the labels finds the one item. -/
theorem Apart.find? (h : Apart labels xs) {a : α} (ha : a ∈ xs) {p : α → Bool} (hp : p a = true)
    (hlabel : ∀ b ∈ xs, p b = true → ∃ k ∈ labels a, k ∈ labels b) : xs.find? p = some a := by
  cases hfind : xs.find? p with
  | none =>
    have hnone := List.find?_eq_none.mp hfind a ha
    exact absurd hp hnone
  | some b =>
    have hb := List.mem_of_find?_eq_some hfind
    obtain ⟨k, hka, hkb⟩ := hlabel b hb (List.find?_some hfind)
    rw [h.eq_of_label ha hb hka hkb]

/-- What items without a common label are read as has none either. -/
theorem Apart.filterMap {β : Type} {labels : β → List κ} {parse : α → Option β}
    (h : Apart (fun a => (parse a).elim [] labels) xs) : Apart labels (xs.filterMap parse) := by
  refine List.Pairwise.filterMap parse ?_ h
  intro a a' hdisjoint b hb b' hb'
  simp only [hb, hb', Option.elim_some] at hdisjoint
  exact hdisjoint

/-! ## Loops -/

/-- What each turn of a loop keeps, the loop keeps. -/
theorem foldlM_inv {step : σ → α → Except ε σ} {inv : σ → Prop}
    (hstep : ∀ s a s', inv s → step s a = .ok s' → inv s') {s s' : σ} (hinv : inv s)
    (hrun : xs.foldlM step s = .ok s') : inv s' := by
  induction xs generalizing s with
  | nil =>
    obtain rfl := Except.ok.inj hrun
    exact hinv
  | cons a xs ih =>
    rw [List.foldlM_cons] at hrun
    cases hone : step s a with
    | error e =>
      rw [hone] at hrun
      cases hrun
    | ok s₁ =>
      rw [hone] at hrun
      exact ih (hstep s a s₁ hinv hone) hrun

/-- A loop that writes one thing down for each item, as long as the invariant holds. -/
theorem foldlM_append {β : Type} {step : σ → α → Except ε σ} (written : σ → List β) (parse : α → Option β)
    (inv : σ → Prop) (hstep : ∀ s a s', inv s → step s a = .ok s' →
      inv s' ∧ ∃ b, parse a = some b ∧ written s' = written s ++ [b])
    {s s' : σ} (hinv : inv s) (hrun : xs.foldlM step s = .ok s') : written s' = written s ++ xs.filterMap parse := by
  induction xs generalizing s with
  | nil =>
    obtain rfl := Except.ok.inj hrun
    exact (List.append_nil _).symm
  | cons a xs ih =>
    rw [List.foldlM_cons] at hrun
    cases hone : step s a with
    | error e =>
      rw [hone] at hrun
      cases hrun
    | ok s₁ =>
      rw [hone] at hrun
      obtain ⟨hinv₁, b, hparse, hwritten⟩ := hstep s a s₁ hinv hone
      rw [ih hinv₁ hrun, hwritten, List.filterMap_cons_some hparse, List.append_assoc]
      rfl

/-- What one turn of the loop does: it takes an item that is right by itself and has no label that was seen, and
then has seen its labels too. -/
structure Reserves (step : σ → α → Except ε σ) (seen : σ → κ → Prop) (own : α → Prop) (labels : α → List κ) : Prop where
  accepts : ∀ s a, own a → (∀ k ∈ labels a, ¬ seen s k) → ∃ s', step s a = .ok s'
  accepted : ∀ s a s', step s a = .ok s' → own a ∧ ∀ k ∈ labels a, ¬ seen s k
  sees : ∀ s a s', step s a = .ok s' → ∀ k, seen s' k ↔ seen s k ∨ k ∈ labels a

namespace Reserves
variable {step : σ → α → Except ε σ} {seen : σ → κ → Prop} {own : α → Prop}

/-- The loop accepts what is right by itself, has labels of its own, and none that was seen before. -/
theorem accepts_iff (h : Reserves step seen own labels) (s : σ) (xs : List α) :
    (∃ s', xs.foldlM step s = .ok s') ↔
      (∀ a ∈ xs, own a) ∧ Apart labels xs ∧ ∀ a ∈ xs, ∀ k ∈ labels a, ¬ seen s k := by
  induction xs generalizing s with
  | nil => exact iff_of_true ⟨s, rfl⟩ ⟨List.forall_mem_nil _, List.Pairwise.nil, List.forall_mem_nil _⟩
  | cons a xs ih =>
    rw [List.foldlM_cons]
    cases hstep : step s a with
    | error e =>
      refine iff_of_false (fun hok => nomatch hok.choose_spec) ?_
      rintro ⟨hown, -, hnew⟩
      obtain ⟨s', hs'⟩ := h.accepts s a (hown a List.mem_cons_self) (hnew a List.mem_cons_self)
      rw [hstep] at hs'
      cases hs'
    | ok s' =>
      obtain ⟨hown, hnew⟩ := h.accepted s a s' hstep
      have hsees := h.sees s a s' hstep
      have hcons : Apart labels (a :: xs) ↔ (∀ b ∈ xs, List.Disjoint (labels a) (labels b)) ∧ Apart labels xs :=
        List.pairwise_cons
      show (∃ t, xs.foldlM step s' = .ok t) ↔ _
      rw [ih s', hcons]
      constructor
      · rintro ⟨hothers, hapart, hlater⟩
        refine ⟨List.forall_mem_cons.mpr ⟨hown, hothers⟩, ⟨?_, hapart⟩, List.forall_mem_cons.mpr ⟨hnew, ?_⟩⟩
        · intro b hb k hka hkb
          exact hlater b hb k hkb ((hsees k).mpr (Or.inr hka))
        · intro b hb k hkb hk
          exact hlater b hb k hkb ((hsees k).mpr (Or.inl hk))
      · rintro ⟨hall, ⟨hfirst, hapart⟩, hfresh⟩
        refine ⟨fun b hb => hall b (List.mem_cons_of_mem a hb), hapart, ?_⟩
        intro b hb k hkb hk
        obtain hk | hka := (hsees k).mp hk
        · exact hfresh b (List.mem_cons_of_mem a hb) k hkb hk
        · exact hfirst b hb hka hkb

/-- What the loop has seen in the end. -/
theorem sees_run (h : Reserves step seen own labels) {s s' : σ} {xs : List α} (hrun : xs.foldlM step s = .ok s')
    (k : κ) : seen s' k ↔ seen s k ∨ ∃ a ∈ xs, k ∈ labels a := by
  induction xs generalizing s with
  | nil =>
    obtain rfl := Except.ok.inj hrun
    simp only [List.not_mem_nil, false_and, exists_false, or_false]
  | cons a xs ih =>
    rw [List.foldlM_cons] at hrun
    cases hstep : step s a with
    | error e =>
      rw [hstep] at hrun
      cases hrun
    | ok s₁ =>
      rw [hstep] at hrun
      rw [ih hrun, h.sees s a s₁ hstep k, List.exists_mem_cons_iff, or_assoc]

end Reserves

end Pipa.Lib
