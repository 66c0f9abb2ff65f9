import Mathlib.Data.List.Chain
import Pipa.Lib.Regex

/- Where the groups of a regular expression stand.

   `blank` and `solid` say of an atom that it stands for blanks only, or for none. What
   follows from the shape of an expression alone is computed by `edges`: for each group,
   whether what it captures is sure not to be blank where the subject is tidy, because it
   starts with something solid, or comes after a blank, or reaches to the end. -/
namespace Pipa.Lib.Regex

variable {σ α : Type}

section
variable (blank solid : σ → Bool)

/-- Whether a match is sure to end after a blank, where it starts after one or not. -/
def endsBlank : Regex σ → Bool → Bool
  | empty, b => b
  | atom a, _ => blank a
  | seq r t, b => endsBlank t (endsBlank r b)
  | alt r t, b => endsBlank r b && endsBlank t b
  | rep .., _ => false
  | group r, b => endsBlank r b

/-- Whether a match is sure to start with something solid. -/
def startsSolid : Regex σ → Bool
  | empty => false
  | atom a => solid a
  | seq r _ => startsSolid r
  | alt r t => startsSolid r && startsSolid t
  | rep a least _ _ => solid a && 1 ≤ least
  | group r => startsSolid r

/-- Whether a match is sure to take something. -/
def takes : Regex σ → Bool
  | empty => false
  | atom _ => true
  | seq r t => takes r || takes t
  | alt r t => takes r && takes t
  | rep _ least _ _ => 1 ≤ least
  | group r => takes r

def isEmpty : Regex σ → Bool
  | empty => true
  | _ => false

/-- For each group, whether it takes something and stands at an edge; `b` is for a match that starts after a
blank, `e` for one that ends with the subject. -/
def edges : Regex σ → Bool → Bool → List Bool
  | empty, _, _ | atom _, _, _ | rep .., _, _ => []
  | seq r t, b, e => edges r b (e && isEmpty t) ++ edges t (endsBlank blank r b) e
  | alt r t, b, e => edges r b e ++ edges t b e
  | group r, b, e => (takes r && (b || e || startsSolid solid r)) :: edges r b e

end

/-! ## What is captured at an edge -/

variable (isBlank : α → Bool)

/-- What is not empty and stands at an edge of the subject. -/
def AtEdge (subject t : List α) : Prop :=
  t ≠ [] ∧ (t.head?.any (fun c => !isBlank c) ∨ (∃ c, isBlank c = true ∧ (c :: t) <:+: subject) ∨ t <:+ subject)

/-- No two blanks follow each other, and none is last. -/
structure Tidy (subject : List α) : Prop where
  single : subject.IsChain (fun a b => isBlank a = false ∨ isBlank b = false)
  last : ∀ a ∈ subject.getLast?, isBlank a = false

variable {isBlank}

/-- In a tidy subject, what stands at an edge is not all blank. -/
theorem AtEdge.exists_solid {subject t : List α} (h : AtEdge isBlank subject t) (htidy : Tidy isBlank subject) :
    ∃ c ∈ t, isBlank c = false := by
  obtain ⟨hne, hedge⟩ := h
  obtain hhead | ⟨b, hb, hafter⟩ | hend := hedge
  · cases t with
    | nil => exact absurd rfl hne
    | cons c t => exact ⟨c, List.mem_cons_self, by simpa using hhead⟩
  · cases t with
    | nil => exact absurd rfl hne
    | cons c t =>
      have hchain := htidy.single.infix hafter
      obtain hb' | hc := (List.isChain_cons_cons.mp hchain).1
      · rw [hb] at hb'
        cases hb'
      · exact ⟨c, List.mem_cons_self, hc⟩
  · obtain ⟨t, c, rfl⟩ := (List.eq_nil_or_concat' t).resolve_left hne
    obtain ⟨front, rfl⟩ := hend
    exact ⟨c, List.mem_append_right t List.mem_cons_self, htidy.last c (by simp)⟩

variable {holds : σ → α → Bool} {blank solid : σ → Bool}

theorem run_append {r : Regex σ} {s : List α} {m : Match α} (h : m ∈ run holds r s) : s = m.taken ++ m.rest :=
  (run_captures h).1

theorem takes_run {r : Regex σ} (hr : takes r = true) {s : List α} {m : Match α} (h : m ∈ run holds r s) :
    m.taken ≠ [] := by
  induction r generalizing s m with
  | empty => cases hr
  | atom a =>
    cases s with
    | nil => cases h
    | cons c s =>
      simp only [run] at h
      split at h
      · obtain rfl := List.mem_singleton.mp h
        exact List.cons_ne_nil _ _
      · cases h
  | seq r t ihr iht =>
    simp only [run, List.mem_flatMap, List.mem_map] at h
    obtain ⟨m₁, hm₁, n, hn, rfl⟩ := h
    simp only [ne_eq, List.append_eq_nil_iff, not_and_or]
    obtain hr | ht := Bool.or_eq_true_iff.mp hr
    · exact Or.inl (ihr hr hm₁)
    · exact Or.inr (iht ht hn)
  | alt r t ihr iht =>
    simp only [run, List.mem_append, List.mem_map] at h
    obtain ⟨hr, ht⟩ := Bool.and_eq_true_iff.mp hr
    obtain ⟨n, hn, rfl⟩ | ⟨n, hn, rfl⟩ := h
    · exact ihr (m := n) hr hn
    · exact iht (m := n) ht hn
  | rep a least most greedy =>
    have hleast : 1 ≤ least := of_decide_eq_true hr
    have hlength := (rep_taken h).1
    intro hnil
    rw [hnil, List.length_nil] at hlength
    omega
  | group r ih =>
    simp only [run, List.mem_map] at h
    obtain ⟨n, hn, rfl⟩ := h
    exact ih (m := n) hr hn

theorem startsSolid_run (hsolid : ∀ a c, solid a = true → holds a c = true → isBlank c = false) {r : Regex σ}
    (hr : startsSolid solid r = true) {s : List α} {m : Match α} (h : m ∈ run holds r s) :
    m.taken.head?.any (fun c => !isBlank c) = true := by
  induction r generalizing s m with
  | empty => cases hr
  | atom a =>
    cases s with
    | nil => cases h
    | cons c s =>
      simp only [run] at h
      split at h
      · rename_i hholds
        obtain rfl := List.mem_singleton.mp h
        simp only [List.head?_cons, Option.any_some, hsolid a c hr hholds, Bool.not_false]
      · cases h
  | seq r t ihr iht =>
    simp only [run, List.mem_flatMap, List.mem_map] at h
    obtain ⟨m₁, hm₁, n, hn, rfl⟩ := h
    have hfirst := ihr hr hm₁
    obtain ⟨c, hc⟩ := Option.isSome_iff_exists.mp (Option.isSome_of_any hfirst)
    rw [List.head?_append, hc, Option.some_or, ← hc]
    exact hfirst
  | alt r t ihr iht =>
    simp only [run, List.mem_append, List.mem_map] at h
    obtain ⟨hr, ht⟩ := Bool.and_eq_true_iff.mp hr
    obtain ⟨n, hn, rfl⟩ | ⟨n, hn, rfl⟩ := h
    · exact ihr (m := n) hr hn
    · exact iht (m := n) ht hn
  | rep a least most greedy =>
    obtain ⟨ha, hleast⟩ := Bool.and_eq_true_iff.mp hr
    obtain ⟨hlength, hall⟩ := rep_taken h
    have hleast : 1 ≤ least := of_decide_eq_true hleast
    obtain ⟨c, rest, htaken⟩ := List.exists_cons_of_length_pos (show 0 < m.taken.length by omega)
    have hc := hsolid a c ha (hall c (by rw [htaken]; exact List.mem_cons_self))
    rw [htaken, List.head?_cons, Option.any_some, hc]
    rfl
  | group r ih =>
    simp only [run, List.mem_map] at h
    obtain ⟨n, hn, rfl⟩ := h
    exact ih (m := n) hr hn

/-- What comes last before a place. -/
def EndsBlank (isBlank : α → Bool) (before : List α) : Prop := ∃ front c, before = front ++ [c] ∧ isBlank c = true

theorem endsBlank_run (hblank : ∀ a c, blank a = true → holds a c = true → isBlank c = true) {r : Regex σ}
    {b : Bool} (hr : endsBlank blank r b = true) {before s : List α} (hb : b = true → EndsBlank isBlank before)
    {m : Match α}
    (h : m ∈ run holds r s) : EndsBlank isBlank (before ++ m.taken) := by
  induction r generalizing before s m b with
  | empty =>
    obtain rfl := List.mem_singleton.mp h
    rw [List.append_nil]
    exact hb hr
  | atom a =>
    cases s with
    | nil => cases h
    | cons c s =>
      simp only [run] at h
      split at h
      · rename_i hholds
        obtain rfl := List.mem_singleton.mp h
        exact ⟨before, c, rfl, hblank a c hr hholds⟩
      · cases h
  | seq r t ihr iht =>
    simp only [run, List.mem_flatMap, List.mem_map] at h
    obtain ⟨m₁, hm₁, n, hn, rfl⟩ := h
    rw [← List.append_assoc]
    exact iht hr (fun hfirst => ihr hfirst hb hm₁) hn
  | alt r t ihr iht =>
    simp only [run, List.mem_append, List.mem_map] at h
    obtain ⟨hr, ht⟩ := Bool.and_eq_true_iff.mp hr
    obtain ⟨n, hn, rfl⟩ | ⟨n, hn, rfl⟩ := h
    · exact ihr (m := n) hr hb hn
    · exact iht (m := n) ht hb hn
  | rep => cases hr
  | group r ih =>
    simp only [run, List.mem_map] at h
    obtain ⟨n, hn, rfl⟩ := h
    exact ih (m := n) hr hb hn

theorem edges_length (r : Regex σ) (b e : Bool) : (edges blank solid r b e).length = r.groups := by
  induction r generalizing b e with
  | empty | atom _ | rep _ _ _ _ => rfl
  | seq r t ihr iht => rw [edges, List.length_append, ihr, iht, groups]
  | alt r t ihr iht => rw [edges, List.length_append, ihr, iht, groups]
  | group r ih => rw [edges, List.length_cons, ih, groups]

/-- What a group with the mark captured stands at an edge. -/
def Marked (isBlank : α → Bool) (subject : List α) (mark : Bool) (captured : Option (List α)) : Prop :=
  mark = true → ∀ t, captured = some t → AtEdge isBlank subject t

theorem marked_none (subject : List α) (marks : List Bool) :
    List.Forall₂ (Marked isBlank subject) marks (List.replicate marks.length none) := by
  induction marks with
  | nil => exact .nil
  | cons mark marks ih => exact .cons (fun _ _ h => nomatch h) ih

theorem isEmpty_run {r : Regex σ} (hr : isEmpty r = true) {s : List α} {m : Match α} (h : m ∈ run holds r s) :
    m.rest = s := by
  cases r with
  | empty =>
    obtain rfl := List.mem_singleton.mp h
    rfl
  | _ => cases hr

theorem edges_run (hblank : ∀ a c, blank a = true → holds a c = true → isBlank c = true)
    (hsolid : ∀ a c, solid a = true → holds a c = true → isBlank c = false) {r : Regex σ}
    {subject before s : List α} (hsubject : subject = before ++ s) {b e : Bool}
    (hb : b = true → EndsBlank isBlank before) {m : Match α}
    (h : m ∈ run holds r s) (he : e = true → m.rest = []) :
    List.Forall₂ (Marked isBlank subject) (edges blank solid r b e) m.captured := by
  induction r generalizing before s m b e with
  | empty =>
    obtain rfl := List.mem_singleton.mp h
    exact .nil
  | atom a =>
    cases s with
    | nil => cases h
    | cons c s =>
      simp only [run] at h
      split at h
      · obtain rfl := List.mem_singleton.mp h
        exact .nil
      · cases h
  | seq r t ihr iht =>
    simp only [run, List.mem_flatMap, List.mem_map] at h
    obtain ⟨m₁, hm₁, n, hn, rfl⟩ := h
    refine List.rel_append (ihr hsubject hb hm₁ ?_) (iht ?_ (fun hr => endsBlank_run hblank hr hb hm₁) hn he)
    · intro hlast
      obtain ⟨he', ht⟩ := Bool.and_eq_true_iff.mp hlast
      rw [← isEmpty_run ht hn]
      exact he he'
    · rw [hsubject, List.append_assoc, ← run_append hm₁]
  | alt r t ihr iht =>
    simp only [run, List.mem_append, List.mem_map] at h
    rw [edges]
    obtain ⟨n, hn, rfl⟩ | ⟨n, hn, rfl⟩ := h
    · refine List.rel_append (ihr (m := n) hsubject hb hn he) ?_
      have hlength : (edges blank solid t b e).length = t.groups := edges_length t b e
      rw [← hlength]
      exact marked_none _ _
    · refine List.rel_append ?_ (iht (m := n) hsubject hb hn he)
      rw [← edges_length r b e]
      exact marked_none _ _
  | rep a least most greedy =>
    simp only [run, List.mem_map] at h
    obtain ⟨n, -, rfl⟩ := h
    exact .nil
  | group r ih =>
    simp only [run, List.mem_map] at h
    obtain ⟨n, hn, rfl⟩ := h
    refine .cons ?_ (ih (m := n) hsubject hb hn he)
    intro hmark t ht
    obtain rfl := Option.some.inj ht
    obtain ⟨htakes, hedge⟩ := Bool.and_eq_true_iff.mp hmark
    refine ⟨takes_run htakes hn, ?_⟩
    obtain hedge | hsolid' := Bool.or_eq_true_iff.mp hedge
    · obtain hb' | he' := Bool.or_eq_true_iff.mp hedge
      · obtain ⟨front, c, rfl, hc⟩ := hb hb'
        refine Or.inr (Or.inl ⟨c, hc, front, n.rest, ?_⟩)
        rw [hsubject, run_append hn]
        simp only [List.append_assoc, List.cons_append, List.nil_append]
      · refine Or.inr (Or.inr ⟨before, ?_⟩)
        rw [hsubject, run_append hn, he he', List.append_nil]
    · exact Or.inl (startsSolid_run hsolid hsolid' hn)

/-- A full match of a tidy subject: what a marked group captured is not all blank. -/
theorem fullmatch_edges (hblank : ∀ a c, blank a = true → holds a c = true → isBlank c = true)
    (hsolid : ∀ a c, solid a = true → holds a c = true → isBlank c = false) {r : Regex σ} {subject : List α}
    {captured : List (Option (List α))} (h : fullmatch holds r subject = some captured) :
    List.Forall₂ (Marked isBlank subject) (edges blank solid r false true) captured := by
  obtain ⟨m, hm, rfl⟩ := Option.map_eq_some_iff.mp h
  have hrest := List.find?_some hm
  exact edges_run (b := false) (e := true) hblank hsolid (List.nil_append subject).symm nofun
    (List.mem_of_find?_eq_some hm) (fun _ => List.isEmpty_iff.mp hrest)

end Pipa.Lib.Regex
