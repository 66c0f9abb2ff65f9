import Mathlib.Data.List.Induction

/- Deterministic machines with outputs, and invariants over their runs. A run
   is the list of the inputs taken; the state after it and the output of every
   input are functions of that list. `Along m P ops` is the form in which a
   condition on single steps (a clock that does not go back, an oracle that
   cannot be forged) becomes a condition on a run, and `inv_along` is the
   induction every safety result uses. -/
namespace Pipa.Lib

/-- An element of `l ++ m` is one of `l` or one of `m`, with what stands before and after it. -/
theorem append_eq_split {α : Type} {l m pre post : List α} {x : α} (h : l ++ m = pre ++ x :: post) :
    (∃ later, l = pre ++ x :: later ∧ post = later ++ m) ∨ (∃ mid, m = mid ++ x :: post ∧ pre = l ++ mid) := by
  obtain ⟨mid, hpre, hm⟩ | ⟨mid, hl, hpost⟩ := List.append_eq_append_iff.mp h
  · exact Or.inr ⟨mid, hm, hpre⟩
  · cases mid with
    | nil => exact Or.inr ⟨[], by simpa using hpost.symm, by simpa using hl.symm⟩
    | cons y mid =>
      obtain ⟨rfl, rfl⟩ := List.cons.inj hpost
      exact Or.inl ⟨mid, hl, rfl⟩

/-- A state machine: each input gives a new state and an output. -/
structure Machine (σ α β : Type) where
  init : σ
  step : σ → α → σ × β

namespace Machine
variable {σ α β : Type} (m : Machine σ α β)

/-- The state after the inputs `ops`. -/
def run (ops : List α) : σ := ops.foldl (fun s a => (m.step s a).1) m.init

/-- What input `a` gives out when it is taken after `pre`. -/
def out (pre : List α) (a : α) : β := (m.step (m.run pre) a).2

@[simp] theorem run_nil : m.run [] = m.init := rfl

@[simp] theorem run_concat (pre : List α) (a : α) :
    m.run (pre ++ [a]) = (m.step (m.run pre) a).1 := by
  simp [run, List.foldl_append]

/-- The outputs of the inputs `ops`, in order. -/
def outs (ops : List α) : List β :=
  (ops.foldl (fun acc a => ((m.step acc.1 a).1, acc.2 ++ [(m.step acc.1 a).2])) (m.init, [])).2

@[simp] theorem outs_nil : m.outs [] = [] := rfl

@[simp] theorem outs_concat (pre : List α) (a : α) : m.outs (pre ++ [a]) = m.outs pre ++ [m.out pre a] := by
  have hrun : (pre.foldl (fun acc a => ((m.step acc.1 a).1, acc.2 ++ [(m.step acc.1 a).2]))
      (m.init, ([] : List β))).1 = m.run pre := by
    induction pre using List.reverseRecOn with
    | nil => rfl
    | append_singleton pre b ih => simp [List.foldl_append, ih]
  simp [outs, out, List.foldl_append, hrun]

/-- What was given out stays, in front of what comes later. -/
theorem outs_append (pre post : List α) : ∃ later, m.outs (pre ++ post) = m.outs pre ++ later := by
  induction post using List.reverseRecOn with
  | nil => exact ⟨[], by simp⟩
  | append_singleton post a ih =>
    obtain ⟨later, hlater⟩ := ih
    exact ⟨later ++ [m.out (pre ++ post) a], by rw [← List.append_assoc, outs_concat, hlater, List.append_assoc]⟩

/-- Every step of the run meets `P`, read in the state it is taken in. -/
def Along (P : σ → α → Prop) (ops : List α) : Prop :=
  ∀ pre a post, ops = pre ++ a :: post → P (m.run pre) a

variable {m} {P : σ → α → Prop}

theorem Along.nil : m.Along P [] := by
  intro pre a post h
  simp at h

theorem Along.of_append {pre post : List α} (h : m.Along P (pre ++ post)) : m.Along P pre := by
  intro p a q hp
  exact h p a (q ++ post) (by simp [hp])

theorem Along.of_concat {pre : List α} {a : α} (h : m.Along P (pre ++ [a])) :
    m.Along P pre ∧ P (m.run pre) a :=
  ⟨h.of_append, h pre a [] (by simp)⟩

theorem Along.concat {pre : List α} {a : α} (h : m.Along P pre) (ha : P (m.run pre) a) :
    m.Along P (pre ++ [a]) := by
  intro p b q hp
  obtain ⟨later, hpre, -⟩ | ⟨mid, hmid, rfl⟩ := append_eq_split hp
  · exact h p b later hpre
  · cases mid with
    | nil =>
      obtain ⟨rfl, -⟩ := List.cons.inj hmid
      rwa [List.append_nil]
    | cons c mid => simp at hmid

/-- Some input of the run was an `E`, and every input after it was a `K`; both are read with
the inputs before. -/
def Since (E K : List α → α → Prop) (ops : List α) : Prop :=
  ∃ pre a post, ops = pre ++ a :: post ∧ E pre a ∧ ∀ q b r, post = q ++ b :: r → K (pre ++ a :: q) b

theorem Since.now {E K : List α → α → Prop} {ops : List α} {a : α} (h : E ops a) : Since E K (ops ++ [a]) := by
  refine ⟨ops, a, [], rfl, h, ?_⟩
  intro q b r hq
  simp at hq

theorem Since.keep {E K : List α → α → Prop} {ops : List α} {a : α} (h : Since E K ops) (ha : K ops a) :
    Since E K (ops ++ [a]) := by
  obtain ⟨pre, e, post, rfl, he, hpost⟩ := h
  refine ⟨pre, e, post ++ [a], by simp, he, ?_⟩
  intro q b r hq
  obtain ⟨later, hlater, -⟩ | ⟨mid, hmid, rfl⟩ := append_eq_split hq
  · exact hpost q b later hlater
  · cases mid with
    | nil =>
      obtain ⟨rfl, -⟩ := List.cons.inj hmid
      rwa [List.append_nil]
    | cons c mid => simp at hmid

/-- The last input either was an `E`, or was a `K` and there was an `E` before it. -/
theorem Since.last {E K : List α → α → Prop} {ops : List α} {a : α} (h : Since E K (ops ++ [a])) :
    E ops a ∨ (Since E K ops ∧ K ops a) := by
  obtain ⟨pre, e, post, hops, he, hpost⟩ := h
  obtain ⟨later, rfl, rfl⟩ | ⟨mid, hmid, rfl⟩ := append_eq_split hops
  · exact Or.inr ⟨⟨pre, e, later, rfl, he, fun q b r hq => hpost q b (r ++ [a]) (by simp [hq])⟩,
      hpost later a [] rfl⟩
  · cases mid with
    | nil =>
      obtain ⟨rfl, -⟩ := List.cons.inj hmid
      rw [List.append_nil] at he
      exact Or.inl he
    | cons c mid => simp at hmid

theorem Since.not_nil {E K : List α → α → Prop} : ¬ Since E K [] := by
  rintro ⟨pre, a, post, h, -⟩
  simp at h

/-- What holds at the start and is kept by every step that meets `P` holds
after every run along which `P` is met. -/
theorem inv_along {Inv : σ → Prop} (h0 : Inv m.init)
    (hstep : ∀ s a, Inv s → P s a → Inv (m.step s a).1) {ops : List α} (h : m.Along P ops) :
    Inv (m.run ops) := by
  induction ops using List.reverseRecOn with
  | nil => exact h0
  | append_singleton pre a ih =>
    obtain ⟨hpre, ha⟩ := h.of_concat
    rw [run_concat]
    exact hstep _ _ (ih hpre) ha

/-- What relates every state to the next, and is transitive, relates any two states of a run. -/
theorem between {R : σ → σ → Prop} (hrefl : ∀ s, R s s) (htrans : ∀ s t u, R s t → R t u → R s u)
    (hstep : ∀ s a, R s (m.step s a).1) (pre post : List α) : R (m.run pre) (m.run (pre ++ post)) := by
  induction post using List.reverseRecOn with
  | nil =>
    rw [List.append_nil]
    exact hrefl _
  | append_singleton post a ih =>
    rw [← List.append_assoc, run_concat]
    exact htrans _ _ _ ih (hstep _ a)

/-- Each input that meets `P` is answered on the other side by inputs that meet `Q`, so that the states stay
related; then a run is answered by a run. -/
theorem simulated {σ' α' β' : Type} {n : Machine σ' α' β'} {Q : σ' → α' → Prop} {R : σ → σ' → Prop}
    (h0 : R m.init n.init)
    (hstep : ∀ s a ops', R s (n.run ops') → n.Along Q ops' → P s a →
      ∃ more, n.Along Q (ops' ++ more) ∧ R (m.step s a).1 (n.run (ops' ++ more)))
    {ops : List α} (h : m.Along P ops) : ∃ ops', n.Along Q ops' ∧ R (m.run ops) (n.run ops') := by
  induction ops using List.reverseRecOn with
  | nil => exact ⟨[], Along.nil, h0⟩
  | append_singleton pre a ih =>
    obtain ⟨hpre, ha⟩ := h.of_concat
    obtain ⟨ops', halong, hrelated⟩ := ih hpre
    obtain ⟨more, hmore, hnext⟩ := hstep _ a ops' hrelated halong ha
    refine ⟨ops' ++ more, hmore, ?_⟩
    rw [run_concat]
    exact hnext

/-! ## Two runs of one machine -/

/-- Two runs, input by input; each pair of inputs meets `P`, read in the two states it is taken in. -/
inductive Twins (m : Machine σ α β) (P : σ → σ → α → α → Prop) : List α → List α → Prop
  | nil : Twins m P [] []
  | concat {pre pre' : List α} {a a' : α} (before : Twins m P pre pre') (now : P (m.run pre) (m.run pre') a a') :
      Twins m P (pre ++ [a]) (pre' ++ [a'])

/-- A relation of states that holds at the start and is kept by every pair of inputs that meets `P`
holds after two such runs, and what the pairs of outputs have in common then all of them have. -/
theorem Twins.outs {P : σ → σ → α → α → Prop} {R : σ → σ → Prop} {γ : Type} (f : β → γ) (h0 : R m.init m.init)
    (hstep : ∀ s s' a a', R s s' → P s s' a a' →
      R (m.step s a).1 (m.step s' a').1 ∧ f (m.step s a).2 = f (m.step s' a').2)
    {ops ops' : List α} (h : m.Twins P ops ops') :
    R (m.run ops) (m.run ops') ∧ (m.outs ops).map f = (m.outs ops').map f := by
  induction h with
  | nil => exact ⟨h0, rfl⟩
  | concat before now ih =>
    obtain ⟨hR, hf⟩ := hstep _ _ _ _ ih.1 now
    simp only [run_concat, outs_concat, List.map_append, List.map_cons, List.map_nil]
    refine ⟨hR, ?_⟩
    rw [ih.2]
    exact congrArg (fun x => _ ++ [x]) hf

end Machine
end Pipa.Lib
