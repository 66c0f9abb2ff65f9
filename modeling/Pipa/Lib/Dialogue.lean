import Mathlib.Logic.Basic

/- Programs that ask a peer they do not trust. A program is a tree: it is done, it
   raises, or it asks a question and goes on with whatever is answered. `Runs d t r`
   says that `d` can have the conversation `t` and end with `r`, for some answers of
   the peer; `talk` is the conversation for given ones. What holds of every `t` and
   `r` with `Runs d t r` holds whatever the peer does. -/
namespace Pipa.Lib

inductive Dialogue (ρ α ε β : Type) where
  | done (result : β)
  | raise (e : ε)
  | ask (question : ρ) (next : α → Dialogue ρ α ε β)

namespace Dialogue
variable {ρ α ε β γ : Type}

/-- One program after another. -/
def andThen (f : β → Dialogue ρ α ε γ) : Dialogue ρ α ε β → Dialogue ρ α ε γ
  | .done result => f result
  | .raise e => .raise e
  | .ask question next => .ask question (fun answer => andThen f (next answer))

instance : Monad (Dialogue ρ α ε) where
  pure := .done
  bind d f := andThen f d

/-- The end that is given, without a question. -/
def ofExcept : Except ε β → Dialogue ρ α ε β
  | .ok result => .done result
  | .error e => .raise e

/-- `try`: what the program ends with, exceptions included. -/
def attempt : Dialogue ρ α ε β → Dialogue ρ α ε (Except ε β)
  | .done result => .done (.ok result)
  | .raise e => .done (.error e)
  | .ask question next => .ask question (fun answer => attempt (next answer))

/-- The conversation with a peer whose answers are given, and its end. -/
def talk : Dialogue ρ α ε β → (Nat → α) → List (ρ × α) × Except ε β
  | .done result, _ => ([], .ok result)
  | .raise e, _ => ([], .error e)
  | .ask question next, answers =>
    let r := talk (next (answers 0)) (fun n => answers (n + 1))
    ((question, answers 0) :: r.1, r.2)

/-- A conversation that can be had, and its end. -/
def Runs : Dialogue ρ α ε β → List (ρ × α) → Except ε β → Prop
  | .done result, t, r => t = [] ∧ r = .ok result
  | .raise e, t, r => t = [] ∧ r = .error e
  | .ask question next, t, r => ∃ answer later, t = (question, answer) :: later ∧ Runs (next answer) later r

/-- Whatever is answered, the conversation is one that can be had. -/
theorem runs_talk (d : Dialogue ρ α ε β) (answers : Nat → α) : d.Runs (d.talk answers).1 (d.talk answers).2 := by
  induction d generalizing answers with
  | done result => exact ⟨rfl, rfl⟩
  | raise e => exact ⟨rfl, rfl⟩
  | ask question next ih => exact ⟨answers 0, _, rfl, ih (answers 0) _⟩

section
variable {t : List (ρ × α)} {result : β} {e : ε}

theorem runs_ofExcept {r r' : Except ε β} : (ofExcept r' : Dialogue ρ α ε β).Runs t r ↔ t = [] ∧ r = r' := by
  cases r' with
  | ok result => exact Iff.rfl
  | error e => exact Iff.rfl

/-- One program after another: the second goes on where the first is done, or the first has raised. -/
theorem runs_bind {d : Dialogue ρ α ε β} {f : β → Dialogue ρ α ε γ} {r : Except ε γ} :
    (d >>= f).Runs t r ↔
      (∃ before result after, t = before ++ after ∧ d.Runs before (.ok result) ∧ (f result).Runs after r) ∨
        ∃ e, d.Runs t (.error e) ∧ r = .error e := by
  show (andThen f d).Runs t r ↔ _
  induction d generalizing t with
  | done x =>
    constructor
    · intro h
      exact Or.inl ⟨[], x, t, rfl, ⟨rfl, rfl⟩, h⟩
    · rintro (⟨before, result, after, rfl, ⟨rfl, hx⟩, h⟩ | ⟨e, ⟨-, he⟩, -⟩)
      · obtain rfl := Except.ok.inj hx
        exact h
      · cases he
  | raise e =>
    constructor
    · rintro ⟨rfl, rfl⟩
      exact Or.inr ⟨e, ⟨rfl, rfl⟩, rfl⟩
    · rintro (⟨before, result, after, -, ⟨-, hx⟩, -⟩ | ⟨e', ⟨rfl, he⟩, rfl⟩)
      · cases hx
      · obtain rfl := Except.error.inj he
        exact ⟨rfl, rfl⟩
  | ask question next ih =>
    constructor
    · rintro ⟨answer, later, rfl, h⟩
      obtain ⟨before, result, after, rfl, hbefore, hafter⟩ | ⟨e, he, rfl⟩ := (ih answer).mp h
      · exact Or.inl ⟨(question, answer) :: before, result, after, rfl, ⟨answer, before, rfl, hbefore⟩, hafter⟩
      · exact Or.inr ⟨e, ⟨answer, later, rfl, he⟩, rfl⟩
    · rintro (⟨before, result, after, rfl, ⟨answer, later, rfl, hbefore⟩, hafter⟩ | ⟨e, ⟨answer, later, rfl, he⟩, rfl⟩)
      · exact ⟨answer, later ++ after, rfl, (ih answer).mpr (Or.inl ⟨later, result, after, rfl, hbefore, hafter⟩)⟩
      · exact ⟨answer, later, rfl, (ih answer).mpr (Or.inr ⟨e, he, rfl⟩)⟩

theorem runs_attempt {d : Dialogue ρ α ε β} {r : Except ε (Except ε β)} :
    d.attempt.Runs t r ↔ ∃ r', d.Runs t r' ∧ r = .ok r' := by
  induction d generalizing t with
  | done x =>
    constructor
    · rintro ⟨rfl, rfl⟩
      exact ⟨_, ⟨rfl, rfl⟩, rfl⟩
    · rintro ⟨r', ⟨rfl, rfl⟩, rfl⟩
      exact ⟨rfl, rfl⟩
  | raise e =>
    constructor
    · rintro ⟨rfl, rfl⟩
      exact ⟨_, ⟨rfl, rfl⟩, rfl⟩
    · rintro ⟨r', ⟨rfl, rfl⟩, rfl⟩
      exact ⟨rfl, rfl⟩
  | ask question next ih =>
    constructor
    · rintro ⟨answer, later, rfl, h⟩
      obtain ⟨r', hr, rfl⟩ := (ih answer).mp h
      exact ⟨r', ⟨answer, later, rfl, hr⟩, rfl⟩
    · rintro ⟨r', ⟨answer, later, rfl, hr⟩, rfl⟩
      exact ⟨answer, later, rfl, (ih answer).mpr ⟨r', hr, rfl⟩⟩

end

/-- Every question of every conversation is one of these. -/
def Asks (P : ρ → Prop) (d : Dialogue ρ α ε β) : Prop := ∀ t r, d.Runs t r → ∀ e ∈ t, P e.1

theorem Asks.pure {P : ρ → Prop} {result : β} : Asks P (Pure.pure result : Dialogue ρ α ε β) := by
  rintro t r ⟨rfl, -⟩ e he
  cases he

theorem Asks.raise {P : ρ → Prop} {e : ε} : Asks P (.raise e : Dialogue ρ α ε β) := by
  rintro t r ⟨rfl, -⟩ e he
  cases he

theorem Asks.bind {P : ρ → Prop} {d : Dialogue ρ α ε β} {f : β → Dialogue ρ α ε γ} (hd : d.Asks P)
    (hf : ∀ result, (f result).Asks P) : (d >>= f).Asks P := by
  intro t r h e he
  obtain ⟨before, result, after, rfl, hbefore, hafter⟩ | ⟨error, herror, -⟩ := runs_bind.mp h
  · obtain he | he := List.mem_append.mp he
    · exact hd _ _ hbefore e he
    · exact hf result _ _ hafter e he
  · exact hd _ _ herror e he

theorem Asks.attempt {P : ρ → Prop} {d : Dialogue ρ α ε β} (hd : d.Asks P) : d.attempt.Asks P := by
  intro t r h e he
  obtain ⟨r', hr, -⟩ := runs_attempt.mp h
  exact hd t r' hr e he

theorem Asks.ite {P : ρ → Prop} {c : Prop} [Decidable c] {d d' : Dialogue ρ α ε β} (hd : d.Asks P) (hd' : d'.Asks P) :
    (if c then d else d').Asks P := by
  split
  · exact hd
  · exact hd'

end Dialogue

end Pipa.Lib
