import Mathlib.Data.List.Basic

/- Streams cut into lines. A line is closed by its delimiter, which is its last
   symbol and stands nowhere else in it; what follows the last delimiter of a
   stream is an unfinished line. `readUntil` is a read that stops behind the
   delimiter, at a size limit, or where nothing more has arrived. -/
namespace Pipa.Lib

variable {α : Type} [DecidableEq α] {nl : α}

/-- A finished line. -/
def IsLine (nl : α) (l : List α) : Prop := ∃ body, nl ∉ body ∧ l = body ++ [nl]

/-- The finished lines of a stream, and its unfinished rest. -/
def splitLines (nl : α) : List α → List (List α) × List α
  | [] => ([], [])
  | b :: bs =>
    if b = nl then ([b] :: (splitLines nl bs).1, (splitLines nl bs).2)
    else match splitLines nl bs with
      | ([], rest) => ([], b :: rest)
      | (l :: ls, rest) => ((b :: l) :: ls, rest)

/-- The bytes a read of at most `size` returns when `available` has arrived. -/
def readUntil (nl : α) : Nat → List α → List α
  | 0, _ => []
  | _ + 1, [] => []
  | size + 1, b :: bs => if b = nl then [b] else b :: readUntil nl size bs

theorem readUntil_eq_take (nl : α) (size : Nat) (available : List α) :
    readUntil nl size available = available.take (readUntil nl size available).length := by
  induction size generalizing available with
  | zero => simp [readUntil]
  | succ size ih =>
    cases available with
    | nil => simp [readUntil]
    | cons b bs =>
      by_cases hb : b = nl
      · simp [readUntil, hb]
      · simp only [readUntil, if_neg hb, List.length_cons, List.take_succ_cons]
        rw [← ih bs]

/-- What a read returns is a piece of an unfinished line, or ends one. -/
theorem readUntil_cases (nl : α) (size : Nat) (available : List α) :
    nl ∉ readUntil nl size available ∨ IsLine nl (readUntil nl size available) := by
  induction size generalizing available with
  | zero => simp [readUntil]
  | succ size ih =>
    cases available with
    | nil => simp [readUntil]
    | cons b bs =>
      by_cases hb : b = nl
      · exact Or.inr ⟨[], by simp, by simp [readUntil, hb]⟩
      · simp only [readUntil, if_neg hb]
        obtain hopen | ⟨body, hbody, hline⟩ := ih bs
        · exact Or.inl (by simp [hopen, Ne.symm hb])
        · exact Or.inr ⟨b :: body, by simp [hbody, Ne.symm hb], by rw [hline]; rfl⟩

/-! ## Lines of a concatenation -/

theorem splitLines_unfinished {p : List α} (hp : nl ∉ p) : splitLines nl p = ([], p) := by
  induction p with
  | nil => rfl
  | cons b p ih =>
    simp only [List.mem_cons, not_or] at hp
    simp [splitLines, Ne.symm hp.1, ih hp.2]

theorem splitLines_line_append {l : List α} (hl : IsLine nl l) (xs : List α) :
    splitLines nl (l ++ xs) = (l :: (splitLines nl xs).1, (splitLines nl xs).2) := by
  obtain ⟨body, hbody, rfl⟩ := hl
  induction body with
  | nil => simp [splitLines]
  | cons b body ih =>
    simp only [List.mem_cons, not_or] at hbody
    have ih' := ih hbody.2
    simp only [List.cons_append, splitLines, if_neg (Ne.symm hbody.1)]
    rw [ih']

/-- The finished lines are lines, and with the rest they give the stream back. -/
theorem splitLines_spec (nl : α) (xs : List α) :
    (∀ l ∈ (splitLines nl xs).1, IsLine nl l) ∧ nl ∉ (splitLines nl xs).2 ∧
      (splitLines nl xs).1.flatten ++ (splitLines nl xs).2 = xs := by
  induction xs with
  | nil => simp [splitLines]
  | cons b bs ih =>
    obtain ⟨hlines, hrest, hflat⟩ := ih
    by_cases hb : b = nl
    · simp only [splitLines, if_pos hb]
      refine ⟨?_, hrest, by simp [hflat]⟩
      intro l hl
      obtain rfl | hl := List.mem_cons.mp hl
      · exact ⟨[], by simp, by simp [hb]⟩
      · exact hlines l hl
    · simp only [splitLines, if_neg hb]
      -- the first line, if there is one, grows by `b`, else the rest does
      cases hsplit : splitLines nl bs with
      | mk ls rest =>
        rw [hsplit] at hlines hrest hflat
        cases ls with
        | nil =>
          refine ⟨by simp, ?_, by simpa using hflat⟩
          simp only [List.mem_cons, not_or]
          exact ⟨Ne.symm hb, hrest⟩
        | cons l ls =>
          refine ⟨?_, hrest, by simpa using hflat⟩
          intro m hm
          obtain rfl | hm := List.mem_cons.mp hm
          · obtain ⟨body, hbody, rfl⟩ := hlines l List.mem_cons_self
            exact ⟨b :: body, by simp [hbody, Ne.symm hb], rfl⟩
          · exact hlines m (List.mem_cons_of_mem l hm)

theorem splitLines_flatten_append {ls : List (List α)} (hls : ∀ l ∈ ls, IsLine nl l) (xs : List α) :
    splitLines nl (ls.flatten ++ xs) = (ls ++ (splitLines nl xs).1, (splitLines nl xs).2) := by
  induction ls with
  | nil => rfl
  | cons l ls ih =>
    have ih' := ih (fun m hm => hls m (List.mem_cons_of_mem l hm))
    rw [List.flatten_cons, List.append_assoc, splitLines_line_append (hls l List.mem_cons_self), ih']
    rfl

/-- Lines are cut from the unfinished rest of what came before. -/
theorem splitLines_append (nl : α) (xs ys : List α) :
    splitLines nl (xs ++ ys) =
      ((splitLines nl xs).1 ++ (splitLines nl ((splitLines nl xs).2 ++ ys)).1,
        (splitLines nl ((splitLines nl xs).2 ++ ys)).2) := by
  obtain ⟨hlines, -, hflat⟩ := splitLines_spec nl xs
  have h := splitLines_flatten_append hlines ((splitLines nl xs).2 ++ ys)
  rwa [← List.append_assoc, hflat] at h

theorem splitLines_newline (nl : α) (xs : List α) :
    splitLines nl (xs ++ [nl]) = ((splitLines nl xs).1 ++ [(splitLines nl xs).2 ++ [nl]], []) := by
  have hline : IsLine nl ((splitLines nl xs).2 ++ [nl]) := ⟨_, (splitLines_spec nl xs).2.1, rfl⟩
  have h := splitLines_line_append hline []
  rw [List.append_nil] at h
  rw [splitLines_append, h]
  rfl

theorem splitLines_symbol {b : α} (hb : b ≠ nl) (xs : List α) :
    splitLines nl (xs ++ [b]) = ((splitLines nl xs).1, (splitLines nl xs).2 ++ [b]) := by
  have hopen : nl ∉ (splitLines nl xs).2 ++ [b] := by
    rw [List.mem_append, List.mem_singleton, not_or]
    exact ⟨(splitLines_spec nl xs).2.1, hb.symm⟩
  rw [splitLines_append, splitLines_unfinished hopen, List.append_nil]

/-- A line that has begun goes on with what follows it. -/
theorem splitLines_begun {xs : List α} (hxs : nl ∉ xs ∨ IsLine nl xs) (more : List α) :
    nl ∉ xs ++ more ∨ ∃ rest lines, (splitLines nl (xs ++ more)).1 = (xs ++ rest) :: lines := by
  obtain hopen | hline := hxs
  · by_cases hmore : nl ∈ more
    · obtain ⟨body, tail, rfl, hbody⟩ := List.eq_append_cons_of_mem hmore
      have hline : IsLine nl (xs ++ (body ++ [nl])) :=
        ⟨xs ++ body, by simp [hopen, hbody], by rw [List.append_assoc]⟩
      refine Or.inr ⟨body ++ [nl], (splitLines nl tail).1, ?_⟩
      have h := splitLines_line_append hline tail
      simp only [List.append_assoc, List.singleton_append] at h
      rw [h]
    · exact Or.inl (by simp [hopen, hmore])
  · exact Or.inr ⟨[], (splitLines nl more).1, by rw [splitLines_line_append hline, List.append_nil]⟩

end Pipa.Lib
