import Pipa.Lib.Text

/- Texts as Swift reads them. A `String` is a sequence of Unicode scalars, but its elements
   are `Character`s, the extended grapheme clusters: `first`, `dropFirst`, `filter` and
   `split` go by these. What is used of the segmentation is that the clusters are the text,
   and that printable ASCII makes a cluster of each scalar.

   Swift takes canonically equivalent `Character`s for equal. Of printable ASCII only the
   semicolon, the backtick and the letter K have an equivalent that is another scalar
   (U+037E, U+1FEF and U+212A); no code looks for these three, and any other `Character` of
   printable ASCII is equal to itself alone. -/
namespace Pipa.Lib

def CodePoint.isPrintable (c : CodePoint) : Bool := 0x20 ≤ c.val && c.val < 0x7F

structure SwiftText where
  /-- The extended grapheme clusters of a text. -/
  characters : PyStr → List PyStr
  flatten : ∀ s, (characters s).flatten = s
  printable : ∀ s : PyStr, (∀ c ∈ s, c.isPrintable = true) → characters s = s.map (fun c => [c])
  /-- `CharacterSet.whitespacesAndNewlines`. -/
  isWhitespace : CodePoint → Bool
  graphic : ∀ c : CodePoint, c.isPrintable = true → c.val ≠ 0x20 → isWhitespace c = false

/-- An element of a list is the separator, or is in a part. -/
theorem mem_splitOn {α : Type} [BEq α] [LawfulBEq α] {a x : α} {l : List α} (h : x ∈ l) :
    x = a ∨ ∃ part ∈ l.splitOn a, x ∈ part := by
  induction l with
  | nil => cases h
  | cons y l ih =>
    obtain ⟨part, parts, hparts⟩ := List.exists_cons_of_ne_nil (List.splitOn_ne_nil a l)
    rw [List.splitOn_cons_eq_if_modifyHead]
    split
    · rename_i hy
      obtain rfl | h := List.mem_cons.mp h
      · exact Or.inl (eq_of_beq hy)
      · exact (ih h).imp_right fun ⟨part, hpart, hx⟩ => ⟨part, List.mem_cons_of_mem _ hpart, hx⟩
    · rw [hparts, List.modifyHead_cons]
      obtain rfl | h := List.mem_cons.mp h
      · exact Or.inr ⟨x :: part, List.mem_cons_self, List.mem_cons_self⟩
      · refine (ih h).imp_right fun ⟨part', hpart', hx⟩ => ?_
        rw [hparts] at hpart'
        obtain rfl | hpart' := List.mem_cons.mp hpart'
        · exact ⟨y :: part', List.mem_cons_self, List.mem_cons_of_mem y hx⟩
        · exact ⟨part', List.mem_cons_of_mem _ hpart', hx⟩

namespace SwiftText
variable (t : SwiftText)

/-- `trimmingCharacters(in: .whitespacesAndNewlines)`. -/
def trim (s : PyStr) : PyStr := (s.dropWhile t.isWhitespace).rdropWhile t.isWhitespace

/-- `s.first`. -/
def first (s : PyStr) : Option PyStr := (t.characters s).head?

/-- `String(s.dropFirst())`. -/
def dropFirst (s : PyStr) : PyStr := ((t.characters s).drop 1).flatten

/-- `s.filter`. -/
def filter (p : PyStr → Bool) (s : PyStr) : PyStr := ((t.characters s).filter p).flatten

/-- `s.split(separator:omittingEmptySubsequences: false)`. -/
def split (separator : PyStr) (s : PyStr) : List PyStr :=
  ((t.characters s).splitOn separator).map List.flatten

/-- `s.count`. -/
def count (s : PyStr) : Nat := (t.characters s).length

variable {t} {s : PyStr}

theorem trim_solid (h : ∀ c ∈ s, t.isWhitespace c = false) : t.trim s = s := trim_eq_self h

theorem flatten_singletons (s : PyStr) : (s.map (fun c => [c])).flatten = s := by
  rw [← List.flatMap_def, List.flatMap_singleton']

theorem first_printable (h : ∀ c ∈ s, c.isPrintable = true) : t.first s = s.head?.map (fun c => [c]) := by
  rw [first, t.printable s h, List.head?_map]

theorem dropFirst_printable (h : ∀ c ∈ s, c.isPrintable = true) : t.dropFirst s = s.drop 1 := by
  rw [dropFirst, t.printable s h, ← List.map_drop]
  exact flatten_singletons _

theorem filter_printable (h : ∀ c ∈ s, c.isPrintable = true) (p : PyStr → Bool) :
    t.filter p s = s.filter (fun c => p [c]) := by
  rw [filter, t.printable s h, List.filter_map]
  exact flatten_singletons _

theorem split_printable (h : ∀ c ∈ s, c.isPrintable = true) (separator : CodePoint) :
    t.split [separator] s = s.splitOn separator := by
  rw [split, t.printable s h]
  clear h
  induction s with
  | nil => rfl
  | cons c s ih =>
    obtain ⟨part, parts, hparts⟩ := List.exists_cons_of_ne_nil
      (List.splitOn_ne_nil [separator] (s.map (fun c => [c])))
    rw [List.map_cons, List.splitOn_cons_eq_if_modifyHead, List.splitOn_cons_eq_if_modifyHead, ← ih, hparts]
    by_cases hc : c = separator
    · simp [hc]
    · simp [hc]

/-- A scalar of the text is in the separator, or in a part. -/
theorem mem_split {separator : PyStr} {c : CodePoint} (hc : c ∈ s) :
    c ∈ separator ∨ ∃ part ∈ t.split separator s, c ∈ part := by
  rw [← t.flatten s] at hc
  obtain ⟨character, hcharacter, hc⟩ := List.mem_flatten.mp hc
  obtain rfl | ⟨part, hpart, hmem⟩ := mem_splitOn (a := separator) hcharacter
  · exact Or.inl hc
  · exact Or.inr ⟨part.flatten, List.mem_map_of_mem hpart, List.mem_flatten.mpr ⟨character, hmem, hc⟩⟩

theorem count_printable (h : ∀ c ∈ s, c.isPrintable = true) : t.count s = s.length := by
  rw [count, t.printable s h, List.length_map]

end SwiftText

/-- Texts whose characters are their scalars, with the white space of Python. -/
def scalarText : SwiftText where
  characters s := s.map (fun c => [c])
  flatten := SwiftText.flatten_singletons
  printable _ _ := rfl
  isWhitespace := CodePoint.isSpace
  graphic c hprintable hspace := by
    simp only [CodePoint.isPrintable, Bool.and_eq_true, decide_eq_true_eq] at hprintable
    exact CodePoint.not_isSpace (by omega)

end Pipa.Lib
