import Pipa.Intents.Total
import Pipa.Lib.RegexEdges

/- What the groups of the built-in phrases hold: a part of the text that is not blank.

   The text is collapsed before the patterns read it, so no blank follows another and
   none is at an end. A group that comes after a space of its pattern, or reaches to the
   end, or starts with something that is no space, holds more than spaces; `fills` is this
   check of a pattern, by computation. -/
namespace Pipa.Intents
open Pipa.Lib

/-! ## Atoms -/

/-- The atom stands for white space only. -/
def Atom.isBlank : Atom → Bool
  | .char c => c.isSpace
  | .space => true
  | _ => false

/-- No character of the item is white space. -/
def Item.isSolid : Item → Bool
  | .char c => !(CodePoint.ofChar c).isSpace
  | .range first last => 0x21 ≤ first.toNat && last.toNat ≤ 0x7E
  | .digit => true
  | .space => false

/-- The atom stands for no white space. -/
def Atom.isSolid : Atom → Bool
  | .char c => !c.isSpace
  | .nonSpace => true
  | .oneOf items => items.all Item.isSolid
  | _ => false

/-- What is used of the Unicode data here. -/
structure Unicode.Spaced (u : Unicode) : Prop where
  /-- Two characters that are the same letter are both white space, or neither is. -/
  sameLetter : ∀ a c, u.sameLetter a c = true → c.isSpace = a.isSpace
  /-- No decimal digit is white space. -/
  digit : ∀ c, u.isDigit c = true → c.isSpace = false
  /-- The empty text stays empty. -/
  empty : u.nfkd (u.lower []) = []

variable {u : Unicode}

theorem sameChar_isSpace (hu : u.Spaced) {ignoreCase : Bool} {a c : CodePoint}
    (h : sameChar u ignoreCase a c = true) : c.isSpace = a.isSpace := by
  unfold sameChar at h
  split at h
  · exact hu.sameLetter a c h
  · rw [of_decide_eq_true h]

theorem Atom.blank_holds (hu : u.Spaced) (ignoreCase : Bool) (a : Atom) (c : CodePoint) (ha : a.isBlank = true)
    (h : a.holds u ignoreCase c = true) : c.isSpace = true := by
  cases a with
  | char a => rw [sameChar_isSpace hu h]; exact ha
  | space => exact h
  | any => cases ha
  | nonSpace => cases ha
  | oneOf => cases ha
  | noneOf => cases ha

theorem ofChar_isSpace : ∀ n < 0x7F, 0x21 ≤ n → (CodePoint.ofChar (Char.ofNat n)).isSpace = false := by decide

theorem Item.solid_holds (hu : u.Spaced) (ignoreCase : Bool) {i : Item} {c : CodePoint} (hi : i.isSolid = true)
    (h : i.holds u ignoreCase c = true) : c.isSpace = false := by
  cases i with
  | char a =>
    rw [sameChar_isSpace hu h]
    simpa [Item.isSolid] using hi
  | range first last =>
    simp only [Item.isSolid, Bool.and_eq_true, decide_eq_true_eq] at hi
    simp only [Item.holds, List.any_eq_true, List.mem_range'_1] at h
    obtain ⟨n, hn, h⟩ := h
    rw [sameChar_isSpace hu h]
    exact ofChar_isSpace n (by omega) (by omega)
  | digit => exact hu.digit c h
  | space => cases hi

theorem Atom.solid_holds (hu : u.Spaced) (ignoreCase : Bool) (a : Atom) (c : CodePoint) (ha : a.isSolid = true)
    (h : a.holds u ignoreCase c = true) : c.isSpace = false := by
  cases a with
  | char a =>
    rw [sameChar_isSpace hu h]
    simpa [Atom.isSolid] using ha
  | nonSpace => simpa [Atom.holds] using h
  | oneOf items =>
    obtain ⟨i, hi, hholds⟩ := List.any_eq_true.mp h
    exact i.solid_holds hu ignoreCase (List.all_eq_true.mp ha i hi) hholds
  | any => cases ha
  | space => cases ha
  | noneOf => cases ha

/-! ## Collapsed texts -/

/-- Words that are not empty and hold no white space. -/
def Words (words : List PyStr) : Prop := ∀ w ∈ words, w ≠ [] ∧ ∀ c ∈ w, c.isSpace = false

theorem splitOnP_plain {p : CodePoint → Bool} {s word : PyStr} (hword : word ∈ s.splitOnP p) :
    ∀ c ∈ word, p c = false := by
  induction s generalizing word with
  | nil =>
    rw [List.splitOnP_nil, List.mem_singleton] at hword
    rw [hword]
    exact List.forall_mem_nil _
  | cons x s ih =>
    rw [List.splitOnP_cons_eq_if_modifyHead] at hword
    split at hword
    · obtain rfl | hword := List.mem_cons.mp hword
      · exact List.forall_mem_nil _
      · exact ih hword
    · rename_i hx
      obtain ⟨first, words, hwords⟩ := List.exists_cons_of_ne_nil (List.splitOnP_ne_nil p s)
      rw [hwords, List.modifyHead_cons] at hword
      obtain rfl | hword := List.mem_cons.mp hword
      · exact List.forall_mem_cons.mpr
          ⟨Bool.eq_false_iff.mpr hx, ih (by rw [hwords]; exact List.mem_cons_self)⟩
      · exact ih (by rw [hwords]; exact List.mem_cons_of_mem first hword)

theorem words_collapse (text : PyStr) :
    Words ((text.strip.splitOnP CodePoint.isSpace).filter (fun word => !word.isEmpty)) := by
  intro w hw
  obtain ⟨hw, hne⟩ := List.mem_filter.mp hw
  exact ⟨by simpa using hne, splitOnP_plain hw⟩

/-- A tidy text that does not start with a space either. -/
structure Trim (s : PyStr) : Prop extends Regex.Tidy CodePoint.isSpace s where
  first : ∀ c ∈ s.head?, c.isSpace = false

theorem trim_word {w : PyStr} (h : ∀ c ∈ w, c.isSpace = false) : Trim w where
  single := by
    induction w with
    | nil => exact List.isChain_nil
    | cons c w ih =>
      obtain ⟨hc, hw⟩ := List.forall_mem_cons.mp h
      exact List.isChain_cons.mpr ⟨fun _ _ => Or.inl hc, ih hw⟩
  last c hc := h c (List.mem_of_mem_getLast? hc)
  first c hc := h c (List.mem_of_mem_head? hc)

theorem trim_intercalate {words : List PyStr} (h : Words words) :
    Trim (List.intercalate [CodePoint.ofChar ' '] words) := by
  induction words with
  | nil => exact trim_word (List.forall_mem_nil _)
  | cons word words ih =>
    obtain ⟨⟨hne, hword⟩, hwords⟩ := List.forall_mem_cons.mp h
    have hfirst := trim_word hword
    cases words with
    | nil => simpa using hfirst
    | cons next words =>
      have hrest := ih hwords
      have hnext : List.intercalate [CodePoint.ofChar ' '] (next :: words) ≠ [] := by
        obtain ⟨c, t, hnext⟩ := List.exists_cons_of_ne_nil (h next (List.mem_cons_of_mem _ List.mem_cons_self)).1
        cases words with
        | nil => simp [hnext]
        | cons w ws => simp [List.intercalate_cons_cons, hnext]
      rw [List.intercalate_cons_cons, List.append_assoc, List.singleton_append]
      generalize List.intercalate [CodePoint.ofChar ' '] (next :: words) = rest at hrest hnext
      refine ⟨⟨?_, ?_⟩, ?_⟩
      · rw [List.isChain_append]
        refine ⟨hfirst.single, List.isChain_cons.mpr ⟨fun c hc => Or.inr (hrest.first c hc), hrest.single⟩, ?_⟩
        exact fun c hc _ _ => Or.inl (hfirst.last c hc)
      · intro c hc
        rw [List.getLast?_append_of_ne_nil _ (List.cons_ne_nil _ _), List.getLast?_cons_of_ne_nil hnext] at hc
        exact hrest.last c hc
      · intro c hc
        rw [List.head?_append_of_ne_nil _ hne] at hc
        exact hfirst.first c hc

theorem trim_collapse (text : PyStr) : Trim (collapse text) := trim_intercalate (words_collapse text)

/-- Every character comes from the text, or is a space between words. -/
theorem mem_collapse {text : PyStr} {c : CodePoint} (h : c ∈ collapse text) : c ∈ text ∨ c = CodePoint.ofChar ' ' := by
  refine (mem_intercalate h).imp_left fun ⟨w, hw, hc⟩ => ?_
  exact text.strip_infix.sublist.mem (mem_of_splitOnP (List.mem_of_mem_filter hw) c hc)

/-! ## Groups -/

/-- What a group holds that every match fills, and what stands in it. -/
theorem group_captured {ignoreCase : Bool} {p : Pattern} {subject : PyStr} {groups : Groups}
    (h : fullmatch u ignoreCase p subject = some groups) {n : Nat} {g : Pattern} (hg : p.captures[n]? = some (g, true)) :
    ∃ t, groups[n]? = some (some t) ∧ t <:+: subject ∧
      ∃ s', ∃ m ∈ Regex.run (Atom.holds u ignoreCase) g s', m.taken = t := by
  obtain ⟨m, hm, rfl⟩ := Option.map_eq_some_iff.mp h
  obtain ⟨-, hcaptures⟩ := Regex.run_captures (List.mem_of_find?_eq_some hm)
  obtain ⟨hlength, hget⟩ := List.forall₂_iff_get.mp hcaptures
  obtain ⟨hn, hgn⟩ := List.getElem?_eq_some_iff.mp hg
  have hc := hget n hn (hlength ▸ hn)
  rw [List.get_eq_getElem, hgn, List.get_eq_getElem] at hc
  obtain ⟨t, ht⟩ := Option.isSome_iff_exists.mp (hc.sure rfl)
  obtain ⟨hpart, htaken⟩ := hc.part t ht
  exact ⟨t, by rw [List.getElem?_eq_getElem (hlength ▸ hn), ht], hpart, htaken⟩

/-- Every group of the pattern takes part in every match, and stands at an edge. -/
def fills (p : Pattern) : Bool :=
  p.captures.all Prod.snd && (Regex.edges Atom.isBlank Atom.isSolid p false true).all id

/-- A group of such a pattern holds a part of the text that is not blank. -/
theorem group_fills (hu : u.Spaced) {ignoreCase : Bool} {p : Pattern} (hp : fills p = true) {text : PyStr}
    {groups : Groups} (h : fullmatch u ignoreCase p (collapse text) = some groups) {n : Nat} (hn : n < p.groups) :
    ∃ t, groups[n]? = some (some t) ∧ t <:+: collapse text ∧ ∃ c ∈ t, c.isSpace = false := by
  obtain ⟨hsure, hedges⟩ := Bool.and_eq_true_iff.mp hp
  rw [← Regex.captures_length] at hn
  have hcapture : p.captures[n]? = some (p.captures[n].1, true) := by
    rw [List.getElem?_eq_getElem hn, ← List.all_eq_true.mp hsure _ (List.getElem_mem hn)]
  obtain ⟨t, ht, hpart, -⟩ := group_captured h hcapture
  refine ⟨t, ht, hpart, ?_⟩
  obtain ⟨hlength, hget⟩ := List.forall₂_iff_get.mp
    (Regex.fullmatch_edges (Atom.blank_holds hu ignoreCase) (Atom.solid_holds hu ignoreCase) h)
  have hmark : n < (Regex.edges Atom.isBlank Atom.isSolid p false true).length := by
    rw [Regex.edges_length, ← Regex.captures_length]
    exact hn
  have hedge := hget n hmark (hlength ▸ hmark)
  have hgroup := (List.getElem?_eq_some_iff.mp ht).2
  rw [List.get_eq_getElem, List.get_eq_getElem, hgroup] at hedge
  exact (hedge (List.all_eq_true.mp hedges _ (List.getElem_mem hmark)) t rfl).exists_solid (trim_collapse text).toTidy

end Pipa.Intents
