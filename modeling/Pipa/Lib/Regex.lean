import Mathlib.Data.List.Forall2
import Mathlib.Data.List.TakeWhile

/- Regular expressions as a backtracking matcher reads them: the alternatives of
   a choice are tried from left to right, a greedy repetition tries its longest
   run first and a lazy one its shortest. `run` lists every way to match a
   prefix, in the order in which the matcher would come to it, so that its answer
   is the first of the list with the property that was asked for.

   The atoms are of any type `σ`, and `holds` says which characters an atom
   stands for. Only an atom can be repeated, so no repetition can be empty. -/
namespace Pipa.Lib

inductive Regex (σ : Type) where
  | empty
  | atom (a : σ)
  | seq (r t : Regex σ)
  | alt (r t : Regex σ)
  /-- Between `least` and `most` times `a`. -/
  | rep (a : σ) (least : Nat) (most : Option Nat) (greedy : Bool)
  /-- A group that captures what it matches. -/
  | group (r : Regex σ)

namespace Regex
variable {σ α : Type}

/-- `(?:r)?`. -/
def opt (r : Regex σ) : Regex σ := alt r empty

/-- `a|b|…`. -/
def alts : List (Regex σ) → Regex σ
  | [] => empty
  | [r] => r
  | r :: rs => alt r (alts rs)

/-- One atom after the other. -/
def atoms (as : List σ) : Regex σ := as.foldr (fun a r => seq (atom a) r) empty

/-- The number of groups. -/
def groups : Regex σ → Nat
  | empty | atom _ | rep .. => 0
  | seq r t | alt r t => r.groups + t.groups
  | group r => r.groups + 1

/-- What one way to match took, what its groups captured, and what it left. A group
on a path that was not taken captured nothing. -/
structure Match (α : Type) where
  taken : List α
  captured : List (Option (List α))
  rest : List α

section
variable (holds : σ → α → Bool)

/-- How many characters a repetition may take, the preferred number first. -/
def counts (a : σ) (least : Nat) (most : Option Nat) (greedy : Bool) (s : List α) : List Nat :=
  let run := (s.takeWhile (holds a)).length
  let longest := match most with
    | none => run
    | some m => min run m
  let ascending := List.range' least (longest + 1 - least)
  if greedy then ascending.reverse else ascending

def run : Regex σ → List α → List (Match α)
  | empty, s => [⟨[], [], s⟩]
  | atom _, [] => []
  | atom a, c :: s => if holds a c then [⟨[c], [], s⟩] else []
  | seq r t, s =>
    (run r s).flatMap (fun m =>
      (run t m.rest).map (fun n => ⟨m.taken ++ n.taken, m.captured ++ n.captured, n.rest⟩))
  | alt r t, s =>
    (run r s).map (fun m => { m with captured := m.captured ++ List.replicate t.groups none }) ++
      (run t s).map (fun m => { m with captured := List.replicate r.groups none ++ m.captured })
  | rep a least most greedy, s =>
    (counts holds a least most greedy s).map (fun n => ⟨s.take n, [], s.drop n⟩)
  | group r, s => (run r s).map (fun m => { m with captured := some m.taken :: m.captured })

/-- `re.match`: the preferred way to match a prefix. -/
def matchStart (r : Regex σ) (s : List α) : Option (Match α) := (run holds r s).head?

/-- `re.fullmatch`: what the groups captured on the preferred way to match all of `s`. -/
def fullmatch (r : Regex σ) (s : List α) : Option (List (Option (List α))) :=
  ((run holds r s).find? (fun m => m.rest.isEmpty)).map Match.captured

end

/-! ## What the groups capture -/

/-- The groups in the order of their captures: what stands in each, and whether no match can avoid it. -/
def captures : Regex σ → List (Regex σ × Bool)
  | empty | atom _ | rep .. => []
  | seq r t => r.captures ++ t.captures
  | alt r t => (r.captures ++ t.captures).map (fun g => (g.1, false))
  | group r => (r, true) :: r.captures

theorem captures_length (r : Regex σ) : r.captures.length = r.groups := by
  induction r with
  | empty | atom _ | rep _ _ _ _ => rfl
  | seq r t ihr iht => simp [captures, groups, ihr, iht]
  | alt r t ihr iht => simp [captures, groups, ihr, iht]
  | group r ih => simp [captures, groups, ih]

@[simp] theorem captures_atoms (as : List σ) : (atoms as).captures = [] := by
  induction as with
  | nil => rfl
  | cons a as ih => exact ih

@[simp] theorem captures_opt (r : Regex σ) : r.opt.captures = r.captures.map (fun g => (g.1, false)) := by
  simp [opt, captures]

/-- Alternatives without groups. -/
theorem captures_alts {rs : List (Regex σ)} (h : ∀ r ∈ rs, r.captures = []) : (alts rs).captures = [] := by
  induction rs with
  | nil => rfl
  | cons r rs ih =>
    have hr := h r List.mem_cons_self
    cases rs with
    | nil => exact hr
    | cons t ts =>
      simp only [alts, captures, hr, ih (fun r' hr' => h r' (List.mem_cons_of_mem _ hr')), List.append_nil, List.map_nil]

section
variable {holds : σ → α → Bool}

/-- What a group captured in a match of `s` is a part of `s`, taken by what stands in the group. -/
structure Captured (holds : σ → α → Bool) (s : List α) (g : Regex σ × Bool) (c : Option (List α)) : Prop where
  part : ∀ t, c = some t → t <:+: s ∧ ∃ s', ∃ n ∈ run holds g.1 s', n.taken = t
  sure : g.2 = true → c.isSome = true

theorem Captured.widen {s s' : List α} {g : Regex σ × Bool} {c : Option (List α)} (h : Captured holds s' g c)
    (hs : s' <:+: s) : Captured holds s g c :=
  ⟨fun t ht => ⟨(h.part t ht).1.trans hs, (h.part t ht).2⟩, h.sure⟩

theorem Captured.unsure {s : List α} {g : Regex σ × Bool} {c : Option (List α)} (h : Captured holds s g c) :
    Captured holds s (g.1, false) c := ⟨h.part, nofun⟩

theorem Captured.none (s : List α) (g : Regex σ) : Captured holds s (g, false) none := ⟨nofun, nofun⟩

/-- The captures of a match. -/
theorem run_captures {r : Regex σ} {s : List α} {m : Match α} (h : m ∈ run holds r s) :
    s = m.taken ++ m.rest ∧ List.Forall₂ (Captured holds s) r.captures m.captured := by
  induction r generalizing s m with
  | empty =>
    obtain rfl := List.mem_singleton.mp h
    exact ⟨rfl, .nil⟩
  | atom a =>
    cases s with
    | nil => cases h
    | cons c s =>
      simp only [run] at h
      split at h
      · obtain rfl := List.mem_singleton.mp h
        exact ⟨rfl, .nil⟩
      · cases h
  | seq r t ihr iht =>
    simp only [run, List.mem_flatMap, List.mem_map] at h
    obtain ⟨m₁, hm₁, n, hn, rfl⟩ := h
    obtain ⟨hs, hleft⟩ := ihr hm₁
    obtain ⟨hrest, hright⟩ := iht hn
    have hpart : m₁.rest <:+: s := by
      rw [hs]
      exact (List.suffix_append _ _).isInfix
    refine ⟨by rw [List.append_assoc, ← hrest, hs], List.rel_append hleft ?_⟩
    exact hright.imp (fun _ _ hc => hc.widen hpart)
  | alt r t ihr iht =>
    have hnone (gs : List (Regex σ × Bool)) :
        List.Forall₂ (Captured holds s) (gs.map (fun g => (g.1, false))) (List.replicate gs.length none) := by
      induction gs with
      | nil => exact .nil
      | cons g gs ih => exact .cons (.none s g.1) ih
    have hunsure {gs : List (Regex σ × Bool)} {cs : List (Option (List α))}
        (hgs : List.Forall₂ (Captured holds s) gs cs) :
        List.Forall₂ (Captured holds s) (gs.map (fun g => (g.1, false))) cs :=
      List.forall₂_map_left_iff.mpr (hgs.imp (fun _ _ hc => hc.unsure))
    simp only [run, List.mem_append, List.mem_map] at h
    rw [captures, List.map_append]
    obtain ⟨n, hn, rfl⟩ | ⟨n, hn, rfl⟩ := h
    · obtain ⟨hs, hleft⟩ := ihr hn
      rw [← captures_length]
      exact ⟨hs, List.rel_append (hunsure hleft) (hnone t.captures)⟩
    · obtain ⟨hs, hright⟩ := iht hn
      rw [← captures_length]
      exact ⟨hs, List.rel_append (hnone r.captures) (hunsure hright)⟩
  | rep a least most greedy =>
    simp only [run, List.mem_map] at h
    obtain ⟨n, -, rfl⟩ := h
    exact ⟨(List.take_append_drop n s).symm, .nil⟩
  | group r ih =>
    simp only [run, List.mem_map] at h
    obtain ⟨n, hn, rfl⟩ := h
    obtain ⟨hs, hinner⟩ := ih hn
    refine ⟨hs, .cons ⟨?_, fun _ => rfl⟩ hinner⟩
    intro t ht
    obtain rfl := Option.some.inj ht
    refine ⟨?_, s, n, hn, rfl⟩
    rw [hs]
    exact (List.prefix_append _ _).isInfix

theorem run_parts {r : Regex σ} {s : List α} {m : Match α} (h : m ∈ run holds r s) {t : List α}
    (ht : some t ∈ m.captured) : t <:+: s := by
  have hcaptures := (run_captures h).2
  generalize r.captures = gs at hcaptures
  generalize m.captured = cs at hcaptures ht
  induction hcaptures with
  | nil => cases ht
  | cons hc _ ih =>
    obtain rfl | ht := List.mem_cons.mp ht
    · exact (hc.part t rfl).1
    · exact ih ht

/-- A repetition takes at least so many characters, each of its kind. -/
theorem rep_taken {a : σ} {least : Nat} {most : Option Nat} {greedy : Bool} {s : List α} {m : Match α}
    (h : m ∈ run holds (rep a least most greedy) s) :
    least ≤ m.taken.length ∧ ∀ c ∈ m.taken, holds a c = true := by
  simp only [run, List.mem_map] at h
  obtain ⟨n, hn, rfl⟩ := h
  have hbounds : least ≤ n ∧ n ≤ (s.takeWhile (holds a)).length := by
    have hrange : ∃ longest ≤ (s.takeWhile (holds a)).length, n ∈ List.range' least (longest + 1 - least) := by
      cases most with
      | none => exact ⟨_, Nat.le_refl _, by cases greedy <;> simpa [counts] using hn⟩
      | some most => exact ⟨_, Nat.min_le_left _ _, by cases greedy <;> simpa [counts] using hn⟩
    obtain ⟨longest, hle, hrange⟩ := hrange
    rw [List.mem_range'_1] at hrange
    omega
  have htake : s.take n = (s.takeWhile (holds a)).take n := by
    have happend : s.take n = (s.takeWhile (holds a) ++ s.dropWhile (holds a)).take n := by
      rw [List.takeWhile_append_dropWhile]
    rw [happend, List.take_append_of_le_length hbounds.2]
  refine ⟨?_, ?_⟩
  · rw [htake, List.length_take]
    omega
  · intro c hc
    rw [htake] at hc
    exact List.mem_takeWhile_imp (List.mem_of_mem_take hc)

end
end Regex
end Pipa.Lib
