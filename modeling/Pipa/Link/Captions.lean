import Pipa.Core.Replies
import Pipa.Control.BuiltIns

/- The texts the Core shows. Every caption, every error text and every summary of a confirmation is
   one of a fixed table, or has a number put into one: printable Latin letters, and short. The number
   is a percentage or the length of a list, so a bound on the lists that handlers return bounds them. -/
namespace Pipa.Link
open Pipa.Lib Pipa.Core
open Pipa.Control (latin)

/-- A text of printable Latin letters, of at most `n` of them. -/
structure Plain (n : Nat) (s : String) : Prop where
  letters : s.toList.all latin = true
  short : s.length ≤ n

/-- A literal is checked as the list of its characters. -/
theorem plain_literal {n : Nat} {l : List Char} (h : (l.all latin && Nat.ble l.length n) = true) :
    Plain n (String.ofList l) := by
  rw [Bool.and_eq_true] at h
  refine ⟨?_, ?_⟩
  · rw [String.toList_ofList]
    exact h.1
  · rw [String.length_ofList]
    exact Nat.le_of_ble_eq_true h.2

theorem Plain.mono {m n : Nat} {s : String} (h : Plain m s) (hle : m ≤ n) : Plain n s :=
  ⟨h.letters, Nat.le_trans h.short hle⟩

theorem Plain.append {m n : Nat} {s t : String} (hs : Plain m s) (ht : Plain n t) : Plain (m + n) (s ++ t) := by
  refine ⟨?_, ?_⟩
  · rw [String.toList_append, List.all_append, hs.letters, ht.letters]
    rfl
  · have hs' := hs.short
    have ht' := ht.short
    rw [String.length_append]
    omega

/-! ## Numbers -/

theorem latin_digit {c : Char} (h : c.isDigit = true) : latin c = true := by
  simp only [Char.isDigit, Bool.and_eq_true, decide_eq_true_eq] at h
  have hlow : 48 ≤ c.toNat := UInt32.le_iff_toNat_le.mp h.1
  have hhigh : c.toNat ≤ 57 := UInt32.le_iff_toNat_le.mp h.2
  simp only [latin, Bool.or_eq_true, Bool.and_eq_true, Nat.ble_eq]
  omega

theorem plain_nat {k n : Nat} (hk : 0 < k) (h : n < 10 ^ k) : Plain k (toString n) := by
  refine ⟨?_, (Nat.length_repr_le_iff hk).mpr h⟩
  rw [List.all_eq_true]
  intro c hc
  have hdigit : c ∈ Nat.toDigits 10 n := by
    rw [← Nat.toList_repr]
    exact hc
  exact latin_digit (Nat.isDigit_of_mem_toDigits (by decide) (by decide) hdigit)

theorem plain_int {k : Nat} (hk : 0 < k) {n : Int} (h : n.natAbs < 10 ^ k) : Plain (k + 1) (toString n) := by
  cases n with
  | ofNat n => exact (plain_nat hk h).mono (Nat.le_succ k)
  | negSucc n =>
    have hminus : Plain 1 "-" := plain_literal (by decide)
    have hnumber : Plain k (toString (n + 1)) := plain_nat hk h
    rw [Nat.add_comm]
    exact hminus.append hnumber

/-! ## Tables -/

theorem fixedCaptions_plain : ∀ t ∈ fixedCaptions, Plain 100 t := by
  simp only [fixedCaptions, List.forall_mem_cons]
  repeat' apply And.intro
  all_goals first | exact plain_literal (by decide) | exact List.forall_mem_nil _

theorem errorTexts_plain : ∀ t ∈ errorTexts, Plain 100 t := by
  simp only [errorTexts, List.forall_mem_cons]
  repeat' apply And.intro
  all_goals first | exact plain_literal (by decide) | exact List.forall_mem_nil _

theorem deviceConfirmationSummaries_plain : ∀ e ∈ deviceConfirmationSummaries, Plain 100 e.2 := by
  simp only [deviceConfirmationSummaries, List.forall_mem_cons]
  repeat' apply And.intro
  all_goals first | exact plain_literal (by decide) | exact List.forall_mem_nil _

theorem resultCaptions_plain : ∀ e ∈ resultCaptions, Plain 100 e.2 := by
  simp only [resultCaptions, List.forall_mem_cons]
  repeat' apply And.intro
  all_goals first | exact plain_literal (by decide) | exact List.forall_mem_nil _

theorem textFor_plain {table : List (String × String)} {default : String} {n : Nat} (h : ∀ e ∈ table, Plain n e.2)
    (hdefault : Plain n default) (tool : PyStr) : Plain n (textFor table default tool) := by
  unfold textFor
  cases hfind : table.find? (fun e => PyStr.ofString e.1 = tool) with
  | none => exact hdefault
  | some e => exact h e (List.mem_of_find?_eq_some hfind)

theorem deviceConfirmationSummary_plain (tool : PyStr) : Plain 100 (deviceConfirmationSummary tool) :=
  textFor_plain deviceConfirmationSummaries_plain (plain_literal (by decide)) tool

/-! ## Captions of results -/

/-- Any text that is there is plain. -/
def PlainOption (n : Nat) (o : Option String) : Prop := ∀ t, o = some t → Plain n t

section
variable {n : Nat}

theorem plain_none : PlainOption n none := nofun

theorem plain_some {s : String} (h : Plain n s) : PlainOption n (some s) := by
  intro t ht
  exact Option.some.inj ht ▸ h

theorem plain_ite {c : Prop} [Decidable c] {a b : Option String} (ha : PlainOption n a) (hb : PlainOption n b) :
    PlainOption n (if c then a else b) := by
  split
  · exact ha
  · exact hb

end

theorem percentage_plain {v : Option Value} {p : Int} (h : percentage? v = some p) : Plain 4 (toString p) := by
  apply plain_int (by decide)
  unfold percentage? at h
  split at h
  · split at h
    · obtain rfl := Option.some.inj h
      omega
    · cases h
  · cases h

/-- The lists that handlers return are no longer than a list can be. -/
def ShortLists {ω : Type} (core : PipaCore ω) : Prop :=
  ∀ tool d w arguments result items, core.catalog.get? tool = some d → d.handler w arguments = .ok result →
    result.get? (PyStr.ofString "timers") = some (.list items) → items.length < 2 ^ 63

theorem resultCaption_plain (tool : PyStr) (result : Object)
    (hlists : ∀ items, result.get? (PyStr.ofString "timers") = some (.list items) → items.length < 2 ^ 63) :
    PlainOption 100 (resultCaption? tool result) := by
  unfold resultCaption?
  simp only
  repeat' first | apply plain_ite | apply plain_none | exact plain_some (plain_literal (by decide))
  -- the battery, the volume, the muted flag, the timers and the two states of the game
  · split
    · rename_i p hp
      have hplugged (b : Bool) : Plain 30 (if b then "conectado a corriente" else "sin corriente") := by
        cases b with
        | true => exact plain_literal (by decide)
        | false => exact plain_literal (by decide)
      have hhead : Plain 9 "Batería: " := plain_literal (by decide)
      have hsign : Plain 3 "%; " := plain_literal (by decide)
      have hstop : Plain 1 "." := plain_literal (by decide)
      have hnumber := (hhead.append (percentage_plain hp)).append hsign
      exact plain_some (((hnumber.append (hplugged _)).append hstop).mono (by decide))
    · exact plain_some (plain_literal (by decide))
  · intro t ht
    obtain ⟨p, hp, rfl⟩ := Option.map_eq_some_iff.mp ht
    have hhead : Plain 9 "Volumen: " := plain_literal (by decide)
    have hstop : Plain 2 "%." := plain_literal (by decide)
    exact ((hhead.append (percentage_plain hp)).append hstop).mono (by decide)
  · split
    · rename_i muted hmuted
      cases muted with
      | true => exact plain_some (plain_literal (by decide))
      | false => exact plain_some (plain_literal (by decide))
    · exact plain_none
  · split
    · rename_i timers htimers
      have hcount : Plain 19 (toString timers.length) := by
        have hlt := hlists timers htimers
        exact plain_nat (by decide) (by omega)
      have hhead : Plain 28 "Temporizadores registrados: " := plain_literal (by decide)
      have hstop : Plain 1 "." := plain_literal (by decide)
      exact plain_some (((hhead.append hcount).append hstop).mono (by decide))
    · exact plain_none
  · split
    · apply plain_ite
      · exact plain_some (plain_literal (by decide))
      · exact plain_some (plain_literal (by decide))
    · exact plain_some (plain_literal (by decide))
  · split
    · repeat' first | apply plain_ite | exact plain_some (plain_literal (by decide))
    · exact plain_some (plain_literal (by decide))

/-- A caption of the Core is plain. -/
theorem captioned_plain {ω : Type} {core : PipaCore ω} {caption : Option PyStr} (h : Captioned core caption)
    (hlists : ShortLists core) : ∀ t, caption = some t → ∃ s, t = PyStr.ofString s ∧ Plain 100 s := by
  intro t ht
  cases h with
  | blank => cases ht
  | fixed u known => exact ⟨u, (Option.some.inj ht).symm, fixedCaptions_plain u known⟩
  | result tool d w arguments result registered ran =>
    refine ⟨_, (Option.some.inj ht).symm, ?_⟩
    have hcaption := resultCaption_plain tool result (fun items => hlists tool d w arguments result items registered ran)
    cases hsome : resultCaption? tool result with
    | none => exact textFor_plain resultCaptions_plain (plain_literal (by decide)) tool
    | some s => exact hcaption s hsome

end Pipa.Link
