import Mathlib.Data.List.Nodup
import Pipa.Lib.Text

/- A key of the Windows Registry with the keys in it, as a store of devices uses it:
   a subkey for each device, with two values. The Registry takes two names for one
   when they differ in case only, and keeps the spelling a key was created with;
   `fold` says which names those are. -/
namespace Pipa.Unlock
open Pipa.Lib

/-- A value as `QueryValueEx` returns it. -/
inductive RegistryValue where
  | nothing
  | number (n : Nat)
  | text (s : PyStr)
  | bytes (b : Bytes)
  | texts (l : List PyStr)
  deriving DecidableEq

/-- The two values of a device's key that are read. -/
structure RegistryValues where
  publicKey : Option RegistryValue := none
  createdAt : Option RegistryValue := none

structure RegistryEntry where
  name : PyStr
  values : RegistryValues

/-- The key of the store, which may not be there, with the keys in it. No two have the same name. -/
structure Registry (fold : PyStr → PyStr) where
  root : Option (List RegistryEntry)
  distinct : ((root.getD []).map (fun e => fold e.name)).Nodup

variable {fold : PyStr → PyStr}

namespace Registry

def entries (r : Registry fold) : List RegistryEntry := r.root.getD []

/-- The key that is opened under a name. -/
def find? (r : Registry fold) (name : PyStr) : Option RegistryEntry :=
  r.entries.find? (fun e => fold e.name = fold name)

/-- The keys once the one with this name holds these values, or is gone. A new key comes last; another keeps
its spelling. -/
def putEntries (r : Registry fold) (name : PyStr) (after : Option RegistryValues) : List RegistryEntry :=
  if (r.find? name).isNone then r.entries ++ (after.map (RegistryEntry.mk name)).toList
  else r.entries.flatMap (fun e =>
    if fold e.name = fold name then (after.map (RegistryEntry.mk e.name)).toList else [e])

/-- The key of a name, among the others. -/
theorem find?_split (r : Registry fold) (name : PyStr) :
    ∃ pre post, r.entries = pre ++ (r.find? name).toList ++ post ∧ (∀ e ∈ pre ++ post, fold e.name ≠ fold name) ∧
      (∀ e ∈ r.find? name, fold e.name = fold name) ∧ (r.find? name = none → post = []) := by
  cases hfind : r.find? name with
  | none =>
    refine ⟨r.entries, [], by simp, ?_, fun e he => (nomatch he), fun _ => rfl⟩
    intro e he
    rw [List.append_nil] at he
    simpa using List.find?_eq_none.mp hfind e he
  | some entry =>
    obtain ⟨hentry, pre, post, hsplit, hpre⟩ := List.find?_eq_some_iff_append.mp hfind
    have hname : fold entry.name = fold name := by simpa using hentry
    refine ⟨pre, post, by rw [hsplit]; simp, ?_, ?_, nofun⟩
    · intro e he
      obtain he | he := List.mem_append.mp he
      · simpa using hpre e he
      · -- a later one with the name would be there twice
        intro heq
        have hdistinct : (r.entries.map (fun e => fold e.name)).Nodup := r.distinct
        rw [hsplit, List.map_append, List.map_cons, List.nodup_append] at hdistinct
        have hnot := (List.nodup_cons.mp hdistinct.2.1).1
        exact hnot (List.mem_map.mpr ⟨e, he, heq.trans hname.symm⟩)
    · intro e he
      obtain rfl := Option.some.inj he
      exact hname

/-- The spelling of the key that is opened. -/
def spelling (r : Registry fold) (name : PyStr) : PyStr := ((r.find? name).map RegistryEntry.name).getD name

/-- Only that key changes. -/
theorem putEntries_split (r : Registry fold) (name : PyStr) (after : Option RegistryValues) :
    ∃ pre post, r.entries = pre ++ (r.find? name).toList ++ post ∧ (∀ e ∈ pre ++ post, fold e.name ≠ fold name) ∧
      r.putEntries name after = pre ++ (after.map (RegistryEntry.mk (r.spelling name))).toList ++ post := by
  obtain ⟨pre, post, hsplit, hothers, hname, hlast⟩ := r.find?_split name
  refine ⟨pre, post, hsplit, hothers, ?_⟩
  unfold putEntries spelling
  cases hfind : r.find? name with
  | none =>
    rw [hfind, hlast hfind] at hsplit
    rw [hsplit, hlast hfind]
    simp
  | some entry =>
    have hkept {l : List RegistryEntry} (hl : ∀ e ∈ l, fold e.name ≠ fold name) :
        l.flatMap (fun e =>
          if fold e.name = fold name then (after.map (RegistryEntry.mk e.name)).toList else [e]) = l := by
      have hone : ∀ e ∈ l,
          (if fold e.name = fold name then (after.map (RegistryEntry.mk e.name)).toList else [e]) = [e] :=
        fun e he => if_neg (hl e he)
      rw [List.flatMap_congr hone, List.flatMap_singleton']
    rw [hfind] at hsplit
    rw [hsplit, if_neg (by simp), List.flatMap_append, List.flatMap_append,
      hkept (fun e he => hothers e (List.mem_append_left _ he)),
      hkept (fun e he => hothers e (List.mem_append_right _ he))]
    simp [hname entry hfind]

theorem fold_spelling (r : Registry fold) (name : PyStr) : fold (r.spelling name) = fold name := by
  obtain ⟨-, -, -, -, hname, -⟩ := r.find?_split name
  unfold spelling
  cases hfind : r.find? name with
  | none => rfl
  | some entry => exact hname entry hfind

/-- `CreateKeyEx`, what is done with the key, and `DeleteKeyEx` where it is gone afterwards. -/
def put (r : Registry fold) (name : PyStr) (after : Option RegistryValues) : Registry fold where
  root := some (r.putEntries name after)
  distinct := by
    obtain ⟨pre, post, hsplit, hothers, hafter⟩ := r.putEntries_split name after
    have hdistinct : (r.entries.map (fun e => fold e.name)).Nodup := r.distinct
    have hrest : ((pre ++ post).map (fun e => fold e.name)).Nodup := by
      refine hdistinct.sublist (List.Sublist.map _ ?_)
      rw [hsplit]
      exact List.Sublist.append_right (List.sublist_append_left pre _) post
    rw [Option.getD_some, hafter]
    cases after with
    | none => simpa using hrest
    | some values =>
      rw [Option.map_some, Option.toList_some, List.append_assoc, List.singleton_append, List.map_append,
        List.map_cons, List.nodup_middle, ← List.map_append, List.nodup_cons]
      refine ⟨?_, hrest⟩
      rw [List.mem_map]
      rintro ⟨e, he, heq⟩
      exact hothers e he (heq.trans (r.fold_spelling name))

end Registry

end Pipa.Unlock
