import Mathlib.Data.List.Sort
import Pipa.Lib.Text

/- JSON values as Python holds them, and `json.dumps` with
   `ensure_ascii=False, allow_nan=False, separators=(",", ":")`. A float is kept
   as its `repr`, so two numbers that Python writes differently are different
   values. Objects are lists of pairs in insertion order. -/
namespace Pipa.Lib

inductive Value where
  | null
  | bool (b : Bool)
  | int (n : Int)
  | float (repr : PyStr)
  | str (s : PyStr)
  | list (items : List Value)
  | dict (items : List (PyStr × Value))

abbrev Object := List (PyStr × Value)

namespace Object

def get? (o : Object) (k : PyStr) : Option Value := (o.find? (fun e => e.1 = k)).map Prod.snd

/-- A field that is read as something else than `None` is there. -/
theorem get?_of_getD {o : Object} {k : PyStr} {v : Value} (h : (o.get? k).getD .null = v) (hv : v ≠ .null) :
    o.get? k = some v := by
  cases hget : o.get? k with
  | none =>
    rw [hget] at h
    exact absurd h.symm hv
  | some w =>
    rw [hget] at h
    exact congrArg some h

def keys (o : Object) : List PyStr := o.map Prod.fst

/-- `o[k] = v`: a present key keeps its place. -/
def set (o : Object) (k : PyStr) (v : Value) : Object :=
  if k ∈ o.keys then o.map (fun e => if e.1 = k then (k, v) else e) else o ++ [(k, v)]

/-- `o.update(other)`. -/
def update (o other : Object) : Object := other.foldl (fun o e => o.set e.1 e.2) o

/-- Fields that are new are appended. -/
theorem update_new {o other : Object} (h : (o.keys ++ other.keys).Nodup) : o.update other = o ++ other := by
  induction other generalizing o with
  | nil => exact (List.append_nil o).symm
  | cons e other ih =>
    have hnew : e.1 ∉ o.keys := by
      intro hmem
      exact (List.nodup_append.mp h).2.2 e.1 hmem e.1 List.mem_cons_self rfl
    have hkeys : (o ++ [e]).keys ++ Object.keys other = o.keys ++ Object.keys (e :: other) := by
      simp [keys]
    have hset : o.set e.1 e.2 = o ++ [e] := if_neg hnew
    show update (o.set e.1 e.2) other = o ++ e :: other
    rw [hset, ih (by rw [hkeys]; exact h), List.append_assoc]
    rfl

end Object

namespace Value

/-- `v is True`. -/
def isTrue : Value → Bool
  | .bool true => true
  | _ => false

/-- `v is False`. -/
def isFalse : Value → Bool
  | .bool false => true
  | _ => false

/-- Python's truth value. -/
def truthy : Value → Bool
  | .null => false
  | .bool b => b
  | .int n => n ≠ 0
  | .float r => r ≠ PyStr.ofString "0.0" ∧ r ≠ PyStr.ofString "-0.0"
  | .str s => !s.isEmpty
  | .list xs => !xs.isEmpty
  | .dict kvs => !kvs.isEmpty

/-- An `int` that is not a `bool`. -/
def asInt? : Value → Option Int
  | .int n => some n
  | _ => none

/-- Python's `v == n` for a small integer: a float of that value prints as `n.0`. -/
def equalsInt (n : Int) : Value → Bool
  | .int m => m = n
  | .bool b => (if b then 1 else 0) = n
  | .float r => r = PyStr.ofString (toString n ++ ".0")
  | _ => false

/-- Whether the value can be put in a set. -/
def hashable : Value → Bool
  | .list _ => false
  | .dict _ => false
  | _ => true

end Value

/-! Serialisation. -/

/-- Code-point order, the order `sort_keys=True` sorts keys by. -/
def PyStr.le : PyStr → PyStr → Bool
  | [], _ => true
  | _ :: _, [] => false
  | a :: s, b :: t => if a.val < b.val then true else if b.val < a.val then false else PyStr.le s t

def hexDigit (n : Nat) : CodePoint :=
  CodePoint.ofChar (if n < 10 then Char.ofNat (48 + n) else Char.ofNat (87 + n))

/-- One character inside a JSON string, escaped as `ensure_ascii=False` does. -/
def escapeChar (c : CodePoint) : PyStr :=
  if c.val = 0x22 then PyStr.ofString "\\\""
  else if c.val = 0x5C then PyStr.ofString "\\\\"
  else if c.val = 0x08 then PyStr.ofString "\\b"
  else if c.val = 0x0C then PyStr.ofString "\\f"
  else if c.val = 0x0A then PyStr.ofString "\\n"
  else if c.val = 0x0D then PyStr.ofString "\\r"
  else if c.val = 0x09 then PyStr.ofString "\\t"
  else if c.val < 0x20 then PyStr.ofString "\\u00" ++ [hexDigit (c.val / 16), hexDigit (c.val % 16)]
  else [c]

def dumpStr (s : PyStr) : PyStr := PyStr.ofString "\"" ++ s.flatMap escapeChar ++ PyStr.ofString "\""

def dumpInt (n : Int) : PyStr := PyStr.ofString (toString n)

/-- `float.__repr__`, or nothing for the three values `allow_nan=False` refuses. -/
def dumpFloat (repr : PyStr) : Option PyStr :=
  if repr = PyStr.ofString "nan" ∨ repr = PyStr.ofString "inf" ∨ repr = PyStr.ofString "-inf" then none
  else some repr

def commaJoin : List PyStr → PyStr
  | [] => []
  | [t] => t
  | t :: ts => t ++ PyStr.ofString "," ++ commaJoin ts

/-- `key:value` pairs, sorted by key where `sort_keys` is set. -/
def sortPairs (sortKeys : Bool) (ps : List (PyStr × PyStr)) : List (PyStr × PyStr) :=
  if sortKeys then ps.insertionSort (fun a b => PyStr.le a.1 b.1 = true) else ps

def dumpPair (p : PyStr × PyStr) : PyStr := dumpStr p.1 ++ PyStr.ofString ":" ++ p.2

mutual

/-- `json.dumps(v, ensure_ascii=False, allow_nan=False, separators=(",", ":"), sort_keys=...)`;
`none` is its `ValueError`. -/
def dumps (sortKeys : Bool) : Value → Option PyStr
  | .null => some (PyStr.ofString "null")
  | .bool true => some (PyStr.ofString "true")
  | .bool false => some (PyStr.ofString "false")
  | .int n => some (dumpInt n)
  | .float r => dumpFloat r
  | .str s => some (dumpStr s)
  | .list xs => (dumpsList sortKeys xs).map (fun ts =>
      PyStr.ofString "[" ++ commaJoin ts ++ PyStr.ofString "]")
  | .dict kvs => (dumpsItems sortKeys kvs).map (fun ps =>
      PyStr.ofString "\x7b" ++ commaJoin ((sortPairs sortKeys ps).map dumpPair) ++ PyStr.ofString "\x7d")

def dumpsList (sortKeys : Bool) : List Value → Option (List PyStr)
  | [] => some []
  | v :: vs => do
    let t ← dumps sortKeys v
    let ts ← dumpsList sortKeys vs
    some (t :: ts)

def dumpsItems (sortKeys : Bool) : List (PyStr × Value) → Option (List (PyStr × PyStr))
  | [] => some []
  | (k, v) :: kvs => do
    let t ← dumps sortKeys v
    let ts ← dumpsItems sortKeys kvs
    some ((k, t) :: ts)

end

/-! With `indent=2` and everything else at its default, `ensure_ascii=False` apart. -/

/-- A new line at an indentation level. -/
def newLine (level : Nat) : PyStr := PyStr.ofString "\n" ++ List.replicate (2 * level) (CodePoint.ofChar ' ')

/-- `float.__repr__`, with the names `json` has for the three special values. -/
def dumpAnyFloat (repr : PyStr) : PyStr :=
  if repr = PyStr.ofString "nan" then PyStr.ofString "NaN"
  else if repr = PyStr.ofString "inf" then PyStr.ofString "Infinity"
  else if repr = PyStr.ofString "-inf" then PyStr.ofString "-Infinity"
  else repr

def lineJoin (level : Nat) : List PyStr → PyStr
  | [] => []
  | [t] => t
  | t :: ts => t ++ PyStr.ofString "," ++ newLine level ++ lineJoin level ts

/-- The items of a list or dictionary, a line each. -/
def dumpLines (level : Nat) (left right : String) (items : List PyStr) : PyStr :=
  if items.isEmpty then PyStr.ofString left ++ PyStr.ofString right
  else PyStr.ofString left ++ newLine (level + 1) ++ lineJoin (level + 1) items ++ newLine level ++
    PyStr.ofString right

mutual

/-- `json.dumps(v, ensure_ascii=False, indent=2)`, at a level. -/
def dumpsIndent (level : Nat) : Value → PyStr
  | .null => PyStr.ofString "null"
  | .bool true => PyStr.ofString "true"
  | .bool false => PyStr.ofString "false"
  | .int n => dumpInt n
  | .float r => dumpAnyFloat r
  | .str s => dumpStr s
  | .list xs => dumpLines level "[" "]" (dumpsIndentList (level + 1) xs)
  | .dict kvs => dumpLines level "\x7b" "\x7d" (dumpsIndentItems (level + 1) kvs)

def dumpsIndentList (level : Nat) : List Value → List PyStr
  | [] => []
  | v :: vs => dumpsIndent level v :: dumpsIndentList level vs

def dumpsIndentItems (level : Nat) : List (PyStr × Value) → List PyStr
  | [] => []
  | (k, v) :: kvs => (dumpStr k ++ PyStr.ofString ": " ++ dumpsIndent level v) :: dumpsIndentItems level kvs

end

end Pipa.Lib
