import Pipa.Lib.Text

/- Scanning a buffer with checked reads. A scanner is at what is left of its
   buffer; a read past the end is an outcome of its own, and so is a loop that was
   given too few turns, so that both have to be proved absent. -/
namespace Pipa.Lib

/-- What a `const char*` points to, up to the terminating NUL. -/
@[ext]
structure CString where
  bytes : Bytes
  terminated : 0 ∉ bytes

namespace CString

/-- The C string at the start of a buffer, up to its first NUL. -/
def ofBytes (b : Bytes) : CString :=
  ⟨b.takeWhile (· ≠ 0), by
    intro h
    simpa using List.mem_takeWhile_imp h⟩

theorem ofBytes_bytes {b : Bytes} (h : 0 ∉ b) : (ofBytes b).bytes = b := by
  apply List.takeWhile_eq_self_iff.mpr
  intro c hc
  rw [decide_eq_true_eq]
  rintro rfl
  exact h hc

@[simp] theorem ofBytes_self (value : CString) : ofBytes value.bytes = value :=
  CString.ext (ofBytes_bytes value.terminated)

end CString

/-- How a scan ends: a read outside the buffer, too few turns, `return false`, or a result. -/
inductive Scan (α : Type) where
  | outside
  | unfinished
  | refused
  | accepted (a : α)
  deriving DecidableEq

namespace Scan
variable {α β : Type}

def bind (x : Scan α) (f : α → Scan β) : Scan β :=
  match x with
  | .outside => .outside
  | .unfinished => .unfinished
  | .refused => .refused
  | .accepted a => f a

instance : Monad Scan where
  pure := .accepted
  bind := bind

@[simp] theorem accepted_bind (a : α) (f : α → Scan β) : (Scan.accepted a >>= f) = f a := rfl
@[simp] theorem refused_bind (f : α → Scan β) : (Scan.refused >>= f) = .refused := rfl

/-- `json_[position_ + k]`, `position_` being where what is left starts. -/
def read (rest : Bytes) (k : Nat) : Scan UInt8 :=
  match rest[k]? with
  | none => .outside
  | some b => .accepted b

@[simp] theorem read_zero (b : UInt8) (rest : Bytes) : read (b :: rest) 0 = .accepted b := rfl
@[simp] theorem read_one (a b : UInt8) (rest : Bytes) : read (a :: b :: rest) 1 = .accepted b := rfl

/-! ## Ending

`Ends x post`: the scan ends, within its buffer, and a result it accepts meets `post`. -/

def Ends (x : Scan α) (post : α → Prop) : Prop :=
  match x with
  | .outside => False
  | .unfinished => False
  | .refused => True
  | .accepted a => post a

theorem Ends.bind {x : Scan α} {f : α → Scan β} {mid : α → Prop} {post : β → Prop} (hx : x.Ends mid)
    (hf : ∀ a, mid a → (f a).Ends post) : (x >>= f).Ends post := by
  cases x with
  | outside => exact hx.elim
  | unfinished => exact hx.elim
  | refused => trivial
  | accepted a => exact hf a hx

theorem Ends.mono {x : Scan α} {post post' : α → Prop} (hx : x.Ends post) (h : ∀ a, post a → post' a) :
    x.Ends post' := by
  cases x with
  | outside => exact hx
  | unfinished => exact hx
  | refused => trivial
  | accepted a => exact h a hx

theorem Ends.ite {c : Prop} [Decidable c] {x y : Scan α} {post : α → Prop} (hx : c → x.Ends post)
    (hy : ¬ c → y.Ends post) : (if c then x else y).Ends post := by
  split
  · exact hx ‹c›
  · exact hy ‹¬ c›

theorem ends_read {rest : Bytes} {k : Nat} (h : k < rest.length) : (read rest k).Ends (fun b => rest[k]? = some b) := by
  have hget : rest[k]? = some rest[k] := List.getElem?_eq_getElem h
  unfold read
  rw [hget]
  exact rfl

/-! ## Loops over the buffer -/

/-- `while (position_ < length_ && p(json_[position_])) ++position_;` -/
def skipWhile (p : UInt8 → Bool) : Bytes → Scan Bytes
  | [] => .accepted []
  | c :: rest => do
    let character ← read (c :: rest) 0
    if p character then skipWhile p rest else .accepted (c :: rest)

theorem skipWhile_eq (p : UInt8 → Bool) (rest : Bytes) : skipWhile p rest = .accepted (rest.dropWhile p) := by
  induction rest with
  | nil => rfl
  | cons c rest ih =>
    rw [skipWhile, read_zero, accepted_bind, List.dropWhile_cons]
    split
    · exact ih
    · rfl

theorem skipWhile_ends (p : UInt8 → Bool) (rest : Bytes) :
    (skipWhile p rest).Ends (fun rest' => rest'.length ≤ rest.length) := by
  rw [skipWhile_eq]
  exact (List.dropWhile_suffix p).length_le

/-- What all satisfies `p` is skipped, up to what does not. -/
theorem skipWhile_append {p : UInt8 → Bool} {skipped rest : Bytes} (h : ∀ b ∈ skipped, p b = true)
    (hrest : rest.dropWhile p = rest) : skipWhile p (skipped ++ rest) = .accepted rest := by
  rw [skipWhile_eq, List.dropWhile_append_of_pos h, hrest]

/-- `if (position_ >= length_ || json_[position_] != expected) return false; ++position_;` as a test: `none`
where it is false. -/
def consume (expected : UInt8) (rest : Bytes) : Scan (Option Bytes) :=
  if rest.length = 0 then .accepted none
  else do
    let character ← read rest 0
    if character = expected then .accepted (some (rest.drop 1)) else .accepted none

theorem consume_cons (expected c : UInt8) (rest : Bytes) :
    consume expected (c :: rest) = .accepted (if c = expected then some rest else none) := by
  unfold consume
  rw [if_neg (by simp), read_zero, accepted_bind]
  split
  · rfl
  · rfl

theorem consume_nil (expected : UInt8) : consume expected [] = .accepted none := rfl

theorem consume_ends (expected : UInt8) (rest : Bytes) :
    (consume expected rest).Ends (fun o => ∀ rest', o = some rest' → rest'.length < rest.length) := by
  cases rest with
  | nil =>
    rw [consume_nil]
    exact nofun
  | cons c rest =>
    rw [consume_cons]
    show ∀ rest', _ = some rest' → _
    intro rest' h
    split at h
    · obtain rfl := Option.some.inj h
      exact Nat.lt_succ_self _
    · cases h

/-- `if (!consume(expected)) return false;` -/
def expect (expected : UInt8) (rest : Bytes) : Scan Bytes := do
  match ← consume expected rest with
  | none => .refused
  | some rest => .accepted rest

theorem expect_cons (expected : UInt8) (rest : Bytes) : expect expected (expected :: rest) = .accepted rest := by
  unfold expect
  rw [consume_cons, if_pos rfl]
  rfl

theorem expect_ends (expected : UInt8) (rest : Bytes) :
    (expect expected rest).Ends (fun rest' => rest'.length < rest.length) := by
  apply (consume_ends expected rest).bind
  intro o ho
  cases o with
  | none => trivial
  | some rest' => exact ho rest' rfl

end Scan

end Pipa.Lib
