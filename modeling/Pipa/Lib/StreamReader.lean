import Pipa.Lib.Lines

/- `asyncio.StreamReader` with a one-symbol separator: a buffer that chunks are
   appended to as they arrive, and `readuntil`, which waits until the separator
   is in the buffer.

   A chunk may hold any part of a line or any number of lines. `readuntil` looks
   at the buffer alone, so what it returns depends on the stream and on where it
   was left, not on the chunks; for lines within the limit that is `readuntil_line`
   and `readuntil_end`. -/
namespace Pipa.Lib

variable {α : Type}

/-- What is buffered and what is still to arrive. Where no chunk stands, the caller's timeout expires
first. -/
structure StreamReader (α : Type) where
  buffer : List α := []
  arriving : List (Option (List α))

namespace StreamReader

/-- How `readuntil` ends: with a line, with an `IncompleteReadError` and what it holds, with a
`LimitOverrunError`, or cancelled. -/
inductive Outcome (α : Type) where
  | data (line : List α)
  | incomplete (rest : List α)
  | overrun
  | timeout

/-- What is still to be read is this stream, and it arrives in time. -/
def Brings (r : StreamReader α) (stream : List α) : Prop :=
  ∃ chunks : List (List α), r.arriving = chunks.map some ∧ r.buffer ++ chunks.flatten = stream

theorem Brings.chunks (chunks : List (List α)) : Brings ⟨[], chunks.map some⟩ chunks.flatten :=
  ⟨chunks, rfl, List.nil_append _⟩

variable [DecidableEq α]

/-- What the buffer decides by itself, and what is left of it; `none` waits for more. -/
def buffered (nl : α) (limit : Nat) (buffer : List α) : Option (List α × Outcome α) :=
  if nl ∈ buffer then
    if buffer.idxOf nl > limit then some (buffer, .overrun)
    else some (buffer.drop (buffer.idxOf nl + 1), .data (buffer.take (buffer.idxOf nl + 1)))
  else if buffer.length > limit then some (buffer, .overrun)
  else none

/-- The loop of `readuntil`. -/
def readFrom (nl : α) (limit : Nat) : List (Option (List α)) → List α → StreamReader α × Outcome α
  | [], buffer =>
    match buffered nl limit buffer with
    | some (later, outcome) => (⟨later, []⟩, outcome)
    | none => (⟨[], []⟩, .incomplete buffer)
  | a :: arriving, buffer =>
    match buffered nl limit buffer with
    | some (later, outcome) => (⟨later, a :: arriving⟩, outcome)
    | none =>
      match a with
      | none => (⟨buffer, arriving⟩, .timeout)
      | some chunk => readFrom nl limit arriving (buffer ++ chunk)

/-- `readuntil(nl)` of a reader with this limit. -/
def readuntil (nl : α) (limit : Nat) (r : StreamReader α) : StreamReader α × Outcome α :=
  readFrom nl limit r.arriving r.buffer

/-! ## Reading lines -/

variable {nl : α} {limit : Nat}

theorem buffered_line {line : List α} (hline : IsLine nl line) (hlimit : line.length ≤ limit + 1) (later : List α) :
    buffered nl limit (line ++ later) = some (later, .data line) := by
  obtain ⟨body, hbody, rfl⟩ := hline
  have hmem : nl ∈ body ++ [nl] ++ later := by simp
  have hindex : (body ++ [nl] ++ later).idxOf nl = body.length := by
    rw [List.append_assoc, List.idxOf_append_of_notMem hbody, List.singleton_append, List.idxOf_cons_self,
      Nat.add_zero]
  have hlength : (body ++ [nl]).length = body.length + 1 := by simp
  have hin : ¬ body.length > limit := by omega
  rw [buffered, if_pos hmem, hindex, if_neg hin, ← hlength, List.drop_left, List.take_left]

theorem buffered_begun {buffer : List α} (hopen : nl ∉ buffer) (hlimit : buffer.length ≤ limit) :
    buffered nl limit buffer = none := by
  rw [buffered, if_neg hopen, if_neg (by omega)]

/-- A line that fits is read whole, in whatever chunks it comes. -/
theorem readuntil_line (limit : Nat) {r : StreamReader α} {line stream : List α} (hline : IsLine nl line)
    (hlimit : line.length ≤ limit + 1) (h : r.Brings (line ++ stream)) :
    ∃ r', r.readuntil nl limit = (r', .data line) ∧ r'.Brings stream := by
  obtain ⟨buffer, arriving⟩ := r
  obtain ⟨chunks, rfl, hstream⟩ := h
  unfold readuntil
  dsimp only at hstream ⊢
  induction chunks generalizing buffer with
  | nil =>
    rw [List.flatten_nil, List.append_nil] at hstream
    subst hstream
    refine ⟨⟨stream, []⟩, ?_, [], rfl, List.append_nil stream⟩
    rw [List.map_nil, readFrom, buffered_line hline hlimit]
  | cons chunk chunks ih =>
    obtain ⟨rest, hrest, hlater⟩ | ⟨rest, hrest, hlater⟩ := List.append_eq_append_iff.mp hstream
    · obtain rfl | ⟨start, last, rfl⟩ := List.eq_nil_or_concat rest
      · -- the buffer is the line
        rw [List.append_nil] at hrest
        refine ⟨⟨[], (chunk :: chunks).map some⟩, ?_, chunk :: chunks, rfl, hlater⟩
        rw [List.map_cons, readFrom]
        have hread := buffered_line hline hlimit ([] : List α)
        rw [List.append_nil] at hread
        rw [← hrest, hread]
      · -- the line is not complete yet
        obtain ⟨body, hbody, hbodyline⟩ := hline
        have hsplit : buffer ++ start = body := by
          rw [hbodyline, List.concat_eq_append, ← List.append_assoc] at hrest
          exact (List.append_inj' hrest rfl).1.symm
        have hopen : nl ∉ buffer := fun hmem => hbody (hsplit ▸ List.mem_append_left start hmem)
        have hbuffer : buffer.length ≤ limit := by
          rw [hbodyline, List.length_append, List.length_singleton, ← hsplit, List.length_append] at hlimit
          omega
        rw [List.map_cons, readFrom, buffered_begun hopen hbuffer]
        apply ih
        rw [List.append_assoc, ← List.flatten_cons]
        exact hstream
    · subst hrest
      refine ⟨⟨rest, (chunk :: chunks).map some⟩, ?_, chunk :: chunks, rfl, hlater.symm⟩
      rw [List.map_cons, readFrom, buffered_line hline hlimit]

/-- Nothing is left. -/
theorem readuntil_end (nl : α) (limit : Nat) {r : StreamReader α} (h : r.Brings []) :
    ∃ r', r.readuntil nl limit = (r', .incomplete []) ∧ r'.Brings [] := by
  obtain ⟨buffer, arriving⟩ := r
  obtain ⟨chunks, rfl, hstream⟩ := h
  obtain ⟨rfl, hchunks⟩ := List.append_eq_nil_iff.mp hstream
  unfold readuntil
  dsimp only at hchunks ⊢
  clear hstream
  have hnone : buffered nl limit ([] : List α) = none := buffered_begun List.not_mem_nil (Nat.zero_le _)
  induction chunks with
  | nil =>
    refine ⟨⟨[], []⟩, ?_, [], rfl, rfl⟩
    rw [List.map_nil, readFrom, hnone]
  | cons chunk chunks ih =>
    rw [List.flatten_cons, List.append_eq_nil_iff] at hchunks
    obtain ⟨rfl, hchunks⟩ := hchunks
    rw [List.map_cons, readFrom, hnone]
    exact ih hchunks

end StreamReader

end Pipa.Lib
