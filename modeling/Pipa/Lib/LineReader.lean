import Pipa.Lib.Lines
import Pipa.Lib.Machine
import Pipa.Lib.Text

/- Lines read one byte at a time into a buffer of bounded length. The buffer and
   the flag that its line is being dropped live in the state of a larger program,
   whose other steps leave them alone. What is called with a finished line is a
   parameter of the reading step, so the same step can be run with its calls noted:
   the calls are those of the lines the stream has, however it was cut up. -/
namespace Pipa.Lib

/-- Where a program keeps the line it reads, and how long that may be. -/
structure LineReader (σ : Type) where
  line : σ → Bytes
  dropping : σ → Bool
  keep : Bytes → Bool → σ → σ
  limit : Nat
  line_keep : ∀ l d s, line (keep l d s) = l
  dropping_keep : ∀ l d s, dropping (keep l d s) = d

/-- What a run shows of a program: its calls with a line, and what it wrote. -/
inductive LineEvent (ω : Type) where
  | handled (line : Bytes)
  | wrote (output : ω)

namespace LineEvent
variable {ω : Type}

def handled? : LineEvent ω → Option Bytes
  | .handled line => some line
  | .wrote _ => none

def wrote? : LineEvent ω → Option ω
  | .handled _ => none
  | .wrote output => some output

@[simp] theorem handled_map_wrote (outputs : List ω) : (outputs.map LineEvent.wrote).filterMap handled? = [] := by
  induction outputs with
  | nil => rfl
  | cons _ outputs ih => exact ih

@[simp] theorem wrote_map_wrote (outputs : List ω) : (outputs.map LineEvent.wrote).filterMap wrote? = outputs := by
  induction outputs with
  | nil => rfl
  | cons output outputs ih =>
    rw [List.map_cons, List.filterMap_cons_some (show wrote? (wrote output) = some output from rfl), ih]

end LineEvent

/-- A finished line without its newline and its carriage returns. -/
def lineBody (line : Bytes) : Bytes := line.dropLast.filter (· ≠ 0x0D)

/-- The lines of a stream that are neither empty nor too long. -/
def acceptedLines (limit : Nat) (stream : Bytes) : List Bytes :=
  ((splitLines 0x0A stream).1.map lineBody).filter (fun body => 1 ≤ body.length && body.length ≤ limit)

-- a carriage return does not count, the line that is too long is left out whole
example : acceptedLines 2 [0x61, 0x0D, 0x0A, 0x61, 0x62, 0x63, 0x0A, 0x0A, 0x62, 0x0D, 0x63, 0x0A, 0x61] =
    [[0x61], [0x62, 0x63]] := by decide

/-- What stands behind the last newline, without carriage returns. -/
def openLine (stream : Bytes) : Bytes := (splitLines 0x0A stream).2.filter (· ≠ 0x0D)

theorem openLine_newline (stream : Bytes) : openLine (stream ++ [0x0A]) = [] := by
  rw [openLine, splitLines_newline]
  rfl

theorem openLine_return (stream : Bytes) : openLine (stream ++ [0x0D]) = openLine stream := by
  rw [openLine, splitLines_symbol (by decide), List.filter_append]
  exact List.append_nil _

theorem openLine_symbol {stream : Bytes} {c : UInt8} (hnewline : c ≠ 0x0A) (hreturn : c ≠ 0x0D) :
    openLine (stream ++ [c]) = openLine stream ++ [c] := by
  rw [openLine, splitLines_symbol hnewline, List.filter_append]
  congr 1
  exact List.filter_cons_of_pos (by simpa using hreturn)

theorem acceptedLines_symbol {limit : Nat} {stream : Bytes} {c : UInt8} (h : c ≠ 0x0A) :
    acceptedLines limit (stream ++ [c]) = acceptedLines limit stream := by
  rw [acceptedLines, splitLines_symbol h]
  rfl

theorem acceptedLines_newline (limit : Nat) (stream : Bytes) :
    acceptedLines limit (stream ++ [0x0A]) = acceptedLines limit stream ++
      if 1 ≤ (openLine stream).length ∧ (openLine stream).length ≤ limit then [openLine stream] else [] := by
  have hbody : lineBody ((splitLines 0x0A stream).2 ++ [0x0A]) = openLine stream := by
    rw [lineBody, List.dropLast_concat]
    rfl
  rw [acceptedLines, splitLines_newline, List.map_append, List.filter_append, List.map_singleton, hbody]
  congr 1
  simp [List.filter_cons]

namespace LineReader
variable {σ ω : Type} (r : LineReader σ)

/-- One byte: `handle` is called with a line that is finished, `tooLarge` is written where a line is given up. -/
def read (handle : σ → Bytes → σ × List ω) (tooLarge : ω) (s : σ) (c : UInt8) : σ × List ω :=
  if c = 0x0D then (s, [])
  else if c = 0x0A then
    let t := if !r.dropping s && !(r.line s).isEmpty then handle s (r.line s) else (s, [])
    (r.keep [] false t.1, t.2)
  else if r.dropping s then (s, [])
  else if (r.line s).length ≥ r.limit then (r.keep [] true s, [tooLarge])
  else (r.keep (r.line s ++ [c]) (r.dropping s) s, [])

/-- The same call, noted. -/
def noted (handle : σ → Bytes → σ × List ω) (s : σ) (line : Bytes) : σ × List (LineEvent ω) :=
  ((handle s line).1, .handled line :: (handle s line).2.map .wrote)

/-- The buffer holds the line that has begun, or the flag says that it is too long. -/
structure Follows (s : σ) (stream : Bytes) : Prop where
  dropping : r.dropping s = decide (r.limit < (openLine stream).length)
  line : r.line s = if r.limit < (openLine stream).length then [] else openLine stream

variable {r} {handle : σ → Bytes → σ × List ω} {tooLarge : ω} {s : σ} {stream : Bytes}

theorem read_newline : r.read handle tooLarge s 0x0A =
    (r.keep [] false (if !r.dropping s && !(r.line s).isEmpty then handle s (r.line s) else (s, [])).1,
      (if !r.dropping s && !(r.line s).isEmpty then handle s (r.line s) else (s, [])).2) := by
  rw [read, if_neg (by decide), if_pos rfl]

/-- Noting the calls changes neither the state nor what is written. -/
theorem read_noted (c : UInt8) :
    (r.read (noted handle) (.wrote tooLarge) s c).1 = (r.read handle tooLarge s c).1 ∧
      (r.read (noted handle) (.wrote tooLarge) s c).2.filterMap LineEvent.wrote? = (r.read handle tooLarge s c).2 := by
  unfold read
  split
  · exact ⟨rfl, rfl⟩
  split
  · dsimp only
    split
    · refine ⟨rfl, ?_⟩
      show ((handle s (r.line s)).2.map LineEvent.wrote).filterMap LineEvent.wrote? = _
      exact LineEvent.wrote_map_wrote _
    · exact ⟨rfl, rfl⟩
  split
  · exact ⟨rfl, rfl⟩
  split
  · exact ⟨rfl, rfl⟩
  · exact ⟨rfl, rfl⟩

theorem Follows.kept {s' : σ} (h : r.Follows s stream) (hdropping : r.dropping s' = r.dropping s)
    (hline : r.line s' = r.line s) : r.Follows s' stream :=
  ⟨hdropping.trans h.dropping, hline.trans h.line⟩

/-- A byte keeps the buffer in step with the stream. -/
theorem Follows.read (h : r.Follows s stream) (c : UInt8) :
    r.Follows (r.read handle tooLarge s c).1 (stream ++ [c]) := by
  unfold LineReader.read
  split
  · rename_i hreturn
    subst hreturn
    exact ⟨by rw [h.dropping, openLine_return], by rw [h.line, openLine_return]⟩
  rename_i hreturn
  split
  · rename_i hnewline
    subst hnewline
    refine ⟨?_, ?_⟩
    · rw [openLine_newline, r.dropping_keep]
      rfl
    · rw [openLine_newline, r.line_keep]
      exact (ite_self _).symm
  rename_i hnewline
  have hopen : openLine (stream ++ [c]) = openLine stream ++ [c] := openLine_symbol hnewline hreturn
  have hlength : (openLine (stream ++ [c])).length = (openLine stream).length + 1 := by
    rw [hopen, List.length_append, List.length_singleton]
  split
  · rename_i hdropping
    rw [h.dropping, decide_eq_true_eq] at hdropping
    refine ⟨?_, ?_⟩
    · rw [h.dropping, hlength]
      exact decide_eq_decide.mpr ⟨fun _ => by omega, fun _ => hdropping⟩
    · rw [h.line, if_pos hdropping, hlength, if_pos (by omega)]
  rename_i hdropping
  have hshort : ¬ r.limit < (openLine stream).length := by
    rwa [h.dropping, decide_eq_true_eq] at hdropping
  have hline : r.line s = openLine stream := by rw [h.line, if_neg hshort]
  split
  · rename_i hfull
    rw [hline] at hfull
    refine ⟨?_, ?_⟩
    · rw [r.dropping_keep, hlength, eq_comm, decide_eq_true_eq]
      omega
    · rw [r.line_keep, hlength, if_pos (by omega)]
  · rename_i hroom
    rw [hline] at hroom
    refine ⟨?_, ?_⟩
    · rw [r.dropping_keep, h.dropping, hlength]
      exact decide_eq_decide.mpr ⟨fun hlong => absurd hlong hshort, fun hlong => by omega⟩
    · rw [r.line_keep, hlength, if_neg (by omega), hline, hopen]

/-- A byte calls `handle` with the line it finishes, where that is neither empty nor too long. -/
theorem Follows.read_handled (h : r.Follows s stream) (c : UInt8) :
    acceptedLines r.limit (stream ++ [c]) = acceptedLines r.limit stream ++
      (r.read (noted handle) (.wrote tooLarge) s c).2.filterMap LineEvent.handled? := by
  by_cases hnewline : c = 0x0A
  · subst hnewline
    rw [acceptedLines_newline, read_newline]
    congr 1
    by_cases hlong : r.limit < (openLine stream).length
    · have hdropping : r.dropping s = true := by rw [h.dropping, decide_eq_true hlong]
      rw [if_neg (by omega), hdropping]
      rfl
    · have hdropping : r.dropping s = false := by rw [h.dropping, decide_eq_false hlong]
      have hline : r.line s = openLine stream := by rw [h.line, if_neg hlong]
      rw [hdropping, hline]
      cases hempty : openLine stream with
      | nil => rfl
      | cons b body =>
        rw [hempty] at hlong
        have hcall : 1 ≤ (b :: body).length ∧ (b :: body).length ≤ r.limit :=
          ⟨Nat.succ_pos _, Nat.le_of_not_lt hlong⟩
        rw [if_pos hcall]
        show _ = (b :: body) :: ((handle s (b :: body)).2.map LineEvent.wrote).filterMap LineEvent.handled?
        rw [LineEvent.handled_map_wrote]
  · rw [acceptedLines_symbol hnewline]
    have hnone : (r.read (noted handle) (.wrote tooLarge) s c).2.filterMap LineEvent.handled? = [] := by
      unfold LineReader.read
      split
      · rfl
      split
      · rfl
      split
      · rfl
      · rfl
    rw [hnone, List.append_nil]

end LineReader

/-! ## Programs that read lines -/

/-- A program that takes the bytes of its stream in some of its steps, and leaves its reader alone in the others. -/
structure LineProgram (σ α ω : Type) extends Machine σ α (List ω) where
  reader : LineReader σ
  /-- The byte a step takes from the stream. -/
  symbol : α → Option UInt8
  /-- What a step calls with a finished line. -/
  handle : α → σ → Bytes → σ × List ω
  tooLarge : ω
  empty : reader.Follows init []
  reads : ∀ s a c, symbol a = some c → step s a = reader.read (handle a) tooLarge s c
  leaves : ∀ s a, symbol a = none →
    reader.dropping (step s a).1 = reader.dropping s ∧ reader.line (step s a).1 = reader.line s

namespace LineProgram
variable {σ α ω : Type} (p : LineProgram σ α ω)

/-- The same program, with its calls noted. -/
def noted : Machine σ α (List (LineEvent ω)) where
  init := p.init
  step s a :=
    match p.symbol a with
    | some c => p.reader.read (LineReader.noted (p.handle a)) (.wrote p.tooLarge) s c
    | none => ((p.step s a).1, (p.step s a).2.map .wrote)

/-- The stream a run has taken. -/
def stream (ops : List α) : Bytes := ops.filterMap p.symbol

/-- The lines a run has called its handler with. -/
def handled (ops : List α) : List Bytes := (p.noted.outs ops).flatten.filterMap LineEvent.handled?

theorem noted_step (s : σ) (a : α) :
    (p.noted.step s a).1 = (p.step s a).1 ∧ (p.noted.step s a).2.filterMap LineEvent.wrote? = (p.step s a).2 := by
  unfold noted
  dsimp only
  split
  · rename_i c hc
    rw [p.reads s a c hc]
    exact LineReader.read_noted c
  · exact ⟨rfl, LineEvent.wrote_map_wrote _⟩

/-- A run with its calls noted is the run. -/
theorem noted_run (ops : List α) :
    p.noted.run ops = p.toMachine.run ops ∧
      (p.noted.outs ops).map (List.filterMap LineEvent.wrote?) = p.toMachine.outs ops := by
  induction ops using List.reverseRecOn with
  | nil => exact ⟨rfl, rfl⟩
  | append_singleton ops a ih =>
    obtain ⟨hrun, houts⟩ := ih
    obtain ⟨hstate, hwritten⟩ := p.noted_step (p.toMachine.run ops) a
    refine ⟨?_, ?_⟩
    · rw [Machine.run_concat, Machine.run_concat, hrun, hstate]
    · rw [Machine.outs_concat, Machine.outs_concat, List.map_append, houts, List.map_singleton, Machine.out, hrun,
        hwritten, Machine.out]

theorem stream_concat (ops : List α) (a : α) : p.stream (ops ++ [a]) = p.stream ops ++ (p.symbol a).toList := by
  have hlast : [a].filterMap p.symbol = (p.symbol a).toList := by
    cases h : p.symbol a with
    | none => exact List.filterMap_cons_none h
    | some c => exact List.filterMap_cons_some h
  rw [stream, List.filterMap_append, hlast]
  rfl

theorem handled_concat (ops : List α) (a : α) :
    p.handled (ops ++ [a]) = p.handled ops ++ (p.noted.step (p.noted.run ops) a).2.filterMap LineEvent.handled? := by
  rw [handled, Machine.outs_concat, List.flatten_append, List.filterMap_append]
  simp [handled, Machine.out]

/-- Along every run the reader is in step with the stream, and the handler was called with the lines of the stream
that are neither empty nor too long, each once and in order. -/
theorem run_lines (ops : List α) :
    p.reader.Follows (p.noted.run ops) (p.stream ops) ∧
      p.handled ops = acceptedLines p.reader.limit (p.stream ops) := by
  induction ops using List.reverseRecOn with
  | nil => exact ⟨p.empty, rfl⟩
  | append_singleton ops a ih =>
    obtain ⟨hfollows, hlines⟩ := ih
    rw [Machine.run_concat, stream_concat, handled_concat, hlines]
    cases hsymbol : p.symbol a with
    | none =>
      have hstep : p.noted.step (p.noted.run ops) a =
          ((p.step (p.noted.run ops) a).1, (p.step (p.noted.run ops) a).2.map .wrote) := by
        simp only [noted, hsymbol]
      obtain ⟨hdropping, hline⟩ := p.leaves (p.noted.run ops) a hsymbol
      rw [hstep, Option.toList_none, List.append_nil]
      refine ⟨hfollows.kept hdropping hline, ?_⟩
      rw [LineEvent.handled_map_wrote, List.append_nil]
    | some c =>
      have hstep : p.noted.step (p.noted.run ops) a =
          p.reader.read (LineReader.noted (p.handle a)) (.wrote p.tooLarge) (p.noted.run ops) c := by
        simp only [noted, hsymbol]
      rw [hstep, Option.toList_some]
      exact ⟨hfollows.read c, (hfollows.read_handled c).symm⟩

end LineProgram

end Pipa.Lib
