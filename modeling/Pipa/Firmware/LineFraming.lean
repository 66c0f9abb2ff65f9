import Pipa.Firmware.SecureDevice
import Pipa.Lib.LineReader

/- `readTransport` of both protocols (`pipa_protocol.cpp`, `pipa_secure_protocol.cpp`)
   as a reader of lines. What arrives between two calls of `poll` is cut anywhere;
   `handleLine` is called with the lines of the whole stream. The steps that read
   nothing, the timers and the calls of the user interface, leave the buffer alone. -/
namespace Pipa.Firmware
open Pipa.Lib

/-! ## The first protocol -/

namespace PipaProtocol

/-- `inbound_line_` and `dropping_oversized_line_`. -/
def lineReader : LineReader PipaProtocol where
  line := inboundLine
  dropping := droppingOversizedLine
  keep line dropping p := { p with inboundLine := line, droppingOversizedLine := dropping }
  limit := kMaxInboundLine
  line_keep _ _ _ := rfl
  dropping_keep _ _ _ := rfl

/-- The byte a step reads from the transport. -/
def Step.character : Step → Option UInt8
  | .read _ character => some character
  | _ => none

/-- What a step does with a finished line. -/
def Step.handleLine (platform : Platform) : Step → PipaProtocol → Bytes → PipaProtocol × List Output
  | .read now _ => fun p line => PipaProtocol.handleLine platform p now line
  | _ => fun p _ => (p, [])

/-- The timers leave the line that has begun as it is. -/
theorem timers_line (config : Config) (p : PipaProtocol) (now : Now) :
    (p.timers config now).1.droppingOversizedLine = p.droppingOversizedLine ∧
      (p.timers config now).1.inboundLine = p.inboundLine := by
  unfold timers
  split
  · exact ⟨rfl, rfl⟩
  split
  · exact ⟨rfl, rfl⟩
  · have hheart : (p.heartbeat now).1.droppingOversizedLine = p.droppingOversizedLine ∧
        (p.heartbeat now).1.inboundLine = p.inboundLine := by
      unfold heartbeat
      split
      · exact ⟨rfl, rfl⟩
      · exact ⟨rfl, rfl⟩
    show ((p.heartbeat now).1.statusReport now).1.droppingOversizedLine = _ ∧
      ((p.heartbeat now).1.statusReport now).1.inboundLine = _
    unfold statusReport
    split
    · exact hheart
    · exact hheart

/-- The device as a program that reads lines. -/
def lines (platform : Platform) (start : Now) : LineProgram PipaProtocol Step Output where
  toMachine := machine platform start
  reader := lineReader
  symbol := Step.character
  handle := Step.handleLine platform
  tooLarge := .log "incoming message discarded: too large"
  empty := ⟨rfl, rfl⟩
  reads p a c h := by
    cases a with
    | read now character =>
      obtain rfl := Option.some.inj h
      rfl
    | _ => cases h
  leaves p a h := by
    cases a with
    | read now character => cases h
    | timers now => exact timers_line platform.config p now
    | _ => exact ⟨rfl, rfl⟩

end PipaProtocol

/-! ## The second protocol -/

namespace SecureDevice

def lineReader : LineReader SecureDevice where
  line := inboundLine
  dropping := droppingOversizedLine
  keep line dropping d := { d with inboundLine := line, droppingOversizedLine := dropping }
  limit := PipaProtocol.kMaxInboundLine
  line_keep _ _ _ := rfl
  dropping_keep _ _ _ := rfl

def Step.character : Step → Option UInt8
  | .read _ character => some character
  | _ => none

def Step.handleLine (platform : SecurePlatform) : Step → SecureDevice → Bytes → SecureDevice × List Bytes
  | .read m _ => fun d line => SecureDevice.handleLine platform d m line
  | _ => fun d _ => (d, [])

/-- The line that has begun is the same in both. -/
structure SameLine (d d' : SecureDevice) : Prop where
  dropping : d'.droppingOversizedLine = d.droppingOversizedLine
  line : d'.inboundLine = d.inboundLine

theorem SameLine.trans {a b c : SecureDevice} (h : SameLine a b) (h' : SameLine b c) : SameLine a c :=
  ⟨h'.dropping.trans h.dropping, h'.line.trans h.line⟩

variable (platform : SecurePlatform) (d : SecureDevice) (m : Moment)

theorem sealDocument_line (document : JsonObject) : SameLine d (d.sealDocument platform m document).1 := by
  unfold sealDocument
  simp only
  split
  · exact ⟨rfl, rfl⟩
  split
  · exact ⟨rfl, rfl⟩
  · exact ⟨rfl, rfl⟩

theorem deliver_line (outputs : List Output) : SameLine d (d.deliver platform m outputs).1 := by
  induction outputs generalizing d with
  | nil => exact ⟨rfl, rfl⟩
  | cons output outputs ih =>
    cases output with
    | log text => exact ih d
    | json document =>
      have hfirst := sealDocument_line platform d m document
      exact hfirst.trans (ih _)

theorem call_line (r : PipaSecureProtocol × List Output) : SameLine d (d.call platform m r).1 := by
  have hcall := deliver_line platform { d with protocol := r.1 } m r.2
  exact ⟨hcall.dropping, hcall.line⟩

theorem sendHandshake_line : SameLine d (d.sendHandshake platform m).1 := by
  unfold sendHandshake
  split
  · exact ⟨rfl, rfl⟩
  split
  · exact ⟨rfl, rfl⟩
  · dsimp only
    split
    · exact ⟨rfl, rfl⟩
    · exact ⟨rfl, rfl⟩

theorem retry_line : SameLine d (d.retry platform m).1 := by
  unfold retry
  split
  · have hsent := sendHandshake_line platform (d.noteHandshake m) m
    exact ⟨hsent.dropping, hsent.line⟩
  · exact ⟨rfl, rfl⟩

theorem timers_line : SameLine d (d.timers platform m).1 := by
  unfold timers
  split
  · have hsent := sendHandshake_line platform (d.resetHandshake.noteHandshake m) m
    exact ⟨hsent.dropping, hsent.line⟩
  · have hretried := retry_line platform d m
    exact (hretried.trans (call_line platform _ m _)).trans (call_line platform _ m _)

theorem begin_line : SameLine d (d.begin platform m).1 := by
  have hsent := sendHandshake_line platform d.resetHandshake m
  exact ⟨hsent.dropping, hsent.line⟩

/-- A step that reads nothing leaves the line that has begun as it is. -/
theorem step_line {a : Step} (h : a.character = none) : SameLine d (d.step platform a).1 := by
  cases a with
  | read m character => cases h
  | begin m => exact begin_line platform d m
  | timers m => exact timers_line platform d m
  | sendGesture m gesture => exact call_line platform d m _
  | sendTextInput m text source => exact call_line platform d m _
  | sendConfirmation m accepted => exact call_line platform d m _
  | _ => exact ⟨rfl, rfl⟩

def lines : LineProgram SecureDevice Step Bytes where
  toMachine := machine platform
  reader := lineReader
  symbol := Step.character
  handle := Step.handleLine platform
  tooLarge := comment "secure incoming message discarded: too large"
  empty := ⟨rfl, rfl⟩
  reads d a c h := by
    cases a with
    | read m character =>
      obtain rfl := Option.some.inj h
      rfl
    | _ => cases h
  leaves d a h := ⟨(step_line platform d h).dropping, (step_line platform d h).line⟩

end SecureDevice

/-! ## Both -/

/-- For every run of a device, of either protocol, and so for every way the bytes it reads are spread over calls of
`readTransport`: with its calls of `handleLine` noted the run is the same, and they are one for each line of the
stream that has 1 to `kMaxInboundLine` bytes without its carriage returns, in order and with those bytes. -/
theorem handleLine_called_by_lines :
    (∀ (platform : Platform) (start : Now) (steps : List PipaProtocol.Step),
      let device := PipaProtocol.lines platform start
      device.noted.run steps = (PipaProtocol.machine platform start).run steps ∧
        (device.noted.outs steps).map (List.filterMap LineEvent.wrote?) =
          (PipaProtocol.machine platform start).outs steps ∧
        device.handled steps =
          acceptedLines PipaProtocol.kMaxInboundLine (steps.filterMap PipaProtocol.Step.character)) ∧
    ∀ (platform : SecurePlatform) (steps : List SecureDevice.Step),
      let device := SecureDevice.lines platform
      device.noted.run steps = (SecureDevice.machine platform).run steps ∧
        (device.noted.outs steps).map (List.filterMap LineEvent.wrote?) = (SecureDevice.machine platform).outs steps ∧
        device.handled steps =
          acceptedLines PipaProtocol.kMaxInboundLine (steps.filterMap SecureDevice.Step.character) := by
  constructor
  · intro platform start steps device
    obtain ⟨hrun, houts⟩ := device.noted_run steps
    exact ⟨hrun, houts, (device.run_lines steps).2⟩
  · intro platform steps device
    obtain ⟨hrun, houts⟩ := device.noted_run steps
    exact ⟨hrun, houts, (device.run_lines steps).2⟩

end Pipa.Firmware
