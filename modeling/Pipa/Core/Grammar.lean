import Pipa.Core.ClientMessages

/- The grammar of client messages v1 as a table, and what `parse_client_message` accepts.
   `messageGrammar` lists the fields of each type with their kind and need; `FieldKind.Fits` says
   which values a field may have, and `FieldKind.Kept` what the parser keeps of them. The parser
   accepts an object exactly when it fits the table and its version equals 1 in Python's sense,
   which `true` and `1.0` do as well. -/
namespace Pipa.Core
open Pipa.Lib

/-! ## The table -/

inductive FieldKind where
  | text (maximum : Nat)
  | word (names : List String)
  | choice (maximum : Nat) (names : List String)
  | digest
  | capabilities
  | integer (low high : Int)
  | arguments
  | flag

/-- Whether a field must be there, may be missing or `null`, or may only be missing. -/
inductive Need where
  | required | nullable | defaulted
  deriving DecidableEq

structure FieldSpec where
  name : String
  kind : FieldKind
  need : Need

/-- The fields of each message type. -/
def messageGrammar : List (String × List FieldSpec) :=
  [("challenge_request", [⟨"device_id", .text 64, .required⟩]),
   ("hello", [⟨"device_id", .text 64, .required⟩, ⟨"challenge_id", .text 128, .required⟩,
     ⟨"signature", .text 256, .required⟩, ⟨"firmware_version", .text 32, .nullable⟩,
     ⟨"capabilities", .capabilities, .defaulted⟩]),
   ("device_hello", [⟨"firmware_version", .text 32, .nullable⟩, ⟨"capabilities", .capabilities, .defaulted⟩]),
   ("catalog_request", []),
   ("text_input", [⟨"text", .text 4000, .required⟩,
     ⟨"source", .word ["voice", "touch", "mobile", "debug", "unknown"], .defaulted⟩]),
   ("wake", []), ("hold_start", []), ("hold_end", []), ("audio_end", []), ("abort", []),
   ("ping", [⟨"request_id", .text 64, .nullable⟩]),
   ("device_status", [
     ⟨"audio_state", .word ["disabled", "probe_only", "codec_ready", "listening", "draining", "error"], .nullable⟩,
     ⟨"battery_percent", .integer 0 100, .nullable⟩, ⟨"wifi_rssi", .integer (-127) 0, .nullable⟩]),
   ("gesture", [⟨"gesture", .choice 32 ["tap", "double_tap", "swipe_left", "swipe_right"], .required⟩]),
   ("tool_call", [⟨"name", .text 80, .required⟩, ⟨"arguments", .arguments, .defaulted⟩,
     ⟨"call_id", .text 128, .nullable⟩, ⟨"request_digest", .digest, .nullable⟩]),
   ("confirm", [⟨"confirmation_id", .text 128, .required⟩, ⟨"accepted", .flag, .required⟩])]

/-- A text of at most `maximum` characters, not blank, without control characters. -/
def TextFits (maximum : Nat) (s : PyStr) : Prop :=
  s.strip ≠ [] ∧ s.length ≤ maximum ∧ ∀ c ∈ s, 0x20 ≤ c.val ∧ c.val ≠ 0x7F

/-- The values a field may have. -/
def FieldKind.Fits : FieldKind → Value → Prop
  | .text maximum, v => ∃ s, v = .str s ∧ TextFits maximum s
  | .word names, v => ∃ t ∈ names, v = .str (PyStr.ofString t)
  | .choice maximum names, v => ∃ s, v = .str s ∧ TextFits maximum s ∧ ∃ t ∈ names, s.strip = PyStr.ofString t
  | .digest, v => ∃ s, v = .str s ∧ s.length = 64 ∧ ∀ c ∈ s, c ∈ PyStr.ofString "0123456789abcdef"
  | .capabilities, v => ∃ texts : List PyStr, v = .list (texts.map .str) ∧ texts.length ≤ 16 ∧
      (∀ t ∈ texts, TextFits 32 t) ∧ (texts.map PyStr.strip).Nodup
  | .integer low high, v => ∃ n, v = .int n ∧ low ≤ n ∧ n ≤ high
  | .arguments, v => ∃ fields encoded, v = .dict fields ∧ (dumps false v).bind PyStr.encode = some encoded ∧
      encoded.length ≤ 4096
  | .flag, v => ∃ b, v = .bool b

/-- The values that are kept of them: what is stripped is in bounds, and stripped. -/
def FieldKind.Kept : FieldKind → Value → Prop
  | .text maximum, v => ∃ s, v = .str s ∧ TextFits maximum s ∧ s.strip = s
  | .choice _ names, v => ∃ t ∈ names, v = .str (PyStr.ofString t)
  | .capabilities, v => ∃ texts : List PyStr, v = .list (texts.map .str) ∧ texts.length ≤ 16 ∧
      (∀ t ∈ texts, TextFits 32 t ∧ t.strip = t) ∧ texts.Nodup
  | kind, v => kind.Fits v

/-- The field is as the table wants it. -/
def FieldSpec.Ok (f : FieldSpec) (payload : Object) : Prop :=
  (f.need ≠ .required ∧ payload.get? (PyStr.ofString f.name) = none) ∨
  (f.need = .nullable ∧ payload.get? (PyStr.ofString f.name) = some .null) ∨
  ∃ v, payload.get? (PyStr.ofString f.name) = some v ∧ f.kind.Fits v

/-- The field of an accepted message: kept, or `None` where that may be. -/
def FieldSpec.Settled (f : FieldSpec) (fields : Object) : Prop :=
  (f.need = .nullable ∧ fields.get? (PyStr.ofString f.name) = none) ∨
  (f.need = .nullable ∧ fields.get? (PyStr.ofString f.name) = some .null) ∨
  ∃ v, fields.get? (PyStr.ofString f.name) = some v ∧ f.kind.Kept v

/-- The table without the version: a known type, no other field, and every field as it should be. -/
def Otherwise (payload : Object) : Prop :=
  ∃ e ∈ messageGrammar, payload.get? (PyStr.ofString "type") = some (.str (PyStr.ofString e.1)) ∧
    (∀ k ∈ payload.keys, k ∈ commonFields ∨ ∃ f ∈ e.2, k = PyStr.ofString f.name) ∧ ∀ f ∈ e.2, f.Ok payload

/-- The v1 grammar. -/
def Grammar (payload : Object) : Prop :=
  Otherwise payload ∧ payload.get? (PyStr.ofString "protocol_version") = some (.int 1)

/-! ## Back to an object -/

def TextSource.name : TextSource → String
  | .voice => "voice"
  | .touch => "touch"
  | .mobile => "mobile"
  | .debug => "debug"
  | .unknown => "unknown"

def AudioState.name : AudioState → String
  | .disabled => "disabled"
  | .probeOnly => "probe_only"
  | .codecReady => "codec_ready"
  | .listening => "listening"
  | .draining => "draining"
  | .error => "error"

def Gesture.name : Gesture → String
  | .tap => "tap"
  | .doubleTap => "double_tap"
  | .swipeLeft => "swipe_left"
  | .swipeRight => "swipe_right"

/-- A field that is set only with a value. -/
def optionalText (name : String) (text : Option PyStr) : Object :=
  (text.map (fun t => (PyStr.ofString name, Value.str t))).toList

def optionalInt (n : Option Int) : Value := (n.map Value.int).getD .null

/-- `fields` of a `ClientMessage`, the version aside. -/
def ClientMessage.fields : ClientMessage → Object
  | .challengeRequest deviceId => [(PyStr.ofString "device_id", .str deviceId)]
  | .hello deviceId challengeId signature firmwareVersion capabilities =>
    [(PyStr.ofString "device_id", .str deviceId), (PyStr.ofString "challenge_id", .str challengeId),
     (PyStr.ofString "signature", .str signature)] ++ optionalText "firmware_version" firmwareVersion ++
    [(PyStr.ofString "capabilities", .list (capabilities.map .str))]
  | .deviceHello firmwareVersion capabilities =>
    optionalText "firmware_version" firmwareVersion ++ [(PyStr.ofString "capabilities", .list (capabilities.map .str))]
  | .textInput text source =>
    [(PyStr.ofString "text", .str text), (PyStr.ofString "source", .str (PyStr.ofString source.name))]
  | .catalogRequest | .wake | .holdStart | .holdEnd | .audioEnd | .abort => []
  | .ping requestId => optionalText "request_id" requestId
  | .deviceStatus audioState batteryPercent wifiRssi =>
    [(PyStr.ofString "audio_state", (audioState.map (fun a => Value.str (PyStr.ofString a.name))).getD .null),
     (PyStr.ofString "battery_percent", optionalInt batteryPercent), (PyStr.ofString "wifi_rssi", optionalInt wifiRssi)]
  | .gesture g => [(PyStr.ofString "gesture", .str (PyStr.ofString g.name))]
  | .toolCall name arguments callId requestDigest =>
    [(PyStr.ofString "name", .str name), (PyStr.ofString "arguments", .dict arguments)] ++
    optionalText "call_id" callId ++ optionalText "request_digest" requestDigest
  | .confirm confirmationId accepted =>
    [(PyStr.ofString "confirmation_id", .str confirmationId), (PyStr.ofString "accepted", .bool accepted)]

/-- The message as an object again. -/
def ClientMessage.toObject (m : ClientMessage) (version : Value) : Object :=
  (PyStr.ofString "type", .str m.type) :: (PyStr.ofString "protocol_version", version) :: m.fields

/-- `ClientMessage` with the version it keeps. -/
def parseVersioned (payload : Object) : Option (Value × ClientMessage) :=
  (parseClientMessage payload).map (fun m => (Parse.get payload "protocol_version", m))

/-! ## The readers -/

section
variable {payload : Object} {name : String}

theorem clean_some {maximum : Nat} {v : Value} {t : PyStr} :
    Parse.clean maximum v = some t ↔ ∃ s, v = .str s ∧ TextFits maximum s ∧ t = s.strip := by
  unfold Parse.clean TextFits
  cases v with
  | str s =>
    simp only
    split
    · rename_i h
      constructor
      · nofun
      · rintro ⟨s', hs, ⟨hne, hlen, hchars⟩, -⟩
        injection hs with hs
        subst hs
        simp only [Bool.or_eq_true, List.isEmpty_iff, decide_eq_true_eq, List.any_eq_true, beq_iff_eq] at h
        obtain (h | h) | ⟨c, hc, h⟩ := h
        · exact absurd h hne
        · exact absurd hlen (by omega)
        · have := hchars c hc
          omega
    · rename_i h
      simp only [Bool.or_eq_true, List.isEmpty_iff, decide_eq_true_eq, List.any_eq_true, beq_iff_eq, not_or,
        not_exists, not_and] at h
      constructor
      · intro ht
        refine ⟨s, rfl, ⟨h.1.1, by omega, fun c hc => ?_⟩, (Option.some.inj ht).symm⟩
        have := h.2 c hc
        omega
      · rintro ⟨s', hs, -, rfl⟩
        injection hs with hs
        rw [hs]
  | _ => simp

/-- What is kept of a text fits where it was taken from. -/
theorem TextFits.strip {maximum : Nat} {s : PyStr} (h : TextFits maximum s) : TextFits maximum s.strip := by
  obtain ⟨hne, hlen, hchars⟩ := h
  refine ⟨by rwa [PyStr.strip_strip], ?_, fun c hc => hchars c (s.strip_infix.sublist.mem hc)⟩
  exact Nat.le_trans s.strip_infix.length_le hlen

theorem string_some {maximum : Nat} {t : PyStr} :
    Parse.string payload name maximum = some t ↔
      ∃ s, payload.get? (PyStr.ofString name) = some (.str s) ∧ TextFits maximum s ∧ t = s.strip := by
  unfold Parse.string Parse.get
  rw [clean_some]
  constructor
  · rintro ⟨s, hs, h⟩
    exact ⟨s, Object.get?_of_getD hs (by simp), h⟩
  · rintro ⟨s, hs, h⟩
    exact ⟨s, by rw [hs]; rfl, h⟩

/-! ### A field is read when it is as the table wants it -/

theorem string_ok {maximum : Nat} :
    FieldSpec.Ok ⟨name, .text maximum, .required⟩ payload ↔ (Parse.string payload name maximum).isSome = true := by
  rw [Option.isSome_iff_exists]
  simp only [FieldSpec.Ok, FieldKind.Fits, string_some]
  constructor
  · rintro (⟨h, -⟩ | ⟨h, -⟩ | ⟨v, hv, s, rfl, hs⟩)
    · exact absurd rfl h
    · cases h
    · exact ⟨_, s, hv, hs, rfl⟩
  · rintro ⟨t, s, hv, hs, rfl⟩
    exact Or.inr (Or.inr ⟨_, hv, s, rfl, hs⟩)

/-- A field that may be missing or `null`. -/
theorem nullable_ok {kind : FieldKind} (hnull : ¬ kind.Fits .null) :
    FieldSpec.Ok ⟨name, kind, .nullable⟩ payload ↔
      Parse.get payload name = .null ∨ kind.Fits (Parse.get payload name) := by
  unfold FieldSpec.Ok Parse.get
  cases hget : payload.get? (PyStr.ofString name) with
  | none => simp [hnull]
  | some v =>
    simp only [reduceCtorEq, and_false, true_and, Option.some.injEq, exists_eq_left', Option.getD_some, false_or]

/-- A field that may only be missing. -/
theorem defaulted_ok {kind : FieldKind} {default : Value} (hdefault : kind.Fits default) :
    FieldSpec.Ok ⟨name, kind, .defaulted⟩ payload ↔
      kind.Fits ((payload.get? (PyStr.ofString name)).getD default) := by
  unfold FieldSpec.Ok
  cases hget : payload.get? (PyStr.ofString name) with
  | none => simp [hdefault]
  | some v => simp

theorem optionalString_ok {maximum : Nat} :
    FieldSpec.Ok ⟨name, .text maximum, .nullable⟩ payload ↔
      (Parse.optionalString payload name maximum).isSome = true := by
  rw [nullable_ok (by simp [FieldKind.Fits])]
  unfold Parse.optionalString
  split
  · rename_i hnull
    simp [hnull]
  · rename_i hnull
    have hne : Parse.get payload name ≠ .null := hnull
    rw [Option.isSome_map, Parse.string, Option.isSome_iff_exists]
    simp only [hne, false_or, FieldKind.Fits, clean_some]
    constructor
    · rintro ⟨s, hs, hfits⟩
      exact ⟨_, s, hs, hfits, rfl⟩
    · rintro ⟨_, s, hs, hfits, -⟩
      exact ⟨s, hs, hfits⟩

theorem digest_ok :
    FieldSpec.Ok ⟨"request_digest", .digest, .nullable⟩ payload ↔
      (Parse.optionalRequestDigest payload).isSome = true := by
  rw [nullable_ok (by simp [FieldKind.Fits])]
  unfold Parse.optionalRequestDigest
  cases Parse.get payload "request_digest" with
  | null => simp
  | str s =>
    simp only [reduceCtorEq, false_or, FieldKind.Fits, Value.str.injEq, exists_eq_left', List.all_eq_true,
      List.contains_iff_mem]
    split
    · rename_i h
      simpa using h
    · rename_i h
      simpa using h
  | _ => simp [FieldKind.Fits]

/-- A list is read item by item. -/
theorem mapM_clean {items : List Value} {maximum : Nat} {parsed : List PyStr} :
    items.mapM (Parse.clean maximum) = some parsed ↔
      ∃ texts : List PyStr, items = texts.map .str ∧ (∀ t ∈ texts, TextFits maximum t) ∧
        parsed = texts.map PyStr.strip := by
  induction items generalizing parsed with
  | nil =>
    constructor
    · intro h
      exact ⟨[], rfl, nofun, (Option.some.inj h).symm⟩
    · rintro ⟨texts, h, -, rfl⟩
      obtain rfl := List.map_eq_nil_iff.mp h.symm
      rfl
  | cons v items ih =>
    rw [List.mapM_cons]
    constructor
    · intro h
      obtain ⟨t, ht, h⟩ := Option.bind_eq_some_iff.mp h
      obtain ⟨ts, hts, h⟩ := Option.bind_eq_some_iff.mp h
      obtain ⟨s, rfl, hs, rfl⟩ := clean_some.mp ht
      obtain ⟨texts, rfl, hfits, rfl⟩ := ih.mp hts
      exact ⟨s :: texts, rfl, List.forall_mem_cons.mpr ⟨hs, hfits⟩, (Option.some.inj h).symm⟩
    · rintro ⟨texts, h, hfits, rfl⟩
      cases texts with
      | nil => cases h
      | cons s texts =>
        obtain ⟨rfl, rfl⟩ := List.cons.inj h
        obtain ⟨hs, hfits⟩ := List.forall_mem_cons.mp hfits
        rw [clean_some.mpr ⟨s, rfl, hs, rfl⟩, ih.mpr ⟨texts, rfl, hfits, rfl⟩]
        rfl

theorem capabilities_some {parsed : List PyStr} :
    Parse.capabilities payload = some parsed ↔
      ∃ texts : List PyStr, (payload.get? (PyStr.ofString "capabilities")).getD (.list []) = .list (texts.map .str) ∧
        texts.length ≤ 16 ∧ (∀ t ∈ texts, TextFits 32 t) ∧ parsed = texts.map PyStr.strip ∧ parsed.Nodup := by
  unfold Parse.capabilities
  split
  · rename_i items hitems
    rw [hitems]
    split
    · rename_i hlong
      constructor
      · nofun
      · rintro ⟨texts, h, hlen, -⟩
        injection h with h
        rw [h, List.length_map] at hlong
        exact absurd hlen (by simp only [maxCapabilities] at hlong; omega)
    · rename_i hshort
      constructor
      · intro h
        obtain ⟨ts, hts, h⟩ := Option.bind_eq_some_iff.mp h
        obtain ⟨texts, rfl, hfits, rfl⟩ := mapM_clean.mp hts
        split at h
        · rename_i hnodup
          obtain rfl := Option.some.inj h
          refine ⟨texts, rfl, ?_, hfits, rfl, hnodup⟩
          simpa [maxCapabilities] using hshort
        · cases h
      · rintro ⟨texts, h, -, hfits, rfl, hnodup⟩
        injection h with h
        rw [mapM_clean.mpr ⟨texts, h, hfits, rfl⟩]
        exact if_pos hnodup
  · rename_i hnot
    constructor
    · nofun
    · rintro ⟨texts, h, -⟩
      exact absurd h (hnot _)

theorem capabilities_ok :
    FieldSpec.Ok ⟨"capabilities", .capabilities, .defaulted⟩ payload ↔ (Parse.capabilities payload).isSome = true := by
  have hdefault : FieldKind.capabilities.Fits (.list []) := ⟨[], rfl, by simp⟩
  rw [defaulted_ok hdefault, Option.isSome_iff_exists]
  simp only [FieldKind.Fits, capabilities_some]
  constructor
  · rintro ⟨texts, h, hlen, hfits, hnodup⟩
    exact ⟨_, texts, h, hlen, hfits, rfl, hnodup⟩
  · rintro ⟨_, texts, h, hlen, hfits, rfl, hnodup⟩
    exact ⟨texts, h, hlen, hfits, hnodup⟩

theorem textSource_ok :
    FieldSpec.Ok ⟨"source", .word ["voice", "touch", "mobile", "debug", "unknown"], .defaulted⟩ payload ↔
      (Parse.textSource payload).isSome = true := by
  have hdefault : (FieldKind.word ["voice", "touch", "mobile", "debug", "unknown"]).Fits
      (.str (PyStr.ofString "unknown")) := ⟨"unknown", by simp, rfl⟩
  rw [defaulted_ok hdefault]
  unfold Parse.textSource
  split
  · rename_i s hs
    rw [hs]
    simp only [FieldKind.Fits, List.mem_cons, List.not_mem_nil, or_false, Value.str.injEq, exists_eq_or_imp,
      exists_eq_left]
    repeat' split
    all_goals simp [*]
  · rename_i hnot
    constructor
    · rintro ⟨t, -, ht⟩
      exact absurd ht (hnot _)
    · nofun

theorem audioState_ok :
    FieldSpec.Ok ⟨"audio_state",
      .word ["disabled", "probe_only", "codec_ready", "listening", "draining", "error"], .nullable⟩ payload ↔
      (Parse.audioState (Parse.get payload "audio_state")).isSome = true := by
  rw [nullable_ok (by simp [FieldKind.Fits])]
  unfold Parse.audioState
  split
  · rename_i hnull
    simp [hnull]
  · rename_i s hs
    rw [hs]
    simp only [reduceCtorEq, false_or, FieldKind.Fits, List.mem_cons, List.not_mem_nil, or_false, Value.str.injEq,
      exists_eq_or_imp, exists_eq_left]
    repeat' split
    all_goals simp [*]
  · rename_i hnull hnot
    constructor
    · rintro (h | ⟨t, -, ht⟩)
      · exact absurd h hnull
      · exact absurd ht (hnot _)
    · nofun

theorem boundedInt_ok {low high : Int} :
    FieldSpec.Ok ⟨name, .integer low high, .nullable⟩ payload ↔
      (Parse.boundedInt low high (Parse.get payload name)).isSome = true := by
  rw [nullable_ok (by simp [FieldKind.Fits])]
  cases Parse.get payload name with
  | int n =>
    simp only [reduceCtorEq, false_or, FieldKind.Fits, Value.int.injEq, exists_eq_left', Parse.boundedInt]
    split
    · rename_i h
      simpa using h
    · rename_i h
      simpa using h
  | _ => simp [FieldKind.Fits, Parse.boundedInt]

theorem gesture_ok :
    FieldSpec.Ok ⟨"gesture", .choice 32 ["tap", "double_tap", "swipe_left", "swipe_right"], .required⟩ payload ↔
      ((Parse.string payload "gesture" 32).bind Parse.gesture).isSome = true := by
  have hword (s : PyStr) : (Parse.gesture s).isSome = true ↔
      ∃ t ∈ ["tap", "double_tap", "swipe_left", "swipe_right"], s = PyStr.ofString t := by
    simp only [List.mem_cons, List.not_mem_nil, or_false, exists_eq_or_imp, exists_eq_left, Parse.gesture]
    repeat' split
    all_goals simp [*]
  rw [Option.isSome_iff_exists]
  simp only [FieldSpec.Ok, FieldKind.Fits, Option.bind_eq_some_iff, string_some]
  constructor
  · rintro (⟨h, -⟩ | ⟨h, -⟩ | ⟨v, hv, s, rfl, hs, hname⟩)
    · exact absurd rfl h
    · cases h
    · obtain ⟨g, hg⟩ := Option.isSome_iff_exists.mp ((hword s.strip).mpr hname)
      exact ⟨g, s.strip, ⟨s, hv, hs, rfl⟩, hg⟩
  · rintro ⟨g, t, ⟨s, hv, hs, rfl⟩, hg⟩
    exact Or.inr (Or.inr ⟨_, hv, s, rfl, hs, (hword s.strip).mp (Option.isSome_of_eq_some hg)⟩)

theorem arguments_some {arguments : Object} :
    Parse.arguments payload = some arguments ↔
      (payload.get? (PyStr.ofString "arguments")).getD (.dict []) = .dict arguments ∧
        ∃ encoded, (dumps false (.dict arguments)).bind PyStr.encode = some encoded ∧ encoded.length ≤ 4096 := by
  unfold Parse.arguments
  split
  · rename_i fields hfields
    rw [hfields]
    split
    · rename_i hnone
      constructor
      · nofun
      · rintro ⟨h, encoded, hencoded, -⟩
        injection h with h
        rw [h, hencoded] at hnone
        cases hnone
    · rename_i encoded hencoded
      split
      · rename_i hlong
        constructor
        · nofun
        · rintro ⟨h, encoded', hencoded', hlen⟩
          injection h with h
          rw [h, hencoded'] at hencoded
          obtain rfl := Option.some.inj hencoded
          exact absurd hlen (by simp only [maxArgumentsBytes] at hlong; omega)
      · rename_i hshort
        constructor
        · intro h
          obtain rfl := Option.some.inj h
          exact ⟨rfl, encoded, hencoded, by simpa [maxArgumentsBytes] using hshort⟩
        · rintro ⟨h, -⟩
          injection h with h
          rw [h]
  · rename_i hnot
    constructor
    · nofun
    · rintro ⟨h, -⟩
      exact absurd h (hnot _)

theorem arguments_ok :
    FieldSpec.Ok ⟨"arguments", .arguments, .defaulted⟩ payload ↔ (Parse.arguments payload).isSome = true := by
  have hdefault : FieldKind.arguments.Fits (.dict []) := ⟨[], _, rfl, rfl, by decide⟩
  rw [defaulted_ok hdefault, Option.isSome_iff_exists]
  simp only [FieldKind.Fits, arguments_some]
  constructor
  · rintro ⟨fields, encoded, h, hencoded, hlen⟩
    rw [h] at hencoded
    exact ⟨fields, h, encoded, hencoded, hlen⟩
  · rintro ⟨fields, h, encoded, hencoded, hlen⟩
    exact ⟨fields, encoded, h, by rw [h]; exact hencoded, hlen⟩

theorem accepted_ok :
    FieldSpec.Ok ⟨"accepted", .flag, .required⟩ payload ↔
      (Parse.accepted (Parse.get payload "accepted")).isSome = true := by
  unfold FieldSpec.Ok Parse.get
  cases payload.get? (PyStr.ofString "accepted") with
  | none => simp [Parse.accepted]
  | some v => cases v <;> simp [FieldKind.Fits, Parse.accepted]

/-! ### The body of a message -/

theorem trivial_ok {α : Type} {a : α} : True ↔ (some a).isSome = true := by simp

theorem last_ok {α β : Type} {x : Option α} {g : α → β} :
    x.isSome = true ↔ (x >>= fun a => some (g a)).isSome = true := by
  cases x <;> simp

theorem bind_ok {α β : Type} {x : Option α} {f : α → Option β} {P : Prop} (h : ∀ a, P ↔ (f a).isSome = true) :
    (x.isSome = true ∧ P) ↔ (x >>= f).isSome = true := by
  cases x with
  | none => simp
  | some a => simpa using h a

/-- Every type is read when its fields are as the table wants them. -/
theorem body_ok : ∀ e ∈ messageGrammar,
    ((∀ f ∈ e.2, f.Ok payload) ↔ (Parse.body (PyStr.ofString e.1) payload).isSome = true) := by
  simp only [messageGrammar, List.forall_mem_cons, string_ok, optionalString_ok, digest_ok, capabilities_ok,
    textSource_ok, audioState_ok, boundedInt_ok, gesture_ok, arguments_ok, accepted_ok, List.not_mem_nil,
    false_implies, implies_true, and_true, Parse.body, PyStr.ofString_inj, String.reduceEq, if_true, if_false]
  refine ⟨last_ok, ?_, ?_, trivial_ok, ?_, trivial_ok, trivial_ok, trivial_ok, trivial_ok, trivial_ok, last_ok, ?_, ?_,
    ?_, ?_⟩
  · exact bind_ok fun _ => bind_ok fun _ => bind_ok fun _ => bind_ok fun _ => last_ok
  · exact bind_ok fun _ => last_ok
  · exact bind_ok fun _ => last_ok
  · exact bind_ok fun _ => bind_ok fun _ => last_ok
  · cases Parse.string payload "gesture" 32 with
    | none => simp
    | some name => exact last_ok
  · exact bind_ok fun _ => bind_ok fun _ => bind_ok fun _ => last_ok
  · exact bind_ok fun _ => last_ok

/-- The names of the table are those of `_MESSAGE_FIELDS`. -/
theorem messageFields_eq : messageFields =
    messageGrammar.map (fun e => (PyStr.ofString e.1, e.2.map (fun f => PyStr.ofString f.name))) := rfl

theorem messageGrammar_nodup : (messageGrammar.map Prod.fst).Nodup := by decide

/-- The fields allowed in a type of the table. -/
theorem find_messageFields {type : PyStr} {allowed : List PyStr} :
    (messageFields.find? (fun e => e.1 = type)).map Prod.snd = some allowed ↔
      ∃ e ∈ messageGrammar, type = PyStr.ofString e.1 ∧ allowed = e.2.map (fun f => PyStr.ofString f.name) := by
  rw [messageFields_eq, List.find?_map, Option.map_map, Option.map_eq_some_iff]
  constructor
  · rintro ⟨e, he, rfl⟩
    have hname := List.find?_some he
    simp only [Function.comp_apply, decide_eq_true_eq] at hname
    exact ⟨e, List.mem_of_find?_eq_some he, hname.symm, rfl⟩
  · rintro ⟨e, he, rfl, rfl⟩
    cases hfind : messageGrammar.find? ((fun e => decide (e.1 = PyStr.ofString _)) ∘
        fun e : String × List FieldSpec => (PyStr.ofString e.1, e.2.map (fun f => PyStr.ofString f.name))) with
    | none =>
      have hnot := List.find?_eq_none.mp hfind e he
      simp at hnot
    | some e' =>
      have hname := List.find?_some hfind
      simp only [Function.comp_apply, decide_eq_true_eq, PyStr.ofString_inj] at hname
      obtain rfl := List.inj_on_of_nodup_map messageGrammar_nodup (List.mem_of_find?_eq_some hfind) he hname
      exact ⟨_, rfl, rfl⟩

theorem get_str {s : PyStr} : Parse.get payload name = .str s ↔ payload.get? (PyStr.ofString name) = some (.str s) := by
  unfold Parse.get
  constructor
  · intro h
    exact Object.get?_of_getD h (by simp)
  · intro h
    rw [h]
    rfl

/-- A message that is accepted: its type, and its body. -/
theorem parse_some {m : ClientMessage} : parseClientMessage payload = some m ↔
    (∃ e ∈ messageGrammar, payload.get? (PyStr.ofString "type") = some (.str (PyStr.ofString e.1)) ∧
      (∀ k ∈ payload.keys, k ∈ commonFields ∨ ∃ f ∈ e.2, k = PyStr.ofString f.name) ∧
      Parse.body (PyStr.ofString e.1) payload = some m) ∧
    (Parse.get payload "protocol_version").equalsInt 1 = true := by
  have hkeys (allowed : List PyStr) :
      (payload.keys.all (fun k => commonFields.contains k || allowed.contains k)) = true ↔
        ∀ k ∈ payload.keys, k ∈ commonFields ∨ k ∈ allowed := by
    simp [List.all_eq_true]
  unfold parseClientMessage
  split
  · rename_i type htype
    rw [get_str] at htype
    split
    · rename_i hnone
      constructor
      · nofun
      · rintro ⟨⟨e, he, ht, -⟩, -⟩
        rw [htype] at ht
        injection ht with ht
        injection ht with ht
        rw [find_messageFields.mpr ⟨e, he, ht, rfl⟩] at hnone
        cases hnone
    · rename_i allowed hallowed
      obtain ⟨e, he, rfl, rfl⟩ := find_messageFields.mp hallowed
      split
      · rename_i hunknown
        constructor
        · nofun
        · rintro ⟨⟨e', he', ht, hknown, -⟩, -⟩
          rw [htype] at ht
          injection ht with ht
          injection ht with ht
          obtain rfl := List.inj_on_of_nodup_map messageGrammar_nodup he he' (PyStr.ofString_inj.mp ht)
          rw [Bool.not_eq_true', ← Bool.not_eq_true, hkeys] at hunknown
          refine absurd (fun k hk => (hknown k hk).imp_right ?_) hunknown
          rintro ⟨f, hf, rfl⟩
          exact List.mem_map_of_mem hf
      · rename_i hknown
        have hknown' : ∀ k ∈ payload.keys, k ∈ commonFields ∨ ∃ f ∈ e.2, k = PyStr.ofString f.name := by
          rw [Bool.not_eq_true', Bool.not_eq_false, hkeys] at hknown
          intro k hk
          refine (hknown k hk).imp_right (fun h => ?_)
          obtain ⟨f, hf, rfl⟩ := List.mem_map.mp h
          exact ⟨f, hf, rfl⟩
        split
        · rename_i hversion
          constructor
          · nofun
          · rintro ⟨-, h⟩
            rw [h] at hversion
            cases hversion
        · rename_i hversion
          have hversion' : (Parse.get payload "protocol_version").equalsInt 1 = true := by simpa using hversion
          constructor
          · intro hbody
            exact ⟨⟨e, he, htype, hknown', hbody⟩, hversion'⟩
          · rintro ⟨⟨e', he', ht, -, hbody⟩, -⟩
            rw [htype] at ht
            injection ht with ht
            injection ht with ht
            rwa [ht]
  · rename_i hnot
    constructor
    · nofun
    · rintro ⟨⟨e, he, ht, -⟩, -⟩
      exact absurd (get_str.mpr ht) (hnot _)

/-- An object is accepted when it is as the table wants it, and its version equals 1. -/
theorem parse_isSome : (parseClientMessage payload).isSome = true ↔
    Otherwise payload ∧ (Parse.get payload "protocol_version").equalsInt 1 = true := by
  rw [Option.isSome_iff_exists]
  constructor
  · rintro ⟨m, hm⟩
    obtain ⟨⟨e, he, ht, hknown, hbody⟩, hversion⟩ := parse_some.mp hm
    exact ⟨⟨e, he, ht, hknown, (body_ok e he).mpr (Option.isSome_of_eq_some hbody)⟩, hversion⟩
  · rintro ⟨⟨e, he, ht, hknown, hok⟩, hversion⟩
    obtain ⟨m, hbody⟩ := Option.isSome_iff_exists.mp ((body_ok e he).mp hok)
    exact ⟨m, parse_some.mpr ⟨⟨e, he, ht, hknown, hbody⟩, hversion⟩⟩

end

/-! ## What is kept -/

/-- A text that is in bounds and has no outer blanks. -/
def TextKept (maximum : Nat) (s : PyStr) : Prop := TextFits maximum s ∧ s.strip = s

def OptionKept (maximum : Nat) (text : Option PyStr) : Prop := ∀ s, text = some s → TextKept maximum s

/-- A message the parser can return. -/
def ClientMessage.Normal : ClientMessage → Prop
  | .challengeRequest deviceId => TextKept 64 deviceId
  | .hello deviceId challengeId signature firmwareVersion capabilities =>
    TextKept 64 deviceId ∧ TextKept 128 challengeId ∧ TextKept 256 signature ∧ OptionKept 32 firmwareVersion ∧
      capabilities.length ≤ 16 ∧ (∀ t ∈ capabilities, TextKept 32 t) ∧ capabilities.Nodup
  | .deviceHello firmwareVersion capabilities =>
    OptionKept 32 firmwareVersion ∧
      capabilities.length ≤ 16 ∧ (∀ t ∈ capabilities, TextKept 32 t) ∧ capabilities.Nodup
  | .textInput text _ => TextKept 4000 text
  | .ping requestId => OptionKept 64 requestId
  | .deviceStatus _ batteryPercent wifiRssi =>
    (∀ n, batteryPercent = some n → 0 ≤ n ∧ n ≤ 100) ∧ ∀ n, wifiRssi = some n → -127 ≤ n ∧ n ≤ 0
  | .toolCall name arguments callId requestDigest =>
    TextKept 80 name ∧
      (∃ encoded, (dumps false (.dict arguments)).bind PyStr.encode = some encoded ∧ encoded.length ≤ 4096) ∧
      OptionKept 128 callId ∧ ∀ d, requestDigest = some d → FieldKind.digest.Fits (.str d)
  | .confirm confirmationId _ => TextKept 128 confirmationId
  | _ => True

section
variable {payload : Object} {name : String}

theorem string_kept {maximum : Nat} {t : PyStr} (h : Parse.string payload name maximum = some t) : TextKept maximum t := by
  obtain ⟨s, -, hs, rfl⟩ := string_some.mp h
  exact ⟨hs.strip, s.strip_strip⟩

theorem optionalString_kept {maximum : Nat} {text : Option PyStr}
    (h : Parse.optionalString payload name maximum = some text) : OptionKept maximum text := by
  rintro s rfl
  unfold Parse.optionalString at h
  split at h
  · cases h
  · obtain ⟨t, ht, hs⟩ := Option.map_eq_some_iff.mp h
    obtain rfl := Option.some.inj hs
    exact string_kept ht

theorem capabilities_kept {texts : List PyStr} (h : Parse.capabilities payload = some texts) :
    texts.length ≤ 16 ∧ (∀ t ∈ texts, TextKept 32 t) ∧ texts.Nodup := by
  obtain ⟨raw, -, hlen, hfits, rfl, hnodup⟩ := capabilities_some.mp h
  refine ⟨by simpa using hlen, ?_, hnodup⟩
  intro t ht
  obtain ⟨s, hs, rfl⟩ := List.mem_map.mp ht
  exact ⟨(hfits s hs).strip, s.strip_strip⟩

theorem boundedInt_kept {low high : Int} {v : Value} {n : Option Int} (h : Parse.boundedInt low high v = some n) :
    ∀ k, n = some k → low ≤ k ∧ k ≤ high := by
  rintro k rfl
  unfold Parse.boundedInt at h
  split at h
  · cases h
  · split at h
    · rename_i hbounds
      obtain rfl : _ = k := by simpa using h
      exact hbounds
    · cases h
  · cases h

theorem digest_kept {digest : Option PyStr} (h : Parse.optionalRequestDigest payload = some digest) :
    ∀ d, digest = some d → FieldKind.digest.Fits (.str d) := by
  rintro d rfl
  unfold Parse.optionalRequestDigest at h
  split at h
  · cases h
  · split at h
    · rename_i hd
      obtain rfl : _ = d := by simpa using h
      exact ⟨_, rfl, hd.1, fun c hc => by simpa using List.all_eq_true.mp hd.2 c hc⟩
    · cases h
  · cases h

/-- The parser returns messages that are kept. -/
theorem parse_normal {m : ClientMessage} (h : parseClientMessage payload = some m) : m.Normal := by
  obtain ⟨⟨e, he, -, -, hbody⟩, -⟩ := parse_some.mp h
  clear h
  revert hbody
  revert e
  simp only [messageGrammar, List.forall_mem_cons, List.not_mem_nil, false_implies, implies_true, and_true, Parse.body,
    PyStr.ofString_inj, String.reduceEq, if_true, if_false]
  refine ⟨?_, ?_, ?_, ?_, ?_, ?_, ?_, ?_, ?_, ?_, ?_, ?_, ?_, ?_, ?_⟩
  · intro h
    obtain ⟨deviceId, hdevice, h⟩ := Option.bind_eq_some_iff.mp h
    obtain rfl := Option.some.inj h
    exact string_kept hdevice
  · intro h
    obtain ⟨deviceId, hdevice, h⟩ := Option.bind_eq_some_iff.mp h
    obtain ⟨challengeId, hchallenge, h⟩ := Option.bind_eq_some_iff.mp h
    obtain ⟨signature, hsignature, h⟩ := Option.bind_eq_some_iff.mp h
    obtain ⟨firmwareVersion, hfirmware, h⟩ := Option.bind_eq_some_iff.mp h
    obtain ⟨capabilities, hcapabilities, h⟩ := Option.bind_eq_some_iff.mp h
    obtain rfl := Option.some.inj h
    exact ⟨string_kept hdevice, string_kept hchallenge, string_kept hsignature, optionalString_kept hfirmware,
      capabilities_kept hcapabilities⟩
  · intro h
    obtain ⟨firmwareVersion, hfirmware, h⟩ := Option.bind_eq_some_iff.mp h
    obtain ⟨capabilities, hcapabilities, h⟩ := Option.bind_eq_some_iff.mp h
    obtain rfl := Option.some.inj h
    exact ⟨optionalString_kept hfirmware, capabilities_kept hcapabilities⟩
  · intro h
    obtain rfl := Option.some.inj h
    trivial
  · intro h
    obtain ⟨text, htext, h⟩ := Option.bind_eq_some_iff.mp h
    obtain ⟨source, -, h⟩ := Option.bind_eq_some_iff.mp h
    obtain rfl := Option.some.inj h
    exact string_kept htext
  · intro h
    obtain rfl := Option.some.inj h
    trivial
  · intro h
    obtain rfl := Option.some.inj h
    trivial
  · intro h
    obtain rfl := Option.some.inj h
    trivial
  · intro h
    obtain rfl := Option.some.inj h
    trivial
  · intro h
    obtain rfl := Option.some.inj h
    trivial
  · intro h
    obtain ⟨requestId, hrequest, h⟩ := Option.bind_eq_some_iff.mp h
    obtain rfl := Option.some.inj h
    exact optionalString_kept hrequest
  · intro h
    obtain ⟨audioState, -, h⟩ := Option.bind_eq_some_iff.mp h
    obtain ⟨batteryPercent, hbattery, h⟩ := Option.bind_eq_some_iff.mp h
    obtain ⟨wifiRssi, hwifi, h⟩ := Option.bind_eq_some_iff.mp h
    obtain rfl := Option.some.inj h
    exact ⟨boundedInt_kept hbattery, boundedInt_kept hwifi⟩
  · intro h
    obtain ⟨text, -, h⟩ := Option.bind_eq_some_iff.mp h
    obtain ⟨g, -, h⟩ := Option.bind_eq_some_iff.mp h
    obtain rfl := Option.some.inj h
    trivial
  · intro h
    obtain ⟨tool, hname, h⟩ := Option.bind_eq_some_iff.mp h
    obtain ⟨arguments, harguments, h⟩ := Option.bind_eq_some_iff.mp h
    obtain ⟨callId, hcall, h⟩ := Option.bind_eq_some_iff.mp h
    obtain ⟨requestDigest, hdigest, h⟩ := Option.bind_eq_some_iff.mp h
    obtain rfl := Option.some.inj h
    exact ⟨string_kept hname, (arguments_some.mp harguments).2, optionalString_kept hcall, digest_kept hdigest⟩
  · intro h
    obtain ⟨confirmationId, hid, h⟩ := Option.bind_eq_some_iff.mp h
    obtain ⟨accepted, -, h⟩ := Option.bind_eq_some_iff.mp h
    obtain rfl := Option.some.inj h
    exact string_kept hid

end

/-! ## And back -/

@[simp] theorem get?_nil (k : PyStr) : Object.get? [] k = none := rfl

@[simp] theorem get?_cons (k k' : PyStr) (v : Value) (rest : Object) :
    Object.get? ((k', v) :: rest) k = if k' = k then some v else Object.get? rest k := by
  unfold Object.get?
  rw [List.find?_cons]
  by_cases h : k' = k <;> simp [h]

@[simp] theorem get?_optionalText (name : String) (text : Option PyStr) (rest : Object) (k : PyStr) :
    Object.get? (optionalText name text ++ rest) k =
      if PyStr.ofString name = k then (text.map Value.str).or (Object.get? rest k) else Object.get? rest k := by
  cases text with
  | none => simp [optionalText]
  | some t =>
    by_cases h : PyStr.ofString name = k <;> simp [optionalText, h]

@[simp] theorem get?_optionalText_last (name : String) (text : Option PyStr) (k : PyStr) :
    Object.get? (optionalText name text) k = if PyStr.ofString name = k then text.map Value.str else none := by
  have happend := get?_optionalText name text [] k
  simpa using happend

theorem mem_keys_optionalText {name : String} {text : Option PyStr} {k : PyStr}
    (h : k ∈ (optionalText name text).map Prod.fst) : k = PyStr.ofString name := by
  cases text with
  | none => simp [optionalText] at h
  | some t => simpa [optionalText] using h

section
variable {f : FieldSpec} {fields : Object}

theorem settled_value {v : Value} (hget : fields.get? (PyStr.ofString f.name) = some v) (h : f.kind.Kept v) :
    f.Settled fields := Or.inr (Or.inr ⟨v, hget, h⟩)

theorem settled_optional {text : Option PyStr} (hneed : f.need = .nullable)
    (hget : fields.get? (PyStr.ofString f.name) = text.map Value.str) (h : ∀ s, text = some s → f.kind.Kept (.str s)) :
    f.Settled fields := by
  cases text with
  | none => exact Or.inl ⟨hneed, hget⟩
  | some s => exact settled_value hget (h s rfl)

theorem settled_null {v : Option Value} (hneed : f.need = .nullable)
    (hget : fields.get? (PyStr.ofString f.name) = some (v.getD .null)) (h : ∀ u, v = some u → f.kind.Kept u) :
    f.Settled fields := by
  cases v with
  | none => exact Or.inr (Or.inl ⟨hneed, hget⟩)
  | some u => exact settled_value hget (h u rfl)

end

theorem TextKept.kept {maximum : Nat} {s : PyStr} (h : TextKept maximum s) : (FieldKind.text maximum).Kept (.str s) :=
  ⟨s, rfl, h.1, h.2⟩

theorem OptionKept.kept {maximum : Nat} {text : Option PyStr} (h : OptionKept maximum text) :
    ∀ s, text = some s → (FieldKind.text maximum).Kept (.str s) := fun s hs => (h s hs).kept

theorem capabilities_settled {texts : List PyStr}
    (h : texts.length ≤ 16 ∧ (∀ t ∈ texts, TextKept 32 t) ∧ texts.Nodup) :
    FieldKind.capabilities.Kept (.list (texts.map .str)) := ⟨texts, rfl, h⟩

theorem integer_settled {low high : Int} {n : Option Int} (h : ∀ k, n = some k → low ≤ k ∧ k ≤ high) :
    ∀ u, n.map Value.int = some u → (FieldKind.integer low high).Kept u := by
  intro u hu
  obtain ⟨k, hk, rfl⟩ := Option.map_eq_some_iff.mp hu
  exact ⟨k, rfl, h k hk⟩

theorem keys_append (xs ys : Object) : (xs ++ ys).keys = xs.keys ++ ys.keys := List.map_append

theorem digest_settled {digest : Option PyStr} (h : ∀ d, digest = some d → FieldKind.digest.Fits (.str d)) :
    ∀ d, digest = some d → FieldKind.digest.Kept (.str d) := h

theorem audioState_settled (audioState : Option AudioState) :
    ∀ u, audioState.map (fun a => Value.str (PyStr.ofString a.name)) = some u →
      (FieldKind.word ["disabled", "probe_only", "codec_ready", "listening", "draining", "error"]).Kept u := by
  intro u hu
  obtain ⟨a, -, rfl⟩ := Option.map_eq_some_iff.mp hu
  exact ⟨a.name, by cases a <;> simp [AudioState.name], rfl⟩

/-- The fields of an accepted message are as the table wants them, and stripped. -/
theorem ClientMessage.Normal.settled {m : ClientMessage} (h : m.Normal) :
    ∃ e ∈ messageGrammar, m.type = PyStr.ofString e.1 ∧ (∀ k ∈ m.fields.keys, ∃ f ∈ e.2, k = PyStr.ofString f.name) ∧
      ∀ f ∈ e.2, f.Settled m.fields := by
  simp only [messageGrammar, List.mem_cons, List.not_mem_nil, or_false, exists_eq_or_imp, exists_eq_left]
  cases m with
  | challengeRequest deviceId =>
    simp only [type, PyStr.ofString_inj, String.reduceEq, false_and, true_and, or_false, forall_eq_or_imp, forall_eq]
    exact ⟨by simp [fields, Object.keys], settled_value (by simp [fields]) h.kept⟩
  | hello deviceId challengeId signature firmwareVersion capabilities =>
    obtain ⟨hdevice, hchallenge, hsignature, hfirmware, hcapabilities⟩ := h
    simp only [type, PyStr.ofString_inj, String.reduceEq, false_and, true_and, or_false, false_or, forall_eq_or_imp,
      forall_eq]
    refine ⟨?_, settled_value (by simp [fields]) hdevice.kept, settled_value (by simp [fields]) hchallenge.kept,
      settled_value (by simp [fields]) hsignature.kept, settled_optional rfl (by simp [fields]) hfirmware.kept,
      settled_value (by simp [fields]) (capabilities_settled hcapabilities)⟩
    intro k hk
    simp only [fields, keys_append, List.mem_append] at hk
    obtain (hk | hk) | hk := hk
    · simp only [Object.keys, List.map_cons, List.map_nil, List.mem_cons, List.not_mem_nil, or_false] at hk
      obtain rfl | rfl | rfl := hk <;> simp
    · simp [mem_keys_optionalText hk]
    · simp only [Object.keys, List.map_cons, List.map_nil, List.mem_cons, List.not_mem_nil, or_false] at hk
      simp [hk]
  | deviceHello firmwareVersion capabilities =>
    obtain ⟨hfirmware, hcapabilities⟩ := h
    simp only [type, PyStr.ofString_inj, String.reduceEq, false_and, true_and, or_false, false_or, forall_eq_or_imp,
      forall_eq]
    refine ⟨?_, settled_optional rfl (by simp [fields]) hfirmware.kept,
      settled_value (by simp [fields]) (capabilities_settled hcapabilities)⟩
    intro k hk
    simp only [fields, keys_append, List.mem_append] at hk
    obtain hk | hk := hk
    · simp [mem_keys_optionalText hk]
    · simp only [Object.keys, List.map_cons, List.map_nil, List.mem_cons, List.not_mem_nil, or_false] at hk
      simp [hk]
  | textInput text source =>
    simp only [type, PyStr.ofString_inj, String.reduceEq, false_and, true_and, or_false, false_or, forall_eq_or_imp,
      forall_eq]
    refine ⟨by simp [fields, Object.keys], settled_value (by simp [fields]) h.kept,
      settled_value (v := .str (PyStr.ofString source.name)) (by simp [fields]) ?_⟩
    exact ⟨source.name, by cases source <;> simp [TextSource.name], rfl⟩
  | ping requestId =>
    simp only [type, PyStr.ofString_inj, String.reduceEq, false_and, true_and, or_false, false_or, forall_eq_or_imp,
      forall_eq]
    exact ⟨fun k hk => mem_keys_optionalText hk, settled_optional rfl (by simp [fields]) h.kept⟩
  | deviceStatus audioState batteryPercent wifiRssi =>
    obtain ⟨hbattery, hwifi⟩ := h
    simp only [type, PyStr.ofString_inj, String.reduceEq, false_and, true_and, or_false, false_or, forall_eq_or_imp,
      forall_eq]
    refine ⟨by simp [fields, Object.keys], settled_null rfl (by simp [fields]) (audioState_settled audioState),
      settled_null rfl (by simp [fields, optionalInt]) (integer_settled hbattery),
      settled_null rfl (by simp [fields, optionalInt]) (integer_settled hwifi)⟩
  | gesture g =>
    simp only [type, PyStr.ofString_inj, String.reduceEq, false_and, true_and, or_false, false_or, forall_eq_or_imp,
      forall_eq]
    refine ⟨by simp [fields, Object.keys], settled_value (v := .str (PyStr.ofString g.name)) (by simp [fields]) ?_⟩
    exact ⟨g.name, by cases g <;> simp [Gesture.name], rfl⟩
  | toolCall name arguments callId requestDigest =>
    obtain ⟨hname, harguments, hcall, hdigest⟩ := h
    simp only [type, PyStr.ofString_inj, String.reduceEq, false_and, true_and, or_false, false_or, forall_eq_or_imp,
      forall_eq]
    refine ⟨?_, settled_value (by simp [fields]) hname.kept, settled_value (v := .dict arguments) (by simp [fields]) ?_,
      settled_optional rfl (by simp [fields]) hcall.kept, settled_optional rfl (by simp [fields]) (digest_settled hdigest)⟩
    · intro k hk
      simp only [fields, keys_append, List.mem_append] at hk
      obtain (hk | hk) | hk := hk
      · simp only [Object.keys, List.map_cons, List.map_nil, List.mem_cons, List.not_mem_nil, or_false] at hk
        obtain rfl | rfl := hk <;> simp
      · simp [mem_keys_optionalText hk]
      · simp [mem_keys_optionalText hk]
    · obtain ⟨encoded, hencoded, hlen⟩ := harguments
      exact ⟨_, encoded, rfl, hencoded, hlen⟩
  | confirm confirmationId accepted =>
    simp only [type, PyStr.ofString_inj, String.reduceEq, false_and, true_and, false_or, forall_eq_or_imp, forall_eq]
    exact ⟨by simp [fields, Object.keys], settled_value (by simp [fields]) h.kept,
      settled_value (v := .bool accepted) (by simp [fields]) ⟨accepted, rfl⟩⟩
  | catalogRequest | wake | holdStart | holdEnd | audioEnd | abort =>
    simp [type, fields, PyStr.ofString_inj, Object.keys]

section
variable {payload : Object} {name : String}

theorem string_of_kept {maximum : Nat} {s : PyStr} (hget : payload.get? (PyStr.ofString name) = some (.str s))
    (h : TextKept maximum s) : Parse.string payload name maximum = some s :=
  string_some.mpr ⟨s, hget, h.1, h.2.symm⟩

theorem optionalString_of_kept {maximum : Nat} {text : Option PyStr}
    (hget : payload.get? (PyStr.ofString name) = text.map Value.str) (h : OptionKept maximum text) :
    Parse.optionalString payload name maximum = some text := by
  unfold Parse.optionalString
  cases text with
  | none =>
    have hnull : Parse.get payload name = .null := by
      rw [Parse.get, hget]
      rfl
    rw [hnull]
  | some s =>
    have hstr : Parse.get payload name = .str s := get_str.mpr hget
    rw [hstr]
    simp only
    rw [string_of_kept hget (h s rfl), Option.map_some]

theorem digest_of_kept {digest : Option PyStr}
    (hget : payload.get? (PyStr.ofString "request_digest") = digest.map Value.str)
    (h : ∀ d, digest = some d → FieldKind.digest.Fits (.str d)) : Parse.optionalRequestDigest payload = some digest := by
  unfold Parse.optionalRequestDigest
  cases digest with
  | none =>
    have hnull : Parse.get payload "request_digest" = .null := by
      rw [Parse.get, hget]
      rfl
    rw [hnull]
  | some d =>
    have hstr : Parse.get payload "request_digest" = .str d := get_str.mpr hget
    obtain ⟨s, hs, hlen, hchars⟩ := h d rfl
    injection hs with hs
    subst hs
    rw [hstr]
    refine if_pos ⟨hlen, List.all_eq_true.mpr fun c hc => ?_⟩
    simpa using hchars c hc

theorem capabilities_of_kept {texts : List PyStr}
    (hget : payload.get? (PyStr.ofString "capabilities") = some (.list (texts.map .str)))
    (h : texts.length ≤ 16 ∧ (∀ t ∈ texts, TextKept 32 t) ∧ texts.Nodup) :
    Parse.capabilities payload = some texts := by
  obtain ⟨hlen, hkept, hnodup⟩ := h
  have hsame : texts = texts.map PyStr.strip := by
    conv_lhs => rw [← List.map_id texts]
    exact List.map_congr_left fun t ht => (hkept t ht).2.symm
  exact capabilities_some.mpr ⟨texts, by rw [hget]; rfl, hlen, fun t ht => (hkept t ht).1, hsame, hnodup⟩

theorem boundedInt_of_kept {low high : Int} {n : Option Int} (h : ∀ k, n = some k → low ≤ k ∧ k ≤ high) :
    Parse.boundedInt low high (optionalInt n) = some n := by
  cases n with
  | none => rfl
  | some k => exact if_pos (h k rfl)

theorem audioState_of_name (a : Option AudioState) :
    Parse.audioState ((a.map (fun a => Value.str (PyStr.ofString a.name))).getD .null) = some a := by
  cases a with
  | none => rfl
  | some a => cases a <;> simp [AudioState.name, Parse.audioState, PyStr.ofString_inj]

theorem textSource_of_name {source : TextSource}
    (hget : payload.get? (PyStr.ofString "source") = some (.str (PyStr.ofString source.name))) :
    Parse.textSource payload = some source := by
  unfold Parse.textSource
  rw [hget]
  cases source <;> simp [TextSource.name, PyStr.ofString_inj]

theorem gesture_of_name (g : Gesture) : Parse.gesture (PyStr.ofString g.name) = some g := by
  cases g <;> simp [Gesture.name, Parse.gesture, PyStr.ofString_inj]

theorem gesture_name_kept (g : Gesture) : TextKept 32 (PyStr.ofString g.name) := by
  unfold TextKept TextFits
  cases g <;> decide

end

/-- What an accepted message says is read back from its object. -/
theorem ClientMessage.Normal.body {m : ClientMessage} (h : m.Normal) (version : Value) :
    Parse.body m.type (m.toObject version) = some m := by
  generalize hpayload : m.toObject version = payload
  cases m with
  | challengeRequest deviceId =>
    have hdevice : Parse.string payload "device_id" 64 = some deviceId :=
      string_of_kept (by simp [← hpayload, toObject, fields]) h
    simp [type, Parse.body, hdevice]
  | hello deviceId challengeId signature firmwareVersion capabilities =>
    obtain ⟨hdevice, hchallenge, hsignature, hfirmware, hcapabilities⟩ := h
    have hdevice' : Parse.string payload "device_id" 64 = some deviceId :=
      string_of_kept (by simp [← hpayload, toObject, fields]) hdevice
    have hchallenge' : Parse.string payload "challenge_id" 128 = some challengeId :=
      string_of_kept (by simp [← hpayload, toObject, fields]) hchallenge
    have hsignature' : Parse.string payload "signature" 256 = some signature :=
      string_of_kept (by simp [← hpayload, toObject, fields]) hsignature
    have hfirmware' : Parse.optionalString payload "firmware_version" 32 = some firmwareVersion :=
      optionalString_of_kept (by simp [← hpayload, toObject, fields]) hfirmware
    have hcapabilities' : Parse.capabilities payload = some capabilities :=
      capabilities_of_kept (by simp [← hpayload, toObject, fields]) hcapabilities
    simp [type, Parse.body, PyStr.ofString_inj, hdevice', hchallenge', hsignature', hfirmware', hcapabilities']
  | deviceHello firmwareVersion capabilities =>
    obtain ⟨hfirmware, hcapabilities⟩ := h
    have hfirmware' : Parse.optionalString payload "firmware_version" 32 = some firmwareVersion :=
      optionalString_of_kept (by simp [← hpayload, toObject, fields]) hfirmware
    have hcapabilities' : Parse.capabilities payload = some capabilities :=
      capabilities_of_kept (by simp [← hpayload, toObject, fields]) hcapabilities
    simp [type, Parse.body, PyStr.ofString_inj, hfirmware', hcapabilities']
  | textInput text source =>
    have htext : Parse.string payload "text" maxTextLength = some text :=
      string_of_kept (by simp [← hpayload, toObject, fields]) h
    have hsource : Parse.textSource payload = some source :=
      textSource_of_name (by simp [← hpayload, toObject, fields])
    simp [type, Parse.body, PyStr.ofString_inj, htext, hsource]
  | ping requestId =>
    have hrequest : Parse.optionalString payload "request_id" 64 = some requestId :=
      optionalString_of_kept (by simp [← hpayload, toObject, fields]) h
    simp [type, Parse.body, PyStr.ofString_inj, hrequest]
  | deviceStatus audioState batteryPercent wifiRssi =>
    obtain ⟨hbattery, hwifi⟩ := h
    have haudio := audioState_of_name audioState
    have hbattery' := boundedInt_of_kept hbattery
    have hwifi' := boundedInt_of_kept hwifi
    simp [← hpayload, toObject, fields, type, Parse.body, Parse.get, PyStr.ofString_inj, haudio, hbattery', hwifi']
  | gesture g =>
    have hname : Parse.string payload "gesture" 32 = some (PyStr.ofString g.name) :=
      string_of_kept (by simp [← hpayload, toObject, fields]) (gesture_name_kept g)
    simp [type, Parse.body, PyStr.ofString_inj, hname, gesture_of_name]
  | toolCall name arguments callId requestDigest =>
    obtain ⟨hname, harguments, hcall, hdigest⟩ := h
    have hname' : Parse.string payload "name" maxToolNameLength = some name :=
      string_of_kept (by simp [← hpayload, toObject, fields]) hname
    have harguments' : Parse.arguments payload = some arguments :=
      arguments_some.mpr ⟨by simp [← hpayload, toObject, fields], harguments⟩
    have hcall' : Parse.optionalString payload "call_id" 128 = some callId :=
      optionalString_of_kept (by simp [← hpayload, toObject, fields]) hcall
    have hdigest' : Parse.optionalRequestDigest payload = some requestDigest :=
      digest_of_kept (by simp [← hpayload, toObject, fields]) hdigest
    simp [type, Parse.body, PyStr.ofString_inj, hname', harguments', hcall', hdigest']
  | confirm confirmationId accepted =>
    have hid : Parse.string payload "confirmation_id" 128 = some confirmationId :=
      string_of_kept (by simp [← hpayload, toObject, fields]) h
    have haccepted : Parse.accepted (Parse.get payload "accepted") = some accepted := by
      simp [← hpayload, toObject, fields, Parse.get, Parse.accepted]
    simp [type, Parse.body, PyStr.ofString_inj, hid, haccepted]
  | catalogRequest | wake | holdStart | holdEnd | audioEnd | abort => simp [type, Parse.body, PyStr.ofString_inj]

/-- An accepted message is accepted again from its object, as the same message. -/
theorem parse_toObject {m : ClientMessage} (h : m.Normal) {version : Value} (hversion : version.equalsInt 1 = true) :
    parseVersioned (m.toObject version) = some (version, m) := by
  obtain ⟨e, he, htype, hkeys, -⟩ := h.settled
  have hget : Parse.get (m.toObject version) "protocol_version" = version := by
    simp [Parse.get, ClientMessage.toObject, PyStr.ofString_inj]
  have hparse : parseClientMessage (m.toObject version) = some m := by
    refine parse_some.mpr ⟨⟨e, he, ?_, ?_, ?_⟩, by rwa [hget]⟩
    · simp [ClientMessage.toObject, htype]
    · intro k hk
      obtain rfl | rfl | hk : k = PyStr.ofString "type" ∨ k = PyStr.ofString "protocol_version" ∨ k ∈ m.fields.keys := by
        simpa [ClientMessage.toObject, Object.keys] using hk
      · exact Or.inl (by simp [commonFields])
      · exact Or.inl (by simp [commonFields])
      · exact Or.inr (hkeys k hk)
    · rw [← htype]
      exact h.body version
  rw [parseVersioned, hparse, Option.map_some, hget]

/-! ## The whole parser -/

/-- A version that equals 1 without being the integer. -/
def LooseVersion (payload : Object) : Prop :=
  payload.get? (PyStr.ofString "protocol_version") = some (.bool true) ∨
    payload.get? (PyStr.ofString "protocol_version") = some (.float (PyStr.ofString "1.0"))

theorem equalsInt_one {v : Value} :
    v.equalsInt 1 = true ↔ v = .int 1 ∨ v = .bool true ∨ v = .float (PyStr.ofString "1.0") := by
  have htext : Int.repr 1 ++ ".0" = "1.0" := by decide
  cases v with
  | bool b => cases b <;> simp [Value.equalsInt]
  | float r => simp [Value.equalsInt, htext]
  | _ => simp [Value.equalsInt]

/-- The version is the integer, or it is loose. -/
theorem version_cases {payload : Object} :
    (Parse.get payload "protocol_version").equalsInt 1 = true ↔
      payload.get? (PyStr.ofString "protocol_version") = some (.int 1) ∨ LooseVersion payload := by
  unfold Parse.get LooseVersion
  rw [equalsInt_one]
  cases payload.get? (PyStr.ofString "protocol_version") with
  | none => simp
  | some v => simp

/-- Exactly the grammar is accepted, every field of an accepted message is in bounds and stripped, and
    the message is accepted again as itself. -/
def ReadsGrammar (payload : Object) : Prop :=
  ((parseVersioned payload).isSome = true ↔ Grammar payload) ∧
  ∀ version m, parseVersioned payload = some (version, m) →
    (∃ e ∈ messageGrammar, m.type = PyStr.ofString e.1 ∧ (∀ k ∈ m.fields.keys, ∃ f ∈ e.2, k = PyStr.ofString f.name) ∧
      ∀ f ∈ e.2, f.Settled m.fields) ∧
    parseVersioned (m.toObject version) = some (version, m)

/-- The parser reads the grammar unless the version is `true` or `1.0` in a message that is otherwise
    as the table wants it. -/
theorem reads_grammar_unless_loose (payload : Object) :
    ReadsGrammar payload ↔ ¬ (Otherwise payload ∧ LooseVersion payload) := by
  have hsome : (parseVersioned payload).isSome = true ↔
      Otherwise payload ∧
        (payload.get? (PyStr.ofString "protocol_version") = some (.int 1) ∨ LooseVersion payload) := by
    rw [parseVersioned, Option.isSome_map, parse_isSome, version_cases]
  constructor
  · rintro ⟨haccepts, -⟩ ⟨hrest, hloose⟩
    obtain ⟨-, hversion⟩ := haccepts.mp (hsome.mpr ⟨hrest, Or.inr hloose⟩)
    obtain h | h := hloose
    · rw [h] at hversion
      cases hversion
    · rw [h] at hversion
      cases hversion
  · intro hstrict
    refine ⟨?_, ?_⟩
    · rw [hsome]
      constructor
      · rintro ⟨hrest, hversion | hloose⟩
        · exact ⟨hrest, hversion⟩
        · exact absurd ⟨hrest, hloose⟩ hstrict
      · rintro ⟨hrest, hversion⟩
        exact ⟨hrest, Or.inl hversion⟩
    · intro version m h
      obtain ⟨m', hm, hpair⟩ := Option.map_eq_some_iff.mp h
      obtain ⟨rfl, rfl⟩ := Prod.mk.inj hpair
      have hnormal := parse_normal hm
      exact ⟨hnormal.settled, parse_toObject hnormal (parse_some.mp hm).2⟩

/-- A ping whose version is `true` is accepted. -/
theorem true_is_version_one :
    ¬ ReadsGrammar [(PyStr.ofString "type", .str (PyStr.ofString "ping")),
      (PyStr.ofString "protocol_version", .bool true)] := by
  rintro ⟨haccepts, -⟩
  obtain ⟨-, hversion⟩ := haccepts.mp (by decide)
  simp [PyStr.ofString_inj] at hversion

end Pipa.Core
