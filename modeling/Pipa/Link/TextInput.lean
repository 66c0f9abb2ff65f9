import Pipa.Control.Config
import Pipa.Core.Runs
import Pipa.Core.Grammar
import Pipa.Firmware.PipaProtocol
import Pipa.Firmware.TextPolicy
import Pipa.Link.Wire

/- A text from the device to the Core: what `sendTextInput` writes, the parser reads
   as a `text_input`, and `_route_transcript` looks at once more. Three policies
   meet the same text, `isSafeDisplayText`, `_string` and `validate_bounded_text`.
   The device counts bytes where the parser counts code points, and its ranges are
   those of the Core but for one, the private use area; only the agent asks for
   more than blanks. -/
namespace Pipa.Link
open Pipa.Lib Pipa.Core
open Pipa.Secure (literal)
open Pipa.Firmware (Json JsonObject PipaProtocol Output isSafeDisplayText isSafeTextSource refused decodeFirst_utf8
  encode_cons safeLoop_iff)

/-! ## The texts -/

/-- U+E000 to U+F8FF. -/
def privateUse (c : CodePoint) : Bool := 0xE000 ≤ c.val && c.val ≤ 0xF8FF

/-- The ranges of `validate_bounded_text` are those of the display and the private use area. -/
theorem forbidden_eq (c : CodePoint) : forbidden c = (refused c.val || privateUse c) := by
  unfold forbidden refused privateUse
  rw [beq_eq_decide]

theorem privateUse_not_space {c : CodePoint} (h : privateUse c = true) : c.isSpace = false := by
  unfold privateUse at h
  unfold CodePoint.isSpace
  simp only [Bool.and_eq_true, decide_eq_true_eq] at h
  simp only [Bool.or_eq_false_iff, Bool.and_eq_false_iff, decide_eq_false_iff_not, beq_eq_false_iff_ne]
  omega

theorem decodeLoop_encode {turns : Nat} {s : PyStr} {text : Bytes} (h : s.encode = some text)
    (hturns : text.length ≤ turns) : decodeLoop turns text = some s := by
  induction s generalizing turns text with
  | nil =>
    obtain rfl := Option.some.inj h
    cases turns with
    | zero => rfl
    | succ turns => rfl
  | cons c s ih =>
    obtain ⟨hc, rest, hrest, rfl⟩ := encode_cons.mp h
    have hpos := List.length_pos_of_ne_nil c.utf8_ne_nil
    rw [List.length_append] at hturns
    cases turns with
    | zero => omega
    | succ turns =>
      obtain ⟨b, tail, hbytes⟩ := List.exists_cons_of_length_pos
        (show 0 < (c.utf8 ++ rest).length by rw [List.length_append]; omega)
      have hfirst := decodeFirst_utf8 c hc rest
      have htail : decodeLoop turns rest = some s := ih hrest (by omega)
      rw [hbytes] at hfirst ⊢
      rw [decodeLoop, hfirst]
      · simp only [dif_pos c.lt, htail, Option.map_some]
      · nofun

/-- The line is decoded to the text that was encoded. -/
theorem decodeUtf8_encode {s : PyStr} {text : Bytes} (h : s.encode = some text) : decodeUtf8 text = some s :=
  decodeLoop_encode h (Nat.le_refl _)

theorem decodeUtf8_literal {t : String} (h : (PyStr.ofString t).Ascii) :
    decodeUtf8 (literal t) = some (PyStr.ofString t) :=
  decodeUtf8_encode h.encode

/-- A text has at least as many bytes as code points. -/
theorem length_le_encode {s : PyStr} {text : Bytes} (h : s.encode = some text) : s.length ≤ text.length := by
  induction s generalizing text with
  | nil => exact Nat.zero_le _
  | cons c s ih =>
    obtain ⟨-, rest, hrest, rfl⟩ := encode_cons.mp h
    have hpos := List.length_pos_of_ne_nil c.utf8_ne_nil
    have hle := ih hrest
    rw [List.length_cons, List.length_append]
    omega

/-! ## The device -/

/-- What `sendTextInput` writes, and that it has checked it. -/
theorem sendTextInput_json {p : PipaProtocol} {text source : Option Bytes} {document : JsonObject}
    (h : Output.json document ∈ p.sendTextInput text source) :
    ∃ (bytes : Bytes) (s : PyStr) (name : TextSource), text = some bytes ∧ s.encode = some bytes ∧
      bytes.length ≤ 4000 ∧ (∀ c ∈ s, refused c.val = false) ∧
      document = PipaProtocol.message "text_input"
        [(literal "text", .text bytes), (literal "source", .text (literal name.name))] := by
  cases text with
  | none => cases h
  | some bytes =>
    unfold PipaProtocol.sendTextInput at h
    simp only at h
    split at h
    · split at h
      · rw [List.mem_singleton] at h
        cases h
      · cases h
    · rename_i hchecked
      simp only [Bool.or_eq_true, Bool.not_eq_true', not_or, Bool.not_eq_false] at hchecked
      obtain ⟨⟨-, hsafe⟩, hsource⟩ := hchecked
      have hsafe' : bytes.length ≤ 4000 ∧ Firmware.safeLoop bytes.length bytes = true := by
        simp only [isSafeDisplayText, Bool.and_eq_true, decide_eq_true_eq] at hsafe
        exact ⟨hsafe.1.2, hsafe.2⟩
      obtain ⟨s, hs, hshown⟩ := (safeLoop_iff (Nat.le_refl _)).mp hsafe'.2
      have hname : ∃ name : TextSource, PipaProtocol.safeSource source = literal name.name := by
        simp only [isSafeTextSource, List.contains_eq_mem, List.mem_cons, List.not_mem_nil, or_false,
          decide_eq_true_eq] at hsource
        obtain h | h | h | h | h := hsource
        · exact ⟨.voice, h⟩
        · exact ⟨.touch, h⟩
        · exact ⟨.mobile, h⟩
        · exact ⟨.debug, h⟩
        · exact ⟨.unknown, h⟩
      obtain ⟨name, hname'⟩ := hname
      refine ⟨bytes, s, name, rfl, hs, hsafe'.1, hshown, ?_⟩
      rw [hname'] at h
      unfold PipaProtocol.sendJson at h
      split at h
      · rw [List.mem_singleton] at h
        cases h
      · rw [List.mem_singleton] at h
        exact Output.json.inj h

/-! ## The parser -/

/-- The object the agent reads. -/
def textInputObject (text : PyStr) (source : TextSource) : Object :=
  [(PyStr.ofString "protocol_version", .int 1), (PyStr.ofString "type", .str (PyStr.ofString "text_input")),
   (PyStr.ofString "text", .str text), (PyStr.ofString "source", .str (PyStr.ofString source.name))]

theorem toItems_textInput {s : PyStr} {bytes : Bytes} (h : s.encode = some bytes) (source : TextSource) :
    toItems (PipaProtocol.message "text_input"
      [(literal "text", .text bytes), (literal "source", .text (literal source.name))]) =
      some (textInputObject s source) := by
  have hsource : decodeUtf8 (literal source.name) = some (PyStr.ofString source.name) := by
    apply decodeUtf8_literal
    cases source <;> decide
  simp only [PipaProtocol.message, toItems, toValue, decodeUtf8_encode h, hsource,
    decodeUtf8_literal (show (PyStr.ofString "protocol_version").Ascii by decide),
    decodeUtf8_literal (show (PyStr.ofString "type").Ascii by decide),
    decodeUtf8_literal (show (PyStr.ofString "text_input").Ascii by decide),
    decodeUtf8_literal (show (PyStr.ofString "text").Ascii by decide),
    decodeUtf8_literal (show (PyStr.ofString "source").Ascii by decide), Option.map_some]
  rfl

/-- The parser takes the text when something is left of it without outer blanks. -/
theorem parse_textInput {s : PyStr} {source : TextSource} {m : ClientMessage} (hlength : s.length ≤ 4000)
    (hchars : ∀ c ∈ s, 0x20 ≤ c.val ∧ c.val ≠ 0x7F) :
    parseClientMessage (textInputObject s source) = some m ↔
      s.isBlank = false ∧ m = .textInput s.strip source := by
  have htype : Object.get? (textInputObject s source) (PyStr.ofString "type") =
      some (.str (PyStr.ofString "text_input")) := by
    simp [textInputObject, PyStr.ofString_inj]
  have htext : Object.get? (textInputObject s source) (PyStr.ofString "text") = some (.str s) := by
    simp [textInputObject, PyStr.ofString_inj]
  have hsource : Parse.textSource (textInputObject s source) = some source :=
    textSource_of_name (by simp [textInputObject, PyStr.ofString_inj])
  have hbody : Parse.body (PyStr.ofString "text_input") (textInputObject s source) = some m ↔
      s.isBlank = false ∧ m = .textInput s.strip source := by
    simp only [Parse.body, PyStr.ofString_inj, String.reduceEq, if_false, if_true]
    constructor
    · intro h
      obtain ⟨t, ht, h⟩ := Option.bind_eq_some_iff.mp h
      obtain ⟨source', hsource', h⟩ := Option.bind_eq_some_iff.mp h
      obtain ⟨s', hs', hfits, rfl⟩ := string_some.mp ht
      obtain rfl : s = s' := by simpa [htext] using hs'
      rw [hsource] at hsource'
      obtain rfl := Option.some.inj hsource'
      exact ⟨by simpa [PyStr.isBlank] using hfits.1, (Option.some.inj h).symm⟩
    · rintro ⟨hblank, rfl⟩
      have hfits : TextFits maxTextLength s := ⟨by simpa [PyStr.isBlank] using hblank, hlength, hchars⟩
      rw [string_some.mpr ⟨s, htext, hfits, rfl⟩, hsource]
      rfl
  constructor
  · intro h
    obtain ⟨⟨e, -, he, -, hm⟩, -⟩ := parse_some.mp h
    obtain hname : "text_input" = e.1 := by simpa [htype] using he
    rw [← hname] at hm
    exact hbody.mp hm
  · intro h
    have hknown : ("text_input", [⟨"text", .text 4000, .required⟩,
        ⟨"source", .word ["voice", "touch", "mobile", "debug", "unknown"], .defaulted⟩]) ∈
          messageGrammar := by
      simp [messageGrammar]
    refine parse_some.mpr ⟨⟨_, hknown, htype, ?_, hbody.mpr h⟩, ?_⟩
    · intro k hk
      simp only [textInputObject, Object.keys, List.map_cons, List.map_nil, List.mem_cons, List.not_mem_nil,
        or_false] at hk
      obtain rfl | rfl | rfl | rfl := hk
      · exact Or.inl (by simp [commonFields])
      · exact Or.inl (by simp [commonFields])
      · exact Or.inr ⟨_, List.mem_cons_self, rfl⟩
      · exact Or.inr ⟨_, List.mem_cons_of_mem _ List.mem_cons_self, rfl⟩
    · simp [Parse.get, textInputObject, Value.equalsInt]

/-! ## The Core -/

/-- The answer holds an error with this code. -/
def Refuses (o : Outcome) (code : ErrorCode) : Prop :=
  ∃ messages, o.result = .ok messages ∧ ∃ text, ServerMessage.error code text ∈ messages

section
variable {ω : Type} {core : PipaCore ω} {st : State} {w : ω} {now : Int} {token sid : PyStr} {s : DeviceSession}

theorem refuses_finish {st' : State} {s' : DeviceSession} {u : UiState} {caption : Option PyStr}
    {messages : List ServerMessage} {events : List Event} {code : ErrorCode} :
    Refuses (PipaCore.finish st' sid s' u caption messages events) code ↔
      ∃ text, .error code text ∈ messages := by
  constructor
  · rintro ⟨_, hok, text, hmem⟩
    obtain rfl := Except.ok.inj hok
    obtain h | h := List.mem_append.mp hmem
    · exact ⟨text, h⟩
    · rw [List.mem_singleton] at h
      cases h
  · rintro ⟨text, h⟩
    exact ⟨_, rfl, text, List.mem_append_left _ h⟩

/-- A tool may fail, but not for its transcript. -/
theorem runTool_transcript {tool : PyStr} {arguments : Object} {callId digest : Option PyStr} :
    ¬ Refuses (core.runTool st w now token sid s tool arguments callId digest) .invalidTranscript := by
  unfold PipaCore.runTool
  simp only
  split
  · simp only [PipaCore.runMemory, Bool.false_eq_true, if_false]
    split
    · simp [refuses_finish, errorMessage]
    · simp [refuses_finish, deviceToolResult]
  split
  · simp [PipaCore.runMemory, refuses_finish, deviceToolResult]
  split
  · simp [refuses_finish, errorMessage]
  · unfold PipaCore.answerInvocation
    simp only
    split
    · split
      · simp [refuses_finish, errorMessage]
      · simp [refuses_finish, errorMessage]
    · simp [refuses_finish]
    · simp [refuses_finish, deviceToolResult]

/-- `invalid_transcript` is the answer to a text that is no bounded text, and to no other. -/
theorem routeTranscript_refuses {transcript : PyStr} :
    Refuses (core.routeTranscript st w now token sid s transcript) .invalidTranscript ↔
      validateBoundedText transcript 4000 ≠ .ok transcript := by
  unfold PipaCore.routeTranscript
  cases hbounded : validateBoundedText transcript 4000 with
  | error e => simp [refuses_finish, errorMessage]
  | ok bounded =>
    obtain rfl := PipaCore.validateBoundedText_eq hbounded
    refine iff_of_false ?_ (fun h => h rfl)
    simp only
    split
    · rintro ⟨_, h, -⟩
      cases h
    · simp [refuses_finish, errorMessage]
    · exact runTool_transcript

end

/-- A text the device has checked is a bounded text for the Core, with or without its outer blanks, where it is
more than blanks and has no private characters. -/
theorem validateBoundedText_checked {s : PyStr} {bytes : Bytes} (hs : s.encode = some bytes)
    (hlength : bytes.length ≤ 4000) (hshown : ∀ c ∈ s, refused c.val = false) (hblank : s.isBlank = false) :
    validateBoundedText s.strip 4000 = .ok s.strip ↔ ∀ c ∈ s, privateUse c = false := by
  constructor
  · intro h c hc
    rw [← Bool.not_eq_true]
    intro hprivate
    have hmem := mem_strip hc (privateUse_not_space hprivate)
    have hallowed := (validateBoundedText_ok.mp h).2.allowed c hmem
    rw [forbidden_eq, hprivate, Bool.or_true] at hallowed
    cases hallowed
  · intro hpublic
    have hallowed : ∀ c ∈ s, forbidden c = false := by
      intro c hc
      rw [forbidden_eq, hshown c hc, hpublic c hc]
      rfl
    obtain ⟨hencodes, rfl⟩ := PyStr.encode_eq_some.mp hs
    have hwhole : validateBoundedText s 4000 = .ok s :=
      validateBoundedText_ok.mpr ⟨rfl, hblank, hencodes, by omega, hlength, hallowed⟩
    exact Control.validateBoundedText_strip hwhole hblank

/-! ## From one to the other -/

/-- The parser reads a text input in the document, and no Core in no state answers its text with
`invalid_transcript`. -/
def Understood (document : JsonObject) : Prop :=
  ∃ transcript source, parse document = some (.textInput transcript source) ∧
    ∀ (ω : Type) (core : PipaCore ω) (st : State) (w : ω) (now : Int) (token sid : PyStr) (s : DeviceSession),
      ¬ Refuses (core.routeTranscript st w now token sid s transcript) .invalidTranscript

/-- A text the device has checked is understood exactly where it is more than blanks and keeps out of the private
use area. -/
theorem understood_iff {s : PyStr} {bytes : Bytes} (source : TextSource) (hs : s.encode = some bytes)
    (hlength : bytes.length ≤ 4000) (hshown : ∀ c ∈ s, refused c.val = false) :
    Understood (PipaProtocol.message "text_input"
      [(literal "text", .text bytes), (literal "source", .text (literal source.name))]) ↔
      s.isBlank = false ∧ ∀ c ∈ s, privateUse c = false := by
  have hchars : ∀ c ∈ s, 0x20 ≤ c.val ∧ c.val ≠ 0x7F := by
    intro c hc
    have hc' := hshown c hc
    simp only [refused, Bool.or_eq_false_iff, Bool.and_eq_false_iff, decide_eq_false_iff_not] at hc'
    omega
  have hparse (m : ClientMessage) : parse (PipaProtocol.message "text_input"
      [(literal "text", .text bytes), (literal "source", .text (literal source.name))]) = some m ↔
        s.isBlank = false ∧ m = .textInput s.strip source := by
    rw [parse, toItems_textInput hs, Option.bind_some]
    exact parse_textInput (Nat.le_trans (length_le_encode hs) hlength) hchars
  constructor
  · rintro ⟨transcript, source', hread, hanswers⟩
    obtain ⟨hblank, hm⟩ := (hparse _).mp hread
    obtain ⟨rfl, rfl⟩ := ClientMessage.textInput.inj hm
    refine ⟨hblank, (validateBoundedText_checked hs hlength hshown hblank).mp ?_⟩
    by_contra hne
    -- any Core answers it so: the text is looked at before anything else
    exact hanswers Unit lockCore State.initial () 0 [] [] { sessionId := [], deviceId := [], connectedAt := 0 }
      (routeTranscript_refuses.mpr hne)
  · rintro ⟨hblank, hpublic⟩
    refine ⟨s.strip, source, (hparse _).mpr ⟨hblank, rfl⟩, ?_⟩
    intro ω core st w now token sid session hrefused
    exact routeTranscript_refuses.mp hrefused ((validateBoundedText_checked hs hlength hshown hblank).mpr hpublic)

/-- Whatever the device sends as a text input is UTF-8, and is understood exactly where it is more than blanks and
keeps out of the private use area. -/
theorem text_input_understood_iff (p : PipaProtocol) (text source : Option Bytes) (document : JsonObject)
    (hsent : Output.json document ∈ p.sendTextInput text source) :
    ∃ (s : PyStr) (bytes : Bytes), text = some bytes ∧ s.encode = some bytes ∧
      (Understood document ↔ s.isBlank = false ∧ ∀ c ∈ s, privateUse c = false) := by
  obtain ⟨bytes, s, name, htext, hs, hlength, hshown, rfl⟩ := sendTextInput_json hsent
  exact ⟨s, bytes, htext, hs, understood_iff name hs hlength hshown⟩

/-- The document of a text said to the device. -/
def spoken (text : String) : JsonObject :=
  PipaProtocol.message "text_input"
    [(literal "text", .text (literal text)), (literal "source", .text (literal "voice"))]

theorem text_input_understood_iff_hello :
    ∃ (s : PyStr) (bytes : Bytes), some (literal "hola") = some bytes ∧ s.encode = some bytes ∧
      (Understood (spoken "hola") ↔ s.isBlank = false ∧ ∀ c ∈ s, privateUse c = false) :=
  text_input_understood_iff { authenticated := true } (some (literal "hola")) (some (literal "voice"))
    (spoken "hola") (List.mem_singleton.mpr rfl)

/-- A space is a text for the device, and no message for the agent. -/
theorem blank_text_not_understood :
    ¬ ∀ (p : PipaProtocol) (text source : Option Bytes) (document : JsonObject),
      Output.json document ∈ p.sendTextInput text source → Understood document := by
  intro h
  have hsent : Output.json (spoken " ") ∈
      ({ authenticated := true } : PipaProtocol).sendTextInput (some (literal " ")) (some (literal "voice")) :=
    List.mem_singleton.mpr rfl
  have hunderstood := h _ _ _ _ hsent
  have hiff := (understood_iff .voice (show (PyStr.ofString " ").encode = some (literal " ") from rfl) (by decide)
    (by decide)).mp hunderstood
  exact absurd hiff.1 (by decide)

end Pipa.Link
