import Pipa.Lib.JsonEncode
import Pipa.Control.Config

/- The bytes of the control panel's configuration (`tools/control_config.py`):
   `_parse_json_object` on what is read of the file, and `save_control_config` for
   any value.

   `Control.Config` keeps of a file its size and what `json.loads` makes of it.
   `readFile` is that view of the bytes, `saveControlFile_eq` shows that saving
   commutes with it, and so a configuration that has been saved is loaded as it
   was. What a load makes of arbitrary bytes is in `load_outcome`. -/
namespace Pipa.Control
open Pipa.Lib Pipa.Core JsonText

/-- `_parse_json_object`, with the exceptions `load_control_config` catches as `invalid`. -/
def parseJsonObject (py : Interpreter) (raw : Bytes) : Parsed :=
  match decodeUtf8 raw with
  | none => .invalid
  | some text =>
    match loads py (rejectDuplicateFields ControlConfigError.duplicateKeys) text with
    | .ok v => .value v
    | .error .malformed => .invalid
    | .error (.hook _) => .duplicateKeys
    | .error .digits => .raised
    | .error .recursion => .raised

/-- What a load sees of the bytes of the file. -/
def readFile (py : Interpreter) (raw : Bytes) : File := ⟨raw.length, parseJsonObject py raw⟩

/-- `load_control_config`, with a disk that does not fail; `none` is a file that is not there. -/
def loadControlFile (py : Interpreter) (raw : Option Bytes) : Except ControlError ControlConfig :=
  loadControlConfig (raw.map (readFile py)) .none

/-- `save_control_config`, of any value. -/
def saveControlFile (raw : Option Bytes) (fault : WriteFault) (value : Value) :
    Option Bytes × Except ControlError ControlConfig :=
  match validateControlConfig value with
  | .error e => (raw, .error e)
  | .ok validated =>
    match validated.encoded with
    | none => (raw, .error .value)
    | some encoded =>
      if encoded.length > maxControlFileBytes then (raw, .error (.config .tooLarge))
      else match fault with
        | .uncaught => (raw, .error .raised)
        | .caught => (raw, .error (.config .unsaved))
        | .none => (some encoded, .ok validated)

/-! ## What is saved is loaded -/

theorem isDigit_clean {s : PyStr} (h : s.all isDigit = true) : s.Clean := by
  intro c hc
  have hdigit := List.all_eq_true.mp h c hc
  simp only [isDigit, Bool.and_eq_true, decide_eq_true_eq] at hdigit
  simp only [CodePoint.isSurrogate, Bool.and_eq_false_iff, decide_eq_false_iff_not]
  omega

theorem isCommandId_clean {s : PyStr} (h : isCommandId s = true) : s.Clean := by
  have low {c : CodePoint} (hc : c.val ≤ 122) : c.isSurrogate = false := by
    simp only [CodePoint.isSurrogate, Bool.and_eq_false_iff, decide_eq_false_iff_not]
    omega
  cases s with
  | nil => cases h
  | cons c s =>
    simp only [isCommandId, isLetter, isDigit, Bool.and_eq_true, Bool.or_eq_true, List.all_eq_true, decide_eq_true_eq,
      beq_iff_eq] at h
    obtain ⟨⟨hfirst, -⟩, hlater⟩ := h
    intro a ha
    obtain rfl | ha := List.mem_cons.mp ha
    · exact low (by omega)
    · have := hlater a ha
      exact low (by omega)

theorem isApiVersion_clean {s : PyStr} (h : isApiVersion s = true) : s.Clean := by
  cases s with
  | nil => cases h
  | cons c s =>
    simp only [isApiVersion, Bool.and_eq_true, beq_iff_eq] at h
    obtain ⟨⟨⟨⟨⟨⟨⟨hc, -⟩, -⟩, -⟩, hdot⟩, -⟩, -⟩, hminor⟩ := h
    have low {a : CodePoint} (ha : a.val < 0x80) : a.isSurrogate = false := by
      simp only [CodePoint.isSurrogate, Bool.and_eq_false_iff, decide_eq_false_iff_not]
      omega
    have hmajor : PyStr.Clean (s.takeWhile isDigit) := isDigit_clean List.all_takeWhile
    have hrest : PyStr.Clean (s.dropWhile isDigit) := by
      cases hdrop : s.dropWhile isDigit with
      | nil =>
        intro a ha
        cases ha
      | cons d t =>
        rw [hdrop] at hdot hminor
        intro a ha
        obtain rfl | ha := List.mem_cons.mp ha
        · simp only [List.head?_cons, Option.any_some, beq_iff_eq] at hdot
          exact low (by omega)
        · exact isDigit_clean hminor a ha
    rw [← List.takeWhile_append_dropWhile (p := isDigit) (l := s)]
    intro a ha
    obtain rfl | ha := List.mem_cons.mp ha
    · exact low (by omega)
    · exact PyStr.clean_append.mpr ⟨hmajor, hrest⟩ a ha

theorem ControlConfig.Valid.clean {c : ControlConfig} (h : c.Valid) : c.asValue.Clean := by
  have fields (items : List (PyStr × Value)) (names : ∀ e ∈ items, e.1.Clean) (inside : ∀ e ∈ items, e.2.Clean) :
      (Value.dict items).Clean := .dict items names inside
  have hcommands : (commandsValue c.commands).Clean := by
    refine fields _ ?_ ?_
    · intro e he
      obtain ⟨⟨id, p⟩, hp, rfl⟩ := List.mem_map.mp he
      exact isCommandId_clean (h.commands id p (Dict.get?_eq_some.mpr hp)).id
    · intro e he
      obtain ⟨⟨id, p⟩, hp, rfl⟩ := List.mem_map.mp he
      have hvalid := h.commands id p (Dict.get?_eq_some.mpr hp)
      obtain ⟨enabled, phrase⟩ := p
      cases phrase with
      | none => exact fields _ (by simp [PyStr.clean_ofString]) (by simp [Value.Clean.bool])
      | some phrase =>
        obtain ⟨hbounded, -⟩ := hvalid.phrase phrase rfl
        have hphrase : phrase.Clean := by
          exact (validateBoundedText_ok.mp hbounded).2.encodes
        exact fields _ (by simp [PyStr.clean_ofString]) (by simp [Value.Clean.bool, Value.Clean.str _ hphrase])
  have hwhatsapp : c.whatsapp.asValue.Clean := by
    have hmode : c.whatsapp.mode.Clean := by
      rcases h.whatsapp.mode with hmode | hmode
      · rw [hmode]
        exact PyStr.clean_ofString _
      · rw [hmode]
        exact PyStr.clean_ofString _
    have hphone : c.whatsapp.phoneNumberId.Clean := by
      rcases h.whatsapp.phoneNumberId with hphone | hphone
      · rw [hphone]
        exact nofun
      · simp only [isPhoneNumberId, Bool.and_eq_true] at hphone
        exact isDigit_clean hphone.2
    refine fields _ (by simp [PyStr.clean_ofString]) ?_
    simp [Value.Clean.str _ hmode, Value.Clean.str _ hphone, Value.Clean.str _ (isApiVersion_clean h.whatsapp.apiVersion)]
  refine fields _ (by simp [PyStr.clean_ofString]) ?_
  simp [Value.Clean.int, hcommands, hwhatsapp]

/-- A configuration is three levels deep, and its only number is 1. -/
theorem ControlConfig.readable (py : Interpreter) (c : ControlConfig) : Readable py py.maxDepth c.asValue := by
  obtain ⟨d, hd⟩ : ∃ d, py.maxDepth = d + 3 := ⟨py.maxDepth - 3, by have := py.depth_le; omega⟩
  have hone : Readable py (d + 2) (.int 1) := by
    refine .int _ _ ?_
    have hdigits : ((dumpInt 1).filter isDigitChar).length = 1 := by decide
    have := py.digits_le
    omega
  have hpreference (p : CommandPreference) : Readable py (d + 1) p.asValue := by
    obtain ⟨enabled, phrase⟩ := p
    cases phrase with
    | none => exact .dict _ _ (by simp [Object.keys]) (by simp [Readable.bool])
    | some phrase =>
      refine .dict _ _ ?_ (by simp [Readable.bool, Readable.str])
      simp [Object.keys]
  have hcommands : Readable py (d + 2) (commandsValue c.commands) := by
    refine .dict _ _ ?_ ?_
    · have hkeys : Object.keys (c.commands.entries.map (fun e => (e.1, e.2.asValue))) = c.commands.entries.map Prod.fst := by
        simp [Object.keys, Function.comp_def]
      rw [hkeys]
      exact c.commands.nodup
    · intro e he
      obtain ⟨p, -, rfl⟩ := List.mem_map.mp he
      exact hpreference p.2
  have hwhatsapp : Readable py (d + 2) c.whatsapp.asValue := by
    refine .dict _ _ (by simp [Object.keys]) ?_
    simp [Readable.str]
  rw [hd]
  refine .dict _ _ (by simp [Object.keys]) ?_
  simp [hone, hcommands, hwhatsapp]

/-- The text of a valid configuration has a UTF-8 form, and is read as the configuration. -/
theorem ControlConfig.Valid.encoded {c : ControlConfig} (h : c.Valid) (py : Interpreter) :
    ∃ raw, c.encoded = some raw ∧ parseJsonObject py raw = .value c.asValue := by
  have hreadable := c.readable py
  have htext := dumpsIndent_eq hreadable 0
  have hclean : PyStr.Clean (dumpsIndent 0 c.asValue ++ PyStr.ofString "\n") := by
    rw [htext, PyStr.clean_append]
    exact ⟨Layout.indented.clean_write h.clean 0, PyStr.clean_ofString _⟩
  obtain ⟨raw, hraw⟩ := Option.isSome_iff_exists.mp (PyStr.encode_isSome.mpr hclean)
  refine ⟨raw, hraw, ?_⟩
  have hloads : loads py (rejectDuplicateFields ControlConfigError.duplicateKeys)
      (dumpsIndent 0 c.asValue ++ PyStr.ofString "\n") = .ok c.asValue := by
    rw [htext]
    exact loads_write (fun pairs hkeys => by rw [rejectDuplicateFields_eq, if_pos hkeys]) hreadable 0 (by decide)
  unfold parseJsonObject
  simp only [decodeUtf8_encode hraw, hloads]

/-- Of an accepted value that is small enough, the file holds what validation made of it. -/
theorem saveControlFile_cases (py : Interpreter) (raw : Option Bytes) {value : Value} {c : ControlConfig}
    (h : validateControlConfig value = .ok c) : ∃ encoded, c.encoded = some encoded ∧
      parseJsonObject py encoded = .value c.asValue ∧ saveControlFile raw .none value =
        if encoded.length > maxControlFileBytes then (raw, .error (.config .tooLarge)) else (some encoded, .ok c) := by
  obtain ⟨encoded, hencoded, hparse⟩ := (validateControlConfig_ok h).encoded py
  refine ⟨encoded, hencoded, hparse, ?_⟩
  unfold saveControlFile
  simp only [h, hencoded]

/-- Saving commutes with what a load sees of the file. -/
theorem saveControlFile_eq (py : Interpreter) (raw : Option Bytes) (fault : WriteFault) (value : ControlConfig) :
    saveControlConfig (raw.map (readFile py)) fault value =
      ((saveControlFile raw fault value.asValue).1.map (readFile py), (saveControlFile raw fault value.asValue).2) := by
  unfold saveControlConfig saveControlFile
  cases hvalidate : validateControlConfig value.asValue with
  | error e => rfl
  | ok c =>
    obtain ⟨encoded, hencoded, hparse⟩ := (validateControlConfig_ok hvalidate).encoded py
    simp only [hencoded]
    split
    · rfl
    · cases fault with
      | uncaught => rfl
      | caught => rfl
      | none =>
        simp only [Option.map_some, readFile, hparse]

/-! ## How a load ends -/

/-- The settings for WhatsApp are looked at, and their mode cannot be put in a set. -/
def UnhashableMode (fields : Object) : Prop :=
  onlyKeys fields ["version", "commands", "whatsapp"] = true ∧
  ((fields.get? (PyStr.ofString "version")).getD (.int 1)).equalsInt 1 = true ∧
  (∃ commands, validateCommandPreferences ((fields.get? (PyStr.ofString "commands")).getD (.dict [])) = .ok commands) ∧
  ∃ settings, (fields.get? (PyStr.ofString "whatsapp")).getD (.dict []) = .dict settings ∧
    onlyKeys settings ["mode", "phone_number_id", "api_version"] = true ∧
    ((Object.get? settings (PyStr.ofString "mode")).getD (.str (PyStr.ofString "manual"))).hashable = false

/-- The content that `load_control_config` has no answer to: a text whose integers are too long or that is nested
too deep for `json.loads`, or a mode that is a list or an object. -/
def Unanswered (py : Interpreter) (raw : Bytes) : Prop :=
  raw.length ≤ maxControlFileBytes ∧ ∃ text, decodeUtf8 raw = some text ∧
    (loads py (rejectDuplicateFields ControlConfigError.duplicateKeys) text = .error .digits ∨
     loads py (rejectDuplicateFields ControlConfigError.duplicateKeys) text = .error .recursion ∨
     ∃ fields, loads py (rejectDuplicateFields ControlConfigError.duplicateKeys) text = .ok (.dict fields) ∧
       UnhashableMode fields)

theorem validateCommandPreference_error {id : PyStr} {v : Value} {e : ControlError}
    (h : validateCommandPreference id v = .error e) : ∃ e', e = .config e' := by
  unfold validateCommandPreference at h
  split at h
  · split at h
    · exact ⟨_, (Except.error.inj h).symm⟩
    split at h
    · cases h
    · split at h
      · exact ⟨_, (Except.error.inj h).symm⟩
      split at h
      · exact ⟨_, (Except.error.inj h).symm⟩
      · cases h
    · exact ⟨_, (Except.error.inj h).symm⟩
  · exact ⟨_, (Except.error.inj h).symm⟩

theorem validateItems_error {items : List (PyStr × Value)} {d : Dict PyStr CommandPreference} {e : ControlError}
    (h : validateItems d items = .error e) : ∃ e', e = .config e' := by
  induction items generalizing d with
  | nil => cases h
  | cons item items ih =>
    rw [validateItems] at h
    split at h
    · rename_i hitem
      obtain rfl := Except.error.inj h
      exact validateCommandPreference_error hitem
    · exact ih h

theorem validateCommandPreferences_error {v : Value} {e : ControlError} (h : validateCommandPreferences v = .error e) :
    ∃ e', e = .config e' := by
  unfold validateCommandPreferences at h
  split at h
  · split at h
    · exact ⟨_, (Except.error.inj h).symm⟩
    · exact validateItems_error h
  · exact ⟨_, (Except.error.inj h).symm⟩

/-- The settings for WhatsApp are refused in one way, unless their mode cannot be put in a set. -/
theorem validateWhatsappSettings_error {v : Value} {e : ControlError} (h : validateWhatsappSettings v = .error e) :
    (∃ e', e = .config e') ∨ (e = .raised ∧ ∃ settings, v = .dict settings ∧
      onlyKeys settings ["mode", "phone_number_id", "api_version"] = true ∧
      ((Object.get? settings (PyStr.ofString "mode")).getD (.str (PyStr.ofString "manual"))).hashable = false) := by
  unfold validateWhatsappSettings at h
  split at h
  · rename_i settings
    split at h
    · exact Or.inl ⟨_, (Except.error.inj h).symm⟩
    rename_i hkeys
    simp only at h
    split at h
    · rename_i hmode
      exact Or.inr ⟨(Except.error.inj h).symm, settings, rfl, by simpa using hkeys, by simpa using hmode⟩
    split at h
    · split at h
      · cases h
      · exact Or.inl ⟨_, (Except.error.inj h).symm⟩
    · exact Or.inl ⟨_, (Except.error.inj h).symm⟩
  · exact Or.inl ⟨_, (Except.error.inj h).symm⟩

/-- A mode that cannot be put in a set is not refused as the rest is. -/
theorem validateWhatsappSettings_unhashable {settings : Object}
    (hkeys : onlyKeys settings ["mode", "phone_number_id", "api_version"] = true)
    (hmode : ((settings.get? (PyStr.ofString "mode")).getD (.str (PyStr.ofString "manual"))).hashable = false) :
    validateWhatsappSettings (.dict settings) = .error .raised := by
  simp only [validateWhatsappSettings, hkeys, hmode, Bool.not_true, Bool.false_eq_true, if_false, Bool.not_false, if_true]

theorem validateControlConfig_dict (fields : Object) :
    validateControlConfig (.dict fields) =
      if !onlyKeys fields ["version", "commands", "whatsapp"] then .error (.config .config)
      else if !((fields.get? (PyStr.ofString "version")).getD (.int 1)).equalsInt 1 then .error (.config .version)
      else match validateCommandPreferences ((fields.get? (PyStr.ofString "commands")).getD (.dict [])) with
        | .error e => .error e
        | .ok commands =>
          match validateWhatsappSettings ((fields.get? (PyStr.ofString "whatsapp")).getD (.dict [])) with
          | .error e => .error e
          | .ok whatsapp => .ok ⟨commands, whatsapp⟩ := rfl

/-- `validate_control_config` on an object: accepted, refused, or stopped by the mode. -/
theorem validateControlConfig_cases (fields : Object) :
    (validateControlConfig (.dict fields) = .error .raised ∧ UnhashableMode fields) ∨
    (¬ UnhashableMode fields ∧ ((∃ c, validateControlConfig (.dict fields) = .ok c) ∨
      ∃ e, validateControlConfig (.dict fields) = .error (.config e))) := by
  rw [validateControlConfig_dict, UnhashableMode]
  cases hkeys : onlyKeys fields ["version", "commands", "whatsapp"] with
  | false => exact Or.inr ⟨fun h => Bool.false_ne_true h.1, Or.inr ⟨_, rfl⟩⟩
  | true =>
    cases hversion : ((fields.get? (PyStr.ofString "version")).getD (.int 1)).equalsInt 1 with
    | false => exact Or.inr ⟨fun h => Bool.false_ne_true h.2.1, Or.inr ⟨_, rfl⟩⟩
    | true =>
      simp only [Bool.not_true, Bool.false_eq_true, if_false]
      cases hcommands : validateCommandPreferences ((fields.get? (PyStr.ofString "commands")).getD (.dict [])) with
      | error e =>
        obtain ⟨e', rfl⟩ := validateCommandPreferences_error hcommands
        refine Or.inr ⟨?_, Or.inr ⟨e', rfl⟩⟩
        rintro ⟨-, -, ⟨commands, h⟩, -⟩
        cases h
      | ok commands =>
        generalize (fields.get? (PyStr.ofString "whatsapp")).getD (.dict []) = settings
        simp only
        cases hsettings : validateWhatsappSettings settings with
        | ok whatsapp =>
          refine Or.inr ⟨?_, Or.inl ⟨_, rfl⟩⟩
          rintro ⟨-, -, -, settings', rfl, hk, hm⟩
          rw [validateWhatsappSettings_unhashable hk hm] at hsettings
          cases hsettings
        | error e =>
          obtain ⟨e', rfl⟩ | ⟨rfl, settings', rfl, hk, hm⟩ := validateWhatsappSettings_error hsettings
          · refine Or.inr ⟨?_, Or.inr ⟨e', rfl⟩⟩
            rintro ⟨-, -, -, settings', rfl, hk, hm⟩
            rw [validateWhatsappSettings_unhashable hk hm] at hsettings
            cases hsettings
          · exact Or.inl ⟨rfl, trivial, trivial, ⟨commands, rfl⟩, settings', rfl, hk, hm⟩

theorem loadControlFile_some (py : Interpreter) (raw : Bytes) :
    loadControlFile py (some raw) =
      if raw.length > maxControlFileBytes then .error (.config .tooLarge)
      else match parseJsonObject py raw with
        | .invalid => .error (.config .unreadable)
        | .raised => .error .raised
        | .duplicateKeys => .error (.config .duplicateKeys)
        | .value (.dict fields) => validateControlConfig (.dict fields)
        | .value _ => .error (.config .notObject) := rfl

/-- Of any content a load makes a configuration or a `ControlConfigError`, or it is unanswered. -/
theorem load_outcome (py : Interpreter) (raw : Bytes) :
    ((∃ c, loadControlFile py (some raw) = .ok c) ∨ ∃ e, loadControlFile py (some raw) = .error (.config e)) ↔
      ¬ Unanswered py raw := by
  have hload := loadControlFile_some py raw
  have raised (hr : loadControlFile py (some raw) = .error .raised) (hu : Unanswered py raw) :
      ((∃ c, loadControlFile py (some raw) = .ok c) ∨ ∃ e, loadControlFile py (some raw) = .error (.config e)) ↔
        ¬ Unanswered py raw := by
    rw [hr]
    exact iff_of_false (by simp) (not_not_intro hu)
  by_cases hlarge : raw.length > maxControlFileBytes
  · rw [hload, if_pos hlarge]
    exact iff_of_true (Or.inr ⟨_, rfl⟩) (fun hu => absurd hu.1 (Nat.not_le.mpr hlarge))
  rw [if_neg hlarge] at hload
  have hsize := Nat.not_lt.mp hlarge
  unfold parseJsonObject at hload
  cases htext : decodeUtf8 raw with
  | none =>
    rw [hload, htext]
    refine iff_of_true (Or.inr ⟨_, rfl⟩) ?_
    rintro ⟨-, text, h, -⟩
    rw [htext] at h
    cases h
  | some text =>
    simp only [htext] at hload
    -- what `json.loads` does decides the rest
    have other {r : Except (LoadError ControlConfigError) Value}
        (hr : loads py (rejectDuplicateFields ControlConfigError.duplicateKeys) text = r)
        (hdigits : r ≠ .error .digits) (hdepth : r ≠ .error .recursion)
        (hfields : ∀ fields, r = .ok (.dict fields) → ¬ UnhashableMode fields) : ¬ Unanswered py raw := by
      rintro ⟨-, text', htext', h⟩
      obtain rfl := Option.some.inj (htext.symm.trans htext')
      rw [hr] at h
      obtain h | h | ⟨fields, h, hmode⟩ := h
      · exact hdigits h
      · exact hdepth h
      · exact hfields fields h hmode
    cases hparsed : loads py (rejectDuplicateFields ControlConfigError.duplicateKeys) text with
    | error e =>
      simp only [hparsed] at hload
      cases e with
      | malformed =>
        rw [hload]
        exact iff_of_true (Or.inr ⟨_, rfl⟩) (other hparsed (by simp) (by simp) (by simp))
      | hook _ =>
        rw [hload]
        exact iff_of_true (Or.inr ⟨_, rfl⟩) (other hparsed (by simp) (by simp) (by simp))
      | digits => exact raised hload ⟨hsize, text, htext, Or.inl hparsed⟩
      | recursion => exact raised hload ⟨hsize, text, htext, Or.inr (Or.inl hparsed)⟩
    | ok v =>
      simp only [hparsed] at hload
      cases v with
      | dict fields =>
        obtain ⟨hraised, hmode⟩ | ⟨hmode, hanswer⟩ := validateControlConfig_cases fields
        · exact raised (hload.trans hraised) ⟨hsize, text, htext, Or.inr (Or.inr ⟨fields, hparsed, hmode⟩)⟩
        · rw [hload]
          refine iff_of_true hanswer (other hparsed (by simp) (by simp) ?_)
          rintro fields' ⟨⟩
          exact hmode
      | _ =>
        rw [hload]
        exact iff_of_true (Or.inr ⟨_, rfl⟩) (other hparsed (by simp) (by simp) (by simp))

/-! ## The configuration file -/

/-- A load ends in a configuration or a `ControlConfigError`, but for the content left unanswered; what it returns
validation keeps as it is; and an accepted value is saved and loaded as what validation made of it, if it is small
enough. -/
theorem control_config_loads (py : Interpreter) :
    (∀ raw, ((∃ c, loadControlFile py (some raw) = .ok c) ∨
      ∃ e, loadControlFile py (some raw) = .error (.config e)) ↔ ¬ Unanswered py raw) ∧
    (∀ raw c, loadControlFile py raw = .ok c → validateControlConfig c.asValue = .ok c) ∧
    ∀ raw value c, validateControlConfig value = .ok c → ∃ encoded, c.encoded = some encoded ∧
      (encoded.length ≤ maxControlFileBytes →
        saveControlFile raw .none value = (some encoded, .ok c) ∧ loadControlFile py (some encoded) = .ok c) := by
  refine ⟨load_outcome py, ?_, ?_⟩
  · intro raw c hload
    exact (loadControlConfig_ok hload).read
  · intro raw value c hvalidate
    have hvalid := validateControlConfig_ok hvalidate
    obtain ⟨encoded, hencoded, hparse, hsave⟩ := saveControlFile_cases py raw hvalidate
    refine ⟨encoded, hencoded, ?_⟩
    intro hsize
    have hsmall : ¬ encoded.length > maxControlFileBytes := Nat.not_lt.mpr hsize
    refine ⟨by rw [hsave, if_neg hsmall], ?_⟩
    have hread : readFile py encoded = ⟨encoded.length, .value c.asValue⟩ := by rw [readFile, hparse]
    show loadControlConfig (some (readFile py encoded)) .none = .ok c
    rw [hread]
    exact Holds.load ⟨_, hsize, rfl⟩ hvalid

/-- A list as the mode is neither loaded nor refused with a `ControlConfigError`. -/
theorem control_config_mode_list :
    ¬ ∀ raw, (∃ c, loadControlFile Interpreter.default (some raw) = .ok c) ∨
      ∃ e, loadControlFile Interpreter.default (some raw) = .error (.config e) := by
  let text := PyStr.ofString "\x7b\"whatsapp\":\x7b\"mode\":[]\x7d\x7d"
  let settings : Object := [(PyStr.ofString "mode", .list [])]
  let fields : Object := [(PyStr.ofString "whatsapp", .dict settings)]
  have hreadable : Readable Interpreter.default Interpreter.default.maxDepth (.dict fields) := by
    refine .dict 999 _ (by decide) (List.forall_mem_singleton.mpr ?_)
    refine .dict 998 _ (by decide) (List.forall_mem_singleton.mpr ?_)
    exact .list 997 _ nofun
  have hloads : loads Interpreter.default (rejectDuplicateFields ControlConfigError.duplicateKeys) text = .ok (.dict fields) := by
    have hwritten : Layout.compact.write 0 (.dict fields) ++ [] = text := by decide
    rw [← hwritten]
    exact loads_write (fun pairs hkeys => by rw [rejectDuplicateFields_eq, if_pos hkeys]) hreadable 0 rfl
  have hascii : text.Ascii := by decide
  have hunanswered : Unanswered Interpreter.default text.bytes := by
    refine ⟨by decide, text, decodeUtf8_encode hascii.encode, Or.inr (Or.inr ⟨fields, hloads, ?_⟩)⟩
    exact ⟨by decide, by decide, ⟨_, rfl⟩, settings, rfl, by decide, rfl⟩
  intro h
  exact (load_outcome Interpreter.default text.bytes).mp (h text.bytes) hunanswered

end Pipa.Control
