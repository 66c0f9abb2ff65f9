import Pipa.Core.Protocol

/- The configuration of the control panel (`tools/control_config.py`): preferences
   for commands and settings for WhatsApp, kept in one JSON file that every update
   reads, changes and writes back.

   What a load sees of the file is its size and what `json.loads` makes of it, so
   that is what the model keeps of it; `json.loads` gives back what `json.dumps`
   wrote. Every access to the disk comes with a `Fault`: how it fails, if it does. -/
namespace Pipa.Control
open Pipa.Lib Pipa.Core

/-! ## Values -/

def maxControlFileBytes : Nat := 64 * 1024
def maxCommandOverrides : Nat := 64

structure CommandPreference where
  enabled : Bool
  phrase : Option PyStr
  deriving DecidableEq

structure WhatsappSettings where
  mode : PyStr
  phoneNumberId : PyStr
  apiVersion : PyStr
  deriving DecidableEq

/-- The dictionary with `version`, `commands` and `whatsapp`; the version is always 1. -/
structure ControlConfig where
  commands : Dict PyStr CommandPreference
  whatsapp : WhatsappSettings

/-- `_DEFAULT_CONFIG`. -/
def defaultConfig : ControlConfig :=
  ⟨Dict.empty, ⟨PyStr.ofString "manual", [], PyStr.ofString "v23.0"⟩⟩

def CommandPreference.asValue (p : CommandPreference) : Value :=
  .dict ((PyStr.ofString "enabled", .bool p.enabled) ::
    p.phrase.toList.map (fun phrase => (PyStr.ofString "phrase", .str phrase)))

def WhatsappSettings.asValue (w : WhatsappSettings) : Value :=
  .dict [(PyStr.ofString "mode", .str w.mode), (PyStr.ofString "phone_number_id", .str w.phoneNumberId),
    (PyStr.ofString "api_version", .str w.apiVersion)]

def commandsValue (commands : Dict PyStr CommandPreference) : Value :=
  .dict (commands.entries.map (fun e => (e.1, e.2.asValue)))

def ControlConfig.asValue (c : ControlConfig) : Value :=
  .dict [(PyStr.ofString "version", .int 1), (PyStr.ofString "commands", commandsValue c.commands),
    (PyStr.ofString "whatsapp", c.whatsapp.asValue)]

/-! ## Errors -/

inductive ControlConfigError where
  | duplicateKeys | notObject | commands | phrase | whatsapp | config | version | tooLarge | unreadable | unsaved
  | token | vault | tokenUnsaved | tokenFromEnvironment | tokenUndeleted
  deriving DecidableEq

def ControlConfigError.message : ControlConfigError → String
  | .duplicateKeys => "La configuración del panel contiene claves duplicadas."
  | .notObject => "La configuración del panel no es un objeto."
  | .commands => "La configuración de comandos no es válida."
  | .phrase => "La frase del comando no es válida."
  | .whatsapp => "La configuración de WhatsApp no es válida."
  | .config => "La configuración del panel no es válida."
  | .version => "La versión de configuración del panel no es compatible."
  | .tooLarge => "La configuración del panel es demasiado grande."
  | .unreadable => "No se pudo leer la configuración del panel."
  | .unsaved => "No se pudo guardar la configuración del panel."
  | .token => "El token de WhatsApp no es válido."
  | .vault => "El almacén seguro de Windows no está disponible."
  | .tokenUnsaved => "No se pudo guardar el token en Credenciales de Windows."
  | .tokenFromEnvironment => "El token procede del entorno y no se puede borrar desde el panel."
  | .tokenUndeleted => "No se pudo borrar el token de Credenciales de Windows."

/-- A `ControlConfigError`, another `ValueError`, or an exception that no route expects. -/
inductive ControlError where
  | config (e : ControlConfigError)
  | value
  | raised
  deriving DecidableEq

/-! ## Validation -/

def isDigit (c : CodePoint) : Bool := 48 ≤ c.val && c.val ≤ 57

def isLetter (c : CodePoint) : Bool := (97 ≤ c.val && c.val ≤ 122) || (65 ≤ c.val && c.val ≤ 90)

/-- `_COMMAND_ID`: `^[A-Za-z][A-Za-z0-9_-]{0,63}$`. -/
def isCommandId : PyStr → Bool
  | [] => false
  | c :: s => isLetter c && s.length ≤ 63 && s.all (fun c => isLetter c || isDigit c || c.val == 45 || c.val == 95)

/-- `_PHONE_NUMBER_ID`: `^[0-9]{5,32}$`. -/
def isPhoneNumberId (s : PyStr) : Bool := 5 ≤ s.length && s.length ≤ 32 && s.all isDigit

/-- `_API_VERSION`: `^v[1-9][0-9]{0,2}\.[0-9]{1,2}$`. -/
def isApiVersion : PyStr → Bool
  | [] => false
  | c :: s =>
    let major := s.takeWhile isDigit
    let minor := (s.dropWhile isDigit).drop 1
    c.val == 118 && 1 ≤ major.length && major.length ≤ 3 && major.head?.any (·.val ≠ 48) &&
      (s.dropWhile isDigit).head?.any (·.val == 46) && 1 ≤ minor.length && minor.length ≤ 2 && minor.all isDigit

/-- `set(fields) - allowed` is empty. -/
def onlyKeys (fields : Object) (allowed : List String) : Bool :=
  fields.keys.all (fun k => allowed.any (fun a => PyStr.ofString a = k))

/-- One entry of `_validate_command_preferences`. -/
def validateCommandPreference (commandId : PyStr) (preference : Value) : Except ControlError CommandPreference :=
  match preference with
  | .dict fields =>
    if !isCommandId commandId || !onlyKeys fields ["enabled", "phrase"] then .error (.config .commands)
    else match (Object.get? fields (PyStr.ofString "enabled")).getD (.bool true),
        (Object.get? fields (PyStr.ofString "phrase")).getD .null with
      | .bool enabled, .null => .ok ⟨enabled, none⟩
      | .bool enabled, .str phrase =>
        match validateBoundedText phrase 256 with
        | .error _ => .error (.config .phrase)
        | .ok phrase =>
          if phrase.strip.isEmpty then .error (.config .phrase) else .ok ⟨enabled, some phrase.strip⟩
      | _, _ => .error (.config .commands)
  | _ => .error (.config .commands)

/-- The loop of `_validate_command_preferences`. -/
def validateItems (result : Dict PyStr CommandPreference) :
    List (PyStr × Value) → Except ControlError (Dict PyStr CommandPreference)
  | [] => .ok result
  | (commandId, preference) :: items =>
    match validateCommandPreference commandId preference with
    | .error e => .error e
    | .ok normalized => validateItems (result.set commandId normalized) items

/-- `_validate_command_preferences`. -/
def validateCommandPreferences (value : Value) : Except ControlError (Dict PyStr CommandPreference) :=
  match value with
  | .dict items =>
    if items.length > maxCommandOverrides then .error (.config .commands) else validateItems Dict.empty items
  | _ => .error (.config .commands)

/-- `_validate_whatsapp_settings`; a mode that cannot be looked up in a set raises a `TypeError`. -/
def validateWhatsappSettings (value : Value) : Except ControlError WhatsappSettings :=
  match value with
  | .dict fields =>
    if !onlyKeys fields ["mode", "phone_number_id", "api_version"] then .error (.config .whatsapp)
    else
      let mode := (Object.get? fields (PyStr.ofString "mode")).getD (.str (PyStr.ofString "manual"))
      if !mode.hashable then .error .raised
      else match mode, (Object.get? fields (PyStr.ofString "phone_number_id")).getD (.str []),
          (Object.get? fields (PyStr.ofString "api_version")).getD (.str (PyStr.ofString "v23.0")) with
        | .str mode, .str phoneNumberId, .str apiVersion =>
          if (mode = PyStr.ofString "manual" ∨ mode = PyStr.ofString "cloud_api") ∧
              (phoneNumberId = [] ∨ isPhoneNumberId phoneNumberId = true) ∧ isApiVersion apiVersion = true then
            .ok ⟨mode, phoneNumberId, apiVersion⟩
          else .error (.config .whatsapp)
        | _, _, _ => .error (.config .whatsapp)
  | _ => .error (.config .whatsapp)

/-- `validate_control_config`. -/
def validateControlConfig (value : Value) : Except ControlError ControlConfig :=
  match value with
  | .dict fields =>
    if !onlyKeys fields ["version", "commands", "whatsapp"] then .error (.config .config)
    else if !((Object.get? fields (PyStr.ofString "version")).getD (.int 1)).equalsInt 1 then
      .error (.config .version)
    else match validateCommandPreferences ((Object.get? fields (PyStr.ofString "commands")).getD (.dict [])) with
      | .error e => .error e
      | .ok commands =>
        match validateWhatsappSettings ((Object.get? fields (PyStr.ofString "whatsapp")).getD (.dict [])) with
        | .error e => .error e
        | .ok whatsapp => .ok ⟨commands, whatsapp⟩
  | _ => .error (.config .config)

/-! ## The file -/

/-- What `json.loads` makes of a file: `invalid` for bytes it cannot decode or parse, `raised` for an
exception that `load_control_config` does not catch. -/
inductive Parsed where
  | value (v : Value)
  | duplicateKeys
  | invalid
  | raised

structure File where
  size : Nat
  content : Parsed

/-- How an access to the disk fails. Reading: the file is gone when it is opened, an `OSError` that
is caught, one that is not. Writing: an `OSError` of `mkdir`, which is not caught, or a later one. -/
inductive ReadFault where
  | none | vanished | caught | uncaught
  deriving DecidableEq

inductive WriteFault where
  | none | caught | uncaught
  deriving DecidableEq

/-- `load_control_config`. -/
def loadControlConfig (file : Option File) (fault : ReadFault) : Except ControlError ControlConfig :=
  match file, fault with
  | _, .uncaught => .error .raised
  | none, _ => .ok defaultConfig
  | some _, .vanished => .ok defaultConfig
  | some _, .caught => .error (.config .unreadable)
  | some file, .none =>
    if file.size > maxControlFileBytes then .error (.config .tooLarge)
    else match file.content with
      | .invalid => .error (.config .unreadable)
      | .raised => .error .raised
      | .duplicateKeys => .error (.config .duplicateKeys)
      | .value (.dict fields) => validateControlConfig (.dict fields)
      | .value _ => .error (.config .notObject)

/-- The bytes that are written. -/
def ControlConfig.encoded (c : ControlConfig) : Option Bytes :=
  PyStr.encode (dumpsIndent 0 c.asValue ++ PyStr.ofString "\n")

/-- `save_control_config`: nothing is written unless all of it is. -/
def saveControlConfig (file : Option File) (fault : WriteFault) (value : ControlConfig) :
    Option File × Except ControlError ControlConfig :=
  match validateControlConfig value.asValue with
  | .error e => (file, .error e)
  | .ok validated =>
    match validated.encoded with
    | none => (file, .error .value)
    | some encoded =>
      if encoded.length > maxControlFileBytes then (file, .error (.config .tooLarge))
      else match fault with
        | .uncaught => (file, .error .raised)
        | .caught => (file, .error (.config .unsaved))
        | .none => (some ⟨encoded.length, .value validated.asValue⟩, .ok validated)

/-! ## Validated configurations -/

/-- A preference as validation leaves it. -/
structure CommandPreference.Valid (commandId : PyStr) (p : CommandPreference) : Prop where
  id : isCommandId commandId = true
  phrase : ∀ phrase, p.phrase = some phrase → validateBoundedText phrase 256 = .ok phrase ∧ phrase.strip = phrase

structure WhatsappSettings.Valid (w : WhatsappSettings) : Prop where
  mode : w.mode = PyStr.ofString "manual" ∨ w.mode = PyStr.ofString "cloud_api"
  phoneNumberId : w.phoneNumberId = [] ∨ isPhoneNumberId w.phoneNumberId = true
  apiVersion : isApiVersion w.apiVersion = true

structure ControlConfig.Valid (c : ControlConfig) : Prop where
  commands : ∀ id p, c.commands.get? id = some p → p.Valid id
  size : c.commands.size ≤ maxCommandOverrides
  whatsapp : c.whatsapp.Valid

/-- A bounded text is bounded without the space around it, unless nothing is left. -/
theorem validateBoundedText_strip {s t : PyStr} {n : Nat} (h : validateBoundedText s n = .ok t)
    (hne : t.strip.isEmpty = false) : validateBoundedText t.strip n = .ok t.strip := by
  obtain ⟨rfl, hbounded⟩ := validateBoundedText_ok.mp h
  have hsub := t.strip_infix.sublist.subset
  have hlength : t.strip.bytes.length ≤ t.bytes.length := by
    obtain ⟨left, right, hsplit⟩ := t.strip_infix
    have hbytes := congrArg (fun s => (PyStr.bytes s).length) hsplit
    simp only [PyStr.bytes_append, List.length_append] at hbytes
    omega
  refine validateBoundedText_ok.mpr ⟨rfl, ?_, ?_, hbounded.positive, hlength.trans hbounded.size, ?_⟩
  · rw [PyStr.isBlank, PyStr.strip_strip, hne]
  · exact fun c hc => hbounded.encodes c (hsub hc)
  · exact fun c hc => hbounded.allowed c (hsub hc)

theorem validateCommandPreference_ok {id : PyStr} {v : Value} {p : CommandPreference}
    (h : validateCommandPreference id v = .ok p) : p.Valid id := by
  unfold validateCommandPreference at h
  split at h
  · split at h
    · cases h
    rename_i hkeys
    have hid : isCommandId id = true := by
      simp only [Bool.or_eq_true, not_or, Bool.not_eq_true', Bool.not_eq_false] at hkeys
      exact hkeys.1
    split at h
    · obtain rfl := Except.ok.inj h
      exact ⟨hid, fun phrase hphrase => by cases hphrase⟩
    · split at h
      · cases h
      rename_i hbounded
      split at h
      · cases h
      rename_i hne
      obtain rfl := Except.ok.inj h
      refine ⟨hid, ?_⟩
      intro phrase hphrase
      obtain rfl := Option.some.inj hphrase
      exact ⟨validateBoundedText_strip hbounded (by simpa using hne), PyStr.strip_strip _⟩
    · cases h
  · cases h

theorem validateCommandPreference_unnamed (id : PyStr) (enabled : Bool) :
    validateCommandPreference id (CommandPreference.asValue ⟨enabled, none⟩) =
      if !isCommandId id || !true then .error (.config .commands) else .ok ⟨enabled, none⟩ := rfl

theorem validateCommandPreference_phrase (id : PyStr) (enabled : Bool) (phrase : PyStr) :
    validateCommandPreference id (CommandPreference.asValue ⟨enabled, some phrase⟩) =
      if !isCommandId id || !true then .error (.config .commands)
      else match validateBoundedText phrase 256 with
        | .error _ => .error (.config .phrase)
        | .ok phrase =>
          if phrase.strip.isEmpty then .error (.config .phrase) else .ok ⟨enabled, some phrase.strip⟩ := rfl

/-- A valid preference is read back as it is. -/
theorem CommandPreference.Valid.read {id : PyStr} {p : CommandPreference} (h : p.Valid id) :
    validateCommandPreference id p.asValue = .ok p := by
  obtain ⟨enabled, phrase⟩ := p
  cases phrase with
  | none =>
    rw [validateCommandPreference_unnamed, h.id]
    rfl
  | some phrase =>
    obtain ⟨hbounded, hstrip⟩ := h.phrase phrase rfl
    have hne : phrase.isEmpty = false := by
      cases phrase with
      | nil => cases hbounded
      | cons c s => rfl
    rw [validateCommandPreference_phrase, h.id, hbounded]
    simp only [Bool.not_true, Bool.or_self, Bool.false_eq_true, if_false, hstrip, hne]

theorem validateWhatsappSettings_ok {v : Value} {w : WhatsappSettings} (h : validateWhatsappSettings v = .ok w) :
    w.Valid := by
  unfold validateWhatsappSettings at h
  split at h
  · split at h
    · cases h
    simp only at h
    split at h
    · cases h
    split at h
    · split at h
      · rename_i hvalid
        obtain rfl := Except.ok.inj h
        exact ⟨hvalid.1, hvalid.2.1, hvalid.2.2⟩
      · cases h
    · cases h
  · cases h

theorem WhatsappSettings.validate_eq (w : WhatsappSettings) : validateWhatsappSettings w.asValue =
    if (w.mode = PyStr.ofString "manual" ∨ w.mode = PyStr.ofString "cloud_api") ∧
        (w.phoneNumberId = [] ∨ isPhoneNumberId w.phoneNumberId = true) ∧ isApiVersion w.apiVersion = true then
      .ok w
    else .error (.config .whatsapp) := rfl

theorem WhatsappSettings.Valid.read {w : WhatsappSettings} (h : w.Valid) :
    validateWhatsappSettings w.asValue = .ok w := by
  rw [w.validate_eq, if_pos ⟨h.mode, h.phoneNumberId, h.apiVersion⟩]

theorem validateItems_ok {items : List (PyStr × Value)} {d d' : Dict PyStr CommandPreference}
    (hd : ∀ id p, d.get? id = some p → p.Valid id) (h : validateItems d items = .ok d') :
    (∀ id p, d'.get? id = some p → p.Valid id) ∧ d'.size ≤ d.size + items.length := by
  induction items generalizing d with
  | nil =>
    obtain rfl := Except.ok.inj h
    exact ⟨hd, Nat.le_refl _⟩
  | cons e items ih =>
    obtain ⟨commandId, preference⟩ := e
    simp only [validateItems] at h
    split at h
    · cases h
    rename_i normalized hnormalized
    have hset : ∀ id p, (d.set commandId normalized).get? id = some p → p.Valid id := by
      intro id p hp
      obtain ⟨rfl, rfl⟩ | ⟨-, hp⟩ := Dict.get?_set_some.mp hp
      · exact validateCommandPreference_ok hnormalized
      · exact hd id p hp
    obtain ⟨hvalid, hsize⟩ := ih hset h
    have hone := d.size_set_le commandId normalized
    refine ⟨hvalid, ?_⟩
    rw [List.length_cons]
    omega

/-- Valid entries under new keys are read back behind those that are there. -/
theorem validateItems_read {entries : List (PyStr × CommandPreference)} {d d' : Dict PyStr CommandPreference}
    (hvalid : ∀ e ∈ entries, e.2.Valid e.1) (hd' : d'.entries = d.entries ++ entries) :
    validateItems d (entries.map (fun e => (e.1, e.2.asValue))) = .ok d' := by
  induction entries generalizing d with
  | nil =>
    rw [List.append_nil] at hd'
    exact congrArg Except.ok (Dict.ext_entries hd'.symm)
  | cons e entries ih =>
    have hnew : d.get? e.1 = none := by
      rw [Dict.get?_eq_none]
      intro v hmem
      have hnodup := d'.nodup
      rw [hd', List.map_append, List.map_cons] at hnodup
      exact (List.nodup_append.mp hnodup).2.2 e.1 (List.mem_map.mpr ⟨_, hmem, rfl⟩) e.1 List.mem_cons_self rfl
    simp only [List.map_cons, validateItems, (hvalid e List.mem_cons_self).read]
    refine ih (fun e' he' => hvalid e' (List.mem_cons_of_mem e he')) ?_
    rw [Dict.entries_set_new hnew, hd', List.append_assoc]
    rfl

/-- What validation lets through is valid. -/
theorem validateControlConfig_ok {v : Value} {c : ControlConfig} (h : validateControlConfig v = .ok c) :
    c.Valid := by
  unfold validateControlConfig at h
  split at h
  · split at h
    · cases h
    split at h
    · cases h
    split at h
    · cases h
    rename_i commands hcommands
    split at h
    · cases h
    rename_i whatsapp hwhatsapp
    obtain rfl := Except.ok.inj h
    unfold validateCommandPreferences at hcommands
    split at hcommands
    · split at hcommands
      · cases hcommands
      rename_i hlength
      have hempty : ∀ id p, (Dict.empty : Dict PyStr CommandPreference).get? id = some p → p.Valid id := by
        intro id p hp
        cases hp
      obtain ⟨hvalid, hsize⟩ := validateItems_ok hempty hcommands
      refine ⟨hvalid, ?_, validateWhatsappSettings_ok hwhatsapp⟩
      have hzero : (Dict.empty : Dict PyStr CommandPreference).size = 0 := rfl
      show Dict.size commands ≤ _
      omega
    · cases hcommands
  · cases h

/-- Validation of a configuration that is in its dictionaries, by its two parts. -/
theorem ControlConfig.validate_eq (c : ControlConfig) : validateControlConfig c.asValue =
    match validateCommandPreferences (commandsValue c.commands) with
    | .error e => .error e
    | .ok commands =>
      match validateWhatsappSettings c.whatsapp.asValue with
      | .error e => .error e
      | .ok whatsapp => .ok ⟨commands, whatsapp⟩ := rfl

theorem validateCommandPreferences_read {d : Dict PyStr CommandPreference}
    (hvalid : ∀ id p, d.get? id = some p → p.Valid id) (hsize : d.size ≤ maxCommandOverrides) :
    validateCommandPreferences (commandsValue d) = .ok d := by
  unfold validateCommandPreferences commandsValue
  simp only
  rw [if_neg]
  · refine validateItems_read ?_ (List.nil_append _).symm
    intro e he
    exact hvalid e.1 e.2 (Dict.get?_eq_some.mpr he)
  · rw [List.length_map]
    exact Nat.not_lt.mpr hsize

/-- A valid configuration is read back as it is. -/
theorem ControlConfig.Valid.read {c : ControlConfig} (h : c.Valid) : validateControlConfig c.asValue = .ok c := by
  rw [c.validate_eq, validateCommandPreferences_read h.commands h.size, h.whatsapp.read]

/-! ## What one access does -/

/-- What is loaded is valid. -/
theorem loadControlConfig_ok {file : Option File} {fault : ReadFault} {c : ControlConfig}
    (h : loadControlConfig file fault = .ok c) : c.Valid := by
  have hdefault : defaultConfig.Valid := by
    refine ⟨?_, by decide, Or.inl rfl, Or.inl rfl, by decide⟩
    intro id p hp
    cases hp
  unfold loadControlConfig at h
  split at h
  · cases h
  · obtain rfl := Except.ok.inj h
    exact hdefault
  · obtain rfl := Except.ok.inj h
    exact hdefault
  · cases h
  · split at h
    · cases h
    split at h
    · cases h
    · cases h
    · cases h
    · exact validateControlConfig_ok h
    · cases h

/-- A file as `save_control_config` leaves it. -/
def Holds (file : Option File) (c : ControlConfig) : Prop :=
  ∃ size ≤ maxControlFileBytes, file = some ⟨size, .value c.asValue⟩

/-- It is loaded as it was saved. -/
theorem Holds.load {file : Option File} {c : ControlConfig} (h : Holds file c) (hvalid : c.Valid) :
    loadControlConfig file .none = .ok c := by
  obtain ⟨size, hsize, rfl⟩ := h
  show (if size > maxControlFileBytes then .error (.config .tooLarge) else validateControlConfig c.asValue) = _
  rw [if_neg (Nat.not_lt.mpr hsize), hvalid.read]

/-- What is written is validated. -/
def ControlConfig.fits (c : ControlConfig) : Bool :=
  c.encoded.any (fun encoded => encoded.length ≤ maxControlFileBytes)

/-- `save_control_config` writes what validation makes of the configuration, or leaves the file. -/
theorem saveControlConfig_cases (file : Option File) (fault : WriteFault) (value : ControlConfig) :
    (∃ e, saveControlConfig file fault value = (file, .error e) ∧
      ¬ (fault = .none ∧ ∃ validated, validateControlConfig value.asValue = .ok validated ∧ validated.fits = true)) ∨
    (∃ file' validated, saveControlConfig file fault value = (file', .ok validated) ∧ fault = .none ∧
      validateControlConfig value.asValue = .ok validated ∧ validated.fits = true ∧ Holds file' validated) := by
  unfold saveControlConfig
  cases hvalidate : validateControlConfig value.asValue with
  | error e =>
    refine Or.inl ⟨e, rfl, ?_⟩
    intro hwritten
    obtain ⟨-, validated, hok, -⟩ := hwritten
    cases hok
  | ok validated =>
    simp only
    cases hencoded : validated.encoded with
    | none =>
      refine Or.inl ⟨_, rfl, ?_⟩
      intro hwritten
      obtain ⟨-, validated', hok, hfits⟩ := hwritten
      obtain rfl := Except.ok.inj hok
      rw [ControlConfig.fits, hencoded] at hfits
      cases hfits
    | some encoded =>
      simp only
      split
      · rename_i hlarge
        refine Or.inl ⟨_, rfl, ?_⟩
        intro hwritten
        obtain ⟨-, validated', hok, hfits⟩ := hwritten
        obtain rfl := Except.ok.inj hok
        rw [ControlConfig.fits, hencoded] at hfits
        exact absurd (of_decide_eq_true hfits) (Nat.not_le.mpr hlarge)
      · rename_i hsmall
        cases fault with
        | uncaught =>
          refine Or.inl ⟨_, rfl, ?_⟩
          intro hwritten
          obtain ⟨hfault, -⟩ := hwritten
          cases hfault
        | caught =>
          refine Or.inl ⟨_, rfl, ?_⟩
          intro hwritten
          obtain ⟨hfault, -⟩ := hwritten
          cases hfault
        | none =>
          refine Or.inr ⟨_, validated, rfl, rfl, rfl, ?_, _, Nat.not_lt.mp hsmall, rfl⟩
          rw [ControlConfig.fits, hencoded]
          exact decide_eq_true (Nat.not_lt.mp hsmall)

end Pipa.Control
