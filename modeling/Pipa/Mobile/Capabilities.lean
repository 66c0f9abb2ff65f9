import Pipa.Core.Sanitizing
import Pipa.Mobile.Catalog
import Pipa.Tools.Capabilities

/- The capability matrix on its way from the agent over the Core to the screen of the phone. Each of the
   three has its own list of groups and fields; the agent and the phone each have their own safety contract. -/
namespace Pipa.Mobile
open Pipa.Lib
open Pipa.Core (names isIdentifierChar)

/-! ## The client -/

namespace PipaMobileTCPClient
open PipaMobileTextPolicy

def capabilityGroups : List PyStr := names ["web_search", "apple_music", "whatsapp", "discord", "league", "codex"]

def booleanCapabilityFields : List PyStr :=
  names ["available", "app_configured", "launcher_resolved", "search", "playback", "media_control",
    "requires_manual_selection", "open_web", "open_contact", "contact_aliases_configured", "prepare_message",
    "send_message", "requires_manual_send", "open_app", "open_channel", "start_call", "requires_manual_call",
    "client_ready", "open_client", "matchmaking", "cancel_matchmaking", "accept_match", "requires_manual_accept",
    "writes_to_chat", "requires_confirmation"]

def stringCapabilityFields : List PyStr := names ["execution"]
def listCapabilityFields : List PyStr := names ["queues"]

def isCatalogKey (value : PyStr) : Bool :=
  !value.isEmpty && value.bytes.length ≤ 64 && value.all isIdentifierChar

def isCapabilityText (text : PyStr) : Bool :=
  !text.isEmpty && text.bytes.length ≤ 128 && !containsProtocolControl text

def isCapabilityValue (p : Platform) (value : Value) (fieldName : PyStr) : Bool :=
  if (asBool p value).isSome then fieldName ∈ booleanCapabilityFields
  else match asString value with
    | some text => fieldName ∈ stringCapabilityFields && isCapabilityText text
    | none =>
      match asStrings value with
      | some list => fieldName ∈ listCapabilityFields && list.length ≤ 16 && list.all isCapabilityText
      | none => false

/-- One group of `parseCapabilities`. -/
def parseGroup (p : Platform) (e : PyStr × Value) : Option (PyStr × Object) := do
  guard (e.1 ∈ capabilityGroups)
  let fields ← asDictionary e.2
  guard (fields.length ≤ 16)
  guard (fields.all (fun field => isCatalogKey field.1 && isCapabilityValue p field.2 field.1))
  return (e.1, fields)

/-- `parseCapabilities`. -/
def parseCapabilities (p : Platform) : Option Value → Option (List (PyStr × Object))
  | none => some []
  | some value => do
    let groups ← asDictionary value
    guard (groups.length ≤ 16)
    groups.mapM (parseGroup p)

end PipaMobileTCPClient

/-! ## The screen -/

structure PipaMobileIntegration where
  id : PyStr
  title : PyStr
  available : Bool
  appConfigured : Bool
  launcherResolved : Bool
  detail : PyStr

namespace PipaMobileIntegration

def safetyContract : List (PyStr × List (PyStr × Bool)) :=
  [(PyStr.ofString "web_search", [(PyStr.ofString "requires_confirmation", true)]),
   (PyStr.ofString "apple_music",
    [(PyStr.ofString "playback", false), (PyStr.ofString "media_control", true),
     (PyStr.ofString "requires_manual_selection", true), (PyStr.ofString "requires_confirmation", true)]),
   (PyStr.ofString "whatsapp", [(PyStr.ofString "requires_confirmation", true)]),
   (PyStr.ofString "discord",
    [(PyStr.ofString "start_call", false), (PyStr.ofString "requires_manual_call", true),
     (PyStr.ofString "requires_confirmation", true)]),
   (PyStr.ofString "league",
    [(PyStr.ofString "accept_match", false), (PyStr.ofString "requires_manual_accept", true),
     (PyStr.ofString "requires_confirmation", true)]),
   (PyStr.ofString "codex",
    [(PyStr.ofString "writes_to_chat", false), (PyStr.ofString "requires_confirmation", true)])]

def titles : List (PyStr × PyStr) :=
  [(PyStr.ofString "web_search", PyStr.ofString "Internet"),
   (PyStr.ofString "apple_music", PyStr.ofString "Apple Music"),
   (PyStr.ofString "whatsapp", PyStr.ofString "WhatsApp"),
   (PyStr.ofString "discord", PyStr.ofString "Discord"),
   (PyStr.ofString "league", PyStr.ofString "League of Legends"),
   (PyStr.ofString "codex", PyStr.ofString "Codex")]

def lookup {α : Type} (table : List (PyStr × α)) (k : PyStr) : Option α :=
  (table.find? (fun e => e.1 = k)).map Prod.snd

variable (p : Platform)

/-- `payload[field] as? Bool`. -/
def flag (payload : Object) (field : String) : Option Bool := (payload.get? (PyStr.ofString field)).bind (asBool p)

/-- The text that goes with the state of an integration. -/
def detailText (id : PyStr) (payload : Object) (available appConfigured launcherResolved : Bool) : String :=
  if !available then "No configurado o no disponible en el PC."
  else if appConfigured && !launcherResolved then
    "Está configurado, pero no se encuentra el lanzador local; revisa la configuración del PC."
  else if id = PyStr.ofString "apple_music" ∧ flag p payload "requires_manual_selection" = some true then
    if flag p payload "media_control" = some true then
      if appConfigured then
        "App disponible; busca y selecciona la pista y controla reproducción/pausa manualmente."
      else "Apple Music Web disponible; busca y selecciona la pista y controla reproducción/pausa manualmente."
    else "Busca; selecciona y reproduce la pista manualmente."
  else if id = PyStr.ofString "whatsapp" ∧ flag p payload "send_message" = some true then
    "WhatsApp Cloud API activa; cada mensaje sigue necesitando confirmación explícita."
  else if id = PyStr.ofString "whatsapp" ∧ flag p payload "requires_manual_send" = some true then
    let target := if appConfigured then "App disponible" else "WhatsApp Web disponible"
    if flag p payload "contact_aliases_configured" = some false then
      target ++ "; puedes usar un teléfono. Pulsa Enviar manualmente."
    else target ++ "; prepara el chat y pulsa Enviar manualmente."
  else if id = PyStr.ofString "discord" ∧ flag p payload "requires_manual_call" = some true then
    let target := if appConfigured then "App disponible" else "Discord Web disponible"
    if flag p payload "contact_aliases_configured" = some false then
      target ++ "; puedes usar un ID. Inicia la llamada manualmente."
    else target ++ "; abre el canal e inicia la llamada manualmente."
  else if id = PyStr.ofString "league" ∧ flag p payload "client_ready" = some false then
    "El cliente está configurado, pero no está listo ahora; aceptar la partida será manual."
  else if id = PyStr.ofString "league" ∧ flag p payload "requires_manual_accept" = some true then
    "Puedes buscar partida; cuando aparezca, tendrás que aceptarla manualmente."
  else "Disponible con confirmación cuando corresponda."

/-- `init?(id:payload:)`. -/
def parse (id : PyStr) (payload : Object) : Option PipaMobileIntegration := do
  let title ← lookup titles id
  let available ← flag p payload "available"
  guard (id.bytes.length ≤ 64)
  let expectedSafety ← lookup safetyContract id
  guard (expectedSafety.all (fun e => (payload.get? e.1).bind (asBool p) == some e.2))
  if id = PyStr.ofString "whatsapp" then
    let sendsMessage ← flag p payload "send_message"
    let requiresManualSend ← flag p payload "requires_manual_send"
    guard (sendsMessage ≠ requiresManualSend)
  let appConfigured := (flag p payload "app_configured").getD false
  let launcherResolved := (flag p payload "launcher_resolved").getD appConfigured
  return { id, title, available, appConfigured, launcherResolved,
           detail := PyStr.ofString (detailText p id payload available appConfigured launcherResolved) }

end PipaMobileIntegration

/-- `parseIntegrationCapabilities`. The ids that pass are ASCII, which Swift orders as their scalars. -/
def parseIntegrationCapabilities (p : Platform) (rawCapabilities : List (PyStr × Object)) :
    Option (List PipaMobileIntegration) := do
  guard (rawCapabilities.length ≤ 6)
  let parsed ← rawCapabilities.mapM (fun e => PipaMobileIntegration.parse p e.1 e.2)
  guard (areDistinct p (parsed.map (·.id)))
  return parsed.insertionSort (fun a b => PyStr.le a.id b.id = true)

/-! ## From the Core -/

section
variable {p : Platform}

theorem asBool_bool (b : Bool) : asBool p (.bool b) = some b := by cases b <;> rfl

theorem guard_bind_some {α : Type} {c : Prop} [Decidable c] {x : Option α} {y : α} :
    ((guard c : Option Unit).bind fun _ => x) = some y ↔ c ∧ x = some y := by
  by_cases hc : c
  · simp [guard, hc]
  · simp [guard, hc]

/-- The texts that a field shows. -/
def texts : Value → List PyStr
  | .str text => [text]
  | .list items => items.filterMap asString
  | _ => []

/-- Every text of the matrix has at most 128 bytes. -/
def ShortTexts (groups : Object) : Prop :=
  ∀ e ∈ groups, ∀ fields, e.2 = .dict fields → ∀ field ∈ fields, ∀ text ∈ texts field.2, text.bytes.length ≤ 128

namespace PipaMobileTCPClient

theorem isCatalogKey_field : ∀ name ∈ Core.capabilityBooleanFields ++ Core.capabilityStringFields ++
    Core.capabilityListFields, isCatalogKey name = true := by decide +kernel

theorem field_checked {field : PyStr × Value} (h : Core.capabilityField? field = some field) :
    field.1 ∈ Core.capabilityBooleanFields ++ Core.capabilityStringFields ++ Core.capabilityListFields ∧
      Core.validateCapabilityValue field.1 field.2 = some field.2 := by
  unfold Core.capabilityField? at h
  split at h
  · cases h
  · rename_i hname
    obtain ⟨v, hv, heq⟩ := Option.map_eq_some_iff.mp h
    have hfst : field.1.strip = field.1 := congrArg Prod.fst heq
    have hsnd : v = field.2 := congrArg Prod.snd heq
    rw [hfst, hsnd] at hv
    rw [hfst] at hname
    have hlisted := (not_or.mp (fun hbad => hname (Bool.or_eq_true_iff.mpr hbad))).2
    exact ⟨not_not.mp (fun hnot => hlisted (decide_eq_true hnot)), hv⟩

theorem isCapabilityText_iff {text : PyStr} (h : Core.capabilityText? (.str text) = some text)
    (hstrip : text.strip = text) : isCapabilityText text = true ↔ text.bytes.length ≤ 128 := by
  obtain ⟨hblank, -, hcontrol⟩ := Core.capabilityText?_str.mp h
  have hne : text.isEmpty = false := by rw [← hstrip]; exact hblank
  simp [isCapabilityText, hne, PipaMobileTextPolicy.containsProtocolControl, hcontrol]

theorem mapM_asString (texts : List PyStr) : (texts.map Value.str).mapM asString = some texts := by
  induction texts with
  | nil => rfl
  | cons text texts ih =>
    rw [List.map_cons, List.mapM_cons, ih]
    rfl

/-- A field that the Core lets pass is one of the phone's, unless a text of it is too long in bytes. -/
theorem isCapabilityValue_iff {field : PyStr × Value} (h : Core.capabilityField? field = some field) :
    isCapabilityValue p field.2 field.1 = true ↔ ∀ text ∈ texts field.2, text.bytes.length ≤ 128 := by
  obtain ⟨name, value⟩ := field
  obtain ⟨-, hvalue⟩ := field_checked h
  have hstripped := (Core.capabilityField?_kept h).2.2
  cases value with
  | bool b =>
    rw [Core.validateCapabilityValue] at hvalue
    split at hvalue
    · rename_i hname
      refine iff_of_true ?_ (List.forall_mem_nil _)
      rw [isCapabilityValue, asBool_bool]
      exact decide_eq_true hname
    · cases hvalue
  | str s =>
    rw [Core.validateCapabilityValue] at hvalue
    split at hvalue
    · rename_i hname
      obtain ⟨s', hs', heq⟩ := Option.map_eq_some_iff.mp hvalue
      obtain rfl := Value.str.inj (Core.capabilityText_check.same hs')
      cases hstripped with
      | str _ hstrip =>
        have hmem : name ∈ stringCapabilityFields := hname
        simp only [isCapabilityValue, asBool, number, asString, hmem, texts, List.mem_singleton, forall_eq]
        simpa using isCapabilityText_iff hs' hstrip
    · cases hvalue
  | list items =>
    rw [Core.validateCapabilityValue] at hvalue
    split at hvalue
    · rename_i hname
      split at hvalue
      · cases hvalue
      · rename_i hfew
        obtain ⟨found, hfound, heq⟩ := Option.map_eq_some_iff.mp hvalue
        obtain ⟨rfl, hall⟩ := Core.capabilityText_check.items hfound
        have hmem : name ∈ listCapabilityFields := hname
        have hlength : found.length ≤ 16 := by
          rw [List.length_map] at hfew
          exact Nat.le_of_not_lt hfew
        cases hstripped with
        | list _ hinside =>
          have hstrip (text : PyStr) (htext : text ∈ found) : text.strip = text := by
            cases hinside (.str text) (List.mem_map_of_mem htext) with
            | str _ hstrip => exact hstrip
          have htexts : texts (.list (found.map .str)) = found := by
            simp [texts, List.filterMap_map, Function.comp_def, asString]
          rw [htexts]
          simp only [isCapabilityValue, asBool, number, asString, asStrings, mapM_asString, hmem, hlength]
          simp only [Option.isSome_none, Bool.false_eq_true, if_false, decide_true, Bool.true_and,
            List.all_eq_true]
          exact forall₂_congr fun text htext => isCapabilityText_iff (hall text htext) (hstrip text htext)
    · cases hvalue
  | _ => cases hvalue

/-- What the Core lets pass are groups of the phone's, with as few fields. -/
theorem group_checked {e : PyStr × Value} (h : Core.capabilityGroup? e = some e) :
    e.1 ∈ capabilityGroups ∧ ∃ fields : Object, e.2 = .dict fields ∧ fields.length ≤ 16 ∧
      ∀ field ∈ fields, Core.capabilityField? field = some field := by
  obtain ⟨name, value⟩ := e
  cases value with
  | dict fields =>
    simp only [Core.capabilityGroup?] at h
    split at h
    · cases h
    · rename_i hname
      obtain ⟨safe, hsafe, heq⟩ := Option.map_eq_some_iff.mp h
      obtain ⟨hstrip, heq⟩ := Prod.mk.inj heq
      obtain rfl := Value.dict.inj heq
      rw [hstrip] at hname
      simp only [Bool.or_eq_true, not_or, decide_eq_true_eq, not_not, not_lt] at hname
      exact ⟨hname.1.2, _, rfl, hname.2, (Core.capabilityFields_kept hsafe).1.entries⟩
  | _ => cases h

theorem parseGroup_iff {e : PyStr × Value} (h : Core.capabilityGroup? e = some e) {r : PyStr × Object} :
    parseGroup p e = some r ↔
      e = (r.1, .dict r.2) ∧ ∀ field ∈ r.2, ∀ text ∈ texts field.2, text.bytes.length ≤ 128 := by
  obtain ⟨hname, fields, hfields, hfew, hall⟩ := group_checked h
  have hshort : fields.all (fun field => isCatalogKey field.1 && isCapabilityValue p field.2 field.1) = true ↔
      ∀ field ∈ fields, ∀ text ∈ texts field.2, text.bytes.length ≤ 128 := by
    rw [List.all_eq_true]
    refine forall₂_congr fun field hfield => ?_
    rw [isCatalogKey_field field.1 (field_checked (hall field hfield)).1, Bool.true_and]
    exact isCapabilityValue_iff (hall field hfield)
  obtain ⟨name, value⟩ := e
  obtain rfl : value = .dict fields := hfields
  simp only [parseGroup, asDictionary, Option.bind_eq_bind, Option.bind_some, guard_bind_some, hname, hfew,
    true_and, hshort, Option.pure_def, Option.some.injEq]
  constructor
  · rintro ⟨hall, rfl⟩
    exact ⟨rfl, hall⟩
  · rintro ⟨heq, hfits⟩
    obtain ⟨rfl, hdict⟩ := Prod.mk.inj heq
    obtain rfl := Value.dict.inj hdict
    exact ⟨hfits, rfl⟩

/-- Of the groups that the Core lets pass the phone reads each as it is, if its texts are short. -/
theorem parseGroups_iff {groups : Object} (h : ∀ e ∈ groups, Core.capabilityGroup? e = some e)
    {r : List (PyStr × Object)} :
    groups.mapM (parseGroup p) = some r ↔ groups = r.map (fun e => (e.1, .dict e.2)) ∧ ShortTexts groups := by
  induction groups generalizing r with
  | nil =>
    constructor
    · intro hr
      obtain rfl := Option.some.inj hr
      exact ⟨rfl, List.forall_mem_nil _⟩
    · rintro ⟨hr, -⟩
      obtain rfl := List.map_eq_nil_iff.mp hr.symm
      rfl
  | cons e groups ih =>
    obtain ⟨he, hgroups⟩ := List.forall_mem_cons.mp h
    rw [List.mapM_cons]
    simp only [Option.bind_eq_bind, Option.bind_eq_some_iff, Option.pure_def, Option.some.injEq, ih hgroups,
      parseGroup_iff he]
    constructor
    · rintro ⟨r, ⟨rfl, hshort⟩, rest, ⟨rfl, hrest⟩, rfl⟩
      refine ⟨rfl, List.forall_mem_cons.mpr ⟨?_, hrest⟩⟩
      intro fields hfields
      obtain rfl := Value.dict.inj hfields
      exact hshort
    · rintro ⟨heq, hshort⟩
      obtain ⟨hfirst, hrest⟩ := List.forall_mem_cons.mp hshort
      cases r with
      | nil => cases heq
      | cons r rest =>
        obtain ⟨rfl, rfl⟩ := List.cons.inj heq
        exact ⟨r, ⟨rfl, hfirst r.2 rfl⟩, rest, ⟨rfl, hrest⟩, rfl⟩

/-- A matrix that the Core lets pass is read as it is, exactly if no text of it is longer than 128 bytes. -/
theorem parseCapabilities_iff {value : Value} {groups : Object}
    (h : Core.validateCapabilityCatalog value = some groups) {r : List (PyStr × Object)} :
    parseCapabilities p (some (.dict groups)) = some r ↔
      groups = r.map (fun e => (e.1, .dict e.2)) ∧ ShortTexts groups := by
  have hagain := (Core.capabilityMatrix_kept h).again
  rw [Core.validateCapabilityCatalog] at hagain
  split at hagain
  · cases hagain
  · rename_i hfew
    rw [Core.validateCapabilityGroups_gather] at hagain
    obtain ⟨hgathered, -⟩ := Core.gather_kept (fun _ _ he => (Core.capabilityGroup?_kept he).1) hagain
      ⟨List.nodup_nil, List.forall_mem_nil _⟩
    simp only [parseCapabilities, asDictionary, Option.bind_eq_bind, Option.bind_some, guard_bind_some]
    rw [parseGroups_iff hgathered.entries]
    exact and_iff_right (Nat.le_of_not_lt hfew)

theorem sanitized_groups {value : Value} {groups : Object} (h : Core.validateCapabilityCatalog value = some groups) :
    ∃ r : List (PyStr × Object), groups = r.map (fun e => (e.1, .dict e.2)) := by
  have hfields := (Core.capabilityMatrix_kept h).fields
  clear h
  induction groups with
  | nil => exact ⟨[], rfl⟩
  | cons e groups ih =>
    obtain ⟨⟨fields, hfirst, -⟩, hrest⟩ := List.forall_mem_cons.mp hfields
    obtain ⟨r, rfl⟩ := ih hrest
    exact ⟨(e.1, fields) :: r, by rw [List.map_cons, ← hfirst]⟩

end PipaMobileTCPClient

end

/-! ## From the agent -/

open Tools.Capabilities (Configured groups matrix flags launcherState)

section
variable {p : Platform}

theorem names_plain : ∀ name ∈ Core.capabilityBooleanFields ++ Core.capabilityStringFields ++
    Core.capabilityListFields ++ Core.capabilityGroups,
    name.isBlank = false ∧ name.length ≤ Core.maxCapabilityKeyLength ∧ name.strip = name := by decide +kernel

theorem field_kept {name : PyStr} {value : Value}
    (h : name ∈ Core.capabilityBooleanFields ++ Core.capabilityStringFields ++ Core.capabilityListFields)
    (hvalue : Core.validateCapabilityValue name value = some value) :
    Core.capabilityField? (name, value) = some (name, value) := by
  obtain ⟨hblank, hlength, hstrip⟩ := names_plain name (List.mem_append_left _ h)
  rw [List.mem_append, List.mem_append, or_assoc] at h
  simpa [Core.capabilityField?, hblank, hlength, hstrip, hvalue, or_iff_not_imp_left] using h

theorem flags_kept {fields : List (String × Bool)}
    (h : ∀ name ∈ fields.map Prod.fst, PyStr.ofString name ∈ Core.capabilityBooleanFields) :
    ∀ e ∈ flags fields, Core.capabilityField? e = some e := by
  intro e he
  obtain ⟨f, hf, rfl⟩ := List.mem_map.mp he
  have hname := h f.1 (List.mem_map_of_mem hf)
  exact field_kept (List.mem_append_left _ (List.mem_append_left _ hname)) (if_pos hname)

theorem flags_keys (fields : List (String × Bool)) : (flags fields).keys = names (fields.map Prod.fst) := by
  rw [flags, Object.keys, List.map_map, names, List.map_map]
  rfl

theorem group_kept (name : String) {fields : Object} (h : PyStr.ofString name ∈ Core.capabilityGroups)
    (hfew : fields.length ≤ Core.maxCapabilityFields) (hnodup : fields.keys.Nodup)
    (hfields : ∀ e ∈ fields, Core.capabilityField? e = some e) :
    Core.capabilityGroup? (PyStr.ofString name, .dict fields) = some (PyStr.ofString name, .dict fields) := by
  obtain ⟨hblank, hlength, hstrip⟩ := names_plain _ (List.mem_append_right _ h)
  have hread : Core.validateCapabilityFields fields [] = some fields := by
    rw [Core.validateCapabilityFields_gather]
    exact Core.gather_again ⟨hnodup, hfields⟩
  simp [Core.capabilityGroup?, hblank, hlength, hstrip, h, hfew, hread]

theorem mem_names {name : String} {l : List String} : PyStr.ofString name ∈ names l ↔ name ∈ l := by
  simp [names]

theorem nodup_names {l : List String} : (names l).Nodup ↔ l.Nodup :=
  List.nodup_map_iff (fun _ _ h => PyStr.ofString_inj.mp h)

/-- Few Boolean fields, each once. -/
def FewFlags (fields : List String) : Prop :=
  fields.length ≤ Core.maxCapabilityFields ∧ (names fields).Nodup ∧
    ∀ name ∈ fields, PyStr.ofString name ∈ Core.capabilityBooleanFields

theorem flagGroup_kept {name : String} {fields : List (String × Bool)}
    (h : PyStr.ofString name ∈ Core.capabilityGroups) (hfields : FewFlags (fields.map Prod.fst)) :
    Core.capabilityGroup? (PyStr.ofString name, .dict (flags fields)) =
      some (PyStr.ofString name, .dict (flags fields)) := by
  obtain ⟨hfew, hnodup, hnames⟩ := hfields
  refine group_kept name h ?_ ?_ (flags_kept hnames)
  · rwa [flags, List.length_map, ← List.length_map Prod.fst]
  · rwa [flags_keys]

theorem queues_kept : Core.capabilityField?
    (PyStr.ofString "queues", .list (Control.queueIds.map (fun q => .str (PyStr.ofString q)))) =
    some (PyStr.ofString "queues", .list (Control.queueIds.map (fun q => .str (PyStr.ofString q)))) :=
  field_kept (by decide +kernel) (by rfl)

/-- The Core passes on what the agent built, as it is. -/
theorem matrix_sanitized (c : Configured) : Core.validateCapabilityCatalog (.dict (matrix c)) = some (matrix c) := by
  have hgathered : Core.Gathered Core.capabilityGroup? (matrix c) := by
    refine ⟨?_, ?_⟩
    · simp only [matrix, groups, Object.keys, List.map_cons, List.map_nil]
      decide +kernel
    · refine List.forall_mem_map.mpr ?_
      refine List.forall_mem_cons.mpr ⟨?_, List.forall_mem_cons.mpr ⟨flagGroup_kept ?_ ?_,
        List.forall_mem_cons.mpr ⟨flagGroup_kept ?_ ?_, List.forall_mem_cons.mpr ⟨flagGroup_kept ?_ ?_,
        List.forall_mem_cons.mpr ⟨?_, List.forall_mem_singleton.mpr (flagGroup_kept ?_ ?_)⟩⟩⟩⟩⟩
      · refine group_kept "web_search" (mem_names.mpr (by decide)) (Nat.le_of_ble_eq_true rfl) (by decide +kernel) ?_
        refine List.forall_mem_append.mpr ⟨flags_kept ?_, List.forall_mem_singleton.mpr ?_⟩
        · simp only [List.map_cons, List.map_nil, Core.capabilityBooleanFields, mem_names]
          decide
        · exact field_kept (by decide +kernel) (by rfl)
      on_goal 7 =>
        refine group_kept "league" (mem_names.mpr (by decide)) (Nat.le_of_ble_eq_true rfl) ?_ ?_
        · simp only [Object.keys, flags, List.map_append, List.map_cons, List.map_nil]
          decide +kernel
        · refine List.forall_mem_append.mpr ⟨flags_kept ?_, List.forall_mem_cons.mpr ⟨queues_kept, flags_kept ?_⟩⟩
          all_goals
            simp only [List.map_cons, List.map_nil, Core.capabilityBooleanFields, mem_names]
            decide
      all_goals first
        | exact mem_names.mpr (by decide)
        | simp only [List.map_cons, List.map_nil, FewFlags, nodup_names, mem_names, Core.capabilityBooleanFields]
          decide
  rw [Core.validateCapabilityCatalog, if_neg (Nat.not_lt.mpr (Nat.le_of_ble_eq_true rfl)),
    Core.validateCapabilityGroups_gather]
  exact Core.gather_again hgathered

/-! ## On the screen -/

/-- What is shown of an integration, its texts apart. -/
def row (i : PipaMobileIntegration) : PyStr × Bool × Bool × Bool :=
  (i.id, i.available, i.appConfigured, i.launcherResolved)

/-- The rows on the screen. -/
def rows (c : Configured) : List (PyStr × Bool × Bool × Bool) :=
  [(PyStr.ofString "apple_music", true, c.appleMusicConfigured,
    launcherState c.appleMusicConfigured c.appleMusicLauncherResolved),
   (PyStr.ofString "codex", c.codexConfigured, false,
    launcherState c.codexConfigured c.codexLauncherResolved),
   (PyStr.ofString "discord", true, c.discordAppConfigured,
    launcherState c.discordAppConfigured c.discordLauncherResolved),
   (PyStr.ofString "league", c.leagueAvailable, false,
    launcherState c.leagueAvailable c.leagueLauncherResolved),
   (PyStr.ofString "web_search", true, false, false),
   (PyStr.ofString "whatsapp", true, c.whatsappAppConfigured,
    launcherState c.whatsappAppConfigured c.whatsappLauncherResolved)]

/-- The phone shows this row for a group. -/
def Shows (p : Platform) (e : PyStr × Object) (r : PyStr × Bool × Bool × Bool) : Prop :=
  ∃ shown, PipaMobileIntegration.parse p e.1 e.2 = some shown ∧ row shown = r

theorem shows_all {groups : List (PyStr × Object)} {l : List (PyStr × Bool × Bool × Bool)}
    (h : List.Forall₂ (Shows p) groups l) :
    ∃ shown, groups.mapM (fun e => PipaMobileIntegration.parse p e.1 e.2) = some shown ∧ shown.map row = l := by
  induction h with
  | nil => exact ⟨[], rfl, rfl⟩
  | cons hfirst _ ih =>
    obtain ⟨shown, hshown, rfl⟩ := hfirst
    obtain ⟨rest, hrest, rfl⟩ := ih
    refine ⟨shown :: rest, ?_, rfl⟩
    rw [List.mapM_cons, hshown, hrest]
    rfl

theorem get?_flags (fields : List (String × Bool)) (name : String) :
    ((flags fields).get? (PyStr.ofString name)).bind (asBool p) =
      (fields.find? (fun e => e.1 = name)).map Prod.snd := by
  induction fields with
  | nil => rfl
  | cons e fields ih =>
    by_cases he : e.1 = name
    · simp [flags, Object.get?, he, asBool_bool]
    · simpa [flags, Object.get?, he] using ih

/-- A field that is no flag hides none. -/
theorem get?_beside (before after : List (String × Bool)) (other : String) (value : Value)
    (hvalue : asBool p value = none) (hother : (before ++ after).find? (fun e => e.1 = other) = none) (name : String) :
    ((flags before ++ (PyStr.ofString other, value) :: flags after).get? (PyStr.ofString name)).bind (asBool p) =
      ((before ++ after).find? (fun e => e.1 = name)).map Prod.snd := by
  have happend (a b : Object) : (a ++ b).get? (PyStr.ofString name) =
      (a.get? (PyStr.ofString name)).or (b.get? (PyStr.ofString name)) := by
    simp only [Object.get?, List.find?_append, Option.map_or]
  have hflags (fields : List (String × Bool)) : (flags fields).get? (PyStr.ofString name) =
      (fields.find? (fun e => e.1 = name)).map (fun e => .bool e.2) := by
    simp only [flags, Object.get?, List.find?_map, Option.map_map, Function.comp_def, PyStr.ofString_inj]
  have hbool (e : Option (String × Bool)) :
      (e.map (fun e => Value.bool e.2)).bind (asBool p) = e.map Prod.snd := by
    cases e with
    | none => rfl
    | some e => exact asBool_bool e.2
  by_cases hname : other = name
  · subst hname
    rw [List.find?_append, Option.or_eq_none_iff] at hother
    rw [happend, hflags, hother.1, List.find?_append, hother.1, hother.2]
    simpa [Object.get?] using hvalue
  · have hcons : Object.get? ((PyStr.ofString other, value) :: flags after) (PyStr.ofString name) =
        (flags after).get? (PyStr.ofString name) := by
      simp [Object.get?, hname]
    rw [happend, hcons, hflags, hflags, ← Option.map_or, ← List.find?_append, hbool]

theorem groups_shown (c : Configured) :
    List.Forall₂ (Shows p) ((groups c).map (fun e => (PyStr.ofString e.1, e.2)))
      [(PyStr.ofString "web_search", true, false, false),
       (PyStr.ofString "apple_music", true, c.appleMusicConfigured,
        launcherState c.appleMusicConfigured c.appleMusicLauncherResolved),
       (PyStr.ofString "whatsapp", true, c.whatsappAppConfigured,
        launcherState c.whatsappAppConfigured c.whatsappLauncherResolved),
       (PyStr.ofString "discord", true, c.discordAppConfigured,
        launcherState c.discordAppConfigured c.discordLauncherResolved),
       (PyStr.ofString "league", c.leagueAvailable, false,
        launcherState c.leagueAvailable c.leagueLauncherResolved),
       (PyStr.ofString "codex", c.codexConfigured, false,
        launcherState c.codexConfigured c.codexLauncherResolved)] := by
  have hlength : ∀ e ∈ PipaMobileIntegration.titles, e.1.bytes.length ≤ 64 := by decide +kernel
  simp only [PipaMobileIntegration.titles, List.forall_mem_cons] at hlength
  refine .cons ?_ (.cons ?_ (.cons ?_ (.cons ?_ (.cons ?_ (.cons ?_ .nil)))))
  · have hread (name : String) := get?_beside (p := p) [("available", true), ("requires_confirmation", true)] []
      "execution" (.str (PyStr.ofString "opens_browser")) rfl (by decide) name
    rw [show flags [] = [] from rfl] at hread
    simp [Shows, row, PipaMobileIntegration.parse, PipaMobileIntegration.flag, PipaMobileIntegration.lookup,
      PipaMobileIntegration.titles, PipaMobileIntegration.safetyContract, hread, guard, hlength]
  on_goal 4 =>
    have hread (name : String) := get?_beside (p := p)
      [("available", c.leagueAvailable), ("client_ready", c.leagueReady),
       ("launcher_resolved", launcherState c.leagueAvailable c.leagueLauncherResolved),
       ("open_client", c.leagueAvailable), ("matchmaking", c.leagueAvailable), ("cancel_matchmaking", c.leagueReady),
       ("accept_match", false), ("requires_manual_accept", true)] [("requires_confirmation", true)] "queues"
      (.list (Control.queueIds.map (fun q => .str (PyStr.ofString q)))) rfl (by simp) name
    simp [Shows, row, PipaMobileIntegration.parse, PipaMobileIntegration.flag, PipaMobileIntegration.lookup,
      PipaMobileIntegration.titles, PipaMobileIntegration.safetyContract, hread, guard, hlength]
  all_goals
    simp [Shows, row, PipaMobileIntegration.parse, PipaMobileIntegration.flag, PipaMobileIntegration.lookup,
      PipaMobileIntegration.titles, PipaMobileIntegration.safetyContract, get?_flags, guard, hlength]

theorem matrix_short (c : Configured) : ShortTexts (matrix c) := by
  have hflags (fields : List (String × Bool)) : ∀ field ∈ flags fields, ∀ text ∈ texts field.2,
      text.bytes.length ≤ 128 := by
    intro field hfield text htext
    obtain ⟨e, -, rfl⟩ := List.mem_map.mp hfield
    cases htext
  intro e he fields hfields
  obtain ⟨g, hg, rfl⟩ := List.mem_map.mp he
  obtain rfl := Value.dict.inj hfields
  clear hfields he
  revert g
  refine List.forall_mem_cons.mpr ⟨?_, List.forall_mem_cons.mpr ⟨hflags _, List.forall_mem_cons.mpr ⟨hflags _,
    List.forall_mem_cons.mpr ⟨hflags _, List.forall_mem_cons.mpr ⟨?_, List.forall_mem_singleton.mpr (hflags _)⟩⟩⟩⟩⟩
  · refine List.forall_mem_append.mpr ⟨hflags _, List.forall_mem_singleton.mpr ?_⟩
    decide +kernel
  · refine List.forall_mem_append.mpr ⟨hflags _, List.forall_mem_cons.mpr ⟨?_, hflags _⟩⟩
    decide +kernel

theorem titles_ascii : ∀ name ∈ names ["web_search", "apple_music", "whatsapp", "discord", "league", "codex"],
    name.Ascii := by
  unfold PyStr.Ascii
  decide +kernel

/-- ASCII texts that are equal to Swift are the same. -/
def Foundation.TellsAscii (f : Foundation) : Prop :=
  ∀ a b : PyStr, a.Ascii → b.Ascii → f.canonical a = f.canonical b → a = b

/-- The phone shows the six integrations of the agent's matrix. -/
theorem rows_shown (hascii : p.foundation.TellsAscii) (c : Configured) : ∃ parsed shown,
    PipaMobileTCPClient.parseCapabilities p (some (.dict (matrix c))) = some parsed ∧
      parseIntegrationCapabilities p parsed = some shown ∧ shown.map row = rows c := by
  obtain ⟨shown, hshown, hrows⟩ := shows_all (p := p) (groups_shown c)
  have hmatrix : matrix c = ((groups c).map (fun e => (PyStr.ofString e.1, e.2))).map (fun e => (e.1, .dict e.2)) := by
    rw [matrix, List.map_map]
    rfl
  refine ⟨_, shown.insertionSort (fun a b => PyStr.le a.id b.id = true),
    (PipaMobileTCPClient.parseCapabilities_iff (matrix_sanitized c)).mpr ⟨hmatrix, matrix_short c⟩, ?_, ?_⟩
  · have hids : shown.map (·.id) = names ["web_search", "apple_music", "whatsapp", "discord", "league", "codex"] := by
      have hfirst := congrArg (List.map Prod.fst) hrows
      rwa [List.map_map] at hfirst
    have hdistinct : areDistinct p (shown.map (·.id)) = true := by
      rw [hids, areDistinct, decide_eq_true_eq]
      refine List.Nodup.map_on ?_ (nodup_names.mpr (by decide))
      intro a ha b hb
      exact hascii a b (titles_ascii a ha) (titles_ascii b hb)
    unfold parseIntegrationCapabilities
    simp only [hshown, Option.bind_eq_bind, Option.bind_some, hdistinct]
    rfl
  · refine (List.map_insertionSort _ (fun a b => PyStr.le a.1 b.1 = true) row shown (fun a _ b _ => Iff.rfl)).trans ?_
    rw [hrows]
    rfl

/-- Whatever the configuration, the agent builds a matrix that keeps its own contract, the Core lets it pass as
it is, and the phone shows each of its six integrations. Of any other matrix that the Core lets pass the client
refuses exactly those with a text of more than 128 bytes. -/
theorem capabilities_shown (p : Platform) (hascii : p.foundation.TellsAscii) :
    (∀ c : Configured, Tools.Capabilities.buildIntegrationCapabilities c = .ok (matrix c) ∧
      Core.validateCapabilityCatalog (.dict (matrix c)) = some (matrix c) ∧
      ∃ parsed shown, PipaMobileTCPClient.parseCapabilities p (some (.dict (matrix c))) = some parsed ∧
        parseIntegrationCapabilities p parsed = some shown ∧ shown.map row = rows c) ∧
    ∀ value capabilities, Core.validateCapabilityCatalog value = some capabilities →
      ((PipaMobileTCPClient.parseCapabilities p (some (.dict capabilities))).isSome = true ↔
        ShortTexts capabilities) := by
  refine ⟨fun c => ⟨Tools.Capabilities.buildIntegrationCapabilities_ok c, matrix_sanitized c, rows_shown hascii c⟩, ?_⟩
  intro value capabilities h
  constructor
  · intro hsome
    obtain ⟨r, hr⟩ := Option.isSome_iff_exists.mp hsome
    exact ((PipaMobileTCPClient.parseCapabilities_iff h).mp hr).2
  · intro hshort
    obtain ⟨r, hr⟩ := PipaMobileTCPClient.sanitized_groups h
    exact Option.isSome_of_eq_some ((PipaMobileTCPClient.parseCapabilities_iff h).mpr ⟨hr, hshort⟩)

end

/-- A platform whose characters are the scalars. -/
def plainPlatform : Platform where
  text := scalarText
  foundation := plainFoundation
  integral _ := none
  replacingOccurrences text _ _ := text
  parseInt _ := none

def leagueOnly : Configured :=
  { appleMusicConfigured := false, leagueAvailable := true, leagueReady := false, codexConfigured := false }

theorem capabilities_shown_league : ∃ parsed shown,
    PipaMobileTCPClient.parseCapabilities plainPlatform (some (.dict (matrix leagueOnly))) = some parsed ∧
    parseIntegrationCapabilities plainPlatform parsed = some shown ∧ shown.map row = rows leagueOnly :=
  ((capabilities_shown plainPlatform (fun _ _ _ _ h => h)).1 leagueOnly).2.2

end Pipa.Mobile
