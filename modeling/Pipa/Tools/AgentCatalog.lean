import Pipa.Intents.Catalog
import Pipa.Tools.Contacts
import Pipa.Tools.League

/- The tools of the agent and what their validators accept (`agent_catalog.py`).

   A validator raises a `ValueError`; `Rejection` says which check has raised it,
   which the router does not look at. What the tools do (their handlers, summaries
   and preparers) is a parameter: an `Adapter` for each tool. -/
namespace Pipa.Tools
open Pipa.Lib Pipa.Core
open Contacts (Tables field normalizePhone buildDiscordChannelUrl)
open LeagueClientApi (resolveQueueId)
open Intents (isText)

/-! ## Texts -/

/-- What `validate_bounded_text` may find wrong. -/
inductive TextFault where
  | empty
  | surrogates
  | tooLong
  | forbidden
  deriving DecidableEq

/-- `validate_bounded_text`. -/
def textFault (value : PyStr) (maximumBytes : Nat) (allowLineFeed : Bool) : Option TextFault :=
  if value.isBlank then some .empty
  else match value.encode with
    | none => some .surrogates
    | some encoded =>
      if maximumBytes = 0 ∨ encoded.length > maximumBytes then some .tooLong
      else if value.any (fun c => Core.forbidden c && !(allowLineFeed && c.val == 0x0A)) then some .forbidden
      else none

/-- The check that has raised. -/
inductive Rejection where
  /-- `_no_arguments`. -/
  | arguments
  | contract
  | notText (name : String)
  | text (name : String) (fault : TextFault)
  | range (name : String)
  | choice (name : String)
  | destination
  deriving DecidableEq

/-! ## Schemas -/

/-- The keyword arguments of `_argument_schema`; `check` is whether the check returns. -/
structure ArgumentSchema where
  requiredText : List (String × Nat) := []
  optionalText : List (String × Nat) := []
  requiredIntegers : List (String × Int × Int) := []
  choices : List (String × List String) := []
  check : Object → Bool := fun _ => true

namespace ArgumentSchema

def allowed (s : ArgumentSchema) : List String :=
  s.requiredText.map Prod.fst ++ s.optionalText.map Prod.fst ++ s.requiredIntegers.map Prod.fst ++
    s.choices.map Prod.fst

def required (s : ArgumentSchema) : List String := s.requiredText.map Prod.fst ++ s.requiredIntegers.map Prod.fst

/-- Neither unknown nor missing names. -/
def Named (s : ArgumentSchema) (arguments : Object) : Prop :=
  (∀ key ∈ arguments.keys, ∃ name ∈ s.allowed, PyStr.ofString name = key) ∧
    ∀ name ∈ s.required, PyStr.ofString name ∈ arguments.keys

instance (s : ArgumentSchema) (arguments : Object) : Decidable (s.Named arguments) :=
  inferInstanceAs (Decidable (_ ∧ _))

end ArgumentSchema

/-- `_validate_argument_text`. -/
def validateArgumentText (value : Value) (name : String) (maximum : Nat) : Except Rejection Unit :=
  match value with
  | .str text =>
    match textFault text maximum (name = "message") with
    | none => .ok ()
    | some fault => .error (.text name fault)
  | _ => .error (.notText name)

def validateInteger (value : Value) (name : String) (least most : Int) : Except Rejection Unit :=
  match value with
  | .int n => if least ≤ n ∧ n ≤ most then .ok () else .error (.range name)
  | _ => .error (.range name)

def validateChoice (value : Value) (name : String) (allowedValues : List String) : Except Rejection Unit :=
  if allowedValues.any (fun choice => isText choice value) then .ok () else .error (.choice name)

/-- `validate`, in `_argument_schema`. -/
def ArgumentSchema.validate (s : ArgumentSchema) (arguments : Object) : Except Rejection Unit :=
  if ¬ s.Named arguments then .error .contract
  else do
    s.requiredText.forM (fun (name, maximum) => validateArgumentText (field arguments name) name maximum)
    s.optionalText.forM (fun (name, maximum) =>
      match arguments.get? name with
      | none => .ok ()
      | some value => validateArgumentText value name maximum)
    s.requiredIntegers.forM (fun (name, least, most) => validateInteger (field arguments name) name least most)
    s.choices.forM (fun (name, allowedValues) => validateChoice (field arguments name) name allowedValues)
    if s.check arguments then .ok () else .error .destination

inductive Validator where
  | noArguments
  | schema (s : ArgumentSchema)

/-- The argument validator of a tool. -/
def Validator.validate : Validator → Object → Except Rejection Unit
  | .noArguments, arguments => if arguments.isEmpty then .ok () else .error .arguments
  | .schema s, arguments => s.validate arguments

/-! ## Destinations -/

/-- What the checks use of Python; `urlencode name value` is `urlencode` of one pair, `none` its
`UnicodeEncodeError`. -/
structure Web where
  tables : Tables
  python : Python
  urlencode : String → PyStr → Option PyStr

variable (web : Web)

def maxQueryLength : Nat := 200
def maxMessageLength : Nat := 4096

/-- `build_web_search_url`. -/
def buildWebSearchUrl (query : PyStr) : Option PyStr :=
  if (textFault query maxQueryLength false).isSome then none
  else (web.urlencode "q" query.strip).bind
    (fun pair => web.tables.validateExternalUrl ("https://www.google.com/search?" ++ pair))

/-- `build_apple_music_search_url`. -/
def buildAppleMusicSearchUrl (term : PyStr) : Option PyStr :=
  if (textFault term maxQueryLength false).isSome then none
  else (web.urlencode "term" term.strip).bind
    (fun pair => web.tables.validateExternalUrl ("https://music.apple.com/es/search?" ++ pair))

/-- `build_whatsapp_compose_url`. -/
def buildWhatsappComposeUrl (phone message : PyStr) : Option PyStr := do
  let normalizedPhone ← normalizePhone phone
  if (textFault message maxMessageLength true).isSome then none
  else
    let pair ← web.urlencode "text" message
    web.tables.validateExternalUrl ("https://wa.me/" ++ normalizedPhone ++ "?" ++ pair)

/-- `build_whatsapp_chat_url`. -/
def buildWhatsappChatUrl (phone : PyStr) : Option PyStr :=
  (normalizePhone phone).bind (fun phone => web.tables.validateExternalUrl ("https://wa.me/" ++ phone))

/-- `validate_timer_id`. -/
def validateTimerId (timerId : PyStr) : Bool :=
  1 ≤ timerId.length && timerId.length ≤ 32 && timerId.all (fun c =>
    (0x41 ≤ c.val && c.val ≤ 0x5A) || (0x61 ≤ c.val && c.val ≤ 0x7A) || (0x30 ≤ c.val && c.val ≤ 0x39) ||
      c.val == 0x5F || c.val == 0x2D)

/-- A text argument, once it was looked at. -/
def textArgument (arguments : Object) (name : String) : PyStr :=
  match field arguments name with
  | .str text => text
  | _ => []

def guildArgument (arguments : Object) : Option PyStr :=
  match field arguments "guild_id" with
  | .str text => some text
  | _ => none

/-! ## The tools -/

def webSearchArguments : ArgumentSchema where
  requiredText := [("query", 200)]
  check arguments := (buildWebSearchUrl web (textArgument arguments "query")).isSome

def musicSearchArguments : ArgumentSchema where
  requiredText := [("term", 200)]
  check arguments := (buildAppleMusicSearchUrl web (textArgument arguments "term")).isSome

def discordOpenArguments : ArgumentSchema where
  requiredText := [("channel_id", 20)]
  optionalText := [("guild_id", 20)]
  check arguments := (buildDiscordChannelUrl web.tables (textArgument arguments "channel_id")
    (guildArgument arguments)).isSome

def whatsappComposeArguments : ArgumentSchema where
  requiredText := [("phone", 32), ("message", 3800)]
  check arguments := (buildWhatsappComposeUrl web (textArgument arguments "phone")
    (textArgument arguments "message")).isSome

def whatsappContactMessageArguments : ArgumentSchema where
  requiredText := [("contact", 80), ("message", 3800)]

def whatsappContactArguments : ArgumentSchema where
  requiredText := [("contact", 80)]

def whatsappPhoneArguments : ArgumentSchema where
  requiredText := [("phone", 32)]
  check arguments := (buildWhatsappChatUrl web (textArgument arguments "phone")).isSome

def discordContactArguments : ArgumentSchema where
  requiredText := [("contact", 80)]

def leagueSearchArguments : ArgumentSchema where
  requiredText := [("queue", 32)]
  check arguments := (resolveQueueId web.python (textArgument arguments "queue")).isSome

def leagueWaitArguments : ArgumentSchema where
  requiredIntegers := [("seconds", 1, 300)]

def mediaActionArguments : ArgumentSchema where
  requiredText := [("action", 16)]
  choices := [("action", ["play_pause", "next", "previous", "stop"])]

def timerCreateArguments : ArgumentSchema where
  requiredIntegers := [("seconds", 1, 7 * 24 * 60 * 60)]
  optionalText := [("label", 120)]

def timerCancelArguments : ArgumentSchema where
  requiredText := [("timer_id", 32)]
  check arguments := validateTimerId (textArgument arguments "timer_id")

def openUrlArguments : ArgumentSchema where
  requiredText := [("url", 2048)]
  check arguments := (web.tables.validateExternalUrl (textArgument arguments "url")).isSome

def openAppArguments : ArgumentSchema where
  requiredText := [("app", 80)]

def audioVolumeArguments : ArgumentSchema where
  requiredIntegers := [("percent", 0, 100)]

structure AgentTool where
  name : String
  safety : Safety
  validator : Validator

/-- The tools of `build_agent_catalog`, in their order. -/
def agentTools : List AgentTool :=
  [⟨"system_status", .safe, .noArguments⟩, ⟨"integration_status", .safe, .noArguments⟩,
    ⟨"system_power", .safe, .noArguments⟩, ⟨"system_network", .safe, .noArguments⟩,
    ⟨"audio_volume", .safe, .schema audioVolumeArguments⟩, ⟨"audio_mute", .safe, .noArguments⟩,
    ⟨"audio_unmute", .safe, .noArguments⟩, ⟨"media_action", .safe, .schema mediaActionArguments⟩,
    ⟨"open_app", .unsafeTool, .schema openAppArguments⟩, ⟨"open_codex", .unsafeTool, .noArguments⟩,
    ⟨"web_search", .unsafeTool, .schema (webSearchArguments web)⟩,
    ⟨"music_search", .unsafeTool, .schema (musicSearchArguments web)⟩, ⟨"music_open", .unsafeTool, .noArguments⟩,
    ⟨"league_open", .unsafeTool, .noArguments⟩, ⟨"discord_open_app", .unsafeTool, .noArguments⟩,
    ⟨"discord_open", .unsafeTool, .schema (discordOpenArguments web)⟩,
    ⟨"discord_call_channel", .unsafeTool, .schema (discordOpenArguments web)⟩,
    ⟨"discord_contact", .unsafeTool, .schema discordContactArguments⟩,
    ⟨"discord_call", .unsafeTool, .schema discordContactArguments⟩,
    ⟨"whatsapp_compose", .unsafeTool, .schema (whatsappComposeArguments web)⟩,
    ⟨"whatsapp_contact", .unsafeTool, .schema whatsappContactMessageArguments⟩,
    ⟨"whatsapp_contact_open", .unsafeTool, .schema whatsappContactArguments⟩,
    ⟨"whatsapp_phone_open", .unsafeTool, .schema (whatsappPhoneArguments web)⟩,
    ⟨"whatsapp_open", .unsafeTool, .noArguments⟩,
    ⟨"league_search", .unsafeTool, .schema (leagueSearchArguments web)⟩,
    ⟨"league_status", .safe, .noArguments⟩, ⟨"league_search_status", .safe, .noArguments⟩,
    ⟨"league_wait", .safe, .schema leagueWaitArguments⟩, ⟨"league_cancel", .unsafeTool, .noArguments⟩,
    ⟨"system_lock", .unsafeTool, .noArguments⟩, ⟨"timer_create", .safe, .schema timerCreateArguments⟩,
    ⟨"timer_list", .safe, .noArguments⟩, ⟨"timer_cancel", .safe, .schema timerCancelArguments⟩,
    ⟨"open_url", .unsafeTool, .schema (openUrlArguments web)⟩]

/-- What a tool does: its handler, the summary of its confirmation, and its preparer. -/
structure Adapter (ω : Type) where
  handler : ω → Object → Except Exn Object
  confirmSummary : ω → Object → Except Exn Value
  confirmationPreparer : Option (ω → Object → Except Exn Value)

variable {ω : Type}

/-- Only the tools that are unsafe have a summary. -/
def AgentTool.definition (tool : AgentTool) (adapter : Adapter ω) : ToolDefinition ω where
  name := tool.name
  handler := adapter.handler
  safety := tool.safety
  confirmSummary := if tool.safety = .unsafeTool then some adapter.confirmSummary else none
  argumentValidator := some (fun _ arguments =>
    match tool.validator.validate arguments with
    | .ok () => .ok ()
    | .error _ => .error .valueError)
  confirmationPreparer := adapter.confirmationPreparer
  summarised h := by rw [if_pos h]; rfl

/-- `build_agent_catalog`. -/
def buildAgentCatalog (adapters : String → Adapter ω) : ToolCatalog ω where
  entries := (agentTools web).map (fun tool => (PyStr.ofString tool.name, tool.definition (adapters tool.name)))
  nodup := by
    have hnames : ((agentTools web).map AgentTool.name).Nodup := by
      simp [agentTools]
    have hkeys : ((agentTools web).map (fun tool =>
        (PyStr.ofString tool.name, tool.definition (adapters tool.name)))).map Prod.fst =
        ((agentTools web).map AgentTool.name).map PyStr.ofString := by
      rw [List.map_map, List.map_map]
      rfl
    rw [hkeys]
    exact hnames.map fun _ _ => PyStr.ofString_inj.mp

/-! ## Rejections -/

/-- Why a validator may reject arguments that have the right names and kinds. -/
inductive Ground where
  | length
  | characters
  | range
  | destination
  deriving DecidableEq

def Rejection.ground? : Rejection → Option Ground
  | .text _ .tooLong => some .length
  | .text _ .surrogates | .text _ .forbidden => some .characters
  | .range _ => some .range
  | .destination => some .destination
  | _ => none

theorem forM_error {α ε : Type} {f : α → Except ε Unit} {l : List α} {e : ε} (h : l.forM f = .error e) :
    ∃ a ∈ l, f a = .error e := by
  induction l with
  | nil => cases h
  | cons a l ih =>
    rw [show (a :: l).forM f = (f a >>= fun _ => l.forM f) from rfl] at h
    cases ha : f a with
    | error e' =>
      rw [ha] at h
      cases h
      exact ⟨a, List.mem_cons_self, ha⟩
    | ok _ =>
      rw [ha] at h
      obtain ⟨b, hb, hfb⟩ := ih h
      exact ⟨b, List.mem_cons_of_mem a hb, hfb⟩

theorem bind_error {α β ε : Type} {x : Except ε α} {f : α → Except ε β} {e : ε} (h : (x >>= f) = .error e) :
    x = .error e ∨ ∃ a, f a = .error e := by
  cases x with
  | error e' =>
    cases h
    exact Or.inl rfl
  | ok a => exact Or.inr ⟨a, h⟩

/-- The characters that no argument may have. -/
def refusedCharacter (c : CodePoint) : Bool := c.isSurrogate || Core.forbidden c

/-- What `validate_bounded_text` accepts has none of them. -/
theorem refusedCharacter_bounded {text : PyStr} {maximum : Nat} (h : validateBoundedText text maximum = .ok text) :
    ∀ c ∈ text, refusedCharacter c = false := by
  obtain ⟨-, hbounded⟩ := validateBoundedText_ok.mp h
  intro c hc
  rw [refusedCharacter, Bool.or_eq_false_iff]
  exact ⟨hbounded.encodes c hc, hbounded.allowed c hc⟩

/-- What is wrong with a text that is not blank: its length, or a character. -/
theorem textFault_cases {text : PyStr} {maximum : Nat} {allowLineFeed : Bool} {fault : TextFault}
    (hblank : text.strip ≠ []) (h : textFault text maximum allowLineFeed = some fault) :
    fault = .tooLong ∨ (fault = .surrogates ∨ fault = .forbidden) ∧ ∃ c ∈ text, refusedCharacter c = true := by
  unfold textFault at h
  rw [if_neg (by simpa [PyStr.isBlank] using hblank)] at h
  cases hencode : text.encode with
  | none =>
    rw [hencode] at h
    refine Or.inr ⟨Or.inl (Option.some.inj h).symm, ?_⟩
    rw [PyStr.encode] at hencode
    split at hencode
    · rename_i hany
      obtain ⟨c, hc, hsurrogate⟩ := List.any_eq_true.mp hany
      exact ⟨c, hc, by rw [refusedCharacter, hsurrogate, Bool.true_or]⟩
    · cases hencode
  | some encoded =>
    rw [hencode] at h
    simp only at h
    split at h
    · exact Or.inl (Option.some.inj h).symm
    split at h
    · rename_i hany
      obtain ⟨c, hc, hforbidden⟩ := List.any_eq_true.mp hany
      refine Or.inr ⟨Or.inr (Option.some.inj h).symm, c, hc, ?_⟩
      rw [refusedCharacter, (Bool.and_eq_true_iff.mp hforbidden).1, Bool.or_true]
    · cases h

theorem validateArgumentText_error {text : PyStr} {name : String} {maximum : Nat} {r : Rejection}
    (hblank : text.strip ≠ []) (h : validateArgumentText (.str text) name maximum = .error r) :
    r.ground? = some .length ∨ r.ground? = some .characters ∧ ∃ c ∈ text, refusedCharacter c = true := by
  unfold validateArgumentText at h
  cases hfault : textFault text maximum (name = "message") with
  | none =>
    simp only [hfault] at h
    cases h
  | some fault =>
    simp only [hfault] at h
    obtain rfl := Except.error.inj h
    obtain rfl | ⟨rfl | rfl, hmem⟩ := textFault_cases hblank hfault
    · exact Or.inl rfl
    · exact Or.inr ⟨rfl, hmem⟩
    · exact Or.inr ⟨rfl, hmem⟩

/-! ## Arguments that fit -/

/-- A text that is not blank, with no refused character that `source` does not have. -/
def Readable (source text : PyStr) : Prop := text.strip ≠ [] ∧ ∀ c ∈ text, refusedCharacter c = true → c ∈ source

/-- Arguments with the names of the contract, and of its kinds: texts that are not blank, and integers. -/
structure ArgumentSchema.Fits (s : ArgumentSchema) (source : PyStr) (arguments : Object) : Prop where
  named : s.Named arguments
  distinct : arguments.keys.Nodup
  texts : ∀ name ∈ s.requiredText.map Prod.fst ++ s.optionalText.map Prod.fst, ∀ value,
    arguments.get? (PyStr.ofString name) = some value → ∃ text, value = .str text ∧ Readable source text
  integers : ∀ name ∈ s.requiredIntegers.map Prod.fst, ∃ n, arguments.get? (PyStr.ofString name) = some (.int n)
  choices : ∀ name allowedValues, (name, allowedValues) ∈ s.choices →
    validateChoice (field arguments name) name allowedValues = .ok ()

theorem get?_of_mem_keys {arguments : Object} {key : PyStr} (h : key ∈ arguments.keys) :
    ∃ value, arguments.get? key = some value := by
  obtain ⟨entry, hentry, rfl⟩ := List.mem_map.mp h
  have hfound : (arguments.find? (fun e => e.1 = entry.1)).isSome = true := by
    rw [List.find?_isSome]
    exact ⟨entry, hentry, decide_eq_true rfl⟩
  obtain ⟨found, hfound⟩ := Option.isSome_iff_exists.mp hfound
  exact ⟨found.2, by rw [Object.get?, hfound]; rfl⟩

/-- What is left to a validator of arguments that fit. -/
theorem ArgumentSchema.Fits.rejected {s : ArgumentSchema} {source : PyStr} {arguments : Object}
    (h : s.Fits source arguments) {r : Rejection} (hr : s.validate arguments = .error r) :
    (r.ground? = some .length ∨ r.ground? = some .range ∨ r.ground? = some .destination) ∨
      r.ground? = some .characters ∧ ∃ c ∈ source, refusedCharacter c = true := by
  have htext {name : String} {maximum : Nat} {value : Value}
      (hname : name ∈ s.requiredText.map Prod.fst ++ s.optionalText.map Prod.fst)
      (hvalue : arguments.get? (PyStr.ofString name) = some value)
      (hr : validateArgumentText value name maximum = .error r) :
      (r.ground? = some .length ∨ r.ground? = some .range ∨ r.ground? = some .destination) ∨
        r.ground? = some .characters ∧ ∃ c ∈ source, refusedCharacter c = true := by
    obtain ⟨text, rfl, hblank, hsource⟩ := h.texts name hname value hvalue
    obtain hlength | ⟨hground, c, hc, hrefused⟩ := validateArgumentText_error hblank hr
    · exact Or.inl (Or.inl hlength)
    · exact Or.inr ⟨hground, c, hsource c hc hrefused, hrefused⟩
  have hpresent {name : String} (hname : name ∈ s.required) :
      arguments.get? (PyStr.ofString name) = some (field arguments name) := by
    obtain ⟨value, hvalue⟩ := get?_of_mem_keys (h.named.2 name hname)
    rw [field, hvalue]
    rfl
  rw [ArgumentSchema.validate, if_neg (not_not.mpr h.named)] at hr
  obtain hr | ⟨-, hr⟩ := bind_error hr
  · obtain ⟨⟨name, maximum⟩, hmem, hr⟩ := forM_error hr
    have hname : name ∈ s.requiredText.map Prod.fst := List.mem_map_of_mem hmem
    exact htext (List.mem_append_left _ hname) (hpresent (List.mem_append_left _ hname)) hr
  obtain hr | ⟨-, hr⟩ := bind_error hr
  · obtain ⟨⟨name, maximum⟩, hmem, hr⟩ := forM_error hr
    have hname : name ∈ s.optionalText.map Prod.fst := List.mem_map_of_mem hmem
    simp only at hr
    cases hvalue : arguments.get? (PyStr.ofString name) with
    | none =>
      rw [hvalue] at hr
      cases hr
    | some value =>
      rw [hvalue] at hr
      exact htext (List.mem_append_right _ hname) hvalue hr
  obtain hr | ⟨-, hr⟩ := bind_error hr
  · obtain ⟨⟨name, least, most⟩, hmem, hr⟩ := forM_error hr
    obtain ⟨n, hn⟩ := h.integers name (List.mem_map_of_mem hmem)
    simp only at hr
    rw [show field arguments name = .int n by rw [field, hn]; rfl] at hr
    simp only [validateInteger] at hr
    split at hr
    · cases hr
    · obtain rfl := Except.error.inj hr
      exact Or.inl (Or.inr (Or.inl rfl))
  obtain hr | ⟨-, hr⟩ := bind_error hr
  · obtain ⟨⟨name, allowedValues⟩, hmem, hr⟩ := forM_error hr
    simp only at hr
    rw [h.choices name allowedValues hmem] at hr
    cases hr
  split at hr
  · cases hr
  · obtain rfl := Except.error.inj hr
    exact Or.inl (Or.inr (Or.inr rfl))

/-- `ArgumentSchema.Fits`, and no arguments where there are to be none. -/
def Validator.Fits : Validator → PyStr → Object → Prop
  | .noArguments, _, arguments => arguments = []
  | .schema s, source, arguments => s.Fits source arguments

theorem Validator.Fits.rejected {v : Validator} {source : PyStr} {arguments : Object} (h : v.Fits source arguments)
    {r : Rejection} (hr : v.validate arguments = .error r) :
    (r.ground? = some .length ∨ r.ground? = some .range ∨ r.ground? = some .destination) ∨
      r.ground? = some .characters ∧ ∃ c ∈ source, refusedCharacter c = true := by
  cases v with
  | noArguments =>
    obtain rfl := h
    cases hr
  | schema s => exact ArgumentSchema.Fits.rejected h hr

/-! ## Names that start with an underscore -/

/-- The names a validator knows. -/
def Validator.names : Validator → List String
  | .noArguments => []
  | .schema s => s.allowed

/-- An internal name. -/
def isInternal (key : PyStr) : Bool := key.head? = some (CodePoint.ofChar '_')

theorem names_not_internal : ∀ tool ∈ agentTools web, ∀ name ∈ tool.validator.names,
    isInternal (PyStr.ofString name) = false := by
  have hall : (agentTools web).all (fun tool =>
      tool.validator.names.all (fun name => !isInternal (PyStr.ofString name))) = true := rfl
  intro tool htool name hname
  simpa using List.all_eq_true.mp (List.all_eq_true.mp hall tool htool) name hname

variable {web}

theorem Validator.rejects_unknown {v : Validator} {arguments : Object} {key : PyStr} (hkey : key ∈ arguments.keys)
    (hunknown : ∀ name ∈ v.names, PyStr.ofString name ≠ key) : ∃ r, v.validate arguments = .error r := by
  cases v with
  | noArguments =>
    cases arguments with
    | nil => cases hkey
    | cons e arguments => exact ⟨.arguments, rfl⟩
  | schema s =>
    refine ⟨.contract, if_pos fun hnamed => ?_⟩
    obtain ⟨name, hname, heq⟩ := hnamed.1 key hkey
    exact hunknown name hname heq

/-- What the catalog has under a name: a tool of the table. -/
theorem buildAgentCatalog_get? {adapters : String → Adapter ω} {name : PyStr} {d : ToolDefinition ω}
    (h : (buildAgentCatalog web adapters).get? name = some d) :
    ∃ tool ∈ agentTools web, d = tool.definition (adapters tool.name) := by
  obtain ⟨tool, htool, heq⟩ := List.mem_map.mp (Dict.get?_eq_some.mp h)
  exact ⟨tool, htool, (Prod.mk.inj heq).2.symm⟩

/-- The validator of a tool raises for an internal name, and the router has done nothing before. -/
theorem invoke_internal {adapters : String → Adapter ω} {ttl now : Int} {token : PyStr} {w : ω} {p : Pending}
    {name : PyStr} {arguments : Object} {ownerId callId requestDigest : Option PyStr}
    (hinternal : ∃ key ∈ arguments.keys, isInternal key = true) :
    ∃ e : Exn, e.isRefusal = true ∧ ToolRouter.invoke (buildAgentCatalog web adapters) ttl now token w p name
      arguments none ownerId callId requestDigest = ⟨p, [], .error e⟩ := by
  obtain ⟨key, hkey, hinternal⟩ := hinternal
  unfold ToolRouter.invoke
  cases hget : (buildAgentCatalog web adapters).get? name with
  | none => exact ⟨.keyError, rfl, rfl⟩
  | some d =>
    obtain ⟨tool, htool, rfl⟩ := buildAgentCatalog_get? hget
    obtain ⟨r, hr⟩ := Validator.rejects_unknown (v := tool.validator) hkey (by
      rintro other hother rfl
      rw [names_not_internal web tool htool other hother] at hinternal
      cases hinternal)
    refine ⟨.valueError, rfl, ?_⟩
    simp only [ToolDefinition.validateArguments, AgentTool.definition, hr]

end Pipa.Tools
