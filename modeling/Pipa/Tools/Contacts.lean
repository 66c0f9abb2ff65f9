import Mathlib.Data.List.Dedup
import Pipa.Intents.Pattern
import Pipa.Lib.Dict
import Pipa.Lib.Json
import Pipa.Lib.Labels

/- The local contacts (`contacts.py`): a name and aliases for each destination, told
   apart after case and accents are folded away.

   The validator goes through the contacts in their order and refuses a label it has
   seen; that is the loop of `Reserves`. So what it accepts does not depend on the
   order, and `_find` has one contact to return, with a destination that was checked
   (`Leads`). It looks at the query first as it looks at a label: a query of more than
   80 characters is refused, whatever it folds to, and so are invisible ones.

   The Unicode tables are a parameter. The contacts are what `parse_json_object` has
   made of the file, and `None` is a file that is not there. -/
namespace Pipa.Tools.Contacts
open Pipa.Lib
open Pipa.Intents (Unicode)

/-- The general categories that labels must not have, and the others. -/
inductive Category where
  | cc | cf | cs | co | cn | other
  deriving DecidableEq

/-- What the tools take from Unicode, and `validate_external_url`. -/
structure Tables where
  unicode : Unicode
  category : CodePoint → Category
  validateExternalUrl : PyStr → Option PyStr

structure ContactsConfigError where
  message : PyStr

structure Contact where
  name : PyStr
  aliases : List PyStr
  whatsappPhone : Option PyStr
  discordChannelId : Option PyStr
  discordGuildId : Option PyStr

def maxContacts : Nat := 64
def maxAliasesPerContact : Nat := 16
def maxAliasLength : Nat := 80

/-- `_CONTACT_FIELDS`. -/
def contactFields : List PyStr := ["aliases", "whatsapp_phone", "discord_channel_id", "discord_guild_id"]

variable (t : Tables)

/-! ## Texts -/

/-- `_fold`. -/
def fold (value : PyStr) : PyStr :=
  (t.unicode.nfkd (t.unicode.casefold value)).filter (fun char => !t.unicode.combining char)

/-- `_is_forbidden_label_character`. -/
def isForbiddenLabelCharacter (character : CodePoint) : Bool := t.category character ≠ .other

/-- `_text`. -/
def text (value : Value) (fieldName : PyStr) (maximum : Nat) : Except ContactsConfigError PyStr :=
  match value with
  | .str value =>
    if value.strip.isEmpty || value.strip.length > maximum || value.strip.any (isForbiddenLabelCharacter t) then
      .error ⟨fieldName ++ " no es válido."⟩
    else .ok value.strip
  | _ => .error ⟨fieldName ++ " debe ser texto."⟩

def isDigit (c : CodePoint) : Bool := 0x30 ≤ c.val && c.val ≤ 0x39

/-- `_PHONE_ALLOWED`: `^[1-9][0-9]{6,14}$`. -/
def isPhone : PyStr → Bool
  | [] => false
  | c :: s => isDigit c && c.val ≠ 0x30 && 6 ≤ s.length && s.length ≤ 14 && s.all isDigit

/-- `normalize_phone`; `none` is its `ValueError`. -/
def normalizePhone (phone : PyStr) : Option PyStr :=
  -- `_PHONE_FORMATTING`: a space, parentheses, a point and a hyphen
  let normalized := phone.strip.filter (fun c => !(c.val ∈ [0x20, 0x28, 0x29, 0x2E, 0x2D]))
  let normalized := if normalized.head?.any (·.val == 0x2B) then normalized.drop 1 else normalized
  if isPhone normalized then some normalized else none

/-- `_validate_snowflake`. -/
def validateSnowflake (value : PyStr) : Option PyStr :=
  let candidate := value.strip
  if !(17 ≤ candidate.length && candidate.length ≤ 20 && candidate.all isDigit) ||
      candidate.head?.any (·.val == 0x30) then none
  else some candidate

/-- `build_discord_channel_url`; `none` is its `ValueError`. -/
def buildDiscordChannelUrl (channelId : PyStr) (guildId : Option PyStr) : Option PyStr := do
  let channel ← validateSnowflake channelId
  let guild ← match guildId with
    | none => some ("@me" : PyStr)
    | some guildId => validateSnowflake guildId
  t.validateExternalUrl ("https://discord.com/channels/" ++ guild ++ "/" ++ channel)

/-! ## One contact -/

/-- `raw_data.get(field)`; a field that is there with `null` reads the same. -/
def field (rawData : Object) (name : String) : Value := (rawData.get? name).getD .null

/-- The aliases. Without any, the name is the one. -/
def checkAliases (name : PyStr) (rawData : Object) : Except ContactsConfigError (List PyStr) :=
  match (rawData.get? "aliases").getD (.list [.str name]) with
  | .list values =>
    if values.isEmpty || values.length > maxAliasesPerContact then
      .error ⟨"Aliases inválidos para '" ++ name ++ "'."⟩
    else match values.mapM (fun value => text t value "El alias" maxAliasLength) with
      | .error e => .error e
      | .ok aliases =>
        if (aliases.map (fold t)).dedup.length ≠ aliases.length then
          .error ⟨"El alias está repetido para '" ++ name ++ "'."⟩
        else .ok aliases
  | _ => .error ⟨"Aliases inválidos para '" ++ name ++ "'."⟩

/-- The telephone. What `_text` raises is a `ValueError` too. -/
def checkPhone (name : PyStr) (rawData : Object) : Except ContactsConfigError (Option PyStr) :=
  match field rawData "whatsapp_phone" with
  | .null => .ok none
  | phoneValue =>
    match (text t phoneValue "whatsapp_phone" 32).toOption.bind normalizePhone with
    | none => .error ⟨"Teléfono inválido para '" ++ name ++ "'."⟩
    | some phone => .ok (some phone)

/-- The channel and its server. -/
def checkChannel (name : PyStr) (rawData : Object) : Except ContactsConfigError (Option PyStr × Option PyStr) :=
  match field rawData "discord_channel_id", field rawData "discord_guild_id" with
  | .null, .null => .ok (none, none)
  | .null, _ => .error ⟨"discord_guild_id requiere discord_channel_id para '" ++ name ++ "'."⟩
  | channelValue, guildValue =>
    match text t channelValue "discord_channel_id" 20 with
    | .error e => .error e
    | .ok channelId =>
      let guildId : Except ContactsConfigError (Option PyStr) := match guildValue with
        | .null => .ok none
        | guildValue => (text t guildValue "discord_guild_id" 20).map some
      match guildId with
      | .error e => .error e
      | .ok guildId =>
        if (buildDiscordChannelUrl t channelId guildId).isNone then
          .error ⟨"Canal Discord inválido para '" ++ name ++ "'."⟩
        else .ok (some channelId, guildId)

/-- One turn of the loop, as far as it is about the contact alone. -/
def checkContact (rawName : PyStr) (rawData : Value) : Except ContactsConfigError Contact :=
  match text t (.str rawName) "El nombre del contacto" maxAliasLength with
  | .error e => .error e
  | .ok name =>
    match rawData with
    | .dict rawData =>
      if (Object.keys rawData).any (fun key => !contactFields.contains key) then
        .error ⟨"Hay campos desconocidos para '" ++ name ++ "'."⟩
      else match checkAliases t name rawData with
        | .error e => .error e
        | .ok aliases =>
          match checkPhone t name rawData with
          | .error e => .error e
          | .ok whatsappPhone =>
            match checkChannel t name rawData with
            | .error e => .error e
            | .ok (discordChannelId, discordGuildId) =>
              if whatsappPhone.isNone && discordChannelId.isNone then
                .error ⟨"'" ++ name ++ "' no tiene ningún destino configurado."⟩
              else .ok ⟨name, aliases, whatsappPhone, discordChannelId, discordGuildId⟩
    | _ => .error ⟨"Configuración inválida para '" ++ name ++ "'."⟩

/-! ## All contacts -/

/-- The locals of `validate_contacts`. -/
structure Loaded where
  contacts : Dict PyStr Contact := Dict.empty
  seenLabels : Dict PyStr PyStr := Dict.empty

/-- The inner loop: an alias that is the name again is passed over. -/
def addAlias (name : PyStr) (seenLabels : Dict PyStr PyStr) (label : PyStr) :
    Except ContactsConfigError (Dict PyStr PyStr) :=
  if fold t label = fold t name then .ok seenLabels
  else if seenLabels.contains (fold t label) then .error ⟨"El alias '" ++ label ++ "' está repetido."⟩
  else .ok (seenLabels.set (fold t label) name)

/-- The rest of a turn. -/
def addContact (s : Loaded) (entry : PyStr × Value) : Except ContactsConfigError Loaded :=
  match checkContact t entry.1 entry.2 with
  | .error e => .error e
  | .ok contact =>
    if s.seenLabels.contains (fold t contact.name) then
      .error ⟨"El nombre o alias '" ++ contact.name ++ "' está repetido."⟩
    else
      let seenLabels := s.seenLabels.set (fold t contact.name) contact.name
      match contact.aliases.foldlM (addAlias t contact.name) seenLabels with
      | .error e => .error e
      | .ok seenLabels => .ok ⟨s.contacts.set (fold t contact.name) contact, seenLabels⟩

/-- `validate_contacts`; the values of the `dict`, in its order, are the contacts. -/
def validateContacts (payload : Value) : Except ContactsConfigError (Dict PyStr Contact) :=
  match payload with
  | .dict entries =>
    if entries.length > maxContacts then .error ⟨"Los contactos deben ser un objeto de tamaño limitado."⟩
    else (entries.foldlM (addContact t) {}).map Loaded.contacts
  | _ => .error ⟨"Los contactos deben ser un objeto de tamaño limitado."⟩

/-- `load_contacts`, once the file was parsed. -/
def loadContacts (file : Option Value) : Except ContactsConfigError (Dict PyStr Contact) :=
  match file with
  | none => .ok Dict.empty
  | some payload => validateContacts t payload

/-- What `_find` raises: a `ValueError` of its own, or what `load_contacts` raises. -/
inductive FindError where
  | value (message : PyStr)
  | config (e : ContactsConfigError)

/-- Whether a folded text is a label of the contact. -/
def answersTo (folded : PyStr) (contact : Contact) : Bool :=
  folded = fold t contact.name || contact.aliases.any (fun item => folded = fold t item)

/-- `_find`. -/
def find (file : Option Value) (label : PyStr) : Except FindError Contact :=
  match text t (.str label) "El contacto" maxAliasLength with
  | .error _ => .error (.value "El contacto no es válido.")
  | .ok query =>
    match loadContacts t file with
    | .error e => .error (.config e)
    | .ok contacts =>
      match contacts.values.find? (answersTo t (fold t query)) with
      | none => .error (.value "No existe ese contacto local.")
      | some contact => .ok contact

/-- `resolve_whatsapp_contact`. -/
def resolveWhatsappContact (file : Option Value) (label : PyStr) : Except FindError (PyStr × PyStr) :=
  match find t file label with
  | .error e => .error e
  | .ok contact =>
    match contact.whatsappPhone with
    | none => .error (.value "Ese contacto no tiene WhatsApp configurado.")
    | some phone => .ok (contact.name, phone)

/-- `resolve_discord_contact`. -/
def resolveDiscordContact (file : Option Value) (label : PyStr) :
    Except FindError (PyStr × PyStr × Option PyStr) :=
  match find t file label with
  | .error e => .error e
  | .ok contact =>
    match contact.discordChannelId with
    | none => .error (.value "Ese contacto no tiene Discord configurado.")
    | some channelId => .ok (contact.name, channelId, contact.discordGuildId)

/-! ## Labels -/

variable {t}

/-- What a text is that `_text` returns: it has been looked at, and would be returned again. -/
theorem text_ok {value : Value} {fieldName s : PyStr} {maximum : Nat} (h : text t value fieldName maximum = .ok s)
    (other : PyStr) : text t (.str s) other maximum = .ok s := by
  unfold text at h
  split at h
  · rename_i value
    split at h
    · cases h
    · rename_i hvalid
      obtain rfl := Except.ok.inj h
      rw [text, PyStr.strip_strip, if_neg hvalid]
  · cases h

theorem mem_of_mapM_ok {α β ε : Type} {f : α → Except ε β} {l : List α} {bs : List β} (h : l.mapM f = .ok bs) :
    ∀ b ∈ bs, ∃ a ∈ l, f a = .ok b := by
  induction l generalizing bs with
  | nil =>
    obtain rfl := Except.ok.inj h
    exact List.forall_mem_nil _
  | cons a l ih =>
    rw [List.mapM_cons] at h
    cases ha : f a with
    | error e =>
      rw [ha] at h
      cases h
    | ok b =>
      cases hl : l.mapM f with
      | error e =>
        rw [ha, hl] at h
        cases h
      | ok later =>
        rw [ha, hl] at h
        obtain rfl := Except.ok.inj h
        refine List.forall_mem_cons.mpr ⟨⟨a, List.mem_cons_self, ha⟩, fun c hc => ?_⟩
        obtain ⟨a', ha', hc'⟩ := ih hl c hc
        exact ⟨a', List.mem_cons_of_mem a ha', hc'⟩

/-- What the checks of a contact that was let through have returned. -/
theorem checkContact_fields {rawName : PyStr} {rawData : Value} {contact : Contact}
    (h : checkContact t rawName rawData = .ok contact) :
    ∃ fields fieldName, text t (.str rawName) fieldName maxAliasLength = .ok contact.name ∧
      checkAliases t contact.name fields = .ok contact.aliases ∧
      checkPhone t contact.name fields = .ok contact.whatsappPhone ∧
      checkChannel t contact.name fields = .ok (contact.discordChannelId, contact.discordGuildId) ∧
      (contact.whatsappPhone.isSome = true ∨ contact.discordChannelId.isSome = true) := by
  unfold checkContact at h
  split at h
  · cases h
  rename_i name hname
  split at h
  · rename_i fields
    split at h
    · cases h
    split at h
    · cases h
    rename_i aliases haliases
    split at h
    · cases h
    rename_i whatsappPhone hphone
    split at h
    · cases h
    rename_i discordChannelId discordGuildId hchannel
    split at h
    · cases h
    rename_i hdestination
    obtain rfl := Except.ok.inj h
    refine ⟨fields, _, hname, haliases, hphone, hchannel, ?_⟩
    -- without either destination the last check would have refused it
    cases whatsappPhone with
    | some phone => exact Or.inl rfl
    | none =>
      cases discordChannelId with
      | some channelId => exact Or.inr rfl
      | none => exact absurd rfl hdestination
  · cases h

theorem checkAliases_ok {name : PyStr} {rawData : Object} {aliases : List PyStr}
    (h : checkAliases t name rawData = .ok aliases) :
    (∀ label ∈ aliases, ∀ other, text t (.str label) other maxAliasLength = .ok label) ∧
      (aliases.map (fold t)).Nodup := by
  unfold checkAliases at h
  split at h
  · split at h
    · cases h
    split at h
    · cases h
    rename_i values _ texts htexts
    split at h
    · cases h
    rename_i hdistinct
    obtain rfl := Except.ok.inj h
    refine ⟨?_, ?_⟩
    · intro label hlabel
      obtain ⟨value, -, htext⟩ := mem_of_mapM_ok htexts label hlabel
      exact text_ok htext
    · have hlength : (List.map (fold t) texts).dedup.length = (List.map (fold t) texts).length := by
        rw [List.length_map]
        exact not_not.mp hdistinct
      rw [← (List.dedup_sublist _).eq_of_length hlength]
      exact List.nodup_dedup _
  · cases h

/-- A contact that was let through: its name and its aliases are texts, and no alias is there twice. -/
theorem checkContact_ok {rawName : PyStr} {rawData : Value} {contact : Contact}
    (h : checkContact t rawName rawData = .ok contact) :
    (∀ label ∈ contact.name :: contact.aliases, ∀ other, text t (.str label) other maxAliasLength = .ok label) ∧
      (contact.aliases.map (fold t)).Nodup := by
  obtain ⟨fields, fieldName, hname, haliases, -, -, -⟩ := checkContact_fields h
  obtain ⟨htexts, hdistinct⟩ := checkAliases_ok haliases
  exact ⟨List.forall_mem_cons.mpr ⟨text_ok hname, htexts⟩, hdistinct⟩

/-- What a contact answers to. -/
def contactLabels (t : Tables) (contact : Contact) : List PyStr :=
  fold t contact.name :: contact.aliases.map (fold t)

theorem answersTo_iff {folded : PyStr} {contact : Contact} :
    answersTo t folded contact = true ↔ folded ∈ contactLabels t contact := by
  simp only [answersTo, contactLabels, Bool.or_eq_true, decide_eq_true_eq, List.any_eq_true, List.mem_cons,
    List.mem_map]
  constructor
  · rintro (h | ⟨item, hitem, h⟩)
    · exact Or.inl h
    · exact Or.inr ⟨item, hitem, h.symm⟩
  · rintro (h | ⟨item, hitem, h⟩)
    · exact Or.inl h
    · exact Or.inr ⟨item, hitem, h.symm⟩

/-- The contact that an entry is read as. -/
def parse (t : Tables) (entry : PyStr × Value) : Option Contact := (checkContact t entry.1 entry.2).toOption

/-- The labels of an entry; none where it is refused. -/
def entryLabels (t : Tables) (entry : PyStr × Value) : List PyStr := (parse t entry).elim [] (contactLabels t)

theorem parse_eq_some {entry : PyStr × Value} {contact : Contact} :
    parse t entry = some contact ↔ checkContact t entry.1 entry.2 = .ok contact := by
  unfold parse
  cases checkContact t entry.1 entry.2 with
  | error e => exact iff_of_false nofun nofun
  | ok other =>
    show some other = some contact ↔ _
    rw [Option.some.injEq, Except.ok.injEq]

theorem entryLabels_eq {entry : PyStr × Value} {contact : Contact}
    (h : checkContact t entry.1 entry.2 = .ok contact) : entryLabels t entry = contactLabels t contact := by
  rw [entryLabels, parse_eq_some.mpr h]
  rfl

theorem contains_set {seenLabels : Dict PyStr PyStr} {k k' name : PyStr} :
    (seenLabels.set k name).contains k' = true ↔ k' = k ∨ seenLabels.contains k' = true := by
  rw [Dict.contains, Dict.get?_set]
  split
  · rename_i heq
    exact iff_of_true rfl (Or.inl heq)
  · rename_i hne
    simp only [hne, false_or, Dict.contains]

/-- The label of an alias that is not the name. -/
def otherLabels (t : Tables) (name label : PyStr) : List PyStr :=
  if fold t label = fold t name then [] else [fold t label]

/-- The inner loop goes by the labels. -/
theorem addAlias_reserves (name : PyStr) :
    Reserves (addAlias t name) (fun seenLabels k => seenLabels.contains k = true) (fun _ => True)
      (otherLabels t name) where
  accepts := by
    intro seenLabels label _ hnew
    unfold addAlias
    by_cases hname : fold t label = fold t name
    · exact ⟨_, if_pos hname⟩
    · have hfree := hnew (fold t label) (by rw [otherLabels, if_neg hname]; exact List.mem_singleton_self _)
      exact ⟨_, by rw [if_neg hname, if_neg hfree]⟩
  accepted := by
    intro seenLabels label seenLabels' h
    refine ⟨trivial, fun k hk => ?_⟩
    unfold otherLabels at hk
    unfold addAlias at h
    split at hk
    · cases hk
    · rename_i hname
      obtain rfl := List.mem_singleton.mp hk
      rw [if_neg hname] at h
      split at h
      · cases h
      · assumption
  sees := by
    intro seenLabels label seenLabels' h k
    unfold addAlias at h
    unfold otherLabels
    split at h
    · obtain rfl := Except.ok.inj h
      rename_i hname
      rw [if_pos hname]
      exact (or_iff_left List.not_mem_nil).symm
    · rename_i hname
      split at h
      · cases h
      · obtain rfl := Except.ok.inj h
        rw [if_neg hname, contains_set, List.mem_singleton, or_comm]

/-- Aliases that differ from each other have no label in common. -/
theorem apart_otherLabels {name : PyStr} {aliases : List PyStr} (h : (aliases.map (fold t)).Nodup) :
    Apart (otherLabels t name) aliases := by
  refine List.Pairwise.imp ?_ (List.pairwise_map.mp h)
  intro label label' hne k hk hk'
  unfold otherLabels at hk hk'
  split at hk
  · cases hk
  split at hk'
  · cases hk'
  exact hne ((List.mem_singleton.mp hk).symm.trans (List.mem_singleton.mp hk'))

theorem mem_contactLabels {contact : Contact} {k : PyStr} : k ∈ contactLabels t contact ↔
    k = fold t contact.name ∨ ∃ label ∈ contact.aliases, k ∈ otherLabels t contact.name label := by
  rw [contactLabels, List.mem_cons, List.mem_map]
  constructor
  · rintro (hname | ⟨label, hlabel, rfl⟩)
    · exact Or.inl hname
    · by_cases hname : fold t label = fold t contact.name
      · exact Or.inl hname
      · exact Or.inr ⟨label, hlabel, by rw [otherLabels, if_neg hname]; exact List.mem_singleton_self _⟩
  · rintro (hname | ⟨label, hlabel, hk⟩)
    · exact Or.inl hname
    · unfold otherLabels at hk
      split at hk
      · cases hk
      · exact Or.inr ⟨label, hlabel, (List.mem_singleton.mp hk).symm⟩

/-- What one turn of `validate_contacts` has done. -/
theorem addContact_ok {s s' : Loaded} {entry : PyStr × Value} (h : addContact t s entry = .ok s') :
    ∃ contact, checkContact t entry.1 entry.2 = .ok contact ∧
      (∀ k ∈ contactLabels t contact, ¬ s.seenLabels.contains k = true) ∧
      (∀ k, s'.seenLabels.contains k = true ↔ s.seenLabels.contains k = true ∨ k ∈ contactLabels t contact) ∧
      s'.contacts = s.contacts.set (fold t contact.name) contact := by
  unfold addContact at h
  split at h
  · cases h
  rename_i contact hcheck
  split at h
  · cases h
  rename_i hname
  dsimp only at h
  split at h
  · cases h
  rename_i seenLabels hadd
  obtain rfl := Except.ok.inj h
  have hreserves := addAlias_reserves (t := t) contact.name
  obtain ⟨-, -, hnew⟩ := (hreserves.accepts_iff _ _).mp ⟨seenLabels, hadd⟩
  refine ⟨contact, hcheck, fun k hk hcontains => ?_, fun k => ?_, rfl⟩
  · obtain rfl | ⟨label, hlabel, hk⟩ := mem_contactLabels.mp hk
    · exact hname hcontains
    · exact hnew label hlabel k hk (contains_set.mpr (Or.inr hcontains))
  · rw [hreserves.sees_run hadd k, contains_set, mem_contactLabels, or_assoc, or_left_comm]

/-- The loop of `validate_contacts` goes by the labels. -/
theorem addContact_reserves : Reserves (addContact t) (fun s k => s.seenLabels.contains k = true)
    (fun entry => ∃ contact, checkContact t entry.1 entry.2 = .ok contact) (entryLabels t) where
  accepts := by
    rintro s entry ⟨contact, hcheck⟩ hnew
    rw [entryLabels_eq hcheck] at hnew
    have hreserves := addAlias_reserves (t := t) contact.name
    obtain ⟨seenLabels, hadd⟩ := (hreserves.accepts_iff (s.seenLabels.set (fold t contact.name) contact.name)
      contact.aliases).mpr ⟨fun _ _ => trivial, apart_otherLabels (checkContact_ok hcheck).2, by
        intro label hlabel k hk hcontains
        obtain rfl | hcontains := contains_set.mp hcontains
        · unfold otherLabels at hk
          split at hk
          · cases hk
          · rename_i hother
            exact hother (List.mem_singleton.mp hk).symm
        · exact hnew k (mem_contactLabels.mpr (Or.inr ⟨label, hlabel, hk⟩)) hcontains⟩
    refine ⟨⟨s.contacts.set (fold t contact.name) contact, seenLabels⟩, ?_⟩
    rw [addContact, hcheck]
    simp only [if_neg (hnew _ (mem_contactLabels.mpr (Or.inl rfl))), hadd]
  accepted := by
    intro s entry s' h
    obtain ⟨contact, hcheck, hnew, -, -⟩ := addContact_ok h
    refine ⟨⟨contact, hcheck⟩, ?_⟩
    rw [entryLabels_eq hcheck]
    exact hnew
  sees := by
    intro s entry s' h k
    obtain ⟨contact, hcheck, -, hsees, -⟩ := addContact_ok h
    rw [entryLabels_eq hcheck]
    exact hsees k

/-- The contacts stand in the order of their entries. -/
theorem foldlM_values {entries : Object} {s : Loaded} (h : entries.foldlM (addContact t) {} = .ok s) :
    s.contacts.values = entries.filterMap (parse t) := by
  refine foldlM_append (fun s : Loaded => s.contacts.values) (parse t)
    (fun s => ∀ k, s.contacts.contains k = true → s.seenLabels.contains k = true) ?_ ?_ h
  · intro s entry s' hseen hstep
    obtain ⟨contact, hcheck, hnew, hsees, hcontacts⟩ := addContact_ok hstep
    have hfresh : s.contacts.get? (fold t contact.name) = none := by
      cases hget : s.contacts.get? (fold t contact.name) with
      | none => rfl
      | some other => exact absurd (hseen _ (by rw [Dict.contains, hget]; rfl)) (hnew _ List.mem_cons_self)
    refine ⟨fun k hk => ?_, contact, parse_eq_some.mpr hcheck, ?_⟩
    · rw [hcontacts, Dict.contains, Dict.get?_set] at hk
      rw [hsees]
      split at hk
      · rename_i heq
        exact Or.inr (heq ▸ List.mem_cons_self)
      · exact Or.inl (hseen k hk)
    · show s'.contacts.values = s.contacts.values ++ [contact]
      rw [hcontacts, Dict.values, Dict.entries_set_new hfresh, List.map_append]
      rfl
  · exact fun _ hk => absurd hk Bool.false_ne_true

/-! ## One destination -/

theorem validateContacts_iff (entries : Object) :
    (∃ contacts, validateContacts t (.dict entries) = .ok contacts) ↔ entries.length ≤ maxContacts ∧
      (∀ entry ∈ entries, ∃ contact, checkContact t entry.1 entry.2 = .ok contact) ∧
        Apart (entryLabels t) entries := by
  have hempty : ∀ entry ∈ entries, ∀ k ∈ entryLabels t entry, ¬ ({} : Loaded).seenLabels.contains k = true :=
    fun _ _ _ _ => Bool.false_ne_true
  have hloop : (∃ s, entries.foldlM (addContact t) {} = .ok s) ↔
      (∀ entry ∈ entries, ∃ contact, checkContact t entry.1 entry.2 = .ok contact) ∧
        Apart (entryLabels t) entries := by
    rw [(addContact_reserves (t := t)).accepts_iff {} entries]
    exact and_congr_right fun _ => and_iff_left hempty
  rw [← hloop, validateContacts]
  by_cases hlength : entries.length ≤ maxContacts
  · rw [if_neg (by omega)]
    refine ⟨fun ⟨contacts, h⟩ => ⟨hlength, ?_⟩, fun ⟨_, s, hs⟩ => ⟨s.contacts, by rw [hs]; rfl⟩⟩
    cases hs : entries.foldlM (addContact t) {} with
    | error e =>
      rw [hs] at h
      cases h
    | ok s => exact ⟨s, rfl⟩
  · rw [if_pos (by omega)]
    exact iff_of_false (fun ⟨_, h⟩ => nomatch h) (fun h => hlength h.1)

theorem validateContacts_values {entries : Object} {contacts : Dict PyStr Contact}
    (h : validateContacts t (.dict entries) = .ok contacts) : contacts.values = entries.filterMap (parse t) := by
  rw [validateContacts] at h
  split at h
  · cases h
  · cases hs : entries.foldlM (addContact t) {} with
    | error e =>
      rw [hs] at h
      cases h
    | ok s =>
      rw [hs] at h
      obtain rfl := Except.ok.inj h
      exact foldlM_values hs

/-- What `_text` makes of a query. -/
theorem text_query {label query : PyStr} {maximum : Nat} {fieldName : PyStr}
    (h : text t (.str label) fieldName maximum = .ok query) : query = label.strip := by
  simp only [text] at h
  split at h
  · cases h
  · exact (Except.ok.inj h).symm

/-- A query that passes as a label finds the one contact it folds to a label of. -/
theorem find_label {entries : Object} {contacts : Dict PyStr Contact}
    (h : validateContacts t (.dict entries) = .ok contacts) {contact : Contact}
    (hcontact : contact ∈ contacts.values) {label query : PyStr}
    (htext : text t (.str label) "El contacto" maxAliasLength = .ok query)
    (hfolds : fold t query ∈ contactLabels t contact) : find t (some (.dict entries)) label = .ok contact := by
  have hapart : Apart (contactLabels t) contacts.values := by
    rw [validateContacts_values h]
    exact ((validateContacts_iff entries).mp ⟨contacts, h⟩).2.2.filterMap
  have hfound : contacts.values.find? (answersTo t (fold t query)) = some contact :=
    hapart.find? hcontact (answersTo_iff.mpr hfolds) (fun other _ hother => ⟨_, hfolds, answersTo_iff.mp hother⟩)
  simp only [find, htext, loadContacts, h, hfound]

/-! ## What a label resolves to -/

theorem normalizePhone_some {phone normalized : PyStr} (h : normalizePhone phone = some normalized) :
    isPhone normalized = true := by
  simp only [normalizePhone, Option.ite_none_right_eq_some, Option.some.injEq] at h
  obtain ⟨hphone, rfl⟩ := h
  exact hphone

theorem checkPhone_ok {name phone : PyStr} {rawData : Object} (h : checkPhone t name rawData = .ok (some phone)) :
    isPhone phone = true := by
  unfold checkPhone at h
  split at h
  · cases h
  · split at h
    · cases h
    · rename_i normalized hnormalized
      obtain rfl := Option.some.inj (Except.ok.inj h)
      obtain ⟨value, -, hvalue⟩ := Option.bind_eq_some_iff.mp hnormalized
      exact normalizePhone_some hvalue

theorem checkChannel_ok {name channelId : PyStr} {guildId : Option PyStr} {rawData : Object}
    (h : checkChannel t name rawData = .ok (some channelId, guildId)) :
    (buildDiscordChannelUrl t channelId guildId).isSome = true := by
  unfold checkChannel at h
  split at h
  · cases h
  · cases h
  · split at h
    · cases h
    · dsimp only at h
      split at h
      · cases h
      · split at h
        · cases h
        · rename_i hurl
          cases h
          rwa [Bool.not_eq_true, Option.isNone_eq_false_iff] at hurl

/-- The label stands for the contact: the contact has a destination, and for each it has, `resolve_whatsapp_contact`
and `resolve_discord_contact` return that one and the name. They were checked when the file was read. -/
structure Leads (t : Tables) (file : Option Value) (label : PyStr) (contact : Contact) : Prop where
  destination : contact.whatsappPhone.isSome = true ∨ contact.discordChannelId.isSome = true
  whatsapp : ∀ phone, contact.whatsappPhone = some phone → isPhone phone = true ∧
    resolveWhatsappContact t file label = .ok (contact.name, phone)
  discord : ∀ channelId, contact.discordChannelId = some channelId →
    (buildDiscordChannelUrl t channelId contact.discordGuildId).isSome = true ∧
      resolveDiscordContact t file label = .ok (contact.name, channelId, contact.discordGuildId)

theorem leads {rawName : PyStr} {rawData : Value} {contact : Contact}
    (hcheck : checkContact t rawName rawData = .ok contact) {file : Option Value} {label : PyStr}
    (hfind : find t file label = .ok contact) : Leads t file label contact := by
  obtain ⟨fields, fieldName, -, -, hphone, hchannel, hdestination⟩ := checkContact_fields hcheck
  refine ⟨hdestination, ?_, ?_⟩
  · intro phone hsome
    rw [hsome] at hphone
    exact ⟨checkPhone_ok hphone, by simp only [resolveWhatsappContact, hfind, hsome]⟩
  · intro channelId hsome
    rw [hsome] at hchannel
    exact ⟨checkChannel_ok hchannel, by simp only [resolveDiscordContact, hfind, hsome]⟩

/-- Contacts in another order are accepted too, and each of them is found under its labels, with its destinations. -/
theorem contacts_found {entries entries' : Object} (hperm : entries.Perm entries') {contacts : Dict PyStr Contact}
    (h : validateContacts t (.dict entries) = .ok contacts) :
    ∃ contacts', validateContacts t (.dict entries') = .ok contacts' ∧ contacts'.values.Perm contacts.values ∧
      ∀ contact ∈ contacts.values, ∀ label ∈ contact.name :: contact.aliases,
        find t (some (.dict entries')) label = .ok contact ∧ Leads t (some (.dict entries')) label contact ∧
        ∀ variant, fold t variant.strip = fold t label → find t (some (.dict entries')) variant =
          if (text t (.str variant) "El contacto" maxAliasLength).isOk then .ok contact
          else .error (.value "El contacto no es válido.") := by
  obtain ⟨hlength, hown, hapart⟩ := (validateContacts_iff entries).mp ⟨contacts, h⟩
  obtain ⟨contacts', h'⟩ := (validateContacts_iff entries').mpr
    ⟨by rw [← hperm.length_eq]; exact hlength, fun e he => hown e (hperm.mem_iff.mpr he), hapart.perm hperm⟩
  have hvalues : contacts'.values.Perm contacts.values := by
    rw [validateContacts_values h, validateContacts_values h']
    exact (hperm.filterMap _).symm
  refine ⟨contacts', h', hvalues, ?_⟩
  intro contact hcontact label hlabel
  have hmem : fold t label ∈ contactLabels t contact := by
    obtain rfl | halias := List.mem_cons.mp hlabel
    · exact List.mem_cons_self
    · exact List.mem_cons_of_mem _ (List.mem_map_of_mem halias)
  have hcontact' := hvalues.mem_iff.mpr hcontact
  rw [validateContacts_values h] at hcontact
  obtain ⟨entry, -, hparse⟩ := List.mem_filterMap.mp hcontact
  have hcheck := parse_eq_some.mp hparse
  have hfind : find t (some (.dict entries')) label = .ok contact :=
    find_label h' hcontact' ((checkContact_ok hcheck).1 label hlabel _) hmem
  refine ⟨hfind, leads hcheck hfind, ?_⟩
  intro variant hfolds
  cases htext : text t (.str variant) "El contacto" maxAliasLength with
  | error e => simp only [find, htext, Except.isOk, Except.toBool, Bool.false_eq_true, if_false]
  | ok query =>
    rw [if_pos (show (Except.ok query : Except ContactsConfigError PyStr).isOk = true from rfl)]
    refine find_label h' hcontact' htext ?_
    rw [text_query htext, hfolds]
    exact hmem

end Pipa.Tools.Contacts
