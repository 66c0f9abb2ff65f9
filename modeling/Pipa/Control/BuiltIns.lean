import Pipa.Control.Commands

/- The entries of `_COMMANDS` pass `validate_command_catalog`, each with any phrase
   that has as many placeholders as the entry has parameters. Their texts are Latin
   letters without white space at either end, which the validators leave alone. -/
namespace Pipa.Control
open Pipa.Lib Pipa.Core Pipa.Intents

/-! ## Tidy texts -/

/-- A printable character below U+0180. -/
def latin (c : Char) : Bool :=
  (Nat.ble 0x20 c.toNat && Nat.ble c.toNat 0x7E) || (Nat.ble 0xA1 c.toNat && Nat.ble c.toNat 0x17F)

/-- A text of such characters, with no space at either end, of at most `n` bytes. -/
def tidyChars (n : Nat) (l : List Char) : Bool :=
  l.all latin && Nat.ble (2 * l.length) n && l.head?.any (· ≠ ' ') && l.getLast?.any (· ≠ ' ')

def tidy (n : Nat) (s : String) : Bool := tidyChars n s.toList

/-- A literal is checked as the list of its characters. -/
theorem tidy_ofList {n : Nat} {l : List Char} (h : tidyChars n l = true) : tidy n (String.ofList l) = true := by
  rw [tidy, String.toList_ofList]
  exact h

theorem latin_bounds {c : Char} (h : latin c = true) :
    (0x20 ≤ c.toNat ∧ c.toNat ≤ 0x7E) ∨ (0xA1 ≤ c.toNat ∧ c.toNat ≤ 0x17F) := by
  simpa [latin] using h

theorem latin_space {c : Char} (h : latin c = true) (hne : c ≠ ' ') : (CodePoint.ofChar c).isSpace = false := by
  have hbounds := latin_bounds h
  have hval : (CodePoint.ofChar c).val = c.toNat := rfl
  have hspace : c.toNat ≠ 0x20 := fun heq => hne (Char.toNat_inj.mp heq)
  simp only [CodePoint.isSpace, hval, Bool.or_eq_false_iff, Bool.and_eq_false_iff, decide_eq_false_iff_not,
    beq_eq_false_iff_ne]
  omega

theorem latin_forbidden {c : Char} (h : latin c = true) : forbidden (CodePoint.ofChar c) = false := by
  have hbounds := latin_bounds h
  have hval : (CodePoint.ofChar c).val = c.toNat := rfl
  simp only [forbidden, hval, Bool.or_eq_false_iff, Bool.and_eq_false_iff, decide_eq_false_iff_not,
    beq_eq_false_iff_ne]
  omega

theorem latin_surrogate {c : Char} (h : latin c = true) : (CodePoint.ofChar c).isSurrogate = false := by
  have hbounds := latin_bounds h
  have hval : (CodePoint.ofChar c).val = c.toNat := rfl
  simp only [CodePoint.isSurrogate, hval, Bool.and_eq_false_iff, decide_eq_false_iff_not]
  omega

theorem latin_utf8 {c : Char} (h : latin c = true) : (CodePoint.ofChar c).utf8.length ≤ 2 := by
  have hbounds := latin_bounds h
  have hval : (CodePoint.ofChar c).val = c.toNat := rfl
  unfold CodePoint.utf8
  rw [hval]
  split
  · simp
  · rw [if_pos (by omega)]
    simp

theorem bytes_length_le {l : List Char} (h : l.all latin = true) :
    ((l.map CodePoint.ofChar).flatMap CodePoint.utf8).length ≤ 2 * l.length := by
  induction l with
  | nil => simp
  | cons c l ih =>
    rw [List.all_cons, Bool.and_eq_true] at h
    have hc := latin_utf8 h.1
    have hl := ih h.2
    simp only [List.map_cons, List.flatMap_cons, List.length_append, List.length_cons]
    omega

theorem strip_eq {l : List Char} (hall : l.all latin = true) (hhead : l.head?.any (· ≠ ' ') = true)
    (hlast : l.getLast?.any (· ≠ ' ') = true) :
    PyStr.strip (l.map CodePoint.ofChar) = l.map CodePoint.ofChar := by
  have hfirst : (l.map CodePoint.ofChar).dropWhile CodePoint.isSpace = l.map CodePoint.ofChar := by
    cases l with
    | nil => rfl
    | cons c l =>
      have hc : latin c = true := (Bool.and_eq_true _ _ ▸ List.all_cons ▸ hall : _ ∧ _).1
      rw [List.map_cons, List.dropWhile_cons_of_neg]
      rw [latin_space hc (by simpa using hhead)]
      exact Bool.false_ne_true
  have hback : (l.map CodePoint.ofChar).reverse.dropWhile CodePoint.isSpace = (l.map CodePoint.ofChar).reverse := by
    rw [← List.map_reverse]
    cases hr : l.reverse with
    | nil => rfl
    | cons c m =>
      have hmem : c ∈ l := List.mem_reverse.mp (hr ▸ List.mem_cons_self)
      have hc : latin c = true := List.all_eq_true.mp hall c hmem
      rw [List.getLast?_eq_head?_reverse, hr] at hlast
      rw [List.map_cons, List.dropWhile_cons_of_neg]
      rw [latin_space hc (by simpa using hlast)]
      exact Bool.false_ne_true
  unfold PyStr.strip
  rw [hfirst, hback, List.reverse_reverse]

/-- A tidy text is valid as it is. -/
theorem tidy_bounded {n : Nat} {s : String} (h : tidy n s = true) :
    validateBoundedText (PyStr.ofString s) n = .ok (PyStr.ofString s) ∧
      (PyStr.ofString s).strip = PyStr.ofString s := by
  simp only [tidy, tidyChars, Bool.and_eq_true] at h
  obtain ⟨⟨⟨hall, hlength⟩, hhead⟩, hlast⟩ := h
  have hstrip : (PyStr.ofString s).strip = PyStr.ofString s := strip_eq hall hhead hlast
  have hne : PyStr.ofString s ≠ [] := by
    intro hnil
    rw [List.map_eq_nil_iff.mp hnil] at hhead
    cases hhead
  have hblank : (PyStr.ofString s).isBlank = false := by
    rw [PyStr.isBlank, hstrip]
    exact List.isEmpty_eq_false_iff.mpr hne
  have hencodes : ∀ c ∈ PyStr.ofString s, c.isSurrogate = false := by
    intro c hc
    obtain ⟨d, hd, rfl⟩ := List.mem_map.mp hc
    simpa using latin_surrogate (List.all_eq_true.mp hall d hd)
  have hallowed : ∀ c ∈ PyStr.ofString s, forbidden c = false := by
    intro c hc
    obtain ⟨d, hd, rfl⟩ := List.mem_map.mp hc
    simpa using latin_forbidden (List.all_eq_true.mp hall d hd)
  have hbytes := bytes_length_le hall
  have hpos : 0 < s.toList.length := by
    cases hl : s.toList with
    | nil =>
      rw [hl] at hhead
      cases hhead
    | cons c l => simp
  have hle := Nat.le_of_ble_eq_true hlength
  exact ⟨validateBoundedText_ok.mpr ⟨rfl, hblank, hencodes, by omega, Nat.le_trans hbytes hle, hallowed⟩, hstrip⟩

theorem tidy_catalogText {n : Nat} {s : String} (h : tidy n s = true) :
    safeCatalogText n (.str (PyStr.ofString s)) = .ok (PyStr.ofString s) :=
  (tidy_bounded h).1

theorem safeTexts_tidy {n : Nat} {options : List String} (h : options.all (tidy n) = true) :
    safeTexts n (options.map (fun o => .str (PyStr.ofString o))) = .ok (options.map PyStr.ofString) := by
  induction options with
  | nil => rfl
  | cons o options ih =>
    rw [List.all_cons, Bool.and_eq_true] at h
    simp only [List.map_cons, safeTexts, tidy_catalogText h.1, ih h.2]

/-! ## Parameters and defaults -/

def Parameter.tidy (p : Parameter) : Bool :=
  isCatalogParameterName (PyStr.ofString p.name) && decide (PyStr.ofString p.kind ∈ catalogParameterKinds) &&
    Control.tidy 128 p.label && p.options.all (Control.tidy 128) && decide (p.options.length ≤ 16) &&
    decide p.options.Nodup && decide (1 ≤ p.maxLength ∧ p.maxLength ≤ 4096)

theorem Parameter.keys_asValue (p : Parameter) :
    ∃ fields, p.asValue = .dict fields ∧ (Object.keys fields |>.any (· ∉ catalogParameterFields)) = false ∧
      field fields "name" = .str (PyStr.ofString p.name) ∧ field fields "kind" = .str (PyStr.ofString p.kind) ∧
      field fields "max_length" = .int p.maxLength ∧ field fields "label" = .str (PyStr.ofString p.label) ∧
      (Object.get? fields (PyStr.ofString "options")).getD (.list []) =
        .list (p.options.map (fun o => .str (PyStr.ofString o))) := by
  refine ⟨_, rfl, ?_⟩
  cases hoptions : p.options with
  | nil => simp [Object.keys, field, Object.get?, catalogParameterFields, names]
  | cons o options => simp [Object.keys, field, Object.get?, catalogParameterFields, names]

theorem validateOptions_tidy {p : Parameter} (h : p.tidy = true) {fields : Object}
    (hoptions : (fields.get? (PyStr.ofString "options")).getD (.list []) =
      .list (p.options.map (fun o => .str (PyStr.ofString o)))) :
    validateOptions fields = .ok (p.options.map PyStr.ofString) := by
  simp only [Parameter.tidy, Bool.and_eq_true, decide_eq_true_eq] at h
  obtain ⟨⟨⟨⟨-, htexts⟩, hlength⟩, hnodup⟩, -⟩ := h
  have hstr : (p.options.map (fun o => Value.str (PyStr.ofString o))).all isStr = true := by
    simp [isStr]
  have hnodup' : (p.options.map PyStr.ofString).Nodup :=
    hnodup.map (fun _ _ heq => PyStr.ofString_inj.mp heq)
  unfold validateOptions
  rw [hoptions]
  simp only [hstr, maxParameterTextBytes, safeTexts_tidy htexts, if_pos hnodup']
  rw [if_neg]
  simpa [maxParameterOptions] using hlength

theorem validateParameter_tidy {p : Parameter} (h : p.tidy = true) {seen : List PyStr}
    (hseen : PyStr.ofString p.name ∉ seen) : ∃ fields, p.asValue = .dict fields ∧
      validateParameter seen p.asValue = .ok (PyStr.ofString p.name, fields) := by
  obtain ⟨fields, hvalue, hkeys, hname, hkind, hlength, hlabel, hoptions⟩ := p.keys_asValue
  refine ⟨fields, hvalue, ?_⟩
  have hvalid := validateOptions_tidy h hoptions
  have hfields := Value.dict.inj hvalue.symm
  simp only [Parameter.tidy, Bool.and_eq_true, decide_eq_true_eq] at h
  obtain ⟨⟨⟨⟨⟨⟨hidentifier, hkinds⟩, hlabels⟩, -⟩, -⟩, -⟩, hmin, hmax⟩ := h
  rw [hvalue]
  unfold validateParameter
  simp only [hkeys, hname, hkind, hlength, hlabel, hvalid, hidentifier, maxParameterTextBytes,
    tidy_catalogText hlabels, (tidy_bounded hlabels).2, Bool.false_eq_true, if_false]
  rw [if_neg]
  · rw [hfields]
    cases p.options with
    | nil => rfl
    | cons o options => simp
  · simp [hseen, hkinds]
    omega

theorem validateParameterList_tidy {ps : List Parameter} (h : ps.all Parameter.tidy = true)
    (hnodup : (ps.map Parameter.name).Nodup) {seen : List PyStr}
    (hseen : ∀ p ∈ ps, PyStr.ofString p.name ∉ seen) :
    validateParameterList seen (ps.map Parameter.asValue) = .ok (ps.map Parameter.asValue) := by
  induction ps generalizing seen with
  | nil => rfl
  | cons p ps ih =>
    rw [List.all_cons, Bool.and_eq_true] at h
    rw [List.map_cons, List.nodup_cons] at hnodup
    obtain ⟨fields, hvalue, hvalid⟩ := validateParameter_tidy h.1 (hseen p List.mem_cons_self)
    have hrest : ∀ q ∈ ps, PyStr.ofString q.name ∉ PyStr.ofString p.name :: seen := by
      intro q hq hmem
      obtain heq | hmem := List.mem_cons.mp hmem
      · exact hnodup.1 (PyStr.ofString_inj.mp heq ▸ List.mem_map_of_mem hq)
      · exact hseen q (List.mem_cons_of_mem _ hq) hmem
    simp only [List.map_cons, validateParameterList, hvalid, ih h.2 hnodup.2 hrest]
    rw [hvalue]

theorem validateArguments_tidy {items : List (String × String)}
    (h : items.all (fun a => isCatalogParameterName (PyStr.ofString a.1) && tidy 128 a.2) = true)
    (hnodup : (items.map Prod.fst).Nodup) {result : Object}
    (hresult : ∀ a ∈ items, PyStr.ofString a.1 ∉ result.keys) :
    validateArguments result (items.map (fun a => (PyStr.ofString a.1, .str (PyStr.ofString a.2)))) =
      .ok (result ++ items.map (fun a => (PyStr.ofString a.1, .str (PyStr.ofString a.2)))) := by
  induction items generalizing result with
  | nil => simp [validateArguments]
  | cons a items ih =>
    rw [List.all_cons, Bool.and_eq_true, Bool.and_eq_true] at h
    rw [List.map_cons, List.nodup_cons] at hnodup
    have hset : result.set (PyStr.ofString a.1) (.str (PyStr.ofString a.2)) =
        result ++ [(PyStr.ofString a.1, .str (PyStr.ofString a.2))] :=
      if_neg (hresult a List.mem_cons_self)
    have hrest : ∀ b ∈ items, PyStr.ofString b.1 ∉
        Object.keys (result ++ [(PyStr.ofString a.1, .str (PyStr.ofString a.2))]) := by
      intro b hb hmem
      rw [Object.keys, List.map_append, List.mem_append] at hmem
      obtain hmem | hmem := hmem
      · exact hresult b (List.mem_cons_of_mem _ hb) hmem
      · have heq : b.1 = a.1 := PyStr.ofString_inj.mp (List.mem_singleton.mp hmem)
        exact hnodup.1 (heq ▸ List.mem_map_of_mem hb)
    simp only [List.map_cons, validateArguments, h.1.1, maxParameterTextBytes, tidy_catalogText h.1.2,
      (tidy_bounded h.1.2).2, Bool.not_true, Bool.false_eq_true, if_false, hset]
    rw [ih h.2 hnodup.2 hrest, List.append_assoc]
    rfl

/-! ## Commands -/

/-- The number of fields of a phrase. -/
def fieldCount (phrase : PyStr) : Option Nat := (phrasePlaceholders phrase).toOption.map List.length

theorem fieldCount_ofList {l : List Char} {n : Nat} (h : fieldCount (l.map CodePoint.ofChar) = some n) :
    fieldCount (PyStr.ofString (String.ofList l)) = some n := by
  rw [PyStr.ofString, String.toList_ofList]
  exact h

/-- The table, checked entry by entry. -/
structure BuiltIn.Checked (b : BuiltIn) : Prop where
  ids : tidy 256 b.id = true ∧ tidy 256 b.toolName = true
  texts : tidy 256 b.phrase = true ∧ tidy 256 b.description = true
  parameters : b.parameters.all Parameter.tidy = true ∧ (b.parameters.map Parameter.name).Nodup ∧
    b.parameters.length ≤ 8
  defaults : b.defaultArguments.all (fun a => isCatalogParameterName (PyStr.ofString a.1) && tidy 128 a.2) = true ∧
    (b.defaultArguments.map Prod.fst).Nodup ∧ b.defaultArguments.length ≤ 8 ∧
    (b.defaultArguments = [] ∨ b.parameters = [])
  counts : fieldCount (PyStr.ofString b.phrase) = some b.parameters.length

theorem builtIns_checked : (∀ b ∈ builtIns, b.Checked) ∧ (builtIns.map BuiltIn.id).Nodup := by
  have htexts : ∀ b ∈ builtIns, (tidy 256 b.id = true ∧ tidy 256 b.toolName = true) ∧
      tidy 256 b.phrase = true ∧ tidy 256 b.description = true := by
    simp only [builtIns, List.forall_mem_cons, safeCommand, unsafeCommand, mediaCommand]
    repeat' apply And.intro
    all_goals first | exact tidy_ofList (by decide) | exact List.forall_mem_nil _
  have hcounts : ∀ b ∈ builtIns, fieldCount (PyStr.ofString b.phrase) = some b.parameters.length := by
    simp only [builtIns, List.forall_mem_cons, safeCommand, unsafeCommand, mediaCommand]
    repeat' apply And.intro
    all_goals first | exact fieldCount_ofList (by decide) | exact List.forall_mem_nil _
  have hrest : (∀ b ∈ builtIns, (b.parameters.all Parameter.tidy = true ∧ (b.parameters.map Parameter.name).Nodup ∧
        b.parameters.length ≤ 8) ∧
      b.defaultArguments.all (fun a => isCatalogParameterName (PyStr.ofString a.1) && tidy 128 a.2) = true ∧
      (b.defaultArguments.map Prod.fst).Nodup ∧ b.defaultArguments.length ≤ 8 ∧
      (b.defaultArguments = [] ∨ b.parameters = [])) ∧ (builtIns.map BuiltIn.id).Nodup := by
    decide
  refine ⟨fun b hb => ?_, hrest.2⟩
  obtain ⟨hids, hphrase⟩ := htexts b hb
  obtain ⟨hparameters, hdefaults⟩ := hrest.1 b hb
  exact ⟨hids, hphrase, hparameters, hdefaults, hcounts b hb⟩

theorem BuiltIn.checked {b : BuiltIn} (hb : b ∈ builtIns) : b.Checked := builtIns_checked.1 b hb

/-- The default arguments of an entry, as they are written. -/
def BuiltIn.defaults (b : BuiltIn) : Object :=
  b.defaultArguments.map (fun a => (PyStr.ofString a.1, .str (PyStr.ofString a.2)))

section
variable (b : BuiltIn) (phrase description : PyStr)

theorem asObject_keys : (b.asObject phrase description).keys.all (· ∈ catalogFields) = true := by
  cases hparameters : b.parameters <;> cases hdefaults : b.defaultArguments <;>
    simp [BuiltIn.asObject, Object.keys, catalogFields, names, hparameters, hdefaults]

theorem asObject_fields :
    field (b.asObject phrase description) "id" = .str (PyStr.ofString b.id) ∧
    field (b.asObject phrase description) "tool_name" = .str (PyStr.ofString b.toolName) ∧
    field (b.asObject phrase description) "phrase" = .str phrase ∧
    field (b.asObject phrase description) "description" = .str description ∧
    field (b.asObject phrase description) "safety" = .str b.safety.wire ∧
    field (b.asObject phrase description) "requires_confirmation" = .bool (b.safety == .unsafeTool) := by
  simp [field, BuiltIn.asObject, Object.get?]

theorem asObject_parameters :
    ((b.asObject phrase description).get? (PyStr.ofString "parameters")).getD (.list []) =
      .list (b.parameters.map Parameter.asValue) := by
  cases hparameters : b.parameters <;> cases hdefaults : b.defaultArguments <;>
    simp [BuiltIn.asObject, Object.get?, hparameters, hdefaults]

theorem asObject_defaults :
    (b.asObject phrase description).get? (PyStr.ofString "default_arguments") =
      if b.defaultArguments.isEmpty then none else some (.dict b.defaults) := by
  cases hparameters : b.parameters <;> cases hdefaults : b.defaultArguments <;>
    simp [BuiltIn.asObject, BuiltIn.defaults, Object.get?, hparameters, hdefaults]

end

theorem safety_wire (s : Safety) :
    (isText "safe" (.str s.wire) || isText "unsafe" (.str s.wire)) = true ∧
      (s == .unsafeTool) = isText "unsafe" (.str s.wire) := by
  cases s <;> simp [isText, Safety.wire]

/-- The descriptor of an entry with this phrase. -/
def BuiltIn.descriptor (b : BuiltIn) (phrase description : PyStr) : Object :=
  normalized (PyStr.ofString b.id) (PyStr.ofString b.toolName) phrase description (.str b.safety.wire)
    (b.safety == .unsafeTool) (b.parameters.map Parameter.asValue)
    (if b.defaultArguments.isEmpty then [] else [(PyStr.ofString "default_arguments", .dict b.defaults)])

theorem defaultsOf_builtIn {b : BuiltIn} (hb : b ∈ builtIns) {phrase description : PyStr} {labels : List PyStr}
    (hlength : labels.length = b.parameters.length) :
    defaultsOf (b.asObject phrase description) (b.parameters.map Parameter.asValue) labels =
      .ok (if b.defaultArguments.isEmpty then [] else [(PyStr.ofString "default_arguments", .dict b.defaults)]) := by
  obtain ⟨hall, hnodup, hfew, hone⟩ := (BuiltIn.checked hb).defaults
  unfold defaultsOf
  rw [asObject_defaults]
  cases hempty : b.defaultArguments.isEmpty with
  | true => rfl
  | false =>
    have hparameters : b.parameters = [] := by
      obtain hnil | hnil := hone
      · rw [hnil] at hempty
        cases hempty
      · exact hnil
    have hlabels : labels = [] := by
      rw [hparameters] at hlength
      exact List.length_eq_zero_iff.mp hlength
    have hvalid : validateDefaultArguments (.dict b.defaults) = .ok b.defaults := by
      have hnone : ∀ a ∈ b.defaultArguments, PyStr.ofString a.1 ∉ Object.keys [] := by simp [Object.keys]
      unfold validateDefaultArguments
      simp only
      rw [if_neg]
      · exact validateArguments_tidy hall hnodup hnone
      · simpa [BuiltIn.defaults, hempty, maxParameters] using hfew
    simp [hvalid, hparameters, hlabels]

/-- An entry is valid with a valid phrase that has its fields. -/
theorem validateCommand_builtIn {b : BuiltIn} (hb : b ∈ builtIns) {seen : List PyStr}
    (hseen : PyStr.ofString b.id ∉ seen) {phrase : PyStr} {description : String}
    (hdescription : tidy 256 description = true) (hphrase : validateBoundedText phrase 256 = .ok phrase)
    {labels : List PyStr} (hlabels : phrasePlaceholders phrase.strip = .ok labels)
    (hlength : labels.length = b.parameters.length) :
    Control.validateCommand seen (b.asObject phrase (PyStr.ofString description)) =
      .ok (PyStr.ofString b.id, b.descriptor phrase.strip (PyStr.ofString description)) := by
  obtain ⟨hid, htool⟩ := (BuiltIn.checked hb).ids
  obtain ⟨hall, hnodup, hfew⟩ := (BuiltIn.checked hb).parameters
  obtain ⟨fid, ftool, fphrase, fdescription, fsafety, frequires⟩ :=
    asObject_fields b phrase (PyStr.ofString description)
  have hparameters : validateParameters (.list (b.parameters.map Parameter.asValue)) =
      .ok (b.parameters.map Parameter.asValue) := by
    unfold validateParameters
    simp only
    rw [if_neg (by simpa [maxParameters] using hfew)]
    exact validateParameterList_tidy hall hnodup (by simp)
  have hphrase' : safeCatalogText maxCommandTextBytes (.str phrase) = .ok phrase := hphrase
  unfold Control.validateCommand
  simp only [asObject_keys, fid, ftool, fphrase, fdescription, fsafety, frequires, asObject_parameters, hparameters,
    maxCommandTextBytes] at hphrase' ⊢
  have hlength' : labels.length = (b.parameters.map Parameter.asValue).length := by rw [hlength, List.length_map]
  simp only [tidy_catalogText hid, tidy_catalogText htool, tidy_catalogText hdescription, hphrase', require, boolean,
    bind, Except.bind, Value.hashable, if_true, (safety_wire b.safety).1, (tidy_bounded hid).2, hseen,
    not_false_eq_true, decide_true, hlabels, defaultsOf_builtIn hb hlength, (tidy_bounded htool).2,
    (tidy_bounded hdescription).2, (safety_wire b.safety).2, beq_self_eq_true, hlength']
  rw [BuiltIn.descriptor, (safety_wire b.safety).2]
  rfl

/-! ## Catalogs -/

/-- The phrase is valid and has the fields of the entry. -/
def BuiltIn.Fits (b : BuiltIn) (phrase : PyStr) : Prop :=
  validateBoundedText phrase 256 = .ok phrase ∧
    ∃ labels, phrasePlaceholders phrase.strip = .ok labels ∧ labels.length = b.parameters.length

theorem builtIns_fit : ∀ b ∈ builtIns, b.Fits (PyStr.ofString b.phrase) := by
  intro b hb
  obtain ⟨hbounded, hstrip⟩ := tidy_bounded (BuiltIn.checked hb).texts.1
  refine ⟨hbounded, ?_⟩
  have hcount := (BuiltIn.checked hb).counts
  rw [hstrip]
  unfold fieldCount at hcount
  cases hlabels : phrasePlaceholders (PyStr.ofString b.phrase) with
  | error e =>
    rw [hlabels] at hcount
    cases hcount
  | ok labels =>
    rw [hlabels] at hcount
    exact ⟨labels, rfl, Option.some.inj hcount⟩

theorem builtIns_nodup : (builtIns.map BuiltIn.id).Nodup := builtIns_checked.2

theorem validateCommandList_builtIns {bs : List BuiltIn} (hbs : ∀ b ∈ bs, b ∈ builtIns)
    (hnodup : (bs.map BuiltIn.id).Nodup) (phrase : BuiltIn → PyStr) (description : BuiltIn → String)
    (hphrase : ∀ b ∈ bs, b.Fits (phrase b)) (hdescription : ∀ b ∈ bs, tidy 256 (description b) = true)
    {seen : List PyStr} (hseen : ∀ b ∈ bs, PyStr.ofString b.id ∉ seen) :
    validateCommandList seen (bs.map (fun b => b.asObject (phrase b) (PyStr.ofString (description b)))) =
      .ok (bs.map (fun b => b.descriptor (phrase b).strip (PyStr.ofString (description b)))) := by
  induction bs generalizing seen with
  | nil => rfl
  | cons b bs ih =>
    rw [List.map_cons, List.nodup_cons] at hnodup
    obtain ⟨hbounded, labels, hlabels, hlength⟩ := hphrase b List.mem_cons_self
    have hone := validateCommand_builtIn (hbs b List.mem_cons_self) (hseen b List.mem_cons_self)
      (hdescription b List.mem_cons_self) hbounded hlabels hlength
    have hrest : ∀ c ∈ bs, PyStr.ofString c.id ∉ PyStr.ofString b.id :: seen := by
      intro c hc hmem
      obtain heq | hmem := List.mem_cons.mp hmem
      · exact hnodup.1 (PyStr.ofString_inj.mp heq ▸ List.mem_map_of_mem hc)
      · exact hseen c (List.mem_cons_of_mem _ hc) hmem
    have hall := ih (fun c hc => hbs c (List.mem_cons_of_mem _ hc)) hnodup.2
      (fun c hc => hphrase c (List.mem_cons_of_mem _ hc)) (fun c hc => hdescription c (List.mem_cons_of_mem _ hc))
      hrest
    simp only [List.map_cons, validateCommandList, hone, hall]

theorem automaticDescription_tidy : tidy 256 automaticDescription = true := tidy_ofList (by decide)

/-- The description of an entry. -/
def BuiltIn.currentDescription (b : BuiltIn) (automatic : Bool) : String :=
  if automatic && (b.id == "whatsapp_compose" || b.id == "whatsapp_contact") then automaticDescription
  else b.description

theorem currentDescription_tidy {b : BuiltIn} (hb : b ∈ builtIns) (automatic : Bool) :
    tidy 256 (b.currentDescription automatic) = true := by
  unfold BuiltIn.currentDescription
  split
  · exact automaticDescription_tidy
  · exact (BuiltIn.checked hb).texts.2

/-- The catalog of a configuration whose phrases fit. -/
theorem validateCommandCatalog_enabled {config : ControlConfig} (automatic : Bool)
    (hphrase : ∀ b ∈ builtIns, b.enabled config = true → b.Fits (b.currentPhrase config)) :
    validateCommandCatalog ((builtIns.filter (fun b => b.enabled config)).map (fun b => b.edited config automatic)) =
      .ok ((builtIns.filter (fun b => b.enabled config)).map (fun b =>
        b.descriptor (b.currentPhrase config).strip (PyStr.ofString (b.currentDescription automatic)))) := by
  have hsub : ∀ b ∈ builtIns.filter (fun b => b.enabled config), b ∈ builtIns ∧ b.enabled config = true :=
    fun b hb => List.mem_filter.mp hb
  have hlength : builtIns.length = 40 := rfl
  unfold validateCommandCatalog
  rw [if_neg]
  · exact validateCommandList_builtIns (fun b hb => (hsub b hb).1)
      (builtIns_nodup.sublist (List.filter_sublist.map BuiltIn.id)) (fun b => b.currentPhrase config)
      (fun b => b.currentDescription automatic) (fun b hb => hphrase b (hsub b hb).1 (hsub b hb).2)
      (fun b hb => currentDescription_tidy (hsub b hb).1 automatic) (by simp)
  · have hle := List.length_filter_le (fun b : BuiltIn => b.enabled config) builtIns
    rw [List.length_map, maxCommands]
    omega

end Pipa.Control
