import Pipa.Core.Catalog

/- What the catalog validators give back (`core.py`, `_validate_catalog_parameters`,
   `_validate_catalog_default_arguments` and `_validate_capability_catalog`):
   when it passes the same validator again, unchanged. Every check is made on the
   text as it came and the stripped text is what is returned, so the one check
   that stripping can undo is that a parameter's options are pairwise distinct. -/
namespace Pipa.Core
open Pipa.Lib

/-! ## Stripped data -/

/-- Every text of the value, names included, is its own `strip()`. -/
inductive Stripped : Value → Prop
  | null : Stripped .null
  | bool (b : Bool) : Stripped (.bool b)
  | int (n : Int) : Stripped (.int n)
  | float (r : PyStr) : Stripped (.float r)
  | str (s : PyStr) (text : s.strip = s) : Stripped (.str s)
  | list (items : List Value) (inside : ∀ v ∈ items, Stripped v) : Stripped (.list items)
  | dict (items : List (PyStr × Value)) (names : ∀ e ∈ items, e.1.strip = e.1)
      (inside : ∀ e ∈ items, Stripped e.2) : Stripped (.dict items)

/-- A text with the white space around it removed; other values as they are. -/
def stripValue : Value → Value
  | .str s => .str s.strip
  | v => v

theorem stripped_texts (texts : List PyStr) : Stripped (.list (texts.map (fun s => .str s.strip))) := by
  refine .list _ ?_
  intro v hv
  obtain ⟨s, -, rfl⟩ := List.mem_map.mp hv
  exact .str _ s.strip_strip

theorem strip_length_le (s : PyStr) : s.strip.length ≤ s.length := s.strip_infix.length_le

theorem isBlank_strip (s : PyStr) : s.strip.isBlank = s.isBlank := by
  unfold PyStr.isBlank
  rw [PyStr.strip_strip]

theorem any_strip {s : PyStr} {p : CodePoint → Bool} (h : s.any p = false) : s.strip.any p = false := by
  rw [List.any_eq_false] at h ⊢
  intro c hc
  exact h c (s.strip_infix.sublist.mem hc)

/-! ## Checked texts

Both kinds of text are checked alike: a bound, a set of characters, and not blank.
What passes passes stripped. -/

/-- A check that keeps the text it accepts, and accepts it without the white space around it. -/
structure TextCheck (check : Value → Option PyStr) : Prop where
  same : ∀ {v : Value} {s : PyStr}, check v = some s → v = .str s
  strip : ∀ {s : PyStr}, check (.str s) = some s → check (.str s.strip) = some s.strip

theorem catalogText?_str {s : PyStr} :
    catalogText? (.str s) = some s ↔
      s.isBlank = false ∧ s.length ≤ maxCatalogParameterTextLength ∧ isSafeCatalogText s = true := by
  simp [catalogText?, and_assoc]

theorem catalogText_check : TextCheck catalogText? where
  same {v s} h := by
    cases v with
    | str t =>
      simp only [catalogText?] at h
      split at h
      · cases h
      · exact congrArg Value.str (Option.some.inj h)
    | null => cases h
    | bool b => cases h
    | int n => cases h
    | float r => cases h
    | list items => cases h
    | dict items => cases h
  strip {s} h := by
    obtain ⟨hblank, hlen, hsafe⟩ := catalogText?_str.mp h
    apply catalogText?_str.mpr
    refine ⟨by rw [isBlank_strip, hblank], (strip_length_le s).trans hlen, ?_⟩
    unfold isSafeCatalogText at hsafe ⊢
    rw [any_strip (by simpa using hsafe)]
    rfl

theorem capabilityText?_str {s : PyStr} :
    capabilityText? (.str s) = some s ↔
      s.isBlank = false ∧ s.length ≤ maxCapabilityTextLength ∧
        s.any (fun c => c.val < 0x20 || c.val == 0x7F) = false := by
  simp [capabilityText?, and_assoc]

theorem capabilityText_check : TextCheck capabilityText? where
  same {v s} h := by
    cases v with
    | str t =>
      simp only [capabilityText?] at h
      split at h
      · cases h
      · exact congrArg Value.str (Option.some.inj h)
    | null => cases h
    | bool b => cases h
    | int n => cases h
    | float r => cases h
    | list items => cases h
    | dict items => cases h
  strip {s} h := by
    obtain ⟨hblank, hlen, hany⟩ := capabilityText?_str.mp h
    apply capabilityText?_str.mpr
    exact ⟨by rw [isBlank_strip, hblank], (strip_length_le s).trans hlen, any_strip hany⟩

section
variable {check : Value → Option PyStr}

/-- A list of checked texts is the list it was read from. -/
theorem TextCheck.items (hcheck : TextCheck check) {items : List Value} {texts : List PyStr}
    (h : items.mapM check = some texts) :
    items = texts.map .str ∧ ∀ s ∈ texts, check (.str s) = some s := by
  induction items generalizing texts with
  | nil =>
    obtain rfl : [] = texts := Option.some.inj h
    exact ⟨rfl, nofun⟩
  | cons v items ih =>
    rw [List.mapM_cons] at h
    obtain ⟨s, hs, h⟩ := Option.bind_eq_some_iff.mp h
    obtain ⟨rest, hrest, h⟩ := Option.bind_eq_some_iff.mp h
    obtain rfl : s :: rest = texts := Option.some.inj h
    obtain ⟨hitems, hall⟩ := ih hrest
    obtain rfl := hcheck.same hs
    refine ⟨by rw [hitems]; rfl, ?_⟩
    intro t ht
    obtain rfl | ht := List.mem_cons.mp ht
    · exact hs
    · exact hall t ht

/-- Written back stripped, it is checked again and stays. -/
theorem TextCheck.again (hcheck : TextCheck check) {texts : List PyStr}
    (h : ∀ s ∈ texts, check (.str s) = some s) :
    (texts.map (fun s => Value.str s.strip)).mapM check = some (texts.map PyStr.strip) := by
  induction texts with
  | nil => rfl
  | cons s texts ih =>
    rw [List.map_cons, List.mapM_cons, hcheck.strip (h s List.mem_cons_self),
      ih (fun t ht => h t (List.mem_cons_of_mem s ht))]
    rfl

end

theorem strip_texts (texts : List PyStr) :
    (texts.map PyStr.strip).map (fun s => Value.str s.strip) = texts.map (fun s => Value.str s.strip) := by
  rw [List.map_map]
  apply List.map_congr_left
  intro s _
  exact congrArg Value.str s.strip_strip

/-! ## Parameters -/

/-- The entry `_validate_catalog_parameters` writes for one parameter. -/
def sanitizedParameter (name label kind : PyStr) (maxLength : Int) (options : List PyStr) : Object :=
  let normalized : Object :=
    [(PyStr.ofString "name", .str name), (PyStr.ofString "label", .str label.strip),
     (PyStr.ofString "kind", .str kind), (PyStr.ofString "max_length", .int maxLength)]
  if options.isEmpty then normalized
  else normalized ++ [(PyStr.ofString "options", .list (options.map (fun o => .str o.strip)))]

/-- What was checked of the entry. -/
structure ParameterChecked (seen : List PyStr) (name label kind : PyStr) (maxLength : Int) (options : List PyStr) :
    Prop where
  named : isCatalogParameterName name = true
  unseen : name ∉ seen
  labelled : catalogText? (.str label) = some label
  known : kind ∈ catalogParameterKinds
  bounds : 1 ≤ maxLength ∧ maxLength ≤ 4096
  few : options.length ≤ maxCatalogParameterOptions
  texts : ∀ s ∈ options, catalogText? (.str s) = some s
  distinct : options.Nodup

theorem validateCatalogOptions_some {raw : Option Value} {options : List PyStr}
    (h : validateCatalogOptions raw = some options) :
    (raw.getD (.list []) = .list (options.map .str)) ∧ options.length ≤ maxCatalogParameterOptions ∧
      (∀ s ∈ options, catalogText? (.str s) = some s) ∧ options.Nodup := by
  unfold validateCatalogOptions at h
  split at h
  · obtain rfl : [] = options := Option.some.inj h
    exact ⟨rfl, Nat.zero_le _, nofun, List.nodup_nil⟩
  · split at h
    · cases h
    · rename_i items _ texts hitems
      split at h
      · cases h
      · rename_i hok
        obtain rfl : texts = options := Option.some.inj h
        obtain ⟨rfl, hall⟩ := catalogText_check.items hitems
        obtain ⟨hlen, hnodup⟩ := not_or.mp hok
        exact ⟨rfl, Nat.le_of_not_lt hlen, hall, not_not.mp hnodup⟩
  · cases h

/-- A guard that raises was not taken. -/
theorem guard_passed {α β : Type} {c : Prop} [Decidable c] {x : Option α} {f : β → Option α} {y : α}
    (h : (if c then none.bind f else x) = some y) : ¬ c ∧ x = some y := by
  split at h
  · cases h
  · exact ⟨‹¬ c›, h⟩

/-- One entry as it is checked and written. -/
theorem validateCatalogParameter_some {seen : List PyStr} {fields p : Object} {name : PyStr}
    (h : validateCatalogParameter seen fields = some (name, p)) :
    ∃ label kind maxLength options, ParameterChecked seen name label kind maxLength options ∧
      (fields.get? (PyStr.ofString "options")).getD (.list []) = .list (options.map .str) ∧
      p = sanitizedParameter name label kind maxLength options := by
  unfold validateCatalogParameter at h
  simp only [Option.bind_eq_bind] at h
  obtain ⟨-, h⟩ := guard_passed h
  obtain ⟨nameField, -, h⟩ := Option.bind_eq_some_iff.mp h
  cases nameField with
  | str name' =>
    obtain ⟨hname, h⟩ := guard_passed h
    obtain ⟨label, hlabel, h⟩ := Option.bind_eq_some_iff.mp h
    obtain ⟨kindField, -, h⟩ := Option.bind_eq_some_iff.mp h
    cases kindField with
    | str kind =>
      obtain ⟨hkind, h⟩ := guard_passed h
      obtain ⟨maxLength, -, h⟩ := Option.bind_eq_some_iff.mp h
      obtain ⟨hbounds, h⟩ := guard_passed h
      obtain ⟨options, hoptions, h⟩ := Option.bind_eq_some_iff.mp h
      obtain ⟨rfl, rfl⟩ := Prod.mk.inj (Option.some.inj h)
      obtain ⟨hraw, hfew, htexts, hdistinct⟩ := validateCatalogOptions_some hoptions
      obtain ⟨labelField, -, hlabel⟩ := Option.bind_eq_some_iff.mp hlabel
      obtain rfl := catalogText_check.same hlabel
      have hname : isCatalogParameterName name' = true ∧ name' ∉ seen := by simpa using hname
      refine ⟨label, kind, maxLength, options, ?_, hraw, rfl⟩
      exact ⟨hname.1, hname.2, hlabel, not_not.mp hkind, by omega, hfew, htexts, hdistinct⟩
    | _ => cases h
  | _ => cases h

section
variable {seen : List PyStr} {name label kind : PyStr} {maxLength : Int} {options : List PyStr}

theorem sanitizedParameter_keys (k : PyStr)
    (h : k ∈ (sanitizedParameter name label kind maxLength options).keys) : k ∈ catalogParameterFields := by
  have hfields : k ∈ names ["name", "label", "kind", "max_length", "options"] := by
    unfold sanitizedParameter at h
    split at h
    · simp only [Object.keys, List.map_cons, List.map_nil, List.mem_cons, List.not_mem_nil, or_false] at h
      simp only [names, List.map_cons, List.map_nil, List.mem_cons]
      tauto
    · simpa only [Object.keys, names, List.map_append, List.map_cons, List.map_nil, List.cons_append,
        List.nil_append] using h
  exact hfields

theorem sanitizedParameter_options :
    (sanitizedParameter name label kind maxLength options).get? (PyStr.ofString "options") =
      if options.isEmpty then none else some (.list (options.map (fun o => .str o.strip))) := by
  unfold sanitizedParameter
  split
  · rfl
  · rfl

theorem sanitizedParameter_get (name label kind : PyStr) (maxLength : Int) (options : List PyStr) :
    let p := sanitizedParameter name label kind maxLength options
    p.get? (PyStr.ofString "name") = some (.str name) ∧
      p.get? (PyStr.ofString "label") = some (.str label.strip) ∧
      p.get? (PyStr.ofString "kind") = some (.str kind) ∧
      p.get? (PyStr.ofString "max_length") = some (.int maxLength) := by
  unfold sanitizedParameter
  split
  · exact ⟨rfl, rfl, rfl, rfl⟩
  · exact ⟨rfl, rfl, rfl, rfl⟩

/-- Stripped options are checked again exactly when they stay distinct. -/
theorem validateCatalogOptions_again (hfew : options.length ≤ maxCatalogParameterOptions)
    (htexts : ∀ s ∈ options, catalogText? (.str s) = some s) (hdistinct : (options.map PyStr.strip).Nodup) :
    validateCatalogOptions
        (if options.isEmpty then none else some (.list (options.map (fun o => .str o.strip)))) =
      some (options.map PyStr.strip) := by
  split
  · rename_i hempty
    obtain rfl := List.isEmpty_iff.mp hempty
    rfl
  · have hlength : ¬ (options.map PyStr.strip).length > maxCatalogParameterOptions := by
      rw [List.length_map]
      exact Nat.not_lt.mpr hfew
    simp only [validateCatalogOptions, catalogText_check.again htexts]
    exact if_neg (not_or.mpr ⟨hlength, not_not.mpr hdistinct⟩)

/-- An entry is written the same when it is written from its own values. -/
theorem sanitizedParameter_strip :
    sanitizedParameter name label.strip kind maxLength (options.map PyStr.strip) =
      sanitizedParameter name label kind maxLength options := by
  unfold sanitizedParameter
  rw [List.isEmpty_map, PyStr.strip_strip, strip_texts]

/-- The sanitised entry passes again as it is when its options stay distinct. -/
theorem ParameterChecked.again (h : ParameterChecked seen name label kind maxLength options)
    (hdistinct : (options.map PyStr.strip).Nodup) :
    validateCatalogParameter seen (sanitizedParameter name label kind maxLength options) =
      some (name, sanitizedParameter name label kind maxLength options) := by
  have hkeys : ¬ ((sanitizedParameter name label kind maxLength options).keys.any
      (fun k => k ∉ catalogParameterFields) = true) := by
    rw [List.any_eq_true]
    rintro ⟨k, hk, hnot⟩
    exact of_decide_eq_true hnot (sanitizedParameter_keys k hk)
  have hname : ¬ ((!isCatalogParameterName name || decide (name ∈ seen)) = true) := by
    simp [h.named, h.unseen]
  have hlabel : (some (Value.str label.strip)).bind catalogText? = some label.strip :=
    catalogText_check.strip h.labelled
  have hbounds : ¬ (maxLength < 1 ∨ 4096 < maxLength) := by
    have := h.bounds
    omega
  obtain ⟨hnameGet, hlabelGet, hkindGet, hmaxGet⟩ :=
    sanitizedParameter_get name label kind maxLength options
  unfold validateCatalogParameter
  rw [if_neg hkeys, hnameGet, hlabelGet, hkindGet, hmaxGet, sanitizedParameter_options,
    validateCatalogOptions_again h.few h.texts hdistinct]
  simp only [Option.bind_eq_bind, Option.bind_some, if_neg hname, hlabel, if_neg (not_not.mpr h.known),
    Value.asInt?, if_neg hbounds]
  exact congrArg (fun p => some (name, p)) sanitizedParameter_strip

end

/-! ## Names without white space -/

theorem isIdentifierChar_not_space {c : CodePoint} (h : isIdentifierChar c = true) : c.isSpace = false := by
  have hrange : (0x41 ≤ c.val ∧ c.val ≤ 0x5A ∨ 0x61 ≤ c.val ∧ c.val ≤ 0x7A) ∨ 0x30 ≤ c.val ∧ c.val ≤ 0x39 ∨
      c.val = 0x5F ∨ c.val = 0x2D := by
    simpa [isIdentifierChar, isAsciiLetter, isAsciiDigit, or_assoc] using h
  exact CodePoint.not_isSpace (by omega)

theorem isCatalogParameterName_strip {name : PyStr} (h : isCatalogParameterName name = true) : name.strip = name := by
  cases name with
  | nil => cases h
  | cons c rest =>
    have hall : (isAsciiLetter c = true ∧ rest.all isIdentifierChar = true) ∧ rest.length ≤ 63 := by
      simpa [isCatalogParameterName] using h
    apply strip_solid
    intro d hd
    apply isIdentifierChar_not_space
    obtain rfl | hd := List.mem_cons.mp hd
    · simp [isIdentifierChar, hall.1.1]
    · exact List.all_eq_true.mp hall.1.2 d hd

theorem catalogParameterKinds_strip : ∀ kind ∈ catalogParameterKinds, kind.strip = kind := by
  have hspace : ∀ kind ∈ catalogParameterKinds, ∀ c ∈ kind, c.isSpace = false := by decide
  exact fun kind hkind => strip_solid (hspace kind hkind)

theorem sanitizedParameter_stripped {seen : List PyStr} {name label kind : PyStr} {maxLength : Int}
    {options : List PyStr} (h : ParameterChecked seen name label kind maxLength options) :
    Stripped (.dict (sanitizedParameter name label kind maxLength options)) := by
  have hkeys : ∀ k ∈ catalogParameterFields, k.strip = k := by
    have hspace : ∀ k ∈ catalogParameterFields, ∀ c ∈ k, c.isSpace = false := by decide
    exact fun k hk => strip_solid (hspace k hk)
  apply Stripped.dict
  · intro e he
    exact hkeys e.1 (sanitizedParameter_keys e.1 (List.mem_map_of_mem he))
  · have hfour : ∀ e ∈ ([(PyStr.ofString "name", .str name), (PyStr.ofString "label", .str label.strip),
        (PyStr.ofString "kind", .str kind), (PyStr.ofString "max_length", .int maxLength)] : Object), Stripped e.2 := by
      simp only [List.forall_mem_cons]
      exact ⟨.str _ (isCatalogParameterName_strip h.named), .str _ label.strip_strip,
        .str _ (catalogParameterKinds_strip kind h.known), .int maxLength, nofun⟩
    unfold sanitizedParameter
    split
    · exact hfour
    · intro e he
      obtain he | he := List.mem_append.mp he
      · exact hfour e he
      · obtain rfl := List.mem_singleton.mp he
        exact stripped_texts options

/-! ## Parameter lists -/

/-- No parameter lists two options that are the same text once stripped. -/
def OptionsApart (items : List Value) : Prop :=
  ∀ fields : Object, Value.dict fields ∈ items → ∀ options,
    fields.get? (PyStr.ofString "options") = some (.list options) → (options.map stripValue).Nodup

/-- A sanitised parameter list keeps its own contract. -/
structure ParametersKept (ps : List Object) : Prop where
  again : validateCatalogParameters (.list (ps.map .dict)) = some ps
  names : (ps.map (fun p => p.get? (PyStr.ofString "name"))).Nodup
  options : ∀ p ∈ ps, ∀ options, p.get? (PyStr.ofString "options") = some (.list options) → options.Nodup
  stripped : Stripped (.list (ps.map .dict))

theorem OptionsApart.tail {v : Value} {items : List Value} (h : OptionsApart (v :: items)) : OptionsApart items :=
  fun fields hfields => h fields (List.mem_cons_of_mem v hfields)

theorem str_injective : Function.Injective Value.str := fun _ _ h => Value.str.inj h

theorem nodup_strip {options : List PyStr} :
    ((options.map .str).map stripValue).Nodup ↔ (options.map PyStr.strip).Nodup := by
  have hmap : (options.map Value.str).map stripValue = (options.map PyStr.strip).map .str := by
    rw [List.map_map, List.map_map]
    rfl
  rw [hmap, List.nodup_map_iff str_injective]

/-- The options of one entry stay distinct exactly when the input's do. -/
theorem options_apart {fields : Object} {options : List PyStr}
    (hraw : (fields.get? (PyStr.ofString "options")).getD (.list []) = .list (options.map .str)) :
    (options.map PyStr.strip).Nodup ↔
      ∀ items, fields.get? (PyStr.ofString "options") = some (.list items) → (items.map stripValue).Nodup := by
  rw [← nodup_strip]
  cases hget : fields.get? (PyStr.ofString "options") with
  | none =>
    rw [hget] at hraw
    rw [← Value.list.inj hraw]
    exact ⟨nofun, fun _ => List.nodup_nil⟩
  | some raw =>
    rw [hget] at hraw
    obtain rfl : raw = .list (options.map .str) := hraw
    constructor
    · intro h items hitems
      rwa [← Value.list.inj (Option.some.inj hitems)]
    · exact fun h => h _ rfl

theorem validateCatalogParameterList_cons {seen : List PyStr} {v : Value} {vs : List Value} {ps : List Object}
    (h : validateCatalogParameterList seen (v :: vs) = some ps) :
    ∃ fields name p rest, v = .dict fields ∧ validateCatalogParameter seen fields = some (name, p) ∧
      validateCatalogParameterList (name :: seen) vs = some rest ∧ ps = p :: rest := by
  cases v with
  | dict fields =>
    obtain ⟨⟨name, p⟩, hp, h⟩ := Option.bind_eq_some_iff.mp h
    obtain ⟨rest, hrest, h⟩ := Option.bind_eq_some_iff.mp h
    exact ⟨fields, name, p, rest, rfl, hp, hrest, (Option.some.inj h).symm⟩
  | _ => cases h

def parameterName (p : Object) : Option Value := p.get? (PyStr.ofString "name")

theorem parameterList_names {seen : List PyStr} {items : List Value} {ps : List Object}
    (h : validateCatalogParameterList seen items = some ps) :
    (ps.map parameterName).Nodup ∧ ∀ n ∈ seen, some (.str n) ∉ ps.map parameterName := by
  induction items generalizing seen ps with
  | nil =>
    obtain rfl : [] = ps := Option.some.inj h
    exact ⟨List.nodup_nil, fun _ _ => List.not_mem_nil⟩
  | cons v items ih =>
    obtain ⟨fields, name, p, rest, rfl, hp, hrest, rfl⟩ := validateCatalogParameterList_cons h
    obtain ⟨label, kind, maxLength, options, hchecked, -, rfl⟩ := validateCatalogParameter_some hp
    have hname : parameterName (sanitizedParameter name label kind maxLength options) = some (.str name) :=
      (sanitizedParameter_get name label kind maxLength options).1
    obtain ⟨hnodup, hfresh⟩ := ih hrest
    rw [List.map_cons, hname]
    refine ⟨List.nodup_cons.mpr ⟨hfresh name List.mem_cons_self, hnodup⟩, ?_⟩
    intro n hn hmem
    obtain heq | hmem := List.mem_cons.mp hmem
    · have hsame : n = name := Value.str.inj (Option.some.inj heq)
      exact hchecked.unseen (hsame ▸ hn)
    · exact hfresh n (List.mem_cons_of_mem name hn) hmem

theorem parameterList_stripped {seen : List PyStr} {items : List Value} {ps : List Object}
    (h : validateCatalogParameterList seen items = some ps) :
    ps.length = items.length ∧ ∀ p ∈ ps, Stripped (.dict p) := by
  induction items generalizing seen ps with
  | nil =>
    obtain rfl : [] = ps := Option.some.inj h
    exact ⟨rfl, nofun⟩
  | cons v items ih =>
    obtain ⟨fields, name, p, rest, rfl, hp, hrest, rfl⟩ := validateCatalogParameterList_cons h
    obtain ⟨label, kind, maxLength, options, hchecked, -, rfl⟩ := validateCatalogParameter_some hp
    obtain ⟨hlength, hall⟩ := ih hrest
    exact ⟨congrArg (· + 1) hlength, List.forall_mem_cons.mpr ⟨sanitizedParameter_stripped hchecked, hall⟩⟩

/-- With options apart the whole list passes again as it is. -/
theorem parameterList_again {seen : List PyStr} {items : List Value} {ps : List Object}
    (h : validateCatalogParameterList seen items = some ps) (hapart : OptionsApart items) :
    validateCatalogParameterList seen (ps.map .dict) = some ps := by
  induction items generalizing seen ps with
  | nil =>
    obtain rfl : [] = ps := Option.some.inj h
    rfl
  | cons v items ih =>
    obtain ⟨fields, name, p, rest, rfl, hp, hrest, rfl⟩ := validateCatalogParameterList_cons h
    obtain ⟨label, kind, maxLength, options, hchecked, hraw, rfl⟩ := validateCatalogParameter_some hp
    have hdistinct := (options_apart hraw).mpr (hapart fields List.mem_cons_self)
    have hagain := ih hrest hapart.tail
    rw [List.map_cons, validateCatalogParameterList, hchecked.again hdistinct]
    show (validateCatalogParameterList (name :: seen) (rest.map .dict)).bind _ = _
    rw [hagain]
    rfl

/-- The options that are returned are the input's, stripped: they are distinct exactly when those are. -/
theorem parameterList_options {seen : List PyStr} {items : List Value} {ps : List Object}
    (h : validateCatalogParameterList seen items = some ps) :
    (∀ p ∈ ps, ∀ options, p.get? (PyStr.ofString "options") = some (.list options) → options.Nodup) ↔
      OptionsApart items := by
  induction items generalizing seen ps with
  | nil =>
    obtain rfl : [] = ps := Option.some.inj h
    exact ⟨fun _ _ hfields => absurd hfields List.not_mem_nil, fun _ _ hp => absurd hp List.not_mem_nil⟩
  | cons v items ih =>
    obtain ⟨fields, name, p, rest, rfl, hp, hrest, rfl⟩ := validateCatalogParameterList_cons h
    obtain ⟨label, kind, maxLength, options, -, hraw, rfl⟩ := validateCatalogParameter_some hp
    have hone : (∀ os, (sanitizedParameter name label kind maxLength options).get? (PyStr.ofString "options") =
        some (.list os) → os.Nodup) ↔ (options.map PyStr.strip).Nodup := by
      rw [sanitizedParameter_options]
      split
      · rename_i hempty
        rw [List.isEmpty_iff.mp hempty]
        exact ⟨fun _ => List.nodup_nil, nofun⟩
      · have hmap : options.map (fun o => Value.str o.strip) = (options.map PyStr.strip).map .str := by
          rw [List.map_map]
          rfl
        rw [hmap]
        constructor
        · exact fun hall => (List.nodup_map_iff str_injective).mp (hall _ rfl)
        · intro hnodup os hos
          rw [← Value.list.inj (Option.some.inj hos)]
          exact (List.nodup_map_iff str_injective).mpr hnodup
    rw [List.forall_mem_cons, hone, ih hrest, options_apart hraw]
    constructor
    · rintro ⟨hfirst, hothers⟩ other hother
      obtain hsame | hother := List.mem_cons.mp hother
      · rw [Value.dict.inj hsame]
        exact hfirst
      · exact hothers other hother
    · exact fun hall => ⟨hall fields List.mem_cons_self, hall.tail⟩

/-- `_validate_catalog_parameters` keeps its contract exactly on inputs whose options stay apart. -/
theorem parameters_kept_iff {items : List Value} {ps : List Object}
    (h : validateCatalogParameters (.list items) = some ps) : ParametersKept ps ↔ OptionsApart items := by
  have hlen : ¬ items.length > maxCatalogParameters := by
    intro hlong
    rw [validateCatalogParameters, if_pos hlong] at h
    cases h
  rw [validateCatalogParameters, if_neg hlen] at h
  obtain ⟨hlength, hstripped⟩ := parameterList_stripped h
  constructor
  · exact fun hkept => (parameterList_options h).mp hkept.options
  · intro hapart
    refine ⟨?_, (parameterList_names h).1, (parameterList_options h).mpr hapart, ?_⟩
    · rw [validateCatalogParameters, if_neg (by rwa [List.length_map, hlength])]
      exact parameterList_again h hapart
    · apply Stripped.list
      intro v hv
      obtain ⟨p, hp, rfl⟩ := List.mem_map.mp hv
      exact hstripped p hp

/-! ## Default arguments -/

/-- Sanitised default arguments keep their own contract. -/
structure ArgumentsKept (args : Object) : Prop where
  again : validateCatalogDefaultArguments (.dict args) = some args
  stripped : Stripped (.dict args)

/-- One argument of `_validate_catalog_default_arguments`. -/
def defaultArgument? (e : PyStr × Value) : Option (PyStr × Value) := do
  if !isCatalogParameterName e.1 then none
  let argument ← catalogText? e.2
  some (e.1, .str argument.strip)

theorem defaultArgument?_kept {e e' : PyStr × Value} (h : defaultArgument? e = some e') :
    defaultArgument? e' = some e' ∧ e'.1.strip = e'.1 ∧ Stripped e'.2 := by
  unfold defaultArgument? at h
  simp only [Option.bind_eq_bind] at h
  obtain ⟨hname, h⟩ := guard_passed h
  obtain ⟨argument, hargument, h⟩ := Option.bind_eq_some_iff.mp h
  obtain rfl := Option.some.inj h
  have hname' : isCatalogParameterName e.1 = true := by simpa using hname
  rw [catalogText_check.same hargument] at hargument
  refine ⟨?_, isCatalogParameterName_strip hname', .str _ argument.strip_strip⟩
  unfold defaultArgument?
  simp only [if_neg hname, catalogText_check.strip hargument, Option.bind_eq_bind, Option.bind_some,
    PyStr.strip_strip]

theorem mapM_again {α : Type} {f : α → Option α} (hf : ∀ a b, f a = some b → f b = some b) {l r : List α}
    (h : l.mapM f = some r) : r.length = l.length ∧ (∀ b ∈ r, f b = some b) ∧ r.mapM f = some r := by
  induction l generalizing r with
  | nil =>
    obtain rfl : [] = r := Option.some.inj h
    exact ⟨rfl, nofun, rfl⟩
  | cons a l ih =>
    rw [List.mapM_cons] at h
    obtain ⟨b, hb, h⟩ := Option.bind_eq_some_iff.mp h
    obtain ⟨rest, hrest, h⟩ := Option.bind_eq_some_iff.mp h
    obtain rfl : b :: rest = r := Option.some.inj h
    obtain ⟨hlength, hall, hagain⟩ := ih hrest
    refine ⟨congrArg (· + 1) hlength, List.forall_mem_cons.mpr ⟨hf a b hb, hall⟩, ?_⟩
    rw [List.mapM_cons, hf a b hb, hagain]
    rfl

theorem arguments_kept {value : Value} {args : Object} (h : validateCatalogDefaultArguments value = some args) :
    ArgumentsKept args := by
  cases value with
  | dict items =>
    have hsome (l : Object) : validateCatalogDefaultArguments (.dict l) =
        if l.isEmpty || l.length > maxCatalogParameters then none else l.mapM defaultArgument? := rfl
    rw [hsome] at h
    split at h
    · cases h
    · rename_i hbounds
      obtain ⟨hlength, hall, hagain⟩ := mapM_again (fun a b hab => (defaultArgument?_kept hab).1) h
      have hempty : args.isEmpty = items.isEmpty := by
        rw [Bool.eq_iff_iff, List.isEmpty_iff_length_eq_zero, List.isEmpty_iff_length_eq_zero, hlength]
      refine ⟨?_, ?_⟩
      · rw [hsome, if_neg (by rwa [hempty, hlength]), hagain]
      · exact .dict _ (fun e he => (defaultArgument?_kept (hall e he)).2.1)
          (fun e he => (defaultArgument?_kept (hall e he)).2.2)
  | _ => cases h

/-! ## Capabilities

Groups and fields are gathered alike: each entry is checked and written under its
stripped name, where a later one replaces an earlier one. -/

/-- A loop that writes each checked entry into a dictionary. -/
def gather (check : PyStr × Value → Option (PyStr × Value)) : List (PyStr × Value) → Object → Option Object
  | [], o => some o
  | e :: rest, o =>
    match check e with
    | none => none
    | some (k, v) => gather check rest (o.set k v)

/-- Distinct names, and every entry passes as it is. -/
structure Gathered (check : PyStr × Value → Option (PyStr × Value)) (o : Object) : Prop where
  keys : o.keys.Nodup
  entries : ∀ e ∈ o, check e = some e

section
variable {check : PyStr × Value → Option (PyStr × Value)}

theorem Object.mem_set {o : Object} {k : PyStr} {v : Value} {e : PyStr × Value} (h : e ∈ o.set k v) :
    e = (k, v) ∨ e ∈ o := by
  unfold Object.set at h
  split at h
  · obtain ⟨d, hd, rfl⟩ := List.mem_map.mp h
    split
    · exact .inl rfl
    · exact .inr hd
  · obtain h | h := List.mem_append.mp h
    · exact .inr h
    · exact .inl (List.mem_singleton.mp h)

theorem Object.keys_set (o : Object) (k : PyStr) (v : Value) :
    (o.set k v).keys = if k ∈ o.keys then o.keys else o.keys ++ [k] := by
  unfold Object.set
  split
  · show (o.map _).map Prod.fst = o.map Prod.fst
    rw [List.map_map]
    apply List.map_congr_left
    intro e _
    show (if e.1 = k then (k, v) else e).1 = e.1
    split
    · exact Eq.symm ‹e.1 = k›
    · rfl
  · show (o ++ [(k, v)]).map Prod.fst = o.map Prod.fst ++ [k]
    rw [List.map_append]
    rfl

theorem Gathered.set {o : Object} (h : Gathered check o) {k : PyStr} {v : Value} (hkv : check (k, v) = some (k, v)) :
    Gathered check (o.set k v) ∧ (o.set k v).length ≤ o.length + 1 := by
  have hlen (p : Object) : p.length = p.keys.length := (List.length_map _).symm
  have hkeys := Object.keys_set o k v
  refine ⟨⟨?_, ?_⟩, ?_⟩
  · rw [hkeys]
    split
    · exact h.keys
    · rename_i hnew
      exact List.nodup_append.mpr ⟨h.keys, List.nodup_singleton k, fun a ha b hb heq =>
        hnew (List.mem_singleton.mp hb ▸ heq ▸ ha)⟩
  · intro e he
    obtain rfl | he := Object.mem_set he
    · exact hkv
    · exact h.entries e he
  · rw [hlen, hlen o, hkeys]
    split
    · exact Nat.le_succ _
    · exact (List.length_append).le

/-- The loop keeps what it holds. -/
theorem gather_kept (hcheck : ∀ e e', check e = some e' → check e' = some e') {items : List (PyStr × Value)}
    {o r : Object} (h : gather check items o = some r) (ho : Gathered check o) :
    Gathered check r ∧ r.length ≤ o.length + items.length := by
  induction items generalizing o with
  | nil =>
    obtain rfl : o = r := Option.some.inj h
    exact ⟨ho, Nat.le_refl _⟩
  | cons e items ih =>
    rw [gather] at h
    split at h
    · cases h
    · rename_i k v hkv
      obtain ⟨hset, hlen⟩ := ho.set (hcheck e (k, v) hkv)
      obtain ⟨hr, hrlen⟩ := ih h hset
      refine ⟨hr, ?_⟩
      calc r.length ≤ (o.set k v).length + items.length := hrlen
        _ ≤ o.length + 1 + items.length := Nat.add_le_add_right hlen _
        _ = o.length + (e :: items).length := by rw [List.length_cons]; omega

/-- What it gathered it gathers again. -/
theorem gather_again {pre suffix : Object} (h : Gathered check (pre ++ suffix)) :
    gather check suffix pre = some (pre ++ suffix) := by
  induction suffix generalizing pre with
  | nil => rw [gather, List.append_nil]
  | cons e suffix ih =>
    obtain ⟨k, v⟩ := e
    have hnew : k ∉ Object.keys pre := by
      intro hmem
      have hnodup : (Object.keys pre ++ k :: Object.keys suffix).Nodup := by
        have := h.keys
        rwa [Object.keys, List.map_append] at this
      exact (List.nodup_append.mp hnodup).2.2 k hmem k List.mem_cons_self rfl
    have hset : Object.set pre k v = pre ++ [(k, v)] := if_neg hnew
    have hsplit : pre ++ (k, v) :: suffix = (pre ++ [(k, v)]) ++ suffix := by
      rw [List.append_assoc]
      rfl
    rw [gather, h.entries (k, v) (List.mem_append_right pre List.mem_cons_self)]
    show gather check suffix (Object.set pre k v) = _
    rw [hset, hsplit]
    exact ih (hsplit ▸ h)

end

/-- One field of a group. -/
def capabilityField? (e : PyStr × Value) : Option (PyStr × Value) :=
  if e.1.isBlank || e.1.length > maxCapabilityKeyLength ||
    e.1.strip ∉ capabilityBooleanFields ++ capabilityStringFields ++ capabilityListFields then none
  else (validateCapabilityValue e.1.strip e.2).map (fun v => (e.1.strip, v))

/-- One group of the matrix. -/
def capabilityGroup? (e : PyStr × Value) : Option (PyStr × Value) :=
  match e.2 with
  | .dict fields =>
    if e.1.isBlank || e.1.length > maxCapabilityKeyLength || e.1.strip ∉ capabilityGroups ||
      fields.length > maxCapabilityFields then none
    else (validateCapabilityFields fields []).map (fun safe => (e.1.strip, .dict safe))
  | _ => none

theorem validateCapabilityFields_gather (items : List (PyStr × Value)) (o : Object) :
    validateCapabilityFields items o = gather capabilityField? items o := by
  induction items generalizing o with
  | nil => rfl
  | cons e items ih =>
    obtain ⟨name, value⟩ := e
    rw [validateCapabilityFields, gather, capabilityField?]
    split
    · rfl
    · cases validateCapabilityValue name.strip value with
      | none => rfl
      | some v => exact ih _

theorem validateCapabilityGroups_gather (items : List (PyStr × Value)) (o : Object) :
    validateCapabilityGroups items o = gather capabilityGroup? items o := by
  induction items generalizing o with
  | nil => rfl
  | cons e items ih =>
    obtain ⟨name, value⟩ := e
    cases value with
    | dict fields =>
      simp only [validateCapabilityGroups, gather, capabilityGroup?]
      split
      · rfl
      · cases validateCapabilityFields fields [] with
        | none => rfl
        | some safe => exact ih _
    | _ => rfl

theorem validateCapabilityValue_kept {name : PyStr} {value v : Value} (h : validateCapabilityValue name value = some v) :
    validateCapabilityValue name v = some v ∧ Stripped v := by
  cases value with
  | bool b =>
    rw [validateCapabilityValue] at h
    split at h
    · rename_i hname
      obtain rfl := Option.some.inj h
      exact ⟨if_pos hname, .bool b⟩
    · cases h
  | str s =>
    rw [validateCapabilityValue] at h
    split at h
    · rename_i hname
      obtain ⟨t, ht, rfl⟩ := Option.map_eq_some_iff.mp h
      obtain rfl : s = t := Value.str.inj (capabilityText_check.same ht)
      refine ⟨?_, .str _ s.strip_strip⟩
      rw [validateCapabilityValue, if_pos hname, capabilityText_check.strip ht, Option.map_some, PyStr.strip_strip]
    · cases h
  | list items =>
    rw [validateCapabilityValue] at h
    split at h
    · rename_i hname
      split at h
      · cases h
      · rename_i hfew
        obtain ⟨texts, htexts, rfl⟩ := Option.map_eq_some_iff.mp h
        obtain ⟨rfl, hall⟩ := capabilityText_check.items htexts
        refine ⟨?_, stripped_texts texts⟩
        rw [List.length_map] at hfew
        rw [validateCapabilityValue, if_pos hname, List.length_map, if_neg hfew, capabilityText_check.again hall,
          Option.map_some, strip_texts]
    · cases h
  | _ => cases h

/-- A name that passed passes stripped. -/
theorem name_strip {name : PyStr} {p : Prop} [Decidable p]
    (h : ¬ (name.isBlank || name.length > maxCapabilityKeyLength || decide p) = true) :
    ¬ (name.strip.isBlank || name.strip.length > maxCapabilityKeyLength || decide p) = true := by
  have hkept : (name.isBlank = false ∧ name.length ≤ maxCapabilityKeyLength) ∧ ¬ p := by simpa using h
  have hlen := (strip_length_le name).trans hkept.1.2
  simpa [isBlank_strip, hkept.1.1, hkept.2] using hlen

theorem capabilityField?_kept {e e' : PyStr × Value} (h : capabilityField? e = some e') :
    capabilityField? e' = some e' ∧ e'.1.strip = e'.1 ∧ Stripped e'.2 := by
  unfold capabilityField? at h
  split at h
  · cases h
  · rename_i hname
    obtain ⟨v, hv, rfl⟩ := Option.map_eq_some_iff.mp h
    obtain ⟨hagain, hstripped⟩ := validateCapabilityValue_kept hv
    refine ⟨?_, e.1.strip_strip, hstripped⟩
    have hname' := name_strip hname
    unfold capabilityField?
    simp only [PyStr.strip_strip]
    rw [if_neg hname', hagain]
    rfl

/-- The fields of a group are gathered from distinct stripped names, and pass again. -/
theorem capabilityFields_kept {fields safe : Object} (h : validateCapabilityFields fields [] = some safe) :
    Gathered capabilityField? safe ∧ safe.length ≤ fields.length ∧ validateCapabilityFields safe [] = some safe ∧
      Stripped (.dict safe) := by
  rw [validateCapabilityFields_gather] at h
  obtain ⟨hsafe, hlength⟩ := gather_kept (fun _ _ he => (capabilityField?_kept he).1) h ⟨List.nodup_nil, nofun⟩
  refine ⟨hsafe, by simpa using hlength, ?_, ?_⟩
  · rw [validateCapabilityFields_gather]
    exact gather_again hsafe
  · exact .dict _ (fun e he => (capabilityField?_kept (hsafe.entries e he)).2.1)
      (fun e he => (capabilityField?_kept (hsafe.entries e he)).2.2)

theorem capabilityGroup?_kept {e e' : PyStr × Value} (h : capabilityGroup? e = some e') :
    capabilityGroup? e' = some e' ∧ e'.1.strip = e'.1 ∧ Stripped e'.2 ∧
      ∃ fields : Object, e'.2 = .dict fields ∧ fields.keys.Nodup := by
  obtain ⟨name, value⟩ := e
  cases value with
  | dict fields =>
    simp only [capabilityGroup?] at h
    split at h
    · cases h
    · rename_i hname
      obtain ⟨safe, hsafe, rfl⟩ := Option.map_eq_some_iff.mp h
      obtain ⟨hgathered, hlength, hagain, hstripped⟩ := capabilityFields_kept hsafe
      refine ⟨?_, name.strip_strip, hstripped, safe, rfl, hgathered.keys⟩
      obtain ⟨hname, hfew⟩ := not_or.mp (fun hbad => hname (Bool.or_eq_true_iff.mpr hbad))
      have hfew' : ¬ (decide (safe.length > maxCapabilityFields)) = true := by
        simp only [decide_eq_true_eq] at hfew ⊢
        omega
      have hname' : ¬ (name.strip.isBlank || name.strip.length > maxCapabilityKeyLength ||
          name.strip ∉ capabilityGroups || safe.length > maxCapabilityFields) = true := by
        rw [Bool.or_eq_true_iff]
        exact not_or.mpr ⟨name_strip hname, hfew'⟩
      simp only [capabilityGroup?, PyStr.strip_strip]
      rw [if_neg hname', hagain]
      rfl
  | _ => cases h

/-- A sanitised capability matrix keeps its own contract. -/
structure CapabilitiesKept (groups : Object) : Prop where
  again : validateCapabilityCatalog (.dict groups) = some groups
  names : groups.keys.Nodup
  fields : ∀ e ∈ groups, ∃ fields : Object, e.2 = .dict fields ∧ fields.keys.Nodup
  stripped : Stripped (.dict groups)

theorem capabilityMatrix_kept {value : Value} {groups : Object} (h : validateCapabilityCatalog value = some groups) :
    CapabilitiesKept groups := by
  cases value with
  | dict items =>
    have hsome (l : Object) : validateCapabilityCatalog (.dict l) =
        if l.length > maxCapabilityGroups then none else validateCapabilityGroups l [] := rfl
    rw [hsome] at h
    split at h
    · cases h
    · rename_i hfew
      rw [validateCapabilityGroups_gather] at h
      obtain ⟨hgathered, hlength⟩ :=
        gather_kept (fun _ _ he => (capabilityGroup?_kept he).1) h ⟨List.nodup_nil, nofun⟩
      have hlength : groups.length ≤ items.length := by simpa using hlength
      refine ⟨?_, hgathered.keys, ?_, ?_⟩
      · rw [hsome, if_neg (by omega), validateCapabilityGroups_gather]
        exact gather_again hgathered
      · exact fun e he => (capabilityGroup?_kept (hgathered.entries e he)).2.2.2
      · exact .dict _ (fun e he => (capabilityGroup?_kept (hgathered.entries e he)).2.1)
          (fun e he => (capabilityGroup?_kept (hgathered.entries e he)).2.2.1)
  | _ => cases h

/-! ## The contract -/

/-- For every value: default arguments and capabilities that are returned keep the
validator's contract, and parameters keep it exactly when no parameter came with two
options that are one text once stripped. -/
theorem catalog_contract_iff (value : Value) :
    (∀ ps, validateCatalogParameters value = some ps →
      ∃ items, value = .list items ∧ (ParametersKept ps ↔ OptionsApart items)) ∧
    (∀ args, validateCatalogDefaultArguments value = some args → ArgumentsKept args) ∧
    (∀ groups, validateCapabilityCatalog value = some groups → CapabilitiesKept groups) := by
  refine ⟨?_, fun _ => arguments_kept, fun _ => capabilityMatrix_kept⟩
  intro ps h
  cases value with
  | list items => exact ⟨items, rfl, parameters_kept_iff h⟩
  | _ => cases h

/-- A queue with the option `solo` and, spelt with a space before it, `solo`. -/
def soloTwice : Object :=
  [(PyStr.ofString "name", .str (PyStr.ofString "queue")), (PyStr.ofString "label", .str (PyStr.ofString "Cola")),
   (PyStr.ofString "kind", .str (PyStr.ofString "queue")), (PyStr.ofString "max_length", .int 16),
   (PyStr.ofString "options", .list [.str (PyStr.ofString "solo"), .str (PyStr.ofString " solo")])]

/-- The two options are accepted, written alike, and refused. -/
theorem solo_twice_refused :
    ∃ ps, validateCatalogParameters (.list [.dict soloTwice]) = some ps ∧
      validateCatalogParameters (.list (ps.map .dict)) = none ∧ ¬ ParametersKept ps := by
  have hfirst : validateCatalogParameters (.list [.dict soloTwice]) =
      some [sanitizedParameter (PyStr.ofString "queue") (PyStr.ofString "Cola") (PyStr.ofString "queue") 16
        [PyStr.ofString "solo", PyStr.ofString " solo"]] := by
    rfl
  have hagain : validateCatalogParameters (.list ([sanitizedParameter (PyStr.ofString "queue") (PyStr.ofString "Cola")
      (PyStr.ofString "queue") 16 [PyStr.ofString "solo", PyStr.ofString " solo"]].map .dict)) = none := by
    rfl
  refine ⟨_, hfirst, hagain, ?_⟩
  intro hkept
  rw [hkept.again] at hagain
  cases hagain

end Pipa.Core
