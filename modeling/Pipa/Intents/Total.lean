import Pipa.Intents.Catalog
import Pipa.Intents.Phrases

/- Neither reading of a bounded text raises. In `parse_text_intent` the one thing that
   may is `int`, which is given runs of decimal digits only, and refuses more than
   4300 of them; a text of at most 4000 bytes cannot fold to so many. In
   `parse_catalog_intent` it is a lookup of a value in a set or in options of the
   wrong type, which no descriptor of a validated catalog has. -/
namespace Pipa.Intents
open Pipa.Lib Pipa.Core

/-- Whether `c` is a decimal digit, `\d`. -/
def Unicode.isDigit (u : Unicode) (c : CodePoint) : Bool := (u.decimal c).isSome

/-- What is used of the Unicode data. -/
structure Unicode.Lawful (u : Unicode) : Prop where
  /-- No decimal digit is white space, a sign or an underscore. -/
  plain : ∀ c, u.isDigit c = true → c.isSpace = false ∧ c ≠ CodePoint.ofChar '-' ∧ c ≠ CodePoint.ofChar '+' ∧
    c ≠ CodePoint.ofChar '_'
  /-- Folding gives no more digits than the text has bytes. -/
  folded : ∀ s : PyStr, (u.nfkd (u.lower s)).countP u.isDigit ≤ s.bytes.length

/-! ## Bytes -/

theorem bytes_le_of_part {s t : PyStr} (h : s <:+: t) : s.bytes.length ≤ t.bytes.length := by
  obtain ⟨before, after, rfl⟩ := h
  simp only [PyStr.bytes_append, List.length_append]
  omega

/-- The bytes of the words, each with a space. -/
def spaced (words : List PyStr) : Nat := (words.map (fun w => w.bytes.length + 1)).sum

theorem spaced_splitOnP (s : PyStr) : spaced (s.splitOnP CodePoint.isSpace) ≤ s.bytes.length + 1 := by
  induction s with
  | nil => exact Nat.le_refl 1
  | cons c s ih =>
    obtain ⟨word, words, hwords⟩ := List.exists_cons_of_ne_nil (List.splitOnP_ne_nil CodePoint.isSpace s)
    have hpos := List.length_pos_of_ne_nil c.utf8_ne_nil
    have hbytes (t : PyStr) : (PyStr.bytes (c :: t)).length = c.utf8.length + t.bytes.length := List.length_append
    rw [List.splitOnP_cons_eq_if_modifyHead]
    split
    · have hnil : (PyStr.bytes []).length = 0 := rfl
      simp only [spaced, List.map_cons, List.sum_cons, hnil] at ih ⊢
      rw [hbytes]
      omega
    · rw [hwords] at ih ⊢
      simp only [spaced, List.modifyHead_cons, List.map_cons, List.sum_cons, hbytes] at ih ⊢
      omega

theorem spaced_filter (p : PyStr → Bool) (words : List PyStr) : spaced (words.filter p) ≤ spaced words := by
  induction words with
  | nil => exact Nat.le_refl 0
  | cons word words ih =>
    rw [List.filter_cons]
    split
    · simp only [spaced, List.map_cons, List.sum_cons] at ih ⊢
      omega
    · simp only [spaced, List.map_cons, List.sum_cons] at ih ⊢
      omega

theorem bytes_intercalate (words : List PyStr) :
    (PyStr.bytes (List.intercalate [CodePoint.ofChar ' '] words)).length ≤ spaced words := by
  induction words with
  | nil => exact Nat.le_refl 0
  | cons word words ih =>
    cases words with
    | nil => simp [spaced]
    | cons next words =>
      have hspace : (PyStr.bytes [CodePoint.ofChar ' ']).length = 1 := rfl
      rw [List.intercalate_cons_cons, PyStr.bytes_append, PyStr.bytes_append, List.length_append, List.length_append,
        hspace]
      simp only [spaced, List.map_cons, List.sum_cons] at ih ⊢
      omega

theorem bytes_collapse (text : PyStr) : (collapse text).bytes.length ≤ text.bytes.length + 1 := by
  have hstrip : text.strip.bytes.length + 1 ≤ text.bytes.length + 1 :=
    Nat.succ_le_succ (bytes_le_of_part text.strip_infix)
  exact (bytes_intercalate _).trans (((spaced_filter _ _).trans (spaced_splitOnP _)).trans hstrip)

/-! ## Numerals -/

variable {u : Unicode}

theorem digits?_of_digits (hu : u.Lawful) {t : PyStr} (ht : ∀ c ∈ t, u.isDigit c = true) (afterDigit : Bool)
    (hstart : t = [] → afterDigit = true) : ∃ ds, digits? u afterDigit t = some ds ∧ ds.length = t.length := by
  induction t generalizing afterDigit with
  | nil => exact ⟨[], if_pos (hstart rfl), rfl⟩
  | cons c t ih =>
    have hc := ht c List.mem_cons_self
    obtain ⟨d, hd⟩ := Option.isSome_iff_exists.mp hc
    obtain ⟨ds, hds, hlength⟩ := ih (fun c' hc' => ht c' (List.mem_cons_of_mem c hc')) true (fun _ => rfl)
    refine ⟨d :: ds, ?_, by rw [List.length_cons, List.length_cons, hlength]⟩
    rw [digits?, if_neg (hu.plain c hc).2.2.2, hd]
    simp only [hds, Option.map_some]

theorem strip_of_digits (hu : u.Lawful) {t : PyStr} (ht : ∀ c ∈ t, u.isDigit c = true) : t.strip = t :=
  strip_solid fun c hc => (hu.plain c (ht c hc)).1

/-- `int` takes a run of digits that is not too long. -/
theorem parseInt?_of_digits (hu : u.Lawful) {t : PyStr} (ht : ∀ c ∈ t, u.isDigit c = true) (hne : t ≠ [])
    (hle : t.length ≤ maxStrDigits) : ∃ n, parseInt? u t = some n := by
  cases t with
  | nil => exact absurd rfl hne
  | cons c t =>
    obtain ⟨-, hminus, hplus, -⟩ := hu.plain c (ht c List.mem_cons_self)
    obtain ⟨ds, hds, hlength⟩ := digits?_of_digits hu ht false (fun h => absurd h hne)
    refine ⟨Int.ofNat (ds.foldl (fun n d => 10 * n + d) 0), ?_⟩
    rw [parseInt?, strip_of_digits hu ht]
    simp only
    rw [if_neg hminus, if_neg hplus, parseNat?, hds]
    simp only
    rw [if_neg (by omega)]
    rfl

/-! ## The rules -/

/-- The rule does not raise. -/
def Rule.Quiet (u : Unicode) (original normalized : PyStr) (r : Rule) : Prop :=
  ∀ e, r.apply u original normalized ≠ some (.error e)

section
variable {original normalized : PyStr}

theorem quiet_phrases {texts : List String} {i : ParsedIntent} :
    (Rule.phrases texts i).Quiet u original normalized := by
  intro e
  simp only [Rule.apply]
  split
  · nofun
  · nofun

/-- A rule whose answer cannot fail. -/
theorem quiet_patterns {subject : Subject} {ps : List Pattern} {f : Unicode → Groups → Answer}
    (h : ∀ groups e, f u groups ≠ some (.error e)) : (Rule.patterns subject ps f).Quiet u original normalized := by
  intro e
  cases subject with
  | original =>
    simp only [Rule.apply]
    split
    · nofun
    · exact h _ e
  | normalized =>
    simp only [Rule.apply]
    split
    · nofun
    · exact h _ e

theorem quiet_stripped {subject : Subject} {ps : List Pattern} {tool : String} {names : List String} :
    (Rule.patterns subject ps (strippedGroups tool names)).Quiet u original normalized := quiet_patterns nofun

theorem quiet_plain {subject : Subject} {ps : List Pattern} {tool : String} {names : List (String × Nat)} :
    (Rule.patterns subject ps (plainGroups tool names)).Quiet u original normalized := quiet_patterns nofun

theorem quiet_recipient {subject : Subject} {ps : List Pattern} :
    (Rule.patterns subject ps recipient).Quiet u original normalized := quiet_patterns nofun

theorem quiet_music {subject : Subject} {ps : List Pattern} :
    (Rule.patterns subject ps music).Quiet u original normalized := quiet_patterns nofun

theorem quiet_selection {subject : Subject} {ps : List Pattern} :
    (Rule.patterns subject ps musicOrSelection).Quiet u original normalized := by
  refine quiet_patterns ?_
  intro groups e
  unfold musicOrSelection
  simp only
  split
  · nofun
  · nofun

theorem quiet_leagueSearch {subject : Subject} {ps : List Pattern} :
    (Rule.patterns subject ps leagueSearch).Quiet u original normalized := by
  refine quiet_patterns ?_
  intro groups e
  unfold leagueSearch
  cases leagueQueueIntent u (group groups 1) with
  | none => nofun
  | some i => nofun

theorem quiet_fixedRules : ∀ r ∈ fixedRules, r.Quiet u original normalized := by
  simp only [fixedRules, List.forall_mem_cons, List.not_mem_nil, false_imp_iff, implies_true, quiet_phrases,
    quiet_stripped, and_self]

theorem quiet_whatsappRules : ∀ r ∈ whatsappRules, r.Quiet u original normalized := by
  simp only [whatsappRules, List.forall_mem_cons, List.not_mem_nil, false_imp_iff, implies_true, quiet_recipient,
    quiet_stripped, and_self]

theorem quiet_discordRules : ∀ r ∈ discordRules, r.Quiet u original normalized := by
  simp only [discordRules, List.forall_mem_cons, List.not_mem_nil, false_imp_iff, implies_true, quiet_plain,
    quiet_stripped, and_self]

theorem quiet_systemRules : ∀ r ∈ systemRules, r.Quiet u original normalized := by
  simp only [systemRules, List.forall_mem_cons, List.not_mem_nil, false_imp_iff, implies_true, quiet_plain,
    quiet_stripped, quiet_phrases, and_self]

theorem quiet_musicRules : ∀ r ∈ musicRules, r.Quiet u original normalized := by
  simp only [musicRules, List.forall_mem_cons, List.not_mem_nil, false_imp_iff, implies_true, quiet_phrases,
    quiet_music, quiet_selection, true_and, and_true]
  refine ⟨quiet_patterns ?_, quiet_patterns nofun⟩
  intro groups e
  split
  · nofun
  · nofun

/-! ## The rules that read a number -/

@[simp] theorem captures_text (s : String) : (Pattern.text s).captures = [] := Regex.captures_atoms _

@[simp] theorem captures_oneOf (texts : List String) : (Pattern.oneOf texts).captures = [] := by
  refine Regex.captures_alts ?_
  simp only [List.mem_map, forall_exists_index, and_imp, forall_apply_eq_imp_iff₂, captures_text, implies_true]

@[simp] theorem captures_cat (ps : List Pattern) : (Pattern.cat ps).captures = ps.flatMap Regex.captures := by
  induction ps with
  | nil => rfl
  | cons p ps ih =>
    rw [List.flatMap_cons, ← ih]
    rfl

@[simp] theorem captures_maybe (p : Pattern) : (Pattern.maybe p).captures = p.captures.map (fun g => (g.1, false)) :=
  Regex.captures_opt p

@[simp] theorem captures_decimals (least : Nat) (most : Option Nat) : (decimals least most).captures = [] := rfl

/-- The one group of a pattern holds digits: it took no part, or `int` takes it. -/
theorem group_digits (hu : u.Lawful) (hbound : normalized.countP u.isDigit ≤ maxStrDigits) {p : Pattern} {least : Nat}
    {most : Option Nat} {sure : Bool} (hleast : 1 ≤ least) (hp : p.captures = [(decimals least most, sure)])
    {groups : Groups} (h : fullmatch u false p normalized = some groups) :
    (sure = false ∧ group groups 1 = []) ∨ ∃ n, parseInt? u (group groups 1) = some n := by
  unfold fullmatch Regex.fullmatch at h
  obtain ⟨m, hm, rfl⟩ := Option.map_eq_some_iff.mp h
  obtain ⟨-, hcaptures⟩ := Regex.run_captures (List.mem_of_find?_eq_some hm)
  rw [hp] at hcaptures
  obtain ⟨c, l, hc, hnil, hgroups⟩ := List.forall₂_cons_left_iff.mp hcaptures
  obtain rfl := List.forall₂_nil_left_iff.mp hnil
  rw [hgroups]
  cases c with
  | none =>
    left
    cases sure with
    | false => exact ⟨rfl, rfl⟩
    | true => cases hc.sure rfl
  | some t =>
    right
    obtain ⟨hpart, s', n, hn, rfl⟩ := hc.part t rfl
    obtain ⟨hlength, hdigits⟩ := Regex.rep_taken hn
    have ht : ∀ c ∈ n.taken, u.isDigit c = true := by
      intro c hmem
      simpa [Atom.holds, Item.holds, Unicode.isDigit] using hdigits c hmem
    show ∃ v, parseInt? u n.taken = some v
    refine parseInt?_of_digits hu ht ?_ ?_
    · intro hnil
      rw [hnil, List.length_nil] at hlength
      omega
    · rw [← List.countP_eq_length.mpr ht]
      exact (hpart.sublist.countP_le).trans hbound

/-- A rule on one such pattern. -/
theorem quiet_number (hu : u.Lawful) (hbound : normalized.countP u.isDigit ≤ maxStrDigits) {p : Pattern} (least : Nat)
    (most : Option Nat) (sure : Bool) (hleast : 1 ≤ least) (hp : p.captures = [(decimals least most, sure)])
    {f : Unicode → Groups → Answer}
    (hnone : sure = false → ∀ groups e, group groups 1 = [] → f u groups ≠ some (.error e))
    (hsome : ∀ groups n e, parseInt? u (group groups 1) = some n → f u groups ≠ some (.error e)) :
    (Rule.patterns .normalized [p] f).Quiet u original normalized := by
  intro e
  simp only [Rule.apply, List.findSome?_cons, List.findSome?_nil]
  cases h : fullmatch u false p normalized with
  | none => nofun
  | some groups =>
    obtain ⟨hsure, hnil⟩ | ⟨n, hn⟩ := group_digits hu hbound hleast hp h
    · exact hnone hsure groups e hnil
    · exact hsome groups n e hn

theorem answer_quiet (i : ParsedIntent) (e : Exn) : answer i ≠ some (.error e) := by
  intro h
  cases h

theorem quiet_lastRules (hu : u.Lawful) (hbound : normalized.countP u.isDigit ≤ maxStrDigits) :
    ∀ r ∈ lastRules, r.Quiet u original normalized := by
  have htimer (unit : Int) (groups : Groups) (n : Int) (e : Exn) (h : parseInt? u (group groups 1) = some n) :
      timerCreate unit u groups ≠ some (.error e) := by
    rw [timerCreate, h]
    exact answer_quiet _ e
  simp only [lastRules, List.forall_mem_cons, List.not_mem_nil, false_imp_iff, implies_true, quiet_stripped,
    quiet_leagueSearch, true_and, and_true]
  refine ⟨?_, ?_, ?_, ?_⟩
  · refine quiet_number hu hbound 1 (some 3) false (Nat.le_refl 1) ?_ ?_ ?_
    · simp [Pattern.either, Regex.alts, Regex.captures, Pattern.captured]
    · intro _ groups e hnil
      rw [leagueWaitIntent, hnil]
      exact answer_quiet _ e
    · intro groups n e h
      unfold leagueWaitIntent
      split
      · exact answer_quiet _ e
      rw [h]
      simp only
      split
      · exact answer_quiet _ e
      · simp
  · refine quiet_number hu hbound 1 (some 3) true (Nat.le_refl 1) ?_ (by simp) ?_
    · simp [Regex.captures, Pattern.captured]
    · intro groups n e h
      rw [audioVolume, h]
      exact answer_quiet _ e
  · refine quiet_number hu hbound 1 none true (Nat.le_refl 1) ?_ (by simp) (fun g n e => htimer 1 g n e)
    simp [Regex.captures, Pattern.captured]
  · refine quiet_number hu hbound 1 none true (Nat.le_refl 1) ?_ (by simp) (fun g n e => htimer 60 g n e)
    simp [Regex.captures, Pattern.captured]

theorem findSome?_quiet {rs : List Rule} (h : ∀ r ∈ rs, r.Quiet u original normalized) :
    ∀ e, rs.findSome? (Rule.apply u original normalized) ≠ some (.error e) := by
  induction rs with
  | nil => nofun
  | cons r rs ih =>
    intro e
    rw [List.findSome?_cons]
    cases hr : r.apply u original normalized with
    | none => exact ih (fun r' hr' => h r' (List.mem_cons_of_mem _ hr')) e
    | some a =>
      rintro ⟨⟩
      exact h r List.mem_cons_self e hr

end

theorem validateBoundedText_bytes {text bounded : PyStr} {n : Nat} (h : validateBoundedText text n = .ok bounded) :
    text.bytes.length ≤ n :=
  (validateBoundedText_ok.mp h).2.size

/-- A bounded text is read without an exception. -/
theorem parseTextIntent_total (hu : u.Lawful) {text bounded : PyStr} (h : validateBoundedText text 4000 = .ok bounded) :
    ∃ i, parseTextIntent u text = .ok i := by
  have hbytes : text.bytes.length ≤ 4000 := validateBoundedText_bytes h
  have hbound : (foldPhrase u (collapse text)).countP u.isDigit ≤ maxStrDigits := by
    have hcollapse := bytes_collapse text
    have hfolded := hu.folded (collapse text)
    have hfilter : (foldPhrase u (collapse text)).countP u.isDigit ≤
        (u.nfkd (u.lower (collapse text))).countP u.isDigit := List.filter_sublist.countP_le
    have hmax : maxStrDigits = 4300 := rfl
    omega
  have hquiet : ∀ r ∈ rules, r.Quiet u (collapse text) (foldPhrase u (collapse text)) := by
    simp only [rules, List.mem_append]
    rintro r (((((hr | hr) | hr) | hr) | hr) | hr)
    · exact quiet_fixedRules r hr
    · exact quiet_whatsappRules r hr
    · exact quiet_discordRules r hr
    · exact quiet_systemRules r hr
    · exact quiet_musicRules r hr
    · exact quiet_lastRules hu hbound r hr
  unfold parseTextIntent
  simp only
  split
  · exact ⟨_, rfl⟩
  cases hfound : rules.findSome? (Rule.apply u (collapse text) (foldPhrase u (collapse text))) with
  | none => exact ⟨none, rfl⟩
  | some a =>
    cases a with
    | error e => exact absurd hfound (findSome?_quiet hquiet e)
    | ok i => exact ⟨i, rfl⟩

/-! ## The phrases of a catalog -/

/-- A text that has a UTF-8 form. -/
def Encodable (s : PyStr) : Prop := ∀ c ∈ s, c.isSurrogate = false

theorem Encodable.encode {s : PyStr} (h : Encodable s) : s.encode = some s.bytes :=
  PyStr.encode_eq_some.mpr ⟨h, rfl⟩

theorem Encodable.of_part {s t : PyStr} (h : Encodable t) (hst : s <:+: t) : Encodable s :=
  fun c hc => h c (hst.sublist.mem hc)

theorem encodable_of_bounded {text bounded : PyStr} {n : Nat} (h : validateBoundedText text n = .ok bounded) :
    Encodable text :=
  (validateBoundedText_ok.mp h).2.encodes

theorem mem_of_splitOnP {p : CodePoint → Bool} {s word : PyStr} (hword : word ∈ s.splitOnP p) :
    ∀ c ∈ word, c ∈ s := by
  induction s generalizing word with
  | nil =>
    rw [List.splitOnP_nil, List.mem_singleton] at hword
    rw [hword]
    exact fun c hc => hc
  | cons x s ih =>
    rw [List.splitOnP_cons_eq_if_modifyHead] at hword
    split at hword
    · obtain rfl | hword := List.mem_cons.mp hword
      · nofun
      · exact fun c hc => List.mem_cons_of_mem x (ih hword c hc)
    · obtain ⟨first, words, hwords⟩ := List.exists_cons_of_ne_nil (List.splitOnP_ne_nil p s)
      rw [hwords, List.modifyHead_cons] at hword
      obtain rfl | hword := List.mem_cons.mp hword
      · intro c hc
        obtain rfl | hc := List.mem_cons.mp hc
        · exact List.mem_cons_self
        · exact List.mem_cons_of_mem x (ih (by rw [hwords]; exact List.mem_cons_self) c hc)
      · exact fun c hc => List.mem_cons_of_mem x (ih (by rw [hwords]; exact List.mem_cons_of_mem first hword) c hc)

theorem encodable_collapse {text : PyStr} (h : Encodable text) : Encodable (collapse text) := by
  intro c hc
  obtain ⟨word, hword, hc⟩ | rfl := mem_intercalate hc
  · have hmem := mem_of_splitOnP (List.mem_of_mem_filter hword) c hc
    exact h c (text.strip_infix.sublist.mem hmem)
  · decide

/-- A parameter whose kind and options can be looked up. -/
structure ReadableParameter (parameter : Object) : Prop where
  kind : ((parameter.get? (PyStr.ofString "kind")).getD .null).hashable = true
  options : ∃ items, (parameter.get? (PyStr.ofString "options")).getD (.list []) = .list items

/-- A descriptor with a tool, and such parameters. -/
structure ReadableCommand (command : Object) : Prop where
  toolName : ∃ toolName, command.get? (PyStr.ofString "tool_name") = some (.str toolName)
  parameters : ∀ parameters, (command.get? (PyStr.ofString "parameters")).getD (.list []) = .list parameters →
    ∀ parameter, Value.dict parameter ∈ parameters → ReadableParameter parameter

theorem catalogKindValue_total {kind : Value} (h : kind.hashable = true) (value : PyStr) :
    ∃ r, catalogKindValue u kind value = .ok r := by
  unfold catalogKindValue
  rw [h]
  simp only [Bool.not_true, Bool.false_eq_true, if_false]
  split
  · exact ⟨_, rfl⟩
  split
  · exact ⟨_, rfl⟩
  split
  · exact ⟨_, rfl⟩
  split
  · exact ⟨_, rfl⟩
  · exact ⟨_, rfl⟩

theorem catalogValue_total {parameter : Object} (h : ReadableParameter parameter) {value : PyStr}
    (hvalue : Encodable value) : ∃ r, catalogValue u value parameter = .ok r := by
  obtain ⟨items, hitems⟩ := h.options
  unfold catalogValue
  simp only
  split
  · exact ⟨_, rfl⟩
  split
  · exact ⟨_, rfl⟩
  rw [(hvalue.of_part value.strip_infix).encode, hitems]
  simp only
  split
  · exact ⟨_, rfl⟩
  split
  · simp only [isOption]
    split
    · rename_i e he
      cases he
    · exact ⟨_, rfl⟩
    · exact catalogKindValue_total h.kind _
  · exact catalogKindValue_total h.kind _

theorem readArguments_total {parameters : List Value} {groups : Groups}
    (hlength : parameters.length = groups.length)
    (hparameters : ∀ parameter, Value.dict parameter ∈ parameters → ReadableParameter parameter)
    (hgroups : ∀ g ∈ groups, Encodable (g.getD [])) (arguments : Object) (specificity : Nat) :
    ∃ r, readArguments u arguments specificity parameters groups = .ok r := by
  induction parameters generalizing groups arguments specificity with
  | nil =>
    obtain rfl := List.length_eq_zero_iff.mp hlength.symm
    exact ⟨_, rfl⟩
  | cons parameter parameters ih =>
    cases groups with
    | nil => cases hlength
    | cons raw groups =>
      cases parameter with
      | dict parameter =>
        have hparameter := hparameters parameter List.mem_cons_self
        obtain ⟨r, hr⟩ := catalogValue_total (u := u) hparameter (hgroups raw List.mem_cons_self)
        simp only [readArguments]
        split
        · rw [hr]
          cases r with
          | none => exact ⟨_, rfl⟩
          | some value =>
            rw [isTyped, hparameter.kind]
            exact ih (Nat.succ.inj hlength) (fun p hp => hparameters p (List.mem_cons_of_mem _ hp))
              (fun g hg => hgroups g (List.mem_cons_of_mem _ hg)) _ _
        · exact ⟨_, rfl⟩
      | _ => exact ⟨_, rfl⟩

/-- A phrase has a group for each placeholder. -/
theorem phrasePattern_groups (phrase : PyStr) : (phrasePattern phrase).groups = (placeholders phrase).length := by
  have hliteral (text : PyStr) : (catalogLiteralPattern text).captures = [] := by
    simp only [catalogLiteralPattern, captures_cat, List.flatMap_eq_nil_iff, List.mem_map, forall_exists_index, and_imp,
      forall_apply_eq_imp_iff₂]
    intro part _
    split
    · rfl
    · exact Regex.captures_atoms _
  rw [← Regex.captures_length, phrasePattern, captures_cat, placeholders]
  induction pieces phrase with
  | nil => rfl
  | cons piece pieces ih =>
    rw [List.map_cons, List.flatMap_cons, List.length_append, ih]
    cases piece with
    | literal text =>
      rw [Piece.pattern, hliteral, List.length_nil, Nat.zero_add]
      rfl
    | placeholder name =>
      rw [Nat.add_comm]
      rfl

theorem candidate_total {command : Object} (h : ReadableCommand command) {original : PyStr}
    (horiginal : Encodable original) : ∃ r, candidate u original command = .ok r := by
  unfold candidate
  split
  · rename_i phrase toolName parameters hphrase htool hparameters
    split
    · exact ⟨_, rfl⟩
    rename_i groups hgroups
    split
    · exact ⟨_, rfl⟩
    rename_i hlength
    unfold fullmatch Regex.fullmatch at hgroups
    obtain ⟨m, hm, rfl⟩ := Option.map_eq_some_iff.mp hgroups
    obtain ⟨-, hcaptures⟩ := Regex.run_captures (List.mem_of_find?_eq_some hm)
    have hsame : parameters.length = m.captured.length := by
      rw [← hcaptures.length_eq, Regex.captures_length, phrasePattern_groups]
      exact (not_not.mp hlength).symm
    obtain ⟨r, hr⟩ := readArguments_total (u := u) hsame
      (h.parameters parameters hparameters)
      (by
        intro g hg
        cases g with
        | none => nofun
        | some t => exact horiginal.of_part (Regex.run_parts (List.mem_of_find?_eq_some hm) hg))
      [] (withoutPlaceholders phrase).length
    rw [hr]
    cases r with
    | none => exact ⟨_, rfl⟩
    | some found =>
      simp only
      split
      · exact ⟨_, rfl⟩
      · exact ⟨_, rfl⟩
  · exact ⟨_, rfl⟩

/-- A bounded text is read in a validated catalog without an exception. -/
theorem parseCatalogIntent_total {text bounded : PyStr} (h : validateBoundedText text 4000 = .ok bounded)
    {commands : List Object} (hcommands : ∀ c ∈ commands, ReadableCommand c) :
    ∃ i, parseCatalogIntent u text commands = .ok i := by
  have hcandidates : ∃ found, candidates u (collapse text) commands = .ok found := by
    induction commands with
    | nil => exact ⟨[], rfl⟩
    | cons command commands ih =>
      obtain ⟨found, hfound⟩ := candidate_total (u := u) (hcommands command List.mem_cons_self)
        (encodable_collapse (encodable_of_bounded h))
      obtain ⟨rest, hrest⟩ := ih (fun c hc => hcommands c (List.mem_cons_of_mem command hc))
      exact ⟨found.toList ++ rest, by rw [candidates, hfound, hrest]⟩
  obtain ⟨found, hfound⟩ := hcandidates
  unfold parseCatalogIntent
  simp only
  split
  · exact ⟨_, rfl⟩
  · rw [hfound]
    exact ⟨_, rfl⟩

/-! ## Latin-1 -/

/-- The decomposition of one code point. -/
def decomposition (c : CodePoint) : PyStr :=
  match Unicode.decompositions.find? (fun d => d.1 = c.val) with
  | none => [c]
  | some d => d.2.map Unicode.point

theorem decompositions_digits : ∀ d ∈ Unicode.decompositions,
    0x80 ≤ d.1 ∧ (d.2.map Unicode.point).countP Unicode.latin1.isDigit ≤ 2 := by decide

theorem point_val : ∀ n < 0x80, (Unicode.point n).val = n := by decide

theorem decomposition_digits (c : CodePoint) :
    (decomposition (Unicode.lowerLatin c)).countP Unicode.latin1.isDigit ≤ c.utf8.length := by
  have hsingle (c : CodePoint) : [c].countP Unicode.latin1.isDigit ≤ 1 := List.countP_le_length
  have hpos := List.length_pos_of_ne_nil c.utf8_ne_nil
  unfold decomposition
  cases hfind : Unicode.decompositions.find? (fun d => d.1 = (Unicode.lowerLatin c).val) with
  | none => exact (hsingle _).trans hpos
  | some d =>
    obtain ⟨hlarge, hle⟩ := decompositions_digits d (List.mem_of_find?_eq_some hfind)
    have hkey : d.1 = (Unicode.lowerLatin c).val := by simpa using List.find?_some hfind
    have hwide : 2 ≤ c.utf8.length := by
      have hc : 0x80 ≤ c.val := by
        unfold Unicode.lowerLatin at hkey
        split at hkey
        · rename_i hupper
          by_contra hsmall
          have hlow := point_val (c.val + 0x20) (by omega)
          omega
        · omega
      unfold CodePoint.utf8
      rw [if_neg (by omega)]
      split
      · exact Nat.le_refl 2
      split
      · exact Nat.le_succ 2
      · exact (by decide : 2 ≤ 4)
    exact hle.trans hwide

theorem lawful_latin1 : Unicode.latin1.Lawful where
  plain c hc := by
    have hdigit : 0x30 ≤ c.val ∧ c.val ≤ 0x39 := by
      simp only [Unicode.isDigit, Unicode.latin1] at hc
      split at hc
      · assumption
      · cases hc
    have hne (d : Char) (hd : d.toNat < 0x30 ∨ 0x39 < d.toNat) : c ≠ CodePoint.ofChar d := by
      rintro rfl
      simp only [CodePoint.ofChar] at hdigit
      omega
    exact ⟨CodePoint.not_isSpace (by omega), hne '-' (by decide), hne '+' (by decide), hne '_' (by decide)⟩
  folded s := by
    induction s with
    | nil => exact Nat.le_refl 0
    | cons c s ih =>
      have hc := decomposition_digits c
      have hcons : Unicode.latin1.nfkd (Unicode.latin1.lower (c :: s)) =
          decomposition (Unicode.lowerLatin c) ++ Unicode.latin1.nfkd (Unicode.latin1.lower s) := rfl
      have hbytes : (PyStr.bytes (c :: s)).length = c.utf8.length + (PyStr.bytes s).length := List.length_append
      rw [hcons, List.countP_append, hbytes]
      omega

end Pipa.Intents
