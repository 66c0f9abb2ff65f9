import Pipa.Intents.Groups
import Pipa.Tools.AgentCatalog

/- Every intent that `parse_text_intent` returns is for a tool of the agent, with arguments
   the tool has names for.

   A rule of the parser `Agrees` where the intents it may return fit their tools. For most
   rules this is two checks by computation: that the groups of the pattern are filled, and
   that the names the rule gives them are those the validator asks for. -/
namespace Pipa.Tools
open Pipa.Lib Pipa.Core Pipa.Intents

variable (web : Web) (u : Unicode) (text : PyStr)

/-- The intent is for a tool of the agent, and its arguments fit what the validator asks for. -/
def IntentFits (i : ParsedIntent) : Prop :=
  ∃ tool ∈ agentTools web, PyStr.ofString tool.name = i.toolName ∧ tool.validator.Fits text i.arguments

/-- The intents of a rule fit their tools. -/
def Agrees (r : Rule) : Prop :=
  ∀ i, r.apply u (collapse text) (foldPhrase u (collapse text)) = some (.ok (some i)) → IntentFits web text i

def agentTool? (name : String) : Option AgentTool := (agentTools web).find? (fun tool => tool.name = name)

/-- Whether these names are a choice of the texts a schema asks for, without anything else. -/
def takesTexts (s : ArgumentSchema) (names : List String) : Bool :=
  decide names.Nodup && names.all (fun name => s.allowed.contains name) &&
    s.required.all (fun name => names.contains name) && s.requiredIntegers.isEmpty && s.choices.isEmpty

variable {web u text}

/-! ## Arguments -/

theorem intentFits_tool {name : String} {tool : AgentTool} {arguments : Object}
    (htool : agentTool? web name = some tool) (h : tool.validator.Fits text arguments) :
    IntentFits web text ⟨PyStr.ofString name, arguments⟩ := by
  refine ⟨tool, List.mem_of_find?_eq_some htool, ?_, h⟩
  have hname := List.find?_some htool
  simp only [decide_eq_true_eq] at hname
  rw [hname]

theorem intentFits_none {name : String} {safety : Safety}
    (htool : agentTool? web name = some ⟨name, safety, .noArguments⟩) : IntentFits web text (intent name []) :=
  intentFits_tool htool rfl

theorem get?_mem {o : Object} {k : PyStr} {v : Value} (h : o.get? k = some v) : (k, v) ∈ o := by
  obtain ⟨e, he, rfl⟩ := Option.map_eq_some_iff.mp h
  have hk := List.find?_some he
  simp only [decide_eq_true_eq] at hk
  rw [← hk]
  exact List.mem_of_find?_eq_some he

theorem texts_fit {s : ArgumentSchema} {arguments : List (String × PyStr)}
    (hs : takesTexts s (arguments.map Prod.fst) = true) (hread : ∀ a ∈ arguments, Readable text a.2) :
    s.Fits text (arguments.map (fun a => (PyStr.ofString a.1, .str a.2))) := by
  simp only [takesTexts, Bool.and_eq_true, decide_eq_true_eq, List.all_eq_true, List.contains_iff_mem,
    List.isEmpty_iff] at hs
  obtain ⟨⟨⟨⟨hnodup, hallowed⟩, hrequired⟩, hintegers⟩, hchoices⟩ := hs
  have hkeys : Object.keys (arguments.map (fun a => (PyStr.ofString a.1, Value.str a.2))) =
      (arguments.map Prod.fst).map PyStr.ofString := by
    rw [Object.keys, List.map_map, List.map_map]
    rfl
  refine ⟨⟨?_, ?_⟩, ?_, ?_, ?_, ?_⟩
  · rw [hkeys]
    intro key hkey
    obtain ⟨name, hname, rfl⟩ := List.mem_map.mp hkey
    exact ⟨name, hallowed name hname, rfl⟩
  · rw [hkeys]
    exact fun name hname => List.mem_map_of_mem (hrequired name hname)
  · rw [hkeys]
    exact hnodup.map fun _ _ => PyStr.ofString_inj.mp
  · intro name _ value hvalue
    obtain ⟨a, ha, heq⟩ := List.mem_map.mp (get?_mem hvalue)
    exact ⟨a.2, (Prod.mk.inj heq).2.symm, hread a ha⟩
  · rw [hintegers]
    exact List.forall_mem_nil _
  · rw [hchoices]
    intro _ _ h
    cases h

theorem intentFits_texts {name : String} {safety : Safety} {s : ArgumentSchema} (arguments : List (String × PyStr))
    (htool : agentTool? web name = some ⟨name, safety, .schema s⟩)
    (hs : takesTexts s (arguments.map Prod.fst) = true) (hread : ∀ a ∈ arguments, Readable text a.2) :
    IntentFits web text (intent name (arguments.map (fun a => (a.1, .str a.2)))) := by
  refine intentFits_tool htool ?_
  rw [List.map_map]
  exact texts_fit hs hread

/-! ## Groups -/

theorem not_refused_space : refusedCharacter (CodePoint.ofChar ' ') = false := by decide

/-- A part of the collapsed text has no refused character but those of the text. -/
theorem refused_of_part {t : PyStr} (h : t <:+: collapse text) {c : CodePoint} (hc : c ∈ t)
    (hrefused : refusedCharacter c = true) : c ∈ text := by
  obtain hmem | rfl := mem_collapse (h.sublist.mem hc)
  · exact hmem
  · rw [not_refused_space] at hrefused
    cases hrefused

theorem readable_of_part {t : PyStr} (h : t <:+: collapse text) (hsolid : ∃ c ∈ t, c.isSpace = false) :
    Readable text t := by
  obtain ⟨c, hc, hspace⟩ := hsolid
  exact ⟨List.ne_nil_of_mem (mem_strip hc hspace), fun c hc hrefused => refused_of_part h hc hrefused⟩

theorem Readable.strip {t : PyStr} (h : Readable text t) : Readable text t.strip :=
  ⟨by rw [PyStr.strip_strip]; exact h.1, fun c hc => h.2 c (t.strip_infix.sublist.mem hc)⟩

theorem group_eq {groups : Groups} {n : Nat} {t : PyStr} (h : groups[n]? = some (some t)) :
    group groups (n + 1) = t := by
  rw [group, Nat.add_sub_cancel, List.getD_eq_getElem?_getD, h]
  rfl

/-- The groups of the pattern are filled, and there are as many as the rule names. -/
def fillsGroups (p : Pattern) (count : Nat) : Bool := fills p && count ≤ p.groups

theorem group_readable (hu : u.Spaced) {ignoreCase : Bool} {p : Pattern} {count : Nat}
    (hp : fillsGroups p count = true) {groups : Groups}
    (h : fullmatch u ignoreCase p (collapse text) = some groups) {n : Nat} (hn : n < count) :
    Readable text (group groups (n + 1)) := by
  obtain ⟨hfills, hcount⟩ := Bool.and_eq_true_iff.mp hp
  have hcount : count ≤ p.groups := of_decide_eq_true hcount
  obtain ⟨t, ht, hpart, hsolid⟩ := group_fills hu hfills h (Nat.lt_of_lt_of_le hn hcount)
  rw [group_eq ht]
  exact readable_of_part hpart hsolid

/-! ## Rules -/

theorem apply_original {ps : List Pattern} {f : Unicode → Groups → Intents.Answer} {original normalized : PyStr}
    {a : Except Exn (Option ParsedIntent)}
    (h : (Rule.patterns .original ps f).apply u original normalized = some a) :
    ∃ p ∈ ps, ∃ groups, fullmatch u true p original = some groups ∧ f u groups = some a := by
  simp only [Rule.apply] at h
  split at h
  · cases h
  · rename_i groups hmatch
    obtain ⟨p, hp, hgroups⟩ := List.exists_of_findSome?_eq_some hmatch
    exact ⟨p, hp, groups, hgroups, h⟩

theorem apply_normalized {ps : List Pattern} {f : Unicode → Groups → Intents.Answer} {original normalized : PyStr}
    {a : Except Exn (Option ParsedIntent)}
    (h : (Rule.patterns .normalized ps f).apply u original normalized = some a) :
    ∃ p ∈ ps, ∃ groups, fullmatch u false p normalized = some groups ∧ f u groups = some a := by
  simp only [Rule.apply] at h
  split at h
  · cases h
  · rename_i groups hmatch
    obtain ⟨p, hp, hgroups⟩ := List.exists_of_findSome?_eq_some hmatch
    exact ⟨p, hp, groups, hgroups, h⟩

theorem answer_eq {i j : ParsedIntent} (h : answer i = some (.ok (some j))) : i = j :=
  Option.some.inj (Except.ok.inj (Option.some.inj h))

theorem agrees_phrases {texts : List String} {i : ParsedIntent} (h : IntentFits web text i) :
    Agrees web u text (.phrases texts i) := by
  intro j hj
  simp only [Rule.apply] at hj
  split at hj
  · rw [← answer_eq hj]
    exact h
  · cases hj

theorem agrees_stripped (hu : u.Spaced) {p : Pattern} {name : String} {names : List String} {safety : Safety}
    {s : ArgumentSchema} (htool : agentTool? web name = some ⟨name, safety, .schema s⟩)
    (hs : takesTexts s names = true) (hp : fillsGroups p names.length = true) :
    Agrees web u text (.patterns .original [p] (strippedGroups name names)) := by
  intro i hi
  obtain ⟨q, hq, groups, hmatch, hanswer⟩ := apply_original hi
  obtain rfl := List.mem_singleton.mp hq
  rw [← answer_eq hanswer]
  have harguments : names.zipIdx.map (fun n => (n.1, Value.str (group groups (n.2 + 1)).strip)) =
      (names.zipIdx.map (fun n => (n.1, (group groups (n.2 + 1)).strip))).map (fun a => (a.1, Value.str a.2)) := by
    rw [List.map_map]
    rfl
  rw [harguments]
  refine intentFits_texts _ htool ?_ ?_
  · have hnames : (names.zipIdx.map (fun n => (n.1, (group groups (n.2 + 1)).strip))).map Prod.fst = names := by
      rw [List.map_map]
      exact List.zipIdx_map_fst 0 names
    rw [hnames]
    exact hs
  · intro a ha
    obtain ⟨n, hn, rfl⟩ := List.mem_map.mp ha
    have hlt := List.snd_lt_of_mem_zipIdx hn
    exact (group_readable hu hp hmatch (by omega)).strip

/-- A rule that gives the groups of the original text names, as they are. -/
theorem agrees_plain (hu : u.Spaced) {p : Pattern} {name argument : String} {safety : Safety} {s : ArgumentSchema}
    (htool : agentTool? web name = some ⟨name, safety, .schema s⟩) (hs : takesTexts s [argument] = true)
    (hp : fillsGroups p 1 = true) :
    Agrees web u text (.patterns .original [p] (plainGroups name [(argument, 1)])) := by
  intro i hi
  obtain ⟨q, hq, groups, hmatch, hanswer⟩ := apply_original hi
  obtain rfl := List.mem_singleton.mp hq
  rw [← answer_eq hanswer]
  refine intentFits_texts [(argument, group groups 1)] htool hs ?_
  exact List.forall_mem_singleton.mpr (group_readable hu hp hmatch Nat.one_pos)

theorem agrees_recipient (hu : u.Spaced) {p : Pattern} (hp : fillsGroups p 2 = true) :
    Agrees web u text (.patterns .original [p] recipient) := by
  intro i hi
  obtain ⟨q, hq, groups, hmatch, hanswer⟩ := apply_original hi
  obtain rfl := List.mem_singleton.mp hq
  rw [← answer_eq hanswer]
  have hrecipient := (group_readable hu hp hmatch (show 0 < 2 by omega)).strip
  have hmessage := (group_readable hu hp hmatch (show 1 < 2 by omega)).strip
  unfold whatsappRecipientIntent
  simp only
  split
  · refine intentFits_texts [("phone", (group groups 1).strip), ("message", (group groups 2).strip)]
      (s := whatsappComposeArguments web) rfl rfl ?_
    exact List.forall_mem_cons.mpr ⟨hrecipient, List.forall_mem_singleton.mpr hmessage⟩
  · refine intentFits_texts [("contact", (group groups 1).strip), ("message", (group groups 2).strip)]
      (s := whatsappContactMessageArguments) rfl rfl ?_
    exact List.forall_mem_cons.mpr ⟨hrecipient, List.forall_mem_singleton.mpr hmessage⟩

theorem snowflake_readable {p : Pattern} {n : Nat} (hp : p.captures[n]? = some (Pattern.snowflake, true))
    {subject : PyStr} {groups : Groups} (h : fullmatch u false p subject = some groups) :
    Readable text (group groups (n + 1)) := by
  obtain ⟨t, ht, -, s', m, hm, rfl⟩ := group_captured h hp
  rw [group_eq ht]
  obtain ⟨hlength, hall⟩ := Regex.rep_taken hm
  have hdigit : ∀ c ∈ m.taken, c.isSpace = false ∧ refusedCharacter c = false := by
    have hdigits : ∀ k < 0x3A, 0x30 ≤ k → (CodePoint.ofChar (Char.ofNat k)).isSpace = false ∧
        refusedCharacter (CodePoint.ofChar (Char.ofNat k)) = false := by decide
    intro c hc
    have hholds := hall c hc
    simp only [Atom.holds, Item.holds, List.any_cons, List.any_nil, Bool.or_false, List.any_eq_true,
      List.mem_range'_1, sameChar, Bool.false_eq_true, if_false, decide_eq_true_eq] at hholds
    obtain ⟨k, hk, rfl⟩ := hholds
    exact hdigits k (by simpa using hk.2) (by simpa using hk.1)
  refine ⟨?_, fun c hc hrefused => ?_⟩
  · obtain ⟨c, hc⟩ := List.exists_mem_of_length_pos (show 0 < m.taken.length by omega)
    exact List.ne_nil_of_mem (mem_strip hc (hdigit c hc).1)
  · rw [(hdigit c hc).2] at hrefused
    cases hrefused

/-- A rule that gives identifiers of the folded text names. -/
theorem agrees_snowflakes {p : Pattern} {name : String} {arguments : List (String × Nat)} {safety : Safety}
    {s : ArgumentSchema} (htool : agentTool? web name = some ⟨name, safety, .schema s⟩)
    (hs : takesTexts s (arguments.map Prod.fst) = true)
    (hp : ∀ a ∈ arguments, ∃ n, a.2 = n + 1 ∧ p.captures[n]? = some (Pattern.snowflake, true)) :
    Agrees web u text (.patterns .normalized [p] (plainGroups name arguments)) := by
  intro i hi
  obtain ⟨q, hq, groups, hmatch, hanswer⟩ := apply_normalized hi
  obtain rfl := List.mem_singleton.mp hq
  rw [← answer_eq hanswer]
  have harguments : arguments.map (fun n => (n.1, Value.str (group groups n.2))) =
      (arguments.map (fun n => (n.1, group groups n.2))).map (fun a => (a.1, Value.str a.2)) := by
    rw [List.map_map]
    rfl
  rw [harguments]
  refine intentFits_texts _ htool ?_ ?_
  · rw [List.map_map]
    exact hs
  · intro a ha
    obtain ⟨b, hb, rfl⟩ := List.mem_map.mp ha
    obtain ⟨n, hn, hcapture⟩ := hp b hb
    rw [hn]
    exact snowflake_readable hcapture hmatch

theorem agrees_none {ps : List Pattern} {name : String} {safety : Safety}
    (htool : agentTool? web name = some ⟨name, safety, .noArguments⟩) :
    Agrees web u text (.patterns .normalized ps (plainGroups name [])) := by
  intro i hi
  obtain ⟨p, -, groups, -, hanswer⟩ := apply_normalized hi
  rw [← answer_eq hanswer]
  exact intentFits_none htool

/-! ## Media and music -/

theorem mediaAction_fits {action : String} (haction : action ∈ ["play_pause", "next", "previous", "stop"]) :
    IntentFits web text (intent "media_action" [("action", .str (PyStr.ofString action))]) := by
  have htool : agentTool? web "media_action" = some ⟨"media_action", .safe, .schema mediaActionArguments⟩ := rfl
  have hactions : ∀ a ∈ ["play_pause", "next", "previous", "stop"],
      (PyStr.ofString a).strip ≠ [] ∧ (PyStr.ofString a).any refusedCharacter = false := by decide
  obtain ⟨hblank, hrefused⟩ := hactions action haction
  refine intentFits_tool htool (⟨⟨?_, ?_⟩, List.nodup_singleton _, ?_, List.forall_mem_nil _, ?_⟩ :
    mediaActionArguments.Fits text [(PyStr.ofString "action", .str (PyStr.ofString action))])
  · exact List.forall_mem_singleton.mpr ⟨"action", List.mem_cons_self, rfl⟩
  · exact List.forall_mem_singleton.mpr List.mem_cons_self
  · refine List.forall_mem_singleton.mpr ?_
    intro value hvalue
    obtain rfl : Value.str (PyStr.ofString action) = value := Option.some.inj hvalue
    refine ⟨_, rfl, hblank, fun c hc hchar => ?_⟩
    rw [List.any_eq_false] at hrefused
    exact absurd hchar (hrefused c hc)
  · intro name allowedValues hmem
    obtain ⟨rfl, rfl⟩ := Prod.mk.inj (List.mem_singleton.mp hmem)
    refine if_pos (List.any_eq_true.mpr ⟨action, haction, ?_⟩)
    exact decide_eq_true rfl

theorem playPause_fits : IntentFits web text playPause := mediaAction_fits List.mem_cons_self

/-- Where the case is looked at, a text takes itself. -/
theorem run_atoms {s subject : PyStr} {m : Regex.Match CodePoint}
    (h : m ∈ Regex.run (Atom.holds u false) (Regex.atoms (s.map Atom.char)) subject) : m.taken = s := by
  induction s generalizing subject m with
  | nil =>
    obtain rfl := List.mem_singleton.mp h
    rfl
  | cons c s ih =>
    have hseq : m ∈ Regex.run (Atom.holds u false)
        (.seq (.atom (.char c)) (Regex.atoms (s.map Atom.char))) subject := h
    simp only [Regex.run, List.mem_flatMap, List.mem_map] at hseq
    obtain ⟨m₁, hm₁, n, hn, rfl⟩ := hseq
    cases subject with
    | nil => cases hm₁
    | cons d subject =>
      simp only [Regex.run] at hm₁
      split at hm₁
      · rename_i hholds
        obtain rfl := List.mem_singleton.mp hm₁
        have heq : c = d := by simpa [Atom.holds, sameChar] using hholds
        rw [ih hn, heq]
        rfl
      · cases hm₁

theorem run_oneOf {s : String} {texts : List String} {subject : PyStr} {m : Regex.Match CodePoint}
    (h : m ∈ Regex.run (Atom.holds u false) (Pattern.oneOf (s :: texts)) subject) :
    ∃ t ∈ s :: texts, m.taken = PyStr.ofString t := by
  induction texts generalizing s m with
  | nil => exact ⟨s, List.mem_cons_self, run_atoms h⟩
  | cons t texts ih =>
    have halt : m ∈ Regex.run (Atom.holds u false)
        (.alt (Pattern.text s) (Pattern.oneOf (t :: texts))) subject := h
    simp only [Regex.run, List.mem_append, List.mem_map] at halt
    obtain ⟨n, hn, rfl⟩ | ⟨n, hn, rfl⟩ := halt
    · exact ⟨s, List.mem_cons_self, run_atoms (m := n) hn⟩
    · obtain ⟨t', ht', htaken⟩ := ih hn
      exact ⟨t', List.mem_cons_of_mem s ht', htaken⟩

/-- `control multimedia …`: the group holds one of the actions. -/
theorem agrees_mediaAction : Agrees web u text (.patterns .normalized
    [.cat ["control multimedia ", .captured (.oneOf ["play_pause", "next", "previous", "stop"])]]
    (plainGroups "media_action" [("action", 1)])) := by
  intro i hi
  obtain ⟨p, hp, groups, hmatch, hanswer⟩ := apply_normalized hi
  obtain rfl := List.mem_singleton.mp hp
  obtain ⟨t, ht, -, s', m, hm, rfl⟩ := group_captured (n := 0)
    (g := .oneOf ["play_pause", "next", "previous", "stop"]) hmatch rfl
  obtain ⟨action, haction, htaken⟩ := run_oneOf hm
  rw [← answer_eq hanswer]
  have hgroup : group groups 1 = PyStr.ofString action := (group_eq ht).trans htaken
  show IntentFits web text (intent "media_action" [("action", .str (group groups 1))])
  rw [hgroup]
  exact mediaAction_fits haction

theorem cleanMusicTerm_strip (u : Unicode) (value : PyStr) :
    (cleanMusicTerm u value).strip = cleanMusicTerm u value := by
  unfold cleanMusicTerm
  simp only
  split
  · exact PyStr.strip_strip value
  · exact PyStr.strip_strip _

theorem mem_cleanMusicTerm {value : PyStr} {c : CodePoint} (h : c ∈ cleanMusicTerm u value) : c ∈ value := by
  unfold cleanMusicTerm at h
  simp only at h
  split at h
  · exact value.strip_infix.sublist.mem h
  · exact value.strip_infix.sublist.mem (List.mem_of_mem_drop ((PyStr.strip_infix _).sublist.mem h))

/-- A search for music has a term; where nothing is left of it, there is none. -/
theorem musicIntent_fits (hu : u.Spaced) {value : PyStr}
    (hvalue : ∀ c ∈ value, refusedCharacter c = true → c ∈ text) : IntentFits web text (musicIntent u value) := by
  unfold musicIntent
  simp only
  split
  · exact intentFits_none rfl
  · rename_i hnamed
    refine intentFits_texts [("term", cleanMusicTerm u value)] (s := musicSearchArguments web) rfl rfl ?_
    refine List.forall_mem_singleton.mpr ⟨?_, fun c hc => hvalue c (mem_cleanMusicTerm hc)⟩
    rw [cleanMusicTerm_strip]
    intro hnil
    have hfold : foldPhrase u (cleanMusicTerm u value) = [] := by
      rw [hnil, foldPhrase, hu.empty]
      rfl
    apply hnamed
    rw [hfold]
    rfl

/-- What a group holds comes from the text. -/
theorem group_part {ignoreCase : Bool} {p : Pattern} {groups : Groups}
    (h : fullmatch u ignoreCase p (collapse text) = some groups) (n : Nat) :
    ∀ c ∈ group groups n, refusedCharacter c = true → c ∈ text := by
  obtain ⟨m, hm, rfl⟩ := Option.map_eq_some_iff.mp h
  intro c hc hrefused
  unfold group at hc
  cases hget : (m.captured.getD (n - 1) none) with
  | none =>
    rw [hget] at hc
    cases hc
  | some t =>
    rw [hget] at hc
    have hmem : some t ∈ m.captured := by
      rw [List.getD_eq_getElem?_getD] at hget
      cases hsome : m.captured[n - 1]? with
      | none =>
        rw [hsome] at hget
        cases hget
      | some x =>
        rw [hsome] at hget
        obtain rfl : x = some t := hget
        exact List.mem_of_getElem? hsome
    exact refused_of_part (Regex.run_parts (List.mem_of_find?_eq_some hm) hmem) hc hrefused

/-- A rule on the original text whose answers come of one group. -/
theorem agrees_group {ps : List Pattern} {f : Unicode → Groups → Intents.Answer}
    (h : ∀ groups i, (∀ c ∈ group groups 1, refusedCharacter c = true → c ∈ text) →
      f u groups = some (.ok (some i)) → IntentFits web text i) :
    Agrees web u text (.patterns .original ps f) := by
  intro i hi
  obtain ⟨p, -, groups, hmatch, hanswer⟩ := apply_original hi
  exact h groups i (group_part hmatch 1) hanswer

theorem agrees_music (hu : u.Spaced) {ps : List Pattern} : Agrees web u text (.patterns .original ps music) :=
  agrees_group fun _ _ hgroup h => answer_eq h ▸ musicIntent_fits hu hgroup

theorem agrees_musicOrSelection (hu : u.Spaced) {ps : List Pattern} :
    Agrees web u text (.patterns .original ps musicOrSelection) := by
  refine agrees_group fun groups i hgroup h => ?_
  unfold musicOrSelection at h
  simp only at h
  split at h
  · rw [← answer_eq h]
    exact playPause_fits
  · rw [← answer_eq h]
    exact musicIntent_fits hu fun c hc => hgroup c (mem_cleanMusicTerm hc)

/-! ## Queues and numbers -/

theorem leagueQueueAliases_readable : ∀ a ∈ leagueQueueAliases,
    (PyStr.ofString a.2).strip ≠ [] ∧ (PyStr.ofString a.2).any refusedCharacter = false := by decide

theorem leagueQueueIntent_fits {queueText : PyStr} {i : ParsedIntent}
    (h : leagueQueueIntent u queueText = some i) : IntentFits web text i := by
  unfold leagueQueueIntent at h
  simp only at h
  split at h
  · cases h
  · rename_i a hfound
    obtain rfl := Option.some.inj h
    obtain ⟨hblank, hrefused⟩ := leagueQueueAliases_readable a (List.mem_of_find?_eq_some hfound)
    refine intentFits_texts [("queue", PyStr.ofString a.2)] (s := leagueSearchArguments web) rfl rfl ?_
    refine List.forall_mem_singleton.mpr ⟨hblank, fun c hc hchar => ?_⟩
    rw [List.any_eq_false] at hrefused
    exact absurd hchar (hrefused c hc)

theorem agrees_leagueSearch {ps : List Pattern} : Agrees web u text (.patterns .normalized ps leagueSearch) := by
  intro i hi
  obtain ⟨p, -, groups, -, hanswer⟩ := apply_normalized hi
  obtain ⟨j, hqueue, hj⟩ := Option.bind_eq_some_iff.mp hanswer
  rw [← answer_eq hj]
  exact leagueQueueIntent_fits hqueue

theorem integer_fits {name : String} {least most n : Int} {check : Object → Bool} :
    ArgumentSchema.Fits ⟨[], [], [(name, least, most)], [], check⟩ text [(PyStr.ofString name, .int n)] where
  named := ⟨List.forall_mem_singleton.mpr ⟨name, List.mem_cons_self, rfl⟩,
    List.forall_mem_singleton.mpr List.mem_cons_self⟩
  distinct := List.nodup_singleton _
  texts := List.forall_mem_nil _
  integers := List.forall_mem_singleton.mpr ⟨n, by simp [Object.get?]⟩
  choices _ _ h := nomatch h

theorem timer_fits {n : Int} : timerCreateArguments.Fits text
    [(PyStr.ofString "seconds", .int n), (PyStr.ofString "label", .str (PyStr.ofString "Pipα timer"))] where
  named := ⟨List.forall_mem_cons.mpr ⟨⟨"seconds", by decide, rfl⟩,
    List.forall_mem_singleton.mpr ⟨"label", by decide, rfl⟩⟩, List.forall_mem_singleton.mpr List.mem_cons_self⟩
  distinct := by
    show [PyStr.ofString "seconds", PyStr.ofString "label"].Nodup
    decide
  texts := by
    refine List.forall_mem_singleton.mpr ?_
    intro value hvalue
    obtain rfl : Value.str (PyStr.ofString "Pipα timer") = value := Option.some.inj hvalue
    have hlabel : (PyStr.ofString "Pipα timer").strip ≠ [] ∧
        (PyStr.ofString "Pipα timer").any refusedCharacter = false := by decide
    refine ⟨_, rfl, hlabel.1, fun c hc hchar => ?_⟩
    exact absurd hchar (List.any_eq_false.mp hlabel.2 c hc)
  integers := List.forall_mem_singleton.mpr ⟨n, rfl⟩
  choices _ _ h := nomatch h

theorem agrees_leagueWait {ps : List Pattern} : Agrees web u text (.patterns .normalized ps leagueWaitIntent) := by
  intro i hi
  have htool : agentTool? web "league_wait" = some ⟨"league_wait", .safe, .schema leagueWaitArguments⟩ := rfl
  have hfits (n : Int) : IntentFits web text (intent "league_wait" [("seconds", .int n)]) :=
    intentFits_tool htool integer_fits
  obtain ⟨p, -, groups, -, hanswer⟩ := apply_normalized hi
  unfold leagueWaitIntent at hanswer
  split at hanswer
  · rw [← answer_eq hanswer]
    exact hfits 120
  split at hanswer
  · cases hanswer
  split at hanswer
  · rw [← answer_eq hanswer]
    exact hfits _
  · cases hanswer

theorem agrees_audioVolume {ps : List Pattern} : Agrees web u text (.patterns .normalized ps audioVolume) := by
  intro i hi
  have htool : agentTool? web "audio_volume" = some ⟨"audio_volume", .safe, .schema audioVolumeArguments⟩ := rfl
  obtain ⟨p, -, groups, -, hanswer⟩ := apply_normalized hi
  unfold audioVolume at hanswer
  split at hanswer
  · cases hanswer
  · rw [← answer_eq hanswer]
    exact intentFits_tool htool integer_fits

theorem agrees_timerCreate {ps : List Pattern} (unit : Int) :
    Agrees web u text (.patterns .normalized ps (timerCreate unit)) := by
  intro i hi
  have htool : agentTool? web "timer_create" = some ⟨"timer_create", .safe, .schema timerCreateArguments⟩ := rfl
  obtain ⟨p, -, groups, -, hanswer⟩ := apply_normalized hi
  unfold timerCreate at hanswer
  split at hanswer
  · cases hanswer
  · rw [← answer_eq hanswer]
    exact intentFits_tool htool timer_fits

/-! ## All rules -/

theorem agrees_fixedRules (hu : u.Spaced) : ∀ r ∈ fixedRules, Agrees web u text r := by
  have hmedia {action : String} {texts : List String} (h : action ∈ ["play_pause", "next", "previous", "stop"]) :
      Agrees web u text (.phrases texts (intent "media_action" [("action", .str (PyStr.ofString action))])) :=
    agrees_phrases (mediaAction_fits h)
  have hnone {name : String} {texts : List String} {safety : Safety}
      (h : agentTool? web name = some ⟨name, safety, .noArguments⟩) :
      Agrees web u text (.phrases texts (intent name [])) := agrees_phrases (intentFits_none h)
  simp only [fixedRules, List.forall_mem_cons, List.not_mem_nil, false_imp_iff, implies_true, and_true]
  exact ⟨agrees_phrases playPause_fits, hmedia (by decide), hmedia (by decide), hmedia (by decide), hnone rfl,
    hnone rfl, hnone rfl, hnone rfl, hnone rfl, hnone rfl, hnone rfl, hnone rfl, hnone rfl, hnone rfl, hnone rfl,
    hnone rfl, hnone rfl, agrees_stripped (s := openAppArguments) hu rfl rfl (by decide)⟩

theorem agrees_whatsappRules (hu : u.Spaced) : ∀ r ∈ whatsappRules, Agrees web u text r := by
  have hcompose {p : Pattern} (h : fillsGroups p 2 = true) :
      Agrees web u text (.patterns .original [p] (strippedGroups "whatsapp_compose" ["phone", "message"])) :=
    agrees_stripped (s := whatsappComposeArguments web) hu rfl rfl h
  have hcontact {p : Pattern} (h : fillsGroups p 2 = true) :
      Agrees web u text (.patterns .original [p] (strippedGroups "whatsapp_contact" ["contact", "message"])) :=
    agrees_stripped (s := whatsappContactMessageArguments) hu rfl rfl h
  have hopen {p : Pattern} (h : fillsGroups p 1 = true) :
      Agrees web u text (.patterns .original [p] (strippedGroups "whatsapp_contact_open" ["contact"])) :=
    agrees_stripped (s := whatsappContactArguments) hu rfl rfl h
  simp only [whatsappRules, List.forall_mem_cons, List.not_mem_nil, false_imp_iff, implies_true, and_true]
  refine ⟨hcompose ?_, agrees_recipient hu ?_, agrees_recipient hu ?_, agrees_recipient hu ?_,
    agrees_recipient hu ?_, agrees_recipient hu ?_, hcompose ?_, hcompose ?_, hcompose ?_, hcontact ?_,
    hcontact ?_, hcontact ?_, hcontact ?_, hcontact ?_, hopen ?_,
    agrees_stripped (s := whatsappPhoneArguments web) hu rfl rfl ?_, hopen ?_⟩
  all_goals decide

theorem agrees_discordRules (hu : u.Spaced) : ∀ r ∈ discordRules, Agrees web u text r := by
  have hcall {p : Pattern} (h : fillsGroups p 1 = true) :
      Agrees web u text (.patterns .original [p] (strippedGroups "discord_call" ["contact"])) :=
    agrees_stripped (s := discordContactArguments) hu rfl rfl h
  have hcontact {p : Pattern} (h : fillsGroups p 1 = true) :
      Agrees web u text (.patterns .original [p] (strippedGroups "discord_contact" ["contact"])) :=
    agrees_stripped (s := discordContactArguments) hu rfl rfl h
  have hopened {p : Pattern} {name : String} {safety : Safety} {arguments : List (String × Nat)}
      (htool : agentTool? web name = some ⟨name, safety, .schema (discordOpenArguments web)⟩)
      (hs : takesTexts (discordOpenArguments web) (arguments.map Prod.fst) = true)
      (h : ∀ a ∈ arguments, ∃ n, a.2 = n + 1 ∧ p.captures[n]? = some (Pattern.snowflake, true)) :
      Agrees web u text (.patterns .normalized [p] (plainGroups name arguments)) :=
    agrees_snowflakes htool hs h
  simp only [discordRules, List.forall_mem_cons, List.not_mem_nil, false_imp_iff, implies_true, and_true]
  refine ⟨hcall ?_, hcall ?_, hcall ?_, hcall ?_, hopened rfl rfl ?_, hopened rfl rfl ?_, hopened rfl rfl ?_,
    hopened rfl rfl ?_, hcontact ?_, hcontact ?_, hcontact ?_, hopened rfl rfl ?_, hopened rfl rfl ?_,
    hcontact ?_, hopened rfl rfl ?_, hopened rfl rfl ?_⟩
  all_goals first
    | decide
    | exact List.forall_mem_cons.mpr ⟨⟨1, rfl, rfl⟩, List.forall_mem_singleton.mpr ⟨0, rfl, rfl⟩⟩
    | exact List.forall_mem_cons.mpr ⟨⟨0, rfl, rfl⟩, List.forall_mem_singleton.mpr ⟨1, rfl, rfl⟩⟩
    | exact List.forall_mem_singleton.mpr ⟨0, rfl, rfl⟩

theorem agrees_systemRules (hu : u.Spaced) : ∀ r ∈ systemRules, Agrees web u text r := by
  have hsearch {p : Pattern} (h : fillsGroups p 1 = true) :
      Agrees web u text (.patterns .original [p] (strippedGroups "web_search" ["query"])) :=
    agrees_stripped (s := webSearchArguments web) hu rfl rfl h
  simp only [systemRules, List.forall_mem_cons, List.not_mem_nil, false_imp_iff, implies_true, and_true]
  refine ⟨agrees_none rfl, agrees_none rfl, agrees_phrases (intentFits_none rfl),
    agrees_phrases (intentFits_none rfl), agrees_none rfl, agrees_phrases (intentFits_none rfl),
    agrees_plain (s := timerCancelArguments) hu rfl rfl ?_, agrees_plain (s := openUrlArguments web) hu rfl rfl ?_,
    agrees_mediaAction, hsearch ?_, hsearch ?_, hsearch ?_⟩
  all_goals decide

theorem agrees_musicRules (hu : u.Spaced) : ∀ r ∈ musicRules, Agrees web u text r := by
  simp only [musicRules, List.forall_mem_cons, List.not_mem_nil, false_imp_iff, implies_true, and_true]
  refine ⟨agrees_phrases (intentFits_none rfl), agrees_music hu, agrees_music hu, agrees_music hu, agrees_music hu,
    agrees_group ?_, agrees_musicOrSelection hu, agrees_musicOrSelection hu, agrees_group ?_, agrees_music hu⟩
  · intro groups i hgroup h
    split at h
    · cases h
    · rw [← answer_eq h]
      exact musicIntent_fits hu fun c hc => hgroup c (mem_cleanMusicTerm hc)
  · intro groups i hgroup h
    rw [← answer_eq h]
    exact musicIntent_fits hu fun c hc => hgroup c ((PyStr.strip_infix _).sublist.mem hc)

theorem agrees_lastRules (hu : u.Spaced) : ∀ r ∈ lastRules, Agrees web u text r := by
  simp only [lastRules, List.forall_mem_cons, List.not_mem_nil, false_imp_iff, implies_true, and_true]
  exact ⟨agrees_leagueWait, agrees_leagueSearch, agrees_audioVolume, agrees_timerCreate 1, agrees_timerCreate 60,
    agrees_stripped (s := openAppArguments) hu rfl rfl (by decide)⟩

theorem parseTextIntent_fits (hu : u.Spaced) {i : ParsedIntent} (h : parseTextIntent u text = .ok (some i)) :
    IntentFits web text i := by
  unfold parseTextIntent at h
  simp only at h
  split at h
  · cases h
  cases hfound : rules.findSome? (Rule.apply u (collapse text) (foldPhrase u (collapse text))) with
  | none =>
    rw [hfound] at h
    cases h
  | some a =>
    rw [hfound] at h
    obtain rfl : a = .ok (some i) := h
    obtain ⟨r, hr, hi⟩ := List.exists_of_findSome?_eq_some hfound
    simp only [rules, List.mem_append] at hr
    obtain ((((hr | hr) | hr) | hr) | hr) | hr := hr
    · exact agrees_fixedRules hu r hr i hi
    · exact agrees_whatsappRules hu r hr i hi
    · exact agrees_discordRules hu r hr i hi
    · exact agrees_systemRules hu r hr i hi
    · exact agrees_musicRules hu r hr i hi
    · exact agrees_lastRules hu r hr i hi

end Pipa.Tools
