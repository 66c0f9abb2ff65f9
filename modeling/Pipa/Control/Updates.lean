import Mathlib.Data.Bool.Count
import Pipa.Control.Config

/- Updates of the control configuration and two of them at once. An update reads the
   whole file, changes one key and writes the whole file back; nothing keeps another
   request from doing the same in between. -/
namespace Pipa.Control
open Pipa.Lib Pipa.Core

/-! ## Updates -/

inductive Update where
  | setCommandPreference (commandId : PyStr) (enabled : Bool) (phrase : Option PyStr)
  | resetCommandPreference (commandId : PyStr)
  | setWhatsappSettings (settings : WhatsappSettings)

/-- What an update makes of the configuration it has loaded. -/
def Update.apply : Update → ControlConfig → ControlConfig
  | .setCommandPreference commandId enabled phrase, config =>
    { config with commands := config.commands.set commandId ⟨enabled, phrase⟩ }
  | .resetCommandPreference commandId, config => { config with commands := config.commands.erase commandId }
  | .setWhatsappSettings settings, config => { config with whatsapp := settings }

/-- `set_command_preference`, `reset_command_preference` and `set_whatsapp_settings`. -/
def Update.perform (u : Update) (file : Option File) (read : ReadFault) (write : WriteFault) :
    Option File × Except ControlError Unit :=
  match loadControlConfig file read with
  | .error e => (file, .error e)
  | .ok config =>
    match saveControlConfig file write (u.apply config) with
    | (file, .error e) => (file, .error e)
    | (file, .ok _) => (file, .ok ())

/-- The places of the configuration an update can write. -/
inductive Key where
  | command (commandId : PyStr)
  | whatsapp
  deriving DecidableEq

def Update.key : Update → Key
  | .setCommandPreference commandId _ _ => .command commandId
  | .resetCommandPreference commandId => .command commandId
  | .setWhatsappSettings _ => .whatsapp

/-- What stands at a key. -/
def ControlConfig.at (c : ControlConfig) : Key → Option CommandPreference ⊕ WhatsappSettings
  | .command commandId => .inl (c.commands.get? commandId)
  | .whatsapp => .inr c.whatsapp

/-- What an update wants to stand there. A phrase is stored without the space around it. -/
def Update.target : Update → Option CommandPreference ⊕ WhatsappSettings
  | .setCommandPreference _ enabled phrase => .inl (some ⟨enabled, phrase.map PyStr.strip⟩)
  | .resetCommandPreference _ => .inl none
  | .setWhatsappSettings settings => .inr settings

/-- The configuration has the change of an update. -/
def ControlConfig.Contains (c : ControlConfig) (u : Update) : Prop := c.at u.key = u.target

instance (c : ControlConfig) (u : Update) : Decidable (c.Contains u) :=
  inferInstanceAs (Decidable (c.at u.key = u.target))

/-! ## What one update changes -/

theorem validateCommandPreference_asValue {id : PyStr} {p p' : CommandPreference}
    (h : validateCommandPreference id p.asValue = .ok p') : p' = ⟨p.enabled, p.phrase.map PyStr.strip⟩ := by
  obtain ⟨enabled, phrase⟩ := p
  cases phrase with
  | none =>
    rw [validateCommandPreference_unnamed] at h
    split at h
    · cases h
    · exact (Except.ok.inj h).symm
  | some phrase =>
    rw [validateCommandPreference_phrase] at h
    split at h
    · cases h
    split at h
    · cases h
    rename_i bounded hbounded
    split at h
    · cases h
    · obtain ⟨rfl, -⟩ := validateBoundedText_ok.mp hbounded
      exact (Except.ok.inj h).symm

/-- Every entry that is validated is stored as it is, but for the space around its phrase. -/
theorem validateItems_get? {entries : List (PyStr × CommandPreference)} (hnodup : (entries.map Prod.fst).Nodup)
    {d d' : Dict PyStr CommandPreference}
    (h : validateItems d (entries.map (fun e => (e.1, e.2.asValue))) = .ok d') (k : PyStr) :
    d'.get? k = ((entries.find? (fun e => e.1 = k)).map
      (fun e => (⟨e.2.enabled, e.2.phrase.map PyStr.strip⟩ : CommandPreference))).or (d.get? k) := by
  induction entries generalizing d with
  | nil =>
    obtain rfl := Except.ok.inj h
    rfl
  | cons e entries ih =>
    simp only [List.map_cons, validateItems] at h
    split at h
    · cases h
    rename_i normalized hnormalized
    obtain ⟨hfirst, hrest⟩ := List.nodup_cons.mp hnodup
    rw [ih hrest h, Dict.get?_set, List.find?_cons]
    by_cases hk : e.1 = k
    · have hnone : entries.find? (fun e => e.1 = k) = none := by
        rw [List.find?_eq_none]
        intro e' he'
        have : e'.1 ≠ k := fun heq => hfirst (List.mem_map.mpr ⟨e', he', heq.trans hk.symm⟩)
        simpa using this
      rw [hnone, validateCommandPreference_asValue hnormalized]
      simp [hk]
    · have hk' : ¬ k = e.1 := fun heq => hk heq.symm
      simp [hk, hk']

theorem validateCommandPreferences_get? {d d' : Dict PyStr CommandPreference}
    (h : validateCommandPreferences (commandsValue d) = .ok d') (k : PyStr) :
    d'.get? k = (d.get? k).map (fun p => ⟨p.enabled, p.phrase.map PyStr.strip⟩) := by
  unfold validateCommandPreferences commandsValue at h
  simp only at h
  split at h
  · cases h
  · rw [validateItems_get? d.nodup h k]
    simp only [Dict.get?, Option.map_map]
    cases d.entries.find? (fun e => e.1 = k) <;> rfl

theorem CommandPreference.Valid.stripped {id : PyStr} {p : CommandPreference} (h : p.Valid id) :
    (⟨p.enabled, p.phrase.map PyStr.strip⟩ : CommandPreference) = p := by
  obtain ⟨enabled, phrase⟩ := p
  cases phrase with
  | none => rfl
  | some phrase => simp only [Option.map_some, (h.phrase phrase rfl).2]

/-- What is saved has the change, and everything else as it was loaded. -/
theorem Update.effect {u : Update} {c c' : ControlConfig} (hvalid : c.Valid)
    (h : validateControlConfig (u.apply c).asValue = .ok c') :
    c'.Contains u ∧ ∀ k, k ≠ u.key → c'.at k = c.at k := by
  rw [ControlConfig.validate_eq] at h
  split at h
  · cases h
  rename_i commands hcommands
  split at h
  · cases h
  rename_i whatsapp hwhatsapp
  obtain rfl := Except.ok.inj h
  rw [WhatsappSettings.validate_eq] at hwhatsapp
  split at hwhatsapp
  case isFalse => cases hwhatsapp
  obtain rfl := Except.ok.inj hwhatsapp
  have hget := validateCommandPreferences_get? hcommands
  have hsame : ∀ k, (c.commands.get? k).map
      (fun p => (⟨p.enabled, p.phrase.map PyStr.strip⟩ : CommandPreference)) = c.commands.get? k := by
    intro k
    cases hk : c.commands.get? k with
    | none => rfl
    | some p => rw [Option.map_some, (hvalid.commands k p hk).stripped]
  cases u with
  | setCommandPreference commandId enabled phrase =>
    refine ⟨?_, ?_⟩
    · simp only [ControlConfig.Contains, ControlConfig.at, Update.key, Update.target, hget, Update.apply,
        Dict.get?_set, if_true, Option.map_some]
    · intro k hk
      cases k with
      | whatsapp => rfl
      | command id =>
        have hne : ¬ id = commandId := fun heq => hk (by rw [heq]; rfl)
        simp only [ControlConfig.at, hget, Update.apply, Dict.get?_set, if_neg hne, hsame]
  | resetCommandPreference commandId =>
    refine ⟨?_, ?_⟩
    · simp only [ControlConfig.Contains, ControlConfig.at, Update.key, Update.target, hget, Update.apply,
        Dict.get?_erase, if_true, Option.map_none]
    · intro k hk
      cases k with
      | whatsapp => rfl
      | command id =>
        have hne : ¬ id = commandId := fun heq => hk (by rw [heq]; rfl)
        simp only [ControlConfig.at, hget, Update.apply, Dict.get?_erase, if_neg hne, hsame]
  | setWhatsappSettings settings =>
    refine ⟨rfl, ?_⟩
    intro k hk
    cases k with
    | whatsapp => exact absurd rfl hk
    | command id => simp only [ControlConfig.at, hget, Update.apply, hsame]

/-! ## Two updates at once -/

/-- How far a request has come. -/
inductive Phase where
  | waiting
  | loaded (config : ControlConfig)
  | saved
  | failed

def Phase.isSaved : Phase → Bool
  | .saved => true
  | _ => false

/-- The file and two requests, which are told apart by a `Bool`. -/
structure Requests where
  file : Option File
  phase : Bool → Phase

/-- Request `b` makes its next step: it loads, and later it saves. -/
def Requests.step (u : Bool → Update) (s : Requests) (b : Bool) : Requests :=
  match s.phase b with
  | .waiting =>
    match loadControlConfig s.file .none with
    | .error _ => { s with phase := Function.update s.phase b .failed }
    | .ok config => { s with phase := Function.update s.phase b (.loaded config) }
  | .loaded config =>
    match saveControlConfig s.file .none ((u b).apply config) with
    | (file, .error _) => ⟨file, Function.update s.phase b .failed⟩
    | (file, .ok _) => ⟨file, Function.update s.phase b .saved⟩
  | _ => s

/-- The two requests from the start on, their steps in the given order. -/
def Requests.run (u : Bool → Update) (file : Option File) (order : List Bool) : Requests :=
  order.foldl (Requests.step u) ⟨file, fun _ => .waiting⟩

/-- Each request makes its two steps. -/
def Interleaving (order : List Bool) : Prop := order.count true = 2 ∧ order.count false = 2

instance (order : List Bool) : Decidable (Interleaving order) := inferInstanceAs (Decidable (_ ∧ _))

/-- One request is through before the other begins. -/
def Serial (order : List Bool) : Prop := ∃ b, order = [b, b, !b, !b]

instance (order : List Bool) : Decidable (Serial order) :=
  inferInstanceAs (Decidable (∃ b, order = [b, b, !b, !b]))

/-- The request that makes the third step. Where both load first, it is the one that saves first. -/
def third (order : List Bool) : Bool := order.getD 2 true

theorem Interleaving.cases {order : List Bool} (h : Interleaving order) :
    (∃ b, order = [b, b, !b, !b]) ∨ (∃ b, order = [b, !b, b, !b]) ∨ (∃ b, order = [b, !b, !b, b]) := by
  obtain ⟨htrue, hfalse⟩ := h
  have hlength : order.length = 4 := by
    have := List.count_true_add_count_false order
    omega
  match order, hlength with
  | [a, b, c, d], _ =>
    revert htrue hfalse
    cases a <;> cases b <;> cases c <;> cases d <;> decide

section
variable {u : Bool → Update} {s : Requests} {b : Bool}

/-- A request loads. -/
theorem Requests.step_load {config : ControlConfig} (hphase : s.phase b = .waiting)
    (hload : loadControlConfig s.file .none = .ok config) :
    s.step u b = { s with phase := Function.update s.phase b (.loaded config) } := by
  simp only [Requests.step, hphase, hload]

/-- A request that does not load fails for good. -/
theorem Requests.step_load_error {e : ControlError} (hphase : s.phase b = .waiting)
    (hload : loadControlConfig s.file .none = .error e) :
    s.step u b = { s with phase := Function.update s.phase b .failed } := by
  simp only [Requests.step, hphase, hload]

/-- A request that is through saved what it had loaded, changed. -/
theorem Requests.step_save {config : ControlConfig} (hphase : s.phase b = .loaded config)
    (hsaved : (s.step u b).phase b = .saved) (hvalid : config.Valid) :
    ∃ file c, s.step u b = ⟨file, Function.update s.phase b .saved⟩ ∧
      loadControlConfig file .none = .ok c ∧ c.Valid ∧ c.Contains (u b) ∧
      ∀ k, k ≠ (u b).key → c.at k = config.at k := by
  obtain ⟨e, hsave, -⟩ | ⟨file, c, hsave, -, hvalidate, -, hholds⟩ :=
    saveControlConfig_cases s.file .none ((u b).apply config)
  · simp only [Requests.step, hphase, hsave, Function.update_self] at hsaved
    cases hsaved
  · have hc := validateControlConfig_ok hvalidate
    obtain ⟨hcontains, hother⟩ := Update.effect hvalid hvalidate
    refine ⟨file, c, ?_, hholds.load hc, hc, hcontains, hother⟩
    simp only [Requests.step, hphase, hsave]

end

section
variable {u : Bool → Update} {file : Option File} {c₀ : ControlConfig}

/-- A step of one request leaves the other where it is. -/
theorem Requests.step_phase_ne (u : Bool → Update) (s : Requests) {i j : Bool} (h : j ≠ i) :
    (s.step u i).phase j = s.phase j := by
  unfold Requests.step
  split
  · split <;> exact Function.update_of_ne h _ _
  · split <;> exact Function.update_of_ne h _ _
  · rfl

/-- A failed request stays failed. -/
theorem Requests.failed_stays (u : Bool → Update) {s : Requests} {i : Bool} (h : s.phase i = .failed)
    (order : List Bool) : (order.foldl (Requests.step u) s).phase i = .failed := by
  induction order generalizing s with
  | nil => exact h
  | cons b order ih =>
    refine ih ?_
    by_cases hb : i = b
    · subst hb
      rw [Requests.step, h]
      exact h
    · rw [Requests.step_phase_ne u s hb, h]

/-- The first request to come has loaded what was there. -/
theorem load_of_saved {b : Bool} {order : List Bool} (hsaved : (Requests.run u file (b :: order)).phase b = .saved) :
    ∃ c, loadControlConfig file .none = .ok c := by
  cases hload : loadControlConfig file .none with
  | ok c => exact ⟨c, rfl⟩
  | error e =>
    have hfailed : (Requests.run u file (b :: order)).phase b = .failed := by
      refine Requests.failed_stays u ?_ order
      rw [Requests.step_load_error rfl hload]
      exact Function.update_self _ _ _
    rw [hfailed] at hsaved
    cases hsaved

/-- One after the other: both changes are there. -/
theorem serial_contains {b : Bool} (hkeys : (u b).key ≠ (u !b).key)
    (hload : loadControlConfig file .none = .ok c₀)
    (hsaved : ∀ i, (Requests.run u file [b, b, !b, !b]).phase i = .saved) :
    ∃ c, loadControlConfig (Requests.run u file [b, b, !b, !b]).file .none = .ok c ∧ c.Contains (u b) ∧
      c.Contains (u !b) := by
  have hne : b ≠ !b := by cases b <;> decide
  have hrun : Requests.run u file [b, b, !b, !b] =
      ((((⟨file, fun _ => .waiting⟩ : Requests).step u b).step u b).step u !b).step u !b := rfl
  have hloaded : (⟨file, fun _ => .waiting⟩ : Requests).step u b =
      ⟨file, Function.update (fun _ => .waiting) b (.loaded c₀)⟩ := Requests.step_load rfl hload
  rw [hrun, hloaded] at hsaved ⊢
  -- the first request is through when the second begins
  have hfirst := hsaved b
  rw [Requests.step_phase_ne u _ hne, Requests.step_phase_ne u _ hne] at hfirst
  obtain ⟨file', c, hstep, hload', hvalid, hcontains, -⟩ :=
    Requests.step_save (by simp) hfirst (loadControlConfig_ok hload)
  have hloaded' : (⟨file', Function.update (Function.update (fun _ => .waiting) b (.loaded c₀)) b .saved⟩ :
      Requests).step u (!b) = ⟨file', Function.update (Function.update (Function.update (fun _ => .waiting) b
        (.loaded c₀)) b .saved) (!b) (.loaded c)⟩ := Requests.step_load (by simp) hload'
  rw [hstep, hloaded'] at hsaved ⊢
  obtain ⟨file'', c', hstep', hload'', -, hcontains', hother⟩ :=
    Requests.step_save (Function.update_self _ _ _) (hsaved !b) hvalid
  rw [hstep']
  exact ⟨c', hload'', (hother _ hkeys).trans hcontains, hcontains'⟩

/-- Both load first: the change of the one that saves first is there only if it was before. -/
theorem overlap_contains {b i : Bool} (hkeys : (u i).key ≠ (u !i).key)
    (hload : loadControlConfig file .none = .ok c₀)
    (hsaved : ∀ j, (Requests.run u file [b, !b, i, !i]).phase j = .saved) :
    ∃ c, loadControlConfig (Requests.run u file [b, !b, i, !i]).file .none = .ok c ∧ c.Contains (u !i) ∧
      (c.Contains (u i) ↔ c₀.Contains (u i)) := by
  have hvalid := loadControlConfig_ok hload
  have hne : i ≠ !i := by cases i <;> decide
  have hrun : Requests.run u file [b, !b, i, !i] =
      ((((⟨file, fun _ => .waiting⟩ : Requests).step u b).step u !b).step u i).step u !i := rfl
  have hboth : ((⟨file, fun _ => .waiting⟩ : Requests).step u b).step u (!b) = ⟨file, fun _ => .loaded c₀⟩ := by
    have hloaded : (⟨file, fun _ => .waiting⟩ : Requests).step u b =
        ⟨file, Function.update (fun _ => .waiting) b (.loaded c₀)⟩ := Requests.step_load rfl hload
    have hloaded' : (⟨file, Function.update (fun _ => .waiting) b (.loaded c₀)⟩ : Requests).step u (!b) =
        ⟨file, Function.update (Function.update (fun _ => .waiting) b (.loaded c₀)) (!b) (.loaded c₀)⟩ :=
      Requests.step_load (by simp) hload
    rw [hloaded, hloaded']
    refine congrArg (Requests.mk file) (funext fun j => ?_)
    by_cases hj : j = !b
    · subst hj
      exact Function.update_self _ _ _
    · have hj' : j = b := by revert hj; cases j <;> cases b <;> decide
      rw [Function.update_of_ne hj, hj', Function.update_self]
  rw [hrun, hboth] at hsaved ⊢
  have hfirst := hsaved i
  rw [Requests.step_phase_ne u _ hne] at hfirst
  obtain ⟨file', c, hstep, -⟩ := Requests.step_save rfl hfirst hvalid
  rw [hstep] at hsaved ⊢
  obtain ⟨file'', c', hstep', hload'', -, hcontains', hother⟩ :=
    Requests.step_save (Function.update_of_ne hne.symm _ _) (hsaved !i) hvalid
  rw [hstep']
  refine ⟨c', hload'', hcontains', ?_⟩
  unfold ControlConfig.Contains
  rw [hother _ hkeys]

end

theorem overlap_iff {u : Bool → Update} {c₀ c : ControlConfig} {order : List Bool} (hserial : ¬ Serial order)
    (hlast : c.Contains (u !(third order)))
    (hfirst : c.Contains (u (third order)) ↔ c₀.Contains (u (third order))) :
    (∀ i, c.Contains (u i)) ↔ Serial order ∨ c₀.Contains (u (third order)) := by
  constructor
  · intro h
    exact Or.inr (hfirst.mp (h _))
  · intro h i
    have hfirst' := hfirst.mpr (h.resolve_left hserial)
    by_cases hi : i = third order
    · exact hi ▸ hfirst'
    · have hi' : i = !(third order) := by
        revert hi
        cases i <;> cases third order <;> decide
      exact hi' ▸ hlast

/-- Two successful updates of different keys, their steps in any order: the configuration in the end
has both changes if and only if one update was through before the other began, or the change of the
one that saved first was there already. -/
theorem both_changes_iff {u : Bool → Update} (hkeys : (u true).key ≠ (u false).key) {file : Option File}
    {order : List Bool} (horder : Interleaving order)
    (hsaved : ∀ i, (Requests.run u file order).phase i = .saved) :
    ∃ c₀ c, loadControlConfig file .none = .ok c₀ ∧
      loadControlConfig (Requests.run u file order).file .none = .ok c ∧
      ((∀ i, c.Contains (u i)) ↔ Serial order ∨ c₀.Contains (u (third order))) := by
  have hne : ∀ b, (u b).key ≠ (u !b).key := by
    intro b
    cases b with
    | true => exact hkeys
    | false => exact hkeys.symm
  -- the second and third of these are overlaps, with the first or the second request saving first
  obtain ⟨b, rfl⟩ | ⟨b, rfl⟩ | ⟨b, rfl⟩ := horder.cases
  · obtain ⟨c₀, hload⟩ := load_of_saved (hsaved b)
    obtain ⟨c, hc, hfirst, hsecond⟩ := serial_contains (hne b) hload hsaved
    refine ⟨c₀, c, hload, hc, iff_of_true ?_ (Or.inl ⟨b, rfl⟩)⟩
    intro i
    by_cases hi : i = b
    · exact hi ▸ hfirst
    · have hi' : i = !b := by revert hi; cases i <;> cases b <;> decide
      exact hi' ▸ hsecond
  · obtain ⟨c₀, hload⟩ := load_of_saved (hsaved b)
    obtain ⟨c, hc, hlast, hfirst⟩ := overlap_contains (hne b) hload hsaved
    exact ⟨c₀, c, hload, hc, overlap_iff (by cases b <;> decide) hlast hfirst⟩
  · obtain ⟨c₀, hload⟩ := load_of_saved (hsaved b)
    have horder' : [b, !b, !b, b] = [b, !b, !b, !(!b)] := by rw [Bool.not_not]
    rw [horder'] at hsaved ⊢
    obtain ⟨c, hc, hlast, hfirst⟩ := overlap_contains (hne !b) hload hsaved
    exact ⟨c₀, c, hload, hc, overlap_iff (by cases b <;> decide) hlast hfirst⟩

/-- One request disables a command while another one changes the WhatsApp settings. -/
def pipaUpdates : Bool → Update
  | true => .setCommandPreference (PyStr.ofString "media_stop") false none
  | false => .setWhatsappSettings ⟨PyStr.ofString "cloud_api", PyStr.ofString "12345", PyStr.ofString "v23.0"⟩

theorem pipaUpdates_saved (order : List Bool) (h : order = [true, true, false, false] ∨ order = [true, false, true, false]) :
    ∀ i, (Requests.run pipaUpdates none order).phase i = .saved := by
  have hsaved : ∀ i, ((Requests.run pipaUpdates none order).phase i).isSaved = true := by
    obtain rfl | rfl := h <;> decide +kernel
  intro i
  cases hphase : (Requests.run pipaUpdates none order).phase i with
  | saved => rfl
  | _ =>
    have hi := hsaved i
    rw [hphase] at hi
    cases hi

theorem both_changes_iff_serial :
    ∃ c, loadControlConfig (Requests.run pipaUpdates none [true, true, false, false]).file .none = .ok c ∧
      ∀ i, c.Contains (pipaUpdates i) := by
  obtain ⟨c₀, c, -, hc, hiff⟩ := both_changes_iff (u := pipaUpdates) (by decide) (by decide)
    (pipaUpdates_saved [true, true, false, false] (Or.inl rfl))
  exact ⟨c, hc, hiff.mpr (Or.inl ⟨true, rfl⟩)⟩

/-- Where both load before either saves, the command stays enabled. -/
theorem disabled_command_lost :
    (∀ i, (Requests.run pipaUpdates none [true, false, true, false]).phase i = .saved) ∧
    (pipaUpdates true).key ≠ (pipaUpdates false).key ∧ Interleaving [true, false, true, false] ∧
    ∃ c, loadControlConfig (Requests.run pipaUpdates none [true, false, true, false]).file .none = .ok c ∧
      ¬ c.Contains (pipaUpdates true) := by
  refine ⟨pipaUpdates_saved _ (Or.inr rfl), by decide, by decide, ?_⟩
  have hlost : (loadControlConfig (Requests.run pipaUpdates none [true, false, true, false]).file .none).toOption.map
      (fun c => decide (c.Contains (pipaUpdates true))) = some false := by decide +kernel
  cases hload : loadControlConfig (Requests.run pipaUpdates none [true, false, true, false]).file .none with
  | error e =>
    rw [hload] at hlost
    cases hlost
  | ok c =>
    rw [hload] at hlost
    exact ⟨c, rfl, of_decide_eq_false (Option.some.inj hlost)⟩

end Pipa.Control
