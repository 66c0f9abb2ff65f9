import Pipa.Tools.Contacts

/- The local applications (`apps.py`): a program for each identifier, with its aliases.

   The validator tells labels apart by `casefold`, with the same kind of loop as for
   contacts; an alias may be the identifier once more. `find_app` looks for them by
   `lower`, and only among the applications that are enabled. Lower case keeps what
   `casefold` tells apart, and leaves no space at an end: these are the two laws of
   `CaseLaws`.

   A path is one of Windows, where the agent runs. The configuration is what
   `parse_json_object` has made of the file. -/
namespace Pipa.Tools.Apps
open Pipa.Lib
open Pipa.Intents (Unicode)
open Contacts (Tables isForbiddenLabelCharacter)

structure AppsConfigError where
  message : PyStr

structure App where
  aliases : List PyStr
  command : List PyStr
  enabled : Bool

def maxAppIdLength : Nat := 64
def maxApps : Nat := 64
def maxAliasesPerApp : Nat := 32
def maxAliasLength : Nat := 80
def maxCommandArguments : Nat := 32
def maxCommandArgumentLength : Nat := 1024

/-- `_APP_FIELDS`. -/
def appFields : List PyStr := ["aliases", "command", "enabled"]

/-- `_BLOCKED_LAUNCHERS`. -/
def blockedLaunchers : List PyStr :=
  ["cmd", "cmd.exe", "command.com", "powershell", "powershell.exe", "pwsh", "pwsh.exe", "wscript", "wscript.exe",
    "cscript", "cscript.exe", "bash", "bash.exe", "sh", "sh.exe", "python", "python.exe", "python3", "python3.exe",
    "py", "py.exe", "node", "node.exe", "nodejs", "nodejs.exe", "perl", "perl.exe", "ruby", "ruby.exe", "php",
    "php.exe", "java", "java.exe", "javaw", "javaw.exe", "dotnet", "dotnet.exe", "wsl", "wsl.exe", "mshta",
    "mshta.exe", "rundll32", "rundll32.exe", "regsvr32", "regsvr32.exe", "installutil", "installutil.exe", "csi",
    "csi.exe"]

/-- `_BLOCKED_SHELL_SWITCHES`. -/
def blockedShellSwitches : List PyStr := ["/c", "/k", "-command", "-encodedcommand", "-file"]

/-- `_BLOCKED_SCRIPT_SUFFIXES`. -/
def blockedScriptSuffixes : List PyStr :=
  [".bat", ".cmd", ".hta", ".js", ".jse", ".ps1", ".psm1", ".sh", ".vbe", ".vbs", ".wsh", ".wsf"]

/-! ## Paths -/

def separator : CodePoint := CodePoint.ofChar '\\'

/-- From the first separator on. -/
def fromSeparator (path : PyStr) : PyStr := path.dropWhile (· ≠ separator)

/-- What follows the prefix of a device path to a share. -/
def afterDevicePrefix (path : PyStr) : Option PyStr :=
  let isPrefix := (path.take 8).zip "\\\\?\\UNC\\".toList |>.all
    (fun (c, p) => c.val = p.toNat || c.val = p.toLower.toNat)
  if isPrefix && 8 ≤ path.length then some (path.drop 8) else none

/-- `ntpath.splitroot(path)[2]`: a path without its drive, or its server and share, and its root. -/
def splitTail (path : PyStr) : PyStr :=
  match path with
  | [] => []
  | [c] => if c = separator then [] else [c]
  | c :: d :: rest =>
    if c = separator then
      if d = separator then
        let host := (afterDevicePrefix path).getD rest
        (fromSeparator ((fromSeparator host).drop 1)).drop 1
      else d :: rest
    else if d = CodePoint.ofChar ':' then
      if rest.head? = some separator then rest.drop 1 else rest
    else path

/-- `Path(path).name`. -/
def pathName (path : PyStr) : PyStr :=
  let path := path.map (fun c => if c = CodePoint.ofChar '/' then separator else c)
  let parts := ((splitTail path).splitOnP (· = separator)).filter (fun part => part ≠ [] ∧ part ≠ ("." : PyStr))
  parts.getLast?.getD []

/-- `Path(path).suffix`. -/
def pathSuffix (path : PyStr) : PyStr :=
  let name := pathName path
  let extension := name.rtakeWhile (· ≠ CodePoint.ofChar '.')
  -- a point that is neither the first nor the last character
  if extension ≠ [] ∧ extension.length + 1 < name.length then name.drop (name.length - extension.length - 1)
  else []

variable (t : Tables)

/-- `_uses_shell_launcher`. -/
def usesShellLauncher (command : List PyStr) : Bool :=
  let launcherPath := command.headD []
  blockedLaunchers.contains (t.unicode.casefold (pathName launcherPath)) ||
    blockedScriptSuffixes.contains (t.unicode.casefold (pathSuffix launcherPath)) ||
    command.tail.any (fun argument => blockedShellSwitches.contains (t.unicode.casefold argument))

/-! ## One application -/

/-- What is asked of an identifier and of an alias. -/
def isLabel (maximum : Nat) (label : PyStr) : Bool :=
  !label.strip.isEmpty && label = label.strip && label.length ≤ maximum && !label.any (isForbiddenLabelCharacter t)

def isArgument (argument : PyStr) : Bool :=
  !argument.isEmpty && argument.length ≤ maxCommandArgumentLength &&
    !argument.any (fun character => character.val < 0x20 || character.val == 0x7F)

def asString? : Value → Option PyStr
  | .str s => some s
  | _ => none

/-- A list of one to `maximum` strings, all of them good. -/
def checkStrings (maximum : Nat) (good : PyStr → Bool) (value : Option Value) : Option (List PyStr) :=
  match value with
  | some (.list values) =>
    if values.isEmpty || values.length > maximum then none
    else match values.mapM asString? with
      | none => none
      | some strings => if strings.all good then some strings else none
  | _ => none

/-- `app_data.get("enabled", True)`. -/
def checkEnabled : Option Value → Option Bool
  | none => some true
  | some (.bool enabled) => some enabled
  | some _ => none

def checkAppData (appData : Object) : Option App := do
  let aliases ← checkStrings maxAliasesPerApp (isLabel t maxAliasLength) (appData.get? "aliases")
  let command ← checkStrings maxCommandArguments isArgument (appData.get? "command")
  let enabled ← checkEnabled (appData.get? "enabled")
  if usesShellLauncher t command then none else some ⟨aliases, command, enabled⟩

/-- One turn of the loop, as far as it is about the application alone. -/
def checkApp (appId : PyStr) (appData : Value) : Except AppsConfigError App :=
  match appData with
  | .dict appData =>
    if !isLabel t maxAppIdLength appId || (Object.keys appData).any (fun key => !appFields.contains key) then
      .error ⟨"Cada aplicación debe tener un identificador y un objeto."⟩
    else match checkAppData t appData with
      | none => .error ⟨"Configuración inválida para la aplicación '" ++ appId ++ "'."⟩
      | some app => .ok app
  | _ => .error ⟨"Cada aplicación debe tener un identificador y un objeto."⟩

/-! ## All applications -/

/-- The locals of `validate_apps_config`. -/
structure Loaded where
  validated : Dict PyStr App := Dict.empty
  seenLabels : Dict PyStr PyStr := Dict.empty

/-- The locals of the inner loop. -/
structure Seen where
  seenLabels : Dict PyStr PyStr
  seenAliases : List PyStr

def repeated (label : PyStr) : AppsConfigError := ⟨"El nombre o alias '" ++ label ++ "' está repetido."⟩

/-- The inner loop. -/
def addAlias (appId : PyStr) (s : Seen) (label : PyStr) : Except AppsConfigError Seen :=
  let folded := t.unicode.casefold label
  if folded = t.unicode.casefold appId then
    if folded ∈ s.seenAliases then .error (repeated label)
    else .ok { s with seenAliases := folded :: s.seenAliases }
  else if s.seenLabels.contains folded then .error (repeated label)
  else .ok { s with seenLabels := s.seenLabels.set folded appId }

/-- The rest of a turn. -/
def addApp (s : Loaded) (entry : PyStr × Value) : Except AppsConfigError Loaded :=
  match checkApp t entry.1 entry.2 with
  | .error e => .error e
  | .ok app =>
    let appFolded := t.unicode.casefold entry.1
    if s.seenLabels.contains appFolded then .error (repeated entry.1)
    else match app.aliases.foldlM (addAlias t entry.1) ⟨s.seenLabels.set appFolded entry.1, []⟩ with
      | .error e => .error e
      | .ok seen => .ok ⟨s.validated.set entry.1 app, seen.seenLabels⟩

/-- `validate_apps_config`. -/
def validateAppsConfig (apps : Value) : Except AppsConfigError (Dict PyStr App) :=
  match apps with
  | .dict entries =>
    if entries.length > maxApps then
      .error ⟨"La configuración de aplicaciones debe ser un objeto de tamaño limitado."⟩
    else (entries.foldlM (addApp t) {}).map Loaded.validated
  | _ => .error ⟨"La configuración de aplicaciones debe ser un objeto de tamaño limitado."⟩

/-- `load_apps`, once the file was parsed. -/
def loadApps (file : Value) (includeDisabled : Bool) : Except AppsConfigError (Dict PyStr App) :=
  match validateAppsConfig t file with
  | .error e => .error e
  | .ok apps => if includeDisabled then .ok apps else .ok (apps.filter (fun _ app => app.enabled))

/-- Whether `find_app` takes an application for the one with a name. -/
def isNamed (appName : PyStr) (entry : PyStr × App) : Bool :=
  appName = t.unicode.lower entry.1 || (entry.2.aliases.map t.unicode.lower).contains appName

/-- `find_app`. -/
def findApp (file : Value) (appName : PyStr) : Except AppsConfigError (Option (PyStr × App)) :=
  let appName := (t.unicode.lower appName).strip
  match loadApps t file false with
  | .error e => .error e
  | .ok apps => .ok (apps.entries.find? (isNamed t appName))

/-! ## Labels -/

variable {t}

/-- What lower case keeps of a text. -/
structure CaseLaws (u : Unicode) : Prop where
  casefold_lower : ∀ s, u.casefold (u.lower s) = u.casefold s
  strip_lower : ∀ s : PyStr, s.strip = s → (u.lower s).strip = u.lower s

theorem checkStrings_ok {maximum : Nat} {good : PyStr → Bool} {value : Option Value} {strings : List PyStr}
    (h : checkStrings maximum good value = some strings) : ∀ s ∈ strings, good s = true := by
  unfold checkStrings at h
  split at h
  · split at h
    · cases h
    split at h
    · cases h
    split at h
    · rename_i hall
      obtain rfl := Option.some.inj h
      exact List.all_eq_true.mp hall
    · cases h
  · cases h

theorem isLabel_strip {maximum : Nat} {label : PyStr} (h : isLabel t maximum label = true) :
    label.strip = label := by
  simp only [isLabel, Bool.and_eq_true, decide_eq_true_eq] at h
  exact h.1.1.2.symm

/-- An application that was let through: its identifier and its aliases have no space at an end. -/
theorem checkApp_ok {appId : PyStr} {appData : Value} {app : App} (h : checkApp t appId appData = .ok app) :
    ∀ label ∈ appId :: app.aliases, label.strip = label := by
  unfold checkApp at h
  split at h
  · split at h
    · cases h
    rename_i hlabel
    simp only [Bool.or_eq_true, Bool.not_eq_true', not_or, Bool.not_eq_false] at hlabel
    split at h
    · cases h
    rename_i hdata
    obtain rfl := Except.ok.inj h
    obtain ⟨aliases, haliases, hdata⟩ := Option.bind_eq_some_iff.mp hdata
    obtain ⟨command, -, hdata⟩ := Option.bind_eq_some_iff.mp hdata
    obtain ⟨enabled, -, hdata⟩ := Option.bind_eq_some_iff.mp hdata
    split at hdata
    · cases hdata
    obtain rfl := Option.some.inj hdata
    exact List.forall_mem_cons.mpr
      ⟨isLabel_strip hlabel.1, fun label hmem => isLabel_strip (checkStrings_ok haliases label hmem)⟩
  · cases h

/-- What an application answers to. -/
def appLabels (t : Tables) (entry : PyStr × App) : List PyStr :=
  t.unicode.casefold entry.1 :: entry.2.aliases.map t.unicode.casefold

/-- The application that an entry is read as. -/
def parse (t : Tables) (entry : PyStr × Value) : Option (PyStr × App) :=
  (checkApp t entry.1 entry.2).toOption.map (entry.1, ·)

theorem parse_ok {entry : PyStr × Value} {app : App} (h : checkApp t entry.1 entry.2 = .ok app) :
    parse t entry = some (entry.1, app) := by
  rw [parse, h]
  rfl

/-- The labels of an entry; none where it is refused. -/
def entryLabels (t : Tables) (entry : PyStr × Value) : List PyStr := (parse t entry).elim [] (appLabels t)

theorem entryLabels_eq {entry : PyStr × Value} {app : App} (h : checkApp t entry.1 entry.2 = .ok app) :
    entryLabels t entry = appLabels t (entry.1, app) := by
  rw [entryLabels, parse_ok h]
  rfl

/-- The inner loop goes by the labels too: it may meet the identifier once, and keeps that apart. -/
theorem addAlias_reserves (appId : PyStr) :
    Reserves (addAlias t appId)
      (fun s k => if k = t.unicode.casefold appId then k ∈ s.seenAliases else s.seenLabels.contains k = true)
      (fun _ => True) (fun label => [t.unicode.casefold label]) where
  accepts := by
    intro s label _ hnew
    have hfree := hnew _ (List.mem_singleton_self _)
    unfold addAlias
    by_cases hid : t.unicode.casefold label = t.unicode.casefold appId
    · rw [if_pos hid] at hfree
      exact ⟨_, by rw [if_pos hid, if_neg hfree]⟩
    · rw [if_neg hid] at hfree
      exact ⟨_, by rw [if_neg hid, if_neg hfree]⟩
  accepted := by
    intro s label s' h
    refine ⟨trivial, fun k hk => ?_⟩
    obtain rfl := List.mem_singleton.mp hk
    unfold addAlias at h
    by_cases hid : t.unicode.casefold label = t.unicode.casefold appId
    · rw [if_pos hid] at h ⊢
      split at h
      · cases h
      · assumption
    · rw [if_neg hid] at h ⊢
      split at h
      · cases h
      · assumption
  sees := by
    intro s label s' h k
    unfold addAlias at h
    by_cases hid : t.unicode.casefold label = t.unicode.casefold appId
    · rw [if_pos hid] at h
      split at h
      · cases h
      obtain rfl := Except.ok.inj h
      by_cases hk : k = t.unicode.casefold appId
      · rw [if_pos hk, if_pos hk, List.mem_cons, List.mem_singleton, or_comm]
      · have hother : k ≠ t.unicode.casefold label := fun heq => hk (heq.trans hid)
        rw [if_neg hk, if_neg hk, List.mem_singleton, or_iff_left hother]
    · rw [if_neg hid] at h
      split at h
      · cases h
      obtain rfl := Except.ok.inj h
      by_cases hk : k = t.unicode.casefold appId
      · have hother : k ≠ t.unicode.casefold label := fun heq => hid (heq.symm.trans hk)
        rw [if_pos hk, if_pos hk, List.mem_singleton, or_iff_left hother]
      · rw [if_neg hk, if_neg hk, Contacts.contains_set, List.mem_singleton, or_comm]

/-- The inner loop leaves the identifier among the labels. -/
theorem addAlias_keeps {appId : PyStr} {s s' : Seen} {label : PyStr}
    (hseen : s.seenLabels.contains (t.unicode.casefold appId) = true) (h : addAlias t appId s label = .ok s') :
    s'.seenLabels.contains (t.unicode.casefold appId) = true := by
  unfold addAlias at h
  dsimp only at h
  split at h
  · split at h
    · cases h
    obtain rfl := Except.ok.inj h
    exact hseen
  · split at h
    · cases h
    obtain rfl := Except.ok.inj h
    exact Contacts.contains_set.mpr (Or.inr hseen)

/-- What one turn of `validate_apps_config` has done. -/
theorem addApp_ok {s s' : Loaded} {entry : PyStr × Value} (h : addApp t s entry = .ok s') :
    ∃ app, checkApp t entry.1 entry.2 = .ok app ∧ (app.aliases.map t.unicode.casefold).Nodup ∧
      (∀ k ∈ appLabels t (entry.1, app), ¬ s.seenLabels.contains k = true) ∧
      (∀ k, s'.seenLabels.contains k = true ↔
        s.seenLabels.contains k = true ∨ k ∈ appLabels t (entry.1, app)) ∧
      s'.validated = s.validated.set entry.1 app := by
  unfold addApp at h
  split at h
  · cases h
  rename_i app hcheck
  dsimp only at h
  split at h
  · cases h
  rename_i hid
  split at h
  · cases h
  rename_i seen hadd
  obtain rfl := Except.ok.inj h
  have hreserves := addAlias_reserves (t := t) entry.1
  obtain ⟨-, hapart, hnew⟩ := (hreserves.accepts_iff _ _).mp ⟨seen, hadd⟩
  refine ⟨app, hcheck, ?_, ?_, fun k => ?_, rfl⟩
  · refine List.pairwise_map.mpr (hapart.imp ?_)
    intro label label' hdisjoint heq
    exact hdisjoint (List.mem_singleton_self _) (heq ▸ List.mem_singleton_self _)
  · refine List.forall_mem_cons.mpr ⟨hid, fun k hk hcontains => ?_⟩
    obtain ⟨label, hlabel, rfl⟩ := List.mem_map.mp hk
    have hfree := hnew label hlabel _ (List.mem_singleton_self _)
    by_cases hsame : t.unicode.casefold label = t.unicode.casefold entry.1
    · rw [hsame] at hcontains
      exact hid hcontains
    · rw [if_neg hsame] at hfree
      exact hfree (Contacts.contains_set.mpr (Or.inr hcontains))
  · have hsees := hreserves.sees_run hadd k
    by_cases hk : k = t.unicode.casefold entry.1
    · subst hk
      have hkept := foldlM_inv (fun _ _ _ => addAlias_keeps) (Contacts.contains_set.mpr (Or.inl rfl)) hadd
      exact iff_of_true hkept (Or.inr List.mem_cons_self)
    · rw [if_neg hk, if_neg hk, Contacts.contains_set, or_iff_right hk] at hsees
      simp only [hsees, appLabels, List.mem_cons, hk, false_or, List.mem_map, List.not_mem_nil,
        or_false, eq_comm]

/-- The loop of `validate_apps_config` goes by the labels. -/
theorem addApp_reserves : Reserves (addApp t) (fun s k => s.seenLabels.contains k = true)
    (fun entry => ∃ app, checkApp t entry.1 entry.2 = .ok app ∧ (app.aliases.map t.unicode.casefold).Nodup)
    (entryLabels t) where
  accepts := by
    rintro s entry ⟨app, hcheck, hdistinct⟩ hnew
    rw [entryLabels_eq hcheck] at hnew
    obtain ⟨hid, haliases⟩ := List.forall_mem_cons.mp hnew
    have hapart : Apart (fun label => [t.unicode.casefold label]) app.aliases :=
      (List.pairwise_map.mp hdistinct).imp
        fun hne => List.disjoint_singleton.mpr (List.mem_singleton.not.mpr hne.symm)
    obtain ⟨seen, hadd⟩ := ((addAlias_reserves (t := t) entry.1).accepts_iff
      ⟨s.seenLabels.set (t.unicode.casefold entry.1) entry.1, []⟩ app.aliases).mpr
      ⟨fun _ _ => trivial, hapart, by
        intro label hlabel k hk
        obtain rfl := List.mem_singleton.mp hk
        by_cases hsame : t.unicode.casefold label = t.unicode.casefold entry.1
        · rw [if_pos hsame]
          exact List.not_mem_nil
        · rw [if_neg hsame, Contacts.contains_set, or_iff_right hsame]
          exact haliases _ (List.mem_map_of_mem hlabel)⟩
    refine ⟨⟨s.validated.set entry.1 app, seen.seenLabels⟩, ?_⟩
    rw [addApp, hcheck]
    simp only [if_neg hid, hadd]
  accepted := by
    intro s entry s' h
    obtain ⟨app, hcheck, hdistinct, hnew, -, -⟩ := addApp_ok h
    refine ⟨⟨app, hcheck, hdistinct⟩, ?_⟩
    rw [entryLabels_eq hcheck]
    exact hnew
  sees := by
    intro s entry s' h k
    obtain ⟨app, hcheck, -, -, hsees, -⟩ := addApp_ok h
    rw [entryLabels_eq hcheck]
    exact hsees k

/-! ## One program -/

/-- The applications stand in the order of their entries. -/
theorem foldlM_entries {entries : Object} {s : Loaded} (h : entries.foldlM (addApp t) {} = .ok s) :
    s.validated.entries = entries.filterMap (parse t) := by
  refine foldlM_append (fun s : Loaded => s.validated.entries) (parse t)
    (fun s => ∀ id, s.validated.contains id = true → s.seenLabels.contains (t.unicode.casefold id) = true) ?_ ?_ h
  · intro s entry s' hseen hstep
    obtain ⟨app, hcheck, -, hnew, hsees, hvalidated⟩ := addApp_ok hstep
    have hfresh : s.validated.get? entry.1 = none := by
      cases hget : s.validated.get? entry.1 with
      | none => rfl
      | some other => exact absurd (hseen _ (by rw [Dict.contains, hget]; rfl)) (hnew _ List.mem_cons_self)
    refine ⟨fun id hid => ?_, (entry.1, app), parse_ok hcheck, ?_⟩
    · rw [hvalidated, Dict.contains, Dict.get?_set] at hid
      rw [hsees]
      split at hid
      · rename_i heq
        exact Or.inr (heq ▸ List.mem_cons_self)
      · exact Or.inl (hseen id hid)
    · show s'.validated.entries = s.validated.entries ++ [(entry.1, app)]
      rw [hvalidated, Dict.entries_set_new hfresh]
  · exact fun _ hid => absurd hid Bool.false_ne_true

/-- What is accepted: entries that are read as applications, and no label on two of them. -/
theorem validateAppsConfig_ok {entries : Object} {apps : Dict PyStr App}
    (h : validateAppsConfig t (.dict entries) = .ok apps) :
    apps.entries = entries.filterMap (parse t) ∧ Apart (entryLabels t) entries := by
  rw [validateAppsConfig] at h
  split at h
  · cases h
  cases hs : entries.foldlM (addApp t) {} with
  | error e =>
    rw [hs] at h
    cases h
  | ok s =>
    rw [hs] at h
    obtain rfl := Except.ok.inj h
    exact ⟨foldlM_entries hs, ((addApp_reserves.accepts_iff _ _).mp ⟨s, hs⟩).2.1⟩

/-- A name in lower case that an application has, it has in `casefold` too. -/
theorem casefold_of_isNamed (hlaws : CaseLaws t.unicode) {label : PyStr} {entry : PyStr × App}
    (h : isNamed t (t.unicode.lower label) entry = true) : t.unicode.casefold label ∈ appLabels t entry := by
  have hsame {other : PyStr} (heq : t.unicode.lower other = t.unicode.lower label) :
      t.unicode.casefold other = t.unicode.casefold label := by
    rw [← hlaws.casefold_lower other, heq, hlaws.casefold_lower]
  simp only [isNamed, Bool.or_eq_true, decide_eq_true_eq, List.contains_iff_mem, List.mem_map] at h
  obtain hid | ⟨other, hother, heq⟩ := h
  · rw [← hsame hid.symm]
    exact List.mem_cons_self
  · rw [← hsame heq]
    exact List.mem_cons_of_mem _ (List.mem_map_of_mem hother)

/-- An application that is enabled is found under its identifier and its aliases. -/
theorem app_found (hlaws : CaseLaws t.unicode) {entries : Object} {apps : Dict PyStr App}
    (h : validateAppsConfig t (.dict entries) = .ok apps) {entry : PyStr × App} (hentry : entry ∈ apps.entries)
    (henabled : entry.2.enabled = true) {label : PyStr} (hlabel : label ∈ entry.1 :: entry.2.aliases) :
    findApp t (.dict entries) label = .ok (some entry) := by
  obtain ⟨hentries, hapart⟩ := validateAppsConfig_ok h
  have hstrip : (t.unicode.lower label).strip = t.unicode.lower label := by
    rw [hentries] at hentry
    obtain ⟨raw, -, hparse⟩ := List.mem_filterMap.mp hentry
    obtain ⟨app, happ, rfl⟩ := Option.map_eq_some_iff.mp hparse
    cases hcheck : checkApp t raw.1 raw.2 with
    | error e =>
      rw [hcheck] at happ
      cases happ
    | ok other =>
      rw [hcheck] at happ
      obtain rfl := Option.some.inj happ
      exact hlaws.strip_lower label (checkApp_ok hcheck label hlabel)
  have hnamed : isNamed t (t.unicode.lower label) entry = true := by
    simp only [isNamed, Bool.or_eq_true, decide_eq_true_eq, List.contains_iff_mem]
    obtain rfl | halias := List.mem_cons.mp hlabel
    · exact Or.inl rfl
    · exact Or.inr (List.mem_map_of_mem halias)
  have hfound : (apps.filter (fun _ app => app.enabled)).entries.find? (isNamed t (t.unicode.lower label)) =
      some entry := by
    have happs : Apart (appLabels t) apps.entries := by
      rw [hentries]
      exact hapart.filterMap
    refine (happs.sublist List.filter_sublist).find? (List.mem_filter.mpr ⟨hentry, henabled⟩) hnamed ?_
    intro other _ hother
    exact ⟨_, casefold_of_isNamed hlaws hnamed, casefold_of_isNamed hlaws hother⟩
  simp only [findApp, hstrip, loadApps, h, Bool.false_eq_true, if_false, hfound]

/-! ## Latin-1 -/

/-- The case folding of one code point. -/
def casefoldLatin (c : CodePoint) : PyStr :=
  if c.val = 0xDF then [Unicode.point 0x73, Unicode.point 0x73] else if c.val = 0xB5 then [Unicode.point 0x3BC]
  else [Unicode.lowerLatin c]

theorem casefoldLatin_point : ∀ n < 0xDF, ((0x41 ≤ n ∧ n ≤ 0x5A) ∨ (0xC0 ≤ n ∧ n ≤ 0xDE ∧ n ≠ 0xD7)) →
    casefoldLatin (Unicode.point (n + 0x20)) = [Unicode.point (n + 0x20)] := by
  decide +kernel

theorem casefoldLatin_lower (c : CodePoint) : casefoldLatin (Unicode.lowerLatin c) = casefoldLatin c := by
  obtain hsame | ⟨n, hn, hlower, hc, hupper⟩ := Unicode.lowerLatin_cases c
  · rw [hsame]
  · have hsharp : c.val ≠ 0xDF := by omega
    have hmicro : c.val ≠ 0xB5 := by omega
    rw [hlower, casefoldLatin_point n hn hupper, casefoldLatin, if_neg hsharp, if_neg hmicro, hlower]

theorem caseLaws_latin1 : CaseLaws Unicode.latin1 where
  casefold_lower s := by
    show (s.map Unicode.lowerLatin).flatMap casefoldLatin = s.flatMap casefoldLatin
    rw [List.flatMap_map]
    exact List.flatMap_congr fun c _ => casefoldLatin_lower c
  strip_lower s hs := by
    have hspace : CodePoint.isSpace ∘ Unicode.lowerLatin = CodePoint.isSpace := funext Unicode.isSpace_lowerLatin
    show PyStr.strip (s.map Unicode.lowerLatin) = s.map Unicode.lowerLatin
    rw [PyStr.strip, List.dropWhile_map, ← List.map_reverse, List.dropWhile_map, hspace, ← List.map_reverse]
    exact congrArg (List.map Unicode.lowerLatin) hs

/-- Latin-1 texts, where U+0080 to U+009F are controls like those below U+0020. -/
def latinTables : Tables where
  unicode := Unicode.latin1
  category c := if c.val < 0x20 ∨ (0x7F ≤ c.val ∧ c.val < 0xA0) then .cc else .other
  validateExternalUrl := some

def ana : Contacts.Contact := ⟨"Ana", ["Ana", "hermana"], some "34600000001", none, none⟩
def jose : Contacts.Contact := ⟨"José", ["José"], some "34600000002", none, none⟩

def anaEntry : PyStr × Value :=
  ("Ana", .dict [("aliases", .list [.str "Ana", .str "hermana"]), ("whatsapp_phone", .str "+34 600-000-001")])

def joseEntry : PyStr × Value := ("José", .dict [("whatsapp_phone", .str "34600000002")])

def notes : PyStr × App := ("Notas", ⟨["notas", "Bloc"], ["notepad.exe"], true⟩)

def notesEntry : PyStr × Value :=
  ("Notas", .dict [("aliases", .list [.str "notas", .str "Bloc"]), ("command", .list [.str "notepad.exe"])])

def savedContacts : Dict PyStr Contacts.Contact :=
  (Dict.empty.set (PyStr.ofString "ana") ana).set (PyStr.ofString "jose") jose

def savedApps : Dict PyStr App := Dict.empty.set notes.1 notes.2

theorem contacts_saved :
    Contacts.validateContacts latinTables (.dict [anaEntry, joseEntry]) = .ok savedContacts := rfl

theorem apps_saved : validateAppsConfig latinTables (.dict [notesEntry]) = .ok savedApps := rfl

/-! ## One destination -/

/-- A label names one destination. Contacts are found under their labels in any order of the file, and under what
folds to one, as far as that passes as a label itself; applications under their identifiers and aliases. -/
theorem label_names_destination (t : Tables) (hlaws : CaseLaws t.unicode) :
    (∀ (entries entries' : Object) (contacts : Dict PyStr Contacts.Contact), entries.Perm entries' →
      Contacts.validateContacts t (.dict entries) = .ok contacts →
      ∃ contacts', Contacts.validateContacts t (.dict entries') = .ok contacts' ∧
        contacts'.values.Perm contacts.values ∧
        ∀ contact ∈ contacts.values, ∀ label ∈ contact.name :: contact.aliases,
          Contacts.find t (some (.dict entries')) label = .ok contact ∧
          Contacts.Leads t (some (.dict entries')) label contact ∧
          ∀ variant : PyStr, Contacts.fold t variant.strip = Contacts.fold t label →
            Contacts.find t (some (.dict entries')) variant =
              if (Contacts.text t (.str variant) "El contacto" Contacts.maxAliasLength).isOk then .ok contact
              else .error (.value "El contacto no es válido.")) ∧
    ∀ (entries : Object) (apps : Dict PyStr App), validateAppsConfig t (.dict entries) = .ok apps →
      ∀ entry ∈ apps.entries, entry.2.enabled = true → ∀ label ∈ entry.1 :: entry.2.aliases,
        findApp t (.dict entries) label = .ok (some entry) := by
  refine ⟨fun entries entries' contacts hperm h => Contacts.contacts_found hperm h, ?_⟩
  intro entries apps h entry hentry henabled label hlabel
  exact app_found hlaws h hentry henabled hlabel

/-- The file in the other order, a variant of a name, and an alias of an application. -/
theorem label_names_destination_jose :
    Contacts.find latinTables (some (.dict [joseEntry, anaEntry])) "JOSE" = .ok jose ∧
      Contacts.Leads latinTables (some (.dict [joseEntry, anaEntry])) "José" jose ∧
      findApp latinTables (.dict [notesEntry]) "Bloc" = .ok (some notes) := by
  obtain ⟨hcontacts, happs⟩ := label_names_destination latinTables caseLaws_latin1
  obtain ⟨contacts', -, -, hfind⟩ := hcontacts _ _ _ (List.Perm.swap _ _ _) contacts_saved
  obtain ⟨-, hleads, hvariants⟩ := hfind jose (List.mem_cons_of_mem _ List.mem_cons_self) "José" List.mem_cons_self
  refine ⟨?_, hleads, ?_⟩
  · exact (hvariants "JOSE" rfl).trans (if_pos rfl)
  · exact happs _ _ apps_saved notes List.mem_cons_self rfl "Bloc"
      (List.mem_cons_of_mem _ (List.mem_cons_of_mem _ List.mem_cons_self))

/-- An accent too many: the name with 80 of them folds to the name, and is too long for a label. -/
theorem accented_name_refused : ¬ ∀ (entries : Object) (contacts : Dict PyStr Contacts.Contact),
    Contacts.validateContacts latinTables (.dict entries) = .ok contacts → ∀ contact ∈ contacts.values,
      ∀ variant, Contacts.fold latinTables variant = Contacts.fold latinTables contact.name →
        Contacts.find latinTables (some (.dict entries)) variant = .ok contact := by
  intro hall
  have hfound := hall _ _ contacts_saved ana List.mem_cons_self
    ("Ana" ++ List.replicate 80 (Unicode.point 0x301)) rfl
  cases hfound

end Pipa.Tools.Apps
