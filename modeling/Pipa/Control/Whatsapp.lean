import Pipa.Control.Updates

/- `PUT /control/whatsapp` (`main.py`) and the access token it stores. The settings
   go to the configuration file, the token to the Windows Credential Manager, one
   after the other, and the answer reads both back. -/
namespace Pipa.Control
open Pipa.Lib Pipa.Core

/-! ## The access token -/

/-- `os.name == "nt"`, and the value of `PIPA_WHATSAPP_ACCESS_TOKEN` (empty if it is not set). -/
structure Platform where
  nt : Bool
  environment : PyStr

/-- What the route can change: the file, and the text of the stored credential. -/
structure Panel where
  file : Option File
  credential : Option PyStr

/-- Which accesses of one request fail, in the order of the source. A `CredDelete` that fails has an
error code. -/
structure Faults where
  credCheck : Bool
  load : ReadFault
  save : WriteFault
  credWrite : Bool
  credDelete : Option Int
  reload : ReadFault
  credSource : Bool
  reloadActive : ReadFault
  credActive : Bool

/-- `value or None`. -/
def orNone (s : PyStr) : Option PyStr := if s.isEmpty then none else some s

/-- `_environment_access_token`. -/
def environmentAccessToken (p : Platform) : Option PyStr := orNone p.environment.strip

/-- `_credential_manager_access_token`. -/
def credentialManagerAccessToken (p : Platform) (fault : Bool) (credential : Option PyStr) : Option PyStr :=
  if !p.nt || fault then none
  else credential.bind (fun blob => orNone (PyStr.strip (blob.rdropWhile (fun c => c.val == 0))))

/-- `get_whatsapp_access_token`. -/
def getWhatsappAccessToken (p : Platform) (fault : Bool) (credential : Option PyStr) : Option PyStr :=
  (environmentAccessToken p).or (credentialManagerAccessToken p fault credential)

inductive CredentialSource where
  | environment | windowsCredentialManager | none
  deriving DecidableEq

/-- `whatsapp_credential_source`. -/
def whatsappCredentialSource (p : Platform) (fault : Bool) (credential : Option PyStr) : CredentialSource :=
  if (environmentAccessToken p).isSome then .environment
  else if (credentialManagerAccessToken p fault credential).isSome then .windowsCredentialManager
  else .none

/-- `store_whatsapp_access_token`. -/
def storeWhatsappAccessToken (p : Platform) (fault : Bool) (credential : Option PyStr) (accessToken : PyStr) :
    Option PyStr × Except ControlError Unit :=
  match validateBoundedText accessToken 4096 with
  | .error _ => (credential, .error (.config .token))
  | .ok token =>
    if token.strip.length < 20 then (credential, .error (.config .token))
    else if !p.nt then (credential, .error (.config .vault))
    else if fault then (credential, .error (.config .tokenUnsaved))
    else (some token.strip, .ok ())

/-- `ERROR_NOT_FOUND`. -/
def errorNotFound : Int := 1168

/-- `delete_whatsapp_access_token`. -/
def deleteWhatsappAccessToken (p : Platform) (fault : Option Int) (credential : Option PyStr) :
    Option PyStr × Except ControlError Unit :=
  if (environmentAccessToken p).isSome then (credential, .error (.config .tokenFromEnvironment))
  else if !p.nt then (credential, .ok ())
  else match fault with
    | none => (none, .ok ())
    | some code =>
      if code = errorNotFound then (credential, .ok ()) else (credential, .error (.config .tokenUndeleted))

/-! ## The route -/

structure PublicStatus where
  mode : PyStr
  automaticSend : Bool
  active : Bool
  phoneNumberId : PyStr
  apiVersion : PyStr
  credentialConfigured : Bool
  credentialSource : CredentialSource

/-- `whatsapp_automatic_send_active`. -/
def whatsappAutomaticSendActive (p : Platform) (faults : Faults) (panel : Panel) : Except ControlError Bool :=
  match loadControlConfig panel.file faults.reloadActive with
  | .error e => .error e
  | .ok config =>
    .ok (config.whatsapp.mode = PyStr.ofString "cloud_api" && !config.whatsapp.phoneNumberId.isEmpty &&
      (getWhatsappAccessToken p faults.credActive panel.credential).isSome)

/-- `get_whatsapp_public_status`. -/
def getWhatsappPublicStatus (p : Platform) (faults : Faults) (panel : Panel) : Except ControlError PublicStatus :=
  match loadControlConfig panel.file faults.reload with
  | .error e => .error e
  | .ok config =>
    let source := whatsappCredentialSource p faults.credSource panel.credential
    match whatsappAutomaticSendActive p faults panel with
    | .error e => .error e
    | .ok active =>
      .ok ⟨config.whatsapp.mode, config.whatsapp.mode = PyStr.ofString "cloud_api", active,
        config.whatsapp.phoneNumberId, config.whatsapp.apiVersion, source ≠ .none, source⟩

/-- A request that FastAPI has let through. -/
structure WhatsAppControlRequest where
  automaticSend : Bool
  phoneNumberId : PyStr
  apiVersion : PyStr
  accessToken : Option PyStr
  forgetAccessToken : Bool

namespace WhatsAppControlRequest

/-- `request.access_token.strip() if request.access_token else None`. -/
def token (r : WhatsAppControlRequest) : Option PyStr :=
  (r.accessToken.bind orNone).map PyStr.strip

def settings (r : WhatsAppControlRequest) : WhatsappSettings :=
  ⟨PyStr.ofString (if r.automaticSend then "cloud_api" else "manual"), r.phoneNumberId, r.apiVersion⟩

/-- One of the checks before anything is changed fails. -/
def refused (r : WhatsAppControlRequest) (p : Platform) (fault : Bool) (credential : Option PyStr) : Bool :=
  r.automaticSend && (r.forgetAccessToken || r.phoneNumberId.isEmpty ||
    (r.token.isNone && (getWhatsappAccessToken p fault credential).isNone))

end WhatsAppControlRequest

/-- The token of the request, if there is one, is stored. -/
def storeStep (p : Platform) (faults : Faults) (credential : Option PyStr) (r : WhatsAppControlRequest) :
    Option PyStr × Except ControlError Unit :=
  match r.token with
  | none => (credential, .ok ())
  | some token => storeWhatsappAccessToken p faults.credWrite credential token

/-- The stored token is deleted, if the request asks for it. -/
def deleteStep (p : Platform) (faults : Faults) (credential : Option PyStr) (r : WhatsAppControlRequest) :
    Option PyStr × Except ControlError Unit :=
  if r.forgetAccessToken then deleteWhatsappAccessToken p faults.credDelete credential else (credential, .ok ())

/-- `api_control_update_whatsapp`. -/
def apiControlUpdateWhatsapp (p : Platform) (faults : Faults) (panel : Panel) (r : WhatsAppControlRequest) :
    Panel × Except ControlError PublicStatus :=
  if r.refused p faults.credCheck panel.credential then (panel, .error .value)
  else match (Update.setWhatsappSettings r.settings).perform panel.file faults.load faults.save with
    | (file, .error e) => (⟨file, panel.credential⟩, .error e)
    | (file, .ok _) =>
      match storeStep p faults panel.credential r with
      | (credential, .error e) => (⟨file, credential⟩, .error e)
      | (credential, .ok _) =>
        match deleteStep p faults credential r with
        | (credential, .error e) => (⟨file, credential⟩, .error e)
        | (credential, .ok _) => (⟨file, credential⟩, getWhatsappPublicStatus p faults ⟨file, credential⟩)

/-- The status of the answer: an exception the route does not expect is a server error. -/
def ControlError.httpStatus : ControlError → Nat
  | .config _ => 400
  | .value => 400
  | .raised => 500

/-- The WhatsApp settings that are persisted, where the file can be read. -/
def persistedSettings (file : Option File) : Option WhatsappSettings :=
  (loadControlConfig file .none).toOption.map ControlConfig.whatsapp

/-! ## What each step needs -/

section
variable (p : Platform) (faults : Faults) (panel : Panel) (r : WhatsAppControlRequest)

/-- The settings can be written: what was loaded, with them, passes validation and fits. -/
def CanWrite : Prop :=
  faults.save = .none ∧ r.settings.Valid ∧ ∃ config, loadControlConfig panel.file faults.load = .ok config ∧
    ControlConfig.fits { config with whatsapp := r.settings } = true

/-- A token can be stored. -/
def CanStore (token : PyStr) : Prop :=
  (validateBoundedText token 4096).isOk = true ∧ 20 ≤ token.strip.length ∧ p.nt = true ∧ faults.credWrite = false

/-- The stored token can be deleted. -/
def CanDelete : Prop :=
  environmentAccessToken p = none ∧
    (p.nt = true → faults.credDelete = none ∨ faults.credDelete = some errorNotFound)

/-- The file can be read back for the answer. -/
def CanAnswer : Prop :=
  (faults.reload = .none ∨ faults.reload = .vanished) ∧
    (faults.reloadActive = .none ∨ faults.reloadActive = .vanished)

/-- Every step after the settings succeeds. -/
def CanFinish : Prop :=
  (∀ token, r.token = some token → CanStore p faults token) ∧ (r.forgetAccessToken = true → CanDelete p faults) ∧
    CanAnswer faults

/-- The deletion is asked for and takes the credential away. -/
def Deletes : Prop :=
  r.forgetAccessToken = true ∧ CanDelete p faults ∧ p.nt = true ∧ faults.credDelete = none

/-- The steps up to the one that fails leave the stored token as it is: the token cannot be stored; or
it is the stored one, if one is given, and is not deleted; or there is none, and it is deleted. -/
def KeepsToken : Prop :=
  (∃ token, r.token = some token ∧ ¬ CanStore p faults token) ∨
  (¬ Deletes p faults r ∧ ∀ token, r.token = some token → panel.credential = some token.strip) ∨
  (Deletes p faults r ∧ panel.credential = none)

end

/-! ## What each step does -/

section
variable {p : Platform} {faults : Faults} {panel : Panel} {r : WhatsAppControlRequest}

/-- Validation of a loaded configuration with the settings of a request. -/
theorem validate_settings {config : ControlConfig} (hconfig : config.Valid) (settings : WhatsappSettings) :
    (settings.Valid ∧ validateControlConfig (ControlConfig.asValue { config with whatsapp := settings }) =
      .ok { config with whatsapp := settings }) ∨
    (¬ settings.Valid ∧ ∀ c, validateControlConfig (ControlConfig.asValue { config with whatsapp := settings }) ≠
      .ok c) := by
  rw [ControlConfig.validate_eq]
  simp only [validateCommandPreferences_read hconfig.commands hconfig.size]
  by_cases hsettings : settings.Valid
  · rw [hsettings.read]
    exact Or.inl ⟨hsettings, rfl⟩
  · refine Or.inr ⟨hsettings, ?_⟩
    intro c hok
    split at hok
    · cases hok
    · rename_i whatsapp hwhatsapp
      have hvalid := validateWhatsappSettings_ok hwhatsapp
      rw [WhatsappSettings.validate_eq] at hwhatsapp
      split at hwhatsapp
      · obtain rfl := Except.ok.inj hwhatsapp
        exact hsettings hvalid
      · cases hwhatsapp

/-- The settings are written, or the file is left. -/
theorem setSettings_cases (faults : Faults) (panel : Panel) (r : WhatsAppControlRequest) :
    (¬ CanWrite faults panel r ∧ ∃ e,
      (Update.setWhatsappSettings r.settings).perform panel.file faults.load faults.save = (panel.file, .error e)) ∨
    (CanWrite faults panel r ∧ ∃ file,
      (Update.setWhatsappSettings r.settings).perform panel.file faults.load faults.save = (file, .ok ()) ∧
        file.isSome = true ∧ persistedSettings file = some r.settings ∧
        ∃ config, loadControlConfig file .none = .ok config) := by
  unfold Update.perform
  cases hload : loadControlConfig panel.file faults.load with
  | error e =>
    refine Or.inl ⟨?_, e, rfl⟩
    intro hcan
    obtain ⟨-, -, config, hconfig, -⟩ := hcan
    rw [hload] at hconfig
    cases hconfig
  | ok config =>
    simp only [Update.apply]
    have hvalidate := validate_settings (loadControlConfig_ok hload) r.settings
    obtain ⟨e, hsave, hnot⟩ | ⟨file, validated, hsave, hfault, hok, hfits, hholds⟩ :=
      saveControlConfig_cases panel.file faults.save { config with whatsapp := r.settings }
    · simp only [hsave]
      refine Or.inl ⟨?_, e, rfl⟩
      intro hcan
      obtain ⟨hfault, hsettings, config', hconfig', hfits⟩ := hcan
      obtain rfl := Except.ok.inj (hload.symm.trans hconfig')
      obtain ⟨-, hread⟩ | ⟨hnone, -⟩ := hvalidate
      · exact hnot ⟨hfault, _, hread, hfits⟩
      · exact hnone hsettings
    · simp only [hsave]
      obtain ⟨hsettings, hread⟩ | ⟨-, hnone⟩ := hvalidate
      · obtain rfl := Except.ok.inj (hread.symm.trans hok)
        have hreload := hholds.load (validateControlConfig_ok hok)
        obtain ⟨size, -, rfl⟩ := hholds
        refine Or.inr ⟨⟨hfault, hsettings, config, hload, hfits⟩, _, rfl, rfl, ?_, _, hreload⟩
        rw [persistedSettings, hreload]
        rfl
      · exact absurd hok (hnone validated)

theorem storeStep_cases (p : Platform) (faults : Faults) (credential : Option PyStr) (r : WhatsAppControlRequest) :
    (∃ token, r.token = some token ∧ ¬ CanStore p faults token ∧
      ∃ e, storeStep p faults credential r = (credential, .error e)) ∨
    ((∀ token, r.token = some token → CanStore p faults token) ∧
      storeStep p faults credential r = ((r.token.map PyStr.strip).or credential, .ok ())) := by
  unfold storeStep
  cases htoken : r.token with
  | none => exact Or.inr ⟨(fun token h => by cases h), rfl⟩
  | some token =>
    simp only [Option.some.injEq, exists_eq_left', forall_eq', CanStore, storeWhatsappAccessToken, Option.map_some,
      Option.some_or]
    cases hbounded : validateBoundedText token 4096 with
    | error e => exact Or.inl ⟨(fun h => by cases h.1), _, rfl⟩
    | ok bounded =>
      obtain ⟨rfl, -⟩ := validateBoundedText_ok.mp hbounded
      simp only
      split
      · rename_i hshort
        exact Or.inl ⟨(fun h => Nat.not_le.mpr hshort h.2.1), _, rfl⟩
      rename_i hlong
      cases hnt : p.nt with
      | false => exact Or.inl ⟨(fun h => by cases h.2.2.1), _, rfl⟩
      | true =>
        cases hfault : faults.credWrite with
        | true => exact Or.inl ⟨(fun h => by cases h.2.2.2), _, rfl⟩
        | false => exact Or.inr ⟨⟨rfl, Nat.not_lt.mp hlong, rfl, rfl⟩, rfl⟩

theorem deleteStep_cases (p : Platform) (faults : Faults) (credential : Option PyStr) (r : WhatsAppControlRequest) :
    (r.forgetAccessToken = true ∧ ¬ CanDelete p faults ∧
      ∃ e, deleteStep p faults credential r = (credential, .error e)) ∨
    ((r.forgetAccessToken = true → CanDelete p faults) ∧ Deletes p faults r ∧
      deleteStep p faults credential r = (none, .ok ())) ∨
    ((r.forgetAccessToken = true → CanDelete p faults) ∧ ¬ Deletes p faults r ∧
      deleteStep p faults credential r = (credential, .ok ())) := by
  unfold deleteStep Deletes
  cases hforget : r.forgetAccessToken with
  | false =>
    refine Or.inr (Or.inr ⟨(fun h => by cases h), (fun h => by cases h.1), rfl⟩)
  | true =>
    simp only [if_true, deleteWhatsappAccessToken, CanDelete, true_and, forall_const]
    cases henvironment : environmentAccessToken p with
    | some token => exact Or.inl ⟨(fun h => by cases h.1), _, rfl⟩
    | none =>
      cases hnt : p.nt with
      | false => exact Or.inr (Or.inr ⟨⟨rfl, (fun h => by cases h)⟩, (fun h => by cases h.2.1), rfl⟩)
      | true =>
        cases hdelete : faults.credDelete with
        | none => exact Or.inr (Or.inl ⟨⟨rfl, fun _ => Or.inl rfl⟩, ⟨⟨rfl, fun _ => Or.inl rfl⟩, rfl, rfl⟩, rfl⟩)
        | some code =>
          by_cases hcode : code = errorNotFound
          · subst hcode
            exact Or.inr (Or.inr ⟨⟨rfl, fun _ => Or.inr rfl⟩, (fun h => by cases h.2.2), rfl⟩)
          · refine Or.inl ⟨?_, _, if_neg hcode⟩
            intro h
            obtain hnone | hsome := h.2 rfl
            · cases hnone
            · exact hcode (Option.some.inj hsome)

/-- The answer fails when the file cannot be read back. -/
theorem getWhatsappPublicStatus_cases (p : Platform) (faults : Faults) {file : Option File} {config : ControlConfig}
    (hsome : file.isSome = true) (hload : loadControlConfig file .none = .ok config) (credential : Option PyStr) :
    (¬ CanAnswer faults ∧ ∃ e, getWhatsappPublicStatus p faults ⟨file, credential⟩ = .error e) ∨
    (CanAnswer faults ∧ ∃ status, getWhatsappPublicStatus p faults ⟨file, credential⟩ = .ok status) := by
  obtain ⟨f, rfl⟩ := Option.isSome_iff_exists.mp hsome
  have hread : ∀ fault : ReadFault, (∃ e, loadControlConfig (some f) fault = .error e ∧
      ¬ (fault = .none ∨ fault = .vanished)) ∨
      ∃ c, loadControlConfig (some f) fault = .ok c ∧ (fault = .none ∨ fault = .vanished) := by
    intro fault
    cases fault with
    | none => exact Or.inr ⟨config, hload, Or.inl rfl⟩
    | vanished => exact Or.inr ⟨defaultConfig, rfl, Or.inr rfl⟩
    | caught => exact Or.inl ⟨_, rfl, by decide⟩
    | uncaught => exact Or.inl ⟨_, rfl, by decide⟩
  unfold getWhatsappPublicStatus whatsappAutomaticSendActive CanAnswer
  obtain ⟨e, herror, hfault⟩ | ⟨c, hok, hfault⟩ := hread faults.reload
  · simp only [herror]
    exact Or.inl ⟨fun h => hfault h.1, e, rfl⟩
  · simp only [hok]
    obtain ⟨e, herror, hfault'⟩ | ⟨c', hok', hfault'⟩ := hread faults.reloadActive
    · simp only [herror]
      exact Or.inl ⟨fun h => hfault' h.2, e, rfl⟩
    · simp only [hok']
      exact Or.inr ⟨⟨hfault, hfault'⟩, _, rfl⟩

end

/-! ## Atomicity -/

/-- If the route answers with an error, settings and token are what they were. -/
def Atomic (p : Platform) (faults : Faults) (panel : Panel) (r : WhatsAppControlRequest) : Prop :=
  ∀ e, (apiControlUpdateWhatsapp p faults panel r).2 = .error e →
    persistedSettings (apiControlUpdateWhatsapp p faults panel r).1.file = persistedSettings panel.file ∧
      (apiControlUpdateWhatsapp p faults panel r).1.credential = panel.credential

section
variable {p : Platform} {faults : Faults} {panel : Panel} {r : WhatsAppControlRequest}

/-- A request that fails after it wrote its settings. -/
theorem atomic_iff_of_error {file : Option File} {credential : Option PyStr} {e : ControlError}
    (hroute : apiControlUpdateWhatsapp p faults panel r = (⟨file, credential⟩, .error e))
    (hfile : persistedSettings file = some r.settings) :
    Atomic p faults panel r ↔ persistedSettings panel.file = some r.settings ∧ credential = panel.credential := by
  unfold Atomic
  rw [hroute]
  constructor
  · intro h
    obtain ⟨hsettings, hcredential⟩ := h e rfl
    exact ⟨hsettings.symm.trans hfile, hcredential⟩
  · intro h e' _
    exact ⟨hfile.trans h.1.symm, h.2⟩

/-- A request that succeeds, or fails before it changed anything. -/
theorem atomic_of_same {panel' : Panel} {answer : Except ControlError PublicStatus}
    (hroute : apiControlUpdateWhatsapp p faults panel r = (panel', answer))
    (h : (∃ status, answer = .ok status) ∨ panel' = panel) : Atomic p faults panel r := by
  intro e he
  rw [hroute] at he ⊢
  obtain ⟨status, rfl⟩ | rfl := h
  · cases he
  · exact ⟨rfl, rfl⟩

theorem stored_kept_iff {credential : Option PyStr} :
    (r.token.map PyStr.strip).or credential = credential ↔
      ∀ token, r.token = some token → credential = some token.strip := by
  cases r.token with
  | none => simp
  | some token =>
    simp only [Option.map_some, Option.some_or, Option.some.injEq, forall_eq']
    exact eq_comm

/-- Where the settings are written: nothing later fails, or nothing changes until it does. -/
theorem atomic_iff_of_written (hrefused : r.refused p faults.credCheck panel.credential = false)
    {file : Option File} {config : ControlConfig}
    (hset : (Update.setWhatsappSettings r.settings).perform panel.file faults.load faults.save = (file, .ok ()))
    (hsome : file.isSome = true) (hfile : persistedSettings file = some r.settings)
    (hload : loadControlConfig file .none = .ok config) :
    Atomic p faults panel r ↔
      CanFinish p faults r ∨ (persistedSettings panel.file = some r.settings ∧ KeepsToken p faults panel r) := by
  obtain ⟨token, htoken, hcannot, e, hstore⟩ | ⟨hcan, hstore⟩ := storeStep_cases p faults panel.credential r
  · -- the token cannot be stored
    have hroute : apiControlUpdateWhatsapp p faults panel r = (⟨file, panel.credential⟩, .error e) := by
      simp only [apiControlUpdateWhatsapp, hrefused, hset, hstore, Bool.false_eq_true, if_false]
    have hnot : ¬ CanFinish p faults r := fun h => hcannot (h.1 token htoken)
    have hkeeps : KeepsToken p faults panel r := Or.inl ⟨token, htoken, hcannot⟩
    simp only [atomic_iff_of_error hroute hfile, hnot, hkeeps, false_or]
  have hno : ¬ ∃ token, r.token = some token ∧ ¬ CanStore p faults token :=
    fun ⟨token, htoken, hcannot⟩ => hcannot (hcan token htoken)
  obtain ⟨hforget, hcannot, e, hdelete⟩ | ⟨hcanDelete, hdeletes, hdelete⟩ | ⟨hcanDelete, hdeletes, hdelete⟩ :=
    deleteStep_cases p faults ((r.token.map PyStr.strip).or panel.credential) r
  · -- the token cannot be deleted
    have hroute : apiControlUpdateWhatsapp p faults panel r =
        (⟨file, (r.token.map PyStr.strip).or panel.credential⟩, .error e) := by
      simp only [apiControlUpdateWhatsapp, hrefused, hset, hstore, hdelete, Bool.false_eq_true, if_false]
    have hnot : ¬ CanFinish p faults r := fun h => hcannot (h.2.1 hforget)
    have hnone : ¬ Deletes p faults r := fun h => hcannot h.2.1
    simp only [atomic_iff_of_error hroute hfile, stored_kept_iff, KeepsToken, hno, hnot, hnone, not_false_eq_true,
      true_and, false_and, or_false, false_or]
  all_goals
    obtain ⟨hcannot, e, hstatus⟩ | ⟨hanswer, status, hstatus⟩ := getWhatsappPublicStatus_cases p faults hsome hload
      (deleteStep p faults ((r.token.map PyStr.strip).or panel.credential) r).1
  · -- the token is deleted and the answer fails
    have hroute : apiControlUpdateWhatsapp p faults panel r = (⟨file, none⟩, .error e) := by
      rw [hdelete] at hstatus
      simp only [apiControlUpdateWhatsapp, hrefused, hset, hstore, hdelete, hstatus, Bool.false_eq_true, if_false]
    have hnot : ¬ CanFinish p faults r := fun h => hcannot h.2.2
    simp only [atomic_iff_of_error hroute hfile, KeepsToken, hno, hnot, hdeletes, not_true, true_and, false_and,
      false_or, eq_comm (a := none)]
  · have hroute : apiControlUpdateWhatsapp p faults panel r = (⟨file, none⟩, .ok status) := by
      rw [hdelete] at hstatus
      simp only [apiControlUpdateWhatsapp, hrefused, hset, hstore, hdelete, hstatus, Bool.false_eq_true, if_false]
    exact iff_of_true (atomic_of_same hroute (Or.inl ⟨status, rfl⟩)) (Or.inl ⟨hcan, hcanDelete, hanswer⟩)
  · -- the token stays and the answer fails
    have hroute : apiControlUpdateWhatsapp p faults panel r =
        (⟨file, (r.token.map PyStr.strip).or panel.credential⟩, .error e) := by
      rw [hdelete] at hstatus
      simp only [apiControlUpdateWhatsapp, hrefused, hset, hstore, hdelete, hstatus, Bool.false_eq_true, if_false]
    have hnot : ¬ CanFinish p faults r := fun h => hcannot h.2.2
    simp only [atomic_iff_of_error hroute hfile, stored_kept_iff, KeepsToken, hno, hnot, hdeletes, not_false_eq_true,
      true_and, false_and, or_false, false_or]
  · have hroute : apiControlUpdateWhatsapp p faults panel r =
        (⟨file, (r.token.map PyStr.strip).or panel.credential⟩, .ok status) := by
      rw [hdelete] at hstatus
      simp only [apiControlUpdateWhatsapp, hrefused, hset, hstore, hdelete, hstatus, Bool.false_eq_true, if_false]
    exact iff_of_true (atomic_of_same hroute (Or.inl ⟨status, rfl⟩)) (Or.inl ⟨hcan, hcanDelete, hanswer⟩)

end

/-- The update is atomic if and only if the request is refused, or its settings cannot be written, or
no later step fails, or what it changes until one does is nothing. -/
theorem whatsapp_update_atomic_iff (p : Platform) (faults : Faults) (panel : Panel) (r : WhatsAppControlRequest) :
    Atomic p faults panel r ↔
      r.refused p faults.credCheck panel.credential = true ∨ ¬ CanWrite faults panel r ∨ CanFinish p faults r ∨
        (persistedSettings panel.file = some r.settings ∧ KeepsToken p faults panel r) := by
  cases hrefused : r.refused p faults.credCheck panel.credential with
  | true =>
    have hroute : apiControlUpdateWhatsapp p faults panel r = (panel, .error .value) := by
      rw [apiControlUpdateWhatsapp, hrefused]
      rfl
    exact iff_of_true (atomic_of_same hroute (Or.inr rfl)) (Or.inl rfl)
  | false =>
    obtain ⟨hcannot, e, hset⟩ | ⟨hwrite, file, hset, hsome, hfile, config, hload⟩ := setSettings_cases faults panel r
    · have hroute : apiControlUpdateWhatsapp p faults panel r = (panel, .error e) := by
        simp only [apiControlUpdateWhatsapp, hrefused, hset, Bool.false_eq_true, if_false]
      exact iff_of_true (atomic_of_same hroute (Or.inr rfl)) (Or.inr (Or.inl hcannot))
    · rw [atomic_iff_of_written hrefused hset hsome hfile hload]
      simp only [Bool.false_eq_true, false_or, hwrite, not_true]

/-- A PC with a token in its credential store and nothing configured. -/
def pipaPanel : Panel := ⟨none, some (PyStr.ofString "EAAG0123456789abcdefghij")⟩

def noFaults : Faults := ⟨false, .none, .none, false, none, .none, false, .none, false⟩

/-- Automatic sending is switched on with a new token, which is too short. -/
def pipaShortToken : WhatsAppControlRequest :=
  ⟨true, PyStr.ofString "12345", PyStr.ofString "v23.0", some (PyStr.ofString "short"), false⟩

/-- The request is answered with an error, but automatic sending is on, with the old token. -/
theorem short_token_half_applied :
    (apiControlUpdateWhatsapp ⟨true, []⟩ noFaults pipaPanel pipaShortToken).2.toOption.isNone = true ∧
    persistedSettings pipaPanel.file = some defaultConfig.whatsapp ∧
    persistedSettings (apiControlUpdateWhatsapp ⟨true, []⟩ noFaults pipaPanel pipaShortToken).1.file =
      some ⟨PyStr.ofString "cloud_api", PyStr.ofString "12345", PyStr.ofString "v23.0"⟩ ∧
    ¬ Atomic ⟨true, []⟩ noFaults pipaPanel pipaShortToken := by
  have herror : (apiControlUpdateWhatsapp ⟨true, []⟩ noFaults pipaPanel pipaShortToken).2.toOption.isNone = true := by
    decide +kernel
  have hbefore : persistedSettings pipaPanel.file = some defaultConfig.whatsapp := by decide
  have hafter : persistedSettings (apiControlUpdateWhatsapp ⟨true, []⟩ noFaults pipaPanel pipaShortToken).1.file =
      some ⟨PyStr.ofString "cloud_api", PyStr.ofString "12345", PyStr.ofString "v23.0"⟩ := by decide +kernel
  refine ⟨herror, hbefore, hafter, ?_⟩
  intro hatomic
  cases hanswer : (apiControlUpdateWhatsapp ⟨true, []⟩ noFaults pipaPanel pipaShortToken).2 with
  | ok status =>
    rw [hanswer] at herror
    cases herror
  | error e =>
    have hsame := (hatomic e hanswer).1
    rw [hbefore, hafter] at hsame
    exact absurd hsame (by decide)

end Pipa.Control
