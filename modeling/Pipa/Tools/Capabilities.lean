import Pipa.Control.Commands
import Pipa.Core.Catalog

/- The public capability matrix of the agent (`integration_catalog.py`): what a screen may be told about the
   integrations, built from what is configured, and held against a safety contract before it leaves. -/
namespace Pipa.Tools.Capabilities
open Pipa.Lib
open Pipa.Core (names)

/-- The arguments of `build_integration_capabilities`. -/
structure Configured where
  appleMusicConfigured : Bool
  appleMusicLauncherResolved : Option Bool := none
  leagueAvailable : Bool
  leagueLauncherResolved : Option Bool := none
  leagueReady : Bool
  codexConfigured : Bool
  codexLauncherResolved : Option Bool := none
  whatsappAppConfigured : Bool := false
  whatsappLauncherResolved : Option Bool := none
  discordAppConfigured : Bool := false
  discordLauncherResolved : Option Bool := none
  whatsappContactsConfigured : Bool := false
  discordContactsConfigured : Bool := false
  whatsappAutomaticSend : Bool := false

def flags (fields : List (String × Bool)) : Object := fields.map (fun e => (PyStr.ofString e.1, .bool e.2))

/-- `launcher_state`. -/
def launcherState (configured : Bool) (resolved : Option Bool) : Bool := configured && resolved.getD configured

/-- `_INTEGRATION_SAFETY_CONTRACT`. -/
def integrationSafetyContract : List (PyStr × List (PyStr × Bool)) :=
  [(PyStr.ofString "web_search", [(PyStr.ofString "requires_confirmation", true)]),
   (PyStr.ofString "apple_music",
    [(PyStr.ofString "playback", false), (PyStr.ofString "media_control", true),
     (PyStr.ofString "requires_manual_selection", true), (PyStr.ofString "requires_confirmation", true)]),
   (PyStr.ofString "whatsapp", [(PyStr.ofString "requires_confirmation", true)]),
   (PyStr.ofString "discord",
    [(PyStr.ofString "start_call", false), (PyStr.ofString "requires_manual_call", true),
     (PyStr.ofString "requires_confirmation", true)]),
   (PyStr.ofString "league",
    [(PyStr.ofString "accept_match", false), (PyStr.ofString "requires_manual_accept", true),
     (PyStr.ofString "requires_confirmation", true)]),
   (PyStr.ofString "codex",
    [(PyStr.ofString "writes_to_chat", false), (PyStr.ofString "requires_confirmation", true)])]

/-- The first thing that `validate_integration_capabilities` finds wrong. -/
inductive ContractError where
  | withoutContract (unknown : List PyStr)
  | missing (integration : PyStr)
  | crosses (integration field : PyStr)
  | delivery

/-- One integration against the contract. -/
def checkFields (integration : PyStr) (values : Object) : List (PyStr × Bool) → Option ContractError
  | [] => none
  | (field, expected) :: rest =>
    match values.get? field with
    | some (.bool b) => if b = expected then checkFields integration values rest else some (.crosses integration field)
    | _ => some (.crosses integration field)

def checkIntegrations (capabilities : Object) : List (PyStr × List (PyStr × Bool)) → Option ContractError
  | [] => none
  | (integration, expected) :: rest =>
    match capabilities.get? integration with
    | some (.dict values) =>
      match checkFields integration values expected with
      | some e => some e
      | none => checkIntegrations capabilities rest
    | _ => some (.missing integration)

/-- How WhatsApp messages leave: by hand or by themselves, and not both. -/
def checkDelivery (capabilities : Object) : Option ContractError :=
  match capabilities.get? (PyStr.ofString "whatsapp") with
  | some (.dict whatsapp) =>
    match Object.get? whatsapp (PyStr.ofString "send_message"),
      Object.get? whatsapp (PyStr.ofString "requires_manual_send") with
    | some (.bool sends), some (.bool manual) => if sends = manual then some .delivery else none
    | _, _ => some .delivery
  | _ => some .delivery

/-- `validate_integration_capabilities`. -/
def validateIntegrationCapabilities (capabilities : Object) : Except ContractError Unit :=
  let unknown := capabilities.keys.filter (fun name => name ∉ integrationSafetyContract.map Prod.fst)
  if !unknown.isEmpty then .error (.withoutContract unknown)
  else
    match checkIntegrations capabilities integrationSafetyContract with
    | some e => .error e
    | none =>
      match checkDelivery capabilities with
      | some e => .error e
      | none => .ok ()

/-- The groups that `build_integration_capabilities` makes, each with its fields. -/
def groups (c : Configured) : List (String × Object) :=
  [("web_search",
     flags [("available", true), ("requires_confirmation", true)] ++
      [(PyStr.ofString "execution", .str (PyStr.ofString "opens_browser"))]),
   ("apple_music", flags
     [("available", true), ("app_configured", c.appleMusicConfigured),
      ("launcher_resolved", launcherState c.appleMusicConfigured c.appleMusicLauncherResolved), ("search", true),
      ("playback", false), ("media_control", true), ("requires_manual_selection", true),
      ("requires_confirmation", true)]),
   ("whatsapp", flags
     [("available", true), ("app_configured", c.whatsappAppConfigured),
      ("launcher_resolved", launcherState c.whatsappAppConfigured c.whatsappLauncherResolved), ("open_web", true),
      ("open_contact", true), ("contact_aliases_configured", c.whatsappContactsConfigured), ("prepare_message", true),
      ("send_message", c.whatsappAutomaticSend), ("requires_manual_send", !c.whatsappAutomaticSend),
      ("requires_confirmation", true)]),
   ("discord", flags
     [("available", true), ("app_configured", c.discordAppConfigured),
      ("launcher_resolved", launcherState c.discordAppConfigured c.discordLauncherResolved), ("open_app", true),
      ("open_channel", true), ("contact_aliases_configured", c.discordContactsConfigured), ("start_call", false),
      ("requires_manual_call", true), ("requires_confirmation", true)]),
   ("league",
     flags
       [("available", c.leagueAvailable), ("client_ready", c.leagueReady),
        ("launcher_resolved", launcherState c.leagueAvailable c.leagueLauncherResolved),
        ("open_client", c.leagueAvailable), ("matchmaking", c.leagueAvailable), ("cancel_matchmaking", c.leagueReady),
        ("accept_match", false), ("requires_manual_accept", true)] ++
      (PyStr.ofString "queues", .list (Control.queueIds.map (fun q => .str (PyStr.ofString q)))) ::
      flags [("requires_confirmation", true)]),
   ("codex", flags
     [("available", c.codexConfigured), ("open_app", c.codexConfigured),
      ("launcher_resolved", launcherState c.codexConfigured c.codexLauncherResolved), ("writes_to_chat", false),
      ("requires_confirmation", true)])]

def matrix (c : Configured) : Object := (groups c).map (fun e => (PyStr.ofString e.1, .dict e.2))

/-- `build_integration_capabilities`. -/
def buildIntegrationCapabilities (c : Configured) : Except ContractError Object :=
  (validateIntegrationCapabilities (matrix c)).map (fun _ => matrix c)

/-- Whatever is configured, the matrix keeps the contract. -/
theorem buildIntegrationCapabilities_ok (c : Configured) : buildIntegrationCapabilities c = .ok (matrix c) := by
  have hfields : checkIntegrations (matrix c) integrationSafetyContract = none := by
    simp [integrationSafetyContract, checkIntegrations, checkFields, matrix, groups, flags, Object.get?]
  have hdelivery : checkDelivery (matrix c) = none := by
    simp [checkDelivery, matrix, groups, flags, Object.get?]
  have hknown : (matrix c).keys.filter (fun name => name ∉ integrationSafetyContract.map Prod.fst) = [] := by
    simp [matrix, groups, integrationSafetyContract, Object.keys]
  rw [buildIntegrationCapabilities, validateIntegrationCapabilities, hknown]
  simp only [hfields, hdelivery]
  rfl

end Pipa.Tools.Capabilities
