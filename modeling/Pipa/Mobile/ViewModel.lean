import Pipa.Lib.Dict
import Pipa.Lib.Machine
import Pipa.Link.Base64Decoders
import Pipa.Mobile.Capabilities
import Pipa.Mobile.Reader

/- The screen of the phone (`PipaMobileViewModel`): what it holds, what the user may do, and the tasks that
   talk to a client of `PipaMobileTCPClient` meanwhile.

   Everything here runs on the main actor, so between two `await`s nothing comes in between. A task is
   started by the main actor some time after it was made, and resumed some time after what it waits for is
   there; in between the user may do anything, also leave the session and open another one. -/
namespace Pipa.Mobile
open Pipa.Lib
open Pipa.Core (names)
open PipaMobileTextPolicy

/-- The platform, with what the screen uses of its cryptography. -/
structure Phone extends Platform where
  /-- `Data(base64Encoded:)`. -/
  base64Encoded : PyStr → Option Bytes
  /-- `PipaMobileIdentity.publicKeyDigest(forPublicKeyData:)`, of 32 bytes. -/
  publicKeyDigest : Bytes → PyStr
  /-- `PipaMobileRequestBinding.digest(forToolName:arguments:)`. -/
  digest : PyStr → Object → Option PyStr

/-- `PipaMobileIdentity.decodePublicKeyBase64URL`. -/
def Phone.decodePublicKey (p : Phone) (value : PyStr) : Option Bytes :=
  (Link.PipaMobileCodec.decodeBase64URL p.base64Encoded value (some 32))

/-- `UInt16(port)`, where it is not 0. -/
def Phone.parsePort (p : Phone) (port : PyStr) : Option Nat :=
  (p.parseInt port).bind (fun n => if 0 < n ∧ n < 65536 then some n.toNat else none)

/-- `PipaMobileIdentity.isValidIdentifier`. -/
def isValidIdentifier (value : PyStr) : Bool :=
  !value.isEmpty && value.bytes.length ≤ 128 && value.all Core.isIdentifierChar

/-- `PipaMobileRequestBinding.isValidDigest`. -/
def isValidDigest (value : PyStr) : Bool :=
  value.bytes.length == 64 &&
    value.all (fun c => (0x30 ≤ c.val && c.val ≤ 0x39) || (0x61 ≤ c.val && c.val ≤ 0x66))

inductive PipaMobileConnectionState where
  | disconnected | connecting | connected | awaitingConfirmation
  deriving DecidableEq

structure PipaMobileConfirmation where
  confirmationID : PyStr
  toolName : PyStr
  summary : PyStr
  expiresAt : Int
  localPreview : Option PyStr
  localPreviewToolName : Option PyStr
  localRequestDigest : Option PyStr
  serverRequestDigest : Option PyStr

def PipaMobileConfirmation.isExpired (c : PipaMobileConfirmation) (now : Int) : Bool := c.expiresAt ≤ now

/-- What a task or the user may ask of a client. -/
inductive Request where
  | sendText (text : PyStr)
  | callTool (name : PyStr) (arguments : Object)
  | confirm (confirmationID : PyStr) (accepted : Bool)

/-- `PipaMobileViewModel`. Clients and tasks are named by their numbers. -/
structure PipaMobileViewModel where
  host : PyStr
  port : PyStr
  serverID : PyStr
  serverPublicKey : PyStr
  identityID : PyStr
  textCommand : PyStr
  verifiedServerFingerprint : Option PyStr
  verifiedServerID : Option PyStr
  connectionState : PipaMobileConnectionState
  commands : List PipaMobileCommand
  integrationCapabilities : List PipaMobileIntegration
  pendingConfirmation : Option PipaMobileConfirmation
  identityPublicKey : Option PyStr
  identityFingerprint : Option PyStr
  statusMessage : Option PyStr
  errorMessage : Option PyStr
  requestInProgress : Bool
  client : Option Nat
  operationTask : Option Nat
  requestTask : Option Nat
  connectInProgress : Bool
  sessionGeneration : Nat
  pendingLocalPreview : Option PyStr
  pendingLocalPreviewToolName : Option PyStr
  pendingLocalRequestDigest : Option PyStr

namespace PipaMobileViewModel

def deviceConfirmationSummaries : List (PyStr × PyStr) :=
  [("open_app", "Abrir una aplicación configurada."), ("open_codex", "Abrir Codex."),
   ("web_search", "Buscar en Internet."), ("music_search", "Buscar en Apple Music."),
   ("music_open", "Abrir Apple Music."), ("league_open", "Abrir League of Legends."),
   ("discord_open_app", "Abrir Discord."), ("discord_open", "Abrir un canal de Discord."),
   ("discord_call_channel", "Preparar una llamada de Discord; el inicio será manual."),
   ("discord_contact", "Abrir un contacto de Discord."),
   ("discord_call", "Preparar una llamada de Discord; el inicio será manual."),
   ("whatsapp_compose", "Preparar un mensaje de WhatsApp; el envío será manual."),
   ("whatsapp_contact", "Preparar un mensaje de WhatsApp; el envío será manual."),
   ("whatsapp_contact_open", "Abrir un chat de WhatsApp."), ("whatsapp_phone_open", "Abrir un chat de WhatsApp."),
   ("whatsapp_open", "Abrir WhatsApp Web."), ("league_search", "Buscar una partida en League."),
   ("league_cancel", "Cancelar la búsqueda de League."), ("system_lock", "Bloquear el ordenador."),
   ("open_url", "Abrir una URL validada.")].map (fun e => (PyStr.ofString e.1, PyStr.ofString e.2))

/-- `isSafeConfirmationSummary`. -/
def isSafeConfirmationSummary (p : Platform) (toolName summary : PyStr) : Bool :=
  match PipaMobileIntegration.lookup deviceConfirmationSummaries toolName with
  | none => false
  | some expected => same p summary expected

/-- `safeLocalPreview`. -/
def safeLocalPreview (text : PyStr) : Option PyStr := if isSafeMessageText text 4000 then some text else none

variable (p : Phone) (m : PipaMobileViewModel)

def isConnected : Bool := m.connectionState = .connected || m.connectionState = .awaitingConfirmation

/-- `serverFingerprint`. -/
def serverFingerprint : Option PyStr := (p.decodePublicKey m.serverPublicKey).map p.publicKeyDigest

/-- `serverFingerprintVerified`. -/
def serverFingerprintVerified : Bool :=
  match m.serverFingerprint p, m.verifiedServerFingerprint, m.verifiedServerID with
  | some current, some verified, some id => same p.toPlatform verified current && same p.toPlatform id m.serverID
  | _, _, _ => false

def fail (message : String) : PipaMobileViewModel :=
  { m with
    errorMessage := some (PyStr.ofString message)
    statusMessage := none
    connectionState := if m.pendingConfirmation.isNone then .disconnected else m.connectionState }

def status (message : String) : PipaMobileViewModel := { m with statusMessage := some (PyStr.ofString message) }

def clearMessages : PipaMobileViewModel := { m with statusMessage := none, errorMessage := none }

def clearLocalPreview : PipaMobileViewModel :=
  { m with pendingLocalPreview := none, pendingLocalPreviewToolName := none, pendingLocalRequestDigest := none }

def clearCommandDraft : PipaMobileViewModel :=
  { m.clearLocalPreview with textCommand := [], pendingConfirmation := none }

/-- `saveSettings`; whether the store takes them. -/
def saveSettings (saved : Bool) : PipaMobileViewModel :=
  if saved then m else m.status "No se pudo guardar la configuración local."

/-! ### What the user does without a client -/

/-- `markServerFingerprintVerified`. -/
def markServerFingerprintVerified : PipaMobileViewModel :=
  match m.serverFingerprint p with
  | none => m.fail "Introduce una clave pública válida antes de verificar el fingerprint."
  | some current =>
    { m.status "Fingerprint verificado para esta sesión de configuración." with
      verifiedServerFingerprint := some current
      verifiedServerID := some m.serverID
      errorMessage := none }

/-- `invalidateServerFingerprintVerification`. -/
def invalidateServerFingerprintVerification : PipaMobileViewModel :=
  { m with verifiedServerFingerprint := none, verifiedServerID := none }

/-- An identity of this phone: its public key and its fingerprint. -/
abbrev Identity := PyStr × PyStr

/-- `prepareIdentity`, where the store has or makes this identity. -/
def prepareIdentity (identity : Option Identity) (saved : Bool) : PipaMobileViewModel :=
  match identity with
  | some (publicKey, fingerprint) =>
    { m.status "Identidad preparada. Compara el fingerprint antes de emparejar." with
      identityPublicKey := some publicKey
      identityFingerprint := some fingerprint
      errorMessage := none }.saveSettings saved
  | none =>
    { m with identityPublicKey := none, identityFingerprint := none }.fail
      "No se pudo crear o cargar la identidad del iPhone."

/-- `useCommandText`. -/
def useCommandText (text : PyStr) : PipaMobileViewModel :=
  { m.status "Comando preparado; revisa los marcadores antes de enviarlo." with
    textCommand := text
    errorMessage := none }

/-- `updateVoiceDraft`. -/
def updateVoiceDraft (text : PyStr) : PipaMobileViewModel :=
  let value := p.text.trim text
  if value.isEmpty || value.bytes.length > 4000 || containsDisplayControl value then m
  else
    { m.status "Dictado preparado; revisa el comando antes de enviarlo." with
      textCommand := value
      errorMessage := none }

/-! ### What an answer changes -/

/-- A field that is missing or `null`, or else passes the check. -/
def isOptional (check : Value → Bool) : Option Value → Bool
  | none => true
  | some .null => true
  | some v => check v

def isText (maxBytes : Nat) (v : Value) : Bool :=
  match asString v with
  | some text => isSafeDisplayText text maxBytes
  | none => false

/-- A text field of a response. -/
def text? (response : Object) (field : String) (maxBytes : Nat) : Option PyStr := do
  let text ← (response.get? (PyStr.ofString field)).bind asString
  guard (isSafeDisplayText text maxBytes)
  return text

/-- The `request_digest` of a response. -/
def parseDigest : Option Value → Option (Option PyStr)
  | none => some none
  | some .null => some none
  | some rawDigest => do
    let parsedDigest ← asString rawDigest
    guard (isValidDigest parsedDigest)
    return some parsedDigest

/-- `a == b` of two `String?`. -/
def sameOptional : Option PyStr → Option PyStr → Bool
  | none, none => true
  | some a, some b => same p.toPlatform a b
  | _, _ => false

/-- The confirmation that a `confirm_request` asks for. -/
def confirmationOf (response : Object) : Option PipaMobileConfirmation := do
  let confirmationID ← text? response "confirmation_id" 128
  let toolName ← text? response "tool_name" 80
  let summary ← text? response "summary" 512
  let expiresAt ← (response.get? (PyStr.ofString "expires_at")).bind (asInt p.toPlatform)
  guard (0 < expiresAt)
  guard (isSafeConfirmationSummary p.toPlatform toolName summary)
  guard (isOptional (isText 128) (response.get? (PyStr.ofString "call_id")))
  let serverRequestDigest ← parseDigest (response.get? (PyStr.ofString "request_digest"))
  guard (m.pendingLocalRequestDigest.isNone ∨ sameOptional p serverRequestDigest m.pendingLocalRequestDigest)
  return { confirmationID, toolName, summary, expiresAt, localPreview := m.pendingLocalPreview,
           localPreviewToolName := m.pendingLocalPreviewToolName,
           localRequestDigest := m.pendingLocalRequestDigest, serverRequestDigest }

def isToolResult (response : Object) : Bool :=
  (text? response "tool_name" 80).isSome && (text? response "status" 32).isSome &&
    ((response.get? (PyStr.ofString "success")).bind (asBool p.toPlatform)).isSome &&
    isOptional (isText 128) (response.get? (PyStr.ofString "call_id"))

def uiStates : List PyStr := names ["idle", "listening", "thinking", "confirm", "speaking", "focus", "dashboard"]

def isUIState (response : Object) : Bool :=
  (match (response.get? (PyStr.ofString "state")).bind asString with
    | some state => state ∈ uiStates
    | none => false) &&
  isOptional (isText 512) (response.get? (PyStr.ofString "caption")) &&
  isOptional (fun v => (asInt p.toPlatform v).any (fun n => 0 ≤ n)) (response.get? (PyStr.ofString "focus_remaining"))

/-- One turn of the loop of `apply(responses:)`; where it is `none`, the response is not valid. -/
def applyResponse (response : Object) : Option PipaMobileViewModel :=
  match text? response "type" 64 with
  | none => none
  | some type =>
    if type = PyStr.ofString "confirm_request" then
      (m.confirmationOf p response).map fun confirmation =>
        { m.clearLocalPreview with
          pendingConfirmation := some confirmation
          connectionState := .awaitingConfirmation }
    else if type = PyStr.ofString "tool_result" then
      if isToolResult p response then some m.clearLocalPreview else none
    else if type = PyStr.ofString "ui_state" then
      if isUIState p response then
        some { m with
          statusMessage := (response.get? (PyStr.ofString "caption")).bind asString
          connectionState := if m.pendingConfirmation.isNone then .connected else m.connectionState }
      else none
    else if type = PyStr.ofString "error" then
      if (text? response "code" 64).isSome then
        some { m.clearLocalPreview with
          errorMessage := some (PyStr.ofString "El agente rechazó la operación.")
          statusMessage := none
          connectionState := if m.client.isSome then .connected else m.connectionState }
      else none
    else none

/-- `apply(responses:)`: what it leaves, and whether all were valid. -/
def apply (m : PipaMobileViewModel) : List Object → PipaMobileViewModel × Bool
  | [] => (m, true)
  | response :: responses =>
    match m.applyResponse p response with
    | none => (m, false)
    | some m => apply m responses

/-- `closeAfterOperationFailure`; whether a task is made that disconnects the client. -/
def closeAfterOperationFailure (message : String) : PipaMobileViewModel × Bool :=
  if m.client.isNone then (m, false)
  else
    ({ m.clearCommandDraft with
      client := none
      requestInProgress := false
      connectionState := .disconnected
      errorMessage := some (PyStr.ofString message)
      statusMessage := none }, true)

end PipaMobileViewModel

/-! ## The main actor -/

/-- What `PipaMobileTCPClient.send` returns where a `ui_state` is expected. -/
structure Answer where
  first : Object
  followUp : Object
  isUIState : followUp.get? (PyStr.ofString "type") = some (.str (PyStr.ofString "ui_state"))

/-- What is asked of a client. -/
inductive ClientCall where
  | connect (host : PyStr) (port : Nat)
  | requestCatalogDetails
  | request (r : Request)
  | disconnect

/-- What a call comes back with. -/
inductive Outcome where
  | done
  | catalog (commands : List Object) (capabilities : List (PyStr × Object))
  | answer (a : Answer)
  | thrown

/-- Where the task of `connect` waits: to be started, for `connect`, for `requestCatalogDetails`, or for
`disconnect` after it was cancelled or after something failed. -/
inductive ConnectStep where
  | queued | connecting | cataloguing | stopping | failing
  deriving DecidableEq

/-- What a task has to do. -/
inductive Job where
  | connect (client : Nat) (host : PyStr) (port : Nat) (step : ConnectStep)
  | request (client generation : Nat) (failureMessage : String) (request : Request) (sent : Bool)
  | disconnect (client : Option Nat)

structure Task where
  job : Job
  cancelled : Bool

/-- What a client was made with. -/
structure Pinned where
  serverPublicKey : PyStr
  serverID : PyStr
  identity : PipaMobileViewModel.Identity

structure MainActor where
  model : PipaMobileViewModel
  tasks : Dict Nat Task
  created : Nat
  clients : List Pinned

/-- A text field of the screen. -/
inductive Field where
  | host | port | serverID | serverPublicKey | identityID | textCommand

inductive Event where
  | edit (field : Field) (text : PyStr)
  | markServerFingerprintVerified
  | invalidateServerFingerprintVerification
  | prepareIdentity (identity : Option PipaMobileViewModel.Identity) (saved : Bool)
  | useCommandText (text : PyStr)
  | updateVoiceDraft (text : PyStr)
  | forgetConnectionSettings (deleted : Bool)
  | connect (identity : Option PipaMobileViewModel.Identity) (saved : Bool)
  | disconnect
  | sendTextCommand
  | sendStructuredCommand (command : PipaMobileCommand) (values : List (PyStr × PyStr))
  | resolveConfirmation (accepted : Bool) (now : Int)
  | start (task : Nat)
  | resume (task : Nat) (outcome : Outcome)

namespace MainActor
variable (p : Phone) (a : MainActor)

def spawn (job : Job) : MainActor :=
  { a with tasks := a.tasks.set a.created ⟨job, false⟩, created := a.created + 1 }

/-- `task?.cancel()`. -/
def cancel (task : Option Nat) : MainActor :=
  match task with
  | none => a
  | some t =>
    match a.tasks.get? t with
    | none => a
    | some task => { a with tasks := a.tasks.set t { task with cancelled := true } }

def edit (field : Field) (text : PyStr) : MainActor :=
  match field with
  | .host => { a with model.host := text }
  | .port => { a with model.port := text }
  | .serverID => { a with model.serverID := text }
  | .serverPublicKey => { a with model.serverPublicKey := text }
  | .identityID => { a with model.identityID := text }
  | .textCommand => { a with model.textCommand := text }

/-- `disconnect`. -/
def disconnect : MainActor :=
  let a' := (a.cancel a.model.operationTask).cancel a.model.requestTask
  { a' with
    model := { a.model.clearCommandDraft.status "Desconectado." with
      sessionGeneration := a.model.sessionGeneration + 1
      operationTask := none
      requestTask := none
      connectInProgress := false
      requestInProgress := false
      client := none
      commands := []
      integrationCapabilities := []
      connectionState := .disconnected } }.spawn (.disconnect a.model.client)

/-- `forgetConnectionSettings`; whether the store deletes them. -/
def forgetConnectionSettings (deleted : Bool) : MainActor :=
  let a := if a.model.isConnected then a.disconnect else { a with model := a.model.clearCommandDraft }
  if deleted then
    { a with
      model := { a.model.invalidateServerFingerprintVerification.status "Configuración guardada eliminada." with
        host := []
        port := PyStr.ofString "18765"
        serverID := PyStr.ofString "pipa-agent-v2"
        serverPublicKey := []
        identityID := PyStr.ofString "iphone-main"
        errorMessage := none } }
  else { a with model := a.model.fail "No se pudo eliminar la configuración guardada." }

/-- `connect`, where the store has or makes this identity. -/
def connect (identity : Option PipaMobileViewModel.Identity) (saved : Bool) : MainActor :=
  if a.model.client.isSome || a.model.connectInProgress then a
  else if !a.model.serverFingerprintVerified p then
    { a with
      model := a.model.fail "Compara el fingerprint del agente por un canal externo y márcalo como verificado." }
  else
    match p.parsePort a.model.port, p.decodePublicKey a.model.serverPublicKey with
    | some portValue, some _ =>
      if a.model.host.isEmpty || a.model.serverID.isEmpty || a.model.identityID.isEmpty then
        { a with
          model := a.model.fail "Revisa la IP, el puerto, el server_id y la clave pública del agente." }
      else
        let m := ({ a.model with connectionState := .connecting }.clearMessages).saveSettings saved
        match identity with
        | none => { a with model := m.fail "No se pudo preparar la identidad segura del iPhone." }
        | some (publicKey, fingerprint) =>
          let m := { m with identityPublicKey := some publicKey, identityFingerprint := some fingerprint }
          if !isValidIdentifier m.serverID then
            { a with model := m.fail "No se pudo preparar la identidad segura del iPhone." }
          else
            { a with
              clients := a.clients ++ [Pinned.mk m.serverPublicKey m.serverID (publicKey, fingerprint)]
              model := { m with
                client := some a.clients.length
                connectInProgress := true
                operationTask := some a.created } }.spawn (.connect a.clients.length m.host portValue .queued)
    | _, _ =>
      { a with model := a.model.fail "Revisa la IP, el puerto, el server_id y la clave pública del agente." }

/-- `startRequest`. -/
def startRequest (failureMessage : String) (request : Request) : MainActor :=
  match a.model.client with
  | none => a
  | some client =>
    if a.model.requestInProgress || a.model.pendingConfirmation.isSome then a
    else
      { a with
        model := { a.model.clearMessages with
          requestInProgress := true
          requestTask := some a.created } }.spawn
        (.request client a.model.sessionGeneration failureMessage request false)

/-- Nothing is in progress or pending, and there is a client. -/
def isFree : Bool :=
  !a.model.requestInProgress && a.model.pendingConfirmation.isNone && a.model.client.isSome

/-- `sendTextCommand`. -/
def sendTextCommand : MainActor :=
  let text := p.text.trim a.model.textCommand
  if text.isEmpty || !a.isFree then a
  else
    { a with
      model := { a.model with
        textCommand := []
        pendingLocalPreview := PipaMobileViewModel.safeLocalPreview text
        pendingLocalPreviewToolName := none } }.startRequest "No se pudo enviar el comando." (.sendText text)

/-- `sendStructuredCommand`. -/
def sendStructuredCommand (command : PipaMobileCommand) (values : List (PyStr × PyStr)) : MainActor :=
  match command.toolArguments p.toPlatform values with
  | none => { a with model := a.model.fail "Completa los campos con valores válidos." }
  | some arguments =>
    if !a.isFree then a
    else
      match p.digest command.toolName arguments with
      | none =>
        { a with
          model := { a.model with textCommand := [] }.clearLocalPreview.fail
            "No se pudo validar la acción estructurada." }
      | some requestDigest =>
        { a with
          model := { a.model with
            textCommand := []
            pendingLocalPreview := command.rendered p.toPlatform values
            pendingLocalPreviewToolName := some command.toolName
            pendingLocalRequestDigest := some requestDigest } }.startRequest
          "No se pudo enviar la acción estructurada." (.callTool command.toolName arguments)

/-- `resolveConfirmation`. -/
def resolveConfirmation (accepted : Bool) (now : Int) : MainActor :=
  match a.model.pendingConfirmation with
  | none => a
  | some pending =>
    if a.model.requestInProgress || a.model.client.isNone then a
    else if pending.isExpired now then
      let a := a.disconnect
      { a with model := a.model.status "La confirmación ha caducado; vuelve a conectar." }
    else
      { a with model := { a.model with pendingConfirmation := none }.clearLocalPreview }.startRequest
        "No se pudo resolver la confirmación." (.confirm pending.confirmationID accepted)

/-! ### Tasks -/

def setJob (t : Nat) (task : Task) (job : Job) : MainActor := { a with tasks := a.tasks.set t { task with job } }

def finish (t : Nat) : MainActor := { a with tasks := a.tasks.erase t }

/-- The task runs up to its first `await`. -/
def start (t : Nat) : MainActor × List (Nat × ClientCall) :=
  match a.tasks.get? t with
  | some task =>
    match task.job with
    | .connect client host port .queued =>
      (a.setJob t task (.connect client host port .connecting), [(client, .connect host port)])
    | .request client generation failureMessage request false =>
      (a.setJob t task (.request client generation failureMessage request true), [(client, .request request)])
    | .disconnect (some client) => (a.finish t, [(client, .disconnect)])
    | .disconnect none => (a.finish t, [])
    | _ => (a, [])
  | none => (a, [])

/-- The task of `connect` goes on. -/
def resumeConnect (t : Nat) (task : Task) (client : Nat) (host : PyStr) (port : Nat) (step : ConnectStep)
    (outcome : Outcome) : MainActor × List (Nat × ClientCall) :=
  let waitFor (step : ConnectStep) (call : ClientCall) : MainActor × List (Nat × ClientCall) :=
    (a.setJob t task (.connect client host port step), [(client, call)])
  match step, outcome with
  | .connecting, .done =>
    if task.cancelled then waitFor .stopping .disconnect else waitFor .cataloguing .requestCatalogDetails
  | .connecting, .thrown => waitFor .failing .disconnect
  | .cataloguing, .catalog commands capabilities =>
    if task.cancelled then waitFor .stopping .disconnect
    else
      match parseCatalogCommands p.toPlatform commands, parseIntegrationCapabilities p.toPlatform capabilities with
      | some parsedCatalog, some parsedCapabilities =>
        ({ a.finish t with
           model := { a.model.status "Conectado." with
             commands := parsedCatalog
             integrationCapabilities := parsedCapabilities
             connectInProgress := false
             connectionState := .connected } }, [])
      | _, _ => waitFor .failing .disconnect
  | .cataloguing, .thrown => waitFor .failing .disconnect
  | .stopping, .done => ({ a.finish t with model.connectInProgress := false }, [])
  | .failing, .done =>
    if task.cancelled then ({ a.finish t with model.connectInProgress := false }, [])
    else
      ({ a.finish t with
         model := { a.model with
           client := none
           connectInProgress := false
           connectionState := .disconnected }.fail "No se pudo establecer la sesión segura." }, [])
  | _, _ => (a, [])

/-- `closeAfterOperationFailure`. -/
def closeAfterOperationFailure (activeClient : Nat) (message : String) : MainActor :=
  match a.model.closeAfterOperationFailure message with
  | (m, true) => { a with model := m }.spawn (.disconnect (some activeClient))
  | (m, false) => { a with model := m }

/-- The task of a request goes on. -/
def resumeRequest (t : Nat) (task : Task) (client generation : Nat) (failureMessage : String) (outcome : Outcome) :
    MainActor :=
  let ended := a.finish t
  match outcome with
  | .answer answer =>
    if task.cancelled || a.model.sessionGeneration != generation then ended
    else
      match a.model.apply p [answer.first, answer.followUp] with
      | (m, true) => { ended with model := { m with requestInProgress := false, requestTask := none } }
      | (m, false) => { ended with model := m }.closeAfterOperationFailure client "La respuesta del agente no es válida."
  | .thrown =>
    if task.cancelled || a.model.sessionGeneration != generation then ended
    else
      let closed := ended.closeAfterOperationFailure client failureMessage
      { closed with model := { closed.model with requestInProgress := false, requestTask := none } }
  | _ => a

/-- What the task waits for is there, and it goes on to its next `await`. -/
def resume (t : Nat) (outcome : Outcome) : MainActor × List (Nat × ClientCall) :=
  match a.tasks.get? t with
  | some task =>
    match task.job with
    | .connect client host port step => a.resumeConnect p t task client host port step outcome
    | .request client generation failureMessage _ true =>
      (a.resumeRequest p t task client generation failureMessage outcome, [])
    | _ => (a, [])
  | none => (a, [])

def step : Event → MainActor × List (Nat × ClientCall)
  | .edit field text => (a.edit field text, [])
  | .markServerFingerprintVerified => ({ a with model := a.model.markServerFingerprintVerified p }, [])
  | .invalidateServerFingerprintVerification =>
    ({ a with model := a.model.invalidateServerFingerprintVerification }, [])
  | .prepareIdentity identity saved => ({ a with model := a.model.prepareIdentity identity saved }, [])
  | .useCommandText text => ({ a with model := a.model.useCommandText text }, [])
  | .updateVoiceDraft text => ({ a with model := a.model.updateVoiceDraft p text }, [])
  | .forgetConnectionSettings deleted => (a.forgetConnectionSettings deleted, [])
  | .connect identity saved => (a.connect p identity saved, [])
  | .disconnect => (a.disconnect, [])
  | .sendTextCommand => (a.sendTextCommand p, [])
  | .sendStructuredCommand command values => (a.sendStructuredCommand p command values, [])
  | .resolveConfirmation accepted now => (a.resolveConfirmation accepted now, [])
  | .start t => a.start t
  | .resume t outcome => a.resume p t outcome

/-- The settings that `init` may load. -/
structure PipaMobileSettings where
  host : PyStr
  port : PyStr
  serverID : PyStr
  serverPublicKey : PyStr
  identityID : PyStr

def defaultSettings : PipaMobileSettings :=
  ⟨[], PyStr.ofString "18765", PyStr.ofString "pipa-agent-v2", [], PyStr.ofString "iphone-main"⟩

/-- `PipaMobileViewModel.init`. -/
def initial (settings : Option PipaMobileSettings) : MainActor :=
  let s := settings.getD defaultSettings
  { model :=
      { host := s.host, port := s.port, serverID := s.serverID, serverPublicKey := s.serverPublicKey,
        identityID := s.identityID, textCommand := [], verifiedServerFingerprint := none, verifiedServerID := none,
        connectionState := .disconnected, commands := [], integrationCapabilities := [], pendingConfirmation := none,
        identityPublicKey := none, identityFingerprint := none, statusMessage := none, errorMessage := none,
        requestInProgress := false, client := none, operationTask := none, requestTask := none,
        connectInProgress := false, sessionGeneration := 0, pendingLocalPreview := none,
        pendingLocalPreviewToolName := none, pendingLocalRequestDigest := none }
    tasks := .empty
    created := 0
    clients := [] }

end MainActor

/-- The screen, from its start. -/
def screen (p : Phone) (settings : Option MainActor.PipaMobileSettings) :
    Machine MainActor Event (List (Nat × ClientCall)) where
  init := .initial settings
  step := MainActor.step p

end Pipa.Mobile
