import NewsCraft.Lib.Transition
import NewsCraft.Lib.WriteBack
import NewsCraft.Publishing.Destinations

/-!
# Checking destinations and proxies

A check loads the destination, commits, and reads what the destination is reached with one
row at a time. It asks Telegram, commits again, and writes what it found. The session does
not load the row again: whether the configuration changed is decided on the copy it has, and
the columns in which the copy changed are written back.

An event is one request, or one read or write of a check.
-/

namespace NewsCraft.Publishing.Telegram

open Lib

/-! ## Checks on their way -/

structure DestinationSnapshot where
  targetRef : String
  secretRef : String
  secretId : Option UUID
  proxyProfileId : Option UUID
  deriving DecidableEq

def Destination.snapshot (destination : Destination) : DestinationSnapshot where
  targetRef := destination.targetRef
  secretRef := destination.secretRef
  secretId := destination.secretId
  proxyProfileId := destination.proxyProfileId

inductive CheckPhase where
  | opened
  /-- The proxy was reached, or there is none. -/
  | proxied (profile : Option TelegramProxyProfile)
  | authorized (profile : Option TelegramProxyProfile) (token : String)
  /-- The username of the proxy was read, and its password was not. -/
  | named (profile : TelegramProxyProfile) (token username : String)
  | routed (used : Configuration)
  /-- The check failed, or it succeeded with what it used. -/
  | answered (result : Except TelegramError Configuration)

structure DestinationCheck where
  id : UUID
  destination : Destination
  snapshot : DestinationSnapshot
  stages : Stages
  phase : CheckPhase

structure ProxySnapshot where
  proxyType : ProxyType
  host : String
  port : Nat
  deriving DecidableEq

def TelegramProxyProfile.snapshot (profile : TelegramProxyProfile) : ProxySnapshot where
  proxyType := profile.proxyType
  host := profile.host
  port := profile.port

structure ProxyCheck where
  id : UUID
  profile : TelegramProxyProfile
  snapshot : ProxySnapshot
  result : Option (Except TelegramError Unit)

instance : Keyed DestinationCheck UUID := ⟨DestinationCheck.id⟩
instance : Keyed ProxyCheck UUID := ⟨ProxyCheck.id⟩

structure Checked where
  destinationId : UUID
  used : Configuration
  deriving DecidableEq

/-- The tables, the checks on their way, and those that succeeded. -/
structure TelegramWorld where
  db : TelegramDb
  checks : Table DestinationCheck
  proxyChecks : Table ProxyCheck
  checked : List Checked

/-- The stages of a check that failed where it was. -/
def Stages.failed (stages : Stages) : Stages :=
  if stages.proxyHealthStatus = .checking then
    ⟨.unhealthy, .unchecked, .unchecked, .unchecked, .unchecked⟩
  else if stages.telegramHealthStatus = .checking then
    ⟨stages.proxyHealthStatus, .unhealthy, .unchecked, .unchecked, .unchecked⟩
  else if stages.botHealthStatus = .checking then
    ⟨stages.proxyHealthStatus, stages.telegramHealthStatus, .unhealthy, .unchecked, .unchecked⟩
  else if stages.targetHealthStatus = .checking then
    { stages with
      targetHealthStatus := .unhealthy
      administratorStatus := .unchecked }
  else if stages.administratorStatus = .checking then
    { stages with administratorStatus := .notAdministrator }
  else
    stages

namespace DestinationCheck

variable (check : DestinationCheck)

def enter (phase : CheckPhase) : DestinationCheck := { check with phase }

def fail (error : TelegramError) : DestinationCheck :=
  { check with
    stages := check.stages.failed
    phase := .answered (.error error) }

/-- The step fails where the outside world does. -/
def orFail (problem : Option TelegramError) (next : DestinationCheck) : DestinationCheck :=
  match problem with
  | some error => check.fail error
  | none => next

end DestinationCheck

/-- What Telegram answers to `get_me`, `get_chat` and `get_chat_member`. -/
inductive BotAnswer where
  | meFailed (error : TelegramError)
  | chatFailed (error : TelegramError)
  | memberFailed (error : TelegramError)
  | notAdministrator
  | administrator

/-- The stages as the answers come in, and how the check ends. -/
def BotAnswer.stages (answer : BotAnswer) (stages : Stages) : Stages :=
  let reached :=
    { stages with
      telegramHealthStatus := .healthy
      botHealthStatus := .healthy }
  let found := { reached with targetHealthStatus := .healthy }
  match answer with
  | .meFailed _ => stages.failed
  | .chatFailed _ => reached.failed
  | .memberFailed _ => found.failed
  | .notAdministrator => Stages.failed { found with administratorStatus := .notAdministrator }
  | .administrator => { found with administratorStatus := .administrator }

def BotAnswer.result (answer : BotAnswer) (used : Configuration) :
    Except TelegramError Configuration :=
  match answer with
  | .meFailed error => .error error
  | .chatFailed error => .error error
  | .memberFailed error => .error error
  | .notAdministrator => .error "telegram_bot_not_administrator"
  | .administrator => .ok used

/-- One read or write of a check; a problem is one of the outside world. -/
inductive CheckStep where
  | load (destinationId : UUID)
  | readProxy (problem : Option TelegramError)
  | readToken (problem : Option TelegramError)
  | readRoute (problem : Option TelegramError)
  | readPassword (problem : Option TelegramError)
  | ask (answer : BotAnswer)
  | finish
  /-- The worker dies. -/
  | crash

inductive ProxyCheckStep where
  | load (proxyId : UUID)
  | reach (problem : Option TelegramError)
  | finish
  | crash

/-! ## Reading -/

namespace TelegramDb

variable (db : TelegramDb)

/-- What `destination_check` starts with. -/
def openCheck (id : UUID) (destination : Destination) : DestinationCheck where
  id
  destination
  snapshot := destination.snapshot
  stages := destination.checkingStages
  phase := .opened

/-- The proxy is read, and must be enabled and reached. -/
def readProxy (check : DestinationCheck) (problem : Option TelegramError) : DestinationCheck :=
  match check.destination.proxyProfileId with
  | none => check.enter (.proxied none)
  | some profileId =>
    match db.proxies.lookup profileId with
    | none => check.fail "telegram_proxy_not_ready"
    | some profile =>
      if profile.enabled = false then
        check.fail "telegram_proxy_not_ready"
      else
        check.orFail problem { check with
            stages := { check.stages with proxyHealthStatus := .healthy }
            phase := .proxied (some profile) }

/-- `destination_token`. -/
def readToken (check : DestinationCheck) (profile : Option TelegramProxyProfile)
    (problem : Option TelegramError) : DestinationCheck :=
  match db.secretValue check.destination.secretId with
  | none => check.fail "telegram_credential_missing"
  | some token => check.orFail problem (check.enter (.authorized profile token))

/-- What a check with this proxy and these credentials uses. -/
def usedConfiguration (check : DestinationCheck) (token : String)
    (profile : Option TelegramProxyProfile) (credentials : Option (String × String)) :
    Configuration where
  target := check.destination.targetRef
  token := some token
  route := profile.map fun profile => ⟨profile.proxyType, profile.host, profile.port, credentials⟩

/-- `client_for_destination`, up to the username of its proxy. -/
def readRoute (check : DestinationCheck) (profile : Option TelegramProxyProfile) (token : String)
    (problem : Option TelegramError) : DestinationCheck :=
  match profile with
  | none => check.enter (.routed (usedConfiguration check token none none))
  | some profile =>
    match profile.usernameSecretId, profile.passwordSecretId with
    | none, none =>
      check.orFail problem
        (check.enter (.routed (usedConfiguration check token (some profile) none)))
    | some usernameId, some _ =>
      match db.secretValue (some usernameId) with
      | none => check.fail "telegram_credential_missing"
      | some username => check.orFail problem (check.enter (.named profile token username))
    | _, _ => check.fail "telegram_proxy_credentials_incomplete"

def readPassword (check : DestinationCheck) (profile : TelegramProxyProfile)
    (token username : String) (problem : Option TelegramError) : DestinationCheck :=
  match db.secretValue profile.passwordSecretId with
  | none => check.fail "telegram_credential_missing"
  | some password =>
    check.orFail problem
      (check.enter (.routed (usedConfiguration check token (some profile) (username, password))))

def ask (check : DestinationCheck) (used : Configuration) (answer : BotAnswer) :
    DestinationCheck :=
  { check with
    stages := answer.stages check.stages
    phase := .answered (answer.result used) }

/-! ## Writing -/

end TelegramDb

/-- The row after a session wrote back what it changed in its copy. -/
def Destination.flush (loaded changed row : Destination) : Destination :=
  { row with
    targetRef := written loaded.targetRef changed.targetRef row.targetRef
    canonicalTarget := written loaded.canonicalTarget changed.canonicalTarget row.canonicalTarget
    secretRef := written loaded.secretRef changed.secretRef row.secretRef
    secretId := written loaded.secretId changed.secretId row.secretId
    proxyProfileId := written loaded.proxyProfileId changed.proxyProfileId row.proxyProfileId
    enabled := written loaded.enabled changed.enabled row.enabled
    healthStatus := written loaded.healthStatus changed.healthStatus row.healthStatus
    stages :=
      { proxyHealthStatus := written loaded.stages.proxyHealthStatus
          changed.stages.proxyHealthStatus row.stages.proxyHealthStatus
        telegramHealthStatus := written loaded.stages.telegramHealthStatus
          changed.stages.telegramHealthStatus row.stages.telegramHealthStatus
        botHealthStatus := written loaded.stages.botHealthStatus changed.stages.botHealthStatus
          row.stages.botHealthStatus
        targetHealthStatus := written loaded.stages.targetHealthStatus
          changed.stages.targetHealthStatus row.stages.targetHealthStatus
        administratorStatus := written loaded.stages.administratorStatus
          changed.stages.administratorStatus row.stages.administratorStatus }
    failureCode := written loaded.failureCode changed.failureCode row.failureCode }

def TelegramProxyProfile.flush (loaded changed row : TelegramProxyProfile) : TelegramProxyProfile :=
  { row with
    proxyType := written loaded.proxyType changed.proxyType row.proxyType
    host := written loaded.host changed.host row.host
    port := written loaded.port changed.port row.port
    usernameSecretId := written loaded.usernameSecretId changed.usernameSecretId
      row.usernameSecretId
    passwordSecretId := written loaded.passwordSecretId changed.passwordSecretId
      row.passwordSecretId
    enabled := written loaded.enabled changed.enabled row.enabled
    reachabilityStatus := written loaded.reachabilityStatus changed.reachabilityStatus
      row.reachabilityStatus
    failureCode := written loaded.failureCode changed.failureCode row.failureCode }

def failureOf {α : Type} (result : Except TelegramError α) : Option TelegramError :=
  match result with
  | .ok _ => none
  | .error error => some error

namespace DestinationCheck

variable (check : DestinationCheck)

/-- `configuration_changed`, of a row that is there: the copy of the session is compared. -/
def configurationChanged : Bool := check.destination.snapshot ≠ check.snapshot

def verdict (result : Except TelegramError Configuration) : Destination :=
  if check.configurationChanged then
    { check.destination with
      healthStatus := .unknown
      failureCode := some "telegram_destination_changed_during_check" }
  else
    { check.destination with
      stages := check.stages
      healthStatus := if (failureOf result).isNone then .healthy else .unhealthy
      failureCode := failureOf result }

def success (result : Except TelegramError Configuration) : List Checked :=
  match result with
  | .error _ => []
  | .ok used => if check.configurationChanged then [] else [⟨check.destination.id, used⟩]

end DestinationCheck

namespace ProxyCheck

variable (check : ProxyCheck)

def verdict (result : Except TelegramError Unit) : TelegramProxyProfile :=
  if check.profile.snapshot ≠ check.snapshot then
    { check.profile with
      reachabilityStatus := .unchecked
      failureCode := some "telegram_proxy_changed_during_check" }
  else
    { check.profile with
      reachabilityStatus := if (failureOf result).isNone then .healthy else .unhealthy
      failureCode := failureOf result }

end ProxyCheck

/-! ## Requests -/

/-- The requests of an operator; a deletion is of a destination nothing depends on. -/
inductive TelegramRequest where
  | createDestination (request : DestinationCreate)
  | patchDestination (id : UUID) (patch : DestinationPatch)
  | rotateToken (id : UUID) (value : String) (newId : UUID)
  | recheckDestination (id : UUID)
  | enableDestination (id : UUID)
  | disableDestination (id : UUID)
  | deleteDestination (id : UUID)
  | createProxy (request : ProxyCreate)
  | patchProxy (id : UUID) (patch : ProxyPatch)
  | rotateCredentials (id : UUID) (credentials : Option (String × String))
      (newUsernameId newPasswordId : UUID)
  | recheckProxy (id : UUID)
  | enableProxy (id : UUID)
  | disableProxy (id : UUID)
  | deleteProxy (id : UUID)

def TelegramDb.handle (E : TelegramEnv) (db : TelegramDb) :
    TelegramRequest → Except TelegramError TelegramDb
  | .createDestination request => db.createDestination E request
  | .patchDestination id patch => db.patchDestination E id patch
  | .rotateToken id value newId => db.rotateDestinationToken id value newId
  | .recheckDestination id => db.recheckDestination id
  | .enableDestination id => db.enableDestination id
  | .disableDestination id => db.disableDestination id
  | .deleteDestination id => db.deleteDestination id
  | .createProxy request => db.createProxy E request
  | .patchProxy id patch => db.patchProxy E id patch
  | .rotateCredentials id credentials newUsernameId newPasswordId =>
    db.rotateProxyCredentials id credentials newUsernameId newPasswordId
  | .recheckProxy id => db.recheckProxy id
  | .enableProxy id => db.enableProxy id
  | .disableProxy id => db.disableProxy id
  | .deleteProxy id => db.deleteProxy id

/-! ## Histories -/

inductive TelegramEvent where
  | request (request : TelegramRequest)
  | check (id : UUID) (step : CheckStep)
  | proxyCheck (id : UUID) (step : ProxyCheckStep)

namespace TelegramWorld

variable (E : TelegramEnv) (w : TelegramWorld)

def putCheck (check : DestinationCheck) : TelegramWorld :=
  { w with checks := w.checks.put check }

/-- The last transaction of a check: the row is locked, and the copy written back. -/
def finishCheck (check : DestinationCheck) (result : Except TelegramError Configuration) :
    TelegramWorld :=
  match w.db.destinations.lookup check.destination.id with
  | none => { w with checks := w.checks.erase check.id }
  | some row =>
    { w with
      db := { w.db with
        destinations :=
          w.db.destinations.put (Destination.flush check.destination (check.verdict result) row) }
      checks := w.checks.erase check.id
      checked := w.checked ++ check.success result }

def stepCheck (id : UUID) (step : CheckStep) : TelegramWorld :=
  match step with
  | .load destinationId =>
    match w.db.destinations.lookup destinationId with
    | none => w
    | some destination =>
      { w with checks := w.checks.insert (TelegramDb.openCheck id destination) }
  | .crash => { w with checks := w.checks.erase id }
  | step =>
    match w.checks.lookup id with
    | none => w
    | some check =>
      match check.phase, step with
      | .opened, .readProxy problem => w.putCheck (w.db.readProxy check problem)
      | .proxied profile, .readToken problem => w.putCheck (w.db.readToken check profile problem)
      | .authorized profile token, .readRoute problem =>
        w.putCheck (w.db.readRoute check profile token problem)
      | .named profile token username, .readPassword problem =>
        w.putCheck (w.db.readPassword check profile token username problem)
      | .routed used, .ask answer => w.putCheck (TelegramDb.ask check used answer)
      | .answered result, .finish => w.finishCheck check result
      | _, _ => w

def finishProxyCheck (check : ProxyCheck) (result : Except TelegramError Unit) : TelegramWorld :=
  match w.db.proxies.lookup check.profile.id with
  | none => { w with proxyChecks := w.proxyChecks.erase check.id }
  | some row =>
    { w with
      db := { w.db with
        proxies :=
          w.db.proxies.put (TelegramProxyProfile.flush check.profile (check.verdict result) row) }
      proxyChecks := w.proxyChecks.erase check.id }

def stepProxyCheck (id : UUID) (step : ProxyCheckStep) : TelegramWorld :=
  match step with
  | .load proxyId =>
    match w.db.proxies.lookup proxyId with
    | none => w
    | some profile =>
      { w with proxyChecks := w.proxyChecks.insert ⟨id, profile, profile.snapshot, none⟩ }
  | .crash => { w with proxyChecks := w.proxyChecks.erase id }
  | .reach problem =>
    match w.proxyChecks.lookup id with
    | some ⟨_, profile, snapshot, none⟩ =>
      let result := problem.elim (.ok ()) .error
      { w with proxyChecks := w.proxyChecks.put ⟨id, profile, snapshot, some result⟩ }
    | _ => w
  | .finish =>
    match w.proxyChecks.lookup id with
    | some ⟨_, profile, snapshot, some result⟩ =>
      w.finishProxyCheck ⟨id, profile, snapshot, some result⟩ result
    | _ => w

/-- A request that is refused leaves the tables alone. -/
def request (request : TelegramRequest) : TelegramWorld :=
  match w.db.handle E request with
  | .ok db => { w with db }
  | .error _ => w

def next : TelegramEvent → TelegramWorld
  | .request request => w.request E request
  | .check id step => w.stepCheck id step
  | .proxyCheck id step => w.stepProxyCheck id step

end TelegramWorld

/-! ## The system -/

/-- A secret is there, and belongs to one owner under one purpose. -/
def Owned (db : TelegramDb) (secretId ownerId : UUID) (purpose : SecretPurpose) : Prop :=
  ∃ value, db.secrets.lookup secretId = some ⟨secretId, ownerId, purpose, value⟩

/-- Destinations and proxies refer to secrets of their own, and destinations to proxies that are
there. -/
structure Sound (db : TelegramDb) : Prop where
  token : ∀ destination ∈ db.destinations.rows, ∀ id ∈ destination.secretId,
    Owned db id destination.id .telegramBotToken
  proxy : ∀ destination ∈ db.destinations.rows, ∀ id ∈ destination.proxyProfileId,
    (db.proxies.lookup id).isSome
  username : ∀ profile ∈ db.proxies.rows, ∀ id ∈ profile.usernameSecretId,
    Owned db id profile.id .proxyUsername
  password : ∀ profile ∈ db.proxies.rows, ∀ id ∈ profile.passwordSecretId,
    Owned db id profile.id .proxyPassword

/-- The tables before the first check: nothing is known to be healthy. -/
structure Unverified (w : TelegramWorld) : Prop where
  sound : Sound w.db
  unhealthy : ∀ destination ∈ w.db.destinations.rows, destination.healthStatus ≠ .healthy
  checks : w.checks = Table.empty
  proxyChecks : w.proxyChecks = Table.empty
  checked : w.checked = []

/-- Requests, checks of destinations and checks of proxies, in every order. -/
def telegramSystem (E : TelegramEnv) : System TelegramWorld TelegramEvent where
  init := Unverified
  step w event w' := w' = w.next E event

end NewsCraft.Publishing.Telegram
