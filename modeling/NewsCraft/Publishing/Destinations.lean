import NewsCraft.Core.Basic
import NewsCraft.Lib.Table

/-!
# Telegram destinations and proxies

A destination is a chat a bot posts to, directly or through a proxy. Its token and the
credentials of a proxy are encrypted secrets, which a rotation changes in place. Every
request is one transaction that locks the row it changes.

The names, the timestamps and the verified identities are left out: no function here reads
them.
-/

namespace NewsCraft.Publishing.Telegram

open Lib

/-! ## Rows -/

inductive HealthStatus where
  | unknown
  | healthy
  | unhealthy
  deriving DecidableEq

inductive ProxyHealthStatus where
  | unchecked
  | checking
  | healthy
  | unhealthy
  | direct
  deriving DecidableEq

/-- The status of the API, of the bot, of the target, and of a proxy's reachability. -/
inductive CheckStatus where
  | unchecked
  | checking
  | healthy
  | unhealthy
  deriving DecidableEq

inductive AdministratorStatus where
  | unchecked
  | checking
  | administrator
  | notAdministrator
  deriving DecidableEq

structure Stages where
  proxyHealthStatus : ProxyHealthStatus
  telegramHealthStatus : CheckStatus
  botHealthStatus : CheckStatus
  targetHealthStatus : CheckStatus
  administratorStatus : AdministratorStatus
  deriving DecidableEq

structure Destination where
  id : UUID
  targetRef : String
  canonicalTarget : Option String
  secretRef : String
  secretId : Option UUID
  proxyProfileId : Option UUID
  enabled : Bool
  healthStatus : HealthStatus
  stages : Stages
  failureCode : Option String
  deriving DecidableEq

inductive SecretPurpose where
  | telegramBotToken
  | proxyUsername
  | proxyPassword
  deriving DecidableEq

/-- A secret, with the destination or the proxy that owns it. -/
structure EncryptedSecret where
  id : UUID
  ownerId : UUID
  purpose : SecretPurpose
  value : String

inductive ProxyType where
  | httpConnect
  | socks5
  deriving DecidableEq

structure TelegramProxyProfile where
  id : UUID
  proxyType : ProxyType
  host : String
  port : Nat
  usernameSecretId : Option UUID
  passwordSecretId : Option UUID
  enabled : Bool
  reachabilityStatus : CheckStatus
  failureCode : Option String

instance : Keyed Destination UUID := ⟨Destination.id⟩
instance : Keyed EncryptedSecret UUID := ⟨EncryptedSecret.id⟩
instance : Keyed TelegramProxyProfile UUID := ⟨TelegramProxyProfile.id⟩

structure TelegramDb where
  destinations : Table Destination
  proxies : Table TelegramProxyProfile
  secrets : Table EncryptedSecret

/-- What the texts of a request are normalized to, and the ports a proxy may have. -/
structure TelegramEnv where
  normalizeTarget : String → Option String
  normalizeProxyHost : String → Option String
  allowedProxyPort : Nat → Bool

/-- How a request is refused: a `TelegramConfigurationError`, a missing row, a conflict. -/
abbrev TelegramError : Type := String

/-! ## What a destination is reached with -/

/-- The endpoint of a proxy, and its credentials. -/
structure Route where
  proxyType : ProxyType
  host : String
  port : Nat
  credentials : Option (String × String)
  deriving DecidableEq

/-- What a bot posts with: the target, the value of the token, and the proxy. -/
structure Configuration where
  target : String
  token : Option String
  route : Option Route
  deriving DecidableEq

namespace TelegramDb

variable (E : TelegramEnv) (db : TelegramDb)

def secretValue (secretId : Option UUID) : Option String :=
  (secretId.bind db.secrets.lookup).map EncryptedSecret.value

def credentials (profile : TelegramProxyProfile) : Option (String × String) :=
  (db.secretValue profile.usernameSecretId).bind fun username =>
    (db.secretValue profile.passwordSecretId).map fun password => (username, password)

def route (profile : TelegramProxyProfile) : Route where
  proxyType := profile.proxyType
  host := profile.host
  port := profile.port
  credentials := db.credentials profile

/-- What a destination is reached with at present. -/
def configuration (destination : Destination) : Configuration where
  target := destination.targetRef
  token := db.secretValue destination.secretId
  route := (destination.proxyProfileId.bind db.proxies.lookup).map db.route

/-! ## Secrets -/

/-- `EncryptedSecretStore.create`, and its flush. -/
def createSecret (secret : EncryptedSecret) : Except TelegramError TelegramDb :=
  if (db.secrets.lookup secret.id).isSome then
    .error "integrity_error"
  else
    .ok { db with secrets := db.secrets.insert secret }

/-- `EncryptedSecretStore.rotate`. -/
def rotateSecret (secret : EncryptedSecret) (value : String) : TelegramDb :=
  { db with secrets := db.secrets.put { secret with value } }

def deleteSecret (secretId : Option UUID) : TelegramDb :=
  match secretId with
  | none => db
  | some secretId => { db with secrets := db.secrets.erase secretId }

end TelegramDb

/-! ## Destinations -/

/-- `_reset_destination`. -/
def Destination.reset (destination : Destination) : Destination :=
  { destination with
    enabled := false
    healthStatus := .unknown
    stages :=
      { proxyHealthStatus := if destination.proxyProfileId = none then .direct else .unchecked
        telegramHealthStatus := .unchecked
        botHealthStatus := .unchecked
        targetHealthStatus := .unchecked
        administratorStatus := .unchecked }
    failureCode := none }

def Destination.checkingStages (destination : Destination) : Stages where
  proxyHealthStatus := if destination.proxyProfileId = none then .direct else .checking
  telegramHealthStatus := .checking
  botHealthStatus := .checking
  targetHealthStatus := .checking
  administratorStatus := .checking

/-- `_mark_destination_checking`. -/
def Destination.markChecking (destination : Destination) (resetOutcome : Bool) : Destination :=
  { destination with
    healthStatus := if resetOutcome then .unknown else destination.healthStatus
    failureCode := if resetOutcome then none else destination.failureCode
    stages := destination.checkingStages }

/-- `enable_destination`. -/
def Destination.enable (destination : Destination) : Except TelegramError Destination :=
  if destination.secretId = none ∨ destination.healthStatus ≠ .healthy
      ∨ ¬ (destination.stages.proxyHealthStatus = .direct
        ∨ destination.stages.proxyHealthStatus = .healthy)
      ∨ destination.stages.telegramHealthStatus ≠ .healthy
      ∨ destination.stages.botHealthStatus ≠ .healthy
      ∨ destination.stages.targetHealthStatus ≠ .healthy
      ∨ destination.stages.administratorStatus ≠ .administrator then
    .error "telegram_destination_not_ready"
  else
    .ok { destination with enabled := true }

/-- `TelegramDestinationCreate`, and the ids the request draws. -/
structure DestinationCreate where
  id : UUID
  secretId : UUID
  target : String
  botToken : String
  proxyProfileId : Option UUID

/-- `TelegramDestinationPatch`: the fields that are set. -/
structure DestinationPatch where
  target : Option String
  proxyProfileId : Option (Option UUID)

/-- `TelegramProxyCreate`, and the ids the request draws. -/
structure ProxyCreate where
  id : UUID
  proxyType : ProxyType
  host : String
  port : Nat
  credentials : Option (String × String)
  usernameSecretId : UUID
  passwordSecretId : UUID

/-- `TelegramProxyPatch`: the fields that are set. -/
structure ProxyPatch where
  proxyType : Option ProxyType
  host : Option String
  port : Option Nat

namespace TelegramDb

variable (E : TelegramEnv) (db : TelegramDb)

/-- `get_destination`. -/
def getDestination (id : UUID) : Except TelegramError Destination :=
  match db.destinations.lookup id with
  | none => .error "telegram_destination_not_found"
  | some destination => .ok destination

/-- `get_proxy`. -/
def getProxy (id : UUID) : Except TelegramError TelegramProxyProfile :=
  match db.proxies.lookup id with
  | none => .error "telegram_proxy_not_found"
  | some profile => .ok profile

/-- `_ensure_unique_target`. -/
def ensureUniqueTarget (canonical : String) (excludeId : Option UUID) : Except TelegramError Unit :=
  if db.destinations.rows.any fun other => some other.id ≠ excludeId
      ∧ (other.canonicalTarget = some canonical
        ∨ other.canonicalTarget = none ∧ E.normalizeTarget other.targetRef = some canonical) then
    .error "telegram_destination_target_conflict"
  else
    .ok ()

/-- `_proxy_or_error`. -/
def proxyOrError (proxyProfileId : Option UUID) : Except TelegramError Unit :=
  match proxyProfileId with
  | none => .ok ()
  | some id =>
    match db.proxies.lookup id with
    | none => .error "telegram_proxy_not_found"
    | some profile =>
      if profile.enabled = true ∧ profile.reachabilityStatus = .healthy then .ok ()
      else .error "telegram_proxy_not_ready"

/-- `normalize_telegram_target`. -/
def normalized (target : String) : Except TelegramError String :=
  match E.normalizeTarget target with
  | none => .error "telegram_target_invalid"
  | some canonical => .ok canonical

/-- The row `create_destination` makes, marked as being checked. -/
def newDestination (request : DestinationCreate) (canonical : String) : Destination :=
  Destination.markChecking
    { id := request.id
      targetRef := canonical
      canonicalTarget := some canonical
      secretRef := "encrypted:" ++ uuidStr request.secretId
      secretId := some request.secretId
      proxyProfileId := request.proxyProfileId
      enabled := false
      healthStatus := .unknown
      stages :=
        { proxyHealthStatus := if request.proxyProfileId = none then .direct else .unchecked
          telegramHealthStatus := .unchecked
          botHealthStatus := .unchecked
          targetHealthStatus := .unchecked
          administratorStatus := .unchecked }
      failureCode := none }
    false

def insertDestination (destination : Destination) : Except TelegramError TelegramDb :=
  if (db.destinations.lookup destination.id).isSome then
    .error "telegram_destination_conflict"
  else
    .ok { db with destinations := db.destinations.insert destination }

/-- `create_destination`. -/
def createDestination (request : DestinationCreate) : Except TelegramError TelegramDb := do
  let canonical ← normalized E request.target
  db.ensureUniqueTarget E canonical none
  db.proxyOrError request.proxyProfileId
  let db ← db.createSecret ⟨request.secretId, request.id, .telegramBotToken, request.botToken⟩
  db.insertDestination (newDestination request canonical)

def patchTarget (destination : Destination) (target : Option String) :
    Except TelegramError Destination :=
  match target with
  | none => .ok destination
  | some target => do
      let canonical ← normalized E target
      db.ensureUniqueTarget E canonical (some destination.id)
      pure { destination with
        targetRef := canonical
        canonicalTarget := some canonical }

def patchProxyOf (destination : Destination) (proxyProfileId : Option (Option UUID)) :
    Except TelegramError Destination :=
  match proxyProfileId with
  | none => .ok destination
  | some proxyProfileId => do
      db.proxyOrError proxyProfileId
      pure { destination with proxyProfileId }

/-- `patch_destination`: naming a target resets the destination even where it is the same one. -/
def patchDestination (id : UUID) (patch : DestinationPatch) : Except TelegramError TelegramDb := do
  let destination ← db.getDestination id
  let targeted ← db.patchTarget E destination patch.target
  let routed ← db.patchProxyOf targeted patch.proxyProfileId
  let changed :=
    if patch.target.isSome ∨ routed.proxyProfileId ≠ destination.proxyProfileId then routed.reset
    else routed
  pure { db with destinations := db.destinations.put (changed.markChecking false) }

/-- The secret of a rotation: a new one, or the one that is there with another value. -/
def rotatedSecret (destination : Destination) (value : String) (newId : UUID) :
    Except TelegramError (TelegramDb × Destination) :=
  match destination.secretId with
  | none => do
      let db ← db.createSecret ⟨newId, destination.id, .telegramBotToken, value⟩
      pure (db, { destination with
        secretId := some newId
        secretRef := "encrypted:" ++ uuidStr newId })
  | some secretId =>
    match db.secrets.lookup secretId with
    | none => .error "secret_store_unavailable"
    | some secret => .ok (db.rotateSecret secret value, destination)

/-- `rotate_destination_token`. -/
def rotateDestinationToken (id : UUID) (value : String) (newId : UUID) :
    Except TelegramError TelegramDb := do
  let destination ← db.getDestination id
  let (db, destination) ← db.rotatedSecret destination value newId
  pure { db with destinations := db.destinations.put (destination.reset.markChecking false) }

/-- `recheck_telegram_destination`. -/
def recheckDestination (id : UUID) : Except TelegramError TelegramDb := do
  let destination ← db.getDestination id
  pure { db with destinations := db.destinations.put (destination.markChecking true) }

/-- `enable_destination`. -/
def enableDestination (id : UUID) : Except TelegramError TelegramDb := do
  let destination ← db.getDestination id
  let enabled ← destination.enable
  pure { db with destinations := db.destinations.put enabled }

/-- `disable_destination`. -/
def disableDestination (id : UUID) : Except TelegramError TelegramDb := do
  let destination ← db.getDestination id
  pure { db with destinations := db.destinations.put { destination with enabled := false } }

/-- `delete_destination`, of one that nothing depends on. -/
def deleteDestination (id : UUID) : Except TelegramError TelegramDb := do
  let destination ← db.getDestination id
  let db := { db with destinations := db.destinations.erase id }
  pure (db.deleteSecret destination.secretId)

/-! ## Proxies -/

def invalidated (profileId : UUID) (failureCode : String) (destination : Destination) :
    Destination :=
  if destination.proxyProfileId = some profileId then
    { destination.reset with failureCode := some failureCode }
  else
    destination

theorem key_invalidated (profileId : UUID) (failureCode : String) (destination : Destination) :
    Keyed.key (invalidated profileId failureCode destination) = Keyed.key destination := by
  unfold invalidated
  split <;> rfl

/-- `_invalidate_proxy_destinations`. -/
def invalidateProxyDestinations (profileId : UUID) (failureCode : String) : TelegramDb :=
  { db with
    destinations := db.destinations.map (invalidated profileId failureCode)
      (key_invalidated profileId failureCode) }

def unchecked (profile : TelegramProxyProfile) : TelegramProxyProfile :=
  { profile with
    enabled := false
    reachabilityStatus := .unchecked
    failureCode := none }

/-- The secrets of the credentials a proxy is created with. -/
def createProxySecrets (request : ProxyCreate) : Except TelegramError TelegramDb :=
  match request.credentials with
  | none => .ok db
  | some (username, password) => do
      let db ← db.createSecret ⟨request.usernameSecretId, request.id, .proxyUsername, username⟩
      db.createSecret ⟨request.passwordSecretId, request.id, .proxyPassword, password⟩

/-- The row of a new proxy, which is marked as being checked. -/
def newProxy (request : ProxyCreate) (host : String) : TelegramProxyProfile where
  id := request.id
  proxyType := request.proxyType
  host
  port := request.port
  usernameSecretId := request.credentials.map fun _ => request.usernameSecretId
  passwordSecretId := request.credentials.map fun _ => request.passwordSecretId
  enabled := false
  reachabilityStatus := .checking
  failureCode := none

def insertProxy (profile : TelegramProxyProfile) : Except TelegramError TelegramDb :=
  if (db.proxies.lookup profile.id).isSome then
    .error "telegram_proxy_name_conflict"
  else
    .ok { db with proxies := db.proxies.insert profile }

/-- `normalize_proxy_host`. -/
def normalizedHost (host : String) : Except TelegramError String :=
  match E.normalizeProxyHost host with
  | none => .error "telegram_proxy_host_invalid"
  | some host => .ok host

def allowedPort (port : Nat) : Except TelegramError Unit :=
  if E.allowedProxyPort port then .ok () else .error "telegram_proxy_port_blocked"

/-- `create_proxy`. -/
def createProxy (request : ProxyCreate) : Except TelegramError TelegramDb := do
  allowedPort E request.port
  let host ← normalizedHost E request.host
  let db ← db.createProxySecrets request
  db.insertProxy (newProxy request host)

def patchHost (profile : TelegramProxyProfile) (host : Option String) :
    Except TelegramError String :=
  match host with
  | none => .ok profile.host
  | some host => normalizedHost E host

def patchPort (profile : TelegramProxyProfile) (port : Option Nat) : Except TelegramError Nat :=
  match port with
  | none => .ok profile.port
  | some port =>
    if E.allowedProxyPort port then .ok port else .error "telegram_proxy_port_blocked"

/-- A patched proxy: one whose endpoint is named is disabled and its destinations reset. -/
def storePatched (id : UUID) (patch : ProxyPatch) (patched : TelegramProxyProfile) : TelegramDb :=
  if patch.proxyType.isSome ∨ patch.host.isSome ∨ patch.port.isSome then
    let db := { db with
      proxies := db.proxies.put { unchecked patched with reachabilityStatus := .checking } }
    db.invalidateProxyDestinations id "telegram_proxy_changed"
  else
    { db with proxies := db.proxies.put { patched with reachabilityStatus := .checking } }

/-- `patch_proxy`. -/
def patchProxy (id : UUID) (patch : ProxyPatch) : Except TelegramError TelegramDb := do
  let profile ← db.getProxy id
  let host ← patchHost E profile patch.host
  let port ← patchPort E profile patch.port
  let patched := { profile with
    proxyType := patch.proxyType.getD profile.proxyType
    host
    port }
  pure (db.storePatched id patch patched)

def existingSecret (profile : TelegramProxyProfile) (purpose : SecretPurpose) :
    Option EncryptedSecret :=
  let existing := [profile.passwordSecretId, profile.usernameSecretId].filterMap fun secretId =>
    secretId.bind db.secrets.lookup
  existing.find? fun secret => secret.purpose = purpose

/-- A secret of a proxy: the one that is there with another value, or a new one. -/
def rotateProxySecret (profileId : UUID) (current : Option EncryptedSecret)
    (purpose : SecretPurpose) (value : String) (newId : UUID) :
    Except TelegramError (TelegramDb × UUID) :=
  match current with
  | some secret => .ok (db.rotateSecret secret value, secret.id)
  | none => do
      let db ← db.createSecret ⟨newId, profileId, purpose, value⟩
      pure (db, newId)

/-- The secrets of a rotation of credentials: both go, or both get a value. -/
def rotatedCredentials (profile : TelegramProxyProfile) (credentials : Option (String × String))
    (newUsernameId newPasswordId : UUID) :
    Except TelegramError (TelegramDb × Option UUID × Option UUID) :=
  match credentials with
  | none =>
    let db := db.deleteSecret profile.usernameSecretId
    .ok (db.deleteSecret profile.passwordSecretId, none, none)
  | some (username, password) => do
      let currentUsername := db.existingSecret profile .proxyUsername
      let currentPassword := db.existingSecret profile .proxyPassword
      let (db, usernameId) ← db.rotateProxySecret profile.id currentUsername .proxyUsername
        username newUsernameId
      let (db, passwordId) ← db.rotateProxySecret profile.id currentPassword .proxyPassword
        password newPasswordId
      pure (db, some usernameId, some passwordId)

/-- `rotate_proxy_credentials`. -/
def rotateProxyCredentials (id : UUID) (credentials : Option (String × String))
    (newUsernameId newPasswordId : UUID) : Except TelegramError TelegramDb := do
  let profile ← db.getProxy id
  let (db, usernameId, passwordId) ←
    db.rotatedCredentials profile credentials newUsernameId newPasswordId
  let rotated := { unchecked profile with
    usernameSecretId := usernameId
    passwordSecretId := passwordId
    reachabilityStatus := .checking }
  let db := { db with proxies := db.proxies.put rotated }
  pure (db.invalidateProxyDestinations id "telegram_proxy_credentials_rotated")

/-- `recheck_telegram_proxy`. -/
def recheckProxy (id : UUID) : Except TelegramError TelegramDb := do
  let profile ← db.getProxy id
  let checking := { profile with
    reachabilityStatus := .checking
    failureCode := none }
  pure { db with proxies := db.proxies.put checking }

/-- What `enable_proxy` looks at. -/
def proxyReady (profile : TelegramProxyProfile) : Except TelegramError Unit :=
  if profile.reachabilityStatus = .healthy then .ok () else .error "telegram_proxy_not_ready"

/-- `enable_proxy`. -/
def enableProxy (id : UUID) : Except TelegramError TelegramDb := do
  let profile ← db.getProxy id
  proxyReady profile
  pure { db with proxies := db.proxies.put { profile with enabled := true } }

/-- `disable_proxy`. -/
def disableProxy (id : UUID) : Except TelegramError TelegramDb := do
  let profile ← db.getProxy id
  let db := { db with proxies := db.proxies.put { profile with enabled := false } }
  pure (db.invalidateProxyDestinations id "telegram_proxy_disabled")

/-- What stands in the way of the deletion of a proxy. -/
def proxyDependencies (id : UUID) : Except TelegramError Unit :=
  if db.destinations.rows.any fun destination => destination.proxyProfileId = some id then
    .error "telegram_proxy_has_dependencies"
  else
    .ok ()

/-- `delete_proxy`. -/
def deleteProxy (id : UUID) : Except TelegramError TelegramDb := do
  let profile ← db.getProxy id
  db.proxyDependencies id
  let db := { db with proxies := db.proxies.erase id }
  let db := db.deleteSecret profile.usernameSecretId
  pure (db.deleteSecret profile.passwordSecretId)

end TelegramDb

end NewsCraft.Publishing.Telegram
