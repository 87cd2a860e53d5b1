import NewsCraft.Gateway.Credentials
import NewsCraft.Lib.Table
import NewsCraft.Lib.Transition

/-!
# Pairing, rotation and authentication

`CodexGatewayService`: a device exchanges the code of a pairing session for a connection
with a credential, and the operator rotates it, changes the scopes or revokes the
connection. Each request locks its row, so it is one step; only the page that shows a
session reads without a lock, and writes at its end that the session expired.

The credentials handed out are kept beside the tables, the latest first. What `secrets`
draws was not a credential before, and no rotation comes to it. Rate limits are elsewhere;
audit rows, heartbeats and error codes decide nothing.
-/

namespace NewsCraft.Gateway

open Lib Redact

/-! ## Rows -/

inductive PairingStatus where
  | pending
  | paired
  | cancelled
  | expired
  deriving DecidableEq

inductive ConnectionStatus where
  | active
  | revoked
  deriving DecidableEq

structure CodexPairingSession where
  id : UUID
  codePrefix : Text
  codeHash : List UInt8
  deviceName : String
  requestedScopes : List String
  status : PairingStatus
  expiresAt : Datetime

structure CodexConnection where
  id : UUID
  deviceName : String
  credentialPrefix : Text
  credentialHash : List UInt8
  credentialFingerprint : Text
  scopes : List String
  status : ConnectionStatus
  expiresAt : Datetime
  pairingSessionId : UUID
  createdAt : Datetime

structure CodexIdempotencyRecord where
  keyHash : List UInt8
  resourceId : UUID
  createdAt : Datetime

instance : Keyed CodexPairingSession UUID := ⟨CodexPairingSession.id⟩
instance : Keyed CodexConnection UUID := ⟨CodexConnection.id⟩
instance : Keyed CodexIdempotencyRecord (List UInt8) := ⟨CodexIdempotencyRecord.keyHash⟩

structure GatewaySettings where
  pairingTtlSeconds : Int
  credentialTtlSeconds : Int

inductive GatewayError where
  | pairingSessionNotFound
  | pairingSessionNotPending
  | pairingCodeInvalid
  | connectionNotFound
  | connectionInactive
  | idempotencyKeySuperseded
  | authenticationRequired
  | credentialInvalid
  | credentialRevoked
  | credentialExpired
  /-- A unique constraint refuses the commit. -/
  | integrity
  deriving DecidableEq

/-- A credential that was handed out, with the idempotency key if it was a rotation. -/
structure Issue where
  connectionId : UUID
  value : Text
  expiresAt : Datetime
  rotation : Option Text

structure GatewayWorld where
  pairings : Table CodexPairingSession
  connections : Table CodexConnection
  records : Table CodexIdempotencyRecord
  /-- The sessions that a page found expired and has not written yet. -/
  expiring : List UUID
  /-- The credentials that were handed out, the latest first. -/
  issued : List Issue

inductive Reply where
  | done
  | created (code : Text)
  | paired (connectionId : UUID) (credential : Text)
  | authenticated (connectionId : UUID) (scopes : List String)
  | issued (credential : Text)
  | refused (error : GatewayError)

/-- A request, with the clock its transaction reads and what is drawn for it. -/
inductive GatewayEvent where
  | createPairing (id : UUID) (body : Text) (deviceName : String) (scopes : List String)
      (now : Datetime)
  | showPairing (id : UUID) (now : Datetime)
  /-- The transaction of a page that showed a session ends. -/
  | writeExpired (id : UUID)
  | cancelPairing (id : UUID) (now : Datetime)
  | exchange (code credentialPrefix secret : Text) (connectionId : UUID) (now : Datetime)
  | authenticate (authorization : Option Text) (now : Datetime)
  | updateScopes (id : UUID) (scopes : List String) (now : Datetime)
  | rotate (id : UUID) (idempotencyKey : Text) (checkedAt now : Datetime)
  | revoke (id : UUID)

/-! ## Requests -/

/-- `_bearer_value`. -/
def bearerValue (P : PythonText) : Option Text → Except GatewayError Text
  | none => .error .authenticationRequired
  | some authorization =>
    let scheme := authorization.takeWhile (· ≠ ' ')
    let value := (authorization.dropWhile (· ≠ ' ')).drop 1
    if ' ' ∉ authorization ∨ scheme.flatMap P.casefold ≠ "bearer".toList ∨ value = []
        ∨ strip P value ≠ value then
      .error .credentialInvalid
    else
      .ok value

/-- A session whose time is over is marked when it is read. -/
def CodexPairingSession.expireOverdue (pairing : CodexPairingSession) (now : Datetime) :
    CodexPairingSession :=
  if pairing.status = .pending ∧ pairing.expiresAt ≤ now then { pairing with status := .expired }
  else pairing

namespace GatewayWorld

variable (H : GatewayCredentialHasher) (P : PythonText) (config : GatewaySettings)
  (w : GatewayWorld)

/-- The credential of a connection is the last one handed out to it. -/
def latest (id : UUID) : Option Issue := w.issued.find? fun issue => issue.connectionId = id

/-- `create_pairing_session`. -/
def createPairingSession (id : UUID) (body : Text) (deviceName : String) (scopes : List String)
    (now : Datetime) : GatewayWorld × Reply :=
  let (code, codePrefix, codeHash) := H.issuePairingCode body
  if (w.pairings.lookup id).isSome
      ∨ (w.pairings.rows.any fun pairing => pairing.codePrefix = codePrefix) then
    (w, .refused .integrity)
  else
    ({ w with
        pairings := w.pairings.insert ⟨id, codePrefix, codeHash, deviceName, scopes, .pending,
          now + timedeltaSeconds config.pairingTtlSeconds⟩ }, .created code)

/-- `get_pairing_session`, without a lock. -/
def showPairingSession (id : UUID) (now : Datetime) : GatewayWorld × Reply :=
  match w.pairings.lookup id with
  | none => (w, .refused .pairingSessionNotFound)
  | some pairing =>
    if pairing.status = .pending ∧ pairing.expiresAt ≤ now then
      ({ w with expiring := id :: w.expiring }, .done)
    else
      (w, .done)

/-- The page's transaction writes the status, whatever the row has by now. -/
def writeExpired (id : UUID) : GatewayWorld × Reply :=
  match w.pairings.lookup id with
  | none => (w, .done)
  | some pairing =>
    if id ∈ w.expiring then
      ({ w with
          pairings := w.pairings.put { pairing with status := .expired }
          expiring := w.expiring.erase id }, .done)
    else
      (w, .done)

/-- `cancel_pairing_session`, of the session read under its lock. -/
def cancelPairingSession (id : UUID) (now : Datetime) : GatewayWorld × Reply :=
  match w.pairings.lookup id with
  | none => (w, .refused .pairingSessionNotFound)
  | some pairing =>
    let pairing := pairing.expireOverdue now
    if pairing.status ≠ .pending then
      ({ w with pairings := w.pairings.put pairing }, .refused .pairingSessionNotPending)
    else
      ({ w with pairings := w.pairings.put { pairing with status := .cancelled } }, .done)

def pairingOf (code : Text) : Option CodexPairingSession :=
  (parsePairingPrefix code).bind fun codePrefix =>
    w.pairings.rows.find? fun pairing => pairing.codePrefix = codePrefix

def newConnection (pairing : CodexPairingSession) (issued : IssuedCredential)
    (connectionId : UUID) (now : Datetime) : CodexConnection where
  id := connectionId
  deviceName := pairing.deviceName
  credentialPrefix := issued.credentialPrefix
  credentialHash := issued.digest
  credentialFingerprint := issued.fingerprint
  scopes := pairing.requestedScopes
  status := .active
  expiresAt := now + timedeltaSeconds config.credentialTtlSeconds
  pairingSessionId := pairing.id
  createdAt := now

/-- A row of the connections has one of the new row's unique values. -/
def connectionTaken (connection : CodexConnection) : Bool :=
  w.connections.rows.any fun row => row.id = connection.id
    ∨ row.credentialPrefix = connection.credentialPrefix
    ∨ row.pairingSessionId = connection.pairingSessionId

/-- `exchange_pairing_code`. -/
def exchangePairingCode (code credentialPrefix secret : Text) (connectionId : UUID)
    (now : Datetime) : GatewayWorld × Reply :=
  match w.pairingOf code with
  | none => (w, .refused .pairingCodeInvalid)
  | some pairing =>
    if pairing.status ≠ .pending ∨ pairing.expiresAt ≤ now
        ∨ H.matchesDigest "pairing-code" code pairing.codeHash = false then
      ({ w with pairings := w.pairings.put (pairing.expireOverdue now) },
        .refused .pairingCodeInvalid)
    else
      let issued := H.credentialOf credentialPrefix secret
      let connection := newConnection config pairing issued connectionId now
      if w.connectionTaken connection then
        (w, .refused .integrity)
      else
        ({ w with
            pairings := w.pairings.put { pairing with status := .paired }
            connections := w.connections.insert connection
            issued := ⟨connectionId, issued.value, connection.expiresAt, none⟩ :: w.issued },
          .paired connectionId issued.value)

/-- `authenticate`. -/
def authenticate (authorization : Option Text) (now : Datetime) :
    Except GatewayError CodexConnection :=
  match bearerValue P authorization with
  | .error error => .error error
  | .ok credential =>
    let found := (parseCredentialPrefix credential).bind fun credentialPrefix =>
      w.connections.rows.find? fun row => row.credentialPrefix = credentialPrefix
    match found with
    | none => .error .credentialInvalid
    | some connection =>
      if H.matchesDigest "credential" credential connection.credentialHash = false then
        .error .credentialInvalid
      else if connection.status = .revoked then
        .error .credentialRevoked
      else if connection.expiresAt ≤ now then
        .error .credentialExpired
      else
        .ok connection

/-- `update_scopes`. -/
def updateScopes (id : UUID) (scopes : List String) (now : Datetime) : GatewayWorld × Reply :=
  match w.connections.lookup id with
  | none => (w, .refused .connectionNotFound)
  | some connection =>
    if connection.status ≠ .active ∨ connection.expiresAt ≤ now then
      (w, .refused .connectionInactive)
    else
      ({ w with connections := w.connections.put { connection with scopes := scopes } }, .done)

def rotatedConnection (connection : CodexConnection) (issued : IssuedCredential)
    (now : Datetime) : CodexConnection :=
  { connection with
    credentialPrefix := issued.credentialPrefix
    credentialHash := issued.digest
    credentialFingerprint := issued.fingerprint
    expiresAt := now + timedeltaSeconds config.credentialTtlSeconds }

/-- `rotate`. -/
def rotate (id : UUID) (idempotencyKey : Text) (checkedAt now : Datetime) : GatewayWorld × Reply :=
  match w.connections.lookup id with
  | none => (w, .refused .connectionNotFound)
  | some connection =>
    if connection.status ≠ .active ∨ connection.expiresAt ≤ checkedAt then
      (w, .refused .connectionInactive)
    else
      let keyHash := H.rotationKey id idempotencyKey
      let issued := H.rotated id idempotencyKey
      if (w.records.lookup keyHash).isSome then
        if H.matchesDigest "credential" issued.value connection.credentialHash = false then
          (w, .refused .idempotencyKeySuperseded)
        else
          (w, .issued issued.value)
      else if w.connections.rows.any fun row =>
          row.id ≠ id ∧ row.credentialPrefix = issued.credentialPrefix then
        (w, .refused .integrity)
      else
        let connection := rotatedConnection config connection issued now
        ({ w with
            connections := w.connections.put connection
            records := w.records.insert ⟨keyHash, id, now⟩
            issued := ⟨id, issued.value, connection.expiresAt, some idempotencyKey⟩ :: w.issued },
          .issued issued.value)

/-- `revoke`. -/
def revoke (id : UUID) : GatewayWorld × Reply :=
  match w.connections.lookup id with
  | none => (w, .refused .connectionNotFound)
  | some connection =>
    if connection.status = .revoked then
      (w, .done)
    else
      ({ w with connections := w.connections.put { connection with status := .revoked } }, .done)

def handle : GatewayEvent → GatewayWorld × Reply
  | .createPairing id body deviceName scopes now =>
    w.createPairingSession H config id body deviceName scopes now
  | .showPairing id now => w.showPairingSession id now
  | .writeExpired id => w.writeExpired id
  | .cancelPairing id now => w.cancelPairingSession id now
  | .exchange code credentialPrefix secret connectionId now =>
    w.exchangePairingCode H config code credentialPrefix secret connectionId now
  | .authenticate authorization now =>
    match w.authenticate H P authorization now with
    | .ok connection => (w, .authenticated connection.id connection.scopes)
    | .error error => (w, .refused error)
  | .updateScopes id scopes now => w.updateScopes id scopes now
  | .rotate id idempotencyKey checkedAt now => w.rotate H config id idempotencyKey checkedAt now
  | .revoke id => w.revoke id

/-- What is drawn was not handed out before, and no rotation comes to what was drawn. -/
def Fresh : GatewayEvent → Prop
  | .exchange _ credentialPrefix secret _ _ => ∀ issue ∈ w.issued,
      issue.value ≠ (H.credentialOf credentialPrefix secret).value
  | .rotate id idempotencyKey _ _ => ∀ issue ∈ w.issued, issue.rotation = none →
      issue.value ≠ (H.rotated id idempotencyKey).value
  | .createPairing .. | .showPairing .. | .writeExpired _ | .cancelPairing .. | .authenticate ..
  | .updateScopes .. | .revoke _ => True

end GatewayWorld

open GatewayCredentialHasher in
def GatewayEvent.messages (H : GatewayCredentialHasher) (P : PythonText) : GatewayEvent → List Text
  | .createPairing _ body _ _ _ => [message "pairing-code" (H.issuePairingCode body).1]
  | .exchange code credentialPrefix secret _ _ =>
    [message "pairing-code" code,
      message "credential" (H.credentialOf credentialPrefix secret).value]
  | .authenticate authorization _ =>
    match bearerValue P authorization with
    | .ok credential => [message "credential" credential]
    | .error _ => []
  | .rotate id idempotencyKey _ _ =>
    let seed := rotationSeed id idempotencyKey
    [message "idempotency" seed, message "credential-prefix" seed,
      message "credential-secret-a" seed, message "credential-secret-b" seed,
      message "credential" (H.rotated id idempotencyKey).value]
  | .showPairing .. | .writeExpired _ | .cancelPairing .. | .updateScopes .. | .revoke _ => []

/-- The gateway in every history of requests whose messages are of the set. -/
def gatewaySystem (H : GatewayCredentialHasher) (P : PythonText) (config : GatewaySettings)
    (messages : Text → Prop) : System GatewayWorld GatewayEvent where
  init w := w = ⟨.empty, .empty, .empty, [], []⟩
  step w event w' := w.Fresh H event ∧ (∀ m ∈ event.messages H P, messages m)
    ∧ w' = (w.handle H P config event).1

end NewsCraft.Gateway
