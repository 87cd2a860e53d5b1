import NewsCraft.Core.Base64
import NewsCraft.Core.SecretKeys

/-!
# Credentials of the Codex gateway

`GatewayCredentialHasher` draws pairing codes and credentials and stores their HMAC digests.
A rotation derives its credential from the connection and the idempotency key, so the same
request has the same credential, and others have others as long as no two messages that come
up have the same digest. HMAC under the configured key is a parameter.
-/

namespace NewsCraft.Gateway

open Base64 List

/-- `GatewayCredentialHasher`: HMAC-SHA256 under the configured key. -/
structure GatewayCredentialHasher where
  hmac : Text → List UInt8
  length_hmac : ∀ message, (hmac message).length = 32

namespace GatewayCredentialHasher

variable (H : GatewayCredentialHasher)

/-- `f"newscraft:{purpose}:v1:{value}"`. -/
def message (purpose : String) (value : Text) : Text :=
  "newscraft:".toList ++ purpose.toList ++ ":v1:".toList ++ value

def digest (purpose : String) (value : Text) : List UInt8 := H.hmac (message purpose value)

/-- `matches`. -/
def matchesDigest (purpose : String) (value : Text) (expected : List UInt8) : Bool :=
  H.digest purpose value = expected

end GatewayCredentialHasher

/-- `digest.hex()`. -/
def hexText (digest : List UInt8) : Text := digest.flatMap fun byte => hexDigits 2 byte.toNat

structure IssuedCredential where
  value : Text
  credentialPrefix : Text
  digest : List UInt8
  fingerprint : Text

/-! ## Patterns -/

/-- `[A-Za-z0-9_-]`. -/
def isTokenChar (c : Char) : Bool := c.isAlphanum || c = '_' || c = '-'

/-- `parse_pairing_prefix`: `^ncp_([A-Za-z0-9_-]{12})[A-Za-z0-9_-]{31,64}$`. -/
def parsePairingPrefix (code : Text) : Option Text :=
  let body := code.drop 4
  if code.take 4 = "ncp_".toList ∧ body.all isTokenChar ∧ 43 ≤ body.length ∧ body.length ≤ 76 then
    some (body.take 12)
  else
    none

/-- `parse_credential_prefix`: `^ncg_([A-Za-z0-9_-]{12})_([A-Za-z0-9_-]{40,64})$`. -/
def parseCredentialPrefix (credential : Text) : Option Text :=
  let credentialPrefix := (credential.drop 4).take 12
  let secret := credential.drop 17
  if credential.take 4 = "ncg_".toList ∧ credentialPrefix.all isTokenChar
      ∧ credential.drop 16 = '_' :: secret ∧ secret.all isTokenChar
      ∧ 40 ≤ secret.length ∧ secret.length ≤ 64 then
    some credentialPrefix
  else
    none

/-! ## What is issued -/

namespace GatewayCredentialHasher

variable (H : GatewayCredentialHasher)

/-- `issue_pairing_code`, of the body that is drawn: the code, its prefix and its digest. -/
def issuePairingCode (body : Text) : Text × Text × List UInt8 :=
  let code := "ncp_".toList ++ body
  (code, body.take 12, H.digest "pairing-code" code)

/-- `f"ncg_{prefix}_{secret}"` with its digest and fingerprint. -/
def credentialOf (credentialPrefix secret : Text) : IssuedCredential :=
  let value := "ncg_".toList ++ credentialPrefix ++ '_' :: secret
  let digest := H.digest "credential" value
  ⟨value, credentialPrefix, digest, (hexText digest).take 16⟩

def derivedSecret (seed : Text) : Text :=
  rstripPadding (urlsafeB64encode
    (H.digest "credential-secret-a" seed ++ (H.digest "credential-secret-b" seed).take 4))

/-- `issue_credential(seed=seed)`. -/
def derivedCredential (seed : Text) : IssuedCredential :=
  H.credentialOf ((rstripPadding (urlsafeB64encode (H.digest "credential-prefix" seed))).take 12)
    (H.derivedSecret seed)

end GatewayCredentialHasher

/-- `f"{operation}:{connection.id}:{idempotency_key}"`, of a rotation. -/
def rotationSeed (connectionId : UUID) (idempotencyKey : Text) : Text :=
  "credential_rotate:".toList ++ (uuidStr connectionId).toList ++ ':' :: idempotencyKey

namespace GatewayCredentialHasher

variable (H : GatewayCredentialHasher)

/-- `idempotency_key`, of a rotation. -/
def rotationKey (connectionId : UUID) (idempotencyKey : Text) : List UInt8 :=
  H.digest "idempotency" (rotationSeed connectionId idempotencyKey)

def rotated (connectionId : UUID) (idempotencyKey : Text) : IssuedCredential :=
  H.derivedCredential (rotationSeed connectionId idempotencyKey)

end GatewayCredentialHasher

/-! ## Requests that differ -/

theorem rotationSeed_injective {id id' : UUID} {key key' : Text}
    (h : rotationSeed id key = rotationSeed id' key') : id = id' ∧ key = key' := by
  unfold rotationSeed at h
  rw [append_assoc, append_assoc] at h
  have hrest := append_cancel_left h
  obtain ⟨hid, hkey⟩ := append_inj hrest (by rw [length_uuidStr, length_uuidStr])
  exact ⟨uuidStr_injective (String.toList_injective hid), tail_eq_of_cons_eq hkey⟩

theorem message_injective {purpose : String} {value value' : Text}
    (h : GatewayCredentialHasher.message purpose value
      = GatewayCredentialHasher.message purpose value') : value = value' :=
  append_cancel_left h

def Collisionless (H : GatewayCredentialHasher) (messages : Text → Prop) : Prop :=
  ∀ m m', messages m → messages m' → H.hmac m = H.hmac m' → m = m'

section Digests

variable {H : GatewayCredentialHasher} {messages : Text → Prop}

theorem Collisionless.value_eq (h : Collisionless H messages) {purpose : String}
    {value value' : Text} (hvalue : messages (GatewayCredentialHasher.message purpose value))
    (hvalue' : messages (GatewayCredentialHasher.message purpose value'))
    (hdigest : H.digest purpose value = H.digest purpose value') : value = value' :=
  message_injective (h _ _ hvalue hvalue' hdigest)

theorem derivedCredential_value {seed seed' : Text}
    (h : (H.derivedCredential seed).value = (H.derivedCredential seed').value) :
    H.digest "credential-secret-a" seed = H.digest "credential-secret-a" seed' := by
  have hlength : ∀ purpose value, (H.digest purpose value).length = 32 := fun _ _ =>
    H.length_hmac _
  have htwelve : ∀ value, ((rstripPadding (urlsafeB64encode
      (H.digest "credential-prefix" value))).take 12).length = 12 := by
    intro value
    rw [rstripPadding_encode, length_take, length_sextets, hlength]
    rfl
  unfold GatewayCredentialHasher.derivedCredential GatewayCredentialHasher.credentialOf at h
  rw [append_assoc, append_assoc] at h
  obtain ⟨-, hsecret⟩ := append_inj (append_cancel_left h) (by rw [htwelve, htwelve])
  have hsecret := tail_eq_of_cons_eq hsecret
  unfold GatewayCredentialHasher.derivedSecret at hsecret
  rw [rstripPadding_encode, rstripPadding_encode] at hsecret
  have hdata := sextets_injective (by simp [hlength]) hsecret
  exact (append_inj hdata (by rw [hlength, hlength])).1

theorem Collisionless.rotated_injective (h : Collisionless H messages) {id id' : UUID}
    {key key' : Text}
    (hseed : messages (GatewayCredentialHasher.message "credential-secret-a" (rotationSeed id key)))
    (hseed' : messages (GatewayCredentialHasher.message "credential-secret-a"
      (rotationSeed id' key')))
    (hvalue : (H.rotated id key).value = (H.rotated id' key').value) : id = id' ∧ key = key' :=
  rotationSeed_injective (h.value_eq hseed hseed' (derivedCredential_value hvalue))

end Digests

end NewsCraft.Gateway
