import NewsCraft.Core.JsonString
import NewsCraft.Lib.Transition

/-!
# Encrypted secrets

`EncryptedSecretStore` keeps a secret under the active key of a ring, with the record's
identity and the key's name as associated data. A record is read with any ring that has that
key; a ring with another key by that name cannot read it, nor can a ciphertext be moved to
another record.

AES-GCM is ideal: what is decrypted was encrypted as it is, and no two keys or associated
data come to one ciphertext. An operation is given the record and leaves one, failed or not.
-/

namespace NewsCraft.Security.SecretStore

open Lib JsonString List Option

abbrev Text := List Char
abbrev Octets := List Nat

/-- Ideal authenticated encryption with associated data. -/
structure Aead where
  encrypt (key nonce plaintext aad : Octets) : Octets
  decrypt (key nonce ciphertext aad : Octets) : Option Octets
  decrypt_encrypt : ∀ key nonce plaintext aad,
    decrypt key nonce (encrypt key nonce plaintext aad) aad = some plaintext
  encrypt_of_decrypt : ∀ key nonce ciphertext aad plaintext,
    decrypt key nonce ciphertext aad = some plaintext → encrypt key nonce plaintext aad = ciphertext
  encrypt_inj : ∀ nonce key key' plaintext plaintext' aad aad',
    encrypt key nonce plaintext aad = encrypt key' nonce plaintext' aad' → key = key' ∧ aad = aad'

/-! ## Records and rings -/

inductive SecretStoreError where
  | secretAccessDenied
  | secretDecryptionFailed
  | secretKeyUnavailable
  | emptySecret
  deriving DecidableEq

structure EncryptedSecret where
  id : UUID
  purpose : Text
  ownerType : Text
  ownerId : UUID
  ciphertext : Octets
  nonce : Octets
  keyVersion : Text
  lastRotatedAt : Datetime

structure SecurityPrincipal where
  principalId : String
  scopes : List String

def SecurityPrincipal.permits (principal : SecurityPrincipal) (scope : String) : Bool :=
  principal.scopes.contains scope

/-- `MasterKeyRing`, as `__post_init__` accepts it. -/
structure MasterKeyRing where
  activeVersion : Text
  keys : Text → Option Octets
  active : keys activeVersion ≠ none
  checked : ∀ version key, keys version = some key →
    version ≠ [] ∧ version.length ≤ 32 ∧ key.length = 32

/-- `active_key`. -/
def MasterKeyRing.activeKey (ring : MasterKeyRing) : Octets :=
  (ring.keys ring.activeVersion).getD []

/-- `'"key":"value"'`. -/
def field (name : String) (value : Text) : Text := jsonString name.toList ++ ':' :: jsonString value

/-- `_aad`: the JSON text of the object with its keys in order. -/
def aadText (record : EncryptedSecret) (keyVersion : Text) : Text :=
  '{' :: field "id" (uuidStr record.id).toList ++ ',' :: field "key_version" keyVersion
    ++ ',' :: field "owner_id" (uuidStr record.ownerId).toList
    ++ ',' :: field "owner_type" record.ownerType
    ++ ',' :: field "purpose" record.purpose
    ++ ['}']

/-- `_aad`. -/
def aad (record : EncryptedSecret) (keyVersion : Text) : Octets :=
  Utf8.encode (aadText record keyVersion)

/-- `_plaintext`. -/
def plaintextOf (value : Text) : Except SecretStoreError Octets :=
  if value = [] then .error .emptySecret else .ok (Utf8.encode value)

/-- `plaintext.decode("utf-8")`: octets that are not the encoding of what is read raise. -/
def decodeStrict (octets : Octets) : Option Text :=
  if Utf8.encode (Utf8.decode octets) = octets then some (Utf8.decode octets) else none

/-! ## Operations -/

structure Request where
  ring : MasterKeyRing
  principal : SecurityPrincipal
  requiredScope : String
  /-- `secrets.token_bytes(12)`. -/
  nonce : Octets
  now : Datetime

def Request.permitted (request : Request) : Bool :=
  request.principal.permits request.requiredScope

variable (A : Aead)

/-- `_encrypt`: the record is written once all else is done. -/
def encryptRecord (request : Request) (value : Text) (record : EncryptedSecret) :
    EncryptedSecret × Except SecretStoreError Unit :=
  match plaintextOf value with
  | .error error => (record, .error error)
  | .ok plaintext =>
    ({ record with
        nonce := request.nonce
        ciphertext := A.encrypt request.ring.activeKey request.nonce plaintext
          (aad record request.ring.activeVersion)
        keyVersion := request.ring.activeVersion
        lastRotatedAt := request.now },
      .ok ())

/-- The record `create` begins with. -/
def newRecord (request : Request) (id : UUID) (purpose ownerType : Text) (ownerId : UUID) :
    EncryptedSecret where
  id := id
  purpose := purpose
  ownerType := ownerType
  ownerId := ownerId
  ciphertext := []
  nonce := []
  keyVersion := request.ring.activeVersion
  lastRotatedAt := request.now

/-- `rotate`; `create` does the same with a new record. -/
def rotate (request : Request) (value : Text) (record : EncryptedSecret) :
    EncryptedSecret × Except SecretStoreError Unit :=
  if request.permitted then encryptRecord A request value record
  else (record, .error .secretAccessDenied)

/-- `decrypt`. -/
def decrypt (request : Request) (record : EncryptedSecret) : Except SecretStoreError Text :=
  if request.permitted then
    match (request.ring.keys record.keyVersion).bind fun key =>
        (A.decrypt key record.nonce record.ciphertext (aad record record.keyVersion)).bind
          decodeStrict with
    | some value => .ok value
    | none => .error .secretDecryptionFailed
  else
    .error .secretAccessDenied

/-- `rewrap`. -/
def rewrap (request : Request) (record : EncryptedSecret) :
    EncryptedSecret × Except SecretStoreError Bool :=
  if record.keyVersion = request.ring.activeVersion then (record, .ok false)
  else
    match decrypt A request record with
    | .error error => (record, .error error)
    | .ok value =>
      match encryptRecord A request value record with
      | (record, .ok ()) => (record, .ok true)
      | (record, .error error) => (record, .error error)

/-! ## The store -/

/-- The records, and of each the value last written and the key it was written under. -/
structure Store where
  records : UUID → Option EncryptedSecret
  values : UUID → Text
  writtenUnder : UUID → Octets

def Store.empty : Store where
  records _ := none
  values _ := []
  writtenUnder _ := []

inductive Event where
  | create (request : Request) (id : UUID) (purpose ownerType : Text) (ownerId : UUID) (value : Text)
  | rotate (request : Request) (id : UUID) (value : Text)
  | rewrap (request : Request) (id : UUID)

namespace Event

def request : Event → Request
  | .create request .. => request
  | .rotate request .. => request
  | .rewrap request .. => request

def id : Event → UUID
  | .create _ id .. => id
  | .rotate _ id _ => id
  | .rewrap _ id => id

def value? : Event → Option Text
  | .create _ _ _ _ _ value => some value
  | .rotate _ _ value => some value
  | .rewrap _ _ => none

end Event

/-- The store with the record that an operation leaves. -/
def Store.withRecord (store : Store) (record : EncryptedSecret) : Store :=
  { store with records := fun id => if id = record.id then some record else store.records id }

def Store.written (store : Store) (id : UUID) (value : Text) (key : Octets) : Store :=
  { store with
    values := fun other => if other = id then value else store.values other
    writtenUnder := fun other => if other = id then key else store.writtenUnder other }

namespace Store

variable (store : Store)

/-- `create`; an id that is taken is refused by the table. -/
def create (request : Request) (record : EncryptedSecret) (value : Text) : Store :=
  match store.records record.id with
  | some _ => store
  | none =>
    match SecretStore.rotate A request value record with
    | (record, .ok ()) =>
      (store.withRecord record).written record.id value request.ring.activeKey
    | (_, .error _) => store

def rotate (request : Request) (id : UUID) (value : Text) : Store :=
  match store.records id with
  | none => store
  | some record =>
    match SecretStore.rotate A request value record with
    | (record, .ok ()) =>
      (store.withRecord record).written record.id value request.ring.activeKey
    | (record, .error _) => store.withRecord record

def rewrap (request : Request) (id : UUID) : Store :=
  match store.records id with
  | none => store
  | some record =>
    match SecretStore.rewrap A request record with
    | (record, .ok true) =>
      (store.withRecord record).written record.id (store.values record.id) request.ring.activeKey
    | (record, _) => store.withRecord record

def after : Event → Store
  | .create request id purpose ownerType ownerId value =>
    store.create A request (newRecord request id purpose ownerType ownerId) value
  | .rotate request id value => store.rotate A request id value
  | .rewrap request id => store.rewrap A request id

def result : Event → Except SecretStoreError Bool
  | .create request id purpose ownerType ownerId value =>
    match store.records id with
    | some _ => .ok false
    | none =>
      (SecretStore.rotate A request value
        (newRecord request id purpose ownerType ownerId)).2.map fun _ => true
  | .rotate request id value =>
    match store.records id with
    | some record => (SecretStore.rotate A request value record).2.map fun _ => true
    | none => .ok false
  | .rewrap request id =>
    match store.records id with
    | some record => (SecretStore.rewrap A request record).2
    | none => .ok false

end Store

def system : System Store Event where
  init store := store = Store.empty
  step store event store' := store' = store.after A event

/-! ## Associated data -/

theorem decodeStrict_encode (value : Text) : decodeStrict (Utf8.encode value) = some value := by
  simp [decodeStrict, Utf8.decode_encode]

theorem encode_injective {text text' : Text} (h : Utf8.encode text = Utf8.encode text') :
    text = text' := by
  rw [← Utf8.decode_encode text, h, Utf8.decode_encode]

variable {value value' : Text}

theorem field_append_inj {name : String} {rest rest' : Text}
    (h : field name value ++ rest = field name value' ++ rest') :
    value = value' ∧ rest = rest' := by
  simp only [field, append_assoc, cons_append] at h
  exact jsonString_append_inj (List.cons.inj (append_cancel_left h)).2

theorem uuidText_injective {id id' : UUID} (h : (uuidStr id).toList = (uuidStr id').toList) :
    id = id' :=
  uuidStr_injective (String.toList_inj.mp h)

variable {record : EncryptedSecret}

/-- **The associated data tells records and key versions apart.** -/
theorem aad_injective {other : EncryptedSecret} {version version' : Text}
    (h : aad record version = aad other version') :
    record.id = other.id ∧ record.purpose = other.purpose ∧ record.ownerType = other.ownerType ∧
      record.ownerId = other.ownerId ∧ version = version' := by
  have htext := encode_injective h
  simp only [aadText, append_assoc, cons_append] at htext
  obtain ⟨hid, htext⟩ := field_append_inj (List.cons.inj htext).2
  obtain ⟨hversion, htext⟩ := field_append_inj (List.cons.inj htext).2
  obtain ⟨howner, htext⟩ := field_append_inj (List.cons.inj htext).2
  obtain ⟨htype, htext⟩ := field_append_inj (List.cons.inj htext).2
  obtain ⟨hpurpose, -⟩ := field_append_inj (List.cons.inj htext).2
  exact ⟨uuidText_injective hid, hpurpose, htype, uuidText_injective howner, hversion⟩

/-! ## What an operation does to a record -/

variable {A}

/-- The record is what the value comes to under the key, with its own associated data. -/
def Holds (A : Aead) (record : EncryptedSecret) (key : Octets) (value : Text) : Prop :=
  record.ciphertext = A.encrypt key record.nonce (Utf8.encode value) (aad record record.keyVersion)

variable {record' : EncryptedSecret}

theorem encryptRecord_holds {request : Request}
    (h : encryptRecord A request value record = (record', .ok ())) :
    record'.id = record.id ∧ Holds A record' request.ring.activeKey value := by
  unfold encryptRecord plaintextOf at h
  by_cases hvalue : value = []
  · simp [hvalue] at h
  simp only [if_neg hvalue, Prod.mk.injEq, and_true] at h
  subst h
  exact ⟨rfl, rfl⟩

theorem encryptRecord_error {request : Request} {error : SecretStoreError}
    (h : encryptRecord A request value record = (record', .error error)) : record' = record := by
  unfold encryptRecord plaintextOf at h
  by_cases hvalue : value = []
  · simp only [if_pos hvalue, Prod.mk.injEq] at h
    exact h.1.symm
  · simp [hvalue] at h

theorem rotate_holds {request : Request} (h : rotate A request value record = (record', .ok ())) :
    record'.id = record.id ∧ Holds A record' request.ring.activeKey value := by
  unfold rotate at h
  by_cases hpermitted : request.permitted = true
  · rw [if_pos hpermitted] at h
    exact encryptRecord_holds h
  · rw [if_neg hpermitted] at h
    cases h

theorem rotate_error {request : Request} {error : SecretStoreError}
    (h : rotate A request value record = (record', .error error)) : record' = record := by
  unfold rotate at h
  by_cases hpermitted : request.permitted = true
  · rw [if_pos hpermitted] at h
    exact encryptRecord_error h
  · rw [if_neg hpermitted] at h
    cases h
    rfl

theorem decrypt_ok {request : Request} (h : decrypt A request record = .ok value) :
    ∃ key, request.ring.keys record.keyVersion = some key ∧ Holds A record key value := by
  unfold decrypt at h
  by_cases hpermitted : request.permitted = true
  · rw [if_pos hpermitted] at h
    split at h
    · rename_i read hread
      obtain ⟨key, hkey, hplaintext⟩ := bind_eq_some_iff.mp hread
      obtain ⟨plaintext, hdecrypted, hdecoded⟩ := bind_eq_some_iff.mp hplaintext
      refine ⟨key, hkey, ?_⟩
      unfold decodeStrict at hdecoded
      by_cases hstrict : Utf8.encode (Utf8.decode plaintext) = plaintext
      · rw [if_pos hstrict] at hdecoded
        cases hdecoded
        cases h
        have hencrypted := A.encrypt_of_decrypt _ _ _ _ _ hdecrypted
        rw [← hstrict] at hencrypted
        exact hencrypted.symm
      · rw [if_neg hstrict] at hdecoded
        cases hdecoded
    · cases h
  · rw [if_neg hpermitted] at h
    cases h

variable {key key' : Octets}

theorem Holds.unique (h : Holds A record key value) (h' : Holds A record key' value') :
    key = key' ∧ value = value' := by
  have heq := h.symm.trans h'
  obtain ⟨rfl, -⟩ := A.encrypt_inj _ _ _ _ _ _ _ heq
  have hread := A.decrypt_encrypt key record.nonce (Utf8.encode value) (aad record record.keyVersion)
  rw [heq, A.decrypt_encrypt] at hread
  exact ⟨rfl, (encode_injective (Option.some.inj hread)).symm⟩

theorem decrypt_of_holds {request : Request} (h : Holds A record key value)
    (hpermitted : request.permitted = true) (hkey : request.ring.keys record.keyVersion = some key)
    : decrypt A request record = .ok value := by
  unfold decrypt
  rw [if_pos hpermitted, hkey, bind_some, h, A.decrypt_encrypt, bind_some, decodeStrict_encode]

theorem Holds.same {moved : EncryptedSecret} (h : Holds A record key value)
    (hmoved : Holds A moved key' value') (hciphertext : moved.ciphertext = record.ciphertext)
    (hnonce : moved.nonce = record.nonce) :
    record.id = moved.id ∧ record.purpose = moved.purpose ∧ record.ownerType = moved.ownerType ∧
      record.ownerId = moved.ownerId ∧ record.keyVersion = moved.keyVersion := by
  unfold Holds at h hmoved
  rw [hciphertext, h, hnonce] at hmoved
  exact aad_injective (A.encrypt_inj _ _ _ _ _ _ _ hmoved).2

theorem rewrap_true {request : Request} (h : rewrap A request record = (record', .ok true)) :
    ∃ value, decrypt A request record = .ok value ∧
      record'.id = record.id ∧ Holds A record' request.ring.activeKey value := by
  unfold rewrap at h
  by_cases hcurrent : record.keyVersion = request.ring.activeVersion
  · rw [if_pos hcurrent] at h
    cases h
  · rw [if_neg hcurrent] at h
    cases hdecrypt : decrypt A request record with
    | error error =>
      rw [hdecrypt] at h
      cases h
    | ok value =>
      rw [hdecrypt] at h
      dsimp only at h
      split at h
      · rename_i written hwritten
        cases h
        exact ⟨value, rfl, encryptRecord_holds hwritten⟩
      · cases h

theorem rewrap_other {request : Request} {result : Except SecretStoreError Bool}
    (h : rewrap A request record = (record', result)) (hresult : result ≠ .ok true) :
    record' = record := by
  unfold rewrap at h
  by_cases hcurrent : record.keyVersion = request.ring.activeVersion
  · rw [if_pos hcurrent] at h
    cases h
    rfl
  · rw [if_neg hcurrent] at h
    cases hdecrypt : decrypt A request record with
    | error error =>
      rw [hdecrypt] at h
      cases h
      rfl
    | ok value =>
      rw [hdecrypt] at h
      dsimp only at h
      split at h
      · cases h
        exact absurd rfl hresult
      · rename_i written error hwritten
        cases h
        exact encryptRecord_error hwritten

/-! ## Every store -/

/-- Each record stands under its id and holds the value last written. -/
def Faithful (A : Aead) (store : Store) : Prop :=
  ∀ id record, store.records id = some record →
    record.id = id ∧ Holds A record (store.writtenUnder id) (store.values id)

namespace Store

variable {store : Store}

theorem withRecord_self {record : EncryptedSecret} (h : store.records record.id = some record) :
    store.withRecord record = store := by
  have hrecords : (store.withRecord record).records = store.records := by
    funext id
    by_cases hid : id = record.id
    · subst hid
      simp [withRecord, h]
    · simp [withRecord, hid]
  unfold withRecord at hrecords ⊢
  dsimp only at hrecords
  rw [hrecords]

/-- An event either writes a record that holds its value, or leaves the store as it is. -/
inductive Change (A : Aead) (store : Store) (event : Event) : Prop where
  | kept (hresult : store.result A event ≠ .ok true) (h : store.after A event = store)
  | wrote (record : EncryptedSecret) (value : Text) (hresult : store.result A event = .ok true)
      (hid : record.id = event.id)
      (hvalue : event.value? = some value ∨ event.value? = none ∧ value = store.values event.id)
      (hholds : Holds A record event.request.ring.activeKey value)
      (h : store.after A event =
        (store.withRecord record).written record.id value event.request.ring.activeKey)

theorem change (h : Faithful A store) (event : Event) : Change A store event := by
  cases event with
  | create request id purpose ownerType ownerId value =>
    cases hrecords : store.records id with
    | some record =>
      refine .kept ?_ ?_
      · simp [result, hrecords]
      · simp [after, create, newRecord, hrecords]
    | none =>
      rcases hrotate : SecretStore.rotate A request value
        (newRecord request id purpose ownerType ownerId) with ⟨record, outcome⟩
      have hnew : store.records (newRecord request id purpose ownerType ownerId).id = none :=
        hrecords
      cases outcome with
      | error error =>
        refine .kept ?_ ?_
        · simp [result, hrecords, hrotate, Except.map]
        · simp only [after, create, hnew, hrotate]
      | ok _ =>
        obtain ⟨hid, hholds⟩ := rotate_holds hrotate
        refine .wrote record value ?_ hid (.inl rfl) hholds ?_
        · simp [result, hrecords, hrotate, Except.map]
        · simp only [after, create, hnew, hrotate, Event.request]
  | rotate request id value =>
    cases hrecords : store.records id with
    | none =>
      refine .kept ?_ ?_
      · simp [result, hrecords]
      · simp [after, rotate, hrecords]
    | some record =>
      obtain ⟨rfl, -⟩ := h id record hrecords
      rcases hrotate : SecretStore.rotate A request value record with ⟨record', outcome⟩
      cases outcome with
      | error error =>
        refine .kept ?_ ?_
        · simp [result, hrecords, hrotate, Except.map]
        obtain rfl := rotate_error hrotate
        simp only [after, rotate, hrecords, hrotate]
        exact withRecord_self hrecords
      | ok _ =>
        obtain ⟨hid, hholds⟩ := rotate_holds hrotate
        refine .wrote record' value ?_ hid (.inl rfl) hholds ?_
        · simp [result, hrecords, hrotate, Except.map]
        · simp only [after, rotate, hrecords, hrotate, Event.request]
  | rewrap request id =>
    cases hrecords : store.records id with
    | none =>
      refine .kept ?_ ?_
      · simp [result, hrecords]
      · simp [after, rewrap, hrecords]
    | some record =>
      obtain ⟨rfl, hrecord⟩ := h id record hrecords
      rcases hrewrap : SecretStore.rewrap A request record with ⟨record', outcome⟩
      by_cases htrue : outcome = .ok true
      · subst htrue
        obtain ⟨value, hread, hid, hholds⟩ := rewrap_true hrewrap
        obtain ⟨key, -, hkept⟩ := decrypt_ok hread
        obtain ⟨-, rfl⟩ := hkept.unique hrecord
        refine .wrote record' _ ?_ hid (.inr ⟨rfl, rfl⟩) hholds ?_
        · simp [result, hrecords, hrewrap]
        · simp only [after, rewrap, hrecords, hrewrap, Event.request, Event.id, hid]
      · refine .kept ?_ ?_
        · simpa [result, hrecords, hrewrap] using htrue
        obtain rfl := rewrap_other hrewrap htrue
        simp only [after, rewrap, hrecords, hrewrap]
        cases outcome with
        | error error => exact withRecord_self hrecords
        | ok wrote =>
          cases wrote with
          | false => exact withRecord_self hrecords
          | true => exact absurd rfl htrue

theorem written_apply (record : EncryptedSecret) (value : Text) (key : Octets) (id : UUID) :
    let store' := (store.withRecord record).written record.id value key
    (store'.records id = if id = record.id then some record else store.records id) ∧
      (store'.values id = if id = record.id then value else store.values id) ∧
      store'.writtenUnder id = if id = record.id then key else store.writtenUnder id :=
  ⟨rfl, rfl, rfl⟩

end Store

theorem Faithful.written {store : Store} (h : Faithful A store) (hholds : Holds A record key value)
    : Faithful A ((store.withRecord record).written record.id value key) := by
  intro id other hother
  obtain ⟨hrecords, hvalues, hkeys⟩ := store.written_apply record value key id
  rw [hrecords] at hother
  rw [hvalues, hkeys]
  by_cases hid : id = record.id
  · rw [if_pos hid] at hother ⊢
    cases hother
    exact ⟨hid.symm, by rwa [if_pos hid]⟩
  · rw [if_neg hid] at hother ⊢
    rw [if_neg hid]
    exact h id other hother

theorem Faithful.after {store : Store} (h : Faithful A store) (event : Event) :
    Faithful A (store.after A event) := by
  cases store.change h event with
  | kept _ hafter =>
    rw [hafter]
    exact h
  | wrote record value _ _ _ hholds hafter =>
    rw [hafter]
    exact h.written hholds

theorem faithful {store : Store} (h : (system A).Reachable store) : Faithful A store := by
  refine System.invariant ?_ ?_ h
  · intro s hinit id record hrecord
    cases hinit
    cases hrecord
  · intro s event s' _ hs hstep
    cases hstep
    exact hs.after event

/-! ## Reading what was written -/

/-- With the key the record was written under the value is read, with another key nothing. -/
def ReadAs (A : Aead) (store : Store) (id : UUID) (value : Text) : Prop :=
  ∀ record, store.records id = some record → ∀ request key, request.permitted = true →
    request.ring.keys record.keyVersion = some key → decrypt A request record =
        if key = store.writtenUnder id then .ok value else .error .secretDecryptionFailed

/-- The ciphertext and nonce of one record in another. -/
structure Moved (record moved : EncryptedSecret) : Prop where
  ciphertext : moved.ciphertext = record.ciphertext
  nonce : moved.nonce = record.nonce
  differs : moved.id ≠ record.id ∨ moved.purpose ≠ record.purpose ∨
    moved.ownerType ≠ record.ownerType ∨ moved.ownerId ≠ record.ownerId ∨
      moved.keyVersion ≠ record.keyVersion

structure SecretsBound (A : Aead) (store : Store) : Prop where
  read : ∀ id, ReadAs A store id (store.values id)
  moved : ∀ id record, store.records id = some record → ∀ moved, Moved record moved →
    ∀ request, ∃ error, decrypt A request moved = .error error
  unwritten : ∀ event, store.result A event ≠ .ok true → store.after A event = store
  denied : ∀ event : Event, event.request.permitted = false → store.after A event = store
  written : ∀ event value, event.value? = some value → store.result A event = .ok true →
    ReadAs A (store.after A event) event.id value
  rewrapped : ∀ request id, ReadAs A (store.after A (.rewrap request id)) id (store.values id)

theorem decrypt_error_of_denied {request : Request} (h : request.permitted = false) :
    decrypt A request record = .error .secretAccessDenied := by
  unfold decrypt
  rw [if_neg (by simp [h])]

theorem Faithful.readAs {store : Store} (h : Faithful A store) (id : UUID) :
    ReadAs A store id (store.values id) := by
  intro record hrecord request key hpermitted hkey
  obtain ⟨-, hholds⟩ := h id record hrecord
  by_cases hsame : key = store.writtenUnder id
  · rw [if_pos hsame]
    exact decrypt_of_holds hholds hpermitted (hsame ▸ hkey)
  · rw [if_neg hsame]
    cases hread : decrypt A request record with
    | ok value =>
      obtain ⟨key', hkey', hholds'⟩ := decrypt_ok hread
      cases hkey.symm.trans hkey'
      exact absurd (hholds'.unique hholds).1 hsame
    | error error =>
      unfold decrypt at hread
      rw [if_pos hpermitted] at hread
      split at hread
      · cases hread
      · exact hread.symm

theorem Faithful.moved {store : Store} (h : Faithful A store) {id : UUID} {moved : EncryptedSecret}
    (hrecord : store.records id = some record) (hmoved : Moved record moved) (request : Request) :
    ∃ error, decrypt A request moved = .error error := by
  cases hread : decrypt A request moved with
  | error error => exact ⟨error, rfl⟩
  | ok value =>
    obtain ⟨key, -, hholds⟩ := decrypt_ok hread
    have hsame := (h id record hrecord).2.same hholds hmoved.ciphertext hmoved.nonce
    have hdiffers := hmoved.differs
    simp [hsame] at hdiffers

theorem Store.result_of_denied {store : Store} {event : Event}
    (h : event.request.permitted = false) : store.result A event ≠ .ok true := by
  cases event with
  | create request id _ _ _ _ | rotate request id _ =>
    have hdenied : request.permitted = false := h
    unfold result
    cases hrecords : store.records id <;> simp [hrecords, SecretStore.rotate, hdenied, Except.map]
  | rewrap request id =>
    have hdenied : request.permitted = false := h
    unfold result
    cases hrecords : store.records id with
    | none => simp [hrecords]
    | some record =>
      simp only [hrecords, SecretStore.rewrap, decrypt_error_of_denied hdenied]
      split <;> simp

theorem Faithful.unwritten {store : Store} (h : Faithful A store) {event : Event}
    (hresult : store.result A event ≠ .ok true) : store.after A event = store := by
  cases store.change h event with
  | kept _ hafter => exact hafter
  | wrote _ _ hwrote => exact absurd hwrote hresult

theorem Faithful.values_after {store : Store} (h : Faithful A store) (event : Event) :
    (store.after A event).values event.id = match event.value?, store.result A event with
      | some value, .ok true => value
      | _, _ => store.values event.id := by
  cases store.change h event with
  | kept hresult hafter =>
    rw [hafter]
    split
    · rename_i hok
      exact absurd hok hresult
    · rfl
  | wrote record value hresult hid hvalue _ hafter =>
    rw [hafter, hresult, ← hid]
    obtain ⟨-, hvalues, -⟩ := store.written_apply record value event.request.ring.activeKey
      record.id
    rw [hvalues, if_pos rfl]
    rcases hvalue with hvalue | ⟨hvalue, rfl⟩
    · rw [hvalue]
    · rw [hvalue, hid]

/-- **A secret is read as it was last written, and only where it was written.** -/
theorem secrets_bound {store : Store} (h : (system A).Reachable store) : SecretsBound A store := by
  have hfaithful := faithful h
  refine ⟨hfaithful.readAs, ?_, ?_, ?_, ?_, ?_⟩
  · intro id record hrecord moved hmoved request
    exact hfaithful.moved hrecord hmoved request
  · intro event hresult
    exact hfaithful.unwritten hresult
  · intro event hdenied
    exact hfaithful.unwritten (Store.result_of_denied hdenied)
  · intro event value hvalue hresult
    have hread := (hfaithful.after event).readAs event.id
    rw [hfaithful.values_after event, hvalue, hresult] at hread
    exact hread
  · intro request id
    have hread := (hfaithful.after (.rewrap request id)).readAs id
    have hvalues := hfaithful.values_after (.rewrap request id)
    simp only [Event.id, Event.value?] at hvalues
    rwa [hvalues] at hread

/-! ## A key of the same name -/

/-- What stands before the text, so that it can be told what it was written under. -/
def tag (key aad : Octets) : Octets := key.length :: key ++ aad.length :: aad

theorem tag_append_inj {aad aad' rest rest' : Octets}
    (h : tag key aad ++ rest = tag key' aad' ++ rest') : key = key' ∧ aad = aad' := by
  simp only [tag, append_assoc, cons_append, List.cons.injEq] at h
  obtain ⟨hkey, hlater⟩ := append_inj h.2 h.1
  simp only [List.cons.injEq] at hlater
  exact ⟨hkey, (append_inj hlater.2 hlater.1).1⟩

/-- A cipher that hides nothing and lets nothing be moved. -/
def taggedAead : Aead where
  encrypt key _ plaintext aad := tag key aad ++ plaintext
  decrypt key _ ciphertext aad :=
    if ciphertext.take (tag key aad).length = tag key aad then
      some (ciphertext.drop (tag key aad).length)
    else none
  decrypt_encrypt key _ plaintext aad := by simp
  encrypt_of_decrypt key _ ciphertext aad plaintext h := by
    by_cases htag : ciphertext.take (tag key aad).length = tag key aad
    · rw [if_pos htag] at h
      cases h
      conv_rhs => rw [← take_append_drop (tag key aad).length ciphertext, htag]
    · rw [if_neg htag] at h
      cases h
  encrypt_inj _ key key' plaintext plaintext' aad aad' h := tag_append_inj h

def ringOf (octet : Nat) : MasterKeyRing where
  activeVersion := ['v', '1']
  keys version := if version = ['v', '1'] then some (List.replicate 32 octet) else none
  active := by simp
  checked version key h := by
    by_cases hversion : version = ['v', '1']
    · rw [if_pos hversion] at h
      cases h
      subst hversion
      simp
    · rw [if_neg hversion] at h
      cases h

def requestOf (octet : Nat) : Request where
  ring := ringOf octet
  principal := { principalId := "operator", scopes := ["secrets.use"] }
  requiredScope := "secrets.use"
  nonce := List.replicate 12 7
  now := 0

def oneSecret : Store :=
  Store.empty.after taggedAead (.create (requestOf 1) 5 "api".toList "provider".toList 9 "k".toList)

theorem oneSecret_reachable : (system taggedAead).Reachable oneSecret :=
  .tail (.init rfl) rfl

/-- The ring has the version of the record, but not the key. -/
theorem not_read_under_other_key : ¬ ∀ (A : Aead) (store : Store), (system A).Reachable store →
      ∀ id record request, store.records id = some record → request.permitted = true →
        request.ring.keys record.keyVersion ≠ none →
          decrypt A request record = .ok (store.values id) := by
  intro hall
  obtain ⟨record, hrecord⟩ : ∃ record, oneSecret.records 5 = some record := ⟨_, rfl⟩
  have hversion : record.keyVersion = ['v', '1'] := by
    cases hrecord
    rfl
  have hkey : (requestOf 2).ring.keys record.keyVersion = some (List.replicate 32 2) := by
    rw [hversion]
    rfl
  have hread := hall taggedAead oneSecret oneSecret_reachable 5 record (requestOf 2) hrecord
    (by decide) (by simp [hkey])
  have hother : List.replicate 32 2 ≠ oneSecret.writtenUnder 5 := by decide
  rw [(faithful oneSecret_reachable).readAs 5 record hrecord (requestOf 2) _ (by decide) hkey,
    if_neg hother] at hread
  cases hread

theorem oneSecret_bound : SecretsBound taggedAead oneSecret := secrets_bound oneSecret_reachable

end NewsCraft.Security.SecretStore
