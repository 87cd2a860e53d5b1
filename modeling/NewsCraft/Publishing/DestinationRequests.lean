import NewsCraft.Lib.Checked
import NewsCraft.Publishing.DestinationChecks

/-!
# What requests leave of a healthy destination

Every request that changes what a destination is reached with resets it. So what is healthy
after a request was healthy before it, with the same configuration. A rotation writes a
secret in place, and no other destination or proxy has that secret.
-/

namespace NewsCraft.Publishing.Telegram

open Lib Checked Table List

/-! ## Secrets and their owners -/

namespace TelegramDb

variable {E : TelegramEnv} {db db' : TelegramDb} {secret : EncryptedSecret} {secretId ownerId : UUID}
  {purpose : SecretPurpose}

theorem secretValue_congr {secretId : Option UUID}
    (h : ∀ id ∈ secretId, db'.secrets.lookup id = db.secrets.lookup id) :
    db'.secretValue secretId = db.secretValue secretId := by
  cases secretId with
  | none => rfl
  | some id =>
    change (db'.secrets.lookup id).map _ = (db.secrets.lookup id).map _
    rw [h id rfl]

theorem route_congr {profile profile' : TelegramProxyProfile}
    (hsnapshot : profile'.snapshot = profile.snapshot)
    (husername : profile'.usernameSecretId = profile.usernameSecretId)
    (hpassword : profile'.passwordSecretId = profile.passwordSecretId)
    (hnames : ∀ id ∈ profile.usernameSecretId, db'.secrets.lookup id = db.secrets.lookup id)
    (hwords : ∀ id ∈ profile.passwordSecretId, db'.secrets.lookup id = db.secrets.lookup id) :
    db'.route profile' = db.route profile := by
  have htype : profile'.proxyType = profile.proxyType := congrArg ProxySnapshot.proxyType hsnapshot
  have hhost : profile'.host = profile.host := congrArg ProxySnapshot.host hsnapshot
  have hport : profile'.port = profile.port := congrArg ProxySnapshot.port hsnapshot
  unfold route credentials
  rw [htype, hhost, hport, husername, hpassword, secretValue_congr hnames, secretValue_congr hwords]

/-! ### Creating -/

theorem createSecret_ok (h : db.createSecret secret = .ok db') : db.secrets.lookup secret.id = none
      ∧ db' = { db with secrets := db.secrets.insert secret } := by
  unfold createSecret at h
  split_ifs at h with htaken
  cases h
  exact ⟨by simpa using htaken, rfl⟩

theorem lookup_createSecret (h : db.createSecret secret = .ok db') (id : UUID)
    (hthere : (db.secrets.lookup id).isSome) : db'.secrets.lookup id = db.secrets.lookup id := by
  obtain ⟨hfree, rfl⟩ := createSecret_ok h
  have hne : id ≠ secret.id := by
    intro heq
    rw [heq, hfree] at hthere
    cases hthere
  exact (lookup_insert hfree).2 id hne

theorem owned_createSecret (h : db.createSecret secret = .ok db') :
    Owned db' secret.id secret.ownerId secret.purpose := by
  obtain ⟨hfree, rfl⟩ := createSecret_ok h
  exact ⟨secret.value, (lookup_insert hfree).1⟩

/-! ### Rotating -/

theorem lookup_rotateSecret_of_ne {value : String} {id : UUID} (hne : id ≠ secret.id) :
    (db.rotateSecret secret value).secrets.lookup id = db.secrets.lookup id :=
  lookup_put_of_ne hne

theorem lookup_rotateSecret {value : String} (h : db.secrets.lookup secret.id = some secret) :
    (db.rotateSecret secret value).secrets.lookup secret.id = some { secret with value } :=
  lookup_put_self (t := db.secrets) (r := { secret with value }) (y := secret) h

/-! ### Deleting -/

variable {deleted : Option UUID}

theorem lookup_deleteSecret_of_ne (db : TelegramDb) (id : UUID) (hne : some id ≠ deleted) :
    (db.deleteSecret deleted).secrets.lookup id = db.secrets.lookup id := by
  cases deleted with
  | none => rfl
  | some deleted =>
    refine lookup_erase_of_ne ?_
    intro h
    exact hne (congrArg some h)

theorem deleteSecret_destinations : (db.deleteSecret deleted).destinations = db.destinations := by
  cases deleted <;> rfl

theorem deleteSecret_proxies : (db.deleteSecret deleted).proxies = db.proxies := by
  cases deleted <;> rfl

end TelegramDb

variable {id : UUID}

theorem Owned.ne {db : TelegramDb} {id' ownerId ownerId' : UUID} {purpose purpose' : SecretPurpose}
    (h : Owned db id ownerId purpose) (h' : Owned db id' ownerId' purpose')
    (hne : ownerId ≠ ownerId' ∨ purpose ≠ purpose') : id ≠ id' := by
  intro heq
  subst heq
  obtain ⟨value, hvalue⟩ := h
  obtain ⟨value', hvalue'⟩ := h'
  have hsame := Option.some.inj (hvalue.symm.trans hvalue')
  rcases hne with howner | hpurpose
  · exact howner (congrArg EncryptedSecret.ownerId hsame)
  · exact hpurpose (congrArg EncryptedSecret.purpose hsame)

theorem Owned.congr {db db' : TelegramDb} {ownerId : UUID} {purpose : SecretPurpose}
    (h : Owned db id ownerId purpose) (hsame : db'.secrets.lookup id = db.secrets.lookup id) :
    Owned db' id ownerId purpose := by
  obtain ⟨value, hvalue⟩ := h
  exact ⟨value, hsame.trans hvalue⟩

theorem Owned.isSome {db : TelegramDb} {ownerId : UUID} {purpose : SecretPurpose}
    (h : Owned db id ownerId purpose) : (db.secrets.lookup id).isSome := by
  obtain ⟨value, hvalue⟩ := h
  rw [hvalue]
  rfl

/-! ## Sound tables -/

/-- A destination or a proxy refers to a secret, for a purpose. -/
inductive Refers (destinations : Table Destination) (proxies : Table TelegramProxyProfile) :
    UUID → UUID → SecretPurpose → Prop where
  | token {destination : Destination} {id : UUID} (hmem : destination ∈ destinations.rows)
      (h : id ∈ destination.secretId) : Refers destinations proxies id destination.id .telegramBotToken
  | username {profile : TelegramProxyProfile} {id : UUID} (hmem : profile ∈ proxies.rows)
      (h : id ∈ profile.usernameSecretId) : Refers destinations proxies id profile.id .proxyUsername
  | password {profile : TelegramProxyProfile} {id : UUID} (hmem : profile ∈ proxies.rows)
      (h : id ∈ profile.passwordSecretId) : Refers destinations proxies id profile.id .proxyPassword

section

variable {db : TelegramDb} {ownerId : UUID} {purpose : SecretPurpose}

theorem Sound.owned (hsound : Sound db) (h : Refers db.destinations db.proxies id ownerId purpose) :
    Owned db id ownerId purpose := by
  cases h with
  | token hmem h => exact hsound.token _ hmem _ h
  | username hmem h => exact hsound.username _ hmem _ h
  | password hmem h => exact hsound.password _ hmem _ h

theorem sound_of_owned
    (howned : ∀ {id ownerId purpose}, Refers db.destinations db.proxies id ownerId purpose →
      Owned db id ownerId purpose)
    (hproxy : ∀ destination ∈ db.destinations.rows, ∀ id ∈ destination.proxyProfileId,
      (db.proxies.lookup id).isSome) : Sound db where
  token _ hmem _ h := howned (.token hmem h)
  proxy := hproxy
  username _ hmem _ h := howned (.username hmem h)
  password _ hmem _ h := howned (.password hmem h)

end

/-- Whatever is healthy afterwards was healthy before, with the same configuration. -/
def Settles (db db' : TelegramDb) : Prop :=
  ∀ destination' ∈ db'.destinations.rows, destination'.healthStatus = .healthy →
    ∃ destination ∈ db.destinations.rows, destination.id = destination'.id
      ∧ destination.healthStatus = .healthy
      ∧ db.configuration destination = db'.configuration destination'

/-- What a healthy destination keeps in a transaction that settles. -/
structure Kept (db db' : TelegramDb) (destination destination' : Destination) : Prop where
  id : destination.id = destination'.id
  healthy : destination.healthStatus = .healthy
  target : destination.targetRef = destination'.targetRef
  secretId : destination.secretId = destination'.secretId
  proxyProfileId : destination.proxyProfileId = destination'.proxyProfileId
  token : ∀ id ∈ destination.secretId, db'.secrets.lookup id = db.secrets.lookup id
  route : ∀ id ∈ destination.proxyProfileId,
    (db'.proxies.lookup id).map db'.route = (db.proxies.lookup id).map db.route

theorem Kept.row {db db' : TelegramDb} {destination : Destination}
    (hhealthy : destination.healthStatus = .healthy) (hproxies : db'.proxies = db.proxies)
    (hsecrets : db'.secrets = db.secrets) : Kept db db' destination destination := by
  obtain ⟨destinations, proxies, secrets⟩ := db'
  cases hproxies
  cases hsecrets
  exact ⟨rfl, hhealthy, rfl, rfl, rfl, fun _ _ => rfl, fun _ _ => rfl⟩

theorem Kept.configuration {db db' : TelegramDb} {destination destination' : Destination}
    (h : Kept db db' destination destination') :
    db.configuration destination = db'.configuration destination' := by
  unfold TelegramDb.configuration
  have htoken := TelegramDb.secretValue_congr h.token
  have hroute : (destination.proxyProfileId.bind db'.proxies.lookup).map db'.route
      = (destination.proxyProfileId.bind db.proxies.lookup).map db.route := by
    cases hproxy : destination.proxyProfileId with
    | none => rfl
    | some id => exact h.route id hproxy
  rw [h.target, ← h.secretId, ← h.proxyProfileId, htoken, hroute]

theorem settles_of_kept {db db' : TelegramDb}
    (h : ∀ destination' ∈ db'.destinations.rows, destination'.healthStatus = .healthy →
      ∃ destination ∈ db.destinations.rows, Kept db db' destination destination') :
    Settles db db' := by
  intro destination' hmem hhealthy
  obtain ⟨destination, hrow, hkept⟩ := h destination' hmem hhealthy
  exact ⟨destination, hrow, hkept.id, hkept.healthy, hkept.configuration⟩

/-- Tables that stay sound, with nothing healthy but what was so as it is configured. -/
structure Settled (db db' : TelegramDb) : Prop where
  sound : Sound db'
  settles : Settles db db'

theorem Settled.refl {db : TelegramDb} (hsound : Sound db) : Settled db db :=
  ⟨hsound, settles_of_kept fun row hrow hhealthy => ⟨row, hrow, .row hhealthy rfl rfl⟩⟩

theorem Settled.trans {db db₁ db₂ : TelegramDb} (h : Settled db db₁) (h' : Settled db₁ db₂) :
    Settled db db₂ := by
  refine ⟨h'.sound, ?_⟩
  intro row₂ hrow₂ hhealthy₂
  obtain ⟨row₁, hrow₁, hid₁, hhealthy₁, hsame₁⟩ := h'.settles row₂ hrow₂ hhealthy₂
  obtain ⟨row, hrow, hid, hhealthy, hsame⟩ := h.settles row₁ hrow₁ hhealthy₁
  exact ⟨row, hrow, hid.trans hid₁, hhealthy, hsame.trans hsame₁⟩

/-! ## Requests about a destination -/

section

variable {E : TelegramEnv} {db db' : TelegramDb}

variable {id : UUID} {destination : Destination}

theorem getDestination_ok (h : db.getDestination id = .ok destination) :
    db.destinations.lookup id = some destination ∧ destination.id = id := by
  unfold TelegramDb.getDestination at h
  split at h
  · cases h
  rename_i row hrow
  cases h
  exact ⟨hrow, key_of_lookup hrow⟩

variable {profile : TelegramProxyProfile}

theorem getProxy_ok (h : db.getProxy id = .ok profile) :
    db.proxies.lookup id = some profile ∧ profile.id = id := by
  unfold TelegramDb.getProxy at h
  split at h
  · cases h
  rename_i row hrow
  cases h
  exact ⟨hrow, key_of_lookup hrow⟩

theorem proxyOrError_ok {proxyProfileId : Option UUID}
    (h : db.proxyOrError proxyProfileId = .ok ()) :
    ∀ id ∈ proxyProfileId, (db.proxies.lookup id).isSome := by
  intro id hid
  cases hid
  unfold TelegramDb.proxyOrError at h
  dsimp only at h
  split at h
  · cases h
  rename_i profile hprofile
  rw [hprofile]
  rfl

variable {changed : Destination}

theorem sound_withDestinations {destinations : Table Destination} (hsound : Sound db)
    (h : ∀ row ∈ destinations.rows, row ∈ db.destinations.rows ∨
      (∀ id ∈ row.secretId, Owned db id row.id .telegramBotToken) ∧
        ∀ id ∈ row.proxyProfileId, (db.proxies.lookup id).isSome) :
    Sound { db with destinations } := by
  refine ⟨?_, ?_, hsound.username, hsound.password⟩
  · intro row hrow
    rcases h row hrow with hold | ⟨hsecret, -⟩
    · exact hsound.token row hold
    · exact hsecret
  · intro row hrow
    rcases h row hrow with hold | ⟨-, hproxy⟩
    · exact hsound.proxy row hold
    · exact hproxy

theorem settled_putDestination (destination : Destination) (hsound : Sound db)
    (hrow : db.destinations.lookup changed.id = some destination)
    (hsecret : ∀ id ∈ changed.secretId, Owned db id changed.id .telegramBotToken)
    (hproxy : ∀ id ∈ changed.proxyProfileId, (db.proxies.lookup id).isSome)
    (hkeep : changed.healthStatus = .healthy → destination.healthStatus = .healthy ∧
      changed.targetRef = destination.targetRef ∧ changed.secretId = destination.secretId ∧
      changed.proxyProfileId = destination.proxyProfileId) :
    Settled db { db with destinations := db.destinations.put changed } := by
  have hid : destination.id = changed.id := key_of_lookup hrow
  refine ⟨sound_withDestinations hsound fun row hrow' => ?_, settles_of_kept ?_⟩
  · rcases mem_put hrow' with ⟨rfl, -⟩ | ⟨hold, -⟩
    · exact .inr ⟨hsecret, hproxy⟩
    · exact .inl hold
  intro row hrow' hhealthy
  rcases mem_put hrow' with ⟨rfl, -⟩ | ⟨hold, -⟩
  · obtain ⟨hwas, htarget, hsameSecret, hsameProxy⟩ := hkeep hhealthy
    exact ⟨destination, mem_of_lookup hrow, hid, hwas, htarget.symm, hsameSecret.symm,
      hsameProxy.symm, fun _ _ => rfl, fun _ _ => rfl⟩
  · exact ⟨row, hold, .row hhealthy rfl rfl⟩

theorem patchTarget_ok {targeted : Destination} {target : Option String}
    (h : db.patchTarget E destination target = .ok targeted) :
    targeted.id = destination.id ∧ targeted.secretId = destination.secretId
      ∧ targeted.proxyProfileId = destination.proxyProfileId
      ∧ targeted.healthStatus = destination.healthStatus
      ∧ (target = none → targeted.targetRef = destination.targetRef) := by
  cases target with
  | none =>
    cases h
    exact ⟨rfl, rfl, rfl, rfl, fun _ => rfl⟩
  | some target =>
    obtain ⟨canonical, -, h⟩ := bind_ok_iff.mp h
    obtain ⟨_, -, h⟩ := bind_ok_iff.mp h
    cases h
    exact ⟨rfl, rfl, rfl, rfl, fun hnone => by cases hnone⟩

theorem patchProxyOf_ok {routed : Destination} {proxyProfileId : Option (Option UUID)}
    (hold : ∀ id ∈ destination.proxyProfileId, (db.proxies.lookup id).isSome)
    (h : db.patchProxyOf destination proxyProfileId = .ok routed) :
    routed.id = destination.id ∧ routed.secretId = destination.secretId
      ∧ routed.targetRef = destination.targetRef ∧ routed.healthStatus = destination.healthStatus
      ∧ ∀ id ∈ routed.proxyProfileId, (db.proxies.lookup id).isSome := by
  cases proxyProfileId with
  | none =>
    cases h
    exact ⟨rfl, rfl, rfl, rfl, hold⟩
  | some proxyProfileId =>
    obtain ⟨_, hready, h⟩ := bind_ok_iff.mp h
    cases h
    exact ⟨rfl, rfl, rfl, rfl, proxyOrError_ok hready⟩

theorem patchDestination_settled {patch : DestinationPatch} (hsound : Sound db)
    (h : db.patchDestination E id patch = .ok db') : Settled db db' := by
  obtain ⟨destination, hget, h⟩ := bind_ok_iff.mp h
  obtain ⟨targeted, htarget, h⟩ := bind_ok_iff.mp h
  obtain ⟨routed, hroute, h⟩ := bind_ok_iff.mp h
  cases h
  obtain ⟨hrow, hid⟩ := getDestination_ok hget
  obtain ⟨hid₁, hsecret₁, hproxy₁, hhealth₁, hkept₁⟩ := patchTarget_ok htarget
  have hold : ∀ id ∈ targeted.proxyProfileId, (db.proxies.lookup id).isSome := by
    rw [hproxy₁]
    exact hsound.proxy destination (mem_of_lookup hrow)
  obtain ⟨hid₂, hsecret₂, htarget₂, hhealth₂, hthere⟩ := patchProxyOf_ok hold hroute
  have hrow' : db.destinations.lookup routed.id = some destination := by
    rw [hid₂, hid₁, hid]
    exact hrow
  have hsecret : routed.secretId = destination.secretId := hsecret₂.trans hsecret₁
  have howned : ∀ secretId ∈ routed.secretId, Owned db secretId routed.id .telegramBotToken := by
    rw [hsecret, hid₂.trans hid₁]
    exact hsound.token destination (mem_of_lookup hrow)
  by_cases hchanged : patch.target.isSome ∨ routed.proxyProfileId ≠ destination.proxyProfileId
  · -- A change of the target or the proxy resets the destination.
    rw [if_pos hchanged]
    refine settled_putDestination destination hsound hrow' howned hthere ?_
    intro hhealthy
    cases hhealthy
  · rw [if_neg hchanged]
    obtain ⟨hnotarget, hsame⟩ := not_or.mp hchanged
    have hnone : patch.target = none := by simpa using hnotarget
    refine settled_putDestination destination hsound hrow' howned hthere ?_
    intro hhealthy
    have hhealthy' : routed.healthStatus = .healthy := hhealthy
    rw [hhealth₂, hhealth₁] at hhealthy'
    exact ⟨hhealthy', htarget₂.trans (hkept₁ hnone), hsecret, not_not.mp hsame⟩

theorem settled_update (hsound : Sound db) (hget : db.getDestination id = .ok destination)
    (hid : changed.id = destination.id) (hsame : changed.snapshot = destination.snapshot)
    (hhealthy : changed.healthStatus = .healthy → destination.healthStatus = .healthy) :
    Settled db { db with destinations := db.destinations.put changed } := by
  obtain ⟨hrow, hkey⟩ := getDestination_ok hget
  have htarget : changed.targetRef = destination.targetRef :=
    congrArg DestinationSnapshot.targetRef hsame
  have hsecret : changed.secretId = destination.secretId :=
    congrArg DestinationSnapshot.secretId hsame
  have hproxy : changed.proxyProfileId = destination.proxyProfileId :=
    congrArg DestinationSnapshot.proxyProfileId hsame
  refine settled_putDestination destination hsound ?_ ?_ ?_ ?_
  · rw [hid, hkey]
    exact hrow
  · rw [hsecret, hid]
    exact hsound.token destination (mem_of_lookup hrow)
  · rw [hproxy]
    exact hsound.proxy destination (mem_of_lookup hrow)
  · intro h
    exact ⟨hhealthy h, htarget, hsecret, hproxy⟩

theorem recheckDestination_settled (hsound : Sound db) (h : db.recheckDestination id = .ok db') :
    Settled db db' := by
  obtain ⟨destination, hget, h⟩ := bind_ok_iff.mp h
  cases h
  refine settled_update hsound hget rfl rfl ?_
  intro hhealthy
  cases hhealthy

theorem enableDestination_settled (hsound : Sound db) (h : db.enableDestination id = .ok db') :
    Settled db db' := by
  obtain ⟨destination, hget, h⟩ := bind_ok_iff.mp h
  obtain ⟨enabled, henable, h⟩ := bind_ok_iff.mp h
  cases h
  unfold Destination.enable at henable
  split_ifs at henable
  cases henable
  exact settled_update hsound hget rfl rfl fun hhealthy => hhealthy

theorem disableDestination_settled (hsound : Sound db) (h : db.disableDestination id = .ok db') :
    Settled db db' := by
  obtain ⟨destination, hget, h⟩ := bind_ok_iff.mp h
  cases h
  exact settled_update hsound hget rfl rfl fun hhealthy => hhealthy

/-! ## Secrets that come and go -/

theorem settled_change {proxies : Table TelegramProxyProfile} {secrets : Table EncryptedSecret}
    (hsound : Sound { db with
      proxies
      secrets })
    (htoken : ∀ destination ∈ db.destinations.rows, destination.healthStatus = .healthy →
      ∀ id ∈ destination.secretId, secrets.lookup id = db.secrets.lookup id)
    (hproxy : ∀ destination ∈ db.destinations.rows, destination.healthStatus = .healthy →
      ∀ id ∈ destination.proxyProfileId, proxies.lookup id = db.proxies.lookup id)
    (hcredentials : ∀ destination ∈ db.destinations.rows, destination.healthStatus = .healthy →
      ∀ id ∈ destination.proxyProfileId, ∀ profile ∈ db.proxies.lookup id,
        (∀ id ∈ profile.usernameSecretId, secrets.lookup id = db.secrets.lookup id)
          ∧ ∀ id ∈ profile.passwordSecretId, secrets.lookup id = db.secrets.lookup id) :
    Settled db { db with
      proxies
      secrets } := by
  refine ⟨hsound, settles_of_kept ?_⟩
  intro destination hmem hhealthy
  refine ⟨destination, hmem, rfl, hhealthy, rfl, rfl, rfl, htoken destination hmem hhealthy, ?_⟩
  intro id hid
  have hsame := hproxy destination hmem hhealthy id hid
  rw [hsame]
  cases hprofile : db.proxies.lookup id with
  | none => rfl
  | some profile =>
    obtain ⟨hnames, hwords⟩ := hcredentials destination hmem hhealthy id hid profile hprofile
    exact congrArg some (TelegramDb.route_congr rfl rfl rfl hnames hwords)

theorem settled_secrets {secrets : Table EncryptedSecret} (hsound : Sound db)
    (hframe : ∀ {id ownerId purpose}, Refers db.destinations db.proxies id ownerId purpose →
      secrets.lookup id = db.secrets.lookup id) :
    Settled db { db with secrets } := by
  have hsound' : Sound { db with secrets } :=
    sound_of_owned (fun href => (hsound.owned href).congr (hframe href)) hsound.proxy
  refine settled_change hsound' ?_ (fun _ _ _ _ _ => rfl) ?_
  · intro destination hmem _ id hid
    exact hframe (.token hmem hid)
  · intro destination _ _ id _ profile hprofile
    have hmem := mem_of_lookup hprofile
    exact ⟨fun id hid => hframe (.username hmem hid), fun id hid => hframe (.password hmem hid)⟩

theorem settled_createSecret {secret : EncryptedSecret} (hsound : Sound db)
    (h : db.createSecret secret = .ok db') : Settled db db' := by
  have hframe := TelegramDb.lookup_createSecret h
  obtain ⟨-, rfl⟩ := TelegramDb.createSecret_ok h
  exact settled_secrets hsound fun href => hframe _ (hsound.owned href).isSome

theorem settled_deleteSecret {deleted : Option UUID} (hsound : Sound db)
    (hne : ∀ {id ownerId purpose}, Refers db.destinations db.proxies id ownerId purpose →
      some id ≠ deleted) : Settled db (db.deleteSecret deleted) := by
  cases deleted with
  | none => exact .refl hsound
  | some deleted =>
    exact settled_secrets hsound fun href => TelegramDb.lookup_deleteSecret_of_ne db _ (hne href)

theorem insertDestination_settled (hsound : Sound db)
    (hsecret : ∀ id ∈ destination.secretId, Owned db id destination.id .telegramBotToken)
    (hproxy : ∀ id ∈ destination.proxyProfileId, (db.proxies.lookup id).isSome)
    (hunknown : destination.healthStatus ≠ .healthy)
    (h : db.insertDestination destination = .ok db') : Settled db db' := by
  unfold TelegramDb.insertDestination at h
  split_ifs at h
  cases h
  refine ⟨sound_withDestinations hsound fun row hrow => ?_, settles_of_kept ?_⟩
  · rcases mem_insert hrow with rfl | hold
    · exact .inr ⟨hsecret, hproxy⟩
    · exact .inl hold
  · intro row hrow hhealthy
    rcases mem_insert hrow with rfl | hold
    · exact absurd hhealthy hunknown
    · exact ⟨row, hold, .row hhealthy rfl rfl⟩

theorem createDestination_settled {request : DestinationCreate} (hsound : Sound db)
    (h : db.createDestination E request = .ok db') : Settled db db' := by
  obtain ⟨canonical, -, h⟩ := bind_ok_iff.mp h
  obtain ⟨_, -, h⟩ := bind_ok_iff.mp h
  obtain ⟨_, hready, h⟩ := bind_ok_iff.mp h
  obtain ⟨db₁, hsecret, h⟩ := bind_ok_iff.mp h
  have hfirst := settled_createSecret hsound hsecret
  have howned := TelegramDb.owned_createSecret hsecret
  obtain ⟨-, rfl⟩ := TelegramDb.createSecret_ok hsecret
  refine hfirst.trans (insertDestination_settled hfirst.sound ?_ ?_ ?_ h)
  · intro id hid
    cases hid
    exact howned
  · exact proxyOrError_ok hready
  intro hhealthy
  cases hhealthy

theorem deleteDestination_settled (hsound : Sound db) (h : db.deleteDestination id = .ok db') :
    Settled db db' := by
  obtain ⟨destination, hget, h⟩ := bind_ok_iff.mp h
  cases h
  obtain ⟨hrow, hid⟩ := getDestination_ok hget
  have hmem := mem_of_lookup hrow
  have hfirst : Settled db { db with destinations := db.destinations.erase id } := by
    refine ⟨sound_withDestinations hsound fun row hrow' => .inl (mem_erase.mp hrow').1,
      settles_of_kept ?_⟩
    intro row hrow' hhealthy
    exact ⟨row, (mem_erase.mp hrow').1, .row hhealthy rfl rfl⟩
  refine hfirst.trans (settled_deleteSecret hfirst.sound fun {secretId _ _} href hdeleted => ?_)
  have howned := hsound.token destination hmem secretId hdeleted.symm
  cases href with
  | token hrow' hsecret =>
    obtain ⟨hold, hne⟩ := mem_erase.mp hrow'
    exact (hsound.token _ hold secretId hsecret).ne howned (.inl (hid ▸ hne)) rfl
  | username hprofile hsecret =>
    exact (hsound.username _ hprofile secretId hsecret).ne howned (.inr (by decide)) rfl
  | password hprofile hsecret =>
    exact (hsound.password _ hprofile secretId hsecret).ne howned (.inr (by decide)) rfl

variable {value : String}

theorem Owned.rotate {secret : EncryptedSecret} {ownerId : UUID} {purpose : SecretPurpose}
    (h : Owned db id ownerId purpose) (hsecret : db.secrets.lookup secret.id = some secret) :
    Owned (db.rotateSecret secret value) id ownerId purpose := by
  by_cases hid : id = secret.id
  · subst hid
    obtain ⟨before, hbefore⟩ := h
    have hsame : secret = _ := Option.some.inj (hsecret.symm.trans hbefore)
    refine ⟨value, (TelegramDb.lookup_rotateSecret hsecret).trans ?_⟩
    rw [hsame]
  · exact h.congr (TelegramDb.lookup_rotateSecret_of_ne hid)

theorem Sound.rotate {secret : EncryptedSecret} (hsound : Sound db)
    (hsecret : db.secrets.lookup secret.id = some secret) :
    Sound (db.rotateSecret secret value) :=
  sound_of_owned (fun href => Owned.rotate (hsound.owned href) hsecret) hsound.proxy

theorem settled_reset (destination : Destination) (hsound : Sound db)
    (hrow : db.destinations.lookup destination.id = some destination)
    (hid : changed.id = destination.id)
    (hsecret : ∀ id ∈ changed.secretId, Owned db id destination.id .telegramBotToken)
    (hproxy : changed.proxyProfileId = destination.proxyProfileId)
    (hreset : changed.healthStatus ≠ .healthy) :
    Settled db { db with destinations := db.destinations.put changed } := by
  refine settled_putDestination destination hsound ?_ ?_ ?_ (fun hhealthy => absurd hhealthy hreset)
  · rw [hid]
    exact hrow
  · rw [hid]
    exact hsecret
  · rw [hproxy]
    exact hsound.proxy destination (mem_of_lookup hrow)

theorem rotateDestinationToken_settled {newId : UUID} (hsound : Sound db)
    (h : db.rotateDestinationToken id value newId = .ok db') : Settled db db' := by
  obtain ⟨destination, hget, h⟩ := bind_ok_iff.mp h
  obtain ⟨⟨db₁, rotated⟩, hrotate, h⟩ := bind_ok_iff.mp h
  cases h
  obtain ⟨hrow, hid⟩ := getDestination_ok hget
  rw [← hid] at hrow
  have hmem := mem_of_lookup hrow
  unfold TelegramDb.rotatedSecret at hrotate
  cases hsecretId : destination.secretId with
  | none =>
    rw [hsecretId] at hrotate
    obtain ⟨db₂, hcreate, hrotate⟩ := bind_ok_iff.mp hrotate
    cases hrotate
    have hfirst := settled_createSecret hsound hcreate
    have howned := TelegramDb.owned_createSecret hcreate
    obtain ⟨-, rfl⟩ := TelegramDb.createSecret_ok hcreate
    refine hfirst.trans (settled_reset destination hfirst.sound hrow rfl ?_ rfl ?_)
    · intro secretId hsecret
      cases hsecret
      exact howned
    · nofun
  | some secretId =>
    rw [hsecretId] at hrotate
    dsimp only at hrotate
    cases hlookup : db.secrets.lookup secretId with
    | none =>
      rw [hlookup] at hrotate
      cases hrotate
    | some secret =>
      rw [hlookup] at hrotate
      cases hrotate
      have hkey : secret.id = secretId := key_of_lookup hlookup
      rw [← hkey] at hlookup
      have howned := hsound.token destination hmem secretId hsecretId
      have hfirst : Settled db { db with
          destinations := db.destinations.put (destination.reset.markChecking false) } := by
        refine settled_reset destination hsound hrow rfl ?_ rfl ?_
        · intro secretId' hsecret
          exact hsound.token destination hmem secretId' hsecret
        · nofun
      refine hfirst.trans (settled_change (hfirst.sound.rotate hlookup) ?_ (fun _ _ _ _ _ => rfl)
        ?_)
      · -- Who has this token is the destination that was reset.
        intro row hrow' hhealthy secretId' hsecret
        refine TelegramDb.lookup_rotateSecret_of_ne ?_
        rcases mem_put hrow' with ⟨rfl, -⟩ | ⟨hold, hne⟩
        · cases hhealthy
        · rw [hkey]
          exact (hsound.token row hold secretId' hsecret).ne howned (.inl hne)
      · intro row hrow' hhealthy proxyId hproxyId profile hprofile
        have hmemProfile := mem_of_lookup hprofile
        have hframe : ∀ secretId' purpose, Owned db secretId' profile.id purpose →
            purpose ≠ .telegramBotToken → (db.rotateSecret secret value).secrets.lookup secretId'
                = db.secrets.lookup secretId' := by
          intro secretId' purpose hother hpurpose
          refine TelegramDb.lookup_rotateSecret_of_ne ?_
          rw [hkey]
          exact hother.ne howned (.inr hpurpose)
        exact ⟨fun secretId' hsecret =>
            hframe secretId' _ (hsound.username profile hmemProfile _ hsecret) (by decide),
          fun secretId' hsecret =>
            hframe secretId' _ (hsound.password profile hmemProfile _ hsecret) (by decide)⟩

/-! ## Requests about a proxy -/

theorem settled_putProxy (profile : TelegramProxyProfile) {changed : TelegramProxyProfile}
    (hsound : Sound db) (hrow : db.proxies.lookup changed.id = some profile)
    (hsame : changed.snapshot = profile.snapshot)
    (husername : changed.usernameSecretId = profile.usernameSecretId)
    (hpassword : changed.passwordSecretId = profile.passwordSecretId) :
    Settled db { db with proxies := db.proxies.put changed } := by
  have hid : profile.id = changed.id := key_of_lookup hrow
  have hmem := mem_of_lookup hrow
  refine ⟨⟨hsound.token, ?_, ?_, ?_⟩, settles_of_kept ?_⟩
  · intro destination hdestination id hproxy
    have hthere := hsound.proxy destination hdestination id hproxy
    rw [← isSome_lookup_put db.proxies changed id] at hthere
    exact hthere
  · intro row hrow' id hsecret
    rcases mem_put hrow' with ⟨rfl, -⟩ | ⟨hold, -⟩
    · rw [husername] at hsecret
      rw [← hid]
      exact hsound.username profile hmem id hsecret
    · exact hsound.username row hold id hsecret
  · intro row hrow' id hsecret
    rcases mem_put hrow' with ⟨rfl, -⟩ | ⟨hold, -⟩
    · rw [hpassword] at hsecret
      rw [← hid]
      exact hsound.password profile hmem id hsecret
    · exact hsound.password row hold id hsecret
  · intro destination hdestination hhealthy
    refine ⟨destination, hdestination, rfl, hhealthy, rfl, rfl, rfl, fun _ _ => rfl, ?_⟩
    intro id _
    by_cases hkey : id = changed.id
    · subst hkey
      have hput : (db.proxies.put changed).lookup changed.id = some changed :=
        lookup_put_self (t := db.proxies) (r := changed) hrow
      rw [hput, hrow]
      exact congrArg some (TelegramDb.route_congr hsame husername hpassword (fun _ _ => rfl)
        fun _ _ => rfl)
    · rw [lookup_put_of_ne hkey]
      rfl

variable {code : String}

theorem invalidated_of_healthy
    (hmem : destination ∈ (db.invalidateProxyDestinations id code).destinations.rows)
    (hhealthy : destination.healthStatus = .healthy) :
    destination ∈ db.destinations.rows ∧ destination.proxyProfileId ≠ some id := by
  obtain ⟨row, hrow, heq⟩ := mem_map.mp hmem
  unfold TelegramDb.invalidated at heq
  split_ifs at heq with hproxy
  · subst heq
    cases hhealthy
  · subst heq
    exact ⟨hrow, hproxy⟩

theorem invalidate_settled (hsound : Sound db) :
    Settled db (db.invalidateProxyDestinations id code) := by
  have hrows : ∀ row ∈ (db.invalidateProxyDestinations id code).destinations.rows,
      ∃ old ∈ db.destinations.rows, old.id = row.id ∧ old.secretId = row.secretId
        ∧ old.proxyProfileId = row.proxyProfileId := by
    intro row hrow
    obtain ⟨old, hold, heq⟩ := mem_map.mp hrow
    unfold TelegramDb.invalidated at heq
    split_ifs at heq with hproxy <;> subst heq <;> exact ⟨old, hold, rfl, rfl, rfl⟩
  refine ⟨⟨?_, ?_, hsound.username, hsound.password⟩, settles_of_kept ?_⟩
  · intro row hrow secretId hsecret
    obtain ⟨old, hold, hid, hsame, -⟩ := hrows row hrow
    rw [← hsame] at hsecret
    rw [← hid]
    exact hsound.token old hold secretId hsecret
  · intro row hrow proxyId hproxy
    obtain ⟨old, hold, -, -, hsame⟩ := hrows row hrow
    rw [← hsame] at hproxy
    exact hsound.proxy old hold proxyId hproxy
  · intro row hrow hhealthy
    obtain ⟨hold, -⟩ := invalidated_of_healthy hrow hhealthy
    exact ⟨row, hold, .row hhealthy rfl rfl⟩

theorem settled_changeProxy (secrets : Table EncryptedSecret) {changed : TelegramProxyProfile}
    (hsound : Sound db) (hid : changed.id = id)
    (hframe : ∀ secretId ownerId purpose, Owned db secretId ownerId purpose → ownerId ≠ id ∨ purpose
      = .telegramBotToken → secrets.lookup secretId = db.secrets.lookup secretId)
    (husername : ∀ secretId ∈ changed.usernameSecretId, Owned { db with secrets } secretId id
      .proxyUsername)
    (hpassword : ∀ secretId ∈ changed.passwordSecretId, Owned { db with secrets } secretId id
      .proxyPassword) :
    Settled db (({ db with
      proxies := db.proxies.put changed
      secrets } : TelegramDb).invalidateProxyDestinations id code) := by
  have hfirst : Settled db (db.invalidateProxyDestinations id code) := invalidate_settled hsound
  refine hfirst.trans (settled_change ⟨?_, ?_, ?_, ?_⟩ ?_ ?_ ?_)
  · intro row hrow secretId hsecret
    have howned := hfirst.sound.token row hrow secretId hsecret
    exact howned.congr (hframe secretId _ _ howned (.inr rfl))
  · intro row hrow proxyId hproxy
    have hthere := hfirst.sound.proxy row hrow proxyId hproxy
    rw [← isSome_lookup_put _ changed proxyId] at hthere
    exact hthere
  · intro row hrow secretId hsecret
    rcases mem_put hrow with ⟨rfl, -⟩ | ⟨hold, hne⟩
    · rw [hid]
      exact husername secretId hsecret
    · have howned := hsound.username row hold secretId hsecret
      exact howned.congr (hframe secretId _ _ howned (.inl (hid ▸ hne)))
  · intro row hrow secretId hsecret
    rcases mem_put hrow with ⟨rfl, -⟩ | ⟨hold, hne⟩
    · rw [hid]
      exact hpassword secretId hsecret
    · have howned := hsound.password row hold secretId hsecret
      exact howned.congr (hframe secretId _ _ howned (.inl (hid ▸ hne)))
  · intro row hrow _ secretId hsecret
    exact hframe secretId _ _ (hfirst.sound.token row hrow secretId hsecret) (.inr rfl)
  · intro row hrow hhealthy proxyId hproxy
    obtain ⟨-, hother⟩ := invalidated_of_healthy hrow hhealthy
    refine lookup_put_of_ne ?_
    intro heq
    have hchanged : proxyId = id := heq.trans hid
    rw [hchanged] at hproxy
    exact hother hproxy
  · intro row hrow hhealthy proxyId hproxy profile hprofile
    obtain ⟨-, hother⟩ := invalidated_of_healthy hrow hhealthy
    have hprofileId : profile.id = proxyId := key_of_lookup hprofile
    have hne : profile.id ≠ id := by
      intro heq
      rw [← hprofileId, heq] at hproxy
      exact hother hproxy
    have hmem := mem_of_lookup hprofile
    refine ⟨?_, ?_⟩
    · intro secretId hsecret
      exact hframe secretId _ _ (hsound.username profile hmem secretId hsecret) (.inl hne)
    · intro secretId hsecret
      exact hframe secretId _ _ (hsound.password profile hmem secretId hsecret) (.inl hne)

theorem createProxySecrets_ok {request : ProxyCreate} (hsound : Sound db)
    (h : db.createProxySecrets request = .ok db') : Settled db db' ∧ db'.proxies = db.proxies
      ∧ (∀ id ∈ request.credentials.map (fun _ => request.usernameSecretId),
          Owned db' id request.id .proxyUsername)
      ∧ ∀ id ∈ request.credentials.map (fun _ => request.passwordSecretId),
          Owned db' id request.id .proxyPassword := by
  unfold TelegramDb.createProxySecrets at h
  cases hcredentials : request.credentials with
  | none =>
    rw [hcredentials] at h
    cases h
    exact ⟨.refl hsound, rfl, nofun, nofun⟩
  | some credentials =>
    obtain ⟨username, password⟩ := credentials
    rw [hcredentials] at h
    obtain ⟨db₁, hname, hword⟩ := bind_ok_iff.mp h
    have hfirst := settled_createSecret hsound hname
    have hsecond := settled_createSecret hfirst.sound hword
    have hnamed := TelegramDb.owned_createSecret hname
    have hsame := TelegramDb.lookup_createSecret hword request.usernameSecretId hnamed.isSome
    refine ⟨hfirst.trans hsecond, ?_, ?_, ?_⟩
    · obtain ⟨-, rfl⟩ := TelegramDb.createSecret_ok hname
      obtain ⟨-, rfl⟩ := TelegramDb.createSecret_ok hword
      rfl
    · intro id hid
      cases hid
      exact hnamed.congr hsame
    · intro id hid
      cases hid
      exact TelegramDb.owned_createSecret hword

theorem insertProxy_settled (hsound : Sound db)
    (husername : ∀ id ∈ profile.usernameSecretId, Owned db id profile.id .proxyUsername)
    (hpassword : ∀ id ∈ profile.passwordSecretId, Owned db id profile.id .proxyPassword)
    (h : db.insertProxy profile = .ok db') : Settled db db' := by
  unfold TelegramDb.insertProxy at h
  split_ifs at h with htaken
  cases h
  have hfree : db.proxies.lookup profile.id = none := by simpa using htaken
  have hframe : ∀ id, (db.proxies.lookup id).isSome →
      (db.proxies.insert profile).lookup id = db.proxies.lookup id := by
    intro id hthere
    refine (lookup_insert (t := db.proxies) (r := profile) hfree).2 id ?_
    intro heq
    have heq' : id = profile.id := heq
    rw [heq', hfree] at hthere
    cases hthere
  refine ⟨⟨hsound.token, ?_, ?_, ?_⟩, settles_of_kept ?_⟩
  · intro destination hmem id hid
    have hthere := hsound.proxy destination hmem id hid
    rw [← hframe id hthere] at hthere
    exact hthere
  · intro row hrow id hid
    rcases mem_insert hrow with rfl | hold
    · exact husername id hid
    · exact hsound.username row hold id hid
  · intro row hrow id hid
    rcases mem_insert hrow with rfl | hold
    · exact hpassword id hid
    · exact hsound.password row hold id hid
  · intro destination hmem hhealthy
    refine ⟨destination, hmem, rfl, hhealthy, rfl, rfl, rfl, fun _ _ => rfl, ?_⟩
    intro id hid
    rw [hframe id (hsound.proxy destination hmem id hid)]
    rfl

theorem createProxy_settled {request : ProxyCreate} (hsound : Sound db)
    (h : db.createProxy E request = .ok db') : Settled db db' := by
  obtain ⟨_, -, h⟩ := bind_ok_iff.mp h
  obtain ⟨host, -, h⟩ := bind_ok_iff.mp h
  obtain ⟨db₁, hsecrets, h⟩ := bind_ok_iff.mp h
  obtain ⟨hfirst, -, husername, hpassword⟩ := createProxySecrets_ok hsound hsecrets
  exact hfirst.trans (insertProxy_settled hfirst.sound husername hpassword h)

theorem settled_changeEndpoint {changed : TelegramProxyProfile} (hsound : Sound db)
    (hget : db.getProxy id = .ok profile) (hid : changed.id = profile.id)
    (husername : changed.usernameSecretId = profile.usernameSecretId)
    (hpassword : changed.passwordSecretId = profile.passwordSecretId) :
    Settled db (({ db with
      proxies := db.proxies.put changed } : TelegramDb).invalidateProxyDestinations id code) := by
  obtain ⟨hrow, hkey⟩ := getProxy_ok hget
  have hmem := mem_of_lookup hrow
  refine settled_changeProxy db.secrets hsound (hid.trans hkey) (fun _ _ _ _ _ => rfl) ?_ ?_
  · intro secretId hsecret
    rw [husername] at hsecret
    rw [← hkey]
    exact hsound.username profile hmem secretId hsecret
  · intro secretId hsecret
    rw [hpassword] at hsecret
    rw [← hkey]
    exact hsound.password profile hmem secretId hsecret

theorem settled_updateProxy {changed : TelegramProxyProfile} (hsound : Sound db)
    (hget : db.getProxy id = .ok profile) (hid : changed.id = profile.id)
    (hsame : changed.snapshot = profile.snapshot)
    (husername : changed.usernameSecretId = profile.usernameSecretId)
    (hpassword : changed.passwordSecretId = profile.passwordSecretId) :
    Settled db { db with proxies := db.proxies.put changed } := by
  obtain ⟨hrow, hkey⟩ := getProxy_ok hget
  refine settled_putProxy profile hsound ?_ hsame husername hpassword
  rw [hid, hkey]
  exact hrow

theorem patchProxy_settled {patch : ProxyPatch} (hsound : Sound db)
    (h : db.patchProxy E id patch = .ok db') : Settled db db' := by
  obtain ⟨profile, hget, h⟩ := bind_ok_iff.mp h
  obtain ⟨host, hhost, h⟩ := bind_ok_iff.mp h
  obtain ⟨port, hport, h⟩ := bind_ok_iff.mp h
  cases h
  unfold TelegramDb.storePatched
  split_ifs with hchanged
  · exact settled_changeEndpoint hsound hget rfl rfl rfl
  -- Only the name was patched, so the endpoint is what it was.
  have hunset : patch.proxyType = none ∧ patch.host = none ∧ patch.port = none := by
    simpa using hchanged
  obtain ⟨htype, hnoHost, hnoPort⟩ := hunset
  rw [hnoHost] at hhost
  rw [hnoPort] at hport
  cases hhost
  cases hport
  rw [htype]
  exact settled_updateProxy hsound hget rfl rfl rfl rfl

theorem recheckProxy_settled (hsound : Sound db) (h : db.recheckProxy id = .ok db') :
    Settled db db' := by
  obtain ⟨profile, hget, h⟩ := bind_ok_iff.mp h
  cases h
  exact settled_updateProxy hsound hget rfl rfl rfl rfl

theorem enableProxy_settled (hsound : Sound db) (h : db.enableProxy id = .ok db') :
    Settled db db' := by
  obtain ⟨profile, hget, h⟩ := bind_ok_iff.mp h
  obtain ⟨_, -, h⟩ := bind_ok_iff.mp h
  cases h
  exact settled_updateProxy hsound hget rfl rfl rfl rfl

theorem disableProxy_settled (hsound : Sound db) (h : db.disableProxy id = .ok db') :
    Settled db db' := by
  obtain ⟨profile, hget, h⟩ := bind_ok_iff.mp h
  cases h
  exact settled_changeEndpoint hsound hget rfl rfl rfl

theorem existingSecret_owned {purpose : SecretPurpose} {secret : EncryptedSecret}
    (hsound : Sound db) (hmem : profile ∈ db.proxies.rows)
    (h : db.existingSecret profile purpose = some secret) :
    db.secrets.lookup secret.id = some secret ∧ Owned db secret.id profile.id purpose := by
  have hpurpose : secret.purpose = purpose := by simpa using find?_some h
  obtain ⟨secretId, hlisted, hlookup⟩ := mem_filterMap.mp (mem_of_find?_eq_some h)
  obtain ⟨id, hid, hlookup⟩ := Option.bind_eq_some_iff.mp hlookup
  have hkey : secret.id = id := key_of_lookup hlookup
  have howned : ∃ found, Owned db id profile.id found := by
    have hcases : secretId = profile.passwordSecretId ∨ secretId = profile.usernameSecretId := by
      simpa using hlisted
    rcases hcases with hpassword | husername
    · exact ⟨_, hsound.password profile hmem id (hpassword ▸ hid)⟩
    · exact ⟨_, hsound.username profile hmem id (husername ▸ hid)⟩
  obtain ⟨found, value, hvalue⟩ := howned
  obtain rfl := Option.some.inj (hlookup.symm.trans hvalue)
  cases hpurpose
  exact ⟨hlookup, value, hlookup⟩

theorem rotateProxySecret_ok {profileId newId : UUID} {current : Option EncryptedSecret}
    {purpose : SecretPurpose}
    (hcurrent : ∀ secret ∈ current, db.secrets.lookup secret.id = some secret ∧ Owned db secret.id
      profileId purpose)
    (h : db.rotateProxySecret profileId current purpose value newId = .ok (db', id)) :
    db' = { db with secrets := db'.secrets }
      ∧ (∀ secretId ownerId found, Owned db secretId ownerId found →
          ownerId ≠ profileId ∨ found ≠ purpose →
          db'.secrets.lookup secretId = db.secrets.lookup secretId)
      ∧ Owned db' id profileId purpose := by
  cases current with
  | some secret =>
    cases h
    obtain ⟨hlookup, howned⟩ := hcurrent secret rfl
    refine ⟨rfl, ?_, howned.rotate hlookup⟩
    intro secretId ownerId found hother hne
    exact TelegramDb.lookup_rotateSecret_of_ne (hother.ne howned hne)
  | none =>
    obtain ⟨db₁, hcreate, h⟩ := bind_ok_iff.mp h
    cases h
    have howned := TelegramDb.owned_createSecret hcreate
    have hframe := TelegramDb.lookup_createSecret hcreate
    obtain ⟨-, rfl⟩ := TelegramDb.createSecret_ok hcreate
    exact ⟨rfl, fun secretId _ _ hother _ => hframe secretId hother.isSome, howned⟩

theorem rotatedCredentials_ok {credentials : Option (String × String)}
    {newUsernameId newPasswordId : UUID} {usernameId passwordId : Option UUID} (hsound : Sound db)
    (hmem : profile ∈ db.proxies.rows)
    (h : db.rotatedCredentials profile credentials newUsernameId newPasswordId = .ok (db',
      usernameId, passwordId)) :
    db' = { db with secrets := db'.secrets }
      ∧ (∀ secretId ownerId purpose, Owned db secretId ownerId purpose →
          ownerId ≠ profile.id ∨ purpose = .telegramBotToken →
          db'.secrets.lookup secretId = db.secrets.lookup secretId)
      ∧ (∀ id ∈ usernameId, Owned db' id profile.id .proxyUsername)
      ∧ ∀ id ∈ passwordId, Owned db' id profile.id .proxyPassword := by
  cases credentials with
  | none =>
    cases h
    refine ⟨?_, ?_, ?_, ?_⟩
    · cases profile.usernameSecretId <;> cases profile.passwordSecretId <;> rfl
    · intro secretId ownerId purpose howned hother
      rw [TelegramDb.lookup_deleteSecret_of_ne _ secretId,
        TelegramDb.lookup_deleteSecret_of_ne _ secretId]
      · intro hdeleted
        refine howned.ne (hsound.username profile hmem secretId hdeleted.symm) ?_ rfl
        rcases hother with hne | htoken
        · exact .inl hne
        · exact .inr (by rw [htoken]; decide)
      · intro hdeleted
        refine howned.ne (hsound.password profile hmem secretId hdeleted.symm) ?_ rfl
        rcases hother with hne | htoken
        · exact .inl hne
        · exact .inr (by rw [htoken]; decide)
    · nofun
    · nofun
  | some credentials =>
    obtain ⟨username, password⟩ := credentials
    obtain ⟨⟨db₁, nameId⟩, hname, h⟩ := bind_ok_iff.mp h
    obtain ⟨⟨db₂, wordId⟩, hword, h⟩ := bind_ok_iff.mp h
    cases h
    obtain ⟨hdb₁, hframe₁, howned₁⟩ :=
      rotateProxySecret_ok (fun secret => existingSecret_owned hsound hmem) hname
    have hcurrent : ∀ secret ∈ db.existingSecret profile .proxyPassword,
        db₁.secrets.lookup secret.id = some secret
          ∧ Owned db₁ secret.id profile.id .proxyPassword := by
      intro secret hsecret
      obtain ⟨hlookup, howned⟩ := existingSecret_owned hsound hmem hsecret
      have hsame := hframe₁ secret.id _ _ howned (.inr (by decide))
      exact ⟨hsame.trans hlookup, howned.congr hsame⟩
    obtain ⟨hdb₂, hframe₂, howned₂⟩ := rotateProxySecret_ok hcurrent hword
    refine ⟨?_, ?_, ?_, ?_⟩
    · rw [hdb₂, hdb₁]
    · intro secretId ownerId purpose howned hother
      have hne : ∀ other, other ≠ .telegramBotToken → ownerId ≠ profile.id ∨ purpose ≠ other := by
        intro other hother'
        rcases hother with hne | htoken
        · exact .inl hne
        · exact .inr (htoken ▸ hother'.symm)
      have hsame₁ := hframe₁ secretId ownerId purpose howned (hne _ (by decide))
      have hsame₂ := hframe₂ secretId ownerId purpose (howned.congr hsame₁) (hne _ (by decide))
      exact hsame₂.trans hsame₁
    · intro id hid
      cases hid
      exact howned₁.congr (hframe₂ nameId _ _ howned₁ (.inr (by decide)))
    · intro id hid
      cases hid
      exact howned₂

theorem rotateProxyCredentials_settled {newUsernameId newPasswordId : UUID}
    {credentials : Option (String × String)} (hsound : Sound db)
    (h : db.rotateProxyCredentials id credentials newUsernameId newPasswordId = .ok db') :
    Settled db db' := by
  obtain ⟨profile, hget, h⟩ := bind_ok_iff.mp h
  obtain ⟨⟨db₁, usernameId, passwordId⟩, hrotate, h⟩ := bind_ok_iff.mp h
  cases h
  obtain ⟨hrow, hid⟩ := getProxy_ok hget
  have hmem := mem_of_lookup hrow
  obtain ⟨hdb₁, hframe, husername, hpassword⟩ := rotatedCredentials_ok hsound hmem hrotate
  rw [hid] at hframe husername hpassword
  rw [hdb₁] at husername hpassword ⊢
  exact settled_changeProxy db₁.secrets hsound hid hframe husername hpassword

theorem deleteProxy_settled (hsound : Sound db) (h : db.deleteProxy id = .ok db') :
    Settled db db' := by
  obtain ⟨profile, hget, h⟩ := bind_ok_iff.mp h
  obtain ⟨_, hfree, h⟩ := bind_ok_iff.mp h
  cases h
  obtain ⟨hrow, hid⟩ := getProxy_ok hget
  have hmem := mem_of_lookup hrow
  have hunused : ∀ destination ∈ db.destinations.rows, destination.proxyProfileId ≠ some id := by
    unfold TelegramDb.proxyDependencies at hfree
    split_ifs at hfree with hany
    simpa using hany
  have hfirst : Settled db { db with proxies := db.proxies.erase id } := by
    have hframe : ∀ destination ∈ db.destinations.rows, ∀ proxyId ∈ destination.proxyProfileId,
        (db.proxies.erase id).lookup proxyId = db.proxies.lookup proxyId := by
      intro destination hdestination proxyId hproxy
      refine lookup_erase_of_ne ?_
      intro heq
      rw [heq] at hproxy
      exact hunused destination hdestination hproxy
    refine settled_change ⟨hsound.token, ?_, ?_, ?_⟩ (fun _ _ _ _ _ => rfl) ?_
      (fun _ _ _ _ _ _ _ => ⟨fun _ _ => rfl, fun _ _ => rfl⟩)
    · intro destination hdestination proxyId hproxy
      have hthere := hsound.proxy destination hdestination proxyId hproxy
      rw [← hframe destination hdestination proxyId hproxy] at hthere
      exact hthere
    · intro row hrow'
      exact hsound.username row (mem_erase.mp hrow').1
    · intro row hrow'
      exact hsound.password row (mem_erase.mp hrow').1
    · intro destination hdestination _
      exact hframe destination hdestination
  -- No row that is left refers to a secret of the proxy.
  have hunshared : ∀ {secretId ownerId purpose deleted found}, Refers db.destinations
      (db.proxies.erase id) secretId ownerId purpose → Owned db deleted profile.id found →
        found ≠ .telegramBotToken → secretId ≠ deleted := by
    intro secretId ownerId purpose deleted found href howned hfound
    cases href with
    | token hdestination hsecret =>
      exact (hsound.token _ hdestination secretId hsecret).ne howned (.inr hfound.symm)
    | username hrow' hsecret =>
      obtain ⟨hold, hne⟩ := mem_erase.mp hrow'
      exact (hsound.username _ hold secretId hsecret).ne howned (.inl (hid ▸ hne))
    | password hrow' hsecret =>
      obtain ⟨hold, hne⟩ := mem_erase.mp hrow'
      exact (hsound.password _ hold secretId hsecret).ne howned (.inl (hid ▸ hne))
  have hsecond := settled_deleteSecret hfirst.sound fun href hdeleted =>
    hunshared href (hsound.username profile hmem _ hdeleted.symm) (by decide) rfl
  refine (hfirst.trans hsecond).trans (settled_deleteSecret hsecond.sound fun href hdeleted => ?_)
  rw [TelegramDb.deleteSecret_destinations, TelegramDb.deleteSecret_proxies] at href
  exact hunshared href (hsound.password profile hmem _ hdeleted.symm) (by decide) rfl

theorem handle_settled {request : TelegramRequest} (hsound : Sound db)
    (h : db.handle E request = .ok db') : Settled db db' := by
  cases request with
  | createDestination request => exact createDestination_settled hsound h
  | patchDestination id patch => exact patchDestination_settled hsound h
  | rotateToken id value newId => exact rotateDestinationToken_settled hsound h
  | recheckDestination id => exact recheckDestination_settled hsound h
  | enableDestination id => exact enableDestination_settled hsound h
  | disableDestination id => exact disableDestination_settled hsound h
  | deleteDestination id => exact deleteDestination_settled hsound h
  | createProxy request => exact createProxy_settled hsound h
  | patchProxy id patch => exact patchProxy_settled hsound h
  | rotateCredentials id credentials newUsernameId newPasswordId =>
    exact rotateProxyCredentials_settled hsound h
  | recheckProxy id => exact recheckProxy_settled hsound h
  | enableProxy id => exact enableProxy_settled hsound h
  | disableProxy id => exact disableProxy_settled hsound h
  | deleteProxy id => exact deleteProxy_settled hsound h

end

end NewsCraft.Publishing.Telegram
