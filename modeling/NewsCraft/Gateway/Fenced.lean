import NewsCraft.Gateway.Service

/-!
# Credentials are fenced

A credential that was rotated away never comes back: a rotation under a new key comes to one
nobody had, and one under an old key finds its record. A pairing session that is not pending
stays so, and a code is exchanged only while its session is.
-/

namespace NewsCraft.Gateway

open Lib Redact GatewayCredentialHasher Table List Option

variable {H : GatewayCredentialHasher} {P : PythonText} {config : GatewaySettings}
  {messages : Text → Prop} {w w' : GatewayWorld}

/-! ## What a request writes -/

structure CodexConnection.Holds (connection : CodexConnection) (H : GatewayCredentialHasher)
    (issue : Issue) : Prop where
  id : issue.connectionId = connection.id
  hash : connection.credentialHash = H.digest "credential" issue.value
  expiresAt : connection.expiresAt = issue.expiresAt

inductive GatewayWrite (H : GatewayCredentialHasher) (messages : Text → Prop)
    (w : GatewayWorld) : GatewayWorld → Prop
  | same (expiring : List UUID) : GatewayWrite H messages w { w with expiring := expiring }
  /-- A session with a new code. -/
  | opened (pairing : CodexPairingSession) (body : Text)
      (hid : w.pairings.lookup pairing.id = none)
      (hPrefix : ∀ other ∈ w.pairings.rows, other.codePrefix ≠ pairing.codePrefix)
      (hbody : pairing.codePrefix = body.take 12)
      (hhash : pairing.codeHash = H.digest "pairing-code" ("ncp_".toList ++ body))
      (hmessage : messages (message "pairing-code" ("ncp_".toList ++ body))) :
      GatewayWrite H messages w { w with pairings := w.pairings.insert pairing }
  /-- A session that is not pending any more. -/
  | closed (pairing : CodexPairingSession) (status : PairingStatus) (expiring : List UUID)
      (hrow : w.pairings.lookup pairing.id = some pairing)
      (hstatus : status = pairing.status ∨ status ≠ .pending) :
      GatewayWrite H messages w { w with
          pairings := w.pairings.put { pairing with status := status }
          expiring := expiring }
  /-- A connection of a session that was pending. -/
  | paired (pairing : CodexPairingSession) (connection : CodexConnection) (issue : Issue)
      (hrow : w.pairings.lookup pairing.id = some pairing) (hpending : pairing.status = .pending)
      (hsession : connection.pairingSessionId = pairing.id)
      (hcreated : connection.createdAt < pairing.expiresAt)
      (hid : w.connections.lookup connection.id = none)
      (hunused : ∀ other ∈ w.connections.rows, other.pairingSessionId ≠ pairing.id)
      (hholds : connection.Holds H issue) (hdrawn : issue.rotation = none)
      (hnew : ∀ other ∈ w.issued, other.value ≠ issue.value)
      (hmessage : messages (message "credential" issue.value)) :
      GatewayWrite H messages w { w with
          pairings := w.pairings.put { pairing with status := .paired }
          connections := w.connections.insert connection
          issued := issue :: w.issued }
  /-- A connection with the credential it had; a revoked one stays revoked. -/
  | kept (connection changed : CodexConnection)
      (hrow : w.connections.lookup connection.id = some connection)
      (hid : changed.id = connection.id)
      (hhash : changed.credentialHash = connection.credentialHash)
      (hexpires : changed.expiresAt = connection.expiresAt)
      (hsession : changed.pairingSessionId = connection.pairingSessionId)
      (hcreated : changed.createdAt = connection.createdAt)
      (hrevoked : connection.status = .revoked → changed.status = .revoked) :
      GatewayWrite H messages w { w with connections := w.connections.put changed }
  /-- A connection with the credential of a key that was not used before. -/
  | rotated (connection changed : CodexConnection) (key : Text) (record : CodexIdempotencyRecord)
      (issue : Issue) (hrow : w.connections.lookup connection.id = some connection)
      (hid : changed.id = connection.id)
      (hsession : changed.pairingSessionId = connection.pairingSessionId)
      (hcreated : changed.createdAt = connection.createdAt)
      (hactive : connection.status = .active)
      (hunused : w.records.lookup (H.rotationKey connection.id key) = none)
      (hrecord : record.keyHash = H.rotationKey connection.id key)
      (hholds : changed.Holds H issue) (hkey : issue.rotation = some key)
      (hvalue : issue.value = (H.rotated connection.id key).value)
      (hnew : ∀ other ∈ w.issued, other.rotation = none → other.value ≠ issue.value)
      (hmessage : messages (message "credential" issue.value))
      (hseed : messages (message "credential-secret-a" (rotationSeed connection.id key))) :
      GatewayWrite H messages w { w with
          connections := w.connections.put changed
          records := w.records.insert record
          issued := issue :: w.issued }

variable {pairing : CodexPairingSession}

theorem pairingOf_some {code : Text} (h : w.pairingOf code = some pairing) :
    w.pairings.lookup pairing.id = some pairing := by
  obtain ⟨codePrefix, -, hfound⟩ := bind_eq_some_iff.mp h
  exact lookup_of_mem (mem_of_find?_eq_some hfound)

theorem expireOverdue_status (pairing : CodexPairingSession) (now : Datetime) :
    ∃ status, pairing.expireOverdue now = { pairing with status := status }
      ∧ (status = pairing.status ∨ status ≠ .pending) := by
  unfold CodexPairingSession.expireOverdue
  by_cases hover : pairing.status = .pending ∧ pairing.expiresAt ≤ now
  · rw [if_pos hover]
    exact ⟨.expired, rfl, .inr PairingStatus.noConfusion⟩
  · rw [if_neg hover]
    exact ⟨pairing.status, rfl, .inl rfl⟩

variable {id : UUID} {now : Datetime}

theorem createPairingSession_write {body : Text} {deviceName : String} {scopes : List String}
    (hmessage : messages (message "pairing-code" ("ncp_".toList ++ body))) :
    GatewayWrite H messages w
      (w.createPairingSession H config id body deviceName scopes now).1 := by
  unfold GatewayWorld.createPairingSession issuePairingCode
  dsimp only
  by_cases htaken : (w.pairings.lookup id).isSome
      ∨ (w.pairings.rows.any fun pairing => pairing.codePrefix = body.take 12) = true
  · rw [if_pos htaken]
    exact .same w.expiring
  · rw [if_neg htaken]
    rw [not_or] at htaken
    obtain ⟨hid, hPrefix⟩ := htaken
    refine .opened _ body ?_ ?_ rfl rfl hmessage
    · simpa using hid
    intro other hmem hsame
    exact hPrefix (any_eq_true.mpr ⟨other, hmem, by simpa using hsame⟩)

theorem exchangePairingCode_write {code credentialPrefix secret : Text} {connectionId : UUID}
    (hnew : ∀ issue ∈ w.issued, issue.value ≠ (H.credentialOf credentialPrefix secret).value)
    (hmessage : messages (message "credential" (H.credentialOf credentialPrefix secret).value)) :
    GatewayWrite H messages w
      (w.exchangePairingCode H config code credentialPrefix secret connectionId now).1 := by
  unfold GatewayWorld.exchangePairingCode
  cases hfound : w.pairingOf code with
  | none => exact .same w.expiring
  | some pairing =>
    have hrow := pairingOf_some hfound
    dsimp only
    by_cases hbad : pairing.status ≠ .pending ∨ pairing.expiresAt ≤ now
        ∨ H.matchesDigest "pairing-code" code pairing.codeHash = false
    · rw [if_pos hbad]
      obtain ⟨status, hstatus, hkept⟩ := expireOverdue_status pairing now
      rw [hstatus]
      exact .closed pairing status w.expiring hrow hkept
    rw [if_neg hbad]
    rw [not_or, not_or, not_not, not_le] at hbad
    obtain ⟨hpending, hopen, -⟩ := hbad
    by_cases htaken : w.connectionTaken (GatewayWorld.newConnection config pairing
        (H.credentialOf credentialPrefix secret) connectionId now) = true
    · rw [if_pos htaken]
      exact .same w.expiring
    · rw [if_neg htaken]
      have hfree : ∀ row ∈ w.connections.rows, row.id ≠ connectionId
          ∧ row.pairingSessionId ≠ pairing.id := by
        intro row hmem
        by_contra hclash
        refine htaken (any_eq_true.mpr ⟨row, hmem, ?_⟩)
        rw [decide_eq_true_iff]
        by_cases hid : row.id = connectionId
        · exact .inl hid
        · exact .inr (.inr (not_not.mp fun hsession => hclash ⟨hid, hsession⟩))
      refine .paired pairing _ _ hrow hpending rfl hopen ?_ (fun row hmem => (hfree row hmem).2)
        ⟨rfl, rfl, rfl⟩ rfl hnew hmessage
      cases hlookup : w.connections.lookup connectionId with
      | none => exact hlookup
      | some row =>
        exact absurd (key_of_lookup hlookup) (hfree row (mem_of_lookup hlookup)).1

variable {key : Text}

theorem rotate_write {checkedAt : Datetime}
    (hnew : ∀ issue ∈ w.issued, issue.rotation = none → issue.value ≠ (H.rotated id key).value)
    (hmessage : messages (message "credential" (H.rotated id key).value))
    (hseed : messages (message "credential-secret-a" (rotationSeed id key))) :
    GatewayWrite H messages w (w.rotate H config id key checkedAt now).1 := by
  unfold GatewayWorld.rotate
  cases hrow : w.connections.lookup id with
  | none => exact .same w.expiring
  | some connection =>
    have hid : connection.id = id := key_of_lookup hrow
    dsimp only
    by_cases hinactive : connection.status ≠ .active ∨ connection.expiresAt ≤ checkedAt
    · rw [if_pos hinactive]
      exact .same w.expiring
    rw [if_neg hinactive]
    rw [not_or, not_not] at hinactive
    by_cases hreplayed : (w.records.lookup (H.rotationKey id key)).isSome = true
    · -- a key that was used before writes nothing
      rw [if_pos hreplayed]
      split_ifs
      · exact .same w.expiring
      · exact .same w.expiring
    rw [if_neg hreplayed]
    by_cases hclash : (w.connections.rows.any fun row =>
        row.id ≠ id ∧ row.credentialPrefix = (H.rotated id key).credentialPrefix) = true
    · rw [if_pos hclash]
      exact .same w.expiring
    · rw [if_neg hclash]
      subst hid
      exact .rotated connection _ key _ _ hrow rfl rfl rfl hinactive.1 (by simpa using hreplayed)
        rfl ⟨rfl, rfl, rfl⟩ rfl rfl hnew hmessage hseed

theorem handle_write {event : GatewayEvent} (hfresh : w.Fresh H event)
    (hmessages : ∀ m ∈ event.messages H P, messages m) :
    GatewayWrite H messages w (w.handle H P config event).1 := by
  cases event with
  | createPairing id body deviceName scopes now =>
    exact createPairingSession_write (hmessages _ mem_cons_self)
  | showPairing id now =>
    unfold GatewayWorld.handle GatewayWorld.showPairingSession
    dsimp only
    cases w.pairings.lookup id with
    | none => exact .same w.expiring
    | some pairing =>
      dsimp only
      split_ifs
      · exact .same _
      · exact .same w.expiring
  | writeExpired id =>
    unfold GatewayWorld.handle GatewayWorld.writeExpired
    dsimp only
    cases hrow : w.pairings.lookup id with
    | none => exact .same w.expiring
    | some pairing =>
      have hid : pairing.id = id := key_of_lookup hrow
      split_ifs
      · subst hid
        exact .closed pairing .expired _ hrow (.inr PairingStatus.noConfusion)
      · exact .same w.expiring
  | cancelPairing id now =>
    unfold GatewayWorld.handle GatewayWorld.cancelPairingSession
    dsimp only
    cases hrow : w.pairings.lookup id with
    | none => exact .same w.expiring
    | some pairing =>
      obtain rfl : pairing.id = id := key_of_lookup hrow
      obtain ⟨status, hstatus, hkept⟩ := expireOverdue_status pairing now
      dsimp only
      rw [hstatus]
      split_ifs
      · exact .closed pairing status w.expiring hrow hkept
      · exact .closed pairing .cancelled w.expiring hrow (.inr PairingStatus.noConfusion)
  | exchange code credentialPrefix secret connectionId now =>
    exact exchangePairingCode_write hfresh (hmessages _ (mem_cons_of_mem _ mem_cons_self))
  | authenticate authorization now =>
    unfold GatewayWorld.handle
    dsimp only
    cases w.authenticate H P authorization now with
    | ok _ | error _ => exact .same w.expiring
  | updateScopes id scopes now =>
    unfold GatewayWorld.handle GatewayWorld.updateScopes
    dsimp only
    cases hrow : w.connections.lookup id with
    | none => exact .same w.expiring
    | some connection =>
      obtain rfl : connection.id = id := key_of_lookup hrow
      dsimp only
      split_ifs
      · exact .same w.expiring
      · exact .kept connection _ hrow rfl rfl rfl rfl rfl id
  | rotate id key checkedAt now =>
    refine rotate_write hfresh ?_ ?_
    · exact hmessages _ (by simp [GatewayEvent.messages])
    · exact hmessages _ (by simp [GatewayEvent.messages])
  | revoke id =>
    unfold GatewayWorld.handle GatewayWorld.revoke
    dsimp only
    cases hrow : w.connections.lookup id with
    | none => exact .same w.expiring
    | some connection =>
      obtain rfl : connection.id = id := key_of_lookup hrow
      dsimp only
      split_ifs
      · exact .same w.expiring
      · exact .kept connection _ hrow rfl rfl rfl rfl rfl fun _ => rfl

/-! ## Credentials -/

/-- Each connection has the credential handed out last, all differ, and rotations left records. -/
structure CredentialInv (H : GatewayCredentialHasher) (messages : Text → Prop)
    (w : GatewayWorld) : Prop where
  current : ∀ connection ∈ w.connections.rows, ∃ issue, w.latest connection.id = some issue
    ∧ connection.Holds H issue
  owner : ∀ issue ∈ w.issued, (w.connections.lookup issue.connectionId).isSome
  distinct : (w.issued.map Issue.value).Nodup
  known : ∀ issue ∈ w.issued, messages (message "credential" issue.value)
  rotations : ∀ issue ∈ w.issued, ∀ key, issue.rotation = some key →
    issue.value = (H.rotated issue.connectionId key).value
      ∧ (w.records.lookup (H.rotationKey issue.connectionId key)).isSome
      ∧ messages (message "credential-secret-a" (rotationSeed issue.connectionId key))

theorem CredentialInv.same (h : CredentialInv H messages w) {pairings : Table CodexPairingSession}
    {expiring : List UUID} :
    CredentialInv H messages { w with pairings := pairings, expiring := expiring } :=
  ⟨h.current, h.owner, h.distinct, h.known, h.rotations⟩

theorem latest_cons_self (w : GatewayWorld) (issue : Issue) :
    ({ w with issued := issue :: w.issued }).latest issue.connectionId = some issue :=
  find?_cons_of_pos (by simp)

variable {issue : Issue}

theorem latest_cons_of_ne (h : issue.connectionId ≠ id) :
    ({ w with issued := issue :: w.issued }).latest id = w.latest id :=
  find?_cons_of_neg (by simpa using h)

variable {connection : CodexConnection}

theorem CredentialInv.paired (h : CredentialInv H messages w)
    (hid : w.connections.lookup connection.id = none) (hholds : connection.Holds H issue)
    (hdrawn : issue.rotation = none) (hnew : ∀ other ∈ w.issued, other.value ≠ issue.value)
    (hmessage : messages (message "credential" issue.value)) :
    CredentialInv H messages { w with
      connections := w.connections.insert connection
      issued := issue :: w.issued } := by
  have hinsert := lookup_insert (r := connection) hid
  refine ⟨?_, ?_, ?_, ?_, ?_⟩
  · intro row hmem
    rcases mem_insert hmem with heq | hold
    · rw [heq]
      refine ⟨issue, ?_, hholds⟩
      rw [← hholds.id]
      exact latest_cons_self w issue
    · obtain ⟨found, hlatest, hof⟩ := h.current row hold
      refine ⟨found, ?_, hof⟩
      rw [← hlatest]
      refine latest_cons_of_ne ?_
      intro hsame
      rw [hholds.id] at hsame
      have hlookup := lookup_of_mem hold
      have hkey : Keyed.key row = row.id := rfl
      rw [hkey, ← hsame, hid] at hlookup
      cases hlookup
  · intro found hmem
    rcases mem_cons.mp hmem with heq | hold
    · rw [heq, hholds.id]
      exact isSome_iff_exists.mpr ⟨connection, hinsert.1⟩
    · obtain ⟨row, hrow⟩ := isSome_iff_exists.mp (h.owner found hold)
      exact isSome_iff_exists.mpr ⟨row, lookup_insert_of_some hrow⟩
  · refine nodup_cons.mpr ⟨?_, h.distinct⟩
    intro hmem
    obtain ⟨other, hother, hvalue⟩ := mem_map.mp hmem
    exact hnew other hother hvalue
  · intro found hmem
    rcases mem_cons.mp hmem with heq | hold
    · rw [heq]
      exact hmessage
    · exact h.known found hold
  · intro found hmem key hkey
    rcases mem_cons.mp hmem with heq | hold
    · rw [heq, hdrawn] at hkey
      cases hkey
    · exact h.rotations found hold key hkey

variable {changed : CodexConnection}

theorem CredentialInv.kept (h : CredentialInv H messages w)
    (hrow : w.connections.lookup connection.id = some connection) (hid : changed.id = connection.id)
    (hhash : changed.credentialHash = connection.credentialHash)
    (hexpires : changed.expiresAt = connection.expiresAt) :
    CredentialInv H messages { w with connections := w.connections.put changed } := by
  refine ⟨?_, ?_, h.distinct, h.known, h.rotations⟩
  · intro row hmem
    rcases mem_put hmem with ⟨heq, -⟩ | ⟨hold, -⟩
    · obtain ⟨issue, hlatest, hof⟩ := h.current connection (mem_of_lookup hrow)
      rw [heq]
      refine ⟨issue, ?_, ⟨?_, ?_, ?_⟩⟩
      · rw [hid]
        exact hlatest
      · rw [hid]
        exact hof.id
      · rw [hhash]
        exact hof.hash
      · rw [hexpires]
        exact hof.expiresAt
    · exact h.current row hold
  · intro issue hmem
    have hsome := h.owner issue hmem
    rwa [← isSome_lookup_put w.connections changed] at hsome

theorem CredentialInv.rotated_new (h : CredentialInv H messages w)
    (hdigests : Collisionless H messages) {value : Text}
    (hunused : w.records.lookup (H.rotationKey id key) = none)
    (hvalue : value = (H.rotated id key).value)
    (hnew : ∀ other ∈ w.issued, other.rotation = none → other.value ≠ value)
    (hseed : messages (message "credential-secret-a" (rotationSeed id key))) :
    ∀ other ∈ w.issued, other.value ≠ value := by
  intro other hmem hsame
  cases hrotation : other.rotation with
  | none => exact hnew other hmem hrotation hsame
  | some key' =>
    -- the same credential is of the same key, whose record is there
    obtain ⟨hother, hrecord, hseed'⟩ := h.rotations other hmem key' hrotation
    rw [hother, hvalue] at hsame
    obtain ⟨hid, hkey⟩ := hdigests.rotated_injective hseed' hseed hsame
    rw [hid, hkey, hunused] at hrecord
    cases hrecord

theorem CredentialInv.rotated (h : CredentialInv H messages w) (hdigests : Collisionless H messages)
    {record : CodexIdempotencyRecord} (hrow : w.connections.lookup connection.id = some connection)
    (hid : changed.id = connection.id)
    (hunused : w.records.lookup (H.rotationKey connection.id key) = none)
    (hrecord : record.keyHash = H.rotationKey connection.id key) (hholds : changed.Holds H issue)
    (hkey : issue.rotation = some key) (hvalue : issue.value = (H.rotated connection.id key).value)
    (hnew : ∀ other ∈ w.issued, other.rotation = none → other.value ≠ issue.value)
    (hmessage : messages (message "credential" issue.value))
    (hseed : messages (message "credential-secret-a" (rotationSeed connection.id key))) :
    CredentialInv H messages { w with
      connections := w.connections.put changed
      records := w.records.insert record
      issued := issue :: w.issued } := by
  have hissueId : issue.connectionId = connection.id := hholds.id.trans hid
  have hrecordKey : w.records.lookup (Keyed.key record) = none := by
    have hkeyed : Keyed.key record = record.keyHash := rfl
    rw [hkeyed, hrecord]
    exact hunused
  have hinsert := lookup_insert hrecordKey
  refine ⟨?_, ?_, ?_, ?_, ?_⟩
  · intro row hmem
    rcases mem_put hmem with ⟨heq, -⟩ | ⟨hold, hne⟩
    · rw [heq]
      refine ⟨issue, ?_, hholds⟩
      rw [← hholds.id]
      exact latest_cons_self w issue
    · obtain ⟨found, hlatest, hof⟩ := h.current row hold
      refine ⟨found, ?_, hof⟩
      rw [← hlatest]
      refine latest_cons_of_ne ?_
      intro hsame
      have hrowKey : Keyed.key row = row.id := rfl
      have hchangedKey : Keyed.key changed = changed.id := rfl
      rw [hrowKey, hchangedKey, ← hholds.id, hsame] at hne
      exact hne rfl
  · intro found hmem
    rw [isSome_lookup_put]
    rcases mem_cons.mp hmem with heq | hold
    · rw [heq, hissueId, hrow]
      rfl
    · exact h.owner found hold
  · refine nodup_cons.mpr ⟨?_, h.distinct⟩
    intro hmem
    obtain ⟨other, hother, hsame⟩ := mem_map.mp hmem
    exact h.rotated_new hdigests hunused hvalue hnew hseed other hother hsame
  · intro found hmem
    rcases mem_cons.mp hmem with heq | hold
    · rw [heq]
      exact hmessage
    · exact h.known found hold
  · intro found hmem key' hkey'
    rcases mem_cons.mp hmem with heq | hold
    · rw [heq, hkey] at hkey'
      cases hkey'
      rw [heq, hissueId]
      refine ⟨hvalue, ?_, hseed⟩
      rw [← hrecord]
      exact isSome_iff_exists.mpr ⟨record, hinsert.1⟩
    · obtain ⟨hother, hthere, hseed'⟩ := h.rotations found hold key' hkey'
      obtain ⟨row, hlookup⟩ := isSome_iff_exists.mp hthere
      exact ⟨hother, isSome_iff_exists.mpr ⟨row, lookup_insert_of_some hlookup⟩, hseed'⟩

theorem CredentialInv.write (h : CredentialInv H messages w)
    (hdigests : Collisionless H messages) (hwrite : GatewayWrite H messages w w') :
    CredentialInv H messages w' := by
  cases hwrite with
  | same _ | opened _ _ _ _ _ _ _ | closed _ _ _ _ _ => exact h.same
  | paired pairing connection issue hrow hpending hsession hcreated hid hunused hholds hdrawn hnew
      hmessage =>
      exact (h.paired hid hholds hdrawn hnew hmessage).same
  | kept connection changed hrow hid hhash hexpires hsession hcreated hrevoked =>
    exact h.kept hrow hid hhash hexpires
  | rotated connection changed key record issue hrow hid hsession hcreated hactive hunused hrecord
      hholds hkey hvalue hnew hmessage hseed =>
      exact h.rotated hdigests hrow hid hunused hrecord hholds hkey hvalue hnew hmessage hseed

/-! ## Pairing sessions -/

/-- Each connection is of a session that is not pending any more, and is the only one. -/
structure PairingInv (H : GatewayCredentialHasher) (messages : Text → Prop)
    (w : GatewayWorld) : Prop where
  session : ∀ connection ∈ w.connections.rows, ∃ pairing,
    w.pairings.lookup connection.pairingSessionId = some pairing ∧ pairing.status ≠ .pending
      ∧ connection.createdAt < pairing.expiresAt
  one : ∀ connection ∈ w.connections.rows, ∀ other ∈ w.connections.rows,
    connection.pairingSessionId = other.pairingSessionId → connection = other
  codes : ∀ pairing ∈ w.pairings.rows, ∃ body, pairing.codePrefix = body.take 12
    ∧ pairing.codeHash = H.digest "pairing-code" ("ncp_".toList ++ body)
    ∧ messages (message "pairing-code" ("ncp_".toList ++ body))
  prefixes : ∀ pairing ∈ w.pairings.rows, ∀ other ∈ w.pairings.rows,
    pairing.codePrefix = other.codePrefix → pairing.id = other.id

theorem lookup_put_status {status : PairingStatus} (id : UUID)
    (hrow : w.pairings.lookup pairing.id = some pairing) :
    (w.pairings.put { pairing with status := status }).lookup id
      = if id = pairing.id then some { pairing with status := status }
        else w.pairings.lookup id := by
  by_cases hid : id = pairing.id
  · rw [if_pos hid, hid]
    exact lookup_put_self hrow
  · rw [if_neg hid]
    exact lookup_put_of_ne hid

theorem PairingInv.closed (h : PairingInv H messages w) {status : PairingStatus}
    (hrow : w.pairings.lookup pairing.id = some pairing)
    (hstatus : status = pairing.status ∨ status ≠ .pending) :
    PairingInv H messages
      { w with pairings := w.pairings.put { pairing with status := status } } := by
  have hmem := mem_of_lookup hrow
  -- a written row has the identifier and the code of the one that was there
  have hback : ∀ row ∈ (w.pairings.put { pairing with status := status }).rows,
      ∃ old ∈ w.pairings.rows, row.id = old.id ∧ row.codePrefix = old.codePrefix
        ∧ row.codeHash = old.codeHash := by
    intro row hput
    rcases mem_put hput with ⟨heq, -⟩ | ⟨hold, -⟩
    · rw [heq]
      exact ⟨pairing, hmem, rfl, rfl, rfl⟩
    · exact ⟨row, hold, rfl, rfl, rfl⟩
  refine ⟨?_, h.one, ?_, ?_⟩
  · intro connection hconnection
    obtain ⟨found, hfound, hdone, hcreated⟩ := h.session connection hconnection
    rw [lookup_put_status _ hrow]
    by_cases hsame : connection.pairingSessionId = pairing.id
    · rw [hsame, hrow] at hfound
      cases hfound
      rw [if_pos hsame]
      refine ⟨_, rfl, ?_, hcreated⟩
      rcases hstatus with hkept | hother
      · rw [hkept]
        exact hdone
      · exact hother
    · rw [if_neg hsame]
      exact ⟨found, hfound, hdone, hcreated⟩
  · intro row hput
    obtain ⟨old, hold, -, hPrefix, hhash⟩ := hback row hput
    rw [hPrefix, hhash]
    exact h.codes old hold
  · intro row hput other hput' hsame
    obtain ⟨old, hold, hid, hPrefix, -⟩ := hback row hput
    obtain ⟨old', hold', hid', hPrefix', -⟩ := hback other hput'
    rw [hid, hid']
    rw [hPrefix, hPrefix'] at hsame
    exact h.prefixes old hold old' hold' hsame

theorem PairingInv.opened (h : PairingInv H messages w) {body : Text}
    (hPrefix : ∀ other ∈ w.pairings.rows, other.codePrefix ≠ pairing.codePrefix)
    (hbody : pairing.codePrefix = body.take 12)
    (hhash : pairing.codeHash = H.digest "pairing-code" ("ncp_".toList ++ body))
    (hmessage : messages (message "pairing-code" ("ncp_".toList ++ body))) :
    PairingInv H messages { w with pairings := w.pairings.insert pairing } := by
  refine ⟨?_, h.one, ?_, ?_⟩
  · intro connection hconnection
    obtain ⟨found, hfound, hdone, hcreated⟩ := h.session connection hconnection
    exact ⟨found, lookup_insert_of_some hfound, hdone, hcreated⟩
  · intro row hmem
    rcases mem_insert hmem with heq | hold
    · rw [heq]
      exact ⟨body, hbody, hhash, hmessage⟩
    · exact h.codes row hold
  · intro row hmem other hmem' hsame
    rcases mem_insert hmem with heq | hold
    · rcases mem_insert hmem' with heq' | hold'
      · rw [heq, heq']
      rw [heq] at hsame
      exact absurd hsame.symm (hPrefix other hold')
    · rcases mem_insert hmem' with heq' | hold'
      · rw [heq'] at hsame
        exact absurd hsame (hPrefix row hold)
      · exact h.prefixes row hold other hold' hsame

theorem PairingInv.put (h : PairingInv H messages w)
    (hrow : w.connections.lookup connection.id = some connection) (hid : changed.id = connection.id)
    (hsession : changed.pairingSessionId = connection.pairingSessionId)
    (hcreated : changed.createdAt = connection.createdAt) :
    PairingInv H messages { w with connections := w.connections.put changed } := by
  have hmem := mem_of_lookup hrow
  have hother : ∀ row ∈ w.connections.rows, Keyed.key row ≠ Keyed.key changed →
      row.pairingSessionId ≠ changed.pairingSessionId := by
    intro row hrows hne hsame
    rw [hsession] at hsame
    refine hne ?_
    rw [h.one row hrows connection hmem hsame]
    exact hid.symm
  refine ⟨?_, ?_, h.codes, h.prefixes⟩
  · intro row hput
    rcases mem_put hput with ⟨heq, -⟩ | ⟨hold, -⟩
    · rw [heq, hsession, hcreated]
      exact h.session connection hmem
    · exact h.session row hold
  · intro row hput other hput' hsame
    rcases mem_put hput with ⟨heq, -⟩ | ⟨hold, hne⟩
    · rcases mem_put hput' with ⟨heq', -⟩ | ⟨hold', hne'⟩
      · rw [heq, heq']
      rw [heq] at hsame
      exact absurd hsame.symm (hother other hold' hne')
    · rcases mem_put hput' with ⟨heq', -⟩ | ⟨hold', -⟩
      · rw [heq'] at hsame
        exact absurd hsame (hother row hold hne)
      · exact h.one row hold other hold' hsame

theorem PairingInv.paired (h : PairingInv H messages w)
    (hrow : w.pairings.lookup pairing.id = some pairing)
    (hsession : connection.pairingSessionId = pairing.id)
    (hcreated : connection.createdAt < pairing.expiresAt)
    (hunused : ∀ other ∈ w.connections.rows, other.pairingSessionId ≠ pairing.id) :
    PairingInv H messages { w with
      pairings := w.pairings.put { pairing with status := .paired }
      connections := w.connections.insert connection } := by
  have hclosed := h.closed hrow (.inr PairingStatus.noConfusion : PairingStatus.paired
    = pairing.status ∨ PairingStatus.paired ≠ .pending)
  refine ⟨?_, ?_, hclosed.codes, hclosed.prefixes⟩
  · intro row hmem
    rcases mem_insert hmem with heq | hold
    · rw [heq, hsession]
      exact ⟨_, lookup_put_self hrow, PairingStatus.noConfusion, hcreated⟩
    · exact hclosed.session row hold
  · intro row hmem other hmem' hsame
    rcases mem_insert hmem with heq | hold
    · rcases mem_insert hmem' with heq' | hold'
      · rw [heq, heq']
      rw [heq, hsession] at hsame
      exact absurd hsame.symm (hunused other hold')
    · rcases mem_insert hmem' with heq' | hold'
      · rw [heq', hsession] at hsame
        exact absurd hsame (hunused row hold)
      · exact h.one row hold other hold' hsame

theorem PairingInv.write (h : PairingInv H messages w) (hwrite : GatewayWrite H messages w w') :
    PairingInv H messages w' := by
  cases hwrite with
  | same expiring => exact ⟨h.session, h.one, h.codes, h.prefixes⟩
  | opened pairing body hid hPrefix hbody hhash hmessage =>
    exact h.opened hPrefix hbody hhash hmessage
  | closed pairing status expiring hrow hstatus =>
    have hclosed := h.closed hrow hstatus
    exact ⟨hclosed.session, hclosed.one, hclosed.codes, hclosed.prefixes⟩
  | paired pairing connection issue hrow hpending hsession hcreated hid hunused hholds hdrawn hnew
      hmessage =>
      have hpaired := h.paired hrow hsession hcreated hunused
      exact ⟨hpaired.session, hpaired.one, hpaired.codes, hpaired.prefixes⟩
  | kept connection changed hrow hid hhash hexpires hsession hcreated hrevoked =>
    exact h.put hrow hid hsession hcreated
  | rotated connection changed key record issue hrow hid hsession hcreated hactive hunused hrecord
      hholds hkey hvalue hnew hmessage hseed =>
      have hput := h.put hrow hid hsession hcreated
      exact ⟨hput.session, hput.one, hput.codes, hput.prefixes⟩

end NewsCraft.Gateway
