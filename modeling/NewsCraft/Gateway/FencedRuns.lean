import NewsCraft.Gateway.Fenced

/-!
# What stays so

A credential that was rotated away, expired or belongs to a revoked connection is refused
from then on, whatever requests come and whatever keys they repeat. A code is exchanged
once, and not after its session was cancelled, used or expired.
-/

namespace NewsCraft.Gateway

open Lib Redact GatewayCredentialHasher Table List

variable {H : GatewayCredentialHasher} {P : PythonText} {config : GatewaySettings}
  {messages : Text → Prop} {w w' : GatewayWorld}

/-- What holds in every world the gateway reaches. -/
structure GatewayInv (H : GatewayCredentialHasher) (messages : Text → Prop)
    (w : GatewayWorld) : Prop where
  credentials : CredentialInv H messages w
  pairings : PairingInv H messages w

theorem GatewayInv.write (h : GatewayInv H messages w) (hdigests : Collisionless H messages)
    (hwrite : GatewayWrite H messages w w') : GatewayInv H messages w' :=
  ⟨h.credentials.write hdigests hwrite, h.pairings.write hwrite⟩

theorem gatewayInv_init : GatewayInv H messages ⟨.empty, .empty, .empty, [], []⟩ := by
  refine ⟨⟨?_, ?_, nodup_nil, ?_, ?_⟩, ⟨?_, ?_, ?_, ?_⟩⟩
  all_goals
    intro row hmem
    cases hmem

theorem gatewayInv_reachable (hdigests : Collisionless H messages)
    (hreach : (gatewaySystem H P config messages).Reachable w) : GatewayInv H messages w := by
  induction hreach with
  | init hinit =>
    rw [hinit]
    exact gatewayInv_init
  | tail _ hstep ih =>
    obtain ⟨hfresh, hmessages, hnext⟩ := hstep
    rw [hnext]
    exact ih.write hdigests (handle_write hfresh hmessages)

/-! ## Credentials that are over -/

/-- The credential was rotated away, its time is over, or its connection is revoked. -/
def Over (issue : Issue) (t : Datetime) (w : GatewayWorld) : Prop :=
  issue ∈ w.issued
    ∧ (w.latest issue.connectionId ≠ some issue ∨ issue.expiresAt ≤ t
      ∨ ∃ connection, w.connections.lookup issue.connectionId = some connection
        ∧ connection.status = .revoked)

variable {issue : Issue}

theorem latest_cons_ne {newer : Issue} (hne : newer.value ≠ issue.value)
    (h : w.latest issue.connectionId ≠ some issue) :
    ({ w with issued := newer :: w.issued }).latest issue.connectionId ≠ some issue := by
  by_cases hsame : newer.connectionId = issue.connectionId
  · rw [← hsame, latest_cons_self]
    intro heq
    exact hne (congrArg Issue.value (Option.some.inj heq))
  · rw [latest_cons_of_ne hsame]
    exact h

variable {t : Datetime}

theorem Over.write (h : Over issue t w) (hinv : GatewayInv H messages w)
    (hdigests : Collisionless H messages) (hwrite : GatewayWrite H messages w w') :
    Over issue t w' := by
  obtain ⟨hmem, hover⟩ := h
  cases hwrite with
  | same _ | opened _ _ _ _ _ _ _ | closed _ _ _ _ _ => exact ⟨hmem, hover⟩
  | paired pairing connection newer hrow hpending hsession hcreated hid hunused hholds hdrawn hnew
      hmessage =>
      refine ⟨mem_cons_of_mem _ hmem, ?_⟩
      rcases hover with hrotated | hexpired | ⟨found, hfound, hrevoked⟩
      · exact .inl (latest_cons_ne (hnew issue hmem).symm hrotated)
      · exact .inr (.inl hexpired)
      · exact .inr (.inr ⟨found, lookup_insert_of_some hfound, hrevoked⟩)
  | kept connection changed hrow hid hhash hexpires hsession hcreated hstays =>
    refine ⟨hmem, ?_⟩
    rcases hover with hrotated | hexpired | ⟨found, hfound, hrevoked⟩
    · exact .inl hrotated
    · exact .inr (.inl hexpired)
    -- a revoked connection is written back revoked
    by_cases hsame : issue.connectionId = changed.id
    · rw [hsame, hid, hrow] at hfound
      cases hfound
      have hself : (w.connections.put changed).lookup changed.id = some changed :=
        lookup_put_self (hid ▸ hrow : w.connections.lookup changed.id = some connection)
      exact .inr (.inr ⟨changed, hsame ▸ hself, hstays hrevoked⟩)
    · exact .inr (.inr ⟨found, (lookup_put_of_ne hsame).trans hfound, hrevoked⟩)
  | rotated connection changed key record newer hrow hid hsession hcreated hactive hunused hrecord
      hholds hkey hvalue hnew hmessage hseed =>
      have hfresh := hinv.credentials.rotated_new hdigests hunused hvalue hnew hseed
      refine ⟨mem_cons_of_mem _ hmem, ?_⟩
      rcases hover with hrotated | hexpired | ⟨found, hfound, hrevoked⟩
      · exact .inl (latest_cons_ne (hfresh issue hmem).symm hrotated)
      · exact .inr (.inl hexpired)
      -- a revoked connection is not rotated
      by_cases hsame : issue.connectionId = changed.id
      · rw [hsame, hid, hrow] at hfound
        cases hfound
        rw [hactive] at hrevoked
        cases hrevoked
      · exact .inr (.inr ⟨found, (lookup_put_of_ne hsame).trans hfound, hrevoked⟩)

variable {authorization : Option Text} {now : Datetime} {connection : CodexConnection}

theorem authenticate_ok (h : w.authenticate H P authorization now = .ok connection) :
    connection ∈ w.connections.rows ∧ connection.status = .active ∧ now < connection.expiresAt
      ∧ ∃ credential, bearerValue P authorization = .ok credential
        ∧ H.digest "credential" credential = connection.credentialHash := by
  unfold GatewayWorld.authenticate at h
  cases hbearer : bearerValue P authorization with
  | error error =>
    rw [hbearer] at h
    cases h
  | ok credential =>
    rw [hbearer] at h
    dsimp only at h
    cases hfound : (parseCredentialPrefix credential).bind fun credentialPrefix =>
        w.connections.rows.find? fun row => row.credentialPrefix = credentialPrefix with
    | none =>
      rw [hfound] at h
      cases h
    | some row =>
      rw [hfound] at h
      dsimp only at h
      split_ifs at h with hmatches hrevoked hexpired
      cases h
      obtain ⟨codePrefix, -, hrow⟩ := Option.bind_eq_some_iff.mp hfound
      refine ⟨mem_of_find?_eq_some hrow, ?_, not_le.mp hexpired, credential, rfl, ?_⟩
      · cases hstatus : connection.status with
        | active => rfl
        | revoked => exact absurd hstatus hrevoked
      · rw [Bool.not_eq_false] at hmatches
        exact of_decide_eq_true hmatches

variable {credential : Text}

theorem authenticate_latest (hinv : GatewayInv H messages w) (hdigests : Collisionless H messages)
    (hbearer : bearerValue P authorization = .ok credential)
    (hknown : messages (message "credential" credential))
    (h : w.authenticate H P authorization now = .ok connection) :
    ∃ issue, w.latest connection.id = some issue ∧ issue.value = credential
      ∧ issue.connectionId = connection.id ∧ now < issue.expiresAt := by
  obtain ⟨hmem, -, hopen, found, hfound, hdigest⟩ := authenticate_ok h
  rw [hbearer] at hfound
  cases hfound
  obtain ⟨issue, hlatest, hholds⟩ := hinv.credentials.current connection hmem
  have hissued : issue ∈ w.issued := mem_of_find?_eq_some hlatest
  refine ⟨issue, hlatest, ?_, hholds.id, ?_⟩
  · rw [hholds.hash] at hdigest
    exact (hdigests.value_eq hknown (hinv.credentials.known issue hissued) hdigest).symm
  · rw [← hholds.expiresAt]
    exact hopen

theorem Over.refused (h : Over issue t w) (hinv : GatewayInv H messages w)
    (hdigests : Collisionless H messages) (hnow : t ≤ now)
    (hbearer : bearerValue P authorization = .ok issue.value) (connection : CodexConnection) :
    w.authenticate H P authorization now ≠ .ok connection := by
  intro hok
  obtain ⟨hmem, hover⟩ := h
  obtain ⟨found, hlatest, hvalue, hid, hopen⟩ := authenticate_latest hinv hdigests hbearer
    (hinv.credentials.known issue hmem) hok
  have hfound : found ∈ w.issued := mem_of_find?_eq_some hlatest
  have hsame : found = issue :=
    inj_on_of_nodup_map hinv.credentials.distinct hfound hmem hvalue
  rw [hsame] at hlatest hid hopen
  obtain ⟨hrow, hactive, -⟩ := authenticate_ok hok
  rcases hover with hrotated | hexpired | ⟨row, hlookup, hrevoked⟩
  · rw [hid] at hrotated
    exact hrotated hlatest
  · exact absurd hopen (not_lt.mpr (hexpired.trans hnow))
  have hkeyed := lookup_of_mem hrow
  have hkey : Keyed.key connection = connection.id := rfl
  rw [hkey, ← hid, hlookup] at hkeyed
  cases hkeyed
  rw [hactive] at hrevoked
  cases hrevoked

/-! ## Codes that are over -/

/-- The session of the code is not pending any more, or its time is over. -/
def Spent (H : GatewayCredentialHasher) (code : Text) (t : Datetime) (w : GatewayWorld) : Prop :=
  ∃ pairing ∈ w.pairings.rows, H.digest "pairing-code" code = pairing.codeHash
    ∧ (pairing.status ≠ .pending ∨ pairing.expiresAt ≤ t)

variable {code : Text}

theorem Spent.put (h : Spent H code t w) {pairing : CodexPairingSession} {status : PairingStatus}
    (hrow : w.pairings.lookup pairing.id = some pairing)
    (hstatus : status = pairing.status ∨ status ≠ .pending) :
    Spent H code t { w with pairings := w.pairings.put { pairing with status := status } } := by
  obtain ⟨found, hmem, hcode, hover⟩ := h
  by_cases hsame : found.id = pairing.id
  · have hfound : found = pairing :=
      row_unique hmem (mem_of_lookup hrow) hsame
    rw [hfound] at hcode hover
    refine ⟨_, mem_put_self (mem_of_lookup hrow) rfl, hcode, ?_⟩
    rcases hover with hdone | hexpired
    · rcases hstatus with hkept | hother
      · rw [hkept]
        exact .inl hdone
      · exact .inl hother
    · exact .inr hexpired
  · exact ⟨found, mem_put_of_ne hmem hsame, hcode, hover⟩

theorem Spent.write (h : Spent H code t w) (hwrite : GatewayWrite H messages w w') :
    Spent H code t w' := by
  cases hwrite with
  | same _ | kept _ _ _ _ _ _ _ _ _ => exact h
  | opened pairing body hid hPrefix hbody hhash hmessage =>
    obtain ⟨found, hmem, hcode, hover⟩ := h
    exact ⟨found, mem_insert_of_mem hmem, hcode, hover⟩
  | closed pairing status expiring hrow hstatus => exact h.put hrow hstatus
  | paired pairing connection issue hrow hpending hsession hcreated hid hunused hholds hdrawn hnew
      hmessage =>
      exact h.put hrow (.inr PairingStatus.noConfusion)
  | rotated connection changed key record issue hrow hid hsession hcreated hactive hunused hrecord
      hholds hkey hvalue hnew hmessage hseed =>
      exact h

theorem pairingOf_eq (hinv : GatewayInv H messages w) (hdigests : Collisionless H messages)
    (hknown : messages (message "pairing-code" code)) {pairing found : CodexPairingSession}
    (hmem : pairing ∈ w.pairings.rows) (hcode : H.digest "pairing-code" code = pairing.codeHash)
    (hfound : w.pairingOf code = some found) : found = pairing := by
  obtain ⟨body, hPrefix, hhash, hmessage⟩ := hinv.pairings.codes pairing hmem
  have hbody : code = "ncp_".toList ++ body :=
    hdigests.value_eq hknown hmessage (hcode.trans hhash)
  obtain ⟨codePrefix, hparsed, hrow⟩ := Option.bind_eq_some_iff.mp hfound
  have hrowMem := mem_of_find?_eq_some hrow
  have hrowPrefix : found.codePrefix = codePrefix := by simpa using find?_some hrow
  have hcodePrefix : codePrefix = pairing.codePrefix := by
    unfold parsePairingPrefix at hparsed
    dsimp only at hparsed
    split_ifs at hparsed with hpattern
    have hdrop : ("ncp_".toList ++ body).drop 4 = body := rfl
    rw [hbody, hdrop] at hparsed
    rw [hPrefix]
    exact (Option.some.inj hparsed).symm
  exact row_unique hrowMem hmem
    (hinv.pairings.prefixes found hrowMem pairing hmem (hrowPrefix.trans hcodePrefix))

variable {id : UUID}

theorem exchange_paired {credentialPrefix secret : Text} {connectionId : UUID}
    (h : (w.exchangePairingCode H config code credentialPrefix secret connectionId now).2 = .paired
      id credential) :
    ∃ pairing, w.pairingOf code = some pairing ∧ pairing.status = .pending
      ∧ now < pairing.expiresAt ∧ H.digest "pairing-code" code = pairing.codeHash := by
  unfold GatewayWorld.exchangePairingCode at h
  cases hfound : w.pairingOf code with
  | none =>
    rw [hfound] at h
    cases h
  | some pairing =>
    rw [hfound] at h
    dsimp only at h
    by_cases hbad : pairing.status ≠ .pending ∨ pairing.expiresAt ≤ now
        ∨ H.matchesDigest "pairing-code" code pairing.codeHash = false
    · rw [if_pos hbad] at h
      cases h
    · rw [not_or, not_or, not_not, not_le, Bool.not_eq_false] at hbad
      obtain ⟨hpending, hopen, hmatches⟩ := hbad
      exact ⟨pairing, rfl, hpending, hopen, of_decide_eq_true hmatches⟩

theorem Spent.refused (h : Spent H code t w) (hinv : GatewayInv H messages w)
    (hdigests : Collisionless H messages) (hnow : t ≤ now)
    (hknown : messages (message "pairing-code" code)) (credentialPrefix secret : Text)
    (connectionId id : UUID) (credential : Text) :
    (w.exchangePairingCode H config code credentialPrefix secret connectionId now).2
      ≠ .paired id credential := by
  intro hpaired
  obtain ⟨found, hfound, hpending, hopen, -⟩ := exchange_paired hpaired
  obtain ⟨pairing, hmem, hcode, hover⟩ := h
  have hsame := pairingOf_eq hinv hdigests hknown hmem hcode hfound
  rw [hsame] at hpending hopen
  rcases hover with hdone | hexpired
  · exact hdone hpending
  · exact absurd hopen (not_lt.mpr (hexpired.trans hnow))

/-- The connections that a code was exchanged for. -/
def GatewayWorld.madeOf (H : GatewayCredentialHasher) (w : GatewayWorld) (code : Text) :
    List CodexConnection :=
  w.connections.rows.filter fun connection =>
    (w.pairings.lookup connection.pairingSessionId).any fun pairing =>
      H.matchesDigest "pairing-code" code pairing.codeHash

theorem exchange_made {credentialPrefix secret : Text} {connectionId : UUID}
    (h : (w.exchangePairingCode H config code credentialPrefix secret connectionId now).2 = .paired
      id credential) :
    (∃ connection ∈ (w.exchangePairingCode H config code credentialPrefix secret connectionId
        now).1.madeOf H code, connection.id = id) ∧ ∀ t, Spent H code t
        (w.exchangePairingCode H config code credentialPrefix secret connectionId now).1 := by
  obtain ⟨pairing, hfound, hpending, hopen, hcode⟩ := exchange_paired h
  have hrow := pairingOf_some hfound
  unfold GatewayWorld.exchangePairingCode at h ⊢
  rw [hfound] at h ⊢
  dsimp only at h ⊢
  have hgood : ¬(pairing.status ≠ .pending ∨ pairing.expiresAt ≤ now
      ∨ H.matchesDigest "pairing-code" code pairing.codeHash = false) := by
    rw [not_or, not_or, not_not, not_le, Bool.not_eq_false]
    exact ⟨hpending, hopen, decide_eq_true hcode⟩
  rw [if_neg hgood] at h ⊢
  let connection := GatewayWorld.newConnection config pairing
    (H.credentialOf credentialPrefix secret) connectionId now
  by_cases htaken : w.connectionTaken connection = true
  · rw [if_pos htaken] at h
    cases h
  · rw [if_neg htaken] at h ⊢
    cases h
    have hpaired : (w.pairings.put { pairing with status := .paired }).lookup pairing.id
        = some { pairing with status := .paired } := lookup_put_self hrow
    have hfree : w.connections.lookup connection.id = none := by
      cases hlookup : w.connections.lookup connection.id with
      | none => rfl
      | some row =>
        have hid : row.id = connection.id := key_of_lookup hlookup
        refine absurd (any_eq_true.mpr ⟨row, mem_of_lookup hlookup, ?_⟩) htaken
        exact decide_eq_true (.inl hid)
    refine ⟨⟨connection, mem_filter.mpr ⟨?_, ?_⟩, rfl⟩, ?_⟩
    · exact mem_of_lookup (lookup_insert hfree).1
    · have hsession : connection.pairingSessionId = pairing.id := rfl
      rw [hsession, hpaired]
      exact decide_eq_true hcode
    · intro t
      exact ⟨_, mem_of_lookup hpaired, hcode, .inl PairingStatus.noConfusion⟩

theorem madeOf_unique (hinv : GatewayInv H messages w) (hdigests : Collisionless H messages)
    {other : CodexConnection} (hmem : connection ∈ w.madeOf H code)
    (hother : other ∈ w.madeOf H code) : connection = other := by
  -- the sessions of the two have the same code
  have hsession : ∀ row ∈ w.madeOf H code, row ∈ w.connections.rows ∧ ∃ pairing,
      w.pairings.lookup row.pairingSessionId = some pairing
        ∧ H.digest "pairing-code" code = pairing.codeHash := by
    intro row hrow
    obtain ⟨hrows, hany⟩ := mem_filter.mp hrow
    cases hlookup : w.pairings.lookup row.pairingSessionId with
    | none =>
      rw [hlookup] at hany
      cases hany
    | some pairing =>
      rw [hlookup] at hany
      exact ⟨hrows, pairing, rfl, of_decide_eq_true hany⟩
  obtain ⟨hrow, pairing, hlookup, hcode⟩ := hsession connection hmem
  obtain ⟨hrow', pairing', hlookup', hcode'⟩ := hsession other hother
  have hpairing := mem_of_lookup hlookup
  have hpairing' := mem_of_lookup hlookup'
  obtain ⟨body, hPrefix, hhash, hmessage⟩ := hinv.pairings.codes pairing hpairing
  obtain ⟨body', hPrefix', hhash', hmessage'⟩ := hinv.pairings.codes pairing' hpairing'
  have hbody := hdigests.value_eq hmessage hmessage'
    (hhash.symm.trans (hcode.symm.trans (hcode'.trans hhash')))
  rw [append_cancel_left hbody, ← hPrefix'] at hPrefix
  have hid := hinv.pairings.prefixes pairing hpairing pairing' hpairing' hPrefix
  refine hinv.pairings.one connection hrow other hrow' ?_
  have hkey : pairing.id = connection.pairingSessionId := key_of_lookup hlookup
  have hkey' : pairing'.id = other.pairingSessionId := key_of_lookup hlookup'
  rw [← hkey, ← hkey', hid]

/-! ## Replayed rotations -/

/-- A key that was used before writes nothing and gives the credential that is current, if any. -/
theorem rotate_replayed (hinv : GatewayInv H messages w) (hdigests : Collisionless H messages)
    {key : Text} {checkedAt : Datetime}
    (hused : ∃ issue ∈ w.issued, issue.connectionId = id ∧ issue.rotation = some key) :
    (w.rotate H config id key checkedAt now).1 = w
      ∧ ((∃ error, (w.rotate H config id key checkedAt now).2 = .refused error)
        ∨ ∃ issue, w.latest id = some issue
          ∧ (w.rotate H config id key checkedAt now).2 = .issued issue.value) := by
  obtain ⟨issue, hmem, hid, hkey⟩ := hused
  obtain ⟨hvalue, hrecord, -⟩ := hinv.credentials.rotations issue hmem key hkey
  rw [hid] at hvalue hrecord
  unfold GatewayWorld.rotate
  cases hrow : w.connections.lookup id with
  | none => exact ⟨rfl, .inl ⟨_, rfl⟩⟩
  | some connection =>
    have hconnectionId : connection.id = id := key_of_lookup hrow
    dsimp only
    by_cases hinactive : connection.status ≠ .active ∨ connection.expiresAt ≤ checkedAt
    · rw [if_pos hinactive]
      exact ⟨rfl, .inl ⟨_, rfl⟩⟩
    rw [if_neg hinactive, if_pos hrecord]
    by_cases hstale : H.matchesDigest "credential" (H.rotated id key).value
        connection.credentialHash = false
    · rw [if_pos hstale]
      exact ⟨rfl, .inl ⟨_, rfl⟩⟩
    · rw [if_neg hstale]
      rw [Bool.not_eq_false] at hstale
      obtain ⟨last, hlatest, hholds⟩ :=
        hinv.credentials.current connection (mem_of_lookup hrow)
      have hlast : last ∈ w.issued := mem_of_find?_eq_some hlatest
      have hdigest : H.digest "credential" issue.value = H.digest "credential" last.value := by
        rw [hvalue, ← hholds.hash]
        exact of_decide_eq_true hstale
      have hsame := hdigests.value_eq (hinv.credentials.known issue hmem)
        (hinv.credentials.known last hlast) hdigest
      refine ⟨rfl, .inr ⟨last, ?_, ?_⟩⟩
      · rw [← hconnectionId]
        exact hlatest
      · rw [← hsame, hvalue]

/-! ## Every history -/

/-- The credentials and the codes of a world are fenced, in it and in every later one. -/
structure GatewayFenced (H : GatewayCredentialHasher) (P : PythonText) (config : GatewaySettings)
    (messages : Text → Prop) (w : GatewayWorld) : Prop where
  /-- A code has led to one connection at most. -/
  codeOnce : ∀ code, ∀ connection ∈ w.madeOf H code, ∀ other ∈ w.madeOf H code, connection = other
  /-- An exchange that is accepted makes a connection of its code and uses the code. -/
  codeUsed : ∀ code credentialPrefix secret connectionId now id credential,
    (w.handle H P config (.exchange code credentialPrefix secret connectionId now)).2
        = .paired id credential →
      (∃ connection ∈ (w.handle H P config (.exchange code credentialPrefix secret connectionId
          now)).1.madeOf H code, connection.id = id)
        ∧ ∀ t, Spent H code t
          (w.handle H P config (.exchange code credentialPrefix secret connectionId now)).1
  /-- A code leads to none after its session was cancelled, used or expired. -/
  codeSpent : ∀ code t, messages (message "pairing-code" code) → Spent H code t w →
    ∀ events w', (gatewaySystem H P config messages).Run w events w' →
      ∀ credentialPrefix secret connectionId now, t ≤ now → ∀ id credential,
        (w'.handle H P config (.exchange code credentialPrefix secret connectionId now)).2
          ≠ .paired id credential
  /-- One credential at most authenticates for a connection. -/
  oneCredential : ∀ authorization authorization' credential credential' now connection,
    bearerValue P authorization = .ok credential → bearerValue P authorization' = .ok credential' →
    messages (message "credential" credential) → messages (message "credential" credential') →
    w.authenticate H P authorization now = .ok connection →
    w.authenticate H P authorization' now = .ok connection → credential = credential'
  /-- One that was rotated away, expired or revoked never authenticates again. -/
  noReturn : ∀ issue t, Over issue t w →
    ∀ events w', (gatewaySystem H P config messages).Run w events w' →
      ∀ authorization now, t ≤ now → bearerValue P authorization = .ok issue.value →
        ∀ connection, w'.authenticate H P authorization now ≠ .ok connection
  /-- A key that was used before changes nothing, and gives the current credential if any. -/
  replayed : ∀ id key, (∃ issue ∈ w.issued, issue.connectionId = id ∧ issue.rotation = some key) →
    ∀ checkedAt now, (w.handle H P config (.rotate id key checkedAt now)).1 = w
      ∧ ((∃ error, (w.handle H P config (.rotate id key checkedAt now)).2 = .refused error)
        ∨ ∃ issue, w.latest id = some issue
          ∧ (w.handle H P config (.rotate id key checkedAt now)).2 = .issued issue.value)

theorem GatewayInv.run (h : GatewayInv H messages w) (hdigests : Collisionless H messages)
    {Q : GatewayWorld → Prop}
    (hwrite : ∀ w w', GatewayInv H messages w → GatewayWrite H messages w w' → Q w → Q w')
    {events : List GatewayEvent} (hrun : (gatewaySystem H P config messages).Run w events w')
    (hstart : Q w) : GatewayInv H messages w' ∧ Q w' := by
  refine System.Run.preserves (P := fun w => GatewayInv H messages w ∧ Q w) ?_ hrun ⟨h, hstart⟩
  intro s event s' hs hstep
  obtain ⟨hfresh, hmessages, hnext⟩ := hstep
  have hone : GatewayWrite H messages s (s.handle H P config event).1 :=
    handle_write hfresh hmessages
  rw [hnext]
  exact ⟨hs.1.write hdigests hone, hwrite s _ hs.1 hone hs.2⟩

/-- **Codes and credentials are fenced in every history.** -/
theorem gateway_fenced (hdigests : Collisionless H messages)
    (hreach : (gatewaySystem H P config messages).Reachable w) :
    GatewayFenced H P config messages w := by
  have hinv := gatewayInv_reachable hdigests hreach
  refine ⟨?_, ?_, ?_, ?_, ?_, ?_⟩
  · intro code connection hmem other hother
    exact madeOf_unique hinv hdigests hmem hother
  · intro code credentialPrefix secret connectionId now id credential hpaired
    exact exchange_made hpaired
  · intro code t hknown hspent events w' hrun credentialPrefix secret connectionId now hnow
    obtain ⟨hinv', hspent'⟩ := hinv.run hdigests (fun _ _ _ hwrite h => h.write hwrite) hrun hspent
    exact hspent'.refused hinv' hdigests hnow hknown credentialPrefix secret connectionId
  · intro authorization authorization' credential credential' now connection hbearer hbearer' hknown
      hknown' hok hok'
    obtain ⟨issue, hlatest, hvalue, -⟩ := authenticate_latest hinv hdigests hbearer hknown hok
    obtain ⟨issue', hlatest', hvalue', -⟩ := authenticate_latest hinv hdigests hbearer' hknown' hok'
    rw [hlatest] at hlatest'
    cases hlatest'
    exact hvalue.symm.trans hvalue'
  · intro issue t hover events w' hrun authorization now hnow hbearer
    obtain ⟨hinv', hover'⟩ := hinv.run hdigests
      (fun _ _ hthere hwrite h => h.write hthere hdigests hwrite) hrun hover
    exact hover'.refused hinv' hdigests hnow hbearer
  · intro id key hused checkedAt now
    exact rotate_replayed hinv hdigests hused

/-! ## One rotation -/

def sampleBody : Text := "k7Qm2ZrT4xVb9LwNp1Ys6HdJ0cFgA3eUiOoB5vCt8MqXnRzE".toList
def sampleCode : Text := "ncp_k7Qm2ZrT4xVb9LwNp1Ys6HdJ0cFgA3eUiOoB5vCt8MqXnRzE".toList
def sampleSeed : Text := "credential_rotate:00000000-0000-0000-0000-000000000002:rotation-1".toList
def drawnCredential : Text :=
  "ncg_Yw3n5KqPz8Lt_r9GdT2mVx7QbN4cHs1JkF6wZp8YuL3eA0oIiBtRvCnXqMzUE".toList
def derivedCredential : Text :=
  "ncg_rhakXLz7_ee5_N8tSngbnxipyBqYFIrGdTgZpJZ_nkySkXeIOjsz9cAybw3D5".toList

/-- HMAC-SHA256 of the messages under the key of the bytes 0 to 31. -/
def sampleDigests : List (Text × List UInt8) := [
    (message "pairing-code" sampleCode,
      [226, 129, 3, 219, 202, 219, 249, 23, 91, 225, 35, 126, 45, 233, 75, 223, 118, 127, 143,
      212, 45, 4, 56, 158, 143, 60, 34, 146, 199, 132, 100, 210]),
    (message "credential" drawnCredential,
      [194, 186, 172, 22, 182, 162, 245, 134, 22, 20, 198, 13, 40, 143, 218, 233, 88, 18, 61,
      189, 245, 84, 132, 130, 212, 54, 84, 190, 37, 139, 197, 19]),
    (message "idempotency" sampleSeed,
      [12, 148, 64, 9, 140, 103, 208, 111, 63, 109, 32, 187, 142, 240, 224, 35, 113, 21, 241,
      151, 61, 233, 178, 89, 112, 72, 145, 56, 194, 85, 223, 0]),
    (message "credential-prefix" sampleSeed,
      [174, 22, 164, 92, 188, 251, 253, 231, 185, 117, 157, 96, 45, 246, 163, 34, 114, 156, 115,
      215, 70, 119, 73, 202, 150, 116, 254, 77, 163, 150, 193, 75]),
    (message "credential-secret-a" sampleSeed,
      [55, 203, 82, 158, 6, 231, 198, 42, 114, 6, 166, 5, 34, 177, 157, 78, 6, 105, 37, 159,
      231, 147, 36, 164, 93, 226, 14, 142, 204, 253, 112, 12]),
    (message "credential-secret-b" sampleSeed,
      [155, 195, 112, 249, 37, 108, 180, 9, 220, 93, 158, 75, 193, 18, 60, 18, 143, 49, 23, 153,
      17, 146, 126, 33, 165, 45, 35, 31, 232, 204, 89, 118]),
    (message "credential" derivedCredential,
      [36, 71, 52, 236, 173, 228, 106, 12, 120, 62, 185, 2, 137, 19, 197, 207, 142, 34, 119, 50,
      88, 98, 220, 128, 235, 41, 244, 192, 139, 236, 200, 233])]

def sampleHmac (message : Text) : List UInt8 :=
  ((sampleDigests.find? fun entry => entry.1 = message).map Prod.snd).getD (List.replicate 32 0)

theorem length_sampleHmac (message : Text) : (sampleHmac message).length = 32 := by
  have hall : ∀ entry ∈ sampleDigests, entry.2.length = 32 := by decide +kernel
  unfold sampleHmac
  cases hfound : sampleDigests.find? fun entry => entry.1 = message with
  | none => rfl
  | some entry => exact hall entry (mem_of_find?_eq_some hfound)

def sampleHasher : GatewayCredentialHasher := ⟨sampleHmac, length_sampleHmac⟩

def SampleMessage (message : Text) : Prop := message ∈ sampleDigests.map Prod.fst

instance (message : Text) : Decidable (SampleMessage message) :=
  inferInstanceAs (Decidable (message ∈ sampleDigests.map Prod.fst))

theorem sample_collisionless : Collisionless sampleHasher SampleMessage := by
  have hall : ∀ m ∈ sampleDigests.map Prod.fst, ∀ m' ∈ sampleDigests.map Prod.fst,
      sampleHmac m = sampleHmac m' → m = m' := by decide +kernel
  intro m m' hm hm' hsame
  exact hall m hm m' hm' hsame

def sampleSettings : GatewaySettings := ⟨600, 86400⟩

def sampleGateway (events : List GatewayEvent) : GatewayWorld :=
  events.foldl (fun w event => (w.handle sampleHasher .ascii sampleSettings event).1)
    ⟨.empty, .empty, .empty, [], []⟩

def sampleRequests : List GatewayEvent :=
  [.createPairing 1 sampleBody "laptop" ["jobs:read"] 0,
    .exchange sampleCode "Yw3n5KqPz8Lt".toList
      "r9GdT2mVx7QbN4cHs1JkF6wZp8YuL3eA0oIiBtRvCnXqMzUE".toList 2 1000000,
    .rotate 2 "rotation-1".toList 2000000 2000000]

theorem sampleGateway_reachable :
    (gatewaySystem sampleHasher .ascii sampleSettings SampleMessage).Reachable
      (sampleGateway sampleRequests) := by
  have hstep : ∀ (w : GatewayWorld) (event : GatewayEvent),
      (w.Fresh sampleHasher event ∧ ∀ m ∈ event.messages sampleHasher .ascii, SampleMessage m) →
        (gatewaySystem sampleHasher .ascii sampleSettings SampleMessage).step w event
          (w.handle sampleHasher .ascii sampleSettings event).1 :=
    fun w event hok => ⟨hok.1, hok.2, rfl⟩
  refine System.reachable_along hstep (.init rfl) ⟨⟨trivial, ?_⟩, ⟨?_, ?_⟩, ⟨?_, ?_⟩, trivial⟩
  · decide +kernel
  · nofun
  · decide +kernel
  · intro issue hmem hdrawn
    rcases mem_singleton.mp hmem with rfl
    decide +kernel
  · decide +kernel

/-- The derived credential authenticates after the rotation, and the one drawn does not. -/
theorem sampleGateway_fenced :
    GatewayFenced sampleHasher .ascii sampleSettings SampleMessage (sampleGateway sampleRequests)
      ∧ (((sampleGateway sampleRequests).authenticate sampleHasher .ascii
          (some ("Bearer ".toList ++ derivedCredential)) 3000000).toOption.map
            CodexConnection.id) = some 2
      ∧ ((sampleGateway sampleRequests).authenticate sampleHasher .ascii
          (some ("Bearer ".toList ++ drawnCredential)) 3000000).toOption = none := by
  refine ⟨gateway_fenced sample_collisionless sampleGateway_reachable, ?_, ?_⟩
  · decide +kernel
  · decide +kernel

end NewsCraft.Gateway
