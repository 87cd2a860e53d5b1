import NewsCraft.Publishing.DestinationRequests

/-!
# A healthy destination was checked as it is configured

A check's verdict is about what it read, one row at a time, before it writes. It is about
the present configuration when nothing of that has changed since, and the code does not see
to it: the comparison is made on the session's copy, and secrets change in place under the
same id. Every request that changes what a destination is reached with resets it.
-/

namespace NewsCraft.Publishing.Telegram

open Lib Checked Table List

namespace TelegramWorld

/-- A check that succeeded used what the destination is reached with at present. -/
def Verified (w : TelegramWorld) (destination : Destination) : Prop :=
  ⟨destination.id, w.db.configuration destination⟩ ∈ w.checked

/-- What a check writes healthy is reached with what the check used. -/
def AsChecked (w : TelegramWorld) : TelegramEvent → Prop
  | .check id .finish =>
    ∀ check used row, w.checks.lookup id = some check → check.phase = .answered (.ok used) →
      w.db.destinations.lookup check.destination.id = some row →
      check.destination.healthStatus = .healthy ∨ w.db.configuration row = used
  | _ => True

structure CheckedInv (w : TelegramWorld) : Prop where
  sound : Sound w.db
  verified : ∀ destination ∈ w.db.destinations.rows, destination.healthStatus = .healthy →
    w.Verified destination

variable {E : TelegramEnv} {w w' : TelegramWorld}

theorem CheckedInv.settled (h : CheckedInv w) (hdb : Settled w.db w'.db)
    (hchecked : w'.checked = w.checked) : CheckedInv w' := by
  refine ⟨hdb.sound, ?_⟩
  intro row' hrow' hhealthy'
  obtain ⟨row, hrow, hid, hhealthy, hsame⟩ := hdb.settles row' hrow' hhealthy'
  have hverified := h.verified row hrow hhealthy
  unfold Verified at hverified ⊢
  rw [hchecked, ← hid, ← hsame]
  exact hverified

theorem CheckedInv.same (h : CheckedInv w) (hdb : w'.db = w.db)
    (hchecked : w'.checked = w.checked) : CheckedInv w' := by
  refine ⟨hdb ▸ h.sound, ?_⟩
  unfold Verified
  rw [hdb, hchecked]
  exact h.verified

/-! ## The last transaction of a check -/

theorem verdict_snapshot (check : DestinationCheck) (result : Except TelegramError Configuration) :
    (check.verdict result).snapshot = check.destination.snapshot
      ∧ (check.verdict result).id = check.destination.id := by
  unfold DestinationCheck.verdict
  split_ifs <;> exact ⟨rfl, rfl⟩

theorem flush_snapshot {loaded changed : Destination} (row : Destination)
    (hsame : changed.snapshot = loaded.snapshot) :
    (Destination.flush loaded changed row).snapshot = row.snapshot := by
  have htarget : changed.targetRef = loaded.targetRef :=
    congrArg DestinationSnapshot.targetRef hsame
  have hsecretRef : changed.secretRef = loaded.secretRef :=
    congrArg DestinationSnapshot.secretRef hsame
  have hsecret : changed.secretId = loaded.secretId :=
    congrArg DestinationSnapshot.secretId hsame
  have hproxy : changed.proxyProfileId = loaded.proxyProfileId :=
    congrArg DestinationSnapshot.proxyProfileId hsame
  unfold Destination.flush Destination.snapshot
  rw [htarget, hsecretRef, hsecret, hproxy, written_same, written_same, written_same, written_same]

theorem flush_healthy {check : DestinationCheck} {result : Except TelegramError Configuration}
    {row : Destination}
    (h : (Destination.flush check.destination (check.verdict result) row).healthStatus = .healthy) :
    row.healthStatus = .healthy
      ∨ check.destination.healthStatus ≠ .healthy ∧ check.configurationChanged = false
        ∧ ∃ used, result = .ok used := by
  have hwritten : written check.destination.healthStatus (check.verdict result).healthStatus
      row.healthStatus = .healthy := h
  rcases written_cases check.destination.healthStatus (check.verdict result).healthStatus
    row.healthStatus with ⟨hrow, -⟩ | ⟨hnew, hne⟩
  · rw [hrow] at hwritten
    exact .inl hwritten
  · rw [hnew] at hwritten
    right
    rw [hwritten] at hne
    refine ⟨fun hcopy => hne hcopy.symm, ?_⟩
    unfold DestinationCheck.verdict at hwritten
    split_ifs at hwritten with hchanged hnone
    refine ⟨by simpa using hchanged, ?_⟩
    cases result with
    | ok used => exact ⟨used, rfl⟩
    | error error => cases hnone

theorem CheckedInv.finishCheck {check : DestinationCheck}
    {result : Except TelegramError Configuration} (h : CheckedInv w)
    (hfresh : ∀ used row, result = .ok used →
      w.db.destinations.lookup check.destination.id = some row →
      check.destination.healthStatus = .healthy ∨ w.db.configuration row = used) :
    CheckedInv (w.finishCheck check result) := by
  unfold TelegramWorld.finishCheck
  cases hrow : w.db.destinations.lookup check.destination.id with
  | none => exact h.same rfl rfl
  | some row =>
    have hmem := mem_of_lookup hrow
    have hid : row.id = check.destination.id := key_of_lookup hrow
    have hsame := flush_snapshot row (verdict_snapshot check result).1
    have htarget : (Destination.flush check.destination (check.verdict result) row).targetRef
        = row.targetRef := congrArg DestinationSnapshot.targetRef hsame
    have hsecret : (Destination.flush check.destination (check.verdict result) row).secretId
        = row.secretId := congrArg DestinationSnapshot.secretId hsame
    have hproxy : (Destination.flush check.destination (check.verdict result) row).proxyProfileId
        = row.proxyProfileId := congrArg DestinationSnapshot.proxyProfileId hsame
    refine ⟨sound_withDestinations h.sound fun row' hrow' => ?_, ?_⟩
    · rcases mem_put hrow' with ⟨rfl, -⟩ | ⟨hold, -⟩
      · right
        rw [hsecret, hproxy]
        exact ⟨h.sound.token row hmem, h.sound.proxy row hmem⟩
      · exact .inl hold
    · intro row' hrow' hhealthy
      rcases mem_put hrow' with ⟨rfl, -⟩ | ⟨hold, -⟩
      · have hconfiguration : w.db.configuration
            (Destination.flush check.destination (check.verdict result) row)
              = w.db.configuration row := by
          unfold TelegramDb.configuration
          rw [htarget, hsecret, hproxy]
        change ⟨row.id, w.db.configuration _⟩ ∈ w.checked ++ check.success result
        rw [hconfiguration]
        rcases flush_healthy hhealthy with hwas | ⟨hnot, hunchanged, used, hok⟩
        · exact mem_append_left _ (h.verified row hmem hwas)
        rcases hfresh used row hok hrow with hcopy | hused
        · exact absurd hcopy hnot
        subst hok
        refine mem_append_right _ ?_
        unfold DestinationCheck.success
        rw [hunchanged, hid, hused]
        exact mem_singleton_self _
      · exact mem_append_left _ (h.verified row' hold hhealthy)

/-! ## The last transaction of a check of a proxy -/

theorem CheckedInv.finishProxyCheck {check : ProxyCheck} {result : Except TelegramError Unit}
    (h : CheckedInv w) : CheckedInv (w.finishProxyCheck check result) := by
  unfold TelegramWorld.finishProxyCheck
  cases hrow : w.db.proxies.lookup check.profile.id with
  | none => exact h.same rfl rfl
  | some row =>
    have hsame : (TelegramProxyProfile.flush check.profile (check.verdict result) row).snapshot
          = row.snapshot
        ∧ (TelegramProxyProfile.flush check.profile (check.verdict result) row).usernameSecretId
          = row.usernameSecretId
        ∧ (TelegramProxyProfile.flush check.profile (check.verdict result) row).passwordSecretId
          = row.passwordSecretId := by
      unfold TelegramProxyProfile.flush ProxyCheck.verdict TelegramProxyProfile.snapshot
      split_ifs <;> simp only [written_same, and_self]
    obtain ⟨hsnapshot, husername, hpassword⟩ := hsame
    have hid : row.id = check.profile.id := key_of_lookup hrow
    refine h.settled (settled_putProxy row h.sound ?_ hsnapshot husername hpassword) rfl
    change w.db.proxies.lookup row.id = some row
    rw [hid]
    exact hrow

/-! ## Every step -/

theorem CheckedInv.stepCheck {id : UUID} {step : CheckStep} (h : CheckedInv w)
    (hok : w.AsChecked (.check id step)) : CheckedInv (w.stepCheck id step) := by
  unfold TelegramWorld.stepCheck
  split
  · split
    · exact h
    · exact h.same rfl rfl
  · exact h.same rfl rfl
  split
  · exact h
  rename_i check hcheck
  split
  · exact h.same rfl rfl
  · exact h.same rfl rfl
  · exact h.same rfl rfl
  · exact h.same rfl rfl
  · exact h.same rfl rfl
  · rename_i result hphase _ _
    refine h.finishCheck ?_
    intro used row hresult hrow
    subst hresult
    exact hok check used row hcheck hphase hrow
  · exact h

theorem CheckedInv.stepProxyCheck {id : UUID} {step : ProxyCheckStep} (h : CheckedInv w) :
    CheckedInv (w.stepProxyCheck id step) := by
  unfold TelegramWorld.stepProxyCheck
  cases step with
  | load proxyId =>
    dsimp only
    split
    · exact h
    · exact h.same rfl rfl
  | crash => exact h.same rfl rfl
  | reach problem =>
    dsimp only
    split
    · exact h.same rfl rfl
    · exact h
  | finish =>
    dsimp only
    split
    · exact h.finishProxyCheck
    · exact h

theorem CheckedInv.request {request : TelegramRequest} (h : CheckedInv w) :
    CheckedInv (w.request E request) := by
  unfold TelegramWorld.request
  split
  · rename_i db hhandle
    exact h.settled (handle_settled h.sound hhandle) rfl
  · exact h

theorem CheckedInv.next {event : TelegramEvent} (h : CheckedInv w) (hok : w.AsChecked event) :
    CheckedInv (w.next E event) := by
  cases event with
  | request request => exact h.request
  | check id step => exact h.stepCheck hok
  | proxyCheck id step => exact h.stepProxyCheck

/-- Every world that is reached keeps it, when whatever is written healthy is as it was checked. -/
theorem checkedInv_reachable (h : ((telegramSystem E).restrict AsChecked).Reachable w) :
    CheckedInv w := by
  induction h with
  | init hinit => exact ⟨hinit.sound, fun row hrow hhealthy =>
    absurd hhealthy (hinit.unhealthy row hrow)⟩
  | tail _ hstep ih =>
    obtain ⟨hok, rfl⟩ := hstep
    exact ih.next hok

/-- **A healthy destination was checked as it is configured**, when each check that writes it
healthy finds it, at its last transaction, as it used it; so what is enabled was verified. -/
theorem healthy_was_checked (h : ((telegramSystem E).restrict AsChecked).Reachable w) :
    (∀ destination ∈ w.db.destinations.rows, destination.healthStatus = .healthy →
        w.Verified destination) ∧ ∀ destination ∈ w.db.destinations.rows, ∀ enabled,
          destination.enable = .ok enabled → w.Verified destination := by
  have hinv := checkedInv_reachable h
  refine ⟨hinv.verified, ?_⟩
  intro destination hrow enabled henable
  refine hinv.verified destination hrow ?_
  unfold Destination.enable at henable
  split_ifs at henable with hready
  by_contra hnot
  exact hready (.inr (.inl hnot))

/-! ## A check, and a rotation in the middle of one -/

def uncheckedDestination : Destination where
  id := 1
  targetRef := "@news"
  canonicalTarget := some "@news"
  secretRef := "encrypted"
  secretId := some 2
  proxyProfileId := none
  enabled := false
  healthStatus := .unknown
  stages := ⟨.direct, .checking, .checking, .checking, .checking⟩
  failureCode := none

def oneDestination : TelegramWorld where
  db :=
    { destinations := Table.empty.insert uncheckedDestination
      proxies := Table.empty
      secrets := Table.empty.insert ⟨2, 1, .telegramBotToken, "old"⟩ }
  checks := Table.empty
  proxyChecks := Table.empty
  checked := []

/-- The texts of requests are taken as they are. -/
def plainTelegram : TelegramEnv where
  normalizeTarget := some
  normalizeProxyHost := some
  allowedProxyPort := fun _ => true

theorem oneDestination_unverified : Unverified oneDestination := by
  have hrow : ∀ destination ∈ oneDestination.db.destinations.rows,
      destination = uncheckedDestination := by
    intro destination hmem
    exact mem_singleton.mp hmem
  refine ⟨⟨?_, ?_, ?_, ?_⟩, ?_, rfl, rfl, rfl⟩
  · intro destination hmem id hid
    rw [hrow destination hmem] at hid ⊢
    cases hid
    exact ⟨"old", rfl⟩
  · intro destination hmem id hid
    rw [hrow destination hmem] at hid
    cases hid
  · nofun
  · nofun
  · intro destination hmem hhealthy
    rw [hrow destination hmem] at hhealthy
    cases hhealthy

/-- A check up to its last transaction, with what happens after it read the token. -/
def checkWith (between : List TelegramEvent) : List TelegramEvent :=
  [.check 3 (.load 1), .check 3 (.readProxy none), .check 3 (.readToken none)] ++ between
    ++ [.check 3 (.readRoute none), .check 3 (.ask .administrator)]

def beforeFinish (between : List TelegramEvent) : TelegramWorld :=
  (checkWith between).foldl (TelegramWorld.next plainTelegram) oneDestination

/-- Nothing happens in between, and what is found healthy is what was checked. -/
theorem undisturbed_check_verifies :
    ∃ destination ∈ ((beforeFinish []).next plainTelegram (.check 3 .finish)).db.destinations.rows,
      destination.healthStatus = .healthy
        ∧ ((beforeFinish []).next plainTelegram (.check 3 .finish)).Verified destination := by
  have hbefore : ((telegramSystem plainTelegram).restrict AsChecked).Reachable (beforeFinish []) := by
    have hstep : ∀ w event, AsChecked w event →
        ((telegramSystem plainTelegram).restrict AsChecked).step w event
          (w.next plainTelegram event) := fun w event hok => ⟨hok, rfl⟩
    refine System.reachable_along hstep (.init oneDestination_unverified) ?_
    exact ⟨trivial, trivial, trivial, trivial, trivial, trivial⟩
  have hundisturbed : AsChecked (beforeFinish []) (.check 3 .finish) := by
    intro check used row hcheck hphase hrow
    cases hcheck
    cases hphase
    cases hrow
    exact .inr rfl
  obtain ⟨hverified, -⟩ := healthy_was_checked (hbefore.tail (e := .check 3 .finish)
    ⟨hundisturbed, rfl⟩)
  obtain ⟨destination, hmem, hhealthy⟩ : ∃ destination ∈ ((beforeFinish []).next plainTelegram
      (.check 3 .finish)).db.destinations.rows, destination.healthStatus = .healthy := by
    decide +kernel
  exact ⟨destination, hmem, hhealthy, hverified destination hmem hhealthy⟩

/-- The token is rotated while a check is on its way, which then writes the destination healthy. -/
theorem rotation_during_a_check_is_missed :
    ¬ ∀ (E : TelegramEnv) (w : TelegramWorld), (telegramSystem E).Reachable w →
      (∀ destination ∈ w.db.destinations.rows, destination.healthStatus = .healthy →
          w.Verified destination) ∧ ∀ destination ∈ w.db.destinations.rows, ∀ enabled,
            destination.enable = .ok enabled → w.Verified destination := by
  intro hclaim
  have hreached : (telegramSystem plainTelegram).Reachable
      ((beforeFinish [.request (.rotateToken 1 "new" 4)]).next plainTelegram (.check 3 .finish)) :=
    (System.reachable_foldl (S := telegramSystem plainTelegram) (fun _ _ => rfl)
      (.init oneDestination_unverified) _).tail rfl
  have hverified := (hclaim plainTelegram _ hreached).1 { uncheckedDestination with
      healthStatus := .healthy
      stages := ⟨.direct, .healthy, .healthy, .healthy, .administrator⟩ } (by decide) rfl
  unfold Verified at hverified
  exact absurd hverified (by decide)

end TelegramWorld

end NewsCraft.Publishing.Telegram
