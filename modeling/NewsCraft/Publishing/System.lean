import Mathlib.Logic.Function.Basic
import NewsCraft.Jobs.Repository
import NewsCraft.Lib.Transition
import NewsCraft.Publishing.Reconciliation

/-!
# Workers, sweeps and operators on one publish job

Any number of workers run `publish_telegram` on the job at once. A step is one committed
transaction of one of them, the start or the return of one `client.execute` call, the death
of a worker, one lease sweep, or one reconciliation request. Clock readings, plans,
revalidation verdicts and the answers of Telegram are arbitrary arguments.

A worker's `Phase` is the point it has reached with the values it carries from there.
`calls` lists every call ever made; one that has not returned has no outcome.
-/

namespace NewsCraft.Publishing

open Lib Jobs

/-- How a call of `client.execute` returned. -/
inductive SendOutcome where
  | success (remoteMessageIds : List Int)
  | failure (error : PublicationError)

/-- A call of `client.execute` for an operation. -/
structure SendCall where
  operation : Nat
  outcome : Option SendOutcome

/-- The message may be in the channel: the call succeeded, failed unclearly, or is open. -/
def SendCall.mayHaveReached (call : SendCall) : Bool :=
  match call.outcome with
  | none => true
  | some (.success _) => true
  | some (.failure error) => (classifyPublicationFailure error).kind = .reconcile

/-- Where a worker is in `publish_telegram`. -/
inductive Phase where
  | idle
  /-- About to claim the operation at `position`, or to finalize after the last. -/
  | prepared (context : PublishContext) (position : Nat)
  | notDue (context : PublishContext) (retryAt : Datetime) (competingClaim : Bool)
  /-- The receipt is claimed; the token and the call come next. -/
  | claimed (context : PublishContext) (operation : TelegramPublishOperation) (attemptCount : Nat)
  /-- The call numbered `call` is under way. -/
  | sending (context : PublishContext) (operation : TelegramPublishOperation)
      (attemptCount call : Nat)
  /-- An exception is about to be recorded. -/
  | failed (context : PublishContext) (operation : TelegramPublishOperation) (attemptCount : Nat)
      (error : PublicationError)
  /-- The call succeeded and its receipt is about to be persisted. -/
  | sent (context : PublishContext) (operation : TelegramPublishOperation) (attemptCount : Nat)
      (remoteMessageIds : List Int)

/-- The rows of one publish job, its workers, and the calls made so far. -/
structure PublishWorld where
  record : PublishRecord
  workers : Nat → Phase
  calls : List SendCall
  events : List ReconciliationEvent

inductive PublishEvent where
  | prepare (worker : Nat) (inputs : PublishInputs) (observedAt : Datetime)
  | claim (worker : Nat) (claimTime : Datetime) (claimError : Option (String × String))
  | release (worker : Nat) (finishedAt : Datetime)
  /-- The token cannot be had or a fault is injected, before or after the call. -/
  | fault (worker : Nat) (error : PublicationError)
  | startCall (worker : Nat)
  | endCall (worker : Nat) (outcome : SendOutcome)
  | recordFailure (worker : Nat) (observedAt : Datetime)
  | persist (worker : Nat) (completedAt : Datetime)
  | finalize (worker : Nat) (conflict : Bool) (publishedAt : Datetime)
  | crash (worker : Nat)
  | leaseExpired (exhausted : Bool) (observedAt : Datetime)
  | reconcile (body : TelegramReconcileIn) (inputs : ReconcileInputs) (observedAt : Datetime)

/-- The rest of `_publish_one_operation` after the claim's transaction. -/
def afterClaim (context : PublishContext) (position : Nat) (operation : TelegramPublishOperation)
    (outcome : ClaimOutcome) : Phase :=
  if outcome.claimError.isSome then
    .idle
  else if outcome.alreadySucceeded then
    .prepared context (position + 1)
  else
    match outcome.retryAt with
    | some retryAt => .notDue context retryAt outcome.competingClaim
    | none => .claimed context operation outcome.claimedAttemptCount

/-- The lease sweep's effect on the job's publish rows. -/
def PublishRecord.sweepExpired (record : PublishRecord) (exhausted : Bool)
    (observedAt : Datetime) : PublishRecord :=
  match JobsDb.syncExpiredPublishAmbiguity record observedAt with
  | (true, record) => record
  | (false, record) =>
    if exhausted then JobsDb.syncTerminalExpiredPublish record observedAt else record

namespace PublishWorld

def setWorker (w : PublishWorld) (worker : Nat) (phase : Phase) : PublishWorld :=
  { w with workers := Function.update w.workers worker phase }

/-- Commit new rows and move the worker that committed them. -/
def commit (w : PublishWorld) (record : PublishRecord) (worker : Nat) (phase : Phase) :
    PublishWorld :=
  { w.setWorker worker phase with record := record }

/-- The state after one step; a step its worker is not ready for changes nothing. -/
def step (E : PublishEnv) (w : PublishWorld) : PublishEvent → PublishWorld
  | .prepare worker inputs observedAt =>
    match w.workers worker with
    | .idle =>
      match w.record.loadContext inputs observedAt with
      | .error _ => w.commit w.record.markPublishBlocked worker .idle
      | .ok (.context context, record) => w.commit record worker (.prepared context 0)
      | .ok (_, record) => w.commit record worker .idle
    | _ => w
  | .claim worker claimTime claimError =>
    match w.workers worker with
    | .prepared context position =>
      match context.plan.operations[position]? with
      | none => w
      | some operation =>
        match w.record.claimOperation context operation claimTime claimError with
        | .error _ => w.setWorker worker .idle
        | .ok (outcome, record) =>
          w.commit record worker (afterClaim context position operation outcome)
    | _ => w
  | .release worker finishedAt =>
    match w.workers worker with
    | .notDue context retryAt competingClaim =>
      w.commit (w.record.releaseClaimForRetry context retryAt competingClaim finishedAt)
        worker .idle
    | _ => w
  | .fault worker error =>
    match w.workers worker with
    | .claimed context operation attemptCount =>
      w.setWorker worker (.failed context operation attemptCount error)
    | .sent context operation attemptCount _ =>
      -- An exception raised after the call is not one of the client's.
      w.setWorker worker (.failed context operation attemptCount .other)
    | _ => w
  | .startCall worker =>
    match w.workers worker with
    | .claimed context operation attemptCount =>
      { w.setWorker worker (.sending context operation attemptCount w.calls.length) with
        calls := w.calls ++ [⟨operation.index, none⟩] }
    | _ => w
  | .endCall worker outcome =>
    match w.workers worker with
    | .sending context operation attemptCount call =>
      let phase := match outcome with
        | .success remoteMessageIds => .sent context operation attemptCount remoteMessageIds
        | .failure error => .failed context operation attemptCount error
      { w.setWorker worker phase with
        calls := w.calls.set call ⟨operation.index, some outcome⟩ }
    | _ => w
  | .recordFailure worker observedAt =>
    match w.workers worker with
    | .failed context operation attemptCount error =>
      w.commit (w.record.recordFailure context operation attemptCount error observedAt).2
        worker .idle
    | _ => w
  | .persist worker completedAt =>
    match w.workers worker with
    | .sent context operation attemptCount remoteMessageIds =>
      match w.record.persistOperationReceipt operation attemptCount remoteMessageIds
          completedAt with
      | .error _ => w.setWorker worker .idle
      | .ok record => w.commit record worker (.prepared context (operation.index + 1))
    | _ => w
  | .finalize worker conflict publishedAt =>
    match w.workers worker with
    | .prepared context position =>
      if context.plan.operations.length ≤ position then
        match w.record.finalizePublication E.permalink context conflict publishedAt with
        | .error _ => w.setWorker worker .idle
        | .ok (_, record) => w.commit record worker .idle
      else
        w
    | _ => w
  | .crash worker => w.setWorker worker .idle
  | .leaseExpired exhausted observedAt =>
    { w with record := w.record.sweepExpired exhausted observedAt }
  | .reconcile body inputs observedAt =>
    match w.record.reconcile E w.events body inputs observedAt with
    | .error _ => w
    | .ok (_, record, events) => { w with record := record, events := events }

end PublishWorld

/-- A publish job from its creation on, with no worker on it yet. -/
def PublishWorld.start (job : PublishJob) : PublishWorld :=
  ⟨⟨job, Table.empty, [], none⟩, fun _ => .idle, [], []⟩

/-- Every interleaving of workers, sweeps and operators on the publish job `job`. -/
def publishSystem (E : PublishEnv) (job : PublishJob) : System PublishWorld PublishEvent where
  init w := w = .start job
  step w event w' := w' = w.step E event

def PublishWorld.run (E : PublishEnv) (job : PublishJob) (events : List PublishEvent) :
    PublishWorld :=
  events.foldl (step E) (start job)

theorem PublishWorld.run_reachable (E : PublishEnv) (job : PublishJob)
    (events : List PublishEvent) : (publishSystem E job).Reachable (run E job events) :=
  System.reachable_foldl (fun _ _ => rfl) (.init rfl) events

def twoOperations : TelegramPublishPlan where
  payloadHash := "p"
  operations := [⟨0, "text", "sendMessage", "h0"⟩, ⟨1, "album", "sendMediaGroup", "h1"⟩]
  indexed := rfl

def queuedJob : PublishJob where
  id := 1
  workflowJobId := none
  destinationId := 2
  platformVariantRevisionId := 3
  status := .queued
  idempotencyKey := "k"
  payloadHash := "p"
  scheduledFor := none

end NewsCraft.Publishing
