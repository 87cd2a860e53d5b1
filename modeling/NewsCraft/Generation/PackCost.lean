import Mathlib
import NewsCraft.Core.Basic
import NewsCraft.Lib.Table
import NewsCraft.Lib.Transition

/-!
# What a content pack costs

The canonical story comes first, by a job of its own, then the platforms in their order, by
the job that one enqueues. What a call of the provider cost is recorded with its attempt;
the budget is compared when a call has returned, with the costs the job carries along.

An attempt that fails, is interrupted or superseded can be tried again. Jobs may run more
than once at a time, so a worker is an execution, and an event is one transaction or one
call of one execution.
-/

namespace NewsCraft.Generation.PackCost

open Lib

/-! ## Usage -/

/-- The numbers of a provider's usage; what is not a finite number is left out. -/
structure ProviderUsage where
  costUsd : Option Rat
  inputTokens : Option Rat
  outputTokens : Option Rat

/-- A profile as a job has it frozen: its budgets, and the prices of a million tokens. -/
structure ResolvedProviderProfile where
  maxOutputTokens : Option Rat
  maxPackCostUsd : Option Rat
  pricing : Option (Rat × Rat)
  budgetPositive : ∀ most ∈ maxPackCostUsd, 0 < most

/-- How a call ends that returned and is not accepted. -/
inductive NeedsReview where
  | usageInvalid
  | outputBudgetExhausted
  | packCostBudgetExhausted
  | outputInvalid

/-- What the tokens cost under the prices of the profile. -/
def pricedCost (pricing : Option (Rat × Rat)) (inputTokens outputTokens : Rat) : Rat :=
  match pricing with
  | none => 0
  | some (input, output) => (inputTokens * input + outputTokens * output) / 1000000

/-- `normalize_provider_usage`: the cost of a call. -/
def normalizeProviderUsage (usage : ProviderUsage) (resolved : ResolvedProviderProfile) :
    Except NeedsReview Rat :=
  match usage.costUsd, usage.inputTokens, usage.outputTokens with
  | some supplied, some inputTokens, some outputTokens =>
    if supplied < 0 ∨ inputTokens < 0 ∨ outputTokens < 0 then
      .error .usageInvalid
    else if resolved.maxOutputTokens.any fun most => outputTokens > most then
      .error .outputBudgetExhausted
    else
      .ok (max supplied (pricedCost resolved.pricing inputTokens outputTokens))
  | _, _, _ => .error .usageInvalid

/-! ## Runs and attempts -/

/-- What identifies a stage: the job, the place (the canonical story's is 0), the input's hash. -/
structure StageKey where
  job : Option Nat
  place : Nat
  inputHash : String
  deriving DecidableEq

inductive RunStatus where
  | running
  | succeeded
  | failed
  deriving DecidableEq

/-- A generation run; `artifact` says that what the stage produced was stored. -/
structure GenerationRun where
  key : StageKey
  status : RunStatus
  workflowAttempt : Nat
  active : UUID
  artifact : Bool

/-- An attempt, with the cost its usage records, which is nothing at first. -/
structure GenerationAttempt where
  id : UUID
  run : StageKey
  attemptNumber : Nat
  status : RunStatus
  costUsd : Rat

inductive Phase where
  | ready
  /-- The attempt was made, and its call is still to be made. -/
  | started (key : StageKey) (attemptId : UUID)
  | called (key : StageKey) (attemptId : UUID)
  /-- The canonical story was generated, and is still to be stored. -/
  | returned (key : StageKey) (cost : Rat)
  deriving DecidableEq

structure Execution where
  id : UUID
  job : Option Nat
  workflowAttempt : Nat
  /-- The stage it is at. -/
  place : Nat
  /-- `prior_pack_cost_usd`. -/
  carried : Rat
  phase : Phase

instance : Keyed GenerationRun StageKey := ⟨GenerationRun.key⟩
instance : Keyed GenerationAttempt UUID := ⟨GenerationAttempt.id⟩
instance : Keyed Execution UUID := ⟨Execution.id⟩

/-- The frozen profile, the number of platforms, and a cost as it is read back. -/
structure PackEnv where
  resolved : ResolvedProviderProfile
  platforms : Nat
  stored : Rat → Rat

structure PackWorld where
  runs : Table GenerationRun
  attempts : Table GenerationAttempt
  executions : Table Execution
  /-- The cost in the payload of each package job. -/
  packages : List Rat
  /-- What was recorded when each call was started. -/
  started : List Rat

def costSum : List Rat → Rat
  | [] => 0
  | cost :: rest => cost + costSum rest

/-- How the provider answers: it fails, or it returns a usage and an output that is accepted or
not. -/
inductive ProviderAnswer where
  | failed
  | result (usage : ProviderUsage) (accepted : Bool)

inductive PackEvent where
  /-- A worker claims the canonical job or a package job. -/
  | begin (id : UUID) (job : Option Nat) (workflowAttempt : Nat)
  /-- The stage is looked up under its input's hash, and reused or attempted. -/
  | stage (id : UUID) (inputHash : String) (usable : Bool) (attemptId : UUID)
  /-- A fence, the configuration or a budget refuses before the call. -/
  | refuse (id : UUID)
  | call (id : UUID)
  | answer (id : UUID) (answer : ProviderAnswer)
  /-- The canonical story is stored and the package job enqueued. -/
  | persist (id : UUID)
  /-- The worker dies, or something else ends the execution. -/
  | crash (id : UUID)

namespace PackWorld

variable (E : PackEnv) (w : PackWorld)

def recorded : Rat := costSum (w.attempts.rows.map GenerationAttempt.costUsd)

def close (id : UUID) : PackWorld := { w with executions := w.executions.erase id }

def put (execution : Execution) : PackWorld :=
  { w with executions := w.executions.put execution }

/-! ## Stages -/

def attemptsOf (key : StageKey) : List GenerationAttempt :=
  w.attempts.rows.filter fun attempt => attempt.run = key

def laterSucceeded (best : Option GenerationAttempt) (attempt : GenerationAttempt) :
    Option GenerationAttempt :=
  if attempt.status ≠ .succeeded then
    best
  else if best.any fun other => attempt.attemptNumber ≤ other.attemptNumber then
    best
  else
    some attempt

/-- The attempt `_reuse_succeeded_run` takes. -/
def completed (key : StageKey) : Option GenerationAttempt :=
  (w.attemptsOf key).foldl laterSucceeded none

/-- `invoke` returns: a package job carries the cost on, the canonical job stores its story. -/
def returned (execution : Execution) (key : StageKey) (cost : Rat) : Execution :=
  match execution.job with
  | none =>
    { execution with
      place := execution.place + 1
      carried := execution.carried + cost
      phase := .returned key cost }
  | some _ =>
    { execution with
      place := execution.place + 1
      carried := execution.carried + cost
      phase := .ready }

def interrupted (key : StageKey) (attempt : GenerationAttempt) : GenerationAttempt :=
  if attempt.run = key ∧ attempt.status = .running then { attempt with status := .failed }
  else attempt

theorem key_interrupted (key : StageKey) (attempt : GenerationAttempt) :
    Keyed.key (interrupted key attempt) = Keyed.key attempt := by
  unfold interrupted
  split <;> rfl

def nextNumber (key : StageKey) : Nat :=
  ((w.attemptsOf key).map GenerationAttempt.attemptNumber).foldl max 0 + 1

/-- The attempt of `_start_attempt`. -/
def newAttempt (key : StageKey) (attemptId : UUID) : GenerationAttempt where
  id := attemptId
  run := key
  attemptNumber := w.nextNumber key
  status := .running
  costUsd := 0

/-- `_start_attempt`: a run that is not there is made, and one that is there is resumed. -/
def startAttempt (execution : Execution) (key : StageKey) (attemptId : UUID) : PackWorld :=
  let run := (w.runs.lookup key).getD ⟨key, .running, 0, attemptId, false⟩
  { w with
    runs := (w.runs.insert run).put { run with
        status := .running
        workflowAttempt := execution.workflowAttempt
        active := attemptId }
    attempts := (w.attempts.map (interrupted key) (key_interrupted key)).insert
      (w.newAttempt key attemptId)
    executions := w.executions.put { execution with phase := .started key attemptId } }

/-- A stage that succeeded is reused, when its output is there and validates. -/
def reuse (execution : Execution) (key : StageKey) (usable : Bool) : PackWorld :=
  match w.completed key with
  | none => w.close execution.id
  | some attempt =>
    if usable = true then w.put (returned execution key attempt.costUsd)
    else w.close execution.id

/-- The stage of an execution that has one left to do. -/
def invoke (execution : Execution) (inputHash : String) (usable : Bool) (attemptId : UUID) :
    PackWorld :=
  let key : StageKey := ⟨execution.job, execution.place, inputHash⟩
  match w.runs.lookup key with
  | none =>
    if (w.attempts.lookup attemptId).isSome then w.close execution.id
    else w.startAttempt execution key attemptId
  | some run =>
    if run.status = .succeeded then
      w.reuse execution key usable
    else if run.status = .running ∧ run.workflowAttempt = execution.workflowAttempt then
      w.close execution.id
    else if (w.attempts.lookup attemptId).isSome then
      w.close execution.id
    else
      w.startAttempt execution key attemptId

/-- The stages of a job: the canonical story, or the platforms. -/
def hasStage (job : Option Nat) (place : Nat) : Bool :=
  match job with
  | none => place = 0
  | some _ => 1 ≤ place ∧ place ≤ E.platforms

/-! ## Calls -/

/-- `_persist_failure`, with what the call cost where it returned. -/
def persistFailure (key : StageKey) (attemptId : UUID) (cost : Option Rat) : PackWorld :=
  match w.runs.lookup key, w.attempts.lookup attemptId with
  | some run, some attempt =>
    if run.active ≠ attemptId then
      w
    else
      { w with
        runs := w.runs.put { run with status := .failed }
        attempts := w.attempts.put { attempt with
            status := .failed
            costUsd := cost.getD attempt.costUsd } }
  | _, _ => w

/-- `_persist_success`: the cost it recorded, unless the stage was superseded. -/
def persistSuccess (execution : Execution) (key : StageKey) (attemptId : UUID) (cost : Rat) :
    PackWorld :=
  match w.runs.lookup key, w.attempts.lookup attemptId with
  | some run, some attempt =>
    if run.active ≠ attemptId ∨ attempt.status ≠ .running then
      w.close execution.id
    else
      { w with
        runs := w.runs.put { run with status := .succeeded }
        attempts := w.attempts.put { attempt with
            status := .succeeded
            costUsd := cost }
        executions := w.executions.put (returned execution key cost) }
  | _, _ => w.close execution.id

/-- What is recorded of a call that returned and is not accepted. -/
def failureCost (usage : ProviderUsage) : Rat :=
  match normalizeProviderUsage usage E.resolved with
  | .ok effective => E.stored effective
  | .error _ => usage.costUsd.getD 0

def checkResult (carried : Rat) (usage : ProviderUsage) (accepted : Bool) :
    Except NeedsReview Rat :=
  match normalizeProviderUsage usage E.resolved with
  | .error stop => .error stop
  | .ok effective =>
    if E.resolved.maxPackCostUsd.any fun most => carried + effective > most then
      .error .packCostBudgetExhausted
    else if accepted = true then
      .ok effective
    else
      .error .outputInvalid

def answered (execution : Execution) (key : StageKey) (attemptId : UUID) :
    ProviderAnswer → PackWorld
  | .failed => (w.persistFailure key attemptId none).close execution.id
  | .result usage accepted =>
    match checkResult E execution.carried usage accepted with
    | .error _ => (w.persistFailure key attemptId (failureCost E usage)).close execution.id
    | .ok effective => w.persistSuccess execution key attemptId (E.stored effective)

/-- `_persist` of the canonical job. -/
def persistCanonical (execution : Execution) (key : StageKey) (cost : Rat) : PackWorld :=
  match w.runs.lookup key with
  | none => w.close execution.id
  | some run =>
    if run.artifact = true then
      w.close execution.id
    else
      { w with
        runs := w.runs.put { run with artifact := true }
        packages := w.packages ++ [cost]
        executions := w.executions.erase execution.id }

/-! ## Steps -/

/-- The execution a worker begins, and what it carries. -/
def beginAt (id : UUID) (job : Option Nat) (workflowAttempt : Nat) : PackWorld :=
  match job with
  | none =>
    { w with executions := w.executions.insert ⟨id, none, workflowAttempt, 0, 0, .ready⟩ }
  | some package =>
    match w.packages[package]? with
    | none => w
    | some cost =>
      { w with
        executions :=
          w.executions.insert ⟨id, some package, workflowAttempt, 1, cost, .ready⟩ }

def next : PackEvent → PackWorld
  | .begin id job workflowAttempt => w.beginAt id job workflowAttempt
  | .stage id inputHash usable attemptId =>
    match w.executions.lookup id with
    | none => w
    | some execution =>
      if execution.phase = .ready ∧ hasStage E execution.job execution.place = true then
        w.invoke execution inputHash usable attemptId
      else
        w
  | .refuse id =>
    match w.executions.lookup id with
    | none => w
    | some execution =>
      match execution.phase with
      | .started key attemptId => (w.persistFailure key attemptId none).close id
      | _ => w
  | .call id =>
    match w.executions.lookup id with
    | none => w
    | some execution =>
      match execution.phase with
      | .started key attemptId =>
        { w.put { execution with phase := .called key attemptId } with
          started := w.started ++ [w.recorded] }
      | _ => w
  | .answer id answer =>
    match w.executions.lookup id with
    | none => w
    | some execution =>
      match execution.phase with
      | .called key attemptId => w.answered E execution key attemptId answer
      | _ => w
  | .persist id =>
    match w.executions.lookup id with
    | none => w
    | some execution =>
      match execution.phase with
      | .returned key cost => w.persistCanonical execution key cost
      | _ => w
  | .crash id => w.close id

def empty : PackWorld := ⟨Table.empty, Table.empty, Table.empty, [], []⟩

end PackWorld

def packSystem (E : PackEnv) : System PackWorld PackEvent where
  init w := w = PackWorld.empty
  step w event w' := w' = w.next E event

end NewsCraft.Generation.PackCost
