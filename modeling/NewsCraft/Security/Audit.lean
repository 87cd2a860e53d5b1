import NewsCraft.Core.Basic
import NewsCraft.Lib.Dict
import NewsCraft.Lib.Table
import NewsCraft.Lib.Transition

/-!
# The audit trail of mutating requests

A mutating request writes an `attempted` row before it is handled and a terminal row under
the same correlation id after. A sweep selects the oldest `attempted` rows past the grace
period, reads which of them have a terminal row, and adds a `failed` row for the others.
Each is a statement of its own, and processes sweep on their own.

The rows are only added to. One clock stands for all, and the order of the rows of one
instant is the database's choice.
-/

namespace NewsCraft.Security

open Lib

/-! ## Rows -/

inductive AuditOutcome where
  | attempted
  | succeeded
  | rejected
  | failed
  deriving DecidableEq

/-- Who did what, which a closing row takes from the row it closes. -/
structure AuditSubject where
  actorType : String
  actorId : String
  requiredScope : Option String
  action : String
  resourceType : String
  resourceId : Option String
  requestId : Option String
  deriving DecidableEq

/-- `correlation` and `reconciledFrom` are what `event_metadata` has of them. -/
structure SecurityAuditEvent where
  id : UUID
  subject : AuditSubject
  outcome : AuditOutcome
  reasonCode : Option String
  correlation : Option UUID
  reconciledFrom : Option UUID
  createdAt : Datetime
  deriving DecidableEq

def staleAttemptGrace : Int := timedeltaSeconds 3600
def staleAttemptWindow : Int := timedeltaSeconds (7 * 86400)
def staleAttemptBatch : Nat := 50
def unrecordedOutcomeReason : String := "outcome_unrecorded"

/-- A sweep of a process: what it selected, and once it has looked, which are closed. -/
structure Sweep where
  process : Nat
  moment : Datetime
  batch : List SecurityAuditEvent
  closed : Option (List UUID)
  /-- The rows without an outcome when the sweep began. -/
  lost : List UUID

instance : Keyed Sweep Nat := ⟨Sweep.process⟩

structure AuditWorld where
  now : Datetime
  rows : List SecurityAuditEvent
  /-- The requests that are being handled. -/
  inFlight : List UUID
  sweeps : Table Sweep
  /-- What was lost when each sweep that came to its end began. -/
  finished : List (List UUID)

inductive AuditStep where
  | tick (now : Datetime)
  /-- A request is refused before it is handled. -/
  | reject (id correlation : UUID) (subject : AuditSubject) (reasonCode : String)
  | attempt (id correlation : UUID) (subject : AuditSubject)
  | respond (id correlation : UUID) (subject : AuditSubject) (succeeded : Bool)
  /-- The process dies, or the second audit write fails. -/
  | abandon (correlation : UUID)
  | select (process : Nat) (batch : List SecurityAuditEvent)
  | check (process : Nat)
  /-- The closing rows are committed, under new ids. -/
  | commit (process : Nat) (newId : UUID → UUID)
  /-- The sweep is given up. -/
  | fail (process : Nat)

/-! ## A sweep -/

/-- What the first statement of a sweep selects from. -/
def inRange (moment : Datetime) (event : SecurityAuditEvent) : Bool :=
  event.outcome = .attempted ∧ event.createdAt < moment - staleAttemptGrace
    ∧ moment - staleAttemptWindow ≤ event.createdAt ∧ event.correlation.isSome

/-- `order_by(created_at).limit(limit)`. -/
structure Selected (rows : List SecurityAuditEvent) (moment : Datetime) (limit : Nat)
    (batch : List SecurityAuditEvent) : Prop where
  nodup : batch.Nodup
  inRange : ∀ event ∈ batch, event ∈ rows ∧ inRange moment event = true
  size : batch.length = min limit (rows.filter (Security.inRange moment)).length
  sorted : batch.Pairwise fun event later => event.createdAt ≤ later.createdAt
  oldest : ∀ event ∈ batch, ∀ other ∈ rows, Security.inRange moment other = true →
    other ∉ batch → event.createdAt ≤ other.createdAt

instance {rows : List SecurityAuditEvent} {moment : Datetime} {limit : Nat}
    {batch : List SecurityAuditEvent} : Decidable (Selected rows moment limit batch) :=
  decidable_of_iff (batch.Nodup ∧ (∀ event ∈ batch, event ∈ rows ∧ inRange moment event = true)
      ∧ batch.length = min limit (rows.filter (inRange moment)).length
      ∧ batch.Pairwise (fun event later => event.createdAt ≤ later.createdAt)
      ∧ ∀ event ∈ batch, ∀ other ∈ rows, inRange moment other = true → other ∉ batch →
        event.createdAt ≤ other.createdAt)
    ⟨fun ⟨nodup, inRange, size, sorted, oldest⟩ => ⟨nodup, inRange, size, sorted, oldest⟩,
      fun h => ⟨h.nodup, h.inRange, h.size, h.sorted, h.oldest⟩⟩

/-- `candidates`. -/
def candidates (batch : List SecurityAuditEvent) : List (UUID × SecurityAuditEvent) :=
  Dict.build [] (batch.filterMap fun event => event.correlation.map fun key => (key, event))

/-- A row that is the outcome of the correlation id. -/
def isTerminal (key : UUID) (event : SecurityAuditEvent) : Bool :=
  event.correlation = some key ∧ event.outcome ≠ .attempted

/-- What the second statement of a sweep finds closed. -/
def closedKeys (rows : List SecurityAuditEvent) (batch : List SecurityAuditEvent) : List UUID :=
  ((candidates batch).map Prod.fst).filter fun key => rows.any (isTerminal key)

def closingRow (newId : UUID → UUID) (now : Datetime) (key : UUID) (event : SecurityAuditEvent) :
    SecurityAuditEvent where
  id := newId event.id
  subject := event.subject
  outcome := .failed
  reasonCode := some unrecordedOutcomeReason
  correlation := some key
  reconciledFrom := some event.id
  createdAt := now

def Sweep.pending (sweep : Sweep) : List (UUID × SecurityAuditEvent) :=
  match sweep.closed with
  | none => []
  | some closed => (candidates sweep.batch).filter fun candidate => candidate.1 ∉ closed

/-! ## Steps -/

namespace AuditWorld

variable (w : AuditWorld)

def Closed (key : UUID) : Prop := ∃ event ∈ w.rows, isTerminal key event = true

instance (key : UUID) : Decidable (w.Closed key) :=
  inferInstanceAs (Decidable (∃ event ∈ w.rows, isTerminal key event = true))

/-- The mutations without an outcome that a sweep at this moment is there for. -/
def lost : List UUID :=
  ((w.rows.filter (inRange w.now)).filterMap SecurityAuditEvent.correlation).filter fun key =>
    ¬w.Closed key

def row (id correlation : UUID) (subject : AuditSubject) (outcome : AuditOutcome)
    (reasonCode : Option String) : SecurityAuditEvent :=
  ⟨id, subject, outcome, reasonCode, some correlation, none, w.now⟩

def next : AuditStep → AuditWorld
  | .tick now => { w with now := now }
  | .reject id correlation subject reasonCode =>
    { w with rows := w.row id correlation subject .rejected (some reasonCode) :: w.rows }
  | .attempt id correlation subject =>
    { w with
      rows := w.row id correlation subject .attempted none :: w.rows
      inFlight := correlation :: w.inFlight }
  | .respond id correlation subject succeeded =>
    { w with
      rows := w.row id correlation subject (if succeeded then .succeeded else .rejected)
        (if succeeded then none else some "request_rejected") :: w.rows
      inFlight := w.inFlight.filter (· ≠ correlation) }
  | .abandon correlation => { w with inFlight := w.inFlight.filter (· ≠ correlation) }
  | .select process batch =>
    { w with sweeps := w.sweeps.insert ⟨process, w.now, batch, none, w.lost⟩ }
  | .check process =>
    match w.sweeps.lookup process with
    | none => w
    | some sweep =>
      { w with
        sweeps := w.sweeps.put { sweep with closed := some (closedKeys w.rows sweep.batch) } }
  | .commit process newId =>
    match w.sweeps.lookup process with
    | none => w
    | some sweep =>
      { w with
        rows := sweep.pending.map (fun candidate =>
          closingRow newId w.now candidate.1 candidate.2) ++ w.rows
        sweeps := w.sweeps.erase process
        finished := sweep.lost :: w.finished }
  | .fail process => { w with sweeps := w.sweeps.erase process }

def Known (correlation : UUID) : Prop :=
  ∃ event ∈ w.rows, event.correlation = some correlation

instance (correlation : UUID) : Decidable (w.Known correlation) :=
  inferInstanceAs (Decidable (∃ event ∈ w.rows, event.correlation = some correlation))

/-- The clock does not run backwards, correlation ids are new, a sweep goes in order. -/
def Enabled (limit : Nat) : AuditStep → Prop
  | .tick now => w.now ≤ now
  | .reject _ correlation _ _ => ¬w.Known correlation
  | .attempt _ correlation _ => ¬w.Known correlation
  | .respond _ correlation _ _ => correlation ∈ w.inFlight
  | .abandon correlation => correlation ∈ w.inFlight
  | .select process batch => w.sweeps.lookup process = none ∧ Selected w.rows w.now limit batch
  | .check process => ∃ sweep, w.sweeps.lookup process = some sweep ∧ sweep.closed = none
  | .commit process _ => ∃ sweep, w.sweeps.lookup process = some sweep ∧ sweep.closed.isSome
  | .fail process => (w.sweeps.lookup process).isSome

instance (limit : Nat) (event : AuditStep) : Decidable (w.Enabled limit event) :=
  match event with
  | .tick now => inferInstanceAs (Decidable (w.now ≤ now))
  | .reject _ correlation _ _ => inferInstanceAs (Decidable ¬w.Known correlation)
  | .attempt _ correlation _ => inferInstanceAs (Decidable ¬w.Known correlation)
  | .respond _ correlation _ _ => inferInstanceAs (Decidable (correlation ∈ w.inFlight))
  | .abandon correlation => inferInstanceAs (Decidable (correlation ∈ w.inFlight))
  | .select process batch =>
    inferInstanceAs (Decidable (w.sweeps.lookup process = none ∧ Selected w.rows w.now limit batch))
  | .check process =>
    inferInstanceAs (Decidable (∃ sweep ∈ w.sweeps.lookup process, sweep.closed = none))
  | .commit process _ =>
    inferInstanceAs (Decidable (∃ sweep ∈ w.sweeps.lookup process, sweep.closed.isSome))
  | .fail process => inferInstanceAs (Decidable (w.sweeps.lookup process).isSome)

end AuditWorld

/-- The trail in every history of requests and sweeps. -/
def auditSystem (limit : Nat) : System AuditWorld AuditStep where
  init w := w.rows = [] ∧ w.inFlight = [] ∧ w.sweeps.rows = [] ∧ w.finished = []
  step w event w' := w.Enabled limit event ∧ w' = w.next event

end NewsCraft.Security
