import NewsCraft.Lib.Transition
import NewsCraft.Telegram.HonestPages

/-!
# The texts of a message

A post that is edited at its source is captured again: a poll compares the fingerprints of
the latest posts with those in its cursor, and each that differs gets a dispatch under a key
made from the fingerprint, and the next revision of its story.

A step is one capture, an activation of the route, or a revision somebody else writes. Polls
follow one another, and any of them may be left at any point.
-/

namespace NewsCraft.Telegram.SourceEdits

open Lib Jobs

inductive RevisionAuthor where
  | telegramCapture
  | telegramSourceEdit
  /-- Research, generation or an operator. -/
  | other
  deriving DecidableEq

/-- A row of `story_revisions`. -/
structure StoryRevision where
  storyId : Nat
  revisionNumber : Nat
  narrative : String
  createdBy : RevisionAuthor
  deriving DecidableEq

/-- A row of `automation_dispatches`, with the story revision it points to. -/
structure CapturedDispatch where
  sourceKey : String
  sourceFingerprint : String
  dispatchKind : DispatchKind
  revision : StoryRevision

/-- A route with its dispatches and the stories they belong to, which are numbered as
they are created. -/
structure EditStore where
  cursorState : CursorState
  stories : Nat
  revisions : List StoryRevision
  dispatches : List CapturedDispatch

namespace EditStore

def dispatchOf (store : EditStore) (sourceKey : String) : Option CapturedDispatch :=
  store.dispatches.find? fun dispatch => dispatch.sourceKey = sourceKey

def withCursor (store : EditStore) (cursorState : CursorState) : EditStore :=
  { store with cursorState := cursorState }

def revisionsOf (store : EditStore) (storyId : Nat) : List StoryRevision :=
  store.revisions.filter fun revision => revision.storyId = storyId

/-- The revisions of a story that captures wrote. -/
def capturedOf (store : EditStore) (storyId : Nat) : List StoryRevision :=
  (store.revisionsOf storyId).filter fun revision => revision.createdBy ≠ .other

/-- The highest revision number of a story, if it has a revision. -/
def highest (store : EditStore) (storyId : Nat) : Option Nat :=
  ((store.revisionsOf storyId).map StoryRevision.revisionNumber).max?

/-- The rows of one capture: a revision and the dispatch that points to it. -/
def insertCapture (store : EditStore) (dispatch : CapturedDispatch) : EditStore :=
  { store with
    revisions := store.revisions ++ [dispatch.revision]
    dispatches := store.dispatches ++ [dispatch] }

def insertStory (store : EditStore) (sourceKey sourceFingerprint : String)
    (dispatchKind : DispatchKind) (narrative : String) : EditStore :=
  { store.insertCapture ⟨sourceKey, sourceFingerprint, dispatchKind,
      ⟨store.stories, 1, narrative, .telegramCapture⟩⟩ with
    stories := store.stories + 1 }

/-- `capture_and_enqueue`, as far as dispatches, stories and the cursor go. -/
def captureAndEnqueue (digest : Json → String) (store : EditStore) (envelope : TelegramEnvelope)
    (dispatchKind : DispatchKind) (dryRunJobId : Option UUID) : Except PyError EditStore :=
  let sourceFingerprint := telegramEnvelopeFingerprint digest envelope
  let cursorState := updateCursor store.cursorState envelope sourceFingerprint dispatchKind
  match dispatchSourceKey envelope.sourceKey sourceFingerprint dispatchKind dryRunJobId with
  | .error e => .error e
  | .ok sourceKey =>
    match store.dispatchOf sourceKey with
    | some _ => .ok (store.withCursor cursorState)
    | none =>
      if dispatchKind = .sourceEdit then
        match store.dispatchOf envelope.sourceKey with
        | none =>
          .error (.valueError "source edit capture requires an existing source revision")
        | some original =>
          match store.highest original.revision.storyId with
          | none =>
            .error (.valueError
              "source edit capture could not resolve its prior story revision")
          | some parent =>
            .ok ((store.insertCapture ⟨sourceKey, sourceFingerprint, dispatchKind,
              ⟨original.revision.storyId, parent + 1, envelope.text,
                .telegramSourceEdit⟩⟩).withCursor cursorState)
      else
        .ok ((store.insertStory sourceKey sourceFingerprint dispatchKind
          envelope.text).withCursor cursorState)

/-- Another revision of a story, by whoever works on it. -/
def revise (store : EditStore) (storyId : Nat) (narrative : String) : EditStore :=
  match store.highest storyId with
  | none => store
  | some parent =>
    { store with
      revisions := store.revisions ++ [⟨storyId, parent + 1, narrative, .other⟩] }

/-- `activate_route`, when it is no replay. -/
def activate (store : EditStore) (requestedAt : String) : EditStore :=
  store.withCursor ⟨some "initializing", some requestedAt, none, [], none⟩

end EditStore

/-! ## Polls -/

/-- The posts `_fetch_recent` finds. -/
def fetchRecent (pages : List TelegramEnvelope) : List TelegramEnvelope :=
  let envelopes := (pages.foldl (fun found item => setKey item.sourceKey item found)
    ([] : List (String × TelegramEnvelope))).map Prod.snd
  (envelopes.insertionSort fun a b => coordinateLe b a).take 50

/-- `fingerprints.get(str(envelope.anchor_message_id))`. -/
def fingerprintOf (state : CursorState) (anchorMessageId : Int) : Option String :=
  (state.recentFingerprints.find? fun entry => entry.1 = anchorMessageId).map Prod.snd

/-- The posts whose fingerprint is not the one in the cursor. -/
def sourceEdits (digest : Json → String) (state : CursorState) (recent : List TelegramEnvelope) :
    List TelegramEnvelope :=
  (recent.filter fun envelope =>
    match fingerprintOf state envelope.anchorMessageId with
    | none => false
    | some fingerprint => fingerprint ≠ telegramEnvelopeFingerprint digest envelope).insertionSort
      coordinateLe

/-- A poll past its lookback, with what it still has to capture. -/
structure Poll where
  recent : List TelegramEnvelope
  known : List String
  edits : List TelegramEnvelope
  live : List TelegramEnvelope

/-- Everything is captured, and the poll commits. -/
def Poll.Through (poll : Poll) : Prop :=
  poll.edits = [] ∧ poll.live = []

def Poll.next (poll : Poll) : Option (DispatchKind × TelegramEnvelope × Poll) :=
  match poll.edits, poll.live with
  | envelope :: rest, _ => some (.sourceEdit, envelope, { poll with edits := rest })
  | [], envelope :: rest => some (.live, envelope, { poll with live := rest })
  | [], [] => none

structure EditWorld where
  store : EditStore
  poll : Option Poll

inductive EditEvent where
  /-- A poll starts; its lookback reads `pages`, and it has `live` to capture. -/
  | startPoll (pages live : List TelegramEnvelope)
  | captureNext
  /-- The poll ends, is deferred, raises, or its worker dies. -/
  | leavePoll
  /-- A capture of an initialization, a backfill or a dry run. -/
  | capture (dispatchKind : DispatchKind) (envelope : TelegramEnvelope) (dryRunJobId : Option UUID)
  | activate (requestedAt : String)
  | revise (storyId : Nat) (narrative : String)

namespace EditWorld

def startPoll (digest : Json → String) (store : EditStore) (pages live : List TelegramEnvelope) :
    EditWorld :=
  let recent := fetchRecent pages
  { store := store
    poll := some
      { recent := recent
        known := (recent.filter fun envelope =>
          (store.dispatchOf envelope.sourceKey).isSome).map TelegramEnvelope.sourceKey
        edits := sourceEdits digest store.cursorState recent
        live := live } }

def step (digest : Json → String) (w : EditWorld) : EditEvent → EditWorld
  | .startPoll pages live =>
    match w.poll with
    | some _ => w
    | none => startPoll digest w.store pages live
  | .captureNext =>
    match w.poll.bind Poll.next with
    | none => w
    | some (dispatchKind, envelope, rest) =>
      match w.store.captureAndEnqueue digest envelope dispatchKind none with
      | .error _ => { w with poll := none }
      | .ok store => ⟨store, some rest⟩
  | .leavePoll => { w with poll := none }
  | .capture dispatchKind envelope dryRunJobId =>
    if dispatchKind = .sourceEdit then
      w
    else
      match w.store.captureAndEnqueue digest envelope dispatchKind dryRunJobId with
      | .error _ => w
      | .ok store => { w with store := store }
  | .activate requestedAt => { w with store := w.store.activate requestedAt }
  | .revise storyId narrative => { w with store := w.store.revise storyId narrative }

def start : EditWorld :=
  ⟨⟨⟨some "not_initialized", none, none, [], none⟩, 0, [], []⟩, none⟩

end EditWorld

def editSystem (digest : Json → String) : System EditWorld EditEvent where
  init w := w = .start
  step w event w' := w' = w.step digest event

end NewsCraft.Telegram.SourceEdits
