import NewsCraft.Core.SecretKeys
import NewsCraft.Jobs.Scheduler
import NewsCraft.Lib.CivilTime

/-!
# What a route lets through, and when

`evaluate_content_filter` looks for terms in the folded text of a post, and
`next_allowed_at` puts an instant within the quiet hours off until they end. Normalizing
is a parameter, as the other tables of Python's library are, and so are the time zones.
-/

namespace NewsCraft.Telegram

open Lib

structure PolicyEnv where
  text : PythonText
  /-- `unicodedata.normalize("NFKC", ...)`. -/
  nfkc : Text → Text
  /-- `ZoneInfo(name)`, where the time zone database has the name. -/
  zones : String → Option CivilTime.Zone

/-- The terms of `content_filters` a post is held to. -/
structure ContentFilters where
  excludeTerms : Option (List String)
  includeTerms : Option (List String)
  minTextCharacters : Option Int
  requireMedia : Option Bool

structure ContentFilterDecision where
  accepted : Bool
  reason : Option String
  deriving DecidableEq

structure QuietHours where
  timezone : Option String
  start : String
  finish : String

variable (E : PolicyEnv)

def collapseSpaces (P : PythonText) : Text → Text
  | [] => []
  | c :: text =>
    if P.isSpace c then
      match collapseSpaces P text with
      | ' ' :: rest => ' ' :: rest
      | rest => ' ' :: rest
    else
      c :: collapseSpaces P text

/-- `_normalized`. -/
def normalized (value : String) : Text :=
  Redact.strip E.text (collapseSpaces E.text ((E.nfkc value.toList).flatMap E.text.casefold))

/-- `term and term in text`. -/
def occursIn (term text : Text) : Bool :=
  term ≠ [] && text.tails.any fun suffix => term.isPrefixOf suffix

/-- `evaluate_content_filter`. -/
def evaluateContentFilter (value : String) (hasMedia : Bool) (policy : ContentFilters) :
    ContentFilterDecision :=
  let text := normalized E value
  let included := policy.includeTerms.getD []
  match (policy.excludeTerms.getD []).find? fun term => occursIn (normalized E term) text with
  | some term => ⟨false, some ("excluded_term:" ++ term)⟩
  | none =>
    if included ≠ [] ∧ ¬ included.any (fun term => occursIn (normalized E term) text) then
      ⟨false, some "missing_included_term"⟩
    else if text.length < policy.minTextCharacters.getD 1 then
      ⟨false, some "text_too_short"⟩
    else if policy.requireMedia.getD false ∧ ¬ hasMedia then
      ⟨false, some "media_required"⟩
    else
      ⟨true, none⟩

/-- `_clock`; a time that is only not padded is told apart in its message. -/
def clock (value : String) : Except PyError Int :=
  match Jobs.parseLocalTime value with
  | some timeOfDay => .ok timeOfDay
  | none => .error (.valueError "quiet-hours time must use HH:MM")

/-- Where the quiet hours around an instant end, if it lies in them. -/
def quietUntil (zone : CivilTime.Zone) (start finish : Int) (now : Datetime) : Option Datetime :=
  let date := zone.dateAt now
  let time := zone.wallAt now % WallClock.day
  if start < finish then
    if start ≤ time ∧ time < finish then some (zone.occurrence finish date) else none
  else if start ≤ time then
    some (zone.occurrence finish (date + 1))
  else if time < finish then
    some (zone.occurrence finish date)
  else
    none

/-- `next_allowed_at`, with the zone the name stands for. -/
def allowedIn (zone : CivilTime.Zone) (now : Datetime) (quietHours : QuietHours) :
    Except PyError Datetime := do
  let start ← clock quietHours.start
  let finish ← clock quietHours.finish
  if start = finish then
    .error (.valueError "quiet-hours start and end cannot be identical")
  else
    .ok ((quietUntil zone start finish now).getD now)

/-- `next_allowed_at`. -/
def nextAllowedAt (now : Datetime) (quietHours : Option QuietHours) : Except PyError Datetime :=
  match quietHours with
  | none => .ok now
  | some quietHours =>
    match E.zones (quietHours.timezone.getD "Asia/Tehran") with
    | none => .error (.valueError "No time zone found")
    | some zone => allowedIn zone now quietHours

end NewsCraft.Telegram
