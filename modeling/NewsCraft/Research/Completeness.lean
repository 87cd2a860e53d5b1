import Mathlib.Data.List.Dedup
import NewsCraft.Core.SecretKeys
import NewsCraft.Lib.Relational

/-!
# When a story's evidence is complete

The sources of the evidence are told apart by their public host, or by their label where
there is no truthful URL. Resolving a host is a matter of `urllib`, `ipaddress`, `idna` and
the public suffix list, which `HostRules` stands for.
-/

namespace NewsCraft.Research

open Lib Redact List

def minIndependentSources : Nat := 2
def minBodyCharacters : Nat := 800

structure HostRules where
  /-- `urlsplit(url).hostname or ""`; `none` for a `ValueError`. -/
  hostname : String → Option Text
  lower : Text → Text
  /-- `str(ip_address(host))`; `none` for a `ValueError`. -/
  ipAddress : Text → Option Text
  /-- `idna.encode(host, uts46=True).decode("ascii").lower()`; `none` for an `IDNAError`. -/
  idnaEncode : Text → Option Text
  /-- `top_domain_under_public_suffix`, which may be empty. -/
  topDomain : Text → Text

/-- `host.rstrip(".")`. -/
def rstripDots (host : Text) : Text := (host.reverse.dropWhile (· = '.')).reverse

/-- `_registrable_host`. -/
def registrableHost (H : HostRules) (url : String) : Option Text :=
  match H.hostname url with
  | none => none
  | some name =>
    let host := H.lower (rstripDots name)
    if host.isEmpty then
      none
    else
      match H.ipAddress host with
      | some address => some address
      | none =>
        (H.idnaEncode host).map fun host =>
          if (H.topDomain host).isEmpty then host else H.topDomain host

/-- `isinstance(value, str)` and not empty. -/
def labelText : Option Json → Option Text
  | some (.str label) => if label = "" then none else some label.toList
  | _ => none

/-- `source_identity_token`. -/
def sourceIdentityToken (H : HostRules) (P : PythonText) (sourceUrl : Option String)
    (sourceLabel : Option Json) : Option Text :=
  let host := (sourceUrl.filter (· ≠ "")).bind (registrableHost H)
  match host with
  | some host => if host.isEmpty then fromLabel else some ("host:".toList ++ host)
  | none => fromLabel
where
  fromLabel : Option Text :=
    match labelText sourceLabel with
    | none => none
    | some label =>
      let identity := (strip P label).flatMap P.casefold
      if identity.isEmpty then none else some ("source:".toList ++ identity)

/-- `(snapshot_metadata or {}).get(key)`. -/
def metadataGet (snapshotMetadata : Json) (key : String) : Option Json :=
  if snapshotMetadata.truthy then snapshotMetadata.get? key else none

/-- `snapshot_source_identity`. -/
def snapshotSourceIdentity (H : HostRules) (P : PythonText) (sourceUrl : Option String)
    (snapshotMetadata : Json) : Option Text :=
  sourceIdentityToken H P sourceUrl (metadataGet snapshotMetadata "source_label")

/-- `snapshot_is_primary`. -/
def snapshotIsPrimary (snapshotMetadata : Json) : Bool :=
  ((metadataGet snapshotMetadata "is_primary").map Json.truthy).getD false

structure CompletenessEvidence where
  evidenceKey : String
  contentText : Text
  sourceUrl : Option String
  sourceIdentity : Option Json
  isPrimary : Bool

inductive CompletenessReason where
  | fewerThanTwoIndependentSources
  | insufficientBodyText
  | missingPrimaryEvidence
  | unresolvedContradictions

structure CompletenessReport where
  complete : Bool
  score : Int
  reasons : List CompletenessReason
  independentSourceCount : Nat
  bodyCharacterCount : Nat
  hasPrimaryEvidence : Bool

/-- `_source_identity`. -/
def CompletenessEvidence.identity (H : HostRules) (P : PythonText)
    (value : CompletenessEvidence) : Option Text :=
  sourceIdentityToken H P value.sourceUrl value.sourceIdentity

/-- What the checks of `evaluate_completeness` find missing, each with its part of the score. -/
def missing (sourceCount bodyCharacterCount : Nat) (hasPrimary : Bool)
    (contradictions : List String) : List (CompletenessReason × Int) :=
  (if sourceCount < minIndependentSources then [(.fewerThanTwoIndependentSources, 30)] else [])
    ++ (if bodyCharacterCount < minBodyCharacters then [(.insufficientBodyText, 25)] else [])
    ++ (if hasPrimary then [] else [(.missingPrimaryEvidence, 20)])
    ++ if contradictions.isEmpty then [] else [(.unresolvedContradictions, 15)]

/-- `evaluate_completeness`. -/
def evaluateCompleteness (H : HostRules) (P : PythonText) (values : List CompletenessEvidence)
    (contradictions : List String) : CompletenessReport :=
  let sourceCount := (values.filterMap (CompletenessEvidence.identity H P)).dedup.length
  let bodyCharacterCount :=
    Relational.total (values.map fun value => value.contentText.countP fun c => !P.isSpace c)
  let hasPrimary := values.any CompletenessEvidence.isPrimary
  let reasons := missing sourceCount bodyCharacterCount hasPrimary contradictions
  { complete := reasons.isEmpty
    score := max 0 (min 100 (reasons.foldl (fun score reason => score - reason.2) 100))
    reasons := reasons.map Prod.fst
    independentSourceCount := sourceCount
    bodyCharacterCount := bodyCharacterCount
    hasPrimaryEvidence := hasPrimary }

theorem missing_isEmpty (sourceCount bodyCharacterCount : Nat) (hasPrimary : Bool) :
    (missing sourceCount bodyCharacterCount hasPrimary []).isEmpty = true
      ↔ minIndependentSources ≤ sourceCount ∧ minBodyCharacters ≤ bodyCharacterCount
        ∧ hasPrimary = true := by
  unfold missing
  by_cases hsources : sourceCount < minIndependentSources
  · rw [if_pos hsources]
    simp only [cons_append, isEmpty_cons, Bool.false_eq_true, false_iff]
    omega
  · by_cases hbody : bodyCharacterCount < minBodyCharacters
    · rw [if_neg hsources, if_pos hbody]
      simp only [nil_append, cons_append, isEmpty_cons, Bool.false_eq_true, false_iff]
      omega
    · rw [if_neg hsources, if_neg hbody]
      cases hasPrimary
      · simp
      simp only [if_true, append_nil, isEmpty_nil, and_true, true_iff]
      omega

end NewsCraft.Research
