import NewsCraft.Core.RedactText
import NewsCraft.Core.UrlHost

/-!
# What a redacted URL tells

`redact_url` over Python's own functions. What it returns for a web address that it can take
apart does not depend on the user information, nor on the values of the query's secret
parameters.
-/

namespace NewsCraft.Redact

open List Option

variable (P : PythonText) (E : Urls.TextEnv)

/-- `parse_qsl(query, keep_blank_values=True)`: one item for each part that is not empty. -/
def queryItem (part : Text) : Text × Text :=
  (Urls.unquotePlus (Urls.before '=' part), Urls.unquotePlus (Urls.after '=' part))

def queryItems (query : Text) : List (Text × Text) :=
  ((Urls.split '&' query).filter (· ≠ [])).map queryItem

/-- What `urlsplit` and the properties of its result say. -/
def urlParts (parts : Urls.SplitResult) : UrlParts :=
  { scheme := parts.scheme
    hostname := some (Urls.hostname E parts.netloc)
    port := (Urls.port parts.netloc).toOption
    path := parts.path
    query := parts.query
    fragment := parts.fragment }

theorem scheme_of_no_colon {netlocOk : Text → Bool} {url : Text} {parts : Urls.SplitResult}
    (h : Urls.urlsplit netlocOk url = some parts) (hcolon : ':' ∉ url) : parts.scheme = [] := by
  have hcleaned : ':' ∉ Urls.cleaned url := fun hmem =>
    hcolon ((dropWhile_sublist _).subset (mem_of_mem_filter hmem))
  have hscheme : Urls.readScheme (Urls.cleaned url) = ([], Urls.cleaned url) :=
    if_neg fun hread => hcleaned hread.1
  simp only [Urls.urlsplit, hscheme] at h
  split at h
  · cases h
    rfl
  · cases h

/-- `urllib.parse`. -/
def pythonUrl : PythonUrl where
  urlsplit url := (Urls.urlsplit (Urls.netlocOk E) url).map (urlParts E)
  parseQsl := queryItems
  urlencode := Urls.urlencode
  urlunsplit scheme netloc path query fragment :=
    Urls.urlunsplit ⟨scheme, netloc, path, query, fragment⟩
  scheme_of_no_colon := by
    intro text parts h hcolon
    obtain ⟨split, hsplit, rfl⟩ := map_eq_some_iff.mp h
    exact scheme_of_no_colon hsplit hcolon

/-! ## Two URLs -/

/-- Two parts of a query: the same text, or one secret parameter with any two values. -/
def AlikePart (part part' : Text) : Prop :=
  part = part' ∨
    part ≠ [] ∧ part' ≠ [] ∧ Urls.before '=' part = Urls.before '=' part' ∧
      sensitiveQueryValue P (queryItem part).1 (queryItem part).2 = true ∧
      sensitiveQueryValue P (queryItem part').1 (queryItem part').2 = true

/-- Web addresses that differ only in their user information and in the values of secret
parameters; the user information is what stands before the last `@`. -/
structure AlikeUrls (url url' : Text) (parts parts' : Urls.SplitResult) : Prop where
  split : Urls.urlsplit (Urls.netlocOk E) url = some parts
  split' : Urls.urlsplit (Urls.netlocOk E) url' = some parts'
  web : isHttp P parts.scheme = true
  host : Urls.hostname E parts.netloc ≠ []
  scheme : parts.scheme = parts'.scheme
  address : Urls.afterLast '@' parts.netloc = Urls.afterLast '@' parts'.netloc
  path : parts.path = parts'.path
  query : List.Forall₂ (AlikePart P) (Urls.split '&' parts.query) (Urls.split '&' parts'.query)
  fragment : parts.fragment = parts'.fragment

def redactField (item : Text × Text) : Text × Text :=
  (item.1, if sensitiveQueryValue P item.1 item.2 then redacted
    else redactRecognizableValues P item.2)

theorem redactField_alike {part part' : Text} (h : AlikePart P part part') :
    redactField P (queryItem part) = redactField P (queryItem part') := by
  rcases h with rfl | ⟨-, -, hname, hsecret, hsecret'⟩
  · rfl
  · -- both values are put out of sight
    simp only [redactField, hsecret, hsecret', if_true]
    simp only [queryItem, hname]

theorem redactQuery_alike {fields fields' : List Text}
    (h : List.Forall₂ (AlikePart P) fields fields') :
    ((fields.filter (· ≠ [])).map queryItem).map (redactField P) =
      ((fields'.filter (· ≠ [])).map queryItem).map (redactField P) := by
  induction h with
  | nil => rfl
  | @cons part part' rest rest' hpart hrest ih =>
    by_cases hnone : part = []
    · have hnone' : part' = [] := by
        rcases hpart with rfl | ⟨hne, -⟩
        · exact hnone
        · exact (hne hnone).elim
      simpa [hnone, hnone'] using ih
    · have hsome' : part' ≠ [] := by
        rcases hpart with rfl | ⟨-, hne', -⟩
        · exact hnone
        · exact hne'
      rw [filter_cons_of_pos (by simpa using hnone),
        filter_cons_of_pos (by simpa using hsome')]
      simp only [map_cons, redactField_alike P hpart]
      exact congrArg _ ih

theorem hostname_congr {netloc netloc' : Text}
    (h : Urls.afterLast '@' netloc = Urls.afterLast '@' netloc') :
    Urls.hostname E netloc = Urls.hostname E netloc' := by
  simp only [Urls.hostname, Urls.hostInfo, h]

theorem port_congr {netloc netloc' : Text}
    (h : Urls.afterLast '@' netloc = Urls.afterLast '@' netloc') :
    Urls.port netloc = Urls.port netloc' := by
  simp only [Urls.port, Urls.hostInfo, h]

theorem redactUrl_of_split {url : Text} {parts : Urls.SplitResult}
    (h : Urls.urlsplit (Urls.netlocOk E) url = some parts) (hweb : isHttp P parts.scheme = true)
    (hhost : Urls.hostname E parts.netloc ≠ []) :
    redactUrl P (pythonUrl E) url =
      (Urls.port parts.netloc).toOption.elim redacted fun port =>
        let host := Urls.hostname E parts.netloc
        let hostname := if host.contains ':' && host.head? ≠ some '[' then '[' :: host ++ [']']
          else host
        Urls.urlunsplit
          { scheme := parts.scheme.flatMap P.casefold
            netloc := port.elim hostname fun port => hostname ++ ':' :: (toString port).toList
            path := redactRecognizableValues P parts.path
            query := Urls.urlencode ((queryItems parts.query).map (redactField P))
            fragment := redactRecognizableValues P parts.fragment } := by
  have hsplit : (pythonUrl E).urlsplit url = some (urlParts E parts) := by
    simp only [pythonUrl, h, map_some]
  simp only [redactUrl, hsplit, urlParts, hweb, getD_some, Bool.not_true, Bool.false_or,
    List.isEmpty_iff, hhost, if_false]
  cases (Urls.port parts.netloc).toOption with
  | none => rfl
  | some port => cases port <;> rfl

end NewsCraft.Redact
