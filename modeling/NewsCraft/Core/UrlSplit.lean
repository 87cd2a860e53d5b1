import Mathlib.Data.List.TakeWhile
import NewsCraft.Core.UrlQuery

/-!
# The parts of a URL

`urlsplit` and `urlunsplit` of `urllib.parse`. Splitting drops blanks and control characters
before the URL, tabs and line ends within.
-/

namespace NewsCraft.Urls

open List

@[ext]
structure SplitResult where
  scheme : Text
  netloc : Text
  path : Text
  query : Text
  fragment : Text
  deriving DecidableEq

/-! ## Splitting -/

/-- `_WHATWG_C0_CONTROL_OR_SPACE`. -/
def isControlOrBlank (c : Char) : Bool := c.toNat ≤ 32

/-- `_UNSAFE_URL_BYTES_TO_REMOVE`. -/
def isUnsafe (c : Char) : Bool := c = '\t' || c = '\r' || c = '\n'

/-- `scheme_chars`. -/
def isSchemeChar (c : Char) : Bool := c.isAlphanum || c = '+' || c = '-' || c = '.'

def isDelimiter (c : Char) : Bool := c = '/' || c = '?' || c = '#'

/-- The scheme, in lower case, and what follows its colon. -/
def readScheme (url : Text) : Text × Text :=
  if ':' ∈ url ∧ url.head?.any Char.isAlpha = true ∧ (before ':' url).all isSchemeChar = true then
    ((before ':' url).map Char.toLower, after ':' url)
  else
    ([], url)

/-- `_splitnetloc`, where there is a network location. -/
def readNetloc : Text → Text × Text
  | '/' :: '/' :: rest =>
    (rest.takeWhile fun c => !isDelimiter c, rest.dropWhile fun c => !isDelimiter c)
  | url => ([], url)

/-- The URL as it is split: without blanks before it, tabs and line ends. -/
def cleaned (url : Text) : Text :=
  (url.dropWhile isControlOrBlank).filter fun c => !isUnsafe c

/-- `urlsplit`; `netlocOk` are the checks of the network location, which raise. -/
def urlsplit (netlocOk : Text → Bool) (url : Text) : Option SplitResult :=
  let (scheme, url) := readScheme (cleaned url)
  let (netloc, url) := readNetloc url
  if netlocOk netloc = true then
    some
      { scheme := scheme
        netloc := netloc
        path := before '?' (before '#' url)
        query := after '?' (before '#' url)
        fragment := after '#' url }
  else
    none

/-! ## Putting together -/

/-- `uses_netloc`. -/
def usesNetloc : List Text :=
  ["", "ftp", "http", "gopher", "nntp", "telnet", "imap", "wais", "file", "mms", "https", "shttp",
    "snews", "prospero", "rtsp", "rtsps", "rtspu", "rsync", "svn", "svn+ssh", "sftp", "nfs", "git",
    "git+ssh", "ws", "wss", "itms-services"].map String.toList

def joinNetloc (scheme netloc path : Text) : Text :=
  if netloc ≠ [] then
    '/' :: '/' :: netloc ++ if path ≠ [] ∧ path.head? ≠ some '/' then '/' :: path else path
  else if ['/', '/'].isPrefixOf path then
    '/' :: '/' :: path
  else if scheme ≠ [] ∧ scheme ∈ usesNetloc ∧ (path = [] ∨ path.head? = some '/') then
    '/' :: '/' :: path
  else
    path

/-- `urlunsplit`. -/
def urlunsplit (parts : SplitResult) : Text :=
  let url := joinNetloc parts.scheme parts.netloc parts.path
  let url := if parts.scheme ≠ [] then parts.scheme ++ ':' :: url else url
  let url := if parts.query ≠ [] then url ++ '?' :: parts.query else url
  if parts.fragment ≠ [] then url ++ '#' :: parts.fragment else url

/-! ## What the parts of a URL consist of -/

def webSchemes : List Text := ["http".toList, "https".toList]

structure WebParts (parts : SplitResult) : Prop where
  scheme : parts.scheme ∈ webSchemes
  netloc : parts.netloc ≠ []
  host : ∀ c ∈ parts.netloc, isDelimiter c = false ∧ isUnsafe c = false
  path : parts.path = [] ∨ parts.path.head? = some '/'
  pathChars : ∀ c ∈ parts.path, c ≠ '?' ∧ c ≠ '#' ∧ isUnsafe c = false

variable {separator c : Char} {text : Text}

theorem mem_before (h : c ∈ before separator text) : c ∈ text ∧ c ≠ separator := by
  refine ⟨(takeWhile_sublist _).subset h, ?_⟩
  simpa using mem_takeWhile_imp h

theorem mem_after (h : c ∈ after separator text) : c ∈ text :=
  (dropWhile_sublist _).subset ((drop_sublist 1 _).subset h)

variable {url : Text}

theorem mem_cleaned (h : c ∈ cleaned url) : isUnsafe c = false := by
  simpa using (mem_filter.mp h).2

theorem mem_readScheme (h : c ∈ (readScheme url).2) : c ∈ url := by
  unfold readScheme at h
  split_ifs at h
  · exact mem_after h
  · exact h

theorem mem_readNetloc (h : c ∈ (readNetloc url).1 ∨ c ∈ (readNetloc url).2) : c ∈ url := by
  unfold readNetloc at h
  split at h
  · rename_i rest
    refine mem_cons_of_mem _ (mem_cons_of_mem _ ?_)
    rcases h with hnetloc | hrest
    · exact (takeWhile_sublist _).subset hnetloc
    · exact (dropWhile_sublist _).subset hrest
  · rcases h with hnetloc | hrest
    · cases hnetloc
    · exact hrest

theorem readNetloc_netloc (h : c ∈ (readNetloc url).1) : isDelimiter c = false := by
  unfold readNetloc at h
  split at h
  · simpa using mem_takeWhile_imp h
  · cases h

theorem readNetloc_rest (h : (readNetloc url).1 ≠ []) :
    (readNetloc url).2 = [] ∨ ∃ c rest, (readNetloc url).2 = c :: rest ∧ isDelimiter c = true := by
  unfold readNetloc at h ⊢
  split at h
  · rename_i rest
    cases hrest : rest.dropWhile fun c => !isDelimiter c with
    | nil => exact .inl rfl
    | cons c later =>
      refine .inr ⟨c, later, rfl, ?_⟩
      have hhead := dropWhile_get_zero_not (fun c => !isDelimiter c) rest
        (by rw [hrest]; simp)
      simpa [hrest] using hhead
  · exact absurd rfl h

variable {parts : SplitResult}

theorem webParts_of_urlsplit {netlocOk : Text → Bool} (h : urlsplit netlocOk url = some parts)
    (hscheme : parts.scheme ∈ webSchemes) (hnetloc : parts.netloc ≠ []) : WebParts parts := by
  unfold urlsplit at h
  dsimp only at h
  split_ifs at h
  cases h
  have hurl : ∀ c, c ∈ (readNetloc (readScheme (cleaned url)).2).1
      ∨ c ∈ (readNetloc (readScheme (cleaned url)).2).2 → isUnsafe c = false := by
    intro c hc
    exact mem_cleaned (mem_readScheme (mem_readNetloc hc))
  refine ⟨hscheme, hnetloc, ?_, ?_, ?_⟩
  · intro c hc
    exact ⟨readNetloc_netloc hc, hurl c (.inl hc)⟩
  · dsimp only
    rcases readNetloc_rest hnetloc with hrest | ⟨c, rest, hrest, hdelimiter⟩
    · rw [hrest]
      exact .inl rfl
    · rw [hrest]
      simp only [isDelimiter, Bool.or_eq_true, decide_eq_true_eq] at hdelimiter
      rcases hdelimiter with (rfl | rfl) | rfl
      · exact .inr rfl
      · exact .inl rfl
      · exact .inl rfl
  · intro c hc
    obtain ⟨hfragmentless, hquery⟩ := mem_before hc
    obtain ⟨hrest, hfragment⟩ := mem_before hfragmentless
    exact ⟨hquery, hfragment, hurl c (.inr hrest)⟩

/-! ## Splitting what was put together -/

theorem before_of_not_mem (h : separator ∉ text) : before separator text = text :=
  takeWhile_eq_self_iff.mpr (ne_of_mem h)

theorem after_of_not_mem (h : separator ∉ text) : after separator text = [] := by
  unfold after
  rw [dropWhile_eq_nil_iff.mpr (ne_of_mem h)]
  rfl

theorem urlunsplit_of_web (h : WebParts parts) (hpath : parts.path.head? = some '/')
    (hfragment : parts.fragment = []) :
    urlunsplit parts
      = parts.scheme ++ ':' :: '/' :: '/' :: (parts.netloc ++ (parts.path
          ++ if parts.query ≠ [] then '?' :: parts.query else [])) := by
  have hscheme : parts.scheme ≠ [] := by
    intro hnil
    have hmem := h.scheme
    rw [hnil] at hmem
    exact absurd hmem (by decide)
  unfold urlunsplit joinNetloc
  simp only [if_pos hscheme, if_pos h.netloc, hfragment, hpath, ne_eq, not_true_eq_false, and_false,
    if_false]
  by_cases hquery : parts.query = []
  · simp [hquery]
  · simp [hquery]

theorem cleaned_of_web {scheme rest : Text} (hscheme : scheme ∈ webSchemes)
    (h : ∀ c ∈ rest, isUnsafe c = false) : cleaned (scheme ++ rest) = scheme ++ rest := by
  have hkept : (scheme ++ rest).filter (fun c => !isUnsafe c) = scheme ++ rest := by
    rw [filter_eq_self]
    intro c hc
    rcases mem_append.mp hc with hfirst | hrest
    · have hall : ∀ scheme ∈ webSchemes, scheme.all (fun c => !isUnsafe c) = true := by decide
      exact all_eq_true.mp (hall scheme hscheme) c hfirst
    · rw [h c hrest]
      rfl
  have hstart : (scheme ++ rest).dropWhile isControlOrBlank = scheme ++ rest := by
    simp only [webSchemes, mem_cons, not_mem_nil, or_false] at hscheme
    rcases hscheme with rfl | rfl
    · rfl
    · rfl
  rw [cleaned, hstart, hkept]

theorem readScheme_of_web {scheme : Text} (hscheme : scheme ∈ webSchemes) (rest : Text) :
    readScheme (scheme ++ ':' :: rest) = (scheme, rest) := by
  have hall : ∀ scheme ∈ webSchemes, ':' ∉ scheme ∧ scheme.head?.any Char.isAlpha = true
      ∧ scheme.all isSchemeChar = true ∧ scheme.map Char.toLower = scheme := by decide
  obtain ⟨hcolon, halpha, hchars, hlower⟩ := hall scheme hscheme
  have hhead : (scheme ++ ':' :: rest).head?.any Char.isAlpha = true := by
    cases scheme with
    | nil => cases halpha
    | cons c later => exact halpha
  unfold readScheme
  rw [before_append hcolon, after_append hcolon, if_pos ⟨by simp, hhead, hchars⟩, hlower]

theorem readNetloc_of_web {netloc rest : Text} (hnetloc : ∀ c ∈ netloc, isDelimiter c = false)
    (hrest : rest.head? = some '/') :
    readNetloc ('/' :: '/' :: (netloc ++ rest)) = (netloc, rest) := by
  have hall : ∀ c ∈ netloc, (!isDelimiter c) = true := by
    intro c hc
    rw [hnetloc c hc]
    rfl
  cases rest with
  | nil => cases hrest
  | cons c later =>
    simp only [head?_cons, Option.some.injEq] at hrest
    subst hrest
    rw [readNetloc, takeWhile_append_of_pos hall, dropWhile_append_of_pos hall]
    simp [isDelimiter]

/-- **A web address is split into the parts it was put together from.** -/
theorem urlsplit_urlunsplit {netlocOk : Text → Bool} (h : WebParts parts)
    (hpath : parts.path.head? = some '/') (hfragment : parts.fragment = [])
    (hquery : ∀ c ∈ parts.query, c ≠ '#' ∧ isUnsafe c = false) (hok : netlocOk parts.netloc = true)
    : urlsplit netlocOk (urlunsplit parts) = some parts := by
  have hsafe : ∀ c ∈ ':' :: '/' :: '/' :: (parts.netloc ++ (parts.path
      ++ if parts.query ≠ [] then '?' :: parts.query else [])), isUnsafe c = false := by
    intro c hc
    simp only [mem_cons, mem_append] at hc
    rcases hc with rfl | rfl | rfl | hhost | hpathChar | hrest
    · decide
    · decide
    · decide
    · exact (h.host c hhost).2
    · exact (h.pathChars c hpathChar).2.2
    split_ifs at hrest
    · rcases mem_cons.mp hrest with rfl | hchar
      · decide
      · exact (hquery c hchar).2
    · cases hrest
  have hhead : (parts.path ++ if parts.query ≠ [] then '?' :: parts.query else []).head?
      = some '/' := by
    cases hp : parts.path with
    | nil =>
      rw [hp] at hpath
      cases hpath
    | cons c later =>
      rw [hp] at hpath
      exact hpath
  have hnoFragment : '#' ∉ parts.path ++ if parts.query ≠ [] then '?' :: parts.query else [] := by
    intro hmem
    rcases mem_append.mp hmem with hpathChar | hrest
    · exact (h.pathChars _ hpathChar).2.1 rfl
    split_ifs at hrest
    · rcases mem_cons.mp hrest with heq | hchar
      · exact absurd heq (by decide)
      · exact (hquery _ hchar).1 rfl
    · cases hrest
  have hnoQuery : '?' ∉ parts.path := fun hmem => (h.pathChars _ hmem).1 rfl
  rw [urlunsplit_of_web h hpath hfragment]
  unfold urlsplit
  rw [cleaned_of_web h.scheme hsafe, readScheme_of_web h.scheme]
  dsimp only
  rw [readNetloc_of_web (fun c hc => (h.host c hc).1) hhead]
  rw [if_pos hok, before_of_not_mem hnoFragment, after_of_not_mem hnoFragment]
  by_cases hempty : parts.query = []
  · simp only [hempty, ne_eq, not_true_eq_false, if_false, append_nil,
      before_of_not_mem hnoQuery, after_of_not_mem hnoQuery]
    cases parts
    simp_all
  · simp only [ne_eq, hempty, not_false_eq_true, if_true, before_append hnoQuery,
      after_append hnoQuery]
    cases parts
    simp_all

end NewsCraft.Urls
