import Mathlib.Data.Char
import Mathlib.Data.List.DropRight
import Mathlib.Data.List.Lex
import NewsCraft.Core.UrlSplit
import NewsCraft.Lib.Canonical

/-!
# Normal forms of URLs

`normalize_url` lowers scheme and host, drops fragment and tracking fields, sorts the fields
that are left and takes one slash off the end of the path. The normal form is its own normal
form unless the path ends in several slashes, or in white space with no query after it: each
pass strips the URL and one slash.
-/

namespace NewsCraft.Urls

open Lib List Option

/-- What Python's library says of texts and of network locations. -/
structure UrlEnv where
  /-- `str.lower`. -/
  lower : Text → Text
  /-- The checks of `urlsplit` on the network location. -/
  netlocOk : Text → Bool
  lower_ascii : ∀ text : Text, (∀ c ∈ text, c.toNat < 128) → lower text = text.map Char.toLower
  lower_lower : ∀ text, lower (lower text) = lower text
  lower_ne_nil : ∀ text, text ≠ [] → lower text ≠ []
  /-- No character of ASCII that is not a letter is the lower case of another one. -/
  mem_lower : ∀ text c, isDelimiter c = true ∨ isUnsafe c = true → c ∈ lower text → c ∈ text
  netlocOk_lower : ∀ netloc, netlocOk netloc = true → netlocOk (lower netloc) = true

variable (E : UrlEnv)

/-! ## The normal form -/

/-- `text.strip()`. -/
def strip (text : Text) : Text := (text.dropWhile isPySpace).rdropWhile isPySpace

def trackingPrefixes : List Text := ["utm_".toList]

def trackingParams : List Text :=
  ["fbclid", "gclid", "mc_cid", "mc_eid", "cmpid", "ref"].map String.toList

def isTracking (key : Text) : Bool :=
  trackingParams.contains (E.lower key)
    || trackingPrefixes.any fun start => start.isPrefixOf (E.lower key)

/-- The order of tuples of texts, by code points. -/
def itemLe (a b : Text × Text) : Prop := [a.1, a.2] ≤ [b.1, b.2]

instance : DecidableRel itemLe := fun _ _ => inferInstanceAs (Decidable (_ ≤ _))

/-- `query_items`. -/
def queryItems (query : Text) : List (Text × Text) :=
  (parseQsl query).filter fun item => !isTracking E item.1

def normalPath (path : Text) : Text :=
  let path := if path = [] then ['/'] else path
  if path ≠ ['/'] ∧ path.getLast? = some '/' then path.dropLast else path

/-- The parts that the normal form is put together from. -/
def normalParts (parts : SplitResult) : SplitResult where
  scheme := if E.lower parts.scheme = [] then "https".toList else E.lower parts.scheme
  netloc := E.lower parts.netloc
  path := normalPath parts.path
  query := urlencode ((queryItems E parts.query).insertionSort itemLe)
  fragment := []

/-- `normalize_url`, without a base; `none` where `urlsplit` raises. -/
def normalizeUrl (url : Text) : Option Text :=
  (urlsplit E.netlocOk (strip url)).map fun parts => urlunsplit (normalParts E parts)

/-! ## Paths -/

variable {front : Text}

theorem normalPath_slash (h : front ≠ []) : normalPath (front ++ ['/']) = front := by
  have hne : front ++ ['/'] ≠ ['/'] := by simpa using h
  simp [normalPath, hne]

variable {c : Char}

theorem normalPath_other (h : c ≠ '/') : normalPath (front ++ [c]) = front ++ [c] := by
  simp [normalPath, h]

theorem path_cases (path : Text) :
    path = [] ∨ path = ['/'] ∨ (∃ front, front ≠ [] ∧ path = front ++ ['/'])
      ∨ ∃ front c, c ≠ '/' ∧ path = front ++ [c] := by
  rcases eq_nil_or_concat path with hnil | ⟨front, c, hpath⟩
  · exact .inl hnil
  rw [concat_eq_append] at hpath
  subst hpath
  by_cases hslash : c = '/'
  · subst hslash
    by_cases hfront : front = []
    · subst hfront
      exact .inr (.inl rfl)
    · exact .inr (.inr (.inl ⟨front, hfront, rfl⟩))
  · exact .inr (.inr (.inr ⟨front, c, hslash, rfl⟩))

variable {path : Text}

theorem prefix_normalPath (h : path ≠ []) : normalPath path <+: path := by
  rcases path_cases path with rfl | rfl | ⟨front, hfront, rfl⟩ | ⟨front, c, hc, rfl⟩
  · exact absurd rfl h
  · exact prefix_refl _
  · rw [normalPath_slash hfront]
    exact prefix_append _ _
  · simp only [normalPath_other hc, prefix_rfl]

theorem normalPath_head (h : path = [] ∨ path.head? = some '/') :
    (normalPath path).head? = some '/' := by
  rcases path_cases path with rfl | rfl | ⟨front, hfront, rfl⟩ | ⟨front, c, hc, rfl⟩
  · rfl
  · rfl
  · rw [normalPath_slash hfront]
    cases front with
    | nil => exact absurd rfl hfront
    | cons d rest => simpa using h
  · rw [normalPath_other hc]
    simpa using h

/-- The path ends in two slashes and begins before them. -/
def Doubled (path : Text) : Prop := ∃ front, front ≠ [] ∧ path = front ++ ['/', '/']

/-- The path ends in white space, or in white space and a slash. -/
def EndsInSpace (path : Text) : Prop :=
  ∃ front c, isPySpace c = true ∧ (path = front ++ [c] ∨ path = front ++ [c, '/'])

theorem normalPath_normalPath_iff (path : Text) :
    normalPath (normalPath path) = normalPath path ↔ ¬Doubled path := by
  rcases path_cases path with rfl | rfl | ⟨front, hfront, rfl⟩ | ⟨front, c, hc, rfl⟩
  · refine iff_of_true rfl ?_
    rintro ⟨front, -, hpath⟩
    simp at hpath
  · refine iff_of_true rfl ?_
    rintro ⟨front, -, hpath⟩
    have hlength := congrArg List.length hpath
    simp at hlength
  · have hdoubled : Doubled (front ++ ['/']) ↔ ∃ start, start ≠ [] ∧ front = start ++ ['/'] := by
      have hsplit : ∀ start : Text,
          front ++ ['/'] = start ++ ['/', '/'] ↔ front = start ++ ['/'] := by
        intro start
        rw [show start ++ ['/', '/'] = (start ++ ['/']) ++ ['/'] by simp, append_cancel_right_eq]
      simp only [Doubled, hsplit]
    rw [normalPath_slash hfront, hdoubled]
    rcases path_cases front with rfl | rfl | ⟨start, hstart, rfl⟩ | ⟨start, c, hc, rfl⟩
    · exact absurd rfl hfront
    · refine iff_of_true rfl ?_
      rintro ⟨start, hstart, hpath⟩
      have hlength := congrArg List.length hpath
      simp only [length_cons, length_nil, length_append] at hlength
      exact hstart (length_eq_zero_iff.mp (by omega))
    · rw [normalPath_slash hstart]
      refine iff_of_false (fun heq => ?_) (fun hnot => hnot ⟨start, hstart, rfl⟩)
      have hlength := congrArg List.length heq
      simp at hlength
    · rw [normalPath_other hc]
      refine iff_of_true rfl ?_
      rintro ⟨other, -, hpath⟩
      exact hc (append_inj_right' hpath rfl |> singleton_inj.mp)
  · rw [normalPath_other hc, normalPath_other hc]
    refine iff_of_true rfl ?_
    rintro ⟨other, -, hpath⟩
    have hlast := congrArg List.getLast? hpath
    simp at hlast
    exact hc hlast

theorem endsInSpace_slash : EndsInSpace (front ++ [c, '/']) ↔ isPySpace c = true := by
  constructor
  · intro h
    obtain ⟨start, d, hd, hpath | hpath⟩ := h
    · have hlast := congrArg List.getLast? hpath
      simp at hlast
      rw [← hlast] at hd
      exact absurd hd (by decide)
    · have hpair := (append_inj' hpath rfl).2
      simp at hpair
      rw [hpair]
      exact hd
  · intro h
    exact ⟨front, c, h, Or.inr rfl⟩

theorem endsInSpace_other (h : c ≠ '/') : EndsInSpace (front ++ [c]) ↔ isPySpace c = true := by
  constructor
  · intro hspace
    obtain ⟨start, d, hd, hpath | hpath⟩ := hspace
    · have hlast := congrArg List.getLast? hpath
      simp at hlast
      rw [hlast]
      exact hd
    · have hlast := congrArg List.getLast? hpath
      simp at hlast
      exact absurd hlast h
  · intro hspace
    exact ⟨front, c, hspace, Or.inl rfl⟩

theorem rdropWhile_concat_iff :
    (front ++ [c]).rdropWhile isPySpace = front ++ [c] ↔ isPySpace c ≠ true := by
  rw [rdropWhile_eq_self_iff]
  simp

theorem trimmed_normalPath_iff (path : Text) :
    (normalPath path).rdropWhile isPySpace = normalPath path ↔ ¬EndsInSpace path := by
  rcases path_cases path with rfl | rfl | ⟨front, hfront, rfl⟩ | ⟨front, c, hc, rfl⟩
  · refine iff_of_true (by decide) ?_
    rintro ⟨front, c, -, hpath | hpath⟩ <;> simp at hpath
  · refine iff_of_true (by decide) ?_
    rintro ⟨front, c, hc, hpath | hpath⟩
    · have hlast := congrArg List.getLast? hpath
      simp at hlast
      rw [← hlast] at hc
      exact absurd hc (by decide)
    · have hlength := congrArg List.length hpath
      simp at hlength
  · rw [normalPath_slash hfront]
    rcases eq_nil_or_concat front with hnil | ⟨start, c, hpath⟩
    · exact absurd hnil hfront
    rw [concat_eq_append] at hpath
    subst hpath
    rw [rdropWhile_concat_iff, append_assoc]
    exact not_congr endsInSpace_slash.symm
  · rw [normalPath_other hc, rdropWhile_concat_iff]
    exact not_congr (endsInSpace_other hc).symm

theorem normalPath_trimmed_iff (path : Text) :
    normalPath ((normalPath path).rdropWhile isPySpace) = normalPath path
      ↔ ¬Doubled path ∧ ¬EndsInSpace path := by
  constructor
  · intro h
    have htrimmed : (normalPath path).rdropWhile isPySpace = normalPath path := by
      have htrim := rdropWhile_prefix isPySpace (normalPath path)
      by_cases hnil : (normalPath path).rdropWhile isPySpace = []
      · rw [hnil] at h ⊢
        rw [← h] at hnil
        exact absurd hnil (by decide)
      · refine htrim.eq_of_length ?_
        have hshorter := (prefix_normalPath hnil).length_le
        have hshort := htrim.length_le
        rw [h] at hshorter
        omega
    rw [htrimmed] at h
    exact ⟨(normalPath_normalPath_iff path).mp h, (trimmed_normalPath_iff path).mp htrimmed⟩
  · rintro ⟨hdoubled, hspace⟩
    rw [(trimmed_normalPath_iff path).mpr hspace]
    exact (normalPath_normalPath_iff path).mpr hdoubled

/-! ## Fields -/

theorem itemLe_total (a b : Text × Text) : itemLe a b ∨ itemLe b a := le_total _ _

theorem itemLe_trans (a b c : Text × Text) (hab : itemLe a b) (hbc : itemLe b c) : itemLe a c :=
  le_trans (a := [a.1, a.2]) hab hbc

theorem itemLe_antisymm {a b : Text × Text} (hab : itemLe a b) (hba : itemLe b a) : a = b := by
  have hkey : [a.1, a.2] = [b.1, b.2] := le_antisymm hab hba
  simp only [List.cons.injEq, and_true] at hkey
  exact Prod.ext hkey.1 hkey.2

theorem sorted_eq_of_perm {items items' : List (Text × Text)} (h : items.Perm items') :
    items.insertionSort itemLe = items'.insertionSort itemLe :=
  Canonical.insertionSort_eq_of_perm itemLe_total itemLe_trans (fun _ _ _ _ => itemLe_antisymm) h

/-- **The query of the normal form is its own normal form**: its fields have values, are
sorted, and none of them tracks. -/
theorem queryItems_normal (query : Text) :
    queryItems E (normalParts E ⟨[], [], [], query, []⟩).query
      = (queryItems E query).insertionSort itemLe := by
  have hvalues : ∀ item ∈ (queryItems E query).insertionSort itemLe, item.2 ≠ [] := by
    intro item hitem
    rw [mem_insertionSort] at hitem
    exact value_ne_nil (mem_filter.mp hitem).1
  change (parseQsl (urlencode ((queryItems E query).insertionSort itemLe))).filter _ = _
  rw [parseQsl_urlencode hvalues, filter_eq_self]
  intro item hitem
  rw [mem_insertionSort] at hitem
  exact (mem_filter.mp hitem).2

theorem normalParts_query_again {parts parts' : SplitResult}
    (h : parts'.query = (normalParts E parts).query) :
    (normalParts E parts').query = (normalParts E parts).query := by
  have hitems : queryItems E parts'.query = (queryItems E parts.query).insertionSort itemLe := by
    rw [h]
    exact queryItems_normal E parts.query
  change urlencode ((queryItems E parts'.query).insertionSort itemLe) = _
  rw [hitems, sorted_eq_of_perm (perm_insertionSort itemLe _)]
  rfl

/-! ## The normal form of the normal form -/

structure WebUrl (url : Text) (parts : SplitResult) : Prop where
  split : urlsplit E.netlocOk (strip url) = some parts
  scheme : parts.scheme ∈ webSchemes
  netloc : parts.netloc ≠ []

variable {E} {url : Text} {parts : SplitResult}

theorem lower_scheme {scheme : Text} (h : scheme ∈ webSchemes) : E.lower scheme = scheme := by
  have hall : webSchemes.all (fun scheme => scheme.all (·.toNat < 128)
      && scheme.map Char.toLower = scheme) = true := by decide
  have hascii := List.all_eq_true.mp hall scheme h
  simp only [Bool.and_eq_true, List.all_eq_true, decide_eq_true_eq] at hascii
  rw [E.lower_ascii _ hascii.1, hascii.2]

theorem normalParts_scheme (h : parts.scheme ∈ webSchemes) :
    (normalParts E parts).scheme = parts.scheme := by
  have hne : parts.scheme ≠ [] := by
    intro hnil
    rw [hnil] at h
    exact absurd h (by decide)
  simp [normalParts, lower_scheme h, hne]

theorem webParts_normalParts (h : WebUrl E url parts) : WebParts (normalParts E parts) := by
  have hweb := webParts_of_urlsplit h.split h.scheme h.netloc
  refine ⟨?_, E.lower_ne_nil _ h.netloc, ?_, Or.inr (normalPath_head hweb.path), ?_⟩
  · rw [normalParts_scheme h.scheme]
    exact h.scheme
  · intro c hc
    constructor
    · by_contra hdelimiter
      rw [Bool.not_eq_false] at hdelimiter
      have hmem := E.mem_lower _ c (.inl hdelimiter) hc
      rw [(hweb.host c hmem).1] at hdelimiter
      cases hdelimiter
    · by_contra hunsafe
      rw [Bool.not_eq_false] at hunsafe
      have hmem := E.mem_lower _ c (.inr hunsafe) hc
      rw [(hweb.host c hmem).2] at hunsafe
      cases hunsafe
  · intro c hc
    by_cases hpath : parts.path = []
    · have hroot : (normalParts E parts).path = ['/'] := by
        simp [normalParts, hpath, normalPath]
      rw [hroot, mem_singleton] at hc
      subst hc
      decide
    · exact hweb.pathChars c ((prefix_normalPath hpath).subset hc)

theorem normalParts_queryChars :
    ∀ c ∈ (normalParts E parts).query, c ≠ '#' ∧ isUnsafe c = false := by
  intro c hc
  obtain ⟨hhash, hspace⟩ := urlencode_bounds hc
  refine ⟨hhash, ?_⟩
  by_contra hunsafe
  simp only [isUnsafe, Bool.not_eq_false, Bool.or_eq_true, decide_eq_true_eq] at hunsafe
  rcases hunsafe with (rfl | rfl) | rfl <;> exact absurd hspace (by decide)

theorem netlocOk_of_urlsplit (h : urlsplit E.netlocOk url = some parts) :
    E.netlocOk parts.netloc = true := by
  unfold urlsplit at h
  dsimp only at h
  split_ifs at h with hok
  cases h
  exact hok

theorem rdropWhile_append {p : Char → Bool} (front : Text) {back : Text}
    (h : back.rdropWhile p ≠ []) : (front ++ back).rdropWhile p = front ++ back.rdropWhile p := by
  unfold List.rdropWhile at h ⊢
  have hne : (back.reverse.dropWhile p).isEmpty = false := by
    simpa using h
  rw [reverse_append, dropWhile_append, hne, if_neg (by decide), reverse_append, reverse_reverse]

/-- The path as the second pass reads it: without white space that ends the URL. -/
def secondPath (parts : SplitResult) : Text :=
  if parts.query = [] then parts.path.rdropWhile isPySpace else parts.path

theorem prefix_secondPath (parts : SplitResult) : secondPath parts <+: parts.path := by
  unfold secondPath
  split_ifs
  · exact rdropWhile_prefix _ _
  · exact prefix_refl _

theorem secondPath_head (h : parts.path.head? = some '/') :
    (secondPath parts).head? = some '/' := by
  cases hpath : parts.path with
  | nil =>
    rw [hpath] at h
    cases h
  | cons c rest =>
    rw [hpath, head?_cons, Option.some.injEq] at h
    subst h
    have hkept : ('/' :: rest).rdropWhile isPySpace ≠ [] := by
      rw [Ne, rdropWhile_eq_nil_iff]
      intro hall
      exact absurd (hall '/' mem_cons_self) (by decide)
    have hstarts := prefix_secondPath parts
    rw [hpath] at hstarts
    have hne : secondPath parts ≠ [] := by
      unfold secondPath
      rw [hpath]
      split_ifs
      · exact hkept
      · exact cons_ne_nil _ _
    cases hsecond : secondPath parts with
    | nil => exact absurd hsecond hne
    | cons d later =>
      rw [hsecond, cons_prefix_cons] at hstarts
      rw [hstarts.1, head?_cons]

theorem strip_urlunsplit (h : WebParts parts) (hpath : parts.path.head? = some '/')
    (hfragment : parts.fragment = []) (hquery : ∀ c ∈ parts.query, isPySpace c = false) :
    strip (urlunsplit parts) = urlunsplit { parts with path := secondPath parts } := by
  have hsecond : WebParts { parts with path := secondPath parts } :=
    ⟨h.scheme, h.netloc, h.host, Or.inr (secondPath_head hpath), fun c hc =>
      h.pathChars c ((prefix_secondPath parts).subset hc)⟩
  rw [urlunsplit_of_web h hpath hfragment,
    urlunsplit_of_web hsecond (secondPath_head hpath) hfragment]
  have hstart : ∀ rest, (parts.scheme ++ rest).dropWhile isPySpace = parts.scheme ++ rest := by
    intro rest
    have hscheme := h.scheme
    simp only [webSchemes, mem_cons, not_mem_nil, or_false] at hscheme
    rcases hscheme with heq | heq <;> rw [heq] <;> rfl
  have hend :
      (parts.path ++ if parts.query ≠ [] then '?' :: parts.query else []).rdropWhile isPySpace
        = secondPath parts ++ if parts.query ≠ [] then '?' :: parts.query else [] := by
    unfold secondPath
    by_cases hnil : parts.query = []
    · simp [hnil]
    simp only [hnil, ne_eq, not_false_eq_true, if_true, if_false]
    rw [rdropWhile_eq_self_iff]
    intro hne
    have hlast : (parts.path ++ '?' :: parts.query).getLast hne ∈ parts.query := by
      rw [getLast_append_of_ne_nil _ (cons_ne_nil _ _), getLast_cons hnil]
      exact getLast_mem hnil
    rw [hquery _ hlast]
    decide
  have hkept : (parts.path ++ if parts.query ≠ [] then '?' :: parts.query else []).rdropWhile
      isPySpace ≠ [] := by
    rw [hend]
    intro hnil
    have hhead := secondPath_head hpath
    rw [(append_eq_nil_iff.mp hnil).1] at hhead
    cases hhead
  unfold strip
  rw [hstart, show ∀ rest : Text, parts.scheme ++ ':' :: '/' :: '/' :: (parts.netloc ++ rest)
    = (parts.scheme ++ ':' :: '/' :: '/' :: parts.netloc) ++ rest by simp,
    rdropWhile_append _ hkept, hend]
  simp

/-- **The second pass** changes nothing but the path. -/
theorem normalizeUrl_normal (h : WebUrl E url parts) :
    normalizeUrl E (urlunsplit (normalParts E parts)) = some (urlunsplit { normalParts E parts with
          path := normalPath (secondPath (normalParts E parts)) }) := by
  have hweb := webParts_normalParts h
  have hgiven := webParts_of_urlsplit h.split h.scheme h.netloc
  have hhead : (normalParts E parts).path.head? = some '/' := normalPath_head hgiven.path
  have hsecond : WebParts { normalParts E parts with path := secondPath (normalParts E parts) } :=
    ⟨hweb.scheme, hweb.netloc, hweb.host, Or.inr (secondPath_head hhead), fun c hc =>
      hweb.pathChars c ((prefix_secondPath _).subset hc)⟩
  have hok : E.netlocOk (normalParts E parts).netloc = true :=
    E.netlocOk_lower _ (netlocOk_of_urlsplit h.split)
  have hsplit : urlsplit E.netlocOk (urlunsplit { normalParts E parts with
      path := secondPath (normalParts E parts) }) = some { normalParts E parts with
        path := secondPath (normalParts E parts) } :=
    urlsplit_urlunsplit hsecond (secondPath_head hhead) rfl normalParts_queryChars hok
  unfold normalizeUrl
  rw [strip_urlunsplit hweb hhead rfl (fun c hc => (urlencode_bounds hc).2), hsplit, map_some]
  have hscheme : (normalParts E { normalParts E parts with
      path := secondPath (normalParts E parts) }).scheme = (normalParts E parts).scheme :=
    normalParts_scheme hweb.scheme
  have hquery : (normalParts E { normalParts E parts with
      path := secondPath (normalParts E parts) }).query = (normalParts E parts).query :=
    normalParts_query_again E rfl
  have hnetloc : (normalParts E { normalParts E parts with
      path := secondPath (normalParts E parts) }).netloc = (normalParts E parts).netloc :=
    E.lower_lower _
  congr 2
  exact SplitResult.ext hscheme hnetloc rfl hquery rfl

theorem normalParts_query_nil_iff :
    (normalParts E parts).query = [] ↔ queryItems E parts.query = [] := by
  change urlencode ((queryItems E parts.query).insertionSort itemLe) = [] ↔ _
  rw [urlencode_eq_nil_iff, ← length_eq_zero_iff, length_insertionSort, length_eq_zero_iff]

/-- The path that the second pass leaves as it is. -/
def StablePath (E : UrlEnv) (parts : SplitResult) : Prop :=
  ¬Doubled parts.path ∧ (queryItems E parts.query = [] → ¬EndsInSpace parts.path)

theorem normalPath_secondPath_iff :
    normalPath (secondPath (normalParts E parts)) = (normalParts E parts).path
      ↔ StablePath E parts := by
  unfold secondPath StablePath
  by_cases hnil : queryItems E parts.query = []
  · rw [if_pos (normalParts_query_nil_iff.mpr hnil)]
    simp only [hnil, forall_const]
    exact normalPath_trimmed_iff parts.path
  · rw [if_neg (fun h => hnil (normalParts_query_nil_iff.mp h))]
    simp only [hnil, IsEmpty.forall_iff, and_true]
    exact normalPath_normalPath_iff parts.path

theorem urlunsplit_path_iff (h : WebParts parts) (hpath : parts.path.head? = some '/')
    (hfragment : parts.fragment = []) (hother : path.head? = some '/') (hchars : path ⊆ parts.path)
    :
    urlunsplit { parts with path := path } = urlunsplit parts ↔ path = parts.path := by
  have hweb : WebParts { parts with path := path } :=
    ⟨h.scheme, h.netloc, h.host, Or.inr hother, fun c hc => h.pathChars c (hchars hc)⟩
  rw [urlunsplit_of_web hweb hother hfragment, urlunsplit_of_web h hpath hfragment]
  constructor
  · intro heq
    simpa using heq
  · intro heq
    rw [heq]

/-- **The normal form is its own normal form exactly if the path is stable.** -/
theorem normalizeUrl_again_iff (h : WebUrl E url parts) :
    (normalizeUrl E url).bind (normalizeUrl E) = normalizeUrl E url ↔ StablePath E parts := by
  have hweb := webParts_normalParts h
  have hgiven := webParts_of_urlsplit h.split h.scheme h.netloc
  have hhead : (normalParts E parts).path.head? = some '/' := normalPath_head hgiven.path
  have hsecond : (secondPath (normalParts E parts)).head? = some '/' := secondPath_head hhead
  have hne : secondPath (normalParts E parts) ≠ [] := by
    intro hnil
    rw [hnil] at hsecond
    cases hsecond
  have hfirst : normalizeUrl E url = some (urlunsplit (normalParts E parts)) := by
    rw [normalizeUrl, h.split, map_some]
  rw [hfirst, bind_some, normalizeUrl_normal h, Option.some.injEq,
    urlunsplit_path_iff hweb hhead rfl (normalPath_head (.inr hsecond))
      (((prefix_normalPath hne).trans (prefix_secondPath _)).subset)]
  exact normalPath_secondPath_iff

/-! ## URLs with one normal form -/

def fieldKey (field : Text) : Text := unquotePlus (before '=' field)

def plainFields (E : UrlEnv) (query : Text) : List Text :=
  (split '&' query).filter fun field => !isTracking E (fieldKey field)

/-- URLs that differ only in case, fragment, tracking fields and the order of the others. -/
structure SameResource (E : UrlEnv) (parts parts' : SplitResult) : Prop where
  scheme : E.lower parts.scheme = E.lower parts'.scheme
  netloc : E.lower parts.netloc = E.lower parts'.netloc
  path : parts.path = parts'.path
  fields : (plainFields E parts.query).Perm (plainFields E parts'.query)

theorem queryItems_eq_plainFields (query : Text) :
    queryItems E query = (plainFields E query).filterMap parseField := by
  unfold queryItems parseQsl plainFields
  rw [filter_filterMap, filterMap_filter]
  refine filterMap_congr fun field _ => ?_
  unfold parseField fieldKey
  by_cases hblank : after '=' field = []
  · simp [hblank]
  by_cases htracking : isTracking E (unquotePlus (before '=' field)) = true
  · simp [hblank, htracking, Option.filter]
  · simp [hblank, htracking, Option.filter]

/-- **What differs in no more than that has one normal form.** -/
theorem normalParts_sameResource {parts' : SplitResult} (h : SameResource E parts parts') :
    normalParts E parts = normalParts E parts' := by
  have hitems : (queryItems E parts.query).Perm (queryItems E parts'.query) := by
    rw [queryItems_eq_plainFields, queryItems_eq_plainFields]
    exact h.fields.filterMap parseField
  unfold normalParts
  rw [h.scheme, h.netloc, h.path, sorted_eq_of_perm hitems]

/-- The normal form is its own, and that of every URL that names the same resource. -/
def HasCanonicalForm (E : UrlEnv) (url : Text) (parts : SplitResult) : Prop :=
  (normalizeUrl E url).bind (normalizeUrl E) = normalizeUrl E url
    ∧ ∀ url' parts', WebUrl E url' parts' → SameResource E parts parts' →
        normalizeUrl E url' = normalizeUrl E url

/-- **Normal forms are canonical exactly if the path is stable**: it ends in no second
slash, and in no white space unless a query follows. -/
theorem canonical_iff (E : UrlEnv) (url : Text) (parts : SplitResult) (h : WebUrl E url parts) :
    HasCanonicalForm E url parts ↔ StablePath E parts := by
  rw [← normalizeUrl_again_iff h]
  refine ⟨fun hcanonical => hcanonical.1, fun hagain => ⟨hagain, ?_⟩⟩
  intro url' parts' hurl' hsame
  unfold normalizeUrl
  rw [hurl'.split, h.split, map_some, map_some, normalParts_sameResource hsame]

/-! ## A path with several slashes -/

theorem toLower_of_not_ascii (h : ¬c.toNat < 128) : c.toLower = c := by
  delta Char.toLower
  rw [dif_neg]
  intro hupper
  have hle := UInt32.le_iff_toNat_le.mp hupper.2
  exact h (lt_of_le_of_lt hle (by decide))

theorem toLower_spec (c : Char) :
    c.toLower.toLower = c.toLower ∧ (c.toLower.isAlpha = false → c.toLower = c) := by
  by_cases hascii : c.toNat < 128
  · have hall : ∀ n : Fin 128, (Char.ofNat n).toLower.toLower = (Char.ofNat n).toLower
        ∧ ((Char.ofNat n).toLower.isAlpha = false → (Char.ofNat n).toLower = Char.ofNat n) := by
      decide
    have hone := hall ⟨c.toNat, hascii⟩
    simp only [Char.ofNat_toNat] at hone
    exact hone
  · rw [toLower_of_not_ascii hascii]
    exact ⟨toLower_of_not_ascii hascii, fun _ => rfl⟩

theorem mem_map_toLower {text : Text} (hletter : c.isAlpha = false) :
    c ∈ text.map Char.toLower ↔ c ∈ text := by
  have hself : c.toLower = c := by
    have hcases : c.isUpper = false := (Bool.or_eq_false_iff.mp hletter).1
    delta Char.isUpper at hcases
    delta Char.toLower
    rw [dif_neg (of_decide_eq_false hcases)]
  constructor
  · intro hmem
    obtain ⟨given, hgiven, rfl⟩ := mem_map.mp hmem
    rw [(toLower_spec given).2 hletter]
    exact hgiven
  · intro hmem
    rw [← hself]
    exact mem_map_of_mem hmem

theorem not_isAlpha_of_delimiter (h : isDelimiter c = true ∨ isUnsafe c = true) :
    c.isAlpha = false := by
  simp only [isDelimiter, isUnsafe, Bool.or_eq_true, decide_eq_true_eq] at h
  rcases h with ((rfl | rfl) | rfl) | ((rfl | rfl) | rfl) <;> decide

/-- The library as far as ASCII goes: a network location has both brackets or none. -/
def UrlEnv.ascii : UrlEnv where
  lower text := text.map Char.toLower
  netlocOk netloc := netloc.contains '[' == netloc.contains ']'
  lower_ascii _ _ := rfl
  lower_lower text := by
    rw [List.map_map]
    exact map_congr_left fun c _ => (toLower_spec c).1
  lower_ne_nil text h := by simpa using h
  mem_lower text c hc hmem := (mem_map_toLower (not_isAlpha_of_delimiter hc)).mp hmem
  netlocOk_lower netloc h := by
    have hcontains : ∀ c : Char, c.isAlpha = false →
        (netloc.map Char.toLower).contains c = netloc.contains c := by
      intro c hc
      rw [Bool.eq_iff_iff, contains_iff_mem, contains_iff_mem]
      exact mem_map_toLower hc
    rw [hcontains '[' (by decide), hcontains ']' (by decide)]
    exact h

/-- The second pass takes off the slash that the first one left. -/
theorem canonical_twoSlashes :
    ∃ url parts, WebUrl UrlEnv.ascii url parts ∧ ¬HasCanonicalForm UrlEnv.ascii url parts := by
  refine ⟨"http://x/a//".toList,
    ⟨"http".toList, "x".toList, "/a//".toList, [], []⟩, ⟨by decide, by decide, by decide⟩, ?_⟩
  intro h
  exact absurd h.1 (by decide)

theorem canonical_iff_article :
    WebUrl UrlEnv.ascii "HTTPS://News.example/a/?utm_source=x&b=2&a=1#top".toList
        ⟨"https".toList, "News.example".toList, "/a/".toList, "utm_source=x&b=2&a=1".toList,
          "top".toList⟩
      ∧ HasCanonicalForm UrlEnv.ascii "HTTPS://News.example/a/?utm_source=x&b=2&a=1#top".toList
        ⟨"https".toList, "News.example".toList, "/a/".toList, "utm_source=x&b=2&a=1".toList,
          "top".toList⟩ := by
  have hurl : WebUrl UrlEnv.ascii "HTTPS://News.example/a/?utm_source=x&b=2&a=1#top".toList
      ⟨"https".toList, "News.example".toList, "/a/".toList, "utm_source=x&b=2&a=1".toList,
        "top".toList⟩ := ⟨by decide, by decide, by decide⟩
  refine ⟨hurl, (canonical_iff UrlEnv.ascii _ _ hurl).mpr ⟨?_, ?_⟩⟩
  · intro hdoubled
    obtain ⟨front, -, hpath⟩ := hdoubled
    have hlast := congrArg (fun path : Text => path.dropLast.getLast?) hpath
    simp at hlast
  · intro hnil
    exact absurd hnil (by decide)

end NewsCraft.Urls
