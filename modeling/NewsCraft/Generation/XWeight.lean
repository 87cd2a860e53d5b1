import Mathlib.Data.List.DropRight
import NewsCraft.Core.IpAddress

/-!
# The weighted length of a post on X

A URL counts as 23 characters and everything else as one each. A URL owns what is left of
its match after sentence punctuation and then closing brackets that nothing opens, one kind
after another.
-/

namespace NewsCraft.Generation.XWeight

open List

open Redact (matchesLetter matchesWord)

/-- `_TRAILING_SENTENCE_PUNCTUATION`. -/
def isSentencePunctuation (c : Char) : Bool := ['.', ',', '!', '?', ';', ':', '\'', '"'].contains c

/-- A character of `[^\s<>]`. -/
def isUrlChar (c : Char) : Bool := !isPySpace c && c ≠ '<' && c ≠ '>'

/-- `https?://`. -/
def schemeLength (text : Text) : Option Nat :=
  if matchesWord "https://".toList text then some 8
  else if matchesWord "http://".toList text then some 7
  else none

/-- The length of the match of `_URL_PATTERN` at the beginning of the text. -/
def matchLength (text : Text) : Option Nat :=
  match schemeLength text with
  | none => none
  | some n =>
    let value := (text.drop n).takeWhile isUrlChar
    if value = [] then none else some (n + value.length)

/-- `_URL_PATTERN.finditer`, with so many characters still in the last match. -/
def findUrls : Nat → Nat → Text → List (Nat × Text)
  | _, _, [] => []
  | skip + 1, position, _ :: rest => findUrls skip (position + 1) rest
  | 0, position, c :: rest =>
    match matchLength (c :: rest) with
    | none => findUrls 0 (position + 1) rest
    | some n => (position, (c :: rest).take n) :: findUrls (n - 1) (position + 1) rest

/-- `while candidate.endswith(closing) and candidate.count(closing) > candidate.count(opening)`;
the length is fuel enough. -/
def trimClosing (opening closing : Char) : Nat → Text → Text
  | 0, candidate => candidate
  | fuel + 1, candidate =>
    if candidate.getLast? = some closing ∧ candidate.count opening < candidate.count closing then
      trimClosing opening closing fuel candidate.dropLast
    else
      candidate

def brackets : List (Char × Char) := [('(', ')'), ('[', ']'), ('{', '}')]

/-- `_url_owned_candidate`. -/
def urlOwnedCandidate (raw : Text) : Text :=
  brackets.foldl (fun candidate kind => trimClosing kind.1 kind.2 candidate.length candidate)
    (raw.rdropWhile isSentencePunctuation)

/-- The parts of pydantic's `HttpUrl` that are looked at. -/
structure HttpUrl where
  username : Option Text
  password : Option Text
  host : Option Text

structure UrlCheck where
  /-- `TypeAdapter(HttpUrl).validate_python`; none where it raises `ValidationError`. -/
  validate : Text → Option HttpUrl
  /-- `idna.encode(host, uts46=True, std3_rules=True)` does not raise. -/
  encodes : Text → Bool

variable (E : UrlCheck)

/-- `_valid_http_url`. -/
def validHttpUrl (candidate : Text) : Bool :=
  match E.validate candidate with
  | none => false
  | some normalized =>
    if normalized.username.isSome || normalized.password.isSome then false
    else
      match normalized.host with
      | none => false
      | some host =>
        let host := host.rdropWhile (· = '.')
        let address := if host.head? = some '[' ∧ host.getLast? = some ']' then
            (host.drop 1).dropLast
          else host
        (Ip.ipAddress address).isSome || E.encodes host

/-- One round of the loop, on the weight so far and the end of the last URL. -/
def addUrl (state : Nat × Nat) (found : Nat × Text) : Nat × Nat :=
  let url := urlOwnedCandidate found.2
  if validHttpUrl E url then (state.1 + (found.1 - state.2) + 23, found.1 + url.length)
  else state

/-- `x_weighted_length`. -/
def xWeightedLength (text : Text) : Nat :=
  let state := (findUrls 0 0 text).foldl (addUrl E) (0, 0)
  state.1 + (text.length - state.2)

/-! ## The weight of a text, match by match -/

def matchWeight (raw : Text) : Nat :=
  if validHttpUrl E (urlOwnedCandidate raw) then 23 + (raw.length - (urlOwnedCandidate raw).length)
  else raw.length

def weight : Nat → Text → Nat
  | _, [] => 0
  | skip + 1, _ :: rest => weight skip rest
  | 0, c :: rest =>
    match matchLength (c :: rest) with
    | none => 1 + weight 0 rest
    | some n => matchWeight E ((c :: rest).take n) + weight (n - 1) rest

theorem length_trimClosing_le (opening closing : Char) (fuel : Nat) (candidate : Text) :
    (trimClosing opening closing fuel candidate).length ≤ candidate.length := by
  induction fuel generalizing candidate with
  | zero => exact Nat.le_refl _
  | succ fuel ih =>
    unfold trimClosing
    split
    · exact Nat.le_trans (ih _) (by simp)
    · exact Nat.le_refl _

theorem length_urlOwnedCandidate_le (raw : Text) : (urlOwnedCandidate raw).length ≤ raw.length := by
  have htrim := fun (kind : Char × Char) (candidate : Text) =>
    length_trimClosing_le kind.1 kind.2 candidate.length candidate
  exact Nat.le_trans (htrim ('{', '}') _) (Nat.le_trans (htrim ('[', ']') _)
    (Nat.le_trans (htrim ('(', ')') _) (List.rdropWhile_prefix ..).length_le))

theorem length_of_matchesWord {word text : Text} (h : matchesWord word text = true) :
    word.length ≤ text.length := by
  induction word generalizing text with
  | nil => exact Nat.zero_le _
  | cons letter word ih =>
    cases text with
    | nil => cases h
    | cons c rest =>
      have hrest := ih (Bool.and_eq_true_iff.mp h).2
      simp only [length_cons]
      omega

theorem schemeLength_bounds {text : Text} {n : Nat} (h : schemeLength text = some n) :
    7 ≤ n ∧ n ≤ 8 ∧ n ≤ text.length := by
  unfold schemeLength at h
  split at h
  · rename_i hsecure
    cases h
    exact ⟨by omega, by omega, length_of_matchesWord hsecure⟩
  · split at h
    · rename_i hplain
      cases h
      exact ⟨by omega, by omega, length_of_matchesWord hplain⟩
    · cases h

theorem matchLength_bounds {text : Text} {n : Nat} (h : matchLength text = some n) :
    8 ≤ n ∧ n ≤ text.length := by
  unfold matchLength at h
  split at h
  · cases h
  · rename_i m hscheme
    obtain ⟨hlow, -, hlen⟩ := schemeLength_bounds hscheme
    dsimp only at h
    split at h
    · cases h
    · rename_i hvalue
      cases h
      have hpos := length_pos_iff.mpr hvalue
      have hle := (takeWhile_sublist (p := isUrlChar) (l := text.drop m)).length_le
      rw [length_drop] at hle
      omega

theorem foldl_findUrls (text : Text) (skip position weighted cursor : Nat)
    (hcursor : cursor ≤ position + skip) (hskip : skip ≤ text.length) :
    ((findUrls skip position text).foldl (addUrl E) (weighted, cursor)).1 + (position + text.length
          - ((findUrls skip position text).foldl (addUrl E) (weighted, cursor)).2) =
      weighted + (position + skip - cursor) + weight E skip text := by
  induction text generalizing skip position weighted cursor with
  | nil =>
    simp only [length_nil, Nat.le_zero] at hskip
    simp [findUrls, weight, hskip]
  | cons c rest ih =>
    simp only [length_cons] at hskip ⊢
    cases skip with
    | succ skip =>
      have hrest := ih skip (position + 1) weighted cursor (by omega) (by omega)
      simp only [findUrls, weight]
      omega
    | zero =>
      cases hmatch : matchLength (c :: rest) with
      | none =>
        have hrest := ih 0 (position + 1) weighted cursor (by omega) (by omega)
        simp only [findUrls, weight, hmatch]
        omega
      | some n =>
        obtain ⟨hlow, hlen⟩ := matchLength_bounds hmatch
        have hraw : ((c :: rest).take n).length = n := by
          rw [length_take]
          omega
        have howned := length_urlOwnedCandidate_le ((c :: rest).take n)
        simp only [length_cons] at hlen
        simp only [findUrls, weight, hmatch, foldl_cons, addUrl, matchWeight]
        split
        · -- the URL ends within the match
          have hrest := ih (n - 1) (position + 1) (weighted + (position - cursor) + 23)
            (position + (urlOwnedCandidate ((c :: rest).take n)).length) (by omega) (by omega)
          omega
        · have hrest := ih (n - 1) (position + 1) weighted cursor (by omega) (by omega)
          omega

theorem xWeightedLength_eq (text : Text) : xWeightedLength E text = weight E 0 text := by
  have h := foldl_findUrls E text 0 0 0 0 (Nat.le_refl _) (Nat.zero_le _)
  simpa [xWeightedLength] using h

/-! ## Texts with a space between them -/

theorem matchesWord_append {word text : Text} (rest : Text) (h : word.length ≤ text.length ∨
      rest.head? = some ' ' ∧ ∀ letter ∈ word, matchesLetter letter ' ' = false) :
    matchesWord word (text ++ rest) = matchesWord word text := by
  induction word generalizing text with
  | nil => rfl
  | cons letter word ih =>
    cases text with
    | nil =>
      rcases h with hlen | ⟨hspace, hletters⟩
      · simp at hlen
      · cases rest with
        | nil => cases hspace
        | cons c rest =>
          cases hspace
          simp [matchesWord, hletters letter mem_cons_self]
    | cons c text =>
      have hrest := @ih text (h.imp (by simp) fun hspace =>
        ⟨hspace.1, fun l hl => hspace.2 l (mem_cons_of_mem _ hl)⟩)
      simp only [cons_append, matchesWord, hrest]

theorem schemeLength_append_space (s t : Text) : schemeLength (s ++ ' ' :: t) = schemeLength s := by
  have hwords : ["https://".toList, "http://".toList].all (fun word =>
      word.all fun letter => !matchesLetter letter ' ') = true := by decide
  have hword : ∀ word ∈ ["https://".toList, "http://".toList], ∀ letter ∈ word,
      matchesLetter letter ' ' = false := by
    intro word hmem letter hletter
    simpa using all_eq_true.mp (all_eq_true.mp hwords word hmem) letter hletter
  simp only [schemeLength]
  rw [matchesWord_append _ (.inr ⟨rfl, hword _ (by simp)⟩),
    matchesWord_append _ (.inr ⟨rfl, hword _ (by simp)⟩)]

theorem takeWhile_append_space (s t : Text) :
    (s ++ ' ' :: t).takeWhile isUrlChar = s.takeWhile isUrlChar := by
  induction s with
  | nil => rfl
  | cons c s ih => simp only [cons_append, takeWhile_cons, ih]

theorem matchLength_append_space (s t : Text) : matchLength (s ++ ' ' :: t) = matchLength s := by
  unfold matchLength
  rw [schemeLength_append_space]
  cases hscheme : schemeLength s with
  | none => rfl
  | some n =>
    have hlen := (schemeLength_bounds hscheme).2.2
    simp only [drop_append_of_le_length hlen, takeWhile_append_space]

theorem weight_append_space (s t : Text) (skip : Nat) (hskip : skip ≤ s.length) :
    weight E skip (s ++ ' ' :: t) = weight E skip s + 1 + weight E 0 t := by
  induction s generalizing skip with
  | nil =>
    obtain rfl : skip = 0 := Nat.le_zero.mp hskip
    have hspace : matchLength (' ' :: t) = none := (matchLength_append_space [] t).trans rfl
    simp [weight, hspace]
  | cons c s ih =>
    simp only [length_cons] at hskip
    cases skip with
    | succ skip => exact ih skip (by omega)
    | zero =>
      have hmatch := matchLength_append_space (c :: s) t
      rw [cons_append] at hmatch
      cases hfound : matchLength (c :: s) with
      | none =>
        have hrest := ih 0 (Nat.zero_le _)
        simp only [cons_append, weight, hmatch, hfound]
        omega
      | some n =>
        have hlen := (matchLength_bounds hfound).2
        have hrest := ih (n - 1) (by simp only [length_cons] at hlen; omega)
        have htake : (c :: (s ++ ' ' :: t)).take n = (c :: s).take n := by
          rw [← cons_append, take_append_of_le_length hlen]
        simp only [cons_append, weight, hmatch, hfound, htake, hrest]
        omega

/-! ## A URL and what trails it -/

def isBracket (c : Char) : Bool := brackets.any fun kind => c = kind.1 || c = kind.2

def isTrailer (c : Char) : Bool := isSentencePunctuation c || brackets.any fun kind => c = kind.2

/-- What the URL keeps of a trail: punctuation goes off its end, and then each kind of
bracket. -/
def keptTrail (trail : Text) : Text :=
  (((trail.rdropWhile isSentencePunctuation).rdropWhile (· = ')')).rdropWhile (· = ']')).rdropWhile
    (· = '}')

theorem trimClosing_of_no_opening {opening closing : Char} {fuel : Nat} {candidate : Text}
    (hopening : opening ∉ candidate) (hfuel : candidate.length ≤ fuel) :
    trimClosing opening closing fuel candidate = candidate.rdropWhile (· = closing) := by
  induction fuel generalizing candidate with
  | zero =>
    obtain rfl := length_eq_zero_iff.mp (Nat.le_zero.mp hfuel)
    rfl
  | succ fuel ih =>
    rcases eq_nil_or_concat' candidate with rfl | ⟨front, last, rfl⟩
    · simp [trimClosing]
    · simp only [mem_append, not_or] at hopening
      simp only [length_append, length_singleton] at hfuel
      have hnone : (front ++ [last]).count opening = 0 :=
        count_eq_zero.mpr (by simpa using hopening)
      by_cases hlast : last = closing
      · subst hlast
        have hcount : 0 < (front ++ [last]).count last := count_pos_iff.mpr (by simp)
        rw [trimClosing, if_pos ⟨by simp, by omega⟩, dropLast_concat,
          ih hopening.1 (by omega), rdropWhile_concat_pos _ _ _ (by simp)]
      · rw [trimClosing, if_neg (by simp [hlast]), rdropWhile_concat_neg _ _ _ (by simpa)]

theorem rdropWhile_append_of_last {p : Char → Bool} {u : Text} (hlast : u.getLast?.any p = false)
    (trail : Text) : (u ++ trail).rdropWhile p = u ++ trail.rdropWhile p := by
  induction trail using List.reverseRecOn with
  | nil =>
    rw [rdropWhile_nil, append_nil, rdropWhile_eq_self_iff]
    intro hne
    simpa [getLast?_eq_getLast_of_ne_nil hne] using hlast
  | append_singleton front last ih =>
    rw [← append_assoc, rdropWhile_concat, rdropWhile_concat, ih]
    split
    · rfl
    · exact append_assoc ..

theorem urlOwnedCandidate_append {u trail : Text} (hbracket : ∀ c ∈ u, isBracket c = false)
    (hlast : u.getLast?.any isSentencePunctuation = false)
    (htrail : ∀ c ∈ trail, isTrailer c = true) :
    urlOwnedCandidate (u ++ trail) = u ++ keptTrail trail := by
  have hnot : ∀ c ∈ trail, c ≠ '(' ∧ c ≠ '[' ∧ c ≠ '{' := by
    intro c hc
    refine ⟨?_, ?_, ?_⟩ <;> (rintro rfl; exact absurd (htrail _ hc) (by decide))
  have hplain : ∀ c ∈ u, c ≠ '(' ∧ c ≠ ')' ∧ c ≠ '[' ∧ c ≠ ']' ∧ c ≠ '{' ∧ c ≠ '}' := by
    intro c hc
    have hc := hbracket c hc
    simp only [isBracket, brackets, any_cons, any_nil, Bool.or_eq_false_iff,
      decide_eq_false_iff_not] at hc
    tauto
  -- each kind of bracket goes off the end of what is left of the trail
  have htrim : ∀ opening closing rest, (∀ c ∈ u, c ≠ opening ∧ c ≠ closing) →
      rest <+: trail → opening ∉ trail →
      trimClosing opening closing (u ++ rest).length (u ++ rest) =
        u ++ rest.rdropWhile (· = closing) := by
    intro opening closing rest hu hrest hopening
    rw [trimClosing_of_no_opening ?_ (Nat.le_refl _), rdropWhile_append_of_last]
    · cases hend : u.getLast? with
      | none => rfl
      | some last => simpa using (hu last (mem_of_getLast? hend)).2
    · intro hmem
      rcases mem_append.mp hmem with hmem | hmem
      · exact (hu opening hmem).1 rfl
      · exact hopening (hrest.subset hmem)
  have hfirst := rdropWhile_prefix isSentencePunctuation trail
  have hsecond := (List.rdropWhile_prefix (· = ')') _).trans hfirst
  have hthird := (List.rdropWhile_prefix (· = ']') _).trans hsecond
  simp only [urlOwnedCandidate, brackets, foldl_cons, foldl_nil, keptTrail,
    rdropWhile_append_of_last hlast]
  rw [htrim _ _ _ (fun c hc => ⟨(hplain c hc).1, (hplain c hc).2.1⟩) hfirst
      fun hmem => (hnot _ hmem).1 rfl,
    htrim _ _ _ (fun c hc => ⟨(hplain c hc).2.2.1, (hplain c hc).2.2.2.1⟩) hsecond
      fun hmem => (hnot _ hmem).2.1 rfl,
    htrim _ _ _ (fun c hc => ⟨(hplain c hc).2.2.2.2.1, (hplain c hc).2.2.2.2.2⟩) hthird
      fun hmem => (hnot _ hmem).2.2 rfl]

theorem matchLength_append {u trail : Text} (hu : matchLength u = some u.length)
    (htrail : ∀ c ∈ trail, isUrlChar c = true) :
    matchLength (u ++ trail) = some (u ++ trail).length := by
  have hlong := (matchLength_bounds hu).1
  have hscheme : schemeLength (u ++ trail) = schemeLength u := by
    simp only [schemeLength]
    rw [matchesWord_append _ (.inl (by simpa using hlong)),
      matchesWord_append _ (.inl (by simpa using Nat.le_of_succ_le hlong))]
  unfold matchLength at hu ⊢
  rw [hscheme]
  cases hn : schemeLength u with
  | none => simp [hn] at hu
  | some n =>
    have hlen := (schemeLength_bounds hn).2.2
    simp only [hn] at hu ⊢
    split at hu
    · cases hu
    · rename_i hvalue
      -- the match takes all that is left of the URL
      have hwhole : (u.drop n).takeWhile isUrlChar = u.drop n := by
        refine (List.takeWhile_prefix _).eq_of_length ?_
        have hlength := Option.some.inj hu
        rw [length_drop]
        omega
      rw [drop_append_of_le_length hlen]
      have hall : ((u.drop n ++ trail).takeWhile isUrlChar) = u.drop n ++ trail := by
        rw [takeWhile_append, hwhole, if_pos rfl, takeWhile_eq_self_iff.mpr htrail]
      rw [hall, if_neg fun hnil =>
        hvalue (hwhole.trans (append_eq_nil_iff.mp hnil).1)]
      simp only [length_append, length_drop, Option.some.injEq]
      omega

theorem weight_length (text : Text) : weight E text.length text = 0 := by
  induction text with
  | nil => rfl
  | cons c rest ih => exact ih

theorem weight_of_match {text : Text} (h : matchLength text = some text.length) :
    weight E 0 text = matchWeight E text := by
  cases text with
  | nil => simp [matchLength, schemeLength, matchesWord] at h
  | cons c rest =>
    have htake : (c :: rest).take (c :: rest).length = c :: rest := take_length
    simp only [weight, h, htake]
    simp only [length_cons, Nat.add_sub_cancel, weight_length, Nat.add_zero]

theorem isUrlChar_of_trailer {c : Char} (h : isTrailer c = true) : isUrlChar c = true := by
  have hall : ['.', ',', '!', '?', ';', ':', '\'', '"', ')', ']', '}'].all isUrlChar = true := by
    decide
  refine all_eq_true.mp hall c ?_
  simp only [isTrailer, isSentencePunctuation, brackets, any_cons, any_nil,
    Bool.or_eq_true, contains_iff_mem, decide_eq_true_eq] at h
  simp only [mem_cons] at h ⊢
  tauto

/-- **What a URL weighs.** A URL that a text begins with and that only punctuation and closing
brackets trail weighs 23 and its trail one for each character, exactly if nothing of the trail
is left once punctuation, and then each kind of bracket, has gone off its end; or if it is 23
characters long and no URL together with what is left. A space between two texts weighs one. -/
theorem x_weight (u trail : Text) (hmatch : matchLength u = some u.length)
    (hvalid : validHttpUrl E u = true) (hbracket : ∀ c ∈ u, isBracket c = false)
    (hlast : u.getLast?.any isSentencePunctuation = false)
    (htrail : ∀ c ∈ trail, isTrailer c = true) (s t : Text) :
    (xWeightedLength E (u ++ trail) = 23 + trail.length ↔
      keptTrail trail = [] ∨ validHttpUrl E (u ++ keptTrail trail) = false ∧ u.length = 23) ∧
    xWeightedLength E (s ++ ' ' :: t) = xWeightedLength E s + 1 + xWeightedLength E t := by
  refine ⟨?_, ?_⟩
  · have hkept : (keptTrail trail).length ≤ trail.length :=
      ((List.rdropWhile_prefix ..).trans ((List.rdropWhile_prefix ..).trans
        ((List.rdropWhile_prefix ..).trans (List.rdropWhile_prefix ..)))).length_le
    rw [xWeightedLength_eq, weight_of_match E (matchLength_append hmatch fun c hc =>
        isUrlChar_of_trailer (htrail c hc)), matchWeight,
      urlOwnedCandidate_append hbracket hlast htrail]
    by_cases hnone : keptTrail trail = []
    · simp [hnone, hvalid]
    · have hpos := length_pos_iff.mpr hnone
      by_cases hurl : validHttpUrl E (u ++ keptTrail trail) = true
      · simp only [hurl, if_true, length_append, hnone, false_or, Bool.true_eq_false,
          false_and, iff_false]
        omega
      · simp only [hurl, Bool.false_eq_true, if_false, length_append, hnone, false_or,
          true_and]
        omega
  · simp only [xWeightedLength_eq]
    exact weight_append_space E s t 0 (Nat.zero_le _)

def exampleCheck : UrlCheck where
  validate text := if "https://example.com/".toList.isPrefixOf text then
      some ⟨none, none, some "example.com".toList⟩
    else none
  encodes _ := true

def exampleUrl : Text := "https://example.com/a".toList

theorem x_weight_exampleUrl : xWeightedLength exampleCheck (exampleUrl ++ ").".toList) = 25 :=
  have hbracket : exampleUrl.all (fun c => !isBracket c) = true := by decide +kernel
  have htrail : ").".toList.all isTrailer = true := by decide +kernel
  (x_weight exampleCheck exampleUrl ").".toList (by decide +kernel) (by decide +kernel)
    (by simpa using hbracket) (by decide +kernel) (all_eq_true.mp htrail) [] []).1.mpr
      (.inl (by decide))

/-- A full stop before a closing bracket is counted as part of the URL. -/
theorem x_weight_stop_in_brackets :
    xWeightedLength exampleCheck (exampleUrl ++ ".)".toList) ≠ 23 + ".)".toList.length := by
  decide +kernel

end NewsCraft.Generation.XWeight
