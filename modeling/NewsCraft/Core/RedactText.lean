import NewsCraft.Core.SecretKeys

/-!
# Secrets in texts

`redact_string` removes what looks like a credential: authorization headers, bot tokens, the
values of secret names in fields, and secret query parameters of URLs.

The scanners take what is left of the text, with the character before it, and give what the
result continues with. Each round takes at least one character, so the length of the text is
fuel enough.
-/

namespace NewsCraft

open List

/-- What `urlsplit` and the properties of its result say of a URL. -/
structure UrlParts where
  scheme : Text
  hostname : Option Text
  /-- `none` when reading it raises. -/
  port : Option (Option Nat)
  path : Text
  query : Text
  fragment : Text

/-- The functions of `urllib.parse`; `none` where `urlsplit` raises. -/
structure PythonUrl where
  urlsplit : Text → Option UrlParts
  /-- `parse_qsl(query, keep_blank_values=True)`. -/
  parseQsl : Text → List (Text × Text)
  urlencode : List (Text × Text) → Text
  /-- Of scheme, network location, path, query and fragment. -/
  urlunsplit : Text → Text → Text → Text → Text → Text
  /-- A scheme is what stands before a colon. -/
  scheme_of_no_colon : ∀ text parts, urlsplit text = some parts → ':' ∉ text → parts.scheme = []

/-- The functions as far as texts go that are a path and nothing else. -/
def PythonUrl.plain : PythonUrl where
  urlsplit text := some ⟨[], none, some none, text, [], []⟩
  parseQsl _ := []
  urlencode _ := []
  urlunsplit _ _ path _ _ := path
  scheme_of_no_colon := by
    intro text parts h _
    cases h
    rfl

namespace Redact

variable (P : PythonText)

/-! ## Substitution -/

/-- The character before what is left, once `taken` has been taken. -/
def before (prev : Option Char) (taken : Text) : Option Char := taken.getLast?.or prev

/-- `pattern.sub`, with the length of the match at a place and what replaces it. -/
def substitute (length : Option Char → Text → Option Nat) (replace : Text → Text) :
    Nat → Option Char → Text → Text
  | 0, _, text => text
  | _ + 1, _, [] => []
  | fuel + 1, prev, c :: text =>
    match length prev (c :: text) with
    | none => c :: substitute length replace fuel (some c) text
    | some n =>
      let matched := (c :: text).take n
      replace matched ++ substitute length replace fuel (before prev matched) ((c :: text).drop n)

def substituteAll (length : Option Char → Text → Option Nat) (replace : Text → Text)
    (text : Text) : Text :=
  substitute length replace text.length none text

/-- The 52 letters of a class `[A-Za-z]`, and the four characters that `re.IGNORECASE` adds. -/
def isLetter (c : Char) : Bool :=
  c.isAlpha || c = 'ı' || c = 'İ' || c = 'ſ' || c = '\u212a'

def isCredentialChar (c : Char) : Bool :=
  isLetter c || c.isDigit || ['.', '_', '~', '+', '/', '=', '-'].contains c

/-- `BEARER_PATTERN`. -/
def bearerLength (prev : Option Char) (text : Text) : Option Nat :=
  let scheme := ["bearer".toList, "basic".toList].find? fun word => matchesWord word text
  match scheme with
  | none => none
  | some word =>
    let rest := text.drop word.length
    let gap := rest.takeWhile P.isSpace
    let credential := (rest.drop gap.length).takeWhile isCredentialChar
    if prev.any P.isWord || gap.isEmpty || credential.isEmpty then none
    else some (word.length + gap.length + credential.length)

def isTokenChar (c : Char) : Bool := c.isAlphanum || c = '_' || c = '-'

/-- `TELEGRAM_TOKEN_PATTERN`: the digits run up to the colon and are not preceded by one. -/
def telegramTokenLength (prev : Option Char) (text : Text) : Option Nat :=
  let digits := text.takeWhile P.isDigit
  match text.drop digits.length with
  | [] => none
  | c :: rest =>
    let token := rest.takeWhile isTokenChar
    if c ≠ ':' || prev.any P.isDigit || digits.length < 6 || 12 < digits.length
        || token.length < 20 then
      none
    else
      some (digits.length + 1 + token.length)

/-- `_URL_VALUE_PATTERN`. -/
def urlLength (text : Text) : Option Nat :=
  let secure := matchesWord "https".toList text
  let rest := text.drop (if secure then 5 else 4)
  let value := (rest.drop 3).takeWhile fun c =>
    !P.isSpace c && !(['<', '>', '"', '\''].contains c)
  if matchesWord "http".toList text && rest.take 3 = "://".toList && !value.isEmpty then
    some ((if secure then 5 else 4) + 3 + value.length)
  else
    none

/-! ## Where a value ends -/

def isQuote (c : Char) : Bool := c = '"' || c = '\''

def closerOf : Char → Option Char
  | '{' => some '}'
  | '[' => some ']'
  | '(' => some ')'
  | _ => none

def isCloser (c : Char) : Bool := c = '}' || c = ']' || c = ')'

/-- How far a quoted value goes on, the closing quote included; at most `limit` characters
are looked at. -/
def quotedRest (quote : Char) : Nat → Text → Option Nat
  | 0, _ => none
  | _, [] => none
  | limit + 1, c :: text =>
    if c = '\\' then
      match text with
      | [] => none
      | _ :: text => (quotedRest quote (limit - 1) text).map (· + 2)
    else if c = quote then
      some 1
    else
      (quotedRest quote limit text).map (· + 1)

/-- `_quoted_value_end`, as the length of the value. -/
def quotedLength (limit : Nat) : Text → Option Nat
  | [] => none
  | quote :: text => (quotedRest quote (limit - 1) text).map (· + 1)

/-- The loop of `_container_value_end`: `closers` are expected, innermost first. -/
def containerRest : Nat → Nat → List Char → Text → Option Nat
  | 0, _, _, _ => none
  | _, 0, _, _ => none
  | _, _, _, [] => none
  | fuel + 1, limit + 1, closers, c :: text =>
    if isQuote c then
      match quotedLength (limit + 1) (c :: text) with
      | none => none
      | some n =>
        (containerRest fuel (limit + 1 - n) closers ((c :: text).drop n)).map (· + n)
    else
      match closerOf c with
      | some closer =>
        if maxStructuredValueDepth ≤ closers.length then none
        else (containerRest fuel limit (closer :: closers) text).map (· + 1)
      | none =>
        if isCloser c then
          match closers with
          | [] => none
          | expected :: closers =>
            if c ≠ expected then none
            else if closers.isEmpty then some 1
            else (containerRest fuel limit closers text).map (· + 1)
        else
          (containerRest fuel limit closers text).map (· + 1)

/-- `_structured_value_end`, as the length of the value. -/
def structuredValueLength (bareDelimiters : List Char) (text : Text) : Option Nat :=
  match text with
  | [] => some 0
  | c :: rest =>
    if isQuote c then
      quotedLength maxStructuredValueChars text
    else
      match closerOf c with
      | some closer =>
        (containerRest text.length (maxStructuredValueChars - 1) [closer] rest).map (· + 1)
      | none =>
        let bare := (text.take maxStructuredValueChars).takeWhile fun c =>
          !bareDelimiters.contains c
        if bare.length = maxStructuredValueChars ∧ maxStructuredValueChars < text.length then none
        else some bare.length

def structuredDelimiters : List Char := [',', '}', ']', ')', '\r', '\n']

/-! ## Quoted fields -/

def hexDigitValue (c : Char) : Option Nat :=
  if '0' ≤ c ∧ c ≤ '9' then some (c.toNat - 48)
  else if 'a' ≤ c ∧ c ≤ 'f' then some (c.toNat - 87)
  else if 'A' ≤ c ∧ c ≤ 'F' then some (c.toNat - 55)
  else none

/-- The character a run of hexadecimal digits stands for. -/
def hexChar (digits : Text) : Option Char :=
  (digits.foldlM (fun n c => (hexDigitValue c).map fun d => 16 * n + d) 0).map Char.ofNat

/-- An escape `marker` with so many hexadecimal digits. -/
def hexEscapeLength (marker : Char) (width : Nat) (_ : Option Char) (text : Text) : Option Nat :=
  match text with
  | '\\' :: c :: rest =>
    if c = marker ∧ (rest.take width).length = width ∧ (hexChar (rest.take width)).isSome then
      some (2 + width)
    else
      none
  | _ => none

def decodeHexEscape (matched : Text) : Text := (hexChar (matched.drop 2)).toList

/-- A backslash before a character that needs none. -/
def plainEscapeLength (_ : Option Char) (text : Text) : Option Nat :=
  match text with
  | '\\' :: c :: _ => if ['\\', '"', '\'', '/'].contains c then some 2 else none
  | _ => none

/-- `_decode_structured_key`. -/
def decodeStructuredKey (key : Text) : Text :=
  substituteAll plainEscapeLength (·.drop 1) (substituteAll (hexEscapeLength 'x' 2) decodeHexEscape
      (substituteAll (hexEscapeLength 'u' 4) decodeHexEscape key))

/-- The loop of `_decode_quoted_body`, between the quotes. -/
def unescapeQuoted (quote : Char) : Text → Text
  | [] => []
  | '\\' :: c :: text =>
    if c = quote || ['\\', '"', '\''].contains c then c :: unescapeQuoted quote text
    else '\\' :: unescapeQuoted quote (c :: text)
  | c :: text => c :: unescapeQuoted quote text

/-- `_decode_quoted_body`. -/
def decodeQuotedBody : Text → Text
  | [] => []
  | quote :: rest => unescapeQuoted quote rest.dropLast

/-- The gap before a separator, and the gap after it; `none` without the separator. -/
def separatorGaps (separator : Char) (text : Text) : Option (Text × Text) :=
  let gap := text.takeWhile P.isSpace
  match text.drop gap.length with
  | [] => none
  | c :: rest => if c = separator then some (gap, rest.takeWhile P.isSpace) else none

def redactedPair (quote : Char) (rawKey : Text) : Text :=
  quote :: rawKey ++ quote :: ':' :: ' ' :: redacted

/-- `_redact_structured_pairs`; `requires` says whether a quoted value holds a secret. -/
def redactStructuredPairs (requires : Text → Bool) : Nat → Text → Text
  | 0, text => text
  | _ + 1, [] => []
  | fuel + 1, c :: text =>
    let copy := c :: redactStructuredPairs requires fuel text
    if !isQuote c then
      copy
    else
      match quotedLength maxStructuredValueChars (c :: text) with
      | none => copy
      | some keyLength =>
        let key := (c :: text).take keyLength
        let afterKey := (c :: text).drop keyLength
        match separatorGaps P ':' afterKey with
        | none => copy
        | some (gap, gap') =>
          let pairHead := key ++ gap ++ ':' :: gap'
          let value := (c :: text).drop pairHead.length
          let rawKey := (key.drop 1).dropLast
          let decodedKey := decodeStructuredKey rawKey
          let replace (valueLength : Option Nat) : Text :=
            redactedPair c rawKey ++ match valueLength with
              | none => []
              | some n => redactStructuredPairs requires fuel (value.drop n)
          if secretKey P decodedKey then
            let valueLength := structuredValueLength (structuredDelimiters ++ [' ', '\t']) value
            match valueLength with
            | none => replace none
            | some n =>
              if safeSecretText P decodedKey (value.take n) then
                pairHead ++ value.take n ++ redactStructuredPairs requires fuel (value.drop n)
              else
                replace (some n)
          else
            let skip := key ++ redactStructuredPairs requires fuel afterKey
            if value.head?.any isQuote then
              match structuredValueLength structuredDelimiters value with
              | none => replace none
              | some n => if requires (value.take n) then replace (some n) else skip
            else
              skip

/-! ## Unquoted fields -/

def isFieldNameChar (c : Char) : Bool := c.isAlphanum || c = '.' || c = '_' || c = '-'

/-- `_redact_unquoted_fields`. -/
def redactUnquotedFields (requires : Text → Bool) (separator : Char) :
    Nat → Option Char → Text → Text
  | 0, _, text => text
  | _ + 1, _, [] => []
  | fuel + 1, prev, c :: text =>
    if !isFieldNameChar c || prev.any isFieldNameChar then
      c :: redactUnquotedFields requires separator fuel (some c) text
    else
      let key := ((c :: text).take 128).takeWhile isFieldNameChar
      let afterKey := (c :: text).drop key.length
      let skip := key ++ redactUnquotedFields requires separator fuel (before prev key) afterKey
      match separatorGaps P separator afterKey with
      | none => skip
      | some (gap, gap') =>
        let fieldHead := key ++ gap ++ separator :: gap'
        let value := (c :: text).drop fieldHead.length
        let replace (valueLength : Option Nat) : Text :=
          key ++ separator :: redacted ++ match valueLength with
            | none => []
            | some n => redactUnquotedFields requires separator fuel
                (before prev (fieldHead ++ value.take n)) (value.drop n)
        if !secretKey P key then
          if separator = '=' && value.head?.any isQuote then
            match structuredValueLength structuredDelimiters value with
            | none => replace none
            | some n => if requires (value.take n) then replace (some n) else skip
          else
            skip
        else
          let delimiters := if separator = '=' then
              structuredDelimiters ++ ['&', ';', '#', ' ', '\t']
            else structuredDelimiters
          match structuredValueLength delimiters value with
          | none => replace none
          | some n =>
            if safeSecretText P key (value.take n) then
              fieldHead ++ value.take n ++ redactUnquotedFields requires separator fuel
                (before prev (fieldHead ++ value.take n)) (value.drop n)
            else
              replace (some n)

/-! ## Texts -/

/-- The passes of `_redact_recognizable_values`. -/
def recognizeWith (requires : Text → Bool) (text : Text) : Text :=
  let text := substituteAll (bearerLength P) (fun _ => redacted) text
  let text := substituteAll (telegramTokenLength P) (fun _ => redacted) text
  let text := redactStructuredPairs P requires text.length text
  let text := redactUnquotedFields P requires ':' text.length none text
  redactUnquotedFields P requires '=' text.length none text

/-- `_redact_recognizable_values`, with so many levels of embedded values to go. -/
def redactRecognizable : Nat → Text → Text
  | 0, text => recognizeWith P (fun value => containsSecretWord (decodeQuotedBody value)) text
  | levels + 1, text =>
    recognizeWith P (fun value =>
      redactRecognizable levels (decodeQuotedBody value) ≠ decodeQuotedBody value) text

/-- `_redact_recognizable_values`. -/
def redactRecognizableValues (text : Text) : Text :=
  redactRecognizable P maxEmbeddedRedactionDepth text

/-- The parts of a text between the occurrences of a character. -/
def splitAt (separator : Char) (text : Text) : List Text := text.splitOn separator

/-- `_sensitive_query_value`. -/
def sensitiveQueryValue (key value : Text) : Bool :=
  (splitAt '_' (normalizedKey P key)).contains "key".toList || redactKeyText P key value

variable (U : PythonUrl)

def isHttp (scheme : Text) : Bool :=
  scheme.flatMap P.casefold = "http".toList || scheme.flatMap P.casefold = "https".toList

/-- `redact_url`. -/
def redactUrl (url : Text) : Text :=
  match U.urlsplit url with
  | none => redacted
  | some parsed =>
    let hostname := parsed.hostname.getD []
    if !isHttp P parsed.scheme || hostname.isEmpty then
      url
    else
      let hostname := if hostname.contains ':' && hostname.head? ≠ some '[' then
          '[' :: hostname ++ [']']
        else hostname
      match parsed.port with
      | none => redacted
      | some port =>
        let netloc := match port with
          | none => hostname
          | some port => hostname ++ ':' :: (toString port).toList
        let query := (U.parseQsl parsed.query).map fun (key, value) =>
          (key, if sensitiveQueryValue P key value then redacted
            else redactRecognizableValues P value)
        U.urlunsplit (parsed.scheme.flatMap P.casefold) netloc
          (redactRecognizableValues P parsed.path) (U.urlencode query)
          (redactRecognizableValues P parsed.fragment)

/-- `value.replace(secret, _REDACTED)`, for a secret that is not empty. -/
def replaceLiteral (text secret : Text) : Text :=
  substituteAll (fun _ text => if secret.isPrefixOf text then some secret.length else none)
    (fun _ => redacted) text

def isUrl (text : Text) : Bool :=
  match U.urlsplit text with
  | none => false
  | some parsed => isHttp P parsed.scheme

/-- `redact_string`; `secrets` are those of `_literal_secrets`, in its order. -/
def redactText (secrets : List Text) (value : Text) : Text :=
  let result := redactRecognizableValues P (secrets.foldl replaceLiteral value)
  if isUrl P U result then redactUrl P U result
  else substituteAll (fun _ text => urlLength P text) (redactUrl P U) result

def redactString (secrets : List Text) (value : String) : String :=
  String.ofList (redactText P U secrets value.toList)

/-! ## Words nothing is recognized in -/

/-- ASCII without blanks, quotes and separators. -/
def PlainWord (text : Text) : Prop :=
  ∀ c ∈ text, c.toNat < 128 ∧ asciiSpace c = false ∧ isQuote c = false ∧ c ≠ ':' ∧ c ≠ '='

instance (text : Text) : Decidable (PlainWord text) := List.decidableBAll _ text

variable {P} {U}

variable {text : Text}

theorem substitute_of_none {length : Option Char → Text → Option Nat} {replace : Text → Text}
    (h : ∀ prev suffix, suffix <:+ text → length prev suffix = none) (fuel : Nat)
    (prev : Option Char) : substitute length replace fuel prev text = text := by
  induction fuel generalizing prev text with
  | zero => rw [substitute]
  | succ fuel ih =>
    cases text with
    | nil => rw [substitute]
    | cons c text =>
      have hnone := h prev (c :: text) (suffix_refl _)
      have htail : ∀ prev suffix, suffix <:+ text → length prev suffix = none := by
        intro prev suffix hsuffix
        exact h prev suffix (hsuffix.trans (suffix_cons c text))
      simp only [substitute, hnone]
      rw [ih htail]

theorem PlainWord.suffix {suffix : Text} (h : PlainWord text) (hsuffix : suffix <:+ text) :
    PlainWord suffix := fun c hc => h c (hsuffix.subset hc)

theorem bearerLength_of_plain {prev : Option Char} (h : PlainWord text) :
    bearerLength P prev text = none := by
  unfold bearerLength
  cases hscheme : ["bearer".toList, "basic".toList].find? fun word => matchesWord word text with
  | none => rfl
  | some word =>
    have hgap : (text.drop word.length).takeWhile P.isSpace = [] := by
      cases hrest : text.drop word.length with
      | nil => rfl
      | cons c rest =>
        have hmem : c ∈ text := mem_of_mem_drop (hrest ▸ mem_cons_self)
        have hspace : P.isSpace c = false := by
          rw [P.isSpace_ascii c (h c hmem).1]
          exact (h c hmem).2.1
        rw [takeWhile_cons, hspace]
        rfl
    simp only [hgap, isEmpty_nil, Bool.or_true, Bool.true_or, if_true]

theorem telegramTokenLength_of_plain {prev : Option Char} (h : PlainWord text) :
    telegramTokenLength P prev text = none := by
  unfold telegramTokenLength
  cases hrest : text.drop (text.takeWhile P.isDigit).length with
  | nil => simp only [hrest]
  | cons c rest =>
    have hmem : c ∈ text := mem_of_mem_drop (hrest ▸ mem_cons_self)
    simp [hrest, (h c hmem).2.2.2.1]

variable {requires : Text → Bool}

theorem redactStructuredPairs_of_plain (h : PlainWord text) (fuel : Nat) :
    redactStructuredPairs P requires fuel text = text := by
  induction fuel generalizing text with
  | zero => rw [redactStructuredPairs]
  | succ fuel ih =>
    cases text with
    | nil => rw [redactStructuredPairs]
    | cons c text =>
      have hquote := (h c mem_cons_self).2.2.1
      unfold redactStructuredPairs
      simp only [hquote, Bool.not_false, if_true]
      rw [ih (h.suffix (suffix_cons c text))]

theorem separatorGaps_of_not_mem {separator : Char} (h : separator ∉ text) :
    separatorGaps P separator text = none := by
  unfold separatorGaps
  cases hrest : text.drop (text.takeWhile P.isSpace).length with
  | nil => simp only [hrest]
  | cons c rest =>
    have hmem : c ∈ text := mem_of_mem_drop (hrest ▸ mem_cons_self)
    have hne : c ≠ separator := fun heq => h (heq ▸ hmem)
    simp only [hrest, hne, if_false]

theorem redactUnquotedFields_of_not_mem {separator : Char} (h : separator ∉ text) (fuel : Nat)
    (prev : Option Char) : redactUnquotedFields P requires separator fuel prev text = text := by
  induction fuel generalizing text prev with
  | zero => rw [redactUnquotedFields]
  | succ fuel ih =>
    cases text with
    | nil => rw [redactUnquotedFields]
    | cons c text =>
      unfold redactUnquotedFields
      split
      · rw [ih (fun hmem => h (mem_cons_of_mem c hmem))]
      have hafter : separator ∉ (c :: text).drop
          (((c :: text).take 128).takeWhile isFieldNameChar).length :=
        fun hmem => h (mem_of_mem_drop hmem)
      simp only [separatorGaps_of_not_mem hafter, ih hafter]
      -- the name and what follows it are the text again
      have hprefix : ((c :: text).take 128).takeWhile isFieldNameChar <+: c :: text :=
        (List.takeWhile_prefix _).trans (List.take_prefix _ _)
      exact prefix_iff_eq_append.mp hprefix

theorem recognizeWith_of_plain (h : PlainWord text) : recognizeWith P requires text = text := by
  have hcolon : ':' ∉ text := fun hmem => (h ':' hmem).2.2.2.1 rfl
  have hequals : '=' ∉ text := fun hmem => (h '=' hmem).2.2.2.2 rfl
  have hbearer : substituteAll (bearerLength P) (fun _ => redacted) text = text :=
    substitute_of_none (fun _ _ hsuffix => bearerLength_of_plain (h.suffix hsuffix)) _ _
  have htoken : substituteAll (telegramTokenLength P) (fun _ => redacted) text = text :=
    substitute_of_none (fun _ _ hsuffix => telegramTokenLength_of_plain (h.suffix hsuffix)) _ _
  rw [recognizeWith, hbearer, htoken]
  rw [redactStructuredPairs_of_plain h, redactUnquotedFields_of_not_mem hcolon,
    redactUnquotedFields_of_not_mem hequals]

theorem redactRecognizable_of_plain (h : PlainWord text) (levels : Nat) :
    redactRecognizable P levels text = text := by
  cases levels with
  | zero | succ _ => rw [redactRecognizable, recognizeWith_of_plain h]

theorem urlLength_of_no_colon (h : ':' ∉ text) : urlLength P text = none := by
  -- the pattern has a colon in it
  have hnot : (text.drop (if matchesWord "https".toList text then 5 else 4)).take 3
      ≠ "://".toList := by
    intro heq
    have hmem : ':' ∈ (text.drop (if matchesWord "https".toList text then 5 else 4)).take 3 := by
      rw [heq]
      decide +kernel
    exact h (mem_of_mem_drop (mem_of_mem_take hmem))
  unfold urlLength
  simp only [hnot, decide_false, Bool.and_false, Bool.false_and, Bool.false_eq_true, if_false]

theorem isUrl_of_no_colon (h : ':' ∉ text) : isUrl P U text = false := by
  unfold isUrl
  cases hparsed : U.urlsplit text with
  | none => rfl
  | some parsed =>
    simp only [U.scheme_of_no_colon text parsed hparsed h]
    rfl

/-- **Nothing is recognized in a plain word.** -/
theorem redactText_of_plain (h : PlainWord text) : redactText P U [] text = text := by
  have hcolon : ':' ∉ text := fun hmem => (h ':' hmem).2.2.2.1 rfl
  have hurl : substituteAll (fun _ text => urlLength P text) (redactUrl P U) text = text :=
    substitute_of_none (fun _ _ hsuffix =>
      urlLength_of_no_colon fun hmem => hcolon (hsuffix.subset hmem)) _ _
  rw [redactText, redactRecognizableValues, foldl_nil, redactRecognizable_of_plain h]
  rw [isUrl_of_no_colon hcolon, if_neg Bool.false_ne_true, hurl]

theorem redactString_of_plain {text : String} (h : PlainWord text.toList) :
    redactString P U [] text = text := by
  rw [redactString, redactText_of_plain h, String.ofList_toList]

end Redact

end NewsCraft
