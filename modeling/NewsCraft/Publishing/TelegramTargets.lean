import NewsCraft.Core.UrlHost
import NewsCraft.Normalization.Urls
import NewsCraft.Publishing.DestinationRequests

/-!
# Telegram targets

A target is written as `@name`, as a number or as a link. All the spellings of a chat are
normalized to one text, and no two destinations have the same one. Reading the port of a
link can raise an error of its own, and so can a very long number.
-/

namespace NewsCraft.Publishing.TelegramTargets

open Lib Lib.Checked Urls Publishing.Telegram List Table

inductive Raised where
  | telegramConfigurationError
  /-- An error that is not the module's own. -/
  | valueError
  deriving DecidableEq

inductive TargetType where
  | username
  | numericId
  deriving DecidableEq

structure NormalizedTelegramTarget where
  value : Text
  targetType : TargetType
  deriving DecidableEq

def isUsernameChar (c : Char) : Bool := c.isAlphanum || c = '_'

/-- `_USERNAME.fullmatch`. -/
def isUsername (text : Text) : Bool :=
  text.head?.any Char.isAlpha && text.all isUsernameChar && 5 ≤ text.length && text.length ≤ 32

/-- The digits of a number that may have a sign. -/
def digitsOf (text : Text) : Text := if text.head? = some '-' then text.drop 1 else text

/-- `_NUMERIC_ID.fullmatch`. -/
def isNumericId (text : Text) : Bool :=
  let digits := digitsOf text
  digits.all Char.isDigit && digits ≠ [] && (digits.head? ≠ some '0' || digits.length = 1)

/-- `int(value)`. -/
def toInt (text : Text) : Int :=
  let number : Int := (digitsOf text).foldl (fun n c => 10 * n + (c.toNat - 48)) 0
  if text.head? = some '-' then -number else number

/-- A number: `int` refuses more than 4300 digits, and `str` gives back what was read. -/
def readNumericId (value : Text) : Except Raised NormalizedTelegramTarget :=
  if 4300 < (digitsOf value).length then .error .valueError
  else if toInt value = 0 ∨ toInt value < -9223372036854775808
      ∨ 9223372036854775808 ≤ toInt value then
    .error .telegramConfigurationError
  else
    .ok ⟨value, .numericId⟩

def readUsername (username : Text) : Except Raised NormalizedTelegramTarget :=
  if isUsername username then .ok ⟨'@' :: username.map Char.toLower, .username⟩
  else .error .telegramConfigurationError

def telegramHosts : List Text := ["t.me".toList, "telegram.me".toList]

variable (E : TextEnv)

local instance : LawfulBEq Text := inferInstance

/-- A link; the port is read outside the `try`. -/
def readLink (parsed : SplitResult) : Except Raised NormalizedTelegramTarget :=
  if parsed.scheme ≠ "https".toList ∨ hostname E parsed.netloc ∉ telegramHosts then
    .error .telegramConfigurationError
  else
    match port parsed.netloc with
    | .error () => .error .valueError
    | .ok port =>
      if port.isSome || hasUserinfo parsed.netloc || parsed.query ≠ [] || parsed.fragment ≠ []
          || parsed.path.contains '%' then
        .error .telegramConfigurationError
      else
        match (split '/' parsed.path).filter (· ≠ []) with
        | [segment] => readUsername segment
        | _ => .error .telegramConfigurationError

def isControl (c : Char) : Bool := c.toNat < 32 || c.toNat = 127

/-- `normalize_telegram_target`, of a text that is stripped. -/
def readTarget (value : Text) : Except Raised NormalizedTelegramTarget :=
  if value = [] ∨ value.any isControl = true then .error .telegramConfigurationError
  else if value.head? = some '@' then readUsername (value.drop 1)
  else if isNumericId value then readNumericId value
  else
    match urlsplit (netlocOk E) value with
    | none => .error .telegramConfigurationError
    | some parsed => readLink E parsed

/-- `normalize_telegram_target`. -/
def normalizeTelegramTarget (raw : Text) : Except Raised NormalizedTelegramTarget :=
  readTarget E (strip raw)

/-! ## What is raised -/

/-- A text whose reading raises an error of Python's. -/
def Unreadable (value : Text) : Prop :=
  value ≠ [] ∧ value.any isControl = false ∧ value.head? ≠ some '@' ∧
    (isNumericId value = true ∧ 4300 < (digitsOf value).length ∨
      isNumericId value = false ∧ ∃ parsed, urlsplit (netlocOk E) value = some parsed ∧
        parsed.scheme = "https".toList ∧ hostname E parsed.netloc ∈ telegramHosts ∧
        port parsed.netloc = .error ())

theorem readUsername_ne (username : Text) : readUsername username ≠ .error .valueError := by
  unfold readUsername
  split <;> simp

theorem readLink_raises_iff (parsed : SplitResult) : readLink E parsed = .error .valueError ↔
      parsed.scheme = "https".toList ∧ hostname E parsed.netloc ∈ telegramHosts ∧
        port parsed.netloc = .error () := by
  unfold readLink
  split
  · rename_i hother
    tauto
  · rename_i hlink
    simp only [not_or, not_not] at hlink
    split
    · rename_i hport
      simp [hlink, hport]
    · rename_i port hport
      simp only [hport, reduceCtorEq, and_false, iff_false]
      split
      · simp
      · split
        · exact readUsername_ne _
        · simp

theorem readTarget_raises_iff (value : Text) :
    readTarget E value = .error .valueError ↔ Unreadable E value := by
  unfold readTarget Unreadable
  split
  · rename_i hbad
    simp only [Except.error.injEq, reduceCtorEq, false_iff]
    rintro ⟨hne, hcontrol, -⟩
    rcases hbad with rfl | hbad
    · exact hne rfl
    · simp [hcontrol] at hbad
  · rename_i hgood
    simp only [not_or, Bool.not_eq_true] at hgood
    split
    · rename_i hat
      simp [hat, readUsername_ne]
    · rename_i hat
      cases hnumeric : isNumericId value with
      | true =>
        simp only [hgood, hat, readNumericId, if_true, ne_eq, not_false_eq_true, true_and,
          Bool.true_eq_false, false_and, or_false]
        split
        · simp_all
        · split <;> simp_all
      | false =>
        simp only [hgood, hat, ne_eq, not_false_eq_true, true_and, Bool.false_eq_true, if_false,
          false_and, false_or]
        cases hsplit : urlsplit (netlocOk E) value with
        | none => simp
        | some parsed => simp [readLink_raises_iff]

/-! ## Normal forms -/

theorem strip_eq_self {text : Text} (hhead : text.head?.any isPySpace = false)
    (hlast : text.getLast?.any isPySpace = false) : strip text = text := by
  have hfront : text.dropWhile isPySpace = text := by
    cases text with
    | nil => rfl
    | cons c rest =>
      have hc : isPySpace c = false := by simpa using hhead
      rw [dropWhile_cons_of_neg (by simp [hc])]
  rw [strip, hfront, rdropWhile_eq_self_iff]
  intro hne
  simpa [getLast?_eq_getLast_of_ne_nil hne] using hlast

theorem strip_strip (text : Text) : strip (strip text) = strip text := by
  by_cases hne : strip text = []
  · rw [hne]
    rfl
  · refine strip_eq_self ?_ ?_
    · -- what is left begins as the text without its leading blanks does
      obtain ⟨rest, hrest⟩ := rdropWhile_prefix isPySpace (text.dropWhile isPySpace)
      have hfront := head?_dropWhile_not isPySpace text
      obtain ⟨c, later, hcons⟩ := exists_cons_of_ne_nil hne
      have hstrip : List.rdropWhile isPySpace (text.dropWhile isPySpace) = c :: later := hcons
      rw [← hrest, hstrip] at hfront
      rw [hcons]
      exact hfront
    · have hlast : ¬ isPySpace ((strip text).getLast hne) = true :=
        rdropWhile_last_not isPySpace (text.dropWhile isPySpace) hne
      rw [getLast?_eq_getLast_of_ne_nil hne]
      simpa using hlast

theorem toLower_congr {β : Type} (f : Char → β)
    (hall : ∀ n : Fin 128, f (Char.ofNat n).toLower = f (Char.ofNat n)) (c : Char) :
    f c.toLower = f c := by
  by_cases hascii : c.toNat < 128
  · simpa using hall ⟨c.toNat, hascii⟩
  · rw [toLower_of_not_ascii hascii]

theorem isUsername_toLower (text : Text) :
    isUsername (text.map Char.toLower) = isUsername text := by
  have hhead : (text.map Char.toLower).head?.any Char.isAlpha = text.head?.any Char.isAlpha := by
    cases text with
    | nil => rfl
    | cons c rest => exact toLower_congr Char.isAlpha (by decide) c
  have hall : (text.map Char.toLower).all isUsernameChar = text.all isUsernameChar := by
    induction text with
    | nil => rfl
    | cons c rest ih =>
      simp only [map_cons, all_cons, toLower_congr isUsernameChar (by decide) c,
        all_map, Function.comp_def]
      congr 1
      exact congrArg _ (funext fun c => toLower_congr isUsernameChar (by decide) c)
  simp only [isUsername, hhead, hall, length_map]

def isPlainChar (c : Char) : Bool :=
  32 < c.toNat && c.toNat < 127 && !(['/', '?', '#', ':', '@', '[', ']', '%'].contains c)

theorem isPlainChar_of_name {c : Char} (h : isUsernameChar c = true) : isPlainChar c = true := by
  have hsafe : alwaysSafe c = true := by
    simp only [isUsernameChar, alwaysSafe, Bool.or_eq_true] at h ⊢
    tauto
  have hall : ∀ n : Fin 128, isUsernameChar (Char.ofNat n) = true →
      isPlainChar (Char.ofNat n) = true := by decide
  simpa using hall ⟨c.toNat, (alwaysSafe_bounds hsafe).1⟩ (by simpa using h)

theorem isPlainChar_spec {c : Char} (h : isPlainChar c = true) :
    isDelimiter c = false ∧ isUnsafe c = false ∧ isControl c = false ∧ isPySpace c = false ∧
      c.toNat < 128 ∧ c ≠ ':' ∧ c ≠ '@' ∧ c ≠ '[' ∧ c ≠ ']' ∧ c ≠ '%' ∧ c ≠ '?' ∧ c ≠ '#' ∧
      c ≠ '/' := by
  have hascii : c.toNat < 128 := by
    simp only [isPlainChar, Bool.and_eq_true, decide_eq_true_eq] at h
    omega
  have hall : ∀ n : Fin 128, isPlainChar (Char.ofNat n) = true → let c := Char.ofNat n
      isDelimiter c = false ∧ isUnsafe c = false ∧ isControl c = false ∧ isPySpace c = false ∧
        c.toNat < 128 ∧ c ≠ ':' ∧ c ≠ '@' ∧ c ≠ '[' ∧ c ≠ ']' ∧ c ≠ '%' ∧ c ≠ '?' ∧ c ≠ '#' ∧
        c ≠ '/' := by decide
  simpa using hall ⟨c.toNat, hascii⟩ (by simpa using h)

theorem name_plain {name : Text} (h : isUsername name = true) :
    ∀ c ∈ name, isPlainChar c = true := by
  intro c hc
  simp only [isUsername, Bool.and_eq_true, all_eq_true] at h
  exact isPlainChar_of_name (h.1.1.2 c hc)

theorem readTarget_again {value : Text} {target : NormalizedTelegramTarget}
    (hstrip : strip value = value) (h : readTarget E value = .ok target) :
    normalizeTelegramTarget E target.value = .ok target := by
  have hname : ∀ username, readUsername username = .ok target →
      normalizeTelegramTarget E target.value = .ok target := by
    intro username hread
    unfold readUsername at hread
    split at hread
    · rename_i hvalid
      cases hread
      have hlower : isUsername (username.map Char.toLower) = true :=
        (isUsername_toLower username).trans hvalid
      have hplain := name_plain hlower
      have hself : strip ('@' :: username.map Char.toLower) = '@' :: username.map Char.toLower := by
        refine strip_eq_self rfl ?_
        cases hlast : ('@' :: username.map Char.toLower).getLast? with
        | none => rfl
        | some c =>
          rcases mem_cons.mp (mem_of_getLast? hlast) with rfl | hmem
          · rfl
          · exact (isPlainChar_spec (hplain c hmem)).2.2.2.1
      have hcontrol : ('@' :: username.map Char.toLower).any isControl = false := by
        rw [any_eq_false]
        intro c hc
        rcases mem_cons.mp hc with rfl | hmem
        · decide
        · simp [(isPlainChar_spec (hplain c hmem)).2.2.1]
      have hidem : (username.map Char.toLower).map Char.toLower = username.map Char.toLower := by
        simp only [map_map, Function.comp_def, (toLower_spec _).1]
      simp only [normalizeTelegramTarget, hself, readTarget, hcontrol, drop_one,
        tail_cons, head?_cons, readUsername, hlower, hidem]
      simp
    · cases hread
  have hfull := h
  unfold readTarget at h
  split at h
  · cases h
  · split at h
    · exact hname _ h
    · split at h
      · -- a number is given back as it was read
        have hvalue : target.value = value := by
          unfold readNumericId at h
          split at h
          · cases h
          · split at h
            · cases h
            · cases h
              rfl
        rw [hvalue, normalizeTelegramTarget, hstrip, hfull]
      · split at h
        · cases h
        · unfold readLink at h
          split at h
          · cases h
          · split at h
            · cases h
            · split at h
              · cases h
              · split at h
                · exact hname _ h
                · cases h

/-! ## Spellings -/

/-- The ways to write a name: in any letter case, as it is or as a link. -/
inductive Spelling (name : Text) : Text → Prop
  | at (name' : Text) (h : name'.map Char.toLower = name.map Char.toLower) :
      Spelling name ('@' :: name')
  | link (scheme host name' : Text) (hscheme : scheme.map Char.toLower = "https".toList)
      (hhost : host.map Char.toLower ∈ telegramHosts)
      (h : name'.map Char.toLower = name.map Char.toLower) :
      Spelling name (scheme ++ ':' :: '/' :: '/' :: (host ++ '/' :: name'))

theorem readUsername_spelling {name name' : Text} (hname : isUsername name = true)
    (h : name'.map Char.toLower = name.map Char.toLower) :
    isUsername name' = true ∧ readUsername name' = .ok ⟨'@' :: name.map Char.toLower, .username⟩ := by
  have hvalid : isUsername name' = true := by
    rw [← isUsername_toLower, h, isUsername_toLower, hname]
  exact ⟨hvalid, by rw [readUsername, if_pos hvalid, h]⟩

theorem host_plain {host : Text} (hhost : host.map Char.toLower ∈ telegramHosts) :
    ∀ c ∈ host, isPlainChar c = true := by
  intro c hc
  have hall : telegramHosts.all (fun host => host.all isPlainChar) = true := by decide
  rw [all_eq_true] at hall
  rw [← toLower_congr isPlainChar (by decide) c]
  exact all_eq_true.mp (hall _ hhost) _ (mem_map_of_mem hc)

theorem scheme_alpha {scheme : Text} (hscheme : scheme.map Char.toLower = "https".toList) :
    scheme.length = 5 ∧ ∀ c ∈ scheme, c.isAlpha = true := by
  refine ⟨by simpa using congrArg List.length hscheme, fun c hc => ?_⟩
  have hall : "https".toList.all Char.isAlpha = true := by decide
  rw [all_eq_true] at hall
  rw [← toLower_congr Char.isAlpha (by decide) c]
  exact hall _ (hscheme ▸ mem_map_of_mem hc)

theorem alpha_spec {c : Char} (h : c.isAlpha = true) :
    isSchemeChar c = true ∧ isPlainChar c = true := by
  have halnum : c.isAlphanum = true := by simp [Char.isAlphanum, h]
  exact ⟨by simp [isSchemeChar, halnum], isPlainChar_of_name (by simp [isUsernameChar, halnum])⟩

theorem hostInfo_plain {host : Text} (hplain : ∀ c ∈ host, isPlainChar c = true) :
    hostInfo host = (host, none) := by
  have hself : afterLast '@' host = host :=
    rtakeWhile_eq_self_iff.mpr fun c hc => by
      simpa using (isPlainChar_spec (hplain c hc)).2.2.2.2.2.2.1
  have hbracket : '[' ∉ host := fun hc => absurd (hplain _ hc) (by decide)
  have hcolon : ':' ∉ host := fun hc => absurd (hplain _ hc) (by decide)
  simp [hostInfo, hself, hbracket, before_of_not_mem hcolon, after_of_not_mem hcolon]

theorem urlsplit_link {scheme host name : Text} (hscheme : scheme.map Char.toLower = "https".toList)
    (hhost : ∀ c ∈ host, isPlainChar c = true) (hname : ∀ c ∈ name, isPlainChar c = true) :
    urlsplit (netlocOk E) (scheme ++ ':' :: '/' :: '/' :: (host ++ '/' :: name)) =
      some ⟨"https".toList, host, '/' :: name, [], []⟩ := by
  obtain ⟨hlength, halpha⟩ := scheme_alpha hscheme
  obtain ⟨first, later, rfl⟩ := exists_cons_of_length_eq_add_one (n := 4) hlength
  have hfirst := isPlainChar_spec (alpha_spec (halpha first mem_cons_self)).2
  have hcleaned : cleaned (first :: later ++ ':' :: '/' :: '/' :: (host ++ '/' :: name)) =
      first :: later ++ ':' :: '/' :: '/' :: (host ++ '/' :: name) := by
    have hblank : isControlOrBlank first = false := by
      have := (alpha_spec (halpha first mem_cons_self)).2
      simp only [isPlainChar, Bool.and_eq_true, decide_eq_true_eq] at this
      simp only [isControlOrBlank, decide_eq_false_iff_not]
      omega
    rw [cleaned, cons_append, dropWhile_cons_of_neg (by simp [hblank]), filter_eq_self]
    intro c hc
    simp only [mem_cons, mem_append] at hc
    rcases hc with rfl | hc | rfl | rfl | rfl | hc | rfl | hc
    · simp [hfirst.2.1]
    · simp [(isPlainChar_spec (alpha_spec (halpha c (.tail _ hc))).2).2.1]
    · decide
    · decide
    · decide
    · simp [(isPlainChar_spec (hhost c hc)).2.1]
    · decide
    · simp [(isPlainChar_spec (hname c hc)).2.1]
  have hcolon : ':' ∉ first :: later := fun hc =>
    absurd (alpha_spec (halpha _ hc)).2 (by decide)
  have hread : readScheme (first :: later ++ ':' :: '/' :: '/' :: (host ++ '/' :: name)) =
      ("https".toList, '/' :: '/' :: (host ++ '/' :: name)) := by
    have hchars : (first :: later).all isSchemeChar = true :=
      all_eq_true.mpr fun c hc => (alpha_spec (halpha c hc)).1
    unfold readScheme
    rw [before_append hcolon, after_append hcolon,
      if_pos ⟨by simp, halpha first mem_cons_self, hchars⟩, hscheme]
  have hok : netlocOk E host = true := by
    have hopen : host.contains '[' = false := by
      simpa using fun hc => absurd (hhost _ hc) (by decide)
    have hclose : host.contains ']' = false := by
      simpa using fun hc => absurd (hhost _ hc) (by decide)
    have hascii : (host.all fun c => c.toNat < 128) = true :=
      all_eq_true.mpr fun c hc => by
        simpa using (isPlainChar_spec (hhost c hc)).2.2.2.2.1
    simp only [netlocOk, hopen, hclose, checkNetloc, hascii]
    rfl
  have hhash : '#' ∉ '/' :: name := by
    simpa using fun hc => absurd (hname _ hc) (by decide)
  have hquery : '?' ∉ '/' :: name := by
    simpa using fun hc => absurd (hname _ hc) (by decide)
  have hnetloc : readNetloc ('/' :: '/' :: (host ++ '/' :: name)) = (host, '/' :: name) :=
    readNetloc_of_web (fun c hc => (isPlainChar_spec (hhost c hc)).1) rfl
  simp only [urlsplit, hcleaned, hread, hnetloc, hok, if_true, before_of_not_mem hhash, after_of_not_mem hhash, before_of_not_mem hquery,
    after_of_not_mem hquery]

theorem normalize_spelling (hlower : ∀ text : Text, (∀ c ∈ text, c.toNat < 128) →
      E.lower text = text.map Char.toLower) {name raw : Text} (hname : isUsername name = true)
    (h : Spelling name (strip raw)) :
    normalizeTelegramTarget E raw = .ok ⟨'@' :: name.map Char.toLower, .username⟩ := by
  unfold normalizeTelegramTarget
  generalize strip raw = value at h
  cases h with
  | «at» name' heq =>
    obtain ⟨hvalid, hread⟩ := readUsername_spelling hname heq
    have hcontrol : ('@' :: name').any isControl = false := by
      rw [any_eq_false]
      intro c hc
      rcases mem_cons.mp hc with rfl | hmem
      · decide
      · simp [(isPlainChar_spec (name_plain hvalid c hmem)).2.2.1]
    simp [readTarget, hcontrol, hread]
  | link scheme host name' hscheme hhost heq =>
    obtain ⟨hvalid, hread⟩ := readUsername_spelling hname heq
    have hplain := host_plain hhost
    have hnamePlain := name_plain hvalid
    obtain ⟨hlength, halpha⟩ := scheme_alpha hscheme
    have hsplit := urlsplit_link E hscheme hplain hnamePlain
    generalize hvalue : scheme ++ ':' :: '/' :: '/' :: (host ++ '/' :: name') = value at hsplit
    have hhead : ∃ c rest, value = c :: rest ∧ c.isAlpha = true := by
      obtain ⟨first, later, rfl⟩ := exists_cons_of_length_eq_add_one (n := 4) hlength
      exact ⟨first, _, hvalue.symm, halpha first mem_cons_self⟩
    have hcontrol : value.any isControl = false := by
      rw [any_eq_false, ← hvalue]
      intro c hc
      simp only [mem_cons, mem_append] at hc
      rcases hc with hc | rfl | rfl | rfl | hc | rfl | hc
      · simp [(isPlainChar_spec (alpha_spec (halpha c hc)).2).2.2.1]
      · decide
      · decide
      · decide
      · simp [(isPlainChar_spec (hplain c hc)).2.2.1]
      · decide
      · simp [(isPlainChar_spec (hnamePlain c hc)).2.2.1]
    obtain ⟨first, rest, hcons, hfirst⟩ := hhead
    have hne : first ≠ '@' ∧ first ≠ '-' := by
      constructor <;> (rintro rfl; exact absurd hfirst (by decide))
    have hnumeric : isNumericId value = false := by
      have hcolon : ':' ∈ value := hvalue ▸ mem_append_right _ mem_cons_self
      have hdigits : digitsOf value = value := by simp [digitsOf, hcons, hne.2]
      have hnot : value.all Char.isDigit = false := all_eq_false.mpr ⟨':', hcolon, by decide⟩
      simp [isNumericId, hdigits, hnot]
    have hhostname : hostname E host ∈ telegramHosts := by
      have hpercent : '%' ∉ host := fun hc => absurd (hplain _ hc) (by decide)
      rw [hostname, hostInfo_plain hplain]
      simp only [hpercent, if_false]
      rwa [hlower host fun c hc => (isPlainChar_spec (hplain c hc)).2.2.2.2.1]
    have hport : port host = .ok none := by simp [port, hostInfo_plain hplain]
    have huser : hasUserinfo host = false := by
      simpa [hasUserinfo] using fun hc => absurd (hplain _ hc) (by decide)
    have hslash : '/' ∉ name' := fun hc => absurd (hnamePlain _ hc) (by decide)
    have hsegments : (split '/' ('/' :: name')).filter (· ≠ []) = [name'] := by
      have hparts : split '/' ('/' :: name') = [[], name'] := by
        have happend : split '/' ([] ++ '/' :: name') = [] :: split '/' name' :=
          split_append (by simp) name'
        rw [← nil_append ('/' :: name'), happend, split_of_not_mem hslash]
      have hname' : name' ≠ [] := by
        rintro rfl
        cases hvalid
      simp [hparts, hname']
    have hpercent : ('/' :: name').contains '%' = false := by
      simpa using fun hc => absurd (hnamePlain _ hc) (by decide)
    have hnil : value ≠ [] := by simp [hcons]
    have hat : value.head? ≠ some '@' := by simpa [hcons] using hne.1
    simp only [readTarget, hnil, hcontrol, hat, hnumeric, hsplit, readLink, hhostname, hport,
      huser, hsegments, hpercent]
    simpa using hread

/-! ## One destination for each target -/

/-- The environment of the requests, with this normal form. -/
def targetEnv (env : TelegramEnv) : TelegramEnv :=
  { env with
    normalizeTarget := fun raw =>
      (normalizeTelegramTarget E raw.toList).toOption.map fun target => String.ofList target.value }

/-- The normal form of a destination's target; rows of old have none stored. -/
def targetOf (env : TelegramEnv) (destination : Destination) : Option String :=
  destination.canonicalTarget.or (env.normalizeTarget destination.targetRef)

def OneEach (env : TelegramEnv) (db : TelegramDb) : Prop :=
  ∀ d ∈ db.destinations.rows, ∀ d' ∈ db.destinations.rows, ∀ target,
    targetOf env d = some target → targetOf env d' = some target → d = d'

/-- A request of an operator; one that raises, for whatever reason, is rolled back. -/
inductive Requested (env : TelegramEnv) : TelegramDb → TelegramDb → Prop where
  | rolledBack (db) : Requested env db db
  | create {db db'} (request : DestinationCreate) (h : db.createDestination env request = .ok db') :
      Requested env db db'
  | patch {db db'} (id : UUID) (patch : DestinationPatch)
      (h : db.patchDestination env id patch = .ok db') : Requested env db db'

variable {env : TelegramEnv} {db db' : TelegramDb}

theorem ne_of_unique {canonical : String} {excludeId : Option UUID} {u : Unit}
    (h : db.ensureUniqueTarget env canonical excludeId = .ok u) {other : Destination}
    (hmem : other ∈ db.destinations.rows) (hne : some other.id ≠ excludeId) :
    targetOf env other ≠ some canonical := by
  unfold TelegramDb.ensureUniqueTarget at h
  split at h
  · cases h
  · rename_i hfree
    simp only [any_eq_true, decide_eq_true_eq, not_exists, not_and, not_or] at hfree
    obtain ⟨hstored, hlegacy⟩ := hfree other hmem hne
    unfold targetOf
    cases hcanonical : other.canonicalTarget with
    | none => exact hlegacy hcanonical
    | some target => simpa [hcanonical] using hstored

theorem createDestination_oneEach {request : DestinationCreate} (h : OneEach env db)
    (hcreate : db.createDestination env request = .ok db') : OneEach env db' := by
  obtain ⟨canonical, -, hcreate⟩ := bind_ok_iff.mp hcreate
  obtain ⟨_, hunique, hcreate⟩ := bind_ok_iff.mp hcreate
  obtain ⟨_, -, hcreate⟩ := bind_ok_iff.mp hcreate
  obtain ⟨db₁, hsecret, hinsert⟩ := bind_ok_iff.mp hcreate
  obtain ⟨-, rfl⟩ := TelegramDb.createSecret_ok hsecret
  unfold TelegramDb.insertDestination at hinsert
  split at hinsert
  · cases hinsert
  · cases hinsert
    have hother : ∀ other ∈ db.destinations.rows, targetOf env other ≠ some canonical :=
      fun other hmem => ne_of_unique hunique hmem (by simp)
    intro d hd d' hd' target ht ht'
    rcases mem_insert hd with rfl | hold
    · rcases mem_insert hd' with rfl | hold'
      · rfl
      · cases ht
        exact (hother d' hold' ht').elim
    · rcases mem_insert hd' with rfl | hold'
      · cases ht'
        exact (hother d hold ht).elim
      · exact h d hold d' hold' target ht ht'

theorem patchDestination_oneEach {id : UUID} {patch : DestinationPatch} (h : OneEach env db)
    (hpatch : db.patchDestination env id patch = .ok db') : OneEach env db' := by
  obtain ⟨destination, hget, hpatch⟩ := bind_ok_iff.mp hpatch
  obtain ⟨targeted, htarget, hpatch⟩ := bind_ok_iff.mp hpatch
  obtain ⟨routed, hroute, hpatch⟩ := bind_ok_iff.mp hpatch
  have hstored : destination ∈ db.destinations.rows := by
    unfold TelegramDb.getDestination at hget
    split at hget
    · cases hget
    · rename_i found hfound
      cases hget
      exact mem_of_lookup hfound
  -- what is written has the id of the row, and a target that no other row has
  have hkept : targeted.id = destination.id ∧ ∀ other ∈ db.destinations.rows,
      other.id ≠ destination.id → ∀ target, targetOf env targeted = some target →
        targetOf env other ≠ some target := by
    unfold TelegramDb.patchTarget at htarget
    split at htarget
    · cases htarget
      refine ⟨rfl, fun other hmem hne target ht ht' => hne ?_⟩
      rw [h other hmem destination hstored target ht' ht]
    · obtain ⟨canonical, -, htarget⟩ := bind_ok_iff.mp htarget
      obtain ⟨_, hunique, htarget⟩ := bind_ok_iff.mp htarget
      cases htarget
      refine ⟨rfl, fun other hmem hne target ht => ?_⟩
      cases ht
      exact ne_of_unique hunique hmem (by simpa using hne)
  have hrouted : routed.id = targeted.id ∧ targetOf env routed = targetOf env targeted := by
    unfold TelegramDb.patchProxyOf at hroute
    split at hroute
    · cases hroute
      exact ⟨rfl, rfl⟩
    · obtain ⟨_, -, hroute⟩ := bind_ok_iff.mp hroute
      cases hroute
      exact ⟨rfl, rfl⟩
  obtain ⟨hid, hfree⟩ := hkept
  obtain ⟨written, hwritten, hwid, hwtarget⟩ : ∃ written : Destination,
      db' = { db with destinations := db.destinations.put written } ∧
        written.id = destination.id ∧ targetOf env written = targetOf env targeted := by
    cases hpatch
    refine ⟨_, rfl, ?_, ?_⟩
    · split <;> exact hrouted.1.trans hid
    · split <;> exact hrouted.2
  subst hwritten
  intro d hd d' hd' target ht ht'
  rcases mem_put hd with ⟨rfl, -⟩ | ⟨hold, hne⟩
  · rcases mem_put hd' with ⟨rfl, -⟩ | ⟨hold', hne'⟩
    · rfl
    · exact (hfree d' hold' (fun heq => hne' (heq.trans hwid.symm)) target (hwtarget ▸ ht) ht').elim
  · rcases mem_put hd' with ⟨rfl, -⟩ | ⟨hold', hne'⟩
    · exact (hfree d hold (fun heq => hne (heq.trans hwid.symm)) target (hwtarget ▸ ht') ht).elim
    · exact h d hold d' hold' target ht ht'

theorem oneEach_requested (hruns : Relation.ReflTransGen (Requested env) db db')
    (h : OneEach env db) : OneEach env db' := by
  induction hruns with
  | refl => exact h
  | tail _ hrequest ih =>
    cases hrequest with
    | rolledBack => exact ih
    | create request hcreate => exact createDestination_oneEach ih hcreate
    | patch id patch hpatch => exact patchDestination_oneEach ih hpatch

/-- **Targets are canonical.** Reading a target raises another error than the module's own
exactly for a number of too many digits and for a link to Telegram whose port cannot be read.
What it returns is its own normal form, all the spellings of a name have one, and creating and
patching destinations in any order leaves no two with the same. -/
theorem targets_canonical (hlower : ∀ text : Text, (∀ c ∈ text, c.toNat < 128) →
      E.lower text = text.map Char.toLower) :
    (∀ raw, normalizeTelegramTarget E raw = .error .valueError ↔ Unreadable E (strip raw)) ∧
    (∀ raw target, normalizeTelegramTarget E raw = .ok target →
      normalizeTelegramTarget E target.value = .ok target) ∧
    (∀ raw raw', strip raw = strip raw' →
      normalizeTelegramTarget E raw = normalizeTelegramTarget E raw') ∧
    (∀ name raw, isUsername name = true → Spelling name (strip raw) →
      normalizeTelegramTarget E raw = .ok ⟨'@' :: name.map Char.toLower, .username⟩) ∧
    ∀ env db db', Relation.ReflTransGen (Requested (targetEnv E env)) db db' →
      OneEach (targetEnv E env) db → OneEach (targetEnv E env) db' :=
  ⟨fun raw => readTarget_raises_iff E (strip raw),
    fun raw _ h => readTarget_again E (strip_strip raw) h,
    fun _ _ h => congrArg (readTarget E) h,
    fun _ _ hname h => normalize_spelling E hlower hname h,
    fun _ _ _ hruns h => oneEach_requested hruns h⟩

theorem targets_canonical_news : normalizeTelegramTarget .ascii " HTTPS://T.me/Daily_News ".toList =
      .ok ⟨"@daily_news".toList, .username⟩ :=
  (targets_canonical .ascii fun _ _ => rfl).2.2.2.1 "Daily_News".toList _ (by decide +kernel)
    (.link "HTTPS".toList "T.me".toList "Daily_News".toList (by decide) (by decide) rfl)

/-- A link with a port that is none raises Python's error. -/
theorem port_raises : ¬ ∀ raw, normalizeTelegramTarget .ascii raw ≠ .error .valueError := by
  intro hall
  exact hall "https://t.me:x/news_channel".toList (by decide +kernel)

end NewsCraft.Publishing.TelegramTargets
