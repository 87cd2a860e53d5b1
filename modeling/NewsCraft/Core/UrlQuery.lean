import NewsCraft.Core.Basic
import NewsCraft.Core.SecretKeys
import NewsCraft.Lib.Utf8

/-!
# Query strings

`parse_qsl` and `urlencode` of `urllib.parse`. A field is a name and a value around its
first `=`, and one with no value is left out. What is encoded is decoded again, and contains
nothing that would divide a query or a URL.
-/

namespace NewsCraft.Urls

open Lib List

/-! ## Percent-encoding -/

/-- `_ALWAYS_SAFE`. -/
def alwaysSafe (c : Char) : Bool :=
  c.isAlphanum || c = '_' || c = '.' || c = '-' || c = '~'

/-- A digit of `{:02X}`. -/
def hexDigit (n : Nat) : Char := Char.ofNat (if n < 10 then 48 + n else 55 + n)

/-- `'%{:02X}'.format(octet)`. -/
def quoteOctet (octet : Nat) : Text := ['%', hexDigit (octet / 16), hexDigit (octet % 16)]

/-- `quote_plus`, of one character. -/
def quoteChar (c : Char) : Text :=
  if c = ' ' then ['+']
  else if alwaysSafe c then [c]
  else (Utf8.encodeChar c).flatMap quoteOctet

/-- `quote_plus`. -/
def quotePlus (text : Text) : Text := text.flatMap quoteChar

/-- The value of a hexadecimal digit, of either case. -/
def hexValue (c : Char) : Option Nat :=
  if '0' ≤ c ∧ c ≤ '9' then some (c.toNat - 48)
  else if 'A' ≤ c ∧ c ≤ 'F' then some (c.toNat - 55)
  else if 'a' ≤ c ∧ c ≤ 'f' then some (c.toNat - 87)
  else none

/-- `_hextobyte`. -/
def hexByte (high low : Char) : Option Nat :=
  match hexValue high, hexValue low with
  | some high, some low => some (16 * high + low)
  | _, _ => none

/-- `unquote`, with the octets of the run of ASCII characters read so far, last first. -/
def unquoteRun : List Nat → Text → Text
  | octets, [] => Utf8.decode octets.reverse
  | octets, '%' :: high :: low :: rest =>
    match hexByte high low with
    | some octet => unquoteRun (octet :: octets) rest
    | none => unquoteRun (37 :: octets) (high :: low :: rest)
  | octets, c :: rest =>
    if c.toNat < 128 then unquoteRun (c.toNat :: octets) rest
    else Utf8.decode octets.reverse ++ c :: unquoteRun [] rest

def plusToBlank (c : Char) : Char := if c = '+' then ' ' else c

/-- `unquote_plus`. -/
def unquotePlus (text : Text) : Text := unquoteRun [] (text.map plusToBlank)

/-! ## Fields -/

/-- `text.split(separator)`. -/
def split (separator : Char) : Text → List Text
  | [] => [[]]
  | c :: rest =>
    if c = separator then
      [] :: split separator rest
    else
      match split separator rest with
      | [] => [[c]]
      | field :: fields => (c :: field) :: fields

/-- `separator.join(fields)`. -/
def join (separator : Char) : List Text → Text
  | [] => []
  | [field] => field
  | field :: fields => field ++ separator :: join separator fields

/-- What stands before the first separator and what after it; `str.partition`, or `split`
with a limit of one. -/
def before (separator : Char) (text : Text) : Text := text.takeWhile (· ≠ separator)

def after (separator : Char) (text : Text) : Text := (text.dropWhile (· ≠ separator)).drop 1

/-- A field of `parse_qsl` without blank values. -/
def parseField (field : Text) : Option (Text × Text) :=
  if after '=' field = [] then none
  else some (unquotePlus (before '=' field), unquotePlus (after '=' field))

/-- `parse_qsl(query, keep_blank_values=False)`. -/
def parseQsl (query : Text) : List (Text × Text) := (split '&' query).filterMap parseField

def encodeField (item : Text × Text) : Text := quotePlus item.1 ++ '=' :: quotePlus item.2

/-- `urlencode`. -/
def urlencode (items : List (Text × Text)) : Text := join '&' (items.map encodeField)

/-! ## Decoding what was encoded -/

theorem hexValue_hexDigit {n : Nat} (h : n < 16) : hexValue (hexDigit n) = some n := by
  have hall : ∀ n : Fin 16, hexValue (hexDigit n) = some n.val := by decide
  exact hall ⟨n, h⟩

theorem hexDigit_ne {n : Nat} (h : n < 16) : plusToBlank (hexDigit n) = hexDigit n := by
  have hall : ∀ n : Fin 16, plusToBlank (hexDigit n) = hexDigit n := by decide
  exact hall ⟨n, h⟩

theorem hexDigit_safe {n : Nat} (h : n < 16) : alwaysSafe (hexDigit n) = true := by
  have hall : ∀ n : Fin 16, alwaysSafe (hexDigit n) = true := by decide
  exact hall ⟨n, h⟩

theorem encodeChar_lt (c : Char) : ∀ octet ∈ Utf8.encodeChar c, octet < 256 := by
  have hvalid := Utf8.toNat_cases c
  intro octet h
  simp only [Utf8.encodeChar] at h
  split_ifs at h <;> simp only [mem_cons, not_mem_nil, or_false] at h <;> omega

theorem unquoteRun_octet (octets : List Nat) {octet : Nat} (h : octet < 256) (rest : Text) :
    unquoteRun octets ((quoteOctet octet ++ rest).map plusToBlank)
      = unquoteRun (octet :: octets) (rest.map plusToBlank) := by
  have hhigh : octet / 16 < 16 := by omega
  have hlow : octet % 16 < 16 := by omega
  have hvalue : 16 * (octet / 16) + octet % 16 = octet := by omega
  have hpercent : plusToBlank '%' = '%' := by decide
  simp only [quoteOctet, cons_append, nil_append, map_cons, hpercent,
    hexDigit_ne hhigh, hexDigit_ne hlow]
  rw [unquoteRun, hexByte, hexValue_hexDigit hhigh, hexValue_hexDigit hlow]
  dsimp only
  rw [hvalue]

theorem unquoteRun_octets (octets quoted : List Nat) (h : ∀ octet ∈ quoted, octet < 256)
    (rest : Text) : unquoteRun octets ((quoted.flatMap quoteOctet ++ rest).map plusToBlank)
      = unquoteRun (quoted.reverse ++ octets) (rest.map plusToBlank) := by
  induction quoted generalizing octets with
  | nil => rfl
  | cons octet quoted ih =>
    rw [flatMap_cons, append_assoc, unquoteRun_octet octets (h octet mem_cons_self),
      ih _ fun later hlater => h later (mem_cons_of_mem _ hlater)]
    simp

variable {c : Char}

theorem unquoteRun_ascii (octets : List Nat) (hascii : c.toNat < 128) (hne : c ≠ '%') (rest : Text)
    : unquoteRun octets (c :: rest) = unquoteRun (c.toNat :: octets) rest := by
  rw [unquoteRun, if_pos hascii]
  intro high low rest' hpercent _
  exact hne hpercent

theorem alwaysSafe_bounds (h : alwaysSafe c = true) :
    c.toNat < 128 ∧ c ≠ '%' ∧ c ≠ '+' ∧ c ≠ '&' ∧ c ≠ '=' ∧ c ≠ '#' ∧ c ≠ '?'
      ∧ isPySpace c = false ∧ c ≠ '/' := by
  have hbound : c.toNat < 128 := by
    delta alwaysSafe Char.isAlphanum Char.isAlpha Char.isUpper Char.isLower Char.isDigit at h
    simp only [Bool.or_eq_true, Bool.and_eq_true, decide_eq_true_eq] at h
    rcases h with (((((h | h) | h) | h) | h) | h) | h
    · exact lt_of_le_of_lt (UInt32.le_iff_toNat_le.mp h.2) (by decide)
    · exact lt_of_le_of_lt (UInt32.le_iff_toNat_le.mp h.2) (by decide)
    · exact lt_of_le_of_lt (UInt32.le_iff_toNat_le.mp h.2) (by decide)
    · subst h; decide
    · subst h; decide
    · subst h; decide
    · subst h; decide
  have hall : ∀ n : Fin 128, alwaysSafe (Char.ofNat n) = true →
      Char.ofNat n ≠ '%' ∧ Char.ofNat n ≠ '+' ∧ Char.ofNat n ≠ '&' ∧ Char.ofNat n ≠ '='
        ∧ Char.ofNat n ≠ '#' ∧ Char.ofNat n ≠ '?' ∧ isPySpace (Char.ofNat n) = false
        ∧ Char.ofNat n ≠ '/' := by
    decide
  have hone := hall ⟨c.toNat, hbound⟩
  simp only [Char.ofNat_toNat] at hone
  exact ⟨hbound, hone h⟩

theorem unquoteRun_quoteChar (octets : List Nat) (c : Char) (rest : Text) :
    unquoteRun octets ((quoteChar c ++ rest).map plusToBlank)
      = unquoteRun ((Utf8.encodeChar c).reverse ++ octets) (rest.map plusToBlank) := by
  unfold quoteChar
  by_cases hblank : c = ' '
  · subst hblank
    exact unquoteRun_ascii octets (by decide) (by decide) _
  rw [if_neg hblank]
  by_cases hsafe : alwaysSafe c = true
  · obtain ⟨hascii, hpercent, hplus, -⟩ := alwaysSafe_bounds hsafe
    have hself : plusToBlank c = c := if_neg hplus
    have hencode : Utf8.encodeChar c = [c.toNat] := by rw [Utf8.encodeChar, if_pos hascii]
    rw [if_pos hsafe, singleton_append, map_cons, hself, hencode,
      unquoteRun_ascii octets hascii hpercent]
    rfl
  · rw [if_neg hsafe]
    exact unquoteRun_octets octets _ (encodeChar_lt c) rest

theorem unquoteRun_quotePlus (octets : List Nat) (text : Text) :
    unquoteRun octets ((quotePlus text).map plusToBlank)
      = Utf8.decode (octets.reverse ++ Utf8.encode text) := by
  induction text generalizing octets with
  | nil =>
    change Utf8.decode octets.reverse = _
    rw [Utf8.encode, flatMap_nil, append_nil]
  | cons c rest ih =>
    have hcons : quotePlus (c :: rest) = quoteChar c ++ quotePlus rest := flatMap_cons
    rw [hcons, unquoteRun_quoteChar, ih, Utf8.encode, Utf8.encode, flatMap_cons]
    simp

/-- **What is encoded is decoded again.** -/
theorem unquotePlus_quotePlus (text : Text) : unquotePlus (quotePlus text) = text := by
  rw [unquotePlus, unquoteRun_quotePlus]
  exact Utf8.decode_encode text

variable {text : Text}

theorem unquoteRun_ne_nil {octets : List Nat} (h : octets ≠ [] ∨ text ≠ []) :
    unquoteRun octets text ≠ [] := by
  fun_induction unquoteRun octets text with
  | case1 octets =>
    refine Utf8.decode_ne_nil ?_
    rcases h with hoctets | htext
    · simpa using hoctets
    · exact absurd rfl htext
  | case2 octets high low rest octet _ ih => exact ih (.inl (cons_ne_nil _ _))
  | case3 octets high low rest _ ih => exact ih (.inl (cons_ne_nil _ _))
  | case4 octets c rest _ _ ih => exact ih (.inl (cons_ne_nil _ _))
  | case5 octets c rest _ _ ih => simp

theorem unquotePlus_ne_nil (h : text ≠ []) : unquotePlus text ≠ [] :=
  unquoteRun_ne_nil (.inr (by simpa using h))

/-! ## What an encoded text consists of -/

def Quoted (c : Char) : Prop := alwaysSafe c = true ∨ c = '+' ∨ c = '%'

theorem quoted_quotePlus : ∀ c ∈ quotePlus text, Quoted c := by
  intro c hc
  obtain ⟨plain, -, hquoted⟩ := mem_flatMap.mp hc
  unfold quoteChar at hquoted
  by_cases hblank : plain = ' '
  · rw [if_pos hblank, mem_singleton] at hquoted
    exact .inr (.inl hquoted)
  rw [if_neg hblank] at hquoted
  by_cases hsafe : alwaysSafe plain = true
  · rw [if_pos hsafe, mem_singleton] at hquoted
    rw [hquoted]
    exact .inl hsafe
  · rw [if_neg hsafe] at hquoted
    obtain ⟨octet, hoctet, hc⟩ := mem_flatMap.mp hquoted
    have hlt := encodeChar_lt plain octet hoctet
    simp only [quoteOctet, mem_cons, not_mem_nil, or_false] at hc
    rcases hc with rfl | rfl | rfl
    · exact .inr (.inr rfl)
    · exact .inl (hexDigit_safe (by omega))
    · exact .inl (hexDigit_safe (by omega))

theorem Quoted.ne (h : Quoted c) : c ≠ '&' ∧ c ≠ '=' ∧ c ≠ '#' ∧ isPySpace c = false := by
  rcases h with hsafe | rfl | rfl
  · obtain ⟨-, -, -, hamp, heq, hhash, -, hspace, -⟩ := alwaysSafe_bounds hsafe
    exact ⟨hamp, heq, hhash, hspace⟩
  · decide
  · decide

theorem quotePlus_ne_nil (h : text ≠ []) : quotePlus text ≠ [] := by
  intro hnil
  have hdecoded := unquotePlus_quotePlus text
  rw [hnil] at hdecoded
  exact h (hdecoded.symm.trans (by decide))

/-! ## Fields and their names -/

variable {separator : Char}

theorem ne_of_mem (h : separator ∉ text) : ∀ c ∈ text, decide (c ≠ separator) = true := by
  intro c hc
  rw [decide_eq_true_eq]
  rintro rfl
  exact h hc

theorem before_append (h : separator ∉ text) (rest : Text) :
    before separator (text ++ separator :: rest) = text := by
  unfold before
  rw [takeWhile_append_of_pos (ne_of_mem h)]
  simp

theorem after_append (h : separator ∉ text) (rest : Text) :
    after separator (text ++ separator :: rest) = rest := by
  unfold after
  rw [dropWhile_append_of_pos (ne_of_mem h)]
  simp

theorem not_mem_quotePlus_eq (text : Text) : '=' ∉ quotePlus text :=
  fun h => (quoted_quotePlus _ h).ne.2.1 rfl

theorem parseField_encodeField {item : Text × Text} (h : item.2 ≠ []) :
    parseField (encodeField item) = some item := by
  unfold parseField encodeField
  rw [after_append (not_mem_quotePlus_eq item.1), before_append (not_mem_quotePlus_eq item.1),
    if_neg (quotePlus_ne_nil h), unquotePlus_quotePlus, unquotePlus_quotePlus]

theorem split_of_not_mem {field : Text} (h : separator ∉ field) :
    split separator field = [field] := by
  induction field with
  | nil => rfl
  | cons c rest ih =>
    rw [mem_cons, not_or] at h
    rw [split, if_neg (fun heq => h.1 heq.symm), ih h.2]

theorem split_append {field : Text} (h : separator ∉ field) (rest : Text) :
    split separator (field ++ separator :: rest) = field :: split separator rest := by
  induction field with
  | nil => rw [nil_append, split, if_pos rfl]
  | cons c later ih =>
    rw [mem_cons, not_or] at h
    rw [cons_append, split, if_neg (fun heq => h.1 heq.symm), ih h.2]

theorem split_join {fields : List Text} (hne : fields ≠ [])
    (h : ∀ field ∈ fields, separator ∉ field) :
    split separator (join separator fields) = fields := by
  induction fields with
  | nil => exact absurd rfl hne
  | cons field rest ih =>
    have hfield := h field mem_cons_self
    cases rest with
    | nil => exact split_of_not_mem hfield
    | cons next later =>
      have hlater := ih (cons_ne_nil _ _) fun other hother =>
        h other (mem_cons_of_mem _ hother)
      change split separator (field ++ separator :: join separator (next :: later)) = _
      rw [split_append hfield, hlater]

theorem not_mem_encodeField (item : Text × Text) : '&' ∉ encodeField item := by
  intro h
  rcases mem_append.mp h with hname | hvalue
  · exact (quoted_quotePlus _ hname).ne.1 rfl
  rcases mem_cons.mp hvalue with heq | hvalue
  · exact absurd heq (by decide)
  · exact (quoted_quotePlus _ hvalue).ne.1 rfl

variable {items : List (Text × Text)}

/-- **Items with values are read back from the query they are written as.** -/
theorem parseQsl_urlencode (h : ∀ item ∈ items, item.2 ≠ []) :
    parseQsl (urlencode items) = items := by
  unfold parseQsl urlencode
  by_cases hnil : items = []
  · subst hnil
    rfl
  have hsplit : split '&' (join '&' (items.map encodeField)) = items.map encodeField := by
    refine split_join (by simpa using hnil) ?_
    intro field hfield
    obtain ⟨item, -, rfl⟩ := mem_map.mp hfield
    exact not_mem_encodeField item
  rw [hsplit, filterMap_map]
  have hparse : ∀ item ∈ items, (parseField ∘ encodeField) item = some item := by
    intro item hitem
    exact parseField_encodeField (h item hitem)
  rw [filterMap_congr hparse, filterMap_some]

theorem value_ne_nil {query : Text} {item : Text × Text} (h : item ∈ parseQsl query) :
    item.2 ≠ [] := by
  obtain ⟨field, -, hparse⟩ := mem_filterMap.mp h
  unfold parseField at hparse
  split_ifs at hparse with hblank
  cases hparse
  exact unquotePlus_ne_nil hblank

theorem urlencode_eq_nil_iff : urlencode items = [] ↔ items = [] := by
  unfold urlencode
  cases items with
  | nil => simp [join]
  | cons item rest =>
    cases rest with
    | nil | cons _ _ => simp [join, encodeField]

theorem mem_join {fields : List Text} (h : c ∈ join separator fields) :
    c = separator ∨ ∃ field ∈ fields, c ∈ field := by
  induction fields with
  | nil => cases h
  | cons field rest ih =>
    cases rest with
    | nil => exact .inr ⟨field, mem_cons_self, h⟩
    | cons next later =>
      change c ∈ field ++ separator :: join separator (next :: later) at h
      rw [mem_append, mem_cons] at h
      rcases h with hfield | hseparator | hlater
      · exact .inr ⟨field, mem_cons_self, hfield⟩
      · exact .inl hseparator
      rcases ih hlater with hseparator | ⟨other, hother, hc⟩
      · exact .inl hseparator
      · exact .inr ⟨other, mem_cons_of_mem _ hother, hc⟩

theorem urlencode_bounds (h : c ∈ urlencode items) : c ≠ '#' ∧ isPySpace c = false := by
  rcases mem_join h with rfl | ⟨field, hfield, hc⟩
  · decide
  obtain ⟨item, -, rfl⟩ := mem_map.mp hfield
  rcases mem_append.mp hc with hname | hvalue
  · exact (quoted_quotePlus _ hname).ne.2.2
  rcases mem_cons.mp hvalue with rfl | hvalue
  · decide
  · exact (quoted_quotePlus _ hvalue).ne.2.2

end NewsCraft.Urls
