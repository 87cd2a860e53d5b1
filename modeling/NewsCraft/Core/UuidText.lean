import NewsCraft.Core.Basic

/-!
# Identifiers read back from text

`UUID(text)`: an optional URN prefix, optional braces and the hyphens are dropped, and 32
hexadecimal digits must be left.
-/

namespace NewsCraft

open List

/-- The value of a hexadecimal digit, in either case. -/
def hexDigitValue (c : Char) : Option Nat :=
  let n := c.toNat
  if 48 ≤ n ∧ n ≤ 57 then some (n - 48)
  else if 97 ≤ n ∧ n ≤ 102 then some (n - 87)
  else if 65 ≤ n ∧ n ≤ 70 then some (n - 55)
  else none

/-- `int(digits, 16)`. -/
def hexNumber (digits : List Char) : Option Nat :=
  digits.foldlM (fun value digit => (hexDigitValue digit).map (16 * value + ·)) 0

/-- `text.replace(word, "")` from the left; `skip` characters belong to a word already
found. -/
def removeWord (word : List Char) : Nat → List Char → List Char
  | _, [] => []
  | skip + 1, _ :: text => removeWord word skip text
  | 0, c :: text =>
    if word.isPrefixOf (c :: text) then removeWord word (word.length - 1) text
    else c :: removeWord word 0 text

/-- `text.strip("{}")`. -/
def stripBraces (text : List Char) : List Char :=
  let brace := fun c : Char => c == '{' || c == '}'
  ((text.dropWhile brace).reverse.dropWhile brace).reverse

/-- `UUID(text)`; `none` where it raises `ValueError`. -/
def parseUuid (text : String) : Option UUID :=
  let hex := removeWord "uuid:".toList 0 (removeWord "urn:".toList 0 text.toList)
  let hex := (stripBraces hex).filter (· ≠ '-')
  if hex.length = 32 then (hexNumber hex).map fun n => ⟨BitVec.ofNat 128 n⟩ else none

/-! ## Digits -/

theorem hexDigitValue_hexDigit {n : Nat} (h : n < 16) : hexDigitValue (hexDigit n) = some n := by
  have hall : ∀ i < 16, hexDigitValue (hexDigit i) = some i := by decide
  exact hall n h

variable {digits : List Char}

theorem hexNumber_append {digit : Char} {value d : Nat} (h : hexNumber digits = some value)
    (hd : hexDigitValue digit = some d) :
    hexNumber (digits ++ [digit]) = some (16 * value + d) := by
  rw [hexNumber] at h ⊢
  rw [foldlM_append, h]
  simp [hd]

theorem hexNumber_hexDigits (width n : Nat) :
    hexNumber (hexDigits width n) = some (n % hexValues width) := by
  induction width generalizing n with
  | zero => simp [hexDigits, hexNumber, hexValues, Nat.mod_one]
  | succ width ih =>
    have hdigit := hexDigitValue_hexDigit (Nat.mod_lt n (by omega : 0 < 16))
    rw [hexDigits, hexNumber_append (ih (n / 16)) hdigit, hexValues, Nat.mod_mul, Nat.add_comm]

/-! ## What `str(uuid)` is made of -/

def UuidChar (c : Char) : Prop := c = '-' ∨ ∃ n < 16, c = hexDigit n

variable {c : Char}

theorem uuidChar_ne (h : UuidChar c) : c ≠ 'u' ∧ c ≠ '{' ∧ c ≠ '}' := by
  rcases h with rfl | ⟨n, hn, rfl⟩
  · decide
  have hall : ∀ i < 16, hexDigit i ≠ 'u' ∧ hexDigit i ≠ '{' ∧ hexDigit i ≠ '}' := by decide
  exact hall n hn

theorem hexDigit_ne_dash {n : Nat} (h : n < 16) : hexDigit n ≠ '-' := by
  have hall : ∀ i < 16, hexDigit i ≠ '-' := by decide
  exact hall n h

theorem mem_hexDigits {width n : Nat} (h : c ∈ hexDigits width n) : ∃ d < 16, c = hexDigit d := by
  induction width generalizing n with
  | zero => cases h
  | succ width ih =>
    rw [hexDigits, mem_append, mem_singleton] at h
    rcases h with h | rfl
    · exact ih h
    · exact ⟨n % 16, Nat.mod_lt n (by omega), rfl⟩

theorem mem_dashed {sizes : List Nat} (h : c ∈ dashed sizes digits) : c = '-' ∨ c ∈ digits := by
  induction sizes generalizing digits with
  | nil => exact .inr h
  | cons size sizes ih =>
    rw [dashed, mem_append, mem_cons] at h
    rcases h with h | rfl | h
    · exact .inr (mem_of_mem_take h)
    · exact .inl rfl
    · exact (ih h).imp (fun hdash => hdash) mem_of_mem_drop

theorem uuidChar_of_mem {id : UUID} (h : c ∈ (uuidStr id).toList) : UuidChar c := by
  rw [uuidStr, String.toList_ofList] at h
  exact (mem_dashed h).imp (fun hdash => hdash) mem_hexDigits

theorem filter_dashed {sizes : List Nat} (h : ∀ c ∈ digits, c ≠ '-') :
    (dashed sizes digits).filter (· ≠ '-') = digits := by
  induction sizes generalizing digits with
  | nil => exact filter_eq_self.mpr fun c hc => decide_eq_true (h c hc)
  | cons size sizes ih =>
    have htake : (digits.take size).filter (· ≠ '-') = digits.take size :=
      filter_eq_self.mpr fun c hc => decide_eq_true (h c (mem_of_mem_take hc))
    have hdrop : (dashed sizes (digits.drop size)).filter (· ≠ '-') = digits.drop size :=
      ih fun c hc => h c (mem_of_mem_drop hc)
    rw [dashed, filter_append, htake, filter_cons_of_neg (by simp), hdrop, take_append_drop]

/-! ## The round trip -/

theorem removeWord_of_not_mem {first : Char} {rest text : List Char} (h : first ∉ text) :
    removeWord (first :: rest) 0 text = text := by
  induction text with
  | nil => rfl
  | cons c text ih =>
    rw [mem_cons, not_or] at h
    have hno : ¬ (first :: rest).isPrefixOf (c :: text) = true := by
      simp [List.isPrefixOf, h.1]
    rw [removeWord, if_neg hno, ih h.2]

theorem dropWhile_of_none {α : Type*} {p : α → Bool} {xs : List α} (h : ∀ x ∈ xs, p x = false) :
    xs.dropWhile p = xs := by
  cases xs with
  | nil => rfl
  | cons x xs => rw [dropWhile_cons_of_neg (by rw [h x mem_cons_self]; simp)]

theorem stripBraces_of_none {text : List Char} (h : ∀ c ∈ text, c ≠ '{' ∧ c ≠ '}') :
    stripBraces text = text := by
  have hno : ∀ c ∈ text, (c == '{' || c == '}') = false := by
    intro c hc
    simp [(h c hc).1, (h c hc).2]
  rw [stripBraces, dropWhile_of_none hno,
    dropWhile_of_none fun c hc => hno c (mem_reverse.mp hc), reverse_reverse]

/-- **An identifier's text is read back as the identifier.** -/
theorem parseUuid_uuidStr (id : UUID) : parseUuid (uuidStr id) = some id := by
  have hchar : ∀ c ∈ (uuidStr id).toList, c ≠ 'u' ∧ c ≠ '{' ∧ c ≠ '}' :=
    fun c hc => uuidChar_ne (uuidChar_of_mem hc)
  have hurn : 'u' ∉ (uuidStr id).toList := fun hmem => (hchar 'u' hmem).1 rfl
  have hdigits : ((uuidStr id).toList).filter (· ≠ '-') = hexDigits 32 id.int.toNat := by
    rw [uuidStr, String.toList_ofList]
    refine filter_dashed fun c hc => ?_
    obtain ⟨d, hd, rfl⟩ := mem_hexDigits hc
    exact hexDigit_ne_dash hd
  have hword : ∀ word : String, word.toList.head? = some 'u' →
      removeWord word.toList 0 (uuidStr id).toList = (uuidStr id).toList := by
    intro word hhead
    obtain ⟨rest, hrest⟩ : ∃ rest, word.toList = 'u' :: rest := by
      cases hl : word.toList with
      | nil => rw [hl] at hhead; cases hhead
      | cons c rest => rw [hl] at hhead; cases hhead; exact ⟨rest, rfl⟩
    rw [hrest]
    exact removeWord_of_not_mem hurn
  unfold parseUuid
  dsimp only
  rw [hword "urn:" (by decide), hword "uuid:" (by decide),
    stripBraces_of_none fun c hc => (hchar c hc).2, hdigits, if_pos (length_hexDigits 32 _), hexNumber_hexDigits]
  have hlt : id.int.toNat < hexValues 32 := by
    have hvalues : hexValues 32 = 2 ^ 128 := rfl
    have hint := id.int.isLt
    omega
  rw [Nat.mod_eq_of_lt hlt]
  simp

end NewsCraft
