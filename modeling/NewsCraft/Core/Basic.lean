import Mathlib.Tactic.Common

/-!
# Values every part of the backend shares

An instant is a timezone-aware UTC `datetime` as its number of microseconds, so clock
comparisons are integer comparisons and a `timedelta` is an integer too.
-/

namespace NewsCraft

open List

abbrev Datetime := Int

/-- `timedelta(seconds=n)`. -/
def timedeltaSeconds (n : Int) : Int := n * 1000000

/-- `timedelta(minutes=n)`. -/
def timedeltaMinutes (n : Int) : Int := timedeltaSeconds (n * 60)

/-- A UUID as its 128-bit integer value. -/
structure UUID where
  int : BitVec 128
  deriving DecidableEq

instance {n : Nat} : OfNat UUID n := ⟨⟨BitVec.ofNat 128 n⟩⟩

/-! ## Identifiers as text -/

def hexDigit (n : Nat) : Char := if n < 10 then Char.ofNat (48 + n) else Char.ofNat (87 + n)

/-- The last `width` hexadecimal digits of `n`. -/
def hexDigits : Nat → Nat → List Char
  | 0, _ => []
  | width + 1, n => hexDigits width (n / 16) ++ [hexDigit (n % 16)]

/-- How many numbers `width` hexadecimal digits can tell apart. -/
def hexValues : Nat → Nat
  | 0 => 1
  | width + 1 => 16 * hexValues width

/-- Put a dash after the first group of each size. -/
def dashed : List Nat → List Char → List Char
  | [], digits => digits
  | size :: sizes, digits => digits.take size ++ '-' :: dashed sizes (digits.drop size)

/-- `str(uuid)`. -/
def uuidStr (id : UUID) : String :=
  String.ofList (dashed [8, 4, 4, 4] (hexDigits 32 id.int.toNat))

theorem hexDigit_injective {m n : Nat} (hm : m < 16) (hn : n < 16)
    (h : hexDigit m = hexDigit n) : m = n := by
  have hall : ∀ i < 16, ∀ j < 16, hexDigit i = hexDigit j → i = j := by decide
  exact hall m hm n hn h

theorem length_hexDigits (width n : Nat) : (hexDigits width n).length = width := by
  induction width generalizing n with
  | zero => rfl
  | succ width ih => rw [hexDigits, length_append, ih, length_singleton]

theorem hexDigits_injective {width m n : Nat} (hm : m < hexValues width) (hn : n < hexValues width)
    (h : hexDigits width m = hexDigits width n) : m = n := by
  induction width generalizing m n with
  | zero =>
    rw [hexValues] at hm hn
    omega
  | succ width ih =>
    rw [hexDigits, hexDigits] at h
    have hlen : (hexDigits width (m / 16)).length = (hexDigits width (n / 16)).length := by
      rw [length_hexDigits, length_hexDigits]
    obtain ⟨hinit, hlast⟩ := append_inj h hlen
    have hdiv : m / 16 = n / 16 := by
      refine ih ?_ ?_ hinit
      · rw [hexValues] at hm
        omega
      · rw [hexValues] at hn
        omega
    have hmod : m % 16 = n % 16 :=
      hexDigit_injective (by omega) (by omega) (List.cons.inj hlast).1
    omega

theorem length_dashed (sizes : List Nat) (digits : List Char)
    (h : sizes.foldr Nat.add 0 ≤ digits.length) : (dashed sizes digits).length
      = digits.length + sizes.length := by
  induction sizes generalizing digits with
  | nil => rfl
  | cons size sizes ih =>
    have hsizes : size + sizes.foldr Nat.add 0 ≤ digits.length := h
    have hdrop := ih (digits.drop size) (by rw [length_drop]; omega)
    rw [length_drop] at hdrop
    rw [dashed, length_append, length_take, length_cons, length_cons, hdrop]
    omega

theorem dashed_injective {sizes : List Nat} {digits digits' : List Char}
    (hlen : digits.length = digits'.length) (h : dashed sizes digits = dashed sizes digits') :
    digits = digits' := by
  induction sizes generalizing digits digits' with
  | nil => exact h
  | cons size sizes ih =>
    rw [dashed, dashed] at h
    have htake : (digits.take size).length = (digits'.take size).length := by
      rw [length_take, length_take, hlen]
    obtain ⟨hfirst, hrest⟩ := append_inj h htake
    have hdrop : digits.drop size = digits'.drop size := by
      refine ih ?_ (List.cons.inj hrest).2
      rw [length_drop, length_drop, hlen]
    rw [← take_append_drop size digits, hfirst, hdrop, take_append_drop]

theorem length_uuidStr (id : UUID) : (uuidStr id).toList.length = 36 := by
  have hsum : [8, 4, 4, 4].foldr Nat.add 0 ≤ (hexDigits 32 id.int.toNat).length := by
    rw [length_hexDigits]
    decide
  rw [uuidStr, String.toList_ofList, length_dashed _ _ hsum, length_hexDigits]
  rfl

theorem uuidStr_injective {id id' : UUID} (h : uuidStr id = uuidStr id') : id = id' := by
  have hchars : dashed [8, 4, 4, 4] (hexDigits 32 id.int.toNat)
      = dashed [8, 4, 4, 4] (hexDigits 32 id'.int.toNat) := String.ofList_injective h
  have hlen : (hexDigits 32 id.int.toNat).length = (hexDigits 32 id'.int.toNat).length := by
    rw [length_hexDigits, length_hexDigits]
  have hbound : ∀ id : UUID, id.int.toNat < hexValues 32 := by
    intro id
    have hvalues : hexValues 32 = 2 ^ 128 := rfl
    have hlt := id.int.isLt
    omega
  have hnat := hexDigits_injective (hbound id) (hbound id') (dashed_injective hlen hchars)
  cases id
  cases id'
  exact congrArg UUID.mk (BitVec.eq_of_toNat_eq hnat)

/-- A prefix, an identifier, a separator and a text: the identifier and the text can
be read back. -/
theorem printedKey_injective {start : String} {id id' : UUID} {text text' : String}
    (h : start ++ uuidStr id ++ ":" ++ text = start ++ uuidStr id' ++ ":" ++ text') :
    id = id' ∧ text = text' := by
  have hchars := congrArg String.toList h
  simp only [String.toList_append, append_assoc] at hchars
  have hrest := append_cancel_left hchars
  have hlen : (uuidStr id).toList.length = (uuidStr id').toList.length := by
    rw [length_uuidStr, length_uuidStr]
  obtain ⟨hid, htext⟩ := append_inj hrest hlen
  exact ⟨uuidStr_injective (String.toList_injective hid),
    String.toList_injective (append_cancel_left htext)⟩

/-! ## Exceptions and blank text -/

/-- The exceptions a value check raises, with their messages. -/
inductive PyError where
  | typeError (message : String)
  | valueError (message : String)
  deriving DecidableEq

/-- The characters `str.strip()` removes. -/
def isPySpace (c : Char) : Bool :=
  let n := c.toNat
  (9 ≤ n && n ≤ 13) || (28 ≤ n && n ≤ 32) || n == 0x85 || n == 0xa0 || n == 0x1680
    || (0x2000 ≤ n && n ≤ 0x200a) || n == 0x2028 || n == 0x2029 || n == 0x202f || n == 0x205f
    || n == 0x3000

/-- `not value.strip()`. -/
def isBlank (s : String) : Bool := s.toList.all isPySpace

end NewsCraft
