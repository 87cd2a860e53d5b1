import Mathlib.Tactic.Common
import NewsCraft.Core.Basic

/-!
# Instants as text

`datetime.isoformat()` of a UTC instant: the proleptic Gregorian date of its day and the
time of day, microseconds left out when they are zero. Two instants never share a text.
-/

namespace NewsCraft

open List

/-! ## Dates -/

/-- `_is_leap`. -/
def isLeap (year : Int) : Bool := year % 4 = 0 && (year % 100 ≠ 0 || year % 400 = 0)

def monthLengths (leap : Bool) : List Int :=
  [31, if leap then 29 else 28, 31, 30, 31, 30, 31, 31, 30, 31, 30, 31]

/-- The month, counted from `month`, and the day of it a day of the year is. -/
def monthAndDay : List Int → Int → Int → Int × Int
  | [], month, day => (month, day + 1)
  | length :: lengths, month, day =>
    if day < length then (month, day + 1) else monthAndDay lengths (month + 1) (day - length)

/-- `_days_before_month`, for the months from `month` on. -/
def daysBeforeMonth : List Int → Int → Int → Int
  | [], _, _ => 0
  | length :: lengths, month, m =>
    if m ≤ month then 0 else length + daysBeforeMonth lengths (month + 1) m

theorem daysBeforeMonth_monthAndDay (lengths : List Int) (month day : Int) :
    daysBeforeMonth lengths month (monthAndDay lengths month day).1
        + (monthAndDay lengths month day).2 = day + 1
      ∧ month ≤ (monthAndDay lengths month day).1 := by
  induction lengths generalizing month day with
  | nil => exact ⟨by simp [monthAndDay, daysBeforeMonth], by simp [monthAndDay]⟩
  | cons length lengths ih =>
    by_cases hday : day < length
    · simp [monthAndDay, hday, daysBeforeMonth]
    obtain ⟨hsum, hle⟩ := ih (month + 1) (day - length)
    have hlater : ¬ (monthAndDay lengths (month + 1) (day - length)).1 ≤ month := by omega
    rw [monthAndDay, if_neg hday, daysBeforeMonth, if_neg hlater]
    omega

theorem one_le_monthAndDay {lengths : List Int} {month day : Int} (hday : 0 ≤ day) :
    1 ≤ (monthAndDay lengths month day).2 := by
  induction lengths generalizing month day with
  | nil =>
    rw [monthAndDay]
    omega
  | cons length lengths ih =>
    rw [monthAndDay]
    split
    · simp only
      omega
    · exact ih (by omega)

structure Date where
  year : Int
  month : Int
  day : Int

/-- `_ord2ymd`, days being counted from the first of January of year 1, which is day 0. -/
def ordinalDate (n : Int) : Date :=
  let n400 := n / 146097
  let n100 := n % 146097 / 36524
  let n4 := n % 146097 % 36524 / 1461
  let n1 := n % 146097 % 36524 % 1461 / 365
  let year := n400 * 400 + n100 * 100 + n4 * 4 + n1 + 1
  if n1 = 4 ∨ n100 = 4 then
    ⟨year - 1, 12, 31⟩
  else
    let (month, day) :=
      monthAndDay (monthLengths (isLeap year)) 1 (n % 146097 % 36524 % 1461 % 365)
    ⟨year, month, day⟩

/-- `_ymd2ord`. -/
def dateOrdinal (date : Date) : Int :=
  let y := date.year - 1
  y * 365 + y / 4 - y / 100 + y / 400
    + daysBeforeMonth (monthLengths (isLeap date.year)) 1 date.month + date.day - 1

theorem dateOrdinal_ordinalDate (n : Int) : dateOrdinal (ordinalDate n) = n := by
  unfold ordinalDate
  simp only
  -- the four quotients, and what is left of each division
  have h400 := Int.mul_ediv_add_emod n 146097
  have hr400 := Int.emod_nonneg n (show (146097 : Int) ≠ 0 by decide)
  have hl400 := Int.emod_lt_of_pos n (show (0 : Int) < 146097 by decide)
  generalize n / 146097 = n400 at *
  generalize n % 146097 = r at *
  have h100 := Int.mul_ediv_add_emod r 36524
  have hr100 := Int.emod_nonneg r (show (36524 : Int) ≠ 0 by decide)
  have hl100 := Int.emod_lt_of_pos r (show (0 : Int) < 36524 by decide)
  generalize r / 36524 = n100 at *
  generalize r % 36524 = s at *
  have h4 := Int.mul_ediv_add_emod s 1461
  have hr4 := Int.emod_nonneg s (show (1461 : Int) ≠ 0 by decide)
  have hl4 := Int.emod_lt_of_pos s (show (0 : Int) < 1461 by decide)
  generalize s / 1461 = n4 at *
  generalize s % 1461 = t at *
  have h1 := Int.mul_ediv_add_emod t 365
  have hr1 := Int.emod_nonneg t (show (365 : Int) ≠ 0 by decide)
  have hl1 := Int.emod_lt_of_pos t (show (0 : Int) < 365 by decide)
  generalize t / 365 = n1 at *
  generalize t % 365 = d at *
  by_cases hlast : n1 = 4 ∨ n100 = 4
  · -- the last day of a leap year, which the division counts to the year after
    rw [if_pos hlast]
    have hleap : isLeap (n400 * 400 + n100 * 100 + n4 * 4 + n1 + 1 - 1) = true := by
      simp only [isLeap, Bool.and_eq_true, Bool.or_eq_true, decide_eq_true_eq]
      omega
    have hmonth : daysBeforeMonth (monthLengths true) 1 12 = 335 := by decide
    have hquarter : (n400 * 400 + n100 * 100 + n4 * 4 + n1 + 1 - 1 - 1) / 4
        = n400 * 100 + n100 * 25 + n4 + (if n1 = 4 then 0 else -1) := by
      split <;> omega
    have hcentury : (n400 * 400 + n100 * 100 + n4 * 4 + n1 + 1 - 1 - 1) / 100
        = n400 * 4 + n100 + (if n1 = 4 then 0 else -1) := by
      split <;> omega
    have hera : (n400 * 400 + n100 * 100 + n4 * 4 + n1 + 1 - 1 - 1) / 400 = n400 := by omega
    simp only [dateOrdinal, hleap, hmonth, hquarter, hcentury, hera]
    split <;> omega
  · rw [if_neg hlast]
    generalize hyear : n400 * 400 + n100 * 100 + n4 * 4 + n1 + 1 = year
    have hday := (daysBeforeMonth_monthAndDay (monthLengths (isLeap year)) 1 d).1
    have hquarter : (year - 1) / 4 = n400 * 100 + n100 * 25 + n4 := by omega
    have hcentury : (year - 1) / 100 = n400 * 4 + n100 := by omega
    have hera : (year - 1) / 400 = n400 := by omega
    simp only [dateOrdinal, hquarter, hcentury, hera]
    omega

theorem ordinalDate_injective {m n : Int} (h : ordinalDate m = ordinalDate n) : m = n := by
  rw [← dateOrdinal_ordinalDate m, h, dateOrdinal_ordinalDate]

theorem one_le_ordinalDate (n : Int) : 1 ≤ (ordinalDate n).month ∧ 1 ≤ (ordinalDate n).day := by
  unfold ordinalDate
  simp only
  split
  · exact ⟨by simp, by simp⟩
  · exact ⟨(daysBeforeMonth_monthAndDay _ 1 _).2, one_le_monthAndDay (by omega)⟩

/-! ## Digits -/

/-- `f"{n:0{width}d}"`. -/
def paddedDigits (width n : Nat) : List Char :=
  List.replicate (width - (Nat.toDigits 10 n).length) '0' ++ Nat.toDigits 10 n

theorem paddedDigits_injective {width m n : Nat} (h : paddedDigits width m = paddedDigits width n) :
    m = n := by
  have hvalue : ∀ n, Nat.ofDigitChars 10 (paddedDigits width n) 0 = n := by
    intro n
    rw [paddedDigits, Nat.ofDigitChars_append, Nat.ofDigitChars_replicate_zero]
    exact Nat.ofDigitChars_ten_toDigits
  rw [← hvalue m, h, hvalue]

theorem isDigit_of_mem_paddedDigits {width n : Nat} {c : Char} (h : c ∈ paddedDigits width n) :
    c.isDigit = true := by
  rcases mem_append.mp h with h | h
  · rw [eq_of_mem_replicate h]
    decide
  · exact Nat.isDigit_of_mem_toDigits (by decide) (by decide) h

/-- The sign is never written for a year a `datetime` can have. -/
def yearDigits : Int → List Char
  | .ofNat year => paddedDigits 4 year
  | .negSucc year => '-' :: paddedDigits 4 (year + 1)

/-! ## The text of an instant -/

/-- `datetime.isoformat()` of a UTC instant, as characters. -/
def isoformatChars (instant : Datetime) : List Char :=
  let seconds := instant / 1000000
  let microsecond := (instant % 1000000).toNat
  let date := ordinalDate (seconds / 86400 + 719162)
  let second := (seconds % 86400).toNat
  yearDigits date.year ++ '-' :: (paddedDigits 2 date.month.toNat ++ '-'
    :: (paddedDigits 2 date.day.toNat ++ 'T' :: (paddedDigits 2 (second / 3600) ++ ':'
      :: (paddedDigits 2 (second / 60 % 60) ++ ':' :: (paddedDigits 2 (second % 60)
        ++ (if microsecond = 0 then [] else '.' :: paddedDigits 6 microsecond)
          ++ "+00:00".toList)))))

/-- `datetime.isoformat()` of a UTC instant. -/
def isoformat (instant : Datetime) : String := String.ofList (isoformatChars instant)

theorem split_at_separator {c : Char} {l l' r r' : List Char} (hl : c ∉ l) (hl' : c ∉ l')
    (h : l ++ c :: r = l' ++ c :: r') : l = l' ∧ r = r' := by
  induction l generalizing l' with
  | nil =>
    cases l' with
    | nil => exact ⟨rfl, (List.cons.inj h).2⟩
    | cons x l' => exact absurd (mem_cons.mpr (.inl (List.cons.inj h).1)) hl'
  | cons x l ih =>
    cases l' with
    | nil => exact absurd (mem_cons.mpr (.inl (List.cons.inj h).1.symm)) hl
    | cons y l' =>
      obtain ⟨hhead, htail⟩ := List.cons.inj h
      obtain ⟨hrest, hr⟩ := ih (fun hc => hl (mem_cons_of_mem _ hc))
        (fun hc => hl' (mem_cons_of_mem _ hc)) htail
      exact ⟨by rw [hhead, hrest], hr⟩

theorem not_mem_paddedDigits {c : Char} (hc : c.isDigit = false) (width n : Nat) :
    c ∉ paddedDigits width n := by
  intro h
  rw [isDigit_of_mem_paddedDigits h] at hc
  cases hc

theorem yearDigits_split {year year' : Int} {r r' : List Char}
    (h : yearDigits year ++ '-' :: r = yearDigits year' ++ '-' :: r') : year = year' ∧ r = r' := by
  have hdash := not_mem_paddedDigits (c := '-') (by decide)
  have hclash : ∀ (m n : Nat) (r r' : List Char),
      paddedDigits 4 m ++ '-' :: r ≠ '-' :: (paddedDigits 4 n ++ r') := by
    intro m n r r' heq
    have hnone : '-' ∉ ([] : List Char) := not_mem_nil
    have hempty := (split_at_separator (hdash 4 m) hnone heq).1
    simp [paddedDigits] at hempty
  cases year with
  | ofNat m =>
    cases year' with
    | ofNat n =>
      obtain ⟨hyear, hr⟩ := split_at_separator (hdash 4 m) (hdash 4 n) h
      exact ⟨by rw [paddedDigits_injective hyear], hr⟩
    | negSucc n => exact absurd h (hclash m (n + 1) r _)
  | negSucc m =>
    cases year' with
    | ofNat n => exact absurd h.symm (hclash n (m + 1) r' _)
    | negSucc n =>
      obtain ⟨hyear, hr⟩ := split_at_separator (hdash 4 (m + 1)) (hdash 4 (n + 1))
        (List.cons.inj h).2
      have hsucc := paddedDigits_injective hyear
      exact ⟨by rw [show m = n by omega], hr⟩

theorem fraction_split {s s' us us' : Nat}
    (h : paddedDigits 2 s ++ (if us = 0 then [] else '.' :: paddedDigits 6 us) ++ "+00:00".toList
      = paddedDigits 2 s' ++ (if us' = 0 then [] else '.' :: paddedDigits 6 us')
          ++ "+00:00".toList) : s = s' ∧ us = us' := by
  have hsame := append_cancel_right h
  have hdot := not_mem_paddedDigits (c := '.') (by decide) 2
  by_cases hus : us = 0
  · by_cases hus' : us' = 0
    · rw [if_pos hus, if_pos hus', append_nil, append_nil] at hsame
      exact ⟨paddedDigits_injective hsame, by omega⟩
    · rw [if_pos hus, if_neg hus', append_nil] at hsame
      exact absurd (hsame ▸ mem_append_right _ mem_cons_self) (hdot s)
  · by_cases hus' : us' = 0
    · rw [if_neg hus, if_pos hus', append_nil] at hsame
      exact absurd (hsame.symm ▸ mem_append_right _ mem_cons_self) (hdot s')
    · rw [if_neg hus, if_neg hus'] at hsame
      obtain ⟨hs, hfraction⟩ := split_at_separator (hdot s) (hdot s') hsame
      exact ⟨paddedDigits_injective hs, paddedDigits_injective hfraction⟩

/-- **Two instants never have the same text.** -/
theorem isoformat_injective {t t' : Datetime} (h : isoformat t = isoformat t') : t = t' := by
  have hchars : isoformatChars t = isoformatChars t' := String.ofList_injective h
  have hdash := not_mem_paddedDigits (c := '-') (by decide) 2
  have htee := not_mem_paddedDigits (c := 'T') (by decide) 2
  have hcolon := not_mem_paddedDigits (c := ':') (by decide) 2
  obtain ⟨hyear, hchars⟩ := yearDigits_split hchars
  obtain ⟨hmonth, hchars⟩ := split_at_separator (hdash _) (hdash _) hchars
  obtain ⟨hday, hchars⟩ := split_at_separator (htee _) (htee _) hchars
  obtain ⟨hhour, hchars⟩ := split_at_separator (hcolon _) (hcolon _) hchars
  obtain ⟨hminute, hchars⟩ := split_at_separator (hcolon _) (hcolon _) hchars
  obtain ⟨hsecond, hmicro⟩ := fraction_split hchars
  have hmonth := paddedDigits_injective hmonth
  have hday := paddedDigits_injective hday
  have hhour := paddedDigits_injective hhour
  have hminute := paddedDigits_injective hminute
  have hpos := one_le_ordinalDate (t / 1000000 / 86400 + 719162)
  have hpos' := one_le_ordinalDate (t' / 1000000 / 86400 + 719162)
  have hdate : ordinalDate (t / 1000000 / 86400 + 719162)
      = ordinalDate (t' / 1000000 / 86400 + 719162) := by
    generalize ordinalDate (t / 1000000 / 86400 + 719162) = date at *
    generalize ordinalDate (t' / 1000000 / 86400 + 719162) = date' at *
    obtain ⟨y, m, d⟩ := date
    obtain ⟨y', m', d'⟩ := date'
    simp only at hyear hmonth hday hpos hpos'
    rw [hyear, show m = m' by omega, show d = d' by omega]
  have hdays := ordinalDate_injective hdate
  -- the second of the day has the same hour, minute and second
  have hclock : (t / 1000000 % 86400).toNat = (t' / 1000000 % 86400).toNat := by
    generalize (t / 1000000 % 86400).toNat = s at *
    generalize (t' / 1000000 % 86400).toNat = s' at *
    omega
  have hfraction : (t % 1000000).toNat = (t' % 1000000).toNat := hmicro
  show @Eq Int t t'
  omega

example : isoformat 1767225600000000 = "2026-01-01T00:00:00+00:00" := by decide

end NewsCraft
