import Mathlib.Tactic.Common

/-!
# UTF-8

A text as its octets, and octets read as a text. Reading never fails: the longest start
of a character that goes no further, and an octet that starts none, are read as U+FFFD.
Octets are natural numbers; one above 0xFF starts nothing.

What was written as UTF-8 is read back, and octets are never read as no text at all.
-/

namespace NewsCraft.Lib.Utf8

open List

/-! ## Writing -/

def encodeChar (c : Char) : List Nat :=
  let n := c.toNat
  if n < 0x80 then [n]
  else if n < 0x800 then [0xC0 + n / 64, 0x80 + n % 64]
  else if n < 0x10000 then [0xE0 + n / 4096, 0x80 + n / 64 % 64, 0x80 + n % 64]
  else [0xF0 + n / 262144, 0x80 + n / 4096 % 64, 0x80 + n / 64 % 64, 0x80 + n % 64]

def encode (text : List Char) : List Nat := text.flatMap encodeChar

/-! ## Reading -/

/-- Between two characters, or within one, with the bounds of its next octet. -/
inductive Scan where
  | between
  | within (low high more value : Nat)

def replacement : Char := '\ufffd'

/-- The first octet of a character. -/
def first (octet : Nat) : List Char × Scan :=
  if octet < 0x80 then ([Char.ofNat octet], .between)
  else if 0xC2 ≤ octet ∧ octet ≤ 0xDF then ([], .within 0x80 0xBF 0 (octet - 0xC0))
  else if octet = 0xE0 then ([], .within 0xA0 0xBF 1 0)
  else if octet = 0xED then ([], .within 0x80 0x9F 1 0xD)
  else if 0xE1 ≤ octet ∧ octet ≤ 0xEF then ([], .within 0x80 0xBF 1 (octet - 0xE0))
  else if octet = 0xF0 then ([], .within 0x90 0xBF 2 0)
  else if octet = 0xF4 then ([], .within 0x80 0x8F 2 4)
  else if 0xF1 ≤ octet ∧ octet ≤ 0xF3 then ([], .within 0x80 0xBF 2 (octet - 0xF0))
  else ([replacement], .between)

/-- The next octet: what is read with it, and where that leaves off. -/
def next : Scan → Nat → List Char × Scan
  | .between, octet => first octet
  | .within low high more value, octet =>
    if low ≤ octet ∧ octet ≤ high then
      match more with
      | 0 => ([Char.ofNat (value * 64 + (octet - 0x80))], .between)
      | more + 1 => ([], .within 0x80 0xBF more (value * 64 + (octet - 0x80)))
    else
      (replacement :: (first octet).1, (first octet).2)

def scan : Scan → List Nat → List Char
  | .between, [] => []
  | .within _ _ _ _, [] => [replacement]
  | s, octet :: rest => (next s octet).1 ++ scan (next s octet).2 rest

def decode (octets : List Nat) : List Char := scan .between octets

/-! ## Reading what was written -/

theorem scan_cons (s : Scan) (octet : Nat) (rest : List Nat) :
    scan s (octet :: rest) = (next s octet).1 ++ scan (next s octet).2 rest := by
  cases s <;> rfl

theorem next_within {low high value octet : Nat} (more : Nat) (h : low ≤ octet ∧ octet ≤ high) :
    next (.within low high (more + 1) value) octet
      = ([], .within 0x80 0xBF more (value * 64 + (octet - 0x80))) := by
  simp only [next, if_pos h]

theorem next_last {low high value octet : Nat} (h : low ≤ octet ∧ octet ≤ high) :
    next (.within low high 0 value) octet
      = ([Char.ofNat (value * 64 + (octet - 0x80))], .between) := by
  simp only [next, if_pos h]

/-- The values of characters leave the surrogates out. -/
theorem toNat_cases (c : Char) :
    c.toNat < 0xD800 ∨ (0xDFFF < c.toNat ∧ c.toNat < 0x110000) := c.valid

theorem first_of_three {n : Nat} (hlow : 0x800 ≤ n) (hhigh : n < 0x10000)
    (hvalid : n < 0xD800 ∨ 0xDFFF < n) :
    ∃ low high, first (0xE0 + n / 4096) = ([], .within low high 1 (n / 4096))
      ∧ low ≤ 0x80 + n / 64 % 64 ∧ 0x80 + n / 64 % 64 ≤ high := by
  by_cases hzero : n / 4096 = 0
  · refine ⟨0xA0, 0xBF, ?_, by omega, by omega⟩
    rw [hzero]
    rfl
  · by_cases hsurrogate : n / 4096 = 0xD
    · refine ⟨0x80, 0x9F, ?_, by omega, by omega⟩
      rw [hsurrogate]
      rfl
    · refine ⟨0x80, 0xBF, ?_, by omega, by omega⟩
      rw [first, if_neg (by omega), if_neg (by omega), if_neg (by omega), if_neg (by omega),
        if_pos (by omega)]
      simp

theorem first_of_four {n : Nat} (hlow : 0x10000 ≤ n) (hhigh : n < 0x110000) :
    ∃ low high, first (0xF0 + n / 262144) = ([], .within low high 2 (n / 262144))
      ∧ low ≤ 0x80 + n / 4096 % 64 ∧ 0x80 + n / 4096 % 64 ≤ high := by
  by_cases hzero : n / 262144 = 0
  · refine ⟨0x90, 0xBF, ?_, by omega, by omega⟩
    rw [hzero]
    rfl
  · by_cases hfour : n / 262144 = 4
    · refine ⟨0x80, 0x8F, ?_, by omega, by omega⟩
      rw [hfour]
      rfl
    · refine ⟨0x80, 0xBF, ?_, by omega, by omega⟩
      rw [first, if_neg (by omega), if_neg (by omega), if_neg (by omega), if_neg (by omega),
        if_neg (by omega), if_neg (by omega), if_neg (by omega), if_pos (by omega)]
      simp

theorem scan_encodeChar (c : Char) (rest : List Nat) :
    scan .between (encodeChar c ++ rest) = c :: scan .between rest := by
  have hvalid := toNat_cases c
  unfold encodeChar
  by_cases hone : c.toNat < 0x80
  · rw [if_pos hone, singleton_append, scan_cons, next, first, if_pos hone, Char.ofNat_toNat]
    rfl
  by_cases htwo : c.toNat < 0x800
  · have hvalue : (0xC0 + c.toNat / 64 - 0xC0) * 64 + (0x80 + c.toNat % 64 - 0x80) = c.toNat := by
      omega
    rw [if_neg hone, if_pos htwo, cons_append, singleton_append, scan_cons, next, first,
      if_neg (by omega), if_pos (by omega), scan_cons, next_last (by omega), hvalue,
      Char.ofNat_toNat]
    rfl
  by_cases hthree : c.toNat < 0x10000
  · obtain ⟨low, high, hfirst, hbounds⟩ := first_of_three (by omega) hthree (by omega)
    have hvalue : (c.toNat / 4096 * 64 + (0x80 + c.toNat / 64 % 64 - 0x80)) * 64
        + (0x80 + c.toNat % 64 - 0x80) = c.toNat := by omega
    rw [if_neg hone, if_neg htwo, if_pos hthree, cons_append, cons_append,
      singleton_append, scan_cons, next, hfirst, scan_cons, next_within 0 hbounds, scan_cons,
      next_last (by omega), hvalue, Char.ofNat_toNat]
    rfl
  · obtain ⟨low, high, hfirst, hbounds⟩ := first_of_four (Nat.not_lt.mp hthree) (by omega)
    have hvalue : ((c.toNat / 262144 * 64 + (0x80 + c.toNat / 4096 % 64 - 0x80)) * 64
        + (0x80 + c.toNat / 64 % 64 - 0x80)) * 64 + (0x80 + c.toNat % 64 - 0x80) = c.toNat := by
      omega
    rw [if_neg hone, if_neg htwo, if_neg hthree, cons_append, cons_append,
      cons_append, singleton_append, scan_cons, next, hfirst, scan_cons,
      next_within 1 hbounds, scan_cons, next_within 0 (by omega), scan_cons, next_last (by omega),
      hvalue, Char.ofNat_toNat]
    rfl

/-- **What was written as UTF-8 is read back.** -/
theorem decode_encode (text : List Char) : decode (encode text) = text := by
  induction text with
  | nil => rfl
  | cons c rest ih =>
    rw [encode, flatMap_cons, decode, scan_encodeChar]
    exact congrArg (c :: ·) ih

/-! ## Octets are read as some text -/

theorem scan_within_ne_nil (octets : List Nat) (low high more value : Nat) :
    scan (.within low high more value) octets ≠ [] := by
  induction octets generalizing low high more value with
  | nil => simp [scan]
  | cons octet rest ih =>
    rw [scan_cons]
    by_cases h : low ≤ octet ∧ octet ≤ high
    · cases more with
      | zero => simp [next_last h]
      | succ more =>
        rw [next_within more h]
        exact ih _ _ _ _
    · simp [next, h]

theorem first_cases (octet : Nat) : (first octet).1 ≠ []
      ∨ ∃ low high more value, (first octet).2 = .within low high more value := by
  unfold first
  split_ifs <;> simp

theorem decode_ne_nil {octets : List Nat} (h : octets ≠ []) : decode octets ≠ [] := by
  cases octets with
  | nil => exact absurd rfl h
  | cons octet rest =>
    rw [decode, scan_cons]
    change (first octet).1 ++ scan (first octet).2 rest ≠ []
    rcases first_cases octet with hread | hwithin
    · simp [hread]
    obtain ⟨low, high, more, value, hscan⟩ := hwithin
    rw [hscan]
    simp [scan_within_ne_nil]

end NewsCraft.Lib.Utf8
