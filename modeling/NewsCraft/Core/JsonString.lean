import NewsCraft.Core.Basic
import NewsCraft.Lib.Utf8

/-!
# JSON strings

How `json.dumps` writes a text: in ASCII, with other characters as UTF-16 code units. A
written string ends where its text ends, so strings written one after the other can be told
apart.
-/

namespace NewsCraft.JsonString

open Lib List

/-- The characters with an escape of two letters, and the second of them. -/
def shortEscapes : List (Char × Char) :=
  [('"', '"'), ('\\', '\\'), ('\n', 'n'), ('\r', 'r'), ('\t', 't'), ('\x0c', 'f'), ('\x08', 'b')]

def shortEscape (c : Char) : Option Char := (shortEscapes.find? fun pair => pair.1 = c).map Prod.snd

/-- `'\\u{0:04x}'`. -/
def unicodeEscape (unit : Nat) : List Char := '\\' :: 'u' :: hexDigits 4 unit

/-- `ESCAPE_ASCII`, of one character. -/
def escapeChar (c : Char) : List Char :=
  match shortEscape c with
  | some letter => ['\\', letter]
  | none =>
    if 32 ≤ c.toNat ∧ c.toNat ≤ 126 then [c]
    else if c.toNat < 0x10000 then unicodeEscape c.toNat
    else
      unicodeEscape (0xD800 + (c.toNat - 0x10000) / 1024)
        ++ unicodeEscape (0xDC00 + (c.toNat - 0x10000) % 1024)

def escape (text : List Char) : List Char := text.flatMap escapeChar

def jsonString (text : List Char) : List Char := '"' :: escape text ++ ['"']

/-! ## Reading it back -/

inductive Escaped (c : Char) : Prop where
  | short (letter : Char) (hmem : (c, letter) ∈ shortEscapes) (h : escapeChar c = ['\\', letter])
  | plain (hbackslash : c ≠ '\\') (hquote : c ≠ '"') (h : escapeChar c = [c])
  | unit (hlt : c.toNat < 0x10000) (h : escapeChar c = unicodeEscape c.toNat)
  | pair (hle : 0x10000 ≤ c.toNat)
      (h : escapeChar c = unicodeEscape (0xD800 + (c.toNat - 0x10000) / 1024)
        ++ unicodeEscape (0xDC00 + (c.toNat - 0x10000) % 1024))

theorem escaped (c : Char) : Escaped c := by
  cases hshort : shortEscape c with
  | some letter =>
    obtain ⟨pair, hfind, rfl⟩ := Option.map_eq_some_iff.mp hshort
    have hkey : pair.1 = c := by simpa using find?_some hfind
    refine .short pair.2 ?_ ?_
    · rw [← hkey]
      exact mem_of_find?_eq_some hfind
    · rw [escapeChar, shortEscape, hfind]
      rfl
  | none =>
    have hnone : ∀ pair ∈ shortEscapes, pair.1 ≠ c := by
      intro pair hpair
      unfold shortEscape at hshort
      rw [Option.map_eq_none_iff, find?_eq_none] at hshort
      simpa using hshort pair hpair
    by_cases hprintable : 32 ≤ c.toNat ∧ c.toNat ≤ 126
    · refine .plain (fun heq => ?_) (fun heq => ?_) ?_
      · exact hnone ('\\', '\\') (by decide) heq.symm
      · exact hnone ('"', '"') (by decide) heq.symm
      rw [escapeChar, hshort]
      exact if_pos hprintable
    · by_cases hlt : c.toNat < 0x10000
      · refine .unit hlt ?_
        rw [escapeChar, hshort]
        rw [if_neg hprintable, if_pos hlt]
      · refine .pair (Nat.not_lt.mp hlt) ?_
        rw [escapeChar, hshort]
        rw [if_neg hprintable, if_neg hlt]

theorem unicodeEscape_append_inj {m n : Nat} (hm : m < 0x10000) (hn : n < 0x10000)
    {rest rest' : List Char} (h : unicodeEscape m ++ rest = unicodeEscape n ++ rest') :
    m = n ∧ rest = rest' := by
  have hlength : (unicodeEscape m).length = (unicodeEscape n).length := by
    simp [unicodeEscape, length_hexDigits]
  obtain ⟨hdigits, hrest⟩ := append_inj h hlength
  have hm' : m < hexValues 4 := hm
  have hn' : n < hexValues 4 := hn
  refine ⟨hexDigits_injective hm' hn' ?_, hrest⟩
  exact (List.cons.inj (List.cons.inj hdigits).2).2

theorem eq_of_toNat_eq {c d : Char} (h : c.toNat = d.toNat) : c = d := by
  rw [← Char.ofNat_toNat c, ← Char.ofNat_toNat d, h]

theorem letter_ne_u : ∀ pair ∈ shortEscapes, pair.2 ≠ 'u' := by decide

theorem letter_injective :
    ∀ pair ∈ shortEscapes, ∀ other ∈ shortEscapes, pair.2 = other.2 → pair = other := by decide

theorem escapeChar_append_inj {c d : Char} {rest rest' : List Char}
    (h : escapeChar c ++ rest = escapeChar d ++ rest') : c = d ∧ rest = rest' := by
  have hc := Utf8.toNat_cases c
  have hd := Utf8.toNat_cases d
  cases escaped c with
  | short letter hmem hc' =>
    cases escaped d with
    | short letter' hmem' hd' =>
      rw [hc', hd'] at h
      simp only [cons_append, nil_append, List.cons.injEq, true_and] at h
      have hpair := letter_injective _ hmem _ hmem' h.1
      exact ⟨congrArg Prod.fst hpair, h.2⟩
    | plain hbackslash _ hd' =>
      rw [hc', hd'] at h
      exact absurd (List.cons.inj h).1.symm hbackslash
    | unit _ hd' | pair _ hd' =>
      rw [hc', hd'] at h
      exact absurd (List.cons.inj (List.cons.inj h).2).1 (letter_ne_u _ hmem)
  | plain hbackslash hquote hc' =>
    cases escaped d with
    | short _ _ hd' | unit _ hd' | pair _ hd' =>
      rw [hc', hd'] at h
      exact absurd (List.cons.inj h).1 hbackslash
    | plain _ _ hd' =>
      rw [hc', hd'] at h
      exact List.cons.inj h
  | unit hlt hc' =>
    cases escaped d with
    | short letter' hmem' hd' =>
      rw [hc', hd'] at h
      exact absurd (List.cons.inj (List.cons.inj h).2).1.symm (letter_ne_u _ hmem')
    | plain hbackslash _ hd' =>
      rw [hc', hd'] at h
      exact absurd (List.cons.inj h).1.symm hbackslash
    | unit hlt' hd' =>
      rw [hc', hd'] at h
      obtain ⟨heq, hrest⟩ := unicodeEscape_append_inj hlt hlt' h
      exact ⟨eq_of_toNat_eq heq, hrest⟩
    | pair hle hd' =>
      -- a surrogate is no character
      rw [hc', hd', append_assoc] at h
      have heq := (unicodeEscape_append_inj hlt (by omega) h).1
      omega
  | pair hle hc' =>
    cases escaped d with
    | short letter' hmem' hd' =>
      rw [hc', hd'] at h
      exact absurd (List.cons.inj (List.cons.inj h).2).1.symm (letter_ne_u _ hmem')
    | plain hbackslash _ hd' =>
      rw [hc', hd'] at h
      exact absurd (List.cons.inj h).1.symm hbackslash
    | unit hlt' hd' =>
      rw [hc', hd', append_assoc] at h
      have heq := (unicodeEscape_append_inj (by omega) hlt' h).1
      omega
    | pair hle' hd' =>
      rw [hc', hd', append_assoc, append_assoc] at h
      obtain ⟨hhigh, hlater⟩ := unicodeEscape_append_inj (by omega) (by omega) h
      obtain ⟨hlow, hrest⟩ := unicodeEscape_append_inj (by omega) (by omega) hlater
      refine ⟨eq_of_toNat_eq ?_, hrest⟩
      omega

theorem escapeChar_append_ne_quote (c : Char) (rest rest' : List Char) :
    escapeChar c ++ rest ≠ '"' :: rest' := by
  intro h
  cases escaped c with
  | short _ _ hc | unit _ hc | pair _ hc =>
    rw [hc] at h
    exact absurd (List.cons.inj h).1 (by decide)
  | plain _ hquote hc =>
    rw [hc] at h
    exact hquote (List.cons.inj h).1

/-- **A written string ends where its text ends.** -/
theorem jsonString_append_inj {text text' rest rest' : List Char}
    (h : jsonString text ++ rest = jsonString text' ++ rest') : text = text' ∧ rest = rest' := by
  simp only [jsonString, cons_append, append_assoc, nil_append, List.cons.injEq, true_and] at h
  induction text generalizing text' with
  | nil =>
    cases text' with
    | nil => exact ⟨rfl, (List.cons.inj h).2⟩
    | cons c later =>
      simp only [escape, flatMap_nil, flatMap_cons, nil_append, append_assoc] at h
      exact absurd h.symm (escapeChar_append_ne_quote c _ _)
  | cons c later ih =>
    cases text' with
    | nil =>
      simp only [escape, flatMap_nil, flatMap_cons, nil_append, append_assoc] at h
      exact absurd h (escapeChar_append_ne_quote c _ _)
    | cons d later' =>
      simp only [escape, flatMap_cons, append_assoc] at h
      obtain ⟨rfl, hlater⟩ := escapeChar_append_inj h
      obtain ⟨rfl, hrest⟩ := ih hlater
      exact ⟨rfl, hrest⟩

end NewsCraft.JsonString
