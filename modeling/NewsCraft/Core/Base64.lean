import Mathlib.Data.List.Basic
import Mathlib.Data.List.DropRight
import NewsCraft.Core.Basic

/-!
# URL-safe base64

`base64.urlsafe_b64encode(data).decode().rstrip("=")`: three bytes are four characters, and
what is left at the end is two or three. Data of one length is told apart by its text.
-/

namespace NewsCraft.Base64

open List

/-- `A-Z`, `a-z`, `0-9`, `-` and `_`. -/
def base64Char (n : Nat) : Char :=
  if n < 26 then Char.ofNat (65 + n)
  else if n < 52 then Char.ofNat (71 + n)
  else if n < 62 then Char.ofNat (n - 4)
  else if n = 62 then '-'
  else '_'

/-- The characters of whole and partial groups, without padding. -/
def sextets : List UInt8 → List Char
  | [] => []
  | [a] => [base64Char (a.toNat / 4), base64Char (a.toNat % 4 * 16)]
  | [a, b] =>
    [base64Char (a.toNat / 4), base64Char (a.toNat % 4 * 16 + b.toNat / 16),
      base64Char (b.toNat % 16 * 4)]
  | a :: b :: c :: data =>
    base64Char (a.toNat / 4) :: base64Char (a.toNat % 4 * 16 + b.toNat / 16)
      :: base64Char (b.toNat % 16 * 4 + c.toNat / 64) :: base64Char (c.toNat % 64)
      :: sextets data

/-- `base64.urlsafe_b64encode`. -/
def urlsafeB64encode (data : List UInt8) : List Char :=
  let text := sextets data
  text ++ List.replicate ((4 - text.length % 4) % 4) '='

/-- `text.rstrip("=")`. -/
def rstripPadding (text : List Char) : List Char := text.rdropWhile (· = '=')

/-! ## Characters -/

theorem base64Char_injective {m n : Nat} (hm : m < 64) (hn : n < 64)
    (h : base64Char m = base64Char n) : m = n := by
  have hall : ∀ i < 64, ∀ j < 64, base64Char i = base64Char j → i = j := by decide +kernel
  exact hall m hm n hn h

theorem base64Char_ne_padding {n : Nat} (h : n < 64) : base64Char n ≠ '=' := by
  have hall : ∀ i < 64, base64Char i ≠ '=' := by decide +kernel
  exact hall n h

theorem mem_sextets {data : List UInt8} {c : Char} (h : c ∈ sextets data) :
    ∃ n < 64, c = base64Char n := by
  induction data using sextets.induct with
  | case1 => cases h
  | case2 a =>
    have ha := a.toNat_lt
    simp only [sextets, mem_cons, not_mem_nil, or_false] at h
    rcases h with hc | hc
    · exact ⟨_, by omega, hc⟩
    · exact ⟨_, by omega, hc⟩
  | case3 a b =>
    have ha := a.toNat_lt
    have hb := b.toNat_lt
    simp only [sextets, mem_cons, not_mem_nil, or_false] at h
    rcases h with hc | hc | hc
    · exact ⟨_, by omega, hc⟩
    · exact ⟨_, by omega, hc⟩
    · exact ⟨_, by omega, hc⟩
  | case4 a b c' data ih =>
    have ha := a.toNat_lt
    have hb := b.toNat_lt
    have hc' := c'.toNat_lt
    simp only [sextets, mem_cons] at h
    rcases h with hc | hc | hc | hc | hc
    · exact ⟨_, by omega, hc⟩
    · exact ⟨_, by omega, hc⟩
    · exact ⟨_, by omega, hc⟩
    · exact ⟨_, by omega, hc⟩
    · exact ih hc

theorem length_sextets (data : List UInt8) : (sextets data).length = (4 * data.length + 2) / 3 := by
  induction data using sextets.induct with
  | case1 => rfl
  | case2 _ | case3 _ _ => simp [sextets]
  | case4 a b c data ih =>
    simp only [sextets, length_cons, ih]
    omega

theorem rstripPadding_encode (data : List UInt8) :
    rstripPadding (urlsafeB64encode data) = sextets data := by
  unfold rstripPadding urlsafeB64encode
  dsimp only
  generalize (4 - (sextets data).length % 4) % 4 = count
  have hpadding : List.rdropWhile (fun c => decide (c = '=')) (sextets data) = sextets data := by
    rw [rdropWhile_eq_self_iff]
    intro hne hlast
    obtain ⟨n, hn, heq⟩ := mem_sextets (getLast_mem hne)
    have hc := of_decide_eq_true hlast
    rw [heq] at hc
    exact base64Char_ne_padding hn hc
  induction count with
  | zero => rw [replicate_zero, append_nil, hpadding]
  | succ count ih =>
    rw [replicate_succ', ← append_assoc, rdropWhile_concat_pos _ _ _ (by simp)]
    exact ih

/-! ## Data read off its text -/

theorem exists_three {data : List UInt8} {n : Nat} (h : data.length = n + 1 + 1 + 1) :
    ∃ a b c rest, data = a :: b :: c :: rest := by
  obtain ⟨a, data, rfl⟩ := exists_cons_of_length_eq_add_one h
  rw [length_cons, Nat.add_right_cancel_iff] at h
  obtain ⟨b, data, rfl⟩ := exists_cons_of_length_eq_add_one h
  rw [length_cons, Nat.add_right_cancel_iff] at h
  obtain ⟨c, data, rfl⟩ := exists_cons_of_length_eq_add_one h
  exact ⟨a, b, c, data, rfl⟩

theorem sextets_injective {data other : List UInt8} (hlength : data.length = other.length)
    (h : sextets data = sextets other) : data = other := by
  have hbyte : ∀ {a b : UInt8}, a.toNat = b.toNat → a = b := fun heq => UInt8.toNat_inj.mp heq
  induction data using sextets.induct generalizing other with
  | case1 => exact (eq_nil_of_length_eq_zero hlength.symm).symm
  | case2 a =>
    obtain ⟨a', rfl⟩ := length_eq_one_iff.mp hlength.symm
    have ha := a.toNat_lt
    have ha' := a'.toNat_lt
    simp only [sextets, List.cons.injEq, and_true] at h
    obtain ⟨h₀, h₁⟩ := h
    have heq₀ := base64Char_injective (by omega) (by omega) h₀
    have heq₁ := base64Char_injective (by omega) (by omega) h₁
    rw [hbyte (by omega : a.toNat = a'.toNat)]
  | case3 a b =>
    obtain ⟨a', b', rfl⟩ := length_eq_two.mp hlength.symm
    have ha := a.toNat_lt
    have hb := b.toNat_lt
    have ha' := a'.toNat_lt
    have hb' := b'.toNat_lt
    simp only [sextets, List.cons.injEq, and_true] at h
    obtain ⟨h₀, h₁, h₂⟩ := h
    have heq₀ := base64Char_injective (by omega) (by omega) h₀
    have heq₁ := base64Char_injective (by omega) (by omega) h₁
    have heq₂ := base64Char_injective (by omega) (by omega) h₂
    rw [hbyte (by omega : a.toNat = a'.toNat), hbyte (by omega : b.toNat = b'.toNat)]
  | case4 a b c data ih =>
    obtain ⟨a', b', c', other, rfl⟩ := exists_three hlength.symm
    have ha := a.toNat_lt
    have hb := b.toNat_lt
    have hc := c.toNat_lt
    have ha' := a'.toNat_lt
    have hb' := b'.toNat_lt
    have hc' := c'.toNat_lt
    simp only [sextets, List.cons.injEq] at h
    obtain ⟨h₀, h₁, h₂, h₃, hrest⟩ := h
    have heq₀ := base64Char_injective (by omega) (by omega) h₀
    have heq₁ := base64Char_injective (by omega) (by omega) h₁
    have heq₂ := base64Char_injective (by omega) (by omega) h₂
    have heq₃ := base64Char_injective (by omega) (by omega) h₃
    simp only [length_cons, Nat.add_right_cancel_iff] at hlength
    rw [hbyte (by omega : a.toNat = a'.toNat), hbyte (by omega : b.toNat = b'.toNat),
      hbyte (by omega : c.toNat = c'.toNat), ih hlength hrest]

end NewsCraft.Base64
