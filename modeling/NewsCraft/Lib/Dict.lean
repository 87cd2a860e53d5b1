import Mathlib.Data.List.Nodup
import Mathlib.Tactic.Common

/-!
# Dictionaries that keep the order of insertion

Assigning to a key that is there replaces its value in place, and a new key goes to the end.
Rebuilding a dictionary entry by entry gives it back exactly when every entry is kept: a key
that turns into another one either collides with it, and the result is too short, or stands
where the old one was.
-/

namespace NewsCraft.Lib.Dict

open List

universe u v

variable {κ : Type u} {α : Type v}

theorem map_eq_self_iff {xs : List α} {g : α → α} : xs.map g = xs ↔ ∀ x ∈ xs, g x = x := by
  have h := map_inj_left (f := g) (g := id) (l := xs)
  rwa [map_id] at h

/-! ## What lasts -/

/-- Every element that no later one of the same name replaces satisfies the property. -/
def Lasting {β : Type*} (name : β → κ) (p : β → Prop) : List β → Prop
  | [] => True
  | x :: xs => (name x ∈ xs.map name ∨ p x) ∧ Lasting name p xs

variable {β : Type*}

theorem lasting_iff {name : β → κ} {p p' : β → Prop} {xs : List β} (h : ∀ x ∈ xs, p x ↔ p' x) :
    Lasting name p xs ↔ Lasting name p' xs := by
  induction xs with
  | nil => rfl
  | cons x xs ih =>
    rw [Lasting, Lasting, h x mem_cons_self, ih fun y hy => h y (mem_cons_of_mem x hy)]

theorem exists_of_lasting {name : β → κ} {p : β → Prop} {xs : List β} (hne : xs ≠ [])
    (h : Lasting name p xs) : ∃ x ∈ xs, p x := by
  induction xs with
  | nil => exact absurd rfl hne
  | cons x xs ih =>
    rw [Lasting] at h
    rcases h with ⟨hlater | hx, hrest⟩
    · have hne : xs ≠ [] := by
        rintro rfl
        exact not_mem_nil hlater
      obtain ⟨y, hy, hp⟩ := ih hne hrest
      exact ⟨y, mem_cons_of_mem x hy, hp⟩
    · exact ⟨x, mem_cons_self, hx⟩

theorem lasting_map {g : β → κ × α} {p : κ × α → Prop} {xs : List β} :
    Lasting Prod.fst p (xs.map g) ↔ Lasting (fun x => (g x).1) (fun x => p (g x)) xs := by
  induction xs with
  | nil => rfl
  | cons x xs ih => rw [map_cons, Lasting, Lasting, ih, map_map]; rfl

/-- The keys of a dictionary are distinct. -/
def Distinct (d : List (κ × α)) : Prop := (d.map Prod.fst).Nodup

theorem distinct_nil : Distinct ([] : List (κ × α)) := nodup_nil

variable [DecidableEq κ]

/-! ## One assignment -/

/-- `d[key] = value`. -/
def put : List (κ × α) → κ → α → List (κ × α)
  | [], key, value => [(key, value)]
  | entry :: d, key, value =>
    if entry.1 = key then (key, value) :: d else entry :: put d key value

/-- The entries assigned one after another. -/
def build (d : List (κ × α)) (entries : List (κ × α)) : List (κ × α) :=
  entries.foldl (fun d entry => put d entry.1 entry.2) d

@[simp] theorem build_nil (d : List (κ × α)) : build d [] = d := rfl

@[simp] theorem build_cons (d : List (κ × α)) (entry : κ × α) (entries : List (κ × α)) :
    build d (entry :: entries) = build (put d entry.1 entry.2) entries := rfl

variable {d : List (κ × α)} {key : κ}

theorem put_of_not_mem (h : key ∉ d.map Prod.fst) (value : α) :
    put d key value = d ++ [(key, value)] := by
  induction d with
  | nil => rfl
  | cons entry d ih =>
    rw [map_cons, mem_cons, not_or] at h
    rw [put, if_neg (Ne.symm h.1), ih h.2, cons_append]

theorem keys_put_of_mem (h : key ∈ d.map Prod.fst) (value : α) :
    (put d key value).map Prod.fst = d.map Prod.fst := by
  induction d with
  | nil => cases h
  | cons entry d ih =>
    rw [put]
    by_cases hkey : entry.1 = key
    · rw [if_pos hkey, map_cons, map_cons, hkey]
    rw [map_cons, mem_cons] at h
    rcases h with h | h
    · exact absurd h.symm hkey
    · rw [if_neg hkey, map_cons, map_cons, ih h]

theorem keys_put (d : List (κ × α)) (key : κ) (value : α) :
    (put d key value).map Prod.fst = d.map Prod.fst
      ∨ key ∉ d.map Prod.fst ∧ put d key value = d ++ [(key, value)] := by
  by_cases h : key ∈ d.map Prod.fst
  · exact .inl (keys_put_of_mem h value)
  · exact .inr ⟨h, put_of_not_mem h value⟩

variable {value : α}

theorem mem_keys_put {k : κ} :
    k ∈ (put d key value).map Prod.fst ↔ k = key ∨ k ∈ d.map Prod.fst := by
  by_cases h : key ∈ d.map Prod.fst
  · rw [keys_put_of_mem h]
    constructor
    · exact .inr
    rintro (rfl | hk)
    · exact h
    · exact hk
  · rw [put_of_not_mem h, map_append, mem_append, or_comm]
    simp

theorem Distinct.put (h : Distinct d) (key : κ) (value : α) : Distinct (put d key value) := by
  rcases keys_put d key value with hkeys | ⟨hnew, heq⟩
  · rw [Distinct, hkeys]
    exact h
  · rw [Distinct, heq, map_append, nodup_append]
    refine ⟨h, nodup_singleton _, ?_⟩
    rintro k hk k' hk' rfl
    rw [map_singleton, mem_singleton] at hk'
    exact hnew (hk' ▸ hk : (key, value).1 ∈ _)

theorem length_put_of_mem (h : key ∈ d.map Prod.fst) (value : α) :
    (put d key value).length = d.length := by
  have hkeys := congrArg List.length (keys_put_of_mem h value)
  rwa [length_map, length_map] at hkeys

theorem length_put_le (d : List (κ × α)) (key : κ) (value : α) :
    (put d key value).length ≤ d.length + 1 := by
  by_cases h : key ∈ d.map Prod.fst
  · rw [length_put_of_mem h]
    omega
  · have hlength := congrArg List.length (put_of_not_mem h value)
    rw [length_append, length_singleton] at hlength
    omega

variable {entry : κ × α}

theorem mem_put (h : Distinct d) :
    entry ∈ put d key value ↔ entry = (key, value) ∨ entry ∈ d ∧ entry.1 ≠ key := by
  induction d with
  | nil => simp [put]
  | cons first d ih =>
    rw [Distinct, map_cons, nodup_cons] at h
    have hrest : ∀ entry ∈ d, entry.1 ≠ first.1 := by
      intro entry hmem heq
      exact h.1 (heq ▸ mem_map_of_mem hmem)
    rw [Dict.put]
    by_cases hkey : first.1 = key
    · rw [if_pos hkey, mem_cons, mem_cons]
      constructor
      · rintro (rfl | hmem)
        · exact .inl rfl
        · exact .inr ⟨.inr hmem, hkey ▸ hrest entry hmem⟩
      · rintro (rfl | ⟨rfl | hmem, hne⟩)
        · exact .inl rfl
        · exact absurd hkey hne
        · exact .inr hmem
    · rw [if_neg hkey, mem_cons, ih h.2, mem_cons]
      constructor
      · rintro (rfl | rfl | ⟨hmem, hne⟩)
        · exact .inr ⟨.inl rfl, hkey⟩
        · exact .inl rfl
        · exact .inr ⟨.inr hmem, hne⟩
      · rintro (rfl | ⟨rfl | hmem, hne⟩)
        · exact .inr (.inl rfl)
        · exact .inl rfl
        · exact .inr (.inr ⟨hmem, hne⟩)

theorem put_of_mem (h : Distinct d) (hmem : (key, value) ∈ d) : put d key value = d := by
  induction d with
  | nil => cases hmem
  | cons entry d ih =>
    rw [Distinct, map_cons, nodup_cons] at h
    rw [Dict.put]
    rcases mem_cons.mp hmem with rfl | hmem
    · rw [if_pos rfl]
    have hne : entry.1 ≠ key := fun heq => h.1 (heq ▸ mem_map_of_mem hmem)
    rw [if_neg hne, ih h.2 hmem]

/-! ## Many assignments -/

theorem Distinct.build (h : Distinct d) (entries : List (κ × α)) : Distinct (build d entries) := by
  induction entries generalizing d with
  | nil => exact h
  | cons entry entries ih => exact ih (h.put _ _)

variable {entries : List (κ × α)}

theorem mem_keys_build {k : κ} :
    k ∈ (build d entries).map Prod.fst ↔ k ∈ d.map Prod.fst ∨ k ∈ entries.map Prod.fst := by
  induction entries generalizing d with
  | nil => simp
  | cons entry entries ih =>
    rw [build_cons, ih, mem_keys_put, map_cons, mem_cons]
    constructor
    · rintro ((rfl | h) | h)
      · exact .inr (.inl rfl)
      · exact .inl h
      · exact .inr (.inr h)
    · rintro (h | rfl | h)
      · exact .inl (.inr h)
      · exact .inl (.inl rfl)
      · exact .inr h

theorem mem_of_mem_put (h : entry ∈ put d key value) : entry = (key, value) ∨ entry ∈ d := by
  induction d with
  | nil => exact .inl (mem_singleton.mp h)
  | cons first d ih =>
    rw [put] at h
    by_cases hkey : first.1 = key
    · rw [if_pos hkey] at h
      exact (mem_cons.mp h).imp_right (mem_cons_of_mem _)
    · rw [if_neg hkey] at h
      rcases mem_cons.mp h with heq | hmem
      · exact .inr (heq ▸ mem_cons_self)
      · exact (ih hmem).imp_right (mem_cons_of_mem _)

theorem mem_of_mem_build (h : entry ∈ build d entries) : entry ∈ d ∨ entry ∈ entries := by
  induction entries generalizing d with
  | nil => exact .inl h
  | cons first entries ih =>
    rcases ih h with hput | hmem
    · rcases mem_of_mem_put hput with heq | hmem
      · exact .inr (heq ▸ mem_cons_self)
      · exact .inl hmem
    · exact .inr (mem_cons_of_mem _ hmem)

theorem length_build_le (d entries : List (κ × α)) :
    (build d entries).length ≤ d.length + entries.length := by
  induction entries generalizing d with
  | nil => simp
  | cons entry entries ih =>
    have hput := length_put_le d entry.1 entry.2
    have hbuild := ih (put d entry.1 entry.2)
    rw [build_cons, length_cons]
    omega

theorem build_of_length (h : (build d entries).length = d.length + entries.length) :
    build d entries = d ++ entries := by
  induction entries generalizing d with
  | nil => simp
  | cons entry entries ih =>
    have hbuild := length_build_le (put d entry.1 entry.2) entries
    rw [build_cons] at h ⊢
    rw [length_cons] at h
    by_cases hmem : entry.1 ∈ d.map Prod.fst
    · rw [length_put_of_mem hmem] at hbuild
      omega
    · rw [put_of_not_mem hmem] at h hbuild ⊢
      have hlength : (d ++ [(entry.1, entry.2)]).length = d.length + 1 := by
        rw [length_append, length_singleton]
      rw [ih (by omega), append_assoc, singleton_append]

theorem build_of_distinct (h : Distinct (d ++ entries)) : build d entries = d ++ entries := by
  induction entries generalizing d with
  | nil => simp
  | cons entry entries ih =>
    have hnew : entry.1 ∉ d.map Prod.fst := by
      rw [Distinct, map_append, nodup_append] at h
      intro hmem
      exact h.2.2 _ hmem _ mem_cons_self rfl
    have happend : d ++ entry :: entries = (d ++ [(entry.1, entry.2)]) ++ entries := by simp
    rw [happend] at h ⊢
    rw [build_cons, put_of_not_mem hnew, ih h]

theorem filter_put_self (d : List (κ × α)) (key : κ) (value : α) :
    (put d key value).filter (fun entry => entry.1 ≠ key) = d.filter fun entry => entry.1 ≠ key := by
  induction d with
  | nil => simp [put]
  | cons entry d ih =>
    rw [put]
    by_cases hkey : entry.1 = key
    · rw [if_pos hkey, filter_cons_of_neg (by simp), filter_cons_of_neg (by simpa)]
    · rw [if_neg hkey, filter_cons_of_pos (by simpa), filter_cons_of_pos (by simpa), ih]

theorem filter_put_of_ne {k : κ} (h : key ≠ k) (d : List (κ × α)) (value : α) :
    (put d key value).filter (fun entry => entry.1 ≠ k)
      = put (d.filter fun entry => entry.1 ≠ k) key value := by
  induction d with
  | nil => simp [put, h]
  | cons entry d ih =>
    rw [put]
    by_cases hkey : entry.1 = key
    · rw [if_pos hkey, filter_cons_of_pos (by simpa), filter_cons_of_pos (by simpa [hkey]),
        put, if_pos hkey]
    · rw [if_neg hkey]
      by_cases hk : entry.1 = k
      · rw [filter_cons_of_neg (by simpa), filter_cons_of_neg (by simpa), ih]
      rw [filter_cons_of_pos (by simpa), filter_cons_of_pos (by simpa), put, if_neg hkey, ih]

theorem filter_build (k : κ) (d entries : List (κ × α)) :
    (build d entries).filter (fun entry => entry.1 ≠ k)
      = build (d.filter fun entry => entry.1 ≠ k) (entries.filter fun entry => entry.1 ≠ k) := by
  induction entries generalizing d with
  | nil => rfl
  | cons entry entries ih =>
    rw [build_cons, ih]
    by_cases hk : entry.1 = k
    · rw [filter_cons_of_neg (by simpa), ← hk, filter_put_self]
    · rw [filter_cons_of_pos (by simpa), build_cons, filter_put_of_ne hk]

variable {g : κ × α → κ × α}

/-- Besides the key, the first entries are what they were, whatever is made of them. -/
theorem filter_map_take_put (hkey : ∀ value, (g (key, value)).1 = key) (d : List (κ × α))
    (value : α) (count : Nat) :
    (((put d key value).take count).map g).filter (fun entry => entry.1 ≠ key)
      = ((d.take count).map g).filter fun entry => entry.1 ≠ key := by
  induction d generalizing count with
  | nil =>
    cases count with
    | zero => rfl
    | succ count => simp [put, hkey]
  | cons entry d ih =>
    cases count with
    | zero => rfl
    | succ count =>
      rw [put]
      by_cases hentry : entry.1 = key
      · have hown : (g entry).1 = key := by
          rw [← hkey entry.2, ← hentry]
        rw [if_pos hentry, take_succ_cons, take_succ_cons, map_cons,
          map_cons, filter_cons_of_neg (by simpa using hkey value),
          filter_cons_of_neg (by simpa using hown)]
      · rw [if_neg hentry, take_succ_cons, take_succ_cons, map_cons,
          map_cons, filter_cons, filter_cons, ih]

theorem find?_put_self (d : List (κ × α)) (key : κ) (value : α) :
    (put d key value).find? (fun entry => entry.1 = key) = some (key, value) := by
  induction d with
  | nil => simp [put]
  | cons entry d ih =>
    rw [put]
    by_cases hkey : entry.1 = key
    · rw [if_pos hkey, find?_cons_of_pos (by simp)]
    · rw [if_neg hkey, find?_cons_of_neg (by simpa), ih]

/-- What is left of an entry is what no later one of the same key replaces. -/
theorem mem_build (h : Distinct d) : entry ∈ build d entries ↔
      (entry ∈ d ∧ entry.1 ∉ entries.map Prod.fst) ∨ entry ∈ build [] entries := by
  induction entries generalizing d with
  | nil => simp
  | cons first entries ih =>
    have hsingle : Distinct [(first.1, first.2)] := nodup_singleton _
    rw [build_cons, ih (h.put _ _), mem_put h, build_cons, Dict.put, ih hsingle,
      mem_singleton, map_cons, mem_cons, not_or]
    constructor
    · rintro (⟨heq | ⟨hmem, hne⟩, hlater⟩ | hbuild)
      · exact .inr (.inl ⟨heq, hlater⟩)
      · exact .inl ⟨hmem, hne, hlater⟩
      · exact .inr (.inr hbuild)
    · rintro (⟨hmem, hne, hlater⟩ | ⟨heq, hlater⟩ | hbuild)
      · exact .inl ⟨.inr ⟨hmem, hne⟩, hlater⟩
      · exact .inl ⟨.inl heq, hlater⟩
      · exact .inr hbuild

theorem forall_mem_build {p : κ × α → Prop} :
    (∀ entry ∈ build [] entries, p entry) ↔ Lasting Prod.fst p entries := by
  induction entries with
  | nil => simp [Lasting]
  | cons first entries ih =>
    have hsingle : Distinct [(first.1, first.2)] := nodup_singleton _
    rw [Lasting, ← ih, build_cons, Dict.put]
    constructor
    · intro h
      constructor
      · by_cases hlater : first.1 ∈ entries.map Prod.fst
        · exact .inl hlater
        exact .inr (h first ((mem_build hsingle).mpr (.inl ⟨mem_singleton_self _, hlater⟩)))
      · intro entry hmem
        exact h entry ((mem_build hsingle).mpr (.inr hmem))
    · rintro ⟨hfirst, hrest⟩ entry hmem
      rcases (mem_build hsingle).mp hmem with ⟨hmem, hlater⟩ | hmem
      · rw [mem_singleton] at hmem
        subst hmem
        exact hfirst.resolve_left hlater
      · exact hrest entry hmem

/-! ## Rebuilding a dictionary -/

/-- **A dictionary is rebuilt from its entries' images exactly when every entry is kept.** -/
theorem build_map_eq_self_iff (h : Distinct d) :
    build [] (d.map g) = d ↔ ∀ entry ∈ d, g entry = entry := by
  constructor
  · intro heq
    have hlength : (build [] (d.map g)).length = ([] : List (κ × α)).length + (d.map g).length := by
      rw [heq, length_map, length_nil, Nat.zero_add]
    rw [build_of_length hlength, nil_append] at heq
    exact map_eq_self_iff.mp heq
  · intro hkept
    have hmap : d.map g = d := map_eq_self_iff.mpr hkept
    rw [hmap, build_of_distinct (by rwa [nil_append]), nil_append]

/-- An image with one entry put back is the dictionary exactly when the others are kept. -/
theorem put_map_eq_iff (h : Distinct d) (hmem : (key, value) ∈ d)
    (hkey : ∀ entry, entry.1 = key → (g entry).1 = key) :
    put (d.map g) key value = d ↔ ∀ entry ∈ d, entry.1 ≠ key → g entry = entry := by
  induction d with
  | nil => cases hmem
  | cons first d ih =>
    have hdistinct := h
    rw [Distinct, map_cons, nodup_cons] at h
    rw [map_cons, Dict.put]
    by_cases hfirst : first.1 = key
    · have heq : first = (key, value) := by
        rcases mem_cons.mp hmem with heq | hmem
        · exact heq.symm
        · exact absurd (hfirst ▸ mem_map_of_mem hmem) h.1
      have hothers : ∀ entry ∈ d, entry.1 ≠ key := by
        intro entry hentry hname
        exact h.1 (hfirst.trans hname.symm ▸ mem_map_of_mem hentry)
      rw [if_pos (hkey first hfirst), heq, List.cons.injEq]
      constructor
      · rintro ⟨-, hrest⟩ entry hentry hne
        rcases mem_cons.mp hentry with rfl | hentry
        · exact absurd rfl hne
        · exact map_eq_self_iff.mp hrest entry hentry
      · intro hkept
        refine ⟨rfl, map_eq_self_iff.mpr fun entry hentry => ?_⟩
        exact hkept entry (mem_cons_of_mem _ hentry) (hothers entry hentry)
    · have hmem : (key, value) ∈ d := by
        rcases mem_cons.mp hmem with rfl | hmem
        · exact absurd rfl hfirst
        · exact hmem
      by_cases himage : (g first).1 = key
      · -- the image stands in the way of the entry, so neither side holds
        have hmoved : g first ≠ first := fun heq => hfirst (heq ▸ himage)
        rw [if_pos himage]
        constructor
        · intro heq
          rw [List.cons.injEq] at heq
          exact absurd (heq.1 ▸ rfl) hfirst
        · intro hkept
          exact absurd (hkept first mem_cons_self hfirst) hmoved
      · rw [if_neg himage, List.cons.injEq, ih h.2 hmem, forall_mem_cons]
        simp only [ne_eq, hfirst, not_false_eq_true, true_implies]

/-- Where one entry is put back at the end, a dictionary is rebuilt when the others are kept. -/
theorem put_build_take_iff (h : Distinct d) {count : Nat} (hcount : d.length ≤ count)
    (hkey : ∀ entry, entry.1 = key → (g entry).1 = key) :
    put (build [] (((put d key value).take count).map g)) key value = put d key value
      ↔ ∀ entry ∈ d, entry.1 ≠ key → g entry = entry := by
  have hput : Distinct (put d key value) := h.put key value
  have hmem : (key, value) ∈ put d key value := (mem_put h).mpr (.inl rfl)
  by_cases hfit : (put d key value).length ≤ count
  · have hothers : (∀ entry ∈ put d key value, entry.1 ≠ key → g entry = entry)
        ↔ ∀ entry ∈ d, entry.1 ≠ key → g entry = entry := by
      constructor
      · intro hkept entry hentry hne
        exact hkept entry ((mem_put h).mpr (.inr ⟨hentry, hne⟩)) hne
      · intro hkept entry hentry hne
        rcases (mem_put h).mp hentry with rfl | ⟨hentry, -⟩
        · exact absurd rfl hne
        · exact hkept entry hentry hne
    rw [take_of_length_le hfit, ← hothers, ← put_map_eq_iff hput hmem hkey]
    constructor
    · intro heq
      have himage : key ∈ (build [] ((put d key value).map g)).map Prod.fst := by
        refine mem_keys_build.mpr (.inr (mem_map.mpr ⟨g (key, value), ?_, hkey _ rfl⟩))
        exact mem_map_of_mem hmem
      have hlength := congrArg List.length heq
      rw [length_put_of_mem himage] at hlength
      rwa [build_of_length (by simpa using hlength), nil_append] at heq
    · intro heq
      have hkept := (put_map_eq_iff hput hmem hkey).mp heq
      have hkeys : ((put d key value).map g).map Prod.fst = (put d key value).map Prod.fst := by
        rw [map_map]
        refine map_congr_left fun entry hentry => ?_
        by_cases hne : entry.1 = key
        · exact (hkey entry hne).trans hne.symm
        · exact congrArg Prod.fst (hkept entry hentry hne)
      have hdistinct : Distinct ([] ++ (put d key value).map g) := by
        rw [nil_append, Distinct, hkeys]
        exact hput
      rw [build_of_distinct hdistinct, nil_append, heq]
  · have hnew : key ∉ d.map Prod.fst := fun hold => by
      rw [length_put_of_mem hold] at hfit
      omega
    have happend := put_of_not_mem hnew value
    have hlength : d.length = count := by
      rw [happend, length_append, length_singleton] at hfit
      omega
    have hothers : (∀ entry ∈ d, entry.1 ≠ key → g entry = entry) ↔ ∀ entry ∈ d, g entry = entry :=
      forall₂_congr fun entry hentry =>
        ⟨fun hkept => hkept fun heq => hnew (heq ▸ mem_map_of_mem hentry), fun hkept _ => hkept⟩
    rw [happend, take_left' hlength, hothers, ← build_map_eq_self_iff h]
    constructor
    · intro heq
      have hle := length_build_le [] (d.map g)
      have hsize := congrArg List.length heq
      rw [length_append, length_singleton] at hsize
      rw [length_map, length_nil, Nat.zero_add] at hle
      by_cases himage : key ∈ (build [] (d.map g)).map Prod.fst
      · rw [length_put_of_mem himage] at hsize
        omega
      · rw [put_of_not_mem himage] at heq
        exact append_cancel_right heq
    · intro heq
      rw [heq, happend]

end NewsCraft.Lib.Dict
