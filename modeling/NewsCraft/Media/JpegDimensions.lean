import Mathlib.Data.List.Basic

/-!
# The dimensions of a JPEG

`_jpeg_dimensions` walks from marker to marker until it meets a frame header. What
it reads lies inside the body, whatever the bytes are, and over well-formed segments
it never looks at what a segment holds, so an embedded picture does not mislead it.
-/

namespace NewsCraft.Media

open List

/-! ## The scan -/

inductive Round where
  | next (offset : Nat)
  | finished (dimensions : Option (Nat × Nat))

/-- `set(range(0xC0, 0xC4)) | set(range(0xC5, 0xC8)) | ...`. -/
def sofMarkers : List UInt8 :=
  [0xC0, 0xC1, 0xC2, 0xC3, 0xC5, 0xC6, 0xC7, 0xC9, 0xCA, 0xCB, 0xCD, 0xCE, 0xCF]

/-- `int.from_bytes(body[start:stop], "big")`, or nothing where the slice leaves the body. -/
def bigEndian (body : List UInt8) (start stop : Nat) : Option Nat :=
  if stop ≤ body.length then
    some (((body.take stop).drop start).foldl (fun n byte => 256 * n + byte.toNat) 0)
  else none

def skipFill (body : List UInt8) (offset : Nat) : Nat :=
  if h : offset < body.length then
    if body[offset] = 0xFF then skipFill body (offset + 1) else offset
  else offset
termination_by body.length - offset

/-- The width and height of the frame whose segment begins at `offset`. -/
def frameRound (body : List UInt8) (offset : Nat) : Option Round := do
  let width ← bigEndian body (offset + 5) (offset + 7)
  let height ← bigEndian body (offset + 3) (offset + 5)
  return .finished (some (width, height))

/-- The marker at `offset` and its segment; nothing where a read leaves the body. -/
def markerRound (body : List UInt8) (offset : Nat) : Option Round := do
  let marker ← body[offset]?
  let offset := offset + 1
  -- the start and the end of an image open no segment
  if marker = 0xD8 ∨ marker = 0xD9 then return .next offset
  else if body.length < offset + 2 then return .finished none
  else
    let length ← bigEndian body offset (offset + 2)
    if length < 2 ∨ body.length < offset + length then return .finished none
    else if marker ∈ sofMarkers ∧ 7 ≤ length then frameRound body offset
    else return .next (offset + length)

/-- One round of the loop; nothing where a read leaves the body. -/
def scanRound (body : List UInt8) (offset : Nat) : Option Round := do
  if body.length < offset + 4 then return .finished none
  else
    let byte ← body[offset]?
    if byte ≠ 0xFF then return .next (offset + 1)
    else
      let offset := skipFill body offset
      if body.length ≤ offset then return .finished none
      else markerRound body offset

/-- The loop; nothing where a read leaves the body or the rounds run out. -/
def scan (body : List UInt8) : Nat → Nat → Option (Option (Nat × Nat))
  | 0, _ => none
  | rounds + 1, offset => do
    match ← scanRound body offset with
    | .next offset => scan body rounds offset
    | .finished dimensions => return dimensions

/-- `_jpeg_dimensions`; a body has no more rounds than bytes. -/
def jpegDimensions (body : List UInt8) : Option (Option (Nat × Nat)) :=
  if body.length < 4 ∨ body.take 2 ≠ [0xFF, 0xD8] then some none
  else scan body body.length 2

variable {body : List UInt8}

/-! ## Every read lies inside the body -/

theorem bigEndian_inside (start : Nat) {stop : Nat} (h : stop ≤ body.length) :
    ∃ n, bigEndian body start stop = some n := by
  unfold bigEndian
  rw [if_pos h]
  exact ⟨_, rfl⟩

theorem le_skipFill (body : List UInt8) (offset : Nat) : offset ≤ skipFill body offset := by
  fun_induction skipFill body offset with
  | case1 offset _ _ ih => omega
  | case2 => exact Nat.le_refl _
  | case3 => exact Nat.le_refl _

/-- A round reads inside the body, and one that is not the last advances inside it. -/
def Advances (body : List UInt8) (offset : Nat) (round : Option Round) : Prop :=
  ∃ r, round = some r ∧ ∀ later, r = .next later → offset < later ∧ later ≤ body.length

theorem Advances.finished (offset : Nat) (dimensions : Option (Nat × Nat)) :
    Advances body offset (some (.finished dimensions)) :=
  ⟨_, rfl, fun _ h => nomatch h⟩

theorem Advances.next {offset later : Nat} (h : offset < later) (hle : later ≤ body.length) :
    Advances body offset (some (.next later)) := by
  refine ⟨_, rfl, fun l hl => ?_⟩
  cases hl
  exact ⟨h, hle⟩

theorem markerRound_advances {offset : Nat} (h : offset < body.length) :
    Advances body offset (markerRound body offset) := by
  unfold markerRound
  rw [getElem?_eq_getElem h]
  dsimp only [bind, Option.bind, pure]
  split
  · exact .next (by omega) (by omega)
  split
  · exact .finished _ _
  rename_i hroom
  obtain ⟨length, hlength⟩ := bigEndian_inside (offset + 1) (Nat.le_of_not_lt hroom)
  rw [hlength]
  dsimp only
  split
  · exact .finished _ _
  split
  · have hwide : offset + 1 + 7 ≤ body.length := by omega
    have hhigh : offset + 1 + 5 ≤ body.length := by omega
    obtain ⟨width, hwidth⟩ := bigEndian_inside (offset + 1 + 5) hwide
    obtain ⟨height, hheight⟩ := bigEndian_inside (offset + 1 + 3) hhigh
    unfold frameRound
    rw [hwidth, hheight]
    exact .finished _ _
  · exact .next (by omega) (by omega)

theorem scanRound_advances (body : List UInt8) (offset : Nat) :
    Advances body offset (scanRound body offset) := by
  unfold scanRound
  split
  · exact .finished _ _
  rename_i hroom
  rw [getElem?_eq_getElem (by omega : offset < body.length)]
  dsimp only [bind, Option.bind, pure]
  split
  · exact .next (by omega) (by omega)
  split
  · exact .finished _ _
  rename_i hfill
  have hle := le_skipFill body offset
  obtain ⟨round, hround, hlater⟩ := markerRound_advances (Nat.lt_of_not_le hfill)
  refine ⟨round, hround, fun later h => ?_⟩
  obtain ⟨hlt, hin⟩ := hlater later h
  exact ⟨by omega, hin⟩

theorem scan_total {rounds offset : Nat} (hin : offset ≤ body.length)
    (hrounds : body.length < rounds + offset) : ∃ d, scan body rounds offset = some d := by
  induction rounds generalizing offset with
  | zero => omega
  | succ rounds ih =>
    obtain ⟨round, hround, hlater⟩ := scanRound_advances body offset
    unfold scan
    rw [hround]
    cases round with
    | finished d => exact ⟨d, rfl⟩
    | next later =>
      obtain ⟨hlt, hle⟩ := hlater later rfl
      exact ih hle (by omega)

theorem jpegDimensions_total (body : List UInt8) : ∃ d, jpegDimensions body = some d := by
  unfold jpegDimensions
  split
  · exact ⟨none, rfl⟩
  · exact scan_total (by omega) (by omega)

/-! ## Well-formed segments -/

def twoBytes (n : UInt16) : List UInt8 := [UInt8.ofNat (n.toNat / 256), UInt8.ofNat (n.toNat % 256)]

/-- A marker, after any fill bytes, with its segment; the length counts its own two bytes. -/
structure MarkerSegment where
  fill : Nat
  marker : UInt8
  length : UInt16
  payload : List UInt8
  opens : marker ≠ 0xFF ∧ marker ≠ 0xD8 ∧ marker ≠ 0xD9
  declared : length.toNat = payload.length + 2

def MarkerSegment.content (s : MarkerSegment) : List UInt8 := twoBytes s.length ++ s.payload

def MarkerSegment.bytes (s : MarkerSegment) : List UInt8 :=
  replicate (s.fill + 1) 0xFF ++ [s.marker] ++ s.content

theorem MarkerSegment.length_content (s : MarkerSegment) :
    s.content.length = s.length.toNat := by
  rw [content, length_append, s.declared, Nat.add_comm]
  rfl

/-- A start-of-frame segment: precision, height and width come first in it. -/
structure FrameHeader extends MarkerSegment where
  precision : UInt8
  height : UInt16
  width : UInt16
  components : List UInt8
  startsFrame : marker ∈ sofMarkers
  frame : payload = [precision] ++ twoBytes height ++ twoBytes width ++ components

/-! ## Reading well-formed segments -/

theorem bigEndian_twoBytes (before rest : List UInt8) (n : UInt16) {start : Nat}
    (h : start = before.length) :
    bigEndian (before ++ twoBytes n ++ rest) start (start + 2) = some n.toNat := by
  subst h
  have htwo : (before ++ twoBytes n).length = before.length + 2 := length_append
  have hn := n.toNat_lt
  unfold bigEndian
  rw [if_pos (by rw [length_append]; omega), take_left' htwo, drop_left]
  simp only [twoBytes, foldl_cons, foldl_nil, UInt8.toNat_ofNat']
  congr 1
  omega

theorem skipFill_replicate {marker : UInt8} (h : marker ≠ 0xFF) (before rest : List UInt8)
    (n : Nat) : skipFill (before ++ (replicate n 0xFF ++ marker :: rest)) before.length
      = before.length + n := by
  induction n generalizing before with
  | zero =>
    rw [skipFill, dif_pos (by simp), if_neg (by simpa using h)]
    rfl
  | succ n ih =>
    have hroom : before.length < (before ++ (replicate (n + 1) 0xFF ++ marker :: rest)).length := by
      simp only [length_append, length_cons]
      omega
    rw [skipFill, dif_pos hroom, if_pos (by simp [replicate_succ])]
    have hone := ih (before ++ [0xFF])
    rw [length_append, length_singleton, append_assoc, singleton_append] at hone
    rw [replicate_succ, cons_append, hone]
    omega

theorem scanRound_segment (before rest : List UInt8) (s : MarkerSegment) :
    scanRound (before ++ (s.bytes ++ rest)) before.length
      = if s.marker ∈ sofMarkers ∧ 7 ≤ s.length.toNat then
          frameRound (before ++ (s.bytes ++ rest)) (before ++ replicate (s.fill + 1) 0xFF
            ++ [s.marker]).length
        else some (.next (before ++ s.bytes).length) := by
  obtain ⟨hff, hsoi, heoi⟩ := s.opens
  have htwo := s.declared
  have hcontent := s.length_content
  have hskip := skipFill_replicate hff before (s.content ++ rest) (s.fill + 1)
  have hbytes : s.bytes ++ rest
      = replicate (s.fill + 1) 0xFF ++ s.marker :: (s.content ++ rest) := by
    simp [MarkerSegment.bytes]
  have hsize : (before ++ (s.bytes ++ rest)).length
      = before.length + (s.fill + 2) + s.length.toNat + rest.length := by
    simp only [hbytes, length_append, length_replicate, length_cons]
    omega
  have hopen : (before ++ (s.bytes ++ rest))[before.length]? = some 0xFF := by
    rw [getElem?_append_right (Nat.le_refl _), Nat.sub_self, hbytes, replicate_succ, cons_append]
    rfl
  have hmarker : (before ++ (s.bytes ++ rest))[before.length + (s.fill + 1)]? = some s.marker := by
    rw [getElem?_append_right (by omega), hbytes, getElem?_append_right (by simp)]
    simp
  have hlength : bigEndian (before ++ (s.bytes ++ rest)) (before.length + (s.fill + 1) + 1)
      (before.length + (s.fill + 1) + 1 + 2) = some s.length.toNat := by
    have hread := bigEndian_twoBytes (before ++ replicate (s.fill + 1) 0xFF ++ [s.marker])
      (s.payload ++ rest) s.length rfl
    simpa [MarkerSegment.bytes, MarkerSegment.content, Nat.add_assoc] using hread
  unfold scanRound
  rw [if_neg (by omega), hopen]
  dsimp only [bind, Option.bind, pure]
  rw [if_neg (by simp), hbytes, hskip, ← hbytes, if_neg (by omega)]
  unfold markerRound
  rw [hmarker]
  dsimp only [bind, Option.bind, pure]
  rw [if_neg (by simp [hsoi, heoi]), if_neg (by omega), hlength]
  dsimp only
  rw [if_neg (by omega)]
  simp only [MarkerSegment.bytes, hcontent, length_append, length_replicate, length_singleton,
    Nat.add_assoc]

theorem frameRound_frame (before rest : List UInt8) (f : FrameHeader) :
    frameRound (before ++ (f.bytes ++ rest)) (before ++ replicate (f.fill + 1) 0xFF
      ++ [f.marker]).length = some (.finished (some (f.width.toNat, f.height.toNat))) := by
  have hheight := bigEndian_twoBytes (before ++ replicate (f.fill + 1) 0xFF ++ [f.marker]
    ++ twoBytes f.length ++ [f.precision]) (twoBytes f.width ++ f.components ++ rest) f.height rfl
  have hwidth := bigEndian_twoBytes (before ++ replicate (f.fill + 1) 0xFF ++ [f.marker]
    ++ twoBytes f.length ++ [f.precision] ++ twoBytes f.height) (f.components ++ rest) f.width rfl
  unfold frameRound MarkerSegment.bytes MarkerSegment.content
  rw [f.frame]
  simp only [append_assoc, twoBytes, cons_append, nil_append, length_append, length_replicate,
    length_cons, length_nil, Nat.zero_add, Nat.reduceAdd, Nat.add_assoc, Option.pure_def,
    Option.bind_eq_bind] at hheight hwidth ⊢
  rw [hheight, hwidth]
  rfl

theorem FrameHeader.seven_le (f : FrameHeader) : 7 ≤ f.length.toNat := by
  rw [f.declared, f.frame]
  simp only [length_append, twoBytes, length_cons, length_nil]
  omega

theorem scan_segments (f : FrameHeader) (rest : List UInt8) {segments : List MarkerSegment}
    (h : ∀ s ∈ segments, s.marker ∉ sofMarkers) (before : List UInt8) {rounds : Nat}
    {d : Option (Nat × Nat)} (hscan : scan (before ++ (segments.flatMap MarkerSegment.bytes
      ++ (f.bytes ++ rest))) rounds before.length = some d) :
    d = some (f.width.toNat, f.height.toNat) := by
  induction segments generalizing before rounds with
  | nil =>
    cases rounds with
    | zero => cases hscan
    | succ rounds =>
      unfold scan at hscan
      rw [flatMap_nil, nil_append, scanRound_segment, if_pos ⟨f.startsFrame, f.seven_le⟩,
        frameRound_frame] at hscan
      exact (Option.some_inj.mp hscan).symm
  | cons s segments ih =>
    cases rounds with
    | zero => cases hscan
    | succ rounds =>
      unfold scan at hscan
      rw [flatMap_cons, append_assoc, scanRound_segment,
        if_neg fun hsof => h s mem_cons_self hsof.1, ← append_assoc before] at hscan
      exact ih (fun t ht => h t (mem_cons_of_mem s ht)) (before ++ s.bytes) hscan

/-- **The scan of a JPEG ends, reads inside the body and finds the first frame**,
whatever the bytes are and whatever the segments before the frame hold. -/
theorem jpegDimensions_exact :
    (∀ body : List UInt8, ∃ d, jpegDimensions body = some d)
      ∧ ∀ (segments : List MarkerSegment) (f : FrameHeader) (rest : List UInt8),
        (∀ s ∈ segments, s.marker ∉ sofMarkers) →
        jpegDimensions ([0xFF, 0xD8] ++ (segments.flatMap MarkerSegment.bytes
          ++ (f.bytes ++ rest))) = some (some (f.width.toNat, f.height.toNat)) := by
  refine ⟨jpegDimensions_total, fun segments f rest h => ?_⟩
  obtain ⟨d, hd⟩ := jpegDimensions_total ([0xFF, 0xD8] ++ (segments.flatMap MarkerSegment.bytes
    ++ (f.bytes ++ rest)))
  have hseven := f.seven_le
  have hsize : 7 ≤ (f.bytes ++ rest).length := by
    rw [length_append, MarkerSegment.bytes, length_append, f.length_content]
    omega
  have hstart : ¬ (([0xFF, 0xD8] ++ (segments.flatMap MarkerSegment.bytes
      ++ (f.bytes ++ rest))).length < 4 ∨ ([0xFF, 0xD8] ++ (segments.flatMap MarkerSegment.bytes
      ++ (f.bytes ++ rest))).take 2 ≠ [0xFF, 0xD8]) := by
    intro hbad
    rcases hbad with hshort | htake
    · rw [length_append, length_append] at hshort
      omega
    · exact htake rfl
  rw [hd]
  unfold jpegDimensions at hd
  rw [if_neg hstart] at hd
  rw [scan_segments f rest h [0xFF, 0xD8] hd]

/-- An application segment that holds a picture of its own, with a frame of 2 by 1. -/
def embedded : MarkerSegment where
  fill := 1
  marker := 0xE1
  length := 13
  payload := [0xFF, 0xD8, 0xFF, 0xC0, 0, 7, 8, 0, 1, 0, 2]
  opens := by decide
  declared := rfl

def outerFrame : FrameHeader where
  fill := 0
  marker := 0xC2
  length := 8
  payload := [8, 1, 224, 2, 128, 3]
  opens := by decide
  declared := rfl
  precision := 8
  height := 480
  width := 640
  components := [3]
  startsFrame := by decide
  frame := by decide

/-- The embedded picture is leapt over. -/
theorem jpegDimensions_exact_embedded :
    jpegDimensions [0xFF, 0xD8, 0xFF, 0xFF, 0xE1, 0, 13, 0xFF, 0xD8, 0xFF, 0xC0, 0, 7, 8, 0, 1, 0,
      2, 0xFF, 0xC2, 0, 8, 8, 1, 224, 2, 128, 3, 0xFF, 0xD9] = some (some (640, 480)) :=
  jpegDimensions_exact.2 [embedded] outerFrame [0xFF, 0xD9] (by
    intro s hs
    rw [mem_singleton.mp hs]
    decide)

end NewsCraft.Media
