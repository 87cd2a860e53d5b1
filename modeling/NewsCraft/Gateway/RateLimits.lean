import NewsCraft.Gateway.Credentials
import NewsCraft.Lib.Transition

/-!
# Rate limits

`consume_rate_limit` counts the requests of a bucket in a window that opens with its first.
Every call also drops the other buckets that were not used for as long as its own window,
and a call over the limit is told how many seconds to wait. The seconds are cut off, and a
bucket with a longer window starts again when a caller with a shorter one comes by.

Times are in microseconds.
-/

namespace NewsCraft.Gateway.RateLimits

open Lib Option

def second : Int := 1000000

/-! ## Buckets -/

abbrev Key := List UInt8

/-- A row of `CodexRateLimitBucket`. -/
structure Bucket where
  category : String
  windowStartedAt : Int
  requestCount : Nat
  updatedAt : Int

structure Call where
  category : String
  subject : String
  limit : Int
  windowSeconds : Int
  now : Int

inductive Reply where
  | accepted
  | rejected (retryAfterSeconds : Int)
  deriving DecidableEq

/-- The buckets with the seconds and the accepted calls of each window. -/
structure Gate where
  buckets : Key → Option Bucket
  openedFor : Key → Int
  granted : Key → Nat

def Gate.empty : Gate where
  buckets _ := none
  openedFor _ := 0
  granted _ := 0

variable (H : GatewayCredentialHasher)

namespace Call

variable (call : Call)

/-- `rate_limit_key`. -/
def key : Key := H.digest "rate-limit" (call.category ++ ":" ++ call.subject).toList

def resetBefore : Int := call.now - call.windowSeconds * second

def upsert (row : Option Bucket) : Bucket :=
  match row with
  | none => ⟨call.category, call.now, 1, call.now⟩
  | some bucket =>
    { category := call.category
      windowStartedAt :=
        if bucket.windowStartedAt ≤ call.resetBefore then call.now else bucket.windowStartedAt
      requestCount :=
        if bucket.windowStartedAt ≤ call.resetBefore then 1 else bucket.requestCount + 1
      updatedAt := call.now }

def left (bucket : Bucket) : Int :=
  call.windowSeconds * second - (call.now - bucket.windowStartedAt)

/-- `max(1, int(window_seconds - elapsed))`. -/
def retryAfter (bucket : Bucket) : Int := max 1 ((call.left bucket).tdiv second)

def reply (bucket : Bucket) : Reply :=
  if call.limit < bucket.requestCount then .rejected (call.retryAfter bucket) else .accepted

/-- The buckets that stay when the others that were not used are dropped. -/
def pruned (buckets : Key → Option Bucket) (bucket : Bucket) : Key → Option Bucket :=
  fun key =>
    if key = call.key H then some bucket
    else (buckets key).filter fun other => call.resetBefore < other.updatedAt

end Call

namespace Gate

variable (gate : Gate) (call : Call)

def written : Bucket := call.upsert (gate.buckets (call.key H))

def reply : Reply := call.reply (gate.written H call)

/-- `consume_rate_limit`. -/
def consume : Gate where
  buckets := call.pruned H gate.buckets (gate.written H call)
  openedFor key :=
    if key = call.key H ∧ (gate.written H call).requestCount = 1 then call.windowSeconds
    else gate.openedFor key
  granted key :=
    if key = call.key H then
      (if (gate.written H call).requestCount = 1 then 0 else gate.granted key)
        + if gate.reply H call = .accepted then 1 else 0
    else gate.granted key

end Gate

/-! ## What is claimed of a call -/

/-- The call is within the limit if it is accepted, the windows of the other buckets stay
open, and who is rejected and waits is accepted, whatever comes to the others meanwhile. -/
structure Limited (gate : Gate) (call : Call) : Prop where
  granted : gate.reply H call = .accepted →
    ((gate.consume H call).granted (call.key H) : Int) ≤ call.limit
  others : ∀ key, key ≠ call.key H → ∀ bucket, gate.buckets key = some bucket →
    call.now < bucket.windowStartedAt + gate.openedFor key * second →
      (gate.consume H call).buckets key = some bucket
  retry : ∀ seconds, gate.reply H call = .rejected seconds →
    ∀ others : List Call, (∀ other ∈ others, other.key H ≠ call.key H ∧ call.now ≤ other.now
      ∧ other.now ≤ call.now + seconds * second) →
      (others.foldl (Gate.consume H) (gate.consume H call)).reply H
        { call with now := call.now + seconds * second } = .accepted

/-- The limit lets a call through, no other bucket with an open window was unused for the
seconds of the call, and what is left of a window that is used up is whole seconds or no
more than one. -/
structure InOrder (gate : Gate) (call : Call) : Prop where
  limit : 1 ≤ call.limit
  others : ∀ key, key ≠ call.key H → ∀ bucket, gate.buckets key = some bucket →
    call.now < bucket.windowStartedAt + gate.openedFor key * second →
      call.resetBefore < bucket.updatedAt
  wait : ∀ bucket, gate.buckets (call.key H) = some bucket → 0 < call.left bucket →
    call.limit ≤ bucket.requestCount → call.left bucket ≤ second ∨ second ∣ call.left bucket

/-! ## One call -/

variable {H} {gate : Gate} {call : Call}

/-- A bucket counts at least the calls that were accepted. -/
def Counted (gate : Gate) : Prop :=
  ∀ key bucket, gate.buckets key = some bucket →
    1 ≤ bucket.requestCount ∧ gate.granted key ≤ bucket.requestCount

theorem counted_empty : Counted Gate.empty := by
  intro key bucket h
  cases h

theorem written_cases (gate : Gate) (call : Call) :
    ((gate.written H call).requestCount = 1 ∧ (gate.written H call).windowStartedAt = call.now
        ∧ ∀ bucket, gate.buckets (call.key H) = some bucket → call.left bucket ≤ 0)
      ∨ ∃ bucket, gate.buckets (call.key H) = some bucket ∧ 0 < call.left bucket
        ∧ gate.written H call
          = ⟨call.category, bucket.windowStartedAt, bucket.requestCount + 1, call.now⟩ := by
  unfold Gate.written Call.upsert
  cases hrow : gate.buckets (call.key H) with
  | none => exact .inl ⟨rfl, rfl, nofun⟩
  | some bucket =>
    by_cases hexpired : bucket.windowStartedAt ≤ call.resetBefore
    · left
      refine ⟨by simp [hexpired], by simp [hexpired], ?_⟩
      intro other hother
      cases hother
      unfold Call.resetBefore at hexpired
      unfold Call.left
      omega
    · right
      refine ⟨bucket, rfl, ?_, by simp [hexpired]⟩
      unfold Call.resetBefore at hexpired
      unfold Call.left
      omega

theorem reply_accepted_iff :
    gate.reply H call = .accepted ↔ ((gate.written H call).requestCount : Int) ≤ call.limit := by
  unfold Gate.reply Call.reply
  by_cases hover : call.limit < (gate.written H call).requestCount
  · rw [if_pos hover]
    refine iff_of_false nofun ?_
    omega
  · rw [if_neg hover]
    exact iff_of_true rfl (by omega)

theorem reply_rejected_iff {seconds : Int} : gate.reply H call = .rejected seconds
      ↔ call.limit < (gate.written H call).requestCount
        ∧ seconds = call.retryAfter (gate.written H call) := by
  unfold Gate.reply Call.reply
  by_cases hover : call.limit < (gate.written H call).requestCount
  · rw [if_pos hover, Reply.rejected.injEq]
    exact ⟨fun h => ⟨hover, h.symm⟩, fun h => h.2.symm⟩
  · rw [if_neg hover]
    exact iff_of_false nofun (fun h => hover h.1)

theorem buckets_consume_self (gate : Gate) (call : Call) :
    (gate.consume H call).buckets (call.key H) = some (gate.written H call) := by
  simp [Gate.consume, Call.pruned]

theorem buckets_consume_of_ne {key : Key} (h : key ≠ call.key H) : (gate.consume H call).buckets key
      = (gate.buckets key).filter fun other => call.resetBefore < other.updatedAt := by
  simp [Gate.consume, Call.pruned, h]

/-- **Accepted calls are counted.** -/
theorem counted_consume (call : Call) (h : Counted gate) : Counted (gate.consume H call) := by
  intro key bucket hbucket
  by_cases hkey : key = call.key H
  · subst hkey
    rw [buckets_consume_self gate call, Option.some.injEq] at hbucket
    subst hbucket
    rcases written_cases (H := H) gate call with ⟨hone, -, -⟩ | ⟨old, hold, -, hwritten⟩
    · simp only [Gate.consume, hone, if_true]
      constructor
      · omega
      · split_ifs <;> omega
    · have hcount := h _ old hold
      have hne : old.requestCount + 1 ≠ 1 := by omega
      simp only [Gate.consume, hwritten, if_true, hne, if_false]
      constructor
      · omega
      · split_ifs <;> omega
  · rw [buckets_consume_of_ne hkey, filter_eq_some_iff] at hbucket
    have hgranted : (gate.consume H call).granted key = gate.granted key := by
      simp [Gate.consume, hkey]
    rw [hgranted]
    exact h key bucket hbucket.1

theorem granted_le_limit (h : Counted gate) (haccepted : gate.reply H call = .accepted) :
    ((gate.consume H call).granted (call.key H) : Int) ≤ call.limit := by
  have hcount := (counted_consume (H := H) call h _ _ (buckets_consume_self gate call)).2
  have hlimit := reply_accepted_iff.mp haccepted
  omega

/-! ## Waiting -/

theorem buckets_others {key : Key} {others : List Call} (h : ∀ other ∈ others, other.key H ≠ key)
    {bucket : Bucket} (hbucket : gate.buckets key = some bucket ∨ gate.buckets key = none) :
    (others.foldl (Gate.consume H) gate).buckets key = some bucket
      ∨ (others.foldl (Gate.consume H) gate).buckets key = none := by
  induction others generalizing gate with
  | nil => exact hbucket
  | cons other rest ih =>
    refine ih (fun later hlater => h later (List.mem_cons_of_mem _ hlater)) ?_
    rw [buckets_consume_of_ne fun heq => h other List.mem_cons_self heq.symm]
    rcases hbucket with hsome | hnone
    · rw [hsome]
      by_cases hused : other.resetBefore < bucket.updatedAt
      · left
        simp [Option.filter, hused]
      · right
        simp [Option.filter, hused]
    · rw [hnone]
      exact .inr rfl

theorem accepted_of_over (hlimit : 1 ≤ call.limit)
    (h : ∀ bucket, gate.buckets (call.key H) = some bucket → call.left bucket ≤ 0) :
    gate.reply H call = .accepted := by
  rw [reply_accepted_iff]
  rcases written_cases (H := H) gate call with ⟨hone, -, -⟩ | ⟨old, hold, hleft, -⟩
  · rw [hone]
    exact_mod_cast hlimit
  · have hover := h old hold
    omega

theorem retry_iff (hlimit : 1 ≤ call.limit) {seconds : Int}
    (hrejected : gate.reply H call = .rejected seconds) :
    (∀ others : List Call, (∀ other ∈ others, other.key H ≠ call.key H ∧ call.now ≤ other.now
      ∧ other.now ≤ call.now + seconds * second) →
      (others.foldl (Gate.consume H) (gate.consume H call)).reply H
        { call with now := call.now + seconds * second } = .accepted)
      ↔ call.left (gate.written H call) ≤ seconds * second := by
  have hover := (reply_rejected_iff.mp hrejected).1
  constructor
  · intro h
    have hnone := h [] (by simp)
    by_contra hlate
    rw [reply_accepted_iff] at hnone
    rcases written_cases (H := H) (gate.consume H call)
      { call with now := call.now + seconds * second } with ⟨-, -, hleft⟩ | ⟨old, hold, -, hwritten⟩
    · have hgone := hleft _ (buckets_consume_self (H := H) gate call)
      unfold Call.left at hgone hlate
      dsimp only at hgone hlate
      omega
    · have hself : (gate.consume H call).buckets (call.key H) = some (gate.written H call) :=
        buckets_consume_self gate call
      change (gate.consume H call).buckets (call.key H) = some old at hold
      rw [hself, Option.some.injEq] at hold
      subst hold
      change (((gate.consume H call).written H
        { call with now := call.now + seconds * second }).requestCount : Int) ≤ call.limit at hnone
      rw [hwritten] at hnone
      push_cast at hnone
      omega
  · intro h others hothers
    refine accepted_of_over hlimit ?_
    intro bucket hbucket
    have hkept := buckets_others (fun other hother => (hothers other hother).1)
      (.inl (buckets_consume_self (H := H) gate call))
    change (others.foldl (Gate.consume H) (gate.consume H call)).buckets (call.key H)
      = some bucket at hbucket
    rcases hkept with hsame | hnone
    · rw [hsame, Option.some.injEq] at hbucket
      subst hbucket
      unfold Call.left at h ⊢
      dsimp only
      omega
    · rw [hnone] at hbucket
      cases hbucket

theorem left_le_retryAfter_iff {bucket : Bucket} (h : 0 < call.left bucket) :
    call.left bucket ≤ call.retryAfter bucket * second
      ↔ call.left bucket ≤ second ∨ second ∣ call.left bucket := by
  unfold Call.retryAfter
  rw [Int.tdiv_eq_ediv_of_nonneg (by omega)]
  unfold second at *
  omega

/-- **A call is limited as claimed exactly if it is in order.** -/
theorem limited_iff (hcounted : Counted gate) : Limited H gate call ↔ InOrder H gate call := by
  constructor
  · intro h
    have hlimit : 1 ≤ call.limit := by
      by_contra hzero
      have hpositive := (counted_consume (H := H) call hcounted _ _
        (buckets_consume_self gate call)).1
      have hrejected : gate.reply H call = .rejected (call.retryAfter (gate.written H call)) := by
        rw [reply_rejected_iff]
        exact ⟨by omega, rfl⟩
      have haccepted := h.retry _ hrejected [] (by simp)
      rw [reply_accepted_iff] at haccepted
      have hagain := (counted_consume (H := H)
        { call with now := call.now + call.retryAfter (gate.written H call) * second }
        (counted_consume (H := H) call hcounted) _ _ (buckets_consume_self _ _)).1
      dsimp only [List.foldl_nil] at haccepted hagain
      omega
    refine ⟨hlimit, ?_, ?_⟩
    · intro key hkey bucket hbucket hopen
      have hkept := h.others key hkey bucket hbucket hopen
      rw [buckets_consume_of_ne hkey, hbucket, filter_eq_some_iff] at hkept
      simpa using hkept.2
    · intro bucket hbucket hleft hfull
      rcases written_cases (H := H) gate call with ⟨-, -, hover⟩ | ⟨old, hold, -, hwritten⟩
      · have hgone := hover bucket hbucket
        omega
      · rw [hbucket, Option.some.injEq] at hold
        subst hold
        have hrejected : gate.reply H call = .rejected (call.retryAfter (gate.written H call)) := by
          rw [reply_rejected_iff, hwritten]
          refine ⟨?_, rfl⟩
          push_cast
          omega
        have henough := (retry_iff hlimit hrejected).mp (h.retry _ hrejected)
        have hsame : call.left (gate.written H call) = call.left bucket := by
          rw [hwritten]
          rfl
        rw [← hsame] at hleft ⊢
        exact (left_le_retryAfter_iff hleft).mp henough
  · intro h
    refine ⟨granted_le_limit hcounted, ?_, ?_⟩
    · intro key hkey bucket hbucket hopen
      rw [buckets_consume_of_ne hkey, hbucket, filter_eq_some_iff]
      exact ⟨rfl, by simpa using h.others key hkey bucket hbucket hopen⟩
    · intro seconds hrejected
      refine (retry_iff h.limit hrejected).mpr ?_
      obtain ⟨hover, rfl⟩ := reply_rejected_iff.mp hrejected
      rcases written_cases (H := H) gate call with ⟨hone, -, -⟩ | ⟨old, hold, hleft, hwritten⟩
      · have hlimit := h.limit
        rw [hone] at hover
        omega
      · have hsame : call.left (gate.written H call) = call.left old := by
          rw [hwritten]
          rfl
        rw [hwritten] at hover
        push_cast at hover
        have hwait := h.wait old hold hleft (by omega)
        rw [← hsame] at hleft hwait
        exact (left_le_retryAfter_iff hleft).mpr hwait

/-! ## All calls -/

/-- **The calls of a run are limited as claimed exactly if each of them is in order.** -/
theorem rateLimits_iff (H : GatewayCredentialHasher) (calls : List Call) :
    System.Along (Limited H) (Gate.consume H) Gate.empty calls
      ↔ System.Along (InOrder H) (Gate.consume H) Gate.empty calls :=
  System.along_congr (P := Counted) (fun _ call h => counted_consume call h)
    (fun _ _ h => limited_iff h) counted_empty calls

def sampleHasher : GatewayCredentialHasher := ⟨fun _ => List.replicate 32 0, fun _ => rfl⟩

/-- Half a second into a window of a minute the wait that is told ends half a second before
the window does. -/
theorem halfSecond_not_limited :
    ∃ calls, ¬System.Along (Limited sampleHasher) (Gate.consume sampleHasher) Gate.empty calls := by
  refine ⟨[⟨"pairing_create_ip", "10.0.0.1", 1, 60, 0⟩,
    ⟨"pairing_create_ip", "10.0.0.1", 1, 60, 500000⟩], ?_⟩
  intro h
  obtain ⟨-, hsecond, -⟩ := h
  exact absurd (hsecond.retry 59 (by decide) [] (by simp)) (by decide)

end NewsCraft.Gateway.RateLimits
