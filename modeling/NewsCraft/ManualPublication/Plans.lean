import NewsCraft.Core.UrlHost
import NewsCraft.Generation.Revisions
import NewsCraft.Lib.Checked

/-!
# Manual publication plans

A plan says when an operator posts an approved revision by hand. It is ready once its
checklist is complete, and ends by being published or cancelled. Every operation locks the
rows of the variant, the revision and the plan before it reads them, so the operations take
effect one after another; what it writes it writes after its last check.
-/

namespace NewsCraft.ManualPublication

open Lib Lib.Checked Urls Table List
open Generation (Platform PlatformVariant PlatformVariantRevision)

/-- `ManualPlatform`. -/
inductive ManualPlatform where
  | instagram
  | x
  | blog
  deriving DecidableEq

inductive PlanStatus where
  | planned
  | ready
  | manualPublished
  | cancelled
  deriving DecidableEq

structure ManualPublicationPlan where
  id : UUID
  platformVariantRevisionId : UUID
  platform : ManualPlatform
  scheduledFor : Datetime
  displayTimezone : String
  status : PlanStatus
  checklistState : List (String × Bool)
  externalUrl : Option Text
  operatorNote : Option String
  completedAt : Option Datetime
  createdAt : Datetime
  updatedAt : Datetime
  deriving DecidableEq

structure ManualPublicationError where
  message : String
  code : String
  statusCode : Nat
  deriving DecidableEq

structure Env where
  text : TextEnv
  sha256Canonical : Json → String
  /-- `parse_manual_platform_payload`; none where it raises `ValidationError`. -/
  parsePayload : ManualPlatform → Json → Option Json
  /-- `validate_platform_payload` reports an error. -/
  hasErrors : ManualPlatform → Json → Bool
  /-- `ZoneInfo(name)` does not raise. -/
  zoneKnown : String → Bool

instance : Keyed PlatformVariant UUID := ⟨PlatformVariant.id⟩
instance : Keyed ManualPublicationPlan UUID := ⟨ManualPublicationPlan.id⟩

structure World where
  variants : Table PlatformVariant
  revisions : Table PlatformVariantRevision
  plans : Table ManualPublicationPlan

/-! ## Checklists -/

/-- `MANUAL_PLATFORMS`. -/
def manualPlatform : Platform → Option ManualPlatform
  | .telegram => none
  | .instagram => some .instagram
  | .x => some .x
  | .blog => some .blog

/-- `CHECKLIST_IDS_BY_PLATFORM`. -/
def checklistIds : ManualPlatform → List String
  | .instagram => ["copy_reviewed", "citations_verified", "media_and_alt_text_ready",
      "platform_requirements_rechecked"]
  | .x => ["thread_order_reviewed", "citations_and_links_verified", "media_and_alt_text_ready",
      "platform_requirements_rechecked"]
  | .blog => ["article_reviewed", "citations_and_links_verified", "seo_fields_reviewed",
      "media_and_alt_text_ready"]

/-- `_canonical_checklist`. -/
def canonicalChecklist (platform : ManualPlatform) (state : List (String × Bool)) :
    List (String × Bool) :=
  (checklistIds platform).map fun id => (id, (state.lookup id).getD false)

/-- `_is_complete`. -/
def isComplete (platform : ManualPlatform) (state : List (String × Bool)) : Bool :=
  state.all (fun entry => (checklistIds platform).contains entry.1)
    && (checklistIds platform).all (fun id => (state.map Prod.fst).contains id)
    && (canonicalChecklist platform state).all Prod.snd

/-- The status that a checklist gives a plan that is active. -/
def checklistStatus (platform : ManualPlatform) (state : List (String × Bool)) : PlanStatus :=
  if isComplete platform state then .ready else .planned

/-- `current | checklist_state`, where the patch has no items of its own. -/
def merged (current patch : List (String × Bool)) : List (String × Bool) :=
  current.map fun entry => (entry.1, (patch.lookup entry.1).getD entry.2)

/-! ## Checks -/

/-- `_safe_url`. -/
def safeUrl (E : TextEnv) (value : Text) : Bool :=
  value.length ≤ 2048 && value ≠ [] && !value.any isPySpace &&
    match urlsplit (netlocOk E) value with
    | none => false
    | some parsed =>
      match port parsed.netloc with
      | .error () => false
      | .ok port =>
        webSchemes.contains parsed.scheme && hostname E parsed.netloc ≠ []
          && !hasUserinfo parsed.netloc && port.all (fun port => 1 ≤ port && port ≤ 65535)

namespace World

variable (env : Env) (w : World)

/-- `_current_revision_id`. -/
def currentRevisionId (variantId : UUID) : Option UUID :=
  ((w.revisions.rows.filter fun revision => revision.platformVariantId = variantId).argmax
    PlatformVariantRevision.revisionNumber).map (·.id)

/-- `_lock_revision_context`. -/
def lockRevisionContext (revisionId : UUID) :
    Except ManualPublicationError (PlatformVariant × PlatformVariantRevision) := do
  let revision ← orStop (w.revisions.lookup revisionId)
    ⟨"revision not found", "manual_revision_not_found", 404⟩
  let variant ← orStop (w.variants.lookup revision.platformVariantId)
    ⟨"platform variant not found", "manual_variant_not_found", 404⟩
  return (variant, revision)

/-- `_require_publishable_revision`, with the platform that it finds to be manual. -/
def requirePublishableRevision (variant : PlatformVariant) (revision : PlatformVariantRevision) :
    Except ManualPublicationError ManualPlatform := do
  let platform ← orStop (manualPlatform variant.platform)
    ⟨"revision is not for a supported manual platform", "manual_platform_unsupported", 422⟩
  require (revision.approvalState = .approved)
    ⟨"revision is not approved", "manual_revision_not_approved", 409⟩
  require (revision.contentHash = env.sha256Canonical
      (.obj [("content", revision.content), ("evidence_map", revision.evidenceMap)]))
    ⟨"revision content hash is invalid", "manual_revision_hash_mismatch", 409⟩
  let payload ← orStop (env.parsePayload platform revision.content)
    ⟨"revision content is not schema-valid", "manual_revision_schema_invalid", 409⟩
  require (env.hasErrors platform payload = false)
    ⟨"revision content is not schema-valid", "manual_revision_validation_failed", 409⟩
  require (w.currentRevisionId variant.id = some revision.id)
    ⟨"revision is not current", "manual_revision_not_current", 409⟩
  return platform

/-- `_lock_plan_context`. -/
def lockPlanContext (planId : UUID) : Except ManualPublicationError
    (PlatformVariant × PlatformVariantRevision × ManualPublicationPlan) := do
  let plan ← orStop (w.plans.lookup planId)
    ⟨"manual publication plan not found", "manual_plan_not_found", 404⟩
  let revision ← orStop (w.revisions.lookup plan.platformVariantRevisionId)
    ⟨"plan revision not found", "manual_revision_not_found", 409⟩
  let variant ← orStop (w.variants.lookup revision.platformVariantId)
    ⟨"manual publication plan identity changed", "manual_plan_conflict", 409⟩
  require (manualPlatform variant.platform = some plan.platform)
    ⟨"manual publication plan identity is invalid", "manual_plan_identity_invalid", 409⟩
  return (variant, revision, plan)

end World

def PlanStatus.active : PlanStatus → Bool
  | .planned | .ready => true
  | .manualPublished | .cancelled => false

/-! ## Operations -/

/-- What a call returns or raises, and what it has written by then. -/
abbrev Outcome := Except ManualPublicationError ManualPublicationPlan × World

namespace World

variable (env : Env) (w : World)

def after {α : Type} (checks : Except ManualPublicationError α) (rest : α → Outcome) : Outcome :=
  match checks with
  | .error error => (.error error, w)
  | .ok a => rest a

def raise (message code : String) (statusCode : Nat) : Outcome :=
  (.error ⟨message, code, statusCode⟩, w)

def save (plan : ManualPublicationPlan) : Outcome :=
  (.ok plan, { w with plans := w.plans.put plan })

/-- `create_plan`; the schedule is none where it has no time zone. -/
def createPlan (now : Datetime) (id revisionId : UUID) (scheduledFor : Option Datetime)
    (displayTimezone : String) : Outcome :=
  w.after (do
    let schedule ← orStop scheduledFor
      ⟨"scheduled_for must be timezone-aware", "manual_schedule_naive", 422⟩
    require (env.zoneKnown displayTimezone = true)
      ⟨"display_timezone must be a valid IANA timezone", "manual_timezone_invalid", 422⟩
    let context ← w.lockRevisionContext revisionId
    let platform ← w.requirePublishableRevision env context.1 context.2
    return (schedule, platform)) fun checked =>
  match w.plans.rows.find? fun plan =>
      plan.platformVariantRevisionId = revisionId ∧ plan.status.active = true with
  | some existing =>
    if existing.scheduledFor = checked.1 ∧ existing.displayTimezone = displayTimezone then
      (.ok existing, w)
    else
      w.raise "revision already has a conflicting active manual publication plan"
        "active_plan_conflict" 409
  | none =>
    if checked.1 ≤ now then
      w.raise "scheduled_for must be strictly in the future" "manual_schedule_not_future" 422
    else
      let plan : ManualPublicationPlan :=
        { id := id
          platformVariantRevisionId := revisionId
          platform := checked.2
          scheduledFor := checked.1
          displayTimezone := displayTimezone
          status := .planned
          checklistState := canonicalChecklist checked.2 []
          externalUrl := none
          operatorNote := none
          completedAt := none
          createdAt := now
          updatedAt := now }
      (.ok plan, { w with plans := w.plans.insert plan })

/-- `update_checklist`. -/
def updateChecklist (now : Datetime) (planId : UUID) (checklistState : List (String × Bool)) :
    Outcome :=
  w.after (w.lockPlanContext planId) fun context =>
  let plan := context.2.2
  if plan.status.active = false then
    w.raise "terminal manual publication plans are immutable" "manual_plan_terminal" 409
  else if ∃ entry ∈ checklistState, entry.1 ∉ checklistIds plan.platform then
    w.raise "unknown checklist item" "manual_checklist_item_unknown" 422
  else
    let current := canonicalChecklist plan.platform plan.checklistState
    let updated := merged current checklistState
    let nextStatus := checklistStatus plan.platform updated
    if updated = current ∧ plan.status = nextStatus then (.ok plan, w)
    else
      w.save { plan with checklistState := updated, status := nextStatus, updatedAt := now }

/-- `mark_published`. -/
def markPublished (now : Datetime) (planId : UUID) (externalUrl : Option Text)
    (note : Option String) : Outcome :=
  w.after (w.lockPlanContext planId) fun context =>
  let plan := context.2.2
  if plan.status = .manualPublished then
    if externalUrl.any (fun url => !safeUrl env.text url) then
      w.raise "external URL must be a safe HTTP(S) URL" "manual_external_url_invalid" 422
    else if plan.externalUrl = externalUrl ∧ plan.operatorNote = note then (.ok plan, w)
    else w.raise "published manual publication plan is immutable" "manual_plan_terminal" 409
  else if plan.status = .cancelled then
    w.raise "cancelled manual publication plan is terminal" "manual_plan_terminal" 409
  else if plan.status ≠ .ready ∨ isComplete plan.platform plan.checklistState = false then
    w.raise "manual publication plan is not ready" "manual_plan_not_ready" 409
  else if externalUrl.any (fun url => !safeUrl env.text url) then
    w.raise "external URL must be a safe HTTP(S) URL" "manual_external_url_invalid" 422
  else if note.any (fun note => 2000 < note.length || note.contains '\x00') then
    w.raise "operator note is invalid" "manual_operator_note_invalid" 422
  else
    w.after (w.requirePublishableRevision env context.1 context.2.1) fun _ =>
    w.save { plan with
      status := .manualPublished
      externalUrl := externalUrl
      operatorNote := note
      completedAt := some now
      updatedAt := now }

/-- `cancel`. -/
def cancel (now : Datetime) (planId : UUID) : Outcome :=
  w.after (w.lockPlanContext planId) fun context =>
  let plan := context.2.2
  if plan.status = .cancelled then (.ok plan, w)
  else if plan.status = .manualPublished then
    w.raise "published manual publication plan cannot be cancelled" "manual_plan_terminal" 409
  else
    w.save { plan with status := .cancelled, updatedAt := now }

end World

/-! ## Histories -/

inductive Request where
  | createPlan (now : Datetime) (id revisionId : UUID) (scheduledFor : Option Datetime)
      (displayTimezone : String)
  | updateChecklist (now : Datetime) (planId : UUID) (checklistState : List (String × Bool))
  | markPublished (now : Datetime) (planId : UUID) (externalUrl : Option Text)
      (note : Option String)
  | cancel (now : Datetime) (planId : UUID)

def World.answer (env : Env) (w : World) : Request → Outcome
  | .createPlan now id revisionId scheduledFor displayTimezone =>
    w.createPlan env now id revisionId scheduledFor displayTimezone
  | .updateChecklist now planId checklistState => w.updateChecklist now planId checklistState
  | .markPublished now planId externalUrl note => w.markPublished env now planId externalUrl note
  | .cancel now planId => w.cancel now planId

inductive Event where
  | request (request : Request)
  /-- Variants and revisions are added and approvals decided. -/
  | elsewhere (variants : Table PlatformVariant) (revisions : Table PlatformVariantRevision)

def World.next (env : Env) (w : World) : Event → World
  | .request request => (w.answer env request).2
  | .elsewhere variants revisions => { w with variants := variants, revisions := revisions }

def system (env : Env) : System World Event where
  init w := w.plans.rows = []
  step w event w' := w' = w.next env event

/-! ## What a call writes -/

/-- The revision is approved, and the last of its variant. -/
def World.CurrentApproved (w : World) (revisionId : UUID) : Prop :=
  ∃ revision, w.revisions.lookup revisionId = some revision ∧ revision.approvalState = .approved ∧
    ∀ other ∈ w.revisions.rows, other.platformVariantId = revision.platformVariantId →
      other.revisionNumber ≤ revision.revisionNumber

/-- The four writes, each with what was checked before it. -/
inductive Written (w : World) : World → Prop
  | created (plan : ManualPublicationPlan)
      (hfree : ∀ other ∈ w.plans.rows,
        other.platformVariantRevisionId = plan.platformVariantRevisionId →
          other.status.active = false)
      (hplanned : plan.status = .planned)
      (hchecklist : plan.checklistState = canonicalChecklist plan.platform [])
      (hcompleted : plan.completedAt = none) :
      Written w { w with plans := w.plans.insert plan }
  | checked (plan : ManualPublicationPlan) (patch : List (String × Bool)) (now : Datetime)
      (hplan : w.plans.lookup plan.id = some plan) (hactive : plan.status.active = true) :
      Written w (w.save { plan with
        checklistState := merged (canonicalChecklist plan.platform plan.checklistState) patch
        status := checklistStatus plan.platform
          (merged (canonicalChecklist plan.platform plan.checklistState) patch)
        updatedAt := now }).2
  | published (plan : ManualPublicationPlan) (url : Option Text) (note : Option String)
      (now : Datetime) (hplan : w.plans.lookup plan.id = some plan)
      (hready : plan.status = .ready)
      (hcurrent : w.CurrentApproved plan.platformVariantRevisionId) :
      Written w (w.save { plan with
        status := .manualPublished
        externalUrl := url
        operatorNote := note
        completedAt := some now
        updatedAt := now }).2
  | cancelled (plan : ManualPublicationPlan) (now : Datetime)
      (hplan : w.plans.lookup plan.id = some plan) (hactive : plan.status.active = true) :
      Written w (w.save { plan with status := .cancelled, updatedAt := now }).2

/-- A call that raises has written nothing; one that returns has made at most one write. -/
def Fine (w : World) (outcome : Outcome) : Prop :=
  outcome.2 = w ∨ (∃ plan, outcome.1 = .ok plan) ∧ Written w outcome.2

variable {env : Env} {w : World}

theorem fine_after {α : Type} {checks : Except ManualPublicationError α} {rest : α → Outcome}
    (h : ∀ a, checks = .ok a → Fine w (rest a)) : Fine w (w.after checks rest) := by
  cases checks with
  | error error => exact .inl rfl
  | ok a => exact h a rfl

theorem lockPlanContext_ok {planId : UUID}
    {context : PlatformVariant × PlatformVariantRevision × ManualPublicationPlan}
    (h : w.lockPlanContext planId = .ok context) :
    w.plans.lookup context.2.2.id = some context.2.2 ∧
      w.revisions.lookup context.2.2.platformVariantRevisionId = some context.2.1 ∧
      w.variants.lookup context.2.1.platformVariantId = some context.1 := by
  obtain ⟨plan, hplan, h⟩ := bind_ok_iff.mp h
  obtain ⟨revision, hrevision, h⟩ := bind_ok_iff.mp h
  obtain ⟨variant, hvariant, h⟩ := bind_ok_iff.mp h
  obtain ⟨-, -, h⟩ := bind_ok_iff.mp h
  cases h
  rw [orStop_ok_iff] at hplan hrevision hvariant
  have hid : plan.id = planId := key_of_lookup hplan
  exact ⟨hid ▸ hplan, hrevision, hvariant⟩

theorem currentApproved_of_publishable {variant : PlatformVariant}
    {revision : PlatformVariantRevision} {platform : ManualPlatform} {revisionId : UUID}
    (hrevision : w.revisions.lookup revisionId = some revision)
    (hvariant : w.variants.lookup revision.platformVariantId = some variant)
    (h : w.requirePublishableRevision env variant revision = .ok platform) :
    w.CurrentApproved revisionId := by
  obtain ⟨_, -, h⟩ := bind_ok_iff.mp h
  obtain ⟨_, happroved, h⟩ := bind_ok_iff.mp h
  obtain ⟨_, -, h⟩ := bind_ok_iff.mp h
  obtain ⟨_, -, h⟩ := bind_ok_iff.mp h
  obtain ⟨_, -, h⟩ := bind_ok_iff.mp h
  obtain ⟨_, hcurrent, -⟩ := bind_ok_iff.mp h
  rw [require_ok_iff] at happroved hcurrent
  obtain ⟨newest, hnewest, hid⟩ := Option.map_eq_some_iff.mp hcurrent
  have hmem := (mem_filter.mp (argmax_mem hnewest)).1
  obtain rfl : newest = revision := row_unique hmem (mem_of_lookup hrevision) hid
  refine ⟨newest, hrevision, happroved, fun other hother hsame => ?_⟩
  have hvariantId : variant.id = newest.platformVariantId := key_of_lookup hvariant
  exact le_of_mem_argmax (mem_filter.mpr ⟨hother, by simp [hsame, hvariantId]⟩) hnewest

theorem createPlan_fine {now : Datetime} {id revisionId : UUID} {scheduledFor : Option Datetime}
    {displayTimezone : String} :
    Fine w (w.createPlan env now id revisionId scheduledFor displayTimezone) := by
  refine fine_after fun checked _ => ?_
  split
  · split
    · exact .inl rfl
    · exact .inl rfl
  · rename_i hnone
    split
    · exact .inl rfl
    refine .inr ⟨⟨_, rfl⟩, .created _ (fun other hother hsame => ?_) rfl rfl rfl⟩
    -- no active plan of the revision was found
    have hfree := find?_eq_none.mp hnone other hother
    simp only [decide_eq_true_eq, not_and, Bool.not_eq_true] at hfree
    exact hfree hsame

theorem updateChecklist_fine {now : Datetime} {planId : UUID} {patch : List (String × Bool)} :
    Fine w (w.updateChecklist now planId patch) := by
  refine fine_after fun context hcontext => ?_
  have hplan := (lockPlanContext_ok hcontext).1
  dsimp only
  split
  · exact .inl rfl
  rename_i hactive
  split
  · exact .inl rfl
  split
  · exact .inl rfl
  · exact .inr ⟨⟨_, rfl⟩, .checked _ patch now hplan (by simpa using hactive)⟩

theorem markPublished_fine {now : Datetime} {planId : UUID} {externalUrl : Option Text}
    {note : Option String} : Fine w (w.markPublished env now planId externalUrl note) := by
  refine fine_after fun context hcontext => ?_
  obtain ⟨hplan, hrevision, hvariant⟩ := lockPlanContext_ok hcontext
  dsimp only
  split
  · split
    · exact .inl rfl
    split
    · exact .inl rfl
    · exact .inl rfl
  · split
    · exact .inl rfl
    split
    · exact .inl rfl
    rename_i hready
    split
    · exact .inl rfl
    split
    · exact .inl rfl
    refine fine_after fun platform hpublishable => .inr ⟨⟨_, rfl⟩, ?_⟩
    exact .published _ externalUrl note now hplan (by simpa using fun h => hready (.inl h))
      (currentApproved_of_publishable hrevision hvariant hpublishable)

theorem cancel_fine {now : Datetime} {planId : UUID} : Fine w (w.cancel now planId) := by
  refine fine_after fun context hcontext => ?_
  have hplan := (lockPlanContext_ok hcontext).1
  dsimp only
  split
  · exact .inl rfl
  rename_i hopen
  split
  · exact .inl rfl
  rename_i hunpublished
  refine .inr ⟨⟨_, rfl⟩, .cancelled _ now hplan ?_⟩
  cases hstatus : context.2.2.status <;> simp_all [PlanStatus.active]

theorem answer_fine (env : Env) (w : World) (request : Request) :
    Fine w (w.answer env request) := by
  cases request with
  | createPlan now id revisionId scheduledFor displayTimezone => exact createPlan_fine
  | updateChecklist now planId checklistState => exact updateChecklist_fine
  | markPublished now planId externalUrl note => exact markPublished_fine
  | cancel now planId => exact cancel_fine

/-! ## The invariant -/

structure PlanInv (plan : ManualPublicationPlan) : Prop where
  checklist : plan.checklistState.map Prod.fst = checklistIds plan.platform
  ready : plan.status = .ready ↔
    plan.status.active = true ∧ ∀ entry ∈ plan.checklistState, entry.2 = true
  completed : plan.completedAt.isSome = true ↔ plan.status = .manualPublished

structure WorldInv (w : World) : Prop where
  plans : ∀ plan ∈ w.plans.rows, PlanInv plan
  unique : ∀ plan ∈ w.plans.rows, ∀ other ∈ w.plans.rows,
    plan.platformVariantRevisionId = other.platformVariantRevisionId →
      plan.status.active = true → other.status.active = true → plan = other

theorem keys_canonicalChecklist (platform : ManualPlatform) (state : List (String × Bool)) :
    (canonicalChecklist platform state).map Prod.fst = checklistIds platform := by
  simp [canonicalChecklist, Function.comp_def]

theorem keys_merged (current patch : List (String × Bool)) :
    (merged current patch).map Prod.fst = current.map Prod.fst := by
  simp [merged, Function.comp_def]

theorem nodup_checklistIds (platform : ManualPlatform) : (checklistIds platform).Nodup := by
  cases platform <;> decide

theorem map_lookup_keys {state : List (String × Bool)} (h : (state.map Prod.fst).Nodup) :
    ((state.map Prod.fst).map fun id => (id, (state.lookup id).getD false)) = state := by
  induction state with
  | nil => rfl
  | cons entry rest ih =>
    obtain ⟨key, value⟩ := entry
    obtain ⟨hnew, hrest⟩ := nodup_cons.mp h
    simp only [map_cons, lookup_cons_self, Option.getD_some, List.cons.injEq, true_and]
    refine Eq.trans (map_congr_left fun id hid => ?_) (ih hrest)
    -- a later key is not the first one
    have hne : (id == key) = false := beq_eq_false_iff_ne.mpr fun heq => hnew (heq ▸ hid)
    simp [lookup_cons, hne]

theorem isComplete_iff {platform : ManualPlatform} {state : List (String × Bool)}
    (h : state.map Prod.fst = checklistIds platform) :
    isComplete platform state = true ↔ ∀ entry ∈ state, entry.2 = true := by
  have hsame : canonicalChecklist platform state = state := by
    rw [canonicalChecklist, ← h]
    exact map_lookup_keys (h ▸ nodup_checklistIds platform)
  have hknown : ∀ entry ∈ state, entry.1 ∈ checklistIds platform := fun entry hmem =>
    h ▸ mem_map_of_mem hmem
  simp only [isComplete, hsame, h, Bool.and_eq_true, all_eq_true, contains_iff_mem]
  exact ⟨fun hall => hall.2, fun hall => ⟨⟨hknown, fun id hid => hid⟩, hall⟩⟩

theorem PlanInv.unfinished {plan : ManualPublicationPlan} (h : PlanInv plan)
    (hactive : plan.status.active = true) : plan.completedAt.isSome = false := by
  by_cases hdone : plan.completedAt.isSome = true
  · rw [h.completed.mp hdone] at hactive
    cases hactive
  · simpa using hdone

theorem PlanInv.checked {plan : ManualPublicationPlan} (h : PlanInv plan)
    (hactive : plan.status.active = true) {state : List (String × Bool)}
    (hkeys : state.map Prod.fst = checklistIds plan.platform) (now : Datetime) :
    PlanInv { plan with
      checklistState := state
      status := checklistStatus plan.platform state
      updatedAt := now } := by
  have hcomplete := isComplete_iff hkeys
  have hunfinished := h.unfinished hactive
  by_cases hall : ∀ entry ∈ state, entry.2 = true
  · have hready : checklistStatus plan.platform state = .ready := if_pos (hcomplete.mpr hall)
    exact ⟨hkeys, by simpa [hready, PlanStatus.active] using hall, by simp [hready, hunfinished]⟩
  · have hplanned : checklistStatus plan.platform state = .planned :=
      if_neg fun hc => hall (hcomplete.mp hc)
    exact ⟨hkeys, by simpa [hplanned, PlanStatus.active] using hall,
      by simp [hplanned, hunfinished]⟩

theorem WorldInv.save (hw : WorldInv w) {plan plan' : ManualPublicationPlan}
    (hplan : w.plans.lookup plan.id = some plan) (hactive : plan.status.active = true)
    (hid : plan'.id = plan.id)
    (hrevision : plan'.platformVariantRevisionId = plan.platformVariantRevisionId)
    (hinv : PlanInv plan') : WorldInv (w.save plan').2 := by
  have hstored := mem_of_lookup hplan
  -- another active plan of the revision would have been this one
  have hother : ∀ other ∈ w.plans.rows, Keyed.key other ≠ Keyed.key plan' →
      plan'.platformVariantRevisionId = other.platformVariantRevisionId →
        other.status.active = true → False := by
    intro other hmem hne hsame hopen
    have heq := hw.unique plan hstored other hmem (hrevision ▸ hsame) hactive hopen
    exact hne (heq ▸ hid.symm)
  constructor
  · intro p hp
    rcases mem_put hp with ⟨rfl, -⟩ | ⟨hold, -⟩
    · exact hinv
    · exact hw.plans p hold
  · intro p hp q hq hsame hpopen hqopen
    rcases mem_put hp with ⟨rfl, -⟩ | ⟨hpold, hpne⟩
    · rcases mem_put hq with ⟨rfl, -⟩ | ⟨hqold, hqne⟩
      · rfl
      · exact (hother q hqold hqne hsame hqopen).elim
    · rcases mem_put hq with ⟨rfl, -⟩ | ⟨hqold, hqne⟩
      · exact (hother p hpold hpne hsame.symm hpopen).elim
      · exact hw.unique p hpold q hqold hsame hpopen hqopen

theorem WorldInv.insert (hw : WorldInv w) {plan : ManualPublicationPlan} (hinv : PlanInv plan)
    (hfree : ∀ other ∈ w.plans.rows,
      other.platformVariantRevisionId = plan.platformVariantRevisionId →
        other.status.active = false) :
    WorldInv { w with plans := w.plans.insert plan } := by
  constructor
  · intro p hp
    rcases mem_insert hp with rfl | hold
    · exact hinv
    · exact hw.plans p hold
  · intro p hp q hq hsame hpopen hqopen
    rcases mem_insert hp with rfl | hpold
    · rcases mem_insert hq with rfl | hqold
      · rfl
      · simp [hfree q hqold hsame.symm] at hqopen
    · rcases mem_insert hq with rfl | hqold
      · simp [hfree p hpold hsame] at hpopen
      · exact hw.unique p hpold q hqold hsame hpopen hqopen

theorem WorldInv.written {w' : World} (hw : WorldInv w) (h : Written w w') : WorldInv w' := by
  cases h with
  | created plan hfree hplanned hchecklist hcompleted =>
    refine hw.insert ⟨?_, ?_, ?_⟩ hfree
    · rw [hchecklist]
      exact keys_canonicalChecklist plan.platform []
    · have hitem : ∃ id, id ∈ checklistIds plan.platform := by
        cases plan.platform <;> exact ⟨_, mem_cons_self ..⟩
      obtain ⟨id, hid⟩ := hitem
      simp only [hplanned, hchecklist, reduceCtorEq, false_iff]
      rintro ⟨-, hall⟩
      have hfalse := hall _ (mem_map_of_mem (f := fun id =>
        (id, (([] : List (String × Bool)).lookup id).getD false)) hid)
      cases hfalse
    · simp [hplanned, hcompleted]
  | checked plan patch now hplan hactive =>
    refine hw.save hplan hactive rfl rfl ((hw.plans plan (mem_of_lookup hplan)).checked
      hactive ?_ now)
    rw [keys_merged, keys_canonicalChecklist]
  | published plan url note now hplan hready hcurrent =>
    refine hw.save hplan (by simp [hready, PlanStatus.active]) rfl rfl
      ⟨(hw.plans plan (mem_of_lookup hplan)).checklist, ?_, ?_⟩
    · simp [PlanStatus.active]
    · simp
  | cancelled plan now hplan hactive =>
    have hold := hw.plans plan (mem_of_lookup hplan)
    exact hw.save hplan hactive rfl rfl ⟨hold.checklist, by simp [PlanStatus.active],
      by simp [hold.unfinished hactive]⟩

theorem WorldInv.next (hw : WorldInv w) (env : Env) (event : Event) :
    WorldInv (w.next env event) := by
  cases event with
  | request request =>
    rcases answer_fine env w request with hsame | ⟨-, hwritten⟩
    · exact (congrArg WorldInv hsame).mpr hw
    · exact hw.written hwritten
  | elsewhere variants revisions => exact ⟨hw.plans, hw.unique⟩

theorem inv_of_reachable (hw : (system env).Reachable w) : WorldInv w := by
  refine System.invariant ?_ ?_ hw
  · intro w hinit
    have hnone : ∀ plan, plan ∉ w.plans.rows := by simp [show w.plans.rows = [] from hinit]
    exact ⟨fun plan hmem => (hnone plan hmem).elim, fun plan hmem => (hnone plan hmem).elim⟩
  · intro w event w' _ hw hstep
    obtain rfl : w' = w.next env event := hstep
    exact hw.next env event

/-! ## What becomes of a plan -/

theorem Written.lookup_ended {w' : World} (h : Written w w') {id : UUID}
    {plan : ManualPublicationPlan} (hplan : w.plans.lookup id = some plan)
    (hended : plan.status.active = false) : w'.plans.lookup id = some plan := by
  have hsave : ∀ old new : ManualPublicationPlan, w.plans.lookup old.id = some old →
      old.status.active = true → new.id = old.id → (w.save new).2.plans.lookup id = some plan := by
    intro old new hold hactive hid
    refine (lookup_put_of_ne ?_).trans hplan
    intro hsame
    have hsame : id = old.id := hsame.trans hid
    rw [← hsame, hplan] at hold
    cases hold
    simp [hended] at hactive
  cases h with
  | created new => exact lookup_insert_of_some hplan
  | checked old _ _ hold hactive | cancelled old _ hold hactive =>
    exact hsave old _ hold hactive rfl
  | published old url note now hold hready =>
    exact hsave old _ hold (by simp [hready, PlanStatus.active]) rfl

theorem Written.published_cases {w' : World} (h : Written w w') {plan : ManualPublicationPlan}
    (hmem : plan ∈ w'.plans.rows) (hpublished : plan.status = .manualPublished) :
    plan ∈ w.plans.rows ∨ w.CurrentApproved plan.platformVariantRevisionId := by
  cases h with
  | created new hfree hplanned =>
    rcases mem_insert hmem with rfl | hold
    · cases hplanned.symm.trans hpublished
    · exact .inl hold
  | checked old patch now hold hactive =>
    rcases mem_put hmem with ⟨rfl, -⟩ | ⟨hold, -⟩
    · simp only [checklistStatus] at hpublished
      split at hpublished
      · cases hpublished
      · cases hpublished
    · exact .inl hold
  | published old url note now hold hready hcurrent =>
    rcases mem_put hmem with ⟨rfl, -⟩ | ⟨hold, -⟩
    · exact .inr hcurrent
    · exact .inl hold
  | cancelled old now hold hactive =>
    rcases mem_put hmem with ⟨rfl, -⟩ | ⟨hold, -⟩
    · cases hpublished
    · exact .inl hold

/-- **The lifecycle of a manual plan.** A revision has at most one active plan; a plan has the
checklist of its platform, is ready just when it is active and every item is true, and is
completed just when it is published. Whatever comes next leaves a published or cancelled plan
as it is, publishes only while the revision is approved and the last of its variant, and a call
that is rejected changes nothing. -/
theorem plan_lifecycle (env : Env) (w : World) (hw : (system env).Reachable w) :
    (∀ plan ∈ w.plans.rows, ∀ other ∈ w.plans.rows,
      plan.platformVariantRevisionId = other.platformVariantRevisionId →
        plan.status.active = true → other.status.active = true → plan = other) ∧
    (∀ plan ∈ w.plans.rows, plan.checklistState.map Prod.fst = checklistIds plan.platform ∧
      (plan.status = .ready ↔
        plan.status.active = true ∧ ∀ entry ∈ plan.checklistState, entry.2 = true) ∧
      (plan.completedAt.isSome = true ↔ plan.status = .manualPublished)) ∧ (∀ event,
      (∀ id plan, w.plans.lookup id = some plan → plan.status.active = false →
        (w.next env event).plans.lookup id = some plan) ∧
      (∀ plan ∈ (w.next env event).plans.rows, plan.status = .manualPublished →
        plan ∈ w.plans.rows ∨ w.CurrentApproved plan.platformVariantRevisionId)) ∧
    ∀ request error, (w.answer env request).1 = .error error → (w.answer env request).2 = w := by
  have hinv := inv_of_reachable hw
  refine ⟨hinv.unique, fun plan hmem => ⟨(hinv.plans plan hmem).checklist,
    (hinv.plans plan hmem).ready, (hinv.plans plan hmem).completed⟩, fun event => ?_, ?_⟩
  · cases event with
    | elsewhere variants revisions =>
      exact ⟨fun _ _ hplan _ => hplan, fun _ hmem _ => .inl hmem⟩
    | request request =>
      rcases answer_fine env w request with hsame | ⟨-, hwritten⟩
      · simp only [World.next, hsame]
        exact ⟨fun _ _ hplan _ => hplan, fun _ hmem _ => .inl hmem⟩
      · exact ⟨fun _ _ => hwritten.lookup_ended, fun _ => hwritten.published_cases⟩
  · intro request error hraised
    rcases answer_fine env w request with hsame | ⟨⟨plan, hok⟩, -⟩
    · exact hsame
    · cases hok.symm.trans hraised

/-! A plan for a post that is approved is created, checked and published. -/

def blogEnv : Env where
  text := .ascii
  sha256Canonical _ := "sha"
  parsePayload _ payload := some payload
  hasErrors _ _ := false
  zoneKnown zone := zone = "UTC"

def blogRequests : List Request :=
  [.createPlan 10 7 2 (some 20) "UTC", .updateChecklist 11 7 ((checklistIds .blog).map (·, true)),
    .markPublished 12 7 (some "https://example.com/a".toList) none]

def blogRevision : PlatformVariantRevision where
  id := 2
  platformVariantId := 1
  parentRevisionId := none
  generationAttemptId := none
  revisionNumber := 1
  content := .null
  contentHash := "sha"
  evidenceMap := .null
  validationResults := .null
  approvalState := .approved
  approvalNote := none
  createdBy := "operator"

def blogWorld : World :=
  ⟨Table.empty.insert ⟨1, .blog⟩, Table.empty.insert blogRevision, Table.empty⟩

def blogPublished : World :=
  blogRequests.foldl (fun w request => w.next blogEnv (.request request)) blogWorld

theorem plan_lifecycle_published : (blogPublished.plans.rows.map (·.status)) = [.manualPublished] ∧
      (blogPublished.answer blogEnv (.cancel 13 7)).2 = blogPublished :=
  have hinit : (system blogEnv).Reachable blogWorld := .init rfl
  have hstep : ∀ w request, (system blogEnv).Reachable w →
      (system blogEnv).Reachable (w.next blogEnv (.request request)) := fun _ _ h => .tail h rfl
  have hreach : (system blogEnv).Reachable blogPublished := hstep _ _ (hstep _ _ (hstep _ _ hinit))
  ⟨by decide +kernel, (plan_lifecycle blogEnv _ hreach).2.2.2 _
    ⟨"published manual publication plan cannot be cancelled", "manual_plan_terminal", 409⟩
    (by decide +kernel)⟩

end NewsCraft.ManualPublication
