import NewsCraft.Automations.Compiler

/-!
# A saved plan against its graph

`verify_compiled_plan` compiles the graph again and compares the compiler's version and
`plan_hash`. The saved plan's own hash is never computed again, so a saved plan is pinned to
the graph exactly when its `plan_hash` still is the hash of its other fields.
-/

namespace NewsCraft.Automations

open List

/-! ## Equality of plans -/

/-- Equality of stages, field by field; a config is a dictionary. -/
structure CompiledStage.Same (a b : CompiledStage) : Prop where
  ordinal : a.ordinal = b.ordinal
  nodeId : a.nodeId = b.nodeId
  nodeType : a.nodeType = b.nodeType
  owner : a.owner = b.owner
  jobTypes : a.jobTypes = b.jobTypes
  config : (Json.obj a.config).sortKeys = (Json.obj b.config).sortKeys

structure CompiledWorkflowPlan.Same (a b : CompiledWorkflowPlan) : Prop where
  compilerVersion : a.compilerVersion = b.compilerVersion
  graphHash : a.graphHash = b.graphHash
  planHash : a.planHash = b.planHash
  entryNodeId : a.entryNodeId = b.entryNodeId
  triggerKind : a.triggerKind = b.triggerKind
  stages : List.Forall₂ CompiledStage.Same a.stages b.stages
  outputNodeIds : a.outputNodeIds = b.outputNodeIds
  requiredJobTypes : a.requiredJobTypes = b.requiredJobTypes
  requiredResources : a.requiredResources = b.requiredResources
  publishingNodeIds : a.publishingNodeIds = b.publishingNodeIds
  supportsDryRun : a.supportsDryRun = b.supportsDryRun

theorem RuntimeOwner.value_injective {a b : RuntimeOwner} (h : a.value = b.value) : a = b := by
  cases a <;> cases b <;> first | rfl | (exact absurd h (by decide))

theorem TriggerKind.value_injective {a b : TriggerKind} (h : a.value = b.value) : a = b := by
  cases a <;> cases b <;> first | rfl | (exact absurd h (by decide))

theorem map_str_injective {a b : List String} (h : a.map Json.str = b.map Json.str) : a = b :=
  map_injective_iff.mpr (fun _ _ hs => Json.str.inj hs) h

theorem CompiledStage.dump_eq_iff {a b : CompiledStage} : a.dump = b.dump ↔ a.Same b := by
  constructor
  · intro h
    simp only [CompiledStage.dump, Json.obj.injEq, List.cons.injEq, Prod.mk.injEq, true_and,
      Json.arr.injEq, Json.str.injEq, Json.int.injEq, and_true] at h
    obtain ⟨hconfig, hjobs, hid, htype, hordinal, howner⟩ := h
    exact ⟨by omega, hid, htype, RuntimeOwner.value_injective howner, map_str_injective hjobs,
      hconfig⟩
  · intro h
    simp only [CompiledStage.dump, h.ordinal, h.nodeId, h.nodeType, h.owner, h.jobTypes, h.config]

theorem stages_dump_eq_iff {a b : List CompiledStage} :
    a.map CompiledStage.dump = b.map CompiledStage.dump ↔ List.Forall₂ CompiledStage.Same a b := by
  rw [← forall₂_eq_eq_eq, forall₂_map_left_iff, forall₂_map_right_iff]
  simp only [CompiledStage.dump_eq_iff]

theorem CompiledWorkflowPlan.same_iff {a b : CompiledWorkflowPlan} :
    a.Same b ↔ a.semantic = b.semantic ∧ a.planHash = b.planHash := by
  constructor
  · intro h
    have hstages := stages_dump_eq_iff.mpr h.stages
    refine ⟨?_, h.planHash⟩
    simp only [CompiledWorkflowPlan.semantic, h.compilerVersion, h.graphHash, h.entryNodeId,
      h.triggerKind, hstages, h.outputNodeIds, h.requiredJobTypes, h.requiredResources,
      h.publishingNodeIds, h.supportsDryRun]
  · rintro ⟨h, hhash⟩
    simp only [CompiledWorkflowPlan.semantic, Json.obj.injEq, List.cons.injEq, Prod.mk.injEq,
      true_and, Json.arr.injEq, Json.str.injEq, Json.bool.injEq, and_true] at h
    obtain ⟨hversion, hentry, hgraph, houtput, hpublish, hjobs, hresources, hstages, hdry, hkind⟩ := h
    exact
      { compilerVersion := hversion
        graphHash := hgraph
        planHash := hhash
        entryNodeId := hentry
        triggerKind := TriggerKind.value_injective hkind
        stages := stages_dump_eq_iff.mp hstages
        outputNodeIds := map_str_injective houtput
        requiredJobTypes := map_str_injective hjobs
        requiredResources := map_str_injective hresources
        publishingNodeIds := map_str_injective hpublish
        supportsDryRun := hdry }

/-! ## What an acceptance says -/

variable {E : DefinitionEnv} {turns : Nat} {graph : WorkflowGraphV1}
  {modelValidate : Json → Option CompiledWorkflowPlan} {rawPlan : Json}
  {plan : CompiledWorkflowPlan}

theorem compileGraph_ownHash (h : compileGraph E turns graph = .ok plan) :
    plan.planHash = plan.ownHash E := by
  obtain ⟨_, _, _, _, _, rfl⟩ := compileGraph_ok_iff.mp h
  rfl

theorem verifyCompiledPlan_ok
    (h : verifyCompiledPlan E modelValidate turns graph rawPlan = .ok plan) :
    ∃ current, compileGraph E turns graph = .ok current
      ∧ plan.compilerVersion = current.compilerVersion ∧ plan.planHash = current.planHash := by
  unfold verifyCompiledPlan at h
  split at h
  · cases h
  split at h
  · cases h
  split at h
  · cases h
  rename_i current hcurrent
  split at h
  · cases h
  rename_i hsame
  rw [Except.ok.injEq] at h
  rw [not_or, not_not, not_not] at hsame
  exact ⟨current, hcurrent, h ▸ hsame⟩

/-- SHA-256 does not collide on the documents of two plans. -/
def CollisionFree (E : DefinitionEnv) (a b : CompiledWorkflowPlan) : Prop :=
  a.ownHash E = b.ownHash E → a.semantic = b.semantic

/--
**An accepted plan is the graph's exactly when its hash is its own.**

The plan `verify_compiled_plan` returns equals what the graph compiles to, field
by field, if and only if its `plan_hash` is the hash of its other fields.
-/
theorem verified_plan_pinned_iff
    (haccepted : verifyCompiledPlan E modelValidate turns graph rawPlan = .ok plan)
    (hcollision : ∀ current, compileGraph E turns graph = .ok current →
      CollisionFree E plan current) :
    (∃ current, compileGraph E turns graph = .ok current ∧ plan.Same current)
      ↔ plan.planHash = plan.ownHash E := by
  obtain ⟨current, hcompile, _, hhash⟩ := verifyCompiledPlan_ok haccepted
  have hown := compileGraph_ownHash hcompile
  constructor
  · rintro ⟨current', hcompile', hsame⟩
    have hcurrent : current' = current := by
      rw [hcompile, Except.ok.injEq] at hcompile'
      exact hcompile'.symm
    rw [hcurrent] at hsame
    have hsemantic := (CompiledWorkflowPlan.same_iff.mp hsame).1
    rw [hhash, hown, CompiledWorkflowPlan.ownHash, CompiledWorkflowPlan.ownHash, hsemantic]
  · intro hself
    have hequal : plan.ownHash E = current.ownHash E := by rw [← hself, hhash, hown]
    have hsemantic := hcollision current hcompile hequal
    exact ⟨current, hcompile, CompiledWorkflowPlan.same_iff.mpr ⟨hsemantic, hhash⟩⟩

/-! ## A plan as it was saved, and one that was tampered with -/

/-- `plan.model_dump(mode="json")`. -/
def CompiledWorkflowPlan.dump (plan : CompiledWorkflowPlan) : Json :=
  match plan.semantic with
  | .obj fields => .obj (fields ++ [("plan_hash", .str plan.planHash)])
  | document => document

/-- Reads the saved document back as the plan it is the dump of. -/
def readsBack (plan : CompiledWorkflowPlan) (rawPlan : Json) : Option CompiledWorkflowPlan :=
  if rawPlan = plan.dump then some plan else none

def reviewedPlan (sha256 : Json → String) : CompiledWorkflowPlan :=
  assemblePlan (plainEnv sha256) reviewedPublication .manual reviewedStages

theorem verifyCompiledPlan_reviewed (sha256 : Json → String) (plan : CompiledWorkflowPlan)
    (hversion : plan.compilerVersion = compilerVersion)
    (hhash : plan.planHash = (reviewedPlan sha256).planHash) :
    verifyCompiledPlan (plainEnv sha256) (readsBack plan) 4 reviewedPublication plan.dump
      = .ok plan := by
  have hget : plan.dump.get? "compiler_version" = some (.str plan.compilerVersion) := rfl
  unfold verifyCompiledPlan readsBack
  rw [hget, hversion, if_neg (by decide), reviewedPublication_compiles sha256, if_pos rfl]
  dsimp only
  have hcurrent : (assemblePlan (plainEnv sha256) reviewedPublication .manual
      reviewedStages).compilerVersion = compilerVersion := rfl
  rw [hversion, hcurrent, hhash, if_neg (by simp [reviewedPlan])]

/-- The plan a compilation saved is accepted, and is the graph's. -/
theorem verified_plan_pinned_reviewed :
    ∃ current, compileGraph (plainEnv fun _ => "h") 4 reviewedPublication = .ok current
      ∧ (reviewedPlan fun _ => "h").Same current := by
  have haccepted := verifyCompiledPlan_reviewed (fun _ => "h") (reviewedPlan fun _ => "h") rfl rfl
  refine (verified_plan_pinned_iff haccepted ?_).mpr rfl
  intro current hcurrent _
  rw [reviewedPublication_compiles, Except.ok.injEq] at hcurrent
  rw [← hcurrent]
  rfl

/-- The reviewed publication's plan with its review taken out, and its hash kept. -/
def withoutReview (sha256 : Json → String) : CompiledWorkflowPlan :=
  { reviewedPlan sha256 with
    stages := (reviewedPlan sha256).stages.filter fun stage => stage.nodeType ≠ "human_review" }

/-- Whatever the digest, the plan without its review is accepted for the graph
that has one. -/
theorem withoutReview_not_pinned : ¬ ∃ sha256 : Json → String,
      verifyCompiledPlan (plainEnv sha256) (readsBack (withoutReview sha256)) 4
          reviewedPublication (withoutReview sha256).dump = .ok (withoutReview sha256) →
        ∃ current, compileGraph (plainEnv sha256) 4 reviewedPublication = .ok current
          ∧ (withoutReview sha256).Same current := by
  rintro ⟨sha256, hpinned⟩
  have haccepted := verifyCompiledPlan_reviewed sha256 (withoutReview sha256) rfl rfl
  obtain ⟨current, hcompile, hsame⟩ := hpinned haccepted
  rw [reviewedPublication_compiles, Except.ok.injEq] at hcompile
  have hlength := hsame.stages.length_eq
  have hthree : (withoutReview sha256).stages.length = 3 := rfl
  have hfour : current.stages.length = 4 := by
    rw [← hcompile]
    rfl
  omega

end NewsCraft.Automations
