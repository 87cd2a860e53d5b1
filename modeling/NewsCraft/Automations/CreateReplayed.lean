import Mathlib.Data.List.Find
import NewsCraft.Automations.LifecycleAgreement

/-!
# Repeating a creation

`create_automation` answers a repeated idempotency key by comparing the request with the
automation as it stands now: its name, and the graph of its draft. So a repetition is
answered with the automation until it is renamed or its draft gets another graph, and is
refused from then on.
-/

namespace NewsCraft.Automations

open Lib Lib.Checked Table Option List

/-! ## Renaming -/

/-- `str.strip()`. -/
def stripName (name : String) : String :=
  String.ofList ((name.toList.dropWhile isPySpace).reverse.dropWhile isPySpace).reverse

inductive DefinitionRequest where
  | lifecycle (request : LifecycleRequest)
  | patch (automationId : UUID) (expectedRevision : Int) (name : Option String)

namespace DefinitionDb

variable (E : ServiceEnv) (db : DefinitionDb)

/-- `patch_automation`. -/
def patchAutomation (automationId : UUID) (expectedRevision : Int) (name : Option String) :
    Except ServiceStop (Automation × DefinitionDb) := do
  let automation ← db.automationForUpdate automationId
  checkRevision automation expectedRevision
  require (automation.archivedAt = none)
    (error "automation_dependency_conflict" 409 "Archived Automation cannot be edited.")
  flush db { automation with
      name := (name.map stripName).getD automation.name
      revision := automation.revision + 1 }

def edit : DefinitionRequest → DefinitionDb
  | .lifecycle request => db.next E request
  | .patch automationId expectedRevision name =>
    commit db (db.patchAutomation automationId expectedRevision name)

/-- The automation a creation under the key made. -/
def createdBy (key : String) : Option Automation :=
  db.automations.rows.find? fun automation => automation.idempotencyKey = some key

/-- The version of the automation a request under the key made. -/
def versionUnder (automationId : UUID) (key : String) : Option AutomationVersion :=
  db.versions.rows.find? fun version =>
    version.automationId = automationId ∧ version.idempotencyKey = some key

/-- The hash of the graph the automation's draft has. -/
def draftHash (automation : Automation) : Option String :=
  (automation.draftVersionId.bind db.versions.lookup).map AutomationVersion.graphHash

/-- The request is answered with the automation, and nothing is written. -/
def Replays (automationId : UUID) (name : String) (graph : WorkflowGraphV1) (key : String)
    (newAutomationId newVersionId : UUID) : Prop :=
  ∃ row, createAutomation E db name graph key newAutomationId newVersionId = .ok (row, db)
    ∧ row.id = automationId

/-- The automation still has the name, and its draft the graph. -/
def Unedited (automationId : UUID) (name hash : String) : Prop :=
  ∃ row, db.automations.lookup automationId = some row ∧ row.name = name
    ∧ db.draftHash row = some hash

/-- The request, if it goes through, leaves the automation its name and its draft the
graph. -/
def KeepsInput (automationId : UUID) (name hash : String) (db : DefinitionDb) :
    DefinitionRequest → Prop
  | .patch target _ newName =>
    target = automationId → ∀ given, newName = some given → stripName given = name
  | .lifecycle (.createVersion target _ graph key _) =>
    target = automationId → db.versionUnder target key = none →
      graphSha256 E.definitions graph = hash
  | .lifecycle (.restore target versionNumber _ key _) =>
    target = automationId → db.versionUnder target key = none →
      ∀ source graph, db.versionByNumber target versionNumber = .ok source →
        E.readGraph source.graph = some graph → graphSha256 E.definitions graph = hash
  | _ => True

/-! ## What a request writes -/

/-- One automation is written back, under the key it has; no version is lost. -/
structure Writes (db db' : DefinitionDb) (old new : Automation) : Prop where
  loaded : db.automations.lookup old.id = some old
  id_eq : new.id = old.id
  key_eq : new.idempotencyKey = old.idempotencyKey
  automations_eq : db'.automations = db.automations.put new
  versions : ∀ id version, db.versions.lookup id = some version →
    db'.versions.lookup id = some version

inductive Edited (request : DefinitionRequest) (db' : DefinitionDb) : Prop
  | kept (h : db' = db)
  | created (out : Automation) (version : AutomationVersion) (key : String)
      (hkey : out.idempotencyKey = some key) (hnew : db.createdBy key = none)
      (hfree : db.automations.lookup out.id = none)
      (h : db' = { db with
          automations := db.automations.insert out
          versions := db.versions.insert version })
  | written (old new : Automation) (h : Writes db db' old new)
      (hkeeps : ∀ name hash, KeepsInput E old.id name hash db request → old.name = name →
        db.draftHash old = some hash → new.name = name ∧ db'.draftHash new = some hash)

variable {E db}

variable {db' : DefinitionDb} {old new : Automation} {hash : String}

theorem draftHash_of_versions
    (hversions : ∀ id version, db.versions.lookup id = some version → db'.versions.lookup id = some
      version) (hdraft : new.draftVersionId = old.draftVersionId) (h : db.draftHash old = some hash)
    :
    db'.draftHash new = some hash := by
  simp only [draftHash, map_eq_some_iff, bind_eq_some_iff] at h ⊢
  obtain ⟨version, ⟨id, hid, hlookup⟩, heq⟩ := h
  exact ⟨version, ⟨id, hdraft.trans hid, hversions id version hlookup⟩, heq⟩

variable {automationId : UUID}

theorem writes_of_lookup (hlookup : db.automations.lookup automationId = some old)
    (hautomations : db'.automations = db.automations.put new)
    (hversions : db'.versions = db.versions) (hid : new.id = old.id)
    (hkey : new.idempotencyKey = old.idempotencyKey) : Writes db db' old new where
  loaded := by
    have hloaded : old.id = automationId := key_of_lookup hlookup
    rw [hloaded]
    exact hlookup
  id_eq := hid
  key_eq := hkey
  automations_eq := hautomations
  versions := by
    intro id version h
    rw [hversions]
    exact h

theorem edited_of_put {request : DefinitionRequest} {automationId : UUID} {db' : DefinitionDb}
    {old new : Automation} {scheduler : Jobs.SchedulerDb}
    (hlookup : db.automations.lookup automationId = some old)
    (heq : db' = { db with
        automations := db.automations.put new
        scheduler := scheduler })
    (hid : new.id = old.id) (hkey : new.idempotencyKey = old.idempotencyKey)
    (hname : new.name = old.name) (hdraft : new.draftVersionId = old.draftVersionId) :
    Edited E db request db' := by
  subst heq
  have hwrites : Writes db { db with
        automations := db.automations.put new
        scheduler := scheduler } old new :=
    writes_of_lookup hlookup rfl rfl hid hkey
  refine .written old new hwrites ?_
  intro name hash _ holdName hhash
  exact ⟨hname.trans holdName, draftHash_of_versions hwrites.versions hdraft hhash⟩

variable {versionId : UUID} {graph : WorkflowGraphV1} {key : String}

theorem newVersion_hash {number : Nat} {version : AutomationVersion}
    (h : newVersion E automationId graph number key versionId = .ok version) :
    version.graphHash = graphSha256 E.definitions graph := by
  rw [newVersion] at h
  simp only [bind_ok_iff] at h
  obtain ⟨plan, -, heq⟩ := h
  cases heq
  rfl

variable {name : String} {out : Automation}

theorem createAutomation_edited (request : DefinitionRequest)
    (h : createAutomation E db name graph key automationId versionId = .ok (out, db')) :
    Edited E db request db' := by
  unfold createAutomation at h
  cases hfind : db.automations.rows.find? fun automation =>
      automation.idempotencyKey = some key with
  | some existing =>
    simp only [hfind, bind_ok_iff, require_ok_iff] at h
    obtain ⟨-, -, heq⟩ := h
    cases heq
    exact .kept rfl
  | none =>
    simp only [hfind, bind_ok_iff, require_ok_iff] at h
    obtain ⟨-, -, version, -, -, hfree, -, -, heq⟩ := h
    cases heq
    exact .created _ version key rfl hfind hfree rfl

variable {request : DefinitionRequest}

theorem createVersion_edited {expectedRevision : Int} {out : AutomationVersion}
    (h : createVersion E db automationId expectedRevision graph key versionId = .ok (out, db'))
    (hrequest : ∀ name hash, KeepsInput E automationId name hash db request → db.versionUnder
      automationId key = none → graphSha256 E.definitions graph = hash) :
    Edited E db request db' := by
  unfold createVersion at h
  rw [bind_ok_iff] at h
  obtain ⟨automation, hautomation, h⟩ := h
  rw [automationForUpdate, orStop_ok_iff] at hautomation
  have hid : automation.id = automationId := key_of_lookup hautomation
  cases hfind : db.versions.rows.find? fun version =>
      version.automationId = automationId ∧ version.idempotencyKey = some key with
  | some existing =>
    simp only [hfind, bind_ok_iff, require_ok_iff] at h
    obtain ⟨-, -, heq⟩ := h
    cases heq
    exact .kept rfl
  | none =>
    simp only [hfind, bind_ok_iff, require_ok_iff] at h
    obtain ⟨-, -, -, -, -, -, version, hversion, -, hfree, ⟨row, flushed⟩, hflush, heq⟩ := h
    obtain ⟨-, hdb⟩ := flush_ok hflush
    have hversionId := newVersion_id hversion
    have hfree' : db.versions.lookup (Keyed.key version) = none := by
      have hkey : Keyed.key version = versionId := hversionId
      rw [hkey]
      exact hfree
    cases heq
    subst hdb
    refine .written automation { automation with
        draftVersionId := some out.id
        revision := automation.revision + 1 } ⟨?_, rfl, rfl, rfl, ?_⟩ ?_
    · rw [hid]
      exact hautomation
    · intro id version' hlookup
      exact lookup_insert_of_some hlookup
    · intro name hash hkeeps hname _
      rw [hid] at hkeeps
      refine ⟨hname, ?_⟩
      simp only [draftHash, bind_some, map_eq_some_iff]
      refine ⟨out, (lookup_insert hfree').1, ?_⟩
      rw [newVersion_hash hversion]
      exact hrequest name hash hkeeps hfind

theorem patchAutomation_edited {expectedRevision : Int} {newName : Option String}
    (h : db.patchAutomation automationId expectedRevision newName = .ok (out, db')) :
    Edited E db (.patch automationId expectedRevision newName) db' := by
  rw [patchAutomation] at h
  simp only [bind_ok_iff, require_ok_iff] at h
  obtain ⟨automation, hautomation, -, -, -, -, hflush⟩ := h
  rw [automationForUpdate, orStop_ok_iff] at hautomation
  obtain ⟨-, rfl⟩ := flush_ok hflush
  refine .written automation { automation with
      name := (newName.map stripName).getD automation.name
      revision := automation.revision + 1 } (writes_of_lookup hautomation rfl rfl rfl rfl) ?_
  intro name hash hkeeps hname hhash
  refine ⟨?_, hhash⟩
  cases newName with
  | none => exact hname
  | some given => exact hkeeps (key_of_lookup hautomation).symm given rfl

/-- Every request leaves the automations alone, adds one under a key of its own, or
writes one back. -/
theorem edit_edited (request : DefinitionRequest) : Edited E db request (db.edit E request) := by
  cases request with
  | patch automationId expectedRevision newName =>
    rcases commit_cases db (db.patchAutomation automationId expectedRevision newName) with
      heq | ⟨out, hok⟩
    · exact .kept heq
    · exact patchAutomation_edited hok
  | lifecycle request =>
    cases request with
    | create name graph key automationId versionId =>
      rcases commit_cases db (createAutomation E db name graph key automationId versionId) with
        heq | ⟨out, hok⟩
      · exact .kept heq
      · exact createAutomation_edited _ hok
    | createVersion automationId expectedRevision graph key versionId =>
      rcases commit_cases db
        (createVersion E db automationId expectedRevision graph key versionId) with
        heq | ⟨out, hok⟩
      · exact .kept heq
      · refine createVersion_edited hok ?_
        intro name hash hkeeps
        exact hkeeps rfl
    | restore automationId versionNumber expectedRevision key versionId =>
      rcases commit_cases db
        (restoreVersion E db automationId versionNumber expectedRevision key versionId) with
        heq | ⟨out, hok⟩
      · exact .kept heq
      · have hrestored := hok
        rw [restoreVersion] at hrestored
        simp only [bind_ok_iff, orStop_ok_iff] at hrestored
        obtain ⟨source, hsource, graph, hgraph, hsaved⟩ := hrestored
        refine createVersion_edited hsaved ?_
        intro name hash hkeeps hfresh
        exact hkeeps rfl hfresh source graph hsource hgraph
    | activate automationId expectedRevision key findings prompts scheduleId now =>
      rcases commit_cases db
        (activate E db automationId expectedRevision key findings prompts scheduleId now) with
        heq | ⟨out, hok⟩
      · exact .kept heq
      · rcases activate_ok hok with heq | hwritten
        · exact .kept heq
        · obtain ⟨automation, version, plan, scheduler, hlookup, -, -, -, -, -, heq⟩ := hwritten
          exact edited_of_put hlookup heq rfl rfl rfl rfl
    | pause automationId expectedRevision =>
      rcases commit_cases db (db.pause automationId expectedRevision) with heq | ⟨out, hok⟩
      · exact .kept heq
      · obtain ⟨automation, hlookup, -, heq⟩ := pause_ok hok
        exact edited_of_put hlookup heq rfl rfl rfl rfl
    | resume automationId expectedRevision refusal =>
      rcases commit_cases db (db.resume automationId expectedRevision refusal) with
        heq | ⟨out, hok⟩
      · exact .kept heq
      · obtain ⟨automation, hlookup, -, -, -, -, heq⟩ := resume_ok hok
        exact edited_of_put hlookup heq rfl rfl rfl rfl
    | archive automationId expectedRevision activeRun routeEnabled now =>
      rcases commit_cases db
        (db.archive automationId expectedRevision activeRun routeEnabled now) with
        heq | ⟨out, hok⟩
      · exact .kept heq
      · obtain ⟨automation, hlookup, heq⟩ := archive_ok hok
        exact edited_of_put hlookup heq rfl rfl rfl rfl

/-! ## What a key created -/

variable {row : Automation}

theorem lookup_of_createdBy (h : db.createdBy key = some row) :
    db.automations.lookup row.id = some row :=
  lookup_of_mem (mem_of_find?_eq_some h)

theorem createdBy_of_writes (h : Writes db db' old new) (key : String) : db'.createdBy key
      = (db.createdBy key).map fun row => if row.id = new.id then new else row := by
  have hkeys : ∀ row ∈ db.automations.rows,
      (if row.id = new.id then new else row).idempotencyKey = row.idempotencyKey := by
    intro row hrow
    by_cases hid : row.id = new.id
    · have hsame : row = old :=
        row_unique hrow (mem_of_lookup h.loaded) (hid.trans h.id_eq)
      rw [if_pos hid, hsame]
      exact h.key_eq
    · rw [if_neg hid]
  unfold createdBy
  rw [h.automations_eq, Table.put]
  rw [find?_map]
  congr 1
  apply find?_congr
  intro row hrow
  simp only [Function.comp]
  congr 1
  exact congrArg (· = some key) (hkeys row hrow)

theorem Edited.createdBy (h : Edited E db request db') (hrow : db.createdBy key = some row) :
    ∃ row', db'.createdBy key = some row' ∧ row'.id = row.id := by
  cases h with
  | kept heq => exact ⟨row, by rw [heq]; exact hrow, rfl⟩
  | created out version used hkey hnew hfree heq =>
    refine ⟨row, ?_, rfl⟩
    have hother : ¬ out.idempotencyKey = some key := by
      intro hsame
      rw [hkey, Option.some.injEq] at hsame
      rw [hsame, hrow] at hnew
      cases hnew
    subst heq
    unfold DefinitionDb.createdBy
    rw [rows_insert hfree, find?_cons_of_neg (by simpa using hother)]
    exact hrow
  | written old new hwrites hkeeps =>
    rw [createdBy_of_writes hwrites, hrow]
    refine ⟨if row.id = new.id then new else row, rfl, ?_⟩
    by_cases hid : row.id = new.id
    · rw [if_pos hid, hid]
    · rw [if_neg hid]

theorem Edited.unedited (h : Edited E db request db')
    (hkept : KeepsInput E automationId name hash db request)
    (hunedited : db.Unedited automationId name hash) : db'.Unedited automationId name hash := by
  obtain ⟨row, hlookup, hname, hhash⟩ := hunedited
  have hrow : row.id = automationId := key_of_lookup hlookup
  cases h with
  | kept heq =>
    rw [heq]
    exact ⟨row, hlookup, hname, hhash⟩
  | created out version used hkey hnew hfree heq =>
    subst heq
    refine ⟨row, lookup_insert_of_some hlookup, hname, ?_⟩
    refine draftHash_of_versions ?_ rfl hhash
    intro id version' hversion
    exact lookup_insert_of_some hversion
  | written old new hwrites hkeeps =>
    by_cases hid : automationId = new.id
    · have hold : old.id = automationId := hwrites.id_eq.symm.trans hid.symm
      have hloaded := hwrites.loaded
      rw [hold, hlookup, Option.some.injEq] at hloaded
      rw [← hloaded, hrow] at hkeeps
      obtain ⟨hname', hhash'⟩ := hkeeps name hash hkept hname hhash
      refine ⟨new, ?_, hname', hhash'⟩
      rw [hwrites.automations_eq]
      exact lookup_put_automation hlookup (hwrites.id_eq.trans (by rw [hloaded]))
    · refine ⟨row, ?_, hname, draftHash_of_versions hwrites.versions rfl hhash⟩
      rw [hwrites.automations_eq, lookup_put_of_ne hid]
      exact hlookup

/-! ## Later operations -/

theorem createdBy_edits (requests : List DefinitionRequest) (h : db.createdBy key = some row) :
    ∃ row', (requests.foldl (edit E) db).createdBy key = some row' ∧ row'.id = row.id := by
  induction requests generalizing db row with
  | nil => exact ⟨row, h, rfl⟩
  | cons request rest ih =>
    obtain ⟨next, hnext, hid⟩ := (edit_edited request).createdBy h
    obtain ⟨last, hlast, hid'⟩ := ih hnext
    exact ⟨last, hlast, hid'.trans hid⟩

theorem unedited_edits {requests : List DefinitionRequest}
    (hkept : System.Along (KeepsInput E automationId name hash) (edit E) db requests)
    (h : db.Unedited automationId name hash) :
    (requests.foldl (edit E) db).Unedited automationId name hash := by
  induction requests generalizing db with
  | nil => exact h
  | cons request rest ih => exact ih hkept.2 ((edit_edited request).unedited hkept.1 h)

theorem replays_iff (h : db.createdBy key = some row) (newAutomationId newVersionId : UUID) :
    Replays E db row.id name graph key newAutomationId newVersionId
      ↔ db.Unedited row.id name (graphSha256 E.definitions graph) := by
  have hfind : (db.automations.rows.find? fun automation =>
      automation.idempotencyKey = some key) = some row := h
  unfold Replays createAutomation
  rw [hfind]
  constructor
  · intro hreplays
    obtain ⟨out, hok, -⟩ := hreplays
    simp only [bind_ok_iff, require_ok_iff] at hok
    obtain ⟨-, ⟨hname, hhash⟩, -⟩ := hok
    exact ⟨row, lookup_of_createdBy h, hname, hhash⟩
  · intro hunedited
    obtain ⟨found, hlookup, hname, hhash⟩ := hunedited
    rw [lookup_of_createdBy h, Option.some.injEq] at hlookup
    subst hlookup
    exact ⟨row, bind_ok_iff.mpr ⟨(), require_ok_iff.mpr ⟨hname, hhash⟩, rfl⟩, rfl⟩

theorem createAutomation_unedited
    (h : createAutomation E db name graph key automationId versionId = .ok (out, db')) :
    db'.createdBy key = some out ∧ db'.Unedited out.id name (graphSha256 E.definitions graph) := by
  unfold createAutomation at h
  cases hfind : db.automations.rows.find? fun automation =>
      automation.idempotencyKey = some key with
  | some existing =>
    simp only [hfind, bind_ok_iff, require_ok_iff] at h
    obtain ⟨-, ⟨hname, hhash⟩, heq⟩ := h
    cases heq
    exact ⟨hfind, _, lookup_of_createdBy hfind, hname, hhash⟩
  | none =>
    simp only [hfind, bind_ok_iff, require_ok_iff] at h
    obtain ⟨-, -, version, hversion, -, hfree, -, hversionFree, heq⟩ := h
    have hversionId := newVersion_id hversion
    have hfree' : db.versions.lookup (Keyed.key version) = none := by
      have hkey : Keyed.key version = versionId := hversionId
      rw [hkey]
      exact hversionFree
    cases heq
    refine ⟨?_, _, (lookup_insert hfree).1, rfl, ?_⟩
    · unfold createdBy
      rw [rows_insert hfree, find?_cons_of_pos (by simp)]
    · simp only [draftHash, bind_some, map_eq_some_iff]
      exact ⟨version, (lookup_insert hfree').1, newVersion_hash hversion⟩

/-- **After any later requests, a creation is answered with the automation it made exactly
if that has its name and its draft its graph; requests that keep them keep it so.** -/
theorem create_replays_iff {name : String} {graph : WorkflowGraphV1} {key : String}
    {automationId versionId : UUID} {out : Automation} {db' : DefinitionDb}
    (h : createAutomation E db name graph key automationId versionId = .ok (out, db'))
    (later : List DefinitionRequest) (newAutomationId newVersionId : UUID) :
    (Replays E (later.foldl (edit E) db') out.id name graph key newAutomationId newVersionId
        ↔ (later.foldl (edit E) db').Unedited out.id name (graphSha256 E.definitions graph))
      ∧ (System.Along (KeepsInput E out.id name (graphSha256 E.definitions graph)) (edit E) db'
            later →
          Replays E (later.foldl (edit E) db') out.id name graph key newAutomationId
            newVersionId) := by
  obtain ⟨hcreated, hunedited⟩ := createAutomation_unedited h
  obtain ⟨row, hrow, hid⟩ := createdBy_edits (E := E) later hcreated
  have hiff : Replays E (later.foldl (edit E) db') row.id name graph key newAutomationId
      newVersionId ↔ (later.foldl (edit E) db').Unedited row.id name
        (graphSha256 E.definitions graph) :=
    replays_iff hrow newAutomationId newVersionId
  rw [hid] at hiff
  refine ⟨hiff, ?_⟩
  intro hkept
  exact hiff.mpr (unedited_edits hkept hunedited)

/-! ## A workflow that is renamed -/

theorem headlines_created : createAutomation sampleEnv empty "Headlines" hourlyDrafts "create" 1 11
      = .ok (createdRow, createdDb) := by
  have hversion := newVersion_of_compiles (E := sampleEnv) (by decide) hourlyDrafts_compiles 1 11 1
    "create:version:1"
  refine bind_ok_iff.mpr ⟨(), requireSaveable_of_findings hourlyDrafts_findings, ?_⟩
  refine bind_ok_iff.mpr ⟨hourlyVersion, hversion, ?_⟩
  refine bind_ok_iff.mpr ⟨(), require_ok_iff.mpr rfl, ?_⟩
  exact bind_ok_iff.mpr ⟨(), require_ok_iff.mpr rfl, rfl⟩

/-- Once it is activated, the creation is still answered. -/
theorem activated_replays : Replays sampleEnv (createdDb.edit sampleEnv
        (.lifecycle (.activate 1 1 "activate" [] none 21 0))) 1 "Headlines" hourlyDrafts "create"
      2 13 :=
  (create_replays_iff headlines_created [.lifecycle (.activate 1 1 "activate" [] none 21 0)] 2
    13).2 ⟨trivial, trivial⟩

/-- Once it is renamed, the creation is refused. -/
theorem renamed_not_replays :
    ¬ Replays sampleEnv (createdDb.edit sampleEnv (.patch 1 1 (some "Morning headlines"))) 1
      "Headlines" hourlyDrafts "create" 2 13 := by
  intro hreplays
  have hrenamed : (createdDb.edit sampleEnv (.patch 1 1 (some "Morning headlines"))).createdBy
      "create" = some { createdRow with name := "Morning headlines", revision := 2 } := by
    decide +kernel
  obtain ⟨row, hlookup, hname, -⟩ := (replays_iff hrenamed 2 13).mp hreplays
  rw [lookup_of_createdBy hrenamed, Option.some.injEq] at hlookup
  rw [← hlookup] at hname
  exact absurd hname (by decide)

end DefinitionDb

end NewsCraft.Automations
