import Mathlib.Data.List.Find
import NewsCraft.Jobs.Types
import NewsCraft.Lib.Canonical
import NewsCraft.Lib.Paging

/-!
# The operations history

A page of the history is one statement: the events in the asked category that the other
filters select, those after the cursor, newest first. Each row is then labelled by the same
rules in Python, and a row without a label would be dropped from a page that has already been
counted. The SQL of the rules has nulls, for an event without a job; Python has none.
-/

namespace NewsCraft.Operations

open Lib Jobs Paging List

inductive HistoryCategory where
  | automation
  | collection
  | research
  | generation
  | edit
  | approval
  | schedule
  | publish
  | retry
  | pause
  | cancel
  | reconcile
  deriving DecidableEq

structure WorkflowEvent where
  id : UUID
  workflowJobId : Option UUID
  eventType : String
  actor : String
  eventData : Json
  createdAt : Datetime
  deriving DecidableEq

instance : Keyed WorkflowEvent UUID := ⟨WorkflowEvent.id⟩

structure HistoryDb where
  events : Table WorkflowEvent
  jobs : Table WorkflowJob

structure HistoryEntry where
  id : UUID
  occurredAt : Datetime
  category : HistoryCategory
  jobId : Option UUID

/-! ## The taxonomy -/

/-- `_DOMAIN_JOB_EVENT_TYPES`. -/
def domainJobEventTypes : List String :=
  ["job.claimed", "job.enqueued", "job.failed", "job.heartbeat", "job.needs_review",
    "job.succeeded"]

/-- `_EVENT_CATEGORY_RULES`. -/
def eventCategoryRules : List (List String × HistoryCategory) :=
  [(["telegram.publish.reconciled_not_published", "telegram.publish.reconciled_published"],
      .reconcile),
    (["job.lease_expired", "job.retried", "job.retry_scheduled"], .retry),
    (["job.cancelled", "manual_publication.plan.cancelled"], .cancel),
    (["automation.control_updated"], .pause),
    (["manual_publication.plan.created", "schedule.invalid", "telegram.publish.scheduled"],
      .schedule),
    (["research.failed", "research.stale_attempt_ignored", "research.succeeded",
      "telegram.research.review_required"], .research),
    (["telegram.generation.completed", "telegram.generation.failed", "telegram.process.blocked",
      "telegram.process.deferred"], .generation),
    (["content_pack.revision.approved", "content_pack.revision.rejected",
      "telegram.revision.approved", "telegram.revision.auto_approved",
      "telegram.revision.rejected", "telegram.revision.review_required"], .approval),
    (["manual_publication.plan.checklist_updated", "story.editorial_state_changed",
      "telegram.revision.edited", "telegram.source_edit.revision_created"], .edit),
    (["manual_publication.plan.published", "telegram.publish.blocked",
      "telegram.publish.requested", "telegram.publish.succeeded",
      "telegram.revision.publish_requested"], .publish),
    (["manual_intake.completed", "telegram.source.captured"], .collection)]

/-- `_AUTOMATION_EVENT_PREFIX`. -/
def automationEventPrefix : List Char := "automation.".toList

/-- `_JOB_CATEGORY_RULES`. -/
def jobCategoryRules : List (List String × HistoryCategory) :=
  [(["ingest.collect", "manual_intake", "story.group_pending", "telegram.route.backfill",
      "telegram.route.dry_run", "telegram.route.initialize", "telegram.route.poll"], .collection),
    (["research_story"], .research),
    (["build_export", "content_pack.generate", "content_pack.generate_telegram",
      "content_pack.regenerate", "telegram.route.process"], .generation),
    (["telegram.destination.check", "telegram.proxy.check", "telegram.publish"], .publish),
    (["automation.run.start"], .automation)]

def firstRule (rules : List (List String × HistoryCategory)) (value : String) :
    Option HistoryCategory :=
  (rules.find? fun rule => rule.1.contains value).map Prod.snd

/-- `_category_for`. -/
def categoryFor (eventType : String) (jobType : Option String) : Option HistoryCategory :=
  match firstRule eventCategoryRules eventType with
  | some category => some category
  | none =>
    if automationEventPrefix.isPrefixOf eventType.toList then
      some .automation
    else if domainJobEventTypes.contains eventType then
      jobType.bind (firstRule jobCategoryRules)
    else
      none

/-! ## The same in SQL -/

/-- `IN` and `AND`, with `none` for null. -/
def sqlIn (values : List String) (value : Option String) : Option Bool :=
  value.map values.contains

def sqlAnd : Option Bool → Option Bool → Option Bool
  | some false, _ => some false
  | some true, b => b
  | none, some false => some false
  | none, _ => none

/-- `LIKE`. -/
def like : List Char → List Char → Bool
  | [], text => text.isEmpty
  | '%' :: pattern, [] => like pattern []
  | '%' :: pattern, c :: text => like pattern (c :: text) || like ('%' :: pattern) text
  | '\\' :: e :: pattern, c :: text => e = c && like pattern text
  | '_' :: pattern, _ :: text => like pattern text
  | p :: pattern, c :: text => p = c && like pattern text
  | _ :: _, [] => false
termination_by pattern text => pattern.length + text.length

/-- `CASE`: the first condition that is true, neither false nor null. -/
def sqlCase (branches : List (Option Bool × HistoryCategory)) : Option HistoryCategory :=
  (branches.find? fun branch => branch.1 = some true).map Prod.snd

/-- `_category_expression`; `none` for `'unknown'`. -/
def categoryExpression (eventType : String) (jobType : Option String) : Option HistoryCategory :=
  sqlCase (eventCategoryRules.map (fun rule => (sqlIn rule.1 (some eventType), rule.2))
    ++ [(some (like (automationEventPrefix ++ ['%']) eventType.toList), .automation)]
    ++ jobCategoryRules.map fun rule =>
      (sqlAnd (sqlIn domainJobEventTypes (some eventType)) (sqlIn rule.1 jobType), rule.2))

/-! ## Pages -/

/-- What a request asks for. What `_subject_criterion` and `_status_criterion` select is any
property of an event and its job. -/
structure HistoryFilters where
  selects : WorkflowEvent → Option WorkflowJob → Bool
  category : Option HistoryCategory
  limit : Int

abbrev HistoryRow := WorkflowEvent × Option WorkflowJob

def position (row : HistoryRow) : Datetime × UUID := (row.1.createdAt, row.1.id)

/-- Of two positions, the one that comes later in the history. -/
def Older (a b : Datetime × UUID) : Prop := a.1 < b.1 ∨ a.1 = b.1 ∧ a.2.int < b.2.int

instance : DecidableRel Older := fun a b =>
  inferInstanceAs (Decidable (a.1 < b.1 ∨ a.1 = b.1 ∧ a.2.int < b.2.int))

variable (db : HistoryDb) (filters : HistoryFilters)

def joined : List HistoryRow :=
  db.events.rows.map fun event => (event, event.workflowJobId.bind db.jobs.lookup)

def HistoryFilters.admits (row : HistoryRow) : Bool :=
  let expression := categoryExpression row.1.eventType (row.2.map WorkflowJob.jobType)
  filters.selects row.1 row.2 && match filters.category with
    | some category => decide (expression = some category)
    | none => expression.isSome

/-- `history_statement`, less its limit. -/
def historyStatement (cursor : Option (Datetime × UUID)) : List HistoryRow :=
  ((joined db).filter fun row => (cursor.all fun c => Older (position row) c)
    && filters.admits row).insertionSort fun a b => ¬ Older (position a) (position b)

/-- `_entry`, less its texts. -/
def entry (row : HistoryRow) : Option HistoryEntry :=
  (categoryFor row.1.eventType (row.2.map WorkflowJob.jobType)).map fun category =>
    { id := row.1.id
      occurredAt := row.1.createdAt
      category := category
      jobId := row.1.workflowJobId }

/-- `HistoryService.list`. -/
def historyList (cursor : Option (Datetime × UUID)) :
    Except String (List HistoryEntry × Option (Datetime × UUID)) :=
  if ¬ (1 ≤ filters.limit ∧ filters.limit ≤ 100) then
    .error "history limit must be between 1 and 100"
  else
    let limit := filters.limit.toNat
    let rows := (historyStatement db filters cursor).take (limit + 1)
    let page := rows.take limit
    .ok (page.filterMap entry, if limit < rows.length then page.getLast?.map position else none)

/-! ## The two taxonomies agree -/

theorem like_prefix {start : List Char} (hplain : '%' ∉ start ∧ '_' ∉ start ∧ '\\' ∉ start)
    (text : List Char) : like (start ++ ['%']) text = start.isPrefixOf text := by
  induction start generalizing text with
  | nil =>
    rw [nil_append, isPrefixOf_nil_left]
    induction text with
    | nil => simp [like]
    | cons c text ih => simp [like, ih]
  | cons p start ih =>
    simp only [mem_cons, not_or] at hplain
    obtain ⟨⟨hpercent, hpercents⟩, ⟨hunderscore, hunderscores⟩, hescape, hescapes⟩ := hplain
    cases text with
    | nil =>
      rw [cons_append, like]
      · rfl
      · exact fun h => hpercent h.symm
    | cons c text =>
      rw [cons_append, like, ih ⟨hpercents, hunderscores, hescapes⟩]
      · rw [isPrefixOf_cons_cons, Bool.beq_eq_decide_eq]
      · exact fun h => hpercent h.symm
      · exact fun _ _ h _ => hescape h.symm
      · exact fun h => hunderscore h.symm

theorem sqlCase_rules (rules : List (List String × HistoryCategory))
    (condition : List String → Option Bool) (p : List String → Bool)
    (h : ∀ types, condition types = some true ↔ p types = true) :
    sqlCase (rules.map fun rule => (condition rule.1, rule.2))
      = (rules.find? fun rule => p rule.1).map Prod.snd := by
  rw [sqlCase, find?_map, Option.map_map]
  refine congrArg (Option.map Prod.snd) (find?_congr fun rule _ => ?_)
  rw [Function.comp, Bool.eq_iff_iff, decide_eq_true_iff]
  exact h rule.1

theorem sqlCase_append {branches later : List (Option Bool × HistoryCategory)} :
    sqlCase (branches ++ later) = (sqlCase branches).or (sqlCase later) := by
  rw [sqlCase, find?_append, Option.map_or]
  rfl

/-- **The statement and the labels read the rules alike**, also where there is no job. -/
theorem categoryExpression_eq (eventType : String) (jobType : Option String) :
    categoryExpression eventType jobType = categoryFor eventType jobType := by
  have hevent : sqlCase (eventCategoryRules.map fun rule => (sqlIn rule.1 (some eventType), rule.2))
      = firstRule eventCategoryRules eventType :=
    sqlCase_rules _ (fun types => sqlIn types (some eventType))
      (fun types => types.contains eventType) fun types => by simp [sqlIn]
  have hjob : sqlCase (jobCategoryRules.map fun rule =>
      (sqlAnd (sqlIn domainJobEventTypes (some eventType)) (sqlIn rule.1 jobType), rule.2))
        = if domainJobEventTypes.contains eventType then jobType.bind (firstRule jobCategoryRules)
          else none := by
    refine (sqlCase_rules _
      (fun types => sqlAnd (sqlIn domainJobEventTypes (some eventType)) (sqlIn types jobType))
      (fun types => domainJobEventTypes.contains eventType && jobType.any types.contains)
      fun types => ?_).trans ?_
    · rw [sqlIn, Option.map_some]
      cases domainJobEventTypes.contains eventType <;> cases jobType <;> simp [sqlAnd, sqlIn]
    · cases domainJobEventTypes.contains eventType <;> cases jobType <;> simp [firstRule]
  have hlike : like (automationEventPrefix ++ ['%']) eventType.toList
      = automationEventPrefix.isPrefixOf eventType.toList :=
    like_prefix (by decide) _
  rw [categoryExpression, sqlCase_append, sqlCase_append, hevent, hjob, hlike, categoryFor]
  cases firstRule eventCategoryRules eventType with
  | some category => rfl
  | none =>
    cases automationEventPrefix.isPrefixOf eventType.toList <;> simp [sqlCase]

/-! ## The order of the statement -/

theorem Older.trans (a b c : Datetime × UUID) (h : Older a b) (h' : Older b c) : Older a c := by
  rcases h with hlt | ⟨heq, hlt⟩ <;> rcases h' with hlt' | ⟨heq', hlt'⟩
  · exact .inl (Int.lt_trans hlt hlt')
  · exact .inl (heq' ▸ hlt)
  · exact .inl (heq ▸ hlt')
  · exact .inr ⟨heq.trans heq', BitVec.lt_trans hlt hlt'⟩

theorem Older.irrefl (a : Datetime × UUID) : ¬ Older a a := by
  rintro (hlt | ⟨-, hlt⟩)
  · exact Int.lt_irrefl _ hlt
  · exact BitVec.lt_irrefl _ hlt

theorem older_or {a b : Datetime × UUID} (h : ¬ Older a b) : Older b a ∨ a = b := by
  rw [Older, not_or, not_and] at h
  rcases Int.lt_or_eq_of_le (Int.not_lt.mp h.1) with hlt | heq
  · exact .inl (.inl hlt)
  rcases Nat.lt_or_eq_of_le (Nat.not_lt.mp (h.2 heq.symm)) with hlt | hid
  · exact .inl (.inr ⟨heq, hlt⟩)
  · refine .inr (Prod.ext heq.symm ?_)
    cases ha : a.2
    cases hb : b.2
    rw [ha, hb] at hid
    exact congrArg UUID.mk (BitVec.eq_of_toNat_eq hid.symm)

variable {db : HistoryDb} {filters : HistoryFilters}

abbrev NotOlder (a b : HistoryRow) : Prop := ¬ Older (position a) (position b)

theorem position_inj {row row' : HistoryRow} (h : row ∈ joined db) (h' : row' ∈ joined db)
    (hposition : position row = position row') : row = row' := by
  obtain ⟨event, hevent, rfl⟩ := mem_map.mp h
  obtain ⟨event', hevent', rfl⟩ := mem_map.mp h'
  have hid : event.id = event'.id := congrArg Prod.snd hposition
  rw [inj_on_of_nodup_map db.events.nodup hevent hevent' hid]

def admitted (db : HistoryDb) (filters : HistoryFilters) : List HistoryRow :=
  historyStatement db filters none

theorem historyStatement_perm (cursor : Option (Datetime × UUID)) :
    (historyStatement db filters cursor).Perm ((joined db).filter fun row =>
      (cursor.all fun c => Older (position row) c) && filters.admits row) :=
  perm_insertionSort _ _

theorem mem_admitted {row : HistoryRow} :
    row ∈ admitted db filters ↔ row ∈ joined db ∧ filters.admits row = true := by
  rw [admitted, (historyStatement_perm none).mem_iff, mem_filter]
  rfl

theorem historyStatement_sorted (cursor : Option (Datetime × UUID)) :
    (historyStatement db filters cursor).Pairwise NotOlder := by
  have htotal : Std.Total NotOlder := by
    refine ⟨fun a b => ?_⟩
    by_contra hboth
    obtain ⟨hab, hba⟩ := not_or.mp hboth
    exact Older.irrefl _ (Older.trans _ _ _ (not_not.mp hab) (not_not.mp hba))
  have htrans : IsTrans HistoryRow NotOlder := by
    refine ⟨fun a b c hab hbc hac => ?_⟩
    rcases older_or hab with hba | heq
    · exact hbc (Older.trans _ _ _ hba hac)
    · exact hbc (heq ▸ hac)
  exact pairwise_insertionSort _ _

theorem admitted_sorted :
    (admitted db filters).Pairwise fun a b => Older (position b) (position a) := by
  have hnodup : (joined db).Nodup := by
    refine (Nodup.of_map (fun event : WorkflowEvent => event.id) db.events.nodup).map_on ?_
    rintro _ - _ - heq
    exact congrArg Prod.fst heq
  have hdistinct : (admitted db filters).Nodup :=
    (historyStatement_perm none).nodup_iff.mpr (hnodup.filter _)
  refine ((historyStatement_sorted none).and hdistinct).imp_of_mem fun ha hb ⟨hnot, hne⟩ => ?_
  refine (older_or hnot).resolve_right fun heq => hne ?_
  exact position_inj (mem_admitted.mp ha).1 (mem_admitted.mp hb).1 heq

theorem historyStatement_after (cursor : Option (Datetime × UUID)) :
    historyStatement db filters cursor = after position Older (admitted db filters) cursor := by
  have hperm : (historyStatement db filters cursor).Perm
      (after position Older (admitted db filters) cursor) := by
    refine (historyStatement_perm cursor).trans ?_
    rw [← filter_filter]
    exact ((historyStatement_perm none).symm.filter _)
  refine hperm.eq_of_pairwise ?_ (historyStatement_sorted cursor)
    ((historyStatement_sorted none).sublist filter_sublist)
  intro a b ha hb hab hba
  have hjoined {row : HistoryRow} (h : row ∈ after position Older (admitted db filters) cursor) :
      row ∈ joined db := (mem_admitted.mp (mem_filter.mp h).1).1
  refine position_inj (hjoined (hperm.mem_iff.mp ha)) (hjoined hb) ?_
  exact (older_or hab).resolve_left hba

/-! ## Reading the history -/

def labelled (row : HistoryRow) : HistoryEntry :=
  (entry row).getD ⟨row.1.id, row.1.createdAt, .automation, row.1.workflowJobId⟩

theorem entry_of_admits {row : HistoryRow} (h : filters.admits row = true) :
    entry row = some (labelled row)
      ∧ ∀ category, filters.category = some category → (labelled row).category = category := by
  rw [HistoryFilters.admits, categoryExpression_eq, Bool.and_eq_true] at h
  unfold labelled entry
  cases hcategory : categoryFor row.1.eventType (row.2.map WorkflowJob.jobType) with
  | none =>
    rw [hcategory] at h
    cases hasked : filters.category <;> simp [hasked] at h
  | some category =>
    refine ⟨rfl, fun asked hasked => ?_⟩
    rw [hcategory, hasked] at h
    simpa using h.2

theorem position_labelled (row : HistoryRow) :
    ((labelled row).occurredAt, (labelled row).id) = position row := by
  unfold labelled entry
  cases categoryFor row.1.eventType (row.2.map WorkflowJob.jobType) <;> rfl

theorem historyList_eq (hlimit : 1 ≤ filters.limit ∧ filters.limit ≤ 100)
    (cursor : Option (Datetime × UUID)) :
    historyList db filters cursor = .ok
      (((after position Older (admitted db filters) cursor).take filters.limit.toNat).map labelled,
        if filters.limit.toNat < (after position Older (admitted db filters) cursor).length then
          ((after position Older (admitted db filters) cursor).take
            filters.limit.toNat).getLast?.map position
        else none) := by
  rw [historyList, if_neg (not_not.mpr hlimit), historyStatement_after]
  dsimp only
  rw [take_take, Nat.min_eq_left (Nat.le_succ _), length_take]
  have hentries : ((after position Older (admitted db filters) cursor).take
      filters.limit.toNat).filterMap entry
        = ((after position Older (admitted db filters) cursor).take
          filters.limit.toNat).map labelled := by
    rw [← filterMap_eq_map]
    refine filterMap_congr fun row hrow => ?_
    have hadmitted := (mem_filter.mp (mem_of_mem_take hrow)).1
    exact (entry_of_admits (mem_admitted.mp hadmitted).2).1
  have hmore : filters.limit.toNat < min (filters.limit.toNat + 1)
      (after position Older (admitted db filters) cursor).length
        ↔ filters.limit.toNat < (after position Older (admitted db filters) cursor).length := by
    omega
  simp only [hentries, hmore]

/-- **Following the cursors reads the history**, page by page of any size: the reading ends,
with every admitted event once, newest first, and none of the rows a page has counted is
dropped when they are labelled. -/
theorem history_complete (hlimit : 1 ≤ filters.limit ∧ filters.limit ≤ 100) :
    ∃ items, (∀ read, Reading (historyList db filters) none read ↔ read = items)
      ∧ items.Pairwise (fun a b => Older (b.occurredAt, b.id) (a.occurredAt, a.id))
      ∧ (∀ row ∈ joined db, filters.admits row = true → ∃ item ∈ items, entry row = some item)
      ∧ ∀ item ∈ items, ∃ row ∈ joined db, filters.admits row = true ∧ entry row = some item
        ∧ ∀ category, filters.category = some category → item.category = category := by
  have hall : after position Older (admitted db filters) none = admitted db filters :=
    filter_eq_self.mpr fun _ _ => rfl
  refine ⟨(admitted db filters).map labelled, fun read => ?_, ?_, ?_, ?_⟩
  · rw [reading_iff admitted_sorted Older.trans Older.irrefl (historyList_eq hlimit) (by omega),
      hall]
  · rw [pairwise_map]
    refine admitted_sorted.imp fun holder => ?_
    rw [position_labelled, position_labelled]
    exact holder
  · intro row hrow hadmits
    have hmem := mem_admitted.mpr ⟨hrow, hadmits⟩
    exact ⟨labelled row, mem_map_of_mem hmem, (entry_of_admits hadmits).1⟩
  · intro item hitem
    obtain ⟨row, hmem, rfl⟩ := mem_map.mp hitem
    obtain ⟨hrow, hadmits⟩ := mem_admitted.mp hmem
    exact ⟨row, hrow, hadmits, entry_of_admits hadmits⟩

/-- Two events of one instant, neither of a job. -/
def archivedEvent : WorkflowEvent := ⟨2, none, "automation.archived", "operator", .empty, 5⟩

def twoEvents : HistoryDb where
  events := (Table.empty.insert ⟨1, none, "telegram.source.captured", "worker", .empty, 5⟩).insert
    archivedEvent
  jobs := .empty

def oneByOne : HistoryFilters := ⟨fun _ _ => true, none, 1⟩

theorem history_complete_one_by_one : ∃ items, Reading (historyList twoEvents oneByOne) none items
    ∧ ∃ item ∈ items, item.category = .automation := by
  obtain ⟨items, hread, -, hfound, -⟩ := @history_complete twoEvents oneByOne (by decide)
  have hrow : (archivedEvent, none) ∈ joined twoEvents :=
    mem_map.mpr ⟨archivedEvent, by decide +kernel, rfl⟩
  have hadmits : oneByOne.admits (archivedEvent, none) = true := by
    rw [HistoryFilters.admits, categoryExpression_eq]
    decide +kernel
  obtain ⟨item, hitem, hentry⟩ := hfound _ hrow hadmits
  have hcategory : (entry (archivedEvent, none)).map HistoryEntry.category = some .automation := by
    decide +kernel
  rw [hentry, Option.map_some, Option.some.injEq] at hcategory
  exact ⟨items, (hread items).mpr rfl, item, hitem, hcategory⟩

end NewsCraft.Operations
