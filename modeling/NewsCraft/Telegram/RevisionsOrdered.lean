import NewsCraft.Telegram.DispatchOrder

/-!
# Revisions in the order of their dispatches

While checks and retries keep to the turn of the dispatches, nothing is left to be done for
the earlier ones once one is past its check. So its revision is attached to the newest.
-/

namespace NewsCraft.Telegram.DispatchFlow

open Lib Jobs List Table Option

namespace FlowWorld

variable {w w' : FlowWorld}

/-! ## What is required -/

/-- The revisions of a route and a story, the newest first. -/
def lineage (w : FlowWorld) (routeId storyId : UUID) : List Created :=
  w.created.filter fun c => c.routeId = routeId ∧ c.storyId = storyId

/-- Each is of a later dispatch, on their variant, attached to the one just before it. -/
def Chained : List Created → Prop
  | [] => True
  | c :: earlier =>
    (∀ e ∈ earlier, e.creationSequence < c.creationSequence
      ∧ e.revision.variant = c.revision.variant)
      ∧ c.revision.parentRevisionId = earlier.head?.map (fun e => e.revision.id)
      ∧ Chained earlier

def record (d : Dispatch) (revision : PlatformVariantRevision) : Created :=
  ⟨revision, d.routeId, d.storyId, d.creationSequence⟩

/-- The revisions of every route and story follow the dispatches. -/
structure InOrder (w : FlowWorld) : Prop where
  chained : ∀ routeId storyId, Chained (w.lineage routeId storyId)
  recorded : ∀ d ∈ w.dispatches.rows, ∀ revision ∈ d.variantRevision, record d revision ∈ w.created

/-- What holds in every history that keeps to the turn of the dispatches. -/
structure OrderInv (w : FlowWorld) : Prop where
  order : w.InOrder
  made : ∀ c ∈ w.created, ∃ d ∈ w.dispatches.rows, d.variantRevision = some c.revision
    ∧ c = record d c.revision
  distinct : ∀ d ∈ w.dispatches.rows, ∀ d' ∈ w.dispatches.rows,
    d.creationSequence = d'.creationSequence → d = d'
  revised : ∀ d ∈ w.dispatches.rows, d.variantRevision ≠ none → w.Clear d
  checked : ∀ execution ∈ w.executions.rows, Stage.isChecked execution.stage = true →
    ∃ d ∈ w.dispatches.rows, execution.key.dispatch = some d.id ∧ w.Clear d

/-! ## The last revision -/

variable {d : Dispatch}

theorem lastRevised_cons_of_none (rest : List Dispatch) (h : d.variantRevision = none) :
    lastRevised (d :: rest) = lastRevised rest := by
  simp only [lastRevised, foldr_cons, laterRevised, h]

theorem lastRevised_cons_first {rest : List Dispatch} (h : d.variantRevision ≠ none)
    (hrest : lastRevised rest = none) : lastRevised (d :: rest) = some d := by
  obtain ⟨revision, hrev⟩ := ne_none_iff_exists'.mp h
  rw [lastRevised] at hrest
  simp only [lastRevised, foldr_cons, laterRevised, hrev, hrest]

theorem lastRevised_cons_later {other : Dispatch} {rest : List Dispatch}
    (h : d.variantRevision ≠ none) (hrest : lastRevised rest = some other) :
    lastRevised (d :: rest)
      = if other.creationSequence < d.creationSequence then some d else some other := by
  obtain ⟨revision, hrev⟩ := ne_none_iff_exists'.mp h
  rw [lastRevised] at hrest
  simp only [lastRevised, foldr_cons, laterRevised, hrev, hrest]

/-- The last of some dispatches is one of them, and no other that has a revision is later. -/
structure IsLast (l : List Dispatch) (last : Dispatch) : Prop where
  mem : last ∈ l
  revised : last.variantRevision ≠ none
  newest : ∀ d ∈ l, d.variantRevision ≠ none → d.creationSequence ≤ last.creationSequence

variable {l : List Dispatch}

theorem IsLast.cons {last first : Dispatch} (h : IsLast l last)
    (hfirst : first.variantRevision ≠ none → first.creationSequence ≤ last.creationSequence) :
    IsLast (first :: l) last := by
  refine ⟨mem_cons_of_mem _ h.mem, h.revised, fun d hd hrevised => ?_⟩
  rcases mem_cons.mp hd with heq | hd
  · rw [heq] at hrevised ⊢
    exact hfirst hrevised
  · exact h.newest d hd hrevised

theorem lastRevised_none (h : lastRevised l = none) : ∀ d ∈ l, d.variantRevision = none := by
  induction l with
  | nil => intro d hd; cases hd
  | cons first rest ih =>
    by_cases hfirst : first.variantRevision = none
    · rw [lastRevised_cons_of_none rest hfirst] at h
      intro d hd
      rcases mem_cons.mp hd with heq | hd
      · rw [heq]
        exact hfirst
      · exact ih h d hd
    · cases hrest : lastRevised rest with
      | none =>
        rw [lastRevised_cons_first hfirst hrest] at h
        cases h
      | some other =>
        rw [lastRevised_cons_later hfirst hrest] at h
        split at h <;> cases h

theorem lastRevised_some {last : Dispatch} (h : lastRevised l = some last) : IsLast l last := by
  induction l generalizing last with
  | nil => cases h
  | cons first rest ih =>
    by_cases hfirst : first.variantRevision = none
    · rw [lastRevised_cons_of_none rest hfirst] at h
      exact (ih h).cons fun hrevised => absurd hfirst hrevised
    · have hself : ∀ d ∈ first :: rest, (d ∈ rest → d.variantRevision ≠ none →
          d.creationSequence ≤ first.creationSequence) → d.variantRevision ≠ none →
          d.creationSequence ≤ first.creationSequence := by
        intro d hd hrest hrevised
        rcases mem_cons.mp hd with heq | hd
        · rw [heq]
        · exact hrest hd hrevised
      cases hrest : lastRevised rest with
      | none =>
        rw [lastRevised_cons_first hfirst hrest] at h
        cases h
        refine ⟨mem_cons_self, hfirst, fun d hd => hself d hd fun hd hrevised => ?_⟩
        exact absurd (lastRevised_none hrest d hd) hrevised
      | some other =>
        have hother := ih hrest
        rw [lastRevised_cons_later hfirst hrest] at h
        by_cases hlt : other.creationSequence < first.creationSequence
        · rw [if_pos hlt] at h
          cases h
          refine ⟨mem_cons_self, hfirst, fun d hd => hself d hd fun hd hrevised => ?_⟩
          have := hother.newest d hd hrevised
          omega
        · rw [if_neg hlt] at h
          cases h
          exact hother.cons fun _ => by omega

/-! ## The newest revision -/

theorem mem_lineage {c : Created} {routeId storyId : UUID} :
    c ∈ w.lineage routeId storyId ↔ c ∈ w.created ∧ c.routeId = routeId ∧ c.storyId = storyId := by
  rw [lineage, mem_filter, decide_eq_true_iff]

theorem OrderInv.lt_of_clear (h : OrderInv w) {other : Dispatch} (hd : d ∈ w.dispatches.rows)
    (hlive : w.Live d.id) (hnone : d.variantRevision = none) (hother : other ∈ w.dispatches.rows)
    (hlineage : sameLineage other d = true) (hrevised : other.variantRevision ≠ none) :
    other.creationSequence < d.creationSequence := by
  by_contra hle
  by_cases heq : other.creationSequence = d.creationSequence
  · have hsame := h.distinct other hother d hd heq
    rw [hsame] at hrevised
    exact hrevised hnone
  · -- then it would be earlier than one that has a revision, and still live
    have hsame := sameLineage_iff.mp hlineage
    refine h.revised other hother hrevised d hd (sameLineage_iff.mpr ?_) (by omega) hnone hlive
    exact ⟨hsame.1.symm, hsame.2.symm⟩

theorem OrderInv.routeParentRevision_eq (h : OrderInv w) (hd : d ∈ w.dispatches.rows)
    (hlive : w.Live d.id) (hnone : d.variantRevision = none) : w.routeParentRevision d
      = (w.lineage d.routeId d.storyId).head?.map Created.revision := by
  have hearlier : ∀ other ∈ w.dispatches.rows, sameLineage other d = true →
      other.variantRevision ≠ none →
      other ∈ w.dispatches.rows.filter fun earlier =>
        sameLineage earlier d ∧ earlier.creationSequence < d.creationSequence := by
    intro other hother hlineage hrevised
    have hlt := h.lt_of_clear hd hlive hnone hother hlineage hrevised
    exact mem_filter.mpr ⟨hother, by simp [hlineage, hlt]⟩
  rw [routeParentRevision]
  cases hlast : lastRevised (w.dispatches.rows.filter fun earlier =>
      sameLineage earlier d ∧ earlier.creationSequence < d.creationSequence) with
  | none =>
    cases hlist : w.lineage d.routeId d.storyId with
    | nil => rfl
    | cons c rest =>
      obtain ⟨hc, hroute, hstory⟩ := mem_lineage.mp (hlist ▸ mem_cons_self)
      obtain ⟨other, hother, hrev, hrecord⟩ := h.made c hc
      rw [hrecord] at hroute hstory
      have hmem := hearlier other hother (sameLineage_iff.mpr ⟨hroute, hstory⟩)
        (by rw [hrev]; exact nofun)
      rw [lastRevised_none hlast other hmem] at hrev
      cases hrev
  | some last =>
    obtain ⟨hmem, hrevised, hmax⟩ := lastRevised_some hlast
    obtain ⟨hrow, hcond⟩ := mem_filter.mp hmem
    have hlineage : sameLineage last d = true := (of_decide_eq_true hcond).1
    obtain ⟨hroute, hstory⟩ := sameLineage_iff.mp hlineage
    obtain ⟨revision, hrev⟩ := ne_none_iff_exists'.mp hrevised
    have hrecorded : record last revision ∈ w.lineage d.routeId d.storyId :=
      mem_lineage.mpr ⟨h.order.recorded last hrow revision hrev, hroute, hstory⟩
    have hchained := h.order.chained d.routeId d.storyId
    cases hlist : w.lineage d.routeId d.storyId with
    | nil =>
      rw [hlist] at hrecorded
      cases hrecorded
    | cons c rest =>
      rw [hlist] at hrecorded hchained
      obtain ⟨hc, hcroute, hcstory⟩ := mem_lineage.mp (hlist ▸ mem_cons_self)
      obtain ⟨other, hother, hotherRev, hrecord⟩ := h.made c hc
      rw [hrecord] at hcroute hcstory
      have hotherMem := hearlier other hother (sameLineage_iff.mpr ⟨hcroute, hcstory⟩)
        (by rw [hotherRev]; exact nofun)
      have hle := hmax other hotherMem (by rw [hotherRev]; exact nofun)
      have hge : last.creationSequence ≤ other.creationSequence := by
        rcases mem_cons.mp hrecorded with heq | hrest
        · rw [hrecord] at heq
          exact Nat.le_of_eq (congrArg Created.creationSequence heq)
        · have hlt := (hchained.1 _ hrest).1
          rw [hrecord] at hlt
          exact Nat.le_of_lt hlt
      have hsame := h.distinct last hrow other hother (by omega)
      show last.variantRevision = _
      rw [hsame, hotherRev]
      rfl

/-! ## Steps -/

theorem Clear.next {d' : Dispatch} (h : w.Clear d) (hroute : d'.routeId = d.routeId)
    (hstory : d'.storyId = d.storyId) (hsequence : d'.creationSequence = d.creationSequence)
    (hold : ∀ e' ∈ w'.dispatches.rows, sameLineage e' d' = true → e'.creationSequence <
      d'.creationSequence → e'.variantRevision = none → w'.Live e'.id → ∃ e ∈ w.dispatches.rows,
      e.identity = e'.identity ∧ w.Live e.id) : w'.Clear d' := by
  intro e' he' hlineage hlt hnone hlive
  obtain ⟨e, he, hidentity, hlive⟩ := hold e' he' hlineage hlt hnone hlive
  obtain ⟨hid, heRoute, heStory, heSequence, heRevision⟩ := Dispatch.identity_eq_iff.mp hidentity
  obtain ⟨hlRoute, hlStory⟩ := sameLineage_iff.mp hlineage
  refine h e he (sameLineage_iff.mpr ⟨?_, ?_⟩) (by omega) (heRevision.trans hnone) hlive
  · exact heRoute.trans (hlRoute.trans hroute)
  · exact heStory.trans (hlStory.trans hstory)

theorem OrderInv.same (h : OrderInv w) (hsame : SameDispatches w w')
    (hrevised : ∀ d ∈ w.dispatches.rows, d.variantRevision ≠ none → ∀ d' : Dispatch,
      d.identity = d'.identity → w'.Clear d')
    (hchecked : ∀ execution ∈ w'.executions.rows, Stage.isChecked execution.stage = true →
      ∃ d ∈ w.dispatches.rows, execution.key.dispatch = some d.id
        ∧ ∀ d' : Dispatch, d.identity = d'.identity → w'.Clear d') : OrderInv w' := by
  have hback : ∀ d ∈ w.dispatches.rows, ∃ d' ∈ w'.dispatches.rows, d'.identity = d.identity :=
    fun d hd => hsame.symm.exists_of_mem hd
  refine ⟨⟨?_, ?_⟩, ?_, ?_, ?_, ?_⟩
  · intro routeId storyId
    rw [lineage, hsame.2]
    exact h.order.chained routeId storyId
  · intro d' hd' revision hrevision
    obtain ⟨d, hd, hidentity⟩ := hsame.exists_of_mem hd'
    obtain ⟨-, hroute, hstory, hsequence, hrev⟩ := Dispatch.identity_eq_iff.mp hidentity
    have hrecorded := h.order.recorded d hd revision (hrev.trans hrevision)
    rw [hsame.2]
    rw [record, hroute, hstory, hsequence] at hrecorded
    exact hrecorded
  · intro c hc
    rw [hsame.2] at hc
    obtain ⟨d, hd, hrev, hrecord⟩ := h.made c hc
    obtain ⟨d', hd', hidentity⟩ := hback d hd
    obtain ⟨-, hroute, hstory, hsequence, hrev'⟩ := Dispatch.identity_eq_iff.mp hidentity
    refine ⟨d', hd', hrev'.trans hrev, ?_⟩
    rw [record, hroute, hstory, hsequence]
    exact hrecord
  · intro d₁ hd₁ d₂ hd₂ hsequence
    obtain ⟨e₁, he₁, hidentity₁⟩ := hsame.exists_of_mem hd₁
    obtain ⟨e₂, he₂, hidentity₂⟩ := hsame.exists_of_mem hd₂
    obtain ⟨hid₁, -, -, hsequence₁, -⟩ := Dispatch.identity_eq_iff.mp hidentity₁
    obtain ⟨hid₂, -, -, hsequence₂, -⟩ := Dispatch.identity_eq_iff.mp hidentity₂
    have heq := h.distinct e₁ he₁ e₂ he₂ (by omega)
    refine row_unique hd₁ hd₂ ?_
    show d₁.id = d₂.id
    rw [← hid₁, ← hid₂, heq]
  · intro d' hd' hrevision
    obtain ⟨d, hd, hidentity⟩ := hsame.exists_of_mem hd'
    have hrev := (Dispatch.identity_eq_iff.mp hidentity).2.2.2.2
    exact hrevised d hd (by rw [hrev]; exact hrevision) d' hidentity
  · intro execution hexecution hisChecked
    obtain ⟨d, hd, hkey, hclear⟩ := hchecked execution hexecution hisChecked
    obtain ⟨d', hd', hidentity⟩ := hback d hd
    refine ⟨d', hd', ?_, hclear d' hidentity.symm⟩
    rw [hkey, (Dispatch.identity_eq_iff.mp hidentity).1]

theorem clear_of_within (hsame : SameDispatches w w') (hwithin : ∀ id, Within w id w')
    {d' : Dispatch} (hidentity : d.identity = d'.identity) (h : w.Clear d) : w'.Clear d' := by
  obtain ⟨-, hroute, hstory, hsequence, -⟩ := Dispatch.identity_eq_iff.mp hidentity
  refine h.next hroute.symm hstory.symm hsequence.symm fun e' he' _ _ _ hlive => ?_
  obtain ⟨e, he, hidentity'⟩ := hsame.exists_of_mem he'
  refine ⟨e, he, hidentity', (hwithin e.id).live ?_⟩
  rw [(Dispatch.identity_eq_iff.mp hidentity').1]
  exact hlive

theorem OrderInv.within (h : OrderInv w) (hsame : SameDispatches w w')
    (hwithin : ∀ id, Within w id w') : OrderInv w' := by
  refine h.same hsame (fun d hd hrevised d' hidentity => ?_) fun execution hexecution hc => ?_
  · exact clear_of_within hsame hwithin hidentity (h.revised d hd hrevised)
  obtain ⟨d, hd, hkey, hclear⟩ : ∃ d ∈ w.dispatches.rows, execution.key.dispatch = some d.id
      ∧ w.Clear d := by
    rcases ((hwithin 0).executions execution hexecution).2 hc with hold | hnew
    · exact h.checked execution hold hc
    · exact hnew
  exact ⟨d, hd, hkey, fun d' hidentity => clear_of_within hsame hwithin hidentity hclear⟩

theorem OrderInv.retry (h : OrderInv w) {key : JobKey} (henabled : w.Enabled (.retry key))
    (hturn : w.InTurn (.retry key)) : OrderInv (w.next (.retry key)) := by
  have hclear : ∀ d ∈ w.dispatches.rows, w.Clear d →
      (d.variantRevision ≠ none ∨ ∃ execution ∈ w.executions.rows,
        execution.key.dispatch = some d.id ∧ Stage.isChecked execution.stage = true) →
      ∀ d' : Dispatch, d.identity = d'.identity → (w.next (.retry key)).Clear d' := by
    intro d hd hclear htaken d' hidentity
    obtain ⟨-, hroute, hstory, hsequence, -⟩ := Dispatch.identity_eq_iff.mp hidentity
    refine hclear.next hroute.symm hstory.symm hsequence.symm ?_
    intro e he hlineage hlt hnone hlive
    refine ⟨e, he, rfl, ?_⟩
    by_cases hserves : w.Serves key e.id
    · -- the retried job serves an earlier dispatch: the later one cannot have passed it
      exfalso
      obtain ⟨hlRoute, hlStory⟩ := sameLineage_iff.mp hlineage
      have hunpassed := hturn e he hserves hnone d hd
        (sameLineage_iff.mpr ⟨hlRoute.trans hroute.symm, hlStory.trans hstory.symm⟩) (by omega)
      rcases htaken with hrevised | ⟨execution, hexecution, hkey, hchecked⟩
      · exact hrevised hunpassed.1
      rw [hunpassed.2 execution hexecution hkey] at hchecked
      cases hchecked
    · have hwithin : Within w e.id (w.next (.retry key)) :=
        next_within henabled hturn (fun d n heq => by cases heq) fun key' heq => by
          cases heq
          exact hserves
      exact hwithin.live hlive
  refine h.same ⟨rfl, rfl⟩ (fun d hd hrevised => ?_) fun execution hexecution hc => ?_
  · exact hclear d hd (h.revised d hd hrevised) (.inl hrevised)
  obtain ⟨d, hd, hkey, hd'⟩ := h.checked execution hexecution hc
  exact ⟨d, hd, hkey, hclear d hd hd' (.inr ⟨execution, hexecution, hkey, hc⟩)⟩

theorem OrderInv.capture (h : OrderInv w) {maxAttempts : Nat}
    (henabled : w.Enabled (.capture d maxAttempts)) :
    OrderInv (w.next (.capture d maxAttempts)) := by
  have hwithin : ∀ id, id ≠ d.id → Within w id (w.next (.capture d maxAttempts)) := by
    intro id hne
    refine next_within henabled trivial (fun d' n heq => ?_) fun key heq => by cases heq
    cases heq
    exact hne
  obtain ⟨hfree, -, hnewest, -, hnone, -⟩ := henabled
  have hrows : (w.dispatches.insert d).rows = d :: w.dispatches.rows := rows_insert hfree
  have hmem : ∀ e, e ∈ (w.dispatches.insert d).rows ↔ e = d ∨ e ∈ w.dispatches.rows := by
    intro e
    rw [hrows, mem_cons]
  have hclear : ∀ later ∈ w.dispatches.rows, w.Clear later →
      (w.next (.capture d maxAttempts)).Clear later := by
    intro later hlater hclear
    refine hclear.next rfl rfl rfl fun e he _ hlt _ hlive => ?_
    have hltNew := hnewest later hlater
    rcases (hmem e).mp he with heq | hold
    · rw [heq] at hlt
      omega
    · have hne : e.id ≠ d.id := by
        intro hid
        have hlookup : w.dispatches.lookup e.id = some e := lookup_of_mem hold
        rw [hid, hfree] at hlookup
        cases hlookup
      exact ⟨e, hold, rfl, (hwithin e.id hne).live hlive⟩
  refine ⟨⟨h.order.chained, ?_⟩, ?_, ?_, ?_, ?_⟩
  · intro e he revision hrevision
    rcases (hmem e).mp he with heq | hold
    · rw [heq, hnone] at hrevision
      cases hrevision
    · exact h.order.recorded e hold revision hrevision
  · intro c hc
    obtain ⟨e, he, hrev, hrecord⟩ := h.made c hc
    exact ⟨e, (hmem e).mpr (.inr he), hrev, hrecord⟩
  · intro d₁ hd₁ d₂ hd₂ hsequence
    rcases (hmem d₁).mp hd₁ with heq₁ | hold₁
    · rcases (hmem d₂).mp hd₂ with heq₂ | hold₂
      · rw [heq₁, heq₂]
      have := hnewest d₂ hold₂
      rw [heq₁] at hsequence
      omega
    · rcases (hmem d₂).mp hd₂ with heq₂ | hold₂
      · have := hnewest d₁ hold₁
        rw [heq₂] at hsequence
        omega
      · exact h.distinct d₁ hold₁ d₂ hold₂ hsequence
  · intro e he hrevised
    rcases (hmem e).mp he with heq | hold
    · rw [heq] at hrevised
      exact absurd hnone hrevised
    · exact hclear e hold (h.revised e hold hrevised)
  · intro execution hexecution hc
    obtain ⟨e, he, hkey, he'⟩ := h.checked execution hexecution hc
    exact ⟨e, (hmem e).mpr (.inr he), hkey, hclear e he he'⟩

theorem OrderInv.chained_persisted (h : OrderInv w) (hd : d ∈ w.dispatches.rows)
    (hlive : w.Live d.id) (hnone : d.variantRevision = none) {revision : PlatformVariantRevision}
    (hparent : revision.parentRevisionId = (w.routeParentRevision d).map PlatformVariantRevision.id)
    (hvariant : ∀ refreshed, w.routeParentRevision d = some refreshed → refreshed.variant =
      revision.variant) : Chained (record d revision :: w.lineage d.routeId d.storyId) := by
  have hlast := h.routeParentRevision_eq hd hlive hnone
  have hchained := h.order.chained d.routeId d.storyId
  refine ⟨fun c hc => ⟨?_, ?_⟩, ?_, hchained⟩
  · obtain ⟨hcreated, hroute, hstory⟩ := mem_lineage.mp hc
    obtain ⟨other, hother, hrev, hrecord⟩ := h.made c hcreated
    rw [hrecord] at hroute hstory ⊢
    exact h.lt_of_clear hd hlive hnone hother (sameLineage_iff.mpr ⟨hroute, hstory⟩)
      (by rw [hrev]; exact nofun)
  · cases hlist : w.lineage d.routeId d.storyId with
    | nil =>
      rw [hlist] at hc
      cases hc
    | cons newest rest =>
      rw [hlist] at hc hchained hlast
      have hnewest := hvariant newest.revision hlast
      rcases mem_cons.mp hc with heq | hrest
      · rw [heq]
        exact hnewest
      · exact (hchained.1 c hrest).2.trans hnewest
  · show revision.parentRevisionId = _
    rw [hparent, hlast]
    cases w.lineage d.routeId d.storyId <;> rfl

theorem validLocked_stage {execution : Execution} (h : w.validLocked execution d = true) :
    ∃ parent variant storyRevisionId, execution.stage = .checked parent variant storyRevisionId
      ∧ ∀ refreshed, w.routeParentRevision d = some refreshed → refreshed.variant = variant := by
  unfold validLocked at h
  split at h
  · rename_i parent variant storyRevisionId hstage
    refine ⟨parent, variant, storyRevisionId, hstage, fun refreshed heq => ?_⟩
    have hvalid := (of_decide_eq_true h).2
    rw [heq] at hvalid
    exact of_decide_eq_true hvalid
  · cases h

/-- **A revision made in turn is the newest of its lineage.** -/
theorem OrderInv.persisted (h : OrderInv w) {id : UUID} {execution : Execution}
    {parent : Option PlatformVariantRevision} {variant : PlatformVariant} {storyRevisionId : UUID}
    (hexecution : w.executions.lookup id = some execution) (hd : w.dispatchOf execution = some d)
    (hnone : d.variantRevision = none)
    (hstage : execution.stage = .checked parent variant storyRevisionId)
    {revision : PlatformVariantRevision}
    (hparent : revision.parentRevisionId = (w.routeParentRevision d).map PlatformVariantRevision.id)
    (hvariant : ∀ refreshed, w.routeParentRevision d = some refreshed → refreshed.variant =
      revision.variant) (approved : Bool) :
    OrderInv (w.persisted execution d revision approved) := by
  have hmemExecution := mem_of_lookup hexecution
  obtain ⟨hkey, hrow⟩ := dispatchOf_eq hd
  have hlive := live_of_dispatchOf hmemExecution hd
  let made : Dispatch :=
    { d with
      variantRevision := some revision
      status := if approved then .approved else .pendingReview }
  -- the rows are those of before, but for the one that has its revision now
  have hrows : ∀ e, e ∈ (w.persisted execution d revision approved).dispatches.rows ↔
      e = made ∨ e ∈ w.dispatches.rows ∧ e ≠ d := by
    intro e
    constructor
    · intro he
      obtain ⟨e', he', heq⟩ := mem_map.mp he
      by_cases hid : e'.id = d.id
      · have hsame : e' = d := row_unique he' hrow hid
        rw [if_pos (mem_singleton.mpr hid)] at heq
        rw [← heq, hsame]
        exact .inl rfl
      · rw [if_neg (fun hmem => hid (mem_singleton.mp hmem))] at heq
        rw [← heq]
        exact .inr ⟨he', fun hsame => hid (congrArg Dispatch.id hsame)⟩
    · intro he
      rcases he with heq | ⟨hold, hne⟩
      · rw [heq]
        exact mem_map.mpr ⟨d, hrow, if_pos (mem_singleton.mpr rfl)⟩
      · have hid : e.id ≠ d.id := fun hid => hne (row_unique hold hrow hid)
        exact mem_map.mpr ⟨e, hold, if_neg fun hmem => hid (mem_singleton.mp hmem)⟩
  have hchecked : Stage.isChecked execution.stage = true := by
    rw [hstage]
    rfl
  have hclearSelf : w.Clear d := by
    obtain ⟨d', hd', hkey', hclear⟩ := h.checked execution hmemExecution hchecked
    have hsame : d = d' :=
      row_unique hrow hd' (Option.some.inj (hkey.symm.trans hkey'))
    rw [hsame]
    exact hclear
  have hwithin : ∀ id, Within w id (w.persisted execution d revision approved) := fun _ =>
    ⟨jobWithin_self, executionWithin_stage hexecution rfl⟩
  have hclear : ∀ e e' : Dispatch, e'.routeId = e.routeId → e'.storyId = e.storyId →
      e'.creationSequence = e.creationSequence → w.Clear e →
      (w.persisted execution d revision approved).Clear e' := by
    intro e e' hroute hstory hsequence hclear
    refine hclear.next hroute hstory hsequence fun f hf _ _ hfNone hfLive => ?_
    rcases (hrows f).mp hf with heq | ⟨hold, -⟩
    · rw [heq] at hfNone
      cases hfNone
    · exact ⟨f, hold, rfl, (hwithin f.id).live hfLive⟩
  refine ⟨⟨?_, ?_⟩, ?_, ?_, ?_, ?_⟩
  · intro routeId storyId
    have hcreated : (w.persisted execution d revision approved).lineage routeId storyId
        = if d.routeId = routeId ∧ d.storyId = storyId
          then record d revision :: w.lineage routeId storyId else w.lineage routeId storyId := by
      rw [lineage, FlowWorld.persisted, filter_cons]
      simp only [decide_eq_true_iff]
      rfl
    rw [hcreated]
    by_cases hmine : d.routeId = routeId ∧ d.storyId = storyId
    · rw [if_pos hmine, ← hmine.1, ← hmine.2]
      exact h.chained_persisted hrow hlive hnone hparent hvariant
    · rw [if_neg hmine]
      exact h.order.chained routeId storyId
  · intro e he revision' hrevision
    rcases (hrows e).mp he with rfl | ⟨hold, -⟩
    · cases hrevision
      exact mem_cons_self
    · exact mem_cons_of_mem _ (h.order.recorded e hold revision' hrevision)
  · intro c hc
    rcases mem_cons.mp hc with rfl | hc
    · exact ⟨made, (hrows made).mpr (.inl rfl), rfl, rfl⟩
    · obtain ⟨e, he, hrev, hrecord⟩ := h.made c hc
      refine ⟨e, (hrows e).mpr (.inr ⟨he, fun hsame => ?_⟩), hrev, hrecord⟩
      rw [hsame, hnone] at hrev
      cases hrev
  · intro e he e' he' hsequence
    rcases (hrows e).mp he with heq | ⟨hold, hne⟩
    · rcases (hrows e').mp he' with heq' | ⟨hold', hne'⟩
      · rw [heq, heq']
      rw [heq] at hsequence
      exact absurd (h.distinct e' hold' d hrow hsequence.symm) hne'
    · rcases (hrows e').mp he' with heq' | ⟨hold', hne'⟩
      · rw [heq'] at hsequence
        exact absurd (h.distinct e hold d hrow hsequence) hne
      · exact h.distinct e hold e' hold' hsequence
  · intro e he hrevised
    rcases (hrows e).mp he with heq | ⟨hold, -⟩
    · rw [heq]
      exact hclear d made rfl rfl rfl hclearSelf
    · exact hclear e e rfl rfl rfl (h.revised e hold hrevised)
  · intro execution' hexecution' hc
    have hold : ∃ e ∈ w.dispatches.rows, execution'.key.dispatch = some e.id ∧ w.Clear e := by
      rcases ((hwithin 0).executions execution' hexecution').2 hc with hold | hnew
      · exact h.checked execution' hold hc
      · exact hnew
    obtain ⟨e, he, hkey', heClear⟩ := hold
    by_cases hsame : e = d
    · rw [hsame] at hkey' heClear
      exact ⟨made, (hrows made).mpr (.inl rfl), hkey', hclear d made rfl rfl rfl heClear⟩
    · exact ⟨e, (hrows e).mpr (.inr ⟨he, hsame⟩), hkey', hclear e e rfl rfl rfl heClear⟩

theorem OrderInv.next (h : OrderInv w) {event : FlowEvent} (henabled : w.Enabled event)
    (hturn : w.InTurn event) : OrderInv (w.next event) := by
  by_cases hcapture : ∃ d n, event = .capture d n
  · obtain ⟨d, n, rfl⟩ := hcapture
    exact h.capture henabled
  by_cases hretry : ∃ key, event = .retry key
  · obtain ⟨key, rfl⟩ := hretry
    exact h.retry henabled hturn
  by_cases hpersist : ∃ id revisionId approved, event = .persist id revisionId approved
  · obtain ⟨id, revisionId, approved, rfl⟩ := hpersist
    obtain ⟨execution, hexecution, d, hd, hnone, hvalid⟩ := henabled
    have hlookup : w.executions.lookup id = some execution := hexecution
    have hdispatch : w.dispatchOf execution = some d := hd
    obtain ⟨parent, variant, storyRevisionId, hstage, hrefreshed⟩ := validLocked_stage hvalid
    simp only [FlowWorld.next, withDispatch, withExecution, hlookup, hdispatch, hstage]
    exact h.persisted hlookup hdispatch hnone hstage rfl hrefreshed approved
  have hsame : SameDispatches w (w.next event) :=
    next_same (fun d n heq => hcapture ⟨d, n, heq⟩)
      fun id revisionId approved heq => hpersist ⟨id, revisionId, approved, heq⟩
  refine h.within hsame fun id => next_within henabled hturn ?_ ?_
  · exact fun d n heq => absurd ⟨d, n, heq⟩ hcapture
  · exact fun key heq => absurd ⟨key, heq⟩ hretry

theorem orderInv_init (h : flowSystem.init w) : OrderInv w := by
  obtain rfl : w = ⟨.empty, .empty, .empty, []⟩ := h
  refine ⟨⟨fun _ _ => trivial, ?_⟩, ?_, ?_, ?_, ?_⟩
  all_goals
    intro row hrow
    exact absurd hrow not_mem_nil

/-- **While checks and retries keep to the turn of the dispatches, so do the revisions.** -/
theorem revisions_in_order (hreach : (flowSystem.restrict InTurn).Reachable w) : w.InOrder := by
  have hinv : OrderInv w := by
    induction hreach with
    | init hinit => exact orderInv_init hinit
    | tail _ hstep ih =>
      obtain ⟨hturn, henabled, hnext⟩ := hstep
      rw [hnext]
      exact ih.next henabled hturn
  exact hinv.order

/-! ## Runs -/

def original : Dispatch := ⟨1, 5, 6, 11, 1, .captured, none, none⟩

def edit : Dispatch := ⟨2, 5, 6, 12, 2, .captured, none, none⟩

def captures : List FlowEvent := [.capture original 5, .capture edit 5]

def runThrough (d : Dispatch) (id revisionId : UUID) : List FlowEvent :=
  [.claim (.process d.id) id, .prepare id, .generated id, .check id 7, .persist id revisionId true,
    .finish id]

def start : FlowWorld := ⟨.empty, .empty, .empty, []⟩

instance (key : JobKey) (id : UUID) : Decidable (w.Serves key id) :=
  inferInstanceAs (Decidable (_ ∨ ∃ job ∈ w.jobs.lookup key, id ∈ job.continuations))

instance (key : JobKey) : Decidable (w.Running key) :=
  inferInstanceAs (Decidable ((∃ job ∈ w.jobs.lookup key, job.live = true)
    ∨ ∃ execution ∈ w.executions.rows, execution.key = key))

instance (id : UUID) : Decidable (w.Live id) := inferInstanceAs (Decidable (_ ∨ _))

instance (d : Dispatch) : Decidable (w.Unpassed d) :=
  inferInstanceAs (Decidable (∀ later ∈ w.dispatches.rows, sameLineage d later = true →
    d.creationSequence < later.creationSequence → later.variantRevision = none
      ∧ ∀ execution ∈ w.executions.rows, execution.key.dispatch = some later.id →
        Stage.isChecked execution.stage = false))

instance (event : FlowEvent) : Decidable (w.InTurn event) := by
  apply FlowEvent.casesOn (motive := fun event => Decidable (w.InTurn event)) event <;>
    (intros; dsimp only [InTurn]; infer_instance)

instance decidableChained : ∀ l : List Created, Decidable (Chained l)
  | [] => inferInstanceAs (Decidable True)
  | _ :: earlier =>
    have : Decidable (Chained earlier) := decidableChained earlier
    inferInstanceAs (Decidable (_ ∧ _ ∧ Chained earlier))

theorem edit_in_order :
    ∃ w, (flowSystem.restrict InTurn).Reachable w ∧ w.created.map Created.creationSequence = [2, 1]
      ∧ w.InOrder := by
  let events := captures ++ runThrough original 21 31 ++ runThrough edit 22 32
  have hsteps : System.Along (fun w event => InTurn w event ∧ Enabled w event) next start events := by
    decide +kernel
  have hstep : ∀ w event, (InTurn w event ∧ Enabled w event) →
      (flowSystem.restrict InTurn).step w event (w.next event) :=
    fun _ _ hok => ⟨hok.1, hok.2, rfl⟩
  have hreach := System.reachable_along hstep (.init rfl) hsteps
  refine ⟨_, hreach, ?_, revisions_in_order hreach⟩
  decide +kernel

/-- A capture whose generation failed once is passed by its edit, before or after the failure is
reported, and its text is made a revision after the edit's, on another variant. -/
theorem edit_passes_original :
    (∃ w, flowSystem.Reachable w ∧ w.created.map Created.creationSequence = [1, 2] ∧ ¬ w.InOrder)
      ∧ ∃ w, flowSystem.Reachable w ∧ w.created.map Created.creationSequence = [1, 2]
        ∧ ¬ w.InOrder := by
  have hstep : ∀ w event, Enabled w event → flowSystem.step w event (w.next event) :=
    fun _ _ hok => ⟨hok, rfl⟩
  have hfailed : ∀ w : FlowWorld, ¬ Chained (w.lineage 5 6) → ¬ w.InOrder :=
    fun w hchained horder => hchained (horder.chained 5 6)
  constructor
  · -- the dispatch is `failed` between the two transactions of a retryable failure
    let events := captures
      ++ [.claim (.process 1) 20, .prepare 20, .generationFailed 20 (some .retryable)]
      ++ runThrough edit 22 32 ++ [.report 20, .fail 20] ++ runThrough original 21 31
    have hsteps : System.Along Enabled next start events := by decide +kernel
    refine ⟨_, System.reachable_along hstep (.init rfl) hsteps, ?_, hfailed _ ?_⟩
    · decide +kernel
    · decide +kernel
  · -- an operator retries a permanent failure
    let events := captures
      ++ [.claim (.process 1) 20, .prepare 20, .generationFailed 20 (some .permanent), .report 20,
        .fail 20]
      ++ runThrough edit 22 32 ++ [.retry (.process 1)] ++ runThrough original 21 31
    have hsteps : System.Along Enabled next start events := by decide +kernel
    refine ⟨_, System.reachable_along hstep (.init rfl) hsteps, ?_, hfailed _ ?_⟩
    · decide +kernel
    · decide +kernel

/-! ## In every history -/

/-- The revision a dispatch has, as the record of its making. -/
def revisionOf (d : Dispatch) : Option Created := d.variantRevision.map (record d)

/-- The revisions that were made are those the dispatches have, and each has one. -/
structure MadeOnce (w : FlowWorld) : Prop where
  held : w.created.Perm (w.dispatches.rows.filterMap revisionOf)
  distinct : (w.dispatches.rows.map Dispatch.creationSequence).Nodup

theorem MadeOnce.same (h : MadeOnce w) (hsame : SameDispatches w w') : MadeOnce w' := by
  obtain ⟨hrows, hcreated⟩ := hsame
  have hheld : ∀ rows : List Dispatch, rows.filterMap revisionOf
      = (rows.map Dispatch.identity).filterMap fun i =>
        i.2.2.2.2.map fun revision => ⟨revision, i.2.1, i.2.2.1, i.2.2.2.1⟩ := by
    intro rows
    rw [filterMap_map]
    rfl
  have hsequence : ∀ rows : List Dispatch, rows.map Dispatch.creationSequence
      = (rows.map Dispatch.identity).map fun i => i.2.2.2.1 := by
    intro rows
    rw [List.map_map]
    rfl
  refine ⟨?_, ?_⟩
  · rw [hcreated, hheld, hrows, ← hheld]
    exact h.held
  · rw [hsequence, hrows, ← hsequence]
    exact h.distinct

theorem MadeOnce.capture (h : MadeOnce w) {maxAttempts : Nat}
    (henabled : w.Enabled (.capture d maxAttempts)) :
    MadeOnce (w.next (.capture d maxAttempts)) := by
  obtain ⟨hfree, -, hnewest, -, hnone, -⟩ := henabled
  have hrows : (w.dispatches.insert d).rows = d :: w.dispatches.rows := rows_insert hfree
  refine ⟨?_, ?_⟩
  · show w.created.Perm ((w.dispatches.insert d).rows.filterMap revisionOf)
    rw [hrows, filterMap_cons_none (by rw [revisionOf, hnone]; rfl)]
    exact h.held
  · show ((w.dispatches.insert d).rows.map Dispatch.creationSequence).Nodup
    rw [hrows, map_cons, nodup_cons]
    refine ⟨?_, h.distinct⟩
    intro hmem
    obtain ⟨earlier, hearlier, heq⟩ := mem_map.mp hmem
    have := hnewest earlier hearlier
    omega

theorem MadeOnce.persisted (h : MadeOnce w) {execution : Execution} (hd : d ∈ w.dispatches.rows)
    (hnone : d.variantRevision = none) (revision : PlatformVariantRevision) (approved : Bool) :
    MadeOnce (w.persisted execution d revision approved) := by
  let made : Dispatch :=
    { d with
      variantRevision := some revision
      status := if approved then .approved else .pendingReview }
  -- the row rewritten comes first, and the others are as they were
  have hperm : w.dispatches.rows.Perm (d :: w.dispatches.rows.erase d) := perm_cons_erase hd
  have hrows : (w.persisted execution d revision approved).dispatches.rows.Perm
      (made :: w.dispatches.rows.erase d) := by
    refine (hperm.map _).trans (Perm.of_eq ?_)
    rw [map_cons, if_pos (mem_singleton.mpr rfl)]
    congr 1
    refine (map_congr_left fun e he => ?_).trans (map_id _)
    refine if_neg fun hid => ?_
    have hne := ((Nodup.of_map _ w.dispatches.nodup).mem_erase_iff.mp he).1
    exact hne (row_unique (mem_of_mem_erase he) hd (mem_singleton.mp hid))
  refine ⟨?_, ?_⟩
  · have hheld := h.held.trans (hperm.filterMap revisionOf)
    rw [filterMap_cons_none (by rw [revisionOf, hnone]; rfl)] at hheld
    exact (hheld.cons (record d revision)).trans (hrows.filterMap revisionOf).symm
  · refine (hrows.map Dispatch.creationSequence).nodup_iff.mpr ?_
    exact (hperm.map Dispatch.creationSequence).nodup_iff.mp h.distinct

theorem MadeOnce.next (h : MadeOnce w) {event : FlowEvent} (henabled : w.Enabled event) :
    MadeOnce (w.next event) := by
  by_cases hcapture : ∃ d n, event = .capture d n
  · obtain ⟨d, n, rfl⟩ := hcapture
    exact h.capture henabled
  by_cases hpersist : ∃ id revisionId approved, event = .persist id revisionId approved
  · obtain ⟨id, revisionId, approved, rfl⟩ := hpersist
    obtain ⟨execution, hexecution, d, hd, hnone, hvalid⟩ := henabled
    have hlookup : w.executions.lookup id = some execution := hexecution
    have hdispatch : w.dispatchOf execution = some d := hd
    obtain ⟨parent, variant, storyRevisionId, hstage, -⟩ := validLocked_stage hvalid
    simp only [FlowWorld.next, withDispatch, withExecution, hlookup, hdispatch, hstage]
    exact h.persisted (dispatchOf_eq hd).2 hnone _ approved
  · exact h.same (next_same (fun d n heq => hcapture ⟨d, n, heq⟩)
      fun id revisionId approved heq => hpersist ⟨id, revisionId, approved, heq⟩)

/-- **Each dispatch is made into one revision at most, and none is lost**, in every history,
whatever jobs are run twice, die or are retried. -/
theorem revisions_made_once (hreach : flowSystem.Reachable w) : MadeOnce w := by
  induction hreach with
  | init hinit =>
    rw [hinit]
    exact ⟨.nil, nodup_nil⟩
  | tail _ hstep ih =>
    obtain ⟨henabled, hnext⟩ := hstep
    rw [hnext]
    exact ih.next henabled

theorem revisions_made_once_passed : ∃ w, flowSystem.Reachable w
    ∧ w.created.map Created.creationSequence = [1, 2] ∧ MadeOnce w := by
  have hsteps : System.Along Enabled next start (captures
      ++ [.claim (.process 1) 20, .prepare 20, .generationFailed 20 (some .retryable)]
      ++ runThrough edit 22 32 ++ [.report 20, .fail 20] ++ runThrough original 21 31) := by
    decide +kernel
  have hreach := System.reachable_along (S := flowSystem) (fun _ _ hok => ⟨hok, rfl⟩) (.init rfl)
    hsteps
  exact ⟨_, hreach, by decide +kernel, revisions_made_once hreach⟩

end FlowWorld

end NewsCraft.Telegram.DispatchFlow
