import NewsCraft.Research.OpenRouterLoop

/-!
# The research loop and its budget

What carries over from round to round is the ledger: what was called is covered by the usage
that is counted, and what is counted by the budget, with one call of the model not counted
yet between its start and its reply. A round is followed with a triple for each part.
-/

namespace NewsCraft.Research

open Lib List

/-! ## What was called -/

def Call.isModel : Call → Bool
  | .model _ _ _ _ => true
  | _ => false

def Call.isSearch : Call → Bool
  | .search _ _ _ => true
  | _ => false

def Call.isFetch : Call → Bool
  | .fetch _ => true
  | _ => false

def totalLength : List DiscoveredSource → Int
  | [] => 0
  | source :: rest => source.contentText.length + totalLength rest

theorem totalLength_append_singleton (sources : List DiscoveredSource) (source : DiscoveredSource) :
    totalLength (sources ++ [source]) = totalLength sources + source.contentText.length := by
  induction sources with
  | nil => simp [totalLength]
  | cons first rest ih =>
    rw [cons_append, totalLength, totalLength, ih]
    omega

variable (E : LoopEnv) (request : ResearchRequest)

/-- No limit was reached when the model was called; the one of the cost counts where tokens
cost something. -/
structure Unspent (started : Rat) (usage : ResearchUsage) (reading : Rat) : Prop where
  inputTokens : usage.inputTokens < request.budget.maxInputTokens
  outputTokens : usage.outputTokens < request.budget.maxOutputTokens
  cost : 0 < E.pricing.inputUsdPerMillion ∨ 0 < E.pricing.outputUsdPerMillion →
    usage.estimatedCostUsd < request.budget.maxCostUsd
  elapsed : reading < deadline request started

structure CallsWithin (started : Rat) (calls : List Call) : Prop where
  models : (calls.countP Call.isModel : Int) ≤ min 12 request.budget.maxModelCalls
  starts : ∀ usage reading maxOutputTokens observations,
    Call.model usage reading maxOutputTokens observations ∈ calls →
      Unspent E request started usage reading
  searches : (calls.countP Call.isSearch : Int) ≤ request.budget.maxQueries
  fetches : (calls.countP Call.isFetch : Int) ≤ request.budget.maxPages

structure ResultWithin (result : ResearchResult) : Prop where
  notExceeded : budgetExceeded request.budget result.usage result.elapsedMs = false
  characters : result.usage.fetchedCharacters = totalLength result.sources
  pages : (result.sources.length : Int) ≤ result.usage.pages

/-! ## The ledger -/

/-- The calls are covered by what is counted, but for the pending calls of the model, with
rounds left. -/
structure Ledger (started : Rat) (pending left : Nat) (calls : List Call) (usage : ResearchUsage)
    (sources : List DiscoveredSource) : Prop where
  models : (calls.countP Call.isModel : Int) = usage.modelCalls + pending
  rounds : calls.countP Call.isModel + left ≤ 12
  modelCalls : usage.modelCalls + pending ≤ request.budget.maxModelCalls
  starts : ∀ spent reading maxOutputTokens observations,
    Call.model spent reading maxOutputTokens observations ∈ calls →
      Unspent E request started spent reading
  searches : (calls.countP Call.isSearch : Int) ≤ usage.queries
  queries : usage.queries ≤ request.budget.maxQueries
  fetches : (calls.countP Call.isFetch : Int) ≤ usage.pages
  pages : usage.pages ≤ request.budget.maxPages
  characters : usage.fetchedCharacters = totalLength sources
  totalChars : usage.fetchedCharacters ≤ request.budget.maxTotalChars
  sources : (sources.length : Int) ≤ usage.pages

structure TokensWithin (usage : ResearchUsage) : Prop where
  inputTokens : usage.inputTokens ≤ request.budget.maxInputTokens
  outputTokens : usage.outputTokens ≤ request.budget.maxOutputTokens
  cost : usage.estimatedCostUsd ≤ request.budget.maxCostUsd

def Between (started : Rat) (left : Nat) (s : LoopState) : Prop :=
  Ledger E request started 0 left s.calls s.usage s.sources ∧ TokensWithin request s.usage

def Covered (started : Rat) (s : LoopState) : Prop := CallsWithin E request started s.calls

variable {E request} {started : Rat} {pending left : Nat}

variable {s : LoopState}

theorem Ledger.covered (h : Ledger E request started pending left s.calls s.usage s.sources) :
    Covered E request started s where
  models := by
    have hmodels := h.models
    have hrounds := h.rounds
    have hcalls := h.modelCalls
    omega
  starts := h.starts
  searches := h.searches.trans h.queries
  fetches := h.fetches.trans h.pages

theorem Between.covered (h : Between E request started left s) : Covered E request started s :=
  h.1.covered

/-! ## Steps that only look -/

def tick (s : LoopState) : LoopState := { s with readings := s.readings + 1 }

theorem monotonic_reads : Act.Reads tick (monotonic E) := fun _ => ⟨1, rfl⟩

theorem checkElapsed_reads : Act.Reads tick (checkElapsed E request started) :=
  monotonic_reads.bind fun _ => Act.Reads.ite Act.Reads.stop Act.Reads.pure

theorem remainingSeconds_reads : Act.Reads tick (remainingSeconds E request started) :=
  monotonic_reads.bind fun _ => Act.Reads.ite Act.Reads.stop Act.Reads.pure

theorem requiredUsage_reads (usage : ReportedUsage) : Act.Reads tick (requiredUsage usage) := by
  refine Act.Reads.ite Act.Reads.stop ?_
  cases usage.inputTokens with
  | none => exact Act.Reads.stop
  | some inputTokens =>
    cases usage.outputTokens with
    | none => exact Act.Reads.stop
    | some outputTokens => exact Act.Reads.ite Act.Reads.stop Act.Reads.pure

theorem checkCitation_reads (evidence : List (String × String)) (citation : CandidateCitation) :
    Act.Reads tick (checkCitation E request started evidence citation) := by
  refine checkElapsed_reads.bind ?_
  intro _
  cases evidence.lookup citation.evidenceKey with
  | none => exact Act.Reads.ite Act.Reads.stop Act.Reads.stop
  | some content =>
    cases locatorRange E citation.locator with
    | none => exact Act.Reads.stop
    | some range =>
      exact Act.Reads.ite Act.Reads.stop (Act.Reads.ite Act.Reads.stop Act.Reads.pure)

theorem checkClaim_reads (evidence : List (String × String)) (claim : CandidateClaim) :
    Act.Reads tick (checkClaim E request started evidence claim) :=
  checkElapsed_reads.bind fun _ =>
    Act.Reads.each (checkCitation_reads evidence) claim.citations

theorem validatedFinish_reads (brief : CandidateResearchBrief) (sources : List DiscoveredSource) :
    Act.Reads tick (validatedFinish E request started brief sources) := by
  refine checkElapsed_reads.bind fun _ => ?_
  refine (Act.Reads.each (fun _ => checkElapsed_reads) sources).bind fun _ => ?_
  refine Act.Reads.ite Act.Reads.stop ?_
  refine checkElapsed_reads.bind fun _ => ?_
  refine (Act.Reads.each (fun _ => checkElapsed_reads) request.evidence).bind fun _ => ?_
  refine (Act.Reads.each (fun _ => checkElapsed_reads) sources).bind fun _ => ?_
  exact (Act.Reads.each (checkClaim_reads _) _).bind fun _ => checkElapsed_reads

variable {P R : LoopState → Prop}

theorem withinDeadline_triple {Q : LoopState → Prop} {call : LoopState → Rat → Call}
    (htick : ∀ s, P s → P (tick s)) (hstop : ∀ s, P s → R s)
    (hcall : ∀ s reading, P s → reading < deadline request started → Q { s with calls := s.calls ++
      [call s reading] }) :
    Act.Triple P (withinDeadline E request started call) (fun _ => Q) R := by
  intro s hs
  have hticked := htick s hs
  change Act.Ends (fun _ => Q) R
    ((if deadline request started - E.monotonic s.readings ≤ 0 then Act.stop elapsedExhausted
      else do
        let state ← Act.get
        Act.modify fun state =>
          { state with calls := state.calls ++ [call state (E.monotonic s.readings)] }
        pure state.calls.length : LoopAct Nat) (tick s))
  by_cases hlate : deadline request started - E.monotonic s.readings ≤ 0
  · rw [if_pos hlate]
    exact hstop _ hticked
  · rw [if_neg hlate]
    exact hcall _ _ hticked (by linarith)

/-! ## The call of the model -/

theorem checkBeforeModel_triple :
    Act.Triple (Between E request started left) (checkBeforeModel E request)
      (fun _ s => Between E request started left s
        ∧ s.usage.modelCalls < request.budget.maxModelCalls
        ∧ ∀ reading, reading < deadline request started → Unspent E request started s.usage reading)
      (Covered E request started) := by
  refine Act.Triple.get_bind fun state => ?_
  refine Act.Triple.ite (fun _ => Act.Triple.stop fun s h => h.2.covered) fun hcalls => ?_
  refine Act.Triple.ite (fun _ => Act.Triple.stop fun s h => h.2.covered) fun hinput => ?_
  refine Act.Triple.ite (fun _ => Act.Triple.stop fun s h => h.2.covered) fun houtput => ?_
  refine Act.Triple.ite (fun _ => Act.Triple.stop fun s h => h.2.covered) fun hcost => ?_
  refine Act.Triple.pure ?_
  intro s h
  obtain ⟨rfl, hbetween⟩ := h
  refine ⟨hbetween, by omega, ?_⟩
  intro reading hreading
  refine ⟨by omega, by omega, ?_, hreading⟩
  intro hrate
  by_contra hreached
  exact hcost ⟨hrate, not_lt.mp hreached⟩

theorem Ledger.callModel {reading : Rat}
    (h : Ledger E request started 0 (left + 1) s.calls s.usage s.sources)
    (hcalls : s.usage.modelCalls < request.budget.maxModelCalls)
    (hunspent : Unspent E request started s.usage reading) (maxOutputTokens : Int)
    (observations : List Observation) :
    Ledger E request started 1 left
      (s.calls ++ [.model s.usage reading maxOutputTokens observations]) s.usage s.sources where
  models := by
    have hmodels := h.models
    simp only [countP_append, countP_singleton, Call.isModel, if_true]
    push_cast
    omega
  rounds := by
    have hrounds := h.rounds
    simp only [countP_append, countP_singleton, Call.isModel, if_true]
    omega
  modelCalls := by
    push_cast
    omega
  starts := by
    intro spent reading' maxOutputTokens' observations' hmem
    rcases mem_append.mp hmem with hold | hnew
    · exact h.starts _ _ _ _ hold
    · simp only [mem_singleton, Call.model.injEq] at hnew
      rw [hnew.1, hnew.2.1]
      exact hunspent
  searches := by simpa [Call.isSearch] using h.searches
  queries := h.queries
  fetches := by simpa [Call.isFetch] using h.fetches
  pages := h.pages
  characters := h.characters
  totalChars := h.totalChars
  sources := h.sources

theorem generate_triple : Act.Triple (fun s => Between E request started (left + 1) s
        ∧ s.usage.modelCalls < request.budget.maxModelCalls
        ∧ ∀ reading, reading < deadline request started → Unspent E request started s.usage reading)
      (generate E request started)
      (fun _ s => Ledger E request started 1 left s.calls s.usage s.sources)
      (Covered E request started) := by
  refine Act.Triple.bind
    (Q := fun _ s => Ledger E request started 1 left s.calls s.usage s.sources)
    (withinDeadline_triple (fun s h => h) (fun s h => h.1.covered)
      (fun s reading h hreading => h.1.1.callModel h.2.1 (h.2.2 reading hreading) _ _))
    fun call => ?_
  have hstop : ∀ (e : ResearchStop), Act.Triple
      (fun s : LoopState => Ledger E request started 1 left s.calls s.usage s.sources)
      (Act.stop e : LoopAct (String × ReportedUsage × Option ResearchAction))
      (fun _ s => Ledger E request started 1 left s.calls s.usage s.sources)
      (Covered E request started) := fun e => Act.Triple.stop fun s h => h.covered
  cases E.modelReply call with
  | result resolvedModel usage output => exact Act.Triple.pure fun s h => h
  | _ => exact hstop _

theorem Ledger.count {calls : List Call} {usage : ResearchUsage}
    {sources : List DiscoveredSource} (h : Ledger E request started 1 left calls usage sources)
    (inputTokens outputTokens : Int) :
    Ledger E request started 0 left calls (countModel E usage inputTokens outputTokens)
      sources where
  models := by
    have hmodels := h.models
    simp only [countModel]
    push_cast at hmodels ⊢
    omega
  rounds := h.rounds
  modelCalls := by
    have hcalls := h.modelCalls
    simp only [countModel]
    push_cast at hcalls ⊢
    omega
  starts := h.starts
  searches := h.searches
  queries := h.queries
  fetches := h.fetches
  pages := h.pages
  characters := h.characters
  totalChars := h.totalChars
  sources := h.sources

theorem checkAfterModel_triple :
    Act.Triple (fun s => Ledger E request started 0 left s.calls s.usage s.sources)
      (checkAfterModel request) (fun _ => Between E request started left)
      (Covered E request started) := by
  refine Act.Triple.get_bind fun state => ?_
  refine Act.Triple.ite (fun _ => Act.Triple.stop fun s h => h.2.covered) fun hinput => ?_
  refine Act.Triple.ite (fun _ => Act.Triple.stop fun s h => h.2.covered) fun houtput => ?_
  refine Act.Triple.ite (fun _ => Act.Triple.stop fun s h => h.2.covered) fun hcost => ?_
  refine Act.Triple.pure ?_
  intro s h
  obtain ⟨rfl, hledger⟩ := h
  exact ⟨hledger, not_lt.mp hinput, not_lt.mp houtput, not_lt.mp hcost⟩

theorem nextAction_triple :
    Act.Triple (Between E request started (left + 1)) (nextAction E request started)
      (fun _ => Between E request started left) (Covered E request started) := by
  refine Act.Triple.bind (checkElapsed_reads.keeps (fun s h => h) fun s h => h.covered) fun _ => ?_
  refine Act.Triple.bind checkBeforeModel_triple fun _ => ?_
  refine Act.Triple.bind generate_triple fun reply => ?_
  refine Act.Triple.bind (checkElapsed_reads.keeps (fun s h => h) fun s h => h.covered) fun _ => ?_
  refine Act.Triple.bind ((requiredUsage_reads reply.2.1).keeps (fun s h => h)
    fun s h => h.covered) fun tokens => ?_
  refine Act.Triple.bind
    (Q := fun _ s => Ledger E request started 0 left s.calls s.usage s.sources)
    (Act.Triple.modify fun s h => h.count tokens.1 tokens.2) fun _ => ?_
  refine Act.Triple.bind checkAfterModel_triple fun _ => ?_
  cases reply.2.2 with
  | none => exact Act.Triple.stop fun s h => h.covered
  | some action =>
    refine Act.Triple.bind (checkElapsed_reads.keeps (fun s h => h) fun s h => h.covered)
      fun _ => ?_
    exact Act.Triple.pure fun s h => h

/-! ## Finishing -/

theorem roundHalfEven_le {x : Rat} {n : Int} (h : x < n) : roundHalfEven x ≤ n := by
  have hbelow := Int.floor_lt.mpr h
  unfold roundHalfEven
  dsimp only
  split <;> omega

/-- The milliseconds of a reading that was taken before. -/
def Measured (E : LoopEnv) (started : Rat) (ms : Int) (s : LoopState) : Prop :=
  ∃ i, i < s.readings ∧ ms = max 0 (roundHalfEven ((E.monotonic i - started) * 1000))

theorem elapsedMs_triple (htick : ∀ s, P s → P (tick s)) :
    Act.Triple P (elapsedMs E started) (fun ms s => P s ∧ Measured E started ms s) R := by
  intro s hs
  exact ⟨htick s hs, s.readings, Nat.lt_succ_self _, rfl⟩

theorem checkElapsed_measured (hclock : ∀ i j, i ≤ j → E.monotonic i ≤ E.monotonic j)
    (htick : ∀ s, P s → P (tick s)) (hstop : ∀ s, P s → R s) (ms : Int) :
    Act.Triple (fun s => P s ∧ Measured E started ms s) (checkElapsed E request started)
      (fun _ s => P s ∧ ms ≤ request.budget.maxElapsedSeconds * 1000) R := by
  intro s h
  obtain ⟨hs, i, hi, rfl⟩ := h
  change Act.Ends _ R
    ((if deadline request started ≤ E.monotonic s.readings then Act.stop elapsedExhausted
      else pure () : LoopAct Unit) (tick s))
  by_cases hlate : deadline request started ≤ E.monotonic s.readings
  · rw [if_pos hlate]
    exact hstop _ (htick s hs)
  · rw [if_neg hlate]
    refine ⟨htick s hs, ?_⟩
    have hreading := hclock i s.readings (Nat.le_of_lt hi)
    have hseconds := request.inRange.2.2.2.2.2.2.2.1
    have hbelow : (E.monotonic i - started) * 1000
        < ((request.budget.maxElapsedSeconds * 1000 : Int) : Rat) := by
      have hdeadline := not_le.mp hlate
      unfold deadline at hdeadline
      push_cast
      linarith
    have hround := roundHalfEven_le hbelow
    omega

theorem freeze_triple (hstop : ∀ s, P s → R s) (usage : ResearchUsage) :
    Act.Triple P (freeze usage) (fun frozen s => frozen = usage ∧ P s) R :=
  Act.Triple.ite (fun _ => Act.Triple.stop hstop) fun _ => Act.Triple.pure fun _ h => ⟨rfl, h⟩

theorem Between.notExceeded (h : Between E request started left s) {ms : Int}
    (hms : ms ≤ request.budget.maxElapsedSeconds * 1000) :
    budgetExceeded request.budget s.usage ms = false := by
  obtain ⟨hledger, htokens⟩ := h
  have hcalls := hledger.modelCalls
  rw [budgetExceeded, decide_eq_false_iff_not]
  simp only [not_or, not_lt, gt_iff_lt]
  exact ⟨by omega, htokens.inputTokens, htokens.outputTokens, htokens.cost, hledger.queries,
    hledger.pages, hledger.totalChars, hms⟩

theorem finish_triple (hclock : ∀ i j, i ≤ j → E.monotonic i ≤ E.monotonic j)
    (brief : CandidateResearchBrief) :
    Act.Triple (Between E request started left) (finish E request started brief)
      (fun result s => Covered E request started s ∧ ResultWithin request result)
      (Covered E request started) := by
  refine Act.Triple.get_bind fun state => ?_
  -- what was read stays within the budget while the clock goes on
  refine Act.Triple.weaken (?_ : Act.Triple
    (fun s => Between E request started left state ∧ Between E request started left s) _ _ _)
    (fun s h => ⟨h.1 ▸ h.2, h.2⟩) (fun _ _ h => h)
  refine Act.Triple.bind ((validatedFinish_reads brief state.sources).keeps (fun s h => h)
    fun s h => h.2.covered) fun _ => ?_
  refine Act.Triple.bind (checkElapsed_reads.keeps (fun s h => h) fun s h => h.2.covered)
    fun _ => ?_
  refine Act.Triple.bind (elapsedMs_triple fun s h => h) fun ms => ?_
  refine Act.Triple.bind (freeze_triple (fun s h => h.1.2.covered) state.usage) fun usage => ?_
  intro s h
  obtain ⟨rfl, hmeasured⟩ := h
  revert s
  refine Act.Triple.bind (checkElapsed_measured hclock (fun s h => h) (fun s h => h.2.covered) ms)
    fun _ => ?_
  refine Act.Triple.pure ?_
  intro s h
  obtain ⟨⟨hstate, hbetween⟩, hms⟩ := h
  exact ⟨hbetween.covered, hstate.notExceeded hms, hstate.1.characters, hstate.1.sources⟩

/-! ## Searching and fetching -/

theorem observe_triple (observation : Observation) (event : Event) :
    Act.Triple (Between E request started left) (observe observation event)
      (fun _ => Between E request started left) R :=
  Act.Triple.modify fun _ h => h

def ToSearch (E : LoopEnv) (request : ResearchRequest) (started : Rat) (left : Nat)
    (s : LoopState) : Prop :=
  Between E request started left s ∧ (s.calls.countP Call.isSearch : Int) + 1 ≤ s.usage.queries

theorem Between.countQuery (h : Between E request started left s)
    (hroom : s.usage.queries < request.budget.maxQueries) :
    ToSearch E request started left
      { s with usage := { s.usage with queries := s.usage.queries + 1 } } := by
  obtain ⟨hledger, htokens⟩ := h
  have hsearches := hledger.searches
  refine ⟨⟨{ hledger with searches := ?_, queries := ?_ }, ⟨htokens.1, htokens.2, htokens.3⟩⟩, ?_⟩
  · change (s.calls.countP Call.isSearch : Int) ≤ s.usage.queries + 1
    omega
  · change s.usage.queries + 1 ≤ request.budget.maxQueries
    omega
  · change (s.calls.countP Call.isSearch : Int) + 1 ≤ s.usage.queries + 1
    omega

theorem ToSearch.call (h : ToSearch E request started left s) (query : String) (limit : Int)
    (timeoutSeconds : Rat) :
    Between E request started left
      { s with calls := s.calls ++ [.search query limit timeoutSeconds] } := by
  obtain ⟨⟨hledger, htokens⟩, hcounted⟩ := h
  refine ⟨{ hledger with models := ?_, rounds := ?_, starts := ?_, searches := ?_, fetches := ?_ },
    htokens⟩
  · simpa [Call.isModel] using hledger.models
  · simpa [Call.isModel] using hledger.rounds
  · intro usage reading maxOutputTokens observations hmem
    exact hledger.starts usage reading maxOutputTokens observations (by simpa using hmem)
  · simpa [Call.isSearch] using hcounted
  · simpa [Call.isFetch] using hledger.fetches

theorem search_triple (query : String) :
    Act.Triple (Between E request started left) (search E request started query)
      (fun _ => Between E request started left) (Covered E request started) := by
  refine Act.Triple.get_bind fun state => ?_
  refine Act.Triple.ite (fun _ => ?_) fun hroom => ?_
  · exact (observe_triple _ _).weaken (fun s h => h.2) fun _ _ h => h
  · refine Act.Triple.bind (Q := fun _ => ToSearch E request started left)
      (Act.Triple.modify ?_) fun _ => ?_
    · intro s h
      obtain ⟨rfl, hbetween⟩ := h
      exact hbetween.countQuery (by omega)
    refine Act.Triple.bind (remainingSeconds_reads.keeps (fun s h => h) fun s h => h.1.covered)
      fun remaining => ?_
    refine Act.Triple.bind (Q := fun _ => Between E request started left)
      (withinDeadline_triple (fun s h => h) (fun s h => h.1.covered)
        fun s _ h _ => h.call query _ remaining) fun call => ?_
    cases E.searchReply call with
    | ok _ | failed => exact observe_triple _ _
    | timeout | aborted _ => exact Act.Triple.stop fun s h => h.covered

def ToFetch (E : LoopEnv) (request : ResearchRequest) (started : Rat) (left : Nat)
    (s : LoopState) : Prop :=
  Between E request started left s ∧ (s.calls.countP Call.isFetch : Int) + 1 ≤ s.usage.pages
    ∧ (s.sources.length : Int) + 1 ≤ s.usage.pages

def Fetched (E : LoopEnv) (request : ResearchRequest) (started : Rat) (left : Nat)
    (s : LoopState) : Prop :=
  Between E request started left s ∧ (s.sources.length : Int) + 1 ≤ s.usage.pages

theorem Between.countPage (h : Between E request started left s)
    (hroom : s.usage.pages < request.budget.maxPages) :
    ToFetch E request started left
      { s with usage := { s.usage with pages := s.usage.pages + 1 } } := by
  obtain ⟨hledger, htokens⟩ := h
  have hfetches := hledger.fetches
  have hsources := hledger.sources
  refine ⟨⟨{ hledger with fetches := ?_, pages := ?_, sources := ?_ },
    ⟨htokens.1, htokens.2, htokens.3⟩⟩, ?_, ?_⟩
  · change (s.calls.countP Call.isFetch : Int) ≤ s.usage.pages + 1
    omega
  · change s.usage.pages + 1 ≤ request.budget.maxPages
    omega
  · change (s.sources.length : Int) ≤ s.usage.pages + 1
    omega
  · change (s.calls.countP Call.isFetch : Int) + 1 ≤ s.usage.pages + 1
    omega
  · change (s.sources.length : Int) + 1 ≤ s.usage.pages + 1
    omega

theorem ToFetch.call (h : ToFetch E request started left s) (url : String) :
    Fetched E request started left { s with calls := s.calls ++ [.fetch url] } := by
  obtain ⟨⟨hledger, htokens⟩, hcounted, hroom⟩ := h
  refine ⟨⟨{ hledger with models := ?_, rounds := ?_, starts := ?_, searches := ?_, fetches := ?_ },
    htokens⟩, hroom⟩
  · simpa [Call.isModel] using hledger.models
  · simpa [Call.isModel] using hledger.rounds
  · intro usage reading maxOutputTokens observations hmem
    exact hledger.starts usage reading maxOutputTokens observations (by simpa using hmem)
  · simpa [Call.isSearch] using hledger.searches
  · simpa [Call.isFetch] using hcounted

theorem Fetched.keep (h : Fetched E request started left s) {source : DiscoveredSource}
    (hfits : s.usage.fetchedCharacters + source.contentText.length ≤ request.budget.maxTotalChars) :
    Between E request started left { s with
        sources := s.sources ++ [source]
        usage :=
          { s.usage with
            fetchedCharacters := s.usage.fetchedCharacters + source.contentText.length } } := by
  obtain ⟨⟨hledger, htokens⟩, hroom⟩ := h
  refine ⟨{ hledger with characters := ?_, totalChars := hfits, sources := ?_ },
    ⟨htokens.1, htokens.2, htokens.3⟩⟩
  · have hcharacters := hledger.characters
    rw [totalLength_append_singleton]
    change s.usage.fetchedCharacters + source.contentText.length = _
    omega
  · simpa using hroom

theorem keep_triple (source : DiscoveredSource) :
    Act.Triple (Fetched E request started left) (keep E request source)
      (fun _ => Between E request started left) (Covered E request started) := by
  refine Act.Triple.get_bind fun state => ?_
  refine Act.Triple.ite (fun _ => ?_) fun hfits => ?_
  · exact (observe_triple _ _).weaken (fun s h => h.2.1) fun _ _ h => h
  refine Act.Triple.ite (fun _ => ?_) fun _ => ?_
  · exact (observe_triple _ _).weaken (fun s h => h.2.1) fun _ _ h => h
  refine Act.Triple.bind (Q := fun _ => Between E request started left)
    (Act.Triple.modify ?_) fun _ => observe_triple _ _
  intro s h
  obtain ⟨rfl, hfetched⟩ := h
  exact hfetched.keep (by omega)

theorem fetch_triple (url : String) :
    Act.Triple (Between E request started left) (fetch E request started url)
      (fun _ => Between E request started left) (Covered E request started) := by
  refine Act.Triple.get_bind fun state => ?_
  refine Act.Triple.ite (fun _ => ?_) fun hroom => ?_
  · exact (observe_triple _ _).weaken (fun s h => h.2) fun _ _ h => h
  · refine Act.Triple.bind (Q := fun _ => ToFetch E request started left)
      (Act.Triple.modify ?_) fun _ => ?_
    · intro s h
      obtain ⟨rfl, hbetween⟩ := h
      exact hbetween.countPage (by omega)
    refine Act.Triple.bind (Q := fun _ => Fetched E request started left)
      (withinDeadline_triple (fun s h => h) (fun s h => h.1.covered)
        fun s _ h _ => h.call url) fun call => ?_
    cases E.fetchReply call with
    | ok source => exact keep_triple source
    | failed => exact (observe_triple _ _).weaken (fun s h => h.1) fun _ _ h => h
    | timeout | aborted _ => exact Act.Triple.stop fun s h => h.1.covered

/-! ## The whole loop -/

/-- What a round leaves: a result within the budget, or one round less. -/
def AfterTurn (E : LoopEnv) (request : ResearchRequest) (started : Rat) (left : Nat)
    (result : Option ResearchResult) (s : LoopState) : Prop :=
  match result with
  | some result => Covered E request started s ∧ ResultWithin request result
  | none => Between E request started left s

theorem turn_triple (hclock : ∀ i j, i ≤ j → E.monotonic i ≤ E.monotonic j) :
    Act.Triple (Between E request started (left + 1)) (turn E request started)
      (AfterTurn E request started left) (Covered E request started) := by
  refine Act.Triple.bind nextAction_triple fun action => ?_
  cases action with
  | finish brief =>
    exact Act.Triple.bind (finish_triple hclock brief) fun result => Act.Triple.pure fun _ h => h
  | search query =>
    exact Act.Triple.bind (search_triple query) fun _ => Act.Triple.pure fun _ h => h
  | fetch url => exact Act.Triple.bind (fetch_triple url) fun _ => Act.Triple.pure fun _ h => h

theorem rounds_triple (hclock : ∀ i j, i ≤ j → E.monotonic i ≤ E.monotonic j) (left : Nat) :
    Act.Triple (Between E request started left) (rounds E request started left)
      (fun result s => Covered E request started s ∧ ResultWithin request result)
      (Covered E request started) := by
  induction left with
  | zero => exact Act.Triple.stop fun s h => h.covered
  | succ left ih =>
    refine Act.Triple.bind (turn_triple hclock) fun result => ?_
    cases result with
    | some result => exact Act.Triple.pure fun _ h => h
    | none => exact ih

theorem between_start (request : ResearchRequest) (started : Rat) :
    Between E request started 12 (tick (LoopState.start request)) := by
  obtain ⟨hmodels, hinput, houtput, hcost, hqueries, -, hpages, -, hchars⟩ := request.inRange
  refine ⟨⟨rfl, Nat.le_refl 12, ?_, ?_, Int.le_refl 0, ?_, Int.le_refl 0, ?_, rfl, ?_,
    Int.le_refl 0⟩, ⟨?_, ?_, hcost.1⟩⟩
  · change 0 + 0 ≤ request.budget.maxModelCalls
    omega
  · intro usage reading maxOutputTokens observations hmem
    exact absurd hmem not_mem_nil
  · change 0 ≤ request.budget.maxQueries
    omega
  · change 0 ≤ request.budget.maxPages
    omega
  · change 0 ≤ request.budget.maxTotalChars
    omega
  · change 0 ≤ request.budget.maxInputTokens
    omega
  · change 0 ≤ request.budget.maxOutputTokens
    omega

/-- **Whatever the world answers, the calls of a request stay within its budget, and so does
a result.** -/
theorem research_withinBudget (E : LoopEnv) (request : ResearchRequest)
    (hclock : ∀ i j, i ≤ j → E.monotonic i ≤ E.monotonic j) :
    CallsWithin E request (E.monotonic 0) (researchRun E request).2.calls
      ∧ ∀ result, (researchRun E request).1 = .ok result → ResultWithin request result := by
  have hstart : Covered E request (E.monotonic 0) (LoopState.start request) :=
    (between_start (E := E) request (E.monotonic 0)).covered
  have hrounds := rounds_triple hclock 12 _ (between_start (E := E) request (E.monotonic 0))
  have hends : Act.Ends
      (fun result s => Covered E request (E.monotonic 0) s ∧ ResultWithin request result)
      (Covered E request (E.monotonic 0)) (researchRun E request) := by
    unfold researchRun research
    by_cases hprofile : request.providerProfileId ≠ E.profileId
    · rw [if_pos hprofile]
      exact hstart
    · rw [if_neg hprofile]
      by_cases hexceeds : Exceeds request.budget (E.researchBudgets.select request.depth).1
      · rw [if_pos hexceeds]
        exact hstart
      · rw [if_neg hexceeds]
        exact hrounds
  cases hrun : researchRun E request with
  | mk outcome s =>
    rw [hrun] at hends
    cases outcome with
    | ok result =>
      refine ⟨hends.1, ?_⟩
      intro result' heq
      cases heq
      exact hends.2
    | error stop =>
      refine ⟨hends, ?_⟩
      intro result heq
      cases heq

/-! ## A model that costs nothing -/

def freeEnv : LoopEnv where
  profileId := 1
  pricing := ⟨0, 0, by decide⟩
  researchBudgets := defaultResearchBudgets
  decimal := id
  sha256 := id
  normalizeUrl := id
  int := fun _ => none
  monotonic := fun _ => 0
  modelReply := fun _ => .result "free-v1" ⟨true, some 900, some 40⟩ (some (.finish ⟨[], [], []⟩))
  searchReply := fun _ => .failed
  fetchReply := fun _ => .failed

def freeRequest : ResearchRequest where
  providerProfileId := 1
  requestedModel := "free-v1"
  depth := .standard
  evidence := [⟨"item:1", "A bridge was opened."⟩]
  budget := (defaultResearchBudgets.select .standard).1
  inRange := (defaultResearchBudgets.select .standard).2

/-- The brief comes back, within the budget. -/
theorem free_withinBudget : ∃ result, (researchRun freeEnv freeRequest).1 = .ok result
      ∧ ResultWithin freeRequest result := by
  have hwithin := research_withinBudget freeEnv freeRequest (fun _ _ _ => le_refl 0)
  have hends : (researchRun freeEnv freeRequest).1.toOption.isSome = true := by decide +kernel
  cases hrun : (researchRun freeEnv freeRequest).1 with
  | ok result => exact ⟨result, rfl, hwithin.2 result hrun⟩
  | error stop =>
    rw [hrun] at hends
    cases hends

/-- The model is called though the cost is at its limit, which is zero. -/
theorem free_starts_at_limit : ∃ usage reading maxOutputTokens observations,
      Call.model usage reading maxOutputTokens observations
          ∈ (researchRun freeEnv freeRequest).2.calls
        ∧ freeRequest.budget.maxCostUsd ≤ usage.estimatedCostUsd := by
  have hcalls : (researchRun freeEnv freeRequest).2.calls = [.model zeroUsage 0 12000 []] := by
    decide +kernel
  refine ⟨zeroUsage, 0, 12000, [], ?_, le_refl 0⟩
  rw [hcalls]
  exact mem_singleton.mpr rfl

end NewsCraft.Research
