import NewsCraft.Generation.VariantSystem
import NewsCraft.Lib.VersionChain

/-!
# The history of a variant

Each write path but one makes its revision from the current one. A Telegram edit looks its
base up by id and leaves it at that, so an edit made from an older revision passes the newer
one by. While every Telegram edit names the current revision, the revisions form one chain.
-/

namespace NewsCraft.Generation

open Lib Lib.VersionChain Jobs List Option

def revisionNaming : Naming PlatformVariantRevision UUID where
  name := PlatformVariantRevision.id
  parent := PlatformVariantRevision.parentRevisionId
  number := PlatformVariantRevision.revisionNumber

/-- The row was made from the current revision, under the next number. -/
structure ExtendsCurrent (revisions : Table PlatformVariantRevision)
    (row : PlatformVariantRevision) : Prop where
  parent : row.parentRevisionId = (currentRevision revisions).map PlatformVariantRevision.id
  number : ∀ revision ∈ revisions.rows, revision.revisionNumber < row.revisionNumber

/-- A Telegram edit that begins names the current revision as its base. -/
def EditsCurrent (s : VariantState) : VariantEvent → Prop
  | .begin (.editVariant edit _ _) _ =>
    ∀ current, currentRevision s.revisions = some current → edit.baseRevisionId = current.id
  | _ => True

variable {S : GenerationServices} {s s' : VariantState} {e : VariantEvent} {now : Datetime}
  {revisions : Table PlatformVariantRevision} {row : PlatformVariantRevision}

/-! ## Numbers -/

theorem le_maxRevisionNumber {revision : PlatformVariantRevision}
    (h : revision ∈ revisions.rows) : revision.revisionNumber ≤ maxRevisionNumber revisions := by
  unfold maxRevisionNumber
  generalize revisions.rows = rows at h
  induction rows with
  | nil => cases h
  | cons first rest ih =>
    rw [foldr_cons]
    rcases mem_cons.mp h with rfl | hrest
    · exact Nat.le_max_left _ _
    · exact Nat.le_trans (ih hrest) (Nat.le_max_right _ _)

theorem le_currentRevision {current revision : PlatformVariantRevision}
    (hcurrent : currentRevision revisions = some current) (h : revision ∈ revisions.rows) :
    revision.revisionNumber ≤ current.revisionNumber :=
  le_of_mem_argmax h (mem_def.mpr hcurrent)

theorem currentRevision_eq_none (h : currentRevision revisions = none) : revisions.rows = [] :=
  argmax_eq_none.mp h

/-! ## What a transaction plans -/

theorem number_of_current (h : row.revisionNumber
      = ((currentRevision revisions).map PlatformVariantRevision.revisionNumber).getD 0 + 1) :
    ∀ revision ∈ revisions.rows, revision.revisionNumber < row.revisionNumber := by
  intro revision hmem
  cases hc : currentRevision revisions with
  | none =>
    rw [currentRevision_eq_none hc] at hmem
    cases hmem
  | some current =>
    rw [hc] at h
    have hle := le_currentRevision hc hmem
    have hnext : row.revisionNumber = current.revisionNumber + 1 := h
    omega

/-- **A planned revision extends the current one**, a Telegram edit if it names it. -/
theorem extendsCurrent_of_planned {request : Request} {checkpoint : Option Checkpoint}
    (h : PlannedRevision s now request row checkpoint)
    (hedit : EditsCurrent s (.begin request now)) : ExtendsCurrent s.revisions row := by
  cases h with
  | edit hallowed hbase hparent hnumber =>
    refine ⟨?_, fun revision hmem => ?_⟩
    · cases hc : currentRevision s.revisions with
      | none =>
        obtain ⟨base, hbase⟩ := hbase
        have hmem := Table.mem_of_lookup hbase
        rw [currentRevision_eq_none hc] at hmem
        cases hmem
      | some current =>
        rw [hparent, hedit current hc]
        rfl
    · have hle := le_maxRevisionNumber hmem
      omega
  | manual _ hcurrent hparent hnumber | regenerated _ hcurrent hparent hnumber =>
    refine ⟨by rw [hparent, hcurrent]; rfl, number_of_current ?_⟩
    rw [hcurrent]
    exact hnumber
  | pack hallowed hparent hnumber => exact ⟨hparent, number_of_current hnumber⟩

/-! ## The chain along a run -/

/-- The revisions are a chain, and what is in flight extends it. -/
structure ChainInv (s : VariantState) : Prop where
  chain : Chain revisionNaming s.revisions.rows
  planned : ∀ txn, s.inFlight = some txn → ∀ row checkpoint, txn.plan = .revision row checkpoint →
    ExtendsCurrent s.revisions row

theorem chainInv_idle (h : ChainInv s) (hrevisions : s'.revisions = s.revisions)
    (hflight : s'.inFlight = s.inFlight ∨ s'.inFlight = none) : ChainInv s' := by
  refine ⟨by rw [hrevisions]; exact h.chain, fun txn htxn row checkpoint hplan => ?_⟩
  rw [hrevisions]
  rcases hflight with hsame | hnone
  · exact h.planned txn (hsame ▸ htxn) row checkpoint hplan
  rw [hnone] at htxn
  cases htxn

theorem chainInv_step (h : ChainInv s) (hcurrent : EditsCurrent s e)
    (hstep : (variantSystem S).step s e s') : ChainInv s' := by
  obtain ⟨hopen, rfl⟩ := hstep
  cases e with
  | begin request now =>
    rw [VariantState.next]
    cases hb : s.begin S request now with
    | error _ => exact h
    | ok txn =>
      refine ⟨h.chain, fun other hother row checkpoint hplan => ?_⟩
      cases hother
      obtain ⟨-, -, ⟨planned, _, hsame, -, hplanned⟩ | ⟨_, _, _, _, _, _, _, -, hsame, -⟩
        | ⟨_, -, -, hsame | ⟨_, hsame, -⟩⟩⟩ := begin_ok hb
      · rw [hplan] at hsame
        cases hsame
        show ExtendsCurrent s.revisions row
        exact extendsCurrent_of_planned hplanned hcurrent
      · rw [hplan] at hsame
        cases hsame
      · rw [hplan] at hsame
        cases hsame
      · rw [hplan] at hsame
        cases hsame
  | commit now =>
    obtain ⟨hsome, -⟩ := hopen
    obtain ⟨txn, htxn⟩ := isSome_iff_exists.mp hsome
    rw [VariantState.next, htxn]
    dsimp only
    rcases commit_cases S s txn.plan now with hc | ⟨row, -, hc⟩
      | ⟨row, checkpoint, db', hplan, hfree, -, hc⟩
    · rw [hc]
      exact chainInv_idle h rfl (.inr rfl)
    · rw [hc]
      exact chainInv_idle h rfl (.inr rfl)
    · have hextends := h.planned txn htxn row checkpoint hplan
      rw [hc]
      refine ⟨?_, fun other hother => absurd hother (by simp)⟩
      show Chain revisionNaming (s.revisions.insert row).rows
      rw [rows_insert hfree]
      exact h.chain.extend hextends.parent hextends.number
  | abort => exact chainInv_idle h rfl (.inr rfl)
  | job _ | tick _ => exact chainInv_idle h rfl (.inl rfl)

theorem chainInv_reachable (h : ((variantSystem S).restrict EditsCurrent).Reachable s) :
    ChainInv s := by
  refine System.invariant (P := ChainInv) ?_ ?_ h
  · rintro s ⟨hrevisions, -, hflight⟩
    refine ⟨?_, fun txn htxn => ?_⟩
    · rw [hrevisions]
      trivial
    · rw [hflight] at htxn
      cases htxn
  · rintro s e s' - hinv ⟨hcurrent, hstep⟩
    exact chainInv_step hinv hcurrent hstep

/-- No edit is lost: the revisions are a chain that ends in the current one. -/
structure NoLostEdit (revisions : Table PlatformVariantRevision) : Prop where
  chain : Chain revisionNaming revisions.rows
  ancestors : ∀ current, currentRevision revisions = some current → ∀ revision ∈ revisions.rows,
      Relation.ReflTransGen (MadeFrom revisionNaming revisions.rows) current revision
  siblings : ∀ x ∈ revisions.rows, ∀ y ∈ revisions.rows,
    x.parentRevisionId = y.parentRevisionId → x = y

theorem noLostEdit_of_chain (h : Chain revisionNaming revisions.rows) : NoLostEdit revisions := by
  refine ⟨h, fun current hcurrent revision hmem => ?_, fun x hx y hy hparent => ?_⟩
  · have hhead : revisions.rows.head? = some current := by
      rw [← argmax_eq_head? h]
      exact hcurrent
    cases hrows : revisions.rows with
    | nil => rw [hrows] at hhead; cases hhead
    | cons newest rest =>
      rw [hrows] at hhead h hmem
      cases hhead
      exact h.ancestor hmem
  · exact h.parent_injective revisions.nodup hx hy hparent

/-- **While Telegram edits name the current revision, no edit is lost**, and every
revision is made from the one that was current. -/
theorem revisions_single_chain (S : GenerationServices) {s : VariantState}
    (h : ((variantSystem S).restrict EditsCurrent).Reachable s) : NoLostEdit s.revisions
      ∧ ∀ e s' row, (variantSystem S).step s e s' → row ∈ s'.revisions.rows →
        row ∉ s.revisions.rows →
        row.parentRevisionId = (currentRevision s.revisions).map PlatformVariantRevision.id := by
  have hinv := chainInv_reachable h
  refine ⟨noLostEdit_of_chain hinv.chain, ?_⟩
  intro e s' row hstep hnew hold
  obtain ⟨now, txn, checkpoint, -, htxn, hplan⟩ := added_revision hstep hnew hold
  exact (hinv.planned txn htxn row checkpoint hplan).parent

/-! ## Two edits of one base -/

def editDigest (document : Json) : String :=
  match ((document.get? "content").bind fun content => content.get? "body") with
  | some (.str "Generated copy") =>
    "7d4810a786edd0752b2d52792ed6cc00c3d0002e0bdebe200ed7114fd0ebed6b"
  | some (.str "First edit") =>
    "752f09eb4591cbcc6ed28f6ec40cb4c490dcc8d091b1e27491cccd5a68f5a192"
  | _ => "b6de6e5fa3dd04bde3de4e610981adf930afeee3bf6e6aa17ab70a0d14e48188"

def editServices : GenerationServices := ⟨Redaction.identity, editDigest⟩

def bodyMaterial (body : String) : Material :=
  ⟨.obj [("body", .str body)], .arr [], .arr []⟩

/-- A pack generation by worker `w` of job 10. -/
def generateFirst : List VariantEvent :=
  [.job (.enqueue ⟨"content_pack.generate", .empty, "pack", .manual, 0, none, 3, true, none, none⟩
      true 10 0),
    .job (.claim "w" 300 none [] 0),
    .begin (.packGeneration ⟨20, fun _ => .ok (bodyMaterial "Generated copy"),
        ⟨10, "w", packJobResult 30 ["telegram"] [(1, 101)]⟩⟩ 101) 0,
    .commit 0]

def editRequest (body : String) (id : UUID) : Request :=
  .editVariant ⟨101, "7d4810a786edd0752b2d52792ed6cc00c3d0002e0bdebe200ed7114fd0ebed6b",
      .obj [("body", .str body)], [], "operator"⟩
    (fun _ => .ok (bodyMaterial body)) id

def editFirst (body : String) (id : UUID) : List VariantEvent :=
  [.begin (editRequest body id) 0, .commit 0]

def freshVariant : VariantState :=
  ⟨⟨1, .telegram⟩, Table.empty, World.empty, 0, none⟩

def afterEvents (events : List VariantEvent) : VariantState :=
  events.foldl (VariantState.next editServices) freshVariant

theorem generateFirst_open : System.Along
    (fun s e => EditsCurrent s e ∧ Enabled editServices s e) (VariantState.next editServices)
    freshVariant generateFirst := by
  have hreading : ∀ now, some (0 : Datetime) = some now → now ≤ (0 : Datetime) := by
    intro now h
    cases h
    exact Int.le_refl 0
  have hidle : ∀ s : VariantState, s.inFlight.isNone = true → s.inFlight = none :=
    fun _ h => isNone_iff_eq_none.mp h
  have hstores : NoFenceIn Redaction.identity (packJobResult 30 ["telegram"] [(1, 101)]) :=
    packJobResult_noFence 30 ["telegram"] [(1, 101)]
  refine ⟨⟨trivial, ?_⟩, ⟨trivial, ?_⟩, ⟨trivial, ?_⟩, ⟨trivial, ?_⟩, trivial⟩
  · exact jobCall_idle rfl hreading fun _ => trivial
  · exact jobCall_idle (by decide +kernel) hreading fun _ => trivial
  · exact ⟨hidle _ (by decide +kernel), Int.le_refl 0, hstores⟩
  · exact ⟨by decide +kernel, Int.le_refl 0⟩

theorem editFirst_open {s : VariantState} {body : String} {id : UUID}
    (hidle : s.inFlight.isNone = true) (hclock : 0 ≤ s.clock)
    (hbegun : (s.next editServices (.begin (editRequest body id) 0)).inFlight.isSome = true) :
    System.Along (Enabled editServices) (VariantState.next editServices) s (editFirst body id) := by
  have hsame : (s.next editServices (.begin (editRequest body id) 0)).clock = s.clock := by
    rw [VariantState.next]
    cases s.begin editServices (editRequest body id) 0 <;> rfl
  exact ⟨⟨isNone_iff_eq_none.mp hidle, hclock, trivial⟩,
    ⟨hbegun, by rw [hsame]; exact hclock⟩, trivial⟩

theorem afterEdit_open : System.Along
    (fun s e => EditsCurrent s e ∧ Enabled editServices s e) (VariantState.next editServices)
    freshVariant (generateFirst ++ editFirst "First edit" 102) := by
  have hopen : System.Along (Enabled editServices) (VariantState.next editServices)
      (afterEvents generateFirst) (editFirst "First edit" 102) :=
    editFirst_open (by decide +kernel) (by decide +kernel) (by decide +kernel)
  have hcurrent : EditsCurrent (afterEvents generateFirst)
      (.begin (editRequest "First edit" 102) 0) := by
    intro current hc
    have hid : (currentRevision (afterEvents generateFirst).revisions).map
        PlatformVariantRevision.id = some 101 := by decide +kernel
    rw [hc] at hid
    exact (Option.some.inj hid).symm
  exact generateFirst_open.append ⟨⟨hcurrent, hopen.1⟩, ⟨trivial, hopen.2.1⟩, trivial⟩

theorem revisions_single_chain_edited :
    NoLostEdit (afterEvents (generateFirst ++ editFirst "First edit" 102)).revisions :=
  (revisions_single_chain editServices (reachable_of_along ⟨rfl, rfl, rfl⟩ afterEdit_open)).1

/-- Two operators edit revision 101 in turn, and both children have it as parent. -/
theorem second_edit_bypasses_first :
    ¬ ∀ (S : GenerationServices) (s : VariantState), (variantSystem S).Reachable s →
      NoLostEdit s.revisions ∧ ∀ e s' row, (variantSystem S).step s e s' → row ∈ s'.revisions.rows →
          row ∉ s.revisions.rows →
          row.parentRevisionId = (currentRevision s.revisions).map PlatformVariantRevision.id := by
  intro hall
  let events := generateFirst ++ editFirst "First edit" 102
  let last := events ++ editFirst "Second edit" 103
  have hfirst : System.Along (fun s e => True ∧ Enabled editServices s e)
      (VariantState.next editServices) freshVariant events :=
    afterEdit_open.mono fun _ _ h => ⟨trivial, h.2⟩
  have hsecond : System.Along (fun s e => True ∧ Enabled editServices s e)
      (VariantState.next editServices) (afterEvents events) (editFirst "Second edit" 103) :=
    (editFirst_open (by decide +kernel) (by decide +kernel) (by decide +kernel)).mono
      fun _ _ h => ⟨trivial, h⟩
  have hreach : (variantSystem editServices).Reachable (afterEvents last) :=
    (reachable_of_along ⟨rfl, rfl, rfl⟩ (hfirst.append hsecond)).of_restrict
  have hrows : (afterEvents last).revisions.rows.map
      (fun revision => (revision.id, revision.parentRevisionId))
        = [(103, some 101), (102, some 101), (101, none)] := by decide +kernel
  have hnodup := (hall editServices _ hreach).1.siblings
  obtain ⟨x, rest, hx, hxid, hrest⟩ := map_eq_cons_iff.mp hrows
  obtain ⟨y, rest', rfl, hyid, -⟩ := map_eq_cons_iff.mp hrest
  have hmemx : x ∈ (afterEvents last).revisions.rows := by rw [hx]; exact mem_cons_self
  have hmemy : y ∈ (afterEvents last).revisions.rows := by
    rw [hx]
    exact mem_cons_of_mem x mem_cons_self
  obtain ⟨hxid, hxparent⟩ := Prod.mk.inj hxid
  obtain ⟨hyid, hyparent⟩ := Prod.mk.inj hyid
  have hsame := hnodup x hmemx y hmemy (hxparent.trans hyparent.symm)
  rw [hsame, hyid] at hxid
  exact absurd hxid (by decide)

end NewsCraft.Generation
