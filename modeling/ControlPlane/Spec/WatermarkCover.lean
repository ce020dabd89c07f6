import ControlPlane.ForStd.Run
import ControlPlane.Spec.WatermarkOverlap

/-!
# The watermark and the rows behind it

A run asks for the rows created strictly after its floor and leaves a watermark at
the last row it decided, so a row at or before the watermark that was not decided
is never asked for again. That happens where the row cap ends a run between two
rows of the same millisecond, and only there.

## Key results

- `reading_inOrder`: a complete reading decides every settled row, or the first ones
  up to the cap
- `LiveRun.covers`: what one run leaves behind its watermark
- `watermark_covers`: what any sequence of runs does
-/

namespace ControlPlane

open Script Run

/-! ## The feed -/

/-- One entry of the gateway's log. The row is missing where it cannot be read. -/
structure FeedItem where
  createdAt : Int
  row : Option GatewayLogRow
  stamped : ∀ log, row = some log → log.createdAt = createdAt

/-- Everything a gateway ever logs, in ascending order of its timestamps. -/
structure GatewayFeed where
  items : List FeedItem
  ascending : items.Pairwise (fun a b => a.createdAt ≤ b.createdAt)

/-- The readable rows of a part of the feed. -/
def readable (items : List FeedItem) : List GatewayLogRow :=
  items.filterMap (·.row)

/-- A page of a list of entries. -/
def pageOf (items : List FeedItem) (page perPage : Nat) : GatewayLogPage :=
  let slice := (items.drop ((page - 1) * perPage)).take perPage
  ⟨readable slice, (slice.filter (·.row.isNone)).length⟩

/-- The entries a run's clock calls settled. -/
def GatewayFeed.settled (feed : GatewayFeed) (args : ReconcileRunArgs) : List FeedItem :=
  feed.items.filter (·.createdAt ≤ toISOString (args.nowMs - settleMs))

/-- The settled entries after a floor. -/
def GatewayFeed.window (feed : GatewayFeed) (args : ReconcileRunArgs) (floor : Int) :
    List FeedItem :=
  (feed.settled args).filter (floor < ·.createdAt)

/-- Every page is an error, or a page of the entries after the floor that are visible
    by then: all the settled ones, and some of the newer ones after them. -/
def GatewayFeed.ServedBy (feed : GatewayFeed) (args : ReconcileRunArgs) : Prop :=
  ∀ since page, 1 ≤ page → (∃ detail, args.source.listSince since page args.pageSize =
      .error detail) ∨
    ∃ newer : List FeedItem,
      newer.Sublist (feed.items.filter (toISOString (args.nowMs - settleMs) < ·.createdAt)) ∧
      args.source.listSince since page args.pageSize =
        .ok (pageOf ((feed.settled args ++ newer).filter (since < ·.createdAt)) page args.pageSize)

theorem readable_append (xs ys : List FeedItem) :
    readable (xs ++ ys) = readable xs ++ readable ys :=
  List.filterMap_append ..

/-- A page is as long as the entries it answers for. -/
theorem pageOf_length (items : List FeedItem) (page perPage : Nat) :
    (pageOf items page perPage).rows.length + (pageOf items page perPage).malformed =
      ((items.drop ((page - 1) * perPage)).take perPage).length := by
  simp only [pageOf, readable]
  generalize (items.drop ((page - 1) * perPage)).take perPage = slice
  induction slice with
  | nil => rfl
  | cons item rest ih =>
    cases hrow : item.row <;> simp [hrow] <;> omega

/-- An entry that has settled passes the check of the loop. -/
theorem unsettled_of_window {feed : GatewayFeed} {args : ReconcileRunArgs} {floor : Int}
    {log : GatewayLogRow} (h : log ∈ readable (feed.window args floor)) :
    args.unsettled log = false := by
  obtain ⟨item, hitem, hrow⟩ := List.mem_filterMap.mp h
  have hsettled := (List.mem_filter.mp (List.mem_filter.mp hitem).1).2
  have hle : dateParse log.createdAt ≤ args.nowMs - settleMs := by
    rw [item.stamped log hrow, ← dateParse_toISOString (args.nowMs - settleMs)]
    exact dateParse_mono (of_decide_eq_true hsettled)
  simp only [ReconcileRunArgs.unsettled, decide_eq_false_iff_not]
  omega

/-! ## What a complete reading decides -/

/-- All of `rows` is decided, or exactly its first rows up to a cap. -/
def Covers (cap : Nat) (rows decided : List GatewayLogRow) : Prop :=
  (∀ log ∈ rows, log ∈ decided) ∨ (decided = rows.take cap ∧ cap < rows.length)

/-- `decided` begins with all of `rows`, or is its first rows up to a cap. -/
def InOrder (cap : Nat) (rows decided : List GatewayLogRow) : Prop :=
  rows <+: decided ∨ (decided = rows.take cap ∧ cap < rows.length)

theorem InOrder.covers {cap : Nat} {rows decided : List GatewayLogRow}
    (h : InOrder cap rows decided) : Covers cap rows decided :=
  h.imp_left (fun hprefix _ hlog => hprefix.subset hlog)

theorem inOrder_of_prefix {cap : Nat} {prior rows decided : List GatewayLogRow}
    (h : rows <+: decided) : InOrder cap (prior ++ rows) (prior ++ decided) :=
  .inl ((List.prefix_append_right_inj prior).mpr h)

/-- Where the loop stops before a row: either it had passed all of `rows`, or the row is
    one of them and it stopped at the cap. -/
theorem inOrder_of_stop {cap : Nat} {prior rows newer decided rest : List GatewayLogRow}
    {log : GatewayLogRow} (hhead : decided ++ log :: rest <+: rows ++ newer)
    (hstop : log ∈ rows → cap ≤ prior.length + decided.length)
    (hle : prior.length + decided.length ≤ cap) :
    InOrder cap (prior ++ rows) (prior ++ decided) := by
  obtain ⟨tail, htail⟩ := hhead
  rw [List.append_assoc] at htail
  -- the run stopped within the rows, or took all of them
  rcases List.append_eq_append_iff.mp htail with ⟨more, hrows, hmore⟩ | ⟨more, hdecided, -⟩
  · cases more with
    | nil =>
      rw [List.append_nil] at hrows
      exact inOrder_of_prefix (hrows ▸ List.prefix_refl rows)
    | cons log' more =>
      rw [List.cons_append, List.cons_append, List.cons.injEq] at hmore
      obtain ⟨rfl, -⟩ := hmore
      -- it stopped at one of the rows, so at the cap
      have hcap : cap = (prior ++ decided).length := by
        have := hstop (by simp [hrows])
        simp only [List.length_append]
        omega
      refine .inr ⟨?_, ?_⟩
      · rw [hrows, ← List.append_assoc, hcap, List.take_left]
      · rw [hrows, ← List.append_assoc, List.length_append, ← hcap, List.length_cons]
        omega
  · exact inOrder_of_prefix ⟨more, hdecided.symm⟩

/-- What a page inside the window answers for: the rest of the window, then newer
    entries. -/
theorem GatewayFeed.ServedBy.page {feed : GatewayFeed} {args : ReconcileRunArgs}
    (h : feed.ServedBy args) {floor : Int} {page : Nat} (hpage : 1 ≤ page)
    (hlen : (page - 1) * args.pageSize ≤ (feed.window args floor).length) :
    (∃ detail, args.source.listSince floor page args.pageSize = .error detail) ∨
    ∃ batch newer, args.source.listSince floor page args.pageSize = .ok batch ∧
      let slice := ((feed.window args floor).drop ((page - 1) * args.pageSize) ++ newer).take
        args.pageSize
      batch.rows = readable slice ∧ batch.rows.length + batch.malformed = slice.length := by
  rcases h floor page hpage with herror | ⟨newer, -, hbatch⟩
  · exact .inl herror
  -- rows that arrive later come behind those of the window
  rw [List.filter_append] at hbatch
  change args.source.listSince floor page args.pageSize =
    .ok (pageOf (feed.window args floor ++ newer.filter (floor < ·.createdAt)) page
      args.pageSize) at hbatch
  refine .inr ⟨_, newer.filter (floor < ·.createdAt), hbatch, ?_, ?_⟩
  · rw [← List.drop_append_of_le_length hlen]
    rfl
  · rw [← List.drop_append_of_le_length hlen]
    exact pageOf_length ..

/-- A full page of the window, behind the pages before it. -/
theorem readable_take_add {window : List FeedItem} (newer : List FeedItem) {start size : Nat}
    (hinside : start + size ≤ window.length) :
    readable (window.take (start + size)) =
      readable (window.take start) ++ readable ((window.drop start ++ newer).take size) := by
  have hfull : size ≤ (window.drop start).length := by
    rw [List.length_drop]
    omega
  rw [List.take_add, readable_append, List.take_append_of_le_length hfull]

/-- A page that reaches the end of the window decides the rest of it first. -/
theorem inOrder_of_over {cap size : Nat} {prior rest : List GatewayLogRow}
    {remaining newer : List FeedItem} (hover : remaining.length ≤ size) :
    InOrder cap (prior ++ readable remaining)
      (prior ++ (readable ((remaining ++ newer).take size) ++ rest)) := by
  apply inOrder_of_prefix
  rw [List.take_append, readable_append, List.take_of_length_le hover, List.append_assoc]
  exact List.prefix_append _ _

/-- The induction is on the pages left; `prior` is what the earlier pages gave, the rows
    of that many entries of the window. -/
theorem reading_inOrder {feed : GatewayFeed} {args : ReconcileRunArgs}
    (hserved : feed.ServedBy args)
    (floor : Int) (lifetime page : Nat) (hpage : 1 ≤ page) (prior : List GatewayLogRow)
    (hcap : prior.length ≤ args.rowCap)
    (hlen : (page - 1) * args.pageSize ≤ (feed.window args floor).length)
    (hprior : prior = readable ((feed.window args floor).take ((page - 1) * args.pageSize)))
    (hend : (args.reading floor lifetime page prior.length).2 = true) :
    InOrder args.rowCap (readable (feed.window args floor))
      (prior ++ (args.reading floor lifetime page prior.length).1) := by
  induction lifetime generalizing page prior with
  | zero => simp [ReconcileRunArgs.reading] at hend
  | succ lifetime ih =>
    have hrows : readable (feed.window args floor) =
        prior ++ readable ((feed.window args floor).drop ((page - 1) * args.pageSize)) := by
      rw [hprior, ← readable_append, List.take_append_drop]
    rcases hserved.page hpage hlen with ⟨detail, herror⟩ | ⟨batch, newer, hbatch, hbatchRows, hlength⟩
    · simp [ReconcileRunArgs.reading, herror] at hend
    obtain ⟨rest, haccept, hopen, hstop, hle⟩ := args.accept_spec prior.length batch.rows
    have hle := hle hcap
    simp only [ReconcileRunArgs.reading, hbatch] at hend ⊢
    rw [hlength] at hend ⊢
    rw [hbatchRows] at haccept hopen hstop hle hend ⊢
    generalize hwindow : feed.window args floor = window at *
    generalize hremaining : window.drop ((page - 1) * args.pageSize) = remaining at *
    generalize hdecided : args.accept prior.length
      (readable ((remaining ++ newer).take args.pageSize)) = decided at *
    have hslice : readable ((remaining ++ newer).take args.pageSize) <+:
        readable remaining ++ readable newer := by
      rw [← readable_append]
      exact (List.take_prefix _ _).filterMap _
    rw [hrows]
    by_cases htruncated : decided.2 = true
    · -- the run ends inside the page
      simp only [htruncated, Bool.true_or, if_true]
      obtain ⟨log, rest', rfl, hwhy⟩ := hstop htruncated
      refine inOrder_of_stop (haccept ▸ hslice) (fun hlog => hwhy.resolve_left ?_) hle
      have hmem : log ∈ readable (feed.window args floor) := by
        rw [hwindow, hrows]
        exact List.mem_append_right _ hlog
      simp [unsettled_of_window hmem]
    rw [Bool.not_eq_true] at htruncated
    rw [hopen htruncated, List.append_nil] at haccept
    by_cases hshort : ((remaining ++ newer).take args.pageSize).length < args.pageSize
    · -- the page is short, so it holds all that is left
      simp only [htruncated, hshort, Bool.false_or, decide_true, if_true]
      rw [List.length_take, List.length_append] at hshort
      rw [← haccept, ← List.append_nil (readable ((remaining ++ newer).take args.pageSize))]
      exact inOrder_of_over (by omega)
    · simp only [htruncated, hshort, Bool.false_or, decide_false, Bool.false_eq_true,
        if_false] at hend ⊢
      have hnext : (page + 1 - 1) * args.pageSize = (page - 1) * args.pageSize + args.pageSize := by
        rw [← Nat.succ_mul]
        congr 1
        omega
      by_cases hinside : (page - 1) * args.pageSize + args.pageSize ≤ window.length
      · -- a full page of the window: the next page goes on behind it
        rw [← hrows, ← List.append_assoc]
        rw [← List.length_append] at hend ⊢
        refine ih (page + 1) (by omega) (prior ++ decided.1) (by rwa [List.length_append])
          (by rwa [hnext]) ?_ hend
        rw [hnext, readable_take_add newer hinside, ← hprior, hremaining, haccept]
      · -- the window ends inside the page
        have hover : remaining.length ≤ args.pageSize := by
          rw [← hremaining, List.length_drop]
          omega
        rw [← haccept]
        exact inOrder_of_over hover

/-- A complete reading of a run decides the window, or its first rows up to the cap. -/
theorem inOrder_of_complete {feed : GatewayFeed} {args : ReconcileRunArgs}
    (hserved : feed.ServedBy args) {floor : Int} {lifetime : Nat}
    (hend : (args.reading floor lifetime 1 0).2 = true) :
    InOrder args.rowCap (readable (feed.window args floor))
      (args.reading floor lifetime 1 0).1 :=
  reading_inOrder hserved floor lifetime 1 le_rfl [] (Nat.zero_le _) (by simp)
    (by simp [readable]) hend

/-! ## One run -/

/-- The cap of the run does not fall between two rows of its window of which the
    second is no later than the first one's millisecond. -/
def LiveRun.CleanCut (run : LiveRun) (feed : GatewayFeed) (db : Db) : Prop :=
  ∀ floor, run.floor db = some floor → ∀ last next,
    (readable (feed.window run.live floor))[run.live.rowCap - 1]? = some last →
    (readable (feed.window run.live floor))[run.live.rowCap]? = some next →
    toISOString (dateParse last.createdAt) < next.createdAt

/-- A run that finds no watermark starts from a floor with no readable row between the
    first floor and it. -/
def LiveRun.SteadyFloor (run : LiveRun) (feed : GatewayFeed) (first : Int) (db : Db) : Prop :=
  db.watermark run.live.source.gatewayId = none → ∀ floor, run.floor db = some floor →
    ∀ item ∈ feed.items, item.row.isSome → first < item.createdAt → floor < item.createdAt

/-- The readable rows of a window ascend. -/
theorem readable_window_ascending (feed : GatewayFeed) (args : ReconcileRunArgs) (floor : Int) :
    (readable (feed.window args floor)).Pairwise (fun a b => a.createdAt ≤ b.createdAt) := by
  have hitems : (feed.window args floor).Pairwise (fun a b => a.createdAt ≤ b.createdAt) :=
    (feed.ascending.filter _).filter _
  refine List.Pairwise.filterMap _ (fun a b hab x hx y hy => ?_) hitems
  rw [a.stamped x hx, b.stamped y hy]
  exact hab

theorem rowCap_pos (args : ReconcileRunArgs) : 0 < args.rowCap := by
  unfold ReconcileRunArgs.rowCap
  omega

/-- A settled row of the window that is not after the watermark the run leaves was
    decided by the run. -/
theorem LiveRun.covers {run : LiveRun} {feed : GatewayFeed} {db : Db} {floor : Int}
    (hfloor : run.floor db = some floor) (hserved : feed.ServedBy run.live)
    (hend : (run.live.reading floor run.lifetime 1 0).2 = true) (hclean : run.CleanCut feed db)
    {log : GatewayLogRow} (hlog : log ∈ readable (feed.window run.live floor))
    (hbehind : log.createdAt ≤ toISOString
      (watermarkCandidate ((run.decided db).getLast?.map (·.createdAt)) run.live.nowMs)) :
    log ∈ run.decided db := by
  have hdecided : run.decided db = (run.live.reading floor run.lifetime 1 0).1 := by
    simp only [decided, hfloor]
  have hcovers := (inOrder_of_complete hserved hend).covers
  rw [← hdecided] at hcovers
  rcases hcovers with hall | ⟨htake, hmore⟩
  · exact hall log hlog
  by_contra hnot
  -- the row is at or after the first row behind the cap
  have hsorted := readable_window_ascending feed run.live floor
  have hpos := rowCap_pos run.live
  have hgap := hclean floor hfloor
  generalize readable (feed.window run.live floor) = rows at *
  have hsplit : rows = run.decided db ++ rows.drop run.live.rowCap := by
    rw [htake, List.take_append_drop]
  -- the last row decided is the one at the cap, and `CleanCut` parts it from the next
  have hlast : (run.decided db).getLast? = some rows[run.live.rowCap - 1] := by
    rw [htake, List.getLast?_take]
    simp only [hpos.ne', if_false]
    rw [List.getElem?_eq_getElem (by omega)]
    rfl
  have hgap := hgap rows[run.live.rowCap - 1] rows[run.live.rowCap]
    (List.getElem?_eq_getElem (by omega)) (List.getElem?_eq_getElem hmore)
  have hafter : rows[run.live.rowCap].createdAt ≤ log.createdAt := by
    have hdrop := List.drop_eq_getElem_cons hmore
    have hmem : log ∈ rows.drop run.live.rowCap := by
      rw [hsplit] at hlog
      exact (List.mem_append.mp hlog).resolve_left hnot
    have htail : (rows.drop run.live.rowCap).Pairwise (fun a b => a.createdAt ≤ b.createdAt) :=
      hsorted.drop
    rw [hdrop] at hmem htail
    rcases List.mem_cons.mp hmem with rfl | hmem
    · exact le_refl _
    · exact (List.pairwise_cons.mp htail).1 log hmem
  have hcandidate : toISOString (watermarkCandidate
      ((run.decided db).getLast?.map (·.createdAt)) run.live.nowMs) ≤
      toISOString (dateParse rows[run.live.rowCap - 1].createdAt) := by
    rw [hlast]
    simp only [Option.map_some, watermarkCandidate, toISOString, nsPerMs]
    omega
  omega

/-! ## Any sequence of runs -/

/-- A readable row that was created after the first floor and is not after the stored
    watermark has been decided. -/
def CoveredBy (feed : GatewayFeed) (gatewayId : String) (first : Int)
    (decided : List GatewayLogRow) (db : Db) : Prop :=
  ∀ item ∈ feed.items, ∀ log, item.row = some log → first < item.createdAt →
    ∀ w, db.watermark gatewayId = some w → item.createdAt ≤ w → log ∈ decided

/-- The run completes against the gateway, and its source serves the feed. -/
structure LiveRun.Reads (run : LiveRun) (feed : GatewayFeed) (gatewayId : String) (db : Db) :
    Prop where
  gateway : run.live.source.gatewayId = gatewayId
  completes : run.Completes db
  served : feed.ServedBy run.live

/-- What a completed run adds to the rows that are behind the watermark, it decided. -/
theorem CoveredBy.liveRun {feed : GatewayFeed} {gatewayId : String} {first : Int}
    {prior : List GatewayLogRow} {db : Db} {run : LiveRun}
    (h : CoveredBy feed gatewayId first prior db) (hreads : run.Reads feed gatewayId db)
    (hsteady : run.SteadyFloor feed first db) (hclean : run.CleanCut feed db) :
    CoveredBy feed gatewayId first (prior ++ run.decided db) (db.liveRun run) := by
  intro item hitem log hrow hfirst w hw hle
  obtain ⟨floor, hfloor, hend, hwatermark⟩ := LiveRun.watermark_of_completes hreads.completes
  rw [hreads.gateway] at hwatermark
  change (db.liveRun run).watermark gatewayId = coalesce _ (db.watermark gatewayId) at hwatermark
  rw [hwatermark, nextWatermark_eq] at hw
  split at hw
  · -- the watermark stays where it was
    exact List.mem_append_left _ (h item hitem log hrow hfirst w hw hle)
  next hadvance =>
    obtain rfl := Option.some.inj hw
    -- behind the old watermark an earlier run decided the row, ahead of it this one did
    by_cases hold : ∃ old, db.watermark gatewayId = some old ∧ item.createdAt ≤ old
    · obtain ⟨old, hstored, hbehind⟩ := hold
      exact List.mem_append_left _ (h item hitem log hrow hfirst old hstored hbehind)
    · have hafter : floor < item.createdAt := by
        cases hstored : db.watermark gatewayId with
        | none =>
          exact hsteady (hreads.gateway ▸ hstored) floor hfloor item hitem (by simp [hrow]) hfirst
        | some old =>
          have hsame : run.floor db = some old := by
            have hread : (db.reconcileState run.live.source.gatewayId).bind (·.watermark) =
                some old := hreads.gateway ▸ hstored
            simp only [LiveRun.floor, ReconcileRunArgs.floor, hread, Option.some_or]
          obtain rfl := Option.some.inj (hfloor.symm.trans hsame)
          exact not_le.mp (fun hbehind => hold ⟨_, hstored, hbehind⟩)
      have hsettled : item.createdAt ≤ toISOString (run.live.nowMs - settleMs) := by
        refine hle.trans ?_
        unfold watermarkCandidate toISOString nsPerMs
        split <;> omega
      refine List.mem_append_right _ (LiveRun.covers hfloor hreads.served hend hclean ?_ ?_)
      · refine List.mem_filterMap.mpr ⟨item, ?_, hrow⟩
        exact List.mem_filter.mpr ⟨List.mem_filter.mpr ⟨hitem, decide_eq_true hsettled⟩,
          decide_eq_true hafter⟩
      · rw [item.stamped log hrow]
        exact hle

theorem CoveredBy.liveRuns {feed : GatewayFeed} {gatewayId : String} {first : Int}
    {prior : List GatewayLogRow} {db : Db} {runs : List LiveRun}
    (h : CoveredBy feed gatewayId first prior db)
    (hreads : EveryStep Db.liveRun (fun db run => run.Reads feed gatewayId db) db runs)
    (hcondition : EveryStep Db.liveRun
      (fun db run => run.SteadyFloor feed first db ∧ run.CleanCut feed db) db runs) :
    CoveredBy feed gatewayId first (prior ++ decidedBy db runs) (runAll Db.liveRun db runs) := by
  induction runs generalizing prior db with
  | nil => simpa [decidedBy] using h
  | cons run rest ih =>
    have hrun := h.liveRun hreads.1 hcondition.1.1 hcondition.1.2
    simpa [decidedBy, List.append_assoc] using ih hrun hreads.2 hcondition.2

/-- After any sequence of completed runs against a feed in which no cap falls inside a
    millisecond, every readable row after the first floor and not after the stored
    watermark has been decided by one of the runs. -/
theorem watermark_covers {feed : GatewayFeed} {gatewayId : String} {db₀ : Db} {run : LiveRun}
    {rest : List LiveRun} {first : Int} (hfirst : run.floor db₀ = some first)
    (hreads : EveryStep Db.liveRun (fun db run => run.Reads feed gatewayId db) db₀ (run :: rest))
    (hcondition : EveryStep Db.liveRun
      (fun db run => run.SteadyFloor feed first db ∧ run.CleanCut feed db) db₀ (run :: rest)) :
    CoveredBy feed gatewayId first (decidedBy db₀ (run :: rest))
      (runAll Db.liveRun db₀ (run :: rest)) := by
  have hstart : CoveredBy feed gatewayId first [] db₀ := by
    intro item _ log _ hafter w hw hle
    -- a stored watermark is the first floor
    have hread : (db₀.reconcileState run.live.source.gatewayId).bind (·.watermark) = some w :=
      hreads.1.gateway ▸ hw
    simp only [LiveRun.floor, ReconcileRunArgs.floor, hread, Option.some_or,
      Option.some.injEq] at hfirst
    omega
  simpa using hstart.liveRuns hreads hcondition

/-! ## A cap inside a millisecond -/

/-- A readable entry. -/
def FeedItem.of (log : GatewayLogRow) : FeedItem :=
  ⟨log.createdAt, some log, fun _ h => congrArg GatewayLogRow.createdAt (Option.some.inj h).symm⟩

/-- A page of readable entries is a page of their rows. -/
theorem pageOf_map_of (logs : List GatewayLogRow) (page perPage : Nat) :
    pageOf (logs.map .of) page perPage = ⟨(logs.drop ((page - 1) * perPage)).take perPage, 0⟩ := by
  simp only [pageOf, readable, ← List.map_drop, ← List.map_take, List.filterMap_map,
    List.filter_map, FeedItem.of, Function.comp_def, Option.isNone_some, List.filter_false,
    List.filterMap_some, List.map_nil, List.length_nil]

/-- A source of settled rows serves their feed. -/
theorem servedBy_feedOf {feed : GatewayFeed} {args : ReconcileRunArgs} {logs : List GatewayLogRow}
    (hitems : feed.items = logs.map .of) (hsource : args.source = feedOf logs)
    (hsettled : ∀ log ∈ logs, log.createdAt ≤ toISOString (args.nowMs - settleMs)) :
    feed.ServedBy args := by
  intro since page _
  refine .inr ⟨[], List.nil_sublist _, ?_⟩
  -- every row has settled, so the feed is served as it is
  have hall : feed.settled args = logs.map .of := by
    rw [GatewayFeed.settled, hitems]
    refine List.filter_eq_self.mpr (fun item hitem => ?_)
    obtain ⟨log, hlog, rfl⟩ := List.mem_map.mp hitem
    exact decide_eq_true (hsettled log hlog)
  rw [hall, hsource, List.append_nil, List.filter_map, pageOf_map_of]
  rfl

/-- Two rows of one millisecond. -/
def tiedLogs : List GatewayLogRow := [billedLog "log-1" 100, billedLog "log-2" 100]

/-- A feed that logs one after the other. -/
def tiedFeed : GatewayFeed where
  items := tiedLogs.map .of
  ascending := by simp [tiedLogs, FeedItem.of, billedLog]

/-- A live run over the feed with a row cap. -/
def cappedRun (maxRows : Int) : LiveRun where
  args := ⟨feedOf tiedLogs, 15 + settleMs, false, some 0, some maxRows, none, fun _ => ""⟩
  lifetime := 1
  cut := 10

/-- All of the feed has settled when the run starts, and its source serves it. -/
theorem cappedRun_served (maxRows : Int) : tiedFeed.ServedBy (cappedRun maxRows).live :=
  servedBy_feedOf rfl rfl (by
    simp [tiedLogs, billedLog, cappedRun, LiveRun.live, toISOString, nsPerMs])

/-- A run that is capped at one row leaves its watermark on both; the next one moves the
    watermark on without reading the second. -/
theorem watermark_tied :
    let runs := [cappedRun 1, cappedRun 1]
    EveryStep Db.liveRun (fun db run => run.Reads tiedFeed "gateway" db) Db.empty runs ∧
    (cappedRun 1).floor Db.empty = some 0 ∧
    ¬ CoveredBy tiedFeed "gateway" 0 (decidedBy Db.empty runs)
      (runAll Db.liveRun Db.empty runs) := by
  intro runs
  have hreads : ∀ db, (cappedRun 1).Completes db → (cappedRun 1).Reads tiedFeed "gateway" db :=
    fun _ hcompletes => ⟨rfl, hcompletes, cappedRun_served 1⟩
  refine ⟨⟨hreads _ (by decide +kernel), hreads _ (by decide +kernel), trivial⟩, by decide, ?_⟩
  intro hcovered
  -- the second row of the same instant would have to be decided
  have hlost : billedLog "log-2" 100 ∈ decidedBy Db.empty runs :=
    hcovered (.of (billedLog "log-2" 100)) (by simp [tiedFeed, tiedLogs]) _ rfl (by decide)
      (toISOString 15) (by decide +kernel) (by decide)
  exact absurd hlost (by decide +kernel)

/-- Without the cap both rows are decided. -/
theorem watermark_uncapped :
    CoveredBy tiedFeed "gateway" 0 tiedLogs (Db.empty.liveRun (cappedRun 2000)) := by
  have hdecided : decidedBy Db.empty [cappedRun 2000] = tiedLogs := by decide +kernel
  have hfloor : (cappedRun 2000).floor Db.empty = some 0 := by decide
  rw [← hdecided]
  refine watermark_covers hfloor ⟨⟨rfl, by decide +kernel, cappedRun_served 2000⟩, trivial⟩
    ⟨⟨?_, ?_⟩, trivial⟩
  · rintro - floor hread _ - - hafter
    obtain rfl := Option.some.inj (hfloor.symm.trans hread)
    exact hafter
  · -- the window holds two rows, so there is none behind the cap
    intro floor hread last next _ hnext
    obtain rfl := Option.some.inj (hfloor.symm.trans hread)
    have hshort : (readable (tiedFeed.window (cappedRun 2000).live 0)).length ≤
        (cappedRun 2000).live.rowCap := by decide +kernel
    rw [List.getElem?_eq_none hshort] at hnext
    cases hnext

end ControlPlane
