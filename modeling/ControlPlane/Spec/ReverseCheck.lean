import ControlPlane.Spec.DryRun
import ControlPlane.Spec.WatermarkCover

/-!
# The reverse check

After its loop a run reads the ledger rows of its window and reports those whose request id
no row of the loop carried. The window ends at the settled instant, and the loop at the row
cap: a gateway row past the cap was not looked at, so its ledger row is reported although
the gateway has recorded the request.

## Key results

- `mem_unmatched_iff`: what is reported, by the rows decided
- `unmatched_absent_iff`: when no row of the feed carries a reported id
-/

namespace ControlPlane

open Script

/-- The ledger rows that the reverse check reads. -/
def ReconcileRunArgs.ledgerRows (args : ReconcileRunArgs) (floor : Int) (db : Db) :
    List UsageEventKey :=
  ((listUsageEventsBetween floor (toISOString (args.nowMs - settleMs)) maxReverseCheckRows).run
    db).1

/-- A log row carries the request id, which is not empty. -/
def GatewayLogRow.carries (log : GatewayLogRow) (requestId : String) : Prop :=
  truthy log.requestId = some requestId

/-- No readable row of the feed in the window of the report carries the id of a ledger row
    that the report lists as unmatched. -/
def UnmatchedAbsent (feed : GatewayFeed) (report : ReconcileReport) : Prop :=
  ∀ row ∈ report.unmatchedLedgerRows, ∀ log ∈ readable feed.items,
    report.windowFrom < log.createdAt → log.createdAt ≤ report.windowTo →
      log.requestId ≠ some row.requestId

/-- The rows of a window are the readable ones between its ends. -/
theorem mem_readable_window_iff {feed : GatewayFeed} {args : ReconcileRunArgs} {floor : Int}
    {log : GatewayLogRow} :
    log ∈ readable (feed.window args floor) ↔ log ∈ readable feed.items ∧
      floor < log.createdAt ∧ log.createdAt ≤ toISOString (args.nowMs - settleMs) := by
  simp only [readable, List.mem_filterMap, GatewayFeed.window, GatewayFeed.settled,
    List.mem_filter, decide_eq_true_eq]
  constructor
  · rintro ⟨item, ⟨⟨hitem, hsettled⟩, hafter⟩, hrow⟩
    -- an item and the row read from it have one time stamp
    rw [← item.stamped log hrow] at hsettled hafter
    exact ⟨⟨item, hitem, hrow⟩, hafter, hsettled⟩
  · rintro ⟨⟨item, hitem, hrow⟩, hafter, hsettled⟩
    rw [item.stamped log hrow] at hsettled hafter
    exact ⟨item, ⟨⟨hitem, hsettled⟩, hafter⟩, hrow⟩

/-- A reading decides no more rows than the cap. -/
theorem reading_length_le (args : ReconcileRunArgs) (floor : Int) (lifetime page : Nat) {n : Nat}
    (hn : n ≤ args.rowCap) :
    n + (args.reading floor lifetime page n).1.length ≤ args.rowCap := by
  induction lifetime generalizing page n with
  | zero => exact hn
  | succ lifetime ih =>
    unfold ReconcileRunArgs.reading
    cases args.source.listSince floor page args.pageSize with
    | error detail => exact hn
    | ok batch =>
      -- accepting a page stops at the cap, so the count stays within it on every page
      obtain ⟨-, -, -, -, hle⟩ := args.accept_spec n batch.rows
      dsimp only
      split
      · exact hle hn
      · rw [List.length_append, ← Nat.add_assoc]
        exact ih (page + 1) (hle hn)

/-- What is reported as unmatched: the ledger rows read, less those that a decided row
    carried. -/
theorem mem_unmatched_iff {args : ReconcileRunArgs} {lifetime : Nat} {db : Db}
    {report : ReconcileReport}
    (h : ((runReconcile args lifetime).run db).1 = some (.ok report)) (row : UsageEventKey) :
    row ∈ report.unmatchedLedgerRows ↔ row ∈ args.ledgerRows report.windowFrom db ∧
      ∀ log ∈ (args.reading report.windowFrom lifetime 1 0).1, ¬log.carries row.requestId := by
  obtain ⟨floor, st, db', -, hloop, rfl⟩ := report_of_run h
  have hrecorded := Recorded.pageLoop args floor lifetime 1 (Recorded.start db)
    (congrArg Prod.fst hloop)
  have hlogs : (args.reading floor lifetime 1 0).1 = st.logs := by
    rw [reading_of_pageLoop (congrArg Prod.fst hloop)]
  -- the loop writes no usage row, so the rows read after it were there before
  have hevents : db'.usageEvents = db.usageEvents := by
    have := hrecorded.events
    rwa [hloop] at this
  have hread : args.ledgerRows floor db' = args.ledgerRows floor db := by
    simp only [ReconcileRunArgs.ledgerRows, listUsageEventsBetween, run_read, hevents]
  -- a request was seen where a row of the feed carried it
  have hseen : ∀ requestId, requestId ∈ st.seenRequestIds ↔
      ∃ log ∈ (args.reading floor lifetime 1 0).1, log.carries requestId := by
    intro requestId
    rw [hrecorded.seen, ← hlogs, List.mem_flatMap]
    simp only [Option.mem_toList, GatewayLogRow.carries]
  show row ∈ ((args.ledgerRows floor db').filter
    fun row => !st.seenRequestIds.contains row.requestId) ↔ _
  rw [hread, List.mem_filter, Bool.not_eq_true', ← Bool.not_eq_true, List.contains_iff_mem, hseen]
  simp only [not_exists, not_and]
  rfl

/-- A reported id is carried by no row of the window exactly when every ledger row read that
    some row of the window carries is carried by one of its first rows, up to the cap. -/
theorem unmatched_absent_iff {feed : GatewayFeed} {args : ReconcileRunArgs} {lifetime : Nat}
    {db : Db} {floor : Int} {report : ReconcileReport} (hserved : feed.ServedBy args)
    (hfloor : args.floor (db.reconcileState args.source.gatewayId) = some floor)
    (h : ((runReconcile args lifetime).run db).1 = some (.ok report)) :
    UnmatchedAbsent feed report ↔
      ∀ row ∈ args.ledgerRows floor db,
        (∃ log ∈ readable (feed.window args floor), log.requestId = some row.requestId) →
        ∃ log ∈ (readable (feed.window args floor)).take args.rowCap,
          log.carries row.requestId := by
  have hunmatched := mem_unmatched_iff h
  obtain ⟨rfl, hto, hend⟩ : floor = report.windowFrom ∧
      report.windowTo = toISOString (args.nowMs - settleMs) ∧
      (args.reading report.windowFrom lifetime 1 0).2 = true := by
    obtain ⟨found, st, db', hfound, hloop, rfl⟩ := report_of_run h
    refine ⟨Option.some.inj (hfloor.symm.trans hfound), rfl, ?_⟩
    show (args.reading found lifetime 1 0).2 = true
    rw [reading_of_pageLoop (congrArg Prod.fst hloop)]
  have hinOrder := inOrder_of_complete hserved hend
  have hlength := reading_length_le args report.windowFrom lifetime 1 (Nat.zero_le _)
  generalize (args.reading report.windowFrom lifetime 1 0).1 = decided at *
  generalize hwindow : readable (feed.window args report.windowFrom) = window at *
  have hmem : ∀ log, log ∈ window ↔ log ∈ readable feed.items ∧
      report.windowFrom < log.createdAt ∧ log.createdAt ≤ report.windowTo := by
    intro log
    rw [← hwindow, hto]
    exact mem_readable_window_iff
  constructor
  · intro habsent row hrow ⟨log, hlog, hcarries⟩
    -- the row is not reported, so some decided row carries its id
    have hseen : ∃ log' ∈ decided, log'.carries row.requestId := by
      by_contra hnone
      obtain ⟨hitem, hafter, hsettled⟩ := (hmem log).mp hlog
      refine habsent row ((hunmatched row).mpr ⟨hrow, ?_⟩) log hitem hafter hsettled hcarries
      exact fun log' hlog' hcarried => hnone ⟨log', hlog', hcarried⟩
    obtain ⟨log', hlog', hcarried⟩ := hseen
    rcases hinOrder with hprefix | ⟨rfl, -⟩
    · -- the whole window was decided, and the first row is in it
      have hshort : window.length ≤ args.rowCap := by
        have := hprefix.length_le
        omega
      obtain ⟨-, hnonempty⟩ := Option.filter_eq_some_iff.mp hcarried
      exact ⟨log, by rwa [List.take_of_length_le hshort],
        Option.filter_eq_some_iff.mpr ⟨hcarries, hnonempty⟩⟩
    · exact ⟨log', hlog', hcarried⟩
  · intro hcovered row hrow log hitem hafter hsettled hcarries
    obtain ⟨hread, hunseen⟩ := (hunmatched row).mp hrow
    obtain ⟨log', hlog', hcarried⟩ := hcovered row hread
      ⟨log, (hmem log).mpr ⟨hitem, hafter, hsettled⟩, hcarries⟩
    -- the first rows up to the cap were all decided
    refine hunseen log' ?_ hcarried
    rcases hinOrder with hprefix | ⟨rfl, -⟩
    · exact hprefix.subset (List.mem_of_mem_take hlog')
    · exact hlog'

/-! ## A request past the cap -/

/-- Two requests that the gateway has recorded, four seconds apart at most. -/
def recordedLogs : List GatewayLogRow :=
  [{ billedLog "log-1" 100 with createdAt := toISOString 2000 },
    { billedLog "log-2" 100 with createdAt := toISOString 4000, requestId := some "req_2" }]

/-- The gateway's log of the recorded calls. -/
def recordedFeed : GatewayFeed where
  items := recordedLogs.map .of
  ascending := by decide +kernel

/-- The ledger rows of the two requests, each written a second later. -/
def recordedStore : Db :=
  { chargedStore with
    usageEvents :=
      [{ chargedEvent with createdAt := toISOString 3000 },
        { chargedEvent with id := "evt_2", requestId := "req_2", createdAt := toISOString 5000 }] }

/-- A dry run over the two requests, with a row cap. -/
def recordedArgs (maxRows : Int) : ReconcileRunArgs :=
  ⟨feedOf recordedLogs, 10000 + settleMs, true, some 0, some maxRows, none, fun _ => ""⟩

theorem recordedArgs_served (maxRows : Int) : recordedFeed.ServedBy (recordedArgs maxRows) :=
  servedBy_feedOf rfl rfl (show ∀ log ∈ recordedLogs,
    log.createdAt ≤ toISOString (10000 + settleMs - settleMs) by decide +kernel)

/-- Capped at one row, the run reports the second request as one that the gateway did not
    record. -/
theorem unmatched_past_cap :
    recordedFeed.ServedBy (recordedArgs 1) ∧
    ∃ report, ((runReconcile (recordedArgs 1) 1).run recordedStore).1 = some (.ok report) ∧
      ¬UnmatchedAbsent recordedFeed report := by
  refine ⟨recordedArgs_served 1, ?_⟩
  -- a cap of one row leaves the second request unread
  have hrun : ((runReconcile (recordedArgs 1) 1).run recordedStore).1.map
      (·.map fun report => (report.unmatchedLedgerRows, report.windowFrom, report.windowTo)) =
        some (.ok ([⟨"evt_2", "req_2", 100, true, toISOString 5000⟩], 0, toISOString 10000)) := by
    decide +kernel
  obtain ⟨result, hresult, hreport⟩ := Option.map_eq_some_iff.mp hrun
  cases result with
  | error failure => cases hreport
  | ok report =>
    obtain ⟨hunmatched, hwindow⟩ := Prod.mk.inj (Except.ok.inj hreport)
    obtain ⟨hfrom, hto⟩ := Prod.mk.inj hwindow
    refine ⟨report, hresult, fun habsent => ?_⟩
    unfold UnmatchedAbsent at habsent
    rw [hunmatched, hfrom, hto] at habsent
    exact habsent _ (List.mem_singleton.mpr rfl)
      { billedLog "log-2" 100 with createdAt := toISOString 4000, requestId := some "req_2" }
      (by decide +kernel) (by decide) (by decide) rfl

/-- Capped at two, it decides both and reports none. -/
theorem unmatched_uncapped :
    ∃ report, ((runReconcile (recordedArgs 2) 1).run recordedStore).1 = some (.ok report) ∧
      UnmatchedAbsent recordedFeed report := by
  have hrun : ((runReconcile (recordedArgs 2) 1).run recordedStore).1.map
      (·.map (·.truncated)) = some (.ok false) := by
    decide +kernel
  obtain ⟨result, hresult, hreport⟩ := Option.map_eq_some_iff.mp hrun
  cases result with
  | error failure => cases hreport
  | ok report =>
    refine ⟨report, hresult, (unmatched_absent_iff (recordedArgs_served 2) rfl hresult).mpr ?_⟩
    unfold GatewayLogRow.carries
    decide +kernel

end ControlPlane
