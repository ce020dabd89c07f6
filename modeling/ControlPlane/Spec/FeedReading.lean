import ControlPlane.Spec.LastWrite

/-!
# Which rows a run decides

The page loop lets rows in by their age and their number alone, so what a run
decides is a function of its feed. `reading` computes it, and the rules below
carry an invariant of one row through the page loop beside it.

## Key results

- `run_processRow`: one row is one decision and at most one true-up
- `run_processRows` / `run_pageLoop`: an invariant of one row holds after the loop,
  which decided the rows of its reading
-/

namespace ControlPlane

open Script

/-- The rows decided so far, in order. -/
def LoopState.logs (st : LoopState) : List GatewayLogRow :=
  st.decisions.map (·.log)

/-- The ledger row a log row joins to by its request id. -/
def Db.joined (db : Db) (log : GatewayLogRow) : Option UsageEventRow :=
  db.usageEvents.find? (fun row => row.requestId == log.requestId.getD "")

/-- What is decided about a log row. -/
def Db.outcome (db : Db) (log : GatewayLogRow) : ReconcileOutcome :=
  decideAdjustment log ((db.joined log).map (·.ledgerEstimate))

/-- What a live run does with a log row. -/
def Db.settleLog (db : Db) (id : String) (log : GatewayLogRow) : Db :=
  match db.outcome log with
  | .adjust adjustment => ((applyUsageAdjustment (adjustmentRow id log adjustment)).run db).2
  | _ => db

/-- An adjustment corrects the ledger row its log row joins. -/
theorem Db.outcome_adjust {db : Db} {log : GatewayLogRow} {adjustment : Adjustment}
    (h : db.outcome log = .adjust adjustment) :
    ∃ row ∈ db.usageEvents, db.joined log = some row ∧ log.joins row.ledgerEstimate = true ∧
      adjustment.event = row.ledgerEstimate := by
  obtain ⟨estimate, hestimate, cost, -, hcompare⟩ := adjust_of_decideAdjustment h
  obtain ⟨row, hrow, rfl⟩ := Option.map_eq_some_iff.mp hestimate
  have hdecide : decideAdjustment log (some row.ledgerEstimate) = .adjust adjustment := by
    rw [← hestimate]; exact h
  have hrequest : (row.requestId == log.requestId.getD "") = true := by
    simpa using List.find?_some hrow
  exact ⟨row, List.mem_of_find?_eq_some hrow, hrow,
    joins_of_adjust (eq_of_beq hrequest) hdecide, (compareCost_adjust hcompare).1⟩

/-- Each log row has a key of its own. -/
theorem adjustmentIdempotencyKey_injective : Function.Injective adjustmentIdempotencyKey :=
  fun _ _ h => String.append_right_inj _ |>.mp h

namespace ReconcileRunArgs

/-- The rows of a page that the loop decides after `n` others, and whether it
    stopped before the end of the page. -/
def accept (args : ReconcileRunArgs) : Nat → List GatewayLogRow → List GatewayLogRow × Bool
  | _, [] => ([], false)
  | n, log :: rest =>
    if args.unsettled log then ([], true)
    else if args.rowCap ≤ n then ([], true)
    else
      let decided := args.accept (n + 1) rest
      (log :: decided.1, decided.2)

/-- The rows that the loop decides from a page on, after `n` others, and whether
    it comes to its end. -/
def reading (args : ReconcileRunArgs) (floor : Int) :
    Nat → Nat → Nat → List GatewayLogRow × Bool
  | 0, _, _ => ([], false)
  | lifetime + 1, page, n =>
    match args.source.listSince floor page args.pageSize with
    | .error _ => ([], false)
    | .ok batch =>
      let decided := args.accept n batch.rows
      if decided.2 || batch.rows.length + batch.malformed < args.pageSize then (decided.1, true)
      else
        let later := args.reading floor lifetime (page + 1) (n + decided.1.length)
        (decided.1 ++ later.1, later.2)

/-- The rows the loop lets in are the first of their page, up to an unsettled row or
    the cap. -/
theorem accept_spec (args : ReconcileRunArgs) (n : Nat) (rows : List GatewayLogRow) :
    ∃ rest, rows = (args.accept n rows).1 ++ rest ∧
      ((args.accept n rows).2 = false → rest = []) ∧
      ((args.accept n rows).2 = true → ∃ log rest', rest = log :: rest' ∧
        (args.unsettled log = true ∨ args.rowCap ≤ n + (args.accept n rows).1.length)) ∧
      (n ≤ args.rowCap → n + (args.accept n rows).1.length ≤ args.rowCap) := by
  induction rows generalizing n with
  | nil => exact ⟨[], rfl, fun _ => rfl, by simp [accept], id⟩
  | cons log rest ih =>
    unfold accept
    split
    -- the first row that is not settled stops the run
    next hunsettled =>
      exact ⟨log :: rest, rfl, by simp, fun _ => ⟨log, rest, rfl, .inl hunsettled⟩, id⟩
    split
    -- so does the cap
    next hcap => exact ⟨log :: rest, rfl, by simp, fun _ => ⟨log, rest, rfl, .inr hcap⟩, id⟩
    next hcap =>
      obtain ⟨rest', hrows, hopen, hstop, hle⟩ := ih (n + 1)
      refine ⟨rest', by simp [← hrows], hopen, fun h => ?_, fun _ => ?_⟩
      · obtain ⟨log', rest'', hrest, hwhy⟩ := hstop h
        refine ⟨log', rest'', hrest, hwhy.imp_right (fun hc => ?_)⟩
        simp only [List.length_cons]
        omega
      · have := hle (by omega)
        simp only [List.length_cons]
        omega

theorem accept_prefix (args : ReconcileRunArgs) (n : Nat) (rows : List GatewayLogRow) :
    (args.accept n rows).1 <+: rows := by
  obtain ⟨rest, hrows, -⟩ := args.accept_spec n rows
  exact ⟨rest, hrows.symm⟩

/-- The readable rows of a page, or none where the request ends in an error. -/
def pageRows (args : ReconcileRunArgs) (floor : Int) (page : Nat) : List GatewayLogRow :=
  match args.source.listSince floor page args.pageSize with
  | .error _ => []
  | .ok batch => batch.rows

/-- The rows decided are some of those on the pages, in their order. -/
theorem reading_sublist (args : ReconcileRunArgs) (floor : Int) (lifetime page n : Nat) :
    (args.reading floor lifetime page n).1.Sublist
      ((List.range' page lifetime).flatMap (args.pageRows floor)) := by
  induction lifetime generalizing page n with
  | zero => exact List.Sublist.refl []
  | succ lifetime ih =>
    rw [List.range'_succ, List.flatMap_cons]
    unfold reading pageRows
    cases args.source.listSince floor page args.pageSize with
    | error detail => exact List.nil_sublist _
    | ok batch =>
      have hpage := (args.accept_prefix n batch.rows).sublist
      dsimp only
      split
      · exact hpage.trans (List.sublist_append_left _ _)
      · exact hpage.append (ih (page + 1) _)

/-! ## One row -/

/-- A row that is refused before its ledger row is looked at needs no lookup. -/
theorem decideAdjustment_of_no_lookup {log : GatewayLogRow} (h : needsLedgerLookup log = false)
    (event : Option LedgerEstimate) : decideAdjustment log event = decideAdjustment log none := by
  unfold decideAdjustment
  cases hrequest : truthy log.requestId with
  | none => rfl
  | some requestId =>
    obtain ⟨hsome, -⟩ := Option.filter_eq_some_iff.mp hrequest
    cases hcached : log.cached with
    | true => rfl
    | false =>
      cases hcost : log.costMicroUsd with
      | none => rfl
      | some cost => simp [needsLedgerLookup, hsome, hcached, hcost] at h

/-- With or without its lookup, the decision is the one the ledger gives. -/
theorem run_readLedger (db : Db) (log : GatewayLogRow) :
    ((readLedger log).run db).2 = db ∧
    decideAdjustment log ((readLedger log).run db).1 = db.outcome log := by
  unfold readLedger
  split
  · exact ⟨rfl, rfl⟩
  next h =>
    rw [Bool.not_eq_true] at h
    exact ⟨rfl, (decideAdjustment_of_no_lookup h _).symm⟩

/-- Some of the bookkeeping leaves the decisions and the end of the loop alone. -/
theorem applyOutcome_result (args : ReconcileRunArgs) (log : GatewayLogRow)
    (outcome : ReconcileOutcome) (st : LoopState) (db : Db) :
    let st' := ((args.applyOutcome log outcome st).run db).1
    st'.decisions = st.decisions ∧ st'.truncated = st.truncated ∧
      st'.newestProcessed = st.newestProcessed ∧ st.minted ≤ st'.minted := by
  unfold applyOutcome
  cases outcome with
  | skipped reason detail =>
    cases reason <;> exact ⟨rfl, rfl, rfl, le_refl _⟩
  | inAgreement microUsd event => exact ⟨rfl, rfl, rfl, le_refl _⟩
  | adjust adjustment =>
    dsimp only
    split
    · exact ⟨rfl, rfl, rfl, le_refl _⟩
    · simp only [bind_eq_bind, run_bind, pure_eq_done, run_done, LoopState.count]
      split <;> exact ⟨rfl, rfl, rfl, Nat.le_succ _⟩

/-- One row of a live run: its decision is recorded, and at most one true-up is
    written, under the next minted id. -/
theorem run_processRow {args : ReconcileRunArgs} (hlive : args.dryRun = false)
    (log : GatewayLogRow) (st : LoopState) (db : Db) :
    let r := (args.processRow log st).run db
    r.1.logs = st.logs ++ [log] ∧ r.1.truncated = st.truncated ∧
      r.1.newestProcessed = some log.createdAt ∧
      r.2 = db.settleLog (args.newId st.minted) log ∧ st.minted ≤ r.1.minted ∧
      (r.2 ≠ db → st.minted < r.1.minted) := by
  obtain ⟨hdb, houtcome⟩ := run_readLedger db log
  simp only [processRow, bind_eq_bind, run_bind, houtcome, hdb]
  obtain ⟨hdecisions, htruncated, hnewest, hminted⟩ :=
    applyOutcome_result args log (db.outcome log) (st.decide log (db.outcome log)) db
  refine ⟨?_, htruncated, hnewest, ?_, hminted, ?_⟩
  · rw [LoopState.logs, hdecisions]
    simp [LoopState.logs, LoopState.decide]
  -- a live run settles the row in the ledger
  · unfold applyOutcome Db.settleLog
    cases db.outcome log <;> simp [hlive, LoopState.decide]
  · unfold applyOutcome
    cases db.outcome log with
    | skipped reason detail => exact fun h => absurd rfl h
    | inAgreement microUsd event => exact fun h => absurd rfl h
    | adjust adjustment =>
      intro _
      simp only [hlive, Bool.false_eq_true, if_false, bind_eq_bind, run_bind, pure_eq_done,
        run_done, LoopState.count, LoopState.decide]
      split <;> exact Nat.lt_succ_self _

/-! ## The loop -/

/-- The newest row processed is the last one decided. -/
def Newest (st : LoopState) : Prop :=
  st.newestProcessed = st.logs.getLast?.map (·.createdAt)

/-- An invariant of the decided rows, the number of minted ids and the database,
    which a row decided under the next minted id keeps. -/
def RowInvariant (args : ReconcileRunArgs) (Inv : List GatewayLogRow → Nat → Db → Prop) : Prop :=
  ∀ logs minted db log minted', Inv logs minted db → minted ≤ minted' →
    (db.settleLog (args.newId minted) log ≠ db → minted < minted') →
    Inv (logs ++ [log]) minted' (db.settleLog (args.newId minted) log)

variable {args : ReconcileRunArgs} {Inv : List GatewayLogRow → Nat → Db → Prop}

theorem run_processRows (hlive : args.dryRun = false) (hrow : args.RowInvariant Inv)
    (rows : List GatewayLogRow) (st : LoopState) {db : Db} (h : Inv st.logs st.minted db)
    (hopen : st.truncated = false) (hnewest : Newest st) :
    let r := (args.processRows rows st).run db
    Inv r.1.logs r.1.minted r.2 ∧ Newest r.1 ∧
      r.1.logs = st.logs ++ (args.accept st.logs.length rows).1 ∧
      r.1.truncated = (args.accept st.logs.length rows).2 := by
  induction rows generalizing st db with
  | nil => exact ⟨h, hnewest, by simp [processRows, accept], hopen⟩
  | cons log rest ih =>
    unfold processRows accept
    by_cases hunsettled : args.unsettled log = true
    · simp only [hunsettled, if_true]
      exact ⟨h, hnewest, by simp [LoopState.logs], rfl⟩
    by_cases hcap : args.rowCap ≤ st.logs.length
    · have hcap' : args.rowCap ≤ st.decisions.length := by simpa [LoopState.logs] using hcap
      simp only [hunsettled, hcap, hcap', Bool.false_eq_true, if_true, if_false]
      exact ⟨h, hnewest, by simp [LoopState.logs], rfl⟩
    -- the row is processed, and the others after it
    · have hcap' : ¬args.rowCap ≤ st.decisions.length := by simpa [LoopState.logs] using hcap
      simp only [hunsettled, hcap, hcap', Bool.false_eq_true, if_false, bind_eq_bind, run_bind]
      obtain ⟨hlogs, htruncated, hnew, hdb, hminted, hused⟩ := run_processRow hlive log st db
      have hnext := hrow _ _ _ log _ h hminted (fun hne => hused (hdb ▸ hne))
      rw [← hdb, ← hlogs] at hnext
      have := ih _ hnext (htruncated.trans hopen) (by rw [Newest, hnew, hlogs]; simp)
      simpa [hlogs, List.append_assoc] using this

/-- The induction is on the pages the run lives to request. -/
theorem run_pageLoop (hlive : args.dryRun = false) (hrow : args.RowInvariant Inv) (floor : Int)
    (lifetime page : Nat) (st : LoopState) {db : Db} (h : Inv st.logs st.minted db)
    (hopen : st.truncated = false) (hnewest : Newest st) :
    let r := (args.pageLoop floor lifetime page st).run db
    ∃ st', Inv st'.logs st'.minted r.2 ∧ Newest st' ∧
      st'.logs = st.logs ++ (args.reading floor lifetime page st.logs.length).1 ∧
      (∀ s, r.1 = some (.ok s) → s = st') ∧
      ((args.reading floor lifetime page st.logs.length).2 = true ↔ r.1 = some (.ok st')) := by
  induction lifetime generalizing page st db with
  | zero =>
    exact ⟨st, h, hnewest, by simp [reading], by simp [pageLoop], by simp [pageLoop, reading]⟩
  | succ lifetime ih =>
    unfold pageLoop reading
    cases hpage : args.source.listSince floor page args.pageSize with
    -- a page that fails ends the run before any more is decided
    | error detail =>
      exact ⟨st, h, hnewest, by simp, by simp, by simp⟩
    | ok batch =>
      simp only [bind_eq_bind, run_bind]
      -- the counters of the page are not part of the invariant
      obtain ⟨hrows, hnew, hlogs, htruncated⟩ := run_processRows hlive hrow batch.rows
        { st with pages := st.pages + 1, malformed := st.malformed + batch.malformed }
        h hopen hnewest
      generalize (args.processRows batch.rows { st with
        pages := st.pages + 1, malformed := st.malformed + batch.malformed }).run db = r at *
      have hstart : LoopState.logs { st with
          pages := st.pages + 1, malformed := st.malformed + batch.malformed } = st.logs := rfl
      rw [hstart] at hlogs htruncated
      by_cases hend : (args.accept st.logs.length batch.rows).2 = true
      · rw [hend] at htruncated
        simp only [htruncated, hend, Bool.true_or, if_true]
        exact ⟨r.1, hrows, hnew, hlogs, by simp, by simp⟩
      rw [Bool.not_eq_true] at hend
      rw [hend] at htruncated
      -- a short page is the last one
      by_cases hshort : batch.rows.length + batch.malformed < args.pageSize
      · simp only [htruncated, hend, hshort, Bool.false_eq_true, if_false, if_true, Bool.false_or,
          decide_true]
        exact ⟨r.1, hrows, hnew, hlogs, by simp, by simp⟩
      · simp only [htruncated, hend, hshort, Bool.false_eq_true, if_false, Bool.false_or,
          decide_false]
        obtain ⟨st', hinv, hnewest', hlogs', hsame, hiff⟩ := ih (page + 1) r.1 hrows htruncated hnew
        rw [hlogs, List.length_append] at hlogs' hiff
        exact ⟨st', hinv, hnewest', by rw [hlogs', List.append_assoc], hsame, hiff⟩

/-- Neither the first read nor the reverse check writes. -/
theorem run_prepare (args : ReconcileRunArgs) (lifetime : Nat) (db : Db) :
    (∃ failure, args.floor (db.reconcileState args.source.gatewayId) = none ∧
      (args.prepare lifetime).run db = (some (.error failure), db)) ∨
    ∃ floor, args.floor (db.reconcileState args.source.gatewayId) = some floor ∧
      let r := (args.pageLoop floor lifetime 1 .start).run db
      ((args.prepare lifetime).run db).2 = r.2 ∧
      ∀ prepared, ((args.prepare lifetime).run db).1 = some (.ok prepared) ↔
        ∃ st unmatched, r.1 = some (.ok st) ∧ prepared =
          ⟨floor, st, (db.reconcileState args.source.gatewayId).bind (·.watermark), unmatched⟩ ∧
          unmatched = ((args.reverseCheck floor st).run r.2).1 := by
  simp only [prepare, getReconcileState, bind_eq_bind, run_bind, run_read]
  cases hfloor : args.floor (db.reconcileState args.source.gatewayId) with
  | none => exact .inl ⟨_, rfl, rfl⟩
  | some floor =>
    refine .inr ⟨floor, rfl, ?_⟩
    simp only [run_bind]
    generalize (args.pageLoop floor lifetime 1 .start).run db = r
    obtain ⟨looped, db'⟩ := r
    -- no answer of the feed, a failure, or a loop that came to its end
    match looped with
    | none => simp
    | some (.error detail) => simp
    | some (.ok st) =>
      simp only [run_bind, pure_eq_done, run_done, Option.some.injEq, Except.ok.injEq]
      refine ⟨rfl, fun prepared => ⟨fun h => ⟨st, _, rfl, h.symm, rfl⟩, ?_⟩⟩
      rintro ⟨st', unmatched, rfl, rfl, rfl⟩
      rfl

end ReconcileRunArgs

/-! ## Live runs -/

/-- One live run, and the number of statements its store executes before it fails. -/
structure LiveRun where
  args : ReconcileRunArgs
  lifetime : Nat
  cut : Nat

namespace LiveRun

/-- The arguments, with `dryRun` off. -/
def live (run : LiveRun) : ReconcileRunArgs := { run.args with dryRun := false }

/-- The run's call. -/
def script (run : LiveRun) : Script Db (Option (Except ReconcileFailure ReconcileReport)) :=
  runReconcile run.live run.lifetime

/-- The run was not cut. -/
def Ends (run : LiveRun) (db : Db) : Prop :=
  (runFor run.cut run.script db).1.isDone = true

/-- What is left of the run is its report. -/
def reported : Script Db (Option (Except ReconcileFailure ReconcileReport)) → Bool
  | .done (some (.ok _)) => true
  | _ => false

/-- The run came to its report. -/
def Completes (run : LiveRun) (db : Db) : Prop :=
  reported (runFor run.cut run.script db).1 = true

instance (run : LiveRun) (db : Db) : Decidable (run.Ends db) :=
  inferInstanceAs (Decidable (_ = true))

instance (run : LiveRun) (db : Db) : Decidable (run.Completes db) :=
  inferInstanceAs (Decidable (_ = true))

/-- The floor the run reads. -/
def floor (run : LiveRun) (db : Db) : Option Int :=
  run.live.floor (db.reconcileState run.live.source.gatewayId)

/-- The rows the run decides from the database it finds. -/
def decided (run : LiveRun) (db : Db) : List GatewayLogRow :=
  match run.floor db with
  | none => []
  | some floor => (run.live.reading floor run.lifetime 1 0).1

end LiveRun

/-- The database after a run, complete or cut. -/
def Db.liveRun (db : Db) (run : LiveRun) : Db :=
  (runFor run.cut run.script db).2

/-- The rows a sequence of live runs decides, in order and with repetitions. -/
def decidedBy : Db → List LiveRun → List GatewayLogRow
  | _, [] => []
  | db, run :: rest => run.decided db ++ decidedBy (db.liveRun run) rest

/-- A run that was not cut is a complete run. -/
theorem LiveRun.run_of_ends {run : LiveRun} {db : Db} (h : run.Ends db) :
    db.liveRun run = (run.script.run db).2 := by
  obtain ⟨result, hresult⟩ := exists_of_isDone h
  have hrun : runFor run.cut run.script db = (.done result, db.liveRun run) :=
    Prod.ext hresult rfl
  rw [run_of_runFor_done hrun]

/-- What a row keeps, and the last write keeps, a complete run has kept for the rows it
    decided. -/
theorem LiveRun.invariant_of_run (run : LiveRun) (db : Db)
    {Inv : List GatewayLogRow → Nat → Db → Prop} (hrow : run.live.RowInvariant Inv)
    (hstart : Inv [] 0 db)
    (hadvance : ∀ logs minted db' adv, Inv logs minted db' →
      Inv logs minted (db'.advanceReconcileState adv)) :
    ∃ minted, Inv (run.decided db) minted (run.script.run db).2 := by
  simp only [script, runReconcile, bind_eq_bind, run_bind]
  -- the last write comes after whatever the preparation left
  suffices hprepared : ∃ minted, Inv (run.decided db) minted
      ((run.live.prepare run.lifetime).run db).2 by
    obtain ⟨minted, hinv⟩ := hprepared
    refine ⟨minted, ?_⟩
    unfold ReconcileRunArgs.finish
    split
    · exact hinv
    · exact hinv
    · rw [commit_of_live rfl]
      exact hadvance _ _ _ _ hinv
  unfold decided floor
  -- without a floor nothing is read, and nothing is decided
  rcases run.live.run_prepare run.lifetime db with ⟨failure, hfloor, hrun⟩ | ⟨fl, hfloor, hdb, -⟩
  · rw [hfloor, hrun]
    exact ⟨0, hstart⟩
  · rw [hfloor, hdb]
    obtain ⟨st', hinv, -, hlogs, -⟩ := ReconcileRunArgs.run_pageLoop rfl hrow fl run.lifetime 1
      .start hstart rfl rfl
    have hlogs' : st'.logs = (run.live.reading fl run.lifetime 1 0).1 := hlogs
    rw [hlogs'] at hinv
    exact ⟨st'.minted, hinv⟩

/-- So has a run that was not cut. -/
theorem LiveRun.invariant_of_ends {run : LiveRun} {db : Db} (h : run.Ends db)
    {Inv : List GatewayLogRow → Nat → Db → Prop} (hrow : run.live.RowInvariant Inv)
    (hstart : Inv [] 0 db)
    (hadvance : ∀ logs minted db' adv, Inv logs minted db' →
      Inv logs minted (db'.advanceReconcileState adv)) :
    ∃ minted, Inv (run.decided db) minted (db.liveRun run) := by
  rw [run_of_ends h]
  exact run.invariant_of_run db hrow hstart hadvance

/-- The stored watermarks before the last write are those the run found. -/
theorem Db.settleLog_reconcileState (db : Db) (id : String) (log : GatewayLogRow) :
    (db.settleLog id log).reconcileState = db.reconcileState := by
  unfold Db.settleLog
  split
  next adjustment _ =>
    cases h : db.adjustmentTaken (adjustmentRow id log adjustment) with
    | true => rw [run_applyUsageAdjustment_taken h]
    | false => simp [run_applyUsageAdjustment_free h]
  next => rfl

/-- A completed run read its feed to the end, and its last write put the watermark
    where the last row it decided allows. -/
theorem LiveRun.watermark_of_completes {run : LiveRun} {db : Db} (h : run.Completes db) :
    ∃ floor, run.floor db = some floor ∧
      (run.live.reading floor run.lifetime 1 0).2 = true ∧
      ((db.liveRun run).reconcileState run.live.source.gatewayId).bind (·.watermark) =
        coalesce (nextWatermark floor ((run.decided db).getLast?.map (·.createdAt)) run.live.nowMs)
          ((db.reconcileState run.live.source.gatewayId).bind (·.watermark)) := by
  obtain ⟨report, hreport⟩ : ∃ report,
      (runFor run.cut run.script db).1 = .done (some (.ok report)) := by
    unfold Completes reported at h
    split at h
    next report hreport => exact ⟨report, hreport⟩
    next => cases h
  have hrun : run.script.run db = (some (.ok report), db.liveRun run) :=
    run_of_runFor_done (Prod.ext hreport rfl)
  simp only [script, runReconcile, bind_eq_bind, run_bind] at hrun
  -- the rows the loop decides leave the watermark to the last write
  have hrow : run.live.RowInvariant (fun _ _ db' => db'.reconcileState = db.reconcileState) :=
    fun _ _ db' log _ hsame _ _ => (db'.settleLog_reconcileState _ log).trans hsame
  rcases run.live.run_prepare run.lifetime db with ⟨failure, -, hprepare⟩ |
    ⟨fl, hfloor, hdb, hiff⟩
  · rw [hprepare] at hrun
    simp [ReconcileRunArgs.finish] at hrun
  refine ⟨fl, hfloor, ?_⟩
  obtain ⟨st', hsame, hnewest, hlogs, hst', hcomplete⟩ := ReconcileRunArgs.run_pageLoop rfl
    hrow fl run.lifetime 1 .start rfl rfl rfl
  have hlogs' : st'.logs = (run.live.reading fl run.lifetime 1 0).1 := hlogs
  cases hprepared : ((run.live.prepare run.lifetime).run db).1 with
  | none => simp [hprepared, ReconcileRunArgs.finish] at hrun
  | some result =>
    cases result with
    | error failure => simp [hprepared, ReconcileRunArgs.finish] at hrun
    | ok prepared =>
      obtain ⟨st, unmatched, hst, rfl, -⟩ := (hiff prepared).mp hprepared
      obtain rfl := hst' st hst
      refine ⟨hcomplete.mpr hst, ?_⟩
      rw [hprepared, hdb] at hrun
      simp only [ReconcileRunArgs.finish] at hrun
      rw [commit_of_live rfl] at hrun
      simp only [run_stmt, run_done, Prod.mk.injEq] at hrun
      have hdecided : run.decided db = st.logs := by
        unfold decided
        rw [show run.floor db = some fl from hfloor, hlogs']
      -- the newest row the loop saw is the last one decided
      rw [← hrun.2, hdecided, ← hnewest]
      simp only [Db.advanceReconcileState, ReconcileRunArgs.advanceArgs,
        ReconcileRunArgs.advance, if_true, hsame]
      cases db.reconcileState run.live.source.gatewayId with
      | none => cases nextWatermark fl st.newestProcessed run.live.nowMs <;> rfl
      | some row => rfl

/-! ## A feed and a ledger row to run on -/

/-- A feed that answers with the rows after the floor, page by page. -/
def feedOf (logs : List GatewayLogRow) : GatewayLogSource where
  gatewayId := "gateway"
  listSince since page perPage :=
    .ok ⟨((logs.filter (since < ·.createdAt)).drop ((page - 1) * perPage)).take perPage, 0⟩

/-- A metered request of the account, charged 100. -/
def chargedEvent : UsageEventRow where
  id := "evt_1"
  requestId := "req_1"
  accountId := "acct"
  clientId := "client"
  modelId := "model"
  periodKey := "2026-08"
  inputTokens := some 10
  outputTokens := some 10
  microUsd := 100
  fromAllowanceMicroUsd := 0
  fromCreditMicroUsd := 100
  metered := true
  priceBasis := .measured
  unmeteredReason := none
  upstreamStatus := some 200
  gatewayLogId := none
  createdAt := 0

/-- The account with 1000 of credit and that one request. -/
def chargedStore : Db :=
  { Db.withAccount ⟨"free", "Free", 0, 0, 60, 1000, "[]"⟩
      ⟨"acct", "free", none, none, 1000, 100⟩ with
    usageEvents := [chargedEvent] }

/-- A gateway row of the request, five milliseconds after the epoch. -/
def billedLog (id : String) (cost : Int) : GatewayLogRow where
  id := id
  createdAt := toISOString 5
  model := none
  cached := false
  costMicroUsd := some cost
  requestId := some "req_1"
  accountId := some "acct"

/-- A live run over the rows, ten milliseconds after the last of them has settled. -/
def billedRun (logs : List GatewayLogRow) (mint : String) (cut : Nat) : LiveRun where
  args := ⟨feedOf logs, 15 + settleMs, false, some 0, none, none,
    fun n => mint ++ String.ofList (List.replicate n '+')⟩
  lifetime := 2
  cut := cut

/-- Its minted ids differ in their length. -/
theorem newId_billedRun_injective (logs : List GatewayLogRow) (mint : String) (cut : Nat) :
    Function.Injective (billedRun logs mint cut).args.newId := by
  intro m n h
  have hlists := congrArg String.toList (String.append_right_inj _ |>.mp h)
  rw [String.toList_ofList, String.toList_ofList] at hlists
  simpa using congrArg List.length hlists

end ControlPlane
