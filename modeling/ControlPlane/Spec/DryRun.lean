import ControlPlane.Spec.FeedReading

/-!
# Dry runs and live runs

A dry run and a live run of the same call pass through the same loop. They differ in
three counters of it, and in what the live run writes; the ledger, which both read, is
not written by either. So the two reports agree, and what a live run moves can be read off
the dry run: the adjustments it lists, less those that had a true-up before.

## Key results

- `twin_pageLoop` / `twin_runReconcile`: the two runs, side by side
- `steps_preview`: no statement of a dry run writes
- `tally_partitions`: each decision is counted once in the totals
- `moved_live`: what the true-ups of a live run move, by the decisions of the dry run
- `dry_run_contract`: both, with the totals and the skipped lookups
-/

namespace ControlPlane

open Script

/-- The dry run and the live run of the same call. -/
def ReconcileRunArgs.preview (args : ReconcileRunArgs) : ReconcileRunArgs :=
  { args with dryRun := true }

/-- The same run, with its writes. -/
def ReconcileRunArgs.live (args : ReconcileRunArgs) : ReconcileRunArgs :=
  { args with dryRun := false }

/-! ## Side by side -/

namespace LoopState

/-- The variables of the loop, without the three that count true-ups. -/
def core (st : LoopState) : LoopState := { st with applied := 0, alreadyApplied := 0, minted := 0 }

/-- The findings of one decision. -/
def noted (st : LoopState) : ReconcileOutcome → LoopState
  | .skipped reason detail => st.skip reason detail
  | _ => st

/-- A skipped row is the same decision in the core. -/
theorem core_skip (st : LoopState) (reason : SkipReason) (detail : String) :
    (st.skip reason detail).core = st.core.skip reason detail := by
  cases reason <;> rfl

/-- So is a decided one. -/
theorem core_decide (st : LoopState) (log : GatewayLogRow) (outcome : ReconcileOutcome) :
    (st.decide log outcome).core = st.core.decide log outcome := rfl

/-- A note is none of the decisions. -/
theorem core_noted (st : LoopState) (outcome : ReconcileOutcome) :
    (st.noted outcome).core = st.core.noted outcome := by
  cases outcome with
  | skipped reason detail => exact st.core_skip reason detail
  | _ => rfl

end LoopState

/-- The ledger alone decides. -/
theorem Db.outcome_congr {db db' : Db} (h : db.usageEvents = db'.usageEvents) (log : GatewayLogRow) :
    db.outcome log = db'.outcome log := by
  unfold Db.outcome Db.joined
  rw [h]

/-- An adjustment leaves the usage rows alone. -/
theorem run_applyUsageAdjustment_events (row : UsageAdjustmentRow) (db : Db) :
    ((applyUsageAdjustment row).run db).2.usageEvents = db.usageEvents := by
  cases h : db.adjustmentTaken row with
  | true => rw [run_applyUsageAdjustment_taken h]
  | false => simp [run_applyUsageAdjustment_free h]

/-- One row, of either run: its decision is noted, and the ledger stays. -/
theorem run_processRow_core (args : ReconcileRunArgs) (log : GatewayLogRow) (st : LoopState)
    (db : Db) :
    ((args.processRow log st).run db).1.core =
        (st.core.decide log (db.outcome log)).noted (db.outcome log) ∧
      ((args.processRow log st).run db).2.usageEvents = db.usageEvents := by
  obtain ⟨hdb, houtcome⟩ := ReconcileRunArgs.run_readLedger db log
  simp only [ReconcileRunArgs.processRow, bind_eq_bind, run_bind, houtcome, hdb]
  rw [← LoopState.core_decide, ← LoopState.core_noted]
  unfold ReconcileRunArgs.applyOutcome
  cases db.outcome log with
  | skipped reason detail => exact ⟨rfl, rfl⟩
  | inAgreement microUsd event => exact ⟨rfl, rfl⟩
  | adjust adjustment =>
    dsimp only
    -- a dry run only counts the write that a live one makes
    by_cases hdry : args.dryRun = true
    · rw [if_pos hdry]
      exact ⟨rfl, rfl⟩
    · rw [if_neg hdry]
      simp only [bind_eq_bind, run_bind, pure_eq_done, run_done]
      refine ⟨?_, run_applyUsageAdjustment_events _ db⟩
      rw [LoopState.count]
      split <;> rfl

section twin

variable (args : ReconcileRunArgs)

/-- Two states of the loop and two stores that the twins may be in. -/
structure Twin (st st' : LoopState) (db db' : Db) : Prop where
  core : st.core = st'.core
  events : db.usageEvents = db'.usageEvents

/-- A state beside itself, over one database. -/
theorem Twin.refl (st : LoopState) (db : Db) : Twin st st db db := ⟨rfl, rfl⟩

/-- Two runs side by side have taken the same decisions. -/
theorem Twin.decisions {st st' : LoopState} {db db' : Db} (h : Twin st st' db db') :
    st.decisions = st'.decisions :=
  show st.core.decisions = st'.core.decisions from congrArg _ h.core

/-- Leaving the loop at a row is the same for both. -/
theorem Twin.stopped {st st' : LoopState} {db db' : Db} (h : Twin st st' db db') :
    Twin { st with truncated := true } { st' with truncated := true } db db' :=
  ⟨congrArg (fun s : LoopState => { s with truncated := true }) h.core, h.events⟩

/-- So is the count of a page. -/
theorem Twin.counted {st st' : LoopState} {db db' : Db} (h : Twin st st' db db')
    (malformed : Nat) :
    Twin { st with pages := st.pages + 1, malformed := st.malformed + malformed }
      { st' with pages := st'.pages + 1, malformed := st'.malformed + malformed } db db' :=
  ⟨congrArg (fun s : LoopState =>
    { s with pages := s.pages + 1, malformed := s.malformed + malformed }) h.core, h.events⟩

/-- One row processed dry and live keeps the two side by side. -/
theorem twin_processRow (log : GatewayLogRow) {st st' : LoopState} {db db' : Db}
    (h : Twin st st' db db') :
    Twin ((args.processRow log st).run db).1 ((args.live.processRow log st').run db').1
      ((args.processRow log st).run db).2 ((args.live.processRow log st').run db').2 := by
  obtain ⟨hcore, hevents⟩ := run_processRow_core args log st db
  obtain ⟨hcore', hevents'⟩ := run_processRow_core args.live log st' db'
  refine ⟨?_, ?_⟩
  · rw [hcore, hcore', h.core, Db.outcome_congr h.events]
  · rw [hevents, hevents', h.events]

/-- And so do all the rows. -/
theorem twin_processRows (rows : List GatewayLogRow) {st st' : LoopState} {db db' : Db}
    (h : Twin st st' db db') :
    Twin ((args.processRows rows st).run db).1 ((args.live.processRows rows st').run db').1
      ((args.processRows rows st).run db).2 ((args.live.processRows rows st').run db').2 := by
  induction rows generalizing st st' db db' with
  | nil => exact h
  | cons log rest ih =>
    unfold ReconcileRunArgs.processRows
    rw [show args.unsettled log = args.live.unsettled log from rfl]
    -- the loop is left by the same test
    by_cases hunsettled : args.live.unsettled log = true
    · rw [if_pos hunsettled, if_pos hunsettled]
      exact h.stopped
    rw [if_neg hunsettled, if_neg hunsettled]
    by_cases hcap : args.live.rowCap ≤ st'.decisions.length
    · have hcap' : args.rowCap ≤ st.decisions.length := by rw [h.decisions]; exact hcap
      rw [if_pos hcap, if_pos hcap']
      exact h.stopped
    · have hcap' : ¬ args.rowCap ≤ st.decisions.length := by rw [h.decisions]; exact hcap
      rw [if_neg hcap, if_neg hcap']
      simp only [bind_eq_bind, run_bind]
      exact ih (twin_processRow args log h)

/-- The page loops end alike. -/
theorem twin_pageLoop (floor : Int) (lifetime page : Nat) {st st' : LoopState} {db db' : Db}
    (h : Twin st st' db db') :
    ((args.pageLoop floor lifetime page st).run db).1.map (·.map LoopState.core) =
        ((args.live.pageLoop floor lifetime page st').run db').1.map (·.map LoopState.core) ∧
      ((args.pageLoop floor lifetime page st).run db).2.usageEvents =
        ((args.live.pageLoop floor lifetime page st').run db').2.usageEvents := by
  induction lifetime generalizing page st st' db db' with
  | zero => exact ⟨rfl, h.events⟩
  | succ lifetime ih =>
    unfold ReconcileRunArgs.pageLoop
    rw [show args.source.listSince floor page args.pageSize =
      args.live.source.listSince floor page args.live.pageSize from rfl]
    cases hpage : args.live.source.listSince floor page args.live.pageSize with
    | error detail => exact ⟨rfl, h.events⟩
    | ok batch =>
      simp only [bind_eq_bind, run_bind]
      have hrows := twin_processRows args batch.rows (h.counted batch.malformed)
      generalize (args.processRows batch.rows _).run db = r at hrows ⊢
      generalize (args.live.processRows batch.rows _).run db' = r' at hrows ⊢
      -- the loop leaves on what both states agree about
      have htruncated : r.1.truncated = r'.1.truncated :=
        show r.1.core.truncated = r'.1.core.truncated from congrArg _ hrows.core
      rw [htruncated]
      by_cases hend : r'.1.truncated = true
      · rw [if_pos hend, if_pos hend]
        exact ⟨congrArg (fun s => some (Except.ok s)) hrows.core, hrows.events⟩
      rw [if_neg hend, if_neg hend]
      by_cases hshort : batch.rows.length + batch.malformed < args.live.pageSize
      · rw [if_pos hshort, if_pos (show _ < args.pageSize from hshort)]
        exact ⟨congrArg (fun s => some (Except.ok s)) hrows.core, hrows.events⟩
      · rw [if_neg hshort, if_neg (show ¬ _ < args.pageSize from hshort)]
        exact ih (page + 1) hrows

/-- What a run has prepared, without the counts of true-ups. -/
def ReconcileRunArgs.Prepared.core (prepared : ReconcileRunArgs.Prepared) :
    ReconcileRunArgs.Prepared :=
  { prepared with loop := prepared.loop.core }

/-- The reverse check reads the ledger and the ids seen. -/
theorem twin_reverseCheck (floor : Int) {st st' : LoopState} {db db' : Db}
    (h : Twin st st' db db') :
    ((args.reverseCheck floor st).run db).1 =
      ((args.live.reverseCheck floor st').run db').1 := by
  have hseen : st.seenRequestIds = st'.seenRequestIds :=
    show st.core.seenRequestIds = st'.core.seenRequestIds from congrArg _ h.core
  simp only [ReconcileRunArgs.reverseCheck, listUsageEventsBetween, bind_eq_bind, run_bind,
    run_read, pure_eq_done, run_done, h.events, hseen]
  rfl

/-- The dry run prepares what the live run prepares, but for the flag. -/
theorem twin_prepare (lifetime : Nat) (db : Db) :
    ((args.prepare lifetime).run db).1.map (·.map ReconcileRunArgs.Prepared.core) =
      ((args.live.prepare lifetime).run db).1.map (·.map ReconcileRunArgs.Prepared.core) := by
  simp only [ReconcileRunArgs.prepare, getReconcileState, bind_eq_bind, run_bind, run_read]
  rw [show args.floor = args.live.floor from rfl,
    show args.source = args.live.source from rfl]
  cases args.live.floor (db.reconcileState args.live.source.gatewayId) with
  | none => rfl
  | some floor =>
    simp only [run_bind]
    obtain ⟨hcore, hevents⟩ := twin_pageLoop args floor lifetime 1 (Twin.refl .start db)
    generalize (args.pageLoop floor lifetime 1 .start).run db = r at hcore hevents ⊢
    generalize (args.live.pageLoop floor lifetime 1 .start).run db = r' at hcore hevents ⊢
    obtain ⟨looped, after⟩ := r
    obtain ⟨looped', after'⟩ := r'
    -- the two loops end in the same way, or `hcore` says otherwise
    cases looped with
    | none =>
      cases looped' with
      | none => rfl
      | some result => cases hcore
    | some result =>
      cases looped' with
      | none => cases hcore
      | some result' =>
        have hresult := Option.some.inj hcore
        cases result with
        | error detail =>
          cases result' with
          | error detail' => rw [Except.error.inj hresult]; rfl
          | ok st' => cases hresult
        | ok st =>
          cases result' with
          | error detail' => cases hresult
          | ok st' =>
            have htwin : Twin st st' after after' := ⟨Except.ok.inj hresult, hevents⟩
            simp only [run_bind, pure_eq_done, run_done, Option.map_some, Except.map,
              ReconcileRunArgs.Prepared.core, twin_reverseCheck args floor htwin, htwin.core]

/-- What a dry run and a live run both report. -/
def ReconcileReport.common (report : ReconcileReport) : ReconcileReport :=
  { report with dryRun := false, watermarkAfter := none, applied := 0, alreadyApplied := 0 }

/-- The common part of a report is that of the prepared core. -/
theorem common_report (args : ReconcileRunArgs)
    (prepared : Option (Except ReconcileFailure ReconcileRunArgs.Prepared)) :
    (prepared.map (·.map args.report)).map (·.map ReconcileReport.common) =
      (prepared.map (·.map ReconcileRunArgs.Prepared.core)).map
        (·.map fun core => (args.live.report core).common) := by
  cases prepared with
  | none => rfl
  | some result => cases result <;> rfl

/-- The last write changes nothing in the answer. -/
theorem run_finish (prepared : Option (Except ReconcileFailure ReconcileRunArgs.Prepared))
    (db : Db) :
    ((args.finish prepared).run db).1 = prepared.map (·.map args.report) := by
  cases prepared with
  | none => rfl
  | some result =>
    cases result with
    | error failure => rfl
    | ok prepared =>
      simp only [ReconcileRunArgs.finish, ReconcileRunArgs.commit]
      split <;> rfl

/-- The two runs answer alike, up to what a live run has written. -/
theorem twin_runReconcile (lifetime : Nat) (db : Db) :
    ((runReconcile args lifetime).run db).1.map (·.map ReconcileReport.common) =
      ((runReconcile args.live lifetime).run db).1.map (·.map ReconcileReport.common) := by
  simp only [runReconcile, bind_eq_bind, run_bind, run_finish]
  rw [common_report, common_report, twin_prepare]
  rfl

end twin

/-! ## What the loop records -/

/-- A decision of a run that found this ledger. -/
def Db.decision (db : Db) (log : GatewayLogRow) : ReconcileDecision := ⟨log, db.outcome log⟩

/-- The loop has recorded the decisions about its rows, and the request ids they carry. -/
structure Recorded (db₀ : Db) (st : LoopState) (db : Db) : Prop where
  events : db.usageEvents = db₀.usageEvents
  decisions : st.decisions = st.logs.map db₀.decision
  seen : st.seenRequestIds = st.logs.flatMap fun log => (truthy log.requestId).toList

/-- A note decides nothing. -/
@[simp] theorem LoopState.noted_decisions (st : LoopState) (outcome : ReconcileOutcome) :
    (st.noted outcome).decisions = st.decisions := by
  cases outcome with
  | skipped reason detail => cases reason <;> rfl
  | _ => rfl

@[simp] theorem LoopState.noted_seenRequestIds (st : LoopState) (outcome : ReconcileOutcome) :
    (st.noted outcome).seenRequestIds = st.seenRequestIds := by
  cases outcome with
  | skipped reason detail => cases reason <;> rfl
  | _ => rfl

theorem Recorded.start (db : Db) : Recorded db .start db := ⟨rfl, rfl, rfl⟩

/-- The counts of a page are not part of the record. -/
theorem Recorded.counted {db₀ : Db} {st : LoopState} {db : Db} (h : Recorded db₀ st db)
    (malformed : Nat) :
    Recorded db₀ { st with pages := st.pages + 1, malformed := st.malformed + malformed } db :=
  ⟨h.events, h.decisions, h.seen⟩

theorem Recorded.processRow {db₀ : Db} (args : ReconcileRunArgs) (log : GatewayLogRow)
    {st : LoopState} {db : Db} (h : Recorded db₀ st db) :
    Recorded db₀ ((args.processRow log st).run db).1 ((args.processRow log st).run db).2 := by
  obtain ⟨hcore, hevents⟩ := run_processRow_core args log st db
  generalize (args.processRow log st).run db = r at hcore hevents ⊢
  -- the rows of the ledger are the same, so the decision is the same
  have hdecisions : r.1.decisions = st.decisions ++ [db₀.decision log] := by
    have hsame := congrArg LoopState.decisions hcore
    rw [LoopState.noted_decisions, Db.outcome_congr h.events] at hsame
    exact hsame
  have hlogs : r.1.logs = st.logs ++ [log] := by
    rw [LoopState.logs, hdecisions, List.map_append]
    rfl
  refine ⟨hevents.trans h.events, ?_, ?_⟩
  · rw [hdecisions, hlogs, h.decisions, List.map_append, List.map_singleton]
  · have hsame := congrArg LoopState.seenRequestIds hcore
    rw [LoopState.noted_seenRequestIds] at hsame
    have hseen : r.1.seenRequestIds = st.seenRequestIds ++ (truthy log.requestId).toList := hsame
    rw [hseen, hlogs, h.seen, List.flatMap_append, List.flatMap_singleton]

theorem Recorded.processRows {db₀ : Db} (args : ReconcileRunArgs) (rows : List GatewayLogRow)
    {st : LoopState} {db : Db} (h : Recorded db₀ st db) :
    Recorded db₀ ((args.processRows rows st).run db).1 ((args.processRows rows st).run db).2 := by
  induction rows generalizing st db with
  | nil => exact h
  | cons log rest ih =>
    unfold ReconcileRunArgs.processRows
    split
    · exact ⟨h.events, h.decisions, h.seen⟩
    split
    · exact ⟨h.events, h.decisions, h.seen⟩
    · simp only [bind_eq_bind, run_bind]
      exact ih (h.processRow args log)

/-- The induction is on the pages the run lives to request. -/
theorem Recorded.pageLoop {db₀ : Db} (args : ReconcileRunArgs) (floor : Int)
    (lifetime page : Nat) {st : LoopState} {db : Db} (h : Recorded db₀ st db) {st' : LoopState}
    (hend : ((args.pageLoop floor lifetime page st).run db).1 = some (.ok st')) :
    Recorded db₀ st' ((args.pageLoop floor lifetime page st).run db).2 := by
  induction lifetime generalizing page st db with
  | zero => cases hend
  | succ lifetime ih =>
    unfold ReconcileRunArgs.pageLoop at hend ⊢
    cases hpage : args.source.listSince floor page args.pageSize with
    | error detail =>
      rw [hpage] at hend
      cases hend
    | ok batch =>
      simp only [hpage, bind_eq_bind, run_bind] at hend ⊢
      have hrows := (h.counted batch.malformed).processRows args batch.rows
      generalize (args.processRows batch.rows _).run db = r at hend hrows ⊢
      by_cases htruncated : r.1.truncated = true
      · rw [if_pos htruncated] at hend ⊢
        obtain rfl := Except.ok.inj (Option.some.inj hend)
        exact hrows
      rw [if_neg htruncated] at hend ⊢
      by_cases hshort : batch.rows.length + batch.malformed < args.pageSize
      · rw [if_pos hshort] at hend ⊢
        obtain rfl := Except.ok.inj (Option.some.inj hend)
        exact hrows
      -- a full page: the next one follows
      · rw [if_neg hshort] at hend ⊢
        exact ih (page + 1) hrows hend

/-- What is let in does not depend on whether the run is live. -/
theorem accept_live (args : ReconcileRunArgs) (n : Nat) (rows : List GatewayLogRow) :
    args.live.accept n rows = args.accept n rows := by
  induction rows generalizing n with
  | nil => rfl
  | cons log rest ih =>
    unfold ReconcileRunArgs.accept
    rw [ih]
    rfl

theorem reading_live (args : ReconcileRunArgs) (floor : Int) (lifetime page n : Nat) :
    args.live.reading floor lifetime page n = args.reading floor lifetime page n := by
  induction lifetime generalizing page n with
  | zero => rfl
  | succ lifetime ih =>
    unfold ReconcileRunArgs.reading
    simp only [accept_live, ih]
    rfl

/-- The loop of a run that ends has decided the rows of its reading, live or not. -/
theorem reading_of_pageLoop {args : ReconcileRunArgs} {floor : Int} {lifetime : Nat} {db : Db}
    {st : LoopState}
    (h : ((args.pageLoop floor lifetime 1 .start).run db).1 = some (.ok st)) :
    args.reading floor lifetime 1 0 = (st.logs, true) := by
  have htwin := (twin_pageLoop args floor lifetime 1 (Twin.refl .start db)).1
  -- only the rows decided are wanted of the live loop, so its invariant is any
  let Inv := fun (_ : List GatewayLogRow) (_ : Nat) (_ : Db) => True
  have hrow : args.live.RowInvariant Inv := fun _ _ _ _ _ _ _ _ => trivial
  have hstart : Inv LoopState.start.logs 0 db := trivial
  obtain ⟨st', -, -, hlogs, hsame, hend⟩ := ReconcileRunArgs.run_pageLoop rfl hrow floor
    lifetime 1 .start hstart rfl rfl
  rw [h] at htwin
  obtain ⟨result, hlive, hresult⟩ := Option.map_eq_some_iff.mp htwin.symm
  cases result with
  | error detail => cases hresult
  | ok live =>
    obtain rfl := hsame live hlive
    have hcore : live.core = st.core := Except.ok.inj hresult
    have hsamelogs : live.core.logs = st.core.logs := congrArg LoopState.logs hcore
    change live.logs = st.logs at hsamelogs
    rw [← hsamelogs, ← reading_live]
    exact Prod.ext hlogs.symm (hend.mpr hlive)

/-- A report is that of a loop that ended, and of the reverse check after it. -/
theorem report_of_run {args : ReconcileRunArgs} {lifetime : Nat} {db : Db}
    {report : ReconcileReport}
    (h : ((runReconcile args lifetime).run db).1 = some (.ok report)) :
    ∃ floor st db', args.floor (db.reconcileState args.source.gatewayId) = some floor ∧
      (args.pageLoop floor lifetime 1 .start).run db = (some (.ok st), db') ∧
      report = args.report ⟨floor, st,
        (db.reconcileState args.source.gatewayId).bind (·.watermark),
        ((args.reverseCheck floor st).run db').1⟩ := by
  simp only [runReconcile, bind_eq_bind, run_bind, run_finish] at h
  obtain ⟨result, hresult, hreport⟩ := Option.map_eq_some_iff.mp h
  cases result with
  | error failure => cases hreport
  | ok prepared =>
    obtain rfl := Except.ok.inj hreport
    -- the loop came to its end, for the report is there
    rcases args.run_prepare lifetime db with ⟨failure, -, hprepare⟩ | ⟨floor, hfloor, -, hiff⟩
    · rw [hprepare] at hresult
      cases hresult
    · obtain ⟨st, unmatched, hst, rfl, rfl⟩ := (hiff prepared).mp hresult
      exact ⟨floor, st, _, hfloor, Prod.ext hst rfl, rfl⟩

/-! ## The totals -/

/-- The kinds of outcome that have a counter of their own. -/
inductive OutcomeKind where
  | inAgreement
  | adjust (direction : Direction)
  | skipped (reason : SkipReason)
deriving Repr, DecidableEq

/-- What was decided, without the amounts. -/
def ReconcileOutcome.kind : ReconcileOutcome → OutcomeKind
  | .inAgreement _ _ => .inAgreement
  | .adjust adjustment => .adjust adjustment.direction
  | .skipped reason _ => .skipped reason

/-- The counter of a kind. -/
def ReconcileTotals.ofKind (totals : ReconcileTotals) : OutcomeKind → Nat
  | .inAgreement => totals.inAgreement
  | .adjust .spend => totals.adjustedSpend
  | .adjust .credit => totals.adjustedCredit
  | .skipped .noRequestId => totals.skippedNoRequestId
  | .skipped .cached => totals.skippedCached
  | .skipped .unknownCost => totals.skippedUnknownCost
  | .skipped .noLedgerRow => totals.skippedNoLedgerRow
  | .skipped .accountMismatch => totals.skippedAccountMismatch

/-- The sum of the eight counters. -/
def ReconcileTotals.counted (totals : ReconcileTotals) : Nat :=
  totals.inAgreement + totals.adjustedSpend + totals.adjustedCredit + totals.skippedNoRequestId +
    totals.skippedCached + totals.skippedUnknownCost + totals.skippedNoLedgerRow +
    totals.skippedAccountMismatch

/-- The amount of one of the two directions. -/
def ReconcileTotals.amount (totals : ReconcileTotals) : Direction → Int
  | .spend => totals.spendMicroUsd
  | .credit => totals.creditMicroUsd

/-- What an outcome moves in a direction. -/
def ReconcileOutcome.amount (outcome : ReconcileOutcome) (direction : Direction) : Int :=
  match outcome with
  | .adjust adjustment => if adjustment.direction = direction then adjustment.appliedMicroUsd else 0
  | _ => 0

/-- The counters partition the decisions: each counts those of its own kind, and
    together they count each decision once. -/
structure ReconcileTotals.Partitions (totals : ReconcileTotals)
    (decisions : List ReconcileDecision) : Prop where
  each : ∀ kind, totals.ofKind kind = decisions.countP (·.outcome.kind = kind)
  rows : totals.rows = decisions.length
  all : totals.counted = totals.rows

theorem count_ofKind (totals : ReconcileTotals) (decision : ReconcileDecision)
    (kind : OutcomeKind) :
    (totals.count decision).ofKind kind =
      totals.ofKind kind + if decision.outcome.kind = kind then 1 else 0 := by
  unfold ReconcileTotals.count ReconcileOutcome.kind
  cases decision.outcome with
  | inAgreement microUsd event => rcases kind with _ | (_ | _) | (_ | _ | _ | _ | _) <;> rfl
  | adjust adjustment =>
    obtain ⟨moved, -, -, -, -, -⟩ := adjustment
    cases moved <;> rcases kind with _ | (_ | _) | (_ | _ | _ | _ | _) <;> rfl
  | skipped reason detail =>
    cases reason <;> rcases kind with _ | (_ | _) | (_ | _ | _ | _ | _) <;> rfl

/-- A decision is counted once. -/
theorem count_counted (totals : ReconcileTotals) (decision : ReconcileDecision) :
    (totals.count decision).counted = totals.counted + 1 ∧
      (totals.count decision).rows = totals.rows + 1 := by
  unfold ReconcileTotals.count ReconcileTotals.counted
  cases decision.outcome with
  | inAgreement microUsd event => exact ⟨by dsimp only; omega, rfl⟩
  | adjust adjustment =>
    obtain ⟨moved, -, -, -, -, -⟩ := adjustment
    cases moved <;> exact ⟨by dsimp only; omega, rfl⟩
  | skipped reason detail =>
    cases reason <;> exact ⟨by dsimp only [ReconcileTotals.countSkip]; omega, rfl⟩

theorem count_amount (totals : ReconcileTotals) (decision : ReconcileDecision)
    (direction : Direction) :
    (totals.count decision).amount direction =
      totals.amount direction + decision.outcome.amount direction := by
  unfold ReconcileTotals.count ReconcileOutcome.amount
  cases decision.outcome with
  | inAgreement microUsd event => cases direction <;> exact (Int.add_zero _).symm
  | adjust adjustment =>
    obtain ⟨moved, -, -, -, -, -⟩ := adjustment
    cases moved <;> cases direction <;> simp [ReconcileTotals.amount]
  | skipped reason detail =>
    cases reason <;> cases direction <;> exact (Int.add_zero _).symm

theorem tally_snoc (decisions : List ReconcileDecision) (decision : ReconcileDecision) :
    tally (decisions ++ [decision]) = (tally decisions).count decision :=
  List.foldl_concat ..

theorem tally_partitions (decisions : List ReconcileDecision) :
    (tally decisions).Partitions decisions := by
  induction decisions using List.reverseRecOn with
  | nil =>
    refine ⟨fun kind => ?_, rfl, rfl⟩
    rcases kind with _ | (_ | _) | (_ | _ | _ | _ | _) <;> rfl
  -- one decision more is one count more, in its own kind
  | append_singleton decisions decision ih =>
    obtain ⟨hcounted, hrows⟩ := count_counted (tally decisions) decision
    refine ⟨fun kind => ?_, ?_, ?_⟩
    · rw [tally_snoc, count_ofKind, ih.each, List.countP_append, List.countP_singleton]
      simp
    · rw [tally_snoc, hrows, ih.rows, List.length_append, List.length_singleton]
    · rw [tally_snoc, hcounted, hrows, ih.all]

theorem tally_amount (decisions : List ReconcileDecision) (direction : Direction) :
    (tally decisions).amount direction =
      (decisions.map (·.outcome.amount direction)).sum := by
  induction decisions using List.reverseRecOn with
  | nil => cases direction <;> rfl
  | append_singleton decisions decision ih =>
    rw [tally_snoc, count_amount, ih, List.map_append, List.sum_append, List.map_singleton,
      List.sum_singleton]

/-! ## No write -/

/-- No statement of a dry run writes. -/
theorem steps_preview (args : ReconcileRunArgs) (lifetime : Nat) :
    (runReconcile args.preview lifetime).Steps (fun db db' => db' = db) := by
  refine .bind (steps_prepare_of (R := fun db db' => db' = db) (fun _ => rfl)
    (fun hlive => Bool.noConfusion hlive) lifetime)
    (fun prepared => ?_)
  · unfold ReconcileRunArgs.finish
    split
    · exact .done _
    · exact .done _
    · exact .done _

/-! ## The money -/

/-- The true-up of a log row has its key already. -/
def Db.hasTrueUp (db : Db) (log : GatewayLogRow) : Bool :=
  db.usageAdjustments.any (·.idempotencyKey == adjustmentIdempotencyKey log.id)

/-- A true-up without the id that is minted for it. -/
def UsageAdjustmentRow.unnamed (row : UsageAdjustmentRow) : UsageAdjustmentRow :=
  { row with id := "" }

/-- The true-up that a live run writes for a decision. -/
def ReconcileDecision.trueUp (decision : ReconcileDecision) : Option UsageAdjustmentRow :=
  match decision.outcome with
  | .adjust adjustment => some (adjustmentRow "" decision.log adjustment)
  | _ => none

/-- The true-ups of the decisions whose log rows had none before. -/
def Db.newTrueUps (db : Db) (decisions : List ReconcileDecision) : List UsageAdjustmentRow :=
  (decisions.filter fun decision => !db.hasTrueUp decision.log).filterMap (·.trueUp)

section

variable (db₀ : Db) (newId : Nat → String)

/-- What the rows decided so far have moved: exactly the true-ups that are new, under
    minted ids, and their amounts. -/
structure Moved (logs : List GatewayLogRow) (minted : Nat) (db : Db)
    (landed : List UsageAdjustmentRow) : Prop where
  events : db.usageEvents = db₀.usageEvents
  accounts : ∀ a, (db.accounts a).isSome = (db₀.accounts a).isSome
  stored : db.usageAdjustments = db₀.usageAdjustments ++ landed
  new : landed.map (·.unnamed) = db₀.newTrueUps (logs.map db₀.decision)
  ids : ∀ row ∈ landed, ∃ m < minted, row.id = newId m
  spent : ∀ a, db.spent a = db₀.spent a + (landed.map (·.spentShare a)).sum
  credit : ∀ a, db.credit a = db₀.credit a + (landed.map (·.creditShare a)).sum

end

section

variable {db₀ db : Db} {newId : Nat → String} {logs : List GatewayLogRow} {log : GatewayLogRow}
  {minted minted' : Nat} {landed : List UsageAdjustmentRow}

theorem Db.newTrueUps_append (db : Db) (decisions later : List ReconcileDecision) :
    db.newTrueUps (decisions ++ later) = db.newTrueUps decisions ++ db.newTrueUps later := by
  simp only [Db.newTrueUps, List.filter_append, List.filterMap_append]

/-- A new true-up has the key of its log row. -/
theorem Db.key_of_mem_newTrueUps {decisions : List ReconcileDecision} {row : UsageAdjustmentRow}
    (h : row ∈ db.newTrueUps decisions) :
    ∃ decision ∈ decisions, row.idempotencyKey = adjustmentIdempotencyKey decision.log.id := by
  obtain ⟨decision, hdecision, hrow⟩ := List.mem_filterMap.mp h
  refine ⟨decision, List.mem_of_mem_filter hdecision, ?_⟩
  unfold ReconcileDecision.trueUp at hrow
  split at hrow
  · obtain rfl := Option.some.inj hrow
    rfl
  · cases hrow

theorem Moved.refl (db₀ : Db) (newId : Nat → String) : Moved db₀ newId [] 0 db₀ [] :=
  ⟨rfl, fun _ => rfl, by simp, rfl, by simp, by simp, by simp⟩

/-- Deciding a row that asks for no new true-up. -/
theorem Moved.step_of_none (h : Moved db₀ newId logs minted db landed) (hminted : minted ≤ minted')
    (hnone : db₀.newTrueUps [db₀.decision log] = []) :
    Moved db₀ newId (logs ++ [log]) minted' db landed := by
  refine ⟨h.events, h.accounts, h.stored, ?_, fun row hrow => ?_, h.spent, h.credit⟩
  · rw [List.map_append, Db.newTrueUps_append, List.map_singleton, hnone, List.append_nil, h.new]
  · obtain ⟨m, hm, hid⟩ := h.ids row hrow
    exact ⟨m, by omega, hid⟩

/-- Deciding a row whose true-up lands. -/
theorem Moved.step_of_landed (h : Moved db₀ newId logs minted db landed) (hminted : minted < minted')
    {row : UsageAdjustmentRow} (hid : row.id = newId minted)
    (haccount : (db₀.accounts row.accountId).isSome)
    (hnew : db₀.newTrueUps [db₀.decision log] = [row.unnamed]) :
    Moved db₀ newId (logs ++ [log]) minted' ((db.addAdjustment row).moveMoney row)
      (landed ++ [row]) := by
  have hsome : ((db.addAdjustment row).accounts row.accountId).isSome := by
    rw [Db.addAdjustment_accounts, h.accounts]
    exact haccount
  refine ⟨by simpa using h.events, fun a => by simpa using h.accounts a, ?_, ?_,
    fun x hx => ?_, fun a => ?_, fun a => ?_⟩
  · rw [Db.moveMoney_usageAdjustments, Db.addAdjustment_usageAdjustments, h.stored,
      List.append_assoc]
  · rw [List.map_append, List.map_append, Db.newTrueUps_append, List.map_singleton,
      List.map_singleton, hnew, h.new]
  · rcases List.mem_append.mp hx with hx | hx
    · obtain ⟨m, hm, hxid⟩ := h.ids x hx
      exact ⟨m, by omega, hxid⟩
    · obtain rfl := List.mem_singleton.mp hx
      exact ⟨minted, hminted, hid⟩
  -- the money moves by what the row says, on either side
  · rw [Db.spent_moveMoney _ row a hsome, Db.addAdjustment_spent, h.spent]
    simp [add_assoc]
  · rw [Db.credit_moveMoney _ row a hsome, Db.addAdjustment_credit, h.credit]
    simp [add_assoc]

/-- A true-up is refused exactly where the first state has its key. -/
theorem Moved.taken_iff (h : Moved db₀ newId logs minted db landed)
    (hinjective : Function.Injective newId)
    (hfresh : ∀ m, ∀ row ∈ db₀.usageAdjustments, row.id ≠ newId m)
    (hlog : ∀ x ∈ logs, x.id ≠ log.id) {row : UsageAdjustmentRow}
    (hid : row.id = newId minted) (hkey : row.idempotencyKey = adjustmentIdempotencyKey log.id) :
    db.adjustmentTaken row = db₀.hasTrueUp log := by
  rw [Bool.eq_iff_iff]
  constructor
  · intro htaken
    obtain ⟨stored, hstored, hconflict⟩ := List.any_eq_true.mp htaken
    simp only [Db.adjustmentConflict, Bool.or_eq_true, beq_iff_eq] at hconflict
    rw [h.stored] at hstored
    rcases List.mem_append.mp hstored with hold | hnew
    · rcases hconflict with hsame | hsame
      · exact absurd (hsame.trans hid) (hfresh minted stored hold)
      · exact List.any_eq_true.mpr ⟨stored, hold, by rw [hsame, hkey]; exact beq_self_eq_true _⟩
    · -- a row of this run has another id, and the key of another log row
      exfalso
      rcases hconflict with hsame | hsame
      · obtain ⟨m, hm, hstoredId⟩ := h.ids stored hnew
        have := hinjective (hstoredId.symm.trans (hsame.trans hid))
        omega
      · have hmem : stored.unnamed ∈ db₀.newTrueUps (logs.map db₀.decision) := by
          rw [← h.new]
          exact List.mem_map_of_mem hnew
        obtain ⟨decision, hdecision, hdecisionKey⟩ := Db.key_of_mem_newTrueUps hmem
        obtain ⟨x, hx, rfl⟩ := List.mem_map.mp hdecision
        refine hlog x hx (adjustmentIdempotencyKey_injective ?_)
        exact hdecisionKey.symm.trans (hsame.trans hkey)
  · intro htrueUp
    obtain ⟨stored, hstored, hsame⟩ := List.any_eq_true.mp htrueUp
    have hmem : stored ∈ db.usageAdjustments := by
      rw [h.stored]
      exact List.mem_append_left _ hstored
    exact db.adjustmentTaken_of_mem hmem ((eq_of_beq hsame).trans hkey.symm)

/-- Deciding one row moves its true-up, if it had none. -/
theorem Moved.step (h : Moved db₀ newId logs minted db landed)
    (howned : ∀ event ∈ db₀.usageEvents, (db₀.accounts event.accountId).isSome)
    (hinjective : Function.Injective newId)
    (hfresh : ∀ m, ∀ row ∈ db₀.usageAdjustments, row.id ≠ newId m)
    (hlog : ∀ x ∈ logs, x.id ≠ log.id) (hminted : minted ≤ minted')
    (hused : db.settleLog (newId minted) log ≠ db → minted < minted') :
    ∃ landed', Moved db₀ newId (logs ++ [log]) minted' (db.settleLog (newId minted) log)
      landed' := by
  have hsame : db.outcome log = db₀.outcome log := Db.outcome_congr h.events log
  unfold Db.settleLog at hused ⊢
  cases houtcome : db.outcome log with
  | skipped reason detail =>
    refine ⟨landed, h.step_of_none hminted ?_⟩
    simp [Db.newTrueUps, Db.decision, ReconcileDecision.trueUp, ← hsame, houtcome, List.filter_cons]
  | inAgreement microUsd event =>
    refine ⟨landed, h.step_of_none hminted ?_⟩
    simp [Db.newTrueUps, Db.decision, ReconcileDecision.trueUp, ← hsame, houtcome, List.filter_cons]
  | adjust adjustment =>
    simp only [houtcome] at hused
    obtain ⟨event, hevent, -, -, hestimate⟩ := Db.outcome_adjust houtcome
    have haccount : (db₀.accounts adjustment.event.accountId).isSome := by
      rw [hestimate]
      exact howned event (h.events ▸ hevent)
    have htaken : db.adjustmentTaken (adjustmentRow (newId minted) log adjustment) =
        db₀.hasTrueUp log := h.taken_iff hinjective hfresh hlog rfl rfl
    cases htrueUp : db₀.hasTrueUp log with
    -- adjusted earlier: the key is taken, and nothing lands
    | true =>
      dsimp only
      rw [run_applyUsageAdjustment_taken (htaken.trans htrueUp)]
      exact ⟨landed, h.step_of_none hminted (by simp [Db.newTrueUps, Db.decision, htrueUp])⟩
    -- the row lands, and is the one the dry run lists
    | false =>
      dsimp only
      rw [run_applyUsageAdjustment_free (htaken.trans htrueUp)] at hused ⊢
      refine ⟨_, h.step_of_landed (hused (Db.landed_ne _ _)) rfl haccount ?_⟩
      have hdecision : (db₀.decision log).trueUp = some (adjustmentRow "" log adjustment) := by
        simp only [ReconcileDecision.trueUp, Db.decision, ← hsame, houtcome]
      simp only [Db.newTrueUps, List.filter_cons, Db.decision, htrueUp, Bool.not_false, if_true,
        List.filter_nil, List.filterMap_cons, List.filterMap_nil]
      rw [Db.decision] at hdecision
      rw [hdecision]
      rfl

end

/-- What a true-up moves in a direction. -/
def UsageAdjustmentRow.amount (row : UsageAdjustmentRow) (direction : Direction) : Int :=
  if row.direction = direction then row.appliedMicroUsd else 0

/-- The decisions about log rows that had a true-up before. -/
def Db.adjustedEarlier (db : Db) (decisions : List ReconcileDecision) : List ReconcileDecision :=
  decisions.filter fun decision => db.hasTrueUp decision.log

/-- The new true-ups move what the decisions do, less what was adjusted earlier. -/
theorem Db.newTrueUps_amount (db : Db) (decisions : List ReconcileDecision)
    (direction : Direction) :
    ((db.newTrueUps decisions).map (·.amount direction)).sum +
        ((db.adjustedEarlier decisions).map (·.outcome.amount direction)).sum =
      (decisions.map (·.outcome.amount direction)).sum := by
  induction decisions with
  | nil => rfl
  | cons decision rest ih =>
    unfold Db.newTrueUps Db.adjustedEarlier at ih ⊢
    rw [List.map_cons, List.sum_cons, ← ih, List.filter_cons, List.filter_cons]
    cases htrueUp : db.hasTrueUp decision.log with
    -- the amount of this decision is among those adjusted earlier
    | true =>
      simp only [Bool.not_true, Bool.false_eq_true, if_false, if_true, List.map_cons,
        List.sum_cons]
      omega
    | false =>
      have hamount : (decision.trueUp.toList.map (·.amount direction)).sum =
          decision.outcome.amount direction := by
        unfold ReconcileDecision.trueUp
        cases decision.outcome with
        | adjust adjustment => exact add_zero _
        | _ => rfl
      simp only [Bool.not_false, Bool.false_eq_true, if_false, if_true]
      rw [List.filterMap_cons, ← hamount]
      cases decision.trueUp with
      | none => simp
      | some row =>
        simp only [List.map_cons, List.sum_cons, Option.toList_some, List.map_nil, List.sum_nil]
        omega

/-- What a live run leaves of the decisions that the dry run made: the true-ups landed, and
    the amounts moved by account and together. -/
structure MovedAsPreviewed (db db' : Db) (decisions : List ReconcileDecision)
    (landed : List UsageAdjustmentRow) : Prop where
  stored : db'.usageAdjustments = db.usageAdjustments ++ landed
  new : landed.map (·.unnamed) = db.newTrueUps decisions
  spent : ∀ a, db'.spent a = db.spent a + (landed.map (·.spentShare a)).sum
  credit : ∀ a, db'.credit a = db.credit a + (landed.map (·.creditShare a)).sum
  total : ∀ direction, (landed.map (·.amount direction)).sum =
    (tally decisions).amount direction -
      ((db.adjustedEarlier decisions).map (·.outcome.amount direction)).sum

theorem Moved.previewed {db₀ db : Db} {newId : Nat → String} {logs : List GatewayLogRow}
    {minted : Nat} {landed : List UsageAdjustmentRow} (h : Moved db₀ newId logs minted db landed) :
    MovedAsPreviewed db₀ db (logs.map db₀.decision) landed := by
  refine ⟨h.stored, h.new, h.spent, h.credit, fun direction => ?_⟩
  have hnew := db₀.newTrueUps_amount (logs.map db₀.decision) direction
  rw [← h.new, List.map_map] at hnew
  -- the id of a true-up is no part of its amount
  change (landed.map fun row => row.amount direction).sum + _ = _ at hnew
  rw [tally_amount]
  omega

/-- No id is on two of the rows that a run may read. -/
def ReconcileRunArgs.DistinctIds (args : ReconcileRunArgs) (lifetime : Nat) (db : Db) : Prop :=
  ∀ floor, args.floor (db.reconcileState args.source.gatewayId) = some floor →
    (((List.range' 1 lifetime).flatMap (args.pageRows floor)).map (·.id)).Nodup

/-- The ids a run mints differ from each other and from those stored. -/
def ReconcileRunArgs.MintsFresh (args : ReconcileRunArgs) (db : Db) : Prop :=
  Function.Injective args.newId ∧ ∀ m, ∀ row ∈ db.usageAdjustments, row.id ≠ args.newId m

/-- What a live run has moved when it is over. -/
theorem moved_live {args : ReconcileRunArgs} {lifetime : Nat} {db : Db} {floor : Int}
    (hfloor : args.floor (db.reconcileState args.source.gatewayId) = some floor)
    (hdistinct : args.DistinctIds lifetime db)
    (howned : ∀ event ∈ db.usageEvents, (db.accounts event.accountId).isSome)
    (hids : args.MintsFresh db) :
    ∃ minted landed, Moved db args.newId (args.reading floor lifetime 1 0).1 minted
      ((runReconcile args.live lifetime).run db).2 landed := by
  -- the invariant of the loop: what was decided so far has moved
  have hrow : args.live.RowInvariant (fun logs minted db' => (logs.map (·.id)).Nodup →
      ∃ landed, Moved db args.newId logs minted db' landed) := by
    intro logs minted db' log minted' hinv hminted hused hnodup
    rw [List.map_append, List.map_singleton, List.nodup_append] at hnodup
    obtain ⟨hlogs, -, hnew⟩ := hnodup
    obtain ⟨landed, hmoved⟩ := hinv hlogs
    refine hmoved.step howned hids.1 hids.2 (fun x hx hsame => ?_) hminted hused
    exact hnew x.id (List.mem_map_of_mem hx) log.id (List.mem_singleton.mpr rfl) hsame
  obtain ⟨minted, hinv⟩ := LiveRun.invariant_of_run ⟨args, lifetime, 0⟩ db hrow
    (fun _ => ⟨[], Moved.refl db args.newId⟩)
    (fun logs minted db' adv hinv hnodup => by
      obtain ⟨landed, h⟩ := hinv hnodup
      exact ⟨landed, h.events, h.accounts, h.stored, h.new, h.ids, h.spent, h.credit⟩)
  have hdecided : LiveRun.decided ⟨args, lifetime, 0⟩ db = (args.reading floor lifetime 1 0).1 := by
    unfold LiveRun.decided
    rw [show LiveRun.floor ⟨args, lifetime, 0⟩ db = some floor from hfloor, ← reading_live]
    rfl
  rw [hdecided] at hinv
  obtain ⟨landed, hmoved⟩ := hinv
    ((hdistinct floor hfloor).sublist ((args.reading_sublist floor lifetime 1 0).map _))
  exact ⟨minted, landed, hmoved⟩

/-! ## Both runs -/

/-- From any store, over any feed whose ids are distinct: a dry run writes nothing; it
    reports what the live run reports, up to what that has written; the live run moves the
    dry run's totals, less those of the rows that were adjusted earlier; the counters
    partition the rows; and a lookup that is skipped would not have changed the decision. -/
theorem dry_run_contract {args : ReconcileRunArgs} {db : Db} (lifetime : Nat)
    (hdistinct : args.DistinctIds lifetime db)
    (howned : ∀ event ∈ db.usageEvents, (db.accounts event.accountId).isSome)
    (hids : args.MintsFresh db) :
    (runReconcile args.preview lifetime).Steps (fun db db' => db' = db) ∧
    ((runReconcile args.preview lifetime).run db).1.map (·.map ReconcileReport.common) =
      ((runReconcile args.live lifetime).run db).1.map (·.map ReconcileReport.common) ∧
    (∀ report, ((runReconcile args.preview lifetime).run db).1 = some (.ok report) →
      let decisions := (args.reading report.windowFrom lifetime 1 0).1.map db.decision
      report.totals = tally decisions ∧ report.totals.Partitions decisions ∧
        ∃ landed, MovedAsPreviewed db ((runReconcile args.live lifetime).run db).2 decisions
          landed) ∧
    (∀ log event, needsLedgerLookup log = false →
      decideAdjustment log event = decideAdjustment log none) := by
  refine ⟨steps_preview args lifetime, twin_runReconcile args.preview lifetime db,
    fun report hreport => ?_,
    fun log event h => ReconcileRunArgs.decideAdjustment_of_no_lookup h event⟩
  obtain ⟨floor, st, db', hfloor, hloop, rfl⟩ := report_of_run hreport
  have hrecorded := Recorded.pageLoop args.preview floor lifetime 1 (Recorded.start db)
    (congrArg Prod.fst hloop)
  have hreading := reading_of_pageLoop (congrArg Prod.fst hloop)
  rw [← reading_live, show args.preview.live = args.live from rfl, reading_live] at hreading
  -- the rows of the report are those a reading of the feed gives
  have hlogs : (args.reading floor lifetime 1 0).1 = st.logs := by rw [hreading]
  obtain ⟨minted, landed, hmoved⟩ :=
    moved_live (show args.floor _ = some floor from hfloor) hdistinct howned hids
  have htotals : tally st.decisions = tally ((args.reading floor lifetime 1 0).1.map db.decision) :=
    by rw [hrecorded.decisions, ← hlogs]
  refine ⟨htotals, ?_, landed, hmoved.previewed⟩
  show (tally st.decisions).Partitions _
  rw [htotals]
  exact tally_partitions _

/-- A request billed at 140, of which 100 had been charged: the dry run reports a spend of
    40, and that is what the live run moves. -/
theorem dry_run_contract_billed :
    let args := (billedRun [billedLog "log-1" 140] "a" 0).args
    ∃ report, ((runReconcile args.preview 2).run chargedStore).1 = some (.ok report) ∧
      report.totals.spendMicroUsd = 40 ∧
      ∃ landed, MovedAsPreviewed chargedStore ((runReconcile args.live 2).run chargedStore).2
        [chargedStore.decision (billedLog "log-1" 140)] landed := by
  intro args
  have hdistinct : args.DistinctIds 2 chargedStore := by
    intro floor hfloor
    obtain rfl : 0 = floor := Option.some.inj hfloor
    decide +kernel
  have hids : args.MintsFresh chargedStore :=
    ⟨newId_billedRun_injective _ "a" 0, by simp [chargedStore, Db.withAccount, Db.empty]⟩
  obtain ⟨-, -, hmoves, -⟩ := dry_run_contract 2 hdistinct (by decide +kernel) hids
  -- the preview is computed: forty to be spent, from the beginning
  have hdry : ((runReconcile args.preview 2).run chargedStore).1.map
      (·.map fun report => (report.totals.spendMicroUsd, report.windowFrom)) =
        some (.ok (40, 0)) := by
    decide +kernel
  obtain ⟨result, hrun, hresult⟩ := Option.map_eq_some_iff.mp hdry
  cases result with
  | error failure => cases hresult
  | ok report =>
    obtain ⟨hspend, hfrom⟩ := Prod.mk.inj (Except.ok.inj hresult)
    obtain ⟨-, -, landed, hmoved⟩ := hmoves report hrun
    refine ⟨report, hrun, hspend, landed, ?_⟩
    rw [hfrom] at hmoved
    exact hmoved

end ControlPlane
