import ControlPlane.Model.Routes.LongrunWorkflow
import ControlPlane.Spec.NonChatRecorded
import ControlPlane.Spec.RequestRows

/-!
# What a long run leaves

A run calls the model, moves the asset, then charges and marks the job; a step that keeps
failing sends it to its catch, which only marks the job failed. So a call that upstream has
billed is recorded by the last step alone, and a charge that was written stays when the
job is marked failed after it.

## Key results

- `finalize_wp`: one attempt to charge and mark the job, cut anywhere
- `finalizeStep_spec`: the last step over all its attempts
- `longRun_agrees_iff`: when job, charge and provider agree
-/

namespace ControlPlane

open Script

/-- The provider has answered, or may have after we stopped waiting: upstream bills that. -/
def NonChatRunResult.Billed : NonChatRunResult → Prop
  | .ok body _ => providerStateFailed body = none
  | .timeout _ => True
  | _ => False

/-- The status of a job. -/
def PlaneDb.status (s : PlaneDb) (id : String) : Option AsyncJobStatus :=
  (s.asyncJobs id).map (·.status)

/-- The metered ledger rows of a request. -/
def Db.meteredRows (db : Db) (requestId : String) : List UsageEventRow :=
  db.usageEvents.filter fun row => row.requestId = requestId && row.metered

/-- What is claimed of the end of a run: a job that succeeded has one metered row, of the
    price of its units; a job that failed has none; and a call that was billed has left a
    row. -/
structure LongRunAgrees (p : PlaneLongRunParams) (answers : List NonChatRunResult)
    (s : PlaneDb) : Prop where
  succeeded : s.status p.jobId = some .succeeded →
    ∃ row, s.db.meteredRows p.requestId = [row] ∧ row.microUsd = p.unitMicroUsd * p.units
  failed : s.status p.jobId = some .failed → s.db.meteredRows p.requestId = []
  recorded : (∃ answer ∈ answers, answer.Billed) →
    ∃ row ∈ s.db.usageEvents, row.requestId = p.requestId

/-- The row of a job's charge. -/
structure PlaneLongRunParams.Charged (p : PlaneLongRunParams) (row : UsageEventRow) : Prop where
  metered : row.metered = true
  microUsd : row.microUsd = p.unitMicroUsd * p.units
  client : row.clientId = p.clientId
  request : row.requestId = p.requestId

namespace LongRunEnv

/-- The ids that the attempts of `finalize` mint. -/
def useIds (env : LongRunEnv) : List String :=
  (List.range 4).map fun n => (env.finalizeClock n).useId

/-- Where a run starts: its job is queued or running, its account is there, and the ledger
    knows neither its request nor an id it will mint. -/
structure Starts (env : LongRunEnv) (p : PlaneLongRunParams) (s : PlaneDb) : Prop where
  job : s.status p.jobId = some .queued ∨ s.status p.jobId = some .running
  account : (s.db.accounts p.accountId).isSome
  fresh : s.db.mine env.useIds p.requestId = []

end LongRunEnv

/-! ## The job row -/

/-- A job with a status has a row. -/
theorem PlaneDb.exists_job {s : PlaneDb} {id : String} (h : s.status id ≠ none) :
    ∃ row, s.asyncJobs id = some row := by
  cases hjob : s.asyncJobs id with
  | none => exact absurd (by rw [PlaneDb.status, hjob]; rfl) h
  | some row => exact ⟨row, rfl⟩

/-- An update leaves the job in the status it sets. -/
theorem PlaneDb.status_updateJob {s : PlaneDb} {id : String} {row : AsyncJobRow}
    (h : s.asyncJobs id = some row) (args : UpdateAsyncJobArgs) :
    (s.updateJob id (args.apply row)).status id = some args.status := by
  simp [PlaneDb.status, PlaneDb.updateJob, h, UpdateAsyncJobArgs.apply]

/-! ## Scripts on the money tables -/

/-- A script on the money tables is judged by the money tables. -/
theorem wp_onDb {α : Type} {crash : PlaneDb → Prop} {post : α → PlaneDb → Prop}
    (script : Script Db α) (s : PlaneDb) :
    (onDb script).wp crash post s ↔
      script.wp (fun db => crash { s with db := db }) (fun a db => post a { s with db := db })
        s.db := by
  induction script generalizing s with
  | done a => rfl
  | stmt effect next ih => simp only [onDb, wp_stmt, ih]

/-- Each of its steps is a step on the money tables. -/
theorem steps_onDb {α : Type} {R : Db → Db → Prop} {script : Script Db α}
    (h : script.Steps R) : (onDb script).Steps (fun s s' => R s.db s'.db) := by
  induction h with
  | done a => exact .done a
  | stmt heffect _ ih => exact .stmt (fun s => heffect s.db) (fun s => ih s.db)

/-- A script that leaves the rows of a request leaves a row that is there, wherever it is
    cut. -/
theorem runFor_mine {α : Type} {minted : List String} {requestId : String}
    {script : Script PlaneDb α}
    (h : script.Steps fun s s' => s'.db.mine minted requestId = s.db.mine minted requestId)
    (n : Nat) {s : PlaneDb} (hs : s.db.mine minted requestId ≠ []) :
    (runFor n script s).2.db.mine minted requestId ≠ [] := by
  have hsame := h.runFor (fun _ => rfl) (fun _ _ _ hab hbc => hbc.trans hab) n s
  rwa [hsame]

/-! ## One attempt to charge -/

section finalize

variable (env : LongRunEnv) (p : PlaneLongRunParams)

/-- What holds after any statement of an attempt to charge. -/
structure Charging (s : PlaneDb) : Prop where
  one : OneRow p.Charged (s.db.mine env.useIds p.requestId)
  account : (s.db.accounts p.accountId).isSome
  live : s.status p.jobId ≠ none ∧ s.status p.jobId ≠ some .failed
  charged : s.status p.jobId = some .succeeded → s.db.mine env.useIds p.requestId ≠ []

variable {env p} {s : PlaneDb}

/-- The row a job writes charges the job. -/
theorem charged_event (clock : FinalizeClock) (gatewayLogId : Option String)
    (periodBefore : Option PeriodRow) :
    p.Charged ((p.event clock gatewayLogId periodBefore).row clock.createdAt) := by
  have hunits : 1 ≤ p.units := le_max_left _ _
  have hprice : p.price = p.unitMicroUsd * p.units := by
    unfold PlaneLongRunParams.price
    rw [NonChatGateOk.priceUnits_of_pos hunits, Int.mul_comm]
  unfold PlaneLongRunParams.event
  split <;> exact ⟨rfl, hprice, rfl, rfl⟩

/-- The row a job writes bears the job's ids. -/
theorem event_ids (clock : FinalizeClock) (gatewayLogId : Option String)
    (periodBefore : Option PeriodRow) :
    (p.event clock gatewayLogId periodBefore).id = clock.useId ∧
      (p.event clock gatewayLogId periodBefore).requestId = p.requestId ∧
      (p.event clock gatewayLogId periodBefore).clientId = p.clientId := by
  unfold PlaneLongRunParams.event
  split <;> exact ⟨rfl, rfl, rfl⟩

/-- The money tables move as a charge lets them. -/
theorem Charging.of_rowKept (h : Charging env p s) {db : Db}
    (hkept : RowKept env.useIds p.requestId p.Charged s.db db) :
    Charging env p { s with db := db } :=
  ⟨hkept.one, (hkept.accounts p.accountId).trans h.account, h.live,
    fun hdone => hkept.stays (h.charged hdone)⟩

/-- One attempt to charge keeps the request to one row, cut or not. -/
theorem meterJob_wp {clock : FinalizeClock} (hid : clock.useId ∈ env.useIds)
    (gatewayLogId : Option String) {db : Db}
    (hone : OneRow p.Charged (db.mine env.useIds p.requestId))
    (haccount : (db.accounts p.accountId).isSome) :
    (meterJob p clock gatewayLogId).wp (RowKept env.useIds p.requestId p.Charged db)
      (fun r db' => r = .ok () ∧ RowKept env.useIds p.requestId p.Charged db db' ∧
        db'.mine env.useIds p.requestId ≠ []) db := by
  obtain ⟨account, haccount⟩ := Option.isSome_iff_exists.mp haccount
  simp only [meterJob, bind_eq_bind, wp_bind, getAccount, wp_read, haccount, getPeriod,
    pure_eq_done, wp_done]
  -- the two reads leave the rows
  refine ⟨.refl hone, .refl hone, ?_⟩
  generalize db.usagePeriods p.accountId clock.periodKey = periodBefore
  obtain ⟨hevent, hrequest, hclient⟩ := event_ids (p := p) clock gatewayLogId periodBefore
  refine wp_mono (fun _ db' h => ⟨trivial, h⟩) (recordUsage_wp (hevent ▸ hid) hrequest
    (charged_event clock gatewayLogId periodBefore) (fun row hrow => ?_) hone)
  exact ⟨hrow.client.trans hclient.symm, hrow.request⟩

/-- The status is the last write of an attempt. -/
theorem Charging.succeed (h : Charging env p s) (hcharged : s.db.mine env.useIds p.requestId ≠ [])
    (args : UpdateAsyncJobArgs) (hid : args.id = p.jobId) (hstatus : args.status = .succeeded) :
    (updateAsyncJob args).wp (Charging env p)
      (fun _ s' => Charging env p s' ∧ s'.db.mine env.useIds p.requestId ≠ [] ∧
        s'.status p.jobId = some .succeeded) s := by
  obtain ⟨row, hrow⟩ := PlaneDb.exists_job h.live.1
  have hdone : (s.updateJob p.jobId (args.apply row)).status p.jobId = some .succeeded := by
    rw [PlaneDb.status_updateJob hrow, hstatus]
  have hcharging : Charging env p (s.updateJob p.jobId (args.apply row)) :=
    ⟨h.one, h.account, by rw [hdone]; decide, fun _ => hcharged⟩
  simp only [updateAsyncJob, hid, bind_eq_bind, wp_bind, wp_read, hrow, wp_exec]
  exact ⟨h, hcharging, hcharging, hcharged, hdone⟩

/-- One attempt to charge and mark the job: cut anywhere it leaves one row at most, and at
    its end there is one and the job has succeeded. -/
theorem finalize_wp (h : Charging env p s) {clock : FinalizeClock}
    (hid : clock.useId ∈ env.useIds) (asset : LongRunAsset) (finalAsset : String × Bool) :
    (finalize p clock asset finalAsset).wp (Charging env p)
      (fun r s' => r = .ok () ∧ Charging env p s' ∧ s'.db.mine env.useIds p.requestId ≠ [] ∧
        s'.status p.jobId = some .succeeded) s := by
  simp only [finalize, bind_eq_bind, wp_bind, wp_onDb]
  refine wp_weaken (fun db hdb => h.of_rowKept hdb) (fun r db hend => ?_)
    (meterJob_wp hid asset.gatewayLogId h.one h.account)
  obtain ⟨rfl, hkept, hne⟩ := hend
  have hcharging := h.of_rowKept hkept
  simp only [wp_bind, pure_eq_done, wp_done]
  refine wp_mono (fun _ s' hdone => ⟨trivial, hdone⟩) (hcharging.succeed hne _ rfl rfl)

/-- The first two statements of an attempt read. -/
theorem runFor_finalize_reads (haccount : (s.db.accounts p.accountId).isSome) {n : Nat}
    (hn : n ≤ 2) (clock : FinalizeClock) (asset : LongRunAsset) (finalAsset : String × Bool) :
    (runFor n (finalize p clock asset finalAsset) s).2 = s := by
  obtain ⟨account, haccount⟩ := Option.isSome_iff_exists.mp haccount
  obtain rfl | rfl | rfl : n = 0 ∨ n = 1 ∨ n = 2 := by omega
  · rw [runFor_zero]
  · rfl
  · simp only [finalize, meterJob, getAccount, getPeriod, Script.read, bind_eq_bind, stmt_bind,
      done_bind, onDb, runFor_succ_stmt, haccount]
    rfl

/-- The third inserts the row. -/
theorem runFor_finalize_row (haccount : (s.db.accounts p.accountId).isSome) (n : Nat)
    {clock : FinalizeClock} (hid : clock.useId ∈ env.useIds) (asset : LongRunAsset)
    (finalAsset : String × Bool) :
    (runFor (n + 3) (finalize p clock asset finalAsset) s).2.db.mine env.useIds p.requestId ≠ [] := by
  obtain ⟨account, haccount⟩ := Option.isSome_iff_exists.mp haccount
  simp only [finalize, meterJob, getAccount, getPeriod, recordUsage, Script.read, Script.exec,
    bind_eq_bind, stmt_bind, done_bind, onDb, runFor_succ_stmt, haccount, id]
  generalize s.db.usagePeriods p.accountId clock.periodKey = periodBefore
  obtain ⟨hevent, hrequest, -⟩ := event_ids (p := p) clock asset.gatewayLogId periodBefore
  refine runFor_mine ?_ n (insertEvent_mine (hevent ▸ hid) hrequest s.db)
  -- what is left counts the row and marks the job
  let R := fun a b : Db => b.mine env.useIds p.requestId = a.mine env.useIds p.requestId
  refine Steps.bind (steps_onDb (R := R) (Steps.bind ?_ fun _ => .done _)) (fun metered => ?_)
  · split
    · exact advanceCounters_mine _
    · exact .done ()
  · split
    · exact .done _
    · refine Steps.bind ?_ (fun _ => .done _)
      unfold updateAsyncJob
      refine Steps.bind (Steps.read fun _ => rfl) (fun existing => ?_)
      split
      · exact .done ()
      · exact Steps.exec fun _ => rfl

/-! ## The last step -/

variable (env p) in
/-- What holds after `k` attempts of the last step that were all cut: there is a row
    exactly if one of them got past its insert. -/
structure Attempted (k : Nat) (s : PlaneDb) : Prop where
  charging : Charging env p s
  cut : ∀ j < k, env.finalizeCut j ≠ none
  row_iff : s.db.mine env.useIds p.requestId ≠ [] ↔
    ∃ j < k, ∃ n, 3 ≤ n ∧ env.finalizeCut j = some n

/-- An attempt that was cut leaves the next one where it may begin. -/
theorem Attempted.next {k : Nat} (h : Attempted env p k s) (hid : (env.finalizeClock k).useId ∈
    env.useIds) {n : Nat} (hcut : env.finalizeCut k = some n) (asset : LongRunAsset)
    (finalAsset : String × Bool) :
    Attempted env p (k + 1)
      (runFor n (finalize p (env.finalizeClock k) asset finalAsset) s).2 := by
  have hwp := finalize_wp h.charging hid asset finalAsset
  have hcharging := (wp_runFor n h.charging hwp).1
  refine ⟨hcharging, fun j hj => ?_, ?_⟩
  · rcases Nat.lt_succ_iff_lt_or_eq.mp hj with hj | rfl
    · exact h.cut j hj
    · rw [hcut]
      exact Option.some_ne_none n
  by_cases hn : n ≤ 2
  · -- only read: the rows are those of the attempts before
    rw [runFor_finalize_reads h.charging.account hn, h.row_iff]
    constructor
    · rintro ⟨j, hj, hpast⟩
      exact ⟨j, by omega, hpast⟩
    · rintro ⟨j, hj, m, hm, hcutj⟩
      rcases Nat.lt_succ_iff_lt_or_eq.mp hj with hj | rfl
      · exact ⟨j, hj, m, hm, hcutj⟩
      · rw [hcut] at hcutj
        obtain rfl := Option.some.inj hcutj
        omega
  · obtain ⟨m, rfl⟩ : ∃ m, n = m + 3 := ⟨n - 3, by omega⟩
    have hrow := runFor_finalize_row h.charging.account m hid asset finalAsset
    exact iff_of_true hrow ⟨k, Nat.lt_succ_self k, m + 3, by omega, hcut⟩

/-- The step charges and marks the job, or all its attempts were cut. -/
theorem finalizeStep_spec (h : Charging env p s) (hnone : s.db.mine env.useIds p.requestId = [])
    (asset : LongRunAsset) (finalAsset : String × Bool) :
    (∃ a s', env.finalizeStep p asset finalAsset s = (.ok a, s') ∧
      (∃ k ≤ 3, env.finalizeCut k = none) ∧ Charging env p s' ∧
        s'.db.mine env.useIds p.requestId ≠ [] ∧ s'.status p.jobId = some .succeeded) ∨
    ∃ message s', env.finalizeStep p asset finalAsset s = (.error message, s') ∧
      Attempted env p 4 s' := by
  refine Steps.retry_run (fun k hk s' hs' => ?_)
    ⟨h, fun j hj => absurd hj (Nat.not_lt_zero j), ?_⟩
  · rw [Nat.zero_add]
    -- every attempt mints its own id for the row
    have hid : (env.finalizeClock k).useId ∈ env.useIds :=
      List.mem_map.mpr ⟨k, List.mem_range.mpr (by omega), rfl⟩
    unfold LongRunEnv.finalizeAttempt
    cases hcut : env.finalizeCut k with
    | none =>
      obtain ⟨hresult, hdone⟩ := wp_run (finalize_wp hs'.charging hid asset finalAsset)
      exact .inl ⟨_, _, Steps.cutAttempt_done (Prod.ext hresult rfl), ⟨k, hk, hcut⟩, hdone⟩
    | some n =>
      exact .inr ⟨_, _, Steps.cutAttempt_cut _ n s', hs'.next hid hcut asset finalAsset⟩
  · exact iff_of_false (fun hne => hne hnone) (fun ⟨j, hj, _⟩ => absurd hj (Nat.not_lt_zero j))

end finalize

/-! ## The steps before it -/

namespace LongRunEnv

variable (env : LongRunEnv) (catalog : Catalog) (p : PlaneLongRunParams)

/-- What attempt `n` of `invoke-model` ends in, where nothing interrupts it. -/
def ending (n : Nat) : Steps.Outcome LongRunAsset :=
  ((env.invokeWorld n).invokeModel p catalog).ended

/-- Attempt `n` of `invoke-model` returns an asset. -/
def Returns (n : Nat) : Prop :=
  env.invokeCut n = none ∧ ∃ asset, env.ending catalog p n = .returned asset

/-- Attempt `n` of `invoke-model` is retried. -/
def Retried (n : Nat) : Prop :=
  env.invokeCut n ≠ none ∨ ∃ message, env.ending catalog p n = .threw message

/-- One of the two attempts of `invoke-model` returns. -/
def Invoked : Prop :=
  env.Returns catalog p 0 ∨ env.Retried catalog p 0 ∧ env.Returns catalog p 1

/-- An interruption of the run's catch before it writes. -/
def Unmarked : Prop := ∃ n ≤ 1, env.failCut = some n

/-- Where job, charge and provider agree: no call was billed and nothing came of it; or the
    model's asset came through to the last step, which was attempted to its end, or at
    least past its charge by a run that was then lost before it marked the job. -/
def Covers : Prop :=
  (¬env.Invoked catalog p ∧ ∀ answer ∈ env.answers catalog p, ¬answer.Billed) ∨
  (env.Invoked catalog p ∧ (∃ k ≤ 2, env.rehostCut k = false) ∧
    ((∃ k ≤ 3, env.finalizeCut k = none) ∨
      (∃ k ≤ 3, ∃ n, 3 ≤ n ∧ env.finalizeCut k = some n) ∧ env.Unmarked))

end LongRunEnv

section steps

variable {env : LongRunEnv} {catalog : Catalog} {p : PlaneLongRunParams}

/-- What is stored was answered by a call that succeeded. -/
theorem billed_of_afterCall {world : LongRunWorld} {result : NonChatRunResult}
    {asset : LongRunAsset} (h : world.afterCall p result = .returned asset) : result.Billed := by
  unfold LongRunWorld.afterCall at h
  cases result with
  | timeout waitedMs => cases h
  | unavailable detail => cases h
  | upstreamError status detail => cases h
  | ok body gatewayLogId =>
    cases hfail : providerStateFailed body with
    | some fail =>
      simp only [hfail] at h
      cases h
    | none => exact hfail

/-- An asset is returned after an answer that was billed. -/
theorem billed_of_returned {world : LongRunWorld} {asset : LongRunAsset}
    (h : (world.invokeModel p catalog).ended = .returned asset) :
    ∃ answer ∈ (world.invokeModel p catalog).called.toList, answer.Billed := by
  unfold LongRunWorld.invokeModel at h ⊢
  -- every early end throws, so the upstream has answered
  by_cases hgateway : (!world.hasGateway) = true
  · rw [if_pos hgateway] at h
    cases h
  rw [if_neg hgateway] at h ⊢
  by_cases htoken : JsString.trim world.token = ""
  · rw [if_pos htoken] at h
    cases h
  rw [if_neg htoken] at h ⊢
  cases hparams : world.invokeParams p with
  | error message =>
    simp only [hparams] at h
    cases h
  | ok params =>
    cases hentry : catalog.findModel p.modelId with
    | none =>
      simp only [hparams, hentry] at h
      cases h
    | some entry =>
      simp only [hparams, hentry] at h ⊢
      exact ⟨_, List.mem_singleton.mpr rfl, billed_of_afterCall h⟩

variable (env catalog p) in
/-- How an attempt ends: it returns an asset, is retried, or neither. -/
theorem invokeAttempt_spec (n : Nat) (answers : List NonChatRunResult) :
    (∃ asset answers', env.invokeAttempt catalog p n answers = (.returned asset, answers') ∧
      env.Returns catalog p n ∧ ∃ answer ∈ answers', answer.Billed) ∨
    (∃ message answers', env.invokeAttempt catalog p n answers = (.threw message, answers') ∧
      env.Retried catalog p n ∧ ¬env.Returns catalog p n) ∨
    (∃ message answers', env.invokeAttempt catalog p n answers = (.fatal message, answers') ∧
      ¬env.Retried catalog p n ∧ ¬env.Returns catalog p n) := by
  unfold LongRunEnv.invokeAttempt LongRunEnv.Returns LongRunEnv.Retried LongRunEnv.ending
  cases hcut : env.invokeCut n with
  -- an attempt that is cut is made again
  | some cut =>
    refine .inr (.inl ?_)
    cases cut <;> exact ⟨_, _, rfl, .inl (Option.some_ne_none _), fun h => nomatch h.1⟩
  -- otherwise it ends as its call does
  | none =>
    dsimp only
    cases hended : ((env.invokeWorld n).invokeModel p catalog).ended with
    | returned asset =>
      obtain ⟨answer, hanswer, hbilled⟩ := billed_of_returned hended
      exact .inl ⟨asset, _, rfl, ⟨rfl, asset, rfl⟩, answer, List.mem_append_right _ hanswer, hbilled⟩
    | threw message =>
      exact .inr (.inl ⟨message, _, rfl, .inr ⟨message, rfl⟩, fun h => nomatch h.2⟩)
    | fatal message =>
      refine .inr (.inr ⟨message, _, rfl, ?_, fun h => nomatch h.2⟩)
      rintro (h | h)
      · exact h rfl
      · exact nomatch h

variable (env catalog p) in
/-- The first step returns exactly where one of its attempts does. -/
theorem invokeStep_spec :
    (∃ asset, (env.invokeStep catalog p).1 = .ok asset ∧ env.Invoked catalog p ∧
      ∃ answer ∈ env.answers catalog p, answer.Billed) ∨
    ∃ message, (env.invokeStep catalog p).1 = .error message ∧ ¬env.Invoked catalog p := by
  unfold LongRunEnv.answers LongRunEnv.invokeStep LongRunEnv.Invoked
  rw [Steps.retry]
  rcases invokeAttempt_spec env catalog p 0 [] with
    ⟨asset, answers, heq, hreturns, hbilled⟩ | ⟨message, answers, heq, hretried, hnot⟩ |
    ⟨message, answers, heq, hretried, hnot⟩
  · rw [heq]
    exact .inl ⟨asset, rfl, .inl hreturns, hbilled⟩
  · -- the second attempt decides
    rw [heq]
    dsimp only
    rw [Steps.retry]
    rcases invokeAttempt_spec env catalog p 1 answers with
      ⟨asset, answers', heq', hreturns', hbilled⟩ | ⟨message', answers', heq', -, hnot'⟩ |
      ⟨message', answers', heq', -, hnot'⟩
    · rw [heq']
      exact .inl ⟨asset, rfl, .inr ⟨hretried, hreturns'⟩, hbilled⟩
    · rw [heq']
      exact .inr ⟨message', rfl, fun h => h.elim hnot fun h => hnot' h.2⟩
    · rw [heq']
      exact .inr ⟨message', rfl, fun h => h.elim hnot fun h => hnot' h.2⟩
  · rw [heq]
    exact .inr ⟨message, rfl, fun h => h.elim hnot fun h => hretried h.1⟩

variable (env p) in
/-- The second step returns exactly where one of its attempts is not interrupted. -/
theorem rehostStep_spec (asset : LongRunAsset) :
    (∃ finalAsset, env.rehostStep p asset = .ok finalAsset ∧ ∃ k ≤ 2, env.rehostCut k = false) ∨
    ∃ message, env.rehostStep p asset = .error message ∧ ∀ k ≤ 2, env.rehostCut k ≠ false := by
  -- `I`: every attempt so far was cut; `J`: one of the three was not
  let I := fun (k : Nat) (_ : Unit) => ∀ j < k, env.rehostCut j ≠ false
  let J := fun (_ : String × Bool) (_ : Unit) => ∃ k ≤ 2, env.rehostCut k = false
  have hstep : ∀ k ≤ 2, ∀ s, I k s →
      (∃ a s', env.rehostAttempt p asset (0 + k) s = (.returned a, s') ∧ J a s') ∨
      ∃ message s', env.rehostAttempt p asset (0 + k) s = (.threw message, s') ∧ I (k + 1) s' := by
    intro k hk s hs
    rw [Nat.zero_add]
    unfold LongRunEnv.rehostAttempt
    cases hcut : env.rehostCut k with
    | false => exact .inl ⟨_, _, rfl, k, hk, hcut⟩
    | true =>
      refine .inr ⟨_, _, rfl, fun j hj => ?_⟩
      rcases Nat.lt_succ_iff_lt_or_eq.mp hj with hj | rfl
      · exact hs j hj
      · rw [hcut]
        decide
  unfold LongRunEnv.rehostStep
  rcases Steps.retry_run hstep (fun j hj => absurd hj (Nat.not_lt_zero j)) with
    ⟨finalAsset, s', heq, hJ⟩ | ⟨message, s', heq, hI⟩
  · exact .inl ⟨finalAsset, by rw [heq], hJ⟩
  · exact .inr ⟨message, by rw [heq], fun k hk => hI k (by omega)⟩

end steps

/-! ## The catch -/

section catch_

variable {env : LongRunEnv} {catalog : Catalog} {p : PlaneLongRunParams} {s : PlaneDb}

/-- Marking a job failed leaves the money tables. -/
theorem failed_db (message : String) (s : PlaneDb) : (env.failed p message s).db = s.db := by
  have hsteps : (failJob p message env.failedAt).Steps (fun a b => b.db = a.db) := by
    unfold failJob updateAsyncJob
    refine Steps.bind (Steps.read fun _ => rfl) (fun existing => ?_)
    split
    · exact .done ()
    · exact Steps.exec fun _ => rfl
  have htrans : ∀ a b c : PlaneDb, b.db = a.db → c.db = b.db → c.db = a.db :=
    fun _ _ _ hab hbc => hbc.trans hab
  unfold LongRunEnv.failed
  split
  · exact hsteps.runFor (fun _ => rfl) htrans _ s
  · exact hsteps.run (fun _ => rfl) htrans s

/-- Interrupted before it writes, it leaves the status as well. -/
theorem failed_status_of_unmarked (h : env.Unmarked) (message : String) (s : PlaneDb) :
    (env.failed p message s).status p.jobId = s.status p.jobId := by
  obtain ⟨n, hn, hcut⟩ := h
  unfold LongRunEnv.failed
  rw [hcut]
  obtain rfl | rfl : n = 0 ∨ n = 1 := by omega
  · rfl
  · rfl

/-- Else the job has failed. -/
theorem failed_status_of_marked (h : ¬env.Unmarked) (hjob : s.status p.jobId ≠ none)
    (message : String) : (env.failed p message s).status p.jobId = some .failed := by
  obtain ⟨row, hrow⟩ := PlaneDb.exists_job hjob
  unfold LongRunEnv.failed
  cases hcut : env.failCut with
  | none =>
    simp only [failJob, updateAsyncJob, bind_eq_bind, run_bind, run_read, hrow, run_exec]
    rw [PlaneDb.status_updateJob hrow]
  | some n =>
    -- cut after its write, or not reached by the cut at all
    have hn : 2 ≤ n := by
      by_contra hlt
      exact h ⟨n, by omega, hcut⟩
    obtain ⟨m, rfl⟩ : ∃ m, n = m + 2 := ⟨n - 2, by omega⟩
    simp only [failJob, updateAsyncJob, Script.read, Script.exec, bind_eq_bind, stmt_bind,
      done_bind, runFor_succ_stmt, id, hrow, runFor_done]
    rw [PlaneDb.status_updateJob hrow]

/-- The status of a run that fails with its job open. -/
theorem failed_status (hjob : s.status p.jobId ≠ none) (message : String) :
    (env.failed p message s).status p.jobId = some .failed ∨
      env.Unmarked ∧ (env.failed p message s).status p.jobId = s.status p.jobId := by
  by_cases h : env.Unmarked
  · exact .inr ⟨h, failed_status_of_unmarked h message s⟩
  · exact .inl (failed_status_of_marked h hjob message)

end catch_

/-! ## The end of a run -/

section ends

variable {env : LongRunEnv} {p : PlaneLongRunParams} {answers : List NonChatRunResult}
  {s : PlaneDb}

/-- Without a row of the request the three agree where no call was billed. -/
theorem agrees_iff_of_none (hnone : s.db.mine env.useIds p.requestId = [])
    (hopen : s.status p.jobId ≠ some .succeeded) :
    LongRunAgrees p answers s ↔ ∀ answer ∈ answers, ¬answer.Billed := by
  -- no row bears the request's id
  have habsent : ∀ row ∈ s.db.usageEvents, row.requestId ≠ p.requestId := by
    intro row hrow hrequest
    have hmem : row ∈ s.db.mine env.useIds p.requestId := mem_mine.mpr ⟨hrow, .inl hrequest⟩
    rw [hnone] at hmem
    cases hmem
  constructor
  · intro h answer hanswer hbilled
    obtain ⟨row, hrow, hrequest⟩ := h.recorded ⟨answer, hanswer, hbilled⟩
    exact habsent row hrow hrequest
  · intro h
    refine ⟨fun hdone => absurd hdone hopen, fun _ => ?_, fun ⟨answer, hanswer, hbilled⟩ =>
      absurd hbilled (h answer hanswer)⟩
    refine List.filter_eq_nil_iff.mpr (fun row hrow => ?_)
    simp [habsent row hrow]

/-- The metered rows of a request that has its one row. -/
theorem meteredRows_of_charging (h : Charging env p s)
    (hne : s.db.mine env.useIds p.requestId ≠ []) :
    ∃ row, s.db.meteredRows p.requestId = [row] ∧ p.Charged row ∧ row ∈ s.db.usageEvents := by
  rcases h.one with hnone | ⟨row, hmine, hcharged⟩
  · exact absurd hnone hne
  refine ⟨row, ?_, hcharged, ?_⟩
  · have hmetered : s.db.meteredRows p.requestId =
        (s.db.mine env.useIds p.requestId).filter
          (fun row => row.requestId = p.requestId && row.metered) := by
      unfold Db.meteredRows Db.mine
      rw [List.filter_filter]
      refine List.filter_congr (fun row _ => ?_)
      cases decide (row.requestId = p.requestId) <;> simp
    rw [hmetered, hmine]
    simp [hcharged.request, hcharged.metered]
  · exact (mem_mine.mp (hmine ▸ List.mem_singleton_self row)).1

/-- With it they agree unless the job has failed. -/
theorem agrees_iff_of_charging (h : Charging env p s)
    (hne : s.db.mine env.useIds p.requestId ≠ []) {s' : PlaneDb} (hdb : s'.db = s.db) :
    LongRunAgrees p answers s' ↔ s'.status p.jobId ≠ some .failed := by
  obtain ⟨row, hmetered, hcharged, hstored⟩ := meteredRows_of_charging h hne
  constructor
  · intro hagrees hfailed
    have := hagrees.failed hfailed
    rw [hdb, hmetered] at this
    cases this
  · intro hfailed
    refine ⟨fun _ => ⟨row, ?_, hcharged.microUsd⟩, fun h => absurd h hfailed,
      fun _ => ⟨row, ?_, hcharged.request⟩⟩
    · rw [hdb, hmetered]
    · rw [hdb]
      exact hstored

end ends

/-- A run starts ready for its charge. -/
theorem LongRunEnv.Starts.charging {env : LongRunEnv} {p : PlaneLongRunParams} {s : PlaneDb}
    (h : env.Starts p s) : Charging env p s := by
  refine ⟨.inl h.fresh, h.account, ?_, fun hdone => ?_⟩
  · rcases h.job with hjob | hjob <;> rw [hjob] <;> decide
  · rcases h.job with hjob | hjob <;> rw [hjob] at hdone <;> cases hdone

/-- A run that failed before its last step has written no row. -/
theorem LongRunEnv.Starts.agrees_failed {env : LongRunEnv} {p : PlaneLongRunParams} {s : PlaneDb}
    (h : env.Starts p s) (answers : List NonChatRunResult) (message : String) :
    LongRunAgrees p answers (env.failed p message s) ↔ ∀ answer ∈ answers, ¬answer.Billed := by
  have hnone : (env.failed p message s).db.mine env.useIds p.requestId = [] := by
    rw [failed_db]
    exact h.fresh
  refine agrees_iff_of_none hnone ?_
  rcases failed_status h.charging.live.1 message with hfailed | ⟨-, hsame⟩
  · rw [hfailed]
    decide
  · rw [hsame]
    rcases h.job with hjob | hjob <;> rw [hjob] <;> decide

/-- Where every attempt of the last step was cut, one has to have got past the charge, and
    the job must not have been marked. -/
theorem Attempted.agrees_failed {env : LongRunEnv} {p : PlaneLongRunParams} {s : PlaneDb}
    (h : Attempted env p 4 s) {answers : List NonChatRunResult}
    (hnever : ¬∀ answer ∈ answers, ¬answer.Billed) (message : String) :
    LongRunAgrees p answers (env.failed p message s) ↔
      (∃ k ≤ 3, ∃ n, 3 ≤ n ∧ env.finalizeCut k = some n) ∧ env.Unmarked := by
  have hrow_iff : s.db.mine env.useIds p.requestId ≠ [] ↔
      ∃ k ≤ 3, ∃ n, 3 ≤ n ∧ env.finalizeCut k = some n := by
    simpa only [Nat.lt_succ_iff] using h.row_iff
  rw [← hrow_iff]
  -- no row: the billed call is not charged, whatever the job says
  by_cases hne : s.db.mine env.useIds p.requestId = []
  · have hopen : (env.failed p message s).status p.jobId ≠ some .succeeded := by
      rcases failed_status h.charging.live.1 message with hfailed | ⟨-, hsame⟩
      · rw [hfailed]
        decide
      · rw [hsame]
        exact fun hdone => h.charging.charged hdone hne
    rw [agrees_iff_of_none (by rw [failed_db]; exact hne) hopen]
    exact iff_of_false hnever (fun hrow => hrow.1 hne)
  · -- a row is there: the job must not say `failed`
    rw [agrees_iff_of_charging h.charging hne (failed_db message s)]
    constructor
    · intro hfailed
      refine ⟨hne, ?_⟩
      rcases failed_status h.charging.live.1 message with hmarked | ⟨hunmarked, -⟩
      · exact absurd hmarked hfailed
      · exact hunmarked
    · rintro ⟨-, hunmarked⟩
      rw [failed_status_of_unmarked hunmarked]
      exact h.charging.live.2

/-- From the start of any run, whatever its attempts meet and wherever they are cut: job,
    charge and provider agree at its end exactly where the run is one of those that
    `Covers` lists. -/
theorem longRun_agrees_iff {env : LongRunEnv} {catalog : Catalog} {p : PlaneLongRunParams}
    {s : PlaneDb} (h : env.Starts p s) :
    LongRunAgrees p (env.answers catalog p) (env.run catalog p s) ↔ env.Covers catalog p := by
  unfold LongRunEnv.run
  rcases invokeStep_spec env catalog p with
    ⟨asset, hinvoke, hinvoked, answer, hanswer, hbilled⟩ | ⟨message, hinvoke, hinvoked⟩
  swap
  · -- nothing came of the calls
    rw [hinvoke]
    dsimp only
    rw [h.agrees_failed]
    exact ⟨fun hfree => .inl ⟨hinvoked, hfree⟩, fun hcovers =>
      hcovers.elim (fun h => h.2) fun h => absurd h.1 hinvoked⟩
  rw [hinvoke]
  dsimp only
  -- a call was billed, so a row has to come of it
  have hnever : ¬∀ answer ∈ env.answers catalog p, ¬answer.Billed :=
    fun hfree => hfree answer hanswer hbilled
  rcases rehostStep_spec env p asset with
    ⟨finalAsset, hrehost, hmoved⟩ | ⟨message, hrehost, hcut⟩
  swap
  · -- the asset is lost: the job fails, and the billed call has no row
    rw [hrehost]
    dsimp only
    rw [h.agrees_failed]
    refine iff_of_false hnever (fun hcovers => ?_)
    rcases hcovers with ⟨hnot, -⟩ | ⟨-, ⟨k, hk, hfree⟩, -⟩
    · exact hnot hinvoked
    · exact hcut k hk hfree
  rw [hrehost]
  dsimp only
  rcases finalizeStep_spec h.charging h.fresh asset finalAsset with
    ⟨a, s', hfinal, huncut, hcharging, hrow, hdone⟩ | ⟨message, s', hfinal, hattempted⟩
  · rw [hfinal]
    dsimp only
    refine iff_of_true ?_ (.inr ⟨hinvoked, hmoved, .inl huncut⟩)
    rw [agrees_iff_of_charging hcharging hrow rfl, hdone]
    decide
  · rw [hfinal]
    dsimp only
    rw [hattempted.agrees_failed hnever]
    constructor
    · exact fun hpast => .inr ⟨hinvoked, hmoved, .inr hpast⟩
    · rintro (⟨hnot, -⟩ | ⟨-, -, ⟨k, hk, huncut⟩ | hpast⟩)
      · exact absurd hinvoked hnot
      · exact absurd huncut (hattempted.cut k (by omega))
      · exact hpast

/-! ## A song -/

/-- The catalog entry of a model that writes songs. -/
def songEntry : CatalogEntry :=
  ⟨"minimax/music-2.6", "minimax/music-2.6", false, .chat, .music, .unifiedBilling, .premium, none,
    some ⟨50000, .request⟩⟩

/-- One song, at 50000 micro-USD. -/
def songOrder : PlaneLongRunParams where
  jobId := "job-1"
  kind := .music
  modelId := "minimax/music-2.6"
  upstreamModel := "minimax/music-2.6"
  prompt := "Rain on a tin roof"
  lyrics := none
  voice := none
  imageUrl := none
  imageObjectKey := none
  accountId := "acct"
  clientId := "client"
  planId := "free"
  requestId := "req-1"
  unitMicroUsd := 50000
  unit := .request
  billableUnits := none
  monthlyIncludedMicroUsd := 0
  origin := ""
  durationSec := none

/-- A run whose provider answers every call alike, and whose attempts to charge are cut as
    given. -/
def songRun (result : NonChatRunResult) (finalizeCut : Nat → Option Nat) : LongRunEnv :=
  let world : LongRunWorld := ⟨true, "a-token-of-some-length", false, fun _ => none, "", "",
    fun _ => result, false, "", fun _ => .ok (), "", fun _ => none⟩
  { invokeWorld := fun _ => world
    invokeCut := fun _ => none
    rehostWorld := fun _ => world
    rehostCut := fun _ => false
    finalizeClock := fun n => ⟨"2026-07", "use-" ++ toString n, 0, 0, 0⟩
    finalizeCut := finalizeCut
    failedAt := 0
    failCut := none }

/-- An account with prepaid credit. -/
def songAccount : AccountRow := ⟨"acct", "free", none, none, 100000, 0⟩

/-- The row of the song's job. -/
def songJobRow : AsyncJobRow := ⟨"job-1", .running, none, none, none, "req-1", 0⟩

/-- The account with 100000 of credit, and the job that is running. -/
def songStore : PlaneDb where
  db := { Db.empty with accounts := fun a => if a = "acct" then some songAccount else none }
  asyncJobs id := if id = "job-1" then some songJobRow else none

/-- The sample run starts on the sample store. -/
theorem songRun_starts (result : NonChatRunResult) (finalizeCut : Nat → Option Nat) :
    (songRun result finalizeCut).Starts songOrder songStore :=
  ⟨.inr rfl, rfl, rfl⟩

/-- A song that was composed. -/
def composed : NonChatRunResult := .ok (.obj [("audio", .str "https://cdn.example/song.mp3")]) none

/-- A song whose provider times out, twice. -/
def lateSong : LongRunEnv := songRun (.timeout 60000) fun _ => none

/-- A song that is composed, each attempt to charge it cut after its fourth statement. -/
def cutSong : LongRunEnv := songRun composed fun _ => some 4

/-- The call that timed out leaves no row; and the charge that was written stays when the job
    is marked failed. -/
theorem longRun_disagrees :
    (lateSong.Starts songOrder songStore ∧ ¬LongRunAgrees songOrder
      (lateSong.answers [songEntry] songOrder) (lateSong.run [songEntry] songOrder songStore)) ∧
    (cutSong.Starts songOrder songStore ∧ ¬LongRunAgrees songOrder
      (cutSong.answers [songEntry] songOrder) (cutSong.run [songEntry] songOrder songStore)) := by
  refine ⟨⟨songRun_starts _ _, fun h => ?_⟩, songRun_starts _ _, fun h => ?_⟩
  · have hanswers : lateSong.answers [songEntry] songOrder = [.timeout 60000, .timeout 60000] := rfl
    have hnone : (lateSong.run [songEntry] songOrder songStore).db.usageEvents = [] := rfl
    rw [hanswers] at h
    obtain ⟨row, hrow, -⟩ := h.recorded ⟨_, List.mem_cons_self, trivial⟩
    rw [hnone] at hrow
    cases hrow
  · have hfailed : (cutSong.run [songEntry] songOrder songStore).status songOrder.jobId =
        some .failed := by decide +kernel
    have hone : ((cutSong.run [songEntry] songOrder songStore).db.meteredRows
        songOrder.requestId).length = 1 := by decide +kernel
    rw [h.failed hfailed] at hone
    cases hone

/-- Without interruptions the song is charged once. -/
theorem longRun_agrees_composed :
    LongRunAgrees songOrder ((songRun composed fun _ => none).answers [songEntry] songOrder)
      ((songRun composed fun _ => none).run [songEntry] songOrder songStore) := by
  refine (longRun_agrees_iff (songRun_starts composed fun _ => none)).mpr (.inr ⟨.inl ⟨rfl, ?_⟩,
    ⟨0, by omega, rfl⟩, .inl ⟨0, by omega, rfl⟩⟩)
  exact ⟨⟨"https://cdn.example/song.mp3", none⟩, rfl⟩

end ControlPlane
