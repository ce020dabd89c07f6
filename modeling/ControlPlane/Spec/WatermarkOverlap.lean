import ControlPlane.ForStd.Pool
import ControlPlane.Spec.FeedReading

/-!
# Overlapping runs and the stored watermark

A run compares its new watermark with the floor it read when it started, and the
store overwrites whatever it holds by then. Runs that overlap can therefore put an
older watermark over a newer one. They cannot where no other run makes its last write
between a run's reading of the state and its own last write: the watermark a run
overwrites is then the one it compared with.

An interleaving is a schedule: which run executes its next statement, time after time.
A run that starts later is one whose first turn comes later, and a run that dies is one
that has no more turns.

## Key results

- `advance_notBackwards`: a last write that finds the watermark its run has read
- `progress_exec`: how far each run has come, and what it has read
- `watermark_undisturbed`: schedules that disturb no run never move a watermark back
-/

namespace ControlPlane

open Script Pool

/-- The stored watermark of a gateway. -/
def Db.watermark (db : Db) (gatewayId : String) : Option Int :=
  (db.reconcileState gatewayId).bind (·.watermark)

/-- A stored watermark stays, or a later one takes its place. -/
def NotBackwards (gatewayId : String) (db db' : Db) : Prop :=
  ∀ w, db.watermark gatewayId = some w → ∃ w', db'.watermark gatewayId = some w' ∧ w ≤ w'

/-- The call of a live run against the gateway. -/
def LiveCall (gatewayId : String)
    (p : Script Db (Option (Except ReconcileFailure ReconcileReport))) : Prop :=
  ∃ args lifetime, args.dryRun = false ∧ args.source.gatewayId = gatewayId ∧
    p = runReconcile args lifetime

/-- Thread `i` is a live run against the gateway, and its next statement is its last write. -/
def AtLastWrite (gatewayId : String)
    (c : Pool Db (Option (Except ReconcileFailure ReconcileReport))) (i : Nat) : Prop :=
  ∃ (run : LiveRun) (prepared : ReconcileRunArgs.Prepared),
    run.live.source.gatewayId = gatewayId ∧ c.threads[i]? = some (run.live.commit prepared)

/-- Between the first turn of a run, in which it reads the state, and its last write there
    is no last write of another run against the gateway. -/
def Undisturbed (gatewayId : String)
    (c : Pool Db (Option (Except ReconcileFailure ReconcileReport))) (schedule : List Nat) :
    Prop :=
  ∀ pre i mid post, schedule = pre ++ i :: (mid ++ i :: post) → i ∉ pre →
    AtLastWrite gatewayId (c.exec (pre ++ i :: mid)) i →
    ∀ before j after, mid = before ++ j :: after → j ≠ i →
      ¬ AtLastWrite gatewayId (c.exec (pre ++ i :: before)) j

theorem NotBackwards.refl (gatewayId : String) (db : Db) : NotBackwards gatewayId db db :=
  fun w hw => ⟨w, hw, le_refl w⟩

theorem NotBackwards.trans {gatewayId : String} {a b c : Db} (hab : NotBackwards gatewayId a b)
    (hbc : NotBackwards gatewayId b c) : NotBackwards gatewayId a c := fun w hw => by
  obtain ⟨w', hw', hle⟩ := hab w hw
  obtain ⟨w'', hw'', hle'⟩ := hbc w' hw'
  exact ⟨w'', hw'', hle.trans hle'⟩

theorem NotBackwards.of_same {gatewayId : String} {db db' : Db} (h : SameReconcileState db db') :
    NotBackwards gatewayId db db' := fun w hw =>
  ⟨w, by rw [Db.watermark, h]; exact hw, le_refl w⟩

/-- What the last write stores. -/
theorem watermark_advance (args : ReconcileRunArgs) (prepared : ReconcileRunArgs.Prepared)
    (db : Db) :
    (db.advanceReconcileState (args.advanceArgs prepared)).watermark args.source.gatewayId =
      coalesce (args.advance prepared) (db.watermark args.source.gatewayId) := by
  simp only [Db.watermark, Db.advanceReconcileState, ReconcileRunArgs.advanceArgs, if_true]
  cases db.reconcileState args.source.gatewayId with
  | none => cases args.advance prepared <;> rfl
  | some row => rfl

/-- The last write leaves the other gateways. -/
theorem watermark_advance_other (args : ReconcileRunArgs) (prepared : ReconcileRunArgs.Prepared)
    (db : Db) {gatewayId : String} (h : gatewayId ≠ args.source.gatewayId) :
    (db.advanceReconcileState (args.advanceArgs prepared)).watermark gatewayId =
      db.watermark gatewayId := by
  simp only [Db.watermark, Db.advanceReconcileState, ReconcileRunArgs.advanceArgs, h, if_false]

/-- A last write that finds the watermark its run has read does not move it back. -/
theorem advance_notBackwards (args : ReconcileRunArgs) {prepared : ReconcileRunArgs.Prepared}
    {db : Db} (hfloor : ∀ w, db.watermark args.source.gatewayId = some w → prepared.floor = w) :
    NotBackwards args.source.gatewayId db
      (db.advanceReconcileState (args.advanceArgs prepared)) := by
  intro w hw
  have hread := hfloor w hw
  rw [watermark_advance, ReconcileRunArgs.advance, nextWatermark_eq, hw, hread]
  split
  · exact ⟨w, rfl, le_refl w⟩
  next hpast =>
    refine ⟨_, rfl, ?_⟩
    -- the candidate is a whole millisecond after the one the watermark lies in
    unfold dateParse nsPerMs at hpast
    unfold toISOString nsPerMs
    omega

/-! ## How far a run has come -/

/-- What a run has prepared, once it has read the state in the store `read`. -/
def ReadFrom (run : LiveRun) (read : Db)
    (prepared : Option (Except ReconcileFailure ReconcileRunArgs.Prepared)) : Prop :=
  ∀ q, prepared = some (.ok q) → run.floor read = some q.floor

/-- How far the run on thread `i` has come when the turns `ran` are over. -/
inductive Progress (c₀ : Pool Db (Option (Except ReconcileFailure ReconcileReport)))
    (run : LiveRun) (i : Nat) (ran : List Nat) :
    Script Db (Option (Except ReconcileFailure ReconcileReport)) → Prop
  /-- It has had no turn. -/
  | waiting (h : i ∉ ran) : Progress c₀ run i ran run.script
  /-- It read the state in its first turn, and `rest` is left of its preparation. -/
  | preparing {pre mid : List Nat}
      {rest : Script Db (Option (Except ReconcileFailure ReconcileRunArgs.Prepared))}
      (hran : ran = pre ++ i :: mid) (hpre : i ∉ pre)
      (hsteps : rest.Steps SameReconcileState)
      (hread : rest.Yields (ReadFrom run (c₀.exec pre).store)) :
      Progress c₀ run i ran (rest.bind run.live.finish)
  | ended (a : Option (Except ReconcileFailure ReconcileReport)) :
      Progress c₀ run i ran (.done a)

/-- The first statement of a run reads the state, and what it prepares has that floor. -/
theorem prepare_reads (run : LiveRun) : ∃ next,
    run.live.prepare run.lifetime = .stmt id next ∧
      ∀ s, (next s).Steps SameReconcileState ∧ (next s).Yields (ReadFrom run s) := by
  have hsteps := steps_prepare run.live run.lifetime
  refine ⟨_, rfl, fun s => ⟨hsteps.next s, ?_⟩⟩
  dsimp only [Script.done_bind, pure_bind]
  split
  next => exact .done fun q h => by cases h
  next floor hfloor =>
    -- neither the feed nor the reverse check changes the floor
    refine (Yields.any _).bind fun looped _ => ?_
    split
    · exact .done fun q h => by cases h
    · exact .done fun q h => by cases h
    · refine (Yields.any _).bind fun unmatched _ => .done fun q h => ?_
      cases h
      exact hfloor

section Schedule

variable {db₀ : Db} {runs : List LiveRun}

/-- The runs before their first turns. -/
def startOf (db₀ : Db) (runs : List LiveRun) :
    Pool Db (Option (Except ReconcileFailure ReconcileReport)) :=
  ⟨db₀, runs.map LiveRun.script⟩

/-- What a thread is after one more turn, its own or another's. -/
theorem Progress.tick {c₀ : Pool Db (Option (Except ReconcileFailure ReconcileReport))}
    {run : LiveRun} {i j : Nat} {ran : List Nat}
    {p : Script Db (Option (Except ReconcileFailure ReconcileReport))}
    (hget : (c₀.exec ran).threads[i]? = some p) (h : Progress c₀ run i ran p) :
    ∃ p', (c₀.exec (ran ++ [j])).threads[i]? = some p' ∧ Progress c₀ run i (ran ++ [j]) p' := by
  rw [exec_concat]
  by_cases hij : j = i
  · subst hij
    cases h with
    -- its first statement reads the watermark
    | waiting h =>
      obtain ⟨next, hprepare, hnext⟩ := prepare_reads run
      have hscript : run.script =
          .stmt id fun s => (next s).bind run.live.finish := by
        show (run.live.prepare run.lifetime).bind _ = _
        rw [hprepare]
        rfl
      rw [hscript] at hget
      exact ⟨_, threads_tick_self hget, .preparing rfl h (hnext _).1 (hnext _).2⟩
    -- it works through the feed, or has ended and is about to write
    | @preparing pre mid rest hran hpre hsteps hread =>
      cases rest with
      | stmt effect next =>
        refine ⟨_, threads_tick_self hget, ?_⟩
        exact .preparing (by rw [hran, List.append_assoc, List.cons_append]) hpre
          (hsteps.next _) (hread.next _)
      | done prepared =>
        match prepared with
        | none => exact ⟨_, threads_tick_done hget, .ended _⟩
        | some (.error failure) => exact ⟨_, threads_tick_done hget, .ended _⟩
        | some (.ok q) =>
          have hget : (c₀.exec ran).threads[j]? = some (run.live.commit q) := hget
          rw [commit_of_live rfl] at hget
          exact ⟨_, threads_tick_self hget, .ended _⟩
    | ended a => exact ⟨_, threads_tick_done hget, .ended a⟩
  -- another run ticks: this one stays where it is
  · refine ⟨p, by rwa [threads_tick_of_ne hij], ?_⟩
    cases h with
    | waiting h => exact .waiting (by simpa [Ne.symm hij] using h)
    | preparing hran hpre hsteps hread =>
      exact .preparing (by rw [hran, List.append_assoc, List.cons_append]) hpre hsteps hread
    | ended a => exact .ended a

/-- After any turns every thread has come some way. -/
theorem progress_exec (ran : List Nat) {i : Nat}
    {p : Script Db (Option (Except ReconcileFailure ReconcileReport))}
    (h : ((startOf db₀ runs).exec ran).threads[i]? = some p) :
    ∃ run ∈ runs, Progress (startOf db₀ runs) run i ran p := by
  -- the thread is one of the runs
  suffices ∀ run, runs[i]? = some run →
      ∃ p, ((startOf db₀ runs).exec ran).threads[i]? = some p ∧
        Progress (startOf db₀ runs) run i ran p by
    have hlen : i < runs.length := by
      have hi := (List.getElem?_eq_some_iff.mp h).1
      rwa [length_threads_exec, startOf, List.length_map] at hi
    obtain ⟨p', hp', hprogress⟩ := this runs[i] (List.getElem?_eq_getElem hlen)
    rw [h] at hp'
    cases hp'
    exact ⟨runs[i], List.getElem_mem hlen, hprogress⟩
  intro run hrun
  clear h
  -- one tick after the other
  induction ran using List.reverseRecOn with
  | nil =>
    have hstart : (startOf db₀ runs).threads[i]? = some run.script := by simp [startOf, hrun]
    exact ⟨run.script, hstart, .waiting List.not_mem_nil⟩
  | append_singleton ran j ih =>
    obtain ⟨p, hp, hprogress⟩ := ih
    exact hprogress.tick hp

/-! ## What one turn does to the watermark -/

/-- A turn leaves the watermark, or it is a last write: of a run that has read its floor in
    the store of its first turn. -/
theorem watermark_tick (gatewayId : String) (ran : List Nat) (i : Nat) :
    ((startOf db₀ runs).exec (ran ++ [i])).store.watermark gatewayId =
        ((startOf db₀ runs).exec ran).store.watermark gatewayId ∨
      AtLastWrite gatewayId ((startOf db₀ runs).exec ran) i ∧
      ∃ (run : LiveRun) (q : ReconcileRunArgs.Prepared) (pre mid : List Nat),
        run.live.source.gatewayId = gatewayId ∧ ran = pre ++ i :: mid ∧ i ∉ pre ∧
        run.floor ((startOf db₀ runs).exec pre).store = some q.floor ∧
        ((startOf db₀ runs).exec (ran ++ [i])).store =
          ((startOf db₀ runs).exec ran).store.advanceReconcileState (run.live.advanceArgs q) := by
  rw [exec_concat]
  cases hget : ((startOf db₀ runs).exec ran).threads[i]? with
  | none => exact .inl (by rw [tick_of_none hget])
  | some p =>
    obtain ⟨run, -, hprogress⟩ := progress_exec ran hget
    cases hprogress with
    -- the first statement only reads
    | waiting h =>
      obtain ⟨next, hprepare, -⟩ := prepare_reads run
      have hscript : run.script = .stmt id fun s => (next s).bind run.live.finish := by
        show (run.live.prepare run.lifetime).bind _ = _
        rw [hprepare]
        rfl
      rw [hscript] at hget
      exact .inl (by rw [store_tick hget]; rfl)
    | @preparing pre mid rest hran hpre hsteps hread =>
      cases rest with
      -- no statement but the last touches the watermark
      | stmt effect next =>
        have hsame := hsteps.effect ((startOf db₀ runs).exec ran).store
        exact .inl (by rw [store_tick hget, Db.watermark, Db.watermark, hsame])
      | done prepared =>
        match prepared with
        | none => exact .inl (by rw [tick_of_done hget])
        | some (.error failure) => exact .inl (by rw [tick_of_done hget])
        | some (.ok q) =>
          have hget : ((startOf db₀ runs).exec ran).threads[i]? =
              some (run.live.commit q) := hget
          -- the last one writes its own gateway's
          by_cases hgateway : gatewayId = run.live.source.gatewayId
          · refine .inr ⟨⟨run, q, hgateway.symm, hget⟩, run, q, pre, mid, hgateway.symm, hran, hpre,
              hread.result q rfl, ?_⟩
            rw [commit_of_live rfl] at hget
            exact store_tick hget
          · rw [commit_of_live rfl] at hget
            exact .inl (by rw [store_tick hget, watermark_advance_other _ _ _ hgateway])
    | ended a => exact .inl (by rw [tick_of_done hget])

/-- Turns without a last write against the gateway leave its watermark. -/
theorem watermark_turns {gatewayId : String} (ran mid : List Nat)
    (h : ∀ before j after, mid = before ++ j :: after →
      ¬ AtLastWrite gatewayId ((startOf db₀ runs).exec (ran ++ before)) j) :
    ((startOf db₀ runs).exec (ran ++ mid)).store.watermark gatewayId =
      ((startOf db₀ runs).exec ran).store.watermark gatewayId := by
  induction mid using List.reverseRecOn with
  | nil => rw [List.append_nil]
  | append_singleton mid j ih =>
    rw [← List.append_assoc]
    have hrest := ih fun before k after hmid => h before k (after ++ [j]) (by simp [hmid])
    rcases watermark_tick gatewayId (ran ++ mid) j with hsame | ⟨hlast, -⟩
    · exact hsame.trans hrest
    · exact absurd hlast (h mid j [] rfl)

/-- A run makes one last write: none of its turns before it was one. -/
theorem lastWrite_once {gatewayId : String}
    {c : Pool Db (Option (Except ReconcileFailure ReconcileReport))} {i : Nat} {turns : List Nat}
    (hlast : AtLastWrite gatewayId (c.exec turns) i) {before after : List Nat}
    (hturns : turns = before ++ i :: after) : ¬ AtLastWrite gatewayId (c.exec before) i := by
  rintro ⟨run, q, -, hget⟩
  obtain ⟨run', q', -, hget'⟩ := hlast
  rw [commit_of_live rfl] at hget hget'
  -- after its last write a run is over
  have hdone := threads_tick_self hget
  rw [← exec_concat] at hdone
  rw [hturns, List.append_cons, exec_append, threads_exec_done hdone] at hget'
  cases hget'

/-- A last write that nobody has disturbed does not move the watermark back. -/
theorem notBackwards_tick {gatewayId : String} {ran post : List Nat} {i : Nat}
    (h : Undisturbed gatewayId (startOf db₀ runs) (ran ++ i :: post)) :
    NotBackwards gatewayId ((startOf db₀ runs).exec ran).store
      ((startOf db₀ runs).exec (ran ++ [i])).store := by
  rcases watermark_tick gatewayId ran i with
    hsame | ⟨hlast, run, q, pre, mid, hgateway, rfl, hpre, hfloor, hstore⟩
  · exact fun w hw => ⟨w, hsame.trans hw, le_refl w⟩
  · -- since the run has read the state nobody has made a last write
    have hquiet : ∀ before j after, mid = before ++ j :: after →
        ¬ AtLastWrite gatewayId ((startOf db₀ runs).exec (pre ++ [i] ++ before)) j := by
      intro before j after hmid
      rw [List.append_assoc, List.singleton_append]
      by_cases hji : j = i
      · subst hji
        exact lastWrite_once hlast (by rw [hmid, List.append_assoc, List.cons_append])
      · exact h pre i mid post (by rw [List.append_assoc, List.cons_append]) hpre hlast
          before j after hmid hji
    have hturns := watermark_turns (pre ++ [i]) mid hquiet
    have hfirst : ((startOf db₀ runs).exec (pre ++ [i])).store.watermark gatewayId =
        ((startOf db₀ runs).exec pre).store.watermark gatewayId := by
      rcases watermark_tick gatewayId pre i with hsame | ⟨-, -, -, pre', mid', -, hpre', -⟩
      · exact hsame
      · exact absurd (hpre' ▸ (by simp)) hpre
    rw [List.append_assoc, List.singleton_append, hfirst] at hturns
    subst hgateway
    rw [hstore]
    refine advance_notBackwards run.live fun w hw => ?_
    rw [hturns] at hw
    -- the floor is the stored watermark, where there is one
    have hread : (((startOf db₀ runs).exec pre).store.reconcileState
        run.live.source.gatewayId).bind (·.watermark) = some w := hw
    rw [LiveRun.floor, ReconcileRunArgs.floor, hread] at hfloor
    exact (Option.some.inj hfloor).symm

/-- In every interleaving of live runs that disturbs none of those against the gateway, the
    gateway's watermark is never older than it was after fewer turns. -/
theorem watermark_undisturbed {gatewayId : String} {first second : List Nat}
    (h : Undisturbed gatewayId (startOf db₀ runs) (first ++ second)) :
    NotBackwards gatewayId ((startOf db₀ runs).exec first).store
      ((startOf db₀ runs).exec (first ++ second)).store := by
  induction second generalizing first with
  | nil =>
    rw [List.append_nil]
    exact .refl gatewayId _
  | cons i second ih =>
    have hrest := @ih (first ++ [i])
    rw [List.append_assoc, List.singleton_append] at hrest
    exact (notBackwards_tick h).trans (hrest h)

end Schedule

/-- Runs that take their turns one run after the other disturb nobody. -/
theorem undisturbed_of_pairwise (gatewayId : String)
    (c : Pool Db (Option (Except ReconcileFailure ReconcileReport))) {schedule : List Nat}
    (h : schedule.Pairwise (· ≤ ·)) : Undisturbed gatewayId c schedule := by
  rintro pre i mid post rfl - - before j after rfl hji
  rw [List.pairwise_append, List.pairwise_cons, List.append_assoc, List.pairwise_append] at h
  obtain ⟨-, ⟨hi, -, hlater, -⟩, -⟩ := h
  have hle := hi j (by simp)
  rw [List.cons_append, List.pairwise_cons] at hlater
  have hge := hlater.1 i (by simp)
  exact absurd (Nat.le_antisymm hge hle) hji

/-- A live run that finds its feed empty, at a clock of `nowMs` past the settling time. -/
def idleRun (nowMs : Int) : LiveRun where
  args := ⟨feedOf [], nowMs + settleMs, false, some 0, none, none, fun _ => ""⟩
  lifetime := 1
  cut := 3

/-- A gateway whose watermark stands at five milliseconds. -/
def startedStore : Db :=
  { Db.empty with
    reconcileState := fun g =>
      if g = "gateway" then some ⟨g, some (toISOString 5), none, 0, 1, 0, 0⟩ else none }

/-- Two runs one after the other move it on, to twenty and then to thirty milliseconds. -/
theorem watermark_undisturbed_turns :
    let c := startOf startedStore [idleRun 20, idleRun 30]
    NotBackwards "gateway" (c.exec [0, 0, 0]).store (c.exec [0, 0, 0, 1, 1, 1]).store ∧
      (c.exec [0, 0, 0]).store.watermark "gateway" = some (toISOString 20) ∧
      (c.exec [0, 0, 0, 1, 1, 1]).store.watermark "gateway" = some (toISOString 30) := by
  intro c
  refine ⟨watermark_undisturbed (undisturbed_of_pairwise "gateway" c (by decide)), ?_, ?_⟩
  · decide +kernel
  · decide +kernel

/-! ## Two runs that overlap -/

theorem idleRun_liveCall (nowMs : Int) : LiveCall "gateway" (idleRun nowMs).script :=
  ⟨(idleRun nowMs).live, 1, rfl, rfl, rfl⟩

/-- The run with the later clock has finished; the other has read its floor. -/
def overlapped : Pool Db (Option (Except ReconcileFailure ReconcileReport)) :=
  exec ⟨Db.empty, [(idleRun 10).script, (idleRun 20).script]⟩ [0, 1, 1, 1, 0]

/-- The run that started first finishes last, and takes the watermark back from 20 to
    10 milliseconds. -/
theorem watermark_overlapped :
    Reach (LiveCall "gateway") ⟨Db.empty, []⟩ overlapped ∧
    Reach (LiveCall "gateway") overlapped (overlapped.exec [0]) ∧
    overlapped.store.watermark "gateway" = some (toISOString 20) ∧
    (overlapped.exec [0]).store.watermark "gateway" = some (toISOString 10) := by
  refine ⟨?_, reach_exec overlapped [0], by decide +kernel, by decide +kernel⟩
  refine (reach_start Db.empty [] [(idleRun 10).script, (idleRun 20).script] ?_).trans
    (reach_exec _ [0, 1, 1, 1, 0])
  simp [idleRun_liveCall]

end ControlPlane
