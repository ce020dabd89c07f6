import ControlPlane.ForStd.Run
import ControlPlane.Spec.FeedReading
import Mathlib.Algebra.BigOperators.Group.Finset.Basic
import Mathlib.Tactic.Linarith

/-!
# What the true-ups of one request add up to

Each gateway row of a request is compared with the whole estimate of its ledger
row. After every row has been decided, in any order and any number of times, the
true-ups of the ledger row sum to one difference for each distinct gateway row.
With one gateway row that makes the charge the billed cost; with several rows it
takes the estimate off once too often for each row after the first.

## Key results

- `Settled.step`: what deciding one row does to the sum
- `adjusted_liveRuns`: the sum after any sequence of runs
- `settledCharge_eq_iff`: when the charge comes to the billed cost
-/

namespace ControlPlane

open Script Run

/-- The true-ups of a ledger row in one direction. -/
def Db.adjustedBy (db : Db) (direction : Direction) (event : UsageEventRow) : Int :=
  Table.sumWhere (fun row => row.usageEventId == some event.id && row.direction = direction)
    (·.appliedMicroUsd) db.usageAdjustments

/-- What a ledger row comes to: its charged estimate, plus its spend true-ups, minus
    its credit true-ups. -/
def Db.settledCharge (db : Db) (event : UsageEventRow) : Int :=
  event.ledgerEstimate.charged + db.adjustedBy .spend event - db.adjustedBy .credit event

/-- The gateway rows that join to a ledger row. -/
def joinedRows (event : UsageEventRow) (logs : List GatewayLogRow) : Finset GatewayLogRow :=
  (logs.filter (·.joins event.ledgerEstimate)).toFinset

/-- Every run mints ids of its own that no stored row has. -/
def FreshIds (used : String → Prop) : List LiveRun → Prop
  | [] => True
  | run :: rest =>
    Function.Injective run.live.newId ∧ (∀ m, ¬used (run.live.newId m)) ∧
      FreshIds (fun id => used id ∨ ∃ m, id = run.live.newId m) rest

/-- The signed amount of a true-up. -/
def UsageAdjustmentRow.signed (row : UsageAdjustmentRow) : Int :=
  match row.direction with
  | .spend => row.appliedMicroUsd
  | .credit => -row.appliedMicroUsd

/-- The signed sum of a ledger row's true-ups. -/
def Db.adjusted (db : Db) (event : UsageEventRow) : Int :=
  Table.sumWhere (fun row => row.usageEventId == some event.id) (·.signed) db.usageAdjustments

theorem Db.settledCharge_eq (db : Db) (event : UsageEventRow) :
    db.settledCharge event = event.ledgerEstimate.charged + db.adjusted event := by
  -- credits enter the signed sum negatively
  have hsplit : db.adjusted event = db.adjustedBy .spend event - db.adjustedBy .credit event := by
    unfold Db.adjusted Db.adjustedBy
    induction db.usageAdjustments with
    | nil => rfl
    | cons row rest ih =>
      rw [Table.sumWhere_cons, Table.sumWhere_cons, Table.sumWhere_cons, ih]
      cases hid : row.usageEventId == some event.id <;> cases hd : row.direction <;>
        simp [UsageAdjustmentRow.signed, hd] <;> omega
  rw [hsplit, Db.settledCharge]
  omega

/-! ## One row -/

section

variable {db₀ : Db} {event : UsageEventRow}

/-- The row is the only one of the ledger with its request id or its id. -/
structure OnlyRow (db : Db) (event : UsageEventRow) : Prop where
  stored : event ∈ db.usageEvents
  only : ∀ other ∈ db.usageEvents,
    other.requestId = event.requestId ∨ other.id = event.id → other = event

/-- A log row that joins the ledger row is looked up to it. -/
theorem OnlyRow.joined (h : OnlyRow db₀ event) {log : GatewayLogRow}
    (hjoins : log.joins event.ledgerEstimate = true) : db₀.joined log = some event := by
  simp only [GatewayLogRow.joins, Bool.and_eq_true, beq_iff_eq] at hjoins
  obtain ⟨hlog, -⟩ := Option.filter_eq_some_iff.mp hjoins.1.1.1
  have hrequest : log.requestId.getD "" = event.requestId := by rw [hlog]; rfl
  unfold Db.joined
  rw [hrequest]
  cases hfind : db₀.usageEvents.find? (fun row => row.requestId == event.requestId) with
  | none => simpa using List.find?_eq_none.mp hfind event h.stored
  | some row =>
    have hsame := List.find?_some hfind
    rw [h.only row (List.mem_of_find?_eq_some hfind) (.inl (eq_of_beq hsame))]

variable (db₀ event) in
/-- The state of the true-ups once the rows of `logs` are decided: `used` are the
    ids of earlier rows, `newId` mints this run's. -/
structure Settled (used : String → Prop) (newId : Nat → String) (logs : List GatewayLogRow)
    (minted : Nat) (db : Db) : Prop where
  events : db.usageEvents = db₀.usageEvents
  ids : ∀ row ∈ db.usageAdjustments, used row.id ∨ ∃ m < minted, row.id = newId m
  keys : ∀ row ∈ db.usageAdjustments, row ∈ db₀.usageAdjustments ∨
    ∃ log ∈ logs, row.idempotencyKey = adjustmentIdempotencyKey log.id
  taken : ∀ log ∈ logs, log.joins event.ledgerEstimate = true →
    log.cost ≠ event.ledgerEstimate.charged →
      ∃ row ∈ db.usageAdjustments, row.idempotencyKey = adjustmentIdempotencyKey log.id
  total : db.adjusted event =
    ∑ log ∈ joinedRows event logs, (log.cost - event.ledgerEstimate.charged)

theorem joinedRows_snoc_of_not (logs : List GatewayLogRow) {log : GatewayLogRow}
    (h : log.joins event.ledgerEstimate = false) :
    joinedRows event (logs ++ [log]) = joinedRows event logs := by
  simp [joinedRows, h]

theorem joinedRows_snoc (logs : List GatewayLogRow) {log : GatewayLogRow}
    (h : log.joins event.ledgerEstimate = true) :
    joinedRows event (logs ++ [log]) = insert log (joinedRows event logs) := by
  ext x
  simp [joinedRows, h]

/-- What the gateway rows are, taken together: an id names one row, and nothing
    stored before the runs holds the key of a row of the request. -/
structure FeedOf (db₀ : Db) (event : UsageEventRow) (all : List GatewayLogRow) : Prop where
  stable : ∀ x ∈ all, ∀ y ∈ all, x.id = y.id → x = y
  untaken : ∀ log ∈ all, log.joins event.ledgerEstimate = true →
    ∀ row ∈ db₀.usageAdjustments, row.idempotencyKey ≠ adjustmentIdempotencyKey log.id

variable {used : String → Prop} {newId : Nat → String} {all logs : List GatewayLogRow}
  {minted minted' : Nat} {db : Db} {log : GatewayLogRow}

/-- Deciding a row that moves nothing. -/
theorem Settled.step_of_same (h : Settled db₀ event used newId logs minted db)
    (hminted : minted ≤ minted')
    (htaken : log.joins event.ledgerEstimate = true → log.cost ≠ event.ledgerEstimate.charged →
      log ∈ logs) :
    Settled db₀ event used newId (logs ++ [log]) minted' db := by
  refine ⟨h.events, fun row hrow => ?_, fun row hrow => ?_, fun x hx hjoins hcost => ?_, ?_⟩
  · rcases h.ids row hrow with hused | ⟨m, hm, hid⟩
    · exact .inl hused
    · exact .inr ⟨m, hm.trans_le hminted, hid⟩
  · rcases h.keys row hrow with hold | ⟨x, hx, hkey⟩
    · exact .inl hold
    · exact .inr ⟨x, List.mem_append_left _ hx, hkey⟩
  · rcases List.mem_append.mp hx with hx | hx
    · exact h.taken x hx hjoins hcost
    · obtain rfl := List.mem_singleton.mp hx
      exact h.taken x (htaken hjoins hcost) hjoins hcost
  -- a row that does not join the charge, or one that was counted before
  · cases hjoins : log.joins event.ledgerEstimate with
    | false => rw [joinedRows_snoc_of_not logs hjoins, h.total]
    | true =>
      rw [joinedRows_snoc logs hjoins, h.total]
      refine (Finset.sum_insert_of_eq_zero_if_notMem (fun hnot => ?_)).symm
      by_contra hcost
      have hmem := htaken hjoins (fun heq => hcost (by omega))
      exact hnot (by simp [joinedRows, hmem, hjoins])

/-- A true-up that lands adds its signed amount to its own ledger row. -/
theorem Db.adjusted_land (db : Db) (row : UsageAdjustmentRow) :
    ((db.addAdjustment row).moveMoney row).adjusted event =
      db.adjusted event + (if row.usageEventId = some event.id then row.signed else 0) := by
  simp only [Db.adjusted, Db.moveMoney_usageAdjustments, Db.addAdjustment_usageAdjustments,
    Table.sumWhere_append, Table.sumWhere_cons, Table.sumWhere_nil, add_zero, beq_iff_eq]

/-- A true-up whose key is taken was asked for by a row decided before. -/
theorem Settled.mem_of_taken (h : Settled db₀ event used newId logs minted db)
    (hfeed : FeedOf db₀ event all) (hlogs : ∀ x ∈ logs, x ∈ all) (hlog : log ∈ all)
    (hinjective : Function.Injective newId) (hfresh : ∀ m, ¬used (newId m))
    (hjoins : log.joins event.ledgerEstimate = true) {row : UsageAdjustmentRow}
    (hid : row.id = newId minted) (hkey : row.idempotencyKey = adjustmentIdempotencyKey log.id)
    (htaken : db.adjustmentTaken row = true) : log ∈ logs := by
  obtain ⟨stored, hstored, hconflict⟩ := List.any_eq_true.mp htaken
  simp only [Db.adjustmentConflict, Bool.or_eq_true, beq_iff_eq] at hconflict
  rcases hconflict with hsame | hsame
  · -- the minted id is new
    rcases h.ids stored hstored with hused | ⟨m, hm, hstoredId⟩
    · exact absurd (hsame.trans hid ▸ hused) (hfresh minted)
    · exact absurd (hinjective (hstoredId.symm.trans (hsame.trans hid))) (by omega)
  · rcases h.keys stored hstored with hold | ⟨x, hx, hxkey⟩
    · exact absurd (hsame.trans hkey) (hfeed.untaken log hlog hjoins stored hold)
    · have hid : x.id = log.id :=
        adjustmentIdempotencyKey_injective (hxkey.symm.trans (hsame.trans hkey))
      exact hfeed.stable x (hlogs x hx) log hlog hid ▸ hx

/-- Deciding a row whose true-up lands. -/
theorem Settled.step_of_landed (h : Settled db₀ event used newId logs minted db)
    (hminted : minted < minted') {row : UsageAdjustmentRow}
    (hid : row.id = newId minted) (hkey : row.idempotencyKey = adjustmentIdempotencyKey log.id)
    (htotal : db.adjusted event + (if row.usageEventId = some event.id then row.signed else 0) =
      ∑ log ∈ joinedRows event (logs ++ [log]), (log.cost - event.ledgerEstimate.charged)) :
    Settled db₀ event used newId (logs ++ [log]) minted'
      ((db.addAdjustment row).moveMoney row) := by
  -- the new row has an id of this run, and the key of the row it was decided for
  refine ⟨by simpa using h.events, fun x hx => ?_, fun x hx => ?_, fun x hx hjoins hcost => ?_, ?_⟩
  · simp only [Db.moveMoney_usageAdjustments, Db.addAdjustment_usageAdjustments,
      List.mem_append, List.mem_singleton] at hx
    rcases hx with hx | rfl
    · rcases h.ids x hx with hused | ⟨m, hm, hxid⟩
      · exact .inl hused
      · exact .inr ⟨m, by omega, hxid⟩
    · exact .inr ⟨minted, hminted, hid⟩
  · simp only [Db.moveMoney_usageAdjustments, Db.addAdjustment_usageAdjustments,
      List.mem_append, List.mem_singleton] at hx
    rcases hx with hx | rfl
    · rcases h.keys x hx with hold | ⟨y, hy, hykey⟩
      · exact .inl hold
      · exact .inr ⟨y, List.mem_append_left _ hy, hykey⟩
    · exact .inr ⟨log, by simp, hkey⟩
  · simp only [Db.moveMoney_usageAdjustments, Db.addAdjustment_usageAdjustments]
    rcases List.mem_append.mp hx with hx | hx
    · obtain ⟨stored, hstored, hstoredKey⟩ := h.taken x hx hjoins hcost
      exact ⟨stored, List.mem_append_left _ hstored, hstoredKey⟩
    · obtain rfl := List.mem_singleton.mp hx
      exact ⟨row, by simp, hkey⟩
  · rw [db.adjusted_land row, htotal]

/-- A comparison with the whole estimate asks for the difference. -/
theorem signed_adjustmentRow (id : String) (log : GatewayLogRow) (adjustment : Adjustment) :
    (adjustmentRow id log adjustment).signed = adjustment.signed := rfl

/-- Deciding one row keeps the state of the true-ups. -/
theorem Settled.step (h : Settled db₀ event used newId logs minted db) (honly : OnlyRow db₀ event)
    (hfeed : FeedOf db₀ event all) (hlogs : ∀ x ∈ logs, x ∈ all) (hlog : log ∈ all)
    (hinjective : Function.Injective newId) (hfresh : ∀ m, ¬used (newId m))
    (hminted : minted ≤ minted')
    (hused : db.settleLog (newId minted) log ≠ db → minted < minted') :
    Settled db₀ event used newId (logs ++ [log]) minted' (db.settleLog (newId minted) log) := by
  have hlookup : db.joined log = db₀.joined log := by rw [Db.joined, h.events]; rfl
  -- a row that joins is compared with the estimate of this ledger row
  have hcompare : log.joins event.ledgerEstimate = true →
      db.outcome log = compareCost log.cost event.ledgerEstimate := fun hjoins => by
    rw [Db.outcome, hlookup, honly.joined hjoins]
    exact decideAdjustment_of_joins hjoins
  cases houtcome : db.outcome log with
  -- a row that joins is never skipped: it is compared
  | skipped reason detail =>
    have hsame : db.settleLog (newId minted) log = db := by simp [Db.settleLog, houtcome]
    rw [hsame]
    refine h.step_of_same hminted (fun hjoins hcost => ?_)
    rw [hcompare hjoins] at houtcome
    simp [compareCost] at houtcome
    split at houtcome <;> cases houtcome
  -- in agreement, so the difference that the total lacks is zero
  | inAgreement microUsd estimate =>
    have hsame : db.settleLog (newId minted) log = db := by simp [Db.settleLog, houtcome]
    rw [hsame]
    refine h.step_of_same hminted (fun hjoins hcost => ?_)
    rw [hcompare hjoins] at houtcome
    simp [compareCost, sub_eq_zero, hcost] at houtcome
  | adjust adjustment =>
    have hsettle : db.settleLog (newId minted) log =
        ((applyUsageAdjustment (adjustmentRow (newId minted) log adjustment)).run db).2 := by
      simp [Db.settleLog, houtcome]
    rw [hsettle] at hused ⊢
    cases htaken : db.adjustmentTaken (adjustmentRow (newId minted) log adjustment) with
    | true =>
      rw [run_applyUsageAdjustment_taken htaken]
      exact h.step_of_same hminted (fun hjoins _ =>
        h.mem_of_taken hfeed hlogs hlog hinjective hfresh hjoins rfl rfl htaken)
    | false =>
      rw [run_applyUsageAdjustment_free htaken] at hused ⊢
      refine h.step_of_landed (hused (Db.landed_ne _ _)) rfl rfl ?_
      rw [h.total, signed_adjustmentRow]
      cases hjoins : log.joins event.ledgerEstimate with
      | true =>
        have hadjust := (hcompare hjoins).symm.trans houtcome
        obtain ⟨hevent, -, -, -, hsigned, hcost⟩ := compareCost_adjust hadjust
        -- had it been decided before, its key would be taken
        have hnot : log ∉ joinedRows event logs := fun hmem => by
          have hmem' : log ∈ logs := (List.mem_filter.mp (List.mem_toFinset.mp hmem)).1
          obtain ⟨stored, hstored, hkey⟩ := h.taken log hmem' hjoins hcost
          have : db.adjustmentTaken (adjustmentRow (newId minted) log adjustment) = true :=
            db.adjustmentTaken_of_mem hstored hkey
          simp [htaken] at this
        have hown : (adjustmentRow (newId minted) log adjustment).usageEventId = some event.id := by
          simp only [adjustmentRow, hevent]; rfl
        rw [joinedRows_snoc logs hjoins, Finset.sum_insert hnot, if_pos hown, hsigned]
        omega
      | false =>
        -- the row joins another ledger row, which has another id
        have hother : (adjustmentRow (newId minted) log adjustment).usageEventId ≠
            some event.id := fun heq => by
          obtain ⟨row, hrow, -, hrowJoins, hevent⟩ := Db.outcome_adjust houtcome
          simp only [adjustmentRow, hevent] at heq
          obtain rfl := honly.only row (h.events ▸ hrow) (.inr (Option.some.inj heq))
          simp [hjoins] at hrowJoins
        rw [joinedRows_snoc_of_not logs hjoins, if_neg hother, add_zero]

/-- A run that ends has decided its rows on top of those of the runs before it. -/
theorem Settled.liveRun {run : LiveRun} {prior : List GatewayLogRow}
    (h : Settled db₀ event used run.live.newId prior 0 db) (honly : OnlyRow db₀ event)
    (hfeed : FeedOf db₀ event all) (hprior : ∀ x ∈ prior, x ∈ all)
    (hdecided : ∀ x ∈ run.decided db, x ∈ all) (hinjective : Function.Injective run.live.newId)
    (hfresh : ∀ m, ¬used (run.live.newId m)) (hends : run.Ends db) :
    ∃ minted, Settled db₀ event used run.live.newId (prior ++ run.decided db) minted
      (db.liveRun run) := by
  -- each row of the feed keeps the account settled
  have hrow : run.live.RowInvariant (fun logs minted db' => (∀ x ∈ logs, x ∈ all) →
      Settled db₀ event used run.live.newId (prior ++ logs) minted db') := by
    intro logs minted db' log minted' hinv hminted hused hall
    rw [← List.append_assoc]
    refine (hinv (fun x hx => hall x (by simp [hx]))).step honly hfeed (fun x hx => ?_)
      (hall log (by simp)) hinjective hfresh hminted hused
    rcases List.mem_append.mp hx with hx | hx
    · exact hprior x hx
    · exact hall x (by simp [hx])
  -- the last write of a run touches the watermark only
  have hadvance : ∀ logs minted db' (adv : AdvanceReconcileStateArgs),
      ((∀ x ∈ logs, x ∈ all) →
        Settled db₀ event used run.live.newId (prior ++ logs) minted db') →
      (∀ x ∈ logs, x ∈ all) →
        Settled db₀ event used run.live.newId (prior ++ logs) minted
          (db'.advanceReconcileState adv) := by
    intro logs minted db' adv hinv hall
    obtain ⟨hevents, hids, hkeys, htaken, htotal⟩ := hinv hall
    exact ⟨hevents, hids, hkeys, htaken, htotal⟩
  obtain ⟨minted, hinv⟩ := LiveRun.invariant_of_ends hends hrow (fun _ => by simpa using h) hadvance
  exact ⟨minted, hinv hdecided⟩

/-- Whatever the next run mints, the ids stored so far are used ones. -/
theorem Settled.next {newId' : Nat → String} (h : Settled db₀ event used newId logs minted db) :
    Settled db₀ event (fun id => used id ∨ ∃ m, id = newId m) newId' logs 0 db := by
  refine ⟨h.events, fun row hrow => .inl ?_, h.keys, h.taken, h.total⟩
  rcases h.ids row hrow with hused | ⟨m, -, hid⟩
  · exact .inl hused
  · exact .inr ⟨m, hid⟩

/-- The true-ups of a ledger row after any sequence of live runs that end: one
    difference for each distinct row that joined. -/
theorem adjusted_liveRuns (honly : OnlyRow db₀ event) (hfeed : FeedOf db₀ event all)
    {runs : List LiveRun} {prior : List GatewayLogRow}
    (h : ∀ newId, Settled db₀ event used newId prior 0 db) (hprior : ∀ x ∈ prior, x ∈ all)
    (hall : ∀ x ∈ decidedBy db runs, x ∈ all) (hids : FreshIds used runs)
    (hends : EveryStep Db.liveRun (fun db run => run.Ends db) db runs) :
    (runAll Db.liveRun db runs).adjusted event =
      ∑ log ∈ joinedRows event (prior ++ decidedBy db runs),
        (log.cost - event.ledgerEstimate.charged) := by
  induction runs generalizing db used prior with
  | nil => simpa [decidedBy] using (h (fun _ => "")).total
  | cons run rest ih =>
    obtain ⟨hinjective, hfresh, hrest⟩ := hids
    have hdecided : ∀ x ∈ run.decided db, x ∈ all := fun x hx => hall x (by simp [decidedBy, hx])
    -- one run keeps the settled state, with its rows added to those decided before
    obtain ⟨minted, hrun⟩ := (h run.live.newId).liveRun honly hfeed hprior hdecided hinjective
      hfresh hends.1
    have := ih (fun newId => hrun.next) (fun x hx => (List.mem_append.mp hx).elim (hprior x)
      (hdecided x)) (fun x hx => hall x (by simp [decidedBy, hx])) hrest hends.2
    rwa [List.append_assoc] at this

end

/-! ## Any sequence of runs -/

/-- One difference for each row and the estimate once make the costs exactly when
    the estimate is counted once, or is zero. -/
theorem total_eq_iff (rows : Finset GatewayLogRow) (charged : Int) :
    charged + ∑ log ∈ rows, (log.cost - charged) = ∑ log ∈ rows, log.cost ↔
      rows.card = 1 ∨ charged = 0 := by
  rw [Finset.sum_sub_distrib, Finset.sum_const, nsmul_eq_mul]
  have hone : rows.card = 1 ↔ (rows.card : Int) - 1 = 0 := by omega
  rw [hone, ← mul_eq_zero]
  constructor <;> intro h <;> linarith

/-- A ledger row has not been trued up before the runs. -/
def NotTruedUp (db : Db) (event : UsageEventRow) : Prop :=
  ∀ row ∈ db.usageAdjustments, row.usageEventId ≠ some event.id

/-- After any sequence of live runs that end, in any order and with any repetition
    of the rows they decide, the charge of a ledger row comes to the cost of the
    gateway rows that joined it exactly when one row joined, or nothing had been
    charged. -/
theorem settledCharge_eq_iff {db₀ : Db} {event : UsageEventRow} {runs : List LiveRun}
    (honly : OnlyRow db₀ event) (hnew : NotTruedUp db₀ event)
    (hfeed : FeedOf db₀ event (decidedBy db₀ runs))
    (hids : FreshIds (fun id => ∃ row ∈ db₀.usageAdjustments, row.id = id) runs)
    (hends : EveryStep Db.liveRun (fun db run => run.Ends db) db₀ runs) :
    (runAll Db.liveRun db₀ runs).settledCharge event =
        ∑ log ∈ joinedRows event (decidedBy db₀ runs), log.cost ↔
      (joinedRows event (decidedBy db₀ runs)).card = 1 ∨ event.ledgerEstimate.charged = 0 := by
  have hzero : db₀.adjusted event = 0 :=
    Table.sumWhere_eq_zero (fun row hrow hid => absurd (eq_of_beq hid) (hnew row hrow))
  have hstart : ∀ newId, Settled db₀ event (fun id => ∃ row ∈ db₀.usageAdjustments, row.id = id)
      newId [] 0 db₀ := fun newId =>
    ⟨rfl, fun row hrow => .inl ⟨row, hrow, rfl⟩, fun row hrow => .inl hrow, by simp,
      by simpa [joinedRows] using hzero⟩
  have htotal := adjusted_liveRuns honly hfeed hstart (by simp) (fun x hx => hx) hids hends
  rw [List.nil_append] at htotal
  rw [Db.settledCharge_eq, htotal]
  exact total_eq_iff _ _

/-! ## A retried request -/

/-- The first attempt failed and is logged at no cost, the second cost what was
    estimated: the first row takes the whole charge back. -/
theorem settledCharge_retried :
    let runs := [billedRun [billedLog "log-1" 0, billedLog "log-2" 100] "a" 20]
    (runAll Db.liveRun chargedStore runs).settledCharge chargedEvent = 0 ∧
    ∑ log ∈ joinedRows chargedEvent (decidedBy chargedStore runs), log.cost = 100 := by
  decide +kernel

/-- A request with one gateway row comes to its cost. -/
theorem settledCharge_single :
    (runAll Db.liveRun chargedStore [billedRun [billedLog "log-1" 140] "a" 20]).settledCharge
      chargedEvent = 140 := by
  have hids : FreshIds (fun id => ∃ row ∈ chargedStore.usageAdjustments, row.id = id)
      [billedRun [billedLog "log-1" 140] "a" 20] := by
    exact ⟨newId_billedRun_injective _ "a" 20,
      by simp [chargedStore, Db.withAccount, Db.empty], trivial⟩
  have hsum : ∑ log ∈ joinedRows chargedEvent (decidedBy chargedStore
      [billedRun [billedLog "log-1" 140] "a" 20]), log.cost = 140 := by decide +kernel
  have hends : (billedRun [billedLog "log-1" 140] "a" 20).Ends chargedStore := by decide +kernel
  rw [← hsum]
  refine (settledCharge_eq_iff ⟨by decide +kernel, by decide +kernel⟩ ?_
    ⟨by decide +kernel, by decide +kernel⟩ hids ⟨hends, trivial⟩).mpr
    (.inl (by decide +kernel))
  simp [NotTruedUp, chargedStore, Db.withAccount, Db.empty]

end ControlPlane
