import ControlPlane.Spec.OperatorRate

/-!
# What a catalog refresh promises

A refresh decides per chat model whether a rate is due: the gateway lists one that can be
used, nobody protects the stored one, and the two differ. A preview and a live run take the
same decision. What a live run stores is no longer due, for the rate is the gateway's now,
so that neither a second entry of the same model nor a second run stores it again.

## Key results

- `refreshEntry_of_due` / `refreshEntry_of_not_due`: the body of the loop, by the decision
- `marks_refreshLoop`: the models a run reports, and their rates
- `not_due_refreshLoop`: after a live run nothing is due
- `refresh_contract`: preview, partition, frame and rerun of `runCatalogRefresh`
-/

namespace ControlPlane

/-! ## The decision -/

section due

variable (args : CatalogRefreshArgs) (entry : PricedEntry) (prev : Option ModelPriceRow)

/-- The rate that is due to an entry over the row stored for it, if there is one. -/
def dueRate : Option (Nat × Nat) :=
  (gatewayRate entry.id args.models).filter fun rate =>
    !((prev.any fun row => isOperatorProtectedNote row.note) && !args.force) &&
      !sameRate entry prev rate.1 rate.2

/-- What a run that finds a rate due reports of it. -/
def CatalogRefreshArgs.marks : CatalogRefreshAction := if args.dryRun then .wouldUpdate else .updated

/-- What a live run stores. -/
def dueRow (modelId : String) (rate : Nat × Nat) : ModelPriceRow :=
  ⟨modelId, rate.1, rate.2, prev.bind (·.unitMicroUsd), args.pricedAt,
    some (GATEWAY_COMPAT_NOTE_PREFIX ++ ":" ++ args.pricedAt)⟩

end due

section entry

variable {args : CatalogRefreshArgs} {entry : PricedEntry} {prev : Option ModelPriceRow}
  {rate : Nat × Nat}

/-- A rate is due exactly when the gateway has it, nobody protects the row and it is another
    one. -/
theorem dueRate_eq_some : dueRate args entry prev = some rate ↔
    gatewayRate entry.id args.models = some rate ∧
      ((prev.any fun row => isOperatorProtectedNote row.note) && !args.force) = false ∧
      sameRate entry prev rate.1 rate.2 = false := by
  simp only [dueRate, Option.filter_eq_some_iff, Bool.and_eq_true, Bool.not_eq_true']

/-- A rate that is due is the one the gateway lists. -/
theorem gatewayRate_of_due (h : dueRate args entry prev = some rate) :
    gatewayRate entry.id args.models = some rate :=
  (dueRate_eq_some.mp h).1

/-- Only one rate can be due to the entries of a model. -/
theorem dueRate_unique {entry' : PricedEntry} {prev' : Option ModelPriceRow} {rate' : Nat × Nat}
    (hid : entry.id = entry'.id) (h : dueRate args entry prev = some rate)
    (h' : dueRate args entry' prev' = some rate') : rate = rate' := by
  apply Option.some.inj
  rw [← gatewayRate_of_due h, ← gatewayRate_of_due h', hid]

/-- The body of the loop where a rate is due. -/
theorem refreshEntry_of_due (h : dueRate args entry prev = some rate) :
    ∃ gatewayId, refreshEntry args entry prev =
      (refreshRow entry prev (some gatewayId) args.marks (some rate.1) (some rate.2),
        if args.dryRun = true then none else some (dueRow args prev entry.id rate)) := by
  obtain ⟨hlisted, howned, hother⟩ := dueRate_eq_some.mp h
  obtain ⟨gatewayId, hentry⟩ := refreshEntry_of_listed prev hlisted
  refine ⟨gatewayId, ?_⟩
  rw [hentry, if_neg (by simp [howned]), if_neg (by simp [hother]), CatalogRefreshArgs.marks]
  by_cases hdry : args.dryRun = true
  · simp [hdry]
  · simp [hdry, dueRow]

/-- A live run stores a rate that is due. -/
theorem stored_of_due (hlive : args.dryRun = false) (h : dueRate args entry prev = some rate) :
    (refreshEntry args entry prev).2 = some (dueRow args prev entry.id rate) := by
  obtain ⟨gatewayId, hentry⟩ := refreshEntry_of_due h
  rw [hentry]
  exact if_neg (by simp [hlive])

/-- The body of the loop where none is. -/
theorem refreshEntry_of_not_due (h : dueRate args entry prev = none) :
    (refreshEntry args entry prev).2 = none ∧
      (refreshEntry args entry prev).1.action ≠ .wouldUpdate ∧
      (refreshEntry args entry prev).1.action ≠ .updated := by
  cases hlisted : gatewayRate entry.id args.models with
  | none =>
    obtain ⟨gatewayId, action, gatewayIn, gatewayOut, hentry, haction⟩ :=
      refreshEntry_of_unlisted prev hlisted
    rw [hentry]
    exact ⟨rfl, haction⟩
  | some rate =>
    obtain ⟨gatewayId, hentry⟩ := refreshEntry_of_listed prev hlisted
    rw [hentry]
    -- the row is protected, or its rate is the gateway's
    by_cases howned : ((prev.any fun row => isOperatorProtectedNote row.note) &&
        !args.force) = true
    · rw [if_pos howned]
      simp [refreshRow]
    · have hsame : sameRate entry prev rate.1 rate.2 = true := by
        by_contra hother
        simp [dueRate, hlisted, howned, hother] at h
      rw [if_neg howned, if_pos hsame]
      simp [refreshRow]

/-- Every row reports of its own entry. -/
@[simp] theorem refreshEntry_row_modelId (args : CatalogRefreshArgs) (entry : PricedEntry)
    (prev : Option ModelPriceRow) : (refreshEntry args entry prev).1.modelId = entry.id := by
  cases hlisted : gatewayRate entry.id args.models with
  | none =>
    obtain ⟨gatewayId, action, gatewayIn, gatewayOut, hentry, -⟩ :=
      refreshEntry_of_unlisted prev hlisted
    rw [hentry]
    rfl
  | some rate =>
    obtain ⟨gatewayId, hentry⟩ := refreshEntry_of_listed prev hlisted
    rw [hentry]
    repeat' split
    all_goals rfl

/-- What was stored is not due, at whatever day and by whichever entry of the model. -/
theorem not_due_dueRow {args' : CatalogRefreshArgs} {entry' : PricedEntry}
    (hmodels : args'.models = args.models) (hid : entry'.id = entry.id)
    (h : dueRate args entry prev = some rate) :
    dueRate args' entry' (some (dueRow args prev entry.id rate)) = none := by
  have hlisted : gatewayRate entry'.id args'.models = some rate := by
    rw [hmodels, hid]
    exact gatewayRate_of_due h
  rw [dueRate, hlisted]
  simp [sameRate, dueRow]

/-- A run that forces no more finds no more due. -/
theorem not_due_of_force {args' : CatalogRefreshArgs} (hmodels : args'.models = args.models)
    (hforce : args'.force = true → args.force = true) (h : dueRate args entry prev = none) :
    dueRate args' entry prev = none := by
  by_contra hdue
  obtain ⟨rate, hrate⟩ := Option.ne_none_iff_exists'.mp hdue
  obtain ⟨hlisted, howned, hother⟩ := dueRate_eq_some.mp hrate
  -- due then would be due now, for the note is protected either way
  have hdue' : dueRate args entry prev = some rate := by
    refine dueRate_eq_some.mpr ⟨hmodels ▸ hlisted, ?_, hother⟩
    cases hf : args'.force with
    | true => simp [hforce hf]
    | false =>
      rw [hf] at howned
      have hnote : (prev.any fun row => isOperatorProtectedNote row.note) = false := by
        simpa using howned
      rw [hnote]
      rfl
  rw [h] at hdue'
  cases hdue'

end entry

/-! ## The loop -/

/-- Among some rows, one reports this action of a model, at this rate. -/
def Marks (rows : List CatalogRefreshRow) (action : CatalogRefreshAction) (modelId : String)
    (rate : Nat × Nat) : Prop :=
  ∃ row ∈ rows, row.modelId = modelId ∧ row.action = action ∧
    row.gatewayInput = some rate.1 ∧ row.gatewayOutput = some rate.2

/-- One of some entries is an entry of the model, and the rate is due to it. -/
def Due (args : CatalogRefreshArgs) (entries : List PricedEntry) (prev : Option ModelPriceRow)
    (modelId : String) (rate : Nat × Nat) : Prop :=
  ∃ entry ∈ entries, entry.id = modelId ∧ dueRate args entry prev = some rate

section loop

variable {args : CatalogRefreshArgs} {entry : PricedEntry} {entries : List PricedEntry}
  {prices : ModelPrices} {modelId : String} {rate : Nat × Nat}

/-- A row is marked by the first row or by one behind it. -/
theorem marks_cons {row : CatalogRefreshRow} {rows : List CatalogRefreshRow}
    {action : CatalogRefreshAction} : Marks (row :: rows) action modelId rate ↔
      (row.modelId = modelId ∧ row.action = action ∧ row.gatewayInput = some rate.1 ∧
        row.gatewayOutput = some rate.2) ∨ Marks rows action modelId rate := by
  simp only [Marks, List.exists_mem_cons_iff]

/-- A rate is due for the first entry or for one behind it. -/
theorem due_cons {prev : Option ModelPriceRow} : Due args (entry :: entries) prev modelId rate ↔
    entry.id = modelId ∧ dueRate args entry prev = some rate ∨
      Due args entries prev modelId rate := by
  simp only [Due, List.exists_mem_cons_iff]

/-- The rows are those of the entries, in their order. -/
theorem modelIds_refreshLoop (args : CatalogRefreshArgs) (entries : List PricedEntry)
    (existing : Overrides) (prices : ModelPrices) :
    (refreshLoop args entries existing prices).1.map (·.modelId) = entries.map (·.id) := by
  induction entries generalizing existing prices with
  | nil => rfl
  | cons entry entries ih =>
    rw [refreshLoop]
    cases hstep : refreshEntry args entry (existing entry.id) with
    | mk row next =>
      -- the row of an entry bears the entry's id
      have hid : row.modelId = entry.id := by
        rw [← refreshEntry_row_modelId args entry (existing entry.id), hstep]
      cases next with
      | none => simp [hid, ih]
      | some next => simp [hid, ih]

/-- A preview stores nothing. -/
theorem refreshLoop_dry (hdry : args.dryRun = true) (entries : List PricedEntry)
    (existing : Overrides) : (refreshLoop args entries existing prices).2 = prices := by
  induction entries with
  | nil => rfl
  | cons entry entries ih =>
    -- a dry run finds the rate and does not hand it on
    have hnone : (refreshEntry args entry (existing entry.id)).2 = none := by
      cases hdue : dueRate args entry (existing entry.id) with
      | none => exact (refreshEntry_of_not_due hdue).1
      | some rate =>
        obtain ⟨gatewayId, hstep⟩ := refreshEntry_of_due hdue
        rw [hstep]
        exact if_pos hdry
    rw [refreshLoop_cons_none hnone]
    exact ih

/-- Where nothing is due, nothing is stored and nothing is reported as stored. -/
theorem refreshLoop_not_due
    (h : ∀ entry ∈ entries, dueRate args entry (prices.getModelPrice entry.id) = none) :
    (refreshLoop args entries prices.getModelPrice prices).2 = prices ∧
      ∀ row ∈ (refreshLoop args entries prices.getModelPrice prices).1,
        row.action ≠ .wouldUpdate ∧ row.action ≠ .updated := by
  induction entries with
  | nil => exact ⟨rfl, fun row hrow => absurd hrow List.not_mem_nil⟩
  | cons entry entries ih =>
    rw [List.forall_mem_cons] at h
    obtain ⟨hnone, haction⟩ := refreshEntry_of_not_due h.1
    obtain ⟨htable, hrows⟩ := ih h.2
    rw [refreshLoop_cons_none hnone]
    exact ⟨htable, List.forall_mem_cons.mpr ⟨haction, hrows⟩⟩

/-- Once a rate is stored, no entry of its model is due. -/
theorem not_due_putModelPrice
    (h : dueRate args entry (prices.getModelPrice entry.id) = some rate) (entries : List PricedEntry)
    (rate' : Nat × Nat) :
    ¬ Due args entries
      ((prices.putModelPrice (dueRow args (prices.getModelPrice entry.id) entry.id rate)).getModelPrice
        entry.id) entry.id rate' := by
  rintro ⟨entry', -, hid, hdue⟩
  have hput : (prices.putModelPrice
      (dueRow args (prices.getModelPrice entry.id) entry.id rate)).getModelPrice entry.id =
      some (dueRow args (prices.getModelPrice entry.id) entry.id rate) :=
    (ModelPrices.getModelPrice_putModelPrice ..).trans (if_pos rfl)
  rw [hput, not_due_dueRow rfl hid h] at hdue
  cases hdue

/-- A row stored for one model is not read for another. -/
theorem getModelPrice_put_other {prev : Option ModelPriceRow} (h : modelId ≠ entry.id) :
    (prices.putModelPrice (dueRow args prev entry.id rate)).getModelPrice modelId =
      prices.getModelPrice modelId :=
  (ModelPrices.getModelPrice_putModelPrice ..).trans (if_neg h)

/-- A run reports a model at a rate exactly when that rate was due at its start. -/
theorem marks_refreshLoop (args : CatalogRefreshArgs) (entries : List PricedEntry)
    (prices : ModelPrices) (modelId : String) (rate : Nat × Nat) :
    Marks (refreshLoop args entries prices.getModelPrice prices).1 args.marks modelId rate ↔
      Due args entries (prices.getModelPrice modelId) modelId rate := by
  induction entries generalizing prices with
  | nil => simp [Marks, Due, refreshLoop]
  | cons entry entries ih =>
    cases hdue : dueRate args entry (prices.getModelPrice entry.id) with
    | none =>
      obtain ⟨hnone, hwould, hupdated⟩ := refreshEntry_of_not_due hdue
      -- a row that stores nothing is marked neither way
      have haction : (refreshEntry args entry (prices.getModelPrice entry.id)).1.action ≠
          args.marks := by
        unfold CatalogRefreshArgs.marks
        split
        · exact hwould
        · exact hupdated
      have hhead : ¬ (entry.id = modelId ∧
          dueRate args entry (prices.getModelPrice modelId) = some rate) := by
        rintro ⟨rfl, hrate⟩
        rw [hdue] at hrate
        cases hrate
      rw [refreshLoop_cons_none hnone, marks_cons, due_cons, ih, or_iff_right hhead,
        or_iff_right fun h => haction h.2.1]
    | some due =>
      obtain ⟨gatewayId, hstep⟩ := refreshEntry_of_due hdue
      -- the row of this entry reports its due rate
      have hhead : ((refreshEntry args entry (prices.getModelPrice entry.id)).1.modelId = modelId ∧
          (refreshEntry args entry (prices.getModelPrice entry.id)).1.action = args.marks ∧
          (refreshEntry args entry (prices.getModelPrice entry.id)).1.gatewayInput = some rate.1 ∧
          (refreshEntry args entry (prices.getModelPrice entry.id)).1.gatewayOutput =
            some rate.2) ↔
          entry.id = modelId ∧
            dueRate args entry (prices.getModelPrice modelId) = some rate := by
        rw [hstep]
        constructor
        · rintro ⟨rfl, -, hin, hout⟩
          refine ⟨rfl, hdue.trans (congrArg some ?_)⟩
          exact Prod.ext (Option.some.inj hin) (Option.some.inj hout)
        · rintro ⟨rfl, hrate⟩
          obtain rfl := Option.some.inj (hdue.symm.trans hrate)
          exact ⟨rfl, rfl, rfl, rfl⟩
      -- a preview goes on with the same table
      by_cases hdry : args.dryRun = true
      · rw [refreshLoop_cons_none (by rw [hstep]; exact if_pos hdry), marks_cons, hhead, due_cons,
          ih]
      · rw [refreshLoop_cons_some (stored_of_due (by simpa using hdry) hdue), marks_cons, hhead,
          due_cons, ih]
        by_cases hid : modelId = entry.id
        · -- a later entry of the model has only the same rate due, and finds it stored
          subst hid
          rw [or_iff_left (not_due_putModelPrice hdue entries rate)]
          constructor
          · exact .inl
          · rintro (h | ⟨entry', -, hid', hrate⟩)
            · exact h
            · exact ⟨rfl, hdue.trans (congrArg some (dueRate_unique hid'.symm hdue hrate))⟩
        · rw [getModelPrice_put_other hid]

/-- A run leaves every model to which nothing is due. -/
theorem getModelPrice_refreshLoop_kept (args : CatalogRefreshArgs) (entries : List PricedEntry)
    {prices : ModelPrices} (h : ∀ rate, ¬ Due args entries (prices.getModelPrice modelId) modelId rate) :
    ((refreshLoop args entries prices.getModelPrice prices).2).getModelPrice modelId =
      prices.getModelPrice modelId := by
  -- the table before each entry is the table of the run so far
  induction entries generalizing prices with
  | nil => rfl
  | cons entry entries ih =>
    simp only [due_cons, not_or] at h
    cases hnext : (refreshEntry args entry (prices.getModelPrice entry.id)).2 with
    | none =>
      rw [refreshLoop_cons_none hnext]
      exact ih fun rate => (h rate).2
    | some next =>
      -- a row is written only for a model whose rate is due
      have hother : modelId ≠ entry.id := by
        rintro rfl
        cases hdue : dueRate args entry (prices.getModelPrice entry.id) with
        | none =>
          rw [(refreshEntry_of_not_due hdue).1] at hnext
          cases hnext
        | some rate => exact (h rate).1 ⟨rfl, hdue⟩
      have hkept : (prices.putModelPrice next).getModelPrice modelId =
          prices.getModelPrice modelId := by
        refine (ModelPrices.getModelPrice_putModelPrice ..).trans (if_neg ?_)
        rw [refreshEntry_modelId hnext]
        exact hother
      rw [refreshLoop_cons_some hnext]
      refine (ih ?_).trans hkept
      rw [hkept]
      exact fun rate => (h rate).2

/-- A live run stores what was due at its start. -/
theorem getModelPrice_refreshLoop_due (hlive : args.dryRun = false)
    (h : Due args entries (prices.getModelPrice modelId) modelId rate) :
    ((refreshLoop args entries prices.getModelPrice prices).2).getModelPrice modelId =
      some (dueRow args (prices.getModelPrice modelId) modelId rate) := by
  induction entries generalizing prices with
  | nil =>
    obtain ⟨entry, hmem, -⟩ := h
    cases hmem
  | cons entry entries ih =>
    rw [due_cons] at h
    cases hdue : dueRate args entry (prices.getModelPrice entry.id) with
    | none =>
      rw [refreshLoop_cons_none (refreshEntry_of_not_due hdue).1]
      rcases h with ⟨rfl, hrate⟩ | hrest
      · rw [hdue] at hrate
        cases hrate
      · exact ih hrest
    | some due =>
      rw [refreshLoop_cons_some (stored_of_due hlive hdue)]
      by_cases hid : modelId = entry.id
      · -- stored here, and left alone by the rest of the loop
        subst hid
        have hrate : due = rate := by
          rcases h with ⟨-, hrate⟩ | ⟨entry', -, hid', hrate⟩
          · exact dueRate_unique rfl hdue hrate
          · exact dueRate_unique hid'.symm hdue hrate
        subst hrate
        rw [getModelPrice_refreshLoop_kept args entries (not_due_putModelPrice hdue entries)]
        exact (ModelPrices.getModelPrice_putModelPrice ..).trans (if_pos rfl)
      · have hkept : (prices.putModelPrice
            (dueRow args (prices.getModelPrice entry.id) entry.id due)).getModelPrice modelId =
            prices.getModelPrice modelId := getModelPrice_put_other hid
        rcases h with ⟨rfl, -⟩ | hrest
        · exact absurd rfl hid
        · rw [← hkept] at hrest
          rw [ih hrest, hkept]

/-- After a live run nothing is due, to a run that forces no more. -/
theorem not_due_refreshLoop {args' : CatalogRefreshArgs} (hlive : args.dryRun = false)
    (hmodels : args'.models = args.models) (hforce : args'.force = true → args.force = true)
    (hmem : entry ∈ entries) :
    dueRate args' entry
      (((refreshLoop args entries prices.getModelPrice prices).2).getModelPrice entry.id) =
        none := by
  by_cases hdue : ∃ rate, Due args entries (prices.getModelPrice entry.id) entry.id rate
  · obtain ⟨rate, hdue⟩ := hdue
    rw [getModelPrice_refreshLoop_due hlive hdue]
    obtain ⟨entry', -, hid, hrate⟩ := hdue
    rw [← hid] at hrate ⊢
    exact not_due_dueRow hmodels hid.symm hrate
  -- nothing was due, so nothing has changed
  · rw [getModelPrice_refreshLoop_kept args entries fun rate h => hdue ⟨rate, h⟩]
    apply not_due_of_force hmodels hforce
    cases hnone : dueRate args entry (prices.getModelPrice entry.id) with
    | none => rfl
    | some rate => exact absurd ⟨rate, entry, hmem, rfl, hnone⟩ hdue

end loop

/-! ## The counters -/

/-- Counting an action adds one to that action's count. -/
theorem of_bump (counts : CatalogRefreshCounts) (action action' : CatalogRefreshAction) :
    (counts.bump action).of action' = counts.of action' + if action = action' then 1 else 0 := by
  cases action <;> cases action' <;> rfl

/-- Counting rows adds the rows of each action. -/
theorem of_foldl_bump (rows : List CatalogRefreshRow) (counts : CatalogRefreshCounts)
    (action : CatalogRefreshAction) :
    (rows.foldl (fun counts row => counts.bump row.action) counts).of action =
      counts.of action + rows.countP (·.action = action) := by
  induction rows generalizing counts with
  | nil => rfl
  | cons row rows ih =>
    rw [List.foldl_cons, ih, of_bump, List.countP_cons]
    simp only [decide_eq_true_eq]
    omega

/-- A counter of the report counts the rows with its action. -/
theorem of_counts (report : CatalogRefreshReport) (action : CatalogRefreshAction) :
    report.counts.of action = report.count action := by
  refine (of_foldl_bump report.rows _ action).trans ?_
  cases action <;> exact Nat.zero_add _

/-- Counting an action adds one to the total. -/
theorem total_bump (counts : CatalogRefreshCounts) (action : CatalogRefreshAction) :
    (counts.bump action).total = counts.total + 1 := by
  cases action <;> simp only [CatalogRefreshCounts.bump, CatalogRefreshCounts.total] <;> omega

/-- Counting rows adds their number. -/
theorem total_foldl_bump (rows : List CatalogRefreshRow) (counts : CatalogRefreshCounts) :
    (rows.foldl (fun counts row => counts.bump row.action) counts).total =
      counts.total + rows.length := by
  induction rows generalizing counts with
  | nil => rfl
  | cons row rows ih =>
    rw [List.foldl_cons, ih, total_bump, List.length_cons]
    omega

/-- The counters together count the rows. -/
theorem total_counts (report : CatalogRefreshReport) :
    report.counts.total = report.rows.length :=
  (total_foldl_bump report.rows _).trans (Nat.zero_add _)

/-! ## The contract -/

/-- The chat models of a catalog. -/
def chatIds (catalog : List PricedEntry) : List String := (chatCatalogEntries catalog).map (·.id)

/-- The rows of a report are those of the chat models, each is counted by the counter of its
    action alone, and the six counters together count the chat models. -/
structure Partitions (catalog : List PricedEntry) (report : CatalogRefreshReport) : Prop where
  rows : report.rows.map (·.modelId) = chatIds catalog
  counted : ∀ action, report.counts.of action = report.count action
  total : report.counts.total = report.catalogChat
  chat : report.catalogChat = (chatIds catalog).length

/-- The preview and the live run of the same call. -/
def CatalogRefreshArgs.preview (args : CatalogRefreshArgs) : CatalogRefreshArgs :=
  { args with dryRun := true }

/-- The same refresh, with its writes. -/
def CatalogRefreshArgs.live (args : CatalogRefreshArgs) : CatalogRefreshArgs :=
  { args with dryRun := false }

/-- What `runCatalogRefresh` promises about its preview and its live run. -/
structure RefreshContract (catalog : List PricedEntry) (args : CatalogRefreshArgs)
    (prices : ModelPrices) : Prop where
  /-- A preview writes nothing. -/
  previewKeeps : (runCatalogRefresh catalog args.preview prices).2 = prices
  /-- It marks the models the live run updates, at the same rates. -/
  previewMarks : ∀ modelId rate,
    Marks (runCatalogRefresh catalog args.preview prices).1.rows .wouldUpdate modelId rate ↔
      Marks (runCatalogRefresh catalog args.live prices).1.rows .updated modelId rate
  /-- These are the rates the live run stores, and the unit rate stays. -/
  stored : ∀ modelId rate,
    Marks (runCatalogRefresh catalog args.live prices).1.rows .updated modelId rate →
      (runCatalogRefresh catalog args.live prices).2.getModelPrice modelId =
        some (dueRow args (prices.getModelPrice modelId) modelId rate)
  partitions : Partitions catalog (runCatalogRefresh catalog args prices).1
  /-- What a live run changes is the row of a chat model it reports as updated. -/
  changed : ∀ modelId,
    (runCatalogRefresh catalog args.live prices).2.getModelPrice modelId ≠
        prices.getModelPrice modelId →
      modelId ∈ chatIds catalog ∧
        ∃ rate, Marks (runCatalogRefresh catalog args.live prices).1.rows .updated modelId rate
  /-- No unit rate changes. -/
  unit : ∀ modelId,
    ((runCatalogRefresh catalog args.live prices).2.getModelPrice modelId).bind (·.unitMicroUsd) =
      (prices.getModelPrice modelId).bind (·.unitMicroUsd)
  /-- Run again with the same rates and no more force, on whatever day, nothing is updated. -/
  rerun : ∀ again : CatalogRefreshArgs, again.models = args.models →
    (again.force = true → args.force = true) →
    let table := (runCatalogRefresh catalog args.live prices).2
    (runCatalogRefresh catalog again table).2 = table ∧
      (runCatalogRefresh catalog again table).1.counts.of .updated = 0 ∧
      (runCatalogRefresh catalog again table).1.counts.of .wouldUpdate = 0

section contract

variable (catalog : List PricedEntry) (args : CatalogRefreshArgs) (prices : ModelPrices)

/-- The rows of a refresh are those of its loop over the chat entries. -/
theorem rows_runCatalogRefresh : (runCatalogRefresh catalog args prices).1.rows =
    (refreshLoop args (chatCatalogEntries catalog) prices.getModelPrice prices).1 := by
  simp only [runCatalogRefresh, Overrides.ofRows_listModelPrices]

/-- And so is the table it leaves. -/
theorem table_runCatalogRefresh : (runCatalogRefresh catalog args prices).2 =
    (refreshLoop args (chatCatalogEntries catalog) prices.getModelPrice prices).2 := by
  simp only [runCatalogRefresh, Overrides.ofRows_listModelPrices]

/-- What is due does not depend on whether a run is a preview. -/
theorem due_preview {prev : Option ModelPriceRow} {entries : List PricedEntry} {modelId : String}
    {rate : Nat × Nat} :
    Due args.preview entries prev modelId rate ↔ Due args.live entries prev modelId rate :=
  Iff.rfl

/-- The counts of a refresh partition its rows. -/
theorem partitions_runCatalogRefresh :
    Partitions catalog (runCatalogRefresh catalog args prices).1 := by
  have hrows : (runCatalogRefresh catalog args prices).1.rows.map (·.modelId) = chatIds catalog := by
    rw [rows_runCatalogRefresh, modelIds_refreshLoop, chatIds]
  have hlength : (runCatalogRefresh catalog args prices).1.rows.length =
      (chatCatalogEntries catalog).length := by
    rw [← List.length_map (·.modelId), hrows, chatIds, List.length_map]
  refine ⟨hrows, of_counts _, (total_counts _).trans hlength, ?_⟩
  rw [chatIds, List.length_map]
  rfl

/-- A live refresh updates exactly the rates that are due. -/
theorem marks_live {modelId : String} {rate : Nat × Nat} :
    Marks (runCatalogRefresh catalog args.live prices).1.rows .updated modelId rate ↔
      Due args.live (chatCatalogEntries catalog) (prices.getModelPrice modelId) modelId rate := by
  rw [rows_runCatalogRefresh]
  exact marks_refreshLoop args.live _ prices modelId rate

/-- A preview would update exactly the rates that are due. -/
theorem marks_preview {modelId : String} {rate : Nat × Nat} :
    Marks (runCatalogRefresh catalog args.preview prices).1.rows .wouldUpdate modelId rate ↔
      Due args.preview (chatCatalogEntries catalog) (prices.getModelPrice modelId) modelId rate := by
  rw [rows_runCatalogRefresh]
  exact marks_refreshLoop args.preview _ prices modelId rate

/-- A rate marked as updated is stored. -/
theorem stored_runCatalogRefresh {modelId : String} {rate : Nat × Nat}
    (h : Marks (runCatalogRefresh catalog args.live prices).1.rows .updated modelId rate) :
    (runCatalogRefresh catalog args.live prices).2.getModelPrice modelId =
      some (dueRow args (prices.getModelPrice modelId) modelId rate) := by
  have hlive : args.live.dryRun = false := rfl
  rw [table_runCatalogRefresh]
  exact getModelPrice_refreshLoop_due hlive ((marks_live ..).mp h)

/-- A model with no updated rate keeps its row. -/
theorem kept_runCatalogRefresh {modelId : String}
    (h : ¬ ∃ rate, Marks (runCatalogRefresh catalog args.live prices).1.rows .updated modelId rate) :
    (runCatalogRefresh catalog args.live prices).2.getModelPrice modelId =
      prices.getModelPrice modelId := by
  rw [table_runCatalogRefresh]
  apply getModelPrice_refreshLoop_kept
  intro rate hdue
  exact h ⟨rate, (marks_live ..).mpr hdue⟩

/-- For every catalog, table, list of rates, day and force flag. -/
theorem refresh_contract : RefreshContract catalog args prices where
  previewKeeps := by
    rw [table_runCatalogRefresh]
    exact refreshLoop_dry rfl _ _
  previewMarks modelId rate := by
    rw [marks_preview, marks_live, due_preview]
  stored modelId rate h := stored_runCatalogRefresh catalog args prices h
  partitions := partitions_runCatalogRefresh catalog args prices
  -- a row that changed was marked as updated
  changed modelId h := by
    by_cases hmarks : ∃ rate,
        Marks (runCatalogRefresh catalog args.live prices).1.rows .updated modelId rate
    · refine ⟨?_, hmarks⟩
      obtain ⟨rate, row, hrow, hid, -⟩ := hmarks
      rw [← (partitions_runCatalogRefresh catalog args.live prices).rows, ← hid]
      exact List.mem_map_of_mem hrow
    · exact absurd (kept_runCatalogRefresh catalog args prices hmarks) h
  unit modelId := by
    by_cases hmarks : ∃ rate,
        Marks (runCatalogRefresh catalog args.live prices).1.rows .updated modelId rate
    · obtain ⟨rate, hmarks⟩ := hmarks
      rw [stored_runCatalogRefresh catalog args prices hmarks]
      rfl
    · rw [kept_runCatalogRefresh catalog args prices hmarks]
  rerun again hmodels hforce := by
    have hlive : args.live.dryRun = false := rfl
    -- after a live run every rate of the gateway is stored
    have hnone : ∀ entry ∈ chatCatalogEntries catalog, dueRate again entry
        ((runCatalogRefresh catalog args.live prices).2.getModelPrice entry.id) = none := by
      intro entry hentry
      rw [table_runCatalogRefresh]
      exact not_due_refreshLoop hlive hmodels hforce hentry
    obtain ⟨htable, hactions⟩ := refreshLoop_not_due hnone
    rw [← rows_runCatalogRefresh] at hactions
    refine ⟨(table_runCatalogRefresh ..).trans htable, ?_, ?_⟩
    · rw [of_counts, CatalogRefreshReport.count, List.countP_eq_zero]
      intro row hrow
      simpa using (hactions row hrow).2
    · rw [of_counts, CatalogRefreshReport.count, List.countP_eq_zero]
      intro row hrow
      simpa using (hactions row hrow).1

end contract

end ControlPlane
