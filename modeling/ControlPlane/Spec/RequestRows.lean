import ControlPlane.Model.StoreD1

/-!
# The ledger rows of one request

A call that records a request may be attempted again after it was cut anywhere, and each
attempt mints a row id of its own. The unique key of the ledger lets one of the rows in.

## Key results

- `recordUsage_kept`: no statement of `recordUsage` makes a second row or changes the first
- `insertEvent_mine`: after its insert there is a row
- `recordUsage_wp`: both, as one crash triple
-/

namespace ControlPlane

open Script

/-- The rows that carry the request id or an id that was minted for it. -/
def Db.mine (minted : List String) (requestId : String) (db : Db) : List UsageEventRow :=
  db.usageEvents.filter fun row => row.requestId = requestId || minted.contains row.id

/-- No such row, or one that satisfies `P`. -/
def OneRow (P : UsageEventRow → Prop) (rows : List UsageEventRow) : Prop :=
  rows = [] ∨ ∃ row, rows = [row] ∧ P row

/-- There is at most one row. -/
theorem OneRow.length_le {P : UsageEventRow → Prop} {rows : List UsageEventRow}
    (h : OneRow P rows) : rows.length ≤ 1 := by
  rcases h with hnone | ⟨row, hrow, -⟩
  · exact hnone ▸ Nat.zero_le 1
  · exact hrow ▸ le_rfl

/-- And it is as it should be. -/
theorem OneRow.of_mem {P : UsageEventRow → Prop} {rows : List UsageEventRow} (h : OneRow P rows)
    {row : UsageEventRow} (hrow : row ∈ rows) : P row := by
  rcases h with hnone | ⟨row', hrow', hP⟩
  · exact absurd (hnone ▸ hrow) List.not_mem_nil
  · obtain rfl := List.mem_singleton.mp (hrow' ▸ hrow)
    exact hP

/-- There is exactly one row as soon as there is any. -/
theorem OneRow.length_iff {P : UsageEventRow → Prop} {rows : List UsageEventRow}
    (h : OneRow P rows) : rows.length = 1 ↔ rows ≠ [] := by
  rcases h with rfl | ⟨row, rfl, -⟩ <;> simp

/-- From one row at most to one row at most, and a row that is there stays. -/
def Kept (minted : List String) (requestId : String) (P : UsageEventRow → Prop) (db db' : Db) :
    Prop :=
  OneRow P (db.mine minted requestId) → OneRow P (db'.mine minted requestId) ∧
    (db.mine minted requestId ≠ [] → db'.mine minted requestId = db.mine minted requestId)

section kept

variable {minted : List String} {requestId : String} {P : UsageEventRow → Prop}

/-- The same rows are kept rows. -/
theorem Kept.of_mine {db db' : Db} (h : db'.mine minted requestId = db.mine minted requestId) :
    Kept minted requestId P db db' := by
  intro hone
  rw [h]
  exact ⟨hone, fun _ => rfl⟩

/-- Rows are kept where nothing happens. -/
theorem Kept.refl (db : Db) : Kept minted requestId P db db := .of_mine rfl

/-- Kept twice is kept. -/
theorem Kept.trans {a b c : Db} (hab : Kept minted requestId P a b)
    (hbc : Kept minted requestId P b c) : Kept minted requestId P a c := by
  intro hone
  obtain ⟨hone, hsame⟩ := hab hone
  obtain ⟨hone, hsame'⟩ := hbc hone
  refine ⟨hone, fun hne => ?_⟩
  have hb := hsame hne
  rw [← hb] at hne
  rw [hsame' hne, hb]

/-- A request's rows are those with its id, or with one minted for it. -/
theorem mem_mine {db : Db} {row : UsageEventRow} : row ∈ db.mine minted requestId ↔
    row ∈ db.usageEvents ∧ (row.requestId = requestId ∨ row.id ∈ minted) := by
  simp [Db.mine]

variable {event : UsageEvent} {createdAt : Int}

/-- The insert finds the session's row, or writes it. -/
theorem insertEvent_kept (hid : event.id ∈ minted) (hrequest : event.requestId = requestId)
    (hP : P (event.row createdAt))
    (hown : ∀ row, P row → row.clientId = event.clientId ∧ row.requestId = requestId) (db : Db) :
    Kept minted requestId P db (db.insertEvent (event.row createdAt)).1 := by
  intro hone
  rcases Table.insertOrIgnore_cases Db.eventConflict (event.row createdAt) db.usageEvents with
    ⟨hignored, -⟩ | ⟨hlanded, hfree⟩
  · have hsame : (db.insertEvent (event.row createdAt)).1 = db := by
      rw [Db.insertEvent, hignored]
    rw [hsame]
    exact ⟨hone, fun _ => rfl⟩
  · have hmine : (db.insertEvent (event.row createdAt)).1.mine minted requestId =
        db.mine minted requestId ++ [event.row createdAt] := by
      have hrow : (event.row createdAt).id ∈ minted := hid
      simp [Db.mine, Db.insertEvent, hlanded, List.filter_append, hrow]
    have hnone : db.mine minted requestId = [] := by
      rcases hone with hnone | ⟨row, hrow, hProw⟩
      · exact hnone
      · -- a row of the session would have been in the way
        have hmem : row ∈ db.usageEvents := (mem_mine.mp (hrow ▸ List.mem_singleton_self row)).1
        have hconflict := hfree row hmem
        obtain ⟨hclient, hreq⟩ := hown row hProw
        have hreq' : (event.row createdAt).requestId = row.requestId := hrequest.trans hreq.symm
        have hclient' : (event.row createdAt).clientId = row.clientId := hclient.symm
        simp [Db.eventConflict, hreq', hclient'] at hconflict
    rw [hmine, hnone]
    exact ⟨.inr ⟨_, rfl, hP⟩, fun hne => absurd rfl hne⟩

/-- Counting does not touch the rows. -/
theorem advanceCounters_mine (event : UsageEvent) :
    Steps (fun db db' => db'.mine minted requestId = db.mine minted requestId)
      (advanceCounters event) := by
  unfold advanceCounters advanceSpent
  apply Steps.bind
  · apply Steps.exec
    intro db
    rfl
  · intro _
    split
    · apply Steps.exec
      intro db
      rfl
    · exact .done ()

/-- Recording the request's own row keeps the others. -/
theorem recordUsage_kept (hid : event.id ∈ minted) (hrequest : event.requestId = requestId)
    (hP : P (event.row createdAt))
    (hown : ∀ row, P row → row.clientId = event.clientId ∧ row.requestId = requestId) :
    Steps (Kept minted requestId P) (recordUsage event createdAt) := by
  refine (Steps.exec fun db => insertEvent_kept hid hrequest hP hown db).bind fun insert => ?_
  split
  · exact (advanceCounters_mine event).mono fun _ _ => .of_mine
  · exact .done ()

/-- After the insert there is a row. -/
theorem insertEvent_mine (hid : event.id ∈ minted) (hrequest : event.requestId = requestId)
    (db : Db) : (db.insertEvent (event.row createdAt)).1.mine minted requestId ≠ [] := by
  have hrow : (event.row createdAt).id ∈ minted := hid
  rcases Table.insertOrIgnore_cases Db.eventConflict (event.row createdAt) db.usageEvents with
    ⟨hignored, row, hmem, hconflict⟩ | ⟨hlanded, -⟩
  -- the row was not inserted because one of the request was there
  · have hmine : row ∈ db.mine minted requestId := by
      refine mem_mine.mpr ⟨hmem, ?_⟩
      simp only [Db.eventConflict, Bool.or_eq_true, Bool.and_eq_true, beq_iff_eq] at hconflict
      rcases hconflict with hid' | ⟨-, hreq⟩
      · exact .inr (hid' ▸ hrow)
      · exact .inl (hreq.trans hrequest)
    rw [Db.insertEvent, hignored]
    exact List.ne_nil_of_mem hmine
  -- or it was inserted, and is one
  · have hmine : event.row createdAt ∈ (db.insertEvent (event.row createdAt)).1.mine minted requestId := by
      refine mem_mine.mpr ⟨?_, .inr hrow⟩
      rw [Db.insertEvent, hlanded]
      exact List.mem_append_right _ (List.mem_singleton_self _)
    exact List.ne_nil_of_mem hmine

/-- What a recording call keeps of the ledger it found: one row at most, the row that was
    there, and the accounts. -/
structure RowKept (minted : List String) (requestId : String) (P : UsageEventRow → Prop)
    (db db' : Db) : Prop where
  one : OneRow P (db'.mine minted requestId)
  stays : db.mine minted requestId ≠ [] → db'.mine minted requestId ≠ []
  accounts : ∀ a, (db'.accounts a).isSome = (db.accounts a).isSome

/-- One row is kept where nothing happens. -/
theorem RowKept.refl {db : Db} (hone : OneRow P (db.mine minted requestId)) :
    RowKept minted requestId P db db :=
  ⟨hone, id, fun _ => rfl⟩

variable (minted requestId) in
/-- The counters leave the ledger and the accounts in place. -/
theorem advanceCounters_rowKept (event : UsageEvent) :
    Steps (fun db db' => db'.mine minted requestId = db.mine minted requestId ∧
      ∀ a, (db'.accounts a).isSome = (db.accounts a).isSome) (advanceCounters event) := by
  unfold advanceCounters advanceSpent
  refine (Steps.exec fun db => ⟨rfl, fun a => rfl⟩).bind fun _ => ?_
  split
  · refine Steps.exec fun db => ⟨rfl, fun a => ?_⟩
    dsimp only [Db.updateAccount]
    split <;> simp
  · exact .done ()

/-- The triple of a recording call: whatever becomes of it, one row at most; and at its
    end there is one. -/
theorem recordUsage_wp (hid : event.id ∈ minted) (hrequest : event.requestId = requestId)
    (hP : P (event.row createdAt))
    (hown : ∀ row, P row → row.clientId = event.clientId ∧ row.requestId = requestId) {db : Db}
    (hone : OneRow P (db.mine minted requestId)) :
    (recordUsage event createdAt).wp (RowKept minted requestId P db)
      (fun _ db' => RowKept minted requestId P db db' ∧ db'.mine minted requestId ≠ []) db := by
  have hne : (db.insertEvent (event.row createdAt)).1.mine minted requestId ≠ [] :=
    insertEvent_mine hid hrequest db
  have hkept : RowKept minted requestId P db (db.insertEvent (event.row createdAt)).1 :=
    ⟨(insertEvent_kept hid hrequest hP hown db hone).1, fun _ => hne, fun _ => rfl⟩
  simp only [recordUsage, bind_eq_bind, wp_bind, wp_exec]
  refine ⟨hkept, ?_⟩
  split
  · refine (advanceCounters_rowKept minted requestId event).wp ?_ (fun _ h => h.1) ⟨hkept, hne⟩
    rintro a b ⟨hmine, haccounts⟩ ⟨ha, hnea⟩
    rw [hmine]
    exact ⟨⟨hmine ▸ ha.one, fun _ => hmine ▸ hnea, fun x => (haccounts x).trans (ha.accounts x)⟩, hnea⟩
  · exact ⟨hkept, hne⟩

end kept

end ControlPlane
