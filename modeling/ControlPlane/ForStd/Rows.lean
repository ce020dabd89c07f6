import Mathlib.Data.Set.Basic

/-!
# Tables whose rows stay

A table as the set of its rows, and a map from keys as the set of its entries. Between two
moments of a table that nothing is deleted from, every row before is carried to a row after,
and every row after was carried there or is new.

## Key results

- `Grows.put` / `Grows.modify`: writing one entry of a map
- `Grows.append` / `Grows.map`: writing a list of rows
- `Grows.forall_mem`: what is so of every row stays so of every row
-/

namespace Rows

variable {α κ ν : Type}

/-- Every row before is carried to a row after. -/
def Kept (R : α → α → Prop) (before after : Set α) : Prop :=
  ∀ row ∈ before, ∃ row' ∈ after, R row row'

/-- The rows of a table before and after a write, which carries them along `R`. -/
structure Grows (R : α → α → Prop) (New : α → Prop) (before after : Set α) : Prop where
  kept : Kept R before after
  found : ∀ row ∈ after, (∃ old ∈ before, R old row) ∨ New row

/-- The rows of a map. -/
def entries (table : κ → Option ν) : Set (κ × ν) := {p | table p.1 = some p.2}

section order

variable {R : α → α → Prop}

theorem Kept.refl (hR : ∀ row, R row row) (rows : Set α) : Kept R rows rows :=
  fun row hrow => ⟨row, hrow, hR row⟩

theorem Kept.trans {s t u : Set α} (hst : Kept R s t) (htu : Kept R t u)
    (hR : ∀ {a b c}, R a b → R b c → R a c) : Kept R s u := by
  intro row hrow
  obtain ⟨row', hrow', h⟩ := hst row hrow
  obtain ⟨row'', hrow'', h'⟩ := htu row' hrow'
  exact ⟨row'', hrow'', hR h h'⟩

end order

namespace Grows

section rows

variable {R : α → α → Prop} {New : α → Prop} (hR : ∀ row, R row row)
include hR

theorem refl (rows : Set α) : Grows R New rows rows :=
  ⟨Kept.refl hR rows, fun row hrow => .inl ⟨row, hrow, hR row⟩⟩

/-- A row is appended. -/
theorem append {row : α} (hnew : New row) (rows : List α) :
    Grows R New {r | r ∈ rows} {r | r ∈ rows ++ [row]} := by
  constructor
  · intro r hr
    exact ⟨r, List.mem_append_left _ hr, hR r⟩
  · intro r hr
    rcases List.mem_append.mp hr with hr | hr
    · exact .inl ⟨r, hr, hR r⟩
    · rw [List.mem_singleton.mp hr]
      exact .inr hnew

omit hR in
/-- Each row is rewritten. -/
theorem map {f : α → α} {rows : List α} (hf : ∀ r ∈ rows, R r (f r)) :
    Grows R New {r | r ∈ rows} {r | r ∈ rows.map f} := by
  constructor
  · intro r hr
    exact ⟨f r, List.mem_map_of_mem hr, hf r hr⟩
  · intro r hr
    obtain ⟨old, hold, rfl⟩ := List.mem_map.mp hr
    exact .inl ⟨old, hold, hf old hold⟩

omit hR in
/-- What every row satisfies carries over, if the new rows satisfy it. -/
theorem forall_mem {P P' : α → Prop} {before after : Set α} (h : Grows R New before after)
    (hbefore : ∀ row ∈ before, P row) (hkeep : ∀ old row, R old row → P old → P' row)
    (hnew : ∀ row, New row → P' row) : ∀ row ∈ after, P' row := by
  intro row hrow
  rcases h.found row hrow with ⟨old, hold, hR⟩ | h
  · exact hkeep old row hR (hbefore old hold)
  · exact hnew row h

end rows

section entries

variable [DecidableEq κ] {R : κ × ν → κ × ν → Prop} {New : κ × ν → Prop} (hR : ∀ row, R row row)
include hR

/-- One entry is written: it replaces the one of its key, or is new. -/
theorem put {table : κ → Option ν} {key : κ} {row : ν}
    (hold : ∀ old, table key = some old → R (key, old) (key, row))
    (hnew : table key = none → New (key, row)) :
    Grows R New (entries table) (entries fun k => if k = key then some row else table k) := by
  constructor
  · intro p hp
    -- the row under the key gives way to the new one
    by_cases hk : p.1 = key
    · subst hk
      exact ⟨(p.1, row), by simp [entries], hold p.2 hp⟩
    · exact ⟨p, by simpa [entries, hk] using hp, hR p⟩
  · intro p hp
    simp only [entries, Set.mem_ofPred_eq] at hp
    split at hp
    next hk =>
      obtain ⟨k, r⟩ := p
      dsimp only at hk hp
      subst hk
      obtain rfl := Option.some.inj hp
      cases hkey : table k with
      | none => exact .inr (hnew hkey)
      | some old => exact .inl ⟨(k, old), hkey, hold old hkey⟩
    next => exact .inl ⟨p, hp, hR p⟩

/-- The entry of one key is rewritten, where there is one. -/
theorem modify {table : κ → Option ν} {key : κ} {f : ν → ν}
    (hf : ∀ row, R (key, row) (key, f row)) :
    Grows R New (entries table)
      (entries fun k => if k = key then (table k).map f else table k) := by
  cases hkey : table key with
  -- no row under the key: the table stays
  | none =>
    have : (fun k => if k = key then (table k).map f else table k) = table := by
      funext k
      split
      next hk => rw [hk, hkey]; rfl
      next => rfl
    rw [this]
    exact refl hR _
  -- a row under the key: it is put back changed
  | some row =>
    have : (fun k => if k = key then (table k).map f else table k) =
        fun k => if k = key then some (f row) else table k := by
      funext k
      split
      next hk => rw [hk, hkey]; rfl
      next => rfl
    rw [this]
    refine put hR (fun old hold => ?_) fun hnone => ?_
    · rw [hkey] at hold
      exact Option.some.inj hold ▸ hf row
    · rw [hkey] at hnone
      cases hnone

end entries

end Grows

end Rows
