import ControlPlane.ForStd.Rely

/-!
# What only one call can get

A right that is claimed by setting a flag of the store: an update that changes the row only
if it is not yet changed. The flag stays set, so whatever the calls do, and however they
interleave, one of them at most ends with the right.

`p.Flips D flag good s` says of one call, started at `s` or later, that it does not end well
unless a statement of its own sets the flag.

## Key results

- `Flips.never`: a call that cannot end well
- `Flips.claim` / `Flips.andThen`: the statement that claims the right, and what follows it
- `Pool.once`: at most one call ends well
-/

namespace Script

variable {σ α β : Type} {D : Discipline σ} {flag : σ → Prop} {good : α → Bool}

/-- The script ends well only by a statement that sets the flag. -/
def Flips (D : Discipline σ) (flag : σ → Prop) (good : α → Bool) : Script σ α → σ → Prop
  | .done a, _ => good a = false
  | .stmt effect next, s => ∀ t, D.Holds t → D.Le s t →
      (next t).Flips D flag good (effect t) ∨ (¬flag t ∧ flag (effect t))

namespace Flips

theorem later {p : Script σ α} {s s' : σ} (h : p.Flips D flag good s) (hle : D.Le s s') :
    p.Flips D flag good s' := by
  cases p with
  | done a => exact h
  | stmt effect next => exact fun t ht hst => h t ht (D.trans hle hst)

/-- A script whose result is never good. -/
theorem never {post : α → σ → Prop} {p : Script σ α} {s : σ} (hs : D.Holds s)
    (h : p.Under D post s) (hpost : ∀ a t, post a t → good a = false) :
    p.Flips D flag good s := by
  induction p generalizing s with
  | done a => exact hpost a s (h s hs (D.refl s))
  | stmt effect next ih =>
    intro t ht hst
    -- no statement has to set the flag: the rest of the script is as good as it
    obtain ⟨hallow, hnext⟩ := h t ht hst
    exact .inl (ih t hallow.1 hnext)

/-- One statement sets the flag, or it leads to a bad end. -/
theorem claim {f : σ → σ × β} {g : β → Script σ α} {s : σ}
    (h : ∀ t, D.Holds t → D.Le s t →
      (g (f t).2).Flips D flag good (f t).1 ∨ (¬flag t ∧ flag (f t).1)) :
    ((Script.exec f).bind g).Flips D flag good s := h

/-- A first part that claims the right, or else leads to a second one that does. -/
theorem andThen {p : Script σ β} {f : β → Script σ α} {claimed : β → Bool} {s : σ}
    (h : p.Flips D flag claimed s)
    (hf : ∀ b t, claimed b = false → (f b).Flips D flag good t) :
    (p.bind f).Flips D flag good s := by
  induction p generalizing s with
  | done b => exact hf b s h
  | stmt effect next ih => exact fun t ht hst => (h t ht hst).imp_left (ih t)

end Flips

end Script

namespace Pool

variable {σ α : Type} {D : Discipline σ} {flag : σ → Prop} {good : α → Bool}
  {Call : Script σ α → Prop}

/-- A call that ended well. -/
def endedWell (good : α → Bool) : Script σ α → Bool
  | .done a => good a
  | .stmt _ _ => false

open Classical in
/-- The calls that hold the right, or have ended well. -/
noncomputable def holders (D : Discipline σ) (flag : σ → Prop) (good : α → Bool) (s : σ)
    (threads : List (Script σ α)) : Nat :=
  threads.countP fun p => ¬p.Flips D flag good s

/-- One holder at most, and none before the flag is set. -/
def OneHolder (D : Discipline σ) (flag : σ → Prop) (good : α → Bool) (c : Pool σ α) : Prop :=
  holders D flag good c.store c.threads ≤ 1 ∧
    (holders D flag good c.store c.threads ≠ 0 → flag c.store)

theorem holders_append (s : σ) (ps qs : List (Script σ α)) :
    holders D flag good s (ps ++ qs) = holders D flag good s ps + holders D flag good s qs :=
  List.countP_append

open Classical in
theorem holders_singleton (s : σ) (p : Script σ α) :
    holders D flag good s [p] = if p.Flips D flag good s then 0 else 1 := by
  unfold holders
  rw [List.countP_singleton]
  by_cases h : p.Flips D flag good s <;> simp [h]

open Classical in
/-- Nobody becomes a holder by what others do. -/
theorem holders_later {s s' : σ} (hle : D.Le s s') (ps : List (Script σ α)) :
    holders D flag good s' ps ≤ holders D flag good s ps := by
  refine List.countP_mono_left fun p _ hp => ?_
  rw [decide_eq_true_eq] at hp ⊢
  exact fun h => hp (h.later hle)

open Classical in
theorem endedWell_le_holders (s : σ) (ps : List (Script σ α)) :
    ps.countP (endedWell good) ≤ holders D flag good s ps := by
  refine List.countP_mono_left fun p _ hp => ?_
  rw [decide_eq_true_eq]
  -- a call that ended well has not ended badly, so it counts as a holder
  cases p with
  | done a =>
    intro h
    rw [show endedWell good (.done a) = false from h] at hp
    cases hp
  | stmt effect next => cases hp

theorem OneHolder.step {c c' : Pool σ α} (hflag : ∀ s s', D.Le s s' → flag s → flag s')
    (hc : c.Under D fun _ _ => True) (hcall : ∀ p, Call p → ∀ s, D.Holds s →
      p.Under D (fun _ _ => True) s ∧ p.Flips D flag good s)
    (h : Step Call c c') (hone : OneHolder D flag good c) : OneHolder D flag good c' := by
  have hle := (hc.step (fun p hp s hs => (hcall p hp s hs).1) h).2
  obtain ⟨honce, hset⟩ := hone
  cases h with
  -- a new call holds nothing yet
  | @start s ts p hp =>
    unfold OneHolder
    rw [holders_append, holders_singleton, if_pos (hcall p hp s hc.1).2]
    exact ⟨honce, hset⟩
  | @advance s pre post effect next =>
    dsimp only [OneHolder] at honce hset hle ⊢
    rw [List.append_cons, holders_append, holders_append, holders_singleton] at honce hset
    rw [List.append_cons, holders_append, holders_append, holders_singleton]
    have hpre : holders D flag good _ pre ≤ holders D flag good s pre := holders_later hle pre
    have hpost : holders D flag good _ post ≤ holders D flag good s post := holders_later hle post
    by_cases hmoving : (Script.stmt effect next).Flips D flag good s
    · rw [if_pos hmoving] at honce hset
      -- its statement leads on to a bad end, or sets the flag
      rcases hmoving s hc.1 (D.refl s) with hnext | ⟨hclear, hnow⟩
      · rw [if_pos hnext]
        exact ⟨by omega, fun hne => hflag _ _ hle (hset (by omega))⟩
      · -- the call claims the right: nobody held it
        have hnobody : holders D flag good s pre + 0 + holders D flag good s post = 0 := by
          by_contra hne
          exact hclear (hset hne)
        refine ⟨?_, fun _ => hnow⟩
        split <;> omega
    · -- the call holds the right already
      rw [if_neg hmoving] at honce hset
      have hflag' := hflag _ _ hle (hset (by omega))
      refine ⟨?_, fun _ => hflag'⟩
      split <;> omega

/-- One call at most ends well, whatever the others do, and only with the flag set. -/
theorem once {s : σ} {c : Pool σ α} (hflag : ∀ s s', D.Le s s' → flag s → flag s')
    (hs : D.Holds s) (hcall : ∀ p, Call p → ∀ s, D.Holds s →
      p.Under D (fun _ _ => True) s ∧ p.Flips D flag good s)
    (h : Reach Call ⟨s, []⟩ c) : c.threads.countP (endedWell good) ≤ 1 := by
  have hunder : ∀ c, Reach Call ⟨s, []⟩ c → c.Under D fun _ _ => True := fun c h =>
    (under_reach ⟨hs, fun _ hp => by cases hp⟩ (fun p hp s hs => (hcall p hp s hs).1) h).1
  -- on the steps: at the start there is no call, and a step keeps the one holder
  have hone : OneHolder D flag good c := by
    induction h with
    | refl => exact ⟨Nat.zero_le 1, fun hne => absurd rfl hne⟩
    | tail hreach hstep ih => exact ih.step hflag (hunder _ hreach) hcall hstep
  exact (endedWell_le_holders c.store c.threads).trans hone.1

end Pool
