import ControlPlane.ForStd.Script
import Mathlib.Order.Basic

/-!
# Steps that are retried

A durable workflow runs its work in steps. A step is attempted again after it throws,
up to a limit, unless what it throws is fatal; a step that returned is not run again.
An attempt can also be cut short anywhere, after any number of its statements, and then
counts as one that threw.

## Key results

- `retry_run`: what each attempt establishes, the step does
- `cutAttempt_cut` / `cutAttempt_done`: an attempt to its cut, and to its end
-/

namespace Steps

variable {σ α : Type}

/-- What an attempt ends in. -/
inductive Outcome (α : Type) where
  | returned (value : α)
  | threw (message : String)
  | fatal (message : String)

/-- Attempt a step until it returns, throws something fatal, or has been retried `limit`
    times. `n` is the number of the attempt. -/
def retry (attempt : Nat → σ → Outcome α × σ) : Nat → Nat → σ → Except String α × σ
  | 0, n, s =>
    match attempt n s with
    | (.returned a, s') => (.ok a, s')
    | (.threw message, s') => (.error message, s')
    | (.fatal message, s') => (.error message, s')
  | limit + 1, n, s =>
    match attempt n s with
    | (.returned a, s') => (.ok a, s')
    | (.threw _, s') => retry attempt limit (n + 1) s'
    | (.fatal message, s') => (.error message, s')

section retry

variable {attempt : Nat → σ → Outcome α × σ}

/-- The rule of a step that throws nothing fatal. `I k` holds after `k` attempts that threw;
    the attempt that returns, if there is one, establishes `J`. -/
theorem retry_run {limit n : Nat} {s : σ} {I : Nat → σ → Prop} {J : α → σ → Prop}
    (hstep : ∀ k ≤ limit, ∀ s, I k s →
      (∃ a s', attempt (n + k) s = (.returned a, s') ∧ J a s') ∨
      ∃ message s', attempt (n + k) s = (.threw message, s') ∧ I (k + 1) s')
    (hs : I 0 s) :
    (∃ a s', retry attempt limit n s = (.ok a, s') ∧ J a s') ∨
      ∃ message s', retry attempt limit n s = (.error message, s') ∧ I (limit + 1) s' := by
  induction limit generalizing n s I with
  -- no attempt is left after this one: what it throws is the end
  | zero =>
    unfold retry
    rcases hstep 0 le_rfl s hs with ⟨a, s', heq, hJ⟩ | ⟨message, s', heq, hI⟩
    · rw [Nat.add_zero] at heq
      exact .inl ⟨a, s', by rw [heq], hJ⟩
    · rw [Nat.add_zero] at heq
      exact .inr ⟨message, s', by rw [heq], hI⟩
  | succ limit ih =>
    unfold retry
    rcases hstep 0 (Nat.zero_le _) s hs with ⟨a, s', heq, hJ⟩ | ⟨message, s', heq, hI⟩
    · rw [Nat.add_zero] at heq
      exact .inl ⟨a, s', by rw [heq], hJ⟩
    · rw [Nat.add_zero] at heq
      rw [heq]
      -- the attempts left are those of a step whose count starts one later
      have hlater : ∀ k ≤ limit, ∀ s, I (k + 1) s →
          (∃ a s', attempt (n + 1 + k) s = (.returned a, s') ∧ J a s') ∨
          ∃ message s', attempt (n + 1 + k) s = (.threw message, s') ∧ I (k + 1 + 1) s' := by
        intro k hk s hs
        rw [show n + 1 + k = n + (k + 1) by omega]
        exact hstep (k + 1) (by omega) s hs
      exact ih hlater hI

end retry

/-! ## Attempts that are cut -/

/-- One attempt of a script: to its end, or cut after some statements. -/
def cutAttempt (script : Script σ (Except String α)) (cut : Option Nat) (s : σ) : Outcome α × σ :=
  match cut with
  | some n => (.threw "interrupted", (Script.runFor n script s).2)
  | none =>
    match script.run s with
    | (.ok a, s') => (.returned a, s')
    | (.error message, s') => (.threw message, s')

/-- An attempt that is cut throws. -/
theorem cutAttempt_cut (script : Script σ (Except String α)) (n : Nat) (s : σ) :
    cutAttempt script (some n) s = (.threw "interrupted", (Script.runFor n script s).2) := rfl

/-- An attempt that is not cut and ends well returns. -/
theorem cutAttempt_done {script : Script σ (Except String α)} {s s' : σ} {a : α}
    (h : script.run s = (.ok a, s')) : cutAttempt script none s = (.returned a, s') := by
  unfold cutAttempt
  rw [h]

end Steps
