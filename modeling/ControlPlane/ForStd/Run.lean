import Mathlib.Data.List.Basic
import Mathlib.Logic.Relation

/-!
# Runs of a deterministic system

A system that applies one event after the other. `EveryStep` says something of
every event in the state it finds, `EveryState` of every state a run passes
through, its first and last included.

## Key results

- `everyState_of_everyStep`: the invariant rule
- `everyState_iff_everyStep`: a property of all states is a condition on all steps
- `total_eq_sub`: a quantity summed over the steps telescopes
-/

namespace Run

variable {σ ε : Type} (apply : σ → ε → σ)

/-- The state after a list of events. -/
def runAll (s : σ) (es : List ε) : σ :=
  es.foldl apply s

@[simp] theorem runAll_nil (s : σ) : runAll apply s [] = s := rfl

@[simp] theorem runAll_cons (s : σ) (e : ε) (es : List ε) :
    runAll apply s (e :: es) = runAll apply (apply s e) es := rfl

@[simp] theorem runAll_append (s : σ) (es es' : List ε) :
    runAll apply s (es ++ es') = runAll apply (runAll apply s es) es' := by
  simp [runAll]

/-- Every event meets the condition in the state it finds. -/
def EveryStep (P : σ → ε → Prop) : σ → List ε → Prop
  | _, [] => True
  | s, e :: es => P s e ∧ EveryStep P (apply s e) es

/-- Every state along the run has the property. -/
def EveryState (Q : σ → Prop) : σ → List ε → Prop
  | s, [] => Q s
  | s, e :: es => Q s ∧ EveryState Q (apply s e) es

variable {apply}

theorem EveryState.head {Q : σ → Prop} {s : σ} {es : List ε} (h : EveryState apply Q s es) :
    Q s := by
  cases es with
  | nil => exact h
  | cons e es => exact h.1

theorem EveryState.last {Q : σ → Prop} {s : σ} {es : List ε} (h : EveryState apply Q s es) :
    Q (runAll apply s es) := by
  induction es generalizing s with
  | nil => exact h
  | cons e es ih => exact ih h.2

/-- A property of every state gives what follows from it. -/
theorem EveryState.mono {Q Q' : σ → Prop} {s : σ} {es : List ε} (h : EveryState apply Q s es)
    (hQ : ∀ s, Q s → Q' s) : EveryState apply Q' s es := by
  induction es generalizing s with
  | nil => exact hQ s h
  | cons e es ih => exact ⟨hQ s h.1, ih h.2⟩

/-- Two conditions on the steps are one. -/
theorem EveryStep.and {P P' : σ → ε → Prop} {s : σ} {es : List ε} (h : EveryStep apply P s es)
    (h' : EveryStep apply P' s es) : EveryStep apply (fun s e => P s e ∧ P' s e) s es := by
  induction es generalizing s with
  | nil => trivial
  | cons e es ih => exact ⟨⟨h.1, h'.1⟩, ih h.2 h'.2⟩

theorem everyStep_append {P : σ → ε → Prop} {s : σ} {es es' : List ε} :
    EveryStep apply P s (es ++ es') ↔
      EveryStep apply P s es ∧ EveryStep apply P (runAll apply s es) es' := by
  induction es generalizing s with
  | nil => simp [EveryStep]
  | cons e es ih => simp only [List.cons_append, EveryStep, ih, runAll_cons, and_assoc]

/-- What holds of each event by itself holds along every run of them. -/
theorem everyStep_of_mem {P : ε → Prop} {es : List ε} (h : ∀ e ∈ es, P e) (s : σ) :
    EveryStep apply (fun _ e => P e) s es := by
  induction es generalizing s with
  | nil => trivial
  | cons e es ih => exact ⟨h e (by simp), ih (fun e' he => h e' (by simp [he])) (apply s e)⟩

/-- What holds of every event in every state holds along every run. -/
theorem everyStep_of_forall {P : σ → ε → Prop} (hP : ∀ s e, P s e) (s : σ) (es : List ε) :
    EveryStep apply P s es := by
  induction es generalizing s with
  | nil => trivial
  | cons e es ih => exact ⟨hP s e, ih (apply s e)⟩

variable (apply) in
/-- A run either meets the condition at every step or has a first step that does not. -/
theorem everyStep_or_first (P : σ → ε → Prop) (s : σ) (es : List ε) :
    EveryStep apply P s es ∨ ∃ before e after, es = before ++ e :: after ∧
      EveryStep apply P s before ∧ ¬ P (runAll apply s before) e := by
  induction es generalizing s with
  | nil => exact .inl trivial
  | cons e es ih =>
    -- the first event is the first that fails, or the search goes on behind it
    by_cases h : P s e
    · rcases ih (apply s e) with hevery | ⟨before, e', after, rfl, hbefore, hfirst⟩
      · exact .inl ⟨h, hevery⟩
      · exact .inr ⟨e :: before, e', after, rfl, ⟨h, hbefore⟩, hfirst⟩
    · exact .inr ⟨[], e, es, rfl, trivial, h⟩

/-- What every step preserves holds of every state. -/
theorem everyState_of_everyStep {V : σ → ε → Prop} {I : σ → Prop} {s : σ} {es : List ε}
    (hs : I s) (hV : EveryStep apply V s es) (hstep : ∀ s e, I s → V s e → I (apply s e)) :
    EveryState apply I s es := by
  induction es generalizing s with
  | nil => exact hs
  | cons e es ih => exact ⟨hs, ih (hstep s e hs hV.1) hV.2⟩

/-- If a step keeps `Q` exactly when it meets `P`, then `Q` holds of every state
    exactly when `P` holds of every step. -/
theorem everyState_iff_everyStep {V P : σ → ε → Prop} {I Q : σ → Prop} {s : σ} {es : List ε}
    (hs : I s) (hQ : Q s) (hV : EveryStep apply V s es)
    (hstep : ∀ s e, I s → V s e → I (apply s e))
    (hiff : ∀ s e, I s → V s e → Q s → (Q (apply s e) ↔ P s e)) :
    EveryState apply Q s es ↔ EveryStep apply P s es := by
  induction es generalizing s with
  | nil => exact iff_of_true hQ trivial
  | cons e es ih =>
    constructor
    -- the state after the event has the property, so the step met the condition
    · intro h
      have hnext : Q (apply s e) := h.2.head
      exact ⟨(hiff s e hs hV.1 hQ).mp hnext, (ih (hstep s e hs hV.1) hnext hV.2).mp h.2⟩
    -- the step meets the condition, so the state after it has the property
    · intro h
      have hnext : Q (apply s e) := (hiff s e hs hV.1 hQ).mpr h.1
      exact ⟨hQ, (ih (hstep s e hs hV.1) hnext hV.2).mpr h.2⟩

/-- The invariant rule at the last state of a run. -/
theorem invariant_runAll {V : σ → ε → Prop} {I : σ → Prop} {s : σ} {es : List ε}
    (hs : I s) (hV : EveryStep apply V s es) (hstep : ∀ s e, I s → V s e → I (apply s e)) :
    I (runAll apply s es) :=
  (everyState_of_everyStep hs hV hstep).last

/-- The same where every event keeps the invariant. -/
theorem invariant_of_step {I : σ → Prop} {s : σ} (hs : I s) (hstep : ∀ s e, I s → I (apply s e))
    (es : List ε) : I (runAll apply s es) :=
  invariant_runAll hs (everyStep_of_forall (P := fun _ _ => True) (fun _ _ => trivial) s es)
    fun s e h _ => hstep s e h

/-- A run of steps that are each a step of an abstract system is a run of it. -/
theorem reach_of_everyStep {τ : Type} (proj : σ → τ) {R : τ → τ → Prop} {V : σ → ε → Prop}
    {I : σ → Prop} {s : σ} {es : List ε} (hs : I s) (hV : EveryStep apply V s es)
    (hstep : ∀ s e, I s → V s e → I (apply s e))
    (hR : ∀ s e, I s → V s e → R (proj s) (proj (apply s e))) :
    Relation.ReflTransGen R (proj s) (proj (runAll apply s es)) := by
  induction es generalizing s with
  | nil => exact .refl
  | cons e es ih => exact .head (hR s e hs hV.1) (ih (hstep s e hs hV.1) hV.2)

/-! ## Sums over the steps -/

variable (apply) in
/-- The sum of a quantity over the events of a run, each in the state it finds. -/
def total (f : σ → ε → Int) : σ → List ε → Int
  | _, [] => 0
  | s, e :: es => f s e + total f (apply s e) es

/-- The steps of a run add up to the change of a quantity, where each step adds its change. -/
theorem total_eq_sub {f : σ → ε → Int} {g : σ → Int} {V : σ → ε → Prop} {I : σ → Prop} {s : σ}
    {es : List ε} (hs : I s) (hV : EveryStep apply V s es)
    (hstep : ∀ s e, I s → V s e → I (apply s e))
    (hf : ∀ s e, I s → V s e → f s e = g (apply s e) - g s) :
    total apply f s es = g (runAll apply s es) - g s := by
  induction es generalizing s with
  | nil => simp [total]
  | cons e es ih =>
    -- the first event adds its change, the others add theirs
    rw [total, runAll_cons, ih (hstep s e hs hV.1) hV.2, hf s e hs hV.1]
    omega

end Run
