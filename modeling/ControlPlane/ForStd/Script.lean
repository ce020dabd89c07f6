import Mathlib.Data.Nat.Basic

/-!
# Calls cut at their atomic statements

A call against a shared store runs as a sequence of atomic statements: each one
transforms the store in one piece, and what the call does next may depend on
the store the statement found. `Script σ α` is such a call on a store `σ` with
result `α`.

A script can be run to its end (`run`), or be cut after `n` statements
(`runFor`), which is how a call dies between two statements or fails at one.

## Key results

- `wp_run` / `wp_runFor`: a crash triple bounds every complete and every cut run
- `wp_bind`: crash triples compose along `bind`
- `Steps.bind` / `Yields.bind`: what statements do and what results are, along `bind`
- `Blind.runWith`: a script blind to what others write ends as it would alone
-/

/-- A call on a shared store `σ`: finished with a result, or about to execute
    one atomic statement. `next` sees the store as the statement found it. -/
inductive Script (σ : Type) (α : Type) : Type where
  | done (result : α)
  | stmt (effect : σ → σ) (next : σ → Script σ α)

namespace Script

variable {σ α β γ : Type}

/-- One atomic statement that transforms the store and answers with a value. -/
def exec (f : σ → σ × α) : Script σ α :=
  .stmt (fun s => (f s).1) (fun s => .done (f s).2)

/-- One atomic statement that only reads. -/
def read (f : σ → α) : Script σ α :=
  .stmt id (fun s => .done (f s))

/-- Sequential composition. -/
def bind : Script σ α → (α → Script σ β) → Script σ β
  | .done a, f => f a
  | .stmt effect next, f => .stmt effect (fun s => (next s).bind f)

instance : Monad (Script σ) where
  pure := .done
  bind := .bind

/-- `pure` is the script without a statement. -/
@[simp] theorem pure_eq_done (a : α) : (pure a : Script σ α) = .done a := rfl

/-- `>>=` is `bind`. -/
@[simp] theorem bind_eq_bind (p : Script σ α) (f : α → Script σ β) :
    p >>= f = p.bind f := rfl

/-- A finished script hands its result on. -/
@[simp] theorem done_bind (a : α) (f : α → Script σ β) :
    (Script.done a : Script σ α).bind f = f a := rfl

/-- What follows a script follows its last statement. -/
@[simp] theorem stmt_bind (effect : σ → σ) (next : σ → Script σ α) (f : α → Script σ β) :
    (Script.stmt effect next).bind f = .stmt effect (fun s => (next s).bind f) := rfl

/-! ## Complete runs -/

/-- Run a script to its end, with nothing else touching the store. -/
def run : Script σ α → σ → α × σ
  | .done a, s => (a, s)
  | .stmt effect next, s => (next s).run (effect s)

/-- A finished script changes nothing. -/
@[simp] theorem run_done (a : α) (s : σ) : (Script.done a : Script σ α).run s = (a, s) := rfl

/-- A statement takes effect, and the rest goes on from there. -/
@[simp] theorem run_stmt (effect : σ → σ) (next : σ → Script σ α) (s : σ) :
    (Script.stmt effect next).run s = (next s).run (effect s) := rfl

/-- A single statement runs in one effect. -/
@[simp] theorem run_exec (f : σ → σ × α) (s : σ) :
    (exec f).run s = ((f s).2, (f s).1) := rfl

/-- A read changes nothing. -/
@[simp] theorem run_read (f : σ → α) (s : σ) : (read f).run s = (f s, s) := rfl

/-- A sequence runs one script after the other. -/
@[simp] theorem run_bind (p : Script σ α) (f : α → Script σ β) (s : σ) :
    (p.bind f).run s = (f (p.run s).1).run (p.run s).2 := by
  induction p generalizing s with
  | done a => rfl
  | stmt effect next ih => exact ih s (effect s)

/-- The script has nothing left to execute. -/
def isDone : Script σ α → Bool
  | .done _ => true
  | .stmt _ _ => false

/-- A result is the end. -/
@[simp] theorem isDone_done (a : α) : (Script.done a : Script σ α).isDone = true := rfl

/-- A statement is not. -/
@[simp] theorem isDone_stmt (effect : σ → σ) (next : σ → Script σ α) :
    (Script.stmt effect next).isDone = false := rfl

/-- A script at its end has a result. -/
theorem exists_of_isDone {p : Script σ α} (h : p.isDone = true) : ∃ a, p = .done a := by
  cases p with
  | done a => exact ⟨a, rfl⟩
  | stmt effect next => cases h

/-! ## Part of a larger store -/

/-- A script on one part of a store. -/
def zoom {τ : Type} (get : τ → σ) (set : τ → σ → τ) : Script σ α → Script τ α
  | .done a => .done a
  | .stmt effect next =>
    .stmt (fun t => set t (effect (get t))) (fun t => (next (get t)).zoom get set)

/-! ## Runs cut after `n` statements -/

/-- Execute at most `n` statements: what is left of the script, and the store. -/
def runFor : Nat → Script σ α → σ → Script σ α × σ
  | 0, p, s => (p, s)
  | _ + 1, .done a, s => (.done a, s)
  | n + 1, .stmt effect next, s => runFor n (next s) (effect s)

/-- Without a turn nothing runs. -/
@[simp] theorem runFor_zero (p : Script σ α) (s : σ) : runFor 0 p s = (p, s) := by
  cases p <;> rfl

/-- A finished script ignores the turns it is given. -/
@[simp] theorem runFor_done (n : Nat) (a : α) (s : σ) :
    runFor n (Script.done a) s = (.done a, s) := by
  cases n <;> rfl

/-- One turn is one statement. -/
@[simp] theorem runFor_succ_stmt (n : Nat) (effect : σ → σ) (next : σ → Script σ α) (s : σ) :
    runFor (n + 1) (.stmt effect next) s = runFor n (next s) (effect s) := rfl

/-- A cut run that came to its end is the complete run. -/
theorem run_of_runFor_done {n : Nat} {p : Script σ α} {s s' : σ} {a : α}
    (h : runFor n p s = (.done a, s')) : p.run s = (a, s') := by
  -- on the fuel: a script that was done in it is run the same way without
  induction n generalizing p s with
  | zero =>
    simp only [runFor_zero, Prod.mk.injEq] at h
    obtain ⟨rfl, rfl⟩ := h
    rfl
  | succ n ih =>
    cases p with
    | done b =>
      simp only [runFor_done, Prod.mk.injEq, Script.done.injEq] at h
      obtain ⟨rfl, rfl⟩ := h
      rfl
    | stmt effect next =>
      rw [runFor_succ_stmt] at h
      rw [run_stmt]
      exact ih h

/-- A cut run of a composition is cut inside its first part, or the first part
    ran to its end and the second part was cut. -/
theorem runFor_bind (n : Nat) (p : Script σ α) (f : α → Script σ β) (s : σ) :
    (∃ p' : Script σ α, runFor n (p.bind f) s = (p'.bind f, (runFor n p s).2)) ∨
    ∃ k, runFor n (p.bind f) s = runFor k (f (p.run s).1) (p.run s).2 := by
  induction n generalizing p s with
  | zero => exact .inl ⟨p, by simp⟩
  | succ n ih =>
    cases p with
    -- the first part is over, and the cut falls into the second
    | done a => exact .inr ⟨n + 1, rfl⟩
    | stmt effect next => exact ih (next s) (effect s)

/-! ## Crash triples

`wp crash post p s`: run from `s`, the script `p` passes through stores that
satisfy `crash` after each of its statements, and ends in a store and result
that satisfy `post`. -/

/-- The weakest precondition of `p` for the crash condition and postcondition. -/
def wp (crash : σ → Prop) (post : α → σ → Prop) : Script σ α → σ → Prop
  | .done a, s => post a s
  | .stmt effect next, s => crash (effect s) ∧ (next s).wp crash post (effect s)

section wp

variable {crash : σ → Prop}

/-- A result has nothing left to crash in. -/
@[simp] theorem wp_done {post : α → σ → Prop} (a : α) (s : σ) :
    (Script.done a : Script σ α).wp crash post s ↔ post a s := Iff.rfl

/-- A crash after the first statement finds its effect. -/
@[simp] theorem wp_stmt {post : α → σ → Prop} (effect : σ → σ) (next : σ → Script σ α) (s : σ) :
    (Script.stmt effect next).wp crash post s ↔
      crash (effect s) ∧ (next s).wp crash post (effect s) := Iff.rfl

/-- A single statement can crash after its effect only. -/
@[simp] theorem wp_exec {post : α → σ → Prop} (f : σ → σ × α) (s : σ) :
    (exec f).wp crash post s ↔ crash (f s).1 ∧ post (f s).2 (f s).1 := Iff.rfl

/-- A read can crash where it stands. -/
@[simp] theorem wp_read {post : α → σ → Prop} (f : σ → α) (s : σ) :
    (read f).wp crash post s ↔ crash s ∧ post (f s) s := Iff.rfl

/-- The rule of sequence. -/
theorem wp_bind {post : β → σ → Prop} (p : Script σ α) (f : α → Script σ β) (s : σ) :
    (p.bind f).wp crash post s ↔ p.wp crash (fun a s' => (f a).wp crash post s') s := by
  induction p generalizing s with
  | done a => rfl
  | stmt effect next ih => simp only [stmt_bind, wp_stmt, ih]

/-- A triple with weaker conditions. -/
theorem wp_weaken {crash' : σ → Prop} {post post' : α → σ → Prop} {p : Script σ α} {s : σ}
    (hcrash : ∀ s', crash s' → crash' s') (hpost : ∀ a s', post a s' → post' a s')
    (h : p.wp crash post s) : p.wp crash' post' s := by
  induction p generalizing s with
  | done a => exact hpost a s h
  | stmt effect next ih => exact ⟨hcrash _ h.1, ih s h.2⟩

/-- The rule of consequence. -/
theorem wp_mono {post post' : α → σ → Prop} {p : Script σ α} {s : σ}
    (hpost : ∀ a s', post a s' → post' a s') (h : p.wp crash post s) :
    p.wp crash post' s :=
  wp_weaken (fun _ => id) hpost h

/-- The complete run ends in the postcondition. -/
theorem wp_run {post : α → σ → Prop} {p : Script σ α} {s : σ} (h : p.wp crash post s) :
    post (p.run s).1 (p.run s).2 := by
  induction p generalizing s with
  | done a => exact h
  | stmt effect next ih => exact ih s h.2

/-- A run cut anywhere leaves a store that satisfies the crash condition, and
    what is left of the script still meets its triple there. -/
theorem wp_runFor {post : α → σ → Prop} {p : Script σ α} {s : σ} (n : Nat)
    (hs : crash s) (h : p.wp crash post s) :
    crash (runFor n p s).2 ∧ (runFor n p s).1.wp crash post (runFor n p s).2 := by
  induction n generalizing p s with
  | zero => simpa using ⟨hs, h⟩
  | succ n ih =>
    cases p with
    | done a => simpa using ⟨hs, h⟩
    -- the first statement was executed, and crashed into its effect
    | stmt effect next => exact ih h.1 h.2

end wp

/-! ## Properties of single statements -/

/-- Every statement the script may ever execute relates the store before it to
    the store after it by `R`, whatever the other calls do in between. -/
inductive Steps (R : σ → σ → Prop) : Script σ α → Prop
  | done (a : α) : Steps R (.done a)
  | stmt {effect : σ → σ} {next : σ → Script σ α} (heffect : ∀ s, R s (effect s))
      (hnext : ∀ s, Steps R (next s)) : Steps R (.stmt effect next)

namespace Steps

variable {R : σ → σ → Prop}

/-- A weaker relation holds of the same steps. -/
theorem mono {R' : σ → σ → Prop} {p : Script σ α} (hR : ∀ a b, R a b → R' a b) (h : Steps R p) :
    Steps R' p := by
  induction h with
  | done a => exact .done a
  | stmt heffect _ ih => exact .stmt (fun s => hR _ _ (heffect s)) ih

/-- A single statement steps as its effect does. -/
theorem exec {f : σ → σ × α} (h : ∀ s, R s (f s).1) : Steps R (Script.exec f) :=
  .stmt h (fun _ => .done _)

/-- A read steps to the state it finds. -/
theorem read {f : σ → α} (h : ∀ s, R s s) : Steps R (Script.read f) :=
  .stmt h (fun _ => .done _)

/-- A sequence steps as both parts do. -/
theorem bind {p : Script σ α} {f : α → Script σ β} (hp : Steps R p)
    (hf : ∀ a, Steps R (f a)) : Steps R (p.bind f) := by
  induction hp with
  | done a => exact hf a
  | stmt heffect _ ih => exact .stmt heffect ih

/-- The effect of the first statement is a step. -/
theorem effect {e : σ → σ} {next : σ → Script σ α} (h : Steps R (.stmt e next)) (s : σ) :
    R s (e s) := by
  cases h with
  | stmt heffect _ => exact heffect s

/-- And so are those of the rest. -/
theorem next {e : σ → σ} {next : σ → Script σ α} (h : Steps R (.stmt e next)) (s : σ) :
    Steps R (next s) := by
  cases h with
  | stmt _ hnext => exact hnext s

/-- A reflexive and transitive relation on single statements holds across a
    run that is cut anywhere. -/
theorem runFor {p : Script σ α} (h : Steps R p) (hrefl : ∀ s, R s s)
    (htrans : ∀ a b c, R a b → R b c → R a c) (n : Nat) (s : σ) :
    R s (Script.runFor n p s).2 := by
  induction n generalizing p s with
  | zero => simpa using hrefl s
  | succ n ih =>
    cases p with
    | done a => simpa using hrefl s
    | stmt e next => exact htrans _ _ _ (h.effect s) (ih (h.next s) (e s))

/-- What every statement keeps holds to the end, and gives the crash condition. -/
theorem wp {I crash : σ → Prop} {p : Script σ α} (h : Steps R p)
    (hkeep : ∀ a b, R a b → I a → I b) (hcrash : ∀ s, I s → crash s) {s : σ} (hs : I s) :
    p.wp crash (fun _ => I) s := by
  induction h generalizing s with
  | done a => exact hs
  | stmt heffect _ ih =>
    have hafter := hkeep _ _ (heffect s) hs
    exact ⟨hcrash _ hafter, ih s hafter⟩

/-- A reflexive and transitive relation on single statements holds across a
    complete run. -/
theorem run {p : Script σ α} (h : Steps R p) (hrefl : ∀ s, R s s)
    (htrans : ∀ a b c, R a b → R b c → R a c) (s : σ) : R s (p.run s).2 := by
  induction h generalizing s with
  | done a => exact hrefl s
  | stmt heffect _ ih => exact htrans _ _ _ (heffect s) (ih s _)

end Steps

/-! ## Results -/

/-- Every result the script may come to satisfies `Q`, whatever the other calls do in
    between. -/
inductive Yields (Q : α → Prop) : Script σ α → Prop
  | done {a : α} (h : Q a) : Yields Q (.done a)
  | stmt {effect : σ → σ} {next : σ → Script σ α} (hnext : ∀ s, Yields Q (next s)) :
      Yields Q (.stmt effect next)

namespace Yields

variable {Q : α → Prop}

/-- A script at its end yields its result. -/
theorem result {a : α} (h : Yields Q (Script.done a : Script σ α)) : Q a := by
  cases h with
  | done h => exact h

/-- The rest of a script yields what the script does. -/
theorem next {e : σ → σ} {next : σ → Script σ α} (h : Yields Q (.stmt e next)) (s : σ) :
    Yields Q (next s) := by
  cases h with
  | stmt hnext => exact hnext s

/-- A script comes to some result. -/
theorem any (p : Script σ α) : Yields (fun _ => True) p := by
  induction p with
  | done a => exact .done trivial
  | stmt effect next ih => exact .stmt ih

/-- A sequence yields what its second part does of what the first yields. -/
theorem bind {P : α → Prop} {R : β → Prop} {p : Script σ α} {f : α → Script σ β} (hp : Yields P p)
    (hf : ∀ a, P a → Yields R (f a)) : Yields R (p.bind f) := by
  induction hp with
  | done h => exact hf _ h
  | stmt _ ih => exact .stmt ih

end Yields

/-! ## Runs with others writing in between

`runWith others p` runs `p` to its end while other calls write to the store: the
next of `others` takes effect right before each statement, and what is left of them
after the last one. A script that is `Blind` to what the others write ends as it
would alone, up to what they wrote. -/

/-- Run a script to its end among the effects of other calls. -/
def runWith : Script σ α → List (σ → σ) → σ → α × σ
  | .done a, others, s => (a, others.foldl (fun s g => g s) s)
  | .stmt effect next, others, s =>
    let found := others.headD id s
    (next found).runWith others.tail (effect found)

/-- Before each statement the next one of the others writes. -/
@[simp] theorem runWith_stmt (effect : σ → σ) (next : σ → Script σ α) (others : List (σ → σ))
    (s : σ) : (Script.stmt effect next).runWith others s =
      (next (others.headD id s)).runWith others.tail (effect (others.headD id s)) := rfl

/-- Stores related by `R` are the same to every statement of the script, and stay related. -/
inductive Blind (R : σ → σ → Prop) : Script σ α → Prop
  | done (a : α) : Blind R (.done a)
  | stmt {effect : σ → σ} {next : σ → Script σ α}
      (heffect : ∀ s s', R s s' → R (effect s) (effect s'))
      (hsame : ∀ s s', R s s' → next s = next s')
      (hnext : ∀ s, Blind R (next s)) : Blind R (.stmt effect next)

namespace Blind

variable {R : σ → σ → Prop}

/-- A single statement is blind where its effect and its answer are. -/
theorem exec {f : σ → σ × α} (h : ∀ s s', R s s' → R (f s).1 (f s').1 ∧ (f s).2 = (f s').2) :
    Blind R (Script.exec f) :=
  .stmt (fun s s' hs => (h s s' hs).1) (fun s s' hs => congrArg _ (h s s' hs).2)
    (fun _ => .done _)

/-- A read is blind where what it reads is. -/
theorem read {f : σ → α} (h : ∀ s s', R s s' → f s = f s') : Blind R (Script.read f) :=
  .stmt (fun _ _ hs => hs) (fun s s' hs => congrArg _ (h s s' hs)) (fun _ => .done _)

/-- A sequence of blind scripts is blind. -/
theorem bind {p : Script σ α} {f : α → Script σ β} (hp : Blind R p) (hf : ∀ a, Blind R (f a)) :
    Blind R (p.bind f) := by
  induction hp with
  | done a => exact hf a
  | stmt heffect hsame _ ih =>
    exact .stmt heffect (fun s s' hs => congrArg (·.bind f) (hsame s s' hs)) ih

/-- A blind script ends as it would alone, up to what the others wrote. -/
theorem runWith {p : Script σ α} (h : Blind R p) (htrans : ∀ a b c, R a b → R b c → R a c)
    {others : List (σ → σ)} (hothers : ∀ g ∈ others, ∀ s, R s (g s)) {s s' : σ} (hs : R s s') :
    (p.runWith others s').1 = (p.run s).1 ∧ R (p.run s).2 (p.runWith others s').2 := by
  induction h generalizing others s s' with
  | done a =>
    refine ⟨rfl, ?_⟩
    show R s (others.foldl (fun s g => g s) s')
    induction others generalizing s' with
    | nil => exact hs
    | cons g gs ih =>
      exact ih (fun g' hg => hothers g' (by simp [hg])) (htrans _ _ _ hs (hothers g (by simp) s'))
  | stmt heffect hsame hnext ih =>
    -- the statement finds the store one step of the others later
    have hfound : R s (others.headD id s') := by
      cases others with
      | nil => exact hs
      | cons g gs => exact htrans _ _ _ hs (hothers g (by simp) s')
    rw [runWith_stmt, run_stmt, ← hsame _ _ hfound]
    exact ih s (fun g hg => hothers g (List.mem_of_mem_tail hg)) (heffect _ _ hfound)

end Blind

/-- What a script leaves alone is what the others make of it. -/
theorem Steps.runWith_proj {τ : Type} {q : σ → τ} {p : Script σ α}
    (h : Steps (fun s s' => q s' = q s) p) {ε : Type} {act : ε → σ → σ} {act' : ε → τ → τ}
    (hact : ∀ e s, q (act e s) = act' e (q s)) (es : List ε) (s : σ) :
    q (p.runWith (es.map act) s).2 = es.foldl (fun t e => act' e t) (q s) := by
  induction h generalizing es s with
  | done a =>
    show q ((es.map act).foldl (fun s g => g s) s) = _
    induction es generalizing s with
    | nil => rfl
    | cons e es ih =>
      rw [List.map_cons, List.foldl_cons, ih (act e s), List.foldl_cons, hact]
  | stmt heffect _ ih =>
    cases es with
    | nil => exact (ih _ [] _).trans (heffect s)
    | cons e es =>
      rw [List.map_cons, runWith_stmt, List.foldl_cons, ← hact, ← heffect (act e s)]
      exact ih _ es _

end Script
