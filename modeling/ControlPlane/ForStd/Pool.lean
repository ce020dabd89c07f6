import ControlPlane.ForStd.Script
import Mathlib.Algebra.BigOperators.Group.List.Basic
import Mathlib.Algebra.Order.BigOperators.Group.List
import Mathlib.Logic.Relation
import Mathlib.Tactic.Abel

/-!
# Interleaved scripts

Any number of calls run against one store, one atomic statement at a time, in
any order. A call that dies is a thread that is never scheduled again, so a
dead call and a slow one are the same thread.

The proof rule is a labelling: every thread of a reachable pool is the script
of some label from a first-order type, and the invariant talks about the store
and the labels. `conserved` is its main instance: what the calls still owe to
the counters, summed over all threads, is exactly what separates the counters
from the rows they summarise.

## Key results

- `Labelled.step` / `Labelled.reach`: the labelled invariant rule
- `conserved`: counters plus outstanding debt equal the booked rows
- `reach_exec`: a schedule computed by `exec` is a run
-/

/-- Calls in progress against one store. -/
structure Pool (σ : Type) (α : Type) where
  store : σ
  threads : List (Script σ α)

namespace Pool

variable {σ α Λ : Type} {Call : Script σ α → Prop}

/-- One step: a new call starts, or one thread executes its next statement. -/
inductive Step (Call : Script σ α → Prop) : Pool σ α → Pool σ α → Prop
  | start {s : σ} {ts : List (Script σ α)} {p : Script σ α} (h : Call p) :
      Step Call ⟨s, ts⟩ ⟨s, ts ++ [p]⟩
  | advance {s : σ} {pre post : List (Script σ α)} {effect : σ → σ}
      {next : σ → Script σ α} :
      Step Call ⟨s, pre ++ .stmt effect next :: post⟩ ⟨effect s, pre ++ next s :: post⟩

/-- A run: any number of steps. -/
abbrev Reach (Call : Script σ α → Prop) : Pool σ α → Pool σ α → Prop :=
  Relation.ReflTransGen (Step Call)

/-- Every call that was started has come to its end. -/
def AllDone (c : Pool σ α) : Prop :=
  ∀ p ∈ c.threads, ∃ a, p = .done a

/-- How many calls are under way. A dead call stays under way. -/
def inFlight (c : Pool σ α) : Nat :=
  c.threads.countP (fun p => !p.isDone)

/-- A run with at most `k` calls under way at any time. -/
abbrev ReachWithin (Call : Script σ α → Prop) (k : Nat) : Pool σ α → Pool σ α → Prop :=
  Relation.ReflTransGen (fun c c' => Step Call c c' ∧ c'.inFlight ≤ k)

/-! ## Labelled invariants -/

/-- The threads are the scripts of some labels for which the invariant holds. -/
def Labelled (script : Λ → Script σ α) (Inv : σ → List Λ → Prop) (c : Pool σ α) : Prop :=
  ∃ ls : List Λ, c.threads = ls.map script ∧ Inv c.store ls

/-- A step keeps the labelled invariant, where a start and an advance do. -/
theorem Labelled.step {script : Λ → Script σ α} {Inv : σ → List Λ → Prop} {c c' : Pool σ α}
    (h : Step Call c c') (hc : Labelled script Inv c)
    (hstart : ∀ p ls, Call p → c' = ⟨c.store, c.threads ++ [p]⟩ → c.threads = ls.map script →
      Inv c.store ls → ∃ l, script l = p ∧ Inv c.store (ls ++ [l]))
    (hadvance : ∀ s pre l post effect next, script l = .stmt effect next →
      Inv s (pre ++ l :: post) → ∃ l', script l' = next s ∧ Inv (effect s) (pre ++ l' :: post)) :
    Labelled script Inv c' := by
  obtain ⟨ls, hls, hinv⟩ := hc
  cases h with
  | start hp =>
    obtain ⟨l, hl, hinv'⟩ := hstart _ ls hp rfl hls hinv
    refine ⟨ls ++ [l], ?_, hinv'⟩
    rw [List.map_append, List.map_singleton, hl, ← hls]
  | @advance s pre post effect next =>
    -- the thread that moves is the script of one label in the middle of `ls`
    obtain ⟨lpre, ltail, rfl, hpre, htail⟩ := List.map_eq_append_iff.mp hls.symm
    obtain ⟨l, lpost, rfl, hl, hpost⟩ := List.map_eq_cons_iff.mp htail
    obtain ⟨l', hl', hinv'⟩ := hadvance s lpre l lpost effect next hl hinv
    exact ⟨lpre ++ l' :: lpost, by simp [hpre, hl', hpost], hinv'⟩

/-- An invariant on labels that starting a call and executing a statement both
    preserve holds in every reachable pool. -/
theorem Labelled.reach {script : Λ → Script σ α} {Inv : σ → List Λ → Prop} {c c' : Pool σ α}
    (hc : Labelled script Inv c) (h : Reach Call c c')
    (hstart : ∀ p s ls, Call p → Inv s ls → ∃ l, script l = p ∧ Inv s (ls ++ [l]))
    (hadvance : ∀ s pre l post effect next, script l = .stmt effect next →
      Inv s (pre ++ l :: post) → ∃ l', script l' = next s ∧ Inv (effect s) (pre ++ l' :: post)) :
    Labelled script Inv c' := by
  induction h with
  | refl => exact hc
  | tail _ hstep ih =>
    exact ih.step hstep (fun p ls hp _ _ hinv => hstart p _ ls hp hinv) hadvance

/-! ## Conservation

`posted` are counters, `booked` is what the counters should say by the rows
they summarise, and `debt l` is what a thread with label `l` still has to post.
-/

section Conservation

variable {M : Type} [AddCommGroup M]

/-- Counters plus the debt of all threads equal the booked rows. -/
def Conserved (posted booked : σ → M) (debt : Λ → M) (s : σ) (ls : List Λ) : Prop :=
  posted s + (ls.map debt).sum = booked s

/-- If each statement moves between the counters, the rows and the debt of its
    own thread without loss, so does every interleaving. `Ok` is what the labels
    of the threads are known to satisfy. -/
theorem conserved {script : Λ → Script σ α} {posted booked : σ → M} {debt : Λ → M}
    {Ok : Λ → Prop} {I : σ → Prop} {s₀ : σ} {c : Pool σ α} (h : Reach Call ⟨s₀, []⟩ c)
    (h₀ : posted s₀ = booked s₀) (hI : I s₀)
    (hstart : ∀ p, Call p → ∃ l, script l = p ∧ Ok l ∧ debt l = 0)
    (hadvance : ∀ s l effect next, I s → Ok l → script l = .stmt effect next →
      I (effect s) ∧ ∃ l', script l' = next s ∧ Ok l' ∧
        posted (effect s) + debt l' + booked s = posted s + debt l + booked (effect s)) :
    ∃ ls : List Λ, c.threads = ls.map script ∧ (∀ l ∈ ls, Ok l) ∧ I c.store ∧
      Conserved posted booked debt c.store ls := by
  have hempty : Labelled script (fun s ls => (∀ l ∈ ls, Ok l) ∧ I s ∧
      Conserved posted booked debt s ls) ⟨s₀, []⟩ := ⟨[], rfl, by simp, hI, by simpa [Conserved]⟩
  -- a thread starts without debt; a statement moves between its own debt and the store
  refine hempty.reach h ?_ ?_
  · rintro p s ls hp ⟨hok, hs, hcons⟩
    obtain ⟨l, hl, hlok, hdebt⟩ := hstart p hp
    refine ⟨l, hl, ?_, hs, ?_⟩
    · simpa [or_imp, forall_and, hlok] using hok
    · simpa [Conserved, hdebt] using hcons
  · rintro s pre l post effect next hl ⟨hok, hs, hcons⟩
    have hlok : Ok l := hok l (by simp)
    obtain ⟨hs', l', hl', hlok', hbal⟩ := hadvance s l effect next hs hlok hl
    refine ⟨l', hl', ?_, hs', ?_⟩
    · intro x hx
      rcases List.mem_append.mp hx with hx | hx
      · exact hok x (by simp [hx])
      · rcases List.mem_cons.mp hx with rfl | hx
        · exact hlok'
        · exact hok x (by simp [hx])
    · -- the other threads' debts cancel from both sides
      simp only [Conserved, List.map_append, List.map_cons, List.sum_append,
        List.sum_cons] at hcons ⊢
      have hrest : posted (effect s) + debt l' - posted s - debt l =
          booked (effect s) - booked s := by
        rw [sub_sub, sub_eq_sub_iff_add_eq_add, hbal]; abel
      have : booked (effect s) = booked s + (posted (effect s) + debt l' - posted s - debt l) := by
        rw [hrest]; abel
      rw [this, ← hcons]; abel

end Conservation

/-! ## Computed schedules -/

/-- Let the thread with index `i` execute its next statement, if it has one. -/
def tick (c : Pool σ α) (i : Nat) : Pool σ α :=
  match c.threads[i]? with
  | some (.stmt effect next) => ⟨effect c.store, c.threads.set i (next c.store)⟩
  | _ => c

/-- Let threads execute in the order of the schedule. -/
def exec (c : Pool σ α) (schedule : List Nat) : Pool σ α :=
  schedule.foldl tick c

/-- Two schedules one after the other. -/
theorem exec_append (c : Pool σ α) (first second : List Nat) :
    c.exec (first ++ second) = (c.exec first).exec second := List.foldl_append ..

/-- One tick more. -/
theorem exec_concat (c : Pool σ α) (schedule : List Nat) (i : Nat) :
    c.exec (schedule ++ [i]) = (c.exec schedule).tick i := exec_append c schedule [i]

/-! What one tick does to the store and to the threads. -/

/-- A tick of no thread does nothing. -/
theorem tick_of_none {c : Pool σ α} {i : Nat} (h : c.threads[i]? = none) : c.tick i = c := by
  rw [tick, h]

/-- A tick of a thread that is done does nothing. -/
theorem tick_of_done {c : Pool σ α} {i : Nat} {a : α} (h : c.threads[i]? = some (.done a)) :
    c.tick i = c := by
  rw [tick, h]

/-- A tick of a thread runs its next statement. -/
theorem tick_of_stmt {c : Pool σ α} {i : Nat} {effect : σ → σ} {next : σ → Script σ α}
    (h : c.threads[i]? = some (.stmt effect next)) :
    c.tick i = ⟨effect c.store, c.threads.set i (next c.store)⟩ := by
  rw [tick, h]

/-- The statement's effect is on the store. -/
theorem store_tick {c : Pool σ α} {i : Nat} {effect : σ → σ} {next : σ → Script σ α}
    (h : c.threads[i]? = some (.stmt effect next)) : (c.tick i).store = effect c.store := by
  rw [tick_of_stmt h]

/-- And its thread goes on with what follows. -/
theorem threads_tick_self {c : Pool σ α} {i : Nat} {effect : σ → σ} {next : σ → Script σ α}
    (h : c.threads[i]? = some (.stmt effect next)) :
    (c.tick i).threads[i]? = some (next c.store) := by
  rw [tick_of_stmt h, List.getElem?_set_self (List.getElem?_eq_some_iff.mp h).1]

/-- A thread that is done stays done. -/
theorem threads_tick_done {c : Pool σ α} {i : Nat} {a : α}
    (h : c.threads[i]? = some (.done a)) : (c.tick i).threads[i]? = some (.done a) := by
  rw [tick_of_done h, h]

/-- The other threads stay where they are. -/
theorem threads_tick_of_ne {c : Pool σ α} {i j : Nat} (h : j ≠ i) :
    (c.tick j).threads[i]? = c.threads[i]? := by
  unfold tick
  split
  · exact List.getElem?_set_ne h
  · rfl

/-- A thread that has come to its end stays there. -/
theorem threads_exec_done {c : Pool σ α} {i : Nat} {a : α} (h : c.threads[i]? = some (.done a))
    (schedule : List Nat) : (c.exec schedule).threads[i]? = some (.done a) := by
  induction schedule generalizing c with
  | nil => exact h
  | cons j rest ih =>
    apply ih
    by_cases hj : j = i
    · rw [hj, threads_tick_done h]
    · rw [threads_tick_of_ne hj, h]

/-- No thread starts or is lost. -/
theorem length_threads_exec (c : Pool σ α) (schedule : List Nat) :
    (c.exec schedule).threads.length = c.threads.length := by
  induction schedule generalizing c with
  | nil => rfl
  | cons i rest ih =>
    refine (ih (c.tick i)).trans ?_
    unfold tick
    split
    · exact List.length_set
    · rfl

/-- A tick is a step of one thread, or nothing. -/
theorem tick_cases (c : Pool σ α) (i : Nat) :
    c.tick i = c ∨ ∃ pre post effect next, c = ⟨c.store, pre ++ .stmt effect next :: post⟩ ∧
      c.tick i = ⟨effect c.store, pre ++ next c.store :: post⟩ := by
  obtain ⟨s, ts⟩ := c
  simp only [tick]
  split
  -- the thread at this place has a statement left
  next effect next h =>
    obtain ⟨hi, hget⟩ := List.getElem?_eq_some_iff.mp h
    refine .inr ⟨ts.take i, ts.drop (i + 1), effect, next, ?_, ?_⟩
    · rw [← hget, List.getElem_cons_drop, List.take_append_drop]
    · rw [List.set_eq_take_append_cons_drop, if_pos hi]
  next => exact .inl rfl

/-- A thread that is not scheduled stays where it is. -/
theorem getElem?_exec {n : Nat} {schedule : List Nat} (h : n ∉ schedule) (c : Pool σ α) :
    (c.exec schedule).threads[n]? = c.threads[n]? := by
  induction schedule generalizing c with
  | nil => rfl
  | cons i rest ih =>
    simp only [List.mem_cons, not_or] at h
    rw [exec, List.foldl_cons, ← exec, ih h.2, threads_tick_of_ne (Ne.symm h.1)]

/-- A tick starts nothing. -/
theorem inFlight_tick (c : Pool σ α) (i : Nat) : (c.tick i).inFlight ≤ c.inFlight := by
  rcases c.tick_cases i with h | ⟨pre, post, effect, next, hc, h⟩
  · rw [h]
  · rw [h, hc]
    simp only [inFlight, List.countP_append, List.countP_cons, Script.isDone_stmt, Bool.not_false,
      if_true]
    split <;> omega

/-- A schedule starts no thread, so it stays within the number in flight. -/
theorem reachWithin_exec {k : Nat} (c : Pool σ α) (hk : c.inFlight ≤ k) (schedule : List Nat) :
    ReachWithin Call k c (c.exec schedule) := by
  induction schedule generalizing c with
  | nil => exact .refl
  | cons i rest ih =>
    have htick := c.inFlight_tick i
    have hrest : ReachWithin Call k (c.tick i) (c.exec (i :: rest)) :=
      ih (c.tick i) (htick.trans hk)
    -- a turn that goes to nobody changes nothing
    rcases c.tick_cases i with h | ⟨pre, post, effect, next, hc, h⟩
    · rwa [h] at hrest
    · refine .head ⟨?_, htick.trans hk⟩ hrest
      rw [h, hc]
      exact .advance

/-- What is reached within a bound is reached. -/
theorem reach_of_reachWithin {k : Nat} {c c' : Pool σ α} (h : ReachWithin Call k c c') :
    Reach Call c c' :=
  Relation.ReflTransGen.mono (fun _ _ hstep => hstep.1) _ _ h

/-- Every schedule is a way to reach its state. -/
theorem reach_exec (c : Pool σ α) (schedule : List Nat) : Reach Call c (c.exec schedule) :=
  reach_of_reachWithin (c.reachWithin_exec le_rfl schedule)

/-- Starting the calls `ps` one after the other is a run. -/
theorem reachWithin_start {k : Nat} (s : σ) (ts ps : List (Script σ α)) (h : ∀ p ∈ ps, Call p)
    (hk : (⟨s, ts ++ ps⟩ : Pool σ α).inFlight ≤ k) :
    ReachWithin Call k ⟨s, ts⟩ ⟨s, ts ++ ps⟩ := by
  induction ps generalizing ts with
  | nil => simpa using .refl
  | cons p ps ih =>
    rw [List.append_cons] at hk ⊢
    refine .head ⟨.start (h p (by simp)), ?_⟩ (ih (ts ++ [p]) (fun q hq => h q (by simp [hq])) hk)
    simp only [inFlight, List.countP_append] at hk ⊢
    omega

/-- Any calls may be started one after the other. -/
theorem reach_start (s : σ) (ts ps : List (Script σ α)) (h : ∀ p ∈ ps, Call p) :
    Reach Call ⟨s, ts⟩ ⟨s, ts ++ ps⟩ :=
  reach_of_reachWithin (reachWithin_start s ts ps h le_rfl)

end Pool
