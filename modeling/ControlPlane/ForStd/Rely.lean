import ControlPlane.ForStd.Pool

/-!
# Calls over a store that only moves forward

A `Discipline` says what always holds of a store and how it may change: an invariant, and
an order along which every statement of every call moves it. A call that keeps to the
discipline may rely on it between any two of its own statements, so what a statement read
is still true, in its stable part, when the next one executes.

`p.Under D post s` is that proof obligation for one call: started at `s` or anywhere
later, each of its statements keeps to `D`, and it ends with `post`.

## Key results

- `Under.bind`: the obligations compose along `bind`
- `Under.zoom`: a call on a part of the store keeps to a discipline of the whole
- `Pool.under_reach`: calls that each keep to the discipline do so in every interleaving
- `Pool.under_thread`: and each of them ends with its own postcondition
-/

/-- What holds of a store throughout, and the order along which it moves. -/
structure Discipline (σ : Type) where
  Holds : σ → Prop
  Le : σ → σ → Prop
  refl : ∀ s, Le s s
  trans : ∀ {a b c}, Le a b → Le b c → Le a c

/-- A move that keeps to the discipline. -/
def Discipline.Allows {σ : Type} (D : Discipline σ) (s s' : σ) : Prop := D.Holds s' ∧ D.Le s s'

/-- Doing nothing is allowed. -/
theorem Discipline.allows_self {σ : Type} {D : Discipline σ} {s : σ} (h : D.Holds s) :
    D.Allows s s := ⟨h, D.refl s⟩

namespace Script

variable {σ τ α β : Type} {D : Discipline σ}

/-- From `s` on, every statement keeps to `D`, and the result satisfies `post`, whatever
    the other calls do within `D`. -/
def Under (D : Discipline σ) (post : α → σ → Prop) : Script σ α → σ → Prop
  | .done a, s => ∀ t, D.Holds t → D.Le s t → post a t
  | .stmt effect next, s => ∀ t, D.Holds t → D.Le s t →
      D.Allows t (effect t) ∧ (next t).Under D post (effect t)

namespace Under

variable {post : α → σ → Prop}

/-- What may start at a store may start later. -/
theorem later {p : Script σ α} {s s' : σ} (h : p.Under D post s) (hle : D.Le s s') :
    p.Under D post s' := by
  cases p with
  | done a => exact fun t ht hst => h t ht (D.trans hle hst)
  | stmt effect next => exact fun t ht hst => h t ht (D.trans hle hst)

/-- A weaker answer is promised as well. -/
theorem weaken {post' : α → σ → Prop} {p : Script σ α} {s : σ}
    (hpost : ∀ a t, D.Holds t → post a t → post' a t) (h : p.Under D post s) :
    p.Under D post' s := by
  induction p generalizing s with
  | done a => exact fun t ht hst => hpost a t ht (h t ht hst)
  | stmt effect next ih =>
    intro t ht hst
    obtain ⟨hallow, hnext⟩ := h t ht hst
    exact ⟨hallow, ih t hnext⟩

/-- Every result satisfies the trivial postcondition. -/
theorem trivial {p : Script σ α} {s : σ} (h : p.Under D post s) :
    p.Under D (fun _ _ => True) s :=
  h.weaken fun _ _ _ _ => True.intro

/-- A script that is done promises what holds whatever the others do. -/
theorem done {a : α} {s : σ} (h : ∀ t, D.Holds t → D.Le s t → post a t) :
    (Script.done a).Under D post s := h

/-- The first part ends where the second may start. -/
theorem bind {post : β → σ → Prop} {p : Script σ α} {f : α → Script σ β} {s : σ}
    (hs : D.Holds s) (h : p.Under D (fun a t => (f a).Under D post t) s) :
    (p.bind f).Under D post s := by
  induction p generalizing s with
  | done a => exact h s hs (D.refl s)
  | stmt effect next ih =>
    intro t ht hst
    obtain ⟨hallow, hnext⟩ := h t ht hst
    exact ⟨hallow, ih t hallow.1 hnext⟩

/-- What the result is turned into says what the result said. -/
theorem map {f : α → β} {p : Script σ α} {s : σ} (h : p.Under D post s) :
    (p.bind fun a => .done (f a)).Under D (fun b t => ∃ a, b = f a ∧ post a t) s := by
  induction p generalizing s with
  | done a => exact fun t ht hst => ⟨a, rfl, h t ht hst⟩
  | stmt effect next ih =>
    intro t ht hst
    obtain ⟨hallow, hnext⟩ := h t ht hst
    exact ⟨hallow, ih t hnext⟩

/-- One statement: it keeps to the discipline, and its answer is good from then on. -/
theorem exec {f : σ → σ × α} {s : σ}
    (h : ∀ t, D.Holds t → D.Le s t → D.Allows t (f t).1 ∧
      ∀ u, D.Holds u → D.Le (f t).1 u → post (f t).2 u) :
    (Script.exec f).Under D post s := h

/-- A read promises what its value says of every later store. -/
theorem read {f : σ → α} {s : σ}
    (h : ∀ t, D.Holds t → D.Le s t → ∀ u, D.Holds u → D.Le t u → post (f t) u) :
    (Script.read f).Under D post s :=
  fun t ht hst => ⟨D.allows_self ht, h t ht hst⟩

/-- A statement and what follows it. -/
theorem exec_bind {post : β → σ → Prop} {f : σ → σ × α} {g : α → Script σ β} {s : σ}
    (h : ∀ t, D.Holds t → D.Le s t → D.Allows t (f t).1 ∧ (g (f t).2).Under D post (f t).1) :
    ((Script.exec f).bind g).Under D post s := h

/-- What follows a read may use what was read. -/
theorem read_bind {post : β → σ → Prop} {f : σ → α} {g : α → Script σ β} {s : σ}
    (h : ∀ t, D.Holds t → D.Le s t → (g (f t)).Under D post t) :
    ((Script.read f).bind g).Under D post s :=
  fun t ht hst => ⟨D.allows_self ht, h t ht hst⟩

/-- A script whose statements each keep to the discipline wherever they execute from `s` on. -/
theorem of_steps_later {p : Script σ α} {s : σ}
    (h : p.Steps fun t t' => D.Holds t → D.Le s t → D.Allows t t') :
    p.Under D (fun _ t => D.Le s t) s := by
  -- the induction moves the state forward, so the start is kept as a lower bound of it
  suffices hlater : ∀ u, D.Le s u → p.Under D (fun _ t => D.Le s t) u from hlater s (D.refl s)
  induction h with
  | done a => exact fun u hsu t _ hut => D.trans hsu hut
  | @stmt effect next heffect _ ih =>
    intro u hsu t ht hut
    have hallow := heffect t ht (D.trans hsu hut)
    exact ⟨hallow, ih t (effect t) (D.trans hsu (D.trans hut hallow.2))⟩

/-- A script whose statements each keep to the discipline wherever they execute. -/
theorem of_steps {p : Script σ α} (h : p.Steps fun t t' => D.Holds t → D.Allows t t') (s : σ) :
    p.Under D (fun _ t => D.Le s t) s :=
  of_steps_later (h.mono fun _ _ hstep ht _ => hstep ht)

end Under

/-- Every script has statements. -/
theorem Steps.any (p : Script σ α) : p.Steps fun _ _ => True := by
  induction p with
  | done a => exact .done a
  | stmt effect next ih => exact .stmt (fun _ => trivial) ih

/-! ## Part of a larger store -/

section zoom

variable {get : τ → σ} {set : τ → σ → τ}

/-- A script that is done, seen from the larger store. -/
@[simp] theorem zoom_done (a : α) : (Script.done a : Script σ α).zoom get set = .done a := rfl

/-- One statement, seen from the larger store. -/
@[simp] theorem zoom_exec (f : σ → σ × α) :
    (Script.exec f).zoom get set = Script.exec fun t => (set t (f (get t)).1, (f (get t)).2) := rfl

/-- One script after another, seen from the larger store. -/
@[simp] theorem zoom_bind (p : Script σ α) (f : α → Script σ β) :
    (p.bind f).zoom get set = (p.zoom get set).bind fun a => (f a).zoom get set := by
  induction p with
  | done a => rfl
  | stmt effect next ih => simp only [stmt_bind, zoom, ih]

/-- A call on a part keeps to the discipline of the whole, if what it may write to the part
    does, being one of its own statements (`R`). -/
theorem Under.zoom {E : Discipline τ} {R : σ → σ → Prop} {post : α → σ → Prop}
    (hholds : ∀ t, E.Holds t → D.Holds (get t)) (hle : ∀ t u, E.Le t u → D.Le (get t) (get u))
    (hget : ∀ t s, get (set t s) = s)
    (hset : ∀ t s, E.Holds t → D.Allows (get t) s → R (get t) s → E.Allows t (set t s))
    {p : Script σ α} {t : τ} (hsteps : p.Steps R) (h : p.Under D post (get t)) :
    (p.zoom get set).Under E (fun a u => post a (get u)) t := by
  induction hsteps generalizing t with
  | done a => exact fun u hu htu => h (get u) (hholds u hu) (hle t u htu)
  | @stmt effect next heffect _ ih =>
    intro u hu htu
    obtain ⟨hallow, hnext⟩ := h (get u) (hholds u hu) (hle t u htu)
    refine ⟨hset u _ hu hallow (heffect (get u)), ih (get u) ?_⟩
    -- what the inner script wrote is what it reads next
    rw [hget]
    exact hnext

/-- A read, seen from the larger store. -/
theorem zoom_read (hset : ∀ t, set t (get t) = t) (f : σ → α) :
    (Script.read f).zoom get set = Script.read fun t => f (get t) := by
  have : (fun t => set t (get t)) = id := funext hset
  show Script.stmt (fun t => set t (get t)) _ = _
  rw [this]
  rfl

end zoom

end Script

namespace Pool

variable {σ α : Type} {D : Discipline σ} {Call : Script σ α → Prop}

/-- Every call under way keeps to the discipline from where the store is. -/
def Under (D : Discipline σ) (post : α → σ → Prop) (c : Pool σ α) : Prop :=
  D.Holds c.store ∧ ∀ p ∈ c.threads, p.Under D post c.store

/-- A step of any thread keeps every thread's promise. -/
theorem Under.step {post : α → σ → Prop} {c c' : Pool σ α} (hc : c.Under D post)
    (hcall : ∀ p, Call p → ∀ s, D.Holds s → p.Under D post s) (h : Step Call c c') :
    c'.Under D post ∧ D.Le c.store c'.store := by
  obtain ⟨hholds, hthreads⟩ := hc
  cases h with
  -- a new thread begins under the promise of its call
  | @start s ts p hp =>
    refine ⟨⟨hholds, fun q hq => ?_⟩, D.refl s⟩
    rcases List.mem_append.mp hq with hq | hq
    · exact hthreads q hq
    · exact List.mem_singleton.mp hq ▸ hcall p hp s hholds
  -- the step of one thread is a later store for the others
  | @advance s pre rest effect next =>
    obtain ⟨hallow, hnext⟩ := hthreads (.stmt effect next) (by simp) s hholds (D.refl s)
    refine ⟨⟨hallow.1, fun q hq => ?_⟩, hallow.2⟩
    rcases List.mem_append.mp hq with hq | hq
    · exact (hthreads q (by simp [hq])).later hallow.2
    · rcases List.mem_cons.mp hq with rfl | hq
      · exact hnext
      · exact (hthreads q (by simp [hq])).later hallow.2

/-- Calls that each keep to the discipline do so in every interleaving. -/
theorem under_reach {post : α → σ → Prop} {c c' : Pool σ α} (hc : c.Under D post)
    (hcall : ∀ p, Call p → ∀ s, D.Holds s → p.Under D post s) (h : Reach Call c c') :
    c'.Under D post ∧ D.Le c.store c'.store := by
  induction h with
  | refl => exact ⟨hc, D.refl c.store⟩
  | tail _ hstep ih =>
    obtain ⟨hunder, hle⟩ := ih
    obtain ⟨hunder', hle'⟩ := hunder.step hcall hstep
    exact ⟨hunder', D.trans hle hle'⟩

/-- The result of a call satisfies the postcondition. -/
theorem Under.result {post : α → σ → Prop} {c : Pool σ α} (h : c.Under D post) {a : α}
    (ha : .done a ∈ c.threads) : post a c.store :=
  h.2 _ ha c.store h.1 (D.refl c.store)

/-- A thread keeps its place. -/
theorem Under.thread_step {post : α → σ → Prop} {c c' : Pool σ α}
    (hc : c.Under D fun _ _ => True)
    (hcall : ∀ p, Call p → ∀ s, D.Holds s → p.Under D (fun _ _ => True) s)
    (h : Step Call c c') {n : Nat} {p : Script σ α} (hn : c.threads[n]? = some p)
    (hp : p.Under D post c.store) :
    ∃ p', c'.threads[n]? = some p' ∧ p'.Under D post c'.store := by
  have hle := (hc.step hcall h).2
  cases h with
  | @start s ts q hq =>
    have hlt := (List.getElem?_eq_some_iff.mp hn).1
    exact ⟨p, by rw [List.getElem?_append_left hlt, hn], hp⟩
  | @advance s pre rest effect next =>
    dsimp only at hn hp hle ⊢
    rcases lt_trichotomy n pre.length with hlt | rfl | hgt
    · rw [List.getElem?_append_left hlt] at hn ⊢
      exact ⟨p, hn, hp.later hle⟩
    · -- the thread itself executes
      rw [List.getElem?_append_right le_rfl, Nat.sub_self, List.getElem?_cons_zero] at hn ⊢
      obtain rfl := Option.some.inj hn
      exact ⟨next s, rfl, (hp s hc.1 (D.refl s)).2⟩
    · rw [List.getElem?_append_right hgt.le] at hn ⊢
      obtain ⟨k, hk⟩ : ∃ k, n - pre.length = k + 1 := ⟨n - pre.length - 1, by omega⟩
      rw [hk, List.getElem?_cons_succ] at hn ⊢
      exact ⟨p, hn, hp.later hle⟩

/-- One call among others that keep to the discipline ends with its own postcondition. -/
theorem under_thread {post : α → σ → Prop} {c c' : Pool σ α} (hc : c.Under D fun _ _ => True)
    (hcall : ∀ p, Call p → ∀ s, D.Holds s → p.Under D (fun _ _ => True) s)
    (h : Reach Call c c') {n : Nat} {p : Script σ α} (hn : c.threads[n]? = some p)
    (hp : p.Under D post c.store) :
    ∃ p', c'.threads[n]? = some p' ∧ p'.Under D post c'.store := by
  induction h with
  | refl => exact ⟨p, hn, hp⟩
  | tail hreach hstep ih =>
    obtain ⟨q, hq, hunder⟩ := ih
    exact (under_reach hc hcall hreach).1.thread_step hcall hstep hq hunder

/-- What the call answers, once it is done. -/
theorem thread_result {post : α → σ → Prop} {c c' : Pool σ α} (hc : c.Under D fun _ _ => True)
    (hcall : ∀ p, Call p → ∀ s, D.Holds s → p.Under D (fun _ _ => True) s)
    (h : Reach Call c c') {n : Nat} {p : Script σ α} {a : α} (hn : c.threads[n]? = some p)
    (hp : p.Under D post c.store) (hdone : c'.threads[n]? = some (.done a)) :
    post a c'.store := by
  obtain ⟨p', hp', hunder⟩ := under_thread hc hcall h hn hp
  obtain rfl : p' = .done a := Option.some.inj (hp'.symm.trans hdone)
  exact hunder c'.store (under_reach hc hcall h).1.1 (D.refl _)

end Pool
