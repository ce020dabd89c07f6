import ControlPlane.ForStd.Script

/-!
# Calls cut while others write

`Script.among` runs a call among the writes of other calls, the next of them right before
each of its statements, to its end or until a statement fails. The failing statement may
have been sent, and can take effect later: `Script.sent`.

## Key results

- `Steps.among` / `Reading.among`: what each statement keeps, the call keeps, and what it has
  sent will keep
- `Ensures.among`: a call that comes to its end has written
-/

namespace Script

variable {σ α : Type}

/-- The effects of other calls, in order. -/
def applyAll (others : List (σ → σ)) (s : σ) : σ := others.foldl (fun s g => g s) s

/-- The stores between those effects. -/
def moments (others : List (σ → σ)) (s : σ) : List σ := others.scanl (fun s g => g s) s

/-- Run a script among the effects of other calls until it ends or, after `limit` statements,
    the next one fails: what is left of it, and the store. -/
def among : Script σ α → Option Nat → List (σ → σ) → σ → Script σ α × σ
  | .done a, _, others, s => (.done a, applyAll others s)
  | .stmt effect next, limit, others, s =>
    if limit = some 0 then (.stmt effect next, applyAll others s)
    else
      let found := others.headD id s
      (next found).among (limit.map (· - 1)) others.tail (effect found)

/-- The effect of the statement a script stands at. -/
def sent : Script σ α → List (σ → σ)
  | .done _ => []
  | .stmt effect _ => [effect]

section moments

variable {others : List (σ → σ)} {s m : σ}

theorem headD_mem_moments : others.headD id s ∈ moments others s := by
  cases others with
  | nil => simp [moments]
  | cons g gs => cases gs <;> simp [moments]

theorem mem_moments_of_tail (h : m ∈ moments others.tail (others.headD id s)) :
    m ∈ moments others s := by
  cases others with
  | nil => exact h
  | cons g gs =>
    unfold moments
    rw [List.scanl_cons]
    exact List.mem_cons_of_mem s h

theorem applyAll_keeps {I : σ → Prop} (hothers : ∀ g ∈ others, ∀ s, I s → I (g s)) (hs : I s) :
    I (applyAll others s) := by
  induction others generalizing s with
  | nil => exact hs
  | cons g gs ih =>
    exact ih (fun g' hg => hothers g' (List.mem_cons_of_mem g hg))
      (hothers g List.mem_cons_self s hs)

theorem headD_keeps {I : σ → Prop} (hothers : ∀ g ∈ others, ∀ s, I s → I (g s)) (hs : I s) :
    I (others.headD id s) := by
  cases others with
  | nil => exact hs
  | cons g gs => exact hothers g List.mem_cons_self s hs

end moments

/-! ## What every statement keeps -/

section keeps

variable {R : σ → σ → Prop} {p : Script σ α} {others : List (σ → σ)}

theorem applyAll_rel (hrefl : ∀ s, R s s) (htrans : ∀ a b c, R a b → R b c → R a c)
    (hothers : ∀ g ∈ others, ∀ s, R s (g s)) (s : σ) : R s (applyAll others s) :=
  applyAll_keeps (I := R s) (fun g hg t ht => htrans _ _ _ ht (hothers g hg t)) (hrefl s)

theorem headD_rel (hrefl : ∀ s, R s s) (hothers : ∀ g ∈ others, ∀ s, R s (g s)) (s : σ) :
    R s (others.headD id s) := by
  cases others with
  | nil => exact hrefl s
  | cons g gs => exact hothers g List.mem_cons_self s

/-- What a script has sent is one of its statements. -/
theorem Steps.sent (h : Steps R p) : ∀ g ∈ p.sent, ∀ s, R s (g s) := by
  intro g hg s
  cases h with
  | done a => cases hg
  | stmt heffect _ =>
    obtain rfl := List.mem_singleton.mp hg
    exact heffect s

/-- A reflexive and transitive relation that the statements and the others keep holds across
    the run, and of what was sent. -/
theorem Steps.among (h : Steps R p) (hrefl : ∀ s, R s s)
    (htrans : ∀ a b c, R a b → R b c → R a c) (hothers : ∀ g ∈ others, ∀ s, R s (g s))
    (limit : Option Nat) (s : σ) :
    R s (p.among limit others s).2 ∧ ∀ g ∈ (p.among limit others s).1.sent, ∀ t, R t (g t) := by
  induction h generalizing limit others s with
  | done a =>
    refine ⟨applyAll_rel hrefl htrans hothers s, fun g hg => ?_⟩
    cases hg
  | stmt heffect hnext ih =>
    unfold Script.among
    split
    -- the statement failed: only the others have run, and it may still take effect
    · exact ⟨applyAll_rel hrefl htrans hothers s, (Steps.stmt heffect hnext).sent⟩
    -- the next of the others writes, then the statement
    · have htail : ∀ g ∈ others.tail, ∀ s, R s (g s) := fun g hg => hothers g (List.mem_of_mem_tail hg)
      obtain ⟨hrun, hsent⟩ := ih (others.headD id s) htail (limit.map (· - 1)) _
      exact ⟨htrans _ _ _ (htrans _ _ _ (headD_rel hrefl hothers s) (heffect _)) hrun, hsent⟩

/-- A script that reads, from stores in `M`, and then goes on as one with `Q`. -/
inductive Reading (M : σ → Prop) (Q : Script σ α → Prop) : Script σ α → Prop
  | act {p : Script σ α} (h : Q p) : Reading M Q p
  | read {next : σ → Script σ α} (h : ∀ m, M m → Reading M Q (next m)) :
    Reading M Q (.stmt id next)

/-- The reads of a call find the stores between the writes of the others. -/
theorem Reading.among {M : σ → Prop} (h : Reading M (Steps R) p) (hrefl : ∀ s, R s s)
    (htrans : ∀ a b c, R a b → R b c → R a c) (hothers : ∀ g ∈ others, ∀ s, R s (g s))
    (limit : Option Nat) {s : σ} (hM : ∀ m ∈ moments others s, M m) :
    R s (p.among limit others s).2 ∧ ∀ g ∈ (p.among limit others s).1.sent, ∀ t, R t (g t) := by
  induction h generalizing limit others s with
  | act h => exact h.among hrefl htrans hothers limit s
  | read _ ih =>
    unfold Script.among
    split
    -- a read that failed has nothing to take effect
    · refine ⟨applyAll_rel hrefl htrans hothers s, fun g hg t => ?_⟩
      obtain rfl := List.mem_singleton.mp hg
      exact hrefl t
    · have htail : ∀ g ∈ others.tail, ∀ s, R s (g s) := fun g hg => hothers g (List.mem_of_mem_tail hg)
      obtain ⟨hrun, hsent⟩ := ih _ (hM _ headD_mem_moments) htail (limit.map (· - 1))
        (fun m hm => hM m (mem_moments_of_tail hm))
      exact ⟨htrans _ _ _ (headD_rel hrefl hothers s) hrun, hsent⟩

end keeps

/-! ## What a complete run writes -/

/-- A script that reads, from stores with `J`, and then executes a statement that brings
    `post` about, which the rest of it keeps. -/
inductive Ensures (J post : σ → Prop) : Script σ α → Prop
  | write {effect : σ → σ} {next : σ → Script σ α} (heffect : ∀ s, J s → post (effect s))
    (hnext : ∀ s, Steps (fun a b => post a → post b) (next s)) : Ensures J post (.stmt effect next)
  | read {next : σ → Script σ α} (h : ∀ s, J s → Ensures J post (next s)) :
    Ensures J post (.stmt id next)

/-- It does so among any writes that keep `J` and `post`. -/
theorem Ensures.among {J post : σ → Prop} {p : Script σ α} (h : Ensures J post p)
    {others : List (σ → σ)} (hJ : ∀ g ∈ others, ∀ s, J s → J (g s))
    (hpost : ∀ g ∈ others, ∀ s, post s → post (g s)) {s : σ} (hs : J s) :
    post (p.among none others s).2 := by
  induction h generalizing others s with
  | @write effect next heffect hnext =>
    rw [Script.among, if_neg (by simp)]
    have hrest : ∀ g ∈ others.tail, ∀ t, post t → post (g t) :=
      fun g hg => hpost g (List.mem_of_mem_tail hg)
    -- once written it is kept, by the rest of the script and by the others
    have hkept := (hnext (others.headD id s)).among (fun _ h => h)
      (fun _ _ _ hab hbc h => hbc (hab h)) hrest none (effect (others.headD id s))
    exact hkept.1 (heffect _ (headD_keeps hJ hs))
  -- a read leaves the store to what follows
  | read _ ih =>
    rw [Script.among, if_neg (by simp)]
    exact ih _ (headD_keeps hJ hs) (fun g hg => hJ g (List.mem_of_mem_tail hg))
      (fun g hg => hpost g (List.mem_of_mem_tail hg)) (headD_keeps hJ hs)

/-! ## Part of a larger store -/

/-- What the statements on the part keep, they keep in the whole. -/
theorem Steps.zoom {τ : Type} {R : σ → σ → Prop} {R' : τ → τ → Prop} {p : Script σ α}
    (h : Steps R p) {get : τ → σ} {set : τ → σ → τ}
    (hset : ∀ t s, R (get t) s → R' t (set t s)) : Steps R' (p.zoom get set) := by
  induction h with
  | done a => exact .done a
  | stmt heffect _ ih => exact .stmt (fun t => hset t _ (heffect (get t))) (fun t => ih (get t))

end Script
