import Mathlib.Algebra.BigOperators.Group.List.Basic
import Mathlib.Algebra.Order.BigOperators.Group.List
import Mathlib.Logic.Relation
import Mathlib.Tactic.Linarith
import Mathlib.Tactic.Ring

/-!
# An abstract two-pool spend gate

Requests pass a gate while a pool has room, learn their charge only afterwards,
and book it in three writes: the row, the allowance counter, the credit counter.
This module says how far the counters can overshoot when up to `inFlight`
requests are under way together, in numbers alone: no store, no accounts.

A request that starts while both pools are used up can never be admitted, since
the pools only ever fill. So what can still be spent (`pot`) grows only when a
request starts while a pool has room, and at such a moment everything in flight
is bounded by `inFlight` charges.

## Key results

- `Inv.move` / `Inv.start`: the invariant is preserved by each kind of step
- `recorded_bound`: the rows stay below both pools plus `2 * inFlight - 1` charges
- `allowance_bound`: the allowance counter overshoots by at most `inFlight - 1` charges
-/

namespace ControlPlane.SpendGate

/-- The two pools, the largest charge of a request, and how many requests are
    under way at most. -/
structure Limits where
  included : Int
  credit : Int
  largest : Int
  inFlight : Int
  included_nonneg : 0 ≤ included
  credit_nonneg : 0 ≤ credit
  largest_nonneg : 0 ≤ largest
  inFlight_pos : 1 ≤ inFlight

/-- The two counters and the sum of the rows. -/
structure Pools where
  allowance : Int
  spent : Int
  recorded : Int

/-- Where one request stands. -/
inductive Token where
  /-- Not past the gate; `opened` says whether a pool had room when it started. -/
  | waiting (charge : Int) (opened : Bool)
  | admitted (charge : Int)
  /-- The charge is split, its row is not stored. -/
  | priced (fromAllowance fromCredit : Int)
  /-- The row is stored, neither counter is advanced. -/
  | stored (fromAllowance fromCredit : Int)
  | spending (fromCredit : Int)
  | finished

/-- One write or decision of one request. -/
inductive Move (L : Limits) : Pools → Token → Pools → Token → Prop
  | refuse (p : Pools) (charge : Int) (opened : Bool) :
      Move L p (.waiting charge opened) p .finished
  | pass (p : Pools) (charge : Int) : Move L p (.waiting charge true) p (.admitted charge)
  | drop (p : Pools) (charge : Int) : Move L p (.admitted charge) p .finished
  | split (p : Pools) (charge fromAllowance fromCredit : Int) (hallowance : 0 ≤ fromAllowance)
      (hcredit : 0 ≤ fromCredit) (hcharge : fromAllowance + fromCredit ≤ charge)
      (hroom : fromAllowance ≤ max 0 (L.included - p.allowance))
      (hfull : 0 < fromCredit → L.included ≤ p.allowance + fromAllowance) :
      Move L p (.admitted charge) p (.priced fromAllowance fromCredit)
  | ignore (p : Pools) (fromAllowance fromCredit : Int) :
      Move L p (.priced fromAllowance fromCredit) p .finished
  | store (p : Pools) (fromAllowance fromCredit : Int) :
      Move L p (.priced fromAllowance fromCredit)
        { p with recorded := p.recorded + (fromAllowance + fromCredit) }
        (.stored fromAllowance fromCredit)
  | advance (p : Pools) (fromAllowance fromCredit : Int) :
      Move L p (.stored fromAllowance fromCredit)
        { p with allowance := p.allowance + fromAllowance } (.spending fromCredit)
  | spend (p : Pools) (fromCredit : Int) :
      Move L p (.spending fromCredit) { p with spent := p.spent + fromCredit } .finished

namespace Token

/-- What a request can still put into the counters. -/
def pot : Token → Int
  | .waiting charge opened => if opened then charge else 0
  | .admitted charge => charge
  | .priced fromAllowance fromCredit => fromAllowance + fromCredit
  | .stored fromAllowance fromCredit => fromAllowance + fromCredit
  | .spending fromCredit => fromCredit
  | .finished => 0

/-- What a request has decided to take from the allowance and not yet counted. -/
def pendingAllowance : Token → Int
  | .priced fromAllowance _ => fromAllowance
  | .stored fromAllowance _ => fromAllowance
  | _ => 0

/-- What is in the rows and not yet in the counters. -/
def booked : Token → Int
  | .stored fromAllowance fromCredit => fromAllowance + fromCredit
  | .spending fromCredit => fromCredit
  | _ => 0

/-- One for a request under way. -/
def live : Token → Int
  | .finished => 0
  | _ => 1

/-- What is known of a request against the pools as they are now. -/
def Ok (L : Limits) (p : Pools) : Token → Prop
  | .waiting charge opened => 0 ≤ charge ∧ charge ≤ L.largest ∧
      (opened = false → L.included ≤ p.allowance ∧ L.credit ≤ p.spent)
  | .admitted charge => 0 ≤ charge ∧ charge ≤ L.largest
  | .priced fromAllowance fromCredit => 0 ≤ fromAllowance ∧ 0 ≤ fromCredit ∧
      fromAllowance + fromCredit ≤ L.largest ∧
      (0 < fromCredit → L.included ≤ p.allowance + fromAllowance)
  | .stored fromAllowance fromCredit => 0 ≤ fromAllowance ∧ 0 ≤ fromCredit ∧
      fromAllowance + fromCredit ≤ L.largest ∧
      (0 < fromCredit → L.included ≤ p.allowance + fromAllowance)
  | .spending fromCredit => 0 ≤ fromCredit ∧ fromCredit ≤ L.largest ∧
      (0 < fromCredit → L.included ≤ p.allowance)
  | .finished => True

variable {L : Limits}

/-- The pools only fill, and nothing known of a request is lost by that. -/
theorem Ok.mono {p p' : Pools} {t : Token} (h : t.Ok L p) (ha : p.allowance ≤ p'.allowance)
    (hs : p.spent ≤ p'.spent) : t.Ok L p' := by
  cases t with
  -- what a gate has read only grows
  | waiting charge opened =>
    exact ⟨h.1, h.2.1, fun ho => ⟨(h.2.2 ho).1.trans ha, (h.2.2 ho).2.trans hs⟩⟩
  | admitted charge => exact h
  | priced fromAllowance fromCredit =>
    exact ⟨h.1, h.2.1, h.2.2.1, fun hc => by have := h.2.2.2 hc; omega⟩
  | stored fromAllowance fromCredit =>
    exact ⟨h.1, h.2.1, h.2.2.1, fun hc => by have := h.2.2.2 hc; omega⟩
  | spending fromCredit => exact ⟨h.1, h.2.1, fun hc => (h.2.2 hc).trans ha⟩
  | finished => trivial

/-- A request under way can still put at most one charge into the counters. -/
theorem Ok.pot_le {p : Pools} {t : Token} (h : t.Ok L p) : t.pot ≤ t.live * L.largest := by
  have := L.largest_nonneg
  cases t <;> simp only [Ok, pot, live] at h ⊢
  case waiting => split <;> omega
  all_goals omega

/-- A request under way has decided on at most one charge. -/
theorem Ok.pendingAllowance_le {p : Pools} {t : Token} (h : t.Ok L p) :
    t.pendingAllowance ≤ t.live * L.largest := by
  have := L.largest_nonneg
  cases t <;> simp only [Ok, pendingAllowance, live] at h ⊢ <;> omega

/-- A request in order never takes back allowance. -/
theorem Ok.pendingAllowance_nonneg {p : Pools} {t : Token} (h : t.Ok L p) :
    0 ≤ t.pendingAllowance := by
  cases t <;> simp only [Ok, pendingAllowance] at h ⊢ <;> omega

/-- The rows are never ahead of what can still reach the counters. -/
theorem Ok.booked_le_pot {p : Pools} {t : Token} (h : t.Ok L p) : t.booked ≤ t.pot := by
  cases t <;> simp only [Ok, booked, pot] at h ⊢
  case waiting => split <;> omega
  all_goals omega

end Token

/-! ## Sums over the requests -/

/-- A quantity summed over all requests. -/
def total (f : Token → Int) (ts : List Token) : Int := (ts.map f).sum

/-- No request, nothing in total. -/
@[simp] theorem total_nil (f : Token → Int) : total f [] = 0 := rfl

/-- The total of two groups of requests. -/
@[simp] theorem total_append (f : Token → Int) (ts us : List Token) :
    total f (ts ++ us) = total f ts + total f us := by
  simp [total]

/-- The total of one request and the others. -/
@[simp] theorem total_cons (f : Token → Int) (t : Token) (ts : List Token) :
    total f (t :: ts) = f t + total f ts := by
  simp [total]

/-- A sum is monotone in what each request adds. -/
theorem total_le_total {f g : Token → Int} {ts : List Token} (h : ∀ t ∈ ts, f t ≤ g t) :
    total f ts ≤ total g ts :=
  List.sum_le_sum h

/-- A quantity of at most one charge per live request. -/
theorem total_le_live {f : Token → Int} {n : Int} {ts : List Token}
    (h : ∀ t ∈ ts, f t ≤ t.live * n) : total f ts ≤ total Token.live ts * n := by
  induction ts with
  | nil => simp
  | cons t ts ih =>
    rw [total_cons, total_cons, add_mul]
    exact add_le_add (h t (by simp)) (ih (fun u hu => h u (by simp [hu])))

/-! ## States and steps -/

/-- The pools and every request that was ever started. -/
structure State where
  pools : Pools
  tokens : List Token

/-- Nothing spent, nobody waiting. -/
def State.init : State := ⟨⟨0, 0, 0⟩, []⟩

/-- A request starts, or one moves. -/
inductive Step (L : Limits) : State → State → Prop
  | start (p : Pools) (ts : List Token) (charge : Int) (opened : Bool) (hnonneg : 0 ≤ charge)
      (hlargest : charge ≤ L.largest)
      (hopen : opened = true ↔ (p.allowance < L.included ∨ p.spent < L.credit))
      (hlive : total Token.live ts + 1 ≤ L.inFlight) :
      Step L ⟨p, ts⟩ ⟨p, ts ++ [.waiting charge opened]⟩
  | move {p p' : Pools} {t t' : Token} (pre post : List Token) (h : Move L p t p' t') :
      Step L ⟨p, pre ++ t :: post⟩ ⟨p', pre ++ t' :: post⟩

/-- The states any steps lead to. -/
abbrev Reach (L : Limits) : State → State → Prop := Relation.ReflTransGen (Step L)

/-- The invariant of every reachable state. -/
structure Inv (L : Limits) (s : State) : Prop where
  tokens_ok : ∀ t ∈ s.tokens, t.Ok L s.pools
  allowance_nonneg : 0 ≤ s.pools.allowance
  spent_nonneg : 0 ≤ s.pools.spent
  /-- Credit is touched only once the allowance is used up. -/
  spent_after : 0 < s.pools.spent → L.included ≤ s.pools.allowance
  live_le : total Token.live s.tokens ≤ L.inFlight
  recorded_eq : s.pools.recorded = s.pools.allowance + s.pools.spent + total Token.booked s.tokens
  allowance_le : s.pools.allowance + total Token.pendingAllowance s.tokens ≤
    L.included + (L.inFlight - 1) * L.largest
  total_le : s.pools.allowance + s.pools.spent + total Token.pot s.tokens ≤ L.included + L.credit ∨
    s.pools.allowance + s.pools.spent + total Token.pot s.tokens <
      L.included + L.credit + (2 * L.inFlight - 1) * L.largest

variable {L : Limits}

/-- The invariant holds before any request. -/
theorem Inv.init : Inv L State.init where
  tokens_ok := by simp [State.init]
  allowance_nonneg := le_rfl
  spent_nonneg := le_rfl
  spent_after := by simp [State.init]
  live_le := by simpa [State.init] using le_trans zero_le_one L.inFlight_pos
  recorded_eq := rfl
  -- nothing has been spent
  allowance_le := by
    have := mul_nonneg (sub_nonneg.mpr L.inFlight_pos) L.largest_nonneg
    have := L.included_nonneg
    simp only [State.init, total_nil]; omega
  total_le := .inl (by simpa [State.init] using add_nonneg L.included_nonneg L.credit_nonneg)

/-- What is pending on the allowance is never negative. -/
theorem Inv.pendingAllowance_nonneg {s : State} (h : Inv L s) :
    0 ≤ total Token.pendingAllowance s.tokens := by
  refine List.sum_nonneg (fun x hx => ?_)
  obtain ⟨t, ht, rfl⟩ := List.mem_map.mp hx
  exact (h.tokens_ok t ht).pendingAllowance_nonneg

/-! ## Starting a request -/

/-- While a pool has room, everything under way and one more charge stay within
    the bound. -/
theorem Inv.total_le_of_open {p : Pools} {ts : List Token} (h : Inv L ⟨p, ts⟩) {charge : Int}
    (hlargest : charge ≤ L.largest) (hlive : total Token.live ts + 1 ≤ L.inFlight)
    (hopen : p.allowance < L.included ∨ p.spent < L.credit) :
    p.allowance + p.spent + (total Token.pot ts + charge) <
      L.included + L.credit + (2 * L.inFlight - 1) * L.largest := by
  have hpot : total Token.pot ts ≤ total Token.live ts * L.largest :=
    total_le_live (fun t ht => (h.tokens_ok t ht).pot_le)
  have hlive' : total Token.live ts * L.largest ≤ (L.inFlight - 1) * L.largest :=
    mul_le_mul_of_nonneg_right (by omega) L.largest_nonneg
  have hk : 0 ≤ (L.inFlight - 1) * L.largest :=
    mul_nonneg (sub_nonneg.mpr L.inFlight_pos) L.largest_nonneg
  have hexpand : (2 * L.inFlight - 1) * L.largest =
      (L.inFlight - 1) * L.largest + (L.inFlight - 1) * L.largest + L.largest := by ring
  -- the counters alone are below both pools plus the overshoot of the allowance
  have hcounters : p.allowance + p.spent <
      L.included + L.credit + (L.inFlight - 1) * L.largest := by
    rcases hopen with ha | hs
    · -- credit is untouched while the allowance has room
      have hzero : p.spent = 0 := by
        have := h.spent_nonneg
        have := h.spent_after
        dsimp only at *
        omega
      have := L.credit_nonneg
      omega
    · have hpending := h.pendingAllowance_nonneg
      have := h.allowance_le
      dsimp only at this hpending
      omega
  omega

/-- Starting a request keeps the invariant. -/
theorem Inv.start {p : Pools} {ts : List Token} (h : Inv L ⟨p, ts⟩) {charge : Int} {opened : Bool}
    (hnonneg : 0 ≤ charge) (hlargest : charge ≤ L.largest)
    (hopen : opened = true ↔ (p.allowance < L.included ∨ p.spent < L.credit))
    (hlive : total Token.live ts + 1 ≤ L.inFlight) :
    Inv L ⟨p, ts ++ [.waiting charge opened]⟩ where
  tokens_ok t ht := by
    rcases List.mem_append.mp ht with ht | ht
    · exact h.tokens_ok t ht
    · obtain rfl := List.mem_singleton.mp ht
      refine ⟨hnonneg, hlargest, fun hclosed => ?_⟩
      have : ¬(p.allowance < L.included ∨ p.spent < L.credit) := by simp [← hopen, hclosed]
      dsimp only
      omega
  allowance_nonneg := h.allowance_nonneg
  spent_nonneg := h.spent_nonneg
  spent_after := h.spent_after
  live_le := by simpa [Token.live] using hlive
  recorded_eq := by simpa [Token.booked] using h.recorded_eq
  allowance_le := by simpa [Token.pendingAllowance] using h.allowance_le
  total_le := by
    simp only [total_append, total_cons, total_nil, add_zero, Token.pot]
    -- a request that found the gate closed will charge nothing
    cases opened with
    | false => simpa using h.total_le
    | true => exact .inr (h.total_le_of_open hlargest hlive (hopen.mp rfl))

/-! ## Moving a request -/

namespace Move

variable {p p' : Pools} {t t' : Token}

/-- Only a request under way moves. -/
theorem live_eq_one (h : Move L p t p' t') : t.live = 1 := by
  cases h <;> rfl

/-- A move never revives a request. -/
theorem live_le (h : Move L p t p' t') : t'.live ≤ t.live := by
  cases h <;> simp [Token.live]

/-- The counters never go down. -/
theorem fills (h : Move L p t p' t') (hok : t.Ok L p) :
    p.allowance ≤ p'.allowance ∧ p.spent ≤ p'.spent := by
  cases h <;> simp only [Token.Ok] at hok ⊢ <;> omega

/-- A move keeps a request in order. -/
theorem ok (h : Move L p t p' t') (hok : t.Ok L p) : t'.Ok L p' := by
  cases h <;> simp only [Token.Ok] at hok ⊢ <;> omega

/-- Credit is only ever booked after the allowance is used up. -/
theorem spent_after (h : Move L p t p' t') (hok : t.Ok L p) :
    p'.spent = p.spent ∨ L.included ≤ p'.allowance := by
  cases h
  case spend =>
    simp only [Token.Ok] at hok ⊢
    omega
  all_goals exact .inl rfl

/-- Rows and counters move together. -/
theorem recorded_eq (h : Move L p t p' t') :
    p'.recorded - (p'.allowance + p'.spent + t'.booked) =
      p.recorded - (p.allowance + p.spent + t.booked) := by
  cases h <;> simp only [Token.booked] <;> omega

/-- No move adds to what has been or can still be counted. -/
theorem pot_le (h : Move L p t p' t') (hok : t.Ok L p) :
    p'.allowance + p'.spent + t'.pot ≤ p.allowance + p.spent + t.pot := by
  cases h <;> simp only [Token.pot, Token.Ok] at hok ⊢
  case refuse => split <;> omega
  all_goals first | omega | simp

/-- A split takes the counter no further than the pool, against the counter it read. -/
theorem pendingAllowance_le (h : Move L p t p' t') (hok : t.Ok L p) :
    p'.allowance + t'.pendingAllowance ≤ p.allowance + t.pendingAllowance ∨
      p'.allowance + t'.pendingAllowance ≤ L.included := by
  cases h <;> simp only [Token.pendingAllowance, Token.Ok] at hok ⊢ <;> omega

end Move

/-- A move of one request keeps the invariant of all. -/
theorem Inv.move {p p' : Pools} {t t' : Token} {pre post : List Token}
    (h : Inv L ⟨p, pre ++ t :: post⟩) (hmove : Move L p t p' t') :
    Inv L ⟨p', pre ++ t' :: post⟩ := by
  obtain ⟨hoks, hannonneg, hsnonneg, hafter, hlive, hrec, hall, htot⟩ := h
  dsimp only at hoks hannonneg hsnonneg hafter
  simp only [total_append, total_cons] at hlive hrec hall htot
  have hok : t.Ok L p := hoks t (by simp)
  obtain ⟨hfa, hfs⟩ := hmove.fills hok
  -- the other requests only see the counters grow
  have hothers : ∀ u ∈ pre ++ post, u.Ok L p := fun u hu => hoks u (by
    rcases List.mem_append.mp hu with hu | hu <;> simp [hu])
  refine ⟨?_, hannonneg.trans hfa, hsnonneg.trans hfs, ?_, ?_, ?_, ?_, ?_⟩
  · intro u hu
    rcases List.mem_append.mp hu with hu | hu
    · exact (hothers u (by simp [hu])).mono hfa hfs
    · rcases List.mem_cons.mp hu with rfl | hu
      · exact hmove.ok hok
      · exact (hothers u (by simp [hu])).mono hfa hfs
  · intro hpos
    rcases hmove.spent_after hok with heq | hfull
    · exact (hafter (heq ▸ hpos)).trans hfa
    · exact hfull
  · have := hmove.live_le
    simp only [total_append, total_cons]
    omega
  · have := hmove.recorded_eq
    simp only [total_append, total_cons]
    omega
  · simp only [total_append, total_cons]
    rcases hmove.pendingAllowance_le hok with hle | hle
    · omega
    · -- the others hold at most one charge each, and there are fewer than `inFlight` of them
      have hpending := total_le_live (fun u hu => (hothers u hu).pendingAllowance_le)
      have hone := hmove.live_eq_one
      simp only [total_append] at hpending
      have : (total Token.live pre + total Token.live post) * L.largest ≤
          (L.inFlight - 1) * L.largest :=
        mul_le_mul_of_nonneg_right (by omega) L.largest_nonneg
      omega
  · have := hmove.pot_le hok
    simp only [total_append, total_cons]
    omega

/-! ## Every run -/

/-- Every step keeps the invariant. -/
theorem Inv.step {s s' : State} (h : Inv L s) (hstep : Step L s s') : Inv L s' := by
  cases hstep with
  | start p ts charge opened hnonneg hlargest hopen hlive =>
    exact h.start hnonneg hlargest hopen hlive
  | move pre post hmove => exact h.move hmove

/-- So the invariant holds in every state reached. -/
theorem Inv.reach {s : State} (h : Reach L State.init s) : Inv L s := by
  induction h with
  | refl => exact .init
  | tail _ hstep ih => exact ih.step hstep

/-- The rows overshoot the two pools by less than `2 * inFlight - 1` charges. -/
theorem recorded_bound {s : State} (h : Reach L State.init s) :
    s.pools.recorded ≤ L.included + L.credit ∨
      s.pools.recorded < L.included + L.credit + (2 * L.inFlight - 1) * L.largest := by
  have hinv := Inv.reach h
  have hbooked := total_le_total (fun t ht => (hinv.tokens_ok t ht).booked_le_pot)
  have := hinv.recorded_eq
  have := hinv.total_le
  omega

/-- The allowance counter overshoots by at most `inFlight - 1` charges. -/
theorem allowance_bound {s : State} (h : Reach L State.init s) :
    s.pools.allowance ≤ L.included + (L.inFlight - 1) * L.largest := by
  have hinv := Inv.reach h
  have := hinv.pendingAllowance_nonneg
  have := hinv.allowance_le
  omega

end ControlPlane.SpendGate
