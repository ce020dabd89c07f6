import ControlPlane.Model.RateLimit
import Mathlib.Data.List.Basic

/-!
# What a rate limit admits

A sequence of claims on one bucket, on a clock that does not run backwards. The counter
of a stored window goes up with every attempt, allowed or not, so a window admits at most
`limit` of them. Windows open at least `W` seconds apart, so any `W` seconds meet two of
them at most.

## Key results

- `checkRateLimit_run`: a claim answers what the pure decision says of the row it found
- `allowedIn_from_window`: inside one window the counter pays for what is let through
- `rate_windows`: the limit per window and per `W` seconds, and what a refusal promises
-/

namespace ControlPlane

/-- One claim of a history: when it was made, the row it found and what it was answered. -/
structure RateClaim where
  nowSec : Int
  found : Option RateBucket
  decision : RateLimitDecision
deriving Repr, DecidableEq

namespace RateClaim

/-- The claim was let through. -/
def allowed (c : RateClaim) : Bool := c.decision.allowed

/-- The pure decision on the row the claim found. -/
def decided (c : RateClaim) (limit windowSeconds : Int) : RateLimitDecision :=
  rateLimitDecision c.nowSec (c.found.map (·.windowStart)) ((c.found.map (·.count)).getD 0) limit
    windowSeconds

end RateClaim

/-- A sequence of claims on one bucket, one at each of `nows`. -/
def rateClaims (key : String) (limit windowSeconds : Int) :
    RateBuckets → List Int → List RateClaim
  | _, [] => []
  | buckets, now :: nows =>
    let claim := (checkRateLimit now key limit windowSeconds).run buckets
    ⟨now, buckets key, claim.1⟩ :: rateClaims key limit windowSeconds claim.2 nows

/-- What a rate limit of `limit` attempts in `W` seconds promises of a history of claims. -/
structure RateLimited (limit W : Int) (claims : List RateClaim) : Prop where
  /-- A stored window admits at most `limit` attempts. -/
  perWindow : 1 ≤ W → ∀ start,
    (claims.countP fun c => c.allowed && c.decision.nextWindowStart == start : Int) ≤ limit
  /-- Any `W` seconds admit at most twice that. -/
  perSeconds : ∀ t,
    (claims.countP fun c => c.allowed && (t ≤ c.nowSec && c.nowSec < t + W) : Int) ≤ 2 * limit
  /-- Each answer is the pure decision on the row that was there, -/
  decided : 1 ≤ W → ∀ c ∈ claims, c.decision = c.decided limit W
  /-- and for a window of no seconds it still asks to wait for one. -/
  decidedAny : ∀ c ∈ claims, c.decision =
    { c.decided limit W with
      retryAfterSeconds := max 1 (c.decided limit W).retryAfterSeconds }
  /-- The first attempt that waited as long as a refusal asked for is let through. -/
  retry : ∀ before c between d after, claims = before ++ c :: (between ++ d :: after) →
    c.allowed = false →
    (∀ m ∈ between, m.nowSec < c.nowSec + c.decision.retryAfterSeconds) →
    c.nowSec + c.decision.retryAfterSeconds ≤ d.nowSec → d.allowed = true

/-! ### One claim -/

namespace RateBucket

theorem claimed_roll {row : RateBucket} {now W : Int} (h : W ≤ now - row.windowStart) :
    claimed (some row) now W = ⟨1, now⟩ := by
  simp [claimed, h]

theorem claimed_stay {row : RateBucket} {now W : Int} (h : now - row.windowStart < W) :
    claimed (some row) now W = ⟨row.count + 1, row.windowStart⟩ := by
  simp [claimed, Int.not_le.mpr h]

/-- What a claim that left this row answers. -/
def answer (row : RateBucket) (now limit W : Int) : RateLimitDecision :=
  ⟨row.count ≤ limit, row.count, row.windowStart, max 1 (W - (now - row.windowStart))⟩

end RateBucket

/-- A claim answers from the row it leaves. -/
theorem checkRateLimit_answer (now : Int) (key : String) (limit W : Int) (buckets : RateBuckets) :
    ((checkRateLimit now key limit W).run buckets).1 =
      (RateBucket.claimed (buckets key) now W).answer now limit W := rfl

/-- What a claim leaves in its bucket. -/
theorem checkRateLimit_row (now : Int) (key : String) (limit W : Int) (buckets : RateBuckets) :
    ((checkRateLimit now key limit W).run buckets).2 key =
      some (RateBucket.claimed (buckets key) now W) := by
  simp [checkRateLimit, claimRateBucket]

/-- The answer to a claim is the pure decision on the row it found, except that it never
    asks to wait for less than a second. -/
theorem answer_claimed (row : Option RateBucket) (now W : Int) {limit : Int}
    (hlimit : 1 ≤ limit) :
    (RateBucket.claimed row now W).answer now limit W =
      let decision := rateLimitDecision now (row.map (·.windowStart))
        ((row.map (·.count)).getD 0) limit W
      { decision with retryAfterSeconds := max 1 decision.retryAfterSeconds } := by
  cases row with
  | none => simp [RateBucket.claimed, RateBucket.answer, rateLimitDecision, hlimit]
  | some row =>
    by_cases h : W ≤ now - row.windowStart
    · rw [RateBucket.claimed_roll h]
      simp [RateBucket.answer, rateLimitDecision, h, hlimit]
    · rw [RateBucket.claimed_stay (by omega)]
      simp [RateBucket.answer, rateLimitDecision, h]

/-- In a window of at least a second the pure decision never asks for less either. -/
theorem rateLimitDecision_retryAfterSeconds (now : Int) (windowStart : Option Int)
    (count limit : Int) {W : Int} (hW : 1 ≤ W) :
    1 ≤ (rateLimitDecision now windowStart count limit W).retryAfterSeconds := by
  cases windowStart with
  | none => exact hW
  | some start =>
    simp only [rateLimitDecision]
    split
    · exact hW
    · show 1 ≤ max 1 (W - (now - start))
      omega

/-! ### Histories of one row -/

/-- The history of claims that start from a row. -/
def rowClaims (limit W : Int) : Option RateBucket → List Int → List RateClaim
  | _, [] => []
  | row, now :: nows =>
    let next := RateBucket.claimed row now W
    ⟨now, row, next.answer now limit W⟩ :: rowClaims limit W (some next) nows

/-- The claims on a bucket are a matter of its own row. -/
theorem rateClaims_eq_rowClaims (key : String) (limit W : Int) (buckets : RateBuckets)
    (nows : List Int) :
    rateClaims key limit W buckets nows = rowClaims limit W (buckets key) nows := by
  induction nows generalizing buckets with
  | nil => rfl
  | cons now nows ih =>
    rw [rateClaims, rowClaims, ih, checkRateLimit_row, checkRateLimit_answer]

/-- Every claim of a history is a claim on the row it found. -/
theorem answer_of_mem_rowClaims {limit W : Int} {row : Option RateBucket} {nows : List Int}
    {c : RateClaim} (h : c ∈ rowClaims limit W row nows) :
    c.decision = (RateBucket.claimed c.found c.nowSec W).answer c.nowSec limit W := by
  induction nows generalizing row with
  | nil => cases h
  | cons now nows ih =>
    rcases List.mem_cons.mp h with rfl | h
    · rfl
    · exact ih h

/-- A history is as long as its list of times. -/
theorem nowSec_rowClaims (limit W : Int) (row : Option RateBucket) (nows : List Int) :
    (rowClaims limit W row nows).map (·.nowSec) = nows := by
  induction nows generalizing row with
  | nil => rfl
  | cons now nows ih => rw [rowClaims, List.map_cons, ih]

/-! ### How much a window admits -/

section count

variable {limit W : Int}

/-- What is left of the limit in a window. -/
def RateBucket.left (row : RateBucket) (limit : Int) : Int := max 0 (limit - row.count)

/-- From a row on, the window that opened at `start` admits what its counter leaves: all of
    the limit when it is still to open, and nothing when it is over. -/
theorem allowed_from_row (hlimit : 1 ≤ limit) (hW : 1 ≤ W) (start : Int) (row : RateBucket)
    (nows : List Int) :
    ((rowClaims limit W (some row) nows).countP
        fun c => c.allowed && c.decision.nextWindowStart == start : Int) ≤
      if row.windowStart = start then row.left limit
      else if row.windowStart < start then limit else 0 := by
  induction nows generalizing row with
  | nil =>
    show (0 : Int) ≤ _
    unfold RateBucket.left
    split_ifs <;> omega
  | cons now nows ih =>
    rw [rowClaims, List.countP_cons]
    by_cases h : W ≤ now - row.windowStart
    · -- the window rolls: the new one opens later than the old one did
      rw [RateBucket.claimed_roll h]
      have hrest := ih ⟨1, now⟩
      simp only [RateClaim.allowed, RateBucket.answer, RateBucket.left, Bool.and_eq_true,
        decide_eq_true_eq, beq_iff_eq] at hrest ⊢
      split_ifs at hrest ⊢ <;> omega
    · rw [RateBucket.claimed_stay (by omega)]
      have hrest := ih ⟨row.count + 1, row.windowStart⟩
      simp only [RateClaim.allowed, RateBucket.answer, RateBucket.left, Bool.and_eq_true,
        decide_eq_true_eq, beq_iff_eq] at hrest ⊢
      split_ifs at hrest ⊢ <;> omega

/-- Within `W` seconds that begin before the window of this row did not, the claims let
    through are all of this window. -/
theorem allowed_inside_window {t : Int} (row : RateBucket) {nows : List Int}
    (hclock : nows.Pairwise (· ≤ ·)) (ht : t ≤ row.windowStart) :
    ((rowClaims limit W (some row) nows).countP
        fun c => c.allowed && (t ≤ c.nowSec && c.nowSec < t + W) : Int) ≤ row.left limit := by
  induction nows generalizing row with
  | nil =>
    show (0 : Int) ≤ _
    unfold RateBucket.left
    omega
  | cons now nows ih =>
    have hlater := (List.pairwise_cons.mp hclock).1
    -- a claim within these seconds is in the window of this row
    by_cases hend : now < t + W
    · have hrest := ih ⟨row.count + 1, row.windowStart⟩ hclock.of_cons ht
      rw [rowClaims, List.countP_cons, RateBucket.claimed_stay (by omega)]
      simp only [RateClaim.allowed, RateBucket.answer, RateBucket.left, Bool.and_eq_true,
        decide_eq_true_eq] at hrest ⊢
      split_ifs <;> omega
    · -- the clock is past these seconds, and stays there
      have hnone : (rowClaims limit W (some row) (now :: nows)).countP
          (fun c => c.allowed && (t ≤ c.nowSec && c.nowSec < t + W)) = 0 := by
        rw [List.countP_eq_zero]
        intro c hc
        have hnow : c.nowSec ∈ now :: nows := by
          rw [← nowSec_rowClaims limit W (some row) (now :: nows)]
          exact List.mem_map_of_mem hc
        have hpast : t + W ≤ c.nowSec := by
          rcases List.mem_cons.mp hnow with heq | hmem
          · omega
          · have := hlater _ hmem
            omega
        simp [Int.not_lt.mpr hpast]
      rw [hnone]
      unfold RateBucket.left
      omega

/-- From any row on, claims made at `t` or later meet what is left of its window, and at
    most one window more. -/
theorem allowed_from {t : Int} (row : RateBucket) {nows : List Int} (hlimit : 1 ≤ limit)
    (hclock : nows.Pairwise (· ≤ ·)) (hfrom : ∀ now ∈ nows, t ≤ now) :
    ((rowClaims limit W (some row) nows).countP
        fun c => c.allowed && (t ≤ c.nowSec && c.nowSec < t + W) : Int) ≤
      row.left limit + limit := by
  induction nows generalizing row with
  | nil =>
    show (0 : Int) ≤ _
    unfold RateBucket.left
    omega
  | cons now nows ih =>
    have hnow : t ≤ now := hfrom now (by simp)
    have hfrom' : ∀ now ∈ nows, t ≤ now := fun n hn => hfrom n (by simp [hn])
    rw [rowClaims, List.countP_cons]
    by_cases h : W ≤ now - row.windowStart
    · -- a window that opens at `t` or later is the last one these seconds meet
      have hrest : _ ≤ RateBucket.left ⟨1, now⟩ limit :=
        allowed_inside_window (W := W) ⟨1, now⟩ hclock.of_cons hnow
      rw [RateBucket.claimed_roll h]
      simp only [RateClaim.allowed, RateBucket.answer, RateBucket.left, Bool.and_eq_true,
        decide_eq_true_eq] at hrest ⊢
      split_ifs <;> omega
    · have hrest := ih ⟨row.count + 1, row.windowStart⟩ hclock.of_cons hfrom'
      rw [RateBucket.claimed_stay (by omega)]
      simp only [RateClaim.allowed, RateBucket.answer, RateBucket.left, Bool.and_eq_true,
        decide_eq_true_eq] at hrest ⊢
      split_ifs <;> omega

/-- The history of a new bucket admits at most two windows' worth in any `W` seconds. -/
theorem allowed_in_seconds {row : Option RateBucket} {nows : List Int} (hlimit : 1 ≤ limit)
    (hclock : nows.Pairwise (· ≤ ·)) (hrow : ∀ r ∈ row, 0 ≤ r.count) (t : Int) :
    ((rowClaims limit W row nows).countP
        fun c => c.allowed && (t ≤ c.nowSec && c.nowSec < t + W) : Int) ≤ 2 * limit := by
  induction nows generalizing row with
  | nil =>
    show (0 : Int) ≤ _
    omega
  | cons now nows ih =>
    by_cases hbefore : now < t
    · -- a claim before these seconds is not one of them
      have hcount : ∀ r ∈ some (RateBucket.claimed row now W), 0 ≤ r.count := by
        intro r hr
        cases hr
        cases row with
        | none => exact Int.zero_le_ofNat 1
        -- what is left of the open window, and one window after it
        | some row =>
          have := hrow row rfl
          simp only [RateBucket.claimed]
          split_ifs <;> omega
      have hrest := ih hclock.of_cons hcount
      rw [rowClaims, List.countP_cons]
      simp only [Int.not_le.mpr hbefore, decide_false, Bool.false_and, Bool.and_false,
        Bool.false_eq_true, if_false, Nat.add_zero]
      exact hrest
    · -- the first claim that counts: from here all are at or after `t`
      have hfrom : ∀ n ∈ now :: nows, t ≤ n := by
        intro n hn
        rcases List.mem_cons.mp hn with rfl | hn
        · omega
        · have := (List.pairwise_cons.mp hclock).1 n hn
          omega
      cases row with
      | none =>
        have hrest : _ ≤ RateBucket.left ⟨1, now⟩ limit :=
          allowed_inside_window (W := W) ⟨1, now⟩ hclock.of_cons (hfrom now (by simp))
        rw [rowClaims, List.countP_cons]
        simp only [RateBucket.claimed, RateClaim.allowed, RateBucket.answer, RateBucket.left,
          Bool.and_eq_true, decide_eq_true_eq] at hrest ⊢
        split_ifs <;> omega
      | some row =>
        have hrest := allowed_from (W := W) row hlimit hclock hfrom
        have hleft : row.left limit ≤ limit := by
          have := hrow row rfl
          unfold RateBucket.left
          omega
        omega

/-- The history of a new bucket admits at most `limit` in each of its windows. -/
theorem allowed_in_window (hlimit : 1 ≤ limit) (hW : 1 ≤ W) (start : Int) (nows : List Int) :
    ((rowClaims limit W none nows).countP
        fun c => c.allowed && c.decision.nextWindowStart == start : Int) ≤ limit := by
  cases nows with
  | nil =>
    show (0 : Int) ≤ _
    omega
  | cons now nows =>
    -- the first claim opens a window, the rest find its row
    have hrest := allowed_from_row hlimit hW start ⟨1, now⟩ nows
    rw [rowClaims, List.countP_cons]
    simp only [RateBucket.claimed, RateClaim.allowed, RateBucket.answer, RateBucket.left,
      Bool.and_eq_true, beq_iff_eq] at hrest ⊢
    split_ifs at hrest ⊢ <;> omega

/-- While every claim comes before a row's window ends the window stays, so the first claim
    after its end opens a new one, and is let through. -/
theorem allowed_after_window (hlimit : 1 ≤ limit) {row : RateBucket} {nows : List Int}
    {between after : List RateClaim} {d : RateClaim}
    (hclaims : rowClaims limit W (some row) nows = between ++ d :: after)
    (hbetween : ∀ m ∈ between, m.nowSec < row.windowStart + W)
    (hd : row.windowStart + W ≤ d.nowSec) : d.allowed = true := by
  induction between generalizing row nows with
  -- the claim is the first one past the window, which rolls it
  | nil =>
    cases nows with
    | nil => cases hclaims
    | cons now nows =>
      obtain ⟨rfl, -⟩ := List.cons_eq_cons.mp hclaims
      show decide ((RateBucket.claimed (some row) now W).count ≤ limit) = true
      rw [RateBucket.claimed_roll (by show W ≤ now - _; exact Int.le_sub_left_of_add_le hd)]
      exact decide_eq_true hlimit
  -- the claims before it stay in the window
  | cons m between ih =>
    cases nows with
    | nil => cases hclaims
    | cons now nows =>
      obtain ⟨rfl, hrest⟩ := List.cons_eq_cons.mp hclaims
      have hm : now < row.windowStart + W := hbetween _ List.mem_cons_self
      rw [RateBucket.claimed_stay (by omega)] at hrest
      exact ih hrest (fun m hm => hbetween m (List.mem_cons_of_mem _ hm)) hd

/-- A refusal asks to wait until its window is over. -/
theorem allowed_after_refusal (hlimit : 1 ≤ limit) {row : Option RateBucket} {nows : List Int}
    {before between after : List RateClaim} {c d : RateClaim}
    (hclaims : rowClaims limit W row nows = before ++ c :: (between ++ d :: after))
    (hrefused : c.allowed = false)
    (hbetween : ∀ m ∈ between, m.nowSec < c.nowSec + c.decision.retryAfterSeconds)
    (hd : c.nowSec + c.decision.retryAfterSeconds ≤ d.nowSec) : d.allowed = true := by
  induction before generalizing row nows with
  | nil =>
    cases nows with
    | nil => cases hclaims
    | cons now nows =>
      obtain ⟨rfl, hrest⟩ := List.cons_eq_cons.mp hclaims
      -- a refused claim did not open its window
      have hstays : ∃ r, row = some r ∧ now - r.windowStart < W := by
        cases row with
        | none =>
          have hfirst : decide (1 ≤ limit) = false := hrefused
          simp [hlimit] at hfirst
        | some r =>
          refine ⟨r, rfl, ?_⟩
          by_contra hroll
          simp only [RateClaim.allowed, RateBucket.answer,
            RateBucket.claimed_roll (Int.not_lt.mp hroll), decide_eq_false_iff_not] at hrefused
          omega
      obtain ⟨r, rfl, hin⟩ := hstays
      rw [RateBucket.claimed_stay hin] at hrest hbetween hd
      -- the wait is what is left of the window, and a second at least
      have hwait : max 1 (W - (now - r.windowStart)) = r.windowStart + W - now := by omega
      simp only [RateBucket.answer, hwait] at hbetween hd
      exact allowed_after_window hlimit hrest
        (fun m hm => by have := hbetween m hm; show m.nowSec < r.windowStart + W; omega)
        (by show r.windowStart + W ≤ d.nowSec; omega)
  | cons b before ih =>
    cases nows with
    | nil => cases hclaims
    | cons now nows =>
      obtain ⟨-, hrest⟩ := List.cons_eq_cons.mp hclaims
      exact ih hrest

end count

/-! ### Histories of one bucket -/

/-- Every history of a new bucket keeps its limit, answers as the pure decision does, and
    lets the first attempt through that waited as long as it was asked to. -/
theorem rate_windows (key : String) (limit W : Int) (buckets : RateBuckets) (nows : List Int)
    (hlimit : 1 ≤ limit) (hclock : nows.Pairwise (· ≤ ·)) (hnew : buckets key = none) :
    RateLimited limit W (rateClaims key limit W buckets nows) := by
  rw [rateClaims_eq_rowClaims, hnew]
  -- every answer is the decision, told to wait a second at least
  have hanswer : ∀ c ∈ rowClaims limit W none nows, c.decision =
      { c.decided limit W with
        retryAfterSeconds := max 1 (c.decided limit W).retryAfterSeconds } := by
    intro c hc
    rw [answer_of_mem_rowClaims hc]
    exact answer_claimed c.found c.nowSec W hlimit
  exact {
    perWindow := fun hW start => allowed_in_window hlimit hW start nows
    perSeconds := fun t => allowed_in_seconds hlimit hclock (by simp) t
    decided := by
      intro hW c hc
      have hwait : 1 ≤ (c.decided limit W).retryAfterSeconds :=
        rateLimitDecision_retryAfterSeconds _ _ _ _ hW
      rw [hanswer c hc, Int.max_eq_right hwait]
    decidedAny := hanswer
    retry := fun _ _ _ _ _ hclaims hrefused hbetween hd =>
      allowed_after_refusal hlimit hclaims hrefused hbetween hd }

/-- Two attempts a minute: the third in a minute is refused, and the one it asked for is
    let through. -/
theorem rate_windows_minute :
    RateLimited 2 RATE_WINDOW_SECONDS
      (rateClaims (inferenceBucket "acct_1") 2 RATE_WINDOW_SECONDS (fun _ => none)
        [5000, 5010, 5020, 5060]) ∧
    (rateClaims (inferenceBucket "acct_1") 2 RATE_WINDOW_SECONDS (fun _ => none)
      [5000, 5010, 5020, 5060]).map (fun c => (c.allowed, c.decision.retryAfterSeconds)) =
        [(true, 60), (true, 50), (false, 40), (true, 60)] :=
  ⟨rate_windows _ 2 _ _ _ (by decide) (by decide) rfl, by decide⟩

end ControlPlane
