import ControlPlane.ForStd.Script

/-!
# Rate limits

`src/rate-limit.ts`, and `claimRateBucket` of `src/store-d1.ts`: a fixed window
counted in a row of `rate_buckets`, claimed by one upsert.
-/

namespace ControlPlane

/-- A row of `rate_buckets`; times are epoch seconds. -/
structure RateBucket where
  count : Int
  windowStart : Int
deriving Repr, DecidableEq

/-- The table `rate_buckets`, by bucket key. -/
abbrev RateBuckets := String → Option RateBucket

/-- What the pure limiter decides. -/
structure RateLimitDecision where
  allowed : Bool
  nextCount : Int
  nextWindowStart : Int
  retryAfterSeconds : Int
deriving Repr, DecidableEq

/-- The fixed-window decision. Denied attempts still count. -/
def rateLimitDecision (nowSec : Int) (windowStartSec : Option Int)
    (count limit windowSeconds : Int) : RateLimitDecision :=
  match windowStartSec with
  | none => ⟨true, 1, nowSec, windowSeconds⟩
  | some windowStart =>
    -- the window is over: a new one begins with this request
    if nowSec - windowStart ≥ windowSeconds then ⟨true, 1, nowSec, windowSeconds⟩
    else
      let nextCount := count + 1
      let elapsed := nowSec - windowStart
      ⟨nextCount ≤ limit, nextCount, windowStart, max 1 (windowSeconds - elapsed)⟩

/-- The window of every caller. -/
def RATE_WINDOW_SECONDS : Int := 60

/-- The row `INSERT ... ON CONFLICT(bucket_key) DO UPDATE` leaves. -/
def RateBucket.claimed (row : Option RateBucket) (nowSec windowSeconds : Int) : RateBucket :=
  match row with
  | none => ⟨1, nowSec⟩
  | some row =>
    { count := if nowSec - row.windowStart ≥ windowSeconds then 1 else row.count + 1
      windowStart := if nowSec - row.windowStart ≥ windowSeconds then nowSec
        else row.windowStart }

/-- Record one attempt and answer with the row after it: a single upsert. -/
def claimRateBucket (key : String) (nowSec windowSeconds : Int) :
    Script RateBuckets RateBucket :=
  Script.exec fun buckets =>
    let row := RateBucket.claimed (buckets key) nowSec windowSeconds
    (fun k => if k = key then some row else buckets k, row)

/-- Record one attempt against a bucket and report whether it is allowed. `now` is what the
    store's clock answered. -/
def checkRateLimit (now : Int) (bucketKey : String) (limit windowSeconds : Int) :
    Script RateBuckets RateLimitDecision := do
  let row ← claimRateBucket bucketKey now windowSeconds
  let elapsed := now - row.windowStart
  pure ⟨row.count ≤ limit, row.count, row.windowStart, max 1 (windowSeconds - elapsed)⟩

/-- The bucket of an account's requests. -/
def inferenceBucket (accountId : String) : String := "infer:" ++ accountId

/-- The bucket of an address's enrollments. -/
def enrollBucket (ip : String) : String := "enroll:" ++ ip

/-- Enrollment attempts per IP per window. -/
def ENROLL_LIMIT : Int := 5

end ControlPlane
