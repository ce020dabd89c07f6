import ControlPlane.ForStd.JsString
import ControlPlane.Model.Meter

/-!
# Video durations

`src/video-duration.ts`: the seconds a client asks for, clamped to what the model takes.
-/

namespace ControlPlane

/-- How a model is sent a duration. -/
inductive VideoDurationWire where
  | int
  | veoString
deriving Repr, DecidableEq

/-- The durations a model takes. -/
structure VideoDurationSpec where
  min : Int
  max : Int
  defaultSec : Int
  /-- The only legal values, where the model has a list of them. -/
  allowedSec : List Int
  wire : VideoDurationWire
deriving Repr, DecidableEq

open JsString (startsWith)

/-- The duration policy of a model id. -/
def videoDurationSpec (modelId : String) : VideoDurationSpec :=
  if startsWith modelId "xai/grok-imagine-video" then ⟨1, 15, 5, [], .int⟩
  else if startsWith modelId "bytedance/seedance" then ⟨4, 12, 5, [], .int⟩
  else if startsWith modelId "google/veo" then ⟨4, 8, 8, [4, 6, 8], .veoString⟩
  else if startsWith modelId "minimax/hailuo" then ⟨6, 10, 6, [6, 10], .int⟩
  else if startsWith modelId "runwayml/" then ⟨2, 10, 5, [], .int⟩
  else if modelId = "alibaba/hh1-t2v" ∨ modelId = "alibaba/hh1-i2v" ∨
      modelId = "alibaba/hh1.1-t2v" ∨ modelId = "alibaba/hh1.1-i2v" then ⟨3, 15, 5, [], .int⟩
  else if modelId = "alibaba/wan-2.7-i2v" ∨ startsWith modelId "alibaba/wan" then
    ⟨2, 15, 5, [], .int⟩
  -- a version of its own stands before its family
  else if modelId = "pixverse/v6" then ⟨1, 15, 5, [], .int⟩
  else if startsWith modelId "pixverse/" then ⟨5, 8, 5, [5, 8], .int⟩
  else if startsWith modelId "vidu/" then ⟨1, 16, 5, [], .int⟩
  else ⟨1, 15, 5, [], .int⟩

/-- `Math.round`. -/
def jsRound (value : Rat) : Int := (value + 1 / 2).floor

/-- `Number` of a digit string, `none` where it is `Infinity`. -/
def finiteNumber (digits : List Char) : Option Int :=
  let n := Nat.ofDigitChars 10 digits 0
  -- from that bound on the nearest double is infinite
  if n < 2 ^ 1024 - 2 ^ 970 then some n else none

/-- `/^(\d+)\s*s?$/` on a trimmed, lower-cased text. -/
def secondsDigits (text : List Char) : Option (List Char) :=
  let digits := text.takeWhile Char.isDigit
  let rest := (text.dropWhile Char.isDigit).dropWhile JsString.isTrimmed
  if digits.isEmpty then none else if rest = [] ∨ rest = ['s'] then some digits else none

/-- The seconds a client asked for. `none` also where its number is not finite. -/
def parseClientDuration (raw : Option Json) : Option Int :=
  match raw with
  | some (.num value) => some (jsRound value)
  | some (.str text) =>
    (secondsDigits (JsString.toLowerCase (JsString.trim text)).toList).bind finiteNumber
  | _ => none

/-- The legal value closest to a number of seconds, the first of two that are. -/
def nearestSec (base : Int) (first : Int) (rest : List Int) : Int :=
  rest.foldl (fun best a => if (a - base).natAbs < (best - base).natAbs then a else best) first

/-- Clamp requested seconds to the model policy. -/
def clampVideoDurationSec (modelId : String) (requestedSec : Option Int) : Int :=
  let spec := videoDurationSpec modelId
  let base := requestedSec.getD spec.defaultSec
  match spec.allowedSec with
  -- a list of legal values takes the place of the bounds
  | first :: rest => nearestSec base first rest
  | [] => min spec.max (max spec.min base)

/-- The value `buildVideoParams` sends. -/
def wireVideoDuration (modelId : String) (seconds : Int) : Json :=
  match (videoDurationSpec modelId).wire with
  | .veoString => .str (jsNumber seconds ++ "s")
  | .int => .num seconds

/-- The clamped seconds of what a client sent. -/
def resolveVideoDuration (modelId : String) (clientRaw : Option Json) : Int × Json :=
  let seconds := clampVideoDurationSec modelId (parseClientDuration clientRaw)
  (seconds, wireVideoDuration modelId seconds)

end ControlPlane
