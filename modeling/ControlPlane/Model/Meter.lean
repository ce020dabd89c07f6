import ControlPlane.ForStd.JsonText
import ControlPlane.Model.Http

/-!
# Pricing one inference request

`src/meter.ts`: the token counts of an upstream answer, and their price, or the
reason there is none. Rates and counts are the rationals their doubles denote.
-/

namespace ControlPlane

namespace Json

/-- `a ?? b` on property reads. -/
def orElse (a b : Option Json) : Option Json :=
  match a with
  | none => b
  | some .null => b
  | some value => some value

/-- The integer of a read, when `Number.isInteger` holds of it. -/
def integer (read : Option Json) : Option Int :=
  match read with
  | some (.num value) => if value.den = 1 then some value.num else none
  | _ => none

/-- `typeof value === "object"` of a value that is not null. -/
def isObject : Json → Bool
  | .obj _ | .arr _ => true
  | _ => false

end Json

/-- `String(n)`. -/
def jsNumber (n : Rat) : String := String.ofList (JsonText.numText n)

/-- The counts of an answer. -/
structure TokenUsage where
  inputTokens : Int
  outputTokens : Int
deriving Repr, DecidableEq

/-- A rate card, in micro-USD per million tokens. -/
structure TokenPrice where
  inputMicroUsdPerMTok : Rat
  outputMicroUsdPerMTok : Rat
deriving DecidableEq

/-- A charge with its counts, or the reason there is none. -/
inductive MeterOutcome where
  | metered (microUsd : Int) (usage : TokenUsage)
  | unmetered (reason : String)
deriving Repr, DecidableEq

/-- Two reads that are both integers and not negative. -/
def tokenCounts (input output : Option Json) : Option TokenUsage :=
  match Json.integer input, Json.integer output with
  | some inputTokens, some outputTokens =>
    if 0 ≤ inputTokens ∧ 0 ≤ outputTokens then some ⟨inputTokens, outputTokens⟩ else none
  | _, _ => none

/-- Gemini-native counts. -/
def geminiUsage (usageMetadata : Json) : Option TokenUsage :=
  tokenCounts
    (Json.orElse (usageMetadata.field "promptTokenCount")
      (usageMetadata.field "prompt_token_count"))
    (Json.orElse (usageMetadata.field "candidatesTokenCount")
      (usageMetadata.field "candidates_token_count"))

/-- Reasoning tokens that the output count leaves out are added to it. -/
def foldReasoning (outputTokens : Int) (reasoning : Option Json) : Int :=
  match Json.integer reasoning with
  -- more reasoning than output cannot be part of it
  | some r => if 0 < r ∧ outputTokens < r then outputTokens + r else outputTokens
  | none => outputTokens

/-- The counts of a `usage` object, in the OpenAI or the Anthropic spelling. -/
def usageCounts (usage : Json) : Option TokenUsage :=
  let reasoning := Json.orElse (usage.field "reasoning_tokens")
    ((usage.field "completion_tokens_details").bind (·.field "reasoning_tokens"))
  (tokenCounts (Json.orElse (usage.field "prompt_tokens") (usage.field "input_tokens"))
    (Json.orElse (usage.field "completion_tokens") (usage.field "output_tokens"))).map
    fun counts => { counts with outputTokens := foldReasoning counts.outputTokens reasoning }

/-- Read token counts out of whatever the upstream returned. -/
def extractUsage (body : Json) : Option TokenUsage :=
  match (body.field "usageMetadata").bind geminiUsage with
  -- Gemini's counts come first, where they can be read
  | some usage => some usage
  | none => (body.field "usage").bind usageCounts

/-- Why a rate card cannot price anything. -/
def rateProblem (price : TokenPrice) : Option String :=
  if price.inputMicroUsdPerMTok.den ≠ 1 ∨ price.inputMicroUsdPerMTok < 0 then
    some ("input rate " ++ jsNumber price.inputMicroUsdPerMTok ++
      " is not a non-negative integer micro-USD per Mtok")
  else if price.outputMicroUsdPerMTok.den ≠ 1 ∨ price.outputMicroUsdPerMTok < 0 then
    some ("output rate " ++ jsNumber price.outputMicroUsdPerMTok ++
      " is not a non-negative integer micro-USD per Mtok")
  else none

/-- Unrounded micro-USD for a usage at a rate. -/
def exactMicroUsd (usage : TokenUsage) (price : TokenPrice) : Rat :=
  (usage.inputTokens * price.inputMicroUsdPerMTok +
    usage.outputTokens * price.outputMicroUsdPerMTok) / 1000000

/-- Price a request, rounding up on the total. -/
def priceUsage (usage : TokenUsage) (price : TokenPrice) : MeterOutcome :=
  match rateProblem price with
  | some problem => .unmetered problem
  | none => .metered (exactMicroUsd usage price).ceil usage

/-- The whole metering decision for one upstream answer. -/
def meterResponse (body : Json) (price : TokenPrice) : MeterOutcome :=
  match extractUsage body with
  | none => .unmetered ("the upstream response carried no usable token counts (no integer " ++
      "prompt_tokens / completion_tokens), so this request cannot be priced. Recorded as " ++
      "unmetered rather than as a zero-cost request")
  | some usage => priceUsage usage price

/-- Price a usage object that arrived on its own. -/
def meterUsageObject (usage : Json) (price : TokenPrice) : MeterOutcome :=
  meterResponse (.obj [("usage", usage)]) price

/-! ## Estimates -/

/-- Bytes of received text that count as one output token. -/
def estimateBytesPerToken : Nat := 4

/-- Tokens of so many bytes, rounded down. -/
def estimateTokensFromBytes (bytes : Nat) : Int := (bytes / estimateBytesPerToken : Nat)

/-- The usage attributed to a stream that was cut off before it reported any. -/
def estimateStreamUsage (promptTextBytes receivedOutputTextBytes : Nat) : TokenUsage :=
  ⟨estimateTokensFromBytes promptTextBytes, estimateTokensFromBytes receivedOutputTextBytes⟩

/-- An estimate with its counts, or the reason there is none. -/
inductive EstimateOutcome where
  | estimated (microUsd : Int) (usage : TokenUsage)
  | unmetered (reason : String)
deriving Repr, DecidableEq

/-- Price an estimated usage, rounding down. -/
def priceEstimatedUsage (usage : TokenUsage) (price : TokenPrice) : EstimateOutcome :=
  match rateProblem price with
  | some problem => .unmetered problem
  | none => .estimated (exactMicroUsd usage price).floor usage

end ControlPlane
