import ControlPlane.Model.Inference
import ControlPlane.Model.Routes.Chat

/-!
# Answers wrapped in `result`

The text reader takes a body apart that came back as `{ result: body }`, as often as it
is wrapped. The money reader looks at the outermost layer only, where a wrapper has no
counts: an answer that is metered as it is and served either way is free in a wrapper.

## Key results

- `extractText_wrapped`: a wrapper changes nothing about the text
- `extractUsage_wrapped`: a wrapper has no usage, whatever is in it
- `wrapped_unmetered`: a metered answer with text is served and not metered in a wrapper
- `serve_wrapped`: the chat door records it as a row without a charge
-/

namespace ControlPlane

namespace Json

/-- The body as the value of `result`. -/
def wrapped (body : Json) : Json := .obj [("result", body)]

end Json

/-- None of the shapes is a wrapper's own. -/
theorem shapesText_wrapped (body : Json) : shapesText body.wrapped = .ok none := rfl

/-- The text of a wrapper is the text of what it wraps. -/
@[simp] theorem extractText_wrapped (body : Json) :
    extractText body.wrapped = extractText body := by
  show extractText (.obj [("result", body)]) = _
  rw [extractText, show shapesText (.obj [("result", body)]) = .ok none from
    shapesText_wrapped body]
  show resultText [("result", body)] = _
  rw [resultText, if_pos rfl]

/-- The counts of a wrapper are not looked for in what it wraps. -/
@[simp] theorem extractUsage_wrapped (body : Json) : extractUsage body.wrapped = none := rfl

/-- A wrapper is never metered. -/
theorem meterResponse_wrapped (body : Json) (price : TokenPrice) (microUsd : Int)
    (usage : TokenUsage) : meterResponse body.wrapped price ≠ .metered microUsd usage := by
  rw [meterResponse, extractUsage_wrapped]
  exact nofun

/-- The chat door hands the text of a wrapped answer out and records a row that charges
    nothing for it. -/
theorem serve_wrapped (call : ChatCall) {body : Json} {text : String}
    (gatewayLogId : Option String) (events : List StreamEvent) (periodNow : Option PeriodRow)
    (hread : extractText body = .ok (some text)) :
    ∃ event, call.serve (.ok body.wrapped gatewayLogId) events periodNow =
        ([event], call.completion text body.wrapped) ∧
      event.metered = false ∧ event.microUsd = 0 := by
  have htext : extractText body.wrapped = .ok (some text) :=
    (extractText_wrapped body).trans hread
  refine ⟨call.buildEvent (call.answerEvent body.wrapped gatewayLogId) periodNow, ?_, ?_⟩
  · simp only [ChatCall.serve, htext]
  · cases periodNow <;>
      exact ⟨rfl, rfl⟩

/-- A body that is metered and has text keeps its text in a wrapper, and is not metered
    there at any charge: the chat door serves it and charges nothing. -/
theorem wrapped_unmetered (body : Json) (price : TokenPrice) (microUsd : Int)
    (usage : TokenUsage) (text : String)
    (_hmetered : meterResponse body price = .metered microUsd usage)
    (hread : extractText body = .ok (some text)) :
    extractText body.wrapped = .ok (some text) ∧
      (∀ charge counts, meterResponse body.wrapped price ≠ .metered charge counts) ∧
      ∀ (call : ChatCall) (gatewayLogId : Option String) (events : List StreamEvent)
        (periodNow : Option PeriodRow), ∃ event,
        call.serve (.ok body.wrapped gatewayLogId) events periodNow =
            ([event], call.completion text body.wrapped) ∧
          event.metered = false ∧ event.microUsd = 0 :=
  ⟨(extractText_wrapped body).trans hread, meterResponse_wrapped body price,
    fun call gatewayLogId events periodNow => serve_wrapped call gatewayLogId events periodNow hread⟩

/-- One input and one output token at a dollar a million each: two micro-USD. -/
def wrappedHello : Json :=
  .obj [("response", .str "hi"),
    ("usage", .obj [("prompt_tokens", .num 1), ("completion_tokens", .num 1)])]

theorem wrapped_unmetered_hello :
    extractText wrappedHello.wrapped = .ok (some "hi") ∧
      ∀ charge counts, meterResponse wrappedHello.wrapped ⟨1000000, 1000000⟩ ≠
        .metered charge counts := by
  have hwrapped := wrapped_unmetered wrappedHello ⟨1000000, 1000000⟩ 2 ⟨1, 1⟩ "hi"
    (by decide +kernel) rfl
  exact ⟨hwrapped.1, hwrapped.2.1⟩

/-- The same answer costs two micro-USD as it is and nothing in its wrapper. -/
theorem hello_free_in_wrapper :
    meterResponse wrappedHello ⟨1000000, 1000000⟩ = .metered 2 ⟨1, 1⟩ ∧
      extractText wrappedHello = .ok (some "hi") ∧
      extractText wrappedHello.wrapped = .ok (some "hi") ∧
      meterResponse wrappedHello.wrapped ⟨1000000, 1000000⟩ ≠ .metered 2 ⟨1, 1⟩ :=
  ⟨by decide +kernel, rfl, rfl, meterResponse_wrapped _ _ _ _⟩

end ControlPlane
