import ControlPlane.Spec.AnthropicTranslated

/-!
# Three streams of one answer

An answer reaches a client of the chat stream in one of three ways: written out at once,
written out after the keepalives of a call that took its time, or translated from the
provider's own stream. The client reads the same text and the same counts from each, and
the usage scanner reports these counts of each.

## Key results

- `framed_slices`: the frames of an answer written in slices
- `reportOfFrames_slicesTold` / `reportOfFrames_translated`: what the scanner reports
- `streams_read_alike`: the text and the counts, for each of the three
-/

namespace ControlPlane

open JsonText (JsStr Value)
open SseUsageScanner AnthropicSse AnthropicToOpenAIState

/-- The text and the counts a client ends with. -/
structure StreamedAnswer where
  text : JsStr
  counts : List Value

/-- What a client has been told: the text and the counts. -/
def answerOf (told : List ChatFrame) : StreamedAnswer :=
  ⟨(told.filterMap ChatFrame.content?).flatten, told.filterMap ChatFrame.usage?⟩

/-- The counts of a frame that may be missing. -/
def countsTold (input output : Option Int) : List Value :=
  (usageTold input output).filterMap ChatFrame.usage?

/-- What the scanner reports of a stream with these counts and these pieces of text. -/
def scannedOf (counts : List Value) (texts : List JsStr) : StreamReport :=
  ⟨(counts.getLast?.map Json.ofValue).getD .null, true, (texts.map Utf16.utf8Length).sum⟩

theorem answerOf_append (told told' : List ChatFrame) : answerOf (told ++ told') =
    ⟨(answerOf told).text ++ (answerOf told').text,
      (answerOf told).counts ++ (answerOf told').counts⟩ := by
  simp only [answerOf, List.filterMap_append, List.flatten_append]

theorem answerOf_contents (texts : List JsStr) :
    answerOf (texts.map .content) = ⟨texts.flatten, []⟩ := by
  induction texts with
  | nil => rfl
  | cons text texts ih =>
    have hone : answerOf [.content text] = ⟨text, []⟩ := by simp [answerOf, ChatFrame.content?,
      ChatFrame.usage?]
    rw [List.map_cons, ← List.singleton_append, answerOf_append, hone, ih]
    rfl

theorem answerOf_usageTold (input output : Option Int) :
    answerOf (usageTold input output) = ⟨[], countsTold input output⟩ := by
  have hnone : (usageTold input output).filterMap ChatFrame.content? = [] := by
    unfold usageTold
    split <;> rfl
  rw [answerOf, hnone]
  rfl

/-- The finish and the end add nothing to the answer. -/
theorem answerOf_ending (input output : Option Int) (rest : List ChatFrame) :
    answerOf (.finish :: usageTold input output ++ .done :: rest) =
      ⟨(answerOf rest).text, countsTold input output ++ (answerOf rest).counts⟩ := by
  have hparts : .finish :: usageTold input output ++ .done :: rest =
      [ChatFrame.finish] ++ usageTold input output ++ ([.done] ++ rest) := rfl
  have hfinish : answerOf [.finish] = ⟨[], []⟩ := rfl
  have hdone : answerOf [.done] = ⟨[], []⟩ := rfl
  rw [hparts, answerOf_append, answerOf_append, answerOf_append, hfinish, hdone,
    answerOf_usageTold]
  rfl

/-- The pieces of text of content frames. -/
theorem contents_map (texts : List JsStr) :
    (texts.map ChatFrame.content).filterMap ChatFrame.content? = texts := by
  induction texts with
  | nil => rfl
  | cons text texts ih => exact congrArg (text :: ·) ih

/-- The finish, the counts and the end hold no text. -/
theorem contents_ending (input output : Option Int) (rest : List ChatFrame) :
    (.finish :: usageTold input output ++ .done :: rest).filterMap ChatFrame.content? =
      rest.filterMap ChatFrame.content? := by
  have hnone : (usageTold input output).filterMap ChatFrame.content? = [] := by
    unfold usageTold
    split <;> rfl
  show (usageTold input output ++ .done :: rest).filterMap ChatFrame.content? = _
  rw [List.filterMap_append, hnone]
  rfl

/-- The frames of an answer in slices. -/
def slicesTold (result : DeferredCompletionResult) : List ChatFrame :=
  .content [] :: (textSlices result.text).map .content ++
    .finish :: usageTold result.promptTokens result.completionTokens ++ [.done]

theorem framed_join {α : Type} {write : α → String} {told : α → List ChatFrame}
    (h : ∀ a, Framed (write a) (told a)) (pieces : List α) :
    Framed (String.join (pieces.map write)) (pieces.flatMap told) := by
  induction pieces with
  | nil => exact .empty
  | cons piece pieces ih =>
    rw [List.map_cons, String.join_cons, List.flatMap_cons]
    exact (h piece).append ih

section Answers

variable (id model : JsStr) (created : Int) (result : DeferredCompletionResult)

/-- The pieces of an answer after whatever keeps the connection alive. -/
theorem framed_slices {waiting : String} (hwaiting : Framed waiting []) :
    let state := newAnthropicToOpenAIState id model created
    Framed (state.openChunk.2 ++ (waiting ++
      (String.join ((textSlices result.text).map (state.resolved result).textChunk) ++
        (state.resolved result).finishAndUsage.2))) (slicesTold result) := by
  intro state
  have hslices := framed_join (state.resolved result).framed_textChunk (textSlices result.text)
  -- the counts of the result are the state's, which had none of its own
  have hcounts : (state.resolved result).usageFrames =
      usageTold result.promptTokens result.completionTokens := by
    have hinput : (state.resolved result).inputTokens = result.promptTokens := by
      show (result.promptTokens <|> none) = _
      cases result.promptTokens <;> rfl
    have houtput : (state.resolved result).outputTokens = result.completionTokens := by
      show (result.completionTokens <|> none) = _
      cases result.completionTokens <;> rfl
    rw [usageFrames, usage, hinput, houtput]
    rfl
  have hend := (state.resolved result).framed_finishAndUsage
  rw [hcounts] at hend
  have hall := state.framed_openChunk.append (hwaiting.append (hslices.append hend))
  have htold : [ChatFrame.content []] ++ ([] ++ ((textSlices result.text).flatMap
      (fun text => [ChatFrame.content text]) ++ (.finish ::
        usageTold result.promptTokens result.completionTokens ++ [.done]))) =
      slicesTold result := by
    simp [slicesTold, List.map_eq_flatMap]
  rw [htold] at hall
  exact hall

/-- The frames of an answer in slices: its texts, and then its end. -/
theorem slicesTold_eq : slicesTold result = ([] :: textSlices result.text).map .content ++
    (.finish :: usageTold result.promptTokens result.completionTokens ++ .done :: []) := by
  simp [slicesTold]

/-- The frames of events: the texts up to the stop, the end, and the texts after it. -/
theorem translated_eq (events : List Value) :
    let said := events.takeWhile fun event => !isStop event
    let after := events.dropWhile fun event => !isStop event
    translated events = ([] :: said.filterMap textDelta).map .content ++
      (.finish :: usageTold (lastCount "input_tokens" said) (lastCount "output_tokens" said) ++
        .done :: (after.filterMap textDelta).map .content) := by
  simp [translated, contentTold]

/-- The texts of events are those up to the stop and those after it. -/
theorem filterMap_textDelta (events : List Value) : events.filterMap textDelta =
    (events.takeWhile fun event => !isStop event).filterMap textDelta ++
      (events.dropWhile fun event => !isStop event).filterMap textDelta := by
  rw [← List.filterMap_append, List.takeWhile_append_dropWhile]

theorem answerOf_slicesTold : answerOf (slicesTold result) =
    ⟨result.text, countsTold result.promptTokens result.completionTokens⟩ := by
  rw [slicesTold_eq, answerOf_append, answerOf_contents, answerOf_ending, List.flatten_cons,
    textSlices_eq, Utf16.flatten_slices]
  simp [answerOf]

theorem answerOf_translated (events : List Value) :
    let said := events.takeWhile fun event => !isStop event
    answerOf (translated events) = ⟨(events.filterMap textDelta).flatten,
      countsTold (lastCount "input_tokens" said) (lastCount "output_tokens" said)⟩ := by
  intro said
  have htexts := congrArg List.flatten (filterMap_textDelta events)
  rw [List.flatten_append] at htexts
  rw [translated_eq, answerOf_append, answerOf_contents, answerOf_ending, answerOf_contents, htexts]
  simp [said]

/-- The scanner reports the counts of the answer and the bytes of its slices. -/
theorem reportOfFrames_slicesTold : reportOfFrames (slicesTold result) =
    scannedOf (countsTold result.promptTokens result.completionTokens)
      (textSlices result.text) := by
  have hcontents : (slicesTold result).filterMap ChatFrame.content? =
      [] :: textSlices result.text := by
    rw [slicesTold_eq, List.filterMap_append, contents_map, contents_ending, List.filterMap_nil,
      List.append_nil]
  have hcounts : (slicesTold result).filterMap ChatFrame.usage? =
      countsTold result.promptTokens result.completionTokens :=
    congrArg StreamedAnswer.counts (answerOf_slicesTold result)
  rw [reportOfFrames, hcontents, hcounts]
  -- the opening chunk has no text
  show StreamReport.mk _ true (0 + _) = _
  rw [Nat.zero_add]
  rfl

/-- The scanner reports the last counts of the events and the bytes of their texts. -/
theorem reportOfFrames_translated (events : List Value) :
    let said := events.takeWhile fun event => !isStop event
    reportOfFrames (translated events) =
      scannedOf (countsTold (lastCount "input_tokens" said) (lastCount "output_tokens" said))
        (events.filterMap textDelta) := by
  intro said
  have hcontents : (translated events).filterMap ChatFrame.content? =
      [] :: events.filterMap textDelta := by
    rw [translated_eq, List.filterMap_append, contents_map, contents_ending, contents_map,
      filterMap_textDelta events]
    rfl
  have hcounts : (translated events).filterMap ChatFrame.usage? =
      countsTold (lastCount "input_tokens" said) (lastCount "output_tokens" said) :=
    congrArg StreamedAnswer.counts (answerOf_translated events)
  rw [reportOfFrames, hcontents, hcounts]
  show StreamReport.mk _ true (0 + _) = _
  rw [Nat.zero_add]
  rfl

/-- A client ends with the text and the counts of a completed answer, and the scanner
    reports these counts; of a provider's stream, with those that its events give. -/
theorem streams_read_alike (keepalives : Nat) (chunks : List Chunk) :
    let state := newAnthropicToOpenAIState id model created
    let counts := countsTold result.promptTokens result.completionTokens
    let atOnce := TextDecoder.utf8.text (openAIStreamFromCompletion state result)
    let deferred :=
      String.join (openAIStreamFromDeferredCompletion state keepalives (.ok result))
    let events := sourceEvents (TextDecoder.utf8.text chunks.flatten)
    let said := events.takeWhile fun event => !isStop event
    let counted := countsTold (lastCount "input_tokens" said) (lastCount "output_tokens" said)
    let relayed := TextDecoder.utf8.text (AnthropicSseToOpenAI.translate state chunks)
    (answerOf (chatFrames atOnce) = ⟨result.text, counts⟩ ∧
      reportOf atOnce = scannedOf counts (textSlices result.text)) ∧
    (answerOf (chatFrames deferred) = ⟨result.text, counts⟩ ∧
      reportOf deferred = scannedOf counts (textSlices result.text)) ∧
    answerOf (chatFrames relayed) = ⟨(events.filterMap textDelta).flatten, counted⟩ ∧
      reportOf relayed = scannedOf counted (events.filterMap textDelta) := by
  intro state counts atOnce deferred events said counted relayed
  have hframed {text : String} (h : Framed text (slicesTold result)) :
      answerOf (chatFrames text) = ⟨result.text, counts⟩ ∧
        reportOf text = scannedOf counts (textSlices result.text) := by
    rw [h.frames, answerOf_slicesTold, h.report, reportOfFrames_slicesTold]
    exact ⟨rfl, rfl⟩
  refine ⟨hframed ?_, hframed ?_, ?_⟩
  -- at once: no keepalive goes before the text
  · have hslices := framed_slices id model created result .empty
    have hbytes : openAIStreamFromCompletion state result = TextEncoder.encode
        (state.openChunk.2 ++ ("" ++
          (String.join ((textSlices result.text).map (state.resolved result).textChunk) ++
            (state.resolved result).finishAndUsage.2))) := by
      rw [String.empty_append, ← String.append_assoc]
      rfl
    show Framed (TextDecoder.utf8.text (openAIStreamFromCompletion state result)) _
    rw [hbytes, TextDecoder.text_encode hslices.head]
    exact hslices
  -- deferred: the keepalives are comments
  · have hwaiting : Framed (String.join ((List.range keepalives).map fun _ => KEEPALIVE)) [] := by
      have hjoin := framed_join (fun _ : Nat => framed_keepalive) (List.range keepalives)
      rwa [List.flatMap_eq_nil_iff.mpr fun _ _ => rfl] at hjoin
    have hslices := framed_slices id model created result hwaiting
    have htext : deferred =
        state.openChunk.2 ++ (String.join ((List.range keepalives).map fun _ => KEEPALIVE) ++
          (String.join ((textSlices result.text).map (state.resolved result).textChunk) ++
            (state.resolved result).finishAndUsage.2)) := by
      have hticks : (List.range keepalives).map (fun _ => KEEPALIVE) =
          List.replicate keepalives KEEPALIVE := by
        rw [List.map_const', List.length_range]
      show String.join (openAIStreamFromDeferredCompletion state keepalives (.ok result)) = _
      rw [openAIStreamFromDeferredCompletion_ok, hticks, String.join_cons, String.join_append,
        String.join_append, String.join_cons (l := []), String.join_nil, String.append_empty]
    rw [htext]
    exact hslices
  -- relayed: the translation is read as the source says
  · obtain ⟨hframes, hreport⟩ := (wrote_translate id model created chunks).read
    show answerOf (chatFrames (TextDecoder.utf8.text _)) = _ ∧ reportOf (TextDecoder.utf8.text _) = _
    rw [hframes, hreport]
    exact ⟨answerOf_translated events, reportOfFrames_translated events⟩

end Answers

end ControlPlane
