import ControlPlane.ForStd.Utf16Cuts
import ControlPlane.Spec.BufferedStream

/-!
# The text of a buffered stream

The answer is written out in slices of 48 code units, each of them a frame of its
own. Read back from the frames the slices are the text again; but a slice that ends
between the halves of a surrogate pair is not a text, and each half is counted as
the three bytes of U+FFFD.

## Key results

- `contentDeltas_deferred`: the deltas a client reads are the slices
- `outputBytes_of_counted`: the bytes counted are the bytes of the deltas
- `deferred_carriesText_iff`: exactly where the stream carries its text
-/

namespace ControlPlane

open JsonText (JsStr Value)
open SseUsageScanner AnthropicSse

/-! ## What a client reads -/

/-- `delta.content` of a choice. -/
def choiceContent (choice : Value) : Option JsStr :=
  ((choice.field "delta").bind (Value.field "content")).bind Value.asString

/-- The content of a frame's choices. -/
def frameContents (frame : Value) : List JsStr :=
  match frame.field "choices" with
  | some (.arr choices) => choices.filterMap choiceContent
  | _ => []

/-- The content of a `data:` line. -/
def lineContents (line : String) : List JsStr :=
  (((payload line).bind fun data => JsonText.parse data.toList).map frameContents).getD []

/-- The content deltas of a stream. -/
def contentDeltas (text : String) : List JsStr := (linesOf text).flatMap lineContents

/-- The stream carries a text: its deltas are texts and make up the whole, and what
    the scanner counts is the text, however much of it was received. -/
structure CarriesText (pieces : List String) (text : String) : Prop where
  wellFormed : ∀ delta ∈ contentDeltas (String.join pieces), Utf16.WellFormed delta
  whole : (contentDeltas (String.join pieces)).flatten = Utf16.encode text
  counted : (pieces.foldl push .new).finish.outputBytes = text.utf8ByteSize
  /-- A client that hangs up after `n` pieces. -/
  received : ∀ n, ((pieces.take n).foldl push .new).finish.outputBytes =
    Utf16.utf8Length (contentDeltas (String.join (pieces.take n))).flatten

/-! ## Lines -/

/-- The bytes the scanner adds for a line. -/
def lineBytes (line : String) : Nat := ((frames [line]).map frameBytes).sum

/-- A line is counted as the content a client reads from it. -/
def Counted (line : String) : Prop :=
  lineBytes line = ((lineContents line).map Utf16.utf8Length).sum

/-- Whole lines, each of them counted as its content. -/
def CountedLines (text : String) : Prop :=
  ∃ lines, (∀ line ∈ lines, '\n' ∉ line.toList ∧ Counted line) ∧ text = textOf lines

/-- A text of whole lines has those lines, and an empty one behind the last. -/
theorem linesOf_textOf {lines : List String} (h : ∀ line ∈ lines, '\n' ∉ line.toList) :
    linesOf (textOf lines) = lines ++ [""] := JsString.split_lines h

/-- A blank line carries nothing. -/
theorem lineContents_blank : lineContents "" = [] := by
  rw [lineContents, payload_blank]
  rfl

/-- What is read line by line is read from each line that ends. -/
theorem flatMap_linesOf_textOf {α : Type} {f : String → List α} (hblank : f "" = [])
    {lines : List String} (h : ∀ line ∈ lines, '\n' ∉ line.toList) :
    (linesOf (textOf lines)).flatMap f = lines.flatMap f := by
  rw [linesOf_textOf h, List.flatMap_append, List.flatMap_singleton, hblank, List.append_nil]

/-- What is read line by line is read of two texts one after the other. -/
theorem flatMap_linesOf_append {α : Type} {f : String → List α} (hblank : f "" = [])
    {text more : String} (h : Lines text) (h' : Lines more) :
    (linesOf (text ++ more)).flatMap f = (linesOf text).flatMap f ++ (linesOf more).flatMap f := by
  obtain ⟨lines, hlines, rfl⟩ := h
  obtain ⟨lines', hlines', rfl⟩ := h'
  have hboth : ∀ line ∈ lines ++ lines', '\n' ∉ line.toList := by
    intro line hline
    cases List.mem_append.mp hline with
    | inl hline => exact hlines line hline
    | inr hline => exact hlines' line hline
  rw [← textOf_append, flatMap_linesOf_textOf hblank hboth, flatMap_linesOf_textOf hblank hlines,
    flatMap_linesOf_textOf hblank hlines', List.flatMap_append]

/-- The content of a text of whole lines is its lines' content. -/
theorem contentDeltas_textOf {lines : List String} (h : ∀ line ∈ lines, '\n' ∉ line.toList) :
    contentDeltas (textOf lines) = lines.flatMap lineContents :=
  flatMap_linesOf_textOf lineContents_blank h

/-- The content of two texts is the one's, then the other's. -/
theorem contentDeltas_append {text more : String} (h : Lines text) (h' : Lines more) :
    contentDeltas (text ++ more) = contentDeltas text ++ contentDeltas more :=
  flatMap_linesOf_append lineContents_blank h h'

/-- A text whose lines are counted consists of whole lines. -/
theorem CountedLines.lines {text : String} (h : CountedLines text) : Lines text := by
  obtain ⟨lines, hlines, rfl⟩ := h
  exact ⟨lines, fun line hline => (hlines line hline).1, rfl⟩

/-- The empty text is counted. -/
theorem countedLines_empty : CountedLines "" := by
  refine ⟨[], ?_, rfl⟩
  intro line h
  cases h

/-- Two counted texts are counted one after the other. -/
theorem CountedLines.append {text more : String} (h : CountedLines text)
    (h' : CountedLines more) : CountedLines (text ++ more) := SseUsageScanner.lines_append h h'

/-- What holds of each piece and of two texts put together holds of all pieces. -/
theorem join_of_append {P : String → Prop} (hempty : P "")
    (happend : ∀ text more, P text → P more → P (text ++ more)) {pieces : List String}
    (h : ∀ piece ∈ pieces, P piece) : P (String.join pieces) := by
  induction pieces with
  | nil => exact hempty
  | cons piece pieces ih =>
    rw [String.join_cons]
    apply happend
    · exact h piece List.mem_cons_self
    · exact ih fun q hq => h q (List.mem_cons_of_mem piece hq)

/-- And so is any number of them. -/
theorem CountedLines.join {pieces : List String} (h : ∀ piece ∈ pieces, CountedLines piece) :
    CountedLines (String.join pieces) :=
  join_of_append countedLines_empty (fun _ _ => CountedLines.append) h

/-- The content of joined texts is the content of each. -/
theorem contentDeltas_join {pieces : List String} (h : ∀ piece ∈ pieces, CountedLines piece) :
    contentDeltas (String.join pieces) = pieces.flatMap contentDeltas := by
  induction pieces with
  | nil =>
    have hblank : '\n' ∉ "".toList := by decide
    rw [String.join_nil, contentDeltas, linesOf_of_not_mem hblank, List.flatMap_singleton,
      lineContents_blank, List.flatMap_nil]
  | cons piece pieces ih =>
    have hrest : ∀ q ∈ pieces, CountedLines q := fun q hq => h q (List.mem_cons_of_mem piece hq)
    rw [String.join_cons, contentDeltas_append (h piece List.mem_cons_self).lines
      (CountedLines.join hrest).lines, ih hrest, List.flatMap_cons]

/-- The bytes counted by frames are those counted by lines. -/
theorem sum_lineBytes (lines : List String) :
    ((frames lines).map frameBytes).sum = (lines.map lineBytes).sum := by
  induction lines with
  | nil => rfl
  | cons line lines ih =>
    have hframes : frames (line :: lines) = frames [line] ++ frames lines := by
      simp only [frames, payloads, ← List.filterMap_append, ← List.filter_append]
      rfl
    rw [hframes, List.map_append, List.sum_append_nat, ih, List.map_cons, List.sum_cons, lineBytes]

/-- The bytes counted are the bytes of the deltas. -/
theorem outputBytes_of_counted {pieces : List String} (h : ∀ piece ∈ pieces, CountedLines piece) :
    (pieces.foldl push .new).finish.outputBytes =
      ((contentDeltas (String.join pieces)).map Utf16.utf8Length).sum := by
  obtain ⟨lines, hlines, htext⟩ := CountedLines.join h
  have hopen : ∀ line ∈ lines, '\n' ∉ line.toList := fun line hline => (hlines line hline).1
  have hnew : SseUsageScanner.new.buffer = "" := rfl
  have hpush : pieces.foldl push .new = lines.foldl consumeLine .new := by
    rw [push_join _ rfl, htext, push_lines hnew hopen]
  have hbuffer : (lines.foldl consumeLine .new).buffer = "" := by
    rw [foldl_consumeLine]
    rfl
  rw [hpush, finish, if_pos hbuffer, foldl_consumeLine, htext, contentDeltas_textOf hopen]
  show 0 + ((frames lines).map frameBytes).sum = _
  rw [Nat.zero_add, sum_lineBytes]
  -- line by line
  clear hpush hbuffer htext hopen
  induction lines with
  | nil => rfl
  | cons line lines ih =>
    rw [List.map_cons, List.sum_cons, List.flatMap_cons, List.map_append, List.sum_append_nat,
      (hlines line List.mem_cons_self).2, ih fun l hl => hlines l (List.mem_cons_of_mem line hl)]

/-! ## Frames -/

/-- A line of a written object holds that object as its frame. -/
theorem frames_object {fields : List (String × Value)}
    (h : JsonText.Canonical (JsonText.object fields)) :
    frames ["data: " ++ String.ofList (JsonText.stringify (JsonText.object fields))] =
      [Json.ofValue (JsonText.object fields)] := by
  have hparse : Json.parse (String.ofList (JsonText.stringify (JsonText.object fields))) =
      some (Json.ofValue (JsonText.object fields)) := by
    rw [Json.parse, String.toList_ofList, JsonText.parse_stringify h]
    rfl
  have hobject : (Json.ofValue (JsonText.object fields)).isObject = true := by
    rw [Json.ofValue_object]
    rfl
  simp [frames, payloads, payload_object, hparse, hobject]

/-- And the content of that object as its content. -/
theorem lineContents_object {fields : List (String × Value)}
    (h : JsonText.Canonical (JsonText.object fields)) :
    lineContents ("data: " ++ String.ofList (JsonText.stringify (JsonText.object fields))) =
      frameContents (JsonText.object fields) := by
  rw [lineContents, payload_object, Option.bind_some, String.toList_ofList,
    JsonText.parse_stringify h]
  rfl

/-- A line with no payload carries nothing and counts for nothing. -/
theorem counted_of_payload {line : String} (h : payload line = none) :
    Counted line ∧ lineContents line = [] := by
  have hcontents : lineContents line = [] := by
    rw [lineContents, h]
    rfl
  refine ⟨?_, hcontents⟩
  rw [Counted, hcontents, lineBytes, frames, payloads, List.filterMap_cons, h]
  rfl

/-- A frame whose bytes are those of its content. -/
theorem countedLines_object {fields : List (String × Value)}
    (h : JsonText.Canonical (JsonText.object fields))
    (hbytes : frameBytes (Json.ofValue (JsonText.object fields)) =
      ((frameContents (JsonText.object fields)).map Utf16.utf8Length).sum) :
    CountedLines (encodeFrame (.json (JsonText.object fields))) ∧
      contentDeltas (encodeFrame (.json (JsonText.object fields))) =
        frameContents (JsonText.object fields) := by
  have hopen := newline_not_mem_frame (newline_not_mem_json (JsonText.object fields))
  have hcontents := lineContents_object h
  rw [encodeFrame_eq]
  constructor
  · refine ⟨_, ?_, rfl⟩
    intro line hline
    refine ⟨hopen line hline, ?_⟩
    rw [List.mem_cons, List.mem_singleton] at hline
    -- the frame's line, and the blank one behind it
    obtain rfl | rfl := hline
    · rw [Counted, lineBytes, FramePayload.data, frames_object h, hcontents, List.map_singleton,
        List.sum_singleton, hbytes]
    · exact (counted_of_payload payload_blank).1
  · rw [contentDeltas_textOf hopen, List.flatMap_cons, List.flatMap_singleton, lineContents_blank,
      List.append_nil]
    exact hcontents

namespace AnthropicToOpenAIState

variable (state : AnthropicToOpenAIState)

/-- The content of a delta that was written. -/
def deltaContent (delta : List (String × Value)) : Option JsStr :=
  (delta.lookup "content").bind Value.asString

/-- A choice's content is its delta's. -/
theorem choiceContent_choice (delta : List (String × Value)) (reason : Value) :
    choiceContent (choice delta reason) = deltaContent delta := by
  rw [choiceContent, choice, JsonText.field_object]
  show ((some (JsonText.object delta)).bind _).bind _ = _
  rw [Option.bind_some, JsonText.field_object, deltaContent]

/-- And its bytes are that content's. -/
theorem choiceBytes_choice (delta : List (String × Value)) (reason : Value) :
    choiceBytes (Json.ofValue (choice delta reason)) =
      ((deltaContent delta).map Utf16.utf8Length).getD 0 := by
  have hdelta : (Json.ofValue (choice delta reason)).field "delta" =
      some (Json.ofValue (JsonText.object delta)) := by
    rw [choice, Json.field_ofValue_object]
    rfl
  rw [choiceBytes, hdelta, Option.bind_some, deltaContent, Json.strField,
    Json.field_ofValue_object]
  cases delta.lookup "content" with
  | none => rfl
  | some value => cases value <;> rfl

/-- The bytes of a frame are the bytes of its content. -/
theorem frameBytes_chunk (choices : List (List (String × Value) × Value))
    {more : List (String × Value)} (hmore : more.lookup "type" = none) :
    let fields := [("id", .str state.id), ("object", JsonText.text "chat.completion.chunk"),
      ("created", .num state.created), ("model", .str state.model),
      ("choices", .arr (choices.map fun c => choice c.1 c.2))] ++ more
    frameContents (JsonText.object fields) = choices.filterMap (fun c => deltaContent c.1) ∧
    frameBytes (Json.ofValue (JsonText.object fields)) =
      ((frameContents (JsonText.object fields)).map Utf16.utf8Length).sum := by
  intro fields
  have hcontents : frameContents (JsonText.object fields) =
      choices.filterMap (fun c => deltaContent c.1) := by
    rw [frameContents, JsonText.field_object]
    show (choices.map fun c => choice c.1 c.2).filterMap choiceContent = _
    rw [List.filterMap_map]
    congr 1
    funext c
    exact choiceContent_choice c.1 c.2
  refine ⟨hcontents, ?_⟩
  have hchoices : (Json.ofValue (JsonText.object fields)).field "choices" =
      some (.arr (Json.ofValues (choices.map fun c => choice c.1 c.2))) := by
    rw [Json.field_ofValue_object]
    rfl
  -- no frame of the stream has a type, so none is read as Anthropic's
  have htype : (Json.ofValue (JsonText.object fields)).strField "type" = none := by
    have hfield : (Json.ofValue (JsonText.object fields)).field "type" = none := by
      rw [Json.field_ofValue_object]
      show (more.lookup "type").map Json.ofValue = none
      rw [hmore, Option.map_none]
    rw [Json.strField, hfield]
  rw [hcontents, frameBytes, hchoices, htype, if_neg (by simp), Nat.add_zero]
  dsimp only
  -- the sum runs over the choices from the left
  have hfold : ∀ n, (Json.ofValues (choices.map fun c => choice c.1 c.2)).foldl
      (fun n c => n + choiceBytes c) n =
      n + ((choices.filterMap fun c => deltaContent c.1).map Utf16.utf8Length).sum := by
    intro n
    clear hcontents hchoices htype
    induction choices generalizing n with
    | nil => rfl
    | cons c cs ih =>
      rw [List.map_cons, Json.ofValues, List.foldl_cons, ih, choiceBytes_choice,
        List.filterMap_cons]
      cases deltaContent c.1 with
      | none => simp
      | some content => simp [Nat.add_assoc]
  rw [hfold, Nat.zero_add]

/-- A written chunk is counted as the content it carries. -/
theorem countedLines_chunk (choices : List (List (String × Value) × Value))
    {more : List (String × Value)} (hmore : more.lookup "type" = none)
    (hchoices : ∀ c ∈ choices.map (fun c => choice c.1 c.2), JsonText.Canonical c)
    (hnames : (["id", "object", "created", "model", "choices"] ++ more.map Prod.fst).Nodup)
    (hvalues : ∀ f ∈ more, JsonText.Canonical f.2) :
    let frame := encodeFrame (state.chunk (choices.map fun c => choice c.1 c.2) more)
    CountedLines frame ∧ contentDeltas frame = choices.filterMap fun c => deltaContent c.1 := by
  intro frame
  have hcanonical := state.canonical_chunk more hchoices hnames hvalues
  obtain ⟨hcontents, hbytes⟩ := state.frameBytes_chunk choices hmore
  obtain ⟨hlines, hdeltas⟩ := countedLines_object hcanonical hbytes
  exact ⟨hlines, hdeltas.trans hcontents⟩

/-- The choices the stream writes are canonical. -/
theorem canonical_contents (content : List (String × JsStr)) (h : (content.map Prod.fst).Nodup) :
    ∀ c ∈ [choice (content.map fun f => (f.1, .str f.2)) .null], JsonText.Canonical c := by
  apply canonical_choice
  · rw [List.map_map]
    exact h
  · intro f hf
    obtain ⟨g, -, rfl⟩ := List.mem_map.mp hf
    trivial
  · trivial

/-- The opening frame carries an empty delta. -/
theorem countedLines_openChunk :
    CountedLines state.openChunk.2 ∧ contentDeltas state.openChunk.2 = [[]] := by
  have hcanonical := canonical_contents [("role", Utf16.encode "assistant"), ("content", [])]
    (by decide)
  exact state.countedLines_chunk [(_, .null)] rfl hcanonical (by decide) (fun f hf => by cases hf)

/-- A text frame carries its slice. -/
theorem countedLines_textChunk (slice : JsStr) :
    CountedLines (state.textChunk slice) ∧ contentDeltas (state.textChunk slice) = [slice] := by
  have hcanonical := canonical_contents [("content", slice)] (List.nodup_singleton _)
  exact state.countedLines_chunk [(_, .null)] rfl hcanonical (by decide) (fun f hf => by cases hf)

/-- The finish frame is counted, and has no content. -/
theorem countedLines_finish :
    let frame := encodeFrame (state.chunk [choice [] (JsonText.text "stop")] [])
    CountedLines frame ∧ contentDeltas frame = [] := by
  have hcanonical : ∀ c ∈ [choice [] (JsonText.text "stop")], JsonText.Canonical c := by
    apply canonical_choice
    · decide
    · intro f hf
      cases hf
    · trivial
  exact state.countedLines_chunk [([], _)] rfl hcanonical (by decide) (fun f hf => by cases hf)

/-- The usage frame is counted, and has no content. -/
theorem countedLines_usage :
    let frame := encodeFrame (state.chunk [] [("usage", state.usage)])
    CountedLines frame ∧ contentDeltas frame = [] := by
  have hnone : ∀ c ∈ ([] : List Value), JsonText.Canonical c := by
    intro c hc
    cases hc
  have hnames : (["id", "object", "created", "model", "choices", "usage"] : List String).Nodup := by
    decide
  have husage : ∀ f ∈ [("usage", state.usage)], JsonText.Canonical f.2 := by
    intro f hf
    rw [List.mem_singleton.mp hf]
    exact state.canonical_usage
  exact state.countedLines_chunk [] rfl hnone hnames husage

end AnthropicToOpenAIState

/-- Lines without a payload, each ended. -/
theorem countedLines_of_payload {lines : List String}
    (h : ∀ line ∈ lines, '\n' ∉ line.toList ∧ payload line = none) :
    CountedLines (textOf lines) ∧ contentDeltas (textOf lines) = [] := by
  constructor
  · exact ⟨lines, fun line hline => ⟨(h line hline).1, (counted_of_payload (h line hline).2).1⟩, rfl⟩
  · rw [contentDeltas_textOf fun line hline => (h line hline).1, List.flatMap_eq_nil_iff]
    intro line hline
    exact (counted_of_payload (h line hline).2).2

/-- A keepalive is counted, and has no content. -/
theorem countedLines_keepalive : CountedLines KEEPALIVE ∧ contentDeltas KEEPALIVE = [] := by
  have htext : KEEPALIVE = textOf [": prism-keepalive", ""] := by
    apply String.toList_inj.mp
    rw [textOf, String.toList_ofList]
    rfl
  rw [htext]
  apply countedLines_of_payload
  decide +kernel

/-- The marker is counted, and has no content. -/
theorem countedLines_done :
    CountedLines (encodeFrame (.literal "[DONE]")) ∧
      contentDeltas (encodeFrame (.literal "[DONE]")) = [] := by
  rw [encodeFrame_eq]
  apply countedLines_of_payload
  decide +kernel

/-- The last piece carries no text. -/
theorem AnthropicToOpenAIState.countedLines_finishAndUsage (state : AnthropicToOpenAIState) :
    CountedLines state.finishAndUsage.2 ∧ contentDeltas state.finishAndUsage.2 = [] := by
  obtain ⟨hfinish, hnofinish⟩ := state.countedLines_finish
  obtain ⟨hdone, hnodone⟩ := countedLines_done
  unfold finishAndUsage
  dsimp only
  split
  -- counts were reported
  next =>
    obtain ⟨husage, hnousage⟩ := state.countedLines_usage
    have hboth := hfinish.append husage
    rw [contentDeltas_append hboth.lines hdone.lines,
      contentDeltas_append hfinish.lines husage.lines, hnofinish, hnousage, hnodone]
    exact ⟨hboth.append hdone, rfl⟩
  next =>
    rw [String.append_empty, contentDeltas_append hfinish.lines hdone.lines, hnofinish, hnodone]
    exact ⟨hfinish.append hdone, rfl⟩

/-! ## The stream -/

section Deferred

variable (state : AnthropicToOpenAIState) (keepalives : Nat) (result : DeferredCompletionResult)

/-- The pieces of a stream whose call comes back. -/
theorem openAIStreamFromDeferredCompletion_ok :
    openAIStreamFromDeferredCompletion state keepalives (.ok result) =
      state.openChunk.2 :: (List.replicate keepalives KEEPALIVE ++
        ((textSlices result.text).map (state.resolved result).textChunk ++
          [(state.resolved result).finishAndUsage.2])) := rfl

/-- Every piece is counted as the content it carries. -/
theorem countedLines_deferred :
    ∀ piece ∈ openAIStreamFromDeferredCompletion state keepalives (.ok result),
      CountedLines piece := by
  rw [openAIStreamFromDeferredCompletion_ok]
  intro piece hpiece
  simp only [List.mem_cons, List.mem_append, List.mem_map, List.not_mem_nil, or_false] at hpiece
  obtain rfl | hkeepalive | ⟨slice, -, rfl⟩ | rfl := hpiece
  · exact state.countedLines_openChunk.1
  · exact List.eq_of_mem_replicate hkeepalive ▸ countedLines_keepalive.1
  · exact ((state.resolved result).countedLines_textChunk slice).1
  · exact (state.resolved result).countedLines_finishAndUsage.1

/-- A client reads the empty delta of the opening frame, and the slices. -/
theorem contentDeltas_deferred :
    contentDeltas (String.join (openAIStreamFromDeferredCompletion state keepalives (.ok result))) =
      [] :: textSlices result.text := by
  rw [contentDeltas_join (countedLines_deferred state keepalives result),
    openAIStreamFromDeferredCompletion_ok, List.flatMap_cons, List.flatMap_append,
    List.flatMap_append, List.flatMap_singleton, state.countedLines_openChunk.2,
    (state.resolved result).countedLines_finishAndUsage.2, List.append_nil]
  -- keepalives have no content
  have hkeepalives : (List.replicate keepalives KEEPALIVE).flatMap contentDeltas = [] := by
    rw [List.flatMap_eq_nil_iff]
    intro piece hpiece
    rw [List.eq_of_mem_replicate hpiece]
    exact countedLines_keepalive.2
  -- and each slice is the content of its chunk
  have hslices : ∀ slices : List JsStr,
      (slices.map (state.resolved result).textChunk).flatMap contentDeltas = slices := by
    intro slices
    induction slices with
    | nil => rfl
    | cons slice slices ih =>
      rw [List.map_cons, List.flatMap_cons, ih,
        ((state.resolved result).countedLines_textChunk slice).2, List.singleton_append]
  rw [hkeepalives, hslices]
  rfl

/-- What the scanner has counted when a client hangs up after `n` pieces. -/
theorem outputBytes_deferred (n : Nat) :
    (((openAIStreamFromDeferredCompletion state keepalives (.ok result)).take n).foldl push
        .new).finish.outputBytes =
      ((contentDeltas (String.join ((openAIStreamFromDeferredCompletion state keepalives
        (.ok result)).take n))).map Utf16.utf8Length).sum := by
  apply outputBytes_of_counted
  intro piece hpiece
  exact countedLines_deferred state keepalives result piece (List.mem_of_mem_take hpiece)

end Deferred

/-- The stream slices its text every 47 code units. -/
theorem textSlices_eq (text : JsStr) : textSlices text = Utf16.slices 47 text := rfl

/-- The stream carries its text iff no frame ends between the halves of a character:
    at no multiple of 48 code units is there a surrogate pair on either side. -/
theorem deferred_carriesText_iff (state : AnthropicToOpenAIState) (keepalives : Nat)
    (text : String) (promptTokens completionTokens : Option Int) :
    CarriesText (openAIStreamFromDeferredCompletion state keepalives
      (.ok ⟨Utf16.encode text, promptTokens, completionTokens⟩)) text ↔
    ∀ k, Utf16.pairAt (Utf16.encode text) (48 * k + 47) = false := by
  generalize hresult : (⟨Utf16.encode text, promptTokens, completionTokens⟩ :
    DeferredCompletionResult) = result
  have htext : result.text = Utf16.encode text := by rw [← hresult]
  have hdeltas := contentDeltas_deferred state keepalives result
  rw [htext, textSlices_eq] at hdeltas
  -- the deltas are the slices, so the question is where the slices cut
  have hslices := Utf16.wellFormed_slices_iff 47 (Utf16.wellFormed_encode text)
  constructor
  · intro h
    apply hslices.mp
    intro slice hslice
    apply h.wellFormed
    rw [hdeltas]
    exact List.mem_cons_of_mem _ hslice
  · intro h
    have hwell : ∀ delta ∈ contentDeltas (String.join
        (openAIStreamFromDeferredCompletion state keepalives (.ok result))),
        Utf16.WellFormed delta := by
      rw [hdeltas, List.forall_mem_cons]
      exact ⟨Utf16.wellFormed_nil, hslices.mpr h⟩
    have hwhole : (contentDeltas (String.join
        (openAIStreamFromDeferredCompletion state keepalives (.ok result)))).flatten =
        Utf16.encode text := by
      rw [hdeltas, List.flatten_cons, Utf16.flatten_slices, List.nil_append]
    have hreceived : ∀ n, (((openAIStreamFromDeferredCompletion state keepalives
        (.ok result)).take n).foldl push .new).finish.outputBytes =
        Utf16.utf8Length (contentDeltas (String.join ((openAIStreamFromDeferredCompletion state
          keepalives (.ok result)).take n))).flatten := by
      intro n
      rw [outputBytes_deferred, Utf16.utf8Length_flatten]
      intro delta hdelta
      -- what a client has received is a part of the whole
      apply hwell
      have hcounted := countedLines_deferred state keepalives result
      rw [contentDeltas_join hcounted]
      rw [contentDeltas_join fun p hp => hcounted p (List.mem_of_mem_take hp)] at hdelta
      obtain ⟨piece, hpiece, hmem⟩ := List.mem_flatMap.mp hdelta
      exact List.mem_flatMap.mpr ⟨piece, List.mem_of_mem_take hpiece, hmem⟩
    refine ⟨hwell, hwhole, ?_, hreceived⟩
    -- at the end the client has received everything
    have hall := hreceived (openAIStreamFromDeferredCompletion state keepalives (.ok result)).length
    rw [List.take_length, hwhole, Utf16.utf8Length_encode] at hall
    exact hall

/-- An answer of 47 letters and one character above the basic plane: the first slice ends
    with the first half of that character, the second starts with the other half, and 53
    bytes are counted for the 51 of the text. -/
theorem deferred_splits_character :
    let text := String.ofList (List.replicate 47 'a' ++ [Char.ofNat 0x1F600])
    let pieces := openAIStreamFromDeferredCompletion (newAnthropicToOpenAIState
      (Utf16.encode "chatcmpl-1") (Utf16.encode "anthropic/claude-fable-5") 1790000000) 1
      (.ok ⟨Utf16.encode text, none, none⟩)
    ¬ CarriesText pieces text ∧ (pieces.foldl push .new).finish.outputBytes = 53 ∧
      text.utf8ByteSize = 51 := by
  intro text pieces
  -- each half of the pair is written as a replacement character of three bytes
  have hbytes : (pieces.foldl push .new).finish.outputBytes = 53 := by
    have hcount := outputBytes_deferred (newAnthropicToOpenAIState (Utf16.encode "chatcmpl-1")
      (Utf16.encode "anthropic/claude-fable-5") 1790000000) 1
      ⟨Utf16.encode text, none, none⟩ pieces.length
    rw [List.take_length, contentDeltas_deferred] at hcount
    refine hcount.trans ?_
    decide +kernel
  have hsize : text.utf8ByteSize = 51 := by decide +kernel
  refine ⟨?_, hbytes, hsize⟩
  intro h
  have hcounted := h.counted
  rw [hbytes, hsize] at hcounted
  exact absurd hcounted (by decide)

end ControlPlane
