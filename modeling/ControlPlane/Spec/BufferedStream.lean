import ControlPlane.Model.Upstream
import ControlPlane.Spec.ChatRecorded
import ControlPlane.Spec.ScannerChunks

/-!
# A buffered stream is charged as the answer it carries

The counts of a native answer are written into the trailing frame of the stream,
scanned out of the relayed text and priced from there. A frame is one line, whatever
text it carries, so the scanner sees the frames as they were written.

## Key results

- `SseUsageScanner.push_lines`: lines that end are consumed one after another
- `SseUsageScanner.push_frame`: a written frame is read back
- `lastUsage_bufferedStream`: what the scanner has at the end of the stream
- `buffered_stream_same_charge`: the streamed row is the row of the buffered answer
-/

namespace ControlPlane

open JsonText (JsStr Value)

/-! ## Written values read back -/

/-- Fields are read as they were written. -/
theorem Json.ofFields_map (fields : List (String × Value)) :
    Json.ofFields (fields.map fun f => (Utf16.encode f.1, f.2)) =
      fields.map fun f => (f.1, Json.ofValue f.2) := by
  induction fields with
  | nil => rfl
  | cons f fs ih =>
    rw [List.map_cons, Json.ofFields, ih, Utf16.decode_encode, String.ofList_toList]
    rfl

/-- So is an object. -/
theorem Json.ofValue_object (fields : List (String × Value)) :
    Json.ofValue (JsonText.object fields) =
      .obj (fields.map fun f => (f.1, Json.ofValue f.2)) := by
  rw [JsonText.object, Json.ofValue, Json.ofFields_map]

/-- A field of an object that was written. -/
theorem Json.field_ofValue_object (fields : List (String × Value)) (name : String) :
    (Json.ofValue (JsonText.object fields)).field name =
      (fields.lookup name).map Json.ofValue := by
  rw [Json.ofValue_object]
  show List.lookup name _ = _
  induction fields with
  | nil => rfl
  | cons f fs ih =>
    rw [List.map_cons, List.lookup_cons, List.lookup_cons, ih]
    split <;> rfl

/-! ## Lines -/

namespace SseUsageScanner

/-- Lines, each ended. -/
def textOf (lines : List String) : String :=
  String.ofList (lines.flatMap fun line => line.toList ++ ['\n'])

/-- The text of lines is put together line by line. -/
theorem textOf_append (lines more : List String) :
    textOf (lines ++ more) = textOf lines ++ textOf more := by
  rw [textOf, List.flatMap_append, String.ofList_append]
  rfl

/-- Whole lines are consumed one after another. -/
theorem push_lines {scanner : SseUsageScanner} (h : scanner.buffer = "") {lines : List String}
    (hlines : ∀ line ∈ lines, '\n' ∉ line.toList) :
    scanner.push (textOf lines) = lines.foldl consumeLine scanner := by
  have hempty : ({ scanner with buffer := "" } : SseUsageScanner) = scanner := by rw [← h]
  -- every line is complete, so nothing stays in the buffer
  have hsplit : JsString.split (scanner.buffer ++ textOf lines) '\n' = lines ++ [""] := by
    rw [h, String.empty_append]
    exact JsString.split_lines hlines
  unfold push
  rw [hsplit]
  dsimp only
  rw [List.dropLast_concat, List.getLast?_concat]
  exact congrArg (fun s => lines.foldl consumeLine s) hempty

/-- Nothing is read from an empty chunk. -/
theorem push_empty {scanner : SseUsageScanner} (h : scanner.buffer = "") :
    scanner.push "" = scanner := by
  have hnone : ∀ line ∈ ([] : List String), '\n' ∉ line.toList := by
    intro line hline
    cases hline
  have hempty : textOf [] = "" := rfl
  have hpush := push_lines h hnone
  rw [hempty, List.foldl_nil] at hpush
  exact hpush

/-! ## Frames -/

/-- A data line starts with `data: `. -/
theorem toList_data (data : String) : ("data: " ++ data).toList =
    'd' :: 'a' :: 't' :: 'a' :: ':' :: ' ' :: data.toList := by
  rw [String.toList_append]
  rfl

/-- The payload of a line that is neither padded nor a sentinel. -/
theorem payload_data {data : String} {c d : Char} {cs ds : List Char}
    (hstart : data.toList = c :: cs) (hend : data.toList = ds ++ [d])
    (hc : JsString.isTrimmed c = false) (hd : JsString.isTrimmed d = false)
    (hsentinel : data ∉ sentinels) : payload ("data: " ++ data) = some data := by
  -- neither end of the line is white space
  have hline : JsString.trim ("data: " ++ data) = "data: " ++ data := by
    have hback : ("data: " ++ data).toList =
        ('d' :: 'a' :: 't' :: 'a' :: ':' :: ' ' :: ds) ++ [d] := by
      rw [toList_data, hend]
      rfl
    exact JsString.trim_of_ends (toList_data data) hback (by decide) hd
  have hstarts : JsString.startsWith ("data: " ++ data) "data:" = true := by
    rw [JsString.startsWith, toList_data]
    rfl
  have hdrop : ("data: " ++ data).toList.drop "data:".toList.length = ' ' :: data.toList := by
    rw [toList_data]
    rfl
  have hne : data ≠ "" := by
    intro h
    rw [h] at hstart
    cases hstart
  unfold payload
  dsimp only
  rw [hline, if_pos hstarts, hdrop, JsString.trim_space, JsString.trim_of_ends hstart hend hc hd,
    if_neg (not_or.mpr ⟨hne, hsentinel⟩)]

/-- The payload of a line that carries an object: it opens a brace, and no sentinel does. -/
theorem payload_object (fields : List (String × Value)) :
    payload ("data: " ++ String.ofList (JsonText.stringify (JsonText.object fields))) =
      some (String.ofList (JsonText.stringify (JsonText.object fields))) := by
  obtain ⟨body, hbody⟩ := JsonText.stringify_object fields
  rw [hbody]
  have hstart : (String.ofList ('\x7b' :: (body ++ ['\x7d']))).toList =
      '\x7b' :: (body ++ ['\x7d']) := String.toList_ofList
  have hback : (String.ofList ('\x7b' :: (body ++ ['\x7d']))).toList =
      ('\x7b' :: body) ++ ['\x7d'] := hstart
  apply payload_data hstart hback (by decide) (by decide)
  -- no sentinel begins with a brace
  have hnot : ∀ t ∈ sentinels, t.toList.head? ≠ some '\x7b' := by decide
  intro h
  exact hnot _ h (by rw [hstart]; rfl)

/-- A line that carries a canonical object is read as that object. -/
theorem consumeLine_object (scanner : SseUsageScanner) {fields : List (String × Value)}
    (h : JsonText.Canonical (JsonText.object fields)) :
    scanner.consumeLine
        ("data: " ++ String.ofList (JsonText.stringify (JsonText.object fields))) =
      ({ scanner with sawAnyFrame := true } : SseUsageScanner).takeFrame
        (Json.ofValue (JsonText.object fields)) := by
  have hparse : Json.parse (String.ofList (JsonText.stringify (JsonText.object fields))) =
      some (Json.ofValue (JsonText.object fields)) := by
    rw [Json.parse, String.toList_ofList, JsonText.parse_stringify h]
    rfl
  unfold consumeLine
  rw [payload_object]
  dsimp only
  rw [hparse]

/-- Whole lines, whatever they hold. -/
def Lines (text : String) : Prop :=
  ∃ lines, (∀ line ∈ lines, '\n' ∉ line.toList) ∧ text = textOf lines

/-- No line. -/
theorem lines_empty : Lines "" := by
  refine ⟨[], ?_, rfl⟩
  intro line h
  cases h

/-- Lines of one kind, with more of that kind behind them. -/
theorem lines_append {P : String → Prop} {text more : String}
    (h : ∃ lines, (∀ line ∈ lines, P line) ∧ text = textOf lines)
    (h' : ∃ lines, (∀ line ∈ lines, P line) ∧ more = textOf lines) :
    ∃ lines, (∀ line ∈ lines, P line) ∧ text ++ more = textOf lines := by
  obtain ⟨lines, hlines, rfl⟩ := h
  obtain ⟨lines', hlines', rfl⟩ := h'
  refine ⟨lines ++ lines', ?_, (textOf_append _ _).symm⟩
  intro line hline
  cases List.mem_append.mp hline with
  | inl h => exact hlines line h
  | inr h => exact hlines' line h

/-- Whole lines behind whole lines. -/
theorem Lines.append {text more : String} (h : Lines text) (h' : Lines more) :
    Lines (text ++ more) := lines_append h h'

section Whole

variable {scanner : SseUsageScanner} {text : String}

/-- After whole lines nothing is left in the buffer. -/
theorem push_buffer (h : scanner.buffer = "") (htext : Lines text) :
    (scanner.push text).buffer = "" := by
  obtain ⟨lines, hlines, rfl⟩ := htext
  rw [push_lines h hlines, foldl_consumeLine]
  exact h

end Whole

end SseUsageScanner

open SseUsageScanner AnthropicSse

/-! ## The frames of the stream -/

/-- A frame is a data line and a blank one. -/
theorem encodeFrame_eq (payload : FramePayload) :
    encodeFrame payload = textOf ["data: " ++ payload.data, ""] := by
  apply String.toList_inj.mp
  simp [encodeFrame, textOf]

/-- What is written as JSON has no line break in it. -/
theorem newline_not_mem_json (value : Value) :
    '\n' ∉ (FramePayload.json value).data.toList := by
  intro h
  rw [FramePayload.data, String.toList_ofList] at h
  have hlow : 0x20 ≤ ('\n' : Char).toNat := JsonText.printable_stringify value _ h
  exact absurd hlow (by decide)

/-- Neither of which is cut by its payload. -/
theorem newline_not_mem_frame {payload : FramePayload} (h : '\n' ∉ payload.data.toList) :
    ∀ line ∈ ["data: " ++ payload.data, ""], '\n' ∉ line.toList := by
  intro line hline
  rw [List.mem_cons, List.mem_singleton] at hline
  obtain rfl | rfl := hline
  · rw [toList_data]
    simp [h]
  · decide

/-- So a frame is whole lines. -/
theorem lines_frame {payload : FramePayload} (h : '\n' ∉ payload.data.toList) :
    Lines (encodeFrame payload) :=
  ⟨_, newline_not_mem_frame h, encodeFrame_eq payload⟩

/-- And a JSON payload never cuts its line. -/
theorem lines_json (value : Value) : Lines (encodeFrame (.json value)) :=
  lines_frame (newline_not_mem_json value)

namespace SseUsageScanner

variable {scanner : SseUsageScanner}

/-- A line without a payload is skipped. -/
theorem consumeLine_of_payload {line : String} (h : payload line = none) :
    scanner.consumeLine line = scanner := by
  unfold consumeLine
  rw [h]

/-- A blank line has no payload. -/
theorem payload_blank : payload "" = none := by decide +kernel

/-- A frame is consumed as its first line: the second is blank. -/
theorem push_encodeFrame (h : scanner.buffer = "") {payload : FramePayload}
    (hpayload : '\n' ∉ payload.data.toList) :
    scanner.push (encodeFrame payload) = scanner.consumeLine ("data: " ++ payload.data) := by
  rw [encodeFrame_eq, push_lines h (newline_not_mem_frame hpayload)]
  rw [List.foldl_cons, List.foldl_cons, List.foldl_nil, consumeLine_of_payload payload_blank]

/-- A written frame is read back. -/
theorem push_frame (h : scanner.buffer = "") {fields : List (String × Value)}
    (hcanonical : JsonText.Canonical (JsonText.object fields)) :
    scanner.push (encodeFrame (.json (JsonText.object fields))) =
      ({ scanner with sawAnyFrame := true } : SseUsageScanner).takeFrame
        (Json.ofValue (JsonText.object fields)) := by
  rw [push_encodeFrame h (newline_not_mem_json _)]
  exact consumeLine_object scanner hcanonical

/-- The usage that is kept after a frame. -/
theorem takeFrame_lastUsage (fields : List (String × Value))
    (hresponse : fields.lookup "response" = none) :
    (scanner.takeFrame (Json.ofValue (JsonText.object fields))).lastUsage =
      match (fields.lookup "usage").map Json.ofValue with
      | none | some .null => scanner.lastUsage
      | some usage => usage := by
  -- without a response the usage is the frame's own
  have husage : frameUsage (Json.ofValue (JsonText.object fields)) =
      Json.orElse ((fields.lookup "usage").map Json.ofValue) none := by
    rw [frameUsage, Json.field_ofValue_object, Json.field_ofValue_object, hresponse]
    rfl
  have hobject : (Json.ofValue (JsonText.object fields)).isObject = true := by
    rw [Json.ofValue_object]
    rfl
  unfold takeFrame
  rw [if_pos hobject, husage]
  cases (fields.lookup "usage").map Json.ofValue with
  | none => rfl
  | some usage => cases usage <;> rfl

/-- A frame's usage is the last one then. -/
theorem takeFrame_lastUsage_of_usage {fields : List (String × Value)} {value : Value}
    (hresponse : fields.lookup "response" = none) (husage : fields.lookup "usage" = some value)
    (hvalue : Json.ofValue value ≠ .null) :
    (scanner.takeFrame (Json.ofValue (JsonText.object fields))).lastUsage = Json.ofValue value := by
  rw [takeFrame_lastUsage fields hresponse, husage, Option.map_some]
  split
  next h => cases h
  next h => exact absurd (Option.some.inj h) hvalue
  next h => exact (Option.some.inj h).symm

end SseUsageScanner

/-! ## The stream -/

/-- A piece of whole lines that says nothing about usage. -/
def Idle (text : String) : Prop :=
  Lines text ∧ ∀ scanner : SseUsageScanner, scanner.buffer = "" →
    (scanner.push text).lastUsage = scanner.lastUsage

/-- A keepalive is skipped. -/
theorem idle_keepalive : Idle KEEPALIVE := by
  have hlines : ∀ line ∈ [": prism-keepalive", ""], '\n' ∉ line.toList := by decide
  have htext : KEEPALIVE = textOf [": prism-keepalive", ""] := by
    apply String.toList_inj.mp
    rw [textOf, String.toList_ofList]
    rfl
  refine ⟨⟨_, hlines, htext⟩, ?_⟩
  intro scanner h
  -- a comment has no payload
  have hcomment : payload ": prism-keepalive" = none := by decide +kernel
  rw [htext, push_lines h hlines, List.foldl_cons, List.foldl_cons, List.foldl_nil,
    consumeLine_of_payload hcomment, consumeLine_of_payload payload_blank]

/-- `[DONE]` counts nothing. -/
theorem idle_done : Idle (encodeFrame (.literal "[DONE]")) := by
  have hdata : '\n' ∉ (FramePayload.literal "[DONE]").data.toList := by decide
  refine ⟨lines_frame hdata, ?_⟩
  intro scanner h
  have hsentinel : payload ("data: " ++ "[DONE]") = none := by decide +kernel
  rw [push_encodeFrame h hdata, FramePayload.data, consumeLine_of_payload hsentinel]

namespace AnthropicToOpenAIState

variable (state : AnthropicToOpenAIState)

/-- A chunk is canonical where its fields are. -/
theorem canonical_chunk {choices : List Value} (more : List (String × Value))
    (hchoices : ∀ choice ∈ choices, JsonText.Canonical choice)
    (hnames : (["id", "object", "created", "model", "choices"] ++ more.map Prod.fst).Nodup)
    (hmore : ∀ f ∈ more, JsonText.Canonical f.2) :
    JsonText.Canonical (JsonText.object ([("id", .str state.id),
      ("object", JsonText.text "chat.completion.chunk"), ("created", .num state.created),
      ("model", .str state.model), ("choices", .arr choices)] ++ more)) := by
  apply JsonText.canonical_object
  · rw [List.map_append]
    exact hnames
  · intro f hf
    cases List.mem_append.mp hf with
    | inl hf =>
      simp only [List.mem_cons, List.not_mem_nil, or_false] at hf
      -- of the five fields of a chunk only the choices can fail to be canonical
      obtain rfl | rfl | rfl | rfl | rfl := hf
      · trivial
      · trivial
      · exact Rat.den_intCast _
      · trivial
      · exact JsonText.canonicalItems_of_forall hchoices
    | inr hf => exact hmore f hf

/-- A chunk without a `usage` field is idle. -/
theorem idle_chunk {choices : List Value} (h : ∀ choice ∈ choices, JsonText.Canonical choice) :
    Idle (encodeFrame (state.chunk choices [])) := by
  refine ⟨lines_json _, ?_⟩
  intro scanner hbuffer
  have hcanonical := state.canonical_chunk [] h (by decide) (fun f hf => by cases hf)
  rw [chunk, push_frame hbuffer hcanonical, takeFrame_lastUsage _ rfl]
  rfl

/-- So is a choice. -/
theorem canonical_choice {delta : List (String × Value)} {finishReason : Value}
    (hnames : (delta.map Prod.fst).Nodup) (hdelta : ∀ f ∈ delta, JsonText.Canonical f.2)
    (hreason : JsonText.Canonical finishReason) :
    ∀ c ∈ [choice delta finishReason], JsonText.Canonical c := by
  intro c hc
  rw [List.mem_singleton.mp hc]
  apply JsonText.canonical_object
  · show (["index", "delta", "finish_reason"] : List String).Nodup
    decide
  · intro f hf
    simp only [List.mem_cons, List.not_mem_nil, or_false] at hf
    -- a number, the delta, and the reason
    obtain rfl | rfl | rfl := hf
    · rfl
    · exact JsonText.canonical_object hnames hdelta
    · exact hreason

/-- So are the counts. -/
theorem canonical_usage : JsonText.Canonical state.usage := by
  apply JsonText.canonical_object
  · show (["prompt_tokens", "completion_tokens", "total_tokens"] : List String).Nodup
    decide
  · intro f hf
    simp only [List.mem_cons, List.not_mem_nil, or_false] at hf
    obtain rfl | rfl | rfl := hf <;> exact Rat.den_intCast _

/-- The opening chunk counts nothing that is charged. -/
theorem idle_openChunk : Idle state.openChunk.2 := by
  apply state.idle_chunk
  apply canonical_choice
  · decide
  · intro f hf
    simp only [List.mem_cons, List.not_mem_nil, or_false] at hf
    obtain rfl | rfl := hf <;> trivial
  · trivial

/-- Nor does a chunk of text. -/
theorem idle_textChunk (text : JsStr) : Idle (state.textChunk text) := by
  apply state.idle_chunk
  apply canonical_choice
  · exact List.nodup_singleton _
  · intro f hf
    rw [List.mem_singleton.mp hf]
    trivial
  · trivial

/-- Nor the finish. -/
theorem idle_finish : Idle (encodeFrame (state.chunk [choice [] (JsonText.text "stop")] [])) := by
  apply state.idle_chunk
  apply canonical_choice
  · decide
  · intro f hf
    cases hf
  · trivial

/-- The trailing frame leaves its counts with the scanner. -/
theorem push_usageFrame {scanner : SseUsageScanner} (h : scanner.buffer = "") :
    (scanner.push (encodeFrame (state.chunk [] [("usage", state.usage)]))).lastUsage =
      Json.ofValue state.usage := by
  have hnone : ∀ c ∈ ([] : List Value), JsonText.Canonical c := by
    intro c hc
    cases hc
  have hcanonical := state.canonical_chunk [("usage", state.usage)] hnone
    (show (["id", "object", "created", "model", "choices", "usage"] : List String).Nodup by decide)
    (fun f hf => by rw [List.mem_singleton.mp hf]; exact state.canonical_usage)
  rw [chunk, push_frame h hcanonical]
  apply takeFrame_lastUsage_of_usage rfl rfl
  rw [usage, Json.ofValue_object]
  exact Json.noConfusion

/-- The end of a stream is whole lines. -/
theorem lines_finishAndUsage : Lines state.finishAndUsage.2 := by
  unfold finishAndUsage
  apply Lines.append _ idle_done.1
  apply Lines.append state.idle_finish.1
  split
  · exact lines_json _
  · exact lines_empty

/-- What the last piece of the stream leaves with the scanner. -/
theorem push_finishAndUsage {scanner : SseUsageScanner} (h : scanner.buffer = "") :
    (scanner.push state.finishAndUsage.2).lastUsage =
      if state.inputTokens.isSome ∨ state.outputTokens.isSome then Json.ofValue state.usage
      else scanner.lastUsage := by
  obtain ⟨hfinish, hkeep⟩ := state.idle_finish
  obtain ⟨hdone, hlast⟩ := idle_done
  have hbuffer := push_buffer h hfinish
  unfold finishAndUsage
  dsimp only
  split
  next =>
    -- the usage comes between the finish and the marker
    have husage : Lines (encodeFrame (state.chunk [] [("usage", state.usage)])) := lines_json _
    rw [push_append, push_append, hlast _ (push_buffer hbuffer husage),
      state.push_usageFrame hbuffer]
  next =>
    rw [push_append, push_append, push_empty hbuffer, hlast _ hbuffer, hkeep scanner h]

end AnthropicToOpenAIState

/-- Idle pieces change neither the buffer nor the usage. -/
theorem foldl_push_idle {scanner : SseUsageScanner} (h : scanner.buffer = "") {pieces : List String}
    (hpieces : ∀ piece ∈ pieces, Idle piece) :
    (pieces.foldl push scanner).buffer = "" ∧
      (pieces.foldl push scanner).lastUsage = scanner.lastUsage := by
  induction pieces generalizing scanner with
  | nil => exact ⟨h, rfl⟩
  | cons piece pieces ih =>
    obtain ⟨hlines, hkeep⟩ := hpieces piece List.mem_cons_self
    obtain ⟨hbuffer, hlast⟩ := ih (push_buffer h hlines)
      (fun q hq => hpieces q (List.mem_cons_of_mem piece hq))
    exact ⟨hbuffer, hlast.trans (hkeep scanner h)⟩

/-- The state the last piece of the stream is written from. -/
def AnthropicToOpenAIState.resolved (state : AnthropicToOpenAIState)
    (result : DeferredCompletionResult) : AnthropicToOpenAIState :=
  { state.openChunk.1 with
    inputTokens := result.promptTokens <|> state.openChunk.1.inputTokens
    outputTokens := result.completionTokens <|> state.openChunk.1.outputTokens }

/-- Everything before the last piece is idle, so the scanner ends with what that piece says. -/
theorem scanned_deferred (state : AnthropicToOpenAIState) (keepalives : Nat)
    (result : DeferredCompletionResult) :
    let scanner := (openAIStreamFromDeferredCompletion state keepalives (.ok result)).foldl push .new
    scanner.buffer = "" ∧ scanner.lastUsage =
      if (state.resolved result).inputTokens.isSome ∨ (state.resolved result).outputTokens.isSome then
        Json.ofValue (state.resolved result).usage else .null := by
  -- the opening chunk, the keepalives and the text carry no usage
  have hidle : ∀ piece ∈ state.openChunk.2 :: List.replicate keepalives KEEPALIVE ++
      (textSlices result.text).map (state.resolved result).textChunk, Idle piece := by
    intro piece hpiece
    cases List.mem_append.mp hpiece with
    | inl hpiece =>
      cases List.mem_cons.mp hpiece with
      | inl h => exact h ▸ state.idle_openChunk
      | inr h => exact List.eq_of_mem_replicate h ▸ idle_keepalive
    | inr hpiece =>
      obtain ⟨slice, -, rfl⟩ := List.mem_map.mp hpiece
      exact (state.resolved result).idle_textChunk slice
  have hpieces : openAIStreamFromDeferredCompletion state keepalives (.ok result) =
      (state.openChunk.2 :: List.replicate keepalives KEEPALIVE ++
        (textSlices result.text).map (state.resolved result).textChunk) ++
        [(state.resolved result).finishAndUsage.2] := by
    rw [List.append_assoc]
    rfl
  have hstart : SseUsageScanner.new.buffer = "" := rfl
  obtain ⟨hbuffer, hlast⟩ := foldl_push_idle hstart hidle
  have hfinish : Lines (state.resolved result).finishAndUsage.2 :=
    (state.resolved result).lines_finishAndUsage
  dsimp only
  rw [hpieces, List.foldl_append, List.foldl_cons, List.foldl_nil]
  refine ⟨push_buffer hbuffer hfinish, ?_⟩
  rw [(state.resolved result).push_finishAndUsage hbuffer, hlast]
  rfl

/-! ## The charge -/

/-- An integer is read as one. -/
theorem Json.integer_num (n : Int) : Json.integer (some (.num (n : Rat))) = some n := by
  unfold Json.integer
  dsimp only
  rw [if_pos (Rat.den_intCast n), Rat.num_intCast]

/-- The counts of the trailing frame are the counts it was written from. -/
theorem extractUsage_usage {state : AnthropicToOpenAIState} {usage : TokenUsage}
    (hin : state.inputTokens = some usage.inputTokens)
    (hout : state.outputTokens = some usage.outputTokens)
    (h : 0 ≤ usage.inputTokens ∧ 0 ≤ usage.outputTokens) :
    extractUsage (.obj [("usage", Json.ofValue state.usage)]) = some usage := by
  have hfields : Json.ofValue state.usage = .obj [("prompt_tokens", .num (usage.inputTokens : Rat)),
      ("completion_tokens", .num (usage.outputTokens : Rat)),
      ("total_tokens", .num ((usage.inputTokens + usage.outputTokens : Int) : Rat))] := by
    rw [AnthropicToOpenAIState.usage, Json.ofValue_object, hin, hout]
    rfl
  -- both counts are whole and not negative
  have hcounts : usageCounts (Json.ofValue state.usage) = some usage := by
    rw [hfields]
    show (tokenCounts (some (.num (usage.inputTokens : Rat)))
      (some (.num (usage.outputTokens : Rat)))).map _ = _
    unfold tokenCounts
    rw [Json.integer_num, Json.integer_num]
    dsimp only
    rw [if_pos h]
    rfl
  show (some (Json.ofValue state.usage)).bind usageCounts = _
  rw [Option.bind_some, hcounts]

/-- What an outcome charges. -/
def MeterOutcome.charge : MeterOutcome → Option (Int × TokenUsage)
  | .metered microUsd usage => some (microUsd, usage)
  | .unmetered _ => none

/-- What the relay of a buffered answer settles with: the counts it was written from,
    or nothing when there were none. -/
theorem settlement_buffered (id model : JsStr) (created : Int) (keepalives : Nat)
    (bindingModel : String) (thrown : JsStr) {body : Json} {text : String}
    (htext : extractText body = .ok (some text)) :
    ∃ settlement : StreamSettlement,
      meteredRelay ((bufferedNativeStream (newAnthropicToOpenAIState id model created) keepalives
        bindingModel thrown body).map .chunk ++ [.done]) = [settlement] ∧
      settlement.termination = .complete ∧
      match extractUsage body with
      | some usage => settlement.usage ≠ .null ∧
          extractUsage (.obj [("usage", settlement.usage)]) = some usage
      | none => settlement.usage = .null := by
  have hresult : deferredCompletion bindingModel thrown body = .ok ⟨Utf16.encode text,
      (extractUsage body).map (·.inputTokens), (extractUsage body).map (·.outputTokens)⟩ := by
    rw [deferredCompletion, htext]
  rw [bufferedNativeStream, hresult]
  generalize hdeferred : DeferredCompletionResult.mk _ _ _ = result
  obtain ⟨hbuffer, hlast⟩ := scanned_deferred (newAnthropicToOpenAIState id model created)
    keepalives result
  refine ⟨_, meteredRelay_chunks _ rfl [], rfl, ?_⟩
  rw [SseUsageScanner.settlement_usage hbuffer, hlast]
  cases husage : extractUsage body with
  | none =>
    rw [husage] at hdeferred
    rw [← hdeferred]
    rfl
  | some usage =>
    -- the scanner's last usage is the frame the stream closed with
    have hin : ((newAnthropicToOpenAIState id model created).resolved result).inputTokens =
        some usage.inputTokens := by
      rw [← hdeferred, husage]
      rfl
    have hout : ((newAnthropicToOpenAIState id model created).resolved result).outputTokens =
        some usage.outputTokens := by
      rw [← hdeferred, husage]
      rfl
    rw [if_pos (Or.inl (by rw [hin]; rfl))]
    constructor
    · rw [AnthropicToOpenAIState.usage, Json.ofValue_object]
      exact Json.noConfusion
    · exact extractUsage_usage hin hout (extractUsage_nonneg husage)

/-- Two rows of one charge: they differ in where the call was logged, and in the
    reason of a gap. -/
def UsageEvent.SameCharge (streamed answered : UsageEvent) : Prop :=
  streamed = { answered with
    unmeteredReason := streamed.unmeteredReason
    gatewayLogId := streamed.gatewayLogId }

namespace ChatCall

variable (call : ChatCall)

/-- A charge does not depend on the log id. -/
theorem sameCharge_metered (microUsd : Int) (usage : TokenUsage) (basis : PriceBasis)
    (log log' : Option String) (periodNow : Option PeriodRow) : UsageEvent.SameCharge
      (call.buildEvent (call.meteredEvent microUsd usage basis log) periodNow)
      (call.buildEvent (call.meteredEvent microUsd usage basis log') periodNow) := by
  rw [buildEvent_meteredEvent, buildEvent_meteredEvent]
  split <;> rfl

/-- Nor does a row without one, or its reason. -/
theorem sameCharge_unmetered (reason reason' : String) (upstreamStatus : Option Int)
    (log log' : Option String) (periodNow : Option PeriodRow) : UsageEvent.SameCharge
      (call.buildEvent (call.unmeteredEvent reason upstreamStatus log) periodNow)
      (call.buildEvent (call.unmeteredEvent reason' upstreamStatus log') periodNow) := by
  rw [buildEvent_unmeteredEvent, buildEvent_unmeteredEvent]
  rfl

end ChatCall

/-- Serving an answer with text in it through the buffered stream, read to its end,
    records what serving it in one piece records: outcome, counts, charge and split. -/
theorem buffered_stream_same_charge (call : ChatCall) (id model : JsStr) (created : Int)
    (keepalives : Nat) (bindingModel : String) (thrown : JsStr) (body : Json) (text : String)
    (htext : extractText body = .ok (some text)) (gatewayLogId : Option String)
    (periodNow : Option PeriodRow) :
    let events := (bufferedNativeStream (newAnthropicToOpenAIState id model created) keepalives
      bindingModel thrown body).map StreamEvent.chunk ++ [.done]
    ∃ settlement streamed answered,
      meteredRelay events = [settlement] ∧
      (meterUsageObject settlement.usage call.price).charge =
        (meterResponse body call.price).charge ∧
      (call.serve (.stream none) events periodNow).1 = [streamed] ∧
      (call.serve (.ok body gatewayLogId) [] periodNow).1 = [answered] ∧
      streamed.SameCharge answered := by
  obtain ⟨settlement, hrelay, hcomplete, hsettled⟩ :=
    settlement_buffered id model created keepalives bindingModel thrown htext
  have hrows : (meterUsageObject settlement.usage call.price).charge =
      (meterResponse body call.price).charge ∧
      UsageEvent.SameCharge (call.buildEvent (call.streamEvent settlement none) periodNow)
        (call.buildEvent (call.answerEvent body gatewayLogId) periodNow) := by
    cases husage : extractUsage body with
    | none =>
      -- no counts: the stream carries no usage frame, and both ways leave a gap
      rw [husage] at hsettled
      have hmeter : ∃ reason, meterResponse body call.price = .unmetered reason := by
        rw [meterResponse, husage]
        exact ⟨_, rfl⟩
      obtain ⟨reason, hmeter⟩ := hmeter
      constructor
      · rw [hmeter, hsettled]
        rfl
      · rw [call.streamEvent_of_null hsettled (by rw [hcomplete]; decide), ChatCall.answerEvent,
          hmeter]
        exact call.sameCharge_unmetered _ _ _ _ _ _
    -- counts are there on both ways, and meter alike
    | some usage =>
      rw [husage] at hsettled
      obtain ⟨hnull, hcounts⟩ := hsettled
      have hmeter : meterUsageObject settlement.usage call.price = meterResponse body call.price := by
        rw [meterUsageObject, meterResponse, meterResponse, hcounts, husage]
      constructor
      · rw [hmeter]
      · rw [call.streamEvent_of_usage hnull, hmeter, ChatCall.answerEvent]
        cases meterResponse body call.price with
        | metered microUsd usage => exact call.sameCharge_metered _ _ _ _ _ _
        | unmetered reason => exact call.sameCharge_unmetered _ _ _ _ _ _
  refine ⟨settlement, _, _, hrelay, hrows.1, ?_, ?_, hrows.2⟩
  · simp only [ChatCall.serve, hrelay, List.map_cons, List.map_nil]
  · simp only [ChatCall.serve, htext]

/-- An answer of 9 and 4 tokens over two text frames, one keepalive into the wait. -/
theorem buffered_stream_nine_four :
    let body := Json.obj [("content", .arr [.obj [("type", .str "text"),
        ("text", .str "The quick brown fox jumps over the lazy dog, then naps.")]]),
      ("usage", .obj [("input_tokens", .num 9), ("output_tokens", .num 4)])]
    let events := (bufferedNativeStream (newAnthropicToOpenAIState (Utf16.encode "chatcmpl-1")
      (Utf16.encode "anthropic/claude-fable-5") 1790000000) 1 "anthropic/claude-fable-5" [] body).map
      StreamEvent.chunk ++ [.done]
    ∃ settlement streamed answered,
      meteredRelay events = [settlement] ∧
      (meterUsageObject settlement.usage smallCall.price).charge =
        (meterResponse body smallCall.price).charge ∧
      (smallCall.serve (.stream none) events none).1 = [streamed] ∧
      (smallCall.serve (.ok body (some "log-1")) [] none).1 = [answered] ∧
      streamed.SameCharge answered := by
  intro body
  have htext : extractText body =
      .ok (some "The quick brown fox jumps over the lazy dog, then naps.") := by rfl
  exact buffered_stream_same_charge smallCall _ _ _ 1 _ [] body _ htext (some "log-1") none

end ControlPlane
