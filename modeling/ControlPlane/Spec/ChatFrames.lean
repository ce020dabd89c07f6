import ControlPlane.Model.AnthropicTransform
import ControlPlane.Spec.DeferredStreamEnd

/-!
# The frames of a chat stream

What a client of the chat-completions stream takes from its `data:` lines: pieces of
content, the finish, the counts, the end. `Framed` says this of a written piece of whole
lines, together with what the usage scanner reports of it, so that the client and the
meter are read off the same list of frames.

## Key results

- `Framed.append`: the frames of two pieces are those of the first, then of the second
- `Framed.report`: what the scanner reports of a piece, from its frames
- `Wrote.read`: what a client and the scanner read of the bytes of a piece
- `framed_openChunk`, `framed_textChunk`, `framed_finishAndUsage`: the pieces the plane writes
-/

namespace ControlPlane

open JsonText (JsStr Value)
open SseUsageScanner AnthropicSse

/-! ## The client -/

/-- A frame, as a client takes it. -/
inductive ChatFrame where
  | content (text : JsStr)
  | finish
  | usage (counts : Value)
  /-- `[DONE]` -/
  | done

namespace ChatFrame

/-- The text a frame adds, where it adds any. -/
def content? : ChatFrame → Option JsStr
  | .content text => some text
  | _ => none

/-- The counts a frame reports, where it reports any. -/
def usage? : ChatFrame → Option Value
  | .usage counts => some counts
  | _ => none

/-- Whether a frame is the closing marker. -/
def isDone : ChatFrame → Bool
  | .done => true
  | _ => false

/-- A parsed chunk: what finishes a choice, what has counts, and the content of the others. -/
def ofChunk (chunk : Value) : Option ChatFrame :=
  if finishes chunk then some .finish
  else
    match chunk.field "usage" with
    | some counts => some (.usage counts)
    | none => (frameContents chunk).head?.map .content

/-- What a client makes of a data line: the marker, or a chunk. -/
def ofData (data : String) : Option ChatFrame :=
  if data = "[DONE]" then some .done else (JsonText.parse data.toList).bind ofChunk

end ChatFrame

/-- No chunk is the marker. -/
theorem ChatFrame.isDone_of_ofChunk {chunk : Value} {frame : ChatFrame}
    (h : ofChunk chunk = some frame) : frame.isDone = false := by
  unfold ofChunk at h
  split at h
  next => cases h; rfl
  next =>
    split at h
    next => cases h; rfl
    next =>
      obtain ⟨text, -, rfl⟩ := Option.map_eq_some_iff.mp h
      rfl

/-- The frames of a line. -/
def lineFrames (line : String) : List ChatFrame := (lineData line).filterMap ChatFrame.ofData

/-- The frames a client takes from a text. -/
def chatFrames (text : String) : List ChatFrame := (linesOf text).flatMap lineFrames

/-! ## Written pieces -/

/-- A piece of whole lines: the frames a client takes from it, and that the scanner sees the
    same content, counts and number of payloads. -/
structure Framed (text : String) (told : List ChatFrame) : Prop where
  counted : CountedLines text
  /-- It does not begin with a byte order mark. -/
  head : ∀ c ∈ text.toList.head?, c.toNat ≠ 0xFEFF
  frames : chatFrames text = told
  contents : contentDeltas text = told.filterMap ChatFrame.content?
  usages : (linesOf text).flatMap (fun line => usages [line]) =
    (told.filterMap ChatFrame.usage?).map Json.ofValue
  payloads : ((linesOf text).flatMap fun line => payloads [line]).length =
    (told.filter fun frame => !frame.isDone).length

/-- A blank line holds no frame. -/
theorem lineFrames_blank : lineFrames "" = [] := by
  rw [lineFrames, lineData_blank]
  rfl

/-- Nor a payload. -/
theorem payloads_blank : payloads [""] = [] := by
  rw [payloads, List.filterMap_cons, payload_blank]
  rfl

/-- Lines without payloads hold no frame. -/
theorem frames_of_payloads {lines : List String} (h : payloads lines = []) : frames lines = [] := by
  rw [SseUsageScanner.frames, h]
  rfl

/-- Nor any counts. -/
theorem usages_of_payloads {lines : List String} (h : payloads lines = []) : usages lines = [] := by
  rw [SseUsageScanner.usages, frames_of_payloads h]
  rfl

namespace Framed

variable {text more : String} {told told' : List ChatFrame}

/-- The empty text tells nothing. -/
theorem empty : Framed "" [] where
  counted := countedLines_empty
  head := by
    show ∀ c ∈ (none : Option Char), c.toNat ≠ 0xFEFF
    intro c hc
    cases hc
  frames := by
    have hblank : linesOf "" = [""] := linesOf_of_not_mem (by decide)
    rw [chatFrames, hblank, List.flatMap_singleton, lineFrames_blank]
  contents := by
    have hblank : linesOf "" = [""] := linesOf_of_not_mem (by decide)
    rw [contentDeltas, hblank, List.flatMap_singleton, lineContents_blank]
    rfl
  usages := by
    have hblank : linesOf "" = [""] := linesOf_of_not_mem (by decide)
    rw [hblank, List.flatMap_singleton, usages_of_payloads payloads_blank]
    rfl
  payloads := by
    have hblank : linesOf "" = [""] := linesOf_of_not_mem (by decide)
    rw [hblank, List.flatMap_singleton, payloads_blank]
    rfl

/-- A text after a text tells what the two tell. -/
theorem append (h : Framed text told) (h' : Framed more told') :
    Framed (text ++ more) (told ++ told') where
  counted := h.counted.append h'.counted
  -- the first character is the first text's, or the second's where that is empty
  head := by
    intro c hc
    rw [String.toList_append, List.head?_append] at hc
    cases hfirst : text.toList.head? with
    | none => exact h'.head c (by simpa [hfirst] using hc)
    | some d => exact h.head c (by simpa [hfirst] using hc)
  frames := by
    rw [chatFrames, flatMap_linesOf_append lineFrames_blank h.counted.lines h'.counted.lines]
    exact congrArg₂ (· ++ ·) h.frames h'.frames
  contents := by
    rw [contentDeltas_append h.counted.lines h'.counted.lines, h.contents, h'.contents,
      List.filterMap_append]
  usages := by
    rw [flatMap_linesOf_append (usages_of_payloads payloads_blank) h.counted.lines
      h'.counted.lines, h.usages, h'.usages, List.filterMap_append, List.map_append]
  payloads := by
    rw [flatMap_linesOf_append payloads_blank h.counted.lines h'.counted.lines,
      List.length_append, h.payloads, h'.payloads, List.filter_append, List.length_append]

/-- Lines of comments and blanks. -/
theorem of_silent {lines : List String}
    (h : ∀ line ∈ lines, '\n' ∉ line.toList ∧ payload line = none ∧ lineFrames line = [])
    (hhead : ∀ c ∈ (textOf lines).toList.head?, c.toNat ≠ 0xFEFF) : Framed (textOf lines) [] := by
  have hopen : ∀ line ∈ lines, '\n' ∉ line.toList := fun line hline => (h line hline).1
  obtain ⟨hcounted, hcontents⟩ :=
    countedLines_of_payload fun line hline => ⟨(h line hline).1, (h line hline).2.1⟩
  -- no line is a payload, so none of the readings finds anything
  have hpayloads : ∀ line ∈ lines, SseUsageScanner.payloads [line] = [] := by
    intro line hline
    rw [SseUsageScanner.payloads, List.filterMap_cons, (h line hline).2.1]
    rfl
  constructor
  · exact hcounted
  · exact hhead
  · rw [chatFrames, flatMap_linesOf_textOf lineFrames_blank hopen, List.flatMap_eq_nil_iff]
    exact fun line hline => (h line hline).2.2
  · exact hcontents
  · rw [flatMap_linesOf_textOf (usages_of_payloads payloads_blank) hopen, List.filterMap_nil,
      List.map_nil, List.flatMap_eq_nil_iff]
    exact fun line hline => usages_of_payloads (hpayloads line hline)
  · rw [flatMap_linesOf_textOf payloads_blank hopen,
      List.flatMap_eq_nil_iff.mpr hpayloads]
    rfl

end Framed

/-! ## The pieces of the stream -/

/-- A text whose first character is no byte-order mark does not begin with one. -/
theorem head_of_eq {s : String} {first : Char} (hfirst : s.toList.head? = some first)
    (hmark : first.toNat ≠ 0xFEFF) : ∀ c ∈ s.toList.head?, c.toNat ≠ 0xFEFF := by
  intro c hc
  rw [hfirst, Option.mem_some_iff] at hc
  rw [← hc]
  exact hmark

/-- A keepalive tells nothing. -/
theorem framed_keepalive : Framed KEEPALIVE [] := by
  have htext : KEEPALIVE = textOf [": prism-keepalive", ""] := by
    apply String.toList_inj.mp
    rw [textOf, String.toList_ofList]
    rfl
  have hhead : ∀ c ∈ KEEPALIVE.toList.head?, c.toNat ≠ 0xFEFF := head_of_eq rfl (by decide)
  -- a comment line and a blank one: neither carries a frame, a count or a payload
  rw [htext] at hhead ⊢
  apply Framed.of_silent _ hhead
  intro line hline
  rw [List.mem_cons, List.mem_singleton] at hline
  obtain rfl | rfl := hline
  · exact ⟨by decide, by decide +kernel, rfl⟩
  · exact ⟨by decide, payload_blank, lineFrames_blank⟩

/-- A frame begins with its field name. -/
theorem head_encodeFrame (payload : FramePayload) :
    ∀ c ∈ (encodeFrame payload).toList.head?, c.toNat ≠ 0xFEFF := by
  have hhead : (encodeFrame payload).toList.head? = some 'd' := by
    rw [encodeFrame, String.append_assoc, String.toList_append]
    rfl
  exact head_of_eq hhead (by decide)

/-- The marker's frame tells the end. -/
theorem framed_done : Framed (encodeFrame (.literal "[DONE]")) [.done] := by
  obtain ⟨hcounted, hcontents⟩ := countedLines_done
  have hdata : '\n' ∉ (FramePayload.literal "[DONE]").data.toList := by decide
  have hopen := newline_not_mem_frame hdata
  -- the scanner passes over the marker, the client does not
  have hpayload : payloads ["data: " ++ (FramePayload.literal "[DONE]").data] = [] := by
    decide +kernel
  constructor
  · exact hcounted
  · exact head_encodeFrame _
  · rw [chatFrames, encodeFrame_eq, flatMap_linesOf_textOf lineFrames_blank hopen,
      List.flatMap_cons, List.flatMap_singleton, lineFrames_blank, lineFrames, lineData_data]
    rfl
  · exact hcontents
  · rw [encodeFrame_eq, flatMap_linesOf_textOf (usages_of_payloads payloads_blank) hopen,
      List.flatMap_cons, List.flatMap_singleton, usages_of_payloads hpayload,
      usages_of_payloads payloads_blank]
    rfl
  · rw [encodeFrame_eq, flatMap_linesOf_textOf payloads_blank hopen, List.flatMap_cons,
      List.flatMap_singleton, hpayload, payloads_blank]
    rfl

/-- A written object that a client takes as one frame, with the content and the counts the
    scanner finds in it. -/
theorem framed_object {fields : List (String × Value)} (frame : ChatFrame)
    (h : JsonText.Canonical (JsonText.object fields))
    (hcounted : CountedLines (encodeFrame (.json (JsonText.object fields))) ∧
      contentDeltas (encodeFrame (.json (JsonText.object fields))) = frame.content?.toList)
    (hframe : ChatFrame.ofChunk (JsonText.object fields) = some frame)
    (hresponse : fields.lookup "response" = none)
    (husage : fields.lookup "usage" = frame.usage?)
    (hcounts : ∀ counts, frame.usage? = some counts → (Json.ofValue counts).isNull = false) :
    Framed (encodeFrame (.json (JsonText.object fields))) [frame] := by
  have hopen := newline_not_mem_frame (newline_not_mem_json (JsonText.object fields))
  have hpayload := payload_object fields
  have hdata : (FramePayload.json (JsonText.object fields)).data =
      String.ofList (JsonText.stringify (JsonText.object fields)) := rfl
  -- the scanner reads `usage` where there is no `response`
  have hlineUsages : usages ["data: " ++ (FramePayload.json (JsonText.object fields)).data] =
      (frame.usage?.map Json.ofValue).toList := by
    have hread : frameUsage (Json.ofValue (JsonText.object fields)) =
        Json.orElse ((fields.lookup "usage").map Json.ofValue) none := by
      rw [frameUsage, Json.field_ofValue_object, Json.field_ofValue_object, hresponse]
      rfl
    rw [SseUsageScanner.usages, hdata, frames_object h, List.filterMap_cons, hread, husage]
    cases husage' : frame.usage? with
    | none => rfl
    | some counts =>
      have hnull := hcounts counts husage'
      rw [Option.map_some]
      -- counts that are null would be passed over
      cases hcounts' : Json.ofValue counts with
      | null => rw [hcounts'] at hnull; cases hnull
      | _ => rfl
  have hpayloads : payloads ["data: " ++ (FramePayload.json (JsonText.object fields)).data] =
      [String.ofList (JsonText.stringify (JsonText.object fields))] := by
    rw [SseUsageScanner.payloads, hdata, List.filterMap_cons, hpayload]
    rfl
  -- the client parses the same text back
  have hread : ChatFrame.ofData (FramePayload.json (JsonText.object fields)).data = some frame := by
    rw [ChatFrame.ofData, if_neg (isFinish_object h).2, hdata, String.toList_ofList,
      JsonText.parse_stringify h, Option.bind_some, hframe]
  constructor
  · exact hcounted.1
  · exact head_encodeFrame _
  · rw [chatFrames, encodeFrame_eq, flatMap_linesOf_textOf lineFrames_blank hopen,
      List.flatMap_cons, List.flatMap_singleton, lineFrames_blank, List.append_nil, lineFrames,
      lineData_data, List.filterMap_cons, hread]
    rfl
  · rw [hcounted.2]
    cases hcontent : frame.content? <;> simp [hcontent]
  · rw [encodeFrame_eq, flatMap_linesOf_textOf (usages_of_payloads payloads_blank) hopen,
      List.flatMap_cons, List.flatMap_singleton, hlineUsages, usages_of_payloads payloads_blank]
    cases hcounts' : frame.usage? <;> simp [hcounts']
  · rw [encodeFrame_eq, flatMap_linesOf_textOf payloads_blank hopen, List.flatMap_cons,
      List.flatMap_singleton, hpayloads, payloads_blank, List.filter_cons,
      ChatFrame.isDone_of_ofChunk hframe]
    rfl

namespace AnthropicToOpenAIState

variable (state : AnthropicToOpenAIState)

/-- A chunk is read by its choices first, then by its counts. -/
theorem ofChunk_chunk (choices : List Value) (more : List (String × Value)) :
    ChatFrame.ofChunk (JsonText.object ([("id", .str state.id),
      ("object", JsonText.text "chat.completion.chunk"), ("created", .num state.created),
      ("model", .str state.model), ("choices", .arr choices)] ++ more)) =
        if choices.any givesReason then some .finish
        else
          match more.lookup "usage" with
          | some counts => some (.usage counts)
          | none => (choices.filterMap choiceContent).head?.map .content := by
  rw [ChatFrame.ofChunk, state.finishes_chunk, frameContents, JsonText.field_object,
    JsonText.field_object]
  rfl

/-- A chunk that carries content. -/
theorem framed_contents (content : List (String × JsStr)) (h : (content.map Prod.fst).Nodup)
    {text : JsStr} (hdelta : deltaContent (content.map fun f => (f.1, .str f.2)) = some text)
    (hcounted : CountedLines (encodeFrame (state.chunk
        [choice (content.map fun f => (f.1, .str f.2)) .null] [])) ∧
      contentDeltas (encodeFrame (state.chunk
        [choice (content.map fun f => (f.1, .str f.2)) .null] [])) = [text]) :
    Framed (encodeFrame (state.chunk [choice (content.map fun f => (f.1, .str f.2)) .null] []))
      [.content text] := by
  have hcanonical := state.canonical_chunk [] (canonical_contents content h) (by decide)
    (fun f hf => by cases hf)
  -- the encoded chunk reads back as its own JSON, which carries the text and no usage
  apply framed_object (.content text) hcanonical hcounted
  · rw [state.ofChunk_chunk, List.any_cons, givesReason_null, List.filterMap_cons,
      choiceContent_choice, hdelta]
    rfl
  · rfl
  · rfl
  · intro counts hcounts
    cases hcounts

/-- The opening chunk adds the empty text. -/
theorem framed_openChunk : Framed state.openChunk.2 [.content []] :=
  state.framed_contents [("role", Utf16.encode "assistant"), ("content", [])] (by decide) rfl
    state.countedLines_openChunk

/-- A chunk of text adds its text. -/
theorem framed_textChunk (text : JsStr) : Framed (state.textChunk text) [.content text] :=
  state.framed_contents [("content", text)] (List.nodup_singleton _) rfl
    (state.countedLines_textChunk text)

/-- The finish frame tells the finish. -/
theorem framed_finish : Framed (encodeFrame state.finishFrame) [.finish] := by
  have hchoice : ∀ c ∈ [choice [] (JsonText.text "stop")], JsonText.Canonical c := by
    apply canonical_choice
    · decide
    · intro f hf
      cases hf
    · trivial
  have hcanonical := state.canonical_chunk [] hchoice (by decide) (fun f hf => by cases hf)
  apply framed_object .finish hcanonical state.countedLines_finish
  · rw [state.ofChunk_chunk, List.any_cons, givesReason_text]
    rfl
  · rfl
  · rfl
  · intro counts hcounts
    cases hcounts

/-- The frame of the counts, if there are any. -/
def usageFrames : List ChatFrame :=
  if state.inputTokens.isSome ∨ state.outputTokens.isSome then [.usage state.usage] else []

/-- The usage frame tells its counts. -/
theorem framed_usageFrame : Framed state.usageFrame state.usageFrames := by
  unfold usageFrame usageFrames
  split
  -- counts were reported: the frame has no choices, and the counts
  next =>
    have hnone : ∀ c ∈ ([] : List Value), JsonText.Canonical c := by
      intro c hc
      cases hc
    have hnames : (["id", "object", "created", "model", "choices"] ++
        [("usage", state.usage)].map Prod.fst).Nodup := by
      show (["id", "object", "created", "model", "choices", "usage"] : List String).Nodup
      decide
    have husage : ∀ f ∈ [("usage", state.usage)], JsonText.Canonical f.2 := by
      intro f hf
      rw [List.mem_singleton.mp hf]
      exact state.canonical_usage
    apply framed_object (.usage state.usage)
      (state.canonical_chunk [("usage", state.usage)] hnone hnames husage) state.countedLines_usage
    · rw [state.ofChunk_chunk]
      rfl
    · rfl
    · rfl
    · intro counts hcounts
      cases hcounts
      rw [usage, Json.ofValue_object]
      rfl
  next => exact .empty

/-- The last piece: the finish, the counts, the end. -/
theorem framed_finishAndUsage :
    Framed state.finishAndUsage.2 (.finish :: state.usageFrames ++ [.done]) := by
  rw [finishAndUsage_eq]
  exact (state.framed_finish.append state.framed_usageFrame).append framed_done

end AnthropicToOpenAIState

/-! ## What the scanner reports -/

/-- Payloads are found line by line. -/
theorem payloads_flatMap (lines : List String) :
    payloads lines = lines.flatMap fun line => payloads [line] := by
  induction lines with
  | nil => rfl
  | cons line lines ih =>
    rw [List.flatMap_cons, ← ih]
    exact List.filterMap_append (l := [line]) ..

/-- So are frames. -/
theorem frames_flatMap (lines : List String) :
    frames lines = lines.flatMap fun line => frames [line] := by
  rw [SseUsageScanner.frames, payloads_flatMap, List.filterMap_flatMap, List.filter_flatMap]
  rfl

/-- So are the counts. -/
theorem usages_flatMap (lines : List String) :
    usages lines = lines.flatMap fun line => usages [line] := by
  rw [SseUsageScanner.usages, frames_flatMap, List.filterMap_flatMap]
  rfl

/-- The bytes counted of whole lines are those of their content. -/
theorem sum_frameBytes {text : String} (h : CountedLines text) :
    ((frames (linesOf text)).map frameBytes).sum =
      ((contentDeltas text).map Utf16.utf8Length).sum := by
  obtain ⟨lines, hlines, rfl⟩ := h
  have hopen : ∀ line ∈ lines, '\n' ∉ line.toList := fun line hline => (hlines line hline).1
  have hblank : frames [""] = [] := frames_of_payloads payloads_blank
  rw [frames_flatMap, flatMap_linesOf_textOf hblank hopen, ← frames_flatMap, sum_lineBytes,
    contentDeltas_textOf hopen]
  clear hopen
  -- line by line: a line's frames have the bytes of its content deltas
  induction lines with
  | nil => rfl
  | cons line lines ih =>
    rw [List.map_cons, List.sum_cons, List.flatMap_cons, List.map_append, List.sum_append_nat,
      (hlines line List.mem_cons_self).2, ih fun l hl => hlines l (List.mem_cons_of_mem line hl)]

/-- The last counts, whether there was a chunk, and the bytes of the content. -/
def reportOfFrames (told : List ChatFrame) : StreamReport :=
  ⟨((told.filterMap ChatFrame.usage?).getLast?.map Json.ofValue).getD .null,
    told.any fun frame => !frame.isDone,
    ((told.filterMap ChatFrame.content?).map Utf16.utf8Length).sum⟩

/-- The scanner reports of a written piece what its frames say. -/
theorem Framed.report {text : String} {told : List ChatFrame} (h : Framed text told) :
    reportOf text = reportOfFrames told := by
  have husage : (SseUsageScanner.usages (linesOf text)).getLast?.getD .null =
      ((told.filterMap ChatFrame.usage?).getLast?.map Json.ofValue).getD .null := by
    rw [usages_flatMap, h.usages, List.getLast?_map]
  have hseen : (!(SseUsageScanner.payloads (linesOf text)).isEmpty) =
      told.any fun frame => !frame.isDone := by
    have hlength := h.payloads
    rw [← payloads_flatMap] at hlength
    -- there is a payload iff there is a chunk
    rw [Bool.eq_iff_iff, Bool.not_eq_true', List.isEmpty_eq_false_iff, ← List.length_pos_iff,
      hlength, List.length_pos_iff_exists_mem, List.any_eq_true]
    simp only [List.mem_filter]
  have hbytes := sum_frameBytes h.counted
  rw [h.contents] at hbytes
  exact congr (congrArg₂ StreamReport.mk husage hseen) hbytes

/-! ## Written bytes -/

/-- Bytes that are written text with these frames. -/
def Wrote (bytes : List UInt8) (told : List ChatFrame) : Prop :=
  ∃ text, bytes = TextEncoder.encode text ∧ Framed text told

namespace Wrote

variable {bytes more : List UInt8} {told told' : List ChatFrame}

/-- No byte tells nothing. -/
theorem nil : Wrote [] [] := ⟨"", rfl, .empty⟩

/-- The bytes of a keepalive tell nothing. -/
theorem keepalive : Wrote (TextEncoder.encode KEEPALIVE) [] := ⟨_, rfl, framed_keepalive⟩

/-- Bytes after bytes tell what the two tell. -/
theorem append (h : Wrote bytes told) (h' : Wrote more told') :
    Wrote (bytes ++ more) (told ++ told') := by
  obtain ⟨text, rfl, hframed⟩ := h
  obtain ⟨text', rfl, hframed'⟩ := h'
  exact ⟨text ++ text', (TextEncoder.encode_append _ _).symm, hframed.append hframed'⟩

/-- Written bytes have one list of frames. -/
theorem unique (h : Wrote bytes told) (h' : Wrote bytes told') : told = told' := by
  obtain ⟨text, rfl, hframed⟩ := h
  obtain ⟨text', htext, hframed'⟩ := h'
  cases TextEncoder.encode_injective htext
  exact hframed.frames.symm.trans hframed'.frames

/-- What a client reads of them, and what the scanner reports. -/
theorem read (h : Wrote bytes told) :
    chatFrames (TextDecoder.utf8.text bytes) = told ∧
      reportOf (TextDecoder.utf8.text bytes) = reportOfFrames told := by
  obtain ⟨text, rfl, hframed⟩ := h
  rw [TextDecoder.text_encode hframed.head]
  exact ⟨hframed.frames, hframed.report⟩

end Wrote

end ControlPlane
