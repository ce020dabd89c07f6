import ControlPlane.Model.Inference
import ControlPlane.Model.StreamRelay

/-!
# What the scanner reports of a cut stream

The scanner decodes, splits and reads a byte stream a chunk at a time. Its decoder keeps
an unfinished character, its buffer an unfinished line, so after the last chunk it has
read the lines of the whole stream, wherever the stream was cut.

## Key results

- `SseUsageScanner.push_append`: two chunks of text are read as one
- `SseByteScanner.stop_scan`: the chunks of a stream leave what its lines leave
- `foldl_consumeLine`: the report of a list of lines
- `scanner_chunks`: every cutting reports what the whole stream reports
-/

namespace ControlPlane

namespace SseUsageScanner

/-! ### Chunks of text -/

/-- The lines of a text, the last of them what follows the last line break. -/
def linesOf (text : String) : List String := JsString.split text '\n'

/-- The line that is not ended. -/
def openLine (text : String) : String :=
  String.ofList ((JsString.splitChars '\n' text.toList).getLast (JsString.splitChars_ne_nil _ _))

/-- Every text has a line. -/
theorem linesOf_ne_nil (text : String) : linesOf text ≠ [] := by
  intro h
  exact JsString.splitChars_ne_nil '\n' text.toList (List.map_eq_nil_iff.mp h)

/-- Its last line is the open one. -/
theorem getLast?_linesOf (text : String) : (linesOf text).getLast? = some (openLine text) := by
  rw [linesOf, JsString.split, List.getLast?_map,
    List.getLast?_eq_some_getLast (JsString.splitChars_ne_nil _ _)]
  rfl

/-- More text continues the open line. -/
theorem linesOf_append (text more : String) :
    linesOf (text ++ more) = (linesOf text).dropLast ++ linesOf (openLine text ++ more) := by
  unfold linesOf JsString.split openLine
  rw [String.toList_append, JsString.splitChars_append_right, List.map_append, List.map_dropLast,
    String.toList_append, String.toList_ofList]

/-- The open line of a text depends on its open line so far only. -/
theorem openLine_append (text more : String) :
    openLine (text ++ more) = openLine (openLine text ++ more) := by
  have hlast := getLast?_linesOf (text ++ more)
  rw [linesOf_append, List.getLast?_append_of_ne_nil _ (linesOf_ne_nil _),
    getLast?_linesOf] at hlast
  exact (Option.some.inj hlast).symm

/-- An open line has no line break. -/
theorem newline_not_mem_openLine (text : String) : '\n' ∉ (openLine text).toList := by
  rw [openLine, String.toList_ofList]
  exact JsString.not_mem_of_mem_splitChars (List.getLast_mem _)

/-- A text without a newline is one line. -/
theorem linesOf_of_not_mem {text : String} (h : '\n' ∉ text.toList) : linesOf text = [text] := by
  rw [linesOf, JsString.split, JsString.splitChars_of_not_mem h, List.map_singleton,
    String.ofList_toList]

/-- The scanner with another open line. -/
def keep (scanner : SseUsageScanner) (line : String) : SseUsageScanner :=
  { scanner with buffer := line }

/-- The buffer is what was kept. -/
@[simp] theorem keep_buffer (scanner : SseUsageScanner) (line : String) :
    (scanner.keep line).buffer = line := rfl

/-- Keeping a line forgets the line kept before. -/
@[simp] theorem keep_keep (scanner : SseUsageScanner) (line other : String) :
    (scanner.keep line).keep other = scanner.keep other := rfl

/-- Keeping the buffer changes nothing. -/
@[simp] theorem keep_self (scanner : SseUsageScanner) :
    scanner.keep scanner.buffer = scanner := rfl

/-- What a line adds does not depend on what the buffer holds. -/
theorem consumeLine_keep (scanner : SseUsageScanner) (kept line : String) :
    (scanner.keep kept).consumeLine line = (scanner.consumeLine line).keep kept := by
  unfold consumeLine
  cases payload line with
  | none => rfl
  | some payload =>
    dsimp only
    cases Json.parse payload with
    | none => rfl
    | some frame =>
      dsimp only [takeFrame]
      split <;> rfl

/-- Consuming lines does not touch the buffer. -/
theorem foldl_consumeLine_keep (scanner : SseUsageScanner) (kept : String)
    (lines : List String) :
    lines.foldl consumeLine (scanner.keep kept) = (lines.foldl consumeLine scanner).keep kept := by
  induction lines generalizing scanner with
  | nil => rfl
  | cons line lines ih =>
    rw [List.foldl_cons, List.foldl_cons, consumeLine_keep, ih]

/-- A chunk is read line by line, and what it leaves open is kept. -/
theorem push_eq (scanner : SseUsageScanner) (chunk : String) :
    scanner.push chunk =
      ((linesOf (scanner.buffer ++ chunk)).dropLast.foldl consumeLine scanner).keep
        (openLine (scanner.buffer ++ chunk)) := by
  show (linesOf (scanner.buffer ++ chunk)).dropLast.foldl consumeLine
    (scanner.keep (((linesOf (scanner.buffer ++ chunk)).getLast?).getD "")) = _
  rw [getLast?_linesOf, foldl_consumeLine_keep, Option.getD_some]

/-- After a chunk the buffer is the open line. -/
theorem push_buffer_eq (scanner : SseUsageScanner) (chunk : String) :
    (scanner.push chunk).buffer = openLine (scanner.buffer ++ chunk) := by
  rw [push_eq, keep_buffer]

/-- Two chunks are read as one. -/
theorem push_append (scanner : SseUsageScanner) (chunk more : String) :
    scanner.push (chunk ++ more) = (scanner.push chunk).push more := by
  rw [push_eq (scanner.push chunk), push_buffer_eq, push_eq scanner (chunk ++ more),
    ← String.append_assoc, linesOf_append, openLine_append (scanner.buffer ++ chunk),
    List.dropLast_append_of_ne_nil (linesOf_ne_nil _), List.foldl_append, push_eq scanner chunk,
    foldl_consumeLine_keep, keep_keep]

/-- Chunks pushed one by one are the joined text pushed at once. -/
theorem push_join (scanner : SseUsageScanner)
    (hopen : openLine scanner.buffer = scanner.buffer) (chunks : List String) :
    chunks.foldl push scanner = scanner.push (String.join chunks) := by
  induction chunks generalizing scanner with
  | nil =>
    have hlines : linesOf scanner.buffer = [scanner.buffer] := by
      rw [← hopen, linesOf_of_not_mem (newline_not_mem_openLine _)]
    rw [List.foldl_nil, push_eq]
    simp [hlines, hopen]
  | cons chunk chunks ih =>
    have happend := openLine_append (scanner.buffer ++ chunk) ""
    rw [String.append_empty, String.append_empty] at happend
    rw [List.foldl_cons, ih _ (by rw [push_buffer_eq, ← happend]), ← push_append,
      String.join_cons]

/-- An empty line says nothing. -/
theorem consumeLine_empty (scanner : SseUsageScanner) : scanner.consumeLine "" = scanner := rfl

/-- Finishing consumes the buffer as a last line. -/
theorem finish_eq (scanner : SseUsageScanner) :
    scanner.finish = (scanner.consumeLine scanner.buffer).keep "" := by
  unfold finish
  split
  next h => rw [h, consumeLine_empty, ← h, keep_self]
  next => rfl

/-! ### What lines report -/

/-- The payloads of the `data:` lines. -/
def payloads (lines : List String) : List String := lines.filterMap payload

/-- The frames that parse. -/
def frames (lines : List String) : List Json :=
  ((payloads lines).filterMap Json.parse).filter Json.isObject

/-- The usages that are not null, at the top level or on `response`. -/
def usages (lines : List String) : List Json :=
  (frames lines).filterMap fun frame => (frameUsage frame).filter fun usage => !usage.isNull

/-- What one line adds to the report. -/
theorem consumeLine_eq (scanner : SseUsageScanner) (line : String) :
    scanner.consumeLine line =
      ⟨scanner.buffer, (usages [line]).getLast?.getD scanner.lastUsage,
        scanner.sawAnyFrame || !(payloads [line]).isEmpty,
        scanner.outputBytes + ((frames [line]).map frameBytes).sum⟩ := by
  unfold consumeLine
  cases hpayload : payload line with
  | none => simp [payloads, frames, usages, hpayload]
  | some text =>
    cases hparse : Json.parse text with
    | none => simp [payloads, frames, usages, hpayload, hparse]
    | some frame =>
      -- a payload that is no object is seen, and counts for nothing
      cases hobject : frame.isObject with
      | false => simp [takeFrame, payloads, frames, usages, hpayload, hparse, hobject]
      | true =>
        cases husage : frameUsage frame with
        | none => simp [takeFrame, payloads, frames, usages, hpayload, hparse, hobject, husage]
        | some usage =>
          cases usage <;>
            simp [takeFrame, payloads, frames, usages, hpayload, hparse, hobject, husage,
              Json.isNull, Option.filter]

/-- The last usage, whether there was a payload, and the bytes of all assistant text. -/
theorem foldl_consumeLine (scanner : SseUsageScanner) (lines : List String) :
    lines.foldl consumeLine scanner =
      ⟨scanner.buffer, (usages lines).getLast?.getD scanner.lastUsage,
        scanner.sawAnyFrame || !(payloads lines).isEmpty,
        scanner.outputBytes + ((frames lines).map frameBytes).sum⟩ := by
  induction lines generalizing scanner with
  | nil => simp [payloads, frames, usages]
  | cons line lines ih =>
    have hpayloads : payloads (line :: lines) = payloads [line] ++ payloads lines :=
      List.filterMap_append (l := [line]) ..
    have hframes : frames (line :: lines) = frames [line] ++ frames lines := by
      rw [frames, hpayloads, List.filterMap_append, List.filter_append]
      rfl
    have husages : usages (line :: lines) = usages [line] ++ usages lines := by
      rw [usages, hframes, List.filterMap_append]
      rfl
    rw [List.foldl_cons, ih, consumeLine_eq, husages, hframes, hpayloads]
    -- the newest report wins
    have hlast : ∀ (first rest : List Json) (last : Json),
        rest.getLast?.getD (first.getLast?.getD last) = (first ++ rest).getLast?.getD last := by
      intro first rest last
      rw [List.getLast?_append]
      cases rest.getLast? <;> rfl
    -- a frame was seen in the first line or in the others
    have hseen : ∀ first rest : List String,
        (!first.isEmpty || !rest.isEmpty) = !(first ++ rest).isEmpty := by
      intro first rest
      cases first <;> simp
    rw [hlast, List.map_append, List.sum_append_nat, Nat.add_assoc, Bool.or_assoc, hseen]

end SseUsageScanner

/-! ## The byte stream -/

namespace SseByteScanner

open SseUsageScanner (linesOf openLine usages payloads frames frameBytes)

variable {d : TextDecoder}

/-- The chunks of a stream, one after the other. -/
def scan (d : TextDecoder) (chunks : List Chunk) : SseByteScanner d := chunks.foldl push new

/-- Chunks are decoded in order, and their texts are read in order. -/
theorem foldl_push (scanner : SseByteScanner d) (chunks : List Chunk) :
    chunks.foldl push scanner =
      ⟨(d.decodeAll scanner.decoder chunks).1,
        (d.decodeAll scanner.decoder chunks).2.foldl SseUsageScanner.push scanner.lines⟩ := by
  induction chunks generalizing scanner with
  | nil => rfl
  | cons chunk chunks ih =>
    rw [List.foldl_cons, ih]
    rfl

/-- After the chunks of a stream the scanner stands where the whole stream leaves it. -/
theorem scan_eq (hd : d.Lawful) (chunks : List Chunk) :
    scan d chunks = (new : SseByteScanner d).push chunks.flatten := by
  have hdecode := d.decodeAll_flatten hd d.start chunks
  rw [scan, foldl_push]
  show (⟨_, (d.decodeAll d.start chunks).2.foldl SseUsageScanner.push .new⟩ : SseByteScanner d) =
    ⟨(d.decode d.start chunks.flatten).1,
      SseUsageScanner.new.push (d.decode d.start chunks.flatten).2⟩
  rw [SseUsageScanner.push_join _ rfl, hdecode]
  rfl

/-- Stopping finishes with what the decoder still held. -/
theorem stop_lines (scanner : SseByteScanner d) :
    scanner.stop.lines =
      (scanner.lines.keep (scanner.lines.buffer ++ d.flush scanner.decoder)).finish := rfl

/-- A stream that has ended was read line by line. -/
theorem stop_push (hd : d.Lawful) (bytes : List UInt8) :
    ((new : SseByteScanner d).push bytes).stop.lines =
      ((linesOf (d.text bytes)).foldl SseUsageScanner.consumeLine .new).keep "" := by
  cases hdecode : d.decode d.start bytes with
  | mk state text =>
    have htext : d.text bytes = text ++ d.flush state := by rw [TextDecoder.text, hdecode]
    -- an unfinished character is no line break: it goes to the open line
    have hopen : linesOf (openLine text ++ d.flush state) = [openLine text ++ d.flush state] := by
      apply SseUsageScanner.linesOf_of_not_mem
      rw [String.toList_append, List.mem_append, not_or]
      exact ⟨SseUsageScanner.newline_not_mem_openLine text, hd.newline_not_mem_flush state⟩
    have hpush : SseUsageScanner.new.push text =
        ((linesOf text).dropLast.foldl SseUsageScanner.consumeLine .new).keep (openLine text) := by
      rw [SseUsageScanner.push_eq, show SseUsageScanner.new.buffer ++ text = text from
        String.empty_append]
    have hscanner :
        (new : SseByteScanner d).push bytes = ⟨state, SseUsageScanner.new.push text⟩ := by
      show (⟨(d.decode d.start bytes).1, SseUsageScanner.new.push (d.decode d.start bytes).2⟩ :
        SseByteScanner d) = _
      rw [hdecode]
    rw [stop_lines, hscanner, htext, SseUsageScanner.linesOf_append, hopen, List.foldl_append]
    dsimp only
    rw [hpush, SseUsageScanner.keep_keep, SseUsageScanner.keep_buffer, SseUsageScanner.finish_eq,
      SseUsageScanner.keep_buffer, SseUsageScanner.consumeLine_keep, SseUsageScanner.keep_keep,
      List.foldl_cons, List.foldl_nil]

end SseByteScanner

/-! ## Reports -/

/-- What a scanner reports. -/
structure StreamReport where
  usage : Json
  sawFrames : Bool
  outputTextBytes : Nat

/-- What a scanner reports as it stands. -/
def SseByteScanner.report {d : TextDecoder} (scanner : SseByteScanner d) : StreamReport :=
  ⟨scanner.usage, scanner.sawFrames, scanner.outputTextBytes⟩

/-- What there is to report of a text: the last usage of its frames that is not null,
    whether it has a payload, and the bytes of all assistant text. -/
def reportOf (text : String) : StreamReport :=
  let lines := SseUsageScanner.linesOf text
  ⟨(SseUsageScanner.usages lines).getLast?.getD .null, !(SseUsageScanner.payloads lines).isEmpty,
    ((SseUsageScanner.frames lines).map SseUsageScanner.frameBytes).sum⟩

/-- However a stream is cut into chunks, empty ones among them, the scanner reports at its
    end what it reports of the whole stream at once, which is what its text has. -/
theorem scanner_chunks (d : TextDecoder) (hd : d.Lawful) (chunks : List Chunk) :
    (SseByteScanner.scan d chunks).stop.report =
        ((SseByteScanner.new : SseByteScanner d).push chunks.flatten).stop.report ∧
      (SseByteScanner.scan d chunks).stop.report = reportOf (d.text chunks.flatten) := by
  rw [SseByteScanner.scan_eq hd]
  refine ⟨rfl, ?_⟩
  have hlines := SseByteScanner.stop_push hd chunks.flatten
  rw [SseUsageScanner.foldl_consumeLine] at hlines
  simp only [SseByteScanner.report, SseByteScanner.usage, SseByteScanner.sawFrames,
    SseByteScanner.outputTextBytes, hlines, SseUsageScanner.keep, SseUsageScanner.new, reportOf,
    Bool.false_or, Nat.zero_add]

/-- A frame with an accented letter, ended by CRLF. -/
def accentFrame : List UInt8 :=
  "data:\x7b\"choices\":[\x7b\"delta\":\x7b\"content\":\"é\"\x7d\x7d]\x7d\r\n".toList.flatMap
    String.utf8EncodeChar

/-- The frame cut inside its payload, inside the letter and inside the line break. -/
def accentChunks : List Chunk :=
  [accentFrame.take 9, [], (accentFrame.drop 9).take 30, (accentFrame.drop 39).take 7,
    accentFrame.drop 46]

/-- A character cut between two chunks is reported as in one. -/
theorem scanner_chunks_accent :
    (SseByteScanner.scan .utf8 accentChunks).stop.report =
        ((SseByteScanner.new : SseByteScanner .utf8).push accentChunks.flatten).stop.report ∧
      (SseByteScanner.scan .utf8 accentChunks).stop.report =
        reportOf (TextDecoder.utf8.text accentChunks.flatten) :=
  scanner_chunks .utf8 TextDecoder.utf8_lawful accentChunks

example : accentChunks = [accentFrame.take 9, [], (accentFrame.drop 9).take 30,
      [0xA9, 0x22, 0x7D, 0x7D, 0x5D, 0x7D, 0x0D], [0x0A]] ∧
    (SseByteScanner.scan .utf8 accentChunks).stop.outputTextBytes = 2 := by
  decide +kernel

end ControlPlane
