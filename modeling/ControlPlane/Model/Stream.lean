import ControlPlane.ForStd.JsString
import ControlPlane.Model.Meter

/-!
# Metering a stream while relaying it

`src/stream.ts`: the passive reader of the `data:` lines that go past, and the relay
that settles once when the stream ends. A chunk is the text it decodes to: the
decoder keeps an incomplete character for the next chunk.
-/

namespace ControlPlane

/-! ## JSON texts -/

mutual

/-- A parsed value, its strings as the text they are. -/
def Json.ofValue : JsonText.Value → Json
  | .null => .null
  | .bool value => .bool value
  | .num value => .num value
  | .str value => .str (String.ofList (Utf16.decode value))
  | .arr items => .arr (Json.ofValues items)
  | .obj fields => .obj (Json.ofFields fields)

/-- The items of an array, as they are read. -/
def Json.ofValues : List JsonText.Value → List Json
  | [] => []
  | v :: vs => Json.ofValue v :: Json.ofValues vs

/-- The fields of an object, as they are read. -/
def Json.ofFields : List (JsonText.JsStr × JsonText.Value) → List (String × Json)
  | [] => []
  | (name, v) :: fs => (String.ofList (Utf16.decode name), Json.ofValue v) :: Json.ofFields fs

end

/-- `JSON.parse(text)`, `none` where it throws. -/
def Json.parse (text : String) : Option Json := (JsonText.parse text.toList).map Json.ofValue

/-! ## The scanner -/

/-- SSE data payloads that are not JSON. -/
def sentinels : List String := ["[DONE]", "[done]"]

/-- What the scanner has read so far. -/
structure SseUsageScanner where
  buffer : String
  /-- The trailing usage object, null when none arrived. -/
  lastUsage : Json
  sawAnyFrame : Bool
  outputBytes : Nat

namespace SseUsageScanner

/-- A scanner that has read nothing. -/
def new : SseUsageScanner := ⟨"", .null, false, 0⟩

/-- UTF-8 bytes of the text of one chat-completions choice. -/
def choiceBytes (choice : Json) : Nat :=
  ((((choice.field "delta").bind (·.strField "content")).map String.utf8ByteSize).getD 0)

/-- UTF-8 bytes of the assistant text of one frame, in either wire shape. -/
def frameBytes (frame : Json) : Nat :=
  (match frame.field "choices" with
    | some (.arr choices) => choices.foldl (fun n choice => n + choiceBytes choice) 0
    | _ => 0) +
  (if frame.strField "type" = some "response.output_text.delta" then
    ((frame.strField "delta").map String.utf8ByteSize).getD 0 else 0)

/-- The usage of one frame, at the top level or on `response`. -/
def frameUsage (frame : Json) : Option Json :=
  Json.orElse (frame.field "usage") ((frame.field "response").bind (·.field "usage"))

/-- Take a parsed frame. The last usage wins. -/
def takeFrame (scanner : SseUsageScanner) (frame : Json) : SseUsageScanner :=
  if frame.isObject then
    { scanner with
      lastUsage := match frameUsage frame with
        -- a usage of null is none: what was read before stays
        | none | some .null => scanner.lastUsage
        | some usage => usage
      outputBytes := scanner.outputBytes + frameBytes frame }
  else scanner

/-- The payload of a `data:` line. -/
def payload (rawLine : String) : Option String :=
  let line := JsString.trim rawLine
  if JsString.startsWith line "data:" then
    let payload := JsString.trim (String.ofList (line.toList.drop "data:".toList.length))
    if payload = "" ∨ payload ∈ sentinels then none else some payload
  else none

/-- One line: a frame, or nothing. -/
def consumeLine (scanner : SseUsageScanner) (rawLine : String) : SseUsageScanner :=
  match payload rawLine with
  | none => scanner
  | some payload =>
    let scanner := { scanner with sawAnyFrame := true }
    match Json.parse payload with
    -- a payload that is no JSON was seen, and counts for nothing
    | none => scanner
    | some frame => scanner.takeFrame frame

/-- Feed the next chunk. What follows the last line break stays in the buffer. -/
def push (scanner : SseUsageScanner) (chunk : String) : SseUsageScanner :=
  let lines := JsString.split (scanner.buffer ++ chunk) '\n'
  lines.dropLast.foldl consumeLine { scanner with buffer := (lines.getLast?).getD "" }

/-- Flush the last partial line. -/
def finish (scanner : SseUsageScanner) : SseUsageScanner :=
  if scanner.buffer = "" then scanner
  else { scanner.consumeLine scanner.buffer with buffer := "" }

end SseUsageScanner

/-! ## The relay -/

/-- How a relayed stream ended. -/
inductive Termination where
  | complete
  | cancelled
  | error
deriving Repr, DecidableEq

/-- What a relay settles with. -/
structure StreamSettlement where
  /-- The trailing usage object, or null. -/
  usage : Json
  sawFrames : Bool
  termination : Termination
  outputTextBytes : Nat

/-- What can happen to a relayed stream. -/
inductive StreamEvent where
  | chunk (text : String)
  | done
  | error
  | cancel
deriving Repr, DecidableEq

/-- The relay between two events. -/
structure MeteredRelay where
  scanner : SseUsageScanner
  settled : Bool

namespace MeteredRelay

/-- A relay that has read nothing. -/
def new : MeteredRelay := ⟨.new, false⟩

/-- Settle with what the scanner saw, once. -/
def settleOnce (relay : MeteredRelay) (termination : Termination) :
    MeteredRelay × List StreamSettlement :=
  -- a second end finds the stream settled
  if relay.settled then (relay, [])
  else
    let scanner := relay.scanner.finish
    (⟨scanner, true⟩, [⟨scanner.lastUsage, scanner.sawAnyFrame, termination, scanner.outputBytes⟩])

/-- One event, and the settlements it makes. -/
def step (relay : MeteredRelay) : StreamEvent → MeteredRelay × List StreamSettlement
  | .chunk text => ({ relay with scanner := relay.scanner.push text }, [])
  | .done => relay.settleOnce .complete
  | .error => relay.settleOnce .error
  | .cancel => relay.settleOnce .cancelled

/-- The settlements of a run of events. -/
def settlements (relay : MeteredRelay) : List StreamEvent → List StreamSettlement
  | [] => []
  | event :: events => (relay.step event).2 ++ (relay.step event).1.settlements events

end MeteredRelay

/-- Relay a stream from its start: the settlements its events make. -/
def meteredRelay (events : List StreamEvent) : List StreamSettlement :=
  MeteredRelay.new.settlements events

/-! ## What a run settles -/

/-- How an event ends the stream, if it does. -/
def StreamEvent.termination : StreamEvent → Option Termination
  | .chunk _ => none
  | .done => some .complete
  | .error => some .error
  | .cancel => some .cancelled

/-- What is settled when the scanner stands here as the stream ends. -/
def SseUsageScanner.settlement (scanner : SseUsageScanner) (termination : Termination) :
    StreamSettlement :=
  ⟨scanner.finish.lastUsage, scanner.finish.sawAnyFrame, termination, scanner.finish.outputBytes⟩

namespace MeteredRelay

/-- An event that ends the stream settles it. -/
theorem step_end (relay : MeteredRelay) {event : StreamEvent} {termination : Termination}
    (h : event.termination = some termination) :
    relay.step event = relay.settleOnce termination := by
  cases event <;> cases h <;> rfl

/-- A relay that has settled settles nothing more. -/
theorem settlements_of_settled {relay : MeteredRelay} (h : relay.settled = true)
    (events : List StreamEvent) : relay.settlements events = [] := by
  induction events generalizing relay with
  | nil => rfl
  | cons event events ih =>
    cases hend : event.termination with
    | none =>
      -- a chunk moves the scanner only
      cases event with
      | chunk text =>
        show [] ++ MeteredRelay.settlements _ events = []
        exact ih h
      | done => cases hend
      | error => cases hend
      | cancel => cases hend
    | some termination =>
      have hstep : relay.step event = (relay, []) := by
        rw [step_end relay hend, settleOnce, if_pos h]
      show (relay.step event).2 ++ (relay.step event).1.settlements events = []
      rw [hstep]
      exact ih h

/-- The chunks before the end are scanned, the end settles, the rest is not looked at. -/
theorem settlements_chunks {relay : MeteredRelay} (h : relay.settled = false)
    (chunks : List String) {event : StreamEvent} {termination : Termination}
    (hend : event.termination = some termination) (rest : List StreamEvent) :
    relay.settlements (chunks.map .chunk ++ event :: rest) =
      [(chunks.foldl SseUsageScanner.push relay.scanner).settlement termination] := by
  induction chunks generalizing relay with
  | nil =>
    show (relay.step event).2 ++ (relay.step event).1.settlements rest = _
    rw [step_end relay hend, settleOnce, if_neg (by simp [h])]
    rw [settlements_of_settled rfl rest]
    rfl
  | cons text chunks ih =>
    show [] ++ MeteredRelay.settlements _ (chunks.map .chunk ++ event :: rest) = _
    exact ih h

end MeteredRelay

/-- A relay that starts with chunks and then ends. -/
theorem meteredRelay_chunks (chunks : List String) {event : StreamEvent} {termination : Termination}
    (hend : event.termination = some termination) (rest : List StreamEvent) :
    meteredRelay (chunks.map .chunk ++ event :: rest) =
      [(chunks.foldl SseUsageScanner.push .new).settlement termination] :=
  MeteredRelay.settlements_chunks rfl chunks hend rest

/-- With nothing in the buffer there is nothing to flush. -/
theorem SseUsageScanner.settlement_usage {scanner : SseUsageScanner} (h : scanner.buffer = "")
    (termination : Termination) : (scanner.settlement termination).usage = scanner.lastUsage := by
  show scanner.finish.lastUsage = _
  rw [finish, if_pos h]

/-- The events of a stream that ends: chunks, the first end, and what comes after it. -/
theorem StreamEvent.exists_end {events : List StreamEvent}
    (h : ∃ event ∈ events, event.termination ≠ none) :
    ∃ (chunks : List String) (event : StreamEvent) (termination : Termination)
      (rest : List StreamEvent), event.termination = some termination ∧
        events = chunks.map .chunk ++ event :: rest := by
  -- everything before the first end is a chunk
  induction events with
  | nil =>
    obtain ⟨event, hmem, -⟩ := h
    cases hmem
  | cons event events ih =>
    cases hend : event.termination with
    | some termination => exact ⟨[], event, termination, events, hend, rfl⟩
    | none =>
      cases event with
      | chunk text =>
        -- the first end lies behind this chunk
        have hlater : ∃ event ∈ events, event.termination ≠ none := by
          obtain ⟨event, hmem, hne⟩ := h
          cases hmem with
          | head => exact absurd hend hne
          | tail _ hmem => exact ⟨event, hmem, hne⟩
        obtain ⟨chunks, last, termination, rest, hlast, heq⟩ := ih hlater
        exact ⟨text :: chunks, last, termination, rest, hlast, by rw [heq]; rfl⟩
      | done => cases hend
      | error => cases hend
      | cancel => cases hend

/-- A stream that ends is settled once. -/
theorem meteredRelay_of_end {events : List StreamEvent}
    (h : ∃ event ∈ events, event.termination ≠ none) :
    ∃ settlement, meteredRelay events = [settlement] := by
  obtain ⟨chunks, event, termination, rest, hend, rfl⟩ := StreamEvent.exists_end h
  exact ⟨_, meteredRelay_chunks chunks hend rest⟩

end ControlPlane
