import ControlPlane.ForStd.Run
import ControlPlane.ForStd.TextDecoder
import ControlPlane.Model.Stream

/-!
# The relay, byte by byte

`src/stream.ts` below the texts of `Model/Stream`: the scanner with its decoder, and
`meteredRelay` with the stream it returns. The returned stream is the platform's: a
queue, a controller that refuses chunks once the stream is closed or errored, `pull`
called when the queue is empty, and `cancel` called at most once, while it is readable.
-/

namespace ControlPlane

/-! ## The scanner -/

/-- `SseUsageScanner` with its decoder. What it reads in the lines is `lines`. -/
structure SseByteScanner (d : TextDecoder) where
  decoder : d.State
  lines : SseUsageScanner

namespace SseByteScanner

variable {d : TextDecoder}

/-- A scanner that has read nothing. -/
def new : SseByteScanner d := ⟨d.start, .new⟩

/-- Feed the next chunk of the relayed stream. -/
def push (scanner : SseByteScanner d) (chunk : List UInt8) : SseByteScanner d :=
  let decoded := d.decode scanner.decoder chunk
  ⟨decoded.1, scanner.lines.push decoded.2⟩

/-- `end()`: flush the decoder and the final partial line. -/
def stop (scanner : SseByteScanner d) : SseByteScanner d :=
  let text := d.flush scanner.decoder
  ⟨d.start, { scanner.lines with buffer := scanner.lines.buffer ++ text }.finish⟩

/-- The trailing usage object. -/
def usage (scanner : SseByteScanner d) : Json := scanner.lines.lastUsage

/-- Whether a frame was read. -/
def sawFrames (scanner : SseByteScanner d) : Bool := scanner.lines.sawAnyFrame

/-- The bytes of the content so far. -/
def outputTextBytes (scanner : SseByteScanner d) : Nat := scanner.lines.outputBytes

/-- What is settled when the stream ends here. -/
def settlement (scanner : SseByteScanner d) (termination : Termination) : StreamSettlement :=
  let ended := scanner.stop
  ⟨ended.usage, ended.sawFrames, termination, ended.outputTextBytes⟩

end SseByteScanner

/-! ## The returned stream -/

/-- A chunk of bytes. -/
abbrev Chunk := List UInt8

/-- The state of a `ReadableStream`. -/
inductive StreamState where
  | readable
  | closed
  | errored
deriving Repr, DecidableEq

/-- The returned `ReadableStream` and its default controller. -/
structure RelayStream where
  state : StreamState
  closeRequested : Bool
  queue : List Chunk
  /-- The client's reads that wait for a chunk. -/
  readRequests : Nat
  /-- The chunks the client's reads were answered with. -/
  delivered : List Chunk
deriving Repr, DecidableEq

namespace RelayStream

/-- A stream nothing was put in. -/
def new : RelayStream := ⟨.readable, false, [], 0, []⟩

/-- Whether the controller still takes chunks. -/
def canCloseOrEnqueue (stream : RelayStream) : Bool :=
  !stream.closeRequested && stream.state == .readable

/-- `controller.enqueue(chunk)`, `none` where it throws. -/
def enqueue (stream : RelayStream) (chunk : Chunk) : Option RelayStream :=
  if stream.canCloseOrEnqueue then
    if 0 < stream.readRequests then
      some { stream with
        readRequests := stream.readRequests - 1
        delivered := stream.delivered ++ [chunk] }
    else some { stream with queue := stream.queue ++ [chunk] }
  else none

/-- `controller.close()`, `none` where it throws. -/
def close (stream : RelayStream) : Option RelayStream :=
  if stream.canCloseOrEnqueue then
    if stream.queue = [] then some { stream with state := .closed, readRequests := 0 }
    else some { stream with closeRequested := true }
  else none

/-- `controller.error(err)`: what is queued is dropped, and a stream that is over stays as
    it is. -/
def error (stream : RelayStream) : RelayStream :=
  if stream.state = .readable then
    { stream with state := .errored, queue := [], readRequests := 0 }
  else stream

/-- The client reads. -/
def read (stream : RelayStream) : RelayStream :=
  match stream.state, stream.queue with
  | .readable, chunk :: queue =>
    { stream with
      queue := queue
      delivered := stream.delivered ++ [chunk]
      state := if stream.closeRequested ∧ queue = [] then .closed else .readable }
  | .readable, [] => { stream with readRequests := stream.readRequests + 1 }
  | _, _ => stream

/-- The client cancels: what is queued is dropped. -/
def cancelled (stream : RelayStream) : RelayStream :=
  { stream with state := .closed, queue := [], readRequests := 0 }

/-- Whether the stream wants more: a client read waits, or nothing is queued. -/
def shouldPull (stream : RelayStream) : Bool :=
  stream.canCloseOrEnqueue && (0 < stream.readRequests || stream.queue.isEmpty)

end RelayStream

/-! ## The relay -/

/-- How the source answers a read. -/
inductive ReadResult where
  | chunk (value : Chunk)
  | done
  | failed
deriving Repr, DecidableEq

/-- What happens to a relay, in any order. -/
inductive RelayEvent where
  /-- The stream calls `pull`, which starts a read of the source. -/
  | pull
  /-- The pending read comes back. -/
  | source (result : ReadResult)
  | read
  | cancel
deriving Repr, DecidableEq

/-- The relay between two events. -/
structure RelayWorld (d : TextDecoder) where
  scanner : SseByteScanner d
  settled : Bool
  /-- The calls of `settle`. -/
  settlements : List StreamSettlement
  /-- The settlements whose `settle` threw, as logged. -/
  failures : List StreamSettlement
  stream : RelayStream
  /-- `pull` waits for the source. -/
  reading : Bool

namespace RelayWorld

variable {d : TextDecoder}

/-- A relay at its start. -/
def new : RelayWorld d := ⟨.new, false, [], [], .new, false⟩

/-- Settle with what the scanner saw, once. `settle` answers whether the callback throws:
    that is caught and logged. -/
def settleOnce (settle : StreamSettlement → Bool) (world : RelayWorld d)
    (termination : Termination) : RelayWorld d :=
  if world.settled then world
  else
    -- `finish` reads what is left in the buffer
    let scanner := world.scanner.stop
    let settlement : StreamSettlement :=
      ⟨scanner.usage, scanner.sawFrames, termination, scanner.outputTextBytes⟩
    { world with
      settled := true
      scanner := scanner
      settlements := world.settlements ++ [settlement]
      failures := if settle settlement then world.failures ++ [settlement] else world.failures }

/-- The `catch` of `pull`. -/
def caught (settle : StreamSettlement → Bool) (world : RelayWorld d) : RelayWorld d :=
  let world := world.settleOnce settle .error
  { world with stream := world.stream.error }

/-- The rest of `pull`, from what the source answered. -/
def resume (settle : StreamSettlement → Bool) (world : RelayWorld d) :
    ReadResult → RelayWorld d
  | .failed => world.caught settle
  | .done =>
    let world := world.settleOnce settle .complete
    match world.stream.close with
    | some stream => { world with stream := stream }
    -- `close` throws on a controller that is closed, as `enqueue` does below
    | none => world.caught settle
  | .chunk value =>
    let world := { world with scanner := world.scanner.push value }
    match world.stream.enqueue value with
    | some stream => { world with stream := stream }
    | none => world.caught settle

/-- One event. What cannot happen in this state changes nothing: `pull` is called by a
    stream that wants more and not again while it runs, a read comes back once, and a
    stream that is over is not cancelled. -/
def step (settle : StreamSettlement → Bool) (world : RelayWorld d) :
    RelayEvent → RelayWorld d
  | .pull =>
    if world.reading = false ∧ world.stream.shouldPull then { world with reading := true }
    else world
  | .source result =>
    if world.reading then { world.resume settle result with reading := false } else world
  | .read => { world with stream := world.stream.read }
  -- the stream drops its queue before it calls `cancel`
  | .cancel =>
    if world.stream.state = .readable then
      { world with stream := world.stream.cancelled }.settleOnce settle .cancelled
    else world

/-- The relay after a run of events. -/
def run (settle : StreamSettlement → Bool) (events : List RelayEvent) : RelayWorld d :=
  Run.runAll (step settle) new events

end RelayWorld

end ControlPlane
