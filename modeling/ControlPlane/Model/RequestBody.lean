import ControlPlane.ForStd.JsonText
import ControlPlane.ForStd.NumberText
import ControlPlane.ForStd.TextDecoder
import ControlPlane.Model.Http

/-!
# Reading a request body

`src/http.ts`: the body of a request is read up to a cap. A stream is what its reads come back
with before it ends, and whether cancelling it fails. The running total is exact: no body reaches
`2^53` bytes.
-/

namespace ControlPlane

/-- Request body cap, in bytes. 256 KiB. -/
def MAX_BODY_BYTES : Nat := 256 * 1024

/-- What a `read` comes back with, short of `done`. -/
inductive StreamRead where
  | chunk (value : Option (List UInt8))
  | failed

/-- A body as it arrives. -/
structure BodyStream where
  reads : List StreamRead
  cancelFails : Bool

/-- What reading a body takes of a request. -/
structure BodyRequest where
  contentLength : Option String
  body : Option BodyStream

/-- How reading a body ends. -/
inductive ReadOutcome (α : Type) where
  | threw
  | refused (e : ApiError)
  | ok (value : α)

/-! ## The loop -/

/-- The chunks kept so far, and the running total. -/
structure KeptChunks where
  chunks : List (List UInt8)
  total : Nat

/-- How a turn of the loop ends. -/
inductive Turn where
  | goOn (kept : KeptChunks)
  | stop (e : ApiError)

/-- The refusal of a body that fails while it is read. -/
def unreadable : ApiError := invalidRequest "Request body could not be read."

/-- The refusal of a body over the cap. -/
def overCap (maxBytes : Nat) : ApiError :=
  ⟨.payloadTooLarge, "Request body exceeds the cap of " ++ maxBytes.repr ++ " bytes."⟩

/-- One turn of the loop, around what was read. -/
def turn (maxBytes : Nat) (cancelFails : Bool) (kept : KeptChunks) : StreamRead → Turn
  | .failed => .stop unreadable
  | .chunk none => .goOn kept
  | .chunk (some value) =>
    if value.length = 0 then .goOn kept
    else if maxBytes < kept.total + value.length then
      -- a `cancel` that throws is caught like a `read` that does
      .stop (if cancelFails then unreadable else overCap maxBytes)
    else .goOn ⟨kept.chunks ++ [value], kept.total + value.length⟩

/-- The loop, and the reads that it has left in the stream. -/
def readLoop (maxBytes : Nat) (cancelFails : Bool) :
    List StreamRead → KeptChunks → Except ApiError KeptChunks × List StreamRead
  | [], kept => (.ok kept, [])
  | read :: unread, kept =>
    match turn maxBytes cancelFails kept read with
    | .goOn kept => readLoop maxBytes cancelFails unread kept
    | .stop e => (.error e, unread)

/-! ## The bytes -/

/-- `bytes.set(chunk, offset)`, `none` where it throws. -/
def copyChunk (bytes chunk : List UInt8) (offset : Nat) : Option (List UInt8) :=
  if offset + chunk.length ≤ bytes.length then
    some (bytes.take offset ++ chunk ++ bytes.drop (offset + chunk.length))
  else none

/-- The chunks set one behind the other. -/
def copyChunks (bytes : List UInt8) : List (List UInt8) → (offset : Nat) → Option (List UInt8)
  | [], _ => some bytes
  | chunk :: chunks, offset =>
    match copyChunk bytes chunk offset with
    | none => none
    | some bytes => copyChunks bytes chunks (offset + chunk.length)

/-- The refusal of a declared length. -/
def declaredOver (declared : Option String) (maxBytes : Nat) : Option ApiError :=
  match declared with
  | none => none
  | some declared =>
    -- an empty header is falsy in the source
    if declared = "" then none
    else
      match Number.ofText declared with
      | .finite n =>
        if (maxBytes : ℚ) < n.val then
          some ⟨.payloadTooLarge, "Request body is " ++ (Number.finite n).text ++
            " bytes; the cap is " ++ maxBytes.repr ++ "."⟩
        else none
      | _ => none

/-- Read request body bytes under the size cap WITHOUT buffering past it. With the outcome, the
    reads that are left in the stream. -/
def readBodyBytesCapped (request : BodyRequest) (maxBytes : Nat) :
    ReadOutcome (List UInt8) × List StreamRead :=
  match declaredOver request.contentLength maxBytes, request.body with
  | some e, none => (.refused e, [])
  -- refused by the header alone: the stream is not touched
  | some e, some stream => (.refused e, stream.reads)
  | none, none => (.ok [], [])
  | none, some stream =>
    match readLoop maxBytes stream.cancelFails stream.reads ⟨[], 0⟩ with
    | (.error e, unread) => (.refused e, unread)
    | (.ok kept, unread) =>
      match copyChunks (List.replicate kept.total 0) kept.chunks 0 with
      | none => (.threw, unread)
      | some bytes => (.ok bytes, unread)

end ControlPlane
