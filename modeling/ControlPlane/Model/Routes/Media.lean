import ControlPlane.Model.Http
import ControlPlane.Model.Media

/-!
# Signed downloads

`src/routes/media.ts`: the `Range` header and the download of a stored object. R2 is a
parameter, as one request finds it: what a `head` and a `get` of a key come back with.
-/

namespace ControlPlane.Media

/-! ## The Range header -/

/-- The groups of `/^bytes=(\d*)-(\d*)$/i`. -/
def execRange (s : String) : Option (String × String) :=
  if (s.toList.take 6).map Char.toLower = "bytes=".toList then
    let startRaw := (s.toList.drop 6).takeWhile Char.isDigit
    match (s.toList.drop 6).dropWhile Char.isDigit with
    | '-' :: endRaw =>
      if endRaw.all Char.isDigit then some (String.ofList startRaw, String.ofList endRaw) else none
    | _ => none
  else none

example : execRange "Bytes=5-" = some ("5", "") := by decide

/-- A range of an object, as asked for and as answered. -/
structure BytesRange where
  offset : Number
  length : Number
  start : Number
  stop : Number
deriving DecidableEq

/-- The range of a first and a last byte. -/
def bytesRange (start stop : Number) : BytesRange :=
  ⟨start, (stop.sub start).add (Number.ofRat 1), start, stop⟩

/-- What `parseBytesRange` returns; `null` is `absent`. -/
inductive ParsedRange where
  | absent
  | unsatisfiable
  | range (r : BytesRange)
deriving DecidableEq

/-- Parse `Range: bytes=start-end` (single range only). -/
def parseBytesRange (header : Option String) (size : Number) : ParsedRange :=
  match header with
  | none => .absent
  | some header =>
    if header = "" then .absent
    else
      match execRange (JsString.trim header) with
      | none => .absent
      | some (startRaw, endRaw) =>
        if startRaw = "" ∧ endRaw = "" then .absent
        else if startRaw = "" then
          -- suffix: last N bytes
          let suffix := Number.ofText endRaw
          if !suffix.isFinite || suffix.le (Number.ofRat 0) then .unsatisfiable
          else
            let start := (Number.ofRat 0).max (size.sub suffix)
            .range (bytesRange start (size.sub (Number.ofRat 1)))
        else
          let start := Number.ofText startRaw
          let last := size.sub (Number.ofRat 1)
          let stop := if endRaw = "" then last else Number.ofText endRaw
          if !start.isFinite || !stop.isFinite || start.lt (Number.ofRat 0) then .unsatisfiable
          else if size.le start then .unsatisfiable
          else if (stop.min last).lt start then .unsatisfiable
          else .range (bytesRange start (stop.min last))

/-! ## The download -/

/-- What R2 tells of an object. -/
structure R2Object where
  size : Number
  contentType : Option String

/-- What a call of R2 comes back with. -/
inductive Fetched (α : Type) where
  | threw
  | missing
  | found (value : α)

/-- The calls of R2: of a `get` the whole body, and of one with a range its bytes. -/
structure Bucket where
  head : String → Fetched R2Object
  get : String → Fetched (List UInt8)
  getRange : String → (offset length : Number) → Fetched (List UInt8)

/-- What the download reads of a request. -/
structure MediaRequest where
  method : String
  range : Option String

/-- An answer of the media door. -/
structure MediaResponse where
  status : Nat
  headers : List (String × String)
  body : Option (List UInt8)
deriving DecidableEq

/-- How a request to the media door ends. -/
inductive MediaAnswer where
  | threw
  | error (e : ApiError)
  | response (r : MediaResponse)
deriving DecidableEq

/-- The headers of every answer with an object. -/
def baseHeaders (head : R2Object) (objectKey : String) : List (String × String) :=
  let isMusic := JsString.startsWith objectKey "music/"
  let isImage := JsString.startsWith objectKey "image/"
  let contentType := head.contentType.getD
    (if isMusic then "audio/mpeg" else if isImage then "image/png" else "video/mp4")
  let disposition :=
    if isMusic then "inline; filename=\"prism-music.mp3\""
    else if isImage then "inline; filename=\"prism-image.png\""
    else "inline; filename=\"video.mp4\""
  [("content-type", contentType), ("cache-control", "private, max-age=3600"),
    ("accept-ranges", "bytes"), ("content-disposition", disposition)]

/-- The answer around a body that R2 was asked for; a HEAD leaves the body out. -/
def answerWith (method : String) (status : Nat) (headers : List (String × String)) :
    Fetched (List UInt8) → MediaAnswer
  | .threw => .threw
  | .missing => .error ⟨.notFound, "Media object not found."⟩
  | .found body => .response ⟨status, headers, if method = "HEAD" then none else some body⟩

/-- The answer about an object whose `head` is known. -/
def serveObject (bucket : Bucket) (request : MediaRequest) (objectKey : String) (head : R2Object) :
    MediaAnswer :=
  let headers := baseHeaders head objectKey
  match parseBytesRange request.range head.size with
  | .unsatisfiable =>
    .response ⟨416, headers ++ [("content-range", "bytes */" ++ head.size.text)], none⟩
  | .range r =>
    answerWith request.method 206
      (headers ++ [("content-range", "bytes " ++ r.start.text ++ "-" ++ r.stop.text ++ "/" ++
        head.size.text), ("content-length", r.length.text)])
      (bucket.getRange objectKey r.offset r.length)
  | .absent =>
    let headers := headers ++ [("content-length", head.size.text)]
    -- R2 is not asked for the body of a HEAD
    if request.method = "HEAD" then .response ⟨200, headers, none⟩
    else answerWith request.method 200 headers (bucket.get objectKey)

/-- What the download reads of `env`. -/
structure MediaEnv where
  CF_AIG_TOKEN : Option String
  MEDIA : Option Bucket

/-- The download door. -/
def handleMediaDownload (digests : Digests) (now : EpochSeconds) (env : MediaEnv)
    (request : MediaRequest) (token : String) : MediaAnswer :=
  if request.method ≠ "GET" ∧ request.method ≠ "HEAD" then
    .error (invalidRequest "Media download accepts GET or HEAD.")
  else
    match mediaSigningSecret env.CF_AIG_TOKEN with
    | none => .error ⟨.unavailable, "Media signing is not configured."⟩
    | some secret =>
      match env.MEDIA with
      | none => .error ⟨.unavailable, "MEDIA R2 binding is not configured."⟩
      | some bucket =>
        match (verifyMediaToken digests secret token now.number).filter (·.kind = .d) with
        | none => .error ⟨.unauthenticated, "Invalid or expired media download token."⟩
        | some parsed =>
          match bucket.head parsed.objectKey with
          | .threw => .threw
          | .missing => .error ⟨.notFound, "Media object not found."⟩
          | .found head => serveObject bucket request parsed.objectKey head

end ControlPlane.Media
