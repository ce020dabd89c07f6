import Mathlib.Data.List.Forall2
import ControlPlane.Spec.ChatBody

/-!
# Fields that are carried forward

What a validated request holds of the body it was read from. The validator reads the fields
of a body, of its messages, of their content parts and of an `image_url` object, and the
request holds the value of each field it reads.

## Key results

- `parsePart_gives`, `parseTurn_gives`: a part and a turn give what is read of them
- `parseChatRequest_gives`: the request holds each field of the body
- `CarriesForward`: a field of the body whose value the request holds, at whatever depth
- `BodyGives.turn`, `BodyGives.part`: the turns and the parts of an accepted body, by index
-/

namespace ControlPlane

/-! ## Places in a value -/

/-- One step into a value. -/
inductive JsonStep where
  | field (name : String)
  | item (i : Nat)
deriving Repr, DecidableEq

namespace Json

/-- The names of the fields of an object. -/
def names : Json → List String
  | .obj fields => fields.map (·.1)
  | _ => []

/-- An item of an array. -/
def item (json : Json) (i : Nat) : Option Json :=
  match json with
  | .arr items => items[i]?
  | _ => none

/-- What stands at the end of some steps. -/
def at? (json : Json) : List JsonStep → Option Json
  | [] => some json
  | .field name :: path => (json.field name).bind (·.at? path)
  | .item i :: path => (json.item i).bind (·.at? path)

/-- What a field holds of the object at the end of some steps. -/
def fieldAt (json : Json) (path : List JsonStep) (name : String) : Option Json :=
  (json.at? path).bind (·.field name)

/-- A text, a number or a truth value. -/
def isAtom : Json → Bool
  | .str _ | .num _ | .bool _ => true
  | _ => false

/-- An object holds something in each field it names. -/
theorem field_of_mem_names {json : Json} {name : String} (h : name ∈ json.names) :
    ∃ value, json.field name = some value := by
  cases json with
  | obj fields =>
    obtain ⟨field, hmem, rfl⟩ := List.mem_map.mp h
    cases hlookup : fields.lookup field.1 with
    | none => exact absurd rfl (bne_iff_ne.mp (List.lookup_eq_none_iff.mp hlookup field hmem))
    | some value => exact ⟨value, hlookup⟩
  | _ => cases h

/-- What a field holds is held by one of the names. -/
theorem mem_names_of_field {json value : Json} {name : String} (h : json.field name = some value) :
    name ∈ json.names := by
  cases json with
  | obj fields =>
    -- a name that is not listed cannot be looked up
    by_contra hmem
    have hnone : fields.lookup name = none := by
      rw [List.lookup_eq_none_iff]
      intro field hfield
      rw [bne_iff_ne]
      rintro rfl
      exact hmem (List.mem_map.mpr ⟨field, hfield, rfl⟩)
    have h : fields.lookup name = some value := h
    rw [hnone] at h
    cases h
  | _ => cases h

/-- Steps taken one after the other. -/
theorem at?_append (json : Json) (path more : List JsonStep) :
    json.at? (path ++ more) = (json.at? path).bind (·.at? more) := by
  induction path generalizing json with
  | nil => rfl
  | cons step path ih =>
    cases step with
    | field name =>
      rw [List.cons_append, at?, at?, Option.bind_assoc]
      exact congrArg _ (funext fun json => ih json)
    | item i =>
      rw [List.cons_append, at?, at?, Option.bind_assoc]
      exact congrArg _ (funext fun json => ih json)

/-- What is below a field of a value. -/
theorem fieldAt_field (json : Json) (key : String) (path : List JsonStep) (name : String) :
    json.fieldAt (.field key :: path) name = (json.field key).bind (·.fieldAt path name) :=
  Option.bind_assoc ..

/-- What is below an item of a value. -/
theorem fieldAt_item (json : Json) (i : Nat) (path : List JsonStep) (name : String) :
    json.fieldAt (.item i :: path) name = (json.item i).bind (·.fieldAt path name) :=
  Option.bind_assoc ..

/-- There is no field at or below an atom. -/
theorem fieldAt_atom {json : Json} (h : json.isAtom = true) (path : List JsonStep) (name : String) :
    json.fieldAt path name = none := by
  cases json with
  | null | arr items | obj fields => cases h
  | bool b | num n | str text =>
    cases path with
    | nil => rfl
    | cons step path => cases step <;> rfl

/-- What has a field is no array. -/
theorem item_eq_none_of_field {json value : Json} {name : String}
    (h : json.field name = some value) (i : Nat) : json.item i = none := by
  cases json with
  | obj fields => rfl
  | _ => cases h

/-- A place below an object starts at one of its fields: it is that field, or below it. -/
inductive FirstField (key : String) (sub : Json) : List JsonStep → String → Json → Prop
  | here : FirstField key sub [] key sub
  | below {more : List JsonStep} {name : String} {value : Json}
      (h : sub.fieldAt more name = some value) : FirstField key sub (.field key :: more) name value

/-- A field found inside an object is found behind one of its fields. -/
theorem first_of_fieldAt {json value : Json} {path : List JsonStep} {name : String}
    (hobject : ∀ i, json.item i = none) (h : json.fieldAt path name = some value) :
    ∃ key sub, json.field key = some sub ∧ FirstField key sub path name value := by
  cases path with
  | nil => exact ⟨name, value, h, .here⟩
  | cons step path =>
    cases step with
    | field key =>
      rw [fieldAt_field] at h
      obtain ⟨sub, hsub, h⟩ := Option.bind_eq_some_iff.mp h
      exact ⟨key, sub, hsub, .below h⟩
    -- an object has no items
    | item i =>
      rw [fieldAt_item, hobject] at h
      cases h

/-- Nothing is below an atom. -/
theorem FirstField.atom {key name : String} {sub value : Json} {path : List JsonStep}
    (h : FirstField key sub path name value) (hatom : sub.isAtom = true) :
    path = [] ∧ name = key ∧ value = sub := by
  cases h with
  | here => exact ⟨rfl, rfl, rfl⟩
  | below h =>
    rw [fieldAt_atom hatom] at h
    cases h

end Json

/-- Where a message stands. -/
def turnPath (i : Nat) : List JsonStep := [.field "messages", .item i]

/-- Where a content part stands. -/
def partPath (i j : Nat) : List JsonStep :=
  [.field "messages", .item i, .field "content", .item j]

/-- A text field is a field that holds a text. -/
theorem strField_eq_some {json : Json} {name text : String} :
    json.strField name = some text ↔ json.field name = some (.str text) := by
  unfold Json.strField
  cases hfield : json.field name with
  | none => simp
  | some value => cases value <;> simp

/-- Two lists that correspond do so index by index. -/
theorem forall₂_getElem? {α β : Type} {R : α → β → Prop} {as : List α} {bs : List β}
    (h : List.Forall₂ R as bs) {i : Nat} {a : α} (ha : as[i]? = some a) :
    ∃ b, bs[i]? = some b ∧ R a b := by
  induction h generalizing i with
  | nil => cases ha
  | cons hab _ ih =>
    cases i with
    | zero =>
      cases ha
      exact ⟨_, rfl, hab⟩
    | succ i => exact ih ha

/-! ## Content parts -/

/-- The address an `image_url` gives: a bare text, or the text in `url`. -/
inductive ImageGives : Json → String → Prop
  | text (text : String) : ImageGives (.str text) (JsString.trim text)
  | object {image : Json} {text : String} (sent : image.strField "url" = some text) :
      ImageGives image (JsString.trim text)

/-- What a content part gives, by its type. -/
inductive PartGives : Json → ContentPart → Prop
  | text {part : Json} {text : String} (type : part.strField "type" = some "text")
      (sent : part.strField "text" = some text) : PartGives part (.text text)
  | image {part image : Json} {url : String} (type : part.strField "type" = some "image_url")
      (sent : part.field "image_url" = some image) (address : ImageGives image url) :
      PartGives part (.image url)

/-- A text that is not blank is read as it is trimmed. -/
theorem trim_of_nonempty {sent : Option String} {url : String}
    (h : (sent.map JsString.trim).bind nonempty = some url) :
    ∃ text, sent = some text ∧ url = JsString.trim text := by
  cases sent with
  | none => cases h
  | some text =>
    refine ⟨text, rfl, ?_⟩
    dsimp only [Option.map_some, Option.bind_some, nonempty] at h
    split at h
    · cases h
    · exact (Option.some.inj h).symm

/-- The address read of a part is the one its `image_url` gives. -/
theorem parseImageUrl_gives {place : String} {part : Json} {url : String}
    (h : parseImageUrl place part = .ok url) :
    ∃ image, part.field "image_url" = some image ∧ ImageGives image url := by
  unfold parseImageUrl at h
  extract_lets sent at h
  split at h
  · cases h
  next url' hurl' =>
    -- past the emptiness check the address is only tested
    have hurl : url' = url := by
      split at h
      · split at h
        · cases h
        · exact Except.ok.inj h
      · split at h
        · exact Except.ok.inj h
        · cases h
    subst hurl
    obtain ⟨text, hsent, rfl⟩ := trim_of_nonempty hurl'
    dsimp only [sent] at hsent
    split at hsent
    next himage =>
      cases hsent
      exact ⟨_, himage, .text text⟩
    next image _ himage => exact ⟨image, himage, .object hsent⟩
    next => cases hsent

/-- A part that is accepted gives what was read of it. -/
theorem parsePart_gives {place : String} {part : Json} {piece : ContentPart}
    (h : parsePart place part = .ok piece) : PartGives part piece := by
  unfold parsePart at h
  dsimp only at h
  split at h
  · cases h
  -- the type is compared after a missing one is read as empty
  have htype : ∀ name, name ≠ "" → (part.strField "type").getD "" = name →
      part.strField "type" = some name := by
    intro name hname hget
    cases hfield : part.strField "type" with
    | none =>
      rw [hfield] at hget
      exact absurd hget.symm hname
    | some type =>
      rw [hfield] at hget
      exact congrArg some hget
  split at h
  next htext =>
    cases hfield : part.strField "text" with
    | none =>
      rw [hfield] at h
      cases h
    | some text =>
      rw [hfield] at h
      cases h
      exact .text (htype _ (by decide) htext) hfield
  next =>
    split at h
    next himage =>
      cases hurl : parseImageUrl place part with
      | error message =>
        rw [hurl] at h
        cases h
      | ok url =>
        rw [hurl] at h
        cases h
        obtain ⟨image, hsent, haddress⟩ := parseImageUrl_gives hurl
        exact .image (htype _ (by decide) himage) hsent haddress
    next => cases h

/-- The parts of a content give their pieces in order. -/
theorem parseParts_gives {i j : Nat} {items : List Json} {parts : List ContentPart}
    (h : parseParts i j items = .ok parts) : List.Forall₂ PartGives items parts := by
  induction items generalizing j parts with
  | nil =>
    cases h
    exact .nil
  | cons item items ih =>
    obtain ⟨first, hfirst, h⟩ := bind_ok h
    obtain ⟨rest, hrest, h⟩ := bind_ok h
    cases h
    exact .cons (parsePart_gives hfirst) (ih hrest)

/-! ## Messages -/

/-- The text and the images a content gives: a text as it is, or the texts of the parts on
    lines of their own and the addresses of their images, both in the parts' order. -/
inductive ContentGives : Json → String → List String → Prop
  | text (text : String) : ContentGives (.str text) text []
  | parts {items : List Json} {parts : List ContentPart} (gives : List.Forall₂ PartGives items parts) :
      ContentGives (.arr items) (String.intercalate "\n" (partTexts parts)) (partImages parts)

/-- What a message gives, and that it holds no other field. -/
structure TurnGives (turn : Json) (parsed : ChatTurnInput) : Prop where
  known : ∀ name ∈ turn.names, name = "role" ∨ name = "content"
  role : ∃ role, turn.field "role" = some (.str role) ∧ parseRole role = some parsed.role
  content : ∃ content, turn.field "content" = some content ∧
    ContentGives content parsed.content parsed.images

/-- Content that is accepted gives its text and its images. -/
theorem parseContent_gives {i : Nat} {content : Option Json} {text : String} {images : List String}
    (h : parseContent i content = .ok (text, images)) :
    ∃ value, content = some value ∧ ContentGives value text images := by
  unfold parseContent at h
  split at h
  next =>
    cases h
    exact ⟨_, rfl, .text text⟩
  -- parts: what they give together is checked not to be empty
  next items =>
    obtain ⟨parts, hparts, h⟩ := bind_ok h
    dsimp only at h
    split at h
    · cases h
    · cases h
      exact ⟨_, rfl, .parts (parseParts_gives hparts)⟩
  next => cases h

/-- A message that is accepted gives the turn that was read of it. -/
theorem parseTurn_gives {i : Nat} {turn : Json} {parsed : ChatTurnInput}
    (h : parseTurn i turn = .ok parsed) : TurnGives turn parsed := by
  unfold parseTurn at h
  dsimp only at h
  split at h
  next fields =>
    split at h
    · cases h
    next hknown =>
      split at h
      · cases h
      next role hrole =>
        obtain ⟨⟨text, images⟩, hcontent, h⟩ := bind_ok h
        dsimp only at h
        split at h
        · cases h
        split at h
        · cases h
        cases h
        obtain ⟨sent, hsent, hrole⟩ := Option.bind_eq_some_iff.mp hrole
        refine ⟨?_, ⟨sent, strField_eq_some.mp hsent, hrole⟩, parseContent_gives hcontent⟩
        -- no unknown field was found, so every name is `role` or `content`
        intro name hmem
        obtain ⟨field, hfield, rfl⟩ := List.mem_map.mp hmem
        have hname := List.find?_eq_none.mp hknown field hfield
        simp only [decide_eq_true_eq] at hname
        by_contra hother
        exact hname (not_or.mp hother)
  next => cases h

/-- Every accepted turn is given by the one at its place. -/
theorem parseTurns_gives {i : Nat} {turns : List Json} {parsed : List ChatTurnInput}
    (h : parseTurns i turns = .ok parsed) : List.Forall₂ TurnGives turns parsed := by
  induction turns generalizing i parsed with
  | nil =>
    cases h
    exact .nil
  | cons turn turns ih =>
    obtain ⟨first, hfirst, h⟩ := bind_ok h
    obtain ⟨rest, hrest, h⟩ := bind_ok h
    cases h
    exact .cons (parseTurn_gives hfirst) (ih hrest)

/-- And so are the messages of an accepted body. -/
theorem parseMessages_gives {raw : Json} {messages : List ChatTurnInput}
    (h : parseMessages raw = .ok messages) :
    ∃ turns, raw.field "messages" = some (.arr turns) ∧ List.Forall₂ TurnGives turns messages := by
  unfold parseMessages at h
  split at h
  next turn turns hfield =>
    split at h
    · cases h
    · exact ⟨turn :: turns, hfield, parseTurns_gives h⟩
  next => cases h

/-! ## The body -/

/-- What a request holds of a field of its body. -/
inductive FieldGives (req : ValidChatRequest) : String → Json → Prop
  | model {text : String} (held : req.model = JsString.trim text) : FieldGives req "model" (.str text)
  | messages {turns : List Json} (held : List.Forall₂ TurnGives turns req.messages) :
      FieldGives req "messages" (.arr turns)
  | maxTokens {n : Int} (held : req.maxTokens = some n) : FieldGives req "max_tokens" (.num n)
  | temperature {t : Rat} (held : req.temperature = some t) : FieldGives req "temperature" (.num t)
  | topP {p : Rat} (held : req.topP = some p) : FieldGives req "top_p" (.num p)
  | stream {stream : Bool} (held : req.stream = stream) : FieldGives req "stream" (.bool stream)
  | image {text mime : String} {bytes : List UInt8}
      (decoded : parseImageDataUrl (JsString.trim text) = .ok (bytes, mime))
      (held : req.imageDataUrl = some (JsString.trim text) ∧ req.imageBytes = some bytes) :
      FieldGives req "image" (.str text)

/-- The messages of the request are given turn by turn. -/
theorem FieldGives.turns {req : ValidChatRequest} {value : Json}
    (h : FieldGives req "messages" value) :
    ∃ turns, value = .arr turns ∧ List.Forall₂ TurnGives turns req.messages := by
  generalize hname : "messages" = name at h
  cases h with
  | messages held => exact ⟨_, rfl, held⟩
  | _ => exact absurd hname (by decide)

/-- A field of the body holds an atom, unless it holds the messages. -/
theorem FieldGives.isAtom {req : ValidChatRequest} {name : String} {value : Json}
    (h : FieldGives req name value) (hname : name ≠ "messages") : value.isAtom = true := by
  cases h with
  | messages held => exact absurd rfl hname
  | _ => rfl

/-- What a body gives, and that it holds no other field. -/
structure BodyGives (body : Json) (req : ValidChatRequest) : Prop where
  object : ∃ fields, body = .obj fields
  known : ∀ name ∈ body.names, name ∈ ALLOWED_FIELDS
  fields : ∀ name value, body.field name = some value → FieldGives req name value

/-- A limit that is accepted is the number sent. -/
theorem parseMaxTokens_gives {raw value : Json} {parsed : Option Int}
    (h : parseMaxTokens raw = .ok parsed) (hvalue : raw.field "max_tokens" = some value) :
    ∃ n : Int, value = .num n ∧ parsed = some n := by
  unfold parseMaxTokens at h
  rw [hvalue] at h
  dsimp only at h
  split at h
  next n hn =>
    cases h
    have hinteger := (Option.filter_eq_some_iff.mp hn).1
    unfold Json.integer at hinteger
    split at hinteger
    next q hq =>
      obtain rfl := Option.some.inj hq
      split at hinteger
      -- a rational is an integer where its denominator is one
      next hden =>
        obtain rfl := Option.some.inj hinteger
        exact ⟨q.num, congrArg Json.num (Rat.den_eq_one_iff q |>.mp hden).symm, rfl⟩
      next => cases hinteger
    next => cases hinteger
  next => cases h

/-- So is a sampling value. -/
theorem parseSampling_gives {raw value : Json} {name range : String} {inRange : Rat → Bool}
    {parsed : Option Rat} (h : parseSampling raw name range inRange = .ok parsed)
    (hvalue : raw.field name = some value) : ∃ q, value = .num q ∧ parsed = some q := by
  unfold parseSampling at h
  rw [hvalue] at h
  cases value with
  -- a number out of range is refused, and one in range is kept
  | num q =>
    dsimp only at h
    split at h
    · cases h
      exact ⟨q, rfl, rfl⟩
    · cases h
  | _ => cases h

/-- A stream flag that is accepted is the one sent. -/
theorem parseStream_gives {raw value : Json} {parsed : Bool} (h : parseStream raw = .ok parsed)
    (hvalue : raw.field "stream" = some value) : value = .bool parsed := by
  unfold parseStream at h
  rw [hvalue] at h
  cases value with
  | bool stream =>
    cases h
    rfl
  | _ => cases h

/-- An image that is accepted is the data url sent, trimmed, and its bytes. -/
theorem parseImage_gives {raw value : Json} {parsed : Option (String × List UInt8)}
    (h : parseImage raw = .ok parsed) (hvalue : raw.field "image" = some value) :
    ∃ text mime bytes, value = .str text ∧
      parseImageDataUrl (JsString.trim text) = .ok (bytes, mime) ∧
      parsed = some (JsString.trim text, bytes) := by
  unfold parseImage at h
  rw [hvalue] at h
  dsimp only at h
  split at h
  · cases h
  next image himage =>
    -- the field holds a text, which is taken trimmed
    obtain ⟨text, htext, rfl⟩ := trim_of_nonempty himage
    rw [strField_eq_some, hvalue] at htext
    cases hdecoded : parseImageDataUrl (JsString.trim text) with
    | error message =>
      rw [hdecoded] at h
      cases h
    | ok decoded =>
      obtain ⟨bytes, mime⟩ := decoded
      rw [hdecoded] at h
      cases h
      exact ⟨text, mime, bytes, Option.some.inj htext, hdecoded, rfl⟩

/-- The request holds each field of an accepted body. -/
theorem parseChatRequest_gives {body : Json} {req : ValidChatRequest}
    (h : parseChatRequest body = .ok req) : BodyGives body req := by
  unfold parseChatRequest at h
  split at h
  next fields =>
    split at h
    · cases h
    next hknown =>
      split at h
      · cases h
      next model hmodel =>
        obtain ⟨messages, hmessages, h⟩ := bind_ok h
        obtain ⟨maxTokens, hmaxTokens, h⟩ := bind_ok h
        obtain ⟨temperature, htemperature, h⟩ := bind_ok h
        obtain ⟨topP, htopP, h⟩ := bind_ok h
        obtain ⟨stream, hstream, h⟩ := bind_ok h
        obtain ⟨image, himage, h⟩ := bind_ok h
        cases h
        -- the first check of the parser: no unknown field
        have hallowed : ∀ name ∈ (Json.obj fields).names, name ∈ ALLOWED_FIELDS := by
          intro name hmem
          obtain ⟨field, hfield, rfl⟩ := List.mem_map.mp hmem
          simpa using List.find?_eq_none.mp hknown field hfield
        refine ⟨⟨fields, rfl⟩, hallowed, ?_⟩
        intro name value hvalue
        have hname := hallowed name (Json.mem_names_of_field hvalue)
        simp only [ALLOWED_FIELDS, List.mem_cons, List.not_mem_nil, or_false] at hname
        -- each allowed field is read by its own check
        rcases hname with rfl | rfl | rfl | rfl | rfl | rfl | rfl
        · obtain ⟨text, htext, rfl⟩ := trim_of_nonempty hmodel
          rw [strField_eq_some, hvalue] at htext
          obtain rfl := Option.some.inj htext
          exact .model rfl
        · obtain ⟨turns, hturns, hgives⟩ := parseMessages_gives hmessages
          rw [hvalue] at hturns
          obtain rfl := Option.some.inj hturns
          exact .messages hgives
        · obtain ⟨n, rfl, rfl⟩ := parseMaxTokens_gives hmaxTokens hvalue
          exact .maxTokens rfl
        · obtain ⟨t, rfl, rfl⟩ := parseSampling_gives htemperature hvalue
          exact .temperature rfl
        · obtain ⟨p, rfl, rfl⟩ := parseSampling_gives htopP hvalue
          exact .topP rfl
        · rw [parseStream_gives hstream hvalue]
          exact .stream rfl
        · obtain ⟨text, mime, bytes, rfl, hdecoded, rfl⟩ := parseImage_gives himage hvalue
          exact .image hdecoded ⟨rfl, rfl⟩
  next => cases h

/-! ## What is carried forward -/

/-- Content part `j` of message `i` is read as a piece of the turn. The turn's text is that
    of all its pieces, each on a line of its own, and its images are theirs. -/
inductive PieceAt (body : Json) (req : ValidChatRequest) (i j : Nat) (piece : ContentPart) : Prop
  | intro {turn : ChatTurnInput} {items : List Json} {parts : List ContentPart}
      (read : req.messages[i]? = some turn)
      (sent : body.at? (turnPath i ++ [.field "content"]) = some (.arr items))
      (gives : List.Forall₂ PartGives items parts)
      (text : turn.content = String.intercalate "\n" (partTexts parts))
      (images : turn.images = partImages parts)
      (index : parts[j]? = some piece) : PieceAt body req i j piece

/-- What a piece holds of a field of its part, or of the part's `image_url`. -/
inductive PieceHolds : ContentPart → List JsonStep → String → Json → Prop
  | textType {text : String} : PieceHolds (.text text) [] "type" (.str "text")
  | text {text : String} : PieceHolds (.text text) [] "text" (.str text)
  | imageType {url : String} : PieceHolds (.image url) [] "type" (.str "image_url")
  | image {url : String} {image : Json} (address : ImageGives image url) :
      PieceHolds (.image url) [] "image_url" image
  | url {text : String} :
      PieceHolds (.image (JsString.trim text)) [.field "image_url"] "url" (.str text)

/-- The request carries a field of its body forward: it holds what the field says. -/
inductive CarriesForward (body : Json) (req : ValidChatRequest) : List JsonStep → String → Json → Prop
  | field {name : String} {value : Json} (held : FieldGives req name value) :
      CarriesForward body req [] name value
  | role {i : Nat} {turn : ChatTurnInput} {role : String} (read : req.messages[i]? = some turn)
      (held : parseRole role = some turn.role) : CarriesForward body req (turnPath i) "role" (.str role)
  | content {i : Nat} {turn : ChatTurnInput} {content : Json} (read : req.messages[i]? = some turn)
      (held : ContentGives content turn.content turn.images) :
      CarriesForward body req (turnPath i) "content" content
  | part {i j : Nat} {piece : ContentPart} {path : List JsonStep} {name : String} {value : Json}
      (read : PieceAt body req i j piece) (held : PieceHolds piece path name value) :
      CarriesForward body req (partPath i j ++ path) name value

/-! ## By index -/

/-- A part is reached through its turn's content. -/
theorem at?_partPath_eq (body : Json) (i j : Nat) : body.at? (partPath i j) =
    (body.at? (turnPath i ++ [.field "content"])).bind fun content => content.item j := by
  have hsplit : partPath i j = (turnPath i ++ [.field "content"]) ++ [.item j] := rfl
  rw [hsplit, Json.at?_append]
  apply congrArg
  funext content
  cases hitem : content.item j with
  | none => simp only [Json.at?, hitem, Option.bind_none]
  | some part => simp only [Json.at?, hitem, Option.bind_some]

/-- What a part gives is the piece it is read as. -/
theorem PieceAt.gives {body part : Json} {req : ValidChatRequest} {i j : Nat} {piece : ContentPart}
    (h : PieceAt body req i j piece) (hpart : body.at? (partPath i j) = some part) :
    PartGives part piece := by
  obtain ⟨-, hsent, hgives, -, -, hindex⟩ := h
  rw [at?_partPath_eq, hsent] at hpart
  obtain ⟨piece', hpiece, hpart⟩ := forall₂_getElem? hgives hpart
  rw [hindex] at hpiece
  obtain rfl := Option.some.inj hpiece
  exact hpart

namespace BodyGives

variable {body : Json} {req : ValidChatRequest}

/-- A message of an accepted body, and the turn of the request it is read as. -/
theorem turn (h : BodyGives body req) {i : Nat} {turn : Json} (hat : body.at? (turnPath i) = some turn) :
    ∃ parsed, req.messages[i]? = some parsed ∧ TurnGives turn parsed := by
  obtain ⟨messages, hmessages, hat⟩ := Option.bind_eq_some_iff.mp hat
  obtain ⟨turn', hturn, hat⟩ := Option.bind_eq_some_iff.mp hat
  obtain rfl := Option.some.inj hat
  obtain ⟨turns, rfl, held⟩ := (h.fields _ _ hmessages).turns
  exact forall₂_getElem? held hturn

/-- A content part of an accepted body, and the piece of the turn it is read as. -/
theorem part (h : BodyGives body req) {i j : Nat} {part : Json}
    (hat : body.at? (partPath i j) = some part) :
    ∃ piece, PieceAt body req i j piece := by
  rw [at?_partPath_eq] at hat
  obtain ⟨content, hcontent, hitem⟩ := Option.bind_eq_some_iff.mp hat
  have hsplit := hcontent
  rw [Json.at?_append] at hsplit
  obtain ⟨turn, hturn, hstep⟩ := Option.bind_eq_some_iff.mp hsplit
  -- the part lies in the content of its turn
  obtain ⟨content', hfield, hcontent'⟩ := Option.bind_eq_some_iff.mp hstep
  obtain rfl := Option.some.inj hcontent'
  obtain ⟨parsed, hparsed, hgives⟩ := h.turn hturn
  obtain ⟨content', hsent, hcontentGives⟩ := hgives.content
  rw [hfield] at hsent
  obtain rfl := Option.some.inj hsent
  generalize htext : parsed.content = text at hcontentGives
  generalize himages : parsed.images = images at hcontentGives
  cases hcontentGives with
  -- a text has no items
  | text text => cases hitem
  | parts gives =>
    obtain ⟨piece, hpiece, -⟩ := forall₂_getElem? gives hitem
    exact ⟨piece, .intro hparsed hcontent gives htext himages hpiece⟩

end BodyGives

end ControlPlane
