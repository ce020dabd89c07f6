import ControlPlane.Spec.CarriedFields

/-!
# Fields that are dropped

A field of a body is dropped when the body is accepted all the same, whatever the field
says. The validator refuses unknown fields of a body and of its messages. It reads the
fields it knows of a content part and of an `image_url` object and looks at no other: what
else is in them is dropped.

## Key results

- `parseChatRequest_modifyPart`: a part that reads the same leaves the request as it is
- `carried_or_dropped`: each field of an accepted body is carried forward or dropped
- `CarriesForward.not_dropped`: no field is both
- `fields_carried_iff`: exactly when each field of an accepted body is carried forward
-/

namespace ControlPlane

/-! ## Changing a value -/

namespace Json

/-- Change what a field holds. -/
def mapField (name : String) (f : Json → Json) : Json → Json
  | .obj fields => .obj (fields.map fun field => if field.1 = name then (field.1, f field.2) else field)
  | json => json

/-- Changing one item of an array. -/
def mapItem (i : Nat) (f : Json → Json) : Json → Json
  | .arr items => .arr (items.modify i f)
  | json => json

/-- Change what stands at the end of some steps. -/
def modify (f : Json → Json) : List JsonStep → Json → Json
  | [] => f
  | .field name :: path => mapField name (modify f path)
  | .item i :: path => mapItem i (modify f path)

/-- Let a field say something else. -/
def setField (name : String) (value : Json) : Json → Json := mapField name fun _ => value

/-- Changing the values under one name is seen under that name only. -/
theorem lookup_mapValues (fields : List (String × Json)) (name other : String) (f : Json → Json) :
    (fields.map fun field => if field.1 = name then (field.1, f field.2) else field).lookup other =
      if other = name then (fields.lookup name).map f else fields.lookup other := by
  induction fields with
  | nil => split <;> rfl
  | cons field fields ih =>
    obtain ⟨key, value⟩ := field
    rw [List.map_cons, List.lookup_cons]
    -- the name is the first field's, or one behind it
    by_cases hkey : key = name
    · rw [if_pos hkey, List.lookup_cons, List.lookup_cons, ih, hkey]
      by_cases hother : other = name
      · simp [hother]
      · simp [hother, beq_eq_false_iff_ne.mpr hother]
    · rw [if_neg hkey, List.lookup_cons, List.lookup_cons, ih]
      by_cases hother : other = name
      · have hne : (name == key) = false := beq_eq_false_iff_ne.mpr (Ne.symm hkey)
        simp [hother, hne]
      · simp [hother]

/-- A changed field, and every other one. -/
theorem field_mapField (json : Json) (name other : String) (f : Json → Json) :
    (json.mapField name f).field other =
      if other = name then (json.field name).map f else json.field other := by
  cases json with
  | obj fields => exact lookup_mapValues fields name other f
  | _ => simp [mapField, field]

/-- The changed field itself. -/
theorem field_mapField_self (json : Json) (name : String) (f : Json → Json) :
    (json.mapField name f).field name = (json.field name).map f := by
  rw [field_mapField, if_pos rfl]

/-- The other fields stay. -/
theorem field_mapField_of_ne {name other : String} (h : other ≠ name) (json : Json) (f : Json → Json) :
    (json.mapField name f).field other = json.field other := by
  rw [field_mapField, if_neg h]

/-- A change behind a path is a change of the value the path leads to. -/
theorem modify_append (f : Json → Json) (path more : List JsonStep) :
    modify f (path ++ more) = modify (modify f more) path := by
  induction path with
  | nil => rfl
  | cons step path ih => cases step <;> rw [List.cons_append, modify, modify, ih]

/-- What is changed stands where it stood. -/
theorem at?_modify (json : Json) (f : Json → Json) (path : List JsonStep) :
    (json.modify f path).at? path = (json.at? path).map f := by
  induction path generalizing json with
  | nil => rfl
  | cons step path ih =>
    cases step with
    | field name =>
      rw [modify, at?, at?, field_mapField_self]
      cases json.field name with
      | none => rfl
      | some value => exact ih value
    | item i =>
      -- only an array has items
      cases json with
      | arr items =>
        rw [modify, mapItem, at?, at?, item, item, List.getElem?_modify_eq]
        cases items[i]? with
        | none => rfl
        | some value => exact ih value
      | _ => rfl

end Json

/-! ## What the validator does not read -/

/-- Changing a field leaves an object an object. -/
@[simp] theorem isObject_mapField (json : Json) (name : String) (f : Json → Json) :
    (json.mapField name f).isObject = json.isObject := by
  cases json <;> rfl

/-- The other texts stay. -/
theorem strField_mapField_of_ne {name other : String} (h : other ≠ name) (json : Json)
    (f : Json → Json) : (json.mapField name f).strField other = json.strField other := by
  unfold Json.strField
  rw [Json.field_mapField_of_ne h]

/-- The checks on the names of an object do not see what its fields hold. -/
theorem find?_mapValues (fields : List (String × Json)) (name : String) (f : Json → Json)
    (p : String → Bool) :
    ((fields.map fun field => if field.1 = name then (field.1, f field.2) else field).find?
      fun field => p field.1).map (·.1) = (fields.find? fun field => p field.1).map (·.1) := by
  induction fields with
  | nil => rfl
  | cons field fields ih =>
    have hkey : (if field.1 = name then (field.1, f field.2) else field).1 = field.1 := by
      split <;> rfl
    rw [List.map_cons, List.find?_cons, List.find?_cons, hkey]
    cases p field.1 with
    | true => exact congrArg some hkey
    | false => exact ih

/-- A part is read by its type, and then by one field. -/
theorem parsePart_congr {part part' : Json} (hobject : part'.isObject = part.isObject)
    (htype : part'.strField "type" = part.strField "type")
    (htext : part.strField "type" = some "text" → part'.strField "text" = part.strField "text")
    (himage : part.strField "type" = some "image_url" →
      ∀ place, parseImageUrl place part' = parseImageUrl place part) (place : String) :
    parsePart place part' = parsePart place part := by
  unfold parsePart
  rw [hobject, htype]
  cases htype' : part.strField "type" with
  | none => rfl
  | some type =>
    rw [htype'] at htext himage
    dsimp only [Option.getD_some]
    by_cases hisText : type = "text"
    · rw [if_pos hisText, if_pos hisText, htext (congrArg some hisText)]
    · rw [if_neg hisText, if_neg hisText]
      by_cases hisImage : type = "image_url"
      · rw [if_pos hisImage, if_pos hisImage, himage (congrArg some hisImage)]
      · rw [if_neg hisImage, if_neg hisImage]

/-- An image part is read through its `image_url` only. -/
theorem parseImageUrl_congr {part part' : Json}
    (h : part'.field "image_url" = part.field "image_url") (place : String) :
    parseImageUrl place part' = parseImageUrl place part := by
  unfold parseImageUrl
  rw [h]

/-- An object that holds an address is read by its address. -/
theorem parseImageUrl_mapField {part image : Json} (himage : part.field "image_url" = some image)
    {name : String} (hname : name ≠ "url") (f : Json → Json) (place : String) :
    parseImageUrl place (part.mapField "image_url" (Json.mapField name f)) =
      parseImageUrl place part := by
  have hset : (part.mapField "image_url" (Json.mapField name f)).field "image_url" =
      some (Json.mapField name f image) := by
    rw [Json.field_mapField_self, himage]
    rfl
  unfold parseImageUrl
  rw [hset, himage]
  cases image with
  | obj fields =>
    have hurl : (Json.mapField name f (.obj fields)).strField "url" =
        (Json.obj fields).strField "url" := strField_mapField_of_ne hname.symm _ _
    dsimp only [Json.mapField] at hurl ⊢
    rw [hurl]
  | _ => rfl

section modify

variable {f : Json → Json}

/-- A change the part's reading does not see is not seen of the parts. -/
theorem parseParts_modify {parts : List Json} {k : Nat}
    (h : ∀ part, parts[k]? = some part → ∀ place, parsePart place (f part) = parsePart place part)
    (i j : Nat) : parseParts i j (parts.modify k f) = parseParts i j parts := by
  induction parts generalizing k j with
  | nil => rw [List.modify_nil]
  | cons part parts ih =>
    cases k with
    | zero =>
      rw [List.modify_zero_cons, parseParts, parseParts, h part rfl]
    | succ k =>
      rw [List.modify_succ_cons, parseParts, parseParts, ih h]

/-- A change a turn's reading does not see is not seen of the turns. -/
theorem parseTurns_modify {turns : List Json} {k : Nat}
    (h : ∀ turn, turns[k]? = some turn → ∀ i, parseTurn i (f turn) = parseTurn i turn) (i : Nat) :
    parseTurns i (turns.modify k f) = parseTurns i turns := by
  induction turns generalizing k i with
  | nil => rw [List.modify_nil]
  | cons turn turns ih =>
    cases k with
    | zero => rw [List.modify_zero_cons, parseTurns, parseTurns, h turn rfl]
    | succ k => rw [List.modify_succ_cons, parseTurns, parseTurns, ih h]

/-- A change the content's reading does not see is not seen of the turn. -/
theorem parseTurn_mapContent {turn : Json}
    (h : ∀ content, turn.field "content" = some content →
      ∀ i, parseContent i (some (f content)) = parseContent i (some content)) (i : Nat) :
    parseTurn i (turn.mapField "content" f) = parseTurn i turn := by
  cases turn with
  | obj fields =>
    have hrole : ((Json.obj fields).mapField "content" f).strField "role" =
        (Json.obj fields).strField "role" := strField_mapField_of_ne (by decide) _ _
    have hcontent : parseContent i (((Json.obj fields).mapField "content" f).field "content") =
        parseContent i ((Json.obj fields).field "content") := by
      rw [Json.field_mapField_self]
      cases hfield : (Json.obj fields).field "content" with
      | none => rfl
      | some content => exact h content hfield i
    -- the unknown field that refuses a turn is found at the same place
    have hfind := find?_mapValues fields "content" f
      fun name => decide (name ≠ "role" ∧ name ≠ "content")
    unfold parseTurn
    dsimp only [Json.mapField] at hrole hcontent ⊢
    rw [hrole, hcontent]
    cases hold : fields.find? fun field => decide (field.1 ≠ "role" ∧ field.1 ≠ "content") with
    | none =>
      rw [hold] at hfind
      rw [Option.map_eq_none_iff.mp hfind]
    | some field =>
      rw [hold] at hfind
      obtain ⟨field', hnew, hkey⟩ := Option.map_eq_some_iff.mp hfind
      rw [hnew]
      dsimp only
      rw [hkey]
  | _ => rfl

/-- The messages of a body, where there are some. -/
theorem parseMessages_arr {raw : Json} {turns : List Json}
    (h : raw.field "messages" = some (.arr turns)) : parseMessages raw =
      if turns = [] then .error "\"messages\" is required and must be a non-empty array."
      else if MAX_MESSAGES < turns.length then
        .error ("\"messages\" has " ++ toString turns.length ++ " entries; the cap is " ++
          toString MAX_MESSAGES ++ ".")
      else parseTurns 0 turns := by
  unfold parseMessages
  rw [h]
  cases turns <;> rfl

/-- A change one turn's reading does not see is not seen of the messages. -/
theorem parseMessages_mapItem {raw : Json} {turns : List Json} {k : Nat}
    (hturns : raw.field "messages" = some (.arr turns))
    (h : ∀ turn, turns[k]? = some turn → ∀ i, parseTurn i (f turn) = parseTurn i turn) :
    parseMessages (raw.mapField "messages" (Json.mapItem k f)) = parseMessages raw := by
  have hmapped : (raw.mapField "messages" (Json.mapItem k f)).field "messages" =
      some (.arr (turns.modify k f)) := by
    rw [Json.field_mapField_self, hturns]
    rfl
  have hnil : turns.modify k f = [] ↔ turns = [] := by
    rw [← List.length_eq_zero_iff, List.length_modify, List.length_eq_zero_iff]
  rw [parseMessages_arr hturns, parseMessages_arr hmapped, List.length_modify,
    parseTurns_modify h]
  simp only [hnil]

/-- A body is read field by field. -/
theorem parseChatRequest_mapMessages {body : Json}
    (h : parseMessages (body.mapField "messages" f) = parseMessages body) :
    parseChatRequest (body.mapField "messages" f) = parseChatRequest body := by
  cases body with
  | obj fields =>
    -- every other check reads a field that is as it was
    have hother (name : String) (hname : name ≠ "messages") :
        ((Json.obj fields).mapField "messages" f).field name = (Json.obj fields).field name :=
      Json.field_mapField_of_ne hname _ _
    have hmodel : ((Json.obj fields).mapField "messages" f).strField "model" =
        (Json.obj fields).strField "model" := strField_mapField_of_ne (by decide) _ _
    have hmaxTokens : parseMaxTokens ((Json.obj fields).mapField "messages" f) =
        parseMaxTokens (.obj fields) := by
      unfold parseMaxTokens
      rw [hother _ (by decide)]
    have hsampling (name range : String) (inRange : Rat → Bool) (hname : name ≠ "messages") :
        parseSampling ((Json.obj fields).mapField "messages" f) name range inRange =
          parseSampling (.obj fields) name range inRange := by
      unfold parseSampling
      rw [hother _ hname]
    have hstream : parseStream ((Json.obj fields).mapField "messages" f) =
        parseStream (.obj fields) := by
      unfold parseStream
      rw [hother _ (by decide)]
    have himage : parseImage ((Json.obj fields).mapField "messages" f) =
        parseImage (.obj fields) := by
      unfold parseImage Json.strField
      rw [hother _ (by decide)]
    have hfind := find?_mapValues fields "messages" f fun name => !ALLOWED_FIELDS.contains name
    unfold parseChatRequest
    dsimp only [Json.mapField] at h hmodel hmaxTokens hsampling hstream himage ⊢
    rw [hmodel, h, hmaxTokens, hsampling _ _ _ (by decide), hsampling _ _ _ (by decide), hstream,
      himage]
    cases hold : fields.find? fun field => !ALLOWED_FIELDS.contains field.1 with
    | none =>
      rw [hold] at hfind
      rw [Option.map_eq_none_iff.mp hfind]
    | some field =>
      rw [hold] at hfind
      obtain ⟨field', hnew, hkey⟩ := Option.map_eq_some_iff.mp hfind
      rw [hnew]
      dsimp only
      rw [hkey]
  | _ => rfl

/-- A part of a body, and what it stands in. -/
theorem at?_partPath {body part : Json} {i j : Nat} (h : body.at? (partPath i j) = some part) :
    ∃ turns turn items, body.field "messages" = some (.arr turns) ∧ turns[i]? = some turn ∧
      turn.field "content" = some (.arr items) ∧ items[j]? = some part := by
  obtain ⟨messages, hmessages, h⟩ := Option.bind_eq_some_iff.mp h
  obtain ⟨turn, hturn, h⟩ := Option.bind_eq_some_iff.mp h
  obtain ⟨content, hcontent, h⟩ := Option.bind_eq_some_iff.mp h
  obtain ⟨part', hpart, h⟩ := Option.bind_eq_some_iff.mp h
  obtain rfl := Option.some.inj h
  cases messages with
  | arr turns =>
    cases content with
    | arr items => exact ⟨turns, turn, items, hmessages, hturn, hcontent, hpart⟩
    | _ => cases hpart
  | _ => cases hturn

/-- A part that reads the same leaves the request as it is. -/
theorem parseChatRequest_modifyPart {body part : Json} {i j : Nat}
    (hpart : body.at? (partPath i j) = some part)
    (h : ∀ place, parsePart place (f part) = parsePart place part) :
    parseChatRequest (body.modify f (partPath i j)) = parseChatRequest body := by
  obtain ⟨turns, turn, items, hturns, hturn, hcontent, hitem⟩ := at?_partPath hpart
  -- only this turn, and of its content only this part is read anew
  apply parseChatRequest_mapMessages
  apply parseMessages_mapItem hturns
  intro turn' hturn' i'
  rw [hturn] at hturn'
  obtain rfl := Option.some.inj hturn'
  apply parseTurn_mapContent
  intro content hcontent' i''
  rw [hcontent] at hcontent'
  obtain rfl := Option.some.inj hcontent'
  have hparts : parseParts i'' 0 (items.modify j f) = parseParts i'' 0 items := by
    apply parseParts_modify
    intro part' hpart'
    rw [hitem] at hpart'
    obtain rfl := Option.some.inj hpart'
    exact h
  show parseContent i'' (some (.arr (items.modify j f))) = _
  unfold parseContent
  dsimp only
  rw [hparts]

end modify

/-! ## Dropped fields -/

/-- A field that the request does not depend on, whatever it says. -/
structure Dropped (body : Json) (path : List JsonStep) (name : String) : Prop where
  present : ∃ value, body.fieldAt path name = some value
  ignored : ∀ value,
    parseChatRequest (body.modify (Json.setField name value) path) = parseChatRequest body

/-- A part with no field beside those that are read of its type. -/
structure PlainPart (part : Json) : Prop where
  text : part.strField "type" = some "text" → ∀ name ∈ part.names, name = "type" ∨ name = "text"
  image : part.strField "type" = some "image_url" →
    ∀ name ∈ part.names, name = "type" ∨ name = "image_url"
  imageUrl : part.strField "type" = some "image_url" →
    ∀ image, part.field "image_url" = some image → ∀ name ∈ image.names, name = "url"

/-- Every content part of a body is plain. -/
def PlainParts (body : Json) : Prop :=
  ∀ i j part, body.at? (partPath i j) = some part → PlainPart part

/-- What the request does not depend on at a place, it does not depend on below it. -/
theorem dropped_of_ignored {body sub value : Json} {path below : List JsonStep} {key name : String}
    (hignored : ∀ f, parseChatRequest (body.modify (Json.mapField key f) path) = parseChatRequest body)
    (hfirst : Json.FirstField key sub below name value)
    (hfield : body.fieldAt (path ++ below) name = some value) : Dropped body (path ++ below) name := by
  refine ⟨⟨value, hfield⟩, fun value => ?_⟩
  rw [Json.modify_append]
  cases hfirst with
  | here => exact hignored fun _ => value
  | below => exact hignored _

section parts

variable {body part : Json} {i j : Nat} (hpart : body.at? (partPath i j) = some part)

include hpart

/-- A field that is not read of a text part. -/
theorem ignored_text (htype : part.strField "type" = some "text") {name : String}
    (hother : ¬ (name = "type" ∨ name = "text")) (f : Json → Json) :
    parseChatRequest (body.modify (Json.mapField name f) (partPath i j)) = parseChatRequest body := by
  rw [not_or] at hother
  refine parseChatRequest_modifyPart hpart fun place => ?_
  apply parsePart_congr
  · exact isObject_mapField ..
  · exact strField_mapField_of_ne (Ne.symm hother.1) ..
  · exact fun _ => strField_mapField_of_ne (Ne.symm hother.2) ..
  · intro himage
    rw [htype] at himage
    exact absurd himage (by decide)

/-- A field that is not read of an image part. -/
theorem ignored_image (htype : part.strField "type" = some "image_url") {name : String}
    (hother : ¬ (name = "type" ∨ name = "image_url")) (f : Json → Json) :
    parseChatRequest (body.modify (Json.mapField name f) (partPath i j)) = parseChatRequest body := by
  rw [not_or] at hother
  refine parseChatRequest_modifyPart hpart fun place => ?_
  apply parsePart_congr
  · exact isObject_mapField ..
  · exact strField_mapField_of_ne (Ne.symm hother.1) ..
  · intro htext
    rw [htype] at htext
    exact absurd htext (by decide)
  · exact fun _ place => parseImageUrl_congr (Json.field_mapField_of_ne (Ne.symm hother.2) ..) place

/-- A field of an `image_url` object beside its address. -/
theorem ignored_imageUrl {image : Json} (htype : part.strField "type" = some "image_url")
    (himage : part.field "image_url" = some image) {name : String} (hother : name ≠ "url")
    (f : Json → Json) :
    parseChatRequest (body.modify (Json.mapField name f) (partPath i j ++ [.field "image_url"])) =
      parseChatRequest body := by
  rw [Json.modify_append]
  refine parseChatRequest_modifyPart hpart fun place => ?_
  apply parsePart_congr
  · exact isObject_mapField ..
  · exact strField_mapField_of_ne (by decide) ..
  · intro htext
    rw [htype] at htext
    exact absurd htext (by decide)
  · exact fun _ place => parseImageUrl_mapField himage hother f place

/-- A text part's other fields are dropped. -/
theorem dropped_text (htype : part.strField "type" = some "text") {name : String}
    (hname : name ∈ part.names) (hother : ¬ (name = "type" ∨ name = "text")) :
    Dropped body (partPath i j) name := by
  obtain ⟨value, hvalue⟩ := Json.field_of_mem_names hname
  refine ⟨⟨value, ?_⟩, fun value => ignored_text hpart htype hother _⟩
  rw [Json.fieldAt, hpart]
  exact hvalue

/-- An image part's other fields are dropped. -/
theorem dropped_image (htype : part.strField "type" = some "image_url") {name : String}
    (hname : name ∈ part.names) (hother : ¬ (name = "type" ∨ name = "image_url")) :
    Dropped body (partPath i j) name := by
  obtain ⟨value, hvalue⟩ := Json.field_of_mem_names hname
  refine ⟨⟨value, ?_⟩, fun value => ignored_image hpart htype hother _⟩
  rw [Json.fieldAt, hpart]
  exact hvalue

/-- So are the other fields of its `image_url`. -/
theorem dropped_imageUrl {image : Json} (htype : part.strField "type" = some "image_url")
    (himage : part.field "image_url" = some image) {name : String} (hname : name ∈ image.names)
    (hother : name ≠ "url") : Dropped body (partPath i j ++ [.field "image_url"]) name := by
  obtain ⟨value, hvalue⟩ := Json.field_of_mem_names hname
  refine ⟨⟨value, ?_⟩, fun value => ignored_imageUrl hpart htype himage hother _⟩
  rw [Json.fieldAt, Json.at?_append, hpart, Option.bind_some, Json.at?, himage]
  exact hvalue

end parts

/-! ## Each field is carried forward or dropped -/

section walk

variable {body : Json} {req : ValidChatRequest} {i j : Nat} {part value : Json} {piece : ContentPart}
  {path : List JsonStep} {name : String}

/-- A field at or below the `image_url` of an image part. -/
theorem imageUrl_carried_or_dropped {image : Json} {url : String}
    (hread : PieceAt body req i j (.image url)) (hpart : body.at? (partPath i j) = some part)
    (htype : part.strField "type" = some "image_url") (himage : part.field "image_url" = some image)
    (haddress : ImageGives image url) (hfirst : Json.FirstField "image_url" image path name value)
    (hfield : body.fieldAt (partPath i j ++ path) name = some value) :
    CarriesForward body req (partPath i j ++ path) name value ∨
      Dropped body (partPath i j ++ path) name ∧ ¬ PlainParts body := by
  cases hfirst with
  -- `image_url` itself, and then what lies inside it
  | here => exact .inl (.part hread (.image haddress))
  | below hbelow =>
    cases haddress with
    | text text =>
      rw [Json.fieldAt_atom rfl] at hbelow
      cases hbelow
    | object sent =>
      rw [strField_eq_some] at sent
      obtain ⟨key, sub, hsub, hfirst⟩ :=
        Json.first_of_fieldAt (Json.item_eq_none_of_field sent) hbelow
      -- of an object only `url` is read
      by_cases hkey : key = "url"
      · subst hkey
        rw [sent] at hsub
        obtain rfl := Option.some.inj hsub
        obtain ⟨rfl, rfl, rfl⟩ := hfirst.atom rfl
        exact .inl (.part hread .url)
      · right
        constructor
        · rw [List.append_cons] at hfield ⊢
          exact dropped_of_ignored (ignored_imageUrl hpart htype himage hkey) hfirst hfield
        · intro hplain
          exact hkey ((hplain i j part hpart).imageUrl htype image himage key
            (Json.mem_names_of_field hsub))

/-- A field at or below a content part. -/
theorem part_carried_or_dropped (hread : PieceAt body req i j piece)
    (hpart : body.at? (partPath i j) = some part) (hbelow : part.fieldAt path name = some value)
    (hfield : body.fieldAt (partPath i j ++ path) name = some value) :
    CarriesForward body req (partPath i j ++ path) name value ∨
      Dropped body (partPath i j ++ path) name ∧ ¬ PlainParts body := by
  cases hread.gives hpart with
  -- of a text part `type` and `text` are read
  | text htype htext =>
    obtain ⟨key, sub, hsub, hfirst⟩ :=
      Json.first_of_fieldAt (Json.item_eq_none_of_field (strField_eq_some.mp htype)) hbelow
    by_cases hkey : key = "type" ∨ key = "text"
    · left
      rcases hkey with rfl | rfl
      · rw [strField_eq_some, hsub] at htype
        obtain rfl := Option.some.inj htype
        obtain ⟨rfl, rfl, rfl⟩ := hfirst.atom rfl
        exact .part hread .textType
      · rw [strField_eq_some, hsub] at htext
        obtain rfl := Option.some.inj htext
        obtain ⟨rfl, rfl, rfl⟩ := hfirst.atom rfl
        exact .part hread .text
    · right
      refine ⟨dropped_of_ignored (ignored_text hpart htype hkey) hfirst hfield, fun hplain => ?_⟩
      exact hkey ((hplain i j part hpart).text htype key (Json.mem_names_of_field hsub))
  -- of an image part `type` and what `image_url` gives
  | image htype himage haddress =>
    obtain ⟨key, sub, hsub, hfirst⟩ :=
      Json.first_of_fieldAt (Json.item_eq_none_of_field himage) hbelow
    by_cases hkey : key = "type" ∨ key = "image_url"
    · rcases hkey with rfl | rfl
      · rw [strField_eq_some, hsub] at htype
        obtain rfl := Option.some.inj htype
        obtain ⟨rfl, rfl, rfl⟩ := hfirst.atom rfl
        exact .inl (.part hread .imageType)
      · rw [himage] at hsub
        obtain rfl := Option.some.inj hsub
        exact imageUrl_carried_or_dropped hread hpart htype himage haddress hfirst hfield
    · right
      refine ⟨dropped_of_ignored (ignored_image hpart htype hkey) hfirst hfield, fun hplain => ?_⟩
      exact hkey ((hplain i j part hpart).image htype key (Json.mem_names_of_field hsub))

/-- A field at or below a message. -/
theorem turn_carried_or_dropped (h : BodyGives body req) {turn : Json}
    (hturn : body.at? (turnPath i) = some turn) (hbelow : turn.fieldAt path name = some value)
    (hfield : body.fieldAt (turnPath i ++ path) name = some value) :
    CarriesForward body req (turnPath i ++ path) name value ∨
      Dropped body (turnPath i ++ path) name ∧ ¬ PlainParts body := by
  obtain ⟨parsed, hparsed, hknown, ⟨role, hrole, hheld⟩, content, hcontent, hgives⟩ := h.turn hturn
  obtain ⟨key, sub, hsub, hfirst⟩ :=
    Json.first_of_fieldAt (Json.item_eq_none_of_field hcontent) hbelow
  rcases hknown key (Json.mem_names_of_field hsub) with rfl | rfl
  · rw [hrole] at hsub
    obtain rfl := Option.some.inj hsub
    obtain ⟨rfl, rfl, rfl⟩ := hfirst.atom rfl
    exact .inl (.role hparsed hheld)
  · rw [hcontent] at hsub
    obtain rfl := Option.some.inj hsub
    cases hfirst with
    | here => exact .inl (.content hparsed hgives)
    | @below more _ _ hmore =>
      -- only an item of an array of parts has fields
      cases content with
      | arr items =>
        cases more with
        | nil => cases hmore
        | cons step more =>
          cases step with
          | field key => cases hmore
          | item j =>
            rw [Json.fieldAt_item] at hmore
            obtain ⟨part, hitem, hbelow⟩ := Option.bind_eq_some_iff.mp hmore
            have hpart : body.at? (partPath i j) = some part := by
              rw [at?_partPath_eq, Json.at?_append, hturn, Option.bind_some, Json.at?, hcontent]
              exact hitem
            obtain ⟨piece, hread⟩ := h.part hpart
            exact part_carried_or_dropped hread hpart hbelow hfield
      | str text =>
        rw [Json.fieldAt_atom rfl] at hmore
        cases hmore
      | _ => cases hgives

/-- Each field of an accepted body, at whatever depth, is carried forward or dropped, and
    the dropped ones are those no content part should hold. -/
theorem carried_or_dropped (h : BodyGives body req) (hfield : body.fieldAt path name = some value) :
    CarriesForward body req path name value ∨ Dropped body path name ∧ ¬ PlainParts body := by
  obtain ⟨fields, rfl⟩ := h.object
  obtain ⟨key, sub, hsub, hfirst⟩ := Json.first_of_fieldAt (fun _ => rfl) hfield
  have hheld := h.fields key sub hsub
  by_cases hkey : key = "messages"
  · subst hkey
    cases hfirst with
    | here => exact .inl (.field hheld)
    | @below more _ _ hmore =>
      -- only an item of the array of messages has fields
      obtain ⟨turns, rfl, -⟩ := hheld.turns
      cases more with
      | nil => cases hmore
      | cons step more =>
        cases step with
        | field key => cases hmore
        | item i =>
          rw [Json.fieldAt_item] at hmore
          obtain ⟨turn, hitem, hbelow⟩ := Option.bind_eq_some_iff.mp hmore
          have hturn : (Json.obj fields).at? (turnPath i) = some turn := by
            rw [turnPath, Json.at?, hsub, Option.bind_some, Json.at?, hitem]
            rfl
          exact turn_carried_or_dropped h hturn hbelow hfield
  · obtain ⟨rfl, rfl, rfl⟩ := hfirst.atom (hheld.isAtom hkey)
    exact .inl (.field hheld)

end walk

/-! ## No field is both -/

/-- What is set to null is null. -/
theorem Json.field_setField {json value : Json} {name : String} (h : json.field name = some value)
    (other : Json) : (Json.setField name other json).field name = some other := by
  rw [Json.setField, Json.field_mapField_self, h]
  rfl

/-- Null gives no image. -/
theorem not_imageGives_null {url : String} : ¬ ImageGives .null url := by
  intro h
  cases h with
  | object sent => cases sent

/-- A part is not accepted with a field null that its piece holds. -/
theorem PieceHolds.matters {piece : ContentPart} {path : List JsonStep} {name : String}
    {part value : Json} (h : PieceHolds piece path name value) (hgives : PartGives part piece)
    (hfield : part.fieldAt path name = some value) (piece' : ContentPart) :
    ¬ PartGives (part.modify (Json.setField name .null) path) piece' := by
  intro hgives'
  cases h with
  | textType | imageType =>
    have hnull := Json.field_setField hfield .null
    cases hgives' with
    | text htype | image htype =>
      rw [strField_eq_some, Json.modify, hnull] at htype
      cases htype
  | text =>
    have hnull := Json.field_setField hfield .null
    cases hgives with
    | text htype =>
      -- the type is what it was
      have htype' : (Json.setField "text" .null part).strField "type" = some "text" := by
        rw [Json.setField, strField_mapField_of_ne (by decide)]
        exact htype
      cases hgives' with
      | text _ hsent =>
        rw [strField_eq_some, Json.modify, hnull] at hsent
        cases hsent
      | image himage =>
        rw [Json.modify, htype'] at himage
        exact absurd himage (by decide)
  | image =>
    have hnull := Json.field_setField hfield .null
    cases hgives with
    | image htype =>
      have htype' : (Json.setField "image_url" .null part).strField "type" = some "image_url" := by
        rw [Json.setField, strField_mapField_of_ne (by decide)]
        exact htype
      cases hgives' with
      | text htext =>
        rw [Json.modify, htype'] at htext
        exact absurd htext (by decide)
      | image _ hsent haddress =>
        rw [Json.modify, hnull] at hsent
        obtain rfl := Option.some.inj hsent
        exact not_imageGives_null haddress
  | url =>
    obtain ⟨image, himage, hurl⟩ := Option.bind_eq_some_iff.mp hfield
    obtain ⟨image', hstep, hsame⟩ := Option.bind_eq_some_iff.mp himage
    obtain rfl := Option.some.inj hsame
    have hnull := Json.field_setField hurl .null
    have htype' : (part.mapField "image_url" (Json.setField "url" .null)).strField "type" =
        part.strField "type" := strField_mapField_of_ne (by decide) ..
    have himage' : (part.mapField "image_url" (Json.setField "url" .null)).field "image_url" =
        some (Json.setField "url" .null image') := by
      rw [Json.field_mapField_self, hstep]
      rfl
    cases hgives with
    | image htype =>
      cases hgives' with
      | text htext =>
        rw [Json.modify, Json.modify, htype', htype] at htext
        exact absurd htext (by decide)
      | image _ hsent haddress =>
        rw [Json.modify, Json.modify, himage'] at hsent
        obtain rfl := Option.some.inj hsent
        generalize Json.setField "url" .null image' = changed at hnull haddress
        cases haddress with
        | text text => cases hnull
        | object sent =>
          rw [strField_eq_some, hnull] at sent
          cases sent

/-- A body is not accepted with a field null that is carried forward. -/
theorem CarriesForward.matters {body value : Json} {req : ValidChatRequest} {path : List JsonStep}
    {name : String} (h : CarriesForward body req path name value)
    (hfield : body.fieldAt path name = some value) (req' : ValidChatRequest) :
    ¬ BodyGives (body.modify (Json.setField name .null) path) req' := by
  intro hgives'
  obtain ⟨json, hat, hjson⟩ := Option.bind_eq_some_iff.mp hfield
  -- null at the field's place is what the request would have to give
  have hnull := Json.field_setField hjson .null
  have hat' : (body.modify (Json.setField name .null) path).at? path =
      some (Json.setField name .null json) := by
    rw [Json.at?_modify, hat]
    rfl
  cases h with
  -- no field of the body gives null
  | field held =>
    obtain rfl := Option.some.inj hat
    cases hgives'.fields _ _ hnull
  -- nor is a role null, nor the content of a turn
  | role =>
    obtain ⟨parsed, -, hturn⟩ := hgives'.turn hat'
    obtain ⟨role, hrole, -⟩ := hturn.role
    rw [hnull] at hrole
    cases hrole
  | content =>
    obtain ⟨parsed, -, hturn⟩ := hgives'.turn hat'
    obtain ⟨content, hcontent, hsent⟩ := hturn.content
    rw [hnull] at hcontent
    obtain rfl := Option.some.inj hcontent
    cases hsent
  -- of a part the field's own reading decides
  | @part i j piece below _ _ hread held =>
    rw [Json.at?_append] at hat
    obtain ⟨part, hpart, hbelow⟩ := Option.bind_eq_some_iff.mp hat
    have hpart' : (body.modify (Json.setField name .null) (partPath i j ++ below)).at?
        (partPath i j) = some (part.modify (Json.setField name .null) below) := by
      rw [Json.modify_append, Json.at?_modify, hpart]
      rfl
    obtain ⟨piece', hread'⟩ := hgives'.part hpart'
    refine held.matters (hread.gives hpart) ?_ piece' (hread'.gives hpart')
    rw [Json.fieldAt, hbelow]
    exact hjson

/-- The names of the fields that are carried forward, at whatever depth. -/
def carriedNames : List String :=
  ALLOWED_FIELDS ++ ["role", "content", "type", "text", "image_url", "url"]

/-- A field of another name is not carried forward. -/
theorem not_carriesForward_unread {body value : Json} {req : ValidChatRequest}
    {path : List JsonStep} {name : String} (h : CarriesForward body req path name value)
    (hname : name ∉ carriedNames) : False := by
  cases h with
  | field held => cases held <;> exact hname (by decide)
  | role | content => exact hname (by decide)
  | part _ held => cases held <;> exact hname (by decide)

/-- No field is carried forward and dropped. -/
theorem CarriesForward.not_dropped {body value : Json} {req : ValidChatRequest} {path : List JsonStep}
    {name : String} (haccepted : parseChatRequest body = .ok req)
    (h : CarriesForward body req path name value) (hfield : body.fieldAt path name = some value) :
    ¬ Dropped body path name := by
  intro hdropped
  apply h.matters hfield req
  exact parseChatRequest_gives ((hdropped.ignored .null).trans haccepted)

/-- Where no field is dropped, the content parts are plain. -/
theorem plainParts_of_kept {body : Json} (h : ∀ path name, ¬ Dropped body path name) :
    PlainParts body := by
  intro i j part hpart
  refine ⟨?_, ?_, ?_⟩
  · intro htype name hname
    by_contra hother
    exact h _ _ (dropped_text hpart htype hname hother)
  · intro htype name hname
    by_contra hother
    exact h _ _ (dropped_image hpart htype hname hother)
  · intro htype image himage name hname
    by_contra hother
    exact h _ _ (dropped_imageUrl hpart htype himage hname hother)

/-- A field of an accepted body is carried forward unless it is dropped, and each is, exactly
    when the content parts hold no field beside those that are read. -/
theorem fields_carried_iff {body : Json} {req : ValidChatRequest}
    (h : parseChatRequest body = .ok req) :
    (∀ path name value, body.fieldAt path name = some value →
      (CarriesForward body req path name value ↔ ¬ Dropped body path name)) ∧
    ((∀ path name value, body.fieldAt path name = some value → CarriesForward body req path name value) ↔
      PlainParts body) := by
  have hgives := parseChatRequest_gives h
  have heach : ∀ path name value, body.fieldAt path name = some value →
      (CarriesForward body req path name value ↔ ¬ Dropped body path name) := by
    intro path name value hfield
    refine ⟨fun hcarries => hcarries.not_dropped h hfield, fun hkept => ?_⟩
    rcases carried_or_dropped hgives hfield with hcarries | ⟨hdropped, -⟩
    · exact hcarries
    · exact absurd hdropped hkept
  refine ⟨heach, ⟨fun hcarried => ?_, fun hplain path name value hfield => ?_⟩⟩
  -- all carried: none dropped, so every part is plain
  · have hkept : ∀ path name, ¬ Dropped body path name := by
      intro path name hdropped
      obtain ⟨value, hfield⟩ := hdropped.present
      exact (heach path name value hfield).mp (hcarried path name value hfield) hdropped
    exact plainParts_of_kept hkept
  -- all plain: a dropped field would be one of a part that is not
  · rcases carried_or_dropped hgives hfield with hcarries | ⟨-, hnot⟩
    · exact hcarries
    · exact absurd hplain hnot

/-- A text part as it is described, and one turn that holds it. -/
def plainCall : Json :=
  .obj [("model", .str "m"), ("messages", .arr [.obj [("role", .str "user"), ("content", .arr
    [.obj [("type", .str "text"), ("text", .str "hi")]])]])]

/-- All of a call with one text part is carried forward. -/
theorem fields_carried_plainCall : ∃ req, parseChatRequest plainCall = .ok req ∧
    (∀ path name, ¬ Dropped plainCall path name) ∧
    ∀ path name value, plainCall.fieldAt path name = some value →
      CarriesForward plainCall req path name value := by
  have hparse : parseChatRequest plainCall =
      .ok ⟨"m", [⟨.user, "hi", []⟩], none, none, none, false, none, none⟩ := rfl
  -- the only part is the first of the first turn
  have hplain : PlainParts plainCall := by
    intro i j part hpart
    obtain ⟨turns, turn, items, hturns, hturn, hcontent, hitem⟩ := at?_partPath hpart
    cases hturns
    obtain rfl : i = 0 := by
      cases i with
      | zero => rfl
      | succ i => cases hturn
    cases hturn
    cases hcontent
    obtain rfl : j = 0 := by
      cases j with
      | zero => rfl
      | succ j => cases hitem
    cases hitem
    refine ⟨?_, fun htype => absurd htype (by decide), fun htype => absurd htype (by decide)⟩
    intro _ name hname
    simpa [Json.names] using hname
  obtain ⟨heach, hall⟩ := fields_carried_iff hparse
  have hcarried := hall.mpr hplain
  refine ⟨_, hparse, fun path name hdropped => ?_, hcarried⟩
  obtain ⟨value, hfield⟩ := hdropped.present
  exact (heach path name value hfield).mp (hcarried path name value hfield) hdropped

/-- A text part with `cache_control`, and an `image_url` with `detail`. -/
def describedCall : Json :=
  .obj [("model", .str "m"), ("messages", .arr [.obj [("role", .str "user"), ("content", .arr
    [.obj [("type", .str "text"), ("text", .str "hi"),
        ("cache_control", .obj [("type", .str "ephemeral")])],
      .obj [("type", .str "image_url"), ("image_url", .obj
        [("url", .str "https://a/b.png"), ("detail", .str "high")])]])]])]

/-- The call is accepted, both fields are dropped, and the request holds neither. -/
theorem described_dropped : ∃ req, parseChatRequest describedCall = .ok req ∧
    Dropped describedCall (partPath 0 0) "cache_control" ∧
    (∀ value, ¬ CarriesForward describedCall req (partPath 0 0) "cache_control" value) ∧
    Dropped describedCall (partPath 0 1 ++ [.field "image_url"]) "detail" ∧
    ∀ value,
      ¬ CarriesForward describedCall req (partPath 0 1 ++ [.field "image_url"]) "detail" value := by
  -- the call is accepted, without a word of the two fields
  have hparse : parseChatRequest describedCall =
      .ok ⟨"m", [⟨.user, "hi", ["https://a/b.png"]⟩], none, none, none, false, none, none⟩ := rfl
  have htext : describedCall.at? (partPath 0 0) = some (.obj [("type", .str "text"),
      ("text", .str "hi"), ("cache_control", .obj [("type", .str "ephemeral")])]) := rfl
  have himage : describedCall.at? (partPath 0 1) = some (.obj [("type", .str "image_url"),
      ("image_url", .obj [("url", .str "https://a/b.png"), ("detail", .str "high")])]) := rfl
  refine ⟨_, hparse, dropped_text htext rfl ?_ (by decide), ?_,
    dropped_imageUrl himage rfl rfl ?_ (by decide), ?_⟩
  · simp [Json.names]
  · intro value h
    exact not_carriesForward_unread h (by decide)
  · simp [Json.names]
  · intro value h
    exact not_carriesForward_unread h (by decide)

end ControlPlane
