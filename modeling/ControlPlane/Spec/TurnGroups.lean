import ControlPlane.Model.GeminiContents
import ControlPlane.Spec.ChatCarried
import Mathlib.Data.List.SplitBy

/-!
# Turns as groups of messages

The turns that a provider gets are the runs of neighbours of one role, each merged: the
texts of a run joined by blank lines, its images in order. Merging is done message by
message on the last turn; the groups are stated on the whole list.

## Key results

- `texts_pushBlock` / `images_pushBlock`: a turn's texts and images, pushed block by block
- `mergedFrom_merge` / `grouped_foldl`: a turn is merged from its group, at every step
- `geminiContents_eq`: the two loops build the same turns
- `binding_turns`: the turns of both builders
-/

namespace ControlPlane

open List (Forall₂)
open JsString (startsWith)

/-! ## Texts and images -/

/-- The text of a block that is one. -/
def TurnBlock.text? : TurnBlock → Option String
  | .text content => some content
  | .image _ _ => none

/-- The image of a block that is one. -/
def TurnBlock.image? : TurnBlock → Option (String × String)
  | .text _ => none
  | .image mediaType data => some (mediaType, data)

/-- The texts of a content, in order. -/
def blockTexts (content : List TurnBlock) : List String := content.filterMap (·.text?)

/-- The images of a content, in order. -/
def blockImages (content : List TurnBlock) : List (String × String) :=
  content.filterMap (·.image?)

/-- The images of a message that are kept: those that can be sent inline. -/
def keptImages (m : ChatTurn) : List (String × String) := m.images.filterMap inlineImage

/-- What a message says: its content, a space where that is empty and no image is kept,
    and nothing where it is blank beside a kept image. -/
def messageText (m : ChatTurn) : Option String :=
  if JsString.trim m.content ≠ "" then some m.content
  else if keptImages m ≠ [] then none
  else if m.content = "" then some " "
  else some m.content

/-- Some texts as one, with a blank line between them, or none. -/
def joined (texts : List String) : List String :=
  if texts = [] then [] else [String.intercalate "\n\n" texts]

/-- A message has a block for each inline image. -/
theorem imageBlocks_eq (m : ChatTurn) :
    imageBlocks m = (keptImages m).map fun image => .image image.1 image.2 := by
  rw [imageBlocks, keptImages, List.map_filterMap]

/-- A message text is not empty. -/
theorem messageText_ne_empty {m : ChatTurn} {text : String} (h : messageText m = some text) :
    text ≠ "" := by
  unfold messageText at h
  split at h
  next hblank =>
    obtain rfl := Option.some.inj h
    rintro hempty
    rw [hempty] at hblank
    exact hblank rfl
  next =>
    split at h
    · cases h
    · split at h
      next =>
        obtain rfl := Option.some.inj h
        decide
      -- an empty text without images becomes a blank
      next hempty =>
        obtain rfl := Option.some.inj h
        exact hempty

/-- The blocks of a message: its images, then its text. -/
theorem turnBlocks_eq (m : ChatTurn) :
    turnBlocks m = imageBlocks m ++ (messageText m).toList.map .text := by
  have hkept : imageBlocks m = [] ↔ keptImages m = [] := by
    rw [imageBlocks_eq, List.map_eq_nil_iff]
  unfold turnBlocks messageText
  congr 1
  -- a blank text stays only where no image does
  by_cases hblank : JsString.trim m.content ≠ ""
  · have hne : m.content ≠ "" := by
      intro hempty
      rw [hempty] at hblank
      exact hblank rfl
    rw [if_pos (.inl hblank), if_pos hblank, if_neg hne]
    rfl
  · rw [if_neg hblank]
    by_cases himages : keptImages m = []
    · rw [if_pos (.inr (hkept.mpr himages)), if_neg (not_not.mpr himages)]
      split <;> rfl
    · rw [if_neg (not_or.mpr ⟨hblank, fun h => himages (hkept.mp h)⟩), if_pos himages]
      rfl

/-- Every message says something or shows something. -/
theorem messageText_or_image (m : ChatTurn) : messageText m ≠ none ∨ keptImages m ≠ [] := by
  by_cases himages : keptImages m = []
  · left
    unfold messageText
    split
    · simp
    · rw [if_neg (not_not.mpr himages)]
      split <;> simp
  · exact .inr himages

/-- The texts of two contents. -/
@[simp] theorem blockTexts_append (content content' : List TurnBlock) :
    blockTexts (content ++ content') = blockTexts content ++ blockTexts content' :=
  List.filterMap_append

/-- The images of two contents. -/
@[simp] theorem blockImages_append (content content' : List TurnBlock) :
    blockImages (content ++ content') = blockImages content ++ blockImages content' :=
  List.filterMap_append

/-- Images are no texts. -/
@[simp] theorem blockTexts_imageBlocks (m : ChatTurn) : blockTexts (imageBlocks m) = [] := by
  rw [imageBlocks_eq, blockTexts, List.filterMap_map, List.filterMap_eq_nil_iff]
  intro image _
  rfl

/-- The image blocks hold the images that are kept. -/
@[simp] theorem blockImages_imageBlocks (m : ChatTurn) :
    blockImages (imageBlocks m) = keptImages m := by
  rw [imageBlocks_eq, blockImages, List.filterMap_map]
  exact List.filterMap_some

/-! ## Pushing blocks -/

/-- A text is merged exactly where there is one, into the last. -/
theorem mergeText_eq (new : String) (content : List TurnBlock) :
    (blockTexts content = [] ∧ mergeText new content = none) ∨
      ∃ merged texts old, mergeText new content = some merged ∧
        blockTexts content = texts ++ [old] ∧ blockTexts merged = texts ++ [joinTexts old new] ∧
        blockImages merged = blockImages content := by
  -- from the front, though the last text is the one that is merged
  induction content with
  | nil => exact .inl ⟨rfl, rfl⟩
  | cons block blocks ih =>
    unfold mergeText
    rcases ih with ⟨hnone, hmerge⟩ | ⟨merged, texts, old, hmerge, htexts, hmerged, himages⟩
    · rw [hmerge]
      cases block with
      -- no text behind this one: it is the last
      | text old =>
        right
        refine ⟨_, [], old, rfl, ?_, ?_, rfl⟩
        · exact congrArg (old :: ·) hnone
        · exact congrArg (joinTexts old new :: ·) hnone
      | image mediaType data => exact .inl ⟨hnone, rfl⟩
    · rw [hmerge]
      right
      cases block with
      | text text =>
        refine ⟨_, text :: texts, old, rfl, ?_, ?_, himages⟩
        · exact congrArg (text :: ·) htexts
        · exact congrArg (text :: ·) hmerged
      | image mediaType data =>
        exact ⟨_, texts, old, rfl, htexts, hmerged, congrArg ((mediaType, data) :: ·) himages⟩

/-- Images are appended. -/
theorem foldl_pushBlock_imageBlocks (content : List TurnBlock) (m : ChatTurn) :
    (imageBlocks m).foldl pushBlock content = content ++ imageBlocks m := by
  rw [imageBlocks_eq]
  induction keptImages m generalizing content with
  | nil => exact (List.append_nil _).symm
  | cons image images ih =>
    rw [List.map_cons, List.foldl_cons, ih]
    exact List.append_assoc ..

/-- One more text on lines of its own. -/
theorem intercalate_concat {texts : List String} (h : texts ≠ []) (text : String) :
    String.intercalate "\n\n" (texts ++ [text]) =
      String.intercalate "\n\n" texts ++ "\n\n" ++ text := by
  rw [String.intercalate_append_of_ne_nil h (List.cons_ne_nil _ _), String.intercalate_singleton]

/-- Texts are joined by a blank line. -/
theorem joinTexts_of_ne {a : String} (h : a ≠ "") (b : String) :
    joinTexts a b = a ++ "\n\n" ++ b := if_neg h

/-- Joined texts are not empty. -/
theorem intercalate_ne_empty {texts : List String} (hne : texts ≠ [])
    (h : ∀ text ∈ texts, text ≠ "") : String.intercalate "\n\n" texts ≠ "" := by
  cases texts with
  | nil => exact absurd rfl hne
  | cons text rest =>
    have htext := h text List.mem_cons_self
    cases rest with
    | nil => rwa [String.intercalate_singleton]
    | cons second rest =>
      rw [String.intercalate_cons_cons]
      -- the first text is not empty, whatever follows it
      intro hempty
      simp only [String.append_eq_empty_iff] at hempty
      exact htext hempty.1.1

/-- A content with the joined texts of some messages takes one more. -/
theorem texts_pushBlock {content : List TurnBlock} {texts : List String}
    (h : blockTexts content = joined texts) (hne : ∀ text ∈ texts, text ≠ "") (new : String) :
    blockTexts (pushBlock content (.text new)) = joined (texts ++ [new]) ∧
      blockImages (pushBlock content (.text new)) = blockImages content := by
  have hjoined : joined (texts ++ [new]) = [String.intercalate "\n\n" (texts ++ [new])] :=
    if_neg (by simp)
  rw [hjoined]
  unfold pushBlock
  dsimp only
  rcases mergeText_eq new content with ⟨hnone, hmerge⟩ | ⟨merged, front, old, hmerge, hold, hnew, hrest⟩
  · -- no text so far: a new block
    rw [hmerge, Option.getD_none]
    have htexts : texts = [] := by
      by_contra htexts
      rw [h, joined, if_neg htexts] at hnone
      cases hnone
    subst htexts
    rw [blockTexts_append, hnone, blockImages_append, List.nil_append]
    exact ⟨congrArg (fun text => [text]) String.intercalate_singleton.symm, List.append_nil _⟩
  · -- the one text so far is the joined one
    rw [hmerge, Option.getD_some]
    have htexts : texts ≠ [] := by
      rintro rfl
      rw [h] at hold
      exact absurd hold.symm (by simp [joined])
    rw [h, joined, if_neg htexts] at hold
    obtain ⟨rfl, rfl⟩ : front = [] ∧ old = String.intercalate "\n\n" texts := by
      cases front with
      | nil => exact ⟨rfl, by simpa using hold.symm⟩
      | cons text front => simp at hold
    rw [joinTexts_of_ne (intercalate_ne_empty htexts hne)] at hnew
    rw [intercalate_concat htexts]
    exact ⟨hnew, hrest⟩

/-! ## A turn and its group -/

/-- A turn that is merged from a group of messages. -/
structure MergedFrom (turn : BlockTurn) (group : List ChatTurn) : Prop where
  nonempty : group ≠ []
  role : ∀ m ∈ group, m.role = turn.role
  texts : blockTexts turn.content = joined (group.filterMap messageText)
  images : blockImages turn.content = group.flatMap keptImages

/-- One message makes a turn of its own. -/
theorem mergedFrom_single (m : ChatTurn) : MergedFrom ⟨m.role, turnBlocks m⟩ [m] := by
  refine ⟨List.cons_ne_nil _ _, by simp, ?_, ?_⟩
  · rw [turnBlocks_eq, blockTexts_append, blockTexts_imageBlocks]
    cases htext : messageText m with
    | none => simp [htext, joined, blockTexts]
    | some text => simp [htext, joined, blockTexts, TurnBlock.text?, String.intercalate_singleton]
  · rw [turnBlocks_eq, blockImages_append, blockImages_imageBlocks]
    cases messageText m <;> simp [blockImages, TurnBlock.image?]

/-- The last turn takes a message of its role. -/
theorem mergedFrom_merge {turn : BlockTurn} {group : List ChatTurn} (h : MergedFrom turn group)
    {m : ChatTurn} (hrole : turn.role = m.role) : MergedFrom (mergeTurn turn m) (group ++ [m]) := by
  have hne : ∀ text ∈ group.filterMap messageText, text ≠ "" := by
    intro text hmem
    obtain ⟨m', -, htext⟩ := List.mem_filterMap.mp hmem
    exact messageText_ne_empty htext
  -- the images come first, and leave the text that is there
  have htexts : blockTexts (turn.content ++ imageBlocks m) =
      joined (group.filterMap messageText) := by
    rw [blockTexts_append, blockTexts_imageBlocks, List.append_nil, h.texts]
  have himages : blockImages (turn.content ++ imageBlocks m) =
      (group ++ [m]).flatMap keptImages := by
    rw [blockImages_append, blockImages_imageBlocks, h.images, List.flatMap_append,
      List.flatMap_singleton]
  have hcontent : (mergeTurn turn m).content =
      ((messageText m).toList.map TurnBlock.text).foldl pushBlock (turn.content ++ imageBlocks m) := by
    rw [mergeTurn, turnBlocks_eq, List.foldl_append, foldl_pushBlock_imageBlocks]
  refine ⟨by simp, ?_, ?_, ?_⟩
  · intro m' hmem
    rcases List.mem_append.mp hmem with hmem | hmem
    · exact h.role m' hmem
    · rw [List.mem_singleton.mp hmem]
      exact hrole.symm
  · rw [hcontent, List.filterMap_append]
    cases htext : messageText m with
    | none => simpa [htext] using htexts
    | some text => simpa [htext] using (texts_pushBlock htexts hne text).1
  · rw [hcontent]
    cases htext : messageText m with
    | none => exact himages
    | some text => exact (texts_pushBlock htexts hne text).2.trans himages

/-! ## Grouping -/

/-- Two messages of one role. -/
def sameRole (m m' : ChatTurn) : Bool := m.role = m'.role

/-- Turns of alternating roles, each merged from its group. -/
structure Grouped (turns : List BlockTurn) (groups : List (List ChatTurn)) : Prop where
  merged : Forall₂ MergedFrom turns groups
  alternate : turns.IsChain (·.role ≠ ·.role)

/-- Related lists relate each of their elements. -/
theorem exists_of_mem_right {α β : Type} {R : α → β → Prop} {as : List α} {bs : List β}
    (h : Forall₂ R as bs) {b : β} (hb : b ∈ bs) : ∃ a ∈ as, R a b := by
  induction h with
  | nil => cases hb
  | cons hab _ ih =>
    cases hb with
    | head => exact ⟨_, List.mem_cons_self, hab⟩
    | tail _ hb =>
      obtain ⟨a, ha, hR⟩ := ih hb
      exact ⟨a, List.mem_cons_of_mem _ ha, hR⟩

/-- What is on the left of a correspondence has a partner. -/
theorem exists_of_mem_left {α β : Type} {R : α → β → Prop} {as : List α} {bs : List β}
    (h : Forall₂ R as bs) {a : α} (ha : a ∈ as) : ∃ b ∈ bs, R a b :=
  exists_of_mem_right (Forall₂.flip (R := flip R) h) ha

/-- The last turn has the last group. -/
theorem forall₂_append_singleton {α β : Type} {R : α → β → Prop} {as : List α} {a : α}
    {bs : List β} (h : Forall₂ R (as ++ [a]) bs) :
    ∃ init b, bs = init ++ [b] ∧ Forall₂ R as init ∧ R a b := by
  induction as generalizing bs with
  | nil =>
    obtain ⟨b, rest, hb, hnil, rfl⟩ := List.forall₂_cons_left_iff.mp h
    obtain rfl := List.forall₂_nil_left_iff.mp hnil
    exact ⟨[], b, rfl, .nil, hb⟩
  | cons first as ih =>
    obtain ⟨b, rest, hb, hrest, rfl⟩ := List.forall₂_cons_left_iff.mp h
    obtain ⟨init, b', rfl, hinit, hlast⟩ := ih hrest
    exact ⟨b :: init, b', rfl, .cons hb hinit, hlast⟩

/-- One message more: it joins the last group, or starts the next. -/
theorem grouped_addTurn {turns : List BlockTurn} {groups : List (List ChatTurn)}
    (h : Grouped turns groups) (m : ChatTurn) :
    ∃ groups', groups'.flatten = groups.flatten ++ [m] ∧ Grouped (addTurn turns m) groups' := by
  cases turns using turns_cases with
  | nil =>
    obtain rfl : groups = [] := by
      cases h.merged
      rfl
    exact ⟨[[m]], rfl, .cons (mergedFrom_single m) .nil, List.isChain_singleton _⟩
  | append turns last =>
    obtain ⟨groups, group, rfl, hmerged, hgroup⟩ := forall₂_append_singleton h.merged
    rw [addTurn_append]
    by_cases hrole : last.role = m.role
    · rw [if_pos hrole]
      refine ⟨groups ++ [group ++ [m]], by simp, ?_, ?_⟩
      · exact List.rel_append hmerged (.cons (mergedFrom_merge hgroup hrole) .nil)
      · -- the merged turn has the role it had
        have halternate := h.alternate
        rw [List.isChain_append] at halternate ⊢
        refine ⟨halternate.1, List.isChain_singleton _, ?_⟩
        intro turn hturn turn' hturn'
        obtain rfl : mergeTurn last m = turn' := by simpa using hturn'
        exact halternate.2.2 turn hturn last rfl
    · -- another role: the message is a group of its own
      rw [if_neg hrole]
      refine ⟨groups ++ [group, [m]], by simp, ?_, ?_⟩
      · exact List.rel_append hmerged (.cons hgroup (.cons (mergedFrom_single m) .nil))
      · have halternate := h.alternate
        rw [List.isChain_append] at halternate ⊢
        refine ⟨halternate.1, ?_, halternate.2.2⟩
        exact List.isChain_pair.mpr hrole

/-- All of them. -/
theorem grouped_foldl (messages : List ChatTurn) {turns : List BlockTurn}
    {groups : List (List ChatTurn)} (h : Grouped turns groups) :
    ∃ groups', groups'.flatten = groups.flatten ++ messages ∧
      Grouped (messages.foldl addTurn turns) groups' := by
  induction messages generalizing turns groups with
  | nil => exact ⟨groups, (List.append_nil _).symm, h⟩
  | cons m messages ih =>
    obtain ⟨groups', hflat, hgrouped⟩ := grouped_addTurn h m
    obtain ⟨groups'', hflat', hgrouped'⟩ := ih hgrouped
    refine ⟨groups'', ?_, hgrouped'⟩
    rw [hflat', hflat, List.append_assoc]
    rfl

/-- Turns of alternating roles, each merged from its group: the groups are the runs. -/
theorem Grouped.eq_splitBy {turns : List BlockTurn} {groups : List (List ChatTurn)}
    (h : Grouped turns groups) : groups = groups.flatten.splitBy sameRole := by
  refine (List.splitBy_eq_iff.mpr ⟨rfl, ?_, ?_, ?_⟩).symm
  · intro hmem
    obtain ⟨turn, -, hturn⟩ := exists_of_mem_right h.merged hmem
    exact hturn.nonempty rfl
  · intro group hmem
    obtain ⟨turn, -, hturn⟩ := exists_of_mem_right h.merged hmem
    apply List.Pairwise.isChain
    apply List.pairwise_of_forall_mem_list
    intro m hm m' hm'
    simp [sameRole, hturn.role m hm, hturn.role m' hm']
  -- neighbouring groups end and begin with different roles
  · obtain ⟨hmerged, halternate⟩ := h
    induction hmerged with
    | nil => exact .nil
    | cons hturn hrest ih =>
      cases hrest with
      | nil => exact List.isChain_singleton _
      | cons hnext hrest =>
        rw [List.isChain_cons_cons] at halternate ⊢
        refine ⟨⟨hturn.nonempty, hnext.nonempty, ?_⟩, ih halternate.2⟩
        have hlast := hturn.role _ (List.getLast_mem hturn.nonempty)
        have hfirst := hnext.role _ (List.head_mem hnext.nonempty)
        simpa [sameRole, hlast, hfirst] using halternate.1

/-- The messages that are grouped: no system messages, and no leading assistant messages. -/
def grouped (messages : List ChatTurn) : List ChatTurn :=
  (messages.filter (·.role ≠ .system)).dropWhile (·.role = .assistant)

/-- What the turns of a request are. -/
structure TurnsOf (messages : List ChatTurn) (turns : List BlockTurn) : Prop where
  userFirst : ∀ turn ∈ turns.head?, turn.role = .user
  alternate : turns.IsChain (·.role ≠ ·.role)
  roles : ∀ turn ∈ turns, turn.role = .user ∨ turn.role = .assistant
  blocks : ∀ turn ∈ turns, turn.content ≠ [] ∧ (blockTexts turn.content).length ≤ 1
  groups : Forall₂ MergedFrom turns ((grouped messages).splitBy sameRole)

/-- A turn has content, and one text at most. -/
theorem MergedFrom.blocks {turn : BlockTurn} {group : List ChatTurn} (h : MergedFrom turn group) :
    turn.content ≠ [] ∧ (blockTexts turn.content).length ≤ 1 := by
  constructor
  · intro hempty
    have htexts := h.texts
    have himages := h.images
    rw [hempty] at htexts himages
    obtain ⟨m, hm⟩ := List.exists_mem_of_ne_nil _ h.nonempty
    -- the first message of the group has a text or an image
    rcases messageText_or_image m with htext | himage
    · obtain ⟨text, htext⟩ := Option.ne_none_iff_exists'.mp htext
      have hmem : text ∈ group.filterMap messageText := List.mem_filterMap.mpr ⟨m, hm, htext⟩
      rw [joined, if_neg (List.ne_nil_of_mem hmem)] at htexts
      cases htexts
    · exact himage (List.flatMap_eq_nil_iff.mp himages.symm m hm)
  · rw [h.texts, joined]
    split <;> simp

/-- The turns of a request are the runs of its messages. -/
theorem turnsOf_alternatingTurns (messages : List ChatTurn) :
    TurnsOf messages (alternatingTurns messages) := by
  have hnotAssistant : ∀ turn ∈ (alternatingTurns messages).head?, turn.role ≠ .assistant := by
    intro turn hmem
    have h := List.head?_dropWhile_not (fun turn : BlockTurn => decide (turn.role = .assistant))
      ((dialogue messages).foldl addTurn [])
    have hhead : ((((dialogue messages).foldl addTurn []).dropWhile
        fun turn => decide (turn.role = .assistant))).head? = some turn := hmem
    rw [hhead] at h
    simpa using h
  rw [alternatingTurns_eq] at hnotAssistant ⊢
  show TurnsOf messages ((grouped messages).foldl addTurn [])
  -- every prefix of the dialogue is grouped, by induction over its messages
  have hstart : Grouped [] [] := ⟨.nil, .nil⟩
  obtain ⟨groups, hflat, hgrouped⟩ := grouped_foldl (grouped messages) hstart
  rw [List.flatten_nil, List.nil_append] at hflat
  have hmerged := hgrouped.merged
  rw [hgrouped.eq_splitBy, hflat] at hmerged
  -- every turn has the role of a message of its group
  have hfrom : ∀ turn ∈ (grouped messages).foldl addTurn [], ∃ m ∈ grouped messages,
      m.role = turn.role := by
    intro turn hmem
    obtain ⟨group, hgroup, hturn⟩ := exists_of_mem_left hmerged hmem
    obtain ⟨m, hm⟩ := List.exists_mem_of_ne_nil _ hturn.nonempty
    refine ⟨m, ?_, hturn.role m hm⟩
    rw [← List.flatten_splitBy sameRole (grouped messages)]
    exact List.mem_flatten.mpr ⟨group, hgroup, hm⟩
  have hroles : ∀ turn ∈ (grouped messages).foldl addTurn [],
      turn.role = .user ∨ turn.role = .assistant := by
    intro turn hmem
    obtain ⟨m, hm, hrole⟩ := hfrom turn hmem
    have hsystem := (List.mem_filter.mp (List.dropWhile_subset _ hm)).2
    rw [← hrole]
    cases hm' : m.role with
    | system => simp [hm'] at hsystem
    | user => exact .inl rfl
    | assistant => exact .inr rfl
  refine ⟨?_, hgrouped.alternate, hroles, ?_, hmerged⟩
  · intro turn hmem
    exact (hroles turn (List.mem_of_mem_head? hmem)).resolve_right (hnotAssistant turn hmem)
  · intro turn hmem
    obtain ⟨group, -, hturn⟩ := exists_of_mem_left hmerged hmem
    exact hturn.blocks

/-! ## The loop for Gemini -/

/-- A block in Gemini's terms. -/
def TurnBlock.toGemini : TurnBlock → GeminiPart
  | .text content => .text content
  | .image mediaType data => .inlineData mediaType data

/-- A turn as the Gemini loop holds it. -/
def BlockTurn.toGemini (turn : BlockTurn) : GeminiContent :=
  ⟨geminiContentRole turn.role, turn.content.map (·.toGemini)⟩

/-- The roles of a dialogue keep apart. -/
theorem geminiContentRole_eq_iff {role role' : ChatRole} (h : role ≠ .system)
    (h' : role' ≠ .system) : geminiContentRole role = geminiContentRole role' ↔ role = role' := by
  cases role <;> cases role' <;> simp_all [geminiContentRole]

/-- The parts of a message are its blocks. -/
theorem geminiMessageParts_eq (m : ChatTurn) :
    geminiMessageParts m = (turnBlocks m).map (·.toGemini) := by
  -- the same images are kept, each as the part its block stands for
  have hparts : m.images.filterMap geminiInlineImage = (imageBlocks m).map (·.toGemini) := by
    rw [imageBlocks_eq, keptImages, List.map_filterMap, List.map_filterMap]
    refine List.filterMap_congr fun url _ => ?_
    rw [geminiInlineImage, Option.map_map]
    rfl
  have hnil : m.images.filterMap geminiInlineImage = [] ↔ imageBlocks m = [] := by
    rw [hparts, List.map_eq_nil_iff]
  unfold geminiMessageParts turnBlocks
  dsimp only
  -- the text stays under the same condition
  by_cases htext : JsString.trim m.content ≠ "" ∨ imageBlocks m = []
  · rw [if_pos htext, if_pos (by rwa [hnil]), hparts, List.map_append]
    rfl
  · rw [if_neg htext, if_neg (by rwa [hnil]), hparts, List.append_nil]

/-- Texts are joined alike. -/
theorem joinLastText_map (new : String) (content : List TurnBlock) :
    joinLastText new (content.map (·.toGemini)) =
      (mergeText new content).map (·.map (·.toGemini)) := by
  induction content with
  | nil => rfl
  | cons block blocks ih =>
    rw [List.map_cons]
    unfold joinLastText mergeText
    rw [ih]
    cases mergeText new blocks with
    | some merged => rfl
    | none => cases block <;> rfl

/-- So a part is pushed as its block is. -/
theorem pushPart_map (content : List TurnBlock) (block : TurnBlock) :
    pushPart (content.map (·.toGemini)) block.toGemini =
      (pushBlock content block).map (·.toGemini) := by
  cases block with
  | image mediaType data =>
    show content.map (·.toGemini) ++ [_] = (content ++ [TurnBlock.image _ _]).map (·.toGemini)
    rw [List.map_append]
    rfl
  -- a text is joined to the last one, or put behind everything
  | text new =>
    show (joinLastText new (content.map (·.toGemini))).getD (content.map (·.toGemini) ++ [_]) =
      ((mergeText new content).getD (content ++ [.text new])).map (·.toGemini)
    rw [joinLastText_map]
    cases mergeText new content with
    | some merged => rfl
    | none =>
      simp only [Option.map_none, Option.getD_none, List.map_append]
      rfl

/-- And parts as their blocks are. -/
theorem foldl_pushPart_map (blocks content : List TurnBlock) :
    (blocks.map (·.toGemini)).foldl pushPart (content.map (·.toGemini)) =
      (blocks.foldl pushBlock content).map (·.toGemini) := by
  induction blocks generalizing content with
  | nil => rfl
  | cons block blocks ih => rw [List.map_cons, List.foldl_cons, List.foldl_cons, pushPart_map, ih]

/-- One pass of either loop. -/
theorem addContent_map {turns : List BlockTurn} {m : ChatTurn}
    (h : ∀ turn ∈ turns, turn.role ≠ .system) (hm : m.role ≠ .system) :
    addContent (turns.map (·.toGemini)) m = (addTurn turns m).map (·.toGemini) := by
  cases turns using turns_cases with
  | nil =>
    show [GeminiContent.mk _ (geminiMessageParts m)] = _
    rw [geminiMessageParts_eq]
    rfl
  | append turns last =>
    have hsame : last.toGemini.role = geminiContentRole m.role ↔ last.role = m.role :=
      geminiContentRole_eq_iff (h last (by simp)) hm
    rw [addTurn_append]
    unfold addContent
    rw [List.map_append, List.map_singleton, List.getLast?_append, List.getLast?_singleton]
    dsimp only [Option.some_or]
    -- Gemini merges exactly the turns whose roles agree
    by_cases hrole : last.role = m.role
    · rw [if_pos hrole, if_pos (hsame.mpr hrole), List.dropLast_concat,
        geminiMessageParts_eq, List.map_append]
      refine congrArg (turns.map (·.toGemini) ++ ·) (congrArg (fun content => [content]) ?_)
      exact congrArg (GeminiContent.mk _) (foldl_pushPart_map ..)
    · rw [if_neg hrole, if_neg (fun heq => hrole (hsame.mp heq)),
        geminiMessageParts_eq, List.append_assoc, List.map_append]
      rfl

/-- No turn is the system's. -/
theorem addTurn_not_system {turns : List BlockTurn} {m : ChatTurn}
    (h : ∀ turn ∈ turns, turn.role ≠ .system) (hm : m.role ≠ .system) :
    ∀ turn ∈ addTurn turns m, turn.role ≠ .system := by
  cases turns using turns_cases with
  | nil =>
    intro turn hmem
    obtain rfl := List.mem_singleton.mp hmem
    exact hm
  | append turns last =>
    have hlast := h last (by simp)
    rw [addTurn_append]
    intro turn hmem
    -- the turn is merged into the last one, or goes behind it
    split at hmem
    · rcases List.mem_append.mp hmem with hmem | hmem
      · exact h turn (List.mem_append_left _ hmem)
      · obtain rfl := List.mem_singleton.mp hmem
        exact hlast
    · rcases List.mem_append.mp hmem with hmem | hmem
      · exact h turn (List.mem_append_left _ hmem)
      · rcases List.mem_cons.mp hmem with rfl | hmem
        · exact hlast
        · obtain rfl := List.mem_singleton.mp hmem
          exact hm

/-- The loop for Gemini groups as the one for blocks does. -/
theorem foldl_addContent_map {messages : List ChatTurn} (hmessages : ∀ m ∈ messages, m.role ≠ .system)
    {turns : List BlockTurn} (h : ∀ turn ∈ turns, turn.role ≠ .system) :
    messages.foldl addContent (turns.map (·.toGemini)) =
      (messages.foldl addTurn turns).map (·.toGemini) := by
  induction messages generalizing turns with
  | nil => rfl
  | cons m messages ih =>
    rw [List.forall_mem_cons] at hmessages
    rw [List.foldl_cons, List.foldl_cons, addContent_map h hmessages.1,
      ih hmessages.2 (addTurn_not_system h hmessages.1)]

/-- The two loops build the same turns. -/
theorem geminiContents_eq (messages : List ChatTurn) :
    geminiContents messages = (alternatingTurns messages).map (·.toGemini) := by
  have hmessages : ∀ m ∈ dialogue messages, m.role ≠ .system := by
    intro m hmem
    simpa using (List.mem_filter.mp hmem).2
  have hnone : ∀ turn ∈ ([] : List BlockTurn), turn.role ≠ .system := by simp
  -- the loop of the one encoder is that of the other, part by block
  have hloop := foldl_addContent_map hmessages hnone
  unfold geminiContents alternatingTurns
  rw [List.map_nil] at hloop
  rw [hloop, List.dropWhile_map]
  congr 1
  refine congrArg (fun p => List.dropWhile p _) (funext fun turn => ?_)
  cases hrole : turn.role <;> simp [BlockTurn.toGemini, geminiContentRole, hrole]

/-! ## The bodies -/

/-- The texts of the system messages that are not blank, in order. -/
def hoistedTexts (messages : List ChatTurn) : List String :=
  ((messages.filter (·.role = .system)).map (·.content)).filter (JsString.trim · ≠ "")

/-- The system text of a body: these, with a blank line between them, or none. -/
def hoistedText (messages : List ChatTurn) : Option String := (joined (hoistedTexts messages)).head?

/-- What the Gemini body hoists. -/
theorem systemParts_eq (messages : List ChatTurn) : systemParts messages = hoistedTexts messages := by
  induction messages with
  | nil => rfl
  | cons m messages ih =>
    unfold systemParts hoistedTexts at *
    rw [List.filterMap_cons]
    by_cases hrole : m.role = .system
    · by_cases hblank : JsString.trim m.content ≠ ""
      -- a system message is hoisted unless it is blank
      · simp [hrole, hblank, ih]
      · simp [hrole, hblank, ih]
    · simp [hrole, ih]

/-- And what the other bodies hoist. -/
theorem joinedSystem_eq (messages : List ChatTurn) : joinedSystem messages = hoistedText messages := by
  rw [joinedSystem, systemParts_eq, hoistedText, joined]
  cases hoistedTexts messages <;> rfl

/-- The binding reaches an Anthropic model, and not by the Responses API. -/
structure InferenceRequest.IsAnthropic (request : InferenceRequest) : Prop where
  model : startsWith request.modelId "anthropic/" = true
  chat : request.api ≠ .responses
  single : isMultiAgentModel request.modelId = false

/-- A text starts with one of two prefixes only, where neither starts with the other. -/
theorem startsWith_exclusive {text a b : String} (ha : startsWith text a = true)
    (hab : startsWith a b = false) (hba : startsWith b a = false) : startsWith text b = false := by
  by_contra hb
  rw [Bool.not_eq_false] at hb
  unfold startsWith at ha hb hab hba
  rw [List.isPrefixOf_iff_prefix] at ha hb
  -- of two prefixes of one text the one is a prefix of the other
  rcases List.prefix_or_prefix_of_prefix ha hb with h | h
  · rw [← List.isPrefixOf_iff_prefix, hba] at h
    cases h
  · rw [← List.isPrefixOf_iff_prefix, hab] at h
    cases h

/-- An Anthropic model is sent the Anthropic body. -/
theorem bindingChatBody_anthropic {request : InferenceRequest} (h : request.IsAnthropic) :
    bindingChatBody request = anthropicBindingBody request := by
  have hgemini : isGeminiModel request.modelId = false := by
    rw [isGeminiModel, Bool.or_eq_false_iff]
    exact ⟨startsWith_exclusive h.model (by decide) (by decide),
      startsWith_exclusive h.model (by decide) (by decide)⟩
  rw [bindingChatBody, if_neg (by simp [h.chat, h.single]), if_neg (by simp [hgemini]),
    if_pos h.model]

/-- What both builders send of the messages of a request. -/
structure BindingTurns (request : InferenceRequest) (turns : List BlockTurn) : Prop where
  runs : TurnsOf request.messages turns
  anthropicMessages : request.IsAnthropic →
    (bindingChatBody request).field "messages" = some (.arr (turns.map anthropicTurn))
  anthropicSystem : request.IsAnthropic →
    (bindingChatBody request).field "system" = (hoistedText request.messages).map .str
  geminiLoop : geminiContents request.messages = turns.map (·.toGemini)
  contents : (geminiBindingBody request).field "contents" =
    some (.arr ((turns.map (·.toGemini)).map (·.toJson)))
  geminiSystem : (geminiBindingBody request).field "systemInstruction" =
    (hoistedText request.messages).map fun text =>
      .obj [("parts", .arr [.obj [("text", .str text)]])]

/-- The turns of an Anthropic body, and its system text. -/
theorem field_anthropicBindingBody (request : InferenceRequest) :
    (anthropicBindingBody request).field "messages" =
        some (.arr ((alternatingTurns request.messages).map anthropicTurn)) ∧
      (anthropicBindingBody request).field "system" = (hoistedText request.messages).map .str := by
  rw [← joinedSystem_eq]
  unfold anthropicBindingBody samplingFields
  constructor
  · simp [anthropicTurn]
  · cases joinedSystem request.messages <;> cases request.temperature <;> cases request.topP <;>
      cases request.stream <;> simp

/-- A turn of a dialogue is written the same way. -/
theorem toJson_toGemini {turn : BlockTurn} (h : turn.role = .user ∨ turn.role = .assistant) :
    turn.toGemini.toJson = geminiTurn turn := by
  have hparts : (turn.content.map (·.toGemini)).map (·.toJson) = turn.content.map geminiPart := by
    rw [List.map_map]
    refine List.map_congr_left fun block _ => ?_
    cases block <;> rfl
  -- a turn of the dialogue is no system turn
  have hrole : geminiContentRole turn.role = geminiRole turn.role := by
    rcases h with h | h <;> rw [h] <;> rfl
  show Json.obj [("role", .str (geminiContentRole turn.role)),
    ("parts", .arr ((turn.content.map (·.toGemini)).map (·.toJson)))] = _
  rw [hparts, hrole]
  rfl

/-- The turns of a Gemini body, and its system text. -/
theorem field_geminiBindingBody (request : InferenceRequest) :
    (geminiBindingBody request).field "contents" =
        some (.arr ((alternatingTurns request.messages).map geminiTurn)) ∧
      (geminiBindingBody request).field "systemInstruction" =
        (hoistedText request.messages).map fun text =>
          .obj [("parts", .arr [.obj [("text", .str text)]])] := by
  rw [← joinedSystem_eq]
  unfold geminiBindingBody
  constructor
  · simp [geminiTurn]
  · cases joinedSystem request.messages <;> simp

/-- The body holds the contents that the loop of `geminiBindingBody` builds. -/
theorem field_contents (request : InferenceRequest) :
    (geminiBindingBody request).field "contents" =
      some (.arr ((geminiContents request.messages).map (·.toJson))) := by
  rw [(field_geminiBindingBody request).1, geminiContents_eq, List.map_map]
  congr 2
  refine (List.map_congr_left fun turn hmem => ?_).symm
  exact toJson_toGemini ((turnsOf_alternatingTurns request.messages).roles turn hmem)

/-- Both builders send the same turns, and these are the runs of the messages. -/
theorem binding_turns (request : InferenceRequest) : ∃ turns, BindingTurns request turns := by
  refine ⟨alternatingTurns request.messages, turnsOf_alternatingTurns _, ?_, ?_,
    geminiContents_eq _, ?_, ?_⟩
  · intro hanthropic
    rw [bindingChatBody_anthropic hanthropic]
    exact (field_anthropicBindingBody request).1
  -- the hoisted texts are its system field
  · intro hanthropic
    rw [bindingChatBody_anthropic hanthropic]
    exact (field_anthropicBindingBody request).2
  · rw [field_contents, geminiContents_eq]
  · exact (field_geminiBindingBody request).2

end ControlPlane
