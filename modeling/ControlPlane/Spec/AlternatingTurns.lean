import ControlPlane.Model.Upstream
import Mathlib.Data.List.Induction
import Mathlib.Data.List.TakeWhile

/-!
# What the alternating turns hold

Providers that want strict alternation get neighbours of one role merged and leading
assistant turns dropped. A block that was pushed into a turn stays there: an image as it
is, a text inside a longer one.

## Key results

- `holds_foldl_pushBlock`: a turn holds the blocks pushed into it
- `alternatingTurns_eq`: only the leading assistant turns are dropped
- `alternatingTurns_hold`: each other turn is held by one of its role
-/

namespace ControlPlane

/-- The content has the block, a text possibly inside a longer text. -/
def Holds (content : List TurnBlock) : TurnBlock → Prop
  | .text text => ∃ longer, .text longer ∈ content ∧ text.toList <:+: longer.toList
  | .image mediaType data => .image mediaType data ∈ content

/-- What one content has, the other one has too. -/
def HoldsAll (content content' : List TurnBlock) : Prop :=
  ∀ block, Holds content block → Holds content' block

theorem holds_of_mem {content : List TurnBlock} {block : TurnBlock} (h : block ∈ content) :
    Holds content block := by
  cases block with
  | text text => exact ⟨text, h, List.infix_refl _⟩
  | image mediaType data => exact h

theorem holdsAll_of_subset {content content' : List TurnBlock}
    (h : ∀ block ∈ content, block ∈ content') : HoldsAll content content' := by
  intro block hold
  cases block with
  | text text =>
    obtain ⟨longer, hmem, hinfix⟩ := hold
    exact ⟨longer, h _ hmem, hinfix⟩
  | image mediaType data => exact h _ hold

/-! ## Merging blocks -/

theorem infix_joinTexts_left (a b : String) : a.toList <:+: (joinTexts a b).toList := by
  unfold joinTexts
  split
  next h =>
    rw [h]
    exact List.nil_infix
  next =>
    rw [String.append_assoc, String.toList_append]
    exact (List.prefix_append _ _).isInfix

theorem infix_joinTexts_right (a b : String) : b.toList <:+: (joinTexts a b).toList := by
  unfold joinTexts
  split
  · exact List.infix_refl _
  · rw [String.toList_append]
    exact (List.suffix_append _ _).isInfix

/-- A merged text is in the content, and nothing is lost. -/
theorem mergeText_some {new : String} {content merged : List TurnBlock}
    (h : mergeText new content = some merged) :
    Holds merged (.text new) ∧ HoldsAll content merged := by
  induction content generalizing merged with
  | nil => cases h
  | cons block blocks ih =>
    unfold mergeText at h
    cases htail : mergeText new blocks with
    -- a later block took the text: this one stands as it was
    | some tail =>
      rw [htail] at h
      obtain rfl := Option.some.inj h
      obtain ⟨⟨longer, hmem, hinfix⟩, hall⟩ := ih htail
      refine ⟨⟨longer, List.mem_cons_of_mem _ hmem, hinfix⟩, ?_⟩
      intro other hold
      cases other with
      | text text =>
        obtain ⟨longer, hmem, hinfix⟩ := hold
        cases hmem with
        | head => exact ⟨longer, List.mem_cons_self, hinfix⟩
        | tail _ hmem =>
          obtain ⟨longer', hmem', hinfix'⟩ := hall (.text text) ⟨longer, hmem, hinfix⟩
          exact ⟨longer', List.mem_cons_of_mem _ hmem', hinfix'⟩
      | image mediaType data =>
        cases hold with
        | head => exact List.mem_cons_self
        | tail _ hmem => exact List.mem_cons_of_mem _ (hall (.image mediaType data) hmem)
    | none =>
      rw [htail] at h
      cases block with
      | image mediaType data => cases h
      | text old =>
        -- the last text: both texts are in the joined one
        obtain rfl := Option.some.inj h
        refine ⟨⟨_, List.mem_cons_self, infix_joinTexts_right old new⟩, ?_⟩
        intro other hold
        cases other with
        | text text =>
          obtain ⟨longer, hmem, hinfix⟩ := hold
          cases hmem with
          | head =>
            exact ⟨_, List.mem_cons_self, hinfix.trans (infix_joinTexts_left _ new)⟩
          | tail _ hmem => exact ⟨longer, List.mem_cons_of_mem _ hmem, hinfix⟩
        | image mediaType data =>
          cases hold with
          | tail _ hmem => exact List.mem_cons_of_mem _ hmem

theorem holds_pushBlock (content : List TurnBlock) (block : TurnBlock) :
    Holds (pushBlock content block) block ∧ HoldsAll content (pushBlock content block) := by
  have happend : Holds (content ++ [block]) block ∧ HoldsAll content (content ++ [block]) :=
    ⟨holds_of_mem (List.mem_append_right _ List.mem_cons_self),
      holdsAll_of_subset fun _ hmem => List.mem_append_left _ hmem⟩
  cases block with
  | image mediaType data => exact happend
  | text text =>
    unfold pushBlock
    dsimp only
    cases hmerge : mergeText text content with
    | none => exact happend
    | some merged => exact mergeText_some hmerge

/-- A turn holds what was pushed into it, and what it held before. -/
theorem holds_foldl_pushBlock (blocks : List TurnBlock) (content : List TurnBlock) :
    (∀ block ∈ blocks, Holds (blocks.foldl pushBlock content) block) ∧
      HoldsAll content (blocks.foldl pushBlock content) := by
  induction blocks generalizing content with
  | nil => exact ⟨by simp, fun _ hold => hold⟩
  | cons block blocks ih =>
    obtain ⟨hheld, hall⟩ := holds_pushBlock content block
    obtain ⟨hrest, hkept⟩ := ih (pushBlock content block)
    refine ⟨?_, fun other hold => hkept other (hall other hold)⟩
    intro other hmem
    cases hmem with
    | head => exact hkept block hheld
    | tail _ hmem => exact hrest other hmem

/-! ## Merging turns -/

/-- A turn of the role that holds the blocks of the message. -/
def TurnsHold (turns : List BlockTurn) (m : ChatTurn) : Prop :=
  ∃ turn ∈ turns, turn.role = m.role ∧ ∀ block ∈ turnBlocks m, Holds turn.content block

/-- Merge a message into a turn of its role. -/
def mergeTurn (last : BlockTurn) (m : ChatTurn) : BlockTurn :=
  { last with content := (turnBlocks m).foldl pushBlock last.content }

/-- What `addTurn` does: the last turn takes the message, or a new one follows. -/
theorem addTurn_append (turns : List BlockTurn) (last : BlockTurn) (m : ChatTurn) :
    addTurn (turns ++ [last]) m =
      if last.role = m.role then turns ++ [mergeTurn last m]
      else turns ++ [last, ⟨m.role, turnBlocks m⟩] := by
  unfold addTurn mergeTurn
  rw [List.getLast?_append, List.getLast?_singleton]
  dsimp only [Option.some_or]
  rw [List.dropLast_concat, List.append_assoc]
  rfl

theorem addTurn_nil (m : ChatTurn) : addTurn [] m = [⟨m.role, turnBlocks m⟩] := rfl

/-- Every list of turns is empty or has a last one. -/
theorem turns_cases {motive : List BlockTurn → Prop} (nil : motive [])
    (append : ∀ turns last, motive (turns ++ [last])) (turns : List BlockTurn) : motive turns := by
  cases turns using List.reverseRecOn with
  | nil => exact nil
  | append_singleton turns last => exact append turns last

theorem addTurn_holds (turns : List BlockTurn) (m : ChatTurn) :
    TurnsHold (addTurn turns m) m ∧ ∀ m', TurnsHold turns m' → TurnsHold (addTurn turns m) m' := by
  cases turns using turns_cases with
  | nil =>
    refine ⟨⟨_, List.mem_cons_self, rfl, fun block hmem => holds_of_mem hmem⟩, ?_⟩
    rintro m' ⟨turn, hmem, -⟩
    cases hmem
  | append turns last =>
    rw [addTurn_append]
    obtain ⟨hheld, hall⟩ := holds_foldl_pushBlock (turnBlocks m) last.content
    split
    next hrole =>
      refine ⟨⟨mergeTurn last m, by simp, hrole, hheld⟩, ?_⟩
      rintro m' ⟨turn, hmem, hturn, hblocks⟩
      cases List.mem_append.mp hmem with
      | inl hmem => exact ⟨turn, List.mem_append_left _ hmem, hturn, hblocks⟩
      | inr hmem =>
        rw [List.mem_singleton.mp hmem] at hturn hblocks
        exact ⟨mergeTurn last m, by simp, hturn, fun block hblock => hall _ (hblocks block hblock)⟩
    next =>
      refine ⟨⟨⟨m.role, turnBlocks m⟩, by simp, rfl, fun block hmem => holds_of_mem hmem⟩, ?_⟩
      rintro m' ⟨turn, hmem, hturn, hblocks⟩
      refine ⟨turn, ?_, hturn, hblocks⟩
      cases List.mem_append.mp hmem with
      | inl hmem => exact List.mem_append_left _ hmem
      | inr hmem => exact List.mem_append_right _ (by simp [List.mem_singleton.mp hmem])

/-- Every message is held once all are added. -/
theorem foldl_addTurn_holds (messages : List ChatTurn) (turns : List BlockTurn) :
    (∀ m ∈ messages, TurnsHold (messages.foldl addTurn turns) m) ∧
      ∀ m, TurnsHold turns m → TurnsHold (messages.foldl addTurn turns) m := by
  induction messages generalizing turns with
  | nil => exact ⟨by simp, fun _ hold => hold⟩
  | cons m messages ih =>
    obtain ⟨hheld, hkept⟩ := addTurn_holds turns m
    obtain ⟨hrest, hall⟩ := ih (addTurn turns m)
    refine ⟨?_, fun m' hold => hall m' (hkept m' hold)⟩
    intro m' hmem
    cases hmem with
    | head => exact hall m hheld
    | tail _ hmem => exact hrest m' hmem

/-! ## Leading assistant turns -/

/-- Only the last turn is ever touched. -/
theorem foldl_addTurn_append (messages : List ChatTurn) (front : List BlockTurn)
    {turns : List BlockTurn} (hne : turns ≠ []) :
    messages.foldl addTurn (front ++ turns) = front ++ messages.foldl addTurn turns := by
  induction messages generalizing turns with
  | nil => rfl
  | cons m messages ih =>
    have hstep : addTurn (front ++ turns) m = front ++ addTurn turns m ∧ addTurn turns m ≠ [] := by
      cases turns using turns_cases with
      | nil => exact absurd rfl hne
      | append turns last =>
        rw [← List.append_assoc, addTurn_append, addTurn_append]
        split <;> simp
    rw [List.foldl_cons, List.foldl_cons, hstep.1, ih hstep.2]

/-- The first turn keeps its role. -/
theorem foldl_addTurn_head (messages : List ChatTurn) (first : BlockTurn) (turns : List BlockTurn) :
    ∃ first' turns', messages.foldl addTurn (first :: turns) = first' :: turns' ∧
      first'.role = first.role := by
  induction messages generalizing first turns with
  | nil => exact ⟨first, turns, rfl, rfl⟩
  | cons m messages ih =>
    have hstep : ∃ first' turns', addTurn (first :: turns) m = first' :: turns' ∧
        first'.role = first.role := by
      -- a turn is merged into the last one, which may be the first
      cases turns using turns_cases with
      | nil =>
        have h := addTurn_append [] first m
        rw [List.nil_append] at h
        rw [h]
        split
        · exact ⟨mergeTurn first m, [], rfl, rfl⟩
        · exact ⟨first, _, rfl, rfl⟩
      | append turns last =>
        have h := addTurn_append (first :: turns) last m
        rw [List.cons_append] at h
        rw [h]
        split
        · exact ⟨first, _, rfl, rfl⟩
        · exact ⟨first, _, rfl, rfl⟩
    obtain ⟨first', turns', heq, hrole⟩ := hstep
    obtain ⟨first'', turns'', heq', hrole'⟩ := ih first' turns'
    exact ⟨first'', turns'', by rw [List.foldl_cons, heq, heq'], hrole'.trans hrole⟩

/-- Assistant messages make assistant turns. -/
theorem foldl_addTurn_assistant {messages : List ChatTurn}
    (h : ∀ m ∈ messages, m.role = .assistant) {turns : List BlockTurn}
    (hturns : ∀ turn ∈ turns, turn.role = .assistant) :
    ∀ turn ∈ messages.foldl addTurn turns, turn.role = .assistant := by
  induction messages generalizing turns with
  | nil => exact hturns
  | cons m messages ih =>
    have hm := h m List.mem_cons_self
    apply ih (fun m' hmem => h m' (List.mem_cons_of_mem m hmem))
    cases turns using turns_cases with
    | nil =>
      intro turn hmem
      rw [List.mem_singleton.mp hmem]
      exact hm
    -- the last turn is an assistant's, so the message is merged into it
    | append turns last =>
      have hlast := hturns last (by simp)
      rw [addTurn_append, if_pos (hlast.trans hm.symm)]
      intro turn hmem
      cases List.mem_append.mp hmem with
      | inl hmem => exact hturns turn (List.mem_append_left _ hmem)
      | inr hmem =>
        rw [List.mem_singleton.mp hmem]
        exact hlast

/-- Dropping the leading assistant turns after the merge is dropping the leading assistant
    messages before it. -/
theorem alternatingTurns_eq (messages : List ChatTurn) :
    alternatingTurns messages =
      ((dialogue messages).dropWhile (·.role = .assistant)).foldl addTurn [] := by
  unfold alternatingTurns
  have hlead : ∀ m ∈ (dialogue messages).takeWhile (·.role = .assistant), m.role = .assistant := by
    intro m hmem
    simpa using List.mem_takeWhile_imp hmem
  have hnone : ∀ turn ∈ ([] : List BlockTurn), turn.role = .assistant := by simp
  have hassistant := foldl_addTurn_assistant hlead hnone
  -- the merge of the leading assistant messages gives turns that are all dropped
  conv_lhs => rw [← List.takeWhile_append_dropWhile (p := fun m : ChatTurn => m.role = .assistant)
    (l := dialogue messages), List.foldl_append]
  generalize ((dialogue messages).takeWhile (·.role = .assistant)).foldl addTurn [] = front
    at hassistant
  have hdrop (turns : List BlockTurn) : (front ++ turns).dropWhile (·.role = .assistant) =
      turns.dropWhile (·.role = .assistant) :=
    List.dropWhile_append_of_pos (by simpa using hassistant)
  cases hkept : (dialogue messages).dropWhile (·.role = .assistant) with
  | nil =>
    have h := hdrop []
    rwa [List.append_nil] at h
  | cons m kept =>
    have hrole : m.role ≠ .assistant := by
      have h := List.head?_dropWhile_not (fun m : ChatTurn => decide (m.role = .assistant))
        (dialogue messages)
      rw [hkept] at h
      simpa using h
    -- a turn that is not the assistant's starts afresh
    have hstart : addTurn front m = front ++ [⟨m.role, turnBlocks m⟩] := by
      cases front using turns_cases with
      | nil => rfl
      | append front last =>
        have hlast := hassistant last (by simp)
        rw [addTurn_append, if_neg (fun h => hrole (h.symm.trans hlast)), List.append_assoc]
        rfl
    rw [List.foldl_cons, List.foldl_cons, hstart, foldl_addTurn_append _ _ (by simp), hdrop,
      addTurn_nil]
    obtain ⟨first, turns, heq, hfirst⟩ := foldl_addTurn_head kept ⟨m.role, turnBlocks m⟩ []
    rw [heq, List.dropWhile_cons_of_neg (by simpa [hfirst] using hrole)]

/-- Every message after the leading assistant ones is held by a turn of its role. -/
theorem alternatingTurns_hold {messages : List ChatTurn} {m : ChatTurn}
    (h : m ∈ (dialogue messages).dropWhile (·.role = .assistant)) :
    TurnsHold (alternatingTurns messages) m := by
  rw [alternatingTurns_eq]
  exact (foldl_addTurn_holds _ []).1 m h

end ControlPlane
