import Mathlib.Algebra.GroupWithZero.Nat
import ControlPlane.ForStd.Utf16

/-!
# Cutting UTF-16 text

A text can be cut between any two code units. Where the two are the halves of a
surrogate pair the cut leaves half a character on either side; everywhere else both
sides are texts again.

## Key results

- `wellFormed_cut_iff`: both sides of a cut are texts iff the cut splits no pair
- `wellFormed_slices_iff`: the same for a text cut into slices of one length
- `utf8Length_flatten`: the bytes of well-formed pieces are the bytes of the whole
-/

namespace Utf16

/-- Units that are the units of some text. -/
def WellFormed (us : List UInt16) : Prop := ∃ s, encode s = us

/-- The units at `i` and after it are the two halves of a pair. -/
def pairAt (us : List UInt16) (i : Nat) : Bool :=
  us[i]?.any isHigh && us[i + 1]?.any isLow

/-- What an encoder to bytes writes for some units. -/
def utf8Length (us : List UInt16) : Nat := (String.ofList (decode us)).utf8ByteSize

/-! ## Characters -/

/-- A low surrogate is no high one. -/
theorem isHigh_of_isLow {u : UInt16} (h : isLow u = true) : isHigh u = false := by
  simp only [isLow, isHigh, Bool.and_eq_true, decide_eq_true_eq, Bool.and_eq_false_iff,
    decide_eq_false_iff_not] at h ⊢
  omega

/-! ## Well-formed units -/

/-- The units of a string are well formed. -/
theorem wellFormed_encode (s : String) : WellFormed (encode s) := ⟨s, rfl⟩

/-- So are the units of characters. -/
theorem wellFormed_chars (cs : List Char) : WellFormed (cs.flatMap encodeChar) :=
  ⟨String.ofList cs, by rw [encode, String.toList_ofList]⟩

/-- No unit at all is well formed. -/
theorem wellFormed_nil : WellFormed [] := wellFormed_encode ""

/-- Well-formed units one after the other are well formed. -/
theorem WellFormed.append {us vs : List UInt16} (h : WellFormed us) (h' : WellFormed vs) :
    WellFormed (us ++ vs) := by
  obtain ⟨s, rfl⟩ := h
  obtain ⟨t, rfl⟩ := h'
  exact ⟨s ++ t, by simp [encode]⟩

/-- And so are any number of them. -/
theorem WellFormed.flatten {uss : List (List UInt16)} (h : ∀ us ∈ uss, WellFormed us) :
    WellFormed uss.flatten := by
  induction uss with
  | nil => exact wellFormed_nil
  | cons us uss ih =>
    rw [List.flatten_cons]
    apply WellFormed.append
    · exact h us List.mem_cons_self
    · exact ih fun vs hvs => h vs (List.mem_cons_of_mem us hvs)

/-- A text never ends in the first half of a pair. -/
theorem WellFormed.last {us : List UInt16} {u : UInt16} (h : WellFormed (us ++ [u])) :
    isHigh u = false := by
  obtain ⟨s, hs⟩ := h
  unfold encode at hs
  cases List.eq_nil_or_concat s.toList with
  | inl hnil => simp [hnil] at hs
  | inr hlast =>
    obtain ⟨cs, c, hlast⟩ := hlast
    rw [List.concat_eq_append] at hlast
    rw [hlast, List.flatMap_append, List.flatMap_singleton] at hs
    -- the last character is one unit, or ends in a low surrogate
    obtain ⟨v, hc, hsingle, -⟩ | ⟨hi, lo, hc, hhi, hlo, -⟩ := encodeChar_cases c
    · rw [hc] at hs
      have hu : v = u := List.singleton_inj.mp (List.append_inj' hs rfl).2
      exact hu ▸ (Bool.or_eq_false_iff.mp hsingle).1
    · rw [hc, show [hi, lo] = [hi] ++ [lo] from rfl, ← List.append_assoc] at hs
      have hu : lo = u := List.singleton_inj.mp (List.append_inj' hs rfl).2
      exact hu ▸ isHigh_of_isLow hlo

/-! ## Cuts -/

/-- A pair behind a cut is a pair of the whole. -/
theorem pairAt_drop (us : List UInt16) (n i : Nat) : pairAt (us.drop n) i = pairAt us (n + i) := by
  rw [pairAt, pairAt, List.getElem?_drop, List.getElem?_drop, Nat.add_assoc]

/-- A unit that is no surrogate stands alone. -/
theorem wellFormed_singleton {u : UInt16} (h : isSurrogate u = false) : WellFormed [u] := by
  have hchar := wellFormed_chars [decodeUnit u]
  rw [List.flatMap_singleton, encodeChar_decodeUnit h] at hchar
  exact hchar

/-- A high surrogate and a low one stand together. -/
theorem wellFormed_pair {hi lo : UInt16} (hhi : isHigh hi = true) (hlo : isLow lo = true) :
    WellFormed [hi, lo] := by
  have hchar := wellFormed_chars [pair hi lo]
  rw [List.flatMap_singleton, encodeChar_pair hhi hlo] at hchar
  exact hchar

/-- A cut between two characters leaves both sides well formed. -/
theorem wellFormed_cut_chars (cs : List Char) (i : Nat)
    (h : pairAt (cs.flatMap encodeChar) i = false) :
    WellFormed ((cs.flatMap encodeChar).take (i + 1)) ∧
      WellFormed ((cs.flatMap encodeChar).drop (i + 1)) := by
  induction cs generalizing i with
  | nil => exact ⟨wellFormed_nil, wellFormed_nil⟩
  | cons c cs ih =>
    rw [List.flatMap_cons] at h ⊢
    obtain ⟨u, hc, hsingle, -⟩ | ⟨hi, lo, hc, hhi, hlo, -⟩ := encodeChar_cases c
    · -- one unit: the cut is after it, or inside what follows
      rw [hc, List.singleton_append] at h ⊢
      cases i with
      | zero => exact ⟨wellFormed_singleton hsingle, wellFormed_chars cs⟩
      | succ i =>
        obtain ⟨htake, hdrop⟩ := ih i h
        exact ⟨(wellFormed_singleton hsingle).append htake, hdrop⟩
    · -- a pair: the cut is inside it, after it, or inside what follows
      rw [hc, List.cons_append, List.singleton_append] at h ⊢
      cases i with
      | zero =>
        -- the cut inside the pair is the one that is excluded
        rw [pairAt] at h
        simp [hhi, hlo] at h
      | succ i =>
        cases i with
        | zero => exact ⟨wellFormed_pair hhi hlo, wellFormed_chars cs⟩
        | succ i =>
          obtain ⟨htake, hdrop⟩ := ih i h
          exact ⟨(wellFormed_pair hhi hlo).append htake, hdrop⟩

/-- Both sides of a cut are texts, except where the cut splits a pair. -/
theorem wellFormed_cut_iff {us : List UInt16} (h : WellFormed us) (i : Nat) :
    WellFormed (us.take (i + 1)) ∧ WellFormed (us.drop (i + 1)) ↔ pairAt us i = false := by
  constructor
  · intro ⟨htake, _⟩
    rw [pairAt]
    cases hu : us[i]? with
    | none => rfl
    | some u =>
      -- the head of the cut ends in `u`
      have hconcat : us.take (i + 1) = us.take i ++ [u] := by
        rw [List.take_add_one, hu, Option.toList_some]
      rw [hconcat] at htake
      simp [htake.last]
  · obtain ⟨s, rfl⟩ := h
    exact wellFormed_cut_chars s.toList i

/-! ## Slices of one length -/

/-- The text in slices of `n + 1` units, the last one shorter. -/
def slices (n : Nat) (us : List UInt16) : List (List UInt16) :=
  (List.range ((us.length + n) / (n + 1))).map fun k => (us.drop (k * (n + 1))).take (n + 1)

/-- No unit gives no slice. -/
theorem slices_nil (n : Nat) : slices n [] = [] := by
  have hzero : ([] : List UInt16).length + n < n + 1 := by simp
  rw [slices, Nat.div_eq_of_lt hzero]
  rfl

/-- The first slice, and the slices of the rest. -/
theorem slices_of_ne_nil {us : List UInt16} (h : us ≠ []) (n : Nat) :
    slices n us = us.take (n + 1) :: slices n (us.drop (n + 1)) := by
  have hpos := List.length_pos_iff.mpr h
  have hcount : (us.length + n) / (n + 1) = ((us.drop (n + 1)).length + n) / (n + 1) + 1 := by
    rw [List.length_drop]
    by_cases hlong : n + 1 ≤ us.length
    · rw [← Nat.add_div_right _ (Nat.succ_pos n)]
      congr 1
      omega
    · -- a single slice, and none of the rest
      have hrest : us.length - (n + 1) + n < n + 1 := by omega
      have hone : (us.length + n) / (n + 1) = 1 := by
        apply Nat.div_eq_of_lt_le <;> omega
      rw [Nat.div_eq_of_lt hrest, hone]
  rw [slices, hcount, List.range_succ_eq_map, List.map_cons, List.map_map, slices]
  congr 1
  · simp
  · apply List.map_congr_left
    intro k _
    simp only [Function.comp_apply, List.drop_drop]
    congr 2
    rw [Nat.succ_mul]
    omega

/-- Induction along the slices of a text. -/
theorem slices_induction (n : Nat) {P : List UInt16 → Prop} (nil : P [])
    (cut : ∀ us, us ≠ [] → P (us.drop (n + 1)) → P us) (us : List UInt16) : P us := by
  induction hlen : us.length using Nat.strong_induction_on generalizing us with
  | _ len ih =>
    cases us with
    | nil => exact nil
    | cons u us =>
      apply cut _ (List.cons_ne_nil u us)
      apply ih ((u :: us).drop (n + 1)).length _ _ rfl
      rw [← hlen, List.length_drop, List.length_cons]
      omega

/-- The slices are the units, cut up. -/
theorem flatten_slices (n : Nat) (us : List UInt16) : (slices n us).flatten = us := by
  induction us using slices_induction n with
  | nil => rw [slices_nil, List.flatten_nil]
  | cut us hne ih => rw [slices_of_ne_nil hne, List.flatten_cons, ih, List.take_append_drop]

/-- Every slice is a text iff no boundary between two slices splits a pair. -/
theorem wellFormed_slices_iff (n : Nat) {us : List UInt16} (h : WellFormed us) :
    (∀ slice ∈ slices n us, WellFormed slice) ↔ ∀ k, pairAt us ((n + 1) * k + n) = false := by
  induction us using slices_induction n with
  | nil =>
    rw [slices_nil]
    constructor
    · intro _ k
      rfl
    · intro _ slice hslice
      cases hslice
  | cut us hne ih =>
    -- boundary `k` of the rest is boundary `k + 1` of the whole
    have hshift : ∀ k, (n + 1) + ((n + 1) * k + n) = (n + 1) * (k + 1) + n := by
      intro k
      rw [Nat.mul_succ]
      omega
    rw [slices_of_ne_nil hne, List.forall_mem_cons]
    constructor
    · intro ⟨hfirst, hrest⟩ k
      -- the rest is a text too, as the slices of it are
      have hdrop : WellFormed (us.drop (n + 1)) := by
        rw [← flatten_slices n (us.drop (n + 1))]
        exact WellFormed.flatten hrest
      cases k with
      | zero =>
        rw [Nat.mul_zero, Nat.zero_add]
        exact (wellFormed_cut_iff h n).mp ⟨hfirst, hdrop⟩
      | succ k =>
        have hpair := (ih hdrop).mp hrest k
        rw [pairAt_drop, hshift] at hpair
        exact hpair
    · intro hpairs
      have hzero := hpairs 0
      rw [Nat.mul_zero, Nat.zero_add] at hzero
      obtain ⟨htake, hdrop⟩ := (wellFormed_cut_iff h n).mpr hzero
      refine ⟨htake, (ih hdrop).mpr ?_⟩
      intro k
      rw [pairAt_drop, hshift]
      exact hpairs (k + 1)

/-! ## Bytes -/

/-- Behind well-formed units decoding starts afresh. -/
theorem decode_append {us : List UInt16} (h : WellFormed us) (vs : List UInt16) :
    decode (us ++ vs) = decode us ++ decode vs := by
  obtain ⟨s, rfl⟩ := h
  rw [decode_encode]
  unfold encode
  induction s.toList with
  | nil => rfl
  | cons c cs ih => rw [List.flatMap_cons, List.append_assoc, decode_encodeChar, ih,
      List.cons_append]

/-- And so does counting bytes. -/
theorem utf8Length_append {us : List UInt16} (h : WellFormed us) (vs : List UInt16) :
    utf8Length (us ++ vs) = utf8Length us + utf8Length vs := by
  rw [utf8Length, decode_append h, String.ofList_append, String.utf8ByteSize_append]
  rfl

/-- The units of a string count its bytes. -/
theorem utf8Length_encode (s : String) : utf8Length (encode s) = s.utf8ByteSize := by
  rw [utf8Length, decode_encode, String.ofList_toList]

/-- The bytes of well-formed pieces are the bytes of the whole. -/
theorem utf8Length_flatten {uss : List (List UInt16)} (h : ∀ us ∈ uss, WellFormed us) :
    utf8Length uss.flatten = (uss.map utf8Length).sum := by
  induction uss with
  | nil => rfl
  | cons us uss ih =>
    rw [List.flatten_cons, List.map_cons, List.sum_cons,
      utf8Length_append (h us List.mem_cons_self),
      ih fun vs hvs => h vs (List.mem_cons_of_mem us hvs)]

end Utf16
