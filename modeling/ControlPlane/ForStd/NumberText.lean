import ControlPlane.ForStd.DecimalText
import ControlPlane.ForStd.Double
import ControlPlane.ForStd.JsString

/-!
# Numbers and their texts

`Number(s)` and `String(n)` of JavaScript. A number is written with the fewest digits that
read back as it, the closest ones where there are several.

## Key results

- `digitsAt_seventeen`: seventeen digits are enough for every double
- `ofText_text`: a number is read back from its text
- `text_natCast`: whole numbers below `2^53` are written with all their digits
-/

namespace Number

open DecimalText

/-! ## Reading -/

/-- A numeral without a sign. -/
def ofUnsigned (cs : List Char) : Number :=
  if cs = "Infinity".toList then .infinite false
  else if cs.head? = some '+' then .nan
  else
    match exec cs with
    | none => .nan
    | some groups => if groups.digits = [] then .nan else ofRat groups.value

/-- The value of a digit up to `f`. -/
def digitValue (c : Char) : Option Nat :=
  if c.isDigit then some (c.toNat - 48)
  else if 'a' ≤ c ∧ c ≤ 'f' then some (c.toNat - 87)
  else if 'A' ≤ c ∧ c ≤ 'F' then some (c.toNat - 55)
  else none

/-- The digits behind `0x`, `0o` or `0b`. -/
def ofRadix (radix : Nat) (cs : List Char) : Number :=
  match cs.mapM digitValue with
  | none => .nan
  | some ds =>
    if ds = [] ∨ ds.any (radix ≤ ·) then .nan
    else ofRat (ds.foldl (fun n d => n * radix + d) 0 : Nat)

/-- The radix behind a leading zero. -/
def radixOf (c : Char) : Option Nat :=
  if c = 'x' ∨ c = 'X' then some 16
  else if c = 'o' ∨ c = 'O' then some 8
  else if c = 'b' ∨ c = 'B' then some 2
  else none

/-- A numeral of which the white space is gone. -/
def ofNumeral : List Char → Number
  | [] => ofRat 0
  | '-' :: cs => (ofUnsigned cs).neg
  | '+' :: cs => ofUnsigned cs
  | '0' :: c :: cs =>
    match radixOf c with
    | some radix => ofRadix radix cs
    | none => ofUnsigned ('0' :: c :: cs)
  | cs => ofUnsigned cs

/-- `Number(s)`. -/
def ofText (s : String) : Number := ofNumeral (JsString.trim s).toList

/-! ## Writing -/

/-- The decimal of `k` digits closest to `x`, of those that round to it: digits and power of ten. -/
def digitsAt (x : ℚ) (k : Nat) : Option (Nat × Int) :=
  let e := Int.log 10 x + 1 - k
  let nearest := Double.nearestInt (x / 10 ^ e)
  let other := 2 * ⌊x / 10 ^ e⌋ + 1 - nearest
  if Double.round (nearest * 10 ^ e) = x then some (nearest.toNat, e)
  else if Double.round (other * 10 ^ e) = x then some (other.toNat, e)
  else none

/-- A decimal without the zero its digits end in. -/
def dropZero (p : Nat × Int) : Nat × Int := if p.1 % 10 = 0 then (p.1 / 10, p.2 + 1) else p

/-- The shortest decimal that rounds to `x`. -/
def shortest (x : ℚ) : Option (Nat × Int) :=
  -- rounding up can end in a power of ten, which is one digit
  ((List.range' 1 17).findSome? (digitsAt x)).map dropZero

/-- The digits behind the first, if there are any. -/
def behindFirst (ds : List Char) : Option (List Char) :=
  if ds.length = 1 then none else some (ds.drop 1)

/-- A power of ten with its sign. -/
def signText (n : Int) : List Char := (if n < 0 then '-' else '+') :: Nat.toDigits 10 n.natAbs

/-- How the digits of `s * 10^e` are laid out: plainly from `1e-6` up to `1e21`. -/
def layout (s : Nat) (e : Int) : Groups :=
  let ds := Nat.toDigits 10 s
  let n := (ds.length : Int) + e
  if 0 ≤ e ∧ n ≤ 21 then ⟨ds ++ List.replicate e.toNat '0', none, none⟩
  else if 0 < n ∧ n ≤ 21 then ⟨ds.take n.toNat, some (ds.drop n.toNat), none⟩
  else if -6 < n ∧ n ≤ 0 then ⟨['0'], some (List.replicate (-n).toNat '0' ++ ds), none⟩
  else
    ⟨ds.take 1, behindFirst ds, some (signText (n - 1))⟩

/-- The text of a positive double. -/
def positiveText (x : ℚ) : List Char :=
  match shortest x with
  | none => []
  | some (s, e) =>
    let groups := layout s e
    groups.whole ++ (groups.fractionText ++ groups.exponentText 'e')

/-- `String(n)`. -/
def text : Number → String
  | .nan => "NaN"
  | .infinite negative => if negative then "-Infinity" else "Infinity"
  | .finite x =>
    if x.val = 0 then "0"
    else if x.val < 0 then String.ofList ('-' :: positiveText (-x.val))
    else String.ofList (positiveText x.val)

/-! ## The search -/

/-- A power of ten is positive. -/
theorem ten_zpow_pos (e : ℤ) : (0 : ℚ) < 10 ^ e := zpow_pos (by norm_num) e

/-- What the search finds rounds to the number. -/
theorem digitsAt_spec {x : ℚ} (hx : 0 < x) {k s : Nat} {e : Int} (h : digitsAt x k = some (s, e)) :
    e = Int.log 10 x + 1 - k ∧ 0 < s ∧ Double.round (s * 10 ^ e) = x := by
  have hten := ten_zpow_pos (Int.log 10 x + 1 - k)
  -- no digits at all would round to zero
  have hnat {n : ℤ} (hn : 0 ≤ n)
      (hround : Double.round ((n : ℚ) * 10 ^ (Int.log 10 x + 1 - k)) = x) :
      0 < n.toNat ∧ Double.round ((n.toNat : ℚ) * 10 ^ (Int.log 10 x + 1 - k)) = x := by
    obtain ⟨m, rfl⟩ := Int.eq_ofNat_of_zero_le hn
    refine ⟨?_, by exact_mod_cast hround⟩
    rcases Nat.eq_zero_or_pos m with rfl | hm
    · simp only [Int.ofNat_zero, Int.cast_zero, zero_mul, Double.round_zero] at hround
      exact absurd hround hx.ne
    · simpa using hm
  have hfloor : 0 ≤ ⌊x / 10 ^ (Int.log 10 x + 1 - k)⌋ := Int.floor_nonneg.mpr (by positivity)
  have hor := Double.nearestInt_eq_or (x / 10 ^ (Int.log 10 x + 1 - k))
  unfold digitsAt at h
  dsimp only at h
  split at h
  next hround =>
    cases h
    exact ⟨rfl, hnat (by omega) hround⟩
  next =>
    split at h
    next hround =>
      cases h
      exact ⟨rfl, hnat (by omega) hround⟩
    next => cases h

/-- The closest decimal of `k` digits is taken where it rounds to the number. -/
theorem digitsAt_isSome {x : ℚ} {k : Nat} (h : Double.round (Double.nearestInt
    (x / 10 ^ (Int.log 10 x + 1 - k)) * 10 ^ (Int.log 10 x + 1 - k)) = x) :
    (digitsAt x k).isSome := by
  unfold digitsAt
  dsimp only
  rw [if_pos h]
  rfl

/-- Seventeen digits are enough for every double. -/
theorem digitsAt_seventeen {x : ℚ} (hx : 0 < x) (hd : Double.IsDouble x) :
    (digitsAt x 17).isSome := by
  -- the unit of the seventeenth digit is smaller than the last bit
  have hlow : 10 ^ 16 * (10 : ℚ) ^ (Int.log 10 x + 1 - (17 : Nat)) ≤ x := by
    have hlog := Int.zpow_log_le_self (R := ℚ) (b := 10) (by decide) hx
    rw [show Int.log 10 x = 16 + (Int.log 10 x + 1 - (17 : Nat)) by push_cast; ring] at hlog
    push_cast [zpow_add₀] at hlog
    rw [zpow_add₀ (by norm_num)] at hlog
    exact_mod_cast hlog
  apply digitsAt_isSome
  apply Double.round_of_close hd hx
  generalize (Int.log 10 x + 1 - (17 : Nat)) = e at hlow
  have hten := ten_zpow_pos e
  have hdist : |(Double.nearestInt (x / 10 ^ e) : ℚ) * 10 ^ e - x| =
      |(Double.nearestInt (x / 10 ^ e) : ℚ) - x / 10 ^ e| * 10 ^ e := by
    rw [← abs_of_pos hten, ← abs_mul, abs_of_pos hten, sub_mul, div_mul_cancel₀ _ hten.ne']
  have hhalf := mul_le_mul_of_nonneg_right (Double.abs_nearestInt_sub_le (x / 10 ^ e)) hten.le
  rw [hdist, lt_div_iff₀ (by positivity)]
  nlinarith

/-- Moving a trailing zero into the exponent keeps the value. -/
theorem dropZero_value (p : Nat × Int) :
    ((dropZero p).1 : ℚ) * 10 ^ (dropZero p).2 = p.1 * 10 ^ p.2 := by
  unfold dropZero
  split
  next h =>
    have hs : (p.1 : ℚ) = ((p.1 / 10 : Nat) : ℚ) * 10 := by
      exact_mod_cast (by omega : p.1 = p.1 / 10 * 10)
    rw [hs, zpow_add_one₀ (by norm_num)]
    ring
  next => rfl

/-- The search stops at the first number of digits there is a decimal for. -/
theorem exists_shortest {x : ℚ} (hx : 0 < x) (hd : Double.IsDouble x) :
    ∃ k p, digitsAt x k = some p ∧ shortest x = some (dropZero p) ∧
      ∀ j, 1 ≤ j → j < k → digitsAt x j = none := by
  obtain ⟨p, hfound⟩ : ∃ p, (List.range' 1 17).findSome? (digitsAt x) = some p := by
    rw [← Option.isSome_iff_exists, List.findSome?_isSome_iff]
    exact ⟨17, by decide, digitsAt_seventeen hx hd⟩
  obtain ⟨before, k, after, hlist, hk, hbefore⟩ := List.findSome?_eq_some_iff.mp hfound
  refine ⟨k, p, hk, ?_, ?_⟩
  · rw [shortest, hfound]
    rfl
  · intro j hone hlt
    -- the numbers of digits are tried in order
    have hsorted : (before ++ k :: after).Pairwise (· < ·) := hlist ▸ List.pairwise_lt_range'
    have hmem : ∀ m, m ∈ before ++ k :: after ↔ 1 ≤ m ∧ m < 1 + 17 := by
      intro m
      rw [← hlist, List.mem_range'_1]
    have hkle := (hmem k).mp (by simp)
    rcases List.mem_append.mp ((hmem j).mpr (by omega)) with hj | hj
    · exact hbefore j hj
    · rcases List.mem_cons.mp hj with rfl | hj
      · omega
      · have := List.rel_of_pairwise_cons (List.pairwise_append.mp hsorted).2.1 hj
        omega

/-- The shortest decimal rounds to the number. -/
theorem shortest_spec {x : ℚ} (hx : 0 < x) (hd : Double.IsDouble x) :
    ∃ s e, shortest x = some (s, e) ∧ Double.round (s * 10 ^ e) = x := by
  obtain ⟨k, p, hk, hshort, -⟩ := exists_shortest hx hd
  refine ⟨(dropZero p).1, (dropZero p).2, hshort, ?_⟩
  rw [dropZero_value]
  exact (digitsAt_spec hx hk).2.2

/-! ## The layout -/

/-- The digits of a number are read back as that number. -/
theorem number_toDigits (n : Nat) : number (Nat.toDigits 10 n) = n :=
  Nat.ofDigitChars_ten_toDigits

/-- Leading zeros do not count. -/
theorem number_zeros_append (k : Nat) (ds : List Char) :
    number (List.replicate k '0' ++ ds) = number ds := by
  rw [number, Nat.ofDigitChars_append, Nat.ofDigitChars_replicate_zero, Nat.mul_zero, number]

/-- Every trailing zero multiplies by ten. -/
theorem number_append_zeros (ds : List Char) (k : Nat) :
    number (ds ++ List.replicate k '0') = number ds * 10 ^ k := by
  rw [number, Nat.ofDigitChars_append, Nat.ofDigitChars_replicate_zero, number, Nat.mul_comm]

/-- The digits of a number are decimal digits. -/
theorem digits_toDigits (n : Nat) : Digits (Nat.toDigits 10 n) :=
  fun _ hc => Nat.isDigit_of_mem_toDigits (by decide) (by decide) hc

/-- Digits after digits are digits. -/
theorem digits_append {ds es : List Char} (hds : Digits ds) (hes : Digits es) :
    Digits (ds ++ es) := by
  intro c hc
  rcases List.mem_append.mp hc with h | h
  · exact hds c h
  · exact hes c h

/-- Zeros are digits. -/
theorem digits_zeros (k : Nat) : Digits (List.replicate k '0') := by
  intro c hc
  rw [List.eq_of_mem_replicate hc]
  rfl

/-- The first digit and those behind it are the digits. -/
theorem take_append_behindFirst (ds : List Char) :
    ds.take 1 ++ (behindFirst ds).getD [] = ds := by
  unfold behindFirst
  split
  next hone => rw [Option.getD_none, List.append_nil, ← hone, List.take_length]
  next => rw [Option.getD_some, List.take_append_drop]

/-- All digits but one stand behind the first. -/
theorem length_behindFirst (ds : List Char) :
    ((behindFirst ds).getD []).length = ds.length - 1 := by
  unfold behindFirst
  split
  next hone => rw [hone, Option.getD_none, List.length_nil]
  next => rw [Option.getD_some, List.length_drop]

/-- A signed exponent is read back as it was written. -/
theorem signed_signText (n : Int) : signed (signText n) = n := by
  unfold signText
  split
  · rw [signed, number_toDigits]
    omega
  · rw [signed, number_toDigits]
    omega

/-- And it is a well-formed exponent. -/
theorem isExponent_signText (n : Int) : IsExponent (signText n) := by
  refine ⟨_, _, List.singleton_append.symm, ?_, Nat.toDigits_ne_nil, digits_toDigits n.natAbs⟩
  split
  · exact .inr (.inr rfl)
  · exact .inr (.inl rfl)

/-- The layout stands for the decimal. -/
theorem layout_value (s : Nat) (e : Int) : (layout s e).value = s * 10 ^ e := by
  unfold layout
  dsimp only
  split_ifs with hplain hpoint hzeros
  · -- zeros behind the digits
    simp only [Groups.value, Groups.digits, Groups.power, Option.getD_none, Option.map_none,
      List.append_nil, List.length_nil, number_append_zeros, number_toDigits]
    obtain ⟨k, hk⟩ := Int.eq_ofNat_of_zero_le hplain.1
    rw [hk]
    push_cast
    simp
  · -- the point among the digits
    simp only [Groups.value, Groups.digits, Groups.power, Option.getD_some, Option.map_none,
      Option.getD_none, List.take_append_drop, number_toDigits, List.length_drop]
    congr 2
    omega
  · -- zeros between the point and the digits
    simp only [Groups.value, Groups.digits, Groups.power, Option.getD_some, Option.map_none,
      Option.getD_none, List.length_append, List.length_replicate]
    rw [show ['0'] = List.replicate 1 '0' from rfl, number_zeros_append, number_zeros_append,
      number_toDigits]
    congr 2
    omega
  · -- one digit in front of the point, and an exponent
    have hlen : 0 < (Nat.toDigits 10 s).length := List.length_pos_iff.mpr Nat.toDigits_ne_nil
    simp only [Groups.value, Groups.digits, Groups.power, Option.map_some, Option.getD_some,
      signed_signText, take_append_behindFirst, length_behindFirst, number_toDigits]
    congr 2
    omega

/-- A layout is written as a decimal numeral with its three parts. -/
theorem layout_matches (s : Nat) (e : Int) : Matches (layout s e)
    ((layout s e).whole ++ ((layout s e).fractionText ++ (layout s e).exponentText 'e')) := by
  have hds := digits_toDigits s
  have htake (k : Nat) : Digits ((Nat.toDigits 10 s).take k) :=
    fun c hc => hds c (List.mem_of_mem_take hc)
  have hdrop (k : Nat) : Digits ((Nat.toDigits 10 s).drop k) :=
    fun c hc => hds c (List.mem_of_mem_drop hc)
  refine ⟨?_, ?_, ?_, [], 'e', .inl rfl, .inl rfl, rfl⟩
  · -- in front of the point
    unfold layout
    dsimp only
    split_ifs
    · exact digits_append hds (digits_zeros _)
    · exact htake _
    · exact digits_zeros 1
    · exact htake 1
  · -- behind it, where there is one
    unfold layout
    dsimp only
    intro ds h
    split_ifs at h
    · cases h
      exact hdrop _
    · cases h
      exact digits_append (digits_zeros _) hds
    · have hbehind : behindFirst (Nat.toDigits 10 s) = some ds := h
      unfold behindFirst at hbehind
      split at hbehind <;> cases hbehind
      exact hdrop 1
  · -- the exponent, which only the last form has
    unfold layout
    dsimp only
    intro cs h
    split_ifs at h
    cases h
    exact isExponent_signText _

/-- A laid out number begins with a digit. -/
theorem layout_head (s : Nat) (e : Int) : ∃ c cs, (layout s e).whole = c :: cs ∧ c.isDigit := by
  have hne : (layout s e).whole ≠ [] := by
    have hdigits : Nat.toDigits 10 s ≠ [] := Nat.toDigits_ne_nil
    unfold layout
    dsimp only
    -- in each of the four layouts the whole part has a digit
    split_ifs with hplain hpoint hzeros
    · exact List.append_ne_nil_of_left_ne_nil hdigits _
    · rw [ne_eq, List.take_eq_nil_iff, not_or]
      exact ⟨by omega, hdigits⟩
    · exact List.cons_ne_nil _ _
    · rw [ne_eq, List.take_eq_nil_iff, not_or]
      exact ⟨Nat.one_ne_zero, hdigits⟩
  obtain ⟨c, cs, hcs⟩ := List.exists_cons_of_ne_nil hne
  exact ⟨c, cs, hcs, (layout_matches s e).whole c (hcs ▸ List.mem_cons_self)⟩

/-! ## Reading back -/

/-- What a numeral is written with. -/
def IsNumeralChar (c : Char) : Prop := c.isDigit ∨ c = '+' ∨ c = '-' ∨ c = '.' ∨ c = 'e'

/-- No character of a numeral is trimmed away. -/
theorem IsNumeralChar.not_trimmed {c : Char} (h : IsNumeralChar c) :
    JsString.isTrimmed c = false := by
  rcases h with hdigit | rfl | rfl | rfl | rfl
  · have hrange : 48 ≤ c.toNat ∧ c.toNat ≤ 57 := Char.isDigit_iff_toNat.mp hdigit
    unfold JsString.isTrimmed
    simp only [Bool.or_eq_false_iff, Bool.and_eq_false_iff, decide_eq_false_iff_not,
      beq_eq_false_iff_ne]
    omega
  all_goals decide

/-- No character of a numeral marks a radix. -/
theorem IsNumeralChar.radixOf_eq {c : Char} (h : IsNumeralChar c) : radixOf c = none := by
  rcases h with hdigit | rfl | rfl | rfl | rfl
  · unfold radixOf
    rw [if_neg, if_neg, if_neg]
    all_goals rintro (rfl | rfl) <;> exact absurd hdigit (by decide)
  all_goals decide

/-- A layout is written with numeral characters only. -/
theorem layout_chars (s : Nat) (e : Int) : ∀ c ∈ (layout s e).whole ++
    ((layout s e).fractionText ++ (layout s e).exponentText 'e'), IsNumeralChar c := by
  have hmatch := layout_matches s e
  intro c hc
  rcases List.mem_append.mp hc with hwhole | hrest
  · exact .inl (hmatch.whole c hwhole)
  rcases List.mem_append.mp hrest with hfraction | hexponent
  · -- the point or a digit behind it
    unfold Groups.fractionText at hfraction
    cases hg : (layout s e).fraction with
    | none => simp [hg] at hfraction
    | some ds =>
      rw [hg] at hfraction
      rcases List.mem_cons.mp hfraction with rfl | hds
      · exact .inr (.inr (.inr (.inl rfl)))
      · exact .inl (hmatch.fraction ds hg c hds)
  · -- the mark, the sign or a digit of the exponent
    unfold Groups.exponentText at hexponent
    cases hg : (layout s e).exponent with
    | none => simp [hg] at hexponent
    | some cs =>
      rw [hg] at hexponent
      obtain ⟨sign, ds, rfl, hsign, -, hds⟩ := hmatch.exponent cs hg
      rcases List.mem_cons.mp hexponent with rfl | hcs
      · exact .inr (.inr (.inr (.inr rfl)))
      rcases List.mem_append.mp hcs with hmem | hmem
      · obtain rfl | rfl | rfl := hsign
        · cases hmem
        · exact .inr (.inl (List.mem_singleton.mp hmem))
        · exact .inr (.inr (.inl (List.mem_singleton.mp hmem)))
      · exact .inl (hds c hmem)

/-- A numeral that begins with a digit is read from its groups. -/
theorem ofUnsigned_of_digit {c : Char} {cs : List Char} {groups : Groups} (hc : c.isDigit)
    (hread : exec (c :: cs) = some groups) (hdigits : groups.digits ≠ []) :
    ofUnsigned (c :: cs) = ofRat groups.value := by
  -- a digit is neither the sign nor the first letter of Infinity
  have hplus : c ≠ '+' := by
    rintro rfl
    exact absurd hc (by decide)
  have hword : c :: cs ≠ "Infinity".toList := by
    intro h
    have hfirst : c = 'I' := (List.cons.inj h).1
    rw [hfirst] at hc
    exact absurd hc (by decide)
  unfold ofUnsigned
  rw [if_neg hword, if_neg (by simpa using hplus), hread]
  exact if_neg hdigits

/-- A laid out decimal reads as the number nearest to it. -/
theorem ofUnsigned_layout (s : Nat) (e : Int) : ofUnsigned ((layout s e).whole ++
    ((layout s e).fractionText ++ (layout s e).exponentText 'e')) = ofRat (s * 10 ^ e) := by
  obtain ⟨c, cs, hwhole, hc⟩ := layout_head s e
  have hread := (exec_iff _ _).mpr (layout_matches s e)
  have hdigits : (layout s e).digits ≠ [] := by
    rw [Groups.digits, hwhole]
    exact List.cons_ne_nil _ _
  rw [hwhole, List.cons_append] at hread ⊢
  rw [ofUnsigned_of_digit hc hread hdigits, layout_value]

/-- A numeral that begins with a digit has no sign and no radix. -/
theorem ofNumeral_of_digit {c : Char} {cs : List Char} (hc : c.isDigit)
    (hcs : ∀ d ∈ cs, IsNumeralChar d) : ofNumeral (c :: cs) = ofUnsigned (c :: cs) := by
  unfold ofNumeral
  split
  next heq => cases heq
  next heq =>
    cases heq
    exact absurd hc (by decide)
  next heq =>
    cases heq
    exact absurd hc (by decide)
  next d ds heq =>
    cases heq
    rw [(hcs d List.mem_cons_self).radixOf_eq]
  next => rfl

/-- The text of a positive double begins with a digit and is read back as a rational that rounds
    to it. -/
theorem positiveText_spec {x : ℚ} (hx : 0 < x) (hd : Double.IsDouble x) :
    (∃ c cs, positiveText x = c :: cs ∧ c.isDigit) ∧ (∀ c ∈ positiveText x, IsNumeralChar c) ∧
      ∃ q, ofUnsigned (positiveText x) = ofRat q ∧ Double.round q = x := by
  obtain ⟨s, e, hshort, hround⟩ := shortest_spec hx hd
  -- the text is the layout of the shortest digits
  have htext : positiveText x = (layout s e).whole ++
      ((layout s e).fractionText ++ (layout s e).exponentText 'e') := by
    unfold positiveText
    rw [hshort]
  rw [htext]
  obtain ⟨c, cs, hwhole, hc⟩ := layout_head s e
  refine ⟨⟨c, _, by rw [hwhole]; rfl, hc⟩, layout_chars s e, s * 10 ^ e, ?_, hround⟩
  exact ofUnsigned_layout s e

/-- A finite number is read back from its text. -/
theorem ofText_finite (x : Double) : ofText (text (.finite x)) = .finite x := by
  have hread {q : ℚ} (h : Double.round q = x.val) : ofRat q = .finite x := by
    have hvalue := hasValue_ofRat (q := q) (by rw [h]; exact x.lt)
    rw [h] at hvalue
    exact hvalue.eq ⟨x, rfl, rfl⟩
  unfold ofText text
  dsimp only
  split
  next hzero =>
    -- the text `0` reads as zero
    have hof : ofNumeral (JsString.trim "0").toList = ofRat 0 := by decide +kernel
    rw [hof]
    exact hread (q := 0) (by rw [hzero]; exact Double.round_zero)
  next hne =>
    split
    next hneg =>
      obtain ⟨-, hchars, q, hof, hround⟩ := positiveText_spec (neg_pos.mpr hneg) x.isDouble.neg
      have htrim : ∀ c ∈ (String.ofList ('-' :: positiveText (-x.val))).toList,
          JsString.isTrimmed c = false := by
        rw [String.toList_ofList]
        intro c hc
        rcases List.mem_cons.mp hc with rfl | hc
        · rfl
        · exact (hchars c hc).not_trimmed
      rw [JsString.trim_of_forall htrim, String.toList_ofList, ofNumeral, hof]
      -- the numeral stands for the number without its sign
      have hvalue := hasValue_ofRat (q := q) (by rw [hround, abs_neg]; exact x.lt)
      rw [hround] at hvalue
      have hvalue' := hvalue.neg
      rw [neg_neg] at hvalue'
      exact hvalue'.eq ⟨x, rfl, rfl⟩
    next hnonneg =>
      have hpos : 0 < x.val := lt_of_le_of_ne (not_lt.mp hnonneg) (Ne.symm hne)
      obtain ⟨⟨c, cs, hcons, hdigit⟩, hchars, q, hof, hround⟩ := positiveText_spec hpos x.isDouble
      rw [JsString.trim_of_forall, String.toList_ofList]
      · rw [hcons] at hchars hof ⊢
        rw [ofNumeral_of_digit hdigit fun d hd => hchars d (List.mem_cons_of_mem c hd), hof]
        exact hread hround
      · rw [String.toList_ofList]
        exact fun c hc => (hchars c hc).not_trimmed

/-- A number is read back from its text. -/
theorem ofText_text (n : Number) : ofText n.text = n := by
  cases n with
  | finite x => exact ofText_finite x
  | infinite negative => cases negative <;> decide +kernel
  | nan => decide +kernel

/-- Different numbers have different texts. -/
theorem text_injective : Function.Injective text := by
  intro m n h
  rw [← ofText_text m, h, ofText_text]

/-- A number's text is one line. -/
theorem newline_not_mem_text (n : Number) : '\n' ∉ n.text.toList := by
  -- the characters of a positive number are digits, signs, points and marks
  have hpositive {x : ℚ} (hx : 0 < x) (hd : Double.IsDouble x) : '\n' ∉ positiveText x := by
    intro hmem
    have hchar := (positiveText_spec hx hd).2.1 _ hmem
    rcases hchar with h | h | h | h | h <;> exact absurd h (by decide)
  cases n with
  | infinite negative => cases negative <;> decide
  | nan => decide
  | finite x =>
    unfold text
    dsimp only
    split
    next => decide
    next hne =>
      split
      next hneg =>
        rw [String.toList_ofList, List.mem_cons, not_or]
        exact ⟨by decide, hpositive (neg_pos.mpr hneg) x.isDouble.neg⟩
      next hnonneg =>
        rw [String.toList_ofList]
        exact hpositive (lt_of_le_of_ne (not_lt.mp hnonneg) (Ne.symm hne)) x.isDouble

example : text (ofText " 1e23 ") = "1e+23" := by decide +kernel

/-! ## Whole numbers -/

/-- A digit string reads as the number nearest to the natural it writes. -/
theorem ofText_digits {ds : List Char} (hds : Digits ds) (hne : ds ≠ []) :
    ofText (String.ofList ds) = ofRat (number ds) := by
  have hchars : ∀ c ∈ ds, IsNumeralChar c := fun c hc => .inl (hds c hc)
  -- digits alone are a numeral without fraction or exponent
  have hmatch : Matches ⟨ds, none, none⟩ ds :=
    ⟨hds, nofun, nofun, [], 'e', .inl rfl, .inl rfl, by
      simp [Groups.fractionText, Groups.exponentText]⟩
  obtain ⟨c, cs, rfl⟩ := List.exists_cons_of_ne_nil hne
  have hc : c.isDigit := hds c List.mem_cons_self
  rw [ofText, JsString.trim_of_forall, String.toList_ofList,
    ofNumeral_of_digit hc fun d hd => hchars d (List.mem_cons_of_mem c hd),
    ofUnsigned_of_digit hc ((exec_iff _ _).mpr hmatch) (by simp [Groups.digits])]
  · congr 1
    simp [Groups.value, Groups.digits, Groups.power]
  · rw [String.toList_ofList]
    exact fun d hd => (hchars d hd).not_trimmed

/-- Multiplying by a power of ten appends its zeros. -/
theorem toDigits_mul_ten_pow {s : Nat} (hs : 0 < s) (k : Nat) :
    Nat.toDigits 10 (s * 10 ^ k) = Nat.toDigits 10 s ++ List.replicate k '0' := by
  induction k with
  | zero => simp
  | succ k ih =>
    have hpos : 0 < s * 10 ^ k := by positivity
    -- ten times a number has one digit more, a zero
    have hstep := Nat.toDigits_append_toDigits (b := 10) (by decide) hpos (show 0 < 10 by decide)
    rw [ih, Nat.toDigits_zero] at hstep
    rw [List.replicate_succ', ← List.append_assoc, hstep]
    congr 1
    ring

/-- The shortest decimal of a whole number below `2^53` is the number. -/
theorem shortest_natCast {n : Nat} (hpos : 0 < n) (hlt : n < 2 ^ 53) :
    ∃ s k : Nat, shortest n = some (s, (k : Int)) ∧ s * 10 ^ k = n := by
  have hnpos : (0 : ℚ) < n := by exact_mod_cast hpos
  have hsafe {m : Nat} (h : m ≤ 2 ^ 53) : Double.IsDouble m := by
    exact_mod_cast Double.isDouble_of_abs_le (n := (m : ℤ)) (by rw [abs_of_nonneg] <;> omega)
  obtain ⟨k, ⟨s, e⟩, hk, hshort, hfirst⟩ := exists_shortest hnpos (hsafe hlt.le)
  obtain ⟨he, -, hround⟩ := digitsAt_spec hnpos hk
  -- with all its digits the number is exact, so the search stops there at the latest
  have hlog : Int.log 10 (n : ℚ) = Nat.log 10 n := Int.log_natCast 10 n
  have hexact : (digitsAt n (Nat.log 10 n + 1)).isSome := by
    apply digitsAt_isSome
    have hunit : Int.log 10 (n : ℚ) + 1 - ((Nat.log 10 n + 1 : Nat) : Int) = 0 := by
      rw [hlog]
      push_cast
      ring
    have hself : Double.nearestInt (n : ℚ) = n := by
      apply le_antisymm
      · exact Double.nearestInt_le (by simp)
      · exact Double.le_nearestInt (by simp)
    rw [hunit, zpow_zero, div_one, mul_one, hself]
    exact Double.round_of_isDouble (hsafe hlt.le)
  have hle : k ≤ Nat.log 10 n + 1 := by
    by_contra hlater
    rw [hfirst _ (by omega) (by omega)] at hexact
    cases hexact
  obtain ⟨j, rfl⟩ : ∃ j : Nat, e = j := ⟨e.toNat, by omega⟩
  -- the decimal is then a whole number, which rounding leaves alone
  have hwhole : s * 10 ^ j = n := by
    rw [zpow_natCast] at hround
    rcases le_or_gt (s * 10 ^ j) (2 ^ 53) with hsmall | hbig
    · have hself := Double.round_of_isDouble (hsafe hsmall)
      push_cast at hself
      rw [hself] at hround
      exact_mod_cast hround
    · have hge : ((2 ^ 53 : Nat) : ℚ) ≤ Double.round (s * 10 ^ j) :=
        Double.le_round (hsafe le_rfl) (by exact_mod_cast hbig.le)
      rw [hround] at hge
      exact absurd (by exact_mod_cast hge) (Nat.not_le.mpr hlt)
  have hvalue := dropZero_value (s, (j : Int))
  obtain ⟨s', hs'⟩ : ∃ s' : Nat, ∃ i : Nat, dropZero (s, (j : Int)) = (s', (i : Int)) := by
    unfold dropZero
    split
    · exact ⟨_, j + 1, by push_cast; rfl⟩
    · exact ⟨_, j, rfl⟩
  obtain ⟨i, hi⟩ := hs'
  rw [hi] at hshort hvalue
  refine ⟨s', i, hshort, ?_⟩
  simp only [zpow_natCast] at hvalue
  have hnat : s' * 10 ^ i = s * 10 ^ j := by exact_mod_cast hvalue
  exact hnat.trans hwhole

/-- Whole numbers below `2^53` are written with all their digits. -/
theorem positiveText_natCast {n : Nat} (hpos : 0 < n) (hlt : n < 2 ^ 53) :
    positiveText n = Nat.toDigits 10 n := by
  obtain ⟨s, k, hshort, hval⟩ := shortest_natCast hpos hlt
  have hspos : 0 < s := Nat.pos_of_ne_zero (by rintro rfl; omega)
  have hdigits := toDigits_mul_ten_pow hspos k
  rw [hval] at hdigits
  -- up to twenty-one digits are written without an exponent
  have hlen : (Nat.toDigits 10 n).length ≤ 21 :=
    (Nat.length_toDigits_le_iff (by decide) (by decide)).mpr (hlt.trans (by decide))
  have hlayout : layout s (k : Int) = ⟨Nat.toDigits 10 n, none, none⟩ := by
    rw [hdigits, List.length_append, List.length_replicate] at hlen
    unfold layout
    dsimp only
    rw [if_pos ⟨by omega, by omega⟩, hdigits, Int.toNat_natCast]
  unfold positiveText
  rw [hshort]
  dsimp only
  rw [hlayout]
  simp [Groups.fractionText, Groups.exponentText]

/-- A whole number below `2 ^ 53` is written as its sign and digits. -/
theorem text_intCast {m : Number} {n : Int} (h : m.HasValue n) (hlt : n.natAbs < 2 ^ 53) :
    m.text.toList = (if n < 0 then ['-'] else []) ++ Nat.toDigits 10 n.natAbs := by
  obtain ⟨x, rfl, hx⟩ := h
  unfold text
  dsimp only
  -- the text of a double is laid out by its sign
  rcases lt_trichotomy n 0 with hneg | rfl | hpos
  · have hxneg : x.val < 0 := by
      rw [hx]
      exact_mod_cast hneg
    have habs : -x.val = (n.natAbs : ℚ) := by
      rw [hx, Nat.cast_natAbs, abs_of_neg hneg, Int.cast_neg]
    rw [if_neg hxneg.ne, if_pos hxneg, habs, positiveText_natCast (by omega) hlt, if_pos hneg,
      String.toList_ofList]
    rfl
  · rw [if_pos (by simpa using hx)]
    rfl
  · have hxpos : 0 < x.val := by
      rw [hx]
      exact_mod_cast hpos
    have habs : x.val = (n.natAbs : ℚ) := by
      rw [hx, Nat.cast_natAbs, abs_of_pos hpos]
    rw [if_neg hxpos.ne', if_neg hxpos.not_gt, habs, positiveText_natCast (by omega) hlt,
      if_neg (by omega), String.toList_ofList]
    rfl

/-- A natural number below `2 ^ 53` is written as its decimal digits. -/
theorem text_natCast {m : Number} {n : Nat} (h : m.HasValue n) (hlt : n < 2 ^ 53) :
    m.text = n.repr := by
  have hint : m.HasValue ((n : Int) : ℚ) := by exact_mod_cast h
  have htext := text_intCast hint (by simpa using hlt)
  rw [if_neg (by omega), List.nil_append, Int.natAbs_natCast] at htext
  rw [← String.toList_inj, htext, Nat.toList_repr]

end Number
