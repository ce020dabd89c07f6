import ControlPlane.Model.Routes.Media

/-!
# Byte ranges

What a `Range` header asks for, and when the range that is parsed from it is what it asks
for of an object of a given size. Sizes and digit strings have no bound here; the numbers
of the code round.

## Key results

- `execRange_iff`: the groups of a header's text
- `parseBytesRange_range`: the numbers of a parsed range, rounding included
- `exact_iff`: when numbers name exactly the bytes that were asked for
- `serveObject_partial`: what a 206 is made of
-/

namespace ControlPlane.Media

open DecimalText

/-! ## What a header asks for -/

/-- A range request. -/
inductive RangeSpec where
  | suffix (count : ℕ)
  | onward (first : ℕ)
  | between (first last : ℕ)
deriving DecidableEq

/-- The request asks for this byte of an object. -/
def RangeSpec.Asks (size : ℕ) : RangeSpec → ℕ → Prop
  | .suffix count, i => size ≤ i + count
  | .onward first, i => first ≤ i
  | .between first last, i => first ≤ i ∧ i ≤ last

/-- The request of two digit strings. -/
def RangeSpec.ofDigits (ds es : List Char) : Option RangeSpec :=
  if ds = [] then if es = [] then none else some (.suffix (number es))
  else if es = [] then some (.onward (number ds))
  else some (.between (number ds) (number es))

/-- The groups of a text: digits on both sides of a hyphen, behind the unit. -/
def HasGroups (text ds es : List Char) : Prop :=
  Digits ds ∧ Digits es ∧ ∃ unit, unit.map Char.toLower = "bytes=".toList ∧
    text = unit ++ (ds ++ '-' :: es)

/-- A `Range` header makes the request. -/
def Requests (header : Option String) (spec : RangeSpec) : Prop :=
  ∃ text ds es, header = some text ∧ HasGroups (JsString.trim text).toList ds es ∧
    RangeSpec.ofDigits ds es = some spec

/-- The range pattern matches exactly the texts with these two groups. -/
theorem execRange_iff {s a b : String} :
    execRange s = some (a, b) ↔ HasGroups s.toList a.toList b.toList := by
  constructor
  · intro h
    unfold execRange at h
    split at h
    next hunit =>
      dsimp only at h
      split at h
      next rest hrest =>
        split at h
        next hdigits =>
          cases h
          rw [String.toList_ofList, String.toList_ofList]
          refine ⟨digits_takeWhile _, List.all_eq_true.mp hdigits, s.toList.take 6, hunit, ?_⟩
          rw [← hrest, List.takeWhile_append_dropWhile, List.take_append_drop]
        next => cases h
      next => cases h
    next => cases h
  · rintro ⟨ha, hb, unit, hunit, htext⟩
    have hlength : unit.length = 6 := by
      rw [← List.length_map (f := Char.toLower), hunit]
      rfl
    have htake : s.toList.take 6 = unit := by rw [htext, ← hlength, List.take_left]
    have hdrop : s.toList.drop 6 = a.toList ++ '-' :: b.toList := by
      rw [htext, ← hlength, List.drop_left]
    -- the hyphen ends the first digits
    have hhyphen : ∀ c ∈ ('-' :: b.toList).head?, c.isDigit = false := by
      intro c hc
      cases hc
      rfl
    obtain ⟨hspan, hrest⟩ := span_append ha hhyphen
    rw [execRange, htake, if_pos hunit, hdrop]
    dsimp only
    rw [hspan, hrest]
    show (if b.toList.all Char.isDigit then some (String.ofList a.toList, String.ofList b.toList)
      else none) = some (a, b)
    rw [if_pos (List.all_eq_true.mpr hb), String.ofList_toList, String.ofList_toList]

/-- A header makes one request at most. -/
theorem Requests.unique {header : Option String} {spec spec' : RangeSpec}
    (h : Requests header spec) (h' : Requests header spec') : spec = spec' := by
  obtain ⟨text, ds, es, rfl, hgroups, hspec⟩ := h
  obtain ⟨_, ds', es', htext, hgroups', hspec'⟩ := h'
  cases htext
  -- the header has one reading, so the groups are the same
  have hexec {ds es : List Char} (h : HasGroups (JsString.trim text).toList ds es) :
      execRange (JsString.trim text) = some (String.ofList ds, String.ofList es) := by
    rw [execRange_iff, String.toList_ofList, String.toList_ofList]
    exact h
  have hsame := (hexec hgroups).symm.trans (hexec hgroups')
  rw [Option.some.injEq, Prod.mk.injEq, String.ofList_inj, String.ofList_inj] at hsame
  obtain ⟨rfl, rfl⟩ := hsame
  exact Option.some.inj (hspec.symm.trans hspec')

/-! ## The numbers of a parsed range -/

/-- The first byte as the code computes it of an object of `n` bytes. -/
def RangeSpec.startOf (n : ℚ) : RangeSpec → ℚ
  | .suffix count => max 0 (Double.round (n - Double.round count))
  | .onward first => Double.round first
  | .between first _ => Double.round first

/-- The last byte as the code computes it. -/
def RangeSpec.stopOf (n : ℚ) : RangeSpec → ℚ
  | .suffix _ => Double.round (n - 1)
  | .onward _ => Double.round (n - 1)
  | .between _ last => min (Double.round last) (Double.round (n - 1))

/-- What the code has checked of a range that it returns. -/
def RangeSpec.Checked (n : ℚ) (spec : RangeSpec) : Prop :=
  match spec with
  | .suffix count => 0 < count
  | _ => spec.startOf n < n ∧ spec.startOf n ≤ spec.stopOf n

/-- A digit string that is finite as a double has the rounded value of its number. -/
theorem digits_hasValue {ds : List Char} (hds : Digits ds) (hne : ds ≠ [])
    (h : (Number.ofText (String.ofList ds)).isFinite = true) :
    (Number.ofText (String.ofList ds)).HasValue (Double.round (number ds)) := by
  obtain ⟨q, hq⟩ := Number.isFinite_iff.mp h
  rw [Number.ofText_digits hds hne] at hq ⊢
  exact Number.ofRat_hasValue hq ▸ hq

/-- The number zero. -/
theorem hasValue_zero : (Number.ofRat 0).HasValue 0 := by
  exact_mod_cast Number.ofRat_intCast (n := 0) (by decide)

/-- The number one. -/
theorem hasValue_one : (Number.ofRat 1).HasValue 1 := by
  exact_mod_cast Number.ofRat_intCast (n := 1) (by decide)

/-- A difference of numbers that are not negative does not overflow. -/
theorem hasValue_sub {m n : Number} {q r : ℚ} (hm : m.HasValue q) (hn : n.HasValue r)
    (hq : 0 ≤ q) (hr : 0 ≤ r) : (m.sub n).HasValue (Double.round (q - r)) := by
  apply hm.sub hn
  rcases le_total r q with h | h
  · refine (Double.abs_round_le hm.isDouble ?_).trans_lt ((le_abs_self q).trans_lt hm.lt)
    rw [abs_of_nonneg (by linarith)]
    linarith
  · refine (Double.abs_round_le hn.isDouble ?_).trans_lt ((le_abs_self r).trans_lt hn.lt)
    rw [abs_of_nonpos (by linarith)]
    linarith

/-- Rounding a natural number never goes below zero. -/
theorem round_natCast_nonneg (n : ℕ) : 0 ≤ Double.round n :=
  Double.le_round (Double.isDouble_of_abs_le (n := 0) (by decide)) (Nat.cast_nonneg n)

/-- The checks of a range with a first byte. -/
theorem range_of_checks {size start stop last : Number} {r : BytesRange}
    (h : (if !start.isFinite || !stop.isFinite || start.lt (Number.ofRat 0) then .unsatisfiable
      else if size.le start then .unsatisfiable
      else if (stop.min last).lt start then .unsatisfiable
      else .range (bytesRange start (stop.min last))) = ParsedRange.range r) :
    start.isFinite = true ∧ stop.isFinite = true ∧ size.le start = false ∧
      (stop.min last).lt start = false ∧ r = bytesRange start (stop.min last) := by
  split at h
  next => cases h
  next hfinite =>
  split at h
  next => cases h
  next hbelow =>
  split at h
  next => cases h
  next horder =>
    cases h
    -- the three checks passed: what is left is what they ruled out
    simp only [Bool.or_eq_true, not_or, Bool.not_eq_true', Bool.not_eq_false] at hfinite
    exact ⟨hfinite.1.1, hfinite.1.2, Bool.not_eq_true _ ▸ hbelow, Bool.not_eq_true _ ▸ horder, rfl⟩

/-- A range that is returned is that of the request, with these numbers. -/
theorem parseBytesRange_range {header : Option String} {size : Number} {n : ℕ} {r : BytesRange}
    (hsize : size.HasValue n) (h : parseBytesRange header size = .range r) :
    ∃ spec start stop, Requests header spec ∧ r = bytesRange start stop ∧
      start.HasValue (spec.startOf n) ∧ stop.HasValue (spec.stopOf n) ∧ spec.Checked n := by
  have hpred : (size.sub (Number.ofRat 1)).HasValue (Double.round (n - 1)) :=
    hasValue_sub hsize hasValue_one (Nat.cast_nonneg n) zero_le_one
  cases header with
  | none => cases h
  | some text =>
  rw [parseBytesRange] at h
  split at h
  next => cases h
  next =>
  split at h
  next => cases h
  next a b hexec =>
  have hgroups := execRange_iff.mp hexec
  have ⟨ha, hb, _⟩ := hgroups
  have hempty (s : String) : s = "" ↔ s.toList = [] := String.toList_eq_nil_iff.symm
  -- the value of a group that is there and finite
  have hvalue {s : String} (hs : Digits s.toList) (hne : s ≠ "")
      (hfinite : (Number.ofText s).isFinite = true) :
      (Number.ofText s).HasValue (Double.round (number s.toList)) := by
    have hlist := digits_hasValue hs (mt (hempty s).mpr hne) (by rwa [String.ofList_toList])
    rwa [String.ofList_toList] at hlist
  dsimp only at h
  split at h
  next => cases h
  next hsome =>
  split at h
  next hstart =>
    split at h
    next => cases h
    next hcheck =>
      cases h
      have hstop : b ≠ "" := fun hb => hsome ⟨hstart, hb⟩
      rw [Bool.or_eq_true, not_or, Bool.not_eq_true', Bool.not_eq_false] at hcheck
      have hsuffix := hvalue hb hstop hcheck.1
      refine ⟨.suffix (number b.toList), _, _, ⟨text, _, _, rfl, hgroups, ?_⟩, rfl, ?_, hpred, ?_⟩
      · rw [RangeSpec.ofDigits, if_pos ((hempty a).mp hstart), if_neg (mt (hempty b).mpr hstop)]
      · exact hasValue_zero.max (hasValue_sub hsize hsuffix (Nat.cast_nonneg n)
          (round_natCast_nonneg _))
      · -- a suffix of no bytes has been refused
        refine Nat.pos_of_ne_zero ?_
        intro hzero
        apply hcheck.2
        rw [hsuffix.le_iff hasValue_zero, hzero, Nat.cast_zero, Double.round_zero]
  next hstart =>
    obtain ⟨hafinite, hbfinite, hbelow, horder, rfl⟩ := range_of_checks h
    have hfirst := hvalue ha hstart hafinite
    rw [← Bool.not_eq_true, hsize.le_iff hfirst, not_le] at hbelow
    have hds : a.toList ≠ [] := mt (hempty a).mpr hstart
    by_cases hstop : b = ""
    · -- without a last byte the object's own is compared with itself
      rw [if_pos hstop] at horder hbfinite ⊢
      have hlast := hpred.min hpred
      rw [← Bool.not_eq_true, hlast.lt_iff hfirst, not_lt] at horder
      rw [min_self] at hlast horder
      refine ⟨.onward (number a.toList), _, _, ⟨text, _, _, rfl, hgroups, ?_⟩, rfl, hfirst, hlast,
        hbelow, horder⟩
      rw [RangeSpec.ofDigits, if_neg hds, if_pos ((hempty b).mp hstop)]
    · -- the last byte of the request, cut to that of the object
      rw [if_neg hstop] at horder hbfinite ⊢
      have hlast := (hvalue hb hstop hbfinite).min hpred
      rw [← Bool.not_eq_true, hlast.lt_iff hfirst, not_lt] at horder
      refine ⟨.between (number a.toList) (number b.toList), _, _,
        ⟨text, _, _, rfl, hgroups, ?_⟩, rfl, hfirst, hlast, hbelow, horder⟩
      rw [RangeSpec.ofDigits, if_neg hds, if_neg (mt (hempty b).mpr hstop)]

/-! ## Exactness -/

/-- The range is that of the bytes from `first` to `last`, and these are the bytes of the
    object that are asked for. -/
structure Exact (r : BytesRange) (size : ℕ) (spec : RangeSpec) (first last : ℕ) : Prop where
  order : first ≤ last
  inside : last < size
  start : r.start.HasValue first
  stop : r.stop.HasValue last
  offset : r.offset = r.start
  length : r.length.HasValue ((last - first + 1 : ℕ) : ℚ)
  covers : ∀ i, first ≤ i ∧ i ≤ last ↔ i < size ∧ spec.Asks size i

/-- The count of bytes that comes out of `end - start + 1`. -/
def CountIsExact (count : ℕ) : Prop := count ≤ 2 ^ 53 ∨ Double.IsDouble count ∧ 4 ∣ count

/-- The request does not lead the numbers of the code astray: an object with a byte for a
    suffix, and whatever is past `2^53` is a number of the code. -/
def RangeSpec.Representable (size : ℕ) : RangeSpec → Prop
  | .suffix _ => 0 < size ∧ size ≤ 2 ^ 53
  | .onward _ => size ≤ 2 ^ 53
  | .between first last =>
    size ≤ 2 ^ 53 ∨
      last + 1 < size ∧ Double.IsDouble first ∧ Double.IsDouble last ∧
        CountIsExact (last - first + 1)

/-- The first byte that is asked for of an object with bytes. -/
def RangeSpec.low (size : ℕ) : RangeSpec → ℕ
  | .suffix count => size - count
  | .onward first => first
  | .between first _ => first

/-- The last byte a range asks for in an object of this size. -/
def RangeSpec.high (size : ℕ) : RangeSpec → ℕ
  | .suffix _ => size - 1
  | .onward _ => size - 1
  | .between _ last => min last (size - 1)

/-- The bytes asked for are those between the two ends. -/
theorem RangeSpec.asks_iff {size : ℕ} (hsize : 0 < size) (spec : RangeSpec) (i : ℕ) :
    i < size ∧ spec.Asks size i ↔ spec.low size ≤ i ∧ i ≤ spec.high size := by
  cases spec with
  | suffix count =>
    show i < size ∧ size ≤ i + count ↔ size - count ≤ i ∧ i ≤ size - 1
    omega
  | onward first =>
    show i < size ∧ first ≤ i ↔ first ≤ i ∧ i ≤ size - 1
    omega
  | between first last =>
    show i < size ∧ first ≤ i ∧ i ≤ last ↔ first ≤ i ∧ i ≤ min last (size - 1)
    omega

/-- The length that is computed from the first and the last byte. -/
theorem length_iff {size start stop : Number} {n first last : ℕ} (hsize : size.HasValue n)
    (hstart : start.HasValue first) (hstop : stop.HasValue last) (horder : first ≤ last)
    (hinside : last < n) :
    (bytesRange start stop).length.HasValue ((last - first + 1 : ℕ) : ℚ) ↔
      CountIsExact (last - first + 1) := by
  have hdiff := hasValue_sub hstop hstart (Nat.cast_nonneg last) (Nat.cast_nonneg first)
  -- the count is no more than the size, so it does not overflow
  have hlt : |((last - first + 1 : ℕ) : ℚ)| < 2 ^ 1024 := by
    have hle : ((last - first + 1 : ℕ) : ℚ) ≤ n := by exact_mod_cast (by omega)
    rw [abs_of_nonneg (Nat.cast_nonneg _)]
    exact hle.trans_lt ((le_abs_self _).trans_lt hsize.lt)
  have hcast : (last : ℚ) - first = ((last - first + 1 : ℕ) : ℚ) - 1 := by
    push_cast [horder]
    ring
  have hround := Double.round_length_iff (n := ((last - first + 1 : ℕ) : ℤ)) (by omega)
  rw [Int.cast_natCast] at hround
  show ((stop.sub start).add (Number.ofRat 1)).HasValue _ ↔ _
  rw [hdiff.add_eq hasValue_one, Number.ofRat_hasValue_iff hlt, hcast, hround]
  exact or_congr (by norm_cast) (and_congr Iff.rfl (by norm_cast))

/-- Numbers are exact when they are the first and the last byte, and so is the count. -/
theorem exact_iff_values {size start stop : Number} {n : ℕ} {a b : ℚ} {spec : RangeSpec}
    (hsize : size.HasValue n) (hstart : start.HasValue a) (hstop : stop.HasValue b) :
    (∃ first last, Exact (bytesRange start stop) n spec first last) ↔
      0 < n ∧ spec.low n ≤ spec.high n ∧ a = spec.low n ∧ b = spec.high n ∧
        CountIsExact (spec.high n - spec.low n + 1) := by
  constructor
  · rintro ⟨first, last, h⟩
    have hpos : 0 < n := (Nat.zero_le last).trans_lt h.inside
    have hbound (i : ℕ) : first ≤ i ∧ i ≤ last ↔ spec.low n ≤ i ∧ i ≤ spec.high n :=
      (h.covers i).trans (spec.asks_iff hpos i)
    -- both ends of an interval lie in the other one
    have horder := h.order
    have hfirst := (hbound first).mp ⟨le_rfl, horder⟩
    have hlast := (hbound last).mp ⟨horder, le_rfl⟩
    have hlow := (hbound (spec.low n)).mpr ⟨le_rfl, hfirst.1.trans hfirst.2⟩
    have hhigh := (hbound (spec.high n)).mpr ⟨hlast.1.trans hlast.2, le_rfl⟩
    obtain rfl : first = spec.low n := by omega
    obtain rfl : last = spec.high n := by omega
    exact ⟨hpos, horder, hstart.unique h.start, hstop.unique h.stop,
      (length_iff hsize h.start h.stop horder h.inside).mp h.length⟩
  · rintro ⟨hpos, horder, rfl, rfl, hcount⟩
    have hinside := ((spec.asks_iff hpos (spec.high n)).mpr ⟨horder, le_rfl⟩).1
    exact ⟨spec.low n, spec.high n, horder, hinside, hstart, hstop, rfl,
      (length_iff hsize hstart hstop horder hinside).mpr hcount,
      fun i => (spec.asks_iff hpos i).symm⟩

/-! ## Rounded bounds -/

/-- Every natural number up to `2 ^ 53` is a double. -/
theorem isDouble_natCast {n : ℕ} (h : n ≤ 2 ^ 53) : Double.IsDouble n := by
  have hint := Double.isDouble_of_abs_le (n := (n : ℤ)) (abs_le.mpr (by omega))
  rwa [Int.cast_natCast] at hint

/-- And rounds to itself. -/
theorem round_natCast {n : ℕ} (h : n ≤ 2 ^ 53) : Double.round n = n :=
  Double.round_of_isDouble (isDouble_natCast h)

/-- What rounds to less than a size is less. -/
theorem lt_of_round_lt {k n : ℕ} (hn : Double.IsDouble n) (h : Double.round k < n) : k < n := by
  by_contra hge
  have hle : (n : ℚ) ≤ k := by exact_mod_cast not_lt.mp hge
  exact absurd (Double.le_round hn hle) (not_le.mpr h)

/-- The last byte of an object is a number of the code up to `2^53`. -/
theorem isDouble_pred_iff {n : ℕ} (hn : Double.IsDouble n) (hpos : 0 < n) :
    Double.IsDouble ((n - 1 : ℕ) : ℚ) ↔ n ≤ 2 ^ 53 := by
  constructor
  · intro hpred
    by_contra hbig
    -- doubles past `2^53` are even, and these two are not both
    have heven {k : ℕ} (hk : Double.IsDouble k) (hle : 2 ^ 53 ≤ k) : 2 ∣ k := by
      have hdvd := Double.two_pow_dvd (n := (k : ℤ)) (k := 1) (by rwa [Int.cast_natCast])
        (by rw [Nat.abs_cast]; exact_mod_cast hle)
      exact_mod_cast hdvd
    have hn2 := heven hn (by omega)
    have hpred2 := heven hpred (by omega)
    omega
  · exact fun h => isDouble_natCast (by omega)

/-- The predecessor of a positive number, as a rational. -/
theorem cast_pred {n : ℕ} (hpos : 0 < n) : (n : ℚ) - 1 = ((n - 1 : ℕ) : ℚ) := by
  push_cast [Nat.one_le_iff_ne_zero.mpr hpos.ne']
  rfl

/-- A size's predecessor is exact exactly up to `2 ^ 53`. -/
theorem round_pred_iff {n : ℕ} (hn : Double.IsDouble n) (hpos : 0 < n) :
    Double.round ((n : ℚ) - 1) = ((n - 1 : ℕ) : ℚ) ↔ n ≤ 2 ^ 53 := by
  rw [cast_pred hpos, Double.round_eq_self_iff]
  exact isDouble_pred_iff hn hpos

/-- A suffix range is exact exactly for objects up to `2 ^ 53` bytes. -/
theorem suffix_iff {n count : ℕ} (hn : Double.IsDouble n) (hcount : 0 < count) :
    (0 < n ∧ n - count ≤ n - 1 ∧
      max 0 (Double.round (n - Double.round count)) = ((n - count : ℕ) : ℚ) ∧
      Double.round ((n : ℚ) - 1) = ((n - 1 : ℕ) : ℚ) ∧
      CountIsExact (n - 1 - (n - count) + 1)) ↔ 0 < n ∧ n ≤ 2 ^ 53 := by
  constructor
  · rintro ⟨hpos, -, -, hpred, -⟩
    exact ⟨hpos, (round_pred_iff hn hpos).mp hpred⟩
  · rintro ⟨hpos, hsmall⟩
    refine ⟨hpos, by omega, ?_, (round_pred_iff hn hpos).mpr hsmall, .inl (by omega)⟩
    rcases le_or_gt count n with hle | hgt
    · -- nothing is rounded
      have hsub : (n : ℚ) - count = ((n - count : ℕ) : ℚ) := by
        push_cast [hle]
        rfl
      rw [round_natCast (hle.trans hsmall), hsub, round_natCast (by omega)]
      exact max_eq_right (Nat.cast_nonneg _)
    · -- a longer suffix starts at the first byte
      have hge : (n : ℚ) ≤ Double.round count :=
        Double.le_round hn (by exact_mod_cast hgt.le)
      have hneg : Double.round (n - Double.round count) ≤ 0 :=
        Double.round_le (isDouble_natCast (n := 0) (by decide)) (by linarith)
      rw [max_eq_left hneg, Nat.sub_eq_zero_of_le hgt.le, Nat.cast_zero]

/-- An open range that starts inside the object is exact exactly for objects up to `2 ^ 53`
    bytes. -/
theorem onward_iff {n first : ℕ} (hn : Double.IsDouble n) (hbelow : Double.round first < n) :
    (0 < n ∧ first ≤ n - 1 ∧ Double.round first = first ∧
      Double.round ((n : ℚ) - 1) = ((n - 1 : ℕ) : ℚ) ∧ CountIsExact (n - 1 - first + 1)) ↔
      n ≤ 2 ^ 53 := by
  have hlt := lt_of_round_lt hn hbelow
  constructor
  · rintro ⟨hpos, -, -, hpred, -⟩
    exact (round_pred_iff hn hpos).mp hpred
  · intro hsmall
    exact ⟨by omega, by omega, round_natCast (by omega),
      (round_pred_iff hn (by omega)).mpr hsmall, .inl (by omega)⟩

/-- A closed range is exact for objects up to `2 ^ 53` bytes, and inside larger ones where its
    ends are doubles and its length is counted exactly. -/
theorem between_iff {n first last : ℕ} (hn : Double.IsDouble n) (hbelow : Double.round first < n)
    (horder : Double.round first ≤ min (Double.round last) (Double.round (n - 1))) :
    (0 < n ∧ first ≤ min last (n - 1) ∧ Double.round first = first ∧
      min (Double.round last) (Double.round ((n : ℚ) - 1)) = ((min last (n - 1) : ℕ) : ℚ) ∧
      CountIsExact (min last (n - 1) - first + 1)) ↔
      n ≤ 2 ^ 53 ∨ last + 1 < n ∧ Double.IsDouble first ∧ Double.IsDouble last ∧
        CountIsExact (last - first + 1) := by
  have hlt := lt_of_round_lt hn hbelow
  have hpos : 0 < n := by omega
  constructor
  · rintro ⟨-, hle, hfirst, hstop, hcount⟩
    rcases le_or_gt n (2 ^ 53) with hsmall | hbig
    · exact .inl hsmall
    have hd : Double.IsDouble ((min last (n - 1) : ℕ) : ℚ) := by
      rw [← hstop]
      rcases min_choice (Double.round last) (Double.round ((n : ℚ) - 1)) with h | h
      all_goals
        rw [h]
        exact Double.isDouble_round _
    -- the last byte of the object is none of the numbers
    have hlast : last + 1 < n := by
      by_contra hge
      rw [min_eq_right (by omega : n - 1 ≤ last)] at hd
      exact absurd ((isDouble_pred_iff hn hpos).mp hd) (not_le.mpr hbig)
    rw [min_eq_left (by omega : last ≤ n - 1)] at hd hcount
    exact .inr ⟨hlast, Double.round_eq_self_iff.mp hfirst, hd, hcount⟩
  · -- it is enough to find the two bounds: the order of them was checked
    have hbounds (hfirst : Double.round first = first)
        (hstop : min (Double.round last) (Double.round ((n : ℚ) - 1)) =
          ((min last (n - 1) : ℕ) : ℚ)) :
        first ≤ min last (n - 1) := by
      rw [hfirst, hstop] at horder
      exact_mod_cast horder
    rintro (hsmall | ⟨hlast, hdfirst, hdlast, hcount⟩)
    · have hfirst : Double.round first = first := round_natCast (by omega)
      have hstop : min (Double.round last) (Double.round ((n : ℚ) - 1)) =
          ((min last (n - 1) : ℕ) : ℚ) := by
        rw [(round_pred_iff hn hpos).mpr hsmall]
        rcases lt_or_ge last n with hinside | hpast
        · rw [round_natCast (by omega), Nat.cast_min]
        · -- a last byte past the end stays past it
          have hge : ((n - 1 : ℕ) : ℚ) ≤ Double.round last :=
            Double.le_round (isDouble_natCast (by omega)) (by exact_mod_cast (by omega))
          rw [min_eq_right hge, min_eq_right (by omega : n - 1 ≤ last)]
      exact ⟨hpos, hbounds hfirst hstop, hfirst, hstop, .inl (by omega)⟩
    · have hfirst : Double.round first = first := Double.round_of_isDouble hdfirst
      have hmin : min last (n - 1) = last := min_eq_left (by omega)
      have hstop : min (Double.round last) (Double.round ((n : ℚ) - 1)) =
          ((min last (n - 1) : ℕ) : ℚ) := by
        have hle : (last : ℚ) ≤ Double.round ((n : ℚ) - 1) := by
          apply Double.le_round hdlast
          rw [cast_pred hpos]
          exact_mod_cast (by omega)
        rw [Double.round_of_isDouble hdlast, min_eq_left hle, hmin]
      exact ⟨hpos, hbounds hfirst hstop, hfirst, hstop, by rwa [hmin]⟩

/-- When the numbers of a returned range are those that were asked for. -/
theorem exact_iff {size start stop : Number} {n : ℕ} {spec : RangeSpec} (hsize : size.HasValue n)
    (hstart : start.HasValue (spec.startOf n)) (hstop : stop.HasValue (spec.stopOf n))
    (hchecked : spec.Checked n) :
    (∃ first last, Exact (bytesRange start stop) n spec first last) ↔ spec.Representable n := by
  rw [exact_iff_values hsize hstart hstop]
  cases spec with
  | suffix count => exact suffix_iff hsize.isDouble hchecked
  | onward first => exact onward_iff hsize.isDouble hchecked.1
  | between first last => exact between_iff hsize.isDouble hchecked.1 hchecked.2

/-! ## The download -/

/-- What R2 promises: a size counts bytes, far below `2^53` of them, and what a `get` of at
    least one byte returns starts inside of the object that it reads. -/
structure Bucket.Documented (bucket : Bucket) : Prop where
  size : ∀ key head, bucket.head key = .found head →
    ∃ n : ℕ, n < 2 ^ 53 ∧ head.size.HasValue n
  getRange : ∀ key offset length body (first count : ℕ), offset.HasValue first →
    length.HasValue count → 0 < count → bucket.getRange key offset length = .found body →
    ∃ stored : List UInt8, first < stored.length ∧ body = (stored.drop first).take count

/-- A partial answer to the request: its range is valid and the one that was asked for, and so
    are its length and the bytes of it. -/
def ValidPartial (method : String) (size : ℕ) (spec : RangeSpec) (answer : MediaResponse) : Prop :=
  ∃ first last : ℕ, first ≤ last ∧ last < size ∧
    (∀ i, first ≤ i ∧ i ≤ last ↔ i < size ∧ spec.Asks size i) ∧
    answer.headers.lookup "content-range" =
      some ("bytes " ++ first.repr ++ "-" ++ last.repr ++ "/" ++ size.repr) ∧
    answer.headers.lookup "content-length" = some (last - first + 1).repr ∧
    (method ≠ "HEAD" → ∃ byte rest, answer.body = some (byte :: rest))

/-- A suffix of an object without bytes. -/
def IsEmptySuffix (size : ℕ) : RangeSpec → Prop
  | .suffix _ => size = 0
  | _ => False

/-- A response around a body is made of one that R2 came back with. -/
theorem answerWith_response {method : String} {status : Nat} {headers : List (String × String)}
    {fetched : Fetched (List UInt8)} {answer : MediaResponse}
    (h : answerWith method status headers fetched = .response answer) :
    ∃ body, fetched = .found body ∧
      answer = ⟨status, headers, if method = "HEAD" then none else some body⟩ := by
  cases fetched with
  | threw => cases h
  | missing => cases h
  | found body =>
    cases h
    exact ⟨body, rfl, rfl⟩

/-- A 206 answers a range that was read from the request and that R2 had bytes for. -/
theorem serveObject_partial {bucket : Bucket} {request : MediaRequest} {key : String}
    {head : R2Object} {answer : MediaResponse}
    (h : serveObject bucket request key head = .response answer) (hstatus : answer.status = 206) :
    ∃ r body, parseBytesRange request.range head.size = .range r ∧
      bucket.getRange key r.offset r.length = .found body ∧
      answer.headers.lookup "content-range" =
        some ("bytes " ++ r.start.text ++ "-" ++ r.stop.text ++ "/" ++ head.size.text) ∧
      answer.headers.lookup "content-length" = some r.length.text ∧
      answer.body = if request.method = "HEAD" then none else some body := by
  unfold serveObject at h
  dsimp only at h
  split at h
  next =>
    cases h
    cases hstatus
  next r hrange =>
    obtain ⟨body, hbody, rfl⟩ := answerWith_response h
    exact ⟨r, body, hrange, hbody, rfl, rfl, rfl⟩
  next =>
    -- the whole object is answered with a 200
    split at h
    next =>
      cases h
      cases hstatus
    next =>
      obtain ⟨body, -, rfl⟩ := answerWith_response h
      cases hstatus

/-- A response comes from an object that a download token names. -/
theorem handleMediaDownload_response {digests : Digests} {now : EpochSeconds} {env : MediaEnv}
    {request : MediaRequest} {token : String} {answer : MediaResponse}
    (h : handleMediaDownload digests now env request token = .response answer) :
    ∃ secret bucket parsed head, mediaSigningSecret env.CF_AIG_TOKEN = some secret ∧
      env.MEDIA = some bucket ∧
      verifyMediaToken digests secret token now.number = some parsed ∧ parsed.kind = .d ∧
      bucket.head parsed.objectKey = .found head ∧
      serveObject bucket request parsed.objectKey head = .response answer := by
  unfold handleMediaDownload at h
  split at h
  next => cases h
  next =>
  split at h
  next => cases h
  -- the answers without a body are left behind one by one
  next secret hsecret =>
  split at h
  next => cases h
  next bucket hbucket =>
  split at h
  next => cases h
  next parsed hparsed =>
  split at h
  next => cases h
  next => cases h
  next head hhead =>
    obtain ⟨hverify, hkind⟩ := Option.filter_eq_some_iff.mp hparsed
    exact ⟨secret, bucket, parsed, head, hsecret, hbucket, hverify, of_decide_eq_true hkind, hhead,
      h⟩

/-- Numbers that are exact are written into a valid answer. -/
theorem validPartial_of_exact {bucket : Bucket} (hb : bucket.Documented) {method key : String}
    {size : Number} {r : BytesRange} {n first last : ℕ} {spec : RangeSpec} {body : List UInt8}
    {answer : MediaResponse} (hsize : size.HasValue n) (hn : n < 2 ^ 53)
    (hr : Exact r n spec first last) (hbody : bucket.getRange key r.offset r.length = .found body)
    (hrange : answer.headers.lookup "content-range" =
      some ("bytes " ++ r.start.text ++ "-" ++ r.stop.text ++ "/" ++ size.text))
    (hlength : answer.headers.lookup "content-length" = some r.length.text)
    (hanswer : answer.body = if method = "HEAD" then none else some body) :
    ValidPartial method n spec answer := by
  have horder := hr.order
  have hinside := hr.inside
  rw [Number.text_natCast hr.start (by omega), Number.text_natCast hr.stop (by omega),
    Number.text_natCast hsize hn] at hrange
  rw [Number.text_natCast hr.length (by omega)] at hlength
  refine ⟨first, last, horder, hinside, hr.covers, hrange, hlength, ?_⟩
  intro hmethod
  -- what was read starts inside of the object
  obtain ⟨stored, hstart, rfl⟩ := hb.getRange key _ _ body first (last - first + 1)
    (hr.offset ▸ hr.start) hr.length (Nat.succ_pos _) hbody
  rw [List.drop_eq_getElem_cons hstart, List.take_succ_cons, if_neg hmethod] at hanswer
  exact ⟨_, _, hanswer⟩

/-- Below `2 ^ 53` bytes only the empty suffix is not representable. -/
theorem representable_iff {n : ℕ} (hn : n < 2 ^ 53) (spec : RangeSpec) :
    spec.Representable n ↔ ¬ IsEmptySuffix n spec := by
  cases spec with
  | suffix count =>
    show 0 < n ∧ n ≤ 2 ^ 53 ↔ ¬ n = 0
    omega
  | onward first => exact iff_of_true hn.le not_false
  | between first last => exact iff_of_true (.inl hn.le) not_false

/-- A 206 is valid, but for a suffix of an object without bytes. -/
theorem serveObject_valid {bucket : Bucket} (hb : bucket.Documented) {request : MediaRequest}
    {key : String} {head : R2Object} {answer : MediaResponse} {n : ℕ}
    (hsize : head.size.HasValue n) (hn : n < 2 ^ 53)
    (h : serveObject bucket request key head = .response answer) (hstatus : answer.status = 206) :
    ∃ spec, Requests request.range spec ∧
      (ValidPartial request.method n spec answer ↔ ¬ IsEmptySuffix n spec) := by
  obtain ⟨r, body, hparse, hbody, hrange, hlength, hanswer⟩ := serveObject_partial h hstatus
  obtain ⟨spec, start, stop, hspec, rfl, hstart, hstop, hchecked⟩ :=
    parseBytesRange_range hsize hparse
  refine ⟨spec, hspec, ?_⟩
  constructor
  · -- no byte is inside of an object without bytes
    rintro ⟨first, last, -, hinside, -⟩ hempty
    cases spec with
    | suffix count =>
      have hzero : n = 0 := hempty
      omega
    | onward _ => exact hempty
    | between _ _ => exact hempty
  · intro hsuffix
    obtain ⟨first, last, hexact⟩ :=
      (exact_iff hsize hstart hstop hchecked).mpr ((representable_iff hn spec).mpr hsuffix)
    exact validPartial_of_exact hb hsize hn hexact hbody hrange hlength hanswer

/-- R2 has this of the object that the token names. -/
def NamedObject (digests : Digests) (now : EpochSeconds) (env : MediaEnv) (token : String)
    (head : R2Object) : Prop :=
  ∃ secret bucket parsed, mediaSigningSecret env.CF_AIG_TOKEN = some secret ∧
    env.MEDIA = some bucket ∧ verifyMediaToken digests secret token now.number = some parsed ∧
    parsed.kind = .d ∧ bucket.head parsed.objectKey = .found head

/-- A parsed range is that of the one request of its header; it is exact, of an object of any
    size, when the request is representable. A 206 is valid unless it answers a suffix of an
    object without bytes. -/
theorem byte_ranges (header : Option String) :
    (∀ (size : Number) (n : ℕ) (r : BytesRange), size.HasValue n →
      parseBytesRange header size = .range r →
      ∃ spec, (∀ other, Requests header other ↔ other = spec) ∧
        ((∃ first last, Exact r n spec first last) ↔ spec.Representable n)) ∧
    (∀ (digests : Digests) (now : EpochSeconds) (env : MediaEnv) (method token : String)
      (answer : MediaResponse),
      (∀ bucket, env.MEDIA = some bucket → bucket.Documented) →
      handleMediaDownload digests now env ⟨method, header⟩ token = .response answer →
      answer.status = 206 →
      ∃ head, ∃ n : ℕ, ∃ spec, NamedObject digests now env token head ∧ head.size.HasValue n ∧
        (∀ other, Requests header other ↔ other = spec) ∧
        (ValidPartial method n spec answer ↔ ¬ IsEmptySuffix n spec)) := by
  -- a header asks for one range at most
  have honly {spec : RangeSpec} (h : Requests header spec) :
      ∀ other, Requests header other ↔ other = spec :=
    fun other => ⟨fun hother => hother.unique h, fun heq => heq ▸ h⟩
  constructor
  · intro size n r hsize h
    obtain ⟨spec, start, stop, hspec, rfl, hstart, hstop, hchecked⟩ := parseBytesRange_range hsize h
    exact ⟨spec, honly hspec, exact_iff hsize hstart hstop hchecked⟩
  · intro digests now env method token answer hb h hstatus
    obtain ⟨secret, bucket, parsed, head, hsecret, hbucket, hverify, hkind, hhead, hserve⟩ :=
      handleMediaDownload_response h
    obtain ⟨n, hn, hsize⟩ := (hb bucket hbucket).size _ _ hhead
    obtain ⟨spec, hspec, hvalid⟩ := serveObject_valid (hb bucket hbucket) hsize hn hserve hstatus
    exact ⟨head, n, spec, ⟨secret, bucket, parsed, hsecret, hbucket, hverify, hkind, hhead⟩, hsize,
      honly hspec, hvalid⟩

/-- The platform's digests of what the sample needs, and nothing of anything else. -/
def downloadDigests : Digests where
  sha256 bytes :=
    if bytes = TextEncoder.encode "prism-media-v1:media-range-secret" then
      [99, 187, 23, 49, 98, 14, 25, 189, 130, 173, 109, 187, 70, 245, 206, 103,
        222, 167, 247, 111, 193, 236, 138, 83, 225, 98, 88, 20, 59, 188, 54, 225]
    else []
  hmac _ message :=
    if message = TextEncoder.encode "d\n1700086400\nvideo/a/b-c.mp4" then
      [131, 208, 92, 170, 163, 254, 154, 135, 253, 132, 96, 145, 197, 244, 89, 143,
        151, 46, 248, 119, 189, 58, 55, 100, 41, 208, 93, 130, 126, 58, 131, 60]
    else []

/-- A download token of the sample object. -/
def downloadToken : String :=
  "d.1700086400.dmlkZW8vYS9iLWMubXA0.g9BcqqP-mof9hGCRxfRZj5cu-He9OjdkKdBdgn46gzw"

/-- A bucket of one object. -/
def bucketOf (key : String) (stored : List UInt8) : Bucket where
  head k := if k = key then .found ⟨.ofRat stored.length, none⟩ else .missing
  get k := if k = key then .found stored else .missing
  getRange k offset length :=
    if k = key then
      match offset, length with
      | .finite first, .finite count =>
        if first.val.num.toNat < stored.length ∧ 0 < count.val.num then
          .found ((stored.drop first.val.num.toNat).take count.val.num.toNat)
        else .threw
      | _, _ => .threw
    else .missing

/-- The sample bucket reports the size of the bytes it stores. -/
theorem head_bucketOf {key k : String} {stored : List UInt8} {head : R2Object}
    (h : (bucketOf key stored).head k = .found head) : head.size = .ofRat stored.length := by
  unfold bucketOf at h
  dsimp only at h
  split at h
  next =>
    cases h
    rfl
  next => cases h

/-- The sample bucket behaves as documented. -/
theorem bucketOf_documented (key : String) {stored : List UInt8} (h : stored.length < 2 ^ 53) :
    (bucketOf key stored).Documented where
  size k head hhead := by
    have hvalue := Number.ofRat_intCast (n := (stored.length : ℤ)) (abs_le.mpr (by omega))
    rw [Int.cast_natCast] at hvalue
    exact ⟨stored.length, h, head_bucketOf hhead ▸ hvalue⟩
  getRange k offset length body first count hoffset hlength hcount hbody := by
    obtain ⟨x, rfl, hx⟩ := hoffset
    obtain ⟨y, rfl, hy⟩ := hlength
    unfold bucketOf at hbody
    dsimp only at hbody
    rw [hx, hy, Rat.num_natCast, Rat.num_natCast, Int.toNat_natCast, Int.toNat_natCast] at hbody
    split at hbody
    next =>
      split at hbody
      -- a range inside the object is cut out of its bytes
      next hin =>
        cases hbody
        exact ⟨stored, hin.1, rfl⟩
      next => cases hbody
    next => cases hbody

/-- The sample secret and a bucket of one object. -/
def sampleEnv : MediaEnv :=
  ⟨some "media-range-secret", some (bucketOf "video/a/b-c.mp4" [1, 2, 3, 4, 5, 6])⟩

/-- The answer to the last four bytes of the sample's object. -/
def lastFour : MediaResponse where
  status := 206
  headers := [("content-type", "video/mp4"), ("cache-control", "private, max-age=3600"),
    ("accept-ranges", "bytes"), ("content-disposition", "inline; filename=\"video.mp4\""),
    ("content-range", "bytes 2-5/6"), ("content-length", "4")]
  body := some [3, 4, 5, 6]

/-- A suffix range that reaches the last hundred bytes, and a partial answer of the last four.
    -/
theorem byte_ranges_sample :
    (∃ first last, Exact ⟨.ofRat 900, .ofRat 100, .ofRat 900, .ofRat 999⟩ 1000 (.suffix 100)
      first last) ∧
    ValidPartial "GET" 6 (.suffix 4) lastFour := by
  have hspec {text : String} (digits : String) (hne : digits.toList ≠ [])
      (h : execRange (JsString.trim text) = some ("", digits)) :
      Requests (some text) (.suffix (number digits.toList)) :=
    ⟨text, [], digits.toList, rfl, execRange_iff.mp h, by
      rw [RangeSpec.ofDigits, if_pos rfl, if_neg hne]⟩
  constructor
  · have hsize : (Number.ofRat 1000).HasValue (1000 : ℕ) := by
      exact_mod_cast Number.ofRat_intCast (n := 1000) (by decide)
    obtain ⟨spec, honly, hexact⟩ := (byte_ranges (some "bytes=-100")).1 (.ofRat 1000) 1000
      ⟨.ofRat 900, .ofRat 100, .ofRat 900, .ofRat 999⟩ hsize (by decide +kernel)
    have hsuffix : RangeSpec.suffix 100 = spec :=
      (honly _).mp (hspec "100" (by decide) (by decide +kernel))
    rw [← hsuffix] at hexact
    exact hexact.mpr ⟨by decide, by decide⟩
  · have hanswer : handleMediaDownload downloadDigests ⟨1700000000, by decide⟩ sampleEnv
        ⟨"GET", some "bytes=-4"⟩ downloadToken = .response lastFour := by
      decide +kernel
    obtain ⟨head, n, spec, hnamed, hsize, honly, hvalid⟩ :=
      (byte_ranges (some "bytes=-4")).2 downloadDigests ⟨1700000000, by decide⟩ sampleEnv "GET"
        downloadToken lastFour
        (fun bucket hbucket => Option.some.inj hbucket ▸ bucketOf_documented _ (by decide))
        hanswer rfl
    have hsuffix : RangeSpec.suffix 4 = spec :=
      (honly _).mp (hspec "4" (by decide) (by decide +kernel))
    -- the one object of the bucket
    obtain ⟨_, bucket, parsed, -, hbucket, -, -, hhead⟩ := hnamed
    cases hbucket
    have hsix : head.size.HasValue (6 : ℕ) :=
      head_bucketOf hhead ▸ Number.ofRat_intCast (n := 6) (by decide)
    obtain rfl : n = 6 := by exact_mod_cast hsize.unique hsix
    rw [← hsuffix] at hvalid
    exact hvalid.mpr (show ¬ (6 : ℕ) = 0 by decide)

/-- The last five bytes of an object without bytes: a range of no bytes that ends before the
    first one, and the 206 of it. -/
theorem empty_suffix_range :
    let r : BytesRange := ⟨.ofRat 0, .ofRat 0, .ofRat 0, .ofRat (-1)⟩
    parseBytesRange (some "bytes=-5") (.ofRat 0) = .range r ∧
      (¬ ∃ spec first last, Exact r 0 spec first last) ∧
      ∀ (bucket : Bucket) (key : String) (head : R2Object) (body : List UInt8),
        head.size = .ofRat 0 → bucket.getRange key r.offset r.length = .found body →
        serveObject bucket ⟨"GET", some "bytes=-5"⟩ key head = .response ⟨206,
          baseHeaders head key ++
            [("content-range", "bytes 0--1/0"), ("content-length", "0")], some body⟩ := by
  have hparse : parseBytesRange (some "bytes=-5") (.ofRat 0) =
      .range ⟨.ofRat 0, .ofRat 0, .ofRat 0, .ofRat (-1)⟩ := by
    decide +kernel
  have hzero : (Number.ofRat 0).text = "0" := by decide +kernel
  have hminus : (Number.ofRat (-1)).text = "-1" := by decide +kernel
  refine ⟨hparse, ?_, ?_⟩
  -- no byte of an empty object could be the last one
  · rintro ⟨spec, first, last, h⟩
    exact Nat.not_lt_zero last h.inside
  -- the handler answers 206 all the same
  · intro bucket key head body hhead hbody
    rw [serveObject, hhead, hparse]
    dsimp only at hbody ⊢
    rw [hbody, hzero, hminus]
    rfl

end ControlPlane.Media
