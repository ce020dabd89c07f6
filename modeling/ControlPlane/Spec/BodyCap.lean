import ControlPlane.Model.RequestBody

/-!
# The cap of a request body

What is accepted depends on the declared length and on the bytes of the stream, not on how
they are cut into chunks; the chunks that are kept never exceed the cap, and nothing is read
once it is crossed.

## Key results

- `copyChunks_eq`: the chunks set one behind the other are their concatenation
- `turn_cases`: what one turn of the loop can do
- `readLoop_cases`: how the loop ends, and what it has read
- `readBodyBytesCapped_cases`: how a body is read, and what is left of its stream
- `readBodyBytesCapped_eq`: the outcome, without the chunks
-/

namespace ControlPlane

/-! ## What a body is made of -/

/-- The bytes one read gives. -/
def StreamRead.bytes : StreamRead → List UInt8
  | .chunk value => value.getD []
  | .failed => []

/-- The bytes of a sequence of reads. -/
def readBytes (reads : List StreamRead) : List UInt8 := reads.flatMap StreamRead.bytes

@[simp] theorem readBytes_nil : readBytes [] = [] := rfl

@[simp] theorem readBytes_append (reads more : List StreamRead) :
    readBytes (reads ++ more) = readBytes reads ++ readBytes more :=
  List.flatMap_append

@[simp] theorem readBytes_cons (read : StreamRead) (reads : List StreamRead) :
    readBytes (read :: reads) = read.bytes ++ readBytes reads :=
  List.flatMap_cons

theorem length_readBytes_le {reads more : List StreamRead} (h : reads <+: more) :
    (readBytes reads).length ≤ (readBytes more).length := by
  obtain ⟨rest, rfl⟩ := h
  rw [readBytes_append, List.length_append]
  exact Nat.le_add_right _ _

/-- The bytes a request carries. -/
def BodyRequest.bytes (request : BodyRequest) : List UInt8 :=
  match request.body with
  | none => []
  | some stream => readBytes stream.reads

/-- No call on the body's stream fails. -/
def BodyRequest.ReadsWell (request : BodyRequest) : Prop :=
  ∀ stream, request.body = some stream →
    (∀ read ∈ stream.reads, read ≠ .failed) ∧ stream.cancelFails = false

/-- The declared length is a finite number above the cap. -/
def BodyRequest.DeclaresOver (request : BodyRequest) (maxBytes : ℕ) : Prop :=
  ∃ declared q, request.contentLength = some declared ∧ (Number.ofText declared).HasValue q ∧
    (maxBytes : ℚ) < q

/-! ## The bytes set one chunk behind the other -/

theorem copyChunk_eq (before rest chunk : List UInt8) (h : chunk.length ≤ rest.length) :
    copyChunk (before ++ rest) chunk before.length =
      some (before ++ chunk ++ rest.drop chunk.length) := by
  have hfits : before.length + chunk.length ≤ (before ++ rest).length := by
    rw [List.length_append]
    omega
  rw [copyChunk, if_pos hfits, List.take_left, ← List.drop_drop, List.drop_left]

/-- No `set` throws, and the buffer ends up as the chunks. -/
theorem copyChunks_eq (chunks : List (List UInt8)) (before rest : List UInt8)
    (h : rest.length = chunks.flatten.length) :
    copyChunks (before ++ rest) chunks before.length = some (before ++ chunks.flatten) := by
  induction chunks generalizing before rest with
  | nil =>
    obtain rfl := List.length_eq_zero_iff.mp h
    rfl
  | cons chunk chunks ih =>
    rw [List.flatten_cons, List.length_append] at h
    rw [copyChunks, copyChunk_eq before rest chunk (by omega)]
    dsimp only
    -- the first chunk fills its part, the others what is left
    have hnext := ih (before ++ chunk) (rest.drop chunk.length) (by rw [List.length_drop]; omega)
    rw [List.length_append] at hnext
    rw [hnext, List.flatten_cons, List.append_assoc]

/-! ## The loop -/

/-- What is kept after these reads. -/
structure KeptOf (maxBytes : ℕ) (reads : List StreamRead) (kept : KeptChunks) : Prop where
  chunks : kept.chunks.flatten = readBytes reads
  total : kept.total = (readBytes reads).length
  le : kept.total ≤ maxBytes

/-- Where the loop stops: a failed read, or one with which the cap is crossed. -/
def StopsAt (maxBytes : ℕ) (cancelFails : Bool) (before : List StreamRead) (read : StreamRead)
    (e : ApiError) : Prop :=
  (readBytes before).length ≤ maxBytes ∧
    (read = .failed ∧ e = unreadable ∨
      maxBytes < (readBytes (before ++ [read])).length ∧
        e = if cancelFails then unreadable else overCap maxBytes)

/-- What one turn can do: it stops, or what it keeps is that of one read more. -/
theorem turn_cases {maxBytes : ℕ} {reads : List StreamRead} {kept : KeptChunks}
    (h : KeptOf maxBytes reads kept) (cancelFails : Bool) (read : StreamRead) :
    (∃ e, turn maxBytes cancelFails kept read = .stop e ∧
      StopsAt maxBytes cancelFails reads read e) ∨
    ∃ kept', turn maxBytes cancelFails kept read = .goOn kept' ∧
      KeptOf maxBytes (reads ++ [read]) kept' := by
  have hbefore : (readBytes reads).length ≤ maxBytes := h.total ▸ h.le
  -- a read without bytes changes nothing
  have hskip (hempty : read.bytes = []) : KeptOf maxBytes (reads ++ [read]) kept := by
    have hsame : readBytes (reads ++ [read]) = readBytes reads := by simp [hempty]
    exact ⟨hsame ▸ h.chunks, hsame ▸ h.total, h.le⟩
  cases read with
  | failed => exact .inl ⟨unreadable, rfl, hbefore, .inl ⟨rfl, rfl⟩⟩
  | chunk value =>
    cases value with
    | none => exact .inr ⟨kept, rfl, hskip rfl⟩
    | some value =>
      have hbytes : readBytes (reads ++ [.chunk (some value)]) = readBytes reads ++ value := by
        simp [StreamRead.bytes]
      have hlength : (readBytes (reads ++ [.chunk (some value)])).length =
          kept.total + value.length := by
        rw [hbytes, List.length_append, h.total]
      rw [turn]
      split
      next hempty => exact .inr ⟨kept, rfl, hskip (List.length_eq_zero_iff.mp hempty)⟩
      next =>
        split
        next hover => exact .inl ⟨_, rfl, hbefore, .inr ⟨by rwa [hlength], rfl⟩⟩
        next hunder =>
          refine .inr ⟨_, rfl, ?_, hlength.symm, not_lt.mp hunder⟩
          rw [hbytes, List.flatten_concat, h.chunks]

/-- How the loop ends: it has read the stream to its end, or has stopped behind the read that
    made it, whatever is left. -/
theorem readLoop_cases {maxBytes : ℕ} {before : List StreamRead} {kept : KeptChunks}
    (h : KeptOf maxBytes before kept) (cancelFails : Bool) (reads : List StreamRead) :
    (∃ kept', readLoop maxBytes cancelFails reads kept = (.ok kept', []) ∧
      KeptOf maxBytes (before ++ reads) kept') ∨
    ∃ passed read unread e, reads = passed ++ read :: unread ∧
      StopsAt maxBytes cancelFails (before ++ passed) read e ∧
      ∀ more, readLoop maxBytes cancelFails (passed ++ read :: more) kept = (.error e, more) := by
  induction reads generalizing before kept with
  | nil => exact .inl ⟨kept, rfl, by rwa [List.append_nil]⟩
  | cons read unread ih =>
    rcases turn_cases h cancelFails read with ⟨e, hturn, hstop⟩ | ⟨kept', hturn, hkept⟩
    · refine .inr ⟨[], read, unread, e, rfl, by rwa [List.append_nil], ?_⟩
      intro more
      rw [List.nil_append, readLoop, hturn]
    · -- the loop goes on with the rest, and ends as it does from there
      have hloop (rest : List StreamRead) : readLoop maxBytes cancelFails (read :: rest) kept =
          readLoop maxBytes cancelFails rest kept' := by
        rw [readLoop, hturn]
      rcases ih hkept with ⟨last, hlast, hkeptOf⟩ | ⟨passed, stopper, left, e, rfl, hstop, hmore⟩
      · refine .inl ⟨last, (hloop unread).trans hlast, ?_⟩
        rwa [List.append_assoc] at hkeptOf
      · refine .inr ⟨read :: passed, stopper, left, e, rfl, ?_, ?_⟩
        · rwa [List.append_assoc] at hstop
        · exact fun more => (hloop _).trans (hmore more)

/-- The start of the loop. -/
theorem keptOf_nil (maxBytes : ℕ) : KeptOf maxBytes [] ⟨[], 0⟩ :=
  ⟨rfl, rfl, Nat.zero_le maxBytes⟩

/-- The states of the loop: what is kept, and what is left to read. -/
inductive Reached (maxBytes : ℕ) (stream : BodyStream) : KeptChunks → List StreamRead → Prop where
  | start : Reached maxBytes stream ⟨[], 0⟩ stream.reads
  | turn {kept kept' : KeptChunks} {read : StreamRead} {unread : List StreamRead} :
      Reached maxBytes stream kept (read :: unread) →
      turn maxBytes stream.cancelFails kept read = .goOn kept' →
      Reached maxBytes stream kept' unread

/-- Every state of the loop keeps the bytes read so far, and no more than the cap. -/
theorem Reached.keptOf {maxBytes : ℕ} {stream : BodyStream} {kept : KeptChunks}
    {unread : List StreamRead} (h : Reached maxBytes stream kept unread) :
    ∃ reads, stream.reads = reads ++ unread ∧ KeptOf maxBytes reads kept := by
  induction h with
  | start => exact ⟨[], rfl, keptOf_nil maxBytes⟩
  | @turn kept kept' read unread _ hturn ih =>
    obtain ⟨reads, hreads, hkept⟩ := ih
    rcases turn_cases hkept stream.cancelFails read with ⟨e, hstop, -⟩ | ⟨next, hgo, hnext⟩
    · cases hturn.symm.trans hstop
    · cases hturn.symm.trans hgo
      exact ⟨reads ++ [read], by rw [hreads, List.append_assoc]; rfl, hnext⟩

/-- The loop goes on from a state that it has reached. -/
theorem Reached.readLoop_eq {maxBytes : ℕ} {stream : BodyStream} {kept : KeptChunks}
    {unread : List StreamRead} (h : Reached maxBytes stream kept unread) :
    readLoop maxBytes stream.cancelFails stream.reads ⟨[], 0⟩ =
      readLoop maxBytes stream.cancelFails unread kept := by
  induction h with
  | start => rfl
  | turn _ hturn ih => rw [ih, readLoop, hturn]

/-! ## The outcome -/

theorem declaredOver_iff {request : BodyRequest} {maxBytes : ℕ} :
    (∃ e, declaredOver request.contentLength maxBytes = some e) ↔
      request.DeclaresOver maxBytes := by
  unfold declaredOver BodyRequest.DeclaresOver
  cases request.contentLength with
  | none => exact iff_of_false nofun nofun
  | some declared =>
    dsimp only
    split
    next hempty =>
      -- no text reads as zero, which is above no cap
      refine iff_of_false nofun ?_
      rintro ⟨_, q, heq, hq, hlt⟩
      cases heq
      rw [hempty] at hq
      have hzero : (Number.ofText "").HasValue ((0 : ℤ) : ℚ) :=
        (by decide +kernel : Number.ofText "" = .ofRat ((0 : ℤ) : ℚ)) ▸
          Number.ofRat_intCast (n := 0) (by decide)
      rw [hq.unique hzero] at hlt
      exact absurd hlt (not_lt.mpr (Nat.cast_nonneg maxBytes))
    next =>
      split
      next n hn =>
        have hvalue (q : ℚ) : (Number.ofText declared).HasValue q ↔ n.val = q := by
          rw [hn]
          exact ⟨fun h => (Number.HasValue.unique ⟨n, rfl, rfl⟩ h), fun h => ⟨n, rfl, h⟩⟩
        constructor
        · rintro ⟨e, he⟩
          split at he
          next hlt => exact ⟨declared, n.val, rfl, (hvalue _).mpr rfl, hlt⟩
          next => cases he
        · rintro ⟨_, q, heq, hq, hlt⟩
          cases heq
          rw [(hvalue q).mp hq, if_pos hlt]
          exact ⟨_, rfl⟩
      next hn =>
        refine iff_of_false nofun ?_
        rintro ⟨_, q, heq, ⟨x, hx, -⟩, -⟩
        cases heq
        exact hn x hx

/-- The outcome by the declared length and the bytes alone. -/
def cappedOutcome (declared : Option String) (bytes : List UInt8) (maxBytes : ℕ) :
    ReadOutcome (List UInt8) :=
  match declaredOver declared maxBytes with
  | some e => .refused e
  | none => if maxBytes < bytes.length then .refused (overCap maxBytes) else .ok bytes

/-- What was kept is put together without a throw. -/
theorem KeptOf.copyChunks {maxBytes : ℕ} {reads : List StreamRead} {kept : KeptChunks}
    (h : KeptOf maxBytes reads kept) :
    copyChunks (List.replicate kept.total 0) kept.chunks 0 = some (readBytes reads) := by
  have hlength : (List.replicate kept.total (0 : UInt8)).length = kept.chunks.flatten.length := by
    rw [List.length_replicate, h.chunks, h.total]
  rw [← h.chunks]
  exact copyChunks_eq kept.chunks [] _ hlength

/-- How a body is read when its declared length lets it: to its end, or up to the read that the
    loop stops behind, whatever is left. -/
theorem readBodyBytesCapped_cases {request : BodyRequest} {stream : BodyStream} {maxBytes : ℕ}
    (hdeclared : declaredOver request.contentLength maxBytes = none)
    (hbody : request.body = some stream) :
    (readBodyBytesCapped request maxBytes = (.ok (readBytes stream.reads), []) ∧
      (readBytes stream.reads).length ≤ maxBytes) ∨
    ∃ passed read unread e, stream.reads = passed ++ read :: unread ∧
      StopsAt maxBytes stream.cancelFails passed read e ∧
      readBodyBytesCapped request maxBytes = (.refused e, unread) ∧
      ∀ more, readBodyBytesCapped
        { request with body := some { stream with reads := passed ++ read :: more } } maxBytes =
          (.refused e, more) := by
  unfold readBodyBytesCapped
  rw [hdeclared, hbody]
  dsimp only
  rcases readLoop_cases (keptOf_nil maxBytes) stream.cancelFails stream.reads with
    ⟨kept, hloop, hkept⟩ | ⟨passed, read, unread, e, hreads, hstop, hloop⟩
  · -- the end of the stream: what was kept is all of it
    rw [List.nil_append] at hkept
    rw [hloop]
    dsimp only
    rw [hkept.copyChunks]
    exact .inl ⟨rfl, hkept.total ▸ hkept.le⟩
  · have hstopped := hloop unread
    rw [← hreads] at hstopped
    rw [hstopped]
    refine .inr ⟨passed, read, unread, e, hreads, hstop, rfl, ?_⟩
    intro more
    rw [hdeclared]
    dsimp only
    rw [hloop more]

/-- Where no call on the stream fails, the chunks do not matter. -/
theorem readBodyBytesCapped_eq {request : BodyRequest} (h : request.ReadsWell) (maxBytes : ℕ) :
    (readBodyBytesCapped request maxBytes).1 =
      cappedOutcome request.contentLength request.bytes maxBytes := by
  unfold cappedOutcome BodyRequest.bytes
  cases hdeclared : declaredOver request.contentLength maxBytes with
  | some e =>
    unfold readBodyBytesCapped
    rw [hdeclared]
    cases request.body <;> rfl
  | none =>
    cases hbody : request.body with
    | none =>
      unfold readBodyBytesCapped
      rw [hdeclared, hbody]
      rfl
    | some stream =>
      obtain ⟨hfine, hcancel⟩ := h stream hbody
      dsimp only
      rcases readBodyBytesCapped_cases hdeclared hbody with
        ⟨hread, hle⟩ | ⟨passed, read, unread, e, hreads, ⟨-, hstop⟩, hread, -⟩
      · rw [hread, if_neg (not_lt.mpr hle)]
      · rw [hread]
        rcases hstop with ⟨rfl, -⟩ | ⟨hover, rfl⟩
        · -- no read of the stream fails
          exact absurd rfl (hfine .failed (by simp [hreads]))
        · -- with the cap crossed on the way the whole is over it too
          have hlonger : maxBytes < (readBytes stream.reads).length := by
            rw [hreads]
            simp only [readBytes_append, readBytes_cons, readBytes_nil, List.length_append,
              List.length_nil] at hover ⊢
            omega
          rw [if_pos hlonger, hcancel]
          rfl

/-- These reads were made of the stream by the end of the call, and the rest was not: none after
    a declared length above the cap, and none after the cap was crossed. Once it is crossed the
    outcome is there, whatever would follow. -/
structure ReadWithin (request : BodyRequest) (stream : BodyStream) (maxBytes : ℕ)
    (read : List StreamRead) : Prop where
  rest : stream.reads = read ++ (readBodyBytesCapped request maxBytes).2
  declared : request.DeclaresOver maxBytes → read = []
  within : ∀ before r after, read = before ++ r :: after → (readBytes before).length ≤ maxBytes
  crossed : maxBytes < (readBytes read).length → ∀ more,
    readBodyBytesCapped { request with body := some { stream with reads := read ++ more } }
      maxBytes = ((readBodyBytesCapped request maxBytes).1, more)

/-- Every read is made within the cap. -/
theorem readBodyBytesCapped_reads {request : BodyRequest} {stream : BodyStream} {maxBytes : ℕ}
    (hbody : request.body = some stream) :
    ∃ read, ReadWithin request stream maxBytes read := by
  cases hdeclared : declaredOver request.contentLength maxBytes with
  | some e =>
    have hread : readBodyBytesCapped request maxBytes = (.refused e, stream.reads) := by
      unfold readBodyBytesCapped
      rw [hdeclared, hbody]
    refine ⟨[], by rw [hread]; rfl, fun _ => rfl, ?_, ?_⟩
    · intro before r after h
      exact absurd h (by simp)
    · intro h
      exact absurd h (Nat.not_lt_zero maxBytes)
  | none =>
    have hnot : ¬ request.DeclaresOver maxBytes := by
      intro hover
      obtain ⟨e, he⟩ := declaredOver_iff.mpr hover
      cases hdeclared.symm.trans he
    rcases readBodyBytesCapped_cases hdeclared hbody with
      ⟨hread, hle⟩ | ⟨passed, read, unread, e, hreads, ⟨hwithin, -⟩, hread, hmore⟩
    · -- all was read, and none of it crossed the cap
      refine ⟨stream.reads, by rw [hread, List.append_nil], fun h => absurd h hnot, ?_,
        fun h => absurd h (not_lt.mpr hle)⟩
      intro before r after h
      exact (length_readBytes_le (h ▸ List.prefix_append before (r :: after))).trans hle
    · refine ⟨passed ++ [read], by rw [hread]; simp [hreads], fun h => absurd h hnot, ?_, ?_⟩
      · intro before r after h
        refine le_trans (length_readBytes_le ?_) hwithin
        -- a proper prefix ends before the last read
        have hprefix : before <+: passed ++ [read] := h ▸ List.prefix_append before (r :: after)
        rcases List.prefix_concat_iff.mp hprefix with hall | hpassed
        · rw [hall] at h
          exact absurd h (by simp)
        · exact hpassed
      · intro _ more
        rw [hread, List.append_assoc]
        exact hmore more

/-! ## The JSON of a body -/

/-- Whatever the stream does, no call on the way throws. -/
theorem readBodyBytesCapped_ne_threw (request : BodyRequest) (maxBytes : ℕ) :
    (readBodyBytesCapped request maxBytes).1 ≠ .threw := by
  cases hdeclared : declaredOver request.contentLength maxBytes with
  -- declared over the cap: nothing is read
  | some e =>
    unfold readBodyBytesCapped
    rw [hdeclared]
    cases request.body <;> exact nofun
  | none =>
    cases hbody : request.body with
    | none =>
      unfold readBodyBytesCapped
      rw [hdeclared, hbody]
      exact nofun
    | some stream =>
      rcases readBodyBytesCapped_cases hdeclared hbody with
        ⟨hread, -⟩ | ⟨_, _, _, _, -, -, hread, -⟩ <;> rw [hread] <;> exact nofun

/-! ## The cap -/

theorem cappedOutcome_ok_iff {request : BodyRequest} {maxBytes : ℕ} {bytes : List UInt8} :
    cappedOutcome request.contentLength request.bytes maxBytes = .ok bytes ↔
      ¬ request.DeclaresOver maxBytes ∧ request.bytes.length ≤ maxBytes ∧
        bytes = request.bytes := by
  unfold cappedOutcome
  rw [← declaredOver_iff]
  cases declaredOver request.contentLength maxBytes with
  | some e => exact iff_of_false nofun fun h => h.1 ⟨e, rfl⟩
  | none =>
    dsimp only
    split
    next hover => exact iff_of_false nofun fun h => absurd h.2.1 (not_le.mpr hover)
    -- within the cap, the bytes are the body's
    next hunder =>
      constructor
      · intro h
        cases h
        exact ⟨nofun, not_lt.mp hunder, rfl⟩
      · rintro ⟨-, -, rfl⟩
        rfl

/-- A body whose stream does not fail is accepted when neither its declared length nor its
    bytes are above the cap, and is then the concatenation of its chunks, wherever they were
    cut. Of any stream, the chunks kept in a state that the loop goes through are within the cap;
    every read is made within it, none after a declared length above it, and once it is crossed
    the outcome is there and the rest stays unread. -/
theorem body_cap (request : BodyRequest) (maxBytes : ℕ) :
    (request.ReadsWell →
      ((∃ bytes, (readBodyBytesCapped request maxBytes).1 = .ok bytes) ↔
        ¬ request.DeclaresOver maxBytes ∧ request.bytes.length ≤ maxBytes) ∧
      (∀ bytes, (readBodyBytesCapped request maxBytes).1 = .ok bytes → bytes = request.bytes) ∧
      ∀ other : BodyRequest, other.ReadsWell → other.contentLength = request.contentLength →
        other.bytes = request.bytes →
        (readBodyBytesCapped other maxBytes).1 = (readBodyBytesCapped request maxBytes).1) ∧
    ∀ stream, request.body = some stream →
      (∀ kept unread, Reached maxBytes stream kept unread →
        readLoop maxBytes stream.cancelFails stream.reads ⟨[], 0⟩ =
          readLoop maxBytes stream.cancelFails unread kept ∧
        (kept.chunks.map List.length).sum ≤ maxBytes) ∧
      ∃ read, ReadWithin request stream maxBytes read := by
  constructor
  · intro h
    rw [readBodyBytesCapped_eq h]
    refine ⟨?_, ?_, ?_⟩
    · constructor
      · rintro ⟨bytes, hok⟩
        obtain ⟨hdeclared, hlength, -⟩ := cappedOutcome_ok_iff.mp hok
        exact ⟨hdeclared, hlength⟩
      · intro ⟨hdeclared, hlength⟩
        exact ⟨request.bytes, cappedOutcome_ok_iff.mpr ⟨hdeclared, hlength, rfl⟩⟩
    · intro bytes hok
      exact (cappedOutcome_ok_iff.mp hok).2.2
    · intro other hother hdeclared hbytes
      rw [readBodyBytesCapped_eq hother, hdeclared, hbytes]
  -- what is kept while reading is within the cap at every moment
  · intro stream hbody
    refine ⟨?_, readBodyBytesCapped_reads hbody⟩
    intro kept unread hreached
    refine ⟨hreached.readLoop_eq, ?_⟩
    obtain ⟨reads, -, hkept⟩ := hreached.keptOf
    rw [← List.length_flatten, hkept.chunks, ← hkept.total]
    exact hkept.le

/-- A body that is longer than declared and exactly as long as the cap, and one that crosses
    its cap with its second chunk. -/
theorem body_cap_sample :
    (∃ bytes, (readBodyBytesCapped ⟨some "3", some ⟨[.chunk (some [1, 2]), .chunk (some []),
      .chunk none, .chunk (some [3, 4, 5])], false⟩⟩ 5).1 = .ok bytes) ∧
    ∀ more, readBodyBytesCapped ⟨none, some ⟨[.chunk (some [1, 2]), .chunk (some [3])] ++ more,
      false⟩⟩ 2 = (.refused (overCap 2), more) := by
  constructor
  -- five bytes in chunks, one of them empty and one without a value
  · refine ((body_cap _ 5).1 ?_).1.mpr ⟨?_, by decide⟩
    · rintro stream ⟨⟩
      simp
    · have hnone : declaredOver (some "3") 5 = none := by decide +kernel
      rw [← declaredOver_iff]
      rintro ⟨e, he⟩
      cases hnone.symm.trans he
  -- the second chunk crosses a cap of two, and nothing after it is read
  · obtain ⟨read, hread⟩ := ((body_cap ⟨none, some ⟨[.chunk (some [1, 2]),
      .chunk (some [3])], false⟩⟩ 2).2 _ rfl).2
    obtain rfl : read = [.chunk (some [1, 2]), .chunk (some [3])] := by
      have hrest := hread.rest
      rw [show (readBodyBytesCapped _ 2).2 = [] from rfl, List.append_nil] at hrest
      exact hrest.symm
    exact fun more => hread.crossed (by decide) more

end ControlPlane
