import ControlPlane.Model.Media

/-!
# Ids, secrets and their hashes

`src/crypto.ts`. The random bytes of the platform and its SHA-256 are parameters.
-/

namespace ControlPlane

/-- `b.toString(16).padStart(2, "0")` for every byte. -/
def hexText (bytes : List UInt8) : String :=
  String.ofList (bytes.flatMap fun b =>
    [Nat.digitChar (b.toNat / 16), Nat.digitChar (b.toNat % 16)])

/-- Hex of SHA-256 over the UTF-8 bytes of `value`. -/
def sha256Hex (sha256 : List UInt8 → List UInt8) (value : String) : String :=
  hexText (sha256 (TextEncoder.encode value))

/-- Prefixed opaque id. -/
def newId (kind : String) (random : Vector UInt8 6) : String := kind ++ "_" ++ hexText random.toList

/-- `newRequestId` of `src/http.ts`. -/
def newRequestId (random : Vector UInt8 12) : String := "req_" ++ hexText random.toList

/-- The indexed, non-secret half of a client key. -/
def newKeyId (random : Vector UInt8 8) : String := hexText random.toList

/-- A URL-safe secret of 32 random bytes. -/
def randomSecret (random : Vector UInt8 32) : String := Media.b64url random.toList

/-- Equality of two texts that reads every position. -/
def constantTimeEqual (a b : String) : Bool :=
  let xs := Utf16.encode a
  let ys := Utf16.encode b
  if xs.length ≠ ys.length then false
  else (xs.zip ys).foldl (fun diff p => diff ||| (p.1 ^^^ p.2)) 0 == 0

/-- No bit is set exactly when no pair differs. -/
theorem foldl_xor_eq_zero (ps : List (UInt16 × UInt16)) (diff : UInt16) :
    ps.foldl (fun diff p => diff ||| (p.1 ^^^ p.2)) diff = 0 ↔
      diff = 0 ∧ ∀ p ∈ ps, p.1 = p.2 := by
  induction ps generalizing diff with
  | nil => simp
  | cons p ps ih =>
    rw [List.foldl_cons, ih, UInt16.or_eq_zero_iff, UInt16.xor_eq_zero_iff, List.forall_mem_cons,
      and_assoc]

/-- The comparison answers whether the texts are equal. -/
theorem constantTimeEqual_iff (a b : String) : constantTimeEqual a b = true ↔ a = b := by
  unfold constantTimeEqual
  constructor
  · intro h
    dsimp only at h
    split at h
    · cases h
    next hlen =>
      -- no position differs, so the code units are the same
      have hall := ((foldl_xor_eq_zero _ 0).mp (beq_iff_eq.mp h)).2
      refine Utf16.encode_injective (List.ext_getElem (not_not.mp hlen) fun i hi hi' => ?_)
      have hmem : ((Utf16.encode a)[i], (Utf16.encode b)[i]) ∈
          (Utf16.encode a).zip (Utf16.encode b) := by
        rw [← List.getElem_zip (h := by rw [List.length_zip]; omega)]
        exact List.getElem_mem _
      exact hall _ hmem
  · rintro rfl
    dsimp only
    rw [if_neg (by simp), beq_iff_eq, foldl_xor_eq_zero]
    refine ⟨rfl, fun p hp => ?_⟩
    obtain ⟨i, hi, rfl⟩ := List.getElem_of_mem hp
    simp

end ControlPlane
