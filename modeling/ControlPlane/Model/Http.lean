import Mathlib.Data.Rat.Defs

/-!
# Request bodies and error answers

`src/http.ts`, as far as the modelled routes use it: a parsed JSON body with the
`typeof` reads the routes make on it, and the error codes they answer with.
-/

namespace ControlPlane

/-- A value `JSON.parse` returns. A number is the rational its double denotes. -/
inductive Json where
  | null
  | bool (value : Bool)
  | num (value : Rat)
  | str (value : String)
  | arr (items : List Json)
  | obj (fields : List (String × Json))

namespace Json

/-- `raw[name]`, for a `raw` that is not a string or an array read by index. -/
def field (raw : Json) (name : String) : Option Json :=
  match raw with
  | .obj fields => fields.lookup name
  | _ => none

/-- The string a field holds, when `typeof raw[name] === "string"`. -/
def strField (raw : Json) (name : String) : Option String :=
  match raw.field name with
  | some (.str value) => some value
  | _ => none

/-- The integer a field holds, when `Number.isInteger(raw[name])`. -/
def intField (raw : Json) (name : String) : Option Int :=
  match raw.field name with
  | some (.num value) => if value.den = 1 then some value.num else none
  | _ => none

end Json

/-- The error codes of the plane. -/
inductive ErrorCode where
  | invalidRequest
  | unauthenticated
  | clientRevoked
  | forbidden
  | modelNotEntitled
  | modelNotFound
  | modelUnpriced
  | modelUnsupported
  | notFound
  | payloadTooLarge
  | rateLimited
  | quotaExhausted
  | notImplemented
  | upstreamError
  | upstreamTimeout
  | unavailable
  | internal
deriving Repr, DecidableEq

/-- An error answer: its code and its message. -/
structure ApiError where
  code : ErrorCode
  message : String
deriving Repr, DecidableEq

/-- The refusal most routes answer a bad body with. -/
def invalidRequest (message : String) : ApiError := ⟨.invalidRequest, message⟩

/-- A sequence of checks that succeeds has succeeded at each. -/
theorem bind_ok {ε α β : Type} {x : Except ε α} {f : α → Except ε β} {b : β}
    (h : x >>= f = .ok b) : ∃ a, x = .ok a ∧ f a = .ok b := by
  cases x with
  | error e => cases h
  | ok a => exact ⟨a, rfl, h⟩

end ControlPlane
