import ControlPlane.ForStd.DecimalText
import ControlPlane.Model.CatalogRefresh

/-!
# Decimal USD

`microUsdFromUsd` of `src/aig-logs.ts` and `microUsdPerMTokFromUsdPerToken` of
`src/aig-models.ts`: the same conversion written twice, from the text of a number to whole
micro-USD, rounded up.
-/

namespace ControlPlane

namespace AigLogs

/-- A cost as it comes in a log. -/
inductive RawUsd where
  /-- A number, by its `toString()`; `none` where it is not finite. -/
  | number (text : Option String)
  | string (text : String)
  | other
deriving Repr, DecidableEq

/-- The text of a cost. -/
def RawUsd.text : RawUsd → Option String
  | .number text => text
  | .string text => some (JsString.trim text)
  | .other => none

/-- A non-negative decimal string as `digits × 10^exponent`. -/
def decimalParts (text : String) : Option (Nat × Int) :=
  match DecimalText.exec text.toList with
  | none => none
  | some groups =>
    let intPart := groups.whole
    let fracPart := groups.fraction.getD []
    if intPart = [] ∧ fracPart = [] then none
    else
      let exponent := (groups.exponent.map DecimalText.signed).getD 0
      if 60 < exponent.natAbs then none
      else
        let digits := (if intPart = [] then ['0'] else intPart) ++ fracPart
        some (DecimalText.number digits, exponent - (fracPart.length : Int))

/-- Refuse a value that is no exact JavaScript integer. -/
def withinSafeRange (value : Nat) : Option Nat :=
  if MAX_SAFE_INTEGER < value then none else some value

/-- A decimal USD value as whole micro-USD. -/
def microUsdFromUsd (raw : RawUsd) : Option Nat :=
  match raw.text with
  | none => none
  | some text =>
    if text = "" then none
    else
      match decimalParts text with
      | none => none
      | some (digits, exponent) =>
        let exponent := exponent + 6
        if 0 ≤ exponent then withinSafeRange (digits * 10 ^ exponent.toNat)
        else
          let divisor := 10 ^ (-exponent).toNat
          let whole := digits / divisor
          let remainder := digits % divisor
          -- rounded up: a charge is never below what was billed
          withinSafeRange (if remainder = 0 then whole else whole + 1)

example : microUsdFromUsd (.string " 1.5E-3 ") = some 1500 := by decide +kernel

end AigLogs

/-- A JavaScript number. -/
inductive JsNumber where
  | notFinite
  /-- A finite number, and its `toString()`. -/
  | finite (value : Rat) (text : String)
deriving Repr, DecidableEq

namespace AigModels

/-- USD per token as whole micro-USD per million tokens. -/
def microUsdPerMTokFromUsdPerToken : JsNumber → Option Nat
  | .notFinite => none
  | .finite usdPerToken text =>
    if usdPerToken < 0 then none
    else if usdPerToken = 0 then some 0
    else
      match DecimalText.exec text.toList with
      | none => none
      | some groups =>
        let intPart := groups.whole
        let fracPart := groups.fraction.getD []
        if intPart = [] ∧ fracPart = [] then none
        else
          let expAdj := (groups.exponent.map DecimalText.signed).getD 0
          if 60 < expAdj.natAbs then none
          else
            let digits := DecimalText.number ((if intPart = [] then ['0'] else intPart) ++ fracPart)
            let exponent := expAdj - (fracPart.length : Int) + 12
            let scaled :=
              if 0 ≤ exponent then digits * 10 ^ exponent.toNat
              else
                let divisor := 10 ^ (-exponent).toNat
                let whole := digits / divisor
                let remainder := digits % divisor
                if remainder = 0 then whole else whole + 1
            if MAX_SAFE_INTEGER < scaled then none else some scaled

example : microUsdPerMTokFromUsdPerToken (.finite (51 / 1000000000) "5.1e-8") = some 51000 := by
  decide +kernel

end AigModels

end ControlPlane
