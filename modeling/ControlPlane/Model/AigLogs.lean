/-!
# The gateway log feed

`src/aig-logs.ts`, as reconciliation reads it: one page of parsed rows at a
time, behind the seam the run is given.
-/

namespace ControlPlane

/-- One gateway log row, in this plane's units and naming. -/
structure GatewayLogRow where
  id : String
  /-- The instant Cloudflare stamped on the row. -/
  createdAt : Int
  model : Option String
  cached : Bool
  /-- None when the row carries no usable cost. Unknown is not zero. -/
  costMicroUsd : Option Int
  requestId : Option String
  accountId : Option String
deriving Repr, DecidableEq

/-- One page of the feed: the rows that could be read, and how many could not. -/
structure GatewayLogPage where
  rows : List GatewayLogRow
  malformed : Nat
deriving Repr, DecidableEq

/-- The seam reconciliation reads through. `listSince sinceIso page perPage` is
    one page, or the message of the error the request ended in. -/
structure GatewayLogSource where
  gatewayId : String
  listSince : Int → Nat → Nat → Except String GatewayLogPage

/-- Cloudflare's cap on a page. -/
def maxPerPage : Nat := 50

end ControlPlane
