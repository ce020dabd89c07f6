/-!
# Store products

`src/store-products.ts`: the prepaid credit each App Store product id is worth.
-/

namespace ControlPlane

/-- The bundle the purchases belong to. -/
def appleBundleId : String := "org.skyphusion.prism"

/-- Whole USD credit per product id. -/
def storeProductCreditUsd : List (String × Nat) :=
  [("org.skyphusion.prism.credit.5", 5),
    ("org.skyphusion.prism.credit.20", 20),
    ("org.skyphusion.prism.credit.50", 50)]

/-- The names every object literal inherits, which `in` finds on any map. -/
def objectPrototypeKeys : List String :=
  ["constructor", "__defineGetter__", "__defineSetter__", "hasOwnProperty", "__lookupGetter__",
    "__lookupSetter__", "isPrototypeOf", "propertyIsEnumerable", "toString", "valueOf",
    "__proto__", "toLocaleString"]

/-- Micro-USD of a product. An inherited name is a function or an object, which
    is not a finite number. -/
def creditMicroUsdForProduct (productId : String) : Option Int :=
  match storeProductCreditUsd.lookup productId with
  | none => none
  | some usd => if usd = 0 then none else some (usd * 1000000)

/-- `productId in STORE_PRODUCT_CREDIT_USD`. -/
def isKnownStoreProduct (productId : String) : Bool :=
  (storeProductCreditUsd.map Prod.fst).contains productId ||
    objectPrototypeKeys.contains productId

/-- A product that is worth something is known. -/
theorem isKnownStoreProduct_of_credit {productId : String} {micro : Int}
    (h : creditMicroUsdForProduct productId = some micro) :
    isKnownStoreProduct productId = true := by
  have hsome : (storeProductCreditUsd.lookup productId).isSome := by
    unfold creditMicroUsdForProduct at h
    split at h
    · cases h
    next usd hlookup => simp [hlookup]
  have hmem : productId ∈ storeProductCreditUsd.map Prod.fst := by
    simpa [List.lookup_isSome_iff] using hsome
  rw [isKnownStoreProduct, List.contains_iff_mem.mpr hmem, Bool.true_or]

end ControlPlane
