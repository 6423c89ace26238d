import AcbuBackend.Numeric.SignificantDigits
import AcbuBackend.Runtime.Errors
import Mathlib.Algebra.Order.Field.Rat

/-! The split of a USDC amount over the basket, in integer units.
Each currency gets its share rounded down; the units that are left go to the shares with the
largest remainders.
-/

namespace AcbuBackend.Conversion

open Numeric AcbuBackend.Runtime

structure BasketEntry where
  currency : String
  weight : ℚ

structure BasketShareAllocation where
  currency : String
  weight : ℚ
  amountAtomic : ℤ
  amountDecimal : ℚ
  amount : ℚ
deriving DecidableEq

def USDC_CONVERSION_DECIMALS : Nat := 7

/-- The significant digits to which the decimal library rounds a product or a quotient, by default.
-/
def DECIMAL_PRECISION : Nat := 20

/-- `BigInt(x.toFixed(0, Decimal.ROUND_DOWN))`. -/
def toBigIntDown (x : ℚ) : ℤ :=
  if 0 ≤ x then ⌊x⌋ else ⌈x⌉

/-- An entry with its integer weight and its share so far. -/
structure ShareEntry where
  entry : BasketEntry
  weightInt : ℤ
  remainder : ℤ
  finalAtomic : ℤ

/-- A weight in units of a hundredth of a basis point. A weight is a number of 17 digits at most, so
the product is exact.
-/
def weightInt (entry : BasketEntry) : ℤ :=
  toBigIntDown (entry.weight * 10000)

/-- The share of an entry rounded down, and what the division leaves. -/
def baseShare (totalAtomic totalWeight : ℤ) (entry : BasketEntry) : ShareEntry :=
  let product := totalAtomic * weightInt entry
  { entry
    weightInt := weightInt entry
    remainder := product.tmod totalWeight
    finalAtomic := product.tdiv totalWeight }

/-- Whether share `i` is served before share `j`: by remainder, by weight, by position. -/
def servedBefore (shares : List ShareEntry) (i j : Nat) : Bool :=
  match shares[i]?, shares[j]? with
  | some a, some b =>
      if a.remainder ≠ b.remainder then b.remainder < a.remainder
      else if a.weightInt ≠ b.weightInt then b.weightInt < a.weightInt
      else i ≤ j
  | _, _ => i ≤ j

def sortedIndices (shares : List ShareEntry) : List Nat :=
  (List.range shares.length).mergeSort (servedBefore shares)

def ShareEntry.addUnit (share : ShareEntry) : ShareEntry :=
  { share with finalAtomic := share.finalAtomic + 1 }

/-- One unit each to the first shares of the order, which starts over at its end. -/
def addResidual (order : List Nat) (residual : Nat) (shares : List ShareEntry) : List ShareEntry :=
  (List.range residual).foldl
    (fun shares k => shares.modify (order.getD (k % order.length) 0) ShareEntry.addUnit) shares

def ShareEntry.allocation (decimals : Nat) (share : ShareEntry) : BasketShareAllocation :=
  let shareDecimal := roundToDigits DECIMAL_PRECISION (share.finalAtomic / 10 ^ decimals)
  { currency := share.entry.currency
    weight := share.entry.weight
    amountAtomic := share.finalAtomic
    amountDecimal := shareDecimal
    amount := shareDecimal }

def distribute (totalAtomic : ℤ) (basket : List BasketEntry) (decimals : Nat)
    : Except JsError (List BasketShareAllocation) :=
  let totalWeight := (basket.map weightInt).sum
  if totalWeight ≤ 0 then .error (.error "Total basket weight must be positive")
  else
    let shares := basket.map (baseShare totalAtomic totalWeight)
    let residual := totalAtomic - (shares.map (·.finalAtomic)).sum
    .ok ((addResidual (sortedIndices shares) residual.toNat shares).map
      (ShareEntry.allocation decimals))

/-- `calculateBasketDistribution`, of an amount that has been parsed. -/
def calculateBasketDistribution (usdcAmount : ℚ) (basket : List BasketEntry)
    (decimals : Nat := USDC_CONVERSION_DECIMALS)
    : Except JsError (List BasketShareAllocation) :=
  let totalAtomic := toBigIntDown (roundToDigits DECIMAL_PRECISION (usdcAmount * 10 ^ decimals))
  match basket with
  | [] => .ok []
  | entry :: rest =>
      if usdcAmount ≤ 0 ∨ totalAtomic ≤ 0 then .ok []
      else if rest = [] then
        .ok [
          { currency := entry.currency
            weight := entry.weight
            amountAtomic := totalAtomic
            amountDecimal := usdcAmount
            amount := usdcAmount }]
      else distribute totalAtomic basket decimals

end AcbuBackend.Conversion
