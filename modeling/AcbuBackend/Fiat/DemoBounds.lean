import AcbuBackend.Investment.Model
import AcbuBackend.Units.ContractAmount

/-! The bounds of a demo mint, at the rate of the oracle.
The value of an amount is cut off to whole units before it is compared, and the bounds that are
quoted are cut off in the currency. Both agree but for values in the last unit below the maximum.
-/

namespace AcbuBackend.Fiat

open Investment AcbuBackend.Runtime AcbuBackend.Units

def DECIMALS_7 : ℚ := 10 ^ 7

def DECIMALS_7_BIGINT : ℤ := 10000000

/-- One dollar in units of seven decimals. -/
def MIN_MINT_USD_7 : ℤ := 10000000

/-- 100,000 dollars in units of seven decimals. -/
def MAX_MINT_USD_7 : ℤ := 1000000000000

def divCeil (a b : ℤ) : ℤ :=
  (a + b - 1).tdiv b

-- Numbers of the message

/-- A number divided by another that is not zero. -/
def divNumber (x : JsNumber) (divisor : ℚ) : JsNumber :=
  match x with
  | .finite value => numberValue (value / divisor)
  | x => x

/-- `Number(s)`, as a double. -/
def toNumber (s : String) : JsNumber :=
  match jsNumber s with
  | .finite value => numberValue value
  | x => x

/-- `toFixed(2)` of a number. -/
def numberToFixed2 (x : JsNumber) : String :=
  match x with
  | .finite value => if |value| < 10 ^ 21 then toFixed2 value else numberToString x
  | x => numberToString x

-- The check

def minFiatI128 (rate : ℤ) : ℤ :=
  divCeil (MIN_MINT_USD_7 * DECIMALS_7_BIGINT) rate

def maxFiatI128 (rate : ℤ) : ℤ :=
  (MAX_MINT_USD_7 * DECIMALS_7_BIGINT).tdiv rate

/-- What is thrown inside the check. -/
inductive DemoError
  | invalidMintAmount (message : String)
  | other (error : JsError)
deriving DecidableEq

def invalidMintAmountMessage (currency fiatAmountI128 : String) (rate usdGross : ℤ) : String :=
  let minFiat := divNumber (numberValue (minFiatI128 rate)) DECIMALS_7
  let maxFiat := divNumber (numberValue (maxFiatI128 rate)) DECIMALS_7
  let requestedFiat := divNumber (toNumber fiatAmountI128) DECIMALS_7
  let usdApprox := divNumber (numberValue usdGross) DECIMALS_7
  s!"Invalid mint amount for {currency}: {numberToString requestedFiat} converts to "
    ++ s!"~{numberToFixed2 usdApprox} USD. Allowed range is {numberToFixed2 minFiat} to "
    ++ s!"{numberToFixed2 maxFiat} {currency}."

/-- The body of the `try`, from the answer of the oracle. -/
def checkDemoMintAmount (getRate : Except JsError String) (currency fiatAmountI128 : String)
    : Except DemoError Unit := do
  let rateText ← getRate.mapError DemoError.other
  let rate ← (stringToBigInt rateText).mapError DemoError.other
  if rate ≤ 0 then return ()
  else
    let fiat ← (stringToBigInt fiatAmountI128).mapError DemoError.other
    let usdGross := (fiat * rate).tdiv DECIMALS_7_BIGINT
    if MIN_MINT_USD_7 ≤ usdGross ∧ usdGross ≤ MAX_MINT_USD_7 then return ()
    else throw (.invalidMintAmount (invalidMintAmountMessage currency fiatAmountI128 rate usdGross))

/-- `validateDemoMintAmount`. Other errors than of the amount are ignored. -/
def validateDemoMintAmount (getRate : Except JsError String) (currency fiatAmountI128 : String)
    : Except DemoError Unit :=
  match checkDemoMintAmount getRate currency fiatAmountI128 with
  | .error (.other _) => .ok ()
  | result => result

-- Accepted amounts

section

variable {rate fiat : ℤ} {rateText fiatAmountI128 currency : String}

theorem accepted_iff (rateRead : stringToBigInt rateText = .ok rate) (rates : 0 < rate)
    (fiatRead : stringToBigInt fiatAmountI128 = .ok fiat)
    : validateDemoMintAmount (.ok rateText) currency fiatAmountI128 = .ok ()
      ↔ MIN_MINT_USD_7 ≤ (fiat * rate).tdiv DECIMALS_7_BIGINT
        ∧ (fiat * rate).tdiv DECIMALS_7_BIGINT ≤ MAX_MINT_USD_7 := by
  have checked : checkDemoMintAmount (.ok rateText) currency fiatAmountI128
      = if MIN_MINT_USD_7 ≤ (fiat * rate).tdiv DECIMALS_7_BIGINT
          ∧ (fiat * rate).tdiv DECIMALS_7_BIGINT ≤ MAX_MINT_USD_7 then .ok ()
        else .error (.invalidMintAmount (invalidMintAmountMessage currency fiatAmountI128 rate
          ((fiat * rate).tdiv DECIMALS_7_BIGINT))) := by
    unfold checkDemoMintAmount
    simp only [Except.mapError, rateRead, fiatRead, bind, Except.bind, if_neg rates.not_ge]
    rfl
  unfold validateDemoMintAmount
  rw [checked]
  by_cases within : MIN_MINT_USD_7 ≤ (fiat * rate).tdiv DECIMALS_7_BIGINT
      ∧ (fiat * rate).tdiv DECIMALS_7_BIGINT ≤ MAX_MINT_USD_7
  · rw [if_pos within]
    exact iff_of_true rfl within
  · rw [if_neg within]
    refine iff_of_false (fun accepted => ?_) within
    cases accepted

/-- The quoted minimum is the least amount that is worth a dollar. -/
theorem minFiatI128_le_iff (rates : 0 < rate)
    : minFiatI128 rate ≤ fiat ↔ MIN_MINT_USD_7 * DECIMALS_7_BIGINT ≤ fiat * rate := by
  have nonneg : 0 ≤ MIN_MINT_USD_7 * DECIMALS_7_BIGINT + rate - 1 := by
    have : (0 : ℤ) ≤ MIN_MINT_USD_7 * DECIMALS_7_BIGINT := by decide
    omega
  rw [minFiatI128, divCeil, Int.tdiv_eq_ediv_of_nonneg nonneg, ← Int.lt_add_one_iff,
    Int.ediv_lt_iff_lt_mul rates, Int.add_mul]
  omega

/-- The quoted maximum is the greatest amount that is worth no more than 100,000 dollars. -/
theorem le_maxFiatI128_iff (rates : 0 < rate)
    : fiat ≤ maxFiatI128 rate ↔ fiat * rate ≤ MAX_MINT_USD_7 * DECIMALS_7_BIGINT := by
  rw [maxFiatI128, Int.tdiv_eq_ediv_of_nonneg (by decide), Int.le_ediv_iff_mul_le rates]

/-- An amount is accepted exactly when it is within the quoted bounds, unless its value is above
100,000 dollars by less than one unit.
-/
theorem accepted_within_quoted_iff (rateRead : stringToBigInt rateText = .ok rate)
    (rates : 0 < rate) (fiatRead : stringToBigInt fiatAmountI128 = .ok fiat) (positive : 0 < fiat)
    : (validateDemoMintAmount (.ok rateText) currency fiatAmountI128 = .ok ()
        ↔ minFiatI128 rate ≤ fiat ∧ fiat ≤ maxFiatI128 rate)
      ↔ ¬ (MAX_MINT_USD_7 * DECIMALS_7_BIGINT < fiat * rate
          ∧ fiat * rate < (MAX_MINT_USD_7 + 1) * DECIMALS_7_BIGINT) := by
  have unit : 0 < DECIMALS_7_BIGINT := by decide
  have value : 0 ≤ fiat * rate := (Int.mul_pos positive rates).le
  have wide : MIN_MINT_USD_7 * DECIMALS_7_BIGINT ≤ MAX_MINT_USD_7 * DECIMALS_7_BIGINT := by decide
  rw [accepted_iff rateRead rates fiatRead, minFiatI128_le_iff rates, le_maxFiatI128_iff rates,
    Int.tdiv_eq_ediv_of_nonneg value, Int.le_ediv_iff_mul_le unit,
    ← @Int.lt_add_one_iff _ MAX_MINT_USD_7, Int.ediv_lt_iff_lt_mul unit]
  have step : MAX_MINT_USD_7 * DECIMALS_7_BIGINT < (MAX_MINT_USD_7 + 1) * DECIMALS_7_BIGINT := by
    decide
  constructor
  · rintro same ⟨above, below⟩
    exact above.not_ge (same.mp ⟨wide.trans above.le, below⟩).2
  · intro apart
    refine and_congr_right fun _ => ⟨fun below => ?_, fun below => below.trans_lt step⟩
    by_contra above
    exact apart ⟨not_le.mp above, below⟩

end

theorem accepted_within_quoted_naira
    : (validateDemoMintAmount (.ok "6500") "NGN" "153846153846153" = .ok ()
        ↔ minFiatI128 6500 ≤ 153846153846153 ∧ 153846153846153 ≤ maxFiatI128 6500)
      ↔ ¬ (MAX_MINT_USD_7 * DECIMALS_7_BIGINT < 153846153846153 * 6500
          ∧ 153846153846153 * 6500 < (MAX_MINT_USD_7 + 1) * DECIMALS_7_BIGINT) :=
  accepted_within_quoted_iff (by decide +kernel) (by decide) (by decide +kernel) (by decide)

/-- At 0.00065 dollars, an amount is accepted that is one unit above the quoted maximum. -/
theorem accepted_above_quoted
    : validateDemoMintAmount (.ok "6500") "NGN" "1538461538461539" = .ok ()
      ∧ maxFiatI128 6500 = 1538461538461538 := by
  decide +kernel

end AcbuBackend.Fiat
