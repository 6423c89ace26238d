import AcbuBackend.Rates.AcbuRates

/-! Conversion of local amounts to USD through the stored ACBU rates. -/

namespace AcbuBackend.Rates

open AcbuBackend.Runtime

/-- `CURRENCY_TO_RATE_FIELD`: the column a currency is read from. -/
def currencyToRateField (currency : String) : Option (AcbuRate → Option ℚ) :=
  match currency with
  | "NGN" => some AcbuRate.acbuNgn
  | "ZAR" => some AcbuRate.acbuZar
  | "KES" => some AcbuRate.acbuKes
  | "EGP" => some AcbuRate.acbuEgp
  | "GHS" => some AcbuRate.acbuGhs
  | "RWF" => some AcbuRate.acbuRwf
  | "XOF" => some AcbuRate.acbuXof
  | "MAD" => some AcbuRate.acbuMad
  | "TZS" => some AcbuRate.acbuTzs
  | "UGX" => some AcbuRate.acbuUgx
  | "EUR" => some AcbuRate.acbuEur
  | "GBP" => some AcbuRate.acbuGbp
  | "USD" => some (fun row => some row.acbuUsd)
  | _ => none

/-- The result of `convertLocalToUsdWithPrecision`. -/
structure ConversionResult where
  usdAmountDecimal : ℚ
  usdAmount : ℚ
  originalAmount : ℚ
  acbuEquivalent : ℚ

def unsupportedCurrency (currency : String) : JsError :=
  plainAppError
    s!"Currency {currency} not supported for conversion. Please check the supported currency list."
    400

def ratesNotAvailable : JsError :=
  plainAppError "Exchange rates not yet available. Please try again in a moment." 503

def invalidExchangeRate (currency : String) : JsError :=
  plainAppError
    s!"Exchange rate for {currency} is not available or invalid. Cannot process deposit at this time."
    503

def invalidUsdRate : JsError :=
  plainAppError "USD conversion rate is invalid. Cannot process deposit at this time." 503

/-- The checks and the arithmetic both conversions share, on the row the cache answered
with.
-/
def convertAtRate (latestRate : Option AcbuRate) (localAmount : ℚ) (currency : String)
    : Except JsError ConversionResult :=
  match currencyToRateField currency, latestRate with
  | none, _ => .error (unsupportedCurrency currency)
  | some _, none => .error ratesNotAvailable
  | some rateField, some latestRate =>
      match rateField latestRate with
      | none => .error (invalidExchangeRate currency)
      | some localToAcbuRate =>
          if localToAcbuRate ≤ 0 then .error (invalidExchangeRate currency)
          else if latestRate.acbuUsd ≤ 0 then .error invalidUsdRate
          else
            let acbuAmount := localAmount / localToAcbuRate
            let usdAmount := acbuAmount * latestRate.acbuUsd
            .ok
              { usdAmountDecimal := usdAmount
                usdAmount
                originalAmount := localAmount
                acbuEquivalent := acbuAmount }

/-- `convertLocalToUsdWithPrecision`. The rates are not read for an unknown currency. -/
def convertLocalToUsdWithPrecision (now : ℤ) (s : RateState) (localAmount : ℚ)
    (currency : String)
    : Except JsError ConversionResult × RateState :=
  if (currencyToRateField currency).isNone then (convertAtRate none localAmount currency, s)
  else
    let (latestRate, s') := getLatestAcbuRate now s
    (convertAtRate latestRate localAmount currency, s')

def convertLocalToUsd (now : ℤ) (s : RateState) (localAmount : ℚ) (currency : String)
    : Except JsError ℚ × RateState :=
  if (currencyToRateField currency).isNone then
    ((convertAtRate none localAmount currency).map (·.usdAmount), s)
  else
    let (latestRate, s') := getLatestAcbuRate now s
    ((convertAtRate latestRate localAmount currency).map (·.usdAmount), s')

theorem convertAtRate_eq_ok_iff {row : AcbuRate} {localAmount : ℚ} {currency : String}
    {result : ConversionResult}
    : convertAtRate (some row) localAmount currency = .ok result
      ↔ ∃ rateField rate,
          currencyToRateField currency = some rateField
          ∧ rateField row = some rate
          ∧ 0 < rate
          ∧ 0 < row.acbuUsd
          ∧ result =
              { usdAmountDecimal := localAmount / rate * row.acbuUsd
                usdAmount := localAmount / rate * row.acbuUsd
                originalAmount := localAmount
                acbuEquivalent := localAmount / rate } := by
  unfold convertAtRate
  cases currencyToRateField currency with
  | none => simp
  | some rateField =>
      cases column : rateField row with
      | none => simp [column]
      | some rate =>
          by_cases rateBad : rate ≤ 0
          · simp [column, rateBad, not_lt.mpr rateBad]
          · by_cases usdBad : row.acbuUsd ≤ 0
            · simp [column, rateBad, usdBad, not_lt.mpr usdBad]
            · simp [column, rateBad, usdBad, not_le.mp rateBad, not_le.mp usdBad, eq_comm]

theorem convertLocalToUsd_fst {now : ℤ} {s : RateState} {localAmount : ℚ} {currency : String}
    : (convertLocalToUsd now s localAmount currency).1
      = (convertAtRate (getLatestAcbuRate now s).1 localAmount currency).map (·.usdAmount) := by
  unfold convertLocalToUsd
  cases field : currencyToRateField currency <;> simp [convertAtRate, field]

theorem convertLocalToUsdWithPrecision_fst {now : ℤ} {s : RateState} {localAmount : ℚ}
    {currency : String}
    : (convertLocalToUsdWithPrecision now s localAmount currency).1
      = convertAtRate (getLatestAcbuRate now s).1 localAmount currency := by
  unfold convertLocalToUsdWithPrecision
  cases field : currencyToRateField currency <;> simp [convertAtRate, field]

end AcbuBackend.Rates
